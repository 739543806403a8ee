import Usbmuxd.Model.Loop
import Usbmuxd.Registry.Registry

/-!
# The registry of a world

What the records of a world say about each other, and how often each has been released
according to the log.

## What is proved

* `registry_setConn` and its like — a change of a record is a change of its entry.
* `registry_…` — sending, receiving and queueing leave the registry alone. What is left
  are the few functions that change who belongs to whom.
-/

namespace Usbmuxd

open World

/-- The entry of a connection. -/
def MuxConnection.entry (conn : MuxConnection) : ConnEntry := ⟨conn.dev, conn.client, conn.state⟩

/-- The entry of a client. -/
def MuxClient.entry (client : MuxClient) : ClientEntry :=
  ⟨client.state, client.connectDevice, client.ibBuf.isSome, client.state ≠ .connected && client.events.pollin⟩

/-- The entry of a device. -/
def MuxDevice.entry (dev : MuxDevice) : DevEntry := ⟨dev.usbdev, dev.id, dev.state, dev.connections⟩

/-- The registry counts such entries of the log. -/
def Event.isCounted : Event → Bool
  | .freeConn _ | .freeClient _ | .closeSocket _ | .freeDev _ | .outOfFuel .teardown | .outOfFuel .flush => true
  | _ => false

/-- The registry of a world. -/
@[simps]
def World.registry (w : World) : Registry where
  conns p := (w.conns p).entry
  clients c := (w.clients c).entry
  devs d := (w.devs d).entry
  clientList := w.clientList
  deviceList := w.deviceList
  nextDeviceId := w.nextDeviceId
  fresh := w.fresh
  freedConn p := w.log.count (.freeConn p)
  freedClient c := w.log.count (.freeClient c)
  closedSocket c := w.log.count (.closeSocket c)
  freedDev d := w.log.count (.freeDev d)
  cutShort := w.log.count (.outOfFuel .teardown) + w.log.count (.outOfFuel .flush)

@[simp] theorem MuxConnection.entry_client (conn : MuxConnection) : conn.entry.client = conn.client := rfl

@[simp] theorem MuxConnection.entry_state (conn : MuxConnection) : conn.entry.state = conn.state := rfl

@[simp] theorem MuxConnection.entry_dev (conn : MuxConnection) : conn.entry.dev = conn.dev := rfl

@[simp] theorem MuxClient.entry_state (client : MuxClient) : client.entry.state = client.state := rfl

@[simp] theorem MuxClient.entry_connectDevice (client : MuxClient) :
    client.entry.connectDevice = client.connectDevice := rfl

@[simp] theorem MuxClient.entry_hasIbBuf (client : MuxClient) : client.entry.hasIbBuf = client.ibBuf.isSome := rfl

@[simp] theorem MuxDevice.entry_id (dev : MuxDevice) : dev.entry.id = dev.id := rfl

@[simp] theorem MuxDevice.entry_state (dev : MuxDevice) : dev.entry.state = dev.state := rfl

@[simp] theorem MuxDevice.entry_connections (dev : MuxDevice) : dev.entry.connections = dev.connections := rfl

/-- The states of the clients are part of the registry. -/
theorem state_eq {w w' : World} (h : w'.registry = w.registry) (c : Ptr) :
    (w'.clients c).state = (w.clients c).state :=
  congrArg ClientEntry.state (congrFun (congrArg Registry.clients h) c)

section Updates

variable (w : World)

@[simp] theorem registry_connections (d : Ptr) : w.registry.connections d = w.connections d := rfl

@[simp] theorem registry_tock : w.tock.registry = w.registry := rfl

theorem registry_emit {e : Event} (h : e.isCounted = false) : (w.emit e).registry = w.registry := by
  have hcount : ∀ x : Event, x.isCounted = true → (w.log ++ [e]).count x = w.log.count x := by
    intro x hx
    have hne : e ≠ x := by
      rintro rfl
      simp [h] at hx
    simp [hne]
  unfold registry
  simp only [emit_log, hcount _ (by rfl : (Event.freeConn _).isCounted = true),
    hcount _ (by rfl : (Event.freeClient _).isCounted = true), hcount _ (by rfl : (Event.closeSocket _).isCounted = true),
    hcount _ (by rfl : (Event.freeDev _).isCounted = true), hcount (.outOfFuel .teardown) rfl,
    hcount (.outOfFuel .flush) rfl]
  rfl

@[simp] theorem registry_setConn (p : Ptr) (f : MuxConnection → MuxConnection) :
    (w.setConn p f).registry = w.registry.setConn p (f (w.conns p)).entry := by
  simp only [registry, Registry.setConn, setConn]
  congr 1
  funext q
  exact Function.apply_update (fun _ => MuxConnection.entry) w.conns p _ q

@[simp] theorem registry_setClient (c : Ptr) (f : MuxClient → MuxClient) :
    (w.setClient c f).registry = w.registry.setClient c (f (w.clients c)).entry := by
  simp only [registry, Registry.setClient, setClient]
  congr 1
  funext q
  exact Function.apply_update (fun _ => MuxClient.entry) w.clients c _ q

@[simp] theorem registry_setDev (d : Ptr) (f : MuxDevice → MuxDevice) :
    (w.setDev d f).registry = w.registry.setDev d (f (w.devs d)).entry := by
  simp only [registry, Registry.setDev, setDev]
  congr 1
  funext q
  exact Function.apply_update (fun _ => MuxDevice.entry) w.devs d _ q

theorem registry_setConn_same {p : Ptr} {f : MuxConnection → MuxConnection}
    (h : (f (w.conns p)).entry = (w.conns p).entry) : (w.setConn p f).registry = w.registry := by
  rw [registry_setConn, h, ← registry_conns, Registry.setConn, Function.update_eq_self]

theorem registry_setClient_same {c : Ptr} {f : MuxClient → MuxClient}
    (h : (f (w.clients c)).entry = (w.clients c).entry) : (w.setClient c f).registry = w.registry := by
  rw [registry_setClient, h, ← registry_clients, Registry.setClient, Function.update_eq_self]

theorem registry_setDev_same {d : Ptr} {f : MuxDevice → MuxDevice}
    (h : (f (w.devs d)).entry = (w.devs d).entry) : (w.setDev d f).registry = w.registry := by
  rw [registry_setDev, h, ← registry_devs, Registry.setDev, Function.update_eq_self]

end Updates

/-! ### Packets -/

section Packets

variable (env : Env) (w : World)

@[simp] theorem registry_sendPacket (d : Ptr) (proto : MuxProtocol) (header data : List UInt8) :
    (sendPacket env d proto header data w).1.registry = w.registry := by
  unfold sendPacket
  split
  · rfl
  · rw [usbSend, registry_emit _ rfl, registry_tock]
    refine registry_setDev_same w ?_
    unfold MuxDevice.countPacket
    split <;> rfl

@[simp] theorem registry_sendTcp (p : Ptr) (flags : UInt8) (data : List UInt8) :
    (sendTcp env p flags data w).1.registry = w.registry := by
  unfold sendTcp
  dsimp only
  split
  · rw [registry_setConn_same _ rfl, registry_tock, registry_emit _ rfl, registry_sendPacket]
  · rw [registry_emit _ rfl, registry_sendPacket]

@[simp] theorem registry_sendAnonRst (d : Ptr) (sport dport : UInt16) (ack : UInt32) :
    (sendAnonRst env d sport dport ack w).1.registry = w.registry := registry_sendPacket ..

@[simp] theorem registry_sendTeardownRst (p : Ptr) : (sendTeardownRst env p w).registry = w.registry := by
  unfold sendTeardownRst
  dsimp only
  split
  · exact registry_sendTcp ..
  · rfl

end Packets

/-! ### Clients -/

section Clients

variable (env : Env) (c : Ptr) (w : World)

@[simp] theorem registry_clientRead (p : Ptr) (len : UInt32) :
    (clientRead env p c len w).1.registry = w.registry := by
  unfold clientRead
  split
  · rfl
  · dsimp only
    split
    · rfl
    · rw [registry_emit _ rfl, registry_tock]

@[simp] theorem registry_clientWrite (p : Ptr) (buffer : Mem) (len : UInt32) :
    (clientWrite env p c buffer len w).1.registry = w.registry := by
  unfold clientWrite
  split
  · rfl
  · dsimp only
    split
    · rfl
    · rw [registry_emit _ rfl, registry_tock]

@[simp] theorem registry_clientSetEvents (events : Events) : (clientSetEvents c events w).registry = w.registry := by
  unfold clientSetEvents
  split
  · rename_i hstate
    exact registry_setClient_same w (by simp [MuxClient.entry, hstate])
  · exact registry_setClient_same w rfl
  · rfl

@[simp] theorem registry_enlargeOutBuffer (length : UInt32) :
    (enlargeOutBuffer env c length w).1.registry = w.registry := by
  unfold enlargeOutBuffer
  dsimp only
  split
  · split
    · rw [registry_setClient_same, registry_tock]
      rfl
    · rfl
  · rfl

@[simp] theorem registry_sendPkt (tag : UInt32) (msg : MsgType) (payload : List UInt8) :
    (sendPkt env c tag msg payload w).1.registry = w.registry := by
  unfold sendPkt
  dsimp only
  split
  · split
    · rw [registry_emit _ rfl, registry_enlargeOutBuffer]
    · rw [registry_emit _ rfl, registry_setClient_same, registry_enlargeOutBuffer]
      rfl
  · exact registry_enlargeOutBuffer ..

@[simp] theorem registry_sendPlistPkt (tag : UInt32) (plist : Plist) :
    (sendPlistPkt env c tag plist w).1.registry = w.registry := by
  unfold sendPlistPkt
  split
  · rfl
  · rw [registry_sendPkt, registry_tock]

@[simp] theorem registry_sendResult (tag result : UInt32) :
    (sendResult env c tag result w).1.registry = w.registry := by
  unfold sendResult
  split <;> simp

@[simp] theorem registry_notifyDeviceAdd (info : DeviceInfo) :
    (notifyDeviceAdd env c info w).1.registry = w.registry := by
  unfold notifyDeviceAdd
  dsimp only
  split_ifs
  · rw [registry_emit _ rfl, registry_sendPlistPkt]
  · exact registry_sendPlistPkt ..
  · rw [registry_emit _ rfl, registry_sendPkt]
  · exact registry_sendPkt ..

@[simp] theorem registry_notifyDeviceRemove (id : ℕ) :
    (notifyDeviceRemove env c id w).1.registry = w.registry := by
  unfold notifyDeviceRemove
  dsimp only
  split_ifs
  · rw [registry_emit _ rfl, registry_sendPlistPkt]
  · exact registry_sendPlistPkt ..
  · rw [registry_emit _ rfl, registry_sendPkt]
  · exact registry_sendPkt ..

/-- A loop over a list leaves the registry alone if its body does. -/
theorem registry_forEach {tab : World → SlotTable Ptr} {body : Ptr → World → World}
    (hbody : ∀ x w, (body x w).registry = w.registry) (n i : ℕ) :
    (SlotTable.forEach tab body n i w).registry = w.registry :=
  SlotTable.forEach_induct (P := fun s => s.registry = w.registry) (fun x s _ h => (hbody x s).trans h) n i w rfl

@[simp] theorem registry_announceDevice (info : DeviceInfo) : (announceDevice env info w).registry = w.registry := by
  refine registry_forEach w (fun c w => ?_) _ _
  split
  · exact registry_notifyDeviceAdd ..
  · rfl

@[simp] theorem registry_clientDeviceRemove (id : ℕ) : (clientDeviceRemove env id w).registry = w.registry := by
  refine registry_forEach w (fun c w => ?_) _ _
  split
  · exact registry_notifyDeviceRemove ..
  · rfl

@[simp] theorem registry_clientDevicePairingEvent (info : DeviceInfo) (event : PairingEvent) (validate : Bool) :
    (clientDevicePairingEvent env info event validate w).registry = w.registry := by
  unfold clientDevicePairingEvent
  split
  · refine registry_forEach w (fun c w => ?_) _ _
    dsimp only
    split_ifs
    · rw [registry_emit _ rfl, registry_sendPlistPkt]
    · exact registry_sendPlistPkt ..
    · rfl
  · rfl

@[simp] theorem registry_notifyAll (infos : List DeviceInfo) : (notifyAll env c infos w).registry = w.registry := by
  induction infos generalizing w with
  | nil => rfl
  | cons info rest ih =>
    unfold notifyAll
    dsimp only
    split
    · rw [ih, registry_notifyDeviceAdd]
    · exact registry_notifyDeviceAdd ..

@[simp] theorem registry_recvCommandBytes (len : UInt32) :
    (recvCommandBytes env c len w).1.registry = w.registry := by
  unfold recvCommandBytes
  split
  · rfl
  · rename_i buffer hbuffer
    dsimp only
    refine registry_setClient_same _ ?_
    simp [MuxClient.entry, hbuffer]

end Clients

/-! ### Traffic -/

section Traffic

variable (env : Env) (p c : Ptr) (w : World)

@[simp] theorem registry_updateConnection : (updateConnection p w).registry = w.registry := by
  unfold updateConnection
  dsimp only
  split
  · rw [registry_clientSetEvents, registry_setConn_same _ rfl]
  · rw [registry_emit _ rfl, registry_setConn_same _ rfl]

@[simp] theorem registry_deviceToClient : (deviceToClient env p c w).1.registry = w.registry := by
  unfold deviceToClient
  dsimp only
  split
  · exact registry_clientWrite ..
  · rw [registry_setConn_same _ rfl, registry_clientWrite]

@[simp] theorem registry_clientToDevice : (clientToDevice env p c w).1.registry = w.registry := by
  unfold clientToDevice
  dsimp only
  split
  · exact registry_clientRead ..
  · split
    · rw [registry_setConn_same _ rfl, registry_sendTcp, registry_setConn_same _ rfl, registry_clientRead]
    · rw [registry_sendTcp, registry_setConn_same _ rfl, registry_clientRead]

/-- With a step for each byte, the flush loop ends by itself. -/
theorem registry_flushInBuf (n : ℕ) (hpos : 0 < (w.conns p).ibSize.toNat) (hn : (w.conns p).ibSize.toNat ≤ n) :
    (flushInBuf env p c n w).registry = w.registry := by
  induction n generalizing w with
  | zero => omega
  | succ n ih =>
    have hle := clientWrite_size env p c w (w.conns p).ibBuf (w.conns p).ibSize
    unfold flushInBuf
    dsimp only
    split
    · exact registry_clientWrite ..
    · rename_i hsome
      have hsame : ((clientWrite env p c (w.conns p).ibBuf (w.conns p).ibSize w).1.setConn p
          (·.consume (clientWrite env p c (w.conns p).ibBuf (w.conns p).ibSize w).2)).registry = w.registry := by
        rw [registry_setConn_same _ rfl, registry_clientWrite]
      split
      · exact hsame
      · rename_i hmore
        have hsize : ((w.conns p).ibSize - UInt32.ofNat
            (clientWrite env p c (w.conns p).ibBuf (w.conns p).ibSize w).2).toNat =
              (w.conns p).ibSize.toNat - (clientWrite env p c (w.conns p).ibBuf (w.conns p).ibSize w).2 := by
          have hlt := (w.conns p).ibSize.toNat_lt
          rw [UInt32.toNat_sub, UInt32.toNat_ofNat']
          omega
        rw [ih, hsame]
        all_goals
          simp only [setConn_conns, clientWrite_conns, Function.update_self, MuxConnection.consume_ibSize, if_neg hmore,
            hsize]
          omega

end Traffic

/-! ### Devices -/

section Devices

variable (env : Env) (w : World)

@[simp] theorem registry_deviceSetVisible (id : ℕ) : (deviceSetVisible id w).registry = w.registry := by
  unfold deviceSetVisible
  split
  · exact registry_setDev_same w rfl
  · rfl

@[simp] theorem registry_devicePreflightFinished (id : ℕ) : (devicePreflightFinished id w).registry = w.registry := by
  unfold devicePreflightFinished
  split
  · exact registry_setDev_same w rfl
  · rfl

@[simp] theorem registry_deviceAcceptSocket (u : UsbDevice) : (deviceAcceptSocket u w).registry = w.registry := by
  unfold deviceAcceptSocket
  split
  · exact registry_setDev_same w rfl
  · rfl

end Devices

end Usbmuxd
