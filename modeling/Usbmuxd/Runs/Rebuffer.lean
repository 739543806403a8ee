import Usbmuxd.Model.Loop

/-!
# What is in a command buffer

Apart from `process_recv` no function looks into a client's command buffer, or at how much of it is used. To each of
them it is the same whether the buffer holds other bytes before the call or after it.

## The model

* `World.refill` — the world with other bytes in the command buffer of a client, and with other sizes.
* `World.rebuffer` — the world with other bytes only.

## What is proved

* `refill_sendResult`, `refill_closeClient`, `refill_usbProcess`, … — one for each function.
* `refill_clientCommand` — and one for `client_command`, which is given the bytes of the buffer.
* `refill_exec` — and one for every operation but `process_recv` for this client.
-/

namespace Usbmuxd

open World

/-- A client with the bytes `m` in its command buffer, if it has one. -/
def MuxClient.rebuffer (cl : MuxClient) (m : Mem) : MuxClient := { cl with ibBuf := cl.ibBuf.map fun _ => m }

/-- The world with the bytes `m` in the command buffer of the client `c`. -/
def World.rebuffer (w : World) (c : Ptr) (m : Mem) : World := w.setClient c (·.rebuffer m)

/-- Other bytes for a command buffer, and what becomes of its sizes. -/
structure Refill where
  bytes : Mem
  size : UInt32 → UInt32
  capacity : UInt32 → UInt32

/-- A client with another command buffer, if it has one. -/
def MuxClient.refill (cl : MuxClient) (r : Refill) : MuxClient :=
  { cl with ibBuf := cl.ibBuf.map fun _ => r.bytes, ibSize := r.size cl.ibSize, ibCapacity := r.capacity cl.ibCapacity }

/-- The world with another command buffer for the client `c`. -/
def World.refill (w : World) (c : Ptr) (r : Refill) : World := w.setClient c (·.refill r)

section

variable {env : Env} {c : Ptr} {r : Refill} {w : World}

@[simp] theorem refill_conns : (w.refill c r).conns = w.conns := by simp [World.refill]

@[simp] theorem refill_devs : (w.refill c r).devs = w.devs := by simp [World.refill]

@[simp] theorem refill_clientList : (w.refill c r).clientList = w.clientList := by simp [World.refill]

@[simp] theorem refill_deviceList : (w.refill c r).deviceList = w.deviceList := by simp [World.refill]

@[simp] theorem refill_nextDeviceId : (w.refill c r).nextDeviceId = w.nextDeviceId := by simp [World.refill]

@[simp] theorem refill_fresh : (w.refill c r).fresh = w.fresh := by simp [World.refill]

@[simp] theorem refill_tick : (w.refill c r).tick = w.tick := by simp [World.refill]

@[simp] theorem refill_log : (w.refill c r).log = w.log := by simp [World.refill]

/-- The other fields of a client stay as they are. -/
theorem refill_field {α : Type} (g : MuxClient → α) (hg : ∀ cl, g (cl.refill r) = g cl) (x : Ptr) :
    g ((w.refill c r).clients x) = g (w.clients x) := by
  by_cases hx : x = c
  · subst hx
    simp [World.refill, hg]
  · simp [World.refill, hx]

@[simp] theorem refill_obBuf (x : Ptr) : ((w.refill c r).clients x).obBuf = (w.clients x).obBuf :=
  refill_field MuxClient.obBuf (fun _ => rfl) x

@[simp] theorem refill_obSize (x : Ptr) : ((w.refill c r).clients x).obSize = (w.clients x).obSize :=
  refill_field MuxClient.obSize (fun _ => rfl) x

@[simp] theorem refill_obCapacity (x : Ptr) : ((w.refill c r).clients x).obCapacity = (w.clients x).obCapacity :=
  refill_field MuxClient.obCapacity (fun _ => rfl) x

@[simp] theorem refill_state (x : Ptr) : ((w.refill c r).clients x).state = (w.clients x).state :=
  refill_field MuxClient.state (fun _ => rfl) x

@[simp] theorem refill_protoVersion (x : Ptr) :
    ((w.refill c r).clients x).protoVersion = (w.clients x).protoVersion :=
  refill_field MuxClient.protoVersion (fun _ => rfl) x

@[simp] theorem refill_connectTag (x : Ptr) : ((w.refill c r).clients x).connectTag = (w.clients x).connectTag :=
  refill_field MuxClient.connectTag (fun _ => rfl) x

@[simp] theorem refill_connectDevice (x : Ptr) :
    ((w.refill c r).clients x).connectDevice = (w.clients x).connectDevice :=
  refill_field MuxClient.connectDevice (fun _ => rfl) x

theorem refill_isSome (x : Ptr) : ((w.refill c r).clients x).ibBuf.isSome = (w.clients x).ibBuf.isSome :=
  refill_field (fun cl => cl.ibBuf.isSome) (fun cl => by cases h : cl.ibBuf <;> simp [MuxClient.refill, h]) x

/-! ### Small changes -/

@[simp] theorem refill_emit (e : Event) : (w.refill c r).emit e = (w.emit e).refill c r := rfl

@[simp] theorem refill_tock : (w.refill c r).tock = w.tock.refill c r := rfl

@[simp] theorem refill_setConn (p : Ptr) (f : MuxConnection → MuxConnection) :
    (w.refill c r).setConn p f = (w.setConn p f).refill c r := rfl

@[simp] theorem refill_setDev (d : Ptr) (f : MuxDevice → MuxDevice) :
    (w.refill c r).setDev d f = (w.setDev d f).refill c r := rfl

/-- A change of a client that keeps its command buffer or gives it up. -/
theorem refill_setClient {f : MuxClient → MuxClient} (hf : ∀ cl, f (cl.refill r) = (f cl).refill r) (x : Ptr) :
    (w.refill c r).setClient x f = (w.setClient x f).refill c r := by
  by_cases hx : x = c
  · subst hx
    simp [World.refill, setClient, hf]
  · simp [World.refill, setClient, Function.update_of_ne hx, Function.update_of_ne (Ne.symm hx),
      Function.update_comm hx]

/-! ### Packets and replies -/

theorem refill_sendPacket (d : Ptr) (proto : MuxProtocol) (header data : List UInt8) :
    sendPacket env d proto header data (w.refill c r) =
      ((sendPacket env d proto header data w).1.refill c r, (sendPacket env d proto header data w).2) := by
  unfold sendPacket
  simp only [refill_devs]
  split <;> rfl

theorem refill_sendTcp (p : Ptr) (flags : UInt8) (data : List UInt8) :
    sendTcp env p flags data (w.refill c r) =
      ((sendTcp env p flags data w).1.refill c r, (sendTcp env p flags data w).2) := by
  unfold sendTcp
  simp only [refill_conns, refill_sendPacket]
  split <;> rfl

theorem refill_enlargeOutBuffer (x : Ptr) (length : UInt32) :
    enlargeOutBuffer env x length (w.refill c r) =
      ((enlargeOutBuffer env x length w).1.refill c r, (enlargeOutBuffer env x length w).2) := by
  unfold enlargeOutBuffer
  simp only [refill_obCapacity, refill_obSize, refill_tick, refill_tock]
  split
  · split
    · rw [refill_setClient fun _ => rfl]
    · rfl
  · rfl

theorem refill_sendPkt (x : Ptr) (tag : UInt32) (msg : MsgType) (payload : List UInt8) :
    sendPkt env x tag msg payload (w.refill c r) =
      ((sendPkt env x tag msg payload w).1.refill c r, (sendPkt env x tag msg payload w).2) := by
  unfold sendPkt
  simp only [refill_enlargeOutBuffer, refill_obBuf, refill_protoVersion]
  split
  · split
    · rfl
    · rw [refill_setClient fun _ => rfl]
      rfl
  · rfl

theorem refill_sendPlistPkt (x : Ptr) (tag : UInt32) (plist : Plist) :
    sendPlistPkt env x tag plist (w.refill c r) =
      ((sendPlistPkt env x tag plist w).1.refill c r, (sendPlistPkt env x tag plist w).2) := by
  unfold sendPlistPkt
  simp only [refill_tick, refill_tock]
  split
  · rfl
  · exact refill_sendPkt ..

theorem refill_sendResult (x : Ptr) (tag result : UInt32) :
    sendResult env x tag result (w.refill c r) =
      ((sendResult env x tag result w).1.refill c r, (sendResult env x tag result w).2) := by
  unfold sendResult
  simp only [refill_protoVersion]
  split
  · exact refill_sendPlistPkt ..
  · exact refill_sendPkt ..

theorem refill_clientNotifyConnect (x : Ptr) (result : UInt32) :
    clientNotifyConnect env x result (w.refill c r) =
      ((clientNotifyConnect env x result w).1.refill c r, (clientNotifyConnect env x result w).2) := by
  unfold clientNotifyConnect
  simp only [refill_state, refill_connectTag, refill_sendResult]
  split
  · rfl
  · split
    · split
      · rw [refill_setClient fun _ => rfl]
      · rw [refill_setClient fun _ => rfl]
    · rfl

theorem refill_notifyDeviceAdd (x : Ptr) (info : DeviceInfo) :
    notifyDeviceAdd env x info (w.refill c r) =
      ((notifyDeviceAdd env x info w).1.refill c r, (notifyDeviceAdd env x info w).2) := by
  unfold notifyDeviceAdd
  simp only [refill_protoVersion, refill_sendPlistPkt, refill_sendPkt]
  split_ifs <;> simp_all

theorem refill_notifyDeviceRemove (x : Ptr) (id : ℕ) :
    notifyDeviceRemove env x id (w.refill c r) =
      ((notifyDeviceRemove env x id w).1.refill c r, (notifyDeviceRemove env x id w).2) := by
  unfold notifyDeviceRemove
  simp only [refill_protoVersion, refill_sendPlistPkt, refill_sendPkt]
  split_ifs <;> simp_all

/-- A loop over the clients. -/
theorem refill_forEachClient {body : Ptr → World → World}
    (hbody : ∀ x w, body x (w.refill c r) = (body x w).refill c r) :
    forEachClient body (w.refill c r) = (forEachClient body w).refill c r :=
  SlotTable.forEach_comm (g := (World.refill · c r)) (fun _ => rfl) hbody w.clientList.capacity 0 w

theorem refill_clientDeviceRemove (id : ℕ) :
    clientDeviceRemove env id (w.refill c r) = (clientDeviceRemove env id w).refill c r := by
  refine refill_forEachClient fun x v => ?_
  simp only [refill_state, refill_notifyDeviceRemove]
  split <;> rfl

theorem refill_clientDevicePairingEvent (info : DeviceInfo) (event : PairingEvent) (validate : Bool) :
    clientDevicePairingEvent env info event validate (w.refill c r) =
      (clientDevicePairingEvent env info event validate w).refill c r := by
  unfold clientDevicePairingEvent
  rw [show deviceExists (w.refill c r) info.id = deviceExists w info.id from rfl]
  split
  · refine refill_forEachClient fun x v => ?_
    simp only [refill_state, refill_protoVersion, refill_sendPlistPkt]
    split_ifs <;> rfl
  · rfl

/-! ### Closing -/

theorem refill_getMuxConnection (id : ℕ) (x : Ptr) :
    getMuxConnection (w.refill c r) id x = getMuxConnection w id x := rfl

theorem refill_clientWrite (p x : Ptr) (buffer : Mem) (len : UInt32) :
    clientWrite env p x buffer len (w.refill c r) =
      ((clientWrite env p x buffer len w).1.refill c r, (clientWrite env p x buffer len w).2) := by
  unfold clientWrite
  simp only [refill_state, refill_tick, refill_tock]
  split
  · rfl
  · split <;> rfl

theorem refill_flushInBuf (p x : Ptr) (n : ℕ) :
    flushInBuf env p x n (w.refill c r) = (flushInBuf env p x n w).refill c r := by
  induction n generalizing w with
  | zero => rfl
  | succ n ih =>
    unfold flushInBuf
    simp only [refill_conns, refill_clientWrite, refill_setConn, ih]
    split_ifs <;> rfl

theorem refill_sendTeardownRst (p : Ptr) :
    sendTeardownRst env p (w.refill c r) = (sendTeardownRst env p w).refill c r := by
  unfold sendTeardownRst
  simp only [refill_conns, refill_devs, refill_sendTcp]
  split_ifs <;> rfl

/-- `client_close` and `connection_teardown`. -/
theorem refill_clientClose_connectionTeardown (n : ℕ) :
    (∀ x w, clientClose env n x (World.refill w c r) = (clientClose env n x w).refill c r) ∧
      ∀ p w, connectionTeardown env n p (World.refill w c r) = (connectionTeardown env n p w).refill c r := by
  induction n with
  | zero => exact ⟨fun _ _ => rfl, fun _ _ => rfl⟩
  | succ n ih =>
    obtain ⟨ihClose, ihTeardown⟩ := ih
    refine ⟨fun x w => ?_, fun p w => ?_⟩
    · unfold clientClose
      simp only [refill_state, refill_connectDevice]
      split
      · rw [refill_setClient fun _ => rfl]
        unfold deviceAbortConnect
        rw [refill_getMuxConnection]
        split
        · rw [ihTeardown]
          rfl
        · rfl
      · rfl
    · unfold connectionTeardown
      simp only [refill_conns, refill_sendTeardownRst]
      split
      · rfl
      · split
        · rfl
        · simp only [refill_clientNotifyConnect, refill_setConn, refill_flushInBuf]
          split
          · rfl
          · split <;> rw [ihClose] <;> rfl

theorem refill_closeClient (x : Ptr) : closeClient env x (w.refill c r) = (closeClient env x w).refill c r :=
  (refill_clientClose_connectionTeardown callDepth).1 x w

theorem refill_tearDown (p : Ptr) : tearDown env p (w.refill c r) = (tearDown env p w).refill c r :=
  (refill_clientClose_connectionTeardown callDepth).2 p w

/-! ### Devices -/

theorem refill_deviceStartConnect (id : ℕ) (dport : UInt16) (x : Ptr) :
    deviceStartConnect env id dport x (w.refill c r) =
      ((deviceStartConnect env id dport x w).1.refill c r, (deviceStartConnect env id dport x w).2) := by
  unfold deviceStartConnect
  rw [show getMuxDeviceForId (w.refill c r) id = getMuxDeviceForId w id from rfl]
  split
  · rfl
  · rename_i d _
    rw [refill_devs, show findSport (w.refill c r) d = findSport w d from rfl]
    split
    · rfl
    · split
      · rfl
      · rename_i sport next _
        have halloc : ∀ v, allocConn (.start d x sport dport) (World.refill v c r) =
            (allocConn (.start d x sport dport) v).refill c r := fun _ => rfl
        simp only [refill_setDev, refill_fresh, halloc, refill_sendTcp]
        generalize sendTcp env (w.setDev d _).fresh thSyn [] _ = sent
        split_ifs <;> rfl

theorem refill_deviceAdd (u : UsbDevice) : deviceAdd env u (w.refill c r) = (deviceAdd env u w).refill c r := by
  have halloc : allocDev u (getNextDeviceId (w.refill c r)) (w.refill c r) =
      (allocDev u (getNextDeviceId w) w).refill c r := rfl
  unfold deviceAdd
  simp only [halloc, refill_sendPacket, refill_fresh]
  split <;> rfl

theorem refill_tearDownAll (d : Ptr) : tearDownAll env d (w.refill c r) = (tearDownAll env d w).refill c r :=
  SlotTable.forEach_comm (g := (World.refill · c r)) (fun _ => rfl) (fun p _ => refill_tearDown p)
    (w.connections d).capacity 0 w

theorem refill_deviceRemove (u : UsbDevice) :
    deviceRemove env u (w.refill c r) = (deviceRemove env u w).refill c r := by
  have hdisconnect : ∀ d v,
      disconnectDevice env d (World.refill v c r) = (disconnectDevice env d v).refill c r := by
    intro d v
    unfold disconnectDevice clientDeviceRemovedDuringAdd
    simp only [refill_setDev, refill_tearDownAll, refill_devs, refill_clientDeviceRemove]
    split
    · rfl
    · exact congrArg (World.setDev · d _) (refill_clientDevicePairingEvent ..)
  unfold deviceRemove
  rw [show findByUsbdev (w.refill c r) u = findByUsbdev w u from rfl]
  split
  · rfl
  · rw [refill_devs, hdisconnect]
    split <;> rfl

theorem refill_usbAction (a : UsbAction) : usbAction env a (w.refill c r) = (usbAction env a w).refill c r := by
  cases a with
  | deviceAdd u => exact refill_deviceAdd u
  | deviceRemove u => exact refill_deviceRemove u
  | deviceAddFailed u => exact refill_clientDevicePairingEvent _ .removedDuringAdd false
  | errorAlreadyExists info => exact refill_clientDevicePairingEvent info .errorDeviceAlreadyExists false

theorem refill_usbProcess : usbProcess env (w.refill c r) = (usbProcess env w).refill c r := by
  unfold usbProcess
  rw [refill_tick, refill_tock]
  generalize env.usbProcess w.tick = actions
  generalize w.tock = v
  induction actions generalizing v with
  | nil => rfl
  | cons a rest ih =>
    rw [List.foldl_cons, List.foldl_cons, refill_usbAction]
    exact ih _

/-! ### Commands -/

theorem refill_handleListen (x : Ptr) (hdr : UsbmuxdHeader) :
    handleListen env x hdr (w.refill c r) = (handleListen env x hdr w).refill c r := by
  have hall : ∀ infos v, notifyAll env x infos (World.refill v c r) = (notifyAll env x infos v).refill c r := by
    intro infos
    induction infos with
    | nil => exact fun _ => rfl
    | cons info rest ih =>
      intro v
      simp only [notifyAll, refill_notifyDeviceAdd, ih]
      split <;> rfl
  unfold handleListen startListen
  simp only [refill_sendResult]
  split
  · rw [refill_setClient fun _ => rfl]
    exact hall _ _
  · rfl

theorem refill_connectRequest (x : Ptr) (hdr : UsbmuxdHeader) (id : ℕ) (port : UInt16) :
    connectRequest env x hdr id port (w.refill c r) = (connectRequest env x hdr id port w).refill c r := by
  unfold connectRequest
  simp only [refill_deviceStartConnect]
  split
  · rw [refill_sendResult]
  · rw [refill_setClient fun _ => rfl]

theorem refill_handleConnectCommand (x : Ptr) (hdr : UsbmuxdHeader) (command : Plist) :
    handleConnectCommand env x hdr command (w.refill c r) =
      (handleConnectCommand env x hdr command w).refill c r := by
  unfold handleConnectCommand
  simp only [refill_sendResult, refill_connectRequest]
  split
  · rfl
  · split <;> rfl

theorem refill_handleReadPairRecordCommand (x : Ptr) (hdr : UsbmuxdHeader) (command : Plist) :
    handleReadPairRecordCommand env x hdr command (w.refill c r) =
      (handleReadPairRecordCommand env x hdr command w).refill c r := by
  unfold handleReadPairRecordCommand sendPairRecord
  simp only [refill_tick, refill_tock, refill_sendResult, refill_sendPlistPkt]
  split
  · rfl
  · split
    · rfl
    · split <;> rfl

theorem refill_handleSavePairRecordCommand (x : Ptr) (hdr : UsbmuxdHeader) (command : Plist) :
    handleSavePairRecordCommand env x hdr command (w.refill c r) =
      (handleSavePairRecordCommand env x hdr command w).refill c r := by
  unfold handleSavePairRecordCommand
  simp only [refill_tick, refill_tock, refill_sendResult]
  split
  · split <;> rfl
  · rfl

theorem refill_handleDeletePairRecordCommand (x : Ptr) (hdr : UsbmuxdHeader) (command : Plist) :
    handleDeletePairRecordCommand env x hdr command (w.refill c r) =
      (handleDeletePairRecordCommand env x hdr command w).refill c r := by
  unfold handleDeletePairRecordCommand
  simp only [refill_tick, refill_tock, refill_sendResult]
  split <;> rfl

theorem refill_withLocation (x : Ptr) (hdr : UsbmuxdHeader) (command : Plist) {act : UInt32 → World → World}
    (hact : ∀ location, act location (w.refill c r) = (act location w).refill c r) :
    withLocation env x hdr command act (w.refill c r) = (withLocation env x hdr command act w).refill c r := by
  unfold withLocation
  simp only [refill_sendResult, hact]
  split <;> rfl

/-- The commands about the device at a location. -/
theorem refill_handleDeviceCommand (x : Ptr) (hdr : UsbmuxdHeader) (command : Plist) :
    handleAddDeviceCommand env x hdr command (w.refill c r) =
        (handleAddDeviceCommand env x hdr command w).refill c r ∧
      handleRemoveDeviceCommand env x hdr command (w.refill c r) =
        (handleRemoveDeviceCommand env x hdr command w).refill c r ∧
      handleDeviceMonitorCommand env x hdr command (w.refill c r) =
        (handleDeviceMonitorCommand env x hdr command w).refill c r := by
  refine ⟨refill_withLocation x hdr command fun _ => rfl, refill_withLocation x hdr command fun _ => rfl, ?_⟩
  unfold handleDeviceMonitorCommand
  exact refill_withLocation x hdr command fun _ => by rw [refill_emit, refill_usbProcess]

theorem refill_handleClientPlistCommand (x : Ptr) (hdr : UsbmuxdHeader) (payload : List UInt8) :
    handleClientPlistCommand env x hdr payload (w.refill c r) =
      (handleClientPlistCommand env x hdr payload w).refill c r := by
  unfold handleClientPlistCommand sendDeviceList sendSystemBuid
  rw [refill_setClient fun _ => rfl]
  generalize (w.setClient x fun cl => { cl with protoVersion := 1 }) = v
  dsimp only
  split
  · rfl
  · rename_i command _
    obtain ⟨hadd, hremove, hmonitor⟩ := @refill_handleDeviceCommand env c r v x hdr command
    have hdevices : ∀ hidden, deviceGetList env hidden (v.refill c r) = deviceGetList env hidden v := fun _ => rfl
    split
    · rfl
    · simp only [apply_ite (World.refill · c r), hadd, hremove, hmonitor, hdevices, refill_handleListen,
        refill_handleConnectCommand, refill_handleReadPairRecordCommand, refill_handleSavePairRecordCommand,
        refill_handleDeletePairRecordCommand, refill_tick, refill_tock, refill_sendPlistPkt,
        refill_sendResult]

/-- `client_command` is given the bytes of the buffer, and looks for them nowhere else. -/
theorem refill_clientCommand (x : Ptr) (buffer : Mem) :
    clientCommand env x buffer (w.refill c r) = (clientCommand env x buffer w).refill c r := by
  unfold clientCommand
  simp only [refill_state, refill_sendResult, refill_closeClient, refill_handleClientPlistCommand,
    refill_handleListen, refill_connectRequest]
  split_ifs <;> rfl

/-! ### Connected clients -/

theorem refill_clientRead (p x : Ptr) (len : UInt32) :
    clientRead env p x len (w.refill c r) =
      ((clientRead env p x len w).1.refill c r, (clientRead env p x len w).2) := by
  unfold clientRead
  simp only [refill_state, refill_tick, refill_tock]
  split
  · rfl
  · split <;> rfl

theorem refill_clientSetEvents (x : Ptr) (events : Events) :
    clientSetEvents x events (w.refill c r) = (clientSetEvents x events w).refill c r := by
  unfold clientSetEvents
  rw [refill_state]
  split
  · exact refill_setClient (fun _ => rfl) x
  · exact refill_setClient (fun _ => rfl) x
  · rfl

theorem refill_updateConnection (p : Ptr) : updateConnection p (w.refill c r) = (updateConnection p w).refill c r := by
  unfold updateConnection
  simp only [refill_setConn, refill_conns]
  split
  · exact refill_clientSetEvents ..
  · rfl

theorem refill_sendTcpAck (p : Ptr) :
    sendTcpAck env p (w.refill c r) = ((sendTcpAck env p w).1.refill c r, (sendTcpAck env p w).2) := by
  unfold sendTcpAck
  simp only [refill_sendTcp, refill_updateConnection, refill_tearDown]
  generalize sendTcp env p thAck [] w = sent
  split <;> rfl

theorem refill_deviceToClient (p x : Ptr) :
    deviceToClient env p x (w.refill c r) = ((deviceToClient env p x w).1.refill c r, (deviceToClient env p x w).2) := by
  unfold deviceToClient
  simp only [refill_conns, refill_clientWrite]
  split <;> rfl

theorem refill_clientToDevice (p x : Ptr) :
    clientToDevice env p x (w.refill c r) = ((clientToDevice env p x w).1.refill c r, (clientToDevice env p x w).2) := by
  unfold clientToDevice
  simp only [refill_conns, refill_clientRead, refill_setConn, refill_sendTcp]
  split
  · rfl
  · split <;> rfl

theorem refill_processClientInput (p x : Ptr) (events : Events) :
    processClientInput env p x events (w.refill c r) = (processClientInput env p x events w).refill c r := by
  unfold processClientInput
  simp only [refill_conns, refill_clientToDevice, refill_updateConnection, refill_tearDown]
  split
  · split <;> rfl
  · rfl

theorem refill_deviceClientProcess (id : ℕ) (x : Ptr) (events : Events) :
    deviceClientProcess env id x events (w.refill c r) = (deviceClientProcess env id x events w).refill c r := by
  unfold deviceClientProcess
  rw [refill_getMuxConnection]
  split
  · rfl
  · simp only [refill_conns, refill_deviceToClient, refill_sendTcpAck, refill_processClientInput, refill_tearDown,
      refill_emit]
    split_ifs <;> rfl

theorem refill_processSend (x : Ptr) : processSend env x (w.refill c r) = (processSend env x w).refill c r := by
  have hafter : ∀ size cl, (MuxClient.refill cl r).afterSend size = (cl.afterSend size).refill r := by
    intro size cl
    by_cases hall : size = cl.obSize.toNat
    · by_cases hstate : cl.state = .connecting2
      · simp [MuxClient.afterSend, MuxClient.refill, hall, hstate]
      · simp [MuxClient.afterSend, MuxClient.refill, hall, hstate]
    · simp [MuxClient.afterSend, MuxClient.refill, hall]
  unfold processSend
  simp only [refill_obSize, refill_obBuf, refill_tick, refill_tock, refill_closeClient, refill_emit]
  split
  · exact refill_setClient (fun _ => rfl) x
  · split
    · rfl
    · exact refill_setClient (hafter _) x

/-! ### Packets of a device -/

theorem refill_connectionDeviceInput (p : Ptr) (payload : List UInt8) :
    connectionDeviceInput env p payload (w.refill c r) =
      ((connectionDeviceInput env p payload w).1.refill c r, (connectionDeviceInput env p payload w).2) := by
  unfold connectionDeviceInput
  simp only [refill_conns, refill_emit, refill_tearDown, refill_setConn, refill_updateConnection]
  split <;> rfl

theorem refill_connectedInput (p : Ptr) (th : TcpHdr) (payload : List UInt8) :
    connectedInput env p th payload (w.refill c r) = (connectedInput env p th payload w).refill c r := by
  unfold connectedInput
  simp only [refill_setConn, refill_connectionDeviceInput, refill_conns, refill_sendTcpAck]
  split
  · split <;> exact refill_tearDown p
  · split
    · split <;> rfl
    · rfl

theorem refill_connectingInput (p : Ptr) (th : TcpHdr) :
    connectingInput env p th (w.refill c r) = (connectingInput env p th w).refill c r := by
  unfold connectingInput
  simp only [refill_emit, refill_setConn, refill_sendTcp, refill_tearDown, refill_conns]
  split
  · split <;> exact refill_tearDown p
  · split
    · split
      · rfl
      · simp only [refill_clientNotifyConnect, refill_updateConnection, refill_setConn, refill_tearDown]
        split <;> rfl
    · rfl

theorem refill_deviceTcpInput (d : Ptr) (th : TcpHdr) (payload : List UInt8) :
    deviceTcpInput env d th payload (w.refill c r) = (deviceTcpInput env d th payload w).refill c r := by
  have hfind : ∀ v, findByPorts (World.refill v c r) d th.dport th.sport = findByPorts v d th.dport th.sport :=
    fun _ => rfl
  have hrst : ∀ v, sendAnonRst env d th.dport th.sport th.seq (World.refill v c r) =
      ((sendAnonRst env d th.dport th.sport th.seq v).1.refill c r, (sendAnonRst env d th.dport th.sport th.seq v).2) :=
    fun v => refill_sendPacket (w := v) ..
  unfold deviceTcpInput
  simp only [refill_emit, refill_devs, hfind, hrst]
  split
  · rfl
  · split
    · split_ifs <;> rfl
    · simp only [refill_setConn, refill_conns]
      split
      · exact refill_connectingInput ..
      · exact refill_connectedInput ..
      · rfl

theorem refill_deviceVersionInput (d : Ptr) (vh : VersionHeader) :
    deviceVersionInput env d vh (w.refill c r) = (deviceVersionInput env d vh w).refill c r := by
  unfold deviceVersionInput
  simp only [refill_emit, refill_devs, refill_setDev, refill_sendPacket]
  generalize sendPacket env d .setup [] [0x07] _ = sent
  split
  · rfl
  · split
    · rfl
    · split <;> rfl

theorem refill_deviceDataInput (u : UsbDevice) (buffer : Mem) (length : UInt32) :
    deviceDataInput env u buffer length (w.refill c r) =
      ((deviceDataInput env u buffer length w).1.refill c r, (deviceDataInput env u buffer length w).2) := by
  unfold deviceDataInput
  rw [show findByUsbdev (w.refill c r) u = findByUsbdev w u from rfl]
  split
  · rfl
  · simp only [refill_devs, refill_setDev]
    split
    · rfl
    · rename_i call _
      cases call with
      | version vh => exact Prod.ext (refill_deviceVersionInput ..) rfl
      | control payload => rfl
      | tcp th payload => exact Prod.ext (refill_deviceTcpInput ..) rfl

theorem refill_drain (d : Ptr) (u : UsbDevice) (n : ℕ) (buffer : Mem) (size : UInt32) :
    drain env d u n buffer size (w.refill c r) = (drain env d u n buffer size w).refill c r := by
  induction n generalizing w buffer size with
  | zero => rfl
  | succ n ih =>
    have hbuffer : transferBuffer (w.refill c r) u buffer size = transferBuffer w u buffer size := rfl
    have hfreed : ∀ v, (World.refill v c r).devFreed d = v.devFreed d := fun _ => rfl
    unfold drain
    simp only [refill_deviceDataInput, hbuffer, hfreed, ih, refill_emit]
    split_ifs <;> rfl

theorem refill_announceDevice (info : DeviceInfo) :
    announceDevice env info (w.refill c r) = (announceDevice env info w).refill c r := by
  refine refill_forEachClient fun x v => ?_
  simp only [refill_state, refill_notifyDeviceAdd]
  split <;> rfl

theorem refill_deviceCheckTimeouts : deviceCheckTimeouts env (w.refill c r) = (deviceCheckTimeouts env w).refill c r := by
  unfold deviceCheckTimeouts
  rw [refill_tick, refill_tock]
  refine SlotTable.forEach_comm (g := (World.refill · c r)) (fun _ => rfl) (fun d v => ?_) _ 0 _
  simp only [refill_devs]
  split
  · refine SlotTable.forEach_comm (g := (World.refill · c r)) (fun _ => rfl) (fun p u => ?_) _ 0 _
    simp only [refill_conns, refill_sendTcpAck]
    split <;> rfl
  · rfl

/-! ### Operations -/

section Others

variable {x : Ptr}

theorem refill_other (hx : x ≠ c) : (w.refill c r).clients x = w.clients x := by
  rw [World.refill, setClient_clients, Function.update_of_ne hx]

theorem refill_setClient_other (hx : x ≠ c) (f : MuxClient → MuxClient) :
    (w.refill c r).setClient x f = (w.setClient x f).refill c r := by
  simp [World.refill, setClient, Function.update_of_ne hx, Function.update_of_ne (Ne.symm hx),
    Function.update_comm hx]

theorem refill_recvCommandBytes (hx : x ≠ c) (len : UInt32) :
    recvCommandBytes env x len (w.refill c r) =
      ((recvCommandBytes env x len w).1.refill c r, (recvCommandBytes env x len w).2) := by
  unfold recvCommandBytes
  simp only [refill_other hx, refill_tick, refill_tock, refill_setClient_other hx]
  split <;> rfl

theorem refill_runCommand (hx : x ≠ c) (buffer : Mem) :
    runCommand env x buffer (w.refill c r) = (runCommand env x buffer w).refill c r := by
  have hfreed : ∀ v, (World.refill v c r).clientFreed x = v.clientFreed x := fun _ => rfl
  unfold runCommand
  simp only [refill_clientCommand, hfreed, refill_emit, refill_setClient_other hx]
  split <;> rfl

/-- `process_recv` for another client. -/
theorem refill_processRecv (hx : x ≠ c) : processRecv env x (w.refill c r) = (processRecv env x w).refill c r := by
  have hbody : ∀ didRead v, processRecvBody env x didRead (World.refill v c r) =
      (processRecvBody env x didRead v).refill c r := by
    intro didRead v
    unfold processRecvBody
    simp only [refill_other hx, refill_recvCommandBytes hx, refill_closeClient, refill_runCommand hx, refill_emit]
    split
    · rfl
    · split_ifs <;> rfl
  unfold processRecv
  simp only [refill_emit, refill_other hx, refill_recvCommandBytes hx, refill_closeClient, hbody]
  split_ifs <;> rfl

end Others

/-- The operation calls `process_recv` for the client `c`. -/
def Op.receives (c : Ptr) (w : World) : Op → Prop
  | .clientReady x events => x = c ∧ x ∈ w.clientList ∧ (w.clients x).state ≠ .connected ∧ events.pollin = true
  | _ => False

/-- Every operation that does not call `process_recv` for the client, and is not the one that accepts it. -/
theorem refill_exec {op : Op} (hop : ¬ op.receives c w) (hc : op = .clientAccept → c ≠ w.fresh) :
    exec env (w.refill c r) op = (exec env w op).refill c r := by
  cases op with
  | clientAccept =>
    have hne := Ne.symm (hc rfl)
    simp [exec, clientAccept, registerClient, World.refill, setClient, Function.update_of_ne (hc rfl),
      Function.update_comm hne]
  | clientReady x events =>
    have hready : x ∈ w.clientList → clientReady env x events (w.refill c r) = (clientReady env x events w).refill c r := by
      intro hmem
      unfold clientReady
      simp only [refill_state, refill_connectDevice]
      split
      · split
        · exact refill_deviceClientProcess ..
        · rename_i hstate
          split
          · rename_i hin
            exact refill_processRecv fun heq => hop ⟨heq, hmem, hstate, hin⟩
          · exact refill_processSend x
      · rfl
    simp only [exec, refill_clientList]
    split
    · rename_i hmem
      exact hready hmem
    · rfl
  | usb a => exact refill_usbAction a
  | acceptSocket u =>
    simp only [exec, deviceAcceptSocket, show findByUsbdev (w.refill c r) u = findByUsbdev w u from rfl]
    split <;> rfl
  | versionInput d vh =>
    simp only [exec, refill_deviceList, refill_deviceVersionInput]
    split <;> rfl
  | tcpInput d th payload =>
    simp only [exec, refill_deviceList, refill_deviceTcpInput]
    split <;> rfl
  | transfer d t =>
    simp only [exec, refill_deviceList, deviceProcessSocket, refill_devs, refill_drain]
    split <;> rfl
  | checkTimeouts => exact refill_deviceCheckTimeouts
  | setVisible id =>
    simp only [exec, deviceSetVisible, show getMuxDeviceForId (w.refill c r) id = getMuxDeviceForId w id from rfl]
    split <;> rfl
  | announce info => exact refill_announceDevice info
  | pairingEvent info event validate => exact refill_clientDevicePairingEvent info event validate
  | preflightFinished id =>
    simp only [exec, devicePreflightFinished, show getMuxDeviceForId (w.refill c r) id = getMuxDeviceForId w id from rfl]
    split <;> rfl

end

/-! ### Other bytes of the same size -/

section

variable {env : Env} {c : Ptr} {m : Mem} {w : World}

/-- The other fields of a client stay as they are. -/
theorem rebuffer_field {α : Type} (g : MuxClient → α) (hg : ∀ cl, g (cl.rebuffer m) = g cl) (x : Ptr) :
    g ((w.rebuffer c m).clients x) = g (w.clients x) := refill_field (r := ⟨m, id, id⟩) g hg x

@[simp] theorem rebuffer_ibSize (x : Ptr) : ((w.rebuffer c m).clients x).ibSize = (w.clients x).ibSize :=
  rebuffer_field MuxClient.ibSize (fun _ => rfl) x

@[simp] theorem rebuffer_ibCapacity (x : Ptr) : ((w.rebuffer c m).clients x).ibCapacity = (w.clients x).ibCapacity :=
  rebuffer_field MuxClient.ibCapacity (fun _ => rfl) x

theorem rebuffer_isSome (x : Ptr) : ((w.rebuffer c m).clients x).ibBuf.isSome = (w.clients x).ibBuf.isSome :=
  refill_isSome (r := ⟨m, id, id⟩) x

@[simp] theorem rebuffer_conns : (w.rebuffer c m).conns = w.conns := rfl

@[simp] theorem rebuffer_tick : (w.rebuffer c m).tick = w.tick := rfl

theorem rebuffer_setClient {f : MuxClient → MuxClient} (hf : ∀ cl, f (cl.rebuffer m) = (f cl).rebuffer m) (x : Ptr) :
    (w.rebuffer c m).setClient x f = (w.setClient x f).rebuffer c m := refill_setClient (r := ⟨m, id, id⟩) hf x

theorem rebuffer_closeClient (x : Ptr) : closeClient env x (w.rebuffer c m) = (closeClient env x w).rebuffer c m :=
  refill_closeClient (r := ⟨m, id, id⟩) x

theorem rebuffer_clientCommand (x : Ptr) (buffer : Mem) :
    clientCommand env x buffer (w.rebuffer c m) = (clientCommand env x buffer w).rebuffer c m :=
  refill_clientCommand (r := ⟨m, id, id⟩) x buffer

end

end Usbmuxd
