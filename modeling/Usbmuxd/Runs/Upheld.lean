import Usbmuxd.Runs.Frames
import Usbmuxd.Model.Loop

/-!
# What the functions uphold

A property of the daemon's memory that does not look at connections is upheld by all that is done
about connections. What is left are the few places where a client is told something, asks for
something or is closed. A property that these keep is upheld by the whole traffic, and with a few
more of them by every command and every operation.

## The model

* `ConnWork` — what the work on connections leaves alone.
* `Carried env greets P` — what the traffic has to keep. A device answers with `SYN|ACK` only if
  `greets` says so.
* `Upheld env greets calls serves P` — what the commands and the devices have to keep as well. The
  entry for a call of `process_recv` is written only if `calls` says so, and the commands that are
  carried out are those of the clients that `serves` names.

## What is proved

* `Carried.tearDown`, `Carried.deviceTcpInput`, … — the traffic.
* `Upheld.clientCommand`, `Upheld.drain`, … — the commands and what a device sends.
* `Upheld.exec` — every operation that accepts neither a client nor the socket of a device, and
  neither shows a device nor announces one.
-/

namespace Usbmuxd

open World

/-! ### Work on connections -/

/-- What the work on connections leaves alone. -/
structure ConnWork (w w' : World) : Prop extends ConnFrame w w' where
  fresh : w.fresh ≤ w'.fresh

namespace ConnWork

section Changes

variable {w w' w'' : World}

theorem refl (w : World) : ConnWork w w := ⟨⟨rfl, rfl, rfl, rfl, fun _ => rfl, .none rfl⟩, le_rfl⟩

theorem trans (h : ConnWork w w') (h' : ConnWork w' w'') : ConnWork w w'' :=
  ⟨h.toConnFrame.trans h'.toConnFrame, h.fresh.trans h'.fresh⟩

theorem emit {e : Event} (h : e.ofConn = true) (w : World) : ConnWork w (w.emit e) := ⟨.emit h w, le_rfl⟩

theorem tock (w : World) : ConnWork w w.tock := ⟨.tock w, le_rfl⟩

theorem setConn (p : Ptr) (f : MuxConnection → MuxConnection) (w : World) : ConnWork w (w.setConn p f) :=
  ⟨.setConn p f w, le_rfl⟩

theorem setDev {d : Ptr} {f : MuxDevice → MuxDevice} (h : (f (w.devs d)).core = (w.devs d).core) :
    ConnWork w (w.setDev d f) := ⟨.setDev h, le_rfl⟩

theorem allocConn (conn : MuxConnection) (w : World) : ConnWork w (allocConn conn w) :=
  ⟨⟨rfl, rfl, rfl, rfl, fun _ => rfl, .one rfl rfl⟩, Nat.le_succ _⟩

end Changes

section Functions

variable (env : Env) (p c : Ptr) (w : World)

theorem sendPacket (d : Ptr) (proto : MuxProtocol) (header data : List UInt8) :
    ConnWork w (sendPacket env d proto header data w).1 := by
  refine ⟨.sendPacket .., ?_⟩
  unfold Usbmuxd.sendPacket
  split <;> exact le_rfl

theorem sendTcp (flags : UInt8) (data : List UInt8) : ConnWork w (sendTcp env p flags data w).1 := by
  refine ⟨.sendTcp .., ?_⟩
  have hpacket := (sendPacket env w (w.conns p).dev .tcp ((w.conns p).tcpHeader flags).bytes data).fresh
  unfold Usbmuxd.sendTcp
  dsimp only
  split
  · exact hpacket
  · exact hpacket

theorem clientRead (len : UInt32) : ConnWork w (clientRead env p c len w).1 := by
  refine ⟨.clientRead .., ?_⟩
  unfold Usbmuxd.clientRead
  dsimp only
  split_ifs <;> exact le_rfl

theorem clientWrite (buffer : Mem) (len : UInt32) : ConnWork w (clientWrite env p c buffer len w).1 := by
  unfold Usbmuxd.clientWrite
  split
  · exact refl w
  · dsimp only
    split
    · exact tock w
    · exact (tock w).trans (emit rfl _)

theorem clientToDevice : ConnWork w (clientToDevice env p c w).1 := by
  have hread := clientRead env p c w (w.conns p).sendable
  unfold Usbmuxd.clientToDevice
  dsimp only
  split
  · exact hread
  · have hsent := fun data => (hread.trans (setConn p (·.fill (Usbmuxd.clientRead env p c (w.conns p).sendable w).2)
      _)).trans (sendTcp env p _ thAck data)
    split
    · dsimp only
      exact (hsent _).trans (setConn p _ _)
    · exact hsent _

theorem deviceToClient : ConnWork w (deviceToClient env p c w).1 := by
  have hwrite := clientWrite env p c w (w.conns p).ibBuf (w.conns p).ibSize
  unfold Usbmuxd.deviceToClient
  dsimp only
  split
  · exact hwrite
  · dsimp only
    exact hwrite.trans (setConn p _ _)

theorem flushInBuf (n : ℕ) : ConnWork w (flushInBuf env p c n w) := by
  induction n generalizing w with
  | zero => exact emit rfl w
  | succ n ih =>
    have hwrite := clientWrite env p c w (w.conns p).ibBuf (w.conns p).ibSize
    unfold Usbmuxd.flushInBuf
    dsimp only
    split
    · exact hwrite
    · split
      · exact hwrite.trans (setConn p _ _)
      · exact (hwrite.trans (setConn p _ _)).trans (ih _)

theorem sendTeardownRst : ConnWork w (sendTeardownRst env p w) := by
  unfold Usbmuxd.sendTeardownRst
  dsimp only
  split
  · exact sendTcp env p w thRst []
  · exact refl w

theorem releaseConn : ConnWork w (releaseConn p w) := (setDev rfl).trans (emit rfl _)

theorem deviceStartConnect (id : ℕ) (dport : UInt16) : ConnWork w (deviceStartConnect env id dport c w).1 := by
  have hsyn : ∀ d sport v next, v = w.setDev d (fun dev => { dev with nextSport := next }) →
      ConnWork w (Usbmuxd.sendTcp env v.fresh thSyn [] (Usbmuxd.allocConn (.start d c sport dport) v)).1 := by
    rintro d sport v next rfl
    exact ((setDev rfl).trans (allocConn _ _)).trans (sendTcp ..)
  have hstarted := connectStarted env id dport c w
  generalize Usbmuxd.deviceStartConnect env id dport c w = r at hstarted ⊢
  cases hstarted with
  | noDevice => exact refl w
  | uninitialised => exact emit rfl w
  | cutShort => exact emit rfl w
  | noPort d next =>
    dsimp only
    exact setDev rfl
  | refused d sport next v _ _ _ _ hv =>
    dsimp only
    exact (hsyn d sport v next hv).trans (emit rfl _)
  | started d sport next v _ _ _ _ hv =>
    have hsent := hsyn d sport v next hv
    generalize (Usbmuxd.sendTcp env v.fresh thSyn [] (Usbmuxd.allocConn (.start d c sport dport) v)).1 = u at hsent
    dsimp only
    exact hsent.trans (setDev rfl)

end Functions

end ConnWork

/-! ### Traffic -/

/-- What a client and the daemon have agreed on, and what the client has not been sent yet. -/
structure Standing where
  state : ClientState
  connectTag : UInt32
  connectDevice : ℕ
  obBuf : Option Mem
  obSize : UInt32

/-- The standing of a client. -/
def MuxClient.standing (client : MuxClient) : Standing :=
  ⟨client.state, client.connectTag, client.connectDevice, client.obBuf, client.obSize⟩

/-- An entry of the log that says nothing about what a client is told. -/
def Event.isQuiet : Event → Bool
  | .sent .. | .pending .. | .controlInput .. | .tcpInput .. => true
  | _ => false

/-- What the traffic has to keep. -/
structure Carried (env : Env) (greets : Prop) (P : World → Prop) : Prop where
  conn : ∀ {w w'}, ConnWork w w' → P w → P w'
  emit : ∀ {w e}, e.isQuiet = true → P w → P (w.emit e)
  setClient : ∀ {w} c {f : MuxClient → MuxClient}, (∀ cl, (f cl).standing = cl.standing) → P w → P (w.setClient c f)
  notifyConnect : ∀ {w} c {result}, (result = resultOk → greets) → P w → P (clientNotifyConnect env c result w).1
  dead : ∀ {w} c, (w.clients c).state = .connecting1 ∨ (w.clients c).state = .connecting2 →
    P w → P (w.setClient c fun cl => { cl with state := .dead })
  afterSend : ∀ {w} c size, P w → P (w.setClient c (·.afterSend size))
  releaseClient : ∀ {w} c, P w → P (releaseClient c w)

/-- What leaves the registry as it is leaves the clients on their list. -/
theorem mem_clientList_of_registry {w w' : World} (h : w'.registry = w.registry) {c : Ptr} (hc : c ∈ w.clientList) :
    c ∈ w'.clientList := by
  have hlist : w'.clientList = w.clientList := congrArg Registry.clientList h
  rwa [hlist]

/-- A loop over a list keeps what its body keeps. -/
theorem forEach_keeps {P : World → Prop} {tab : World → SlotTable Ptr} {body : Ptr → World → World} {w : World}
    (hbody : ∀ x v, x ∈ tab v → P v → P (body x v)) (n i : ℕ) (hw : P w) : P (SlotTable.forEach tab body n i w) :=
  SlotTable.forEach_induct (fun x v hx hv => hbody x v hx hv) n i w hw

namespace Carried

variable {env : Env} {greets : Prop} {P : World → Prop} {w : World} {d p c : Ptr}

theorem tock (h : Carried env greets P) (hw : P w) : P w.tock := h.conn (.tock w) hw

theorem fault (h : Carried env greets P) (f : Fault) (hw : P w) : P (w.emit (.fault f)) := h.conn (.emit rfl w) hw

theorem setConn (h : Carried env greets P) (p : Ptr) (f : MuxConnection → MuxConnection) (hw : P w) :
    P (w.setConn p f) := h.conn (.setConn p f w) hw

theorem clientSetEvents (h : Carried env greets P) (hw : P w) (c : Ptr) (events : Events) :
    P (clientSetEvents c events w) := by
  unfold Usbmuxd.clientSetEvents
  split
  · exact h.setClient c (fun _ => rfl) hw
  · exact h.setClient c (fun _ => rfl) hw
  · exact hw

theorem updateConnection (h : Carried env greets P) (hw : P w) (p : Ptr) : P (updateConnection p w) := by
  have hset := h.setConn p (·.refresh) hw
  unfold Usbmuxd.updateConnection
  dsimp only
  split
  · exact h.clientSetEvents hset _ _
  · exact h.fault _ hset

theorem closeAndTearDown (h : Carried env greets P) (n : ℕ) :
    (∀ c w, P w → P (clientClose env n c w)) ∧ ∀ p w, P w → P (connectionTeardown env n p w) := by
  induction n with
  | zero => exact ⟨fun _ w hw => h.conn (.emit rfl w) hw, fun _ w hw => h.conn (.emit rfl w) hw⟩
  | succ n ih =>
    obtain ⟨ihClose, ihTear⟩ := ih
    refine ⟨fun c w hw => ?_, fun p w hw => ?_⟩
    · unfold clientClose
      apply h.releaseClient
      split
      · rename_i hstate
        have hdead := h.dead c hstate hw
        unfold deviceAbortConnect
        split
        · exact ihTear _ _ hdead
        · exact hdead
      · exact hw
    · unfold connectionTeardown
      split
      · exact hw
      · have hrst := h.conn (.sendTeardownRst env p w) hw
        apply h.conn (.releaseConn p _)
        split
        · exact hrst
        · split
          · exact h.notifyConnect _ (fun heq => absurd heq (by decide)) hrst
          · apply ihClose
            have hdead := h.setConn p (·.become .dead) hrst
            split
            · exact h.conn (.flushInBuf ..) hdead
            · exact hdead

theorem closeClient (h : Carried env greets P) (hw : P w) (c : Ptr) : P (closeClient env c w) :=
  (h.closeAndTearDown callDepth).1 c w hw

theorem tearDown (h : Carried env greets P) (hw : P w) (p : Ptr) : P (tearDown env p w) :=
  (h.closeAndTearDown callDepth).2 p w hw

theorem tearDownAll (h : Carried env greets P) (hw : P w) (d : Ptr) : P (tearDownAll env d w) :=
  forEach_keeps (P := P) (fun p _ _ hv => h.tearDown hv p) _ _ hw

theorem sendTcpAck (h : Carried env greets P) (hw : P w) (p : Ptr) : P (sendTcpAck env p w).1 := by
  have hsent := h.conn (.sendTcp env p w thAck []) hw
  unfold Usbmuxd.sendTcpAck
  dsimp only
  split
  · exact h.updateConnection hsent p
  · exact h.tearDown hsent p

theorem processClientInput (h : Carried env greets P) (hw : P w) (p c : Ptr) (events : Events) :
    P (processClientInput env p c events w) := by
  have hup := h.conn (.clientToDevice env p c w) hw
  unfold Usbmuxd.processClientInput
  split
  · dsimp only
    split
    · exact h.updateConnection hup p
    · exact h.tearDown hup p
  · exact h.updateConnection hw p

theorem deviceClientProcess (h : Carried env greets P) (hw : P w) (id : ℕ) (c : Ptr) (events : Events) :
    P (deviceClientProcess env id c events w) := by
  unfold Usbmuxd.deviceClientProcess
  split
  · exact hw
  · rename_i p _
    split
    · have hdown := h.conn (.deviceToClient env p c w) hw
      dsimp only
      split
      · split
        · have hack := h.sendTcpAck hdown p
          split
          · exact h.processClientInput hack ..
          · exact h.fault _ hack
        · exact h.processClientInput hdown ..
      · exact h.tearDown hdown p
    · exact h.processClientInput hw ..

theorem connectionDeviceInput (h : Carried env greets P) (hw : P w) (p : Ptr) (payload : List UInt8) :
    P (connectionDeviceInput env p payload w).1 := by
  unfold Usbmuxd.connectionDeviceInput
  dsimp only
  split
  · exact h.tearDown (h.conn (.emit rfl w) hw) p
  · exact h.updateConnection (h.setConn p _ (h.conn (.emit rfl w) hw)) p

theorem connectedInput (h : Carried env greets P) (hw : P w) (p : Ptr) (th : TcpHdr) (payload : List UInt8) :
    P (connectedInput env p th payload w) := by
  have hinput := h.connectionDeviceInput hw p payload
  unfold Usbmuxd.connectedInput
  split
  · apply h.tearDown
    split
    · exact h.setConn p _ hw
    · exact hw
  · dsimp only
    split
    · split
      · exact h.sendTcpAck hinput p
      · exact hinput
    · exact h.fault _ hinput

theorem connectingInput (h : Carried env greets P) (hgreets : greets) (hw : P w) (p : Ptr) (th : TcpHdr) :
    P (connectingInput env p th w) := by
  unfold Usbmuxd.connectingInput
  split
  · apply h.tearDown
    split
    · exact h.setConn p _ hw
    · exact hw
  · have hsent := h.conn (.sendTcp env p _ thAck []) (h.setConn p (·.handshake) (h.conn (.emit (e := .synAck p) rfl w) hw))
    dsimp only
    split
    · have hconnected := h.setConn p (·.become .connected) hsent
      split
      · exact h.fault _ hconnected
      · rename_i c _
        have hnotified := @notifyConnect _ _ _ h _ c resultOk (fun _ => hgreets) hconnected
        split
        · exact h.updateConnection hnotified p
        · exact h.fault _ (h.tearDown (h.setConn p _ hnotified) p)
    · exact h.tearDown hsent p

theorem deviceTcpInput (h : Carried env greets P) (hgreets : greets) (hw : P w) (d : Ptr) (th : TcpHdr)
    (payload : List UInt8) : P (deviceTcpInput env d th payload w) := by
  have hcall := h.emit (e := .tcpInput d th payload) rfl hw
  unfold Usbmuxd.deviceTcpInput
  dsimp only
  split
  · exact hcall
  · split
    · split
      · exact hcall
      · have hrst : P (sendAnonRst env d th.dport th.sport th.seq (w.emit (.tcpInput d th payload))).1 :=
          h.conn (.sendPacket ..) hcall
        split
        · exact hrst
        · exact h.fault _ hrst
    · rename_i p _
      have hheard := h.setConn p (·.hear th) hcall
      split
      · exact h.connectingInput hgreets hheard ..
      · exact h.connectedInput hheard ..
      · exact hheard

theorem deviceCheckTimeouts (h : Carried env greets P) (hw : P w) : P (deviceCheckTimeouts env w) := by
  refine forEach_keeps (P := P) (fun d v _ hv => ?_) _ _ (h.tock hw)
  split
  · refine forEach_keeps (P := P) (fun p v _ hv => ?_) _ _ hv
    split
    · exact h.sendTcpAck hv p
    · exact hv
  · exact hv

theorem devicePreflightFinished (h : Carried env greets P) (hw : P w) (id : ℕ) : P (devicePreflightFinished id w) := by
  unfold Usbmuxd.devicePreflightFinished
  split
  · exact h.conn (.setDev rfl) hw
  · exact hw

theorem processSend (h : Carried env greets P) (hw : P w) (c : Ptr) : P (processSend env c w) := by
  unfold Usbmuxd.processSend
  dsimp only
  split
  · exact h.setClient c (fun _ => rfl) hw
  · split
    · exact h.closeClient (h.tock hw) c
    · exact h.afterSend c _ (h.emit rfl (h.tock hw))

theorem recvCommandBytes (h : Carried env greets P) (hw : P w) (c : Ptr) (len : UInt32) :
    P (recvCommandBytes env c len w).1 := by
  unfold Usbmuxd.recvCommandBytes
  split
  · exact h.tock hw
  · dsimp only
    exact h.setClient c (fun _ => rfl) (h.tock hw)

end Carried

/-! ### Commands and devices -/

/-- What the commands and the devices have to keep as well. -/
structure Upheld (env : Env) (greets calls : Prop) (serves : Ptr → Prop) (P : World → Prop) : Prop
    extends Carried env greets P where
  recvCall : ∀ {w} c b, calls → P w → P (w.emit (.processRecv c b))
  reply : ∀ {w} c tag msg payload, serves c → P w → P (sendPkt env c tag msg payload w).1
  request : ∀ {w} c tag id, serves c → (w.clients c).state = .command → P w →
    P (w.setClient c fun cl => { cl with connectTag := tag, connectDevice := id, state := .connecting1 })
  startListen : ∀ {w} c, serves c → c ∈ w.clientList → (w.clients c).state = .command → P w → P (startListen env c w)
  pairingEvent : ∀ {w} info event validate, P w → P (clientDevicePairingEvent env info event validate w)
  framing : ∀ {w} d buffer length, P w →
    P (w.setDev d (·.setFraming (decode (w.devs d).framing buffer length).framing))
  versionInput : ∀ {w} d vh, d ∈ w.deviceList → P w → P (deviceVersionInput env d vh w)
  usbAction : ∀ {w} a, P w → P (usbAction env a w)

namespace Upheld

variable {env : Env} {greets calls : Prop} {serves : Ptr → Prop} {P : World → Prop} {w : World} {d p c : Ptr}

theorem sendPlistPkt (h : Upheld env greets calls serves P) (hserves : serves c) (hw : P w) (tag : UInt32)
    (plist : Plist) : P (sendPlistPkt env c tag plist w).1 := by
  unfold Usbmuxd.sendPlistPkt
  split
  · exact h.tock hw
  · exact h.reply c tag _ _ hserves (h.tock hw)

theorem sendResult (h : Upheld env greets calls serves P) (hserves : serves c) (hw : P w) (tag result : UInt32) :
    P (sendResult env c tag result w).1 := by
  unfold Usbmuxd.sendResult
  split
  · exact h.sendPlistPkt hserves hw tag _
  · exact h.reply c tag _ _ hserves hw

theorem usbProcess (h : Upheld env greets calls serves P) (hw : P w) : P (usbProcess env w) := by
  unfold Usbmuxd.usbProcess
  generalize env.usbProcess w.tick = actions
  have hticked := h.tock hw
  generalize w.tock = v at hticked
  induction actions generalizing v with
  | nil => exact hticked
  | cons a rest ih => exact ih _ (h.usbAction a hticked)

theorem handleListen (h : Upheld env greets calls serves P) (hserves : serves c) (hc : c ∈ w.clientList)
    (hstate : (w.clients c).state = .command) (hw : P w) (hdr : UsbmuxdHeader) : P (handleListen env c hdr w) := by
  have hsent := h.sendResult hserves hw hdr.tag resultOk
  have hreg := registry_sendResult env c w hdr.tag resultOk
  have hstate' := (state_eq hreg c).trans hstate
  have hc' := mem_clientList_of_registry hreg hc
  unfold Usbmuxd.handleListen
  dsimp only
  split
  · exact h.startListen c hserves hc' hstate' hsent
  · exact hsent

theorem connectRequest (h : Upheld env greets calls serves P) (hserves : serves c)
    (hstate : (w.clients c).state = .command) (hw : P w) (hdr : UsbmuxdHeader) (id : ℕ) (port : UInt16) :
    P (connectRequest env c hdr id port w) := by
  have hstart := h.conn (.deviceStartConnect env c w id port) hw
  have hstate' : ((deviceStartConnect env id port c w).1.clients c).state = .command := by
    rwa [deviceStartConnect_clients]
  unfold Usbmuxd.connectRequest
  dsimp only
  split
  · exact h.sendResult hserves hstart ..
  · exact h.request c hdr.tag id hserves hstate' hstart

theorem handleConnectCommand (h : Upheld env greets calls serves P) (hserves : serves c)
    (hstate : (w.clients c).state = .command) (hw : P w) (hdr : UsbmuxdHeader) (command : Plist) :
    P (handleConnectCommand env c hdr command w) := by
  unfold Usbmuxd.handleConnectCommand
  split
  · exact h.sendResult hserves hw ..
  · dsimp only
    split
    · exact h.sendResult hserves hw ..
    · exact h.connectRequest hserves hstate hw ..

theorem handlePairRecord (h : Upheld env greets calls serves P) (hserves : serves c) (hw : P w) (hdr : UsbmuxdHeader)
    (command : Plist) :
    P (handleReadPairRecordCommand env c hdr command w) ∧ P (handleSavePairRecordCommand env c hdr command w) ∧
      P (handleDeletePairRecordCommand env c hdr command w) := by
  have hsend := h.sendResult hserves hw hdr.tag
  have hsend' := h.sendResult hserves (h.tock hw) hdr.tag
  refine ⟨?_, ?_, ?_⟩
  · unfold handleReadPairRecordCommand
    split
    · exact h.fault _ hw
    · unfold sendPairRecord
      dsimp only
      split
      · exact hsend' _
      · split
        · exact hsend' _
        · exact h.sendPlistPkt hserves (h.tock hw) ..
  · unfold handleSavePairRecordCommand
    split
    · split
      · exact hsend' _
      · exact hsend _
    · exact hsend _
  · unfold handleDeletePairRecordCommand
    split
    · exact hsend' _
    · exact hsend _

theorem withLocation (h : Upheld env greets calls serves P) (hserves : serves c) (hw : P w) (hdr : UsbmuxdHeader)
    (command : Plist) {act : UInt32 → World → World} (hact : ∀ location, P (act location w)) :
    P (withLocation env c hdr command act w) := by
  unfold Usbmuxd.withLocation
  split
  · exact h.sendResult hserves hw ..
  · exact h.sendResult hserves (hact _) ..

theorem handleClientPlistCommand (h : Upheld env greets calls serves P) (hserves : serves c) (hc : c ∈ w.clientList)
    (hstate : (w.clients c).state = .command) (hw : P w) (hdr : UsbmuxdHeader) (payload : List UInt8) :
    P (handleClientPlistCommand env c hdr payload w) := by
  have hset : P (w.setClient c fun cl => { cl with protoVersion := 1 }) := h.setClient c (fun _ => rfl) hw
  have hhandled := plistHandled env c hdr payload w
  replace hstate : ((w.setClient c fun cl => { cl with protoVersion := 1 }).clients c).state = .command := by
    simpa using hstate
  replace hc : c ∈ (w.setClient c fun cl => { cl with protoVersion := 1 }).clientList := hc
  generalize Usbmuxd.handleClientPlistCommand env c hdr payload w = u at hhandled ⊢
  generalize (w.setClient c fun cl => { cl with protoVersion := 1 }) = v at hset hstate hc hhandled
  cases hhandled with
  | ignored => exact hset
  | listen => exact h.handleListen hserves hc hstate hset hdr
  | connect command => exact h.handleConnectCommand hserves hstate hset hdr command
  | listDevices => exact h.sendPlistPkt hserves (h.tock hset) ..
  | readBuid => exact h.sendPlistPkt hserves (h.tock hset) ..
  | readPairRecord command => exact (h.handlePairRecord hserves hset hdr command).1
  | savePairRecord command => exact (h.handlePairRecord hserves hset hdr command).2.1
  | deletePairRecord command => exact (h.handlePairRecord hserves hset hdr command).2.2
  | addDevice command => exact h.withLocation hserves hset hdr command fun _ => h.emit rfl hset
  | removeDevice command => exact h.withLocation hserves hset hdr command fun _ => h.emit rfl hset
  | deviceMonitor command =>
    unfold handleDeviceMonitorCommand
    exact h.withLocation hserves hset hdr command fun _ => h.usbProcess (h.emit rfl hset)
  | unknown => exact h.sendResult hserves hset ..

theorem clientCommand (h : Upheld env greets calls serves P) (hserves : serves c) (hc : c ∈ w.clientList) (hw : P w)
    (buffer : Mem) : P (clientCommand env c buffer w) := by
  have hsend := fun result => h.sendResult hserves hw (UsbmuxdHeader.read buffer).tag result
  unfold Usbmuxd.clientCommand
  dsimp only
  split
  · split
    · exact h.closeClient (hsend _) c
    · exact hsend _
  · rename_i hstate
    replace hstate := not_not.mp hstate
    split_ifs
    · exact hsend _
    · exact h.handleClientPlistCommand hserves hc hstate hw ..
    · exact h.handleListen hserves hc hstate hw _
    · exact h.connectRequest hserves hstate hw ..
    · exact hsend _

theorem runCommand (h : Upheld env greets calls serves P) (hserves : serves c) (hc : c ∈ w.clientList) (hw : P w)
    (buffer : Mem) : P (runCommand env c buffer w) := by
  have hdone := h.clientCommand hserves hc hw buffer
  unfold Usbmuxd.runCommand
  dsimp only
  split
  · exact h.fault _ hdone
  · exact h.setClient c (fun _ => rfl) hdone

theorem processRecvBody (h : Upheld env greets calls serves P) (hserves : serves c) (hc : c ∈ w.clientList) (hw : P w)
    (didRead : Bool) : P (processRecvBody env c didRead w) := by
  unfold Usbmuxd.processRecvBody
  dsimp only
  split
  · exact h.fault _ hw
  · rename_i buffer _
    have hrecv := h.recvCommandBytes hw c (readLe32 buffer 0 - (w.clients c).ibSize)
    have hreg := registry_recvCommandBytes env c w (readLe32 buffer 0 - (w.clients c).ibSize)
    split_ifs
    · exact h.closeClient hw c
    · exact h.closeClient hw c
    · exact hw
    · exact h.closeClient hrecv c
    · exact hrecv
    · exact h.runCommand hserves (mem_clientList_of_registry hreg hc) hrecv _
    · exact h.runCommand hserves hc hw _

/-- What `process_recv` does after the entry for its call has been written. -/
theorem processRecv_called (h : Upheld env greets calls serves P) (hserves : serves c) (hc : c ∈ w.clientList)
    (hcall : P (w.emit (.processRecv c (w.clients c).ibBuf.isSome))) : P (processRecv env c w) := by
  have hrecv := h.recvCommandBytes hcall c (usbmuxdHeaderSize - (w.clients c).ibSize)
  have hreg := registry_recvCommandBytes env c (w.emit (.processRecv c (w.clients c).ibBuf.isSome))
    (usbmuxdHeaderSize - (w.clients c).ibSize)
  have hc' : c ∈ (w.emit (.processRecv c (w.clients c).ibBuf.isSome)).clientList := hc
  unfold Usbmuxd.processRecv
  dsimp only
  split_ifs
  · exact h.closeClient hrecv c
  · exact hrecv
  · exact h.processRecvBody hserves (mem_clientList_of_registry hreg hc') hrecv _
  · exact h.processRecvBody hserves hc' hcall _

theorem clientReady (h : Upheld env greets calls serves P) (hcalls : calls) (hserves : serves c) (hc : c ∈ w.clientList)
    (hw : P w) (events : Events) : P (clientReady env c events w) := by
  unfold Usbmuxd.clientReady
  split_ifs
  · exact h.deviceClientProcess hw ..
  · exact h.processRecv_called hserves hc (h.recvCall c _ hcalls hw)
  · exact h.processSend hw c
  · exact hw

theorem dispatch (h : Upheld env greets calls serves P) (hgreets : greets) (hd : d ∈ w.deviceList) (hw : P w)
    (call : Dispatch) : P (dispatch env d call w) := by
  cases call with
  | version vh => exact h.versionInput d vh hd hw
  | control payload => exact h.emit rfl hw
  | tcp th payload => exact h.deviceTcpInput hgreets hw d th payload

theorem deviceDataInput (h : Upheld env greets calls serves P) (hgreets : greets) (hw : P w) (u : UsbDevice)
    (buffer : Mem) (length : UInt32) : P (deviceDataInput env u buffer length w).1 := by
  unfold Usbmuxd.deviceDataInput
  split
  · exact hw
  · rename_i d hfound
    have hframing := h.framing d buffer length hw
    dsimp only
    split
    · exact hframing
    · refine h.dispatch hgreets ?_ hframing _
      exact SlotTable.find?_mem hfound

theorem drain (h : Upheld env greets calls serves P) (hgreets : greets) (hw : P w) (d : Ptr) (u : UsbDevice) (n : ℕ)
    (buffer : Mem) (size : UInt32) : P (drain env d u n buffer size w) := by
  induction n generalizing buffer size w with
  | zero => exact h.conn (.emit rfl w) hw
  | succ n ih =>
    have hinput := h.deviceDataInput hgreets hw u buffer size
    unfold Usbmuxd.drain
    split
    · exact hw
    · dsimp only
      split
      · exact h.fault _ hinput
      · split
        · exact hinput
        · exact ih hinput ..

theorem deviceProcessSockets (h : Upheld env greets calls serves P) (hgreets : greets) (hw : P w)
    (transfers : Ptr → Option Transfer) : P (deviceProcessSockets env transfers w) := by
  refine forEach_keeps (P := P) (fun d v _ hv => ?_) _ _ hw
  split
  · split
    · exact h.drain hgreets hv ..
    · exact hv
  · exact hv

/-! ### Operations -/

/-- An operation that accepts nothing, and neither shows a device nor announces one. -/
def Ordinary : Op → Prop
  | .clientAccept | .acceptSocket _ | .setVisible _ | .announce _ => False
  | _ => True

/-- Such operations uphold the property, if it is a client that is served whose turn it is. -/
theorem exec (h : Upheld env greets calls serves P) (hgreets : greets) (hcalls : calls) (hw : P w) {op : Op}
    (hop : Ordinary op) (hserves : ∀ c events, op = .clientReady c events → serves c) : P (exec env w op) := by
  cases op with
  | clientAccept => exact hop.elim
  | clientReady c events =>
    simp only [Usbmuxd.exec]
    split
    · rename_i hc
      exact h.clientReady hcalls (hserves c events rfl) hc hw events
    · exact hw
  | usb a => exact h.usbAction a hw
  | acceptSocket u => exact hop.elim
  | versionInput d vh =>
    simp only [Usbmuxd.exec]
    split
    · rename_i hd
      exact h.versionInput d vh hd hw
    · exact hw
  | tcpInput d th payload =>
    simp only [Usbmuxd.exec]
    split
    · exact h.deviceTcpInput hgreets hw ..
    · exact hw
  | transfer d t =>
    simp only [Usbmuxd.exec]
    split
    · exact h.drain hgreets hw ..
    · exact hw
  | checkTimeouts => exact h.deviceCheckTimeouts hw
  | setVisible id => exact hop.elim
  | announce info => exact hop.elim
  | pairingEvent info event validate => exact h.pairingEvent info event validate hw
  | preflightFinished id => exact h.devicePreflightFinished hw id

end Upheld

end Usbmuxd
