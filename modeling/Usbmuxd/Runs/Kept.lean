import Usbmuxd.Runs.Upheld

/-!
# What small changes keep, the functions keep

What clients are told, what they ask for and what becomes of devices is put together from a few
small changes of the daemon's memory. A property that each of these keeps, and that does not look
at connections, is upheld by every function, whatever it says about the worlds in between.

## The model

* `Kept env greets calls P` — the small changes keep `P`. A change that takes a client to
  `CLIENT_CONNECTING2` only has to if `greets` says so: it is made when a device has answered. The
  entry for a call of `process_recv` only has to if `calls` says so.

## What is proved

* `Kept.upheld` — such a property is upheld.
-/

namespace Usbmuxd

open World

/-- What a device keeps from its packets to the next. -/
structure Inlet where
  visible : Bool
  rxDataEventsSocket : Bool
  pktlen : UInt32

/-- The inlet of a device. -/
def MuxDevice.inlet (dev : MuxDevice) : Inlet := ⟨dev.visible, dev.rxDataEventsSocket, dev.pktlen⟩

/-- The entry for a call of `process_recv`. -/
def Event.isRecvCall : Event → Bool
  | .processRecv .. => true
  | _ => false

/-- The small changes keep a property. -/
structure Kept (env : Env) (greets calls : Prop) (P : World → Prop) : Prop where
  conn : ∀ {w w'}, ConnWork w w' → P w → P w'
  emit : ∀ {w e}, e.isRecvCall = false → P w → P (w.emit e)
  recvCall : ∀ {w} c b, calls → P w → P (w.emit (.processRecv c b))
  setClient : ∀ {w} c {f : MuxClient → MuxClient},
    ((f (w.clients c)).state = .connecting2 → (w.clients c).state = .connecting2 ∨ greets) →
      P w → P (w.setClient c f)
  releaseClient : ∀ {w} c, P w → P (releaseClient c w)
  setDev : ∀ {w} d {f : MuxDevice → MuxDevice}, (f (w.devs d)).inlet = (w.devs d).inlet →
    P w → P (w.setDev d f)
  framing : ∀ {w} d buffer length, P w →
    P (w.setDev d (·.setFraming (decode (w.devs d).framing buffer length).framing))
  allocDev : ∀ {w} u id, P w → P (allocDev u id w)
  registerDev : ∀ {w} d, (w.devs d).rxDataEventsSocket = false → P w → P (registerDev d w)
  releaseDev : ∀ {w} d, P w → P (releaseDev d w)

namespace Kept

variable {env : Env} {greets calls : Prop} {P : World → Prop} {w : World} {d p c : Ptr}

/-- A change of a client that leaves its state alone. -/
theorem setClient_same (h : Kept env greets calls P) {f : MuxClient → MuxClient} (hf : ∀ cl, (f cl).state = cl.state)
    (hw : P w) : P (w.setClient c f) := by
  refine h.setClient c (fun hstate => ?_) hw
  rw [hf] at hstate
  exact .inl hstate

/-- A change of a client that does not take it to `CLIENT_CONNECTING2`. -/
theorem setClient_other (h : Kept env greets calls P) {f : MuxClient → MuxClient}
    (hf : (f (w.clients c)).state ≠ .connecting2) (hw : P w) : P (w.setClient c f) :=
  h.setClient c (fun hstate => absurd hstate hf) hw

theorem tock (h : Kept env greets calls P) (hw : P w) : P w.tock := h.conn (.tock w) hw

/-! ### Messages to clients -/

theorem enlargeOutBuffer (h : Kept env greets calls P) (hw : P w) (c : Ptr) (length : UInt32) :
    P (enlargeOutBuffer env c length w).1 := by
  unfold Usbmuxd.enlargeOutBuffer
  dsimp only
  split
  · split
    · dsimp only
      exact h.setClient_same (fun _ => rfl) (h.tock hw)
    · exact h.tock hw
  · exact hw

theorem sendPkt (h : Kept env greets calls P) (hw : P w) (c : Ptr) (tag : UInt32) (msg : MsgType) (payload : List UInt8) :
    P (sendPkt env c tag msg payload w).1 := by
  have hroom := h.enlargeOutBuffer hw c (usbmuxdHeaderSize + UInt32.ofNat payload.length)
  unfold Usbmuxd.sendPkt
  dsimp only
  split
  · split
    · exact h.emit rfl hroom
    · exact h.emit rfl (h.setClient_same (fun _ => rfl) hroom)
  · exact hroom

theorem sendPlistPkt (h : Kept env greets calls P) (hw : P w) (c : Ptr) (tag : UInt32) (plist : Plist) :
    P (sendPlistPkt env c tag plist w).1 := by
  unfold Usbmuxd.sendPlistPkt
  split
  · exact h.tock hw
  · exact h.sendPkt (h.tock hw) ..

theorem sendResult (h : Kept env greets calls P) (hw : P w) (c : Ptr) (tag result : UInt32) :
    P (sendResult env c tag result w).1 := by
  unfold Usbmuxd.sendResult
  split
  · exact h.sendPlistPkt hw ..
  · exact h.sendPkt hw ..

/-- A client is told that it is connected, or that it is not. -/
theorem clientNotifyConnect (h : Kept env greets calls P) (hw : P w) (c : Ptr) {result : UInt32}
    (hgreets : result = resultOk → greets) : P (clientNotifyConnect env c result w).1 := by
  unfold Usbmuxd.clientNotifyConnect
  split
  · exact hw
  · have hsent := h.sendResult hw c (w.clients c).connectTag result
    dsimp only
    split
    · split
      · rename_i hok
        dsimp only
        exact h.setClient c (fun _ => .inr (hgreets hok)) hsent
      · dsimp only
        exact h.setClient_other (by simp) hsent
    · exact hsent

theorem notifyDeviceAdd (h : Kept env greets calls P) (hw : P w) (c : Ptr) (info : DeviceInfo) :
    P (notifyDeviceAdd env c info w).1 := by
  unfold Usbmuxd.notifyDeviceAdd
  dsimp only
  generalize hr : (if (w.clients c).protoVersion = 1 then _ else _ : World × Bool) = r
  have hsent : P r.1 := by
    subst hr
    split
    · exact h.sendPlistPkt hw ..
    · exact h.sendPkt hw ..
  split
  · exact h.emit rfl hsent
  · exact hsent

theorem notifyDeviceRemove (h : Kept env greets calls P) (hw : P w) (c : Ptr) (id : ℕ) :
    P (notifyDeviceRemove env c id w).1 := by
  unfold Usbmuxd.notifyDeviceRemove
  dsimp only
  generalize hr : (if (w.clients c).protoVersion = 1 then _ else _ : World × Bool) = r
  have hsent : P r.1 := by
    subst hr
    split
    · exact h.sendPlistPkt hw ..
    · exact h.sendPkt hw ..
  split
  · exact h.emit rfl hsent
  · exact hsent

theorem announceDevice (h : Kept env greets calls P) (hw : P w) (info : DeviceInfo) : P (announceDevice env info w) := by
  refine forEach_keeps (P := P) (fun c v _ hv => ?_) _ _ hw
  split
  · exact h.notifyDeviceAdd hv ..
  · exact hv

theorem clientDeviceRemove (h : Kept env greets calls P) (hw : P w) (id : ℕ) : P (clientDeviceRemove env id w) := by
  refine forEach_keeps (P := P) (fun c v _ hv => ?_) _ _ hw
  split
  · exact h.notifyDeviceRemove hv ..
  · exact hv

theorem clientDevicePairingEvent (h : Kept env greets calls P) (hw : P w) (info : DeviceInfo) (event : PairingEvent)
    (validate : Bool) : P (clientDevicePairingEvent env info event validate w) := by
  unfold Usbmuxd.clientDevicePairingEvent
  split
  · refine forEach_keeps (P := P) (fun c v _ hv => ?_) _ _ hw
    split
    · have hsent := h.sendPlistPkt hv c 0 (devicePairingEventPlist info event)
      dsimp only
      split
      · exact h.emit rfl hsent
      · exact hsent
    · exact hv
  · exact hw

theorem startListen (h : Kept env greets calls P) (hw : P w) (c : Ptr) : P (startListen env c w) := by
  have hall : ∀ infos v, P v → P (notifyAll env c infos v) := by
    intro infos
    induction infos with
    | nil => exact fun _ hv => hv
    | cons info rest ih =>
      intro v hv
      have hadded := h.notifyDeviceAdd hv c info
      unfold notifyAll
      dsimp only
      split
      · exact ih _ hadded
      · exact hadded
  exact hall _ _ (h.setClient_other (by simp) hw)

theorem afterSend (h : Kept env greets calls P) (hw : P w) (c : Ptr) (size : ℕ) :
    P (w.setClient c (·.afterSend size)) := by
  refine h.setClient c (fun hstate => .inl ?_) hw
  unfold MuxClient.afterSend at hstate
  split at hstate
  · split at hstate
    · cases hstate
    · exact hstate
  · exact hstate

theorem carried (h : Kept env greets calls P) : Carried env greets P where
  conn hf hw := h.conn hf hw
  emit {_ e} he hw := h.emit (by cases e <;> simp_all [Event.isQuiet, Event.isRecvCall]) hw
  setClient _ _ hf hw := h.setClient_same (fun cl => congrArg Standing.state (hf cl)) hw
  notifyConnect c _ hgreets hw := h.clientNotifyConnect hw c hgreets
  dead _ _ hw := h.setClient_other (by simp) hw
  afterSend c size hw := h.afterSend hw c size
  releaseClient c hw := h.releaseClient c hw

/-! ### Devices -/

theorem deviceVersionInput (h : Kept env greets calls P) (hw : P w) (d : Ptr) (vh : VersionHeader) :
    P (deviceVersionInput env d vh w) := by
  have hcall := h.emit (e := .versionInput d vh) rfl hw
  unfold Usbmuxd.deviceVersionInput
  dsimp only
  split
  · exact hcall
  · split
    · exact h.releaseDev d hcall
    · have hversion : P ((w.emit (.versionInput d vh)).setDev d fun dev => { dev with version := vh.major.toNat }) :=
        h.setDev d rfl hcall
      refine h.setDev d rfl (h.emit rfl (h.setDev d rfl ?_))
      split
      · exact h.conn (.sendPacket ..) hversion
      · exact hversion

theorem deviceAdd (h : Kept env greets calls P) (hw : P w) (u : UsbDevice) : P (deviceAdd env u w) := by
  have hnew := h.allocDev u (getNextDeviceId w) hw
  have hsent := ConnWork.sendPacket env (Usbmuxd.allocDev u (getNextDeviceId w) w) w.fresh .version
    (VersionHeader.bytes ⟨1, 0, 0⟩) []
  unfold Usbmuxd.deviceAdd
  dsimp only
  split
  · refine h.registerDev _ ?_ (h.conn hsent hnew)
    refine (congrArg DeviceCore.rxDataEventsSocket (hsent.core w.fresh)).trans ?_
    simp [MuxDevice.core, MuxDevice.start]
  · exact h.emit rfl (h.conn hsent hnew)

theorem deviceRemove (h : Kept env greets calls P) (hw : P w) (u : UsbDevice) : P (deviceRemove env u w) := by
  unfold Usbmuxd.deviceRemove
  split
  · exact hw
  · rename_i d _
    apply h.releaseDev
    split
    · have hdead : P (w.setDev d fun dev => { dev with state := .dead }) := h.setDev d rfl hw
      have htorn : P (tearDownAll env d (w.setDev d fun dev => { dev with state := .dead })) :=
        h.carried.tearDownAll hdead d
      unfold disconnectDevice
      refine h.setDev d rfl ?_
      split
      · exact h.clientDeviceRemove htorn _
      · exact h.clientDevicePairingEvent htorn ..
    · exact hw

theorem usbAction (h : Kept env greets calls P) (hw : P w) (a : UsbAction) : P (usbAction env a w) := by
  cases a with
  | deviceAdd u => exact h.deviceAdd hw u
  | deviceRemove u => exact h.deviceRemove hw u
  | deviceAddFailed u => exact h.clientDevicePairingEvent hw _ .removedDuringAdd false
  | errorAlreadyExists info => exact h.clientDevicePairingEvent hw info .errorDeviceAlreadyExists false

/-- Whatever client is served. -/
theorem upheld (h : Kept env greets calls P) : Upheld env greets calls (fun _ => True) P where
  toCarried := h.carried
  recvCall c b hcalls hw := h.recvCall c b hcalls hw
  reply c tag msg payload _ hw := h.sendPkt hw c tag msg payload
  request _ _ _ _ _ hw := h.setClient_other (by simp) hw
  startListen c _ _ _ hw := h.startListen hw c
  pairingEvent info event validate hw := h.clientDevicePairingEvent hw info event validate
  framing d buffer length hw := h.framing d buffer length hw
  versionInput d vh _ hw := h.deviceVersionInput hw d vh
  usbAction a hw := h.usbAction hw a

/-- An operation that accepts nothing and shows no device. -/
def Ordinary : Op → Prop
  | .clientAccept | .acceptSocket _ | .setVisible _ => False
  | _ => True

/-- Such an operation keeps what the small changes keep. -/
theorem exec (h : Kept env greets calls P) (hgreets : greets) (hcalls : calls) (hw : P w) {op : Op}
    (hop : Ordinary op) : P (exec env w op) := by
  by_cases hordinary : Upheld.Ordinary op
  · exact h.upheld.exec hgreets hcalls hw hordinary fun _ _ _ => trivial
  · cases op with
    | announce info => exact h.announceDevice hw info
    | clientAccept => exact hop.elim
    | acceptSocket u => exact hop.elim
    | setVisible id => exact hop.elim
    | _ => exact absurd trivial hordinary

theorem clientProcess (h : Kept env greets calls P) (hcalls : calls) (hw : P w) (ready : Ptr → Events) :
    P (clientProcess env ready w) :=
  forEach_keeps (P := P) (fun c _ hc hv => h.upheld.clientReady hcalls trivial hc hv (ready c)) _ _ hw

end Kept

end Usbmuxd
