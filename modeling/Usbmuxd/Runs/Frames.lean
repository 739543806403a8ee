import Usbmuxd.Runs.Blocks

/-!
# What a step leaves alone

A step on connections changes no client and of a device only its counters and its list of
connections; a step on clients changes nothing else; a step on devices changes neither. And
each kind of step writes its own kind of entries into the log.

## What is proved

* `ConnBlock.frame`, `ClientBlock.frame`, `DeviceBlock.frame` — one step.
* `Traffic.devices` — traffic leaves the devices and their list as they are.
* `Work.log` — the log only grows.
-/

namespace Usbmuxd

open World Relation

/-- The entries a step on connections writes. -/
def Event.ofConn : Event → Bool
  | .usbSend .. | .segment .. | .start .. | .synAck .. | .accepted .. | .overflow .. | .wrote .. | .read ..
  | .freeConn .. | .fault .. | .outOfFuel .. => true
  | _ => false

/-- The entries a step on clients writes. -/
def Event.ofClient : Event → Bool
  | .sent .. | .queued .. | .newClient .. | .attached .. | .detached .. | .pairing .. | .processRecv .. | .pending ..
  | .closeSocket .. | .freeClient .. | .fault .. => true
  | _ => false

/-- The entries a step on devices writes. -/
def Event.ofDevice : Event → Bool
  | .versionInput .. | .controlInput .. | .tcpInput .. | .freeDev .. | .preflight .. => true
  | _ => false

theorem Event.ofClient_of_isClientNote (e : Event) (h : e.isClientNote = true) : e.ofClient = true := by
  cases e <;> simp_all [isClientNote, ofClient]

theorem Event.ofDevice_of_isCall (e : Event) (h : e.isCall = true) : e.ofDevice = true := by
  cases e <;> simp_all [isCall, ofDevice]

theorem Event.not_ofDevice (e : Event) (h : e.ofConn = true ∨ e.ofClient = true) : (!e.ofDevice) = true := by
  cases e <;> simp_all [ofConn, ofClient, ofDevice]

/-- The log has grown by entries of one kind. -/
def World.Grows (kind : Event → Bool) (w w' : World) : Prop :=
  ∃ es, w'.log = w.log ++ es ∧ ∀ e ∈ es, kind e = true

/-- What traffic leaves alone of a device. -/
@[ext]
structure DeviceCore where
  usbdev : UsbDevice
  id : ℕ
  state : MuxDevState
  visible : Bool
  version : ℕ
  pktbuf : Mem
  pktlen : UInt32
  rxDataEventsSocket : Bool

/-- The core of a device. -/
def MuxDevice.core (dev : MuxDevice) : DeviceCore :=
  ⟨dev.usbdev, dev.id, dev.state, dev.visible, dev.version, dev.pktbuf, dev.pktlen, dev.rxDataEventsSocket⟩

namespace World.Grows

variable {kind : Event → Bool} {w w' w'' : World}

theorem refl (kind : Event → Bool) (w : World) : Grows kind w w := ⟨[], by simp, by simp⟩

theorem trans (h : Grows kind w w') (h' : Grows kind w' w'') : Grows kind w w'' := by
  obtain ⟨es, hlog, hkind⟩ := h
  obtain ⟨es', hlog', hkind'⟩ := h'
  refine ⟨es ++ es', by rw [hlog', hlog, List.append_assoc], fun e he => ?_⟩
  rcases List.mem_append.mp he with he | he
  · exact hkind e he
  · exact hkind' e he

theorem one {e : Event} (hlog : w'.log = w.log ++ [e]) (h : kind e = true) : Grows kind w w' :=
  ⟨[e], hlog, by simpa using h⟩

theorem none (hlog : w'.log = w.log) : Grows kind w w' := ⟨[], by simpa using hlog, by simp⟩

theorem mono {kind' : Event → Bool} (h : Grows kind w w') (hk : ∀ e, kind e = true → kind' e = true) :
    Grows kind' w w' := by
  obtain ⟨es, hlog, hkind⟩ := h
  exact ⟨es, hlog, fun e he => hk e (hkind e he)⟩

/-- What is in the log stays there. -/
theorem mem (h : Grows kind w w') {e : Event} (he : e ∈ w.log) : e ∈ w'.log := by
  obtain ⟨es, hlog, -⟩ := h
  rw [hlog]
  exact List.mem_append_left es he

/-- An entry of another kind was there before. -/
theorem old (h : Grows kind w w') {e : Event} (hk : kind e = false) (he : e ∈ w'.log) : e ∈ w.log := by
  obtain ⟨es, hlog, hkind⟩ := h
  rw [hlog, List.mem_append] at he
  refine he.resolve_right fun he => ?_
  rw [hkind e he] at hk
  cases hk

end World.Grows

/-! ### Steps on connections -/

/-- What a step on connections leaves alone. -/
structure ConnFrame (w w' : World) : Prop where
  clients : w'.clients = w.clients
  clientList : w'.clientList = w.clientList
  deviceList : w'.deviceList = w.deviceList
  nextDeviceId : w'.nextDeviceId = w.nextDeviceId
  core : ∀ d, (w'.devs d).core = (w.devs d).core
  log : w.Grows Event.ofConn w'

section ConnFrame

variable {env : Env} {w w' w'' : World}

theorem ConnFrame.trans (h : ConnFrame w w') (h' : ConnFrame w' w'') : ConnFrame w w'' :=
  ⟨h'.clients.trans h.clients, h'.clientList.trans h.clientList, h'.deviceList.trans h.deviceList,
    h'.nextDeviceId.trans h.nextDeviceId, fun d => (h'.core d).trans (h.core d), h.log.trans h'.log⟩

theorem ConnFrame.emit {e : Event} (h : e.ofConn = true) (w : World) : ConnFrame w (w.emit e) :=
  ⟨rfl, rfl, rfl, rfl, fun _ => rfl, .one rfl h⟩

theorem ConnFrame.tock (w : World) : ConnFrame w w.tock := ⟨rfl, rfl, rfl, rfl, fun _ => rfl, .none rfl⟩

theorem ConnFrame.setConn (p : Ptr) (f : MuxConnection → MuxConnection) (w : World) : ConnFrame w (w.setConn p f) :=
  ⟨rfl, rfl, rfl, rfl, fun _ => rfl, .none rfl⟩

theorem ConnFrame.setDev {d : Ptr} {f : MuxDevice → MuxDevice} (h : (f (w.devs d)).core = (w.devs d).core) :
    ConnFrame w (w.setDev d f) := by
  refine ⟨rfl, rfl, rfl, rfl, fun d' => ?_, .none rfl⟩
  by_cases hd : d' = d
  · subst hd
    simpa using h
  · simp [hd]

theorem ConnFrame.sendPacket (env : Env) (d : Ptr) (proto : MuxProtocol) (header data : List UInt8) (w : World) :
    ConnFrame w (sendPacket env d proto header data w).1 := by
  unfold Usbmuxd.sendPacket
  split
  · exact ⟨rfl, rfl, rfl, rfl, fun _ => rfl, .none rfl⟩
  · refine (ConnFrame.setDev ?_).trans ((ConnFrame.tock _).trans (.emit rfl _))
    unfold MuxDevice.countPacket
    split <;> rfl

theorem ConnFrame.sendTcp (env : Env) (p : Ptr) (flags : UInt8) (data : List UInt8) (w : World) :
    ConnFrame w (sendTcp env p flags data w).1 := by
  unfold Usbmuxd.sendTcp
  dsimp only
  generalize hr : Usbmuxd.sendPacket env (w.conns p).dev .tcp ((w.conns p).tcpHeader flags).bytes data w = r
  have hsend : ConnFrame w r.1 := hr ▸ .sendPacket ..
  have hsegment : ConnFrame w (r.1.emit (.segment p ((w.conns p).tcpHeader flags) data r.2)) :=
    hsend.trans (.emit rfl _)
  split
  · dsimp only
    exact (hsegment.trans (.tock _)).trans (.setConn p _ _)
  · exact hsegment

theorem ConnFrame.clientRead (env : Env) (p c : Ptr) (len : UInt32) (w : World) :
    ConnFrame w (clientRead env p c len w).1 := by
  unfold Usbmuxd.clientRead
  split
  · exact ⟨rfl, rfl, rfl, rfl, fun _ => rfl, .none rfl⟩
  · dsimp only
    split
    · exact .tock w
    · exact (ConnFrame.tock w).trans (.emit rfl _)

theorem ConnFrame.clientToDevice (env : Env) (p c : Ptr) (w : World) :
    ConnFrame w (clientToDevice env p c w).1 := by
  unfold Usbmuxd.clientToDevice
  dsimp only
  generalize hr : Usbmuxd.clientRead env p c (w.conns p).sendable w = r
  have hread : ConnFrame w r.1 := hr ▸ .clientRead ..
  split
  · exact hread
  · generalize hs : Usbmuxd.sendTcp env p thAck _ (r.1.setConn p (·.fill r.2)) = s
    have hsend : ConnFrame (r.1.setConn p (·.fill r.2)) s.1 := hs ▸ .sendTcp ..
    have hsent := (hread.trans (.setConn p (·.fill r.2) _)).trans hsend
    split
    · dsimp only
      exact hsent.trans (.setConn p _ _)
    · exact hsent

theorem ConnFrame.answered (p : Ptr) (w : World) : ConnFrame w (answered p w) := (ConnFrame.emit rfl w).trans (.setConn p _ _)

/-- A step on connections. -/
theorem ConnBlock.frame (h : ConnBlock env w w') : ConnFrame w w' := by
  cases h with
  | fault f => exact .emit rfl w
  | outOfFuel l => exact .emit rfl w
  | tock => exact .tock w
  | packet d proto header data => exact .sendPacket env d proto header data w
  | segment p flags => exact .sendTcp env p flags [] w
  | start d c sport dport => exact ⟨rfl, rfl, rfl, rfl, fun _ => rfl, .one rfl rfl⟩
  | nextSport d port => exact .setDev rfl
  | register d p => exact .setDev rfl
  | hear p th => exact .setConn p _ w
  | established p => exact ((ConnFrame.answered p w).trans (.sendTcp env p thAck [] _)).trans (.setConn p _ _)
  | unanswered p => exact (ConnFrame.answered p w).trans (.sendTcp env p thAck [] _)
  | state p s => exact .setConn p _ w
  | orphan p => exact .setConn p _ w
  | accept p payload => exact (ConnFrame.emit rfl w).trans ((ConnFrame.setConn p _ _).trans (.setConn p _ _))
  | overflow p payload => exact .emit rfl w
  | deliver p c size => exact (ConnFrame.tock w).trans ((ConnFrame.emit rfl _).trans (.setConn p _ _))
  | flush p c size => exact (ConnFrame.tock w).trans ((ConnFrame.emit rfl _).trans (.setConn p _ _))
  | refresh p => exact .setConn p _ w
  | release p => exact (ConnFrame.setDev rfl).trans (.emit rfl _)
  | free p => exact .emit rfl w

end ConnFrame

/-! ### Steps on clients -/

/-- What a step on clients leaves alone. -/
structure ClientFrame (w w' : World) : Prop where
  conns : w'.conns = w.conns
  devs : w'.devs = w.devs
  deviceList : w'.deviceList = w.deviceList
  nextDeviceId : w'.nextDeviceId = w.nextDeviceId
  log : w.Grows Event.ofClient w'

section ClientFrame

variable {env : Env} {w w' w'' : World}

theorem ClientFrame.trans (h : ClientFrame w w') (h' : ClientFrame w' w'') : ClientFrame w w'' :=
  ⟨h'.conns.trans h.conns, h'.devs.trans h.devs, h'.deviceList.trans h.deviceList,
    h'.nextDeviceId.trans h.nextDeviceId, h.log.trans h'.log⟩

theorem ClientFrame.emit {e : Event} (h : e.ofClient = true) (w : World) : ClientFrame w (w.emit e) :=
  ⟨rfl, rfl, rfl, rfl, .one rfl h⟩

theorem ClientFrame.tock (w : World) : ClientFrame w w.tock := ⟨rfl, rfl, rfl, rfl, .none rfl⟩

theorem ClientFrame.setClient (c : Ptr) (f : MuxClient → MuxClient) (w : World) : ClientFrame w (w.setClient c f) :=
  ⟨rfl, rfl, rfl, rfl, .none rfl⟩

theorem ClientFrame.enlargeOutBuffer (env : Env) (c : Ptr) (length : UInt32) (w : World) :
    ClientFrame w (enlargeOutBuffer env c length w).1 := by
  unfold Usbmuxd.enlargeOutBuffer
  dsimp only
  split
  · split
    · dsimp only
      exact (ClientFrame.tock w).trans (.setClient c _ _)
    · exact .tock w
  · exact ⟨rfl, rfl, rfl, rfl, .none rfl⟩

theorem ClientFrame.sendPkt (env : Env) (c : Ptr) (tag : UInt32) (msg : MsgType) (payload : List UInt8) (w : World) :
    ClientFrame w (sendPkt env c tag msg payload w).1 := by
  unfold Usbmuxd.sendPkt
  have hroom := ClientFrame.enlargeOutBuffer env c (usbmuxdHeaderSize + UInt32.ofNat payload.length) w
  dsimp only
  split
  · split
    · exact hroom.trans (.emit rfl _)
    · exact hroom.trans ((ClientFrame.setClient c _ _).trans (.emit rfl _))
  · exact hroom

/-- A step on clients. -/
theorem ClientBlock.frame (h : ClientBlock env w w') : ClientFrame w w' := by
  cases h with
  | note e _ h =>
    exact .emit (e.ofClient_of_isClientNote h) w
  | accept => exact ⟨rfl, rfl, rfl, rfl, .one rfl rfl⟩
  | send c tag msg payload => exact .sendPkt env c tag msg payload w
  | setEvents c events =>
    unfold clientSetEvents
    split
    · exact .setClient c _ w
    · exact .setClient c _ w
    · exact ⟨rfl, rfl, rfl, rfl, .none rfl⟩
  | reply c size => exact (ClientFrame.tock w).trans ((ClientFrame.emit rfl _).trans (.setClient c _ _))
  | recv c len =>
    unfold recvCommandBytes
    split
    · exact .tock w
    · dsimp only
      exact (ClientFrame.tock w).trans (.setClient c _ _)
  | release c => exact ⟨rfl, rfl, rfl, rfl, ⟨_, rfl, by simp [Event.ofClient]⟩⟩
  | _ => exact ⟨rfl, rfl, rfl, rfl, .none rfl⟩

end ClientFrame

/-! ### Steps on devices -/

/-- What a step on devices leaves alone. -/
structure DeviceFrame (w w' : World) : Prop where
  conns : w'.conns = w.conns
  clients : w'.clients = w.clients
  clientList : w'.clientList = w.clientList
  log : w.Grows Event.ofDevice w'

section Frames

variable {env : Env} {w w' : World}

/-- A step on devices. -/
theorem DeviceBlock.frame (h : DeviceBlock w w') : DeviceFrame w w' := by
  cases h with
  | call e _ h =>
    exact ⟨rfl, rfl, rfl, .one rfl (e.ofDevice_of_isCall h)⟩
  | free d => exact ⟨rfl, rfl, rfl, .one rfl rfl⟩
  | release d => exact ⟨rfl, rfl, rfl, .one rfl rfl⟩
  | preflight id => exact ⟨rfl, rfl, rfl, .one rfl rfl⟩
  | _ => exact ⟨rfl, rfl, rfl, .none rfl⟩

/-! ### Sequences -/

/-- What traffic leaves alone. -/
structure TrafficFrame (w w' : World) : Prop where
  deviceList : w'.deviceList = w.deviceList
  nextDeviceId : w'.nextDeviceId = w.nextDeviceId
  core : ∀ d, (w'.devs d).core = (w.devs d).core
  log : w.Grows (fun e => !e.ofDevice) w'

theorem TrafficBlock.frame (h : TrafficBlock env w w') : TrafficFrame w w' := by
  cases h with
  | conn h =>
    have hf := h.frame
    exact ⟨hf.deviceList, hf.nextDeviceId, hf.core, hf.log.mono fun e he => e.not_ofDevice (.inl he)⟩
  | client h =>
    have hf := h.frame
    exact ⟨hf.deviceList, hf.nextDeviceId, fun d => by rw [hf.devs],
      hf.log.mono fun e he => e.not_ofDevice (.inr he)⟩

/-- Traffic leaves the devices and their list as they are. -/
theorem Traffic.devices (h : Traffic env w w') : TrafficFrame w w' := by
  induction h with
  | refl => exact ⟨rfl, rfl, fun _ => rfl, .refl _ _⟩
  | tail _ hblock ih =>
    have hf := hblock.frame
    exact ⟨hf.deviceList.trans ih.deviceList, hf.nextDeviceId.trans ih.nextDeviceId,
      fun d => (hf.core d).trans (ih.core d), ih.log.trans hf.log⟩

/-- No address is handed out twice. -/
theorem Block.fresh (h : Block env w w') : w.fresh ≤ w'.fresh := by
  have hsame : ∀ {v v' : World}, v'.registry = v.registry → v.fresh ≤ v'.fresh := fun hreg =>
    (congrArg Registry.fresh hreg).ge
  cases h with
  | traffic h =>
    cases h with
    | conn h =>
      cases h with
      | packet d proto header data => exact hsame (registry_sendPacket env w d proto header data)
      | segment p flags => exact hsame (registry_sendTcp env w p flags [])
      | start d c sport dport => exact Nat.le_succ _
      | established p => exact (hsame (registry_sendTcp env (answered p w) p thAck []) : (answered p w).fresh ≤ _)
      | unanswered p => exact (hsame (registry_sendTcp env (answered p w) p thAck []) : (answered p w).fresh ≤ _)
      | _ => exact le_rfl
    | client h =>
      cases h with
      | accept => exact Nat.le_succ _
      | send c tag msg payload => exact hsame (registry_sendPkt env c w tag msg payload)
      | setEvents c events => exact hsame (registry_clientSetEvents c w events)
      | recv c len => exact hsame (registry_recvCommandBytes env c w len)
      | _ => exact le_rfl
  | device h =>
    cases h with
    | create u id => exact Nat.le_succ _
    | _ => exact le_rfl

theorem Work.fresh (h : Work env w w') : w.fresh ≤ w'.fresh := by
  induction h with
  | refl => exact le_rfl
  | tail _ hblock ih => exact ih.trans hblock.fresh

theorem Block.log (h : Block env w w') : w.Grows (fun _ => true) w' := by
  cases h with
  | traffic h => exact h.frame.log.mono fun _ _ => rfl
  | device h => exact h.frame.log.mono fun _ _ => rfl

/-- The log only grows. -/
theorem Work.log (h : Work env w w') : w.Grows (fun _ => true) w' := by
  induction h with
  | refl => exact .refl _ _
  | tail _ hblock ih => exact ih.trans hblock.log

end Frames

end Usbmuxd
