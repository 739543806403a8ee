import Usbmuxd.Streams.Confined
import Usbmuxd.Streams.Unplugged

/-!
# Excuses

The code follows pointers that it has not looked at, and goes on with records that what it has called has freed. This
module says what is in the log before such a fault, and proves of what the daemon does with clients and at the end of a
connection that nothing goes wrong in it.

## The model

* `Event.excuses` — what is in the log before a fault and is why it happens: an in-buffer that overflows, a packet that
  USB refuses, a version that is not known, a client that is read from without a buffer.
* `World.since` — what a step has entered into the log.
* `Excused given` — in a step each fault is given or has an excuse in the same step.

## What is proved

* `Excused.trans`, `Excused.fault` — steps in a row, and a fault after a step.
* `safe_…` — messages, notifications and teardown, in which nothing goes wrong: a client that is told something has a
  buffer for it.
-/

namespace Usbmuxd

open World

/-! ### Excuses -/

/-- An entry that is no fault. -/
def Event.safe : Event → Bool
  | .fault _ => false
  | _ => true

/-- What is entered into the log before a fault, and is why it happens. -/
def Event.excuses (f : Fault) : Event → Bool
  | .overflow .. => f = .freedConn
  | .usbSend _ _ false => f = .freedConn || f = .nullConn
  | .versionInput _ vh => f = .freedDev && vh.major ≠ 2 && vh.major ≠ 1
  | .processRecv _ false => f = .nullIbBuf
  | _ => false

/-- What has been entered into the log since. -/
def World.since (w w' : World) : List Event := w'.log.drop w.log.length

/-- Each new fault is given, or has an excuse among the new entries. -/
def Excused (given : Fault → Prop) (w w' : World) : Prop :=
  w.Grows (fun _ => true) w' ∧ ∀ f, .fault f ∈ w.since w' → given f ∨ ∃ e ∈ w.since w', e.excuses f = true

section Excused

variable {given : Fault → Prop} {w v w' : World} {es : List Event}

theorem since_eq (hlog : w'.log = w.log ++ es) : w.since w' = es := by
  rw [World.since, hlog, List.drop_left]

theorem excused_safe (h : w.Grows Event.safe w') : Excused given w w' := by
  refine ⟨h.mono fun _ _ => rfl, fun f hf => ?_⟩
  obtain ⟨es, hlog, hsafe⟩ := h
  rw [since_eq hlog] at hf
  cases hsafe _ hf

theorem Excused.refl (given : Fault → Prop) (w : World) : Excused given w w := excused_safe (.refl _ w)

theorem since_trans (h : w.Grows (fun _ => true) v) (h' : v.Grows (fun _ => true) w') :
    w.since w' = w.since v ++ v.since w' := by
  obtain ⟨es, hlog, -⟩ := h
  obtain ⟨es', hlog', -⟩ := h'
  rw [since_eq hlog, since_eq hlog', @since_eq w w' (es ++ es') (by rw [hlog', hlog, List.append_assoc])]

theorem Excused.trans (h : Excused given w v) (h' : Excused given v w') : Excused given w w' := by
  refine ⟨h.1.trans h'.1, fun f hf => ?_⟩
  rw [since_trans h.1 h'.1] at hf ⊢
  obtain hf | hf := List.mem_append.mp hf
  · obtain hgiven | ⟨e, he, hexcuse⟩ := h.2 f hf
    · exact .inl hgiven
    · exact .inr ⟨e, List.mem_append_left _ he, hexcuse⟩
  · obtain hgiven | ⟨e, he, hexcuse⟩ := h'.2 f hf
    · exact .inl hgiven
    · exact .inr ⟨e, List.mem_append_right _ he, hexcuse⟩

/-- Something goes wrong for a reason. -/
theorem Excused.fault (h : Excused given w v) {f : Fault}
    (hreason : given f ∨ ∃ e ∈ w.since v, e.excuses f = true) : Excused given w (v.emit (.fault f)) := by
  have hone : v.Grows (fun _ => true) (v.emit (.fault f)) := .one rfl rfl
  have hsince : w.since (v.emit (.fault f)) = w.since v ++ [.fault f] := by
    rw [since_trans h.1 hone, @since_eq v _ [.fault f] rfl]
  refine ⟨h.1.trans hone, fun f' hf => ?_⟩
  rw [hsince] at hf ⊢
  have hearlier : given f' ∨ ∃ e ∈ w.since v, e.excuses f' = true := by
    obtain hf | hf := List.mem_append.mp hf
    · exact h.2 f' hf
    · cases List.mem_singleton.mp hf
      exact hreason
  obtain hgiven | ⟨e, he, hexcuse⟩ := hearlier
  · exact .inl hgiven
  · exact .inr ⟨e, List.mem_append_left _ he, hexcuse⟩

theorem safe_emit {e : Event} (he : e.safe = true) (w : World) : w.Grows Event.safe (w.emit e) := .one rfl he

end Excused

/-! ### What never goes wrong -/

section Safe

variable {env : Env} {w w' : World} {p c d : Ptr}

theorem safe_usbSend (env : Env) (d : Ptr) (bytes : List UInt8) (w : World) :
    w.Grows Event.safe (usbSend env d bytes w).1 := .one rfl rfl

theorem safe_sendPacket (env : Env) (d : Ptr) (proto : MuxProtocol) (header data : List UInt8) (w : World) :
    w.Grows Event.safe (sendPacket env d proto header data w).1 := by
  unfold sendPacket
  split
  · exact .refl _ w
  · have hcount : w.Grows Event.safe (w.setDev d (·.countPacket proto)) := .none rfl
    exact hcount.trans (safe_usbSend ..)

theorem safe_sendTcp (env : Env) (p : Ptr) (flags : UInt8) (data : List UInt8) (w : World) :
    w.Grows Event.safe (sendTcp env p flags data w).1 := by
  obtain ⟨es, hlog, hes⟩ := sendTcp_entries env p flags data w
  refine ⟨es, hlog, ?_⟩
  obtain rfl | ⟨ok, rfl⟩ := hes
  · simp [Event.safe]
  · simp [Event.safe]

theorem safe_clientRead (env : Env) (p c : Ptr) (len : UInt32) (w : World) :
    w.Grows Event.safe (clientRead env p c len w).1 := by
  unfold clientRead
  split
  · exact .refl _ w
  · dsimp only
    split
    · exact .none rfl
    · exact .one rfl rfl

theorem safe_clientWrite (env : Env) (p c : Ptr) (buffer : Mem) (len : UInt32) (w : World) :
    w.Grows Event.safe (clientWrite env p c buffer len w).1 := by
  unfold clientWrite
  split
  · exact .refl _ w
  · dsimp only
    split
    · exact .none rfl
    · exact .one rfl rfl

theorem safe_flushInBuf (env : Env) (p c : Ptr) (n : ℕ) (w : World) :
    w.Grows Event.safe (flushInBuf env p c n w) := by
  induction n generalizing w with
  | zero => exact .one rfl rfl
  | succ n ih =>
    have hwrite := safe_clientWrite env p c (w.conns p).ibBuf (w.conns p).ibSize w
    unfold flushInBuf
    dsimp only
    split
    · exact hwrite
    · split
      · exact hwrite.trans (.none rfl)
      · refine World.Grows.trans ?_ (ih _)
        exact hwrite.trans (.none rfl)

theorem safe_deviceToClient (env : Env) (p c : Ptr) (w : World) : w.Grows Event.safe (deviceToClient env p c w).1 := by
  have hwrite := safe_clientWrite env p c (w.conns p).ibBuf (w.conns p).ibSize w
  unfold deviceToClient
  dsimp only
  split
  · exact hwrite
  · exact hwrite.trans (.none rfl)

theorem safe_clientToDevice (env : Env) (p c : Ptr) (w : World) : w.Grows Event.safe (clientToDevice env p c w).1 := by
  have hread := safe_clientRead env p c (w.conns p).sendable w
  unfold clientToDevice
  dsimp only
  split
  · exact hread
  · have hsent := fun data => (hread.trans (.none rfl)).trans (safe_sendTcp env p thAck data
      ((clientRead env p c (w.conns p).sendable w).1.setConn p (·.fill (clientRead env p c (w.conns p).sendable w).2)))
    split
    · exact (hsent _).trans (.none rfl)
    · exact hsent _

theorem safe_sendTeardownRst (env : Env) (p : Ptr) (w : World) : w.Grows Event.safe (sendTeardownRst env p w) := by
  unfold sendTeardownRst
  dsimp only
  split
  · exact safe_sendTcp ..
  · exact .refl _ w

theorem safe_releaseClient (c : Ptr) (w : World) : w.Grows Event.safe (releaseClient c w) :=
  ⟨[.closeSocket c, .freeClient c], by simp, by simp [Event.safe]⟩

/-! ### Messages to clients -/

/-- A client that the daemon knows and that is not connected has a reply buffer. -/
theorem Armed.buffered (h : Armed w) (hborn : .newClient c ∈ w.log) (hstate : (w.clients c).state ≠ .connected)
    (halive : (w.clients c).state ≠ .dead) : (w.clients c).obBuf ≠ none :=
  fun hnone => (h.buffer c hborn hnone).elim hstate halive

theorem safe_sendPkt (hbuf : (w.clients c).obBuf ≠ none) (tag : UInt32) (msg : MsgType) (payload : List UInt8) :
    w.Grows Event.safe (sendPkt env c tag msg payload w).1 := by
  have hroom : w.Grows Event.safe (enlargeOutBuffer env c (usbmuxdHeaderSize + UInt32.ofNat payload.length) w).1 ∧
      ((enlargeOutBuffer env c (usbmuxdHeaderSize + UInt32.ofNat payload.length) w).1.clients c).obBuf ≠ none := by
    unfold enlargeOutBuffer
    dsimp only
    split
    · split
      · exact ⟨.none rfl, by simp⟩
      · exact ⟨.none rfl, hbuf⟩
    · exact ⟨.refl _ w, hbuf⟩
  unfold sendPkt
  dsimp only
  split
  · split
    · rename_i hnone
      exact absurd hnone hroom.2
    · exact hroom.1.trans (.one rfl rfl)
  · exact hroom.1

theorem safe_sendPlistPkt (hbuf : (w.clients c).obBuf ≠ none) (tag : UInt32) (plist : Plist) :
    w.Grows Event.safe (sendPlistPkt env c tag plist w).1 := by
  have htock : w.Grows Event.safe w.tock := .none rfl
  unfold sendPlistPkt
  split
  · exact htock
  · have hbuf' : (w.tock.clients c).obBuf ≠ none := hbuf
    exact htock.trans (safe_sendPkt hbuf' ..)

theorem safe_sendResult (hbuf : (w.clients c).obBuf ≠ none) (tag result : UInt32) :
    w.Grows Event.safe (sendResult env c tag result w).1 := by
  unfold sendResult
  split
  · exact safe_sendPlistPkt hbuf ..
  · exact safe_sendPkt hbuf ..

theorem safe_clientNotifyConnect (h : Armed w) (hborn : .newClient c ∈ w.log) (result : UInt32) :
    w.Grows Event.safe (clientNotifyConnect env c result w).1 := by
  unfold clientNotifyConnect
  split
  · exact .refl _ w
  · rename_i hstate
    have hconnecting : (w.clients c).state = .connecting1 := not_not.mp hstate
    have hbuf := h.buffered hborn (ne_of_eq_of_ne hconnecting (by decide)) (ne_of_eq_of_ne hconnecting (by decide))
    have hsent := @safe_sendResult env w c hbuf (w.clients c).connectTag result
    dsimp only
    split
    · split
      · exact hsent.trans (.none rfl)
      · exact hsent.trans (.none rfl)
    · exact hsent

theorem safe_notifyDeviceAdd (hbuf : (w.clients c).obBuf ≠ none) (info : DeviceInfo) :
    w.Grows Event.safe (notifyDeviceAdd env c info w).1 := by
  unfold notifyDeviceAdd
  dsimp only
  generalize hr : (if (w.clients c).protoVersion = 1 then _ else _ : World × Bool) = r
  have hsent : w.Grows Event.safe r.1 := by
    subst hr
    split
    · exact safe_sendPlistPkt hbuf ..
    · exact safe_sendPkt hbuf ..
  split
  · exact hsent.trans (.one rfl rfl)
  · exact hsent

theorem safe_notifyDeviceRemove (hbuf : (w.clients c).obBuf ≠ none) (id : ℕ) :
    w.Grows Event.safe (notifyDeviceRemove env c id w).1 := by
  unfold notifyDeviceRemove
  dsimp only
  generalize hr : (if (w.clients c).protoVersion = 1 then _ else _ : World × Bool) = r
  have hsent : w.Grows Event.safe r.1 := by
    subst hr
    split
    · exact safe_sendPlistPkt hbuf ..
    · exact safe_sendPkt hbuf ..
  split
  · exact hsent.trans (.one rfl rfl)
  · exact hsent

theorem safe_pairingBody (hbuf : (w.clients c).state = .listen → (w.clients c).obBuf ≠ none) (info : DeviceInfo)
    (event : PairingEvent) : w.Grows Event.safe (pairingBody env info event c w) := by
  unfold pairingBody
  split
  · rename_i hlisten
    have hsent := @safe_sendPlistPkt env w c (hbuf hlisten.1) 0 (devicePairingEventPlist info event)
    dsimp only
    split
    · exact hsent.trans (.one rfl rfl)
    · exact hsent
  · exact .refl _ w

/-- A loop in which the clients that listen are told something. -/
theorem safe_forEachClient {body : Ptr → World → World} (h : Armed w)
    (hbody : ∀ (c : Ptr) (v : World), ((v.clients c).state = .listen → (v.clients c).obBuf ≠ none) →
      v.Grows Event.safe (body c v))
    (htraffic : ∀ c v, Traffic env v (body c v)) : w.Grows Event.safe (forEachClient body w) := by
  refine (SlotTable.forEach_induct (P := fun v => w.Grows Event.safe v ∧ Armed v) ?_ _ _ _ ⟨.refl _ w, h⟩).1
  rintro c v hc ⟨hv, harmed⟩
  have hbuf : (v.clients c).state = .listen → (v.clients c).obBuf ≠ none := fun hlisten =>
    harmed.buffered (harmed.known c hc) (ne_of_eq_of_ne hlisten (by decide)) (ne_of_eq_of_ne hlisten (by decide))
  exact ⟨hv.trans (hbody c v hbuf), harmed.turns (htraffic c v).turns⟩

theorem safe_announceDevice (h : Armed w) (info : DeviceInfo) : w.Grows Event.safe (announceDevice env info w) := by
  refine @safe_forEachClient env _ _ h (fun c v hbuf => ?_) fun c v => ?_
  · split
    · rename_i hlisten
      exact safe_notifyDeviceAdd (hbuf hlisten) info
    · exact .refl _ v
  · split
    · rename_i hlisten
      exact traffic_notifyDeviceAdd env c v info (ne_of_eq_of_ne hlisten (by decide))
    · exact .refl

theorem safe_clientDeviceRemove (h : Armed w) (id : ℕ) : w.Grows Event.safe (clientDeviceRemove env id w) := by
  refine @safe_forEachClient env _ _ h (fun c v hbuf => ?_) fun c v => ?_
  · split
    · rename_i hlisten
      exact safe_notifyDeviceRemove (hbuf hlisten) id
    · exact .refl _ v
  · split
    · rename_i hlisten
      exact traffic_notifyDeviceRemove env c v id (ne_of_eq_of_ne hlisten (by decide))
    · exact .refl

theorem safe_clientDevicePairingEvent (h : Armed w) (info : DeviceInfo) (event : PairingEvent) (validate : Bool) :
    w.Grows Event.safe (clientDevicePairingEvent env info event validate w) := by
  unfold clientDevicePairingEvent
  split
  · refine @safe_forEachClient env _ (pairingBody env info event) h (fun c v hbuf => safe_pairingBody hbuf info event)
      fun c v => ?_
    unfold pairingBody
    split
    · rename_i hlisten
      have hsent := traffic_sendPlistPkt env c v 0 (devicePairingEventPlist info event)
        (ne_of_eq_of_ne hlisten.1 (by decide))
      dsimp only
      split
      · exact hsent.trans (ClientBlock.note _ _ rfl).one
      · exact hsent
    · exact .refl
  · exact .refl _ w

/-! ### Teardown -/

/-- The client of a connection is known. -/
structure Attended (p c : Ptr) (w : World) : Prop where
  client : (w.conns p).client = some c
  born : .newClient c ∈ w.log
  armed : Armed w

theorem Attended.frame {w' : World} (h : Attended p c w) (hf : ConnFrame w w')
    (hclient : (w'.conns p).client = (w.conns p).client) : Attended p c w' :=
  ⟨hclient.trans h.client, hf.log.mem h.born, h.armed.conn hf⟩

theorem Tracked.attended (h : Tracked env w) (hl : w.registry.Link d p c) : Attended p c w :=
  ⟨hl.client, h.armed.known c (h.ok.link_client hl).1, h.armed⟩

theorem safe_closeAndTearDown (env : Env) (n : ℕ) :
    (∀ c w, Armed w → .newClient c ∈ w.log → w.Grows Event.safe (clientClose env n c w)) ∧
      ∀ p w, Armed w → (∀ c, (w.conns p).client = some c → .newClient c ∈ w.log) →
        w.Grows Event.safe (connectionTeardown env n p w) := by
  induction n with
  | zero => exact ⟨fun _ w _ _ => safe_emit rfl w, fun _ w _ _ => safe_emit rfl w⟩
  | succ n ih =>
    obtain ⟨ihClose, ihTear⟩ := ih
    refine ⟨fun c w h hborn => ?_, fun p w h hborn => ?_⟩
    · unfold clientClose
      refine World.Grows.trans ?_ (safe_releaseClient ..)
      split
      · have hdead : Armed (w.setClient c fun cl => { cl with state := .dead }) := h.setClient fun _ _ => .inr rfl
        have hset : w.Grows Event.safe (w.setClient c fun cl => { cl with state := .dead }) := .none rfl
        unfold deviceAbortConnect
        split
        · rename_i p hfound
          refine hset.trans (ihTear p _ hdead fun c' hc' => ?_)
          obtain ⟨d, -, hp⟩ := Option.bind_eq_some_iff.mp hfound
          have hclient : (w.conns p).client = some c := by simpa using SlotTable.find?_pred hp
          cases hclient.symm.trans hc'
          exact hborn
        · exact hset
      · exact .refl _ w
    · unfold connectionTeardown
      split
      · exact .refl _ w
      · have hrst := safe_sendTeardownRst env p w
        have hframe := (ConnWork.sendTeardownRst env p w).toConnFrame
        have harmed := h.conn hframe
        have hclient := @sendTeardownRst_client env w p
        refine World.Grows.trans ?_ (.one (e := .freeConn p) rfl rfl)
        split
        · exact hrst
        · rename_i c hc
          have hknown : .newClient c ∈ (sendTeardownRst env p w).log := hframe.log.mem (hborn c (hclient ▸ hc))
          split
          · exact hrst.trans (safe_clientNotifyConnect harmed hknown _)
          · have hdying := harmed.setConn p (·.become .dead)
            have hset : w.Grows Event.safe ((sendTeardownRst env p w).setConn p (·.become .dead)) :=
              hrst.trans (.none rfl)
            split
            · refine (hset.trans (safe_flushInBuf ..)).trans (ihClose c _ ?_ ?_)
              · exact hdying.conn (ConnWork.flushInBuf ..).toConnFrame
              · exact (ConnWork.flushInBuf ..).log.mem hknown
            · exact hset.trans (ihClose c _ hdying hknown)

theorem safe_closeClient (h : Armed w) (hborn : .newClient c ∈ w.log) : w.Grows Event.safe (closeClient env c w) :=
  (safe_closeAndTearDown env callDepth).1 c w h hborn

theorem safe_tearDown (h : Attended p c w) : w.Grows Event.safe (tearDown env p w) := by
  refine (safe_closeAndTearDown env callDepth).2 p w h.armed fun c' hc' => ?_
  cases h.client.symm.trans hc'
  exact h.born

/-- The teardown of a connection that has lost its client. -/
theorem safe_tearDown_orphan (h : Armed w) (hclient : (w.conns p).client = none) :
    w.Grows Event.safe (tearDown env p w) :=
  (safe_closeAndTearDown env callDepth).2 p w h fun _ hc => nomatch hclient.symm.trans hc

end Safe

end Usbmuxd
