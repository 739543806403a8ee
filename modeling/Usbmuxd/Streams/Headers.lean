import Usbmuxd.Streams.FlowControl

/-!
# Every header tells the truth

With packets that can always be sent, the numbers in the header of a segment are those of
the two streams: how many bytes of the client have been sent before it, how many bytes of the
device have been accepted, and how much room there is.

## The model

* `Exact` — the numbers in a connection's record are those of its history.

## What is proved

* `Exact.step` — each step keeps them, and puts them into the segment it sends.
* `headers` — the header of every segment of every run.
-/

namespace Usbmuxd

open World Relation

/-- The numbers in the record of a connection are those of its streams. -/
structure Exact (ch : Channel) : Prop where
  credit : Credit ch
  seq : ch.conn.txSeq = ch.history.number ch.history.sent
  once : ch.history.handshakes ≤ 1
  connecting : ch.conn.state = .connecting → ch.history.handshakes = 0
  connected : ch.conn.state = .connected → ch.history.handshakes = 1
  silent : ch.history.handshakes = 0 → ch.history.sent = [] ∧ ch.history.accepted = []
  exact : ch.history.exact = true

/-- A connection does not become established by a change of its state alone. -/
theorem MuxConnState.Becomes.closing {s s' : MuxConnState} (h : s.Becomes s') : s' ≠ .connecting ∧ s' ≠ .connected := by
  cases h <;> decide

namespace Exact

variable {reliable : Prop} {ch ch' : Channel}

/-- The acknowledgement number, from the offset in the stream of the device. -/
theorem ack (h : Exact ch) : ch.conn.txAck = ch.history.number ch.history.accepted := by
  rw [h.credit.ack, History.number, History.offset]
  split
  · rename_i hzero
    rw [hzero, (h.silent hzero).2]
    rfl
  · have honce := h.once
    rw [show ch.history.handshakes = 1 by omega]

/-- Nothing that counts here changes. -/
theorem same (h : Exact ch) {conn : MuxConnection} {hist : History} (hcredit : Credit ⟨conn, hist⟩)
    (hseq : conn.txSeq = ch.conn.txSeq) (hhist : (hist.handshakes, hist.sent, hist.accepted, hist.exact) =
      (ch.history.handshakes, ch.history.sent, ch.history.accepted, ch.history.exact))
    (hstate : conn.state = .connecting ∨ conn.state = .connected → conn.state = ch.conn.state) : Exact ⟨conn, hist⟩ := by
  simp only [Prod.mk.injEq] at hhist
  obtain ⟨hhand, hsent, haccepted, hexact⟩ := hhist
  refine ⟨hcredit, ?_, hhand ▸ h.once, fun hs => ?_, fun hs => ?_, fun hzero => ?_, hexact.trans h.exact⟩
  · show conn.txSeq = hist.number hist.sent
    rw [hseq, h.seq, History.number, History.number, hhand, hsent]
  · exact hhand.trans (h.connecting ((hstate (.inl hs)).symm.trans hs))
  · exact hhand.trans (h.connected ((hstate (.inr hs)).symm.trans hs))
  · show hist.sent = [] ∧ hist.accepted = []
    rw [hsent, haccepted]
    exact h.silent (hhand.symm.trans hzero)

theorem flow (h : Exact ch) {conn : MuxConnection} (hflow : conn.flow = ch.conn.flow) : Exact ⟨conn, ch.history⟩ :=
  h.same (h.credit.flow hflow) (congrArg Flow.txSeq hflow) rfl fun _ => congrArg Flow.state hflow

/-- The header of a segment is the one its history calls for. -/
theorem header (h : Exact ch) (hstate : ch.conn.state ≠ .dead) (flags : UInt8) (data : List UInt8) (ok : Bool) :
    (ch.history.segment (ch.conn.tcpHeader flags) data ok).exact = true := by
  have hwindow := h.credit.window hstate
  have hcap := h.credit.capacity
  have hle := h.credit.capacity_le
  have hfield : (ch.conn.tcpHeader flags).win.toNat = ch.conn.txWin.toNat / 256 :=
    toNat_windowField (show ch.conn.txWin.toNat ≤ 262144 by omega)
  show (ch.history.exact && decide _) = true
  rw [h.exact, Bool.true_and, decide_eq_true_iff, hfield, h.credit.held]
  exact fun hfull => ⟨h.seq, h.ack, by omega⟩

/-- A segment that takes no byte of the client along. -/
theorem segment (h : Exact ch) (hstate : ch.conn.state ≠ .dead) (flags : UInt8) {data : List UInt8} {ok : Bool}
    (hnone : ok = true → data = []) : Exact ⟨ch.conn, ch.history.segment (ch.conn.tcpHeader flags) data ok⟩ := by
  have hsent : (ch.history.segment (ch.conn.tcpHeader flags) data ok).sent = ch.history.sent := by
    cases ok with
    | false => rfl
    | true => simp [hnone rfl]
  refine ⟨h.credit.segment hstate flags data ok, ?_, h.once, h.connecting, h.connected, fun hzero => ?_,
    h.header hstate flags data ok⟩
  · show ch.conn.txSeq = ch.history.number (ch.history.segment (ch.conn.tcpHeader flags) data ok).sent
    rw [hsent]
    exact h.seq
  · show (ch.history.segment (ch.conn.tcpHeader flags) data ok).sent = [] ∧ _
    rw [hsent]
    exact h.silent hzero

/-- The numbers move past the handshake. -/
theorem handshake (h : Exact ch) (hstate : ch.conn.state = .connecting) :
    Exact ⟨ch.conn.handshake.become .connected, ch.history.handshake⟩ := by
  have hzero := h.connecting hstate
  obtain ⟨hsent, haccepted⟩ := h.silent hzero
  have hseq : ch.conn.txSeq = 0 := by rw [h.seq, History.number, if_pos hzero]; rfl
  have hone : ch.history.handshake.handshakes = 1 := by simp [hzero]
  refine ⟨h.credit.handshake.same rfl rfl rfl rfl fun _ => by simp [hstate], ?_, hone.le, fun hs => by simp at hs,
    fun _ => hone, fun hzero => absurd (hone.symm.trans hzero) (by decide), h.exact⟩
  show ch.conn.txSeq + 1 = ch.history.handshake.number ch.history.sent
  rw [hseq, History.number, hone, hsent]
  rfl

/-- Bytes of the client are sent. -/
theorem upload (h : Exact ch) (hstate : ch.conn.state = .connected) (bs : List UInt8) :
    Exact ⟨ch.conn.advance bs.length, (ch.history.receive bs).segment (ch.conn.tcpHeader thAck) bs true⟩ := by
  have halive : ch.conn.state ≠ .dead := by rw [hstate]; decide
  have hone := h.connected hstate
  have hread : Exact ⟨ch.conn, ch.history.receive bs⟩ := h.same (h.credit.receive bs) rfl rfl fun _ => rfl
  refine ⟨(hread.credit.segment halive thAck bs true).same rfl rfl rfl rfl fun _ => halive, ?_, h.once, h.connecting,
    h.connected, fun hzero => absurd (hone.symm.trans hzero) (by decide), hread.header halive ..⟩
  show ch.conn.txSeq + UInt32.ofNat bs.length = ch.history.number (ch.history.sent ++ bs)
  rw [h.seq, History.number, History.number, if_neg (by omega), if_neg (by omega), List.length_append, ← Nat.add_assoc,
    ← UInt32.ofNat_add]

/-- A step keeps the numbers. -/
theorem step (h : Exact ch) (hr : reliable) (hs : Channel.Step reliable ch ch') : Exact ch' := by
  have hcredit := h.credit.step hs
  cases hs with
  | quiet conn hflow => exact h.flow hflow
  | start d c sport dport =>
    exact ⟨hcredit, rfl, Nat.zero_le _, fun _ => rfl, (fun hs => by cases hs), fun _ => ⟨rfl, rfl⟩, h.exact⟩
  | become s hs => exact h.same hcredit rfl rfl fun hstate => absurd hstate (not_or.mpr hs.closing)
  | established conn hstate hflow =>
    exact ((h.handshake hstate).segment (by simp) thAck fun _ => rfl).flow hflow
  | unanswered conn _ _ hfail => exact absurd hr hfail
  | segment flags conn ok hstate hflow => exact (h.segment hstate flags fun _ => rfl).flow hflow
  | accept payload hstate =>
    have hone := h.connected hstate
    exact ⟨hcredit, h.seq, h.once, h.connecting, h.connected, fun hzero => absurd (hone.symm.trans hzero) (by decide),
      h.exact⟩
  | overflow payload => exact h.same hcredit rfl rfl fun _ => rfl
  | deliver size => exact h.same hcredit rfl rfl fun _ => rfl
  | flush size => exact h.same hcredit rfl rfl fun _ => rfl
  | refresh => exact h.same hcredit rfl rfl fun _ => rfl
  | free => exact h.same hcredit rfl rfl fun _ => rfl

theorem steps (h : Exact ch) (hr : reliable) (hs : Channel.Steps reliable ch ch') : Exact ch' := by
  induction hs with
  | refl => exact h
  | tail _ hstep ih => exact ih.step hr hstep

theorem turn (h : Exact ch) (hr : reliable) (ht : Channel.Turn reliable ch ch') : Exact ch' := by
  cases ht with
  | step hs => exact h.step hr hs
  | upload bs conn hstate _ hflow => exact (h.upload hstate bs).flow hflow
  | failedUpload bs conn hstate _ hflow hsteps =>
    have hread : Exact ⟨ch.conn, ch.history.receive bs⟩ := h.same (h.credit.receive bs) rfl rfl fun _ => rfl
    have hlost : Exact ⟨ch.conn, (ch.history.receive bs).segment (ch.conn.tcpHeader thAck) bs false⟩ :=
      hread.segment (by rw [hstate]; decide) thAck fun hok => by cases hok
    exact (hlost.flow hflow).steps hr hsteps

theorem turns (h : Exact ch) (hr : reliable) (ht : Channel.Turns reliable ch ch') : Exact ch' := by
  induction ht with
  | refl => exact h
  | tail _ hturn ih => exact ih.turn hr hturn

end Exact

theorem exact_init (p : Ptr) : Exact (World.init.channel p) where
  credit := credit_init p
  seq := rfl
  once := Nat.zero_le _
  connecting := fun _ => rfl
  connected := fun hs => nomatch hs
  silent := fun _ => ⟨rfl, rfl⟩
  exact := rfl

/-- In every run in which packets can be sent the numbers are those of the streams. -/
theorem exact_run {env : Env} (hsends : env.Sends) (ops : List Op) (p : Ptr) : Exact ((run env ops).channel p) :=
  (exact_init p).turns hsends (channel_run env ops p)

/-- In every run in which packets can be sent, every segment of a connection carries the
number of bytes of the client that have been sent before it, the number of bytes of the
device that have been accepted (each counted from `1` on, and `0` before the `SYN|ACK`), and
the free space of the in-buffer in units of 256 bytes. -/
theorem headers {env : Env} (hsends : env.Sends) (ops : List Op) (p : Ptr) {before after : List Event} {th : TcpHdr}
    {data : List UInt8} {ok : Bool} (hlog : (run env ops).log = before ++ .segment p th data ok :: after)
    (hstart : .start p ∈ before) :
    let h := before.foldl (History.note p) {}
    th.seq = (if h.handshakes = 0 then 0 else UInt32.ofNat (1 + h.sent.length)) ∧
      th.ack = (if h.handshakes = 0 then 0 else UInt32.ofNat (1 + h.accepted.length)) ∧
        th.win.toNat = (connInbufSize.toNat - h.held) / 256 := by
  have hexact := (exact_run hsends ops p).exact
  have hfull : (before.foldl (History.note p) {}).capacity = connInbufSize.toNat :=
    history_capacity (w := { World.init with log := before }) hstart
  rw [World.channel, World.history, hlog, List.foldl_append, List.foldl_cons] at hexact
  have hthen := History.good_of_foldl (P := fun h => h.exact = true) (fun _ _ => History.good_of_note.2.2) hexact
  rw [History.note_self rfl] at hthen
  obtain ⟨hseq, hack, hwin⟩ := of_decide_eq_true (Bool.and_eq_true_iff.mp hthen).2 hfull
  refine ⟨hseq.trans ?_, hack.trans ?_, hwin⟩ <;>
  · unfold History.number
    split <;> rfl

/-- The answer to a `SYN|ACK`. -/
theorem headers_handshake :
    let th : TcpHdr := ⟨1, 80, 1, 1, 0x50, thAck, 1024, 0, 0⟩
    let h := ((run .asking connectOps).log.take 12).foldl (History.note 3) {}
    th.seq = (if h.handshakes = 0 then 0 else UInt32.ofNat (1 + h.sent.length)) ∧
      th.ack = (if h.handshakes = 0 then 0 else UInt32.ofNat (1 + h.accepted.length)) ∧
        th.win.toNat = (connInbufSize.toNat - h.held) / 256 := by
  have hlog : (run .asking connectOps).log = (run .asking connectOps).log.take 12 ++
      .segment 3 ⟨1, 80, 1, 1, 0x50, thAck, 1024, 0, 0⟩ [] true :: (run .asking connectOps).log.drop 13 := by
    decide +kernel
  have hsends : Env.Sends .asking := fun _ => rfl
  exact headers hsends connectOps 3 hlog (by decide +kernel)

end Usbmuxd
