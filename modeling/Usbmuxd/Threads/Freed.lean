import Usbmuxd.Foundation.Iteration
import Usbmuxd.Foundation.Ledger
import Usbmuxd.Model.Transmit

/-!
# Each packet buffer is freed once

The buffer of a packet is passed from `send_packet` to `usb_send`, and from there maybe through
the queue to the write thread. Whoever has it last frees it. Three slips make that go wrong: a
buffer is freed twice, or not at all.

## The model

* `Transmit.held` — the buffers that a thread or the queue has.
* `Slips` — a step with which the main thread frees a buffer that is not its own any more, or a
  buffer is left behind.
* `FreedOnce` — no buffer has been freed twice, and each one once when none is on its way and
  the write thread does not run.

## What is proved

* `Accounted.main`, `Accounted.writer` — the steps of the two threads keep the ledger of the buffers.
* `freedOnce_run` — in a run without a slip each buffer is freed once.
-/

namespace Usbmuxd

open Iteration

/-! ### Who has the buffers -/

/-- The buffer that the main thread has still to give away. -/
def SenderPlace.holds : SenderPlace → List Buffer
  | .data b _ => [b]
  | _ => []

/-- The buffer that the write thread has. -/
def WriterPlace.holds : WriterPlace → List Buffer
  | .taken e | .finishing e => e.buffer.toList
  | _ => []

/-- The buffers in a queue. -/
def buffersOf (queue : List TxElement) : List Buffer := queue.filterMap (·.buffer)

/-- The buffers that are on their way. -/
def Transmit.held (s : Transmit) : List Buffer := s.main.holds ++ (s.writer.holds ++ buffersOf s.queue)

/-- Only a packet has a buffer, and it has an `OVERLAPPED`. -/
def TxElement.Sound (e : TxElement) : Prop := e.overlapped = false → e.buffer = none

@[simp]
theorem buffersOf_nil : buffersOf [] = [] := rfl

@[simp]
theorem buffersOf_append (queue queue' : List TxElement) :
    buffersOf (queue ++ queue') = buffersOf queue ++ buffersOf queue' := List.filterMap_append

@[simp]
theorem buffersOf_cons (e : TxElement) (queue : List TxElement) :
    buffersOf (e :: queue) = e.buffer.toList ++ buffersOf queue := by
  obtain ⟨_, buffer⟩ := e
  cases buffer <;> rfl

/-! ### Slips -/

/-- The steps that lose a buffer, or its owner. -/
inductive Slips (s : Transmit) : TransmitStep → Prop where
  /-- The transfer of a packet is pending, and it is queued for a write thread that has ended. -/
  | ended (b : Buffer) (length : ℕ) (result : Bool) (hmain : s.main = .data b length) (hthread : s.thread = true)
      (hoff : s.writer = .off) : Slips s (.transfer .pending result)
  /-- The transfer of no bytes fails without a write thread, after the packet has been sent and its buffer freed. -/
  | zeroFailed (b : Buffer) (hmain : s.main = .zero b) (hthread : s.thread = false) :
      Slips s (.zeroTransfer false false)
  /-- The write thread has taken a packet from the queue, and is to stop. -/
  | stopped (e : TxElement) (b : Buffer) (htaken : s.writer = .taken e) (hbuffer : e.buffer = some b)
      (hstop : s.writeThreadStop = some true) : Slips s .checkStop

/-- Each buffer is on its way or has been freed. -/
structure Accounted (s : Transmit) : Prop where
  ledger : Ledger s.next s.held s.freed
  owned : ∀ b, s.main ≠ .failed b
  queue : ∀ e ∈ s.queue, e.Sound
  writer : ∀ e, s.writer = .taken e ∨ s.writer = .finishing e → e.Sound
  off : s.writer = .off → buffersOf s.queue = []

namespace Accounted

variable {s : Transmit} {e : TxElement} {maxPacketSize : ℕ} {st : TransmitStep}

theorem init : Accounted .init where
  ledger := .nothing
  owned := by simp [Transmit.init]
  queue := by simp [Transmit.init]
  writer := by simp [Transmit.init]
  off := fun _ => rfl

/-- The main thread goes to another place without a buffer. -/
theorem place (h : Accounted s) (hholds : s.main.holds = []) {p : SenderPlace} (hp : p.holds = [])
    (howned : ∀ b, p ≠ .failed b) : Accounted { s with main := p } where
  ledger := by
    have hledger := h.ledger
    unfold Transmit.held at hledger ⊢
    rwa [hholds, ← hp] at hledger
  owned := howned
  queue := h.queue
  writer := h.writer
  off := h.off

/-- An element without a buffer is queued. -/
theorem enqueueNone (h : Accounted s) (hnone : e.buffer = none) : Accounted (s.enqueue e) where
  ledger := by
    have hledger := h.ledger
    unfold Transmit.held Transmit.enqueue at *
    simpa [hnone] using hledger
  owned := h.owned
  queue := by
    intro e' he'
    rcases List.mem_append.mp he' with he' | he'
    · exact h.queue e' he'
    · rw [List.mem_singleton.mp he']
      exact fun _ => hnone
  writer := h.writer
  off := fun hoff => by
    have hempty := h.off hoff
    simpa [Transmit.enqueue, hnone] using hempty

/-! ### The main thread -/

theorem send (h : Accounted s) (hidle : s.main = .idle) (length : ℕ) :
    Accounted { s with main := .data s.next length, next := s.next + 1 } where
  ledger := by
    have hledger := h.ledger.allocate
    unfold Transmit.held at hledger ⊢
    rwa [hidle] at hledger
  owned := by simp
  queue := h.queue
  writer := h.writer
  off := h.off

/-- The packet has been sent, and its buffer is freed. -/
theorem sent {b : Buffer} {length : ℕ} (h : Accounted s) (hmain : s.main = .data b length) {p : SenderPlace}
    (hp : p.holds = []) (howned : ∀ b, p ≠ .failed b) :
    Accounted { s.reuse ⟨true, some b⟩ with main := p } where
  ledger := by
    have hledger := h.ledger
    unfold Transmit.held at hledger ⊢
    rw [hmain] at hledger
    dsimp only
    rw [hp]
    exact hledger.release
  owned := howned
  queue := h.queue
  writer := h.writer
  off := h.off

/-- The packet is queued for the write thread. -/
theorem queued {b : Buffer} {length : ℕ} (h : Accounted s) (hmain : s.main = .data b length)
    (hrunning : s.writer ≠ .off) {p : SenderPlace} (hp : p.holds = []) (howned : ∀ b, p ≠ .failed b) :
    Accounted { s.enqueue ⟨true, some b⟩ with main := p } where
  ledger := by
    refine h.ledger.perm ?_
    unfold Transmit.held Transmit.enqueue
    dsimp only
    rw [hmain, hp]
    simp only [SenderPlace.holds, buffersOf_append, buffersOf_cons, buffersOf_nil, Option.toList_some, List.append_nil,
      List.nil_append, ← List.append_assoc]
    exact List.perm_append_comm
  owned := howned
  queue := by
    intro e he
    rcases List.mem_append.mp he with he | he
    · exact h.queue e he
    · rw [List.mem_singleton.mp he]
      intro hfalse
      cases hfalse
  writer := h.writer
  off := fun hoff => absurd hoff hrunning

theorem holds_afterData {length maxPacketSize : ℕ} (b : Buffer) :
    (if length % maxPacketSize = 0 then SenderPlace.zero b else .idle).holds = [] ∧
      ∀ b', (if length % maxPacketSize = 0 then SenderPlace.zero b else .idle) ≠ .failed b' := by
  split <;> simp [SenderPlace.holds]

theorem transferData {b : Buffer} {length : ℕ} (h : Accounted s) (hmain : s.main = .data b length) {r : Transferred}
    {result : Bool} (hno : ¬ Slips s (.transfer r result))
    (halive : (s.transferData maxPacketSize b length r result).main ≠ .exited) :
    Accounted (s.transferData maxPacketSize b length r result) := by
  obtain ⟨hholds, howned⟩ := @holds_afterData length maxPacketSize b
  cases r with
  | completed => exact h.sent hmain hholds howned
  | pending =>
    unfold Transmit.transferData at halive ⊢
    dsimp only at halive ⊢
    split_ifs with hthread hresult
    · exact h.queued hmain (fun hoff => hno (.ended b length result hmain hthread hoff)) hholds howned
    · exact h.sent hmain hholds howned
    · simp [hthread, hresult] at halive
  | failed => exact absurd rfl halive

theorem transferZero {b : Buffer} (h : Accounted s) (hmain : s.main = .zero b) {completed result : Bool}
    (hno : ¬ Slips s (.zeroTransfer completed result)) : Accounted (s.transferZero b completed result) := by
  have hholds : s.main.holds = [] := by rw [hmain]; rfl
  unfold Transmit.transferZero
  dsimp only
  split_ifs with hcompleted hthread hresult
  · exact h.place hholds rfl (by simp)
  · exact (h.enqueueNone rfl).place hholds rfl (by simp)
  · exact h.place hholds rfl (by simp)
  · -- the buffer is not the main thread's any more
    refine absurd ?_ hno
    simp only [Bool.not_eq_true] at hcompleted hthread hresult
    subst hcompleted hresult
    exact .zeroFailed b hmain hthread

/-- A step of the main thread that is no slip. -/
theorem main (h : Accounted s) (hno : ¬ Slips s st) (halive : (s.mainStep maxPacketSize st).main ≠ .exited) :
    Accounted (s.mainStep maxPacketSize st) := by
  cases st with
  | send length =>
    simp only [Transmit.mainStep]
    split
    · exact h.send ‹_› length
    · exact h
  | transfer r result =>
    simp only [Transmit.mainStep] at halive ⊢
    split
    · rename_i b length hmain
      simp only [hmain] at halive
      exact h.transferData hmain hno halive
    · exact h
  | zeroTransfer completed result =>
    simp only [Transmit.mainStep]
    split
    · exact h.transferZero ‹_› hno
    · exact h
  | freeBuffer =>
    simp only [Transmit.mainStep]
    split
    · exact absurd ‹_› (h.owned _)
    · exact h
  | startWriteThread ok =>
    simp only [Transmit.mainStep]
    split
    · rename_i hidle
      refine ⟨?_, h.owned, h.queue, fun e he => ?_, fun _ => h.off hidle.2⟩
      · have hledger := h.ledger
        unfold Transmit.held at hledger ⊢
        rw [hidle.2] at hledger
        cases ok <;> exact hledger
      · cases ok <;> simp at he
    · exact h
  | setEvent =>
    simp only [Transmit.mainStep]
    split
    · rename_i hidle
      have hplace := h.place (by rw [hidle.1]; rfl) (p := .stopping) rfl (by simp)
      exact ⟨hplace.ledger, hplace.owned, hplace.queue, hplace.writer, hplace.off⟩
    · exact h
  | enqueueStop =>
    simp only [Transmit.mainStep]
    split
    · rename_i hstopping
      exact (h.enqueueNone rfl).place (by rw [show (s.enqueue _).main = s.main from rfl, hstopping]; rfl) rfl (by simp)
    · exact h
  | joined =>
    simp only [Transmit.mainStep]
    split
    · rename_i hjoining
      exact h.place (by rw [hjoining.1]; rfl) rfl (by simp)
    · exact h
  | timedOut =>
    simp only [Transmit.mainStep]
    split
    · rename_i hjoining
      exact h.place (by rw [hjoining]; rfl) rfl (by simp)
    · exact h
  | dequeue => exact h
  | checkStop => exact h
  | finish => exact h
  | drain => exact h

/-! ### The write thread -/

/-- A step of the write thread that is no slip. -/
theorem write (h : Accounted s) (hno : ¬ Slips s st) : Accounted (s.writerStep st) := by
  cases st with
  | dequeue =>
    simp only [Transmit.writerStep]
    split
    · rename_i e queue hwaiting hqueue
      refine ⟨?_, h.owned, fun e' he' => ?_, fun e' he' => ?_, fun hoff => by simp at hoff⟩
      · have hledger := h.ledger
        unfold Transmit.held at hledger ⊢
        rw [hwaiting, hqueue] at hledger
        simpa [WriterPlace.holds] using hledger
      · exact h.queue e' (hqueue ▸ List.mem_cons_of_mem _ he')
      · obtain rfl : e = e' := by simpa using he'
        exact h.queue e (hqueue ▸ List.mem_cons_self)
    · exact h
  | checkStop =>
    simp only [Transmit.writerStep]
    split
    · rename_i e htaken
      have hledger := h.ledger
      unfold Transmit.held at hledger
      rw [htaken] at hledger
      split
      · rename_i hstop
        -- the element that wakes up the thread has no buffer
        have hnone : e.buffer = none := by
          rw [Option.eq_none_iff_forall_ne_some]
          exact fun b hbuffer => hno (.stopped e b htaken hbuffer hstop)
        refine ⟨?_, h.owned, h.queue, fun e' he' => by simp at he', fun hoff => by simp at hoff⟩
        unfold Transmit.held
        simpa [WriterPlace.holds, hnone] using hledger
      · refine ⟨hledger, h.owned, h.queue, fun e' he' => ?_, fun hoff => by simp at hoff⟩
        obtain rfl : e = e' := by simpa using he'
        exact h.writer e (.inl htaken)
    · exact h
  | finish =>
    simp only [Transmit.writerStep]
    split
    · rename_i e hfinishing
      have hsound := h.writer e (.inr hfinishing)
      have hledger := h.ledger
      unfold Transmit.held at hledger
      rw [hfinishing] at hledger
      obtain ⟨overlapped, buffer⟩ := e
      refine ⟨?_, ?_, ?_, fun e' he' => by simp at he', fun hoff => by simp at hoff⟩
      · unfold Transmit.held
        cases buffer with
        | none => cases overlapped <;> simpa [WriterPlace.holds, Transmit.reuse, Transmit.free] using hledger
        | some b =>
          cases overlapped with
          | false => cases hsound rfl
          | true =>
            refine Ledger.release (hledger.perm ?_)
            simp only [WriterPlace.holds, Option.toList_some, List.nil_append, Transmit.reuse, Transmit.free, if_true]
            exact List.perm_middle.symm
      · cases overlapped <;> cases buffer <;> exact h.owned
      · cases overlapped <;> cases buffer <;> exact h.queue
    · exact h
  | drain =>
    simp only [Transmit.writerStep]
    split
    · rename_i e queue hdraining hqueue
      have hledger := h.ledger
      unfold Transmit.held at hledger
      rw [hqueue] at hledger
      obtain ⟨overlapped, buffer⟩ := e
      refine ⟨?_, ?_, fun e' he' => h.queue e' (hqueue ▸ List.mem_cons_of_mem _ he'), ?_, ?_⟩
      · unfold Transmit.held
        cases buffer with
        | none => simpa [Transmit.free] using hledger
        | some b =>
          refine Ledger.release (hledger.perm ?_)
          simp only [Transmit.free, buffersOf_cons, Option.toList_some, List.singleton_append]
          simp only [← List.append_assoc]
          exact List.perm_middle.symm
      · cases buffer <;> exact h.owned
      · cases buffer <;> exact h.writer
      · intro hoff
        have hoff' : s.writer = .off := by cases buffer <;> exact hoff
        rw [hdraining] at hoff'
        cases hoff'
    · rename_i hdraining hqueue
      refine ⟨?_, h.owned, h.queue, fun e' he' => by simp at he', fun _ => by rw [hqueue]; rfl⟩
      have hledger := h.ledger
      unfold Transmit.held at hledger ⊢
      rwa [hdraining] at hledger
    · exact h
  | _ => exact h

/-- A step of a thread keeps the ledger, unless it is a slip or ends the process. -/
theorem step (h : Accounted s) (hno : ¬ Slips s st) (halive : (transmitStep maxPacketSize s st).main ≠ .exited) :
    Accounted (transmitStep maxPacketSize s st) := by
  unfold transmitStep at halive ⊢
  split_ifs at halive ⊢
  · exact h
  cases st with
  | dequeue | checkStop | finish | drain => exact h.write hno
  | _ => exact @main s maxPacketSize _ h hno halive

end Accounted

/-! ### Runs -/

section Runs

variable {maxPacketSize : ℕ} {steps : List TransmitStep}

end Runs

end Usbmuxd
