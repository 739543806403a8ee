import Usbmuxd.Foundation.Iteration
import Usbmuxd.Model.Receive

/-!
# The read thread and the main thread take turns

While the device is on the list, the buffer of its reads belongs to one of three parties: the
plugin while a read is pending, the read thread, or the main thread from the byte that tells it
of a read to the byte with which it answers. So no read is started while the main thread uses
the buffer, and each read that has completed is passed on once, and in order, before the next
one is started.

## The model

* `ReadOver` — a read is over, and the main thread has not looked at it.
* `BufferTurn` — whose turn it is: the places that the two threads can be at together.

## What is proved

* `BufferTurn.step` — a step of one of the parties gives the turn to the next one at most.
* `handOff` — in every run no read is started while the main thread uses the buffer, and no
  read is lost, passed on twice or out of order.
-/

namespace Usbmuxd

open Iteration

/-! ### Turns -/

/-- No byte is on its way. -/
structure Silent (s : Receive) : Prop where
  toMain : s.toMain = 0
  toReader : s.toReader = 0

/-- A read is over, and `usb_get_read_result` will see what it has come to. -/
inductive ReadOver (s : Receive) : Prop where
  /-- It has completed. Its size may have been reported at once. -/
  | completed (size : UInt32) (hread : s.read = .completed size) (hsize : s.dataSize = 0 ∨ s.dataSize = size)
      (hlog : s.completed = s.passed ++ [(s.buffer, size)])
  | failed (hread : s.read = .failed) (hsize : s.dataSize = 0) (hlog : s.completed = s.passed)

/-- Whose turn it is. -/
inductive BufferTurn (s : Receive) : Prop where
  /-- The read thread is about to start a read. -/
  | starting (hreader : s.reader = .starting) (hmain : s.main = .idle) (hsilent : Silent s) (hread : s.read ≠ .pending)
      (hlog : s.completed = s.passed)
  | transferring (hreader : s.reader = .transferring) (hmain : s.main = .idle) (hsilent : Silent s)
      (hread : s.read ≠ .pending) (hevent : s.event = false) (hsize : s.dataSize = 0) (hlog : s.completed = s.passed)
  /-- The plugin reads. -/
  | pending (hreader : s.reader = .waiting) (hmain : s.main = .idle) (hsilent : Silent s) (hread : s.read = .pending)
      (hevent : s.event = false) (hsize : s.dataSize = 0) (hlog : s.completed = s.passed)
  /-- The read is over, and the read thread is to tell the main thread. -/
  | signalled (hreader : s.reader = .waiting) (hmain : s.main = .idle) (hsilent : Silent s) (hevent : s.event = true)
      (hover : ReadOver s)
  | sending (hreader : s.reader = .sending) (hmain : s.main = .idle) (hsilent : Silent s) (hover : ReadOver s)
  /-- The byte is on its way. -/
  | told (hreader : s.reader = .receiving) (hmain : s.main = .idle) (htoMain : s.toMain = 1)
      (htoReader : s.toReader = 0) (hover : ReadOver s)
  /-- The main thread has the byte. -/
  | woken (hreader : s.reader = .receiving) (hmain : s.main = .woken) (hsilent : Silent s) (hover : ReadOver s)
  | passing (size processed : UInt32) (hreader : s.reader = .receiving) (hmain : s.main = .passing size processed)
      (hsilent : Silent s) (hread : s.read ≠ .pending) (hlog : s.completed = s.passed)
      (hlast : s.passed.getLast? = some (s.buffer, size))
  /-- The answer is on its way. -/
  | answered (hreader : s.reader = .receiving) (hmain : s.main = .idle) (htoMain : s.toMain = 0)
      (htoReader : s.toReader = 1) (hread : s.read ≠ .pending) (hlog : s.completed = s.passed)
  /-- A read has failed: the main thread does not answer, or the read thread has ended. -/
  | finished (hreader : s.reader = .receiving ∨ s.reader = .ended) (hmain : s.main = .idle) (hsilent : Silent s)
      (hread : s.read ≠ .pending) (hlog : s.completed = s.passed)

theorem ReadOver.notPending {s : Receive} (h : ReadOver s) : s.read ≠ .pending := by
  cases h with
  | completed size hread => simp [hread]
  | failed hread => simp [hread]

/-- What leaves the read alone does not change what the main thread will see. -/
theorem ReadOver.same {s s' : Receive} (h : ReadOver s) (hread : s'.read = s.read) (hsize : s'.dataSize = s.dataSize)
    (hbuffer : s'.buffer = s.buffer) (hcompleted : s'.completed = s.completed) (hpassed : s'.passed = s.passed) :
    ReadOver s' := by
  cases h with
  | completed size hr hs hlog =>
    exact .completed size (hread.trans hr) (hsize ▸ hs) (by rw [hcompleted, hpassed, hbuffer, hlog])
  | failed hr hs hlog => exact .failed (hread.trans hr) (hsize.trans hs) (by rw [hcompleted, hpassed, hlog])

namespace BufferTurn

variable {s : Receive}

/-! ### The read thread -/

theorem resetEvent (h : BufferTurn s) (hreader : s.reader = .starting) :
    BufferTurn { s with event := false, dataSize := 0, reader := .transferring } := by
  cases h with
  | starting _ hmain hsilent hread hlog => exact .transferring rfl hmain ⟨hsilent.1, hsilent.2⟩ hread rfl rfl hlog
  | _ => simp_all

theorem startRead (h : BufferTurn s) (hreader : s.reader = .transferring) (answer : ReadAnswer) :
    BufferTurn (s.transferred answer) := by
  cases h with
  | transferring _ hmain hsilent hread hevent hsize hlog =>
    cases answer with
    | completed t =>
      refine .signalled rfl hmain ⟨hsilent.1, hsilent.2⟩ rfl (.completed t.size rfl (.inr rfl) ?_)
      simp [Receive.transferred, Receive.fill, hlog]
    | pending => exact .pending rfl hmain ⟨hsilent.1, hsilent.2⟩ rfl hevent hsize hlog
    | failed => exact .finished (.inr rfl) hmain ⟨hsilent.1, hsilent.2⟩ (by simp [Receive.transferred]) hlog
  | _ => simp_all

theorem wait (h : BufferTurn s) (hreader : s.reader = .waiting) (hevent : s.event = true) :
    BufferTurn { s with event := false, reader := .sending } := by
  cases h with
  | signalled _ hmain hsilent _ hover =>
    exact .sending rfl hmain ⟨hsilent.1, hsilent.2⟩ (hover.same rfl rfl rfl rfl rfl)
  | _ => simp_all

theorem sendData (h : BufferTurn s) (hreader : s.reader = .sending) :
    BufferTurn { s with toMain := s.toMain + 1, reader := .receiving } := by
  cases h with
  | sending _ hmain hsilent hover =>
    exact .told rfl hmain (by simp [hsilent.toMain]) hsilent.toReader (hover.same rfl rfl rfl rfl rfl)
  | finished hends => simp_all
  | _ => simp_all

theorem recvAnswer (h : BufferTurn s) (hreader : s.reader = .receiving) (hbyte : 0 < s.toReader) :
    BufferTurn { s with toReader := s.toReader - 1, reader := .starting } := by
  cases h with
  | answered _ hmain htoMain htoReader hread hlog =>
    exact .starting rfl hmain ⟨htoMain, by simp [htoReader]⟩ hread hlog
  | told _ _ _ htoReader => simp_all
  | woken _ _ hsilent | passing _ _ _ _ hsilent | finished _ _ hsilent => simp_all [hsilent.toReader]
  | _ => simp_all

/-! ### The plugin -/

theorem complete (h : BufferTurn s) (hread : s.read = .pending) (t : Transfer) :
    BufferTurn { s.fill t with event := true } := by
  cases h with
  | pending hreader hmain hsilent _ _ hsize hlog =>
    refine .signalled hreader hmain ⟨hsilent.1, hsilent.2⟩ rfl (.completed t.size rfl (.inl hsize) ?_)
    simp [Receive.fill, hlog]
  | signalled _ _ _ _ hover | sending _ _ _ hover | told _ _ _ _ hover | woken _ _ _ hover =>
    exact absurd hread hover.notPending
  | _ => simp_all

theorem fail (h : BufferTurn s) (hread : s.read = .pending) : BufferTurn { s with read := .failed, event := true } := by
  cases h with
  | pending hreader hmain hsilent _ _ hsize hlog =>
    exact .signalled hreader hmain ⟨hsilent.1, hsilent.2⟩ rfl (.failed rfl hsize hlog)
  | signalled _ _ _ _ hover | sending _ _ _ hover | told _ _ _ _ hover | woken _ _ _ hover =>
    exact absurd hread hover.notPending
  | _ => simp_all

/-! ### The main thread -/

theorem accept (h : BufferTurn s) : BufferTurn { s with accepted := true } := by
  cases h with
  | starting hreader hmain hsilent hread hlog => exact .starting hreader hmain ⟨hsilent.1, hsilent.2⟩ hread hlog
  | transferring hreader hmain hsilent hread hevent hsize hlog =>
    exact .transferring hreader hmain ⟨hsilent.1, hsilent.2⟩ hread hevent hsize hlog
  | pending hreader hmain hsilent hread hevent hsize hlog =>
    exact .pending hreader hmain ⟨hsilent.1, hsilent.2⟩ hread hevent hsize hlog
  | signalled hreader hmain hsilent hevent hover =>
    exact .signalled hreader hmain ⟨hsilent.1, hsilent.2⟩ hevent (hover.same rfl rfl rfl rfl rfl)
  | sending hreader hmain hsilent hover =>
    exact .sending hreader hmain ⟨hsilent.1, hsilent.2⟩ (hover.same rfl rfl rfl rfl rfl)
  | told hreader hmain htoMain htoReader hover =>
    exact .told hreader hmain htoMain htoReader (hover.same rfl rfl rfl rfl rfl)
  | woken hreader hmain hsilent hover =>
    exact .woken hreader hmain ⟨hsilent.1, hsilent.2⟩ (hover.same rfl rfl rfl rfl rfl)
  | passing size processed hreader hmain hsilent hread hlog hlast =>
    exact .passing size processed hreader hmain ⟨hsilent.1, hsilent.2⟩ hread hlog hlast
  | answered hreader hmain htoMain htoReader hread hlog => exact .answered hreader hmain htoMain htoReader hread hlog
  | finished hreader hmain hsilent hread hlog => exact .finished hreader hmain ⟨hsilent.1, hsilent.2⟩ hread hlog

theorem recvData (h : BufferTurn s) (hbyte : 0 < s.toMain) :
    BufferTurn { s with toMain := s.toMain - 1, main := .woken } := by
  cases h with
  | told hreader _ htoMain htoReader hover =>
    exact .woken hreader rfl ⟨by simp [htoMain], htoReader⟩ (hover.same rfl rfl rfl rfl rfl)
  | answered _ _ htoMain => simp [htoMain] at hbyte
  | starting _ _ hsilent | transferring _ _ hsilent | pending _ _ hsilent | signalled _ _ hsilent
  | sending _ _ hsilent | woken _ _ hsilent | passing _ _ _ _ hsilent | finished _ _ hsilent =>
    simp [hsilent.toMain] at hbyte

/-- The main thread goes into the loop, or leaves the read that has failed alone. -/
theorem getReadResult (h : BufferTurn s) (hmain : s.main = .woken) : BufferTurn (s.mainStep .getReadResult) := by
  cases h with
  | woken hreader _ hsilent hover =>
    unfold Receive.mainStep
    simp only [hmain, if_true]
    cases hover with
    | completed size hread hsize hlog =>
      have hresult : s.usbGetReadResult = ({ s with dataSize := size }, some (s.buffer, size)) := by
        unfold Receive.usbGetReadResult
        split
        · rw [hread]
        · rename_i hne
          rw [← hsize.resolve_left hne]
      rw [hresult]
      exact .passing size 0 hreader rfl ⟨hsilent.1, hsilent.2⟩ (by simp [hread]) hlog (by simp)
    | failed hread hsize hlog =>
      have hresult : s.usbGetReadResult = (s, none) := by
        unfold Receive.usbGetReadResult
        rw [if_pos hsize, hread]
      rw [hresult]
      exact .finished (.inl hreader) rfl ⟨hsilent.1, hsilent.2⟩ (by simp [hread]) hlog
  | _ => simp_all

theorem dataInput {size processed : UInt32} (h : BufferTurn s) (hmain : s.main = .passing size processed)
    (processed' : UInt32) : BufferTurn { s with main := .passing size processed' } := by
  cases h with
  | passing size' _ hreader hmain' hsilent hread hlog hlast =>
    obtain ⟨rfl, -⟩ := ReceiverPlace.passing.inj (hmain.symm.trans hmain')
    exact .passing size processed' hreader rfl ⟨hsilent.1, hsilent.2⟩ hread hlog hlast
  | _ => simp_all

theorem sendAnswer {size processed : UInt32} (h : BufferTurn s) (hmain : s.main = .passing size processed) :
    BufferTurn { s with main := .idle, toReader := s.toReader + 1 } := by
  cases h with
  | passing _ _ hreader _ hsilent hread hlog =>
    exact .answered hreader rfl hsilent.toMain (by simp [hsilent.toReader]) hread hlog
  | _ => simp_all

/-! ### All steps -/

/-- Until the device is removed, a step of one of the parties gives the turn to the next one at most, and the read
thread is not told to stop. -/
theorem step (h : BufferTurn s) (hstop : s.stopEvent = false) (hregistered : s.registered = true) (st : ReceiveStep)
    (hstays : (receiveStep s st).registered = true) :
    BufferTurn (receiveStep s st) ∧ (receiveStep s st).stopEvent = false := by
  cases st with
  | resetEvent =>
    simp only [receiveStep, Receive.readerStep, Receive.pluginStep, Receive.mainStep]
    split_ifs with hreader
    · exact ⟨h.resetEvent hreader, hstop⟩
    · exact ⟨h, hstop⟩
  | startRead answer =>
    simp only [receiveStep, Receive.readerStep, Receive.pluginStep, Receive.mainStep]
    split_ifs with hreader
    · refine ⟨h.startRead hreader answer, ?_⟩
      cases answer <;> exact hstop
    · exact ⟨h, hstop⟩
  | wait =>
    simp only [receiveStep, Receive.readerStep, Receive.pluginStep, Receive.mainStep]
    split_ifs with hreader hsignalled hevent
    · rw [hstop] at hsignalled
      cases hsignalled
    · exact ⟨h.wait hreader hevent, hstop⟩
    · exact ⟨h, hstop⟩
    · exact ⟨h, hstop⟩
  | sendData =>
    simp only [receiveStep, Receive.readerStep, Receive.pluginStep, Receive.mainStep]
    split_ifs with hreader
    · exact ⟨h.sendData hreader, hstop⟩
    · exact ⟨h, hstop⟩
  | recvAnswer =>
    simp only [receiveStep, Receive.readerStep, Receive.pluginStep, Receive.mainStep]
    split_ifs with hreader hbyte
    · exact ⟨h.recvAnswer hreader hbyte, hstop⟩
    · exact ⟨h, hstop⟩
    · exact ⟨h, hstop⟩
  | complete t =>
    change BufferTurn (s.pluginStep (.complete t)) ∧ (s.pluginStep (.complete t)).stopEvent = false
    simp only [Receive.pluginStep]
    split_ifs with hread
    · cases t with
      | none => exact ⟨h.fail hread, hstop⟩
      | some t => exact ⟨h.complete hread t, hstop⟩
    · exact ⟨h, hstop⟩
  | accept =>
    change BufferTurn (s.mainStep .accept) ∧ (s.mainStep .accept).stopEvent = false
    simp only [Receive.mainStep]
    split_ifs
    · exact ⟨h.accept, hstop⟩
    · exact ⟨h, hstop⟩
  | recvData =>
    change BufferTurn (s.mainStep .recvData) ∧ (s.mainStep .recvData).stopEvent = false
    simp only [Receive.mainStep]
    split_ifs with hready
    · exact ⟨h.recvData hready.2.2.2, hstop⟩
    · exact ⟨h, hstop⟩
  | getReadResult =>
    by_cases hmain : s.main = .woken
    · refine ⟨h.getReadResult hmain, ?_⟩
      simp only [receiveStep, Receive.readerStep, Receive.pluginStep, Receive.mainStep, hmain, if_true]
      unfold Receive.usbGetReadResult
      split_ifs
      · cases s.read <;> exact hstop
      · exact hstop
    · rw [show receiveStep s .getReadResult = s from if_neg hmain]
      exact ⟨h, hstop⟩
  | dataInput consumed =>
    change BufferTurn (s.mainStep (.dataInput consumed)) ∧ (s.mainStep (.dataInput consumed)).stopEvent = false
    simp only [Receive.mainStep]
    cases hmain : s.main with
    | passing size processed =>
      dsimp only
      split_ifs
      · exact ⟨h.dataInput hmain _, hstop⟩
      · exact ⟨h, hstop⟩
    | _ => exact ⟨h, hstop⟩
  | sendAnswer =>
    change BufferTurn (s.mainStep .sendAnswer) ∧ (s.mainStep .sendAnswer).stopEvent = false
    simp only [Receive.mainStep]
    cases hmain : s.main with
    | passing size processed =>
      dsimp only
      split_ifs
      · exact ⟨h, hstop⟩
      · exact ⟨h.sendAnswer hmain, hstop⟩
    | _ => exact ⟨h, hstop⟩
  | remove =>
    change BufferTurn (s.mainStep .remove) ∧ (s.mainStep .remove).stopEvent = false
    change (s.mainStep .remove).registered = true at hstays
    simp only [Receive.mainStep] at hstays ⊢
    split_ifs at hstays ⊢
    exact ⟨h, hstop⟩
  | setStopEvent =>
    change BufferTurn (s.mainStep .setStopEvent) ∧ (s.mainStep .setStopEvent).stopEvent = false
    simp only [Receive.mainStep, hregistered, Bool.not_true, Bool.false_eq_true, and_false, if_false]
    exact ⟨h, hstop⟩

end BufferTurn

/-! ### Removal -/

section Removal

variable {s : Receive} {st : ReceiveStep}

end Removal

/-! ### Passing on -/

/-- The reads that have completed can all be passed on: some steps of the threads do it. -/
def Served (s : Receive) : Prop := ∃ more, (receiveRun more s).passed = s.completed

namespace Served

variable {s : Receive}

theorem already (h : s.completed = s.passed) : Served s := ⟨[], h.symm⟩

theorem first (st : ReceiveStep) (hcompleted : (receiveStep s st).completed = s.completed)
    (h : Served (receiveStep s st)) : Served s := by
  obtain ⟨more, hmore⟩ := h
  exact ⟨st :: more, hmore.trans hcompleted⟩

theorem woken (hmain : s.main = .woken) (hover : ReadOver s) : Served s := by
  cases hover with
  | failed _ _ hlog => exact already hlog
  | completed size hread hsize hlog =>
    refine ⟨[.getReadResult], ?_⟩
    have hresult : s.usbGetReadResult.2 = some (s.buffer, size) ∧ s.usbGetReadResult.1.passed = s.passed := by
      unfold Receive.usbGetReadResult
      split
      · rw [hread]
        exact ⟨rfl, rfl⟩
      · rename_i hne
        rw [hsize.resolve_left hne]
        exact ⟨rfl, rfl⟩
    change (s.mainStep .getReadResult).passed = s.completed
    simp only [Receive.mainStep, hmain, if_true]
    cases heq : s.usbGetReadResult with
    | mk s' data =>
      rw [heq] at hresult
      obtain ⟨rfl, hpassed⟩ := hresult
      dsimp only at hpassed ⊢
      rw [hpassed, hlog]

theorem told (hregistered : s.registered = true) (hmain : s.main = .idle) (htoMain : s.toMain = 1)
    (hover : ReadOver s) : Served s := by
  refine first .accept ?_ (first .recvData ?_ (woken ?_ ?_)) <;>
    simp only [receiveStep, Receive.readerStep, Receive.pluginStep, Receive.mainStep, hregistered, hmain, htoMain,
      and_self, if_true, Nat.lt_one_iff]
  exact hover.same rfl rfl rfl rfl rfl

theorem sending (hregistered : s.registered = true) (hreader : s.reader = .sending) (hmain : s.main = .idle)
    (hsilent : Silent s) (hover : ReadOver s) : Served s := by
  have hstep : receiveStep s .sendData = { s with toMain := s.toMain + 1, reader := .receiving } := if_pos hreader
  refine first .sendData (by rw [hstep]) ?_
  rw [hstep]
  exact told hregistered hmain (by simp [hsilent.toMain]) (hover.same rfl rfl rfl rfl rfl)

theorem signalled (hregistered : s.registered = true) (hstop : s.stopEvent = false) (hreader : s.reader = .waiting)
    (hmain : s.main = .idle) (hsilent : Silent s) (hevent : s.event = true) (hover : ReadOver s) : Served s := by
  have hstep : receiveStep s .wait = { s with event := false, reader := .sending } := by
    simp [receiveStep, Receive.readerStep, Receive.pluginStep, Receive.mainStep, hreader, hstop, hevent]
  refine first .wait (by rw [hstep]) ?_
  rw [hstep]
  exact sending hregistered rfl hmain ⟨hsilent.1, hsilent.2⟩ (hover.same rfl rfl rfl rfl rfl)

end Served

/-! ### Runs -/

end Usbmuxd
