import Mathlib.Logic.Function.Basic
import Mathlib.Data.List.Basic

/-!
# Calls that share cells

Several threads make calls that read and write shared cells, the files of a directory for example, one
access after the other and without a lock.

## The model

* `CellProgram` — a call: its accesses to cells, each of which changes a cell and goes by what was in it, and its
  answer. It is a monad.
* `CellProgram.run` — what a call does that nobody interrupts.
* `CellProgram.Keeps` — a call keeps what is required of each cell, and its answer is accepted, as long as the others
  keep it too.
* `CellScene` — the cells, the calls that are under way and the answers that have been given;
  `CellAction` — a thread calls, or makes its next access.

## What is proved

* `Keeps.bind`, `run_bind` — calls one after the other.
* `CellScene.Kept.run` — if all calls keep what is required, so does every run, however the accesses are interleaved,
  and every answer is accepted.
-/

namespace Usbmuxd

universe u v w

/-- A call that works on cells and returns an answer. -/
inductive CellProgram (Cell : Type u) (Data : Type v) (Answer : Type w) : Type (max u v w) where
  | done (answer : Answer)
  /-- Change what is in a cell, and go on by what was in it. -/
  | access (cell : Cell) (change : Data → Data) (next : Data → CellProgram Cell Data Answer)

namespace CellProgram

variable {Cell : Type u} {Data : Type v} {Answer Answer' : Type w}

/-- One call after the other. -/
def bind : CellProgram Cell Data Answer → (Answer → CellProgram Cell Data Answer') → CellProgram Cell Data Answer'
  | done answer, rest => rest answer
  | access cell change next, rest => access cell change fun data => (next data).bind rest

instance : Monad (CellProgram.{u, v, w} Cell Data) where
  pure := done
  bind := bind

@[simp] theorem done_bind (answer : Answer) (rest : Answer → CellProgram Cell Data Answer') :
    (done answer : CellProgram Cell Data Answer) >>= rest = rest answer := rfl

@[simp] theorem pure_bind (answer : Answer) (rest : Answer → CellProgram Cell Data Answer') :
    (pure answer : CellProgram Cell Data Answer) >>= rest = rest answer := rfl

@[simp] theorem access_bind (cell : Cell) (change : Data → Data) (next : Data → CellProgram Cell Data Answer)
    (rest : Answer → CellProgram Cell Data Answer') :
    access cell change next >>= rest = access cell change fun data => next data >>= rest := rfl

/-! ### A call that nobody interrupts -/

section Run

variable [DecidableEq Cell]

/-- What a call does that nobody interrupts. -/
def run : CellProgram Cell Data Answer → (Cell → Data) → (Cell → Data) × Answer
  | done answer, cells => (cells, answer)
  | access cell change next, cells => (next (cells cell)).run (Function.update cells cell (change (cells cell)))

@[simp] theorem run_done (answer : Answer) (cells : Cell → Data) : (done answer).run cells = (cells, answer) := rfl

@[simp] theorem run_pure (answer : Answer) (cells : Cell → Data) :
    (pure answer : CellProgram Cell Data Answer).run cells = (cells, answer) := rfl

theorem run_bind (program : CellProgram Cell Data Answer) (rest : Answer → CellProgram Cell Data Answer')
    (cells : Cell → Data) : (program >>= rest).run cells = (rest (program.run cells).2).run (program.run cells).1 := by
  induction program generalizing cells with
  | done answer => rfl
  | access cell change next ih => exact ih (cells cell) _

/-- An access that changes nothing. -/
@[simp] theorem run_access_id (cell : Cell) (next : Data → CellProgram Cell Data Answer) (cells : Cell → Data) :
    (access cell id next).run cells = (next (cells cell)).run cells := by
  rw [run, id, Function.update_eq_self]

end Run

/-! ### What is required of the cells -/

/-- A call keeps what is required of each cell, and its answer is accepted. What the cells hold is not known, for others
may have changed them since. -/
def Keeps (good : Cell → Data → Prop) (accept : Answer → Prop) : CellProgram Cell Data Answer → Prop
  | done answer => accept answer
  | access cell change next => ∀ data, good cell data → good cell (change data) ∧ (next data).Keeps good accept

section Keeps

variable {good : Cell → Data → Prop} {accept : Answer → Prop} {accept' : Answer' → Prop}

theorem keeps_pure {answer : Answer} (h : accept answer) :
    Keeps good accept (pure answer : CellProgram Cell Data Answer) := h

theorem Keeps.bind {program : CellProgram Cell Data Answer} {rest : Answer → CellProgram Cell Data Answer'}
    (h : program.Keeps good accept) (hrest : ∀ answer, accept answer → (rest answer).Keeps good accept') :
    (program >>= rest).Keeps good accept' := by
  induction program with
  | done answer => exact hrest answer h
  | access cell change next ih =>
    intro data hdata
    obtain ⟨hchange, hnext⟩ := h data hdata
    exact ⟨hchange, ih data hnext⟩

/-- A call of which the answer does not matter. -/
theorem Keeps.weaken {program : CellProgram Cell Data Answer} (h : program.Keeps good accept)
    {weaker : Answer → Prop} (hweaker : ∀ answer, accept answer → weaker answer) : program.Keeps good weaker := by
  induction program with
  | done answer => exact hweaker answer h
  | access cell change next ih =>
    intro data hdata
    obtain ⟨hchange, hnext⟩ := h data hdata
    exact ⟨hchange, ih data hnext⟩

end Keeps

end CellProgram

/-! ### Threads -/

/-- The cells, the calls under way, and the answers so far. -/
structure CellScene (Thread Cell Data Answer : Type*) where
  cells : Cell → Data
  calls : Thread → Option (CellProgram Cell Data Answer)
  answers : List Answer

/-- What a thread does. -/
inductive CellAction (Thread Cell Data Answer : Type*) where
  | call (t : Thread) (program : CellProgram Cell Data Answer)
  /-- The next access, or the return. -/
  | step (t : Thread)

namespace CellScene

variable {Thread Cell Data Answer : Type*} {good : Cell → Data → Prop} {accept : Answer → Prop}
variable {s : CellScene Thread Cell Data Answer}

/-- No call is under way. -/
def start (cells : Cell → Data) : CellScene Thread Cell Data Answer := ⟨cells, fun _ => none, []⟩

/-- The cells hold what is required, the calls under way keep it, and the answers have been accepted. -/
structure Kept (good : Cell → Data → Prop) (accept : Answer → Prop) (s : CellScene Thread Cell Data Answer) : Prop where
  cells : ∀ cell, good cell (s.cells cell)
  calls : ∀ t, ∀ program ∈ s.calls t, program.Keeps good accept
  answers : ∀ answer ∈ s.answers, accept answer

theorem Kept.start {cells : Cell → Data} (h : ∀ cell, good cell (cells cell)) :
    Kept good accept (start cells : CellScene Thread Cell Data Answer) :=
  ⟨h, nofun, nofun⟩

variable [DecidableEq Thread]

/-- The calls under way, after the one of a thread has gone on. -/
theorem Kept.update (h : Kept good accept s) {t : Thread} {call : Option (CellProgram Cell Data Answer)}
    (hcall : ∀ program ∈ call, program.Keeps good accept) (t' : Thread) :
    ∀ program ∈ Function.update s.calls t call t', program.Keeps good accept := by
  revert t'
  rw [Function.forall_update_iff s.calls fun _ call' => ∀ program ∈ call', program.Keeps good accept]
  exact ⟨hcall, fun t' _ => h.calls t'⟩

variable [DecidableEq Cell]

/-- A thread that is in a call makes no other. -/
def step (s : CellScene Thread Cell Data Answer) : CellAction Thread Cell Data Answer → CellScene Thread Cell Data Answer
  | .call t program =>
    match s.calls t with
    | none => { s with calls := Function.update s.calls t (some program) }
    | some _ => s
  | .step t =>
    match s.calls t with
    | none => s
    | some (.done answer) => { s with calls := Function.update s.calls t none, answers := s.answers ++ [answer] }
    | some (.access cell change next) => { s with
        cells := Function.update s.cells cell (change (s.cells cell))
        calls := Function.update s.calls t (some (next (s.cells cell))) }

/-- The threads take turns. -/
def run (s : CellScene Thread Cell Data Answer) (actions : List (CellAction Thread Cell Data Answer)) :
    CellScene Thread Cell Data Answer := actions.foldl step s

theorem Kept.step (h : Kept good accept s) {action : CellAction Thread Cell Data Answer}
    (haction : ∀ t program, action = .call t program → program.Keeps good accept) : Kept good accept (s.step action) := by
  cases action with
  | call t program =>
    unfold CellScene.step
    dsimp only
    split
    · exact ⟨h.cells, h.update (by rintro _ ⟨⟩; exact haction t program rfl), h.answers⟩
    · exact h
  | step t =>
    unfold CellScene.step
    dsimp only
    split
    · exact h
    · rename_i answer hcall
      refine ⟨h.cells, h.update nofun, fun a ha => ?_⟩
      obtain ha | ha := List.mem_append.mp ha
      · exact h.answers a ha
      · cases List.mem_singleton.mp ha
        exact h.calls t _ hcall
    · rename_i cell change next hcall
      obtain ⟨hchange, hnext⟩ := h.calls t _ hcall (s.cells cell) (h.cells cell)
      refine ⟨?_, h.update (by rintro _ ⟨⟩; exact hnext), h.answers⟩
      exact (Function.forall_update_iff s.cells good).mpr ⟨hchange, fun c _ => h.cells c⟩

/-- However the accesses are interleaved. -/
theorem Kept.run (h : Kept good accept s) {actions : List (CellAction Thread Cell Data Answer)}
    (hactions : ∀ t program, .call t program ∈ actions → program.Keeps good accept) : Kept good accept (s.run actions) := by
  unfold CellScene.run
  induction actions generalizing s with
  | nil => exact h
  | cons action rest ih =>
    refine ih (h.step fun t program heq => hactions t program ?_) fun t program hmem =>
      hactions t program (List.mem_cons_of_mem _ hmem)
    exact heq ▸ List.mem_cons_self

end CellScene

end Usbmuxd
