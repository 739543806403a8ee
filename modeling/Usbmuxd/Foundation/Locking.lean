import Mathlib.Data.Nat.Notation
import Mathlib.Logic.Function.Basic
import Mathlib.Logic.Relation

/-!
# Threads and locks

Threads that take and release recursive locks, in nested sections. What a thread does is written as code with named
procedures, which may call each other recursively; all that is kept of the code is which locks it
takes, in which order.

## The model

* `LockStep`, `held` — taking and releasing a lock, and the locks a thread holds after some steps.
* `Code`, `Code.Path` — code, and the sequences of steps it can take.
* `Nested R` — sections are nested, and a lock is only asked for where `R` allows it.
* `Code.Obeys` — the same, read off the code, with a contract for the procedures.
* `Move` — a step of one thread; it takes a lock only if no other thread holds it.

## What is proved

* `Code.Path.nested` — code that obeys a rule takes only steps that do.
* `Nested.next` — on a nested path, a thread asks for a lock only where it may.
* `Runs.exclusive` — no two threads hold one lock, after any run.
-/

namespace Usbmuxd

open Relation

variable {ι F L : Type*} [DecidableEq L]

/-! ### Steps -/

/-- Taking or releasing a lock. -/
inductive LockStep (L : Type*) where
  | lock (l : L)
  | unlock (l : L)
  deriving DecidableEq

/-- The locks held after a step, the last one taken first. -/
def LockStep.after (h : List L) : LockStep L → List L
  | .lock l => l :: h
  | .unlock l => h.erase l

/-- The locks held after some steps, each as often as it has been taken. -/
def held (done : List (LockStep L)) : List L := done.foldl LockStep.after []

theorem held_append (done : List (LockStep L)) (a : LockStep L) : held (done ++ [a]) = a.after (held done) := by
  simp [held]

/-- Where `h` is held, sections are nested, and a lock is only asked for where `R` allows it. -/
def Nested (R : List L → L → Prop) : List L → List (LockStep L) → Prop
  | _, [] => True
  | h, .lock l :: w => R h l ∧ Nested R (l :: h) w
  | h, .unlock l :: w => h.head? = some l ∧ Nested R (h.erase l) w

section Nested

variable {R : List L → L → Prop} {h : List L} {w w' : List (LockStep L)}

theorem Nested.append (hw : Nested R h w) (hw' : Nested R (w.foldl LockStep.after h) w') : Nested R h (w ++ w') := by
  induction w generalizing h with
  | nil => exact hw'
  | cons a w ih =>
    cases a with
    | lock l => exact ⟨hw.1, ih hw.2 hw'⟩
    | unlock l => exact ⟨hw.1, ih hw.2 hw'⟩

theorem Nested.split (hw : Nested R h (w ++ w')) : Nested R h w ∧ Nested R (w.foldl LockStep.after h) w' := by
  induction w generalizing h with
  | nil => exact ⟨trivial, hw⟩
  | cons a w ih =>
    cases a with
    | lock l => exact ⟨⟨hw.1, (ih hw.2).1⟩, (ih hw.2).2⟩
    | unlock l => exact ⟨⟨hw.1, (ih hw.2).1⟩, (ih hw.2).2⟩

end Nested

/-! ### Code -/

/-- The locks that code takes. -/
inductive Code (F L : Type*) where
  | skip
  /-- `body` between the lock and the unlock of `l`. -/
  | within (l : L) (body : Code F L)
  | seq (a b : Code F L)
  | either (a b : Code F L)
  /-- A loop. -/
  | many (a : Code F L)
  /-- A call of a procedure. -/
  | call (f : F)

namespace Code

/-- The steps that code can take from its start to its end. -/
inductive Path (body : F → Code F L) : Code F L → List (LockStep L) → Prop where
  | skip : Path body .skip []
  | within {l : L} {c : Code F L} {w : List (LockStep L)} (h : Path body c w) :
      Path body (.within l c) (.lock l :: (w ++ [.unlock l]))
  | seq {a b : Code F L} {w w' : List (LockStep L)} (h : Path body a w) (h' : Path body b w') :
      Path body (.seq a b) (w ++ w')
  | left {a b : Code F L} {w : List (LockStep L)} (h : Path body a w) : Path body (.either a b) w
  | right {a b : Code F L} {w : List (LockStep L)} (h : Path body b w) : Path body (.either a b) w
  | stop {a : Code F L} : Path body (.many a) []
  | again {a : Code F L} {w w' : List (LockStep L)} (h : Path body a w) (h' : Path body (.many a) w') :
      Path body (.many a) (w ++ w')
  | call {f : F} {w : List (LockStep L)} (h : Path body (body f) w) : Path body (.call f) w

/-- Where `h` is held, the code asks only for locks that `R` allows, and calls only procedures that `S` allows. -/
def Obeys (R : List L → L → Prop) (S : List L → F → Prop) : Code F L → List L → Prop
  | .skip, _ => True
  | .within l c, h => R h l ∧ c.Obeys R S (l :: h)
  | .seq a b, h => a.Obeys R S h ∧ b.Obeys R S h
  | .either a b, h => a.Obeys R S h ∧ b.Obeys R S h
  | .many a, h => a.Obeys R S h
  | .call f, h => S h f

variable {body : F → Code F L} {c : Code F L} {w : List (LockStep L)} {R : List L → L → Prop} {S : List L → F → Prop}

/-- Code releases what it has taken. -/
theorem Path.balanced (hp : Path body c w) (h : List L) : w.foldl LockStep.after h = h := by
  induction hp generalizing h with
  | skip => rfl
  | within _ ih => simp [LockStep.after, ih]
  | seq _ _ ih ih' => rw [List.foldl_append, ih, ih']
  | left _ ih => exact ih h
  | right _ ih => exact ih h
  | stop => rfl
  | again _ _ ih ih' => rw [List.foldl_append, ih, ih']
  | call _ ih => exact ih h

/-- If every procedure keeps its contract, code that obeys a rule takes only steps that do. -/
theorem Path.nested (hp : Path body c w) (hS : ∀ h f, S h f → (body f).Obeys R S h) {h : List L} (hc : c.Obeys R S h) :
    Nested R h w := by
  induction hp generalizing h with
  | skip => exact trivial
  | @within l c w hp ih =>
    refine ⟨hc.1, (ih hc.2).append ?_⟩
    rw [hp.balanced]
    exact ⟨rfl, trivial⟩
  | seq hp _ ih ih' => exact (ih hc.1).append (by rw [hp.balanced]; exact ih' hc.2)
  | left _ ih => exact ih hc.1
  | right _ ih => exact ih hc.2
  | stop => exact trivial
  | again hp _ ih ih' => exact (ih hc).append (by rw [hp.balanced]; exact ih' hc)
  | call _ ih => exact ih (hS _ _ hc)

end Code

/-! ### Threads -/

section Threads

variable (path : ι → List (LockStep L)) (s : ι → ℕ)

/-- The locks a thread holds when the threads have taken `s` steps of their paths. -/
def heldBy (t : ι) : List L := held ((path t).take (s t))

/-- The next step of a thread. -/
def nextStep (t : ι) : Option (LockStep L) := (path t)[s t]?

variable [DecidableEq ι]

/-- A step of thread `t`. It takes a lock only if no other thread holds it. -/
inductive Move (t : ι) : (ι → ℕ) → Prop where
  | step (a : LockStep L) (hnext : nextStep path s t = some a)
      (hfree : ∀ l, a = .lock l → ∀ u, u ≠ t → l ∉ heldBy path s u) : Move t (Function.update s t (s t + 1))

/-- A run in which every step meets a condition on its thread and the state before it. -/
def Runs (ok : ι → (ι → ℕ) → Prop) : (ι → ℕ) → Prop :=
  ReflTransGen (fun s s' => ∃ t, Move path s t s' ∧ ok t s) (fun _ => 0)

/-- Thread `t` waits for a lock that thread `u` holds. -/
def WaitsFor (t u : ι) : Prop := ∃ l, nextStep path s t = some (.lock l) ∧ l ∈ heldBy path s u

/-- Two threads wait for each other. -/
def Deadlock : Prop := ∃ t u, t ≠ u ∧ WaitsFor path s t u ∧ WaitsFor path s u t

/-- No two threads hold one lock. -/
def Exclusive : Prop := ∀ t u l, t ≠ u → l ∈ heldBy path s t → l ∉ heldBy path s u

end Threads

section Moves

variable [DecidableEq ι] {path : ι → List (LockStep L)} {s s' : ι → ℕ} {t u : ι} {R : List L → L → Prop}

theorem heldBy_self {a : LockStep L} (hnext : nextStep path s t = some a) :
    heldBy path (Function.update s t (s t + 1)) t = a.after (heldBy path s t) := by
  rw [heldBy, Function.update_self, List.take_add_one, show (path t)[s t]? = some a from hnext, Option.toList_some,
    held_append, heldBy]

theorem heldBy_other (h : u ≠ t) (n : ℕ) : heldBy path (Function.update s t n) u = heldBy path s u := by
  rw [heldBy, Function.update_of_ne h, heldBy]

theorem LockStep.mem_after {a : LockStep L} {h : List L} {l : L} (hmem : l ∈ a.after h) : l ∈ h ∨ a = .lock l := by
  cases a with
  | lock m =>
    rcases List.mem_cons.mp hmem with rfl | hmem
    · exact .inr rfl
    · exact .inl hmem
  | unlock m => exact .inl (List.mem_of_mem_erase hmem)

omit [DecidableEq ι] in
theorem Exclusive.start : Exclusive path (fun _ => 0) := by
  intro t u l _ hl
  simp [heldBy, held] at hl

/-- A step leaves each lock with one thread. -/
theorem Exclusive.move (h : Exclusive path s) (hm : Move path s t s') : Exclusive path s' := by
  obtain ⟨a, hnext, hfree⟩ := hm
  intro v u l hne hv hu
  by_cases hvt : v = t
  · subst hvt
    rw [heldBy_self hnext] at hv
    rw [heldBy_other hne.symm] at hu
    rcases LockStep.mem_after hv with hv | rfl
    · exact h v u l hne hv hu
    · exact hfree l rfl u hne.symm hu
  · rw [heldBy_other hvt] at hv
    by_cases hut : u = t
    · subst hut
      rw [heldBy_self hnext] at hu
      rcases LockStep.mem_after hu with hu | rfl
      · exact h v u l hne hv hu
      · exact hfree l rfl v hvt hv
    · rw [heldBy_other hut] at hu
      exact h v u l hne hv hu

/-- What holds at the start and is kept by every step holds in every state of a run. -/
theorem Runs.induct {ok : ι → (ι → ℕ) → Prop} {P : (ι → ℕ) → Prop} (h : Runs path ok s) (hstart : P fun _ => 0)
    (hmove : ∀ t s s', P s → Move path s t s' → ok t s → P s') : P s := by
  induction h with
  | refl => exact hstart
  | tail _ hm ih =>
    obtain ⟨t, hm, hok⟩ := hm
    exact hmove t _ _ ih hm hok

theorem Runs.exclusive {ok : ι → (ι → ℕ) → Prop} (h : Runs path ok s) : Exclusive path s :=
  h.induct .start fun _ _ _ hs hm _ => hs.move hm

omit [DecidableEq ι] in
/-- On a nested path, a thread asks for a lock only where it may. -/
theorem Nested.next (h : Nested R [] (path t)) {l : L} (hnext : nextStep path s t = some (.lock l)) :
    R (heldBy path s t) l := by
  have hleft := ((List.take_append_drop (s t) (path t)).symm ▸ h : Nested R [] _).split.2
  obtain ⟨hlt, hget⟩ := List.getElem?_eq_some_iff.mp hnext
  rw [List.drop_eq_getElem_cons hlt, hget] at hleft
  exact hleft.1

/-- A thread runs alone, while the others hold nothing. -/
theorem Runs.alone {ok : ι → (ι → ℕ) → Prop} (h : Runs path ok s) (hothers : ∀ u, u ≠ t → heldBy path s u = []) (n : ℕ)
    (hn : s t + n ≤ (path t).length) (hok : ∀ k < n, ok t (Function.update s t (s t + k))) :
    Runs path ok (Function.update s t (s t + n)) := by
  induction n with
  | zero => rwa [Nat.add_zero, Function.update_eq_self]
  | succ n ih =>
    have hrun := ih (by omega) fun k hk => hok k (by omega)
    have hlt : s t + n < (path t).length := by omega
    have hnext : nextStep path (Function.update s t (s t + n)) t = some (path t)[s t + n] := by
      rw [nextStep, Function.update_self]
      exact List.getElem?_eq_getElem hlt
    have hmove := Move.step (t := t) _ hnext fun l _ u hu => by
      rw [heldBy_other hu, hothers u hu]
      exact List.not_mem_nil
    rw [Function.update_self, Function.update_idem] at hmove
    exact hrun.tail ⟨t, hmove, hok n (Nat.lt_succ_self n)⟩

end Moves

end Usbmuxd
