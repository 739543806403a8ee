import Mathlib.Data.List.Basic

/-!
# Threads that take turns

Steps of several threads on one state, in any order, as a fold of a step function that may go
wrong. A call of one of the threads takes so many steps of its own, and any number of others
may come in between.

## What is proved

* `Interleaved.goes` — if no step goes wrong where an invariant holds, no run does.
* `Interleaved.keeps` — what every step of a run keeps, the run keeps.
* `Interleaved.ends` — a call with a rank that each step of its own thread makes smaller ends
  when its thread has had so many turns.
-/

namespace Usbmuxd

namespace Interleaved

variable {σ τ : Type*} {step : σ → τ → Option σ} {Good P Q : σ → Prop} {s s' : σ} {l : List τ}

/-- No run goes wrong. -/
theorem goes (hgood : ∀ s t, Good s → ∃ s', step s t = some s' ∧ Good s') (h : Good s) (l : List τ) :
    ∃ s', l.foldlM step s = some s' ∧ Good s' := by
  induction l generalizing s with
  | nil => exact ⟨s, rfl, h⟩
  | cons t rest ih =>
    obtain ⟨s₁, hstep, hnext⟩ := hgood s t h
    obtain ⟨s', hrest, hlast⟩ := ih hnext
    exact ⟨s', by rw [List.foldlM_cons, hstep]; exact hrest, hlast⟩

/-- What every step of a run keeps. -/
theorem keeps (hkeep : ∀ s s' t, t ∈ l → step s t = some s' → Q s → Q s') (h : Q s)
    (hrun : l.foldlM step s = some s') : Q s' := by
  induction l generalizing s with
  | nil => cases hrun; exact h
  | cons t rest ih =>
    obtain ⟨s₁, hstep, hrest⟩ := Option.bind_eq_some_iff.mp hrun
    exact ih (fun s s' t ht => hkeep s s' t (List.mem_cons_of_mem _ ht)) (hkeep s s₁ t List.mem_cons_self hstep h) hrest

/-- A call that has `rank` turns of its thread left ends in a run that holds so many: `P` holds
during the call, and `Q` from its end on. -/
theorem ends {rank : σ → ℕ} {own : τ → Bool}
    (hcall : ∀ s s' t, t ∈ l → Good s → step s t = some s' → Good s' → P s →
      P s' ∧ rank s' ≤ rank s ∧ (own t = true → rank s' < rank s) ∨ Q s')
    (hend : ∀ s s' t, t ∈ l → step s t = some s' → Q s → Q s') (hinside : ∀ s, P s → rank s ≠ 0)
    (hgood : ∀ s t, Good s → ∃ s', step s t = some s' ∧ Good s') (hs : Good s) (hp : P s)
    (hlong : rank s ≤ l.countP own) (hrun : l.foldlM step s = some s') : Q s' := by
  induction l generalizing s with
  | nil => exact absurd (Nat.le_zero.mp hlong) (hinside s hp)
  | cons t rest ih =>
    obtain ⟨s₁, hstep, hs₁⟩ := hgood s t hs
    rw [List.foldlM_cons, hstep] at hrun
    have hend' : ∀ s s' t, t ∈ rest → step s t = some s' → Q s → Q s' :=
      fun s s' t ht => hend s s' t (List.mem_cons_of_mem _ ht)
    rcases hcall s s₁ t List.mem_cons_self hs hstep hs₁ hp with ⟨hp', hle, hlt⟩ | hq
    · refine ih (fun s s' t ht => hcall s s' t (List.mem_cons_of_mem _ ht)) hend' hs₁ hp' ?_ hrun
      rw [List.countP_cons] at hlong
      split at hlong
      · next hown =>
        have := hlt hown
        omega
      · omega
    · exact keeps hend' hq hrun

end Interleaved

end Usbmuxd
