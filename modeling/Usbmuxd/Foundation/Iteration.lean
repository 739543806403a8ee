import Mathlib.Logic.Relation
import Mathlib.Data.Nat.Notation
import Mathlib.Data.List.Basic

/-!
# Loops

A loop is a function that gives the state in front of the next round, or `none` when there is
no next round.

## The model

* `Rounds next s t` — the loop comes from `s` to `t`.
* `Ends next s` — the loop ends when it is started in `s`.

## What is proved

* `ends_of_measure` — it ends if something gets smaller in every round it makes.
* `not_ends` — it does not end if every round leads to one like it.
* `foldl_keeps` — a property that the steps meeting a condition keep is kept by a run of such steps.
-/

namespace Usbmuxd.Iteration

open Relation

variable {α : Type*} {next : α → Option α} {s t : α}

/-- The loop comes from one state to another. -/
abbrev Rounds (next : α → Option α) : α → α → Prop := ReflTransGen fun s t => next s = some t

/-- The loop ends. -/
inductive Ends (next : α → Option α) : α → Prop where
  | last {s : α} (h : next s = none) : Ends next s
  | round {s t : α} (h : next s = some t) (ht : Ends next t) : Ends next s

/-- A loop ends if a number gets smaller in each round that it makes. -/
theorem ends_of_measure (size : α → ℕ) (h : ∀ t u, Rounds next s t → next t = some u → size u < size t) :
    Ends next s := by
  generalize hn : size s = n
  induction n using Nat.strongRecOn generalizing s with
  | _ n ih =>
    subst hn
    cases hnext : next s with
    | none => exact .last hnext
    | some t =>
      refine .round hnext (ih (size t) (h s t .refl hnext) (fun u v hu => ?_) rfl)
      exact h u v (.head hnext hu)

/-- A loop does not end if every round leads to one like it. -/
theorem not_ends (P : α → Prop) (h : ∀ s, P s → ∃ t, next s = some t ∧ P t) (hs : P s) : ¬ Ends next s := by
  intro hends
  induction hends with
  | last hnone =>
    obtain ⟨t, ht, -⟩ := h _ hs
    rw [hnone] at ht
    cases ht
  | round hround _ ih =>
    obtain ⟨t, ht, hp⟩ := h _ hs
    rw [hround] at ht
    obtain rfl := Option.some.inj ht
    exact ih hp

/-- What every step keeps that meets a condition, a run keeps whose steps all meet it. -/
theorem foldl_keeps {σ ρ : Type*} {step : σ → ρ → σ} {P : σ → Prop} {C : σ → ρ → Prop}
    (hstep : ∀ s r, C s r → P s → P (step s r)) {s : σ} {rs : List ρ}
    (h : ∀ before r after, rs = before ++ r :: after → C (before.foldl step s) r) (hs : P s) :
    P (rs.foldl step s) := by
  induction rs generalizing s with
  | nil => exact hs
  | cons r rs ih =>
    refine ih (fun before r' after heq => ?_) (hstep s r (h [] r rs rfl) hs)
    exact h (r :: before) r' after (by rw [heq, List.cons_append])

end Usbmuxd.Iteration
