import Mathlib.Data.List.Count
import Mathlib.Data.List.Perm.Basic
import Mathlib.Data.Nat.Notation

/-!
# A ledger of allocations

What is allocated is numbered. Each thing that has been allocated is held somewhere or has
been released, and never both.

## The model

* `Ledger next held released` — the numbers below `next` have been handed out.

## What is proved

* `Ledger.allocate`, `Ledger.release`, `Ledger.perm` — how the ledger is kept.
* `Ledger.count_le`, `Ledger.count_eq` — nothing is released twice, and what is not held has
  been released.
-/

namespace Usbmuxd

/-- Each thing that has been allocated is held or has been released, and that once. -/
def Ledger (next : ℕ) (held released : List ℕ) : Prop :=
  ∀ b, held.count b + released.count b = if b < next then 1 else 0

namespace Ledger

variable {next b : ℕ} {held held' released : List ℕ}

theorem nothing : Ledger 0 [] [] := fun b => by simp

/-- The next thing is allocated, and held. -/
theorem allocate (h : Ledger next held released) : Ledger (next + 1) (next :: held) released := by
  intro b
  have hb := h b
  rw [List.count_cons]
  by_cases heq : next = b
  · subst heq
    simp only [Nat.lt_irrefl, if_false] at hb
    simp
    omega
  · have hlt : b < next + 1 ↔ b < next := by omega
    simpa [heq, hlt] using hb

/-- Who holds what does not matter. -/
theorem perm (h : Ledger next held released) (hp : held'.Perm held) : Ledger next held' released := fun b => by
  rw [hp.count_eq]
  exact h b

theorem release (h : Ledger next (b :: held) released) : Ledger next held (b :: released) := by
  intro b'
  have hb := h b'
  rw [List.count_cons] at hb ⊢
  omega

/-- Nothing is released twice. -/
theorem count_le (h : Ledger next held released) (b : ℕ) : released.count b ≤ 1 := by
  have hb := h b
  split at hb <;> omega

/-- When nothing is held, everything has been released. -/
theorem count_eq (h : Ledger next [] released) (hb : b < next) : released.count b = 1 := by
  have heq := h b
  rw [if_pos hb, List.count_nil] at heq
  omega

end Ledger

end Usbmuxd
