import Mathlib.Data.List.Basic
import Mathlib.Data.List.Chain
import Mathlib.Data.List.Nodup
import Mathlib.Data.Nat.ModEq
import Mathlib.Logic.Function.Basic

/-!
# Circular arrays and circular lists

A circular array keeps a window of cells that starts anywhere and goes on behind the end at
the beginning. A circular list is a list of addresses, each of which leads to the next one
and the last of which leads to the first.

## The model

* `Circular cells front f` — counted from place `front`, the cells hold what `f` says.
* `Linked next l` — `next` leads from each address of `l` to the following one.

## What is proved

* `Circular.set`, `Circular.shift` — one cell is written, or the window starts one further.
* `Linked.next_last`, `Linked.insert`, `Linked.rotate` — what follows the end of a part of the
  circle, one address put in behind it, and the circle seen from its second address.
-/

namespace Usbmuxd

/-- Two places that differ by less than the size of a circle are not the same. -/
theorem add_mod_inj {size front i j : ℕ} (hi : i < size) (hj : j < size)
    (h : (front + i) % size = (front + j) % size) : i = j :=
  Nat.ModEq.eq_of_lt_of_lt (Nat.ModEq.add_left_cancel' front h) hi hj

/-- The cells, counted from place `front`, hold what `f` says. -/
structure Circular {α : Type*} (cells : List α) (front : ℕ) (f : ℕ → α) : Prop where
  front_lt : front < cells.length
  cell : ∀ i < cells.length, cells[(front + i) % cells.length]? = some (f i)

namespace Circular

variable {α : Type*} {cells : List α} {front : ℕ} {f g : ℕ → α}

/-- Every cell is the same. -/
theorem replicate {n : ℕ} (hn : 0 < n) (x : α) : Circular (List.replicate n x) 0 fun _ => x where
  front_lt := by rwa [List.length_replicate]
  cell i _ := by rw [List.length_replicate, List.getElem?_replicate_of_lt (Nat.mod_lt _ hn)]

theorem congr (h : Circular cells front f) (hfg : ∀ i < cells.length, f i = g i) : Circular cells front g where
  front_lt := h.front_lt
  cell i hi := by rw [h.cell i hi, hfg i hi]

/-- The first cell of the window. -/
theorem head (h : Circular cells front f) : cells[front]? = some (f 0) := by
  have hcell := h.cell 0 (Nat.zero_lt_of_lt h.front_lt)
  rwa [Nat.add_zero, Nat.mod_eq_of_lt h.front_lt] at hcell

/-- One cell is written. -/
theorem set (h : Circular cells front f) {i : ℕ} (hi : i < cells.length) (x : α) :
    Circular (cells.set ((front + i) % cells.length) x) front (Function.update f i x) where
  front_lt := by rw [List.length_set]; exact h.front_lt
  cell j hj := by
    rw [List.length_set] at hj ⊢
    by_cases hij : j = i
    · subst hij
      rw [List.getElem?_set_self (Nat.mod_lt _ (Nat.zero_lt_of_lt hj)), Function.update_self]
    · have hne : (front + i) % cells.length ≠ (front + j) % cells.length :=
        fun h => hij (add_mod_inj hi hj h).symm
      rw [List.getElem?_set_ne hne, Function.update_of_ne hij, h.cell j hj]

/-- The window starts one cell further, and the cell it has left is its last. -/
theorem shift (h : Circular cells front f) :
    Circular cells ((front + 1) % cells.length) fun i => if i + 1 = cells.length then f 0 else f (i + 1) where
  front_lt := Nat.mod_lt _ (Nat.zero_lt_of_lt h.front_lt)
  cell i hi := by
    rw [Nat.mod_add_mod, Nat.add_assoc, Nat.add_comm 1 i]
    by_cases hlast : i + 1 = cells.length
    · rw [if_pos hlast, hlast, Nat.add_mod_right, Nat.mod_eq_of_lt h.front_lt, h.head]
    · rw [if_neg hlast, h.cell (i + 1) (by omega)]

end Circular

/-- `next` leads from each address to the following one. -/
abbrev Linked (next : ℕ → ℕ) (l : List ℕ) : Prop := l.IsChain fun a b => next a = b

namespace Linked

variable {next : ℕ → ℕ} {l m : List ℕ} {a b c : ℕ}

/-- What follows the last address of a part. -/
theorem next_last (h : Linked next (l ++ a :: m)) (hlast : l.getLast? = some b) : next b = a :=
  (List.isChain_append.mp h).2.2 b hlast a rfl

/-- What follows the first address. -/
theorem next_head (h : Linked next (a :: b :: m)) : next a = b := (List.isChain_cons_cons.mp h).1

/-- The addresses that lead somewhere lead to the same as before. -/
theorem congr {next' : ℕ → ℕ} (h : Linked next (l ++ [a])) (hsame : ∀ b ∈ l, next' b = next b) :
    Linked next' (l ++ [a]) := by
  induction l with
  | nil => exact List.isChain_singleton a
  | cons b l ih =>
    have hrest : Linked next' (l ++ [a]) :=
      ih (List.isChain_of_isChain_cons h) fun c hc => hsame c (List.mem_cons_of_mem b hc)
    cases l with
    | nil =>
      refine List.isChain_cons_cons.mpr ⟨?_, hrest⟩
      rw [hsame b List.mem_cons_self]
      exact next_head h
    | cons c l =>
      refine List.isChain_cons_cons.mpr ⟨?_, hrest⟩
      rw [hsame b List.mem_cons_self]
      exact next_head h

/-- A new address is put in behind a part of the circle. -/
theorem insert (h : Linked next (l ++ m ++ [a])) (hnodup : (l ++ m).Nodup) (hlast : l.getLast? = some b)
    (hnew : c ∉ l ++ m) :
    Linked (Function.update (Function.update next c (next b)) b c) (l ++ c :: m ++ [a]) := by
  obtain ⟨l, rfl⟩ := List.getLast?_eq_some_iff.mp hlast
  have hb : b ∈ l ++ [b] ++ m := by simp
  have hcb : c ≠ b := fun hcb => hnew (hcb ▸ hb)
  have hother : ∀ x ∈ l ++ m, x ≠ b := by
    intro x hx hxb
    subst hxb
    rw [List.append_assoc, List.nodup_append] at hnodup
    rcases List.mem_append.mp hx with hx | hx
    · exact hnodup.2.2 x hx x (by simp) rfl
    · exact (List.nodup_cons.mp hnodup.2.1).1 hx
  have hsame : ∀ x ∈ l ++ m, Function.update (Function.update next c (next b)) b c x = next x := by
    intro x hx
    rw [Function.update_of_ne (hother x hx), Function.update_of_ne]
    rintro rfl
    exact hnew (by simp only [List.mem_append] at hx ⊢; tauto)
  rw [List.append_assoc, List.append_assoc] at h
  obtain ⟨hl, hm, -⟩ := List.isChain_append.mp h
  have hfront : Linked (Function.update (Function.update next c (next b)) b c) (l ++ [b]) := by
    rw [← List.append_assoc] at h
    have hbefore : Linked next (l ++ [b]) := (List.isChain_append.mp h).1
    exact hbefore.congr fun x hx => hsame x (List.mem_append_left m hx)
  have hback : Linked (Function.update (Function.update next c (next b)) b c) (m ++ [a]) := by
    have hafter : Linked next (m ++ [a]) := List.isChain_of_isChain_cons hm
    exact hafter.congr fun x hx => hsame x (List.mem_append_right l hx)
  have hfirst : ∀ x ∈ (m ++ [a]).head?, next b = x := by
    intro x hx
    cases m with
    | nil => cases hx; exact next_head hm
    | cons y m => cases hx; exact next_head hm
  have hnewNext : Linked (Function.update (Function.update next c (next b)) b c) (c :: (m ++ [a])) := by
    refine List.isChain_cons.mpr ⟨fun x hx => ?_, hback⟩
    rw [Function.update_of_ne hcb, Function.update_self]
    exact hfirst x hx
  have heq : l ++ [b] ++ c :: m ++ [a] = (l ++ [b]) ++ c :: (m ++ [a]) := by simp
  rw [heq]
  refine List.isChain_append.mpr ⟨hfront, hnewNext, ?_⟩
  intro x hx y hy
  rw [List.getLast?_concat] at hx
  cases hx
  cases hy
  exact Function.update_self ..

/-- The circle, seen from its second address. -/
theorem rotate (h : Linked next (a :: b :: l ++ [a])) : Linked next (b :: l ++ [a] ++ [b]) := by
  refine List.isChain_append.mpr ⟨List.isChain_of_isChain_cons h, List.isChain_singleton b, ?_⟩
  intro x hx y hy
  rw [List.getLast?_concat] at hx
  cases hx
  cases hy
  exact next_head h

end Linked

end Usbmuxd
