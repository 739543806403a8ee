import Usbmuxd.Model.State

/-!
# The slot collection of `utils.cpp`

`struct collection` is an array of `capacity` pointers, most of them null. The daemon's
lists of devices, clients and connections are such collections, and every loop over them
is a `FOREACH` of `utils.h`.

## The model

* `Collection α` — the array. A pointer is an `Option α`, null is `none`.
* `collectionInit`, `collectionAdd`, `collectionRemove`, `collectionCount`,
  `collectionCopy` — the functions of `utils.cpp`.
* `Foreach` — a run of the macro, one step for each slot. The array and the capacity are
  read again at every step, and the body is a relation on states: nothing is said here
  of what it may do to the collection.

## What is proved

* `collectionAdd_some`, `collectionRemove_some`, `collectionCount_eq` — the functions are
  those of the slot tables of `Foundation`, as which the rest of the development knows them.
* `Foreach.ends`, `Foreach.of_forEach` — the loop ends when its body does and leaves the
  capacity alone, and then it is the loop of the slot tables.

## Honest scope

Memory does not run out, so the `int capacity` is a natural number.
-/

namespace Usbmuxd

universe u v

variable {α : Type u} {σ : Type v}

/-- `struct collection`. -/
abbrev Collection (α : Type u) := SlotTable α

/-- `collection_init`: `CAPACITY_STEP` null pointers. -/
def collectionInit : Collection α := ⟨List.replicate capacityStep none⟩

/-- `collection_add`. Without a null slot the array is reallocated, the new slots are
cleared, and the element goes into the first of them. -/
def collectionAdd (col : Collection α) (element : Option α) : Collection α :=
  match col.slots.findIdx? (·.isNone) with
  | some i => ⟨col.slots.set i element⟩
  | none => ⟨(col.slots ++ List.replicate capacityStep none).set col.capacity element⟩

/-- `collection_remove`. An element that is not there is only reported. -/
def collectionRemove [DecidableEq α] (col : Collection α) (element : Option α) : Collection α :=
  match col.slots.findIdx? (· = element) with
  | some i => ⟨col.slots.set i none⟩
  | none => col

/-- `collection_count`. -/
def collectionCount (col : Collection α) : ℕ :=
  col.slots.foldl (fun cnt element => if element.isSome then cnt + 1 else cnt) 0

/-- `collection_copy`: the array of the copy, `src->capacity` pointers copied one by one. -/
def collectionCopy (src : Collection α) : Collection α :=
  ⟨(List.range src.capacity).map fun i => (src.slots[i]?).join⟩

/-- One step of a `FOREACH`. -/
structure ForeachStep (α : Type u) (σ : Type v) where
  /-- The state in which the loop reached the slot. -/
  state : σ
  /-- The element handed to the body, none for a null slot. -/
  handed : Option α

/-- `Foreach tab body i s steps t`: with `i` the next slot, the loop runs from the state
`s` to the state `t`. The collection is the one at `tab` in the state. -/
inductive Foreach (tab : σ → Collection α) (body : α → σ → σ → Prop) : ℕ → σ → List (ForeachStep α σ) → σ → Prop
  /-- `_iter < (col)->capacity` fails. -/
  | done {i : ℕ} {s : σ} (h : (tab s).capacity ≤ i) : Foreach tab body i s [] s
  /-- A null slot: `continue`. -/
  | skip {i : ℕ} {s t : σ} {steps : List (ForeachStep α σ)} (h : (tab s).slots[i]? = some none)
      (rest : Foreach tab body (i + 1) s steps t) : Foreach tab body i s (⟨s, none⟩ :: steps) t
  /-- An element: the body runs. -/
  | visit {i : ℕ} {x : α} {s u t : σ} {steps : List (ForeachStep α σ)} (h : (tab s).slots[i]? = some (some x))
      (hbody : body x s u) (rest : Foreach tab body (i + 1) u steps t) :
      Foreach tab body i s (⟨s, some x⟩ :: steps) t

/-- The elements handed to the body, in order. -/
def visited (steps : List (ForeachStep α σ)) : List α := steps.filterMap ForeachStep.handed

/-! ### The slot tables of the development -/

theorem collectionInit_eq : (collectionInit : Collection α) = .init capacityStep := rfl

/-- The slot `fill` takes is the first null one. -/
theorem fill_eq (l : List (Option α)) (x : α) :
    SlotTable.fill l x = (l.findIdx? (·.isNone)).map fun i => l.set i (some x) := by
  induction l with
  | nil => rfl
  | cons a r ih =>
    cases a with
    | none => rfl
    | some y =>
      rw [SlotTable.fill, ih, List.findIdx?_cons, Option.isNone_some, if_neg Bool.false_ne_true, Option.map_map,
        Option.map_map]
      rfl

theorem collectionAdd_some (col : Collection α) (x : α) : collectionAdd col (some x) = col.add capacityStep x := by
  unfold collectionAdd SlotTable.add
  rw [fill_eq]
  cases col.slots.findIdx? (·.isNone) with
  | some i => rfl
  | none =>
    simp only [Option.map_none, SlotTable.capacity, SlotTable.mk.injEq]
    rw [List.set_append_right _ _ (le_refl _), Nat.sub_self]
    rfl

/-- The slot `clear` clears is the first one with the element. -/
theorem clear_eq [DecidableEq α] (l : List (Option α)) (x : α) :
    SlotTable.clear l x = match l.findIdx? (· = some x) with
      | some i => l.set i none
      | none => l := by
  induction l with
  | nil => rfl
  | cons a r ih =>
    rw [SlotTable.clear, List.findIdx?_cons]
    by_cases h : a = some x
    · simp [h]
    · rw [if_neg h, ih, if_neg (by simpa using h)]
      cases r.findIdx? (· = some x) with
      | some i => rfl
      | none => rfl

section Remove

variable [DecidableEq α]

theorem collectionRemove_some (col : Collection α) (x : α) : collectionRemove col (some x) = col.remove x := by
  unfold collectionRemove SlotTable.remove
  rw [clear_eq]
  cases col.slots.findIdx? (· = some x) with
  | some i => rfl
  | none => rfl

/-- Removing a null pointer clears a slot that is clear. -/
theorem collectionRemove_none (col : Collection α) : collectionRemove col none = col := by
  unfold collectionRemove
  cases h : col.slots.findIdx? (· = none) with
  | none => rfl
  | some i =>
    obtain ⟨hi, hnone, -⟩ := List.findIdx?_eq_some_iff_getElem.mp h
    have hslot : col.slots[i] = none := by simpa using hnone
    refine SlotTable.ext ?_
    rw [← hslot]
    exact List.set_getElem_self hi

end Remove

theorem collectionCount_eq (col : Collection α) : collectionCount col = col.count := by
  have hfold : ∀ (l : List (Option α)) (k : ℕ),
      l.foldl (fun cnt element => if element.isSome then cnt + 1 else cnt) k = k + l.reduceOption.length := by
    intro l
    induction l with
    | nil => intro k; rfl
    | cons a r ih =>
      intro k
      cases a with
      | none => exact ih k
      | some y =>
        rw [List.foldl_cons, ih, List.reduceOption_cons_of_some, List.length_cons, Option.isSome_some, if_pos rfl]
        omega
  rw [collectionCount, hfold, Nat.zero_add]
  rfl

theorem collectionCopy_eq (src : Collection α) : collectionCopy src = src := by
  refine SlotTable.ext (List.ext_getElem? fun i => ?_)
  rw [collectionCopy, List.getElem?_map, SlotTable.capacity]
  by_cases hi : i < src.slots.length
  · rw [List.getElem?_range hi, List.getElem?_eq_getElem hi]
    simp [List.getElem?_eq_getElem hi]
  · rw [List.getElem?_eq_none (by simpa using hi), List.getElem?_eq_none (by simpa using hi)]
    rfl

/-! ### The loop -/

/-- A loop whose body ends and does not change the capacity ends. -/
theorem Foreach.ends {tab : σ → Collection α} {body : α → σ → σ → Prop} (hends : ∀ x s, ∃ t, body x s t)
    (hcap : ∀ x s t, body x s t → (tab t).capacity = (tab s).capacity) (i : ℕ) (s : σ) :
    ∃ steps t, Foreach tab body i s steps t := by
  induction hn : (tab s).capacity - i generalizing i s with
  | zero => exact ⟨[], s, .done (by omega)⟩
  | succ n ih =>
    have hi : i < (tab s).slots.length := by
      have : (tab s).slots.length = (tab s).capacity := rfl
      omega
    cases hslot : (tab s).slots[i] with
    | none =>
      obtain ⟨steps, t, hrest⟩ := ih (i + 1) s (by omega)
      exact ⟨_, t, .skip (by rw [List.getElem?_eq_getElem hi, hslot]) hrest⟩
    | some x =>
      obtain ⟨u, hu⟩ := hends x s
      obtain ⟨steps, t, hrest⟩ := ih (i + 1) u (by rw [hcap x s u hu]; omega)
      exact ⟨_, t, .visit (by rw [List.getElem?_eq_getElem hi, hslot]) hu hrest⟩

/-- A loop whose body is a function that does not change the capacity ends where
`SlotTable.forEach` does. -/
theorem Foreach.of_forEach {tab : σ → Collection α} {body : α → σ → σ}
    (hcap : ∀ x s, (tab (body x s)).capacity = (tab s).capacity) (n i : ℕ) (s : σ) (hn : (tab s).capacity = i + n) :
    ∃ steps, Foreach tab (fun x s t => t = body x s) i s steps (SlotTable.forEach tab body n i s) := by
  induction n generalizing i s with
  | zero => exact ⟨[], .done (by omega)⟩
  | succ n ih =>
    have hi : i < (tab s).slots.length := by
      have : (tab s).slots.length = i + (n + 1) := hn
      omega
    rw [SlotTable.forEach, List.getElem?_eq_getElem hi]
    cases hslot : (tab s).slots[i] with
    | none =>
      obtain ⟨steps, hsteps⟩ := ih (i + 1) s (by omega)
      exact ⟨_, .skip (by rw [List.getElem?_eq_getElem hi, hslot]) hsteps⟩
    | some x =>
      obtain ⟨steps, hsteps⟩ := ih (i + 1) (body x s) (by rw [hcap]; omega)
      exact ⟨_, .visit (by rw [List.getElem?_eq_getElem hi, hslot]) rfl hsteps⟩

end Usbmuxd
