import Mathlib.Data.Multiset.AddSub
import Usbmuxd.Model.Collection

/-!
# A collection is a finite multiset

What a collection is for: it holds elements, each as often as it was added and not
removed, and a pointer stays in the slot it was put in. The order of the slots is no part
of that; a hole is filled by the next element added.

## The model

* `CollectionOp` — `collection_add` of an element, and `collection_remove` of any pointer.
* `afterOps`, `liveAfter` — a history of these calls after `collection_init`, run on the
  array and on the multiset of live elements.
* `Represents` — what the array and the multiset have to do with each other.

## What is proved

* `Represents.apply`, `represents_afterOps` — one call keeps the relation, so every
  history does.
* `slotChange_add`, `slotChange_remove` — a call changes one slot at most.
* `collection_implements_multiset` — what the functions and the `FOREACH` loop say of the
  array is what holds of the multiset.
-/

namespace Usbmuxd

universe u v

variable {α : Type u} {σ : Type v}

/-- A call that changes a collection. -/
inductive CollectionOp (α : Type u)
  /-- `collection_add` of an element. -/
  | add (element : α)
  /-- `collection_remove` of a pointer, null or not. -/
  | remove (element : Option α)

/-- What a slot holds; a slot beyond the array holds nothing. -/
def slotAt (col : Collection α) (i : ℕ) : Option α := (col.slots[i]?).join

/-- The two collections differ in one slot at most, which held `old` and holds `new`. -/
def SlotChange (col col' : Collection α) (old new : Option α) : Prop :=
  ∃ i, slotAt col i = old ∧ slotAt col' i = new ∧ ∀ j, j ≠ i → slotAt col' j = slotAt col j

section Run

variable [DecidableEq α]

/-- What the call does to the array. -/
def CollectionOp.apply (op : CollectionOp α) (col : Collection α) : Collection α :=
  match op with
  | .add x => collectionAdd col (some x)
  | .remove element => collectionRemove col element

/-- What the call does to the multiset of live elements. -/
def CollectionOp.live (op : CollectionOp α) (live : Multiset α) : Multiset α :=
  match op with
  | .add x => x ::ₘ live
  | .remove (some x) => live.erase x
  | .remove none => live

/-- The collection after `collection_init` and then the calls `ops`. -/
def afterOps (ops : List (CollectionOp α)) : Collection α := ops.foldl (fun col op => op.apply col) collectionInit

/-- The live elements after the calls `ops`. -/
def liveAfter (ops : List (CollectionOp α)) : Multiset α := ops.foldl (fun live op => op.live live) 0

end Run

/-- The array holds the multiset, in a whole number of steps of slots. -/
structure Represents (col : Collection α) (live : Multiset α) : Prop where
  /-- The elements in the slots. -/
  elements : (col.elements : Multiset α) = live
  /-- There is a slot. -/
  positive : 0 < col.capacity
  /-- The array grows by steps. -/
  multiple : capacityStep ∣ col.capacity

/-! ### One slot at a time -/

theorem slotAt_eq_some {col : Collection α} {i : ℕ} {x : α} : slotAt col i = some x ↔ col.slots[i]? = some (some x) :=
  Option.join_eq_some_iff

/-- Adding fills a slot that held nothing, and may make the array longer. -/
theorem slotChange_add (col : Collection α) (x : α) : SlotChange col (collectionAdd col (some x)) none (some x) := by
  unfold collectionAdd
  cases h : col.slots.findIdx? (·.isNone) with
  | some i =>
    obtain ⟨hi, hnone, -⟩ := List.findIdx?_eq_some_iff_getElem.mp h
    have hslot : col.slots[i] = none := by simpa using hnone
    refine ⟨i, by simp [slotAt, hi, hslot], by simp [slotAt, hi], fun j hj => ?_⟩
    rw [slotAt, List.getElem?_set_ne hj.symm, slotAt]
  | none =>
    refine ⟨col.capacity, by simp [slotAt, SlotTable.capacity], by simp [slotAt, SlotTable.capacity, capacityStep], ?_⟩
    intro j hj
    rw [slotAt, List.getElem?_set_ne hj.symm, slotAt]
    by_cases hlt : j < col.slots.length
    · rw [List.getElem?_append_left hlt]
    · -- a slot of the added part that is not its first: cleared by `memset`
      rw [List.getElem?_append_right (by omega), List.getElem?_eq_none (by omega : col.slots.length ≤ j),
        List.getElem?_replicate]
      split
      · rfl
      · rfl

theorem capacity_collectionAdd (col : Collection α) (element : Option α) :
    (collectionAdd col element).capacity = col.capacity ∨
      (collectionAdd col element).capacity = col.capacity + capacityStep := by
  unfold collectionAdd
  cases col.slots.findIdx? (·.isNone) with
  | some i =>
    left
    exact List.length_set
  | none =>
    right
    simp [SlotTable.capacity]

section Remove

variable [DecidableEq α]

/-- Removing clears a slot that held the element. -/
theorem slotChange_remove {col : Collection α} {x : α} (h : x ∈ col) :
    SlotChange col (collectionRemove col (some x)) (some x) none := by
  have hmem : some x ∈ col.slots := SlotTable.mem_iff_slot.mp h
  unfold collectionRemove
  cases hidx : col.slots.findIdx? (· = some x) with
  | none =>
    have hno := List.findIdx?_eq_none_iff.mp hidx (some x) hmem
    simp at hno
  | some i =>
    obtain ⟨hi, hslot, -⟩ := List.findIdx?_eq_some_iff_getElem.mp hidx
    have hx : col.slots[i] = some x := by simpa using hslot
    refine ⟨i, by simp [slotAt, hi, hx], by simp [slotAt, hi], fun j hj => ?_⟩
    rw [slotAt, List.getElem?_set_ne hj.symm, slotAt]

theorem collectionRemove_of_not_mem {col : Collection α} {x : α} (h : x ∉ col) :
    collectionRemove col (some x) = col := by
  rw [collectionRemove_some]
  exact SlotTable.remove_of_not_mem h

@[simp] theorem capacity_collectionRemove (col : Collection α) (element : Option α) :
    (collectionRemove col element).capacity = col.capacity := by
  cases element with
  | none => rw [collectionRemove_none]
  | some x => rw [collectionRemove_some, SlotTable.capacity_remove]

theorem CollectionOp.capacity_le (op : CollectionOp α) (col : Collection α) :
    col.capacity ≤ (op.apply col).capacity := by
  cases op with
  | add x =>
    have hcap := capacity_collectionAdd col (some x)
    change col.capacity ≤ (collectionAdd col (some x)).capacity
    omega
  | remove element => exact (capacity_collectionRemove col element).ge

end Remove

/-! ### Every history -/

theorem represents_collectionInit : Represents (collectionInit : Collection α) 0 := by
  have hcap : (collectionInit : Collection α).capacity = capacityStep := List.length_replicate
  constructor
  · rw [collectionInit_eq, SlotTable.elements_init, Multiset.coe_nil]
  · rw [hcap]
    decide
  · exact hcap ▸ Nat.dvd_refl capacityStep

section Run

variable [DecidableEq α]

/-- A call does to the array what it does to the multiset. -/
theorem Represents.apply {col : Collection α} {live : Multiset α} (h : Represents col live) (op : CollectionOp α) :
    Represents (op.apply col) (op.live live) := by
  obtain ⟨helements, hpos, hdvd⟩ := h
  have hpos' : 0 < (op.apply col).capacity := lt_of_lt_of_le hpos (op.capacity_le col)
  cases op with
  | add x =>
    refine ⟨?_, hpos', ?_⟩
    · have hperm : (collectionAdd col (some x)).elements.Perm (x :: col.elements) := by
        rw [collectionAdd_some]
        exact SlotTable.perm_elements_add capacityStep col x
      rw [← helements]
      exact Multiset.coe_eq_coe.mpr hperm
    · change capacityStep ∣ (collectionAdd col (some x)).capacity
      rcases capacity_collectionAdd col (some x) with hcap | hcap
      · rwa [hcap]
      · rw [hcap]
        exact Nat.dvd_add hdvd (Nat.dvd_refl capacityStep)
  | remove element =>
    refine ⟨?_, hpos', ?_⟩
    · cases element with
      | none =>
        change ((collectionRemove col none).elements : Multiset α) = live
        rwa [collectionRemove_none]
      | some x =>
        change ((collectionRemove col (some x)).elements : Multiset α) = live.erase x
        rw [collectionRemove_some, SlotTable.elements_remove, ← helements, Multiset.coe_erase]
    · change capacityStep ∣ (collectionRemove col element).capacity
      rwa [capacity_collectionRemove]

/-- After any history of calls the array holds the live elements. -/
theorem represents_afterOps (ops : List (CollectionOp α)) : Represents (afterOps ops) (liveAfter ops) := by
  have hrun : ∀ (ops : List (CollectionOp α)) (col : Collection α) (live : Multiset α), Represents col live →
      Represents (ops.foldl (fun col op => op.apply col) col) (ops.foldl (fun live op => op.live live) live) := by
    intro ops
    induction ops with
    | nil => intro col live h; exact h
    | cons op ops ih =>
      intro col live h
      exact ih _ _ (h.apply op)
  exact hrun ops _ _ represents_collectionInit

end Run

/-! ### What is read of it -/

theorem Represents.mem {col : Collection α} {live : Multiset α} (h : Represents col live) {x : α} :
    x ∈ live ↔ x ∈ col := by
  rw [← h.elements, Multiset.mem_coe]
  rfl

/-- The slots that hold no live element are null. -/
theorem Represents.null_slots [DecidableEq α] {col : Collection α} {live : Multiset α} (h : Represents col live) :
    col.slots.count none + live.card = col.capacity := by
  rw [← h.elements, Multiset.coe_card]
  change col.slots.count none + col.slots.reduceOption.length = col.slots.length
  induction col.slots with
  | nil => rfl
  | cons a r ih =>
    cases a with
    | none =>
      rw [List.count_cons_self, List.reduceOption_cons_of_none, List.length_cons]
      omega
    | some y =>
      rw [List.count_cons_of_ne (by simp), List.reduceOption_cons_of_some, List.length_cons, List.length_cons]
      omega

/-- A loop whose body leaves the collection alone hands over what is left in the slots. -/
theorem Foreach.visited_eq {tab : σ → Collection α} {body : α → σ → σ → Prop}
    (hbody : ∀ x s t, body x s t → tab t = tab s) {i : ℕ} {s t : σ} {steps : List (ForeachStep α σ)}
    (h : Foreach tab body i s steps t) : visited steps = ((tab s).slots.drop i).reduceOption := by
  induction h with
  | done h =>
    rw [List.drop_eq_nil_of_le h]
    rfl
  | @skip i s t steps h rest ih =>
    obtain ⟨hlt, hslot⟩ := List.getElem?_eq_some_iff.mp h
    rw [List.drop_eq_getElem_cons hlt, hslot, List.reduceOption_cons_of_none, ← ih]
    rfl
  | @visit i x s u t steps h hrun rest ih =>
    obtain ⟨hlt, hslot⟩ := List.getElem?_eq_some_iff.mp h
    rw [List.drop_eq_getElem_cons hlt, hslot, List.reduceOption_cons_of_some, ← hbody x s u hrun, ← ih]
    rfl

/-- **A collection implements a finite multiset.** After any history of calls
`collection_count` counts the live elements, and a loop that leaves the collection alone
ends and hands over each of them as often as it is live. A removal clears one slot with the element,
or changes nothing where the element is not live; an addition fills one empty slot; every other
slot keeps what it holds. The capacity is a positive multiple of the step and does not
shrink, every slot that does not hold a live element is null, and the copy is the same array. -/
theorem collection_implements_multiset [DecidableEq α] (ops : List (CollectionOp α)) :
    collectionCount (afterOps ops) = (liveAfter ops).card ∧
    (∀ (tab : σ → Collection α) (body : α → σ → σ → Prop) (s : σ), tab s = afterOps ops →
      (∀ x s t, body x s t → tab t = tab s) →
        (∀ steps t, Foreach tab body 0 s steps t → (visited steps : Multiset α) = liveAfter ops) ∧
        ((∀ x s, ∃ t, body x s t) → ∃ steps t, Foreach tab body 0 s steps t)) ∧
    (∀ x, x ∈ liveAfter ops → SlotChange (afterOps ops) (collectionRemove (afterOps ops) (some x)) (some x) none) ∧
    (∀ x, x ∉ liveAfter ops → collectionRemove (afterOps ops) (some x) = afterOps ops) ∧
    collectionRemove (afterOps ops) none = afterOps ops ∧
    (∀ x, SlotChange (afterOps ops) (collectionAdd (afterOps ops) (some x)) none (some x)) ∧
    (0 < (afterOps ops).capacity ∧ capacityStep ∣ (afterOps ops).capacity ∧
      ∀ op : CollectionOp α, (afterOps ops).capacity ≤ (op.apply (afterOps ops)).capacity) ∧
    ((∀ i x, slotAt (afterOps ops) i = some x → x ∈ liveAfter ops) ∧
      (afterOps ops).slots.count none + (liveAfter ops).card = (afterOps ops).capacity) ∧
    collectionCopy (afterOps ops) = afterOps ops := by
  have hrep := represents_afterOps ops
  refine ⟨?_, ?_, ?_, ?_, collectionRemove_none _, slotChange_add _, ?_, ?_, collectionCopy_eq _⟩
  · rw [collectionCount_eq, ← hrep.elements, Multiset.coe_card]
    rfl
  · intro tab body s hs hbody
    constructor
    · intro steps t hloop
      rw [hloop.visited_eq hbody, hs, List.drop_zero, ← hrep.elements]
      rfl
    · intro hends
      exact Foreach.ends hends (fun x s t hrun => by rw [hbody x s t hrun]) 0 s
  · intro x hx
    exact slotChange_remove (hrep.mem.mp hx)
  · intro x hx
    exact collectionRemove_of_not_mem fun h => hx (hrep.mem.mpr h)
  · exact ⟨hrep.positive, hrep.multiple, fun op => op.capacity_le _⟩
  · refine ⟨fun i x hx => ?_, hrep.null_slots⟩
    exact hrep.mem.mpr (SlotTable.mem_iff_slot.mpr (List.mem_of_getElem? (slotAt_eq_some.mp hx)))

end Usbmuxd
