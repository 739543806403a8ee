import Usbmuxd.Collections.Multiset

/-!
# Removing from a collection while looping over it

`device_remove`, `client_process` and the shutdown functions loop over a collection with a
body that removes elements from it, the one it was handed and others, through calls that
may loop over the same collection themselves. The macro reads the array again at every
step, so a cleared slot is passed over.

## The model

* `LoopBody` — the bodies: they compute, remove the elements they choose from all they
  know, branch, and loop over the collection with a body of the same kind.
* `LoopBody.exec` — what a body may do, its loops being runs of `Foreach`.

## What is proved

* `LoopBody.cleared` — a body only clears slots, whatever loops it nests.
* `LoopBody.exec_existsUnique` — it ends, in one way.
* `Foreach.count_visited`, `Foreach.not_handed_again`, `Foreach.empty_of_removes` — a loop whose
  body only clears slots.
* `foreach_while_removing` — the three together.
-/

namespace Usbmuxd

universe u v

variable {α : Type u} {σ : Type v}

/-- The body of a `FOREACH` that removes. What it does may depend on the collection and
on the rest of the program's state. -/
inductive LoopBody (α : Type u) (σ : Type v)
  /-- Anything that leaves the collection alone. -/
  | compute (f : Collection α → σ → σ)
  /-- `collection_remove` of each of some elements. -/
  | remove (pick : Collection α → σ → List α)
  /-- One after the other. -/
  | seq (b c : LoopBody α σ)
  /-- One or the other. -/
  | cond (p : Collection α → σ → Bool) (b c : LoopBody α σ)
  /-- A `FOREACH` over the same collection. -/
  | foreach (b : α → LoopBody α σ)

/-- `b.exec s t`: run in the state `s`, the body may end in the state `t`. -/
def LoopBody.exec [DecidableEq α] : LoopBody α σ → Collection α × σ → Collection α × σ → Prop
  | .compute f => fun s t => t = (s.1, f s.1 s.2)
  | .remove pick => fun s t => t = ((pick s.1 s.2).foldl (fun col x => collectionRemove col (some x)) s.1, s.2)
  | .seq b c => fun s t => ∃ u, b.exec s u ∧ c.exec u t
  | .cond p b c => fun s t => if p s.1 s.2 then b.exec s t else c.exec s t
  | .foreach b => fun s t => ∃ steps, Foreach Prod.fst (fun x => (b x).exec) 0 s steps t

/-- The loop over the collection with the body `b`, from slot `0`. -/
abbrev ForeachRemoving [DecidableEq α] (b : α → LoopBody α σ) :=
  Foreach (Prod.fst : Collection α × σ → Collection α) (fun x => (b x).exec) 0

/-! ### A loop whose body only clears slots -/

section Cleared

variable {tab : σ → Collection α} {body : α → σ → σ → Prop} {i : ℕ} {s t : σ} {steps : List (ForeachStep α σ)}

/-- The body only clears slots. -/
def OnlyClears (tab : σ → Collection α) (body : α → σ → σ → Prop) : Prop :=
  ∀ x s t, body x s t → (tab s).Cleared (tab t)

/-- The loop only clears slots, and every step is reached with slots cleared. -/
theorem Foreach.cleared (h : Foreach tab body i s steps t) (hbody : OnlyClears tab body) : (tab s).Cleared (tab t) := by
  induction h with
  | done h => exact .refl _
  | skip h rest ih => exact ih
  | visit h hrun rest ih => exact (hbody _ _ _ hrun).trans ih

theorem Foreach.cleared_step (h : Foreach tab body i s steps t) (hbody : OnlyClears tab body) :
    ∀ st ∈ steps, (tab s).Cleared (tab st.state) := by
  induction h with
  | done h => intro st hst; cases hst
  | skip h rest ih =>
    intro st hst
    rcases List.mem_cons.mp hst with rfl | hst
    · exact .refl _
    · exact ih st hst
  | visit h hrun rest ih =>
    intro st hst
    rcases List.mem_cons.mp hst with rfl | hst
    · exact .refl _
    · exact (hbody _ _ _ hrun).trans (ih st hst)

/-- From each step to the later ones slots are cleared only. -/
theorem Foreach.pairwise_cleared (h : Foreach tab body i s steps t) (hbody : OnlyClears tab body) :
    steps.Pairwise fun st st' => (tab st.state).Cleared (tab st'.state) := by
  induction h with
  | done h => exact .nil
  | skip h rest ih => exact .cons (rest.cleared_step hbody) ih
  | visit h hrun rest ih =>
    exact .cons (fun st hst => (hbody _ _ _ hrun).trans (rest.cleared_step hbody st hst)) ih

/-- Each slot has its step. -/
theorem Foreach.length_steps (h : Foreach tab body i s steps t) (hbody : OnlyClears tab body)
    (hi : i ≤ (tab s).capacity) :
    i + steps.length = (tab s).capacity := by
  induction h with
  | done h => exact Nat.le_antisymm hi h
  | skip h rest ih =>
    obtain ⟨hlt, -⟩ := List.getElem?_eq_some_iff.mp h
    have := ih hlt
    rw [List.length_cons]
    omega
  | visit h hrun rest ih =>
    obtain ⟨hlt, -⟩ := List.getElem?_eq_some_iff.mp h
    have hcap := (hbody _ _ _ hrun).capacity
    have := ih (hcap ▸ hlt)
    rw [List.length_cons]
    omega

/-- A step hands over what its slot holds when the loop gets there. -/
theorem Foreach.handed_eq (h : Foreach tab body i s steps t) :
    ∀ (p : ℕ) (st : ForeachStep α σ), steps[p]? = some st → st.handed = slotAt (tab st.state) (i + p) := by
  induction h with
  | done h => intro p st hst; cases hst
  | @skip i s t steps h rest ih =>
    intro p st hst
    cases p with
    | zero =>
      cases Option.some.inj hst
      simp [slotAt, h]
    | succ p =>
      rw [show i + (p + 1) = i + 1 + p by omega]
      exact ih p st hst
  | @visit i x s u t steps h hrun rest ih =>
    intro p st hst
    cases p with
    | zero =>
      cases Option.some.inj hst
      simp [slotAt, h]
    | succ p =>
      rw [show i + (p + 1) = i + 1 + p by omega]
      exact ih p st hst

/-- What is handed over was in the slots, in this order. -/
theorem Foreach.visited_sublist (h : Foreach tab body i s steps t) (hbody : OnlyClears tab body)
    {col : Collection α} (hcol : col.Cleared (tab s)) :
    (visited steps).Sublist (col.slots.drop i).reduceOption := by
  induction h with
  | done h => exact List.nil_sublist _
  | @skip i s t steps h rest ih =>
    obtain ⟨hlt, -⟩ := List.getElem?_eq_some_iff.mp h
    have hlt' : i < col.slots.length := hlt.trans_eq hcol.capacity
    rw [List.drop_eq_getElem_cons hlt']
    cases col.slots[i] with
    | none => exact ih hcol
    | some y => exact (ih hcol).cons y
  | @visit i x s u t steps h hrun rest ih =>
    obtain ⟨hlt, hslot⟩ := List.getElem?_eq_some_iff.mp (hcol.slot_of_slot h)
    rw [List.drop_eq_getElem_cons hlt, hslot]
    exact (ih (hcol.trans (hbody _ _ _ hrun))).cons_cons x

/-- The elements of a collection without duplicates are handed over at most once. -/
theorem Foreach.nodup_visited (h : Foreach tab body 0 s steps t) (hbody : OnlyClears tab body)
    (hs : (tab s).Nodup) : (visited steps).Nodup :=
  List.Nodup.sublist (h.visited_sublist hbody (.refl _)) hs

/-- An element is handed over once if it is there when the loop reaches its slot, and else never. -/
theorem Foreach.count_visited [DecidableEq α] (h : Foreach tab body 0 s steps t) (hbody : OnlyClears tab body)
    (hs : (tab s).Nodup) {p : ℕ} {x : α} (hp : (tab s).slots[p]? = some (some x)) :
    ∃ st, steps[p]? = some st ∧ (visited steps).count x = if x ∈ tab st.state then 1 else 0 := by
  obtain ⟨hlt, -⟩ := List.getElem?_eq_some_iff.mp hp
  have hlen : 0 + steps.length = (tab s).slots.length := h.length_steps hbody (Nat.zero_le _)
  have hlt' : p < steps.length := by omega
  refine ⟨steps[p], List.getElem?_eq_getElem hlt', ?_⟩
  rw [(h.nodup_visited hbody hs).count]
  have hiff : x ∈ visited steps ↔ x ∈ tab steps[p].state := by
    constructor
    · intro hx
      obtain ⟨st, hst, hhanded⟩ := List.mem_filterMap.mp hx
      obtain ⟨q, hq⟩ := List.mem_iff_getElem?.mp hst
      have hslot : (tab st.state).slots[q]? = some (some x) := by
        rw [← slotAt_eq_some, ← hhanded, h.handed_eq q st hq, Nat.zero_add]
      -- the slot is the one the element was in at the start
      have hpq : q = p := hs.slot_unique ((h.cleared_step hbody st hst).slot_of_slot hslot) hp
      rw [hpq, List.getElem?_eq_getElem hlt'] at hq
      rw [Option.some.inj hq]
      exact SlotTable.mem_iff_slot.mpr (List.mem_of_getElem? hslot)
    · intro hx
      have hmem := List.getElem_mem hlt'
      obtain ⟨q, hq⟩ := List.mem_iff_getElem?.mp (SlotTable.mem_iff_slot.mp hx)
      have hpq : q = p := hs.slot_unique ((h.cleared_step hbody _ hmem).slot_of_slot hq) hp
      refine List.mem_filterMap.mpr ⟨steps[p], hmem, ?_⟩
      rw [hpq] at hq
      rw [h.handed_eq p _ (List.getElem?_eq_getElem hlt'), Nat.zero_add, slotAt_eq_some]
      exact hq
  exact if_congr hiff rfl rfl

/-- What is handed over is in the collection. -/
theorem Foreach.mem_of_handed (h : Foreach tab body i s steps t) {st : ForeachStep α σ} (hst : st ∈ steps) {x : α}
    (hx : st.handed = some x) : x ∈ tab st.state := by
  obtain ⟨p, hp⟩ := List.mem_iff_getElem?.mp hst
  rw [h.handed_eq p st hp, slotAt_eq_some] at hx
  exact SlotTable.mem_iff_slot.mpr (List.mem_of_getElem? hx)

/-- What was not there at some step is not handed over at a later one. -/
theorem Foreach.not_handed_again (h : Foreach tab body i s steps t) (hbody : OnlyClears tab body) {p q : ℕ}
    {st st' : ForeachStep α σ} {x : α}
    (hpq : p ≤ q) (hp : steps[p]? = some st) (hq : steps[q]? = some st') (hx : x ∉ tab st.state) :
    st'.handed ≠ some x := by
  intro hhanded
  have hmem : x ∈ tab st'.state := h.mem_of_handed (List.mem_of_getElem? hq) hhanded
  obtain ⟨hp', rfl⟩ := List.getElem?_eq_some_iff.mp hp
  obtain ⟨hq', rfl⟩ := List.getElem?_eq_some_iff.mp hq
  rcases Nat.eq_or_lt_of_le hpq with rfl | hlt
  · exact hx hmem
  · exact hx ((List.pairwise_iff_getElem.mp (h.pairwise_cleared hbody) p q hp' hq' hlt).mem_of_mem hmem)

/-- A loop whose body removes what it is handed leaves nothing. -/
theorem Foreach.empty_of_removes (h : Foreach tab body i s steps t) (hbody : OnlyClears tab body) (hs : (tab s).Nodup)
    (hremoves : ∀ x u v, (tab u).Nodup → body x u v → x ∉ tab v) :
    ∀ p x, i ≤ p → (tab t).slots[p]? ≠ some (some x) := by
  induction h with
  | done h =>
    intro p x hip hp
    obtain ⟨hlt, -⟩ := List.getElem?_eq_some_iff.mp hp
    exact absurd (h.trans hip) (Nat.not_le.mpr hlt)
  | skip h rest ih =>
    intro p x hip hp
    rcases Nat.eq_or_lt_of_le hip with rfl | hlt
    · rw [(rest.cleared hbody).slot_of_free h] at hp
      cases hp
    · exact ih hs p x hlt hp
  | visit h hrun rest ih =>
    intro p y hip hp
    have hcleared := hbody _ _ _ hrun
    rcases Nat.eq_or_lt_of_le hip with rfl | hlt
    · -- the slot held the element that was handed over, which the body removed
      have hu := (rest.cleared hbody).slot_of_slot hp
      have hs' := hcleared.slot_of_slot hu
      rw [h] at hs'
      cases hs'
      exact hremoves _ _ _ hs hrun (SlotTable.mem_iff_slot.mpr (List.mem_of_getElem? hu))
    · exact ih (hcleared.nodup hs) p y hlt hp

/-- With a body that has one outcome the loop has one. -/
theorem Foreach.deterministic (h : Foreach tab body i s steps t)
    (hbody : ∀ x s t t', body x s t → body x s t' → t' = t) :
    ∀ {steps' : List (ForeachStep α σ)} {t' : σ}, Foreach tab body i s steps' t' → steps' = steps ∧ t' = t := by
  induction h with
  | done h =>
    intro steps' t' h'
    cases h' with
    | done _ => exact ⟨rfl, rfl⟩
    | skip hslot _ => exact absurd (List.getElem?_eq_some_iff.mp hslot).1 (Nat.not_lt.mpr h)
    | visit hslot _ _ => exact absurd (List.getElem?_eq_some_iff.mp hslot).1 (Nat.not_lt.mpr h)
  | skip h rest ih =>
    intro steps' t' h'
    cases h' with
    | done hdone => exact absurd (List.getElem?_eq_some_iff.mp h).1 (Nat.not_lt.mpr hdone)
    | skip _ rest' =>
      obtain ⟨rfl, rfl⟩ := ih rest'
      exact ⟨rfl, rfl⟩
    | visit hslot _ _ =>
      rw [h] at hslot
      cases hslot
  | visit h hrun rest ih =>
    intro steps' t' h'
    cases h' with
    | done hdone => exact absurd (List.getElem?_eq_some_iff.mp h).1 (Nat.not_lt.mpr hdone)
    | skip hslot _ =>
      rw [h] at hslot
      cases hslot
    | visit hslot hrun' rest' =>
      rw [h] at hslot
      cases hslot
      cases hbody _ _ _ _ hrun hrun'
      obtain ⟨rfl, rfl⟩ := ih rest'
      exact ⟨rfl, rfl⟩

end Cleared

/-! ### The bodies -/

section Bodies

variable [DecidableEq α]

theorem cleared_removeAll (xs : List α) (col : Collection α) :
    col.Cleared (xs.foldl (fun col x => collectionRemove col (some x)) col) := by
  induction xs generalizing col with
  | nil => exact .refl col
  | cons x xs ih =>
    have hx : col.Cleared (collectionRemove col (some x)) := by
      rw [collectionRemove_some]
      exact .remove col x
    exact hx.trans (ih _)

/-- A body only clears slots. -/
theorem LoopBody.cleared (b : LoopBody α σ) {s t : Collection α × σ} (h : b.exec s t) : s.1.Cleared t.1 := by
  induction b generalizing s t with
  | compute f =>
    cases h
    exact .refl _
  | remove pick =>
    cases h
    exact cleared_removeAll _ _
  | seq b c ihb ihc =>
    obtain ⟨u, hb, hc⟩ := h
    exact (ihb hb).trans (ihc hc)
  | cond p b c ihb ihc =>
    unfold exec at h
    split at h
    · exact ihb h
    · exact ihc h
  | foreach b ih =>
    obtain ⟨steps, hloop⟩ := h
    exact hloop.cleared fun x _ _ hx => ih x hx

/-- A body ends, and in one way. -/
theorem LoopBody.exec_existsUnique (b : LoopBody α σ) (s : Collection α × σ) : ∃! t, b.exec s t := by
  induction b generalizing s with
  | compute f => exact ⟨_, rfl, fun t ht => ht⟩
  | remove pick => exact ⟨_, rfl, fun t ht => ht⟩
  | seq b c ihb ihc =>
    obtain ⟨u, hu, hubest⟩ := ihb s
    obtain ⟨t, ht, htbest⟩ := ihc u
    refine ⟨t, ⟨u, hu, ht⟩, ?_⟩
    rintro t' ⟨u', hu', ht'⟩
    cases hubest u' hu'
    exact htbest t' ht'
  | cond p b c ihb ihc =>
    by_cases hp : p s.1 s.2 = true
    · simpa only [exec, if_pos hp] using ihb s
    · simpa only [exec, if_neg hp] using ihc s
  | foreach b ih =>
    have hends : ∀ x s, ∃ t, (b x).exec s t := fun x s => (ih x s).exists
    have honce : ∀ x s t t', (b x).exec s t → (b x).exec s t' → t' = t := fun x s t t' h h' => (ih x s).unique h' h
    obtain ⟨steps, t, hloop⟩ := Foreach.ends hends (fun x s t h => ((b x).cleared h).capacity) 0 s
    refine ⟨t, ⟨steps, hloop⟩, ?_⟩
    rintro t' ⟨steps', hloop'⟩
    exact (hloop.deterministic honce hloop').2

/-- **Iterating while removing is safe.** Over a collection of distinct elements the loop
ends, and in one way. An element of the start is handed over once if it is there when the
loop reaches its slot, and never if it is not; what is handed over is in the collection,
and what was missing at some step is not handed over at a later one. A loop whose body
removes what it is handed leaves the collection empty. -/
theorem foreach_while_removing (b : α → LoopBody α σ) (s : Collection α × σ) (hs : s.1.elements.Nodup) :
    ∃ steps t, ForeachRemoving b s steps t ∧
      (∀ steps' t', ForeachRemoving b s steps' t' → steps' = steps ∧ t' = t) ∧
      (∀ (p : ℕ) x, s.1.slots[p]? = some (some x) →
        ∃ st : ForeachStep α (Collection α × σ), steps[p]? = some st ∧
          (visited steps).count x = if x ∈ st.state.1 then 1 else 0) ∧
      (∀ st ∈ steps, ∀ x, st.handed = some x → x ∈ st.state.1 ∧ x ∈ s.1) ∧
      (∀ (p q : ℕ) (st st' : ForeachStep α (Collection α × σ)) x, p ≤ q → steps[p]? = some st → steps[q]? = some st' →
        x ∉ st.state.1 → st'.handed ≠ some x) ∧
      ((∀ x u v, u.1.Nodup → (b x).exec u v → x ∉ v.1) → t.1.elements = []) := by
  have hbody : OnlyClears Prod.fst fun x => (b x).exec := fun x _ _ h => (b x).cleared h
  have hends : ∀ x s, ∃ t, (b x).exec s t := fun x s => ((b x).exec_existsUnique s).exists
  have honce : ∀ x s t t', (b x).exec s t → (b x).exec s t' → t' = t := fun x s _ _ h h' =>
    ((b x).exec_existsUnique s).unique h' h
  obtain ⟨steps, t, hloop⟩ := Foreach.ends hends (fun x s t h => (hbody x s t h).capacity) 0 s
  refine ⟨steps, t, hloop, fun steps' t' h' => hloop.deterministic honce h', ?_, ?_, ?_, ?_⟩
  · intro p x hp
    exact hloop.count_visited hbody hs hp
  · intro st hst x hx
    have hmem := hloop.mem_of_handed hst hx
    exact ⟨hmem, (hloop.cleared_step hbody st hst).mem_of_mem hmem⟩
  · intro p q st st' x hpq hp hq hx
    exact hloop.not_handed_again hbody hpq hp hq hx
  · intro hremoves
    refine List.eq_nil_iff_forall_not_mem.mpr fun x hx => ?_
    obtain ⟨p, hp⟩ := List.mem_iff_getElem?.mp (List.reduceOption_mem_iff.mp hx)
    exact hloop.empty_of_removes hbody hs hremoves p x (Nat.zero_le p) hp

/-- A body that removes what it is handed and, from a loop of its own, everything that is left. -/
theorem foreach_while_removing_nested :
    ∃ steps t, ForeachRemoving (fun x : ℕ => .seq (.remove fun _ _ => [x]) (.foreach fun y => .remove fun _ _ => [y]))
      ((⟨[some 1, none, some 2]⟩ : Collection ℕ), ()) steps t ∧ t.1.elements = [] := by
  obtain ⟨steps, t, hloop, -, -, -, -, hempty⟩ := foreach_while_removing
    (fun x : ℕ => .seq (.remove fun _ _ => [x]) (.foreach fun y => .remove fun _ _ => [y]))
    ((⟨[some 1, none, some 2]⟩ : Collection ℕ), ()) (by decide)
  refine ⟨steps, t, hloop, hempty ?_⟩
  rintro x u v hu ⟨w, rfl, hv⟩ hx
  have hmem : x ∈ collectionRemove u.1 (some x) := (LoopBody.cleared (.foreach _) hv).mem_of_mem hx
  rw [collectionRemove_some, SlotTable.mem_remove hu] at hmem
  exact hmem.1 rfl

end Bodies

end Usbmuxd
