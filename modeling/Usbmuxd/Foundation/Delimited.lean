import Mathlib.Data.List.Basic

/-!
# Streams of self-delimiting blocks

Blocks that are written one behind the other can be told apart again if the length of a
block can be read off its front, as with a length field in a header.

## The model

* `Delimited good encode size` — `size` reads the length of the first block off a stream.
* `blocks size` — a stream cut into blocks.

## What is proved

* `Delimited.blocks` — cutting a stream gives back the blocks it was made of.
-/

namespace Usbmuxd

variable {α β : Type*}

/-- The length of the first block can be read off every stream, as long as the blocks are of
things that are `good`. -/
structure Delimited (good : α → Prop) (encode : α → List β) (size : List β → ℕ) : Prop where
  nonempty : ∀ a, good a → encode a ≠ []
  size : ∀ a, good a → ∀ rest, size (encode a ++ rest) = (encode a).length

/-- Cut at most `n` blocks off a stream. -/
def cut (size : List β → ℕ) : ℕ → List β → List (List β)
  | 0, _ => []
  | _ + 1, [] => []
  | n + 1, b :: bs => (b :: bs).take (size (b :: bs)) :: cut size n ((b :: bs).drop (size (b :: bs)))

/-- A stream cut into blocks. -/
def blocks (size : List β → ℕ) (bs : List β) : List (List β) := cut size bs.length bs

namespace Delimited

variable {good : α → Prop} {encode : α → List β} {size : List β → ℕ}

theorem cut_flatMap (h : Delimited good encode size) {as : List α} (hgood : ∀ a ∈ as, good a) {n : ℕ}
    (hn : as.length ≤ n) : cut size n (as.flatMap encode) = as.map encode := by
  induction as generalizing n with
  | nil => cases n <;> rfl
  | cons a as ih =>
    obtain ⟨n, rfl⟩ : ∃ k, n = k + 1 := ⟨n - 1, by simp only [List.length_cons] at hn; omega⟩
    have ha := hgood a List.mem_cons_self
    obtain ⟨b, bs, hb⟩ := List.exists_cons_of_ne_nil (h.nonempty a ha)
    have hsize := h.size a ha (as.flatMap encode)
    rw [List.flatMap_cons, hb, List.cons_append]
    rw [hb, List.cons_append] at hsize
    rw [cut, hsize]
    have hrest := ih (n := n) (fun a' ha' => hgood a' (List.mem_cons_of_mem _ ha')) (by simpa using hn)
    rw [← List.cons_append, List.take_left, List.drop_left, hrest, List.map_cons, hb]

/-- There are at most as many blocks as items in the stream. -/
theorem length_le (h : Delimited good encode size) {as : List α} (hgood : ∀ a ∈ as, good a) :
    as.length ≤ (as.flatMap encode).length := by
  induction as with
  | nil => exact Nat.le_refl _
  | cons a as ih =>
    have hpos := List.length_pos_iff.mpr (h.nonempty a (hgood a List.mem_cons_self))
    have hrest := ih fun a' ha' => hgood a' (List.mem_cons_of_mem _ ha')
    simp only [List.flatMap_cons, List.length_append, List.length_cons]
    omega

/-- Cutting a stream gives back the blocks it was made of. -/
theorem blocks (h : Delimited good encode size) {as : List α} (hgood : ∀ a ∈ as, good a) :
    blocks size (as.flatMap encode) = as.map encode := h.cut_flatMap hgood (h.length_le hgood)

end Delimited

end Usbmuxd
