import Mathlib.Data.List.Infix

/-!
# A bounded queue and its credit

A queue between a sender that must not overrun it and a reader that takes what it likes.
The receiver tells the sender up to which place in the stream it may send, its *edge*. An
edge may arrive late, and a later one may be smaller; what counts for the sender is the
greatest it has been told.

## The model

* `Fifo entered left held capacity` — what has entered the queue, what has left it and
  what it holds.
* `Fifo.Grants edge` — no greater edge has been told than there is room for.

## What is proved

* `Fifo.enter`, `Fifo.leave` — both ends keep the order.
* `Fifo.Grants.tell` — an edge that counts the free space alone may be told at any time.
* `Fifo.Grants.fits` — what lies below the edge fits into the queue.
-/

namespace Usbmuxd

/-- A queue of at most `capacity` items: what has entered it has left it or is held, in order. -/
structure Fifo {α : Type*} (entered left held : List α) (capacity : ℕ) : Prop where
  conserved : left ++ held = entered
  bounded : held.length ≤ capacity

namespace Fifo

variable {α : Type*} {entered left held xs : List α} {capacity edge window : ℕ}

/-- An empty queue. -/
theorem empty (capacity : ℕ) : Fifo ([] : List α) [] [] capacity := ⟨rfl, Nat.zero_le _⟩

/-- Items enter at the end. -/
theorem enter (h : Fifo entered left held capacity) (hroom : held.length + xs.length ≤ capacity) :
    Fifo (entered ++ xs) left (held ++ xs) capacity :=
  ⟨by rw [← List.append_assoc, h.conserved], by rwa [List.length_append]⟩

/-- Items leave at the front. -/
theorem leave (h : Fifo entered left (xs ++ held) capacity) : Fifo entered (left ++ xs) held capacity := by
  refine ⟨by rw [List.append_assoc, h.conserved], ?_⟩
  have hbounded := h.bounded
  rw [List.length_append] at hbounded
  omega

/-- What has left is the beginning of what has entered. -/
theorem left_prefix (h : Fifo entered left held capacity) : left <+: entered := ⟨held, h.conserved⟩

theorem length_entered (h : Fifo entered left held capacity) : entered.length = left.length + held.length := by
  rw [← h.conserved, List.length_append]

/-- The edges told so far leave room for what the sender may send. The stream may start
behind a place `origin` that is counted, but not queued. -/
def Grants (origin : ℕ) (left : List α) (capacity edge : ℕ) : Prop := edge ≤ origin + left.length + capacity

namespace Grants

variable {origin : ℕ}

/-- Nothing has been told. -/
theorem zero (origin : ℕ) (left : List α) (capacity : ℕ) : Grants origin left capacity 0 := Nat.zero_le _

/-- Another edge is told: no more than the free space from the end of the stream. -/
theorem tell (h : Grants origin left capacity edge) (hf : Fifo entered left held capacity)
    (hwindow : held.length + window ≤ capacity) :
    Grants origin left capacity (max edge (origin + entered.length + window)) := by
  have hlen := hf.length_entered
  unfold Grants at h ⊢
  omega

/-- An edge stays granted when items leave. -/
theorem leave (h : Grants origin left capacity edge) (xs : List α) : Grants origin (left ++ xs) capacity edge := by
  unfold Grants at h ⊢
  rw [List.length_append]
  omega

/-- An edge stays granted when the origin is counted up. -/
theorem count (h : Grants origin left capacity edge) : Grants (origin + 1) left capacity edge := by
  unfold Grants at h ⊢
  omega

/-- What lies below the edge fits into the queue. -/
theorem fits (h : Grants origin left capacity edge) (hf : Fifo entered left held capacity)
    (hedge : origin + entered.length + xs.length ≤ edge) : held.length + xs.length ≤ capacity := by
  have hlen := hf.length_entered
  unfold Grants at h
  omega

end Grants

end Fifo

end Usbmuxd
