import Mathlib.Data.List.Infix

/-!
# The history of a queue

What a queue between two parties has to do, said of the calls alone: what has entered it, what
has left it, and when a call may say that it is empty.

## The model

* `QueueEvent` — what the two ends of a queue do; a history is a list of events, the last one
  first.
* `entered`, `left`, `awaited` — what a history has put in and taken out, and how much had
  been put in when the last call that takes something out began.
* `FirstInFirstOut` — each item leaves in its turn, and a call that takes nothing out has
  found no item that was there when it began.

## What is proved

* `FirstInFirstOut.left_begins` — what has left is the beginning of what has entered.
* `next_of_held` — the first of the items that are held is the next one to leave.
-/

namespace Usbmuxd

/-- What happens at the ends of a queue. -/
inductive QueueEvent (α : Type*) where
  /-- An item has been put in. -/
  | enqueued (x : α)
  /-- A call that takes an item out has begun. -/
  | called
  /-- It has taken out an item. -/
  | dequeued (x : α)
  /-- It has found none. -/
  | empty
  deriving DecidableEq

namespace QueueEvent

variable {α : Type*}

/-- The items that have been put in, in order. -/
def entered : List (QueueEvent α) → List α
  | [] => []
  | .enqueued x :: history => entered history ++ [x]
  | _ :: history => entered history

/-- The items that have been taken out, in order. -/
def left : List (QueueEvent α) → List α
  | [] => []
  | .dequeued x :: history => left history ++ [x]
  | _ :: history => left history

/-- The number of items that had been put in when the last call to take one out began. -/
def awaited : List (QueueEvent α) → ℕ
  | [] => 0
  | .called :: history => (entered history).length
  | _ :: history => awaited history

@[simp] theorem entered_nil : entered ([] : List (QueueEvent α)) = [] := rfl

@[simp] theorem left_nil : left ([] : List (QueueEvent α)) = [] := rfl

variable (x : α) (history : List (QueueEvent α))

@[simp] theorem entered_enqueued : entered (.enqueued x :: history) = entered history ++ [x] := rfl

@[simp] theorem entered_called : entered (.called :: history) = entered history := rfl

@[simp] theorem entered_dequeued : entered (.dequeued x :: history) = entered history := rfl

@[simp] theorem entered_empty : entered (.empty :: history) = entered history := rfl

@[simp] theorem left_enqueued : left (.enqueued x :: history) = left history := rfl

@[simp] theorem left_called : left (.called :: history) = left history := rfl

@[simp] theorem left_dequeued : left (.dequeued x :: history) = left history ++ [x] := rfl

@[simp] theorem left_empty : left (.empty :: history) = left history := rfl

@[simp] theorem awaited_enqueued : awaited (.enqueued x :: history) = awaited history := rfl

@[simp] theorem awaited_called : awaited (.called :: history) = (entered history).length := rfl

variable {x history}

/-- No more can be awaited than has been put in. -/
theorem awaited_le : ∀ history : List (QueueEvent α), awaited history ≤ (entered history).length
  | [] => le_rfl
  | .enqueued x :: history => by
    have ih := awaited_le history
    rw [awaited_enqueued, entered_enqueued, List.length_append]
    exact Nat.le_add_right_of_le ih
  | .called :: _ => le_rfl
  | .dequeued _ :: history => awaited_le history
  | .empty :: history => awaited_le history

/-- An item leaves when it is the next one, and a call finds nothing only if all that had
been put in when it began has left. -/
def FirstInFirstOut : List (QueueEvent α) → Prop
  | [] => True
  | .dequeued x :: history => (entered history)[(left history).length]? = some x ∧ FirstInFirstOut history
  | .empty :: history => awaited history ≤ (left history).length ∧ FirstInFirstOut history
  | _ :: history => FirstInFirstOut history

/-- What has left is the beginning of what has entered. -/
theorem FirstInFirstOut.left_begins (h : FirstInFirstOut history) : left history <+: entered history := by
  induction history with
  | nil => exact List.prefix_rfl
  | cons event history ih =>
    cases event with
    | enqueued x => exact (ih h).trans (List.prefix_append _ _)
    | called => exact ih h
    | empty => exact ih h.2
    | dequeued x =>
      obtain ⟨hnext, hrest⟩ := h
      obtain ⟨held, hheld⟩ := ih hrest
      rw [← hheld, List.getElem?_append_right le_rfl, Nat.sub_self] at hnext
      cases held with
      | nil => cases hnext
      | cons y rest =>
        cases hnext
        exact ⟨rest, by rw [left_dequeued, entered_dequeued, ← hheld, List.append_assoc, List.singleton_append]⟩

/-- An item that is next has its turn. -/
theorem next_of_held {held : List α} (h : left history ++ x :: held = entered history) :
    (entered history)[(left history).length]? = some x := by
  rw [← h, List.getElem?_append_right le_rfl, Nat.sub_self, List.getElem?_cons_zero]

end QueueEvent

end Usbmuxd
