import Mathlib.Data.List.Basic

/-!
# Handles

A record holds a handle that is opened and closed, and is freed at last. The calls are
recorded; a call is misused if it opens a handle that is open, or frees the record of one.

## The model

* `HandleCall` — a call; `callStep` — whether the handle is open after it, unless it is misused.
* `openAfter` — the same for some calls, of a record whose handle is closed at first.
* `callsOf` — the calls about one record in a history of calls about many.

## What is proved

* `openAfter_append`, `callsOf_map` — how histories compose.
-/

namespace Usbmuxd.Handle

/-- A call about the handle in a record. -/
inductive HandleCall where
  /-- The handle is opened. -/
  | opened
  /-- The handle is closed, which does nothing to a closed one. -/
  | closed
  /-- The record is freed. -/
  | freed
  deriving DecidableEq

/-- Whether the handle is open after the call; `none` if it must not be made. -/
def callStep (isOpen : Bool) : HandleCall → Option Bool
  | .opened => if isOpen then none else some true
  | .closed => some false
  | .freed => if isOpen then none else some false

/-- Whether the handle is open after the calls; `none` if one of them must not be made. -/
def openAfter (isOpen : Bool) (calls : List HandleCall) : Option Bool := calls.foldlM callStep isOpen

variable {isOpen : Bool} {calls : List HandleCall}

@[simp]
theorem openAfter_nil (isOpen : Bool) : openAfter isOpen [] = some isOpen := rfl

@[simp]
theorem openAfter_opened (calls : List HandleCall) : openAfter false (.opened :: calls) = openAfter true calls := rfl

@[simp]
theorem openAfter_closed (isOpen : Bool) (calls : List HandleCall) :
    openAfter isOpen (.closed :: calls) = openAfter false calls := rfl

@[simp]
theorem openAfter_freed (calls : List HandleCall) : openAfter false (.freed :: calls) = openAfter false calls := rfl

theorem openAfter_append (isOpen : Bool) (calls calls' : List HandleCall) :
    openAfter isOpen (calls ++ calls') = (openAfter isOpen calls).bind fun isOpen' => openAfter isOpen' calls' :=
  List.foldlM_append

variable {α : Type*} [DecidableEq α]

/-- The calls about one record. -/
def callsOf (x : α) (history : List (α × HandleCall)) : List HandleCall :=
  history.filterMap fun call => if call.1 = x then some call.2 else none

@[simp]
theorem callsOf_nil (x : α) : callsOf x [] = [] := rfl

@[simp]
theorem callsOf_append (x : α) (history history' : List (α × HandleCall)) :
    callsOf x (history ++ history') = callsOf x history ++ callsOf x history' := List.filterMap_append

/-- Calls about one record. -/
theorem callsOf_map (x y : α) (calls : List HandleCall) :
    callsOf x (calls.map fun call => (y, call)) = if y = x then calls else [] := by
  unfold callsOf
  rw [List.filterMap_map]
  split
  · rename_i heq
    subst heq
    simp
  · rename_i hne
    simp [hne]

end Usbmuxd.Handle
