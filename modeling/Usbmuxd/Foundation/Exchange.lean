import Mathlib.Data.List.Basic

/-!
# Requests and replies

A server reads requests from a stream and writes replies to another. Most requests are answered
before the next one is read; one may be put off, and then the server answers no other until it has
answered that one or ends the conversation.

## The model

* `Exchange` — the requests that have been read, the replies that have been written, each by its
  tag, and the request that has been put off.
* `Even` — every request has its reply, in order, but for the one that has been put off.
* `Within` — no reply is without a request.
* `unmarked` — the items of a list that the next element does not mark. A server that records what
  it writes, and behind what is no reply a mark, has written these replies.

## What is proved

* `Within.answer`, `Even.defer`, … — what a server may do.
* `unmarked_append` — what is recorded in two parts.
-/

namespace Usbmuxd

/-! ### Exchanges -/

/-- What a server has read and written. -/
structure Exchange (Tag : Type*) where
  asked : List Tag
  replies : List Tag
  /-- The request that has been put off. -/
  waiting : Option Tag

namespace Exchange

variable {Tag : Type*} {asked replies : List Tag} {waiting : Option Tag} {tag : Tag}

/-- Every request has its reply, but for the one that has been put off. -/
def Even (x : Exchange Tag) : Prop := x.replies ++ x.waiting.toList = x.asked

/-- Each reply is to a request of its own, and so is the one that is still to come. -/
def Within (x : Exchange Tag) : Prop := (x.replies ++ x.waiting.toList).Sublist x.asked

theorem Even.within {x : Exchange Tag} (h : x.Even) : x.Within := by
  unfold Within
  rw [show x.replies ++ x.waiting.toList = x.asked from h]

/-- A request is read and answered. -/
theorem Even.answer (h : Even ⟨asked, replies, none⟩) (tag : Tag) : Even ⟨asked ++ [tag], replies ++ [tag], none⟩ := by
  have hsame : replies ++ [] = asked := h
  subst hsame
  simp [Even]

/-- A request is read and put off. -/
theorem Even.defer (h : Even ⟨asked, replies, none⟩) (tag : Tag) : Even ⟨asked ++ [tag], replies, some tag⟩ := by
  have hsame : replies ++ [] = asked := h
  subst hsame
  simp [Even]

/-- The request that has been put off is answered. -/
theorem Even.settle (h : Even ⟨asked, replies, some tag⟩) : Even ⟨asked, replies ++ [tag], none⟩ := by
  have hsame : replies ++ [tag] = asked := h
  subst hsame
  simp [Even]

/-- A request is read and answered, and what has been put off will not be. -/
theorem Within.answer (h : Within ⟨asked, replies, waiting⟩) (tag : Tag) :
    Within ⟨asked ++ [tag], replies ++ [tag], none⟩ := by
  have hreplies : replies.Sublist asked := (List.sublist_append_left ..).trans h
  simpa [Within] using hreplies.append (List.Sublist.refl [tag])

/-- A request is read, and not answered. -/
theorem Within.ask (h : Within ⟨asked, replies, waiting⟩) (tag : Tag) : Within ⟨asked ++ [tag], replies, waiting⟩ :=
  h.trans (List.sublist_append_left ..)

theorem Within.defer (h : Within ⟨asked, replies, none⟩) (tag : Tag) : Within ⟨asked ++ [tag], replies, some tag⟩ := by
  have hreplies : (replies ++ []).Sublist asked := h
  rw [List.append_nil] at hreplies
  exact hreplies.append (List.Sublist.refl [tag])

theorem Within.settle (h : Within ⟨asked, replies, some tag⟩) : Within ⟨asked, replies ++ [tag], none⟩ := by
  have hreplies : (replies ++ [tag]).Sublist asked := h
  simpa [Within] using hreplies

/-- What has been put off will not be answered. -/
theorem Within.abandon (h : Within ⟨asked, replies, waiting⟩) : Within ⟨asked, replies, none⟩ := by
  have hreplies : replies.Sublist asked := (List.sublist_append_left ..).trans h
  simpa [Within] using hreplies

end Exchange

/-! ### Marks -/

section Unmarked

variable {α β : Type*}

/-- The items of a list that the element behind them does not mark. -/
def unmarked (item : α → Option β) (marks : α → Bool) : List α → List β
  | [] => []
  | a :: rest =>
    if rest.head?.any marks then unmarked item marks rest else (item a).toList ++ unmarked item marks rest

variable {item : α → Option β} {marks : α → Bool} {l l' : List α}

/-- What comes behind marks nothing in front of it, if it does not begin with a mark. -/
theorem unmarked_append (h : l'.head?.any marks = false) :
    unmarked item marks (l ++ l') = unmarked item marks l ++ unmarked item marks l' := by
  induction l with
  | nil => rfl
  | cons a rest ih =>
    have hhead : (rest ++ l').head?.any marks = rest.head?.any marks := by
      cases rest with
      | nil => simpa using h
      | cons b rest => rfl
    rw [List.cons_append, unmarked, unmarked, hhead, ih]
    split
    · rfl
    · rw [List.append_assoc]

/-- What holds no item. -/
theorem unmarked_nothing (h : ∀ a ∈ l, item a = none) : unmarked item marks l = [] := by
  induction l with
  | nil => rfl
  | cons a rest ih =>
    rw [List.forall_mem_cons] at h
    rw [unmarked, ih h.2, h.1]
    exact ite_self _

end Unmarked

end Usbmuxd
