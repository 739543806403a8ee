import Mathlib.Data.List.Basic
import Mathlib.Data.Nat.Notation

/-!
# Messages with their length in front

A message begins with a header of a fixed size that says how long all of the message is. A receiver asks for the rest
of the header first and for the rest of the message then, and is given some of what it asks for.

## The model

* `Prefixed` — a header, and the lengths that are accepted.
* `Prefixed.messages` — a stream cut into messages.
* `Prefixed.asks` — how much a receiver asks for that holds some of a message.
* `Prefixed.Cut` — what has been received, cut into the messages that were complete and what is held.

## What is proved

* `Prefixed.receive` — what a receiver holds is the beginning of a message, a whole one or one that is not accepted.
* `Prefixed.Cut.messages` — however the stream arrives, it is cut where its length fields say.
-/

namespace Usbmuxd

/-- Messages that begin with a header, off which their length is read. -/
structure Prefixed (β : Type*) where
  /-- The size of the header. -/
  header : ℕ
  /-- What the header says. -/
  size : List β → ℕ
  /-- The lengths that are accepted. -/
  admits : ℕ → Prop
  decideAdmits : DecidablePred admits
  size_append : ∀ bs bs', header ≤ bs.length → size (bs ++ bs') = size bs
  header_pos : 0 < header
  header_le : ∀ n, admits n → header ≤ n

namespace Prefixed

variable {β : Type*} (f : Prefixed β)

instance : DecidablePred f.admits := f.decideAdmits

/-- A whole message. -/
structure Whole (m : List β) : Prop where
  admits : f.admits (f.size m)
  size : f.size m = m.length

/-- The beginning of a message, of which something is missing. -/
def Begun (bs : List β) : Prop := f.header ≤ bs.length → f.admits (f.size bs) ∧ bs.length < f.size bs

/-- The header of a message that is not accepted. -/
structure Refused (bs : List β) : Prop where
  header : f.header ≤ bs.length
  admits : ¬ f.admits (f.size bs)

/-- A stream that begins with a whole message. -/
abbrev Ready (bs : List β) : Prop := f.header ≤ bs.length ∧ f.admits (f.size bs) ∧ f.size bs ≤ bs.length

/-- Take at most `n` messages off a stream. -/
def takeOff : ℕ → List β → List (List β)
  | 0, _ => []
  | n + 1, bs => if f.Ready bs then bs.take (f.size bs) :: takeOff n (bs.drop (f.size bs)) else []

/-- A stream cut into messages, as far as they are there and accepted. -/
def messages (bs : List β) : List (List β) := f.takeOff bs.length bs

/-- How much a receiver asks for that holds `held` of a message. -/
def asks (held : List β) : ℕ :=
  if held.length < f.header then f.header - held.length else f.size held - held.length

/-- What has come of a stream: the messages that were complete, and what is held behind them. -/
structure Cut (stream : List β) (ms : List (List β)) (held : List β) : Prop where
  stream : stream = ms.flatten ++ held
  whole : ∀ m ∈ ms, f.Whole m
  held : ¬ f.Ready held

variable {f} {stream held got m : List β} {ms : List (List β)}

theorem Whole.header_le (h : f.Whole m) : f.header ≤ m.length := h.size ▸ f.header_le _ h.admits

theorem Begun.not_ready (h : f.Begun held) : ¬ f.Ready held := fun hready =>
  Nat.not_lt.mpr hready.2.2 (h hready.1).2

theorem Refused.not_ready (h : f.Refused held) : ¬ f.Ready held := fun hready => h.admits hready.2.1

theorem Whole.not_begun (h : f.Whole m) : ¬ f.Begun m := fun hbegun =>
  absurd h.size (Nat.ne_of_gt (hbegun h.header_le).2)

theorem Whole.not_refused (h : f.Whole m) : ¬ f.Refused m := fun hrefused => hrefused.admits h.admits

theorem begun_nil : f.Begun [] := fun h => absurd f.header_pos (Nat.not_lt.mpr h)

/-- A header that is accepted is no longer than its message. -/
theorem asks_pos (h : f.Begun held) : 0 < f.asks held := by
  unfold asks
  split
  · omega
  · have := (h (by omega)).2
    omega

/-- What a receiver holds when it has been given some of what it has asked for. -/
theorem receive (h : f.Begun held) (hgot : got.length ≤ f.asks held) :
    f.Begun (held ++ got) ∨ f.Whole (held ++ got) ∨ f.Refused (held ++ got) := by
  unfold asks at hgot
  by_cases hheader : f.header ≤ (held ++ got).length
  swap
  · exact .inl fun hle => absurd hle hheader
  by_cases hadmits : f.admits (f.size (held ++ got))
  swap
  · exact .inr (.inr ⟨hheader, hadmits⟩)
  by_cases hmore : (held ++ got).length < f.size (held ++ got)
  · exact .inl fun _ => ⟨hadmits, hmore⟩
  refine .inr (.inl ⟨hadmits, ?_⟩)
  have hle := f.header_le _ hadmits
  have hlength : (held ++ got).length = held.length + got.length := List.length_append
  split at hgot
  · omega
  · have hsize : f.size (held ++ got) = f.size held := f.size_append held got (by omega)
    have hmissing := (h (by omega)).2
    omega

/-- A message at the front of a stream. -/
theorem Whole.ready (h : f.Whole m) (rest : List β) : f.Ready (m ++ rest) ∧ f.size (m ++ rest) = m.length := by
  have hsize := (f.size_append m rest h.header_le).trans h.size
  refine ⟨⟨?_, ?_, ?_⟩, hsize⟩
  · rw [List.length_append]
    exact Nat.le_trans h.header_le (Nat.le_add_right ..)
  · rw [hsize, ← h.size]
    exact h.admits
  · rw [hsize, List.length_append]
    exact Nat.le_add_right ..

theorem takeOff_flatten (hwhole : ∀ m ∈ ms, f.Whole m) (hheld : ¬ f.Ready held) {n : ℕ} (hn : ms.length ≤ n) :
    f.takeOff n (ms.flatten ++ held) = ms := by
  induction ms generalizing n with
  | nil =>
    cases n with
    | zero => rfl
    | succ n => exact if_neg hheld
  | cons m ms ih =>
    obtain ⟨n, rfl⟩ : ∃ k, n = k + 1 := ⟨n - 1, by simp only [List.length_cons] at hn; omega⟩
    obtain ⟨hready, hsize⟩ := (hwhole m List.mem_cons_self).ready (ms.flatten ++ held)
    rw [List.flatten_cons, List.append_assoc, takeOff, if_pos hready, hsize, List.take_left, List.drop_left,
      ih (fun m' hm' => hwhole m' (List.mem_cons_of_mem _ hm')) (by simpa using hn)]

/-- There are at most as many messages as items in the stream. -/
theorem length_le_flatten (hwhole : ∀ m ∈ ms, f.Whole m) : ms.length ≤ ms.flatten.length := by
  induction ms with
  | nil => exact Nat.le_refl _
  | cons m ms ih =>
    have hpos := Nat.lt_of_lt_of_le f.header_pos (hwhole m List.mem_cons_self).header_le
    have hrest := ih fun m' hm' => hwhole m' (List.mem_cons_of_mem _ hm')
    simp only [List.flatten_cons, List.length_append, List.length_cons]
    omega

namespace Cut

theorem nil (f : Prefixed β) : f.Cut [] [] [] := ⟨rfl, by simp, begun_nil.not_ready⟩

/-- However a stream arrives, its messages are those that its length fields say. -/
theorem messages (h : f.Cut stream ms held) : f.messages stream = ms := by
  obtain ⟨rfl, hwhole, hheld⟩ := h
  refine takeOff_flatten hwhole hheld (Nat.le_trans (length_le_flatten hwhole) ?_)
  rw [List.length_append]
  exact Nat.le_add_right ..

/-- Something arrives, and the message is not complete. -/
theorem more (h : f.Cut stream ms held) (hmore : ¬ f.Ready (held ++ got)) :
    f.Cut (stream ++ got) ms (held ++ got) := by
  refine ⟨?_, h.whole, hmore⟩
  rw [h.stream, List.append_assoc]

/-- The end of a message arrives. -/
theorem message (h : f.Cut stream ms held) (hwhole : f.Whole (held ++ got)) :
    f.Cut (stream ++ got) (ms ++ [held ++ got]) [] := by
  refine ⟨?_, fun m hm => ?_, begun_nil.not_ready⟩
  · rw [h.stream, List.flatten_append, List.flatten_singleton, List.append_nil, List.append_assoc]
  · rcases List.mem_append.mp hm with hm | hm
    · exact h.whole m hm
    · rwa [List.mem_singleton.mp hm]

end Cut

end Prefixed

end Usbmuxd
