import Mathlib.Data.Nat.Bitwise
import Mathlib.Data.Nat.Size
import Usbmuxd.Foundation.Circular
import Usbmuxd.Model.Queue

/-!
# One block of the queue

Each block of `ReaderWriterQueue` is a circular buffer whose two ends belong to two threads.
Both work with copies of the other's index, which may be old: the consumer may see fewer
elements than there are, the producer less room. Neither is wrong about what it sees.

## The model

* `Block.Holds b xs ready taken` — the block holds `xs`; the producer has made the elements
  `ready` behind them, and has not yet published them; the consumer has taken the first
  `taken` of `xs`, and has not yet given their slots back.

## What is proved

* `ceilToPow2_eq` — `ceilToPow2` is the least power of two that is not less, so that
  `& sizeMask` is the remainder by the size of a block.
* `Holds.nonempty`, `Holds.room` — what the copies allow to conclude.
* `Holds.construct`, `Holds.publishTail`, `Holds.destroy`, `Holds.publishFront` — the four
  writes of an enqueue and a dequeue.
-/

namespace Usbmuxd

namespace ReaderWriterQueue

variable {α : Type*}

/-! ### Powers of two -/

/-- A bit of `y` is set if one of the `n` bits of `x` from there on is. -/
def Smeared (n x y : ℕ) : Prop := ∀ i, y.testBit i = true ↔ ∃ j, i ≤ j ∧ j < i + n ∧ x.testBit j = true

theorem Smeared.start (x : ℕ) : Smeared 1 x x := by
  intro i
  constructor
  · exact fun h => ⟨i, le_rfl, Nat.lt_succ_self i, h⟩
  · rintro ⟨j, hij, hji, h⟩
    obtain rfl : j = i := by omega
    exact h

/-- `x |= x >> k`. -/
theorem Smeared.shift {n x y : ℕ} (h : Smeared n x y) {k : ℕ} (hk : k ≤ n) : Smeared (n + k) x (y ||| y >>> k) := by
  intro i
  rw [Nat.testBit_or, Nat.testBit_shiftRight, Bool.or_eq_true, h i, h (k + i)]
  constructor
  · rintro (⟨j, hij, hji, hbit⟩ | ⟨j, hij, hji, hbit⟩)
    · exact ⟨j, hij, by omega, hbit⟩
    · exact ⟨j, by omega, by omega, hbit⟩
  · rintro ⟨j, hij, hji, hbit⟩
    by_cases hj : j < i + n
    · exact .inl ⟨j, hij, hj, hbit⟩
    · exact .inr ⟨j, by omega, by omega, hbit⟩

theorem Smeared.eq {x y : ℕ} (h : Smeared 64 x y) (hx : x < 2 ^ 64) : y = 2 ^ x.size - 1 := by
  refine Nat.eq_of_testBit_eq fun i => Bool.eq_iff_iff.mpr ?_
  rw [h i, Nat.testBit_two_pow_sub_one, decide_eq_true_iff, Nat.lt_size]
  constructor
  · rintro ⟨j, hij, -, hbit⟩
    exact (Nat.pow_le_pow_right Nat.two_pos hij).trans (Nat.ge_two_pow_of_testBit hbit)
  · intro hle
    obtain ⟨j, hij, hbit⟩ := Nat.exists_ge_and_testBit_of_ge_two_pow hle
    have hj : j < 64 := (Nat.pow_lt_pow_iff_right (by decide)).mp ((Nat.ge_two_pow_of_testBit hbit).trans_lt hx)
    exact ⟨j, hij, by omega, hbit⟩

/-- `ceilToPow2` is the least power of two that is not less than its argument. -/
theorem ceilToPow2_eq {x : ℕ} (hx : x ≤ 2 ^ 64) : ceilToPow2 x = 2 ^ (x - 1).size := by
  have hsmeared := (((((((Smeared.start (x - 1)).shift (k := 1) le_rfl).shift (k := 2) le_rfl).shift (k := 4)
    le_rfl).shift (k := 8) le_rfl).shift (k := 16) le_rfl).shift (k := 32) le_rfl)
  have heq := hsmeared.eq (by omega)
  have hpos : 0 < 2 ^ (x - 1).size := Nat.two_pow_pos _
  unfold ceilToPow2
  simp only [List.foldl_cons, List.foldl_nil]
  exact (congrArg (· + 1) heq).trans (Nat.sub_add_cancel hpos)

/-- `& sizeMask`. -/
theorem and_mask {size : ℕ} (h : ∃ k, size = 2 ^ k) (i : ℕ) : i &&& (size - 1) = i % size := by
  obtain ⟨k, rfl⟩ := h
  exact Nat.and_two_pow_sub_one_eq_mod i k

namespace Block

/-! ### What a block holds -/

/-- The slots of a block that holds `xs`, counted from `front`. -/
def slots (xs ready : List α) (taken i : ℕ) : Option α := if i < taken then none else (xs ++ ready)[i]?

/-- The block holds `xs`. Behind them the producer has made `ready`, and of them the consumer
has taken the first `taken`. -/
structure Holds (b : Block α) (xs ready : List α) (taken : ℕ) : Prop where
  size : ∃ k, b.data.length = 2 ^ (k + 1)
  mask : b.sizeMask = b.data.length - 1
  cells : Circular b.data b.front (slots xs ready taken)
  tail : b.tail = (b.front + xs.length) % b.data.length
  /-- The consumer knows of `n` elements. -/
  seen : ∃ n, taken ≤ n ∧ n ≤ xs.length ∧ b.localTail = (b.front + n) % b.data.length
  /-- The producer does not know of `n` free slots. -/
  free : ∃ n, n + xs.length + ready.length < b.data.length ∧ b.localFront < b.data.length ∧
    b.front = (b.localFront + n) % b.data.length

namespace Holds

variable {b : Block α} {xs ready : List α} {taken : ℕ} {x : α}

theorem two_le (h : b.Holds xs ready taken) : 2 ≤ b.data.length := by
  obtain ⟨k, hk⟩ := h.size
  have hpos := Nat.two_pow_pos k
  rw [hk, Nat.pow_succ]
  omega

theorem nextFront (h : b.Holds xs ready taken) : b.nextFront = (b.front + 1) % b.data.length := by
  obtain ⟨k, hk⟩ := h.size
  unfold Block.nextFront
  rw [h.mask, and_mask ⟨k + 1, hk⟩]

theorem nextTail (h : b.Holds xs ready taken) : b.nextTail = (b.front + (xs.length + 1)) % b.data.length := by
  obtain ⟨k, hk⟩ := h.size
  unfold Block.nextTail
  rw [h.mask, and_mask ⟨k + 1, hk⟩, h.tail, Nat.mod_add_mod, Nat.add_assoc]

theorem length_lt (h : b.Holds xs ready taken) : xs.length + ready.length < b.data.length := by
  obtain ⟨n, hn, -, -⟩ := h.free
  omega

theorem front_eq (h : b.Holds xs ready taken) : b.front = (b.front + 0) % b.data.length := by
  rw [Nat.add_zero, Nat.mod_eq_of_lt h.cells.front_lt]

/-- A block whose indices are the same holds nothing. -/
theorem front_eq_tail (h : b.Holds xs ready taken) : b.front = b.tail ↔ xs = [] := by
  have hlen := h.length_lt
  rw [h.tail, ← List.length_eq_zero_iff]
  constructor
  · intro heq
    have hzero : (b.front + 0) % b.data.length = (b.front + xs.length) % b.data.length := h.front_eq ▸ heq
    exact (add_mod_inj (by omega) (by omega) hzero).symm
  · intro hnil
    rw [hnil]
    exact h.front_eq

/-- What the consumer sees is there. -/
theorem nonempty (h : b.Holds xs ready taken) (hseen : b.front ≠ b.localTail) :
    ∃ n, 0 < n ∧ n ≤ xs.length ∧ b.localTail = (b.front + n) % b.data.length := by
  obtain ⟨n, -, hn, heq⟩ := h.seen
  refine ⟨n, Nat.pos_of_ne_zero fun hzero => hseen ?_, hn, heq⟩
  rw [heq, hzero]
  exact h.front_eq

/-- The room that the producer sees is there. -/
theorem room (h : b.Holds xs [] taken) (hroom : b.nextTail ≠ b.localFront) :
    ∃ n, n + xs.length + 1 < b.data.length ∧ b.localFront < b.data.length ∧
      b.front = (b.localFront + n) % b.data.length := by
  obtain ⟨n, hn, hlt, heq⟩ := h.free
  rw [List.length_nil, Nat.add_zero] at hn
  refine ⟨n, lt_of_le_of_ne hn fun hfull => hroom ?_, hlt, heq⟩
  rw [h.nextTail, heq, Nat.mod_add_mod]
  have hsum : b.localFront + n + (xs.length + 1) = b.localFront + b.data.length := by omega
  rw [hsum, Nat.add_mod_right, Nat.mod_eq_of_lt hlt]

/-! ### What the threads do with a block -/

theorem loadTail (h : b.Holds xs ready taken) (htaken : taken ≤ xs.length) : b.loadTail.Holds xs ready taken :=
  { h with seen := ⟨xs.length, htaken, le_rfl, h.tail⟩ }

theorem loadFront (h : b.Holds xs ready taken) : b.loadFront.Holds xs ready taken :=
  { h with free := ⟨0, by rw [Nat.zero_add]; exact h.length_lt, h.cells.front_lt, h.front_eq⟩ }

/-- The slot at `tail` is raw memory. -/
theorem raw (h : b.Holds xs [] taken) (htaken : taken ≤ xs.length) : b.data[b.tail]? = some none := by
  have hlen := h.length_lt
  rw [h.tail, h.cells.cell _ (by omega)]
  unfold slots
  rw [if_neg (by omega), List.append_nil, List.getElem?_eq_none le_rfl]

/-- An element is made behind the last one. -/
theorem construct (h : b.Holds xs [] taken) (htaken : taken ≤ xs.length) (hroom : b.nextTail ≠ b.localFront) :
    (b.construct x).Holds xs [x] taken := by
  have hlen := h.length_lt
  rw [List.length_nil, Nat.add_zero] at hlen
  have hcells := h.cells.set hlen (some x)
  rw [← h.tail] at hcells
  have hlength : (b.construct x).data.length = b.data.length := List.length_set
  refine ⟨?_, ?_, hcells.congr fun i _ => ?_, ?_, ?_, ?_⟩
  · rw [hlength]; exact h.size
  · rw [hlength]; exact h.mask
  · unfold slots
    by_cases hi : i = xs.length
    · subst hi
      rw [Function.update_self, if_neg (by omega), List.getElem?_concat_length]
    · rw [Function.update_of_ne hi, List.append_nil]
      split
      · rfl
      · rcases Nat.lt_or_gt_of_ne hi with hlt | hgt
        · rw [List.getElem?_append_left hlt]
        · rw [List.getElem?_eq_none hgt.le, List.getElem?_eq_none (by rw [List.length_append, List.length_singleton]; omega)]
  · rw [hlength]; exact h.tail
  · rw [hlength]; exact h.seen
  · rw [hlength]; exact h.room hroom

/-- The element that has been made is published. -/
theorem publishTail (h : b.Holds xs [x] taken) : b.publishTail.Holds (xs ++ [x]) [] taken := by
  have hlength : (xs ++ [x]).length = xs.length + 1 := by rw [List.length_append, List.length_singleton]
  refine ⟨h.size, h.mask, h.cells.congr fun i _ => ?_, ?_, ?_, ?_⟩
  · unfold slots
    rw [List.append_nil]
  · rw [hlength]
    exact h.nextTail
  · obtain ⟨n, htaken, hn, heq⟩ := h.seen
    exact ⟨n, htaken, by omega, heq⟩
  · obtain ⟨n, hn, hlt, heq⟩ := h.free
    rw [List.length_singleton] at hn
    exact ⟨n, by rw [hlength, List.length_nil]; exact hn, hlt, heq⟩

/-- The first element is there for the consumer. -/
theorem first (h : b.Holds (x :: xs) ready 0) : b.data[b.front]? = some (some x) := by
  rw [h.cells.head]
  rfl

/-- The first element is taken away. -/
theorem destroy (h : b.Holds (x :: xs) ready 0) (hseen : b.front ≠ b.localTail) :
    b.destroy.Holds (x :: xs) ready 1 := by
  have hcells := h.cells.set (i := 0) (Nat.zero_lt_of_lt h.cells.front_lt) none
  rw [← h.front_eq] at hcells
  have hlength : b.destroy.data.length = b.data.length := List.length_set
  refine ⟨?_, ?_, hcells.congr fun i _ => ?_, ?_, ?_, ?_⟩
  · rw [hlength]; exact h.size
  · rw [hlength]; exact h.mask
  · unfold slots
    by_cases hi : i = 0
    · subst hi
      rw [Function.update_self, if_pos Nat.zero_lt_one]
    · rw [Function.update_of_ne hi, if_neg (Nat.not_lt_zero i), if_neg (by omega)]
  · rw [hlength]; exact h.tail
  · rw [hlength]; exact h.nonempty hseen
  · rw [hlength]; exact h.free

/-- The slot of the element that has been taken is given back. -/
theorem publishFront (h : b.Holds (x :: xs) ready 1) : b.publishFront.Holds xs ready 0 := by
  have hsize := h.length_lt
  rw [List.length_cons] at hsize
  have hfront : b.publishFront.front = (b.front + 1) % b.data.length := h.nextFront
  have hlength : b.publishFront.data.length = b.data.length := rfl
  have hcells := h.cells.shift
  rw [← hfront] at hcells
  refine ⟨h.size, h.mask, hcells.congr fun i hi => ?_, ?_, ?_, ?_⟩
  · have hi' : i < b.data.length := hi
    have hraw : (xs ++ ready)[i]? = none ∨ i + 1 ≠ b.data.length := by
      by_cases hlast : i + 1 = b.data.length
      · exact .inl (List.getElem?_eq_none (by rw [List.length_append]; omega))
      · exact .inr hlast
    show (if i + 1 = b.data.length then slots (x :: xs) ready 1 0 else slots (x :: xs) ready 1 (i + 1)) = _
    unfold slots
    rcases hraw with hraw | hlast
    · rw [if_pos Nat.zero_lt_one, if_neg (by omega : ¬ i + 1 < 1), if_neg (Nat.not_lt_zero i), List.cons_append,
        List.getElem?_cons_succ, hraw, ite_self]
    · rw [if_neg hlast, if_neg (by omega : ¬ i + 1 < 1), if_neg (Nat.not_lt_zero i), List.cons_append,
        List.getElem?_cons_succ]
  · show b.tail = _
    rw [h.tail, hfront, hlength, Nat.mod_add_mod, List.length_cons, Nat.add_assoc, Nat.add_comm 1]
  · obtain ⟨n, htaken, hn, heq⟩ := h.seen
    rw [List.length_cons] at hn
    refine ⟨n - 1, Nat.zero_le _, by omega, ?_⟩
    show b.localTail = _
    rw [heq, hfront, hlength, Nat.mod_add_mod, Nat.add_assoc, Nat.add_sub_cancel' htaken]
  · obtain ⟨n, hn, hlt, heq⟩ := h.free
    rw [List.length_cons] at hn
    refine ⟨n + 1, ?_, hlt, ?_⟩
    · show n + 1 + xs.length + ready.length < b.data.length
      omega
    · rw [hfront, heq, Nat.mod_add_mod, Nat.add_assoc]
      rfl

/-! ### A new block -/

/-- A new block is empty. -/
theorem make (k next : ℕ) : (makeBlock (α := α) (2 ^ (k + 1)) next).Holds [] [] 0 := by
  have hlength : (makeBlock (α := α) (2 ^ (k + 1)) next).data.length = 2 ^ (k + 1) := List.length_replicate
  have hpos := Nat.two_pow_pos (k + 1)
  refine ⟨⟨k, hlength⟩, by rw [hlength]; rfl, (Circular.replicate hpos none).congr fun i _ => ?_, ?_, ?_, ?_⟩
  · rfl
  · rw [hlength]; exact (Nat.zero_mod _).symm
  · exact ⟨0, le_rfl, le_rfl, by rw [hlength]; exact (Nat.zero_mod _).symm⟩
  · exact ⟨0, by rw [hlength]; exact hpos, by rw [hlength]; exact hpos, by rw [hlength]; exact (Nat.zero_mod _).symm⟩

/-- Its first element is made and published like any other, and the consumer knows of it. -/
theorem firstElement_eq (htail : b.tail = 0) (hnext : b.nextTail = 1) (x : α) :
    b.firstElement x = (b.construct x).publishTail.loadTail := by
  have hparts : (b.construct x).publishTail.loadTail =
      { b with data := b.data.set b.tail (some x), tail := b.nextTail, localTail := b.nextTail } := rfl
  rw [hparts, htail, hnext]
  rfl

/-- A new block with its first element. -/
theorem makeFirst (k next : ℕ) (x : α) : ((makeBlock (2 ^ (k + 1)) next).firstElement x).Holds [x] [] 0 := by
  have hmade := make (α := α) k next
  have hone : (makeBlock (α := α) (2 ^ (k + 1)) next).nextTail = 1 := by
    rw [hmade.nextTail]
    exact Nat.mod_eq_of_lt hmade.two_le
  have hroom : (makeBlock (α := α) (2 ^ (k + 1)) next).nextTail ≠ (makeBlock (α := α) (2 ^ (k + 1)) next).localFront :=
    fun h => Nat.one_ne_zero (hone.symm.trans h)
  rw [firstElement_eq rfl hone]
  exact (hmade.construct le_rfl hroom).publishTail.loadTail (Nat.zero_le _)

end Holds

end Block

end ReaderWriterQueue

end Usbmuxd
