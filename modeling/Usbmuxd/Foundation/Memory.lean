import Mathlib.Data.List.GetD
import Mathlib.Data.List.Range

/-!
# Byte memory

A block of memory is the byte at each offset, `Mem := ℕ → UInt8`. A pointer into a
block is the block seen from that offset (`Mem.shift`), so reading past the end of
what was written is not an error here: it returns whatever the memory holds, as it
does in C.

## The model

* `slice m a n` — the `n` bytes from offset `a`.
* `memcpy m a bs` — the bytes `bs` stored at offset `a`.
* `memmove m k n` — the `n` bytes from offset `k` moved down to offset `0`.
* `htons`, `htonl` — a word as its bytes in network order, and `ntohs`, `ntohl`,
  the word at an offset; `le16`, `le32` with `readLe16`, `readLe32` for the byte order
  of a little-endian host.

## What is proved

* `slice_memcpy_append`, `slice_memmove` — the two steps of a queue kept in an
  array: append at the end, move the rest down after a read.
* `ntohs_htons`, `ntohl_htonl`, `readLe16_le16`, `readLe32_le32` — a word is read back
  from memory that holds its bytes (`Mem.HoldsAt`).
-/

namespace Usbmuxd

/-- A block of memory: the byte at each offset. -/
abbrev Mem := ℕ → UInt8

namespace Mem

/-- The `n` bytes from offset `a`. -/
def slice (m : Mem) (a n : ℕ) : List UInt8 := (List.range n).map fun i => m (a + i)

/-- `memcpy`: the bytes `bs` stored from offset `a`. -/
def memcpy (m : Mem) (a : ℕ) (bs : List UInt8) : Mem :=
  fun i => if a ≤ i ∧ i < a + bs.length then bs.getD (i - a) 0 else m i

/-- `memmove(m, m + k, n)`: the `n` bytes from offset `k` moved to the front. -/
def memmove (m : Mem) (k n : ℕ) : Mem := fun i => if i < n then m (k + i) else m i

/-- The block seen through a pointer `a` bytes into it. -/
def shift (m : Mem) (a : ℕ) : Mem := fun i => m (a + i)

/-- The memory holds the bytes `bs` at offset `a`. -/
def HoldsAt (m : Mem) (a : ℕ) (bs : List UInt8) : Prop := m.slice a bs.length = bs

@[simp] theorem length_slice (m : Mem) (a n : ℕ) : (m.slice a n).length = n := by simp [slice]

@[simp] theorem slice_zero (m : Mem) (a : ℕ) : m.slice a 0 = [] := rfl

theorem getElem_slice (m : Mem) (a n i : ℕ) (h : i < (m.slice a n).length) : (m.slice a n)[i] = m (a + i) := by
  simp [slice]

@[simp] theorem slice_shift (m : Mem) (k a n : ℕ) : (m.shift k).slice a n = m.slice (k + a) n := by
  simp [slice, shift, Nat.add_assoc]

/-- Two blocks that agree on the bytes in question have the same slice. -/
theorem slice_congr {m m' : Mem} {a a' n : ℕ} (h : ∀ i < n, m (a + i) = m' (a' + i)) :
    m.slice a n = m'.slice a' n := by
  refine List.map_congr_left fun i hi => ?_
  exact h i (List.mem_range.mp hi)

/-- A slice cut in two. -/
theorem slice_add (m : Mem) (a n k : ℕ) : m.slice a (n + k) = m.slice a n ++ m.slice (a + n) k := by
  simp only [slice, List.range_add, List.map_append, List.map_map]
  congr 1
  refine List.map_congr_left fun i _ => ?_
  simp [Nat.add_assoc]

/-- The front of a slice. -/
theorem take_slice (m : Mem) (a n k : ℕ) (h : k ≤ n) : (m.slice a n).take k = m.slice a k := by
  obtain ⟨j, rfl⟩ := Nat.exists_eq_add_of_le h
  rw [slice_add, List.take_left' (length_slice m a k)]

/-! ### Stores -/

/-- A store does not change the bytes in front of it. -/
theorem slice_memcpy_below (m : Mem) {a b n : ℕ} (bs : List UInt8) (h : b + n ≤ a) :
    (m.memcpy a bs).slice b n = m.slice b n := by
  refine slice_congr fun i hi => ?_
  rw [memcpy, if_neg (by omega)]

/-- The bytes stored are the bytes read back. -/
theorem slice_memcpy_self (m : Mem) (a : ℕ) (bs : List UInt8) : (m.memcpy a bs).slice a bs.length = bs := by
  refine List.ext_getElem (by simp) fun i h₁ h₂ => ?_
  rw [getElem_slice, memcpy, if_pos (by omega), Nat.add_sub_cancel_left, List.getD_eq_getElem _ _ h₂]

/-- Appending to a queue kept from offset `0`. -/
theorem slice_memcpy_append (m : Mem) (n : ℕ) (bs : List UInt8) :
    (m.memcpy n bs).slice 0 (n + bs.length) = m.slice 0 n ++ bs := by
  rw [slice_add, slice_memcpy_below m bs (by omega), Nat.zero_add, slice_memcpy_self]

/-- After the first `k` bytes of a queue of `k + n` are dropped and the rest is moved
down, the queue is the rest. -/
theorem slice_memmove (m : Mem) (k n : ℕ) : (m.memmove k n).slice 0 n = m.slice k n := by
  refine slice_congr fun i hi => ?_
  rw [memmove, Nat.zero_add, if_pos hi]

theorem holdsAt_memcpy (m : Mem) (a : ℕ) (bs : List UInt8) : (m.memcpy a bs).HoldsAt a bs :=
  slice_memcpy_self m a bs

theorem HoldsAt.append {m : Mem} {a : ℕ} {bs cs : List UInt8} :
    m.HoldsAt a (bs ++ cs) ↔ m.HoldsAt a bs ∧ m.HoldsAt (a + bs.length) cs := by
  unfold HoldsAt
  rw [List.length_append, slice_add]
  constructor
  · intro h
    exact List.append_inj h (by simp)
  · rintro ⟨h₁, h₂⟩
    rw [h₁, h₂]

/-- The start of a held string. -/
theorem HoldsAt.take {m : Mem} {a k : ℕ} {bs : List UInt8} (h : m.HoldsAt a bs) (hk : k ≤ bs.length) :
    m.HoldsAt a (bs.take k) := by
  rw [HoldsAt, List.length_take, Nat.min_eq_left hk, ← take_slice m a bs.length k hk, h]

/-- A byte of a held string. -/
theorem HoldsAt.getElem {m : Mem} {a : ℕ} {bs : List UInt8} (h : m.HoldsAt a bs) (i : ℕ) (hi : i < bs.length) :
    m (a + i) = bs[i] := by
  rw [← getElem_slice m a bs.length i (by simpa using hi)]
  exact List.getElem_of_eq h _

end Mem

/-! ### Words -/

/-- The bytes of a 16-bit word in network order. -/
def htons (v : UInt16) : List UInt8 := [UInt8.ofNat (v.toNat / 256), UInt8.ofNat v.toNat]

/-- The bytes of a 32-bit word in network order. -/
def htonl (v : UInt32) : List UInt8 :=
  [UInt8.ofNat (v.toNat / 16777216), UInt8.ofNat (v.toNat / 65536), UInt8.ofNat (v.toNat / 256), UInt8.ofNat v.toNat]

/-- The bytes of a 16-bit word as a little-endian host keeps it. -/
def le16 (v : UInt16) : List UInt8 := (htons v).reverse

/-- The bytes of a 32-bit word as a little-endian host keeps it. -/
def le32 (v : UInt32) : List UInt8 := (htonl v).reverse

/-- The 16-bit word in network order at offset `a`. -/
def ntohs (m : Mem) (a : ℕ) : UInt16 := UInt16.ofNat ((m a).toNat * 256 + (m (a + 1)).toNat)

/-- The 32-bit word in network order at offset `a`. -/
def ntohl (m : Mem) (a : ℕ) : UInt32 :=
  UInt32.ofNat ((((m a).toNat * 256 + (m (a + 1)).toNat) * 256 + (m (a + 2)).toNat) * 256 + (m (a + 3)).toNat)

/-- The 16-bit word of a little-endian host at offset `a`. -/
def readLe16 (m : Mem) (a : ℕ) : UInt16 := UInt16.ofNat ((m (a + 1)).toNat * 256 + (m a).toNat)

/-- The 32-bit word of a little-endian host at offset `a`. -/
def readLe32 (m : Mem) (a : ℕ) : UInt32 :=
  UInt32.ofNat ((((m (a + 3)).toNat * 256 + (m (a + 2)).toNat) * 256 + (m (a + 1)).toNat) * 256 + (m a).toNat)

@[simp] theorem length_htons (v : UInt16) : (htons v).length = 2 := rfl

@[simp] theorem length_htonl (v : UInt32) : (htonl v).length = 4 := rfl

@[simp] theorem length_le16 (v : UInt16) : (le16 v).length = 2 := rfl

@[simp] theorem length_le32 (v : UInt32) : (le32 v).length = 4 := rfl

/-- Four bytes in order make the word again. -/
theorem word32_bytes (v : UInt32) :
    UInt32.ofNat ((((UInt8.ofNat (v.toNat / 16777216)).toNat * 256 + (UInt8.ofNat (v.toNat / 65536)).toNat) * 256 +
      (UInt8.ofNat (v.toNat / 256)).toNat) * 256 + (UInt8.ofNat v.toNat).toNat) = v := by
  apply UInt32.toNat.inj
  have h := v.toNat_lt
  simp only [UInt8.toNat_ofNat', UInt32.toNat_ofNat']
  omega

theorem word16_bytes (v : UInt16) :
    UInt16.ofNat ((UInt8.ofNat (v.toNat / 256)).toNat * 256 + (UInt8.ofNat v.toNat).toNat) = v := by
  apply UInt16.toNat.inj
  have h := v.toNat_lt
  simp only [UInt8.toNat_ofNat', UInt16.toNat_ofNat']
  omega

theorem ntohs_htons {m : Mem} {a : ℕ} {v : UInt16} (h : m.HoldsAt a (htons v)) : ntohs m a = v := by
  have h0 := h.getElem 0 (by simp)
  have h1 := h.getElem 1 (by simp)
  simp only [Nat.add_zero] at h0
  rw [ntohs, h0, h1]
  exact word16_bytes v

theorem ntohl_htonl {m : Mem} {a : ℕ} {v : UInt32} (h : m.HoldsAt a (htonl v)) : ntohl m a = v := by
  have h0 := h.getElem 0 (by simp)
  have h1 := h.getElem 1 (by simp)
  have h2 := h.getElem 2 (by simp)
  have h3 := h.getElem 3 (by simp)
  simp only [Nat.add_zero] at h0
  rw [ntohl, h0, h1, h2, h3]
  exact word32_bytes v

theorem readLe16_le16 {m : Mem} {a : ℕ} {v : UInt16} (h : m.HoldsAt a (le16 v)) : readLe16 m a = v := by
  have h0 := h.getElem 0 (by simp)
  have h1 := h.getElem 1 (by simp)
  simp only [Nat.add_zero] at h0
  rw [readLe16, h0, h1]
  exact word16_bytes v

theorem readLe32_le32 {m : Mem} {a : ℕ} {v : UInt32} (h : m.HoldsAt a (le32 v)) : readLe32 m a = v := by
  have h0 := h.getElem 0 (by simp)
  have h1 := h.getElem 1 (by simp)
  have h2 := h.getElem 2 (by simp)
  have h3 := h.getElem 3 (by simp)
  simp only [Nat.add_zero] at h0
  rw [readLe32, h0, h1, h2, h3]
  exact word32_bytes v

end Usbmuxd
