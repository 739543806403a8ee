import Usbmuxd.Model.Descriptor

/-!
# How far the search reads

`usb_configure_mux_interface` does not know how long the descriptor is. It stops at an endpoint
that completes a pair, or at a length byte that is zero, and both of them have to be among the
bytes that the device has sent; otherwise it goes on with whatever the heap holds behind them.

## The model

* `Search.extent` — how many bytes of a descriptor are looked at.
* `Terminated` — the strings of descriptors, as far as they matter: whole descriptors, with their
  fields, up to a zero length byte or to the endpoint that completes a pair.
* `StaysInside` — the function returns, and reads nothing behind the first `n` bytes.

## What is proved

* `visit_congr` — the body of the loop depends on the bytes that it looks at and on no others.
* `staysInside_iff` — the walk stays inside the descriptor exactly if it is terminated.
-/

namespace Usbmuxd

open Iteration

/-! ### What is looked at of a descriptor -/

section Extent

variable {s : Search} {d e : Mem} {n : ℕ}

/-- How many bytes at the front of a block are looked at. -/
def Search.extent (s : Search) (d : Mem) : ℕ :=
  if bLength d = 0 then 1
  else if bDescriptorType d = usbInterfaceDescriptorType then
    if bInterfaceClass d ≠ interfaceClass then 6
    else if bInterfaceSubClass d ≠ interfaceSubclass then 7
    else 8
  else if bDescriptorType d = usbEndpointDescriptorType ∧ s.bFoundInterface then
    if bmAttributes d = usbEndpointTypeBulk ∧ ¬ usbEndpointDirectionIn (bEndpointAddress d) then 6 else 4
  else 2

theorem Search.extent_pos : 0 < s.extent d := by
  unfold extent
  split_ifs <;> omega

/-- An interface is read up to the first comparison that fails. -/
theorem interfaceReads_lt_iff : (∀ i ∈ Search.interfaceReads d, i < n) ↔
    (if bInterfaceClass d ≠ interfaceClass then 6 else if bInterfaceSubClass d ≠ interfaceSubclass then 7 else 8) ≤ n := by
  unfold Search.interfaceReads
  by_cases hclass : bInterfaceClass d = interfaceClass
  · by_cases hsub : bInterfaceSubClass d = interfaceSubclass
    · by_cases hproto : bInterfaceProtocol d = interfaceProtocol <;> simp [hclass, hsub, hproto] <;> omega
    · simp [hclass, hsub]
      omega
  · simp [hclass]
    omega

/-- Of an endpoint that is not a bulk endpoint, nothing behind the attributes is read. -/
theorem endpointReads_lt_iff : (∀ i ∈ Search.endpointReads d, i < n) ↔
    (if bmAttributes d = usbEndpointTypeBulk ∧ ¬ usbEndpointDirectionIn (bEndpointAddress d) then 6 else 4) ≤ n := by
  unfold Search.endpointReads
  by_cases hbulk : bmAttributes d = usbEndpointTypeBulk
  · by_cases hin : usbEndpointDirectionIn (bEndpointAddress d) <;> simp [hbulk, hin] <;> omega
  · simp [hbulk]
    omega

/-- The reads of a round lie below its extent, and the last of them right below it. -/
theorem reads_lt_iff : (∀ i ∈ s.reads d, i < n) ↔ s.extent d ≤ n := by
  unfold Search.reads Search.extent
  by_cases hzero : bLength d = 0
  · simp [hzero]
    omega
  rw [if_neg hzero, if_neg hzero]
  by_cases hinterface : bDescriptorType d = usbInterfaceDescriptorType
  · rw [if_pos hinterface, if_pos hinterface, List.forall_mem_cons, List.forall_mem_cons, interfaceReads_lt_iff]
    split_ifs <;> omega
  rw [if_neg hinterface, if_neg hinterface]
  by_cases hendpoint : bDescriptorType d = usbEndpointDescriptorType ∧ s.bFoundInterface
  · rw [if_pos hendpoint, if_pos hendpoint, List.forall_mem_cons, List.forall_mem_cons, endpointReads_lt_iff]
    split_ifs <;> omega
  rw [if_neg hendpoint, if_neg hendpoint]
  simp
  omega

/-- A round depends on the bytes that it looks at. -/
theorem extent_congr (h : ∀ i < s.extent d, d i = e i) : s.extent e = s.extent d ∧ bLength e = bLength d := by
  have hlength : bLength e = bLength d := (h 0 Search.extent_pos).symm
  refine ⟨?_, hlength⟩
  unfold Search.extent at h ⊢
  rw [hlength]
  by_cases hzero : bLength d = 0
  · rw [if_pos hzero, if_pos hzero]
  rw [if_neg hzero] at h
  rw [if_neg hzero, if_neg hzero]
  have htype : bDescriptorType e = bDescriptorType d := (h 1 (by split_ifs <;> omega)).symm
  rw [htype]
  by_cases hinterface : bDescriptorType d = usbInterfaceDescriptorType
  · rw [if_pos hinterface] at h
    rw [if_pos hinterface, if_pos hinterface]
    have hclass : bInterfaceClass e = bInterfaceClass d := (h 5 (by split_ifs <;> omega)).symm
    rw [hclass]
    by_cases hother : bInterfaceClass d ≠ interfaceClass
    · rw [if_pos hother, if_pos hother]
    rw [if_neg hother] at h
    have hsub : bInterfaceSubClass e = bInterfaceSubClass d := (h 6 (by split_ifs <;> omega)).symm
    rw [hsub]
  rw [if_neg hinterface] at h
  rw [if_neg hinterface, if_neg hinterface]
  by_cases hendpoint : bDescriptorType d = usbEndpointDescriptorType ∧ s.bFoundInterface
  · rw [if_pos hendpoint] at h
    have hattributes : bmAttributes e = bmAttributes d := (h 3 (by split_ifs <;> omega)).symm
    have haddress : bEndpointAddress e = bEndpointAddress d := (h 2 (by split_ifs <;> omega)).symm
    rw [hattributes, haddress]
  · rw [if_neg hendpoint, if_neg hendpoint]

/-- So does what the body of the loop does. -/
theorem visit_congr (hlength : bLength d ≠ 0) (h : ∀ i < s.extent d, d i = e i) : s.visit e = s.visit d := by
  unfold Search.extent at h
  unfold Search.visit
  rw [if_neg hlength] at h
  have htype : bDescriptorType e = bDescriptorType d := (h 1 (by split_ifs <;> omega)).symm
  rw [htype]
  by_cases hinterface : bDescriptorType d = usbInterfaceDescriptorType
  · rw [if_pos hinterface] at h
    rw [if_pos hinterface, if_pos hinterface]
    have hclass : bInterfaceClass e = bInterfaceClass d := (h 5 (by split_ifs <;> omega)).symm
    rw [hclass]
    by_cases hother : bInterfaceClass d ≠ interfaceClass
    · rw [if_neg fun hmux => hother hmux.1, if_neg fun hmux => hother hmux.1]
    rw [if_neg hother] at h
    have hsub : bInterfaceSubClass e = bInterfaceSubClass d := (h 6 (by split_ifs <;> omega)).symm
    rw [hsub]
    by_cases hstorage : bInterfaceSubClass d ≠ interfaceSubclass
    · rw [if_neg fun hmux => hstorage hmux.2.1, if_neg fun hmux => hstorage hmux.2.1]
    rw [if_neg hstorage] at h
    have hproto : bInterfaceProtocol e = bInterfaceProtocol d := (h 7 (by omega)).symm
    have hcount : bNumEndpoints e = bNumEndpoints d := (h 4 (by omega)).symm
    rw [hproto, hcount]
  rw [if_neg hinterface] at h
  rw [if_neg hinterface, if_neg hinterface]
  by_cases hendpoint : bDescriptorType d = usbEndpointDescriptorType
  · rw [if_pos hendpoint, if_pos hendpoint]
    by_cases hfound : s.bFoundInterface
    · rw [if_pos ⟨hendpoint, hfound⟩] at h
      rw [if_pos hfound, if_pos hfound]
      have hattributes : bmAttributes e = bmAttributes d := (h 3 (by split_ifs <;> omega)).symm
      have haddress : bEndpointAddress e = bEndpointAddress d := (h 2 (by split_ifs <;> omega)).symm
      rw [hattributes, haddress]
      by_cases hbulk : bmAttributes d = usbEndpointTypeBulk
      · rw [if_pos hbulk, if_pos hbulk]
        by_cases hin : usbEndpointDirectionIn (bEndpointAddress d)
        · simp only [InstanceInfo.store, if_pos hin]
        · rw [if_pos ⟨hbulk, hin⟩] at h
          have hsize : wMaxPacketSize e = wMaxPacketSize d := by
            simp only [wMaxPacketSize, readLe16, h 4 (by omega), h 5 (by omega)]
          rw [hsize]
      · rw [if_neg hbulk, if_neg hbulk]
    · rw [if_neg hfound, if_neg hfound]
  · rw [if_neg hendpoint, if_neg hendpoint]

end Extent

/-! ### The loop -/

section Loop

variable {m : Mem} {w v : Walk} {n : ℕ}

/-- A round that goes on, and where. -/
theorem muxNext_eq_some : muxNext m w = some v ↔ bLength (m.shift w.offset) ≠ 0 ∧
    (w.search.visit (m.shift w.offset)).2 = false ∧
    v = ⟨w.offset + (bLength (m.shift w.offset)).toNat, (w.search.visit (m.shift w.offset)).1⟩ := by
  unfold muxNext
  dsimp only
  split_ifs with hzero hpair
  · simp [hzero]
  · simp [hpair]
  · simp only [Option.some.injEq, ne_eq, hzero, not_false_eq_true, true_and, Bool.not_eq_true] at hpair ⊢
    rw [hpair]
    exact ⟨fun h => ⟨rfl, h.symm⟩, fun h => h.2.symm⟩

theorem muxNext_eq_none : muxNext m w = none ↔ bLength (m.shift w.offset) = 0 ∨
    (w.search.visit (m.shift w.offset)).2 = true := by
  unfold muxNext
  dsimp only
  split_ifs with hzero hpair
  · simp [hzero]
  · simp [hpair]
  · simp [hzero, hpair]

/-- The function returns if the loop ends. -/
theorem muxLoop_returns_iff : (∃ rounds, (muxLoop m rounds w).isSome) ↔ Ends (muxNext m) w := by
  constructor
  · rintro ⟨rounds, h⟩
    induction rounds generalizing w with
    | zero => cases h
    | succ rounds ih =>
      unfold muxLoop at h
      dsimp only at h
      split_ifs at h with hzero hpair
      · exact .last (muxNext_eq_none.mpr (.inl hzero))
      · exact .last (muxNext_eq_none.mpr (.inr hpair))
      · exact .round (muxNext_eq_some.mpr ⟨hzero, Bool.not_eq_true _ ▸ hpair, rfl⟩) (ih h)
  · intro h
    induction h with
    | last hnone =>
      refine ⟨1, ?_⟩
      unfold muxLoop
      dsimp only
      split_ifs with hzero hpair
      · rfl
      · rfl
      · exact absurd (muxNext_eq_none.mp hnone) (not_or.mpr ⟨hzero, hpair⟩)
    | @round w v hnext hends ih =>
      obtain ⟨rounds, hrounds⟩ := ih
      obtain ⟨hzero, hpair, rfl⟩ := muxNext_eq_some.mp hnext
      refine ⟨rounds + 1, ?_⟩
      unfold muxLoop
      dsimp only
      rw [if_neg hzero, if_neg (by rw [hpair]; exact Bool.false_ne_true)]
      exact hrounds

end Loop

/-! ### Terminated strings of descriptors -/

/-- A string of bytes as a block, with zeros behind it. -/
def Mem.ofBytes (bs : List UInt8) : Mem := fun i => bs.getD i 0

theorem Mem.holdsAt_ofBytes (bs : List UInt8) : (Mem.ofBytes bs).HoldsAt 0 bs := by
  refine List.ext_getElem (by simp) fun i h₁ h₂ => ?_
  rw [Mem.getElem_slice, Nat.zero_add, Mem.ofBytes, List.getD_eq_getElem _ _ h₂]

/-- The bytes in front of which the search stands in state `s` are a string of descriptors that
comes to an end, and each descriptor up to there is long enough for what is looked at of it. -/
inductive Terminated : Search → List UInt8 → Prop where
  /-- A length of zero is the end of the string. -/
  | mark (s : Search) (bs : List UInt8) : Terminated s (0 :: bs)
  /-- An endpoint that completes a pair is the last descriptor that matters. -/
  | pair {s : Search} {bs : List UInt8} (hlength : bLength (.ofBytes bs) ≠ 0)
      (hfields : s.extent (.ofBytes bs) ≤ bs.length) (hpair : (s.visit (.ofBytes bs)).2 = true) : Terminated s bs
  /-- Behind any other descriptor, the rest of the string has to be terminated. -/
  | next {s : Search} {bs : List UInt8} (hlength : bLength (.ofBytes bs) ≠ 0)
      (hfields : s.extent (.ofBytes bs) ≤ bs.length) (hpair : (s.visit (.ofBytes bs)).2 = false)
      (hrest : Terminated (s.visit (.ofBytes bs)).1 (bs.drop (bLength (.ofBytes bs)).toNat)) : Terminated s bs

/-- `usb_configure_mux_interface` returns, and what it reads lies in the first `n` bytes. -/
def StaysInside (m : Mem) (n : ℕ) (info : InstanceInfo) : Prop :=
  (∃ rounds, (usbConfigureMuxInterface rounds m info).isSome) ∧
    ∀ w, Rounds (muxNext m) (.start info) w → ∀ i ∈ w.reads m, i < n

section Terminated

variable {m : Mem} {w : Walk} {s : Search} {bs : List UInt8} {n : ℕ}

theorem Mem.shift_eq_ofBytes {a : ℕ} (h : m.HoldsAt a bs) {i : ℕ} (hi : i < bs.length) :
    m.shift a i = Mem.ofBytes bs i := by
  rw [Mem.shift, h.getElem i hi, Mem.ofBytes, List.getD_eq_getElem _ _ hi]

/-- The rest of a held string. -/
theorem Mem.HoldsAt.drop {a : ℕ} (h : m.HoldsAt a bs) (k : ℕ) (hk : k ≤ bs.length) : m.HoldsAt (a + k) (bs.drop k) := by
  rw [← List.take_append_drop k bs, Mem.HoldsAt.append, List.length_take, Nat.min_eq_left hk] at h
  exact h.2

theorem Terminated.pos (h : Terminated s bs) : 0 < bs.length := by
  cases h with
  | mark => exact Nat.succ_pos _
  | pair _ hfields _ => exact Nat.lt_of_lt_of_le Search.extent_pos hfields
  | next _ hfields _ _ => exact Nat.lt_of_lt_of_le Search.extent_pos hfields

/-- What a round reads lies in the buffer if the extent of the descriptor does. -/
theorem Walk.reads_lt_iff : (∀ i ∈ w.reads m, i < n) ↔ w.offset + w.search.extent (m.shift w.offset) ≤ n := by
  constructor
  · intro h
    have hpos : w.offset < n := by simpa using h _ (List.mem_map_of_mem (List.mem_cons_self ..))
    have hextent : w.search.extent (m.shift w.offset) ≤ n - w.offset :=
      Usbmuxd.reads_lt_iff.mp fun i hi => by
        have := h _ (List.mem_map_of_mem hi)
        omega
    omega
  · intro h i hi
    obtain ⟨j, hj, rfl⟩ := List.mem_map.mp hi
    have := Usbmuxd.reads_lt_iff.mpr (Nat.le_refl _) j hj
    omega

/-- From `w` on, the loop ends, and what it reads lies in the first `n` bytes. -/
def InsideFrom (m : Mem) (n : ℕ) (w : Walk) : Prop :=
  Ends (muxNext m) w ∧ ∀ v, Rounds (muxNext m) w v → ∀ i ∈ v.reads m, i < n

/-- In the last round, only its own reads matter. -/
theorem insideFrom_last (h : muxNext m w = none) :
    InsideFrom m n w ↔ w.offset + w.search.extent (m.shift w.offset) ≤ n := by
  constructor
  · rintro ⟨-, hreads⟩
    exact Walk.reads_lt_iff.mp (hreads w .refl)
  · intro hextent
    refine ⟨.last h, fun v hv => ?_⟩
    cases hv.cases_head with
    | inl heq => exact heq ▸ Walk.reads_lt_iff.mpr hextent
    | inr hstep =>
      obtain ⟨u, hu, -⟩ := hstep
      rw [h] at hu
      cases hu

/-- In any other round, its own reads and the rounds behind it. -/
theorem insideFrom_next {v : Walk} (h : muxNext m w = some v) :
    InsideFrom m n w ↔ w.offset + w.search.extent (m.shift w.offset) ≤ n ∧ InsideFrom m n v := by
  constructor
  · rintro ⟨hends, hreads⟩
    refine ⟨Walk.reads_lt_iff.mp (hreads w .refl), ?_, fun u hu => hreads u (.head h hu)⟩
    cases hends with
    | last hnone =>
      rw [hnone] at h
      cases h
    | round hnext hends =>
      rw [hnext] at h
      exact Option.some.inj h ▸ hends
  · rintro ⟨hextent, hends, hreads⟩
    refine ⟨.round h hends, fun u hu => ?_⟩
    cases hu.cases_head with
    | inl heq => exact heq ▸ Walk.reads_lt_iff.mpr hextent
    | inr hstep =>
      obtain ⟨x, hx, hu⟩ := hstep
      rw [h] at hx
      exact hreads u (Option.some.inj hx ▸ hu)

/-- In front of a string with all the bytes that are looked at, a round is the round of the string. -/
theorem visit_ofBytes {a : ℕ} (hm : m.HoldsAt a bs) (hfields : s.extent (.ofBytes bs) ≤ bs.length) :
    s.extent (m.shift a) = s.extent (.ofBytes bs) ∧ bLength (m.shift a) = bLength (.ofBytes bs) ∧
      (bLength (.ofBytes bs) ≠ 0 → s.visit (m.shift a) = s.visit (.ofBytes bs)) := by
  have hagree : ∀ i < s.extent (.ofBytes bs), Mem.ofBytes bs i = m.shift a i := fun i hi =>
    (Mem.shift_eq_ofBytes hm (by omega)).symm
  obtain ⟨hextent, hlength⟩ := extent_congr hagree
  exact ⟨hextent, hlength, fun hne => visit_congr hne hagree⟩

/-- The loop stays inside a terminated string of descriptors. -/
theorem Terminated.inside (h : Terminated s bs) {a : ℕ} (hm : m.HoldsAt a bs) :
    InsideFrom m (a + bs.length) ⟨a, s⟩ := by
  induction h generalizing a with
  | mark s bs =>
    have hzero : bLength (m.shift a) = 0 := Mem.shift_eq_ofBytes hm (i := 0) (Nat.succ_pos _)
    refine (insideFrom_last (muxNext_eq_none.mpr (.inl hzero))).mpr ?_
    simp [Search.extent, hzero]
  | @pair s bs hlength hfields hpair =>
    obtain ⟨hextent, -, hvisit⟩ := visit_ofBytes hm hfields
    refine (insideFrom_last (muxNext_eq_none.mpr (.inr ?_))).mpr ?_
    · exact (hvisit hlength).symm ▸ hpair
    · exact Nat.add_le_add_left (hextent.symm ▸ hfields) a
  | @next s bs hlength hfields hpair hrest ih =>
    obtain ⟨hextent, hlen, hvisit⟩ := visit_ofBytes hm hfields
    have hlt : (bLength (.ofBytes bs)).toNat ≤ bs.length := by
      have := hrest.pos
      rw [List.length_drop] at this
      omega
    have hgo : muxNext m ⟨a, s⟩ = some ⟨a + (bLength (.ofBytes bs)).toNat, (s.visit (.ofBytes bs)).1⟩ :=
      muxNext_eq_some.mpr ⟨hlen.symm ▸ hlength, (hvisit hlength).symm ▸ hpair, by rw [hlen, hvisit hlength]⟩
    refine (insideFrom_next hgo).mpr ⟨Nat.add_le_add_left (hextent.symm ▸ hfields) a, ?_⟩
    have hin := ih (hm.drop _ hlt)
    rw [List.length_drop, Nat.add_assoc, Nat.add_sub_cancel' hlt] at hin
    exact hin

/-- Where the loop stays inside the buffer, the bytes left of it are a terminated string of descriptors. -/
theorem InsideFrom.terminated {a : ℕ} (hm : m.HoldsAt a bs) (h : InsideFrom m (a + bs.length) ⟨a, s⟩) :
    Terminated s bs := by
  obtain ⟨hends, -⟩ := id h
  generalize hw : Walk.mk a s = w at hends
  induction hends generalizing a s bs with
  | @last w hnone =>
    subst hw
    have hextent := Nat.le_of_add_le_add_left ((insideFrom_last hnone).mp h)
    have hagree : ∀ i < s.extent (m.shift a), m.shift a i = Mem.ofBytes bs i := fun i hi =>
      Mem.shift_eq_ofBytes hm (Nat.lt_of_lt_of_le hi hextent)
    obtain ⟨hsame, hlength⟩ := extent_congr hagree
    by_cases hzero : bLength (m.shift a) = 0
    · cases bs with
      | nil => exact absurd hextent (Nat.not_le.mpr Search.extent_pos)
      | cons b bs =>
        obtain rfl : b = 0 := hlength.trans hzero
        exact .mark s bs
    · refine .pair (hlength ▸ hzero) (hsame ▸ hextent) ?_
      rw [visit_congr hzero hagree]
      exact (muxNext_eq_none.mp hnone).resolve_left hzero
  | @round w v hnext _ ih =>
    subst hw
    obtain ⟨hextent, hinside⟩ := (insideFrom_next hnext).mp h
    obtain ⟨hzero, hpair, rfl⟩ := muxNext_eq_some.mp hnext
    dsimp only at hextent hzero hpair hinside
    have hagree : ∀ i < s.extent (m.shift a), m.shift a i = Mem.ofBytes bs i := fun i hi =>
      Mem.shift_eq_ofBytes hm (by omega)
    obtain ⟨hsame, hlength⟩ := extent_congr hagree
    -- the next descriptor begins inside the buffer, as its length byte is read
    have hlt : a + (bLength (m.shift a)).toNat + 1 ≤ a + bs.length := by
      have := Walk.reads_lt_iff.mp (hinside.2 _ .refl)
      dsimp only at this
      have := Search.extent_pos (s := (s.visit (m.shift a)).1) (d := m.shift (a + (bLength (m.shift a)).toNat))
      omega
    have hvisit := visit_congr hzero hagree
    refine .next (hlength ▸ hzero) (hsame ▸ Nat.le_of_add_le_add_left hextent) (hvisit ▸ hpair) ?_
    rw [hvisit, hlength]
    refine ih (hm.drop _ (by omega)) ?_ rfl
    rw [List.length_drop, Nat.add_assoc, Nat.add_sub_cancel' (by omega)]
    exact hinside

end Terminated

/-- **The walk stays inside the configuration descriptor exactly if the string of descriptors behind
the header is terminated**, whatever lies behind the bytes that the device has sent. -/
theorem staysInside_iff (desc : List UInt8) (hheader : sizeofConfigurationDescriptor ≤ desc.length) (m : Mem)
    (hm : m.HoldsAt 0 desc) (info : InstanceInfo) :
    StaysInside m desc.length info ↔ Terminated ⟨false, info⟩ (desc.drop sizeofConfigurationDescriptor) := by
  have hdesc := hm.drop _ hheader
  rw [Nat.zero_add] at hdesc
  have hlength : sizeofConfigurationDescriptor + (desc.drop sizeofConfigurationDescriptor).length = desc.length := by
    rw [List.length_drop, Nat.add_sub_cancel' hheader]
  have hinside : StaysInside m desc.length info ↔ InsideFrom m desc.length (.start info) :=
    and_congr_left fun _ => muxLoop_returns_iff
  rw [hinside]
  constructor
  · intro h
    exact InsideFrom.terminated hdesc (hlength.symm ▸ h)
  · intro h
    exact hlength ▸ h.inside hdesc

/-- The configuration of a mux interface with its two bulk endpoints, in 32 bytes. -/
def muxConfiguration : List UInt8 :=
  [9, 2, 32, 0, 1, 1, 0, 0x80, 50] ++ [9, 4, 0, 0, 2, 255, 254, 2, 0] ++ [7, 5, 0x81, 2, 0, 2, 0] ++ [7, 5, 4, 2, 0, 2, 0]

/-- The search in it ends at the second endpoint, although no length of zero follows. -/
theorem staysInside_iff_mux : StaysInside (.ofBytes muxConfiguration) muxConfiguration.length .cleared ↔
    Terminated ⟨false, .cleared⟩ (muxConfiguration.drop sizeofConfigurationDescriptor) :=
  staysInside_iff muxConfiguration (by decide) _ (Mem.holdsAt_ofBytes _) _

/-- The configuration of a mass storage interface, in 18 bytes. -/
def storageConfiguration : List UInt8 := [9, 2, 18, 0, 1, 1, 0, 0x80, 50] ++ [9, 4, 0, 0, 0, 8, 6, 80, 0]

/-- Behind its last byte the search goes on with the length of a descriptor that is not there. -/
theorem not_staysInside_storage :
    ¬ StaysInside (.ofBytes storageConfiguration) storageConfiguration.length .cleared := by
  intro h
  have hbehind : Rounds (muxNext (.ofBytes storageConfiguration)) (.start .cleared) ⟨18, ⟨false, .cleared⟩⟩ :=
    .single (by decide)
  exact absurd (h.2 _ hbehind 18 (by decide)) (by decide)

end Usbmuxd
