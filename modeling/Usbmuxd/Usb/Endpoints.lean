import Usbmuxd.Usb.DescriptorWalk

/-!
# The endpoints of the mux interface

The search keeps its flag and the endpoint that it has found from one interface to the next: once
it has passed a mux interface, it takes the endpoints of every interface behind it.

## The model

* `WellFormed`, `Descriptor` — the bytes of a descriptor that is as long as it says, and long enough for its type.
* `scan` — the loop, on a list of descriptors.
* `PairOf` — two endpoints of one mux interface, in either direction.
* `ChoosesMuxInterface` — what the function is for: it finds such a pair if there is one.
* `FirstCandidate`, `FirstPair` — the interface that sets the flag, and the two bulk endpoints
  behind it that end the search.

## What is proved

* `muxLoop_encode` — the loop over the bytes of the descriptors is the scan of their list.
* `scan_firstPair`, `scan_same` — what the scan comes to, by the bulk endpoints behind the first
  mux interface.
* `choosesMuxInterface_iff` — the choice is right exactly if the first two bulk endpoints of
  different directions are those of one mux interface.
-/

namespace Usbmuxd

/-! ### Descriptors -/

/-- The bytes of a descriptor that is as long as it says, and long enough for its type. -/
structure WellFormed (bs : List UInt8) : Prop where
  length_eq : (bLength (.ofBytes bs)).toNat = bs.length
  two_le : 2 ≤ bs.length
  interface_size : bDescriptorType (.ofBytes bs) = usbInterfaceDescriptorType → 9 ≤ bs.length
  endpoint_size : bDescriptorType (.ofBytes bs) = usbEndpointDescriptorType → 7 ≤ bs.length
  /-- Endpoint zero is the control endpoint, which has no descriptor. -/
  address_ne : bDescriptorType (.ofBytes bs) = usbEndpointDescriptorType → bEndpointAddress (.ofBytes bs) ≠ 0

theorem wellFormed_iff {bs : List UInt8} : ((bLength (.ofBytes bs)).toNat = bs.length ∧ 2 ≤ bs.length ∧
    (bDescriptorType (.ofBytes bs) = usbInterfaceDescriptorType → 9 ≤ bs.length) ∧
    (bDescriptorType (.ofBytes bs) = usbEndpointDescriptorType → 7 ≤ bs.length) ∧
    (bDescriptorType (.ofBytes bs) = usbEndpointDescriptorType → bEndpointAddress (.ofBytes bs) ≠ 0)) ↔ WellFormed bs :=
  ⟨fun ⟨h₁, h₂, h₃, h₄, h₅⟩ => ⟨h₁, h₂, h₃, h₄, h₅⟩, fun ⟨h₁, h₂, h₃, h₄, h₅⟩ => ⟨h₁, h₂, h₃, h₄, h₅⟩⟩

instance (bs : List UInt8) : Decidable (WellFormed bs) := decidable_of_iff _ wellFormed_iff

/-- A descriptor. -/
structure Descriptor where
  bytes : List UInt8
  wellFormed : WellFormed bytes

/-- The descriptors among some strings of bytes. -/
def descriptors (bss : List (List UInt8)) : List Descriptor :=
  bss.filterMap fun bs => if h : WellFormed bs then some ⟨bs, h⟩ else none

namespace Descriptor

/-- A descriptor as a block of memory. -/
def block (d : Descriptor) : Mem := .ofBytes d.bytes

/-- An interface descriptor. -/
def IsInterface (d : Descriptor) : Prop := bDescriptorType d.block = usbInterfaceDescriptorType

/-- An interface of the mux protocol, with exactly two endpoints. -/
def IsMux (d : Descriptor) : Prop :=
  d.IsInterface ∧ bInterfaceClass d.block = interfaceClass ∧ bInterfaceSubClass d.block = interfaceSubclass ∧
    bInterfaceProtocol d.block = interfaceProtocol ∧ bNumEndpoints d.block = 2

/-- A bulk endpoint. -/
def IsBulk (d : Descriptor) : Prop :=
  bDescriptorType d.block = usbEndpointDescriptorType ∧ bmAttributes d.block = usbEndpointTypeBulk

/-- The direction of an endpoint. -/
def isIn (d : Descriptor) : Bool := usbEndpointDirectionIn (bEndpointAddress d.block)

instance (d : Descriptor) : Decidable d.IsInterface := inferInstanceAs (Decidable (_ = _))
instance (d : Descriptor) : Decidable d.IsMux := inferInstanceAs (Decidable (_ ∧ _))
instance (d : Descriptor) : Decidable d.IsBulk := inferInstanceAs (Decidable (_ ∧ _))

/-- An endpoint of a well-formed descriptor is not endpoint zero. -/
theorem IsBulk.address_ne {d : Descriptor} (h : d.IsBulk) : bEndpointAddress d.block ≠ 0 := d.wellFormed.address_ne h.1

end Descriptor

/-- The bytes of a list of descriptors. -/
def encode (ds : List Descriptor) : List UInt8 := ds.flatMap Descriptor.bytes

/-! ### What the search is for -/

/-- A bulk endpoint of either direction, both behind one mux interface and in front of the next interface. -/
def PairOf (ds : List Descriptor) (i o : Descriptor) : Prop :=
  ∃ before d after, ds = before ++ d :: after ∧ d.IsMux ∧
    i ∈ after.takeWhile (¬ ·.IsInterface) ∧ i.IsBulk ∧ i.isIn = true ∧
    o ∈ after.takeWhile (¬ ·.IsInterface) ∧ o.IsBulk ∧ o.isIn = false

/-- Whether there is such a pair. -/
def offersPair : List Descriptor → Bool
  | [] => false
  | d :: ds =>
    (decide d.IsMux && (ds.takeWhile (¬ ·.IsInterface)).any (fun i => decide i.IsBulk && i.isIn) &&
      (ds.takeWhile (¬ ·.IsInterface)).any (fun o => decide o.IsBulk && !o.isIn)) || offersPair ds

theorem offersPair_iff {ds : List Descriptor} : offersPair ds = true ↔ ∃ i o, PairOf ds i o := by
  induction ds with
  | nil =>
    constructor
    · intro h
      cases h
    · rintro ⟨i, o, before, d, after, h, -⟩
      exact absurd h.symm (by simp)
  | cons d ds ih =>
    rw [offersPair, Bool.or_eq_true, ih]
    simp only [Bool.and_eq_true, decide_eq_true_eq, List.any_eq_true, Bool.not_eq_true']
    constructor
    · rintro (⟨⟨hd, i, hi, hibulk, hiin⟩, o, ho, hobulk, hoin⟩ | ⟨i, o, before, c, after, heq, h⟩)
      · exact ⟨i, o, [], d, ds, rfl, hd, hi, hibulk, hiin, ho, hobulk, hoin⟩
      · exact ⟨i, o, d :: before, c, after, by rw [heq, List.cons_append], h⟩
    · rintro ⟨i, o, before, c, after, heq, hc, hi, hibulk, hiin, ho, hobulk, hoin⟩
      cases before with
      | nil =>
        obtain ⟨rfl, rfl⟩ := List.cons.inj heq
        exact .inl ⟨⟨hc, i, hi, hibulk, hiin⟩, o, ho, hobulk, hoin⟩
      | cons y before =>
        obtain ⟨-, rfl⟩ := List.cons.inj heq
        exact .inr ⟨i, o, before, c, after, rfl, hc, hi, hibulk, hiin, ho, hobulk, hoin⟩

/-- The values that two endpoints leave in `info`. -/
def infoOf (i o : Descriptor) : InstanceInfo := ⟨bEndpointAddress i.block, bEndpointAddress o.block, wMaxPacketSize o.block⟩

/-- The answer is whether there is such a pair, and then `info` holds one. -/
def ChoosesMuxInterface (ds : List Descriptor) (answer : Bool × InstanceInfo) : Prop :=
  (answer.1 = true ↔ ∃ i o, PairOf ds i o) ∧ (answer.1 = true → ∃ i o, PairOf ds i o ∧ answer.2 = infoOf i o)

/-! ### The loop on a list of descriptors -/

/-- The loop of `usb_configure_mux_interface`, as it goes through the descriptors of a list. -/
def scan : Search → List Descriptor → Bool × InstanceInfo
  | s, [] => (false, s.info)
  | s, d :: ds => if (s.visit d.block).2 then (true, (s.visit d.block).1.info) else scan (s.visit d.block).1 ds

section Scan

variable {m : Mem} {s : Search} {info : InstanceInfo} {d a e : Descriptor} {ds l : List Descriptor}

/-- A well-formed descriptor has all the bytes that are looked at of it. -/
theorem Descriptor.extent_le (d : Descriptor) (s : Search) : s.extent d.block ≤ d.bytes.length := by
  have htwo := d.wellFormed.two_le
  unfold Search.extent
  by_cases hinterface : bDescriptorType d.block = usbInterfaceDescriptorType
  · have := d.wellFormed.interface_size hinterface
    split_ifs <;> omega
  by_cases hendpoint : bDescriptorType d.block = usbEndpointDescriptorType ∧ s.bFoundInterface
  · have := d.wellFormed.endpoint_size hendpoint.1
    split_ifs <;> omega
  · split_ifs <;> omega

theorem Descriptor.length_ne (d : Descriptor) : bLength d.block ≠ 0 := by
  intro h
  have hlength := d.wellFormed.length_eq
  have htwo := d.wellFormed.two_le
  rw [show bLength (.ofBytes d.bytes) = 0 from h] at hlength
  have : (0 : UInt8).toNat = 0 := rfl
  omega

/-- The bytes of a descriptor in memory are visited as the descriptor. -/
theorem visit_shift {offset : ℕ} (h : m.HoldsAt offset d.bytes) (s : Search) :
    bLength (m.shift offset) = bLength d.block ∧ s.visit (m.shift offset) = s.visit d.block := by
  obtain ⟨-, hlength, hvisit⟩ := visit_ofBytes h (d.extent_le s)
  exact ⟨hlength, hvisit d.length_ne⟩

/-- **The loop over the bytes of a list of descriptors is the scan of the list**, where a length of
zero stands behind them. -/
theorem muxLoop_encode {offset rounds : ℕ} (h : m.HoldsAt offset (encode ds ++ [0])) (hrounds : ds.length < rounds) :
    muxLoop m rounds ⟨offset, s⟩ = some (scan s ds) := by
  induction ds generalizing offset rounds s with
  | nil =>
    obtain ⟨rounds, rfl⟩ := Nat.exists_eq_succ_of_ne_zero (Nat.ne_zero_of_lt hrounds)
    have hzero : bLength (m.shift offset) = 0 := h.getElem 0 (by simp [encode])
    rw [muxLoop, if_pos hzero]
    rfl
  | cons d ds ih =>
    obtain ⟨rounds, rfl⟩ := Nat.exists_eq_succ_of_ne_zero (Nat.ne_zero_of_lt hrounds)
    rw [encode, List.flatMap_cons, List.append_assoc, Mem.HoldsAt.append] at h
    obtain ⟨hlength, hvisit⟩ := visit_shift h.1 s
    rw [muxLoop, if_neg (hlength ▸ d.length_ne), scan, hvisit, hlength]
    split_ifs with hpair
    · rfl
    · refine ih ?_ (Nat.lt_of_succ_lt_succ hrounds)
      rw [show (bLength d.block).toNat = d.bytes.length from d.wellFormed.length_eq]
      exact h.2

/-! ### One round -/

/-- A mux interface sets the flag. -/
theorem visit_mux (h : d.IsMux) : s.visit d.block = (⟨true, s.info⟩, false) := by
  obtain ⟨hinterface, hclass, hsub, hproto, hcount⟩ := h
  rw [Descriptor.IsInterface] at hinterface
  rw [Search.visit, if_pos hinterface, if_pos ⟨hclass, hsub, hproto⟩, if_pos hcount]

/-- Without the flag, nothing else does anything. -/
theorem visit_unfound (h : ¬ d.IsMux) (info : InstanceInfo) : Search.visit ⟨false, info⟩ d.block = (⟨false, info⟩, false) := by
  unfold Search.visit
  by_cases hinterface : bDescriptorType d.block = usbInterfaceDescriptorType
  · rw [if_pos hinterface]
    split_ifs with hmux hcount
    · exact absurd ⟨hinterface, hmux.1, hmux.2.1, hmux.2.2, hcount⟩ h
    all_goals rfl
  · rw [if_neg hinterface, if_neg Bool.false_ne_true]
    split_ifs <;> rfl

/-- With the flag, only bulk endpoints do something. -/
theorem visit_found (h : ¬ d.IsBulk) (info : InstanceInfo) : Search.visit ⟨true, info⟩ d.block = (⟨true, info⟩, false) := by
  unfold Search.visit
  split_ifs with hinterface hmux hcount hendpoint hflag hbulk
  all_goals first | rfl | exact absurd ⟨hendpoint, hbulk⟩ h

/-- A bulk endpoint is written to `info`. -/
theorem visit_bulk (h : d.IsBulk) (info : InstanceInfo) : Search.visit ⟨true, info⟩ d.block =
    (⟨true, info.store (bEndpointAddress d.block) (wMaxPacketSize d.block)⟩,
      (info.store (bEndpointAddress d.block) (wMaxPacketSize d.block)).isComplete) := by
  have hinterface : bDescriptorType d.block ≠ usbInterfaceDescriptorType := by
    rw [h.1]
    decide
  rw [Search.visit, if_neg hinterface, if_pos h.1, if_pos rfl, if_pos h.2]

/-! ### Whole lists -/

/-- In front of the first mux interface the scan does nothing. -/
theorem scan_unfound (h : ∀ x ∈ ds, ¬ x.IsMux) (l : List Descriptor) : scan ⟨false, info⟩ (ds ++ l) = scan ⟨false, info⟩ l := by
  induction ds with
  | nil => rfl
  | cons x ds ih =>
    rw [List.cons_append, scan, visit_unfound (h x (List.mem_cons_self ..)), if_neg Bool.false_ne_true]
    exact ih fun y hy => h y (List.mem_cons_of_mem _ hy)

/-- Behind it, only the bulk endpoints matter. -/
theorem scan_filter : scan ⟨true, info⟩ ds = scan ⟨true, info⟩ (ds.filter (·.IsBulk)) := by
  induction ds generalizing info with
  | nil => rfl
  | cons x ds ih =>
    by_cases hbulk : x.IsBulk
    · rw [List.filter_cons_of_pos (by simpa using hbulk), scan, scan, visit_bulk hbulk]
      simp only [ih]
    · rw [List.filter_cons_of_neg (by simpa using hbulk), scan, visit_found hbulk, if_neg Bool.false_ne_true]
      exact ih

/-- What `info` holds after bulk endpoints of one direction, the last of which is `a`. -/
def oneSided (a : Descriptor) : InstanceInfo := InstanceInfo.cleared.store (bEndpointAddress a.block) (wMaxPacketSize a.block)

/-- `info` after `a`, and after `e` of the other direction. -/
def twoSided (a e : Descriptor) : InstanceInfo := if a.isIn then infoOf a e else infoOf e a

theorem oneSided_not_complete (a : Descriptor) : (oneSided a).isComplete = false := by
  unfold oneSided InstanceInfo.store InstanceInfo.isComplete InstanceInfo.cleared
  split_ifs <;> simp

/-- Another endpoint of the same direction takes the place of the first. -/
theorem store_same (h : e.isIn = a.isIn) :
    (oneSided a).store (bEndpointAddress e.block) (wMaxPacketSize e.block) = oneSided e := by
  unfold Descriptor.isIn at h
  unfold oneSided InstanceInfo.store
  rw [h]
  split_ifs <;> rfl

/-- One of the other direction completes the pair. -/
theorem store_other (ha : a.IsBulk) (he : e.IsBulk) (h : e.isIn ≠ a.isIn) :
    (oneSided a).store (bEndpointAddress e.block) (wMaxPacketSize e.block) = twoSided a e ∧ (twoSided a e).isComplete = true := by
  unfold Descriptor.isIn at h
  unfold twoSided oneSided Descriptor.isIn InstanceInfo.store infoOf InstanceInfo.isComplete
  cases hin : usbEndpointDirectionIn (bEndpointAddress a.block) with
  | true =>
    rw [hin] at h
    rw [if_pos rfl, if_pos rfl, if_neg h]
    exact ⟨rfl, by simp [ha.address_ne, he.address_ne]⟩
  | false =>
    rw [hin] at h
    replace h := eq_true_of_ne_false h
    rw [if_neg Bool.false_ne_true, if_neg Bool.false_ne_true, if_pos h]
    exact ⟨rfl, by simp [ha.address_ne, he.address_ne]⟩

/-- While all bulk endpoints have one direction, the search goes on. -/
theorem scan_same (hbulk : ∀ x ∈ l, x.IsBulk) (hsame : ∀ x ∈ l, x.isIn = a.isIn) (ds : List Descriptor) :
    scan ⟨true, oneSided a⟩ (l ++ ds) = scan ⟨true, oneSided (l.getLast?.getD a)⟩ ds := by
  induction l generalizing a with
  | nil => rfl
  | cons x l ih =>
    have hx := hsame x (List.mem_cons_self ..)
    rw [List.cons_append, scan, visit_bulk (hbulk x (List.mem_cons_self ..)), store_same hx, oneSided_not_complete,
      if_neg Bool.false_ne_true, ih (fun y hy => hbulk y (List.mem_cons_of_mem _ hy))
      (fun y hy => (hsame y (List.mem_cons_of_mem _ hy)).trans hx.symm), List.getLast?_cons, Option.getD_some]

/-- The first bulk endpoint behind the interface. -/
theorem scan_first (h : e.IsBulk) : scan ⟨true, .cleared⟩ (e :: ds) = scan ⟨true, oneSided e⟩ ds := by
  have hgo := oneSided_not_complete e
  unfold oneSided at hgo ⊢
  rw [scan, visit_bulk h]
  dsimp only
  rw [hgo, if_neg Bool.false_ne_true]

end Scan

/-! ### The first pair -/

/-- The descriptors behind the first mux interface. -/
def FirstCandidate (ds after : List Descriptor) : Prop :=
  ∃ before d, ds = before ++ d :: after ∧ d.IsMux ∧ ∀ x ∈ before, ¬ x.IsMux

/-- Two endpoints of different directions, side by side, with none of `e`'s direction in front of them. -/
def FirstPair (l : List Descriptor) (a e : Descriptor) : Prop :=
  ∃ before rest, l = before ++ a :: e :: rest ∧ (∀ x ∈ before, x.isIn = a.isIn) ∧ e.isIn ≠ a.isIn

section FirstPair

variable {ds after l : List Descriptor} {a e i o : Descriptor}

/-- If some endpoint has another direction than the first one, there is a first pair. -/
theorem exists_firstPair_cons {x : Descriptor} (h : ∃ z ∈ l, z.isIn ≠ x.isIn) :
    ∃ a e, FirstPair (x :: l) a e ∧ a.isIn = x.isIn := by
  induction l generalizing x with
  | nil =>
    obtain ⟨z, hz, -⟩ := h
    cases hz
  | cons y l ih =>
    by_cases hy : y.isIn = x.isIn
    · have hrest : ∃ z ∈ l, z.isIn ≠ y.isIn := by
        obtain ⟨z, hz, hne⟩ := h
        cases List.mem_cons.mp hz with
        | inl heq => exact absurd (heq ▸ hy) hne
        | inr hmem => exact ⟨z, hmem, hy ▸ hne⟩
      obtain ⟨a, e, ⟨before, rest, heq, hsame, hne⟩, ha⟩ := ih hrest
      refine ⟨a, e, ⟨x :: before, rest, by rw [heq, List.cons_append], ?_, hne⟩, ha.trans hy⟩
      exact List.forall_mem_cons.mpr ⟨(ha.trans hy).symm, hsame⟩
    · exact ⟨x, y, ⟨[], l, rfl, fun _ hz => absurd hz List.not_mem_nil, hy⟩, rfl⟩

/-- There is a first pair in a list with both directions. -/
theorem exists_firstPair (hi : i ∈ l) (ho : o ∈ l) (h : i.isIn ≠ o.isIn) : ∃ a e, FirstPair l a e := by
  cases l with
  | nil => cases hi
  | cons x l =>
    have hother : ∃ z ∈ l, z.isIn ≠ x.isIn := by
      by_cases hx : i.isIn = x.isIn
      · cases List.mem_cons.mp ho with
        | inl heq => exact absurd (heq ▸ hx) h
        | inr hmem => exact ⟨o, hmem, fun heq => h (hx.trans heq.symm)⟩
      · cases List.mem_cons.mp hi with
        | inl heq => exact absurd (heq ▸ rfl) hx
        | inr hmem => exact ⟨i, hmem, hx⟩
    obtain ⟨a, e, hpair, -⟩ := exists_firstPair_cons hother
    exact ⟨a, e, hpair⟩

/-- The search ends at the first pair. -/
theorem scan_firstPair (hbulk : ∀ x ∈ l, x.IsBulk) (h : FirstPair l a e) :
    scan ⟨true, .cleared⟩ l = (true, twoSided a e) := by
  obtain ⟨before, rest, rfl, hsame, hne⟩ := h
  have ha : a.IsBulk := hbulk a (by simp)
  have he : e.IsBulk := hbulk e (by simp)
  have hend : scan ⟨true, oneSided a⟩ (e :: rest) = (true, twoSided a e) := by
    obtain ⟨hstore, hcomplete⟩ := store_other ha he hne
    rw [scan, visit_bulk he]
    dsimp only
    rw [hstore, hcomplete, if_pos rfl]
  cases before with
  | nil => exact (scan_first ha).trans hend
  | cons x before =>
    have hx : x.isIn = a.isIn := hsame x (List.mem_cons_self ..)
    have hrun := @scan_same x (before ++ [a])
      (fun y hy => hbulk y (by
        rw [List.append_cons, List.cons_append]
        exact List.mem_append_left _ (List.mem_cons_of_mem _ hy)))
      (fun y hy => by
        cases List.mem_append.mp hy with
        | inl hmem => exact (hsame y (List.mem_cons_of_mem _ hmem)).trans hx.symm
        | inr hlast => exact List.mem_singleton.mp hlast ▸ hx.symm) (e :: rest)
    rw [List.append_assoc, List.singleton_append, List.getLast?_concat, Option.getD_some] at hrun
    rw [List.cons_append, scan_first (hbulk x (by simp)), hrun]
    exact hend

/-- It finds nothing among endpoints of one direction. -/
theorem scan_oneDirection (hbulk : ∀ x ∈ l, x.IsBulk) (h : ∀ x ∈ l, ∀ y ∈ l, x.isIn = y.isIn) :
    (scan ⟨true, .cleared⟩ l).1 = false := by
  cases l with
  | nil => rfl
  | cons x l =>
    have hrun := @scan_same x l (fun y hy => hbulk y (List.mem_cons_of_mem _ hy))
      (fun y hy => h y (List.mem_cons_of_mem _ hy) x (List.mem_cons_self ..)) []
    rw [List.append_nil] at hrun
    rw [scan_first (hbulk x (List.mem_cons_self ..)), hrun]
    rfl

/-- What lies behind any mux interface lies behind the first one. -/
theorem exists_firstCandidate {before : List Descriptor} {d : Descriptor} (hd : d.IsMux) :
    ∃ rest, FirstCandidate (before ++ d :: after) rest ∧ ∀ x ∈ after, x ∈ rest := by
  induction before with
  | nil => exact ⟨after, ⟨[], d, rfl, hd, fun _ hx => absurd hx List.not_mem_nil⟩, fun _ hx => hx⟩
  | cons y before ih =>
    by_cases hy : y.IsMux
    · refine ⟨before ++ d :: after, ⟨[], y, rfl, hy, fun _ hx => absurd hx List.not_mem_nil⟩, fun x hx => ?_⟩
      exact List.mem_append_right _ (List.mem_cons_of_mem _ hx)
    · obtain ⟨rest, ⟨front, c, heq, hc, hnone⟩, hmem⟩ := ih
      refine ⟨rest, ⟨y :: front, c, by rw [List.cons_append, heq, List.cons_append], hc, ?_⟩, hmem⟩
      exact List.forall_mem_cons.mpr ⟨hy, hnone⟩

/-- The scan goes through the bulk endpoints behind the first mux interface. -/
theorem FirstCandidate.scan (h : FirstCandidate ds after) :
    scan ⟨false, .cleared⟩ ds = Usbmuxd.scan ⟨true, .cleared⟩ (after.filter (·.IsBulk)) := by
  obtain ⟨before, d, rfl, hd, hnone⟩ := h
  rw [scan_unfound hnone, Usbmuxd.scan, visit_mux hd, if_neg Bool.false_ne_true]
  exact scan_filter

end FirstPair

/-! ### The choice -/

/-- The first pair of endpoints behind the first mux interface has the values of a pair of one mux interface. -/
def FirstPairBelongs (ds : List Descriptor) : Prop :=
  ∀ after a e, FirstCandidate ds after → FirstPair (after.filter (·.IsBulk)) a e →
    ∃ i o, PairOf ds i o ∧ twoSided a e = infoOf i o

section Choice

variable {ds after : List Descriptor} {a e i o : Descriptor}

theorem bulk_of_mem_filter : ∀ x ∈ after.filter (·.IsBulk), x.IsBulk := fun _ hx => by
  simpa using (List.mem_filter.mp hx).2

/-- The endpoints of any pair lie behind the first mux interface. -/
theorem PairOf.behind (h : PairOf ds i o) : ∃ after, FirstCandidate ds after ∧
    i ∈ after.filter (·.IsBulk) ∧ o ∈ after.filter (·.IsBulk) ∧ i.isIn ≠ o.isIn := by
  obtain ⟨before, d, after, rfl, hd, hi, hibulk, hiin, ho, hobulk, hoin⟩ := h
  obtain ⟨rest, hfirst, hmem⟩ := @exists_firstCandidate after before d hd
  refine ⟨rest, hfirst, List.mem_filter.mpr ⟨hmem i ((List.takeWhile_sublist _).subset hi), by simpa using hibulk⟩,
    List.mem_filter.mpr ⟨hmem o ((List.takeWhile_sublist _).subset ho), by simpa using hobulk⟩, ?_⟩
  rw [hiin, hoin]
  decide

/-- Without a first pair, the scan finds nothing. -/
theorem scan_eq_false (h : ∀ after a e, FirstCandidate ds after → ¬ FirstPair (after.filter (·.IsBulk)) a e) :
    (scan ⟨false, .cleared⟩ ds).1 = false := by
  by_cases hmux : ∃ d ∈ ds, d.IsMux
  · obtain ⟨d, hd, hisMux⟩ := hmux
    obtain ⟨front, back, rfl⟩ := List.append_of_mem hd
    obtain ⟨after, hfirst, -⟩ := @exists_firstCandidate back front d hisMux
    rw [hfirst.scan]
    refine scan_oneDirection bulk_of_mem_filter fun x hx y hy => ?_
    by_contra hne
    obtain ⟨a, e, hpair⟩ := exists_firstPair hx hy hne
    exact h after a e hfirst hpair
  · push Not at hmux
    have hnone : scan ⟨false, .cleared⟩ (ds ++ []) = scan ⟨false, .cleared⟩ [] := scan_unfound hmux []
    rw [List.append_nil] at hnone
    rw [hnone]
    rfl

theorem scan_choosesMuxInterface_iff : ChoosesMuxInterface ds (scan ⟨false, .cleared⟩ ds) ↔ FirstPairBelongs ds := by
  constructor
  · rintro ⟨-, hvalues⟩ after a e hfirst hpair
    rw [hfirst.scan, scan_firstPair bulk_of_mem_filter hpair] at hvalues
    exact hvalues rfl
  · intro hbelongs
    by_cases hexists : ∃ after a e, FirstCandidate ds after ∧ FirstPair (after.filter (·.IsBulk)) a e
    · obtain ⟨after, a, e, hfirst, hpair⟩ := hexists
      obtain ⟨i, o, hof, hinfo⟩ := hbelongs after a e hfirst hpair
      rw [hfirst.scan, scan_firstPair bulk_of_mem_filter hpair]
      exact ⟨⟨fun _ => ⟨i, o, hof⟩, fun _ => rfl⟩, fun _ => ⟨i, o, hof, hinfo⟩⟩
    · push Not at hexists
      have hfalse := scan_eq_false hexists
      refine ⟨⟨fun htrue => ?_, ?_⟩, fun htrue => ?_⟩
      · rw [hfalse] at htrue
        cases htrue
      · rintro ⟨i, o, hof⟩
        obtain ⟨after, hfirst, hi, ho, hne⟩ := hof.behind
        obtain ⟨a, e, hpair⟩ := exists_firstPair hi ho hne
        exact absurd hpair (hexists after a e hfirst)
      · rw [hfalse] at htrue
        cases htrue

end Choice

/-- What `usb_configure_mux_interface` returns, and what it leaves in `info`. -/
def Returns (m : Mem) (info : InstanceInfo) (answer : Bool × InstanceInfo) : Prop :=
  ∃ rounds, usbConfigureMuxInterface rounds m info = some answer

theorem muxLoop_mono {m : Mem} {rounds more : ℕ} {w : Walk} {answer : Bool × InstanceInfo}
    (h : muxLoop m rounds w = some answer) (hle : rounds ≤ more) : muxLoop m more w = some answer := by
  induction rounds generalizing more w with
  | zero => cases h
  | succ rounds ih =>
    obtain ⟨more, rfl⟩ := Nat.exists_eq_succ_of_ne_zero (Nat.ne_zero_of_lt hle)
    rw [muxLoop] at h ⊢
    split_ifs at h ⊢ with hzero hpair
    · exact h
    · exact h
    · exact ih h (Nat.le_of_succ_le_succ hle)

/-- In front of a list of descriptors with a zero length behind it, it returns what the scan comes to. -/
theorem returns_iff {m : Mem} {ds : List Descriptor} {info : InstanceInfo} {answer : Bool × InstanceInfo}
    (hm : m.HoldsAt sizeofConfigurationDescriptor (encode ds ++ [0])) :
    Returns m info answer ↔ answer = scan ⟨false, info⟩ ds := by
  have hscan := muxLoop_encode (s := ⟨false, info⟩) hm (Nat.lt_succ_self _)
  constructor
  · rintro ⟨rounds, h⟩
    have hmore := muxLoop_mono h (Nat.le_max_left rounds (ds.length + 1))
    exact Option.some.inj (hmore.symm.trans (muxLoop_mono hscan (Nat.le_max_right rounds (ds.length + 1))))
  · rintro rfl
    exact ⟨ds.length + 1, hscan⟩

/-- **The endpoints are chosen rightly exactly if the first pair of them belongs to one mux
interface**: the first two bulk endpoints of different directions, one behind the other, that
come behind the first mux interface. -/
theorem choosesMuxInterface_iff (ds : List Descriptor) (m : Mem)
    (hm : m.HoldsAt sizeofConfigurationDescriptor (encode ds ++ [0])) :
    (∃ answer, Returns m .cleared answer ∧ ChoosesMuxInterface ds answer) ↔ FirstPairBelongs ds := by
  rw [← scan_choosesMuxInterface_iff]
  constructor
  · rintro ⟨answer, hreturns, hchooses⟩
    rw [returns_iff hm] at hreturns
    exact hreturns ▸ hchooses
  · intro hchooses
    exact ⟨_, (returns_iff hm).mpr rfl, hchooses⟩

/-- The mux interface of `muxConfiguration`: the pair belongs to it, and is chosen. -/
theorem choosesMuxInterface_iff_mux :
    (∃ answer, Returns (.ofBytes (muxConfiguration ++ [0])) .cleared answer ∧
      ChoosesMuxInterface (descriptors [[9, 4, 0, 0, 2, 255, 254, 2, 0], [7, 5, 0x81, 2, 0, 2, 0], [7, 5, 4, 2, 0, 2, 0]])
        answer) ↔
    FirstPairBelongs (descriptors [[9, 4, 0, 0, 2, 255, 254, 2, 0], [7, 5, 0x81, 2, 0, 2, 0], [7, 5, 4, 2, 0, 2, 0]]) :=
  choosesMuxInterface_iff _ _ ((Mem.holdsAt_ofBytes _).drop 9 (by decide))

/-- A mux interface with a bulk endpoint and an interrupt endpoint, and another interface with
a bulk endpoint of the other direction. -/
def strayDescriptors : List Descriptor :=
  descriptors [[9, 4, 0, 0, 2, 255, 254, 2, 0], [7, 5, 0x81, 2, 0, 2, 0], [7, 5, 0x83, 3, 8, 0, 10],
    [9, 4, 1, 0, 1, 255, 253, 1, 0], [7, 5, 2, 2, 0, 2, 0]]

/-- The two bulk endpoints are taken for a pair, although no interface has both. -/
theorem not_choosesMuxInterface_stray :
    ¬ ∃ answer, Returns (.ofBytes (List.replicate 9 0 ++ (encode strayDescriptors ++ [0]))) .cleared answer ∧
      ChoosesMuxInterface strayDescriptors answer := by
  rintro ⟨answer, hreturns, hchooses, -⟩
  have hm := (Mem.holdsAt_ofBytes (List.replicate 9 0 ++ (encode strayDescriptors ++ [0]))).drop 9 (by simp)
  rw [returns_iff ((Nat.zero_add 9).symm ▸ hm)] at hreturns
  subst hreturns
  rw [← offersPair_iff] at hchooses
  revert hchooses
  decide

end Usbmuxd
