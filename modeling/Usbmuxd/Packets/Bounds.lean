import Usbmuxd.Packets.Drain

/-!
# What the decoder looks at

`device_data_input` is given a buffer and the number of bytes in it. It reads fields of the
headers and hands a part of the buffer on as the payload. Some of its branches compare the
number of bytes with what they need, and some do not.

## The model

* `Access` — some bytes of a buffer, and how many bytes of it have been received.
* `accesses` — what `device_data_input` reads and hands on, in the order of the source.
* `Framing.packet` — the bytes it takes apart: the transfer, or the packet the transfer completes.
* `Complete` — a packet is long enough for what is read of it.

## What is proved

* `decode_congr` — nothing else is looked at: the other bytes have no influence.
* `decode_inside_iff` — every access lies within the received bytes, and no length of a payload
  wraps around, exactly if the packet that is taken apart is complete.
-/

namespace Usbmuxd

open World

/-! ### Accesses -/

/-- `size` bytes from offset `start` of a buffer with `received` bytes. -/
structure Access where
  start : ℕ
  size : ℕ
  received : ℕ
  deriving DecidableEq

/-- The bytes have been received. -/
def Access.Inside (a : Access) : Prop := a.start + a.size ≤ a.received

instance (a : Access) : Decidable a.Inside := inferInstanceAs (Decidable (_ ≤ _))

/-- What the second half of `device_data_input` reads and hands on, of a packet of `length` bytes. -/
def packetAccesses (version : ℕ) (buffer : Mem) (length : UInt32) : List Access :=
  let hdrSize := muxHeaderSize version
  let proto := ntohl buffer 0
  ⟨4, 4, length.toNat⟩ ::
    if length < ntohl buffer 4 then []
    else
      (if 2 ≤ version then [⟨14, 2, length.toNat⟩] else []) ++ ⟨0, 4, length.toNat⟩ ::
        if proto = MuxProtocol.version.code then
          if length < UInt32.ofNat (hdrSize + versionHeaderSize) then [] else [⟨hdrSize, versionHeaderSize, length.toNat⟩]
        else if proto = MuxProtocol.control.code then
          [⟨sizeofMuxHeader, (length - UInt32.ofNat hdrSize).toNat, length.toNat⟩]
        else if proto = MuxProtocol.tcp.code then
          if length < UInt32.ofNat (hdrSize + tcphdrSize) then []
          else
            [⟨hdrSize, tcphdrSize, length.toNat⟩,
              ⟨hdrSize + tcphdrSize, (length - UInt32.ofNat tcphdrSize - UInt32.ofNat hdrSize).toNat, length.toNat⟩]
        else []

/-- The packet buffer with a transfer behind what has been gathered. -/
def Framing.gather (fr : Framing) (buffer : Mem) (length : UInt32) : Mem :=
  fr.pktbuf.memcpy fr.pktlen.toNat (buffer.slice 0 length.toNat)

/-- What `device_data_input` reads and hands on. -/
def accesses (fr : Framing) (buffer : Mem) (length : UInt32) : List Access :=
  if length = 0 then []
  else if devMru < length then []
  else if fr.pktlen ≠ 0 then
    if devMru < length + fr.pktlen then []
    else
      let total := length + fr.pktlen
      -- the transfer is copied; the header is read of the packet buffer, and only if the transfer is full
      ⟨0, length.toNat, length.toNat⟩ :: ((if length < usbMru then [] else [⟨4, 4, total.toNat⟩]) ++
        if length < usbMru ∨ ntohl (fr.gather buffer length) 4 = total then
          packetAccesses fr.version (fr.gather buffer length) total
        else [])
  else
    (if length = usbMru then [⟨4, 4, length.toNat⟩] else []) ++
      if length = usbMru ∧ length < ntohl buffer 4 then [⟨0, length.toNat, length.toNat⟩]
      else packetAccesses fr.version buffer length

/-- The bytes that `device_data_input` takes apart, and how many there are: the transfer, or
what it has gathered; `none` if it only puts the transfer by, or drops it. -/
def Framing.packet (fr : Framing) (buffer : Mem) (length : UInt32) : Option (Mem × UInt32) :=
  if length = 0 then none
  else if devMru < length then none
  else if fr.pktlen ≠ 0 then
    if devMru < length + fr.pktlen then none
    else if length < usbMru ∨ ntohl (fr.gather buffer length) 4 = length + fr.pktlen then
      some (fr.gather buffer length, length + fr.pktlen)
    else none
  else if length = usbMru ∧ length < ntohl buffer 4 then none
  else some (buffer, length)

/-- The state in which a packet is taken apart. -/
def Framing.opened (fr : Framing) (packet : Mem) : Framing :=
  if fr.pktlen = 0 then fr else { fr with pktbuf := packet, pktlen := 0 }

section Packet

variable {fr : Framing} {buffer m : Mem} {length n : UInt32}

@[simp] theorem Framing.opened_version (fr : Framing) (packet : Mem) : (fr.opened packet).version = fr.version := by
  unfold opened
  split <;> rfl

/-- A packet is taken apart. -/
theorem decode_packet (h : fr.packet buffer length = some (m, n)) :
    decode fr buffer length = decodePacket (fr.opened m) m n := by
  unfold Framing.packet at h
  unfold decode Framing.opened
  dsimp only
  split_ifs at h with hzero hbig hpktlen hover hwhole hfirst
  · obtain ⟨rfl, rfl⟩ := Prod.mk.inj (Option.some.inj h)
    rw [if_neg hzero, if_neg hbig, if_pos hpktlen, if_neg hover, if_neg hpktlen]
    exact if_pos hwhole
  · obtain ⟨rfl, rfl⟩ := Prod.mk.inj (Option.some.inj h)
    rw [if_neg hzero, if_neg hbig, if_neg hpktlen, if_neg hfirst, if_pos (not_not.mp hpktlen)]

/-- A transfer that is put by or dropped is used up, and no handler is called. -/
theorem decode_none (h : fr.packet buffer length = none) :
    (decode fr buffer length).dispatch = none ∧ (decode fr buffer length).consumed = length := by
  unfold Framing.packet at h
  unfold decode
  dsimp only
  split_ifs at h with hzero hbig hpktlen hover hwhole hfirst
  · rw [if_pos hzero]
    exact ⟨rfl, rfl⟩
  · rw [if_neg hzero, if_pos hbig]
    exact ⟨rfl, rfl⟩
  · rw [if_neg hzero, if_neg hbig, if_pos hpktlen, if_pos hover]
    exact ⟨rfl, rfl⟩
  · rw [if_neg hzero, if_neg hbig, if_pos hpktlen, if_neg hover]
    refine Eq.mp (congrArg (fun r : Decoded => r.dispatch = none ∧ r.consumed = length) (if_neg hwhole).symm) ⟨rfl, rfl⟩
  · rw [if_neg hzero, if_neg hbig, if_neg hpktlen, if_pos hfirst]
    exact ⟨rfl, rfl⟩

/-- There are bytes in a packet, as many as have been gathered with the transfer. -/
theorem Framing.packet_length (hpktlen : fr.pktlen ≤ devMru) (h : fr.packet buffer length = some (m, n)) :
    n.toNat = length.toNat + fr.pktlen.toNat ∧ n ≠ 0 ∧ n ≤ devMru := by
  have hle : fr.pktlen.toNat ≤ 65536 := UInt32.le_iff_toNat_le.mp hpktlen
  unfold packet at h
  split_ifs at h with hzero hbig hpos hover hwhole hfirst
  all_goals
    obtain ⟨rfl, rfl⟩ := Prod.mk.inj (Option.some.inj h)
    have hpositive : length.toNat ≠ 0 := fun heq => hzero (UInt32.toNat_inj.mp heq)
    rw [UInt32.lt_iff_toNat_lt, devMru_toNat] at hbig
  · have hsum : (length + fr.pktlen).toNat = length.toNat + fr.pktlen.toNat := by
      rw [UInt32.toNat_add]
      omega
    refine ⟨hsum, fun heq => ?_, UInt32.not_lt.mp hover⟩
    rw [← UInt32.toNat_inj, hsum, UInt32.toNat_zero] at heq
    omega
  · rw [not_not.mp hpos, UInt32.toNat_zero]
    exact ⟨rfl, hzero, UInt32.not_lt.mp (by rw [UInt32.lt_iff_toNat_lt, devMru_toNat]; exact hbig)⟩

end Packet

/-! ### Nothing else is looked at -/

section Congruence

variable {fr : Framing} {m m' : Mem} {version : ℕ} {length : UInt32}

/-- Two buffers have the same bytes where one of them is looked at. -/
def SameAt (as : List Access) (m m' : Mem) : Prop := ∀ a ∈ as, ∀ i < a.size, m (a.start + i) = m' (a.start + i)

theorem SameAt.word {as : List Access} (h : SameAt as m m') {a received : ℕ} (ha : ⟨a, 4, received⟩ ∈ as) :
    ntohl m a = ntohl m' a := by
  have hbytes : ∀ i < 4, m (a + i) = m' (a + i) := h _ ha
  have h₀ := hbytes 0 (by decide)
  have h₁ := hbytes 1 (by decide)
  have h₂ := hbytes 2 (by decide)
  have h₃ := hbytes 3 (by decide)
  simp only [Nat.add_zero] at h₀
  rw [ntohl, ntohl, h₀, h₁, h₂, h₃]

theorem SameAt.slice {as : List Access} (h : SameAt as m m') {a size received : ℕ} (ha : ⟨a, size, received⟩ ∈ as) :
    m.slice a size = m'.slice a size := Mem.slice_congr (h _ ha)

/-- A header is made of the bytes it takes up. -/
theorem VersionHeader.read_congr {a : ℕ} (h : ∀ i < versionHeaderSize, m (a + i) = m' (a + i)) :
    VersionHeader.read m a = VersionHeader.read m' a := by
  simp only [versionHeaderSize] at h
  have h₀ := h 0 (by decide)
  simp only [Nat.add_zero] at h₀
  simp only [read, ntohl, Nat.add_assoc, Nat.reduceAdd, h₀, h 1, h 2, h 3, h 4, h 5, h 6, h 7, h 8, h 9, h 10, h 11,
    Nat.reduceLT]

theorem TcpHdr.read_congr {a : ℕ} (h : ∀ i < tcphdrSize, m (a + i) = m' (a + i)) :
    TcpHdr.read m a = TcpHdr.read m' a := by
  simp only [tcphdrSize] at h
  have h₀ := h 0 (by decide)
  simp only [Nat.add_zero] at h₀
  simp only [read, ntohl, ntohs, Nat.add_assoc, Nat.reduceAdd, h₀, h 1, h 2, h 3, h 4, h 5, h 6, h 7, h 8, h 9, h 10,
    h 11, h 12, h 13, h 14, h 15, h 16, h 17, h 18, h 19, Nat.reduceLT]

/-- Taking a packet apart depends on the bytes that are looked at, and on no others. -/
theorem decodePacket_congr (h : SameAt (packetAccesses fr.version m length) m m') :
    decodePacket fr m length = decodePacket fr m' length := by
  have hlength : ntohl m 4 = ntohl m' 4 := h.word List.mem_cons_self
  by_cases hfits : length < ntohl m 4
  · have hfits' := hfits
    rw [hlength] at hfits'
    simp only [decodePacket, if_pos hfits, if_pos hfits']
  have hin : ∀ a ∈ (⟨0, 4, length.toNat⟩ : Access) :: (if ntohl m 0 = MuxProtocol.version.code then
        if length < UInt32.ofNat (muxHeaderSize fr.version + versionHeaderSize) then []
        else [⟨muxHeaderSize fr.version, versionHeaderSize, length.toNat⟩]
      else if ntohl m 0 = MuxProtocol.control.code then
        [⟨sizeofMuxHeader, (length - UInt32.ofNat (muxHeaderSize fr.version)).toNat, length.toNat⟩]
      else if ntohl m 0 = MuxProtocol.tcp.code then
        if length < UInt32.ofNat (muxHeaderSize fr.version + tcphdrSize) then []
        else [⟨muxHeaderSize fr.version, tcphdrSize, length.toNat⟩, ⟨muxHeaderSize fr.version + tcphdrSize,
          (length - UInt32.ofNat tcphdrSize - UInt32.ofNat (muxHeaderSize fr.version)).toNat, length.toNat⟩]
      else []), a ∈ packetAccesses fr.version m length := by
    intro a ha
    rw [packetAccesses, if_neg hfits]
    exact List.mem_cons_of_mem _ (List.mem_append_right _ ha)
  have hproto : ntohl m 0 = ntohl m' 0 := h.word (hin _ List.mem_cons_self)
  have hseq : (if 2 ≤ fr.version then { fr with rxSeq := ntohs m 14 } else fr) =
      if 2 ≤ fr.version then { fr with rxSeq := ntohs m' 14 } else fr := by
    split
    · rename_i hversion
      have hbytes : ∀ i < 2, m (14 + i) = m' (14 + i) := by
        refine h ⟨14, 2, length.toNat⟩ ?_
        rw [packetAccesses, if_neg hfits, if_pos hversion]
        exact List.mem_cons_of_mem _ List.mem_cons_self
      rw [ntohs, ntohs, hbytes 0 (by decide), hbytes 1 (by decide)]
    · rfl
  have hfits' := hfits
  rw [hlength] at hfits'
  unfold decodePacket
  dsimp only
  rw [if_neg hfits, if_neg hfits', hseq, ← hlength, ← hproto]
  split
  · rename_i hversion
    split
    · rfl
    · rename_i hwhole
      rw [if_pos hversion, if_neg hwhole] at hin
      rw [VersionHeader.read_congr (h _ (hin _ (List.mem_cons_of_mem _ List.mem_cons_self)))]
  · rename_i hversion
    split
    · rename_i hcontrol
      rw [if_neg hversion, if_pos hcontrol] at hin
      rw [h.slice (hin _ (List.mem_cons_of_mem _ List.mem_cons_self))]
    · rename_i hcontrol
      split
      · rename_i htcp
        split
        · rfl
        · rename_i hwhole
          rw [if_neg hversion, if_neg hcontrol, if_pos htcp, if_neg hwhole] at hin
          rw [TcpHdr.read_congr (h _ (hin _ (List.mem_cons_of_mem _ List.mem_cons_self))),
            h.slice (hin _ (List.mem_cons_of_mem _ (List.mem_cons_of_mem _ List.mem_cons_self)))]
      · rfl

/-- A transfer that goes behind others is copied, and what is then read is the copy. -/
theorem decode_congr_gathering (hpktlen : fr.pktlen ≠ 0) (h : ∀ i < length.toNat, m i = m' i) :
    decode fr m length = decode fr m' length := by
  have hcopy : m.slice 0 length.toNat = m'.slice 0 length.toNat :=
    Mem.slice_congr fun i hi => by rw [Nat.zero_add]; exact h i hi
  unfold decode
  rw [if_pos hpktlen, if_pos hpktlen, hcopy]

/-- Any other transfer is looked at where `accesses` says, and nowhere else. -/
theorem decode_congr (hpktlen : fr.pktlen = 0) (h : SameAt (accesses fr m length) m m') :
    decode fr m length = decode fr m' length := by
  unfold accesses at h
  unfold decode
  rw [if_neg (not_not.mpr hpktlen)] at h
  rw [if_neg (not_not.mpr hpktlen), if_neg (not_not.mpr hpktlen)]
  split_ifs at h with hzero hbig hfull hfirst hfirst
  · rw [if_pos hzero, if_pos hzero]
  · rw [if_neg hzero, if_neg hzero, if_pos hbig, if_pos hbig]
  all_goals rw [if_neg hzero, if_neg hzero, if_neg hbig, if_neg hbig]
  · have hlength : ntohl m 4 = ntohl m' 4 := h.word List.mem_cons_self
    have hcopy : m.slice 0 length.toNat = m'.slice 0 length.toNat :=
      h.slice (List.mem_cons_of_mem _ List.mem_cons_self)
    have hfirst' := hfirst
    rw [hlength] at hfirst'
    rw [if_pos hfirst, if_pos hfirst', hcopy]
  · have hlength : ntohl m 4 = ntohl m' 4 := h.word List.mem_cons_self
    have hfirst' := hfirst
    rw [hlength] at hfirst'
    rw [if_neg hfirst, if_neg hfirst']
    exact decodePacket_congr fun a ha => h a (List.mem_append_right _ ha)
  · exact absurd hfirst.1 hfull
  · rw [if_neg hfirst, if_neg fun hfirst' => hfull hfirst'.1]
    exact decodePacket_congr fun a ha => h a (List.mem_append_right _ ha)

end Congruence

/-! ### The bounds -/

/-- A packet of `length` bytes has all the bytes that are read of it: the header when its length is
looked at, and a header of the new size when there are sequence numbers or a control payload. -/
def Complete (version : ℕ) (packet : Mem) (length : UInt32) : Prop :=
  8 ≤ length ∧ (ntohl packet 4 ≤ length →
    (2 ≤ version → 16 ≤ length) ∧ (ntohl packet 0 = MuxProtocol.control.code → 2 ≤ version))

/-- The length of the payload is what is left of `total` bytes behind the headers. -/
def Dispatch.Exact (hdrSize total : ℕ) : Dispatch → Prop
  | .version _ => True
  | .control payload => hdrSize + payload.length = total
  | .tcp _ payload => hdrSize + tcphdrSize + payload.length = total

/-- Whatever `device_data_input` reads and hands on has been received, and the length of the payload has not
wrapped around. -/
structure InBounds (fr : Framing) (buffer : Mem) (length : UInt32) : Prop where
  inside : ∀ a ∈ accesses fr buffer length, a.Inside
  exact : ∀ m n, fr.packet buffer length = some (m, n) → ∀ call, (decode fr buffer length).dispatch = some call →
    call.Exact (muxHeaderSize fr.version) n.toNat

section Inside

variable {fr : Framing} {buffer m : Mem} {length n : UInt32} {version : ℕ}

theorem muxHeaderSize_of_le (h : 2 ≤ version) : muxHeaderSize version = 16 := if_neg (by omega)

theorem muxHeaderSize_of_lt (h : version < 2) : muxHeaderSize version = 8 := if_pos h

/-- The size of the headers in front of a payload, as the code compares it with the length. -/
theorem not_lt_headers {size : ℕ} (hsize : size ≤ 36) : ¬ n < UInt32.ofNat size ↔ size ≤ n.toNat := by
  rw [UInt32.lt_iff_toNat_lt, UInt32.toNat_ofNat']
  omega

/-- The rest of a packet behind its headers. -/
theorem toNat_rest {size : ℕ} (hsize : size ≤ n.toNat) : (n - UInt32.ofNat size).toNat = n.toNat - size := by
  have hlt := n.toNat_lt
  have hofNat : (UInt32.ofNat size).toNat = size := by
    rw [UInt32.toNat_ofNat']
    omega
  rw [UInt32.toNat_sub_of_le _ _ (UInt32.le_iff_toNat_le.mpr (by omega)), hofNat]

theorem toNat_tcpRest (h : muxHeaderSize version + tcphdrSize ≤ n.toNat) :
    (n - UInt32.ofNat tcphdrSize - UInt32.ofNat (muxHeaderSize version)).toNat =
      n.toNat - tcphdrSize - muxHeaderSize version := by
  have hrest : (n - UInt32.ofNat tcphdrSize).toNat = n.toNat - tcphdrSize := toNat_rest (by omega)
  rw [toNat_rest (by omega), hrest]

/-- What a packet is read of lies in it exactly if it is complete. -/
theorem packetAccesses_inside_iff :
    (∀ a ∈ packetAccesses version m n, a.Inside) ↔ Complete version m n := by
  have hhdr := muxHeaderSize_le version
  have h8 : 8 ≤ n ↔ 8 ≤ n.toNat := UInt32.le_iff_toNat_le
  have h16 : 16 ≤ n ↔ 16 ≤ n.toNat := UInt32.le_iff_toNat_le
  rw [packetAccesses, List.forall_mem_cons, Complete, h8, h16]
  refine and_congr_right fun hlen => ?_
  replace hlen : 8 ≤ n.toNat := hlen
  split
  · rename_i hshort
    simp [UInt32.not_le.mpr hshort]
  · rename_i hfits
    rw [List.forall_mem_append, List.forall_mem_cons]
    simp only [UInt32.not_lt.mp hfits, true_implies]
    have hseq : (∀ a ∈ (if 2 ≤ version then [(⟨14, 2, n.toNat⟩ : Access)] else []), a.Inside) ↔
        (2 ≤ version → 16 ≤ n.toNat) := by
      split <;> simp_all [Access.Inside]
    have hproto : (⟨0, 4, n.toNat⟩ : Access).Inside := by
      unfold Access.Inside
      dsimp only
      omega
    rw [hseq]
    refine and_congr_right fun hnew => ?_
    simp only [hproto, true_and]
    split
    · rename_i hversion
      have hno : ntohl m 0 ≠ MuxProtocol.control.code := by rw [hversion]; decide
      simp only [hno, false_implies, iff_true]
      split
      · simp
      · rename_i hwhole
        rw [not_lt_headers (by unfold versionHeaderSize; omega)] at hwhole
        simpa [Access.Inside] using hwhole
    · split
      · rename_i hcontrol
        simp only [hcontrol, true_implies, List.forall_mem_singleton, Access.Inside, sizeofMuxHeader]
        by_cases hversion : 2 ≤ version
        · have hnew' := hnew hversion
          rw [muxHeaderSize_of_le hversion, toNat_rest hnew']
          omega
        · -- the payload is looked for behind a header of the new size
          rw [muxHeaderSize_of_lt (by omega), toNat_rest hlen]
          omega
      · rename_i hcontrol
        simp only [hcontrol, false_implies, iff_true]
        split
        · split
          · simp
          · rename_i hwhole
            rw [not_lt_headers (by unfold tcphdrSize; omega)] at hwhole
            simp only [List.forall_mem_cons, Access.Inside, toNat_tcpRest hwhole, List.not_mem_nil, false_implies,
              implies_true, and_true]
            omega
        · simp

/-- The payload of a complete packet is what is left behind the headers. -/
theorem Complete.exact (h : Complete version m n) {call : Dispatch} (hversion : fr.version = version)
    (hcall : (decodePacket fr m n).dispatch = some call) : call.Exact (muxHeaderSize version) n.toNat := by
  subst hversion
  have hhdr := muxHeaderSize_le fr.version
  unfold decodePacket at hcall
  dsimp only at hcall
  split at hcall
  · cases hcall
  · rename_i hfits
    obtain ⟨hnew, hcontrol⟩ := h.2 (UInt32.not_lt.mp hfits)
    split at hcall
    · split at hcall
      · cases hcall
      · cases hcall
        trivial
    · split at hcall
      · rename_i hproto
        cases hcall
        have hversion := hcontrol hproto
        have hwhole : 16 ≤ n.toNat := UInt32.le_iff_toNat_le.mp (hnew hversion)
        simp only [Dispatch.Exact, Mem.length_slice, muxHeaderSize_of_le hversion, toNat_rest hwhole]
        omega
      · split at hcall
        · split at hcall
          · cases hcall
          · rename_i hwhole
            cases hcall
            rw [not_lt_headers (by unfold tcphdrSize; omega)] at hwhole
            simp only [Dispatch.Exact, Mem.length_slice, toNat_tcpRest hwhole]
            omega
        · cases hcall

end Inside

/-- Before it takes a packet apart, `device_data_input` looks at nothing but what it has received. -/
theorem accesses_eq {fr : Framing} (hpktlen : fr.pktlen ≤ devMru) (buffer : Mem) {length : UInt32}
    (hsize : length ≤ deviceRxBufferSize) :
    ∃ own, (∀ a ∈ own, Access.Inside a) ∧ accesses fr buffer length = own ++
      match fr.packet buffer length with
      | some (m, n) => packetAccesses fr.version m n
      | none => [] := by
  have hpktlen' : fr.pktlen.toNat ≤ 65536 := UInt32.le_iff_toNat_le.mp hpktlen
  have hsize' : length.toNat ≤ 0x8008 := UInt32.le_iff_toNat_le.mp hsize
  have hcopy : (⟨0, length.toNat, length.toNat⟩ : Access).Inside := by simp [Access.Inside]
  unfold accesses Framing.packet
  by_cases hzero : length = 0
  · exact ⟨[], by simp, by simp only [if_pos hzero, List.nil_append]⟩
  by_cases hbig : devMru < length
  · exact ⟨[], by simp, by simp only [if_neg hzero, if_pos hbig, List.nil_append]⟩
  simp only [if_neg hzero, if_neg hbig]
  by_cases hgathering : fr.pktlen ≠ 0
  · simp only [if_pos hgathering]
    by_cases hover : devMru < length + fr.pktlen
    · exact ⟨[], by simp, by simp only [if_pos hover, List.nil_append]⟩
    simp only [if_neg hover]
    refine ⟨⟨0, length.toNat, length.toNat⟩ ::
      if length < usbMru then [] else [⟨4, 4, (length + fr.pktlen).toNat⟩], ?_, ?_⟩
    · refine List.forall_mem_cons.mpr ⟨hcopy, fun a ha => ?_⟩
      split at ha
      · cases ha
      · rename_i hfull
        obtain rfl := List.mem_singleton.mp ha
        rw [UInt32.lt_iff_toNat_lt, usbMru_toNat] at hfull
        change 4 + 4 ≤ (length + fr.pktlen).toNat
        rw [UInt32.toNat_add]
        omega
    · by_cases hwhole : length < usbMru ∨ ntohl (fr.gather buffer length) 4 = length + fr.pktlen
      · simp only [if_pos hwhole, List.cons_append]
      · simp only [if_neg hwhole, List.cons_append]
  · simp only [if_neg hgathering]
    have hheader : ∀ a ∈ (if length = usbMru then [(⟨4, 4, length.toNat⟩ : Access)] else []), a.Inside := by
      intro a ha
      split at ha
      · rename_i hfull
        obtain rfl := List.mem_singleton.mp ha
        change 4 + 4 ≤ length.toNat
        rw [hfull, usbMru_toNat]
        omega
      · cases ha
    generalize (if length = usbMru then [(⟨4, 4, length.toNat⟩ : Access)] else []) = header at hheader ⊢
    by_cases hfirst : length = usbMru ∧ length < ntohl buffer 4
    · refine ⟨header ++ [⟨0, length.toNat, length.toNat⟩], fun a ha => ?_, by simp only [if_pos hfirst, List.append_nil]⟩
      rcases List.mem_append.mp ha with ha | ha
      · exact hheader a ha
      · exact List.mem_singleton.mp ha ▸ hcopy
    · exact ⟨header, hheader, by simp only [if_neg hfirst]⟩

/-- For every transfer and every state of the packet buffer: all that is read and handed on lies within what has
been received, and the length of the payload does not wrap around, exactly if the packet that is taken apart is
complete. -/
theorem decode_inside_iff {fr : Framing} (hpktlen : fr.pktlen ≤ devMru) (buffer : Mem) {length : UInt32}
    (hsize : length ≤ deviceRxBufferSize) :
    InBounds fr buffer length ↔ ∀ m n, fr.packet buffer length = some (m, n) → Complete fr.version m n := by
  obtain ⟨own, hown, heq⟩ := accesses_eq hpktlen buffer hsize
  constructor
  · intro h m n hpacket
    refine packetAccesses_inside_iff.mp fun a ha => h.inside a ?_
    rw [heq, hpacket]
    exact List.mem_append_right _ ha
  · intro h
    refine ⟨fun a ha => ?_, fun m n hpacket call hcall => ?_⟩
    · rw [heq] at ha
      rcases List.mem_append.mp ha with ha | ha
      · exact hown a ha
      · split at ha
        · rename_i m n hpacket
          exact packetAccesses_inside_iff.mpr (h m n hpacket) a ha
        · cases ha
    · rw [decode_packet hpacket] at hcall
      exact (h m n hpacket).exact (fr.opened_version m) hcall

/-- The version packet of a device, before it is known to be of version 2. -/
theorem decode_inside_version :
    InBounds (MuxDevice.start 5 1).framing
      (Chunk.ofBytes (muxHeaderBytes 0 .version 20 0 0 ++ VersionHeader.bytes ⟨2, 0, 0⟩)).buffer 20 := by
  refine (decode_inside_iff (by decide) _ (by decide)).mpr fun m n hpacket => ?_
  obtain ⟨rfl, rfl⟩ := Prod.mk.inj (Option.some.inj (hpacket.symm.trans (if_neg (by decide))))
  exact ⟨by decide, fun _ => ⟨by decide, by decide⟩⟩

/-- A control packet of twelve bytes from a device of version 1: the payload is said to be the four bytes behind
the first sixteen. -/
theorem control_outside :
    ¬ InBounds (activeDevice.devs 1).framing (Chunk.ofBytes (htonl 1 ++ htonl 12 ++ [7, 0, 0, 0])).buffer 12 := by
  intro h
  exact absurd (h.inside ⟨16, 4, 12⟩ (by decide +kernel)) (by decide)

end Usbmuxd
