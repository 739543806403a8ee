import Usbmuxd.Runs.Frames

/-!
# A packet through split transfers

`send_packet` makes one buffer of a packet, the USB layer of the other side delivers it in
transfers, and `device_data_input` gathers the transfers in `pktbuf` until the packet is
complete. Whether it is complete is decided by two rules, one about the size of the last
transfer and one about the length in the mux header.

## The model

* `Carries` — the packets a handler gets back as they were sent.
* `Chunk` — a transfer; `Splits` — how the bytes of a packet may be cut into transfers.
* `feed` — `device_data_input` for one transfer after the other.

## What is proved

* `decodePacket_carries` — a complete buffer is taken apart into what was put together.
* `Gathering.decode` — the invariant of `pktbuf` and `pktlen` from one transfer to the next.
* `reassembly` — over every such cut, nothing is handed on before the last transfer, and
  then the packet, once.
-/

namespace Usbmuxd

open World Relation

/-! ### One complete packet -/

section Header

variable {m : Mem} {version total : ℕ} {proto : MuxProtocol} {txSeq rxSeq : UInt16}

theorem ntohl_protocol (h : m.HoldsAt 0 (muxHeaderBytes version proto total txSeq rxSeq)) :
    ntohl m 0 = proto.code := by
  rw [muxHeaderBytes, Mem.HoldsAt.append, Mem.HoldsAt.append] at h
  exact ntohl_htonl h.1.1

theorem ntohl_length (h : m.HoldsAt 0 (muxHeaderBytes version proto total txSeq rxSeq)) :
    ntohl m 4 = UInt32.ofNat total := by
  rw [muxHeaderBytes, Mem.HoldsAt.append, Mem.HoldsAt.append] at h
  exact ntohl_htonl h.1.2

theorem muxHeaderSize_le (version : ℕ) : muxHeaderSize version ≤ 16 := by
  unfold muxHeaderSize sizeofMuxHeader
  split <;> omega

theorem eight_le_muxHeaderSize (version : ℕ) : 8 ≤ muxHeaderSize version := by
  unfold muxHeaderSize sizeofMuxHeader
  split <;> omega

end Header

/-- What `device_data_input` notes from the mux header. -/
def Framing.note (fr : Framing) (buffer : Mem) : Framing :=
  if 2 ≤ fr.version then { fr with rxSeq := ntohs buffer 14 } else fr

@[simp] theorem Framing.note_version (fr : Framing) (buffer : Mem) : (fr.note buffer).version = fr.version := by
  unfold note
  split <;> rfl

@[simp] theorem Framing.note_pktlen (fr : Framing) (buffer : Mem) : (fr.note buffer).pktlen = fr.pktlen := by
  unfold note
  split <;> rfl

/-- A buffer that starts with a TCP packet: the payload is all that follows the headers. -/
theorem decodePacket_tcp {fr : Framing} {buffer : Mem} {length : UInt32} {total : ℕ} {txSeq rxSeq : UInt16}
    {th : TcpHdr} {rest : List UInt8}
    (hholds : buffer.HoldsAt 0 (muxHeaderBytes fr.version .tcp total txSeq rxSeq ++ th.bytes ++ rest))
    (hlen : length.toNat = muxHeaderSize fr.version + tcphdrSize + rest.length) (htotal : total ≤ length.toNat) :
    decodePacket fr buffer length = ⟨fr.note buffer, some (.tcp th rest), UInt32.ofNat total⟩ := by
  rw [Mem.HoldsAt.append, Mem.HoldsAt.append, List.length_append, length_muxHeaderBytes, length_tcpHdr_bytes,
    Nat.zero_add, Nat.zero_add] at hholds
  obtain ⟨⟨hmux, hth⟩, hrest⟩ := hholds
  have hhdr := muxHeaderSize_le fr.version
  have hlt := length.toNat_lt
  have hdeclared : (UInt32.ofNat total).toNat = total := by
    rw [UInt32.toNat_ofNat']
    omega
  have hfits : ¬ length < UInt32.ofNat total := by
    rw [UInt32.lt_iff_toNat_lt, hdeclared]
    omega
  have hwhole : ¬ length < UInt32.ofNat (muxHeaderSize fr.version + tcphdrSize) := by
    rw [UInt32.lt_iff_toNat_lt, UInt32.toNat_ofNat']
    omega
  have hpayload : (length - UInt32.ofNat tcphdrSize - UInt32.ofNat (muxHeaderSize fr.version)).toNat = rest.length := by
    rw [UInt32.toNat_sub, UInt32.toNat_sub, UInt32.toNat_ofNat', UInt32.toNat_ofNat']
    unfold tcphdrSize at hlen ⊢
    omega
  have hconsumed : (if UInt32.ofNat total < length then UInt32.ofNat total else length) = UInt32.ofNat total := by
    split
    · rfl
    · rename_i hge
      rw [UInt32.lt_iff_toNat_lt, hdeclared] at hge
      rw [← UInt32.toNat_inj, hdeclared]
      omega
  have hslice : buffer.slice (muxHeaderSize fr.version + tcphdrSize) rest.length = rest := hrest
  unfold decodePacket
  simp only [ntohl_protocol hmux, ntohl_length hmux, if_neg hfits, if_neg hwhole, hpayload, hconsumed,
    TcpHdr.read_bytes hth, hslice, if_neg (by decide : MuxProtocol.tcp.code ≠ MuxProtocol.version.code),
    if_neg (by decide : MuxProtocol.tcp.code ≠ MuxProtocol.control.code), if_true]
  rfl

/-- A buffer that is a version packet. -/
theorem decodePacket_version {fr : Framing} {buffer : Mem} {length : UInt32} {txSeq rxSeq : UInt16} {vh : VersionHeader}
    (hholds : buffer.HoldsAt 0 (muxHeaderBytes fr.version .version length.toNat txSeq rxSeq ++ vh.bytes))
    (hlen : length.toNat = muxHeaderSize fr.version + versionHeaderSize) :
    decodePacket fr buffer length = ⟨fr.note buffer, some (.version vh), length⟩ := by
  rw [Mem.HoldsAt.append, length_muxHeaderBytes, Nat.zero_add] at hholds
  obtain ⟨hmux, hvh⟩ := hholds
  have hhdr := muxHeaderSize_le fr.version
  have hdeclared : UInt32.ofNat length.toNat = length := UInt32.ofNat_toNat
  have hwhole : ¬ length < UInt32.ofNat (muxHeaderSize fr.version + versionHeaderSize) := by
    rw [UInt32.lt_iff_toNat_lt, UInt32.toNat_ofNat']
    omega
  have hself : ¬ length < length := by
    rw [UInt32.lt_iff_toNat_lt]
    omega
  unfold decodePacket
  simp only [ntohl_protocol hmux, ntohl_length hmux, hdeclared, if_neg hself, if_neg hwhole, if_true,
    VersionHeader.read_bytes hvh]
  rfl

/-- What a packet with this header and these data is to the handlers of a device of this
version. A version header is sent before the other side has said its version. -/
inductive Carries (version : ℕ) : MuxProtocol → List UInt8 → List UInt8 → Dispatch → Prop where
  | tcp (th : TcpHdr) (payload : List UInt8) : Carries version .tcp th.bytes payload (.tcp th payload)
  | version (vh : VersionHeader) (h : version < 2) : Carries version .version vh.bytes [] (.version vh)

section Carries

variable {dev : MuxDevice} {proto : MuxProtocol} {header data : List UInt8} {call : Dispatch} {fr : Framing}

theorem length_packetBytes : (dev.packetBytes proto header data).length = dev.packetLength header data := by
  rw [MuxDevice.packetBytes, List.length_append, List.length_append, length_muxHeaderBytes, MuxDevice.packetLength]

/-- A complete packet is taken apart into what was put together. -/
theorem decodePacket_carries (hc : Carries dev.version proto header data call) (hversion : fr.version = dev.version)
    {buffer : Mem} {length : UInt32} (hholds : buffer.HoldsAt 0 (dev.packetBytes proto header data))
    (hlen : length.toNat = dev.packetLength header data) :
    decodePacket fr buffer length = ⟨fr.note buffer, some call, length⟩ := by
  have hdeclared : UInt32.ofNat length.toNat = length := UInt32.ofNat_toNat
  unfold MuxDevice.packetBytes at hholds
  rw [← hlen, ← hversion] at hholds
  unfold MuxDevice.packetLength at hlen
  rw [← hversion] at hlen
  cases hc with
  | tcp th => rw [decodePacket_tcp hholds (by simpa using hlen) le_rfl, hdeclared]
  | version vh =>
    rw [List.append_nil] at hholds
    exact decodePacket_version hholds (by simpa using hlen)

end Carries

/-! ### Transfers -/

/-- A transfer: its bytes, at the start of a buffer. -/
structure Chunk where
  bytes : List UInt8
  buffer : Mem
  holds : buffer.HoldsAt 0 bytes

/-- A transfer of these bytes in a buffer that is zero behind them. -/
def Chunk.ofBytes (bs : List UInt8) : Chunk where
  bytes := bs
  buffer i := bs.getD i 0
  holds := by
    refine List.ext_getElem (by simp) fun i h₁ h₂ => ?_
    rw [Mem.getElem_slice, Nat.zero_add, List.getD_eq_getElem]

/-- The length of a transfer. -/
def Chunk.size (c : Chunk) : UInt32 := UInt32.ofNat c.bytes.length

/-- What the device has gathered of a packet. -/
structure Gathering (version : ℕ) (got : List UInt8) (fr : Framing) : Prop where
  version : fr.version = version
  pktlen : fr.pktlen.toNat = got.length
  pktbuf : fr.pktbuf.HoldsAt 0 got

theorem usbMru_toNat : usbMru.toNat = 16384 := rfl

theorem devMru_toNat : devMru.toNat = 65536 := rfl

section Decode

variable {dev : MuxDevice} {proto : MuxProtocol} {header data : List UInt8} {call : Dispatch} {fr : Framing}
  {got rest : List UInt8} {c : Chunk}

/-- The start of a packet says how long the packet is. -/
theorem ntohl_packetLength {m : Mem} (hholds : m.HoldsAt 0 got)
    (hstart : got <+: dev.packetBytes proto header data) (hlong : 8 ≤ got.length)
    (hshort : dev.packetLength header data ≤ usbMtu) : (ntohl m 4).toNat = dev.packetLength header data := by
  obtain ⟨rest, hbytes⟩ := hstart
  have hfront : got.take 8 = htonl proto.code ++ htonl (UInt32.ofNat (dev.packetLength header data)) := by
    rw [← List.take_append_of_le_length hlong, hbytes, MuxDevice.packetBytes, muxHeaderBytes]
    simp only [List.append_assoc]
    rfl
  have hhead : m.HoldsAt 0 (got.take 8) := hholds.take hlong
  rw [hfront, Mem.HoldsAt.append] at hhead
  have hlength : ntohl m 4 = UInt32.ofNat (dev.packetLength header data) := ntohl_htonl hhead.2
  rw [hlength, UInt32.toNat_ofNat']
  unfold usbMtu at hshort
  omega

theorem Chunk.size_toNat (hshort : c.bytes.length ≤ usbMtu) : c.size.toNat = c.bytes.length := by
  rw [size, UInt32.toNat_ofNat']
  unfold usbMtu at hshort
  omega

/-- The two tests in front of everything else. -/
theorem Chunk.usable (hne : c.bytes ≠ []) (hshort : c.bytes.length ≤ usbMtu) : c.size ≠ 0 ∧ ¬ devMru < c.size := by
  have hsize := size_toNat hshort
  have hpos := List.length_pos_of_ne_nil hne
  rw [UInt32.lt_iff_toNat_lt, ← UInt32.toNat_inj.ne, hsize, devMru_toNat, UInt32.toNat_zero]
  unfold usbMtu at hshort
  omega

/-- A packet in one transfer. -/
theorem decode_whole (hc : Carries dev.version proto header data call) (hversion : fr.version = dev.version)
    (hpktlen : fr.pktlen = 0) (hbytes : c.bytes = dev.packetBytes proto header data)
    (hshort : dev.packetLength header data ≤ usbMtu) :
    decode fr c.buffer c.size = ⟨fr.note c.buffer, some call, c.size⟩ := by
  have hlen : c.bytes.length = dev.packetLength header data := by rw [hbytes, length_packetBytes]
  have hsize := Chunk.size_toNat (hlen.le.trans hshort)
  have hlong : 8 ≤ c.bytes.length := by
    rw [hlen, MuxDevice.packetLength]
    have := eight_le_muxHeaderSize dev.version
    omega
  obtain ⟨hpos, hmru⟩ := Chunk.usable (List.ne_nil_of_length_pos (by omega)) (hlen.le.trans hshort)
  have hstart : c.bytes <+: dev.packetBytes proto header data := hbytes ▸ List.prefix_rfl
  have hdeclared : (ntohl c.buffer 4).toNat = c.bytes.length := by
    rw [ntohl_packetLength c.holds hstart hlong hshort, hlen]
  have hself : ¬ (c.size = usbMru ∧ c.size < ntohl c.buffer 4) := fun h => by
    rw [UInt32.lt_iff_toNat_lt] at h
    omega
  unfold decode
  rw [if_neg hpos, if_neg hmru, if_neg (not_not.mpr hpktlen), if_neg hself]
  exact decodePacket_carries hc hversion (hbytes ▸ c.holds) (hsize.trans hlen)

/-- The first of several transfers. -/
theorem decode_first (hversion : fr.version = dev.version) (hpktlen : fr.pktlen = 0)
    (hbytes : c.bytes ++ rest = dev.packetBytes proto header data) (hrest : rest ≠ [])
    (hmru : c.bytes.length = usbMru.toNat) (hshort : dev.packetLength header data ≤ usbMtu) :
    ∃ fr', decode fr c.buffer c.size = ⟨fr', none, c.size⟩ ∧ Gathering dev.version c.bytes fr' := by
  rw [usbMru_toNat] at hmru
  have hlen : c.bytes.length + rest.length = dev.packetLength header data := by
    rw [← length_packetBytes, ← hbytes, List.length_append]
  have hrestpos := List.length_pos_of_ne_nil hrest
  have hle : c.bytes.length ≤ usbMtu := by omega
  have hsize := Chunk.size_toNat hle
  obtain ⟨hpos, hfits⟩ := Chunk.usable (List.ne_nil_of_length_pos (by omega)) hle
  have hmore : c.size = usbMru ∧ c.size < ntohl c.buffer 4 := by
    rw [UInt32.lt_iff_toNat_lt, ntohl_packetLength c.holds ⟨rest, hbytes⟩ (by omega) hshort, hsize, ← UInt32.toNat_inj,
      hsize,
      usbMru_toNat]
    omega
  refine ⟨{ fr with pktbuf := fr.pktbuf.memcpy 0 (c.buffer.slice 0 c.size.toNat), pktlen := c.size }, ?_,
    ⟨hversion, hsize, ?_⟩⟩
  · unfold decode
    rw [if_neg hpos, if_neg hfits, if_neg (not_not.mpr hpktlen), if_pos hmore]
  · have hslice : c.buffer.slice 0 c.size.toNat = c.bytes := hsize ▸ c.holds
    rw [hslice]
    exact Mem.holdsAt_memcpy ..

/-- A transfer behind what is gathered already. -/
theorem decode_gathering (hg : Gathering dev.version got fr) (hgot : got ≠ []) (hne : c.bytes ≠ [])
    (hle : (got ++ c.bytes).length ≤ usbMtu) :
    ∃ (pktbuf : Mem) (total : UInt32), pktbuf.HoldsAt 0 (got ++ c.bytes) ∧ total.toNat = (got ++ c.bytes).length ∧
      decode fr c.buffer c.size =
        if c.size < usbMru ∨ ntohl pktbuf 4 = total then decodePacket { fr with pktbuf, pktlen := 0 } pktbuf total
        else ⟨{ fr with pktbuf, pktlen := total }, none, c.size⟩ := by
  rw [List.length_append] at hle ⊢
  have hgotpos := List.length_pos_of_ne_nil hgot
  have hshort : c.bytes.length ≤ usbMtu := by omega
  have hsize := Chunk.size_toNat hshort
  obtain ⟨hpos, hfits⟩ := Chunk.usable hne hshort
  have hpktlen : fr.pktlen ≠ 0 := by
    rw [← UInt32.toNat_inj.ne, hg.pktlen, UInt32.toNat_zero]
    omega
  have htotal : (c.size + fr.pktlen).toNat = got.length + c.bytes.length := by
    rw [UInt32.toNat_add, hsize, hg.pktlen]
    unfold usbMtu at hle
    omega
  have hroom : ¬ devMru < c.size + fr.pktlen := by
    rw [UInt32.lt_iff_toNat_lt, htotal, devMru_toNat]
    unfold usbMtu at hle
    omega
  have hslice : c.buffer.slice 0 c.size.toNat = c.bytes := hsize ▸ c.holds
  refine ⟨fr.pktbuf.memcpy got.length c.bytes, c.size + fr.pktlen, ?_, htotal, ?_⟩
  · rw [Mem.HoldsAt, List.length_append, Mem.slice_memcpy_append, hg.pktbuf]
  · unfold decode
    rw [if_neg hpos, if_neg hfits, if_pos hpktlen, if_neg hroom, hslice, hg.pktlen]

/-- A transfer in the middle. -/
theorem decode_middle (hg : Gathering dev.version got fr) (hgot : 8 ≤ got.length)
    (hbytes : got ++ c.bytes ++ rest = dev.packetBytes proto header data) (hrest : rest ≠ [])
    (hmru : usbMru.toNat ≤ c.bytes.length) (hshort : dev.packetLength header data ≤ usbMtu) :
    ∃ fr', decode fr c.buffer c.size = ⟨fr', none, c.size⟩ ∧ Gathering dev.version (got ++ c.bytes) fr' := by
  rw [usbMru_toNat] at hmru
  have hlen : (got ++ c.bytes).length + rest.length = dev.packetLength header data := by
    rw [← length_packetBytes, ← hbytes, ← List.length_append]
  have hrestpos := List.length_pos_of_ne_nil hrest
  have hle : (got ++ c.bytes).length ≤ usbMtu := by omega
  have happend : (got ++ c.bytes).length = _ := List.length_append
  obtain ⟨pktbuf, total, hholds, htotal, heq⟩ :=
    decode_gathering hg (List.ne_nil_of_length_pos (by omega)) (List.ne_nil_of_length_pos (by omega)) hle
  have hlast : ¬ (c.size < usbMru ∨ ntohl pktbuf 4 = total) := by
    rw [UInt32.lt_iff_toNat_lt, Chunk.size_toNat (by omega), usbMru_toNat, ← UInt32.toNat_inj,
      ntohl_packetLength hholds ⟨rest, hbytes⟩ (by omega) hshort]
    omega
  rw [if_neg hlast] at heq
  exact ⟨_, heq, hg.version, htotal, hholds⟩

/-- The last of several transfers. -/
theorem decode_last (hc : Carries dev.version proto header data call) (hg : Gathering dev.version got fr)
    (hgot : 8 ≤ got.length) (hbytes : got ++ c.bytes = dev.packetBytes proto header data) (hne : c.bytes ≠ [])
    (hshort : dev.packetLength header data ≤ usbMtu) :
    ∃ fr', decode fr c.buffer c.size = ⟨fr', some call, UInt32.ofNat (dev.packetLength header data)⟩ ∧
      fr'.pktlen = 0 := by
  have hlen : (got ++ c.bytes).length = dev.packetLength header data := by rw [hbytes, length_packetBytes]
  obtain ⟨pktbuf, total, hholds, htotal, heq⟩ :=
    decode_gathering hg (List.ne_nil_of_length_pos (by omega)) hne (hlen.le.trans hshort)
  have happend : (got ++ c.bytes).length = _ := List.length_append
  have hstart : got ++ c.bytes <+: dev.packetBytes proto header data := hbytes ▸ List.prefix_rfl
  have hdeclared : ntohl pktbuf 4 = total := by
    rw [← UInt32.toNat_inj, ntohl_packetLength hholds hstart (by omega) hshort, htotal, hlen]
  rw [hbytes] at hholds
  have hversion : ({ fr with pktbuf, pktlen := 0 } : Framing).version = dev.version := hg.version
  refine ⟨Framing.note { fr with pktbuf, pktlen := 0 } pktbuf, ?_, by rw [Framing.note_pktlen]⟩
  rw [heq, if_pos (.inr hdeclared), decodePacket_carries hc hversion hholds (htotal.trans hlen), ← htotal.trans hlen,
    UInt32.ofNat_toNat]

end Decode

/-! ### One transfer after the other -/

/-- How the bytes of a packet may be cut: into one transfer, or into a first one of
`USB_MRU` bytes, then some that are at least as long, and a last one of any length. -/
inductive Splits (bs : List UInt8) : List Chunk → Chunk → Prop where
  | whole (last : Chunk) (hbytes : last.bytes = bs) : Splits bs [] last
  | cut (first : Chunk) (middle : List Chunk) (last : Chunk) (hfirst : first.bytes.length = usbMru.toNat)
      (hmiddle : ∀ c ∈ middle, usbMru.toNat ≤ c.bytes.length) (hlast : last.bytes ≠ [])
      (hbytes : first.bytes ++ middle.flatMap Chunk.bytes ++ last.bytes = bs) : Splits bs (first :: middle) last

/-- `device_data_input` for a transfer. -/
def input (env : Env) (u : UsbDevice) (c : Chunk) (w : World) : World × UInt32 :=
  deviceDataInput env u c.buffer c.size w

/-- `device_data_input` for one transfer after the other. -/
def feed (env : Env) (u : UsbDevice) (cs : List Chunk) (w : World) : World :=
  cs.foldl (fun w c => (input env u c w).1) w

section Feed

variable {env : Env} {d : Ptr} {u : UsbDevice} {w : World} {c : Chunk} {fr fr' : Framing}

@[simp] theorem MuxDevice.setFraming_setFraming (dev : MuxDevice) (fr fr' : Framing) :
    (dev.setFraming fr).setFraming fr' = dev.setFraming fr' := rfl

theorem MuxDevice.framing_setFraming {dev : MuxDevice} (h : fr.version = dev.version) :
    (dev.setFraming fr).framing = fr := by
  obtain ⟨version, pktbuf, pktlen, rxSeq⟩ := fr
  simp only at h
  rw [h]
  rfl

theorem World.setDev_setFraming (w : World) (d : Ptr) (fr fr' : Framing) :
    (w.setDev d (·.setFraming fr)).setDev d (·.setFraming fr') = w.setDev d (·.setFraming fr') := by
  simp [setDev]

/-- The device is found again when what it has gathered changes. -/
theorem findByUsbdev_setFraming (w : World) (d : Ptr) (fr : Framing) (u : UsbDevice) :
    findByUsbdev (w.setDev d (·.setFraming fr)) u = findByUsbdev w u := by
  have husb : ∀ d', ((w.setDev d (·.setFraming fr)).devs d').usbdev = (w.devs d').usbdev := by
    intro d'
    by_cases hd : d' = d
    · subst hd
      simp [MuxDevice.setFraming]
    · simp [hd]
  unfold findByUsbdev
  simp only [husb, setDev_deviceList]

variable {buffer : Mem} {length consumed : UInt32}

/-- A transfer that completes no packet. -/
theorem deviceDataInput_none (hdev : findByUsbdev w u = some d)
    (hdecode : decode (w.devs d).framing buffer length = ⟨fr, none, consumed⟩) :
    deviceDataInput env u buffer length w = (w.setDev d (·.setFraming fr), consumed) := by
  unfold deviceDataInput
  simp only [hdev, hdecode]

/-- A transfer that completes a packet. -/
theorem deviceDataInput_some {call : Dispatch} (hdev : findByUsbdev w u = some d)
    (hdecode : decode (w.devs d).framing buffer length = ⟨fr, some call, consumed⟩) :
    deviceDataInput env u buffer length w = (dispatch env d call (w.setDev d (·.setFraming fr)), consumed) := by
  unfold deviceDataInput
  simp only [hdev, hdecode]

variable {dev : MuxDevice} {proto : MuxProtocol} {header data got rest : List UInt8} {call : Dispatch}

/-- The transfers in the middle only add to what is gathered. -/
theorem feed_middle (hdev : findByUsbdev w u = some d) (hversion : (w.devs d).version = dev.version)
    (hshort : dev.packetLength header data ≤ usbMtu) {middle : List Chunk}
    (hmiddle : ∀ c ∈ middle, usbMru.toNat ≤ c.bytes.length) (hrest : rest ≠ []) :
    ∀ {fr : Framing} {got : List UInt8}, Gathering dev.version got fr → 8 ≤ got.length →
      got ++ middle.flatMap Chunk.bytes ++ rest = dev.packetBytes proto header data →
      ∃ fr', feed env u middle (w.setDev d (·.setFraming fr)) = w.setDev d (·.setFraming fr') ∧
        Gathering dev.version (got ++ middle.flatMap Chunk.bytes) fr' := by
  induction middle with
  | nil =>
    intro fr got hg _ _
    exact ⟨fr, rfl, by simpa using hg⟩
  | cons c middle ih =>
    intro fr got hg hgot hbytes
    have hframing : ((w.setDev d (·.setFraming fr)).devs d).framing = fr := by
      simpa using MuxDevice.framing_setFraming (hg.version.trans hversion.symm)
    rw [List.flatMap_cons, ← List.append_assoc] at hbytes
    have hne : middle.flatMap Chunk.bytes ++ rest ≠ [] := by
      simp [hrest]
    obtain ⟨fr', hdecode, hg'⟩ := decode_middle hg hgot (by rw [← hbytes, List.append_assoc (got ++ c.bytes)]) hne
      (hmiddle c (List.mem_cons_self ..)) hshort
    have hinput : input env u c (w.setDev d (·.setFraming fr)) = _ :=
      deviceDataInput_none ((findByUsbdev_setFraming ..).trans hdev) (by rw [hframing, hdecode])
    obtain ⟨fr'', hfeed, hg''⟩ := ih (fun c' hc' => hmiddle c' (List.mem_cons_of_mem _ hc')) hg'
      (by rw [List.length_append]; omega) hbytes
    refine ⟨fr'', ?_, by rwa [List.flatMap_cons, ← List.append_assoc]⟩
    rw [← hfeed, feed, List.foldl_cons, hinput, setDev_setFraming]
    rfl

/-- A packet that is passed on is in the log as it is. -/
theorem sendPacket_sent {env₀ : Env} {w₀ : World} {d₀ : Ptr} {bs : List UInt8} {ok : Bool}
    (h : (sendPacket env₀ d₀ proto header data w₀).1.log = w₀.log ++ [.usbSend d₀ bs ok]) :
    bs = (w₀.devs d₀).packetBytes proto header data ∧ (w₀.devs d₀).packetLength header data ≤ usbMtu := by
  unfold sendPacket at h
  split at h
  · simp at h
  · rename_i hsend
    simp only [usbSend, emit_log, tock_log, setDev_log, List.append_cancel_left_eq, List.cons.injEq,
      Event.usbSend.injEq] at h
    exact ⟨h.1.2.1.symm, by omega⟩

/-- No handler puts anything into the packet buffer. -/
theorem dispatch_pktlen (hfits : call.fits) : ((dispatch env d call w).devs d).pktlen = (w.devs d).pktlen := by
  have hcore {w' : World} (h : (w'.devs d).core = (w.devs d).core) : (w'.devs d).pktlen = (w.devs d).pktlen :=
    congrArg DeviceCore.pktlen h
  cases call with
  | control payload => rfl
  | tcp th payload => exact hcore ((traffic_deviceTcpInput env _ d th hfits).devices.core d)
  | version vh =>
    unfold dispatch deviceVersionInput
    dsimp only
    split
    · rfl
    · split
      · rfl
      · split
        · have hsetup := (ConnFrame.sendPacket env d .setup [] [0x07]
            ((w.emit (.versionInput d vh)).setDev d fun dev => { dev with version := vh.major.toNat })).core d
          simpa [preflightWorkerDeviceAdd, MuxDevice.core] using congrArg DeviceCore.pktlen hsetup
        · simp [preflightWorkerDeviceAdd]

theorem Carries.fits (h : Carries dev.version proto header data call)
    (hshort : dev.packetLength header data ≤ usbMtu) : call.fits := by
  cases h with
  | version => trivial
  | tcp th =>
    simp only [Dispatch.fits, devMru_toNat]
    unfold MuxDevice.packetLength usbMtu at hshort
    omega

end Feed

/-- Whatever way the bytes of a packet are cut, the device does nothing before the last
transfer but gather them, and then calls the handler for that packet. -/
theorem reassembly {env₀ : Env} {w₀ : World} {d₀ : Ptr} {proto : MuxProtocol} {header data bs : List UInt8} {ok : Bool}
    {call : Dispatch} (hcarries : Carries (w₀.devs d₀).version proto header data call)
    (hsent : (sendPacket env₀ d₀ proto header data w₀).1.log = w₀.log ++ [.usbSend d₀ bs ok])
    {init : List Chunk} {last : Chunk} (hsplits : Splits bs init last) (env : Env) {w : World} {d : Ptr} {u : UsbDevice}
    (hdev : findByUsbdev w u = some d) (hversion : (w.devs d).version = (w₀.devs d₀).version)
    (hpktlen : (w.devs d).pktlen = 0) :
    (∃ fr, feed env u init w = w.setDev d (·.setFraming fr)) ∧
    (∃ fr, input env u last (feed env u init w) =
      (dispatch env d call (w.setDev d (·.setFraming fr)), UInt32.ofNat bs.length)) ∧
    ((input env u last (feed env u init w)).1.devs d).pktlen = 0 := by
  obtain ⟨rfl, hshort⟩ := sendPacket_sent hsent
  have hfits := hcarries.fits hshort
  have hlength : ((w₀.devs d₀).packetBytes proto header data).length = _ := length_packetBytes
  have hdone {fr : Framing} (h : fr.pktlen = 0) :
      ((dispatch env d call (w.setDev d (·.setFraming fr))).devs d).pktlen = 0 := by
    rw [dispatch_pktlen hfits]
    simpa [MuxDevice.setFraming] using h
  have hversion₀ : (w.devs d).framing.version = (w₀.devs d₀).version := hversion
  have hpktlen₀ : (w.devs d).framing.pktlen = 0 := hpktlen
  cases hsplits with
  | whole last hbytes =>
    have hinput : input env u last w = _ :=
      deviceDataInput_some hdev (decode_whole hcarries hversion₀ hpktlen₀ hbytes hshort)
    refine ⟨⟨(w.devs d).framing, ?_⟩, ⟨(w.devs d).framing.note last.buffer, ?_⟩, ?_⟩
    · show w = _
      simp [setDev, MuxDevice.setFraming, MuxDevice.framing]
    · show input env u last w = _
      rw [hinput, Chunk.size, hbytes]
    · show ((input env u last w).1.devs d).pktlen = 0
      rw [hinput]
      exact hdone ((Framing.note_pktlen ..).trans hpktlen₀)
  | cut first middle last hfirst hmiddle hlast hbytes =>
    rw [usbMru_toNat] at hfirst
    rw [List.append_assoc] at hbytes
    obtain ⟨fr, hdecode, hg⟩ := decode_first hversion₀ hpktlen₀ hbytes (by simp [hlast]) hfirst hshort
    rw [← List.append_assoc] at hbytes
    obtain ⟨fr', hfeed, hg'⟩ := feed_middle hdev hversion hshort hmiddle hlast hg (by omega) hbytes
    have hframing : ((w.setDev d (·.setFraming fr')).devs d).framing = fr' := by
      simpa using MuxDevice.framing_setFraming (hg'.version.trans hversion.symm)
    obtain ⟨fr'', hdecode', hdone'⟩ := decode_last hcarries hg' (by rw [List.length_append]; omega) hbytes hlast hshort
    have hgather : feed env u (first :: middle) w = w.setDev d (·.setFraming fr') := by
      rw [← hfeed, feed, List.foldl_cons, show input env u first w = _ from deviceDataInput_none hdev hdecode]
      rfl
    have hinput : input env u last (w.setDev d (·.setFraming fr')) = _ :=
      deviceDataInput_some ((findByUsbdev_setFraming ..).trans hdev) (by rw [hframing, hdecode'])
    rw [setDev_setFraming] at hinput
    rw [hgather, hinput, hlength]
    exact ⟨⟨fr', rfl⟩, ⟨fr'', rfl⟩, hdone hdone'⟩

/-- A segment of 16384 bytes, cut after `USB_MRU` bytes: it comes as a whole behind its last 28 bytes. -/
theorem reassembly_segment :
    let w := run .quiet [.usb (.deviceAdd 5)]
    let th : TcpHdr := ⟨80, 1, 0, 1, 0x50, thAck, 1000, 0, 0⟩
    let payload := List.replicate 16384 7
    let bs := (w.devs 1).packetBytes .tcp th.bytes payload
    (∃ fr, input .quiet 5 (.ofBytes (bs.drop 16384)) (feed .quiet 5 [.ofBytes (bs.take 16384)] w) =
      (deviceTcpInput .quiet 1 th payload (w.setDev 1 (·.setFraming fr)), 16412)) := by
  intro w th payload bs
  have hversion : (w.devs 1).version = 0 := rfl
  have hlength : bs.length = 16412 := by
    rw [length_packetBytes, MuxDevice.packetLength, List.length_replicate, hversion, length_tcpHdr_bytes]
    decide
  have hsent : (sendPacket .quiet 1 .tcp th.bytes payload w).1.log = w.log ++ [.usbSend 1 bs true] := by
    unfold sendPacket
    rw [if_neg]
    · rfl
    · rw [← show bs.length = _ from length_packetBytes, hlength]
      decide
  have hsplits : Splits bs [.ofBytes (bs.take 16384)] (.ofBytes (bs.drop 16384)) := by
    refine .cut _ [] _ ?_ (by simp) ?_ ?_
    · simp [Chunk.ofBytes, hlength, usbMru_toNat]
    · simp [Chunk.ofBytes, hlength]
    · simp [Chunk.ofBytes]
  obtain ⟨-, ⟨fr, h⟩, -⟩ := reassembly (.tcp th payload) hsent hsplits .quiet (show findByUsbdev w 5 = some 1 from rfl)
    rfl rfl
  rw [hlength] at h
  exact ⟨fr, h⟩

end Usbmuxd
