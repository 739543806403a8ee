import Usbmuxd.Packets.Reassembly

/-!
# Several packets in one transfer

A device may put several packets into one transfer. `device_data_input` returns the length
in the mux header, and `device_process_sockets` calls it again behind that length. But the
payload it hands to the TCP handler is all of the buffer behind the headers, the packets
that follow included.

## The model

* `TcpPacket` — a TCP packet with a mux header that says its length.
* `coalesce` — the bytes of some packets in one transfer.
* `Separated` — the drain loop hands on each packet, with its own header and payload.

## What is proved

* `drain_calls` — what the loop hands on: every header, with its own payload and all the
  bytes behind it.
* `separated_iff` — the packets are separated exactly when there is no second one.
-/

namespace Usbmuxd

open World Relation

/-! ### Packets -/

/-- A TCP packet of a device. -/
structure TcpPacket where
  th : TcpHdr
  payload : List UInt8
  txSeq : UInt16
  rxSeq : UInt16

/-- The length of a packet, which its mux header declares. -/
def TcpPacket.length (version : ℕ) (p : TcpPacket) : ℕ := muxHeaderSize version + tcphdrSize + p.payload.length

/-- The bytes of a packet. -/
def TcpPacket.bytes (version : ℕ) (p : TcpPacket) : List UInt8 :=
  muxHeaderBytes version .tcp (p.length version) p.txSeq p.rxSeq ++ p.th.bytes ++ p.payload

/-- The bytes of a transfer with these packets. -/
def coalesce (version : ℕ) (ps : List TcpPacket) : List UInt8 := ps.flatMap (·.bytes version)

/-- A transfer of these bytes. -/
def Transfer.Holds (t : Transfer) (bs : List UInt8) : Prop := t.buffer.HoldsAt 0 bs ∧ t.size.toNat = bs.length

/-- The calls of the handlers so far. -/
def World.calls (w : World) : List Event := w.log.filter Event.isCall

/-- The call of the TCP handler for a packet. -/
def TcpPacket.call (d : Ptr) (p : TcpPacket) : Event := .tcpInput d p.th p.payload

/-- The drain loop hands on each of the packets as it is, in order, and nothing else. -/
def Separated (env : Env) (d : Ptr) (t : Transfer) (ps : List TcpPacket) (w : World) : Prop :=
  (deviceProcessSocket env d t w).calls = w.calls ++ ps.map (·.call d)

@[simp] theorem TcpPacket.length_bytes (version : ℕ) (p : TcpPacket) : (p.bytes version).length = p.length version := by
  simp [bytes, length, Nat.add_assoc]

theorem TcpPacket.length_pos (version : ℕ) (p : TcpPacket) : 0 < p.length version := by
  have := eight_le_muxHeaderSize version
  unfold length
  omega

/-! ### The loop -/

/-- The payload the loop hands on with each header: its own, and the packets behind it. -/
def handedOn (version : ℕ) (d : Ptr) : List TcpPacket → List Event
  | [] => []
  | p :: ps => .tcpInput d p.th (p.payload ++ coalesce version ps) :: handedOn version d ps

/-- Between two calls of `device_data_input` the device is found, and has gathered nothing. -/
structure Draining (version : ℕ) (d : Ptr) (u : UsbDevice) (w : World) : Prop where
  found : findByUsbdev w u = some d
  version : (w.devs d).version = version
  pktlen : (w.devs d).pktlen = 0
  alive : .freeDev d ∉ w.log

section Loop

variable (env : Env) {version : ℕ} {d : Ptr} {u : UsbDevice} {w w' : World} {p : TcpPacket} {ps : List TcpPacket}

/-- The first packet of a transfer, decoded with all that follows it. -/
theorem decode_coalesced {fr : Framing} (hpktlen : fr.pktlen = 0) {buffer : Mem} {size : UInt32}
    (hholds : buffer.HoldsAt 0 (coalesce fr.version (p :: ps)))
    (hsize : size.toNat = (coalesce fr.version (p :: ps)).length) (hmru : size ≤ deviceRxBufferSize) :
    decode fr buffer size = ⟨fr.note buffer, some (.tcp p.th (p.payload ++ coalesce fr.version ps)),
      UInt32.ofNat (p.length fr.version)⟩ := by
  have hcons : coalesce fr.version (p :: ps) = p.bytes fr.version ++ coalesce fr.version ps := rfl
  rw [hcons] at hholds hsize
  rw [List.length_append, TcpPacket.length_bytes] at hsize
  have hppos := p.length_pos fr.version
  have hlt := size.toNat_lt
  have hpos : size ≠ 0 := by
    rw [← UInt32.toNat_inj.ne, UInt32.toNat_zero]
    omega
  have hfits : ¬ devMru < size := by
    rw [UInt32.le_iff_toNat_le, show deviceRxBufferSize.toNat = 0x8008 from rfl] at hmru
    rw [UInt32.lt_iff_toNat_lt, devMru_toNat]
    omega
  have hheader : ntohl buffer 4 = UInt32.ofNat (p.length fr.version) := by
    rw [TcpPacket.bytes, Mem.HoldsAt.append, Mem.HoldsAt.append, Mem.HoldsAt.append] at hholds
    exact ntohl_length hholds.1.1.1
  have hdeclared : ¬ (size = usbMru ∧ size < ntohl buffer 4) := by
    rw [hheader, UInt32.lt_iff_toNat_lt, UInt32.toNat_ofNat']
    omega
  rw [TcpPacket.bytes, List.append_assoc] at hholds
  unfold decode
  rw [if_neg hpos, if_neg hfits, if_neg (not_not.mpr hpktlen), if_neg hdeclared]
  refine decodePacket_tcp hholds ?_ (by omega)
  rw [hsize, TcpPacket.length, List.length_append]
  omega

/-- Handling a packet leaves the device as the next one needs it. -/
theorem Draining.tcpInput (h : Draining version d u w) {fr : Framing} (hpktlen : fr.pktlen = 0) (th : TcpHdr)
    {payload : List UInt8} (hlen : payload.length ≤ devMru.toNat) :
    Draining version d u (deviceTcpInput env d th payload (w.setDev d (·.setFraming fr))) ∧
      (deviceTcpInput env d th payload (w.setDev d (·.setFraming fr))).calls = w.calls ++ [.tcpInput d th payload] := by
  have hframe := (traffic_deviceTcpInput env (w.setDev d (·.setFraming fr)) d th hlen).devices
  generalize deviceTcpInput env d th payload (w.setDev d (·.setFraming fr)) = w' at hframe ⊢
  obtain ⟨es, hlog, hkind⟩ := hframe.log
  have husb : ∀ d', (w'.devs d').usbdev = ((w.setDev d (·.setFraming fr)).devs d').usbdev := fun d' =>
    congrArg DeviceCore.usbdev (hframe.core d')
  refine ⟨⟨?_, ?_, ?_, ?_⟩, ?_⟩
  · rw [← h.found, ← findByUsbdev_setFraming w d fr u]
    unfold findByUsbdev
    simp only [husb, hframe.deviceList, emit_deviceList]
  · rw [← h.version, show (w'.devs d).version = _ from congrArg DeviceCore.version (hframe.core d)]
    simp [MuxDevice.core, MuxDevice.setFraming]
  · rw [show (w'.devs d).pktlen = _ from congrArg DeviceCore.pktlen (hframe.core d)]
    simpa [MuxDevice.core, MuxDevice.setFraming] using hpktlen
  · intro hfree
    have hold := hframe.log.old rfl hfree
    simp only [emit_log, setDev_log, List.mem_append, List.mem_singleton, reduceCtorEq, or_false] at hold
    exact h.alive hold
  · have hnocall : es.filter Event.isCall = [] := by
      refine List.filter_eq_nil_iff.mpr fun e he hcall => ?_
      have hnot : (!e.ofDevice) = true := hkind e he
      rw [e.ofDevice_of_isCall hcall] at hnot
      cases hnot
    rw [calls, hlog, List.filter_append, hnocall, List.append_nil]
    simp [calls, Event.isCall]

/-- The loop hands on every header, with its own payload and all the bytes behind it. -/
theorem drain_calls {n : ℕ} {buffer : Mem} {size : UInt32} (h : Draining version d u w)
    (hholds : buffer.HoldsAt 0 (coalesce version ps)) (hsize : size.toNat = (coalesce version ps).length)
    (hmru : size ≤ deviceRxBufferSize) (hn : size.toNat < n) :
    (drain env d u n buffer size w).calls = w.calls ++ handedOn version d ps := by
  induction ps generalizing n buffer size w with
  | nil =>
    obtain ⟨n, rfl⟩ := Nat.exists_eq_succ_of_ne_zero (Nat.ne_zero_of_lt hn)
    have hzero : size = 0 := UInt32.toNat_inj.mp hsize
    simp [drain, hzero, handedOn]
  | cons p ps ih =>
    obtain ⟨n, rfl⟩ := Nat.exists_eq_succ_of_ne_zero (Nat.ne_zero_of_lt hn)
    obtain rfl := h.version
    have hppos := p.length_pos (w.devs d).version
    have htotal : size.toNat = p.length (w.devs d).version + (coalesce (w.devs d).version ps).length := by
      rw [hsize, coalesce, List.flatMap_cons, List.length_append, TcpPacket.length_bytes]
      rfl
    have hle : size.toNat ≤ 0x8008 := UInt32.le_iff_toNat_le.mp hmru
    have hzero : size ≠ 0 := by
      rw [← UInt32.toNat_inj.ne, UInt32.toNat_zero]
      omega
    have hconsumed : (UInt32.ofNat (p.length (w.devs d).version)).toNat = p.length (w.devs d).version := by
      rw [UInt32.toNat_ofNat']
      omega
    have hdecode : decode (w.devs d).framing buffer size = ⟨(w.devs d).framing.note buffer,
        some (.tcp p.th (p.payload ++ coalesce (w.devs d).version ps)), UInt32.ofNat (p.length (w.devs d).version)⟩ :=
      decode_coalesced h.pktlen hholds hsize hmru
    have hinput : deviceDataInput env u buffer size w = _ := deviceDataInput_some h.found hdecode
    have hbuffer : transferBuffer w u buffer size = buffer := by
      unfold transferBuffer
      simp only [h.found, hdecode]
    have hlen : (p.payload ++ coalesce (w.devs d).version ps).length ≤ devMru.toNat := by
      rw [List.length_append, devMru_toNat]
      unfold TcpPacket.length at htotal
      omega
    have hdone : ((w.devs d).framing.note buffer).pktlen = 0 := (Framing.note_pktlen ..).trans h.pktlen
    obtain ⟨hnext, hcalls⟩ := h.tcpInput env hdone p.th hlen
    have hkept := World.devFreed_iff _ |>.not.mpr hnext.alive
    rw [drain, if_neg hzero]
    simp only [hinput, hbuffer, dispatch, if_neg hkept]
    split
    · -- nothing is left, so this was the last packet
      rename_i hleft
      rw [UInt32.le_iff_toNat_le, hconsumed] at hleft
      have hnil : ps = [] := by
        cases ps with
        | nil => rfl
        | cons q qs =>
          have hqpos := q.length_pos (w.devs d).version
          rw [coalesce, List.flatMap_cons, List.length_append, TcpPacket.length_bytes] at htotal
          omega
      rw [hcalls, hnil]
      rfl
    · rename_i hleft
      rw [UInt32.le_iff_toNat_le, hconsumed] at hleft
      have hsub : (size - UInt32.ofNat (p.length (w.devs d).version)).toNat =
          (coalesce (w.devs d).version ps).length := by
        rw [UInt32.toNat_sub_of_le _ _ (UInt32.le_iff_toNat_le.mpr (by omega)), hconsumed]
        omega
      have hshift : (buffer.shift (p.length (w.devs d).version)).HoldsAt 0 (coalesce (w.devs d).version ps) := by
        rw [coalesce, List.flatMap_cons, Mem.HoldsAt.append, TcpPacket.length_bytes, Nat.zero_add] at hholds
        rw [Mem.HoldsAt, Mem.slice_shift]
        exact hholds.2
      have hmru' : size - UInt32.ofNat (p.length (w.devs d).version) ≤ deviceRxBufferSize := by
        rw [UInt32.le_iff_toNat_le, hsub, show deviceRxBufferSize.toNat = 0x8008 from rfl]
        omega
      rw [hconsumed, ih hnext hshift hsub hmru' (by omega), hcalls, List.append_assoc]
      rfl

/-- What is handed on is what was sent only where nothing follows. -/
theorem handedOn_eq_iff : handedOn version d ps = ps.map (·.call d) ↔ ps.length ≤ 1 := by
  match ps with
  | [] => simp [handedOn]
  | [p] => simp [handedOn, coalesce, TcpPacket.call]
  | p :: q :: rest =>
    have hqpos := q.length_pos version
    have hrest : coalesce version (q :: rest) ≠ [] := by
      refine List.ne_nil_of_length_pos ?_
      rw [coalesce, List.flatMap_cons, List.length_append, TcpPacket.length_bytes]
      omega
    simp [handedOn, TcpPacket.call, hrest]

end Loop

/-- The packets of a transfer are separated exactly when there is no second one: the
payload handed on with the first is otherwise all that is left of the transfer. -/
theorem separated_iff (env : Env) {w : World} {d : Ptr} (hfound : findByUsbdev w (w.devs d).usbdev = some d)
    (hpktlen : (w.devs d).pktlen = 0) (halive : .freeDev d ∉ w.log)
    {t : Transfer} {ps : List TcpPacket} (hholds : t.Holds (coalesce (w.devs d).version ps)) :
    Separated env d t ps w ↔ ps.length ≤ 1 := by
  have hdrain : Draining (w.devs d).version d (w.devs d).usbdev w := ⟨hfound, rfl, hpktlen, halive⟩
  have hcalls := drain_calls env hdrain hholds.1 hholds.2 t.size_le (Nat.lt_succ_self _)
  unfold Separated deviceProcessSocket
  rw [hcalls, List.append_cancel_left_eq, handedOn_eq_iff]

/-- A segment with one byte of payload. -/
def oneByte : TcpPacket := ⟨⟨80, 1, 0, 1, 0x50, thAck, 1000, 0, 0⟩, [7], 0, 0⟩

/-- A transfer with `n` such segments for a device of version 1. -/
def oneByteTransfer (n : ℕ) (h : n ≤ 1000) : Transfer where
  buffer := (Chunk.ofBytes (coalesce 1 (List.replicate n oneByte))).buffer
  size := UInt32.ofNat (29 * n)
  size_le := by
    rw [UInt32.le_iff_toNat_le, UInt32.toNat_ofNat', Nat.mod_eq_of_lt (by omega),
      show deviceRxBufferSize.toNat = 0x8008 from rfl]
    omega

/-- A device that has said its version. -/
def activeDevice : World := run .quiet [.usb (.deviceAdd 5), .versionInput 1 ⟨1, 0, 0⟩]

theorem separated_oneByte : Separated .quiet 1 (oneByteTransfer 1 (by decide)) [oneByte] activeDevice := by
  refine (separated_iff .quiet rfl rfl (by decide +kernel) ?_).mpr le_rfl
  exact ⟨Chunk.holds _, rfl⟩

/-- Of two segments, the first is handed on with the second in its payload. -/
theorem not_separated_twoSegments :
    (activeDevice.devs 1).state = .active ∧ (activeDevice.devs 1).pktlen = 0 ∧
      (oneByteTransfer 2 (by decide)).Holds (coalesce 1 [oneByte, oneByte]) ∧
      ¬ Separated .quiet 1 (oneByteTransfer 2 (by decide)) [oneByte, oneByte] activeDevice := by
  refine ⟨rfl, rfl, ⟨Chunk.holds _, rfl⟩, ?_⟩
  unfold Separated
  decide +kernel

end Usbmuxd
