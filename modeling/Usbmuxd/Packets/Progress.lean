import Usbmuxd.Foundation.Iteration
import Usbmuxd.Packets.Bounds
import Usbmuxd.Runs.Kept
import Usbmuxd.Runs.Reachable

/-!
# Draining a transfer

`device_process_sockets` calls `device_data_input` until the number of bytes it has reported
adds up to the transfer. A packet that says that its length is `0` is one that fits, and `0` is
what is reported when it has been handed on.

## The model

* `Gathered` — no packet buffer says that it holds more than it can.
* `DrainState` — what is left of a transfer, and the world; `DrainState.next` — one round of the loop.
* `Drains` — every call reports something, and the loop ends.
* `Recognised` — a packet that is handed to a handler.

## What is proved

* `Fed.gathered` — the packet buffer never says that it holds more than it can.
* `drains_iff` — a call reports nothing exactly if it hands on a packet of length `0`, and a transfer
  is drained exactly if no call of the loop does.
* `hanging` — one such packet is enough for a loop without an end.
-/

namespace Usbmuxd

open World Relation Iteration

/-! ### The packet buffer -/

/-- No packet buffer says that it holds more than it can. -/
def Gathered (w : World) : Prop := ∀ d, (w.devs d).pktlen ≤ devMru

section Gathered

variable {env : Env} {w : World} {d : Ptr}

/-- What `device_data_input` leaves in the packet buffer fits. -/
theorem decode_pktlen {fr : Framing} (h : fr.pktlen ≤ devMru) (buffer : Mem) (length : UInt32) :
    (decode fr buffer length).framing.pktlen ≤ devMru := by
  have hpacket : ∀ (fr : Framing) (m : Mem) (n : UInt32), fr.pktlen ≤ devMru →
      (decodePacket fr m n).framing.pktlen ≤ devMru := by
    intro fr m n hfr
    obtain ⟨rxSeq, hframing⟩ := decodePacket_framing fr m n
    rwa [hframing]
  have hzero : (0 : UInt32) ≤ devMru := by decide
  unfold decode
  dsimp only
  split_ifs with _ hbig _ hover
  · exact h
  · exact h
  · exact hzero
  · exact hpacket _ _ _ hzero
  · exact UInt32.not_lt.mp hover
  · exact UInt32.not_lt.mp hbig
  · exact hpacket _ _ _ h

/-- A change of one device. -/
theorem Gathered.setDev (h : Gathered w) {f : MuxDevice → MuxDevice} (hf : (f (w.devs d)).pktlen ≤ devMru) :
    Gathered (w.setDev d f) := by
  intro d'
  by_cases hd : d' = d
  · subst hd
    simpa using hf
  · simpa [hd] using h d'

theorem kept_gathered (env : Env) : Kept env True True Gathered where
  conn hf h d := (congrArg DeviceCore.pktlen (hf.core d)).trans_le (h d)
  emit _ h := h
  recvCall _ _ _ h := h
  setClient _ _ _ h := h
  releaseClient _ h := h
  setDev d _ hf h := h.setDev ((congrArg Inlet.pktlen hf).trans_le (h d))
  framing d buffer length h := h.setDev (decode_pktlen (h d) buffer length)
  allocDev := by
    intro w u id h d
    rw [allocDev_devs]
    by_cases hd : d = w.fresh
    · rw [hd, Function.update_self]
      exact UInt32.le_iff_toNat_le.mpr (Nat.zero_le _)
    · rw [Function.update_of_ne hd]
      exact h d
  registerDev _ _ h := h
  releaseDev _ h := h

/-- The packet buffer never says that it holds more than it can. -/
theorem Fed.gathered (h : Fed env w) : Gathered w := by
  induction h with
  | init => exact fun _ => (by decide : (default : MuxDevice).pktlen ≤ devMru)
  | @exec w op _ ih =>
    by_cases hop : Kept.Ordinary op
    · exact (kept_gathered env).exec trivial trivial ih hop
    · cases op with
      | clientAccept => exact ih
      | acceptSocket u =>
        simp only [Usbmuxd.exec, deviceAcceptSocket]
        split
        · exact ih.setDev (ih _)
        · exact ih
      | setVisible id =>
        simp only [Usbmuxd.exec, deviceSetVisible]
        split
        · exact ih.setDev (ih _)
        · exact ih
      | _ => exact absurd trivial hop
  | input u buffer length _ ih => exact (kept_gathered env).upheld.deviceDataInput trivial ih u buffer length
  | tock _ ih => exact ih

end Gathered

/-! ### One call -/

section Calls

variable {env : Env} {w : World} {fr : Framing} {buffer m : Mem} {length n : UInt32}

/-- A packet is handed to a handler. -/
def Recognised (version : ℕ) (packet : Mem) (length : UInt32) : Prop :=
  ntohl packet 0 = MuxProtocol.version.code ∧ muxHeaderSize version + versionHeaderSize ≤ length.toNat ∨
    ntohl packet 0 = MuxProtocol.control.code ∨
    ntohl packet 0 = MuxProtocol.tcp.code ∧ muxHeaderSize version + tcphdrSize ≤ length.toNat

/-- What is taken apart is a packet that says that its length is `0`, and is handed on. -/
def Framing.Stuck (fr : Framing) (buffer : Mem) (length : UInt32) : Prop :=
  ∃ m n, fr.packet buffer length = some (m, n) ∧ ntohl m 4 = 0 ∧ Recognised fr.version m n

/-- A call for such a packet of a device on the list. -/
def Stuck (w : World) (u : UsbDevice) (buffer : Mem) (length : UInt32) : Prop :=
  ∃ d, findByUsbdev w u = some d ∧ (w.devs d).framing.Stuck buffer length

theorem decodePacket_consumed (hn : n ≠ 0) :
    (decodePacket fr m n).consumed = 0 ↔ ntohl m 4 = 0 ∧ Recognised fr.version m n := by
  have hhdr := muxHeaderSize_le fr.version
  have hpos : (0 : UInt32) < n := by
    rw [UInt32.lt_iff_toNat_lt, UInt32.toNat_zero]
    exact Nat.pos_of_ne_zero fun hzero => hn (UInt32.toNat_inj.mp hzero)
  have hdeclared : (if ntohl m 4 < n then ntohl m 4 else n) = 0 ↔ ntohl m 4 = 0 := by
    constructor
    · intro h
      split at h
      · exact h
      · exact absurd h hn
    · intro h
      rw [h, if_pos hpos]
  unfold decodePacket Recognised
  dsimp only
  by_cases hfits : n < ntohl m 4
  · rw [if_pos hfits]
    refine iff_of_false hn fun h => ?_
    rw [h.1] at hfits
    exact absurd hfits (UInt32.not_lt.mpr (UInt32.le_of_lt hpos))
  rw [if_neg hfits]
  by_cases hversion : ntohl m 0 = MuxProtocol.version.code
  · rw [if_pos hversion]
    have hsmall : ¬ n < UInt32.ofNat (muxHeaderSize fr.version + versionHeaderSize) ↔ _ :=
      not_lt_headers (by unfold versionHeaderSize; omega)
    by_cases hshort : n < UInt32.ofNat (muxHeaderSize fr.version + versionHeaderSize)
    · rw [if_pos hshort]
      refine iff_of_false hn fun h => ?_
      rcases h.2 with h | h | h
      · exact hsmall.mpr h.2 hshort
      · exact absurd (hversion.symm.trans h) (by decide)
      · exact absurd (hversion.symm.trans h.1) (by decide)
    · rw [if_neg hshort]
      exact hdeclared.trans ⟨fun h => ⟨h, .inl ⟨hversion, hsmall.mp hshort⟩⟩, And.left⟩
  rw [if_neg hversion]
  by_cases hcontrol : ntohl m 0 = MuxProtocol.control.code
  · rw [if_pos hcontrol]
    exact hdeclared.trans ⟨fun h => ⟨h, .inr (.inl hcontrol)⟩, And.left⟩
  rw [if_neg hcontrol]
  by_cases htcp : ntohl m 0 = MuxProtocol.tcp.code
  · rw [if_pos htcp]
    have hsmall : ¬ n < UInt32.ofNat (muxHeaderSize fr.version + tcphdrSize) ↔ _ :=
      not_lt_headers (by unfold tcphdrSize; omega)
    by_cases hshort : n < UInt32.ofNat (muxHeaderSize fr.version + tcphdrSize)
    · rw [if_pos hshort]
      refine iff_of_false hn fun h => ?_
      rcases h.2 with h | h | h
      · exact hversion h.1
      · exact hcontrol h
      · exact hsmall.mpr h.2 hshort
    · rw [if_neg hshort]
      exact hdeclared.trans ⟨fun h => ⟨h, .inr (.inr ⟨htcp, hsmall.mp hshort⟩)⟩, And.left⟩
  · rw [if_neg htcp]
    refine iff_of_false hn fun h => ?_
    rcases h.2 with h | h | h
    · exact hversion h.1
    · exact hcontrol h
    · exact htcp h.1

theorem decode_consumed (hpktlen : fr.pktlen ≤ devMru) (hlength : length ≠ 0) :
    (decode fr buffer length).consumed = 0 ↔ fr.Stuck buffer length := by
  cases hpacket : fr.packet buffer length with
  | none =>
    rw [(decode_none hpacket).2]
    refine iff_of_false hlength ?_
    rintro ⟨m, n, hsome, -⟩
    rw [hpacket] at hsome
    cases hsome
  | some packet =>
    obtain ⟨m, n⟩ := packet
    rw [decode_packet hpacket, decodePacket_consumed (fr.packet_length hpktlen hpacket).2.1, fr.opened_version]
    constructor
    · exact fun h => ⟨m, n, hpacket, h⟩
    · rintro ⟨m', n', hsome, h⟩
      rw [hpacket] at hsome
      obtain ⟨rfl, rfl⟩ := Prod.mk.inj (Option.some.inj hsome)
      exact h

/-- A call of `device_data_input` reports nothing exactly if it is for such a packet. -/
theorem deviceDataInput_consumed (h : Gathered w) (u : UsbDevice) (buffer : Mem) (hlength : length ≠ 0) :
    (deviceDataInput env u buffer length w).2 = 0 ↔ Stuck w u buffer length := by
  unfold deviceDataInput Stuck
  cases hfound : findByUsbdev w u with
  | none => exact iff_of_false hlength (by simp)
  | some d =>
    refine (decode_consumed (h d) hlength).trans ⟨fun hstuck => ⟨d, rfl, hstuck⟩, ?_⟩
    rintro ⟨d', hd, hstuck⟩
    obtain rfl := Option.some.inj hd
    exact hstuck

end Calls

/-! ### The loop -/

/-- What is left of a transfer, and the world. -/
structure DrainState where
  buffer : Mem
  size : UInt32
  world : World

section Loop

variable {env : Env} {d : Ptr} {u : UsbDevice} {s s' : DrainState} {w : World} {t : Transfer}

/-- The state in front of the next round, if there is one. -/
def DrainState.next (env : Env) (d : Ptr) (u : UsbDevice) (s : DrainState) : Option DrainState :=
  if s.size = 0 then none
  else
    let r := deviceDataInput env u s.buffer s.size s.world
    if r.1.devFreed d ∨ s.size ≤ r.2 then none
    else some ⟨(transferBuffer s.world u s.buffer s.size).shift r.2.toNat, s.size - r.2, r.1⟩

/-- The loop with a transfer of a device. -/
def DrainState.start (t : Transfer) (w : World) : DrainState := ⟨t.buffer, t.size, w⟩

/-- Every call reports something, and the loop ends. -/
structure Drains (env : Env) (d : Ptr) (t : Transfer) (w : World) : Prop where
  reports : ∀ s, Rounds (DrainState.next env d (w.devs d).usbdev) (.start t w) s → s.size ≠ 0 →
    1 ≤ (deviceDataInput env (w.devs d).usbdev s.buffer s.size s.world).2
  ends : Ends (DrainState.next env d (w.devs d).usbdev) (.start t w)

theorem DrainState.next_some (h : s.next env d u = some s') :
    s.size ≠ 0 ∧ s'.size = s.size - (deviceDataInput env u s.buffer s.size s.world).2 ∧
      (deviceDataInput env u s.buffer s.size s.world).2 < s.size ∧
      s'.world = (deviceDataInput env u s.buffer s.size s.world).1 := by
  unfold next at h
  dsimp only at h
  split at h
  · cases h
  · rename_i hsize
    split at h
    · cases h
    · rename_i hgoes
      cases h
      exact ⟨hsize, rfl, UInt32.not_le.mp (not_or.mp hgoes).2, rfl⟩

theorem one_le_iff {n : UInt32} : 1 ≤ n ↔ n ≠ 0 := by
  rw [UInt32.le_iff_toNat_le, ← UInt32.toNat_inj.ne, UInt32.toNat_zero, UInt32.toNat_one]
  omega

/-- A round that reports something leaves less of the transfer. -/
theorem DrainState.next_lt (h : s.next env d u = some s')
    (hreports : 1 ≤ (deviceDataInput env u s.buffer s.size s.world).2) : s'.size.toNat < s.size.toNat := by
  obtain ⟨-, hsize, hlt, -⟩ := DrainState.next_some h
  rw [UInt32.le_iff_toNat_le, UInt32.toNat_one] at hreports
  rw [UInt32.lt_iff_toNat_lt] at hlt
  rw [hsize, UInt32.toNat_sub_of_le _ _ (UInt32.le_iff_toNat_le.mpr hlt.le)]
  omega

/-- The rounds of the loop stay in reachable states. -/
theorem fed_rounds (h : Fed env s.world) (hrounds : Rounds (DrainState.next env d u) s s') : Fed env s'.world := by
  induction hrounds with
  | refl => exact h
  | tail _ hnext ih =>
    rw [(DrainState.next_some hnext).2.2.2]
    exact .input u _ _ ih

/-- The loop of the model makes the same rounds. -/
theorem drain_round (h : s.next env d u = some s') (n : ℕ) :
    drain env d u (n + 1) s.buffer s.size s.world = drain env d u n s'.buffer s'.size s'.world := by
  unfold DrainState.next at h
  rw [drain]
  dsimp only at h ⊢
  split at h
  · cases h
  · rename_i hsize
    split at h
    · cases h
    · rename_i hgoes
      obtain ⟨hfreed, hdone⟩ := not_or.mp hgoes
      cases h
      rw [if_neg hsize, if_neg hfreed, if_neg hdone]

/-- Where the loop ends, the count of the rounds has no influence. -/
theorem drain_last (h : s.next env d u = none) (n n' : ℕ) :
    drain env d u (n + 1) s.buffer s.size s.world = drain env d u (n' + 1) s.buffer s.size s.world := by
  unfold DrainState.next at h
  rw [drain, drain]
  dsimp only at h ⊢
  by_cases hsize : s.size = 0
  · rw [if_pos hsize, if_pos hsize]
  rw [if_neg hsize] at h ⊢
  rw [if_neg hsize]
  by_cases hfreed : (deviceDataInput env u s.buffer s.size s.world).1.devFreed d
  · rw [if_pos hfreed, if_pos hfreed]
  rw [if_neg hfreed, if_neg hfreed]
  by_cases hdone : s.size ≤ (deviceDataInput env u s.buffer s.size s.world).2
  · rw [if_pos hdone, if_pos hdone]
  · rw [if_neg (not_or.mpr ⟨hfreed, hdone⟩)] at h
    cases h

/-- The count of the rounds is large enough. -/
theorem drain_ends {n n' : ℕ} (hends : Ends (DrainState.next env d u) s)
    (hreports : ∀ s', Rounds (DrainState.next env d u) s s' → s'.size ≠ 0 →
      1 ≤ (deviceDataInput env u s'.buffer s'.size s'.world).2)
    (hn : s.size.toNat < n) (hn' : s.size.toNat < n') :
    drain env d u n s.buffer s.size s.world = drain env d u n' s.buffer s.size s.world := by
  induction hends generalizing n n' with
  | last hlast =>
    obtain ⟨n, rfl⟩ := Nat.exists_eq_succ_of_ne_zero (Nat.ne_zero_of_lt hn)
    obtain ⟨n', rfl⟩ := Nat.exists_eq_succ_of_ne_zero (Nat.ne_zero_of_lt hn')
    exact drain_last hlast n n'
  | @round s s' hround _ ih =>
    obtain ⟨n, rfl⟩ := Nat.exists_eq_succ_of_ne_zero (Nat.ne_zero_of_lt hn)
    obtain ⟨n', rfl⟩ := Nat.exists_eq_succ_of_ne_zero (Nat.ne_zero_of_lt hn')
    have hlt := DrainState.next_lt hround (hreports s .refl (DrainState.next_some hround).1)
    rw [Nat.succ_eq_add_one, Nat.succ_eq_add_one, drain_round hround, drain_round hround]
    exact ih (fun v hv => hreports v (.head hround hv)) (by omega) (by omega)

/-- A call in a reachable state reports nothing exactly if it hands on a packet that says that its length is
`0`, and a transfer is drained, whatever the count of the rounds, exactly if no call of the loop does. -/
theorem drains_iff (h : Fed env w) :
    (∀ u buffer length, length ≠ 0 →
      (1 ≤ (deviceDataInput env u buffer length w).2 ↔ ¬ Stuck w u buffer length)) ∧
    ∀ d t, (Drains env d t w ↔ ∀ s, Rounds (DrainState.next env d (w.devs d).usbdev) (.start t w) s → s.size ≠ 0 →
        ¬ Stuck s.world (w.devs d).usbdev s.buffer s.size) ∧
      (Drains env d t w → ∀ n, t.size.toNat < n →
        drain env d (w.devs d).usbdev n t.buffer t.size w = deviceProcessSocket env d t w) := by
  have hcall : ∀ (v : World), Fed env v → ∀ u buffer length, length ≠ 0 →
      (1 ≤ (deviceDataInput env u buffer length v).2 ↔ ¬ Stuck v u buffer length) :=
    fun v hv u buffer length hlength => one_le_iff.trans (deviceDataInput_consumed hv.gathered u buffer hlength).not
  refine ⟨hcall w h, fun d t => ⟨⟨fun hdrains s hs hsize => ?_, fun hnever => ?_⟩, fun hdrains n hn => ?_⟩⟩
  · exact (hcall s.world (fed_rounds h hs) _ _ _ hsize).mp (hdrains.reports s hs hsize)
  · have hreports : ∀ s, Rounds (DrainState.next env d (w.devs d).usbdev) (.start t w) s → s.size ≠ 0 →
        1 ≤ (deviceDataInput env (w.devs d).usbdev s.buffer s.size s.world).2 := fun s hs hsize =>
      (hcall s.world (fed_rounds h hs) _ _ _ hsize).mpr (hnever s hs hsize)
    refine ⟨hreports, ends_of_measure (fun s => s.size.toNat) fun s s' hs hnext => ?_⟩
    exact DrainState.next_lt hnext (hreports s hs (DrainState.next_some hnext).1)
  · exact drain_ends (s := .start t w) hdrains.ends hdrains.reports hn (Nat.lt_succ_self _)

end Loop

theorem fed_activeDevice : Fed .quiet activeDevice := run_induct .init (fun _ op h => h.exec op) _

/-- A segment is used up in one call. -/
theorem drains_oneByte : 1 ≤ (deviceDataInput .quiet 5 (oneByteTransfer 1 (by decide)).buffer 29 activeDevice).2 := by
  refine ((drains_iff fed_activeDevice).1 5 _ 29 (by decide)).mpr ?_
  rintro ⟨d, hd, m, n, hpacket, hzero, -⟩
  obtain rfl : 1 = d := Option.some.inj ((by decide +kernel : findByUsbdev activeDevice 5 = some 1).symm.trans hd)
  have hwhole : (activeDevice.devs 1).framing.packet (oneByteTransfer 1 (by decide)).buffer 29 =
      some ((oneByteTransfer 1 (by decide)).buffer, 29) := by rfl
  obtain ⟨rfl, rfl⟩ := Prod.mk.inj (Option.some.inj (hwhole.symm.trans hpacket))
  exact absurd hzero (by decide +kernel)

/-! ### A loop without an end -/

/-- A transfer with a control packet that says that its length is `0`. -/
def emptyControl : Transfer := ⟨(Chunk.ofBytes (htonl 1 ++ htonl 0)).buffer, 8, by decide⟩

/-- The device, in front of such a transfer. -/
structure Hanging (s : DrainState) : Prop where
  buffer : s.buffer = emptyControl.buffer
  size : s.size = 8
  found : findByUsbdev s.world 5 = some 1
  framing : (s.world.devs 1).framing = (activeDevice.devs 1).framing
  alive : .freeDev 1 ∉ s.world.log

/-- A round changes nothing but the log. -/
theorem Hanging.round {s : DrainState} (h : Hanging s) : ∃ s', s.next .quiet 1 5 = some s' ∧ Hanging s' := by
  obtain ⟨buffer, size, w⟩ := s
  obtain ⟨rfl, rfl, hfound, hframing, halive⟩ := h
  dsimp only at hfound hframing halive
  have hdecode : decode (w.devs 1).framing emptyControl.buffer 8 = ⟨(w.devs 1).framing, some (.control []), 0⟩ := by
    rw [hframing]
    rfl
  have hinput : deviceDataInput .quiet 5 _ _ w = _ := deviceDataInput_some hfound hdecode
  have hbuffer : transferBuffer w 5 emptyControl.buffer 8 = emptyControl.buffer := by
    unfold transferBuffer
    simp only [hfound, hdecode]
  have hsame : w.setDev 1 (·.setFraming (w.devs 1).framing) = w := by
    rw [setDev, show (w.devs 1).setFraming (w.devs 1).framing = w.devs 1 from rfl, Function.update_eq_self]
  have hlog : .freeDev 1 ∉ (deviceControlInput 1 [] w).log := by
    simpa [deviceControlInput] using halive
  rw [hsame] at hinput
  refine ⟨⟨emptyControl.buffer, 8, deviceControlInput 1 [] w⟩, ?_, rfl, rfl, hfound, hframing, hlog⟩
  unfold DrainState.next
  dsimp only
  rw [hinput, hbuffer, if_neg (by decide), if_neg]
  · have hshift : emptyControl.buffer.shift 0 = emptyControl.buffer := funext fun i => congrArg _ (Nat.zero_add i)
    change some (⟨emptyControl.buffer.shift 0, 8 - 0, deviceControlInput 1 [] w⟩ : DrainState) = _
    rw [hshift, UInt32.sub_zero]
  · rintro (hfreed | hdone)
    · exact hlog (World.devFreed_iff _ |>.mp hfreed)
    · exact absurd (show (8 : UInt32) ≤ 0 from hdone) (by decide)

/-- A control packet that says that its length is `0` is handed on, over and over: the call reports nothing, and the
loop does not end. -/
theorem hanging : (activeDevice.devs 1).state = .active ∧ emptyControl.size = 8 ∧
    ¬ Ends (DrainState.next .quiet 1 5) (.start emptyControl activeDevice) ∧
      ¬ Drains .quiet 1 emptyControl activeDevice := by
  have hstart : Hanging (.start emptyControl activeDevice) :=
    ⟨rfl, rfl, by decide +kernel, rfl, by decide +kernel⟩
  have hends : ¬ Ends (DrainState.next .quiet 1 5) (.start emptyControl activeDevice) :=
    not_ends Hanging (fun _ h => h.round) hstart
  exact ⟨rfl, rfl, hends, fun hdrains => hends hdrains.ends⟩

end Usbmuxd
