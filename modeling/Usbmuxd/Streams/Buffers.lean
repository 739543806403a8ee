import Usbmuxd.Packets.Progress
import Usbmuxd.Runs.Identity
import Usbmuxd.Streams.Integrity

/-!
# Writing into buffers

Three buffers are written with lengths that a device or a client has a say in: the packet buffer
of a device, and the in-buffer and the out-buffer of a connection. Each is guarded by a comparison
of its own, on numbers of 32 bits.

## The model

* `Copy` — bytes written into a buffer; `Framing.copies`, `InCopy`, `OutCopy` — what is written
  into the three buffers, from the state in front of the step that does it.
* `Passing` — a step of a run, fine enough that a copy is the first thing a step does.
* `MuxConnection.Bounded` — the sizes of a connection's buffers are within their capacities.

## What is proved

* `decode_pktbuf`, `Passing.contained` — nothing else is written.
* `Passing.bounded` — the sizes stay within the capacities.
* `buffers_bounded` — every copy stays within its buffer, and the sums in the guards do not wrap around.
-/

namespace Usbmuxd

open World Relation

/-! ### Copies -/

/-- Bytes written into a buffer. -/
structure Copy where
  start : ℕ
  size : ℕ
  capacity : ℕ

/-- The bytes are written into the buffer, not behind it. -/
def Copy.Fits (a : Copy) : Prop := a.start + a.size ≤ a.capacity

/-- The byte at offset `i` is written. -/
def Copy.Covers (a : Copy) (i : ℕ) : Prop := a.start ≤ i ∧ i < a.start + a.size

/-- What `device_data_input` copies into the packet buffer. -/
def Framing.copies (fr : Framing) (buffer : Mem) (length : UInt32) : List Copy :=
  if length = 0 then []
  else if devMru < length then []
  else if fr.pktlen ≠ 0 then
    if devMru < length + fr.pktlen then [] else [⟨fr.pktlen.toNat, length.toNat, devMru.toNat⟩]
  else if length = usbMru ∧ length < ntohl buffer 4 then [⟨0, length.toNat, devMru.toNat⟩]
  else []

/-- What is written into the in-buffer of a connection: a payload behind what it holds, or the rest
of it moved down when the client has taken some. -/
inductive InCopy (conn : MuxConnection) : Copy → Prop where
  | append (payload : List UInt8) (hroom : conn.hasRoom payload) (hlen : payload.length ≤ devMru.toNat) :
      InCopy conn ⟨conn.ibSize.toNat, payload.length, conn.ibCapacity.toNat⟩
  | moveDown (size : ℕ) (hle : size ≤ conn.ibSize.toNat) :
      InCopy conn ⟨0, conn.ibSize.toNat - size, conn.ibCapacity.toNat⟩

/-- What is written into the out-buffer of a connection: what `client_read` returns. -/
inductive OutCopy (env : Env) (w : World) (p : Ptr) : Copy → Prop where
  | read (c : Ptr) :
      OutCopy env w p ⟨0, (clientRead env p c (w.conns p).sendable w).2.length, (w.conns p).obCapacity.toNat⟩

section PacketBuffer

variable {fr : Framing} {buffer : Mem} {length : UInt32}

theorem memcpy_of_not_covers (m : Mem) {a capacity i : ℕ} {bs : List UInt8}
    (h : ¬ (⟨a, bs.length, capacity⟩ : Copy).Covers i) : m.memcpy a bs i = m i := if_neg h

theorem decodePacket_pktbuf (fr : Framing) (m : Mem) (n : UInt32) :
    (decodePacket fr m n).framing.pktbuf = fr.pktbuf := by
  obtain ⟨rxSeq, hframing⟩ := decodePacket_framing fr m n
  rw [hframing]

/-- `device_data_input` writes nothing else into the packet buffer. -/
theorem decode_pktbuf (fr : Framing) (buffer : Mem) (length : UInt32) {i : ℕ}
    (h : ∀ a ∈ fr.copies buffer length, ¬ a.Covers i) : (decode fr buffer length).framing.pktbuf i = fr.pktbuf i := by
  have hslice : ∀ a capacity, (⟨a, length.toNat, capacity⟩ : Copy) =
      ⟨a, (buffer.slice 0 length.toNat).length, capacity⟩ := fun a capacity => by rw [Mem.length_slice]
  unfold decode
  unfold Framing.copies at h
  dsimp only
  by_cases hzero : length = 0
  · rw [if_pos hzero]
  by_cases hbig : devMru < length
  · rw [if_neg hzero, if_pos hbig]
  rw [if_neg hzero, if_neg hbig] at h ⊢
  by_cases hgathering : fr.pktlen ≠ 0
  · rw [if_pos hgathering] at h ⊢
    by_cases hover : devMru < length + fr.pktlen
    · rw [if_pos hover]
    rw [if_neg hover] at h ⊢
    have hkept := memcpy_of_not_covers fr.pktbuf (hslice .. ▸ h _ (List.mem_singleton_self _))
    by_cases hwhole : length < usbMru ∨
        ntohl (fr.pktbuf.memcpy fr.pktlen.toNat (buffer.slice 0 length.toNat)) 4 = length + fr.pktlen
    · rw [if_pos hwhole, decodePacket_pktbuf]
      exact hkept
    · rw [if_neg hwhole]
      exact hkept
  · rw [if_neg hgathering] at h ⊢
    by_cases hfirst : length = usbMru ∧ length < ntohl buffer 4
    · rw [if_pos hfirst] at h ⊢
      exact memcpy_of_not_covers fr.pktbuf (hslice .. ▸ h _ (List.mem_singleton_self _))
    · rw [if_neg hfirst, decodePacket_pktbuf]

/-- What is copied into the packet buffer fits, and the sum in its guard does not wrap around. -/
theorem copies_fit (hpktlen : fr.pktlen ≤ devMru) (hlength : length ≤ devMru) :
    (length + fr.pktlen).toNat = length.toNat + fr.pktlen.toNat ∧ ∀ a ∈ fr.copies buffer length, a.Fits := by
  have hpktlen' : fr.pktlen.toNat ≤ 65536 := UInt32.le_iff_toNat_le.mp hpktlen
  have hlength' : length.toNat ≤ 65536 := UInt32.le_iff_toNat_le.mp hlength
  have hsum : (length + fr.pktlen).toNat = length.toNat + fr.pktlen.toNat := by
    rw [UInt32.toNat_add]
    omega
  refine ⟨hsum, fun a ha => ?_⟩
  unfold Framing.copies at ha
  split_ifs at ha with _ _ _ hover
  all_goals first | cases ha; done | skip
  · obtain rfl := List.mem_singleton.mp ha
    rw [UInt32.lt_iff_toNat_lt, hsum, devMru_toNat] at hover
    change fr.pktlen.toNat + length.toNat ≤ 65536
    omega
  · obtain rfl := List.mem_singleton.mp ha
    change 0 + length.toNat ≤ 65536
    omega

end PacketBuffer

/-! ### Steps -/

/-- A step of a run: what a client brings about but an upload, or the first half of an upload. -/
inductive Passing (env : Env) : World → World → Prop where
  | talk {w w' : World} (h : Talk env w w') : Passing env w w'
  | upload (p c : Ptr) (w : World) : Passing env w (clientToDevice env p c w).1

/-- A sequence of such steps. -/
abbrev Passings (env : Env) : World → World → Prop := ReflTransGen (Passing env)

section Passings

variable {env : Env} {w w' : World}

theorem Work.passings (h : Work env w w') : Passings env w w' :=
  ReflTransGen.mono (fun _ _ h => Passing.talk (.block h)) _ _ h

theorem Turns.passings (h : Turns env w w') : Passings env w w' := by
  induction h with
  | refl => exact .refl
  | @tail v _ _ hturn ih =>
    refine ih.trans ?_
    cases hturn with
    | block h => exact .single (.talk (.block h))
    | request c tag id _ h => exact .single (.talk (.request c tag id _ h))
    | listen c _ h => exact .single (.talk (.listen c _ h))
    | upload p c => exact .single (.upload p c v)
    | failedUpload p c => exact (.trans (.single (.upload p c v)) (traffic_tearDown env p _).work.passings)

end Passings

/-! ### The buffers of a connection -/

/-- The sizes of a connection's buffers are within their capacities. -/
structure MuxConnection.Bounded (conn : MuxConnection) : Prop where
  ibSize : conn.ibSize.toNat ≤ conn.ibCapacity.toNat
  ibCapacity : conn.ibCapacity ≤ connInbufSize
  sendable : conn.sendable.toNat ≤ conn.obCapacity.toNat

namespace MuxConnection.Bounded

variable {conn conn' : MuxConnection}

theorem same (h : conn.Bounded) (hsize : conn'.ibSize = conn.ibSize) (hcap : conn'.ibCapacity = conn.ibCapacity)
    (hsendable : conn'.sendable = conn.sendable) (hob : conn'.obCapacity = conn.obCapacity) : conn'.Bounded :=
  ⟨by rw [hsize, hcap]; exact h.ibSize, hcap ▸ h.ibCapacity, by rw [hsendable, hob]; exact h.sendable⟩

theorem start (d c : Ptr) (sport dport : UInt16) : (MuxConnection.start d c sport dport).Bounded :=
  ⟨Nat.zero_le _, UInt32.le_refl _, Nat.zero_le _⟩

theorem window_le (conn : MuxConnection) : conn.window.toNat ≤ conn.obCapacity.toNat := by
  unfold window
  dsimp only
  simp only [UInt32.lt_iff_toNat_lt]
  split_ifs <;> omega

theorem refresh (h : conn.Bounded) : conn.refresh.Bounded := ⟨h.ibSize, h.ibCapacity, window_le conn⟩

theorem append (h : conn.Bounded) {payload : List UInt8} (hroom : conn.hasRoom payload)
    (hlen : payload.length ≤ devMru.toNat) : (conn.append payload).Bounded := by
  refine ⟨?_, h.ibCapacity, h.sendable⟩
  rw [toNat_ibSize_append h.ibCapacity h.ibSize hlen]
  exact (hasRoom_iff h.ibCapacity h.ibSize hlen).mp hroom

theorem consume (h : conn.Bounded) {size : ℕ} (hle : size ≤ conn.ibSize.toNat) : (conn.consume size).Bounded := by
  refine ⟨?_, h.ibCapacity, h.sendable⟩
  rw [conn.toNat_ibSize_consume hle]
  exact (Nat.sub_le _ _).trans h.ibSize

/-- A payload adds no more than can be counted. -/
theorem sum (h : conn.Bounded) {payload : List UInt8} (hlen : payload.length ≤ devMru.toNat) :
    (conn.ibSize + UInt32.ofNat payload.length).toNat = conn.ibSize.toNat + payload.length :=
  toNat_ibSize_append h.ibCapacity h.ibSize hlen

/-- What is written into the in-buffer fits. -/
theorem inCopy (h : conn.Bounded) {a : Copy} (ha : InCopy conn a) : a.Fits := by
  cases ha with
  | append payload hroom hlen => exact (hasRoom_iff h.ibCapacity h.ibSize hlen).mp hroom
  | moveDown size hle =>
    change 0 + (conn.ibSize.toNat - size) ≤ conn.ibCapacity.toNat
    have := h.ibSize
    omega

end MuxConnection.Bounded

/-- A step has written into the buffers of connection `q` what the state in front of it says. -/
structure Contained (env : Env) (w w' : World) (q : Ptr) : Prop where
  ibBuf : ∀ i, (w'.conns q).ibBuf i ≠ (w.conns q).ibBuf i → ∃ a, InCopy (w.conns q) a ∧ a.Covers i
  obBuf : ∀ i, (w'.conns q).obBuf i ≠ (w.conns q).obBuf i → ∃ a, OutCopy env w q a ∧ a.Covers i

section Contained

variable {env : Env} {w w' : World} {p q : Ptr}

theorem contained_same (hib : (w'.conns q).ibBuf = (w.conns q).ibBuf) (hob : (w'.conns q).obBuf = (w.conns q).obBuf) :
    Contained env w w' q := ⟨fun i h => absurd (congrFun hib i) h, fun i h => absurd (congrFun hob i) h⟩

/-- One connection changes. -/
theorem contained_setConn {v : World} (hconns : v.conns = w.conns) {f : MuxConnection → MuxConnection}
    (hob : (f (w.conns p)).obBuf = (w.conns p).obBuf)
    (hib : ∀ i, (f (w.conns p)).ibBuf i ≠ (w.conns p).ibBuf i → ∃ a, InCopy (w.conns p) a ∧ a.Covers i) (q : Ptr) :
    Contained env w (v.setConn p f) q := by
  by_cases hq : q = p
  · subst hq
    refine ⟨fun i h => hib i ?_, fun i h => absurd ?_ h⟩
    · simpa [hconns] using h
    · simp [hconns, hob]
  · exact contained_same (by simp [hq, hconns]) (by simp [hq, hconns])

theorem bounded_setConn {f : MuxConnection → MuxConnection} (h : ∀ q, (w.conns q).Bounded)
    (hf : (f (w.conns p)).Bounded) (q : Ptr) : ((w.setConn p f).conns q).Bounded := by
  by_cases hq : q = p
  · subst hq
    simpa using hf
  · simpa [hq] using h q

/-- A payload is written behind what the in-buffer holds. -/
theorem contained_append (conn : MuxConnection) {payload : List UInt8} (hroom : conn.hasRoom payload)
    (hlen : payload.length ≤ devMru.toNat) {i : ℕ} (h : (conn.append payload).ibBuf i ≠ conn.ibBuf i) :
    ∃ a, InCopy conn a ∧ a.Covers i :=
  ⟨_, .append payload hroom hlen, by_contra fun hno => h (memcpy_of_not_covers _ hno)⟩

/-- What is left of the in-buffer is written to its front. -/
theorem contained_consume (conn : MuxConnection) {size : ℕ} (hle : size ≤ conn.ibSize.toNat) {i : ℕ}
    (h : (conn.consume size).ibBuf i ≠ conn.ibBuf i) : ∃ a, InCopy conn a ∧ a.Covers i := by
  refine ⟨_, .moveDown size hle, Nat.zero_le _, ?_⟩
  by_contra hno
  change ¬ i < 0 + (conn.ibSize.toNat - size) at hno
  refine h ?_
  rw [MuxConnection.consume_ibBuf]
  split
  · rfl
  · rename_i hrest
    have hleft := conn.toNat_ibSize_consume hle
    rw [MuxConnection.consume_ibSize, if_neg hrest] at hleft
    rw [Mem.memmove, if_neg]
    omega

theorem sendTcp_buffers (env : Env) (p : Ptr) (flags : UInt8) (data : List UInt8) (w : World) (q : Ptr) :
    Contained env w (sendTcp env p flags data w).1 q :=
  contained_same (sendTcp_field (f := MuxConnection.ibBuf) env p w (fun _ _ => rfl) q flags data)
    (sendTcp_field (f := MuxConnection.obBuf) env p w (fun _ _ => rfl) q flags data)

theorem sendTcp_bounded (h : ∀ q, (w.conns q).Bounded) (env : Env) (p : Ptr) (flags : UInt8) (data : List UInt8)
    (q : Ptr) : ((sendTcp env p flags data w).1.conns q).Bounded :=
  (h q).same (sendTcp_field (f := MuxConnection.ibSize) env p w (fun _ _ => rfl) q flags data)
    (sendTcp_field (f := MuxConnection.ibCapacity) env p w (fun _ _ => rfl) q flags data)
    (sendTcp_field (f := MuxConnection.sendable) env p w (fun _ _ => rfl) q flags data)
    (sendTcp_field (f := MuxConnection.obCapacity) env p w (fun _ _ => rfl) q flags data)

theorem Contained.trans_same {w'' : World} (h : Contained env w w' q) (hib : (w''.conns q).ibBuf = (w'.conns q).ibBuf)
    (hob : (w''.conns q).obBuf = (w'.conns q).obBuf) : Contained env w w'' q :=
  ⟨fun i hi => h.ibBuf i (by rwa [← hib]), fun i hi => h.obBuf i (by rwa [← hob])⟩

end Contained

section Blocks

variable {env : Env} {w w' : World}

/-- A change of one connection that is none of its buffers. -/
theorem setConn_buffers {f : MuxConnection → MuxConnection} {p : Ptr} (hib : (f (w.conns p)).ibBuf = (w.conns p).ibBuf)
    (hob : (f (w.conns p)).obBuf = (w.conns p).obBuf) (q : Ptr) :
    ((w.setConn p f).conns q).ibBuf = (w.conns q).ibBuf ∧ ((w.setConn p f).conns q).obBuf = (w.conns q).obBuf := by
  by_cases hq : q = p
  · subst hq
    exact ⟨by simp [hib], by simp [hob]⟩
  · exact ⟨by simp [hq], by simp [hq]⟩

theorem ConnBlock.contained (h : ConnBlock env w w') {q : Ptr} (hq : q < w.fresh) : Contained env w w' q := by
  have hset : ∀ {p : Ptr} {f : MuxConnection → MuxConnection}, (f (w.conns p)).ibBuf = (w.conns p).ibBuf →
      (f (w.conns p)).obBuf = (w.conns p).obBuf → Contained env w (w.setConn p f) q := fun hib hob =>
    contained_same (setConn_buffers hib hob q).1 (setConn_buffers hib hob q).2
  have hanswered : ∀ p, Contained env w (sendTcp env p thAck [] (answered p w)).1 q := fun p =>
    (contained_same (setConn_buffers (w := w.emit (.synAck p)) rfl rfl q).1
      (setConn_buffers (w := w.emit (.synAck p)) rfl rfl q).2 : Contained env w (answered p w) q).trans_same
      (sendTcp_field (f := MuxConnection.ibBuf) env p _ (fun _ _ => rfl) q thAck [])
      (sendTcp_field (f := MuxConnection.obBuf) env p _ (fun _ _ => rfl) q thAck [])
  cases h with
  | packet d proto header data => exact contained_same (by rw [sendPacket_conns]) (by rw [sendPacket_conns])
  | segment p flags => exact sendTcp_buffers env p flags [] w q
  | start d c sport dport =>
    exact contained_same (by simp [allocConn_conns, hq.ne]) (by simp [allocConn_conns, hq.ne])
  | hear p th => exact hset rfl rfl
  | established p =>
    have hsent := hanswered p
    generalize (sendTcp env p thAck [] (answered p w)).1 = v at hsent ⊢
    obtain ⟨hib, hob⟩ := setConn_buffers (w := v) (p := p) (f := (·.become .connected)) rfl rfl q
    exact hsent.trans_same hib hob
  | unanswered p => exact hanswered p
  | state p s => exact hset rfl rfl
  | orphan p => exact hset rfl rfl
  | accept p payload _ _ hroom hlen =>
    have happended : Contained env w ((w.emit (.accepted p payload)).setConn p (·.append payload)) q :=
      contained_setConn (w := w) (v := w.emit _) rfl rfl (fun i hi => contained_append _ hroom hlen hi) q
    obtain ⟨hib, hob⟩ := setConn_buffers (w := (w.emit (.accepted p payload)).setConn p (·.append payload)) (p := p)
      (f := (·.refresh)) rfl rfl q
    exact happended.trans_same hib hob
  | deliver p c size _ _ hle =>
    exact contained_setConn (w := w) (v := w.tock.emit _) (f := (·.deliver size)) rfl rfl
      (fun i hi => contained_consume _ hle hi) q
  | flush p c size _ _ _ hle =>
    exact contained_setConn (w := w) (v := w.tock.emit _) (f := (·.consume size)) rfl rfl
      (fun i hi => contained_consume _ hle hi) q
  | refresh p => exact hset rfl rfl
  | _ => exact contained_same rfl rfl

theorem ConnBlock.bounded (hb : ConnBlock env w w') (h : ∀ q, (w.conns q).Bounded) (q : Ptr) : (w'.conns q).Bounded := by
  have hanswered : ∀ p q, ((sendTcp env p thAck [] (answered p w)).1.conns q).Bounded := by
    intro p
    have hshaken : ∀ q, ((answered p w).conns q).Bounded :=
      bounded_setConn (w := w.emit (.synAck p)) (f := (·.handshake)) h ((h p).same rfl rfl rfl rfl)
    exact sendTcp_bounded hshaken env p thAck []
  have hbecome : ∀ (v : World) (p : Ptr) (state : MuxConnState), (∀ q, (v.conns q).Bounded) →
      ∀ q, ((v.setConn p (·.become state)).conns q).Bounded := fun v p state hv =>
    bounded_setConn hv ((hv p).same rfl rfl rfl rfl)
  cases hb with
  | packet d proto header data => rw [sendPacket_conns]; exact h q
  | segment p flags => exact sendTcp_bounded h env p flags [] q
  | start d c sport dport =>
    by_cases hq : q = w.fresh
    · subst hq
      rw [allocConn_conns, Function.update_self]
      exact .start d c sport dport
    · rw [allocConn_conns, Function.update_of_ne hq]
      exact h q
  | hear p th => exact bounded_setConn h ((h p).same rfl rfl rfl rfl) q
  | established p => exact hbecome _ p .connected (hanswered p) q
  | unanswered p => exact hanswered p q
  | state p s => exact hbecome w p s h q
  | orphan p => exact bounded_setConn h ((h p).same rfl rfl rfl rfl) q
  | accept p payload _ _ hroom hlen =>
    have happended : ∀ q, (((w.emit (.accepted p payload)).setConn p (·.append payload)).conns q).Bounded :=
      bounded_setConn (w := w.emit (.accepted p payload)) h ((h p).append hroom hlen)
    exact bounded_setConn happended (happended p).refresh q
  | deliver p c size _ _ hle =>
    exact bounded_setConn (w := w.tock.emit _) (f := (·.deliver size)) h (((h p).consume hle).same rfl rfl rfl rfl) q
  | flush p c size _ _ _ hle =>
    exact bounded_setConn (w := w.tock.emit _) (f := (·.consume size)) h ((h p).consume hle) q
  | refresh p => exact bounded_setConn h (h p).refresh q
  | _ => exact h q

/-- What `client_read` returns is written to the front of the out-buffer, and nothing else is. -/
theorem uploading_contained (env : Env) (p c : Ptr) (w : World) (q : Ptr) :
    Contained env w (uploading p c (clientRead env p c (w.conns p).sendable w).2 w) q := by
  unfold uploading
  by_cases hq : q = p
  · subst hq
    refine ⟨fun i h => absurd (by simp) h, fun i h => ⟨_, .read c, by_contra fun hno => h ?_⟩⟩
    simpa using memcpy_of_not_covers _ hno
  · exact contained_same (by simp [hq]) (by simp [hq])

theorem clientToDevice_contained (env : Env) (p c : Ptr) (w : World) (q : Ptr) :
    Contained env w (clientToDevice env p c w).1 q := by
  by_cases hread : (clientRead env p c (w.conns p).sendable w).2 = []
  · rw [clientToDevice_none p c hread]
    have hsame := congrArg Channel.conn (clientRead_none p q c env hread)
    exact contained_same (congrArg MuxConnection.ibBuf hsame) (congrArg MuxConnection.obBuf hsame)
  · rw [clientToDevice_some p c hread]
    have hsent : Contained env w (sendTcp env p thAck _ _).1 q := (uploading_contained env p c w q).trans_same
      (sendTcp_field (f := MuxConnection.ibBuf) env p _ (fun _ _ => rfl) q thAck
        (clientRead env p c (w.conns p).sendable w).2)
      (sendTcp_field (f := MuxConnection.obBuf) env p _ (fun _ _ => rfl) q thAck
        (clientRead env p c (w.conns p).sendable w).2)
    dsimp only
    generalize sendTcp env p thAck _ _ = s at hsent ⊢
    split
    · obtain ⟨hib, hob⟩ := setConn_buffers (w := s.1) (p := p)
        (f := (·.advance (clientRead env p c (w.conns p).sendable w).2.length)) rfl rfl q
      exact hsent.trans_same hib hob
    · exact hsent

theorem clientToDevice_bounded (h : ∀ q, (w.conns q).Bounded) (env : Env) (p c q : Ptr) :
    ((clientToDevice env p c w).1.conns q).Bounded := by
  by_cases hread : (clientRead env p c (w.conns p).sendable w).2 = []
  · rw [clientToDevice_none p c hread]
    have hsame := congrArg Channel.conn (clientRead_none p q c env hread)
    exact (show (clientRead env p c (w.conns p).sendable w).1.conns q = w.conns q from hsame) ▸ h q
  · rw [clientToDevice_some p c hread]
    have hfilled : ∀ q, ((uploading p c (clientRead env p c (w.conns p).sendable w).2 w).conns q).Bounded :=
      bounded_setConn (w := w.tock.emit _) h ((h p).same rfl rfl rfl rfl)
    have hsent := sendTcp_bounded hfilled env p thAck (clientRead env p c (w.conns p).sendable w).2
    dsimp only
    generalize sendTcp env p thAck _ _ = s at hsent ⊢
    split
    · exact bounded_setConn (f := (·.advance _)) hsent ((hsent p).same rfl rfl rfl rfl) q
    · exact hsent q

/-- A step writes into the buffers of the connections there are what the state in front of it says. -/
theorem Passing.contained (h : Passing env w w') {q : Ptr} (hq : q < w.fresh) : Contained env w w' q := by
  cases h with
  | upload p c => exact clientToDevice_contained env p c w q
  | talk h =>
    cases h with
    | request c tag id => exact contained_same rfl rfl
    | listen c => exact contained_same rfl rfl
    | block h =>
      cases h with
      | device h => exact contained_same (by rw [h.frame.conns]) (by rw [h.frame.conns])
      | traffic h =>
        cases h with
        | conn h => exact h.contained hq
        | client h => exact contained_same (by rw [h.frame.conns]) (by rw [h.frame.conns])

/-- A step keeps the sizes within the capacities. -/
theorem Passing.bounded (hp : Passing env w w') (h : ∀ q, (w.conns q).Bounded) (q : Ptr) : (w'.conns q).Bounded := by
  cases hp with
  | upload p c => exact clientToDevice_bounded h env p c q
  | talk ht =>
    cases ht with
    | request c tag id => exact h q
    | listen c => exact h q
    | block hb =>
      cases hb with
      | device hb => rw [hb.frame.conns]; exact h q
      | traffic hb =>
        cases hb with
        | conn hb => exact hb.bounded h q
        | client hb => rw [hb.frame.conns]; exact h q

/-- In every state that is passed through the sizes are within the capacities. -/
theorem Passings.bounded (hp : Passings env .init w) (q : Ptr) : (w.conns q).Bounded := by
  induction hp generalizing q with
  | refl => exact (⟨by decide, by decide, by decide⟩ : (default : MuxConnection).Bounded)
  | tail _ hstep ih => exact hstep.bounded ih q

/-- What `client_read` returns fits into the out-buffer. -/
theorem outCopy_fits {p : Ptr} (h : (w.conns p).Bounded) {a : Copy} (ha : OutCopy env w p a) : a.Fits := by
  cases ha with
  | read c =>
    change 0 + (clientRead env p c (w.conns p).sendable w).2.length ≤ (w.conns p).obCapacity.toNat
    have hlen : (clientRead env p c (w.conns p).sendable w).2.length ≤ (w.conns p).sendable.toNat := by
      unfold clientRead
      split
      · exact Nat.zero_le _
      · dsimp only
        split
        · exact Nat.zero_le _
        · exact List.length_take_le _ _
    have := h.sendable
    omega

end Blocks

/-- For every sequence of transfers and everything that happens in between. In every reachable state the packet
buffers say that they hold at most what they can; a call of `device_data_input` copies into one no more than that, and
hands on no more. In every state that is passed through afterwards, within an operation or between two of them, the
sizes of a connection's buffers are within their capacities, what a step is about to write into them lies within, and a
step writes nothing else. No sum in a guard wraps around. -/
theorem buffers_bounded {env : Env} {w : World} (h : Fed env w) :
    (∀ d, (w.devs d).pktlen ≤ devMru ∧ ∀ buffer length, length ≤ devMru →
      (length + (w.devs d).pktlen).toNat = length.toNat + (w.devs d).pktlen.toNat ∧
      (∀ a ∈ (w.devs d).framing.copies buffer length, a.Fits) ∧
      (∀ i, (∀ a ∈ (w.devs d).framing.copies buffer length, ¬ a.Covers i) →
        (decode (w.devs d).framing buffer length).framing.pktbuf i = (w.devs d).pktbuf i) ∧
      ∀ call, (decode (w.devs d).framing buffer length).dispatch = some call → call.fits) ∧
    (∀ op, Passings env w (exec env w op)) ∧ ∀ v, Passings env w v → ∀ p,
      (v.conns p).ibSize ≤ (v.conns p).ibCapacity ∧ (v.conns p).sendable ≤ (v.conns p).obCapacity ∧
      (∀ payload : List UInt8, payload.length ≤ devMru.toNat →
        ((v.conns p).ibSize + UInt32.ofNat payload.length).toNat = (v.conns p).ibSize.toNat + payload.length) ∧
      (∀ a, InCopy (v.conns p) a → a.Fits) ∧ (∀ a, OutCopy env v p a → a.Fits) ∧
      ∀ v', Passing env v v' → p < v.fresh → Contained env v v' p := by
  refine ⟨fun d => ⟨h.gathered d, fun buffer length hlength => ?_⟩, fun op => ?_, fun v hv p => ?_⟩
  · obtain ⟨hsum, hfit⟩ : _ ∧ ∀ a ∈ (w.devs d).framing.copies buffer length, a.Fits :=
      copies_fit (h.gathered d) hlength
    exact ⟨hsum, hfit, fun i hi => decode_pktbuf _ _ _ hi, fun call hcall => decode_fits _ _ _ hcall⟩
  · exact (turns_exec op h.steady.1.tracked.liveLookups).passings
  · have hbounded := Passings.bounded (h.steady.2.passings.trans hv) p
    exact ⟨UInt32.le_iff_toNat_le.mpr hbounded.ibSize, UInt32.le_iff_toNat_le.mpr hbounded.sendable,
      fun payload hlen => hbounded.sum hlen, fun a ha => hbounded.inCopy ha, fun a ha => outCopy_fits hbounded ha,
      fun v' hstep hp => hstep.contained hp⟩

/-- A full transfer that starts a packet is put by in a packet buffer that is empty. -/
theorem buffers_bounded_first : (⟨0, usbMru.toNat, devMru.toNat⟩ : Copy).Fits :=
  (((buffers_bounded fed_activeDevice).1 1).2 (Chunk.ofBytes (htonl 6 ++ htonl 65536)).buffer usbMru (by decide)).2.1 _
    (List.mem_singleton_self (⟨0, usbMru.toNat, devMru.toNat⟩ : Copy))

end Usbmuxd
