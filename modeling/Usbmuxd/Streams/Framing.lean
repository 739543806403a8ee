import Mathlib.Algebra.Group.Nat.Defs
import Usbmuxd.Foundation.Delimited
import Usbmuxd.Registry.Refinement

/-!
# The byte stream to a client

What a client receives is first a stream of messages, each with its length in front, which
wait in the reply buffer until `send` takes them; and then, once the last of them has gone
and the client is connected, the raw bytes of its device.

## The model

* `Message` — a message as it stands in the reply buffer; `parseMessages` — the messages of a
  stream, found by their length fields.
* `Mail` — what the log says about one client: what has been queued to it and what its socket
  has taken, and how large its reply buffer has become.
* `Framed` — the client's record goes with its mail.

## What is proved

* `parseMessages_flatMap` — parsing gives back the messages of a stream.
* `Mailed.turn` — every turn keeps the record and the mail in step.
* `stream_framed` — what a client has been sent, with what waits for it, is its messages and
  then the raw bytes.
* `Tunnel.turns` — a connected client stays connected, and is queued nothing more.
-/

namespace Usbmuxd

open World Relation

/-! ### Messages -/

/-- A message with its header. -/
structure Message where
  version : UInt32
  tag : UInt32
  msg : MsgType
  payload : List UInt8

namespace Message

variable (m : Message)

/-- What the log says of a message. -/
def entry : UInt32 × MsgType × List UInt8 := (m.tag, m.msg, m.payload)

/-- The bytes of a message. -/
def bytes : List UInt8 :=
  usbmuxdHeader (usbmuxdHeaderSize + UInt32.ofNat m.payload.length) m.version m.msg m.tag ++ m.payload

/-- The length of a message fits into its header. -/
def Fits : Prop := 16 + m.payload.length < 2 ^ 32

end Message

/-- The bytes of a list as a block of memory. -/
def Mem.ofList (bs : List UInt8) : Mem := fun i => bs.getD i 0

theorem Mem.holdsAt_ofList (bs rest : List UInt8) : (Mem.ofList (bs ++ rest)).HoldsAt 0 bs := by
  refine List.ext_getElem (by simp) fun i h₁ h₂ => ?_
  rw [Mem.getElem_slice, Mem.ofList, Nat.zero_add, List.getD_append _ _ _ _ h₂, List.getD_eq_getElem _ _ h₂]

/-- The length field of the first message of a stream. -/
def messageSize (bs : List UInt8) : ℕ := (readLe32 (Mem.ofList bs) 0).toNat

/-- The number, the tag and the payload of a message. -/
def readMessage (bs : List UInt8) : UInt32 × UInt32 × List UInt8 :=
  (readLe32 (Mem.ofList bs) 8, readLe32 (Mem.ofList bs) 12, bs.drop 16)

/-- The messages of a stream, found by their length fields. -/
def parseMessages (bs : List UInt8) : List (UInt32 × UInt32 × List UInt8) := (blocks messageSize bs).map readMessage

theorem length_usbmuxdHeader (length version : UInt32) (msg : MsgType) (tag : UInt32) :
    (usbmuxdHeader length version msg tag).length = 16 := by simp [usbmuxdHeader]

theorem Message.length_bytes (m : Message) : m.bytes.length = 16 + m.payload.length := by
  simp [Message.bytes, length_usbmuxdHeader]

/-- The fields of a header where it stands. -/
theorem holdsAt_header {mem : Mem} {length version tag : UInt32} {msg : MsgType} {payload : List UInt8}
    (h : mem.HoldsAt 0 (usbmuxdHeader length version msg tag ++ payload)) :
    readLe32 mem 0 = length ∧ readLe32 mem 8 = msg.code ∧ readLe32 mem 12 = tag := by
  rw [Mem.HoldsAt.append] at h
  unfold usbmuxdHeader at h
  simp only [Mem.HoldsAt.append, List.length_append, length_le32, Nat.zero_add] at h
  obtain ⟨⟨⟨⟨hlength, -⟩, hmsg⟩, htag⟩, -⟩ := h
  exact ⟨readLe32_le32 hlength, readLe32_le32 hmsg, readLe32_le32 htag⟩

theorem toNat_messageLength {n : ℕ} (h : 16 + n < 2 ^ 32) : (usbmuxdHeaderSize + UInt32.ofNat n).toNat = 16 + n := by
  simp only [usbmuxdHeaderSize, UInt32.toNat_add, UInt32.toNat_ofNat', UInt32.reduceToNat]
  omega

/-- The length of a message can be read off its front. -/
theorem delimited_messages : Delimited Message.Fits Message.bytes messageSize where
  nonempty := fun m _ hnil => by
    have hlength := m.length_bytes
    rw [hnil, List.length_nil] at hlength
    omega
  size := fun m hm rest => by
    obtain ⟨hlength, -⟩ := holdsAt_header (Mem.holdsAt_ofList m.bytes rest)
    rw [messageSize, hlength, toNat_messageLength hm, m.length_bytes]

/-- Parsing gives back the messages of a stream. -/
theorem parseMessages_flatMap {ms : List Message} (hfits : ∀ m ∈ ms, m.Fits) :
    parseMessages (ms.flatMap Message.bytes) = ms.map fun m => (m.msg.code, m.tag, m.payload) := by
  rw [parseMessages, delimited_messages.blocks hfits, List.map_map]
  refine List.map_congr_left fun m _ => ?_
  obtain ⟨-, hmsg, htag⟩ := holdsAt_header (Mem.holdsAt_ofList m.bytes [])
  rw [List.append_nil] at hmsg htag
  have hpayload : m.bytes.drop 16 = m.payload := List.drop_left' (length_usbmuxdHeader ..)
  rw [Function.comp_apply, readMessage, hmsg, htag, hpayload]

/-! ### Mail -/

/-- What the log says about a client. -/
structure Mail where
  /-- The messages that have been queued. -/
  queued : List (UInt32 × MsgType × List UInt8)
  /-- What the socket has taken. -/
  socket : List UInt8
  /-- What of it has been written with `client_write`. -/
  raw : List UInt8
  /-- The size of the reply buffer, and how much of it is used. -/
  capacity : ℕ
  used : ℕ
  /-- Every size that has been computed for the reply buffer is below `2^32`. -/
  fits : Bool

namespace Mail

/-- The client is accepted. -/
def start : Mail := ⟨[], [], [], replyBufSize.toNat, 0, true⟩

variable (m : Mail)

/-- A message is queued. -/
@[simps]
def queue (tag : UInt32) (msg : MsgType) (payload : List UInt8) : Mail :=
  { m with
    queued := m.queued ++ [(tag, msg, payload)]
    capacity :=
      if m.capacity - m.used < 16 + payload.length then (m.capacity + (16 + payload.length) + 4096) / 4096 * 4096
      else m.capacity
    used := m.used + (16 + payload.length)
    fits := m.fits && decide (m.capacity + (16 + payload.length) + 4096 < 2 ^ 32) }

/-- The socket takes bytes of the reply buffer. -/
@[simps]
def send (bs : List UInt8) : Mail := { m with socket := m.socket ++ bs, used := m.used - bs.length }

/-- The socket takes raw bytes. -/
@[simps]
def write (bs : List UInt8) : Mail := { m with socket := m.socket ++ bs, raw := m.raw ++ bs }

/-- What an entry about the client adds to its mail. -/
def next : Event → Mail
  | .newClient _ => start
  | .queued _ tag msg payload => m.queue tag msg payload
  | .sent _ bs => m.send bs
  | .wrote _ _ bs => m.write bs
  | _ => m

end Mail

/-- The client whose mail an entry is about. -/
def Event.mail? : Event → Option Ptr
  | .newClient c | .queued c _ _ _ | .sent c _ | .wrote _ c _ => some c
  | _ => none

/-- Take an entry into the mail of client `c` if it is about `c`. -/
def Mail.note (c : Ptr) (m : Mail) (e : Event) : Mail := if e.mail? = some c then m.next e else m

/-- The mail of a client. -/
def World.mail (w : World) (c : Ptr) : Mail := w.log.foldl (Mail.note c) .start

section Mail

variable {w w' : World} {c : Ptr}

theorem mail_emit (w : World) (e : Event) (c : Ptr) : (w.emit e).mail c = (w.mail c).note c e := by
  simp [World.mail]

theorem mail_same (h : w'.log = w.log) (c : Ptr) : w'.mail c = w.mail c := by rw [World.mail, World.mail, h]

/-- Entries that are about no client's mail. -/
theorem mail_grows {kind : Event → Bool} (hkind : ∀ e, kind e = true → e.mail? = none) (h : w.Grows kind w') (c : Ptr) :
    w'.mail c = w.mail c := by
  obtain ⟨es, hlog, hes⟩ := h
  rw [World.mail, World.mail, hlog, List.foldl_append]
  generalize List.foldl (Mail.note c) .start w.log = m
  clear hlog
  induction es generalizing m with
  | nil => rfl
  | cons e es ih =>
    have he : m.note c e = m := by simp [Mail.note, hkind e (hes e List.mem_cons_self)]
    rw [List.foldl_cons, he]
    exact ih (fun e' he' => hes e' (List.mem_cons_of_mem _ he')) m

end Mail

/-! ### The reply buffer -/

/-- A client with one more message in its reply buffer. -/
def MuxClient.queue (client : MuxClient) (tag : UInt32) (msg : MsgType) (payload : List UInt8) : MuxClient :=
  let length := usbmuxdHeaderSize + UInt32.ofNat payload.length
  { client with
    obBuf := some ((client.obBuf.getD default).memcpy client.obSize.toNat
      (Message.bytes ⟨client.protoVersion, tag, msg, payload⟩))
    obSize := client.obSize + length
    obCapacity :=
      if client.obCapacity - client.obSize < length then (client.obCapacity + length + 4096) / 4096 * 4096
      else client.obCapacity
    events := { client.events with pollout := true } }

/-- `send_pkt` queues a message, or leaves the clients as they are. -/
theorem sendPkt_cases (env : Env) (c : Ptr) (tag : UInt32) (msg : MsgType) (payload : List UInt8) (w : World) :
    (sendPkt env c tag msg payload w).2 = true ∧
        (sendPkt env c tag msg payload w).1.clients =
          Function.update w.clients c ((w.clients c).queue tag msg payload) ∧
        (sendPkt env c tag msg payload w).1.log = w.log ++ [.queued c tag msg payload] ∨
      (sendPkt env c tag msg payload w).2 = false ∧ (sendPkt env c tag msg payload w).1.clients = w.clients ∧
        w.Grows (fun e => e == .fault .nullObBuf) (sendPkt env c tag msg payload w).1 := by
  unfold sendPkt enlargeOutBuffer
  dsimp only
  by_cases hroom : (w.clients c).obCapacity - (w.clients c).obSize < usbmuxdHeaderSize + UInt32.ofNat payload.length
  · rw [if_pos hroom]
    by_cases hok : env.realloc w.tick = true
    · left
      simp [hok, hroom, MuxClient.queue, Message.bytes]
    · right
      simp [hok, World.Grows]
  · rw [if_neg hroom]
    cases hob : (w.clients c).obBuf with
    | none =>
      right
      simp [World.Grows]
    | some ob =>
      left
      simp [hob, hroom, MuxClient.queue, Message.bytes]

/-- A plist that is sent is one message in the reply buffer. -/
theorem sendPlistPkt_log {env : Env} {c : Ptr} {tag : UInt32} {plist : Plist} {w : World}
    (h : (sendPlistPkt env c tag plist w).2 = true) :
    ∃ xml, (sendPlistPkt env c tag plist w).1.log = w.log ++ [.queued c tag .plist xml] := by
  unfold sendPlistPkt at h ⊢
  split at h
  · cases h
  · rename_i xml _
    rcases sendPkt_cases env c tag .plist xml w.tock with ⟨-, -, hlog⟩ | ⟨hfail, -⟩
    · exact ⟨xml, hlog⟩
    · rw [hfail] at h
      cases h

/-- A result that is sent is one message in the reply buffer. -/
theorem sendResult_log {env : Env} {c : Ptr} {tag result : UInt32} {w : World}
    (h : (sendResult env c tag result w).2 = true) :
    ∃ msg payload, (sendResult env c tag result w).1.log = w.log ++ [.queued c tag msg payload] := by
  unfold sendResult at h ⊢
  split at h
  · rename_i hplist
    rw [if_pos hplist]
    exact ⟨.plist, sendPlistPkt_log h⟩
  · rename_i hbinary
    rw [if_neg hbinary]
    rcases sendPkt_cases env c tag .result (le32 result) w with ⟨-, -, hlog⟩ | ⟨hfail, -⟩
    · exact ⟨.result, _, hlog⟩
    · rw [hfail] at h
      cases h

/-- The bytes that wait in the reply buffer. -/
def MuxClient.pending (client : MuxClient) : List UInt8 := (client.obBuf.getD default).slice 0 client.obSize.toNat

/-- A client's record goes with its mail. -/
structure Framed (client : MuxClient) (m : Mail) : Prop where
  capacity : client.obCapacity.toNat = m.capacity
  used : client.obSize.toNat = m.used
  room : m.used ≤ m.capacity
  stream : ∃ ms : List Message, ms.map Message.entry = m.queued ∧ (∀ x ∈ ms, x.Fits) ∧
    m.socket ++ client.pending = ms.flatMap Message.bytes ++ m.raw
  quiet : client.state ≠ .connected → m.raw = []
  spent : client.state = .connected → client.obSize = 0

namespace Framed

variable {client client' : MuxClient} {m : Mail}

theorem start : Framed .start .start where
  capacity := rfl
  used := rfl
  room := Nat.zero_le _
  stream := ⟨[], rfl, by simp, rfl⟩
  quiet := fun _ => rfl
  spent := fun _ => rfl

/-- A step that does not touch the reply buffer, or the client's being connected. -/
theorem same (h : Framed client m) (hcapacity : client'.obCapacity = client.obCapacity)
    (hsize : client'.obSize = client.obSize) (hbuf : client'.obBuf = client.obBuf)
    (hstate : client'.state = .connected ↔ client.state = .connected) : Framed client' m where
  capacity := by rw [hcapacity, h.capacity]
  used := by rw [hsize, h.used]
  room := h.room
  stream := by
    have hpending : client'.pending = client.pending := by rw [MuxClient.pending, MuxClient.pending, hbuf, hsize]
    rw [hpending]
    exact h.stream
  quiet := fun hc => h.quiet fun hc' => hc (hstate.mpr hc')
  spent := fun hc => hsize.trans (h.spent (hstate.mp hc))

/-- A message is queued. -/
theorem queue (h : Framed client m) {tag : UInt32} {msg : MsgType} {payload : List UInt8}
    (hfits : (m.queue tag msg payload).fits = true) (hstate : client.state ≠ .connected) :
    Framed (client.queue tag msg payload) (m.queue tag msg payload) := by
  obtain ⟨ms, hms, hsmall, hstream⟩ := h.stream
  have hbound : m.capacity + (16 + payload.length) + 4096 < 2 ^ 32 := by
    simp only [Mail.queue_fits, Bool.and_eq_true, decide_eq_true_eq] at hfits
    exact hfits.2
  have hlength : (usbmuxdHeaderSize + UInt32.ofNat payload.length).toNat = 16 + payload.length :=
    toNat_messageLength (by omega)
  have hcapacity := h.capacity
  have hused := h.used
  have hroom := h.room
  have hfree : (client.obCapacity - client.obSize).toNat = m.capacity - m.used := by
    rw [UInt32.toNat_sub_of_le _ _ (UInt32.le_iff_toNat_le.mpr (by omega)), hcapacity, hused]
  have hless : client.obCapacity - client.obSize < usbmuxdHeaderSize + UInt32.ofNat payload.length ↔
      m.capacity - m.used < 16 + payload.length := by rw [UInt32.lt_iff_toNat_lt, hfree, hlength]
  have hsize : (client.obSize + (usbmuxdHeaderSize + UInt32.ofNat payload.length)).toNat =
      m.used + (16 + payload.length) := by
    rw [UInt32.toNat_add, hlength, hused, Nat.mod_eq_of_lt (by omega)]
  have hlong : (Message.bytes ⟨client.protoVersion, tag, msg, payload⟩).length = 16 + payload.length :=
    Message.length_bytes _
  refine ⟨?_, hsize, ?_, ⟨ms ++ [⟨client.protoVersion, tag, msg, payload⟩], ?_, ?_, ?_⟩, h.quiet, fun hc => absurd hc hstate⟩
  · simp only [MuxClient.queue, Mail.queue_capacity, hless]
    split
    · rw [UInt32.toNat_mul, UInt32.toNat_div, UInt32.toNat_add, UInt32.toNat_add, hlength, hcapacity]
      simp only [UInt32.reduceToNat]
      omega
    · exact hcapacity
  · simp only [Mail.queue_used, Mail.queue_capacity]
    split <;> omega
  · simp [hms, Message.entry]
  · intro x hx
    rcases List.mem_append.mp hx with hx | hx
    · exact hsmall x hx
    · obtain rfl := List.mem_singleton.mp hx
      show 16 + payload.length < 2 ^ 32
      omega
  · have hpending : (client.queue tag msg payload).pending =
        client.pending ++ Message.bytes ⟨client.protoVersion, tag, msg, payload⟩ := by
      unfold MuxClient.pending
      rw [show (client.queue tag msg payload).obSize.toNat = _ from hsize, ← hused, ← hlong]
      exact Mem.slice_memcpy_append ..
    rw [hpending, Mail.queue_socket, Mail.queue_raw, ← List.append_assoc, hstream, h.quiet hstate]
    simp

/-- `send` takes bytes of the reply buffer. -/
theorem reply (h : Framed client m) {size : ℕ} (hpos : 0 < size) (hle : size ≤ client.obSize.toNat) :
    Framed (client.afterSend size) (m.send ((client.obBuf.getD default).slice 0 size)) := by
  have hstate : client.state ≠ .connected := by
    intro hc
    rw [h.spent hc] at hle
    exact absurd hle (Nat.not_le.mpr hpos)
  have hraw := h.quiet hstate
  obtain ⟨ms, hms, hsmall, hstream⟩ := h.stream
  have hused := h.used
  have hcut : client.pending = (client.obBuf.getD default).slice 0 size ++
      (client.obBuf.getD default).slice size (client.obSize.toNat - size) := by
    unfold MuxClient.pending
    conv_lhs => rw [← Nat.add_sub_cancel' hle]
    rw [Mem.slice_add, Nat.zero_add]
  rw [hcut, ← List.append_assoc] at hstream
  have hcapacity : (client.afterSend size).obCapacity = client.obCapacity := by
    unfold MuxClient.afterSend
    split
    · split <;> rfl
    · rfl
  have hsize : (client.afterSend size).obSize.toNat = client.obSize.toNat - size := by
    unfold MuxClient.afterSend
    split
    · rename_i hall
      split <;> simp [hall]
    · show (client.obSize - UInt32.ofNat size).toNat = _
      have hsmall : (UInt32.ofNat size).toNat = size := by
        rw [UInt32.toNat_ofNat', Nat.mod_eq_of_lt (hle.trans_lt client.obSize.toNat_lt)]
      rw [UInt32.toNat_sub_of_le _ _ (UInt32.le_iff_toNat_le.mpr (by omega)), hsmall]
  have hpending : (client.afterSend size).pending =
      (client.obBuf.getD default).slice size (client.obSize.toNat - size) := by
    by_cases hall : size = client.obSize.toNat
    · rw [MuxClient.pending, hsize, hall, Nat.sub_self]
      simp
    · have hbuf : (client.afterSend size).obBuf =
          some ((client.obBuf.getD default).memmove size (client.obSize.toNat - size)) := by
        rw [← hsize]
        simp only [MuxClient.afterSend, if_neg hall]
      rw [MuxClient.pending, hsize, hbuf, Option.getD_some, Mem.slice_memmove]
  refine ⟨by rw [hcapacity]; exact h.capacity, ?_, ?_, ⟨ms, hms, hsmall, ?_⟩, fun _ => hraw, fun hc => ?_⟩
  · rw [hsize, Mail.send_used, Mem.length_slice, hused]
  · have hroom := h.room
    simp only [Mail.send_used, Mail.send_capacity]
    omega
  · rw [hpending, Mail.send_socket, Mail.send_raw, hstream]
  · unfold MuxClient.afterSend at hc ⊢
    split at hc
    · rename_i hall
      rw [if_pos hall]
      split <;> rfl
    · exact absurd hc hstate

/-- Raw bytes of the device are written. -/
theorem write (h : Framed client m) (hstate : client.state = .connected) (bs : List UInt8) :
    Framed client (m.write bs) where
  capacity := h.capacity
  used := h.used
  room := h.room
  stream := by
    obtain ⟨ms, hms, hsmall, hstream⟩ := h.stream
    have hnone : client.pending = [] := by rw [MuxClient.pending, h.spent hstate]; rfl
    rw [hnone, List.append_nil] at hstream ⊢
    exact ⟨ms, hms, hsmall, by rw [Mail.write_socket, Mail.write_raw, hstream, List.append_assoc]⟩
  quiet := fun hc => absurd hstate hc
  spent := h.spent

end Framed

/-! ### Steps -/

/-- Once a client has been accepted, its address is used up, and its record goes with its mail as long
as the sizes fit. -/
def Mailed (c : Ptr) (w : World) : Prop :=
  .newClient c ∈ w.log → c < w.fresh ∧ ((w.mail c).fits = true → Framed (w.clients c) (w.mail c))

section Steps

variable {env : Env} {w w' : World} {c : Ptr}

/-- Nothing happens to the client or its mail. -/
theorem Mailed.same (h : Mailed c w) (hfresh : w.fresh ≤ w'.fresh) (hclient : w'.clients c = w.clients c)
    (hmail : w'.mail c = w.mail c) (hnew : .newClient c ∈ w'.log → .newClient c ∈ w.log) : Mailed c w' := fun hmem => by
  obtain ⟨hborn, hframed⟩ := h (hnew hmem)
  refine ⟨hborn.trans_le hfresh, fun hfits => ?_⟩
  rw [hclient, hmail]
  exact hframed (hmail ▸ hfits)

/-- Nothing that the mail depends on happens to a client. -/
theorem Mailed.setClient (h : Mailed c w) (c' : Ptr) {f : MuxClient → MuxClient}
    (hcapacity : (f (w.clients c')).obCapacity = (w.clients c').obCapacity)
    (hsize : (f (w.clients c')).obSize = (w.clients c').obSize) (hbuf : (f (w.clients c')).obBuf = (w.clients c').obBuf)
    (hstate : (f (w.clients c')).state = .connected ↔ (w.clients c').state = .connected) :
    Mailed c (w.setClient c' f) := by
  by_cases hc : c = c'
  · subst hc
    intro hmem
    refine ⟨(h hmem).1, fun hfits => ?_⟩
    rw [setClient_clients, Function.update_self]
    exact ((h hmem).2 hfits).same hcapacity hsize hbuf hstate
  · exact h.same le_rfl (by simp [hc]) rfl id

theorem mail_isSending (e : Event) (h : e.isSending = true) : e.mail? = none := by
  cases e <;> simp_all [Event.isSending, Event.mail?]

theorem mail_ofDevice (e : Event) (h : e.ofDevice = true) : e.mail? = none := by
  cases e <;> simp_all [Event.ofDevice, Event.mail?]

theorem mail_isClientNote (e : Event) (h : e.isClientNote = true) : e.mail? = none := by
  cases e <;> simp_all [Event.isClientNote, Event.mail?]

/-- An entry that is about no client's mail. -/
theorem mail_emit_none (w : World) {e : Event} (h : e.mail? = none) (c : Ptr) : (w.emit e).mail c = w.mail c := by
  rw [mail_emit, Mail.note, h, if_neg (by simp)]

theorem mail_sendTcp (env : Env) (p : Ptr) (flags : UInt8) (data : List UInt8) (w : World) (c : Ptr) :
    (sendTcp env p flags data w).1.mail c = w.mail c :=
  mail_grows mail_isSending (sendTcp_log env p w flags data) c

/-- A step on connections leaves a client's mail as it is, or writes raw bytes to a connected client. -/
theorem ConnBlock.mail (h : ConnBlock env w w') (c : Ptr) :
    w'.mail c = w.mail c ∨ (w.clients c).state = .connected ∧ ∃ bs, w'.mail c = (w.mail c).write bs := by
  have hwrote : ∀ {v : World} {p c' : Ptr} {bs : List UInt8} (_ : (w.clients c').state = .connected)
      (_ : v.log = w.log ++ [.wrote p c' bs]),
      v.mail c = w.mail c ∨ (w.clients c).state = .connected ∧ ∃ bs, v.mail c = (w.mail c).write bs := by
    intro v p c' bs hclient hlog
    have hmail : v.mail c = (w.mail c).note c (.wrote p c' bs) := by simp [World.mail, hlog]
    by_cases hc : c' = c
    · subst hc
      exact .inr ⟨hclient, bs, by simpa [Mail.note, Event.mail?, Mail.next] using hmail⟩
    · exact .inl (by simpa [Mail.note, Event.mail?, hc] using hmail)
  cases h with
  | fault f => exact .inl (mail_emit_none w rfl c)
  | outOfFuel l => exact .inl (mail_emit_none w rfl c)
  | packet d proto header data =>
    left
    unfold sendPacket
    split
    · rfl
    · exact (mail_emit_none _ rfl c).trans (mail_same rfl c)
  | segment p flags => exact .inl (mail_sendTcp env p flags [] w c)
  | start d c' sport dport => exact .inl (mail_emit_none w rfl c)
  | established p =>
    have hsent := (mail_sendTcp env p thAck [] (answered p w) c).trans (mail_emit_none w rfl c)
    generalize (sendTcp env p thAck [] (answered p w)).1 = v at hsent ⊢
    exact .inl ((mail_same rfl c).trans hsent)
  | unanswered p => exact .inl ((mail_sendTcp env p thAck [] (answered p w) c).trans (mail_emit_none w rfl c))
  | accept p payload => exact .inl (mail_emit_none w rfl c)
  | overflow p payload => exact .inl (mail_emit_none w rfl c)
  | deliver p c' size _ _ _ hclient => exact hwrote hclient rfl
  | flush p c' size _ _ _ _ hclient => exact hwrote hclient rfl
  | release p => exact .inl (mail_emit_none _ rfl c)
  | free p => exact .inl (mail_emit_none w rfl c)
  | _ => exact .inl (mail_same rfl c)

theorem Mailed.connBlock (h : Mailed c w) (hb : ConnBlock env w w') : Mailed c w' := by
  have hf := hb.frame
  have hfresh : w.fresh ≤ w'.fresh := Block.fresh (.traffic (.conn hb))
  have hnew : .newClient c ∈ w'.log → .newClient c ∈ w.log := hf.log.old rfl
  rcases hb.mail c with hmail | ⟨hstate, bs, hmail⟩
  · exact h.same hfresh (by rw [hf.clients]) hmail hnew
  · intro hmem
    refine ⟨(h (hnew hmem)).1.trans_le hfresh, fun hfits => ?_⟩
    rw [hf.clients, hmail]
    exact ((h (hnew hmem)).2 (by simpa [hmail] using hfits)).write hstate bs

theorem Mailed.deviceBlock (h : Mailed c w) (hb : DeviceBlock w w') : Mailed c w' := by
  have hf := hb.frame
  have hblock : Block .quiet w w' := .device hb
  exact h.same hblock.fresh (by rw [hf.clients]) (mail_grows mail_ofDevice hf.log c) (hf.log.old rfl)

/-- A client is accepted. -/
theorem Mailed.accept (h : Mailed c w) : Mailed c (registerClient w) := by
  have hmail : (registerClient w).mail c = (w.mail c).note c (.newClient w.fresh) := by simp [World.mail]
  by_cases hc : w.fresh = c
  · subst hc
    intro _
    refine ⟨Nat.lt_succ_self _, fun _ => ?_⟩
    rw [hmail, registerClient_clients, Function.update_self]
    simpa [Mail.note, Event.mail?, Mail.next] using Framed.start
  · refine h.same (Nat.le_succ _) (by simp [Ne.symm hc]) (by simpa [Mail.note, Event.mail?, hc] using hmail) fun hmem => ?_
    simpa [Ne.symm hc] using hmem

/-- A message is queued to a client, or is not. -/
theorem Mailed.send (h : Mailed c w) {c' : Ptr} (hstate : (w.clients c').state ≠ .connected) (tag : UInt32)
    (msg : MsgType) (payload : List UInt8) : Mailed c (sendPkt env c' tag msg payload w).1 := by
  have hfresh : w.fresh ≤ (sendPkt env c' tag msg payload w).1.fresh :=
    (congrArg Registry.fresh (registry_sendPkt env c' w tag msg payload)).ge
  rcases sendPkt_cases env c' tag msg payload w with ⟨-, hclients, hlog⟩ | ⟨-, hclients, hlog⟩
  · have hmail : (sendPkt env c' tag msg payload w).1.mail c = (w.mail c).note c (.queued c' tag msg payload) := by
      simp [World.mail, hlog]
    by_cases hc : c' = c
    · subst hc
      intro hmem
      have hmem' : .newClient c' ∈ w.log := by simpa [hlog] using hmem
      refine ⟨(h hmem').1.trans_le hfresh, fun hfits => ?_⟩
      have hqueue : (sendPkt env c' tag msg payload w).1.mail c' = (w.mail c').queue tag msg payload := by
        simpa [Mail.note, Event.mail?, Mail.next] using hmail
      rw [hqueue] at hfits ⊢
      rw [hclients, Function.update_self]
      have hold : (w.mail c').fits = true := by
        simp only [Mail.queue_fits, Bool.and_eq_true] at hfits
        exact hfits.1
      exact ((h hmem').2 hold).queue hfits hstate
    · exact h.same hfresh (by simp [hclients, Ne.symm hc]) (by simpa [Mail.note, Event.mail?, hc] using hmail)
        fun hmem => by simpa [hlog] using hmem
  · refine h.same hfresh (by rw [hclients]) (mail_grows ?_ hlog c) (hlog.old rfl)
    intro e he
    rw [eq_of_beq he]
    rfl

theorem Mailed.clientBlock (h : Mailed c w) (hb : ClientBlock env w w') : Mailed c w' := by
  cases hb with
  | note e _ he =>
    refine h.same le_rfl rfl (mail_emit_none w (mail_isClientNote e he) c) fun hmem => ?_
    refine (List.mem_append.mp hmem).resolve_right fun hnew => ?_
    rw [← List.mem_singleton.mp hnew] at he
    cases he
  | accept => exact h.accept
  | send c' tag msg payload _ hstate => exact h.send hstate tag msg payload
  | setEvents c' events =>
    unfold clientSetEvents
    split
    · exact h.setClient c' rfl rfl rfl Iff.rfl
    · exact h.setClient c' rfl rfl rfl Iff.rfl
    · exact h
  | connecting2 c' _ hs => exact h.setClient c' rfl rfl rfl (by simp [hs])
  | command c' _ hs => exact h.setClient c' rfl rfl rfl (by simp [hs])
  | dead c' _ hs => exact h.setClient c' rfl rfl rfl (by rcases hs with hs | hs <;> simp [hs])
  | plistVersion c' => exact h.setClient c' rfl rfl rfl Iff.rfl
  | idle c' => exact h.setClient c' rfl rfl rfl Iff.rfl
  | reply c' size _ hpos hle =>
    have hmail : ∀ bs, ((w.tock.emit (.sent c' bs)).setClient c' (·.afterSend size)).mail c =
        (w.mail c).note c (.sent c' bs) := fun bs => by simp [World.mail]
    by_cases hc : c' = c
    · subst hc
      intro hmem
      obtain ⟨hborn, hframed⟩ := h (by simpa using hmem)
      refine ⟨hborn, fun hfits => ?_⟩
      have hsend := hmail (((w.clients c').obBuf.getD default).slice 0 size)
      replace hsend := hsend.trans (if_pos rfl : _ = (w.mail c').send (((w.clients c').obBuf.getD default).slice 0 size))
      rw [hsend] at hfits ⊢
      rw [setClient_clients, Function.update_self]
      exact (hframed hfits).reply hpos hle
    · refine h.same le_rfl (by simp [Ne.symm hc]) ?_ fun hmem => by simpa using hmem
      rw [hmail, Mail.note, if_neg (by simpa [Event.mail?] using hc)]
  | recv c' len =>
    unfold recvCommandBytes
    split
    · exact h
    · exact Mailed.setClient (w := w.tock) h c' rfl rfl rfl Iff.rfl
  | done c' => exact h.setClient c' rfl rfl rfl Iff.rfl
  | release c' =>
    refine h.same le_rfl rfl ?_ fun hmem => by simpa using hmem
    simp [World.mail, Mail.note, Event.mail?]

theorem Mailed.block (h : Mailed c w) (hb : Block env w w') : Mailed c w' := by
  cases hb with
  | traffic hb =>
    cases hb with
    | conn hb => exact h.connBlock hb
    | client hb => exact h.clientBlock hb
  | device hb => exact h.deviceBlock hb

theorem Mailed.work (h : Mailed c w) (hw : Work env w w') : Mailed c w' := by
  induction hw with
  | refl => exact h
  | tail _ hb ih => exact ih.block hb

/-- Bytes read from a client and sent to its device. -/
theorem mail_clientToDevice (env : Env) (p c' : Ptr) (w : World) (c : Ptr) :
    (clientToDevice env p c' w).1.mail c = w.mail c := by
  have hread : (clientRead env p c' (w.conns p).sendable w).1.mail c = w.mail c := by
    unfold clientRead
    split
    · rfl
    · dsimp only
      split
      · rfl
      · exact mail_emit_none w.tock rfl c
  unfold clientToDevice
  dsimp only
  split
  · exact hread
  · have hsent := fun data => mail_sendTcp env p thAck data
      ((clientRead env p c' (w.conns p).sendable w).1.setConn p (·.fill (clientRead env p c' (w.conns p).sendable w).2)) c
    split
    · exact (hsent _).trans hread
    · exact (hsent _).trans hread

/-- A turn keeps a client's record and its mail in step. -/
theorem Mailed.turn (h : Mailed c w) (ht : Turn env w w') : Mailed c w' := by
  have hupload : ∀ p c', Mailed c (clientToDevice env p c' w).1 := by
    intro p c'
    have hf := ConnFrame.clientToDevice env p c' w
    exact h.same (congrArg Registry.fresh (registry_clientToDevice env p c' w)).ge (by rw [hf.clients])
      (mail_clientToDevice env p c' w c) (hf.log.old rfl)
  cases ht with
  | block hb => exact h.block hb
  | request c' tag id _ hs => exact h.setClient c' rfl rfl rfl (by simp [hs])
  | listen c' _ hs => exact h.setClient c' rfl rfl rfl (by simp [hs])
  | upload p c' => exact hupload p c'
  | failedUpload p c' => exact (hupload p c').work (traffic_tearDown env p _).work

theorem Mailed.turns (h : Mailed c w) (ht : Turns env w w') : Mailed c w' := by
  induction ht with
  | refl => exact h
  | tail _ hturn ih => exact ih.turn hturn

/-! ### Connected clients -/

/-- The client is connected, and these messages have been queued to it. -/
structure Tunnel (c : Ptr) (queued : List (UInt32 × MsgType × List UInt8)) (w : World) : Prop where
  born : c < w.fresh
  state : (w.clients c).state = .connected
  queued : (w.mail c).queued = queued

namespace Tunnel

variable {queued : List (UInt32 × MsgType × List UInt8)}

theorem setClient (h : Tunnel c queued w) (c' : Ptr) {f : MuxClient → MuxClient}
    (hstate : (w.clients c').state = .connected → (f (w.clients c')).state = .connected) :
    Tunnel c queued (w.setClient c' f) := by
  refine ⟨h.born, ?_, h.queued⟩
  by_cases hc : c = c'
  · subst hc
    simpa using hstate h.state
  · simpa [hc] using h.state

theorem clientBlock (h : Tunnel c queued w) (hb : ClientBlock env w w') : Tunnel c queued w' := by
  have hne : ∀ {c' : Ptr} {s : ClientState}, (w.clients c').state = s → s ≠ .connected →
      ∀ {f : MuxClient → MuxClient}, Tunnel c queued (w.setClient c' f) := fun hs hother =>
    h.setClient _ fun hc => absurd (hs.symm.trans hc) hother
  have hreg : w'.registry = w.registry → (w'.clients c).state = .connected := fun hreg =>
    (state_eq hreg c).trans h.state
  cases hb with
  | note e _ he =>
    exact ⟨h.born, h.state, (congrArg Mail.queued (mail_emit_none w (mail_isClientNote e he) c)).trans h.queued⟩
  | accept =>
    have hc : w.fresh ≠ c := h.born.ne'
    refine ⟨Nat.lt_succ_of_lt h.born, by simpa [hc.symm] using h.state, ?_⟩
    have hmail : (registerClient w).mail c = (w.mail c).note c (.newClient w.fresh) := by simp [World.mail]
    rw [hmail, Mail.note, if_neg (by simpa [Event.mail?] using hc), h.queued]
  | send c' tag msg payload _ hstate =>
    have hc : c' ≠ c := by
      rintro rfl
      exact hstate h.state
    refine ⟨h.born.trans_le (Block.fresh (.traffic (.client (.send c' tag msg payload w hstate)))), ?_, ?_⟩
    · exact hreg (registry_sendPkt env c' w tag msg payload)
    · rcases sendPkt_cases env c' tag msg payload w with ⟨-, -, hlog⟩ | ⟨-, -, hlog⟩
      · have hmail : (sendPkt env c' tag msg payload w).1.mail c = (w.mail c).note c (.queued c' tag msg payload) := by
          simp [World.mail, hlog]
        rw [hmail, Mail.note, if_neg (by simpa [Event.mail?] using hc), h.queued]
      · rw [mail_grows (fun e he => by rw [eq_of_beq he]; rfl) hlog c, h.queued]
  | setEvents c' events =>
    have hblock : Block env w (clientSetEvents c' events w) := .traffic (.client (.setEvents c' events w))
    refine ⟨h.born.trans_le hblock.fresh, ?_, ?_⟩
    · exact hreg (registry_clientSetEvents c' w events)
    · rw [mail_same (clientSetEvents_log c' w events), h.queued]
  | connecting2 c' _ hs => exact hne hs (by decide)
  | command c' _ hs => exact hne hs (by decide)
  | dead c' _ hs => rcases hs with hs | hs <;> exact hne hs (by decide)
  | plistVersion c' => exact h.setClient c' id
  | idle c' => exact h.setClient c' id
  | reply c' size =>
    have hafter : (w.clients c').state = .connected → ((w.clients c').afterSend size).state = .connected := by
      intro hs
      unfold MuxClient.afterSend
      split
      · rw [if_neg (by rw [hs]; decide)]
        exact hs
      · exact hs
    have hsent : ∀ bs, Tunnel c queued (w.tock.emit (.sent c' bs)) := by
      refine fun bs => ⟨h.born, h.state, ?_⟩
      rw [mail_emit, Mail.note]
      split
      · exact h.queued
      · exact h.queued
    exact (hsent _).setClient c' hafter
  | recv c' len =>
    refine ⟨h.born.trans_le (Block.fresh (.traffic (.client (.recv c' len w)))), ?_, ?_⟩
    · exact hreg (registry_recvCommandBytes env c' w len)
    · have hlog : (recvCommandBytes env c' len w).1.log = w.log := by
        unfold recvCommandBytes
        split <;> rfl
      rw [mail_same hlog, h.queued]
  | done c' => exact h.setClient c' id
  | release c' => exact ⟨h.born, h.state, by rw [← h.queued]; simp [World.mail, Mail.note, Event.mail?]⟩

theorem block (h : Tunnel c queued w) (hb : Block env w w') : Tunnel c queued w' := by
  have hborn := h.born.trans_le hb.fresh
  cases hb with
  | traffic hb =>
    cases hb with
    | conn hb =>
      refine ⟨hborn, by rw [hb.frame.clients]; exact h.state, ?_⟩
      rcases hb.mail c with hmail | ⟨-, bs, hmail⟩ <;> rw [hmail] <;> exact h.queued
    | client hb => exact h.clientBlock hb
  | device hb =>
    have hf := hb.frame
    exact ⟨hborn, by rw [hf.clients]; exact h.state, by rw [mail_grows mail_ofDevice hf.log c]; exact h.queued⟩

theorem work (h : Tunnel c queued w) (hw : Work env w w') : Tunnel c queued w' := by
  induction hw with
  | refl => exact h
  | tail _ hb ih => exact ih.block hb

/-- A connected client stays connected, and is queued nothing more. -/
theorem turns (h : Tunnel c queued w) (ht : Turns env w w') : Tunnel c queued w' := by
  induction ht with
  | refl => exact h
  | @tail v _ _ hturn ih =>
    have hborn := ih.born.trans_le hturn.fresh
    have hupload : ∀ p c', Tunnel c queued (clientToDevice env p c' v).1 := fun p c' =>
      ⟨ih.born.trans_le (congrArg Registry.fresh (registry_clientToDevice env p c' v)).ge,
        by rw [(ConnFrame.clientToDevice env p c' v).clients]; exact ih.state,
        by rw [mail_clientToDevice]; exact ih.queued⟩
    cases hturn with
    | block hb => exact ih.block hb
    | request c' tag id _ hs => exact ih.setClient c' fun hc => absurd (hs.symm.trans hc) (by decide)
    | listen c' _ hs => exact ih.setClient c' fun hc => absurd (hs.symm.trans hc) (by decide)
    | upload p c' => exact hupload p c'
    | failedUpload p c' => exact (hupload p c').work (traffic_tearDown env p _).work

end Tunnel

theorem mailed_run (env : Env) (ops : List Op) (c : Ptr) : Mailed c (run env ops) :=
  Mailed.turns (w := .init) (fun hmem => absurd hmem List.not_mem_nil) (turns_run env [] ops)

end Steps

/-! ### Runs -/

/-- What has been sent to a client, with what waits in its reply buffer, is its messages, one behind the
other, and then the raw bytes of its device. These come only once the client is connected and its messages have
gone; from then on it is queued nothing more. The reply buffer is never longer than its capacity, and
a message that there is no room for changes nothing. -/
theorem stream_framed (env : Env) (ops : List Op) (c : Ptr) (hnew : .newClient c ∈ (run env ops).log)
    (hfits : ((run env ops).mail c).fits = true) :
    let w := run env ops
    let client := w.clients c
    client.obSize ≤ client.obCapacity ∧
      (∃ ms : List Message, ms.map Message.entry = (w.mail c).queued ∧
        (w.mail c).socket ++ client.pending = ms.flatMap Message.bytes ++ (w.mail c).raw ∧
        parseMessages (ms.flatMap Message.bytes) = ms.map fun m => (m.msg.code, m.tag, m.payload)) ∧
      ((w.mail c).raw ≠ [] → client.state = .connected) ∧
      (client.state = .connected → client.obSize = 0 ∧ ∀ ops',
        ((run env (ops ++ ops')).clients c).state = .connected ∧
          ((run env (ops ++ ops')).mail c).queued = (w.mail c).queued) ∧
      ∀ tag msg payload, (sendPkt env c tag msg payload w).2 = false →
        (sendPkt env c tag msg payload w).1.clients = w.clients ∧
          (sendPkt env c tag msg payload w).1.mail c = w.mail c := by
  obtain ⟨hborn, hframed⟩ := mailed_run env ops c hnew
  have h := hframed hfits
  obtain ⟨ms, hms, hsmall, hstream⟩ := h.stream
  refine ⟨?_, ⟨ms, hms, hstream, parseMessages_flatMap hsmall⟩, fun hraw => ?_, fun hstate => ?_, ?_⟩
  · rw [UInt32.le_iff_toNat_le, h.used, h.capacity]
    exact h.room
  · by_contra hstate
    exact hraw (h.quiet hstate)
  · refine ⟨h.spent hstate, fun ops' => ?_⟩
    have htunnel : Tunnel c _ (run env (ops ++ ops')) := Tunnel.turns ⟨hborn, hstate, rfl⟩ (turns_run env ops ops')
    exact ⟨htunnel.state, htunnel.queued⟩
  · intro tag msg payload hfail
    rcases sendPkt_cases env c tag msg payload (run env ops) with ⟨hok, -⟩ | ⟨-, hclients, hlog⟩
    · rw [hok] at hfail
      cases hfail
    · exact ⟨hclients, mail_grows (fun e he => by rw [eq_of_beq he]; rfl) hlog c⟩

/-- The client of the example has been queued the answer to its connect request. -/
theorem stream_framed_connect :
    ((run .asking connectOps).clients 2).obSize ≤ ((run .asking connectOps).clients 2).obCapacity :=
  (stream_framed .asking connectOps 2 (by decide +kernel) (by decide +kernel)).1

end Usbmuxd
