import Usbmuxd.Foundation.Fifo
import Usbmuxd.Streams.Channel

/-!
# The streams of a connection arrive as they were sent

In the direction of the client, the in-buffer is a queue between the payloads the device has
sent and the bytes `client_write` takes: appended to by `connection_device_input`, drained by
`device_client_process` and flushed by `connection_teardown`. In the other direction nothing
waits: what `client_read` returns goes out in a segment at once, or the connection is freed.

## The model

* `Conserved` — the in-buffer is the queue it should be.
* `Forwarded` — what has been sent is what has been read.

## What is proved

* `Conserved.step`, `Forwarded.turn` — each step keeps both.
* `integrity` — for every run and every connection, nothing is lost, doubled or reordered.
-/

namespace Usbmuxd

open World Relation

/-! ### The in-buffer -/

namespace MuxConnection

variable (conn : MuxConnection)

/-- The bytes in the in-buffer. -/
def inBytes : List UInt8 := conn.ibBuf.slice 0 conn.ibSize.toNat

@[simp] theorem length_inBytes : conn.inBytes.length = conn.ibSize.toNat := Mem.length_slice ..

theorem inBytes_flow {conn' : MuxConnection} (h : conn'.flow = conn.flow) : conn'.inBytes = conn.inBytes := by
  have hbuf : conn'.ibBuf = conn.ibBuf := congrArg Flow.ibBuf h
  have hsize : conn'.ibSize = conn.ibSize := congrArg Flow.ibSize h
  rw [inBytes, inBytes, hbuf, hsize]

/-- The size after the client has taken `size` bytes. -/
theorem toNat_ibSize_consume {size : ℕ} (hle : size ≤ conn.ibSize.toNat) :
    (conn.consume size).ibSize.toNat = conn.ibSize.toNat - size := by
  have hlt := conn.ibSize.toNat_lt
  simp only [consume_ibSize]
  split
  · rename_i hall
    simp [hall]
  · have hsize : (UInt32.ofNat size).toNat = size := by
      rw [UInt32.toNat_ofNat']
      omega
    rw [UInt32.toNat_sub_of_le, hsize]
    rw [UInt32.le_iff_toNat_le, hsize]
    exact hle

/-- The client takes bytes from the front. -/
theorem inBytes_consume {size : ℕ} (hle : size ≤ conn.ibSize.toNat) :
    conn.inBytes = conn.ibBuf.slice 0 size ++ (conn.consume size).inBytes := by
  have hrest := conn.toNat_ibSize_consume hle
  have hcut : conn.ibSize.toNat = size + (conn.ibSize.toNat - size) := by omega
  rw [inBytes, inBytes, hrest, hcut, Mem.slice_add, Nat.zero_add, Nat.add_sub_cancel_left]
  congr 1
  by_cases hall : size = conn.ibSize.toNat
  · rw [hall, Nat.sub_self]
    rfl
  · have hsize : (conn.ibSize - UInt32.ofNat size).toNat = conn.ibSize.toNat - size := by
      rw [← hrest, consume_ibSize, if_neg hall]
    have hbuf : (conn.consume size).ibBuf = conn.ibBuf.memmove size (conn.ibSize.toNat - size) := by
      rw [consume, if_neg hall, hsize]
    rw [hbuf, Mem.slice_memmove]

variable {conn} {payload : List UInt8}

/-- With room for a payload the size does not wrap around. -/
theorem toNat_ibSize_append (hsmall : conn.ibCapacity ≤ connInbufSize) (hsize : conn.ibSize.toNat ≤ conn.ibCapacity.toNat)
    (hlen : payload.length ≤ devMru.toNat) :
    (conn.append payload).ibSize.toNat = conn.ibSize.toNat + payload.length := by
  have hcap : conn.ibCapacity.toNat ≤ 262144 := UInt32.le_iff_toNat_le.mp hsmall
  have hlen' : payload.length ≤ 65536 := hlen
  rw [append_ibSize, UInt32.toNat_add, UInt32.toNat_ofNat']
  omega

/-- Room for a payload, in plain numbers. -/
theorem hasRoom_iff (hsmall : conn.ibCapacity ≤ connInbufSize) (hsize : conn.ibSize.toNat ≤ conn.ibCapacity.toNat)
    (hlen : payload.length ≤ devMru.toNat) :
    conn.hasRoom payload ↔ conn.ibSize.toNat + payload.length ≤ conn.ibCapacity.toNat := by
  have htotal := toNat_ibSize_append hsmall hsize hlen
  rw [append_ibSize] at htotal
  rw [hasRoom, UInt32.lt_iff_toNat_lt, htotal]
  omega

end MuxConnection

/-- The in-buffer is a queue between the device and the client. -/
structure Conserved (ch : Channel) : Prop where
  queue : Fifo ch.history.accepted ch.history.written ch.conn.inBytes ch.conn.ibCapacity.toNat
  small : ch.conn.ibCapacity ≤ connInbufSize

namespace Conserved

variable {reliable : Prop} {ch ch' : Channel}

theorem size_le (h : Conserved ch) : ch.conn.ibSize.toNat ≤ ch.conn.ibCapacity.toNat := by
  simpa using h.queue.bounded

/-- Neither the in-buffer nor what has passed through it changes. -/
theorem same (h : Conserved ch) {conn : MuxConnection} {hist : History} (hbuf : conn.inBytes = ch.conn.inBytes)
    (hcap : conn.ibCapacity = ch.conn.ibCapacity) (haccepted : hist.accepted = ch.history.accepted)
    (hwritten : hist.written = ch.history.written) : Conserved ⟨conn, hist⟩ := by
  refine ⟨?_, hcap ▸ h.small⟩
  show Fifo hist.accepted hist.written conn.inBytes conn.ibCapacity.toNat
  rw [haccepted, hwritten, hbuf, hcap]
  exact h.queue

/-- The client takes bytes. -/
theorem take (h : Conserved ch) {conn : MuxConnection} {size : ℕ} (hle : size ≤ ch.conn.ibSize.toNat)
    (hbuf : conn.inBytes = (ch.conn.consume size).inBytes) (hcap : conn.ibCapacity = ch.conn.ibCapacity) :
    Conserved ⟨conn, ch.history.write (ch.conn.ibBuf.slice 0 size)⟩ := by
  refine ⟨?_, hcap ▸ h.small⟩
  have hqueue := h.queue
  rw [ch.conn.inBytes_consume hle] at hqueue
  show Fifo _ _ conn.inBytes conn.ibCapacity.toNat
  rw [hbuf, hcap]
  exact hqueue.leave

/-- A step keeps the queue. -/
theorem step (h : Conserved ch) (hs : Channel.Step reliable ch ch') : Conserved ch' := by
  cases hs with
  | quiet conn hflow => exact h.same (ch.conn.inBytes_flow hflow) (congrArg Flow.ibCapacity hflow) rfl rfl
  | start d c sport dport => exact ⟨Fifo.empty _, UInt32.le_refl _⟩
  | become s => exact h.same rfl rfl rfl rfl
  | established conn _ hflow =>
    exact h.same ((ch.conn.handshake.become .connected).inBytes_flow hflow) (congrArg Flow.ibCapacity hflow) rfl rfl
  | unanswered conn _ hflow =>
    exact h.same (ch.conn.handshake.inBytes_flow hflow) (congrArg Flow.ibCapacity hflow) rfl rfl
  | segment flags conn ok _ hflow =>
    exact h.same (ch.conn.inBytes_flow hflow) (congrArg Flow.ibCapacity hflow) rfl rfl
  | accept payload _ hroom hlen =>
    rw [MuxConnection.hasRoom_iff h.small h.size_le hlen] at hroom
    refine ⟨?_, h.small⟩
    have hbytes : (ch.conn.append payload).refresh.inBytes = ch.conn.inBytes ++ payload := by
      have hsize := MuxConnection.toNat_ibSize_append h.small h.size_le hlen
      show Mem.slice (ch.conn.append payload).ibBuf 0 (ch.conn.append payload).ibSize.toNat = _
      rw [hsize]
      exact Mem.slice_memcpy_append ..
    show Fifo _ _ _ _
    rw [hbytes]
    exact h.queue.enter (by simpa using hroom)
  | overflow payload => exact h.same rfl rfl rfl rfl
  | deliver size hpos hle => exact h.take hle rfl rfl
  | flush size _ hpos hle => exact h.take hle rfl rfl
  | refresh => exact h.same rfl rfl rfl rfl
  | free => exact h.same rfl rfl rfl rfl

theorem steps (h : Conserved ch) (hs : Channel.Steps reliable ch ch') : Conserved ch' := by
  induction hs with
  | refl => exact h
  | tail _ hstep ih => exact ih.step hstep

/-- A turn keeps the queue. -/
theorem turn (h : Conserved ch) (ht : Channel.Turn reliable ch ch') : Conserved ch' := by
  cases ht with
  | step hs => exact h.step hs
  | upload bs conn _ _ hflow =>
    exact h.same ((ch.conn.advance bs.length).inBytes_flow hflow) (congrArg Flow.ibCapacity hflow) rfl rfl
  | failedUpload bs conn _ _ hflow hsteps =>
    refine Conserved.steps ?_ hsteps
    exact h.same (ch.conn.inBytes_flow hflow) (congrArg Flow.ibCapacity hflow) rfl rfl

theorem turns (h : Conserved ch) (ht : Channel.Turns reliable ch ch') : Conserved ch' := by
  induction ht with
  | refl => exact h
  | tail _ hturn ih => exact ih.turn hturn

end Conserved

theorem conserved_init (p : Ptr) : Conserved (World.init.channel p) :=
  ⟨Fifo.empty _, show (default : MuxConnection).ibCapacity ≤ connInbufSize by decide⟩

/-- In every run the in-buffers are queues between device and client. -/
theorem conserved_run (env : Env) (ops : List Op) (p : Ptr) : Conserved ((run env ops).channel p) :=
  (conserved_init p).turns (channel_run env ops p)

/-! ### The other direction -/

/-- What has been sent is what has been read, or its beginning if the connection is gone. -/
structure Forwarded (h : History) : Prop where
  started : h.sent <+: h.read
  complete : h.freed = false → h.sent = h.read

namespace Forwarded

variable {reliable : Prop} {ch ch' : Channel}

/-- Nothing is read or sent, and what was gone is still gone. -/
theorem same {h h' : History} (hf : Forwarded h) (hsent : h'.sent = h.sent) (hread : h'.read = h.read)
    (hfreed : h'.freed = false → h.freed = false) : Forwarded h' :=
  ⟨by rw [hsent, hread]; exact hf.started, fun halive => by rw [hsent, hread]; exact hf.complete (hfreed halive)⟩

/-- A segment without data. -/
theorem segment {h : History} (hf : Forwarded h) (th : TcpHdr) (ok : Bool) : Forwarded (h.segment th [] ok) := by
  refine hf.same ?_ rfl id
  cases ok <;> simp

theorem step (h : Forwarded ch.history) (hs : Channel.Step reliable ch ch') : Forwarded ch'.history := by
  cases hs with
  | quiet => exact h
  | start => exact ⟨List.prefix_rfl, fun _ => rfl⟩
  | become => exact h
  | established => exact (h.same rfl rfl id : Forwarded ch.history.handshake).segment _ _
  | unanswered => exact (h.same rfl rfl id : Forwarded ch.history.handshake).segment _ _
  | segment => exact h.segment _ _
  | refresh => exact h
  | free => exact h.same rfl rfl fun halive => by cases halive
  | _ => exact h.same rfl rfl id

/-- A beginning stays a beginning. -/
theorem prefix_step (h : ch.history.sent <+: ch.history.read) (hs : Channel.Step reliable ch ch') :
    ch'.history.sent <+: ch'.history.read := by
  have hsegment : ∀ (hist : History) (th : TcpHdr) (ok : Bool), hist.sent <+: hist.read →
      (hist.segment th [] ok).sent <+: (hist.segment th [] ok).read := by
    intro hist th ok hprefix
    cases ok <;> simpa using hprefix
  cases hs with
  | start => exact List.prefix_rfl
  | established => exact hsegment _ _ _ h
  | unanswered => exact hsegment _ _ _ h
  | segment => exact hsegment _ _ _ h
  | _ => exact h

theorem turn (h : Forwarded ch.history) (ht : Channel.Turn reliable ch ch') : Forwarded ch'.history := by
  cases ht with
  | step hs => exact h.step hs
  | upload bs conn _ halive =>
    have hsame : ch.history.sent ++ bs = ch.history.read ++ bs := by rw [h.complete halive]
    exact ⟨by simp [hsame], fun _ => by simpa using hsame⟩
  | failedUpload bs conn _ _ _ hsteps hfreed =>
    refine ⟨?_, fun halive => ?_⟩
    · have hbefore : ch.history.sent <+: ch.history.read ++ bs := h.started.trans (List.prefix_append ..)
      clear hfreed
      induction hsteps with
      | refl => simpa using hbefore
      | tail _ hstep ih => exact prefix_step ih hstep
    · rw [hfreed] at halive
      cases halive

theorem turns (h : Forwarded ch.history) (ht : Channel.Turns reliable ch ch') : Forwarded ch'.history := by
  induction ht with
  | refl => exact h
  | tail _ hturn ih => exact ih.turn hturn

end Forwarded

/-- For every run and every connection: what the client has taken, followed by the in-buffer,
is what the device has sent and was accepted; and what has been sent to the device is what
was read from the client, or its beginning once the connection has been freed. -/
theorem integrity (env : Env) (ops : List Op) (p : Ptr) :
    let w := run env ops
    let h := w.history p
    h.written ++ (w.conns p).ibBuf.slice 0 (w.conns p).ibSize.toNat = h.accepted ∧ h.written <+: h.accepted ∧
      h.sent <+: h.read ∧ (h.freed = false → h.sent = h.read) := by
  have hqueue := (conserved_run env ops p).queue
  have hforward : Forwarded (World.init.channel p).history := ⟨List.prefix_rfl, fun _ => rfl⟩
  obtain ⟨hstarted, hcomplete⟩ := hforward.turns (channel_run env ops p)
  exact ⟨hqueue.conserved, hqueue.left_prefix, hstarted, hcomplete⟩

end Usbmuxd
