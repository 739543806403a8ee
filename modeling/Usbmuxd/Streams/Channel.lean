import Usbmuxd.Registry.Refinement

/-!
# One connection

What a run does to one connection, without the rest of the daemon: the connection's record
and what has happened to it since it was made. This module is the abstract model of a
connection, and shows that every run of the daemon is one of its runs.

## The model

* `History` — what the log says about a connection since `device_start_connect` made it:
  the bytes that went each way, and what the device has been told.
* `Channel` — a connection's record and its history.
* `Channel.Step` — what a step may do to it; `Channel.Turn` — the same with the uploads.

## What is proved

* `ConnBlock.channel`, `Turn.channel` — the refinement, for one step and for one turn.
* `channel_run` — every run takes every connection through a sequence of turns.
-/

namespace Usbmuxd

open World Relation

/-! ### What has happened -/

/-- What has happened to a connection since it was made. -/
structure History where
  /-- The payloads that `connection_device_input` has appended. -/
  accepted : List UInt8 := []
  /-- The bytes that `client_write` has taken. -/
  written : List UInt8 := []
  /-- The bytes that `client_read` has returned. -/
  read : List UInt8 := []
  /-- The data of the segments that have been sent. -/
  sent : List UInt8 := []
  /-- How often a `SYN|ACK` has been accepted. -/
  handshakes : ℕ := 0
  /-- The size of the in-buffer. -/
  capacity : ℕ := 0
  /-- The greatest right edge the device has been sent. -/
  edge : ℕ := 0
  /-- The window field of the last segment. -/
  told : ℕ := 0
  /-- Every payload from the device lay below the greatest edge it had been sent. -/
  obedient : Bool := true
  /-- A payload did not fit into the in-buffer. -/
  overflowed : Bool := false
  /-- Every segment has acknowledged the next byte of the device, and told the free space. -/
  counted : Bool := true
  /-- Every segment of the connection has carried the numbers it should. -/
  exact : Bool := true
  /-- The connection has been freed. -/
  freed : Bool := false

namespace History

variable (h : History)

/-- The connection is made. What has been found wrong stays wrong. -/
@[simps]
def start : History :=
  { capacity := connInbufSize.toNat, obedient := h.obedient, overflowed := h.overflowed, counted := h.counted,
    exact := h.exact }

/-- The place of the next byte in the device's stream, where each `SYN|ACK` counts as one. -/
def offset : ℕ := h.handshakes + h.accepted.length

/-- A sequence number: `0` before the `SYN|ACK`, and then one more than the bytes so far. -/
def number (bytes : List UInt8) : UInt32 := UInt32.ofNat (if h.handshakes = 0 then 0 else 1 + bytes.length)

/-- How many bytes the in-buffer holds. -/
def held : ℕ := h.accepted.length - h.written.length

/-- A `SYN|ACK` is accepted. -/
@[simps]
def handshake : History := { h with handshakes := h.handshakes + 1 }

/-- The device sends a payload. -/
@[simps]
def offer (bs : List UInt8) : History :=
  { h with obedient := h.obedient && decide (bs = [] ∨ h.offset + bs.length ≤ h.edge) }

/-- A payload is appended. -/
@[simps]
def accept (bs : List UInt8) : History := { h.offer bs with accepted := h.accepted ++ bs }

/-- A payload does not fit. -/
@[simps]
def overflow (bs : List UInt8) : History := { h.offer bs with overflowed := true }

/-- The client takes bytes. -/
@[simps]
def write (bs : List UInt8) : History := { h with written := h.written ++ bs }

/-- The client gives bytes. -/
@[simps]
def receive (bs : List UInt8) : History := { h with read := h.read ++ bs }

/-- A segment is sent, or cannot be sent. -/
@[simps]
def segment (th : TcpHdr) (data : List UInt8) (ok : Bool) : History :=
  { h with
    sent := if ok then h.sent ++ data else h.sent
    edge := if ok then max h.edge (h.offset + 256 * th.win.toNat) else h.edge
    told := th.win.toNat
    counted := h.counted && decide (th.ack = UInt32.ofNat h.offset ∧ th.win.toNat = (h.capacity - h.held) / 256)
    exact := h.exact && decide (h.capacity = connInbufSize.toNat → th.seq = h.number h.sent ∧
      th.ack = h.number h.accepted ∧ th.win.toNat = (connInbufSize.toNat - h.held) / 256) }

/-- The connection is freed. -/
@[simps]
def free : History := { h with freed := true }

/-- What an entry about the connection adds to its history. -/
def next : Event → History
  | .start _ => h.start
  | .synAck _ => h.handshake
  | .accepted _ bs => h.accept bs
  | .overflow _ bs => h.overflow bs
  | .wrote _ _ bs => h.write bs
  | .read _ _ bs => h.receive bs
  | .segment _ th data ok => h.segment th data ok
  | .freeConn _ => h.free
  | _ => h

end History

/-- The connection an entry is about. -/
def Event.conn? : Event → Option Ptr
  | .start p | .synAck p | .accepted p _ | .overflow p _ | .wrote p _ _ | .read p _ _ | .segment p _ _ _
  | .freeConn p => some p
  | _ => none

/-- Take an entry into the history of connection `p` if it is about `p`. -/
def History.note (p : Ptr) (h : History) (e : Event) : History := if e.conn? = some p then h.next e else h

/-- The history of a connection. -/
def World.history (w : World) (p : Ptr) : History := w.log.foldl (History.note p) {}

/-- A connection's record and its history. -/
structure Channel where
  conn : MuxConnection
  history : History

/-- A connection of a world. -/
def World.channel (w : World) (p : Ptr) : Channel := ⟨w.conns p, w.history p⟩

/-! ### What may happen -/

/-- The fields of a connection that its streams and its headers depend on. -/
@[ext]
structure Flow where
  state : MuxConnState
  ibBuf : Mem
  ibSize : UInt32
  ibCapacity : UInt32
  txWin : UInt32
  txAck : UInt32
  txSeq : UInt32
  events : Events

/-- The flow of a connection. -/
@[simps]
def MuxConnection.flow (conn : MuxConnection) : Flow where
  state := conn.state
  ibBuf := conn.ibBuf
  ibSize := conn.ibSize
  ibCapacity := conn.ibCapacity
  txWin := conn.txWin
  txAck := conn.txAck
  txSeq := conn.txSeq
  events := conn.events

namespace Channel

/-- A step, for one connection. `reliable` says that packets can be sent. -/
inductive Step (reliable : Prop) (ch : Channel) : Channel → Prop where
  /-- Nothing happens to what the streams depend on. -/
  | quiet (conn : MuxConnection) (h : conn.flow = ch.conn.flow) : Step reliable ch ⟨conn, ch.history⟩
  | start (d c : Ptr) (sport dport : UInt16) : Step reliable ch ⟨.start d c sport dport, ch.history.start⟩
  | become (s : MuxConnState) (h : ch.conn.state.Becomes s) : Step reliable ch ⟨ch.conn.become s, ch.history⟩
  | established (conn : MuxConnection) (hstate : ch.conn.state = .connecting)
      (h : conn.flow = (ch.conn.handshake.become .connected).flow) :
      Step reliable ch ⟨conn, ch.history.handshake.segment (ch.conn.handshake.tcpHeader thAck) [] true⟩
  | unanswered (conn : MuxConnection) (hstate : ch.conn.state = .connecting) (h : conn.flow = ch.conn.handshake.flow)
      (hfail : ¬ reliable) :
      Step reliable ch ⟨conn, ch.history.handshake.segment (ch.conn.handshake.tcpHeader thAck) [] false⟩
  /-- A segment without data goes out, or cannot. -/
  | segment (flags : UInt8) (conn : MuxConnection) (ok : Bool) (hstate : ch.conn.state ≠ .dead)
      (h : conn.flow = ch.conn.flow) : Step reliable ch ⟨conn, ch.history.segment (ch.conn.tcpHeader flags) [] ok⟩
  | accept (payload : List UInt8) (hstate : ch.conn.state = .connected) (hroom : ch.conn.hasRoom payload)
      (hlen : payload.length ≤ devMru.toNat) :
      Step reliable ch ⟨(ch.conn.append payload).refresh, ch.history.accept payload⟩
  | overflow (payload : List UInt8) (hstate : ch.conn.state = .connected) (hroom : ¬ ch.conn.hasRoom payload)
      (hlen : payload.length ≤ devMru.toNat) : Step reliable ch ⟨ch.conn, ch.history.overflow payload⟩
  | deliver (size : ℕ) (hpos : 0 < size) (hle : size ≤ ch.conn.ibSize.toNat) :
      Step reliable ch ⟨ch.conn.deliver size, ch.history.write (ch.conn.ibBuf.slice 0 size)⟩
  | flush (size : ℕ) (hstate : ch.conn.state = .dead) (hpos : 0 < size) (hle : size ≤ ch.conn.ibSize.toNat) :
      Step reliable ch ⟨ch.conn.consume size, ch.history.write (ch.conn.ibBuf.slice 0 size)⟩
  | refresh : Step reliable ch ⟨ch.conn.refresh, ch.history⟩
  | free : Step reliable ch ⟨ch.conn, ch.history.free⟩

/-- A sequence of steps. -/
abbrev Steps (reliable : Prop) : Channel → Channel → Prop := ReflTransGen (Step reliable)

/-- A step, or an upload; when one fails, the connection is freed before anything else is done. -/
inductive Turn (reliable : Prop) (ch : Channel) : Channel → Prop where
  | step {ch' : Channel} (h : Step reliable ch ch') : Turn reliable ch ch'
  | upload (bs : List UInt8) (conn : MuxConnection) (hstate : ch.conn.state = .connected)
      (halive : ch.history.freed = false) (h : conn.flow = (ch.conn.advance bs.length).flow) :
      Turn reliable ch ⟨conn, (ch.history.receive bs).segment (ch.conn.tcpHeader thAck) bs true⟩
  | failedUpload (bs : List UInt8) (conn : MuxConnection) {ch' : Channel} (hstate : ch.conn.state = .connected)
      (halive : ch.history.freed = false) (h : conn.flow = ch.conn.flow)
      (hsteps : Steps reliable ⟨conn, (ch.history.receive bs).segment (ch.conn.tcpHeader thAck) bs false⟩ ch')
      (hfreed : ch'.history.freed = true) : Turn reliable ch ch'

/-- A sequence of turns. -/
abbrev Turns (reliable : Prop) : Channel → Channel → Prop := ReflTransGen (Turn reliable)

theorem Step.same {reliable : Prop} {ch ch' : Channel} (h : ch' = ch) : Step reliable ch ch' := by
  subst h
  exact .quiet ch'.conn rfl

theorem Steps.turns {reliable : Prop} {ch ch' : Channel} (h : Steps reliable ch ch') : Turns reliable ch ch' :=
  ReflTransGen.mono (fun _ _ h => Turn.step h) _ _ h

end Channel

/-! ### The history of a log -/

section History

variable {env : Env} {w w' : World} {p q : Ptr}

/-- What is written to the log is taken into the history. -/
theorem history_append {es : List Event} (h : w'.log = w.log ++ es) (p : Ptr) :
    w'.history p = es.foldl (History.note p) (w.history p) := by
  rw [history, h, List.foldl_append]
  rfl

theorem history_same (h : w'.log = w.log) (p : Ptr) : w'.history p = w.history p := by
  rw [history, h]
  rfl

theorem history_emit (w : World) (e : Event) (p : Ptr) : (w.emit e).history p = (w.history p).note p e :=
  history_append (show (w.emit e).log = w.log ++ [e] from rfl) p

/-- Entries about no connection. -/
theorem history_grows {kind : Event → Bool} (hkind : ∀ e, kind e = true → e.conn? = none) (h : w.Grows kind w')
    (p : Ptr) : w'.history p = w.history p := by
  obtain ⟨es, hlog, hes⟩ := h
  rw [history_append hlog]
  clear hlog
  induction es generalizing w with
  | nil => rfl
  | cons e es ih =>
    have he : (w.history p).note p e = w.history p := by
      rw [History.note, hkind e (hes e (List.mem_cons_self ..))]
      rfl
    rw [List.foldl_cons, he]
    exact ih fun e' he' => hes e' (List.mem_cons_of_mem _ he')

theorem History.note_self {e : Event} (h : e.conn? = some p) (hist : History) : hist.note p e = hist.next e := if_pos h

theorem History.note_other {e : Event} (h : e.conn? ≠ some p) (hist : History) : hist.note p e = hist := if_neg h

/-- What has been found wrong stays wrong. -/
theorem History.good_of_note {h : History} {e : Event} :
    ((h.note p e).overflowed = false → h.overflowed = false) ∧ ((h.note p e).counted = true → h.counted = true) ∧
      ((h.note p e).exact = true → h.exact = true) := by
  by_cases he : e.conn? = some p
  · rw [note_self he]
    refine ⟨fun hgood => ?_, fun hgood => ?_, fun hgood => ?_⟩ <;> cases e <;> simp_all [next]
  · rw [note_other he]
    exact ⟨id, id, id⟩

/-- What is right in the end was right before. -/
theorem History.good_of_foldl {P : History → Prop} (hgood : ∀ h e, P (History.note p h e) → P h)
    {es : List Event} {h : History} (hend : P (es.foldl (History.note p) h)) : P h := by
  induction es generalizing h with
  | nil => exact hend
  | cons e es ih => exact hgood h e (ih hend)

/-- A connection whose payloads have all fitted. -/
theorem history_overflowed (h : (w.history p).overflowed = false) (bs : List UInt8) : .overflow p bs ∉ w.log := by
  intro hmem
  obtain ⟨before, after, hlog⟩ := List.append_of_mem hmem
  rw [World.history, hlog, List.foldl_append, List.foldl_cons] at h
  have hthen := History.good_of_foldl (P := fun h => h.overflowed = false) (fun _ _ => History.good_of_note.1) h
  rw [History.note_self rfl] at hthen
  cases hthen

theorem Event.conn?_of_ofClient (e : Event) (h : e.ofClient = true) : e.conn? = none := by
  cases e <;> simp_all [ofClient, conn?]

theorem Event.conn?_of_ofDevice (e : Event) (h : e.ofDevice = true) : e.conn? = none := by
  cases e <;> simp_all [ofDevice, conn?]

/-- A step that is about one connection. -/
theorem Channel.Step.at {reliable : Prop} (hself : Channel.Step reliable (w.channel q) (w'.channel q))
    (hother : ∀ p, p ≠ q → w'.channel p = w.channel p) (p : Ptr) :
    Channel.Step reliable (w.channel p) (w'.channel p) := by
  by_cases hp : p = q
  · subst hp
    exact hself
  · exact .same (hother p hp)

@[simp] theorem history_setConn (w : World) (q : Ptr) (f : MuxConnection → MuxConnection) (p : Ptr) :
    (w.setConn q f).history p = w.history p := rfl

@[simp] theorem history_setDev (w : World) (d : Ptr) (f : MuxDevice → MuxDevice) (p : Ptr) :
    (w.setDev d f).history p = w.history p := rfl

@[simp] theorem history_tock (w : World) (p : Ptr) : w.tock.history p = w.history p := rfl

theorem channel_setConn (w : World) (q : Ptr) (f : MuxConnection → MuxConnection) :
    (w.setConn q f).channel q = ⟨f (w.conns q), w.history q⟩ := by
  simp [channel]

theorem channel_setConn_other (w : World) (f : MuxConnection → MuxConnection) (h : p ≠ q) :
    (w.setConn q f).channel p = w.channel p := by
  simp [channel, h]

theorem channel_emit (w : World) {e : Event} (h : e.conn? = some q) :
    (w.emit e).channel q = ⟨w.conns q, (w.history q).next e⟩ := by
  rw [channel, history_emit, History.note_self h]
  rfl

theorem channel_emit_other (w : World) {e : Event} (h : e.conn? ≠ some p) : (w.emit e).channel p = w.channel p := by
  rw [channel, history_emit, History.note_other h]
  rfl

/-- Two changes of one record. -/
theorem setConn_twice (w : World) (q : Ptr) (f g : MuxConnection → MuxConnection) :
    (w.setConn q f).setConn q g = w.setConn q fun conn => g (f conn) := by
  simp [setConn]

/-- An entry about a connection, and a change of its record. -/
theorem step_emit_setConn {reliable : Prop} {e : Event} {f : MuxConnection → MuxConnection} (he : e.conn? = some q)
    (h : Channel.Step reliable (w.channel q) ⟨f (w.conns q), (w.history q).next e⟩) (p : Ptr) :
    Channel.Step reliable (w.channel p) (((w.emit e).setConn q f).channel p) := by
  refine Channel.Step.at (q := q) ?_ (fun p hp => ?_) p
  · rwa [channel_setConn, history_emit, History.note_self he]
  · rw [channel_setConn_other _ _ hp, channel_emit_other _ (by rw [he]; simpa using Ne.symm hp)]

theorem step_setConn {reliable : Prop} {f : MuxConnection → MuxConnection}
    (h : Channel.Step reliable (w.channel q) ⟨f (w.conns q), w.history q⟩) (p : Ptr) :
    Channel.Step reliable (w.channel p) ((w.setConn q f).channel p) := by
  refine .at ?_ (fun p hp => channel_setConn_other _ _ hp) p
  rwa [channel_setConn]

theorem step_emit {reliable : Prop} {e : Event} (he : e.conn? = some q)
    (h : Channel.Step reliable (w.channel q) ⟨w.conns q, (w.history q).next e⟩) (p : Ptr) :
    Channel.Step reliable (w.channel p) ((w.emit e).channel p) := by
  refine .at ?_ (fun p hp => channel_emit_other _ (by rw [he]; simpa using Ne.symm hp)) p
  rwa [channel_emit _ he]

end History

/-! ### Segments -/

section Segments

variable (env : Env) (p q : Ptr) (w : World) (flags : UInt8) (data : List UInt8)

/-- A packet is about no connection. -/
theorem sendPacket_history (d : Ptr) (proto : MuxProtocol) (header : List UInt8) :
    (sendPacket env d proto header data w).1.history p = w.history p := by
  unfold sendPacket usbSend
  split
  · rfl
  · exact history_emit ..

/-- A segment is in the history of its connection. -/
theorem sendTcp_history : (sendTcp env q flags data w).1.history q =
    (w.history q).segment ((w.conns q).tcpHeader flags) data (sendTcp env q flags data w).2 := by
  unfold sendTcp
  dsimp only
  have hsegment : ∀ ok, ((sendPacket env (w.conns q).dev .tcp ((w.conns q).tcpHeader flags).bytes data w).1.emit
      (.segment q ((w.conns q).tcpHeader flags) data ok)).history q =
      (w.history q).segment ((w.conns q).tcpHeader flags) data ok := by
    intro ok
    rw [history_emit, sendPacket_history, History.note_self rfl]
    rfl
  split
  · rename_i hok
    rw [history_setConn, history_tock, hsegment, hok]
  · rename_i hfail
    rw [hsegment, Bool.not_eq_true _ |>.mp hfail]

theorem sendTcp_channel_other (h : p ≠ q) : (sendTcp env q flags data w).1.channel p = w.channel p := by
  have hsegment : ∀ ok, ((sendPacket env (w.conns q).dev .tcp ((w.conns q).tcpHeader flags).bytes data w).1.emit
      (.segment q ((w.conns q).tcpHeader flags) data ok)).channel p = w.channel p := by
    intro ok
    rw [channel_emit_other _ (by simpa [Event.conn?] using Ne.symm h), channel, sendPacket_history, sendPacket_conns]
    rfl
  unfold sendTcp
  dsimp only
  split
  · rw [channel_setConn_other _ _ h]
    exact hsegment _
  · exact hsegment _

/-- What a segment leaves of its connection. -/
theorem sendTcp_flow : ((sendTcp env p flags data w).1.conns q).flow = (w.conns q).flow :=
  sendTcp_field (f := MuxConnection.flow) env p w (fun _ _ => rfl) q flags data

end Segments

/-! ### Refinement -/

/-- Every packet can be handed to the USB layer. -/
def Env.Sends (env : Env) : Prop := ∀ t, env.usbSend t = true

section Refinement

variable {env : Env} {w w' : World}

/-- A segment without data is never too long. -/
theorem sendTcp_ok (hsends : env.Sends) (p : Ptr) (flags : UInt8) (w : World) :
    (sendTcp env p flags [] w).2 = true := by
  have hlen : (w.devs (w.conns p).dev).packetLength ((w.conns p).tcpHeader flags).bytes [] ≤ usbMtu := by
    have hhdr : muxHeaderSize (w.devs (w.conns p).dev).version ≤ 16 := by
      unfold muxHeaderSize sizeofMuxHeader
      split <;> omega
    simp only [MuxDevice.packetLength, length_tcpHdr_bytes, List.length_nil, usbMtu, tcphdrSize]
    omega
  have hsent : (sendPacket env (w.conns p).dev .tcp ((w.conns p).tcpHeader flags).bytes [] w).2 = true := by
    rw [sendPacket, if_neg (by simpa using hlen)]
    exact hsends _
  unfold sendTcp
  simp only [hsent, if_true]

theorem answered_channel (p : Ptr) (w : World) :
    (answered p w).channel p = ⟨(w.conns p).handshake, (w.history p).handshake⟩ := by
  rw [answered, channel_setConn, history_emit, History.note_self rfl]
  rfl

theorem answered_channel_other {p q : Ptr} (h : p ≠ q) (w : World) : (answered q w).channel p = w.channel p := by
  rw [answered, channel_setConn_other _ _ h, channel_emit_other _ (by simpa [Event.conn?] using Ne.symm h)]

/-- What a `SYN|ACK` leaves of its connection once it has been answered. -/
theorem sendTcp_answered (env : Env) (p : Ptr) (w : World) :
    ((sendTcp env p thAck [] (answered p w)).1.conns p).flow = (w.conns p).handshake.flow ∧
      (sendTcp env p thAck [] (answered p w)).1.history p = (w.history p).handshake.segment
        ((w.conns p).handshake.tcpHeader thAck) [] (sendTcp env p thAck [] (answered p w)).2 := by
  have hconn : (answered p w).conns p = (w.conns p).handshake := congrArg Channel.conn (answered_channel p w)
  have hhist : (answered p w).history p = (w.history p).handshake := congrArg Channel.history (answered_channel p w)
  constructor
  · rw [sendTcp_flow, hconn]
  · rw [sendTcp_history, hconn, hhist]

/-- A step on connections is a step of each connection. -/
theorem ConnBlock.channel (h : ConnBlock env w w') (q : Ptr) :
    Channel.Step env.Sends (w.channel q) (w'.channel q) := by
  cases h with
  | fault f => exact .same (channel_emit_other _ (by simp [Event.conn?]))
  | outOfFuel l => exact .same (channel_emit_other _ (by simp [Event.conn?]))
  | tock => exact .same rfl
  | packet d proto header data =>
    refine .same ?_
    rw [World.channel, sendPacket_history, sendPacket_conns]
    rfl
  | segment p flags _ hstate =>
    refine .at ?_ (fun q hq => sendTcp_channel_other env q p w flags [] hq) q
    show Channel.Step _ _ ⟨_, (sendTcp env p flags [] w).1.history p⟩
    rw [sendTcp_history]
    exact .segment flags _ _ hstate (sendTcp_flow ..)
  | start d c sport dport =>
    refine .at (q := w.fresh) ?_ (fun q hq => ?_) q
    · have hhist : (allocConn (.start d c sport dport) w).history w.fresh = (w.history w.fresh).start := by
        rw [history_append (show _ = w.log ++ [.start w.fresh] from rfl)]
        exact History.note_self rfl _
      show Channel.Step _ _ ⟨(allocConn (.start d c sport dport) w).conns w.fresh, _⟩
      rw [hhist, allocConn_conns, Function.update_self]
      exact .start d c sport dport
    · have hhist : (allocConn (.start d c sport dport) w).history q = w.history q := by
        rw [history_append (show _ = w.log ++ [.start w.fresh] from rfl)]
        exact History.note_other (by simpa [Event.conn?] using Ne.symm hq) _
      rw [World.channel, hhist]
      simp [hq, World.channel]
  | nextSport d port => exact .same rfl
  | register d p => exact .same rfl
  | hear p th => exact step_setConn (.quiet _ rfl) q
  | established p _ hstate hok =>
    refine .at (q := p) ?_ (fun q hq => ?_) q
    · obtain ⟨hflow, hhist⟩ := sendTcp_answered env p w
      rw [channel_setConn, hhist, hok]
      refine .established _ hstate ?_
      rw [MuxConnection.flow, Flow.mk.injEq] at hflow
      simp only [MuxConnection.flow, MuxConnection.become, Flow.mk.injEq]
      exact ⟨trivial, hflow.2⟩
    · rw [channel_setConn_other _ _ hq, sendTcp_channel_other _ _ _ _ _ _ hq, answered_channel_other hq]
  | unanswered p _ hstate hfail =>
    refine .at (q := p) ?_ (fun q hq => ?_) q
    · obtain ⟨hflow, hhist⟩ := sendTcp_answered env p w
      show Channel.Step _ _ ⟨_, (sendTcp env p thAck [] (answered p w)).1.history p⟩
      rw [hhist, hfail]
      refine .unanswered _ hstate hflow fun hsends => ?_
      rw [sendTcp_ok hsends] at hfail
      cases hfail
    · rw [sendTcp_channel_other _ _ _ _ _ _ hq, answered_channel_other hq]
  | state p s _ h => exact step_setConn (.become s h) q
  | orphan p => exact step_setConn (.quiet _ rfl) q
  | accept p payload _ hstate hroom hlen =>
    rw [setConn_twice]
    exact step_emit_setConn rfl (.accept payload hstate hroom hlen) q
  | overflow p payload _ hstate hroom hlen => exact step_emit rfl (.overflow payload hstate hroom hlen) q
  | deliver p c size _ hpos hle => exact step_emit_setConn (w := w.tock) rfl (.deliver size hpos hle) q
  | flush p c size _ hstate hpos hle => exact step_emit_setConn (w := w.tock) rfl (.flush size hstate hpos hle) q
  | refresh p => exact step_setConn .refresh q
  | release p => exact step_emit rfl .free q
  | free p => exact step_emit rfl .free q

/-- A step on clients or devices leaves every connection as it is. -/
theorem Block.channel (h : Block env w w') (q : Ptr) : Channel.Step env.Sends (w.channel q) (w'.channel q) := by
  cases h with
  | traffic h =>
    cases h with
    | conn h => exact h.channel q
    | client h =>
      refine .same ?_
      rw [World.channel, h.frame.conns, history_grows Event.conn?_of_ofClient h.frame.log]
      rfl
  | device h =>
    refine .same ?_
    rw [World.channel, h.frame.conns, history_grows Event.conn?_of_ofDevice h.frame.log]
    rfl

theorem Work.channel (h : Work env w w') (q : Ptr) : Channel.Steps env.Sends (w.channel q) (w'.channel q) := by
  induction h with
  | refl => exact .refl
  | tail _ hblock ih => exact ih.tail (hblock.channel q)

/-! ### Uploads -/

section Uploads

variable (p q c : Ptr)

/-- A read that returns bytes. -/
theorem clientRead_some {len : UInt32} (h : (clientRead env p c len w).2 ≠ []) :
    (clientRead env p c len w).1 = w.tock.emit (.read p c (clientRead env p c len w).2) := by
  unfold clientRead at h ⊢
  split
  · rename_i hstate
    rw [if_pos hstate] at h
    exact absurd rfl h
  · rename_i hstate
    rw [if_neg hstate] at h
    dsimp only at h ⊢
    split
    · rename_i hnone
      rw [if_pos hnone] at h
      exact absurd rfl h
    · rfl

/-- A read that returns nothing. -/
theorem clientRead_none (env : Env) {len : UInt32} (h : (clientRead env p c len w).2 = []) :
    (clientRead env p c len w).1.channel q = w.channel q := by
  unfold clientRead at h ⊢
  split
  · rfl
  · rename_i hstate
    rw [if_neg hstate] at h
    dsimp only at h ⊢
    split
    · rfl
    · rename_i hsome
      rw [if_neg hsome] at h
      exact absurd h hsome

/-- A world in which connection `p` has read `bs` from its client. -/
def uploading (p c : Ptr) (bs : List UInt8) (w : World) : World := (w.tock.emit (.read p c bs)).setConn p (·.fill bs)

theorem uploading_channel (bs : List UInt8) (w : World) :
    (uploading p c bs w).channel p = ⟨(w.conns p).fill bs, (w.history p).receive bs⟩ := by
  rw [uploading, channel_setConn, history_emit, History.note_self rfl]
  rfl

theorem uploading_channel_other {p q : Ptr} (h : q ≠ p) (bs : List UInt8) (w : World) :
    (uploading p c bs w).channel q = w.channel q := by
  rw [uploading, channel_setConn_other _ _ h, channel_emit_other _ (by simpa [Event.conn?] using Ne.symm h)]
  rfl

/-- What has been read is what is sent. -/
theorem clientToDevice_some (h : (clientRead env p c (w.conns p).sendable w).2 ≠ []) :
    clientToDevice env p c w =
      let bs := (clientRead env p c (w.conns p).sendable w).2
      let s := sendTcp env p thAck bs (uploading p c bs w)
      if s.2 then (s.1.setConn p (·.advance bs.length), true) else s := by
  have hlen : (clientRead env p c (w.conns p).sendable w).2.length ≠ 0 := by simpa using h
  unfold clientToDevice
  dsimp only
  rw [if_neg hlen, clientRead_some p c h]
  have hslice : ∀ bs : List UInt8, (((uploading p c bs w).conns p).obBuf.slice 0 bs.length) = bs := by
    intro bs
    simp [uploading, MuxConnection.fill, Mem.slice_memcpy_self]
  have hfold : ∀ bs, (w.tock.emit (.read p c bs)).setConn p (·.fill bs) = uploading p c bs w := fun _ => rfl
  simp only [hfold, hslice]

theorem clientToDevice_none (h : (clientRead env p c (w.conns p).sendable w).2 = []) :
    clientToDevice env p c w = ((clientRead env p c (w.conns p).sendable w).1, false) := by
  unfold clientToDevice
  simp [h]

/-- A segment that takes bytes of the client to the device. -/
theorem sendTcp_uploading (env : Env) (bs : List UInt8) (w : World) :
    ((sendTcp env p thAck bs (uploading p c bs w)).1.conns p).flow = (w.conns p).flow ∧
      (sendTcp env p thAck bs (uploading p c bs w)).1.history p = ((w.history p).receive bs).segment
        ((w.conns p).tcpHeader thAck) bs (sendTcp env p thAck bs (uploading p c bs w)).2 := by
  have hconn : (uploading p c bs w).conns p = (w.conns p).fill bs := congrArg Channel.conn (uploading_channel p c bs w)
  have hhist : (uploading p c bs w).history p = (w.history p).receive bs :=
    congrArg Channel.history (uploading_channel p c bs w)
  constructor
  · rw [sendTcp_flow, hconn]
    rfl
  · rw [sendTcp_history, hconn, hhist]
    rfl

end Uploads

/-- What has been freed is in the log. -/
theorem history_freed {p : Ptr} (h : (w.history p).freed = true) : .freeConn p ∈ w.log := by
  rw [World.history] at h
  generalize w.log = log at h
  induction log using List.reverseRecOn with
  | nil => cases h
  | append_singleton log e ih =>
    rw [List.foldl_append, List.foldl_cons, List.foldl_nil] at h
    by_cases he : e.conn? = some p
    · rw [History.note_self he] at h
      cases e <;> simp_all [Event.conn?, History.next, History.start]
    · rw [History.note_other he] at h
      exact List.mem_append_left _ (ih h)

/-- The teardown of a connection frees it. -/
theorem tearDown_freed (p : Ptr) (w : World) (h : (w.conns p).state ≠ .dead) :
    ((tearDown env p w).history p).freed = true := by
  have hfree : ∀ v : World, ((releaseConn p v).history p).freed = true := by
    intro v
    rw [releaseConn, history_emit, History.note_self rfl]
    rfl
  rw [tearDown, callDepth, connectionTeardown, if_neg h]
  exact hfree _

/-- A turn is a sequence of turns of each connection. -/
theorem Turn.channel (h : Turn env w w') (q : Ptr) : Channel.Turns env.Sends (w.channel q) (w'.channel q) := by
  cases h with
  | block h => exact .single (.step (h.channel q))
  | request c tag id => exact .refl
  | listen c => exact .refl
  | upload p c _ hlive hok =>
    by_cases hbs : (clientRead env p c (w.conns p).sendable w).2 = []
    · rw [clientToDevice_none p c hbs] at hok
      cases hok
    · rw [clientToDevice_some p c hbs] at hok ⊢
      dsimp only at hok ⊢
      generalize (clientRead env p c (w.conns p).sendable w).2 = bs at hok ⊢
      split at hok
      · rename_i hsent
        rw [if_pos hsent]
        dsimp only
        by_cases hq : q = p
        · subst hq
          obtain ⟨hflow, hhist⟩ := sendTcp_uploading q c env bs w
          rw [channel_setConn, hhist, hsent]
          refine .single (.upload bs _ hlive.state ?_ ?_)
          · exact Bool.not_eq_true _ |>.mp fun hfreed => hlive.alive (history_freed hfreed)
          · have hconn : (w.channel q).conn = w.conns q := rfl
            simp only [hconn, MuxConnection.flow, MuxConnection.advance, Flow.mk.injEq] at hflow ⊢
            simpa using hflow
        · rw [channel_setConn_other _ _ hq, sendTcp_channel_other _ _ _ _ _ _ hq, uploading_channel_other c hq]
      · exact absurd hok ‹_›
  | failedUpload p c _ hlive hfailed =>
    by_cases hbs : (clientRead env p c (w.conns p).sendable w).2 = []
    · rw [clientToDevice_none p c hbs]
      have hsame := clientRead_none p q c env hbs
      rw [← hsame]
      exact ((traffic_tearDown env p _).work.channel q).turns
    · rw [clientToDevice_some p c hbs] at hfailed ⊢
      dsimp only at hfailed ⊢
      generalize (clientRead env p c (w.conns p).sendable w).2 = bs at hfailed ⊢
      split at hfailed
      · cases hfailed
      · rename_i hlost
        rw [if_neg hlost]
        have hsteps := (traffic_tearDown env p (sendTcp env p thAck bs (uploading p c bs w)).1).work.channel q
        by_cases hq : q = p
        · subst hq
          obtain ⟨hflow, hhist⟩ := sendTcp_uploading q c env bs w
          have hstate : ((sendTcp env q thAck bs (uploading q c bs w)).1.conns q).state = .connected :=
            (congrArg Flow.state hflow).trans hlive.state
          have hchan : (sendTcp env q thAck bs (uploading q c bs w)).1.channel q = ⟨_, _⟩ := congrArg (Channel.mk _) hhist
          rw [hchan, hfailed] at hsteps
          refine .single (.failedUpload bs _ hlive.state ?_ hflow hsteps ?_)
          · exact Bool.not_eq_true _ |>.mp fun hfreed => hlive.alive (history_freed hfreed)
          · exact tearDown_freed q _ (by rw [hstate]; decide)
        · rw [sendTcp_channel_other _ _ _ _ _ _ hq, uploading_channel_other c hq] at hsteps
          exact hsteps.turns

theorem Turns.channel (h : Turns env w w') (q : Ptr) : Channel.Turns env.Sends (w.channel q) (w'.channel q) := by
  induction h with
  | refl => exact .refl
  | tail _ hturn ih => exact ih.trans (hturn.channel q)

/-- A run takes every connection through a sequence of turns. -/
theorem channel_run (env : Env) (ops : List Op) (p : Ptr) :
    Channel.Turns env.Sends (World.init.channel p) ((run env ops).channel p) :=
  (turns_run env [] ops).channel p

end Refinement

end Usbmuxd
