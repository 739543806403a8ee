import Usbmuxd.Streams.Uploads

/-!
# What is said for one connection

Whatever is done for one connection has one of three shapes. The connection stays, and the segments
that are sent for it carry no `RST`. Or it ends: at most one `RST` goes out, then its client is told or
closed, and it is freed. Or the caller of a function that has torn it down goes on with it.

## The model

* `Polite p` — entries that send no `RST`, send for `p` only, and free and touch no connection that is gone.
* `Farewell p` — what `connection_teardown` writes: at most one `RST`, and nothing sent after it.
* `Answer p` — polite entries, and maybe a farewell; `Touched p` — a farewell, and then a use of the
  connection.

## What is proved

* `farewell_connectionTeardown` — the teardown of a connection that is bound to its client.
* `answer_…` — one for each function that works for a connection, `Answer` or `Touched` by the outcomes
  of the calls it makes.
-/

namespace Usbmuxd

open World Relation

/-! ### Entries -/

/-- An entry that sends nothing, frees no connection and uses none that is gone. -/
def Event.quiet : Event → Bool
  | .usbSend .. | .segment .. | .freeConn .. | .fault .freedConn | .fault .nullConn => false
  | _ => true

/-- A packet that carries `TH_RST` in its TCP header, as a device of this version reads it. -/
def isRst (version : ℕ) (packet : List UInt8) : Bool :=
  ntohl (.ofList packet) 0 == MuxProtocol.tcp.code && (TcpHdr.read (.ofList packet) (muxHeaderSize version)).hasRst

/-- An `RST` is handed to `usb_send`. -/
def Event.sendsRst (version : Ptr → ℕ) : Event → Bool
  | .usbSend d packet _ => isRst (version d) packet
  | _ => false

/-- An entry that sends no `RST`, sends segments for `p` only, frees no connection and uses none that is gone. -/
def Event.polite (version : Ptr → ℕ) (p : Ptr) : Event → Bool
  | .usbSend d packet _ => !isRst (version d) packet
  | .segment q th .. => q == p && !th.hasRst
  | e => e.quiet

theorem Event.polite_of_quiet (version : Ptr → ℕ) (p : Ptr) (e : Event) (h : e.quiet = true) :
    e.polite version p = true := by
  cases e <;> simp_all [Event.quiet, Event.polite]

/-- The versions of the devices. -/
def World.versions (w : World) (d : Ptr) : ℕ := (w.devs d).version

theorem Confined.versions {P C : Ptr → Prop} {w w' : World} (h : Confined P C w w') : w'.versions = w.versions :=
  funext fun d => (congrArg MuxDevice.version (h.devs d) : (w'.devs d).kept.version = (w.devs d).kept.version)

/-- A device finds the header that was put into a packet. -/
theorem isRst_packetBytes (dev : MuxDevice) (th : TcpHdr) (data : List UInt8) :
    isRst dev.version (dev.packetBytes .tcp th.bytes data) = th.hasRst := by
  have hheld := Mem.holdsAt_ofList (dev.packetBytes .tcp th.bytes data) []
  rw [List.append_nil] at hheld
  unfold isRst
  generalize Mem.ofList (dev.packetBytes .tcp th.bytes data) = m at hheld ⊢
  simp only [MuxDevice.packetBytes, Mem.HoldsAt.append, length_muxHeaderBytes, Nat.zero_add] at hheld
  obtain ⟨⟨hmux, hth⟩, -⟩ := hheld
  rw [muxHeaderBytes, Mem.HoldsAt.append, Mem.HoldsAt.append] at hmux
  rw [ntohl_htonl hmux.1.1, TcpHdr.read_bytes hth, beq_self_eq_true, Bool.true_and]

/-- The flags of an acknowledgement are those of no `RST`. -/
theorem hasRst_thAck (conn : MuxConnection) : (conn.tcpHeader thAck).hasRst = false := by
  show (thAck &&& thRst != 0) = false
  decide

theorem hasRst_thSyn (conn : MuxConnection) : (conn.tcpHeader thSyn).hasRst = false := by
  show (thSyn &&& thRst != 0) = false
  decide

/-! ### Quiet steps -/

section Quiet

variable {env : Env} {w w' : World} {p c : Ptr}

theorem quiet_clientRead (env : Env) (p c : Ptr) (len : UInt32) (w : World) :
    w.Grows Event.quiet (clientRead env p c len w).1 := by
  unfold clientRead
  split
  · exact .refl _ w
  · dsimp only
    split
    · exact .none rfl
    · exact .one rfl rfl

theorem quiet_clientWrite (env : Env) (p c : Ptr) (buffer : Mem) (len : UInt32) (w : World) :
    w.Grows Event.quiet (clientWrite env p c buffer len w).1 := by
  unfold clientWrite
  split
  · exact .refl _ w
  · dsimp only
    split
    · exact .none rfl
    · exact .one rfl rfl

theorem quiet_flushInBuf (env : Env) (p c : Ptr) (n : ℕ) (w : World) : w.Grows Event.quiet (flushInBuf env p c n w) := by
  induction n generalizing w with
  | zero => exact .one rfl rfl
  | succ n ih =>
    have hwrite := quiet_clientWrite env p c (w.conns p).ibBuf (w.conns p).ibSize w
    unfold flushInBuf
    dsimp only
    split
    · exact hwrite
    · split
      · exact hwrite.trans (.none rfl)
      · refine World.Grows.trans ?_ (ih _)
        exact hwrite.trans (.none rfl)

theorem quiet_updateConnection (p : Ptr) (w : World) : w.Grows Event.quiet (updateConnection p w) := by
  unfold updateConnection
  dsimp only
  split
  · exact .none (clientSetEvents_log ..)
  · exact .one rfl rfl

theorem quiet_sendPkt (env : Env) (c : Ptr) (tag : UInt32) (msg : MsgType) (payload : List UInt8) (w : World) :
    w.Grows Event.quiet (sendPkt env c tag msg payload w).1 := by
  have hroom : w.Grows Event.quiet (enlargeOutBuffer env c (usbmuxdHeaderSize + UInt32.ofNat payload.length) w).1 := by
    unfold enlargeOutBuffer
    dsimp only
    split
    · split <;> exact .none rfl
    · exact .refl _ w
  unfold sendPkt
  dsimp only
  split
  · split
    · exact hroom.trans (.one rfl rfl)
    · exact hroom.trans (.one rfl rfl)
  · exact hroom

theorem quiet_sendResult (env : Env) (c : Ptr) (tag result : UInt32) (w : World) :
    w.Grows Event.quiet (sendResult env c tag result w).1 := by
  unfold sendResult
  split
  · unfold sendPlistPkt
    split
    · exact .none rfl
    · have htock : w.Grows Event.quiet w.tock := .none rfl
      exact htock.trans (quiet_sendPkt ..)
  · exact quiet_sendPkt ..

theorem quiet_clientNotifyConnect (env : Env) (c : Ptr) (result : UInt32) (w : World) :
    w.Grows Event.quiet (clientNotifyConnect env c result w).1 := by
  have hsend := quiet_sendResult env c (w.clients c).connectTag result w
  unfold clientNotifyConnect
  split
  · exact .refl _ w
  · dsimp only
    split
    · split
      · exact hsend.trans (.none rfl)
      · exact hsend.trans (.none rfl)
    · exact hsend

/-- The release of a client, maybe after its state has been changed. -/
theorem quiet_releaseClient {u : World} (hlog : u.log = w.log) (c : Ptr) : w.Grows Event.quiet (releaseClient c u) :=
  ⟨[.closeSocket c, .freeClient c], by simp [hlog], by simp [Event.quiet]⟩

end Quiet

/-! ### Teardown -/

/-- A teardown: the connection says at most that it is reset, is freed, and sends nothing after that. -/
def Farewell (env : Env) (p : Ptr) (w w' : World) : Prop :=
  ∃ es es', w'.log = (sendTeardownRst env p w).log ++ es ++ .freeConn p :: es' ∧ (∀ e ∈ es, e.quiet = true) ∧
    ∀ e ∈ es', e.quiet = true ∧ e.conn? = none

section Teardown

variable {env : Env} {w w' w'' : World} {p c : Ptr}

/-- The connection is released at the end. -/
theorem farewell_releaseConn {u : World} (h : (sendTeardownRst env p w).Grows Event.quiet u) :
    Farewell env p w (releaseConn p u) := by
  obtain ⟨es, hlog, hquiet⟩ := h
  exact ⟨es, [], by rw [releaseConn, emit_log, setDev_log, hlog], hquiet, by simp⟩

/-- What follows a teardown is not about the connection. -/
theorem Farewell.trans (h : Farewell env p w w') (h' : w'.Grows (fun e => e.quiet && e.conn?.isNone) w'') :
    Farewell env p w w'' := by
  obtain ⟨es, es', hlog, hquiet, hafter⟩ := h
  obtain ⟨es'', hlog', hafter'⟩ := h'
  refine ⟨es, es' ++ es'', by rw [hlog', hlog]; simp, hquiet, fun e he => ?_⟩
  rcases List.mem_append.mp he with he | he
  · exact hafter e he
  · simpa using hafter' e he

/-- Without a client there is only the connection to release. -/
theorem farewell_orphan (hclient : (w.conns p).client = none) (hstate : (w.conns p).state ≠ .dead) :
    Farewell env p w (tearDown env p w) := by
  rw [tearDown, callDepth, connectionTeardown_orphan 3 hclient hstate]
  exact farewell_releaseConn (.refl _ _)

theorem farewell_connectionTeardown (h : Bound p c w) (hstate : (w.conns p).state ≠ .dead) (n : ℕ) :
    Farewell env p w (connectionTeardown env (n + 3) p w) := by
  by_cases hearly : (w.conns p).state = .refused ∨ (w.conns p).state = .connecting
  · rw [connectionTeardown_notify (n + 2) h.client hearly]
    exact farewell_releaseConn (quiet_clientNotifyConnect ..)
  · have hlate : (w.conns p).state = .connected ∨ (w.conns p).state = .dying := by
      cases hs : (w.conns p).state <;> simp_all
    rw [connectionTeardown_close (n + 2) h.client hlate]
    refine farewell_releaseConn ?_
    have hdead : ((closing env p c w).conns p).state = .dead := closing_dead
    have hbound : Bound p c (closing env p c w) := h.congr registry_closing h.client
    have hclosing : (sendTeardownRst env p w).Grows Event.quiet (closing env p c w) := by
      have hset : (sendTeardownRst env p w).Grows Event.quiet ((sendTeardownRst env p w).setConn p (·.become .dead)) :=
        .none rfl
      unfold closing
      dsimp only
      split
      · exact hset.trans (quiet_flushInBuf ..)
      · exact hset
    generalize closing env p c w = v at hdead hbound hclosing ⊢
    refine hclosing.trans ?_
    by_cases hwaits : (v.clients c).state = .connecting1 ∨ (v.clients c).state = .connecting2
    · cases hlookup : v.registry.lookup (v.clients c).connectDevice c with
      | none =>
        rw [clientClose_not_found (n + 1) hwaits hlookup]
        exact quiet_releaseClient rfl c
      | some q =>
        obtain rfl := hbound.lookup q hlookup
        rw [clientClose_found (n + 1) hwaits hlookup, connectionTeardown_dead n (by simpa using hdead)]
        exact quiet_releaseClient rfl c
    · rw [clientClose_release (n + 1) (not_or.mp hwaits)]
      exact quiet_releaseClient rfl c

theorem farewell_tearDown (h : Bound p c w) (hstate : (w.conns p).state ≠ .dead) :
    Farewell env p w (tearDown env p w) := farewell_connectionTeardown h hstate 1

end Teardown

/-! ### Polite steps -/

/-- A step that sends no `RST`, sends segments for `p` only, and frees and uses no connection that is gone. -/
structure Polite (p : Ptr) (w w' : World) : Prop where
  log : w.Grows (Event.polite w.versions p) w'
  versions : w'.versions = w.versions

section Polite

variable {env : Env} {P C : Ptr → Prop} {w w' w'' : World} {p c : Ptr}

theorem Polite.refl (p : Ptr) (w : World) : Polite p w w := ⟨.refl _ w, rfl⟩

theorem Polite.trans (h : Polite p w w') (h' : Polite p w' w'') : Polite p w w'' :=
  ⟨h.log.trans (h.versions ▸ h'.log), h'.versions.trans h.versions⟩

theorem polite_of_quiet (h : w.Grows Event.quiet w') (hstep : Confined P C w w') : Polite p w w' :=
  ⟨h.mono (Event.polite_of_quiet _ p), hstep.versions⟩

theorem polite_emit {e : Event} (he : e.quiet = true) (w : World) : Polite p w (w.emit e) :=
  ⟨.one rfl (Event.polite_of_quiet _ p e he), rfl⟩

theorem polite_setConn (q : Ptr) (f : MuxConnection → MuxConnection) (w : World) : Polite p w (w.setConn q f) :=
  ⟨.none rfl, rfl⟩

/-- What a segment writes into the log: a packet, if it is not too long, and the segment. -/
theorem sendTcp_entries (env : Env) (p : Ptr) (flags : UInt8) (data : List UInt8) (w : World) :
    ∃ es, (sendTcp env p flags data w).1.log = w.log ++ es ∧
      (es = [.segment p ((w.conns p).tcpHeader flags) data false] ∨
        ∃ ok, es = [.usbSend (w.conns p).dev ((w.devs (w.conns p).dev).packetBytes .tcp
            ((w.conns p).tcpHeader flags).bytes data) ok, .segment p ((w.conns p).tcpHeader flags) data ok]) := by
  unfold sendTcp sendPacket usbSend
  dsimp only
  split
  · exact ⟨_, rfl, .inl rfl⟩
  · refine ⟨_, ?_, .inr ⟨env.usbSend w.tick, rfl⟩⟩
    split <;> simp

theorem countP_cons_le {f : Event → Bool} {e : Event} {es : List Event} (h : es.countP f = 0) :
    (e :: es).countP f ≤ 1 := by
  rw [List.countP_cons, h, Nat.zero_add]
  split <;> decide

/-- What a teardown sends: one `RST` at most, and none for a connection that has been refused or reset. -/
theorem sendTeardownRst_entries (env : Env) (p : Ptr) (w : World) :
    ∃ es, (sendTeardownRst env p w).log = w.log ++ es ∧ (∀ e ∈ es, e.isSending = true) ∧
      es.countP (Event.sendsRst w.versions) ≤ 1 ∧
      ((es = [] ∨ ∃ before th data ok, es = before ++ [.segment p th data ok] ∧ ∀ e ∈ before, e.conn? = none)) ∧
      ((w.conns p).state = .refused ∨ (w.conns p).state = .dying → es = []) := by
  unfold sendTeardownRst
  dsimp only
  split
  · rename_i hrst
    obtain ⟨es, hlog, hes⟩ := sendTcp_entries env p thRst [] w
    refine ⟨es, hlog, ?_, ?_, .inr ?_, fun hstate => absurd hstate (not_or.mpr ⟨hrst.2.2, hrst.2.1⟩)⟩
    · rcases hes with rfl | ⟨ok, rfl⟩ <;> simp [Event.isSending]
    · rcases hes with rfl | ⟨ok, rfl⟩
      · simp [Event.sendsRst]
      · exact countP_cons_le rfl
    · rcases hes with rfl | ⟨ok, rfl⟩
      · exact ⟨[], _, _, _, rfl, by simp⟩
      · exact ⟨[_], _, _, _, rfl, by simp [Event.conn?]⟩
  · exact ⟨[], by simp, by simp, by simp, .inl rfl, fun _ => rfl⟩

theorem polite_sendTcp {flags : UInt8} (hflags : ((w.conns p).tcpHeader flags).hasRst = false) (env : Env)
    (data : List UInt8) : Polite p w (sendTcp env p flags data w).1 := by
  have hstep : Confined (Eq p) (fun _ => False) w (sendTcp env p flags data w).1 := .sendTcp rfl env flags data w
  refine ⟨?_, hstep.versions⟩
  obtain ⟨es, hlog, hes⟩ := sendTcp_entries env p flags data w
  refine ⟨es, hlog, ?_⟩
  rcases hes with rfl | ⟨ok, rfl⟩
  · simp [Event.polite, hflags]
  · simp [Event.polite, hflags, World.versions, isRst_packetBytes]

end Polite

/-! ### The shapes -/

/-- A connection has ended, with at most one `RST`. -/
def Ended (env : Env) (p : Ptr) (w w' : World) : Prop := ∃ v, Polite p w v ∧ Farewell env p v w'

/-- A connection stays or has ended. -/
def Answer (env : Env) (p : Ptr) (w w' : World) : Prop := Polite p w w' ∨ Ended env p w w'

/-- A connection has ended, and has been used again. -/
def Touched (env : Env) (p : Ptr) (w w' : World) : Prop := ∃ u, Ended env p w u ∧ w' = u.emit (.fault .freedConn)

section Shapes

variable {env : Env} {w w' v : World} {p c : Ptr}

theorem Ended.after (h : Ended env p v w') (hbefore : Polite p w v) : Ended env p w w' := by
  obtain ⟨u, hu, hbye⟩ := h
  exact ⟨u, hbefore.trans hu, hbye⟩

theorem Answer.after (h : Answer env p v w') (hbefore : Polite p w v) : Answer env p w w' :=
  h.imp hbefore.trans fun hend => hend.after hbefore

theorem Touched.after (h : Touched env p v w') (hbefore : Polite p w v) : Touched env p w w' := by
  obtain ⟨u, hend, hfault⟩ := h
  exact ⟨u, hend.after hbefore, hfault⟩

theorem ended_tearDown (h : Bound p c w) (hstate : (w.conns p).state ≠ .dead) : Ended env p w (tearDown env p w) :=
  ⟨w, .refl p w, farewell_tearDown h hstate⟩

/-! ### Functions -/

theorem polite_updated (h : Bound p c w) : Polite p w (updateConnection p w) :=
  polite_of_quiet (quiet_updateConnection p w) (Confined.updated h (P := Eq p) (C := Eq c) rfl rfl)

/-- An acknowledgement goes out, or the connection ends. -/
theorem sendTcpAck_shape (env : Env) (h : Bound p c w) (hstate : (w.conns p).state ≠ .dead) :
    if (sendTcpAck env p w).2 then Polite p w (sendTcpAck env p w).1 else Ended env p w (sendTcpAck env p w).1 := by
  have hsent : Polite p w (sendTcp env p thAck [] w).1 := polite_sendTcp (hasRst_thAck _) env []
  have hbound := h.sendTcp env thAck []
  have halive : ((sendTcp env p thAck [] w).1.conns p).state ≠ .dead :=
    (sendTcp_state env p w p thAck []).trans_ne hstate
  unfold sendTcpAck
  dsimp only
  generalize sendTcp env p thAck [] w = r at hsent hbound halive ⊢
  by_cases hok : r.2 = true
  · rw [if_pos hok]
    exact hsent.trans (polite_updated hbound)
  · rw [if_neg hok]
    exact (ended_tearDown hbound halive).after hsent

theorem polite_deviceToClient (env : Env) (p c : Ptr) (w : World) : Polite p w (deviceToClient env p c w).1 := by
  have hstep : Confined (Eq p) (Eq c) w (deviceToClient env p c w).1 := .deviceToClient rfl rfl env w
  refine polite_of_quiet ?_ hstep
  have hwrite := quiet_clientWrite env p c (w.conns p).ibBuf (w.conns p).ibSize w
  unfold deviceToClient
  dsimp only
  split
  · exact hwrite
  · exact hwrite.trans (.none rfl)

theorem polite_clientToDevice (env : Env) (p c : Ptr) (w : World) : Polite p w (clientToDevice env p c w).1 := by
  have hread : Polite p w (clientRead env p c (w.conns p).sendable w).1 :=
    polite_of_quiet (quiet_clientRead ..) (Confined.clientRead (P := Eq p) (C := Eq c) rfl ..)
  unfold clientToDevice
  dsimp only
  split
  · exact hread
  · have hfilled := hread.trans (polite_setConn p (·.fill (clientRead env p c (w.conns p).sendable w).2) _)
    have hsent := fun data => hfilled.trans (polite_sendTcp (hasRst_thAck _) env data)
    split
    · dsimp only
      exact (hsent _).trans (polite_setConn p _ _)
    · exact hsent _

theorem answer_processClientInput (h : Bound p c w) (hstate : (w.conns p).state ≠ .dead) (events : Events) :
    Answer env p w (processClientInput env p c events w) := by
  unfold processClientInput
  split
  · have hup := polite_clientToDevice env p c w
    have hreg : (clientToDevice env p c w).1.registry = w.registry := registry_clientToDevice env p c w
    have halive : ((clientToDevice env p c w).1.conns p).state ≠ .dead :=
      (congrArg ConnEntry.state (congrFun (congrArg Registry.conns hreg) p)).trans_ne hstate
    dsimp only
    split
    · exact .inl (hup.trans (polite_updated (h.same hreg)))
    · exact .inr ((ended_tearDown (h.same hreg) halive).after hup)
  · exact .inl (polite_updated h)

/-- The in-buffer has no room for a payload. -/
def MuxConnection.overflows (conn : MuxConnection) (payload : List UInt8) : Bool :=
  conn.ibCapacity < conn.ibSize + UInt32.ofNat payload.length

/-- A payload is taken, or the connection ends. -/
theorem connectionDeviceInput_shape (env : Env) (h : Bound p c w) (hstate : (w.conns p).state ≠ .dead)
    (payload : List UInt8) :
    if (w.conns p).overflows payload then
      (connectionDeviceInput env p payload w).2 = false ∧ Ended env p w (connectionDeviceInput env p payload w).1
    else (connectionDeviceInput env p payload w).2 = true ∧ Polite p w (connectionDeviceInput env p payload w).1 := by
  unfold connectionDeviceInput MuxConnection.overflows
  by_cases hfull : (w.conns p).ibCapacity < (w.conns p).ibSize + UInt32.ofNat payload.length
  · rw [if_pos (by simpa using hfull)]
    simp only [if_pos hfull]
    exact ⟨trivial, (ended_tearDown (h.same (registry_emit w rfl)) hstate).after (polite_emit rfl w)⟩
  · have hbound : Bound p c ((w.emit (.accepted p payload)).setConn p (·.append payload)) :=
      (h.same (registry_emit w rfl)).setConn rfl
    rw [if_neg (by simpa using hfull)]
    simp only [if_neg hfull]
    exact ⟨trivial, ((polite_emit rfl w).trans (polite_setConn p _ _)).trans (polite_updated hbound)⟩

/-- A segment for an established connection. The caller goes on with a connection that has ended when
its in-buffer has no room for the payload. -/
theorem connectedInput_shape (env : Env) (h : Bound p c w) (hstate : (w.conns p).state = .connected) (th : TcpHdr)
    (payload : List UInt8) :
    if th.flags = thAck ∧ (w.conns p).overflows payload then Touched env p w (connectedInput env p th payload w)
    else Answer env p w (connectedInput env p th payload w) := by
  have halive : (w.conns p).state ≠ .dead := by rw [hstate]; decide
  have hinput := connectionDeviceInput_shape env h halive payload
  unfold connectedInput
  by_cases hack : th.flags = thAck
  · rw [if_neg (not_not.mpr hack)]
    by_cases hfull : (w.conns p).overflows payload
    · rw [if_pos hfull] at hinput
      rw [if_pos ⟨hack, hfull⟩]
      simp only [hinput.1, Bool.false_eq_true, if_false]
      exact ⟨_, hinput.2, rfl⟩
    · rw [if_neg hfull] at hinput
      rw [if_neg fun hno => hfull hno.2]
      simp only [hinput.1, if_true]
      have hreg := registry_connectionDeviceInput hinput.1
      split
      · have hshape := sendTcpAck_shape env (h.same hreg)
          ((connectionDeviceInput_state env p w hinput.1 p).trans_ne halive)
        split at hshape
        · exact .inl (hinput.2.trans hshape)
        · exact .inr (hshape.after hinput.2)
      · exact .inl hinput.2
  · rw [if_pos hack, if_neg fun hno => hack hno.1]
    split
    · exact .inr ((ended_tearDown (h.setConn rfl) (by simp)).after (polite_setConn p _ w))
    · exact .inr (ended_tearDown h halive)

/-- A segment without data goes out when its packet does, and takes a tick more for the time. -/
theorem sendTcp_outcome (env : Env) (p : Ptr) (flags : UInt8) (w : World) :
    (sendTcp env p flags [] w).2 = env.usbSend w.tick ∧
      (env.usbSend w.tick = true → (sendTcp env p flags [] w).1.tick = w.tick + 2) := by
  have hsend : sendPacket env (w.conns p).dev .tcp ((w.conns p).tcpHeader flags).bytes [] w =
      usbSend env (w.conns p).dev ((w.devs (w.conns p).dev).packetBytes .tcp ((w.conns p).tcpHeader flags).bytes [])
        (w.setDev (w.conns p).dev (·.countPacket .tcp)) := by
    refine if_neg (not_or.mpr ⟨by decide, Nat.not_lt.mpr ?_⟩)
    have hhdr : muxHeaderSize (w.devs (w.conns p).dev).version ≤ 16 := by
      unfold muxHeaderSize sizeofMuxHeader
      split <;> omega
    simp only [MuxDevice.packetLength, length_tcpHdr_bytes, List.length_nil, usbMtu, tcphdrSize]
    omega
  unfold sendTcp
  dsimp only
  rw [hsend]
  simp only [usbSend, setDev_tick]
  cases env.usbSend w.tick <;> simp

/-- Whether a client can be told depends on its record and the time alone. -/
theorem clientNotifyConnect_outcome (env : Env) {v w : World} (hclient : v.clients c = w.clients c)
    (htick : v.tick = w.tick) (result : UInt32) :
    (clientNotifyConnect env c result v).2 = (clientNotifyConnect env c result w).2 := by
  have hroom : ∀ {v w : World} (length : UInt32), v.clients c = w.clients c → v.tick = w.tick →
      (enlargeOutBuffer env c length v).2 = (enlargeOutBuffer env c length w).2 ∧
        (enlargeOutBuffer env c length v).1.clients c = (enlargeOutBuffer env c length w).1.clients c := by
    intro v w length hclient htick
    unfold enlargeOutBuffer
    simp only [hclient, htick]
    split_ifs <;> simp [hclient]
  have hpkt : ∀ {v w : World} (tag : UInt32) (msg : MsgType) (payload : List UInt8), v.clients c = w.clients c →
      v.tick = w.tick → (sendPkt env c tag msg payload v).2 = (sendPkt env c tag msg payload w).2 := by
    intro v w tag msg payload hclient htick
    obtain ⟨hok, hsame⟩ := hroom (usbmuxdHeaderSize + UInt32.ofNat payload.length) hclient htick
    unfold sendPkt
    simp only [hok, hsame]
    split
    · split <;> rfl
    · exact hok
  have hresult : ∀ tag, (sendResult env c tag result v).2 = (sendResult env c tag result w).2 := by
    intro tag
    unfold sendResult sendPlistPkt
    simp only [hclient, htick]
    split
    · split
      · rfl
      · exact hpkt _ _ _ (by simpa using hclient) (by simp [htick])
    · exact hpkt _ _ _ hclient htick
  unfold clientNotifyConnect
  simp only [hclient, hresult]
  split
  · rfl
  · split
    · split <;> rfl
    · exact hresult _

/-- The client of a connection that has just been established is told, or the connection ends and is used again. -/
theorem establish_shape (env : Env) (hclient : (w.conns p).client = some c) (hstate : (w.conns p).state ≠ .dead) :
    if (clientNotifyConnect env c resultOk w).2 then
      Polite p w (updateConnection p (clientNotifyConnect env c resultOk w).1)
    else Touched env p w ((tearDown env p ((clientNotifyConnect env c resultOk w).1.setConn p (·.orphan))).emit
      (.fault .freedConn)) := by
  have hstep : Confined (fun _ => False) (Eq c) w _ := .clientNotifyConnect rfl env resultOk w
  have hconn := hstep.conns p id
  have hnotify : Polite p w _ := polite_of_quiet (quiet_clientNotifyConnect env c resultOk w) hstep
  generalize clientNotifyConnect env c resultOk w = s at hconn hnotify ⊢
  split
  · refine hnotify.trans (polite_of_quiet (quiet_updateConnection p s.1) (P := Eq p) (C := Eq c) ?_)
    refine .updateConnection rfl fun c' hc' => ?_
    rw [hconn, hclient, Option.some.injEq] at hc'
    exact hc'
  · refine ⟨_, ⟨_, hnotify.trans (polite_setConn p (·.orphan) _), farewell_orphan (by simp) ?_⟩, rfl⟩
    simpa [hconn] using hstate

/-- A `SYN|ACK` for a connection that waits for it. The caller goes on with a connection that has ended
when the acknowledgement has gone out and the client cannot be told. -/
theorem connectingInput_shape (env : Env) (h : Bound p c w) (hstate : (w.conns p).state = .connecting) (th : TcpHdr) :
    if th.flags = thSyn ||| thAck ∧ env.usbSend w.tick = true ∧
        (clientNotifyConnect env c resultOk w.tock.tock).2 = false then Touched env p w (connectingInput env p th w)
    else Answer env p w (connectingInput env p th w) := by
  have halive : (w.conns p).state ≠ .dead := by rw [hstate]; decide
  unfold connectingInput
  by_cases hflags : th.flags = thSyn ||| thAck
  · rw [if_neg (not_not.mpr hflags)]
    simp only [hflags, true_and]
    have hans : Polite p w ((w.emit (.synAck p)).setConn p (·.handshake)) :=
      (polite_emit rfl w).trans (polite_setConn p _ _)
    have hbound : Bound p c ((w.emit (.synAck p)).setConn p (·.handshake)) := (h.same (registry_emit w rfl)).setConn rfl
    have halive' : (((w.emit (.synAck p)).setConn p (·.handshake)).conns p).state ≠ .dead := by simpa using halive
    have hticks : ((w.emit (.synAck p)).setConn p (·.handshake)).tick = w.tick := rfl
    have hclients : ((w.emit (.synAck p)).setConn p (·.handshake)).clients = w.clients := rfl
    generalize (w.emit (.synAck p)).setConn p (·.handshake) = v at hans hbound halive' hticks hclients ⊢
    have hsent : Polite p w (sendTcp env p thAck [] v).1 := hans.trans (polite_sendTcp (hasRst_thAck _) env [])
    have hbound' := hbound.sendTcp env thAck []
    have halive'' : ((sendTcp env p thAck [] v).1.conns p).state ≠ .dead :=
      (sendTcp_state env p v p thAck []).trans_ne halive'
    obtain ⟨hout, htick⟩ := sendTcp_outcome env p thAck v
    have hclients' := sendTcp_clients env p v thAck []
    rw [hticks] at hout htick
    generalize sendTcp env p thAck [] v = r at hsent hbound' halive'' hout htick hclients' ⊢
    by_cases hok : env.usbSend w.tick = true
    · have hcon : Polite p w (r.1.setConn p (·.become .connected)) := hsent.trans (polite_setConn p _ _)
      have hclient : ((r.1.setConn p (·.become .connected)).conns p).client = some c :=
        (hbound'.setConn (f := (·.become .connected)) rfl).client
      have htold := clientNotifyConnect_outcome (c := c) env (v := r.1.setConn p (·.become .connected))
        (w := w.tock.tock) (by simp [hclients', hclients]) (by simp [htick hok]) resultOk
      have hend := establish_shape env hclient (by simp)
      simp only [hout, hok, if_true, true_and, hclient]
      rw [← htold]
      split at hend
      · rename_i htrue
        rw [if_neg (by simp [htrue]), if_pos htrue]
        exact .inl (hcon.trans hend)
      · rename_i hfalse
        rw [if_pos (by simpa using hfalse), if_neg hfalse]
        exact hend.after hcon
    · simp only [hout, hok, Bool.false_eq_true, if_false, false_and]
      exact .inr ((ended_tearDown hbound' halive'').after hsent)
  · rw [if_pos hflags, if_neg fun hno => hflags hno.1]
    split
    · exact .inr ((ended_tearDown (h.setConn rfl) (by simp)).after (polite_setConn p _ w))
    · exact .inr (ended_tearDown h halive)

/-- Bytes of the in-buffer are taken in one tick. -/
theorem deviceToClient_outcome (env : Env) (p c : Ptr) (w : World) :
    (deviceToClient env p c w).2 = decide ((clientWrite env p c (w.conns p).ibBuf (w.conns p).ibSize w).2 ≠ 0) ∧
      ((deviceToClient env p c w).2 = true → (deviceToClient env p c w).1.tick = w.tick + 1) := by
  unfold deviceToClient
  dsimp only
  split
  · rename_i hnone
    simp [hnone]
  · rename_i hsome
    refine ⟨by simp [hsome], fun _ => ?_⟩
    rw [setConn_tick, clientWrite_some env p c w hsome]
    rfl

/-- The outcomes with which `device_client_process` goes on with a connection that has ended: the client takes
bytes, the window was small, and its update cannot be sent. -/
def updateLost (env : Env) (p c : Ptr) (events : Events) (w : World) : Prop :=
  events.pollout = true ∧ 0 < (w.conns p).ibSize ∧
    (clientWrite env p c (w.conns p).ibBuf (w.conns p).ibSize w).2 ≠ 0 ∧ (w.conns p).txWin < maxMuxPacketSize ∧
      env.usbSend (w.tick + 1) = false

instance (env : Env) (p c : Ptr) (events : Events) (w : World) : Decidable (updateLost env p c events w) :=
  inferInstanceAs (Decidable (_ ∧ _ ∧ _ ∧ _ ∧ _))

/-- What a client's readiness leads to. -/
theorem deviceClientProcess_shape (env : Env) {id : ℕ} (hfound : getMuxConnection w id c = some p) (h : Bound p c w)
    (hstate : (w.conns p).state ≠ .dead) (events : Events) :
    if updateLost env p c events w then Touched env p w (deviceClientProcess env id c events w)
    else Answer env p w (deviceClientProcess env id c events w) := by
  unfold deviceClientProcess
  simp only [hfound]
  by_cases hwrite : events.pollout = true ∧ 0 < (w.conns p).ibSize
  · rw [if_pos hwrite]
    have hdown := polite_deviceToClient env p c w
    obtain ⟨hout, htick⟩ := deviceToClient_outcome env p c w
    have hreg : (deviceToClient env p c w).1.registry = w.registry := registry_deviceToClient env p c w
    have hbound := h.same hreg
    have halive : ((deviceToClient env p c w).1.conns p).state ≠ .dead :=
      (congrArg ConnEntry.state (congrFun (congrArg Registry.conns hreg) p)).trans_ne hstate
    generalize deviceToClient env p c w = r at hdown hout htick hbound halive ⊢
    by_cases htaken : r.2 = true
    · have hsome : (clientWrite env p c (w.conns p).ibBuf (w.conns p).ibSize w).2 ≠ 0 := by simpa [htaken] using hout
      simp only [htaken, if_true]
      by_cases hsmall : (w.conns p).txWin < maxMuxPacketSize
      · have hshape := sendTcpAck_shape env hbound halive
        have hack : (sendTcpAck env p r.1).2 = env.usbSend (w.tick + 1) := by
          rw [← htick htaken, ← (sendTcp_outcome env p thAck r.1).1]
          unfold sendTcpAck
          dsimp only
          split
          · rename_i hok
            exact hok.symm
          · rename_i hfail
            exact (Bool.not_eq_true _ |>.mp hfail).symm
        rw [if_pos hsmall]
        by_cases hok : env.usbSend (w.tick + 1) = true
        · rw [if_neg fun hlost => by simp [updateLost, hok] at hlost]
          rw [if_pos (hack.trans hok)] at hshape
          rw [if_pos (hack.trans hok)]
          have hreg' := registry_sendTcpAck (hack.trans hok)
          have halive' : ((sendTcpAck env p r.1).1.conns p).state ≠ .dead :=
            (congrArg ConnEntry.state (congrFun (congrArg Registry.conns hreg') p)).trans_ne halive
          exact (answer_processClientInput (hbound.same hreg') halive' events).after (hdown.trans hshape)
        · rw [Bool.not_eq_true] at hok
          rw [if_pos ⟨hwrite.1, hwrite.2, hsome, hsmall, hok⟩]
          rw [hack, hok, if_neg (by decide)] at hshape
          rw [hack, hok, if_neg (by decide)]
          exact ⟨_, hshape.after hdown, rfl⟩
      · rw [if_neg hsmall, if_neg fun hlost => hsmall hlost.2.2.2.1]
        exact (answer_processClientInput hbound halive events).after hdown
    · rw [if_neg htaken, if_neg fun hlost => htaken (by simpa [hout] using hlost.2.2.1)]
      exact .inr ((ended_tearDown hbound halive).after hdown)
  · rw [if_neg hwrite, if_neg fun hlost => hwrite ⟨hlost.1, hlost.2.1⟩]
    exact answer_processClientInput h hstate events

/-- The outcomes with which `device_tcp_input` goes on with a connection that has ended, or was not found. -/
def inputLost (env : Env) (d : Ptr) (th : TcpHdr) (payload : List UInt8) (w : World) : Prop :=
  (w.devs d).state = .active ∧
    match findByPorts w d th.dport th.sport with
    | none => th.hasRst = false ∧ env.usbSend w.tick = false
    | some p =>
      match (w.conns p).state with
      | .connecting => th.flags = thSyn ||| thAck ∧ env.usbSend w.tick = true ∧
          ∃ c, (w.conns p).client = some c ∧ (clientNotifyConnect env c resultOk w.tock.tock).2 = false
      | .connected => th.flags = thAck ∧ (w.conns p).overflows payload = true
      | _ => False

/-- A segment for a connection of the device. -/
theorem deviceTcpInput_found (ht : Tracked env w) {d : Ptr} (hd : d ∈ w.deviceList) {th : TcpHdr}
    (hfound : findByPorts w d th.dport th.sport = some p) (hactive : (w.devs d).state = .active)
    (payload : List UInt8) :
    (inputLost env d th payload w → Touched env p w (deviceTcpInput env d th payload w)) ∧
      (¬ inputLost env d th payload w → Answer env p w (deviceTcpInput env d th payload w)) := by
  obtain ⟨c, hl⟩ := ht.ok.link_of_mem hd (SlotTable.find?_mem hfound)
  have hcall : findByPorts (w.emit (.tcpInput d th payload)) d th.dport th.sport = some p := hfound
  have hcalled : ((w.emit (.tcpInput d th payload)).devs d).state = .active := hactive
  have hbefore : Polite p w (received d p th payload w) := (polite_emit rfl w).trans (polite_setConn p _ _)
  have hbound : Bound p c (received d p th payload w) := (ht.bound hl).same (received_registry d p th payload w)
  have hconn := received_conn d p th payload w
  have hfold : (w.emit (.tcpInput d th payload)).setConn p (·.hear th) = received d p th payload w := rfl
  have hstate : ((received d p th payload w).conns p).state = (w.conns p).state := by rw [hconn]; rfl
  have hroom : ((received d p th payload w).conns p).overflows payload = (w.conns p).overflows payload := by
    rw [hconn]; rfl
  have htick : (received d p th payload w).tick = w.tick := rfl
  have hclients : (received d p th payload w).clients = w.clients := rfl
  unfold deviceTcpInput inputLost
  simp only [hcalled, hcall, hfound, hactive, hfold, ne_eq, not_true_eq_false, if_false, true_and]
  generalize received d p th payload w = u at *
  rcases (ht.ok.link_client hl).2.2.conn_state with hs | hs
  · replace hs : (w.conns p).state = .connecting := hs
    have hshape := connectingInput_shape env hbound (hstate.trans hs) th
    have htold := clientNotifyConnect_outcome (c := c) env (v := u.tock.tock) (w := w.tock.tock) (by simp [hclients])
      (by simp [htick]) resultOk
    rw [htick, htold] at hshape
    have hclient : (w.conns p).client = some c := hl.client
    simp only [hstate, hs, hclient, Option.some.injEq, exists_eq_left']
    split at hshape
    · rename_i hlost
      exact ⟨fun _ => hshape.after hbefore, fun hno => absurd hlost hno⟩
    · rename_i hkept
      exact ⟨fun hlost => absurd hlost hkept, fun _ => hshape.after hbefore⟩
  · replace hs : (w.conns p).state = .connected := hs
    have hshape := connectedInput_shape env hbound (hstate.trans hs) th payload
    rw [hroom] at hshape
    simp only [hstate, hs]
    split at hshape
    · rename_i hlost
      exact ⟨fun _ => hshape.after hbefore, fun hno => absurd hlost hno⟩
    · rename_i hkept
      exact ⟨fun hlost => absurd hlost hkept, fun _ => hshape.after hbefore⟩

/-- A segment for no connection: it is ignored, or answered with an `RST`, whose failure is noted on a connection
that was not found. -/
theorem deviceTcpInput_vain (env : Env) {d : Ptr} {th : TcpHdr} (hvain : findByPorts w d th.dport th.sport = none)
    (payload : List UInt8) :
    ∃ es, (deviceTcpInput env d th payload w).log = w.log ++ .tcpInput d th payload :: es ∧
      if (w.devs d).state ≠ .active ∨ th.hasRst = true then es = []
      else ∃ packet, es = .usbSend d packet (env.usbSend w.tick) ::
        if env.usbSend w.tick then [] else [.fault .nullConn] := by
  have hcall : findByPorts (w.emit (.tcpInput d th payload)) d th.dport th.sport = none := hvain
  unfold deviceTcpInput
  simp only [hcall, emit_devs]
  by_cases hactive : (w.devs d).state = .active
  · by_cases hrst : th.hasRst = true
    · exact ⟨[], by simp [hactive, hrst], by simp [hrst]⟩
    · have hsend : ∃ packet, sendAnonRst env d th.dport th.sport th.seq (w.emit (.tcpInput d th payload)) =
          usbSend env d packet ((w.emit (.tcpInput d th payload)).setDev d (·.countPacket .tcp)) := by
        refine ⟨_, if_neg (not_or.mpr ⟨by decide, Nat.not_lt.mpr ?_⟩)⟩
        have hhdr : muxHeaderSize (w.devs d).version ≤ 16 := by
          unfold muxHeaderSize sizeofMuxHeader
          split <;> omega
        simp only [MuxDevice.packetLength, length_tcpHdr_bytes, List.length_nil, usbMtu, tcphdrSize, emit_devs]
        omega
      obtain ⟨packet, hsend⟩ := hsend
      rw [hsend]
      refine ⟨.usbSend d packet (env.usbSend w.tick) :: if env.usbSend w.tick then [] else [.fault .nullConn], ?_, ?_⟩
      · simp only [hactive, hrst, usbSend]
        cases hok : env.usbSend w.tick <;> simp [hok]
      · rw [if_neg (by simp [hactive, hrst])]
        exact ⟨packet, rfl⟩
  · exact ⟨[], by simp [hactive], by simp [hactive]⟩

end Shapes

end Usbmuxd
