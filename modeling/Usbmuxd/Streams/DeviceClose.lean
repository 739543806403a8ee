import Usbmuxd.Streams.Isolation

/-!
# What a client gets when its device closes

A segment that is no plain acknowledgement, or the removal of the device, tears an established connection
down: the in-buffer is flushed to the client, and then the client is closed. `client_write` takes nothing for a
client that still waits for its reply to go through, and nobody sends the reply, so the
acknowledged bytes reach the client exactly if the reply has gone before.

## The model

* `Reached` — the worlds in which a handler is called: between operations, and in the middle of a transfer.
* `DeviceCloses` — the two ways in which a device closes a connection.
* `Delivered` — the client has been sent its messages, and all that has been accepted for it.

## What is proved

* `flushInBuf_all`, `closing_ibSize` — the flush.
* `Reached.mainPass`, `calm_reached` — the main loop passes through such worlds, and what holds in them.
* `Closable.tearDown`, `closes_deviceTcpInput`, `closes_deviceRemove` — the teardown and the two ways to it.
* `delivered_iff` — after every run, what has been delivered when the client's socket is closed.
-/

namespace Usbmuxd

open World Relation

/-! ### The worlds in which a handler is called -/

/-- A world between operations or inside one, in which a handler of the device's packets, or
`usb_process`, is called or has just returned. -/
inductive Reached (env : Env) : World → Prop where
  | init : Reached env .init
  | exec {w : World} (op : Op) (h : Reached env w) : Reached env (exec env w op)
  /-- Bytes of a transfer have been put by, or a packet has been found in them. -/
  | framing {w : World} (d : Ptr) (fr : Framing) (h : Reached env w) : Reached env (w.setDev d (·.setFraming fr))
  | control {w : World} (d : Ptr) (payload : List UInt8) (h : Reached env w) :
      Reached env (deviceControlInput d payload w)
  | tock {w : World} (h : Reached env w) : Reached env w.tock
  /-- A command is being read, up to the call of `usb_process` that only `DeviceMonitor` makes. -/
  | note {w : World} (e : Event) (he : e.isClientNote = true) (h : Reached env w) : Reached env (w.emit e)
  | recv {w : World} (c : Ptr) (len : UInt32) (hstate : (w.clients c).state = .command) (h : Reached env w) :
      Reached env (recvCommandBytes env c len w).1
  | plistVersion {w : World} (c : Ptr) (h : Reached env w) :
      Reached env (w.setClient c fun cl => { cl with protoVersion := 1 })

section Reached

variable {env : Env} {w : World}

theorem reached_run (env : Env) (ops : List Op) : Reached env (run env ops) :=
  run_induct .init (fun _ op h => .exec op h) ops

/-- A turn of the drain loop goes from one such world to another. -/
theorem Reached.deviceDataInput (h : Reached env w) (u : UsbDevice) (buffer : Mem) (length : UInt32) :
    Reached env (deviceDataInput env u buffer length w).1 := by
  unfold Usbmuxd.deviceDataInput
  split
  · exact h
  · rename_i d hfound
    have hd : d ∈ w.deviceList := SlotTable.find?_mem hfound
    dsimp only
    split
    · exact .framing d _ h
    · rename_i call hcall
      have hreached : Reached env (w.setDev d (·.setFraming (decode (w.devs d).framing buffer length).framing)) :=
        .framing d _ h
      generalize hv : w.setDev d (·.setFraming (decode (w.devs d).framing buffer length).framing) = v at hreached ⊢
      have hmem : d ∈ v.deviceList := by
        rw [← hv]
        exact hd
      cases call with
      | version vh =>
        have heq : Usbmuxd.exec env v (.versionInput d vh) = dispatch env d (.version vh) v := if_pos hmem
        exact heq ▸ .exec (.versionInput d vh) hreached
      | control payload => exact .control d payload hreached
      | tcp th payload =>
        have heq : Usbmuxd.exec env v (.tcpInput d th payload) = dispatch env d (.tcp th payload) v :=
          if_pos ⟨hmem, decode_fits _ _ _ hcall⟩
        exact heq ▸ .exec (.tcpInput d th payload) hreached

theorem Reached.usbProcess (h : Reached env w) : Reached env (usbProcess env w) := by
  have hfold : ∀ (actions : List UsbAction) {v : World}, Reached env v →
      Reached env (actions.foldl (fun v a => usbAction env a v) v) := by
    intro actions
    induction actions with
    | nil => exact id
    | cons a rest ih => exact fun hv => ih (.exec (.usb a) hv)
  exact hfold _ h.tock

/-- An iteration of the main loop passes only through such worlds. -/
theorem Reached.mainPass (h : Reached env w) (r : Readiness) : Reached env (mainPass env r w) := by
  have hclients : ∀ (ready : Ptr → Events) {v : World}, Reached env v → Reached env (clientProcess env ready v) := by
    refine fun ready v hv => SlotTable.forEach_induct (P := Reached env) (fun c u hc hu => ?_) _ _ _ hv
    have heq : Usbmuxd.exec env u (.clientReady c (ready c)) = clientReady env c (ready c) u := if_pos hc
    exact heq ▸ hu.exec _
  have hdevices : ∀ (transfers : Ptr → Option Transfer) {v : World}, Reached env v →
      Reached env (deviceProcessSockets env transfers v) := by
    refine fun transfers v hv => SlotTable.forEach_induct (P := Reached env) (fun d u hd hu => ?_) _ _ _ hv
    split
    · split
      · rename_i t _
        have heq : Usbmuxd.exec env u (.transfer d t) = deviceProcessSocket env d t u := if_pos hd
        exact heq ▸ hu.exec _
      · exact hu
    · exact hu
  unfold Usbmuxd.mainPass
  split
  · exact (h.usbProcess).exec .checkTimeouts
  · refine hclients _ (Reached.usbProcess (hdevices _ ?_))
    have haccept : Reached env
        (if r.newClient = true then clientAccept (decide (fdSetSize < fdCount w + 1)) w else w) := by
      split
      · unfold clientAccept
        split
        · exact h
        · exact h.exec .clientAccept
      · exact h
    split
    · split
      · exact haccept
      · exact haccept.exec (.acceptSocket _)
    · exact haccept

theorem calm_reached (h : Reached env w) : Calm env w := by
  induction h with
  | init => exact calm_init env
  | exec op _ ih => exact calm_exec ih op
  | framing d fr _ ih =>
    exact ih.same (registry_setDev_same _ rfl) (DeviceBlock.framing d fr _).one.turns (ih.rest.setDev rfl)
  | @control w d payload _ ih =>
    exact ih.same (registry_emit w rfl) (DeviceBlock.call (.controlInput d payload) w rfl).one.turns
      (ih.rest.emit ⟨by simp [Event.conn?], by simp [Event.mail?], rfl⟩)
  | @tock w _ ih =>
    exact ih.same rfl (ConnBlock.tock w).one.turns
      (ih.rest.aside (.tock (C := fun _ => False) w) fun _ _ _ _ => id)
  | @note w e he _ ih =>
    exact ih.same (registry_emit w (by cases e <;> simp_all [Event.isClientNote, Event.isCounted]))
      (ClientBlock.note e w he).one.turns (ih.rest.emit (Confined.about_note he))
  | @recv w c len hstate _ ih =>
    exact ih.same (registry_recvCommandBytes env c w len) (ClientBlock.recv c len w).one.turns
      (ih.rest.alone (ih.steady.tracked.unlinked hstate) (.recvCommandBytes rfl env len w))
  | @plistVersion w c _ ih =>
    exact ih.same (registry_setClient_same _ rfl) (ClientBlock.plistVersion c w).one.turns (ih.rest.setClient c rfl)

end Reached

/-! ### The flush -/

section Flush

variable {env : Env} {w : World} {p c : Ptr}

/-- If every send takes something, the flush empties the in-buffer of a connected client. -/
theorem flushInBuf_all (hsend : ∀ t, 0 < env.send t) (hstate : (w.clients c).state = .connected) {n : ℕ}
    (hn : (w.conns p).ibSize.toNat ≤ n) : ((flushInBuf env p c n w).conns p).ibSize = 0 := by
  induction n generalizing w with
  | zero => exact UInt32.toNat_inj.mp (Nat.le_zero.mp hn)
  | succ n ih =>
    have hsize : (clientWrite env p c (w.conns p).ibBuf (w.conns p).ibSize w).2 =
        min (env.send w.tick) (w.conns p).ibSize.toNat := by
      unfold clientWrite
      rw [if_neg (not_not.mpr hstate)]
      dsimp only
      split
      · rename_i hnone
        exact hnone.symm
      · rfl
    have hsome := hsend w.tick
    unfold flushInBuf
    dsimp only
    split
    · rename_i hnone
      rw [clientWrite_conns]
      exact UInt32.toNat_inj.mp (show (w.conns p).ibSize.toNat = 0 by omega)
    · rename_i htaken
      have hconn : (((clientWrite env p c (w.conns p).ibBuf (w.conns p).ibSize w).1.setConn p (·.consume
          (clientWrite env p c (w.conns p).ibBuf (w.conns p).ibSize w).2)).conns p).ibSize.toNat =
            (w.conns p).ibSize.toNat - (clientWrite env p c (w.conns p).ibBuf (w.conns p).ibSize w).2 := by
        rw [setConn_conns, Function.update_self, clientWrite_conns]
        exact MuxConnection.toNat_ibSize_consume _ (clientWrite_size ..)
      split
      · rename_i hall
        refine UInt32.toNat_inj.mp ?_
        rw [hconn, hall, Nat.sub_self]
        rfl
      · refine ih ?_ (by rw [hconn]; omega)
        rw [clientWrite_some env p c w htaken]
        exact hstate

/-- A client that is not connected is not written to. -/
theorem flushInBuf_none (hstate : (w.clients c).state ≠ .connected) (n : ℕ) :
    (flushInBuf env p c n w).conns = w.conns := by
  cases n with
  | zero => rfl
  | succ n =>
    have hwrite : clientWrite env p c (w.conns p).ibBuf (w.conns p).ibSize w = (w, 0) := by
      unfold clientWrite
      rw [if_pos hstate]
    unfold flushInBuf
    simp [hwrite]

/-- What is left in the in-buffer when the client is about to be closed. -/
theorem closing_ibSize (hsend : ∀ t, 0 < env.send t) (hevents : (w.conns p).events.pollout = decide ((w.conns p).ibSize ≠ 0)) :
    ((closing env p c w).conns p).ibSize = 0 ↔ (w.clients c).state = .connected ∨ (w.conns p).ibSize = 0 := by
  have hsame : ((sendTeardownRst env p w).conns p).flow = (w.conns p).flow ∧
      (sendTeardownRst env p w).clients = w.clients := by
    unfold sendTeardownRst
    dsimp only
    split
    · exact ⟨sendTcp_flow .., sendTcp_clients ..⟩
    · exact ⟨rfl, rfl⟩
  obtain ⟨hflow, hclients⟩ := hsame
  have hsize : ((sendTeardownRst env p w).conns p).ibSize = (w.conns p).ibSize := congrArg Flow.ibSize hflow
  have hmask : ((sendTeardownRst env p w).conns p).events = (w.conns p).events := congrArg Flow.events hflow
  unfold closing
  dsimp only
  rw [hmask, hevents, hsize]
  generalize hu : (sendTeardownRst env p w).setConn p (·.become .dead) = u
  have husize : (u.conns p).ibSize = (w.conns p).ibSize := by
    rw [← hu, setConn_conns, Function.update_self]
    exact hsize
  have hustate : (u.clients c).state = (w.clients c).state := by rw [← hu, setConn_clients, hclients]
  by_cases hempty : (w.conns p).ibSize = 0
  · rw [if_neg (by simp [hempty]), husize]
    exact iff_of_true hempty (.inr hempty)
  · have hpos : 0 < (w.conns p).ibSize := by
      rw [UInt32.lt_iff_toNat_lt]
      exact Nat.pos_of_ne_zero fun hzero => hempty (UInt32.toNat_inj.mp hzero)
    rw [if_pos ⟨by simpa using hempty, hpos⟩]
    by_cases hstate : (w.clients c).state = .connected
    · exact iff_of_true (flushInBuf_all hsend (hustate.trans hstate) (by rw [husize])) (.inl hstate)
    · rw [flushInBuf_none (by rwa [hustate]), husize]
      exact iff_of_false hempty (not_or.mpr ⟨hstate, hempty⟩)

theorem Mail.note_self {e : Event} (h : e.mail? = some c) (m : Mail) : m.note c e = m.next e := if_pos h

/-- The flush writes to the client, and queues it nothing. -/
theorem closing_used (env : Env) (p c : Ptr) (w : World) : ((closing env p c w).mail c).used = (w.mail c).used := by
  have hrst : (sendTeardownRst env p w).mail c = w.mail c := by
    unfold sendTeardownRst
    dsimp only
    split
    · exact mail_sendTcp ..
    · rfl
  have hflush : ∀ (n : ℕ) (v : World), ((flushInBuf env p c n v).mail c).used = (v.mail c).used := by
    intro n
    induction n with
    | zero => exact fun v => congrArg Mail.used (mail_emit_none v rfl c)
    | succ n ih =>
      intro v
      have hwrite : ((clientWrite env p c (v.conns p).ibBuf (v.conns p).ibSize v).1.mail c).used = (v.mail c).used := by
        unfold clientWrite
        split
        · rfl
        · dsimp only
          split
          · rfl
          · rw [mail_emit, Mail.note_self rfl]
            rfl
      unfold flushInBuf
      dsimp only
      split
      · exact hwrite
      · split
        · exact hwrite
        · exact (ih _).trans hwrite
  unfold closing
  dsimp only
  split
  · rw [hflush]
    exact congrArg Mail.used hrst
  · exact congrArg Mail.used hrst

/-- The connection and its client just before the client is closed, after a sequence of steps. -/
theorem traffic_closing (env : Env) (c : Ptr) (hstate : (w.conns p).state ≠ .dead) :
    Traffic env w (closing env p c w) := by
  unfold closing
  dsimp only
  refine (traffic_sendTeardownRst env p w hstate).trans ((ConnBlock.state p .dead _ (.dead _)).one.trans ?_)
  split
  · exact traffic_flushInBuf env p c _ _ (by simp)
  · exact .refl

/-- What the teardown of an established connection does after the flush. -/
theorem tearDown_log (h : Bound p c w) (hstate : (w.conns p).state = .connected ∨ (w.conns p).state = .dying) :
    (tearDown env p w).log = (closing env p c w).log ++ [.closeSocket c, .freeClient c, .freeConn p] := by
  have hrelease : ∀ v : World, (releaseConn p (releaseClient c v)).log =
      v.log ++ [.closeSocket c, .freeClient c, .freeConn p] := fun v => by simp [releaseConn]
  rw [tearDown, callDepth, connectionTeardown_close 3 h.client hstate]
  have hdead : ((closing env p c w).conns p).state = .dead := closing_dead
  have hbound : Bound p c (closing env p c w) := h.congr registry_closing h.client
  generalize closing env p c w = v at hdead hbound ⊢
  by_cases hwaits : (v.clients c).state = .connecting1 ∨ (v.clients c).state = .connecting2
  · cases hlookup : v.registry.lookup (v.clients c).connectDevice c with
    | none =>
      rw [clientClose_not_found 2 hwaits hlookup, hrelease]
      rfl
    | some q =>
      obtain rfl := hbound.lookup q hlookup
      rw [clientClose_found 2 hwaits hlookup, connectionTeardown_dead 1 (by simpa using hdead), hrelease]
      rfl
  · rw [clientClose_release 2 (not_or.mp hwaits), hrelease]

end Flush

/-! ### What has been delivered -/

/-- By this log the client has been sent all its messages, and all that has been accepted for it. -/
def Delivered (p c : Ptr) (log : List Event) : Prop :=
  (log.foldl (Mail.note c) .start).used = 0 ∧
    (log.foldl (History.note p) {}).written = (log.foldl (History.note p) {}).accepted

instance (p c : Ptr) (log : List Event) : Decidable (Delivered p c log) := inferInstanceAs (Decidable (_ ∧ _))

/-- The client's messages have gone, and it takes what is left for it, if there is any. -/
def CanDeliver (p c : Ptr) (w : World) : Prop :=
  (w.mail c).used = 0 ∧ ((w.clients c).state = .connected ∨ (w.conns p).ibSize = 0)

/-- The client's socket has been closed, and before that all has been delivered exactly if `given`. -/
def ClosedWith (p c : Ptr) (given : Prop) (w : World) : Prop :=
  ∃ before after, w.log = before ++ .closeSocket c :: after ∧ .closeSocket c ∉ before ∧ (Delivered p c before ↔ given)

section Closing

variable {env : Env} {w w' : World} {d p c : Ptr} {given : Prop}

/-- What is done later changes nothing of it. -/
theorem ClosedWith.later (h : ClosedWith p c given w) (es : List Event) (hlog : w'.log = w.log ++ es) :
    ClosedWith p c given w' := by
  obtain ⟨before, after, hclosed, hopen, hiff⟩ := h
  exact ⟨before, after ++ es, by rw [hlog, hclosed, List.append_assoc, List.cons_append], hopen, hiff⟩

/-- Between client and device, everything accepted has been written exactly if the in-buffer is empty. -/
theorem Conserved.written_iff {ch : Channel} (h : Conserved ch) :
    ch.history.written = ch.history.accepted ↔ ch.conn.ibSize = 0 := by
  have hsplit := h.queue.conserved
  have hlen : ch.conn.inBytes.length = ch.conn.ibSize.toNat := by simp
  constructor
  · intro hall
    rw [← hall] at hsplit
    have hnone : ch.conn.inBytes = [] := List.self_eq_append_right.mp hsplit.symm
    rw [hnone] at hlen
    exact UInt32.toNat_inj.mp hlen.symm
  · intro hempty
    rw [hempty] at hlen
    rw [← hsplit, List.length_eq_zero_iff.mp hlen, List.append_nil]

/-- An established connection whose client's socket is open. -/
structure Closable (p c : Ptr) (w : World) : Prop where
  bound : Bound p c w
  state : (w.conns p).state = .connected ∨ (w.conns p).state = .dying
  still : .closeSocket c ∉ w.log
  conserved : Conserved (w.channel p)
  events : (w.conns p).events.pollout = decide ((w.conns p).ibSize ≠ 0)

/-- The teardown of an established connection. -/
theorem Closable.tearDown (h : Closable p c w) (hsend : ∀ t, 0 < env.send t) :
    ClosedWith p c (CanDeliver p c w) (tearDown env p w) := by
  have hdead : (w.conns p).state ≠ .dead := by rcases h.state with hs | hs <;> rw [hs] <;> decide
  refine ⟨(closing env p c w).log, [.freeClient c, .freeConn p], tearDown_log h.bound h.state, ?_, ?_⟩
  · have hsame : (closing env p c w).registry.closedSocket c = w.registry.closedSocket c :=
      congrFun (congrArg Registry.closedSocket registry_closing) c
    exact List.count_eq_zero.mp (hsame.trans (List.count_eq_zero.mpr h.still))
  · have hthen := h.conserved.turns ((traffic_closing env c hdead).turns.channel p)
    exact and_congr (by rw [← closing_used env p c w]; rfl)
      (hthen.written_iff.trans (closing_ibSize hsend h.events))

/-- A connection at rest. -/
theorem Tracked.closable (ht : Tracked env w) (hrest : AllAtRest w) (hconserved : Conserved (w.channel p))
    (hl : w.registry.Link d p c) (hstate : (w.conns p).state = .connected) : Closable p c w := by
  refine ⟨ht.bound hl, .inl hstate, ?_, hconserved, ?_⟩
  · exact List.count_eq_zero.mp (ht.ok.client_live c (ht.ok.link_client hl).1).2
  · exact congrArg Events.pollout ((hrest d p c hl).settled hstate).events

/-- A segment that is no plain acknowledgement. -/
theorem closes_deviceTcpInput (hsend : ∀ t, 0 < env.send t) (h : Calm env w) (hl : w.registry.Link d p c)
    (hstate : (w.conns p).state = .connected) (th : TcpHdr) (payload : List UInt8)
    (hsport : th.dport = (w.conns p).sport) (hdport : th.sport = (w.conns p).dport) (hflags : th.flags ≠ thAck) :
    ClosedWith p c (CanDeliver p c w) (deviceTcpInput env d th payload w) := by
  have hclosable := h.steady.tracked.closable h.rest (h.credit p).conserved hl hstate
  have hfound : findByPorts (w.emit (.tcpInput d th payload)) d th.dport th.sport = some p := by
    refine SlotTable.find?_unique hl.conn (by simp [hsport, hdport]) fun q hq hports => ?_
    by_contra hne
    refine h.ports.distinct d p hl.conn q hq hne ?_
    have hports' : (w.conns q).sport = th.dport ∧ (w.conns q).dport = th.sport := by simpa using hports
    exact hports'.1.trans hsport
  have hactive : (w.devs d).state = .active := h.steady.active hl
  have hheard : ((received d p th payload w).conns p).state = .connected :=
    (congrArg MuxConnection.state (received_conn d p th payload w)).trans hstate
  have heq : deviceTcpInput env d th payload w = connectedInput env p th payload (received d p th payload w) := by
    unfold deviceTcpInput
    dsimp only
    rw [if_neg (not_not.mpr (show ((w.emit (.tcpInput d th payload)).devs d).state = .active from hactive)), hfound]
    dsimp only
    rw [← received, hheard]
  have hclose : ∀ s, s = .connected ∨ s = .dying →
      Closable p c ((received d p th payload w).setConn p (·.become s)) := by
    intro s hs
    have hconn : ((received d p th payload w).setConn p (·.become s)).conns p = ((w.conns p).hear th).become s := by
      rw [setConn_conns, Function.update_self, received_conn]
    refine ⟨(hclosable.bound.same (received_registry ..)).setConn rfl, by rwa [hconn], ?_, ?_, ?_⟩
    · intro hmem
      exact hclosable.still (by simpa [received] using hmem)
    · have hhist : ((received d p th payload w).setConn p (·.become s)).history p = w.history p :=
        received_history d p th payload w p
      have hsame : ((received d p th payload w).setConn p (·.become s)).channel p =
          ⟨((w.conns p).hear th).become s, w.history p⟩ := by rw [channel, hconn, hhist]
      exact hsame ▸ hclosable.conserved.same rfl rfl rfl rfl
    · rw [hconn]
      exact hclosable.events
  have hcan : ∀ s, CanDeliver p c ((received d p th payload w).setConn p (·.become s)) = CanDeliver p c w := by
    intro s
    have hmail : ((received d p th payload w).setConn p (·.become s)).mail c = w.mail c := mail_emit_none w rfl c
    unfold CanDeliver
    rw [hmail, setConn_conns, Function.update_self, received_conn]
    rfl
  rw [heq]
  unfold connectedInput
  rw [if_pos hflags]
  split
  · exact hcan .dying ▸ (hclose .dying (.inr rfl)).tearDown hsend
  · -- the state is what it was
    have hsame : (received d p th payload w).setConn p (·.become .connected) = received d p th payload w := by
      rw [setConn, MuxConnection.become, ← hheard, Function.update_eq_self]
    have hthen : ClosedWith p c _ (tearDown env p _) := (hclose .connected (.inl rfl)).tearDown hsend
    rwa [hcan, hsame] at hthen

/-- The loop of `device_remove`: each connection in turn, whatever happens to the others before. -/
theorem closes_tearDownAll (hsend : ∀ t, 0 < env.send t) (ht : Tracked env w) (hd : d ∈ w.deviceList)
    (hrest : AllAtRest w) (hconserved : ∀ q, Conserved (w.channel q)) (hl : w.registry.Link d p c)
    (hstate : (w.conns p).state = .connected) : ClosedWith p c (CanDeliver p c w) (tearDownAll env d w) := by
  have hsweep : Sweep env none d w _ (tearDownAll env d w) := sweep_tearDownAll ht hd
  have hempty := hsweep.empty p
  have hloop := @SlotTable.forEach_induct _ _ (World.connections · d) (tearDown env)
    (fun v => Tracked env v ∧ d ∈ v.deviceList ∧ AllAtRest v ∧ (∀ q, Conserved (v.channel q)) ∧
      (ClosedWith p c (CanDeliver p c w) v ∨ v.registry.Link d p c ∧ Untouched d p c w v))
    ?_ (w.connections d).capacity 0 w ⟨ht, hd, hrest, hconserved, .inr ⟨hl, rfl, rfl, hl.conn,
      (ht.ok.link_client hl).1, rfl, rfl⟩⟩
  · rcases hloop.2.2.2.2 with hclosed | ⟨hlast, -⟩
    · exact hclosed
    · exact absurd hlast.conn hempty
  · rintro q v hq ⟨htv, hdv, hrestv, hconsv, hv⟩
    obtain ⟨c', hl'⟩ := htv.ok.link_of_mem hdv hq
    have hturns := (traffic_tearDown env q v).turns
    have hsteps : Registry.Steps env.Reliable none v.registry (tearDown env q v).registry := steps_tearDown htv hl'
    have hdev : (tearDown env q v).deviceList = v.deviceList := (unlinked_tearDown htv hl').deviceList
    refine ⟨htv.after hsteps hturns, by rwa [hdev], atRest_tearDown hrestv htv hl',
      fun q' => (hconsv q').turns (hturns.channel q'), ?_⟩
    rcases hv with hclosed | ⟨hlv, hsame⟩
    · obtain ⟨es, hlog, -⟩ := hturns.log
      exact .inl (hclosed.later _ hlog)
    · by_cases hqp : q = p
      · subst hqp
        have hcan : CanDeliver q c v = CanDeliver q c w := by
          unfold CanDeliver
          rw [hsame.mail, hsame.client, hsame.conn]
        have hclosable := htv.closable hrestv (hconsv q) hlv (by rw [hsame.conn]; exact hstate)
        exact .inl (hcan ▸ hclosable.tearDown hsend)
      · have hc : c' ≠ c := by
          rintro rfl
          exact hqp (htv.ok.unique d q d p c' hl' hlv)
        have hstep : Confined (Eq q) (Eq c') v (tearDown env q v) := .tearDown (htv.bound hl') rfl rfl
        have hthen := hstep.untouched htv hlv hqp hc
        refine .inr ⟨⟨by rw [registry_deviceList, hdev]; exact hdv, hthen.listed, ?_⟩, hthen.conn.trans hsame.conn,
          hthen.client.trans hsame.client, hthen.listed, hthen.clientListed, hthen.history.trans hsame.history,
          hthen.mail.trans hsame.mail⟩
        rw [registry_conns, hthen.conn]
        exact hlv.client

/-- The removal of the device. -/
theorem closes_deviceRemove (hsend : ∀ t, 0 < env.send t) (h : Calm env w) (hl : w.registry.Link d p c)
    (hstate : (w.conns p).state = .connected) {u : UsbDevice} (hdev : findByUsbdev w u = some d) :
    ClosedWith p c (CanDeliver p c w) (deviceRemove env u w) := by
  have hactive : (w.devs d).state = .active := h.steady.active hl
  have hd : d ∈ w.deviceList := hl.device
  have ht := h.steady.tracked.after (steps_dying h.steady.tracked hd hactive) (DeviceBlock.dead d w).one.turns
  have hrest := h.rest.setDev (d := d) (f := fun dev => { dev with state := .dead }) rfl
  have hl' : (w.setDev d fun dev => { dev with state := .dead }).registry.Link d p c := by
    refine ⟨hd, ?_, hl.client⟩
    have hconn := hl.conn
    simpa [Registry.connections] using hconn
  have hall : ClosedWith p c (CanDeliver p c w) (tearDownAll env d (w.setDev d fun dev => { dev with state := .dead })) :=
    closes_tearDownAll hsend ht hd hrest (fun q => (h.credit q).conserved) hl' hstate
  unfold deviceRemove
  rw [hdev]
  dsimp only
  rw [if_pos hactive]
  unfold disconnectDevice
  dsimp only
  generalize tearDownAll env d _ = v at hall ⊢
  have hnote : Turns env v (if (v.devs d).visible = true then clientDeviceRemove env (v.devs d).id v
      else clientDeviceRemovedDuringAdd env (v.deviceInfo env d) v) := by
    split
    · exact (traffic_clientDeviceRemove env v _).turns
    · exact (traffic_clientDevicePairingEvent env v _ _ _).turns
  obtain ⟨es, hlog, -⟩ := hnote.log
  refine hall.later (es ++ [.freeDev d]) ?_
  rw [releaseDev_log, setDev_log, hlog, List.append_assoc]

/-- What is queued for a client can be delivered once its connect reply has gone, when `process_send`
makes it `CLIENT_CONNECTED`. -/
theorem Calm.canDeliver_iff (h : Calm env w) (hl : w.registry.Link d p c) (hstate : (w.conns p).state = .connected)
    (hfits : (w.mail c).fits = true) : CanDeliver p c w ↔ (w.clients c).state = .connected := by
  obtain ⟨hlisted, -, hmatch⟩ := h.steady.tracked.ok.link_client hl
  have hframed := (h.mailed c (h.steady.tracked.armed.known c hlisted)).2 hfits
  rcases hmatch.connected_iff.mp hstate with htwo | hconnected
  · have hreply := (((h.rest d p c hl).settled hstate).reply htwo hfits).1
    refine iff_of_false (fun hcan => ?_) (by rw [show (w.clients c).state = .connecting2 from htwo]; decide)
    rw [UInt32.lt_iff_toNat_lt, hframed.used, hcan.1] at hreply
    exact absurd hreply (by decide)
  · have hempty : (w.mail c).used = 0 := by
      rw [← hframed.used, hframed.spent hconnected]
      rfl
    exact iff_of_true ⟨hempty, .inl hconnected⟩ hconnected

end Closing

/-! ### The device closes -/

/-- The two ways in which device `d` closes connection `p`. -/
inductive DeviceCloses (env : Env) (d p : Ptr) (w : World) : World → Prop where
  /-- A segment for the connection whose flags are not just `ACK`. -/
  | segment (th : TcpHdr) (payload : List UInt8) (hsport : th.dport = (w.conns p).sport)
      (hdport : th.sport = (w.conns p).dport) (hflags : th.flags ≠ thAck) :
      DeviceCloses env d p w (deviceTcpInput env d th payload w)
  | remove (u : UsbDevice) (hdev : findByUsbdev w u = some d) : DeviceCloses env d p w (deviceRemove env u w)

/-- When a device closes an established connection, and every `send` takes something, the client is sent all that has
been queued and accepted for it before its socket is closed exactly if its messages have already gone,
and it is `CLIENT_CONNECTED` or nothing is left for it. As long as the sizes of its reply buffer do not wrap around,
this is to say that it is `CLIENT_CONNECTED`. -/
theorem delivered_iff (env : Env) (hsend : ∀ t, 0 < env.send t) (w : World) (h : Reached env w) (d p c : Ptr)
    (hl : w.registry.Link d p c) (hstate : (w.conns p).state = .connected) (w' : World)
    (hclose : DeviceCloses env d p w w') :
    ∃ before after, w'.log = before ++ .closeSocket c :: after ∧ .closeSocket c ∉ before ∧
      (Delivered p c before ↔
        (w.mail c).used = 0 ∧ ((w.clients c).state = .connected ∨ (w.conns p).ibSize = 0)) ∧
      ((w.mail c).fits = true → (Delivered p c before ↔ (w.clients c).state = .connected)) := by
  have hcalm := calm_reached h
  have hclosed : ClosedWith p c (CanDeliver p c w) w' := by
    cases hclose with
    | segment th payload hsport hdport hflags =>
      exact closes_deviceTcpInput hsend hcalm hl hstate th payload hsport hdport hflags
    | remove u hdev => exact closes_deviceRemove hsend hcalm hl hstate hdev
  obtain ⟨before, after, hlog, hopen, hiff⟩ := hclosed
  exact ⟨before, after, hlog, hopen, hiff, fun hfits => hiff.trans (hcalm.canDeliver_iff hl hstate hfits)⟩

/-- With the reply gone before the device sends three bytes and resets the connection, they are delivered. -/
theorem delivered_iff_replied :
    let w := exec .asking (run .asking (connectOps ++ [.clientReady 2 ⟨false, true⟩]))
      (.tcpInput 1 ⟨80, 1, 1, 1, 0x50, thAck, 1000, 0, 0⟩ [1, 2, 3])
    ∃ before after, (deviceTcpInput .asking 1 ⟨80, 1, 4, 1, 0x50, thRst, 1000, 0, 0⟩ [] w).log =
      before ++ .closeSocket 2 :: after ∧ Delivered 3 2 before := by
  intro w
  obtain ⟨before, after, hlog, -, hiff, -⟩ := delivered_iff .asking (fun _ => (by decide : 0 < 0x10000)) w
    (.exec _ (reached_run ..))
    1 3 2 ⟨by decide +kernel, by decide +kernel, by decide +kernel⟩ (by decide +kernel) _
    (.segment ⟨80, 1, 4, 1, 0x50, thRst, 1000, 0, 0⟩ [] (by decide +kernel) (by decide +kernel) (by decide +kernel))
  exact ⟨before, after, hlog, hiff.mpr ⟨by decide +kernel, .inl (by decide +kernel)⟩⟩

/-- Without the turn of the loop in which the reply would go, the client is closed with nothing delivered. -/
theorem reply_lost :
    ∃ w d p c w', Reached .asking w ∧ w.registry.Link d p c ∧ (w.conns p).state = .connected ∧
      DeviceCloses .asking d p w w' ∧ (∀ t, 0 < Env.asking.send t) ∧
      ∃ before after, w'.log = before ++ .closeSocket c :: after ∧ .closeSocket c ∉ before ∧ ¬ Delivered p c before := by
  let w := exec .asking (run .asking connectOps) (.tcpInput 1 ⟨80, 1, 1, 1, 0x50, thAck, 1000, 0, 0⟩ [1, 2, 3])
  let log := (deviceTcpInput .asking 1 ⟨80, 1, 4, 1, 0x50, thRst, 1000, 0, 0⟩ [] w).log
  refine ⟨w, 1, 3, 2, _, .exec _ (reached_run ..), ⟨by decide +kernel, by decide +kernel, by decide +kernel⟩,
    by decide +kernel,
    .segment ⟨80, 1, 4, 1, 0x50, thRst, 1000, 0, 0⟩ [] (by decide +kernel) (by decide +kernel) (by decide +kernel),
    fun _ => (by decide : 0 < 0x10000), log.takeWhile (· ≠ .closeSocket 2), (log.dropWhile (· ≠ .closeSocket 2)).tail,
    ?_, ?_, ?_⟩
  all_goals decide +kernel

end Usbmuxd
