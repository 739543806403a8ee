import Usbmuxd.Runs.Turns

/-!
# The mutual recursion of the teardown

`client_close` and `connection_teardown` call each other, directly and through
`device_abort_connect` and `client_notify_connect`. Here each call is resolved for every
state a connection and its client can be in, and its effect on the registry is computed.

## The model

* `Env.Reliable` — allocations succeed.
* `Armed` — every client that may have to be told something has a reply buffer.
* `closing` — a connection and its client when `connection_teardown` is about to call
  `client_close`.
* `Tracked` — a world whose registry is in order.

## What is proved

* `connectionTeardown_…`, `clientClose_…` — which calls follow from which states.
* `registry_closing` — the flush loop ends by itself.
* `steps_tearDown`, `steps_closeClient` — from a world whose registry is in order, both
  ends of the recursion take a step of the registry.
-/

namespace Usbmuxd

open World Relation

/-- Allocations succeed; `plist_to_xml` is one of them. -/
structure Env.Reliable (env : Env) : Prop where
  realloc : ∀ t, env.realloc t = true
  plistToXml : ∀ t plist, (env.plistToXml t plist).isSome = true

/-! ### Reply buffers -/

/-- A client has a reply buffer unless it is connected or being freed. -/
def MuxClient.Armed (client : MuxClient) : Prop :=
  client.obBuf = none → client.state = .connected ∨ client.state = .dead

/-- Every client has a reply buffer unless it is connected or being freed. -/
structure Armed (w : World) : Prop where
  known : ∀ c ∈ w.clientList, Event.newClient c ∈ w.log
  buffer : ∀ c, Event.newClient c ∈ w.log → (w.clients c).Armed

section Armed

variable {env : Env} {w w' : World}

theorem armed_init : Armed .init where
  known := fun c hc => absurd hc (SlotTable.not_mem_init _ c)
  buffer := fun _ hc => absurd hc List.not_mem_nil

/-- A step that accepts no client. -/
theorem Armed.of_clients (h : Armed w) {kind : Event → Bool} (hkind : ∀ c, kind (.newClient c) = false)
    (hlog : w.Grows kind w') (hlist : ∀ c ∈ w'.clientList, c ∈ w.clientList)
    (hclients : ∀ c, (w.clients c).Armed → (w'.clients c).Armed) : Armed w' :=
  ⟨fun c hc => hlog.mem (h.known c (hlist c hc)), fun c hc => hclients c (h.buffer c (hlog.old (hkind c) hc))⟩

theorem Armed.setClient (h : Armed w) {c : Ptr} {f : MuxClient → MuxClient}
    (hf : (w.clients c).Armed → (f (w.clients c)).Armed) : Armed (w.setClient c f) := by
  refine h.of_clients (fun _ => rfl) (.refl (fun _ => false) w) (fun _ hc => hc) fun c' hc' => ?_
  by_cases hne : c' = c
  · subst hne
    simpa using hf hc'
  · simpa [hne] using hc'

theorem Armed.emit (h : Armed w) {e : Event} (he : ∀ c, e ≠ .newClient c) : Armed (w.emit e) := by
  refine ⟨fun c hc => List.mem_append_left _ (h.known c hc), fun c hc => h.buffer c ?_⟩
  simpa [(he c).symm] using hc

theorem Armed.setConn (h : Armed w) (p : Ptr) (f : MuxConnection → MuxConnection) : Armed (w.setConn p f) :=
  ⟨h.known, h.buffer⟩

theorem Armed.tock (h : Armed w) : Armed w.tock := ⟨h.known, h.buffer⟩

theorem Armed.enlargeOutBuffer (h : Armed w) (env : Env) (c : Ptr) (length : UInt32) :
    Armed (enlargeOutBuffer env c length w).1 := by
  unfold Usbmuxd.enlargeOutBuffer
  dsimp only
  split
  · split
    · dsimp only
      refine h.tock.setClient fun _ hnone => ?_
      simp at hnone
    · exact h.tock
  · exact h

theorem Armed.sendPkt (h : Armed w) (c : Ptr) (tag : UInt32) (msg : MsgType) (payload : List UInt8) :
    Armed (sendPkt env c tag msg payload w).1 := by
  unfold Usbmuxd.sendPkt
  have hroom := h.enlargeOutBuffer env c (usbmuxdHeaderSize + UInt32.ofNat payload.length)
  dsimp only
  split
  · split
    · exact hroom.emit (by simp)
    · refine Armed.emit (hroom.setClient fun _ hnone => ?_) (by simp)
      simp at hnone
  · exact hroom

theorem MuxClient.Armed.afterSend {client : MuxClient} (h : client.Armed) (size : ℕ) :
    (client.afterSend size).Armed := by
  unfold MuxClient.afterSend
  split
  · split
    · exact fun _ => .inl rfl
    · exact h
  · intro hnone
    simp at hnone

theorem Armed.client (h : Armed w) (hb : ClientBlock env w w') : Armed w' := by
  cases hb with
  | note e _ he => exact h.emit (by rintro c rfl; cases he)
  | accept =>
    refine ⟨fun c hc => ?_, fun c hc => ?_⟩
    · rcases SlotTable.mem_add.mp hc with rfl | hc
      · simp
      · exact List.mem_append_left _ (h.known c hc)
    · by_cases hne : c = w.fresh
      · subst hne
        intro hnone
        simp at hnone
      · have hold : Event.newClient c ∈ w.log := by simpa [hne] using hc
        simpa [hne] using h.buffer c hold
  | send c tag msg payload => exact h.sendPkt c tag msg payload
  | setEvents c events =>
    unfold clientSetEvents
    split
    · exact h.setClient id
    · exact h.setClient id
    · exact h
  | connecting2 c _ hstate =>
    exact h.setClient fun harmed hnone => by simpa [hstate] using harmed hnone
  | command c _ hstate => exact h.setClient fun harmed hnone => by simpa [hstate] using harmed hnone
  | dead c => exact h.setClient fun _ _ => .inr rfl
  | plistVersion c => exact h.setClient id
  | idle c => exact h.setClient id
  | reply c size => exact (h.tock.emit (by simp)).setClient fun harmed => harmed.afterSend size
  | recv c len =>
    unfold recvCommandBytes
    split
    · exact h.tock
    · dsimp only
      exact h.tock.setClient id
  | done c => exact h.setClient id
  | release c =>
    refine ⟨fun c' hc' => List.mem_append_left _ (h.known c' (SlotTable.mem_of_mem_remove hc')), fun c' hc' => ?_⟩
    exact h.buffer c' (by simpa using hc')

/-- A step on connections leaves the clients alone. -/
theorem Armed.conn (h : Armed w) (hf : ConnFrame w w') : Armed w' :=
  h.of_clients (fun _ => rfl) hf.log (fun _ hc => hf.clientList ▸ hc) fun _ hc => hf.clients ▸ hc

theorem Armed.turn (h : Armed w) (ht : Turn env w w') : Armed w' := by
  have hblock : ∀ {v v'}, Armed v → Block env v v' → Armed v' := by
    intro v v' h hb
    cases hb with
    | traffic hb =>
      cases hb with
      | conn hb => exact h.conn hb.frame
      | client hb => exact h.client hb
    | device hb =>
      have hf := hb.frame
      exact h.of_clients (fun _ => rfl) hf.log (fun _ hc => hf.clientList ▸ hc) fun _ hc => hf.clients ▸ hc
  have hwork : ∀ {v v'}, Armed v → Work env v v' → Armed v' := by
    intro v v' h hw
    induction hw with
    | refl => exact h
    | tail _ hb ih => exact hblock ih hb
  cases ht with
  | block hb => exact hblock h hb
  | request c tag id _ hstate => exact h.setClient fun harmed hnone => by simpa [hstate] using harmed hnone
  | listen c _ hstate => exact h.setClient fun harmed hnone => by simpa [hstate] using harmed hnone
  | upload p c => exact h.conn (.clientToDevice env p c w)
  | failedUpload p c => exact hwork (h.conn (.clientToDevice env p c w)) (traffic_tearDown env p _).work

/-- Clients keep their reply buffers. -/
theorem Armed.turns (h : Armed w) (ht : Turns env w w') : Armed w' := by
  induction ht with
  | refl => exact h
  | tail _ hturn ih => exact ih.turn hturn

end Armed

/-! ### Replies -/

section Replies

variable {env : Env} {w : World} {c : Ptr}

theorem sendPkt_reliable (hrel : env.Reliable) (hbuf : (w.clients c).obBuf ≠ none) (tag : UInt32) (msg : MsgType)
    (payload : List UInt8) : (sendPkt env c tag msg payload w).2 = true := by
  have hroom : (enlargeOutBuffer env c (usbmuxdHeaderSize + UInt32.ofNat payload.length) w).2 = true ∧
      ((enlargeOutBuffer env c (usbmuxdHeaderSize + UInt32.ofNat payload.length) w).1.clients c).obBuf ≠ none := by
    unfold enlargeOutBuffer
    dsimp only
    split
    · rw [if_pos (hrel.realloc _)]
      simp
    · exact ⟨rfl, hbuf⟩
  unfold sendPkt
  dsimp only
  rw [if_pos hroom.1]
  split
  · rename_i hnone
    exact absurd hnone hroom.2
  · rfl

/-- With memory to be had, a reply is always queued. -/
theorem sendResult_reliable (hrel : env.Reliable) (hbuf : (w.clients c).obBuf ≠ none) (tag result : UInt32) :
    (sendResult env c tag result w).2 = true := by
  unfold sendResult
  split
  · unfold sendPlistPkt
    split
    · rename_i hnone
      have hsome := hrel.plistToXml w.tick
        (.dict [("MessageType", .string (cstr "Result")), ("Number", .uint result.toUInt64)])
      rw [hnone] at hsome
      cases hsome
    · exact sendPkt_reliable hrel (by simpa using hbuf) ..
  · exact sendPkt_reliable hrel hbuf ..

theorem clientNotifyConnect_other (hstate : (w.clients c).state ≠ .connecting1) (result : UInt32) :
    clientNotifyConnect env c result w = (w, false) := by
  rw [clientNotifyConnect, if_pos hstate]

/-- A client is told that its request was refused, and is back in command mode; or it is not told. -/
theorem registry_notify_refused (env : Env) (hstate : (w.clients c).state = .connecting1) :
    (clientNotifyConnect env c resultConnrefused w).1.registry =
        w.registry.setClient c { w.registry.clients c with state := .command } ∨
      ((sendResult env c (w.clients c).connectTag resultConnrefused w).2 = false ∧
        (clientNotifyConnect env c resultConnrefused w).1.registry = w.registry) := by
  have hsame := registry_sendResult env c w (w.clients c).connectTag resultConnrefused
  unfold clientNotifyConnect
  rw [if_neg (not_not.mpr hstate)]
  dsimp only
  split
  · left
    rw [if_neg (by decide), registry_setClient, hsame]
    have hentry := congrFun (congrArg Registry.clients hsame) c
    simp only [registry_clients] at hentry
    have hstate' := (state_eq hsame c).trans hstate
    congr 1
    simp only [registry_clients, ← hentry]
    simp [MuxClient.entry, hstate']
  · rename_i hfailed
    exact .inr ⟨by simpa using hfailed, hsame⟩

/-- A client is told that it is connected, and waits for the reply to be sent; or it is not told. -/
theorem registry_notify_ok (env : Env) (hstate : (w.clients c).state = .connecting1) :
    ((clientNotifyConnect env c resultOk w).2 = true ∧
        (clientNotifyConnect env c resultOk w).1.registry = w.registry.setClient c
          { w.registry.clients c with state := .connecting2, hasIbBuf := false, wantsRead := false }) ∨
      ((clientNotifyConnect env c resultOk w).2 = false ∧
        (sendResult env c (w.clients c).connectTag resultOk w).2 = false ∧
          (clientNotifyConnect env c resultOk w).1.registry = w.registry) := by
  have hsame := registry_sendResult env c w (w.clients c).connectTag resultOk
  unfold clientNotifyConnect
  rw [if_neg (not_not.mpr hstate)]
  dsimp only
  split
  · left
    refine ⟨rfl, ?_⟩
    rw [if_pos rfl, registry_setClient, hsame]
    have hentry := congrArg ClientEntry.connectDevice (congrFun (congrArg Registry.clients hsame) c)
    simp only [registry_clients, MuxClient.entry_connectDevice] at hentry
    simp [MuxClient.entry, hentry]
  · rename_i hfailed
    exact .inr ⟨by simpa using hfailed, by simpa using hfailed, hsame⟩

end Replies

/-! ### Releasing -/

section Releasing

variable (w : World)

/-- How often a record has been released goes up by one when it is. -/
theorem count_release {make : Ptr → Event} (hmake : Function.Injective make) (log : List Event) (x : Ptr) :
    (fun y => (log ++ [make x]).count (make y)) =
      Function.update (fun y => log.count (make y)) x (log.count (make x) + 1) := by
  funext y
  by_cases hy : y = x
  · subst hy
    simp
  · have hne : make x ≠ make y := fun heq => hy (hmake heq).symm
    simp [hy, hne]

theorem registry_emit_freeConn (p : Ptr) : (w.emit (.freeConn p)).registry = w.registry.freeConn p := by
  apply Registry.ext
  case freedConn => exact count_release (fun _ _ => Event.freeConn.inj) w.log p
  case cutShort => simp
  all_goals first | rfl | (funext x; simp)

theorem registry_emit_freeDev (d : Ptr) : (w.emit (.freeDev d)).registry = w.registry.freeDev d := by
  apply Registry.ext
  case freedDev => exact count_release (fun _ _ => Event.freeDev.inj) w.log d
  case cutShort => simp
  all_goals first | rfl | (funext x; simp)

theorem registry_releaseDev (d : Ptr) : (releaseDev d w).registry = w.registry.dropDev d := by
  apply Registry.ext
  case freedDev => exact count_release (fun _ _ => Event.freeDev.inj) w.log d
  case cutShort => simp
  all_goals first | rfl | (funext x; simp)

theorem registry_releaseConn (p : Ptr) :
    (releaseConn p w).registry = w.registry.unlink (w.conns p).dev p (w.registry.conns p) := by
  rw [releaseConn, registry_emit_freeConn, registry_setDev, Registry.unlink, Function.update_eq_self]
  rfl

theorem registry_releaseClient (c : Ptr) :
    (releaseClient c w).registry = w.registry.dropClient c (w.registry.clients c) := by
  have hclosed := count_release (fun _ _ => Event.closeSocket.inj) w.log c
  have hfreed := count_release (fun _ _ => Event.freeClient.inj) w.log c
  apply Registry.ext
  case clients => exact (Function.update_eq_self c w.registry.clients).symm
  case freedClient =>
    refine Eq.trans (funext fun x => ?_) hfreed
    simp [List.count_cons]
  case closedSocket =>
    refine Eq.trans (funext fun x => ?_) hclosed
    simp [List.count_cons]
  case cutShort => simp
  all_goals first | rfl | (funext x; simp)

end Releasing

/-! ### Teardown -/

/-- A connection and its client when `connection_teardown` is about to call `client_close`. -/
def closing (env : Env) (p c : Ptr) (w : World) : World :=
  let v := sendTeardownRst env p w
  let u := v.setConn p (·.become .dead)
  if (v.conns p).events.pollout ∧ 0 < (v.conns p).ibSize then flushInBuf env p c (v.conns p).ibSize.toNat u else u

section Teardown

variable {env : Env} {w : World} {p c : Ptr}

theorem sendTeardownRst_client : ((sendTeardownRst env p w).conns p).client = (w.conns p).client :=
  congrArg ConnEntry.client (congrFun (congrArg Registry.conns (registry_sendTeardownRst env w p)) p)

theorem sendTeardownRst_state : ((sendTeardownRst env p w).conns p).state = (w.conns p).state :=
  congrArg ConnEntry.state (congrFun (congrArg Registry.conns (registry_sendTeardownRst env w p)) p)

theorem connectionTeardown_dead (n : ℕ) (hstate : (w.conns p).state = .dead) :
    connectionTeardown env (n + 1) p w = w := by
  rw [connectionTeardown, if_pos hstate]

/-- Without a client there is only the connection to release. -/
theorem connectionTeardown_orphan (n : ℕ) (hclient : (w.conns p).client = none) (hstate : (w.conns p).state ≠ .dead) :
    connectionTeardown env (n + 1) p w = releaseConn p (sendTeardownRst env p w) := by
  rw [connectionTeardown, if_neg hstate]
  simp only [sendTeardownRst_client, hclient]

/-- A connection that was never established only tells its client. -/
theorem connectionTeardown_notify (n : ℕ) (hclient : (w.conns p).client = some c)
    (hstate : (w.conns p).state = .refused ∨ (w.conns p).state = .connecting) :
    connectionTeardown env (n + 1) p w =
      releaseConn p (clientNotifyConnect env c resultConnrefused (sendTeardownRst env p w)).1 := by
  have hdead : (w.conns p).state ≠ .dead := by rcases hstate with h | h <;> rw [h] <;> decide
  rw [connectionTeardown, if_neg hdead]
  simp only [sendTeardownRst_client, hclient, sendTeardownRst_state, if_pos hstate]

/-- An established connection takes its client with it. -/
theorem connectionTeardown_close (n : ℕ) (hclient : (w.conns p).client = some c)
    (hstate : (w.conns p).state = .connected ∨ (w.conns p).state = .dying) :
    connectionTeardown env (n + 1) p w = releaseConn p (clientClose env n c (closing env p c w)) := by
  have hdead : (w.conns p).state ≠ .dead := by rcases hstate with h | h <;> rw [h] <;> decide
  have hother : ¬ ((w.conns p).state = .refused ∨ (w.conns p).state = .connecting) := by
    rcases hstate with h | h <;> rw [h] <;> decide
  rw [connectionTeardown, if_neg hdead]
  simp only [sendTeardownRst_client, hclient, sendTeardownRst_state, if_neg hother]
  rfl

theorem registry_closing :
    (closing env p c w).registry = w.registry.setConn p { w.registry.conns p with state := .dead } := by
  have hdead : ((sendTeardownRst env p w).setConn p (·.become .dead)).registry =
      w.registry.setConn p { w.registry.conns p with state := .dead } := by
    have hentry := congrFun (congrArg Registry.conns (registry_sendTeardownRst env w p)) p
    rw [registry_setConn, registry_sendTeardownRst, ← hentry]
    rfl
  unfold closing
  dsimp only
  split
  · rename_i hflush
    rw [registry_flushInBuf, hdead]
    · simpa using UInt32.lt_iff_toNat_lt.mp hflush.2
    · simp
  · exact hdead

theorem closing_dead : ((closing env p c w).conns p).state = .dead := by
  have h : (closing env p c w).registry = _ := registry_closing
  simpa using congrArg ConnEntry.state (congrFun (congrArg Registry.conns h) p)

/-- A client that is not waiting for its connection is only released. -/
theorem clientClose_release (n : ℕ) (hstate : (w.clients c).state ≠ .connecting1 ∧ (w.clients c).state ≠ .connecting2) :
    clientClose env (n + 1) c w = releaseClient c w := by
  rw [clientClose]
  simp [hstate]

/-- A client that waits for its connection tears it down first. -/
theorem clientClose_found (n : ℕ) (hstate : (w.clients c).state = .connecting1 ∨ (w.clients c).state = .connecting2)
    (hlookup : w.registry.lookup (w.clients c).connectDevice c = some p) :
    clientClose env (n + 1) c w = releaseClient c
      (connectionTeardown env n p (w.setClient c fun cl => { cl with state := .dead })) := by
  have hfound : getMuxConnection (w.setClient c fun cl => { cl with state := .dead })
      (w.clients c).connectDevice c = some p := hlookup
  rw [clientClose]
  simp only [if_pos hstate, deviceAbortConnect, hfound]

theorem clientClose_not_found (n : ℕ)
    (hstate : (w.clients c).state = .connecting1 ∨ (w.clients c).state = .connecting2)
    (hlookup : w.registry.lookup (w.clients c).connectDevice c = none) :
    clientClose env (n + 1) c w = releaseClient c (w.setClient c fun cl => { cl with state := .dead }) := by
  have hfound : getMuxConnection (w.setClient c fun cl => { cl with state := .dead })
      (w.clients c).connectDevice c = none := hlookup
  rw [clientClose]
  simp only [if_pos hstate, deviceAbortConnect, hfound]

/-- The connection and its client are released, whatever they look like by then. -/
theorem registry_release_both {T : Registry} {d : Ptr} {e : ConnEntry} {e' : ClientEntry} {u : World}
    (hreg : u.registry = (T.setConn p e).setClient c e') (hdev : e.dev = d) :
    ∃ e₁ e₂, (releaseConn p (releaseClient c u)).registry = (T.unlink d p e₁).dropClient c e₂ := by
  have hconn := congrFun (congrArg Registry.conns hreg) p
  have hdev' : ((releaseClient c u).conns p).dev = d := by
    rw [← hdev]
    simpa using congrArg ConnEntry.dev hconn
  have hclosed : (releaseClient c u).registry = (T.setConn p e).dropClient c (u.registry.clients c) := by
    rw [registry_releaseClient, hreg, Registry.dropClient_setClient]
  refine ⟨(releaseClient c u).registry.conns p, u.registry.clients c, ?_⟩
  rw [registry_releaseConn, hdev', hclosed, ← Registry.unlink_setConn T d p e]
  rfl

/-- The teardown of an established connection releases it and its client, once each. -/
theorem registry_tearDown_close (env : Env) {d : Ptr} (n : ℕ) (hclient : (w.conns p).client = some c)
    (hdev : (w.conns p).dev = d)
    (hstate : (w.conns p).state = .connected ∨ (w.conns p).state = .dying)
    (hc : (w.clients c).state = .connected ∨
      (w.clients c).state = .connecting2 ∧ w.registry.lookup (w.clients c).connectDevice c = some p) :
    ∃ e e', (connectionTeardown env (n + 3) p w).registry = (w.registry.unlink d p e).dropClient c e' := by
  rw [connectionTeardown_close (n + 2) hclient hstate]
  have hreg : (closing env p c w).registry = w.registry.setConn p { w.registry.conns p with state := .dead } :=
    registry_closing
  have hdead : ((closing env p c w).conns p).state = .dead := closing_dead
  generalize closing env p c w = v at hreg hdead ⊢
  have hentry : (v.clients c).entry = (w.clients c).entry := congrFun (congrArg Registry.clients hreg) c
  have hsame : (v.clients c).state = (w.clients c).state := congrArg ClientEntry.state hentry
  have hid : (v.clients c).connectDevice = (w.clients c).connectDevice := congrArg ClientEntry.connectDevice hentry
  rcases hc with hc | ⟨hc, hlookup⟩
  · rw [clientClose_release (n + 1) (by rw [hsame, hc]; decide)]
    exact registry_release_both (hreg.trans (Registry.setClient_same _ c).symm) hdev
  · have hfound : v.registry.lookup (v.clients c).connectDevice c = some p := by
      rw [hid, hreg, Registry.lookup_setConn _ (by rfl), hlookup]
    rw [clientClose_found (n + 1) (.inr (hsame.trans hc)) hfound, connectionTeardown_dead n (by simpa using hdead)]
    exact registry_release_both ((registry_setClient ..).trans (by rw [hreg])) hdev

end Teardown

/-! ### Tracked worlds -/

/-- A world whose registry is in order. -/
structure Tracked (env : Env) (w : World) : Prop where
  ok : w.registry.Ok env.Reliable none
  armed : Armed w

section Tracked

variable {env : Env} {w w' : World} {d p c : Ptr} {removing : Option Ptr}

theorem Tracked.after (h : Tracked env w) (hs : Registry.Steps env.Reliable removing w.registry w'.registry)
    (ht : Turns env w w') : Tracked env w' := ⟨h.ok.steps hs, h.armed.turns ht⟩

theorem Tracked.same (h : Tracked env w) (hreg : w'.registry = w.registry) (ht : Turns env w w') : Tracked env w' :=
  ⟨hreg ▸ h.ok, h.armed.turns ht⟩

/-- A connection on a list is not being freed. -/
theorem Tracked.not_dead (h : Tracked env w) {d p c : Ptr} (hl : w.registry.Link d p c) :
    (w.conns p).state ≠ .dead := by
  intro hdead
  rcases (h.ok.link_client hl).2.2.conn_state with hs | hs
  · exact absurd (hs.symm.trans hdead) (by decide)
  · exact absurd (hs.symm.trans hdead) (by decide)

/-- The connection of a connected client can be used. -/
theorem Tracked.usable (h : Tracked env w) {d p c : Ptr} (hl : w.registry.Link d p c)
    (hc : (w.clients c).state = .connected) : Usable w p :=
  ⟨(h.ok.link_client hl).2.2.connected_iff.mpr (.inr hc), List.count_eq_zero.mp (h.ok.conn_live d hl.device p hl.conn)⟩

/-- A step on connections that leaves the registry alone. -/
theorem Tracked.conn (h : Tracked env w) (hreg : w'.registry = w.registry) (hf : ConnFrame w w') : Tracked env w' :=
  ⟨hreg ▸ h.ok, h.armed.conn hf⟩

theorem steps_same (hreg : w'.registry = w.registry) :
    Registry.Steps env.Reliable removing w.registry w'.registry := by
  rw [hreg]

/-- A client that waits for its connection can be told, if there is memory. -/
theorem Armed.notified (h : Armed w) (hc : c ∈ w.clientList) (hstate : (w.clients c).state = .connecting1)
    {tag result : UInt32} (hfailed : (sendResult env c tag result w).2 = false) : ¬ env.Reliable := by
  intro hrel
  have hbuf : (w.clients c).obBuf ≠ none := by
    intro hnone
    have h' := h.buffer c (h.known c hc) hnone
    simp [hstate] at h'
  rw [sendResult_reliable hrel hbuf] at hfailed
  cases hfailed

/-- The state a segment leaves its connection in when it closes it. -/
inductive MuxConnState.Closes : MuxConnState → MuxConnState → Prop where
  | connecting : Closes .connecting .connecting
  | refused : Closes .connecting .refused
  | connected : Closes .connected .connected
  | dying : Closes .connected .dying

/-- The teardown of a connection that may have been marked before. -/
theorem tearDown_from {T : Registry} {s : MuxConnState} (hok : T.Ok env.Reliable none) (hl : T.Link d p c)
    (hcloses : (T.conns p).state.Closes s) (harmed : Armed w)
    (hreg : w.registry = T.setConn p { T.conns p with state := s }) :
    Registry.Steps env.Reliable removing T (tearDown env p w).registry ∧
      T.Unlinked (tearDown env p w).registry d p := by
  obtain ⟨hmem, -, hmatch⟩ := hok.link_client hl
  have hconn : (w.conns p).entry = { T.conns p with state := s } := by
    simpa using congrFun (congrArg Registry.conns hreg) p
  have hclient : (w.conns p).client = some c := (congrArg ConnEntry.client hconn).trans hl.client
  have hdev : (w.conns p).dev = d :=
    (congrArg ConnEntry.dev hconn).trans (hok.conn_dev d hl.device p hl.conn)
  have hstate : (w.conns p).state = s := congrArg ConnEntry.state hconn
  have hentry : (w.clients c).entry = T.clients c := congrFun (congrArg Registry.clients hreg) c
  have hcstate : (w.clients c).state = (T.clients c).state := congrArg ClientEntry.state hentry
  have hlist : w.clientList = T.clientList := congrArg Registry.clientList hreg
  have hunlink : ∀ e, w.registry.unlink d p e = T.unlink d p e := by
    intro e
    rw [hreg, Registry.unlink_setConn]
  rw [tearDown, callDepth]
  rcases hmatch.conn_state with hsT | hsT
  · have hone : (w.clients c).state = .connecting1 := hcstate.trans (hmatch.connecting_iff.mp hsT)
    have hs : s = .refused ∨ s = .connecting := by
      rw [hsT] at hcloses
      cases hcloses <;> simp
    have hrst : (sendTeardownRst env p w).registry = w.registry := registry_sendTeardownRst env w p
    have halive : (w.conns p).state ≠ .dead := by
      rw [hstate]
      rcases hs with rfl | rfl <;> decide
    have harmed' := harmed.turns (traffic_sendTeardownRst env p w halive).turns
    have hlist' : (sendTeardownRst env p w).clientList = T.clientList :=
      (congrArg Registry.clientList hrst).trans hlist
    have hmem' : c ∈ (sendTeardownRst env p w).clientList := hlist' ▸ hmem
    have hone' := (state_eq hrst c).trans hone
    have hdev' : ∀ u : World, u.registry.conns p = w.registry.conns p → (u.conns p).dev = d := fun u hu =>
      (congrArg ConnEntry.dev hu).trans hdev
    rw [connectionTeardown_notify 3 hclient (by rwa [hstate])]
    rcases registry_notify_refused env hone' with hnotified | ⟨hfailed, hsame⟩
    · rw [registry_releaseConn, hdev' _ (by rw [hnotified, hrst]; rfl), hnotified, hrst, hreg,
        Registry.unlink_setClient, Registry.unlink_setConn]
      exact ⟨.single (.refuse d p c _ hl (hmatch.connecting_iff.mp hsT)), (T.unlinked_unlink d p _).setClient ..⟩
    · rw [registry_releaseConn, hdev' _ (by rw [hsame, hrst]), hsame, hrst, hunlink]
      exact ⟨.single (.abandon d p c _ hl (hmatch.connecting_iff.mp hsT) (harmed'.notified hmem' hone' hfailed)),
        T.unlinked_unlink d p _⟩
  · have hs : s = .connected ∨ s = .dying := by
      rw [hsT] at hcloses
      cases hcloses <;> simp
    have hlookup : w.registry.lookup (w.clients c).connectDevice c = some p := by
      rw [hreg, Registry.lookup_setConn _ (by rfl)]
      rw [← hok.lookup hl, ← hentry]
      rfl
    obtain ⟨e, e', hclosed⟩ := registry_tearDown_close env 1 hclient hdev (by rwa [hstate])
      ((hmatch.connected_iff.mp hsT).symm.imp hcstate.trans fun h => ⟨hcstate.trans h, hlookup⟩)
    rw [hclosed, hunlink]
    exact ⟨.single (.close d p c e e' hl), (T.unlinked_unlink d p e).dropClient ..⟩

theorem closes_self {s : MuxConnState} {s' : ClientState} (h : Registry.Matches s s') : s.Closes s := by
  cases h <;> constructor

/-- The teardown of a connection on a list. -/
theorem steps_tearDown (h : Tracked env w) (hl : w.registry.Link d p c) :
    Registry.Steps env.Reliable removing w.registry (tearDown env p w).registry :=
  (tearDown_from h.ok hl (closes_self (h.ok.link_client hl).2.2) h.armed (Registry.setConn_same _ p).symm).1

theorem unlinked_tearDown (h : Tracked env w) (hl : w.registry.Link d p c) :
    w.registry.Unlinked (tearDown env p w).registry d p := by
  have hgone : Registry.Steps env.Reliable none w.registry _ ∧ _ :=
    tearDown_from h.ok hl (closes_self (h.ok.link_client hl).2.2) h.armed (Registry.setConn_same _ p).symm
  exact hgone.2

/-- The close of a client that is not connected, and not between the answer to its
connect request and the reply. -/
theorem steps_closeClient (h : Tracked env w) (hc : c ∈ w.clientList) (hstate : (w.clients c).state ≠ .connecting2)
    (hconnected : (w.clients c).state ≠ .connected) :
    Registry.Steps env.Reliable removing w.registry (closeClient env c w).registry := by
  have hdiscard : ∀ {u : World} {e : ClientEntry}, u.registry = w.registry.setClient c e →
      (∀ d p, ¬ w.registry.Link d p c) →
      Registry.Steps env.Reliable removing w.registry (releaseClient c u).registry := by
    intro u e hu hno
    rw [registry_releaseClient, hu, Registry.dropClient_setClient]
    exact .single (.discard c _ hc hno)
  rw [closeClient, callDepth]
  by_cases hone : (w.clients c).state = .connecting1
  · cases hlookup : w.registry.lookup (w.clients c).connectDevice c with
    | none =>
      rw [clientClose_not_found 3 (.inl hone) hlookup]
      refine hdiscard (registry_setClient ..) fun d p hl => ?_
      have hfound : w.registry.lookup (w.clients c).connectDevice c = some p := h.ok.lookup hl
      rw [hlookup] at hfound
      cases hfound
    | some p =>
      obtain ⟨d, hl, -⟩ := w.registry.link_of_lookup hlookup
      have hconn : (w.conns p).state = .connecting := (h.ok.link_client hl).2.2.connecting_iff.mpr hone
      rw [clientClose_found 3 (.inl hone) hlookup]
      generalize hu : (w.setClient c fun cl => { cl with state := .dead }) = u
      have hreg : u.registry = w.registry.setClient c { w.registry.clients c with state := .dead } := by
        rw [← hu, registry_setClient]
        simp [MuxClient.entry, hone]
      have hconns : u.conns = w.conns := by
        rw [← hu]
        rfl
      have hrst : (sendTeardownRst env p u).registry = u.registry := registry_sendTeardownRst env u p
      have hdead : ((sendTeardownRst env p u).clients c).state ≠ .connecting1 := by
        rw [state_eq hrst c, ← hu]
        simp
      have hdev : ((sendTeardownRst env p u).conns p).dev = d := by
        have hsame : (sendTeardownRst env p u).registry.conns p = w.registry.conns p := by
          rw [hrst, hreg]
          rfl
        exact (congrArg ConnEntry.dev hsame).trans (h.ok.conn_dev d hl.device p hl.conn)
      rw [connectionTeardown_notify 2 (by rw [hconns]; exact hl.client) (by rw [hconns]; exact .inr hconn),
        clientNotifyConnect_other hdead, registry_releaseClient, registry_releaseConn, hdev, hrst, hreg,
        Registry.unlink_setClient, Registry.dropClient_setClient]
      exact .single (.close d p c _ _ hl)
  · rw [clientClose_release 3 ⟨hone, hstate⟩]
    refine hdiscard (Registry.setClient_same _ c).symm fun d p hl => ?_
    have hmatch := (h.ok.link_client hl).2.2
    rcases hmatch.conn_state with hs | hs
    · exact hone (hmatch.connecting_iff.mp hs)
    · exact (hmatch.connected_iff.mp hs).elim hstate hconnected

end Tracked

end Usbmuxd
