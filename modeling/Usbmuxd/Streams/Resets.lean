import Usbmuxd.Streams.Answers

/-!
# The last word

An `RST` of `connection_teardown` is the last that a device hears of a connection: the teardown frees the
connection, and nothing is sent for one that has been freed. No segment is answered with more than
one `RST`, and one that carries `RST` itself with none, so two muxes cannot go on resetting each other.

## The model

* `LastWord p` — in a sequence of entries no segment of `p` follows an `RST` of `p`.
* `Orderly` — a step whose entries are such a sequence, that frees what it resets and is silent about what
  has been freed before.

## What is proved

* `Orderly.trans`, `Answer.orderly` — orderly steps one after the other, and those for one connection.
* `orderly_exec` — every operation after every run.
* `rst_discipline` — the resets of a segment, and of a whole run.
-/

namespace Usbmuxd

open World

/-! ### Entries -/

/-- A segment of connection `p`. -/
def Event.speaks (p : Ptr) : Event → Bool
  | .segment q .. => q == p
  | _ => false

/-- An `RST` of connection `p`. -/
def Event.resets (p : Ptr) : Event → Bool
  | .segment q th .. => q == p && th.hasRst
  | _ => false

/-- An entry that is no segment. -/
def Event.mute : Event → Bool
  | .segment .. => false
  | _ => true

theorem Event.speaks_of_resets {p : Ptr} {e : Event} (h : e.resets p = true) : e.speaks p = true := by
  cases e <;> simp_all [Event.resets, Event.speaks]

theorem Event.not_speaks_of_mute {e : Event} (h : e.mute = true) (p : Ptr) : e.speaks p = false := by
  cases e <;> simp_all [Event.mute, Event.speaks]

/-- No segment of `p` follows an `RST` of `p`. -/
def LastWord (p : Ptr) (es : List Event) : Prop :=
  es.Pairwise fun e e' => e.resets p = true → e'.speaks p = false

/-- There is only one last word. -/
theorem LastWord.once {p : Ptr} {es : List Event} (h : LastWord p es) : es.countP (Event.resets p) ≤ 1 := by
  induction es with
  | nil => exact Nat.zero_le 1
  | cons e es ih =>
    obtain ⟨hfirst, hrest⟩ := List.pairwise_cons.mp h
    rw [List.countP_cons]
    split
    · rename_i hreset
      have hnone : es.countP (Event.resets p) = 0 := List.countP_eq_zero.mpr fun e' he' hreset' => by
        have hsilent := hfirst e' he' hreset
        rw [Event.speaks_of_resets hreset'] at hsilent
        cases hsilent
      omega
    · exact ih hrest

theorem Event.not_speaks_of_unowned {e : Event} (h : e.conn? = none) (p : Ptr) : e.speaks p = false := by
  cases e with
  | segment => cases h
  | _ => rfl

theorem Event.not_sendsRst_of_quiet {e : Event} (h : e.quiet = true) (version : Ptr → ℕ) : e.sendsRst version = false := by
  cases e with
  | usbSend => cases h
  | _ => rfl

theorem Event.not_sendsRst_of_polite {version : Ptr → ℕ} {p : Ptr} {e : Event} (h : e.polite version p = true) :
    e.sendsRst version = false := by
  cases e with
  | usbSend d packet ok => simpa [Event.polite, Event.sendsRst] using h
  | _ => rfl

/-! ### Steps -/

/-- A step that frees what it resets, says nothing of it afterwards, and nothing of what has been freed before. -/
def Orderly (w w' : World) : Prop :=
  ∃ es, w'.log = w.log ++ es ∧ ∀ p, LastWord p es ∧ (∀ e ∈ es, e.resets p = true → .freeConn p ∈ es) ∧
    ∀ e ∈ es, e.speaks p = true → .freeConn p ∉ w.log

section Steps

variable {env : Env} {P C : Ptr → Prop} {w w' w'' : World} {d p c : Ptr}

/-- A step that sends no segment. -/
theorem orderly_mute (h : w.Grows Event.mute w') : Orderly w w' := by
  obtain ⟨es, hlog, hmute⟩ := h
  have hsilent : ∀ p, ∀ e ∈ es, e.speaks p = false := fun p e he => Event.not_speaks_of_mute (hmute e he) p
  refine ⟨es, hlog, fun p => ⟨List.pairwise_of_forall_mem_list fun _ _ e' he' _ => hsilent p e' he', ?_, ?_⟩⟩
  · intro e he hreset
    have hspeaks := Event.speaks_of_resets hreset
    rw [hsilent p e he] at hspeaks
    cases hspeaks
  · intro e he hspeaks
    rw [hsilent p e he] at hspeaks
    cases hspeaks

theorem Orderly.refl (w : World) : Orderly w w := orderly_mute (.refl _ w)

theorem Orderly.trans (h : Orderly w w') (h' : Orderly w' w'') : Orderly w w'' := by
  obtain ⟨es, hlog, hes⟩ := h
  obtain ⟨es', hlog', hes'⟩ := h'
  refine ⟨es ++ es', by rw [hlog', hlog, List.append_assoc], fun p => ?_⟩
  obtain ⟨hlast, hfree, hold⟩ := hes p
  obtain ⟨hlast', hfree', hold'⟩ := hes' p
  refine ⟨List.pairwise_append.mpr ⟨hlast, hlast', fun e he e' he' hreset => ?_⟩, fun e he hreset => ?_,
    fun e he hspeaks => ?_⟩
  · -- what the first step has reset it has freed, and the second one says nothing of it
    by_contra hspeaks
    refine hold' e' he' (by simpa using hspeaks) ?_
    rw [hlog]
    exact List.mem_append_right _ (hfree e he hreset)
  · rcases List.mem_append.mp he with he | he
    · exact List.mem_append_left _ (hfree e he hreset)
    · exact List.mem_append_right _ (hfree' e he hreset)
  · rcases List.mem_append.mp he with he | he
    · exact hold e he hspeaks
    · intro hfreed
      refine hold' e he hspeaks ?_
      rw [hlog]
      exact List.mem_append_left _ hfreed

/-- A step that is about no connection. -/
theorem orderly_apart (h : Confined (fun _ => False) C w w') : Orderly w w' := by
  obtain ⟨es, hlog, hes⟩ := h.log
  refine orderly_mute ⟨es, hlog, fun e he => ?_⟩
  have hnone := (hes e he).conn
  cases e <;> first | rfl | exact (hnone _ rfl).elim

theorem Event.mute_of_quiet {e : Event} (h : e.quiet = true) : e.mute = true := by
  cases e <;> simp_all [Event.quiet, Event.mute]

theorem Event.not_resets_of_polite {version : Ptr → ℕ} {e : Event} (h : e.polite version p = true) (q : Ptr) :
    e.resets q = false := by
  cases e <;> simp_all [Event.polite, Event.resets]

theorem Event.speaks_of_polite {version : Ptr → ℕ} {e : Event} (h : e.polite version p = true) {q : Ptr}
    (hspeaks : e.speaks q = true) : q = p := by
  cases e <;> simp_all [Event.polite, Event.speaks]

/-- A connection that stays is not reset. -/
theorem Polite.orderly (h : Polite p w w') (hlive : .freeConn p ∉ w.log) : Orderly w w' := by
  obtain ⟨es, hlog, hpolite⟩ := h.log
  refine ⟨es, hlog, fun q => ⟨List.pairwise_of_forall_mem_list fun e he _ _ hreset => ?_, fun e he hreset => ?_,
    fun e he hspeaks => ?_⟩⟩
  · rw [Event.not_resets_of_polite (hpolite e he) q] at hreset
    cases hreset
  · rw [Event.not_resets_of_polite (hpolite e he) q] at hreset
    cases hreset
  · rwa [Event.speaks_of_polite (hpolite e he) hspeaks]

/-- What a teardown writes: it says at most one thing of its connection, and frees it. -/
theorem Farewell.orderly (h : Farewell env p w w') (hlive : .freeConn p ∉ w.log) : Orderly w w' := by
  obtain ⟨es, es', hlog, hquiet, hafter⟩ := h
  obtain ⟨rst, hlog', -, -, hrst, -⟩ := sendTeardownRst_entries env p w
  have hback : ∀ q, ∀ e ∈ es ++ .freeConn p :: es', e.speaks q = false := by
    intro q e he
    simp only [List.mem_append, List.mem_cons] at he
    rcases he with he | rfl | he
    · exact Event.not_speaks_of_mute (Event.mute_of_quiet (hquiet e he)) q
    · rfl
    · exact Event.not_speaks_of_mute (Event.mute_of_quiet (hafter e he).1) q
  have hown : ∀ q, LastWord q rst ∧ ∀ e ∈ rst, e.speaks q = true → q = p := by
    intro q
    rcases hrst with rfl | ⟨before, th, data, ok, rfl, hbefore⟩
    · exact ⟨List.Pairwise.nil, by simp⟩
    · have hsilent : ∀ e ∈ before, e.speaks q = false := by
        intro e he
        exact Event.not_speaks_of_unowned (hbefore e he) q
      refine ⟨List.pairwise_append.mpr ⟨List.pairwise_of_forall_mem_list fun _ _ e' he' _ => hsilent e' he',
        List.pairwise_singleton _ _, fun e he e' _ hreset => ?_⟩, fun e he hspeaks => ?_⟩
      · have hspeaks := Event.speaks_of_resets hreset
        rw [hsilent e he] at hspeaks
        cases hspeaks
      · rcases List.mem_append.mp he with he | he
        · rw [hsilent e he] at hspeaks
          cases hspeaks
        · rw [List.mem_singleton.mp he] at hspeaks
          exact (beq_iff_eq.mp hspeaks).symm
  have hspoken : ∀ q, ∀ e ∈ rst ++ (es ++ .freeConn p :: es'), e.speaks q = true → q = p := by
    intro q e he hspeaks
    rcases List.mem_append.mp he with he | he
    · exact (hown q).2 e he hspeaks
    · rw [hback q e he] at hspeaks
      cases hspeaks
  refine ⟨rst ++ (es ++ .freeConn p :: es'), by rw [hlog, hlog']; simp, fun q => ⟨?_, fun e he hreset => ?_,
    fun e he hspeaks => ?_⟩⟩
  · refine List.pairwise_append.mpr ⟨(hown q).1, List.pairwise_of_forall_mem_list fun _ _ e' he' _ => hback q e' he', ?_⟩
    exact fun _ _ e' he' _ => hback q e' he'
  · obtain rfl := hspoken q e he (Event.speaks_of_resets hreset)
    simp
  · rwa [hspoken q e he hspeaks]

/-- A polite step frees nothing. -/
theorem Polite.alive (h : Polite p w w') (hlive : .freeConn p ∉ w.log) : .freeConn p ∉ w'.log :=
  fun hmem => hlive (h.log.old rfl hmem)

theorem Ended.orderly (h : Ended env p w w') (hlive : .freeConn p ∉ w.log) : Orderly w w' := by
  obtain ⟨v, hpolite, hbye⟩ := h
  exact (hpolite.orderly hlive).trans (hbye.orderly (hpolite.alive hlive))

theorem Answer.orderly (h : Answer env p w w') (hlive : .freeConn p ∉ w.log) : Orderly w w' :=
  h.elim (·.orderly hlive) (·.orderly hlive)

theorem Touched.orderly (h : Touched env p w w') (hlive : .freeConn p ∉ w.log) : Orderly w w' := by
  obtain ⟨u, hend, rfl⟩ := h
  exact (hend.orderly hlive).trans (orderly_mute (.one rfl rfl))

end Steps

/-! ### Connections -/

section Connections

variable {env : Env} {w w' : World} {d p c : Ptr}

/-- A connection on a list has not been freed. -/
theorem Tracked.alive (h : Tracked env w) (hl : w.registry.Link d p c) : .freeConn p ∉ w.log :=
  List.count_eq_zero.mp (h.ok.conn_live d hl.device p hl.conn)

theorem orderly_log (h : w'.log = w.log) : Orderly w w' := orderly_mute (.none h)

theorem orderly_emit {e : Event} (he : e.mute = true) (w : World) : Orderly w (w.emit e) := orderly_mute (.one rfl he)

theorem orderly_sendPacket (env : Env) (d : Ptr) (proto : MuxProtocol) (header data : List UInt8) (w : World) :
    Orderly w (sendPacket env d proto header data w).1 := by
  have hstep : Confined (fun _ => False) (fun _ => False) w (sendPacket env d proto header data w).1 :=
    .sendPacket env d proto header data w
  exact orderly_apart hstep

theorem orderly_sendResult (env : Env) (c : Ptr) (tag result : UInt32) (w : World) :
    Orderly w (sendResult env c tag result w).1 :=
  orderly_mute ((quiet_sendResult env c tag result w).mono fun _ => Event.mute_of_quiet)

theorem orderly_tearDown (ht : Tracked env w) (hl : w.registry.Link d p c) : Orderly w (tearDown env p w) :=
  (ended_tearDown (ht.bound hl) (ht.not_dead hl)).orderly (ht.alive hl)

theorem orderly_sendTcpAck (ht : Tracked env w) (hl : w.registry.Link d p c) : Orderly w (sendTcpAck env p w).1 := by
  have hshape := sendTcpAck_shape env (ht.bound hl) (ht.not_dead hl)
  split at hshape
  · exact hshape.orderly (ht.alive hl)
  · exact hshape.orderly (ht.alive hl)

theorem orderly_deviceTcpInput (ht : Tracked env w) (hd : d ∈ w.deviceList) (th : TcpHdr) (payload : List UInt8) :
    Orderly w (deviceTcpInput env d th payload w) := by
  by_cases hactive : (w.devs d).state = .active
  · cases hfound : findByPorts w d th.dport th.sport with
    | none =>
      obtain ⟨es, hlog, hes⟩ := deviceTcpInput_vain env hfound payload
      refine orderly_mute ⟨_, hlog, fun e he => ?_⟩
      split at hes
      · simp_all [Event.mute]
      · obtain ⟨packet, rfl⟩ := hes
        split at he <;> simp only [List.mem_cons, List.not_mem_nil, or_false] at he
        · rcases he with rfl | rfl <;> rfl
        · rcases he with rfl | rfl | rfl <;> rfl
    | some p =>
      obtain ⟨c, hl⟩ := ht.ok.link_of_mem hd (SlotTable.find?_mem hfound)
      obtain ⟨htouched, hanswer⟩ := deviceTcpInput_found ht hd hfound hactive payload
      by_cases hlost : inputLost env d th payload w
      · exact (htouched hlost).orderly (ht.alive hl)
      · exact (hanswer hlost).orderly (ht.alive hl)
  · have hidle : ((w.emit (.tcpInput d th payload)).devs d).state ≠ .active := hactive
    unfold deviceTcpInput
    simp only [if_pos hidle]
    exact orderly_emit rfl w

theorem orderly_deviceClientProcess (ht : Tracked env w) (id : ℕ) (c : Ptr) (events : Events) :
    Orderly w (deviceClientProcess env id c events w) := by
  cases hfound : getMuxConnection w id c with
  | none =>
    unfold deviceClientProcess
    rw [hfound]
    exact .refl w
  | some p =>
    obtain ⟨d, hl, -⟩ := w.registry.link_of_lookup (show w.registry.lookup id c = some p from hfound)
    have hshape := deviceClientProcess_shape env hfound (ht.bound hl) (ht.not_dead hl) events
    split at hshape
    · exact hshape.orderly (ht.alive hl)
    · exact hshape.orderly (ht.alive hl)

/-- The close of a client takes at most the connection along that it waits for. -/
theorem orderly_closeClient (hok : w.registry.Ok env.Reliable none) (c : Ptr) : Orderly w (closeClient env c w) := by
  have hapart : (∀ p, w.registry.lookup (w.clients c).connectDevice c = some p → False) →
      Orderly w (closeClient env c w) := fun hno => orderly_apart (.closeClient env (C := Eq c) rfl hno)
  by_cases hwaits : (w.clients c).state = .connecting1 ∨ (w.clients c).state = .connecting2
  · cases hlookup : w.registry.lookup (w.clients c).connectDevice c with
    | none => exact hapart fun p hfound => by rw [hlookup] at hfound; cases hfound
    | some p =>
      obtain ⟨d, hl, -⟩ := w.registry.link_of_lookup hlookup
      have hbound : Bound p c (w.setClient c fun cl => { cl with state := .dead }) := by
        refine ⟨hl.client, fun q hq => ?_⟩
        rw [setClient_clients, Function.update_self] at hq
        exact Option.some.inj (hq.symm.trans hlookup)
      have halive : ((w.setClient c fun cl => { cl with state := .dead }).conns p).state ≠ .dead := by
        intro hdead
        rcases (hok.link_client hl).2.2.conn_state with hs | hs <;>
          exact absurd (hs.symm.trans hdead) (by decide)
      have hlive : .freeConn p ∉ (w.setClient c fun cl => { cl with state := .dead }).log :=
        List.count_eq_zero.mp (hok.conn_live d hl.device p hl.conn)
      rw [closeClient, callDepth, clientClose_found 3 hwaits hlookup]
      have hbye : Orderly _ (connectionTeardown env 3 p (w.setClient c fun cl => { cl with state := .dead })) :=
        (farewell_connectionTeardown hbound halive 0).orderly hlive
      exact ((orderly_log rfl).trans hbye).trans
        (orderly_mute ((quiet_releaseClient rfl c).mono fun _ => Event.mute_of_quiet))
  · rw [closeClient, callDepth, clientClose_release 3 (not_or.mp hwaits)]
    exact orderly_mute ((quiet_releaseClient rfl c).mono fun _ => Event.mute_of_quiet)

/-- A new connection has not been freed before it is made. -/
theorem orderly_deviceStartConnect (hok : w.registry.Ok env.Reliable none) (id : ℕ) (port : UInt16) (c : Ptr) :
    Orderly w (deviceStartConnect env id port c w).1 := by
  have hunborn : .freeConn w.fresh ∉ w.log := List.count_eq_zero.mp (hok.unborn w.fresh le_rfl).1
  have hsyn : ∀ d sport v next, v = w.setDev d (fun dev => { dev with nextSport := next }) →
      Orderly w (sendTcp env v.fresh thSyn [] (allocConn (.start d c sport port) v)).1 := by
    rintro d sport v next rfl
    generalize hu : allocConn (.start d c sport port) (w.setDev d fun dev => { dev with nextSport := next }) = u
    have hstart : Orderly w u := orderly_mute (.one (e := .start w.fresh) (by rw [← hu]; rfl) rfl)
    have hlive : .freeConn w.fresh ∉ u.log := by
      rw [← hu]
      simpa using hunborn
    exact hstart.trans ((polite_sendTcp (hasRst_thSyn _) env []).orderly hlive)
  have hstarted := connectStarted env id port c w
  generalize deviceStartConnect env id port c w = r at hstarted ⊢
  cases hstarted with
  | noDevice => exact .refl w
  | uninitialised => exact orderly_emit rfl w
  | cutShort => exact orderly_emit rfl w
  | noPort d next => exact orderly_log rfl
  | refused d sport next v _ _ _ _ hv =>
    dsimp only
    exact (hsyn d sport v next hv).trans (orderly_emit rfl _)
  | started d sport next v _ _ _ _ hv =>
    have hsent := hsyn d sport v next hv
    generalize (sendTcp env v.fresh thSyn [] (allocConn (.start d c sport port) v)).1 = u at hsent
    exact hsent.trans (orderly_log rfl)

end Connections

/-! ### Devices -/

section Devices

variable {env : Env} {w w' : World} {d c : Ptr}

theorem orderly_deviceVersionInput (env : Env) (d : Ptr) (vh : VersionHeader) (w : World) :
    Orderly w (deviceVersionInput env d vh w) := by
  have hcall : Orderly w (w.emit (.versionInput d vh)) := orderly_emit rfl w
  unfold deviceVersionInput
  dsimp only
  split
  · exact hcall
  · split
    · exact hcall.trans (orderly_mute (.one (e := .freeDev d) rfl rfl))
    · have hversion : Orderly w ((w.emit (.versionInput d vh)).setDev d fun dev =>
          { dev with version := vh.major.toNat }) := hcall.trans (orderly_log rfl)
      generalize (w.emit (.versionInput d vh)).setDev d (fun dev => { dev with version := vh.major.toNat }) = v
        at hversion ⊢
      have hsetup : Orderly w (if 2 ≤ vh.major then (sendPacket env d .setup [] [0x07] v).1 else v) := by
        split
        · exact hversion.trans (orderly_sendPacket ..)
        · exact hversion
      generalize (if 2 ≤ vh.major then _ else _ : World) = u at hsetup ⊢
      exact hsetup.trans (orderly_mute (.one (e := .preflight _) rfl rfl))

theorem orderly_deviceDataInput (h : Steady env w) (u : UsbDevice) (buffer : Mem) (length : UInt32) :
    Orderly w (deviceDataInput env u buffer length w).1 := by
  unfold deviceDataInput
  split
  · exact .refl w
  · rename_i d hfound
    have hd : d ∈ w.deviceList := SlotTable.find?_mem hfound
    have hreg : (w.setDev d (·.setFraming (decode (w.devs d).framing buffer length).framing)).registry = w.registry :=
      registry_setDev_same _ rfl
    have hv : Tracked env (w.setDev d (·.setFraming (decode (w.devs d).framing buffer length).framing)) :=
      h.tracked.same hreg (DeviceBlock.framing d _ w).one.turns
    have hset : Orderly w (w.setDev d (·.setFraming (decode (w.devs d).framing buffer length).framing)) :=
      orderly_log rfl
    dsimp only
    split
    · exact hset
    · rename_i call _
      refine hset.trans ?_
      cases call with
      | version vh => exact orderly_deviceVersionInput ..
      | control payload => exact orderly_emit rfl _
      | tcp th payload => exact orderly_deviceTcpInput hv hd th payload

theorem Steady.deviceDataInput (h : Steady env w) (u : UsbDevice) (buffer : Mem) (length : UInt32) :
    Steady env (deviceDataInput env u buffer length w).1 :=
  h.after (steps_deviceDataInput h.tracked u buffer length).phases (work_deviceDataInput env w u buffer length).turns

theorem orderly_drain (h : Steady env w) (d : Ptr) (u : UsbDevice) (n : ℕ) (buffer : Mem) (size : UInt32) :
    Orderly w (drain env d u n buffer size w) := by
  induction n generalizing buffer size w with
  | zero => exact orderly_emit rfl w
  | succ n ih =>
    unfold drain
    split
    · exact .refl w
    · have hinput := orderly_deviceDataInput h u buffer size
      dsimp only
      split
      · exact hinput.trans (orderly_emit rfl _)
      · split
        · exact hinput
        · exact hinput.trans (ih (h.deviceDataInput u buffer size) _ _)

theorem orderly_deviceAdd (env : Env) (u : UsbDevice) (w : World) : Orderly w (deviceAdd env u w) := by
  have hsent : Orderly w (sendPacket env w.fresh .version (VersionHeader.bytes ⟨1, 0, 0⟩) []
      (allocDev u (getNextDeviceId w) w)).1 := (orderly_log rfl).trans (orderly_sendPacket ..)
  unfold deviceAdd
  dsimp only
  split
  · exact hsent.trans (orderly_log rfl)
  · exact hsent.trans (orderly_emit rfl _)

/-- The loop of `device_remove`. -/
theorem orderly_tearDownAll (ht : Tracked env w) (hd : d ∈ w.deviceList) : Orderly w (tearDownAll env d w) := by
  refine (SlotTable.forEach_induct (P := fun v => Orderly w v ∧ Tracked env v ∧ d ∈ v.deviceList) ?_ _ _ _
    ⟨.refl w, ht, hd⟩).1
  rintro p v hp ⟨hv, htv, hdv⟩
  obtain ⟨c, hl⟩ := htv.ok.link_of_mem hdv hp
  have hsteps : Registry.Steps env.Reliable none v.registry (tearDown env p v).registry := steps_tearDown htv hl
  refine ⟨hv.trans (orderly_tearDown htv hl), htv.after hsteps (traffic_tearDown env p v).turns, ?_⟩
  show d ∈ (tearDown env p v).registry.deviceList
  rw [(unlinked_tearDown htv hl).deviceList]
  exact hdv

theorem orderly_deviceRemove (h : Steady env w) (u : UsbDevice) : Orderly w (deviceRemove env u w) := by
  unfold deviceRemove
  split
  · exact .refl w
  · rename_i d hfound
    have hd : d ∈ w.deviceList := SlotTable.find?_mem hfound
    refine Orderly.trans ?_ (orderly_mute (.one (e := .freeDev d) rfl rfl))
    split
    · rename_i hactive
      have htv := h.tracked.after (steps_dying h.tracked hd hactive) (DeviceBlock.dead d w).one.turns
      have hdv : d ∈ (w.setDev d fun dev => { dev with state := .dead }).deviceList := hd
      have hdying : Orderly w (w.setDev d fun dev => { dev with state := .dead }) := orderly_log rfl
      unfold disconnectDevice
      dsimp only
      generalize (w.setDev d fun dev => { dev with state := .dead }) = v at htv hdv hdying ⊢
      have hall := hdying.trans (orderly_tearDownAll htv hdv)
      generalize tearDownAll env d v = t at hall ⊢
      generalize hnote : (if (t.devs d).visible = true then clientDeviceRemove env (t.devs d).id t
        else clientDeviceRemovedDuringAdd env (t.deviceInfo env d) t) = s
      have hs : Orderly t s := by
        rw [← hnote]
        split
        · exact orderly_apart (.clientDeviceRemove env _ t)
        · exact orderly_apart (.clientDevicePairingEvent env _ _ _ t)
      exact (hall.trans hs).trans (orderly_log rfl)
    · exact .refl w

theorem orderly_usbAction (h : Steady env w) (a : UsbAction) : Orderly w (usbAction env a w) := by
  cases a with
  | deviceAdd u => exact orderly_deviceAdd env u w
  | deviceRemove u => exact orderly_deviceRemove h u
  | deviceAddFailed u => exact orderly_apart (Confined.clientDevicePairingEvent env
      ⟨0, (env.usbInfo u).1, (env.usbInfo u).2.1, (env.usbInfo u).2.2⟩ .removedDuringAdd false w)
  | errorAlreadyExists info => exact orderly_apart (Confined.clientDevicePairingEvent env info
      .errorDeviceAlreadyExists false w)

theorem orderly_usbProcess (h : Steady env w) : Orderly w (usbProcess env w) := by
  have htock : Orderly w w.tock := orderly_log rfl
  have hstock : Steady env w.tock := ⟨⟨h.tracked.ok, h.tracked.armed.tock⟩, h.settled⟩
  unfold usbProcess
  generalize w.tock = v at htock hstock ⊢
  induction env.usbProcess w.tick generalizing v with
  | nil => exact htock
  | cons a rest ih =>
    exact ih _ (htock.trans (orderly_usbAction hstock a))
      (hstock.after (phases_usbAction hstock a) (work_usbAction env v a).turns)

/-- Acknowledgements that are overdue. -/
theorem orderly_deviceCheckTimeouts (ht : Tracked env w) : Orderly w (deviceCheckTimeouts env w) := by
  have htock : Orderly w w.tock := orderly_log rfl
  refine (SlotTable.forEach_induct (P := fun v => Orderly w v ∧ Tracked env v) ?_ _ _ _
    ⟨htock, ⟨ht.ok, ht.armed.tock⟩⟩).1
  intro d v hd hv
  split
  · refine (SlotTable.forEach_induct (P := fun u => (Orderly w u ∧ Tracked env u) ∧ d ∈ u.deviceList) ?_ _ _ _
      ⟨hv, hd⟩).1
    rintro p u hp ⟨⟨hu, htu⟩, hdu⟩
    split
    · obtain ⟨c, hl⟩ := htu.ok.link_of_mem hdu hp
      have hsteps : Registry.Steps env.Reliable none u.registry (sendTcpAck env p u).1.registry := steps_sendTcpAck htu hl
      have hturns := traffic_sendTcpAck env p u (htu.not_dead hl)
      refine ⟨⟨hu.trans (orderly_sendTcpAck htu hl), htu.after hsteps hturns.turns⟩, ?_⟩
      rw [hturns.devices.deviceList]
      exact hdu
    · exact ⟨⟨hu, htu⟩, hdu⟩
  · exact hv

end Devices

/-! ### Clients -/

section Clients

variable {env : Env} {w w' : World} {d c : Ptr}

theorem orderly_connectRequest (h : Tracked env w) (c : Ptr) (hdr : UsbmuxdHeader) (id : ℕ) (port : UInt16) :
    Orderly w (connectRequest env c hdr id port w) := by
  have hstart := orderly_deviceStartConnect h.ok id port c
  unfold connectRequest
  dsimp only
  split
  · exact hstart.trans (orderly_sendResult ..)
  · exact hstart.trans (orderly_log rfl)

theorem orderly_handleConnectCommand (h : Tracked env w) (c : Ptr) (hdr : UsbmuxdHeader) (command : Plist) :
    Orderly w (handleConnectCommand env c hdr command w) := by
  unfold handleConnectCommand
  split
  · exact orderly_sendResult ..
  · dsimp only
    split
    · exact orderly_sendResult ..
    · exact orderly_connectRequest h c hdr _ _

theorem orderly_withLocation {act : UInt32 → World → World} (hdr : UsbmuxdHeader) (command : Plist)
    (hact : ∀ location, Orderly w (act location w)) : Orderly w (withLocation env c hdr command act w) := by
  unfold withLocation
  split
  · exact orderly_sendResult ..
  · exact (hact _).trans (orderly_sendResult ..)

theorem orderly_handleClientPlistCommand (h : Steady env w) (c : Ptr) (hdr : UsbmuxdHeader) (payload : List UInt8) :
    Orderly w (handleClientPlistCommand env c hdr payload w) := by
  have hversion : (w.setClient c fun cl => { cl with protoVersion := 1 }).registry = w.registry :=
    registry_setClient_same w rfl
  have hv : Steady env (w.setClient c fun cl => { cl with protoVersion := 1 }) :=
    h.after (by rw [hversion]) (ClientBlock.plistVersion c w).one.turns
  have hset : Orderly w (w.setClient c fun cl => { cl with protoVersion := 1 }) := orderly_log rfl
  have hhandled := plistHandled env c hdr payload w
  generalize handleClientPlistCommand env c hdr payload w = u at hhandled ⊢
  generalize (w.setClient c fun cl => { cl with protoVersion := 1 }) = v at hv hset hhandled
  have hpending : ∀ cmd location, Orderly v (v.emit (.pending cmd location)) := fun _ _ => orderly_emit rfl v
  have hsame : ∀ cmd location, (v.emit (.pending cmd location)).registry = v.registry := fun _ _ => registry_emit v rfl
  refine hset.trans ?_
  cases hhandled with
  | ignored => exact .refl _
  | listen => exact orderly_apart (.handleListen (C := Eq c) rfl env hdr v)
  | connect command => exact orderly_handleConnectCommand hv.tracked c hdr command
  | listDevices => exact orderly_apart (.sendDeviceList (C := Eq c) rfl env hdr.tag v)
  | readBuid => exact orderly_apart (.sendSystemBuid (C := Eq c) rfl env hdr.tag v)
  | readPairRecord command => exact orderly_apart (.handleReadPairRecordCommand (C := Eq c) rfl env hdr command v)
  | savePairRecord command => exact orderly_apart (.handleSavePairRecordCommand (C := Eq c) rfl env hdr command v)
  | deletePairRecord command => exact orderly_apart (.handleDeletePairRecordCommand (C := Eq c) rfl env hdr command v)
  | addDevice command => exact orderly_withLocation hdr command fun location => hpending _ location
  | removeDevice command => exact orderly_withLocation hdr command fun location => hpending _ location
  | deviceMonitor command =>
    refine orderly_withLocation hdr command fun location => ?_
    exact (hpending _ location).trans
      (orderly_usbProcess (hv.after (by rw [hsame]) (ClientBlock.note _ v rfl).one.turns))
  | unknown => exact orderly_sendResult ..

theorem orderly_clientCommand (h : Steady env w) (c : Ptr) (buffer : Mem) :
    Orderly w (clientCommand env c buffer w) := by
  unfold clientCommand
  dsimp only
  split
  · have hsend := orderly_sendResult env c (UsbmuxdHeader.read buffer).tag resultBadcommand w
    have hreg := registry_sendResult env c w (UsbmuxdHeader.read buffer).tag resultBadcommand
    split
    · exact hsend.trans (orderly_closeClient (hreg ▸ h.tracked.ok) c)
    · exact hsend
  · split_ifs
    · exact orderly_sendResult ..
    · exact orderly_handleClientPlistCommand h c _ _
    · exact orderly_apart (.handleListen (C := Eq c) rfl env _ w)
    · exact orderly_connectRequest h.tracked c _ _ _
    · exact orderly_sendResult ..

theorem orderly_processRecv (h : Steady env w) (c : Ptr) : Orderly w (processRecv env c w) := by
  have hnote : ClientBlock env w (w.emit (.processRecv c (w.clients c).ibBuf.isSome)) := .note _ w rfl
  have hreg : (w.emit (.processRecv c (w.clients c).ibBuf.isSome)).registry = w.registry := registry_emit w rfl
  refine processRecv_induct (Q := fun v => Orderly w v ∧ Steady env v)
    ⟨orderly_emit rfl w, h.after (by rw [hreg]) hnote.one.turns⟩ ?_ (fun v hv => hv.1)
    (fun v hv => hv.1.trans (orderly_emit rfl v)) (fun v hv => hv.1.trans (orderly_closeClient hv.2.tracked.ok c)) ?_
  · rintro v len ⟨hv, hsv⟩
    have hrecv := registry_recvCommandBytes env c v len
    exact ⟨hv.trans (orderly_apart (.recvCommandBytes (C := Eq c) rfl env len v)),
      hsv.after (by rw [hrecv]) (ClientBlock.recv c len v).one.turns⟩
  · rintro v buffer ⟨hv, hsv⟩
    refine hv.trans ?_
    have hcommand := orderly_clientCommand hsv c buffer
    unfold runCommand
    dsimp only
    split
    · exact hcommand.trans (orderly_emit rfl _)
    · exact hcommand.trans (orderly_log rfl)

theorem orderly_processSend (h : Tracked env w) (c : Ptr) : Orderly w (processSend env c w) := by
  have htock : Orderly w w.tock := orderly_log rfl
  unfold processSend
  dsimp only
  split
  · exact orderly_log rfl
  · split
    · have hok : w.tock.registry.Ok env.Reliable none := h.ok
      exact htock.trans (orderly_closeClient hok c)
    · exact (htock.trans (orderly_emit rfl _)).trans (orderly_log rfl)

end Clients

/-! ### Runs -/

section Runs

variable {env : Env} {w : World}

/-- Every operation is orderly. -/
theorem orderly_exec (h : Steady env w) (op : Op) : Orderly w (exec env w op) := by
  cases op with
  | clientAccept => exact orderly_mute (.one (e := .newClient w.fresh) rfl rfl)
  | clientReady c events =>
    simp only [exec]
    split
    · unfold clientReady
      split
      · split
        · exact orderly_deviceClientProcess h.tracked _ c events
        · split
          · exact orderly_processRecv h c
          · exact orderly_processSend h.tracked c
      · exact .refl w
    · exact .refl w
  | usb a => exact orderly_usbAction h a
  | acceptSocket u =>
    simp only [exec, deviceAcceptSocket]
    split
    · exact orderly_log rfl
    · exact .refl w
  | versionInput d vh =>
    simp only [exec]
    split
    · exact orderly_deviceVersionInput ..
    · exact .refl w
  | tcpInput d th payload =>
    simp only [exec]
    split
    · rename_i hd
      exact orderly_deviceTcpInput h.tracked hd.1 th payload
    · exact .refl w
  | transfer d t =>
    simp only [exec]
    split
    · exact orderly_drain h d ..
    · exact .refl w
  | checkTimeouts => exact orderly_deviceCheckTimeouts h.tracked
  | setVisible id =>
    simp only [exec, deviceSetVisible]
    split
    · exact orderly_log rfl
    · exact .refl w
  | announce info => exact orderly_apart (.announceDevice env info w)
  | pairingEvent info event validate => exact orderly_apart (.clientDevicePairingEvent env info event validate w)
  | preflightFinished id =>
    simp only [exec, devicePreflightFinished]
    split
    · exact orderly_log rfl
    · exact .refl w

/-- Every run is orderly from its start. -/
theorem orderly_run (env : Env) (ops : List Op) : Orderly .init (run env ops) :=
  (run_induct (P := fun w => Steady env w ∧ Orderly .init w) ⟨steady_init env, .refl _⟩
    (fun _ op h => ⟨steady_exec h.1 op, h.2.trans (orderly_exec h.1 op)⟩) ops).2

/-- In every run no segment of a connection follows an `RST` of that connection. -/
theorem lastWord_run (env : Env) (ops : List Op) (p : Ptr) : LastWord p (run env ops).log := by
  obtain ⟨es, hlog, hes⟩ := orderly_run env ops
  rw [hlog]
  exact (hes p).1

end Runs

/-! ### The resets of one segment -/

/-- A step that hands at most `n` packets with an `RST` to USB. -/
def AtMostRst (n : ℕ) (w w' : World) : Prop :=
  ∃ es, w'.log = w.log ++ es ∧ es.countP (Event.sendsRst w.versions) ≤ n

section Resets

variable {env : Env} {w w' w'' : World} {d p c : Ptr} {m n : ℕ}

theorem AtMostRst.trans (h : AtMostRst m w w') (hversions : w'.versions = w.versions) (h' : AtMostRst n w' w'') :
    AtMostRst (m + n) w w'' := by
  obtain ⟨es, hlog, hes⟩ := h
  obtain ⟨es', hlog', hes'⟩ := h'
  refine ⟨es ++ es', by rw [hlog', hlog, List.append_assoc], ?_⟩
  rw [hversions] at hes'
  rw [List.countP_append]
  exact Nat.add_le_add hes hes'

/-- Entries without an `RST`. -/
theorem atMostRst_none {es : List Event} (hlog : w'.log = w.log ++ es)
    (hnone : ∀ e ∈ es, e.sendsRst w.versions = false) : AtMostRst 0 w w' :=
  ⟨es, hlog, (List.countP_eq_zero.mpr fun e he => by simp [hnone e he]).le⟩

theorem Polite.noRst (h : Polite p w w') : AtMostRst 0 w w' := by
  obtain ⟨es, hlog, hpolite⟩ := h.log
  exact atMostRst_none hlog fun e he => Event.not_sendsRst_of_polite (hpolite e he)

/-- A teardown sends one `RST` at most, and none when the device has refused or reset the connection. -/
theorem Farewell.rst (h : Farewell env p w w') :
    AtMostRst 1 w w' ∧ ((w.conns p).state = .refused ∨ (w.conns p).state = .dying → AtMostRst 0 w w') := by
  obtain ⟨es, es', hlog, hquiet, hafter⟩ := h
  obtain ⟨rst, hlog', -, hone, -, hnone⟩ := sendTeardownRst_entries env p w
  have hback : (es ++ .freeConn p :: es').countP (Event.sendsRst w.versions) = 0 := by
    refine List.countP_eq_zero.mpr fun e he => ?_
    rw [Bool.not_eq_true]
    simp only [List.mem_append, List.mem_cons] at he
    rcases he with he | rfl | he
    · exact Event.not_sendsRst_of_quiet (hquiet e he) _
    · rfl
    · exact Event.not_sendsRst_of_quiet (hafter e he).1 _
  have hall : w'.log = w.log ++ (rst ++ (es ++ .freeConn p :: es')) := by rw [hlog, hlog']; simp
  refine ⟨⟨_, hall, by rw [List.countP_append, hback]; exact hone⟩, fun hstate => ⟨_, hall, ?_⟩⟩
  rw [hnone hstate, List.nil_append, hback]

theorem Ended.rst (h : Ended env p w w') : AtMostRst 1 w w' := by
  obtain ⟨v, hpolite, hbye⟩ := h
  have hboth := hpolite.noRst.trans hpolite.versions hbye.rst.1
  rwa [Nat.zero_add] at hboth

theorem AtMostRst.mono (h : AtMostRst m w w') (hle : m ≤ n) : AtMostRst n w w' := by
  obtain ⟨es, hlog, hes⟩ := h
  exact ⟨es, hlog, hes.trans hle⟩

theorem Answer.rst (h : Answer env p w w') : AtMostRst 1 w w' :=
  h.elim (fun hpolite => hpolite.noRst.mono (Nat.zero_le 1)) (·.rst)

theorem Touched.rst (h : Touched env p w w') : AtMostRst 1 w w' := by
  obtain ⟨u, hend, rfl⟩ := h
  obtain ⟨es, hlog, hes⟩ := hend.rst
  refine ⟨es ++ [.fault .freedConn], by rw [emit_log, hlog, List.append_assoc], ?_⟩
  simpa [List.countP_append, Event.sendsRst] using hes

/-- A segment with an `RST` tears its connection down without one. -/
theorem noRst_deviceTcpInput (ht : Tracked env w) (hd : d ∈ w.deviceList) {th : TcpHdr} (hrst : th.hasRst = true)
    (hfound : findByPorts w d th.dport th.sport = some p) (hactive : (w.devs d).state = .active)
    (payload : List UInt8) : AtMostRst 0 w (deviceTcpInput env d th payload w) := by
  obtain ⟨c, hl⟩ := ht.ok.link_of_mem hd (SlotTable.find?_mem hfound)
  have hcall : findByPorts (w.emit (.tcpInput d th payload)) d th.dport th.sport = some p := hfound
  have hcalled : ((w.emit (.tcpInput d th payload)).devs d).state = .active := hactive
  have hbefore : Polite p w (received d p th payload w) := (polite_emit rfl w).trans (polite_setConn p _ _)
  have hbound : Bound p c (received d p th payload w) := (ht.bound hl).same (received_registry d p th payload w)
  have hfold : (w.emit (.tcpInput d th payload)).setConn p (·.hear th) = received d p th payload w := rfl
  have hstate : ((received d p th payload w).conns p).state = (w.conns p).state := by rw [received_conn]; rfl
  have hsynack : th.flags ≠ thSyn ||| thAck := by
    intro hflags
    rw [TcpHdr.hasRst, hflags] at hrst
    exact absurd hrst (by decide)
  have hack : th.flags ≠ thAck := by
    intro hflags
    rw [TcpHdr.hasRst, hflags] at hrst
    exact absurd hrst (by decide)
  have hclose : ∀ s, s = .refused ∨ s = .dying →
      AtMostRst 0 w (tearDown env p ((received d p th payload w).setConn p (·.become s))) := by
    intro s hs
    have hmarked := hbefore.trans (polite_setConn p (·.become s) _)
    have hbye : Farewell env p _ (tearDown env p ((received d p th payload w).setConn p (·.become s))) :=
      farewell_tearDown (hbound.setConn rfl) (by rcases hs with rfl | rfl <;> simp)
    exact hmarked.noRst.trans hmarked.versions (hbye.rst.2 (by simpa using hs))
  unfold deviceTcpInput
  simp only [hcalled, hcall, hfold, ne_eq, not_true_eq_false, if_false]
  rcases (ht.ok.link_client hl).2.2.conn_state with hs | hs
  · replace hs : (w.conns p).state = .connecting := hs
    simp only [hstate, hs, connectingInput, hsynack, ne_eq, not_false_eq_true, if_true, hrst]
    exact hclose .refused (.inl rfl)
  · replace hs : (w.conns p).state = .connected := hs
    simp only [hstate, hs, connectedInput, hack, ne_eq, not_false_eq_true, if_true, hrst]
    exact hclose .dying (.inr rfl)

/-- A segment is answered with one `RST` at most, and with none if it carries one or its device is not active. -/
theorem atMostRst_deviceTcpInput (ht : Tracked env w) (hd : d ∈ w.deviceList) (th : TcpHdr) (payload : List UInt8) :
    AtMostRst (if th.hasRst = true ∨ (w.devs d).state ≠ .active then 0 else 1) w
      (deviceTcpInput env d th payload w) := by
  cases hfound : findByPorts w d th.dport th.sport with
  | none =>
    obtain ⟨es, hlog, hes⟩ := deviceTcpInput_vain env hfound payload
    by_cases hsilent : (w.devs d).state ≠ .active ∨ th.hasRst = true
    · rw [if_pos hsilent] at hes
      rw [if_pos hsilent.symm]
      exact atMostRst_none hlog (by simp [hes, Event.sendsRst])
    · rw [if_neg hsilent] at hes
      rw [if_neg fun h => hsilent h.symm]
      obtain ⟨packet, rfl⟩ := hes
      refine ⟨_, hlog, ?_⟩
      rw [List.countP_cons_of_neg (by simp [Event.sendsRst])]
      refine countP_cons_le ?_
      split <;> rfl
  | some p =>
    by_cases hactive : (w.devs d).state = .active
    · by_cases hrst : th.hasRst = true
      · rw [if_pos (.inl hrst)]
        exact noRst_deviceTcpInput ht hd hrst hfound hactive payload
      · obtain ⟨htouched, hanswer⟩ := deviceTcpInput_found ht hd hfound hactive payload
        rw [if_neg (not_or.mpr ⟨hrst, not_not.mpr hactive⟩)]
        by_cases hlost : inputLost env d th payload w
        · exact (htouched hlost).rst
        · exact (hanswer hlost).rst
    · have hidle : ((w.emit (.tcpInput d th payload)).devs d).state ≠ .active := hactive
      rw [if_pos (.inr hactive)]
      unfold deviceTcpInput
      simp only [if_pos hidle]
      exact atMostRst_none (show _ = w.log ++ [.tcpInput d th payload] from rfl) (by simp [Event.sendsRst])

end Resets

/-- After every run a segment from a device, with whatever flags, ports and payload, is answered with one `RST` at most,
and with none if it carries `RST` itself or the device is not active. In every run at most one `RST` is sent for a
connection by its teardown, and after it no segment. -/
theorem rst_discipline (env : Env) (ops : List Op) :
    (∀ d ∈ (run env ops).deviceList, ∀ th payload,
      AtMostRst (if th.hasRst = true ∨ ((run env ops).devs d).state ≠ .active then 0 else 1) (run env ops)
        (deviceTcpInput env d th payload (run env ops))) ∧
    ∀ p, (run env ops).log.countP (Event.resets p) ≤ 1 ∧ LastWord p (run env ops).log := by
  have ht : Tracked env (run env ops) := (steady_run env ops).tracked
  refine ⟨fun d hd th payload => atMostRst_deviceTcpInput ht hd th payload, fun p => ?_⟩
  have hlast : LastWord p (run env ops).log := lastWord_run env ops p
  exact ⟨hlast.once, hlast⟩

end Usbmuxd
