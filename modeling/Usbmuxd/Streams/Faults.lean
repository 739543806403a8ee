import Usbmuxd.Streams.Resets
import Usbmuxd.Streams.Excuses

/-!
# What goes wrong, and why

This module says of every run what can go wrong in it, and what must have happened for that.

## The model

* `Blamed` — what a client brings about by its command: one out of turn, a request for a connection while a device waits
  for its version, a `ReadPairRecord` that names no record.
* `Op.excuses` — what an operation is an excuse for.

## What is proved

* `safe_…` — steps in which nothing goes wrong.
* `excused_…` — steps in which things go wrong with an excuse only.
* `faults_of_run` — in every run every fault has its excuse, and two of the pointers are never `NULL`.

## Honest scope

A record that is freed twice is no fault here but two entries of the log; that is in `Usbmuxd.Registry.Release`. With
memory that runs out, a connection whose client cannot be told of it is used after it has been freed; `Op.excuses` does
not say which allocation it was.
-/

namespace Usbmuxd

open World

section Faults

variable {env : Env} {w w' : World} {p c d : Ptr}

/-! ### Connections -/

theorem client_eq (h : w'.registry = w.registry) (p : Ptr) : (w'.conns p).client = (w.conns p).client :=
  congrArg ConnEntry.client (congrFun (congrArg Registry.conns h) p)

theorem Attended.same (h : Attended p c w) (hf : ConnFrame w w') (hreg : w'.registry = w.registry) : Attended p c w' :=
  h.frame hf (client_eq hreg p)

theorem Attended.turns (h : Attended p c w) (ht : Turns env w w') (hclient : (w'.conns p).client = (w.conns p).client) :
    Attended p c w' := ⟨hclient.trans h.client, ht.log.mem h.born, h.armed.turns ht⟩

theorem Attended.sendTcp (h : Attended p c w) (flags : UInt8) (data : List UInt8) :
    Attended p c (sendTcp env p flags data w).1 := h.same (ConnWork.sendTcp ..).toConnFrame (registry_sendTcp ..)

theorem safe_clientSetEvents (c : Ptr) (events : Events) (w : World) :
    w.Grows Event.safe (clientSetEvents c events w) := by
  unfold clientSetEvents
  split
  · exact .none rfl
  · exact .none rfl
  · exact .refl _ w

theorem safe_updateConnection (hclient : (w.conns p).client = some c) : w.Grows Event.safe (updateConnection p w) := by
  have hset : w.Grows Event.safe (w.setConn p (·.refresh)) := .none rfl
  have hsame : ((w.setConn p (·.refresh)).conns p).client = some c := by simpa using hclient
  unfold updateConnection
  dsimp only
  rw [hsame]
  exact hset.trans (safe_clientSetEvents ..)

theorem safe_sendTcpAck (h : Attended p c w) : w.Grows Event.safe (sendTcpAck env p w).1 := by
  have hsent := safe_sendTcp env p thAck [] w
  have hafter := @Attended.sendTcp env _ _ _ h thAck []
  unfold sendTcpAck
  dsimp only
  split
  · exact hsent.trans (safe_updateConnection hafter.client)
  · exact hsent.trans (safe_tearDown hafter)

/-- A segment without data that does not go out has been refused by USB. -/
theorem sendTcp_refused {flags : UInt8} (h : (sendTcp env p flags [] w).2 = false) :
    ∃ es d packet, (sendTcp env p flags [] w).1.log = w.log ++ .usbSend d packet false :: es := by
  have hpacket : sendPacket env (w.conns p).dev .tcp ((w.conns p).tcpHeader flags).bytes [] w =
      usbSend env (w.conns p).dev ((w.devs (w.conns p).dev).packetBytes .tcp ((w.conns p).tcpHeader flags).bytes [])
        (w.setDev (w.conns p).dev (·.countPacket .tcp)) := by
    refine if_neg (not_or.mpr ⟨by decide, Nat.not_lt.mpr ?_⟩)
    have hhdr : muxHeaderSize (w.devs (w.conns p).dev).version ≤ 16 := by
      unfold muxHeaderSize sizeofMuxHeader
      split <;> omega
    simp only [MuxDevice.packetLength, length_tcpHdr_bytes, List.length_nil, usbMtu, tcphdrSize]
    omega
  have hrefused : env.usbSend w.tick = false := (sendTcp_outcome env p flags w).1.symm.trans h
  refine ⟨[.segment p ((w.conns p).tcpHeader flags) [] false], (w.conns p).dev,
    (w.devs (w.conns p).dev).packetBytes .tcp ((w.conns p).tcpHeader flags).bytes [], ?_⟩
  unfold sendTcp
  dsimp only
  rw [hpacket]
  simp [usbSend, hrefused]

/-- What a failed acknowledgement leaves in the log. -/
theorem sendTcpAck_refused (h : Attended p c w) (hfailed : (sendTcpAck env p w).2 = false) :
    ∃ e ∈ w.since (sendTcpAck env p w).1, e.excuses .freedConn = true := by
  have hsend : (sendTcp env p thAck [] w).2 = false := by
    unfold sendTcpAck at hfailed
    dsimp only at hfailed
    split at hfailed
    · cases hfailed
    · rwa [Bool.not_eq_true] at *
  obtain ⟨es, d, packet, hlog⟩ := sendTcp_refused hsend
  have hafter := @Attended.sendTcp env _ _ _ h thAck []
  obtain ⟨es', hlog', -⟩ := @safe_tearDown env _ _ _ hafter
  have hack : (sendTcpAck env p w).1 = tearDown env p (sendTcp env p thAck [] w).1 := by
    simp [sendTcpAck, hsend]
  refine ⟨.usbSend d packet false, ?_, rfl⟩
  rw [hack, @since_eq w _ (.usbSend d packet false :: es ++ es') (by rw [hlog', hlog, List.append_assoc])]
  exact List.mem_cons_self

/-! ### Traffic -/

theorem safe_processClientInput (h : Attended p c w) (events : Events) :
    w.Grows Event.safe (processClientInput env p c events w) := by
  have hup := safe_clientToDevice env p c w
  have hafter : Attended p c (clientToDevice env p c w).1 :=
    h.same (ConnWork.clientToDevice ..).toConnFrame (registry_clientToDevice ..)
  unfold processClientInput
  split
  · dsimp only
    split
    · exact hup.trans (safe_updateConnection hafter.client)
    · exact hup.trans (safe_tearDown hafter)
  · exact safe_updateConnection h.client

/-- After an acknowledgement that is not sent, the connection is used again. -/
theorem excused_deviceClientProcess (given : Fault → Prop) (h : Tracked env w) (id : ℕ) (c : Ptr) (events : Events) :
    Excused given w (deviceClientProcess env id c events w) := by
  unfold deviceClientProcess
  split
  · exact .refl _ w
  · rename_i p hfound
    obtain ⟨d, hl, -⟩ := w.registry.link_of_lookup (show w.registry.lookup id c = some p from hfound)
    split
    · have hdown := safe_deviceToClient env p c w
      have hreg := registry_deviceToClient env p c w
      have hr : Tracked env (deviceToClient env p c w).1 := h.conn hreg (ConnWork.deviceToClient ..).toConnFrame
      dsimp only
      generalize deviceToClient env p c w = r at hdown hreg hr ⊢
      rw [← hreg] at hl
      split
      · split
        · have hack := @safe_sendTcpAck env _ _ _ (hr.attended hl)
          split
          · rename_i hsent
            have hreg' := registry_sendTcpAck hsent
            have hs : Tracked env (sendTcpAck env p r.1).1 :=
              hr.same hreg' (traffic_sendTcpAck env p r.1 (hr.not_dead hl)).turns
            refine (excused_safe hdown).trans ((excused_safe hack).trans (excused_safe ?_))
            exact safe_processClientInput (hs.attended (hreg' ▸ hl)) events
          · rename_i hfailed
            refine (excused_safe hdown).trans (Excused.fault (excused_safe hack) (.inr ?_))
            exact sendTcpAck_refused (hr.attended hl) (by simpa using hfailed)
        · exact (excused_safe hdown).trans (excused_safe (safe_processClientInput (hr.attended hl) events))
      · exact (excused_safe hdown).trans (excused_safe (safe_tearDown (hr.attended hl)))
    · exact excused_safe (safe_processClientInput (h.attended hl) events)

/-- A segment that does not fit into the in-buffer ends the connection, and leaves an entry that says so. -/
theorem connectionDeviceInput_outcome (h : Attended p c w) (payload : List UInt8) :
    w.Grows Event.safe (connectionDeviceInput env p payload w).1 ∧
      if (connectionDeviceInput env p payload w).2 then Attended p c (connectionDeviceInput env p payload w).1
      else ∃ e ∈ w.since (connectionDeviceInput env p payload w).1, e.excuses .freedConn = true := by
  unfold connectionDeviceInput
  dsimp only
  split
  · have hover : Attended p c (w.emit (.overflow p payload)) := h.same (.emit rfl w) (registry_emit w rfl)
    obtain ⟨es, hlog, hes⟩ := @safe_tearDown env _ _ _ hover
    have hall : (tearDown env p (w.emit (.overflow p payload))).log = w.log ++ .overflow p payload :: es := by
      rw [hlog, emit_log, List.append_assoc, List.singleton_append]
    refine ⟨⟨_, hall, fun e he => ?_⟩, .overflow p payload, ?_, rfl⟩
    · obtain rfl | he := List.mem_cons.mp he
      · rfl
      · exact hes e he
    · rw [since_eq hall]
      exact List.mem_cons_self
  · have hset : w.Grows Event.safe ((w.emit (.accepted p payload)).setConn p (·.append payload)) := .one rfl rfl
    have hv : Attended p c ((w.emit (.accepted p payload)).setConn p (·.append payload)) :=
      h.same (.trans (.emit rfl w) (.setConn p _ _)) (by rw [registry_setConn_same _ rfl, registry_emit _ rfl])
    generalize (w.emit (.accepted p payload)).setConn p (·.append payload) = v at hset hv ⊢
    refine ⟨hset.trans (safe_updateConnection hv.client), ?_⟩
    exact hv.turns (traffic_updateConnection env p v).turns (client_eq (registry_updateConnection ..) p)

/-- After an overflow the connection is used again. -/
theorem excused_connectedInput (given : Fault → Prop) (h : Attended p c w) (th : TcpHdr) (payload : List UInt8) :
    Excused given w (connectedInput env p th payload w) := by
  unfold connectedInput
  split
  · split
    · have hdying : Attended p c (w.setConn p (·.become .dying)) :=
        ⟨by simpa using h.client, h.born, h.armed.setConn p _⟩
      exact excused_safe ((World.Grows.none rfl).trans (safe_tearDown hdying))
    · exact excused_safe (safe_tearDown h)
  · obtain ⟨hsafe, houtcome⟩ := @connectionDeviceInput_outcome env _ _ _ h payload
    dsimp only
    generalize connectionDeviceInput env p payload w = r at hsafe houtcome ⊢
    split
    · rename_i htook
      rw [if_pos htook] at houtcome
      split
      · exact (excused_safe hsafe).trans (excused_safe (safe_sendTcpAck houtcome))
      · exact excused_safe hsafe
    · rename_i hlost
      rw [if_neg hlost] at houtcome
      exact Excused.fault (excused_safe hsafe) (.inr houtcome)

theorem notify_unreliable (h : Armed w) (hlisted : c ∈ w.clientList) (hone : (w.clients c).state = .connecting1)
    {result : UInt32} (hfailed : (clientNotifyConnect env c result w).2 = false) : ¬ env.Reliable := by
  refine @Armed.notified env _ _ h hlisted hone (w.clients c).connectTag result ?_
  unfold clientNotifyConnect at hfailed
  rw [if_neg (not_not.mpr hone)] at hfailed
  dsimp only at hfailed
  split at hfailed
  · split at hfailed
    · cases hfailed
    · cases hfailed
  · rename_i hsent
    simpa using hsent

/-- A client that cannot be told of its connection loses it, and then the connection is used again. -/
theorem excused_established (given : Fault → Prop) (hmemory : ¬ env.Reliable → given .freedConn) (h : Attended p c w)
    (hlisted : c ∈ w.clientList) (hone : (w.clients c).state = .connecting1) :
    Excused given w (if (clientNotifyConnect env c resultOk w).2 then
        updateConnection p (clientNotifyConnect env c resultOk w).1
      else (tearDown env p ((clientNotifyConnect env c resultOk w).1.setConn p (·.orphan))).emit
        (.fault .freedConn)) := by
  have hnotify := @safe_clientNotifyConnect env _ _ h.armed h.born resultOk
  have hturns := (traffic_clientNotifyConnect env c w resultOk).turns
  have hconn : (clientNotifyConnect env c resultOk w).1.conns p = w.conns p :=
    (Confined.clientNotifyConnect (P := fun _ => False) (C := Eq c) rfl env resultOk w).conns p id
  have hs := h.turns hturns (by rw [hconn])
  split
  · exact excused_safe (hnotify.trans (safe_updateConnection hs.client))
  · rename_i hfailed
    have horphan : (((clientNotifyConnect env c resultOk w).1.setConn p (·.orphan)).conns p).client = none := by simp
    have hset : w.Grows Event.safe ((clientNotifyConnect env c resultOk w).1.setConn p (·.orphan)) :=
      hnotify.trans (.none rfl)
    have hgone := hset.trans (@safe_tearDown_orphan env _ _ (hs.armed.setConn p _) horphan)
    refine Excused.fault (excused_safe hgone) (.inl (hmemory ?_))
    exact notify_unreliable h.armed hlisted hone (by simpa using hfailed)

/-- The answer to a segment while the connection is being made. -/
theorem excused_connectingInput (given : Fault → Prop) (hmemory : ¬ env.Reliable → given .freedConn) (h : Tracked env w)
    (hl : w.registry.Link d p c) (hstate : (w.conns p).state = .connecting) (th : TcpHdr) :
    Excused given w (connectingInput env p th w) := by
  have hp := h.attended hl
  unfold connectingInput
  split
  · split
    · have hrefused : Attended p c (w.setConn p (·.become .refused)) :=
        ⟨by simpa using hp.client, hp.born, hp.armed.setConn p _⟩
      exact excused_safe ((World.Grows.none rfl).trans (safe_tearDown hrefused))
    · exact excused_safe (safe_tearDown hp)
  · have hset : w.Grows Event.safe ((w.emit (.synAck p)).setConn p (·.handshake)) := .one rfl rfl
    have hv : Attended p c ((w.emit (.synAck p)).setConn p (·.handshake)) :=
      hp.same (.answered p w) (by rw [registry_setConn_same _ rfl, registry_emit _ rfl])
    have hone : (((w.emit (.synAck p)).setConn p (·.handshake)).clients c).state = .connecting1 :=
      (h.ok.link_client hl).2.2.connecting_iff.mp hstate
    have hlisted : c ∈ ((w.emit (.synAck p)).setConn p (·.handshake)).clientList := (h.ok.link_client hl).1
    dsimp only
    generalize (w.emit (.synAck p)).setConn p (·.handshake) = v at hset hv hone hlisted ⊢
    have hsent := safe_sendTcp env p thAck [] v
    have hr := @Attended.sendTcp env _ _ _ hv thAck []
    have hwork := ConnWork.sendTcp env p v thAck []
    have hclients := hwork.clients
    have hlist := hwork.clientList
    generalize sendTcp env p thAck [] v = r at hsent hr hclients hlist ⊢
    split
    · have hu : Attended p c (r.1.setConn p (·.become .connected)) :=
        ⟨by simpa using hr.client, hr.born, hr.armed.setConn p _⟩
      have hbefore : w.Grows Event.safe (r.1.setConn p (·.become .connected)) := hset.trans (hsent.trans (.none rfl))
      have hlisted' : c ∈ (r.1.setConn p (·.become .connected)).clientList := by simpa [hlist] using hlisted
      have hone' : ((r.1.setConn p (·.become .connected)).clients c).state = .connecting1 := by
        simpa [hclients] using hone
      generalize r.1.setConn p (·.become .connected) = u at hu hbefore hlisted' hone' ⊢
      simp only [hu.client]
      exact (excused_safe hbefore).trans (excused_established given hmemory hu hlisted' hone')
    · exact excused_safe (hset.trans (hsent.trans (safe_tearDown hr)))

/-- A segment from a device. -/
theorem excused_deviceTcpInput (given : Fault → Prop) (hmemory : ¬ env.Reliable → given .freedConn) (h : Tracked env w)
    (hd : d ∈ w.deviceList) (th : TcpHdr) (payload : List UInt8) :
    Excused given w (deviceTcpInput env d th payload w) := by
  cases hfound : findByPorts w d th.dport th.sport with
  | none =>
    obtain ⟨es, hlog, hes⟩ := deviceTcpInput_vain env hfound payload
    refine ⟨⟨_, hlog, fun _ _ => rfl⟩, fun f hf => ?_⟩
    rw [since_eq hlog] at hf ⊢
    split at hes
    · subst hes
      simp at hf
    · obtain ⟨packet, rfl⟩ := hes
      cases hok : env.usbSend w.tick with
      | true => simp [hok] at hf
      | false =>
        obtain rfl : f = .nullConn := by simpa [hok] using hf
        exact .inr ⟨.usbSend d packet false, by simp, rfl⟩
  | some p =>
    obtain ⟨c, hl⟩ := h.ok.link_of_mem hd (SlotTable.find?_mem hfound)
    have hcall : findByPorts (w.emit (.tcpInput d th payload)) d th.dport th.sport = some p := hfound
    have hset : w.Grows Event.safe ((w.emit (.tcpInput d th payload)).setConn p (·.hear th)) := .one rfl rfl
    have hreg : ((w.emit (.tcpInput d th payload)).setConn p (·.hear th)).registry = w.registry := by
      rw [registry_setConn_same _ rfl, registry_emit _ rfl]
    have hv : Tracked env ((w.emit (.tcpInput d th payload)).setConn p (·.hear th)) :=
      ⟨hreg ▸ h.ok, (h.armed.emit (by simp)).setConn p _⟩
    unfold deviceTcpInput
    simp only [hcall]
    generalize (w.emit (.tcpInput d th payload)).setConn p (·.hear th) = v at hset hreg hv ⊢
    split
    · exact excused_safe (.one rfl rfl)
    · rw [← hreg] at hl
      refine (excused_safe hset).trans ?_
      split
      · rename_i hconnecting
        exact excused_connectingInput given hmemory hv hl hconnecting th
      · exact excused_connectedInput given (hv.attended hl) th payload
      · exact .refl _ v

/-- Acknowledgements that are overdue. -/
theorem safe_deviceCheckTimeouts (h : Tracked env w) : w.Grows Event.safe (deviceCheckTimeouts env w) := by
  have htock : w.Grows Event.safe w.tock := .none rfl
  refine (SlotTable.forEach_induct (P := fun v => w.Grows Event.safe v ∧ Tracked env v) ?_ _ _ _
    ⟨htock, ⟨h.ok, h.armed.tock⟩⟩).1
  intro d v hd hv
  split
  · refine (SlotTable.forEach_induct (P := fun u => (w.Grows Event.safe u ∧ Tracked env u) ∧ d ∈ u.deviceList) ?_ _ _ _
      ⟨hv, hd⟩).1
    rintro p u hp ⟨⟨hu, htu⟩, hdu⟩
    split
    · obtain ⟨c, hl⟩ := htu.ok.link_of_mem hdu hp
      have hsteps : Registry.Steps env.Reliable none u.registry (sendTcpAck env p u).1.registry :=
        steps_sendTcpAck htu hl
      have htraffic := traffic_sendTcpAck env p u (htu.not_dead hl)
      refine ⟨⟨hu.trans (safe_sendTcpAck (htu.attended hl)), htu.after hsteps htraffic.turns⟩, ?_⟩
      rw [htraffic.devices.deviceList]
      exact hdu
    · exact ⟨⟨hu, htu⟩, hdu⟩
  · exact hv

/-- The loop of `device_remove`. -/
theorem safe_tearDownAll (h : Tracked env w) (hd : d ∈ w.deviceList) : w.Grows Event.safe (tearDownAll env d w) := by
  refine (SlotTable.forEach_induct (P := fun v => w.Grows Event.safe v ∧ Tracked env v ∧ d ∈ v.deviceList) ?_ _ _ _
    ⟨.refl _ w, h, hd⟩).1
  rintro p v hp ⟨hv, htv, hdv⟩
  obtain ⟨c, hl⟩ := htv.ok.link_of_mem hdv hp
  have hsteps : Registry.Steps env.Reliable none v.registry (tearDown env p v).registry := steps_tearDown htv hl
  refine ⟨hv.trans (safe_tearDown (htv.attended hl)), htv.after hsteps (traffic_tearDown env p v).turns, ?_⟩
  show d ∈ (tearDown env p v).registry.deviceList
  rw [(unlinked_tearDown htv hl).deviceList]
  exact hdv

/-! ### Devices -/

theorem safe_deviceVersionInput (env : Env) (d : Ptr) (vh : VersionHeader) (w : World) :
    w.Grows Event.safe (deviceVersionInput env d vh w) := by
  have hcall : w.Grows Event.safe (w.emit (.versionInput d vh)) := .one rfl rfl
  unfold deviceVersionInput
  dsimp only
  split
  · exact hcall
  · split
    · exact hcall.trans (.one (e := .freeDev d) rfl rfl)
    · have hversion : w.Grows Event.safe ((w.emit (.versionInput d vh)).setDev d fun dev =>
          { dev with version := vh.major.toNat }) := hcall.trans (.none rfl)
      generalize (w.emit (.versionInput d vh)).setDev d (fun dev => { dev with version := vh.major.toNat }) = v
        at hversion ⊢
      have hsetup : w.Grows Event.safe (if 2 ≤ vh.major then (sendPacket env d .setup [] [0x07] v).1 else v) := by
        split
        · exact hversion.trans (safe_sendPacket ..)
        · exact hversion
      generalize (if 2 ≤ vh.major then _ else _ : World) = u at hsetup ⊢
      exact hsetup.trans (.one (e := .preflight _) rfl rfl)

/-- An entry that is not the end of a device. -/
def Event.sparesDevices : Event → Bool
  | .freeDev _ => false
  | _ => true

/-- A device that is freed has sent a version that is not known. -/
def Rejected (w w' : World) : Prop :=
  ∀ d, .freeDev d ∈ w.since w' → ∃ e ∈ w.since w', e.excuses .freedDev = true

theorem rejected_none (h : w.Grows Event.sparesDevices w') : Rejected w w' := by
  obtain ⟨es, hlog, hspares⟩ := h
  intro d hd
  rw [since_eq hlog] at hd
  cases hspares _ hd

theorem traffic_sparesDevices (h : Traffic env w w') : w.Grows Event.sparesDevices w' := by
  refine h.devices.log.mono fun e he => ?_
  cases e <;> simp_all [Event.ofDevice, Event.sparesDevices]

theorem rejected_deviceVersionInput (env : Env) (d : Ptr) (vh : VersionHeader) (w : World) :
    Rejected w (deviceVersionInput env d vh w) := by
  have hcall : w.Grows Event.sparesDevices (w.emit (.versionInput d vh)) := .one rfl rfl
  unfold deviceVersionInput
  dsimp only
  split
  · exact rejected_none hcall
  · split
    · rename_i hmajor
      have hlog : (releaseDev d (w.emit (.versionInput d vh))).log = w.log ++ [.versionInput d vh, .freeDev d] := by
        simp [releaseDev]
      intro _ _
      rw [since_eq hlog]
      exact ⟨.versionInput d vh, List.mem_cons_self, by simp [Event.excuses, hmajor]⟩
    · refine rejected_none ?_
      have hversion : w.Grows Event.sparesDevices ((w.emit (.versionInput d vh)).setDev d fun dev =>
          { dev with version := vh.major.toNat }) := hcall.trans (.none rfl)
      generalize (w.emit (.versionInput d vh)).setDev d (fun dev => { dev with version := vh.major.toNat }) = v
        at hversion ⊢
      have hsetup : w.Grows Event.sparesDevices
          (if 2 ≤ vh.major then (sendPacket env d .setup [] [0x07] v).1 else v) := by
        split
        · refine hversion.trans ((ConnWork.sendPacket env v d .setup [] [0x07]).log.mono fun e he => ?_)
          cases e <;> simp_all [Event.ofConn, Event.sparesDevices]
        · exact hversion
      generalize (if 2 ≤ vh.major then _ else _ : World) = u at hsetup ⊢
      exact hsetup.trans (.one (e := .preflight _) rfl rfl)

/-- What a handler that is called with a packet may do. -/
theorem excused_dispatch (given : Fault → Prop) (hmemory : ¬ env.Reliable → given .freedConn) (h : Tracked env w)
    (hd : d ∈ w.deviceList) {call : Dispatch} (hfits : call.fits) :
    Excused given w (dispatch env d call w) ∧ Rejected w (dispatch env d call w) := by
  cases call with
  | version vh => exact ⟨excused_safe (safe_deviceVersionInput env d vh w), rejected_deviceVersionInput env d vh w⟩
  | control payload => exact ⟨excused_safe (safe_emit rfl w), rejected_none (.one rfl rfl)⟩
  | tcp th payload =>
    refine ⟨excused_deviceTcpInput given hmemory h hd th payload, rejected_none ?_⟩
    have hcall : w.Grows Event.sparesDevices (w.emit (.tcpInput d th payload)) := .one rfl rfl
    exact hcall.trans (traffic_sparesDevices (traffic_deviceTcpInput env w d th hfits))

theorem since_log {v : World} (h : v.log = w.log) : v.since w' = w.since w' := by rw [World.since, World.since, h]

theorem excused_deviceDataInput (given : Fault → Prop) (hmemory : ¬ env.Reliable → given .freedConn) (h : Steady env w)
    (u : UsbDevice) (buffer : Mem) (length : UInt32) :
    Excused given w (deviceDataInput env u buffer length w).1 ∧
      Rejected w (deviceDataInput env u buffer length w).1 := by
  unfold deviceDataInput
  split
  · exact ⟨.refl _ w, rejected_none (.refl _ w)⟩
  · rename_i d hfound
    have hd : d ∈ w.deviceList := SlotTable.find?_mem hfound
    have hreg : (w.setDev d (·.setFraming (decode (w.devs d).framing buffer length).framing)).registry = w.registry :=
      registry_setDev_same _ rfl
    have hv : Tracked env (w.setDev d (·.setFraming (decode (w.devs d).framing buffer length).framing)) :=
      h.tracked.same hreg (DeviceBlock.framing d _ w).one.turns
    have hlog : (w.setDev d (·.setFraming (decode (w.devs d).framing buffer length).framing)).log = w.log := rfl
    dsimp only
    split
    · exact ⟨excused_safe (.none hlog), rejected_none (.none hlog)⟩
    · rename_i call hcall
      obtain ⟨hexcused, hrejected⟩ := @excused_dispatch env _ _ given hmemory hv hd _ (decode_fits _ _ _ hcall)
      rw [Rejected, since_log hlog] at hrejected
      exact ⟨(excused_safe (.none hlog)).trans hexcused, hrejected⟩

theorem excused_drain (given : Fault → Prop) (hmemory : ¬ env.Reliable → given .freedConn) (h : Steady env w)
    (hlive : .freeDev d ∉ w.log) (u : UsbDevice) (n : ℕ) (buffer : Mem) (size : UInt32) :
    Excused given w (drain env d u n buffer size w) := by
  induction n generalizing buffer size w with
  | zero => exact excused_safe (safe_emit rfl w)
  | succ n ih =>
    unfold drain
    split
    · exact .refl _ w
    · obtain ⟨hinput, hrejected⟩ := excused_deviceDataInput given hmemory h u buffer size
      have hsteady := h.deviceDataInput u buffer size
      dsimp only
      generalize deviceDataInput env u buffer size w = r at hinput hrejected hsteady ⊢
      split
      · rename_i hfreed
        refine hinput.fault (.inr (hrejected d ?_))
        rw [World.devFreed_iff] at hfreed
        obtain ⟨es, hlog, -⟩ := hinput.1
        rw [since_eq hlog]
        rw [hlog] at hfreed
        exact (List.mem_append.mp hfreed).resolve_left hlive
      · rename_i hlive'
        split
        · exact hinput
        · exact hinput.trans (ih hsteady (by rwa [World.devFreed_iff] at hlive') _ _)

theorem safe_deviceAdd (env : Env) (u : UsbDevice) (w : World) : w.Grows Event.safe (deviceAdd env u w) := by
  have halloc : w.Grows Event.safe (allocDev u (getNextDeviceId w) w) := .none rfl
  have hsent := halloc.trans
    (safe_sendPacket env w.fresh .version (VersionHeader.bytes ⟨1, 0, 0⟩) [] (allocDev u (getNextDeviceId w) w))
  unfold deviceAdd
  dsimp only
  split
  · exact hsent.trans (.none rfl)
  · exact hsent.trans (.one rfl rfl)

theorem safe_deviceRemove (h : Steady env w) (u : UsbDevice) : w.Grows Event.safe (deviceRemove env u w) := by
  unfold deviceRemove
  split
  · exact .refl _ w
  · rename_i d hfound
    have hd : d ∈ w.deviceList := SlotTable.find?_mem hfound
    refine World.Grows.trans ?_ (.one (e := .freeDev d) rfl rfl)
    split
    · rename_i hactive
      have htv := h.tracked.after (steps_dying h.tracked hd hactive) (DeviceBlock.dead d w).one.turns
      have hdv : d ∈ (w.setDev d fun dev => { dev with state := .dead }).deviceList := hd
      have hdying : w.Grows Event.safe (w.setDev d fun dev => { dev with state := .dead }) := .none rfl
      unfold disconnectDevice
      dsimp only
      generalize (w.setDev d fun dev => { dev with state := .dead }) = v at htv hdv hdying ⊢
      have hall := hdying.trans (safe_tearDownAll htv hdv)
      have harmed : Armed (tearDownAll env d v) := htv.armed.turns (traffic_tearDownAll env d v).turns
      generalize tearDownAll env d v = t at hall harmed ⊢
      split
      · exact (hall.trans (safe_clientDeviceRemove harmed _)).trans (.none rfl)
      · exact (hall.trans (safe_clientDevicePairingEvent harmed _ _ _)).trans (.none rfl)
    · exact .refl _ w

theorem safe_usbAction (h : Steady env w) (a : UsbAction) : w.Grows Event.safe (usbAction env a w) := by
  cases a with
  | deviceAdd u => exact safe_deviceAdd env u w
  | deviceRemove u => exact safe_deviceRemove h u
  | deviceAddFailed u => exact safe_clientDevicePairingEvent h.tracked.armed _ _ _
  | errorAlreadyExists info => exact safe_clientDevicePairingEvent h.tracked.armed _ _ _

theorem safe_usbProcess (h : Steady env w) : w.Grows Event.safe (usbProcess env w) := by
  have htock : w.Grows Event.safe w.tock := .none rfl
  have hstock : Steady env w.tock := ⟨⟨h.tracked.ok, h.tracked.armed.tock⟩, h.settled⟩
  unfold usbProcess
  generalize w.tock = v at htock hstock ⊢
  induction env.usbProcess w.tick generalizing v with
  | nil => exact htock
  | cons a rest ih =>
    exact ih _ (htock.trans (safe_usbAction hstock a))
      (hstock.after (phases_usbAction hstock a) (work_usbAction env v a).turns)

/-! ### Commands -/

/-- A client that can be answered. -/
structure Answerable (c : Ptr) (w : World) : Prop where
  armed : Armed w
  born : .newClient c ∈ w.log
  state : (w.clients c).state ≠ .connected ∧ (w.clients c).state ≠ .dead

theorem Answerable.buffered (h : Answerable c w) : (w.clients c).obBuf ≠ none :=
  h.armed.buffered h.born h.state.1 h.state.2

theorem Answerable.same (h : Answerable c w) (hreg : w'.registry = w.registry) (ht : Turns env w w') :
    Answerable c w' :=
  ⟨h.armed.turns ht, ht.log.mem h.born, by rw [state_eq hreg]; exact h.state⟩

/-- The clients that are on the list can be answered, but for those that are connected. -/
theorem Tracked.answerable (h : Tracked env w) (hc : c ∈ w.clientList) (hother : (w.clients c).state ≠ .connected) :
    Answerable c w := ⟨h.armed, h.armed.known c hc, hother, (h.ok.entries c hc).alive⟩

theorem Answerable.result (h : Answerable c w) (env : Env) (tag result : UInt32) :
    w.Grows Event.safe (sendResult env c tag result w).1 ∧ Answerable c (sendResult env c tag result w).1 :=
  ⟨safe_sendResult h.buffered tag result,
    h.same (registry_sendResult ..) (traffic_sendResult env c w tag result h.state.1).turns⟩

theorem safe_notifyAll (h : Answerable c w) (infos : List DeviceInfo) :
    w.Grows Event.safe (notifyAll env c infos w) := by
  induction infos generalizing w with
  | nil => exact .refl _ w
  | cons info rest ih =>
    have hone := @safe_notifyDeviceAdd env w c h.buffered info
    unfold notifyAll
    dsimp only
    split
    · have hturns := (traffic_notifyDeviceAdd env c w info h.state.1).turns
      exact hone.trans (ih (h.same (registry_notifyDeviceAdd ..) hturns))
    · exact hone

theorem safe_handleListen (h : Answerable c w) (hdr : UsbmuxdHeader) :
    w.Grows Event.safe (handleListen env c hdr w) := by
  obtain ⟨hsafe, hr⟩ := h.result env hdr.tag resultOk
  unfold handleListen startListen
  dsimp only
  generalize sendResult env c hdr.tag resultOk w = r at hsafe hr ⊢
  split
  · have hset : r.1.Grows Event.safe (r.1.setClient c fun cl => { cl with state := .listen }) := .none rfl
    have hlisten : Answerable c (r.1.setClient c fun cl => { cl with state := .listen }) :=
      ⟨hr.armed.setClient fun _ hnone => absurd hnone hr.buffered, hr.born, by simp⟩
    exact (hsafe.trans hset).trans (safe_notifyAll hlisten _)
  · exact hsafe

/-- A request for a connection follows the list of the connections of a device, which may not be there. -/
theorem excused_connectRequest {given : Fault → Prop} (h : Answerable c w)
    (hstarting : (∃ d ∈ w.deviceList, (w.devs d).connections = none) → given .uninitConnections) (hdr : UsbmuxdHeader)
    (id : ℕ) (port : UInt16) : Excused given w (connectRequest env c hdr id port w) := by
  have hclients := deviceStartConnect_clients env c w id port
  have hafter : Answerable c (deviceStartConnect env id port c w).1 := by
    have htraffic := traffic_deviceStartConnect env c w id port
    exact ⟨h.armed.turns htraffic.turns, htraffic.turns.log.mem h.born, by rw [hclients]; exact h.state⟩
  have hsyn : ∀ d sport v next, v = w.setDev d (fun dev => { dev with nextSport := next }) →
      w.Grows Event.safe (sendTcp env v.fresh thSyn [] (allocConn (.start d c sport port) v)).1 := by
    rintro d sport v next rfl
    exact World.Grows.trans (.one (e := .start w.fresh) rfl rfl) (safe_sendTcp ..)
  have hstart : Excused given w (deviceStartConnect env id port c w).1 := by
    have hstarted := connectStarted env id port c w
    generalize deviceStartConnect env id port c w = r at hstarted ⊢
    cases hstarted with
    | noDevice => exact .refl _ w
    | uninitialised d hd hconns =>
      exact Excused.fault (.refl _ w) (.inl (hstarting ⟨d, SlotTable.find?_mem hd, hconns⟩))
    | cutShort => exact excused_safe (safe_emit rfl w)
    | noPort d next => exact excused_safe (.none rfl)
    | refused d sport next v _ _ _ _ hv => exact excused_safe ((hsyn d sport v next hv).trans (safe_emit rfl _))
    | started d sport next v _ _ _ _ hv => exact excused_safe ((hsyn d sport v next hv).trans (.none rfl))
  unfold connectRequest
  dsimp only
  split
  · exact hstart.trans (excused_safe (hafter.result env _ _).1)
  · exact hstart.trans (excused_safe (.none rfl))

theorem excused_handleConnectCommand {given : Fault → Prop} (h : Answerable c w)
    (hstarting : (∃ d ∈ w.deviceList, (w.devs d).connections = none) → given .uninitConnections) (hdr : UsbmuxdHeader)
    (command : Plist) : Excused given w (handleConnectCommand env c hdr command w) := by
  have hresult : ∀ result, Excused given w (sendResult env c hdr.tag result w).1 := fun result =>
    excused_safe (h.result env hdr.tag result).1
  unfold handleConnectCommand
  split
  · exact hresult _
  · dsimp only
    split
    · exact hresult _
    · exact excused_connectRequest h hstarting hdr _ _

theorem safe_sendDeviceList (h : Answerable c w) (tag : UInt32) : w.Grows Event.safe (sendDeviceList env c tag w) := by
  have htock : w.Grows Event.safe w.tock := .none rfl
  have hbuf : (w.tock.clients c).obBuf ≠ none := h.buffered
  exact htock.trans (safe_sendPlistPkt hbuf ..)

theorem safe_sendSystemBuid (h : Answerable c w) (tag : UInt32) : w.Grows Event.safe (sendSystemBuid env c tag w) := by
  have htock : w.Grows Event.safe w.tock := .none rfl
  have hbuf : (w.tock.clients c).obBuf ≠ none := h.buffered
  exact htock.trans (safe_sendPlistPkt hbuf ..)

theorem safe_sendPairRecord (h : Answerable c w) (tag : UInt32) (id : Option (List UInt8)) :
    w.Grows Event.safe (sendPairRecord env c tag id w) := by
  have htock : w.Grows Event.safe w.tock := .none rfl
  have hbuf : (w.tock.clients c).obBuf ≠ none := h.buffered
  unfold sendPairRecord
  split
  · exact safe_sendResult h.buffered ..
  · split
    · exact htock.trans (safe_sendResult hbuf ..)
    · split
      · exact htock.trans (safe_sendResult hbuf ..)
      · exact htock.trans (safe_sendPlistPkt hbuf ..)

theorem safe_handleSavePairRecordCommand (h : Answerable c w) (hdr : UsbmuxdHeader) (command : Plist) :
    w.Grows Event.safe (handleSavePairRecordCommand env c hdr command w) := by
  have htock : w.Grows Event.safe w.tock := .none rfl
  have hbuf : (w.tock.clients c).obBuf ≠ none := h.buffered
  unfold handleSavePairRecordCommand
  split
  · split
    · exact htock.trans (safe_sendResult hbuf ..)
    · exact safe_sendResult h.buffered ..
  · exact safe_sendResult h.buffered ..

theorem safe_handleDeletePairRecordCommand (h : Answerable c w) (hdr : UsbmuxdHeader) (command : Plist) :
    w.Grows Event.safe (handleDeletePairRecordCommand env c hdr command w) := by
  have htock : w.Grows Event.safe w.tock := .none rfl
  have hbuf : (w.tock.clients c).obBuf ≠ none := h.buffered
  unfold handleDeletePairRecordCommand
  split
  · exact htock.trans (safe_sendResult hbuf ..)
  · exact safe_sendResult h.buffered ..

theorem safe_withLocation {act : UInt32 → World → World} (h : Answerable c w) (hdr : UsbmuxdHeader) (command : Plist)
    (hact : ∀ location, w.Grows Event.safe (act location w) ∧ Answerable c (act location w)) :
    w.Grows Event.safe (withLocation env c hdr command act w) := by
  unfold withLocation
  split
  · exact safe_sendResult h.buffered ..
  · obtain ⟨hsafe, hafter⟩ := hact (deviceLocation command)
    exact hsafe.trans (safe_sendResult hafter.buffered ..)

/-- The command of a client is a `ReadPairRecord` that names no record. -/
def MuxClient.NamesNoRecord (env : Env) (client : MuxClient) : Prop :=
  ∃ buffer command, client.ibBuf = some buffer ∧
    env.plistFromXml (buffer.slice 16 ((UsbmuxdHeader.read buffer).length - usbmuxdHeaderSize).toNat) = some command ∧
    command.getStringVal "MessageType" = some (cstr "ReadPairRecord") ∧ command.getStringVal "PairRecordID" = none

theorem excused_handleClientPlistCommand {given : Fault → Prop} (h : Steady env w) (hc : c ∈ w.clientList)
    (hstate : (w.clients c).state = .command)
    (hstarting : (∃ d ∈ w.deviceList, (w.devs d).connections = none) → given .uninitConnections) (hdr : UsbmuxdHeader)
    (payload : List UInt8)
    (hnameless : ∀ command, env.plistFromXml payload = some command →
      command.getStringVal "MessageType" = some (cstr "ReadPairRecord") → command.getStringVal "PairRecordID" = none →
      given .nullString) :
    Excused given w (handleClientPlistCommand env c hdr payload w) := by
  have hset : w.Grows Event.safe (w.setClient c fun cl => { cl with protoVersion := 1 }) := .none rfl
  have hreg : (w.setClient c fun cl => { cl with protoVersion := 1 }).registry = w.registry :=
    registry_setClient_same w rfl
  have hv : Steady env (w.setClient c fun cl => { cl with protoVersion := 1 }) :=
    h.after (by rw [hreg]) (ClientBlock.plistVersion c w).one.turns
  have hcommand : ((w.setClient c fun cl => { cl with protoVersion := 1 }).clients c).state = .command := by
    rwa [state_eq hreg]
  have hanswer : Answerable c (w.setClient c fun cl => { cl with protoVersion := 1 }) :=
    hv.tracked.answerable hc (ne_of_eq_of_ne hcommand (by decide))
  have hstarting' : (∃ d ∈ (w.setClient c fun cl => { cl with protoVersion := 1 }).deviceList,
      ((w.setClient c fun cl => { cl with protoVersion := 1 }).devs d).connections = none) → given .uninitConnections :=
    hstarting
  unfold handleClientPlistCommand
  dsimp only
  refine (excused_safe hset).trans ?_
  generalize (w.setClient c fun cl => { cl with protoVersion := 1 }) = v at hv hcommand hanswer hstarting' ⊢
  have hpending : ∀ cmd location, v.Grows Event.safe (v.emit (.pending cmd location)) ∧
      Answerable c (v.emit (.pending cmd location)) := by
    intro cmd location
    have hnote : ClientBlock env v (v.emit (.pending cmd location)) := .note _ v rfl
    exact ⟨.one rfl rfl, hanswer.same (registry_emit v rfl) hnote.one.turns⟩
  have hmonitor : ∀ cmd location, v.Grows Event.safe (usbProcess env (v.emit (.pending cmd location))) ∧
      Answerable c (usbProcess env (v.emit (.pending cmd location))) := by
    intro cmd location
    obtain ⟨hsafe, hnoted⟩ := hpending cmd location
    have hwork := work_usbProcess env (v.emit (.pending cmd location))
    have hnote : ClientBlock env v (v.emit (.pending cmd location)) := .note _ v rfl
    have hkept := hwork.keeps_command (show ((v.emit (.pending cmd location)).clients c).state = .command from hcommand)
    refine ⟨hsafe.trans (safe_usbProcess (hv.after (by rw [registry_emit v rfl]) hnote.one.turns)), ?_⟩
    exact ⟨hnoted.armed.turns hwork.turns, hwork.log.mem hnoted.born, by rw [hkept]; decide⟩
  split
  · exact .refl _ v
  · rename_i command hparsed
    split
    · exact .refl _ v
    · rename_i message hmessage
      refine iteInduction (fun _ => excused_safe (safe_handleListen hanswer hdr)) fun _ => ?_
      refine iteInduction (fun _ => excused_handleConnectCommand hanswer hstarting' hdr command) fun _ => ?_
      refine iteInduction (fun _ => excused_safe (safe_sendDeviceList hanswer hdr.tag)) fun _ => ?_
      refine iteInduction (fun _ => excused_safe (safe_sendSystemBuid hanswer hdr.tag)) fun _ => ?_
      refine iteInduction (fun hread => ?_) fun _ => ?_
      · unfold handleReadPairRecordCommand
        split
        · rename_i hid
          exact Excused.fault (.refl _ v) (.inl (hnameless command hparsed (hread ▸ hmessage) hid))
        · exact excused_safe (safe_sendPairRecord hanswer ..)
      refine iteInduction (fun _ => excused_safe (safe_handleSavePairRecordCommand hanswer hdr command)) fun _ => ?_
      refine iteInduction (fun _ => excused_safe (safe_handleDeletePairRecordCommand hanswer hdr command)) fun _ => ?_
      refine iteInduction (fun _ => excused_safe (safe_withLocation hanswer hdr command (hpending _))) fun _ => ?_
      refine iteInduction (fun _ => excused_safe (safe_withLocation hanswer hdr command (hpending _))) fun _ => ?_
      refine iteInduction (fun _ => excused_safe (safe_withLocation hanswer hdr command (hmonitor _))) fun _ => ?_
      exact excused_safe (safe_sendResult hanswer.buffered ..)

/-- A command that names no record is left in the command buffer. -/
theorem namesNoRecord_runCommand {buffer : Mem} {command : Plist} (hstate : (w.clients c).state = .command)
    (hbuffer : (w.clients c).ibBuf = some buffer)
    (hversion : ¬ ((UsbmuxdHeader.read buffer).version ≠ 0 ∧ (UsbmuxdHeader.read buffer).version ≠ 1))
    (hmessage : (UsbmuxdHeader.read buffer).message = MsgType.plist.code)
    (hparsed : env.plistFromXml (buffer.slice 16 ((UsbmuxdHeader.read buffer).length - usbmuxdHeaderSize).toNat) =
      some command)
    (hread : command.getStringVal "MessageType" = some (cstr "ReadPairRecord"))
    (hid : command.getStringVal "PairRecordID" = none) :
    ((runCommand env c buffer w).clients c).NamesNoRecord env := by
  have hcommand : clientCommand env c buffer w =
      (w.setClient c fun cl => { cl with protoVersion := 1 }).emit (.fault .nullString) := by
    unfold clientCommand handleClientPlistCommand
    simp only [if_neg (not_not.mpr hstate), if_neg hversion, if_pos hmessage, hparsed, hread]
    rw [if_neg (by decide +kernel), if_neg (by decide +kernel), if_neg (by decide +kernel), if_neg (by decide +kernel),
      if_pos trivial, handleReadPairRecordCommand, hid]
  refine ⟨buffer, command, ?_, hparsed, hread, hid⟩
  unfold runCommand
  rw [hcommand]
  dsimp only
  split
  · simpa using hbuffer
  · simpa using hbuffer

theorem excused_clientCommand {given : Fault → Prop} (h : Steady env w) (hc : c ∈ w.clientList)
    (hidle : (w.clients c).state ≠ .connecting2 ∧ (w.clients c).state ≠ .connected) {buffer : Mem}
    (hbuffer : (w.clients c).ibBuf = some buffer)
    (hstarting : (w.clients c).state = .command → (∃ d ∈ w.deviceList, (w.devs d).connections = none) →
      given .uninitConnections)
    (hnameless : (w.clients c).state = .command → ((runCommand env c buffer w).clients c).NamesNoRecord env →
      given .nullString) :
    Excused given w (clientCommand env c buffer w) := by
  have hanswer := h.tracked.answerable hc hidle.2
  unfold clientCommand
  dsimp only
  split
  · obtain ⟨hsafe, hr⟩ := hanswer.result env (UsbmuxdHeader.read buffer).tag resultBadcommand
    split
    · exact excused_safe (hsafe.trans (safe_closeClient hr.armed hr.born))
    · exact excused_safe hsafe
  · rename_i hcommand
    replace hcommand : (w.clients c).state = .command := not_not.mp hcommand
    split
    · exact excused_safe (hanswer.result env _ _).1
    · rename_i hversion
      split
      · rename_i hmessage
        refine excused_handleClientPlistCommand h hc hcommand (hstarting hcommand) _ _ ?_
        intro command hparsed hread hid
        exact hnameless hcommand (namesNoRecord_runCommand hcommand hbuffer hversion hmessage hparsed hread hid)
      · split_ifs
        · exact excused_safe (safe_handleListen hanswer _)
        · exact excused_connectRequest hanswer (hstarting hcommand) _ _ _
        · exact excused_safe (hanswer.result env _ _).1

/-- A client that has sent a command out of turn has been closed, and is used again. -/
theorem excused_runCommand {given : Fault → Prop} (h : Steady env w) (hc : c ∈ w.clientList)
    (hidle : (w.clients c).state ≠ .connecting2 ∧ (w.clients c).state ≠ .connected) {buffer : Mem}
    (hbuffer : (w.clients c).ibBuf = some buffer)
    (hturn : (w.clients c).state ≠ .command → given .freedClient)
    (hstarting : (w.clients c).state = .command → (∃ d ∈ w.deviceList, (w.devs d).connections = none) →
      given .uninitConnections)
    (hnameless : (w.clients c).state = .command → ((runCommand env c buffer w).clients c).NamesNoRecord env →
      given .nullString) :
    Excused given w (runCommand env c buffer w) := by
  have hcommand := excused_clientCommand h hc hidle hbuffer hstarting hnameless
  have hafter : Steady env (clientCommand env c buffer w) :=
    h.after (phases_clientCommand h hc hidle.1 hidle.2 buffer) (talks_clientCommand env c w buffer hidle.2).turns
  unfold runCommand
  dsimp only
  split
  · rename_i hfreed
    refine hcommand.fault (.inl (hturn fun hstate => ?_))
    have hstays : InCommand c w := ⟨hc, hstate⟩
    exact hafter.unlisted ((World.clientFreed_iff _).mp hfreed) (hstays.clientCommand h buffer)
  · exact hcommand.trans (excused_safe (.none rfl))

theorem recvCommandBytes_devices (env : Env) (c : Ptr) (len : UInt32) (w : World) :
    (recvCommandBytes env c len w).1.deviceList = w.deviceList ∧ (recvCommandBytes env c len w).1.devs = w.devs ∧
      (recvCommandBytes env c len w).1.log = w.log := by
  unfold recvCommandBytes
  split
  · exact ⟨rfl, rfl, rfl⟩
  · exact ⟨rfl, rfl, rfl⟩

/-- What a client has been read into is still there. -/
theorem ibBuf_of_registry (hreg : w'.registry = w.registry) (c : Ptr) :
    (w'.clients c).ibBuf.isSome = (w.clients c).ibBuf.isSome :=
  congrArg ClientEntry.hasIbBuf (congrFun (congrArg Registry.clients hreg) c)

theorem excused_processRecvBody {given : Fault → Prop} (h : Steady env w) (hc : c ∈ w.clientList)
    (hother : (w.clients c).state ≠ .connected) (didRead : Bool)
    (hnull : (w.clients c).ibBuf = none → given .nullIbBuf)
    (hturn : (w.clients c).state ≠ .command → given .freedClient)
    (hstarting : (w.clients c).state = .command → (∃ d ∈ w.deviceList, (w.devs d).connections = none) →
      given .uninitConnections)
    (hnameless : (w.clients c).state = .command →
      ((processRecvBody env c didRead w).clients c).NamesNoRecord env → given .nullString) :
    Excused given w (processRecvBody env c didRead w) := by
  have hanswer := h.tracked.answerable hc hother
  cases hbuffer : (w.clients c).ibBuf with
  | none =>
    unfold processRecvBody
    simp only [hbuffer]
    exact Excused.fault (.refl _ w) (.inl (hnull hbuffer))
  | some buffer =>
    have hidle : (w.clients c).state ≠ .connecting2 ∧ (w.clients c).state ≠ .connected :=
      (h.tracked.ok.entries c hc).buffer.mp (by simp [hbuffer])
    have hclosed := @safe_closeClient env w c hanswer.armed hanswer.born
    obtain ⟨hlist, hdevs, hlog⟩ := recvCommandBytes_devices env c (readLe32 buffer 0 - (w.clients c).ibSize) w
    have hreg := registry_recvCommandBytes env c w (readLe32 buffer 0 - (w.clients c).ibSize)
    have hturns : Turns env w (recvCommandBytes env c (readLe32 buffer 0 - (w.clients c).ibSize) w).1 :=
      (ClientBlock.recv c (readLe32 buffer 0 - (w.clients c).ibSize) w).one.turns
    unfold processRecvBody at hnameless ⊢
    simp only [hbuffer] at hnameless ⊢
    generalize recvCommandBytes env c (readLe32 buffer 0 - (w.clients c).ibSize) w = r at *
    have hr : Steady env r.1 := h.after (by rw [hreg]) hturns
    have hstate : (r.1.clients c).state = (w.clients c).state := state_eq hreg c
    have hread : Excused given w r.1 := excused_safe (.none hlog)
    split_ifs at hnameless ⊢
    · exact excused_safe hclosed
    · exact excused_safe hclosed
    · exact .refl _ w
    · have hanswer' := hanswer.same hreg hturns
      exact hread.trans (excused_safe (safe_closeClient hanswer'.armed hanswer'.born))
    · exact hread
    · obtain ⟨b, hbuffer'⟩ := Option.isSome_iff_exists.mp ((ibBuf_of_registry hreg c).trans (by rw [hbuffer]; rfl))
      rw [hbuffer', Option.getD_some] at hnameless ⊢
      rw [← hstate] at hturn hstarting hnameless hidle
      rw [← hlist, ← hdevs] at hstarting
      refine hread.trans (excused_runCommand hr ?_ hidle hbuffer' hturn hstarting hnameless)
      rw [← registry_clientList, hreg]
      exact hc
    · exact excused_runCommand h hc hidle hbuffer hturn hstarting hnameless

/-- What a client is to blame for: a command out of turn, a request for a connection while a device waits for its
version, and a `ReadPairRecord` that names no record. -/
def Blamed (env : Env) (c : Ptr) (w w' : World) : Fault → Prop
  | .freedClient => (w.clients c).state ≠ .command ∧ (w.clients c).state ≠ .connected
  | .uninitConnections => (w.clients c).state = .command ∧ ∃ d ∈ w.deviceList, (w.devs d).connections = none
  | .nullString => (w.clients c).state = .command ∧ (w'.clients c).NamesNoRecord env
  | _ => False

/-- What is given may have an excuse. -/
theorem Excused.settle {given given' : Fault → Prop} (h : Excused given' w w')
    (hgiven : ∀ f, given' f → given f ∨ ∃ e ∈ w.since w', e.excuses f = true) : Excused given w w' :=
  ⟨h.1, fun f hf => (h.2 f hf).elim (hgiven f) .inr⟩

/-- A client is read from whether or not it has a buffer to read into. -/
theorem excused_processRecv (h : Steady env w) (hc : c ∈ w.clientList) (hother : (w.clients c).state ≠ .connected) :
    Excused (Blamed env c w (processRecv env c w)) w (processRecv env c w) := by
  have hnote : ClientBlock env w (w.emit (.processRecv c (w.clients c).ibBuf.isSome)) := .note _ w rfl
  have hreg : (w.emit (.processRecv c (w.clients c).ibBuf.isSome)).registry = w.registry := registry_emit w rfl
  have hv : Steady env (w.emit (.processRecv c (w.clients c).ibBuf.isSome)) := h.after (by rw [hreg]) hnote.one.turns
  have hcall : Excused (fun f => Blamed env c w (processRecv env c w) f ∨ f = .nullIbBuf ∧ (w.clients c).ibBuf = none)
      (w.emit (.processRecv c (w.clients c).ibBuf.isSome)) (processRecv env c w) := by
    generalize hgiven : (fun f => Blamed env c w (processRecv env c w) f ∨
      f = .nullIbBuf ∧ (w.clients c).ibBuf = none) = given
    have hnull : (w.clients c).ibBuf = none → given .nullIbBuf := fun hnone => hgiven ▸ .inr ⟨rfl, hnone⟩
    have hturn : (w.clients c).state ≠ .command → given .freedClient := fun hstate => hgiven ▸ .inl ⟨hstate, hother⟩
    have hstarting : (w.clients c).state = .command → (∃ d ∈ w.deviceList, (w.devs d).connections = none) →
        given .uninitConnections := fun hstate hd => hgiven ▸ .inl ⟨hstate, hd⟩
    have hnameless : (w.clients c).state = .command → ((processRecv env c w).clients c).NamesNoRecord env →
        given .nullString := fun hstate hno => hgiven ▸ .inl ⟨hstate, hno⟩
    clear hgiven
    unfold processRecv at hnameless ⊢
    dsimp only at hnameless ⊢
    have hclients : (w.emit (.processRecv c (w.clients c).ibBuf.isSome)).clients = w.clients := rfl
    have hcv : c ∈ (w.emit (.processRecv c (w.clients c).ibBuf.isSome)).clientList := hc
    have hdevices : (w.emit (.processRecv c (w.clients c).ibBuf.isSome)).deviceList = w.deviceList := rfl
    have hdevs : (w.emit (.processRecv c (w.clients c).ibBuf.isSome)).devs = w.devs := rfl
    generalize w.emit (.processRecv c (w.clients c).ibBuf.isSome) = v at *
    rw [← hclients] at hother hnull hturn hstarting hnameless ⊢
    rw [← hdevices, ← hdevs] at hstarting
    have hanswer := hv.tracked.answerable hcv hother
    obtain ⟨hlist', hdevs', hlog⟩ := recvCommandBytes_devices env c (usbmuxdHeaderSize - (v.clients c).ibSize) v
    have hrecv := registry_recvCommandBytes env c v (usbmuxdHeaderSize - (v.clients c).ibSize)
    have hturns : Turns env v (recvCommandBytes env c (usbmuxdHeaderSize - (v.clients c).ibSize) v).1 :=
      (ClientBlock.recv c (usbmuxdHeaderSize - (v.clients c).ibSize) v).one.turns
    generalize recvCommandBytes env c (usbmuxdHeaderSize - (v.clients c).ibSize) v = r at *
    have hr : Steady env r.1 := hv.after (by rw [hrecv]) hturns
    have hstate : (r.1.clients c).state = (v.clients c).state := state_eq hrecv c
    have hread : Excused given v r.1 := excused_safe (.none hlog)
    split_ifs at hnameless ⊢
    · have hanswer' := hanswer.same hrecv hturns
      exact hread.trans (excused_safe (safe_closeClient hanswer'.armed hanswer'.born))
    · exact hread
    · have hcr : c ∈ r.1.clientList := by
        rw [← registry_clientList, hrecv]
        exact hcv
      rw [← hstate] at hother hturn hstarting hnameless
      rw [← hlist', ← hdevs'] at hstarting
      refine hread.trans (excused_processRecvBody hr hcr hother true (fun hnone => hnull ?_) hturn hstarting hnameless)
      have hsome := ibBuf_of_registry hrecv c
      rw [hnone] at hsome
      exact Option.isNone_iff_eq_none.mp (by simpa using hsome.symm)
    · exact excused_processRecvBody hv hcv hother false hnull hturn hstarting hnameless
  obtain ⟨es, hlog, -⟩ := hcall.1
  have hentry : w.since (processRecv env c w) = .processRecv c (w.clients c).ibBuf.isSome :: es :=
    since_eq (by rw [hlog, emit_log, List.append_assoc, List.singleton_append])
  refine Excused.settle ((excused_safe (.one rfl rfl)).trans hcall) ?_
  rintro f (hblamed | ⟨rfl, hnone⟩)
  · exact .inl hblamed
  · refine .inr ⟨.processRecv c false, ?_, rfl⟩
    rw [hentry, hnone]
    exact List.mem_cons_self

theorem safe_processSend (h : Tracked env w) (hc : c ∈ w.clientList) (hother : (w.clients c).state ≠ .connected) :
    w.Grows Event.safe (processSend env c w) := by
  have hanswer := h.answerable hc hother
  have htock : w.Grows Event.safe w.tock := .none rfl
  unfold processSend
  dsimp only
  split
  · exact .none rfl
  · split
    · exact htock.trans (safe_closeClient hanswer.armed.tock hanswer.born)
    · exact .one rfl rfl

end Faults

/-! ### Runs -/

section Runs

variable {env : Env} {w : World}

/-- The faults of an operation that its client is to blame for, or the lack of memory. -/
def Op.excuses (env : Env) (w : World) (op : Op) (f : Fault) : Prop :=
  (∃ c events, op = .clientReady c events ∧ Blamed env c w (exec env w op) f) ∨ f = .freedConn ∧ ¬ env.Reliable

/-- Each fault of an operation has its excuse. -/
theorem excused_exec (h : Steady env w) (op : Op) : Excused (op.excuses env w) w (exec env w op) := by
  have hmemory : ¬ env.Reliable → op.excuses env w .freedConn := fun hno => .inr ⟨rfl, hno⟩
  cases op with
  | clientAccept => exact excused_safe (.one (e := .newClient w.fresh) rfl rfl)
  | clientReady c events =>
    by_cases hc : c ∈ w.clientList
    · have hexec : exec env w (.clientReady c events) = clientReady env c events w := if_pos hc
      have hblame : ∀ f, Blamed env c w (clientReady env c events w) f → (Op.clientReady c events).excuses env w f :=
        fun f hf => .inl ⟨c, events, rfl, hexec ▸ hf⟩
      rw [hexec]
      unfold clientReady at hblame ⊢
      split_ifs at hblame ⊢ with hready hconnected hin
      · exact excused_deviceClientProcess _ h.tracked _ c events
      · exact (excused_processRecv h hc hconnected).settle fun f hf => .inl (hblame f hf)
      · exact excused_safe (safe_processSend h.tracked hc hconnected)
      · exact .refl _ w
    · rw [show exec env w (.clientReady c events) = w from if_neg hc]
      exact .refl _ w
  | usb a => exact excused_safe (safe_usbAction h a)
  | acceptSocket u =>
    simp only [exec, deviceAcceptSocket]
    split
    · exact excused_safe (.none rfl)
    · exact .refl _ w
  | versionInput d vh =>
    simp only [exec]
    split
    · exact excused_safe (safe_deviceVersionInput ..)
    · exact .refl _ w
  | tcpInput d th payload =>
    simp only [exec]
    split
    · rename_i hd
      exact excused_deviceTcpInput _ hmemory h.tracked hd.1 th payload
    · exact .refl _ w
  | transfer d t =>
    simp only [exec]
    split
    · rename_i hd
      exact excused_drain _ hmemory h (List.count_eq_zero.mp (h.tracked.ok.device_live d hd)) _ _ _ _
    · exact .refl _ w
  | checkTimeouts => exact excused_safe (safe_deviceCheckTimeouts h.tracked)
  | setVisible id =>
    simp only [exec, deviceSetVisible]
    split
    · exact excused_safe (.none rfl)
    · exact .refl _ w
  | announce info => exact excused_safe (safe_announceDevice h.tracked.armed info)
  | pairingEvent info event validate =>
    exact excused_safe (safe_clientDevicePairingEvent h.tracked.armed info event validate)
  | preflightFinished id =>
    simp only [exec, devicePreflightFinished]
    split
    · exact excused_safe (.none rfl)
    · exact .refl _ w

/-- Nothing is an excuse for following a pointer that is never `NULL`. -/
theorem Event.not_excuses_null {f : Fault} (hnull : f = .nullClient ∨ f = .nullObBuf) (e : Event) :
    ¬ e.excuses f = true := by
  unfold Event.excuses
  rcases hnull with rfl | rfl <;> split <;> simp

theorem Op.not_excuses_null {f : Fault} (hnull : f = .nullClient ∨ f = .nullObBuf) (op : Op) :
    ¬ op.excuses env w f := by
  rintro (⟨c, events, -, hblamed⟩ | ⟨hfreed, -⟩)
  · rcases hnull with rfl | rfl <;> exact hblamed
  · rcases hnull with rfl | rfl <;> cases hfreed

/-- What an operation does to the log. -/
theorem log_exec (h : Steady env w) (op : Op) : (exec env w op).log = w.log ++ w.since (exec env w op) := by
  obtain ⟨es, hlog, -⟩ := (turns_exec op h.tracked.liveLookups : Turns env w (exec env w op)).log
  rw [since_eq hlog, hlog]

end Runs

/-- No run follows the missing client of a connection or the missing reply buffer of a client, and every other fault of
a run happens in an operation in which it has its excuse. -/
theorem faults_of_run (env : Env) (ops : List Op) :
    (.fault .nullClient ∉ (run env ops).log ∧ .fault .nullObBuf ∉ (run env ops).log) ∧
    ∀ f, .fault f ∈ (run env ops).log → ∃ before op after, ops = before ++ op :: after ∧
      .fault f ∈ (run env before).since (run env (before ++ [op])) ∧
      (op.excuses env (run env before) f ∨
        ∃ e ∈ (run env before).since (run env (before ++ [op])), e.excuses f = true) := by
  have hcause : ∀ f, .fault f ∈ (run env ops).log → ∃ before op after, ops = before ++ op :: after ∧
      .fault f ∈ (run env before).since (run env (before ++ [op])) ∧ (op.excuses env (run env before) f ∨
        ∃ e ∈ (run env before).since (run env (before ++ [op])), e.excuses f = true) := by
    intro f hf
    induction ops using List.reverseRecOn with
    | nil => cases hf
    | append_singleton ops op ih =>
      have hsteady := steady_run env ops
      rw [run_append, log_exec hsteady op] at hf
      obtain hold | hnew := List.mem_append.mp hf
      · obtain ⟨before, op', after, rfl, hcause⟩ := ih hold
        exact ⟨before, op', after ++ [op], by simp, hcause⟩
      · refine ⟨ops, op, [], rfl, ?_⟩
        rw [run_append]
        exact ⟨hnew, (excused_exec hsteady op).2 f hnew⟩
  have hnever : ∀ f, f = .nullClient ∨ f = .nullObBuf → .fault f ∉ (run env ops).log := by
    intro f hnull hf
    obtain ⟨before, op, after, -, -, hexcuse | ⟨e, -, hexcuse⟩⟩ := hcause f hf
    · exact op.not_excuses_null hnull hexcuse
    · exact e.not_excuses_null hnull hexcuse
  exact ⟨⟨hnever _ (.inl rfl), hnever _ (.inr rfl)⟩, hcause⟩

/-- A device that says that it is of version 3 is freed, and used again. -/
theorem faults_of_strangeVersion :
    ∃ before op after, [.usb (.deviceAdd 5), .transfer 1 strangeVersion] = before ++ op :: after ∧
      .fault .freedDev ∈ (run .quiet before).since (run .quiet (before ++ [op])) ∧
      (op.excuses .quiet (run .quiet before) .freedDev ∨
        ∃ e ∈ (run .quiet before).since (run .quiet (before ++ [op])), e.excuses .freedDev = true) := by
  have hlog : (run .quiet [.usb (.deviceAdd 5), .transfer 1 strangeVersion]).log =
      (run .quiet [.usb (.deviceAdd 5)]).log ++ [.versionInput 1 ⟨3, 0, 0⟩, .freeDev 1] ++ [.fault .freedDev] := by
    decide +kernel
  exact (faults_of_run .quiet [.usb (.deviceAdd 5), .transfer 1 strangeVersion]).2 .freedDev
    (by rw [hlog]; exact List.mem_append_right _ (List.mem_singleton_self _))

end Usbmuxd
