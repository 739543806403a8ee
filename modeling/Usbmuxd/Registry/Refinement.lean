import Usbmuxd.Registry.Teardown

/-!
# The daemon keeps its bookkeeping

Each operation of the daemon, seen through the registry, is a sequence of the registry's
steps, with one exception: a client that dies while the answer to its connect request
waits in its reply buffer is released twice.

## The model

* `Steady` — a world between two operations.
* `DiesMidConnect` — the exception, as a condition on the world before the operation.

## What is proved

* `phases_exec` — every operation but the exception is a sequence of steps.
* `registry_exec_dies` — the exception is a step followed by a second release.
* `steady_run` — what is on the lists is in order after every run.
-/

namespace Usbmuxd

open World Relation

/-! ### Segments -/

section Segments

variable {env : Env} {w w' : World} {d p c : Ptr} {removing : Option Ptr}

theorem registry_sendTcpAck (h : (sendTcpAck env p w).2 = true) : (sendTcpAck env p w).1.registry = w.registry := by
  unfold sendTcpAck at h ⊢
  dsimp only at h ⊢
  split at h
  · rename_i hsent
    rw [if_pos hsent, registry_updateConnection, registry_sendTcp]
  · cases h

theorem steps_sendTcpAck (h : Tracked env w) (hl : w.registry.Link d p c) :
    Registry.Steps env.Reliable removing w.registry (sendTcpAck env p w).1.registry := by
  have hsent : (sendTcp env p thAck [] w).1.registry = w.registry := registry_sendTcp ..
  have hv : Tracked env (sendTcp env p thAck [] w).1 := h.conn hsent (.sendTcp ..)
  unfold sendTcpAck
  dsimp only
  generalize sendTcp env p thAck [] w = r at hsent hv ⊢
  split
  · exact steps_same (by rw [registry_updateConnection, hsent])
  · rw [← hsent] at hl ⊢
    exact steps_tearDown hv hl

theorem steps_connectionDeviceInput (h : Tracked env w) (hl : w.registry.Link d p c) (payload : List UInt8) :
    Registry.Steps env.Reliable removing w.registry (connectionDeviceInput env p payload w).1.registry := by
  unfold connectionDeviceInput
  dsimp only
  split
  · have hreg : (w.emit (.overflow p payload)).registry = w.registry := registry_emit w rfl
    have harmed : Armed (w.emit (.overflow p payload)) := h.armed.emit (by simp)
    rw [← hreg]
    exact steps_tearDown ⟨hreg ▸ h.ok, harmed⟩ (hreg ▸ hl)
  · refine steps_same ?_
    rw [registry_updateConnection, registry_setConn_same _ rfl, registry_emit _ rfl]

theorem steps_connectedInput (h : Tracked env w) (hl : w.registry.Link d p c) (th : TcpHdr) (payload : List UInt8)
    (hstate : (w.conns p).state = .connected) (hlen : payload.length ≤ devMru.toNat) :
    Registry.Steps env.Reliable removing w.registry (connectedInput env p th payload w).registry := by
  have hconn : (w.registry.conns p).state = .connected := hstate
  unfold connectedInput
  split
  · split
    · refine (tearDown_from h.ok hl ?_ (h.armed.setConn p _) (registry_setConn ..)).1
      rw [hconn]
      exact .dying
    · exact steps_tearDown h hl
  · have hinput : Registry.Steps env.Reliable removing w.registry _ := steps_connectionDeviceInput h hl payload
    have hturns := (traffic_connectionDeviceInput env p w hstate hlen).turns
    dsimp only
    split
    · rename_i hin
      have hsame : (connectionDeviceInput env p payload w).1.registry = w.registry := by
        unfold connectionDeviceInput at hin ⊢
        dsimp only at hin ⊢
        split at hin
        · cases hin
        · rename_i hroom
          rw [if_neg hroom, registry_updateConnection, registry_setConn_same _ rfl, registry_emit _ rfl]
      split
      · exact hinput.trans (steps_sendTcpAck (h.after hinput hturns) (hsame.symm ▸ hl))
      · exact hinput
    · rw [registry_emit _ rfl]
      exact hinput

/-- The teardown of a connection whose client could not be told that it is connected. -/
theorem steps_tearDown_orphan {T : Registry} {e : ConnEntry} (hl : T.Link d p c)
    (hone : (T.clients c).state = .connecting1) (hrel : ¬ env.Reliable) (hreg : w.registry = T.setConn p e)
    (hdev : e.dev = d) (hstate : e.state = .connected) :
    Registry.Steps env.Reliable removing T (tearDown env p (w.setConn p (·.orphan))).registry := by
  have hentry : (w.conns p).entry = e := by
    simpa using congrFun (congrArg Registry.conns hreg) p
  have hconn : ((w.setConn p (·.orphan)).conns p).state = .connected := by
    rw [setConn_conns, Function.update_self]
    exact (congrArg ConnEntry.state hentry).trans hstate
  have hdev' : ((sendTeardownRst env p (w.setConn p (·.orphan))).conns p).dev = d := by
    have hrst := congrFun (congrArg Registry.conns (registry_sendTeardownRst env (w.setConn p (·.orphan)) p)) p
    refine (congrArg ConnEntry.dev hrst).trans ?_
    simpa [← hentry] using hdev
  rw [tearDown, callDepth, connectionTeardown_orphan 3 (by simp) (by rw [hconn]; decide), registry_releaseConn, hdev',
    registry_sendTeardownRst, registry_setConn, hreg, Registry.unlink_setConn, Registry.unlink_setConn]
  exact .single (.abandon d p c _ hl hone hrel)

theorem steps_connectingInput (h : Tracked env w) (hl : w.registry.Link d p c) (th : TcpHdr)
    (hstate : (w.conns p).state = .connecting) :
    Registry.Steps env.Reliable removing w.registry (connectingInput env p th w).registry := by
  have hconn : (w.registry.conns p).state = .connecting := hstate
  obtain ⟨hmem, -, hmatch⟩ := h.ok.link_client hl
  have hone : (w.clients c).state = .connecting1 := hmatch.connecting_iff.mp hconn
  unfold connectingInput
  split
  · split
    · refine (tearDown_from h.ok hl ?_ (h.armed.setConn p _) (registry_setConn ..)).1
      rw [hconn]
      exact .refused
    · exact steps_tearDown h hl
  · have hhand : ((w.emit (.synAck p)).setConn p (·.handshake)).registry = w.registry := by
      rw [registry_setConn_same _ rfl, registry_emit _ rfl]
    have hframe : ConnFrame w ((w.emit (.synAck p)).setConn p (·.handshake)) := .answered p w
    dsimp only
    generalize (w.emit (.synAck p)).setConn p (·.handshake) = v at hhand hframe ⊢
    have hsent : (sendTcp env p thAck [] v).1.registry = w.registry := (registry_sendTcp ..).trans hhand
    have hr : Tracked env (sendTcp env p thAck [] v).1 := h.conn hsent (hframe.trans (.sendTcp ..))
    generalize sendTcp env p thAck [] v = r at hsent hr ⊢
    split
    · have hup : (r.1.setConn p (·.become .connected)).registry =
          w.registry.setConn p { w.registry.conns p with state := .connected } := by
        rw [registry_setConn, ← hsent]
        rfl
      have harmed := hr.armed.setConn p (·.become .connected)
      generalize r.1.setConn p (·.become .connected) = u at hup harmed ⊢
      have hentry : (u.conns p).entry = { w.registry.conns p with state := .connected } := by
        simpa using congrFun (congrArg Registry.conns hup) p
      have hclient : (u.conns p).client = some c := (congrArg ConnEntry.client hentry).trans hl.client
      have hlist : u.clientList = w.clientList := congrArg Registry.clientList hup
      have hone' : (u.clients c).state = .connecting1 :=
        (congrArg ClientEntry.state (congrFun (congrArg Registry.clients hup) c)).trans hone
      simp only [hclient]
      rcases registry_notify_ok env hone' with ⟨hok, hreg⟩ | ⟨hno, hfailed, hsame⟩
      · rw [if_pos hok, registry_updateConnection, hreg, hup]
        exact .single (.establish d p c hl)
      · rw [if_neg (by simp [hno]), registry_emit _ rfl]
        exact steps_tearDown_orphan hl (hmatch.connecting_iff.mp hconn)
          (harmed.notified (hlist ▸ hmem) hone' hfailed) (hsame.trans hup) (h.ok.conn_dev d hl.device p hl.conn) rfl
    · rw [← hsent]
      exact steps_tearDown hr (hsent ▸ hl)

/-- A segment for any device on the list. -/
theorem steps_deviceTcpInput (h : Tracked env w) (hd : d ∈ w.deviceList) (th : TcpHdr) {payload : List UInt8}
    (hlen : payload.length ≤ devMru.toNat) :
    Registry.Steps env.Reliable removing w.registry (deviceTcpInput env d th payload w).registry := by
  have hcall : (w.emit (.tcpInput d th payload)).registry = w.registry := registry_emit w rfl
  have hv : Tracked env (w.emit (.tcpInput d th payload)) := ⟨hcall ▸ h.ok, h.armed.emit (by simp)⟩
  replace hd : d ∈ (w.emit (.tcpInput d th payload)).deviceList := hd
  unfold deviceTcpInput
  dsimp only
  generalize w.emit (.tcpInput d th payload) = v at hcall hv hd ⊢
  rw [← hcall]
  split
  · exact .refl
  · split
    · split
      · exact .refl
      · split
        · exact steps_same (registry_sendAnonRst ..)
        · exact steps_same (by rw [registry_emit _ rfl, registry_sendAnonRst])
    · rename_i p hp
      obtain ⟨c, hl⟩ := hv.ok.link_of_mem hd (SlotTable.find?_mem hp)
      have hhear : (v.setConn p (·.hear th)).registry = v.registry := registry_setConn_same _ rfl
      have hturns : Turns env v (v.setConn p (·.hear th)) := (ConnBlock.hear p th v).one.turns
      have hu := hv.same hhear hturns
      generalize v.setConn p (·.hear th) = u at hhear hu ⊢
      rw [← hhear] at hl ⊢
      split
      · rename_i hstate
        exact steps_connectingInput hu hl th hstate
      · rename_i hstate
        exact steps_connectedInput hu hl th payload hstate hlen
      · exact .refl

end Segments

/-! ### Devices -/

section Devices

variable {env : Env} {w w' : World} {d : Ptr} {removing : Option Ptr}

theorem steps_deviceVersionInput (h : Tracked env w) (hd : d ∈ w.deviceList) (vh : VersionHeader) :
    Registry.Steps env.Reliable removing w.registry (deviceVersionInput env d vh w).registry := by
  have hcall : (w.emit (.versionInput d vh)).registry = w.registry := registry_emit w rfl
  unfold deviceVersionInput
  dsimp only
  generalize w.emit (.versionInput d vh) = v at hcall ⊢
  rw [← hcall]
  have hdv : d ∈ v.registry.deviceList := hcall ▸ hd
  have hok : v.registry.Ok env.Reliable none := hcall ▸ h.ok
  split
  · exact .refl
  · rename_i hinit
    have hnone : (v.registry.devs d).connections = none := (hok.initialised d hdv).mp (not_not.mp hinit)
    have hempty : v.registry.connections d = ⟨[]⟩ := by rw [Registry.connections, hnone]; rfl
    split
    · rw [registry_releaseDev]
      refine .single (.dropDev d hdv fun p hp => ?_)
      rw [hempty] at hp
      cases hp
    · have hversion : (v.setDev d fun dev => { dev with version := vh.major.toNat }).registry = v.registry :=
        registry_setDev_same _ rfl
      generalize (v.setDev d fun dev => { dev with version := vh.major.toNat }) = u at hversion ⊢
      have hsetup : (if 2 ≤ vh.major then (sendPacket env d .setup [] [0x07] u).1 else u).registry = v.registry := by
        split
        · exact (registry_sendPacket ..).trans hversion
        · exact hversion
      generalize (if 2 ≤ vh.major then (sendPacket env d .setup [] [0x07] u).1 else u) = t at hsetup ⊢
      rw [registry_setDev_same _ (by rfl), preflightWorkerDeviceAdd, registry_emit _ (by rfl), registry_setDev, hsetup]
      have hid : (t.devs d).id = (v.registry.devs d).id :=
        congrArg DevEntry.id (congrFun (congrArg Registry.devs hsetup) d)
      refine .single (.device d _ hid ?_ ?_ ?_)
      · rw [hempty]
        exact SlotTable.elements_init _
      · simp [MuxDevice.entry]
      · simp [MuxDevice.entry]

theorem steps_dispatch (h : Tracked env w) (hd : d ∈ w.deviceList) {call : Dispatch} (hfits : call.fits) :
    Registry.Steps env.Reliable removing w.registry (dispatch env d call w).registry := by
  cases call with
  | version vh => exact steps_deviceVersionInput h hd vh
  | control payload => exact steps_same (registry_emit w rfl)
  | tcp th payload => exact steps_deviceTcpInput h hd th hfits

theorem steps_deviceDataInput (h : Tracked env w) (u : UsbDevice) (buffer : Mem) (length : UInt32) :
    Registry.Steps env.Reliable removing w.registry (deviceDataInput env u buffer length w).1.registry := by
  unfold deviceDataInput
  split
  · exact .refl
  · rename_i d hd
    have hframing : (w.setDev d (·.setFraming (decode (w.devs d).framing buffer length).framing)).registry =
        w.registry := registry_setDev_same _ rfl
    have hturns : Turns env w (w.setDev d (·.setFraming (decode (w.devs d).framing buffer length).framing)) :=
      (DeviceBlock.framing d _ w).one.turns
    dsimp only
    split
    · exact steps_same hframing
    · rename_i call hcall
      rw [← hframing]
      exact steps_dispatch (h.same hframing hturns) (SlotTable.find?_mem hd) (decode_fits _ _ _ hcall)

theorem steps_drain (h : Tracked env w) (u : UsbDevice) (n : ℕ) (buffer : Mem) (size : UInt32) :
    Registry.Steps env.Reliable removing w.registry (drain env d u n buffer size w).registry := by
  induction n generalizing buffer size w with
  | zero => exact steps_same (registry_emit w rfl)
  | succ n ih =>
    unfold drain
    split
    · exact .refl
    · have hinput : Registry.Steps env.Reliable removing w.registry _ := steps_deviceDataInput h u buffer size
      have hturns := (work_deviceDataInput env w u buffer size).turns
      dsimp only
      split
      · rw [registry_emit _ rfl]
        exact hinput
      · split
        · exact hinput
        · exact hinput.trans (ih (h.after hinput hturns) ..)

theorem nextFreeId_free {used : List ℕ} {next : ℕ} (h : next ∉ used) (n : ℕ) : nextFreeId used n next = next := by
  cases n with
  | zero => rfl
  | succ n => rw [nextFreeId, if_neg h]

/-- The next number is never in use. -/
theorem getNextDeviceId_eq (h : Tracked env w) : getNextDeviceId w = w.nextDeviceId := by
  refine nextFreeId_free (fun hmem => ?_) _
  obtain ⟨d, hd, hid⟩ := List.mem_map.mp hmem
  have hlt := h.ok.ids_lt d hd
  simp [hid] at hlt

theorem registry_allocDev (u : UsbDevice) :
    (allocDev u w.nextDeviceId w).registry = w.registry.allocDev u := by
  apply Registry.ext
  case devs =>
    funext x
    exact Function.apply_update (fun _ => MuxDevice.entry) w.devs w.fresh _ x
  all_goals rfl

theorem steps_deviceAdd (h : Tracked env w) (u : UsbDevice) :
    Registry.Steps env.Reliable removing w.registry (deviceAdd env u w).registry := by
  unfold deviceAdd
  rw [getNextDeviceId_eq h]
  have hsent : (sendPacket env w.fresh .version (VersionHeader.bytes ⟨1, 0, 0⟩) []
      (allocDev u w.nextDeviceId w)).1.registry = w.registry.allocDev u :=
    (registry_sendPacket ..).trans (registry_allocDev u)
  dsimp only
  split
  · have hlisted : ∀ v : World, (registerDev w.fresh v).registry = v.registry.listDev w.fresh := fun _ => rfl
    rw [hlisted, hsent]
    exact .single (.newDevice u)
  · rw [registry_emit_freeDev, hsent]
    exact .single (.lostDevice u)

/-- Where the loop of `device_remove` stands when slot `i` is next. -/
structure Sweep (env : Env) (removing : Option Ptr) (d : Ptr) (w : World) (i : ℕ) (v : World) : Prop where
  steps : Registry.Steps env.Reliable removing w.registry v.registry
  turns : Turns env w v
  deviceList : v.deviceList = w.deviceList
  state : ∀ d', (v.devs d').state = (w.devs d').state
  capacity : (v.connections d).capacity = (w.connections d).capacity
  swept : ∀ j < i, ∀ p, (v.connections d).slots[j]? ≠ some (some p)

theorem Sweep.step {i : ℕ} {v : World} {p : Ptr} (h : Tracked env w) (hd : d ∈ w.deviceList)
    (hs : Sweep env removing d w i v) (hp : (v.connections d).slots[i]? = some (some p)) :
    Sweep env removing d w (i + 1) (tearDown env p v) := by
  have hv := h.after hs.steps hs.turns
  have hdv : d ∈ v.deviceList := hs.deviceList ▸ hd
  have hpv : p ∈ v.connections d := SlotTable.mem_iff_slot.mpr (List.mem_of_getElem? hp)
  obtain ⟨c, hl⟩ := hv.ok.link_of_mem hdv hpv
  have hgone := unlinked_tearDown hv hl
  have hconns : (tearDown env p v).connections d = (v.connections d).remove p := hgone.connections
  refine ⟨hs.steps.trans (steps_tearDown hv hl), hs.turns.trans (traffic_tearDown env p v).turns,
    hgone.deviceList.trans hs.deviceList, fun d' => (hgone.state d').trans (hs.state d'), ?_, ?_⟩
  · rw [hconns, SlotTable.capacity_remove, hs.capacity]
  · intro j hj q hq
    rw [hconns] at hq
    rcases SlotTable.getElem?_clear (v.connections d).slots p j with hsame | hnone
    · rcases Nat.lt_succ_iff_lt_or_eq.mp hj with hj | rfl
      · exact hs.swept j hj q (hsame ▸ hq)
      · have hqp : q = p := by simpa [hp] using (hsame ▸ hq : (v.connections d).slots[j]? = some (some q)).symm
        have hmem := SlotTable.mem_iff_slot.mpr (List.mem_of_getElem? hq)
        exact ((SlotTable.mem_remove (hv.ok.conns_nodup d hdv)).mp hmem).1 hqp
    · rw [SlotTable.remove, hnone] at hq
      cases hq

theorem Sweep.skip {i : ℕ} {v : World} (hs : Sweep env removing d w i v)
    (hempty : ∀ p, (v.connections d).slots[i]? ≠ some (some p)) : Sweep env removing d w (i + 1) v := by
  refine { hs with swept := fun j hj p hp => ?_ }
  rcases Nat.lt_succ_iff_lt_or_eq.mp hj with hj | rfl
  · exact hs.swept j hj p hp
  · exact hempty p hp

/-- The loop of `device_remove` leaves the device without connections. -/
theorem sweep_tearDownAll (h : Tracked env w) (hd : d ∈ w.deviceList) :
    Sweep env removing d w (w.connections d).capacity (tearDownAll env d w) := by
  have hstart : Sweep env removing d w 0 w := ⟨.refl, .refl, rfl, fun _ => rfl, rfl, fun j hj => by omega⟩
  have hend := SlotTable.forEach_sweep (P := Sweep env removing d w) (fun i v hempty hs => hs.skip hempty)
    (fun i p v hp hs => hs.step h hd hp) (w.connections d).capacity 0 w hstart
  rwa [Nat.zero_add] at hend

theorem Sweep.empty {v : World} (hs : Sweep env removing d w (w.connections d).capacity v) (p : Ptr) :
    p ∉ v.connections d := by
  intro hp
  obtain ⟨j, hj⟩ := List.getElem?_of_mem (SlotTable.mem_iff_slot.mp hp)
  have hlt : j < (v.connections d).capacity := (List.getElem?_eq_some_iff.mp hj).1
  exact hs.swept j (hs.capacity ▸ hlt) p hj

/-- What holds between the operations. -/
structure Steady (env : Env) (w : World) : Prop where
  tracked : Tracked env w
  settled : w.registry.Settled none

theorem Steady.after (h : Steady env w) (hp : Registry.Phases env.Reliable w.registry w'.registry)
    (ht : Turns env w w') : Steady env w' :=
  have hsound : w'.registry.Sound env.Reliable := Registry.Sound.phases ⟨h.tracked.ok, h.settled⟩ hp
  ⟨⟨hsound.ok, h.tracked.armed.turns ht⟩, hsound.settled⟩

/-- An active device is marked for removal. -/
theorem steps_dying (h : Tracked env w) (hd : d ∈ w.deviceList) (hactive : (w.devs d).state = .active) :
    Registry.Steps env.Reliable (some d) w.registry (w.setDev d fun dev => { dev with state := .dead }).registry := by
  have hsome : (w.devs d).connections ≠ none := fun hnone => by
    have hinit := (h.ok.initialised d hd).mpr hnone
    rw [registry_devs, MuxDevice.entry_state, hactive] at hinit
    cases hinit
  rw [registry_setDev]
  refine .single (.device d _ rfl rfl ?_ fun _ => rfl)
  simpa [MuxDevice.entry] using hsome

/-- An active device disconnects: at the end it is still on the list, and nothing is on its own. -/
theorem disconnectDevice_spec (h : Tracked env w) (hd : d ∈ w.deviceList) (hactive : (w.devs d).state = .active) :
    Registry.Steps env.Reliable (some d) w.registry (disconnectDevice env d w).registry ∧
      (disconnectDevice env d w).deviceList = w.deviceList ∧ (disconnectDevice env d w).connections d = ⟨[]⟩ := by
  have hv := steps_dying h hd hactive
  unfold disconnectDevice
  dsimp only
  generalize hdying : (w.setDev d fun dev => { dev with state := .dead }) = v at hv ⊢
  have htv : Tracked env v := h.after hv (by rw [← hdying]; exact (DeviceBlock.dead d w).one.turns)
  have hdv : d ∈ v.deviceList := by
    rw [← hdying]
    exact hd
  have hsweep : Sweep env (some d) d v (v.connections d).capacity (tearDownAll env d v) := sweep_tearDownAll htv hdv
  have hlist : v.deviceList = w.deviceList := by
    rw [← hdying]
    rfl
  generalize tearDownAll env d v = u at hsweep ⊢
  generalize hnote : (if (u.devs d).visible = true then clientDeviceRemove env (u.devs d).id u
    else clientDeviceRemovedDuringAdd env (u.deviceInfo env d) u) = t
  have ht : t.registry = u.registry := by
    rw [← hnote]
    split
    · exact registry_clientDeviceRemove ..
    · exact registry_clientDevicePairingEvent ..
  have hempty : ∀ p, p ∉ t.registry.connections d := by
    rw [ht]
    exact hsweep.empty
  refine ⟨(hv.trans hsweep.steps).tail ?_, ?_, ?_⟩
  · rw [registry_setDev, ← ht]
    refine .device d _ rfl ?_ ?_ fun _ => rfl
    · exact (List.eq_nil_iff_forall_not_mem.mpr hempty).symm
    · have hdead : (t.devs d).state = .dead := by
        have hsame : (t.devs d).state = (u.devs d).state :=
          congrArg DevEntry.state (congrFun (congrArg Registry.devs ht) d)
        rw [hsame, hsweep.state, ← hdying]
        simp
      simp [MuxDevice.entry, hdead]
  · exact (congrArg Registry.deviceList ht).trans (hsweep.deviceList.trans hlist)
  · simp [World.connections]

/-- A device that goes takes its connections with it. -/
theorem phases_deviceRemove (h : Steady env w) (u : UsbDevice) :
    Registry.Phases env.Reliable w.registry (deviceRemove env u w).registry := by
  unfold deviceRemove
  split
  · exact .refl
  · rename_i d hfound
    have hd : d ∈ w.deviceList := SlotTable.find?_mem hfound
    have hd' : d ∈ w.registry.deviceList := hd
    split
    · rename_i hactive
      obtain ⟨hsteps, hlist, hconns⟩ := disconnectDevice_spec h.tracked hd hactive
      generalize disconnectDevice env d w = v at hsteps hlist hconns ⊢
      have hdv : d ∈ v.registry.deviceList := by
        rw [registry_deviceList, hlist]
        exact hd
      rw [registry_releaseDev]
      refine .single ⟨some d, hsteps.tail (.dropDev d hdv fun p hp => ?_), ?_⟩
      · rw [registry_connections, hconns] at hp
        cases hp
      · intro d' heq hmem
        obtain rfl : d = d' := Option.some.inj heq
        exact ((SlotTable.mem_remove (h.tracked.ok.steps hsteps).devices_nodup).mp hmem).1 rfl
    · rename_i hactive
      have hinit : (w.registry.devs d).state = .init := by
        cases hstate : (w.devs d).state with
        | init => exact hstate
        | active => exact absurd hstate hactive
        | dead => exact absurd (h.settled d hd' hstate) (by simp)
      have hempty : w.registry.connections d = ⟨[]⟩ := by
        rw [Registry.connections, (h.tracked.ok.initialised d hd').mp hinit]
        rfl
      rw [registry_releaseDev]
      refine Registry.Steps.phases (.single (.dropDev d hd' fun p hp => ?_))
      rw [hempty] at hp
      cases hp

theorem phases_usbAction (h : Steady env w) (a : UsbAction) :
    Registry.Phases env.Reliable w.registry (usbAction env a w).registry := by
  cases a with
  | deviceAdd u => exact (steps_deviceAdd h.tracked u).phases
  | deviceRemove u => exact phases_deviceRemove h u
  | deviceAddFailed u => exact (steps_same (registry_clientDevicePairingEvent ..)).phases
  | errorAlreadyExists info => exact (steps_same (registry_clientDevicePairingEvent ..)).phases

theorem phases_usbProcess (h : Steady env w) :
    Registry.Phases env.Reliable w.registry (usbProcess env w).registry := by
  unfold usbProcess
  have htock : Steady env w.tock := ⟨⟨h.tracked.ok, h.tracked.armed.tock⟩, h.settled⟩
  rw [← registry_tock w]
  generalize w.tock = v at htock ⊢
  induction env.usbProcess w.tick generalizing v with
  | nil => exact .refl
  | cons a rest ih =>
    have ha := phases_usbAction htock a
    exact ha.trans (ih _ (htock.after ha (work_usbAction env v a).turns))

theorem steps_deviceCheckTimeouts (h : Tracked env w) :
    Registry.Steps env.Reliable removing w.registry (deviceCheckTimeouts env w).registry := by
  have hkeep : ∀ v, Registry.Steps env.Reliable removing w.registry v.registry ∧ Turns env w v → Tracked env v :=
    fun v hv => h.after hv.1 hv.2
  refine (SlotTable.forEach_induct
    (P := fun v => Registry.Steps env.Reliable removing w.registry v.registry ∧ Turns env w v) ?_ _ _ _
    ⟨steps_same (registry_tock w), (ConnBlock.tock w).one.turns⟩).1
  intro d v hd hv
  split
  · refine SlotTable.forEach_induct
      (P := fun u => (Registry.Steps env.Reliable removing w.registry u.registry ∧ Turns env w u) ∧ d ∈ u.deviceList)
      ?_ _ _ _ ⟨hv, hd⟩ |>.1
    rintro p u hp ⟨hu, hdu⟩
    split
    · obtain ⟨c, hl⟩ := (hkeep u hu).ok.link_of_mem hdu hp
      have hturns := traffic_sendTcpAck env p u ((hkeep u hu).not_dead hl)
      refine ⟨⟨hu.1.trans (steps_sendTcpAck (hkeep u hu) hl), hu.2.trans hturns.turns⟩, ?_⟩
      rw [hturns.devices.deviceList]
      exact hdu
    · exact ⟨hu, hdu⟩
  · exact hv

end Devices

/-! ### Commands -/

section Commands

variable {env : Env} {w w' : World} {c : Ptr} {removing : Option Ptr}

theorem steps_handleListen (hc : c ∈ w.clientList) (hstate : (w.clients c).state = .command)
    (hdr : UsbmuxdHeader) : Registry.Steps env.Reliable removing w.registry (handleListen env c hdr w).registry := by
  have hsent : (sendResult env c hdr.tag resultOk w).1.registry = w.registry := registry_sendResult ..
  unfold handleListen
  dsimp only
  generalize sendResult env c hdr.tag resultOk w = r at hsent ⊢
  rw [← hsent]
  split
  · have hstate' := (state_eq hsent c).trans hstate
    rw [startListen, registry_notifyAll, registry_setClient]
    have hentry : MuxClient.entry { r.1.clients c with state := .listen } =
        { r.1.registry.clients c with state := .listen } := by
      simp [MuxClient.entry, hstate']
    rw [hentry]
    refine .single (.listen c ?_ hstate')
    rw [hsent]
    exact hc
  · exact .refl

theorem registry_allocConn (conn : MuxConnection) :
    (allocConn conn w).registry = w.registry.allocConn conn.entry := by
  apply Registry.ext
  case conns =>
    funext x
    exact Function.apply_update (fun _ => MuxConnection.entry) w.conns w.fresh _ x
  case cutShort => simp
  all_goals first | rfl | (funext x; simp)

theorem registry_registerConn (d p : Ptr) : (registerConn d p w).registry = w.registry.link d p := by
  rw [registerConn, registry_setDev]
  rfl

/-- A connect request either leaves the registry alone, or makes a connection that does not
come to anything, or one that is the client's from then on. -/
theorem registry_deviceStartConnect (env : Env) (w : World) (c : Ptr) (id : ℕ) (port : UInt16) :
    (∃ res, (deviceStartConnect env id port c w).2 = some res ∧
      Registry.Steps env.Reliable removing w.registry (deviceStartConnect env id port c w).1.registry) ∨
    (deviceStartConnect env id port c w).2 = none ∧ ∃ d ∈ w.deviceList, (w.devs d).id = id ∧
      (w.devs d).connections ≠ none ∧ (deviceStartConnect env id port c w).1.registry =
        (w.registry.allocConn ⟨d, some c, .connecting⟩).link d w.fresh := by
  have hsyn : ∀ d sport v next, v = w.setDev d (fun dev => { dev with nextSport := next }) →
      (sendTcp env v.fresh thSyn [] (allocConn (.start d c sport port) v)).1.registry =
        w.registry.allocConn ⟨d, some c, .connecting⟩ := by
    intro d sport v next hv
    have hport : v.registry = w.registry := hv ▸ registry_setDev_same w rfl
    rw [registry_sendTcp, registry_allocConn, hport]
    rfl
  have hstarted := connectStarted env id port c w
  generalize deviceStartConnect env id port c w = r at hstarted ⊢
  cases hstarted with
  | noDevice => exact .inl ⟨_, rfl, .refl⟩
  | uninitialised => exact .inl ⟨_, rfl, steps_same (registry_emit w rfl)⟩
  | cutShort => exact .inl ⟨_, rfl, steps_same (registry_emit w rfl)⟩
  | noPort d next =>
    have hport : (w.setDev d fun dev => { dev with nextSport := next }).registry = w.registry :=
      registry_setDev_same w rfl
    exact .inl ⟨_, rfl, steps_same hport⟩
  | refused d sport next v _ _ _ _ hv =>
    have hfresh : v.fresh = w.fresh := by rw [hv, setDev_fresh]
    refine .inl ⟨_, rfl, ?_⟩
    rw [registry_emit_freeConn, hsyn d sport v next hv, hfresh]
    exact .single (.lostConn _)
  | started d sport next v hd hconns _ _ hv =>
    have hfresh : v.fresh = w.fresh := by rw [hv, setDev_fresh]
    refine .inr ⟨rfl, d, SlotTable.find?_mem hd, by simpa using SlotTable.find?_pred hd, hconns, ?_⟩
    rw [registry_registerConn, hsyn d sport v next hv, hfresh]

theorem steps_connectRequest (hc : c ∈ w.clientList) (hstate : (w.clients c).state = .command)
    (hdr : UsbmuxdHeader) (id : ℕ) (port : UInt16) :
    Registry.Steps env.Reliable removing w.registry (connectRequest env c hdr id port w).registry := by
  have hclients := deviceStartConnect_clients env c w id port
  unfold connectRequest
  dsimp only
  rcases registry_deviceStartConnect env w c id port with ⟨res, hres, hsteps⟩ | ⟨hres, d, hd, hid, hconns, hreg⟩
  · simp only [hres, registry_sendResult]
    exact hsteps
  · simp only [hres, registry_setClient]
    have hentry : MuxClient.entry { (deviceStartConnect env id port c w).1.clients c with
        connectTag := hdr.tag, connectDevice := id, state := .connecting1 } =
          { w.registry.clients c with state := .connecting1, connectDevice := (w.registry.devs d).id } := by
      rw [hclients]
      simp [MuxClient.entry, hstate, hid]
    rw [hreg, hentry]
    exact .single (.connect d c hd hconns hc hstate)

theorem steps_handleConnectCommand (hc : c ∈ w.clientList) (hstate : (w.clients c).state = .command)
    (hdr : UsbmuxdHeader) (command : Plist) :
    Registry.Steps env.Reliable removing w.registry (handleConnectCommand env c hdr command w).registry := by
  unfold handleConnectCommand
  split
  · exact steps_same (registry_sendResult ..)
  · dsimp only
    split
    · exact steps_same (registry_sendResult ..)
    · exact steps_connectRequest hc hstate hdr _ _

theorem registry_handlePairRecord (env : Env) (w : World) (c : Ptr) (hdr : UsbmuxdHeader) (command : Plist) :
    (handleReadPairRecordCommand env c hdr command w).registry = w.registry ∧
      (handleSavePairRecordCommand env c hdr command w).registry = w.registry ∧
      (handleDeletePairRecordCommand env c hdr command w).registry = w.registry := by
  refine ⟨?_, ?_, ?_⟩
  · unfold handleReadPairRecordCommand
    split
    · exact registry_emit w rfl
    · unfold sendPairRecord
      dsimp only
      split
      · rw [registry_sendResult, registry_tock]
      · split
        · rw [registry_sendResult, registry_tock]
        · rw [registry_sendPlistPkt, registry_tock]
  · unfold handleSavePairRecordCommand
    split
    · split
      · rw [registry_sendResult, registry_tock]
      · exact registry_sendResult ..
    · exact registry_sendResult ..
  · unfold handleDeletePairRecordCommand
    split
    · rw [registry_sendResult, registry_tock]
    · exact registry_sendResult ..

theorem phases_withLocation {act : UInt32 → World → World} (hdr : UsbmuxdHeader) (command : Plist)
    (hact : ∀ location, Registry.Phases env.Reliable w.registry (act location w).registry) :
    Registry.Phases env.Reliable w.registry (withLocation env c hdr command act w).registry := by
  unfold withLocation
  split
  · rw [registry_sendResult]
  · rw [registry_sendResult]
    exact hact _

theorem phases_handleClientPlistCommand (h : Steady env w) (hc : c ∈ w.clientList)
    (hstate : (w.clients c).state = .command) (hdr : UsbmuxdHeader) (payload : List UInt8) :
    Registry.Phases env.Reliable w.registry (handleClientPlistCommand env c hdr payload w).registry := by
  have hversion : (w.setClient c fun cl => { cl with protoVersion := 1 }).registry = w.registry :=
    registry_setClient_same w rfl
  have hturns : Turns env w (w.setClient c fun cl => { cl with protoVersion := 1 }) :=
    (ClientBlock.plistVersion c w).one.turns
  have hv : Steady env (w.setClient c fun cl => { cl with protoVersion := 1 }) :=
    h.after (by rw [hversion]) hturns
  have hcv : c ∈ (w.setClient c fun cl => { cl with protoVersion := 1 }).clientList := hc
  have hstatev := (state_eq hversion c).trans hstate
  have hhandled := plistHandled env c hdr payload w
  generalize handleClientPlistCommand env c hdr payload w = u at hhandled ⊢
  generalize (w.setClient c fun cl => { cl with protoVersion := 1 }) = v at hversion hv hcv hstatev hhandled
  rw [← hversion]
  have hsame : ∀ {u : World}, u.registry = v.registry → Registry.Phases env.Reliable v.registry u.registry :=
    fun hu => (steps_same hu).phases
  have hpending : ∀ cmd location, (v.emit (.pending cmd location)).registry = v.registry :=
    fun _ _ => registry_emit v rfl
  cases hhandled with
  | ignored => exact .refl
  | listen => exact (steps_handleListen hcv hstatev hdr).phases
  | connect command => exact (steps_handleConnectCommand hcv hstatev hdr command).phases
  | listDevices => exact hsame ((registry_sendPlistPkt ..).trans (registry_tock v))
  | readBuid => exact hsame ((registry_sendPlistPkt ..).trans (registry_tock v))
  | readPairRecord command => exact hsame (registry_handlePairRecord env v c hdr command).1
  | savePairRecord command => exact hsame (registry_handlePairRecord env v c hdr command).2.1
  | deletePairRecord command => exact hsame (registry_handlePairRecord env v c hdr command).2.2
  | addDevice command => exact phases_withLocation hdr command fun location => hsame (hpending _ location)
  | removeDevice command => exact phases_withLocation hdr command fun location => hsame (hpending _ location)
  | deviceMonitor command =>
    unfold handleDeviceMonitorCommand
    refine phases_withLocation hdr command fun location => ?_
    rw [← hpending]
    refine phases_usbProcess (hv.after (hsame (hpending _ location)) (ClientBlock.note _ v rfl).one.turns)
  | unknown => exact hsame (registry_sendResult ..)

theorem phases_clientCommand (h : Steady env w) (hc : c ∈ w.clientList) (hstate : (w.clients c).state ≠ .connecting2)
    (hconnected : (w.clients c).state ≠ .connected) (buffer : Mem) :
    Registry.Phases env.Reliable w.registry (clientCommand env c buffer w).registry := by
  have hsent : ∀ tag result, (sendResult env c tag result w).1.registry = w.registry :=
    fun tag result => registry_sendResult ..
  unfold clientCommand
  dsimp only
  split
  · split
    · have hs := hsent (UsbmuxdHeader.read buffer).tag resultBadcommand
      have hturns := (traffic_sendResult env c w (UsbmuxdHeader.read buffer).tag resultBadcommand hconnected).turns
      generalize sendResult env c (UsbmuxdHeader.read buffer).tag resultBadcommand w = r at hs hturns ⊢
      have hmem : c ∈ r.1.registry.clientList := by
        rw [hs]
        exact hc
      rw [← hs]
      refine Registry.Steps.phases (steps_closeClient (h.tracked.same hs hturns) hmem ?_ ?_)
      · rwa [state_eq hs]
      · rwa [state_eq hs]
    · exact (steps_same (hsent ..)).phases
  · rename_i hcommand
    replace hcommand := not_not.mp hcommand
    split_ifs
    · exact (steps_same (hsent ..)).phases
    · exact phases_handleClientPlistCommand h hc hcommand _ _
    · exact (steps_handleListen hc hcommand _).phases
    · exact (steps_connectRequest hc hcommand _ _ _).phases
    · exact (steps_same (hsent ..)).phases

theorem phases_runCommand (h : Steady env w) (hc : c ∈ w.clientList) (hstate : (w.clients c).state ≠ .connecting2)
    (hconnected : (w.clients c).state ≠ .connected) (buffer : Mem) :
    Registry.Phases env.Reliable w.registry (runCommand env c buffer w).registry := by
  have hcommand := phases_clientCommand h hc hstate hconnected buffer
  unfold runCommand
  dsimp only
  split
  · rwa [registry_emit _ rfl]
  · rwa [registry_setClient_same _ rfl]

theorem phases_processRecvBody (h : Steady env w) (hc : c ∈ w.clientList) (hconnected : (w.clients c).state ≠ .connected)
    (didRead : Bool) : Registry.Phases env.Reliable w.registry (processRecvBody env c didRead w).registry := by
  unfold processRecvBody
  dsimp only
  split
  · exact (steps_same (registry_emit w rfl)).phases
  · rename_i buffer hbuffer
    have hstate : (w.clients c).state ≠ .connecting2 := by
      have hbuf : (w.registry.clients c).hasIbBuf = true := by simp [hbuffer]
      exact ((h.tracked.ok.entries c hc).buffer.mp hbuf).1
    have hclose := (steps_closeClient h.tracked hc hstate hconnected : Registry.Steps _ none _ _).phases
    have hrecv := registry_recvCommandBytes env c w (readLe32 buffer 0 - (w.clients c).ibSize)
    have hturns : Turns env w _ := (ClientBlock.recv c (readLe32 buffer 0 - (w.clients c).ibSize) w).one.turns
    generalize recvCommandBytes env c (readLe32 buffer 0 - (w.clients c).ibSize) w = r at hrecv hturns ⊢
    have hr : Steady env r.1 := h.after (by rw [hrecv]) hturns
    have hmem : c ∈ r.1.registry.clientList := by
      rw [hrecv]
      exact hc
    have hstate' : (r.1.clients c).state ≠ .connecting2 := by rwa [state_eq hrecv]
    have hconnected' : (r.1.clients c).state ≠ .connected := by rwa [state_eq hrecv]
    split_ifs
    · exact hclose
    · exact hclose
    · exact .refl
    · rw [← hrecv]
      exact (steps_closeClient hr.tracked hmem hstate' hconnected').phases
    · exact (steps_same hrecv).phases
    · rw [← hrecv]
      exact phases_runCommand hr hmem hstate' hconnected' _
    · exact phases_runCommand h hc hstate hconnected buffer

/-- A client that is read from is in order unless it waits for its reply to be sent and has
not sent a whole header before. -/
theorem phases_processRecv (h : Steady env w) (hc : c ∈ w.clientList) (hconnected : (w.clients c).state ≠ .connected)
    (hsafe : (w.clients c).state = .connecting2 → ¬ (w.clients c).ibSize < usbmuxdHeaderSize) :
    Registry.Phases env.Reliable w.registry (processRecv env c w).registry := by
  have hnote : (w.emit (.processRecv c (w.clients c).ibBuf.isSome)).registry = w.registry := registry_emit w rfl
  have hturns : Turns env w (w.emit (.processRecv c (w.clients c).ibBuf.isSome)) := (ClientBlock.note _ w rfl).one.turns
  have hv : Steady env (w.emit (.processRecv c (w.clients c).ibBuf.isSome)) := h.after (by rw [hnote]) hturns
  unfold processRecv
  dsimp only
  rw [← hnote]
  have hclients : (w.emit (.processRecv c (w.clients c).ibBuf.isSome)).clients = w.clients := rfl
  have hcv : c ∈ (w.emit (.processRecv c (w.clients c).ibBuf.isSome)).clientList := hc
  generalize w.emit (.processRecv c (w.clients c).ibBuf.isSome) = v at hv hclients hcv ⊢
  rw [← hclients] at hconnected hsafe ⊢
  split
  · rename_i hsmall
    have hstate : (v.clients c).state ≠ .connecting2 := fun hstate => hsafe hstate hsmall
    have hrecv := registry_recvCommandBytes env c v (usbmuxdHeaderSize - (v.clients c).ibSize)
    have hturns : Turns env v _ := (ClientBlock.recv c (usbmuxdHeaderSize - (v.clients c).ibSize) v).one.turns
    generalize recvCommandBytes env c (usbmuxdHeaderSize - (v.clients c).ibSize) v = r at hrecv hturns ⊢
    have hr : Steady env r.1 := hv.after (by rw [hrecv]) hturns
    have hmem : c ∈ r.1.registry.clientList := by
      rw [hrecv]
      exact hcv
    have hconnected' : (r.1.clients c).state ≠ .connected := by rwa [state_eq hrecv]
    rw [← hrecv]
    split_ifs
    · exact Registry.Steps.phases (steps_closeClient hr.tracked hmem (by rwa [state_eq hrecv]) hconnected')
    · exact .refl
    · exact phases_processRecvBody hr hmem hconnected' true
  · exact phases_processRecvBody hv hcv hconnected false

/-- A client that is written to is in order unless it waits for its reply to be sent and
the send fails. -/
theorem phases_processSend (h : Steady env w) (hc : c ∈ w.clientList) (hconnected : (w.clients c).state ≠ .connected)
    (hsafe : (w.clients c).state = .connecting2 → (w.clients c).obSize = 0 ∨ env.send w.tick ≠ 0) :
    Registry.Phases env.Reliable w.registry (processSend env c w).registry := by
  unfold processSend
  dsimp only
  split
  · exact (steps_same (registry_setClient_same w rfl)).phases
  · rename_i hsome
    have hpos : (w.clients c).obSize.toNat ≠ 0 := fun hzero => hsome (UInt32.toNat_inj.mp hzero)
    split
    · rename_i hsize
      have hstate : (w.clients c).state ≠ .connecting2 := fun hstate => by
        rcases hsafe hstate with hzero | hsend
        · exact hsome hzero
        · omega
      rw [← registry_tock w]
      exact Registry.Steps.phases (steps_closeClient ⟨h.tracked.ok, h.tracked.armed.tock⟩ hc hstate hconnected)
    · have hsent : ∀ bs, (w.tock.emit (.sent c bs)).registry = w.registry := fun bs => registry_emit _ rfl
      rw [registry_setClient, hsent]
      simp only [emit_clients, tock_clients]
      by_cases hreply : min (env.send w.tick) (w.clients c).obSize.toNat = (w.clients c).obSize.toNat ∧
          (w.clients c).state = .connecting2
      · have hentry : ((w.clients c).afterSend (min (env.send w.tick) (w.clients c).obSize.toNat)).entry =
            { w.registry.clients c with state := .connected } := by
          have hquiet := (h.tracked.ok.entries c hc).quiet hreply.2
          simp only [registry_clients, MuxClient.entry] at hquiet
          rw [MuxClient.afterSend, if_pos hreply.1, if_pos hreply.2]
          simpa [MuxClient.entry] using hquiet
        rw [hentry]
        exact Registry.Steps.phases (.single (.reply c hc hreply.2))
      · have hentry : ((w.clients c).afterSend (min (env.send w.tick) (w.clients c).obSize.toNat)).entry =
            (w.clients c).entry := by
          unfold MuxClient.afterSend
          split
          · rename_i hfull
            rw [if_neg fun hstate => hreply ⟨hfull, hstate⟩]
            rfl
          · rfl
        rw [hentry, ← registry_clients, Registry.setClient_same]

end Commands

/-! ### Operations -/

section Operations

variable {env : Env} {w w' : World} {d p c : Ptr} {removing : Option Ptr}

theorem steps_processClientInput (h : Tracked env w) (hl : w.registry.Link d p c) (events : Events) :
    Registry.Steps env.Reliable removing w.registry (processClientInput env p c events w).registry := by
  have hup := registry_clientToDevice env p c w
  have hturns : Armed (clientToDevice env p c w).1 := by
    have hf := ConnFrame.clientToDevice env p c w
    exact h.armed.of_clients (fun _ => rfl) hf.log (fun _ hc => hf.clientList ▸ hc) fun _ hc => hf.clients ▸ hc
  unfold processClientInput
  dsimp only
  split
  · split
    · exact steps_same ((registry_updateConnection ..).trans hup)
    · rw [← hup]
      exact steps_tearDown ⟨hup ▸ h.ok, hturns⟩ (hup.symm ▸ hl)
  · exact steps_same (registry_updateConnection ..)

theorem steps_deviceClientProcess (h : Tracked env w) (id : ℕ) (events : Events) :
    Registry.Steps env.Reliable removing w.registry (deviceClientProcess env id c events w).registry := by
  unfold deviceClientProcess
  split
  · exact .refl
  · rename_i p hp
    obtain ⟨d, hl, -⟩ := w.registry.link_of_lookup hp
    dsimp only
    split
    · have hwrite := registry_deviceToClient env p c w
      have hturns := (traffic_deviceToClient env p c w).turns
      generalize deviceToClient env p c w = r at hwrite hturns ⊢
      have hr := h.same hwrite hturns
      rw [← hwrite] at hl ⊢
      split
      · split
        · have hack : Registry.Steps env.Reliable removing r.1.registry _ := steps_sendTcpAck hr hl
          have hturns' := (traffic_sendTcpAck env p r.1 (hr.not_dead hl)).turns
          split
          · rename_i hsent
            have hsame := registry_sendTcpAck hsent
            exact hack.trans (steps_processClientInput (hr.after hack hturns') (hsame.symm ▸ hl) events)
          · rw [registry_emit _ rfl]
            exact hack
        · exact steps_processClientInput hr hl events
      · exact steps_tearDown hr hl
    · exact steps_processClientInput h hl events

/-- A client dies while the answer to its connect request waits in its reply buffer: its
socket is read before it has sent a whole header, or the reply cannot be sent. -/
def DiesMidConnect (env : Env) (w : World) : Op → Prop
  | .clientReady c events =>
    c ∈ w.clientList ∧ (w.clients c).state = .connecting2 ∧
      (events.pollin = true ∧ (w.clients c).ibSize < usbmuxdHeaderSize ∨
        events.pollin = false ∧ events.pollout = true ∧ (w.clients c).obSize ≠ 0 ∧ env.send w.tick = 0)
  | _ => False

theorem phases_clientReady (h : Steady env w) (hc : c ∈ w.clientList) (events : Events)
    (hsafe : ¬ DiesMidConnect env w (.clientReady c events)) :
    Registry.Phases env.Reliable w.registry (clientReady env c events w).registry := by
  unfold clientReady
  split
  · rename_i hready
    split
    · exact (steps_deviceClientProcess h.tracked _ events).phases
    · rename_i hconnected
      split
      · rename_i hin
        exact phases_processRecv h hc hconnected fun hstate hsmall => hsafe ⟨hc, hstate, .inl ⟨hin, hsmall⟩⟩
      · rename_i hin
        replace hin : events.pollin = false := by simpa using hin
        refine phases_processSend h hc hconnected fun hstate => ?_
        by_contra hno
        rw [not_or, not_not] at hno
        exact hsafe ⟨hc, hstate, .inr ⟨hin, by simpa [hin] using hready, hno.1, hno.2⟩⟩
  · exact .refl

/-- Every operation but the exception is a sequence of the registry's steps. -/
theorem phases_exec (h : Steady env w) (op : Op) (hsafe : ¬ DiesMidConnect env w op) :
    Registry.Phases env.Reliable w.registry (exec env w op).registry := by
  cases op with
  | clientAccept =>
    have hnew : (exec env w .clientAccept).registry = w.registry.newClient := by
      apply Registry.ext
      case clients =>
        funext x
        exact Function.apply_update (fun _ => MuxClient.entry) w.clients w.fresh _ x
      all_goals first | rfl | (funext x; simp [exec, clientAccept]) | simp [exec, clientAccept]
    rw [hnew]
    exact Registry.Steps.phases (.single .newClient)
  | clientReady c events =>
    simp only [exec]
    split
    · rename_i hc
      exact phases_clientReady h hc events hsafe
    · exact .refl
  | usb a => exact phases_usbAction h a
  | acceptSocket u => exact (steps_same (registry_deviceAcceptSocket w u)).phases
  | versionInput d vh =>
    simp only [exec]
    split
    · rename_i hd
      exact (steps_deviceVersionInput h.tracked hd vh).phases
    · exact .refl
  | tcpInput d th payload =>
    simp only [exec]
    split
    · rename_i hd
      exact (steps_deviceTcpInput h.tracked hd.1 th hd.2).phases
    · exact .refl
  | transfer d t =>
    simp only [exec]
    split
    · exact (steps_drain h.tracked ..).phases
    · exact .refl
  | checkTimeouts => exact (steps_deviceCheckTimeouts h.tracked).phases
  | setVisible id => exact (steps_same (registry_deviceSetVisible w id)).phases
  | announce info => exact (steps_same (registry_announceDevice env w info)).phases
  | pairingEvent info event validate =>
    exact (steps_same (registry_clientDevicePairingEvent env w info event validate)).phases
  | preflightFinished id => exact (steps_same (registry_devicePreflightFinished w id)).phases

/-! ### The exception -/

/-- A client that waits for its reply to be sent is released once by its connection, and a
second time by `client_close` itself. -/
theorem registry_closeClient_dies (h : Tracked env w) (hl : w.registry.Link d p c)
    (hstate : (w.clients c).state = .connecting2) : ∃ e e₁ e₂,
    (closeClient env c w).registry = ((w.registry.unlink d p e).dropClient c e₁).dropClient c e₂ := by
  have hlookup : w.registry.lookup (w.clients c).connectDevice c = some p := h.ok.lookup hl
  have hconn : (w.conns p).state = .connected := (h.ok.link_client hl).2.2.connected_iff.mpr (.inl hstate)
  rw [closeClient, callDepth, clientClose_found 3 (.inr hstate) hlookup, registry_releaseClient]
  generalize hu : (w.setClient c fun cl => { cl with state := .dead }) = u
  have hreg : u.registry = w.registry.setClient c (u.clients c).entry := by
    rw [← hu, registry_setClient]
    simp
  have hconns : u.conns = w.conns := by
    rw [← hu]
    rfl
  have hdead : (u.clients c).state = .dead := by
    rw [← hu]
    simp
  have hclosing : (closing env p c u).registry = u.registry.setConn p { u.registry.conns p with state := .dead } :=
    registry_closing
  have hstate' : ((closing env p c u).clients c).state = .dead :=
    (congrArg ClientEntry.state (congrFun (congrArg Registry.clients hclosing) c)).trans hdead
  rw [connectionTeardown_close 2 (by rw [hconns]; exact hl.client) (by rw [hconns]; exact .inl hconn),
    clientClose_release 1 (by rw [hstate']; decide)]
  have hboth : (closing env p c u).registry = (w.registry.setConn p
      { u.registry.conns p with state := .dead }).setClient c (u.clients c).entry := by
    rw [hclosing, hreg]
    rfl
  have hdev : (u.registry.conns p).dev = d := by
    rw [registry_conns, hconns]
    exact h.ok.conn_dev d hl.device p hl.conn
  obtain ⟨e, e₁, hreleased⟩ := registry_release_both hboth hdev
  exact ⟨e, e₁, _, by rw [hreleased]⟩

/-- The exception is a step, and a second release of the client. -/
theorem registry_exec_dies (h : Steady env w) {op : Op} (hdies : DiesMidConnect env w op) : ∃ d p c e e₁ e₂,
    w.registry.Link d p c ∧
      (exec env w op).registry = ((w.registry.unlink d p e).dropClient c e₁).dropClient c e₂ := by
  cases op with
  | clientReady c events =>
    obtain ⟨hc, hstate, hwhy⟩ := hdies
    obtain ⟨d, p, hl⟩ := h.tracked.ok.owned c hc (by simp) (.inl hstate)
    refine ⟨d, p, c, ?_⟩
    have hnotConnected : (w.clients c).state ≠ .connected := by rw [hstate]; decide
    simp only [exec, if_pos hc, clientReady]
    rcases hwhy with ⟨hin, hsmall⟩ | ⟨hin, hout, hsome, hsend⟩
    · have hnone : (w.clients c).ibBuf = none := by
        have hbuf := (h.tracked.ok.entries c hc).buffer.not.mpr fun hb => hb.1 hstate
        simpa using hbuf
      rw [if_pos (.inl hin), if_neg hnotConnected, if_pos hin]
      have hreg : (w.emit (.processRecv c (w.clients c).ibBuf.isSome)).tock.registry = w.registry :=
        (registry_tock _).trans (registry_emit w rfl)
      have hv : Tracked env (w.emit (.processRecv c (w.clients c).ibBuf.isSome)).tock :=
        ⟨hreg ▸ h.tracked.ok, (h.tracked.armed.emit (by simp)).tock⟩
      obtain ⟨e, e₁, e₂, hclosed⟩ := registry_closeClient_dies hv (hreg ▸ hl) hstate
      refine ⟨e, e₁, e₂, hl, ?_⟩
      have hrecv : ∀ len, recvCommandBytes env c len (w.emit (.processRecv c (w.clients c).ibBuf.isSome)) =
          ((w.emit (.processRecv c (w.clients c).ibBuf.isSome)).tock, 0) := by
        intro len
        simp [recvCommandBytes, hnone]
      rw [processRecv]
      simp only [if_pos hsmall, hrecv, if_true]
      rw [hclosed, hreg]
    · rw [if_pos (.inr hout), if_neg hnotConnected, if_neg (by simp [hin]), processSend]
      have hv : Tracked env w.tock := ⟨h.tracked.ok, h.tracked.armed.tock⟩
      obtain ⟨e, e₁, e₂, hclosed⟩ := registry_closeClient_dies hv hl hstate
      refine ⟨e, e₁, e₂, hl, ?_⟩
      simp only [if_neg hsome, hsend, Nat.zero_min, if_true]
      exact hclosed
  | _ => exact hdies.elim

/-! ### Runs -/

theorem Tracked.liveLookups (h : Tracked env w) : LiveLookups w := by
  intro id c p hc hp
  obtain ⟨d, hl, -⟩ := w.registry.link_of_lookup hp
  exact h.usable hl hc

theorem ok_close_twice {T : Registry} {reliable : Prop} (h : T.Ok reliable none) (hl : T.Link d p c) (e : ConnEntry)
    (e₁ e₂ : ClientEntry) : (((T.unlink d p e).dropClient c e₁).dropClient c e₂).Ok reliable none := by
  have hclosed : ((T.unlink d p e).dropClient c e₁).Ok reliable none :=
    h.step (.close d p c e e₁ hl : Registry.Step reliable none T _)
  refine hclosed.dropClient (.inl rfl) (h.client_lt c (h.link_client hl).1) (fun d' p' hl' => ?_) e₂
  have hmem := (hclosed.link_client hl').1
  exact ((SlotTable.mem_remove h.clients_nodup).mp hmem).1 rfl

/-- Every operation leaves the records that are on the lists in order. -/
theorem steady_exec (h : Steady env w) (op : Op) : Steady env (exec env w op) := by
  have hturns : Turns env w _ := turns_exec op h.tracked.liveLookups
  by_cases hdies : DiesMidConnect env w op
  · obtain ⟨d, p, c, e, e₁, e₂, hl, hreg⟩ := registry_exec_dies h hdies
    refine ⟨⟨?_, h.tracked.armed.turns hturns⟩, ?_⟩
    · rw [hreg]
      exact ok_close_twice h.tracked.ok hl e e₁ e₂
    · rw [hreg]
      intro d' hd' hdead
      exact h.settled d' hd' ((w.registry.unlinked_unlink d p e).state d' ▸ hdead)
  · exact h.after (phases_exec h op hdies) hturns

theorem steady_init (env : Env) : Steady env .init := by
  have hnoClient : ∀ c, c ∉ World.init.registry.clientList := SlotTable.not_mem_init capacityStep
  have hnoDev : ∀ d, d ∉ World.init.registry.deviceList := SlotTable.not_mem_init capacityStep
  refine ⟨⟨?_, armed_init⟩, fun d hd => absurd hd (hnoDev d)⟩
  exact {
    clients_nodup := SlotTable.nodup_init _
    devices_nodup := SlotTable.nodup_init _
    conns_nodup := fun d hd => absurd hd (hnoDev d)
    client_lt := fun c hc => absurd hc (hnoClient c)
    client_live := fun c hc => absurd hc (hnoClient c)
    device_lt := fun d hd => absurd hd (hnoDev d)
    device_live := fun d hd => absurd hd (hnoDev d)
    conn_lt := fun d hd => absurd hd (hnoDev d)
    conn_live := fun d hd => absurd hd (hnoDev d)
    unborn := fun _ _ => ⟨rfl, rfl, rfl, rfl⟩
    ids := fun d hd => absurd hd (hnoDev d)
    ids_lt := fun d hd => absurd hd (hnoDev d)
    initialised := fun d hd => absurd hd (hnoDev d)
    conn_dev := fun d hd => absurd hd (hnoDev d)
    partner := fun d hd => absurd hd (hnoDev d)
    unique := fun d _ _ _ _ hl => absurd hl.device (hnoDev d)
    owned := fun c hc => absurd hc (hnoClient c)
    entries := fun c hc => absurd hc (hnoClient c) }

/-- After every run the records that are on the lists are in order. -/
theorem steady_run (env : Env) (ops : List Op) : Steady env (run env ops) :=
  run_induct (steady_init env) (fun _ op h => steady_exec h op) ops

/-- What follows in a run is a sequence of turns. -/
theorem turns_run (env : Env) (ops ops' : List Op) : Turns env (run env ops) (run env (ops ++ ops')) := by
  induction ops' using List.reverseRecOn with
  | nil => rw [List.append_nil]
  | append_singleton ops' op ih =>
    rw [← List.append_assoc, run_append]
    exact ih.trans (turns_exec op (steady_run env _).tracked.liveLookups)

/-- A run without the exception is a sequence of the registry's steps. -/
theorem phases_run {ops : List Op} (h : Along env (fun w op => ¬ DiesMidConnect env w op) ops) :
    Registry.Phases env.Reliable World.init.registry (run env ops).registry := by
  induction ops using List.reverseRecOn with
  | nil => exact .refl
  | append_singleton ops op ih =>
    rw [run_append]
    exact (ih h.init).trans (phases_exec (steady_run env ops) op h.last)

end Operations

end Usbmuxd
