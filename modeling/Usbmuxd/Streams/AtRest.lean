import Usbmuxd.Streams.Settled

/-!
# Between operations every connection is at rest

An operation that works for one connection leaves it settled or frees it, and touches no
other; an operation that works for a client without a connection touches none. So whatever is done
in whatever order, every connection on a list is settled between the operations, and knows of its
device's side what the last segment for its ports has said.

## The model

* `World.heard` — what the log says was last heard for a connection.
* `AtRest` — one connection between operations; `AllAtRest` — all that are on lists.

## What is proved

* `AllAtRest.own` — a step that stays with one connection; `AllAtRest.apart` — one that stays away from
  all of them; `AllAtRest.fewer` — one that only takes connections off the lists.
* `atRest_exec`, `atRest_run` — every operation, and every run.
-/

namespace Usbmuxd

open World Relation

/-! ### What has been heard -/

/-- Take an entry into what has been heard for connection `p` of device `d`, with these ports: the
acknowledgement number and the window of the last segment since the connection was made. -/
def hearing (d p : Ptr) (sport dport : UInt16) (heard : UInt32 × UInt32) : Event → UInt32 × UInt32
  | .start q => if q = p then (0, 0) else heard
  | .tcpInput d' th _ =>
    if d' = d ∧ th.dport = sport ∧ th.sport = dport then (th.ack, th.win.toUInt32 <<< 8) else heard
  | _ => heard

/-- What has last been heard for a connection. -/
def World.heard (w : World) (d p : Ptr) : UInt32 × UInt32 :=
  w.log.foldl (hearing d p (w.conns p).sport (w.conns p).dport) (0, 0)

/-- A connection of a device between operations. -/
structure AtRest (d p c : Ptr) (w : World) : Prop where
  heard : ((w.conns p).rxAck, (w.conns p).rxWin) = w.heard d p
  settled : (w.conns p).state = .connected → Settled p c w

/-- Every connection on a list is at rest. -/
def AllAtRest (w : World) : Prop := ∀ d p c, w.registry.Link d p c → AtRest d p c w

section Steps

variable {env : Env} {w w' : World} {d p c : Ptr} {P C : Ptr → Prop}

/-- Entries that make and look up no connection. -/
theorem heard_grows {kind : Event → Bool} (hkind : ∀ e, kind e = true → e.opens = false) (h : w.Grows kind w')
    (hsport : (w'.conns p).sport = (w.conns p).sport) (hdport : (w'.conns p).dport = (w.conns p).dport) (d : Ptr) :
    w'.heard d p = w.heard d p := by
  obtain ⟨es, hlog, hes⟩ := h
  rw [World.heard, World.heard, hlog, hsport, hdport, List.foldl_append]
  generalize List.foldl (hearing d p (w.conns p).sport (w.conns p).dport) (0, 0) w.log = s
  clear hlog
  induction es generalizing s with
  | nil => rfl
  | cons e es ih =>
    have he : hearing d p (w.conns p).sport (w.conns p).dport s e = s := by
      have hopens := hkind e (hes e List.mem_cons_self)
      cases e <;> simp_all [Event.opens, hearing]
    rw [List.foldl_cons, he]
    exact ih (fun e' he' => hes e' (List.mem_cons_of_mem _ he')) s

theorem Confined.heard (h : Confined P C w w') (hpeer : (w'.conns p).peer = (w.conns p).peer) (d : Ptr) :
    w'.heard d p = w.heard d p := by
  obtain ⟨es, hlog, hes⟩ := h.log
  have hgrows : w.Grows (fun e => !e.opens) w' := ⟨es, hlog, fun e he => by simp [(hes e he).opens]⟩
  exact heard_grows (fun e he => by simpa using he) hgrows (congrArg Peer.sport hpeer) (congrArg Peer.dport hpeer) d

/-- The links that a step keeps away from were there before. -/
theorem Confined.link (h : Confined P C w w') (hl : w'.registry.Link d p c) (hp : ¬ P p) : w.registry.Link d p c := by
  refine ⟨?_, (h.connections d p hp).mp hl.conn, ?_⟩
  · rw [registry_deviceList, ← h.deviceList]
    exact hl.device
  · have hclient : (w'.conns p).client = some c := hl.client
    rw [h.conns p hp] at hclient
    exact hclient

/-- A connection that a step keeps away from stays at rest. -/
theorem Confined.atRest (h : Confined P C w w') (hp : ¬ P p) (hc : ¬ C c) (hrest : AtRest d p c w) : AtRest d p c w' := by
  have hconn := h.conns p hp
  refine ⟨?_, fun hstate => ?_⟩
  · rw [h.heard (by rw [hconn]), hconn]
    exact hrest.heard
  · rw [hconn] at hstate
    exact (hrest.settled hstate).same hconn (by rw [h.clients c hc]) (h.history hp) (h.mail hc)

/-- A step that keeps away from all connections on lists and from their clients. -/
theorem AllAtRest.apart (h : AllAtRest w) (hstep : Confined P C w w')
    (hold : ∀ d p c, w.registry.Link d p c → ¬ C c) (hnew : ∀ d p c, w'.registry.Link d p c → ¬ P p) :
    AllAtRest w' := by
  intro d p c hl
  have hp := hnew d p c hl
  have hl' := hstep.link hl hp
  exact hstep.atRest hp (hold d p c hl') (h d p c hl')

/-- The same, for a step that touches no connection at all. -/
theorem AllAtRest.aside (h : AllAtRest w) (hstep : Confined (fun _ => False) C w w')
    (hold : ∀ d p c, w.registry.Link d p c → ¬ C c) : AllAtRest w' := h.apart hstep hold fun _ _ _ _ => id

/-- A step that stays with one connection and its client, and leaves it at rest or frees it. -/
theorem AllAtRest.own (hrest : ∀ d' p' c', w.registry.Link d' p' c' → p' ≠ p → AtRest d' p' c' w)
    (hheard : ((w.conns p).rxAck, (w.conns p).rxWin) = w.heard d p) (hl : w.registry.Link d p c) (ht : Tracked env w)
    (ht' : Tracked env w') (hstep : Confined (Eq p) (Eq c) w w') (hend : RestsOrGone p c (w.conns p).peer w') :
    AllAtRest w' := by
  intro d' p' c' hl'
  by_cases hp : p' = p
  · subst hp
    have hlive : .freeConn p' ∉ w'.log := List.count_eq_zero.mp (ht'.ok.conn_live d' hl'.device p' hl'.conn)
    obtain ⟨hpeer, hsettled⟩ := hend.resolve_right hlive
    obtain rfl : d' = d :=
      (ht'.ok.conn_dev d' hl'.device p' hl'.conn).symm.trans
        ((congrArg Peer.dev hpeer).trans (ht.ok.conn_dev d hl.device p' hl.conn))
    refine ⟨?_, fun hstate => ?_⟩
    · rw [hstep.heard hpeer, ← hheard]
      exact congrArg₂ Prod.mk (congrArg Peer.rxAck hpeer) (congrArg Peer.rxWin hpeer)
    · have hs := hsettled hstate
      obtain rfl : c = c' := Option.some.inj (hs.client.symm.trans hl'.client)
      exact hs
  · have hold := hstep.link hl' (Ne.symm hp)
    have hc : c ≠ c' := by
      rintro rfl
      exact hp (ht.ok.unique d' p' d p c hold hl)
    exact hstep.atRest (Ne.symm hp) hc (hrest d' p' c' hold hp)

/-- A step that changes no record and only takes connections off the lists. -/
theorem AllAtRest.fewer (h : AllAtRest w) (hconns : w'.conns = w.conns)
    (hface : ∀ c, (w'.clients c).face = (w.clients c).face) {kind : Event → Bool} (hlog : w.Grows kind w')
    (hkind : ∀ e, kind e = true → e.conn? = none ∧ e.mail? = none ∧ e.opens = false)
    (hlinks : ∀ d p c, w'.registry.Link d p c → w.registry.Link d p c) : AllAtRest w' := by
  intro d p c hl
  have hrest := h d p c (hlinks d p c hl)
  refine ⟨?_, fun hstate => ?_⟩
  · rw [heard_grows (fun e he => (hkind e he).2.2) hlog (by rw [hconns]) (by rw [hconns]), hconns]
    exact hrest.heard
  · rw [hconns] at hstate
    exact (hrest.settled hstate).same (by rw [hconns]) (hface c)
      (history_grows (fun e he => (hkind e he).1) hlog p) (mail_grows (fun e he => (hkind e he).2.1) hlog c)

/-- A step that changes nothing of a client that its connection depends on. -/
theorem AllAtRest.setClient (h : AllAtRest w) (c : Ptr) {f : MuxClient → MuxClient}
    (hf : (f (w.clients c)).face = (w.clients c).face) : AllAtRest (w.setClient c f) := by
  have hlog : w.Grows (fun _ => false) (w.setClient c f) := .none rfl
  refine h.fewer rfl (fun c' => ?_) hlog (fun _ he => by cases he) fun _ _ _ hl => ⟨hl.device, hl.conn, hl.client⟩
  by_cases hc : c' = c
  · subst hc
    simpa using hf
  · simp [hc]

/-! ### Segments -/

/-- A segment that is looked up in vain, or comes for another connection. -/
theorem AtRest.call (h : AtRest d p c w) {d' : Ptr} {th : TcpHdr} (payload : List UInt8)
    (hother : ¬ (d' = d ∧ th.dport = (w.conns p).sport ∧ th.sport = (w.conns p).dport)) :
    AtRest d p c (w.emit (.tcpInput d' th payload)) := by
  refine ⟨?_, fun hstate => (h.settled hstate).same rfl rfl ?_ ?_⟩
  · have hheard : (w.emit (.tcpInput d' th payload)).heard d p = w.heard d p := by
      simp only [World.heard, emit_log, List.foldl_append, List.foldl_cons, List.foldl_nil]
      exact if_neg hother
    rw [hheard]
    exact h.heard
  · exact (history_emit ..).trans (History.note_other (by simp [Event.conn?]) _)
  · exact mail_emit_none w rfl c

/-- A world in which connection `p` has heard a segment, and has not acted on it yet. -/
def received (d p : Ptr) (th : TcpHdr) (payload : List UInt8) (w : World) : World :=
  (w.emit (.tcpInput d th payload)).setConn p (·.hear th)

theorem received_conn (d p : Ptr) (th : TcpHdr) (payload : List UInt8) (w : World) :
    (received d p th payload w).conns p = (w.conns p).hear th := by
  rw [received, setConn_conns, Function.update_self]
  rfl

theorem received_history (d p : Ptr) (th : TcpHdr) (payload : List UInt8) (w : World) (q : Ptr) :
    (received d p th payload w).history q = w.history q :=
  (history_emit ..).trans (History.note_other (by simp [Event.conn?]) _)

theorem received_registry (d p : Ptr) (th : TcpHdr) (payload : List UInt8) (w : World) :
    (received d p th payload w).registry = w.registry := (registry_setConn_same _ rfl).trans (registry_emit w rfl)

theorem turns_received (env : Env) (d p : Ptr) (th : TcpHdr) (payload : List UInt8) (w : World) :
    Turns env w (received d p th payload w) := by
  have hcall : Turns env w (w.emit (.tcpInput d th payload)) := (DeviceBlock.call _ w rfl).one.turns
  exact hcall.trans (ConnBlock.hear p th _).one.turns

/-- A segment for connection `p` is heard. -/
theorem heard_received {th : TcpHdr} (payload : List UInt8) (hsport : th.dport = (w.conns p).sport)
    (hdport : th.sport = (w.conns p).dport) :
    (((received d p th payload w).conns p).rxAck, ((received d p th payload w).conns p).rxWin) =
      (received d p th payload w).heard d p := by
  have hheard : (received d p th payload w).heard d p = (th.ack, th.win.toUInt32 <<< 8) := by
    rw [World.heard, received_conn]
    simp only [received, setConn_log, emit_log, List.foldl_append, List.foldl_cons, List.foldl_nil,
      MuxConnection.hear_sport, MuxConnection.hear_dport]
    exact if_pos ⟨rfl, hsport, hdport⟩
  rw [hheard, received_conn]
  rfl

/-- What a segment says about its sender does not unsettle the rest. -/
theorem Settled.receive (h : Settled p c w) (d : Ptr) (th : TcpHdr) (payload : List UInt8) :
    Ready p c (received d p th payload w) := by
  refine ⟨?_, ?_, ?_, ?_⟩
  · rw [received_conn]
    exact h.client
  · rw [received_conn]
    exact h.acked
  · rw [Told, received_history, received_conn]
    exact h.told
  · have hmail : (received d p th payload w).mail c = w.mail c := mail_emit_none w rfl c
    rw [Replying, hmail]
    exact h.reply

/-- The device of a connection on a list is active. -/
theorem Steady.active (h : Steady env w) (hl : w.registry.Link d p c) : (w.devs d).state = .active := by
  cases hstate : (w.devs d).state with
  | active => rfl
  | dead => exact absurd (h.settled d hl.device hstate) (by simp)
  | init =>
    have hnone := (h.tracked.ok.initialised d hl.device).mp hstate
    have hmem := hl.conn
    rw [Registry.connections, hnone] at hmem
    cases hmem

/-- A segment that is not for any connection on a list. -/
theorem AllAtRest.call (h : AllAtRest w) (th : TcpHdr) (payload : List UInt8)
    (hvain : ∀ p c, w.registry.Link d p c → ¬ (th.dport = (w.conns p).sport ∧ th.sport = (w.conns p).dport)) :
    AllAtRest (w.emit (.tcpInput d th payload)) := by
  have hreg : (w.emit (.tcpInput d th payload)).registry = w.registry := registry_emit w rfl
  intro d' p c hl
  rw [hreg] at hl
  refine (h d' p c hl).call payload ?_
  rintro ⟨rfl, hports⟩
  exact hvain p c hl hports

/-- A segment leaves all connections at rest. -/
theorem atRest_deviceTcpInput (h : AllAtRest w) (hs : Steady env w) (hports : Ports w) (hmailed : ∀ c, Mailed c w)
    (hd : d ∈ w.deviceList) (th : TcpHdr) {payload : List UInt8} (hlen : payload.length ≤ devMru.toNat) :
    AllAtRest (deviceTcpInput env d th payload w) := by
  have hcall : Turns env w (w.emit (.tcpInput d th payload)) := (DeviceBlock.call _ w rfl).one.turns
  have hsteps : Registry.Steps env.Reliable none w.registry (deviceTcpInput env d th payload w).registry :=
    steps_deviceTcpInput hs.tracked hd th hlen
  have hend := hs.tracked.after hsteps (hcall.trans (traffic_deviceTcpInput env w d th hlen).turns)
  unfold deviceTcpInput at hend ⊢
  dsimp only at hend ⊢
  split
  · rename_i hidle
    exact h.call th payload fun p c hl _ => hidle (hs.active hl)
  · rename_i hactive
    rw [if_neg hactive] at hend
    split
    · rename_i hnone
      have hvain : AllAtRest (w.emit (.tcpInput d th payload)) := by
        refine h.call th payload fun p c hl ⟨hsport, hdport⟩ => ?_
        have hno := SlotTable.find?_none hnone hl.conn
        simp [hsport, hdport] at hno
      split
      · exact hvain
      · have hrst := hvain.aside (C := fun _ => False) (.sendPacket env d .tcp
          (TcpHdr.bytes ⟨th.dport, th.sport, 0, th.seq, 0x50, thRst, 0, 0, 0⟩) [] _) fun _ _ _ _ => id
        split
        · exact hrst
        · exact hrst.aside (C := fun _ => False) (.emit (Confined.about_fault _) _) fun _ _ _ _ => id
    · rename_i p hfound
      have hmem : p ∈ w.connections d := SlotTable.find?_mem hfound
      obtain ⟨hsport, hdport⟩ : (w.conns p).sport = th.dport ∧ (w.conns p).dport = th.sport := by
        simpa using SlotTable.find?_pred hfound
      obtain ⟨c, hl⟩ := hs.tracked.ok.link_of_mem hd hmem
      simp only [hfound] at hend
      have hfold : (w.emit (.tcpInput d th payload)).setConn p (·.hear th) = received d p th payload w := rfl
      rw [hfold] at hend ⊢
      have hreg := received_registry d p th payload w
      have hturns := turns_received env d p th payload w
      have hothers : ∀ d' p' c', (received d p th payload w).registry.Link d' p' c' → p' ≠ p →
          AtRest d' p' c' (received d p th payload w) := by
        intro d' p' c' hl' hp'
        rw [hreg] at hl'
        have hcalled : AtRest d' p' c' (w.emit (.tcpInput d th payload)) := by
          refine (h d' p' c' hl').call payload ?_
          rintro ⟨rfl, hsport', -⟩
          exact hports.distinct d p hmem p' hl'.conn hp' (hsport'.symm.trans hsport.symm)
        exact Confined.atRest (C := fun _ => False) (.setConn rfl _ _) (Ne.symm hp') id hcalled
      have hheard := heard_received (d := d) payload hsport.symm hdport.symm
      have hready : (w.conns p).state = .connected → Ready p c (received d p th payload w) :=
        fun hstate => ((h d p c hl).settled hstate).receive d th payload
      have hsame : ((received d p th payload w).conns p).state = (w.conns p).state := by rw [received_conn]; rfl
      have hu : Tracked env (received d p th payload w) := hs.tracked.same hreg hturns
      have hmailed' := (hmailed c).turns hturns
      have hlu : (received d p th payload w).registry.Link d p c := hreg.symm ▸ hl
      clear hfold
      rw [← hsame] at hready
      generalize received d p th payload w = u at *
      have hbound := hu.bound hlu
      split
      · rename_i hstate
        simp only [hstate] at hend
        have hnew : .newClient c ∈ u.log := hu.armed.known c (hu.ok.link_client hlu).1
        exact .own hothers hheard hlu hu hend (.connectingInput hbound rfl rfl th)
          (rests_connectingInput env hlu.client hstate hmailed' hnew th)
      · rename_i hstate
        simp only [hstate] at hend
        exact .own hothers hheard hlu hu hend (.connectedInput hbound rfl rfl th payload)
          (rests_connectedInput env (hready hstate) hstate th payload)
      · rename_i hno
        exact .own hothers hheard hlu hu hu (.refl u) (.inl ⟨rfl, fun hstate => absurd hstate hno⟩)

/-! ### Devices -/

/-- A device changes, and no connection comes to its list. -/
theorem AllAtRest.relist (h : AllAtRest w) {f : MuxDevice → MuxDevice}
    (hf : ∀ p ∈ (f (w.devs d)).connections.getD ⟨[]⟩, p ∈ w.connections d) : AllAtRest (w.setDev d f) := by
  have hlog : w.Grows (fun _ => false) (w.setDev d f) := .none rfl
  refine h.fewer rfl (fun _ => rfl) hlog (fun _ he => by cases he) fun d' p c hl => ⟨hl.device, ?_, hl.client⟩
  have hmem : p ∈ (w.setDev d f).connections d' := hl.conn
  by_cases hd : d' = d
  · subst hd
    exact hf p (by simpa [World.connections] using hmem)
  · simpa [World.connections, hd] using hmem

/-- A device changes, but not its list of connections. -/
theorem AllAtRest.setDev (h : AllAtRest w) {f : MuxDevice → MuxDevice}
    (hf : (f (w.devs d)).connections = (w.devs d).connections) : AllAtRest (w.setDev d f) :=
  h.relist fun p hp => by rwa [hf] at hp

theorem AllAtRest.emit (h : AllAtRest w) {e : Event} (he : e.About (fun _ => False) fun _ => False) :
    AllAtRest (w.emit e) := h.aside (.emit he w) fun _ _ _ _ => id

theorem AllAtRest.sendPacket (h : AllAtRest w) (env : Env) (d : Ptr) (proto : MuxProtocol) (header data : List UInt8) :
    AllAtRest (sendPacket env d proto header data w).1 :=
  h.aside (C := fun _ => False) (.sendPacket env d proto header data w) fun _ _ _ _ => id

/-- A device is freed, or leaves its list. -/
theorem AllAtRest.releaseDev (h : AllAtRest w) (d : Ptr) : AllAtRest (releaseDev d w) := by
  have hlog : w.Grows (fun e => e == .freeDev d) (Usbmuxd.releaseDev d w) := .one rfl (beq_self_eq_true _)
  refine h.fewer rfl (fun _ => rfl) hlog (fun e he => ?_)
    fun _ _ _ hl => ⟨SlotTable.mem_of_mem_remove hl.device, hl.conn, hl.client⟩
  rw [eq_of_beq he]
  exact ⟨rfl, rfl, rfl⟩

theorem atRest_deviceVersionInput (h : AllAtRest w) (hs : Steady env w) (hd : d ∈ w.deviceList) (vh : VersionHeader) :
    AllAtRest (deviceVersionInput env d vh w) := by
  have hcall : AllAtRest (w.emit (.versionInput d vh)) := h.emit ⟨by simp [Event.conn?], by simp [Event.mail?], rfl⟩
  unfold deviceVersionInput
  dsimp only
  split
  · exact hcall
  · rename_i hinit
    split
    · exact hcall.releaseDev d
    · have hnone : (w.devs d).connections = none := (hs.tracked.ok.initialised d hd).mp (not_not.mp hinit)
      have hversion : AllAtRest ((w.emit (.versionInput d vh)).setDev d fun dev => { dev with version := vh.major.toNat }) :=
        hcall.setDev rfl
      have hsetup : ∀ v : World, AllAtRest v → (v.devs d).connections = none →
          AllAtRest (if 2 ≤ vh.major then (sendPacket env d .setup [] [0x07] v).1 else v) ∧
            ((if 2 ≤ vh.major then (sendPacket env d .setup [] [0x07] v).1 else v).devs d).connections = none := by
        intro v hv hvnone
        split
        · have hsame := congrFun (congrArg Registry.devs (registry_sendPacket env v d .setup [] [0x07])) d
          exact ⟨hv.sendPacket env d .setup [] [0x07], (congrArg DevEntry.connections hsame).trans hvnone⟩
        · exact ⟨hv, hvnone⟩
      obtain ⟨hv, hvnone⟩ := hsetup _ hversion (by simpa using hnone)
      generalize (if 2 ≤ vh.major then _ else _ : World) = v at hv hvnone ⊢
      have hactive : AllAtRest (v.setDev d fun dev =>
          { dev with state := .active, connections := some (.init capacityStep) }) := by
        exact hv.relist fun p hp => absurd hp (SlotTable.not_mem_init capacityStep p)
      exact (hactive.emit ⟨by simp [Event.conn?], by simp [Event.mail?], rfl⟩).setDev rfl

/-- A new device has no connections. -/
theorem atRest_deviceAdd (h : AllAtRest w) (ht : Tracked env w) (u : UsbDevice) : AllAtRest (deviceAdd env u w) := by
  have halloc : AllAtRest (allocDev u (getNextDeviceId w) w) := by
    have hlog : w.Grows (fun _ => false) (allocDev u (getNextDeviceId w) w) := .none rfl
    refine h.fewer rfl (fun _ => rfl) hlog (fun _ he => by cases he) fun d p c hl => ⟨hl.device, ?_, hl.client⟩
    have hne : d ≠ w.fresh := (ht.ok.device_lt d hl.device).ne
    have hmem : p ∈ (allocDev u (getNextDeviceId w) w).connections d := hl.conn
    simpa [World.connections, hne] using hmem
  have hsent := halloc.sendPacket env w.fresh .version (VersionHeader.bytes ⟨1, 0, 0⟩) []
  have hnone : ((sendPacket env w.fresh .version (VersionHeader.bytes ⟨1, 0, 0⟩) []
      (allocDev u (getNextDeviceId w) w)).1.devs w.fresh).connections = none := by
    have hsame := congrFun (congrArg Registry.devs (registry_sendPacket env (allocDev u (getNextDeviceId w) w) w.fresh
      .version (VersionHeader.bytes ⟨1, 0, 0⟩) [])) w.fresh
    refine (congrArg DevEntry.connections hsame).trans ?_
    simp [MuxDevice.start, MuxDevice.entry]
  unfold deviceAdd
  dsimp only
  generalize sendPacket env w.fresh .version (VersionHeader.bytes ⟨1, 0, 0⟩) []
    (allocDev u (getNextDeviceId w) w) = r at hsent hnone ⊢
  split
  · have hlog : r.1.Grows (fun _ => false) (registerDev w.fresh r.1) := .none rfl
    refine hsent.fewer rfl (fun _ => rfl) hlog (fun _ he => by cases he) fun d p c hl => ⟨?_, hl.conn, hl.client⟩
    have hd : d ∈ (registerDev w.fresh r.1).deviceList := hl.device
    rw [registerDev_deviceList, SlotTable.mem_add] at hd
    refine hd.resolve_left ?_
    rintro rfl
    have hmem : p ∈ r.1.connections w.fresh := hl.conn
    rw [World.connections, hnone] at hmem
    cases hmem
  · exact hsent.emit ⟨by simp [Event.conn?], by simp [Event.mail?], rfl⟩

/-- A client of a connection on a list does not listen. -/
theorem Tracked.not_listening (h : Tracked env w) (hl : w.registry.Link d p c) : (w.clients c).state ≠ .listen := by
  intro hlisten
  have hmatch := (h.ok.link_client hl).2.2
  rcases hmatch.conn_state with hs | hs
  · exact absurd (hlisten.symm.trans (hmatch.connecting_iff.mp hs)) (by decide)
  · rcases hmatch.connected_iff.mp hs with hs | hs <;> exact absurd (hlisten.symm.trans hs) (by decide)

/-- Notifications go to clients that listen. -/
theorem AllAtRest.notify (h : AllAtRest w) (ht : Tracked env w)
    (hstep : Confined (fun _ => False) (fun c => (w.clients c).state = .listen) w w') : AllAtRest w' :=
  h.aside hstep fun _ _ _ hl => ht.not_listening hl

theorem atRest_tearDown (h : AllAtRest w) (ht : Tracked env w) (hl : w.registry.Link d p c) :
    AllAtRest (tearDown env p w) := by
  have hsteps : Registry.Steps env.Reliable none w.registry (tearDown env p w).registry := steps_tearDown ht hl
  exact .own (fun d' p' c' hl' _ => h d' p' c' hl') (h d p c hl).heard hl ht
    (ht.after hsteps (traffic_tearDown env p w).turns) (.tearDown (ht.bound hl) rfl rfl)
    (.inr (tearDown_gone env (ht.not_dead hl)))

/-- The loop of `device_remove`. -/
theorem atRest_tearDownAll (h : AllAtRest w) (ht : Tracked env w) (hd : d ∈ w.deviceList) :
    AllAtRest (tearDownAll env d w) := by
  refine (SlotTable.forEach_induct (P := fun v => AllAtRest v ∧ Tracked env v ∧ d ∈ v.deviceList) ?_ _ _ _
    ⟨h, ht, hd⟩).1
  rintro p v hp ⟨hv, htv, hdv⟩
  obtain ⟨c, hl⟩ := htv.ok.link_of_mem hdv hp
  have hsteps : Registry.Steps env.Reliable none v.registry (tearDown env p v).registry := steps_tearDown htv hl
  refine ⟨atRest_tearDown hv htv hl, htv.after hsteps (traffic_tearDown env p v).turns, ?_⟩
  show d ∈ (tearDown env p v).registry.deviceList
  rw [(unlinked_tearDown htv hl).deviceList]
  exact hdv

/-- A device that goes takes its connections with it. -/
theorem atRest_deviceRemove (h : AllAtRest w) (hs : Steady env w) (u : UsbDevice) : AllAtRest (deviceRemove env u w) := by
  unfold deviceRemove
  split
  · exact h
  · rename_i d hfound
    have hd : d ∈ w.deviceList := SlotTable.find?_mem hfound
    refine AllAtRest.releaseDev ?_ d
    split
    · rename_i hactive
      have hdying := h.setDev (d := d) (f := fun dev => { dev with state := .dead }) rfl
      have htv := hs.tracked.after (steps_dying hs.tracked hd hactive) (DeviceBlock.dead d w).one.turns
      have hdv : d ∈ (w.setDev d fun dev => { dev with state := .dead }).deviceList := hd
      unfold disconnectDevice
      dsimp only
      generalize (w.setDev d fun dev => { dev with state := .dead }) = v at hdying htv hdv ⊢
      have hsweep : Sweep env (some d) d v (v.connections d).capacity (tearDownAll env d v) := sweep_tearDownAll htv hdv
      have hu := atRest_tearDownAll hdying htv hdv
      have htu := htv.after hsweep.steps hsweep.turns
      generalize tearDownAll env d v = u at hu htu ⊢
      generalize hnote : (if (u.devs d).visible = true then clientDeviceRemove env (u.devs d).id u
        else clientDeviceRemovedDuringAdd env (u.deviceInfo env d) u) = t
      have ht : AllAtRest t := by
        rw [← hnote]
        split
        · exact hu.notify htu (.clientDeviceRemove env _ u)
        · exact hu.notify htu (.clientDevicePairingEvent env _ _ _ u)
      exact ht.relist fun p hp => by cases hp
    · exact h

theorem atRest_usbAction (h : AllAtRest w) (hs : Steady env w) (a : UsbAction) : AllAtRest (usbAction env a w) := by
  cases a with
  | deviceAdd u => exact atRest_deviceAdd h hs.tracked u
  | deviceRemove u => exact atRest_deviceRemove h hs u
  | deviceAddFailed u => exact h.notify hs.tracked (Confined.clientDevicePairingEvent env
      ⟨0, (env.usbInfo u).1, (env.usbInfo u).2.1, (env.usbInfo u).2.2⟩ .removedDuringAdd false w)
  | errorAlreadyExists info => exact h.notify hs.tracked (Confined.clientDevicePairingEvent env info
      .errorDeviceAlreadyExists false w)

theorem atRest_usbProcess (h : AllAtRest w) (hs : Steady env w) : AllAtRest (usbProcess env w) := by
  have htock : AllAtRest w.tock := h.aside (C := fun _ => False) (.tock w) fun _ _ _ _ => id
  have hstock : Steady env w.tock := ⟨⟨hs.tracked.ok, hs.tracked.armed.tock⟩, hs.settled⟩
  unfold usbProcess
  generalize w.tock = v at htock hstock ⊢
  induction env.usbProcess w.tick generalizing v with
  | nil => exact htock
  | cons a rest ih =>
    exact ih _ (atRest_usbAction htock hstock a)
      (hstock.after (phases_usbAction hstock a) (work_usbAction env v a).turns)

/-- Acknowledgements that are overdue. -/
theorem atRest_deviceCheckTimeouts (h : AllAtRest w) (ht : Tracked env w) : AllAtRest (deviceCheckTimeouts env w) := by
  have htock : AllAtRest w.tock := h.aside (C := fun _ => False) (.tock w) fun _ _ _ _ => id
  refine (SlotTable.forEach_induct (P := fun v => AllAtRest v ∧ Tracked env v) ?_ _ _ _
    ⟨htock, ⟨ht.ok, ht.armed.tock⟩⟩).1
  intro d v hd hv
  split
  · refine (SlotTable.forEach_induct (P := fun u => (AllAtRest u ∧ Tracked env u) ∧ d ∈ u.deviceList) ?_ _ _ _
      ⟨hv, hd⟩).1
    rintro p u hp ⟨⟨hu, htu⟩, hdu⟩
    split
    · rename_i hoverdue
      obtain ⟨c, hl⟩ := htu.ok.link_of_mem hdu hp
      have hstate : (u.conns p).state = .connected := by
        simp only [MuxConnection.ackOverdue, Bool.and_eq_true, beq_iff_eq] at hoverdue
        exact hoverdue.1.1
      have hsteps : Registry.Steps env.Reliable none u.registry (sendTcpAck env p u).1.registry := steps_sendTcpAck htu hl
      have hturns := traffic_sendTcpAck env p u (htu.not_dead hl)
      have hend := htu.after hsteps hturns.turns
      refine ⟨⟨?_, hend⟩, ?_⟩
      · exact .own (fun d' p' c' hl' _ => hu d' p' c' hl') (hu d p c hl).heard hl htu hend
          (.sendTcpAck (htu.bound hl) rfl rfl)
          (rests_sendTcpAck env hl.client (htu.not_dead hl) ((hu d p c hl).settled hstate).reply)
      · rw [hturns.devices.deviceList]
        exact hdu
    · exact ⟨⟨hu, htu⟩, hdu⟩
  · exact hv

end Steps

/-! ### Transfers -/

/-- Everything that holds between operations. -/
structure Calm (env : Env) (w : World) : Prop where
  steady : Steady env w
  ports : Ports w
  mailed : ∀ c, Mailed c w
  credit : ∀ p, Credit (w.channel p)
  rest : AllAtRest w

section Calm

variable {env : Env} {w w' : World} {d p c : Ptr}

theorem Calm.after (h : Calm env w) (hp : Registry.Phases env.Reliable w.registry w'.registry) (ht : Turns env w w')
    (hrest : AllAtRest w') : Calm env w' :=
  ⟨h.steady.after hp ht, h.ports.turns ht, fun c => (h.mailed c).turns ht, fun p => (h.credit p).turns (ht.channel p),
    hrest⟩

theorem Calm.same (h : Calm env w) (hreg : w'.registry = w.registry) (ht : Turns env w w') (hrest : AllAtRest w') :
    Calm env w' := h.after (by rw [hreg]) ht hrest

theorem calm_deviceDataInput (h : Calm env w) (u : UsbDevice) (buffer : Mem) (length : UInt32) :
    Calm env (deviceDataInput env u buffer length w).1 := by
  refine h.after (steps_deviceDataInput h.steady.tracked u buffer length).phases
    (work_deviceDataInput env w u buffer length).turns ?_
  unfold deviceDataInput
  split
  · exact h.rest
  · rename_i d hfound
    have hd : d ∈ w.deviceList := SlotTable.find?_mem hfound
    dsimp only
    have hreg : (w.setDev d (·.setFraming (decode (w.devs d).framing buffer length).framing)).registry = w.registry :=
      registry_setDev_same _ rfl
    have hv : Calm env (w.setDev d (·.setFraming (decode (w.devs d).framing buffer length).framing)) :=
      h.same hreg (DeviceBlock.framing d _ w).one.turns (h.rest.setDev rfl)
    split
    · exact hv.rest
    · rename_i call hcall
      cases call with
      | version vh => exact atRest_deviceVersionInput hv.rest hv.steady hd vh
      | control payload => exact hv.rest.emit ⟨by simp [Event.conn?], by simp [Event.mail?], rfl⟩
      | tcp th payload =>
        exact atRest_deviceTcpInput hv.rest hv.steady hv.ports hv.mailed hd th (decode_fits _ _ _ hcall)

theorem atRest_drain (h : Calm env w) (u : UsbDevice) (n : ℕ) (buffer : Mem) (size : UInt32) :
    AllAtRest (drain env d u n buffer size w) := by
  induction n generalizing buffer size w with
  | zero => exact h.rest.emit ⟨by simp [Event.conn?], by simp [Event.mail?], rfl⟩
  | succ n ih =>
    unfold drain
    split
    · exact h.rest
    · have hinput := calm_deviceDataInput h u buffer size
      dsimp only
      split
      · exact hinput.rest.emit (Confined.about_fault _)
      · split
        · exact hinput.rest
        · exact ih hinput _ _

/-! ### Commands -/

/-- A client in command mode has no connection on a list. -/
theorem Tracked.unlinked (h : Tracked env w) (hstate : (w.clients c).state = .command) (d p : Ptr) :
    ¬ w.registry.Link d p c := by
  intro hl
  have hmatch := (h.ok.link_client hl).2.2
  rcases hmatch.conn_state with hs | hs
  · exact absurd (hstate.symm.trans (hmatch.connecting_iff.mp hs)) (by decide)
  · rcases hmatch.connected_iff.mp hs with hs | hs <;> exact absurd (hstate.symm.trans hs) (by decide)

/-- What is done for a client without a connection. -/
theorem AllAtRest.alone (h : AllAtRest w) (hno : ∀ d p, ¬ w.registry.Link d p c)
    (hstep : Confined (fun _ => False) (Eq c) w w') : AllAtRest w' := by
  refine h.aside hstep fun d p c' hl hc => ?_
  subst hc
  exact hno d p hl

/-- A connection is made, and is not on a list yet. -/
theorem AllAtRest.allocConn (h : AllAtRest w) (ht : Tracked env w) (conn : MuxConnection) :
    AllAtRest (allocConn conn w) := by
  intro d p c hl
  have hne : p ≠ w.fresh := (ht.ok.conn_lt d hl.device p hl.conn).ne
  have hconn : (Usbmuxd.allocConn conn w).conns p = w.conns p := by simp [hne]
  have hl' : w.registry.Link d p c := by
    refine ⟨hl.device, hl.conn, ?_⟩
    have hclient : ((Usbmuxd.allocConn conn w).conns p).client = some c := hl.client
    rwa [hconn] at hclient
  have hrest := h d p c hl'
  refine ⟨?_, fun hstate => ?_⟩
  · have hheard : (Usbmuxd.allocConn conn w).heard d p = w.heard d p := by
      rw [World.heard, hconn, allocConn_log, List.foldl_append]
      exact if_neg hne.symm
    rw [hheard, hconn]
    exact hrest.heard
  · rw [hconn] at hstate
    have hhist : (Usbmuxd.allocConn conn w).history p = w.history p := by
      rw [history_append (allocConn_log ..)]
      exact History.note_other (by simpa [Event.conn?] using hne.symm) _
    have hmail : (Usbmuxd.allocConn conn w).mail c = w.mail c := mail_emit_none w (e := .start w.fresh) rfl c
    exact (hrest.settled hstate).same hconn rfl hhist hmail

/-- A connection that has not been answered is put on the list. -/
theorem AllAtRest.registerConn (h : AllAtRest w) (hstate : (w.conns p).state = .connecting)
    (hheard : ((w.conns p).rxAck, (w.conns p).rxWin) = w.heard d p) (hdev : ∀ d', p ∉ w.connections d') :
    AllAtRest (Usbmuxd.registerConn d p w) := by
  have hstep : Confined (Eq p) (fun _ => False) w (Usbmuxd.registerConn d p w) := by
    refine .setDev rfl fun q hq => ?_
    cases hconns : (w.devs d).connections with
    | none => simp [World.connections, hconns]
    | some t => simp [World.connections, hconns, SlotTable.mem_add, Ne.symm hq]
  intro d' q c hl
  by_cases hq : p = q
  · subst hq
    have hd : d' = d := by
      by_contra hne
      refine hdev d' ?_
      have hmem : p ∈ (Usbmuxd.registerConn d p w).connections d' := hl.conn
      simpa [Usbmuxd.registerConn, World.connections, hne] using hmem
    subst hd
    exact ⟨hheard, fun hs => absurd (hstate.symm.trans hs) (by decide)⟩
  · exact hstep.atRest hq id (h d' q c (hstep.link hl hq))

/-- A new connection waits for its answer, and has heard nothing yet. -/
theorem atRest_deviceStartConnect (h : Calm env w) (id : ℕ) (port : UInt16) (c : Ptr) :
    AllAtRest (deviceStartConnect env id port c w).1 := by
  unfold deviceStartConnect
  split
  · exact h.rest
  · rename_i d hfound
    split
    · exact h.rest.emit (Confined.about_fault _)
    · split
      · exact h.rest.emit ⟨by simp [Event.conn?], by simp [Event.mail?], rfl⟩
      · rename_i sport next _
        have hv : Calm env (w.setDev d fun dev => { dev with nextSport := next }) :=
          h.same (registry_setDev_same _ rfl) (ConnBlock.nextSport d next w).one.turns (h.rest.setDev rfl)
        dsimp only
        generalize (w.setDev d fun dev => { dev with nextSport := next }) = v at hv ⊢
        split
        · exact hv.rest
        · have halloc := hv.rest.allocConn hv.steady.tracked (.start d c sport port)
          have hconn : (allocConn (.start d c sport port) v).conns v.fresh = .start d c sport port := by simp
          have hunlisted : ∀ d', v.fresh ∉ v.connections d' := fun d' hmem =>
            absurd (hv.ports.born _ (hv.ports.started d' _ hmem)) (lt_irrefl _)
          have hstep : Confined (Eq v.fresh) (fun _ => False) (allocConn (.start d c sport port) v)
              (sendTcp env v.fresh thSyn [] (allocConn (.start d c sport port) v)).1 := .sendTcp rfl env thSyn [] _
          have hlists : ∀ d', (sendTcp env v.fresh thSyn [] (allocConn (.start d c sport port) v)).1.connections d' =
              v.connections d' := fun d' => sendTcp_connections env _ _ d' thSyn []
          have hpeer := sendTcp_peer env v.fresh thSyn [] (allocConn (.start d c sport port) v)
          have hstate := sendTcp_state env v.fresh (allocConn (.start d c sport port) v) v.fresh thSyn []
          have hheard := hstep.heard hpeer d
          rw [hconn] at hpeer hstate
          have hfresh : (allocConn (.start d c sport port) v).heard d v.fresh = (0, 0) := by
            rw [World.heard, allocConn_log, List.foldl_append]
            exact if_pos rfl
          have hsent : AllAtRest (sendTcp env v.fresh thSyn [] (allocConn (.start d c sport port) v)).1 := by
            refine halloc.apart hstep (fun _ _ _ _ hno => hno) fun d' p c' hl hp => ?_
            subst hp
            have hmem := hl.conn
            rw [registry_connections, hlists d'] at hmem
            exact hunlisted d' hmem
          generalize sendTcp env v.fresh thSyn [] (allocConn (.start d c sport port) v) = r at *
          split
          · refine hsent.registerConn hstate ?_ fun d' => (hlists d').symm ▸ hunlisted d'
            rw [hheard, hfresh]
            exact congrArg₂ Prod.mk (congrArg Peer.rxAck hpeer) (congrArg Peer.rxWin hpeer)
          · refine hsent.apart (C := fun _ => False) (.emit (P := Eq v.fresh) ⟨fun q hq => by simpa [Event.conn?] using hq,
              by simp [Event.mail?], rfl⟩ _) (fun _ _ _ _ hno => hno) fun d' p c' hl hp => ?_
            subst hp
            exact hunlisted d' (hlists d' ▸ hl.conn)

/-- A client changes whose connection is not established. -/
theorem AllAtRest.setClient_waiting (h : AllAtRest w) {f : MuxClient → MuxClient}
    (hwaits : ∀ d p, (w.setClient c f).registry.Link d p c → (w.conns p).state ≠ .connected) :
    AllAtRest (w.setClient c f) := by
  intro d p c' hl
  have hrest := h d p c' ⟨hl.device, hl.conn, hl.client⟩
  by_cases hc : c' = c
  · subst hc
    exact ⟨hrest.heard, fun hs => absurd hs (hwaits d p hl)⟩
  · exact ⟨hrest.heard, fun hs => (hrest.settled hs).same rfl (by simp [hc]) rfl rfl⟩

theorem Calm.sendResult (h : Calm env w) (hstate : (w.clients c).state = .command) (tag result : UInt32) :
    AllAtRest (sendResult env c tag result w).1 :=
  h.rest.alone (h.steady.tracked.unlinked hstate) (.sendResult rfl env tag result w)

theorem atRest_connectRequest (h : Calm env w) (hc : c ∈ w.clientList) (hstate : (w.clients c).state = .command)
    (hdr : UsbmuxdHeader) (id : ℕ) (port : UInt16) : AllAtRest (connectRequest env c hdr id port w) := by
  have hstart := atRest_deviceStartConnect h id port c
  have hclients := deviceStartConnect_clients env c w id port
  have hend : Tracked env (connectRequest env c hdr id port w) := by
    have hsteps : Registry.Steps env.Reliable none w.registry (connectRequest env c hdr id port w).registry :=
      steps_connectRequest hc hstate hdr id port
    exact h.steady.tracked.after hsteps (talks_connectRequest env c w hdr id port hstate).turns
  have hturns := (traffic_deviceStartConnect env c w id port).turns
  unfold connectRequest at hend ⊢
  dsimp only at hend ⊢
  split
  · rename_i res hres
    have hsteps : Registry.Steps env.Reliable none w.registry (deviceStartConnect env id port c w).1.registry := by
      rcases registry_deviceStartConnect env w c id port with ⟨_, _, hsteps⟩ | ⟨hnone, _⟩
      · exact hsteps
      · rw [hnone] at hres
        cases hres
    exact (h.after hsteps.phases hturns hstart).sendResult (by rw [hclients]; exact hstate) hdr.tag res
  · rename_i hres
    simp only [hres] at hend
    refine hstart.setClient_waiting fun d p hl hs => ?_
    have hmatch := (hend.ok.link_client hl).2.2
    have hone := hmatch.connected_iff.mp hs
    simp [MuxClient.entry] at hone

theorem atRest_handleConnectCommand (h : Calm env w) (hc : c ∈ w.clientList)
    (hstate : (w.clients c).state = .command) (hdr : UsbmuxdHeader) (command : Plist) :
    AllAtRest (handleConnectCommand env c hdr command w) := by
  unfold handleConnectCommand
  split
  · exact h.sendResult hstate _ _
  · dsimp only
    split
    · exact h.sendResult hstate _ _
    · exact atRest_connectRequest h hc hstate hdr _ _

/-- A command about the device at a location. -/
theorem atRest_withLocation (h : Calm env w) (hstate : (w.clients c).state = .command) (hdr : UsbmuxdHeader)
    (command : Plist) {act : UInt32 → World → World} (hact : ∀ location, Calm env (act location w))
    (hkeeps : ∀ location, ((act location w).clients c).state = .command) :
    AllAtRest (withLocation env c hdr command act w) := by
  unfold withLocation
  split
  · exact h.sendResult hstate _ _
  · exact (hact _).sendResult (hkeeps _) _ _

theorem Calm.pending (h : Calm env w) (cmd : PendingCommand) (location : UInt32) :
    Calm env (w.emit (.pending cmd location)) :=
  h.same (registry_emit w rfl) (ClientBlock.note _ w rfl).one.turns (h.rest.emit (Confined.about_note rfl))

theorem calm_usbProcess (h : Calm env w) : Calm env (usbProcess env w) :=
  h.after (phases_usbProcess h.steady) (work_usbProcess env w).turns (atRest_usbProcess h.rest h.steady)

theorem atRest_handleClientPlistCommand (h : Calm env w) (hc : c ∈ w.clientList)
    (hstate : (w.clients c).state = .command) (hdr : UsbmuxdHeader) (payload : List UInt8) :
    AllAtRest (handleClientPlistCommand env c hdr payload w) := by
  have hreg : (w.setClient c fun cl => { cl with protoVersion := 1 }).registry = w.registry :=
    registry_setClient_same _ rfl
  have hv : Calm env (w.setClient c fun cl => { cl with protoVersion := 1 }) :=
    h.same hreg (ClientBlock.plistVersion c w).one.turns (h.rest.setClient c rfl)
  have hcv : c ∈ (w.setClient c fun cl => { cl with protoVersion := 1 }).clientList := hc
  have hsv : ((w.setClient c fun cl => { cl with protoVersion := 1 }).clients c).state = .command := by simpa using hstate
  have hhandled := plistHandled env c hdr payload w
  generalize handleClientPlistCommand env c hdr payload w = u at hhandled ⊢
  generalize (w.setClient c fun cl => { cl with protoVersion := 1 }) = v at hv hcv hsv hhandled
  have hno := hv.steady.tracked.unlinked hsv
  cases hhandled with
  | ignored => exact hv.rest
  | listen => exact hv.rest.alone hno (.handleListen rfl env hdr v)
  | connect command => exact atRest_handleConnectCommand hv hcv hsv hdr command
  | listDevices => exact hv.rest.alone hno (.sendDeviceList rfl env hdr.tag v)
  | readBuid => exact hv.rest.alone hno (.sendSystemBuid rfl env hdr.tag v)
  | readPairRecord command => exact hv.rest.alone hno (.handleReadPairRecordCommand rfl env hdr command v)
  | savePairRecord command => exact hv.rest.alone hno (.handleSavePairRecordCommand rfl env hdr command v)
  | deletePairRecord command => exact hv.rest.alone hno (.handleDeletePairRecordCommand rfl env hdr command v)
  | addDevice command => exact atRest_withLocation hv hsv hdr command (fun _ => hv.pending _ _) fun _ => hsv
  | removeDevice command => exact atRest_withLocation hv hsv hdr command (fun _ => hv.pending _ _) fun _ => hsv
  | deviceMonitor command =>
    refine atRest_withLocation hv hsv hdr command (fun _ => calm_usbProcess (hv.pending _ _)) fun location => ?_
    exact (work_usbProcess env _).keeps_command hsv
  | unknown => exact hv.sendResult hsv _ _

theorem atRest_clientCommand (h : Calm env w) (hc : c ∈ w.clientList) (hstate : (w.clients c).state = .command)
    (buffer : Mem) : AllAtRest (clientCommand env c buffer w) := by
  unfold clientCommand
  dsimp only
  rw [if_neg (not_not.mpr hstate)]
  split_ifs
  · exact h.sendResult hstate _ _
  · exact atRest_handleClientPlistCommand h hc hstate _ _
  · exact h.rest.alone (h.steady.tracked.unlinked hstate) (.handleListen rfl env _ w)
  · exact atRest_connectRequest h hc hstate _ _ _
  · exact h.sendResult hstate _ _

/-! ### Sockets of clients -/

/-- A command that is complete is carried out. -/
theorem atRest_runCommand (h : Calm env w) (hc : c ∈ w.clientList) (hstate : (w.clients c).state = .command)
    (buffer : Mem) : AllAtRest (runCommand env c buffer w) := by
  have hcommand := atRest_clientCommand h hc hstate buffer
  unfold runCommand
  dsimp only
  split
  · exact hcommand.emit (Confined.about_fault _)
  · exact hcommand.setClient c rfl

/-- No lookup for a client without a connection finds one. -/
theorem lookup_unlinked (hno : ∀ d p, ¬ w.registry.Link d p c) (p : Ptr) :
    w.registry.lookup (w.clients c).connectDevice c ≠ some p := fun hfound => by
  obtain ⟨d, hl, -⟩ := w.registry.link_of_lookup hfound
  exact hno d p hl

theorem atRest_processRecv_command (h : Calm env w) (hc : c ∈ w.clientList) (hstate : (w.clients c).state = .command) :
    AllAtRest (processRecv env c w) := by
  have hnote : ClientBlock env w (w.emit (.processRecv c (w.clients c).ibBuf.isSome)) := .note _ w rfl
  refine processRecv_induct (Q := fun v => Calm env v ∧ c ∈ v.clientList ∧ (v.clients c).state = .command)
    ⟨h.same (registry_emit w rfl) hnote.one.turns (h.rest.emit (Confined.about_note rfl)), hc, hstate⟩
    ?_ (fun v hv => hv.1.rest) (fun v hv => hv.1.rest.emit (Confined.about_fault _)) ?_
    fun v buffer hv => atRest_runCommand hv.1 hv.2.1 hv.2.2 buffer
  · rintro v len ⟨hv, hcv, hsv⟩
    have hreg := registry_recvCommandBytes env c v len
    have hrest := hv.rest.alone (hv.steady.tracked.unlinked hsv) (.recvCommandBytes rfl env len v)
    refine ⟨hv.same hreg (ClientBlock.recv c len v).one.turns hrest, ?_, (state_eq hreg c).trans hsv⟩
    rw [← registry_clientList, hreg]
    exact hcv
  · rintro v ⟨hv, -, hsv⟩
    have hno := hv.steady.tracked.unlinked hsv
    exact hv.rest.alone hno (.closeClient env rfl fun p hfound => lookup_unlinked hno p hfound)

/-- A client without a connection is read from or written to. -/
theorem AllAtRest.served_alone (h : AllAtRest w) (hno : ∀ d p, ¬ w.registry.Link d p c) :
    ((w.clients c).state ≠ .command → AllAtRest (processRecv env c w)) ∧ AllAtRest (processSend env c w) :=
  ⟨fun hstate => h.alone hno (.processRecv rfl (fun p hfound => lookup_unlinked hno p hfound) hstate),
    h.alone hno (.processSend rfl fun p hfound => lookup_unlinked hno p hfound)⟩

/-- A client that is not in command mode is read from. -/
theorem atRest_processRecv (h : Calm env w) (hc : c ∈ w.clientList) (hstate : (w.clients c).state ≠ .command)
    (hother : (w.clients c).state ≠ .connected) (hend : Tracked env (processRecv env c w)) :
    AllAtRest (processRecv env c w) := by
  by_cases hlinked : ∃ d p, w.registry.Link d p c
  · obtain ⟨d, p, hl⟩ := hlinked
    have hbound := h.steady.tracked.bound hl
    have hstep : Confined (Eq p) (Eq c) w (processRecv env c w) :=
      .processRecv rfl (fun q hfound => (hbound.lookup q hfound).symm) hstate
    refine .own (fun d' p' c' hl' _ => h.rest d' p' c' hl') (h.rest d p c hl).heard hl h.steady.tracked hend hstep ?_
    have hmatch := (h.steady.tracked.ok.link_client hl).2.2
    have hfound : w.registry.lookup (w.clients c).connectDevice c = some p := h.steady.tracked.ok.lookup hl
    have halive := h.steady.tracked.not_dead hl
    rcases hmatch.conn_state with hs | hs
    · exact rests_processRecv_connecting env ⟨.inl (hmatch.connecting_iff.mp hs), hfound, halive⟩ hs
    · have htwo : (w.clients c).state = .connecting2 := (hmatch.connected_iff.mp hs).resolve_right hother
      have hnone : (w.clients c).ibBuf = none := by
        have hbuf := (h.steady.tracked.ok.entries c hc).buffer.not.mpr fun hb => hb.1 htwo
        simpa using hbuf
      exact rests_processRecv_replying env ⟨.inr htwo, hfound, halive⟩ hnone (h.rest d p c hl).settled
  · exact (h.rest.served_alone fun d p hl => hlinked ⟨d, p, hl⟩).1 hstate

/-- A client that is not connected is written to. -/
theorem atRest_processSend (h : Calm env w) (hother : (w.clients c).state ≠ .connected)
    (hend : Tracked env (processSend env c w)) : AllAtRest (processSend env c w) := by
  by_cases hlinked : ∃ d p, w.registry.Link d p c
  · obtain ⟨d, p, hl⟩ := hlinked
    have hbound := h.steady.tracked.bound hl
    have hstep : Confined (Eq p) (Eq c) w (processSend env c w) :=
      .processSend rfl fun q hfound => (hbound.lookup q hfound).symm
    refine .own (fun d' p' c' hl' _ => h.rest d' p' c' hl') (h.rest d p c hl).heard hl h.steady.tracked hend hstep ?_
    have hmatch := (h.steady.tracked.ok.link_client hl).2.2
    refine rests_processSend env ⟨?_, h.steady.tracked.ok.lookup hl, h.steady.tracked.not_dead hl⟩
      (h.rest d p c hl).settled
    rcases hmatch.conn_state with hs | hs
    · exact .inl (hmatch.connecting_iff.mp hs)
    · exact .inr ((hmatch.connected_iff.mp hs).resolve_right hother)
  · exact (h.rest.served_alone fun d p hl => hlinked ⟨d, p, hl⟩).2

/-- A connected client is read from and written to. -/
theorem atRest_deviceClientProcess (h : Calm env w) (hstate : (w.clients c).state = .connected) (events : Events)
    (hend : Tracked env (deviceClientProcess env (w.clients c).connectDevice c events w)) :
    AllAtRest (deviceClientProcess env (w.clients c).connectDevice c events w) := by
  cases hfound : w.registry.lookup (w.clients c).connectDevice c with
  | none =>
    have hget : getMuxConnection w (w.clients c).connectDevice c = none := hfound
    unfold deviceClientProcess
    rw [hget]
    exact h.rest
  | some p =>
    obtain ⟨d, hl, -⟩ := w.registry.link_of_lookup hfound
    have ht := h.steady.tracked
    have hbound := ht.bound hl
    have hconnected : (w.conns p).state = .connected := (ht.ok.link_client hl).2.2.connected_iff.mpr (.inr hstate)
    have hwin : (w.conns p).txWin.toNat ≤ connInbufSize.toNat := by
      have hbounded : (w.conns p).txWin.toNat + (w.conns p).ibSize.toNat ≤ (w.conns p).ibCapacity.toNat :=
        (h.credit p).bounded
      have hcap : (w.conns p).ibCapacity.toNat ≤ 262144 := (h.credit p).capacity_le
      show _ ≤ 262144
      omega
    exact .own (fun d' p' c' hl' _ => h.rest d' p' c' hl') (h.rest d p c hl).heard hl ht hend
      (.deviceClientProcess (fun q hq => by
        obtain rfl := hbound.lookup q hq
        exact ⟨hbound, rfl⟩) rfl events)
      (rests_deviceClientProcess hfound ((h.rest d p c hl).settled hconnected).toReady (ht.not_dead hl) hstate hwin events)

/-! ### Runs -/

/-- A new client has no connection. -/
theorem atRest_clientAccept (h : AllAtRest w) (ht : Tracked env w) : AllAtRest (clientAccept false w) := by
  intro d p c hl
  have hl' : w.registry.Link d p c := ⟨hl.device, hl.conn, hl.client⟩
  have hne : c ≠ w.fresh := (ht.ok.client_lt c (ht.ok.link_client hl').1).ne
  have hclient : (clientAccept false w).clients c = w.clients c := by simp [clientAccept, hne]
  have hlog : w.Grows (fun e => e == .newClient w.fresh) (clientAccept false w) := .one rfl (beq_self_eq_true _)
  refine ⟨?_, fun hstate => ((h d p c hl').settled hstate).same rfl (by rw [hclient]) ?_ ?_⟩
  · rw [heard_grows (fun e he => by rw [eq_of_beq he]; rfl) hlog rfl rfl]
    exact (h d p c hl').heard
  · exact history_grows (fun e he => by rw [eq_of_beq he]; rfl) hlog p
  · exact (mail_emit w (.newClient w.fresh) c).trans (if_neg (by simpa [Event.mail?] using hne.symm))

/-- Every operation leaves all connections at rest. -/
theorem atRest_exec (h : Calm env w) (op : Op) : AllAtRest (exec env w op) := by
  have hend := (steady_exec h.steady op).tracked
  cases op with
  | clientAccept => exact atRest_clientAccept h.rest h.steady.tracked
  | clientReady c events =>
    simp only [exec] at hend ⊢
    split
    · rename_i hc
      rw [if_pos hc] at hend
      unfold clientReady at hend ⊢
      split
      · rename_i hready
        rw [if_pos hready] at hend
        split
        · rename_i hstate
          rw [if_pos hstate] at hend
          exact atRest_deviceClientProcess h hstate events hend
        · rename_i hother
          rw [if_neg hother] at hend
          split
          · rename_i hin
            rw [if_pos hin] at hend
            by_cases hstate : (w.clients c).state = .command
            · exact atRest_processRecv_command h hc hstate
            · exact atRest_processRecv h hc hstate hother hend
          · rename_i hout
            rw [if_neg hout] at hend
            exact atRest_processSend h hother hend
      · exact h.rest
    · exact h.rest
  | usb a => exact atRest_usbAction h.rest h.steady a
  | acceptSocket u =>
    simp only [exec, deviceAcceptSocket]
    split
    · exact h.rest.setDev rfl
    · exact h.rest
  | versionInput d vh =>
    simp only [exec]
    split
    · rename_i hd
      exact atRest_deviceVersionInput h.rest h.steady hd vh
    · exact h.rest
  | tcpInput d th payload =>
    simp only [exec]
    split
    · rename_i hd
      exact atRest_deviceTcpInput h.rest h.steady h.ports h.mailed hd.1 th hd.2
    · exact h.rest
  | transfer d t =>
    simp only [exec]
    split
    · exact atRest_drain h _ _ _ _
    · exact h.rest
  | checkTimeouts => exact atRest_deviceCheckTimeouts h.rest h.steady.tracked
  | setVisible id =>
    simp only [exec, deviceSetVisible]
    split
    · exact h.rest.setDev rfl
    · exact h.rest
  | announce info => exact h.rest.notify h.steady.tracked (.announceDevice env info w)
  | pairingEvent info event validate =>
    exact h.rest.notify h.steady.tracked (.clientDevicePairingEvent env info event validate w)
  | preflightFinished id =>
    simp only [exec, devicePreflightFinished]
    split
    · exact h.rest.setDev rfl
    · exact h.rest

theorem calm_exec (h : Calm env w) (op : Op) : Calm env (exec env w op) := by
  have hturns : Turns env w (exec env w op) := turns_exec op h.steady.tracked.liveLookups
  exact ⟨steady_exec h.steady op, h.ports.turns hturns, fun c => (h.mailed c).turns hturns,
    fun p => (h.credit p).turns (hturns.channel p), atRest_exec h op⟩

theorem calm_init (env : Env) : Calm env .init :=
  ⟨steady_init env, ports_init, mailed_run env [], credit_init, fun d _ _ hl =>
    absurd hl.device (SlotTable.not_mem_init capacityStep d)⟩

/-- After every run every connection on a list is at rest. -/
theorem calm_run (env : Env) (ops : List Op) : Calm env (run env ops) :=
  run_induct (calm_init env) (fun _ op h => calm_exec h op) ops

end Calm

end Usbmuxd
