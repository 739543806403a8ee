import Usbmuxd.Registry.Abstraction
import Mathlib.Logic.Relation

/-!
# What the code is made of

Every function of the model is a sequence of a few kinds of steps: a packet goes out, a
payload is appended to an in-buffer, a message is put in a client's reply buffer. This
module lists the steps once and shows each function to be a sequence of them, so that a
property of every run is proved by looking at each step.

## The model

* `ConnBlock` — the steps on connections, with what the code has checked before it
  takes them; `ClientBlock` — the steps on clients; `DeviceBlock` — the steps on
  devices and their list.
* `Traffic` — a sequence of steps on connections and clients, all that is done while a
  device stays what it is; `Work` — a sequence of any steps.

## What is proved

* `traffic_…`, `work_…` — each function that no client asks for is such a sequence.
* `findSport_free` — a port that is given to a connection is not in use.
-/

namespace Usbmuxd

open World Relation

/-! ### Steps -/

/-- The state changes of a connection other than becoming established. -/
inductive MuxConnState.Becomes : MuxConnState → MuxConnState → Prop where
  | refused : Becomes .connecting .refused
  | dying : Becomes .connected .dying
  | dead (s : MuxConnState) : Becomes s .dead

/-- The in-buffer has room for a payload. -/
def MuxConnection.hasRoom (conn : MuxConnection) (payload : List UInt8) : Prop :=
  ¬ conn.ibCapacity < conn.ibSize + UInt32.ofNat payload.length

/-- A world in which connection `p` has received its `SYN|ACK` and has not answered it yet. -/
def answered (p : Ptr) (w : World) : World := (w.emit (.synAck p)).setConn p (·.handshake)

/-- A step on connections. -/
inductive ConnBlock (env : Env) : World → World → Prop where
  | fault (f : Fault) (w : World) : ConnBlock env w (w.emit (.fault f))
  | outOfFuel (l : FuelLoop) (w : World) : ConnBlock env w (w.emit (.outOfFuel l))
  | tock (w : World) : ConnBlock env w w.tock
  /-- A packet that belongs to no connection. -/
  | packet (d : Ptr) (proto : MuxProtocol) (header data : List UInt8) (w : World) :
      ConnBlock env w (sendPacket env d proto header data w).1
  /-- A segment without data. -/
  | segment (p : Ptr) (flags : UInt8) (w : World) (hstate : (w.conns p).state ≠ .dead) :
      ConnBlock env w (sendTcp env p flags [] w).1
  | start (d c : Ptr) (sport dport : UInt16) (w : World) : ConnBlock env w (allocConn (.start d c sport dport) w)
  | nextSport (d : Ptr) (port : UInt16) (w : World) :
      ConnBlock env w (w.setDev d fun dev => { dev with nextSport := port })
  | register (d p : Ptr) (w : World) (h : .start p ∈ w.log)
      (hsport : ∀ q ∈ w.connections d, q ≠ p → (w.conns q).sport ≠ (w.conns p).sport) :
      ConnBlock env w (registerConn d p w)
  /-- What a segment says about its sender. -/
  | hear (p : Ptr) (th : TcpHdr) (w : World) : ConnBlock env w (w.setConn p (·.hear th))
  /-- A `SYN|ACK` is acknowledged. -/
  | established (p : Ptr) (w : World) (h : (w.conns p).state = .connecting)
      (hok : (sendTcp env p thAck [] (answered p w)).2 = true) :
      ConnBlock env w ((sendTcp env p thAck [] (answered p w)).1.setConn p (·.become .connected))
  /-- A `SYN|ACK` cannot be acknowledged. -/
  | unanswered (p : Ptr) (w : World) (h : (w.conns p).state = .connecting)
      (hfail : (sendTcp env p thAck [] (answered p w)).2 = false) :
      ConnBlock env w (sendTcp env p thAck [] (answered p w)).1
  | state (p : Ptr) (s : MuxConnState) (w : World) (h : (w.conns p).state.Becomes s) :
      ConnBlock env w (w.setConn p (·.become s))
  | orphan (p : Ptr) (w : World) : ConnBlock env w (w.setConn p (·.orphan))
  | accept (p : Ptr) (payload : List UInt8) (w : World) (hstate : (w.conns p).state = .connected)
      (hroom : (w.conns p).hasRoom payload) (hlen : payload.length ≤ devMru.toNat) :
      ConnBlock env w (((w.emit (.accepted p payload)).setConn p (·.append payload)).setConn p (·.refresh))
  | overflow (p : Ptr) (payload : List UInt8) (w : World) (hstate : (w.conns p).state = .connected)
      (hroom : ¬ (w.conns p).hasRoom payload) (hlen : payload.length ≤ devMru.toNat) :
      ConnBlock env w (w.emit (.overflow p payload))
  /-- Bytes of the in-buffer taken by the client. -/
  | deliver (p c : Ptr) (size : ℕ) (w : World) (hpos : 0 < size) (hle : size ≤ (w.conns p).ibSize.toNat)
      (hclient : (w.clients c).state = .connected) :
      ConnBlock env w ((w.tock.emit (.wrote p c ((w.conns p).ibBuf.slice 0 size))).setConn p (·.deliver size))
  /-- Bytes of the in-buffer taken by the client during teardown. -/
  | flush (p c : Ptr) (size : ℕ) (w : World) (hstate : (w.conns p).state = .dead) (hpos : 0 < size)
      (hle : size ≤ (w.conns p).ibSize.toNat) (hclient : (w.clients c).state = .connected) :
      ConnBlock env w ((w.tock.emit (.wrote p c ((w.conns p).ibBuf.slice 0 size))).setConn p (·.consume size))
  | refresh (p : Ptr) (w : World) : ConnBlock env w (w.setConn p (·.refresh))
  | release (p : Ptr) (w : World) : ConnBlock env w (releaseConn p w)
  /-- A connection that could not send its SYN is freed without having been registered. -/
  | free (p : Ptr) (w : World) : ConnBlock env w (w.emit (.freeConn p))

/-- A message to the program's own log, or a notification the client has been queued. -/
def Event.isClientNote : Event → Bool
  | .attached .. | .detached .. | .pairing .. | .processRecv .. | .pending .. => true
  | _ => false

/-- A step on clients. -/
inductive ClientBlock (env : Env) : World → World → Prop where
  | note (e : Event) (w : World) (h : e.isClientNote = true) : ClientBlock env w (w.emit e)
  | accept (w : World) : ClientBlock env w (registerClient w)
  | send (c : Ptr) (tag : UInt32) (msg : MsgType) (payload : List UInt8) (w : World)
      (hstate : (w.clients c).state ≠ .connected) : ClientBlock env w (sendPkt env c tag msg payload w).1
  | setEvents (c : Ptr) (events : Events) (w : World) : ClientBlock env w (clientSetEvents c events w)
  | connecting2 (c : Ptr) (w : World) (h : (w.clients c).state = .connecting1) :
      ClientBlock env w (w.setClient c fun cl =>
        { cl with state := .connecting2, events := ⟨false, true⟩, ibBuf := none })
  | command (c : Ptr) (w : World) (h : (w.clients c).state = .connecting1) :
      ClientBlock env w (w.setClient c fun cl => { cl with state := .command })
  | dead (c : Ptr) (w : World) (h : (w.clients c).state = .connecting1 ∨ (w.clients c).state = .connecting2) :
      ClientBlock env w (w.setClient c fun cl => { cl with state := .dead })
  | plistVersion (c : Ptr) (w : World) : ClientBlock env w (w.setClient c fun cl => { cl with protoVersion := 1 })
  | idle (c : Ptr) (w : World) (h : (w.clients c).obSize = 0) :
      ClientBlock env w (w.setClient c fun cl => { cl with events := { cl.events with pollout := false } })
  /-- Bytes of the reply buffer taken by the client. -/
  | reply (c : Ptr) (size : ℕ) (w : World) (hpos : 0 < size) (hle : size ≤ (w.clients c).obSize.toNat) :
      ClientBlock env w ((w.tock.emit (.sent c (((w.clients c).obBuf.getD default).slice 0 size))).setClient c
        (·.afterSend size))
  | recv (c : Ptr) (len : UInt32) (w : World) : ClientBlock env w (recvCommandBytes env c len w).1
  | done (c : Ptr) (w : World) : ClientBlock env w (w.setClient c fun cl => { cl with ibSize := 0 })
  | release (c : Ptr) (w : World) : ClientBlock env w (releaseClient c w)

/-- The call of a handler. -/
def Event.isCall : Event → Bool
  | .versionInput .. | .controlInput .. | .tcpInput .. => true
  | _ => false

/-- A step on devices. -/
inductive DeviceBlock : World → World → Prop where
  | call (e : Event) (w : World) (h : e.isCall = true) : DeviceBlock w (w.emit e)
  | create (u : UsbDevice) (id : ℕ) (w : World) : DeviceBlock w (allocDev u id w)
  | register (d : Ptr) (w : World) : DeviceBlock w (registerDev d w)
  | free (d : Ptr) (w : World) : DeviceBlock w (w.emit (.freeDev d))
  | release (d : Ptr) (w : World) : DeviceBlock w (releaseDev d w)
  | version (d : Ptr) (v : ℕ) (w : World) : DeviceBlock w (w.setDev d fun dev => { dev with version := v })
  | active (d : Ptr) (w : World) :
      DeviceBlock w (w.setDev d fun dev =>
        { dev with state := .active, connections := some (.init capacityStep) })
  | preflight (id : ℕ) (w : World) : DeviceBlock w (preflightWorkerDeviceAdd id w)
  | running (d : Ptr) (b : Bool) (w : World) :
      DeviceBlock w (w.setDev d fun dev => { dev with isPreflightWorkerRunning := b })
  | framing (d : Ptr) (fr : Framing) (w : World) : DeviceBlock w (w.setDev d (·.setFraming fr))
  | dead (d : Ptr) (w : World) : DeviceBlock w (w.setDev d fun dev => { dev with state := .dead })
  | closed (d : Ptr) (w : World) : DeviceBlock w (w.setDev d fun dev => { dev with connections := some ⟨[]⟩ })
  | visible (d : Ptr) (w : World) : DeviceBlock w (w.setDev d fun dev => { dev with visible := true })
  | socket (d : Ptr) (w : World) : DeviceBlock w (w.setDev d fun dev => { dev with rxDataEventsSocket := true })

/-- A step on connections or clients. -/
inductive TrafficBlock (env : Env) (w w' : World) : Prop where
  | conn (h : ConnBlock env w w')
  | client (h : ClientBlock env w w')

/-- A step. -/
inductive Block (env : Env) (w w' : World) : Prop where
  | traffic (h : TrafficBlock env w w')
  | device (h : DeviceBlock w w')

/-- A sequence of steps on connections and clients. -/
abbrev Traffic (env : Env) : World → World → Prop := ReflTransGen (TrafficBlock env)

/-- A sequence of steps. -/
abbrev Work (env : Env) : World → World → Prop := ReflTransGen (Block env)

section Sequences

variable {env : Env} {w w' : World}

theorem ConnBlock.one (h : ConnBlock env w w') : Traffic env w w' := .single (.conn h)

theorem ClientBlock.one (h : ClientBlock env w w') : Traffic env w w' := .single (.client h)

theorem DeviceBlock.one (h : DeviceBlock w w') : Work env w w' := .single (.device h)

theorem Traffic.work (h : Traffic env w w') : Work env w w' :=
  ReflTransGen.mono (fun _ _ h => Block.traffic h) _ _ h

/-- A loop over a list is a sequence of steps if its body is. -/
theorem forEach_chain {R : World → World → Prop} {tab : World → SlotTable Ptr} {body : Ptr → World → World}
    (hbody : ∀ x w, ReflTransGen R w (body x w)) (n i : ℕ) (w : World) :
    ReflTransGen R w (SlotTable.forEach tab body n i w) :=
  SlotTable.forEach_induct (P := ReflTransGen R w) (fun x s _ h => h.trans (hbody x s)) n i w .refl

end Sequences

/-! ### Clients -/

section Clients

variable (env : Env) (c : Ptr) (w : World)

theorem traffic_sendPlistPkt (tag : UInt32) (plist : Plist) (hstate : (w.clients c).state ≠ .connected) :
    Traffic env w (sendPlistPkt env c tag plist w).1 := by
  unfold sendPlistPkt
  split
  · exact (ConnBlock.tock w).one
  · exact (ConnBlock.tock w).one.trans (ClientBlock.send c tag _ _ w.tock hstate).one

theorem traffic_sendResult (tag result : UInt32) (hstate : (w.clients c).state ≠ .connected) :
    Traffic env w (sendResult env c tag result w).1 := by
  unfold sendResult
  split
  · exact traffic_sendPlistPkt env c w tag _ hstate
  · exact (ClientBlock.send c tag _ _ w hstate).one

theorem traffic_clientNotifyConnect (result : UInt32) : Traffic env w (clientNotifyConnect env c result w).1 := by
  unfold clientNotifyConnect
  split
  · exact .refl
  · rename_i hstate
    replace hstate := not_not.mp hstate
    have h := traffic_sendResult env c w (w.clients c).connectTag result (by rw [hstate]; decide)
    have hstate' := (state_eq (registry_sendResult env c w (w.clients c).connectTag result) c).trans hstate
    dsimp only
    split
    · split
      · exact h.trans (ClientBlock.connecting2 c _ hstate').one
      · exact h.trans (ClientBlock.command c _ hstate').one
    · exact h

theorem traffic_notifyDeviceAdd (info : DeviceInfo) (hstate : (w.clients c).state ≠ .connected) :
    Traffic env w (notifyDeviceAdd env c info w).1 := by
  unfold notifyDeviceAdd
  dsimp only
  generalize hr : (if (w.clients c).protoVersion = 1 then _ else _ : World × Bool) = r
  have h : Traffic env w r.1 := by
    subst hr
    split
    · exact traffic_sendPlistPkt env c w 0 _ hstate
    · exact (ClientBlock.send c 0 _ _ w hstate).one
  split
  · exact h.trans (ClientBlock.note _ _ rfl).one
  · exact h

theorem traffic_notifyDeviceRemove (id : ℕ) (hstate : (w.clients c).state ≠ .connected) :
    Traffic env w (notifyDeviceRemove env c id w).1 := by
  unfold notifyDeviceRemove
  dsimp only
  generalize hr : (if (w.clients c).protoVersion = 1 then _ else _ : World × Bool) = r
  have h : Traffic env w r.1 := by
    subst hr
    split
    · exact traffic_sendPlistPkt env c w 0 _ hstate
    · exact (ClientBlock.send c 0 _ _ w hstate).one
  split
  · exact h.trans (ClientBlock.note _ _ rfl).one
  · exact h

theorem traffic_announceDevice (info : DeviceInfo) : Traffic env w (announceDevice env info w) := by
  refine forEach_chain (fun c w => ?_) _ _ _
  split
  · rename_i hlisten
    exact traffic_notifyDeviceAdd env c w info (by rw [hlisten]; decide)
  · exact .refl

theorem traffic_clientDeviceRemove (id : ℕ) : Traffic env w (clientDeviceRemove env id w) := by
  refine forEach_chain (fun c w => ?_) _ _ _
  split
  · rename_i hlisten
    exact traffic_notifyDeviceRemove env c w id (by rw [hlisten]; decide)
  · exact .refl

theorem traffic_clientDevicePairingEvent (info : DeviceInfo) (event : PairingEvent) (validate : Bool) :
    Traffic env w (clientDevicePairingEvent env info event validate w) := by
  unfold clientDevicePairingEvent
  split
  · refine forEach_chain (fun c w => ?_) _ _ _
    split
    · rename_i hlisten
      have h := traffic_sendPlistPkt env c w 0 (devicePairingEventPlist info event) (by rw [hlisten.1]; decide)
      dsimp only
      split
      · exact h.trans (ClientBlock.note _ _ rfl).one
      · exact h
    · exact .refl
  · exact .refl

end Clients

/-! ### Connections -/

section Connections

variable (env : Env) (p c : Ptr) (w : World)

/-- A failed write uses at most a tick. -/
theorem traffic_clientWrite_none {buffer : Mem} {len : UInt32} (h : (clientWrite env p c buffer len w).2 = 0) :
    Traffic env w (clientWrite env p c buffer len w).1 := by
  unfold clientWrite at h ⊢
  split
  · exact .refl
  · rename_i hst
    rw [if_neg hst] at h
    dsimp only at h ⊢
    split
    · exact (ConnBlock.tock w).one
    · rename_i hsize
      rw [if_neg hsize] at h
      exact absurd h hsize

theorem traffic_flushInBuf (n : ℕ) (hstate : (w.conns p).state = .dead) :
    Traffic env w (flushInBuf env p c n w) := by
  induction n generalizing w with
  | zero => exact (ConnBlock.outOfFuel .flush w).one
  | succ n ih =>
    unfold flushInBuf
    dsimp only
    split
    · rename_i hnone
      exact traffic_clientWrite_none env p c w hnone
    · rename_i hsome
      have hle := clientWrite_size env p c w (w.conns p).ibBuf (w.conns p).ibSize
      have hstep : Traffic env w _ := (ConnBlock.flush p c _ w hstate (Nat.pos_of_ne_zero hsome) hle
        (clientWrite_connected env p c w hsome)).one
      rw [← clientWrite_some env p c w hsome] at hstep
      split
      · exact hstep
      · refine hstep.trans (ih _ ?_)
        rw [clientWrite_some env p c w hsome]
        simpa using hstate

theorem sendPacket_conns (d : Ptr) (proto : MuxProtocol) (header data : List UInt8) :
    (sendPacket env d proto header data w).1.conns = w.conns := by
  unfold sendPacket
  split <;> rfl

theorem sendPacket_clients (d : Ptr) (proto : MuxProtocol) (header data : List UInt8) :
    (sendPacket env d proto header data w).1.clients = w.clients := by
  unfold sendPacket
  split <;> rfl

theorem sendTcp_clients (flags : UInt8) (data : List UInt8) :
    (sendTcp env p flags data w).1.clients = w.clients := by
  unfold sendTcp
  dsimp only
  split
  · exact sendPacket_clients ..
  · exact sendPacket_clients ..

/-- An entry for what is sent to a device. -/
def Event.isSending : Event → Bool
  | .usbSend .. | .segment .. => true
  | _ => false

/-- Sending a segment writes what is sent into the log. -/
theorem sendTcp_log (flags : UInt8) (data : List UInt8) : ∃ es, (sendTcp env p flags data w).1.log = w.log ++ es ∧
    ∀ e ∈ es, e.isSending = true := by
  unfold sendTcp sendPacket usbSend
  dsimp only
  split <;> split <;> exact ⟨_, by simp [List.append_assoc]; rfl, by simp [Event.isSending]⟩

/-- Sending a segment changes nothing of its connection but the three fields about acknowledgements. -/
theorem sendTcp_conns (flags : UInt8) (data : List UInt8) :
    (sendTcp env p flags data w).1.conns = w.conns ∨
      ∃ t, (sendTcp env p flags data w).1.conns = Function.update w.conns p
        ((w.conns p).acked t) := by
  unfold sendTcp
  dsimp only
  split
  · refine .inr ⟨env.mstime64
      (sendPacket env (w.conns p).dev .tcp ((w.conns p).tcpHeader flags).bytes data w).1.tick, ?_⟩
    simp only [setConn_conns, tock_conns, emit_conns, emit_tick, sendPacket_conns]
  · exact .inl (by simp only [emit_conns, sendPacket_conns])

/-- What is in the log stays there when a segment is sent. -/
theorem sendTcp_mem (flags : UInt8) (data : List UInt8) {e : Event} (he : e ∈ w.log) :
    e ∈ (sendTcp env p flags data w).1.log := by
  obtain ⟨es, hlog, -⟩ := sendTcp_log env p w flags data
  rw [hlog]
  exact List.mem_append_left es he

/-- Any other field stays as it is. -/
theorem sendTcp_field {α : Type} {f : MuxConnection → α} (hf : ∀ conn t, f (MuxConnection.acked conn t) = f conn)
    (q : Ptr) (flags : UInt8) (data : List UInt8) :
    f ((sendTcp env p flags data w).1.conns q) = f (w.conns q) := by
  rcases sendTcp_conns env p w flags data with h | ⟨t, h⟩
  · rw [h]
  · rw [h]
    by_cases hq : q = p
    · subst hq
      simp [hf]
    · simp [hq]

theorem sendTcp_state (q : Ptr) (flags : UInt8) (data : List UInt8) :
    ((sendTcp env p flags data w).1.conns q).state = (w.conns q).state :=
  sendTcp_field (f := MuxConnection.state) env p w (fun _ _ => rfl) q flags data

theorem sendTcp_connections (d : Ptr) (flags : UInt8) (data : List UInt8) :
    (sendTcp env p flags data w).1.connections d = w.connections d :=
  congrArg (Registry.connections · d) (registry_sendTcp env w p flags data)

theorem traffic_sendTeardownRst (hstate : (w.conns p).state ≠ .dead) : Traffic env w (sendTeardownRst env p w) := by
  unfold sendTeardownRst
  dsimp only
  split
  · exact (ConnBlock.segment p thRst w hstate).one
  · exact .refl

theorem traffic_closeAndTearDown (n : ℕ) :
    (∀ c w, Traffic env w (clientClose env n c w)) ∧ ∀ p w, Traffic env w (connectionTeardown env n p w) := by
  induction n with
  | zero => exact ⟨fun c w => (ConnBlock.outOfFuel .teardown w).one, fun p w => (ConnBlock.outOfFuel .teardown w).one⟩
  | succ n ih =>
    obtain ⟨ihClose, ihTear⟩ := ih
    refine ⟨fun c w => ?_, fun p w => ?_⟩
    · unfold clientClose
      refine ReflTransGen.trans ?_ (ClientBlock.release c _).one
      split
      · rename_i hstate
        refine (ClientBlock.dead c w hstate).one.trans ?_
        unfold deviceAbortConnect
        split
        · exact ihTear ..
        · exact .refl
      · exact .refl
    · unfold connectionTeardown
      split
      · exact .refl
      · rename_i hstate
        refine (traffic_sendTeardownRst env p w hstate).trans (ReflTransGen.trans ?_ (ConnBlock.release p _).one)
        split
        · exact .refl
        · rename_i c _
          split
          · exact traffic_clientNotifyConnect ..
          · refine (ConnBlock.state p .dead _ (.dead _)).one.trans (ReflTransGen.trans ?_ (ihClose c _))
            split
            · exact traffic_flushInBuf env p c _ _ (by simp)
            · exact .refl

theorem traffic_closeClient : Traffic env w (closeClient env c w) := (traffic_closeAndTearDown env callDepth).1 c w

theorem traffic_tearDown : Traffic env w (tearDown env p w) := (traffic_closeAndTearDown env callDepth).2 p w

theorem findSportLoop_free {used : List UInt16} {n : ℕ} {next sport : UInt16}
    (h : findSportLoop used n next = some sport) : sport ∉ used := by
  induction n generalizing next with
  | zero => cases h
  | succ n ih =>
    unfold findSportLoop at h
    split at h
    · exact ih h
    · rename_i hfree
      obtain rfl := Option.some.inj h
      exact hfree

/-- The port that `find_sport` gives is not in use. -/
theorem findSport_free {d : Ptr} {sport next : UInt16} (h : findSport w d = some (sport, next)) (hsport : sport ≠ 0)
    (q : Ptr) (hq : q ∈ w.connections d) : (w.conns q).sport ≠ sport := by
  unfold findSport at h
  dsimp only at h
  split at h
  · obtain ⟨rfl, -⟩ := Prod.mk.inj (Option.some.inj h)
    exact absurd rfl hsport
  · obtain ⟨port, hloop, heq⟩ := Option.map_eq_some_iff.mp h
    obtain ⟨rfl, -⟩ := Prod.mk.inj heq
    rintro rfl
    exact findSportLoop_free hloop (List.mem_map_of_mem hq)

theorem traffic_deviceStartConnect (id : ℕ) (dport : UInt16) :
    Traffic env w (deviceStartConnect env id dport c w).1 := by
  have hsyn : ∀ d sport v next, v = w.setDev d (fun dev => { dev with nextSport := next }) →
      Traffic env w (sendTcp env v.fresh thSyn [] (allocConn (.start d c sport dport) v)).1 := by
    intro d sport v next hv
    have hport : Traffic env w v := hv ▸ (ConnBlock.nextSport d next w).one
    exact (hport.trans (ConnBlock.start d c sport dport v).one).trans (ConnBlock.segment v.fresh thSyn _ (by simp)).one
  have hstarted := connectStarted env id dport c w
  generalize deviceStartConnect env id dport c w = r at hstarted ⊢
  cases hstarted with
  | noDevice => exact .refl
  | uninitialised => exact (ConnBlock.fault _ w).one
  | cutShort => exact (ConnBlock.outOfFuel _ w).one
  | noPort d next => exact (ConnBlock.nextSport d next w).one
  | refused d sport next v _ _ _ _ hv => exact (hsyn d sport v next hv).trans (ConnBlock.free v.fresh _).one
  | started d sport next v _ _ hport hsport hv =>
    refine (hsyn d sport v next hv).trans (ConnBlock.register d v.fresh _ (sendTcp_mem env _ _ thSyn [] (by simp)) ?_).one
    intro q hq hne
    rw [sendTcp_connections] at hq
    rw [sendTcp_field (f := MuxConnection.sport) env _ _ (fun _ _ => rfl),
      sendTcp_field (f := MuxConnection.sport) env _ _ (fun _ _ => rfl)]
    have hq' : q ∈ w.connections d := by simpa [hv, connections] using hq
    have hconns : v.conns = w.conns := by rw [hv, setDev_conns]
    simpa [hne, hconns] using findSport_free w hport hsport q hq'

theorem deviceStartConnect_clients (id : ℕ) (dport : UInt16) :
    (deviceStartConnect env id dport c w).1.clients = w.clients := by
  have hsyn : ∀ d sport v next, v = w.setDev d (fun dev => { dev with nextSport := next }) →
      (sendTcp env v.fresh thSyn [] (allocConn (.start d c sport dport) v)).1.clients = w.clients := by
    rintro d sport v next rfl
    rw [sendTcp_clients, allocConn_clients, setDev_clients]
  have hstarted := connectStarted env id dport c w
  generalize deviceStartConnect env id dport c w = r at hstarted ⊢
  cases hstarted with
  | refused d sport next v _ _ _ _ hv =>
    dsimp only
    rw [emit_clients, hsyn d sport v next hv]
  | started d sport next v _ _ _ _ hv =>
    dsimp only
    rw [registerConn, setDev_clients, hsyn d sport v next hv]
  | _ => rfl

theorem traffic_refreshed : Traffic env (w.setConn p (·.refresh)) (updateConnection p w) := by
  unfold updateConnection
  dsimp only
  split
  · exact (ClientBlock.setEvents ..).one
  · exact (ConnBlock.fault ..).one

theorem traffic_updateConnection : Traffic env w (updateConnection p w) :=
  (ConnBlock.refresh p w).one.trans (traffic_refreshed ..)

theorem clientSetEvents_conns (events : Events) : (clientSetEvents c events w).conns = w.conns := by
  unfold clientSetEvents
  split <;> rfl

theorem updateConnection_conns :
    (updateConnection p w).conns = Function.update w.conns p (w.conns p).refresh := by
  unfold updateConnection
  dsimp only
  split
  · rw [clientSetEvents_conns]
    rfl
  · rfl

theorem clientSetEvents_log (events : Events) : (clientSetEvents c events w).log = w.log := by
  unfold clientSetEvents
  split <;> rfl

theorem updateConnection_freeConn {q : Ptr} (h : .freeConn q ∈ (updateConnection p w).log) : .freeConn q ∈ w.log := by
  unfold updateConnection at h
  dsimp only at h
  split at h
  · rwa [clientSetEvents_log] at h
  · simpa using h

theorem updateConnection_state (q : Ptr) : ((updateConnection p w).conns q).state = (w.conns q).state := by
  rw [updateConnection_conns]
  by_cases hq : q = p
  · subst hq
    simp
  · simp [hq]

theorem traffic_sendTcpAck (hstate : (w.conns p).state ≠ .dead) : Traffic env w (sendTcpAck env p w).1 := by
  unfold sendTcpAck
  have h : Traffic env w _ := (ConnBlock.segment p thAck w hstate).one
  dsimp only
  split
  · exact h.trans (traffic_updateConnection ..)
  · dsimp only
    exact h.trans (traffic_tearDown ..)

theorem traffic_deviceToClient : Traffic env w (deviceToClient env p c w).1 := by
  unfold deviceToClient
  dsimp only
  split
  · rename_i hnone
    exact traffic_clientWrite_none env p c w hnone
  · rename_i hsome
    have hle := clientWrite_size env p c w (w.conns p).ibBuf (w.conns p).ibSize
    rw [clientWrite_some env p c w hsome]
    exact (ConnBlock.deliver p c _ w (Nat.pos_of_ne_zero hsome) hle (clientWrite_connected env p c w hsome)).one

theorem traffic_connectionDeviceInput {payload : List UInt8} (hstate : (w.conns p).state = .connected)
    (hlen : payload.length ≤ devMru.toNat) : Traffic env w (connectionDeviceInput env p payload w).1 := by
  unfold connectionDeviceInput
  dsimp only
  split
  · rename_i hfull
    exact (ConnBlock.overflow p payload w hstate (not_not.mpr hfull) hlen).one.trans (traffic_tearDown ..)
  · rename_i hroom
    exact (ConnBlock.accept p payload w hstate hroom hlen).one.trans (traffic_refreshed ..)

/-- A payload that is taken leaves the states of the connections as they are. -/
theorem connectionDeviceInput_state {payload : List UInt8} (h : (connectionDeviceInput env p payload w).2 = true)
    (q : Ptr) : ((connectionDeviceInput env p payload w).1.conns q).state = (w.conns q).state := by
  unfold connectionDeviceInput at h ⊢
  dsimp only at h ⊢
  split at h
  · cases h
  · rename_i hroom
    rw [if_neg hroom, updateConnection_state]
    by_cases hq : q = p
    · subst hq
      simp
    · simp [hq]

theorem traffic_connectingInput (th : TcpHdr) (hstate : (w.conns p).state = .connecting) :
    Traffic env w (connectingInput env p th w) := by
  unfold connectingInput
  split
  · refine ReflTransGen.trans ?_ (traffic_tearDown ..)
    split
    · exact (ConnBlock.state p .refused w (hstate ▸ .refused)).one
    · exact .refl
  · dsimp only
    split
    · rename_i hsent
      refine (ConnBlock.established p w hstate hsent).one.trans ?_
      split
      · exact (ConnBlock.fault ..).one
      · rename_i c _
        refine (traffic_clientNotifyConnect env c _ resultOk).trans ?_
        split
        · exact traffic_updateConnection ..
        · exact ((ConnBlock.orphan p _).one.trans (traffic_tearDown ..)).trans (ConnBlock.fault ..).one
    · rename_i hfailed
      rw [Bool.not_eq_true] at hfailed
      exact (ConnBlock.unanswered p w hstate hfailed).one.trans (traffic_tearDown ..)

theorem traffic_connectedInput (th : TcpHdr) {payload : List UInt8} (hstate : (w.conns p).state = .connected)
    (hlen : payload.length ≤ devMru.toNat) : Traffic env w (connectedInput env p th payload w) := by
  unfold connectedInput
  split
  · refine ReflTransGen.trans ?_ (traffic_tearDown ..)
    split
    · exact (ConnBlock.state p .dying w (hstate ▸ .dying)).one
    · exact .refl
  · refine (traffic_connectionDeviceInput env p w hstate hlen).trans ?_
    dsimp only
    split
    · rename_i hok
      split
      · refine traffic_sendTcpAck env p _ ?_
        rw [connectionDeviceInput_state env p w hok, hstate]
        decide
      · exact .refl
    · exact (ConnBlock.fault ..).one

/-- After the call is noted, a segment is answered by steps on connections and clients. -/
theorem traffic_deviceTcpInput (d : Ptr) (th : TcpHdr) {payload : List UInt8} (hlen : payload.length ≤ devMru.toNat) :
    Traffic env (w.emit (.tcpInput d th payload)) (deviceTcpInput env d th payload w) := by
  unfold deviceTcpInput
  dsimp only
  split
  · exact .refl
  · split
    · split
      · exact .refl
      · have h : Traffic env _ _ := (ConnBlock.packet d .tcp
          (TcpHdr.bytes ⟨th.dport, th.sport, 0, th.seq, 0x50, thRst, 0, 0, 0⟩) [] (w.emit (.tcpInput d th payload))).one
        split
        · exact h
        · exact h.trans (ConnBlock.fault ..).one
    · rename_i p _
      refine (ConnBlock.hear p th _).one.trans ?_
      split
      · rename_i hstate
        exact traffic_connectingInput env p _ th hstate
      · rename_i hstate
        exact traffic_connectedInput env p _ th hstate hlen
      · exact .refl

end Connections

/-! ### Devices -/

section Devices

variable (env : Env) (d : Ptr) (w : World)

theorem work_deviceVersionInput (vh : VersionHeader) : Work env w (deviceVersionInput env d vh w) := by
  unfold deviceVersionInput
  refine (DeviceBlock.call (.versionInput d vh) w rfl).one.trans ?_
  dsimp only
  split
  · exact .refl
  · split
    · exact (DeviceBlock.release d _).one
    · refine (DeviceBlock.version d vh.major.toNat _).one.trans (ReflTransGen.trans ?_
        (((DeviceBlock.active d _).one.trans (DeviceBlock.preflight _ _).one).trans (DeviceBlock.running d true _).one))
      split
      · exact (ConnBlock.packet ..).one.work
      · exact .refl

/-- What a handler is given fits into a packet. -/
def Dispatch.fits : Dispatch → Prop
  | .tcp _ payload => payload.length ≤ devMru.toNat
  | _ => True

theorem work_dispatch {call : Dispatch} (hfits : call.fits) : Work env w (dispatch env d call w) := by
  cases call with
  | version vh => exact work_deviceVersionInput ..
  | control payload => exact (DeviceBlock.call (.controlInput d payload) w rfl).one
  | tcp th payload =>
    exact (DeviceBlock.call (.tcpInput d th payload) w rfl).one.trans
      (traffic_deviceTcpInput env w d th hfits).work

/-- Taking a packet apart changes nothing of the reassembly state but the number of the last packet. -/
theorem decodePacket_framing (fr : Framing) (m : Mem) (n : UInt32) :
    ∃ rxSeq, (decodePacket fr m n).framing = { fr with rxSeq } := by
  have hnumber : ∃ rxSeq, (if 2 ≤ fr.version then { fr with rxSeq := ntohs m 14 } else fr) = { fr with rxSeq } := by
    split
    · exact ⟨_, rfl⟩
    · exact ⟨fr.rxSeq, rfl⟩
  obtain ⟨rxSeq, hrxSeq⟩ := hnumber
  unfold decodePacket
  dsimp only
  rw [hrxSeq]
  by_cases hlen : n < ntohl m 4
  · rw [if_pos hlen]
    exact ⟨fr.rxSeq, rfl⟩
  · rw [if_neg hlen]
    refine ⟨rxSeq, ?_⟩
    split_ifs <;> rfl

/-- A payload is a part of at most `DEV_MRU` bytes. -/
theorem decodePacket_fits (fr : Framing) (buffer : Mem) {length : UInt32} (hlen : length.toNat ≤ devMru.toNat)
    {call : Dispatch} (h : (decodePacket fr buffer length).dispatch = some call) : call.fits := by
  unfold decodePacket at h
  have hhdr : muxHeaderSize fr.version ≤ 16 := by
    unfold muxHeaderSize sizeofMuxHeader
    split <;> omega
  dsimp only at h
  split at h
  · cases h
  · split at h
    · split at h
      · cases h
      · cases h
        trivial
    · split at h
      · cases h
        trivial
      · split at h
        · split at h
          · cases h
          · rename_i hsmall
            cases h
            simp only [Dispatch.fits, Mem.length_slice]
            simp only [UInt32.lt_iff_toNat_lt, UInt32.toNat_ofNat', tcphdrSize] at hsmall
            simp only [UInt32.toNat_sub, UInt32.toNat_ofNat', tcphdrSize]
            have := length.toNat_lt
            omega
        · cases h

theorem decode_fits (fr : Framing) (buffer : Mem) (length : UInt32) {call : Dispatch}
    (h : (decode fr buffer length).dispatch = some call) : call.fits := by
  unfold decode at h
  split at h
  · cases h
  · split at h
    · cases h
    · rename_i hlen
      split at h
      · split at h
        · cases h
        · rename_i htotal
          dsimp only at h
          split at h
          · exact decodePacket_fits _ _ (by simpa [UInt32.lt_iff_toNat_lt] using htotal) h
          · cases h
      · split at h
        · cases h
        · exact decodePacket_fits _ _ (by simpa [UInt32.lt_iff_toNat_lt] using hlen) h

theorem work_deviceDataInput (u : UsbDevice) (buffer : Mem) (length : UInt32) :
    Work env w (deviceDataInput env u buffer length w).1 := by
  unfold deviceDataInput
  split
  · exact .refl
  · rename_i d _
    have hframing : Work env w _ :=
      (DeviceBlock.framing d (decode (w.devs d).framing buffer length).framing w).one
    dsimp only
    split
    · exact hframing
    · rename_i call hcall
      exact hframing.trans (work_dispatch env d _ (decode_fits _ _ _ hcall))

theorem work_drain (u : UsbDevice) (n : ℕ) (buffer : Mem) (size : UInt32) :
    Work env w (drain env d u n buffer size w) := by
  induction n generalizing buffer size w with
  | zero => exact (ConnBlock.outOfFuel .drain w).one.work
  | succ n ih =>
    unfold drain
    split
    · exact .refl
    · have h := work_deviceDataInput env w u buffer size
      dsimp only
      split
      · exact h.trans (ConnBlock.fault ..).one.work
      · split
        · exact h
        · exact h.trans (ih ..)

theorem work_deviceProcessSocket (t : Transfer) : Work env w (deviceProcessSocket env d t w) := work_drain ..

theorem work_deviceAdd (u : UsbDevice) : Work env w (deviceAdd env u w) := by
  unfold deviceAdd
  have hsent : Work env w _ := (DeviceBlock.create u (getNextDeviceId w) w).one.trans
    (ConnBlock.packet w.fresh .version (VersionHeader.bytes ⟨1, 0, 0⟩) [] _).one.work
  dsimp only
  split
  · exact hsent.trans (DeviceBlock.register ..).one
  · exact hsent.trans (DeviceBlock.free ..).one

theorem traffic_tearDownAll : Traffic env w (tearDownAll env d w) :=
  forEach_chain (fun p w => traffic_tearDown env p w) _ _ _

theorem work_deviceRemove (u : UsbDevice) : Work env w (deviceRemove env u w) := by
  unfold deviceRemove
  split
  · exact .refl
  · rename_i d _
    refine ReflTransGen.trans ?_ (DeviceBlock.release d _).one
    split
    · unfold disconnectDevice
      refine ((DeviceBlock.dead d w).one.trans (traffic_tearDownAll env d _).work).trans
        (ReflTransGen.trans ?_ (DeviceBlock.closed d _).one)
      split
      · exact (traffic_clientDeviceRemove ..).work
      · exact (traffic_clientDevicePairingEvent ..).work
    · exact .refl

theorem work_usbAction (a : UsbAction) : Work env w (usbAction env a w) := by
  cases a with
  | deviceAdd u => exact work_deviceAdd env w u
  | deviceRemove u => exact work_deviceRemove env w u
  | deviceAddFailed u => exact (traffic_clientDevicePairingEvent env w _ .removedDuringAdd false).work
  | errorAlreadyExists info => exact (traffic_clientDevicePairingEvent env w info .errorDeviceAlreadyExists false).work

theorem work_usbProcess : Work env w (usbProcess env w) := by
  unfold usbProcess
  refine (ConnBlock.tock w).one.work.trans ?_
  generalize w.tock = w
  induction env.usbProcess _ generalizing w with
  | nil => exact .refl
  | cons a rest ih => exact (work_usbAction env w a).trans (ih _)

theorem work_deviceSetVisible (id : ℕ) : Work env w (deviceSetVisible id w) := by
  unfold deviceSetVisible
  split
  · exact (DeviceBlock.visible ..).one
  · exact .refl

theorem work_devicePreflightFinished (id : ℕ) : Work env w (devicePreflightFinished id w) := by
  unfold devicePreflightFinished
  split
  · exact (DeviceBlock.running ..).one
  · exact .refl

theorem work_deviceAcceptSocket (u : UsbDevice) : Work env w (deviceAcceptSocket u w) := by
  unfold deviceAcceptSocket
  split
  · exact (DeviceBlock.socket ..).one
  · exact .refl

theorem traffic_deviceCheckTimeouts : Traffic env w (deviceCheckTimeouts env w) := by
  refine (ConnBlock.tock w).one.trans (forEach_chain (fun d w => ?_) _ _ _)
  split
  · refine forEach_chain (fun p w => ?_) _ _ _
    split
    · rename_i hoverdue
      refine traffic_sendTcpAck env p w fun hdead => ?_
      simp [MuxConnection.ackOverdue, hdead] at hoverdue
    · exact .refl
  · exact .refl

end Devices

end Usbmuxd
