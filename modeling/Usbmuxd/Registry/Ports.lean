import Usbmuxd.Registry.Refinement

/-!
# Connections keep their ports

A connection gets its port when it is made, before it is put on the list of its device, and
keeps it. `find_sport` passes over the ports in use, also after the counter has wrapped
around, so the ports of the connections on one list stay different.

## The model

* `Ports` — where connections come from, and that their ports are different.
* `Ports.Keeps` — a step that makes and lists no connection.

## What is proved

* `Ports.turn` — every turn keeps the ports in order.
* `ports_run` — they are in order after every run.
-/

namespace Usbmuxd

open World Relation

/-- Connections are made before they are listed, at addresses that have been used up, and two
on one list have different ports. -/
structure Ports (w : World) : Prop where
  born : ∀ p, .start p ∈ w.log → p < w.fresh
  started : ∀ d, ∀ p ∈ w.connections d, .start p ∈ w.log
  distinct : ∀ d, ∀ p ∈ w.connections d, ∀ q ∈ w.connections d, q ≠ p → (w.conns q).sport ≠ (w.conns p).sport

/-- What has been made is kept, and nothing is made or listed. -/
structure Ports.Keeps (w w' : World) : Prop where
  log : ∀ p, .start p ∈ w'.log ↔ .start p ∈ w.log
  fresh : w.fresh ≤ w'.fresh
  connections : ∀ d, ∀ p ∈ w'.connections d, p ∈ w.connections d
  sport : ∀ p, (w'.conns p).sport = (w.conns p).sport

namespace Ports

variable {env : Env} {w w' w'' : World}

theorem Keeps.trans (h : Keeps w w') (h' : Keeps w' w'') : Keeps w w'' :=
  ⟨fun p => (h'.log p).trans (h.log p), h.fresh.trans h'.fresh, fun d p hp => h.connections d p (h'.connections d p hp),
    fun p => (h'.sport p).trans (h.sport p)⟩

theorem Keeps.ports (h : Keeps w w') (hports : Ports w) : Ports w' where
  born := fun p hp => (hports.born p ((h.log p).mp hp)).trans_le h.fresh
  started := fun d p hp => (h.log p).mpr (hports.started d p (h.connections d p hp))
  distinct := fun d p hp q hq hne => by
    rw [h.sport, h.sport]
    exact hports.distinct d p (h.connections d p hp) q (h.connections d q hq) hne

/-- A step that the registry does not see. -/
theorem Keeps.same (hreg : w'.registry = w.registry) (hlog : ∀ p, .start p ∈ w'.log ↔ .start p ∈ w.log)
    (hsport : ∀ p, (w'.conns p).sport = (w.conns p).sport) : Keeps w w' := by
  refine ⟨hlog, (congrArg Registry.fresh hreg).ge, fun d p hp => ?_, hsport⟩
  rwa [show w'.connections d = w.connections d from congrArg (Registry.connections · d) hreg] at hp

theorem Keeps.emit {e : Event} (h : ∀ p, e ≠ .start p) (w : World) : Keeps w (w.emit e) :=
  ⟨fun p => by simp [(h p).symm], le_rfl, fun _ _ hp => hp, fun _ => rfl⟩

theorem Keeps.tock (w : World) : Keeps w w.tock := ⟨fun _ => Iff.rfl, le_rfl, fun _ _ hp => hp, fun _ => rfl⟩

theorem Keeps.setConn {p : Ptr} {f : MuxConnection → MuxConnection} (h : (f (w.conns p)).sport = (w.conns p).sport) :
    Keeps w (w.setConn p f) := by
  refine ⟨fun _ => Iff.rfl, le_rfl, fun _ _ hp => hp, fun q => ?_⟩
  by_cases hq : q = p
  · subst hq
    simpa using h
  · simp [hq]

/-- A device whose list does not grow. -/
theorem Keeps.setDev {d : Ptr} {f : MuxDevice → MuxDevice}
    (h : ∀ p ∈ (f (w.devs d)).connections.getD ⟨[]⟩, p ∈ w.connections d) : Keeps w (w.setDev d f) := by
  refine ⟨fun _ => Iff.rfl, le_rfl, fun d' p hp => ?_, fun _ => rfl⟩
  unfold World.connections at hp
  by_cases hd : d' = d
  · subst hd
    exact h p (by simpa using hp)
  · simpa [World.connections, hd] using hp

/-- Entries of other kinds. -/
theorem start_iff {kind : Event → Bool} (hkind : ∀ p, kind (.start p) = false) (h : w.Grows kind w') (p : Ptr) :
    .start p ∈ w'.log ↔ .start p ∈ w.log := ⟨h.old (hkind p), h.mem⟩

theorem Keeps.sendPacket (env : Env) (d : Ptr) (proto : MuxProtocol) (header data : List UInt8) (w : World) :
    Keeps w (sendPacket env d proto header data w).1 := by
  refine .same (registry_sendPacket ..) (fun p => ?_) fun p => by rw [sendPacket_conns]
  unfold Usbmuxd.sendPacket usbSend
  split
  · exact Iff.rfl
  · simp

theorem Keeps.sendTcp (env : Env) (p : Ptr) (flags : UInt8) (data : List UInt8) (w : World) :
    Keeps w (sendTcp env p flags data w).1 := by
  have hlog : w.Grows Event.isSending _ := sendTcp_log env p w flags data
  exact .same (registry_sendTcp ..) (start_iff (fun _ => rfl) hlog)
    fun q => sendTcp_field (f := MuxConnection.sport) env p w (fun _ _ => rfl) q flags data

theorem Keeps.answered (p : Ptr) (w : World) : Keeps w (answered p w) :=
  (Keeps.emit (by simp) w).trans (.setConn rfl)

/-- Bytes of the in-buffer leave. -/
theorem Keeps.wrote {p c : Ptr} {bs : List UInt8} {f : MuxConnection → MuxConnection}
    (hf : (f (w.conns p)).sport = (w.conns p).sport) : Keeps w ((w.tock.emit (.wrote p c bs)).setConn p f) :=
  ((Keeps.tock w).trans (.emit (by simp) _)).trans (.setConn hf)

/-! ### Steps -/

/-- A connection is made. -/
theorem make (h : Ports w) (conn : MuxConnection) : Ports (allocConn conn w) := by
  have hold : ∀ d, ∀ p ∈ (allocConn conn w).connections d, p ∈ w.connections d ∧ p ≠ w.fresh := fun d p hp =>
    ⟨hp, (h.born p (h.started d p hp)).ne⟩
  refine ⟨fun p hp => ?_, fun d p hp => ?_, fun d p hp q hq hne => ?_⟩
  · show p < w.fresh + 1
    rcases List.mem_append.mp hp with hp | hp
    · exact Nat.lt_succ_of_lt (h.born p hp)
    · obtain rfl : p = w.fresh := by simpa using hp
      exact Nat.lt_succ_self _
  · exact List.mem_append_left _ (h.started d p (hold d p hp).1)
  · obtain ⟨hp, hpf⟩ := hold d p hp
    obtain ⟨hq, hqf⟩ := hold d q hq
    simpa [hpf, hqf] using h.distinct d p hp q hq hne

/-- A connection is listed. -/
theorem list (h : Ports w) {d p : Ptr} (hp : .start p ∈ w.log)
    (hsport : ∀ q ∈ w.connections d, q ≠ p → (w.conns q).sport ≠ (w.conns p).sport) : Ports (registerConn d p w) := by
  have hmem : ∀ d' q, q ∈ (registerConn d p w).connections d' → d' = d ∧ q = p ∨ q ∈ w.connections d' := by
    intro d' q hq
    unfold World.connections registerConn at hq
    by_cases hd : d' = d
    · subst hd
      cases hc : (w.devs d').connections with
      | none =>
        simp only [setDev_devs, Function.update_self, hc] at hq
        cases hq
      | some t =>
        simp only [setDev_devs, Function.update_self, hc, Option.map_some, Option.getD_some, SlotTable.mem_add] at hq
        rcases hq with rfl | hq
        · exact .inl ⟨rfl, rfl⟩
        · right
          simpa [World.connections, hc] using hq
    · right
      simpa [World.connections, hd] using hq
  refine ⟨h.born, fun d' q hq => ?_, fun d' q hq q' hq' hne => ?_⟩
  · rcases hmem d' q hq with ⟨-, rfl⟩ | hq
    · exact hp
    · exact h.started d' q hq
  · show (w.conns q').sport ≠ (w.conns q).sport
    rcases hmem d' q hq with ⟨rfl, rfl⟩ | hold
    · rcases hmem d' q' hq' with ⟨-, rfl⟩ | hq'
      · exact absurd rfl hne
      · exact hsport q' hq' hne
    · rcases hmem d' q' hq' with ⟨hd, rfl⟩ | hq'
      · exact (hsport q (hd ▸ hold) hne.symm).symm
      · exact h.distinct d' q hold q' hq' hne

/-- A connection is taken off its list. -/
theorem Keeps.release (p : Ptr) (w : World) : Keeps w (releaseConn p w) := by
  refine (Keeps.setDev fun q hq => ?_).trans (.emit (by simp) _)
  cases hc : (w.devs (w.conns p).dev).connections with
  | none =>
    rw [hc] at hq
    cases hq
  | some t =>
    simp only [hc, Option.map_some, Option.getD_some] at hq
    simpa [World.connections, hc] using SlotTable.mem_of_mem_remove hq

theorem connBlock (h : Ports w) (hb : ConnBlock env w w') : Ports w' := by
  cases hb with
  | fault f => exact (Keeps.emit (by simp) w).ports h
  | outOfFuel l => exact (Keeps.emit (by simp) w).ports h
  | tock => exact (Keeps.tock w).ports h
  | packet d proto header data => exact (Keeps.sendPacket env d proto header data w).ports h
  | segment p flags => exact (Keeps.sendTcp env p flags [] w).ports h
  | start d c sport dport => exact h.make _
  | nextSport d port =>
    exact (Keeps.setDev (d := d) (f := fun dev => { dev with nextSport := port }) fun _ hp => hp).ports h
  | register d p _ hp hsport => exact h.list hp hsport
  | hear p th => exact (Keeps.setConn rfl).ports h
  | established p =>
    have hsent := (Keeps.answered p w).trans (.sendTcp env p thAck [] _)
    generalize (sendTcp env p thAck [] (answered p w)).1 = v at hsent ⊢
    exact (hsent.trans (.setConn rfl)).ports h
  | unanswered p => exact ((Keeps.answered p w).trans (.sendTcp env p thAck [] _)).ports h
  | state p s => exact (Keeps.setConn rfl).ports h
  | orphan p => exact (Keeps.setConn rfl).ports h
  | accept p payload =>
    exact (((Keeps.emit (by simp) w).trans (.setConn rfl)).trans (.setConn rfl)).ports h
  | overflow p payload => exact (Keeps.emit (by simp) w).ports h
  | deliver p c size => exact (Keeps.wrote rfl).ports h
  | flush p c size => exact (Keeps.wrote rfl).ports h
  | refresh p => exact (Keeps.setConn rfl).ports h
  | release p => exact (Keeps.release p w).ports h
  | free p => exact (Keeps.emit (by simp) w).ports h

theorem Keeps.client (hb : ClientBlock env w w') : Keeps w w' := by
  have hf := hb.frame
  refine ⟨start_iff (fun _ => rfl) hf.log, ?_, fun d p hp => ?_, fun p => by rw [hf.conns]⟩
  · cases hb with
    | accept => exact Nat.le_succ _
    | send c tag msg payload => exact (congrArg Registry.fresh (registry_sendPkt env c w tag msg payload)).ge
    | setEvents c events => exact (congrArg Registry.fresh (registry_clientSetEvents c w events)).ge
    | recv c len => exact (congrArg Registry.fresh (registry_recvCommandBytes env c w len)).ge
    | _ => exact le_rfl
  · rwa [World.connections, hf.devs] at hp

theorem Keeps.device (hb : DeviceBlock w w') : Keeps w w' := by
  have hf := hb.frame
  have hlog := start_iff (fun _ => rfl) hf.log
  have hsame : ∀ {d : Ptr} {f : MuxDevice → MuxDevice}, (f (w.devs d)).connections = (w.devs d).connections →
      Keeps w (w.setDev d f) := fun hconns => .setDev fun p hp => by rwa [hconns] at hp
  cases hb with
  | create u id =>
    refine ⟨hlog, Nat.le_succ _, fun d p hp => ?_, fun p => by rw [hf.conns]⟩
    unfold World.connections at hp
    by_cases hd : d = w.fresh
    · subst hd
      simp only [allocDev_devs, Function.update_self, MuxDevice.start] at hp
      cases hp
    · simpa [World.connections, hd] using hp
  | version d v => exact hsame rfl
  | active d =>
    refine .setDev fun p hp => ?_
    simp at hp
  | running d b => exact hsame rfl
  | framing d fr => exact hsame rfl
  | dead d => exact hsame rfl
  | closed d =>
    refine .setDev fun p hp => ?_
    cases hp
  | visible d => exact hsame rfl
  | socket d => exact hsame rfl
  | _ => exact ⟨hlog, le_rfl, fun _ _ hp => hp, fun _ => rfl⟩

theorem block (h : Ports w) (hb : Block env w w') : Ports w' := by
  cases hb with
  | traffic hb =>
    cases hb with
    | conn hb => exact h.connBlock hb
    | client hb => exact (Keeps.client hb).ports h
  | device hb => exact (Keeps.device hb).ports h

theorem work (h : Ports w) (hw : Work env w w') : Ports w' := by
  induction hw with
  | refl => exact h
  | tail _ hb ih => exact ih.block hb

theorem Keeps.refl (w : World) : Keeps w w := ⟨fun _ => Iff.rfl, le_rfl, fun _ _ hp => hp, fun _ => rfl⟩

theorem Keeps.clientRead (env : Env) (p c : Ptr) (len : UInt32) (w : World) :
    Keeps w (clientRead env p c len w).1 := by
  unfold Usbmuxd.clientRead
  split
  · exact .refl w
  · dsimp only
    split
    · exact .tock w
    · exact (Keeps.tock w).trans (.emit (by simp) _)

theorem Keeps.clientToDevice (env : Env) (p c : Ptr) (w : World) : Keeps w (clientToDevice env p c w).1 := by
  unfold Usbmuxd.clientToDevice
  dsimp only
  have hread : Keeps w _ := .clientRead env p c (w.conns p).sendable w
  split
  · exact hread
  · generalize hr : Usbmuxd.clientRead env p c (w.conns p).sendable w = r at hread
    have hsent : ∀ data, Keeps w (Usbmuxd.sendTcp env p thAck data (r.1.setConn p (·.fill r.2))).1 := fun data =>
      (hread.trans (.setConn rfl)).trans (.sendTcp env p thAck data _)
    split
    · dsimp only
      exact (hsent _).trans (.setConn rfl)
    · exact hsent _

theorem turn (h : Ports w) (ht : Turn env w w') : Ports w' := by
  cases ht with
  | block hb => exact h.block hb
  | request c tag id => exact ⟨h.born, h.started, h.distinct⟩
  | listen c => exact ⟨h.born, h.started, h.distinct⟩
  | upload p c => exact (Keeps.clientToDevice env p c w).ports h
  | failedUpload p c => exact ((Keeps.clientToDevice env p c w).ports h).work (traffic_tearDown env p _).work

theorem turns (h : Ports w) (ht : Turns env w w') : Ports w' := by
  induction ht with
  | refl => exact h
  | tail _ hturn ih => exact ih.turn hturn

end Ports

theorem ports_init : Ports .init where
  born := fun _ hp => absurd hp List.not_mem_nil
  started := fun _ _ hp => nomatch hp
  distinct := fun _ _ hp => nomatch hp

/-- In every run the connections of a device have different ports. -/
theorem ports_run (env : Env) (ops : List Op) : Ports (run env ops) := ports_init.turns (turns_run env [] ops)

end Usbmuxd
