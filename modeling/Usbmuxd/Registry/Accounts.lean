import Usbmuxd.Registry.Refinement

/-!
# Nothing is lost

Each record that has been made is on a list or has been freed: there is no record that nobody
knows of any more.

## The model

* `Registry.Known T x` — the record `x` is on a list or has been freed.
* `Registry.Accounted` — every record that has been made is known, and a client is freed when its
  socket is closed.

## What is proved

* `Registry.Accounted.step` — every step of the registry keeps this.
* `accounted_run` — and so it holds after every run, also after those in which a client is
  released twice.
* `nothing_leaks` — what this says of the daemon's lists and of what it has freed.
-/

namespace Usbmuxd

open World

namespace Registry

/-- The record is on a list or has been freed. -/
inductive Known (T : Registry) (x : Ptr) : Prop where
  | freedConn (h : T.freedConn x ≠ 0)
  | freedClient (h : T.freedClient x ≠ 0)
  | freedDev (h : T.freedDev x ≠ 0)
  | client (h : x ∈ T.clientList)
  | device (h : x ∈ T.deviceList)
  | conn (d : Ptr) (hd : d ∈ T.deviceList) (h : x ∈ T.connections d)

/-- Each record that has been made is known. -/
structure Accounted (T : Registry) : Prop where
  records : ∀ x, 0 < x → x < T.fresh → T.Known x
  sockets : ∀ c, T.closedSocket c = T.freedClient c

section Known

variable {T T' : Registry} {x : Ptr}

/-- What is known stays known while nothing is taken off a list. -/
theorem Known.mono (h : T.Known x) (hconn : T.freedConn x ≠ 0 → T'.freedConn x ≠ 0)
    (hclient : T.freedClient x ≠ 0 → T'.freedClient x ≠ 0) (hdev : T.freedDev x ≠ 0 → T'.freedDev x ≠ 0)
    (hclients : x ∈ T.clientList → x ∈ T'.clientList) (hdevices : ∀ d ∈ T.deviceList, d ∈ T'.deviceList)
    (hconns : ∀ d ∈ T.deviceList, x ∈ T.connections d → x ∈ T'.connections d) : T'.Known x := by
  cases h with
  | freedConn h => exact .freedConn (hconn h)
  | freedClient h => exact .freedClient (hclient h)
  | freedDev h => exact .freedDev (hdev h)
  | client h => exact .client (hclients h)
  | device h => exact .device (hdevices x h)
  | conn d hd h => exact .conn d (hdevices d hd) (hconns d hd h)

theorem update_succ_ne_zero {f : Ptr → ℕ} (h : f x ≠ 0) (y : Ptr) : Function.update f y (f y + 1) x ≠ 0 := by
  by_cases hxy : x = y
  · subst hxy
    simp
  · simpa [hxy] using h

theorem update_succ_self (f : Ptr → ℕ) (x : Ptr) : Function.update f x (f x + 1) x ≠ 0 := by simp

/-- A connection that leaves its list has been freed. -/
theorem Known.unlink (h : T.Known x) (d p : Ptr) (e : ConnEntry) : (T.unlink d p e).Known x := by
  cases h with
  | freedConn h => exact .freedConn (update_succ_ne_zero h p)
  | freedClient h => exact .freedClient h
  | freedDev h => exact .freedDev h
  | client h => exact .client h
  | device h => exact .device h
  | conn d' hd' h =>
    by_cases hx : x = p
    · subst hx
      exact .freedConn (update_succ_self T.freedConn x)
    · refine .conn d' hd' ?_
      rw [connections_unlink]
      split
      · next heq =>
        subst heq
        rw [SlotTable.mem_def, SlotTable.elements_remove]
        exact (List.mem_erase_of_ne hx).mpr h
      · exact h

/-- A client that leaves the list has been freed. -/
theorem Known.dropClient (h : T.Known x) (c : Ptr) (e : ClientEntry) : (T.dropClient c e).Known x := by
  cases h with
  | freedConn h => exact .freedConn h
  | freedClient h => exact .freedClient (update_succ_ne_zero h c)
  | freedDev h => exact .freedDev h
  | client h =>
    by_cases hx : x = c
    · subst hx
      exact .freedClient (update_succ_self T.freedClient x)
    · refine .client ?_
      rw [dropClient_clientList, SlotTable.mem_def, SlotTable.elements_remove]
      exact (List.mem_erase_of_ne hx).mpr h
  | device h => exact .device h
  | conn d hd h => exact .conn d hd h

/-- A device that leaves the list has been freed. -/
theorem Known.dropDev (h : T.Known x) (d : Ptr) (hno : ∀ p, p ∉ T.connections d) : (T.dropDev d).Known x := by
  have hother : ∀ {y}, y ≠ d → y ∈ T.deviceList → y ∈ (T.dropDev d).deviceList := by
    intro y hy hmem
    rw [dropDev_deviceList, SlotTable.mem_def, SlotTable.elements_remove]
    exact (List.mem_erase_of_ne hy).mpr hmem
  cases h with
  | freedConn h => exact .freedConn h
  | freedClient h => exact .freedClient h
  | freedDev h => exact .freedDev (update_succ_ne_zero h d)
  | client h => exact .client h
  | device h =>
    by_cases hx : x = d
    · subst hx
      exact .freedDev (update_succ_self T.freedDev x)
    · exact .device (hother hx h)
  | conn d' hd' h =>
    have hne : d' ≠ d := by
      rintro rfl
      exact hno x h
    exact .conn d' (hother hne hd') h

end Known

variable {T T' : Registry} {reliable : Prop} {removing : Option Ptr}

/-- A step that makes no record. -/
theorem Accounted.keep (h : T.Accounted) (hfresh : T'.fresh = T.fresh) (hknown : ∀ x, T.Known x → T'.Known x)
    (hsockets : ∀ c, T'.closedSocket c = T'.freedClient c) : T'.Accounted :=
  ⟨fun x hpos hlt => hknown x (h.records x hpos (hfresh ▸ hlt)), hsockets⟩

/-- A step that makes one record. -/
theorem Accounted.make (h : T.Accounted) (hfresh : T'.fresh = T.fresh + 1) (hnew : T'.Known T.fresh)
    (hknown : ∀ x, T.Known x → T'.Known x) (hsockets : ∀ c, T'.closedSocket c = T'.freedClient c) : T'.Accounted := by
  refine ⟨fun x hpos hlt => ?_, hsockets⟩
  rw [hfresh] at hlt
  rcases Nat.lt_succ_iff_lt_or_eq.mp hlt with hlt | rfl
  · exact hknown x (h.records x hpos hlt)
  · exact hnew

theorem Accounted.unlink (h : T.Accounted) (d p : Ptr) (e : ConnEntry) : (T.unlink d p e).Accounted :=
  h.keep rfl (fun _ hx => hx.unlink d p e) h.sockets

theorem Accounted.dropClient (h : T.Accounted) (c : Ptr) (e : ClientEntry) : (T.dropClient c e).Accounted := by
  refine h.keep rfl (fun _ hx => hx.dropClient c e) fun c' => ?_
  rw [dropClient_closedSocket, dropClient_freedClient, h.sockets c]
  exact congrFun (congrArg (Function.update · c _) (funext h.sockets)) c'

theorem Accounted.setClient (h : T.Accounted) (c : Ptr) (e : ClientEntry) : (T.setClient c e).Accounted :=
  h.keep rfl (fun _ hx => hx.mono id id id id (fun _ => id) (fun _ _ => id)) h.sockets

/-- Every step of the registry keeps track of the records. -/
theorem Accounted.step (h : T.Accounted) (hok : T.Ok reliable none) (hs : Step reliable removing T T') : T'.Accounted := by
  cases hs with
  | newClient =>
    refine h.make rfl (.client (SlotTable.mem_add.mpr (.inl rfl))) (fun x hx => ?_) h.sockets
    exact hx.mono id id id (fun h => SlotTable.mem_add.mpr (.inr h)) (fun _ => id) (fun _ _ => id)
  | listen c _ _ => exact h.setClient c _
  | connect d c hd hconns _ _ =>
    have hmem : ∀ d' q, q ∈ (T.connect d c).connections d' ↔ (d' = d ∧ q = T.fresh) ∨ q ∈ T.connections d' := by
      intro d' q
      rw [show (T.connect d c).connections d' =
        if d' = d then (T.connections d).add capacityStep T.fresh else T.connections d' from
          connections_link hconns T.fresh d']
      split
      · next heq =>
        subst heq
        rw [SlotTable.mem_add]
        simp
      · next hne => simp [hne]
    refine h.make rfl (.conn d hd ((hmem d _).mpr (.inl ⟨rfl, rfl⟩))) (fun x hx => ?_) h.sockets
    exact hx.mono id id id id (fun _ => id) fun d' _ h => (hmem d' x).mpr (.inr h)
  | lostConn e =>
    refine h.make rfl (.freedConn (update_succ_self T.freedConn T.fresh)) (fun x hx => ?_) h.sockets
    exact hx.mono (fun h => update_succ_ne_zero h T.fresh) id id id (fun _ => id) (fun _ _ => id)
  | establish d p c hl =>
    have hset : (T.setConn p { T.conns p with state := .connected }).Accounted :=
      h.keep rfl (fun _ hx => hx.mono id id id id (fun _ => id) (fun _ _ => id)) h.sockets
    exact hset.setClient c _
  | reply c _ _ => exact h.setClient c _
  | refuse d p c e _ _ => exact (h.unlink d p e).setClient c _
  | abandon d p c e _ _ _ => exact h.unlink d p e
  | close d p c e e' _ => exact (h.unlink d p e).dropClient c e'
  | discard c e _ _ => exact h.dropClient c e
  | newDevice u =>
    refine h.make rfl (.device (SlotTable.mem_add.mpr (.inl rfl))) (fun x hx => ?_) h.sockets
    refine hx.mono id id id id (fun _ hd => SlotTable.mem_add.mpr (.inr hd)) fun d hd h => ?_
    have hne : d ≠ T.fresh := Nat.ne_of_lt (hok.device_lt d hd)
    simpa [connections, hne] using h
  | lostDevice u =>
    refine h.make rfl (.freedDev (update_succ_self T.freedDev T.fresh)) (fun x hx => ?_) h.sockets
    refine hx.mono id id (fun h => update_succ_ne_zero h T.fresh) id (fun _ => id) fun d hd h => ?_
    have hne : d ≠ T.fresh := Nat.ne_of_lt (hok.device_lt d hd)
    simpa [connections, hne] using h
  | device d e _ hconns _ _ =>
    refine h.keep rfl (fun x hx => hx.mono id id id id (fun _ => id) fun d' _ h => ?_) h.sockets
    by_cases hne : d' = d
    · subst hne
      rw [SlotTable.mem_def] at h ⊢
      simpa [connections, hconns] using h
    · simpa [connections, hne] using h
  | dropDev d _ hno => exact h.keep rfl (fun _ hx => hx.dropDev d hno) h.sockets

theorem Accounted.steps (h : T.Accounted) (hok : T.Ok reliable none) (hs : Steps reliable removing T T') :
    T'.Accounted := by
  induction hs with
  | refl => exact h
  | tail hsteps hstep ih => exact ih.step (hok.steps hsteps) hstep

theorem Accounted.phases (h : T.Accounted) (hsound : T.Sound reliable) (hs : Phases reliable T T') : T'.Accounted := by
  induction hs with
  | refl => exact h
  | tail hphases hphase ih =>
    obtain ⟨removing, hsteps, -⟩ := hphase
    exact ih.steps (hsound.phases hphases).ok hsteps

end Registry

/-! ### Runs -/

theorem Steady.sound {env : Env} {w : World} (h : Steady env w) : w.registry.Sound env.Reliable :=
  ⟨h.tracked.ok, h.settled⟩

/-- Every operation keeps track of the records. -/
theorem accounted_exec {env : Env} {w : World} (h : Steady env w) (hw : w.registry.Accounted) (op : Op) :
    (exec env w op).registry.Accounted := by
  by_cases hdies : DiesMidConnect env w op
  · obtain ⟨d, p, c, e, e₁, e₂, -, hreg⟩ := registry_exec_dies h hdies
    rw [hreg]
    exact ((hw.unlink d p e).dropClient c e₁).dropClient c e₂
  · exact hw.phases h.sound (phases_exec h op hdies)

/-- After every run each record that was ever made is on a list, or has been freed. -/
theorem accounted_run (env : Env) (ops : List Op) : (run env ops).registry.Accounted := by
  have h : Steady env (run env ops) ∧ (run env ops).registry.Accounted := by
    refine run_induct (P := fun w => Steady env w ∧ w.registry.Accounted) ⟨steady_init env, ?_⟩ ?_ ops
    · refine ⟨fun x hpos hlt => absurd hlt (Nat.not_lt.mpr hpos), fun c => rfl⟩
    · rintro w op ⟨hsteady, hw⟩
      exact ⟨steady_exec hsteady op, accounted_exec hsteady hw op⟩
  exact h.2

/-- In every run the daemon frees a record before it loses sight of it: whatever it has ever made
is a client or a device on its list, or a connection on the list of such a device, or has been
freed. -/
theorem nothing_leaks (env : Env) (ops : List Op) :
    let w := run env ops
    ∀ x, 0 < x → x < w.fresh →
      (x ∈ w.clientList ∨ x ∈ w.deviceList ∨ ∃ d ∈ w.deviceList, x ∈ w.connections d) ∨
        .freeConn x ∈ w.log ∨ .freeDev x ∈ w.log ∨ .freeClient x ∈ w.log ∧ .closeSocket x ∈ w.log := by
  intro w x hpos hlt
  have haccounted : w.registry.Accounted := accounted_run env ops
  cases haccounted.records x hpos hlt with
  | freedConn h => exact .inr (.inl (List.count_pos_iff.mp (Nat.pos_of_ne_zero h)))
  | freedDev h => exact .inr (.inr (.inl (List.count_pos_iff.mp (Nat.pos_of_ne_zero h))))
  | freedClient h =>
    have hsocket : w.registry.closedSocket x ≠ 0 := (haccounted.sockets x).trans_ne h
    exact .inr (.inr (.inr
      ⟨List.count_pos_iff.mp (Nat.pos_of_ne_zero h), List.count_pos_iff.mp (Nat.pos_of_ne_zero hsocket)⟩))
  | client h => exact .inl (.inl h)
  | device h => exact .inl (.inr (.inl h))
  | conn d hd h => exact .inl (.inr (.inr ⟨d, hd, h⟩))

end Usbmuxd
