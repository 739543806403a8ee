import Usbmuxd.Registry.Refinement
import Usbmuxd.Threads.Notices

/-!
# A client and a device

What one client and one device are to each other, in the terms of a subscriber and an item. All that
the main thread does (to accept and serve clients, to add, activate and remove devices) is what an
owner of items may do; `device_remove` is also taken apart into three, since a section of a preflight
thread that does not need `device_list_mutex` may fall into it.

## The model

* `World.watch` — a client and a device, with the thread of the device.
* `beginRemoval`, `reportRemoval`, `endRemoval` — the parts of `device_remove`.

## What is proved

* `working_exec` — what the main thread does is what an owner does.
* `beginRemoval_spec`, `reportRemoval_spec`, `endRemoval_spec` — so are the parts of a removal.
-/

namespace Usbmuxd

open World Subscription Relation

/-! ### A client and a device -/

/-- What a device is to the listeners; `reported` for one that is being removed and has been reported. -/
def MuxDevice.item (dev : MuxDevice) (reported : Bool) : Item :=
  match dev.state with
  | .init => .waiting
  | .active => if dev.visible then .shown else .hidden
  | .dead => if reported then .left else .leaving dev.visible

namespace World

variable (w : World)

/-- What the device with a number is to the listeners. -/
def item (reported : Bool) (id : ℕ) : Item :=
  match getMuxDeviceForId w id with
  | some d => (w.devs d).item reported
  | none => if id < w.nextDeviceId then .gone else .unborn

/-- What a client is to the devices. -/
def subscriber (c : Ptr) : Subscriber :=
  if c ∈ w.clientList then if (w.clients c).state = .listen then .listening else .silent
  else if c < w.fresh then .gone else .absent

/-- A client and a device, with the thread of the device. -/
def watch (reported : Bool) (publisher : Publisher) (c : Ptr) (id : ℕ) : Watch where
  subscriber := w.subscriber c
  item := w.item reported id
  started := .preflight id ∈ w.log
  publisher := publisher
  notices := w.notices c id

end World

/-- The two lists are in order. -/
structure WellListed (w : World) : Prop where
  clients : w.clientList.Nodup
  devices : w.deviceList.Nodup
  client : ∀ c ∈ w.clientList, c < w.fresh ∧ (w.clients c).Armed
  device : ∀ d ∈ w.deviceList, d < w.fresh ∧ (w.devs d).id < w.nextDeviceId
  distinct : ∀ d ∈ w.deviceList, ∀ d' ∈ w.deviceList, (w.devs d).id = (w.devs d').id → d = d'
  invisible : ∀ d ∈ w.deviceList, (w.devs d).state = .init → (w.devs d).visible = false

section Lookups

variable {env : Env} {w w' : World} {c d : Ptr} {id : ℕ} {reported : Bool} {publisher : Publisher}

theorem WellListed.lookup (h : WellListed w) : getMuxDeviceForId w id = some d ↔ d ∈ w.deviceList ∧ (w.devs d).id = id := by
  constructor
  · intro hfound
    exact ⟨SlotTable.find?_mem hfound, by simpa using SlotTable.find?_pred hfound⟩
  · rintro ⟨hd, rfl⟩
    refine SlotTable.find?_unique hd (by simp) fun d' hd' hid => ?_
    exact h.distinct d' hd' d hd (by simpa using hid)

theorem lookup_none : getMuxDeviceForId w id = none ↔ ∀ d ∈ w.deviceList, (w.devs d).id ≠ id := by
  constructor
  · intro hnone d hd
    simpa using SlotTable.find?_none hnone hd
  · intro h
    rw [Option.eq_none_iff_forall_ne_some]
    intro d hfound
    exact h d (SlotTable.find?_mem hfound) (by simpa using SlotTable.find?_pred hfound)

theorem WellListed.item (h : WellListed w) (hd : d ∈ w.deviceList) :
    w.item reported (w.devs d).id = (w.devs d).item reported := by
  rw [World.item, h.lookup.mpr ⟨hd, rfl⟩]

theorem item_unlisted (h : ∀ d ∈ w.deviceList, (w.devs d).id ≠ id) :
    w.item reported id = if id < w.nextDeviceId then .gone else .unborn := by
  rw [World.item, lookup_none.mpr h]

/-- The devices that have a number, in one world and in another. -/
theorem item_congr {reported' : Bool} (h : WellListed w) (h' : WellListed w')
    (hlist : ∀ d, d ∈ w'.deviceList ∧ (w'.devs d).id = id ↔ d ∈ w.deviceList ∧ (w.devs d).id = id)
    (hitem : ∀ d ∈ w.deviceList, (w.devs d).id = id → (w'.devs d).item reported' = (w.devs d).item reported)
    (hnext : id < w'.nextDeviceId ↔ id < w.nextDeviceId) : w'.item reported' id = w.item reported id := by
  by_cases hfound : ∃ d ∈ w.deviceList, (w.devs d).id = id
  · obtain ⟨d, hd, hid⟩ := hfound
    rw [World.item, World.item, h.lookup.mpr ⟨hd, hid⟩, h'.lookup.mpr ((hlist d).mpr ⟨hd, hid⟩)]
    exact hitem d hd hid
  · have hnone : ∀ d ∈ w.deviceList, (w.devs d).id ≠ id := fun d hd hid => hfound ⟨d, hd, hid⟩
    have hnone' : ∀ d ∈ w'.deviceList, (w'.devs d).id ≠ id := fun d hd hid =>
      hfound ⟨d, (hlist d).mp ⟨hd, hid⟩⟩
    rw [item_unlisted hnone, item_unlisted hnone']
    simp only [hnext]

theorem MuxDevice.item_of_display {dev dev' : MuxDevice} (h : dev'.display = dev.display) :
    dev'.item reported = dev.item reported := by
  have hstate := congrArg Display.state h
  have hvisible := congrArg Display.visible h
  simp only [display] at hstate hvisible
  rw [item, item, hstate, hvisible]

theorem Stays.devId (h : Stays w w') (d : Ptr) : (w'.devs d).id = (w.devs d).id := congrArg Display.id (h.display d)

theorem Stays.devState (h : Stays w w') (d : Ptr) : (w'.devs d).state = (w.devs d).state :=
  congrArg Display.state (h.display d)

theorem Stays.devVisible (h : Stays w w') (d : Ptr) : (w'.devs d).visible = (w.devs d).visible :=
  congrArg Display.visible (h.display d)

theorem Stays.item (h : Stays w w') : w'.item reported id = w.item reported id := by
  have hfind : getMuxDeviceForId w' id = getMuxDeviceForId w id := by
    rw [getMuxDeviceForId, getMuxDeviceForId, h.deviceList]
    simp only [h.devId]
  rw [World.item, World.item, hfind, h.nextDeviceId]
  cases getMuxDeviceForId w id with
  | none => rfl
  | some d => exact MuxDevice.item_of_display (h.display d)

/-! ### What is aside -/

theorem WellListed.stays (h : WellListed w) (hs : Stays w w') (hfresh : w.fresh ≤ w'.fresh)
    (hlisted : ∀ c ∈ w'.clientList, c ∈ w.clientList) (hnodup : w'.clientList.Nodup) : WellListed w' where
  clients := hnodup
  devices := hs.deviceList ▸ h.devices
  client c hc := by
    obtain ⟨hlt, harmed⟩ := h.client c (hlisted c hc)
    exact ⟨hlt.trans_le hfresh, hs.armed c harmed⟩
  device d hd := by
    rw [hs.deviceList] at hd
    obtain ⟨hlt, hid⟩ := h.device d hd
    exact ⟨hlt.trans_le hfresh, by rwa [hs.devId, hs.nextDeviceId]⟩
  distinct d hd d' hd' heq := by
    rw [hs.deviceList] at hd hd'
    exact h.distinct d hd d' hd' (by rwa [hs.devId, hs.devId] at heq)
  invisible d hd hstate := by
    rw [hs.deviceList] at hd
    rw [hs.devState] at hstate
    rw [hs.devVisible]
    exact h.invisible d hd hstate

theorem WellListed.aside (h : WellListed w) (ha : Aside w w') : WellListed w' :=
  h.stays ha.toStays ha.fresh ha.listed (ha.nodup h.clients)

theorem WellListed.told {heard : Ptr → ℕ → List Notice} (h : WellListed w) (ht : Informed heard w w') : WellListed w' :=
  h.stays ht.toStays ht.fresh.ge (fun _ hc => ht.clientList ▸ hc) (ht.clientList.symm ▸ h.clients)

/-- A client stays what it is, or goes. -/
theorem Aside.subscriber (ha : Aside w w') (h : WellListed w) (c : Ptr) :
    w'.subscriber c = w.subscriber c ∨ w'.subscriber c = .gone := by
  by_cases hc : c ∈ w'.clientList
  · refine .inl ?_
    rw [World.subscriber, World.subscriber, if_pos hc, if_pos (ha.listed c hc)]
    simp only [ha.listens]
  · by_cases hlt : c < w'.fresh
    · refine .inr ?_
      rw [World.subscriber, if_neg hc, if_pos hlt]
    · have hlt' : ¬ c < w.fresh := fun hlt' => hlt (hlt'.trans_le ha.fresh)
      have hc' : c ∉ w.clientList := fun hc' => hlt' (h.client c hc').1
      refine .inl ?_
      rw [World.subscriber, World.subscriber, if_neg hc, if_neg hc', if_neg hlt, if_neg hlt']

/-- In the abstract model nothing happens but that the subscriber may go. -/
theorem Aside.watch (ha : Aside w w') (h : WellListed w) (c : Ptr) (id : ℕ) :
    w'.watch reported publisher c id = w.watch reported publisher c id ∨
      w'.watch reported publisher c id = { w.watch reported publisher c id with subscriber := .gone } := by
  have hstarted : decide (.preflight id ∈ w'.log) = decide (.preflight id ∈ w.log) := by simp only [ha.preflight]
  obtain hsame | hgone := ha.subscriber h c
  · refine .inl ?_
    simp only [World.watch, hsame, ha.item, ha.notices, hstarted]
  · refine .inr ?_
    simp only [World.watch, hgone, ha.item, ha.notices, hstarted]

theorem Aside.steps (ha : Aside w w') (h : WellListed w) (c : Ptr) (id : ℕ) :
    Steps (w.watch reported publisher c id) (w'.watch reported publisher c id) := by
  obtain hsame | hgone := @Aside.watch w w' reported publisher ha h c id
  · rw [hsame]
  · rw [hgone]
    exact .single (.leave _)

theorem Aside.setDev {f : MuxDevice → MuxDevice} (h : (f (w.devs d)).display = (w.devs d).display) :
    Aside w (w.setDev d f) := by
  refine ⟨⟨fun _ => .rfl, fun _ h => h, rfl, rfl, fun d' => ?_, fun _ => .rfl⟩, le_rfl, fun _ h => h,
    fun h => h, fun _ _ => rfl⟩
  by_cases hd : d' = d
  · subst hd
    rwa [setDev_devs, Function.update_self]
  · rw [setDev_devs, Function.update_of_ne hd]

/-! ### Who is told -/

theorem subscriber_listening : w.subscriber c = .listening ↔ c ∈ w.clientList ∧ (w.clients c).state = .listen := by
  unfold World.subscriber
  split
  · rename_i hc
    split
    · rename_i hstate
      simp [hc, hstate]
    · rename_i hstate
      simp [hstate]
  · rename_i hc
    split <;> simp [hc]

theorem Informed.watch {heard : Ptr → ℕ → List Notice} (ht : Informed heard w w') (c : Ptr) (id : ℕ) :
    w'.watch reported publisher c id =
      { w.watch reported publisher c id with notices := w.notices c id ++ heard c id } := by
  have hsubscriber : w'.subscriber c = w.subscriber c := by
    simp only [World.subscriber, ht.clientList, ht.fresh, ht.listens]
  simp only [World.watch, hsubscriber, ht.item, ht.notices, ht.preflight]

/-- The listeners on the list hear of a device. -/
theorem audience_eq (w : World) (id : ℕ) (notice : Notice) (c : Ptr) (id' : ℕ) :
    audience w w.clientList.elements id notice c id' =
      if id' = id then if w.subscriber c = .listening then [notice] else [] else [] := by
  unfold audience
  simp only [subscriber_listening, SlotTable.mem_def]
  by_cases hid : id' = id
  · simp [hid]
  · simp [hid]

end Lookups

/-! ### Devices -/

section Devices

variable {env : Env} {w w' : World} {d : Ptr} {reported : Bool}

theorem WellListed.setDev (h : WellListed w) {f : MuxDevice → MuxDevice} (hid : (f (w.devs d)).id = (w.devs d).id)
    (hinvisible : (f (w.devs d)).state = .init → (f (w.devs d)).visible = false) : WellListed (w.setDev d f) := by
  have hid' : ∀ d', ((w.setDev d f).devs d').id = (w.devs d').id := by
    intro d'
    by_cases hd : d' = d
    · subst hd
      rwa [setDev_devs, Function.update_self]
    · rw [setDev_devs, Function.update_of_ne hd]
  refine ⟨h.clients, h.devices, h.client, fun d' hd' => ?_, fun d' hd' d'' hd'' heq => ?_, fun d' hd' hstate => ?_⟩
  · rw [hid']
    exact h.device d' hd'
  · rw [hid', hid'] at heq
    exact h.distinct d' hd' d'' hd'' heq
  · by_cases hd : d' = d
    · subst hd
      rw [setDev_devs, Function.update_self] at hstate ⊢
      exact hinvisible hstate
    · rw [setDev_devs, Function.update_of_ne hd] at hstate ⊢
      exact h.invisible d' hd' hstate

/-- A device of the list is changed. -/
theorem watch_setDev (h : WellListed w) (hd : d ∈ w.deviceList) {f : MuxDevice → MuxDevice}
    (hid : (f (w.devs d)).id = (w.devs d).id)
    (hinvisible : (f (w.devs d)).state = .init → (f (w.devs d)).visible = false) (reported : Bool)
    (publisher : Publisher) (c : Ptr) (id : ℕ) :
    (w.setDev d f).watch reported publisher c id =
      { w.watch reported publisher c id with
        item := if id = (w.devs d).id then (f (w.devs d)).item reported else w.item reported id } := by
  have hitem : (w.setDev d f).item reported id =
      if id = (w.devs d).id then (f (w.devs d)).item reported else w.item reported id := by
    have hself : ((w.setDev d f).devs d) = f (w.devs d) := by rw [setDev_devs, Function.update_self]
    split
    · rename_i heq
      subst heq
      have hfound : (w.setDev d f).item reported ((w.setDev d f).devs d).id = ((w.setDev d f).devs d).item reported :=
        (h.setDev hid hinvisible).item hd
      rw [hself, hid] at hfound
      exact hfound
    · rename_i hne
      refine item_congr h (h.setDev hid hinvisible) (fun d' => ?_) (fun d' hd' hid' => ?_) .rfl
      · by_cases hd' : d' = d
        · subst hd'
          rw [hself, hid]
          exact .rfl
        · rw [setDev_devs, Function.update_of_ne hd']
          exact .rfl
      · have hd' : d' ≠ d := by
          rintro rfl
          exact hne hid'.symm
        rw [setDev_devs, Function.update_of_ne hd']
  simp only [World.watch, hitem]
  rfl

theorem WellListed.releaseDev (h : WellListed w) (d : Ptr) : WellListed (releaseDev d w) where
  clients := h.clients
  devices := h.devices.remove d
  client := h.client
  device d' hd' := h.device d' (SlotTable.mem_of_mem_remove hd')
  distinct d' hd' d'' hd'' := h.distinct d' (SlotTable.mem_of_mem_remove hd') d'' (SlotTable.mem_of_mem_remove hd'')
  invisible d' hd' := h.invisible d' (SlotTable.mem_of_mem_remove hd')

/-- The entries that are no news leave the notices and the threads as they are. -/
theorem watch_log {es : List Event} (hlog : w'.log = w.log ++ es) (hes : ∀ e ∈ es, e.isNews = false) (c : Ptr) (id : ℕ) :
    w'.notices c id = w.notices c id ∧ decide (.preflight id ∈ w'.log) = decide (.preflight id ∈ w.log) := by
  have hgrows : w.Grows (fun e => !e.isNews) w' := ⟨es, hlog, fun e he => by simpa using hes e he⟩
  exact ⟨notices_of_grows hgrows c id, by simp only [preflight_of_grows hgrows]⟩

/-- A device of the list is freed. -/
theorem watch_releaseDev (h : WellListed w) (hd : d ∈ w.deviceList) (publisher : Publisher) (c : Ptr) (id : ℕ) :
    (releaseDev d w).watch reported publisher c id =
      { w.watch reported publisher c id with
        item := if id = (w.devs d).id then .gone else w.item reported id } := by
  have hlog := watch_log (show (releaseDev d w).log = w.log ++ [.freeDev d] from rfl) (by simp [Event.isNews]) c id
  have hmem : ∀ d', d' ∈ (releaseDev d w).deviceList ↔ d' ≠ d ∧ d' ∈ w.deviceList := fun d' =>
    SlotTable.mem_remove h.devices
  have hitem : (releaseDev d w).item reported id =
      if id = (w.devs d).id then .gone else w.item reported id := by
    split
    · rename_i heq
      subst heq
      rw [item_unlisted, if_pos]
      · exact (h.device d hd).2
      · intro d' hd' heq
        obtain ⟨hne, hd'⟩ := (hmem d').mp hd'
        exact hne (h.distinct d' hd' d hd heq)
    · rename_i hne
      refine item_congr h (h.releaseDev d) (fun d' => ?_) (fun _ _ _ => rfl) .rfl
      rw [hmem]
      constructor
      · rintro ⟨⟨-, hd'⟩, hid⟩
        exact ⟨hd', hid⟩
      · rintro ⟨hd', hid⟩
        refine ⟨⟨?_, hd'⟩, hid⟩
        rintro rfl
        exact hne hid.symm
  simp only [World.watch, hitem, hlog.1, hlog.2]
  rfl

/-- Which of the devices is being removed does not matter for one that is not. -/
theorem item_alive {reported' : Bool} {id : ℕ} (h : WellListed w)
    (halive : ∀ d ∈ w.deviceList, (w.devs d).id = id → (w.devs d).state ≠ .dead) :
    w.item reported' id = w.item reported id := by
  refine item_congr h h (fun _ => .rfl) (fun d hd hid => ?_) .rfl
  have hstate := halive d hd hid
  unfold MuxDevice.item
  cases hs : (w.devs d).state with
  | dead => exact absurd hs hstate
  | _ => rfl

end Devices

/-! ### The main thread -/

/-- No device of the list is being removed. -/
def Alive (w : World) : Prop := ∀ d ∈ w.deviceList, (w.devs d).state ≠ .dead

/-- From one world to the other the main thread has done what an owner may do. -/
structure Working (w w' : World) : Prop where
  orderly : WellListed w'
  alive : Alive w'
  steps : ∀ publisher c id, Steps (w.watch false publisher c id) (w'.watch false publisher c id)

section Working

variable {env : Env} {w₀ w w' : World} {c d : Ptr}

theorem Alive.stays (h : Alive w) (hs : Stays w w') : Alive w' := by
  intro d hd
  rw [hs.deviceList] at hd
  rw [hs.devState]
  exact h d hd

theorem Alive.item (h : Alive w) (id : ℕ) (visible : Bool) : w.item false id ≠ .leaving visible := by
  unfold World.item
  split
  · rename_i d hfound
    have hstate := h d (SlotTable.find?_mem hfound)
    unfold MuxDevice.item
    split
    · nofun
    · split <;> nofun
    · rename_i hdead
      exact absurd hdead hstate
  · split <;> nofun

theorem Working.aside (h : Working w₀ w) (ha : Aside w w') : Working w₀ w' :=
  ⟨h.orderly.aside ha, h.alive.stays ha.toStays, fun publisher c id =>
    (h.steps publisher c id).trans (ha.steps h.orderly c id)⟩

/-- A client is accepted. -/
theorem Working.registerClient (h : Working w₀ w) : Working w₀ (registerClient w) := by
  have hlog := watch_log (show (Usbmuxd.registerClient w).log = w.log ++ [.newClient w.fresh] from rfl)
    (by simp [Event.isNews])
  have hmem : ∀ c, c ∈ (Usbmuxd.registerClient w).clientList ↔ c = w.fresh ∨ c ∈ w.clientList := fun c =>
    SlotTable.mem_add
  have hunlisted : w.fresh ∉ w.clientList := fun hc => (h.orderly.client _ hc).1.false
  refine ⟨?_, h.alive, fun publisher c id => (h.steps publisher c id).trans ?_⟩
  · refine ⟨h.orderly.clients.add hunlisted, h.orderly.devices, fun c hc => ?_, fun d hd => ?_, h.orderly.distinct,
      h.orderly.invisible⟩
    · obtain rfl | hc := (hmem c).mp hc
      · exact ⟨Nat.lt_succ_self _, fun hnone => by simp at hnone⟩
      · obtain ⟨hlt, harmed⟩ := h.orderly.client c hc
        refine ⟨hlt.trans (Nat.lt_succ_self _), ?_⟩
        rwa [registerClient_clients, Function.update_of_ne hlt.ne]
    · exact ⟨(h.orderly.device d hd).1.trans (Nat.lt_succ_self _), (h.orderly.device d hd).2⟩
  · obtain ⟨hnotices, hstarted⟩ := hlog c id
    have hitem : (Usbmuxd.registerClient w).item false id = w.item false id := rfl
    by_cases hc : c = w.fresh
    · subst hc
      have habsent : w.subscriber w.fresh = .absent := by simp [World.subscriber, hunlisted]
      have hsilent : (Usbmuxd.registerClient w).subscriber w.fresh = .silent := by
        simp [World.subscriber, SlotTable.mem_add]
      have hstep := Step.accept (w.watch false publisher w.fresh id) habsent
      simp only [World.watch, hsilent, hitem, hnotices, hstarted] at hstep ⊢
      exact .single hstep
    · have hsame : (Usbmuxd.registerClient w).subscriber c = w.subscriber c := by
        have hlt : c < w.fresh + 1 ↔ c < w.fresh :=
        ⟨fun hlt => lt_of_le_of_ne (Nat.le_of_lt_succ hlt) hc, Nat.lt_succ_of_lt⟩
        simp only [World.subscriber, hmem, hc, false_or, registerClient_clients, Function.update_of_ne hc,
          registerClient_fresh, hlt]
      simp only [World.watch, hsame, hitem, hnotices, hstarted]
      exact .refl

/-- The one element with a property, where there is no other. -/
theorem filter_unique {l : List Ptr} (hnodup : l.Nodup) {x : Ptr} (hx : x ∈ l) {p : Ptr → Bool}
    (hp : ∀ y ∈ l, p y = true → y = x) : l.filter p = if p x then [x] else [] := by
  split
  · rename_i hpx
    have hcongr : l.filter p = l.filter (· == x) := by
      refine List.filter_congr fun y hy => ?_
      by_cases heq : y = x
      · simp [heq, hpx]
      · have hpy : p y = false := by
          by_contra hne
          exact heq (hp y hy (by simpa using hne))
        simp [heq, hpy]
    rw [hcongr, List.filter_beq, List.count_eq_one_of_mem hnodup hx]
    rfl
  · rename_i hpx
    rw [List.filter_eq_nil_iff]
    intro y hy hpy
    exact hpx (hp y hy hpy ▸ hpy)

/-- What a client that begins to listen is told of a device. -/
theorem shown_infos (h : WellListed w) (env : Env) (id : ℕ) :
    (((deviceGetList env false w).filter (·.id = id)).map fun _ => Notice.appeared) =
      if w.item false id = .shown then [.appeared] else [] := by
  unfold deviceGetList
  rw [List.filter_map, List.filter_filter, List.map_map]
  by_cases hfound : ∃ d ∈ w.deviceList, (w.devs d).id = id
  · obtain ⟨d, hd, hid⟩ := hfound
    rw [filter_unique h.devices hd]
    · have hitem : w.item false id = .shown ↔ (w.devs d).state = .active ∧ (w.devs d).visible = true := by
        rw [← hid, h.item hd, MuxDevice.item]
        cases (w.devs d).state <;> cases (w.devs d).visible <;> simp
      simp only [hitem]
      by_cases hshown : (w.devs d).state = .active ∧ (w.devs d).visible = true
      · simp [hshown, deviceInfo, hid]
      · rw [if_neg hshown, if_neg]
        · rfl
        · simpa [deviceInfo, hid] using hshown
    · intro d' hd' hp
      refine h.distinct d' hd' d hd ?_
      have hid' : (w.devs d').id = id := by
        exact of_decide_eq_true (Bool.and_eq_true_iff.mp hp).1
      exact hid'.trans hid.symm
  · have hnone : ∀ d ∈ w.deviceList, (w.devs d).id ≠ id := fun d hd hid => hfound ⟨d, hd, hid⟩
    rw [item_unlisted hnone, List.filter_eq_nil_iff.mpr, List.map_nil, if_neg]
    · split <;> nofun
    · intro d hd
      have hne := hnone d hd
      simp [deviceInfo, hne]

/-- A client begins to listen. -/
theorem Working.startListen (hrel : env.Reliable) (h : Working w₀ w) (hc : c ∈ w.clientList)
    (hstate : (w.clients c).state = .command) : Working w₀ (startListen env c w) := by
  have harmed : ((w.setClient c fun cl => { cl with state := .listen }).clients c).Armed := by
    intro hnone
    rw [setClient_clients, Function.update_self] at hnone ⊢
    simpa [hstate] using (h.orderly.client c hc).2 hnone
  have htold := told_notifyAll hrel (deviceGetList env false (w.setClient c fun cl => { cl with state := .listen }))
    (by simp) harmed
  generalize hv : (w.setClient c fun cl => { cl with state := .listen }) = v at harmed htold
  have hlist : v.clientList = w.clientList := hv ▸ rfl
  have hfresh : v.fresh = w.fresh := hv ▸ rfl
  have hother : ∀ c', c' ≠ c → v.clients c' = w.clients c' := by
    intro c' hne
    rw [← hv, setClient_clients, Function.update_of_ne hne]
  have horderly : WellListed v := by
    subst hv
    refine ⟨h.orderly.clients, h.orderly.devices, fun c' hc' => ⟨(h.orderly.client c' hc').1, ?_⟩, h.orderly.device,
      h.orderly.distinct, h.orderly.invisible⟩
    by_cases heq : c' = c
    · exact heq ▸ harmed
    · rw [hother c' heq]
      exact (h.orderly.client c' hc').2
  have halive : Alive v := hv ▸ h.alive
  have hitem : ∀ id, v.item false id = w.item false id := fun id => hv ▸ rfl
  have hresult : Usbmuxd.startListen env c w = notifyAll env c (deviceGetList env false v) v := by rw [← hv]; rfl
  rw [hresult]
  refine ⟨horderly.told htold, halive.stays htold.toStays, fun publisher c' id => (h.steps publisher c' id).trans ?_⟩
  rw [htold.watch]
  have hnotices : v.notices c' id = w.notices c' id := by rw [← hv]; rfl
  have hstarted : decide (.preflight id ∈ v.log) = decide (.preflight id ∈ w.log) := by rw [← hv]; rfl
  by_cases heq : c' = c
  · subst heq
    have hsilent : w.subscriber c' = .silent := by simp [World.subscriber, hc, hstate]
    have hlistening : v.subscriber c' = .listening := subscriber_listening.mpr ⟨hlist ▸ hc, by simp [← hv]⟩
    have hstep := Step.listen (w.watch false publisher c' id) hsilent (h.alive.item id true)
    simp only [World.watch, if_true, shown_infos horderly, hitem, hnotices, hstarted, hlistening] at hstep ⊢
    exact .single hstep
  · have hsame : v.subscriber c' = w.subscriber c' := by
      simp only [World.subscriber, hother c' heq, hlist, hfresh]
    simp only [World.watch, if_neg heq, hsame, hitem, hnotices, hstarted, List.append_nil]
    exact .refl

/-- A device of the list that is not active goes. -/
theorem Working.releaseDev (h : Working w₀ w) (hd : d ∈ w.deviceList) (hstate : (w.devs d).state ≠ .active) :
    Working w₀ (releaseDev d w) := by
  refine ⟨h.orderly.releaseDev d, fun d' hd' => h.alive d' (SlotTable.mem_of_mem_remove hd'),
    fun publisher c id => (h.steps publisher c id).trans ?_⟩
  rw [watch_releaseDev h.orderly hd]
  split
  · rename_i hid
    subst hid
    have hwaiting : w.item false (w.devs d).id = .waiting := by
      rw [h.orderly.item hd, MuxDevice.item]
      cases hs : (w.devs d).state with
      | init => rfl
      | active => exact absurd hs hstate
      | dead => exact absurd hs (h.alive d hd)
    exact .single (.drop _ hwaiting)
  · exact .refl

/-- The thread of a device is started. -/
theorem watch_preflight (w : World) (id : ℕ) (reported : Bool) (publisher : Publisher) (c : Ptr) (id' : ℕ) :
    (w.emit (.preflight id)).watch reported publisher c id' =
      { w.watch reported publisher c id' with started := id' = id ∨ .preflight id' ∈ w.log } := by
  have hnotices : (w.emit (.preflight id)).notices c id' = w.notices c id' := by
    rw [notices_append (show (w.emit (.preflight id)).log = w.log ++ [.preflight id] from rfl)]
    simp [Event.notice]
  have hstarted : decide (.preflight id' ∈ (w.emit (.preflight id)).log) =
      decide (id' = id ∨ .preflight id' ∈ w.log) := by
    simp [or_comm]
  simp only [World.watch, hnotices, hstarted]
  rfl

/-- A device of the list has sent its version, and becomes active. -/
theorem Working.activate (h : Working w₀ w) (hd : d ∈ w.deviceList) (hstate : (w.devs d).state = .init) :
    Working w₀ (preflightWorkerDeviceAdd (w.devs d).id (w.setDev d fun dev => { dev with
      state := .active
      connections := some (.init capacityStep) })) := by
  have hinvisible := h.orderly.invisible d hd hstate
  have horderly : WellListed (w.setDev d fun dev => { dev with
      state := .active
      connections := some (.init capacityStep) }) := h.orderly.setDev rfl nofun
  refine ⟨⟨horderly.clients, horderly.devices, horderly.client, horderly.device, horderly.distinct, horderly.invisible⟩,
    fun d' hd' => ?_, fun publisher c id => (h.steps publisher c id).trans ?_⟩
  · by_cases heq : d' = d
    · subst heq
      simp [preflightWorkerDeviceAdd]
    · simpa [preflightWorkerDeviceAdd, heq] using h.alive d' hd'
  · have hwatch := watch_setDev h.orderly hd (f := fun dev => { dev with
      state := .active
      connections := some (.init capacityStep) }) rfl nofun false publisher c id
    rw [preflightWorkerDeviceAdd, watch_preflight, hwatch]
    by_cases hid : id = (w.devs d).id
    · subst hid
      have hwaiting : w.item false (w.devs d).id = .waiting := by
        rw [h.orderly.item hd, MuxDevice.item, hstate]
      have hstep := Step.activate (w.watch false publisher c (w.devs d).id) hwaiting
      simpa [MuxDevice.item, hinvisible] using ReflTransGen.single hstep
    · simp only [hid, false_or]
      exact .refl

theorem Working.versionInput (h : Working w₀ w) (hd : d ∈ w.deviceList) (vh : VersionHeader) :
    Working w₀ (deviceVersionInput env d vh w) := by
  have hcall := h.aside (.emit (e := .versionInput d vh) rfl w)
  unfold deviceVersionInput
  dsimp only
  split
  · exact hcall
  · rename_i hstate
    replace hstate := not_not.mp hstate
    split
    · exact hcall.releaseDev hd (by rw [hstate]; nofun)
    · generalize hv : (if 2 ≤ vh.major then _ else _ : World) = v
      have haside : Aside (w.emit (.versionInput d vh)) v := by
        subst hv
        split
        · exact (Aside.setDev rfl).trans (.conn (.sendPacket ..))
        · exact .setDev rfl
      have hactive := (hcall.aside haside).activate (d := d) (haside.deviceList ▸ hd)
        ((haside.devState d).trans hstate)
      have hid : ((v.setDev d fun dev => { dev with
          state := .active
          connections := some (.init capacityStep) }).devs d).id = (v.devs d).id := by simp
      rw [hid]
      exact hactive.aside (.setDev rfl)

theorem getNextDeviceId_of_orderly (h : WellListed w) : getNextDeviceId w = w.nextDeviceId := by
  refine nextFreeId_free (fun hmem => ?_) _
  obtain ⟨d, hd, hid⟩ := List.mem_map.mp hmem
  exact (h.device d hd).2.ne hid

theorem WellListed.registerDev (h : WellListed w) (hd : d ∉ w.deviceList)
    (hlt : d < w.fresh ∧ (w.devs d).id < w.nextDeviceId)
    (hid : ∀ d' ∈ w.deviceList, (w.devs d').id ≠ (w.devs d).id)
    (hinvisible : (w.devs d).state = .init → (w.devs d).visible = false) : WellListed (registerDev d w) := by
  have hmem : ∀ d', d' ∈ (Usbmuxd.registerDev d w).deviceList ↔ d' = d ∨ d' ∈ w.deviceList := fun d' => SlotTable.mem_add
  refine ⟨h.clients, h.devices.add hd, h.client, fun d' hd' => ?_, fun d' hd' d'' hd'' heq => ?_, fun d' hd' => ?_⟩
  · obtain rfl | hd' := (hmem d').mp hd'
    · exact hlt
    · exact h.device d' hd'
  · obtain rfl | hold := (hmem d').mp hd'
    · obtain rfl | hd'' := (hmem d'').mp hd''
      · rfl
      · exact absurd heq.symm (hid d'' hd'')
    · obtain rfl | hd'' := (hmem d'').mp hd''
      · exact absurd heq (hid d' hold)
      · exact h.distinct d' hold d'' hd'' heq
  · obtain rfl | hd' := (hmem d').mp hd'
    · exact hinvisible
    · exact h.invisible d' hd'

/-- A device is put on the list. -/
theorem item_registerDev (h : WellListed w) (h' : WellListed (registerDev d w)) (id : ℕ) :
    (registerDev d w).item false id = if id = (w.devs d).id then (w.devs d).item false else w.item false id := by
  have hmem : ∀ d', d' ∈ (registerDev d w).deviceList ↔ d' = d ∨ d' ∈ w.deviceList := fun d' => SlotTable.mem_add
  split
  · rename_i heq
    subst heq
    exact h'.item ((hmem d).mpr (.inl rfl))
  · rename_i hne
    refine item_congr h h' (fun d' => ?_) (fun _ _ _ => rfl) .rfl
    rw [hmem]
    constructor
    · rintro ⟨rfl | hd', hid⟩
      · exact absurd hid.symm hne
      · exact ⟨hd', hid⟩
    · rintro ⟨hd', hid⟩
      exact ⟨.inr hd', hid⟩

/-- A number is given to a device that is not on the list. -/
theorem WellListed.allocDev (h : WellListed w) (u : UsbDevice) : WellListed (allocDev u w.nextDeviceId w) := by
  have hdevs : ∀ d ∈ w.deviceList, (Usbmuxd.allocDev u w.nextDeviceId w).devs d = w.devs d := fun d hd => by
    rw [allocDev_devs, Function.update_of_ne (h.device d hd).1.ne]
  refine ⟨h.clients, h.devices, fun c hc => ?_, fun d hd => ?_, fun d hd d' hd' heq => ?_, fun d hd => ?_⟩
  · exact ⟨Nat.lt_succ_of_lt (h.client c hc).1, (h.client c hc).2⟩
  · rw [hdevs d hd]
    exact ⟨Nat.lt_succ_of_lt (h.device d hd).1, Nat.lt_succ_of_lt (h.device d hd).2⟩
  · rw [hdevs d hd, hdevs d' hd'] at heq
    exact h.distinct d hd d' hd' heq
  · rw [hdevs d hd]
    exact h.invisible d hd

theorem item_allocDev (h : WellListed w) (u : UsbDevice) {id : ℕ} (hid : id ≠ w.nextDeviceId) :
    (allocDev u w.nextDeviceId w).item false id = w.item false id := by
  have hdevs : ∀ d ∈ w.deviceList, (allocDev u w.nextDeviceId w).devs d = w.devs d := fun d hd => by
    rw [allocDev_devs, Function.update_of_ne (h.device d hd).1.ne]
  refine item_congr h (h.allocDev u) (fun d => and_congr_right fun hd => ?_) (fun d hd _ => by rw [hdevs d hd]) ?_
  · rw [hdevs d hd]
  · exact ⟨fun hlt => lt_of_le_of_ne (Nat.le_of_lt_succ hlt) hid, Nat.lt_succ_of_lt⟩

theorem subscriber_allocDev (u : UsbDevice) (id : ℕ) (c : Ptr) :
    (allocDev u id w).subscriber c = w.subscriber c ∨ (allocDev u id w).subscriber c = .gone := by
  by_cases hc : c ∈ w.clientList
  · exact .inl (by simp [World.subscriber, hc])
  · by_cases hlt : c < w.fresh + 1
    · exact .inr (by simp [World.subscriber, hc, hlt])
    · have hlt' : ¬ c < w.fresh := fun hlt' => hlt (Nat.lt_succ_of_lt hlt')
      exact .inl (by simp [World.subscriber, hc, hlt, hlt'])

/-- A device is made, and put on the list if its version packet can be sent. -/
theorem Working.deviceAdd (h : Working w₀ w) (u : UsbDevice) : Working w₀ (deviceAdd env u w) := by
  have hsent := Aside.conn (.sendPacket env (allocDev u w.nextDeviceId w) w.fresh .version
    (VersionHeader.bytes ⟨1, 0, 0⟩) [])
  have horderly := (h.orderly.allocDev u).aside hsent
  unfold Usbmuxd.deviceAdd
  rw [getNextDeviceId_of_orderly h.orderly]
  dsimp only
  generalize sendPacket env w.fresh .version (VersionHeader.bytes ⟨1, 0, 0⟩) [] (allocDev u w.nextDeviceId w) = r
    at hsent horderly
  have hnew : (r.1.devs w.fresh).display = ⟨w.nextDeviceId, .init, false⟩ := by
    rw [hsent.display, allocDev_devs, Function.update_self]
    rfl
  have halive : Alive r.1 := by
    refine Alive.stays (fun d hd => ?_) hsent.toStays
    rw [allocDev_devs, Function.update_of_ne (h.orderly.device d hd).1.ne]
    exact h.alive d hd
  have hlist : r.1.deviceList = w.deviceList := hsent.deviceList
  have hids : ∀ d ∈ r.1.deviceList, (r.1.devs d).id ≠ w.nextDeviceId := by
    intro d hd
    rw [hlist] at hd
    rw [hsent.devId, allocDev_devs, Function.update_of_ne (h.orderly.device d hd).1.ne]
    exact (h.orderly.device d hd).2.ne
  -- what is left to see is the item: what else there is of a client and a device does not change
  have hsteps : ∀ publisher c id item,
      item = w.item false id ∨ w.item false id = .unborn ∧ (item = .waiting ∨ item = .gone) →
      Steps (w.watch false publisher c id) { r.1.watch false publisher c id with item } := by
    intro publisher c id item hitem
    have hsubscriber : r.1.subscriber c = w.subscriber c ∨ r.1.subscriber c = .gone := by
      obtain hsame | hgone := hsent.subscriber (h.orderly.allocDev u) c
      · rw [hsame]
        exact subscriber_allocDev ..
      · exact .inr hgone
    have hnotices : r.1.notices c id = w.notices c id := hsent.notices c id
    have hstarted : decide (.preflight id ∈ r.1.log) = decide (.preflight id ∈ w.log) := by
      simp only [hsent.preflight]
      rfl
    have hleave := steps_leave (v := w.watch false publisher c id) hsubscriber
    simp only [World.watch, hnotices, hstarted] at hleave ⊢
    refine hleave.trans ?_
    obtain rfl | ⟨hunborn, hitem⟩ := hitem
    · exact .refl
    · exact steps_add hunborn hitem
  have hunborn : w.item false w.nextDeviceId = .unborn := by
    rw [item_unlisted, if_neg (Nat.lt_irrefl _)]
    exact fun d hd => (h.orderly.device d hd).2.ne
  have hother : ∀ id, id ≠ w.nextDeviceId → r.1.item false id = w.item false id := fun id hid =>
    hsent.item.trans (item_allocDev h.orderly u hid)
  split
  · have hunlisted : w.fresh ∉ r.1.deviceList := fun hd => (h.orderly.device _ (hlist ▸ hd)).1.false
    have hid : (r.1.devs w.fresh).id = w.nextDeviceId := congrArg Display.id hnew
    have hstate : (r.1.devs w.fresh).state = .init := congrArg Display.state hnew
    have hlisted : WellListed (registerDev w.fresh r.1) := by
      refine horderly.registerDev hunlisted ⟨?_, ?_⟩ (hid ▸ hids) fun _ => congrArg Display.visible hnew
      · exact (Nat.lt_succ_self _).trans_le hsent.fresh
      · rw [hid, hsent.nextDeviceId]
        exact Nat.lt_succ_self _
    refine ⟨hlisted, fun d hd => ?_, fun publisher c id => (h.steps publisher c id).trans ?_⟩
    · obtain rfl | hd := SlotTable.mem_add.mp hd
      · rw [registerDev_devs, hstate]
        nofun
      · exact halive d hd
    · have hitem := item_registerDev horderly hlisted id
      refine hsteps publisher c id ((registerDev w.fresh r.1).item false id) ?_
      rw [hitem, hid]
      split
      · rename_i heq
        subst heq
        refine .inr ⟨hunborn, .inl ?_⟩
        rw [MuxDevice.item, hstate]
      · rename_i hne
        exact .inl (hother id hne)
  · have hfreed : Aside r.1 (r.1.emit (.freeDev w.fresh)) := .emit rfl _
    refine Working.aside ⟨horderly, halive, fun publisher c id => (h.steps publisher c id).trans ?_⟩ hfreed
    refine hsteps publisher c id (r.1.item false id) ?_
    by_cases hid : id = w.nextDeviceId
    · subst hid
      refine .inr ⟨hunborn, .inr ?_⟩
      rw [item_unlisted hids, hsent.nextDeviceId]
      exact if_pos (Nat.lt_succ_self _)
    · exact .inl (hother id hid)

end Working

/-! ### The first section of a thread -/

/-- A device is made visible, if it is there. -/
theorem deviceSetVisible_spec {w : World} (ho : WellListed w) (ha : Alive w) {id : ℕ}
    (hactive : ∀ d ∈ w.deviceList, (w.devs d).id = id → (w.devs d).state = .active) :
    WellListed (deviceSetVisible id w) ∧ Alive (deviceSetVisible id w) ∧ ∀ publisher c id',
      (deviceSetVisible id w).watch false publisher c id' = { w.watch false publisher c id' with
        item := if id' = id ∧ w.item false id' = .hidden then .shown else w.item false id' } := by
  unfold deviceSetVisible
  cases hfound : getMuxDeviceForId w id with
  | none =>
    refine ⟨ho, ha, fun publisher c id' => ?_⟩
    dsimp only
    rw [if_neg]
    · rfl
    · rintro ⟨rfl, hhidden⟩
      rw [item_unlisted (lookup_none.mp hfound)] at hhidden
      split at hhidden <;> cases hhidden
  | some d =>
    obtain ⟨hd, rfl⟩ := ho.lookup.mp hfound
    have hstate := hactive d hd rfl
    refine ⟨ho.setDev rfl fun hinit => by simp [hstate] at hinit, fun d' hd' => ?_, fun publisher c id' => ?_⟩
    · by_cases heq : d' = d
      · subst heq
        simp [hstate]
      · simpa [heq] using ha d' hd'
    · dsimp only
      rw [watch_setDev ho hd rfl (fun hinit => by simp [hstate] at hinit)]
      by_cases heq : id' = (w.devs d).id
      · subst heq
        rw [if_pos rfl, ho.item hd]
        cases hvisible : (w.devs d).visible <;> simp [MuxDevice.item, hstate, hvisible]
      · simp [heq]

/-! ### The removal of a device -/

/-- The part of `device_remove` in front of the notice to the clients. -/
def beginRemoval (env : Env) (d : Ptr) (w : World) : World :=
  tearDownAll env d (w.setDev d fun dev => { dev with state := .dead })

/-- The notice to the clients. -/
def reportRemoval (env : Env) (d : Ptr) (w : World) : World :=
  if (w.devs d).visible then clientDeviceRemove env (w.devs d).id w
  else clientDeviceRemovedDuringAdd env (w.deviceInfo env d) w

/-- The part behind it. -/
def endRemoval (d : Ptr) (w : World) : World :=
  releaseDev d (w.setDev d fun dev => { dev with connections := some ⟨[]⟩ })

/-- The three parts are `device_remove`, for an active device. -/
theorem deviceRemove_eq {env : Env} {u : UsbDevice} {w : World} {d : Ptr} (hfound : findByUsbdev w u = some d)
    (hstate : (w.devs d).state = .active) :
    deviceRemove env u w = endRemoval d (reportRemoval env d (beginRemoval env d w)) := by
  rw [deviceRemove, hfound]
  simp only [if_pos hstate]
  rfl

section Removal

variable {env : Env} {w₀ w w' : World} {c d : Ptr}

/-- While a device of the list is being removed, the others are not. -/
structure Removing (d : Ptr) (w : World) : Prop where
  orderly : WellListed w
  listed : d ∈ w.deviceList
  dead : (w.devs d).state = .dead
  others : ∀ d' ∈ w.deviceList, d' ≠ d → (w.devs d').state ≠ .dead

theorem Removing.stays (h : Removing d w) (ho : WellListed w') (hs : Stays w w') : Removing d w' := by
  refine ⟨ho, hs.deviceList ▸ h.listed, (hs.devState d).trans h.dead, fun d' hd' hne => ?_⟩
  rw [hs.deviceList] at hd'
  rw [hs.devState]
  exact h.others d' hd' hne

/-- The number of another device. -/
theorem Removing.item (h : Removing d w) {id : ℕ} (hid : id ≠ (w.devs d).id) (reported reported' : Bool) :
    w.item reported' id = w.item reported id := by
  refine item_alive h.orderly fun d' hd' heq => h.others d' hd' ?_
  rintro rfl
  exact hid heq.symm

/-- The removal of a device begins; clients may go while its connections are torn down. -/
theorem beginRemoval_spec (ho : WellListed w) (ha : Alive w) (hd : d ∈ w.deviceList) (hstate : (w.devs d).state = .active) :
    Removing d (beginRemoval env d w) ∧ ((beginRemoval env d w).devs d).id = (w.devs d).id ∧
      ∀ publisher c id, ∃ v : Watch, (v = w.watch false publisher c id ∨
        v = { w.watch false publisher c id with subscriber := .gone }) ∧
          (beginRemoval env d w).watch false publisher c id = if id = (w.devs d).id then v.depart else v := by
  have hdead : WellListed (w.setDev d fun dev => { dev with state := .dead }) := ho.setDev rfl nofun
  have hcarried : Carried env True (Aside (w.setDev d fun dev => { dev with state := .dead })) :=
    .of_aside fun h h' => h'.trans h
  have htorn : Aside (w.setDev d fun dev => { dev with state := .dead }) (beginRemoval env d w) :=
    hcarried.tearDownAll (.refl _) d
  have hremoving : Removing d (w.setDev d fun dev => { dev with state := .dead }) := by
    refine ⟨hdead, hd, by simp, fun d' hd' hne => ?_⟩
    rw [setDev_devs, Function.update_of_ne hne]
    exact ha d' hd'
  refine ⟨hremoving.stays (hdead.aside htorn) htorn.toStays, (htorn.devId d).trans (by simp), fun publisher c id => ?_⟩
  have hwatch := watch_setDev ho hd (f := fun dev => { dev with state := .dead }) rfl nofun false publisher c id
  have hdepart : (w.setDev d fun dev => { dev with state := .dead }).watch false publisher c id =
      if id = (w.devs d).id then (w.watch false publisher c id).depart else w.watch false publisher c id := by
    rw [hwatch]
    split
    · rename_i heq
      subst heq
      have hitem : w.item false (w.devs d).id = if (w.devs d).visible then .shown else .hidden := by
        rw [ho.item hd, MuxDevice.item, hstate]
      simp only [Watch.depart, World.watch, hitem, MuxDevice.item]
      cases (w.devs d).visible <;> rfl
    · rfl
  obtain hsame | hgone := @Aside.watch _ _ false publisher htorn hdead c id
  · exact ⟨_, .inl rfl, hsame.trans hdepart⟩
  · refine ⟨_, .inr rfl, hgone.trans ?_⟩
    rw [hdepart]
    split <;> rfl

/-- The listeners are told of the removal. -/
theorem reportRemoval_spec (hrel : env.Reliable) (h : Removing d w) :
    Removing d (reportRemoval env d w) ∧ ((reportRemoval env d w).devs d).id = (w.devs d).id ∧
      ∀ publisher c id, (reportRemoval env d w).watch true publisher c id =
        if id = (w.devs d).id then (w.watch false publisher c id).dismiss else w.watch false publisher c id := by
  have hitem : ∀ reported, w.item reported (w.devs d).id = if reported then .left else .leaving (w.devs d).visible :=
    fun reported => by rw [h.orderly.item h.listed, MuxDevice.item, h.dead]
  by_cases hvisible : (w.devs d).visible = true
  · have htold := told_clientDeviceRemove hrel h.orderly.clients (fun c hc => (h.orderly.client c hc).2) (w.devs d).id
    rw [reportRemoval, if_pos hvisible]
    refine ⟨h.stays (h.orderly.told htold) htold.toStays, htold.devId d, fun publisher c id => ?_⟩
    rw [htold.watch, audience_eq]
    split
    · rename_i heq
      subst heq
      simp only [Watch.dismiss, World.watch, hitem, hvisible, Watch.tell]
      rfl
    · rename_i hne
      simp only [World.watch, List.append_nil, h.item hne false true]
  · have htold : Informed (fun _ _ => []) w (reportRemoval env d w) := by
      rw [reportRemoval, if_neg hvisible]
      exact (Aside.clientDevicePairingEvent ..).told (registry_clientDevicePairingEvent ..)
    refine ⟨h.stays (h.orderly.told htold) htold.toStays, htold.devId d, fun publisher c id => ?_⟩
    rw [htold.watch]
    split
    · rename_i heq
      subst heq
      simp only [Watch.dismiss, World.watch, hitem, hvisible, List.append_nil]
      rfl
    · rename_i hne
      simp only [World.watch, List.append_nil, h.item hne false true]

/-- The removal ends. -/
theorem endRemoval_spec (h : Removing d w) :
    WellListed (endRemoval d w) ∧ Alive (endRemoval d w) ∧ ∀ publisher c id,
      (endRemoval d w).watch false publisher c id =
        if id = (w.devs d).id then (w.watch true publisher c id).release else w.watch true publisher c id := by
  have haside : Aside w (w.setDev d fun dev => { dev with connections := some ⟨[]⟩ }) := .setDev rfl
  have hremoving := h.stays (h.orderly.aside haside) haside.toStays
  refine ⟨hremoving.orderly.releaseDev d, fun d' hd' => ?_, fun publisher c id => ?_⟩
  · obtain ⟨hne, hd'⟩ := (SlotTable.mem_remove hremoving.orderly.devices).mp hd'
    exact hremoving.others d' hd' hne
  · have hwatch := @watch_releaseDev _ _ false hremoving.orderly hremoving.listed publisher c id
    have hid : ((w.setDev d fun dev => { dev with connections := some ⟨[]⟩ }).devs d).id = (w.devs d).id := haside.devId d
    have hitem : (w.setDev d fun dev => { dev with connections := some ⟨[]⟩ }).item false id = w.item false id :=
      haside.item
    rw [endRemoval, hwatch, hid, hitem]
    split
    · rename_i heq
      subst heq
      have hleft : w.item true (w.devs d).id = .left := by rw [h.orderly.item h.listed, MuxDevice.item, h.dead]; rfl
      simp only [Watch.release, World.watch, hleft]
      rfl
    · rename_i hne
      simp only [World.watch, h.item hne true false]
      rfl

/-- An active device is removed at once. -/
theorem Working.remove (hrel : env.Reliable) (h : Working w₀ w) (hd : d ∈ w.deviceList)
    (hstate : (w.devs d).state = .active) : Working w₀ (endRemoval d (reportRemoval env d (beginRemoval env d w))) := by
  obtain ⟨hbegun, hid, hbegin⟩ := @beginRemoval_spec env _ _ h.orderly h.alive hd hstate
  obtain ⟨hreported, hid', hreport⟩ := reportRemoval_spec hrel hbegun
  obtain ⟨horderly, halive, hend⟩ := endRemoval_spec hreported
  refine ⟨horderly, halive, fun publisher c id => (h.steps publisher c id).trans ?_⟩
  obtain ⟨v, hv, hbegin⟩ := hbegin publisher c id
  have hleave : Steps (w.watch false publisher c id) v := by
    obtain rfl | rfl := hv
    · exact .refl
    · exact .single (.leave _)
  have hvitem : v.item = w.item false id := by obtain rfl | rfl := hv <;> rfl
  rw [hend, hreport, hbegin, hid', hid]
  refine hleave.trans ?_
  split
  · rename_i heq
    subst heq
    refine .single (.withdraw _ ?_)
    rw [hvitem, h.orderly.item hd, MuxDevice.item, hstate]
    cases (w.devs d).visible
    · exact .inl rfl
    · exact .inr rfl
  · exact .refl

end Removal

/-! ### What the main thread does -/

section Main

variable {env : Env} {w₀ w : World}

theorem upheld_working (hrel : env.Reliable) (w₀ : World) : Upheld env True True (fun _ => True) (Working w₀) where
  toCarried := .of_aside fun ha h => h.aside ha
  recvCall _ _ _ h := h.aside (.emit rfl _)
  reply _ _ _ _ _ h := h.aside (.sendPkt ..)
  request c tag id _ hstate h := by
    refine h.aside (.setClient (by simp [hstate]) fun harmed hnone => ?_)
    simpa [hstate] using harmed hnone
  startListen _ _ hc hstate h := h.startListen hrel hc hstate
  pairingEvent _ _ _ h := h.aside (.clientDevicePairingEvent ..)
  framing _ _ _ h := h.aside (.setDev rfl)
  versionInput _ vh hd h := h.versionInput hd vh
  usbAction := by
    intro w a h
    cases a with
    | deviceAdd u => exact h.deviceAdd u
    | deviceRemove u =>
      dsimp only [usbAction]
      cases hfound : findByUsbdev w u with
      | none =>
        rw [deviceRemove, hfound]
        exact h
      | some d =>
        have hd := SlotTable.find?_mem hfound
        by_cases hstate : (w.devs d).state = .active
        · rw [deviceRemove_eq hfound hstate]
          exact h.remove hrel hd hstate
        · rw [deviceRemove, hfound]
          simp only [if_neg hstate]
          exact h.releaseDev hd hstate
    | deviceAddFailed u => exact h.aside (.clientDevicePairingEvent env _ .removedDuringAdd false w)
    | errorAlreadyExists info => exact h.aside (.clientDevicePairingEvent env info .errorDeviceAlreadyExists false w)

/-- An operation that is not a section of `client_device_add`. -/
def Op.ofMain : Op → Bool
  | .setVisible _ | .announce _ => false
  | _ => true

/-- What the main thread does is what an owner may do. -/
theorem working_exec (hrel : env.Reliable) (h : Working w₀ w) {op : Op} (hop : op.ofMain = true) :
    Working w₀ (exec env w op) := by
  by_cases hordinary : Upheld.Ordinary op
  · exact (upheld_working hrel w₀).exec trivial trivial h hordinary fun _ _ _ => trivial
  · cases op with
    | clientAccept => exact h.registerClient
    | acceptSocket u =>
      simp only [exec, deviceAcceptSocket]
      split
      · exact h.aside (.setDev rfl)
      · exact h
    | setVisible id => cases hop
    | announce info => cases hop
    | _ => exact absurd trivial hordinary

end Main

end Usbmuxd
