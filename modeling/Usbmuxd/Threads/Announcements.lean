import Usbmuxd.Foundation.Iteration
import Usbmuxd.Threads.Listeners

/-!
# Announcing devices to listeners

The preflight thread of a device runs `client_device_add` in two sections: it makes the device
visible, and it tells the clients that listen. The main thread meanwhile accepts and serves clients
and adds and removes devices. What a client is told about a device should be that it was attached,
and then that it was detached.

## The model

* `Scene` — the daemon, where the thread of each device is, and the device that is being removed.
* `Section` — a section of a thread: an operation of the main thread, one of the two sections of a
  preflight thread, or one of the three parts of a `device_remove` that threads are let into.
* `Scene.Fairly` — no section falls between the two sections of a thread in a way that matters.

## What is proved

* `attached_then_detached` — if every section is fair, what each client is told about each device is
  in order, and nothing is said about a device that has been removed.

## Honest scope

`client_process` holds `client_list_mutex`, so a section of `client_device_add` that tells the clients
cannot fall into the turn of a client; that which makes a device visible can, and is taken to come before
or after, since the turn reads the flag in one place. One that tells the clients can fall between the
teardowns of a `device_remove`; they do not concern the listeners, and it is taken to come after them.
-/

namespace Usbmuxd

open World Subscription Relation

/-! ### The threads -/

/-- Where the preflight thread of a device is. Between the two sections of `client_device_add`, the clients that were
listening at the first. -/
inductive Place where
  | idle
  | between (heard : List Ptr)
  | done
  deriving DecidableEq

/-- The clients that were listening at the first section, for a thread that has not come to the second. -/
def Place.heard : Place → Option (List Ptr)
  | .between heard => some heard
  | _ => none

/-- What a client knows of the thread. -/
def Place.publisher (place : Place) (c : Ptr) : Publisher :=
  match place with
  | .idle => .idle
  | .between heard => .between (c ∈ heard)
  | .done => .done

/-- The clients that listen. -/
def World.listeners (w : World) : List Ptr := w.clientList.elements.filter fun c => (w.clients c).state == .listen

/-- The daemon with its preflight threads. -/
structure Scene where
  world : World
  place : ℕ → Place
  /-- The device that `device_remove` is about to remove, and whether the clients have been told. -/
  removing : Option (Ptr × Bool)

/-- A section of a thread. -/
inductive Section where
  /-- An operation of the main thread, or a short section of a preflight thread. -/
  | main (op : Op)
  /-- The first section of `client_device_add`. -/
  | setVisible (id : ℕ)
  /-- The second section of `client_device_add`. -/
  | announce (info : DeviceInfo)
  /-- `device_remove` of an active device, in three parts. -/
  | beginRemoval (u : UsbDevice)
  | reportRemoval
  | endRemoval

namespace Scene

/-- At the start of the daemon. -/
def init : Scene := ⟨.init, fun _ => .idle, none⟩

/-- A section is carried out, if its thread is there and it is not kept out by `device_list_mutex`. -/
def step (env : Env) (s : Scene) : Section → Scene
  | .main op => if s.removing.isNone ∧ op.ofMain then { s with world := exec env s.world op } else s
  | .setVisible id =>
    if s.removing.isNone ∧ .preflight id ∈ s.world.log ∧ s.place id = .idle then
      { s with
        world := deviceSetVisible id s.world
        place := Function.update s.place id (.between s.world.listeners) }
    else s
  | .announce info =>
    match s.place info.id with
    | .between _ =>
      { s with
        world := announceDevice env info s.world
        place := Function.update s.place info.id .done }
    | _ => s
  | .beginRemoval u =>
    match s.removing, findByUsbdev s.world u with
    | none, some d =>
      if (s.world.devs d).state = .active then
        { s with world := beginRemoval env d s.world, removing := some (d, false) }
      else s
    | _, _ => s
  | .reportRemoval =>
    match s.removing with
    | some (d, false) => { s with world := reportRemoval env d s.world, removing := some (d, true) }
    | _ => s
  | .endRemoval =>
    match s.removing with
    | some (d, true) => { s with world := endRemoval d s.world, removing := none }
    | _ => s

/-- A run, from the start of the daemon. -/
def run (env : Env) (sections : List Section) : Scene := sections.foldl (step env) init

variable (s : Scene)

/-- The device with a number is on the list and visible, and its removal has not been reported. -/
def Shows (id : ℕ) : Prop :=
  ∃ d ∈ s.world.deviceList.elements,
    (s.world.devs d).id = id ∧ (s.world.devs d).visible = true ∧ s.removing ≠ some (d, true)

instance (id : ℕ) : Decidable (s.Shows id) := inferInstanceAs (Decidable (∃ d ∈ s.world.deviceList.elements, _))

/-- A device with this number has been there, and is no more. -/
def Removed (id : ℕ) : Prop := id < s.world.nextDeviceId ∧ ∀ d ∈ s.world.deviceList, (s.world.devs d).id ≠ id

/-- The second section of a thread finds the device there, and no listener that the first has not found. -/
def Announceable (info : DeviceInfo) : Prop :=
  ∀ heard ∈ (s.place info.id).heard, ∀ c ∈ s.world.listeners, c ∈ heard ∧ s.Shows info.id

instance (info : DeviceInfo) : Decidable (s.Announceable info) :=
  inferInstanceAs (Decidable (∀ heard ∈ (s.place info.id).heard, _))

/-- Where a section takes a visible device away, no listener that the first section of its thread has found still waits
for the second. -/
def Spares (env : Env) (section' : Section) : Prop :=
  ∀ d ∈ s.world.deviceList.elements, s.Shows (s.world.devs d).id → ¬ (s.step env section').Shows (s.world.devs d).id →
    ∀ heard ∈ (s.place (s.world.devs d).id).heard, ∀ c ∈ heard, c ∉ s.world.listeners

instance (env : Env) (section' : Section) : Decidable (s.Spares env section') :=
  inferInstanceAs (Decidable (∀ d ∈ s.world.deviceList.elements, _))

/-- The section does not fall between the two sections of a thread in a way that matters. -/
def Fair (env : Env) : Section → Prop
  | .announce info => s.Announceable info
  | section' => s.Spares env section'

instance (env : Env) : (section' : Section) → Decidable (s.Fair env section')
  | .announce info => inferInstanceAs (Decidable (s.Announceable info))
  | .main op => inferInstanceAs (Decidable (s.Spares env (.main op)))
  | .setVisible id => inferInstanceAs (Decidable (s.Spares env (.setVisible id)))
  | .beginRemoval u => inferInstanceAs (Decidable (s.Spares env (.beginRemoval u)))
  | .reportRemoval => inferInstanceAs (Decidable (s.Spares env .reportRemoval))
  | .endRemoval => inferInstanceAs (Decidable (s.Spares env .endRemoval))

/-- Every section is fair when its turn comes. -/
def Fairly (env : Env) : Scene → List Section → Prop
  | _, [] => True
  | s, section' :: rest => s.Fair env section' ∧ Fairly env (s.step env section') rest

instance decidableFairly (env : Env) : (s : Scene) → (sections : List Section) → Decidable (Fairly env s sections)
  | _, [] => inferInstanceAs (Decidable True)
  | s, section' :: rest =>
    have := decidableFairly env (s.step env section') rest
    inferInstanceAs (Decidable (_ ∧ _))

/-- The removal that goes on has been reported. -/
def reported : Bool := s.removing.any (·.2)

/-- A client and a device, with the thread of the device. -/
def watch (c : Ptr) (id : ℕ) : Watch := s.world.watch s.reported ((s.place id).publisher c) c id

/-- The lists are in order, and at most one device is being removed. -/
def InOrder : Prop :=
  match s.removing with
  | none => WellListed s.world ∧ Alive s.world
  | some (d, _) => Removing d s.world

/-- What every client has been told about every device is what it should have been told. -/
structure Sound : Prop where
  inOrder : s.InOrder
  ok : ∀ c id, (s.watch c id).Ok

/-- What a section is to every client and every device. -/
structure Moves (s s' : Scene) : Prop where
  inOrder : s'.InOrder
  move : ∀ c id, Subscription.Move (s.watch c id) (s'.watch c id)

/-! ### What the clients see of a scene -/

variable {s} {env : Env} {c : Ptr} {id : ℕ}

theorem mem_listeners : c ∈ s.world.listeners ↔ (s.watch c id).subscriber = .listening := by
  rw [show (s.watch c id).subscriber = s.world.subscriber c from rfl, subscriber_listening, World.listeners,
    List.mem_filter, SlotTable.mem_def, beq_iff_eq]

theorem InOrder.orderly (h : s.InOrder) : WellListed s.world := by
  unfold InOrder at h
  split at h
  · exact h.1
  · exact h.orderly

/-- The one device that is being removed. -/
theorem InOrder.dead (h : s.InOrder) {d : Ptr} (hd : d ∈ s.world.deviceList) :
    (s.world.devs d).state = .dead ↔ ∃ reported, s.removing = some (d, reported) := by
  unfold InOrder at h
  split at h
  · rename_i hnone
    simp [hnone, h.2 d hd]
  · rename_i d' reported hsome
    rw [hsome]
    by_cases heq : d = d'
    · subst heq
      simp [h.dead]
    · simp [h.others d hd heq, Ne.symm heq]

theorem InOrder.shows (h : s.InOrder) :
    s.Shows id ↔ (s.watch c id).item = .shown ∨ (s.watch c id).item = .leaving true := by
  have hitem : ∀ d ∈ s.world.deviceList, ((s.world.devs d).item s.reported = .shown ∨
      (s.world.devs d).item s.reported = .leaving true) ↔
        (s.world.devs d).visible = true ∧ s.removing ≠ some (d, true) := by
    intro d hd
    have hdead := h.dead hd
    unfold MuxDevice.item
    cases hstate : (s.world.devs d).state with
    | init => simp [h.orderly.invisible d hd hstate]
    | active =>
      have hother : s.removing ≠ some (d, true) := fun heq => by simp [hdead.mpr ⟨true, heq⟩] at hstate
      cases (s.world.devs d).visible <;> simp [hother]
    | dead =>
      obtain ⟨reported, hremoving⟩ := hdead.mp hstate
      cases reported <;> simp [Scene.reported, hremoving]
  constructor
  · rintro ⟨d, hd, hid, hshown⟩
    have hseen := (hitem d hd).mpr hshown
    rwa [← h.orderly.item hd, hid] at hseen
  · intro hseen
    cases hfound : getMuxDeviceForId s.world id with
    | none =>
      rw [show (s.watch c id).item = s.world.item s.reported id from rfl, item_unlisted (lookup_none.mp hfound)] at hseen
      split at hseen <;> simp at hseen
    | some d =>
      obtain ⟨hd, hid⟩ := h.orderly.lookup.mp hfound
      refine ⟨d, hd, hid, (hitem d hd).mp ?_⟩
      rw [← h.orderly.item hd, hid]
      exact hseen

/-- A client that the first section has found. -/
theorem between_iff : ((s.place id).publisher c) = .between true ↔ ∃ heard ∈ (s.place id).heard, c ∈ heard := by
  cases hplace : s.place id <;> simp [Place.publisher, Place.heard]

/-- A section that takes no device from a listener that still waits. -/
theorem dismissible {section' : Section} (h : s.InOrder) (hfair : s.Spares env section')
    (hbefore : (s.watch c id).item = .shown ∨ (s.watch c id).item = .leaving true)
    (hafter : ¬ (s.step env section').Shows id) : (s.watch c id).Dismissible := by
  intro hlisten hbetween
  obtain ⟨heard, hplace, hheard⟩ := between_iff.mp hbetween
  have hshows : s.Shows id := h.shows.mpr hbefore
  obtain ⟨d, hd, rfl, -⟩ := hshows
  exact hfair d hd (h.shows.mpr hbefore) hafter heard hplace c hheard (mem_listeners.mpr hlisten)

/-! ### What each section is -/

theorem Moves.refl (h : s.InOrder) : s.Moves s :=
  ⟨h, fun c id => .work .refl fun hshown hgone => by cases hshown.symm.trans hgone⟩

theorem Moves.main (hrel : env.Reliable) (h : s.InOrder) {op : Op} (hfair : s.Fair env (.main op)) :
    s.Moves (s.step env (.main op)) := by
  by_cases hrun : s.removing.isNone ∧ op.ofMain
  · have hnone := Option.isNone_iff_eq_none.mp hrun.1
    have hstep : s.step env (.main op) = { s with world := exec env s.world op } := by
      rw [step, if_pos hrun]
    have hstart : WellListed s.world ∧ Alive s.world := by simpa [InOrder, hnone] using h
    have hwork : Working s.world (exec env s.world op) :=
      working_exec hrel ⟨hstart.1, hstart.2, fun _ _ _ => .refl⟩ hrun.2
    have hafter : (s.step env (.main op)).InOrder := by
      simp only [hstep, InOrder, hnone]
      exact ⟨hwork.orderly, hwork.alive⟩
    refine ⟨hafter, fun c id => .work ?_ fun hshown hgone => ?_⟩
    · have hsteps := hwork.steps ((s.place id).publisher c) c id
      simpa only [hstep, watch, reported, hnone, Option.any_none] using hsteps
    · refine dismissible h hfair (.inl hshown) fun hshows => ?_
      obtain hshown' | hleaving := hafter.shows.mp hshows
      · cases hgone.symm.trans hshown'
      · cases hgone.symm.trans hleaving
  · rw [step, if_neg hrun]
    exact .refl h

/-- A device whose thread has been started is not waiting. -/
theorem started_active (h : s.Sound) (halive : Alive s.world) (hstarted : .preflight id ∈ s.world.log) :
    ∀ d ∈ s.world.deviceList, (s.world.devs d).id = id → (s.world.devs d).state = .active := by
  rintro d hd rfl
  have hready := (h.ok 0 (s.world.devs d).id).started (by simpa [watch, World.watch] using hstarted)
  have hitem : (s.watch 0 (s.world.devs d).id).item = (s.world.devs d).item s.reported := h.inOrder.orderly.item hd
  rw [hitem] at hready
  cases hstate : (s.world.devs d).state with
  | init => simp [MuxDevice.item, hstate] at hready
  | active => rfl
  | dead => exact absurd hstate (halive d hd)

theorem Moves.setVisible (h : s.Sound) (id : ℕ) : s.Moves (s.step env (.setVisible id)) := by
  by_cases hrun : s.removing.isNone ∧ .preflight id ∈ s.world.log ∧ s.place id = .idle
  · have hnone := Option.isNone_iff_eq_none.mp hrun.1
    have hstep : s.step env (.setVisible id) = { s with
        world := deviceSetVisible id s.world
        place := Function.update s.place id (.between s.world.listeners) } := by
      rw [step, if_pos hrun]
    have hstart : WellListed s.world ∧ Alive s.world := by simpa [InOrder, hnone] using h.inOrder
    have hreported : s.reported = false := by simp [reported, hnone]
    obtain ⟨horderly, halive, hwatch⟩ :=
      deviceSetVisible_spec hstart.1 hstart.2 (started_active h hstart.2 hrun.2.1)
    refine ⟨?_, fun c id' => ?_⟩
    · simp only [hstep, InOrder, hnone]
      exact ⟨horderly, halive⟩
    · have hafter : (s.step env (.setVisible id)).watch c id' =
          if id' = id then (s.watch c id').uncover else s.watch c id' := by
        have hreported' : (s.step env (.setVisible id)).reported = false := by rw [hstep]; exact hreported
        rw [watch, hreported', hstep, hwatch, watch, hreported]
        by_cases heq : id' = id
        · subst heq
          have hheard : decide (c ∈ s.world.listeners) = decide (s.world.subscriber c = .listening) :=
            decide_eq_decide.mpr (@mem_listeners s c id')
          simp only [Function.update_self, Place.publisher, Watch.uncover, World.watch, true_and, hheard, if_true]
          congr
        · simp only [Function.update_of_ne heq, World.watch, heq, false_and, if_false]
      rw [hafter]
      split
      · rename_i heq
        subst heq
        refine .uncover _ ?_ ?_ ?_
        · simpa [watch, World.watch] using hrun.2.1
        · simp [watch, World.watch, hrun.2.2, Place.publisher]
        · simpa only [watch, World.watch, hreported] using hstart.2.item id' false
      · exact (Moves.refl h.inOrder).move c id'
  · rw [step, if_neg hrun]
    exact .refl h.inOrder

theorem Moves.announce (hrel : env.Reliable) (h : s.InOrder) {info : DeviceInfo} (hfair : s.Fair env (.announce info)) :
    s.Moves (s.step env (.announce info)) := by
  cases hplace : s.place info.id with
  | between heard =>
    have hstep : s.step env (.announce info) = { s with
        world := announceDevice env info s.world
        place := Function.update s.place info.id .done } := by
      simp only [step, hplace]
    have ho := h.orderly
    have htold := told_announceDevice hrel ho.clients (fun c hc => (ho.client c hc).2) info
    refine ⟨?_, fun c id => ?_⟩
    · rw [hstep]
      unfold InOrder at h ⊢
      dsimp only
      split at h
      · exact ⟨h.1.told htold, h.2.stays htold.toStays⟩
      · exact h.stays (ho.told htold) htold.toStays
    · have hafter : (s.step env (.announce info)).watch c id =
          if id = info.id then (s.watch c id).announce else s.watch c id := by
        have hreported : (s.step env (.announce info)).reported = s.reported := by rw [hstep]; rfl
        rw [watch, hreported, hstep, htold.watch, audience_eq]
        split
        · rename_i heq
          subst heq
          simp only [Function.update_self, Place.publisher]
          rfl
        · rename_i hne
          simp only [Function.update_of_ne hne, List.append_nil]
          rfl
      rw [hafter]
      split
      · rename_i heq
        subst heq
        refine .announce _ ?_ fun hlisten => ?_
        · simp [watch, World.watch, hplace, Place.publisher]
        · have hheard : heard ∈ (s.place info.id).heard := by simp [hplace, Place.heard]
          obtain ⟨hc, hshows⟩ := hfair heard hheard c (mem_listeners.mpr hlisten)
          exact ⟨between_iff.mpr ⟨heard, hheard, hc⟩, h.shows.mp hshows⟩
      · exact (Moves.refl h).move c id
  | idle =>
    simp only [step, hplace]
    exact .refl h
  | done =>
    simp only [step, hplace]
    exact .refl h

theorem Moves.beginRemoval (h : s.InOrder) (u : UsbDevice) : s.Moves (s.step env (.beginRemoval u)) := by
  cases hremoving : s.removing with
  | some removing =>
    simp only [step, hremoving]
    exact .refl h
  | none =>
    cases hfound : findByUsbdev s.world u with
    | none =>
      simp only [step, hremoving, hfound]
      exact .refl h
    | some d =>
      by_cases hstate : (s.world.devs d).state = .active
      · have hstep : s.step env (.beginRemoval u) =
            { s with world := Usbmuxd.beginRemoval env d s.world, removing := some (d, false) } := by
          simp only [step, hremoving, hfound, if_pos hstate]
        have hstart : WellListed s.world ∧ Alive s.world := by simpa [InOrder, hremoving] using h
        obtain ⟨hbegun, -, hbegin⟩ :=
          @beginRemoval_spec env _ _ hstart.1 hstart.2 (SlotTable.find?_mem hfound) hstate
        refine ⟨by rw [hstep]; exact hbegun, fun c id => ?_⟩
        obtain ⟨v, hv, hwatch⟩ := hbegin ((s.place id).publisher c) c id
        have hbefore : s.watch c id = s.world.watch false ((s.place id).publisher c) c id := by
          simp [watch, reported, hremoving]
        have hafter : (s.step env (.beginRemoval u)).watch c id = if id = (s.world.devs d).id then v.depart else v := by
          rw [hstep]
          exact hwatch
        rw [hafter, hbefore]
        split
        · obtain rfl | rfl := hv
          · exact .depart _ (.inl rfl)
          · exact .depart _ (.inr rfl)
        · refine .work ?_ fun hshown hgone => ?_
          · obtain rfl | rfl := hv
            · exact .refl
            · exact .single (.leave _)
          · obtain rfl | rfl := hv <;> cases hshown.symm.trans hgone
      · simp only [step, hremoving, hfound, if_neg hstate]
        exact .refl h

theorem Moves.reportRemoval (hrel : env.Reliable) (h : s.InOrder) (hfair : s.Fair env .reportRemoval) :
    s.Moves (s.step env .reportRemoval) := by
  cases hremoving : s.removing with
  | none =>
    simp only [step, hremoving]
    exact .refl h
  | some removing =>
    obtain ⟨d, reported⟩ := removing
    cases reported with
    | true =>
      simp only [step, hremoving]
      exact .refl h
    | false =>
      have hstep : s.step env .reportRemoval =
          { s with world := Usbmuxd.reportRemoval env d s.world, removing := some (d, true) } := by
        simp only [step, hremoving]
      have hstart : Removing d s.world := by simpa [InOrder, hremoving] using h
      obtain ⟨hreported, -, hreport⟩ := reportRemoval_spec hrel hstart
      have hafter : (s.step env .reportRemoval).InOrder := by rw [hstep]; exact hreported
      refine ⟨hafter, fun c id => ?_⟩
      have hbefore : s.watch c id = s.world.watch false ((s.place id).publisher c) c id := by
        simp [watch, Scene.reported, hremoving]
      have hwatch : (s.step env .reportRemoval).watch c id =
          if id = (s.world.devs d).id then (s.watch c id).dismiss else s.watch c id := by
        rw [hbefore, ← hreport, hstep]
        rfl
      rw [hwatch]
      split
      · rename_i heq
        refine .dismiss _ fun hleaving => dismissible h hfair (.inr hleaving) fun hshows => ?_
        have hleft : ((s.step env .reportRemoval).watch c id).item = .left := by
          rw [hwatch, if_pos heq, Watch.dismiss, hleaving]
        obtain hshown | hleaving' := hafter.shows.mp hshows
        · cases hleft.symm.trans hshown
        · cases hleft.symm.trans hleaving'
      · exact (Moves.refl h).move c id

theorem Moves.endRemoval (h : s.InOrder) : s.Moves (s.step env .endRemoval) := by
  cases hremoving : s.removing with
  | none =>
    simp only [step, hremoving]
    exact .refl h
  | some removing =>
    obtain ⟨d, reported⟩ := removing
    cases reported with
    | false =>
      simp only [step, hremoving]
      exact .refl h
    | true =>
      have hstep : s.step env .endRemoval = { s with world := Usbmuxd.endRemoval d s.world, removing := none } := by
        simp only [step, hremoving]
      have hstart : Removing d s.world := by simpa [InOrder, hremoving] using h
      obtain ⟨horderly, halive, hend⟩ := endRemoval_spec hstart
      refine ⟨by rw [hstep]; exact ⟨horderly, halive⟩, fun c id => ?_⟩
      have hbefore : s.watch c id = s.world.watch true ((s.place id).publisher c) c id := by
        simp [watch, Scene.reported, hremoving]
      have hwatch : (s.step env .endRemoval).watch c id =
          if id = (s.world.devs d).id then (s.watch c id).release else s.watch c id := by
        rw [hbefore, ← hend, hstep]
        rfl
      rw [hwatch]
      split
      · exact .release _
      · exact (Moves.refl h).move c id

/-- What a fair section is to every client and every device. -/
theorem Moves.step (hrel : env.Reliable) (h : s.Sound) {section' : Section} (hfair : s.Fair env section') :
    s.Moves (s.step env section') := by
  cases section' with
  | main op => exact .main hrel h.inOrder hfair
  | setVisible id => exact .setVisible h id
  | announce info => exact .announce hrel h.inOrder hfair
  | beginRemoval u => exact .beginRemoval h.inOrder u
  | reportRemoval => exact .reportRemoval hrel h.inOrder hfair
  | endRemoval => exact .endRemoval h.inOrder

/-! ### Runs -/

theorem Sound.init : Sound .init := by
  have hnone : ∀ d, d ∉ World.init.deviceList := SlotTable.not_mem_init capacityStep
  refine ⟨⟨⟨SlotTable.nodup_init _, SlotTable.nodup_init _, fun c hc => ?_, fun d hd => absurd hd (hnone d),
    fun d hd => absurd hd (hnone d), fun d hd => absurd hd (hnone d)⟩, fun d hd => absurd hd (hnone d)⟩, fun c id => ?_⟩
  · exact absurd hc (SlotTable.not_mem_init capacityStep c)
  · have hnotices : (Scene.init.watch c id).notices = [] := rfl
    have hitem : (Scene.init.watch c id).item = .gone ∨ (Scene.init.watch c id).item = .unborn := by
      rw [show (Scene.init.watch c id).item = World.init.item false id from rfl,
        item_unlisted fun d hd => absurd hd (hnone d)]
      split
      · exact .inl rfl
      · exact .inr rfl
    refine ⟨fun hstarted => ?_, fun hne => absurd rfl hne, fun hshown => ?_, fun _ => rfl, fun hheard => ?_,
      fun _ => hnotices, fun _ => ?_, ?_⟩
    · simp [Scene.init, watch, World.watch, World.init] at hstarted
    · obtain hitem | hitem := hitem <;> simp [hitem] at hshown
    · cases hheard
    · unfold Watch.Due
      obtain hitem | hitem := hitem <;> simp [hitem, hnotices]
    · rw [hnotices]
      exact List.nil_prefix

theorem Sound.moves {s' : Scene} (h : s.Sound) (hm : s.Moves s') : s'.Sound :=
  ⟨hm.inOrder, fun c id => (h.ok c id).move (hm.move c id)⟩

/-- A fair run. -/
theorem Sound.run (hrel : env.Reliable) (h : s.Sound) {sections : List Section} (hfair : Fairly env s sections) :
    (sections.foldl (Scene.step env) s).Sound := by
  induction sections generalizing s with
  | nil => exact h
  | cons section' rest ih => exact ih (h.moves (.step hrel h hfair.1)) hfair.2

/-- Nothing is said about a device that is gone. -/
theorem gone_run (hrel : env.Reliable) (h : s.Sound) {sections : List Section} (hfair : Fairly env s sections)
    (hgone : (s.watch c id).item = .gone) :
    (sections.foldl (Scene.step env) s).world.notices c id = s.world.notices c id := by
  induction sections generalizing s with
  | nil => rfl
  | cons section' rest ih =>
    have hmoves := Moves.step hrel h hfair.1
    obtain ⟨hgone', hsame⟩ := move_gone hgone (hmoves.move c id)
    exact (ih (h.moves hmoves) hfair.2 hgone').trans hsame

theorem fairly_append {before after : List Section} (h : Fairly env s (before ++ after)) :
    Fairly env s before ∧ Fairly env (before.foldl (Scene.step env) s) after := by
  induction before generalizing s with
  | nil => exact ⟨trivial, h⟩
  | cons section' rest ih =>
    obtain ⟨hbefore, hafter⟩ := ih h.2
    exact ⟨⟨h.1, hbefore⟩, hafter⟩

theorem Removed.gone (h : s.Removed id) : (s.watch c id).item = .gone :=
  (item_unlisted h.2).trans (if_pos h.1)

end Scene

/-- What a client is told about a device is that it is there and then that it is gone, and no more once it is gone. -/
theorem attached_then_detached {env : Env} (hrel : env.Reliable) {sections : List Section}
    (hfair : Scene.Fairly env .init sections) (c : Ptr) (id : ℕ) :
    (Scene.run env sections).world.notices c id <+: [.appeared, .vanished] ∧
      ∀ before after, sections = before ++ after → (Scene.run env before).Removed id →
        (Scene.run env sections).world.notices c id = (Scene.run env before).world.notices c id := by
  refine ⟨((Scene.Sound.init.run hrel hfair).ok c id).inOrder, ?_⟩
  rintro before after rfl hremoved
  obtain ⟨hbefore, hafter⟩ := Scene.fairly_append hfair
  rw [Scene.run, List.foldl_append]
  exact Scene.gone_run hrel (Scene.Sound.init.run hrel hbefore) hafter hremoved.gone

/-- Device `1` comes and sends its version, and client `2` comes. -/
def plugIn : List Section := [.main (.usb (.deviceAdd 5)), .main (.versionInput 1 ⟨1, 0, 0⟩), .main .clientAccept]

/-- A client that listens before the device is shown is told of it, and of its removal. -/
theorem attached_then_detached_before :
    (Scene.run .listening (plugIn ++ [.main (.clientReady 2 ⟨true, false⟩), .setVisible 1, .announce ⟨1, 0, [], 0⟩,
        .beginRemoval 5, .reportRemoval, .endRemoval])).world.notices 2 1 <+: [.appeared, .vanished] ∧
      (Scene.run .listening (plugIn ++ [.main (.clientReady 2 ⟨true, false⟩), .setVisible 1, .announce ⟨1, 0, [], 0⟩,
        .beginRemoval 5, .reportRemoval, .endRemoval])).world.notices 2 1 = [.appeared, .vanished] := by
  have hrel : Env.listening.Reliable := ⟨fun _ => rfl, fun _ _ => rfl⟩
  exact ⟨(attached_then_detached hrel (by decide +kernel) 2 1).1, by decide +kernel⟩

/-- Between the two sections a client begins to listen, and is told of the device twice; the device is removed, and the
client is told of that first; the device is removed and the client begins to listen, and is told of the device that is
gone. -/
theorem told_out_of_order :
    ¬ (Scene.run .listening (plugIn ++ [.setVisible 1, .main (.clientReady 2 ⟨true, false⟩),
        .announce ⟨1, 0, [], 0⟩])).world.notices 2 1 <+: [.appeared, .vanished] ∧
      ¬ (Scene.run .listening (plugIn ++ [.main (.clientReady 2 ⟨true, false⟩), .setVisible 1, .beginRemoval 5,
        .reportRemoval, .endRemoval, .announce ⟨1, 0, [], 0⟩])).world.notices 2 1 <+: [.appeared, .vanished] ∧
      (Scene.run .listening (plugIn ++ [.setVisible 1, .main (.usb (.deviceRemove 5)),
        .main (.clientReady 2 ⟨true, false⟩)])).world.notices 2 1 = [] ∧
      (Scene.run .listening (plugIn ++ [.setVisible 1, .main (.usb (.deviceRemove 5)),
        .main (.clientReady 2 ⟨true, false⟩), .announce ⟨1, 0, [], 0⟩])).world.notices 2 1 = [.appeared] := by
  decide +kernel

end Usbmuxd
