import Usbmuxd.Model.Usb

/-!
# One entry for each location

A command looks for the entry at its location, and makes one only if there is none. So
`g_device_list` has at most one entry for each location, whatever the plugin answers, and a
command changes no other entry.

## The model

* `Listed` — the list has no location twice, and no address that is still to be handed out.
* `Touches u` — what a step about device `u` leaves alone.
* `DaemonStep` — a command, or an operation of the mux layer; `daemonRun` — a sequence of them.

## What is proved

* `usbCommand_touches` — a command touches the entry at its location, or a new one.
* `listed_run` — the list has no location twice after every run.
-/

namespace Usbmuxd

open World

/-! ### Steps about one device -/

/-- What a step about device `u` leaves alone. -/
structure Touches (u : UsbDevice) (s s' : Daemon) : Prop where
  records : ∀ v, v ≠ u → s'.usb.records v = s.usb.records v
  location : (s'.usb.records u).location = (s.usb.records u).location
  others : ∀ v, v ≠ u → (v ∈ s'.usb.deviceList ↔ v ∈ s.usb.deviceList)
  members : u ∈ s'.usb.deviceList → u ∈ s.usb.deviceList
  nodup : s.usb.deviceList.Nodup → s'.usb.deviceList.Nodup
  fresh : s'.usb.fresh = s.usb.fresh

namespace Touches

variable {env : Env} {o : Outcome} {u : UsbDevice} {s s' s'' : Daemon}

/-- The USB layer stays as it is. -/
theorem same (h : s'.usb = s.usb) : Touches u s s' := by
  refine ⟨fun v _ => ?_, ?_, fun v _ => ?_, fun hu => ?_, fun hnodup => ?_, ?_⟩ <;> simp_all

theorem trans (h : Touches u s s') (h' : Touches u s' s'') : Touches u s s'' :=
  ⟨fun v hv => (h'.records v hv).trans (h.records v hv), h'.location.trans h.location,
    fun v hv => (h'.others v hv).trans (h.others v hv), fun hu => h.members (h'.members hu),
    fun hnodup => h'.nodup (h.nodup hnodup), h'.fresh.trans h.fresh⟩

theorem setRecord {f : UsbRecord → UsbRecord} (hf : (f (s.usb.records u)).location = (s.usb.records u).location) :
    Touches u s (s.setRecord u f) := by
  refine ⟨fun v hv => ?_, ?_, fun _ _ => Iff.rfl, id, id, rfl⟩
  · simp [hv]
  · simpa using hf

theorem free (u : UsbDevice) (s : Daemon) : Touches u s (usbFreeDevice u s) := by
  refine ⟨fun _ _ => rfl, rfl, fun v hv => ⟨SlotTable.mem_of_mem_remove, fun hmem => ?_⟩, SlotTable.mem_of_mem_remove,
    fun hnodup => hnodup.remove u, rfl⟩
  show v ∈ (s.usb.deviceList.remove u).elements
  rw [SlotTable.elements_remove]
  exact (List.mem_erase_of_ne hv).mpr hmem

theorem disconnect (o : Outcome) (u : UsbDevice) (manualRemove : Bool) (s : Daemon) :
    Touches u s (usbDisconnect o u manualRemove s) := by
  unfold usbDisconnect
  split
  · exact same rfl
  · have hthread : Touches u s (s.setRecord u fun dev => { dev with rxThread := false }) := setRecord rfl
    dsimp only
    split
    · exact hthread.trans (free u _)
    · exact hthread.trans (setRecord rfl)

theorem cleanup (env : Env) (o : Outcome) (u : UsbDevice) (isExisting wasAdded : Bool) (s : Daemon) :
    Touches u s (usbAddCleanup env o u isExisting wasAdded s) := by
  unfold usbAddCleanup
  refine Touches.trans ?_ (disconnect o u _ _)
  split
  · exact same rfl
  · split <;> exact same rfl

theorem start (env : Env) (o : Outcome) (u : UsbDevice) (isExisting : Bool) (s : Daemon) :
    Touches u s (usbStartDevice env o u isExisting s) := by
  have hadd : Touches u s (muxAdd env u s) := same rfl
  have hthread : Touches u s _ := hadd.trans (setRecord (f := fun dev => { dev with rxThread := true }) rfl)
  unfold usbStartDevice
  dsimp only
  split
  · exact hadd.trans (cleanup ..)
  · split
    · exact hadd.trans (cleanup ..)
    · split
      · exact hthread.trans (cleanup ..)
      · exact hthread.trans (setRecord rfl)

theorem opened (env : Env) (o : Outcome) (source : PendingSource) (monitor : DeviceMonitorState) (u : UsbDevice)
    (isExisting : Bool) (s : Daemon) : Touches u s (usbOpenedDevice env o source monitor u isExisting s) := by
  have hserial : Touches u s (s.setRecord u fun dev => { dev with serial := o.serial }) := setRecord rfl
  unfold usbOpenedDevice
  dsimp only
  split
  · split
    · exact same rfl
    · exact cleanup ..
  · split
    · exact hserial.trans (start ..)
    · split
      · exact hserial
      · exact hserial.trans (cleanup ..)

theorem listed (env : Env) (o : Outcome) (source : PendingSource) (monitor : DeviceMonitorState) (u : UsbDevice)
    (isExisting : Bool) (s : Daemon) : Touches u s (usbListedDevice env o source monitor u isExisting s) := by
  unfold usbListedDevice
  split
  · exact opened ..
  · exact same rfl

/-- `usb_add_pending_device` for a device that was on the list before. -/
theorem openExisting (env : Env) (o : Outcome) (source : PendingSource) (monitor : DeviceMonitorState) (u : UsbDevice)
    (s : Daemon) : Touches u s (usbOpenDevice env o source monitor u true s) := by
  have hlist : ∀ s, Touches u s (usbListDevice env o source monitor u true s) := by
    intro s
    unfold usbListDevice
    exact (setRecord rfl).trans (listed ..)
  have hport : Touches u s (s.setRecord u fun dev => { dev with port := o.handle dev.port }) := setRecord rfl
  refine hport.trans ?_
  unfold usbOpenDevice
  dsimp only
  split
  · exact hlist _
  · split
    · exact (setRecord rfl).trans (hlist _)
    · exact cleanup ..

end Touches

/-! ### The list -/

/-- The list has no address and no location twice, and no address that is still to be handed out. -/
structure Listed (s : Daemon) : Prop where
  nodup : s.usb.deviceList.Nodup
  bound : ∀ u ∈ s.usb.deviceList, u < s.usb.fresh
  unique : ∀ u ∈ s.usb.deviceList, ∀ v ∈ s.usb.deviceList,
    (s.usb.records u).location = (s.usb.records v).location → u = v

namespace Listed

variable {u : UsbDevice} {s s' : Daemon}

/-- A step about one device keeps the list. -/
theorem touch (h : Listed s) (ht : Touches u s s') : Listed s' := by
  have hmem : ∀ v ∈ s'.usb.deviceList, v ∈ s.usb.deviceList := by
    intro v hv
    by_cases hvu : v = u
    · subst hvu
      exact ht.members hv
    · exact (ht.others v hvu).mp hv
  have hloc : ∀ v, (s'.usb.records v).location = (s.usb.records v).location := by
    intro v
    by_cases hvu : v = u
    · subst hvu
      exact ht.location
    · rw [ht.records v hvu]
  refine ⟨ht.nodup h.nodup, fun v hv => ?_, fun v hv v' hv' heq => ?_⟩
  · rw [ht.fresh]
    exact h.bound v (hmem v hv)
  · rw [hloc, hloc] at heq
    exact h.unique v (hmem v hv) v' (hmem v' hv') heq

/-- A new record is not on the list. -/
theorem new (h : Listed s) (location : UInt32) : Listed (newUsbDevice location s) := by
  have hold : ∀ v ∈ s.usb.deviceList, (newUsbDevice location s).usb.records v = s.usb.records v := by
    intro v hv
    simp [(h.bound v hv).ne]
  refine ⟨h.nodup, fun v hv => Nat.lt_succ_of_lt (h.bound v hv), fun v hv v' hv' heq => ?_⟩
  rw [hold v hv, hold v' hv'] at heq
  exact h.unique v hv v' hv' heq

/-- An entry is added for a location that has none. -/
theorem add (h : Listed s) (hu : u ∉ s.usb.deviceList) (hbound : u < s.usb.fresh)
    (hnone : ∀ v ∈ s.usb.deviceList, (s.usb.records v).location ≠ (s.usb.records u).location) :
    Listed (registerUsb u s) := by
  refine ⟨h.nodup.add hu, fun v hv => ?_, fun v hv v' hv' heq => ?_⟩
  · rcases SlotTable.mem_add.mp hv with rfl | hv
    · exact hbound
    · exact h.bound v hv
  · rcases SlotTable.mem_add.mp hv with rfl | hold
    · rcases SlotTable.mem_add.mp hv' with rfl | hold'
      · rfl
      · exact absurd heq.symm (hnone v' hold')
    · rcases SlotTable.mem_add.mp hv' with rfl | hold'
      · exact absurd heq (hnone v hold)
      · exact h.unique v hold v' hold' heq

end Listed

/-- What is on the list stays on it with its record. -/
def Spares (s s' : Daemon) : Prop := ∀ v ∈ s.usb.deviceList, v ∈ s'.usb.deviceList ∧ s'.usb.records v = s.usb.records v

namespace Spares

variable {s s' s'' : Daemon}

theorem trans (h : Spares s s') (h' : Spares s' s'') : Spares s s'' := fun v hv =>
  ⟨(h' v (h v hv).1).1, (h' v (h v hv).1).2.trans (h v hv).2⟩

theorem setRecord {u : UsbDevice} (h : Spares s s') (hu : u ∉ s.usb.deviceList) (f : UsbRecord → UsbRecord) :
    Spares s (s'.setRecord u f) := by
  intro v hv
  have hne : v ≠ u := by
    rintro rfl
    exact hu hv
  obtain ⟨hmem, hrecord⟩ := h v hv
  exact ⟨hmem, by simpa [hne] using hrecord⟩

end Spares

/-- `usb_add_pending_device` for a new device touches only the new record, once the entry for
it has been added, if it is. -/
theorem openNew_touches {s : Daemon} (h : Listed s) {location : UInt32}
    (hnone : ∀ v ∈ s.usb.deviceList, (s.usb.records v).location ≠ location) (env : Env) (o : Outcome)
    (source : PendingSource) (monitor : DeviceMonitorState) :
    ∃ s₁, Listed s₁ ∧ Spares s s₁ ∧ Touches s.usb.fresh s₁
      (usbOpenDevice env o source monitor s.usb.fresh false (newUsbDevice location s)) := by
  have hfresh : s.usb.fresh ∉ s.usb.deviceList := fun hmem => (h.bound _ hmem).ne rfl
  have hnew : Spares s (newUsbDevice location s) := fun v hv => ⟨hv, by simp [(h.bound v hv).ne]⟩
  -- the record is changed in between, but its location stays
  have hlist : ∀ s₂, Listed s₂ → Spares s s₂ → s₂.usb.deviceList = s.usb.deviceList →
      (s₂.usb.records s.usb.fresh).location = location → s.usb.fresh < s₂.usb.fresh → ∃ s₁, Listed s₁ ∧ Spares s s₁ ∧
        Touches s.usb.fresh s₁ (usbListDevice env o source monitor s.usb.fresh false s₂) := by
    intro s₂ hlisted hspares heq hloc hlt
    have hmonitor : Touches s.usb.fresh s₂ (s₂.setRecord s.usb.fresh fun dev => { dev with monitor }) :=
      .setRecord rfl
    have hnot : s.usb.fresh ∉ s₂.usb.deviceList := heq ▸ hfresh
    unfold usbListDevice
    rw [if_neg Bool.false_ne_true]
    dsimp only
    split
    · refine ⟨_, (hlisted.touch hmonitor).add hnot hlt fun v hv => ?_, ?_, .listed ..⟩
      · have hold : v ∈ s.usb.deviceList := heq ▸ hv
        have hne : v ≠ s.usb.fresh := (h.bound v hold).ne
        rw [hmonitor.records v hne, (hspares v hold).2, hmonitor.location, hloc]
        exact hnone v hold
      · exact (hspares.setRecord hfresh _).trans fun v hv => ⟨SlotTable.mem_add.mpr (.inr hv), rfl⟩
    · exact ⟨_, hlisted, hspares, hmonitor.trans (.cleanup ..)⟩
  have hport : Touches s.usb.fresh (newUsbDevice location s)
    ((newUsbDevice location s).setRecord s.usb.fresh fun dev => { dev with port := o.handle dev.port }) := .setRecord rfl
  have hspares := hnew.setRecord hfresh fun dev => { dev with port := o.handle dev.port }
  have hlisted := (h.new location).touch hport
  unfold usbOpenDevice
  dsimp only
  split
  · exact hlist _ hlisted hspares rfl (by simp) (Nat.lt_succ_self _)
  · split
    · refine hlist _ (hlisted.touch (.setRecord rfl)) (hspares.setRecord hfresh _) rfl ?_ (Nat.lt_succ_self _)
      simp
    · exact ⟨_, hlisted, hspares, .cleanup ..⟩

/-! ### Commands -/

section Commands

variable {env : Env} {o : Outcome} {s : Daemon}

theorem mem_entriesAt {u : UsbDevice} {location : UInt32} :
    u ∈ s.entriesAt location ↔ u ∈ s.usb.deviceList ∧ (s.usb.records u).location = location := by
  simp [Daemon.entriesAt, SlotTable.mem_def]

theorem entriesAt_none {location : UInt32} (h : (s.entriesAt location).getLast? = none) :
    ∀ v ∈ s.usb.deviceList, (s.usb.records v).location ≠ location := by
  intro v hv hloc
  have hmem : v ∈ s.entriesAt location := mem_entriesAt.mpr ⟨hv, hloc⟩
  rw [List.getLast?_eq_none_iff.mp h] at hmem
  cases hmem

theorem usbReport_usb (env : Env) (u : UsbDevice) (s : Daemon) : (usbReportDeviceAlreadyExists env u s).usb = s.usb := by
  unfold usbReportDeviceAlreadyExists
  dsimp only
  split
  · rfl
  · split <;> rfl

/-- The location a command is about. -/
def UsbCommand.location : UsbCommand → UInt32
  | .add _ location | .remove _ location | .setMonitor location _ => location

/-- What a command touches: the entry at its location, or a new one. -/
def TouchesAt (location : UInt32) (s s' : Daemon) : Prop :=
  (∃ u ∈ s.usb.deviceList, (s.usb.records u).location = location ∧ Touches u s s') ∨
    ∃ s₁, Listed s₁ ∧ Spares s s₁ ∧ Touches s.usb.fresh s₁ s'

theorem TouchesAt.same (h : Listed s) (location : UInt32) : TouchesAt location s s :=
  .inr ⟨s, h, fun _ hv => ⟨hv, rfl⟩, .same rfl⟩

theorem usbAddPendingDevice_touches (h : Listed s) (env : Env) (o : Outcome) (source : PendingSource)
    (location : UInt32) (monitor : DeviceMonitorState) :
    TouchesAt location s (usbAddPendingDevice env o source location monitor s) := by
  unfold usbAddPendingDevice
  split
  · rename_i u hu
    obtain ⟨hmem, hloc⟩ := mem_entriesAt.mp (List.mem_of_find?_eq_some hu)
    exact .inl ⟨u, hmem, hloc, .same (usbReport_usb env u s)⟩
  · split
    · rename_i u hu
      obtain ⟨hmem, hloc⟩ := mem_entriesAt.mp (List.mem_of_getLast? hu)
      exact .inl ⟨u, hmem, hloc, .openExisting ..⟩
    · rename_i hnone
      exact .inr (openNew_touches h (entriesAt_none hnone) env o source monitor)

/-- A command touches the entry at its location, or a new one. -/
theorem usbCommand_touches (h : Listed s) (env : Env) (o : Outcome) (cmd : UsbCommand) :
    TouchesAt cmd.location s (usbCommand env o cmd s) := by
  cases cmd with
  | add source location => exact usbAddPendingDevice_touches h env o source location .disable
  | remove source location =>
    simp only [usbCommand, usbRemovePendingDevice]
    split
    · exact .same h location
    · rename_i u hu
      have hremoved : Touches u s (muxRemove env u s) := .same rfl
      exact .inl ⟨u, SlotTable.find?_mem hu, by simpa [UsbCommand.location] using SlotTable.find?_pred hu,
        hremoved.trans (.disconnect ..)⟩
  | setMonitor location monitor =>
    simp only [usbCommand, usbHandleDeviceMonitorCommand]
    split
    · rename_i u hu
      obtain ⟨hmem, hloc⟩ := mem_entriesAt.mp (List.mem_of_getLast? hu)
      refine .inl ⟨u, hmem, hloc, ?_⟩
      split
      · exact .same rfl
      · split
        · exact .free u s
        · exact .setRecord rfl
    · split
      · exact usbAddPendingDevice_touches h env o .manual location monitor
      · exact .same h location

/-- A command keeps the list. -/
theorem Listed.command (h : Listed s) (env : Env) (o : Outcome) (cmd : UsbCommand) : Listed (usbCommand env o cmd s) := by
  rcases usbCommand_touches h env o cmd with ⟨u, -, -, ht⟩ | ⟨s₁, h₁, -, ht⟩
  · exact h.touch ht
  · exact h₁.touch ht

/-- An entry stays at its location. -/
theorem usbCommand_location (h : Listed s) (env : Env) (o : Outcome) (cmd : UsbCommand) {u : UsbDevice}
    (hu : u ∈ s.usb.deviceList) : ((usbCommand env o cmd s).usb.records u).location = (s.usb.records u).location := by
  rcases usbCommand_touches h env o cmd with ⟨v, -, -, ht⟩ | ⟨s₁, -, hspares, ht⟩
  · by_cases hv : u = v
    · subst hv
      exact ht.location
    · rw [ht.records u hv]
  · rw [ht.records u (h.bound u hu).ne, (hspares u hu).2]

end Commands

/-! ### Runs -/

/-- What happens between two turns of the daemon's lists: a command for the USB layer, with
the answers to it, or an operation of the mux layer that no client asks for. -/
inductive DaemonStep where
  | command (cmd : UsbCommand) (o : Outcome)
  | op (op : Op)

/-- The operation neither comes from the USB layer nor serves a client, who could only leave a
command for the USB layer. -/
def Op.isMuxOnly : Op → Bool
  | .clientReady .. | .usb .. => false
  | _ => true

/-- Take a step. -/
def daemonStep (env : Env) (s : Daemon) : DaemonStep → Daemon
  | .command cmd o => usbCommand env o cmd s
  | .op op => if op.isMuxOnly then { s with mux := exec (s.outside env) s.mux op } else s

/-- A run of both layers. -/
def daemonRun (env : Env) (steps : List DaemonStep) (s : Daemon) : Daemon := steps.foldl (daemonStep env) s

/-- Answers with which an attempt to add a device ends at the start of its threads. -/
def Outcome.noThread : Outcome where
  opened := true
  handle _ := ⟨comMceusb, vidApple, pidRangeLow, true⟩
  createEvent := true
  serial := []
  configured := true
  readThread := false
  writeThread := false
  stopped := true

theorem daemonRun_append (env : Env) (steps : List DaemonStep) (step : DaemonStep) (s : Daemon) :
    daemonRun env (steps ++ [step]) s = daemonStep env (daemonRun env steps s) step := by
  simp [daemonRun]

theorem daemonStep_op_usb (env : Env) (s : Daemon) (op : Op) : (daemonStep env s (.op op)).usb = s.usb := by
  unfold daemonStep
  dsimp only
  split <;> rfl

theorem listed_init : Listed .init where
  nodup := SlotTable.nodup_init _
  bound := fun u hu => absurd hu (SlotTable.not_mem_init _ u)
  unique := fun u hu => absurd hu (SlotTable.not_mem_init _ u)

theorem Listed.daemonStep {s : Daemon} (h : Listed s) (env : Env) (step : DaemonStep) :
    Listed (daemonStep env s step) := by
  cases step with
  | command cmd o => exact h.command env o cmd
  | op op =>
    have ht : Touches 0 s (Usbmuxd.daemonStep env s (.op op)) := .same (daemonStep_op_usb env s op)
    exact h.touch ht

/-- Whatever the plugin and the system answer, no two entries have the same location. -/
theorem listed_run (env : Env) (steps : List DaemonStep) : Listed (daemonRun env steps .init) := by
  induction steps using List.reverseRecOn with
  | nil => exact listed_init
  | append_singleton steps step ih =>
    rw [daemonRun_append]
    exact ih.daemonStep env step

end Usbmuxd
