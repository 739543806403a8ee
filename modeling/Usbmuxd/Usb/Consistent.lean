import Usbmuxd.Usb.DeviceList

/-!
# The two device lists agree

Whatever an attempt to add or remove a device comes to, each device of the mux layer is
about an entry of `g_device_list`, no two about the same one, and a device that is waited
for is monitored.

## The model

* `Backed` — what a USB device that the mux layer knows has to be.
* `Consistent who` — the lists agree about the USB devices in `who`. While a command works
  on a device, they agree about the others.

## What is proved

* `Consistent.disconnect`, `Consistent.cleanup`, `Consistent.start`, … — one for each part of a command.
* `Consistent.command` — the lists agree after a command.
* `lists_consistent` — and so after every run.
-/

namespace Usbmuxd

open World

/-! ### Agreement -/

/-- The mux layer may have a device about `u`. -/
structure Backed (s : Daemon) (u : UsbDevice) : Prop where
  mem : u ∈ s.usb.deviceList
  valid : (s.usb.records u).isValid = true
  settled : (s.usb.records u).state ≠ .waitingForDevice

/-- A device that is waited for is monitored. -/
def UsbRecord.Waits (dev : UsbRecord) : Prop := dev.state = .waitingForDevice → dev.monitor ≠ .disable

/-- The lists agree about the USB devices in `who`. -/
structure Consistent (env : Env) (who : UsbDevice → Prop) (s : Daemon) : Prop where
  listed : Listed s
  steady : Steady env s.mux
  distinct : s.mux.Distinct
  backed : ∀ d ∈ s.mux.deviceList, who (s.mux.devs d).usbdev → Backed s (s.mux.devs d).usbdev
  waits : ∀ u ∈ s.usb.deviceList, who u → (s.usb.records u).Waits

/-- The answers of the plugin and the system: an open port is one of the USB driver's, and a
read thread can be stopped. -/
structure Outcome.Documented (o : Outcome) : Prop where
  port : o.opened = true → ∀ port, (o.handle port).dwPortID = comMceusb
  stopped : o.stopped = true

theorem reliable_outside (s : Daemon) (env : Env) : (s.outside env).Reliable ↔ env.Reliable :=
  ⟨fun h => ⟨h.realloc, h.plistToXml⟩, fun h => ⟨h.realloc, h.plistToXml⟩⟩

theorem steady_outside (s : Daemon) (env : Env) (w : World) : Steady (s.outside env) w ↔ Steady env w := by
  have heq : (s.outside env).Reliable = env.Reliable := propext (reliable_outside s env)
  constructor
  · intro h
    exact ⟨⟨heq ▸ h.tracked.ok, h.tracked.armed⟩, h.settled⟩
  · intro h
    exact ⟨⟨heq ▸ h.tracked.ok, h.tracked.armed⟩, h.settled⟩

/-- An operation of the mux layer, with the outside as the USB layer answers it. -/
theorem steady_mux {env : Env} {s : Daemon} (h : Steady env s.mux) (op : Op) :
    Steady env (exec (s.outside env) s.mux op) :=
  (steady_outside s env _).mp (steady_exec ((steady_outside s env _).mpr h) op)

namespace Consistent

variable {env : Env} {who : UsbDevice → Prop} {o : Outcome} {u : UsbDevice} {s : Daemon}

/-- The mux layer has lost devices at most. -/
theorem mux (h : Consistent env who s) {w : World} (hshrinks : s.mux.Shrinks w) (hsteady : Steady env w) :
    Consistent env who { s with mux := w } where
  listed := ⟨h.listed.nodup, h.listed.bound, h.listed.unique⟩
  steady := hsteady
  distinct := hshrinks.distinct h.distinct
  backed := fun d hd hwho => by
    rw [(hshrinks d hd).2] at hwho ⊢
    obtain ⟨hmem, hvalid, hsettled⟩ := h.backed d (hshrinks d hd).1 hwho
    exact ⟨hmem, hvalid, hsettled⟩
  waits := h.waits

theorem besides (h : Consistent env (fun _ => True) s) (u : UsbDevice) : Consistent env (· ≠ u) s :=
  ⟨h.listed, h.steady, h.distinct, fun d hd _ => h.backed d hd trivial, fun v hv _ => h.waits v hv trivial⟩

/-- The lists agree about all devices if they agree about the others. -/
theorem all (h : Consistent env (· ≠ u) s) (hbacked : Backed s u ∨ s.mux.Absent u)
    (hwaits : u ∈ s.usb.deviceList → (s.usb.records u).Waits) : Consistent env (fun _ => True) s := by
  refine ⟨h.listed, h.steady, h.distinct, fun d hd _ => ?_, fun v hv _ => ?_⟩
  · by_cases hu : (s.mux.devs d).usbdev = u
    · rcases hbacked with hbacked | habsent
      · rw [hu]
        exact hbacked
      · exact absurd hu (habsent d hd)
    · exact h.backed d hd hu
  · by_cases hu : v = u
    · subst hu
      exact hwaits hv
    · exact h.waits v hv hu

/-- A step about one device keeps what the lists say about the others. -/
theorem touch {s' : Daemon} (h : Consistent env (· ≠ u) s) (ht : Touches u s s') (hmux : s'.mux = s.mux) :
    Consistent env (· ≠ u) s' where
  listed := h.listed.touch ht
  steady := hmux ▸ h.steady
  distinct := hmux ▸ h.distinct
  backed := fun d hd hne => by
    rw [hmux] at hd hne ⊢
    obtain ⟨hmem, hvalid, hsettled⟩ := h.backed d hd hne
    have hrecord := ht.records _ hne
    exact ⟨(ht.others _ hne).mpr hmem, hrecord ▸ hvalid, hrecord ▸ hsettled⟩
  waits := fun v hv hne => by
    rw [ht.records v hne]
    exact h.waits v ((ht.others v hne).mp hv) hne

theorem setRecord (h : Consistent env (· ≠ u) s) {f : UsbRecord → UsbRecord}
    (hf : (f (s.usb.records u)).location = (s.usb.records u).location) : Consistent env (· ≠ u) (s.setRecord u f) :=
  h.touch (.setRecord hf) rfl

/-! ### Calls of the mux layer -/

theorem removed (h : Consistent env who s) : Consistent env who (muxRemove env u s) :=
  h.mux (shrinks_deviceRemove _ u _) (steady_mux h.steady (.usb (.deviceRemove u)))

theorem absent_removed (h : Consistent env who s) : (muxRemove env u s).mux.Absent u :=
  deviceRemove_absent h.steady.tracked.ok.devices_nodup h.distinct _ u

theorem shrinks_addFailed (env : Env) (u : UsbDevice) (s : Daemon) : s.mux.Shrinks (muxAddFailed env u s).mux :=
  .traffic (traffic_clientDevicePairingEvent (s.outside env) s.mux _ .removedDuringAdd false)

theorem addFailed (h : Consistent env who s) : Consistent env who (muxAddFailed env u s) :=
  h.mux (shrinks_addFailed env u s) (steady_mux h.steady (.usb (.deviceAddFailed u)))

/-- `device_add` adds one device at most, and only if it succeeds. -/
theorem added (h : Consistent env (· ≠ u) s) (habsent : s.mux.Absent u) :
    Consistent env (· ≠ u) (muxAdd env u s) ∧ (muxAddOk env u s = false → (muxAdd env u s).mux.Absent u) := by
  have hlist := deviceAdd_list h.steady.tracked.ok.device_lt (s.outside env) u
  refine ⟨⟨⟨h.listed.nodup, h.listed.bound, h.listed.unique⟩, steady_mux h.steady (.usb (.deviceAdd u)), ?_, ?_,
    h.waits⟩, ?_⟩
  · intro d hd d' hd' heq
    rcases hlist d hd with ⟨hmem, husb⟩ | ⟨rfl, husb, -⟩ <;> rcases hlist d' hd' with ⟨hmem', husb'⟩ | ⟨rfl, husb', -⟩
    · exact h.distinct d hmem d' hmem' (husb.symm.trans (heq.trans husb'))
    · exact absurd (husb.symm.trans (heq.trans husb')) (habsent d hmem)
    · exact absurd (husb'.symm.trans (heq.symm.trans husb)) (habsent d' hmem')
    · rfl
  · intro d hd hne
    rcases hlist d hd with ⟨hmem, husb⟩ | ⟨rfl, husb, -⟩
    · change ((deviceAdd (s.outside env) u s.mux).devs d).usbdev ≠ u at hne
      change Backed _ ((deviceAdd (s.outside env) u s.mux).devs d).usbdev
      rw [husb] at hne ⊢
      obtain ⟨hmem', hvalid, hsettled⟩ := h.backed d hmem hne
      exact ⟨hmem', hvalid, hsettled⟩
    · exact absurd husb hne
  · intro hfail d hd
    rcases hlist d hd with ⟨hmem, husb⟩ | ⟨rfl, -, hok⟩
    · exact fun hu => habsent d hmem (husb.symm.trans hu)
    · unfold muxAddOk at hfail
      rw [hok] at hfail
      cases hfail

/-! ### An attempt to add the device -/

/-- The mux layer has no device about `u`, and the record is released or waited for. -/
theorem disconnect (h : Consistent env (· ≠ u) s) (habsent : s.mux.Absent u) (ho : o.Documented) (manualRemove : Bool) :
    Consistent env (fun _ => True) (usbDisconnect o u manualRemove s) := by
  have hmux : (usbDisconnect o u manualRemove s).mux = s.mux := by
    unfold usbDisconnect
    split
    · rfl
    · dsimp only
      split <;> rfl
  refine (h.touch (.disconnect ..) hmux).all (.inr (by rw [hmux]; exact habsent)) fun hu hwaiting => ?_
  unfold usbDisconnect at hu ⊢
  simp only [ho.stopped, Bool.not_true, Bool.and_false, Bool.false_eq_true, if_false] at hu ⊢
  split at hu
  · -- the record has been taken off the list
    exact absurd rfl ((SlotTable.mem_remove h.listed.nodup).mp hu).1
  · rename_i hkeep
    rw [if_neg hkeep]
    rw [not_or] at hkeep
    simpa using hkeep.2

theorem cleanup (h : Consistent env (· ≠ u) s) (ho : o.Documented) {isExisting wasAdded : Bool}
    (hadded : wasAdded = false → s.mux.Absent u) :
    Consistent env (fun _ => True) (usbAddCleanup env o u isExisting wasAdded s) := by
  unfold usbAddCleanup
  dsimp only
  cases wasAdded with
  | true => exact h.removed.disconnect h.absent_removed ho _
  | false =>
    rw [if_neg Bool.false_ne_true]
    split
    · exact h.disconnect (hadded rfl) ho _
    · exact h.addFailed.disconnect ((shrinks_addFailed env u s).absent (hadded rfl)) ho _

theorem start (h : Consistent env (· ≠ u) s) (habsent : s.mux.Absent u) (hmem : u ∈ s.usb.deviceList)
    (hvalid : (s.usb.records u).isValid = true) (ho : o.Documented) (isExisting : Bool) :
    Consistent env (fun _ => True) (usbStartDevice env o u isExisting s) := by
  obtain ⟨hadded, hfailed⟩ := h.added habsent
  have hthread : Consistent env (· ≠ u) ((muxAdd env u s).setRecord u fun dev => { dev with rxThread := true }) :=
    hadded.setRecord rfl
  unfold usbStartDevice
  dsimp only
  split_ifs with hok hread hwrite
  · exact hadded.cleanup ho fun _ => hfailed (by simpa using hok)
  · exact hadded.cleanup ho (by simp)
  · exact hthread.cleanup ho (by simp)
  · refine (hthread.setRecord (f := fun dev => { dev with state := .alive }) (by rfl)).all (.inl ⟨hmem, ?_, ?_⟩)
      fun _ hwaiting => ?_
    · simpa [muxAdd, UsbRecord.isValid] using hvalid
    · simp
    · simp at hwaiting

/-- The port is open. `hnew` says what became of the monitor of a new record. -/
theorem opened (h : Consistent env (· ≠ u) s) (habsent : s.mux.Absent u) (hmem : u ∈ s.usb.deviceList)
    (hvalid : (s.usb.records u).isValid = true) (ho : o.Documented) {isExisting : Bool} {monitor : DeviceMonitorState}
    (hnew : monitor ≠ .disable → (s.usb.records u).monitor = monitor) (source : PendingSource) :
    Consistent env (fun _ => True) (usbOpenedDevice env o source monitor u isExisting s) := by
  have hserial : Consistent env (· ≠ u) (s.setRecord u fun dev => { dev with serial := o.serial }) := h.setRecord rfl
  unfold usbOpenedDevice
  dsimp only
  split_ifs with hunsupported hmonitor hconfigured halways
  · exact h.all (.inr habsent) fun _ _ => by rw [hnew hmonitor.2]; exact hmonitor.2
  · exact h.cleanup ho fun _ => habsent
  · exact hserial.start habsent hmem (by simpa [UsbRecord.isValid] using hvalid) ho isExisting
  · exact hserial.all (.inr habsent) fun _ _ => by rw [halways.2]; decide
  · exact hserial.cleanup ho fun _ => habsent

/-- An entry for the device is on the list. Without an open port it is only waited for. -/
theorem listedDevice (h : Consistent env (· ≠ u) s) (habsent : s.mux.Absent u) (hmem : u ∈ s.usb.deviceList)
    (hvalid : o.opened = true → (s.usb.records u).isValid = true) (ho : o.Documented) {isExisting : Bool}
    {monitor : DeviceMonitorState} (hnew : monitor ≠ .disable → (s.usb.records u).monitor = monitor)
    (hclosed : o.opened = false → monitor = .always) (source : PendingSource) :
    Consistent env (fun _ => True) (usbListedDevice env o source monitor u isExisting s) := by
  unfold usbListedDevice
  split
  · rename_i hopened
    exact h.opened habsent hmem (hvalid hopened) ho hnew source
  · rename_i hopened
    have halways := hclosed (by simpa using hopened)
    subst halways
    exact h.all (.inr habsent) fun _ _ => by rw [hnew (by decide)]; decide

/-- The port has been opened, or is to be monitored. -/
theorem list (h : Consistent env (· ≠ u) s) (habsent : s.mux.Absent u)
    (hvalid : o.opened = true → (s.usb.records u).isValid = true) (ho : o.Documented) {isExisting : Bool}
    {monitor : DeviceMonitorState} (hclosed : o.opened = false → monitor = .always)
    (hold : isExisting = true → u ∈ s.usb.deviceList ∧ monitor = .disable)
    (hnew : isExisting = false → u ∉ s.usb.deviceList ∧ u < s.usb.fresh ∧
      ∀ v ∈ s.usb.deviceList, (s.usb.records v).location ≠ (s.usb.records u).location) (source : PendingSource) :
    Consistent env (fun _ => True) (usbListDevice env o source monitor u isExisting s) := by
  unfold usbListDevice
  cases isExisting with
  | true =>
    obtain ⟨hmem, hmonitor⟩ := hold rfl
    have huse : Consistent env (· ≠ u) (s.setRecord u (·.useUp)) := h.setRecord rfl
    rw [if_pos rfl]
    exact huse.listedDevice habsent hmem (by simpa [UsbRecord.isValid] using hvalid) ho
      (fun hne => absurd hmonitor hne) hclosed source
  | false =>
    obtain ⟨hnot, hbound, hnone⟩ := hnew rfl
    have hset : Consistent env (· ≠ u) (s.setRecord u fun dev => { dev with monitor }) := h.setRecord rfl
    rw [if_neg Bool.false_ne_true]
    dsimp only
    split
    · have hlist : Listed (registerUsb u (s.setRecord u fun dev => { dev with monitor })) := by
        refine hset.listed.add hnot hbound fun v hv => ?_
        have hne : v ≠ u := by
          rintro rfl
          exact hnot hv
        simpa [hne] using hnone v hv
      have hreg : Consistent env (· ≠ u) (registerUsb u (s.setRecord u fun dev => { dev with monitor })) := by
        refine ⟨hlist, hset.steady, hset.distinct, fun d hd hne => ?_, fun v hv hne => ?_⟩
        · obtain ⟨hmem, hvalid, hsettled⟩ := hset.backed d hd hne
          exact ⟨SlotTable.mem_add.mpr (.inr hmem), hvalid, hsettled⟩
        · exact hset.waits v ((SlotTable.mem_add.mp hv).resolve_left hne) hne
      exact hreg.listedDevice habsent (SlotTable.mem_add.mpr (.inl rfl)) (by simpa [UsbRecord.isValid] using hvalid) ho
        (fun _ => by simp) hclosed source
    · exact hset.cleanup ho fun _ => habsent

/-- `usb_add_pending_device` for a device whose record is there. -/
theorem openDevice (h : Consistent env (· ≠ u) s) (habsent : s.mux.Absent u) (ho : o.Documented) {isExisting : Bool}
    {monitor : DeviceMonitorState} (hold : isExisting = true → u ∈ s.usb.deviceList ∧ monitor = .disable)
    (hnew : isExisting = false → u ∉ s.usb.deviceList ∧ u < s.usb.fresh ∧
      ∀ v ∈ s.usb.deviceList, (s.usb.records v).location ≠ (s.usb.records u).location) (source : PendingSource) :
    Consistent env (fun _ => True) (usbOpenDevice env o source monitor u isExisting s) := by
  have hport : Consistent env (· ≠ u) (s.setRecord u fun dev => { dev with port := o.handle dev.port }) :=
    h.setRecord rfl
  have hnew' : ∀ f : UsbRecord → UsbRecord, (f (s.usb.records u)).location = (s.usb.records u).location →
      isExisting = false → u ∉ (s.setRecord u f).usb.deviceList ∧ u < (s.setRecord u f).usb.fresh ∧
        ∀ v ∈ (s.setRecord u f).usb.deviceList,
          ((s.setRecord u f).usb.records v).location ≠ ((s.setRecord u f).usb.records u).location := by
    intro f hf hex
    obtain ⟨hnot, hbound, hnone⟩ := hnew hex
    refine ⟨hnot, hbound, fun v hv => ?_⟩
    have hne : v ≠ u := by
      rintro rfl
      exact hnot hv
    simpa [hne, hf] using hnone v hv
  unfold usbOpenDevice
  dsimp only
  split_ifs with hopened halways
  · refine hport.list habsent (fun _ => ?_) ho (fun hclosed => ?_) hold (hnew' _ rfl) source
    · simpa [UsbRecord.isValid] using ho.port hopened _
    · rw [hopened] at hclosed
      cases hclosed
  · have hwaiting : Consistent env (· ≠ u) ((s.setRecord u fun dev => { dev with port := o.handle dev.port }).setRecord u
        fun dev => { dev with state := .waitingForDevice }) := hport.setRecord rfl
    refine hwaiting.list habsent (fun hopen => absurd hopen hopened) ho (fun _ => halways) hold ?_ source
    simpa using hnew' (fun dev => { dev with port := o.handle dev.port, state := .waitingForDevice }) rfl
  · exact hport.cleanup ho fun _ => habsent

end Consistent

/-! ### Commands -/

section Commands

variable {env : Env} {o : Outcome} {s : Daemon}

/-- A new record is about a device that neither layer knows. -/
theorem Consistent.new (h : Consistent env (fun _ => True) s) (location : UInt32) :
    Consistent env (fun _ => True) (newUsbDevice location s) := by
  have hold : ∀ v ∈ s.usb.deviceList, (newUsbDevice location s).usb.records v = s.usb.records v := by
    intro v hv
    simp [(h.listed.bound v hv).ne]
  refine ⟨h.listed.new location, h.steady, h.distinct, fun d hd _ => ?_, fun v hv _ => ?_⟩
  · obtain ⟨hmem, hvalid, hsettled⟩ := h.backed d hd trivial
    exact ⟨hmem, (congrArg UsbRecord.isValid (hold _ hmem)).trans hvalid, fun hwaiting =>
      hsettled ((congrArg UsbRecord.state (hold _ hmem)).symm.trans hwaiting)⟩
  · rw [hold v hv]
    exact h.waits v hv trivial

/-- The mux layer knows only devices of which it can be told. -/
theorem Consistent.absent (h : Consistent env (fun _ => True) s) {u : UsbDevice} (hnot : ¬ Backed s u) :
    s.mux.Absent u := by
  rintro d hd rfl
  exact hnot (h.backed d hd trivial)

theorem Consistent.add (h : Consistent env (fun _ => True) s) (ho : o.Documented) (source : PendingSource)
    {location : UInt32} {monitor : DeviceMonitorState}
    (hmonitor : monitor = .disable ∨ (s.entriesAt location).getLast? = none) :
    Consistent env (fun _ => True) (usbAddPendingDevice env o source location monitor s) := by
  unfold usbAddPendingDevice
  split
  · rename_i u _
    have hsame := usbReport_usb env u s
    have hmux : s.mux.Shrinks (usbReportDeviceAlreadyExists env u s).mux ∧
        Steady env (usbReportDeviceAlreadyExists env u s).mux := by
      unfold usbReportDeviceAlreadyExists
      dsimp only
      split_ifs
      · exact ⟨.refl _, h.steady⟩
      · exact ⟨.refl _, h.steady⟩
      · have hevent := traffic_clientDevicePairingEvent env s.mux ⟨(s.usb.records u).id, (s.usb.records u).location,
          (s.usb.records u).serial, (s.usb.records u).port.wPID⟩ .errorDeviceAlreadyExists false
        exact ⟨.traffic hevent, steady_exec h.steady (.usb (.errorAlreadyExists _))⟩
    have heq : usbReportDeviceAlreadyExists env u s = { s with mux := (usbReportDeviceAlreadyExists env u s).mux } := by
      rw [← hsame]
    rw [heq]
    exact h.mux hmux.1 hmux.2
  · rename_i hnone
    split
    · rename_i u hu
      have hat := List.mem_of_getLast? hu
      obtain ⟨hmem, -⟩ := mem_entriesAt.mp hat
      have hinvalid := List.find?_eq_none.mp hnone u hat
      refine (h.besides u).openDevice (h.absent fun hbacked => hinvalid hbacked.valid) ho (fun _ => ⟨hmem, ?_⟩)
        (by simp) source
      exact hmonitor.resolve_right (by rw [hu]; simp)
    · rename_i hlast
      have hfresh : s.usb.fresh ∉ s.usb.deviceList := fun hmem => (h.listed.bound _ hmem).ne rfl
      refine ((h.new location).besides _).openDevice (h.absent fun hbacked => hfresh hbacked.mem) ho (by simp)
        (fun _ => ⟨hfresh, Nat.lt_succ_self _, fun v hv => ?_⟩) source
      have hne : v ≠ s.usb.fresh := (h.listed.bound v hv).ne
      simpa [hne] using entriesAt_none hlast v hv

/-- The lists agree after a command. -/
theorem Consistent.command (h : Consistent env (fun _ => True) s) (ho : o.Documented) (cmd : UsbCommand) :
    Consistent env (fun _ => True) (usbCommand env o cmd s) := by
  cases cmd with
  | add source location => exact h.add ho source (.inl rfl)
  | remove source location =>
    simp only [usbCommand, usbRemovePendingDevice]
    split
    · exact h
    · rename_i u _
      exact ((h.besides u).removed).disconnect (h.besides u).absent_removed ho _
  | setMonitor location monitor =>
    simp only [usbCommand, usbHandleDeviceMonitorCommand]
    split
    · rename_i u _
      split_ifs with halways hwaiting
      · exact h
      · -- a device that is waited for is not known to the mux layer
        have habsent := h.absent fun hbacked : Backed s u => hbacked.settled hwaiting.2
        refine ((h.besides u).touch (.free u s) rfl).all (.inr habsent) fun hu => ?_
        exact absurd rfl ((SlotTable.mem_remove h.listed.nodup).mp hu).1
      · have hset : Consistent env (· ≠ u) (s.setRecord u fun dev => { dev with monitor }) := (h.besides u).setRecord rfl
        refine hset.all ?_ fun _ hwait => ?_
        · by_cases hbacked : Backed s u
          · exact .inl ⟨hbacked.mem, by simpa [UsbRecord.isValid] using hbacked.valid, by simpa using hbacked.settled⟩
          · exact .inr (h.absent hbacked)
        · simp only [Daemon.setRecord_usb_records, Function.update_self] at hwait ⊢
          exact fun hdisable => hwaiting ⟨hdisable, hwait⟩
    · rename_i hlast
      split
      · exact h.add ho .manual (.inr hlast)
      · exact h

end Commands

/-! ### Runs -/

theorem consistent_init (env : Env) : Consistent env (fun _ => True) .init where
  listed := listed_init
  steady := steady_init env
  distinct := fun d hd => absurd hd (SlotTable.not_mem_init _ d)
  backed := fun d hd => absurd hd (SlotTable.not_mem_init _ d)
  waits := fun u hu => absurd hu (SlotTable.not_mem_init _ u)

theorem Consistent.step {env : Env} {s : Daemon} (h : Consistent env (fun _ => True) s) {step : DaemonStep}
    (ho : ∀ cmd o, step = .command cmd o → o.Documented) : Consistent env (fun _ => True) (daemonStep env s step) := by
  cases step with
  | command cmd o => exact h.command (ho cmd o rfl) cmd
  | op op =>
    simp only [daemonStep]
    split
    · rename_i hop
      exact h.mux (shrinks_exec _ _ hop) (steady_mux h.steady op)
    · exact h

/-- After every run no two entries of `g_device_list` have the same location, each device of the mux layer
is about an entry, no two about the same one, and every device that is waited for is monitored. -/
theorem lists_consistent (env : Env) (steps : List DaemonStep)
    (ho : ∀ cmd o, DaemonStep.command cmd o ∈ steps → o.Documented) :
    let s := daemonRun env steps .init
    (s.usb.deviceList.elements.map fun u => (s.usb.records u).location).Nodup ∧
      (∀ d ∈ s.mux.deviceList, (s.mux.devs d).usbdev ∈ s.usb.deviceList) ∧
      (s.mux.deviceList.elements.map fun d => (s.mux.devs d).usbdev).Nodup ∧
      ∀ u ∈ s.usb.deviceList, (s.usb.records u).state = .waitingForDevice →
        (s.usb.records u).monitor = .once ∨ (s.usb.records u).monitor = .always := by
  have h : Consistent env (fun _ => True) (daemonRun env steps .init) := by
    induction steps using List.reverseRecOn with
    | nil => exact consistent_init env
    | append_singleton steps step ih =>
      rw [daemonRun_append]
      refine (ih fun cmd o hmem => ho cmd o (List.mem_append_left _ hmem)).step fun cmd o heq => ho cmd o ?_
      exact List.mem_append_right _ (by simp [heq])
  refine ⟨?_, fun d hd => (h.backed d hd trivial).mem, ?_, fun u hu hwaiting => ?_⟩
  · exact List.Nodup.map_on (fun u hu v hv heq => h.listed.unique u hu v hv heq) h.listed.nodup
  · exact List.Nodup.map_on (fun d hd d' hd' heq => h.distinct d hd d' hd' heq) h.steady.tracked.ok.devices_nodup
  · have hmonitor := h.waits u hu trivial hwaiting
    cases hm : (daemonRun env steps .init).usb.records u |>.monitor with
    | once => exact .inl rfl
    | always => exact .inr rfl
    | disable => exact absurd hm hmonitor

/-- The device at port `5` is added, but its thread cannot be started. -/
theorem lists_consistent_noThread :
    let s := daemonRun .quiet [.command (.setMonitor 5 .always) .noThread, .command (.add .monitor 5) .noThread] .init
    (s.usb.deviceList.elements.map fun u => (s.usb.records u).location).Nodup :=
  (lists_consistent .quiet [.command (.setMonitor 5 .always) .noThread, .command (.add .monitor 5) .noThread]
    (fun cmd o hmem => by
      have ho : o = .noThread := by
        simp only [List.mem_cons, DaemonStep.command.injEq, List.not_mem_nil, or_false] at hmem
        rcases hmem with ⟨-, ho⟩ | ⟨-, ho⟩ <;> exact ho
      subst ho
      exact ⟨fun _ _ => rfl, rfl⟩)).1

end Usbmuxd
