import Usbmuxd.Usb.Listed

/-!
# Permanent monitoring

An entry whose monitor is `DEVICE_MONITOR_ALWAYS` survives every way in which an attempt to
add its device can fail: the cleanup keeps it, and so does the removal that the system
reports. Only a command that asks for it takes the entry off, or changes its monitor.

## The model

* `Monitored u` — the device is on the list, and always monitored.
* `DaemonStep.ends` — a step that ends the monitoring of a location.

## What is proved

* `Monitored.command` — a command that does not end it keeps the monitoring.
* `always_monitored` — so does every sequence of steps.
-/

namespace Usbmuxd

open World

/-- The device is on the list, and always monitored. -/
structure Monitored (u : UsbDevice) (s : Daemon) : Prop where
  mem : u ∈ s.usb.deviceList
  always : (s.usb.records u).monitor = .always

/-- A command that ends the monitoring of a location: `SET_MONITOR` with `DEVICE_MONITOR_DISABLE`,
or a removal by hand. -/
def UsbCommand.ends (location : UInt32) : UsbCommand → Prop
  | .setMonitor location' .disable | .remove .manual location' => location' = location
  | _ => False

/-- A step that ends the monitoring of a location. -/
def DaemonStep.ends (location : UInt32) : DaemonStep → Prop
  | .command cmd _ => cmd.ends location
  | .op _ => False

namespace Monitored

variable {u : UsbDevice} {s s' : Daemon}

/-! ### An attempt to add the device -/

theorem same (h : Monitored u s) (heq : s'.usb = s.usb) : Monitored u s' := ⟨heq ▸ h.mem, heq ▸ h.always⟩

theorem setRecord (h : Monitored u s) {f : UsbRecord → UsbRecord}
    (hf : (s.usb.records u).monitor = .always → (f (s.usb.records u)).monitor = .always) :
    Monitored u (s.setRecord u f) := ⟨h.mem, by simpa using hf h.always⟩

/-- A device that is unplugged stays on the list. -/
theorem disconnect (h : Monitored u s) (o : Outcome) : Monitored u (usbDisconnect o u false s) := by
  unfold usbDisconnect
  split
  · exact h
  · have hthread : Monitored u (s.setRecord u fun dev => { dev with rxThread := false }) := h.setRecord id
    dsimp only
    have hmonitor : (s.usb.records u).monitor ≠ .disable := by simp [h.always]
    rw [if_neg (by simpa using hmonitor)]
    exact hthread.setRecord id

theorem cleanup (h : Monitored u s) (env : Env) (o : Outcome) (wasAdded : Bool) :
    Monitored u (usbAddCleanup env o u true wasAdded s) := by
  unfold usbAddCleanup
  simp only [h.always, Bool.true_and, beq_self_eq_true, Bool.not_true, if_true]
  split
  · have hremoved : Monitored u (muxRemove env u s) := h.same rfl
    exact hremoved.disconnect o
  · exact h.disconnect o

theorem start (h : Monitored u s) (env : Env) (o : Outcome) : Monitored u (usbStartDevice env o u true s) := by
  have hadd : Monitored u (muxAdd env u s) := h.same rfl
  have hthread : Monitored u ((muxAdd env u s).setRecord u fun dev => { dev with rxThread := true }) := hadd.setRecord id
  unfold usbStartDevice
  dsimp only
  split_ifs
  · exact hadd.cleanup env o false
  · exact hadd.cleanup env o true
  · exact hthread.cleanup env o true
  · exact hthread.setRecord id

theorem opened (h : Monitored u s) (env : Env) (o : Outcome) (source : PendingSource) (monitor : DeviceMonitorState) :
    Monitored u (usbOpenedDevice env o source monitor u true s) := by
  have hserial : Monitored u (s.setRecord u fun dev => { dev with serial := o.serial }) := h.setRecord id
  unfold usbOpenedDevice
  dsimp only
  split_ifs
  · exact h
  · exact h.cleanup env o false
  · exact hserial.start env o
  · exact hserial
  · exact hserial.cleanup env o false

theorem list (h : Monitored u s) (env : Env) (o : Outcome) (source : PendingSource) (monitor : DeviceMonitorState) :
    Monitored u (usbListDevice env o source monitor u true s) := by
  have huse : Monitored u (s.setRecord u (·.useUp)) := h.setRecord fun halways => by simp [halways]
  unfold usbListDevice usbListedDevice
  rw [if_pos rfl]
  split
  · exact huse.opened env o source monitor
  · exact huse

/-- However an attempt to add the device ends, it stays monitored. -/
theorem openDevice (h : Monitored u s) (env : Env) (o : Outcome) (source : PendingSource)
    (monitor : DeviceMonitorState) : Monitored u (usbOpenDevice env o source monitor u true s) := by
  have hport : Monitored u (s.setRecord u fun dev => { dev with port := o.handle dev.port }) := h.setRecord id
  unfold usbOpenDevice
  dsimp only
  split_ifs
  · exact hport.list env o source monitor
  · exact (hport.setRecord id).list env o source monitor
  · exact hport.cleanup env o false

/-! ### Commands -/

/-- A step about another device. -/
theorem touch {v : UsbDevice} (h : Monitored u s) (ht : Touches v s s') (hne : u ≠ v) : Monitored u s' :=
  ⟨(ht.others u hne).mpr h.mem, by rw [ht.records u hne]; exact h.always⟩

/-- A command for another location. -/
theorem elsewhere (h : Monitored u s) (hl : Listed s) (env : Env) (o : Outcome) {cmd : UsbCommand}
    (hother : (s.usb.records u).location ≠ cmd.location) : Monitored u (usbCommand env o cmd s) := by
  rcases usbCommand_touches hl env o cmd with ⟨v, -, hloc, ht⟩ | ⟨s₁, -, hspares, ht⟩
  · refine h.touch ht ?_
    rintro rfl
    exact hother hloc
  · obtain ⟨hmem, hrecord⟩ := hspares u h.mem
    have hkept : Monitored u s₁ := ⟨hmem, hrecord ▸ h.always⟩
    exact hkept.touch ht (hl.bound u h.mem).ne

/-- The entry of the location is the one that is found. -/
theorem last {location : UInt32} (h : Monitored u s) (hl : Listed s) (hloc : (s.usb.records u).location = location) :
    (s.entriesAt location).getLast? = some u := by
  cases hlast : (s.entriesAt location).getLast? with
  | none => exact absurd hloc (entriesAt_none hlast u h.mem)
  | some v =>
    obtain ⟨hmem, hloc'⟩ := mem_entriesAt.mp (List.mem_of_getLast? hlast)
    rw [hl.unique u h.mem v hmem (hloc.trans hloc'.symm)]

/-- A command that does not end it keeps the monitoring. -/
theorem command (h : Monitored u s) (hl : Listed s) (env : Env) (o : Outcome) {cmd : UsbCommand}
    (hkeep : ¬ cmd.ends (s.usb.records u).location) : Monitored u (usbCommand env o cmd s) := by
  by_cases hloc : (s.usb.records u).location = cmd.location
  · cases cmd with
    | add source location =>
      change (s.usb.records u).location = location at hloc
      simp only [usbCommand, usbAddPendingDevice]
      split
      · exact h.same (usbReport_usb env _ s)
      · rw [h.last hl hloc]
        exact h.openDevice env o source .disable
    | remove source location =>
      simp only [usbCommand, usbRemovePendingDevice]
      split
      · exact h
      · rename_i v hv
        have hlocv : (s.usb.records v).location = location := by simpa using SlotTable.find?_pred hv
        obtain rfl := hl.unique u h.mem v (SlotTable.find?_mem hv) (hloc.trans hlocv.symm)
        cases source with
        | manual => exact absurd hloc.symm hkeep
        | monitor =>
          have hremoved : Monitored u (muxRemove env u s) := h.same rfl
          exact hremoved.disconnect o
    | setMonitor location monitor =>
      change (s.usb.records u).location = location at hloc
      simp only [usbCommand, usbHandleDeviceMonitorCommand]
      rw [h.last hl hloc]
      cases monitor with
      | once => simpa [h.always] using h
      | always =>
        simp only [reduceCtorEq, and_false, false_and, if_false]
        exact h.setRecord fun _ => rfl
      | disable => exact absurd hloc.symm hkeep
  · exact h.elsewhere hl env o hloc

end Monitored

/-! ### Runs -/

/-- An entry that is always monitored stays so until a step ends it. -/
theorem Monitored.run {u : UsbDevice} {s : Daemon} (h : Monitored u s) (hl : Listed s) (env : Env)
    (steps : List DaemonStep) (hkeep : ∀ step ∈ steps, ¬ step.ends (s.usb.records u).location) :
    Monitored u (daemonRun env steps s) ∧
      ((daemonRun env steps s).usb.records u).location = (s.usb.records u).location := by
  induction steps generalizing s with
  | nil => exact ⟨h, rfl⟩
  | cons step steps ih =>
    have hstep : Monitored u (daemonStep env s step) ∧
        ((daemonStep env s step).usb.records u).location = (s.usb.records u).location := by
      cases step with
      | command cmd o => exact ⟨h.command hl env o (hkeep _ List.mem_cons_self), usbCommand_location hl env o cmd h.mem⟩
      | op op => exact ⟨h.same (daemonStep_op_usb env s op), by rw [daemonStep_op_usb]⟩
    have hrest := ih hstep.1 (hl.daemonStep env step) fun step' hmem => by
      rw [hstep.2]
      exact hkeep step' (List.mem_cons_of_mem _ hmem)
    exact ⟨hrest.1, hrest.2.trans hstep.2⟩

/-- An entry that is always monitored stays on the list, and always monitored, through
everything but a removal by hand or a `SET_MONITOR` with `DEVICE_MONITOR_DISABLE` for its location. -/
theorem always_monitored (env : Env) (steps steps' : List DaemonStep) (u : UsbDevice)
    (hmem : u ∈ (daemonRun env steps .init).usb.deviceList)
    (halways : ((daemonRun env steps .init).usb.records u).monitor = .always)
    (hkeep : ∀ step ∈ steps', ¬ step.ends ((daemonRun env steps .init).usb.records u).location) :
    u ∈ (daemonRun env (steps ++ steps') .init).usb.deviceList ∧
      ((daemonRun env (steps ++ steps') .init).usb.records u).monitor = .always ∧
      ((daemonRun env (steps ++ steps') .init).usb.records u).location =
        ((daemonRun env steps .init).usb.records u).location := by
  have h : Monitored u (daemonRun env steps .init) := ⟨hmem, halways⟩
  obtain ⟨hkept, hloc⟩ := h.run (listed_run env steps) env steps' hkeep
  have happend : daemonRun env (steps ++ steps') .init = daemonRun env steps' (daemonRun env steps .init) :=
    List.foldl_append ..
  rw [happend]
  exact ⟨hkept.mem, hkept.always, hloc⟩

/-- Port `5` is monitored; its device comes, and its thread cannot be started. -/
theorem always_monitored_noThread :
    1 ∈ (daemonRun .quiet ([.command (.setMonitor 5 .always) { Outcome.noThread with opened := false, handle := id }] ++
      [.command (.add .monitor 5) .noThread]) .init).usb.deviceList :=
  (always_monitored .quiet [.command (.setMonitor 5 .always) { Outcome.noThread with opened := false, handle := id }]
    [.command (.add .monitor 5) .noThread] 1 (by decide +kernel) (by decide +kernel)
    (fun step hstep => by
      rw [List.mem_singleton.mp hstep]
      exact id)).1

end Usbmuxd
