import Usbmuxd.Usb.Monitoring

/-!
# Requests for permanent monitoring

`usb_handle_device_monitor_command` makes an entry for a location that has none by
`usb_add_pending_device`, which may fail once the port is open, and takes the entry off again
then. The failure does not reach anyone: the command returns `0`, and the client is told `OK`.

## The model

* `MonitoredAt` — there is an entry for a location, and it is always monitored.
* `MonitorReported` — a request that is reported as successful has taken effect.
* `CanStart`, `CanMonitor` — what the outside has to answer so that a new entry stays.

## What is proved

* `handleDeviceMonitor_answers` — the handler sends the result of `deviceMonitorRequest`.
* `cleanup_monitored_iff`, `start_monitored_iff`, `opened_monitored_iff`, … — whether the new entry is
  still there, one for each part of `usb_add_pending_device`.
* `monitorReported_iff` — the report is right exactly if the location has an entry, or the
  outside answers so that the new one stays.
-/

namespace Usbmuxd

open World

/-! ### What is reported -/

/-- There is an entry for the location, and it is always monitored. -/
def MonitoredAt (location : UInt32) (s : Daemon) : Prop := ∃ u, Monitored u s ∧ (s.usb.records u).location = location

/-- A request to monitor a location that is reported as successful has taken effect, when it is
processed behind the commands that are waiting. -/
structure MonitorReported (env : Env) (waiting : List (UsbCommand × Outcome)) (o : Outcome) (location : UInt32)
    (s : Daemon) : Prop where
  /-- `usb_handle_device_monitor_command` returns `0`. -/
  returned : usbDeviceMonitorResult location .always (usbProcessCommands env waiting s) = 0 →
    MonitoredAt location (usbHandleDeviceMonitorCommand env o location .always (usbProcessCommands env waiting s))
  /-- The client is told `OK`. -/
  answered : ∀ command, deviceLocation command = location → autoMonitor command = true →
    (deviceMonitorRequest env waiting o command s).2 = resultOk →
    MonitoredAt location (deviceMonitorRequest env waiting o command s).1

/-- A request for a location is always told `OK`. -/
theorem deviceMonitorRequest_answer (env : Env) (waiting : List (UsbCommand × Outcome)) (o : Outcome) (command : Plist)
    (s : Daemon) : (deviceMonitorRequest env waiting o command s).2 =
      if deviceLocation command = 0 then resultBadcommand else resultOk := by
  unfold deviceMonitorRequest
  by_cases hloc : deviceLocation command = 0
  · rw [if_pos hloc, if_pos hloc]
  · rw [if_neg hloc, if_neg hloc]
    exact if_neg (t := -eio) (Int.lt_irrefl 0)

/-- The handler sends the result of the request. -/
theorem handleDeviceMonitor_answers (env : Env) (waiting : List (UsbCommand × Outcome)) (o : Outcome) (s : Daemon)
    (c : Ptr) (hdr : UsbmuxdHeader) (command : Plist) (w : World) :
    ∃ v, handleDeviceMonitorCommand env c hdr command w =
      (sendResult env c hdr.tag (deviceMonitorRequest env waiting o command s).2 v).1 := by
  rw [deviceMonitorRequest_answer]
  unfold handleDeviceMonitorCommand withLocation
  by_cases hloc : deviceLocation command = 0
  · rw [if_pos hloc, if_pos hloc]
    exact ⟨w, rfl⟩
  · rw [if_neg hloc, if_neg hloc]
    exact ⟨_, rfl⟩

/-- The command that the request enqueues is the last one to be processed. -/
theorem usbProcessCommands_last (env : Env) (waiting : List (UsbCommand × Outcome)) (cmd : UsbCommand) (o : Outcome)
    (s : Daemon) : usbProcessCommands env (waiting ++ [(cmd, o)]) s = usbCommand env o cmd (usbProcessCommands env waiting s) := by
  simp [usbProcessCommands]

/-! ### A new entry -/

/-- The device can be handed to the mux layer, and its threads started; or it cannot be taken
off the list, as its read thread does not stop. -/
def CanStart (env : Env) (o : Outcome) (u : UsbDevice) (turbo : Bool) (s : Daemon) : Prop :=
  muxAddOk env u s = true ∧ o.readThread = true ∧ (turbo = true → o.writeThread = true ∨ o.stopped = false)

section NewEntry

variable {env : Env} {o : Outcome} {u : UsbDevice} {s s' : Daemon}

/-- Whether `device_add` succeeds does not depend on the records of the USB layer. -/
theorem muxAddOk_congr (h : s'.mux = s.mux) : muxAddOk env u s' = muxAddOk env u s := by
  unfold muxAddOk
  rw [h]
  rfl

theorem CanStart.congr {turbo : Bool} (h : s'.mux = s.mux) : CanStart env o u turbo s' ↔ CanStart env o u turbo s := by
  unfold CanStart
  rw [muxAddOk_congr h]

/-- The cleanup takes a new entry off the list, unless its read thread does not stop. -/
theorem cleanup_monitored_iff (h : Monitored u s) (hnodup : s.usb.deviceList.Nodup) (wasAdded : Bool) :
    Monitored u (usbAddCleanup env o u false wasAdded s) ↔ (s.usb.records u).rxThread = true ∧ o.stopped = false := by
  have hmux : ∀ s', s'.usb = s.usb → (Monitored u (usbDisconnect o u true s') ↔
      (s.usb.records u).rxThread = true ∧ o.stopped = false) := by
    intro s' heq
    unfold usbDisconnect
    rw [heq]
    split_ifs with hstuck
    · simp only [Bool.and_eq_true, Bool.not_eq_true'] at hstuck
      exact iff_of_true (h.same heq) hstuck
    · refine iff_of_false (fun hmonitored => ?_) (by simpa using hstuck)
      have hmem : u ∈ s.usb.deviceList.remove u := heq ▸ hmonitored.mem
      exact ((SlotTable.mem_remove hnodup).mp hmem).1 rfl
  unfold usbAddCleanup
  dsimp only [Bool.false_and]
  cases wasAdded with
  | true => exact hmux (muxRemove env u s) rfl
  | false => exact hmux (muxAddFailed env u s) rfl

/-- The end of `usb_add_pending_device`. -/
theorem start_monitored_iff (h : Monitored u s) (hnodup : s.usb.deviceList.Nodup) (hthread : (s.usb.records u).rxThread = false) :
    Monitored u (usbStartDevice env o u false s) ↔ CanStart env o u (s.usb.records u).port.bTurbo s := by
  have hadd : Monitored u (muxAdd env u s) := h.same rfl
  have hrx : Monitored u ((muxAdd env u s).setRecord u fun dev => { dev with rxThread := true }) := hadd.setRecord id
  have hturbo : (((muxAdd env u s).setRecord u fun dev => { dev with rxThread := true }).usb.records u).port.bTurbo =
      (s.usb.records u).port.bTurbo := by
    rw [Daemon.setRecord_usb_records, Function.update_self]
    rfl
  unfold usbStartDevice CanStart
  dsimp only
  rw [hturbo]
  split_ifs with hfail hread hwrite
  · rw [cleanup_monitored_iff hadd hnodup, show ((muxAdd env u s).usb.records u).rxThread = false from hthread]
    simp at hfail
    simp [hfail]
  · rw [cleanup_monitored_iff hadd hnodup, show ((muxAdd env u s).usb.records u).rxThread = false from hthread]
    simp at hread
    simp [hread]
  · rw [cleanup_monitored_iff hrx hnodup]
    simp at hfail hread hwrite
    simp [hfail, hread, hwrite]
  · refine iff_of_true (hrx.setRecord id) ?_
    simp at hfail hread hwrite
    exact ⟨hfail, hread, fun hon => .inl (hwrite hon)⟩

/-- `usb_add_pending_device` for a new entry whose port is open. -/
theorem opened_monitored_iff (h : Monitored u s) (hnodup : s.usb.deviceList.Nodup)
    (hthread : (s.usb.records u).rxThread = false) : Monitored u (usbOpenedDevice env o .manual .always u false s) ↔
      (s.usb.records u).port.isUnsupported = true ∨
        o.configured = true ∧ CanStart env o u (s.usb.records u).port.bTurbo s := by
  have hserial : Monitored u (s.setRecord u fun dev => { dev with serial := o.serial }) := h.setRecord id
  unfold usbOpenedDevice
  dsimp only
  split_ifs with hunsupported hmanual hconfigured hexisting
  · exact iff_of_true h (.inl hunsupported)
  · exact absurd ⟨rfl, by decide⟩ hmanual
  · have hstart : CanStart env o u (s.usb.records u).port.bTurbo (s.setRecord u fun dev => { dev with serial := o.serial }) ↔
        CanStart env o u (s.usb.records u).port.bTurbo s := CanStart.congr rfl
    rw [start_monitored_iff hserial hnodup (by simpa using hthread)]
    simp [hunsupported, hconfigured, hstart]
  · exact absurd hexisting.1 (by simp)
  · rw [cleanup_monitored_iff hserial hnodup]
    simp [hunsupported, hconfigured, hthread]

/-- What the outside has to answer so that a new entry stays: no failure before it is on the
list, and behind that no failure once an open port has turned out to be of a mux device. -/
def CanMonitor (env : Env) (o : Outcome) (u : UsbDevice) (port : ComHandle) (s : Daemon) : Prop :=
  o.createEvent = true ∧ (o.opened = false ∨ port.isUnsupported = true ∨
    o.configured = true ∧ CanStart env o u port.bTurbo s)

/-- `usb_add_pending_device` for a new device, once its port has been tried. -/
theorem list_monitored_iff (hnodup : s.usb.deviceList.Nodup) (hu : u ∉ s.usb.deviceList)
    (hthread : (s.usb.records u).rxThread = false) : Monitored u (usbListDevice env o .manual .always u false s) ↔
      CanMonitor env o u (s.usb.records u).port s := by
  unfold usbListDevice CanMonitor
  rw [if_neg Bool.false_ne_true]
  dsimp only
  split_ifs with hevent
  · have hlisted : Monitored u (registerUsb u (s.setRecord u fun dev => { dev with monitor := .always })) :=
      ⟨SlotTable.mem_add.mpr (.inl rfl), by simp⟩
    unfold usbListedDevice
    split_ifs with hopened
    · have hport : ((registerUsb u (s.setRecord u fun dev => { dev with monitor := .always })).usb.records u).port =
          (s.usb.records u).port := by simp
      have hmux : CanStart env o u (s.usb.records u).port.bTurbo
          (registerUsb u (s.setRecord u fun dev => { dev with monitor := .always })) ↔
            CanStart env o u (s.usb.records u).port.bTurbo s := CanStart.congr rfl
      rw [opened_monitored_iff hlisted (hnodup.add hu) (by simpa using hthread), hport, hmux]
      simp [hevent, hopened]
    · exact iff_of_true hlisted ⟨hevent, .inl (by simpa using hopened)⟩
  · refine iff_of_false (fun h => ?_) fun h => hevent h.1
    have hmem := (Touches.cleanup env o u false false _).members h.mem
    exact hu hmem

/-- `usb_add_pending_device` for a new device. -/
theorem openNew_monitored_iff (hl : Listed s) (location : UInt32) :
    Monitored s.usb.fresh (usbOpenDevice env o .manual .always s.usb.fresh false (newUsbDevice location s)) ↔
      CanMonitor env o s.usb.fresh (o.handle .zero) s := by
  have hfresh : s.usb.fresh ∉ s.usb.deviceList := fun hmem => (hl.bound _ hmem).ne rfl
  have hcan : ∀ s', s'.mux = s.mux → (s'.usb.records s.usb.fresh).port = o.handle .zero →
      (CanMonitor env o s.usb.fresh (s'.usb.records s.usb.fresh).port s' ↔ CanMonitor env o s.usb.fresh (o.handle .zero) s) := by
    intro s' hmux hport
    unfold CanMonitor
    rw [hport, CanStart.congr hmux]
  unfold usbOpenDevice
  dsimp only
  split_ifs with hopened
  · refine (list_monitored_iff ?_ ?_ ?_).trans (hcan _ rfl ?_)
    · exact hl.nodup
    · exact hfresh
    · simp [UsbRecord.new]
    · simp [UsbRecord.new]
  · refine (list_monitored_iff ?_ ?_ ?_).trans (hcan _ rfl ?_)
    · exact hl.nodup
    · exact hfresh
    · simp [UsbRecord.new]
    · simp [UsbRecord.new]
  · contradiction

/-- A step that may put a device on the list, or take it off, and leaves the others alone. -/
structure Around (u : UsbDevice) (s s' : Daemon) : Prop where
  records : ∀ v, v ≠ u → s'.usb.records v = s.usb.records v
  location : (s'.usb.records u).location = (s.usb.records u).location
  others : ∀ v, v ≠ u → v ∈ s'.usb.deviceList → v ∈ s.usb.deviceList

theorem Around.trans {s'' : Daemon} (h : Around u s s') (h' : Around u s' s'') : Around u s s'' :=
  ⟨fun v hv => (h'.records v hv).trans (h.records v hv), h'.location.trans h.location,
    fun v hv hmem => h.others v hv (h'.others v hv hmem)⟩

theorem Touches.around (h : Touches u s s') : Around u s s' :=
  ⟨h.records, h.location, fun v hv => (h.others v hv).mp⟩

theorem Around.register (u : UsbDevice) (s : Daemon) : Around u s (registerUsb u s) := by
  refine ⟨fun _ _ => rfl, rfl, fun v hv hmem => ?_⟩
  cases SlotTable.mem_add.mp hmem with
  | inl heq => exact absurd heq hv
  | inr hold => exact hold

/-- The other entries stay as they are. -/
theorem openNew_around (env : Env) (o : Outcome) (source : PendingSource) (monitor : DeviceMonitorState) (u : UsbDevice)
    (s : Daemon) : Around u s (usbOpenDevice env o source monitor u false s) := by
  have hset : ∀ (s : Daemon) (f : UsbRecord → UsbRecord), (∀ dev, (f dev).location = dev.location) →
      Around u s (s.setRecord u f) := fun s f hf => (Touches.setRecord (hf _)).around
  have hlist : ∀ s, Around u s (usbListDevice env o source monitor u false s) := by
    intro s
    have hmonitor := hset s (fun dev => { dev with monitor }) fun _ => rfl
    unfold usbListDevice
    rw [if_neg Bool.false_ne_true]
    dsimp only
    split_ifs
    · exact hmonitor.trans ((Around.register u _).trans (Touches.listed ..).around)
    · exact hmonitor.trans (Touches.cleanup ..).around
  have hport := hset s (fun dev => { dev with port := o.handle dev.port }) fun _ => rfl
  unfold usbOpenDevice
  dsimp only
  split_ifs
  · exact hport.trans (hlist _)
  · exact hport.trans ((hset _ (fun dev => { dev with state := .waitingForDevice }) fun _ => rfl).trans (hlist _))
  · exact hport.trans (Touches.cleanup ..).around

end NewEntry

/-! ### The report -/

section Report

variable {env : Env} {o : Outcome} {location : UInt32} {s : Daemon}

/-- An entry that is there is monitored from then on. -/
theorem monitor_existing {u : UsbDevice} (h : (s.entriesAt location).getLast? = some u) :
    MonitoredAt location (usbHandleDeviceMonitorCommand env o location .always s) := by
  obtain ⟨hmem, hloc⟩ := mem_entriesAt.mp (List.mem_of_getLast? h)
  unfold usbHandleDeviceMonitorCommand
  rw [h]
  dsimp only
  rw [if_neg fun hcase => absurd hcase.2 (by decide), if_neg fun hcase => absurd hcase.1 (by decide)]
  exact ⟨u, ⟨hmem, by simp⟩, by simpa using hloc⟩

/-- A location without an entry is monitored from then on if the new entry stays. -/
theorem monitor_new_iff (hl : Listed s) (h : (s.entriesAt location).getLast? = none) :
    MonitoredAt location (usbHandleDeviceMonitorCommand env o location .always s) ↔
      CanMonitor env o s.usb.fresh (o.handle .zero) s := by
  have hnone := entriesAt_none h
  have hvalid : (s.entriesAt location).find? (fun u => (s.usb.records u).isValid) = none := by
    rw [List.getLast?_eq_none_iff.mp h]
    rfl
  have hcommand : usbHandleDeviceMonitorCommand env o location .always s =
      usbOpenDevice env o .manual .always s.usb.fresh false (newUsbDevice location s) := by
    unfold usbHandleDeviceMonitorCommand usbAddPendingDevice
    rw [h, hvalid]
    rfl
  rw [hcommand, ← openNew_monitored_iff hl location]
  have haround := openNew_around env o .manual .always s.usb.fresh (newUsbDevice location s)
  constructor
  · rintro ⟨v, hv, hloc⟩
    by_cases heq : v = s.usb.fresh
    · exact heq ▸ hv
    · have hold : v ∈ s.usb.deviceList := haround.others v heq hv.mem
      rw [haround.records v heq] at hloc
      simp only [newUsbDevice_usb_records, Function.update_of_ne heq] at hloc
      exact absurd hloc (hnone v hold)
  · intro hmonitored
    exact ⟨_, hmonitored, haround.location.trans (by simp)⟩

/-- There is an entry for the location, or the new one stays. -/
def EntryStays (env : Env) (o : Outcome) (location : UInt32) (s : Daemon) : Prop :=
  (∃ u ∈ s.usb.deviceList, (s.usb.records u).location = location) ∨ CanMonitor env o s.usb.fresh (o.handle .zero) s

theorem monitoredAt_iff (hl : Listed s) :
    MonitoredAt location (usbHandleDeviceMonitorCommand env o location .always s) ↔ EntryStays env o location s := by
  cases hlast : (s.entriesAt location).getLast? with
  | some u =>
    refine iff_of_true (monitor_existing hlast) (.inl ⟨u, ?_⟩)
    exact mem_entriesAt.mp (List.mem_of_getLast? hlast)
  | none =>
    rw [monitor_new_iff hl hlast]
    refine ⟨.inr, fun h => h.resolve_left ?_⟩
    rintro ⟨u, hu, hloc⟩
    exact entriesAt_none hlast u hu hloc

/-- A request is always reported as successful, so both reports are about what it has come to. -/
theorem monitorReported_eq {waiting : List (UsbCommand × Outcome)} : MonitorReported env waiting o location s ↔
    MonitoredAt location (usbHandleDeviceMonitorCommand env o location .always (usbProcessCommands env waiting s)) := by
  constructor
  · intro h
    refine h.returned ?_
    unfold usbDeviceMonitorResult
    split <;> rfl
  · intro h
    refine ⟨fun _ => h, fun command hloc hauto hok => ?_⟩
    rw [deviceMonitorRequest_answer] at hok
    split_ifs at hok with hzero
    · exact absurd hok (by decide)
    · unfold deviceMonitorRequest usbSetDeviceMonitoringImmediately
      rw [if_neg hzero]
      dsimp only
      rw [usbProcessCommands_last, hloc, hauto]
      exact h

/-- The commands that are waiting keep the list. -/
theorem Listed.processCommands (hl : Listed s) (waiting : List (UsbCommand × Outcome)) :
    Listed (usbProcessCommands env waiting s) := by
  induction waiting generalizing s with
  | nil => exact hl
  | cons cmd waiting ih => exact ih (hl.command env cmd.2 cmd.1)

end Report

/-- **A request to monitor a location is reported rightly exactly if there is an entry for it, or
the outside answers so that the new one stays**, in every state that the daemon reaches. -/
theorem monitorReported_iff (env : Env) (steps : List DaemonStep) (waiting : List (UsbCommand × Outcome)) (o : Outcome)
    (location : UInt32) : MonitorReported env waiting o location (daemonRun env steps .init) ↔
      EntryStays env o location (usbProcessCommands env waiting (daemonRun env steps .init)) := by
  rw [monitorReported_eq, monitoredAt_iff ((listed_run env steps).processCommands waiting)]

/-- The device at port `5` is there and opens, and its configuration cannot be read. -/
theorem not_monitorReported_configure :
    ¬ MonitorReported .quiet [] { Outcome.noThread with configured := false } 5 (daemonRun .quiet [] .init) := by
  intro h
  obtain ⟨u, hu, -⟩ := h.returned rfl
  have hnone : (usbHandleDeviceMonitorCommand .quiet { Outcome.noThread with configured := false } 5 .always
      (usbProcessCommands .quiet [] (daemonRun .quiet [] .init))).usb.deviceList.elements = [] := by decide +kernel
  have hmem := SlotTable.mem_def.mp hu.mem
  rw [hnone] at hmem
  cases hmem

end Usbmuxd
