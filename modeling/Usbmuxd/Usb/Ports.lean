import Usbmuxd.Foundation.Handle
import Usbmuxd.Usb.Consistent

/-!
# Open ports

The plugin opens and closes the port of a USB device. An open port must be closed before its
record is released, or is used to open a port again, and the port of a device that is waited
for must not be open.

## The model

* `usbDisconnectCalls`, `usbAddCleanupCalls`, … — the calls of `com_plugin_open_by_name` (that
  succeed), `com_plugin_close` and `usb_free_device` that a function makes, in their order.
* `PortsClosed` — no call is misused, and the port of a device that is waited for is not open.
* `LeavesPortOpen` — the attempt to add a device that is always monitored has opened its port,
  and then `usb_configure_device` has failed.

## What is proved

* `Ported.command` — what is known of the ports is kept by a command that is not such an attempt.
* `portsClosed_iff` — a run keeps the ports closed if and only if no command is one.
-/

namespace Usbmuxd

open World Handle

/-! ### The calls -/

/-- The calls of `usb_disconnect`. -/
def usbDisconnectCalls (o : Outcome) (u : UsbDevice) (manualRemove : Bool) (s : Daemon) : List HandleCall :=
  if (s.usb.records u).rxThread && !o.stopped then []
  else if manualRemove ∨ (s.usb.records u).monitor = .disable then [.closed, .freed]
  else [.closed]

/-- The calls of the cleanup of `usb_add_pending_device`. -/
def usbAddCleanupCalls (o : Outcome) (u : UsbDevice) (isExisting : Bool) (s : Daemon) : List HandleCall :=
  usbDisconnectCalls o u (!(isExisting && (s.usb.records u).monitor == .always)) s

/-- The calls of `usbStartDevice`. -/
def usbStartDeviceCalls (env : Env) (o : Outcome) (u : UsbDevice) (isExisting : Bool) (s : Daemon) : List HandleCall :=
  let ok := muxAddOk env u s
  let s := muxAdd env u s
  if !ok then usbAddCleanupCalls o u isExisting s
  else if !o.readThread then usbAddCleanupCalls o u isExisting s
  else
    let s := s.setRecord u fun dev => { dev with rxThread := true }
    if (s.usb.records u).port.bTurbo && !o.writeThread then usbAddCleanupCalls o u isExisting s else []

/-- The calls of `usbOpenedDevice`. -/
def usbOpenedDeviceCalls (env : Env) (o : Outcome) (source : PendingSource) (monitor : DeviceMonitorState)
    (u : UsbDevice) (isExisting : Bool) (s : Daemon) : List HandleCall :=
  if (s.usb.records u).port.isUnsupported then
    if source = .manual ∧ monitor ≠ .disable then [] else usbAddCleanupCalls o u isExisting s
  else
    let s := s.setRecord u fun dev => { dev with serial := o.serial }
    if o.configured then usbStartDeviceCalls env o u isExisting s
    else if isExisting ∧ (s.usb.records u).monitor = .always then []
    else usbAddCleanupCalls o u isExisting s

/-- The calls of `usbListedDevice`. -/
def usbListedDeviceCalls (env : Env) (o : Outcome) (source : PendingSource) (monitor : DeviceMonitorState)
    (u : UsbDevice) (isExisting : Bool) (s : Daemon) : List HandleCall :=
  if o.opened then usbOpenedDeviceCalls env o source monitor u isExisting s else []

/-- The calls of `usbListDevice`. -/
def usbListDeviceCalls (env : Env) (o : Outcome) (source : PendingSource) (monitor : DeviceMonitorState)
    (u : UsbDevice) (isExisting : Bool) (s : Daemon) : List HandleCall :=
  if isExisting then usbListedDeviceCalls env o source monitor u isExisting (s.setRecord u (·.useUp))
  else
    let s := s.setRecord u fun dev => { dev with monitor }
    if o.createEvent then usbListedDeviceCalls env o source monitor u isExisting (registerUsb u s)
    else usbAddCleanupCalls o u isExisting s

/-- The calls of `usbOpenDevice`. -/
def usbOpenDeviceCalls (env : Env) (o : Outcome) (source : PendingSource) (monitor : DeviceMonitorState)
    (u : UsbDevice) (isExisting : Bool) (s : Daemon) : List HandleCall :=
  let s := s.setRecord u fun dev => { dev with port := o.handle dev.port }
  if o.opened then .opened :: usbListDeviceCalls env o source monitor u isExisting s
  else if monitor = .always then
    let s := s.setRecord u fun dev => { dev with state := .waitingForDevice }
    usbListDeviceCalls env o source monitor u isExisting s
  else usbAddCleanupCalls o u isExisting s

/-- The calls of a command, each with its record. -/
abbrev PortCalls := List (UsbDevice × HandleCall)

/-- Calls about one record. -/
def callsAbout (u : UsbDevice) (calls : List HandleCall) : PortCalls := calls.map fun call => (u, call)

/-- The calls of `usb_add_pending_device`. -/
def usbAddPendingDeviceCalls (env : Env) (o : Outcome) (source : PendingSource) (location : UInt32)
    (monitor : DeviceMonitorState) (s : Daemon) : PortCalls :=
  match (s.entriesAt location).find? fun u => (s.usb.records u).isValid with
  | some _ => []
  | none =>
    match (s.entriesAt location).getLast? with
    | some u => callsAbout u (usbOpenDeviceCalls env o source monitor u true s)
    | none =>
      callsAbout s.usb.fresh (usbOpenDeviceCalls env o source monitor s.usb.fresh false (newUsbDevice location s))

/-- The calls of `usb_remove_pending_device`. -/
def usbRemovePendingDeviceCalls (env : Env) (o : Outcome) (source : PendingSource) (location : UInt32) (s : Daemon) :
    PortCalls :=
  match s.usb.deviceList.find? fun u => (s.usb.records u).location == location with
  | none => []
  | some u => callsAbout u (usbDisconnectCalls o u (source == .manual) (muxRemove env u s))

/-- The calls of `usb_handle_device_monitor_command`. -/
def usbHandleDeviceMonitorCommandCalls (env : Env) (o : Outcome) (location : UInt32) (monitor : DeviceMonitorState)
    (s : Daemon) : PortCalls :=
  match (s.entriesAt location).getLast? with
  | some u =>
    let dev := s.usb.records u
    if dev.monitor = .always ∧ monitor = .once then []
    else if monitor = .disable ∧ dev.state = .waitingForDevice then callsAbout u [.freed]
    else []
  | none => if monitor = .always then usbAddPendingDeviceCalls env o .manual location monitor s else []

/-- The calls of a step. -/
def stepCalls (env : Env) (s : Daemon) : DaemonStep → PortCalls
  | .command (.add source location) o => usbAddPendingDeviceCalls env o source location .disable s
  | .command (.remove source location) o => usbRemovePendingDeviceCalls env o source location s
  | .command (.setMonitor location monitor) o => usbHandleDeviceMonitorCommandCalls env o location monitor s
  | .op _ => []

/-- The calls of a run. -/
def runCalls (env : Env) : List DaemonStep → Daemon → PortCalls
  | [], _ => []
  | step :: steps, s => stepCalls env s step ++ runCalls env steps (daemonStep env s step)

theorem runCalls_append (env : Env) (steps : List DaemonStep) (step : DaemonStep) (s : Daemon) :
    runCalls env (steps ++ [step]) s = runCalls env steps s ++ stepCalls env (daemonRun env steps s) step := by
  induction steps generalizing s with
  | nil => simp [runCalls, daemonRun]
  | cons first steps ih =>
    rw [List.cons_append, runCalls, ih, runCalls, List.append_assoc]
    rfl

/-! ### The statement -/

/-- A run has misused no call, and the port of a device that is waited for is not open: an `ADD` for its location is
not rejected as already existing. -/
def PortsClosed (env : Env) (steps : List DaemonStep) : Prop :=
  let s := daemonRun env steps .init
  ∀ u, ∃ isOpen, openAfter false (callsOf u (runCalls env steps .init)) = some isOpen ∧
    (u ∈ s.usb.deviceList → (s.usb.records u).state = .waitingForDevice → isOpen = false ∧
      (s.entriesAt (s.usb.records u).location).find? (fun v => (s.usb.records v).isValid) = none)

/-- The answers of the plugin and the system: also, a port that is not opened leaves the handle as it was. -/
structure Outcome.Exact (o : Outcome) : Prop extends o.Documented where
  closed : o.opened = false → ∀ port, o.handle port = port

/-- A command adds a device that is on the list and is always monitored, its port is opened, and is one of Apple's, and
then the device cannot be configured. -/
def LeavesPortOpen (s : Daemon) (o : Outcome) (cmd : UsbCommand) : Prop :=
  ∃ source location u, cmd = .add source location ∧
    ((s.entriesAt location).find? fun u => (s.usb.records u).isValid) = none ∧
    (s.entriesAt location).getLast? = some u ∧ (s.usb.records u).monitor = .always ∧ o.opened = true ∧
    (o.handle (s.usb.records u).port).isUnsupported = false ∧ o.configured = false

/-! ### The record a command works on -/

/-- What a listed record says of its port. -/
structure PortMatches (dev : UsbRecord) (isOpen : Bool) : Prop where
  valid : dev.isValid = isOpen
  waiting : isOpen = false ↔ dev.state = .waitingForDevice

/-- The calls are not misused, and after them the record, if it is listed, says whether its port is open. -/
def Leaves (u : UsbDevice) (isOpen : Bool) (calls : List HandleCall) (s' : Daemon) : Prop :=
  ∃ isOpen', openAfter isOpen calls = some isOpen' ∧ (u ∈ s'.usb.deviceList → PortMatches (s'.usb.records u) isOpen')

namespace Leaves

variable {env : Env} {o : Outcome} {u : UsbDevice} {s : Daemon} {isOpen isExisting : Bool} {source : PendingSource}
variable {monitor : DeviceMonitorState}

/-- The port is closed before the record is freed, or waits for the device. -/
theorem disconnect (hl : Listed s) (ho : o.Exact) (isOpen manualRemove : Bool) :
    Leaves u isOpen (usbDisconnectCalls o u manualRemove s) (usbDisconnect o u manualRemove s) := by
  refine ⟨false, ?_, fun hu => ?_⟩
  · unfold usbDisconnectCalls
    rw [ho.stopped, Bool.not_true, Bool.and_false, if_neg Bool.false_ne_true]
    split <;> simp
  · unfold usbDisconnect at hu ⊢
    simp only [ho.stopped, Bool.not_true, Bool.and_false, Bool.false_eq_true, if_false] at hu ⊢
    split at hu
    · exact absurd rfl ((SlotTable.mem_remove hl.nodup).mp hu).1
    · rename_i hkeep
      rw [if_neg hkeep]
      constructor
      · simp [UsbRecord.isValid, UsbRecord.reset, ComHandle.zero, comMceusb]
      · simp [UsbRecord.reset]

theorem cleanup (hl : Listed s) (ho : o.Exact) (isOpen isExisting wasAdded : Bool) :
    Leaves u isOpen (usbAddCleanupCalls o u isExisting s) (usbAddCleanup env o u isExisting wasAdded s) := by
  have hmux : ∀ {s' : Daemon}, s'.usb = s.usb → ∀ manualRemove,
      Leaves u isOpen (usbDisconnectCalls o u manualRemove s) (usbDisconnect o u manualRemove s') := by
    intro s' heq manualRemove
    rw [show usbDisconnectCalls o u manualRemove s = usbDisconnectCalls o u manualRemove s' by
      unfold usbDisconnectCalls; rw [heq]]
    exact disconnect (hl.touch (.same heq : Touches u s s')) ho isOpen manualRemove
  unfold usbAddCleanup usbAddCleanupCalls
  dsimp only
  refine hmux ?_ _
  split
  · rfl
  · split <;> rfl

/-- The device is handed to the mux layer. -/
theorem start (hl : Listed s) (ho : o.Exact) (hvalid : (s.usb.records u).isValid = true) (isExisting : Bool) :
    Leaves u true (usbStartDeviceCalls env o u isExisting s) (usbStartDevice env o u isExisting s) := by
  have hadd : Listed (muxAdd env u s) := hl.touch (.same rfl : Touches u s (muxAdd env u s))
  unfold usbStartDeviceCalls usbStartDevice
  dsimp only
  split_ifs
  · exact cleanup hadd ho ..
  · exact cleanup hadd ho ..
  · exact cleanup (hadd.touch (.setRecord rfl)) ho ..
  · refine ⟨true, rfl, fun _ => ⟨?_, ?_⟩⟩
    · simpa [UsbRecord.isValid, muxAdd] using hvalid
    · simp

/-- The port is open, and if it stays so without the device being added, the record does not wait for it. -/
theorem opened (hl : Listed s) (ho : o.Exact) (hvalid : (s.usb.records u).isValid = true)
    (hnew : monitor ≠ .disable → (s.usb.records u).state ≠ .waitingForDevice)
    (hgood : ¬ (isExisting = true ∧ (s.usb.records u).monitor = .always ∧
      (s.usb.records u).port.isUnsupported = false ∧ o.configured = false)) :
    Leaves u true (usbOpenedDeviceCalls env o source monitor u isExisting s)
      (usbOpenedDevice env o source monitor u isExisting s) := by
  have hserial : Listed (s.setRecord u fun dev => { dev with serial := o.serial }) := hl.touch (.setRecord rfl)
  unfold usbOpenedDeviceCalls usbOpenedDevice
  dsimp only
  split_ifs with hunsupported hmonitor hconfigured halways
  · refine ⟨true, rfl, fun _ => ⟨hvalid, ?_⟩⟩
    simpa using hnew hmonitor.2
  · exact cleanup hl ho ..
  · exact start hserial ho (by simpa [UsbRecord.isValid] using hvalid) isExisting
  · refine absurd ⟨halways.1, ?_, by simpa using hunsupported, by simpa using hconfigured⟩ hgood
    simpa using halways.2
  · exact cleanup hserial ho ..

/-- Without an open port the record waits for the device. -/
theorem listed (hl : Listed s) (ho : o.Exact) (hvalid : (s.usb.records u).isValid = o.opened)
    (hwaiting : o.opened = false → (s.usb.records u).state = .waitingForDevice)
    (hnew : o.opened = true → monitor ≠ .disable → (s.usb.records u).state ≠ .waitingForDevice)
    (hgood : ¬ (isExisting = true ∧ (s.usb.records u).monitor = .always ∧ o.opened = true ∧
      (s.usb.records u).port.isUnsupported = false ∧ o.configured = false)) :
    Leaves u o.opened (usbListedDeviceCalls env o source monitor u isExisting s)
      (usbListedDevice env o source monitor u isExisting s) := by
  unfold usbListedDeviceCalls usbListedDevice
  cases hopened : o.opened with
  | true =>
    rw [hopened] at hvalid hgood
    simp only [true_and] at hgood
    exact opened hl ho hvalid (hnew hopened) hgood
  | false =>
    refine ⟨false, rfl, fun _ => ⟨hvalid.trans hopened, ?_⟩⟩
    simpa using hwaiting hopened

/-- The port has been opened, or is to be monitored. -/
theorem list (hl : Listed s) (ho : o.Exact) (hvalid : (s.usb.records u).isValid = o.opened)
    (hwaiting : o.opened = false → (s.usb.records u).state = .waitingForDevice)
    (hnew : o.opened = true → monitor ≠ .disable → (s.usb.records u).state ≠ .waitingForDevice)
    (hfresh : isExisting = false → u ∉ s.usb.deviceList ∧ u < s.usb.fresh ∧
      ∀ v ∈ s.usb.deviceList, (s.usb.records v).location ≠ (s.usb.records u).location)
    (hgood : ¬ (isExisting = true ∧ (s.usb.records u).monitor = .always ∧ o.opened = true ∧
      (s.usb.records u).port.isUnsupported = false ∧ o.configured = false)) :
    Leaves u o.opened (usbListDeviceCalls env o source monitor u isExisting s)
      (usbListDevice env o source monitor u isExisting s) := by
  unfold usbListDeviceCalls usbListDevice
  cases isExisting with
  | true =>
    rw [if_pos rfl, if_pos rfl]
    refine listed (hl.touch (.setRecord rfl)) ho ?_ ?_ ?_ fun hbad => hgood ?_
    · simpa [UsbRecord.isValid] using hvalid
    · simpa using hwaiting
    · simpa using hnew
    · obtain ⟨-, hmonitor, hrest⟩ := hbad
      simp only [Daemon.setRecord_usb_records, Function.update_self, UsbRecord.useUp_monitor, UsbRecord.useUp_port]
        at hmonitor hrest
      refine ⟨rfl, ?_, hrest⟩
      -- a monitor that is used up is not `always`
      split at hmonitor
      · cases hmonitor
      · exact hmonitor
  | false =>
    obtain ⟨hnot, hbound, hnone⟩ := hfresh rfl
    have hset : Listed (s.setRecord u fun dev => { dev with monitor }) := hl.touch (.setRecord rfl)
    rw [if_neg Bool.false_ne_true, if_neg Bool.false_ne_true]
    dsimp only
    split
    · have hreg : Listed (registerUsb u (s.setRecord u fun dev => { dev with monitor })) := by
        refine hset.add hnot hbound fun v hv => ?_
        have hne : v ≠ u := by
          rintro rfl
          exact hnot hv
        simpa [hne] using hnone v hv
      refine listed hreg ho ?_ ?_ ?_ (by simp)
      · simpa [UsbRecord.isValid] using hvalid
      · simpa using hwaiting
      · simpa using hnew
    · exact cleanup hset ho ..

/-- `usb_add_pending_device` for a device whose record is there. -/
theorem openDevice (hl : Listed s) (ho : o.Exact) (hinvalid : (s.usb.records u).isValid = false)
    (hold : isExisting = true → (s.usb.records u).state = .waitingForDevice ∧ monitor = .disable)
    (hnew : isExisting = false → (s.usb.records u).state ≠ .waitingForDevice ∧ u ∉ s.usb.deviceList ∧
      u < s.usb.fresh ∧ ∀ v ∈ s.usb.deviceList, (s.usb.records v).location ≠ (s.usb.records u).location)
    (hgood : ¬ (isExisting = true ∧ (s.usb.records u).monitor = .always ∧ o.opened = true ∧
      (o.handle (s.usb.records u).port).isUnsupported = false ∧ o.configured = false)) :
    Leaves u false (usbOpenDeviceCalls env o source monitor u isExisting s)
      (usbOpenDevice env o source monitor u isExisting s) := by
  have hport : Listed (s.setRecord u fun dev => { dev with port := o.handle dev.port }) := hl.touch (.setRecord rfl)
  have hfresh : ∀ f : UsbRecord → UsbRecord, (f (s.usb.records u)).location = (s.usb.records u).location →
      isExisting = false → u ∉ (s.setRecord u f).usb.deviceList ∧ u < (s.setRecord u f).usb.fresh ∧
        ∀ v ∈ (s.setRecord u f).usb.deviceList,
          ((s.setRecord u f).usb.records v).location ≠ ((s.setRecord u f).usb.records u).location := by
    intro f hf hex
    obtain ⟨-, hnot, hbound, hnone⟩ := hnew hex
    refine ⟨hnot, hbound, fun v hv => ?_⟩
    have hne : v ≠ u := by
      rintro rfl
      exact hnot hv
    simpa [hne, hf] using hnone v hv
  unfold usbOpenDeviceCalls usbOpenDevice
  dsimp only
  split_ifs with hopened halways
  · have hlist : Leaves u o.opened _ (usbListDevice env o source monitor u isExisting _) :=
      list hport ho ?_ (fun hclosed => ?_) (fun _ hmonitor => ?_) (hfresh _ rfl) ?_
    · rwa [hopened] at hlist
    · simpa [UsbRecord.isValid, hopened] using ho.port hopened _
    · rw [hopened] at hclosed
      cases hclosed
    · cases hexisting : isExisting with
      | true => exact absurd (hold hexisting).2 hmonitor
      | false => simpa using (hnew hexisting).1
    · simpa using hgood
  · have hclosed : o.opened = false := by simpa using hopened
    have hset : Listed ((s.setRecord u fun dev => { dev with port := o.handle dev.port }).setRecord u fun dev =>
        { dev with state := .waitingForDevice }) := hport.touch (.setRecord rfl)
    have hlist : Leaves u o.opened _ (usbListDevice env o source monitor u isExisting _) :=
      list hset ho ?_ (fun _ => ?_) (fun hopen => absurd hopen hopened) ?_ (fun hbad => hopened hbad.2.2.1)
    · rwa [hclosed] at hlist
    · rw [hclosed]
      simpa [UsbRecord.isValid, ho.closed hclosed] using hinvalid
    · simp
    · simpa using hfresh (fun dev => { dev with port := o.handle dev.port, state := .waitingForDevice }) rfl
  · exact cleanup hport ho ..

end Leaves

/-! ### The other records -/

/-- A step on the record of `u` changes no other record, and lists none. -/
structure Besides (u : UsbDevice) (s s' : Daemon) : Prop where
  fresh : s.usb.fresh ≤ s'.usb.fresh
  records : ∀ v, v ≠ u → v ∈ s'.usb.deviceList → v ∈ s.usb.deviceList ∧ s'.usb.records v = s.usb.records v

namespace Besides

variable {u : UsbDevice} {s s' s'' : Daemon}

theorem trans (h : Besides u s s') (h' : Besides u s' s'') : Besides u s s'' := by
  refine ⟨h.fresh.trans h'.fresh, fun v hv hmem => ?_⟩
  obtain ⟨hmem', hrecord'⟩ := h'.records v hv hmem
  obtain ⟨hmem'', hrecord⟩ := h.records v hv hmem'
  exact ⟨hmem'', hrecord'.trans hrecord⟩

theorem touches (h : Touches u s s') : Besides u s s' :=
  ⟨h.fresh.ge, fun v hv hmem => ⟨(h.others v hv).mp hmem, h.records v hv⟩⟩

theorem register (u : UsbDevice) (s : Daemon) : Besides u s (registerUsb u s) :=
  ⟨le_rfl, fun _ hv hmem => ⟨(SlotTable.mem_add.mp hmem).resolve_left hv, rfl⟩⟩

theorem new (location : UInt32) (s : Daemon) : Besides s.usb.fresh s (newUsbDevice location s) :=
  ⟨Nat.le_succ _, fun v hv hmem => ⟨hmem, by simp [hv]⟩⟩

theorem openDevice (env : Env) (o : Outcome) (source : PendingSource) (monitor : DeviceMonitorState) (u : UsbDevice)
    (isExisting : Bool) (s : Daemon) : Besides u s (usbOpenDevice env o source monitor u isExisting s) := by
  have hlist : ∀ s, Besides u s (usbListDevice env o source monitor u isExisting s) := by
    intro s
    have hset : Touches u s (s.setRecord u fun dev => { dev with monitor }) := .setRecord rfl
    unfold usbListDevice
    dsimp only
    split_ifs
    · exact .touches ((Touches.setRecord rfl).trans (.listed ..))
    · exact ((touches hset).trans (.register u _)).trans (.touches (.listed ..))
    · exact .touches (hset.trans (.cleanup ..))
  have hport : Touches u s (s.setRecord u fun dev => { dev with port := o.handle dev.port }) := .setRecord rfl
  refine (touches hport).trans ?_
  unfold usbOpenDevice
  dsimp only
  split_ifs
  · exact hlist _
  · exact (touches (.setRecord rfl)).trans (hlist _)
  · exact .touches (.cleanup ..)

end Besides

/-! ### Commands -/

/-- After a history of calls, the listed records say whether their ports are open. -/
structure Ported (s : Daemon) (history : PortCalls) : Prop where
  listed : Listed s
  ports : ∀ u, ∃ isOpen, openAfter false (callsOf u history) = some isOpen ∧
    (u ∈ s.usb.deviceList → PortMatches (s.usb.records u) isOpen)
  fresh : ∀ u, s.usb.fresh ≤ u → callsOf u history = []

namespace Ported

variable {env : Env} {o : Outcome} {u : UsbDevice} {s s' : Daemon} {history : PortCalls} {calls : List HandleCall}

theorem init : Ported .init [] where
  listed := listed_init
  ports := fun u => ⟨false, rfl, fun hu => absurd hu (SlotTable.not_mem_init _ u)⟩
  fresh := fun _ _ => rfl

/-- A step that makes no calls. -/
theorem same (h : Ported s history) (heq : s'.usb = s.usb) : Ported s' (history ++ []) := by
  obtain ⟨usb, mux⟩ := s
  obtain ⟨usb', mux'⟩ := s'
  obtain rfl : usb' = usb := heq
  rw [List.append_nil]
  exact ⟨⟨h.listed.nodup, h.listed.bound, h.listed.unique⟩, h.ports, h.fresh⟩

/-- A step on one record. -/
theorem about (h : Ported s history) (hl : Listed s') (hb : Besides u s s') (hu : u < s'.usb.fresh)
    (hleaves : ∀ isOpen, openAfter false (callsOf u history) = some isOpen →
      (u ∈ s.usb.deviceList → PortMatches (s.usb.records u) isOpen) → Leaves u isOpen calls s') :
    Ported s' (history ++ callsAbout u calls) := by
  refine ⟨hl, fun v => ?_, fun v hv => ?_⟩
  · obtain ⟨isOpen, hopen, hmatches⟩ := h.ports v
    rw [callsOf_append, callsAbout, callsOf_map, openAfter_append, hopen, Option.bind_some]
    by_cases huv : u = v
    · subst huv
      rw [if_pos rfl]
      exact hleaves isOpen hopen hmatches
    · rw [if_neg huv]
      refine ⟨isOpen, rfl, fun hmem => ?_⟩
      obtain ⟨hmem, hrecord⟩ := hb.records v (Ne.symm huv) hmem
      rw [hrecord]
      exact hmatches hmem
  · have hne : u ≠ v := fun heq => (heq ▸ hu).not_ge hv
    rw [callsOf_append, callsAbout, callsOf_map, if_neg hne, h.fresh v (hb.fresh.trans hv), List.append_nil]

theorem closed (h : Ported s history) (hmem : u ∈ s.usb.deviceList) (hinvalid : (s.usb.records u).isValid = false) :
    (s.usb.records u).state = .waitingForDevice := by
  obtain ⟨isOpen, -, hmatches⟩ := h.ports u
  exact (hmatches hmem).waiting.mp ((hmatches hmem).valid.symm.trans hinvalid)

theorem add (h : Ported s history) (ho : o.Exact) (source : PendingSource) {location : UInt32}
    {monitor : DeviceMonitorState} (hmonitor : monitor = .disable ∨ (s.entriesAt location).getLast? = none)
    (hgood : ∀ u, ((s.entriesAt location).find? fun u => (s.usb.records u).isValid) = none →
      (s.entriesAt location).getLast? = some u → ¬ ((s.usb.records u).monitor = .always ∧ o.opened = true ∧
        (o.handle (s.usb.records u).port).isUnsupported = false ∧ o.configured = false)) :
    Ported (usbAddPendingDevice env o source location monitor s)
      (history ++ usbAddPendingDeviceCalls env o source location monitor s) := by
  unfold usbAddPendingDevice usbAddPendingDeviceCalls
  cases hnone : (s.entriesAt location).find? fun u => (s.usb.records u).isValid with
  | some u => exact h.same (usbReport_usb env u s)
  | none =>
    cases hlast : (s.entriesAt location).getLast? with
    | some u =>
      have hat := List.mem_of_getLast? hlast
      obtain ⟨hmem, -⟩ := mem_entriesAt.mp hat
      have hinvalid : (s.usb.records u).isValid = false := by simpa using List.find?_eq_none.mp hnone u hat
      have hdisable : monitor = .disable := hmonitor.resolve_right (by simp [hlast])
      have htouch := Touches.openExisting env o source monitor u s
      refine h.about (h.listed.touch htouch) (.touches htouch) (htouch.fresh ▸ h.listed.bound u hmem)
        fun isOpen _ hmatches => ?_
      obtain rfl : isOpen = false := (hmatches hmem).valid.symm.trans hinvalid
      exact .openDevice h.listed ho hinvalid (fun _ => ⟨h.closed hmem hinvalid, hdisable⟩) (by simp)
        fun hbad => hgood u hnone hlast hbad.2
    | none =>
      have hfresh : s.usb.fresh ∉ s.usb.deviceList := fun hmem => (h.listed.bound _ hmem).ne rfl
      have hopen := Besides.openDevice env o source monitor s.usb.fresh false (newUsbDevice location s)
      obtain ⟨s₁, hlisted, -, htouch⟩ := openNew_touches h.listed (entriesAt_none hlast) env o source monitor
      refine h.about (hlisted.touch htouch) ((Besides.new location s).trans hopen)
        (Nat.lt_of_succ_le hopen.fresh) fun isOpen hisOpen _ => ?_
      rw [h.fresh _ le_rfl] at hisOpen
      obtain rfl : isOpen = false := (Option.some.inj hisOpen).symm
      refine .openDevice (h.listed.new location) ho ?_ (by simp)
        (fun _ => ⟨?_, hfresh, Nat.lt_succ_self _, fun v hv => ?_⟩) (by simp)
      · simp [UsbRecord.new, UsbRecord.isValid, ComHandle.zero, comMceusb]
      · simp [UsbRecord.new]
      · have hne : v ≠ s.usb.fresh := (h.listed.bound v hv).ne
        simpa [hne] using entriesAt_none hlast v hv

/-- What is known of the ports is kept by a command that does not leave one open. -/
theorem command (h : Ported s history) (ho : o.Exact) {cmd : UsbCommand} (hgood : ¬ LeavesPortOpen s o cmd) :
    Ported (usbCommand env o cmd s) (history ++ stepCalls env s (.command cmd o)) := by
  cases cmd with
  | add source location =>
    exact h.add ho source (.inl rfl) fun u hnone hlast hbad => hgood ⟨source, location, u, rfl, hnone, hlast, hbad⟩
  | remove source location =>
    simp only [usbCommand, usbRemovePendingDevice, stepCalls, usbRemovePendingDeviceCalls]
    cases hfind : s.usb.deviceList.find? fun u => (s.usb.records u).location == location with
    | none => exact h.same rfl
    | some u =>
      have hmem := SlotTable.find?_mem hfind
      have hremoved : Touches u s (muxRemove env u s) := .same rfl
      have htouch : Touches u s (usbDisconnect o u (source == .manual) (muxRemove env u s)) :=
        hremoved.trans (.disconnect ..)
      exact h.about (h.listed.touch htouch) (.touches htouch) (htouch.fresh ▸ h.listed.bound u hmem)
        fun isOpen _ _ => .disconnect (h.listed.touch hremoved) ho ..
  | setMonitor location monitor =>
    simp only [usbCommand, usbHandleDeviceMonitorCommand, stepCalls, usbHandleDeviceMonitorCommandCalls]
    cases hlast : (s.entriesAt location).getLast? with
    | some u =>
      obtain ⟨hmem, -⟩ := mem_entriesAt.mp (List.mem_of_getLast? hlast)
      dsimp only
      split_ifs with halways hwaiting
      · exact h.same rfl
      · have htouch : Touches u s (usbFreeDevice u s) := .free u s
        refine h.about (h.listed.touch htouch) (.touches htouch) (htouch.fresh ▸ h.listed.bound u hmem)
          fun isOpen _ hmatches => ⟨false, ?_, fun hu => ?_⟩
        · obtain rfl : isOpen = false := (hmatches hmem).waiting.mpr hwaiting.2
          rfl
        · exact absurd rfl ((SlotTable.mem_remove h.listed.nodup).mp hu).1
      · have htouch : Touches u s (s.setRecord u fun dev => { dev with monitor }) := .setRecord rfl
        change Ported _ (history ++ callsAbout u [])
        refine h.about (h.listed.touch htouch) (.touches htouch) (htouch.fresh ▸ h.listed.bound u hmem)
          fun isOpen _ hmatches => ⟨isOpen, rfl, fun _ => ⟨?_, ?_⟩⟩
        · simpa [UsbRecord.isValid] using (hmatches hmem).valid
        · simpa using (hmatches hmem).waiting
    | none =>
      dsimp only
      split
      · exact h.add ho .manual (.inr hlast) fun u _ hu => by simp [hlast] at hu
      · exact h.same rfl

/-- Otherwise the port of a device that is waited for is open. -/
theorem leftOpen (h : Ported s history) {cmd : UsbCommand} (hbad : LeavesPortOpen s o cmd) (env : Env) :
    ∃ u ∈ (usbCommand env o cmd s).usb.deviceList, ((usbCommand env o cmd s).usb.records u).state = .waitingForDevice ∧
      openAfter false (callsOf u (history ++ stepCalls env s (.command cmd o))) = some true := by
  obtain ⟨source, location, u, rfl, hnone, hlast, hmonitor, hopened, hsupported, hconfigured⟩ := hbad
  have hat := List.mem_of_getLast? hlast
  obtain ⟨hmem, -⟩ := mem_entriesAt.mp hat
  have hinvalid : (s.usb.records u).isValid = false := by simpa using List.find?_eq_none.mp hnone u hat
  obtain ⟨isOpen, hisOpen, hmatches⟩ := h.ports u
  obtain rfl : isOpen = false := (hmatches hmem).valid.symm.trans hinvalid
  have hcalls : stepCalls env s (.command (.add source location) o) = callsAbout u [.opened] := by
    simp [stepCalls, usbAddPendingDeviceCalls, hnone, hlast, usbOpenDeviceCalls, hopened, usbListDeviceCalls,
      usbListedDeviceCalls, usbOpenedDeviceCalls, hsupported, hconfigured, hmonitor]
  have hstep : usbCommand env o (.add source location) s = usbOpenDevice env o source .disable u true s := by
    simp [usbCommand, usbAddPendingDevice, hnone, hlast]
  have hstate : ((usbOpenDevice env o source .disable u true s).usb.records u).state = (s.usb.records u).state := by
    simp [usbOpenDevice, hopened, usbListDevice, usbListedDevice, usbOpenedDevice, hsupported, hconfigured, hmonitor]
  have hlist : (usbOpenDevice env o source .disable u true s).usb.deviceList = s.usb.deviceList := by
    simp [usbOpenDevice, hopened, usbListDevice, usbListedDevice, usbOpenedDevice, hsupported, hconfigured, hmonitor]
  rw [hstep, hcalls]
  refine ⟨u, hlist ▸ hmem, hstate.trans (h.closed hmem hinvalid), ?_⟩
  rw [callsOf_append, callsAbout, callsOf_map, if_pos rfl, openAfter_append, hisOpen]
  rfl

/-- The port of a device that is waited for is not open. -/
theorem portsClosed {steps : List DaemonStep} (h : Ported (daemonRun env steps .init) (runCalls env steps .init)) :
    PortsClosed env steps := by
  intro u
  obtain ⟨isOpen, hisOpen, hmatches⟩ := h.ports u
  refine ⟨isOpen, hisOpen, fun hmem hwaiting => ?_⟩
  have hclosed := (hmatches hmem).waiting.mpr hwaiting
  refine ⟨hclosed, List.find?_eq_none.mpr fun v hv => ?_⟩
  -- there is no other entry for the location
  obtain ⟨hmem', hloc⟩ := mem_entriesAt.mp hv
  obtain rfl := h.listed.unique v hmem' u hmem hloc
  simp [(hmatches hmem).valid.trans hclosed]

end Ported

/-! ### Runs -/

section Runs

variable {env : Env} {steps : List DaemonStep}

theorem ported_run (ho : ∀ cmd o, DaemonStep.command cmd o ∈ steps → o.Exact)
    (hgood : ∀ before cmd o after, steps = before ++ .command cmd o :: after →
      ¬ LeavesPortOpen (daemonRun env before .init) o cmd) :
    Ported (daemonRun env steps .init) (runCalls env steps .init) := by
  induction steps using List.reverseRecOn with
  | nil => exact .init
  | append_singleton steps step ih =>
    have h := ih (fun cmd o hmem => ho cmd o (List.mem_append_left _ hmem))
      fun before cmd o after heq => hgood before cmd o (after ++ [step]) (by simp [heq])
    rw [daemonRun_append, runCalls_append]
    cases step with
    | command cmd o => exact h.command (ho cmd o (by simp)) (hgood steps cmd o [] rfl)
    | op op => exact h.same (daemonStep_op_usb env _ op)

/-- The ports are kept closed throughout a run if and only if no command leaves one open: none adds a device that is on
the list and is always monitored, opens the port of one of Apple's devices, and then cannot configure it. -/
theorem portsClosed_iff (ho : ∀ cmd o, DaemonStep.command cmd o ∈ steps → o.Exact) :
    (∀ before after, steps = before ++ after → PortsClosed env before) ↔
      ∀ before cmd o after, steps = before ++ .command cmd o :: after →
        ¬ LeavesPortOpen (daemonRun env before .init) o cmd := by
  constructor
  · intro hclosed
    induction steps using List.reverseRecOn with
    | nil =>
      intro before cmd o after heq
      simp at heq
    | append_singleton steps step ih =>
      have hgood := ih (fun cmd o hmem => ho cmd o (List.mem_append_left _ hmem))
        fun before after heq => hclosed before (after ++ [step]) (by simp [heq])
      intro before cmd o after heq hbad
      rcases List.eq_nil_or_concat after with rfl | ⟨after', last, rfl⟩
      · obtain ⟨rfl, hlast⟩ := List.append_inj' heq rfl
        obtain rfl := List.cons.inj hlast |>.1
        have h := ported_run (fun cmd o hmem => ho cmd o (List.mem_append_left _ hmem)) hgood
        obtain ⟨u, hmem, hwaiting, hopen⟩ := h.leftOpen hbad env
        obtain ⟨isOpen, hisOpen, hshut⟩ := hclosed _ [] (List.append_nil _).symm u
        rw [daemonRun_append] at hshut
        rw [runCalls_append, hopen] at hisOpen
        obtain rfl := Option.some.inj hisOpen
        exact absurd (hshut hmem hwaiting).1 (by decide)
      · have hprefix : steps = before ++ .command cmd o :: after' := by
          have heq' : steps ++ [step] = (before ++ .command cmd o :: after') ++ [last] := by simpa using heq
          exact (List.append_inj' heq' rfl).1
        exact hgood before cmd o after' hprefix hbad
  · intro hgood before after heq
    refine (ported_run (fun cmd o hmem => ho cmd o ?_) fun before' cmd o after' heq' => ?_).portsClosed
    · exact heq ▸ List.mem_append_left _ hmem
    · exact hgood before' cmd o (after' ++ after) (by simp [heq, heq'])

end Runs

/-- Answers with which the port cannot be opened. -/
def Outcome.absent : Outcome where
  __ := noThread
  opened := false
  handle port := port
  configured := false

/-- Answers with which the port is opened, and the device cannot be configured. -/
def Outcome.unconfigured : Outcome where
  __ := noThread
  configured := false

/-- The device at port `5` is waited for, and when it comes its thread cannot be started. -/
theorem portsClosed_iff_noThread :
    PortsClosed .quiet [.command (.setMonitor 5 .always) .absent, .command (.add .monitor 5) .noThread] := by
  let steps := [DaemonStep.command (.setMonitor 5 .always) .absent, .command (.add .monitor 5) .noThread]
  have hanswers : ∀ cmd o, DaemonStep.command cmd o ∈ steps → o = .absent ∨ o = .noThread := by
    intro cmd o hmem
    simp only [steps, List.mem_cons, DaemonStep.command.injEq, List.not_mem_nil, or_false] at hmem
    exact hmem.imp And.right And.right
  refine (portsClosed_iff (fun cmd o hmem => ?_)).mpr (fun before cmd o after heq hbad => ?_) steps []
    (List.append_nil steps).symm
  · rcases hanswers cmd o hmem with rfl | rfl
    · exact ⟨⟨fun hopened => absurd hopened (by decide), rfl⟩, fun _ _ => rfl⟩
    · exact ⟨⟨fun _ _ => rfl, rfl⟩, fun hclosed => absurd hclosed (by decide)⟩
  · obtain ⟨_, _, _, _, _, _, _, hopened, _, hconfigured⟩ := hbad
    rcases hanswers cmd o (heq ▸ by simp) with rfl | rfl
    · cases hopened
    · cases hconfigured

/-- The device at port `5` is waited for, and when it comes it cannot be configured. Its port stays open. It is no more
to be waited for, and its record is freed. -/
theorem openPort_freed :
    let steps := [DaemonStep.command (.setMonitor 5 .always) .absent, .command (.add .monitor 5) .unconfigured,
      .command (.setMonitor 5 .disable) .absent]
    callsOf 1 (runCalls .quiet steps .init) = [.opened, .freed] ∧ ¬ PortsClosed .quiet steps := by
  have hcalls : callsOf 1 (runCalls .quiet [.command (.setMonitor 5 .always) .absent,
      .command (.add .monitor 5) .unconfigured, .command (.setMonitor 5 .disable) .absent] .init) =
      [.opened, .freed] := by decide +kernel
  refine ⟨hcalls, fun hclosed => ?_⟩
  obtain ⟨isOpen, hisOpen, -⟩ := hclosed 1
  rw [hcalls] at hisOpen
  cases hisOpen

end Usbmuxd
