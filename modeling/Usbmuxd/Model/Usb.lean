import Usbmuxd.Model.Loop

/-!
# The USB layer

`usb-mce.cpp`: the list of USB devices, with what is to happen when a device is unplugged
(its monitor), and the commands about them that wait for `usb_process`. The commands call
`device_add` and `device_remove` of the mux layer below.

## The model

* `UsbState` — the records of `struct usb_device` and `g_device_list`; a record stays in its
  cell after `delete`, and no address is handed out twice.
* `Daemon` — the USB layer and the mux layer together.
* `Outcome` — what the plugin and the system answer while one command is processed.
* `usbCommand` — the body of the loop of `usb_process`; `usbProcessCommands` — the loop.

The events that a caller waits for, the sockets and the write thread are left out: nothing
here depends on them.
-/

namespace Usbmuxd

open World

/-! ### Data -/

/-- `enum device_monitor_state`. -/
inductive DeviceMonitorState where
  /-- `DEVICE_MONITOR_ONCE`. -/
  | once
  /-- `DEVICE_MONITOR_ALWAYS`. -/
  | always
  /-- `DEVICE_MONITOR_DISABLE`. -/
  | disable
  deriving DecidableEq, Inhabited

/-- `enum usb_device_state`. -/
inductive UsbDeviceState where
  /-- `USB_DEVICE_STATE_ALIVE`. -/
  | alive
  /-- `USB_DEVICE_STATE_DEAD`. -/
  | dead
  /-- `USB_DEVICE_STATE_WAITING_FOR_DEVICE`. -/
  | waitingForDevice
  deriving DecidableEq, Inhabited

/-- `enum PENDING_DEVICE_COMMAND_SOURCE`. -/
inductive PendingSource where
  /-- `PENDING_DEVICE_COMMAND_SOURCE_MANUAL`. -/
  | manual
  /-- `PENDING_DEVICE_COMMAND_SOURCE_MONITOR`. -/
  | monitor
  deriving DecidableEq

/-- `COM_MCEUSB`. -/
def comMceusb : UInt32 := 7

/-- `VID_APPLE`. -/
def vidApple : UInt16 := 0x5ac

/-- `PID_RANGE_LOW`. -/
def pidRangeLow : UInt16 := 0x1290

/-- `PID_RANGE_MAX`. -/
def pidRangeMax : UInt16 := 0x12af

/-- What is read of a `COMHANDLE`. -/
structure ComHandle where
  dwPortID : UInt32
  wVID : UInt16
  wPID : UInt16
  bTurbo : Bool
  deriving DecidableEq

/-- A handle of zeros. -/
def ComHandle.zero : ComHandle := ⟨0, 0, 0, false⟩

/-- The device is not one of Apple's that speak the mux protocol. -/
def ComHandle.isUnsupported (port : ComHandle) : Bool :=
  port.wVID ≠ vidApple || decide (port.wPID < pidRangeLow) || decide (pidRangeMax < port.wPID)

/-- `struct usb_device`. -/
structure UsbRecord where
  id : ℕ
  location : UInt32
  port : ComHandle
  monitor : DeviceMonitorState
  state : UsbDeviceState
  /-- `info.serial`. -/
  serial : List UInt8
  /-- Whether `rx.thread` is a handle. -/
  rxThread : Bool

/-- What the constructor of `usb_device` fills in. -/
def UsbRecord.new : UsbRecord where
  id := 0
  location := 0
  port := .zero
  monitor := .once
  state := .alive
  serial := []
  rxThread := false

/-- `IS_VALID_DEVICE`. -/
def UsbRecord.isValid (dev : UsbRecord) : Bool := dev.port.dwPortID == comMceusb

/-- A record whose device is gone and is waited for. -/
@[simps]
def UsbRecord.reset (dev : UsbRecord) : UsbRecord := { dev with port := .zero, serial := [], state := .waitingForDevice }

/-- The globals of `usb-mce.cpp`. -/
structure UsbState where
  records : UsbDevice → UsbRecord
  /-- `g_device_list`. -/
  deviceList : SlotTable UsbDevice
  /-- `g_next_usb_device_id`. -/
  nextUsbDeviceId : ℕ
  /-- The next address. -/
  fresh : UsbDevice

/-- The USB layer and the mux layer. -/
structure Daemon where
  usb : UsbState
  mux : World

/-- What the plugin and the system answer while a command is processed. -/
structure Outcome where
  /-- Whether `com_plugin_open_by_name` succeeds. -/
  opened : Bool
  /-- What it makes of the handle. -/
  handle : ComHandle → ComHandle
  /-- Whether `CreateEvent` succeeds. -/
  createEvent : Bool
  /-- The serial number that `usb_configure_device` leaves in the record. -/
  serial : List UInt8
  /-- Whether `usb_configure_device` succeeds. -/
  configured : Bool
  /-- Whether `usb_start_read_thread` and `usb_start_write_thread` succeed. -/
  readThread : Bool
  writeThread : Bool
  /-- Whether `usb_disconnect` can wait for the read thread, or terminate it. -/
  stopped : Bool

namespace Daemon

/-- After `usb_init` and `device_init`. -/
def init : Daemon := ⟨⟨fun _ => .new, .init capacityStep, 1, 1⟩, .init⟩

variable (s : Daemon)

/-- Change the record of a device. -/
@[simps -fullyApplied]
def setRecord (u : UsbDevice) (f : UsbRecord → UsbRecord) : Daemon :=
  { s with usb := { s.usb with records := Function.update s.usb.records u (f (s.usb.records u)) } }

/-- The outside, as the mux layer sees it: `usb_get_location`, `usb_get_serial` and
`usb_get_pid` read the record. -/
def outside (env : Env) : Env :=
  { env with usbInfo := fun u => ((s.usb.records u).location, (s.usb.records u).serial, (s.usb.records u).port.wPID) }

end Daemon

/-! ### Releasing -/

/-- `usb_free_device`. -/
@[simps -fullyApplied]
def usbFreeDevice (u : UsbDevice) (s : Daemon) : Daemon :=
  { s with usb := { s.usb with deviceList := s.usb.deviceList.remove u } }

/-- `usb_disconnect`. -/
def usbDisconnect (o : Outcome) (u : UsbDevice) (manualRemove : Bool) (s : Daemon) : Daemon :=
  if (s.usb.records u).rxThread && !o.stopped then s
  else
    let s := s.setRecord u fun dev => { dev with rxThread := false }
    if manualRemove ∨ (s.usb.records u).monitor = .disable then usbFreeDevice u s else s.setRecord u (·.reset)

/-! ### Calls of the mux layer -/

/-- `device_remove`. -/
def muxRemove (env : Env) (u : UsbDevice) (s : Daemon) : Daemon := { s with mux := deviceRemove (s.outside env) u s.mux }

/-- `device_add_failed`. -/
def muxAddFailed (env : Env) (u : UsbDevice) (s : Daemon) : Daemon :=
  { s with mux := deviceAddFailed (s.outside env) u s.mux }

/-- `device_add`. -/
def muxAdd (env : Env) (u : UsbDevice) (s : Daemon) : Daemon := { s with mux := deviceAdd (s.outside env) u s.mux }

/-- Whether `device_add` succeeds: it does if its version packet can be sent. -/
def muxAddOk (env : Env) (u : UsbDevice) (s : Daemon) : Bool :=
  (sendPacket (s.outside env) s.mux.fresh .version (VersionHeader.bytes ⟨1, 0, 0⟩) []
    (allocDev u (getNextDeviceId s.mux) s.mux)).2

/-- `device_is_initializing`. -/
def deviceIsInitializing (u : UsbDevice) (s : Daemon) : Bool :=
  match s.mux.deviceList.find? fun d => (s.usb.records (s.mux.devs d).usbdev).location == (s.usb.records u).location with
  | none => false
  | some d => (s.mux.devs d).state == .init || (s.mux.devs d).isPreflightWorkerRunning

/-- `usb_report_device_already_exists`. -/
def usbReportDeviceAlreadyExists (env : Env) (u : UsbDevice) (s : Daemon) : Daemon :=
  let dev := s.usb.records u
  if dev.monitor = .once then s
  else if deviceIsInitializing u s then s
  else
    let info : DeviceInfo := { id := dev.id, location := dev.location, serial := dev.serial, pid := dev.port.wPID }
    { s with mux := clientDeviceErrorAlreadyExits env info s.mux }

/-! ### Adding -/

/-- `new usb_device`, with the number and the location it is given. -/
@[simps -fullyApplied]
def newUsbDevice (location : UInt32) (s : Daemon) : Daemon :=
  { s with usb := { s.usb with
      records := Function.update s.usb.records s.usb.fresh
        { UsbRecord.new with id := s.usb.nextUsbDeviceId, location }
      nextUsbDeviceId := s.usb.nextUsbDeviceId + 1
      fresh := s.usb.fresh + 1 } }

/-- The cleanup of `usb_add_pending_device`. -/
def usbAddCleanup (env : Env) (o : Outcome) (u : UsbDevice) (isExisting wasAdded : Bool) (s : Daemon) : Daemon :=
  let keep := isExisting && (s.usb.records u).monitor == .always
  usbDisconnect o u (!keep) <|
    if wasAdded then muxRemove env u s else if keep then s else muxAddFailed env u s

/-- The end of `usb_add_pending_device`: hand the device to the mux layer and start its threads. -/
def usbStartDevice (env : Env) (o : Outcome) (u : UsbDevice) (isExisting : Bool) (s : Daemon) : Daemon :=
  let ok := muxAddOk env u s
  let s := muxAdd env u s
  if !ok then usbAddCleanup env o u isExisting false s
  else if !o.readThread then usbAddCleanup env o u isExisting true s
  else
    let s := s.setRecord u fun dev => { dev with rxThread := true }
    if (s.usb.records u).port.bTurbo && !o.writeThread then usbAddCleanup env o u isExisting true s
    else s.setRecord u fun dev => { dev with state := .alive }

/-- `usb_add_pending_device` for a device that is on the list and whose port is open. -/
def usbOpenedDevice (env : Env) (o : Outcome) (source : PendingSource) (monitor : DeviceMonitorState) (u : UsbDevice)
    (isExisting : Bool) (s : Daemon) : Daemon :=
  if (s.usb.records u).port.isUnsupported then
    if source = .manual ∧ monitor ≠ .disable then s else usbAddCleanup env o u isExisting false s
  else
    let s := s.setRecord u fun dev => { dev with serial := o.serial }
    if o.configured then usbStartDevice env o u isExisting s
    else if isExisting ∧ (s.usb.records u).monitor = .always then s
    else usbAddCleanup env o u isExisting false s

/-- `collection_add(&g_device_list, usb_dev)`. -/
@[simps -fullyApplied]
def registerUsb (u : UsbDevice) (s : Daemon) : Daemon :=
  { s with usb := { s.usb with deviceList := s.usb.deviceList.add capacityStep u } }

/-- `usb_add_pending_device` for a device that is on the list: go on if its port is open. -/
def usbListedDevice (env : Env) (o : Outcome) (source : PendingSource) (monitor : DeviceMonitorState) (u : UsbDevice)
    (isExisting : Bool) (s : Daemon) : Daemon :=
  if o.opened then usbOpenedDevice env o source monitor u isExisting s else s

/-- A record whose `DEVICE_MONITOR_ONCE` has been used up. -/
@[simps]
def UsbRecord.useUp (dev : UsbRecord) : UsbRecord :=
  { dev with monitor := if dev.monitor = .once then .disable else dev.monitor }

/-- `usb_add_pending_device` once the port has been opened, or is to be monitored. -/
def usbListDevice (env : Env) (o : Outcome) (source : PendingSource) (monitor : DeviceMonitorState) (u : UsbDevice)
    (isExisting : Bool) (s : Daemon) : Daemon :=
  if isExisting then usbListedDevice env o source monitor u isExisting (s.setRecord u (·.useUp))
  else
    let s := s.setRecord u fun dev => { dev with monitor }
    if o.createEvent then usbListedDevice env o source monitor u isExisting (registerUsb u s)
    else usbAddCleanup env o u isExisting false s

/-- `usb_add_pending_device` for a device whose record is there: try to open its port. -/
def usbOpenDevice (env : Env) (o : Outcome) (source : PendingSource) (monitor : DeviceMonitorState) (u : UsbDevice)
    (isExisting : Bool) (s : Daemon) : Daemon :=
  let s := s.setRecord u fun dev => { dev with port := o.handle dev.port }
  if o.opened then usbListDevice env o source monitor u isExisting s
  else if monitor = .always then
    usbListDevice env o source monitor u isExisting (s.setRecord u fun dev => { dev with state := .waitingForDevice })
  else usbAddCleanup env o u isExisting false s

/-- The entries for a location. -/
def Daemon.entriesAt (s : Daemon) (location : UInt32) : List UsbDevice :=
  s.usb.deviceList.elements.filter fun u => (s.usb.records u).location == location

/-- `usb_add_pending_device`. -/
def usbAddPendingDevice (env : Env) (o : Outcome) (source : PendingSource) (location : UInt32)
    (monitor : DeviceMonitorState) (s : Daemon) : Daemon :=
  match (s.entriesAt location).find? fun u => (s.usb.records u).isValid with
  | some u => usbReportDeviceAlreadyExists env u s
  | none =>
    match (s.entriesAt location).getLast? with
    | some u => usbOpenDevice env o source monitor u true s
    | none => usbOpenDevice env o source monitor s.usb.fresh false (newUsbDevice location s)

/-! ### Commands -/

/-- `usb_remove_pending_device`. -/
def usbRemovePendingDevice (env : Env) (o : Outcome) (source : PendingSource) (location : UInt32) (s : Daemon) : Daemon :=
  match s.usb.deviceList.find? fun u => (s.usb.records u).location == location with
  | none => s
  | some u => usbDisconnect o u (source == .manual) (muxRemove env u s)

/-- `usb_handle_device_monitor_command`. -/
def usbHandleDeviceMonitorCommand (env : Env) (o : Outcome) (location : UInt32) (monitor : DeviceMonitorState)
    (s : Daemon) : Daemon :=
  match (s.entriesAt location).getLast? with
  | some u =>
    let dev := s.usb.records u
    -- "monitor once" is only used by the preflight thread, and must not undo "always monitor"
    if dev.monitor = .always ∧ monitor = .once then s
    else if monitor = .disable ∧ dev.state = .waitingForDevice then usbFreeDevice u s
    else s.setRecord u fun dev => { dev with monitor }
  | none => if monitor = .always then usbAddPendingDevice env o .manual location monitor s else s

/-- `PENDING_DEVICE_COMMAND`, as the enqueuers fill it in: only `usb_set_device_monitoring`
passes on a monitor. -/
inductive UsbCommand where
  /-- `PENDING_DEVICE_COMMAND_ADD`. -/
  | add (source : PendingSource) (location : UInt32)
  /-- `PENDING_DEVICE_COMMAND_REMOVE`. -/
  | remove (source : PendingSource) (location : UInt32)
  /-- `PENDING_DEVICE_COMMAND_SET_MONITOR`. -/
  | setMonitor (location : UInt32) (monitor : DeviceMonitorState)
  deriving DecidableEq

/-- The body of the loop of `usb_process`. -/
def usbCommand (env : Env) (o : Outcome) (cmd : UsbCommand) (s : Daemon) : Daemon :=
  match cmd with
  | .add source location => usbAddPendingDevice env o source location .disable s
  | .remove source location => usbRemovePendingDevice env o source location s
  | .setMonitor location monitor => usbHandleDeviceMonitorCommand env o location monitor s

/-- `usb_process`: the commands that are waiting, with the answers to each. -/
def usbProcessCommands (env : Env) (cmds : List (UsbCommand × Outcome)) (s : Daemon) : Daemon :=
  cmds.foldl (fun s cmd => usbCommand env cmd.2 cmd.1 s) s

/-! ### What the callers are told -/

/-- What `usb_handle_device_monitor_command` returns. The `ret` that takes the result of
`usb_add_pending_device` is another variable than the one that is returned. -/
def usbDeviceMonitorResult (location : UInt32) (monitor : DeviceMonitorState) (s : Daemon) : Int :=
  match (s.entriesAt location).getLast? with
  | some _ => 0
  | none => if monitor = .always then 0 else -1

/-- `usb_set_device_monitoring_immediately`: its command is processed behind those that are
waiting, and `usb_process` returns `0`. -/
def usbSetDeviceMonitoringImmediately (env : Env) (waiting : List (UsbCommand × Outcome)) (o : Outcome)
    (location : UInt32) (monitor : DeviceMonitorState) (s : Daemon) : Daemon × Int :=
  (usbProcessCommands env (waiting ++ [(.setMonitor location monitor, o)]) s, 0)

/-- The `AutoMonitor` of a command. -/
def autoMonitor (command : Plist) : Bool :=
  match command.getItem "AutoMonitor" with
  | some (.boolean b) => b
  | _ => false

/-- `EIO`. -/
def eio : UInt32 := 5

/-- What `handle_device_monitor_command` does to both layers, and the result that it sends. -/
def deviceMonitorRequest (env : Env) (waiting : List (UsbCommand × Outcome)) (o : Outcome) (command : Plist)
    (s : Daemon) : Daemon × UInt32 :=
  if deviceLocation command = 0 then (s, resultBadcommand)
  else
    let monitor := if autoMonitor command then .always else .disable
    let r := usbSetDeviceMonitoringImmediately env waiting o (deviceLocation command) monitor s
    (r.1, if r.2 < 0 then -eio else resultOk)

end Usbmuxd
