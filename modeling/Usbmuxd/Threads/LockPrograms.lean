import Usbmuxd.Foundation.Locking

/-!
# Which locks the threads take

Three locks are shared by the threads of the daemon: one for each of the two lists, and one for the commands that wait
for `usb_process`. Here is, for each function that takes one of them or calls a function that does, which locks
it takes and in which order. Branches are choices, loops are loops, and everything else is left out.

## The model

* `Mutex` — the three locks, which a thread may take several times over.
* `Proc`, `Proc.body` — the functions, under the source's names, and their bodies.
* `Thread`, `Thread.code` — the main thread, and any number of preflight threads and of calls of
  the plugin's notification callback.
-/

namespace Usbmuxd

/-- The locks. -/
inductive Mutex where
  /-- `client_list_mutex`. -/
  | clientList
  /-- `device_list_mutex`. -/
  | deviceList
  /-- `g_pending_devices_lock`. -/
  | pendingDevices
  deriving DecidableEq

/-- The functions that take a lock, or call one that does. -/
inductive Proc where
  -- device.cpp
  | getMuxDeviceForId
  | getMuxConnection
  | getNextDeviceId
  | connectionTeardown
  | deviceAcceptSocket
  | deviceProcessSockets
  | deviceAddFds
  | deviceStartConnect
  | sendTcpAck
  | deviceClientProcess
  | connectionDeviceInput
  | deviceAbortConnect
  | deviceVersionInput
  | deviceTcpInput
  | deviceDataInput
  | deviceAdd
  | deviceRemove
  | deviceAddFailed
  | deviceSetVisible
  | deviceSetPreflightCbData
  | deviceGetList
  | deviceGetTimeout
  | deviceCheckTimeouts
  | deviceIsInitializing
  | devicePreflightFinished
  -- client.cpp
  | clientAccept
  | clientClose
  | clientAddFds
  | sendDeviceList
  | startListen
  | handleConnectCommand
  | handleListenCommand
  | handleAddDeviceCommand
  | handleRemoveDeviceCommand
  | handleDeviceMonitorCommand
  | handleClientPlistCommand
  | clientCommand
  | processSend
  | processRecv
  | clientProcess
  | clientDeviceAdd
  | clientDeviceRemove
  | clientDevicePairingEvent (validate : Bool)
  | clientDeviceRemovedDuringAdd
  | clientDeviceTrustPending
  | clientDevicePasswordProtected
  | clientDeviceUserDeniedPairing
  | clientDeviceErrorAlreadyExits
  -- usb-mce.cpp
  | usbAddDevice
  | usbRemoveDevice
  | usbSetDeviceMonitoring
  | usbSetDeviceMonitoringImmediately
  | usbProcess
  | usbPortChangeCallback
  | usbHandleDeviceMonitorCommand
  | usbAppendDeviceCommand
  | usbAddPendingDevice
  | usbRemovePendingDevice
  | usbReportDeviceAlreadyExists
  -- preflight.cpp and usbmuxd.cpp
  | preflightWorkerHandleDeviceAdd
  | mainThreadProc
  deriving DecidableEq

namespace Code

variable {F : Type*}

/-- A section that calls nothing. -/
def take (l : Mutex) : Code F Mutex := .within l .skip

/-- Code that may be passed over. -/
def maybe (a : Code F Mutex) : Code F Mutex := .either .skip a

/-- One of several pieces of code. -/
def anyOf : List (Code F Mutex) → Code F Mutex
  | [] => .skip
  | [a] => a
  | a :: rest => .either a (anyOf rest)

/-- Several pieces of code, one after the other. -/
def inTurn : List (Code F Mutex) → Code F Mutex
  | [] => .skip
  | [a] => a
  | a :: rest => .seq a (inTurn rest)

end Code

open Code Mutex in
/-- The body of `preflight_worker_handle_device_add`, where every way out passes through the label `leave`. -/
def preflightWorker : Code Proc Mutex :=
  inTurn [
    anyOf [
      -- no lockdown client, no type or no version
      skip,
      -- a device in restore mode, or one with a session
      call .clientDeviceAdd,
      -- iOS 7 and later
      inTurn [
        maybe (call .usbSetDeviceMonitoring),
        anyOf [
          skip,
          call .clientDeviceAdd,
          call .clientDeviceUserDeniedPairing,
          call .clientDevicePasswordProtected,
          -- the notification proxy cannot be started
          inTurn [maybe (call .clientDevicePasswordProtected), call .usbSetDeviceMonitoring],
          -- the event for the end of the pairing cannot be made
          call .clientDeviceTrustPending,
          inTurn [
            call .clientDeviceTrustPending,
            call .deviceSetPreflightCbData,
            maybe (inTurn [call .clientDeviceUserDeniedPairing, call .usbSetDeviceMonitoring]),
            call .deviceSetPreflightCbData,
            maybe (inTurn [call .clientDeviceAdd, call .usbSetDeviceMonitoring])]]],
      -- iOS 6 and earlier
      anyOf [maybe (call .clientDevicePasswordProtected), call .clientDeviceAdd]],
    call .devicePreflightFinished]

open Code Mutex in
/-- The body of `MainThreadProc`. -/
def mainLoop : Code Proc Mutex :=
  many <| inTurn [
    call .deviceGetTimeout,
    -- CreateFdSets
    call .clientAddFds,
    call .deviceAddFds,
    anyOf [
      -- the shutdown event, or an error of select
      skip,
      inTurn [call .usbProcess, call .deviceCheckTimeouts],
      inTurn [
        maybe (call .clientAccept),
        maybe (call .deviceAcceptSocket),
        call .deviceProcessSockets,
        call .usbProcess,
        call .clientProcess]]]

open Code Mutex in
/-- The bodies of the functions. -/
def Proc.body : Proc → Code Proc Mutex
  | getMuxDeviceForId => take deviceList
  | getMuxConnection => take deviceList
  | getNextDeviceId => inTurn [take deviceList, many (take deviceList)]
  | connectionTeardown => maybe (call clientClose)
  | deviceAcceptSocket => maybe (take deviceList)
  | deviceProcessSockets => within deviceList (many (call deviceDataInput))
  | deviceAddFds => take deviceList
  | deviceStartConnect => call getMuxDeviceForId
  | sendTcpAck => maybe (call connectionTeardown)
  | deviceClientProcess =>
    inTurn [
      call getMuxConnection,
      anyOf [
        skip,
        call connectionTeardown,
        inTurn [maybe (call sendTcpAck), maybe (call connectionTeardown)]]]
  | connectionDeviceInput => maybe (call connectionTeardown)
  | deviceAbortConnect => inTurn [call getMuxConnection, maybe (call connectionTeardown)]
  | deviceVersionInput => maybe (take deviceList)
  | deviceTcpInput =>
    anyOf [skip, call connectionTeardown, inTurn [call connectionDeviceInput, maybe (call sendTcpAck)]]
  | deviceDataInput => inTurn [take deviceList, anyOf [skip, call deviceVersionInput, call deviceTcpInput]]
  | deviceAdd => inTurn [call getNextDeviceId, maybe (take deviceList)]
  | deviceRemove =>
    within deviceList <| maybe <|
      inTurn [many (call connectionTeardown), anyOf [call clientDeviceRemove, call clientDeviceRemovedDuringAdd]]
  | deviceAddFailed => call clientDeviceRemovedDuringAdd
  | deviceSetVisible => take deviceList
  | deviceSetPreflightCbData => take deviceList
  | deviceGetList => take deviceList
  | deviceGetTimeout => take deviceList
  | deviceCheckTimeouts => within deviceList (many (call sendTcpAck))
  | deviceIsInitializing => take deviceList
  | devicePreflightFinished => take deviceList
  | clientAccept => maybe (take clientList)
  | clientClose => inTurn [maybe (call deviceAbortConnect), take clientList]
  | clientAddFds => take clientList
  | sendDeviceList => call deviceGetList
  | startListen => call deviceGetList
  | handleConnectCommand => maybe (call deviceStartConnect)
  | handleListenCommand => maybe (call startListen)
  | handleAddDeviceCommand => maybe (call usbAddDevice)
  | handleRemoveDeviceCommand => maybe (call usbRemoveDevice)
  | handleDeviceMonitorCommand => maybe (call usbSetDeviceMonitoringImmediately)
  | handleClientPlistCommand =>
    anyOf [
      skip,
      call handleListenCommand,
      call handleConnectCommand,
      call sendDeviceList,
      call handleAddDeviceCommand,
      call handleRemoveDeviceCommand,
      call handleDeviceMonitorCommand]
  | clientCommand =>
    anyOf [
      skip,
      call clientClose,
      call handleClientPlistCommand,
      call startListen,
      call deviceStartConnect]
  | processSend => maybe (call clientClose)
  | processRecv => anyOf [skip, call clientClose, call clientCommand]
  | clientProcess =>
    within clientList (many (anyOf [call deviceClientProcess, call processRecv, call processSend]))
  | clientDeviceAdd => inTurn [call deviceSetVisible, take clientList]
  | clientDeviceRemove => take clientList
  | clientDevicePairingEvent validate =>
    within deviceList (if validate then maybe (take clientList) else take clientList)
  | clientDeviceRemovedDuringAdd => call (clientDevicePairingEvent false)
  | clientDeviceTrustPending => call (clientDevicePairingEvent true)
  | clientDevicePasswordProtected => call (clientDevicePairingEvent true)
  | clientDeviceUserDeniedPairing => call (clientDevicePairingEvent true)
  | clientDeviceErrorAlreadyExits => call (clientDevicePairingEvent false)
  | usbAddDevice => call usbAppendDeviceCommand
  | usbRemoveDevice => call usbAppendDeviceCommand
  | usbSetDeviceMonitoring => maybe (call usbAppendDeviceCommand)
  | usbSetDeviceMonitoringImmediately => inTurn [call usbAppendDeviceCommand, call usbProcess]
  | usbProcess =>
    within pendingDevices <| many <|
      anyOf [call usbAddPendingDevice, call usbRemovePendingDevice, call usbHandleDeviceMonitorCommand]
  | usbPortChangeCallback => maybe (call usbAppendDeviceCommand)
  | usbHandleDeviceMonitorCommand => maybe (call usbAddPendingDevice)
  | usbAppendDeviceCommand => take pendingDevices
  | usbAddPendingDevice =>
    anyOf [
      call usbReportDeviceAlreadyExists,
      inTurn [maybe (call deviceAdd), anyOf [skip, call deviceRemove, call deviceAddFailed]]]
  | usbRemovePendingDevice => maybe (call deviceRemove)
  | usbReportDeviceAlreadyExists =>
    maybe (inTurn [call deviceIsInitializing, maybe (call clientDeviceErrorAlreadyExits)])
  | preflightWorkerHandleDeviceAdd => preflightWorker
  | mainThreadProc => mainLoop

/-- The threads. -/
inductive Thread (κ : Type) where
  | main
  | preflight (k : κ)
  /-- The plugin's thread. -/
  | callback (k : κ)
  deriving DecidableEq

/-- What a thread does. -/
def Thread.code {κ : Type} : Thread κ → Code Proc Mutex
  | .main => .call .mainThreadProc
  | .preflight _ => .call .preflightWorkerHandleDeviceAdd
  | .callback _ => .many (.call .usbPortChangeCallback)

end Usbmuxd
