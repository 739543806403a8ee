import Mathlib.Data.Int.Notation
import Usbmuxd.Model.State

/-!
# The preflight thread

`preflight.cpp`: before a device is shown to the clients, a thread of its own pairs with it,
and while the user has not answered the trust dialog it waits. `preflight_worker_handle_device_add`
is the thread, `np_callback` runs on the thread of the notification proxy, and
`preflight_device_remove_cb` is called from `device_remove`. The last two are given the address
of `cbdata`, a variable in a block of the first.

## The model

The worker is a place in its code, in front of a call of libimobiledevice or of another thread's
data; `workerStep` makes the call, whose answer is given, and goes on to the next one.
`callbackStep` is a notification or the removal of the device. What the threads have done that
others can see is a log, the last event first. The clients of lockdownd are numbered in the
order in which they are made. A callback that touches `cbdata` where it is not in scope, and
`strchr` of a version without a dot, are a `fault`.

The record of the device and the configuration are answers. `lockdownd_set_untrusted_host_buid`
and `np_observe_notifications` are left out, and so are the strings that are freed at `leave`.
A client of the notification proxy whose callback has been called with an empty notification
calls it no more, and taking the callback away waits for one that is running.
-/

namespace Usbmuxd

/-- The values of `lockdownd_error_t` that are told apart. -/
inductive LockdownError where
  | success
  | invalidHostId
  | sslError
  | userDeniedPairing
  | passwordProtected
  | muxError
  | other
  deriving DecidableEq

/-- What others see of the worker, and what it has found out. -/
inductive PreflightEvent where
  /-- The device is in restore mode. -/
  | restoreMode
  /-- `lockdownd_start_session` has succeeded. -/
  | session
  /-- `lockdownd_pair` has succeeded. -/
  | paired
  /-- `is_paired_signal` has been set. -/
  | signalled
  /-- The notification proxy has gone. -/
  | proxyLost
  /-- `CreateEvent` has failed. -/
  | noEvent
  /-- `client_device_add`. -/
  | added
  /-- `client_device_user_denied_pairing`. -/
  | denied
  /-- `client_device_password_protected`. -/
  | passwordProtected
  /-- `client_device_trust_pending`. -/
  | trustPending
  /-- `usb_set_device_monitoring`, with `DEVICE_MONITOR_ONCE` or `DEVICE_MONITOR_DISABLE`. -/
  | monitor (once : Bool)
  /-- `device_preflight_finished`. -/
  | finished
  deriving DecidableEq

/-- What must not happen. -/
inductive PreflightFault where
  /-- A callback touches `cbdata` when it is not in scope. -/
  | dangling
  /-- `strchr` has found no dot in the version. -/
  | noDot
  deriving DecidableEq

/-- Where the worker is. -/
inductive PreflightPlace where
  /-- At `retry`. -/
  | clientNew
  | queryType
  /-- In front of `lockdownd_validate_pair_force_store`, or of `config_has_device_record`. -/
  | validate
  | startSession
  /-- In front of `config_remove_device_record`, after `LOCKDOWN_E_SSL_ERROR`. -/
  | removeRecord
  | getVersion
  /-- In front of `usb_set_device_monitoring`, of a device with iOS 7. -/
  | monitorOnce
  | pair
  | setupCompleted
  | startService
  | npNew
  /-- In front of `CreateEvent` and `np_set_notify_callback`. -/
  | createEvent
  /-- In front of `device_set_preflight_cb_data`. -/
  | setCbData
  /-- At the condition of the loop. -/
  | loop
  /-- Waiting for a second, from iOS 8 on for `is_paired_signal`. -/
  | wait
  /-- In front of the `lockdownd_pair` of the loop. -/
  | loopPair
  /-- In front of the `lockdownd_client_new` of the loop. -/
  | loopClientNew
  /-- After the loop. -/
  | afterLoop
  /-- In front of `device_set_preflight_cb_data(info->id, NULL)`. -/
  | clearCbData
  /-- In front of `np_set_notify_callback(cbdata.np, NULL, NULL)`. -/
  | clearCallback
  /-- In front of the last look at `is_paired_signal`. -/
  | check
  /-- In front of the end of the block of `cbdata`. -/
  | closeEvent
  /-- In front of the `lockdownd_pair` for iOS 6 and earlier. -/
  | pairOld
  | startSessionOld
  | validateOld
  | leave
  | ended
  deriving DecidableEq

/-- `cbdata`. -/
structure CbData where
  /-- Whether `np` is there. -/
  np : Bool
  isDeviceConnected : Bool
  /-- Whether `is_paired_signal` is set. -/
  isPaired : Bool
  deriving DecidableEq

/-- The worker, and what it shares with the callbacks. -/
structure Preflight where
  place : PreflightPlace
  /-- `lockdown`. -/
  lockdown : Option ℕ
  /-- The number of the next client of lockdownd. -/
  next : ℕ
  /-- The calls of `lockdownd_client_free`, the last one first. -/
  freed : List ℕ
  isDevicePaired : Bool
  pairErr : LockdownError
  versionMajor : ℤ
  versionMinor : ℤ
  /-- `nLockdownRecreationAttempts`. -/
  attempts : ℤ
  /-- `cbdata`, while it is in scope. -/
  cbdata : Option CbData
  /-- Whether there is a client of the notification proxy. -/
  np : Bool
  /-- Whether `is_paired_signal` is open. -/
  event : Bool
  /-- Whether `np_callback` is set. -/
  callback : Bool
  /-- Whether the device is on the device list. -/
  listed : Bool
  /-- Whether its `preflight_cb_data` is `&cbdata`. -/
  cbDataSet : Bool
  fault : Option PreflightFault
  log : List PreflightEvent
  deriving DecidableEq

/-- The worker of a new device. -/
def Preflight.init : Preflight where
  place := .clientNew
  lockdown := none
  next := 0
  freed := []
  isDevicePaired := false
  pairErr := .success
  versionMajor := 0
  versionMinor := 0
  attempts := 0
  cbdata := none
  np := false
  event := false
  callback := false
  listed := true
  cbDataSet := false
  fault := none
  log := []

/-- What a call of the worker is answered with. -/
structure PreflightAnswer where
  /-- The error of a call of lockdownd. -/
  error : LockdownError
  /-- Whether a call of another kind succeeds, or has found something. -/
  ok : Bool
  /-- `config_has_local_config`. -/
  hasLocalConfig : Bool
  /-- The type or the version that the device has given. -/
  text : Option (List UInt8)

/-- What the other threads do. -/
inductive PreflightCallback where
  /-- `np_callback` with an empty notification. -/
  | empty
  /-- `np_callback` with `request_pair`: what its calls of lockdownd come to. -/
  | requestPair (clientNew pair : LockdownError)
  /-- `np_callback` with `request_host_buid`. -/
  | requestHostBuid (clientNew : LockdownError)
  /-- `device_remove`. -/
  | deviceRemove

/-- A step of one of the threads. -/
inductive PreflightStep where
  | worker (answer : PreflightAnswer)
  | callback (c : PreflightCallback)

/-- `isspace`. -/
def isSpace (c : UInt8) : Bool := c = 32 || (9 ≤ c && c ≤ 13)

/-- The number that `strtol` reads in base 10, where `long` has four bytes. -/
def strtol (s : List UInt8) : ℤ :=
  let s := s.dropWhile isSpace
  let digits (s : List UInt8) : ℤ :=
    (s.takeWhile fun c => 48 ≤ c && c ≤ 57).foldl (fun n c => n * 10 + (c.toNat - 48 : ℤ)) 0
  let n := match s with
    | 45 :: s => -digits s
    | 43 :: s => digits s
    | s => digits s
  max (-2147483648) (min n 2147483647)

/-- What follows `strchr(version_str, '.')`, if there is a dot. -/
def afterDot (s : List UInt8) : Option (List UInt8) := (s.dropWhile (· ≠ 46)).tail?

namespace Preflight

/-- An event. -/
def emit (e : PreflightEvent) (s : Preflight) : Preflight := { s with log := e :: s.log }

/-- The worker goes to another place. -/
def goTo (p : PreflightPlace) (s : Preflight) : Preflight := { s with place := p }

/-- `lockdownd_client_free(lockdown)`, and `lockdown = NULL`. -/
def freeClient (s : Preflight) : Preflight :=
  match s.lockdown with
  | none => s
  | some h => { s with lockdown := none, freed := h :: s.freed }

/-- `lockdownd_client_new(dev, &lockdown)`, which has succeeded. -/
def newClient (s : Preflight) : Preflight := { s with lockdown := some s.next, next := s.next + 1 }

/-- `client_device_add`, and then `leave`. -/
def addAndLeave (why : PreflightEvent) (s : Preflight) : Preflight := ((s.emit why).emit .added).goTo .leave

/-- The `switch` on the error of the session. -/
def afterSession (error : LockdownError) (s : Preflight) : Preflight :=
  match error with
  | .invalidHostId => s.goTo .getVersion
  | .sslError => s.goTo .removeRecord
  | _ => { s with isDevicePaired := true, place := .getVersion }

/-- iOS 7 and later: after the monitoring. -/
def toPair (s : Preflight) : Preflight := { s with pairErr := .success, place := if s.isDevicePaired then .startService else .pair }

/-- The version is known. -/
def afterVersion (version : List UInt8) (s : Preflight) : Preflight :=
  match afterDot version with
  | none => { s with fault := some .noDot, place := .ended }
  | some minor =>
    let s : Preflight := { s with versionMajor := strtol version, versionMinor := strtol minor }
    if 7 ≤ s.versionMajor then
      if s.versionMajor = 7 then s.goTo .monitorOnce else s.toPair
    else s.goTo .pairOld

/-- The first `lockdownd_pair` of iOS 7 and later. -/
def afterPair (error : LockdownError) (s : Preflight) : Preflight :=
  let s : Preflight := { s with pairErr := error }
  match error with
  | .success => s.addAndLeave .paired
  | .userDeniedPairing => (s.emit .denied).goTo .leave
  | .passwordProtected => if s.versionMajor ≤ 7 ∧ s.versionMinor < 1 then s.goTo .setupCompleted else s.goTo .startService
  | _ => s.goTo .startService

/-- `IOS_8_SIGNAL_IS_PAIRED`. -/
def signalIsPaired (s : Preflight) : Preflight :=
  if 8 ≤ s.versionMajor then
    { s.emit .signalled with cbdata := s.cbdata.map fun c => { c with isPaired := true } }
  else s

/-- The condition of the loop. -/
def waits (s : Preflight) : Bool :=
  match s.cbdata with
  | none => false
  | some c => c.np && c.isDeviceConnected && !c.isPaired && decide (s.attempts ≥ 0)

/-- Whether `is_paired_signal` is set. -/
def isPaired (s : Preflight) : Bool :=
  match s.cbdata with
  | none => false
  | some c => c.isPaired

/-- Whether `cbdata.np` is there. -/
def hasNp (s : Preflight) : Bool :=
  match s.cbdata with
  | none => false
  | some c => c.np

/-- What follows the `lockdownd_pair` of the loop. -/
def afterLoopPair (error : LockdownError) (s : Preflight) : Preflight :=
  match error with
  | .userDeniedPairing => ((s.emit .denied).emit (.monitor false)).goTo .afterLoop
  | .muxError => { s.freeClient with attempts := s.attempts - 1, place := .loopClientNew }
  | .success => ((s.emit .paired).signalIsPaired).goTo .loop
  | _ => s.goTo .loop

/-- The next call of the worker. -/
def workerStep (a : PreflightAnswer) (s : Preflight) : Preflight :=
  match s.place with
  | .clientNew => if a.error = .success then s.newClient.goTo .queryType else s.goTo .leave
  | .queryType =>
    match a.text with
    | none => s.goTo .leave
    | some type => if type = cstr "com.apple.mobile.lockdown" then s.goTo .validate else s.addAndLeave .restoreMode
  | .validate =>
    let lerr := if a.hasLocalConfig then a.error else if a.ok then .success else .invalidHostId
    let s : Preflight := { s with isDevicePaired := false }
    if lerr = .success then s.goTo .startSession else s.afterSession lerr
  | .startSession => if a.error = .success then s.addAndLeave .session else s.afterSession a.error
  | .removeRecord => if a.ok then s.freeClient.goTo .clientNew else s.goTo .getVersion
  | .getVersion =>
    if a.error = .success then
      match a.text with
      | none => s.goTo .leave
      | some version => s.afterVersion version
    else s.goTo .leave
  | .monitorOnce => if a.ok then (s.emit (.monitor true)).toPair else (s.emit (.monitor true)).goTo .leave
  | .pair => s.afterPair a.error
  | .setupCompleted => if a.ok then s.goTo .startService else (s.emit .passwordProtected).goTo .leave
  | .startService =>
    if a.error = .success then s.goTo .npNew
    else
      let s := if s.pairErr = .passwordProtected then s.emit .passwordProtected else s
      (s.emit (.monitor false)).goTo .leave
  | .npNew => ({ s with np := a.ok }.emit .trustPending).goTo .createEvent
  | .createEvent =>
    if a.ok then
      { s with
        cbdata := some ⟨s.np, true, false⟩
        event := true
        callback := s.np
        attempts := 3
        place := .setCbData }
    else (s.emit .noEvent).goTo .leave
  | .setCbData => { s with cbDataSet := s.listed, place := .loop }
  | .loop => if s.waits then s.goTo .wait else s.goTo .afterLoop
  | .wait => if 8 ≤ s.versionMajor ∧ s.isPaired then s.goTo .afterLoop else s.goTo .loopPair
  | .loopPair => s.afterLoopPair a.error
  | .loopClientNew => if a.error = .success then s.newClient.goTo .loop else s.goTo .loop
  | .afterLoop => s.freeClient.goTo .clearCbData
  | .clearCbData => { s with cbDataSet := false, place := .clearCallback }
  | .clearCallback => if s.hasNp then { s with callback := false, np := false, place := .check } else s.goTo .check
  | .check =>
    if 8 ≤ s.versionMajor ∧ s.isPaired then ((s.emit .added).emit (.monitor false)).goTo .closeEvent
    else s.goTo .closeEvent
  | .closeEvent => { s with event := false, cbdata := none, place := .leave }
  | .pairOld =>
    if a.error = .success then (s.emit .paired).goTo .startSessionOld
    else if a.error = .passwordProtected then (s.emit .passwordProtected).goTo .leave
    else s.goTo .leave
  | .startSessionOld => if a.error = .success then (s.emit .session).goTo .validateOld else s.goTo .leave
  | .validateOld => if a.error = .success then (s.emit .added).goTo .leave else s.goTo .leave
  | .leave => (s.freeClient.emit .finished).goTo .ended
  | .ended => s

/-- A callback that is given the address of `cbdata`, if it is set. -/
def called (isSet : Bool) (f : Preflight → Preflight) (s : Preflight) : Preflight :=
  if isSet then
    if s.cbdata.isSome then f s else { s with fault := some .dangling }
  else s

/-- A client of lockdownd of `np_callback`, made and freed. -/
def ownClient (s : Preflight) : Preflight := { s with next := s.next + 1, freed := s.next :: s.freed }

/-- What another thread does. -/
def callbackStep (c : PreflightCallback) (s : Preflight) : Preflight :=
  match c with
  | .empty =>
    s.called s.callback fun s =>
      { s.emit .proxyLost with cbdata := s.cbdata.map fun c => { c with np := false }, callback := false }
  | .requestPair clientNew pair =>
    s.called s.callback fun s =>
      if clientNew = .success then
        if pair = .success then (s.ownClient.emit .paired).signalIsPaired else s.ownClient.signalIsPaired
      -- "is paired" is signalled, although nothing has been paired
      else s.signalIsPaired
  | .requestHostBuid clientNew => s.called s.callback fun s => if clientNew = .success then s.ownClient else s
  | .deviceRemove =>
    { s.called s.cbDataSet fun s => { s with cbdata := s.cbdata.map fun c => { c with isDeviceConnected := false } } with
      listed := false, cbDataSet := false }

/-- A step of one of the threads. -/
def step (s : Preflight) : PreflightStep → Preflight
  | .worker answer => s.workerStep answer
  | .callback c => s.callbackStep c

/-- A run of a worker. -/
def run (steps : List PreflightStep) : Preflight := steps.foldl step .init

end Preflight

end Usbmuxd
