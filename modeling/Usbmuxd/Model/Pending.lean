import Usbmuxd.Model.Usb

/-!
# Commands that are waited for

The queue `g_pending_devices` between the threads that call `usb_set_device_monitoring` and
the main thread in `usb_process`. A call makes an event, puts it in the queue with its
command, waits for it with a timeout, and closes it. The main thread sets the event when the
command has succeeded.

## The model

A call of `usb_set_device_monitoring` is a number, and a place in the code; a thread may make
any number of calls, one after the other. `pendingStep` lets one of the calls or the main
thread go to its next place, and the steps carry what the system answers. A step that its
party is not ready for does nothing, so every list of steps is an interleaving. The queue is
locked while the main thread is in `usb_process`.

A handle is a number that stands for an event. Once it has been closed, `CreateEvent` may
give it out again, for another event.

`CompletionEvent.call`, `KernelEvent.call`, `executed` and `misused` are not part of the
program: they record whose event a handle was when it was put in the queue, whose it is, what
the commands have returned, and whether `SetEvent` has been called with a handle that is closed.
-/

namespace Usbmuxd

/-- A `HANDLE` of an event. -/
abbrev EventHandle := ℕ

/-- An event that a wait resets. -/
structure KernelEvent where
  /-- The call that has created it. -/
  call : ℕ
  signalled : Bool

/-- `completion_event` of a command. -/
structure CompletionEvent where
  handle : EventHandle
  /-- The call that has put it there. -/
  call : ℕ

/-- `PENDING_DEVICE_COMMAND`. -/
structure QueuedCommand where
  command : UsbCommand
  /-- None for `NULL`. -/
  completionEvent : Option CompletionEvent

/-- Where a call of `usb_set_device_monitoring` is. -/
inductive CallPlace where
  /-- In front of `CreateEvent`. -/
  | called
  /-- In front of `usb_append_device_command`. -/
  | created (handle : EventHandle) (location : UInt32) (monitor : DeviceMonitorState)
  /-- In `WaitForSingleObject`. -/
  | waiting (handle : EventHandle)
  /-- In front of `SAFE_CLOSE_HANDLE`: whether the wait returned `WAIT_OBJECT_0`, and what the
  command had returned by then. -/
  | waited (handle : EventHandle) (ok : Bool) (executed : Option Int)
  /-- It has returned. -/
  | returned (ret : Int) (executed : Option Int)
  deriving DecidableEq

/-- Where the main thread is. -/
inductive ProcessPlace where
  /-- Outside `usb_process`. -/
  | idle
  /-- At the head of the loop, with the number of commands that are left. -/
  | looping (left : ℕ)
  /-- It executes a command. -/
  | executing (command : QueuedCommand) (left : ℕ)

/-- The calls, the main thread, and what they share. -/
structure Pending where
  calls : ℕ → CallPlace
  main : ProcessPlace
  /-- `g_pending_devices`. -/
  queue : List QueuedCommand
  /-- The handles that are open, with their events. -/
  handles : EventHandle → Option KernelEvent
  /-- What the commands are about. -/
  daemon : Daemon
  executed : ℕ → Option Int
  misused : Bool

/-- Nothing has been asked for. -/
def Pending.init (daemon : Daemon) : Pending where
  calls := fun _ => .called
  main := .idle
  queue := []
  handles := fun _ => none
  daemon
  executed := fun _ => none
  misused := false

/-- A step of one of the parties. -/
inductive PendingStep where
  /-- `CreateEvent`, and the handle it returns unless it fails. -/
  | create (call : ℕ) (location : UInt32) (monitor : DeviceMonitorState) (handle : Option EventHandle)
  /-- `usb_append_device_command`. -/
  | append (call : ℕ)
  /-- The wait returns `WAIT_OBJECT_0`. -/
  | wake (call : ℕ)
  /-- The wait times out or fails. -/
  | timeout (call : ℕ)
  /-- `SAFE_CLOSE_HANDLE`, and the return. -/
  | close (call : ℕ)
  /-- `usb_append_device_command` elsewhere, without an event. -/
  | appendOther (command : UsbCommand)
  /-- The main thread enters `usb_process`. -/
  | process
  /-- `RemoveHead`. -/
  | take
  /-- The command is executed, with what it is answered. -/
  | execute (o : Outcome)
  /-- The main thread leaves `usb_process`. -/
  | leave
  /-- The main thread changes the daemon outside `usb_process`. -/
  | elsewhere (daemon : Daemon)

namespace Pending

/-- `SetEvent`. -/
def setEvent (s : Pending) (h : EventHandle) : Pending :=
  match s.handles h with
  | some e => { s with handles := Function.update s.handles h (some { e with signalled := true }) }
  | none => { s with misused := true }

/-- `usb_append_device_command`. -/
def appendCommand (s : Pending) (command : UsbCommand) (completionEvent : Option CompletionEvent) : Pending :=
  { s with queue := s.queue ++ [⟨command, completionEvent⟩] }

/-- A call goes to another place. -/
def goTo (s : Pending) (call : ℕ) (place : CallPlace) : Pending :=
  { s with calls := Function.update s.calls call place }

/-- A step of a call. -/
def callerStep (s : Pending) : PendingStep → Pending
  | .create call location monitor handle =>
    if s.calls call = .called then
      match handle with
      | none => s.goTo call (.returned (-1) none)
      | some h =>
        -- a handle that is open is not given out again
        if (s.handles h).isSome then s
        else { s.goTo call (.created h location monitor) with
          handles := Function.update s.handles h (some ⟨call, false⟩) }
    else s
  | .append call =>
    match s.calls call, s.main with
    | .created h location monitor, .idle =>
      (s.goTo call (.waiting h)).appendCommand (.setMonitor location monitor) (some ⟨h, call⟩)
    | _, _ => s
  | .wake call =>
    match s.calls call with
    | .waiting h =>
      match s.handles h with
      | some ⟨owner, true⟩ => { s.goTo call (.waited h true (s.executed call)) with
          handles := Function.update s.handles h (some ⟨owner, false⟩) }
      | _ => s
    | _ => s
  | .timeout call =>
    match s.calls call with
    | .waiting h =>
      match s.handles h with
      | some ⟨_, true⟩ => s
      | _ => s.goTo call (.waited h false (s.executed call))
    | _ => s
  | .close call =>
    match s.calls call with
    | .waited h ok executed => { s.goTo call (.returned (if ok then 0 else -1) executed) with
        handles := Function.update s.handles h none }
    | _ => s
  | .appendOther command =>
    match s.main with
    | .idle => s.appendCommand command none
    | _ => s
  | _ => s

/-- What a command returns. Only `usb_handle_device_monitor_command` comes with the event of a call. -/
def commandResult (command : UsbCommand) (daemon : Daemon) : Int :=
  match command with
  | .setMonitor location monitor => usbDeviceMonitorResult location monitor daemon
  | _ => 0

/-- The end of a command with an event: `SetEvent` if it returns `0`. -/
def finish (s : Pending) (e : CompletionEvent) (ret : Int) : Pending :=
  let s := { s with executed := Function.update s.executed e.call (some ret) }
  if ret = 0 then s.setEvent e.handle else s

/-- A step of the main thread. -/
def processStep (env : Env) (s : Pending) : PendingStep → Pending
  | .process =>
    match s.main with
    | .idle => { s with main := .looping s.queue.length }
    | _ => s
  | .take =>
    match s.main, s.queue with
    | .looping (left + 1), command :: queue => { s with main := .executing command left, queue }
    | _, _ => s
  | .execute o =>
    match s.main with
    | .executing command left =>
      let ret := commandResult command.command s.daemon
      let s := { s with main := .looping left, daemon := usbCommand env o command.command s.daemon }
      match command.completionEvent with
      | some e => s.finish e ret
      | none => s
    | _ => s
  | .leave =>
    match s.main with
    | .looping 0 => { s with main := .idle }
    | _ => s
  | .elsewhere daemon =>
    match s.main with
    | .idle => { s with daemon }
    | _ => s
  | _ => s

end Pending

/-- A step of one of the parties: each step is a step of only one of them. -/
def pendingStep (env : Env) (s : Pending) (step : PendingStep) : Pending := (s.callerStep step).processStep env step

/-- A run of all parties. -/
def pendingRun (env : Env) (steps : List PendingStep) (s : Pending) : Pending := steps.foldl (pendingStep env) s

end Usbmuxd
