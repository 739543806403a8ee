import Mathlib.Data.Nat.Notation

/-!
# Sending to the driver

The functions of `usb-mce.cpp` that a packet buffer goes through on its way to a device, and
the thread that waits for the transfers that are still pending: `usb_send`,
`usb_write_thread_proc`, and what `usb_disconnect` does to stop the thread. The buffer comes
from `send_packet` of `device.cpp`, which frees it if `usb_send` fails.

## The model

The main thread and the write thread of one device share the queue `tx.q`, the handle
`tx.thread` and the event `tx.writeThreadStop`. A thread is a place in its code, and
`transmitStep` lets one of them go to its next place; the steps carry what the plugin and the
system answer. A step that the thread is not ready for does nothing, so every list of steps is
an interleaving. Buffers are numbered in the order of their `malloc`.

The `OVERLAPPED`s are recycled through `tx.pool` and are left out, except that the element
that wakes up the thread to stop it has none. So are the mutex of the write threads, and the
read thread, which `usb_disconnect` stops first.
-/

namespace Usbmuxd

/-- A packet buffer. -/
abbrev Buffer := ℕ

/-- `usb_device_tx_q_element`. -/
structure TxElement where
  /-- Whether `theOverLapped` is there. -/
  overlapped : Bool
  buffer : Option Buffer
  deriving DecidableEq

/-- Where the main thread is. -/
inductive SenderPlace where
  /-- In none of the functions. -/
  | idle
  /-- In `usb_send`, in front of the transfer of a packet. -/
  | data (buffer : Buffer) (length : ℕ)
  /-- In `usb_send`, in front of the transfer of no bytes. -/
  | zero (buffer : Buffer)
  /-- In `send_packet`: `usb_send` has failed. -/
  | failed (buffer : Buffer)
  /-- In `usb_disconnect`: the event is set. -/
  | stopping
  /-- In `usb_disconnect`, waiting for the write thread. -/
  | joining
  /-- After `usb_disconnect`, which has not waited for the end of the write thread. -/
  | gone
  /-- After `ExitProcess`. -/
  | exited
  deriving DecidableEq

/-- Where the write thread is. -/
inductive WriterPlace where
  /-- It has not been started, or has ended. -/
  | off
  /-- In front of `wait_dequeue`. -/
  | waiting
  /-- It has taken an element from the queue. -/
  | taken (e : TxElement)
  /-- It is not to stop, and waits for the transfer of the element. -/
  | finishing (e : TxElement)
  /-- It cleans what remains in the queue. -/
  | draining
  deriving DecidableEq

/-- What the two threads share, and where they are. -/
structure Transmit where
  main : SenderPlace
  writer : WriterPlace
  /-- Whether `tx.thread` is a handle, of a thread that runs or has ended. -/
  thread : Bool
  /-- `tx.writeThreadStop`, and whether it is signalled. -/
  writeThreadStop : Option Bool
  /-- `tx.q`. -/
  queue : List TxElement
  /-- The number of the next buffer. -/
  next : Buffer
  /-- The calls of `free`, the last one first. -/
  freed : List Buffer
  deriving DecidableEq

/-- A device that nothing has been sent to. -/
def Transmit.init : Transmit := ⟨.idle, .off, false, none, [], 0, []⟩

/-- What `com_plugin_transfer` answers. -/
inductive Transferred where
  /-- `COM_OK`. -/
  | completed
  /-- `ERROR_IO_PENDING`. -/
  | pending
  | failed
  deriving DecidableEq

/-- A step of one of the threads. -/
inductive TransmitStep where
  /-- `send_packet` makes a packet and calls `usb_send`. -/
  | send (length : ℕ)
  /-- The transfer of the packet, and whether `com_plugin_get_transfer_result` succeeds. -/
  | transfer (r : Transferred) (result : Bool)
  /-- The transfer of no bytes: whether it completes, and whether `com_plugin_get_transfer_result` succeeds. -/
  | zeroTransfer (completed result : Bool)
  /-- The error branch of `send_packet`. -/
  | freeBuffer
  /-- `usb_start_write_thread`, and whether it succeeds. -/
  | startWriteThread (ok : Bool)
  /-- `SetEvent` in `usb_disconnect`. -/
  | setEvent
  /-- The element that wakes up the write thread. -/
  | enqueueStop
  /-- The write thread has ended. -/
  | joined
  /-- The main thread goes on without it. -/
  | timedOut
  /-- `wait_dequeue`. -/
  | dequeue
  /-- The write thread looks at the event. -/
  | checkStop
  /-- It waits for the transfer, whatever it comes to. -/
  | finish
  /-- `try_dequeue`. -/
  | drain
  deriving DecidableEq

namespace Transmit

/-- `free`, of a buffer that is not `NULL`. -/
def free (s : Transmit) : Option Buffer → Transmit
  | none => s
  | some b => { s with freed := b :: s.freed }

/-- `tx.q.enqueue`. -/
def enqueue (s : Transmit) (e : TxElement) : Transmit := { s with queue := s.queue ++ [e] }

/-- `ReUseTXQElement`. -/
def reuse (s : Transmit) (e : TxElement) : Transmit := s.free e.buffer

/-- `usb_send` after the transfer of the packet, which has not failed. -/
def afterData (maxPacketSize : ℕ) (b : Buffer) (length : ℕ) (s : Transmit) : Transmit :=
  { s with main := if length % maxPacketSize = 0 then .zero b else .idle }

/-- `usb_send` up to the transfer of the packet. -/
def transferData (maxPacketSize : ℕ) (b : Buffer) (length : ℕ) (r : Transferred) (result : Bool) (s : Transmit) :
    Transmit :=
  let e : TxElement := ⟨true, some b⟩
  match r with
  | .completed => (s.reuse e).afterData maxPacketSize b length
  | .pending =>
    if s.thread then (s.enqueue e).afterData maxPacketSize b length
    else if result then (s.reuse e).afterData maxPacketSize b length
    else { s.reuse e with main := .exited }
  | .failed => { s with main := .exited }

/-- The rest of `usb_send`: whether the transfer of no bytes is pending or has failed is not asked. -/
def transferZero (b : Buffer) (completed result : Bool) (s : Transmit) : Transmit :=
  let ze : TxElement := ⟨true, none⟩
  if completed then { s.reuse ze with main := .idle }
  else if s.thread then { s.enqueue ze with main := .idle }
  else { s.reuse ze with main := if result then .idle else .failed b }

/-- A step of the main thread. -/
def mainStep (maxPacketSize : ℕ) (s : Transmit) : TransmitStep → Transmit
  | .send length => if s.main = .idle then { s with main := .data s.next length, next := s.next + 1 } else s
  | .transfer r result =>
    match s.main with
    | .data b length => s.transferData maxPacketSize b length r result
    | _ => s
  | .zeroTransfer completed result =>
    match s.main with
    | .zero b => s.transferZero b completed result
    | _ => s
  | .freeBuffer =>
    match s.main with
    | .failed b => { s.free (some b) with main := .idle }
    | _ => s
  | .startWriteThread ok =>
    if s.main = .idle ∧ s.writer = .off then
      { s with thread := ok, writeThreadStop := some false, writer := if ok then .waiting else .off }
    else s
  | .setEvent =>
    if s.main = .idle ∧ s.writeThreadStop.isSome then { s with main := .stopping, writeThreadStop := some true } else s
  | .enqueueStop => if s.main = .stopping then { s.enqueue ⟨false, none⟩ with main := .joining } else s
  | .joined => if s.main = .joining ∧ s.writer = .off then { s with main := .idle } else s
  | .timedOut => if s.main = .joining then { s with main := .gone } else s
  | _ => s

/-- A step of the write thread. -/
def writerStep (s : Transmit) : TransmitStep → Transmit
  | .dequeue =>
    match s.writer, s.queue with
    | .waiting, e :: queue => { s with writer := .taken e, queue }
    | _, _ => s
  | .checkStop =>
    match s.writer with
    | .taken e =>
      -- the wait resets the event, and the element is not looked at
      if s.writeThreadStop = some true then { s with writer := .draining, writeThreadStop := some false }
      else { s with writer := .finishing e }
    | _ => s
  | .finish =>
    match s.writer with
    | .finishing e => { if e.overlapped then s.reuse e else s with writer := .waiting }
    | _ => s
  | .drain =>
    match s.writer, s.queue with
    | .draining, e :: queue => { s.free e.buffer with queue }
    | .draining, [] => { s with writer := .off }
    | _, _ => s
  | _ => s

end Transmit

/-- A step of one of the threads, unless the process has ended. -/
def transmitStep (maxPacketSize : ℕ) (s : Transmit) (step : TransmitStep) : Transmit :=
  if s.main = .exited then s else (s.mainStep maxPacketSize step).writerStep step

end Usbmuxd
