import Usbmuxd.Model.Device

/-!
# Receiving from the driver

The read thread of a device (`usb_read_thread_proc`, with `usb_start_read`) and the part of the
main thread that takes what it has read (`device_process_sockets`, with `usb_get_read_result`).
They share one buffer, and take turns with it: a byte on a socket says that there is data, and
a byte back says that it has been used.

## The model

A thread is a place in its code, and `receiveStep` lets one of the threads or the plugin go to
its next place; the steps carry what the plugin answers. A step that its party is not ready for
does nothing, so every list of steps is an interleaving. The socket is reliable, and what the
bytes on it are does not matter, so they are counted. The waits for the events succeed or time
out. What one call of `device_data_input` does is `Usbmuxd.deviceDataInput`; here the loop only
advances by what it returns.

`completed` and `passed` are not part of the program: they record the reads that have completed
successfully, and those that `device_process_sockets` has begun to pass on.
-/

namespace Usbmuxd

/-- What a read has put in the buffer, and its size. -/
abbrev Contents := Mem × UInt32

/-- Where the read thread is. -/
inductive ReaderPlace where
  /-- In front of `usb_start_read`. -/
  | starting
  /-- In `usb_start_read`, in front of `com_plugin_transfer`. -/
  | transferring
  /-- In front of `WaitForMultipleObjects`. -/
  | waiting
  /-- In front of `send`. -/
  | sending
  /-- In front of `recv`. -/
  | receiving
  /-- It has ended. -/
  | ended
  deriving DecidableEq

/-- Where the main thread is. -/
inductive ReceiverPlace where
  /-- Not at this device. -/
  | idle
  /-- In front of `usb_get_read_result`. -/
  | woken
  /-- In the loop around `device_data_input`: the size of the data, and how much of it has been processed. -/
  | passing (size processed : UInt32)
  deriving DecidableEq

/-- What the plugin knows of the read. -/
inductive ReadState where
  /-- There has been none. -/
  | none
  | pending
  /-- It has completed with this many bytes. -/
  | completed (size : UInt32)
  | failed
  deriving DecidableEq

/-- The threads, the plugin, and what they share. -/
structure Receive where
  reader : ReaderPlace
  main : ReceiverPlace
  read : ReadState
  /-- `rx.buffer`. -/
  buffer : Mem
  /-- `rx.data_size`. -/
  dataSize : UInt32
  /-- Whether `rx.overlapped.hEvent` is signalled. -/
  event : Bool
  /-- Whether `rx.thread_stop_event` is signalled. -/
  stopEvent : Bool
  /-- Bytes on their way from the read thread to the main thread. -/
  toMain : ℕ
  /-- Bytes on their way back. -/
  toReader : ℕ
  /-- Whether the main thread has accepted the socket. -/
  accepted : Bool
  /-- Whether the device is on the device list. -/
  registered : Bool
  completed : List Contents
  passed : List Contents

/-- The read thread has been started. -/
def Receive.init (buffer : Mem) (dataSize : UInt32) (event : Bool) : Receive where
  reader := .starting
  main := .idle
  read := .none
  buffer
  dataSize
  event
  stopEvent := false
  toMain := 0
  toReader := 0
  accepted := false
  registered := true
  completed := []
  passed := []

/-- What `com_plugin_transfer` answers. -/
inductive ReadAnswer where
  /-- `COM_OK`. -/
  | completed (t : Transfer)
  /-- `ERROR_IO_PENDING`. -/
  | pending
  | failed

/-- A step of one of the parties. -/
inductive ReceiveStep where
  /-- The beginning of `usb_start_read`. -/
  | resetEvent
  /-- `com_plugin_transfer`. -/
  | startRead (answer : ReadAnswer)
  /-- `WaitForMultipleObjects`. -/
  | wait
  /-- The read thread sends its byte. -/
  | sendData
  /-- The read thread gets the answer, or finds the socket closed. -/
  | recvAnswer
  /-- A pending read completes, or fails. -/
  | complete (t : Option Transfer)
  /-- `device_accept_socket`. -/
  | accept
  /-- The main thread finds the byte of the read thread. -/
  | recvData
  /-- `usb_get_read_result`. -/
  | getReadResult
  /-- A call of `device_data_input`, and what it returns. -/
  | dataInput (consumed : UInt32)
  /-- The loop is over, and the main thread answers. -/
  | sendAnswer
  /-- `device_remove`. -/
  | remove
  /-- `usb_disconnect` tells the read thread to stop, after `device_remove`. -/
  | setStopEvent

namespace Receive

/-- The bytes of a read are in the buffer. -/
def fill (s : Receive) (t : Transfer) : Receive :=
  { s with buffer := t.buffer, read := .completed t.size, completed := s.completed ++ [(t.buffer, t.size)] }

/-- `com_plugin_transfer` in `usb_start_read`, which signals the event itself if the read has completed. -/
def transferred (s : Receive) : ReadAnswer → Receive
  | .completed t => { s.fill t with dataSize := t.size, event := true, reader := .waiting }
  | .pending => { s with read := .pending, reader := .waiting }
  | .failed => { s with read := .failed, reader := .ended }

/-- A step of the read thread. -/
def readerStep (s : Receive) : ReceiveStep → Receive
  | .resetEvent => if s.reader = .starting then { s with event := false, dataSize := 0, reader := .transferring } else s
  | .startRead answer => if s.reader = .transferring then s.transferred answer else s
  | .wait =>
    if s.reader = .waiting then
      -- of two events that are signalled, the first one counts
      if s.stopEvent then { s with stopEvent := false, reader := .ended }
      else if s.event then { s with event := false, reader := .sending }
      else s
    else s
  | .sendData => if s.reader = .sending then { s with toMain := s.toMain + 1, reader := .receiving } else s
  | .recvAnswer =>
    if s.reader = .receiving then
      if 0 < s.toReader then { s with toReader := s.toReader - 1, reader := .starting }
      else if s.registered then s
      else { s with reader := .ended }
    else s
  | _ => s

/-- A step of the plugin. -/
def pluginStep (s : Receive) : ReceiveStep → Receive
  | .complete t =>
    if s.read = .pending then
      match t with
      | some t => { s.fill t with event := true }
      | none => { s with read := .failed, event := true }
    else s
  | _ => s

/-- `usb_get_read_result`, with the data and its size if it succeeds. -/
def usbGetReadResult (s : Receive) : Receive × Option Contents :=
  if s.dataSize = 0 then
    match s.read with
    | .completed size => ({ s with dataSize := size }, some (s.buffer, size))
    | _ => (s, none)
  else (s, some (s.buffer, s.dataSize))

/-- A step of the main thread. -/
def mainStep (s : Receive) : ReceiveStep → Receive
  | .accept => if s.main = .idle ∧ s.registered then { s with accepted := true } else s
  | .recvData =>
    if s.main = .idle ∧ s.registered ∧ s.accepted ∧ 0 < s.toMain then { s with toMain := s.toMain - 1, main := .woken }
    else s
  | .getReadResult =>
    if s.main = .woken then
      match s.usbGetReadResult with
      | (s, none) => { s with main := .idle }
      | (s, some data) => { s with main := .passing data.2 0, passed := s.passed ++ [data] }
    else s
  | .dataInput consumed =>
    match s.main with
    | .passing size processed => if processed < size then { s with main := .passing size (processed + consumed) } else s
    | _ => s
  | .sendAnswer =>
    match s.main with
    | .passing size processed => if processed < size then s else { s with main := .idle, toReader := s.toReader + 1 }
    | _ => s
  | .remove => if s.main = .idle then { s with registered := false } else s
  | .setStopEvent => if s.main = .idle ∧ !s.registered then { s with stopEvent := true } else s
  | _ => s

end Receive

/-- A step of one of the parties: each step is a step of only one of them. -/
def receiveStep (s : Receive) (step : ReceiveStep) : Receive := ((s.readerStep step).pluginStep step).mainStep step

/-- A run of all parties. -/
def receiveRun (steps : List ReceiveStep) (s : Receive) : Receive := steps.foldl receiveStep s

end Usbmuxd
