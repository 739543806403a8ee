import Usbmuxd.Foundation.SlotTable
import Usbmuxd.Model.Wire
import Mathlib.Tactic.Simps.Basic

/-!
# The daemon's memory

The records of `device.cpp` and `client.cpp`, the two lists that hold them, and the
world outside: USB, sockets, the plist library, the configuration store and the clock.

## The model

* A pointer is a number. A record stays in its cell after `free`, and an address is
  never handed out twice, so a dangling pointer is one whose `free` is in the log.
* `Env` — what the outside answers. Every call to the outside uses up one tick of the
  world's clock, so an `Env` may answer each call as it likes.
* `World` — the cells, the lists, and `log`: what the daemon has done so far, in order.
  Undefined behaviour is an entry of the log (`Event.fault`), after which the function
  that ran into it does nothing more.

A client's socket and its record are made and released together, so a socket is named
by its client.
-/

namespace Usbmuxd

/-- The address of a record. -/
abbrev Ptr := ℕ

/-- A `struct usb_device *`, which the daemon only passes on. -/
abbrev UsbDevice := ℕ

/-! ### Records -/

/-- `enum mux_dev_state`. -/
inductive MuxDevState where
  /-- `MUXDEV_INIT`: sent version packet. -/
  | init
  /-- `MUXDEV_ACTIVE`: received version packet. -/
  | active
  /-- `MUXDEV_DEAD`. -/
  | dead
  deriving DecidableEq, Inhabited

/-- `enum mux_conn_state`. -/
inductive MuxConnState where
  /-- `CONN_CONNECTING`: SYN. -/
  | connecting
  /-- `CONN_CONNECTED`: SYN/SYNACK/ACK. -/
  | connected
  /-- `CONN_REFUSED`: RST received during SYN. -/
  | refused
  /-- `CONN_DYING`: RST received. -/
  | dying
  /-- `CONN_DEAD`: being freed. -/
  | dead
  deriving DecidableEq, Inhabited

/-- `enum client_state`. -/
inductive ClientState where
  /-- `CLIENT_COMMAND`: waiting for command. -/
  | command
  /-- `CLIENT_LISTEN`: listening for devices. -/
  | listen
  /-- `CLIENT_CONNECTING1`: issued connection request. -/
  | connecting1
  /-- `CLIENT_CONNECTING2`: connection established, waiting for the response to get sent. -/
  | connecting2
  /-- `CLIENT_CONNECTED`. -/
  | connected
  /-- `CLIENT_DEAD`. -/
  | dead
  deriving DecidableEq, Inhabited

/-- A mask of `POLLIN` and `POLLOUT`. -/
structure Events where
  pollin : Bool
  pollout : Bool
  deriving DecidableEq, Inhabited

/-- `struct mux_connection`. -/
structure MuxConnection where
  dev : Ptr
  client : Option Ptr
  state : MuxConnState
  sport : UInt16
  dport : UInt16
  txSeq : UInt32
  txAck : UInt32
  txAcked : UInt32
  txWin : UInt32
  rxSeq : UInt32
  rxAck : UInt32
  rxWin : UInt32
  maxPayload : UInt32
  sendable : UInt32
  /-- `flags & CONN_ACK_PENDING`, the only flag there is. -/
  ackPending : Bool
  ibBuf : Mem
  ibSize : UInt32
  ibCapacity : UInt32
  obBuf : Mem
  obCapacity : UInt32
  events : Events
  lastAckTime : UInt64
  deriving Inhabited

/-- `struct mux_device`. -/
structure MuxDevice where
  usbdev : UsbDevice
  id : ℕ
  state : MuxDevState
  visible : Bool
  /-- `none` until `collection_init`. -/
  connections : Option (SlotTable Ptr)
  nextSport : UInt16
  pktbuf : Mem
  pktlen : UInt32
  version : ℕ
  rxSeq : UInt16
  txSeq : UInt16
  /-- Whether `rx_data_events_socket` is a socket. -/
  rxDataEventsSocket : Bool
  isPreflightWorkerRunning : Bool
  deriving Inhabited

/-- `struct mux_client`; a buffer is `none` when its pointer is `NULL`. -/
structure MuxClient where
  obBuf : Option Mem
  obSize : UInt32
  obCapacity : UInt32
  ibBuf : Option Mem
  ibSize : UInt32
  ibCapacity : UInt32
  events : Events
  devents : Events
  connectTag : UInt32
  connectDevice : ℕ
  state : ClientState
  protoVersion : UInt32
  deriving Inhabited

/-- `struct device_info`; the serial number without its terminator. -/
structure DeviceInfo where
  id : ℕ
  location : UInt32
  serial : List UInt8
  pid : UInt16
  deriving DecidableEq

/-! ### The plist library -/

/-- A `plist_t` of the node types the daemon makes or looks into. -/
inductive Plist where
  | string (s : List UInt8)
  | uint (n : UInt64)
  | boolean (b : Bool)
  | data (bs : List UInt8)
  | dict (items : List (String × Plist))
  | array (items : List Plist)
  /-- A node of another type. -/
  | other

/-- The bytes of a string literal of the source. -/
def cstr (s : String) : List UInt8 := s.toUTF8.toList

/-- `plist_dict_get_item`: `NULL` for a missing key and for what is not a dictionary. -/
def Plist.getItem (key : String) : Plist → Option Plist
  | .dict items => (items.find? (·.1 = key)).map (·.2)
  | _ => none

/-- `plist_get_string_val` into a pointer that was `NULL`. -/
def Plist.stringVal : Plist → Option (List UInt8)
  | .string s => some s
  | _ => none

/-- `plist_get_uint_val` into a variable that was `0`. -/
def Plist.uintVal : Plist → UInt64
  | .uint n => n
  | _ => 0

/-! ### Messages to clients -/

/-- `enum usbmuxd_msgtype`. -/
inductive MsgType where
  | result
  | connect
  | listen
  | deviceAdd
  | deviceRemove
  | plist
  deriving DecidableEq

/-- The number of a message type. -/
def MsgType.code : MsgType → UInt32
  | .result => 1
  | .connect => 2
  | .listen => 3
  | .deviceAdd => 4
  | .deviceRemove => 5
  | .plist => 8

/-- `RESULT_OK`. -/
def resultOk : UInt32 := 0

/-- `RESULT_BADCOMMAND`. -/
def resultBadcommand : UInt32 := 1

/-- `RESULT_BADDEV`. -/
def resultBaddev : UInt32 := 2

/-- `RESULT_CONNREFUSED`. -/
def resultConnrefused : UInt32 := 3

/-- `RESULT_BADVERSION`. -/
def resultBadversion : UInt32 := 6

/-- `sizeof(struct usbmuxd_header)`. -/
def usbmuxdHeaderSize : UInt32 := 16

/-- A notification about pairing, by its `MessageType`. -/
inductive PairingEvent where
  | removedDuringAdd
  | trustPending
  | passwordProtected
  | userDeniedPairing
  | errorDeviceAlreadyExists
  deriving DecidableEq

/-- The `MessageType` of a pairing notification. -/
def PairingEvent.text : PairingEvent → String
  | .removedDuringAdd => "RemovedDuringAdd"
  | .trustPending => "TrustPending"
  | .passwordProtected => "PasswordProtected"
  | .userDeniedPairing => "UserDeniedPairing"
  | .errorDeviceAlreadyExists => "ErrorDeviceAlreadyExists"

/-! ### The outside -/

/-- What `usb_process` has the mux layer do for one of its pending commands. -/
inductive UsbAction where
  /-- `device_add`. -/
  | deviceAdd (u : UsbDevice)
  /-- `device_remove`. -/
  | deviceRemove (u : UsbDevice)
  /-- `device_add_failed`. -/
  | deviceAddFailed (u : UsbDevice)
  /-- `client_device_error_already_exits`. -/
  | errorAlreadyExists (info : DeviceInfo)

/-- The answers of the outside. The first argument is the tick of the call. -/
structure Env where
  /-- Whether `usb_send` succeeds. -/
  usbSend : ℕ → Bool
  /-- How many bytes `send` would take; `0` when it fails, which no caller tells apart. -/
  send : ℕ → ℕ
  /-- What `recv` would deliver; nothing when it fails or the socket is closed. -/
  recv : ℕ → List UInt8
  /-- Whether `realloc` succeeds. -/
  realloc : ℕ → Bool
  /-- `mstime64`. -/
  mstime64 : ℕ → UInt64
  /-- `plist_to_xml`. -/
  plistToXml : ℕ → Plist → Option (List UInt8)
  /-- `plist_from_xml`. -/
  plistFromXml : List UInt8 → Option Plist
  /-- `usb_get_location`, `usb_get_serial` and `usb_get_pid`. -/
  usbInfo : UsbDevice → UInt32 × List UInt8 × UInt16
  /-- Whether `MCE_INCLUDE_HIDDEN_DEVICES` is set to `true`. -/
  includeHidden : ℕ → Bool
  /-- `config_get_system_buid`. -/
  getSystemBuid : ℕ → List UInt8
  /-- `config_get_device_record`. -/
  getDeviceRecord : ℕ → List UInt8 → Option (List UInt8)
  /-- The error of `config_set_device_record`, `0` for success. -/
  setDeviceRecord : ℕ → List UInt8 → List UInt8 → UInt32
  /-- The error of `config_remove_device_record`, `0` for success. -/
  removeDeviceRecord : ℕ → List UInt8 → UInt32
  /-- What a call of `usb_process` does. -/
  usbProcess : ℕ → List UsbAction

/-- Undefined behaviour. -/
inductive Fault where
  /-- A connection, a client or a device is used after its `free`. -/
  | freedConn
  | freedClient
  | freedDev
  /-- A `NULL` pointer is followed. -/
  | nullClient
  | nullConn
  | nullIbBuf
  | nullObBuf
  | nullString
  /-- `dev->connections` is used before `collection_init`. -/
  | uninitConnections
  deriving DecidableEq

/-- The kind of a command queued for `usb_process`. -/
inductive PendingCommand where
  | add
  | remove
  | setMonitor (always : Bool)
  deriving DecidableEq

/-- The loops and recursions that count their steps in the model. -/
inductive FuelLoop where
  /-- `client_close` and `connection_teardown`. -/
  | teardown
  /-- The flush loop of `connection_teardown`. -/
  | flush
  /-- `find_sport`. -/
  | findSport
  /-- The drain loop of `device_process_sockets`. -/
  | drain
  deriving DecidableEq

/-- An entry of the log. -/
inductive Event where
  /-- A buffer handed to `usb_send`. -/
  | usbSend (d : Ptr) (bytes : List UInt8) (ok : Bool)
  /-- A call of `send_tcp`. -/
  | segment (p : Ptr) (th : TcpHdr) (data : List UInt8) (ok : Bool)
  /-- A call of `device_version_input`. -/
  | versionInput (d : Ptr) (vh : VersionHeader)
  /-- A call of `device_control_input`. -/
  | controlInput (d : Ptr) (payload : List UInt8)
  /-- A call of `device_tcp_input`. -/
  | tcpInput (d : Ptr) (th : TcpHdr) (payload : List UInt8)
  /-- `device_start_connect` makes a connection, `client_accept` a client. -/
  | start (p : Ptr)
  | newClient (c : Ptr)
  /-- A `SYN|ACK` moves a connection's sequence numbers past the handshake. -/
  | synAck (p : Ptr)
  /-- `connection_device_input` appends a payload. -/
  | accepted (p : Ptr) (bs : List UInt8)
  /-- `connection_device_input` has no room for a payload. -/
  | overflow (p : Ptr) (bs : List UInt8)
  /-- Bytes of the in-buffer of `p` taken by `client_write`. -/
  | wrote (p c : Ptr) (bs : List UInt8)
  /-- Bytes returned by `client_read` for `p`. -/
  | read (p c : Ptr) (bs : List UInt8)
  /-- Bytes of a client's reply buffer taken by `send`. -/
  | sent (c : Ptr) (bs : List UInt8)
  /-- A message put in a client's reply buffer. -/
  | queued (c : Ptr) (tag : UInt32) (msg : MsgType) (payload : List UInt8)
  /-- Notifications queued to a listening client. -/
  | attached (c : Ptr) (id : ℕ)
  | detached (c : Ptr) (id : ℕ)
  | pairing (c : Ptr) (id : ℕ) (event : PairingEvent)
  /-- A call of `process_recv`, and whether the command buffer exists. -/
  | processRecv (c : Ptr) (hasIbBuf : Bool)
  /-- A command for `usb_process`. -/
  | pending (cmd : PendingCommand) (location : UInt32)
  /-- `preflight_worker_device_add` starts a thread for the device with this id. -/
  | preflight (id : ℕ)
  /-- `closesocket` and `free` of a client, `free` of a connection and of a device. -/
  | closeSocket (c : Ptr)
  | freeClient (c : Ptr)
  | freeConn (p : Ptr)
  | freeDev (d : Ptr)
  | fault (f : Fault)
  /-- A loop or a recursion of the model was cut short. -/
  | outOfFuel (loop : FuelLoop)
  deriving DecidableEq

/-! ### The world -/

/-- The daemon's memory and history. -/
structure World where
  conns : Ptr → MuxConnection
  clients : Ptr → MuxClient
  devs : Ptr → MuxDevice
  clientList : SlotTable Ptr
  deviceList : SlotTable Ptr
  nextDeviceId : ℕ
  /-- The next address. -/
  fresh : Ptr
  /-- The number of calls to the outside so far. -/
  tick : ℕ
  log : List Event

/-- `CAPACITY_STEP`. -/
def capacityStep : ℕ := 8

namespace World

/-- After `client_init` and `device_init`. -/
def init : World where
  conns := default
  clients := default
  devs := default
  clientList := .init capacityStep
  deviceList := .init capacityStep
  nextDeviceId := 1
  fresh := 1
  tick := 0
  log := []

variable (w : World)

/-- Add an entry to the log. -/
@[simps -fullyApplied]
def emit (e : Event) : World := { w with log := w.log ++ [e] }

/-- A call to the outside was made. -/
@[simps -fullyApplied]
def tock : World := { w with tick := w.tick + 1 }

/-- Change a connection. -/
@[simps -fullyApplied]
def setConn (p : Ptr) (f : MuxConnection → MuxConnection) : World :=
  { w with conns := Function.update w.conns p (f (w.conns p)) }

/-- Change a client. -/
@[simps -fullyApplied]
def setClient (c : Ptr) (f : MuxClient → MuxClient) : World :=
  { w with clients := Function.update w.clients c (f (w.clients c)) }

/-- Change a device. -/
@[simps -fullyApplied]
def setDev (d : Ptr) (f : MuxDevice → MuxDevice) : World :=
  { w with devs := Function.update w.devs d (f (w.devs d)) }

/-- The record at `c` has been freed. -/
def clientFreed (c : Ptr) : Bool := w.log.any fun e => match e with
  | .freeClient c' => c' == c
  | _ => false

/-- The record at `p` has been freed. -/
def connFreed (p : Ptr) : Bool := w.log.any fun e => match e with
  | .freeConn p' => p' == p
  | _ => false

/-- The record at `d` has been freed. -/
def devFreed (d : Ptr) : Bool := w.log.any fun e => match e with
  | .freeDev d' => d' == d
  | _ => false

theorem clientFreed_iff {c : Ptr} : w.clientFreed c = true ↔ .freeClient c ∈ w.log := by
  rw [clientFreed, List.any_eq_true]
  constructor
  · rintro ⟨e, he, h⟩
    cases e <;> simp_all
  · intro h
    exact ⟨_, h, by simp⟩

theorem connFreed_iff {p : Ptr} : w.connFreed p = true ↔ .freeConn p ∈ w.log := by
  rw [connFreed, List.any_eq_true]
  constructor
  · rintro ⟨e, he, h⟩
    cases e <;> simp_all
  · intro h
    exact ⟨_, h, by simp⟩

theorem devFreed_iff {d : Ptr} : w.devFreed d = true ↔ .freeDev d ∈ w.log := by
  rw [devFreed, List.any_eq_true]
  constructor
  · rintro ⟨e, he, h⟩
    cases e <;> simp_all
  · intro h
    exact ⟨_, h, by simp⟩

/-- The `device_info` of a device. -/
def deviceInfo (env : Env) (d : Ptr) : DeviceInfo :=
  let dev := w.devs d
  let (location, serial, pid) := env.usbInfo dev.usbdev
  { id := dev.id, location, serial, pid }

end World

end Usbmuxd
