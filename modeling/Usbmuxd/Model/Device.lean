import Usbmuxd.Model.Connection

/-!
# Mux devices

The part of `device.cpp` that takes what a device sends apart and hands it to the
protocol handlers, and the life of a device from `device_add` to `device_remove`.

`device_data_input` is in two parts: `decode`, which only looks at the bytes and at the
device's reassembly buffer (`Framing`), and `dispatch`, which calls the handler.
-/

namespace Usbmuxd

open World

/-! ### Handlers -/

/-- `preflight_worker_device_add`: start a thread for the device. -/
def preflightWorkerDeviceAdd (id : ℕ) (w : World) : World := w.emit (.preflight id)

/-- Take a device off the list and free it. -/
@[simps -fullyApplied]
def releaseDev (d : Ptr) (w : World) : World :=
  { w with deviceList := w.deviceList.remove d, log := w.log ++ [.freeDev d] }

/-- `device_version_input`. -/
def deviceVersionInput (env : Env) (d : Ptr) (vh : VersionHeader) (w : World) : World :=
  let w := w.emit (.versionInput d vh)
  if (w.devs d).state ≠ .init then w
  else if vh.major ≠ 2 ∧ vh.major ≠ 1 then
    releaseDev d w
  else
    let w := w.setDev d fun dev => { dev with version := vh.major.toNat }
    let w := if 2 ≤ vh.major then (sendPacket env d .setup [] [0x07] w).1 else w
    let w := w.setDev d fun dev => { dev with
      state := .active
      connections := some (.init capacityStep) }
    (preflightWorkerDeviceAdd (w.devs d).id w).setDev d fun dev => { dev with isPreflightWorkerRunning := true }

/-- `device_control_input`, which only writes the payload to the program's own log. -/
def deviceControlInput (d : Ptr) (payload : List UInt8) (w : World) : World := w.emit (.controlInput d payload)

/-- The connection of a device with these ports. -/
def findByPorts (w : World) (d : Ptr) (sport dport : UInt16) : Option Ptr :=
  (w.connections d).find? fun p => (w.conns p).sport == sport && (w.conns p).dport == dport

/-- A connection that has received a segment. -/
@[simps]
def MuxConnection.hear (conn : MuxConnection) (th : TcpHdr) : MuxConnection :=
  { conn with rxSeq := th.seq, rxAck := th.ack, rxWin := th.win.toUInt32 <<< 8 }

/-- A connection whose `SYN` has been answered. -/
@[simps]
def MuxConnection.handshake (conn : MuxConnection) : MuxConnection :=
  { conn with txSeq := conn.txSeq + 1, txAck := conn.txAck + 1 }

/-- The answer to a segment for a connection that is `CONN_CONNECTING`. -/
def connectingInput (env : Env) (p : Ptr) (th : TcpHdr) (w : World) : World :=
  if th.flags ≠ thSyn ||| thAck then
    tearDown env p (if th.hasRst then w.setConn p (·.become .refused) else w)
  else
    let w := (w.emit (.synAck p)).setConn p (·.handshake)
    let r := sendTcp env p thAck [] w
    if r.2 then
      let w := r.1.setConn p (·.become .connected)
      match (w.conns p).client with
      | none => w.emit (.fault .nullClient)
      | some c =>
        let s := clientNotifyConnect env c resultOk w
        if s.2 then updateConnection p s.1
        else
          -- update_connection still runs on the connection just freed
          (tearDown env p (s.1.setConn p (·.orphan))).emit (.fault .freedConn)
    else tearDown env p r.1

/-- The answer to a segment for a connection that is `CONN_CONNECTED`. -/
def connectedInput (env : Env) (p : Ptr) (th : TcpHdr) (payload : List UInt8) (w : World) : World :=
  if th.flags ≠ thAck then
    tearDown env p (if th.hasRst then w.setConn p (·.become .dying) else w)
  else
    let r := connectionDeviceInput env p payload w
    if r.2 then
      if (r.1.conns p).ackPending then (sendTcpAck env p r.1).1 else r.1
    else
      -- conn->flags is read from the connection just freed
      r.1.emit (.fault .freedConn)

/-- `device_tcp_input`. -/
def deviceTcpInput (env : Env) (d : Ptr) (th : TcpHdr) (payload : List UInt8) (w : World) : World :=
  let w := w.emit (.tcpInput d th payload)
  if (w.devs d).state ≠ .active then w
  else
    match findByPorts w d th.dport th.sport with
    | none =>
      if th.hasRst then w
      else
        let r := sendAnonRst env d th.dport th.sport th.seq w
        -- the log message for a failed RST follows the connection that was not found
        if r.2 then r.1 else r.1.emit (.fault .nullConn)
    | some p =>
      let w := w.setConn p (·.hear th)
      match (w.conns p).state with
      | .connecting => connectingInput env p th w
      | .connected => connectedInput env p th payload w
      | _ => w

/-! ### Decoding -/

/-- The fields of a device that `device_data_input` reads and writes. -/
structure Framing where
  version : ℕ
  pktbuf : Mem
  pktlen : UInt32
  rxSeq : UInt16

/-- A call of a handler, with what it is given. -/
inductive Dispatch where
  | version (vh : VersionHeader)
  | control (payload : List UInt8)
  | tcp (th : TcpHdr) (payload : List UInt8)
  deriving DecidableEq

/-- What `device_data_input` makes of a buffer. -/
structure Decoded where
  framing : Framing
  dispatch : Option Dispatch
  /-- The number of bytes it reports as processed. -/
  consumed : UInt32

/-- The second half of `device_data_input`, from the header on. -/
def decodePacket (fr : Framing) (buffer : Mem) (length : UInt32) : Decoded :=
  let hdrSize := muxHeaderSize fr.version
  let mhdrLength := ntohl buffer 4
  if length < mhdrLength then ⟨fr, none, length⟩
  else
    let fr := if 2 ≤ fr.version then { fr with rxSeq := ntohs buffer 14 } else fr
    let consumed := if mhdrLength < length then mhdrLength else length
    let proto := ntohl buffer 0
    if proto = MuxProtocol.version.code then
      if length < UInt32.ofNat (hdrSize + versionHeaderSize) then ⟨fr, none, length⟩
      else ⟨fr, some (.version (.read buffer hdrSize)), consumed⟩
    else if proto = MuxProtocol.control.code then
      -- the payload starts behind a header of the new size, whatever the version is
      let payloadLength := length - UInt32.ofNat hdrSize
      ⟨fr, some (.control (buffer.slice sizeofMuxHeader payloadLength.toNat)), consumed⟩
    else if proto = MuxProtocol.tcp.code then
      if length < UInt32.ofNat (hdrSize + tcphdrSize) then ⟨fr, none, length⟩
      else
        let payloadLength := length - UInt32.ofNat tcphdrSize - UInt32.ofNat hdrSize
        ⟨fr, some (.tcp (.read buffer hdrSize) (buffer.slice (hdrSize + tcphdrSize) payloadLength.toNat)), consumed⟩
    else ⟨fr, none, length⟩

/-- `device_data_input` without the call of the handler. -/
def decode (fr : Framing) (buffer : Mem) (length : UInt32) : Decoded :=
  if length = 0 then ⟨fr, none, length⟩
  else if devMru < length then ⟨fr, none, length⟩
  else if fr.pktlen ≠ 0 then
    if devMru < length + fr.pktlen then ⟨{ fr with pktlen := 0 }, none, length⟩
    else
      let pktbuf := fr.pktbuf.memcpy fr.pktlen.toNat (buffer.slice 0 length.toNat)
      let total := length + fr.pktlen
      if length < usbMru ∨ ntohl pktbuf 4 = total then decodePacket { fr with pktbuf, pktlen := 0 } pktbuf total
      else ⟨{ fr with pktbuf, pktlen := total }, none, length⟩
  else if length = usbMru ∧ length < ntohl buffer 4 then
    ⟨{ fr with pktbuf := fr.pktbuf.memcpy 0 (buffer.slice 0 length.toNat), pktlen := length }, none, length⟩
  else decodePacket fr buffer length

/-- The reassembly state of a device. -/
def MuxDevice.framing (dev : MuxDevice) : Framing := ⟨dev.version, dev.pktbuf, dev.pktlen, dev.rxSeq⟩

/-- Store what `decode` changed. -/
def MuxDevice.setFraming (dev : MuxDevice) (fr : Framing) : MuxDevice :=
  { dev with pktbuf := fr.pktbuf, pktlen := fr.pktlen, rxSeq := fr.rxSeq }

/-- Call a handler. -/
def dispatch (env : Env) (d : Ptr) (call : Dispatch) (w : World) : World :=
  match call with
  | .version vh => deviceVersionInput env d vh w
  | .control payload => deviceControlInput d payload w
  | .tcp th payload => deviceTcpInput env d th payload w

/-- The device made from a USB device. -/
def findByUsbdev (w : World) (u : UsbDevice) : Option Ptr := w.deviceList.find? fun d => (w.devs d).usbdev == u

/-- `device_data_input`: the world, and the number of bytes processed. -/
def deviceDataInput (env : Env) (u : UsbDevice) (buffer : Mem) (length : UInt32) (w : World) : World × UInt32 :=
  match findByUsbdev w u with
  | none => (w, length)
  | some d =>
    let r := decode (w.devs d).framing buffer length
    let w := w.setDev d (·.setFraming r.framing)
    (match r.dispatch with
      | none => w
      | some call => dispatch env d call w, r.consumed)

/-- The transfer buffer after `device_data_input`: the version handler of a device that
is still waiting for its version puts the two numbers in host order where they are. -/
def transferBuffer (w : World) (u : UsbDevice) (buffer : Mem) (length : UInt32) : Mem :=
  match findByUsbdev w u with
  | none => buffer
  | some d =>
    let dev := w.devs d
    match (decode dev.framing buffer length).dispatch with
    | some (.version vh) =>
      if dev.state = .init ∧ dev.pktlen = 0 then
        buffer.memcpy (muxHeaderSize dev.version) (le32 vh.major ++ le32 vh.minor)
      else buffer
    | _ => buffer

/-- The drain loop of `device_process_sockets`: `size` bytes of the transfer are left,
and `buffer` is the rest of it. -/
def drain (env : Env) (d : Ptr) (u : UsbDevice) : ℕ → Mem → UInt32 → World → World
  | 0, _, _, w => w.emit (.outOfFuel .drain)
  | n + 1, buffer, size, w =>
    if size = 0 then w
    else
      let r := deviceDataInput env u buffer size w
      -- the loop reads dev->usbdev again, and dev->rx_data_events_socket after it
      if r.1.devFreed d then r.1.emit (.fault .freedDev)
      else if size ≤ r.2 then r.1
      else drain env d u n ((transferBuffer w u buffer size).shift r.2.toNat) (size - r.2) r.1

/-- What a completed USB read has put in the transfer buffer. -/
structure Transfer where
  buffer : Mem
  size : UInt32
  size_le : size ≤ deviceRxBufferSize

/-- One turn of the loop of `device_process_sockets`: the device's socket is readable. -/
def deviceProcessSocket (env : Env) (d : Ptr) (t : Transfer) (w : World) : World :=
  drain env d (w.devs d).usbdev (t.size.toNat + 1) t.buffer t.size w

/-- `device_process_sockets`: the transfers of the devices whose socket is readable and
whose read has a result. -/
def deviceProcessSockets (env : Env) (transfers : Ptr → Option Transfer) : World → World :=
  forEachDevice fun d w =>
    if (w.devs d).rxDataEventsSocket then
      match transfers d with
      | some t => deviceProcessSocket env d t w
      | none => w
    else w

/-! ### Devices -/

/-- The loop of `get_next_device_id`, which passes over the numbers in use. -/
def nextFreeId (used : List ℕ) : ℕ → ℕ → ℕ
  | 0, next => next
  | n + 1, next => if next ∈ used then nextFreeId used n (next + 1) else next

/-- `get_next_device_id`. -/
def getNextDeviceId (w : World) : ℕ :=
  nextFreeId (w.deviceList.elements.map fun d => (w.devs d).id) w.deviceList.count w.nextDeviceId

/-- The record `device_add` fills in. -/
def MuxDevice.start (u : UsbDevice) (id : ℕ) : MuxDevice where
  usbdev := u
  id := id
  state := .init
  visible := false
  connections := none
  nextSport := 1
  pktbuf := default
  pktlen := 0
  version := 0
  rxSeq := 0
  txSeq := 0
  rxDataEventsSocket := false
  isPreflightWorkerRunning := false

/-- `malloc` of a device with the number `get_next_device_id` has returned. -/
@[simps -fullyApplied]
def allocDev (u : UsbDevice) (id : ℕ) (w : World) : World :=
  { w with
    devs := Function.update w.devs w.fresh (.start u id)
    fresh := w.fresh + 1
    nextDeviceId := id + 1 }

/-- `collection_add(&device_list, dev)`. -/
@[simps -fullyApplied]
def registerDev (d : Ptr) (w : World) : World := { w with deviceList := w.deviceList.add capacityStep d }

/-- `device_add`. -/
def deviceAdd (env : Env) (u : UsbDevice) (w : World) : World :=
  let d := w.fresh
  let r := sendPacket env d .version (VersionHeader.bytes ⟨1, 0, 0⟩) [] (allocDev u (getNextDeviceId w) w)
  if r.2 then registerDev d r.1 else r.1.emit (.freeDev d)

/-- The loop of `device_remove` over a device's connections. -/
def tearDownAll (env : Env) (d : Ptr) (w : World) : World :=
  SlotTable.forEach (World.connections · d) (tearDown env) (w.connections d).capacity 0 w

/-- What `device_remove` does with a device that is active. -/
def disconnectDevice (env : Env) (d : Ptr) (w : World) : World :=
  let w := tearDownAll env d (w.setDev d fun dev => { dev with state := .dead })
  let w :=
    if (w.devs d).visible then clientDeviceRemove env (w.devs d).id w
    else clientDeviceRemovedDuringAdd env (w.deviceInfo env d) w
  w.setDev d fun dev => { dev with connections := some ⟨[]⟩ }

/-- `device_remove`. -/
def deviceRemove (env : Env) (u : UsbDevice) (w : World) : World :=
  match findByUsbdev w u with
  | none => w
  | some d =>
    releaseDev d (if (w.devs d).state = .active then disconnectDevice env d w else w)

/-- `device_add_failed`. -/
def deviceAddFailed (env : Env) (u : UsbDevice) : World → World :=
  let (location, serial, pid) := env.usbInfo u
  clientDeviceRemovedDuringAdd env { id := 0, location, serial, pid }

/-- `device_set_visible`. -/
def deviceSetVisible (id : ℕ) (w : World) : World :=
  match getMuxDeviceForId w id with
  | some d => w.setDev d fun dev => { dev with visible := true }
  | none => w

/-- `client_device_add`, run from its start to its end by a preflight thread. -/
def clientDeviceAdd (env : Env) (info : DeviceInfo) (w : World) : World :=
  announceDevice env info (deviceSetVisible info.id w)

/-- `device_preflight_finished`. -/
def devicePreflightFinished (id : ℕ) (w : World) : World :=
  match getMuxDeviceForId w id with
  | some d => w.setDev d fun dev => { dev with isPreflightWorkerRunning := false }
  | none => w

/-- `device_accept_socket`, for the device a new socket names. -/
def deviceAcceptSocket (u : UsbDevice) (w : World) : World :=
  match findByUsbdev w u with
  | some d => w.setDev d fun dev => { dev with rxDataEventsSocket := true }
  | none => w

/-- `device_get_list`. -/
def deviceGetList (env : Env) (includeHidden : Bool) (w : World) : List DeviceInfo :=
  (w.deviceList.elements.filter fun d =>
    (w.devs d).state == .active && (includeHidden || (w.devs d).visible)).map (w.deviceInfo env)

/-- Whether `device_check_timeouts` sends an acknowledgement for a connection. -/
def MuxConnection.ackOverdue (conn : MuxConnection) (now : UInt64) : Bool :=
  conn.state == .connected && conn.ackPending && ackTimeout < now - conn.lastAckTime

/-- `device_check_timeouts`. -/
def deviceCheckTimeouts (env : Env) (w : World) : World :=
  let now := env.mstime64 w.tick
  forEachDevice (fun d w =>
    if (w.devs d).state = .active then
      SlotTable.forEach (World.connections · d)
        (fun p w => if (w.conns p).ackOverdue now then (sendTcpAck env p w).1 else w)
        (w.connections d).capacity 0 w
    else w) w.tock

/-- `oldest` of `device_get_timeout` after a connection. -/
def MuxConnection.olderAck (conn : MuxConnection) (oldest : UInt64) : UInt64 :=
  if conn.state == .connected && conn.ackPending && conn.lastAckTime < oldest then conn.lastAckTime else oldest

/-- `oldest` of `device_get_timeout` after all connections of the active devices. -/
def oldestAck (w : World) : UInt64 :=
  w.deviceList.elements.foldl (fun oldest d =>
    if (w.devs d).state = .active then
      (w.connections d).elements.foldl (fun oldest p => (w.conns p).olderAck oldest) oldest
    else oldest) (-1)

/-- `device_get_timeout`. -/
def deviceGetTimeout (env : Env) (w : World) : Int :=
  let ct := env.mstime64 w.tick
  if oldestAck w = -1 then 100000
  else if ackTimeout < ct - oldestAck w then 0
  else (ackTimeout - (ct - oldestAck w)).toNat

/-- The effect of a pending command on the mux layer. -/
def usbAction (env : Env) (a : UsbAction) (w : World) : World :=
  match a with
  | .deviceAdd u => deviceAdd env u w
  | .deviceRemove u => deviceRemove env u w
  | .deviceAddFailed u => deviceAddFailed env u w
  | .errorAlreadyExists info => clientDeviceErrorAlreadyExits env info w

/-- `usb_process`. -/
def usbProcess (env : Env) (w : World) : World :=
  (env.usbProcess w.tick).foldl (fun w a => usbAction env a w) w.tock

end Usbmuxd
