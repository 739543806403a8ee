import Usbmuxd.Model.Device

/-!
# Commands

The part of `client.cpp` that serves a client's socket while it is not connected to a
device: `process_recv` collects a command and `client_command` carries it out;
`process_send` sends what the replies have put in the client's buffer.

`process_recv` does not look at the result of `client_command`, so the handlers here
return only the world.
-/

namespace Usbmuxd

open World

/-- `EINVAL` and `ENOENT`. -/
def einval : UInt32 := 22
def enoent : UInt32 := 2

/-- The header of a command. -/
structure UsbmuxdHeader where
  length : UInt32
  version : UInt32
  message : UInt32
  tag : UInt32
  deriving DecidableEq

/-- The header at the start of a command buffer. -/
def UsbmuxdHeader.read (m : Mem) : UsbmuxdHeader :=
  ⟨readLe32 m 0, readLe32 m 4, readLe32 m 8, readLe32 m 12⟩

/-! ### Handlers -/

/-- The loop of `start_listen`, which stops at the first failure. -/
def notifyAll (env : Env) (c : Ptr) : List DeviceInfo → World → World
  | [], w => w
  | info :: rest, w =>
    let r := notifyDeviceAdd env c info w
    if r.2 then notifyAll env c rest r.1 else r.1

/-- `start_listen`. -/
def startListen (env : Env) (c : Ptr) (w : World) : World :=
  let w := w.setClient c fun cl => { cl with state := .listen }
  notifyAll env c (deviceGetList env false w) w

/-- `handle_listen_command`, and `MESSAGE_LISTEN`. -/
def handleListen (env : Env) (c : Ptr) (hdr : UsbmuxdHeader) (w : World) : World :=
  let r := sendResult env c hdr.tag resultOk w
  if r.2 then startListen env c r.1 else r.1

/-- The connect request itself, which the binary and the plist command share. -/
def connectRequest (env : Env) (c : Ptr) (hdr : UsbmuxdHeader) (id : ℕ) (port : UInt16) (w : World) : World :=
  let r := deviceStartConnect env id port c w
  match r.2 with
  | some res => (sendResult env c hdr.tag res r.1).1
  | none => r.1.setClient c fun cl =>
      { cl with connectTag := hdr.tag, connectDevice := id, state := .connecting1 }

/-- `ntohs` of a word. -/
def swap16 (v : UInt16) : UInt16 := v <<< 8 ||| v >>> 8

/-- `handle_connect_command`. -/
def handleConnectCommand (env : Env) (c : Ptr) (hdr : UsbmuxdHeader) (command : Plist) (w : World) : World :=
  match command.getItem "DeviceID" with
  | none => (sendResult env c hdr.tag resultBaddev w).1
  | some node =>
    let id := node.uintVal.toUInt32
    match command.getItem "PortNumber" with
    | none => (sendResult env c hdr.tag resultBadcommand w).1
    | some port => connectRequest env c hdr id.toNat (swap16 port.uintVal.toUInt16) w

/-- `send_device_list`. -/
def sendDeviceList (env : Env) (c : Ptr) (tag : UInt32) (w : World) : World :=
  let devices := (deviceGetList env (env.includeHidden w.tick) w).map deviceAttachedPlist
  (sendPlistPkt env c tag (.dict [("DeviceList", .array devices)]) w.tock).1

/-- `send_system_buid`. -/
def sendSystemBuid (env : Env) (c : Ptr) (tag : UInt32) (w : World) : World :=
  (sendPlistPkt env c tag (.dict [("BUID", .string (env.getSystemBuid w.tick))]) w.tock).1

/-- `plist_dict_get_string_val`. -/
def Plist.getStringVal (key : String) (p : Plist) : Option (List UInt8) := (p.getItem key).bind Plist.stringVal

/-- Whether a pair record parses to a dictionary without its required keys. -/
def partialRecord (env : Env) (record : List UInt8) : Bool :=
  match env.plistFromXml record with
  | none => false
  | some p => (p.getItem "DeviceCertificate").isNone || (p.getItem "HostID").isNone || (p.getItem "SystemBUID").isNone

/-- `send_pair_record`. -/
def sendPairRecord (env : Env) (c : Ptr) (tag : UInt32) (recordId : Option (List UInt8)) (w : World) : World :=
  match recordId with
  | none => (sendResult env c tag einval w).1
  | some id =>
    match env.getDeviceRecord w.tick id with
    | none => (sendResult env c tag enoent w.tock).1
    | some record =>
      if partialRecord env record then (sendResult env c tag enoent w.tock).1
      else (sendPlistPkt env c tag (.dict [("PairRecordData", .data record)]) w.tock).1

/-- The bytes of a string without its first `-`. -/
def dropDash (id : List UInt8) : List UInt8 := id.erase 0x2d

/-- `handle_read_pair_record_command`. -/
def handleReadPairRecordCommand (env : Env) (c : Ptr) (hdr : UsbmuxdHeader) (command : Plist) (w : World) : World :=
  match command.getStringVal "PairRecordID" with
  -- strstr looks for the dash before anyone has looked for a NULL
  | none => w.emit (.fault .nullString)
  | some id => sendPairRecord env c hdr.tag (some (dropDash id)) w

/-- `handle_save_pair_record_command`. -/
def handleSavePairRecordCommand (env : Env) (c : Ptr) (hdr : UsbmuxdHeader) (command : Plist) (w : World) : World :=
  if command.getStringVal "BundleID" = some (cstr "org.libimobiledevice.usbmuxd") then
    match command.getStringVal "PairRecordID", command.getItem "PairRecordData" with
    | some id, some (.data record) => (sendResult env c hdr.tag (env.setDeviceRecord w.tick id record) w.tock).1
    | _, _ => (sendResult env c hdr.tag einval w).1
  else (sendResult env c hdr.tag resultOk w).1

/-- `handle_delete_pair_record_command`. -/
def handleDeletePairRecordCommand (env : Env) (c : Ptr) (hdr : UsbmuxdHeader) (command : Plist) (w : World) : World :=
  match command.getStringVal "PairRecordID" with
  | some id => (sendResult env c hdr.tag (env.removeDeviceRecord w.tick id) w.tock).1
  | none => (sendResult env c hdr.tag einval w).1

/-- `get_device_location_from_device_command`. -/
def deviceLocation (command : Plist) : UInt32 :=
  match command.getItem "DeviceLocation" with
  | some (.uint n) => n.toUInt32
  | _ => 0

/-- A command about the device at a location, which is refused without one. -/
def withLocation (env : Env) (c : Ptr) (hdr : UsbmuxdHeader) (command : Plist) (act : UInt32 → World → World)
    (w : World) : World :=
  if deviceLocation command = 0 then (sendResult env c hdr.tag resultBadcommand w).1
  else (sendResult env c hdr.tag resultOk (act (deviceLocation command) w)).1

/-- `handle_add_device_command`. -/
def handleAddDeviceCommand (env : Env) (c : Ptr) (hdr : UsbmuxdHeader) (command : Plist) : World → World :=
  withLocation env c hdr command fun location w => w.emit (.pending .add location)

/-- `handle_remove_device_command`. -/
def handleRemoveDeviceCommand (env : Env) (c : Ptr) (hdr : UsbmuxdHeader) (command : Plist) : World → World :=
  withLocation env c hdr command fun location w => w.emit (.pending .remove location)

/-- `handle_device_monitor_command`. -/
def handleDeviceMonitorCommand (env : Env) (c : Ptr) (hdr : UsbmuxdHeader) (command : Plist) : World → World :=
  let autoMonitor := match command.getItem "AutoMonitor" with
    | some (.boolean b) => b
    | _ => false
  withLocation env c hdr command fun location w => usbProcess env (w.emit (.pending (.setMonitor autoMonitor) location))

/-- `handle_client_plist_command`. -/
def handleClientPlistCommand (env : Env) (c : Ptr) (hdr : UsbmuxdHeader) (payload : List UInt8) (w : World) : World :=
  let w := w.setClient c fun cl => { cl with protoVersion := 1 }
  match env.plistFromXml payload with
  | none => w
  | some command =>
    match command.getStringVal "MessageType" with
    | none => w
    | some message =>
      if message = cstr "Listen" then handleListen env c hdr w
      else if message = cstr "Connect" then handleConnectCommand env c hdr command w
      else if message = cstr "ListDevices" then sendDeviceList env c hdr.tag w
      else if message = cstr "ReadBUID" then sendSystemBuid env c hdr.tag w
      else if message = cstr "ReadPairRecord" then handleReadPairRecordCommand env c hdr command w
      else if message = cstr "SavePairRecord" then handleSavePairRecordCommand env c hdr command w
      else if message = cstr "DeletePairRecord" then handleDeletePairRecordCommand env c hdr command w
      else if message = cstr "AddDevice" then handleAddDeviceCommand env c hdr command w
      else if message = cstr "RemoveDevice" then handleRemoveDeviceCommand env c hdr command w
      else if message = cstr "DeviceMonitor" then handleDeviceMonitorCommand env c hdr command w
      else (sendResult env c hdr.tag resultBadcommand w).1

/-- The worlds that `handle_client_plist_command` may end in, when the client's version has been noted in `v`. -/
inductive PlistHandled (env : Env) (c : Ptr) (hdr : UsbmuxdHeader) (v : World) : World → Prop where
  /-- The payload is no property list, or has no message type. -/
  | ignored : PlistHandled env c hdr v v
  | listen : PlistHandled env c hdr v (handleListen env c hdr v)
  | connect (command : Plist) : PlistHandled env c hdr v (handleConnectCommand env c hdr command v)
  | listDevices : PlistHandled env c hdr v (sendDeviceList env c hdr.tag v)
  | readBuid : PlistHandled env c hdr v (sendSystemBuid env c hdr.tag v)
  | readPairRecord (command : Plist) : PlistHandled env c hdr v (handleReadPairRecordCommand env c hdr command v)
  | savePairRecord (command : Plist) : PlistHandled env c hdr v (handleSavePairRecordCommand env c hdr command v)
  | deletePairRecord (command : Plist) : PlistHandled env c hdr v (handleDeletePairRecordCommand env c hdr command v)
  | addDevice (command : Plist) : PlistHandled env c hdr v (handleAddDeviceCommand env c hdr command v)
  | removeDevice (command : Plist) : PlistHandled env c hdr v (handleRemoveDeviceCommand env c hdr command v)
  | deviceMonitor (command : Plist) : PlistHandled env c hdr v (handleDeviceMonitorCommand env c hdr command v)
  | unknown : PlistHandled env c hdr v (sendResult env c hdr.tag resultBadcommand v).1

theorem plistHandled (env : Env) (c : Ptr) (hdr : UsbmuxdHeader) (payload : List UInt8) (w : World) :
    PlistHandled env c hdr (w.setClient c fun cl => { cl with protoVersion := 1 })
      (handleClientPlistCommand env c hdr payload w) := by
  unfold handleClientPlistCommand
  dsimp only
  generalize (w.setClient c fun cl => { cl with protoVersion := 1 }) = v
  split
  · exact .ignored
  · rename_i command _
    split
    · exact .ignored
    · refine iteInduction (fun _ => .listen) fun _ => ?_
      refine iteInduction (fun _ => .connect command) fun _ => ?_
      refine iteInduction (fun _ => .listDevices) fun _ => ?_
      refine iteInduction (fun _ => .readBuid) fun _ => ?_
      refine iteInduction (fun _ => .readPairRecord command) fun _ => ?_
      refine iteInduction (fun _ => .savePairRecord command) fun _ => ?_
      refine iteInduction (fun _ => .deletePairRecord command) fun _ => ?_
      refine iteInduction (fun _ => .addDevice command) fun _ => ?_
      refine iteInduction (fun _ => .removeDevice command) fun _ => ?_
      exact iteInduction (fun _ => .deviceMonitor command) fun _ => .unknown

/-- `client_command`, for the command in `buffer`. -/
def clientCommand (env : Env) (c : Ptr) (buffer : Mem) (w : World) : World :=
  let hdr := UsbmuxdHeader.read buffer
  if (w.clients c).state ≠ .command then
    let r := sendResult env c hdr.tag resultBadcommand w
    if r.2 then closeClient env c r.1 else r.1
  else if hdr.version ≠ 0 ∧ hdr.version ≠ 1 then (sendResult env c hdr.tag resultBadversion w).1
  else if hdr.message = MsgType.plist.code then
    handleClientPlistCommand env c hdr (buffer.slice 16 (hdr.length - usbmuxdHeaderSize).toNat) w
  else if hdr.message = MsgType.listen.code then handleListen env c hdr w
  else if hdr.message = MsgType.connect.code then
    -- device_id and port are read whether or not the message is long enough to hold them
    connectRequest env c hdr (readLe32 buffer 16).toNat (ntohs buffer 20) w
  else (sendResult env c hdr.tag resultBadcommand w).1

/-! ### The socket of a client in command mode -/

/-- A client after `send` has taken `size` bytes of its reply buffer. -/
def MuxClient.afterSend (client : MuxClient) (size : ℕ) : MuxClient :=
  if size = client.obSize.toNat then
    if client.state = .connecting2 then
      { client with obSize := 0, state := .connected, events := client.devents, obBuf := none }
    else { client with obSize := 0, events := { client.events with pollout := false } }
  else
    let obSize := client.obSize - UInt32.ofNat size
    { client with obSize, obBuf := some ((client.obBuf.getD default).memmove size obSize.toNat) }

/-- `process_send`. -/
def processSend (env : Env) (c : Ptr) (w : World) : World :=
  let client := w.clients c
  if client.obSize = 0 then w.setClient c fun cl => { cl with events := { cl.events with pollout := false } }
  else
    let size := min (env.send w.tick) client.obSize.toNat
    if size = 0 then closeClient env c w.tock
    else
      (w.tock.emit (.sent c ((client.obBuf.getD default).slice 0 size))).setClient c (·.afterSend size)

/-- `recv` of at most `len` bytes to the end of the command buffer. Without a buffer the
address is not valid and `recv` fails. -/
def recvCommandBytes (env : Env) (c : Ptr) (len : UInt32) (w : World) : World × ℕ :=
  match (w.clients c).ibBuf with
  | none => (w.tock, 0)
  | some buffer =>
    let bs := (env.recv w.tick).take len.toNat
    (w.tock.setClient c fun cl =>
      { cl with ibBuf := some (buffer.memcpy cl.ibSize.toNat bs), ibSize := cl.ibSize + UInt32.ofNat bs.length },
     bs.length)

/-- The end of `process_recv`: the command is complete. -/
def runCommand (env : Env) (c : Ptr) (buffer : Mem) (w : World) : World :=
  let w := clientCommand env c buffer w
  -- client->ib_size is set whether or not client_command has closed the client
  if w.clientFreed c then w.emit (.fault .freedClient)
  else w.setClient c fun cl => { cl with ibSize := 0 }

/-- `process_recv` after the header has been read, maybe in this call. -/
def processRecvBody (env : Env) (c : Ptr) (didRead : Bool) (w : World) : World :=
  let client := w.clients c
  match client.ibBuf with
  | none => w.emit (.fault .nullIbBuf)
  | some buffer =>
    let length := readLe32 buffer 0
    if client.ibCapacity < length then closeClient env c w
    else if length < usbmuxdHeaderSize then closeClient env c w
    else if client.ibSize < length then
      if didRead then w
      else
        let r := recvCommandBytes env c (length - client.ibSize) w
        if r.2 = 0 then closeClient env c r.1
        else if (r.1.clients c).ibSize < length then r.1
        else runCommand env c ((r.1.clients c).ibBuf.getD default) r.1
    else runCommand env c buffer w

/-- `process_recv`. -/
def processRecv (env : Env) (c : Ptr) (w : World) : World :=
  let client := w.clients c
  let w := w.emit (.processRecv c client.ibBuf.isSome)
  if client.ibSize < usbmuxdHeaderSize then
    let r := recvCommandBytes env c (usbmuxdHeaderSize - client.ibSize) w
    if r.2 = 0 then closeClient env c r.1
    else if (r.1.clients c).ibSize < usbmuxdHeaderSize then r.1
    else processRecvBody env c true r.1
  else processRecvBody env c false w

/-- The body of the loop of `client_process`, for what `select` has reported of the client. -/
def clientReady (env : Env) (c : Ptr) (events : Events) (w : World) : World :=
  if events.pollin ∨ events.pollout then
    if (w.clients c).state = .connected then deviceClientProcess env (w.clients c).connectDevice c events w
    else if events.pollin then processRecv env c w
    -- not both, in case the client died as part of process_recv
    else processSend env c w
  else w

/-- `client_process`. -/
def clientProcess (env : Env) (ready : Ptr → Events) : World → World :=
  forEachClient fun c => clientReady env c (ready c)

end Usbmuxd
