import Usbmuxd.Model.State

/-!
# Client sockets and replies

The part of `client.cpp` that works on one client at a time: reading and writing its
socket, queueing a message in its reply buffer, and the notifications to the clients
that listen.

A function that may fail returns the world and whether it succeeded. `send` is one
number of bytes, `0` for an error; what `recv` delivers is a list of bytes, empty for
an error or a closed socket.
-/

namespace Usbmuxd

open World

/-- `REPLY_BUF_SIZE`. -/
def replyBufSize : UInt32 := 0x10000

/-- `CMD_BUF_SIZE`. -/
def cmdBufSize : UInt32 := 0x10000

/-! ### The loops over the lists -/

/-- `FOREACH` over `client_list`. -/
def forEachClient (body : Ptr → World → World) (w : World) : World :=
  SlotTable.forEach World.clientList body w.clientList.capacity 0 w

/-- `FOREACH` over `device_list`. -/
def forEachDevice (body : Ptr → World → World) (w : World) : World :=
  SlotTable.forEach World.deviceList body w.deviceList.capacity 0 w

/-! ### The socket of a connected client -/

/-- `client_read`, called for connection `p`. -/
def clientRead (env : Env) (p c : Ptr) (len : UInt32) (w : World) : World × List UInt8 :=
  if (w.clients c).state ≠ .connected then (w, [])
  else
    let bs := (env.recv w.tick).take len.toNat
    if bs = [] then (w.tock, []) else (w.tock.emit (.read p c bs), bs)

/-- `client_write` of the first `len` bytes of `buffer`, the in-buffer of connection `p`. -/
def clientWrite (env : Env) (p c : Ptr) (buffer : Mem) (len : UInt32) (w : World) : World × ℕ :=
  if (w.clients c).state ≠ .connected then (w, 0)
  else
    let size := min (env.send w.tick) len.toNat
    if size = 0 then (w.tock, 0) else (w.tock.emit (.wrote p c (buffer.slice 0 size)), size)

section

variable (env : Env) (p c : Ptr) (w : World)

theorem clientWrite_size (buffer : Mem) (len : UInt32) : (clientWrite env p c buffer len w).2 ≤ len.toNat := by
  unfold clientWrite
  split
  · exact Nat.zero_le _
  · dsimp only
    split
    · exact Nat.zero_le _
    · exact Nat.min_le_right ..

/-- A write that takes bytes. -/
theorem clientWrite_some {buffer : Mem} {len : UInt32} (h : (clientWrite env p c buffer len w).2 ≠ 0) :
    (clientWrite env p c buffer len w).1 =
      w.tock.emit (.wrote p c (buffer.slice 0 (clientWrite env p c buffer len w).2)) := by
  unfold clientWrite at h ⊢
  split
  · rename_i hst
    rw [if_pos hst] at h
    exact absurd rfl h
  · rename_i hst
    rw [if_neg hst] at h
    dsimp only at h ⊢
    split
    · rename_i hsize
      rw [if_pos hsize] at h
      exact absurd rfl h
    · rfl

/-- Only a connected client takes bytes. -/
theorem clientWrite_connected {buffer : Mem} {len : UInt32} (h : (clientWrite env p c buffer len w).2 ≠ 0) :
    (w.clients c).state = .connected := by
  unfold clientWrite at h
  split at h
  · exact absurd rfl h
  · rename_i hstate
    exact not_not.mp hstate

@[simp] theorem clientWrite_conns (buffer : Mem) (len : UInt32) :
    (clientWrite env p c buffer len w).1.conns = w.conns := by
  unfold clientWrite
  split
  · rfl
  · dsimp only
    split <;> rfl

end

/-- `client_set_events`. -/
def clientSetEvents (c : Ptr) (events : Events) (w : World) : World :=
  match (w.clients c).state with
  | .connected => w.setClient c fun cl => { cl with devents := events, events := events }
  | .connecting2 => w.setClient c fun cl => { cl with devents := events }
  | _ => w

/-- The record `client_accept` fills in. -/
@[simps]
def MuxClient.start : MuxClient where
  obBuf := some default
  obSize := 0
  obCapacity := replyBufSize
  ibBuf := some default
  ibSize := 0
  ibCapacity := cmdBufSize
  events := ⟨true, false⟩
  devents := ⟨false, false⟩
  connectTag := 0
  connectDevice := 0
  state := .command
  protoVersion := 0

/-- `malloc` of a client and its place on the list. -/
@[simps -fullyApplied]
def registerClient (w : World) : World :=
  { w with
    clients := Function.update w.clients w.fresh .start
    clientList := w.clientList.add capacityStep w.fresh
    fresh := w.fresh + 1
    log := w.log ++ [.newClient w.fresh] }

/-- `client_accept`, once the socket is there and set up. -/
def clientAccept (reject : Bool) (w : World) : World := if reject then w else registerClient w

/-- The end of `client_close`: close the socket, take the client off the list, free it. -/
@[simps -fullyApplied]
def releaseClient (c : Ptr) (w : World) : World :=
  { w with
    clientList := w.clientList.remove c
    log := w.log ++ [.closeSocket c, .freeClient c] }

/-! ### Messages -/

/-- The bytes of a `struct usbmuxd_header`. -/
def usbmuxdHeader (length version : UInt32) (msg : MsgType) (tag : UInt32) : List UInt8 :=
  le32 length ++ le32 version ++ le32 msg.code ++ le32 tag

/-- The start of `send_pkt`: make room for `length` more bytes. -/
def enlargeOutBuffer (env : Env) (c : Ptr) (length : UInt32) (w : World) : World × Bool :=
  let client := w.clients c
  if client.obCapacity - client.obSize < length then
    let newSize := (client.obCapacity + length + 4096) / 4096 * 4096
    if env.realloc w.tick then
      (w.tock.setClient c fun cl => { cl with obBuf := some (cl.obBuf.getD default), obCapacity := newSize }, true)
    else (w.tock, false)
  else (w, true)

/-- `send_pkt`. -/
def sendPkt (env : Env) (c : Ptr) (tag : UInt32) (msg : MsgType) (payload : List UInt8) (w : World) : World × Bool :=
  let length := usbmuxdHeaderSize + UInt32.ofNat payload.length
  let r := enlargeOutBuffer env c length w
  if r.2 then
    let client := r.1.clients c
    match client.obBuf with
    | none => (r.1.emit (.fault .nullObBuf), false)
    | some ob =>
      let pkt := usbmuxdHeader length client.protoVersion msg tag ++ payload
      let w := r.1.setClient c fun cl => { cl with
        obBuf := some (ob.memcpy cl.obSize.toNat pkt)
        obSize := cl.obSize + length
        events := { cl.events with pollout := true } }
      (w.emit (.queued c tag msg payload), true)
  else r

/-- `send_plist_pkt`. -/
def sendPlistPkt (env : Env) (c : Ptr) (tag : UInt32) (plist : Plist) (w : World) : World × Bool :=
  match env.plistToXml w.tick plist with
  | none => (w.tock, false)
  | some xml => sendPkt env c tag .plist xml w.tock

/-- `send_result`. -/
def sendResult (env : Env) (c : Ptr) (tag result : UInt32) (w : World) : World × Bool :=
  if (w.clients c).protoVersion = 1 then
    sendPlistPkt env c tag
      (.dict [("MessageType", .string (cstr "Result")), ("Number", .uint result.toUInt64)]) w
  else sendPkt env c tag .result (le32 result) w

/-- `client_notify_connect`. -/
def clientNotifyConnect (env : Env) (c : Ptr) (result : UInt32) (w : World) : World × Bool :=
  if (w.clients c).state ≠ .connecting1 then (w, false)
  else
    let r := sendResult env c (w.clients c).connectTag result w
    if r.2 then
      if result = resultOk then
        -- POLLOUT alone: wait for the result packet to go through
        (r.1.setClient c fun cl =>
          { cl with state := .connecting2, events := ⟨false, true⟩, ibBuf := none }, true)
      else (r.1.setClient c fun cl => { cl with state := .command }, true)
    else r

/-! ### Notifications -/

/-- `create_device_attached_plist`. -/
def deviceAttachedPlist (info : DeviceInfo) : Plist :=
  .dict [("MessageType", .string (cstr "Attached")), ("DeviceID", .uint (UInt64.ofNat info.id)),
    ("Properties", .dict [("ConnectionSpeed", .uint 480000000), ("ConnectionType", .string (cstr "USB")),
      ("DeviceID", .uint (UInt64.ofNat info.id)), ("LocationID", .uint info.location.toUInt64),
      ("ProductID", .uint info.pid.toUInt64), ("SerialNumber", .string info.serial)])]

/-- `create_device_pairing_event_plist`. -/
def devicePairingEventPlist (info : DeviceInfo) (event : PairingEvent) : Plist :=
  .dict [("MessageType", .string (cstr event.text)), ("DeviceID", .uint (UInt64.ofNat info.id)),
    ("Properties", .dict [("DeviceID", .uint (UInt64.ofNat info.id)), ("LocationID", .uint info.location.toUInt64),
      ("ProductID", .uint info.pid.toUInt64), ("SerialNumber", .string info.serial)])]

/-- The bytes of a `struct usbmuxd_device_record`. -/
def deviceRecord (info : DeviceInfo) : List UInt8 :=
  le32 (UInt32.ofNat info.id) ++ le16 info.pid ++
    ((List.range 256).map fun i => if i < 255 then info.serial.getD i 0 else 0) ++
    le16 0 ++ le32 info.location

/-- `notify_device_add`. -/
def notifyDeviceAdd (env : Env) (c : Ptr) (info : DeviceInfo) (w : World) : World × Bool :=
  let r :=
    if (w.clients c).protoVersion = 1 then sendPlistPkt env c 0 (deviceAttachedPlist info) w
    else sendPkt env c 0 .deviceAdd (deviceRecord info) w
  if r.2 then (r.1.emit (.attached c info.id), true) else r

/-- `notify_device_remove`. -/
def notifyDeviceRemove (env : Env) (c : Ptr) (id : ℕ) (w : World) : World × Bool :=
  let r :=
    if (w.clients c).protoVersion = 1 then
      sendPlistPkt env c 0
        (.dict [("MessageType", .string (cstr "Detached")), ("DeviceID", .uint (UInt64.ofNat id))]) w
    else sendPkt env c 0 .deviceRemove (le32 (UInt32.ofNat id)) w
  if r.2 then (r.1.emit (.detached c id), true) else r

/-- What `client_device_add` does under `client_list_mutex`. -/
def announceDevice (env : Env) (info : DeviceInfo) : World → World :=
  forEachClient fun c w =>
    if (w.clients c).state = .listen then (notifyDeviceAdd env c info w).1 else w

/-- `client_device_remove`. -/
def clientDeviceRemove (env : Env) (id : ℕ) : World → World :=
  forEachClient fun c w =>
    if (w.clients c).state = .listen then (notifyDeviceRemove env c id w).1 else w

/-- `device_exists`. -/
def deviceExists (w : World) (id : ℕ) : Bool := (w.deviceList.find? fun d => (w.devs d).id == id).isSome

/-- `client_device_pairing_event`. -/
def clientDevicePairingEvent (env : Env) (info : DeviceInfo) (event : PairingEvent) (validate : Bool)
    (w : World) : World :=
  if !validate || deviceExists w info.id then
    forEachClient (fun c w =>
      if (w.clients c).state = .listen ∧ (w.clients c).protoVersion = 1 then
        let r := sendPlistPkt env c 0 (devicePairingEventPlist info event) w
        if r.2 then r.1.emit (.pairing c info.id event) else r.1
      else w) w
  else w

/-- `client_device_removed_during_add`. -/
def clientDeviceRemovedDuringAdd (env : Env) (info : DeviceInfo) : World → World :=
  clientDevicePairingEvent env info .removedDuringAdd false

/-- `client_device_trust_pending`. -/
def clientDeviceTrustPending (env : Env) (info : DeviceInfo) : World → World :=
  clientDevicePairingEvent env info .trustPending true

/-- `client_device_password_protected`. -/
def clientDevicePasswordProtected (env : Env) (info : DeviceInfo) : World → World :=
  clientDevicePairingEvent env info .passwordProtected true

/-- `client_device_user_denied_pairing`. -/
def clientDeviceUserDeniedPairing (env : Env) (info : DeviceInfo) : World → World :=
  clientDevicePairingEvent env info .userDeniedPairing true

/-- `client_device_error_already_exits`. -/
def clientDeviceErrorAlreadyExits (env : Env) (info : DeviceInfo) : World → World :=
  clientDevicePairingEvent env info .errorDeviceAlreadyExists false

end Usbmuxd
