import Usbmuxd.Model.Client

/-!
# Mux connections

The part of `device.cpp` that sends packets and runs a connection: from
`device_start_connect` over the traffic in both directions to `connection_teardown`.

`client_close`, `device_abort_connect` and `connection_teardown` call each other. Here
they count the calls down (`callDepth`); the count runs out only with `Event.outOfFuel`
in the log. The records they work on stay readable after `free`, so that a second
`free` of one record shows in the log.
-/

namespace Usbmuxd

open World

/-- `CONN_INBUF_SIZE`. -/
def connInbufSize : UInt32 := 262144

/-- `CONN_OUTBUF_SIZE`. -/
def connOutbufSize : UInt32 := 65536

/-- `ACK_TIMEOUT`, in milliseconds. -/
def ackTimeout : UInt64 := 30

/-! ### Sending -/

/-- `usb_send`. -/
def usbSend (env : Env) (d : Ptr) (bytes : List UInt8) (w : World) : World × Bool :=
  (w.tock.emit (.usbSend d bytes (env.usbSend w.tick)), env.usbSend w.tick)

/-- The sequence numbers that go into the mux header; the setup packet starts them again. -/
def MuxDevice.muxSeq (dev : MuxDevice) (proto : MuxProtocol) : UInt16 × UInt16 :=
  if proto = .setup then (0, 0xFFFF) else (dev.txSeq, dev.rxSeq)

/-- A device after a packet has been given its sequence numbers. -/
def MuxDevice.countPacket (dev : MuxDevice) (proto : MuxProtocol) : MuxDevice :=
  if 2 ≤ dev.version then { dev with txSeq := (dev.muxSeq proto).1 + 1, rxSeq := (dev.muxSeq proto).2 } else dev

/-- The length of a packet. -/
def MuxDevice.packetLength (dev : MuxDevice) (header data : List UInt8) : ℕ :=
  muxHeaderSize dev.version + header.length + data.length

/-- The bytes of a packet. -/
def MuxDevice.packetBytes (dev : MuxDevice) (proto : MuxProtocol) (header data : List UInt8) : List UInt8 :=
  muxHeaderBytes dev.version proto (dev.packetLength header data) (dev.muxSeq proto).1 (dev.muxSeq proto).2 ++
    header ++ data

/-- `send_packet`. -/
def sendPacket (env : Env) (d : Ptr) (proto : MuxProtocol) (header data : List UInt8) (w : World) : World × Bool :=
  -- MUX_PROTO_CONTROL is the invalid protocol of the switch
  if proto = .control ∨ usbMtu < (w.devs d).packetLength header data then (w, false)
  else usbSend env d ((w.devs d).packetBytes proto header data) (w.setDev d (·.countPacket proto))

/-- The header `send_tcp` builds. -/
@[simps]
def MuxConnection.tcpHeader (conn : MuxConnection) (flags : UInt8) : TcpHdr where
  sport := conn.sport
  dport := conn.dport
  seq := conn.txSeq
  ack := conn.txAck
  offX2 := 0x50
  flags := flags
  win := (conn.txWin >>> 8).toUInt16
  sum := 0
  urp := 0

/-- A connection whose segment has gone out at time `now`: what it acknowledges is acknowledged. -/
@[simps]
def MuxConnection.acked (conn : MuxConnection) (now : UInt64) : MuxConnection :=
  { conn with txAcked := conn.txAck, lastAckTime := now, ackPending := false }

/-- `send_tcp`. -/
def sendTcp (env : Env) (p : Ptr) (flags : UInt8) (data : List UInt8) (w : World) : World × Bool :=
  let conn := w.conns p
  let th := conn.tcpHeader flags
  let r := sendPacket env conn.dev .tcp th.bytes data w
  let w := r.1.emit (.segment p th data r.2)
  if r.2 then (w.tock.setConn p (·.acked (env.mstime64 w.tick)), true) else (w, false)

/-- `send_anon_rst`. -/
def sendAnonRst (env : Env) (d : Ptr) (sport dport : UInt16) (ack : UInt32) (w : World) : World × Bool :=
  sendPacket env d .tcp
    (TcpHdr.bytes { sport, dport, seq := 0, ack, offX2 := 0x50, flags := thRst, win := 0, sum := 0, urp := 0 }) [] w

/-! ### Lookups -/

/-- `get_mux_device_for_id`. -/
def getMuxDeviceForId (w : World) (id : ℕ) : Option Ptr := w.deviceList.find? fun d => (w.devs d).id == id

/-- The connections of a device, none before `collection_init`. -/
def World.connections (w : World) (d : Ptr) : SlotTable Ptr := (w.devs d).connections.getD ⟨[]⟩

/-- `get_mux_connection`. -/
def getMuxConnection (w : World) (id : ℕ) (c : Ptr) : Option Ptr :=
  (getMuxDeviceForId w id).bind fun d => (w.connections d).find? fun p => (w.conns p).client == some c

/-! ### Teardown -/

/-- A connection in another state. -/
@[simps]
def MuxConnection.become (conn : MuxConnection) (state : MuxConnState) : MuxConnection := { conn with state }

/-- A connection that has lost its client. -/
@[simps]
def MuxConnection.orphan (conn : MuxConnection) : MuxConnection := { conn with client := none }

/-- A connection without the first `size` bytes of its in-buffer. -/
@[simps]
def MuxConnection.consume (conn : MuxConnection) (size : ℕ) : MuxConnection :=
  { conn with
    ibSize := if size = conn.ibSize.toNat then 0 else conn.ibSize - UInt32.ofNat size
    ibBuf :=
      if size = conn.ibSize.toNat then conn.ibBuf
      else conn.ibBuf.memmove size (conn.ibSize - UInt32.ofNat size).toNat }

/-- The flush loop of `connection_teardown`. -/
def flushInBuf (env : Env) (p c : Ptr) : ℕ → World → World
  | 0, w => w.emit (.outOfFuel .flush)
  | n + 1, w =>
    let conn := w.conns p
    let r := clientWrite env p c conn.ibBuf conn.ibSize w
    if r.2 = 0 then r.1
    else
      let w := r.1.setConn p (·.consume r.2)
      if r.2 = conn.ibSize.toNat then w else flushInBuf env p c n w

/-- The RST at the start of `connection_teardown`. -/
def sendTeardownRst (env : Env) (p : Ptr) (w : World) : World :=
  let conn := w.conns p
  if (w.devs conn.dev).state ≠ .dead ∧ conn.state ≠ .dying ∧ conn.state ≠ .refused then
    (sendTcp env p thRst [] w).1
  else w

/-- The end of `connection_teardown`: take the connection off its device and free it. -/
def releaseConn (p : Ptr) (w : World) : World :=
  (w.setDev (w.conns p).dev fun dev => { dev with connections := dev.connections.map (·.remove p) }).emit
    (.freeConn p)

/-- `device_abort_connect`. -/
def deviceAbortConnect (teardown : Ptr → World → World) (id : ℕ) (c : Ptr) (w : World) : World :=
  match getMuxConnection w id c with
  | some p => teardown p w
  | none => w

mutual

/-- `client_close`. -/
def clientClose (env : Env) : ℕ → Ptr → World → World
  | 0, _, w => w.emit (.outOfFuel .teardown)
  | n + 1, c, w =>
    let state := (w.clients c).state
    releaseClient c <|
      if state = .connecting1 ∨ state = .connecting2 then
        deviceAbortConnect (connectionTeardown env n) (w.clients c).connectDevice c
          (w.setClient c fun cl => { cl with state := .dead })
      else w

/-- `connection_teardown`. -/
def connectionTeardown (env : Env) : ℕ → Ptr → World → World
  | 0, _, w => w.emit (.outOfFuel .teardown)
  | n + 1, p, w =>
    if (w.conns p).state = .dead then w
    else
      let w := sendTeardownRst env p w
      let conn := w.conns p
      releaseConn p <|
        match conn.client with
        | none => w
        | some c =>
          if conn.state = .refused ∨ conn.state = .connecting then
            (clientNotifyConnect env c resultConnrefused w).1
          else
            let w := w.setConn p (·.become .dead)
            clientClose env n c <|
              if conn.events.pollout ∧ 0 < conn.ibSize then flushInBuf env p c conn.ibSize.toNat w else w

end

/-- How deep `client_close` and `connection_teardown` may call each other. -/
def callDepth : ℕ := 4

/-- `client_close`, called from outside the recursion. -/
def closeClient (env : Env) (c : Ptr) (w : World) : World := clientClose env callDepth c w

/-- `connection_teardown`, called from outside the recursion. -/
def tearDown (env : Env) (p : Ptr) (w : World) : World := connectionTeardown env callDepth p w

/-! ### Opening -/

/-- The loop of `find_sport`: the first port from `next` on that no connection has. -/
def findSportLoop (used : List UInt16) : ℕ → UInt16 → Option UInt16
  | 0, _ => none
  | n + 1, next => if next ∈ used then findSportLoop used n (next + 1) else some next

/-- `find_sport`: the port and the next one to try. -/
def findSport (w : World) (d : Ptr) : Option (UInt16 × UInt16) :=
  let conns := w.connections d
  if 65535 ≤ conns.count then some (0, (w.devs d).nextSport)
  else
    (findSportLoop (conns.elements.map fun p => (w.conns p).sport) 65536 (w.devs d).nextSport).map
      fun port => (port, port + 1)

/-- The record `device_start_connect` fills in. -/
@[simps]
def MuxConnection.start (d c : Ptr) (sport dport : UInt16) : MuxConnection where
  dev := d
  client := some c
  state := .connecting
  sport := sport
  dport := dport
  txSeq := 0
  txAck := 0
  txAcked := 0
  txWin := connInbufSize
  rxSeq := 0
  rxAck := 0
  rxWin := 0
  maxPayload := maxMuxPacketSize - UInt32.ofNat sizeofMuxHeader - UInt32.ofNat tcphdrSize
  sendable := 0
  ackPending := false
  ibBuf := default
  ibSize := 0
  ibCapacity := connInbufSize
  obBuf := default
  obCapacity := connOutbufSize
  events := ⟨false, false⟩
  lastAckTime := 0

/-- `malloc` of a connection. -/
@[simps -fullyApplied]
def allocConn (conn : MuxConnection) (w : World) : World :=
  { w with
    conns := Function.update w.conns w.fresh conn
    fresh := w.fresh + 1
    log := w.log ++ [.start w.fresh] }

/-- `collection_add(&dev->connections, conn)`. -/
def registerConn (d p : Ptr) (w : World) : World :=
  w.setDev d fun dev => { dev with connections := dev.connections.map (·.add capacityStep p) }

/-- `device_start_connect`, with the error it returns. -/
def deviceStartConnect (env : Env) (id : ℕ) (dport : UInt16) (c : Ptr) (w : World) : World × Option UInt32 :=
  match getMuxDeviceForId w id with
  | none => (w, some resultBaddev)
  | some d =>
    if (w.devs d).connections = none then (w.emit (.fault .uninitConnections), some resultBaddev)
    else
      match findSport w d with
      | none => (w.emit (.outOfFuel .findSport), some resultBaddev)
      | some (sport, next) =>
        let w := w.setDev d fun dev => { dev with nextSport := next }
        if sport = 0 then (w, some resultBaddev)
        else
          let p := w.fresh
          let r := sendTcp env p thSyn [] (allocConn (.start d c sport dport) w)
          if r.2 then (registerConn d p r.1, none)
          else (r.1.emit (.freeConn p), some resultConnrefused)

/-- What `device_start_connect` may end in, with the error it returns. `v` is the world in which the port has been
taken. -/
inductive ConnectStarted (env : Env) (id : ℕ) (dport : UInt16) (c : Ptr) (w : World) : World × Option UInt32 → Prop where
  | noDevice (hd : getMuxDeviceForId w id = none) : ConnectStarted env id dport c w (w, some resultBaddev)
  | uninitialised (d : Ptr) (hd : getMuxDeviceForId w id = some d) (hconns : (w.devs d).connections = none) :
      ConnectStarted env id dport c w (w.emit (.fault .uninitConnections), some resultBaddev)
  | cutShort (d : Ptr) (hd : getMuxDeviceForId w id = some d) (hport : findSport w d = none) :
      ConnectStarted env id dport c w (w.emit (.outOfFuel .findSport), some resultBaddev)
  | noPort (d : Ptr) (next : UInt16) (hd : getMuxDeviceForId w id = some d) (hport : findSport w d = some (0, next)) :
      ConnectStarted env id dport c w (w.setDev d fun dev => { dev with nextSport := next }, some resultBaddev)
  | refused (d : Ptr) (sport next : UInt16) (v : World) (hd : getMuxDeviceForId w id = some d)
      (hconns : (w.devs d).connections ≠ none) (hport : findSport w d = some (sport, next)) (hsport : sport ≠ 0)
      (hv : v = w.setDev d fun dev => { dev with nextSport := next })
      (hsent : (sendTcp env v.fresh thSyn [] (allocConn (.start d c sport dport) v)).2 = false) :
      ConnectStarted env id dport c w
        ((sendTcp env v.fresh thSyn [] (allocConn (.start d c sport dport) v)).1.emit (.freeConn v.fresh),
          some resultConnrefused)
  | started (d : Ptr) (sport next : UInt16) (v : World) (hd : getMuxDeviceForId w id = some d)
      (hconns : (w.devs d).connections ≠ none) (hport : findSport w d = some (sport, next)) (hsport : sport ≠ 0)
      (hv : v = w.setDev d fun dev => { dev with nextSport := next })
      (hsent : (sendTcp env v.fresh thSyn [] (allocConn (.start d c sport dport) v)).2 = true) :
      ConnectStarted env id dport c w
        (registerConn d v.fresh (sendTcp env v.fresh thSyn [] (allocConn (.start d c sport dport) v)).1, none)

theorem connectStarted (env : Env) (id : ℕ) (dport : UInt16) (c : Ptr) (w : World) :
    ConnectStarted env id dport c w (deviceStartConnect env id dport c w) := by
  unfold deviceStartConnect
  split
  · rename_i hd
    exact .noDevice hd
  · rename_i d hd
    split
    · rename_i hconns
      exact .uninitialised d hd hconns
    · rename_i hconns
      split
      · rename_i hport
        exact .cutShort d hd hport
      · rename_i sport next hport
        dsimp only
        generalize hv : (w.setDev d fun dev => { dev with nextSport := next }) = v
        split
        · rename_i hsport
          subst hsport hv
          exact .noPort d next hd hport
        · rename_i hsport
          have hrefused := @ConnectStarted.refused env id dport c w d sport next v hd hconns hport hsport hv.symm
          have hstarted := @ConnectStarted.started env id dport c w d sport next v hd hconns hport hsport hv.symm
          generalize sendTcp env v.fresh thSyn [] (allocConn (.start d c sport dport) v) = sent at hrefused hstarted
          split
          · rename_i hsent
            exact hstarted hsent
          · rename_i hsent
            exact hrefused (by simpa using hsent)

/-! ### Traffic -/

/-- How many bytes `update_connection` lets the client send. -/
def MuxConnection.window (conn : MuxConnection) : UInt32 :=
  let sent := conn.txSeq - conn.rxAck
  let sendable := if sent < conn.rxWin then conn.rxWin - sent else 0
  let sendable := if conn.obCapacity < sendable then conn.obCapacity else sendable
  if conn.maxPayload < sendable then conn.maxPayload else sendable

/-- What `update_connection` computes, without the client's event mask. -/
@[simps]
def MuxConnection.refresh (conn : MuxConnection) : MuxConnection :=
  { conn with
    sendable := conn.window
    events := ⟨0 < conn.window, conn.ibSize ≠ 0⟩
    ackPending := conn.txAcked ≠ conn.txAck }

/-- `update_connection`. -/
def updateConnection (p : Ptr) (w : World) : World :=
  let w := w.setConn p (·.refresh)
  match (w.conns p).client with
  | some c => clientSetEvents c (w.conns p).events w
  | none => w.emit (.fault .nullClient)

/-- `send_tcp_ack`; it fails when it has torn the connection down. -/
def sendTcpAck (env : Env) (p : Ptr) (w : World) : World × Bool :=
  let r := sendTcp env p thAck [] w
  if r.2 then (updateConnection p r.1, true) else (tearDown env p r.1, false)

/-- A connection of which the client has taken `size` bytes. -/
@[simps!]
def MuxConnection.deliver (conn : MuxConnection) (size : ℕ) : MuxConnection :=
  { conn.consume size with txWin := conn.txWin + UInt32.ofNat size }

/-- The first half of `device_client_process`: from the in-buffer to the client. It fails
when the client takes nothing. -/
def deviceToClient (env : Env) (p c : Ptr) (w : World) : World × Bool :=
  let conn := w.conns p
  let r := clientWrite env p c conn.ibBuf conn.ibSize w
  if r.2 = 0 then (r.1, false)
  else (r.1.setConn p (·.deliver r.2), true)

/-- A connection that has read `bs` from its client. -/
@[simps]
def MuxConnection.fill (conn : MuxConnection) (bs : List UInt8) : MuxConnection :=
  { conn with obBuf := conn.obBuf.memcpy 0 bs }

/-- A connection that has sent `size` bytes of its client. -/
@[simps]
def MuxConnection.advance (conn : MuxConnection) (size : ℕ) : MuxConnection :=
  { conn with txSeq := conn.txSeq + UInt32.ofNat size }

/-- The second half of `device_client_process`: from the client to the device. It fails
when there is nothing to read or the packet is not sent. -/
def clientToDevice (env : Env) (p c : Ptr) (w : World) : World × Bool :=
  let r := clientRead env p c (w.conns p).sendable w
  let size := r.2.length
  if size = 0 then (r.1, false)
  else
    let w := r.1.setConn p (·.fill r.2)
    let s := sendTcp env p thAck ((w.conns p).obBuf.slice 0 size) w
    if s.2 then (s.1.setConn p (·.advance size), true) else s

/-- `device_client_process` from the second half on. -/
def processClientInput (env : Env) (p c : Ptr) (events : Events) (w : World) : World :=
  if events.pollin ∧ 0 < (w.conns p).sendable then
    let r := clientToDevice env p c w
    if r.2 then updateConnection p r.1 else tearDown env p r.1
  else updateConnection p w

/-- `device_client_process`; the connection found has this client. -/
def deviceClientProcess (env : Env) (id : ℕ) (c : Ptr) (events : Events) (w : World) : World :=
  match getMuxConnection w id c with
  | none => w
  | some p =>
    if events.pollout ∧ 0 < (w.conns p).ibSize then
      let r := deviceToClient env p c w
      if r.2 then
        -- the window before this write; the result of send_tcp_ack is not looked at
        if (w.conns p).txWin < maxMuxPacketSize then
          let s := sendTcpAck env p r.1
          if s.2 then processClientInput env p c events s.1 else s.1.emit (.fault .freedConn)
        else processClientInput env p c events r.1
      else tearDown env p r.1
    else processClientInput env p c events w

/-- A connection with a payload behind its in-buffer. -/
@[simps]
def MuxConnection.append (conn : MuxConnection) (payload : List UInt8) : MuxConnection :=
  { conn with
    ibBuf := conn.ibBuf.memcpy conn.ibSize.toNat payload
    ibSize := conn.ibSize + UInt32.ofNat payload.length
    txWin := conn.txWin - UInt32.ofNat payload.length
    txAck := conn.txAck + UInt32.ofNat payload.length }

/-- `connection_device_input`; it fails when it has torn the connection down. -/
def connectionDeviceInput (env : Env) (p : Ptr) (payload : List UInt8) (w : World) : World × Bool :=
  let conn := w.conns p
  if conn.ibCapacity < conn.ibSize + UInt32.ofNat payload.length then
    (tearDown env p (w.emit (.overflow p payload)), false)
  else (updateConnection p ((w.emit (.accepted p payload)).setConn p (·.append payload)), true)

end Usbmuxd
