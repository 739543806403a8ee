import Mathlib.Data.List.Nodup
import Mathlib.Data.List.Perm.Subperm
import Usbmuxd.Model.Loop
import Usbmuxd.Runs.Blocks

/-!
# Finding a port

`find_sport` tries one port after the other, from the one behind the last it has given away,
and the counter wraps around. The callers take `0` for a failure, but the counter passes
through `0` as well.

## The model

* `World.sports` — the ports in use on a device.
* `PortFound` — `find_sport` returns a port, which is not `0` and not in use.
* `PortAhead` — there is a port left before the counter wraps around.

## What is proved

* `findSportLoop_terminates` — the loop ends, because there are fewer connections than ports.
* `findSport_iff` — a port is found, and a connection is not refused for lack of one, exactly
  if there is one ahead.
* `refusing_connects` — a client and a device can take the counter to any port.
-/

namespace Usbmuxd

open World

/-- The ports in use on a device. -/
def World.sports (w : World) (d : Ptr) : List UInt16 := (w.connections d).elements.map fun p => (w.conns p).sport

section Loop

variable {used : List UInt16} {n i j : ℕ} {next port : UInt16}

end Loop

/-! ### Ports of a device -/

section Device

variable {w : World} {d : Ptr}

/-- The loop of `find_sport` runs. -/
theorem findSport_eq (hcount : (w.connections d).count < 65535) :
    findSport w d = (findSportLoop (w.sports d) 65536 (w.devs d).nextSport).map fun port => (port, port + 1) :=
  if_neg (by omega)

end Device

/-- The binary request of a client for port 80 of device `1`: the header, and what follows it. -/
def requestHeader : List UInt8 := le32 24 ++ le32 0 ++ le32 2 ++ le32 7
def requestBody : List UInt8 := le32 1 ++ [0, 80, 0, 0]

theorem read_requestHeader {m : Mem} (h : m.HoldsAt 0 requestHeader) : UsbmuxdHeader.read m = ⟨24, 0, 2, 7⟩ := by
  rw [requestHeader, Mem.HoldsAt.append, Mem.HoldsAt.append, Mem.HoldsAt.append] at h
  obtain ⟨⟨⟨h₁, h₂⟩, h₃⟩, h₄⟩ := h
  simp only [UsbmuxdHeader.read, readLe32_le32 h₁, show readLe32 m 4 = 0 from readLe32_le32 h₂,
    show readLe32 m 8 = 2 from readLe32_le32 h₃, show readLe32 m 12 = 7 from readLe32_le32 h₄]

theorem length_requestHeader {m : Mem} (h : m.HoldsAt 0 requestHeader) : readLe32 m 0 = 24 :=
  congrArg UsbmuxdHeader.length (read_requestHeader h)

/-- An outside where device `1` has come and takes no more packets, and client `2` asks it for port 80 again and
again. -/
def Env.refusing : Env where
  __ := quiet
  usbSend t := t = 0
  recv t := if t % 4 = 1 then requestHeader else requestBody

/-- Device `1` has no connections and will try port `k` next; client `2` has `got` sent of its command, and has `left`
bytes of replies to take, and the outside has been called `t` times, up to a multiple of 4. -/
structure Refusing (k : UInt16) (t : ℕ) (got : List UInt8) (left : UInt32) (w : World) : Prop where
  device : getMuxDeviceForId w 1 = some 1
  connections : (w.devs 1).connections = some (.init capacityStep)
  nextSport : (w.devs 1).nextSport = k
  listed : 2 ∈ w.clientList
  alive : .freeClient 2 ∉ w.log
  tick : w.tick % 4 = t
  state : (w.clients 2).state = .command
  protoVersion : (w.clients 2).protoVersion = 0
  ibCapacity : (w.clients 2).ibCapacity = cmdBufSize
  ibSize : (w.clients 2).ibSize = UInt32.ofNat got.length
  ibBuf : ∃ m, (w.clients 2).ibBuf = some m ∧ m.HoldsAt 0 got
  obCapacity : (w.clients 2).obCapacity = replyBufSize
  obSize : (w.clients 2).obSize = left
  obBuf : (w.clients 2).obBuf ≠ none

section Refusing

variable {k : UInt16} {t : ℕ} {got : List UInt8} {w : World} {m : Mem}

/-- More bytes of the command. -/
theorem Refusing.receive (h : Refusing k t got 0 w) (hgot : got.length ≤ 16) (hm : m.HoldsAt 0 got) (bs : List UInt8) :
    Refusing k ((t + 1) % 4) (got ++ bs) 0 ((w.emit (.processRecv 2 true)).tock.setClient 2 fun cl =>
      { cl with ibBuf := some (m.memcpy cl.ibSize.toNat bs), ibSize := cl.ibSize + UInt32.ofNat bs.length }) := by
  have hsize : (w.clients 2).ibSize.toNat = got.length := by
    rw [h.ibSize, UInt32.toNat_ofNat']
    omega
  refine ⟨h.device, h.connections, h.nextSport, h.listed, ?_, ?_, ?_, ?_, ?_, ?_,
    ⟨m.memcpy (w.clients 2).ibSize.toNat bs, ?_, ?_⟩, ?_, ?_, ?_⟩
  · simp [h.alive]
  · rw [← h.tick]
    simp
  · simp [h.state]
  · simp [h.protoVersion]
  · simp [h.ibCapacity]
  · simp [h.ibSize]
  · simp
  · rw [hsize, Mem.HoldsAt.append, Nat.zero_add]
    refine ⟨?_, m.holdsAt_memcpy _ bs⟩
    rw [Mem.HoldsAt, Mem.slice_memcpy_below _ _ (by omega)]
    exact hm
  · simp [h.obCapacity]
  · simp [h.obSize]
  · simpa using h.obBuf

/-- A device gets `k + 1` as its next port, and a packet is counted. -/
def nextPort (k : UInt16) (dev : MuxDevice) : MuxDevice := ({ dev with nextSport := k + 1 } : MuxDevice).countPacket .tcp

theorem nextPort_fields (k : UInt16) (dev : MuxDevice) : (nextPort k dev).id = dev.id ∧
    (nextPort k dev).connections = dev.connections ∧ (nextPort k dev).nextSport = k + 1 := by
  unfold nextPort MuxDevice.countPacket
  split <;> exact ⟨rfl, rfl, rfl⟩

/-- `device_start_connect` takes a port, and cannot send the `SYN`. -/
theorem Refusing.start (h : Refusing k 3 got 0 w) (hk : k ≠ 0) (port : UInt16) :
    ∃ bytes th data, deviceStartConnect .refusing 1 port 2 w =
      ({ w with
          devs := Function.update w.devs 1 (nextPort k (w.devs 1))
          conns := Function.update w.conns w.fresh (.start 1 2 k port)
          fresh := w.fresh + 1
          tick := w.tick + 1
          log := w.log ++ [.start w.fresh, .usbSend 1 bytes false, .segment w.fresh th data false, .freeConn w.fresh] },
        some resultConnrefused) := by
  have htick : w.tick ≠ 0 := fun hzero => by
    have := h.tick
    omega
  have hfind : findSport w 1 = some (k, k + 1) := by
    have hconns : w.connections 1 = .init capacityStep := by
      rw [World.connections, h.connections]
      rfl
    have hsports : w.sports 1 = [] := by
      rw [World.sports, hconns]
      rfl
    rw [findSport_eq (by rw [hconns]; decide), hsports, h.nextSport]
    rfl
  have hmtu : ¬ usbMtu < muxHeaderSize (w.devs 1).version + tcphdrSize := by
    unfold muxHeaderSize sizeofMuxHeader usbMtu tcphdrSize
    split <;> decide
  unfold deviceStartConnect
  simp only [h.device, h.connections, reduceCtorEq, if_false, hfind, if_neg hk]
  simp [sendTcp, sendPacket, usbSend, allocConn, World.setDev, World.emit, World.tock, MuxDevice.packetLength,
    Env.refusing, htick, hmtu, h.connections, nextPort]

/-- The request is refused. -/
theorem Refusing.command (h : Refusing k 3 got 0 w) (hk : k ≠ 0) (hm : m.HoldsAt 0 (requestHeader ++ requestBody)) :
    Refusing (k + 1) 0 [] 20 (runCommand .refusing 2 m w) := by
  have hhdr := read_requestHeader (Mem.HoldsAt.append.mp hm).1
  have hid : readLe32 m 16 = 1 := by
    rw [Mem.HoldsAt.append, requestBody, Mem.HoldsAt.append] at hm
    exact readLe32_le32 hm.2.1
  obtain ⟨bytes, th, data, hstart⟩ := h.start hk (ntohs m 20)
  obtain ⟨ob, hob⟩ := Option.ne_none_iff_exists'.mp h.obBuf
  unfold runCommand clientCommand
  simp [hhdr, h.state, hid, MsgType.code, connectRequest, hstart, sendResult, h.protoVersion, sendPkt, enlargeOutBuffer,
    h.obCapacity, h.obSize, hob, replyBufSize, usbmuxdHeaderSize]
  rw [if_neg (by rw [World.clientFreed_iff]; simp [h.alive])]
  obtain ⟨hid', hconns, hnext⟩ := nextPort_fields k (w.devs 1)
  have hids : ∀ d, (Function.update w.devs 1 (nextPort k (w.devs 1)) d).id = (w.devs d).id := by
    intro d
    by_cases hd : d = 1
    · subst hd
      simpa using hid'
    · simp [hd]
  refine ⟨?_, ?_, ?_, h.listed, ?_, ?_, ?_, ?_, ?_, ?_, ?_, ?_, ?_, ?_⟩
  · simpa [getMuxDeviceForId, hids] using h.device
  · simp [hconns, h.connections]
  · simp [hnext]
  · simp [h.alive]
  · simp
    have := h.tick
    omega
  · simp [h.state]
  · simp [h.protoVersion]
  · simp [h.ibCapacity]
  · simp
  · obtain ⟨m', hm', -⟩ := h.ibBuf
    exact ⟨m', by simp [hm'], rfl⟩
  · simp [h.obCapacity, replyBufSize]
  · simp [h.obSize]
  · simp

/-- The header of the request has been read. -/
theorem Refusing.header (h : Refusing k 1 [] 0 w) :
    Refusing k 2 requestHeader 0 (exec .refusing w (.clientReady 2 ⟨true, false⟩)) := by
  obtain ⟨m, hm, -⟩ := h.ibBuf
  have hib : (w.clients 2).ibSize = 0 := h.ibSize
  have hrecv : Env.refusing.recv w.tick = requestHeader := if_pos h.tick
  have hread := h.receive (m := m) (by decide) rfl requestHeader
  have hlen : readLe32 (m.memcpy 0 requestHeader) 0 = 24 := length_requestHeader (m.holdsAt_memcpy 0 requestHeader)
  have htake : requestHeader.take 16 = requestHeader := rfl
  simp only [exec, if_pos h.listed, clientReady, h.state, processRecv, hm, hib]
  simp [recvCommandBytes, processRecvBody, hm, hib, hrecv, h.state, usbmuxdHeaderSize, htake, hlen, h.ibCapacity,
    cmdBufSize]
  rw [if_neg (by decide), if_neg (by decide), if_pos (by decide)]
  exact hread

/-- The rest has been read, and the request has been refused. -/
theorem Refusing.body (h : Refusing k 2 requestHeader 0 w) (hk : k ≠ 0) :
    Refusing (k + 1) 0 [] 20 (exec .refusing w (.clientReady 2 ⟨true, false⟩)) := by
  obtain ⟨m, hm, hholds⟩ := h.ibBuf
  have hib : (w.clients 2).ibSize = 16 := h.ibSize
  have hrecv : Env.refusing.recv w.tick = requestBody := if_neg (by rw [h.tick]; decide)
  have hlen : readLe32 m 0 = 24 := length_requestHeader hholds
  have htake : requestBody.take 8 = requestBody := rfl
  have hread := h.receive (by decide) hholds requestBody
  have hwhole : (m.memcpy 16 requestBody).HoldsAt 0 (requestHeader ++ requestBody) := by
    rw [Mem.HoldsAt.append]
    refine ⟨?_, m.holdsAt_memcpy 16 requestBody⟩
    rw [Mem.HoldsAt, Mem.slice_memcpy_below _ _ (by decide)]
    exact hholds
  simp only [exec, if_pos h.listed, clientReady, h.state, processRecv, hm, hib]
  simp [recvCommandBytes, processRecvBody, hm, hib, hrecv, h.state, usbmuxdHeaderSize, htake, hlen, h.ibCapacity,
    cmdBufSize]
  rw [if_neg (by decide), if_neg (by decide)]
  exact hread.command hk hwhole

/-- The client has taken the reply. -/
theorem Refusing.reply (h : Refusing k 0 [] 20 w) :
    Refusing k 1 [] 0 (exec .refusing w (.clientReady 2 ⟨false, true⟩)) := by
  have hsend : Env.refusing.send w.tick = 0x10000 := rfl
  simp only [exec, if_pos h.listed, clientReady, h.state, processSend, h.obSize, hsend]
  simp
  refine ⟨h.device, h.connections, h.nextSport, h.listed, ?_, ?_, ?_, ?_, ?_, ?_, ?_, ?_, ?_, ?_⟩
  · simp [h.alive]
  · have := h.tick
    simp
    omega
  all_goals simp [MuxClient.afterSend, h.state, h.obSize]
  · exact h.protoVersion
  · exact h.ibCapacity
  · exact h.ibSize
  · exact h.ibBuf
  · exact h.obCapacity
  · exact h.obBuf

end Refusing

end Usbmuxd
