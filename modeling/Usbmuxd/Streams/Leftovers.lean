import Usbmuxd.Runs.Rebuffer
import Usbmuxd.Model.Loop

/-!
# Leftovers of earlier commands

A client's command buffer is not cleared. Behind the bytes of the command that is being received it still holds those
of the commands before it.

## The model

* `AgreeOnReceived` — two worlds that are the same but for these leftovers.
* `incoming` — what is there of a command when `process_recv` has read.
* `StandsAlone` — in worlds that agree but for the leftovers a command has the same effect.
* `ShortConnect` — a binary `Connect` that ends in front of its last byte.

## What is proved

* `clientCommand_congr` — `client_command` looks at no byte behind the command, but for such a `Connect`.
* `standsAlone_iff` — a command stands alone if and only if it is no such `Connect`.
* `shortConnect_leftover` — a client that sends no more than the header of a `Connect` is connected to a port from the
  command before it.
-/

namespace Usbmuxd

open World

/-- What a client's command buffer holds of a command. -/
def World.received (w : World) (c : Ptr) : List UInt8 :=
  ((w.clients c).ibBuf.getD default).slice 0 (w.clients c).ibSize.toNat

/-- A client that has received `bs`. -/
@[simps]
def MuxClient.receive (cl : MuxClient) (bs : List UInt8) : MuxClient :=
  { cl with
    ibBuf := some ((cl.ibBuf.getD default).memcpy cl.ibSize.toNat bs)
    ibSize := cl.ibSize + UInt32.ofNat bs.length }

/-- The world after a call of `process_recv` that reads `bs` from the client `c` and does nothing else. -/
def World.receive (w : World) (c : Ptr) (bs : List UInt8) : World :=
  (w.emit (.processRecv c true)).tock.setClient c (·.receive bs)

/-- The worlds are the same but for the bytes of the command buffer of `c` behind those received. A client that has
been freed has no command buffer. -/
def AgreeOnReceived (c : Ptr) (w w' : World) : Prop :=
  ∃ m, w' = w.rebuffer c m ∧ (w.clientFreed c = false → w'.received c = w.received c)

/-- What there is of a command when a call of `process_recv` has read: it reads up to the end of the header, and then
up to the end of the command. -/
def incoming (env : Env) (c : Ptr) (w : World) : List UInt8 :=
  let client := w.clients c
  let wanted :=
    if client.ibSize < usbmuxdHeaderSize then usbmuxdHeaderSize else readLe32 (client.ibBuf.getD default) 0
  w.received c ++ (env.recv w.tick).take (wanted.toNat - client.ibSize.toNat)

/-- The header of a command. -/
def UsbmuxdHeader.ofBytes (bs : List UInt8) : UsbmuxdHeader := .read ((default : Mem).memcpy 0 bs)

/-- A command that `process_recv` accepts. -/
structure Accepted (bs : List UInt8) : Prop where
  length : (UsbmuxdHeader.ofBytes bs).length.toNat = bs.length
  header : usbmuxdHeaderSize.toNat ≤ bs.length
  capacity : bs.length ≤ cmdBufSize.toNat

/-- The bytes of a `struct usbmuxd_connect_request` up to the end of `port`. -/
def connectRequestSize : ℕ := 22

/-- A binary `Connect` without all of its bytes. -/
def ShortConnect (bs : List UInt8) : Prop :=
  ((UsbmuxdHeader.ofBytes bs).version = 0 ∨ (UsbmuxdHeader.ofBytes bs).version = 1) ∧
    (UsbmuxdHeader.ofBytes bs).message = MsgType.connect.code ∧ bs.length < connectRequestSize

/-- While a command arrives and when it is there, a call of `process_recv` does the same in worlds that agree but for
the leftovers. -/
def StandsAlone (bs : List UInt8) : Prop :=
  ∀ env c w w', w.clientFreed c = false → AgreeOnReceived c w w' → incoming env c w <+: bs →
    AgreeOnReceived c (processRecv env c w) (processRecv env c w')

/-! ### What a command is read from -/

section Reading

variable {b b' : Mem} {n : ℕ}

theorem prefix_of_eq {bs bs' : List UInt8} (h : bs = bs') : bs <+: bs' := h ▸ List.prefix_refl bs

/-- The bytes of two slices. -/
theorem slice_eq_iff : b'.slice 0 n = b.slice 0 n ↔ ∀ i < n, b' i = b i := by
  constructor
  · intro h i hi
    have hbyte := List.getElem_of_eq h (i := i) (by simpa using hi)
    simpa [Mem.getElem_slice] using hbyte
  · intro h
    exact Mem.slice_congr fun i hi => by simpa using h i hi

theorem readLe32_congr {a : ℕ} (h : ∀ i < n, b' i = b i) (ha : a + 4 ≤ n) : readLe32 b' a = readLe32 b a := by
  simp only [readLe32, h a (by omega), h (a + 1) (by omega), h (a + 2) (by omega), h (a + 3) (by omega)]

theorem ntohs_congr {a : ℕ} (h : ∀ i < n, b' i = b i) (ha : a + 2 ≤ n) : ntohs b' a = ntohs b a := by
  simp only [ntohs, h a (by omega), h (a + 1) (by omega)]

theorem header_congr (h : ∀ i < n, b' i = b i) (hn : 16 ≤ n) : UsbmuxdHeader.read b' = UsbmuxdHeader.read b := by
  simp only [UsbmuxdHeader.read, readLe32_congr h (a := 0) (by omega), readLe32_congr h (a := 4) (by omega),
    readLe32_congr h (a := 8) (by omega), readLe32_congr h (a := 12) (by omega)]

/-- The header is that of the bytes received. -/
theorem header_received {bs : List UInt8} (h : b.slice 0 n <+: bs) (hn : 16 ≤ n) :
    UsbmuxdHeader.read b = .ofBytes bs := by
  have hle : n ≤ bs.length := by simpa using h.length_le
  have hbytes : ((default : Mem).memcpy 0 bs).slice 0 n = b.slice 0 n := by
    rw [← Mem.take_slice _ 0 bs.length n hle, Mem.slice_memcpy_self, List.prefix_iff_eq_take.mp h, Mem.length_slice]
  exact (header_congr (slice_eq_iff.mp hbytes) hn).symm

/-- `client_command` looks at no byte behind the command, but for a `Connect` that is too short. -/
theorem clientCommand_congr (h : ∀ i < n, b' i = b i) (hheader : 16 ≤ (UsbmuxdHeader.read b).length.toNat)
    (hlength : (UsbmuxdHeader.read b).length.toNat ≤ n)
    (hconnect : ((UsbmuxdHeader.read b).version = 0 ∨ (UsbmuxdHeader.read b).version = 1) →
      (UsbmuxdHeader.read b).message = MsgType.connect.code → connectRequestSize ≤ n)
    (env : Env) (c : Ptr) (w : World) :
    clientCommand env c b' w = clientCommand env c b w := by
  have hpayload : b'.slice 16 ((UsbmuxdHeader.read b).length - usbmuxdHeaderSize).toNat =
      b.slice 16 ((UsbmuxdHeader.read b).length - usbmuxdHeaderSize).toNat := by
    have hsub : ((UsbmuxdHeader.read b).length - usbmuxdHeaderSize).toNat = (UsbmuxdHeader.read b).length.toNat - 16 :=
      UInt32.toNat_sub_of_le _ _ (UInt32.le_iff_toNat_le.mpr hheader)
    exact Mem.slice_congr fun i hi => h _ (by omega)
  unfold clientCommand
  rw [header_congr h (by omega)]
  dsimp only
  rw [hpayload]
  by_cases hmsg : (UsbmuxdHeader.read b).message = MsgType.connect.code
  · by_cases hversion : (UsbmuxdHeader.read b).version ≠ 0 ∧ (UsbmuxdHeader.read b).version ≠ 1
    · simp only [if_pos hversion]
    · have hlong : 22 ≤ n := hconnect ((not_and_or.mp hversion).imp not_not.mp not_not.mp) hmsg
      rw [readLe32_congr h (a := 16) (by omega), ntohs_congr h (a := 20) (by omega)]
  · simp only [if_neg hmsg]

end Reading

/-! ### Worlds that agree -/

section Agree

variable {env : Env} {c : Ptr} {w w' : World} {m buffer : Mem}

/-- Nothing is changed when the bytes are there already. -/
theorem rebuffer_self (h : (w.clients c).ibBuf.map (fun _ => m) = (w.clients c).ibBuf) : w.rebuffer c m = w := by
  have hsame : (w.clients c).rebuffer m = w.clients c := by rw [MuxClient.rebuffer, h]
  rw [World.rebuffer, setClient, hsame, Function.update_eq_self]

theorem rebuffer_some (h : (w.clients c).ibBuf = some buffer) : ((w.rebuffer c m).clients c).ibBuf = some m := by
  simp [World.rebuffer, MuxClient.rebuffer, h]

theorem received_some (h : (w.clients c).ibBuf = some buffer) :
    w.received c = buffer.slice 0 (w.clients c).ibSize.toNat := by
  simp [World.received, h]

@[simp] theorem length_received : (w.received c).length = (w.clients c).ibSize.toNat := Mem.length_slice ..

theorem AgreeOnReceived.refl (c : Ptr) (w : World) : AgreeOnReceived c w w := by
  refine ⟨(w.clients c).ibBuf.getD default, (rebuffer_self ?_).symm, fun _ => rfl⟩
  cases (w.clients c).ibBuf <;> rfl

theorem AgreeOnReceived.ibSize (h : AgreeOnReceived c w w') : (w'.clients c).ibSize = (w.clients c).ibSize := by
  obtain ⟨m, rfl, -⟩ := h
  exact rebuffer_ibSize c

theorem AgreeOnReceived.emit (h : AgreeOnReceived c w w') (hlive : w.clientFreed c = false) (e : Event) :
    AgreeOnReceived c (w.emit e) (w'.emit e) := by
  obtain ⟨m, rfl, hreceived⟩ := h
  exact ⟨m, rfl, fun _ => hreceived hlive⟩

/-- The client is closed in both worlds. -/
theorem AgreeOnReceived.closeClient (h : AgreeOnReceived c w w') :
    AgreeOnReceived c (closeClient env c w) (closeClient env c w') := by
  obtain ⟨m, rfl, -⟩ := h
  refine ⟨m, rebuffer_closeClient c, fun hlive => ?_⟩
  have hfreed : (Usbmuxd.closeClient env c w).clientFreed c = true := by
    rw [clientFreed_iff]
    unfold Usbmuxd.closeClient callDepth clientClose
    simp
  rw [hfreed] at hlive
  cases hlive

/-- What `recv` delivers goes behind what was there. -/
theorem recvCommandBytes_received (env : Env) (len : UInt32) (hbuf : (w.clients c).ibBuf = some buffer)
    (hroom : (w.clients c).ibSize.toNat + len.toNat < 4294967296) :
    (recvCommandBytes env c len w).1.received c = w.received c ++ (env.recv w.tick).take len.toNat ∧
      ((recvCommandBytes env c len w).1.clients c).ibBuf =
        some (buffer.memcpy (w.clients c).ibSize.toNat ((env.recv w.tick).take len.toNat)) := by
  unfold recvCommandBytes
  rw [hbuf]
  have hlen := List.length_take_le len.toNat (env.recv w.tick)
  have hsize : ((w.clients c).ibSize + UInt32.ofNat ((env.recv w.tick).take len.toNat).length).toNat =
      (w.clients c).ibSize.toNat + ((env.recv w.tick).take len.toNat).length := by
    rw [UInt32.toNat_add, UInt32.toNat_ofNat', Nat.mod_eq_of_lt (a := List.length _) (by omega),
      Nat.mod_eq_of_lt (by omega)]
  refine ⟨?_, by simp⟩
  rw [received_some hbuf, ← Mem.slice_memcpy_append, ← hsize]
  simp [World.received]

/-- The two worlds read the same, and agree on it. -/
theorem AgreeOnReceived.recvCommandBytes (env : Env) (h : AgreeOnReceived c w w') (hlive : w.clientFreed c = false) (len : UInt32)
    (hroom : (w.clients c).ibSize.toNat + len.toNat < 4294967296) :
    (Usbmuxd.recvCommandBytes env c len w').2 = (Usbmuxd.recvCommandBytes env c len w).2 ∧
      AgreeOnReceived c (Usbmuxd.recvCommandBytes env c len w).1 (Usbmuxd.recvCommandBytes env c len w').1 := by
  obtain ⟨m, rfl, hreceived⟩ := h
  cases hbuf : (w.clients c).ibBuf with
  | none =>
    rw [rebuffer_self (by rw [hbuf]; rfl)]
    exact ⟨rfl, .refl ..⟩
  | some buffer =>
    have hbuf' := rebuffer_some (m := m) hbuf
    obtain ⟨hgot, -⟩ := recvCommandBytes_received env len hbuf hroom
    obtain ⟨hgot', -⟩ := recvCommandBytes_received env len hbuf' (by rwa [rebuffer_ibSize])
    rw [rebuffer_tick, hreceived hlive, ← hgot] at hgot'
    refine ⟨?_, m.memcpy (w.clients c).ibSize.toNat ((env.recv w.tick).take len.toNat), ?_, fun _ => hgot'⟩
    · unfold Usbmuxd.recvCommandBytes
      rw [hbuf, hbuf', rebuffer_tick]
    · unfold Usbmuxd.recvCommandBytes
      rw [hbuf, hbuf', rebuffer_tick]
      simp [World.rebuffer, setClient, tock, MuxClient.rebuffer]

@[simp] theorem recvCommandBytes_clientFreed (env : Env) (len : UInt32) :
    (Usbmuxd.recvCommandBytes env c len w).1.clientFreed c = w.clientFreed c := by
  unfold Usbmuxd.recvCommandBytes
  split <;> rfl

/-- The command in the buffer is carried out in both worlds. -/
theorem AgreeOnReceived.runCommand (env : Env) (h : AgreeOnReceived c w w') (hlive : w.clientFreed c = false)
    (hbuf : (w.clients c).ibBuf = some buffer) (hheader : 16 ≤ (UsbmuxdHeader.read buffer).length.toNat)
    (hlength : (UsbmuxdHeader.read buffer).length.toNat ≤ (w.clients c).ibSize.toNat)
    (hconnect : ((UsbmuxdHeader.read buffer).version = 0 ∨ (UsbmuxdHeader.read buffer).version = 1) →
      (UsbmuxdHeader.read buffer).message = MsgType.connect.code → connectRequestSize ≤ (w.clients c).ibSize.toNat) :
    AgreeOnReceived c (runCommand env c buffer w) (runCommand env c ((w'.clients c).ibBuf.getD default) w') := by
  obtain ⟨m, rfl, hreceived⟩ := h
  have hbytes := hreceived hlive
  rw [received_some hbuf, received_some (rebuffer_some hbuf), rebuffer_ibSize] at hbytes
  rw [rebuffer_some hbuf, Option.getD_some]
  unfold Usbmuxd.runCommand
  rw [clientCommand_congr (slice_eq_iff.mp hbytes) hheader hlength hconnect, rebuffer_clientCommand]
  generalize clientCommand env c buffer w = v
  have hfreed : (v.rebuffer c m).clientFreed c = v.clientFreed c := rfl
  dsimp only
  rw [hfreed]
  split
  · rename_i hv
    refine ⟨m, rfl, fun hlive' => ?_⟩
    rw [show (v.emit (.fault .freedClient)).clientFreed c = true from
      (clientFreed_iff _).mpr (List.mem_append_left _ ((clientFreed_iff _).mp hv))] at hlive'
    cases hlive'
  · rw [rebuffer_setClient fun _ => rfl]
    refine ⟨m, rfl, fun _ => ?_⟩
    simp [World.received]

end Agree

section Receiving

variable {env : Env} {c : Ptr} {w w' : World} {bs : List UInt8}

/-- A command that is complete is long enough for its last byte, if it is no short `Connect`. -/
theorem Accepted.connect_long (hbs : Accepted bs) (hshort : ¬ ShortConnect bs) {b : Mem} {n : ℕ}
    (hstart : b.slice 0 n <+: bs) (hn : 16 ≤ n) (hlength : (UsbmuxdHeader.read b).length.toNat ≤ n)
    (hversion : (UsbmuxdHeader.read b).version = 0 ∨ (UsbmuxdHeader.read b).version = 1)
    (hmessage : (UsbmuxdHeader.read b).message = MsgType.connect.code) : connectRequestSize ≤ n := by
  rw [header_received hstart hn] at hlength hversion hmessage
  by_contra hlt
  exact hshort ⟨hversion, hmessage, by rw [hbs.length] at hlength; omega⟩

theorem AgreeOnReceived.processRecvBody (hbs : Accepted bs) (hshort : ¬ ShortConnect bs)
    (h : AgreeOnReceived c w w') (hlive : w.clientFreed c = false) (didRead : Bool)
    (hheader : 16 ≤ (w.clients c).ibSize.toNat) (hnow : w.received c <+: bs)
    (hnext : didRead = false → w.received c ++ (env.recv w.tick).take
      ((readLe32 ((w.clients c).ibBuf.getD default) 0).toNat - (w.clients c).ibSize.toNat) <+: bs) :
    AgreeOnReceived c (processRecvBody env c didRead w) (processRecvBody env c didRead w') := by
  cases hbuf : (w.clients c).ibBuf with
  | none =>
    obtain ⟨m, rfl, -⟩ := h
    rw [rebuffer_self (by rw [hbuf]; rfl)]
    exact .refl ..
  | some b =>
    have hagree := h
    obtain ⟨m, rfl, hreceived⟩ := h
    have hbytes := hreceived hlive
    rw [received_some hbuf, received_some (rebuffer_some hbuf), rebuffer_ibSize, slice_eq_iff] at hbytes
    unfold Usbmuxd.processRecvBody
    simp only [hbuf, rebuffer_some hbuf, rebuffer_ibSize, rebuffer_ibCapacity,
      readLe32_congr hbytes (a := 0) (by omega)]
    split
    · exact hagree.closeClient
    split
    · exact hagree.closeClient
    rename_i hsize
    have hsixteen : 16 ≤ (UsbmuxdHeader.read b).length.toNat := UInt32.le_iff_toNat_le.mp (UInt32.not_lt.mp hsize)
    split
    · rename_i hmore
      split
      · exact hagree
      have hsub : (readLe32 b 0 - (w.clients c).ibSize).toNat = (readLe32 b 0).toNat - (w.clients c).ibSize.toNat :=
        UInt32.toNat_sub_of_le _ _ (UInt32.le_of_lt hmore)
      have hroom : (w.clients c).ibSize.toNat + (readLe32 b 0 - (w.clients c).ibSize).toNat < 4294967296 := by
        have := (readLe32 b 0).toNat_lt
        have := UInt32.lt_iff_toNat_lt.mp hmore
        omega
      obtain ⟨hcount, hread⟩ := hagree.recvCommandBytes env hlive _ hroom
      obtain ⟨hgot, hgotbuf⟩ := recvCommandBytes_received env _ hbuf hroom
      have hlive' := (recvCommandBytes_clientFreed env (readLe32 b 0 - (w.clients c).ibSize)).trans hlive
      generalize Usbmuxd.recvCommandBytes env c (readLe32 b 0 - (w.clients c).ibSize) w = r at *
      generalize Usbmuxd.recvCommandBytes env c (readLe32 b 0 - (w.clients c).ibSize) (w.rebuffer c m) = r' at *
      rw [hcount, hread.ibSize]
      split
      · exact hread.closeClient
      split
      · exact hread
      rename_i hdone
      have hdone := UInt32.le_iff_toNat_le.mp (UInt32.not_lt.mp hdone)
      generalize hb' : b.memcpy (w.clients c).ibSize.toNat _ = b' at hgotbuf
      -- the rest of the command goes behind its header
      have hkept : ∀ i < 16, b' i = b i := fun i hi => by rw [← hb', Mem.memcpy, if_neg (by omega)]
      have hlength : (UsbmuxdHeader.read b').length = readLe32 b 0 := readLe32_congr hkept (by omega)
      have hstart : b'.slice 0 (r.1.clients c).ibSize.toNat <+: bs := by
        rw [← received_some hgotbuf, hgot, hsub]
        simpa [hbuf] using hnext (by simp_all)
      rw [hgotbuf, Option.getD_some]
      exact hread.runCommand env hlive' hgotbuf (by rwa [hlength]) (by rwa [hlength])
        (hbs.connect_long hshort hstart (hsixteen.trans hdone) (by rwa [hlength]))
    · rename_i hdone
      have hdone := UInt32.le_iff_toNat_le.mp (UInt32.not_lt.mp hdone)
      rw [received_some hbuf] at hnow
      have hrun := hagree.runCommand env hlive hbuf hsixteen hdone (hbs.connect_long hshort hnow hheader hdone)
      rwa [rebuffer_some hbuf, Option.getD_some] at hrun

/-- A call of `process_recv` while a command arrives that is no short `Connect`. -/
theorem AgreeOnReceived.processRecv (hbs : Accepted bs) (hshort : ¬ ShortConnect bs) (h : AgreeOnReceived c w w')
    (hlive : w.clientFreed c = false) (hincoming : incoming env c w <+: bs) :
    AgreeOnReceived c (processRecv env c w) (processRecv env c w') := by
  have hcall := h.emit hlive (.processRecv c (w.clients c).ibBuf.isSome)
  have hlive' : (w.emit (.processRecv c (w.clients c).ibBuf.isSome)).clientFreed c = false := by
    simpa [clientFreed] using hlive
  have hnow : w.received c <+: bs := (List.prefix_append _ _).trans hincoming
  have hagree := h
  obtain ⟨m, rfl, -⟩ := h
  unfold Usbmuxd.processRecv incoming at *
  simp only [rebuffer_isSome, rebuffer_ibSize] at *
  split
  · rename_i hsize
    rw [if_pos hsize] at hincoming
    have hsub : (usbmuxdHeaderSize - (w.clients c).ibSize).toNat =
        usbmuxdHeaderSize.toNat - (w.clients c).ibSize.toNat := UInt32.toNat_sub_of_le _ _ (UInt32.le_of_lt hsize)
    have hroom : (w.clients c).ibSize.toNat + (usbmuxdHeaderSize - (w.clients c).ibSize).toNat < 4294967296 := by
      have := UInt32.lt_iff_toNat_lt.mp hsize
      have : usbmuxdHeaderSize.toNat = 16 := rfl
      omega
    obtain ⟨hcount, hread⟩ := hcall.recvCommandBytes env hlive' _ hroom
    have hlive'' := (recvCommandBytes_clientFreed env (usbmuxdHeaderSize - (w.clients c).ibSize)).trans hlive'
    have hgot : (Usbmuxd.recvCommandBytes env c (usbmuxdHeaderSize - (w.clients c).ibSize)
        (w.emit (.processRecv c (w.clients c).ibBuf.isSome))).1.received c <+: bs := by
      cases hbuf : (w.clients c).ibBuf with
      | none =>
        unfold Usbmuxd.recvCommandBytes
        simp only [emit_clients, hbuf]
        exact hnow
      | some b =>
        rw [(recvCommandBytes_received (w := w.emit _) env _ hbuf hroom).1, hsub]
        exact hincoming
    generalize Usbmuxd.recvCommandBytes env c (usbmuxdHeaderSize - (w.clients c).ibSize)
      (w.emit (.processRecv c (w.clients c).ibBuf.isSome)) = r at *
    generalize Usbmuxd.recvCommandBytes env c (usbmuxdHeaderSize - (w.clients c).ibSize)
      ((w.rebuffer c m).emit (.processRecv c (w.clients c).ibBuf.isSome)) = r' at *
    rw [hcount, hread.ibSize]
    split
    · exact hread.closeClient
    split
    · exact hread
    rename_i hdone
    exact hread.processRecvBody hbs hshort hlive'' true (UInt32.le_iff_toNat_le.mp (UInt32.not_lt.mp hdone)) hgot
      fun hread => by cases hread
  · rename_i hsize
    rw [if_neg hsize] at hincoming
    exact hcall.processRecvBody hbs hshort hlive' false (UInt32.le_iff_toNat_le.mp (UInt32.not_lt.mp hsize)) hnow
      fun _ => hincoming

/-- The bytes that come go behind those received, and nothing else is changed. -/
theorem received_receive (w : World) (c : Ptr) {got : List UInt8} (hroom : (w.received c).length + got.length ≤ cmdBufSize.toNat) :
    ((w.receive c got).clients c).ibSize.toNat = (w.received c).length + got.length ∧
      (w.receive c got).received c = w.received c ++ got := by
  rw [length_received] at hroom
  have hmax : cmdBufSize.toNat = 65536 := rfl
  have hsize : ((w.receive c got).clients c).ibSize.toNat = (w.received c).length + got.length := by
    simp only [World.receive, setClient_clients, Function.update_self, MuxClient.receive_ibSize, tock_clients,
      emit_clients, length_received]
    rw [UInt32.toNat_add, UInt32.toNat_ofNat', Nat.mod_eq_of_lt (a := got.length) (by omega),
      Nat.mod_eq_of_lt (by omega)]
  refine ⟨hsize, ?_⟩
  have hbuf : ((w.receive c got).clients c).ibBuf =
      some (((w.clients c).ibBuf.getD default).memcpy (w.clients c).ibSize.toNat got) := by simp [World.receive]
  rw [received_some hbuf, hsize, length_received, Mem.slice_memcpy_append]
  rfl

/-- A call of `process_recv` that reads some of the bytes of a command, and no more than there are. -/
theorem processRecv_reads (hbs : Accepted bs) (got : List UInt8) (hbuf : (w.clients c).ibBuf.isSome = true)
    (hcap : (w.clients c).ibCapacity = cmdBufSize) (hrecv : env.recv w.tick = got) (hne : got ≠ [])
    (hstage : (w.received c).length + got.length ≤ if (w.received c).length < 16 then 16 else bs.length)
    (hstart : w.received c ++ got <+: bs) :
    processRecv env c w =
      if w.received c ++ got = bs then
        runCommand env c (((w.receive c got).clients c).ibBuf.getD default) (w.receive c got)
      else w.receive c got := by
  obtain ⟨m, hbuf⟩ := Option.isSome_iff_exists.mp hbuf
  obtain ⟨hlength, hheader, hcapacity⟩ := hbs
  have hhdr : usbmuxdHeaderSize.toNat = 16 := rfl
  have hle : (w.received c).length + got.length ≤ bs.length := by simpa using hstart.length_le
  obtain ⟨husize, hureceived⟩ := @received_receive w c got (by omega)
  have hread : ∀ len : UInt32, got.length ≤ len.toNat →
      recvCommandBytes env c len (w.emit (.processRecv c true)) = (w.receive c got, got.length) := by
    intro len hlen
    have htake : (env.recv w.tick).take len.toNat = got := by rw [hrecv, List.take_of_length_le hlen]
    unfold recvCommandBytes
    simp only [emit_clients, emit_tick, hbuf, htake]
    simp [World.receive, MuxClient.receive, setClient, hbuf]
  have hucap : ((w.receive c got).clients c).ibCapacity = cmdBufSize := by simp [World.receive, hcap]
  obtain ⟨b, hubuf⟩ : ∃ b, ((w.receive c got).clients c).ibBuf = some b := ⟨_, by simp [World.receive]; rfl⟩
  generalize w.receive c got = u at *
  rw [received_some hubuf, husize] at hureceived
  have hgot : got.length ≠ 0 := by simpa using hne
  -- the header says how long the command is, once it is there
  have hfield : ∀ {x : Mem} {k : ℕ}, x.slice 0 k <+: bs → 16 ≤ k → (readLe32 x 0).toNat = bs.length := by
    intro x k hx hk
    rw [← hlength, ← header_received hx hk]
    rfl
  have hbounds : ∀ l : UInt32, l.toNat = bs.length → ¬ cmdBufSize < l ∧ ¬ l < usbmuxdHeaderSize := by
    intro l hl
    rw [UInt32.lt_iff_toNat_lt, UInt32.lt_iff_toNat_lt]
    omega
  have hwhole : w.received c ++ got = bs ↔ ¬ (w.received c).length + got.length < bs.length := by
    refine ⟨fun heq => by simp [← heq], fun hlt => hstart.eq_of_length ?_⟩
    rw [List.length_append]
    omega
  rw [hubuf, Option.getD_some]
  unfold processRecv
  simp only [hbuf, Option.isSome_some]
  by_cases hsmall : (w.clients c).ibSize < usbmuxdHeaderSize
  · have hsub : (usbmuxdHeaderSize - (w.clients c).ibSize).toNat =
        usbmuxdHeaderSize.toNat - (w.clients c).ibSize.toNat := UInt32.toNat_sub_of_le _ _ (UInt32.le_of_lt hsmall)
    have hlt := UInt32.lt_iff_toNat_lt.mp hsmall
    rw [length_received] at *
    rw [if_pos (by omega)] at hstage
    rw [if_pos hsmall, hread _ (by omega), if_neg hgot]
    by_cases hpart : (u.clients c).ibSize < usbmuxdHeaderSize
    · have hpart' := UInt32.lt_iff_toNat_lt.mp hpart
      rw [if_pos hpart, if_neg (by rw [hwhole]; omega)]
    · have hfull : 16 ≤ (u.clients c).ibSize.toNat := UInt32.le_iff_toNat_le.mp (UInt32.not_lt.mp hpart)
      have hL := hfield (by rw [hureceived]; exact hstart) (by omega : 16 ≤ (w.clients c).ibSize.toNat + got.length)
      rw [if_neg hpart]
      unfold processRecvBody
      simp only [hubuf, hucap]
      rw [if_neg (hbounds _ hL).1, if_neg (hbounds _ hL).2]
      by_cases hmore : (u.clients c).ibSize < readLe32 b 0
      · rw [if_pos hmore, if_pos trivial, if_neg (by rw [hwhole]; rw [UInt32.lt_iff_toNat_lt] at hmore; omega)]
      · rw [if_neg hmore, if_pos (by rw [hwhole]; rw [UInt32.lt_iff_toNat_lt] at hmore; omega)]
  · have hge := UInt32.le_iff_toNat_le.mp (UInt32.not_lt.mp hsmall)
    rw [length_received] at *
    rw [if_neg (by omega)] at hstage
    have hL := hfield ((List.prefix_append (m.slice 0 (w.clients c).ibSize.toNat) got).trans
      (by rwa [received_some hbuf] at hstart)) (by omega)
    have hlt : (w.clients c).ibSize < readLe32 m 0 := UInt32.lt_iff_toNat_lt.mpr (by omega)
    have hsub : (readLe32 m 0 - (w.clients c).ibSize).toNat = (readLe32 m 0).toNat - (w.clients c).ibSize.toNat :=
      UInt32.toNat_sub_of_le _ _ (UInt32.le_of_lt hlt)
    rw [if_neg hsmall]
    unfold processRecvBody
    simp only [emit_clients, hbuf, hcap]
    rw [if_neg (hbounds _ hL).1, if_neg (hbounds _ hL).2, if_pos hlt, if_neg (by decide), hread _ (by omega),
      if_neg hgot]
    by_cases hmore : (u.clients c).ibSize < readLe32 m 0
    · rw [if_pos hmore, if_neg (by rw [hwhole]; rw [UInt32.lt_iff_toNat_lt] at hmore; omega)]
    · rw [if_neg hmore, if_pos (by rw [hwhole]; rw [UInt32.lt_iff_toNat_lt] at hmore; omega), hubuf, Option.getD_some]

/-- A binary `Connect` is read from the bytes where its fields would stand. -/
theorem clientCommand_connect {b : Mem} (hstate : (w.clients c).state = .command)
    (hversion : (UsbmuxdHeader.read b).version = 0 ∨ (UsbmuxdHeader.read b).version = 1)
    (hmessage : (UsbmuxdHeader.read b).message = MsgType.connect.code) :
    clientCommand env c b w =
      connectRequest env c (UsbmuxdHeader.read b) (readLe32 b 16).toNat (ntohs b 20) w := by
  unfold clientCommand
  dsimp only
  rw [if_neg (not_not.mpr hstate), if_neg (by rcases hversion with h | h <;> simp [h]),
    if_neg (by rw [hmessage]; decide), if_neg (by rw [hmessage]; decide), if_pos hmessage]

/-- A plist message that is none is not answered. -/
theorem clientCommand_noPlist {b : Mem} (hstate : (w.clients c).state = .command)
    (hversion : (UsbmuxdHeader.read b).version = 0 ∨ (UsbmuxdHeader.read b).version = 1)
    (hmessage : (UsbmuxdHeader.read b).message = MsgType.plist.code)
    (hnone : ∀ payload, env.plistFromXml payload = none) :
    clientCommand env c b w = w.setClient c fun cl => { cl with protoVersion := 1 } := by
  unfold clientCommand handleClientPlistCommand
  dsimp only
  rw [if_neg (not_not.mpr hstate), if_neg (by rcases hversion with h | h <;> simp [h]), if_pos hmessage, hnone]

/-- The call that reads the end of such a message. -/
theorem processRecv_noPlist (hbs : Accepted bs) {got : List UInt8} (hbuf : (w.clients c).ibBuf.isSome = true)
    (hcap : (w.clients c).ibCapacity = cmdBufSize) (hrecv : env.recv w.tick = got) (hne : got ≠ [])
    (hstage : 16 ≤ (w.received c).length) (hwhole : w.received c ++ got = bs)
    (hstate : (w.clients c).state = .command) (hlive : w.clientFreed c = false)
    (hversion : (UsbmuxdHeader.ofBytes bs).version = 0 ∨ (UsbmuxdHeader.ofBytes bs).version = 1)
    (hmessage : (UsbmuxdHeader.ofBytes bs).message = MsgType.plist.code)
    (hnone : ∀ payload, env.plistFromXml payload = none) :
    processRecv env c w = ((w.receive c got).setClient c fun cl => { cl with protoVersion := 1 }).setClient c fun cl =>
      { cl with ibSize := 0 } := by
  have hlength : (w.received c).length + got.length = bs.length := by rw [← hwhole, List.length_append]
  rw [processRecv_reads hbs got hbuf hcap hrecv hne (by rw [if_neg (by omega)]; omega)
    (prefix_of_eq hwhole), if_pos hwhole]
  obtain ⟨husize, hureceived⟩ := @received_receive w c got (by rw [hlength]; exact hbs.capacity)
  obtain ⟨b, hubuf⟩ : ∃ b, ((w.receive c got).clients c).ibBuf = some b := ⟨_, by simp [World.receive]; rfl⟩
  have hread : UsbmuxdHeader.read b = .ofBytes bs := by
    refine header_received (n := ((w.receive c got).clients c).ibSize.toNat) (prefix_of_eq ?_) (by omega)
    rw [← received_some hubuf, hureceived, hwhole]
  have hlive' : ((w.receive c got).setClient c fun cl => { cl with protoVersion := 1 }).clientFreed c = false := by
    simpa [World.receive, clientFreed] using hlive
  rw [hubuf, Option.getD_some, runCommand, clientCommand_noPlist (by simp [World.receive, hstate]) (by rwa [hread])
    (by rwa [hread]) hnone, hlive', if_neg Bool.false_ne_true]

theorem exec_clientReady (hmem : c ∈ w.clientList) (hstate : (w.clients c).state = .command) :
    exec env w (.clientReady c ⟨true, false⟩) = processRecv env c w := by
  simp [exec, clientReady, hmem, hstate]

end Receiving

/-! ### Short requests -/

/-- An outside where everything succeeds and a client sends `bs`. -/
def Env.sending (bs : List UInt8) : Env where
  __ := quiet
  recv _ := bs

/-- Device `1` has the number `id`, and client `2` has sent all but the last byte of a command of `length` bytes. -/
def waitingClient (length id : ℕ) (m : Mem) : World :=
  ((run .quiet [.usb (.deviceAdd 5), .versionInput 1 ⟨1, 0, 0⟩, .clientAccept]).setDev 1 fun dev =>
    { dev with id }).setClient 2 fun cl => { cl with ibBuf := some m, ibSize := UInt32.ofNat (length - 1) }

/-- The connection that a request makes is to the port that is asked for. -/
theorem connectRequest_waitingClient (length id : ℕ) (m : Mem) (got : List UInt8) (hdr : UsbmuxdHeader)
    (port : UInt16) :
    ((connectRequest (.sending got) 2 hdr id port ((waitingClient length id m).receive 2 got)).conns 3).dport =
      port := by
  have hfind : getMuxDeviceForId ((waitingClient length id m).receive 2 got) id = some 1 := by
    change List.find? (fun d => (((waitingClient length id m).devs d).id == id)) [1] = some 1
    simp [waitingClient]
  unfold connectRequest deviceStartConnect
  rw [hfind]
  rfl

theorem rebuffer_waitingClient (length id : ℕ) (m m' : Mem) :
    (waitingClient length id m).rebuffer 2 m' = waitingClient length id m' := by
  simp [waitingClient, World.rebuffer, MuxClient.rebuffer, setClient]

theorem received_waitingClient (length id : ℕ) (m : Mem) (h : length ≤ 65536) :
    (waitingClient length id m).received 2 = m.slice 0 (length - 1) := by
  have hsize : ((waitingClient length id m).clients 2).ibSize.toNat = length - 1 :=
    UInt32.toNat_ofNat_of_lt' (by change length - 1 < 4294967296; omega)
  have hbuf : ((waitingClient length id m).clients 2).ibBuf = some m := rfl
  rw [received_some hbuf, hsize]

section Short

variable {bs : List UInt8} {last : UInt8} {m : Mem} {id : ℕ}

/-- The last byte of a short `Connect` comes, and the port is taken from where it would stand. -/
theorem processRecv_waitingClient (hbs : Accepted bs) (hshort : ShortConnect bs)
    (hbytes : m.slice 0 (bs.length - 1) ++ [last] = bs)
    (hid : (readLe32 (m.memcpy (bs.length - 1) [last]) 16).toNat = id) :
    ((processRecv (.sending [last]) 2 (waitingClient bs.length id m)).conns 3).dport =
      ntohs (m.memcpy (bs.length - 1) [last]) 20 := by
  obtain ⟨hversion, hmessage, hlt⟩ := hshort
  have hpos : 16 ≤ bs.length := hbs.header
  have hlt' : bs.length < 22 := hlt
  have hreceived := received_waitingClient bs.length id m (hlt'.le.trans (by decide))
  have hlength : ((waitingClient bs.length id m).received 2).length = bs.length - 1 := by simp [hreceived]
  have hconns : ∀ env c b w, (runCommand env c b w).conns = (clientCommand env c b w).conns := by
    intro env c b w
    unfold runCommand
    dsimp only
    split <;> rfl
  have hread : UsbmuxdHeader.read (m.memcpy (bs.length - 1) [last]) = .ofBytes bs := by
    refine header_received (n := bs.length - 1 + 1) (prefix_of_eq ?_) (by omega)
    rw [show bs.length - 1 + 1 = bs.length - 1 + [last].length from rfl, Mem.slice_memcpy_append, hbytes]
  have hbuf : ((((waitingClient bs.length id m).receive 2 [last]).clients 2).ibBuf.getD default) =
      m.memcpy (bs.length - 1) [last] := by
    rw [← hlength, length_received]
    rfl
  rw [processRecv_reads hbs [last] rfl rfl rfl (by simp)
    (by rw [hlength, List.length_singleton]; split <;> omega) (prefix_of_eq (by rw [hreceived, hbytes])),
    if_pos (by rw [hreceived, hbytes]), hconns, hbuf,
    clientCommand_connect rfl (by rwa [hread]) (by rw [hread, hmessage]), hid]
  exact connectRequest_waitingClient ..

/-- A command that is a short `Connect` does not stand alone. -/
theorem not_standsAlone (hbs : Accepted bs) (hshort : ShortConnect bs) : ¬ StandsAlone bs := by
  intro halone
  have hpos : 16 ≤ bs.length := hbs.header
  have hlt : bs.length < 22 := hshort.2.2
  obtain ⟨start, last, rfl⟩ : ∃ start last, bs = start ++ [last] :=
    ⟨_, _, (List.dropLast_append_getLast (List.ne_nil_of_length_pos (by omega))).symm⟩
  have hstart : (start ++ [last]).length - 1 = start.length := by simp
  have hle : start.length ≤ 20 := by simp at hlt; omega
  let m : Mem := (default : Mem).memcpy 0 start
  let m' : Mem := m.memcpy 21 [1]
  have hm : m.slice 0 start.length = start := Mem.slice_memcpy_self ..
  have hm' : m'.slice 0 start.length = start := by rw [Mem.slice_memcpy_below _ _ (by omega), hm]
  have hbyte : ∀ i ≠ 21, m'.memcpy start.length [last] i = m.memcpy start.length [last] i := by
    intro i hi
    simp only [Mem.memcpy, m', List.length_singleton]
    rw [if_neg (c := 21 ≤ i ∧ i < 21 + 1) (by omega)]
  let id := (readLe32 (m.memcpy start.length [last]) 16).toNat
  have hid : (readLe32 (m'.memcpy start.length [last]) 16).toNat = id := by
    simp only [id, readLe32, hbyte 16 (by decide), hbyte (16 + 1) (by decide), hbyte (16 + 2) (by decide),
      hbyte (16 + 3) (by decide)]
  have hport := @processRecv_waitingClient _ last m id hbs hshort (by rw [hstart, hm]) (by rw [hstart])
  have hport' := @processRecv_waitingClient _ last m' id hbs hshort (by rw [hstart, hm']) (by rw [hstart, hid])
  have hreceived := fun b =>
    received_waitingClient (start ++ [last]).length id b (hlt.le.trans (by decide))
  have hagree : AgreeOnReceived 2 (waitingClient (start ++ [last]).length id m)
      (waitingClient (start ++ [last]).length id m') := by
    refine ⟨m', (rebuffer_waitingClient ..).symm, fun _ => ?_⟩
    rw [hreceived, hreceived, hstart, hm, hm']
  have hincoming : incoming (.sending [last]) 2 (waitingClient (start ++ [last]).length id m) <+: start ++ [last] := by
    unfold incoming
    rw [hreceived, hstart, hm]
    exact (List.prefix_append_right_inj start).mpr (List.take_prefix ..)
  obtain ⟨_, heq, -⟩ := halone _ 2 _ _ (by rfl) hagree hincoming
  rw [heq, rebuffer_conns, hport, hstart] at hport'
  have hzero : m.memcpy start.length [last] (20 + 1) = 0 := by
    rw [Mem.memcpy, if_neg (by simp; omega), show m = (default : Mem).memcpy 0 start from rfl, Mem.memcpy,
      if_neg (by omega)]
    rfl
  have hone : m'.memcpy start.length [last] (20 + 1) = 1 := by
    rw [Mem.memcpy, if_neg (by simp; omega)]
    rfl
  have hnat := congrArg UInt16.toNat hport'
  simp only [ntohs, hzero, hone, hbyte 20 (by decide), UInt16.toNat_ofNat'] at hnat
  have := (m.memcpy start.length [last] 20).toNat_lt
  simp at hnat
  omega

end Short

/-- For every command that `process_recv` accepts. In worlds that agree but for the leftovers it has the same effect, if
and only if it is not a binary `Connect` that ends in front of its last byte. -/
theorem standsAlone_iff {bs : List UInt8} (hbs : Accepted bs) : StandsAlone bs ↔ ¬ ShortConnect bs :=
  ⟨fun halone hshort => not_standsAlone hbs hshort halone,
    fun hshort _ _ _ _ hlive hagree hincoming => hagree.processRecv hbs hshort hlive hincoming⟩

/-- A binary `Listen`. -/
theorem standsAlone_iff_listen : StandsAlone (le32 16 ++ le32 0 ++ le32 3 ++ le32 7) :=
  (standsAlone_iff ⟨by decide, by decide, by decide⟩).mpr fun h => absurd h.2.1 (by decide)

/-- An outside where a client sends a plist message that is none, and then the header of a `Connect`. -/
def Env.sendingHeader (payload : List UInt8) : Env where
  __ := quiet
  recv t :=
    if t = 1 then le32 24 ++ le32 0 ++ le32 8 ++ le32 7
    else if t = 2 then payload
    else le32 16 ++ le32 0 ++ le32 2 ++ le32 8

/-- The header of the plist message. -/
def plistMessageHeader : List UInt8 := le32 24 ++ le32 0 ++ le32 8 ++ le32 7

/-- Device `1` and client `2` are there. -/
def newClient : World := run .quiet [.usb (.deviceAdd 5), .versionInput 1 ⟨1, 0, 0⟩, .clientAccept]

/-- The plist message is in the buffer, and nothing else has come of it. -/
theorem run_sendingHeader (payload : List UInt8) (hlen : payload.length = 8) :
    run (.sendingHeader payload) [.usb (.deviceAdd 5), .versionInput 1 ⟨1, 0, 0⟩, .clientAccept,
        .clientReady 2 ⟨true, false⟩, .clientReady 2 ⟨true, false⟩] =
      (((newClient.receive 2 plistMessageHeader).receive 2 payload).setClient 2 fun cl =>
        { cl with protoVersion := 1 }).setClient 2 fun cl => { cl with ibSize := 0 } := by
  have hadd : ∀ w, exec (.sendingHeader payload) w (.usb (.deviceAdd 5)) = exec .quiet w (.usb (.deviceAdd 5)) :=
    fun _ => rfl
  have hversion : ∀ w, exec (.sendingHeader payload) w (.versionInput 1 ⟨1, 0, 0⟩) =
      exec .quiet w (.versionInput 1 ⟨1, 0, 0⟩) := fun _ => rfl
  have hstart : run (.sendingHeader payload) [.usb (.deviceAdd 5), .versionInput 1 ⟨1, 0, 0⟩, .clientAccept] =
      newClient := by
    simp only [newClient, run, List.foldl_cons, List.foldl_nil, hadd, hversion]
    rfl
  have hmem : 2 ∈ newClient.clientList := by decide +kernel
  have hstate : (newClient.clients 2).state = .command := by decide +kernel
  have hbuf : (newClient.clients 2).ibBuf.isSome = true := by decide +kernel
  have hcap : (newClient.clients 2).ibCapacity = cmdBufSize := by decide +kernel
  have hempty : newClient.received 2 = [] := List.eq_nil_of_length_eq_zero (by rw [length_received]; decide +kernel)
  have htick : newClient.tick = 1 := by decide +kernel
  have hfreed : newClient.clientFreed 2 = false := by decide +kernel
  have hheader : UsbmuxdHeader.read ((default : Mem).memcpy 0 plistMessageHeader) = ⟨24, 0, 8, 7⟩ := by decide
  have hread : UsbmuxdHeader.ofBytes (plistMessageHeader ++ payload) = ⟨24, 0, 8, 7⟩ := by
    rw [← hheader]
    refine (header_received (n := 16) ?_ (by decide)).symm
    rw [show 16 = plistMessageHeader.length from rfl, Mem.slice_memcpy_self]
    exact List.prefix_append ..
  have hmessage : (plistMessageHeader ++ payload).length = 24 := by simp [hlen, plistMessageHeader]
  have haccepted : Accepted (plistMessageHeader ++ payload) :=
    ⟨by rw [hread, hmessage]; rfl, by rw [hmessage]; decide, by rw [hmessage]; decide⟩
  have hfirst : processRecv (.sendingHeader payload) 2 newClient = newClient.receive 2 plistMessageHeader := by
    rw [processRecv_reads haccepted plistMessageHeader hbuf hcap (by rw [htick]; rfl) (by decide)
      (by rw [hempty, if_pos (by decide)]; decide) (by rw [hempty]; exact List.prefix_append ..), if_neg]
    intro heq
    rw [hempty] at heq
    have := congrArg List.length heq
    rw [hmessage] at this
    cases this
  have hreceived : (newClient.receive 2 plistMessageHeader).received 2 = plistMessageHeader := by
    rw [(received_receive _ _ (by rw [hempty]; decide)).2, hempty]
    rfl
  rw [show [Op.usb (.deviceAdd 5), .versionInput 1 ⟨1, 0, 0⟩, .clientAccept, .clientReady 2 ⟨true, false⟩,
      .clientReady 2 ⟨true, false⟩] = [.usb (.deviceAdd 5), .versionInput 1 ⟨1, 0, 0⟩, .clientAccept] ++
      [.clientReady 2 ⟨true, false⟩] ++ [.clientReady 2 ⟨true, false⟩] from rfl, run_append, run_append, hstart,
    exec_clientReady hmem hstate, hfirst,
    exec_clientReady (w := newClient.receive 2 plistMessageHeader) (by simpa [World.receive] using hmem)
      (by simp [World.receive, hstate])]
  exact processRecv_noPlist haccepted (by simp [World.receive]) (by simp [World.receive, hcap])
    (by simp [World.receive, htick, Env.sendingHeader]) (List.ne_nil_of_length_pos (by omega))
    (by rw [hreceived]; decide) (by rw [hreceived]) (by simp [World.receive, hstate])
    (by simpa [World.receive, clientFreed] using hfreed) (by rw [hread]; decide) (by rw [hread]; decide) fun _ => rfl

/-- Two histories that differ in the bytes of a message without effect, and then a `Connect` that is a header and no
more. The client is connected to the port that the message before it holds. -/
theorem shortConnect_leftover :
    let ops := [.usb (.deviceAdd 5), .versionInput 1 ⟨1, 0, 0⟩, .clientAccept, .clientReady 2 ⟨true, false⟩,
      .clientReady 2 ⟨true, false⟩]
    let env := Env.sendingHeader (le32 1 ++ [0, 80, 0, 0])
    let w := run env ops
    let w' := run (.sendingHeader (le32 1 ++ [0, 81, 0, 0])) ops
    AgreeOnReceived 2 w w' ∧ incoming env 2 w = le32 16 ++ le32 0 ++ le32 2 ++ le32 8 ∧
      ((processRecv env 2 w).conns 3).dport = 80 ∧ ((processRecv env 2 w').conns 3).dport = 81 ∧
      ¬ StandsAlone (le32 16 ++ le32 0 ++ le32 2 ++ le32 8) := by
  intro ops env w w'
  have hagree : AgreeOnReceived 2 w w' := by
    have hw : w = _ := run_sendingHeader (le32 1 ++ [0, 80, 0, 0]) (by decide)
    have hw' : w' = _ := run_sendingHeader (le32 1 ++ [0, 81, 0, 0]) (by decide)
    rw [hw, hw']
    generalize newClient.receive 2 plistMessageHeader = v
    refine ⟨((v.clients 2).ibBuf.getD default).memcpy (v.clients 2).ibSize.toNat (le32 1 ++ [0, 81, 0, 0]), ?_,
      fun _ => by simp [World.received]⟩
    simp [World.receive, MuxClient.receive, World.rebuffer, MuxClient.rebuffer, setClient]
  have hincoming : incoming env 2 w = le32 16 ++ le32 0 ++ le32 2 ++ le32 8 := by decide +kernel
  have hport : ((processRecv env 2 w).conns 3).dport = 80 := by decide +kernel
  have hport' : ((processRecv env 2 w').conns 3).dport = 81 := by decide +kernel
  refine ⟨hagree, hincoming, hport, hport', fun halone => ?_⟩
  obtain ⟨_, heq, -⟩ := halone env 2 w w' (by decide +kernel) hagree (prefix_of_eq hincoming)
  rw [heq, rebuffer_conns, hport] at hport'
  cases hport'

end Usbmuxd
