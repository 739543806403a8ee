import Usbmuxd.Model.State
import Mathlib.Logic.Relation
import Mathlib.Logic.Function.Basic

/-!
# Who belongs to whom

The daemon keeps three kinds of records and two lists, and connects a client to a device
by a record that points to both. This module says what that bookkeeping is for, without
buffers, sockets or packets: a `Registry` holds what the records say about each other,
and `Registry.Step` lists what may happen to it.

## The model

* `Registry.Link T d p c` — connection `p` is on the list of device `d`, and is client
  `c`'s.
* `Registry.Ok` — every connection on a list has exactly one client, which is on the
  client list and in the state that goes with the connection's; and nothing on a list has
  been freed.
* `freedConn`, `freedClient`, `closedSocket`, `freedDev` — how often each record has been
  released.

The parameter `reliable` says that allocations and sends do not fail. Only then does a
client that waits for a connection always have one (`Ok.owned`).

## What is proved

* `Ok.step`, `Ok.steps` — every step keeps `Ok`.
* `ReleasedOnce.steps` — no sequence of steps releases anything twice.
* `Sound.phases` — what holds between the operations holds after each.
-/

namespace Usbmuxd

open Relation

/-- What a connection says about its owners. -/
structure ConnEntry where
  dev : Ptr
  client : Option Ptr
  state : MuxConnState

/-- What a client says about its state. -/
structure ClientEntry where
  state : ClientState
  connectDevice : ℕ
  /-- It has a command buffer. -/
  hasIbBuf : Bool
  /-- It is not connected, and its mask asks for input. -/
  wantsRead : Bool

/-- A client entry is in order by itself. -/
structure ClientEntry.Ok (e : ClientEntry) : Prop where
  /-- The client is not being freed. -/
  alive : e.state ≠ .dead
  /-- The command buffer goes when the connection is there. -/
  buffer : e.hasIbBuf = true ↔ e.state ≠ .connecting2 ∧ e.state ≠ .connected
  /-- A client that waits for its reply to be sent is not asked for input. -/
  quiet : e.state = .connecting2 → e.wantsRead = false

/-- What a device says about itself and its connections. -/
structure DevEntry where
  usbdev : UsbDevice
  id : ℕ
  state : MuxDevState
  connections : Option (SlotTable Ptr)

/-- The records, the lists and what has been released. -/
@[ext]
structure Registry where
  conns : Ptr → ConnEntry
  clients : Ptr → ClientEntry
  devs : Ptr → DevEntry
  clientList : SlotTable Ptr
  deviceList : SlotTable Ptr
  nextDeviceId : ℕ
  fresh : Ptr
  freedConn : Ptr → ℕ
  freedClient : Ptr → ℕ
  closedSocket : Ptr → ℕ
  freedDev : Ptr → ℕ
  /-- How often the mutual recursion of the teardown, or its flush loop, has been cut short. -/
  cutShort : ℕ

namespace Registry

variable (T : Registry)

/-- The connections of a device. -/
def connections (d : Ptr) : SlotTable Ptr := (T.devs d).connections.getD ⟨[]⟩

/-- Connection `p` of device `d` belongs to client `c`. -/
structure Link (d p c : Ptr) : Prop where
  device : d ∈ T.deviceList
  conn : p ∈ T.connections d
  client : (T.conns p).client = some c

/-- The states of a connection and its client that go together. -/
inductive Matches : MuxConnState → ClientState → Prop where
  | connecting : Matches .connecting .connecting1
  | connecting2 : Matches .connected .connecting2
  | connected : Matches .connected .connected

theorem Matches.connecting_iff {s : MuxConnState} {s' : ClientState} (h : Matches s s') :
    s = .connecting ↔ s' = .connecting1 := by cases h <;> simp

theorem Matches.connected_iff {s : MuxConnState} {s' : ClientState} (h : Matches s s') :
    s = .connected ↔ s' = .connecting2 ∨ s' = .connected := by cases h <;> simp

/-- A connection on a list is at one of two points of its life. -/
theorem Matches.conn_state {s : MuxConnState} {s' : ClientState} (h : Matches s s') :
    s = .connecting ∨ s = .connected := by cases h <;> simp

/-- A client in this state has a connection. -/
def NeedsConn (reliable : Prop) (s : ClientState) : Prop :=
  s = .connecting2 ∨ s = .connected ∨ (reliable ∧ s = .connecting1)

/-- The bookkeeping is in order, but for the connection that client `except` may lack. -/
structure Ok (reliable : Prop) (except : Option Ptr) : Prop where
  /-- No client is on the list twice. -/
  clients_nodup : T.clientList.Nodup
  /-- No device is on the list twice. -/
  devices_nodup : T.deviceList.Nodup
  /-- No connection is on a list twice. -/
  conns_nodup : ∀ d ∈ T.deviceList, (T.connections d).Nodup
  /-- What is on a list has been allocated, and has not been freed. -/
  client_lt : ∀ c ∈ T.clientList, c < T.fresh
  client_live : ∀ c ∈ T.clientList, T.freedClient c = 0 ∧ T.closedSocket c = 0
  device_lt : ∀ d ∈ T.deviceList, d < T.fresh
  device_live : ∀ d ∈ T.deviceList, T.freedDev d = 0
  conn_lt : ∀ d ∈ T.deviceList, ∀ p ∈ T.connections d, p < T.fresh
  conn_live : ∀ d ∈ T.deviceList, ∀ p ∈ T.connections d, T.freedConn p = 0
  /-- What has not been allocated has not been freed. -/
  unborn : ∀ x, T.fresh ≤ x →
    T.freedConn x = 0 ∧ T.freedClient x = 0 ∧ T.closedSocket x = 0 ∧ T.freedDev x = 0
  /-- Device numbers are not used twice. -/
  ids : ∀ d ∈ T.deviceList, ∀ d' ∈ T.deviceList, (T.devs d).id = (T.devs d').id → d = d'
  ids_lt : ∀ d ∈ T.deviceList, (T.devs d).id < T.nextDeviceId
  /-- A device has a list of connections from the moment it is active. -/
  initialised : ∀ d ∈ T.deviceList, ((T.devs d).state = .init ↔ (T.devs d).connections = none)
  /-- A connection on a list knows its device. -/
  conn_dev : ∀ d ∈ T.deviceList, ∀ p ∈ T.connections d, (T.conns p).dev = d
  /-- A connection on a list has a client, on the list, in the state that goes with its own. -/
  partner : ∀ d ∈ T.deviceList, ∀ p ∈ T.connections d, ∃ c, (T.conns p).client = some c ∧ c ∈ T.clientList ∧
    (T.clients c).connectDevice = (T.devs d).id ∧ Matches (T.conns p).state (T.clients c).state
  /-- No two connections share a client. -/
  unique : ∀ d p d' p' c, T.Link d p c → T.Link d' p' c → p = p'
  /-- A client that is past its request has a connection. -/
  owned : ∀ c ∈ T.clientList, except ≠ some c → NeedsConn reliable (T.clients c).state → ∃ d p, T.Link d p c
  /-- Each client on the list is in order by itself. -/
  entries : ∀ c ∈ T.clientList, (T.clients c).Ok

/-! ### What may happen -/

/-- A client is accepted. -/
@[simps]
def newClient : Registry :=
  { T with
    clients := Function.update T.clients T.fresh ⟨.command, 0, true, true⟩
    clientList := T.clientList.add capacityStep T.fresh
    fresh := T.fresh + 1 }

/-- The cell of a new device. -/
@[simps]
def allocDev (u : UsbDevice) : Registry :=
  { T with
    devs := Function.update T.devs T.fresh ⟨u, T.nextDeviceId, .init, none⟩
    fresh := T.fresh + 1
    nextDeviceId := T.nextDeviceId + 1 }

/-- A device is put on the list. -/
@[simps]
def listDev (d : Ptr) : Registry := { T with deviceList := T.deviceList.add capacityStep d }

/-- A device is freed. -/
@[simps]
def freeDev (d : Ptr) : Registry := { T with freedDev := Function.update T.freedDev d (T.freedDev d + 1) }

/-- A device is taken off the list and freed. -/
@[simps]
def dropDev (d : Ptr) : Registry :=
  { T with
    deviceList := T.deviceList.remove d
    freedDev := Function.update T.freedDev d (T.freedDev d + 1) }

/-- A device changes. -/
@[simps]
def setDev (d : Ptr) (e : DevEntry) : Registry := { T with devs := Function.update T.devs d e }

/-- A client changes. -/
@[simps]
def setClient (c : Ptr) (e : ClientEntry) : Registry := { T with clients := Function.update T.clients c e }

/-- A client is taken off the list, its socket is closed and it is freed. -/
@[simps]
def dropClient (c : Ptr) (e : ClientEntry) : Registry :=
  { T with
    clients := Function.update T.clients c e
    clientList := T.clientList.remove c
    freedClient := Function.update T.freedClient c (T.freedClient c + 1)
    closedSocket := Function.update T.closedSocket c (T.closedSocket c + 1) }

/-- A connection changes. -/
@[simps]
def setConn (p : Ptr) (e : ConnEntry) : Registry := { T with conns := Function.update T.conns p e }

/-- The cell of a new connection. -/
@[simps]
def allocConn (e : ConnEntry) : Registry :=
  { T with
    conns := Function.update T.conns T.fresh e
    fresh := T.fresh + 1 }

/-- A connection is freed. -/
@[simps]
def freeConn (p : Ptr) : Registry := { T with freedConn := Function.update T.freedConn p (T.freedConn p + 1) }

/-- A connection is put on the list of a device. -/
@[simps]
def link (d p : Ptr) : Registry :=
  { T with
    devs := Function.update T.devs d
      { T.devs d with connections := (T.devs d).connections.map (·.add capacityStep p) } }

/-- A connection is taken off the list of a device and freed. -/
@[simps]
def unlink (d p : Ptr) (e : ConnEntry) : Registry :=
  { T with
    conns := Function.update T.conns p e
    devs := Function.update T.devs d
      { T.devs d with connections := (T.devs d).connections.map (·.remove p) }
    freedConn := Function.update T.freedConn p (T.freedConn p + 1) }

theorem setConn_same (p : Ptr) : T.setConn p (T.conns p) = T := by rw [setConn, Function.update_eq_self]

theorem setClient_same (c : Ptr) : T.setClient c (T.clients c) = T := by rw [setClient, Function.update_eq_self]

/-- The entry with which a connection goes is not seen again. -/
theorem unlink_setConn (d p : Ptr) (e e' : ConnEntry) : (T.setConn p e).unlink d p e' = T.unlink d p e' := by
  simp [setConn, unlink]

theorem unlink_setClient (d p c : Ptr) (e : ConnEntry) (e' : ClientEntry) :
    (T.setClient c e').unlink d p e = (T.unlink d p e).setClient c e' := rfl

theorem dropClient_setClient (c : Ptr) (e e' : ClientEntry) :
    (T.setClient c e).dropClient c e' = T.dropClient c e' := by
  simp [setClient, dropClient]

/-- The connection `get_mux_connection` finds. -/
def lookup (id : ℕ) (c : Ptr) : Option Ptr :=
  (T.deviceList.find? fun d => (T.devs d).id == id).bind fun d =>
    (T.connections d).find? fun p => (T.conns p).client == some c

theorem link_of_lookup {id : ℕ} {c p : Ptr} (h : T.lookup id c = some p) : ∃ d, T.Link d p c ∧ (T.devs d).id = id := by
  obtain ⟨d, hd, hp⟩ := Option.bind_eq_some_iff.mp h
  exact ⟨d, ⟨SlotTable.find?_mem hd, SlotTable.find?_mem hp, by simpa using SlotTable.find?_pred hp⟩,
    by simpa using SlotTable.find?_pred hd⟩

theorem lookup_setConn {p : Ptr} {e : ConnEntry} (he : e.client = (T.conns p).client) (id : ℕ) (c : Ptr) :
    (T.setConn p e).lookup id c = T.lookup id c := by
  have hclient : ∀ q, (Function.update T.conns p e q).client = (T.conns q).client := by
    intro q
    by_cases hq : q = p
    · subst hq
      simpa using he
    · simp [hq]
  simp only [lookup, connections, setConn, hclient]

section Ok

variable {T : Registry} {reliable : Prop} {except : Option Ptr}

/-- A link depends on the device list, the devices and the connections alone. -/
theorem Link.congr {T' : Registry} {d p c : Ptr} (hl : T'.Link d p c) (hlist : T'.deviceList = T.deviceList)
    (hdevs : T'.devs = T.devs) (hconns : T'.conns = T.conns) : T.Link d p c := by
  obtain ⟨hd, hp, hc⟩ := hl
  unfold connections at hp
  rw [hlist] at hd
  rw [hdevs] at hp
  rw [hconns] at hc
  exact ⟨hd, hp, hc⟩

theorem Ok.link_client (h : T.Ok reliable except) {d p c : Ptr} (hl : T.Link d p c) :
    c ∈ T.clientList ∧ (T.clients c).connectDevice = (T.devs d).id ∧ Matches (T.conns p).state (T.clients c).state := by
  obtain ⟨c', hc', hmem, hdev, hmatch⟩ := h.partner d hl.device p hl.conn
  obtain rfl : c' = c := Option.some.inj (hc'.symm.trans hl.client)
  exact ⟨hmem, hdev, hmatch⟩

/-- What is on a list belongs to someone. -/
theorem Ok.link_of_mem (h : T.Ok reliable except) {d p : Ptr} (hd : d ∈ T.deviceList) (hp : p ∈ T.connections d) :
    ∃ c, T.Link d p c := by
  obtain ⟨c, hc, -⟩ := h.partner d hd p hp
  exact ⟨c, hd, hp, hc⟩

/-- A client's connection is found by the client's device number. -/
theorem Ok.lookup (h : T.Ok reliable except) {d p c : Ptr} (hl : T.Link d p c) :
    T.lookup (T.clients c).connectDevice c = some p := by
  obtain ⟨-, hid, -⟩ := h.link_client hl
  have hdev : T.deviceList.find? (fun d' => (T.devs d').id == (T.clients c).connectDevice) = some d := by
    refine SlotTable.find?_unique hl.device (by simp [hid]) fun d' hd' heq => ?_
    exact h.ids d' hd' d hl.device (by simpa [hid] using heq)
  have hconn : (T.connections d).find? (fun p' => (T.conns p').client == some c) = some p := by
    refine SlotTable.find?_unique hl.conn (by simp [hl.client]) fun p' hp' heq => ?_
    exact h.unique d p' d p c ⟨hl.device, hp', by simpa using heq⟩ hl
  simp only [Registry.lookup, hdev, Option.bind_some, hconn]

theorem Ok.link_device (h : T.Ok reliable except) {d d' p : Ptr} (hd : d ∈ T.deviceList) (hp : p ∈ T.connections d)
    (hd' : d' ∈ T.deviceList) (hp' : p ∈ T.connections d') : d = d' :=
  (h.conn_dev d hd p hp).symm.trans (h.conn_dev d' hd' p hp')

/-- An exception that is not needed. -/
theorem Ok.settle (h : T.Ok reliable except)
    (hc : ∀ c ∈ T.clientList, except = some c → NeedsConn reliable (T.clients c).state → ∃ d p, T.Link d p c) :
    T.Ok reliable none :=
  { h with
    owned := fun c hmem _ hneeds => by
      by_cases hex : except = some c
      · exact hc c hmem hex hneeds
      · exact h.owned c hmem hex hneeds }

theorem Ok.relax (h : T.Ok reliable none) (c : Ptr) : T.Ok reliable (some c) :=
  { h with owned := fun c' hmem _ hneeds => h.owned c' hmem (by simp) hneeds }

/-! ### Clients -/

theorem Ok.newClient (h : T.Ok reliable none) : T.newClient.Ok reliable none := by
  have hfresh : ∀ c ∈ T.clientList, c ≠ T.fresh := fun c hc => Nat.ne_of_lt (h.client_lt c hc)
  refine { h with
    clients_nodup := h.clients_nodup.add fun hmem => hfresh _ hmem rfl
    device_lt := fun d hd => Nat.lt_succ_of_lt (h.device_lt d hd)
    conn_lt := fun d hd p hp => Nat.lt_succ_of_lt (h.conn_lt d hd p hp)
    unborn := fun x hx => h.unborn x (Nat.le_of_succ_le hx)
    unique := fun d p d' p' c hl hl' => h.unique d p d' p' c (hl.congr rfl rfl rfl) (hl'.congr rfl rfl rfl)
    client_lt := ?_, client_live := ?_, partner := ?_, owned := ?_, entries := ?_ }
  · intro c hc
    rcases SlotTable.mem_add.mp hc with rfl | hc
    · exact Nat.lt_succ_self _
    · exact Nat.lt_succ_of_lt (h.client_lt c hc)
  · intro c hc
    rcases SlotTable.mem_add.mp hc with rfl | hc
    · exact ⟨(h.unborn _ le_rfl).2.1, (h.unborn _ le_rfl).2.2.1⟩
    · exact h.client_live c hc
  · intro d hd p hp
    obtain ⟨c, hc, hmem, hdev, hmatch⟩ := h.partner d hd p hp
    have hne := hfresh c hmem
    exact ⟨c, hc, SlotTable.mem_add.mpr (.inr hmem), by simpa [hne] using hdev, by simpa [hne] using hmatch⟩
  · intro c hc _ hneeds
    rcases SlotTable.mem_add.mp hc with rfl | hc
    · simp [NeedsConn] at hneeds
    · obtain ⟨d, p, hl⟩ := h.owned c hc (by simp) (by simpa [hfresh c hc] using hneeds)
      exact ⟨d, p, hl.device, hl.conn, hl.client⟩
  · intro c hc
    rcases SlotTable.mem_add.mp hc with rfl | hc
    · rw [newClient_clients, Function.update_self]
      exact ⟨by simp, by simp, by simp⟩
    · simpa [hfresh c hc] using h.entries c hc

/-- A client without a connection goes. -/
theorem Ok.dropClient (h : T.Ok reliable except) {c : Ptr} (hex : except = none ∨ except = some c) (hc : c < T.fresh)
    (hno : ∀ d p, ¬ T.Link d p c) (e : ClientEntry) : (T.dropClient c e).Ok reliable none := by
  have hmem : ∀ {c'}, c' ∈ T.clientList.remove c ↔ c' ≠ c ∧ c' ∈ T.clientList :=
    SlotTable.mem_remove h.clients_nodup
  refine { h with
    clients_nodup := h.clients_nodup.remove c
    client_lt := fun c' hc' => h.client_lt c' (hmem.mp hc').2
    unique := fun d p d' p' c hl hl' => h.unique d p d' p' c (hl.congr rfl rfl rfl) (hl'.congr rfl rfl rfl)
    client_live := ?_, unborn := ?_, partner := ?_, owned := ?_, entries := ?_ }
  · intro c' hc'
    simpa [(hmem.mp hc').1] using h.client_live c' (hmem.mp hc').2
  · intro x hx
    have hne : x ≠ c := Nat.ne_of_gt (Nat.lt_of_lt_of_le hc hx)
    simpa [hne] using h.unborn x hx
  · intro d hd p hp
    obtain ⟨c', hc', hin, hdev, hmatch⟩ := h.partner d hd p hp
    have hne : c' ≠ c := fun heq => hno d p ⟨hd, hp, heq ▸ hc'⟩
    exact ⟨c', hc', hmem.mpr ⟨hne, hin⟩, by simpa [hne] using hdev, by simpa [hne] using hmatch⟩
  · intro c' hc' _ hneeds
    obtain ⟨hne, hin⟩ := hmem.mp hc'
    have hout : except ≠ some c' := by
      rcases hex with rfl | rfl
      · simp
      · simpa using hne.symm
    obtain ⟨d, p, hl⟩ := h.owned c' hin hout (by simpa [hne] using hneeds)
    exact ⟨d, p, hl.device, hl.conn, hl.client⟩
  · intro c' hc'
    simpa [(hmem.mp hc').1] using h.entries c' (hmem.mp hc').2

/-- A client changes its state, and its connection, if it has one, agrees with the new one. -/
theorem Ok.setClient (h : T.Ok reliable except) {c : Ptr} {e : ClientEntry} (he : e.Ok)
    (hlink : ∀ d p, T.Link d p c → e.connectDevice = (T.devs d).id ∧ Matches (T.conns p).state e.state)
    (hneeds : NeedsConn reliable e.state → except ≠ some c → ∃ d p, T.Link d p c) :
    (T.setClient c e).Ok reliable except := by
  refine { h with
    unique := fun d p d' p' c hl hl' => h.unique d p d' p' c (hl.congr rfl rfl rfl) (hl'.congr rfl rfl rfl)
    partner := ?_, owned := ?_, entries := ?_ }
  · intro d hd p hp
    obtain ⟨c', hc', hin, hdev, hmatch⟩ := h.partner d hd p hp
    refine ⟨c', hc', hin, ?_⟩
    by_cases hne : c' = c
    · subst hne
      simpa using hlink d p ⟨hd, hp, hc'⟩
    · simpa [hne] using And.intro hdev hmatch
  · intro c' hc' hex hneeds'
    by_cases hne : c' = c
    · subst hne
      obtain ⟨d, p, hl⟩ := hneeds (by simpa using hneeds') hex
      exact ⟨d, p, hl.device, hl.conn, hl.client⟩
    · obtain ⟨d, p, hl⟩ := h.owned c' hc' hex (by simpa [hne] using hneeds')
      exact ⟨d, p, hl.device, hl.conn, hl.client⟩
  · intro c' hc'
    by_cases hne : c' = c
    · subst hne
      simpa using he
    · simpa [hne] using h.entries c' hc'

/-! ### Connections -/

theorem link_id (d p d' : Ptr) : ((T.link d p).devs d').id = (T.devs d').id := by
  by_cases h : d' = d
  · subst h
    simp
  · simp [h]

theorem unlink_id (d p d' : Ptr) (e : ConnEntry) : ((T.unlink d p e).devs d').id = (T.devs d').id := by
  by_cases h : d' = d
  · subst h
    simp
  · simp [h]

theorem connections_unlink (d p d' : Ptr) (e : ConnEntry) :
    (T.unlink d p e).connections d' = if d' = d then (T.connections d).remove p else T.connections d' := by
  unfold connections
  by_cases h : d' = d
  · subst h
    cases hc : (T.devs d').connections <;> simp [hc, SlotTable.remove, SlotTable.clear]
  · simp [h]

theorem connections_link {d : Ptr} (hsome : (T.devs d).connections ≠ none) (p d' : Ptr) :
    (T.link d p).connections d' = if d' = d then (T.connections d).add capacityStep p else T.connections d' := by
  unfold connections
  by_cases h : d' = d
  · subst h
    obtain ⟨t, ht⟩ := Option.ne_none_iff_exists'.mp hsome
    simp [ht]
  · simp [h]

/-- The devices and their lists after connection `p` of device `d` has gone. -/
structure Unlinked (T T' : Registry) (d p : Ptr) : Prop where
  connections : T'.connections d = (T.connections d).remove p
  deviceList : T'.deviceList = T.deviceList
  state : ∀ d', (T'.devs d').state = (T.devs d').state

theorem unlinked_unlink (T : Registry) (d p : Ptr) (e : ConnEntry) : T.Unlinked (T.unlink d p e) d p := by
  refine ⟨by rw [connections_unlink, if_pos rfl], rfl, fun d' => ?_⟩
  by_cases h : d' = d
  · subst h
    simp
  · simp [h]

theorem Unlinked.setClient {T T' : Registry} {d p : Ptr} (h : T.Unlinked T' d p) (c : Ptr) (e : ClientEntry) :
    T.Unlinked (T'.setClient c e) d p := ⟨h.connections, h.deviceList, h.state⟩

theorem Unlinked.dropClient {T T' : Registry} {d p : Ptr} (h : T.Unlinked T' d p) (c : Ptr) (e : ClientEntry) :
    T.Unlinked (T'.dropClient c e) d p := ⟨h.connections, h.deviceList, h.state⟩

/-- What is on the lists after a connection has gone. -/
theorem Ok.mem_unlink (h : T.Ok reliable except) {d p d' q : Ptr} {e : ConnEntry} (hd : d ∈ T.deviceList)
    (hp : p ∈ T.connections d) (hd' : d' ∈ T.deviceList) :
    q ∈ (T.unlink d p e).connections d' ↔ q ≠ p ∧ q ∈ T.connections d' := by
  rw [connections_unlink]
  split
  · rename_i heq
    subst heq
    exact SlotTable.mem_remove (h.conns_nodup _ hd)
  · rename_i hne
    constructor
    · intro hq
      exact ⟨fun heq => hne (h.link_device hd' (heq ▸ hq) hd hp), hq⟩
    · exact And.right

theorem Ok.link_unlink (h : T.Ok reliable except) {d p d' q c : Ptr} {e : ConnEntry} (hd : d ∈ T.deviceList)
    (hp : p ∈ T.connections d) : (T.unlink d p e).Link d' q c ↔ q ≠ p ∧ T.Link d' q c := by
  constructor
  · rintro ⟨hd', hq, hc⟩
    obtain ⟨hne, hq⟩ := (h.mem_unlink hd hp hd').mp hq
    exact ⟨hne, hd', hq, by simpa [hne] using hc⟩
  · rintro ⟨hne, hd', hq, hc⟩
    exact ⟨hd', (h.mem_unlink hd hp hd').mpr ⟨hne, hq⟩, by simpa [hne] using hc⟩

/-- A connection goes; its client is now without one. -/
theorem Ok.unlink (h : T.Ok reliable none) {d p c : Ptr} (hl : T.Link d p c) (e : ConnEntry) :
    (T.unlink d p e).Ok reliable (some c) := by
  have hd := hl.device
  have hp := hl.conn
  have hpfresh := h.conn_lt d hd p hp
  refine { h with
    conns_nodup := ?_
    conn_lt := fun d' hd' q hq => h.conn_lt d' hd' q ((h.mem_unlink hd hp hd').mp hq).2
    conn_live := ?_
    unborn := ?_
    ids := fun d' hd' d'' hd'' heq => h.ids d' hd' d'' hd'' (by rwa [unlink_id, unlink_id] at heq)
    ids_lt := fun d' hd' => by rw [unlink_id]; exact h.ids_lt d' hd'
    initialised := ?_
    conn_dev := ?_
    partner := ?_
    unique := fun d' q d'' q' c' hl' hl'' =>
      h.unique d' q d'' q' c' ((h.link_unlink hd hp).mp hl').2 ((h.link_unlink hd hp).mp hl'').2
    owned := ?_ }
  · intro d' hd'
    rw [connections_unlink]
    split
    · exact (h.conns_nodup d hd).remove p
    · exact h.conns_nodup d' hd'
  · intro d' hd' q hq
    obtain ⟨hne, hq⟩ := (h.mem_unlink hd hp hd').mp hq
    simpa [hne] using h.conn_live d' hd' q hq
  · intro x hx
    have hne : x ≠ p := Nat.ne_of_gt (Nat.lt_of_lt_of_le hpfresh hx)
    simpa [hne] using h.unborn x hx
  · intro d' hd'
    have hinit := h.initialised d' hd'
    by_cases hne : d' = d
    · subst hne
      simpa using hinit
    · simpa [hne] using hinit
  · intro d' hd' q hq
    obtain ⟨hne, hq⟩ := (h.mem_unlink hd hp hd').mp hq
    simpa [hne] using h.conn_dev d' hd' q hq
  · intro d' hd' q hq
    obtain ⟨hne, hq⟩ := (h.mem_unlink hd hp hd').mp hq
    obtain ⟨c', hc', hin, hdev, hmatch⟩ := h.partner d' hd' q hq
    refine ⟨c', by simpa [hne] using hc', hin, ?_, by simpa [hne] using hmatch⟩
    rw [unlink_id]
    exact hdev
  · intro c' hc' hex hneeds
    obtain ⟨d', q, hl'⟩ := h.owned c' hc' (by simp) hneeds
    refine ⟨d', q, (h.link_unlink hd hp).mpr ⟨fun heq => ?_, hl'⟩⟩
    subst heq
    exact hex (by rw [← hl.client, hl'.client])

/-- A connection and its client move on together. -/
theorem Ok.advance (h : T.Ok reliable none) {d p c : Ptr} (hl : T.Link d p c) {s : MuxConnState} {e : ClientEntry}
    (he : e.Ok) (hdev : e.connectDevice = (T.clients c).connectDevice) (hmatch : Matches s e.state) :
    ((T.setConn p { T.conns p with state := s }).setClient c e).Ok reliable none := by
  obtain ⟨hmem, hcdev, -⟩ := h.link_client hl
  have hconn : ∀ q, (Function.update T.conns p { T.conns p with state := s } q).client = (T.conns q).client ∧
      (Function.update T.conns p { T.conns p with state := s } q).dev = (T.conns q).dev := by
    intro q
    by_cases hq : q = p
    · subst hq
      simp
    · simp [hq]
  have hlink : ∀ {d' q c'}, ((T.setConn p { T.conns p with state := s }).setClient c e).Link d' q c' ↔
      T.Link d' q c' :=
    ⟨fun hl' => ⟨hl'.device, hl'.conn, (hconn _).1.symm.trans hl'.client⟩,
      fun hl' => ⟨hl'.device, hl'.conn, (hconn _).1.trans hl'.client⟩⟩
  refine { h with
    conn_dev := fun d' hd' q hq => ((hconn q).2).trans (h.conn_dev d' hd' q hq)
    unique := fun d' q d'' q' c' hl' hl'' => h.unique d' q d'' q' c' (hlink.mp hl') (hlink.mp hl'')
    partner := ?_, owned := ?_, entries := ?_ }
  · intro d' hd' q hq
    obtain ⟨c', hc', hin, hdev', hmatch'⟩ := h.partner d' hd' q hq
    refine ⟨c', (hconn q).1.trans hc', hin, ?_⟩
    by_cases hc : c' = c
    · subst hc
      obtain rfl : q = p := h.unique d' q d p c' ⟨hd', hq, hc'⟩ hl
      simpa using And.intro (hdev.trans hdev') hmatch
    · have hq' : q ≠ p := by
        rintro rfl
        exact hc (Option.some.inj (hc'.symm.trans hl.client))
      simpa [hc, hq'] using And.intro hdev' hmatch'
  · intro c' hc' _ hneeds
    by_cases hc : c' = c
    · subst hc
      exact ⟨d, p, hlink.mpr hl⟩
    · obtain ⟨d', q, hl'⟩ := h.owned c' hc' (by simp) (by simpa [hc] using hneeds)
      exact ⟨d', q, hlink.mpr hl'⟩
  · intro c' hc'
    by_cases hc : c' = c
    · subst hc
      simpa using he
    · simpa [hc] using h.entries c' hc'

/-- The registry after a client in command mode has got a connection. -/
def connect (T : Registry) (d c : Ptr) : Registry :=
  ((T.allocConn ⟨d, some c, .connecting⟩).link d T.fresh).setClient c
    { T.clients c with state := .connecting1, connectDevice := (T.devs d).id }

/-- A client in command mode gets a connection. -/
theorem Ok.connect (h : T.Ok reliable none) {d c : Ptr} (hd : d ∈ T.deviceList)
    (hconns : (T.devs d).connections ≠ none) (hc : c ∈ T.clientList) (hstate : (T.clients c).state = .command) :
    (T.connect d c).Ok reliable none := by
  have hnolink : ∀ d' q, ¬ T.Link d' q c := by
    intro d' q hl
    have hmatch := (h.link_client hl).2.2
    rw [hstate] at hmatch
    cases hm : (T.conns q).state <;> rw [hm] at hmatch <;> cases hmatch
  have hfresh : ∀ d' ∈ T.deviceList, ∀ q ∈ T.connections d', q ≠ T.fresh :=
    fun d' hd' q hq => Nat.ne_of_lt (h.conn_lt d' hd' q hq)
  have hconnections : ∀ d', (T.connect d c).connections d' =
      if d' = d then (T.connections d).add capacityStep T.fresh else T.connections d' := fun d' =>
    connections_link hconns T.fresh d'
  have hmem : ∀ d' q, q ∈ (T.connect d c).connections d' ↔ (d' = d ∧ q = T.fresh) ∨ q ∈ T.connections d' := by
    intro d' q
    rw [hconnections]
    split
    · rename_i heq
      subst heq
      rw [SlotTable.mem_add]
      simp
    · rename_i hne
      simp [hne]
  have hid : ∀ d', ((T.connect d c).devs d').id = (T.devs d').id := fun d' => link_id d T.fresh d'
  have hold : ∀ {d' q c'}, T.Link d' q c' → (T.connect d c).Link d' q c' := by
    intro d' q c' hl
    have hne := hfresh d' hl.device q hl.conn
    refine ⟨hl.device, (hmem d' q).mpr (.inr hl.conn), ?_⟩
    simpa [Registry.connect, hne] using hl.client
  have hnew : (T.connect d c).Link d T.fresh c :=
    ⟨hd, (hmem d _).mpr (.inl ⟨rfl, rfl⟩), by simp [Registry.connect]⟩
  have hcases : ∀ {d' q c'}, (T.connect d c).Link d' q c' → (q = T.fresh ∧ c' = c) ∨ (c' ≠ c ∧ T.Link d' q c') := by
    intro d' q c' hl
    rcases (hmem d' q).mp hl.conn with ⟨-, rfl⟩ | hq
    · exact .inl ⟨rfl, by simpa [Registry.connect, eq_comm] using hl.client⟩
    · have hne := hfresh d' hl.device q hq
      have hl' : T.Link d' q c' := ⟨hl.device, hq, by simpa [Registry.connect, hne] using hl.client⟩
      exact .inr ⟨fun heq => hnolink d' q (heq ▸ hl'), hl'⟩
  have he := h.entries c hc
  refine { h with
    client_lt := fun c' hc' => Nat.lt_succ_of_lt (h.client_lt c' hc')
    device_lt := fun d' hd' => Nat.lt_succ_of_lt (h.device_lt d' hd')
    unborn := fun x hx => h.unborn x (Nat.le_of_succ_le hx)
    ids := fun d' hd' d'' hd'' heq => h.ids d' hd' d'' hd'' (by rwa [hid, hid] at heq)
    ids_lt := fun d' hd' => by rw [hid]; exact h.ids_lt d' hd'
    conns_nodup := ?_, conn_lt := ?_, conn_live := ?_, initialised := ?_, conn_dev := ?_, partner := ?_
    unique := ?_, owned := ?_, entries := ?_ }
  · intro d' hd'
    rw [hconnections]
    split
    · exact (h.conns_nodup d hd).add fun hin => hfresh d hd _ hin rfl
    · exact h.conns_nodup d' hd'
  · intro d' hd' q hq
    rcases (hmem d' q).mp hq with ⟨-, rfl⟩ | hq
    · exact Nat.lt_succ_self _
    · exact Nat.lt_succ_of_lt (h.conn_lt d' hd' q hq)
  · intro d' hd' q hq
    rcases (hmem d' q).mp hq with ⟨-, rfl⟩ | hq
    · exact (h.unborn _ le_rfl).1
    · exact h.conn_live d' hd' q hq
  · intro d' hd'
    have hinit := h.initialised d' hd'
    by_cases hne : d' = d
    · subst hne
      simpa [Registry.connect] using hinit
    · simpa [Registry.connect, hne] using hinit
  · intro d' hd' q hq
    rcases (hmem d' q).mp hq with ⟨rfl, rfl⟩ | hq
    · simp [Registry.connect]
    · simpa [Registry.connect, hfresh d' hd' q hq] using h.conn_dev d' hd' q hq
  · intro d' hd' q hq
    rcases (hmem d' q).mp hq with ⟨rfl, rfl⟩ | hq
    · refine ⟨c, hnew.client, hc, ?_, ?_⟩
      · rw [hid]
        simp [Registry.connect]
      · simpa [Registry.connect] using Matches.connecting
    · obtain ⟨c', hc', hin, hdev, hmatch⟩ := h.partner d' hd' q hq
      have hne : c' ≠ c := fun heq => hnolink d' q ⟨hd', hq, heq ▸ hc'⟩
      refine ⟨c', (hold ⟨hd', hq, hc'⟩).client, hin, ?_, ?_⟩
      · rw [hid]
        simpa [Registry.connect, hne] using hdev
      · simpa [Registry.connect, hne, hfresh d' hd' q hq] using hmatch
  · intro d' q d'' q' c' hl hl'
    rcases hcases hl with ⟨rfl, rfl⟩ | ⟨hne, hl⟩
    · rcases hcases hl' with ⟨rfl, -⟩ | ⟨hne, -⟩
      · rfl
      · exact absurd rfl hne
    · rcases hcases hl' with ⟨-, rfl⟩ | ⟨-, hl'⟩
      · exact absurd rfl hne
      · exact h.unique d' q d'' q' c' hl hl'
  · intro c' hc' _ hneeds
    by_cases hne : c' = c
    · subst hne
      exact ⟨d, _, hnew⟩
    · obtain ⟨d', q, hl⟩ := h.owned c' hc' (by simp) (by simpa [Registry.connect, hne] using hneeds)
      exact ⟨d', q, hold hl⟩
  · intro c' hc'
    by_cases hne : c' = c
    · subst hne
      simp only [Registry.connect, setClient_clients, Function.update_self]
      exact ⟨by simp, by simpa [hstate] using he.buffer, by simp⟩
    · simpa [Registry.connect, hne] using h.entries c' hc'

/-- A connection that was never on a list comes and goes. -/
theorem Ok.lostConn (h : T.Ok reliable none) (e : ConnEntry) : ((T.allocConn e).freeConn T.fresh).Ok reliable none := by
  have hfresh : ∀ d ∈ T.deviceList, ∀ q ∈ T.connections d, q ≠ T.fresh :=
    fun d hd q hq => Nat.ne_of_lt (h.conn_lt d hd q hq)
  refine { h with
    client_lt := fun c hc => Nat.lt_succ_of_lt (h.client_lt c hc)
    device_lt := fun d hd => Nat.lt_succ_of_lt (h.device_lt d hd)
    conn_lt := fun d hd q hq => Nat.lt_succ_of_lt (h.conn_lt d hd q hq)
    conn_live := ?_, unborn := ?_, conn_dev := ?_, partner := ?_, unique := ?_, owned := ?_ }
  · intro d hd q hq
    simpa [hfresh d hd q hq] using h.conn_live d hd q hq
  · intro x hx
    have hne : x ≠ T.fresh := Nat.ne_of_gt hx
    simpa [hne] using h.unborn x (Nat.le_of_succ_le hx)
  · intro d hd q hq
    simpa [hfresh d hd q hq] using h.conn_dev d hd q hq
  · intro d hd q hq
    simpa [hfresh d hd q hq] using h.partner d hd q hq
  · intro d q d' q' c hl hl'
    have hne := hfresh d hl.device q hl.conn
    have hne' := hfresh d' hl'.device q' hl'.conn
    exact h.unique d q d' q' c ⟨hl.device, hl.conn, by simpa [hne] using hl.client⟩
      ⟨hl'.device, hl'.conn, by simpa [hne'] using hl'.client⟩
  · intro c hc hex hneeds
    obtain ⟨d, q, hl⟩ := h.owned c hc hex hneeds
    have hne := hfresh d hl.device q hl.conn
    exact ⟨d, q, hl.device, hl.conn, by simpa [hne] using hl.client⟩

/-! ### Devices -/

/-- A new device is put on the list. -/
theorem Ok.newDevice (h : T.Ok reliable none) (u : UsbDevice) :
    ((T.allocDev u).listDev T.fresh).Ok reliable none := by
  have hfresh : ∀ d ∈ T.deviceList, d ≠ T.fresh := fun d hd => Nat.ne_of_lt (h.device_lt d hd)
  have hmem : ∀ {d}, d ∈ ((T.allocDev u).listDev T.fresh).deviceList ↔ d = T.fresh ∨ d ∈ T.deviceList :=
    SlotTable.mem_add
  have hnew : ((T.allocDev u).listDev T.fresh).connections T.fresh = ⟨[]⟩ := by simp [connections]
  have hold : ∀ d ≠ T.fresh, ((T.allocDev u).listDev T.fresh).connections d = T.connections d := by
    intro d hd
    simp [connections, hd]
  have hlink : ∀ {d p c}, ((T.allocDev u).listDev T.fresh).Link d p c ↔ T.Link d p c := by
    intro d p c
    constructor
    · rintro ⟨hd, hp, hc⟩
      rcases hmem.mp hd with rfl | hd
      · rw [hnew] at hp
        cases hp
      · exact ⟨hd, hold d (hfresh d hd) ▸ hp, hc⟩
    · rintro ⟨hd, hp, hc⟩
      exact ⟨hmem.mpr (.inr hd), (hold d (hfresh d hd)).symm ▸ hp, hc⟩
  have hback : ∀ d ∈ ((T.allocDev u).listDev T.fresh).deviceList,
      ∀ p ∈ ((T.allocDev u).listDev T.fresh).connections d, d ∈ T.deviceList ∧ p ∈ T.connections d := by
    intro d hd p hp
    rcases hmem.mp hd with rfl | hd
    · rw [hnew] at hp
      cases hp
    · exact ⟨hd, hold d (hfresh d hd) ▸ hp⟩
  refine { h with
    devices_nodup := h.devices_nodup.add fun hin => hfresh _ hin rfl
    client_lt := fun c hc => Nat.lt_succ_of_lt (h.client_lt c hc)
    conn_lt := fun d hd p hp => Nat.lt_succ_of_lt (h.conn_lt d (hback d hd p hp).1 p (hback d hd p hp).2)
    conn_live := fun d hd p hp => h.conn_live d (hback d hd p hp).1 p (hback d hd p hp).2
    conn_dev := fun d hd p hp => h.conn_dev d (hback d hd p hp).1 p (hback d hd p hp).2
    unborn := fun x hx => h.unborn x (Nat.le_of_succ_le hx)
    unique := fun d p d' p' c hl hl' => h.unique d p d' p' c (hlink.mp hl) (hlink.mp hl')
    conns_nodup := ?_, device_lt := ?_, device_live := ?_, ids := ?_, ids_lt := ?_, initialised := ?_
    partner := ?_, owned := ?_ }
  · intro d hd
    rcases hmem.mp hd with rfl | hd
    · rw [hnew]
      exact List.nodup_nil
    · rw [hold d (hfresh d hd)]
      exact h.conns_nodup d hd
  · intro d hd
    rcases hmem.mp hd with rfl | hd
    · exact Nat.lt_succ_self _
    · exact Nat.lt_succ_of_lt (h.device_lt d hd)
  · intro d hd
    rcases hmem.mp hd with rfl | hd
    · exact (h.unborn _ le_rfl).2.2.2
    · exact h.device_live d hd
  · intro d hd d' hd' heq
    rcases hmem.mp hd with rfl | hd <;> rcases hmem.mp hd' with rfl | hd'
    · rfl
    · have hlt := h.ids_lt d' hd'
      simp [hfresh d' hd'] at heq
      omega
    · have hlt := h.ids_lt d hd
      simp [hfresh d hd] at heq
      omega
    · exact h.ids d hd d' hd' (by simpa [hfresh d hd, hfresh d' hd'] using heq)
  · intro d hd
    rcases hmem.mp hd with rfl | hd
    · simp
    · have hlt := h.ids_lt d hd
      simp only [listDev_devs, allocDev_devs, listDev_nextDeviceId, allocDev_nextDeviceId]
      rw [Function.update_of_ne (hfresh d hd)]
      omega
  · intro d hd
    rcases hmem.mp hd with rfl | hd
    · simp
    · simpa [hfresh d hd] using h.initialised d hd
  · intro d hd p hp
    obtain ⟨hd, hp⟩ := hback d hd p hp
    obtain ⟨c, hc, hin, hdev, hmatch⟩ := h.partner d hd p hp
    exact ⟨c, hc, hin, by simpa [hfresh d hd] using hdev, hmatch⟩
  · intro c hc hex hneeds
    obtain ⟨d, p, hl⟩ := h.owned c hc hex hneeds
    exact ⟨d, p, hlink.mpr hl⟩

/-- A device that was never on the list comes and goes. -/
theorem Ok.lostDevice (h : T.Ok reliable none) (u : UsbDevice) :
    ((T.allocDev u).freeDev T.fresh).Ok reliable none := by
  have hfresh : ∀ d ∈ T.deviceList, d ≠ T.fresh := fun d hd => Nat.ne_of_lt (h.device_lt d hd)
  have hold : ∀ d ∈ T.deviceList, ((T.allocDev u).freeDev T.fresh).devs d = T.devs d := by
    intro d hd
    simp [hfresh d hd]
  have hconns : ∀ d ∈ T.deviceList, ((T.allocDev u).freeDev T.fresh).connections d = T.connections d := by
    intro d hd
    rw [connections, hold d hd, connections]
  have hlink : ∀ {d p c}, ((T.allocDev u).freeDev T.fresh).Link d p c ↔ T.Link d p c :=
    ⟨fun ⟨hd, hp, hc⟩ => ⟨hd, hconns _ hd ▸ hp, hc⟩, fun ⟨hd, hp, hc⟩ => ⟨hd, (hconns _ hd).symm ▸ hp, hc⟩⟩
  refine { h with
    client_lt := fun c hc => Nat.lt_succ_of_lt (h.client_lt c hc)
    device_lt := fun d hd => Nat.lt_succ_of_lt (h.device_lt d hd)
    conns_nodup := fun d hd => (hconns d hd).symm ▸ h.conns_nodup d hd
    conn_lt := fun d hd p hp => Nat.lt_succ_of_lt (h.conn_lt d hd p (hconns d hd ▸ hp))
    conn_live := fun d hd p hp => h.conn_live d hd p (hconns d hd ▸ hp)
    conn_dev := fun d hd p hp => h.conn_dev d hd p (hconns d hd ▸ hp)
    ids := fun d hd d' hd' heq => h.ids d hd d' hd' (by rwa [hold d hd, hold d' hd'] at heq)
    ids_lt := fun d hd => by rw [hold d hd]; exact Nat.lt_succ_of_lt (h.ids_lt d hd)
    initialised := fun d hd => by rw [hold d hd]; exact h.initialised d hd
    partner := fun d hd p hp => by rw [hold d hd]; exact h.partner d hd p (hconns d hd ▸ hp)
    unique := fun d p d' p' c hl hl' => h.unique d p d' p' c (hlink.mp hl) (hlink.mp hl')
    device_live := ?_, unborn := ?_, owned := ?_ }
  · intro d hd
    simpa [hfresh d hd] using h.device_live d hd
  · intro x hx
    have hne : x ≠ T.fresh := Nat.ne_of_gt hx
    simpa [hne] using h.unborn x (Nat.le_of_succ_le hx)
  · intro c hc hex hneeds
    obtain ⟨d, p, hl⟩ := h.owned c hc hex hneeds
    exact ⟨d, p, hlink.mpr hl⟩

/-- A device without connections goes. -/
theorem Ok.dropDev (h : T.Ok reliable none) {d : Ptr} (hd : d ∈ T.deviceList) (hno : ∀ p, p ∉ T.connections d) :
    (T.dropDev d).Ok reliable none := by
  have hmem : ∀ {d'}, d' ∈ T.deviceList.remove d ↔ d' ≠ d ∧ d' ∈ T.deviceList :=
    SlotTable.mem_remove h.devices_nodup
  have hlt := h.device_lt d hd
  refine { h with
    devices_nodup := h.devices_nodup.remove d
    conns_nodup := fun d' hd' => h.conns_nodup d' (hmem.mp hd').2
    device_lt := fun d' hd' => h.device_lt d' (hmem.mp hd').2
    conn_lt := fun d' hd' p hp => h.conn_lt d' (hmem.mp hd').2 p hp
    conn_live := fun d' hd' p hp => h.conn_live d' (hmem.mp hd').2 p hp
    ids := fun d' hd' d'' hd'' heq => h.ids d' (hmem.mp hd').2 d'' (hmem.mp hd'').2 heq
    ids_lt := fun d' hd' => h.ids_lt d' (hmem.mp hd').2
    initialised := fun d' hd' => h.initialised d' (hmem.mp hd').2
    conn_dev := fun d' hd' p hp => h.conn_dev d' (hmem.mp hd').2 p hp
    partner := fun d' hd' p hp => h.partner d' (hmem.mp hd').2 p hp
    unique := fun d' p d'' p' c hl hl' => h.unique d' p d'' p' c
      ⟨(hmem.mp hl.device).2, hl.conn, hl.client⟩ ⟨(hmem.mp hl'.device).2, hl'.conn, hl'.client⟩
    device_live := ?_, unborn := ?_, owned := ?_ }
  · intro d' hd'
    simpa [(hmem.mp hd').1] using h.device_live d' (hmem.mp hd').2
  · intro x hx
    have hne : x ≠ d := Nat.ne_of_gt (Nat.lt_of_lt_of_le hlt hx)
    simpa [hne] using h.unborn x hx
  · intro c hc hex hneeds
    obtain ⟨d', p, hl⟩ := h.owned c hc hex hneeds
    have hne : d' ≠ d := fun heq => hno p (heq ▸ hl.conn)
    exact ⟨d', p, hmem.mpr ⟨hne, hl.device⟩, hl.conn, hl.client⟩

/-- A device changes, but neither its number nor what is on its list. -/
theorem Ok.setDev (h : T.Ok reliable none) {d : Ptr} {e : DevEntry} (hid : e.id = (T.devs d).id)
    (hconns : (e.connections.getD ⟨[]⟩).elements = (T.connections d).elements)
    (hinit : e.state = .init ↔ e.connections = none) : (T.setDev d e).Ok reliable none := by
  have hids : ∀ d', ((T.setDev d e).devs d').id = (T.devs d').id := by
    intro d'
    by_cases hne : d' = d
    · subst hne
      simpa using hid
    · simp [hne]
  have helems : ∀ d', ((T.setDev d e).connections d').elements = (T.connections d').elements := by
    intro d'
    by_cases hne : d' = d
    · subst hne
      simpa [connections] using hconns
    · simp [connections, hne]
  have hmem : ∀ {d' p}, p ∈ (T.setDev d e).connections d' ↔ p ∈ T.connections d' := by
    intro d' p
    rw [SlotTable.mem_def, helems, SlotTable.mem_def]
  have hlink : ∀ {d' p c}, (T.setDev d e).Link d' p c ↔ T.Link d' p c :=
    ⟨fun ⟨hd, hp, hc⟩ => ⟨hd, hmem.mp hp, hc⟩, fun ⟨hd, hp, hc⟩ => ⟨hd, hmem.mpr hp, hc⟩⟩
  refine { h with
    conns_nodup := fun d' hd' => by
      unfold SlotTable.Nodup
      rw [helems]
      exact h.conns_nodup d' hd'
    conn_lt := fun d' hd' p hp => h.conn_lt d' hd' p (hmem.mp hp)
    conn_live := fun d' hd' p hp => h.conn_live d' hd' p (hmem.mp hp)
    ids := fun d' hd' d'' hd'' heq => h.ids d' hd' d'' hd'' (by rwa [hids, hids] at heq)
    ids_lt := fun d' hd' => by rw [hids]; exact h.ids_lt d' hd'
    conn_dev := fun d' hd' p hp => h.conn_dev d' hd' p (hmem.mp hp)
    partner := fun d' hd' p hp => by rw [hids]; exact h.partner d' hd' p (hmem.mp hp)
    unique := fun d' p d'' p' c hl hl' => h.unique d' p d'' p' c (hlink.mp hl) (hlink.mp hl')
    initialised := ?_, owned := ?_ }
  · intro d' hd'
    by_cases hne : d' = d
    · subst hne
      simpa using hinit
    · simpa [hne] using h.initialised d' hd'
  · intro c hc hex hneeds
    obtain ⟨d', p, hl⟩ := h.owned c hc hex hneeds
    exact ⟨d', p, hlink.mpr hl⟩

end Ok

/-! ### Steps -/

/-- A step of the registry, while device `removing` may be on its way out. The entry a
record is left with when it is freed does not matter. -/
inductive Step (reliable : Prop) (removing : Option Ptr) (T : Registry) : Registry → Prop where
  | newClient : Step reliable removing T T.newClient
  /-- A client without a connection starts to listen. -/
  | listen (c : Ptr) (hc : c ∈ T.clientList) (hstate : (T.clients c).state = .command) :
      Step reliable removing T (T.setClient c { T.clients c with state := .listen })
  /-- A client gets a connection. -/
  | connect (d c : Ptr) (hd : d ∈ T.deviceList) (hconns : (T.devs d).connections ≠ none) (hc : c ∈ T.clientList)
      (hstate : (T.clients c).state = .command) : Step reliable removing T (T.connect d c)
  /-- A connection is made whose first packet is not sent. -/
  | lostConn (e : ConnEntry) : Step reliable removing T ((T.allocConn e).freeConn T.fresh)
  /-- The device has accepted a connection. -/
  | establish (d p c : Ptr) (hl : T.Link d p c) :
      Step reliable removing T ((T.setConn p { T.conns p with state := .connected }).setClient c
        { T.clients c with state := .connecting2, hasIbBuf := false, wantsRead := false })
  /-- The reply has been sent. -/
  | reply (c : Ptr) (hc : c ∈ T.clientList) (hstate : (T.clients c).state = .connecting2) :
      Step reliable removing T (T.setClient c { T.clients c with state := .connected })
  /-- The device has refused a connection, and the client may try again. -/
  | refuse (d p c : Ptr) (e : ConnEntry) (hl : T.Link d p c) (hstate : (T.clients c).state = .connecting1) :
      Step reliable removing T ((T.unlink d p e).setClient c { T.clients c with state := .command })
  /-- A connection is gone, and the client could not be told. -/
  | abandon (d p c : Ptr) (e : ConnEntry) (hl : T.Link d p c) (hstate : (T.clients c).state = .connecting1)
      (h : ¬ reliable) : Step reliable removing T (T.unlink d p e)
  /-- A connection and its client go. -/
  | close (d p c : Ptr) (e : ConnEntry) (e' : ClientEntry) (hl : T.Link d p c) :
      Step reliable removing T ((T.unlink d p e).dropClient c e')
  /-- A client without a connection goes. -/
  | discard (c : Ptr) (e : ClientEntry) (hc : c ∈ T.clientList) (hno : ∀ d p, ¬ T.Link d p c) :
      Step reliable removing T (T.dropClient c e)
  | newDevice (u : UsbDevice) : Step reliable removing T ((T.allocDev u).listDev T.fresh)
  /-- A device is made whose first packet is not sent. -/
  | lostDevice (u : UsbDevice) : Step reliable removing T ((T.allocDev u).freeDev T.fresh)
  /-- A device changes, but neither its number nor what is on its list. -/
  | device (d : Ptr) (e : DevEntry) (hid : e.id = (T.devs d).id)
      (hconns : (e.connections.getD ⟨[]⟩).elements = (T.connections d).elements)
      (hinit : e.state = .init ↔ e.connections = none) (hdead : e.state = .dead → removing = some d) :
      Step reliable removing T (T.setDev d e)
  /-- A device without connections goes. -/
  | dropDev (d : Ptr) (hd : d ∈ T.deviceList) (hno : ∀ p, p ∉ T.connections d) : Step reliable removing T (T.dropDev d)

/-- A sequence of steps. -/
abbrev Steps (reliable : Prop) (removing : Option Ptr) : Registry → Registry → Prop :=
  ReflTransGen (Step reliable removing)

section Steps

variable {T T' : Registry} {reliable : Prop} {removing : Option Ptr}

theorem Ok.no_link_of_state (h : T.Ok reliable none) {c : Ptr} (hc : (T.clients c).state = .command ∨
    (T.clients c).state = .listen ∨ (T.clients c).state = .dead) (d p : Ptr) : ¬ T.Link d p c := by
  intro hl
  have hmatch := (h.link_client hl).2.2
  rcases hc with hc | hc | hc <;> rw [hc] at hmatch <;> cases hm : (T.conns p).state <;> rw [hm] at hmatch <;>
    cases hmatch

/-- A step keeps the bookkeeping in order. -/
theorem Ok.step (h : T.Ok reliable none) (hs : Step reliable removing T T') : T'.Ok reliable none := by
  cases hs with
  | newClient => exact h.newClient
  | listen c hc hstate =>
    have he := h.entries c hc
    refine h.setClient ⟨by simp, ?_, by simp⟩ (fun d p hl => absurd hl (h.no_link_of_state (.inl hstate) d p))
      (by simp [NeedsConn])
    simpa [hstate] using he.buffer
  | connect d c hd hconns hc hstate => exact h.connect hd hconns hc hstate
  | lostConn e => exact h.lostConn e
  | establish d p c hl => exact h.advance hl ⟨by simp, by simp, by simp⟩ rfl .connecting2
  | reply c hc hstate =>
    have he := h.entries c hc
    refine h.setClient ⟨by simp, ?_, by simp⟩ ?_ ?_
    · simpa [hstate] using he.buffer
    · intro d p hl
      obtain ⟨-, hdev, hmatch⟩ := h.link_client hl
      rw [hstate] at hmatch
      refine ⟨hdev, ?_⟩
      cases hm : (T.conns p).state <;> rw [hm] at hmatch <;> cases hmatch
      exact .connected
    · intro _ _
      exact h.owned c hc (by simp) (.inl hstate)
  | refuse d p c e hl hstate =>
    obtain ⟨hc, -, -⟩ := h.link_client hl
    have hu := h.unlink hl e
    have he := h.entries c hc
    have hno : ∀ d' p', ¬ (T.unlink d p e).Link d' p' c := by
      intro d' p' hl'
      obtain ⟨hne, hl'⟩ := (h.link_unlink hl.device hl.conn).mp hl'
      exact hne (h.unique d' p' d p c hl' hl)
    have hs := hu.setClient (c := c) (e := { T.clients c with state := .command })
      ⟨by simp, by simpa [hstate] using he.buffer, by simp⟩ (fun d' p' hl' => absurd hl' (hno d' p'))
      (by simp [NeedsConn])
    refine hs.settle fun c' _ hex hneeds => ?_
    obtain rfl : c = c' := by simpa using hex
    simp [NeedsConn] at hneeds
  | abandon d p c e hl hstate hrel =>
    refine (h.unlink hl e).settle fun c' _ hex hneeds => ?_
    obtain rfl : c = c' := by simpa using hex
    simp [NeedsConn, hstate, hrel] at hneeds
  | close d p c e e' hl =>
    refine (h.unlink hl e).dropClient (.inr rfl) (h.client_lt c (h.link_client hl).1) ?_ e'
    intro d' p' hl'
    obtain ⟨hne, hl'⟩ := (h.link_unlink hl.device hl.conn).mp hl'
    exact hne (h.unique d' p' d p c hl' hl)
  | discard c e hc hno => exact h.dropClient (.inl rfl) (h.client_lt c hc) hno e
  | newDevice u => exact h.newDevice u
  | lostDevice u => exact h.lostDevice u
  | device d e hid hconns hinit _ => exact h.setDev hid hconns hinit
  | dropDev d hd hno => exact h.dropDev hd hno

theorem Ok.steps (h : T.Ok reliable none) (hs : Steps reliable removing T T') : T'.Ok reliable none := by
  induction hs with
  | refl => exact h
  | tail _ hstep ih => exact ih.step hstep

/-- No record has been released twice. -/
structure ReleasedOnce (T : Registry) : Prop where
  conn : ∀ p, T.freedConn p ≤ 1
  client : ∀ c, T.freedClient c ≤ 1
  socket : ∀ c, T.closedSocket c ≤ 1
  dev : ∀ d, T.freedDev d ≤ 1

/-- A count that was `0` is at most `1` after it has gone up. -/
theorem update_succ_le {f : Ptr → ℕ} {x : Ptr} (hf : ∀ y, f y ≤ 1) (hx : f x = 0) (y : Ptr) :
    Function.update f x (f x + 1) y ≤ 1 := by
  by_cases h : y = x
  · subst h
    simp [hx]
  · simpa [h] using hf y

/-- No step releases anything a second time. -/
theorem ReleasedOnce.step (hr : T.ReleasedOnce) (h : T.Ok reliable none) (hs : Step reliable removing T T') :
    T'.ReleasedOnce := by
  cases hs with
  | lostConn e => exact { hr with conn := update_succ_le hr.conn (h.unborn _ le_rfl).1 }
  | refuse d p c e hl _ =>
    exact { hr with conn := update_succ_le hr.conn (h.conn_live d hl.device p hl.conn) }
  | abandon d p c e hl _ _ =>
    exact { hr with conn := update_succ_le hr.conn (h.conn_live d hl.device p hl.conn) }
  | close d p c e e' hl =>
    obtain ⟨hclient, hsocket⟩ := h.client_live c (h.link_client hl).1
    exact { hr with
      conn := update_succ_le hr.conn (h.conn_live d hl.device p hl.conn)
      client := update_succ_le hr.client hclient
      socket := update_succ_le hr.socket hsocket }
  | discard c e hc hno =>
    obtain ⟨hclient, hsocket⟩ := h.client_live c hc
    exact { hr with client := update_succ_le hr.client hclient, socket := update_succ_le hr.socket hsocket }
  | lostDevice u => exact { hr with dev := update_succ_le hr.dev (h.unborn _ le_rfl).2.2.2 }
  | dropDev d hd _ => exact { hr with dev := update_succ_le hr.dev (h.device_live d hd) }
  | _ => exact { hr with }

theorem ReleasedOnce.steps (hr : T.ReleasedOnce) (h : T.Ok reliable none) (hs : Steps reliable removing T T') :
    T'.ReleasedOnce := by
  induction hs with
  | refl => exact hr
  | tail hsteps hstep ih => exact ih.step (h.steps hsteps) hstep

/-! ### Phases -/

/-- No device on the list is dead, but for the one on its way out. -/
def Settled (removing : Option Ptr) (T : Registry) : Prop :=
  ∀ d ∈ T.deviceList, (T.devs d).state = .dead → removing = some d

theorem Settled.step (hr : T.Settled removing) (h : T.Ok reliable none) (hs : Step reliable removing T T') :
    T'.Settled removing := by
  have hkeep : ∀ (d p : Ptr) (f : SlotTable Ptr → SlotTable Ptr), ∀ d' ∈ T.deviceList,
      (Function.update T.devs d { T.devs d with connections := (T.devs d).connections.map f } d').state = .dead →
        removing = some d' := by
    intro d p f d' hd' hdead
    refine hr d' hd' ?_
    by_cases hne : d' = d
    · subst hne
      simpa using hdead
    · simpa [hne] using hdead
  cases hs with
  | connect d c => exact hkeep d T.fresh _
  | refuse d p c e => exact hkeep d p _
  | abandon d p c e => exact hkeep d p _
  | close d p c e e' => exact hkeep d p _
  | newDevice u =>
    intro d hd hdead
    rcases SlotTable.mem_add.mp hd with rfl | hd
    · simp at hdead
    · have hne : d ≠ T.fresh := Nat.ne_of_lt (h.device_lt d hd)
      exact hr d hd (by simpa [hne] using hdead)
  | lostDevice u =>
    intro d hd hdead
    have hne : d ≠ T.fresh := Nat.ne_of_lt (h.device_lt d hd)
    exact hr d hd (by simpa [hne] using hdead)
  | device d e _ _ _ hgoing =>
    intro d' hd' hdead
    by_cases hne : d' = d
    · subst hne
      exact hgoing (by simpa using hdead)
    · exact hr d' hd' (by simpa [hne] using hdead)
  | dropDev d =>
    intro d' hd' hdead
    exact hr d' (SlotTable.mem_of_mem_remove hd') hdead
  | _ => exact hr

theorem Settled.steps (hr : T.Settled removing) (h : T.Ok reliable none) (hs : Steps reliable removing T T') :
    T'.Settled removing := by
  induction hs with
  | refl => exact hr
  | tail hsteps hstep ih => exact ih.step (h.steps hsteps) hstep

/-- Nothing cuts the teardown short. -/
theorem Steps.cutShort (hs : Steps reliable removing T T') : T'.cutShort = T.cutShort := by
  induction hs with
  | refl => rfl
  | tail _ hstep ih =>
    rw [← ih]
    cases hstep <;> rfl

/-- Steps at whose end no device is on its way out. -/
def Phase (reliable : Prop) (T T' : Registry) : Prop :=
  ∃ removing, Steps reliable removing T T' ∧ ∀ d, removing = some d → d ∉ T'.deviceList

/-- A sequence of phases. -/
abbrev Phases (reliable : Prop) : Registry → Registry → Prop := ReflTransGen (Phase reliable)

theorem Steps.phases (hs : Steps reliable none T T') : Phases reliable T T' := .single ⟨none, hs, by simp⟩

theorem Settled.relax (hr : T.Settled none) (removing : Option Ptr) : T.Settled removing :=
  fun d hd hdead => absurd (hr d hd hdead) (by simp)

/-- What holds between the operations. -/
structure Sound (reliable : Prop) (T : Registry) : Prop where
  ok : T.Ok reliable none
  settled : T.Settled none

theorem Sound.phases (h : T.Sound reliable) (hs : Phases reliable T T') : T'.Sound reliable := by
  induction hs with
  | refl => exact h
  | tail _ hphase ih =>
    obtain ⟨removing, hsteps, hgone⟩ := hphase
    refine ⟨ih.ok.steps hsteps, fun d hd hdead => ?_⟩
    exact absurd hd (hgone d ((ih.settled.relax removing).steps ih.ok hsteps d hd hdead))

theorem ReleasedOnce.phases (hr : T.ReleasedOnce) (h : T.Sound reliable) (hs : Phases reliable T T') :
    T'.ReleasedOnce := by
  induction hs with
  | refl => exact hr
  | tail hphases hphase ih =>
    obtain ⟨removing, hsteps, -⟩ := hphase
    exact ih.steps (h.phases hphases).ok hsteps

theorem Phases.cutShort (hs : Phases reliable T T') : T'.cutShort = T.cutShort := by
  induction hs with
  | refl => rfl
  | tail _ hphase ih =>
    obtain ⟨removing, hsteps, -⟩ := hphase
    rw [hsteps.cutShort, ih]

end Steps

end Registry

end Usbmuxd
