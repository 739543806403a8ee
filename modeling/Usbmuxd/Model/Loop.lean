import Usbmuxd.Model.Command

/-!
# Runs

Two ways to run the daemon.

* `Op` — one operation at a time, in any order: a step of a client's socket, a segment
  or a transfer from a device, a device that comes or goes, a section of a preflight
  thread. Nothing is assumed about which operation follows which, or that a readiness
  mask is one that `select` could report.
* `mainPass` — one iteration of `MainThreadProc`: the snapshot of the event masks, what
  `select` makes of it, and the phases in their order.
-/

namespace Usbmuxd

open World

/-! ### Operations -/

/-- An operation. -/
inductive Op where
  /-- `client_accept`. -/
  | clientAccept
  /-- The body of the loop of `client_process`, for a client on the list. -/
  | clientReady (c : Ptr) (events : Events)
  /-- A pending command of `usb_process`: `device_add`, `device_remove` and so on. -/
  | usb (a : UsbAction)
  /-- `device_accept_socket`. -/
  | acceptSocket (u : UsbDevice)
  /-- `device_version_input`, for a device on the list. -/
  | versionInput (d : Ptr) (vh : VersionHeader)
  /-- `device_tcp_input`, for a device on the list, with what one packet can hold. -/
  | tcpInput (d : Ptr) (th : TcpHdr) (payload : List UInt8)
  /-- A transfer, drained by `device_process_sockets`. -/
  | transfer (d : Ptr) (t : Transfer)
  /-- `device_check_timeouts`. -/
  | checkTimeouts
  /-- The two sections of `client_device_add`. -/
  | setVisible (id : ℕ)
  | announce (info : DeviceInfo)
  /-- `client_device_pairing_event`. -/
  | pairingEvent (info : DeviceInfo) (event : PairingEvent) (validate : Bool)
  /-- `device_preflight_finished`. -/
  | preflightFinished (id : ℕ)

/-- Do one operation. -/
def exec (env : Env) (w : World) : Op → World
  | .clientAccept => clientAccept false w
  | .clientReady c events => if c ∈ w.clientList then clientReady env c events w else w
  | .usb a => usbAction env a w
  | .acceptSocket u => deviceAcceptSocket u w
  | .versionInput d vh => if d ∈ w.deviceList then deviceVersionInput env d vh w else w
  | .tcpInput d th payload =>
    if d ∈ w.deviceList ∧ payload.length ≤ devMru.toNat then deviceTcpInput env d th payload w else w
  | .transfer d t => if d ∈ w.deviceList then deviceProcessSocket env d t w else w
  | .checkTimeouts => deviceCheckTimeouts env w
  | .setVisible id => deviceSetVisible id w
  | .announce info => announceDevice env info w
  | .pairingEvent info event validate => clientDevicePairingEvent env info event validate w
  | .preflightFinished id => devicePreflightFinished id w

/-- A run, from the start of the daemon. -/
def run (env : Env) (ops : List Op) : World := ops.foldl (exec env) .init

@[simp] theorem run_nil (env : Env) : run env [] = .init := rfl

theorem run_append (env : Env) (ops : List Op) (op : Op) : run env (ops ++ [op]) = exec env (run env ops) op := by
  simp [run]

/-- What holds at the start and is kept by every operation holds after every run. -/
theorem run_induct {env : Env} {P : World → Prop} (hinit : P .init) (hstep : ∀ w op, P w → P (exec env w op))
    (ops : List Op) : P (run env ops) := by
  induction ops using List.reverseRecOn with
  | nil => exact hinit
  | append_singleton ops op ih =>
    rw [run_append]
    exact hstep _ _ ih

/-- Every operation of a run meets a condition on the world it starts from. -/
def Along (env : Env) (ok : World → Op → Prop) (ops : List Op) : Prop :=
  ∀ before op after, ops = before ++ op :: after → ok (run env before) op

theorem Along.init {env : Env} {ok : World → Op → Prop} {ops : List Op} {op : Op} (h : Along env ok (ops ++ [op])) :
    Along env ok ops := fun before op' after heq => h before op' (after ++ [op]) (by rw [heq]; simp)

theorem Along.last {env : Env} {ok : World → Op → Prop} {ops : List Op} {op : Op} (h : Along env ok (ops ++ [op])) :
    ok (run env ops) op := h ops op [] rfl

/-- An outside where everything succeeds and nobody says anything. -/
def Env.quiet : Env where
  usbSend _ := true
  send _ := 0x10000
  recv _ := []
  realloc _ := true
  mstime64 _ := 0
  plistToXml _ _ := some []
  plistFromXml _ := none
  usbInfo _ := (0, [], 0)
  includeHidden _ := false
  getSystemBuid _ := []
  getDeviceRecord _ _ := none
  setDeviceRecord _ _ _ := 0
  removeDeviceRecord _ _ := 0
  usbProcess _ := []

/-- An outside where the first client to come asks device `1` for port 80. -/
def Env.asking : Env where
  __ := quiet
  recv t := if t = 1 then le32 24 ++ le32 0 ++ le32 2 ++ le32 7 else le32 1 ++ [0, 80, 0, 0]

/-- An outside where every client asks to listen, again and again. -/
def Env.listening : Env where
  __ := quiet
  recv _ := le32 16 ++ le32 0 ++ le32 3 ++ le32 0

/-- Device `1` comes, client `2` comes and sends its request, and the device answers it. -/
def connectOps : List Op :=
  [.usb (.deviceAdd 5), .versionInput 1 ⟨1, 0, 0⟩, .clientAccept, .clientReady 2 ⟨true, false⟩,
    .clientReady 2 ⟨true, false⟩, .tcpInput 1 ⟨80, 1, 0, 1, 0x50, thSyn ||| thAck, 1000, 0, 0⟩ []]

/-! ### The main loop -/

/-- `FD_SETSIZE`. -/
def fdSetSize : ℕ := 64

/-- What the outside has ready when `select` returns. -/
structure Readiness where
  /-- `select` has timed out. -/
  timedOut : Bool
  /-- There is a client to accept. -/
  newClient : Bool
  /-- There is a device socket to accept, for this device. -/
  newDevice : Option UsbDevice
  /-- The state of each client's socket. -/
  client : Ptr → Events
  /-- The transfer of each device whose socket is readable. -/
  transfer : Ptr → Option Transfer

/-- `CreateFdSets` and `select`, for a client: what is ready and was asked for. -/
def selectClients (r : Readiness) (w : World) (c : Ptr) : Events :=
  if c ∈ w.clientList then
    ⟨(w.clients c).events.pollin && (r.client c).pollin, (w.clients c).events.pollout && (r.client c).pollout⟩
  else ⟨false, false⟩

/-- `CreateFdSets` and `select`, for a device. -/
def selectDevices (r : Readiness) (w : World) (d : Ptr) : Option Transfer :=
  if d ∈ w.deviceList ∧ (w.devs d).rxDataEventsSocket then r.transfer d else none

/-- The number of sockets `CreateFdSets` counts. -/
def fdCount (w : World) : ℕ :=
  2 + w.clientList.count + (w.deviceList.elements.filter fun d => (w.devs d).rxDataEventsSocket).length

/-- The phases of an iteration in front of `client_process`. -/
def devicePhase (env : Env) (r : Readiness) (w : World) : World :=
  let full := fdSetSize < fdCount w + 1
  let transfers := selectDevices r w
  let w := if r.newClient then clientAccept full w else w
  let w := match r.newDevice with
    | some u => if full then w else deviceAcceptSocket u w
    | none => w
  usbProcess env (deviceProcessSockets env transfers w)

/-- One iteration of `MainThreadProc`. -/
def mainPass (env : Env) (r : Readiness) (w : World) : World :=
  if r.timedOut then deviceCheckTimeouts env (usbProcess env w)
  else clientProcess env (selectClients r w) (devicePhase env r w)

end Usbmuxd
