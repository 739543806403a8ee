import Usbmuxd.Model.Collection

/-!
# The host process shuts down after an idle period only

`RunUsbmuxdHost` starts the daemon and then waits for its shutdown event and for its
keep-alive event, with a timeout. At each timeout it polls the daemon for devices, and when
automatic shutdown is on it ends once there have been none for
`NO_DEVICES_SHUTDOWN_TIMEOUT` ticks. The start of that period is kept in a tick count in
which `0` means that no period has started.

## The model

* `HostPoll` — what the outside answers in one turn of the loop: the wait, the device list
  under `usbmuxd_HasDevices`, and `GetTickCount`, which a turn calls at most once.
* `hostStep`, `hostAfter` — a turn of the loop, and the loop under an endless supply of
  answers. `bShouldShutdown` says also which branch has set it.

## What is proved

* `hostAfter_idle` — a period that has started began with a poll, and nothing since then
  has ended it.
* `host_shutdown_idle` — so a loop that ends for want of devices ends an idle period that
  was long enough. A tick count of `0` makes the period start at a later poll, and the
  subtraction is modulo `2^32`.
-/

namespace Usbmuxd

/-- `WAIT_OBJECT_0 + WAIT_EVENT_SHUTDOWN`. -/
def waitShutdown : UInt32 := 0

/-- `WAIT_OBJECT_0 + WAIT_EVENT_KEEP_ALIVE`. -/
def waitKeepAlive : UInt32 := 1

/-- `WAIT_TIMEOUT`. -/
def waitTimeout : UInt32 := 258

/-- `NO_DEVICES_SHUTDOWN_TIMEOUT`. -/
def noDevicesShutdownTimeout : UInt32 := 5000

/-- `usb_has_devices`, which is `usbmuxd_HasDevices`. -/
def usbHasDevices (gDeviceList : Collection UsbDevice) : Bool := decide (collectionCount gDeviceList > 0)

/-- It says whether there is a device in the list. -/
theorem usbHasDevices_iff (gDeviceList : Collection UsbDevice) :
    usbHasDevices gDeviceList = true ↔ ∃ u, u ∈ gDeviceList := by
  rw [usbHasDevices, decide_eq_true_iff, gt_iff_lt, collectionCount_eq, SlotTable.count, List.length_pos_iff_exists_mem]
  rfl

/-- What a turn of the loop is answered. -/
structure HostPoll where
  /-- `dwWaitResult`. -/
  waitResult : UInt32
  /-- `g_device_list`, when `usbmuxd_HasDevices` looks at it. -/
  gDeviceList : Collection UsbDevice
  /-- `GetTickCount`. -/
  tickCount : UInt32

/-- The branch of the loop that ends it. -/
inductive HostEnd
  /-- The shutdown event. -/
  | shutdownEvent
  /-- "Shutting down because we don't have a device". -/
  | noDevices
  /-- The wait failed. -/
  | waitError
  deriving DecidableEq

/-- The variables of the loop. -/
structure HostState where
  /-- `dwNoDevicesTimestamp`, `0` for not set. -/
  dwNoDevicesTimestamp : UInt32
  /-- `bShouldShutdown`, with the branch that has set it. -/
  bShouldShutdown : Option HostEnd

/-- One turn of the loop of `RunUsbmuxdHost`. -/
def hostStep (bAutoShutdown : Bool) (poll : HostPoll) (s : HostState) : HostState :=
  if poll.waitResult = waitShutdown then { s with bShouldShutdown := some .shutdownEvent }
  else if poll.waitResult = waitKeepAlive then { s with dwNoDevicesTimestamp := 0 }
  else if poll.waitResult = waitTimeout then
    if !bAutoShutdown || usbHasDevices poll.gDeviceList then { s with dwNoDevicesTimestamp := 0 }
    else if s.dwNoDevicesTimestamp = 0 then { s with dwNoDevicesTimestamp := poll.tickCount }
    else if poll.tickCount - s.dwNoDevicesTimestamp ≥ noDevicesShutdownTimeout then
      { s with bShouldShutdown := some .noDevices }
    else s
  else { s with bShouldShutdown := some .waitError }

/-- The loop after at most `n` turns. -/
def hostAfter (bAutoShutdown : Bool) (polls : ℕ → HostPoll) : ℕ → HostState
  | 0 => ⟨0, none⟩
  | n + 1 =>
    let s := hostAfter bAutoShutdown polls n
    if s.bShouldShutdown.isSome then s else hostStep bAutoShutdown (polls n) s

variable {bAutoShutdown : Bool} {polls : ℕ → HostPoll} {m n : ℕ}

/-- Turn `m` polled, and from there until turn `n` no poll found a device and no
keep-alive came. -/
structure IdleSince (polls : ℕ → HostPoll) (m n : ℕ) : Prop where
  /-- Turn `m` is a poll. -/
  poll : (polls m).waitResult = waitTimeout
  /-- It is an earlier turn. -/
  lt : m < n
  /-- No keep-alive. -/
  no_keepAlive : ∀ k, m ≤ k → k < n → (polls k).waitResult ≠ waitKeepAlive
  /-- No device. -/
  no_device : ∀ k, m ≤ k → k < n → (polls k).waitResult = waitTimeout → usbHasDevices (polls k).gDeviceList = false

/-- A poll without a device starts a period. -/
theorem IdleSince.start (hpoll : (polls n).waitResult = waitTimeout)
    (hnone : usbHasDevices (polls n).gDeviceList = false) : IdleSince polls n (n + 1) := by
  have honly : ∀ k, n ≤ k → k < n + 1 → k = n := fun k hle hlt => by omega
  constructor
  · exact hpoll
  · exact Nat.lt_succ_self n
  · intro k hle hlt
    rw [honly k hle hlt, hpoll]
    decide
  · intro k hle hlt _
    rwa [honly k hle hlt]

/-- A period goes on through a poll without a device. -/
theorem IdleSince.extend (h : IdleSince polls m n) (hpoll : (polls n).waitResult = waitTimeout)
    (hnone : usbHasDevices (polls n).gDeviceList = false) : IdleSince polls m (n + 1) := by
  constructor
  · exact h.poll
  · exact Nat.lt_succ_of_lt h.lt
  · intro k hle hlt
    rcases Nat.lt_succ_iff_lt_or_eq.mp hlt with hlt | rfl
    · exact h.no_keepAlive k hle hlt
    · rw [hpoll]
      decide
  · intro k hle hlt htimeout
    rcases Nat.lt_succ_iff_lt_or_eq.mp hlt with hlt | rfl
    · exact h.no_device k hle hlt htimeout
    · exact hnone

/-- A running loop with a timestamp is in an idle period that began at the poll which
took the timestamp. -/
def Idle (bAutoShutdown : Bool) (polls : ℕ → HostPoll) (n : ℕ) (s : HostState) : Prop :=
  s.bShouldShutdown = none → s.dwNoDevicesTimestamp ≠ 0 →
    bAutoShutdown = true ∧ ∃ m, IdleSince polls m n ∧ s.dwNoDevicesTimestamp = (polls m).tickCount

/-- A turn keeps `Idle`. -/
theorem Idle.hostStep {s : HostState} (h : Idle bAutoShutdown polls n s) :
    Idle bAutoShutdown polls (n + 1) (hostStep bAutoShutdown (polls n) s) := by
  unfold Usbmuxd.hostStep
  split
  · intro hrun
    cases hrun
  · split
    · intro _ hset
      exact absurd rfl hset
    · split
      · rename_i hpoll
        split
        · intro _ hset
          exact absurd rfl hset
        · rename_i hauto
          obtain ⟨hauto, hnone⟩ := Bool.or_eq_false_iff.mp (Bool.not_eq_true _ ▸ hauto)
          split
          · -- the first poll without a device takes the time
            intro _ _
            exact ⟨by simpa using hauto, n, .start hpoll hnone, rfl⟩
          · split
            · intro hrun
              cases hrun
            · intro hrun hset
              obtain ⟨hon, m, hidle, htime⟩ := h hrun hset
              exact ⟨hon, m, hidle.extend hpoll hnone, htime⟩
      · intro hrun
        cases hrun

/-- The loop is `Idle` throughout. -/
theorem hostAfter_idle (bAutoShutdown : Bool) (polls : ℕ → HostPoll) (n : ℕ) :
    Idle bAutoShutdown polls n (hostAfter bAutoShutdown polls n) := by
  induction n with
  | zero => exact fun _ hset => absurd rfl hset
  | succ n ih =>
    rw [hostAfter]
    split
    · rename_i hended
      intro hrun
      rw [hrun] at hended
      cases hended
    · exact ih.hostStep

/-- What the branch for want of devices has checked. -/
theorem hostStep_noDevices {poll : HostPoll} {s : HostState} (hrun : s.bShouldShutdown = none)
    (h : (hostStep bAutoShutdown poll s).bShouldShutdown = some .noDevices) :
    poll.waitResult = waitTimeout ∧ usbHasDevices poll.gDeviceList = false ∧ s.dwNoDevicesTimestamp ≠ 0 ∧
      noDevicesShutdownTimeout ≤ poll.tickCount - s.dwNoDevicesTimestamp := by
  unfold hostStep at h
  split at h
  · cases h
  · split at h
    · rw [hrun] at h
      cases h
    · split at h
      · rename_i hpoll
        split at h
        · rw [hrun] at h
          cases h
        · rename_i hauto
          obtain ⟨-, hnone⟩ := Bool.or_eq_false_iff.mp (Bool.not_eq_true _ ▸ hauto)
          split at h
          · rw [hrun] at h
            cases h
          · rename_i hset
            split at h
            · rename_i hlong
              exact ⟨hpoll, hnone, hset, hlong⟩
            · rw [hrun] at h
              cases h
      · cases h

/-- **The host shuts itself down after an idle period only.** When turn `n` ends the loop
through the branch for want of devices, automatic shutdown is on, and at least
`NO_DEVICES_SHUTDOWN_TIMEOUT` ticks before, an earlier turn `m` polled; from there up to
turn `n` there was no keep-alive and every poll found no device. -/
theorem host_shutdown_idle (bAutoShutdown : Bool) (polls : ℕ → HostPoll) (n : ℕ)
    (hrun : (hostAfter bAutoShutdown polls n).bShouldShutdown = none)
    (hend : (hostAfter bAutoShutdown polls (n + 1)).bShouldShutdown = some .noDevices) :
    bAutoShutdown = true ∧ ∃ m < n, IdleSince polls m (n + 1) ∧
      noDevicesShutdownTimeout ≤ (polls n).tickCount - (polls m).tickCount := by
  rw [hostAfter, hrun] at hend
  obtain ⟨hpoll, hnone, hset, hlong⟩ := hostStep_noDevices hrun hend
  obtain ⟨hauto, m, hidle, htime⟩ := hostAfter_idle bAutoShutdown polls n hrun hset
  refine ⟨hauto, m, hidle.lt, hidle.extend hpoll hnone, ?_⟩
  rwa [← htime]

/-- Polls without a device, with the tick count wrapping round after the first. -/
def wrappingPolls (k : ℕ) : HostPoll := ⟨waitTimeout, collectionInit, if k = 0 then 0xfffff000 else 1000⟩

theorem host_shutdown_idle_wrapping : ∃ m < 1, IdleSince wrappingPolls m 2 ∧
    noDevicesShutdownTimeout ≤ (wrappingPolls 1).tickCount - (wrappingPolls m).tickCount :=
  (host_shutdown_idle true wrappingPolls 1 (by decide) (by decide)).2

end Usbmuxd
