import Mathlib.Data.List.Perm.Subperm
import Usbmuxd.Runs.Kept
import Usbmuxd.Runs.Reachable

/-!
# Room in the select sets

`CreateFdSets` counts the sockets it has put into the sets, and `MainThreadProc` refuses a new
one if there is no room for it. There are two places where a socket may be accepted, and both
look at the number that was counted before either of them.

## The model

* `LoopStep`, `loopRun` — iterations of the main loop, and between them what the other threads do,
  and whatever else does not accept a socket.
* `AcceptsBoth` — an iteration finds a client to accept, and a socket for a device that has none.

## What is proved

* `kept_fdCount` — nothing but the two accepts adds a socket.
* `fdCount_pass` — an iteration keeps to the size, unless it accepts both when there is room for one.
* `fdCount_run` — so does every run without such an iteration.
* `overcrowded` — one such iteration is enough.
-/

namespace Usbmuxd

open World

/-! ### The main loop -/

/-- An iteration, or an operation between two iterations. -/
inductive LoopStep where
  | pass (r : Readiness)
  | other (op : Op)

/-- An operation that accepts a socket. -/
def Op.accepts : Op → Bool
  | .clientAccept | .acceptSocket _ => true
  | _ => false

/-- Do one step; only the iterations accept sockets. -/
def LoopStep.exec (size : ℕ) (env : Env) (w : World) : LoopStep → World
  | .pass r => mainPassWith size env r w
  | .other op => if op.accepts then w else Usbmuxd.exec env w op

/-- A run of the main loop. -/
def loopRun (size : ℕ) (env : Env) (steps : List LoopStep) : World := steps.foldl (LoopStep.exec size env) .init

theorem loopRun_append (size : ℕ) (env : Env) (steps steps' : List LoopStep) :
    loopRun size env (steps ++ steps') = steps'.foldl (LoopStep.exec size env) (loopRun size env steps) :=
  List.foldl_append

/-- A client and a socket for a device that has none are there to be accepted. -/
def AcceptsBoth (r : Readiness) (w : World) : Prop :=
  r.newClient = true ∧ ∃ u d, r.newDevice = some u ∧ findByUsbdev w u = some d ∧ (w.devs d).rxDataEventsSocket = false

/-! ### Counting -/

section Counting

variable {env : Env} {w w' : World} {size : ℕ}

/-- The number of devices with a socket. -/
def socketCount (w : World) : ℕ := (w.deviceList.elements.filter fun d => (w.devs d).rxDataEventsSocket).length

theorem fdCount_eq (w : World) : fdCount w = 2 + w.clientList.count + socketCount w := rfl

/-- With the same devices on the list, and no more sockets. -/
theorem socketCount_le (hlist : w'.deviceList = w.deviceList)
    (h : ∀ d, (w'.devs d).rxDataEventsSocket = true → (w.devs d).rxDataEventsSocket = true) :
    socketCount w' ≤ socketCount w := by
  unfold socketCount
  rw [hlist]
  exact (List.monotone_filter_right _ h).length_le

/-- A change of a device that is not its socket. -/
theorem socketCount_setDev {d : Ptr} {f : MuxDevice → MuxDevice}
    (hf : (f (w.devs d)).rxDataEventsSocket = (w.devs d).rxDataEventsSocket) :
    socketCount (w.setDev d f) ≤ socketCount w := by
  refine socketCount_le rfl fun d' h => ?_
  by_cases hd : d' = d
  · subst hd
    rw [setDev_devs, Function.update_self, hf] at h
    exact h
  · rwa [setDev_devs, Function.update_of_ne hd] at h

theorem SlotTable.count_remove_le {α : Type*} [DecidableEq α] (t : SlotTable α) (x : α) :
    (t.remove x).count ≤ t.count := by
  rw [count, count, elements_remove]
  exact List.erase_sublist.length_le

theorem SlotTable.count_add {α : Type*} [DecidableEq α] (k : ℕ) (t : SlotTable α) (x : α) :
    (t.add k x).count = t.count + 1 := (perm_elements_add k t x).length_eq

/-- Nothing but the two accepts adds a socket. -/
theorem kept_fdCount (env : Env) (n : ℕ) : Kept env True True fun w => fdCount w ≤ n where
  conn := by
    intro w w' hf h
    have hle : socketCount w' ≤ socketCount w := socketCount_le hf.deviceList fun d hd =>
      (congrArg DeviceCore.rxDataEventsSocket (hf.core d)).symm.trans hd
    simp only [fdCount_eq] at h ⊢
    rw [hf.clientList]
    exact (Nat.add_le_add_left hle _).trans h
  emit _ h := h
  recvCall _ _ _ h := h
  setClient _ _ _ h := h
  releaseClient := by
    intro w c h
    have := w.clientList.count_remove_le c
    simp only [fdCount_eq] at h ⊢
    change 2 + (w.clientList.remove c).count + socketCount w ≤ n
    omega
  setDev := by
    intro w d f hf h
    have hle := socketCount_setDev (congrArg Inlet.rxDataEventsSocket hf)
    simp only [fdCount_eq] at h ⊢
    exact (Nat.add_le_add_left hle _).trans h
  framing := by
    intro w d buffer length h
    have hle : socketCount (w.setDev d (·.setFraming (decode (w.devs d).framing buffer length).framing)) ≤
        socketCount w := socketCount_setDev rfl
    simp only [fdCount_eq] at h ⊢
    exact (Nat.add_le_add_left hle _).trans h
  allocDev := by
    intro w u id h
    have hle : socketCount (allocDev u id w) ≤ socketCount w := by
      refine socketCount_le rfl fun d hd => ?_
      by_cases hfresh : d = w.fresh
      · subst hfresh
        rw [allocDev_devs, Function.update_self] at hd
        cases hd
      · rwa [allocDev_devs, Function.update_of_ne hfresh] at hd
    simp only [fdCount_eq] at h ⊢
    exact (Nat.add_le_add_left hle _).trans h
  registerDev := by
    intro w d hsocket h
    have hsame : socketCount (registerDev d w) = socketCount w := by
      have hperm := (SlotTable.perm_elements_add capacityStep w.deviceList d).filter fun d => (w.devs d).rxDataEventsSocket
      unfold socketCount
      refine hperm.length_eq.trans ?_
      rw [List.filter_cons_of_neg (by simp [hsocket])]
    simp only [fdCount_eq, hsame] at h ⊢
    exact h
  releaseDev := by
    intro w d h
    have hle : socketCount (releaseDev d w) ≤ socketCount w := by
      unfold socketCount
      rw [releaseDev_deviceList, SlotTable.elements_remove]
      exact (List.erase_sublist.filter _).length_le
    simp only [fdCount_eq] at h ⊢
    exact (Nat.add_le_add_left hle _).trans h

theorem fdCount_registerClient (w : World) : fdCount (registerClient w) = fdCount w + 1 := by
  rw [fdCount_eq, fdCount_eq]
  change 2 + (w.clientList.add capacityStep w.fresh).count + socketCount w = _
  rw [SlotTable.count_add]
  omega

/-- A device gets a socket, if it has none. -/
theorem fdCount_deviceAcceptSocket (hnodup : w.deviceList.Nodup) (u : UsbDevice) :
    fdCount (deviceAcceptSocket u w) ≤ fdCount w + 1 ∧
      ((∀ d, findByUsbdev w u = some d → (w.devs d).rxDataEventsSocket = true) →
        fdCount (deviceAcceptSocket u w) ≤ fdCount w) := by
  unfold deviceAcceptSocket
  split
  · rename_i d hd
    refine ⟨?_, fun hsocket => ?_⟩
    · have hsub : (w.deviceList.elements.filter fun d' =>
          ((w.setDev d fun dev => { dev with rxDataEventsSocket := true }).devs d').rxDataEventsSocket) ⊆
            d :: w.deviceList.elements.filter fun d' => (w.devs d').rxDataEventsSocket := by
        intro d' hd'
        by_cases heq : d' = d
        · exact heq ▸ List.mem_cons_self
        · obtain ⟨hmem, hsocket⟩ := List.mem_filter.mp hd'
          rw [setDev_devs, Function.update_of_ne heq] at hsocket
          exact List.mem_cons_of_mem _ (List.mem_filter.mpr ⟨hmem, hsocket⟩)
      have hle := (List.subperm_of_subset (List.Nodup.filter _ hnodup) hsub).length_le
      rw [List.length_cons] at hle
      simp only [fdCount_eq, Nat.add_assoc]
      exact Nat.add_le_add_left (Nat.add_le_add_left hle _) _
    · have hle : socketCount (w.setDev d fun dev => { dev with rxDataEventsSocket := true }) ≤ socketCount w :=
        socketCount_setDev (hsocket d hd).symm
      simp only [fdCount_eq]
      exact Nat.add_le_add_left hle _
  · exact ⟨Nat.le_succ _, fun _ => le_rfl⟩

/-- What an iteration accepts, it accepts when there is room for it, unless it accepts both. -/
theorem fdCount_devicePhase (hnodup : w.deviceList.Nodup) (h : fdCount w ≤ size) (r : Readiness)
    (hboth : ¬ (fdCount w + 1 = size ∧ AcceptsBoth r w)) : fdCount (devicePhaseWith size env r w) ≤ size := by
  unfold devicePhaseWith
  dsimp only
  refine (kept_fdCount env size).upheld.usbProcess ((kept_fdCount env size).upheld.deviceProcessSockets trivial ?_ _)
  by_cases hfull : size < fdCount w + 1
  · -- there is room for nothing, and nothing is accepted
    simp only [clientAccept, hfull, decide_true, if_true, ite_self]
    cases r.newDevice <;> exact h
  simp only [clientAccept, hfull, decide_false, if_false, Bool.false_eq_true]
  by_cases hclient : r.newClient = true
  · rw [if_pos hclient]
    have hone := fdCount_registerClient w
    cases hdevice : r.newDevice with
    | none =>
      change fdCount (registerClient w) ≤ size
      omega
    | some u =>
      obtain ⟨hsome, hnone⟩ := fdCount_deviceAcceptSocket (w := registerClient w) hnodup u
      change fdCount (deviceAcceptSocket u (registerClient w)) ≤ size
      by_cases hlast : fdCount w + 1 = size
      · -- the client takes the last place, so the device has its socket already
        refine (hnone fun d hd => ?_).trans (by omega)
        by_contra hsocket
        exact hboth ⟨hlast, hclient, u, d, hdevice, hd, by simpa using hsocket⟩
      · omega
  · rw [if_neg hclient]
    cases hdevice : r.newDevice with
    | none => exact h
    | some u =>
      have hone := (fdCount_deviceAcceptSocket hnodup u).1
      change fdCount (deviceAcceptSocket u w) ≤ size
      omega

/-- An iteration keeps to the size, unless it accepts both when there is room for one. -/
theorem fdCount_pass (hnodup : w.deviceList.Nodup) (h : fdCount w ≤ size) (r : Readiness)
    (hboth : ¬ (fdCount w + 1 = size ∧ AcceptsBoth r w)) : fdCount (mainPassWith size env r w) ≤ size := by
  unfold mainPassWith
  split
  · exact (kept_fdCount env size).carried.deviceCheckTimeouts ((kept_fdCount env size).upheld.usbProcess h)
  · exact (kept_fdCount env size).clientProcess trivial (fdCount_devicePhase hnodup h r hboth) _

/-- What happens between two iterations adds no socket. -/
theorem fdCount_other (h : fdCount w ≤ size) {op : Op} (hop : op.accepts = false) : fdCount (exec env w op) ≤ size := by
  by_cases hordinary : Kept.Ordinary op
  · exact (kept_fdCount env size).exec trivial trivial h hordinary
  · cases op with
    | setVisible id =>
      simp only [exec, deviceSetVisible]
      split
      · exact (Nat.add_le_add_left (socketCount_setDev rfl) _).trans h
      · exact h
    | clientAccept => cases hop
    | acceptSocket u => cases hop
    | _ => exact absurd trivial hordinary

end Counting

/-! ### Runs -/

section Runs

variable {env : Env} {size : ℕ}

theorem fed_loopRun (size : ℕ) (env : Env) (steps : List LoopStep) : Fed env (loopRun size env steps) := by
  induction steps using List.reverseRecOn with
  | nil => exact .init
  | append_singleton steps step ih =>
    rw [loopRun_append]
    cases step with
    | pass r => exact ih.mainPassWith size r
    | other op =>
      change Fed env (if op.accepts then _ else _)
      split
      · exact ih
      · exact ih.exec op

/-- For every run of the main loop on a platform where `FD_SETSIZE` is at least 3: if no iteration that begins with
room for one socket finds both a client and a socket for a device that has none, there is room for all the sockets in
every iteration. -/
theorem fdCount_run (hsize : 3 ≤ size) {steps : List LoopStep}
    (hboth : ∀ before r after, steps = before ++ .pass r :: after →
      ¬ (fdCount (loopRun size env before) + 1 = size ∧ AcceptsBoth r (loopRun size env before))) :
    ∀ before after, steps = before ++ after → fdCount (loopRun size env before) ≤ size := by
  intro before
  induction before using List.reverseRecOn with
  | nil =>
    intro after _
    exact (show fdCount World.init = 2 from rfl) ▸ (by omega : 2 ≤ size)
  | append_singleton before step ih =>
    intro after heq
    rw [List.append_assoc] at heq
    have hbefore := ih _ heq
    rw [loopRun_append]
    cases step with
    | pass r =>
      have hnodup := (fed_loopRun size env before).steady.1.tracked.ok.devices_nodup
      exact fdCount_pass hnodup hbefore r (hboth before r after heq)
    | other op =>
      change fdCount (if op.accepts then _ else _) ≤ size
      split
      · exact hbefore
      · rename_i hop
        exact fdCount_other hbefore (by simpa using hop)

end Runs

/-- A client, and maybe a socket for a device, is there to be accepted, and nothing else happens. -/
def arriving (u : Option UsbDevice) : Readiness := ⟨false, true, u, fun _ => ⟨false, false⟩, fun _ => none⟩

/-- With three places, a device takes the last one. -/
theorem fdCount_run_device : fdCount (loopRun 3 .quiet
    [.other (.usb (.deviceAdd 5)), .pass { arriving (some 5) with newClient := false }]) ≤ 3 := by
  refine fdCount_run le_rfl (fun before r after heq => ?_) _ [] (List.append_nil _).symm
  rintro ⟨-, hclient, -⟩
  have hmem : LoopStep.pass r ∈ [.other (.usb (.deviceAdd 5)), .pass { arriving (some 5) with newClient := false }] := by
    rw [heq]
    simp
  simp only [List.mem_cons, reduceCtorEq, LoopStep.pass.injEq, List.not_mem_nil, or_false, false_or] at hmem
  rw [hmem] at hclient
  cases hclient

/-! ### One socket too many -/

section Crowd

/-- A device without a socket, and `k` clients. -/
structure Crowd (k : ℕ) (w : World) : Prop where
  clients : w.clientList.count = k
  device : w.deviceList.elements = [1]
  usbdev : (w.devs 1).usbdev = 5
  socket : (w.devs 1).rxDataEventsSocket = false

theorem Crowd.count {k : ℕ} {w : World} (h : Crowd k w) : fdCount w = 2 + k := by
  rw [fdCount_eq, socketCount, h.clients, h.device]
  simp [h.socket]

theorem Crowd.found {k : ℕ} {w : World} (h : Crowd k w) : findByUsbdev w 5 = some 1 := by
  unfold findByUsbdev SlotTable.find?
  rw [h.device]
  simp [h.usbdev]

theorem forEach_id {tab : World → SlotTable Ptr} {body : Ptr → World → World} (hbody : ∀ x v, body x v = v) (n i : ℕ)
    (w : World) : SlotTable.forEach tab body n i w = w :=
  SlotTable.forEach_induct (P := (· = w)) (fun x v _ hv => (hbody x v).trans hv) n i w rfl

/-- An iteration in which nothing happens but the accepts. -/
theorem arriving_pass {size : ℕ} {w : World} (hroom : fdCount w + 1 ≤ size) (u : Option UsbDevice) :
    mainPassWith size .quiet (arriving u) w =
      (match u with
        | some u => deviceAcceptSocket u (registerClient w)
        | none => registerClient w).tock := by
  have hdevices : ∀ v, deviceProcessSockets .quiet (selectDevices (arriving u) w) v = v :=
    fun v => forEach_id (fun d v => by simp [selectDevices, arriving]) _ _ v
  have hclients : ∀ v, clientProcess .quiet (selectClients (arriving u) w) v = v :=
    fun v => forEach_id (fun c v => by simp [clientReady, selectClients, arriving]) _ _ v
  have hfull : ¬ size < fdCount w + 1 := by omega
  rw [mainPassWith, hclients, devicePhaseWith, hdevices]
  simp only [arriving, clientAccept, hfull, decide_false, if_false, if_true, Bool.false_eq_true]
  cases u <;> rfl

theorem crowd_run {size k : ℕ} (hsize : k + 2 ≤ size) : Crowd k (loopRun size .quiet
    (.other (.usb (.deviceAdd 5)) :: List.replicate k (.pass (arriving none)))) := by
  induction k with
  | zero => exact ⟨by rfl, by rfl, by rfl, by rfl⟩
  | succ k ih =>
    have hcrowd := ih (by omega)
    rw [List.replicate_succ', ← List.cons_append, loopRun_append]
    change Crowd (k + 1) (mainPassWith size .quiet (arriving none) _)
    rw [arriving_pass (by rw [hcrowd.count]; omega)]
    exact ⟨(SlotTable.count_add ..).trans (by rw [hcrowd.clients]), hcrowd.device, hcrowd.usbdev, hcrowd.socket⟩

/-- With room for one socket, a client and the socket of a device are both accepted. -/
theorem crowd_both {size : ℕ} {w : World} (h : Crowd (size - 3) w) (hsize : 3 ≤ size) :
    fdCount (mainPassWith size .quiet (arriving (some 5)) w) = size + 1 := by
  have hfound : findByUsbdev (registerClient w) 5 = some 1 := h.found
  rw [arriving_pass (by rw [h.count]; omega)]
  unfold deviceAcceptSocket
  simp only [hfound]
  rw [fdCount_eq, socketCount]
  simp only [tock_clientList, setDev_clientList, registerClient_clientList, SlotTable.count_add, h.clients, tock_deviceList,
    setDev_deviceList, registerClient_deviceList, h.device, tock_devs, setDev_devs]
  simp
  omega

theorem crowd_overflow {size k : ℕ} (hk : size = k + 3) : fdCount (loopRun size .quiet
    (.other (.usb (.deviceAdd 5)) :: List.replicate k (.pass (arriving none)) ++ [.pass (arriving (some 5))])) =
      size + 1 := by
  have hcrowd : Crowd k (loopRun size .quiet (.other (.usb (.deviceAdd 5)) :: List.replicate k (.pass (arriving none)))) :=
    crowd_run (by omega)
  obtain rfl : k = size - 3 := by omega
  rw [loopRun_append]
  exact crowd_both hcrowd (by omega)

/-- With `FD_SETSIZE` at 64: a device without a socket and 61 clients leave room for one socket, and then another client
and the socket of the device come at once. -/
theorem overcrowded : fdCount (loopRun fdSetSize .quiet (.other (.usb (.deviceAdd 5)) ::
    List.replicate 61 (.pass (arriving none)) ++ [.pass (arriving (some 5))])) = 65 :=
  crowd_overflow (k := 61) rfl

end Crowd

end Usbmuxd
