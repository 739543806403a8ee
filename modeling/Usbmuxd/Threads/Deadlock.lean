import Usbmuxd.Threads.LockPrograms

/-!
# Threads that wait for each other

The main thread takes the locks in every order: `client_process` takes `device_list_mutex` inside of
`client_list_mutex`, and the handlers of a device's packets take them the other way round. A preflight thread holds
one lock at a time, but for a pairing event, which takes `client_list_mutex` inside of `device_list_mutex`. So two
threads can wait for each other, and only the main thread and a thread in a pairing event can.

## The model

* `Announcing` — a thread is between the two locks of a pairing event.
* `WillAsk` — a thread asks for one lock before it has released another.
* `Overlap` — `client_process` is about to take `device_list_mutex` while another thread is announcing.

## What is proved

* `quick_obeys` — which locks a thread besides the main thread asks for, read off the code.
* `Deadlock.overlap` — threads that wait for each other overlap.
* `no_deadlock` — in every run without an overlap no two threads wait for each other.
-/

namespace Usbmuxd

open Mutex

/-! ### The other threads -/

/-- The functions that are called by the threads other than the main thread. -/
def Proc.quick : Proc → Bool
  | .preflightWorkerHandleDeviceAdd | .clientDeviceAdd | .deviceSetVisible | .clientDevicePairingEvent _
  | .clientDeviceTrustPending | .clientDevicePasswordProtected | .clientDeviceUserDeniedPairing
  | .deviceSetPreflightCbData | .devicePreflightFinished | .usbSetDeviceMonitoring | .usbAppendDeviceCommand
  | .usbPortChangeCallback => true
  | _ => false

/-- Where the other threads ask for a lock: where they hold nothing, or inside a pairing event. -/
def QuickRule (h : List Mutex) (l : Mutex) : Prop := h = [] ∨ h = [deviceList] ∧ l = clientList

/-- The functions are called by the other threads where nothing is held. -/
def QuickCall (h : List Mutex) (f : Proc) : Prop := h = [] ∧ f.quick = true

theorem quick_obeys {h : List Mutex} {f : Proc} (hf : QuickCall h f) : f.body.Obeys QuickRule QuickCall h := by
  obtain ⟨rfl, hf⟩ := hf
  cases f with
  | clientDevicePairingEvent validate =>
    cases validate <;> exact ⟨.inl rfl, by simp [Code.maybe, Code.take, Code.Obeys, QuickRule]⟩
  | _ =>
    first
      | exact absurd hf Bool.false_ne_true
      | simp [Proc.body, preflightWorker, Code.inTurn, Code.anyOf, Code.maybe, Code.take, Code.Obeys, QuickRule,
          QuickCall, Proc.quick]

section Waiting

variable {κ : Type} {path : Thread κ → List (LockStep Mutex)} {s : Thread κ → ℕ} {t u : Thread κ}

/-- Where a thread other than the main thread asks for a lock. -/
theorem quick_next (hpath : t.code.Path Proc.body (path t)) (ht : t ≠ .main) {l : Mutex}
    (hnext : nextStep path s t = some (.lock l)) : QuickRule (heldBy path s t) l := by
  have hcode : t.code.Obeys QuickRule QuickCall [] := by
    cases t with
    | main => exact absurd rfl ht
    | preflight k => exact ⟨rfl, rfl⟩
    | callback k => exact ⟨rfl, rfl⟩
  exact (hpath.nested (fun _ _ => quick_obeys) hcode).next hnext

/-! ### Overlaps -/

/-- A thread holds `device_list_mutex` and asks for `client_list_mutex`. -/
def Announcing (path : Thread κ → List (LockStep Mutex)) (s : Thread κ → ℕ) (u : Thread κ) : Prop :=
  deviceList ∈ heldBy path s u ∧ nextStep path s u = some (.lock clientList)

/-- A thread that holds `h` and has the steps `w` left holds `l` until it asks for `m`, which it does not hold. -/
def WillAsk (l m : Mutex) : List Mutex → List (LockStep Mutex) → Prop
  | _, [] => False
  | h, a :: w => l ∈ h ∧ (a = .lock m ∧ m ∉ h ∨ WillAsk l m (a.after h) w)

/-- The main thread is in `client_process`, with `device_list_mutex` still to take, while another thread is announcing. -/
def Overlap (path : Thread κ → List (LockStep Mutex)) (s : Thread κ → ℕ) : Prop :=
  WillAsk clientList deviceList (heldBy path s .main) ((path .main).drop (s .main)) ∧
    ∃ u, u ≠ .main ∧ Announcing path s u

/-- The step leads to no overlap. -/
def Apart [DecidableEq κ] (path : Thread κ → List (LockStep Mutex)) (t : Thread κ) (s : Thread κ → ℕ) : Prop :=
  ¬ Overlap path (Function.update s t (s t + 1))

/-- Nobody announces anything at the start. -/
theorem not_overlap_start : ¬ Overlap path fun _ => 0 := by
  rintro ⟨-, u, -, hheld, -⟩
  simp [heldBy, held] at hheld

/-- A thread besides the main thread that waits for a thread which waits for it is announcing. -/
theorem announcing_of_waits (hpath : u.code.Path Proc.body (path u)) (hu : u ≠ .main) {l m : Mutex}
    (hnext : nextStep path s u = some (.lock m)) (hheld : l ∈ heldBy path s u) :
    l = deviceList ∧ m = clientList ∧ Announcing path s u := by
  rcases quick_next hpath hu hnext with hnone | ⟨hone, rfl⟩
  · rw [hnone] at hheld
    cases hheld
  · have hdev : deviceList ∈ heldBy path s u := by simp [hone]
    rw [hone, List.mem_singleton] at hheld
    exact ⟨hheld, rfl, hdev, hnext⟩

theorem overlap_of_waits (hpath : ∀ t : Thread κ, t.code.Path Proc.body (path t)) (hexcl : Exclusive path s) (hu : u ≠ .main)
    (hmain : WaitsFor path s .main u) (hother : WaitsFor path s u .main) : Overlap path s := by
  obtain ⟨l, hnext, hheld⟩ := hmain
  obtain ⟨m, hnext', hheld'⟩ := hother
  obtain ⟨rfl, rfl, hannounce⟩ := announcing_of_waits (hpath u) hu hnext' hheld
  refine ⟨?_, u, hu, hannounce⟩
  obtain ⟨hlt, hget⟩ := List.getElem?_eq_some_iff.mp hnext
  rw [List.drop_eq_getElem_cons hlt, hget]
  exact ⟨hheld', .inl ⟨rfl, hexcl u .main deviceList hu hheld⟩⟩

/-- Threads that wait for each other are the main thread and one that is announcing. -/
theorem Deadlock.overlap (h : Deadlock path s) (hpath : ∀ t : Thread κ, t.code.Path Proc.body (path t))
    (hexcl : Exclusive path s) : Overlap path s := by
  obtain ⟨t, u, hne, htu, hut⟩ := h
  by_cases ht : t = .main
  · subst ht
    exact overlap_of_waits hpath hexcl hne.symm htu hut
  · by_cases hu : u = .main
    · subst hu
      exact overlap_of_waits hpath hexcl ht hut htu
    · -- both would hold device_list_mutex
      obtain ⟨l, hnext, hheld⟩ := htu
      obtain ⟨m, hnext', hheld'⟩ := hut
      have hbusy := (announcing_of_waits (hpath t) ht hnext hheld').2.2
      have hbusy' := (announcing_of_waits (hpath u) hu hnext' hheld).2.2
      exact absurd hbusy'.1 (hexcl t u deviceList hne hbusy.1)

end Waiting

/-- Whatever the threads do and however they are interleaved, no two of them wait for each other, as long as no step
leads to a state in which `client_process` is about to take `device_list_mutex` while another thread is
between the two locks of a pairing event. -/
theorem no_deadlock {κ : Type} [DecidableEq κ] (path : Thread κ → List (LockStep Mutex))
    (hpath : ∀ t : Thread κ, t.code.Path Proc.body (path t)) (s : Thread κ → ℕ) (h : Runs path (Apart path) s) :
    ¬ Deadlock path s := by
  have hapart : ¬ Overlap path s := by
    refine h.induct (P := fun v => ¬ Overlap path v) not_overlap_start fun t v v' _ hm hok => ?_
    obtain ⟨a, -, -⟩ := hm
    exact hok
  exact fun hdead => hapart (hdead.overlap hpath h.exclusive)

/-- The steps of the main thread in one iteration of its loop, in which a connected client is served. -/
def servingPath : List (LockStep Mutex) :=
  [.lock deviceList, .unlock deviceList, .lock clientList, .unlock clientList, .lock deviceList, .unlock deviceList,
    .lock deviceList, .unlock deviceList, .lock pendingDevices, .unlock pendingDevices,
    .lock clientList, .lock deviceList, .unlock deviceList, .unlock clientList]

/-- The steps of a preflight thread that waits for the user to trust the computer, until the device is gone. -/
def trustPath : List (LockStep Mutex) :=
  [.lock deviceList, .lock clientList, .unlock clientList, .unlock deviceList, .lock deviceList, .unlock deviceList,
    .lock deviceList, .unlock deviceList, .lock deviceList, .unlock deviceList]

/-- One preflight thread beside the main thread. -/
def trustPaths : Thread Unit → List (LockStep Mutex)
  | .main => servingPath
  | .preflight _ => trustPath
  | .callback _ => []

/-- They are paths of the code. -/
theorem trustPaths_path (t : Thread Unit) : t.code.Path Proc.body (trustPaths t) := by
  have htake : ∀ {f : Proc} (l : Mutex), f.body = Code.take l → (Code.call f).Path Proc.body [.lock l, .unlock l] :=
    fun l hf => .call (hf ▸ Code.Path.within .skip)
  cases t with
  | main =>
    have hserve : (Code.call .clientProcess).Path Proc.body _ :=
      .call (.within (.again (.left (.call (.seq (htake deviceList rfl) (.left .skip)))) .stop))
    have hpass : (Code.call .mainThreadProc).Path Proc.body _ :=
      .call (.again (.seq (htake deviceList rfl) (.seq (htake clientList rfl) (.seq (htake deviceList rfl)
        (.right (.right (.seq (.left .skip) (.seq (.left .skip)
          (.seq (.call (.within .stop)) (.seq (.call (.within .stop)) hserve))))))))) .stop)
    exact hpass
  | preflight k =>
    have htrust : (Code.call .clientDeviceTrustPending).Path Proc.body _ :=
      .call (.call (.within (.right (.within .skip))))
    have hwait : (Code.call .preflightWorkerHandleDeviceAdd).Path Proc.body _ :=
      .call (.seq (.right (.right (.left (.seq (.left .skip)
        (.right (.right (.right (.right (.right (.right (.seq htrust (.seq (htake deviceList rfl) (.seq (.left .skip)
          (.seq (htake deviceList rfl) (.left .skip))))))))))))))) (htake deviceList rfl))
    exact hwait
  | callback k => exact .stop

/-- The main thread gets as far as serving its client, while the others have not started. -/
theorem runs_serving {ok : Thread Unit → (Thread Unit → ℕ) → Prop}
    (hok : ∀ k < 11, ok .main (Function.update (fun _ => 0) .main k)) :
    Runs trustPaths ok (Function.update (fun _ => 0) .main 11) := by
  have hstart : Runs trustPaths ok fun _ => 0 := .refl
  have hrun := hstart.alone (t := .main) (fun u _ => rfl) 11 (by decide) (by simpa using hok)
  simpa using hrun

/-- The main thread holds `client_list_mutex` in `client_process`, and no other thread has started. -/
theorem no_deadlock_serving : ¬ Deadlock trustPaths (Function.update (fun _ => 0) .main 11) := by
  refine no_deadlock trustPaths trustPaths_path _ (runs_serving fun k _ => ?_)
  rintro ⟨-, u, hu, hheld, -⟩
  rw [Function.update_self, heldBy_other hu, heldBy_other hu] at hheld
  simp [heldBy, held] at hheld

/-- When the preflight thread now takes `device_list_mutex` for its pairing event, each of the two waits
for the lock of the other. -/
theorem trust_deadlock :
    ∃ s, Runs trustPaths (fun _ _ => True) s ∧ (∀ t : Thread Unit, t.code.Path Proc.body (trustPaths t)) ∧
      Deadlock trustPaths s := by
  have hserving : Runs trustPaths (fun _ _ => True) _ := runs_serving fun _ _ => trivial
  have hmove : Move trustPaths _ (.preflight ()) _ := .step (s := Function.update (fun _ => 0) .main 11) (.lock deviceList) rfl ?_
  · refine ⟨_, hserving.tail ⟨_, hmove, trivial⟩, trustPaths_path, .main, .preflight (), by decide, ?_, ?_⟩
    · exact ⟨deviceList, rfl, by decide⟩
    · exact ⟨clientList, rfl, by decide⟩
  · rintro l ⟨⟩ u hu
    cases u with
    | main => decide
    | preflight k => exact absurd rfl hu
    | callback k => exact List.not_mem_nil

end Usbmuxd
