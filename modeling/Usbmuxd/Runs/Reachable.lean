import Usbmuxd.Registry.Refinement

/-!
# Reachable states

A transfer is drained by several calls of `device_data_input`, and an iteration of the main loop
is made of several phases. Here are the states between all of these.

## The model

* `Fed` — the states that operations, single calls of `device_data_input` and calls to the outside lead to.
* `mainPassWith size` — an iteration on a platform where `FD_SETSIZE` is `size`.

## What is proved

* `Fed.mainPassWith` — the iterations of the main loop lead to no other states.
* `Fed.steady` — in these states the records on the lists are in order, as after a run.
-/

namespace Usbmuxd

open World Relation

/-! ### The main loop -/

/-- `devicePhase`, for a size of the select sets. -/
def devicePhaseWith (size : ℕ) (env : Env) (r : Readiness) (w : World) : World :=
  let full := size < fdCount w + 1
  let transfers := selectDevices r w
  let w := if r.newClient then clientAccept full w else w
  let w := match r.newDevice with
    | some u => if full then w else deviceAcceptSocket u w
    | none => w
  usbProcess env (deviceProcessSockets env transfers w)

/-- `mainPass`, for a size of the select sets. -/
def mainPassWith (size : ℕ) (env : Env) (r : Readiness) (w : World) : World :=
  if r.timedOut then deviceCheckTimeouts env (usbProcess env w)
  else clientProcess env (selectClients r w) (devicePhaseWith size env r w)

theorem mainPass_eq : mainPass = mainPassWith fdSetSize := rfl

/-! ### Between two calls -/

/-- The states that operations, single calls of `device_data_input` and calls to the outside lead to. -/
inductive Fed (env : Env) : World → Prop where
  | init : Fed env .init
  | exec {w : World} (op : Op) (h : Fed env w) : Fed env (exec env w op)
  | input {w : World} (u : UsbDevice) (buffer : Mem) (length : UInt32) (h : Fed env w) :
      Fed env (deviceDataInput env u buffer length w).1
  | tock {w : World} (h : Fed env w) : Fed env w.tock

section Pass

variable {env : Env} {w w' : World}

/-- A loop over a list, with an operation for each entry. -/
theorem Fed.forEach {tab : World → SlotTable Ptr} {body : Ptr → World → World}
    (hbody : ∀ x v, x ∈ tab v → Fed env v → Fed env (body x v)) (n i : ℕ) (h : Fed env w) :
    Fed env (SlotTable.forEach tab body n i w) :=
  SlotTable.forEach_induct (P := Fed env) hbody n i w h

theorem Fed.usbProcess (h : Fed env w) : Fed env (usbProcess env w) := by
  unfold Usbmuxd.usbProcess
  generalize env.usbProcess w.tick = actions
  have hticked := h.tock
  generalize w.tock = v at hticked
  induction actions generalizing v with
  | nil => exact hticked
  | cons a rest ih => exact ih _ (hticked.exec (.usb a))

/-- The phases in front of `client_process`. -/
theorem Fed.devicePhaseWith (h : Fed env w) (size : ℕ) (r : Readiness) : Fed env (devicePhaseWith size env r w) := by
  unfold Usbmuxd.devicePhaseWith
  dsimp only
  have haccepted : Fed env (if r.newClient then clientAccept (size < fdCount w + 1) w else w) := by
    split
    · unfold clientAccept
      split
      · exact h
      · exact h.exec .clientAccept
    · exact h
  refine Fed.usbProcess (Fed.forEach (fun d v hd hv => ?_) _ _ ?_)
  · split
    · split
      · rename_i t _
        have hdrained := hv.exec (.transfer d t)
        rwa [Usbmuxd.exec, if_pos hd] at hdrained
      · exact hv
    · exact hv
  · split
    · split
      · exact haccepted
      · exact haccepted.exec (.acceptSocket _)
    · exact haccepted

/-- An iteration of the main loop is such a sequence. -/
theorem Fed.mainPassWith (h : Fed env w) (size : ℕ) (r : Readiness) : Fed env (mainPassWith size env r w) := by
  unfold Usbmuxd.mainPassWith
  split
  · exact h.usbProcess.exec .checkTimeouts
  · refine Fed.forEach (fun c v hc hv => ?_) _ _ (h.devicePhaseWith size r)
    have hready := hv.exec (.clientReady c (selectClients r w c))
    rwa [Usbmuxd.exec, if_pos hc] at hready

theorem Steady.same (h : Steady env w) (hreg : w'.registry = w.registry) (ht : Turns env w w') : Steady env w' :=
  h.after (steps_same hreg).phases ht

/-- The reachable states are in order, and lie on sequences of turns. -/
theorem Fed.steady (h : Fed env w) : Steady env w ∧ Turns env .init w := by
  induction h with
  | init => exact ⟨steady_init env, .refl⟩
  | exec op _ ih => exact ⟨steady_exec ih.1 op, ih.2.trans (turns_exec op ih.1.tracked.liveLookups)⟩
  | @input w u buffer length _ ih =>
    have hturns := (work_deviceDataInput env w u buffer length).turns
    exact ⟨ih.1.after (steps_deviceDataInput ih.1.tracked u buffer length).phases hturns, ih.2.trans hturns⟩
  | @tock w _ ih =>
    have hturns : Turns env w w.tock := (ConnBlock.tock w).one.turns
    exact ⟨ih.1.same rfl hturns, ih.2.trans hturns⟩

end Pass

end Usbmuxd

