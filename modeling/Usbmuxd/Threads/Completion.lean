import Usbmuxd.Foundation.Iteration
import Usbmuxd.Model.Pending

/-!
# The event that a command sets

A call of `usb_set_device_monitoring` whose wait ends before its command has been executed
closes its event all the same, and the command stays in the queue. When the main thread comes
to it, it sets an event that is closed, or the event of another call that has been given the
same handle, and this call is told that its own command has succeeded.

## The model

* `CompletionSound` — the handles in the queue are the open ones of their calls, `SetEvent` has
  only been called with open handles, and a call that has returned was told the truth.
* `Abandons` — a call closes its event while its command is in the queue or executed.

## What is proved

* `Awaited.callerStep`, `Awaited.processStep` — the steps of the parties, each call having its own handle.
* `Awaited.run` — a run in which no call abandons its command is sound.
* `abandons_not_sound` — such a step is the end of it.
* `completion_sound_iff` — the two together.
* `completion_recycled` — a run in which a call is told of the success of another one's command.
-/

namespace Usbmuxd

open Iteration

/-! ### What is promised -/

/-- The handle that a call has not closed yet. -/
def CallPlace.opened : CallPlace → Option EventHandle
  | .created h _ _ | .waiting h | .waited h _ _ => some h
  | _ => none

/-- The same, of a call whose command has been queued. -/
def CallPlace.asked : CallPlace → Option EventHandle
  | .waiting h | .waited h _ _ => some h
  | _ => none

/-- The command that is being executed. -/
def ProcessPlace.commands : ProcessPlace → List QueuedCommand
  | .executing command _ => [command]
  | _ => []

namespace Pending

/-- The events of the commands that are in the queue or being executed. -/
def events (s : Pending) : List CompletionEvent := (s.main.commands ++ s.queue).filterMap (·.completionEvent)

theorem events_appendCommand (s : Pending) (command : UsbCommand) (event : Option CompletionEvent) :
    (s.appendCommand command event).events = s.events ++ event.toList := by
  unfold events appendCommand
  rw [← List.append_assoc, List.filterMap_append]
  cases event with
  | none => rfl
  | some e => rfl

@[simp]
theorem events_goTo (s : Pending) (call : ℕ) (place : CallPlace) : (s.goTo call place).events = s.events := rfl

end Pending

/-- No completion event is used after its owner has closed it, and the owner is told the truth. -/
structure CompletionSound (s : Pending) : Prop where
  /-- The handle of a command is open, and stands for the event of the call that has queued it. -/
  live : ∀ e ∈ s.events, ∃ signalled, s.handles e.handle = some ⟨e.call, signalled⟩
  /-- `SetEvent` has been called with open handles only. -/
  signals : s.misused = false
  /-- A call returns `0` exactly if its command had been executed successfully when its wait ended. -/
  told : ∀ call ret executed, s.calls call = .returned ret executed → (ret = 0 ↔ executed = some 0)

/-- A call closes its event, while a command with that event is in the queue or being executed. -/
inductive Abandons (s : Pending) : PendingStep → Prop where
  | close (call : ℕ) (h : EventHandle) (ok : Bool) (executed : Option Int)
      (hwaited : s.calls call = .waited h ok executed) (hpending : ⟨h, call⟩ ∈ s.events) : Abandons s (.close call)

/-! ### Each call and its event -/

/-- What is known of a call at a place. -/
inductive CallOk (s : Pending) (call : ℕ) : CallPlace → Prop where
  | called (hexecuted : s.executed call = none) : CallOk s call .called
  | created {h : EventHandle} {location : UInt32} {monitor : DeviceMonitorState} (hexecuted : s.executed call = none)
      (hhandle : s.handles h = some ⟨call, false⟩) : CallOk s call (.created h location monitor)
  | waiting {h : EventHandle} {signalled : Bool} (hhandle : s.handles h = some ⟨call, signalled⟩)
      (hsignalled : signalled = true ↔ s.executed call = some 0) : CallOk s call (.waiting h)
  | waited {h : EventHandle} {ok signalled : Bool} {executed : Option Int}
      (hhandle : s.handles h = some ⟨call, signalled⟩) (hok : ok = true ↔ executed = some 0) :
      CallOk s call (.waited h ok executed)
  | returned {ret : Int} {executed : Option Int} (hret : ret = 0 ↔ executed = some 0) :
      CallOk s call (.returned ret executed)

/-- Every call has its own event, and at most one command with it. -/
structure Awaited (s : Pending) : Prop where
  calls : ∀ call, CallOk s call (s.calls call)
  /-- A command with an event is that of a call that waits or has waited, and has not been executed. -/
  events : ∀ e ∈ s.events, (s.calls e.call).asked = some e.handle ∧ s.executed e.call = none
  once : (s.events.map (·.call)).Nodup
  signals : s.misused = false

variable {env : Env} {s s' : Pending} {call : ℕ} {place : CallPlace} {h : EventHandle}

theorem CallPlace.opened_of_asked (h' : place.asked = some h) : place.opened = some h := by
  cases place with
  | waiting | waited => exact h'
  | called | created | returned => cases h'

theorem CallOk.handle (hok : CallOk s call place) (hopened : place.opened = some h) :
    ∃ signalled, s.handles h = some ⟨call, signalled⟩ := by
  cases hok with
  | created _ hhandle | waiting hhandle _ | waited hhandle _ =>
    cases hopened
    exact ⟨_, hhandle⟩
  | called | returned => cases hopened

/-- A call sees only its own event, and what its own command has returned. -/
theorem CallOk.frame (hok : CallOk s call place) (hexecuted : s'.executed call = s.executed call)
    (hhandles : ∀ h, place.opened = some h → s'.handles h = s.handles h) : CallOk s' call place := by
  cases hok with
  | called hnone => exact .called (hexecuted.trans hnone)
  | created hnone hhandle => exact .created (hexecuted.trans hnone) ((hhandles _ rfl).trans hhandle)
  | waiting hhandle hsignalled => exact .waiting ((hhandles _ rfl).trans hhandle) (by rw [hsignalled, hexecuted])
  | waited hhandle hret => exact .waited ((hhandles _ rfl).trans hhandle) hret
  | returned hret => exact .returned hret

theorem Awaited.sound (hs : Awaited s) : CompletionSound s := by
  constructor
  · intro e he
    exact (hs.calls e.call).handle (CallPlace.opened_of_asked (hs.events e he).1)
  · exact hs.signals
  · intro call ret executed hplace
    have hok := hs.calls call
    rw [hplace] at hok
    cases hok with
    | returned hret => exact hret

theorem Awaited.init (daemon : Daemon) : Awaited (.init daemon) where
  calls _ := .called rfl
  events e he := by cases he
  once := .nil
  signals := rfl

/-- Two calls do not have a handle in common. -/
theorem Awaited.handle_ne (hs : Awaited s) {call' : ℕ} {h' : EventHandle} (hne : call' ≠ call)
    (h₁ : (s.calls call).opened = some h) (h₂ : (s.calls call').opened = some h') : h' ≠ h := by
  rintro rfl
  obtain ⟨b, hb⟩ := (hs.calls call).handle h₁
  obtain ⟨b', hb'⟩ := (hs.calls call').handle h₂
  rw [hb] at hb'
  cases hb'
  exact hne rfl

/-- One call goes on, with what it does to its own event. -/
theorem Awaited.goTo (hs : Awaited s) (hcalls : s'.calls = Function.update s.calls call place)
    (hexecuted : s'.executed = s.executed) (hmisused : s'.misused = s.misused)
    (hhandles : ∀ call' h', call' ≠ call → (s.calls call').opened = some h' → s'.handles h' = s.handles h')
    (hok : CallOk s' call place) (hevents : ∀ e ∈ s'.events, e.call ≠ call → e ∈ s.events)
    (hasked : ∀ e ∈ s'.events, e.call = call → place.asked = some e.handle ∧ s.executed call = none)
    (honce : (s'.events.map (·.call)).Nodup) : Awaited s' := by
  constructor
  · intro call'
    rw [hcalls]
    by_cases hcall : call' = call
    · subst hcall
      rwa [Function.update_self]
    · rw [Function.update_of_ne hcall]
      exact (hs.calls call').frame (by rw [hexecuted]) fun h' => hhandles call' h' hcall
  · intro e he
    rw [hcalls, hexecuted]
    by_cases hcall : e.call = call
    · rw [hcall, Function.update_self]
      exact hasked e he hcall
    · rw [Function.update_of_ne hcall]
      exact hs.events e (hevents e he hcall)
  · exact honce
  · rw [hmisused, hs.signals]

/-! ### The calls -/

theorem Awaited.created (hs : Awaited s) {location : UInt32} {monitor : DeviceMonitorState}
    (hplace : s.calls call = .called) (hfree : s.handles h = none) :
    Awaited { s.goTo call (.created h location monitor) with
      handles := Function.update s.handles h (some ⟨call, false⟩) } := by
  have hok := hs.calls call
  rw [hplace] at hok
  have hnone : s.executed call = none := by
    cases hok with
    | called hnone => exact hnone
  refine hs.goTo rfl rfl rfl (fun call' h' hne hopened => ?_) (.created hnone ?_) (fun e he _ => he)
    (fun e he hcall => ?_) hs.once
  · -- a handle that another call has is open, so it is not the new one
    obtain ⟨b, hb⟩ := (hs.calls call').handle hopened
    refine Function.update_of_ne ?_ _ _
    rintro rfl
    rw [hfree] at hb
    cases hb
  · exact Function.update_self ..
  · have hasked := (hs.events e he).1
    rw [hcall, hplace] at hasked
    cases hasked

theorem Awaited.appended (hs : Awaited s) {location : UInt32} {monitor : DeviceMonitorState} {command : UsbCommand}
    (hplace : s.calls call = .created h location monitor) :
    Awaited ((s.goTo call (.waiting h)).appendCommand command (some ⟨h, call⟩)) := by
  have hok := hs.calls call
  rw [hplace] at hok
  obtain ⟨hnone, hhandle⟩ : s.executed call = none ∧ s.handles h = some ⟨call, false⟩ := by
    cases hok with
    | created hnone hhandle => exact ⟨hnone, hhandle⟩
  have hevents : ((s.goTo call (.waiting h)).appendCommand command (some ⟨h, call⟩)).events =
      s.events ++ [⟨h, call⟩] := Pending.events_appendCommand ..
  -- the call has not queued a command before
  have hnew : ∀ e ∈ s.events, e.call ≠ call := by
    intro e he hcall
    have hasked := (hs.events e he).1
    rw [hcall, hplace] at hasked
    cases hasked
  refine hs.goTo rfl rfl rfl (fun _ _ _ _ => rfl) ?_ (fun e he hcall => ?_) (fun e he hcall => ?_) ?_
  · exact .waiting hhandle ⟨nofun, fun hzero => nomatch hnone.symm.trans hzero⟩
  · rw [hevents] at he
    rcases List.mem_append.mp he with he | he
    · exact he
    · rw [List.mem_singleton.mp he] at hcall
      exact absurd rfl hcall
  · rw [hevents] at he
    rcases List.mem_append.mp he with he | he
    · exact absurd hcall (hnew e he)
    · rw [List.mem_singleton.mp he]
      exact ⟨rfl, hnone⟩
  · rw [hevents, List.map_append]
    refine List.nodup_append.mpr ⟨hs.once, List.nodup_singleton _, ?_⟩
    intro a ha b hb
    obtain ⟨e, he, rfl⟩ := List.mem_map.mp ha
    rw [List.map_singleton, List.mem_singleton] at hb
    subst hb
    exact hnew e he

theorem Awaited.woken (hs : Awaited s) {owner : ℕ} (hplace : s.calls call = .waiting h)
    (hhandle : s.handles h = some ⟨owner, true⟩) :
    Awaited { s.goTo call (.waited h true (s.executed call)) with
      handles := Function.update s.handles h (some ⟨owner, false⟩) } := by
  have hok := hs.calls call
  rw [hplace] at hok
  obtain ⟨rfl, hexecuted⟩ : owner = call ∧ s.executed call = some 0 := by
    cases hok with
    | waiting hhandle' hsignalled =>
      rw [hhandle] at hhandle'
      cases hhandle'
      exact ⟨rfl, hsignalled.mp rfl⟩
  refine hs.goTo rfl rfl rfl (fun call' h' hne hopened => ?_) (.waited (Function.update_self ..) ?_) (fun e he _ => he)
    (fun e he hcall => ?_) hs.once
  · exact Function.update_of_ne (hs.handle_ne hne (by rw [hplace]; rfl) hopened) _ _
  · exact iff_of_true rfl hexecuted
  · have hpending := (hs.events e he).2
    rw [hcall, hexecuted] at hpending
    cases hpending

theorem Awaited.timedOut (hs : Awaited s) (hplace : s.calls call = .waiting h)
    (hunsignalled : ∀ owner, s.handles h ≠ some ⟨owner, true⟩) :
    Awaited (s.goTo call (.waited h false (s.executed call))) := by
  have hok := hs.calls call
  rw [hplace] at hok
  obtain ⟨b, hhandle, hexecuted⟩ : ∃ b, s.handles h = some ⟨call, b⟩ ∧ s.executed call ≠ some 0 := by
    cases hok with
    | waiting hhandle hsignalled =>
      refine ⟨_, hhandle, fun hzero => ?_⟩
      rw [hsignalled.mpr hzero] at hhandle
      exact hunsignalled call hhandle
  refine hs.goTo rfl rfl rfl (fun _ _ _ _ => rfl) (.waited hhandle ?_) (fun e he _ => he) (fun e he hcall => ?_) hs.once
  · exact iff_of_false Bool.false_ne_true hexecuted
  · obtain ⟨hasked, hnone⟩ := hs.events e he
    rw [hcall, hplace] at hasked
    rw [hcall] at hnone
    exact ⟨hasked, hnone⟩

theorem Awaited.closed (hs : Awaited s) {ok : Bool} {executed : Option Int}
    (hplace : s.calls call = .waited h ok executed) (hdone : ∀ e ∈ s.events, e.call ≠ call) :
    Awaited { s.goTo call (.returned (if ok then 0 else -1) executed) with
      handles := Function.update s.handles h none } := by
  have hok := hs.calls call
  rw [hplace] at hok
  have htold : ok = true ↔ executed = some 0 := by
    cases hok with
    | waited _ htold => exact htold
  refine hs.goTo rfl rfl rfl (fun call' h' hne hopened => ?_) (.returned ?_) (fun e he _ => he)
    (fun e he hcall => absurd hcall (hdone e he)) hs.once
  · exact Function.update_of_ne (hs.handle_ne hne (by rw [hplace]; rfl) hopened) _ _
  · rw [← htold]
    cases ok with
    | true => exact iff_of_true rfl rfl
    | false => exact iff_of_false (by decide) Bool.false_ne_true

/-- A command without an event concerns no call. -/
theorem Awaited.appendedOther (hs : Awaited s) (command : UsbCommand) : Awaited (s.appendCommand command none) := by
  have hevents : (s.appendCommand command none).events = s.events := by
    rw [Pending.events_appendCommand, Option.toList_none, List.append_nil]
  constructor
  · exact fun call => (hs.calls call).frame rfl fun _ _ => rfl
  · rw [hevents]
    exact hs.events
  · rw [hevents]
    exact hs.once
  · exact hs.signals

/-- A step of a call that does not abandon its command. -/
theorem Awaited.callerStep (hs : Awaited s) {step : PendingStep} (hstep : ¬ Abandons s step) :
    Awaited (s.callerStep step) := by
  cases step with
  | create call location monitor handle =>
    unfold Pending.callerStep
    dsimp only
    split
    · rename_i hplace
      cases handle with
      | none =>
        refine hs.goTo rfl rfl rfl (fun _ _ _ _ => rfl) (.returned (by simp)) (fun e he _ => he)
          (fun e he hcall => ?_) hs.once
        have hasked := (hs.events e he).1
        rw [hcall, hplace] at hasked
        cases hasked
      | some h =>
        dsimp only
        split
        · exact hs
        · rename_i hfree
          exact hs.created hplace (by simpa using hfree)
    · exact hs
  | append call =>
    unfold Pending.callerStep
    dsimp only
    split
    · rename_i hplace _
      exact hs.appended hplace
    · exact hs
  | wake call =>
    unfold Pending.callerStep
    dsimp only
    split
    · rename_i hplace
      split
      · rename_i hhandle
        exact hs.woken hplace hhandle
      · exact hs
    · exact hs
  | timeout call =>
    unfold Pending.callerStep
    dsimp only
    split
    · rename_i hplace
      split
      · exact hs
      · rename_i hunsignalled
        exact hs.timedOut hplace fun owner hsignalled => hunsignalled owner hsignalled
    · exact hs
  | close call =>
    unfold Pending.callerStep
    dsimp only
    split
    · rename_i h ok executed hplace
      refine hs.closed hplace fun e he hcall => hstep (.close call h ok executed hplace ?_)
      have hasked := (hs.events e he).1
      rw [hcall, hplace] at hasked
      cases hasked
      exact hcall ▸ he
    · exact hs
  | appendOther command =>
    unfold Pending.callerStep
    dsimp only
    split
    · exact hs.appendedOther command
    · exact hs
  | process | take | execute | leave | elsewhere => exact hs

/-! ### The main thread -/

/-- A step that keeps the commands and what the calls see. -/
theorem Awaited.same (hs : Awaited s) (hcalls : s'.calls = s.calls) (hexecuted : s'.executed = s.executed)
    (hhandles : s'.handles = s.handles) (hmisused : s'.misused = s.misused) (hevents : s'.events = s.events) :
    Awaited s' := by
  constructor
  · intro call
    rw [hcalls]
    exact (hs.calls call).frame (by rw [hexecuted]) fun _ _ => by rw [hhandles]
  · rw [hevents, hcalls, hexecuted]
    exact hs.events
  · rw [hevents]
    exact hs.once
  · rw [hmisused, hs.signals]

/-- The end of the command that is being executed, which sets the event of its own call. -/
theorem Awaited.finished (hs : Awaited s) {e : CompletionEvent} {rest : List CompletionEvent} (ret : Int)
    (hbefore : s.events = e :: rest) {main : ProcessPlace} {daemon : Daemon}
    (hrest : (main.commands ++ s.queue).filterMap (·.completionEvent) = rest) :
    Awaited (({ s with main, daemon } : Pending).finish e ret) := by
  obtain ⟨hasked, hnone⟩ := hs.events e (hbefore ▸ List.mem_cons_self)
  have hopened := CallPlace.opened_of_asked hasked
  obtain ⟨b, hhandle⟩ := (hs.calls e.call).handle hopened
  have honce := hs.once
  rw [hbefore, List.map_cons, List.nodup_cons] at honce
  obtain ⟨hother, honce⟩ := honce
  -- the handles after the step, with the event of this call signalled if the command has succeeded
  obtain ⟨handles, hfinish, hself, hsame⟩ : ∃ handles, ({ s with main, daemon } : Pending).finish e ret =
      { s with main, daemon, executed := Function.update s.executed e.call (some ret), handles } ∧
      handles e.handle = some ⟨e.call, if ret = 0 then true else b⟩ ∧
      ∀ h, h ≠ e.handle → handles h = s.handles h := by
    unfold Pending.finish
    split
    · refine ⟨Function.update s.handles e.handle (some ⟨e.call, true⟩), ?_, Function.update_self .., ?_⟩
      · simp only [Pending.setEvent, hhandle]
      · exact fun h hne => Function.update_of_ne hne _ _
    · exact ⟨s.handles, rfl, hhandle, fun _ _ => rfl⟩
  rw [hfinish]
  constructor
  · intro call
    by_cases hcall : call = e.call
    · subst hcall
      have hok := hs.calls e.call
      change CallOk _ e.call (s.calls e.call)
      cases hplace : s.calls e.call with
      | waiting h =>
        rw [hplace] at hok hopened
        cases hopened
        cases hok with
        | waiting hhandle' hsignalled =>
          rw [hhandle] at hhandle'
          cases hhandle'
          refine .waiting hself ?_
          rw [hnone] at hsignalled
          simp only [Function.update_self]
          by_cases hret : ret = 0
          · simp [hret]
          · simpa [hret] using hsignalled
      | waited h ok executed =>
        rw [hplace] at hok hopened
        cases hopened
        cases hok with
        | waited _ htold => exact .waited hself htold
      | called | created | returned =>
        rw [hplace] at hasked
        cases hasked
    · refine (hs.calls call).frame (Function.update_of_ne hcall _ _) fun h hopened' => ?_
      exact hsame h (hs.handle_ne hcall hopened hopened')
  · intro e' he'
    have hmem : e' ∈ rest := by
      rw [← hrest]
      exact he'
    have hne : e'.call ≠ e.call := fun heq => hother (heq ▸ List.mem_map_of_mem hmem)
    obtain ⟨hasked', hnone'⟩ := hs.events e' (hbefore ▸ List.mem_cons_of_mem e hmem)
    exact ⟨hasked', (Function.update_of_ne hne _ _).trans hnone'⟩
  · change (((main.commands ++ s.queue).filterMap (·.completionEvent)).map (·.call)).Nodup
    rwa [hrest]
  · exact hs.signals

/-- A step of the main thread. -/
theorem Awaited.processStep (hs : Awaited s) (step : PendingStep) : Awaited (s.processStep env step) := by
  cases step with
  | process =>
    unfold Pending.processStep
    dsimp only
    split
    · rename_i hmain
      refine hs.same rfl rfl rfl rfl ?_
      simp only [Pending.events, hmain, ProcessPlace.commands]
    · exact hs
  | take =>
    unfold Pending.processStep
    dsimp only
    split
    · rename_i hmain hqueue
      refine hs.same rfl rfl rfl rfl ?_
      simp only [Pending.events, hmain, hqueue, ProcessPlace.commands, List.nil_append, List.singleton_append]
    · exact hs
  | execute o =>
    unfold Pending.processStep
    dsimp only
    split
    · rename_i command left hmain
      cases hevent : command.completionEvent with
      | none =>
        refine hs.same rfl rfl rfl rfl ?_
        simp [Pending.events, hmain, ProcessPlace.commands, hevent]
      | some e =>
        refine hs.finished _ ?_ rfl
        simp [Pending.events, hmain, ProcessPlace.commands, hevent]
    · exact hs
  | leave =>
    unfold Pending.processStep
    dsimp only
    split
    · rename_i hmain
      refine hs.same rfl rfl rfl rfl ?_
      simp only [Pending.events, hmain, ProcessPlace.commands]
    · exact hs
  | elsewhere daemon =>
    unfold Pending.processStep
    dsimp only
    split
    · exact hs.same rfl rfl rfl rfl rfl
    · exact hs
  | create | append | wake | timeout | close | appendOther => exact hs

/-! ### Runs -/

theorem Awaited.run (env : Env) (daemon : Daemon) {steps : List PendingStep}
    (h : ∀ before step after, steps = before ++ step :: after →
      ¬ Abandons (pendingRun env before (.init daemon)) step) :
    Awaited (pendingRun env steps (.init daemon)) :=
  foldl_keeps (C := fun s step => ¬ Abandons s step) (fun _ step hstep hs => (hs.callerStep hstep).processStep step) h
    (.init daemon)

/-- When a call abandons its command, the command has a handle that is closed. -/
theorem abandons_not_sound {step : PendingStep} (h : Abandons s step) : ¬ CompletionSound (pendingStep env s step) := by
  obtain ⟨call, h, ok, executed, hwaited, hpending⟩ := h
  intro hsound
  have hstep : pendingStep env s (.close call) = { s.goTo call (.returned (if ok then 0 else -1) executed) with
      handles := Function.update s.handles h none } := by
    unfold pendingStep Pending.callerStep
    simp only [hwaited]
    rfl
  rw [hstep] at hsound
  obtain ⟨b, hb⟩ := hsound.live _ hpending
  simp only [Function.update_self] at hb
  cases hb

/-- **A run is sound exactly as long as no call abandons its command**: as long as no call closes its event while its
command is still in the queue or being executed. -/
theorem completion_sound_iff (env : Env) (daemon : Daemon) (steps : List PendingStep) :
    (∀ before after, steps = before ++ after → CompletionSound (pendingRun env before (.init daemon))) ↔
      ∀ before step after, steps = before ++ step :: after →
        ¬ Abandons (pendingRun env before (.init daemon)) step := by
  constructor
  · intro hsound before step after hsteps habandons
    have hnext := hsound (before ++ [step]) after (by rw [hsteps, List.append_assoc]; rfl)
    unfold pendingRun at hnext
    rw [List.foldl_append] at hnext
    exact abandons_not_sound habandons hnext
  · intro h before after hsteps
    refine (Awaited.run env daemon fun before' step after' hbefore => ?_).sound
    exact h before' step (after' ++ after) (by rw [hsteps, hbefore, List.append_assoc, List.cons_append])

/-- The wait of call `0` times out while the main thread is busy. Call `1` is given the same handle, and wakes up when
the command of call `0` is executed. -/
def recycledSteps : List PendingStep :=
  let o : Outcome := ⟨false, id, true, [], false, false, false, true⟩
  [.create 0 1 .always (some 5), .append 0, .timeout 0, .close 0, .create 1 2 .always (some 5), .append 1, .process,
    .take, .execute o, .wake 1, .close 1]

/-- Call `1` has returned `0`, and its command is in the queue. -/
theorem completion_recycled : ¬ ∀ (env : Env) (daemon : Daemon) (steps : List PendingStep),
    CompletionSound (pendingRun env steps (.init daemon)) := by
  intro h
  have htold := (h .quiet .init recycledSteps).told 1 0 none (by decide +kernel)
  exact nomatch htold.mp rfl

end Usbmuxd
