import Usbmuxd.Foundation.Interleaved
import Usbmuxd.Foundation.Ledger
import Usbmuxd.Model.Preflight

/-!
# What the preflight thread leaves behind

The worker hands the address of a variable of its own, `cbdata`, to two other threads: to the
one that calls `np_callback`, and, through the device, to the main thread. It makes clients of
lockdownd, an event and a client of the notification proxy on the way, and leaves through one of
some twenty `goto leave`.

## The model

* `Lifetimes s` — who can still reach `cbdata`, and what is open, by the place of the worker.
* `Story s` — what the log says, by the place of the worker.
* `Told s` — the worker can see that its device has been removed.

## What is proved

* `preflight_lifetimes` — in every run of the worker and the callbacks `cbdata` is in scope
  whenever it is touched; each client of lockdownd is freed once; what is left of the
  notification proxy at the end has lost its connection or found no event.
* `preflight_story` — the clients are told of the device at most once, after a session, a
  pairing, a signal or restore mode, and hear nothing more from the worker; the main thread is
  told that the worker has finished once, at last.
* `removal_ends_wait` — a worker that the device knows when it is removed has ended after ten more
  calls of its own.
-/

namespace Usbmuxd

/-! ### The places -/

namespace PreflightPlace

/-- `cbdata` is in scope. -/
def inScope : PreflightPlace → Bool
  | .setCbData | .loop | .wait | .loopPair | .loopClientNew | .afterLoop | .clearCbData | .clearCallback
  | .check | .closeEvent => true
  | _ => false

/-- The device may have the address of `cbdata`. -/
def told : PreflightPlace → Bool
  | .loop | .wait | .loopPair | .loopClientNew | .afterLoop | .clearCbData => true
  | _ => false

/-- `np_callback` may be set. -/
def heard : PreflightPlace → Bool
  | .setCbData | .clearCallback => true
  | p => p.told

/-- There is no client of lockdownd. -/
def noClient : PreflightPlace → Bool
  | .clientNew | .loopClientNew | .clearCbData | .clearCallback | .check | .closeEvent | .ended => true
  | _ => false

/-- The worker may have told the clients of the device. -/
def late : PreflightPlace → Bool
  | .closeEvent | .leave | .ended => true
  | _ => false

theorem heard_of_told {p : PreflightPlace} (h : p.told = true) : p.heard = true := by
  cases p <;> first | rfl | exact h

theorem inScope_of_heard {p : PreflightPlace} (h : p.heard = true) : p.inScope = true := by
  cases p <;> first | rfl | exact h

theorem not_late_of_heard {p : PreflightPlace} (h : p.heard = true) : p.late = false := by
  cases p <;> first | rfl | cases h

end PreflightPlace

/-- What lets the worker tell the clients of the device. -/
def PreflightEvent.Justifies (e : PreflightEvent) : Prop := e = .restoreMode ∨ e = .session ∨ e = .paired ∨ e = .signalled

namespace Preflight

/-! ### Lifetimes -/

/-- Who can reach `cbdata`, and what is open. -/
structure Lifetimes (s : Preflight) : Prop where
  scope : s.cbdata.isSome = s.place.inScope
  event : s.event = s.place.inScope
  told : s.cbDataSet = true → s.place.told = true
  heard : s.callback = true → s.place.heard = true ∧ s.hasNp = true
  ledger : Ledger s.next s.lockdown.toList s.freed
  client : s.fault = none → s.place.noClient = true → s.lockdown = none
  np : s.np = true → s.place = .createEvent ∨ s.place.heard = true ∧ s.hasNp = true ∨ .proxyLost ∈ s.log ∨ .noEvent ∈ s.log
  fault : s.fault = none ∨ s.fault = some .noDot ∧ s.place = .ended

variable {s : Preflight}

theorem lifetimes_init : Lifetimes .init where
  scope := rfl
  event := rfl
  told h := nomatch h
  heard h := nomatch h
  ledger := Ledger.nothing
  client _ _ := rfl
  np h := nomatch h
  fault := .inl rfl

/-- The worker says something. -/
theorem Lifetimes.emit (h : Lifetimes s) (e : PreflightEvent) : Lifetimes (s.emit e) :=
  { h with
    np := fun hnp => by
      rcases h.np hnp with hplace | hopen | hlost | hevent
      · exact .inl hplace
      · exact .inr (.inl hopen)
      · exact .inr (.inr (.inl (List.mem_cons_of_mem e hlost)))
      · exact .inr (.inr (.inr (List.mem_cons_of_mem e hevent))) }

/-- A worker that goes on has met no fault. -/
theorem Lifetimes.no_fault (h : Lifetimes s) (hlive : s.place ≠ .ended) : s.fault = none := by
  rcases h.fault with hnone | ⟨-, hended⟩
  · exact hnone
  · exact absurd hended hlive

/-- The worker goes to a place where as much is in scope. -/
theorem Lifetimes.goTo (h : Lifetimes s) {p : PreflightPlace} (hlive : s.place ≠ .ended)
    (hscope : p.inScope = s.place.inScope) (htold : s.place.told = true → p.told = true)
    (hheard : s.place.heard = true → p.heard = true) (hclient : p.noClient = true → s.lockdown = none)
    (hnp : s.place ≠ .createEvent) : Lifetimes (s.goTo p) where
  scope := h.scope.trans hscope.symm
  event := h.event.trans hscope.symm
  told hset := htold (h.told hset)
  heard hset := ⟨hheard (h.heard hset).1, (h.heard hset).2⟩
  ledger := h.ledger
  client _ := hclient
  np hopen := by
    rcases h.np hopen with hplace | ⟨hplace, hhas⟩ | hlost
    · exact absurd hplace hnp
    · exact .inr (.inl ⟨hheard hplace, hhas⟩)
    · exact .inr (.inr hlost)
  fault := .inl (h.no_fault hlive)

theorem place_freeClient (s : Preflight) : s.freeClient.place = s.place := by
  unfold freeClient
  split <;> rfl

theorem place_signalIsPaired (s : Preflight) : s.signalIsPaired.place = s.place := by
  unfold signalIsPaired
  split <;> rfl

/-- `lockdownd_client_free`. -/
theorem Lifetimes.freeClient (h : Lifetimes s) : Lifetimes s.freeClient ∧ s.freeClient.lockdown = none := by
  unfold Preflight.freeClient
  cases hlockdown : s.lockdown with
  | none => exact ⟨h, hlockdown⟩
  | some c =>
    have hledger := h.ledger
    rw [hlockdown] at hledger
    exact ⟨{ h with ledger := hledger.release, client := fun _ _ => rfl }, rfl⟩

/-- `lockdownd_client_new`, where there is no client. -/
theorem Lifetimes.newClient (h : Lifetimes s) (hlive : s.place ≠ .ended) (hplace : s.place.noClient = true)
    {p : PreflightPlace} (hscope : p.inScope = s.place.inScope) (htold : s.place.told = true → p.told = true)
    (hheard : s.place.heard = true → p.heard = true) (hclient : p.noClient = false) :
    Lifetimes (s.newClient.goTo p) where
  scope := h.scope.trans hscope.symm
  event := h.event.trans hscope.symm
  told hset := htold (h.told hset)
  heard hset := ⟨hheard (h.heard hset).1, (h.heard hset).2⟩
  ledger := by
    have hledger := h.ledger
    rw [h.client (h.no_fault hlive) hplace] at hledger
    exact hledger.allocate
  client _ hp := by
    have hp : p.noClient = true := hp
    rw [hclient] at hp
    cases hp
  np hopen := by
    rcases h.np hopen with hcreate | ⟨hopen, hhas⟩ | hlost
    · rw [hcreate] at hplace
      cases hplace
    · exact .inr (.inl ⟨hheard hopen, hhas⟩)
    · exact .inr (.inr hlost)
  fault := .inl (h.no_fault hlive)

/-- A client of `np_callback`. -/
theorem Lifetimes.ownClient (h : Lifetimes s) : Lifetimes s.ownClient := by
  have hledger : Ledger (s.next + 1) s.lockdown.toList (s.next :: s.freed) := h.ledger.allocate.release
  exact { h with ledger := hledger }

/-- `is_paired_signal` is set. -/
theorem Lifetimes.signalIsPaired (h : Lifetimes s) : Lifetimes s.signalIsPaired := by
  unfold Preflight.signalIsPaired
  split
  · have hnp : ({ s.emit .signalled with cbdata := s.cbdata.map fun c => { c with isPaired := true } } : Preflight).hasNp =
        s.hasNp := by
      unfold hasNp
      cases s.cbdata <;> rfl
    have hemit := h.emit .signalled
    exact { hemit with
      scope := by rw [Option.isSome_map]; exact h.scope
      heard := fun hset => ⟨(h.heard hset).1, hnp.trans (h.heard hset).2⟩
      np := fun hopen => by
        rcases hemit.np hopen with hplace | ⟨hplace, hhas⟩ | hlost
        · exact .inl hplace
        · exact .inr (.inl ⟨hplace, hnp.trans hhas⟩)
        · exact .inr (.inr hlost) }
  · exact h

/-- A place in front of `cbdata` or behind it. -/
theorem Lifetimes.outside (h : Lifetimes s) {p : PreflightPlace} (hlive : s.place ≠ .ended)
    (hout : s.place.inScope = false) (hp : p.inScope = false) (hclient : p.noClient = true → s.lockdown = none)
    (hnp : s.place ≠ .createEvent) : Lifetimes (s.goTo p) := by
  have hheard : s.place.heard ≠ true := fun hheard => by
    rw [PreflightPlace.inScope_of_heard hheard] at hout
    cases hout
  exact h.goTo hlive (hp.trans hout.symm) (fun htold => absurd (PreflightPlace.heard_of_told htold) hheard)
    (fun h => absurd h hheard) hclient hnp

/-- A place in front of `cbdata`, where the worker may have a client. -/
structure Early (s : Preflight) : Prop where
  live : s.place ≠ .ended
  out : s.place.inScope = false
  np : s.place ≠ .createEvent

theorem Lifetimes.early (h : Lifetimes s) (he : Early s) {p : PreflightPlace} (hp : p.inScope = false)
    (hclient : p.noClient = false) : Lifetimes (s.goTo p) :=
  h.outside he.live he.out hp (fun hnone => by rw [hclient] at hnone; cases hnone) he.np

theorem Lifetimes.addAndLeave (h : Lifetimes s) (he : Early s) (why : PreflightEvent) :
    Lifetimes (s.addAndLeave why) := ((h.emit why).emit .added).early ⟨he.live, he.out, he.np⟩ rfl rfl

theorem Lifetimes.afterSession (h : Lifetimes s) (he : Early s) (error : LockdownError) :
    Lifetimes (s.afterSession error) := by
  have hpaired : Lifetimes { s with isDevicePaired := true } := { h with }
  have hversion := hpaired.early (p := .getVersion) ⟨he.live, he.out, he.np⟩ rfl rfl
  cases error with
  | invalidHostId => exact h.early he rfl rfl
  | sslError => exact h.early he rfl rfl
  | _ => exact hversion

theorem Lifetimes.toPair (h : Lifetimes s) (he : Early s) : Lifetimes s.toPair := by
  have hsame : Lifetimes { s with pairErr := .success } := { h with }
  have hnext := fun p hp hclient => hsame.early (p := p) ⟨he.live, he.out, he.np⟩ hp hclient
  unfold Preflight.toPair
  split
  · exact hnext .startService rfl rfl
  · exact hnext .pair rfl rfl

theorem Lifetimes.afterVersion (h : Lifetimes s) (he : Early s) (version : List UInt8) :
    Lifetimes (s.afterVersion version) := by
  unfold Preflight.afterVersion
  split
  · have hgone := h.early (p := .leave) he rfl rfl
    exact { hgone with
      client := fun hnone => nomatch hnone
      np := fun hopen => (hgone.np hopen).imp (fun h => nomatch h) (Or.imp_left fun h => nomatch h.1)
      fault := .inr ⟨rfl, rfl⟩ }
  · next minor _ =>
    have hsame : Lifetimes { s with versionMajor := strtol version, versionMinor := strtol minor } := { h with }
    have hearly : Early { s with versionMajor := strtol version, versionMinor := strtol minor } :=
      ⟨he.live, he.out, he.np⟩
    dsimp only
    split
    · split
      · exact hsame.early hearly rfl rfl
      · exact hsame.toPair hearly
    · exact hsame.early hearly rfl rfl

theorem Lifetimes.afterPair (h : Lifetimes s) (he : Early s) (error : LockdownError) :
    Lifetimes (s.afterPair error) := by
  have hsame : Lifetimes { s with pairErr := error } := { h with }
  have hearly : Early { s with pairErr := error } := ⟨he.live, he.out, he.np⟩
  cases error with
  | success => exact hsame.addAndLeave hearly .paired
  | userDeniedPairing => exact (hsame.emit .denied).early ⟨he.live, he.out, he.np⟩ rfl rfl
  | passwordProtected =>
    unfold Preflight.afterPair
    dsimp only
    split
    · exact hsame.early hearly rfl rfl
    · exact hsame.early hearly rfl rfl
  | _ => exact hsame.early hearly rfl rfl

/-- In the loop and after it, where `cbdata` is in scope. -/
theorem Lifetimes.within (h : Lifetimes s) {p : PreflightPlace} (hs : s.place.told = true) (hp : p.told = true)
    (hclient : p.noClient = true → s.lockdown = none) : Lifetimes (s.goTo p) := by
  have hscope : ∀ {p : PreflightPlace}, p.told = true → p.inScope = true :=
    fun h => PreflightPlace.inScope_of_heard (PreflightPlace.heard_of_told h)
  refine h.goTo ?_ ((hscope hp).trans (hscope hs).symm) (fun _ => hp) (fun _ => PreflightPlace.heard_of_told hp)
    hclient ?_
  · intro hended
    rw [hended] at hs
    cases hs
  · intro hcreate
    rw [hcreate] at hs
    cases hs

theorem Lifetimes.afterLoopPair (h : Lifetimes s) (hs : s.place = .loopPair) (error : LockdownError) :
    Lifetimes (s.afterLoopPair error) := by
  have htold : s.place.told = true := by rw [hs]; rfl
  cases error with
  | success =>
    have hsignal : Lifetimes (s.emit .paired).signalIsPaired := (h.emit .paired).signalIsPaired
    exact hsignal.within (by rw [place_signalIsPaired]; exact htold) rfl (fun h => nomatch h)
  | userDeniedPairing => exact ((h.emit .denied).emit (.monitor false)).within htold rfl (fun h => nomatch h)
  | muxError =>
    obtain ⟨hfree, hnone⟩ := h.freeClient
    have hless : Lifetimes { s.freeClient with attempts := s.attempts - 1 } := { hfree with }
    exact hless.within (p := .loopClientNew) (by dsimp only; rw [place_freeClient]; exact htold) rfl (fun _ => hnone)
  | _ => exact h.within htold rfl (fun h => nomatch h)

/-- The next call of the worker. -/
theorem Lifetimes.worker (h : Lifetimes s) (a : PreflightAnswer) : Lifetimes (s.workerStep a) := by
  obtain ⟨place, lockdown, next, freed, paired, pairErr, major, minor, attempts, cbdata, np, event, callback, listed, told,
    fault, log⟩ := s
  cases place with
  | clientNew =>
    unfold Preflight.workerStep
    dsimp only
    split
    · exact h.newClient nofun rfl rfl (fun h => nomatch h) (fun h => nomatch h) rfl
    · exact h.early ⟨nofun, rfl, nofun⟩ rfl rfl
  | queryType =>
    unfold Preflight.workerStep
    dsimp only
    split
    · exact h.early ⟨nofun, rfl, nofun⟩ rfl rfl
    · split
      · exact h.early ⟨nofun, rfl, nofun⟩ rfl rfl
      · exact h.addAndLeave ⟨nofun, rfl, nofun⟩ .restoreMode
  | validate =>
    have hsame : Lifetimes ⟨.validate, lockdown, next, freed, false, pairErr, major, minor, attempts, cbdata, np, event,
      callback, listed, told, fault, log⟩ := { h with }
    unfold Preflight.workerStep
    dsimp only
    generalize (if a.hasLocalConfig = true then a.error else if a.ok = true then LockdownError.success else .invalidHostId) =
      lerr
    split
    · exact hsame.early ⟨nofun, rfl, nofun⟩ rfl rfl
    · exact hsame.afterSession ⟨nofun, rfl, nofun⟩ lerr
  | startSession =>
    unfold Preflight.workerStep
    dsimp only
    split
    · exact h.addAndLeave ⟨nofun, rfl, nofun⟩ .session
    · exact h.afterSession ⟨nofun, rfl, nofun⟩ a.error
  | removeRecord =>
    unfold Preflight.workerStep
    dsimp only
    split
    · obtain ⟨hfree, hnone⟩ := h.freeClient
      have hplace := place_freeClient (⟨.removeRecord, lockdown, next, freed, paired, pairErr, major, minor, attempts,
        cbdata, np, event, callback, listed, told, fault, log⟩ : Preflight)
      exact hfree.outside (by rw [hplace]; nofun) (by rw [hplace]; rfl) rfl (fun _ => hnone) (by rw [hplace]; nofun)
    · exact h.early ⟨nofun, rfl, nofun⟩ rfl rfl
  | getVersion =>
    unfold Preflight.workerStep
    dsimp only
    split
    · split
      · exact h.early ⟨nofun, rfl, nofun⟩ rfl rfl
      · exact h.afterVersion ⟨nofun, rfl, nofun⟩ _
    · exact h.early ⟨nofun, rfl, nofun⟩ rfl rfl
  | monitorOnce =>
    unfold Preflight.workerStep
    dsimp only
    split
    · exact (h.emit (.monitor true)).toPair ⟨nofun, rfl, nofun⟩
    · exact (h.emit (.monitor true)).early ⟨nofun, rfl, nofun⟩ rfl rfl
  | pair => exact h.afterPair ⟨nofun, rfl, nofun⟩ a.error
  | setupCompleted =>
    unfold Preflight.workerStep
    dsimp only
    split
    · exact h.early ⟨nofun, rfl, nofun⟩ rfl rfl
    · exact (h.emit .passwordProtected).early ⟨nofun, rfl, nofun⟩ rfl rfl
  | startService =>
    unfold Preflight.workerStep
    dsimp only
    split
    · exact h.early ⟨nofun, rfl, nofun⟩ rfl rfl
    · split
      · exact ((h.emit .passwordProtected).emit (.monitor false)).early ⟨nofun, rfl, nofun⟩ rfl rfl
      · exact (h.emit (.monitor false)).early ⟨nofun, rfl, nofun⟩ rfl rfl
  | npNew =>
    exact { h with
      told := fun hset => nomatch h.told hset
      heard := fun hset => nomatch (h.heard hset).1
      client := fun _ hnone => nomatch hnone
      np := fun _ => .inl rfl
      fault := .inl (h.no_fault nofun) }
  | createEvent =>
    have hfault := h.no_fault nofun
    unfold Preflight.workerStep
    dsimp only
    split
    · exact {
        scope := rfl
        event := rfl
        told := fun hset => nomatch h.told hset
        heard := fun hset => ⟨rfl, hset⟩
        ledger := h.ledger
        client := fun _ hnone => nomatch hnone
        np := fun hopen => .inr (.inl ⟨rfl, hopen⟩)
        fault := .inl hfault }
    · exact { h with
        told := fun hset => nomatch h.told hset
        heard := fun hset => nomatch (h.heard hset).1
        client := fun _ hnone => nomatch hnone
        np := fun _ => .inr (.inr (.inr List.mem_cons_self))
        fault := .inl hfault }
  | setCbData =>
    exact { h with
      told := fun _ => rfl
      heard := fun hset => ⟨rfl, (h.heard hset).2⟩
      client := fun _ hnone => nomatch hnone
      np := fun hopen => (h.np hopen).imp (fun h => nomatch h) (Or.imp_left fun h => ⟨rfl, h.2⟩)
      fault := .inl (h.no_fault nofun) }
  | loop =>
    unfold Preflight.workerStep
    dsimp only
    split
    · exact h.within rfl rfl (fun h => nomatch h)
    · exact h.within rfl rfl (fun h => nomatch h)
  | wait =>
    unfold Preflight.workerStep
    dsimp only
    split
    · exact h.within rfl rfl (fun h => nomatch h)
    · exact h.within rfl rfl (fun h => nomatch h)
  | loopPair => exact h.afterLoopPair rfl a.error
  | loopClientNew =>
    unfold Preflight.workerStep
    dsimp only
    split
    · exact h.newClient nofun rfl rfl (fun _ => rfl) (fun _ => rfl) rfl
    · exact h.within rfl rfl (fun h => nomatch h)
  | afterLoop =>
    obtain ⟨hfree, hnone⟩ := h.freeClient
    exact hfree.within (p := .clearCbData) (by rw [place_freeClient]; rfl) rfl (fun _ => hnone)
  | clearCbData =>
    exact { h with
      told := fun hset => nomatch hset
      heard := fun hset => ⟨rfl, (h.heard hset).2⟩
      client := fun hfault _ => h.client hfault rfl
      np := fun hopen => (h.np hopen).imp (fun h => nomatch h) (Or.imp_left fun h => ⟨rfl, h.2⟩)
      fault := .inl (h.no_fault nofun) }
  | clearCallback =>
    have hfault := h.no_fault nofun
    unfold Preflight.workerStep
    dsimp only
    split
    · exact { h with
        told := fun hset => nomatch h.told hset
        heard := fun hset => nomatch hset
        client := fun hfault _ => h.client hfault rfl
        np := fun hopen => nomatch hopen
        fault := .inl hfault }
    · next hgone =>
      exact { h with
        told := fun hset => nomatch h.told hset
        heard := fun hset => absurd (h.heard hset).2 hgone
        client := fun hfault _ => h.client hfault rfl
        np := fun hopen => (h.np hopen).imp (fun h => nomatch h) (Or.imp_left fun h => absurd h.2 hgone)
        fault := .inl hfault }
  | check =>
    unfold Preflight.workerStep
    dsimp only
    split
    · exact ((h.emit .added).emit (.monitor false)).goTo nofun rfl (fun h => nomatch h) (fun h => nomatch h)
        (fun _ => h.client (h.no_fault nofun) rfl) nofun
    · exact h.goTo nofun rfl (fun h => nomatch h) (fun h => nomatch h) (fun _ => h.client (h.no_fault nofun) rfl) nofun
  | closeEvent =>
    exact {
      scope := rfl
      event := rfl
      told := fun hset => nomatch h.told hset
      heard := fun hset => nomatch (h.heard hset).1
      ledger := h.ledger
      client := fun _ hnone => nomatch hnone
      np := fun hopen => (h.np hopen).imp (fun h => nomatch h) (Or.imp_left fun h => nomatch h.1)
      fault := .inl (h.no_fault nofun) }
  | pairOld =>
    unfold Preflight.workerStep
    dsimp only
    split
    · exact (h.emit .paired).early ⟨nofun, rfl, nofun⟩ rfl rfl
    · split
      · exact (h.emit .passwordProtected).early ⟨nofun, rfl, nofun⟩ rfl rfl
      · exact h.early ⟨nofun, rfl, nofun⟩ rfl rfl
  | startSessionOld =>
    unfold Preflight.workerStep
    dsimp only
    split
    · exact (h.emit .session).early ⟨nofun, rfl, nofun⟩ rfl rfl
    · exact h.early ⟨nofun, rfl, nofun⟩ rfl rfl
  | validateOld =>
    unfold Preflight.workerStep
    dsimp only
    split
    · exact (h.emit .added).early ⟨nofun, rfl, nofun⟩ rfl rfl
    · exact h.early ⟨nofun, rfl, nofun⟩ rfl rfl
  | leave =>
    obtain ⟨hfree, hnone⟩ := h.freeClient
    have hplace := place_freeClient (⟨.leave, lockdown, next, freed, paired, pairErr, major, minor, attempts,
      cbdata, np, event, callback, listed, told, fault, log⟩ : Preflight)
    have hearly : (Preflight.freeClient ⟨.leave, lockdown, next, freed, paired, pairErr, major, minor, attempts,
      cbdata, np, event, callback, listed, told, fault, log⟩).Early := ⟨by rw [hplace]; nofun, by rw [hplace]; rfl,
        by rw [hplace]; nofun⟩
    exact (hfree.emit .finished).outside hearly.live hearly.out rfl (fun _ => hnone) hearly.np
  | ended => exact h

/-! ### The callbacks and the lifetimes -/

/-- A callback that has the address of `cbdata` finds it in scope. -/
theorem Lifetimes.called (h : Lifetimes s) {isSet : Bool} {f : Preflight → Preflight}
    (hset : isSet = true → s.place.inScope = true) (hf : Lifetimes (f s)) : Lifetimes (s.called isSet f) := by
  unfold Preflight.called
  split
  · next hcalled =>
    rw [if_pos (h.scope.trans (hset hcalled))]
    exact hf
  · exact h

/-- What another thread does keeps the lifetimes. -/
theorem Lifetimes.callbackStep (h : Lifetimes s) (c : PreflightCallback) : Lifetimes (s.callbackStep c) := by
  have hcallback : s.callback = true → s.place.inScope = true :=
    fun hset => PreflightPlace.inScope_of_heard (h.heard hset).1
  cases c with
  | empty =>
    refine h.called (f := fun s => { s.emit .proxyLost with
      cbdata := s.cbdata.map fun c => { c with np := false }, callback := false }) hcallback ?_
    exact { h.emit .proxyLost with
      scope := by rw [Option.isSome_map]; exact h.scope
      heard := fun hset => nomatch hset
      np := fun _ => .inr (.inr (.inl List.mem_cons_self)) }
  | requestPair clientNew pair =>
    refine h.called (f := fun s => if clientNew = .success then
      if pair = .success then (s.ownClient.emit .paired).signalIsPaired else s.ownClient.signalIsPaired
      else s.signalIsPaired) hcallback ?_
    split
    · split
      · exact (h.ownClient.emit .paired).signalIsPaired
      · exact h.ownClient.signalIsPaired
    · exact h.signalIsPaired
  | requestHostBuid clientNew =>
    refine h.called (f := fun s => if clientNew = .success then s.ownClient else s) hcallback ?_
    split
    · exact h.ownClient
    · exact h
  | deviceRemove =>
    have hgone : Lifetimes
        { s with cbdata := s.cbdata.map fun c => { c with isDeviceConnected := false } } := by
      have hnp : ({ s with cbdata := s.cbdata.map fun c => { c with isDeviceConnected := false } } : Preflight).hasNp =
          s.hasNp := by
        unfold hasNp
        cases s.cbdata <;> rfl
      exact { h with
        scope := by rw [Option.isSome_map]; exact h.scope
        heard := fun hset => ⟨(h.heard hset).1, hnp.trans (h.heard hset).2⟩
        np := fun hopen => (h.np hopen).imp_right (Or.imp_left fun hheard => ⟨hheard.1, hnp.trans hheard.2⟩) }
    have htold : s.cbDataSet = true → s.place.inScope = true :=
      fun hset => PreflightPlace.inScope_of_heard (PreflightPlace.heard_of_told (h.told hset))
    exact { h.called htold hgone with told := fun hset => nomatch hset }

theorem Lifetimes.step (h : Lifetimes s) (step : PreflightStep) : Lifetimes (s.step step) := by
  cases step with
  | worker a => exact h.worker a
  | callback c => exact h.callbackStep c

theorem lifetimes_run (steps : List PreflightStep) : Lifetimes (run steps) :=
  List.foldlRecOn steps step lifetimes_init fun _ h step _ => h.step step

/-- The variable that the worker hands to two other threads is in scope whenever they touch
it. No client of lockdownd is freed twice; when the worker has ended, each has been freed, the
event is closed and no callback is left; and a client of the notification proxy that is left
behind had lost its connection, or there was no event for it. -/
theorem preflight_lifetimes (steps : List PreflightStep) :
    let s := run steps
    s.fault ≠ some .dangling ∧ (∀ c, s.freed.count c ≤ 1) ∧
      (s.place = .ended → s.fault = none →
        (∀ c < s.next, s.freed.count c = 1) ∧ s.event = false ∧ s.callback = false ∧ s.cbDataSet = false ∧
          (s.np = true → .proxyLost ∈ s.log ∨ .noEvent ∈ s.log)) := by
  intro s
  have h : Lifetimes s := lifetimes_run steps
  refine ⟨fun hdangling => ?_, h.ledger.count_le, fun hended hfault => ⟨fun c hc => ?_, ?_, ?_, ?_, fun hopen => ?_⟩⟩
  · rcases h.fault with hnone | ⟨hnoDot, -⟩
    · rw [hdangling] at hnone
      cases hnone
    · rw [hdangling] at hnoDot
      cases hnoDot
  · have hledger := h.ledger
    rw [h.client hfault (by rw [hended]; rfl)] at hledger
    exact hledger.count_eq hc
  · rw [h.event, hended]
    rfl
  · refine Bool.eq_false_iff.mpr fun hset => ?_
    have hheard := (h.heard hset).1
    rw [hended] at hheard
    cases hheard
  · refine Bool.eq_false_iff.mpr fun hset => ?_
    have htold := h.told hset
    rw [hended] at htold
    cases htold
  · rcases h.np hopen with hcreate | ⟨hheard, -⟩ | hlost
    · rw [hended] at hcreate
      cases hcreate
    · rw [hended] at hheard
      cases hheard
    · exact hlost

/-! ### What the log says -/

/-- The clients are told of the device once, with a reason, and nothing else after it. -/
def Announced (log : List PreflightEvent) : Prop := ∀ later earlier, log = later ++ .added :: earlier →
  (∃ e ∈ earlier, e.Justifies) ∧ .added ∉ earlier ∧ ∀ e ∈ later, e = .monitor false ∨ e = .finished

/-- The worker finishes once, at last. -/
def Finished (log : List PreflightEvent) : Prop := ∀ later earlier, log = later ++ .finished :: earlier →
  later = [] ∧ .finished ∉ earlier

section Logs

variable {log : List PreflightEvent} {e : PreflightEvent}

theorem Announced.silent (h : .added ∉ log) : Announced log := by
  rintro later earlier rfl
  exact absurd (List.mem_append_right later List.mem_cons_self) h

/-- What the worker may say after it. -/
theorem Announced.say (h : Announced log) (he : e = .monitor false ∨ e = .finished) : Announced (e :: log) := by
  intro later earlier heq
  cases later with
  | nil =>
    cases heq
    rcases he with he | he <;> cases he
  | cons e' later =>
    rw [List.cons_append, List.cons.injEq] at heq
    obtain ⟨rfl, heq⟩ := heq
    obtain ⟨hwhy, honce, hlater⟩ := h later earlier heq
    exact ⟨hwhy, honce, List.forall_mem_cons.mpr ⟨he, hlater⟩⟩

/-- `client_device_add`. -/
theorem Announced.add (h : .added ∉ log) (hwhy : ∃ e ∈ log, e.Justifies) : Announced (.added :: log) := by
  intro later earlier heq
  cases later with
  | nil =>
    cases heq
    exact ⟨hwhy, h, fun e he => nomatch he⟩
  | cons e' later =>
    rw [List.cons_append, List.cons.injEq] at heq
    exact absurd (heq.2 ▸ List.mem_append_right later List.mem_cons_self) h

theorem Finished.silent (h : .finished ∉ log) : Finished log := by
  rintro later earlier rfl
  exact absurd (List.mem_append_right later List.mem_cons_self) h

/-- `device_preflight_finished`. -/
theorem Finished.finish (h : .finished ∉ log) : Finished (.finished :: log) := by
  intro later earlier heq
  cases later with
  | nil =>
    cases heq
    exact ⟨rfl, h⟩
  | cons e' later =>
    rw [List.cons_append, List.cons.injEq] at heq
    exact absurd (heq.2 ▸ List.mem_append_right later List.mem_cons_self) h

end Logs

/-- What the log says, by the place of the worker. -/
structure Story (s : Preflight) : Prop where
  announced : Announced s.log
  early : s.place.late = false → .added ∉ s.log
  signal : s.isPaired = true → .signalled ∈ s.log
  old : s.place = .startSessionOld ∨ s.place = .validateOld → .paired ∈ s.log
  last : Finished s.log
  running : s.place ≠ .ended → .finished ∉ s.log
  ended : s.place = .ended → s.fault = none → .finished ∈ s.log

theorem story_init : Story .init where
  announced := .silent List.not_mem_nil
  early _ := List.not_mem_nil
  signal h := nomatch h
  old h := by rcases h with h | h <;> cases h
  last := .silent List.not_mem_nil
  running _ := List.not_mem_nil
  ended h := nomatch h

/-- A step that says `es`, of a worker that has not told the clients. -/
theorem Story.says {s' : Preflight} (h : Story s) (es : List PreflightEvent) (hlog : s'.log = es ++ s.log)
    (hnotAdded : .added ∉ es) (hnotFinished : .finished ∉ es) (hlate : s.place.late = false)
    (hsignal : s'.isPaired = true → s.isPaired = true ∨ .signalled ∈ es)
    (hold : s'.place = .startSessionOld ∨ s'.place = .validateOld → .paired ∈ es ++ s.log)
    (hlive : s'.fault = none → s'.place ≠ .ended) : Story s' := by
  have hadded : .added ∉ s'.log := by
    rw [hlog]
    exact fun hmem => (List.mem_append.mp hmem).elim hnotAdded (h.early hlate)
  have hplace : s.place ≠ .ended := fun hended => by
    rw [hended] at hlate
    cases hlate
  have hfinished : .finished ∉ s'.log := by
    rw [hlog]
    exact fun hmem => (List.mem_append.mp hmem).elim hnotFinished (h.running hplace)
  refine ⟨.silent hadded, fun _ => hadded, fun hpaired => ?_, fun hplace => hlog ▸ hold hplace, .silent hfinished,
    fun _ => hfinished, fun hended hfault => absurd hended (hlive hfault)⟩
  rw [hlog, List.mem_append]
  exact (hsignal hpaired).elim (fun hs => .inr (h.signal hs)) .inl

/-- A step of the worker that leaves `cbdata` alone. -/
theorem Story.goes {s' : Preflight} (h : Story s) (es : List PreflightEvent) (hlog : s'.log = es ++ s.log)
    (hnotAdded : .added ∉ es) (hnotFinished : .finished ∉ es) (hlate : s.place.late = false)
    (hcbdata : s'.cbdata = s.cbdata) (hstart : s'.place ≠ .startSessionOld) (hvalidate : s'.place ≠ .validateOld)
    (hlive : s'.fault = none → s'.place ≠ .ended) : Story s' := by
  refine h.says es hlog hnotAdded hnotFinished hlate (fun hpaired => .inl ?_) (fun hplace => ?_) hlive
  · unfold isPaired at hpaired ⊢
    rw [← hcbdata]
    exact hpaired
  · exact absurd hplace (not_or.mpr ⟨hstart, hvalidate⟩)

/-- The clients are told of the device. -/
theorem Story.adds {s' : Preflight} (h : Story s) (why later : List PreflightEvent)
    (hlog : s'.log = later ++ .added :: (why ++ s.log)) (hnotAdded : .added ∉ why) (hnotFinished : .finished ∉ why)
    (hwhy : ∃ e ∈ why ++ s.log, e.Justifies) (hlater : ∀ e ∈ later, e = .monitor false) (hlate : s.place.late = false)
    (hcbdata : s'.cbdata = s.cbdata) (hplace : s'.place = .leave ∨ s'.place = .closeEvent) : Story s' := by
  have hadded : .added ∉ why ++ s.log := fun hmem => (List.mem_append.mp hmem).elim hnotAdded (h.early hlate)
  have hfinished : .finished ∉ s'.log := by
    have hlive : s.place ≠ .ended := fun hended => by
      rw [hended] at hlate
      cases hlate
    rw [hlog]
    simp only [List.mem_append, List.mem_cons, not_or]
    refine ⟨fun hmem => ?_, nofun, hnotFinished, h.running hlive⟩
    cases hlater _ hmem
  refine ⟨?_, fun hearly => ?_, fun hpaired => ?_, fun hold => ?_, .silent hfinished, fun _ => hfinished, fun hended => ?_⟩
  · rw [hlog]
    clear hlog
    induction later with
    | nil => exact .add hadded hwhy
    | cons e later ih =>
      rw [List.forall_mem_cons] at hlater
      exact (ih hlater.2).say (.inl hlater.1)
  · rcases hplace with hplace | hplace <;> rw [hplace] at hearly <;> cases hearly
  · have hbefore : s.isPaired = true := by
      unfold isPaired at hpaired ⊢
      rw [← hcbdata]
      exact hpaired
    rw [hlog]
    exact List.mem_append_right _ (List.mem_cons_of_mem _ (List.mem_append_right _ (h.signal hbefore)))
  · rcases hplace with hplace | hplace <;> rw [hplace] at hold <;> rcases hold with hold | hold <;> cases hold
  · rcases hplace with hplace | hplace <;> rw [hplace] at hended <;> cases hended

theorem log_freeClient (s : Preflight) : s.freeClient.log = s.log := by
  unfold freeClient
  split <;> rfl

theorem cbdata_freeClient (s : Preflight) : s.freeClient.cbdata = s.cbdata := by
  unfold freeClient
  split <;> rfl

theorem Story.addAndLeave (h : Story s) (hlate : s.place.late = false) {why : PreflightEvent} (hwhy : why.Justifies) :
    Story (s.addAndLeave why) := by
  have hnot : why ≠ .added ∧ why ≠ .finished := by
    rcases hwhy with rfl | rfl | rfl | rfl <;> exact ⟨nofun, nofun⟩
  exact h.adds [why] [] rfl (fun hmem => hnot.1 (List.mem_singleton.mp hmem).symm)
    (fun hmem => hnot.2 (List.mem_singleton.mp hmem).symm) ⟨why, List.mem_cons_self, hwhy⟩ nofun hlate rfl (.inl rfl)

theorem Story.afterSession (h : Story s) (hlate : s.place.late = false) (error : LockdownError) :
    Story (s.afterSession error) := by
  cases error <;> exact h.goes [] rfl nofun nofun hlate rfl nofun nofun nofun

theorem Story.toPair (h : Story s) (hlate : s.place.late = false) (es : List PreflightEvent)
    (hnotAdded : .added ∉ es) (hnotFinished : .finished ∉ es) : Story { s.toPair with log := es ++ s.log } := by
  unfold Preflight.toPair
  split <;> exact h.goes es rfl hnotAdded hnotFinished hlate rfl nofun nofun nofun

theorem Story.afterVersion (h : Story s) (hlate : s.place.late = false) (version : List UInt8) :
    Story (s.afterVersion version) := by
  unfold Preflight.afterVersion
  split
  · exact h.goes [] rfl nofun nofun hlate rfl nofun nofun (fun hfault => nomatch hfault)
  · next minor _ =>
    have hsame : Story { s with versionMajor := strtol version, versionMinor := strtol minor } := { h with }
    dsimp only
    split
    · split
      · exact h.goes [] rfl nofun nofun hlate rfl nofun nofun nofun
      · exact hsame.toPair hlate [] nofun nofun
    · exact h.goes [] rfl nofun nofun hlate rfl nofun nofun nofun

theorem Story.afterPair (h : Story s) (hlate : s.place.late = false) (error : LockdownError) :
    Story (s.afterPair error) := by
  have hsame : Story { s with pairErr := error } := { h with }
  cases error with
  | success => exact hsame.addAndLeave hlate (.inr (.inr (.inl rfl)))
  | userDeniedPairing => exact h.goes [.denied] rfl nofun nofun hlate rfl nofun nofun nofun
  | passwordProtected =>
    unfold Preflight.afterPair
    dsimp only
    split
    · exact h.goes [] rfl nofun nofun hlate rfl nofun nofun nofun
    · exact h.goes [] rfl nofun nofun hlate rfl nofun nofun nofun
  | _ => exact h.goes [] rfl nofun nofun hlate rfl nofun nofun nofun

/-- "Is paired" is signalled, and the worker may go on. -/
theorem Story.signalled {s' : Preflight} (h : Story s) (es : List PreflightEvent) (hlate : s.place.late = false)
    (hnotAdded : .added ∉ es) (hnotFinished : .finished ∉ es) (hlog : s'.log = es ++ s.log)
    (hcbdata : s'.cbdata = s.cbdata) {p : PreflightPlace} (hp : p ≠ .ended)
    (hold : p = .startSessionOld ∨ p = .validateOld → .paired ∈ es ++ s.log) :
    Story (s'.signalIsPaired.goTo p) := by
  unfold Preflight.signalIsPaired
  split
  · refine h.says (.signalled :: es) ?_ ?_ ?_ hlate (fun _ => .inr List.mem_cons_self) (fun hplace => ?_) (fun _ => hp)
    · exact congrArg (PreflightEvent.signalled :: ·) hlog
    · exact List.not_mem_cons_of_ne_of_not_mem nofun hnotAdded
    · exact List.not_mem_cons_of_ne_of_not_mem nofun hnotFinished
    · exact List.mem_cons_of_mem _ (hold hplace)
  · refine h.says es hlog hnotAdded hnotFinished hlate (fun hpaired => .inl ?_) hold (fun _ => hp)
    unfold isPaired at hpaired ⊢
    rw [← hcbdata]
    exact hpaired

theorem Story.afterLoopPair (h : Story s) (hlate : s.place.late = false) (error : LockdownError) :
    Story (s.afterLoopPair error) := by
  cases error with
  | success =>
    have hlog : (s.emit .paired).log = [.paired] ++ s.log := rfl
    exact h.signalled [.paired] hlate nofun nofun hlog rfl nofun (fun _ => List.mem_cons_self)
  | userDeniedPairing => exact h.goes [.monitor false, .denied] rfl nofun nofun hlate rfl nofun nofun nofun
  | muxError => exact h.goes [] (log_freeClient s) nofun nofun hlate (cbdata_freeClient s) nofun nofun nofun
  | _ => exact h.goes [] rfl nofun nofun hlate rfl nofun nofun nofun

/-- What the worker has said after its next call. -/
theorem Story.worker (h : Story s) (a : PreflightAnswer) : Story (s.workerStep a) := by
  obtain ⟨place, lockdown, next, freed, paired, pairErr, major, minor, attempts, cbdata, np, event, callback, listed, told,
    fault, log⟩ := s
  cases place with
  | clientNew | loop | wait | loopClientNew =>
    unfold Preflight.workerStep
    dsimp only
    split <;> exact h.goes [] rfl nofun nofun rfl rfl nofun nofun nofun
  | queryType =>
    unfold Preflight.workerStep
    dsimp only
    split
    · exact h.goes [] rfl nofun nofun rfl rfl nofun nofun nofun
    · split
      · exact h.goes [] rfl nofun nofun rfl rfl nofun nofun nofun
      · exact h.addAndLeave rfl (.inl rfl)
  | validate =>
    have hsame : Story ⟨.validate, lockdown, next, freed, false, pairErr, major, minor, attempts, cbdata, np, event,
      callback, listed, told, fault, log⟩ := { h with }
    unfold Preflight.workerStep
    dsimp only
    generalize (if a.hasLocalConfig = true then a.error else if a.ok = true then LockdownError.success else .invalidHostId) =
      lerr
    split
    · exact h.goes [] rfl nofun nofun rfl rfl nofun nofun nofun
    · exact hsame.afterSession rfl lerr
  | startSession =>
    unfold Preflight.workerStep
    dsimp only
    split
    · exact h.addAndLeave rfl (.inr (.inl rfl))
    · exact h.afterSession rfl a.error
  | removeRecord =>
    unfold Preflight.workerStep
    dsimp only
    split
    · exact h.goes [] (log_freeClient _) nofun nofun rfl (cbdata_freeClient _) nofun nofun nofun
    · exact h.goes [] rfl nofun nofun rfl rfl nofun nofun nofun
  | getVersion =>
    unfold Preflight.workerStep
    dsimp only
    split
    · split
      · exact h.goes [] rfl nofun nofun rfl rfl nofun nofun nofun
      · exact h.afterVersion rfl _
    · exact h.goes [] rfl nofun nofun rfl rfl nofun nofun nofun
  | monitorOnce =>
    unfold Preflight.workerStep
    dsimp only
    split
    · exact h.toPair rfl [.monitor true] nofun nofun
    · exact h.goes [.monitor true] rfl nofun nofun rfl rfl nofun nofun nofun
  | pair => exact h.afterPair rfl a.error
  | setupCompleted =>
    unfold Preflight.workerStep
    dsimp only
    split
    · exact h.goes [] rfl nofun nofun rfl rfl nofun nofun nofun
    · exact h.goes [.passwordProtected] rfl nofun nofun rfl rfl nofun nofun nofun
  | startService =>
    unfold Preflight.workerStep
    dsimp only
    split
    · exact h.goes [] rfl nofun nofun rfl rfl nofun nofun nofun
    · split
      · exact h.goes [.monitor false, .passwordProtected] rfl nofun nofun rfl rfl nofun nofun nofun
      · exact h.goes [.monitor false] rfl nofun nofun rfl rfl nofun nofun nofun
  | npNew => exact h.goes [.trustPending] rfl nofun nofun rfl rfl nofun nofun nofun
  | createEvent =>
    unfold Preflight.workerStep
    dsimp only
    split
    · exact h.says [] rfl nofun nofun rfl (fun hpaired => nomatch hpaired) (fun hold => by rcases hold with hold | hold <;> cases hold)
        nofun
    · exact h.goes [.noEvent] rfl nofun nofun rfl rfl nofun nofun nofun
  | setCbData | clearCbData => exact h.goes [] rfl nofun nofun rfl rfl nofun nofun nofun
  | loopPair => exact h.afterLoopPair rfl a.error
  | afterLoop => exact h.goes [] (log_freeClient _) nofun nofun rfl (cbdata_freeClient _) nofun nofun nofun
  | clearCallback =>
    unfold Preflight.workerStep
    dsimp only
    split <;> exact h.goes [] rfl nofun nofun rfl rfl nofun nofun nofun
  | check =>
    unfold Preflight.workerStep
    dsimp only
    split
    · next hpaired =>
      exact h.adds [] [.monitor false] rfl nofun nofun ⟨.signalled, h.signal hpaired.2, .inr (.inr (.inr rfl))⟩
        (fun e he => List.mem_singleton.mp he) rfl rfl (.inr rfl)
    · exact h.goes [] rfl nofun nofun rfl rfl nofun nofun nofun
  | closeEvent =>
    exact { h with
      early := fun hearly => nomatch hearly
      signal := fun hpaired => nomatch hpaired
      old := fun hold => by rcases hold with hold | hold <;> cases hold
      running := fun _ => h.running nofun
      ended := fun hended => nomatch hended }
  | pairOld =>
    unfold Preflight.workerStep
    dsimp only
    split
    · exact h.says [.paired] rfl nofun nofun rfl .inl (fun _ => List.mem_cons_self) nofun
    · split
      · exact h.goes [.passwordProtected] rfl nofun nofun rfl rfl nofun nofun nofun
      · exact h.goes [] rfl nofun nofun rfl rfl nofun nofun nofun
  | startSessionOld =>
    unfold Preflight.workerStep
    dsimp only
    split
    · exact h.says [.session] rfl nofun nofun rfl .inl (fun _ => List.mem_cons_of_mem _ (h.old (.inl rfl))) nofun
    · exact h.goes [] rfl nofun nofun rfl rfl nofun nofun nofun
  | validateOld =>
    unfold Preflight.workerStep
    dsimp only
    split
    · exact h.adds [] [] rfl nofun nofun ⟨.paired, h.old (.inr rfl), .inr (.inr (.inl rfl))⟩ nofun rfl rfl (.inl rfl)
    · exact h.goes [] rfl nofun nofun rfl rfl nofun nofun nofun
  | leave =>
    have hlog := log_freeClient (⟨.leave, lockdown, next, freed, paired, pairErr, major, minor, attempts, cbdata, np, event,
      callback, listed, told, fault, log⟩ : Preflight)
    have hcbdata := cbdata_freeClient (⟨.leave, lockdown, next, freed, paired, pairErr, major, minor, attempts, cbdata, np,
      event, callback, listed, told, fault, log⟩ : Preflight)
    have hfinished : .finished ∉ log := h.running nofun
    exact {
      announced := (hlog ▸ h.announced).say (.inr rfl)
      early := fun hearly => nomatch hearly
      signal := fun hpaired => List.mem_cons_of_mem _ (hlog ▸ h.signal (by
        unfold isPaired at hpaired ⊢
        rw [← hcbdata]
        exact hpaired))
      old := fun hold => by rcases hold with hold | hold <;> cases hold
      last := .finish (hlog ▸ hfinished)
      running := fun hlive => absurd rfl hlive
      ended := fun _ _ => List.mem_cons_self }
  | ended => exact h

/-- A callback that has the address of `cbdata` says nothing where the worker has told the
clients, because it cannot be called there. -/
theorem Story.called (h : Story s) {isSet : Bool} {f : Preflight → Preflight}
    (hf : isSet = true → Story (f s)) : Story (s.called isSet f) := by
  unfold Preflight.called
  split
  · next hset =>
    split
    · exact hf hset
    · exact { h with ended := fun _ hfault => nomatch hfault }
  · exact h

/-- What another thread does. -/
theorem Story.callbackStep (hlife : Lifetimes s) (h : Story s) (c : PreflightCallback) : Story (s.callbackStep c) := by
  have hplace : s.callback = true → s.place.late = false ∧ s.place ≠ .ended ∧ s.place ≠ .startSessionOld ∧
      s.place ≠ .validateOld := by
    intro hset
    have hheard := (hlife.heard hset).1
    refine ⟨PreflightPlace.not_late_of_heard hheard, ?_⟩
    generalize s.place = p at hheard
    refine ⟨?_, ?_, ?_⟩ <;> rintro rfl <;> cases hheard
  cases c with
  | empty =>
    refine h.called (f := fun s => { s.emit .proxyLost with
      cbdata := s.cbdata.map fun c => { c with np := false }, callback := false }) fun hset => ?_
    obtain ⟨hlate, hlive, hstart, hvalidate⟩ := hplace hset
    refine h.says [.proxyLost] rfl nofun nofun hlate (fun hpaired => .inl ?_) (fun hold => ?_) (fun _ => hlive)
    · unfold isPaired at hpaired ⊢
      cases hcbdata : s.cbdata with
      | none => rw [hcbdata] at hpaired; cases hpaired
      | some c => rw [hcbdata] at hpaired; exact hpaired
    · exact absurd hold (not_or.mpr ⟨hstart, hvalidate⟩)
  | requestPair clientNew pair =>
    refine h.called (f := fun s => if clientNew = .success then
      if pair = .success then (s.ownClient.emit .paired).signalIsPaired else s.ownClient.signalIsPaired
      else s.signalIsPaired) fun hset => ?_
    obtain ⟨hlate, hlive, hstart, hvalidate⟩ := hplace hset
    have hsignal : ∀ (es : List PreflightEvent) (s' : Preflight), .added ∉ es → .finished ∉ es → s'.log = es ++ s.log →
        s'.cbdata = s.cbdata → s'.place = s.place → Story s'.signalIsPaired := by
      intro es s' hnotAdded hnotFinished hlog hcbdata hsame
      have hgo : s'.signalIsPaired.goTo s.place = s'.signalIsPaired := by
        rw [← hsame, ← place_signalIsPaired s']
        rfl
      rw [← hgo]
      exact h.signalled es hlate hnotAdded hnotFinished hlog hcbdata hlive
        fun hold => absurd hold (not_or.mpr ⟨hstart, hvalidate⟩)
    split
    · split
      · exact hsignal [.paired] _ nofun nofun rfl rfl rfl
      · exact hsignal [] _ nofun nofun rfl rfl rfl
    · exact hsignal [] s nofun nofun rfl rfl rfl
  | requestHostBuid clientNew =>
    refine h.called (f := fun s => if clientNew = .success then s.ownClient else s) fun _ => ?_
    split
    · exact { h with }
    · exact h
  | deviceRemove =>
    have hgone : Story (s.called s.cbDataSet fun s =>
        { s with cbdata := s.cbdata.map fun c => { c with isDeviceConnected := false } }) := by
      refine h.called fun _ => { h with signal := fun hpaired => h.signal ?_ }
      unfold isPaired at hpaired ⊢
      cases hcbdata : s.cbdata with
      | none => rw [hcbdata] at hpaired; cases hpaired
      | some c => rw [hcbdata] at hpaired; exact hpaired
    exact { hgone with }

theorem story_run (steps : List PreflightStep) : Lifetimes (run steps) ∧ Story (run steps) := by
  refine List.foldlRecOn (motive := fun s => Lifetimes s ∧ Story s) steps step ⟨lifetimes_init, story_init⟩ ?_
  intro s ⟨hlife, hstory⟩ step _
  refine ⟨hlife.step step, ?_⟩
  cases step with
  | worker a => exact hstory.worker a
  | callback c => exact hstory.callbackStep hlife c

/-- The clients are told of the device at most once, with a session, a pairing, a signal from
the user or restore mode before it, and hear nothing of the worker after it. The main thread is
told that the worker has finished once, after everything else, and it is always told. -/
theorem preflight_story (steps : List PreflightStep) :
    (∀ later earlier, (run steps).log = later ++ .added :: earlier →
      (∃ e ∈ earlier, e.Justifies) ∧ .added ∉ earlier ∧ ∀ e ∈ later, e = .monitor false ∨ e = .finished) ∧
    (∀ later earlier, (run steps).log = later ++ .finished :: earlier → later = [] ∧ .finished ∉ earlier) ∧
    ((run steps).fault = none → (.finished ∈ (run steps).log ↔ (run steps).place = .ended)) := by
  obtain ⟨-, h⟩ := story_run steps
  refine ⟨h.announced, h.last, fun hfault => ⟨fun hmem => ?_, fun hended => h.ended hended hfault⟩⟩
  by_contra hlive
  exact h.running hlive hmem

/-! ### The end of the wait -/

/-- How many calls of the worker are left at most, once the device has been removed. -/
def callsLeft : PreflightPlace → ℕ
  | .wait => 10
  | .loopPair => 9
  | .loopClientNew => 8
  | .loop => 7
  | .afterLoop => 6
  | .clearCbData => 5
  | .clearCallback => 4
  | .check => 3
  | .closeEvent => 2
  | .leave => 1
  | _ => 0

theorem callsLeft_of_told {p : PreflightPlace} (h : p.told = true) : callsLeft p ≠ 0 := by
  revert h
  cases p <;> decide

/-- The worker is in the loop or behind it, and can see that its device has been removed. -/
def Told (s : Preflight) : Prop :=
  callsLeft s.place ≠ 0 ∧ s.cbDataSet = false ∧ ∀ c, s.cbdata = some c → c.isDeviceConnected = false

/-- The loop is not gone through again. -/
theorem Told.not_waits (h : Told s) : s.waits = false := by
  unfold waits
  cases hcbdata : s.cbdata with
  | none => rfl
  | some c =>
    dsimp only
    rw [h.2.2 c hcbdata]
    simp

/-- The worker has gone on, and still sees it. -/
theorem Told.goes {s' : Preflight} (h : Told s) (hset : s'.cbDataSet = s.cbDataSet)
    (hcbdata : ∀ c', s'.cbdata = some c' → ∃ c, s.cbdata = some c ∧ c'.isDeviceConnected = c.isDeviceConnected)
    (hplace : callsLeft s'.place ≠ 0) : Told s' := by
  refine ⟨hplace, hset.trans h.2.1, fun c' hc' => ?_⟩
  obtain ⟨c, hc, hsame⟩ := hcbdata c' hc'
  exact hsame.trans (h.2.2 c hc)

/-- The worker goes to a place with fewer calls left. -/
theorem Told.on {s' : Preflight} (h : Told s) (p p' : PreflightPlace) (hp : s.place = p) (hp' : s'.place = p')
    (hset : s'.cbDataSet = s.cbDataSet) (hcbdata : s'.cbdata = s.cbdata) (hplace : callsLeft p' ≠ 0)
    (hlt : callsLeft p' < callsLeft p) : Told s' ∧ callsLeft s'.place < callsLeft s.place := by
  subst hp hp'
  exact ⟨h.goes hset (fun c hc => ⟨c, hcbdata ▸ hc, rfl⟩) hplace, hlt⟩

theorem cbDataSet_freeClient (s : Preflight) : s.freeClient.cbDataSet = s.cbDataSet := by
  unfold freeClient
  split <;> rfl

theorem Told.afterLoopPair (h : Told s) (hs : s.place = .loopPair) (error : LockdownError) :
    Told (s.afterLoopPair error) ∧ callsLeft (s.afterLoopPair error).place < callsLeft s.place := by
  rw [hs]
  cases error with
  | success =>
    refine ⟨h.goes ?_ (fun c' hc' => ?_) nofun, show 7 < 9 by decide⟩
    · show (s.emit .paired).signalIsPaired.cbDataSet = _
      unfold signalIsPaired
      split <;> rfl
    · have hc' : (s.emit .paired).signalIsPaired.cbdata = some c' := hc'
      unfold signalIsPaired at hc'
      split at hc'
      · obtain ⟨c, hc, rfl⟩ := Option.map_eq_some_iff.mp hc'
        exact ⟨c, hc, rfl⟩
      · exact ⟨c', hc', rfl⟩
  | userDeniedPairing => exact ⟨h.goes rfl (fun c hc => ⟨c, hc, rfl⟩) nofun, show 6 < 9 by decide⟩
  | muxError =>
    exact ⟨h.goes (cbDataSet_freeClient s) (fun c hc => ⟨c, cbdata_freeClient s ▸ hc, rfl⟩) nofun, show 8 < 9 by decide⟩
  | _ => exact ⟨h.goes rfl (fun c hc => ⟨c, hc, rfl⟩) nofun, show 7 < 9 by decide⟩

/-- With each call of its own the worker comes nearer to its end. -/
theorem Told.worker (h : Told s) (a : PreflightAnswer) :
    Told (s.workerStep a) ∧ callsLeft (s.workerStep a).place < callsLeft s.place ∨ (s.workerStep a).place = .ended := by
  have hwaits := h.not_waits
  obtain ⟨place, lockdown, next, freed, paired, pairErr, major, minor, attempts, cbdata, np, event, callback, listed, told,
    fault, log⟩ := s
  cases place with
  | wait =>
    left
    unfold workerStep
    dsimp only
    split
    · exact h.on .wait .afterLoop rfl rfl rfl rfl nofun (by decide)
    · exact h.on .wait .loopPair rfl rfl rfl rfl nofun (by decide)
  | loopPair => exact .inl (h.afterLoopPair rfl a.error)
  | loopClientNew =>
    left
    unfold workerStep
    dsimp only
    split
    · exact h.on .loopClientNew .loop rfl rfl rfl rfl nofun (by decide)
    · exact h.on .loopClientNew .loop rfl rfl rfl rfl nofun (by decide)
  | loop =>
    left
    unfold workerStep
    dsimp only
    rw [if_neg (Bool.eq_false_iff.mp hwaits)]
    exact h.on .loop .afterLoop rfl rfl rfl rfl nofun (by decide)
  | afterLoop => exact .inl (h.on .afterLoop .clearCbData rfl rfl (cbDataSet_freeClient _) (cbdata_freeClient _) nofun (by decide))
  | clearCbData => exact .inl (h.on .clearCbData .clearCallback rfl rfl h.2.1.symm rfl nofun (by decide))
  | clearCallback =>
    left
    unfold workerStep
    dsimp only
    split
    · exact h.on .clearCallback .check rfl rfl rfl rfl nofun (by decide)
    · exact h.on .clearCallback .check rfl rfl rfl rfl nofun (by decide)
  | check =>
    left
    unfold workerStep
    dsimp only
    split
    · exact h.on .check .closeEvent rfl rfl rfl rfl nofun (by decide)
    · exact h.on .check .closeEvent rfl rfl rfl rfl nofun (by decide)
  | closeEvent => exact .inl ⟨h.goes rfl (fun c hc => nomatch hc) nofun, Nat.lt_succ_self 1⟩
  | leave => exact .inr rfl
  | _ => exact absurd rfl h.1

theorem place_callbackStep (s : Preflight) (c : PreflightCallback) : (s.callbackStep c).place = s.place := by
  have hcalled : ∀ (isSet : Bool) (f : Preflight → Preflight), (f s).place = s.place → (s.called isSet f).place = s.place := by
    intro isSet f hf
    unfold called
    split
    · split
      · exact hf
      · rfl
    · rfl
  cases c with
  | empty => exact hcalled _ _ rfl
  | requestPair clientNew pair =>
    apply hcalled
    split
    · split <;> exact place_signalIsPaired _
    · exact place_signalIsPaired s
  | requestHostBuid clientNew =>
    apply hcalled
    split <;> rfl
  | deviceRemove => exact hcalled _ _ rfl

/-- What the other threads do does not keep the worker from its end. -/
theorem Told.callbackStep (h : Told s) (c : PreflightCallback) : Told (s.callbackStep c) := by
  have hcalled : ∀ (isSet : Bool) (f : Preflight → Preflight), Told (f s) → Told (s.called isSet f) := by
    intro isSet f hf
    unfold called
    split
    · split
      · exact hf
      · exact h.goes rfl (fun c hc => ⟨c, hc, rfl⟩) h.1
    · exact h
  have hmap : ∀ {s' : Preflight} {f : CbData → CbData}, s'.cbdata = s.cbdata.map f →
      (∀ c, (f c).isDeviceConnected = c.isDeviceConnected) → s'.cbDataSet = s.cbDataSet → s'.place = s.place → Told s' := by
    intro s' f hcbdata hf hset hplace
    refine h.goes hset (fun c' hc' => ?_) (hplace ▸ h.1)
    obtain ⟨c, hc, rfl⟩ := Option.map_eq_some_iff.mp (hcbdata ▸ hc')
    exact ⟨c, hc, hf c⟩
  have hsignal : ∀ s' : Preflight, s'.cbdata = s.cbdata → s'.cbDataSet = s.cbDataSet → s'.place = s.place →
      Told s'.signalIsPaired := by
    intro s' hcbdata hset hplace
    unfold signalIsPaired
    split
    · exact hmap (congrArg (Option.map _) hcbdata) (fun c => rfl) hset hplace
    · exact h.goes hset (fun c hc => ⟨c, hcbdata ▸ hc, rfl⟩) (hplace ▸ h.1)
  cases c with
  | empty => exact hcalled _ _ (hmap rfl (fun c => rfl) rfl rfl)
  | requestPair clientNew pair =>
    apply hcalled
    split
    · split <;> exact hsignal _ rfl rfl rfl
    · exact hsignal s rfl rfl rfl
  | requestHostBuid clientNew =>
    apply hcalled
    split
    · exact h.goes rfl (fun c hc => ⟨c, hc, rfl⟩) h.1
    · exact h
  | deviceRemove =>
    unfold Preflight.callbackStep called
    dsimp only
    rw [if_neg (Bool.eq_false_iff.mp h.2.1)]
    exact ⟨h.1, rfl, h.2.2⟩

/-- A worker that the device knows is told of the removal. -/
theorem Told.of_remove (h : Lifetimes s) (hset : s.cbDataSet = true) : Told (s.callbackStep .deviceRemove) := by
  have htold := h.told hset
  have hscope : s.cbdata.isSome = true :=
    h.scope.trans (PreflightPlace.inScope_of_heard (PreflightPlace.heard_of_told htold))
  refine ⟨?_, rfl, fun c' hc' => ?_⟩
  · rw [place_callbackStep]
    exact callsLeft_of_told htold
  · unfold Preflight.callbackStep called at hc'
    dsimp only at hc'
    rw [if_pos hset, if_pos hscope] at hc'
    obtain ⟨c, -, rfl⟩ := Option.map_eq_some_iff.mp hc'
    rfl

/-- A worker that is in the loop when its device is removed, or that is about to leave it,
ends with the tenth of its own calls at the latest, whatever they are answered with and
whatever the other threads do. -/
theorem removal_ends_wait (before after : List PreflightStep) (hset : (run before).cbDataSet = true)
    (hlong : 10 ≤ after.countP fun | .worker _ => true | .callback _ => false) :
    (run (before ++ .callback .deviceRemove :: after)).place = .ended := by
  have htold : Told ((run before).callbackStep .deviceRemove) := .of_remove (lifetimes_run before) hset
  have hrank : callsLeft ((run before).callbackStep .deviceRemove).place ≤ 10 := by
    generalize ((run before).callbackStep .deviceRemove).place = p
    cases p <;> decide
  have hrun : after.foldlM (fun s t => some (step s t)) ((run before).callbackStep .deviceRemove) =
      some (run (before ++ .callback .deviceRemove :: after)) := by
    have hfold : run (before ++ .callback .deviceRemove :: after) =
        after.foldl step ((run before).callbackStep .deviceRemove) := List.foldl_append
    rw [hfold]
    exact List.foldlM_pure
  refine @Interleaved.ends _ _ (fun s t => some (step s t)) (fun _ => True) Told (·.place = .ended) _ _ after
    (fun s => callsLeft s.place) (fun | .worker _ => true | .callback _ => false) ?_ ?_ (fun s h => h.1)
    (fun s t _ => ⟨step s t, rfl, trivial⟩) trivial htold (hrank.trans hlong) hrun
  · rintro s s' t - - hstep - hs
    cases hstep
    cases t with
    | worker a =>
      rcases hs.worker a with ⟨hs', hlt⟩ | hended
      · exact .inl ⟨hs', Nat.le_of_lt hlt, fun _ => hlt⟩
      · exact .inr hended
    | callback c => exact .inl ⟨hs.callbackStep c, Nat.le_of_eq (congrArg callsLeft (place_callbackStep s c)), nofun⟩
  · rintro s s' t - hstep hended
    cases hstep
    cases t with
    | worker a =>
      show (s.workerStep a).place = .ended
      unfold workerStep
      rw [hended]
      exact hended
    | callback c => exact (place_callbackStep s c).trans hended

/-- A device with iOS 9 that is unplugged while its trust dialog is open: the worker, which
would otherwise wait for its user, ends. -/
theorem removal_ends_wait_dialog :
    (run ([(.success, none), (.success, some (cstr "com.apple.mobile.lockdown")), (.invalidHostId, none),
      (.success, some [57, 46, 51]), (.passwordProtected, none), (.success, none), (.success, none), (.success, none),
      (.success, none), (.other, none)].map (fun a => .worker ⟨a.1, true, true, a.2⟩) ++
      .callback .deviceRemove :: List.replicate 10 (.worker ⟨.passwordProtected, true, true, none⟩))).place = .ended :=
  removal_ends_wait _ _ (by decide +kernel) (by decide)

end Preflight

end Usbmuxd
