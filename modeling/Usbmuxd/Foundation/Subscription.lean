import Mathlib.Data.List.Infix
import Mathlib.Logic.Relation

/-!
# An item, its publisher and a subscriber

An owner keeps a list of items and lets subscribers come, listen and go. A publisher makes an item
visible and tells the subscribers of it, in two sections of their own. A subscriber that begins to
listen is told of the items that are visible; one that listens is told when a visible item goes. What
one subscriber is told of one item should be that it has appeared and then that it has vanished.

## The model

* `Watch` — one item, its publisher and one subscriber, with what the subscriber has been told.
* `Step` — what the owner does; `uncover` and `announce` — the two sections of the publisher.
* `depart`, `dismiss`, `release` — the withdrawal of an item in three parts, for an owner that lets the
  publisher go on in the meantime.
* `Move` — all of these, if nobody comes between the two sections whom the first has not found or must not lose.
* `Watch.Ok` — what the subscriber has been told is what it should have been told.

## What is proved

* `Ok.move` — it stays so, and then the notices are in order (`Ok.inOrder`).
* `move_gone` — nothing is said about an item that is gone.
-/

namespace Usbmuxd.Subscription

open Relation

/-- What a subscriber is told. -/
inductive Notice where
  | appeared
  | vanished
  deriving DecidableEq

/-- A subscriber: it has not come yet, has come, listens, or has gone. -/
inductive Subscriber where
  | absent
  | silent
  | listening
  | gone
  deriving DecidableEq

/-- An item: it is not there yet, is not ready, is ready but not visible, is visible, is being withdrawn, has been
withdrawn as far as the subscribers know, or is gone. -/
inductive Item where
  | unborn
  | waiting
  | hidden
  | shown
  | leaving (visible : Bool)
  | left
  | gone
  deriving DecidableEq

/-- Where the publisher is. Between its sections, whether the subscriber was listening at the first. -/
inductive Publisher where
  | idle
  | between (heard : Bool)
  | done
  deriving DecidableEq

/-- An item, its publisher and a subscriber. -/
@[ext]
structure Watch where
  subscriber : Subscriber
  item : Item
  /-- The publisher has been started. -/
  started : Bool
  publisher : Publisher
  notices : List Notice

/-- A notice for a subscriber that listens. -/
def Watch.tell (v : Watch) (notice : Notice) : List Notice :=
  v.notices ++ if v.subscriber = .listening then [notice] else []

/-! ### Steps -/

/-- The withdrawal of an item begins. -/
def Watch.depart (v : Watch) : Watch :=
  { v with item := match v.item with
    | .hidden => .leaving false
    | .shown => .leaving true
    | item => item }

/-- The subscribers are told of the withdrawal. -/
def Watch.dismiss (v : Watch) : Watch :=
  match v.item with
  | .leaving true => { v with item := .left, notices := v.tell .vanished }
  | .leaving false => { v with item := .left }
  | _ => v

/-- The withdrawal ends. -/
def Watch.release (v : Watch) : Watch := { v with item := if v.item = .left then .gone else v.item }

/-- What the owner does. -/
inductive Step : Watch → Watch → Prop where
  | accept (v : Watch) (h : v.subscriber = .absent) : Step v { v with subscriber := .silent }
  | leave (v : Watch) : Step v { v with subscriber := .gone }
  | listen (v : Watch) (h : v.subscriber = .silent) (hitem : v.item ≠ .leaving true) :
      Step v { v with
        subscriber := .listening
        notices := v.notices ++ if v.item = .shown then [.appeared] else [] }
  | add (v : Watch) (h : v.item = .unborn) : Step v { v with item := .waiting }
  | activate (v : Watch) (h : v.item = .waiting) : Step v { v with item := .hidden, started := true }
  | drop (v : Watch) (h : v.item = .waiting) : Step v { v with item := .gone }
  | withdraw (v : Watch) (h : v.item = .hidden ∨ v.item = .shown) : Step v v.depart.dismiss.release

/-- A sequence of such steps. -/
abbrev Steps : Watch → Watch → Prop := ReflTransGen Step

/-- The first section of the publisher. -/
def Watch.uncover (v : Watch) : Watch :=
  { v with
    item := if v.item = .hidden then .shown else v.item
    publisher := .between (v.subscriber = .listening) }

/-- The second section of the publisher. -/
def Watch.announce (v : Watch) : Watch := { v with publisher := .done, notices := v.tell .appeared }

/-- Nobody is between the sections whom the announcement would reach a second time, or after the item has gone. -/
def Watch.Announceable (v : Watch) : Prop :=
  v.subscriber = .listening → v.publisher = .between true ∧ (v.item = .shown ∨ v.item = .leaving true)

/-- The subscriber has found the item visible or will not be told of it. -/
def Watch.Dismissible (v : Watch) : Prop := v.subscriber = .listening → v.publisher ≠ .between true

/-- What the owner and the publisher do, one after the other. -/
inductive Move : Watch → Watch → Prop where
  | work {v v' : Watch} (hs : Steps v v') (hfair : v.item = .shown → v'.item = .gone → v.Dismissible) : Move v v'
  | uncover (v : Watch) (hstarted : v.started = true) (hidle : v.publisher = .idle)
      (hstays : v.item ≠ .leaving false) : Move v v.uncover
  | announce (v : Watch) (hrunning : v.publisher ≠ .idle) (hfair : v.Announceable) : Move v v.announce
  /-- A subscriber may have gone while the withdrawal begins. -/
  | depart (v : Watch) {subscriber : Subscriber} (h : subscriber = v.subscriber ∨ subscriber = .gone) :
      Move v (Watch.depart { v with subscriber })
  | dismiss (v : Watch) (hfair : v.item = .leaving true → v.Dismissible) : Move v v.dismiss
  | release (v : Watch) : Move v v.release

/-! ### What a subscriber should have been told -/

/-- What a subscriber that listens should have been told. -/
def Watch.Due (v : Watch) : Prop :=
  match v.item with
  | .unborn | .waiting | .hidden | .leaving false => v.notices = []
  | .shown | .leaving true => v.notices = if v.publisher = .between true then [] else [.appeared]
  | .left | .gone => v.notices = [] ∨ v.notices = [.appeared, .vanished]

/-- The subscriber has been told what it should have been told. -/
structure Watch.Ok (v : Watch) : Prop where
  started : v.started = true → v.item ≠ .unborn ∧ v.item ≠ .waiting
  running : v.publisher ≠ .idle → v.started = true
  visible : v.item = .shown ∨ v.item = .leaving true → v.publisher ≠ .idle
  invisible : v.item = .hidden ∨ v.item = .leaving false → v.publisher = .idle
  heard : v.publisher = .between true → v.subscriber = .listening ∨ v.subscriber = .gone
  silent : v.subscriber = .absent ∨ v.subscriber = .silent → v.notices = []
  due : v.subscriber = .listening → v.Due
  inOrder : v.notices <+: [.appeared, .vanished]

namespace Watch.Ok

variable {v v' : Watch}

/-- A change of the item alone. -/
theorem setItem (h : v.Ok) {item : Item} (hready : v.started = true → item ≠ .unborn ∧ item ≠ .waiting)
    (hvisible : item = .shown ∨ item = .leaving true → v.publisher ≠ .idle)
    (hinvisible : item = .hidden ∨ item = .leaving false → v.publisher = .idle)
    (hdue : v.subscriber = .listening → Due { v with item }) : Watch.Ok { v with item } :=
  ⟨hready, h.running, hvisible, hinvisible, h.heard, h.silent, hdue, h.inOrder⟩

/-- A subscriber that has been told of the item is told of its withdrawal. -/
theorem withdraw (h : v.Ok) (hitem : v.item = .leaving true) (hfair : v.Dismissible) :
    Watch.Ok { v with item := .left, notices := v.tell .vanished } := by
  have hdue : v.subscriber = .listening → v.notices = [.appeared] := by
    intro hlisten
    have hd := h.due hlisten
    unfold Due at hd
    rw [hitem] at hd
    simpa [hfair hlisten] using hd
  have hnotices : v.tell .vanished = if v.subscriber = .listening then [.appeared, .vanished] else v.notices := by
    unfold tell
    split
    · rename_i hlisten
      rw [hdue hlisten]
      rfl
    · exact List.append_nil _
  refine ⟨by simp, h.running, by simp, by simp, h.heard, fun hsilent => ?_, fun hlisten => ?_, ?_⟩
  · have hother : v.subscriber ≠ .listening := by
      intro heq
      simp [heq] at hsilent
    dsimp only
    rw [hnotices, if_neg hother]
    exact h.silent hsilent
  · unfold Due
    dsimp only
    rw [hnotices, if_pos hlisten]
    exact .inr rfl
  · dsimp only
    rw [hnotices]
    split
    · exact List.prefix_refl _
    · exact h.inOrder

/-- The withdrawal begins. -/
theorem depart (h : v.Ok) : v.depart.Ok := by
  unfold Watch.depart
  split
  · rename_i hitem
    refine h.setItem (by simp) (by simp) (fun _ => h.invisible (.inl hitem)) fun hlisten => ?_
    have hdue := h.due hlisten
    unfold Due at hdue
    rwa [hitem] at hdue
  · rename_i hitem
    refine h.setItem (by simp) (fun _ => h.visible (.inl hitem)) (by simp) fun hlisten => ?_
    have hdue := h.due hlisten
    unfold Due at hdue
    rwa [hitem] at hdue
  · exact h

/-- The subscribers are told of it, if the publisher does not owe them a notice. -/
theorem dismiss (h : v.Ok) (hfair : v.item = .leaving true → v.Dismissible) : v.dismiss.Ok := by
  unfold Watch.dismiss
  split
  · rename_i hitem
    exact h.withdraw hitem (hfair hitem)
  · rename_i hitem
    refine h.setItem (by simp) (by simp) (by simp) fun hlisten => .inl ?_
    have hdue := h.due hlisten
    unfold Due at hdue
    rwa [hitem] at hdue
  · exact h

/-- The withdrawal ends. -/
theorem release (h : v.Ok) : v.release.Ok := by
  unfold Watch.release
  split
  · rename_i hitem
    refine h.setItem (by simp) (by simp) (by simp) fun hlisten => ?_
    have hdue := h.due hlisten
    unfold Due at hdue
    rwa [hitem] at hdue
  · exact h

/-- A step of the owner. -/
theorem step (h : v.Ok) (hs : Step v v') (hfair : v.item = .shown → v'.item = .gone → v.Dismissible) : v'.Ok := by
  cases hs with
  | accept habsent =>
    have hnone := h.silent (.inl habsent)
    refine ⟨h.started, h.running, h.visible, h.invisible, fun hb => ?_, fun _ => hnone, nofun, h.inOrder⟩
    have hheard := h.heard hb
    simp [habsent] at hheard
  | leave => exact ⟨h.started, h.running, h.visible, h.invisible, fun _ => .inr rfl, by simp, nofun, h.inOrder⟩
  | listen hsilent hitem =>
    have hnone := h.silent (.inr hsilent)
    have hunheard : v.publisher ≠ .between true := by
      intro hb
      have hheard := h.heard hb
      simp [hsilent] at hheard
    refine ⟨h.started, h.running, h.visible, h.invisible, fun _ => .inl rfl, by simp, fun _ => ?_, ?_⟩
    · unfold Due
      dsimp only
      cases hi : v.item with
      | leaving visible =>
        cases visible with
        | true => exact absurd hi hitem
        | false => simp [hnone]
      | _ => simp [hnone, hunheard]
    · dsimp only
      rw [hnone]
      split
      · exact ⟨[.vanished], rfl⟩
      · exact List.nil_prefix
  | add hitem =>
    have hidle : v.publisher = .idle := by
      by_contra hne
      exact (h.started (h.running hne)).1 hitem
    refine ⟨fun hstarted => ?_, h.running, by simp, fun _ => hidle, h.heard, h.silent, fun hlisten => ?_, h.inOrder⟩
    · exact absurd hitem (h.started hstarted).1
    · have hdue := h.due hlisten
      unfold Due at hdue
      rwa [hitem] at hdue
  | activate hitem =>
    have hidle : v.publisher = .idle := by
      by_contra hne
      exact (h.started (h.running hne)).2 hitem
    refine ⟨by simp, fun _ => rfl, by simp, fun _ => hidle, h.heard, h.silent, fun hlisten => ?_, h.inOrder⟩
    have hdue := h.due hlisten
    unfold Due at hdue
    rwa [hitem] at hdue
  | drop hitem =>
    refine ⟨by simp, h.running, by simp, by simp, h.heard, h.silent, fun hlisten => .inl ?_, h.inOrder⟩
    have hdue := h.due hlisten
    unfold Due at hdue
    rwa [hitem] at hdue

  | withdraw hitem =>
    refine (h.depart.dismiss fun hleaving => ?_).release
    obtain hitem | hitem := hitem
    · simp [Watch.depart, hitem] at hleaving
    · exact hfair hitem (by simp [Watch.depart, Watch.dismiss, Watch.release, hitem])

end Watch.Ok

/-- What the steps of the owner leave alone, seen from where they start. -/
structure Since (v v' : Watch) : Prop where
  publisher : v'.publisher = v.publisher
  shown : v'.item = .shown → v.item = .shown
  gone : v.subscriber = .gone → v'.subscriber = .gone

section Steps

variable {u v v' : Watch}

theorem withdrawn_eq (h : v.item = .hidden ∨ v.item = .shown) :
    v.depart.dismiss.release =
      { v with item := .gone, notices := if v.item = .shown then v.tell .vanished else v.notices } := by
  obtain h | h := h <;> simp [Watch.depart, Watch.dismiss, Watch.release, Watch.tell, h]

theorem Since.step (h : Since v u) (hs : Step u v') : Since v v' := by
  cases hs with
  | accept habsent =>
    refine ⟨h.publisher, h.shown, fun hgone => ?_⟩
    rw [h.gone hgone] at habsent
    cases habsent
  | leave => exact ⟨h.publisher, h.shown, fun _ => rfl⟩
  | listen hsilent =>
    refine ⟨h.publisher, h.shown, fun hgone => ?_⟩
    rw [h.gone hgone] at hsilent
    cases hsilent
  | add => exact ⟨h.publisher, nofun, h.gone⟩
  | activate => exact ⟨h.publisher, nofun, h.gone⟩
  | drop => exact ⟨h.publisher, nofun, h.gone⟩
  | withdraw hitem =>
    rw [withdrawn_eq hitem]
    exact ⟨h.publisher, nofun, h.gone⟩

/-- Nothing becomes of an item that is gone, and nothing is said about it. -/
theorem step_gone (hitem : v.item = .gone) (hs : Step v v') : v'.item = .gone ∧ v'.notices = v.notices := by
  cases hs with
  | accept => exact ⟨hitem, rfl⟩
  | leave => exact ⟨hitem, rfl⟩
  | listen => simp [hitem]
  | add h => cases h.symm.trans hitem
  | activate h => cases h.symm.trans hitem
  | drop h => cases h.symm.trans hitem
  | withdraw h => simp [hitem] at h

theorem steps_gone (hitem : v.item = .gone) (hs : Steps v v') : v'.item = .gone ∧ v'.notices = v.notices := by
  induction hs with
  | refl => exact ⟨hitem, rfl⟩
  | tail _ hstep ih =>
    obtain ⟨hgone, hnotices⟩ := step_gone ih.1 hstep
    exact ⟨hgone, hnotices.trans ih.2⟩

/-- A subscriber may go. -/
theorem steps_leave {subscriber : Subscriber} (h : subscriber = v.subscriber ∨ subscriber = .gone) :
    Steps v { v with subscriber } := by
  obtain rfl | rfl := h
  · exact .refl
  · exact .single (.leave v)

/-- An item may come, and may go at once. -/
theorem steps_add {item : Item} (h : v.item = .unborn) (hitem : item = .waiting ∨ item = .gone) :
    Steps v { v with item } := by
  have hadd := Step.add v h
  obtain rfl | rfl := hitem
  · exact .single hadd
  · exact .tail (.single hadd) (.drop _ rfl)

end Steps

namespace Watch.Ok

variable {v v' : Watch}

/-- The steps of the owner, if they do not withdraw the item from a subscriber that the publisher still owes a notice. -/
theorem steps (h : v.Ok) (hs : Steps v v') (hfair : v.item = .shown → v'.item = .gone → v.Dismissible) : v'.Ok := by
  suffices hall : Since v v' ∧ (v'.Ok ∨ v.item = .shown ∧ v'.item = .gone ∧ ¬ v.Dismissible) by
    obtain ⟨-, hok | ⟨hshown, hgone, hunfair⟩⟩ := hall
    · exact hok
    · exact absurd (hfair hshown hgone) hunfair
  clear hfair
  induction hs with
  | refl => exact ⟨⟨rfl, id, id⟩, .inl h⟩
  | @tail u u' _ hstep ih =>
    obtain ⟨hsince, hok | ⟨hshown, hgone, hunfair⟩⟩ := ih
    · refine ⟨hsince.step hstep, ?_⟩
      by_cases hfair : u.item = .shown → u'.item = .gone → u.Dismissible
      · exact .inl (hok.step hstep hfair)
      · -- the item is withdrawn from a subscriber that was heard, and that has listened all the time
        simp only [Dismissible, not_forall, not_not] at hfair
        obtain ⟨hshown, hgone, hlisten, hbetween⟩ := hfair
        refine .inr ⟨hsince.shown hshown, hgone, fun hfair => ?_⟩
        rw [hsince.publisher] at hbetween
        obtain hlisten' | hgone' := h.heard hbetween
        · exact hfair hlisten' hbetween
        · rw [hsince.gone hgone'] at hlisten
          cases hlisten
    · exact ⟨hsince.step hstep, .inr ⟨hshown, (step_gone hgone hstep).1, hunfair⟩⟩

/-- The first section of the publisher. -/
theorem uncover (h : v.Ok) (hstarted : v.started = true) (hidle : v.publisher = .idle) (hstays : v.item ≠ .leaving false) :
    v.uncover.Ok := by
  have hready := h.started hstarted
  have hseen : v.item ≠ .shown ∧ v.item ≠ .leaving true :=
    ⟨fun hi => h.visible (.inl hi) hidle, fun hi => h.visible (.inr hi) hidle⟩
  have hitem : v.uncover.item ≠ .unborn ∧ v.uncover.item ≠ .waiting ∧ v.uncover.item ≠ .hidden ∧
      v.uncover.item ≠ .leaving false := by
    dsimp only [Watch.uncover]
    split
    · decide
    · rename_i hhidden
      exact ⟨hready.1, hready.2, hhidden, hstays⟩
  refine ⟨fun _ => ⟨hitem.1, hitem.2.1⟩, fun _ => hstarted, fun _ => by simp [Watch.uncover], fun hhidden => ?_,
    fun hheard => .inl ?_, h.silent, fun hlisten => ?_, h.inOrder⟩
  · obtain hhidden | hleaving := hhidden
    · exact absurd hhidden hitem.2.2.1
    · exact absurd hleaving hitem.2.2.2
  · simpa [Watch.uncover] using hheard
  · have hlisten' : v.subscriber = .listening := hlisten
    have hdue := h.due hlisten'
    unfold Due at hdue ⊢
    dsimp only [Watch.uncover]
    cases hi : v.item with
    | hidden =>
      rw [hi] at hdue
      simpa [hlisten'] using hdue
    | left =>
      rw [hi] at hdue
      simpa using hdue
    | gone =>
      rw [hi] at hdue
      simpa using hdue
    | unborn => exact absurd hi hready.1
    | waiting => exact absurd hi hready.2
    | shown => exact absurd hi hseen.1
    | leaving visible =>
      cases visible with
      | true => exact absurd hi hseen.2
      | false => exact absurd hi hstays

/-- The second section of the publisher. -/
theorem announce (h : v.Ok) (hstarted : v.publisher ≠ .idle) (hfair : v.Announceable) : v.announce.Ok := by
  have hnotices : v.tell .appeared = if v.subscriber = .listening then [.appeared] else v.notices := by
    unfold tell
    split
    · rename_i hlisten
      obtain ⟨hbetween, hitem⟩ := hfair hlisten
      have hdue := h.due hlisten
      unfold Due at hdue
      obtain hitem | hitem := hitem
      · rw [hitem] at hdue
        simp [hdue, hbetween]
      · rw [hitem] at hdue
        simp [hdue, hbetween]
    · exact List.append_nil _
  refine ⟨h.started, fun _ => h.running hstarted, by simp [Watch.announce], fun hhidden => ?_, by simp [Watch.announce],
    fun hsilent => ?_, fun hlisten => ?_, ?_⟩
  · exact absurd (h.invisible hhidden) hstarted
  · have hother : v.subscriber ≠ .listening := by
      intro heq
      simp [Watch.announce, heq] at hsilent
    exact hnotices.trans ((if_neg hother).trans (h.silent hsilent))
  · have hitem := (hfair hlisten).2
    unfold Due
    dsimp only [Watch.announce]
    rw [hnotices, if_pos (show v.subscriber = .listening from hlisten)]
    obtain hitem | hitem := hitem <;> simp [hitem]
  · dsimp only [Watch.announce]
    rw [hnotices]
    split
    · exact ⟨[.vanished], rfl⟩
    · exact h.inOrder

/-- Whatever is done, the subscriber has been told what it should have been told. -/
theorem move (h : v.Ok) (hm : Move v v') : v'.Ok := by
  cases hm with
  | work hs hfair => exact h.steps hs hfair
  | uncover hstarted hidle hstays => exact h.uncover hstarted hidle hstays
  | announce hrunning hfair => exact h.announce hrunning hfair
  | depart hsubscriber =>
    refine depart (h.steps (steps_leave hsubscriber) fun hshown hgone => ?_)
    cases hshown.symm.trans hgone
  | dismiss hfair => exact h.dismiss hfair
  | release => exact h.release

end Watch.Ok

/-- An item that is gone stays so, and nothing is said about it. -/
theorem move_gone {v v' : Watch} (hitem : v.item = .gone) (hm : Move v v') :
    v'.item = .gone ∧ v'.notices = v.notices := by
  cases hm with
  | work hs => exact steps_gone hitem hs
  | uncover => simp [Watch.uncover, hitem]
  | announce _ hfair =>
    refine ⟨hitem, ?_⟩
    unfold Watch.announce Watch.tell
    split
    · rename_i hlisten
      obtain ⟨-, hitem'⟩ := hfair hlisten
      simp [hitem] at hitem'
    · exact List.append_nil _
  | depart => simp [Watch.depart, hitem]
  | dismiss => simp [Watch.dismiss, hitem]
  | release => simp [Watch.release, hitem]

end Usbmuxd.Subscription
