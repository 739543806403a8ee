import Usbmuxd.Foundation.Exchange
import Usbmuxd.Registry.Teardown
import Usbmuxd.Runs.Upheld

/-!
# What a client has been answered

A message to a client is a reply or a notification, and behind a notification there is an entry of
its own in the log. The reply to a `Connect` that has started a connection is put off: it is queued
when the device has answered, or when the connection is torn down.

## The model

* `World.replies` — the tags of the replies that have been queued to a client.
* `MuxClient.waiting` — the tag of the `Connect` whose reply has been put off.
* `Still c w w'` — nothing has happened that concerns the replies to the client `c`.
* `Owing env c asked due w` — each reply to the client is to a request of its own among `asked`, and
  with memory to be had a client that is not being closed has all the replies that are `due`, but for
  the one that has been put off.

## What is proved

* `sent_sendResult` — a reply is queued, or nothing is.
* `upheld_owed` — all that the daemon does between the commands of a client keeps `Owing`.
-/

namespace Usbmuxd

open World

/-! ### Replies -/

/-- The tag of a message to a client. -/
def Event.messageTag (c : Ptr) : Event → Option UInt32
  | .queued c' tag _ _ => if c' = c then some tag else none
  | _ => none

/-- The entry behind a message that says it was a notification. -/
def Event.isNoticeTo (c : Ptr) : Event → Bool
  | .attached c' _ | .detached c' _ | .pairing c' _ _ => c' == c
  | _ => false

/-- The tags of the replies that have been queued to a client. -/
def World.replies (w : World) (c : Ptr) : List UInt32 := unmarked (·.messageTag c) (·.isNoticeTo c) w.log

/-- The tag of the `Connect` that has not been answered yet. -/
def MuxClient.waiting (client : MuxClient) : Option UInt32 :=
  if client.state = .connecting1 then some client.connectTag else none

/-- The requests of a client and its replies. -/
def World.exchange (w : World) (c : Ptr) (asked : List UInt32) : Exchange UInt32 :=
  ⟨asked, w.replies c, (w.clients c).waiting⟩

/-- A client has been accepted, and is not being closed. -/
structure World.Open (w : World) (c : Ptr) : Prop where
  born : .newClient c ∈ w.log
  alive : (w.clients c).state ≠ .dead
  held : .freeClient c ∉ w.log

/-- Nothing has happened that concerns the replies to a client. -/
structure Still (c : Ptr) (w w' : World) : Prop where
  state : (w'.clients c).state = (w.clients c).state
  connectTag : (w'.clients c).connectTag = (w.clients c).connectTag
  armed : (w.clients c).Armed → (w'.clients c).Armed
  replies : w'.replies c = w.replies c
  born : .newClient c ∈ w'.log → .newClient c ∈ w.log
  freed : .freeClient c ∈ w.log → .freeClient c ∈ w'.log

/-- The client has no reply that it has not asked for, and has those that are due. -/
structure Owing (env : Env) (c : Ptr) (asked due : List UInt32) (w : World) : Prop where
  within : (w.exchange c asked).Within
  even : env.Reliable → w.Open c → (w.clients c).Armed ∧ (w.exchange c due).Even

/-- An entry that is neither a message to a client nor a notice behind one, and does not accept it. -/
def Event.isMute (c : Ptr) : Event → Bool
  | .queued c' .. | .attached c' _ | .detached c' _ | .pairing c' _ _ | .newClient c' => c' != c
  | _ => true

section StillLemmas

variable {env : Env} {w w' w'' : World} {c c' : Ptr}

theorem Still.refl (c : Ptr) (w : World) : Still c w w := ⟨rfl, rfl, id, rfl, id, id⟩

theorem Still.trans (h : Still c w w') (h' : Still c w' w'') : Still c w w'' :=
  ⟨h'.state.trans h.state, h'.connectTag.trans h.connectTag, fun harmed => h'.armed (h.armed harmed),
    h'.replies.trans h.replies, fun hborn => h.born (h'.born hborn), fun hfreed => h'.freed (h.freed hfreed)⟩

theorem Still.waiting (h : Still c w w') : (w'.clients c).waiting = (w.clients c).waiting := by
  rw [MuxClient.waiting, MuxClient.waiting, h.state, h.connectTag]

theorem Still.exchange (h : Still c w w') (asked : List UInt32) : w'.exchange c asked = w.exchange c asked := by
  rw [World.exchange, World.exchange, h.replies, h.waiting]

theorem Still.open (h : Still c w w') (hopen : w'.Open c) : w.Open c :=
  ⟨h.born hopen.born, h.state ▸ hopen.alive, fun hfreed => hopen.held (h.freed hfreed)⟩

theorem Owing.still {asked due : List UInt32} (hw : Owing env c asked due w) (h : Still c w w') :
    Owing env c asked due w' where
  within := h.exchange asked ▸ hw.within
  even hrel hopen := by
    obtain ⟨harmed, heven⟩ := hw.even hrel (h.open hopen)
    exact ⟨h.armed harmed, h.exchange due ▸ heven⟩

theorem Event.mute_spec {e : Event} (h : e.isMute c = true) :
    e.messageTag c = none ∧ e.isNoticeTo c = false ∧ e ≠ .newClient c := by
  cases e <;> simp_all [isMute, messageTag, isNoticeTo]

/-- What is mute is no reply. -/
theorem replies_of_grows (h : w.Grows (Event.isMute c) w') : w'.replies c = w.replies c := by
  obtain ⟨es, hlog, hes⟩ := h
  have hnothing : unmarked (·.messageTag c) (·.isNoticeTo c) es = [] :=
    unmarked_nothing fun e he => (Event.mute_spec (hes e he)).1
  rw [World.replies, hlog, unmarked_append, hnothing, List.append_nil]
  · rfl
  · cases es with
    | nil => rfl
    | cons e es => exact (Event.mute_spec (hes e List.mem_cons_self)).2.1

/-- The log grows by what is mute, and the client stays what it is. -/
theorem Still.grows (h : w.Grows (Event.isMute c) w') (hstate : (w'.clients c).state = (w.clients c).state)
    (htag : (w'.clients c).connectTag = (w.clients c).connectTag)
    (harmed : (w.clients c).Armed → (w'.clients c).Armed) : Still c w w' where
  state := hstate
  connectTag := htag
  armed := harmed
  replies := replies_of_grows h
  born := h.old (by simp [Event.isMute])
  freed := h.mem

theorem Event.isMute_of_ofConn (e : Event) (h : e.ofConn = true) : e.isMute c = true := by
  cases e <;> simp_all [ofConn, isMute]

theorem Still.conn (c : Ptr) (h : ConnWork w w') : Still c w w' :=
  .grows (h.log.mono Event.isMute_of_ofConn) (by rw [h.clients]) (by rw [h.clients]) (by rw [h.clients]; exact id)

theorem Still.emit {e : Event} (h : e.isMute c = true) (w : World) : Still c w (w.emit e) :=
  .grows (.one rfl h) rfl rfl id

/-- What is done to another client. -/
theorem Still.setClient_other (hne : c' ≠ c) (f : MuxClient → MuxClient) : Still c w (w.setClient c' f) := by
  have hsame : (w.setClient c' f).clients c = w.clients c := by
    rw [setClient_clients, Function.update_of_ne hne.symm]
  exact .grows (.none rfl) (by rw [hsame]) (by rw [hsame]) (by rw [hsame]; exact id)

/-- A change of a client that leaves what it has asked for alone. -/
theorem Still.setClient {f : MuxClient → MuxClient} (hstate : (f (w.clients c')).state = (w.clients c').state)
    (htag : (f (w.clients c')).connectTag = (w.clients c').connectTag)
    (harmed : (w.clients c').Armed → (f (w.clients c')).Armed) : Still c w (w.setClient c' f) := by
  by_cases hne : c' = c
  · subst hne
    have hself : (w.setClient c' f).clients c' = f (w.clients c') := by
      rw [setClient_clients, Function.update_self]
    exact .grows (.none rfl) (by rw [hself, hstate]) (by rw [hself, htag]) (by rw [hself]; exact harmed)
  · exact .setClient_other hne f

theorem Still.setClient_same {f : MuxClient → MuxClient} (hf : ∀ cl, (f cl).standing = cl.standing) :
    Still c w (w.setClient c' f) := by
  have hsame := hf (w.clients c')
  refine .setClient (congrArg Standing.state hsame) (congrArg Standing.connectTag hsame) fun harmed hnone => ?_
  have hstate : (f (w.clients c')).state = (w.clients c').state := congrArg Standing.state hsame
  have hbuf : (f (w.clients c')).obBuf = (w.clients c').obBuf := congrArg Standing.obBuf hsame
  rw [hstate]
  exact harmed (hbuf ▸ hnone)

theorem Still.enlargeOutBuffer (env : Env) (c c' : Ptr) (length : UInt32) (w : World) :
    Still c w (enlargeOutBuffer env c' length w).1 := by
  unfold Usbmuxd.enlargeOutBuffer
  dsimp only
  split
  · split
    · dsimp only
      exact (Still.conn c (.tock w)).trans (.setClient rfl rfl fun _ hnone => absurd hnone (by simp))
    · exact .conn c (.tock w)
  · exact .refl c w

/-! ### Messages -/

/-- What a function that queues a message does: it has queued the message, or nothing. -/
inductive Sent (c : Ptr) (tag : UInt32) (w : World) : World × Bool → Prop where
  | queued {v : World} {msg : MsgType} {payload : List UInt8} (h : ∀ x, Still x w v)
      (hbuf : (v.clients c).obBuf ≠ none) : Sent c tag w (v.emit (.queued c tag msg payload), true)
  | failed {v : World} (h : ∀ x, Still x w v) : Sent c tag w (v, false)

theorem Sent.after {tag : UInt32} {v : World} {r : World × Bool} (hv : ∀ x, Still x w v) (h : Sent c tag v r) :
    Sent c tag w r := by
  cases h with
  | queued h hbuf => exact .queued (fun x => (hv x).trans (h x)) hbuf
  | failed h => exact .failed fun x => (hv x).trans (h x)

theorem sent_sendPkt (env : Env) (c : Ptr) (tag : UInt32) (msg : MsgType) (payload : List UInt8) (w : World) :
    Sent c tag w (sendPkt env c tag msg payload w) := by
  have hroom := fun x => Still.enlargeOutBuffer env x c (usbmuxdHeaderSize + UInt32.ofNat payload.length) w
  unfold sendPkt
  dsimp only
  generalize enlargeOutBuffer env c (usbmuxdHeaderSize + UInt32.ofNat payload.length) w = r at hroom
  split
  · split
    · exact .failed fun x => (hroom x).trans (.emit rfl _)
    · refine .queued (fun x => (hroom x).trans (.setClient rfl rfl fun _ hnone => absurd hnone (by simp))) ?_
      simp
  · rename_i hfailed
    obtain ⟨v, ok⟩ := r
    obtain rfl : ok = false := by simpa using hfailed
    exact .failed hroom

theorem sent_sendPlistPkt (env : Env) (c : Ptr) (tag : UInt32) (plist : Plist) (w : World) :
    Sent c tag w (sendPlistPkt env c tag plist w) := by
  unfold sendPlistPkt
  split
  · exact .failed fun x => .conn x (.tock w)
  · exact (sent_sendPkt ..).after fun x => .conn x (.tock w)

theorem sent_sendResult (env : Env) (c : Ptr) (tag result : UInt32) (w : World) :
    Sent c tag w (sendResult env c tag result w) := by
  unfold sendResult
  split
  · exact sent_sendPlistPkt ..
  · exact sent_sendPkt ..

/-- A message is no reply to another client. -/
theorem Sent.other {tag : UInt32} {r : World × Bool} (h : Sent c tag w r) (hne : c ≠ c') : Still c' w r.1 := by
  cases h with
  | queued h => exact (h c').trans (.emit (by simpa [Event.isMute] using hne) _)
  | failed h => exact h c'

/-- A message with its notice behind it is no reply. -/
theorem Sent.notified {tag : UInt32} {r : World × Bool} (h : Sent c tag w r) {e : Event}
    (hnotice : e.isNoticeTo c = true) (hother : ∀ x, x ≠ c → e.isMute x = true) :
    Still c' w (if r.2 then (r.1.emit e, true) else r).1 := by
  cases h with
  | @queued v msg payload h hbuf =>
    rw [if_pos rfl]
    by_cases hne : c' = c
    · subst hne
      refine (h c').trans ⟨rfl, rfl, id, ?_, fun hborn => ?_, fun hfreed => ?_⟩
      · have hnone : e.messageTag c' = none := by cases e <;> simp_all [Event.isNoticeTo, Event.messageTag]
        have hlog : ((v.emit (.queued c' tag msg payload)).emit e).log = v.log ++ [.queued c' tag msg payload, e] := by
          simp
        rw [World.replies, hlog, unmarked_append (by rfl)]
        simp [unmarked, hnotice, hnone, World.replies]
      · have hnew : e ≠ .newClient c' := by rintro rfl; cases hnotice
        simpa [hnew.symm] using hborn
      · simp [hfreed]
    · have hmute : Event.isMute c' (.queued c tag msg payload) = true := by simpa [Event.isMute] using Ne.symm hne
      exact ((h c').trans (.emit hmute _)).trans (.emit (hother c' hne) _)
  | failed h => exact h c'

theorem Still.notifyDeviceAdd (env : Env) (c c' : Ptr) (info : DeviceInfo) (w : World) :
    Still c w (notifyDeviceAdd env c' info w).1 := by
  unfold Usbmuxd.notifyDeviceAdd
  dsimp only
  generalize hr : (if (w.clients c').protoVersion = 1 then _ else _ : World × Bool) = r
  have hsent : Sent c' 0 w r := by
    subst hr
    split
    · exact sent_sendPlistPkt ..
    · exact sent_sendPkt ..
  exact hsent.notified (by simp [Event.isNoticeTo]) fun x hne => by simpa [Event.isMute] using Ne.symm hne

theorem Still.notifyDeviceRemove (env : Env) (c c' : Ptr) (id : ℕ) (w : World) :
    Still c w (notifyDeviceRemove env c' id w).1 := by
  unfold Usbmuxd.notifyDeviceRemove
  dsimp only
  generalize hr : (if (w.clients c').protoVersion = 1 then _ else _ : World × Bool) = r
  have hsent : Sent c' 0 w r := by
    subst hr
    split
    · exact sent_sendPlistPkt ..
    · exact sent_sendPkt ..
  exact hsent.notified (by simp [Event.isNoticeTo]) fun x hne => by simpa [Event.isMute] using Ne.symm hne

theorem Still.announceDevice (env : Env) (c : Ptr) (info : DeviceInfo) (w : World) :
    Still c w (announceDevice env info w) := by
  refine forEach_keeps (P := Still c w) (fun c' v _ hv => ?_) _ _ (.refl c w)
  split
  · exact hv.trans (.notifyDeviceAdd ..)
  · exact hv

theorem Still.clientDeviceRemove (env : Env) (c : Ptr) (id : ℕ) (w : World) :
    Still c w (clientDeviceRemove env id w) := by
  refine forEach_keeps (P := Still c w) (fun c' v _ hv => ?_) _ _ (.refl c w)
  split
  · exact hv.trans (.notifyDeviceRemove ..)
  · exact hv

theorem Still.clientDevicePairingEvent (env : Env) (c : Ptr) (info : DeviceInfo) (event : PairingEvent)
    (validate : Bool) (w : World) : Still c w (clientDevicePairingEvent env info event validate w) := by
  unfold Usbmuxd.clientDevicePairingEvent
  split
  · refine forEach_keeps (P := Still c w) (fun c' v _ hv => ?_) _ _ (.refl c w)
    split
    · have hsent := sent_sendPlistPkt env c' 0 (devicePairingEventPlist info event) v
      have htold := @Sent.notified v c' c 0 _ hsent (.pairing c' info.id event) (by simp [Event.isNoticeTo])
        fun x hne => by simpa [Event.isMute] using Ne.symm hne
      rw [apply_ite Prod.fst] at htold
      exact hv.trans htold
    · exact hv
  · exact .refl c w

theorem Still.notifyAll (env : Env) (c c' : Ptr) (infos : List DeviceInfo) (w : World) :
    Still c w (notifyAll env c' infos w) := by
  induction infos generalizing w with
  | nil => exact .refl c w
  | cons info rest ih =>
    have htold := Still.notifyDeviceAdd env c c' info w
    unfold Usbmuxd.notifyAll
    dsimp only
    split
    · exact htold.trans (ih _)
    · exact htold

/-! ### Devices -/

theorem Still.setDev (c d : Ptr) (f : MuxDevice → MuxDevice) (w : World) : Still c w (w.setDev d f) :=
  .grows (.none rfl) rfl rfl id

theorem Still.releaseDev (c d : Ptr) (w : World) : Still c w (releaseDev d w) := .grows (.one rfl rfl) rfl rfl id

theorem Still.deviceVersionInput (env : Env) (c d : Ptr) (vh : VersionHeader) (w : World) :
    Still c w (deviceVersionInput env d vh w) := by
  have hcall := Still.emit (c := c) (e := .versionInput d vh) rfl w
  unfold Usbmuxd.deviceVersionInput
  dsimp only
  split
  · exact hcall
  · split
    · exact hcall.trans (.releaseDev c d _)
    · have hversion := hcall.trans (.setDev c d (fun dev => { dev with version := vh.major.toNat }) _)
      refine Still.trans (.trans (.trans ?_ (.setDev ..)) (.emit rfl _)) (.setDev ..)
      split
      · exact hversion.trans (.conn c (.sendPacket ..))
      · exact hversion

theorem Still.deviceAdd (env : Env) (c : Ptr) (u : UsbDevice) (w : World) : Still c w (deviceAdd env u w) := by
  have hnew : Still c w (allocDev u (getNextDeviceId w) w) := .grows (.none rfl) rfl rfl id
  have hsent := hnew.trans (.conn c (.sendPacket env _ w.fresh .version (VersionHeader.bytes ⟨1, 0, 0⟩) []))
  unfold Usbmuxd.deviceAdd
  dsimp only
  split
  · exact hsent.trans (.grows (.none rfl) rfl rfl id)
  · exact hsent.trans (.emit rfl _)

end StillLemmas

/-! ### Between the commands -/

/-- The client owes, and if it is settled it waits for nothing. -/
structure Owed (env : Env) (c : Ptr) (asked due : List UInt32) (settled : Prop) (w : World) : Prop extends
    Owing env c asked due w where
  settled : settled → (w.clients c).state = .command

section Owed

variable {env : Env} {w w' : World} {c : Ptr} {asked due : List UInt32} {settled : Prop}

theorem Owed.still (hw : Owed env c asked due settled w) (h : Still c w w') : Owed env c asked due settled w' :=
  ⟨hw.toOwing.still h, fun hsettled => h.state.trans (hw.settled hsettled)⟩

theorem waiting_none (h : (w.clients c).state ≠ .connecting1) : (w.clients c).waiting = none := if_neg h

theorem exchange_none (h : (w.clients c).state ≠ .connecting1) (asked : List UInt32) :
    w.exchange c asked = ⟨asked, w.replies c, none⟩ := by
  rw [World.exchange, waiting_none h]

theorem exchange_some (h : (w.clients c).state = .connecting1) (asked : List UInt32) :
    w.exchange c asked = ⟨asked, w.replies c, some (w.clients c).connectTag⟩ := by
  rw [World.exchange, MuxClient.waiting, if_pos h]

/-- A client that is being closed has only to have no reply too many. -/
theorem Owing.closed (hwithin : (w.exchange c asked).Within) (hclosed : ¬ w.Open c) : Owing env c asked due w :=
  ⟨hwithin, fun _ hopen => absurd hopen hclosed⟩

theorem replies_queued (w : World) (c : Ptr) (tag : UInt32) (msg : MsgType) (payload : List UInt8) :
    (w.emit (.queued c tag msg payload)).replies c = w.replies c ++ [tag] := by
  rw [World.replies, emit_log, unmarked_append (by rfl)]
  simp [unmarked, Event.messageTag, World.replies]

/-- The `Connect` of a client is answered. -/
theorem Owed.settle {result : UInt32} (hw : Owed env c asked due settled w) (hstate : (w.clients c).state = .connecting1)
    {f : MuxClient → MuxClient} (hf : ∀ cl, (f cl).state ≠ .connecting1 ∧ (f cl).state ≠ .dead ∧ (f cl).obBuf = cl.obBuf) :
    let r := sendResult env c (w.clients c).connectTag result w
    Owed env c asked due settled (if r.2 then r.1.setClient c f else r.1) := by
  have hunsettled : ¬ settled := fun hsettled => by simpa [hstate] using hw.settled hsettled
  have hsent := sent_sendResult env c (w.clients c).connectTag result w
  dsimp only
  have hreliable := fun hrel hbuf => @sendResult_reliable env w c hrel hbuf (w.clients c).connectTag result
  generalize sendResult env c (w.clients c).connectTag result w = r at hsent hreliable
  cases hsent with
  | failed h => exact hw.still (h c)
  | @queued v msg payload h hbuf =>
    rw [if_pos rfl]
    have hv := hw.still (h c)
    have hstate' : (v.clients c).state = .connecting1 := (h c).state.trans hstate
    have hself : ((v.emit (.queued c (w.clients c).connectTag msg payload)).setClient c f).clients c = f (v.clients c) := by
      rw [setClient_clients, Function.update_self]
      rfl
    obtain ⟨hnext, halive, hsame⟩ := hf (v.clients c)
    have hexchange : ∀ tags, ((v.emit (.queued c (w.clients c).connectTag msg payload)).setClient c f).exchange c tags =
        ⟨tags, v.replies c ++ [(v.clients c).connectTag], none⟩ := by
      intro tags
      rw [exchange_none (by rw [hself]; exact hnext), (h c).connectTag]
      exact congrArg (fun replies => (⟨tags, replies, none⟩ : Exchange UInt32)) (replies_queued ..)
    refine ⟨⟨?_, fun hrel hopen => ⟨fun hnone => ?_, ?_⟩⟩, fun hsettled => absurd hsettled hunsettled⟩
    · rw [hexchange]
      exact Exchange.Within.settle (exchange_some hstate' asked ▸ hv.within)
    · rw [hself, hsame] at hnone
      exact absurd hnone hbuf
    · rw [hexchange]
      refine Exchange.Even.settle (exchange_some hstate' due ▸ (hv.even hrel ⟨?_, ?_, ?_⟩).2)
      · simpa using hopen.born
      · rw [hstate']
        nofun
      · exact fun hfreed => hopen.held (by simp [hfreed])

theorem Owed.clientNotifyConnect (hw : Owed env c asked due settled w) (c' : Ptr) (result : UInt32) :
    Owed env c asked due settled (clientNotifyConnect env c' result w).1 := by
  unfold Usbmuxd.clientNotifyConnect
  split
  · exact hw
  · rename_i hstate
    replace hstate := not_not.mp hstate
    by_cases hne : c' = c
    · subst hne
      have hok := @Owed.settle env w c' asked due settled result hw hstate
        (fun cl => { cl with state := .connecting2, events := ⟨false, true⟩, ibBuf := none }) fun _ => by simp
      have hrefused := @Owed.settle env w c' asked due settled result hw hstate
        (fun cl => { cl with state := .command }) fun _ => by simp
      dsimp only at hok hrefused ⊢
      split
      · rename_i hsent
        rw [if_pos hsent] at hok hrefused
        split
        · exact hok
        · exact hrefused
      · rename_i hsent
        rwa [if_neg hsent] at hok
    · have hsent := (sent_sendResult env c' (w.clients c').connectTag result w).other hne
      have hafter := hw.still hsent
      dsimp only
      split
      · split
        · dsimp only
          exact hafter.still (.setClient_other hne _)
        · dsimp only
          exact hafter.still (.setClient_other hne _)
      · exact hafter

theorem Owed.dead (hw : Owed env c asked due settled w) (c' : Ptr)
    (hstate : (w.clients c').state = .connecting1 ∨ (w.clients c').state = .connecting2) :
    Owed env c asked due settled (w.setClient c' fun cl => { cl with state := .dead }) := by
  by_cases hne : c' = c
  · subst hne
    have hdead : ((w.setClient c' fun cl => { cl with state := .dead }).clients c').state = .dead := by simp
    refine ⟨.closed ?_ fun hopen => hopen.alive hdead, fun hsettled => ?_⟩
    · rw [exchange_none (ne_of_eq_of_ne hdead (by decide))]
      exact Exchange.Within.abandon hw.within
    · rw [hw.settled hsettled] at hstate
      simp at hstate
  · exact hw.still (.setClient_other hne _)

theorem Owed.afterSend (hw : Owed env c asked due settled w) (c' : Ptr) (size : ℕ) :
    Owed env c asked due settled (w.setClient c' (·.afterSend size)) := by
  by_cases hne : c' = c
  · subst hne
    by_cases hstate : (w.clients c').state = .connecting2
    · -- the reply has been sent, and the client may be connected with it
      have hafter : ((w.clients c').afterSend size).state = .connecting2 ∨
          ((w.clients c').afterSend size).state = .connected := by
        unfold MuxClient.afterSend
        split_ifs
        · exact .inr rfl
        · exact .inl hstate
      have hself : (w.setClient c' (·.afterSend size)).clients c' = (w.clients c').afterSend size := by
        rw [setClient_clients, Function.update_self]
      have hexchange : ∀ tags, (w.setClient c' (·.afterSend size)).exchange c' tags = w.exchange c' tags := by
        intro tags
        have hbefore := @exchange_none w c' (ne_of_eq_of_ne hstate (by decide)) tags
        have hnext := @exchange_none (w.setClient c' (·.afterSend size)) c' (by
          rw [hself]
          obtain h | h := hafter <;> rw [h] <;> nofun) tags
        rw [hbefore, hnext]
        rfl
      refine ⟨⟨hexchange asked ▸ hw.within, fun hrel hopen => ?_⟩, fun hsettled => ?_⟩
      · obtain ⟨harmed, heven⟩ := hw.even hrel ⟨hopen.born, ne_of_eq_of_ne hstate (by decide), hopen.held⟩
        exact ⟨hself ▸ harmed.afterSend size, hexchange due ▸ heven⟩
      · simpa [hstate] using hw.settled hsettled
    · refine hw.still (.setClient ?_ ?_ fun harmed => harmed.afterSend size)
      · unfold MuxClient.afterSend
        simp only [if_neg hstate]
        split <;> rfl
      · unfold MuxClient.afterSend
        simp only [if_neg hstate]
        split <;> rfl
  · exact hw.still (.setClient_other hne _)

theorem Owed.releaseClient (hw : Owed env c asked due settled w) (c' : Ptr) :
    Owed env c asked due settled (releaseClient c' w) :=
  hw.still (.grows ⟨[.closeSocket c', .freeClient c'], rfl, by simp [Event.isMute]⟩ rfl rfl id)

/-- The traffic keeps what a client is owed. -/
theorem carried_owed (env : Env) (c : Ptr) (asked due : List UInt32) (settled : Prop) :
    Carried env True (Owed env c asked due settled) where
  conn hf hw := hw.still (.conn c hf)
  emit {_ e} he hw := hw.still (.emit (by cases e <;> simp_all [Event.isQuiet, Event.isMute]) _)
  setClient _ _ hf hw := hw.still (.setClient_same hf)
  notifyConnect c' result _ hw := hw.clientNotifyConnect c' result
  dead c' hstate hw := hw.dead c' hstate
  afterSend c' size hw := hw.afterSend c' size
  releaseClient c' hw := hw.releaseClient c'

theorem Owed.deviceRemove (hw : Owed env c asked due settled w) (u : UsbDevice) :
    Owed env c asked due settled (deviceRemove env u w) := by
  unfold Usbmuxd.deviceRemove
  split
  · exact hw
  · rename_i d _
    refine Owed.still ?_ (.releaseDev c d _)
    split
    · have htorn := (carried_owed env c asked due settled).tearDownAll
        (hw.still (.setDev c d (fun dev => { dev with state := .dead }) w)) d
      unfold disconnectDevice
      refine Owed.still ?_ (.setDev c d _ _)
      split
      · exact htorn.still (.clientDeviceRemove ..)
      · exact htorn.still (.clientDevicePairingEvent ..)
    · exact hw

/-- What the daemon does for other clients, and for the devices, keeps what a client is owed. -/
theorem upheld_owed (env : Env) (c : Ptr) (asked due : List UInt32) (settled : Prop) :
    Upheld env True True (· ≠ c) (Owed env c asked due settled) where
  toCarried := carried_owed env c asked due settled
  recvCall _ _ _ hw := hw.still (.emit rfl _)
  reply _ _ _ _ hne hw := hw.still ((sent_sendPkt ..).other hne)
  request _ _ _ hne _ hw := hw.still (.setClient_other hne _)
  startListen _ hne _ _ hw := hw.still ((Still.setClient_other hne _).trans (.notifyAll ..))
  pairingEvent _ _ _ hw := hw.still (.clientDevicePairingEvent ..)
  framing _ _ _ hw := hw.still (.setDev ..)
  versionInput _ _ _ hw := hw.still (.deviceVersionInput ..)
  usbAction {w} a hw := by
    cases a with
    | deviceAdd u => exact hw.still (.deviceAdd ..)
    | deviceRemove u => exact hw.deviceRemove u
    | deviceAddFailed u => exact hw.still (.clientDevicePairingEvent env c _ .removedDuringAdd false w)
    | errorAlreadyExists info => exact hw.still (.clientDevicePairingEvent env c info .errorDeviceAlreadyExists false w)

end Owed

end Usbmuxd
