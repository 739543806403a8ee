import Usbmuxd.Streams.Outlived

/-!
# A device is unplugged

`device_remove` on a device that is active: its connections are torn down one after the other, the clients that
listen are told, and the device is freed.

## The model

* `World.about` — what the log says of a client.
* `Minds d c` — a step that is about client `c`, sends nothing to a device, and changes no device but `d`.
* `Passes c` — what such a step for another client is for `c`.
* `MuxClient.message` — what is put in the reply buffer of a client, if there is memory for it.
* `Tells` — a client is sent one message, if there is memory for it when its turn comes.
* `Parting` — the end of a connection, for its client.
* `Removed` — what is left after a device has been removed.

## What is proved

* `parting_tearDown` — the teardown of one connection of a device that is gone.
* `forEachClient_turn` — in a loop over the clients each has one turn.
* `torn_tearDownAll` — each connection of the device has one end.
* `removed_deviceRemove` — the removal, after any run.
-/

namespace Usbmuxd

open World Relation

/-! ### What concerns a client -/

/-- The entries of the log about a client. -/
def World.about (w : World) (c : Ptr) : List Event := w.log.filter fun e => e.client? == some c

/-- An entry about no device, no freed connection, and no client but `c`. -/
def Event.within (c : Ptr) : Event → Bool
  | .freeConn _ => false
  | e => e.device?.isNone && (e.client?.isNone || e.client? == some c)

/-- A step for client `c` that changes no device but `d`. -/
structure Minds (d c : Ptr) (w v : World) : Prop where
  clients : ∀ x ≠ c, v.clients x = w.clients x
  clientList : ∀ x ≠ c, (x ∈ v.clientList ↔ x ∈ w.clientList)
  devs : ∀ x ≠ d, v.devs x = w.devs x
  log : ∃ es, v.log = w.log ++ es ∧ ∀ e ∈ es, e.within c = true
  tick : w.tick ≤ v.tick

/-- A step of which a client notices nothing. -/
structure Passes (c : Ptr) (w v : World) : Prop where
  client : v.clients c = w.clients c
  listed : c ∈ v.clientList ↔ c ∈ w.clientList
  about : v.about c = w.about c
  tick : w.tick ≤ v.tick

section Steps

variable {env : Env} {d c x p : Ptr} {w v u : World}

theorem about_append {es : List Event} (hlog : v.log = w.log ++ es) :
    v.about c = w.about c ++ es.filter fun e => e.client? == some c := by
  rw [World.about, hlog, List.filter_append]
  rfl

/-- Entries about other clients. -/
theorem about_same {es : List Event} (hlog : v.log = w.log ++ es) (hes : ∀ e ∈ es, e.client? ≠ some c) :
    v.about c = w.about c := by
  rw [about_append hlog, List.filter_eq_nil_iff.mpr, List.append_nil]
  intro e he heq
  exact hes e he (eq_of_beq heq)

theorem Event.within_client {e : Event} (h : e.within c = true) (hx : x ≠ c) : e.client? ≠ some x := by
  intro heq
  cases e <;> simp_all [Event.within, Event.client?, Event.device?]

theorem Event.within_device {e : Event} (h : e.within c = true) : e.device? = none := by
  cases e <;> simp_all [Event.within, Event.client?, Event.device?]

theorem Passes.refl (c : Ptr) (w : World) : Passes c w w := ⟨rfl, Iff.rfl, rfl, le_rfl⟩

theorem Passes.trans (h : Passes c w v) (h' : Passes c v u) : Passes c w u :=
  ⟨h'.client.trans h.client, h'.listed.trans h.listed, h'.about.trans h.about, h.tick.trans h'.tick⟩

/-- A change of something else. -/
theorem Passes.of_eq (hclients : v.clients = w.clients) (hlist : v.clientList = w.clientList) (hlog : v.log = w.log)
    (htick : v.tick = w.tick) : Passes c w v :=
  ⟨by rw [hclients], by rw [hlist], by rw [World.about, World.about, hlog], htick.ge⟩

/-- An entry that is not about the client. -/
theorem Passes.emit {e : Event} (he : e.client? ≠ some c) (w : World) : Passes c w (w.emit e) :=
  ⟨rfl, Iff.rfl, about_same (emit_log w e) fun _ he' => List.mem_singleton.mp he' ▸ he, le_rfl⟩

theorem Minds.refl (d c : Ptr) (w : World) : Minds d c w w :=
  ⟨fun _ _ => rfl, fun _ _ => Iff.rfl, fun _ _ => rfl, ⟨[], by simp, by simp⟩, le_rfl⟩

theorem Minds.trans (h : Minds d c w v) (h' : Minds d c v u) : Minds d c w u := by
  obtain ⟨es, hlog, hes⟩ := h.log
  obtain ⟨es', hlog', hes'⟩ := h'.log
  refine ⟨fun x hx => (h'.clients x hx).trans (h.clients x hx), fun x hx => (h'.clientList x hx).trans (h.clientList x hx),
    fun x hx => (h'.devs x hx).trans (h.devs x hx), ⟨es ++ es', ?_, fun e he => ?_⟩, h.tick.trans h'.tick⟩
  · rw [hlog', hlog, List.append_assoc]
  · rcases List.mem_append.mp he with he | he
    · exact hes e he
    · exact hes' e he

/-- Other clients notice nothing. -/
theorem Minds.passes (h : Minds d c w v) (hx : x ≠ c) : Passes x w v := by
  obtain ⟨es, hlog, hes⟩ := h.log
  exact ⟨h.clients x hx, h.clientList x hx, about_same hlog fun e he => Event.within_client (hes e he) hx, h.tick⟩

theorem Minds.tock (w : World) : Minds d c w w.tock :=
  ⟨fun _ _ => rfl, fun _ _ => Iff.rfl, fun _ _ => rfl, ⟨[], by simp, by simp⟩, Nat.le_succ _⟩

theorem Minds.emit {e : Event} (he : e.within c = true) (w : World) : Minds d c w (w.emit e) :=
  ⟨fun _ _ => rfl, fun _ _ => Iff.rfl, fun _ _ => rfl, ⟨[e], rfl, by simpa using he⟩, le_rfl⟩

theorem Minds.setClient (f : MuxClient → MuxClient) (w : World) : Minds d c w (w.setClient c f) :=
  ⟨fun x hx => by simp [hx], fun _ _ => Iff.rfl, fun _ _ => rfl, ⟨[], by simp, by simp⟩, le_rfl⟩

theorem Minds.setConn (p : Ptr) (f : MuxConnection → MuxConnection) (w : World) : Minds d c w (w.setConn p f) :=
  ⟨fun _ _ => rfl, fun _ _ => Iff.rfl, fun _ _ => rfl, ⟨[], by simp, by simp⟩, le_rfl⟩

theorem Minds.releaseClient (w : World) : Minds d c w (releaseClient c w) := by
  refine ⟨fun _ _ => rfl, fun x hx => ?_, fun _ _ => rfl, ⟨[.closeSocket c, .freeClient c], rfl, ?_⟩, le_rfl⟩
  · rw [SlotTable.mem_def, releaseClient_clientList, SlotTable.elements_remove, List.mem_erase_of_ne hx]
    rfl
  · simp [Event.within, Event.device?, Event.client?]

end Steps

/-! ### Messages -/

/-- There is room in the reply buffer of a client for a message with `length` bytes behind its header, or memory. -/
def MuxClient.fits (env : Env) (t length : ℕ) (client : MuxClient) : Prop :=
  client.obCapacity - client.obSize < usbmuxdHeaderSize + UInt32.ofNat length → env.realloc t = true

instance (env : Env) (t length : ℕ) (client : MuxClient) : Decidable (client.fits env t length) :=
  inferInstanceAs (Decidable (_ → _))

/-- What is put in the reply buffer of a client at time `t`, if there is memory for it: the property list for a client
that speaks property lists, the record for the others. -/
def MuxClient.message (env : Env) (t : ℕ) (plist : Plist) (msg : MsgType) (payload : List UInt8)
    (client : MuxClient) : Option (MsgType × List UInt8) :=
  if client.protoVersion = 1 then
    (env.plistToXml t plist).bind fun xml => if client.fits env (t + 1) xml.length then some (.plist, xml) else none
  else if client.fits env t payload.length then some (msg, payload) else none

/-- The choice between a property list and a record, as `send_result` and `notify_device_remove` make it. -/
def sendMessage (env : Env) (c : Ptr) (tag : UInt32) (plist : Plist) (msg : MsgType) (payload : List UInt8)
    (w : World) : World × Bool :=
  if (w.clients c).protoVersion = 1 then sendPlistPkt env c tag plist w else sendPkt env c tag msg payload w

/-- A message has been put in the reply buffer of a client, or there was no memory and nothing is done. -/
inductive Sends (c : Ptr) (tag : UInt32) (note : Option (MsgType × List UInt8)) (w : World) (r : World × Bool) : Prop
  | queued (m : MsgType) (x : List UInt8) (hnote : note = some (m, x)) (hok : r.2 = true)
      (hclients : r.1.clients = Function.update w.clients c ((w.clients c).queue tag m x))
      (hlog : r.1.log = w.log ++ [.queued c tag m x])
  | failed (hnote : note = none) (hok : r.2 = false) (hclients : r.1.clients = w.clients) (hlog : r.1.log = w.log)

/-- A client is sent one message between `w` and `v`, if there is memory for it when its turn comes, and is then
changed by `f`; otherwise it notices nothing. -/
inductive Tells (c : Ptr) (tag : UInt32) (note : ℕ → Option (MsgType × List UInt8)) (after : List Event)
    (f : MuxClient → MuxClient) (w v : World) : Prop
  | told (t : ℕ) (m : MsgType) (x : List UInt8) (ht : w.tick ≤ t ∧ t ≤ v.tick) (hnote : note t = some (m, x))
      (hclient : v.clients c = f ((w.clients c).queue tag m x)) (hlisted : c ∈ v.clientList ↔ c ∈ w.clientList)
      (habout : v.about c = w.about c ++ .queued c tag m x :: after)
  | untold (t : ℕ) (ht : w.tick ≤ t ∧ t ≤ v.tick) (hnote : note t = none) (h : Passes c w v)

section Messages

variable {env : Env} {d c p : Ptr} {w v u : World} {tag : UInt32} {msg : MsgType} {payload : List UInt8}
  {plist : Plist} {note : ℕ → Option (MsgType × List UInt8)} {after : List Event} {f : MuxClient → MuxClient}

theorem minds_sendPkt (tag : UInt32) (msg : MsgType) (payload : List UInt8) (w : World) :
    Minds d c w (sendPkt env c tag msg payload w).1 := by
  have hroom : ∀ length, Minds d c w (enlargeOutBuffer env c length w).1 := by
    intro length
    unfold enlargeOutBuffer
    dsimp only
    split
    · split
      · dsimp only
        exact (Minds.tock w).trans (.setClient _ _)
      · exact .tock w
    · exact .refl d c w
  unfold sendPkt
  dsimp only
  split
  · split
    · exact (hroom _).trans (.emit rfl _)
    · exact (hroom _).trans ((Minds.setClient _ _).trans (.emit (by simp [Event.within, Event.client?, Event.device?]) _))
  · exact hroom _

theorem minds_sendPlistPkt (tag : UInt32) (plist : Plist) (w : World) :
    Minds d c w (sendPlistPkt env c tag plist w).1 := by
  unfold sendPlistPkt
  split
  · exact .tock w
  · exact (Minds.tock w).trans (minds_sendPkt ..)

theorem minds_sendMessage (w : World) : Minds d c w (sendMessage env c tag plist msg payload w).1 := by
  unfold sendMessage
  split
  · exact minds_sendPlistPkt ..
  · exact minds_sendPkt ..

theorem clientList_sendMessage (w : World) : (sendMessage env c tag plist msg payload w).1.clientList = w.clientList := by
  unfold sendMessage
  split
  · exact InCommand.clientList_of_registry (registry_sendPlistPkt ..)
  · exact InCommand.clientList_of_registry (registry_sendPkt ..)

theorem sends_sendPkt (hbuf : (w.clients c).obBuf ≠ none) (tag : UInt32) (msg : MsgType) (payload : List UInt8) :
    Sends c tag (if (w.clients c).fits env w.tick payload.length then some (msg, payload) else none) w
      (sendPkt env c tag msg payload w) := by
  have hiff : (sendPkt env c tag msg payload w).2 = true ↔ (w.clients c).fits env w.tick payload.length :=
    sendPkt_iff hbuf tag msg payload
  by_cases hfits : (w.clients c).fits env w.tick payload.length
  · rw [if_pos hfits]
    rcases sendPkt_cases env c tag msg payload w with ⟨hok, hclients, hlog⟩ | ⟨hfailed, -⟩
    · exact .queued msg payload rfl hok hclients hlog
    · rw [hiff.mpr hfits] at hfailed
      cases hfailed
  · rw [if_neg hfits]
    obtain ⟨hsmall, hrealloc⟩ : (w.clients c).obCapacity - (w.clients c).obSize <
        usbmuxdHeaderSize + UInt32.ofNat payload.length ∧ env.realloc w.tick ≠ true := by
      simpa [MuxClient.fits] using hfits
    have hworld : sendPkt env c tag msg payload w = (w.tock, false) := by
      simp [sendPkt, enlargeOutBuffer, hsmall, hrealloc]
    rw [hworld]
    exact .failed rfl rfl rfl rfl

theorem sends_sendMessage (hbuf : (w.clients c).obBuf ≠ none) (tag : UInt32) (plist : Plist) (msg : MsgType)
    (payload : List UInt8) :
    Sends c tag ((w.clients c).message env w.tick plist msg payload) w (sendMessage env c tag plist msg payload w) := by
  unfold sendMessage MuxClient.message
  split
  · unfold sendPlistPkt
    split
    · rename_i hnone
      rw [hnone]
      exact .failed rfl rfl rfl rfl
    · rename_i xml hsome
      have hbuf' : (w.tock.clients c).obBuf ≠ none := hbuf
      rw [hsome]
      cases sends_sendPkt hbuf' tag .plist xml with
      | queued m x hnote hok hclients hlog => exact .queued m x hnote hok hclients hlog
      | failed hnote hok hclients hlog => exact .failed hnote hok hclients hlog
  · exact sends_sendPkt hbuf tag msg payload

/-- What other clients are sent before and after changes nothing. -/
theorem Tells.around (h₁ : Passes c w v) {v' : World} (h : Tells c tag note after f v v') (h₂ : Passes c v' u) :
    Tells c tag note after f w u := by
  cases h with
  | told t m x ht hnote hclient hlisted habout =>
    refine .told t m x ⟨h₁.tick.trans ht.1, ht.2.trans h₂.tick⟩ hnote ?_ ?_ ?_
    · rw [h₂.client, hclient, h₁.client]
    · exact (h₂.listed.trans hlisted).trans h₁.listed
    · rw [h₂.about, habout, h₁.about]
  | untold t ht hnote h => exact .untold t ⟨h₁.tick.trans ht.1, ht.2.trans h₂.tick⟩ hnote ((h₁.trans h).trans h₂)

/-- A message that has been sent or not, and what is done with the client after that. -/
theorem Sends.tells {r : World × Bool} (h : Sends c tag (note w.tick) w r) (hr : Minds d c w r.1)
    (hlist : r.1.clientList = w.clientList)
    (hdone : r.2 = true → v.clients c = f (r.1.clients c) ∧ v.clientList = r.1.clientList ∧
      v.log = r.1.log ++ after ∧ v.tick = r.1.tick)
    (hafter : ∀ e ∈ after, e.client? = some c) (hfailed : r.2 = false → v = r.1) : Tells c tag note after f w v := by
  cases h with
  | queued m x hnote hok hclients hlog =>
    obtain ⟨hclient, hlist', hlog', htick⟩ := hdone hok
    refine .told w.tick m x ⟨le_rfl, htick ▸ hr.tick⟩ hnote ?_ (by rw [hlist', hlist]) ?_
    · rw [hclient, hclients, Function.update_self]
    · have hall : (Event.queued c tag m x :: after).filter (fun e => e.client? == some c) =
          .queued c tag m x :: after := by
        refine List.filter_eq_self.mpr fun e he => ?_
        rcases List.mem_cons.mp he with rfl | he
        · simp [Event.client?]
        · simp [hafter e he]
      have hlog'' : v.log = w.log ++ .queued c tag m x :: after := by rw [hlog', hlog]; simp
      rw [about_append hlog'', hall]
  | failed hnote hok hclients hlog =>
    rw [hfailed hok]
    refine .untold w.tick ⟨le_rfl, hr.tick⟩ hnote ⟨by rw [hclients], by rw [hlist], ?_, hr.tick⟩
    rw [World.about, World.about, hlog]

/-- The reply to a client whose connection is not established. -/
def MuxClient.refusal (env : Env) (client : MuxClient) (t : ℕ) : Option (MsgType × List UInt8) :=
  client.message env t (.dict [("MessageType", .string (cstr "Result")), ("Number", .uint resultConnrefused.toUInt64)])
    .result (le32 resultConnrefused)

/-- The notification that device `id` has gone. -/
def MuxClient.detachedNote (env : Env) (id : ℕ) (client : MuxClient) (t : ℕ) : Option (MsgType × List UInt8) :=
  client.message env t (.dict [("MessageType", .string (cstr "Detached")), ("DeviceID", .uint (UInt64.ofNat id))])
    .deviceRemove (le32 (UInt32.ofNat id))

/-- The notification of a pairing event, which goes to clients that speak property lists. -/
def MuxClient.pairingNote (env : Env) (info : DeviceInfo) (event : PairingEvent) (client : MuxClient) (t : ℕ) :
    Option (MsgType × List UInt8) :=
  if client.protoVersion = 1 then client.message env t (devicePairingEventPlist info event) .plist [] else none

theorem tells_clientNotifyConnect (hbuf : (w.clients c).obBuf ≠ none) (hstate : (w.clients c).state = .connecting1) :
    Minds d c w (clientNotifyConnect env c resultConnrefused w).1 ∧
      Tells c (w.clients c).connectTag ((w.clients c).refusal env) [] (fun cl => { cl with state := .command }) w
        (clientNotifyConnect env c resultConnrefused w).1 := by
  have hsends : Sends c (w.clients c).connectTag ((w.clients c).refusal env w.tick) w
      (sendResult env c (w.clients c).connectTag resultConnrefused w) := sends_sendMessage hbuf ..
  have hminds : Minds d c w (sendResult env c (w.clients c).connectTag resultConnrefused w).1 := minds_sendMessage w
  have hlist : (sendResult env c (w.clients c).connectTag resultConnrefused w).1.clientList = w.clientList :=
    clientList_sendMessage w
  unfold clientNotifyConnect
  rw [if_neg (not_not.mpr hstate)]
  generalize sendResult env c (w.clients c).connectTag resultConnrefused w = r at hsends hminds hlist ⊢
  dsimp only
  rw [if_neg (show ¬ resultConnrefused = resultOk by decide)]
  constructor
  · split
    · dsimp only
      exact hminds.trans (.setClient _ _)
    · exact hminds
  · refine hsends.tells hminds hlist (fun hok => ?_) (by simp) fun hfailed => ?_
    · rw [if_pos hok]
      exact ⟨by simp, rfl, by simp, rfl⟩
    · rw [if_neg (by simp [hfailed])]

/-- A listener is told that a device has gone. -/
theorem tells_notifyDeviceRemove (hbuf : (w.clients c).obBuf ≠ none) (id : ℕ) :
    Tells c 0 ((w.clients c).detachedNote env id) [.detached c id] (fun cl => cl) w
      (notifyDeviceRemove env c id w).1 := by
  have hsends : Sends c 0 ((w.clients c).detachedNote env id w.tick) w _ := sends_sendMessage hbuf ..
  unfold notifyDeviceRemove
  dsimp only
  generalize hr : (if (w.clients c).protoVersion = 1 then _ else _ : World × Bool) = r
  have hminds : Minds 0 c w r.1 := hr ▸ minds_sendMessage w
  have hlist : r.1.clientList = w.clientList := hr ▸ clientList_sendMessage w
  have hsent : Sends c 0 ((w.clients c).detachedNote env id w.tick) w r := hr ▸ hsends
  refine hsent.tells hminds hlist (fun hok => ?_) (by simp [Event.client?]) fun hfailed => ?_
  · rw [if_pos hok]
    exact ⟨rfl, rfl, rfl, rfl⟩
  · rw [if_neg (by simp [hfailed])]

theorem minds_notifyDeviceRemove (id : ℕ) (w : World) : Minds d c w (notifyDeviceRemove env c id w).1 := by
  unfold notifyDeviceRemove
  dsimp only
  generalize hr : (if (w.clients c).protoVersion = 1 then _ else _ : World × Bool) = r
  have hminds : Minds d c w r.1 := hr ▸ minds_sendMessage w
  split
  · exact hminds.trans (.emit (by simp [Event.within, Event.client?, Event.device?]) _)
  · exact hminds

/-- The body of the loop of `client_device_pairing_event`. -/
def pairingBody (env : Env) (info : DeviceInfo) (event : PairingEvent) (c : Ptr) (w : World) : World :=
  if (w.clients c).state = .listen ∧ (w.clients c).protoVersion = 1 then
    let r := sendPlistPkt env c 0 (devicePairingEventPlist info event) w
    if r.2 then r.1.emit (.pairing c info.id event) else r.1
  else w

/-- A listener is told about a pairing event. -/
theorem tells_pairingBody (hbuf : (w.clients c).obBuf ≠ none) (hstate : (w.clients c).state = .listen)
    (info : DeviceInfo) (event : PairingEvent) :
    Tells c 0 ((w.clients c).pairingNote env info event) [.pairing c info.id event] (fun cl => cl) w
      (pairingBody env info event c w) := by
  by_cases hplist : (w.clients c).protoVersion = 1
  · have hsend : sendMessage env c 0 (devicePairingEventPlist info event) .plist [] w =
        sendPlistPkt env c 0 (devicePairingEventPlist info event) w := if_pos hplist
    have hsends : Sends c 0 ((w.clients c).message env w.tick (devicePairingEventPlist info event) .plist []) w
        (sendPlistPkt env c 0 (devicePairingEventPlist info event) w) := hsend ▸ sends_sendMessage hbuf ..
    have hminds : Minds 0 c w (sendPlistPkt env c 0 (devicePairingEventPlist info event) w).1 := minds_sendPlistPkt ..
    have hlist := InCommand.clientList_of_registry (registry_sendPlistPkt env c w 0 (devicePairingEventPlist info event))
    have hnote : (w.clients c).pairingNote env info event w.tick =
        (w.clients c).message env w.tick (devicePairingEventPlist info event) .plist [] := if_pos hplist
    unfold pairingBody
    rw [if_pos ⟨hstate, hplist⟩]
    rw [← hnote] at hsends
    generalize sendPlistPkt env c 0 (devicePairingEventPlist info event) w = r at hsends hminds hlist ⊢
    dsimp only
    refine hsends.tells hminds hlist (fun hok => ?_) (by simp [Event.client?]) fun hfailed => ?_
    · rw [if_pos hok]
      exact ⟨rfl, rfl, rfl, rfl⟩
    · rw [if_neg (by simp [hfailed])]
  · unfold pairingBody
    rw [if_neg fun h => hplist h.2]
    exact .untold w.tick ⟨le_rfl, le_rfl⟩ (if_neg hplist) (.refl c w)

theorem minds_pairingBody (info : DeviceInfo) (event : PairingEvent) (w : World) :
    Minds d c w (pairingBody env info event c w) := by
  have hminds : Minds d c w (sendPlistPkt env c 0 (devicePairingEventPlist info event) w).1 := minds_sendPlistPkt ..
  unfold pairingBody
  dsimp only
  split_ifs
  · exact hminds.trans (.emit (by simp [Event.within, Event.client?, Event.device?]) _)
  · exact hminds
  · exact .refl d c w

end Messages

/-! ### One teardown -/

/-- How a connection ends for its client: a client that waits is told that the connection is refused, one whose
connection is established is closed. -/
inductive Fate (env : Env) (p c : Ptr) (w v : World) : Prop
  | refused (hstate : (w.clients c).state = .connecting1)
      (h : Tells c (w.clients c).connectTag ((w.clients c).refusal env) [] (fun cl => { cl with state := .command }) w v)
  | closed (hstate : (w.clients c).state = .connecting2 ∨ (w.clients c).state = .connected) (ws : List Event)
      (hws : ∀ e ∈ ws, ∃ bs, e = .wrote p c bs)
      (habout : v.about c = w.about c ++ ws ++ [.closeSocket c, .freeClient c]) (htick : w.tick ≤ v.tick)

/-- The end of connection `p` of device `d`, with client `c`. -/
structure Parting (env : Env) (d p c : Ptr) (w v : World) : Prop where
  others : ∀ x ≠ c, Passes x w v
  devs : ∀ x ≠ d, v.devs x = w.devs x
  log : ∃ es, v.log = w.log ++ es ++ [.freeConn p] ∧ ∀ e ∈ es, e.within c = true
  client : Fate env p c w v

section Teardown

variable {env : Env} {d c p : Ptr} {w v u : World}

/-- The bytes of a connection that its client takes. -/
def Writes (p c : Ptr) (w v : World) : Prop :=
  ∃ ws, v.about c = w.about c ++ ws ∧ ∀ e ∈ ws, ∃ bs, e = .wrote p c bs

theorem Writes.trans (h : Writes p c w v) (h' : Writes p c v u) : Writes p c w u := by
  obtain ⟨ws, habout, hws⟩ := h
  obtain ⟨ws', habout', hws'⟩ := h'
  refine ⟨ws ++ ws', by rw [habout', habout, List.append_assoc], fun e he => ?_⟩
  rcases List.mem_append.mp he with he | he
  · exact hws e he
  · exact hws' e he

theorem Writes.of_about (h : v.about c = w.about c) : Writes p c w v := ⟨[], by simp [h], by simp⟩

theorem writes_clientWrite (env : Env) (d p c : Ptr) (buffer : Mem) (len : UInt32) (w : World) :
    Minds d c w (clientWrite env p c buffer len w).1 ∧ Writes p c w (clientWrite env p c buffer len w).1 := by
  unfold clientWrite
  split
  · exact ⟨.refl d c w, .of_about rfl⟩
  · dsimp only
    split
    · exact ⟨.tock w, .of_about rfl⟩
    · constructor
      · exact (Minds.tock w).trans (.emit (by simp [Event.within, Event.client?, Event.device?]) _)
      · refine ⟨[.wrote p c (buffer.slice 0 (min (env.send w.tick) len.toNat))], ?_, by simp⟩
        refine (about_append (emit_log w.tock _)).trans ?_
        simp [Event.client?, World.about]

/-- The flush writes to the client and does nothing else. -/
theorem writes_flushInBuf (env : Env) (d p c : Ptr) (n : ℕ) (w : World) :
    Minds d c w (flushInBuf env p c n w) ∧ Writes p c w (flushInBuf env p c n w) := by
  induction n generalizing w with
  | zero => exact ⟨.emit rfl w, .of_about (Passes.emit (by simp [Event.client?]) w).about⟩
  | succ n ih =>
    obtain ⟨hminds, hwrites⟩ := writes_clientWrite env d p c (w.conns p).ibBuf (w.conns p).ibSize w
    unfold flushInBuf
    dsimp only
    generalize clientWrite env p c (w.conns p).ibBuf (w.conns p).ibSize w = r at hminds hwrites ⊢
    split
    · exact ⟨hminds, hwrites⟩
    · have hset := hminds.trans (.setConn p (·.consume r.2) r.1)
      split
      · exact ⟨hset, hwrites⟩
      · obtain ⟨hrest, hmore⟩ := ih (r.1.setConn p (·.consume r.2))
        exact ⟨hset.trans hrest, Writes.trans hwrites hmore⟩

theorem sendTeardownRst_dead (hdev : (w.conns p).dev = d) (hdead : (w.devs d).state = .dead) :
    sendTeardownRst env p w = w := by
  unfold sendTeardownRst
  dsimp only
  rw [hdev, if_neg fun h => h.1 hdead]

theorem writes_closing (c : Ptr) (hdev : (w.conns p).dev = d) (hdead : (w.devs d).state = .dead) :
    Minds d c w (closing env p c w) ∧ Writes p c w (closing env p c w) := by
  have hset : Minds d c w (w.setConn p (·.become .dead)) := .setConn p _ w
  unfold closing
  dsimp only
  rw [sendTeardownRst_dead hdev hdead]
  split
  · obtain ⟨hminds, hwrites⟩ := writes_flushInBuf env d p c (w.conns p).ibSize.toNat (w.setConn p (·.become .dead))
    exact ⟨hset.trans hminds, hwrites⟩
  · exact ⟨hset, .of_about rfl⟩

/-- A connection that is released. -/
theorem passes_releaseConn (x : Ptr) (w : World) : Passes x w (releaseConn p w) :=
  (Passes.of_eq rfl rfl rfl rfl : Passes x w (w.setDev _ _)).trans (.emit (by simp [Event.client?]) _)

theorem parting_releaseConn (h : Minds d c w u) (hdev : (u.conns p).dev = d)
    (hfate : Fate env p c w (releaseConn p u)) : Parting env d p c w (releaseConn p u) := by
  obtain ⟨es, hlog, hes⟩ := h.log
  refine ⟨fun x hx => (h.passes hx).trans (passes_releaseConn x u), fun x hx => ?_, ⟨es, ?_, hes⟩, hfate⟩
  · have hne : x ≠ (u.conns p).dev := hdev ▸ hx
    simpa [releaseConn, hne] using h.devs x hx
  · simp [releaseConn, hlog]

/-- The end of a connection that has been established. -/
theorem parting_closed (hm : Minds d c w u) (hw : Writes p c w u) (hdev : (u.conns p).dev = d)
    (hstate : (w.clients c).state = .connecting2 ∨ (w.clients c).state = .connected) :
    Parting env d p c w (releaseConn p (releaseClient c u)) := by
  obtain ⟨ws, habout, hws⟩ := hw
  have hminds : Minds d c w (releaseClient c u) := hm.trans (.releaseClient u)
  refine parting_releaseConn hminds hdev (.closed hstate ws hws ?_ hminds.tick)
  have hlog : (releaseClient c u).log = u.log ++ [.closeSocket c, .freeClient c] := rfl
  rw [(passes_releaseConn c _).about, about_append hlog, habout]
  simp [Event.client?]

/-- The teardown of a connection of a device that is gone: nothing is sent to the device, and the connection comes to its
end for its client. -/
theorem parting_tearDown (h : Tracked env w) (hl : w.registry.Link d p c) (hdead : (w.devs d).state = .dead) :
    Parting env d p c w (tearDown env p w) := by
  obtain ⟨hmem, -, hmatch⟩ := h.ok.link_client hl
  have hclient : (w.conns p).client = some c := hl.client
  have hdev : (w.conns p).dev = d := h.ok.conn_dev d hl.device p hl.conn
  have hbuf : (w.clients c).state ≠ .connected → (w.clients c).obBuf ≠ none := by
    intro hother hnone
    rcases h.armed.buffer c (h.armed.known c hmem) hnone with hconnected | hdead
    · exact hother hconnected
    · exact (h.ok.entries c hmem).alive hdead
  rcases hmatch.conn_state with hconn | hconn
  · have hone : (w.clients c).state = .connecting1 := hmatch.connecting_iff.mp hconn
    obtain ⟨hminds, htells⟩ := @tells_clientNotifyConnect env d c w (hbuf (by rw [hone]; decide)) hone
    have hconns : (clientNotifyConnect env c resultConnrefused w).1.conns p = w.conns p :=
      (Confined.clientNotifyConnect (P := fun _ => False) (C := Eq c) rfl env resultConnrefused w).conns p id
    rw [tearDown, callDepth, connectionTeardown_notify 3 hclient (.inr hconn), sendTeardownRst_dead hdev hdead]
    refine parting_releaseConn hminds ?_ (.refused hone (.around (.refl c w) htells (passes_releaseConn c _)))
    rw [hconns, hdev]
  · have hstate : (w.clients c).state = .connecting2 ∨ (w.clients c).state = .connected := hmatch.connected_iff.mp hconn
    obtain ⟨hminds, hwrites⟩ := @writes_closing env d p w c hdev hdead
    have hreg : (closing env p c w).registry = w.registry.setConn p { w.registry.conns p with state := .dead } :=
      registry_closing
    have hgone : ((closing env p c w).conns p).state = .dead := closing_dead
    have hlookup : (closing env p c w).registry.lookup ((closing env p c w).clients c).connectDevice c = some p := by
      have hid : ((closing env p c w).clients c).connectDevice = (w.clients c).connectDevice :=
        congrArg ClientEntry.connectDevice (congrFun (congrArg Registry.clients hreg) c)
      rw [hid, hreg, Registry.lookup_setConn _ (by rfl)]
      exact h.ok.lookup hl
    have hdev' : ((closing env p c w).conns p).dev = d := by
      have hentry := congrArg ConnEntry.dev (congrFun (congrArg Registry.conns hreg) p)
      simpa [hdev] using hentry
    have hsame : ((closing env p c w).clients c).state = (w.clients c).state :=
      congrArg ClientEntry.state (congrFun (congrArg Registry.clients hreg) c)
    rw [tearDown, callDepth, connectionTeardown_close 3 hclient (.inl hconn)]
    generalize closing env p c w = u at *
    rcases hstate with htwo | hconnected
    · have hstill : ((u.setClient c fun cl => { cl with state := .dead }).conns p).state = .dead := hgone
      rw [clientClose_found 2 (.inr (hsame.trans htwo)) hlookup, connectionTeardown_dead 1 hstill]
      exact parting_closed (hminds.trans (.setClient _ u)) hwrites hdev' (.inl htwo)
    · rw [clientClose_release 2 (by rw [hsame, hconnected]; decide)]
      exact parting_closed hminds hwrites hdev' (.inr hconnected)

/-- What other clients are told before and after changes nothing. -/
theorem Fate.around {v' : World} (h₁ : Passes c w v) (h : Fate env p c v v') (h₂ : Passes c v' u) :
    Fate env p c w u := by
  cases h with
  | refused hstate htells =>
    rw [h₁.client] at hstate htells
    exact .refused hstate (.around h₁ htells h₂)
  | closed hstate ws hws habout htick =>
    rw [h₁.client] at hstate
    refine .closed hstate ws hws ?_ ((h₁.tick.trans htick).trans h₂.tick)
    rw [h₂.about, habout, h₁.about]

end Teardown

/-! ### The loop -/

/-- Where the loop over the connections of device `d` stands: each of them is as it was, or has come to its end. -/
structure Torn (env : Env) (d : Ptr) (w v : World) : Prop where
  tracked : Tracked env v
  dead : (v.devs d).state = .dead
  listed : d ∈ v.deviceList
  links : ∀ p c, v.registry.Link d p c → w.registry.Link d p c
  linked : ∀ p c, w.registry.Link d p c → v.registry.Link d p c ∧ Passes c w v ∨
    ¬ v.registry.Link d p c ∧ Fate env p c w v ∧ v.log.count (.freeConn p) = 1
  others : ∀ c, (∀ p, ¬ w.registry.Link d p c) → Passes c w v
  devs : ∀ x ≠ d, v.devs x = w.devs x
  log : ∃ es, v.log = w.log ++ es ∧ ∀ e ∈ es, e.device? = none

section Loop

variable {env : Env} {d c p : Ptr} {w v u : World}

theorem Torn.start (h : Tracked env w) (hd : d ∈ w.deviceList) (hdead : (w.devs d).state = .dead) : Torn env d w w :=
  ⟨h, hdead, hd, fun _ _ hl => hl, fun _ c hl => .inl ⟨hl, .refl c w⟩, fun c _ => .refl c w, fun _ _ => rfl,
    [], by simp, by simp⟩

/-- Where entries that release no connection, and the release of `p`, leave the number of releases. -/
theorem count_freeConn {es : List Event} (hlog : v.log = w.log ++ es ++ [.freeConn p])
    (hes : ∀ e ∈ es, e.within c = true) (q : Ptr) :
    v.log.count (.freeConn q) = w.log.count (.freeConn q) + if p = q then 1 else 0 := by
  have hnone : es.count (.freeConn q) = 0 := by
    rw [List.count_eq_zero]
    intro hmem
    exact absurd (hes _ hmem) (by simp [Event.within])
  rw [hlog, List.count_append, List.count_append, hnone, Nat.add_zero, List.count_singleton]
  simp

theorem Torn.step (h : Tracked env w) (hv : Torn env d w v) (hp : p ∈ v.connections d) :
    Torn env d w (tearDown env p v) := by
  obtain ⟨c, hl⟩ := hv.tracked.ok.link_of_mem hv.listed hp
  have hend : Parting env d p c v (tearDown env p v) := parting_tearDown hv.tracked hl hv.dead
  have hgone := unlinked_tearDown hv.tracked hl
  have hlinks := link_tearDown hv.tracked hl
  have hsteps : Registry.Steps env.Reliable none v.registry (tearDown env p v).registry := steps_tearDown hv.tracked hl
  obtain ⟨es, hlog, hes⟩ := hend.log
  have hcount := count_freeConn hlog hes
  have hlw := hv.links p c hl
  have hlist : (tearDown env p v).deviceList = v.deviceList := hgone.deviceList
  refine ⟨hv.tracked.after hsteps (traffic_tearDown env p v).turns, (hgone.state d).trans hv.dead,
    hlist ▸ hv.listed, fun q x hl' => hv.links q x ((hlinks q x).mp hl').2, fun q x hq => ?_, fun x hx => ?_,
    fun x hx => (hend.devs x hx).trans (hv.devs x hx), ?_⟩
  · rcases hv.linked q x hq with ⟨hlq, hpass⟩ | ⟨hno, hfate, hfreed⟩
    · by_cases hqp : q = p
      · -- its turn
        subst hqp
        obtain rfl : x = c := Option.some.inj (hlq.client.symm.trans hl.client)
        refine .inr ⟨fun hl' => ((hlinks q x).mp hl').1 rfl, .around hpass hend.client (.refl x _), ?_⟩
        have hlive : v.log.count (.freeConn q) = 0 := hv.tracked.ok.conn_live d hv.listed q hp
        rw [hcount, hlive, if_pos rfl]
      · have hne : x ≠ c := by
          rintro rfl
          exact hqp (hv.tracked.ok.unique d q d p x hlq hl)
        exact .inl ⟨(hlinks q x).mpr ⟨hqp, hlq⟩, hpass.trans (hend.others x hne)⟩
    · have hpq : p ≠ q := by
        rintro rfl
        obtain rfl : x = c := Option.some.inj (hq.client.symm.trans hlw.client)
        exact hno hl
      have hne : x ≠ c := by
        rintro rfl
        exact hpq (h.ok.unique d p d q x hlw hq)
      refine .inr ⟨fun hl' => hno ((hlinks q x).mp hl').2, .around (.refl x w) hfate (hend.others x hne), ?_⟩
      rw [hcount, hfreed, if_neg hpq]
  · have hne : x ≠ c := by
      rintro rfl
      exact hx p hlw
    exact (hv.others x hx).trans (hend.others x hne)
  · obtain ⟨es', hlog', hes'⟩ := hv.log
    refine ⟨es' ++ (es ++ [.freeConn p]), by rw [hlog, hlog']; simp, fun e he => ?_⟩
    rcases List.mem_append.mp he with he | he
    · exact hes' e he
    · rcases List.mem_append.mp he with he | he
      · exact Event.within_device (hes e he)
      · rw [List.mem_singleton.mp he]
        rfl

/-- Each connection of the device comes to its end. -/
theorem torn_tearDownAll (h : Tracked env w) (hd : d ∈ w.deviceList) (hdead : (w.devs d).state = .dead) :
    Torn env d w (tearDownAll env d w) ∧ ∀ p c, w.registry.Link d p c →
      Fate env p c w (tearDownAll env d w) ∧ (tearDownAll env d w).log.count (.freeConn p) = 1 := by
  have hend : Torn env d w (tearDownAll env d w) :=
    SlotTable.forEach_induct (fun p v hp hv => Torn.step h hv hp) _ _ _ (Torn.start h hd hdead)
  have hsweep : Sweep env none d w (w.connections d).capacity (tearDownAll env d w) := sweep_tearDownAll h hd
  refine ⟨hend, fun p c hl => ?_⟩
  rcases hend.linked p c hl with ⟨hstill, -⟩ | ⟨-, hfate, hfreed⟩
  · exact absurd hstill.conn (hsweep.empty p)
  · exact ⟨hfate, hfreed⟩

end Loop

/-! ### The notifications -/

/-- The body of a loop over the clients that tells the listeners something. -/
structure Notifies (d : Ptr) (body : Ptr → World → World) (note : MuxClient → ℕ → Option (MsgType × List UInt8))
    (entry : Ptr → Event) : Prop where
  clientList : ∀ c w, (body c w).clientList = w.clientList
  minds : ∀ c w, Minds d c w (body c w)
  tells : ∀ c w, (w.clients c).obBuf ≠ none → (w.clients c).state = .listen →
    Tells c 0 (note (w.clients c)) [entry c] (fun cl => cl) w (body c w)
  skips : ∀ c w, (w.clients c).state ≠ .listen → body c w = w

section Notifications

variable {env : Env} {d c : Ptr} {w v u : World} {body : Ptr → World → World}
  {note : MuxClient → ℕ → Option (MsgType × List UInt8)} {entry : Ptr → Event}

/-- The turns of other clients. -/
theorem passes_foldl (hminds : ∀ x v, Minds d x v (body x v)) {l : List Ptr} (hc : c ∉ l) (w : World) :
    Passes c w (l.foldl (fun w x => body x w) w) := by
  induction l generalizing w with
  | nil => exact .refl c w
  | cons x rest ih =>
    have hne : c ≠ x := List.ne_of_not_mem_cons hc
    exact ((hminds x w).passes hne).trans (ih (List.not_mem_of_not_mem_cons hc) (body x w))

/-- In a loop over the clients each has one turn. -/
theorem forEachClient_turn (h : Notifies d body note entry) (hnodup : w.clientList.Nodup) :
    (c ∈ w.clientList → ∃ v, Passes c w v ∧ Passes c (body c v) (forEachClient body w)) ∧
      (c ∉ w.clientList → Passes c w (forEachClient body w)) := by
  have hloop : forEachClient body w = w.clientList.elements.foldl (fun w x => body x w) w :=
    SlotTable.forEach_fixed h.clientList w
  rw [hloop]
  constructor
  · intro hc
    obtain ⟨before, after, hsplit⟩ := List.append_of_mem (SlotTable.mem_def.mp hc)
    have hsep : (before ++ c :: after).Nodup := hsplit ▸ hnodup
    rw [List.nodup_append] at hsep
    obtain ⟨-, hafter, hdisjoint⟩ := hsep
    have hbefore : c ∉ before := fun hmem => hdisjoint c hmem c List.mem_cons_self rfl
    refine ⟨before.foldl (fun w x => body x w) w, passes_foldl h.minds hbefore w, ?_⟩
    rw [hsplit, List.foldl_append, List.foldl_cons]
    exact passes_foldl h.minds (List.nodup_cons.mp hafter).1 _
  · exact fun hc => passes_foldl h.minds hc w

theorem Notifies.listener (h : Notifies d body note entry) (hnodup : w.clientList.Nodup) (hc : c ∈ w.clientList)
    (hbuf : (w.clients c).obBuf ≠ none) (hstate : (w.clients c).state = .listen) :
    Tells c 0 (note (w.clients c)) [entry c] (fun cl => cl) w (forEachClient body w) := by
  obtain ⟨v, hbefore, hafter⟩ := (forEachClient_turn h hnodup).1 hc
  have hturn := h.tells c v (by rwa [hbefore.client]) (by rwa [hbefore.client])
  rw [hbefore.client] at hturn
  exact .around hbefore hturn hafter

theorem Notifies.other (h : Notifies d body note entry) (hnodup : w.clientList.Nodup)
    (hstate : c ∈ w.clientList → (w.clients c).state ≠ .listen) : Passes c w (forEachClient body w) := by
  by_cases hc : c ∈ w.clientList
  · obtain ⟨v, hbefore, hafter⟩ := (forEachClient_turn h hnodup).1 hc
    rw [h.skips c v (by rw [hbefore.client]; exact hstate hc)] at hafter
    exact hbefore.trans hafter
  · exact (forEachClient_turn h hnodup).2 hc

/-- The loop says nothing to a device and releases no connection. -/
theorem Notifies.silent (h : Notifies d body note entry) (w : World) :
    (∀ x ≠ d, (forEachClient body w).devs x = w.devs x) ∧
      ∃ es, (forEachClient body w).log = w.log ++ es ∧ ∀ e ∈ es, e.device? = none ∧ ∀ p, e ≠ .freeConn p := by
  refine SlotTable.forEach_induct (P := fun v : World => (∀ x ≠ d, v.devs x = w.devs x) ∧
    ∃ es, v.log = w.log ++ es ∧ ∀ e ∈ es, e.device? = none ∧ ∀ p, e ≠ .freeConn p) ?_ _ _ _
      ⟨fun _ _ => rfl, [], by simp, by simp⟩
  rintro c v - ⟨hdevs, es, hlog, hes⟩
  obtain ⟨es', hlog', hes'⟩ := (h.minds c v).log
  refine ⟨fun x hx => ((h.minds c v).devs x hx).trans (hdevs x hx), es ++ es', by rw [hlog', hlog]; simp, fun e he => ?_⟩
  rcases List.mem_append.mp he with he | he
  · exact hes e he
  · refine ⟨Event.within_device (hes' e he), ?_⟩
    rintro p rfl
    exact absurd (hes' _ he) (by simp [Event.within])

theorem notifies_deviceRemove (env : Env) (d : Ptr) (id : ℕ) :
    Notifies d (fun c w => if (w.clients c).state = .listen then (notifyDeviceRemove env c id w).1 else w)
      (fun client => client.detachedNote env id) (fun c => .detached c id) := by
  constructor
  · intro c w
    split
    · exact InCommand.clientList_of_registry (registry_notifyDeviceRemove ..)
    · rfl
  · intro c w
    split
    · exact minds_notifyDeviceRemove id w
    · exact .refl d c w
  · intro c w hbuf hstate
    rw [if_pos hstate]
    exact tells_notifyDeviceRemove hbuf id
  · exact fun c w hstate => if_neg hstate

theorem notifies_pairing (env : Env) (d : Ptr) (info : DeviceInfo) (event : PairingEvent) :
    Notifies d (pairingBody env info event) (fun client => client.pairingNote env info event)
      (fun c => .pairing c info.id event) := by
  constructor
  · intro c w
    unfold pairingBody
    dsimp only
    split_ifs
    · refine InCommand.clientList_of_registry ((registry_emit _ rfl).trans ?_)
      exact registry_sendPlistPkt env c w 0 (devicePairingEventPlist info event)
    · exact InCommand.clientList_of_registry (registry_sendPlistPkt env c w 0 (devicePairingEventPlist info event))
    · rfl
  · exact fun c w => minds_pairingBody info event w
  · exact fun c w hbuf hstate => tells_pairingBody hbuf hstate info event
  · exact fun c w hstate => if_neg fun h => hstate h.1

end Notifications

/-! ### The removal -/

section Removal

variable {env : Env} {d c p : Ptr} {w v u : World} {body : Ptr → World → World}
  {note : MuxClient → ℕ → Option (MsgType × List UInt8)} {entry : Ptr → Event}

/-- A client whose connection has come to its end does not listen. -/
theorem Fate.not_listen (h : Fate env p c w v) (ht : Tracked env v) (hmem : c ∈ v.clientList) :
    (v.clients c).state ≠ .listen := by
  cases h with
  | refused hstate htells =>
    cases htells with
    | told t m x _ _ hclient => simp [hclient]
    | untold t _ _ hpass => simp [hpass.client, hstate]
  | closed hstate ws hws habout =>
    have hfreed : .freeClient c ∈ v.about c := by simp [habout]
    have hlive := (ht.ok.client_live c hmem).1
    exact absurd (List.mem_of_mem_filter hfreed) (List.count_eq_zero.mp hlive)

/-- The end of each connection of the device, and the notifications after that. -/
theorem torn_notified (h : Tracked env w) (hd : d ∈ w.deviceList) (hdead : (w.devs d).state = .dead)
    (hn : Notifies d body note entry) :
    (∀ p c, w.registry.Link d p c → Fate env p c w (forEachClient body (tearDownAll env d w)) ∧
      (forEachClient body (tearDownAll env d w)).log.count (.freeConn p) = 1) ∧
    (∀ c ∈ w.clientList, (w.clients c).state = .listen →
      Tells c 0 (note (w.clients c)) [entry c] (fun cl => cl) w (forEachClient body (tearDownAll env d w))) ∧
    (∀ c, (∀ p, ¬ w.registry.Link d p c) → (w.clients c).state ≠ .listen →
      Passes c w (forEachClient body (tearDownAll env d w))) ∧
    (∀ x ≠ d, (forEachClient body (tearDownAll env d w)).devs x = w.devs x) ∧
    ∃ es, (forEachClient body (tearDownAll env d w)).log = w.log ++ es ∧ ∀ e ∈ es, e.device? = none := by
  obtain ⟨htorn, hends⟩ := torn_tearDownAll h hd hdead
  generalize tearDownAll env d w = u at htorn hends ⊢
  obtain ⟨hdevs, es', hlog', hes'⟩ := hn.silent u
  have hnodup : u.clientList.Nodup := htorn.tracked.ok.clients_nodup
  refine ⟨fun p c hl => ⟨?_, ?_⟩, fun c hc hstate => ?_, fun c hno hstate => ?_,
    fun x hx => (hdevs x hx).trans (htorn.devs x hx), ?_⟩
  · obtain ⟨hfate, -⟩ := hends p c hl
    exact .around (.refl c w) hfate (hn.other hnodup (hfate.not_listen htorn.tracked))
  · have hnone : es'.count (.freeConn p) = 0 := List.count_eq_zero.mpr fun hmem => (hes' _ hmem).2 p rfl
    rw [hlog', List.count_append, hnone, (hends p c hl).2]
  · have hpass := htorn.others c fun p hl => h.ok.no_link_of_state (.inr (.inl hstate)) d p hl
    have hbuf : (w.clients c).obBuf ≠ none := by
      intro hnone
      rcases h.armed.buffer c (h.armed.known c hc) hnone with hother | hother <;> rw [hstate] at hother <;> cases hother
    have htells := hn.listener hnodup (hpass.listed.mpr hc) (by rwa [hpass.client]) (by rwa [hpass.client])
    rw [hpass.client] at htells
    exact .around hpass htells (.refl c _)
  · have hpass := htorn.others c hno
    exact hpass.trans (hn.other hnodup fun _ => by rwa [hpass.client])
  · obtain ⟨es, hlog, hes⟩ := htorn.log
    refine ⟨es ++ es', by rw [hlog', hlog, List.append_assoc], fun e he => ?_⟩
    rcases List.mem_append.mp he with he | he
    · exact hes e he
    · exact (hes' e he).1

end Removal

/-- What is left of device `d` after its removal, and what is not touched. -/
structure Removed (env : Env) (d : Ptr) (w w' : World) : Prop where
  /-- The device is off the list, and has been freed; before that nothing is sent to it or to another device. -/
  unlisted : d ∉ w'.deviceList
  log : ∃ es, w'.log = w.log ++ es ++ [.freeDev d] ∧ ∀ e ∈ es, e.device? = none
  /-- Its connections have been freed, once each, and no list has one of them. -/
  freed : ∀ p ∈ w.connections d, w'.log.count (.freeConn p) = 1
  connections : ∀ x ∈ w'.deviceList, ∀ p ∈ w'.connections x, (w'.conns p).dev ≠ d
  /-- No client that is connected or will be has its number. -/
  clients : ∀ c ∈ w'.clientList, Registry.NeedsConn env.Reliable (w'.clients c).state →
    (w'.clients c).connectDevice ≠ (w.devs d).id
  /-- The clients that were had a connection on its list. -/
  linked : ∀ c ∈ w.clientList, Registry.NeedsConn env.Reliable (w.clients c).state →
    (w.clients c).connectDevice = (w.devs d).id → ∃ p, w.registry.Link d p c
  /-- A client that was connecting is in command mode again with one more reply, if there is memory for it. -/
  connecting : ∀ p c, w.registry.Link d p c → (w.clients c).state = .connecting1 →
    Tells c (w.clients c).connectTag ((w.clients c).refusal env) [] (fun cl => { cl with state := .command }) w w'
  /-- A client whose connection was established is closed, once, after what it takes of the in-buffer. -/
  established : ∀ p c, w.registry.Link d p c → (w.clients c).state = .connecting2 ∨ (w.clients c).state = .connected →
    c ∉ w'.clientList ∧ ∃ ws, (∀ e ∈ ws, ∃ bs, e = .wrote p c bs) ∧
      w'.about c = w.about c ++ ws ++ [.closeSocket c, .freeClient c]
  /-- A listener is told once that a visible device has gone, if there is memory for it. -/
  detached : (w.devs d).visible = true → ∀ c ∈ w.clientList, (w.clients c).state = .listen →
    Tells c 0 ((w.clients c).detachedNote env (w.devs d).id) [.detached c (w.devs d).id] (fun cl => cl) w w'
  /-- Of a device that was not visible it is told that it has been removed while it was added. -/
  hidden : (w.devs d).visible = false → ∀ c ∈ w.clientList, (w.clients c).state = .listen →
    Tells c 0 ((w.clients c).pairingNote env (w.deviceInfo env d) .removedDuringAdd)
      [.pairing c (w.devs d).id .removedDuringAdd] (fun cl => cl) w w'
  /-- No other client notices anything, no other device or connection is changed. -/
  others : ∀ c, (∀ p, ¬ w.registry.Link d p c) → (w.clients c).state ≠ .listen → Passes c w w'
  devices : ∀ x ≠ d, w'.devs x = w.devs x ∧ (x ∈ w'.deviceList ↔ x ∈ w.deviceList)
  conns : ∀ p, p ∉ w.connections d → w'.conns p = w.conns p
  /-- With memory to be had there is a message for everyone. -/
  memory : env.Reliable → ∀ (client : MuxClient) (t : ℕ), (client.refusal env t).isSome = true ∧
    ∀ id, (client.detachedNote env id t).isSome = true

theorem message_reliable {env : Env} (hrel : env.Reliable) (t : ℕ) (plist : Plist) (msg : MsgType) (payload : List UInt8)
    (client : MuxClient) : (client.message env t plist msg payload).isSome = true := by
  have hfits : ∀ t length, client.fits env t length := fun t _ _ => hrel.realloc t
  unfold MuxClient.message
  split
  · obtain ⟨xml, hxml⟩ := Option.isSome_iff_exists.mp (hrel.plistToXml t plist)
    rw [hxml, Option.bind_some, if_pos (hfits _ _)]
    rfl
  · rw [if_pos (hfits _ _)]
    rfl

section

variable {env : Env} {d c p : Ptr} {u : UsbDevice} {w : World}

/-- The first thing `device_remove` does with an active device. -/
def markDead (d : Ptr) (w : World) : World := w.setDev d fun dev => { dev with state := .dead }

theorem markDead_connections (d : Ptr) (w : World) : (markDead d w).connections d = w.connections d := by
  simp [markDead, World.connections]

theorem link_markDead : (markDead d w).registry.Link d p c ↔ w.registry.Link d p c := by
  have hmem : p ∈ (markDead d w).connections d ↔ p ∈ w.connections d := by rw [markDead_connections]
  exact ⟨fun hl => ⟨hl.device, hmem.mp hl.conn, hl.client⟩, fun hl => ⟨hl.device, hmem.mpr hl.conn, hl.client⟩⟩

theorem tracked_markDead (h : Tracked env w) (hd : d ∈ w.deviceList) (hactive : (w.devs d).state = .active) :
    Tracked env (markDead d w) :=
  h.after (steps_dying h hd hactive) (DeviceBlock.dead d w).one.turns

/-- The last things `device_remove` does. -/
def dropDevice (d : Ptr) (w : World) : World :=
  releaseDev d (w.setDev d fun dev => { dev with connections := some ⟨[]⟩ })

theorem passes_dropDevice (d c : Ptr) (w : World) : Passes c w (dropDevice d w) :=
  ⟨rfl, Iff.rfl, about_same (releaseDev_log ..) (by simp [Event.client?]), le_rfl⟩

/-- What `device_remove` does for each client. -/
def farewellBody (env : Env) (d : Ptr) (w : World) : Ptr → World → World :=
  if (w.devs d).visible then
    fun c v => if (v.clients c).state = .listen then (notifyDeviceRemove env c (w.devs d).id v).1 else v
  else pairingBody env (w.deviceInfo env d) .removedDuringAdd

/-- The steps of `device_remove`, for a device that is active. -/
theorem deviceRemove_steps (h : Tracked env w) (hfound : findByUsbdev w u = some d)
    (hactive : (w.devs d).state = .active) :
    deviceRemove env u w =
      dropDevice d (forEachClient (farewellBody env d w) (tearDownAll env d (markDead d w))) := by
  have hd : d ∈ w.deviceList := SlotTable.find?_mem hfound
  have hkept := (confined_tearDownAll (tracked_markDead h hd hactive) hd).devs d
  have hcore : (markDead d w).devs d = { w.devs d with state := .dead } := by simp [markDead]
  rw [hcore] at hkept
  unfold deviceRemove
  rw [hfound]
  dsimp only
  rw [if_pos hactive]
  unfold disconnectDevice
  dsimp only
  rw [show (w.setDev d fun dev => { dev with state := .dead }) = markDead d w from rfl]
  generalize tearDownAll env d (markDead d w) = v at hkept ⊢
  have hvisible : (v.devs d).visible = (w.devs d).visible := by
    simpa [MuxDevice.kept] using congrArg MuxDevice.visible hkept
  have hid : (v.devs d).id = (w.devs d).id := by
    simpa [MuxDevice.kept] using congrArg MuxDevice.id hkept
  have husb : (v.devs d).usbdev = (w.devs d).usbdev := by
    simpa [MuxDevice.kept] using congrArg MuxDevice.usbdev hkept
  have hinfo : v.deviceInfo env d = w.deviceInfo env d := by simp [World.deviceInfo, hid, husb]
  rw [hvisible, hid, hinfo]
  unfold farewellBody
  split
  · rfl
  · rfl

theorem notifies_farewellBody (env : Env) (d : Ptr) (w : World) :
    Notifies d (farewellBody env d w)
      (fun client => if (w.devs d).visible then client.detachedNote env (w.devs d).id
        else client.pairingNote env (w.deviceInfo env d) .removedDuringAdd)
      (fun c => if (w.devs d).visible then .detached c (w.devs d).id
        else .pairing c (w.devs d).id .removedDuringAdd) := by
  unfold farewellBody
  split
  · exact notifies_deviceRemove env d (w.devs d).id
  · exact notifies_pairing env d (w.deviceInfo env d) .removedDuringAdd

/-- The connections of other devices are not touched. -/
theorem conns_deviceRemove (h : Tracked env w) (hfound : findByUsbdev w u = some d)
    (hactive : (w.devs d).state = .active) (hp : p ∉ w.connections d) :
    (deviceRemove env u w).conns p = w.conns p := by
  have hd : d ∈ w.deviceList := SlotTable.find?_mem hfound
  have hloop := (confined_tearDownAll (tracked_markDead h hd hactive) hd).conns p (by rwa [markDead_connections])
  have hbody : ∀ v : World, (forEachClient (farewellBody env d w) v).conns p = v.conns p := by
    intro v
    unfold farewellBody
    split
    · exact (Confined.clientDeviceRemove (P := fun _ => False) env (w.devs d).id v).conns p id
    · exact (Confined.clientDevicePairingEvent (P := fun _ => False) env (w.deviceInfo env d) .removedDuringAdd
        false v).conns p id
  rw [deviceRemove_steps h hfound hactive]
  exact (hbody _).trans hloop

/-- A client that needs a connection has one, with the device whose number it has. -/
theorem Tracked.owner (h : Tracked env w) (hc : c ∈ w.clientList)
    (hneeds : Registry.NeedsConn env.Reliable (w.clients c).state) :
    ∃ x p, w.registry.Link x p c ∧ (w.clients c).connectDevice = (w.devs x).id := by
  obtain ⟨x, p, hl⟩ := h.ok.owned c hc (by simp) hneeds
  exact ⟨x, p, hl, (h.ok.link_client hl).2.1⟩

/-- A device that is active is removed with all that belongs to it, and nothing else. -/
theorem removed_of_steady (hs : Steady env w) (hfound : findByUsbdev w u = some d)
    (hactive : (w.devs d).state = .active) : Removed env d w (deviceRemove env u w) := by
  have h := hs.tracked
  have hd : d ∈ w.deviceList := SlotTable.find?_mem hfound
  have hend : Steady env (deviceRemove env u w) := steady_exec hs (.usb (.deviceRemove u))
  have hnodup : w.deviceList.Nodup := h.ok.devices_nodup
  have hlist : (deviceRemove env u w).deviceList = w.deviceList.remove d := by
    unfold deviceRemove
    rw [hfound]
    dsimp only
    rw [if_pos hactive, releaseDev_deviceList, (disconnectDevice_spec h hd hactive).2.1]
  have hunlisted : d ∉ (deviceRemove env u w).deviceList := by
    rw [hlist]
    exact fun hmem => ((SlotTable.mem_remove hnodup).mp hmem).1 rfl
  have hconns : ∀ p, p ∉ w.connections d → (deviceRemove env u w).conns p = w.conns p :=
    fun p => conns_deviceRemove h hfound hactive
  have hdead : ((markDead d w).devs d).state = .dead := by simp [markDead]
  have hstart : ∀ c, Passes c w (markDead d w) := fun c => .of_eq rfl rfl rfl rfl
  obtain ⟨hends, hlisteners, hothers, hdevs, es, hlog, hes⟩ :=
    torn_notified (tracked_markDead h hd hactive) hd hdead (notifies_farewellBody env d w)
  rw [deviceRemove_steps h hfound hactive] at *
  have hfinish : ∀ c, Passes c (forEachClient (farewellBody env d w) (tearDownAll env d (markDead d w))) _ :=
    fun c => passes_dropDevice d c _
  generalize forEachClient (farewellBody env d w) (tearDownAll env d (markDead d w)) = v at *
  have hdevices : ∀ x ≠ d, (dropDevice d v).devs x = w.devs x := by
    intro x hx
    simpa [dropDevice, markDead, hx] using hdevs x hx
  have hids : ∀ x ∈ (dropDevice d v).deviceList, ((dropDevice d v).devs x).id ≠ (w.devs d).id := by
    intro x hx heq
    have hne : x ≠ d := fun hxd => hunlisted (hxd ▸ hx)
    rw [hdevices x hne] at heq
    rw [hlist] at hx
    exact hne (h.ok.ids x (SlotTable.mem_of_mem_remove hx) d hd heq)
  have hfate : ∀ p c, w.registry.Link d p c → Fate env p c w (dropDevice d v) := fun p c hl =>
    .around (hstart c) (hends p c (link_markDead.mpr hl)).1 (hfinish c)
  have htold : ∀ c ∈ w.clientList, (w.clients c).state = .listen → Tells c 0
      (if (w.devs d).visible then (w.clients c).detachedNote env (w.devs d).id
        else (w.clients c).pairingNote env (w.deviceInfo env d) .removedDuringAdd)
      [if (w.devs d).visible then .detached c (w.devs d).id else .pairing c (w.devs d).id .removedDuringAdd]
      (fun cl => cl) w (dropDevice d v) := fun c hc hstate => .around (hstart c) (hlisteners c hc hstate) (hfinish c)
  constructor
  case unlisted => exact hunlisted
  case log => exact ⟨es, by rw [dropDevice, releaseDev_log, setDev_log, hlog]; rfl, hes⟩
  case freed =>
    intro p hp
    obtain ⟨c, hl⟩ := h.ok.link_of_mem hd hp
    have hcount := (hends p c (link_markDead.mpr hl)).2
    rw [dropDevice, releaseDev_log, setDev_log, List.count_append, hcount]
    simp
  case connections =>
    intro x hx p hp
    have hdev : ((dropDevice d v).conns p).dev = x := hend.tracked.ok.conn_dev x hx p hp
    rw [hdev]
    rintro rfl
    exact hunlisted hx
  case clients =>
    intro c hc hneeds
    obtain ⟨x, p, hl, hid⟩ := hend.tracked.owner hc hneeds
    rw [hid]
    exact hids x hl.device
  case linked =>
    intro c hc hneeds hid
    obtain ⟨x, p, hl, hid'⟩ := h.owner hc hneeds
    obtain rfl : x = d := h.ok.ids x hl.device d hd (hid'.symm.trans hid)
    exact ⟨p, hl⟩
  case connecting =>
    intro p c hl hstate
    cases hfate p c hl with
    | refused _ htells => exact htells
    | closed hother =>
      rw [hstate] at hother
      rcases hother with hother | hother <;> cases hother
  case established =>
    intro p c hl hstate
    cases hfate p c hl with
    | refused hother =>
      rw [hother] at hstate
      rcases hstate with hstate | hstate <;> cases hstate
    | closed _ ws hws habout =>
      refine ⟨hend.unlisted ?_, ws, hws, habout⟩
      have hfreed : .freeClient c ∈ (dropDevice d v).about c := by simp [habout]
      exact List.mem_of_mem_filter hfreed
  case detached =>
    intro hvisible c hc hstate
    have htells := htold c hc hstate
    rwa [hvisible] at htells
  case hidden =>
    intro hhidden c hc hstate
    have htells := htold c hc hstate
    rwa [hhidden] at htells
  case others =>
    intro c hno hstate
    exact ((hstart c).trans (hothers c (fun p hl => hno p (link_markDead.mp hl)) hstate)).trans (hfinish c)
  case devices =>
    intro x hx
    refine ⟨hdevices x hx, ?_⟩
    rw [hlist, SlotTable.mem_remove hnodup]
    exact and_iff_right hx
  case conns => exact hconns
  case memory => exact fun hrel client t => ⟨message_reliable hrel .., fun id => message_reliable hrel ..⟩

/-- After every run, a device that is active is removed with all that belongs to it, and nothing else. -/
theorem removed_run (env : Env) (ops : List Op) (u : UsbDevice) (d : Ptr) (hfound : findByUsbdev (run env ops) u = some d)
    (hactive : ((run env ops).devs d).state = .active) :
    Removed env d (run env ops) (deviceRemove env u (run env ops)) :=
  removed_of_steady (steady_run env ops) hfound hactive

/-- A device goes that has a connection. -/
theorem removed_connectOps : Removed .asking 1 (run .asking connectOps) (deviceRemove .asking 5 (run .asking connectOps)) :=
  removed_run .asking connectOps 5 1 (by decide +kernel) (by decide +kernel)

/-- An outside where a client asks for port 80 of device `1` with a property list, and there is no memory for the
property list of a reply. -/
def Env.exhausted : Env where
  __ := quiet
  recv t := if t = 1 then le32 17 ++ le32 1 ++ le32 8 ++ le32 7 else [0]
  plistFromXml _ := some (.dict [("MessageType", .string (cstr "Connect")), ("DeviceID", .uint 1), ("PortNumber", .uint 80)])
  plistToXml _ _ := none

/-- Without memory a client that was connecting is not told, and goes on waiting for the device that is gone. -/
theorem not_refused_removed :
    (run .exhausted (connectOps.take 5)).registry.Link 1 3 2 ∧
      ((run .exhausted (connectOps.take 5)).clients 2).state = .connecting1 ∧
      findByUsbdev (run .exhausted (connectOps.take 5)) 5 = some 1 ∧
      ((run .exhausted (connectOps.take 5)).devs 1).state = .active ∧
      2 ∈ (deviceRemove .exhausted 5 (run .exhausted (connectOps.take 5))).clientList ∧
      ((deviceRemove .exhausted 5 (run .exhausted (connectOps.take 5))).clients 2).state = .connecting1 ∧
      (deviceRemove .exhausted 5 (run .exhausted (connectOps.take 5))).about 2 =
        (run .exhausted (connectOps.take 5)).about 2 := by
  refine ⟨⟨?_, ?_, ?_⟩, ?_⟩
  all_goals decide +kernel

end

end Usbmuxd
