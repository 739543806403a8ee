import Usbmuxd.Foundation.Subscription
import Usbmuxd.Registry.Teardown
import Usbmuxd.Runs.Upheld

/-!
# What listeners are told

A listening client is told of a device in three places: when it begins to listen, when the device is
announced, and when the device is removed. Here each of them is computed; all else that the daemon
does tells nobody anything, and neither makes a client listen nor changes what devices there are.

## The model

* `World.notices` — what a client has been told about a device.
* `Aside w w'` — nothing has happened that concerns the listeners, but that clients may have gone.
* `Informed heard w w'` — clients have been told what `heard` says, and nothing else has happened.

## What is proved

* `Carried.of_aside` — the traffic is aside.
* `told_announceDevice`, `told_clientDeviceRemove`, `told_startListen` — who is told what.
-/

namespace Usbmuxd

open World Subscription

/-! ### Notices -/

/-- What an entry of the log tells a client about a device. -/
def Event.notice (c : Ptr) (id : ℕ) : Event → Option Notice
  | .attached c' id' => if c' = c ∧ id' = id then some .appeared else none
  | .detached c' id' => if c' = c ∧ id' = id then some .vanished else none
  | _ => none

/-- What a client has been told about a device. -/
def World.notices (w : World) (c : Ptr) (id : ℕ) : List Notice := w.log.filterMap (·.notice c id)

/-- An entry that tells a client of a device, or starts the thread of one. -/
def Event.isNews : Event → Bool
  | .attached .. | .detached .. | .preflight .. => true
  | _ => false

/-- What a listener may see of a device. -/
structure Display where
  id : ℕ
  state : MuxDevState
  visible : Bool

/-- What a listener may see of the device. -/
def MuxDevice.display (dev : MuxDevice) : Display := ⟨dev.id, dev.state, dev.visible⟩

/-- The listeners that are there, and the devices, stay what they are. -/
structure Stays (w w' : World) : Prop where
  listens : ∀ c, (w'.clients c).state = .listen ↔ (w.clients c).state = .listen
  armed : ∀ c, (w.clients c).Armed → (w'.clients c).Armed
  deviceList : w'.deviceList = w.deviceList
  nextDeviceId : w'.nextDeviceId = w.nextDeviceId
  display : ∀ d, (w'.devs d).display = (w.devs d).display
  preflight : ∀ id, .preflight id ∈ w'.log ↔ .preflight id ∈ w.log

/-- Nothing has happened that concerns the listeners, but that clients may have gone. -/
structure Aside (w w' : World) : Prop extends Stays w w' where
  fresh : w.fresh ≤ w'.fresh
  listed : ∀ c ∈ w'.clientList, c ∈ w.clientList
  nodup : w.clientList.Nodup → w'.clientList.Nodup
  notices : ∀ c id, w'.notices c id = w.notices c id

/-- Clients have been told of devices, and nothing else has happened. -/
structure Informed (heard : Ptr → ℕ → List Notice) (w w' : World) : Prop extends Stays w w' where
  fresh : w'.fresh = w.fresh
  clientList : w'.clientList = w.clientList
  notices : ∀ c id, w'.notices c id = w.notices c id ++ heard c id

section Basics

variable {w w' w'' : World} {heard heard' : Ptr → ℕ → List Notice} {c : Ptr}

theorem Stays.refl (w : World) : Stays w w := ⟨fun _ => .rfl, fun _ => id, rfl, rfl, fun _ => rfl, fun _ => .rfl⟩

theorem Stays.trans (h : Stays w w') (h' : Stays w' w'') : Stays w w'' :=
  ⟨fun c => (h'.listens c).trans (h.listens c), fun c harmed => h'.armed c (h.armed c harmed),
    h'.deviceList.trans h.deviceList, h'.nextDeviceId.trans h.nextDeviceId, fun d => (h'.display d).trans (h.display d),
    fun id => (h'.preflight id).trans (h.preflight id)⟩

theorem Aside.refl (w : World) : Aside w w := ⟨.refl w, le_rfl, fun _ => id, id, fun _ _ => rfl⟩

theorem Aside.trans (h : Aside w w') (h' : Aside w' w'') : Aside w w'' :=
  ⟨h.toStays.trans h'.toStays, h.fresh.trans h'.fresh, fun c hc => h.listed c (h'.listed c hc),
    fun hn => h'.nodup (h.nodup hn), fun c id => (h'.notices c id).trans (h.notices c id)⟩

theorem Informed.refl (w : World) : Informed (fun _ _ => []) w w := ⟨.refl w, rfl, rfl, fun _ _ => (List.append_nil _).symm⟩

theorem Informed.trans (h : Informed heard w w') (h' : Informed heard' w' w'') :
    Informed (fun c id => heard c id ++ heard' c id) w w'' :=
  ⟨h.toStays.trans h'.toStays, h'.fresh.trans h.fresh, h'.clientList.trans h.clientList, fun c id => by
    rw [h'.notices, h.notices, List.append_assoc]⟩

/-- What is told may be said in another way. -/
theorem Informed.congr (h : Informed heard w w') (heq : ∀ c id, heard c id = heard' c id) : Informed heard' w w' :=
  ⟨h.toStays, h.fresh, h.clientList, fun c id => heq c id ▸ h.notices c id⟩

theorem notices_append {es : List Event} (hlog : w'.log = w.log ++ es) (c : Ptr) (id : ℕ) :
    w'.notices c id = w.notices c id ++ es.filterMap (·.notice c id) := by
  rw [World.notices, hlog, List.filterMap_append]
  rfl

theorem Event.notice_of_not_isNews {e : Event} (h : e.isNews = false) (c : Ptr) (id : ℕ) : e.notice c id = none := by
  cases e with
  | attached => cases h
  | detached => cases h
  | _ => rfl

/-- The log has grown by no news. -/
theorem notices_of_grows (h : w.Grows (fun e => !e.isNews) w') (c : Ptr) (id : ℕ) : w'.notices c id = w.notices c id := by
  obtain ⟨es, hlog, hes⟩ := h
  rw [notices_append hlog, List.filterMap_eq_nil_iff.mpr, List.append_nil]
  intro e he
  exact Event.notice_of_not_isNews (by simpa using hes e he) c id

theorem preflight_of_grows (h : w.Grows (fun e => !e.isNews) w') (id : ℕ) :
    .preflight id ∈ w'.log ↔ .preflight id ∈ w.log := ⟨h.old rfl, h.mem⟩

theorem Event.not_isNews_of_ofConn (e : Event) (h : e.ofConn = true) : (!e.isNews) = true := by
  cases e <;> simp_all [ofConn, isNews]

theorem MuxDevice.display_of_core {dev dev' : MuxDevice} (h : dev'.core = dev.core) : dev'.display = dev.display := by
  have hid := congrArg DeviceCore.id h
  have hstate := congrArg DeviceCore.state h
  have hvisible := congrArg DeviceCore.visible h
  simp only [core] at hid hstate hvisible
  rw [display, display, hid, hstate, hvisible]

end Basics

/-! ### What is aside -/

section AsideLemmas

variable {env : Env} {w w' : World} {c : Ptr}

theorem Aside.conn (h : ConnWork w w') : Aside w w' where
  listens c := by rw [h.clients]
  armed c harmed := by rwa [h.clients]
  deviceList := h.deviceList
  nextDeviceId := h.nextDeviceId
  display d := MuxDevice.display_of_core (h.core d)
  preflight := preflight_of_grows (h.log.mono Event.not_isNews_of_ofConn)
  fresh := h.fresh
  listed c hc := h.clientList ▸ hc
  nodup hn := h.clientList ▸ hn
  notices := notices_of_grows (h.log.mono Event.not_isNews_of_ofConn)

theorem Aside.emit {e : Event} (h : e.isNews = false) (w : World) : Aside w (w.emit e) := by
  have hgrows : w.Grows (fun e => !e.isNews) (w.emit e) := .one rfl (by simpa using h)
  exact ⟨⟨fun _ => .rfl, fun _ => id, rfl, rfl, fun _ => rfl, preflight_of_grows hgrows⟩, le_rfl, fun _ => id, id,
    notices_of_grows hgrows⟩

theorem Aside.setClient {f : MuxClient → MuxClient}
    (hstate : (f (w.clients c)).state = .listen ↔ (w.clients c).state = .listen)
    (harmed : (w.clients c).Armed → (f (w.clients c)).Armed) : Aside w (w.setClient c f) := by
  refine ⟨⟨fun c' => ?_, fun c' => ?_, rfl, rfl, fun _ => rfl, fun _ => .rfl⟩, le_rfl, fun _ => id, id, fun _ _ => rfl⟩
  · by_cases hc : c' = c
    · subst hc
      rwa [setClient_clients, Function.update_self]
    · rw [setClient_clients, Function.update_of_ne hc]
  · by_cases hc : c' = c
    · subst hc
      rwa [setClient_clients, Function.update_self]
    · rw [setClient_clients, Function.update_of_ne hc]
      exact id

/-- A change of a client that does not concern its state or its reply buffer. -/
theorem Aside.setClient_same {f : MuxClient → MuxClient} (hf : ∀ cl, (f cl).standing = cl.standing) :
    Aside w (w.setClient c f) := by
  have hstate := congrArg Standing.state (hf (w.clients c))
  have hbuf := congrArg Standing.obBuf (hf (w.clients c))
  refine .setClient (by simp only [MuxClient.standing] at hstate; rw [hstate]) fun harmed hnone => ?_
  simp only [MuxClient.standing] at hstate hbuf
  rw [hstate]
  exact harmed (hbuf ▸ hnone)

theorem Aside.enlargeOutBuffer (env : Env) (c : Ptr) (length : UInt32) (w : World) :
    Aside w (enlargeOutBuffer env c length w).1 := by
  unfold Usbmuxd.enlargeOutBuffer
  dsimp only
  split
  · split
    · dsimp only
      exact (Aside.conn (.tock w)).trans (.setClient .rfl fun _ hnone => absurd hnone (by simp))
    · exact .conn (.tock w)
  · exact .refl w

theorem Aside.sendPkt (env : Env) (c : Ptr) (tag : UInt32) (msg : MsgType) (payload : List UInt8) (w : World) :
    Aside w (sendPkt env c tag msg payload w).1 := by
  have hroom := Aside.enlargeOutBuffer env c (usbmuxdHeaderSize + UInt32.ofNat payload.length) w
  unfold Usbmuxd.sendPkt
  dsimp only
  split
  · split
    · exact hroom.trans (.emit rfl _)
    · dsimp only
      exact (hroom.trans (.setClient .rfl fun _ hnone => absurd hnone (by simp))).trans (.emit rfl _)
  · exact hroom

theorem Aside.sendPlistPkt (env : Env) (c : Ptr) (tag : UInt32) (plist : Plist) (w : World) :
    Aside w (sendPlistPkt env c tag plist w).1 := by
  unfold Usbmuxd.sendPlistPkt
  split
  · exact .conn (.tock w)
  · exact (Aside.conn (.tock w)).trans (.sendPkt ..)

theorem Aside.sendResult (env : Env) (c : Ptr) (tag result : UInt32) (w : World) :
    Aside w (sendResult env c tag result w).1 := by
  unfold Usbmuxd.sendResult
  split
  · exact .sendPlistPkt ..
  · exact .sendPkt ..

theorem Aside.clientNotifyConnect (env : Env) (c : Ptr) (result : UInt32) (w : World) :
    Aside w (clientNotifyConnect env c result w).1 := by
  unfold Usbmuxd.clientNotifyConnect
  split
  · exact .refl w
  · rename_i hstate
    replace hstate := (state_eq (registry_sendResult env c w (w.clients c).connectTag result) c).trans (not_not.mp hstate)
    have hsent := Aside.sendResult env c (w.clients c).connectTag result w
    generalize Usbmuxd.sendResult env c (w.clients c).connectTag result w = r at hstate hsent
    dsimp only
    split
    · split
      · dsimp only
        refine hsent.trans (.setClient (by simp [hstate]) fun harmed hnone => ?_)
        simpa [hstate] using harmed hnone
      · dsimp only
        refine hsent.trans (.setClient (by simp [hstate]) fun harmed hnone => ?_)
        simpa [hstate] using harmed hnone
    · exact hsent

theorem Aside.afterSend (c : Ptr) (size : ℕ) (w : World) : Aside w (w.setClient c (·.afterSend size)) := by
  refine .setClient ?_ fun harmed => harmed.afterSend size
  unfold MuxClient.afterSend
  split
  · split
    · rename_i hstate
      simp [hstate]
    · exact .rfl
  · exact .rfl

theorem Aside.releaseClient (c : Ptr) (w : World) : Aside w (releaseClient c w) := by
  have hgrows : w.Grows (fun e => !e.isNews) (Usbmuxd.releaseClient c w) :=
    ⟨[.closeSocket c, .freeClient c], rfl, by simp [Event.isNews]⟩
  exact ⟨⟨fun _ => .rfl, fun _ => id, rfl, rfl, fun _ => rfl, preflight_of_grows hgrows⟩, le_rfl,
    fun _ hc => SlotTable.mem_of_mem_remove hc, fun hn => hn.remove c, notices_of_grows hgrows⟩

theorem Aside.clientDevicePairingEvent (env : Env) (info : DeviceInfo) (event : PairingEvent) (validate : Bool)
    (w : World) : Aside w (clientDevicePairingEvent env info event validate w) := by
  unfold Usbmuxd.clientDevicePairingEvent
  split
  · refine forEach_keeps (P := Aside w) (fun c v _ hv => ?_) _ _ (.refl w)
    split
    · have hsent := hv.trans (.sendPlistPkt env c 0 (devicePairingEventPlist info event) v)
      dsimp only
      split
      · exact hsent.trans (.emit rfl _)
      · exact hsent
    · exact hv
  · exact .refl w

/-- What looks only at the listeners is carried by the traffic. -/
theorem Carried.of_aside {greets : Prop} {P : World → Prop} (h : ∀ {w w'}, Aside w w' → P w → P w') :
    Carried env greets P where
  conn hf hw := h (.conn hf) hw
  emit {_ e} he hw := h (.emit (by cases e <;> simp_all [Event.isQuiet, Event.isNews]) _) hw
  setClient _ _ hf hw := h (.setClient_same hf) hw
  notifyConnect _ _ _ hw := h (.clientNotifyConnect ..) hw
  dead c hstate hw := h (.setClient (by obtain hs | hs := hstate <;> simp [hs]) fun _ _ => .inr rfl) hw
  afterSend c size hw := h (.afterSend c size _) hw
  releaseClient c hw := h (.releaseClient c _) hw

end AsideLemmas

/-! ### Who is told what -/

section Telling

variable {env : Env} {w : World} {c : Ptr}

/-- What one client hears of one device. -/
def hears (c : Ptr) (id : ℕ) (notice : Notice) (c' : Ptr) (id' : ℕ) : List Notice :=
  if c' = c ∧ id' = id then [notice] else []

/-- What is aside and leaves the registry as it is tells nobody anything. -/
theorem Aside.told {w' : World} (h : Aside w w') (hreg : w'.registry = w.registry) : Informed (fun _ _ => []) w w' :=
  ⟨h.toStays, congrArg Registry.fresh hreg, congrArg Registry.clientList hreg, fun c id => by
    rw [h.notices, List.append_nil]⟩

/-- A message has been queued, and then the entry for it. -/
theorem Aside.notified {w' : World} {id : ℕ} {notice : Notice} {e : Event} (h : Aside w w')
    (hreg : w'.registry = w.registry)
    (he : ∀ c' id', (e.notice c' id').toList = hears c id notice c' id') (hpreflight : ∀ id, e ≠ .preflight id) :
    Informed (hears c id notice) w (w'.emit e) := by
  have htold := h.told hreg
  refine ⟨⟨h.listens, h.armed, h.deviceList, h.nextDeviceId, h.display, fun id' => ?_⟩, htold.fresh, htold.clientList,
    fun c' id' => ?_⟩
  · rw [← h.preflight, emit_log, List.mem_append, List.mem_singleton, or_iff_left fun heq => hpreflight id' heq.symm]
  · rw [notices_append (show (w'.emit e).log = w'.log ++ [e] from rfl), h.notices, ← he]
    cases hnotice : e.notice c' id' <;> simp [hnotice]

theorem listener_armed (hstate : (w.clients c).state = .listen) (harmed : (w.clients c).Armed) :
    (w.clients c).obBuf ≠ none := by
  intro hnone
  simpa [hstate] using harmed hnone

theorem sendPlistPkt_reliable (hrel : env.Reliable) (hbuf : (w.clients c).obBuf ≠ none) (tag : UInt32) (plist : Plist) :
    (sendPlistPkt env c tag plist w).2 = true := by
  unfold sendPlistPkt
  split
  · rename_i hnone
    have hsome := hrel.plistToXml w.tick plist
    rw [hnone] at hsome
    cases hsome
  · exact sendPkt_reliable hrel (by simpa using hbuf) ..

theorem told_notifyDeviceAdd (hrel : env.Reliable) (hbuf : (w.clients c).obBuf ≠ none) (info : DeviceInfo) :
    Informed (hears c info.id .appeared) w (notifyDeviceAdd env c info w).1 ∧ (notifyDeviceAdd env c info w).2 = true := by
  unfold notifyDeviceAdd
  dsimp only
  generalize hr : (if (w.clients c).protoVersion = 1 then _ else _ : World × Bool) = r
  have hsent : Aside w r.1 ∧ r.1.registry = w.registry ∧ r.2 = true := by
    subst hr
    split
    · exact ⟨.sendPlistPkt .., registry_sendPlistPkt .., sendPlistPkt_reliable hrel hbuf ..⟩
    · exact ⟨.sendPkt .., registry_sendPkt .., sendPkt_reliable hrel hbuf ..⟩
  obtain ⟨haside, hreg, hok⟩ := hsent
  rw [if_pos hok]
  refine ⟨haside.notified hreg (fun c' id' => ?_) nofun, rfl⟩
  by_cases heq : c = c' ∧ info.id = id'
  · rw [Event.notice, hears, if_pos heq, if_pos ⟨heq.1.symm, heq.2.symm⟩]
    rfl
  · rw [Event.notice, hears, if_neg heq, if_neg fun h => heq ⟨h.1.symm, h.2.symm⟩]
    rfl

theorem told_notifyDeviceRemove (hrel : env.Reliable) (hbuf : (w.clients c).obBuf ≠ none) (id : ℕ) :
    Informed (hears c id .vanished) w (notifyDeviceRemove env c id w).1 := by
  unfold notifyDeviceRemove
  dsimp only
  generalize hr : (if (w.clients c).protoVersion = 1 then _ else _ : World × Bool) = r
  have hsent : Aside w r.1 ∧ r.1.registry = w.registry ∧ r.2 = true := by
    subst hr
    split
    · exact ⟨.sendPlistPkt .., registry_sendPlistPkt .., sendPlistPkt_reliable hrel hbuf ..⟩
    · exact ⟨.sendPkt .., registry_sendPkt .., sendPkt_reliable hrel hbuf ..⟩
  obtain ⟨haside, hreg, hok⟩ := hsent
  rw [if_pos hok]
  refine haside.notified hreg (fun c' id' => ?_) nofun
  by_cases heq : c = c' ∧ id = id'
  · rw [Event.notice, hears, if_pos heq, if_pos ⟨heq.1.symm, heq.2.symm⟩]
    rfl
  · rw [Event.notice, hears, if_neg heq, if_neg fun h => heq ⟨h.1.symm, h.2.symm⟩]
    rfl

/-- What the listeners among some clients hear of one device. -/
def audience (w : World) (clients : List Ptr) (id : ℕ) (notice : Notice) (c : Ptr) (id' : ℕ) : List Notice :=
  if c ∈ clients ∧ (w.clients c).state = .listen ∧ id' = id then [notice] else []

/-- A loop that notifies the listeners among some clients, each of which occurs once. -/
theorem told_foldl {notify : Ptr → World → World} {id : ℕ} {notice : Notice}
    (hnotify : ∀ c v, (v.clients c).obBuf ≠ none → Informed (hears c id notice) v (notify c v)) (clients : List Ptr)
    (hnodup : clients.Nodup) (harmed : ∀ c ∈ clients, (w.clients c).Armed) :
    Informed (audience w clients id notice) w
      (clients.foldl (fun v c => if (v.clients c).state = .listen then notify c v else v) w) := by
  induction clients generalizing w with
  | nil => exact (Informed.refl w).congr fun c id' => by simp [audience]
  | cons c rest ih =>
    rw [List.nodup_cons] at hnodup
    have hfirst : Informed (fun c' id' => if (w.clients c).state = .listen then hears c id notice c' id' else []) w
        (if (w.clients c).state = .listen then notify c w else w) := by
      split
      · rename_i hstate
        exact hnotify c w (listener_armed hstate (harmed c List.mem_cons_self))
      · exact .refl w
    rw [List.foldl_cons]
    generalize (if (w.clients c).state = .listen then notify c w else w) = v at hfirst
    have hrest := ih hnodup.2 fun c' hc' => hfirst.armed c' (harmed c' (List.mem_cons_of_mem c hc'))
    refine (hfirst.trans hrest).congr fun c' id' => ?_
    simp only [audience, hears, hfirst.listens, List.mem_cons]
    by_cases hc : c' = c
    · subst hc
      simp [hnodup.1, ite_and]
    · simp [hc]

theorem told_forEachClient {notify : Ptr → World → World} {id : ℕ} {notice : Notice}
    (hlist : ∀ c v, (notify c v).clientList = v.clientList)
    (hnotify : ∀ c v, (v.clients c).obBuf ≠ none → Informed (hears c id notice) v (notify c v))
    (hnodup : w.clientList.Nodup) (harmed : ∀ c ∈ w.clientList, (w.clients c).Armed) :
    Informed (audience w w.clientList.elements id notice) w
      (forEachClient (fun c v => if (v.clients c).state = .listen then notify c v else v) w) := by
  unfold forEachClient
  rw [SlotTable.forEach_fixed]
  · exact told_foldl hnotify _ hnodup harmed
  · intro c v
    split
    · exact hlist c v
    · rfl

/-- The announcement of a device. -/
theorem told_announceDevice (hrel : env.Reliable) (hnodup : w.clientList.Nodup)
    (harmed : ∀ c ∈ w.clientList, (w.clients c).Armed) (info : DeviceInfo) :
    Informed (audience w w.clientList.elements info.id .appeared) w (announceDevice env info w) :=
  told_forEachClient (fun c v => congrArg Registry.clientList (registry_notifyDeviceAdd env c v info))
    (fun _ _ hbuf => (told_notifyDeviceAdd hrel hbuf info).1) hnodup harmed

/-- The notice that a device has been removed. -/
theorem told_clientDeviceRemove (hrel : env.Reliable) (hnodup : w.clientList.Nodup)
    (harmed : ∀ c ∈ w.clientList, (w.clients c).Armed) (id : ℕ) :
    Informed (audience w w.clientList.elements id .vanished) w (clientDeviceRemove env id w) :=
  told_forEachClient (fun c v => congrArg Registry.clientList (registry_notifyDeviceRemove env c v id))
    (fun _ _ hbuf => told_notifyDeviceRemove hrel hbuf id) hnodup harmed

theorem told_notifyAll (hrel : env.Reliable) (infos : List DeviceInfo) (hstate : (w.clients c).state = .listen)
    (harmed : (w.clients c).Armed) :
    Informed (fun c' id' => if c' = c then (infos.filter (·.id = id')).map fun _ => .appeared else []) w
      (notifyAll env c infos w) := by
  induction infos generalizing w with
  | nil => exact (Informed.refl w).congr fun c' id' => by simp
  | cons info rest ih =>
    obtain ⟨htold, hok⟩ := told_notifyDeviceAdd hrel (listener_armed hstate harmed) info
    unfold notifyAll
    dsimp only
    rw [if_pos hok]
    refine (htold.trans (ih ((htold.listens c).mpr hstate) (htold.armed c harmed))).congr fun c' id' => ?_
    by_cases hc : c' = c
    · by_cases hid : info.id = id'
      · simp [hears, hc, hid]
      · simp [hears, hc, hid, Ne.symm hid]
    · simp [hears, hc]

end Telling

end Usbmuxd
