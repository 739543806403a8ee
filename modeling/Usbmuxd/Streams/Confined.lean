import Usbmuxd.Registry.Refinement
import Usbmuxd.Streams.Channel
import Usbmuxd.Streams.Framing

/-!
# Steps that stay with one connection

What is done for a connection touches its record, its client's record and their places on
the lists, and says nothing about any other connection or client. This module shows it for
each function that works for a connection or for a client.

## The model

* `Confined P C` — a step that is about the connections in `P` and the clients in `C` only.
* `Bound p c` — connection `p` belongs to client `c`, and no lookup for the client finds another.

## What is proved

* `Confined.sendTcp`, `Confined.tearDown`, `Confined.deviceClientProcess`, … — one for each function.
* `Confined.history`, `Confined.mail` — what the log says of the others is what it said before.
-/

namespace Usbmuxd

open World Relation

/-- The entries with which a connection begins, and with which it is looked up. -/
def Event.opens : Event → Bool
  | .start _ | .tcpInput .. => true
  | _ => false

/-- An entry that is about the connections in `P` and the clients in `C`, and makes and looks up no connection. -/
structure Event.About (P C : Ptr → Prop) (e : Event) : Prop where
  conn : ∀ p, e.conn? = some p → P p
  client : ∀ c, e.mail? = some c → C c
  opens : e.opens = false

/-- A device, but for its list of connections and its two counters. -/
def MuxDevice.kept (dev : MuxDevice) : MuxDevice := { dev with connections := none, txSeq := 0, rxSeq := 0 }

/-- A step that is about the connections in `P` and the clients in `C` only. -/
structure Confined (P C : Ptr → Prop) (w w' : World) : Prop where
  conns : ∀ p, ¬ P p → w'.conns p = w.conns p
  clients : ∀ c, ¬ C c → w'.clients c = w.clients c
  connections : ∀ d p, ¬ P p → (p ∈ w'.connections d ↔ p ∈ w.connections d)
  clientList : ∀ c, ¬ C c → (c ∈ w'.clientList ↔ c ∈ w.clientList)
  deviceList : w'.deviceList = w.deviceList
  devs : ∀ d, (w'.devs d).kept = (w.devs d).kept
  log : ∃ es, w'.log = w.log ++ es ∧ ∀ e ∈ es, e.About P C

namespace Confined

variable {env : Env} {P C : Ptr → Prop} {w w' w'' : World} {d p c : Ptr}

theorem refl (w : World) : Confined P C w w :=
  ⟨fun _ _ => rfl, fun _ _ => rfl, fun _ _ _ => Iff.rfl, fun _ _ => Iff.rfl, rfl, fun _ => rfl, [], by simp, by simp⟩

theorem trans (h : Confined P C w w') (h' : Confined P C w' w'') : Confined P C w w'' := by
  obtain ⟨es, hlog, hes⟩ := h.log
  obtain ⟨es', hlog', hes'⟩ := h'.log
  refine ⟨fun p hp => (h'.conns p hp).trans (h.conns p hp), fun c hc => (h'.clients c hc).trans (h.clients c hc),
    fun d p hp => (h'.connections d p hp).trans (h.connections d p hp),
    fun c hc => (h'.clientList c hc).trans (h.clientList c hc), h'.deviceList.trans h.deviceList,
    fun d => (h'.devs d).trans (h.devs d), es ++ es', by rw [hlog', hlog, List.append_assoc], fun e he => ?_⟩
  rcases List.mem_append.mp he with he | he
  · exact hes e he
  · exact hes' e he

/-- A step about fewer records. -/
theorem mono {P' C' : Ptr → Prop} (h : Confined P C w w') (hP : ∀ p, P p → P' p) (hC : ∀ c, C c → C' c) :
    Confined P' C' w w' := by
  obtain ⟨es, hlog, hes⟩ := h.log
  exact ⟨fun p hp => h.conns p fun hp' => hp (hP p hp'), fun c hc => h.clients c fun hc' => hc (hC c hc'),
    fun d p hp => h.connections d p fun hp' => hp (hP p hp'), fun c hc => h.clientList c fun hc' => hc (hC c hc'),
    h.deviceList, h.devs, es, hlog, fun e he => ⟨fun p hp => hP p ((hes e he).conn p hp),
      fun c hc => hC c ((hes e he).client c hc), (hes e he).opens⟩⟩

/-! ### What the log says of the others -/

theorem history (h : Confined P C w w') (hp : ¬ P p) : w'.history p = w.history p := by
  obtain ⟨es, hlog, hes⟩ := h.log
  rw [history_append hlog]
  clear hlog
  generalize w.history p = m
  induction es generalizing m with
  | nil => rfl
  | cons e es ih =>
    have he : m.note p e = m := History.note_other (fun hconn => hp ((hes e List.mem_cons_self).conn p hconn)) m
    rw [List.foldl_cons, he]
    exact ih (fun e' he' => hes e' (List.mem_cons_of_mem _ he')) m

theorem mail (h : Confined P C w w') (hc : ¬ C c) : w'.mail c = w.mail c := by
  obtain ⟨es, hlog, hes⟩ := h.log
  rw [World.mail, World.mail, hlog, List.foldl_append]
  clear hlog
  generalize List.foldl (Mail.note c) .start w.log = m
  induction es generalizing m with
  | nil => rfl
  | cons e es ih =>
    have he : m.note c e = m := if_neg fun hmail => hc ((hes e List.mem_cons_self).client c hmail)
    rw [List.foldl_cons, he]
    exact ih (fun e' he' => hes e' (List.mem_cons_of_mem _ he')) m

/-! ### Steps -/

theorem emit {e : Event} (h : e.About P C) (w : World) : Confined P C w (w.emit e) :=
  ⟨fun _ _ => rfl, fun _ _ => rfl, fun _ _ _ => Iff.rfl, fun _ _ => Iff.rfl, rfl, fun _ => rfl, [e], rfl,
    by simpa using h⟩

theorem tock (w : World) : Confined P C w w.tock :=
  ⟨fun _ _ => rfl, fun _ _ => rfl, fun _ _ _ => Iff.rfl, fun _ _ => Iff.rfl, rfl, fun _ => rfl, [], by simp, by simp⟩

theorem setConn (hp : P p) (f : MuxConnection → MuxConnection) (w : World) : Confined P C w (w.setConn p f) := by
  refine ⟨fun q hq => ?_, fun _ _ => rfl, fun _ _ _ => Iff.rfl, fun _ _ => Iff.rfl, rfl, fun _ => rfl, [], by simp, by simp⟩
  have hne : q ≠ p := by
    rintro rfl
    exact hq hp
  simp [hne]

theorem setClient (hc : C c) (f : MuxClient → MuxClient) (w : World) : Confined P C w (w.setClient c f) := by
  refine ⟨fun _ _ => rfl, fun c' hc' => ?_, fun _ _ _ => Iff.rfl, fun _ _ => Iff.rfl, rfl, fun _ => rfl, [], by simp, by simp⟩
  have hne : c' ≠ c := by
    rintro rfl
    exact hc' hc
  simp [hne]

theorem setDev {f : MuxDevice → MuxDevice} (hkept : (f (w.devs d)).kept = (w.devs d).kept)
    (h : ∀ p, ¬ P p → (p ∈ (f (w.devs d)).connections.getD ⟨[]⟩ ↔ p ∈ w.connections d)) :
    Confined P C w (w.setDev d f) := by
  refine ⟨fun _ _ => rfl, fun _ _ => rfl, fun d' p hp => ?_, fun _ _ => Iff.rfl, rfl, fun d' => ?_, [], by simp, by simp⟩
  · by_cases hd : d' = d
    · subst hd
      simpa [World.connections] using h p hp
    · simp [World.connections, hd]
  · by_cases hd : d' = d
    · subst hd
      simpa using hkept
    · simp [hd]

theorem sendPacket (env : Env) (d : Ptr) (proto : MuxProtocol) (header data : List UInt8) (w : World) :
    Confined P C w (sendPacket env d proto header data w).1 := by
  unfold Usbmuxd.sendPacket
  split
  · exact refl w
  · have hcount : (MuxDevice.countPacket (w.devs d) proto).kept = (w.devs d).kept ∧
        (MuxDevice.countPacket (w.devs d) proto).connections = (w.devs d).connections := by
      unfold MuxDevice.countPacket
      split <;> exact ⟨rfl, rfl⟩
    have hset : Confined P C w (w.setDev d (·.countPacket proto)) := setDev hcount.1 fun p _ => by rw [hcount.2]; rfl
    exact hset.trans ((tock _).trans (emit ⟨by simp [Event.conn?], by simp [Event.mail?], rfl⟩ _))

theorem sendTcp (hp : P p) (env : Env) (flags : UInt8) (data : List UInt8) (w : World) :
    Confined P C w (sendTcp env p flags data w).1 := by
  unfold Usbmuxd.sendTcp
  dsimp only
  have hsend : Confined P C w _ :=
    sendPacket env (w.conns p).dev .tcp ((w.conns p).tcpHeader flags).bytes data w
  generalize Usbmuxd.sendPacket env (w.conns p).dev .tcp ((w.conns p).tcpHeader flags).bytes data w = r at hsend ⊢
  have hsegment : Confined P C w (r.1.emit (.segment p ((w.conns p).tcpHeader flags) data r.2)) :=
    hsend.trans (emit ⟨fun q hq => by simp only [Event.conn?, Option.some.injEq] at hq; exact hq ▸ hp,
      by simp [Event.mail?], rfl⟩ _)
  split
  · dsimp only
    exact (hsegment.trans (tock _)).trans (setConn hp _ _)
  · exact hsegment

theorem sendTeardownRst (hp : P p) (env : Env) (w : World) : Confined P C w (sendTeardownRst env p w) := by
  unfold Usbmuxd.sendTeardownRst
  dsimp only
  split
  · exact sendTcp hp env thRst [] w
  · exact refl w

/-- An entry about a connection and its client. -/
theorem about_wrote (hp : P p) (hc : C c) (bs : List UInt8) : (Event.wrote p c bs).About P C :=
  ⟨fun q hq => by simp only [Event.conn?, Option.some.injEq] at hq; exact hq ▸ hp,
    fun c' hc' => by simp only [Event.mail?, Option.some.injEq] at hc'; exact hc' ▸ hc, rfl⟩

theorem clientWrite (hp : P p) (hc : C c) (env : Env) (buffer : Mem) (len : UInt32) (w : World) :
    Confined P C w (clientWrite env p c buffer len w).1 := by
  unfold Usbmuxd.clientWrite
  split
  · exact refl w
  · dsimp only
    split
    · exact tock w
    · exact (tock w).trans (emit (about_wrote hp hc _) _)

theorem clientRead (hp : P p) (env : Env) (c : Ptr) (len : UInt32) (w : World) :
    Confined P C w (clientRead env p c len w).1 := by
  unfold Usbmuxd.clientRead
  split
  · exact refl w
  · dsimp only
    split
    · exact tock w
    · exact (tock w).trans (emit ⟨fun q hq => by simp only [Event.conn?, Option.some.injEq] at hq; exact hq ▸ hp,
        by simp [Event.mail?], rfl⟩ _)

theorem flushInBuf (hp : P p) (hc : C c) (env : Env) (n : ℕ) (w : World) :
    Confined P C w (flushInBuf env p c n w) := by
  induction n generalizing w with
  | zero => exact emit ⟨by simp [Event.conn?], by simp [Event.mail?], rfl⟩ w
  | succ n ih =>
    have hwrite : Confined P C w _ := clientWrite hp hc env (w.conns p).ibBuf (w.conns p).ibSize w
    unfold Usbmuxd.flushInBuf
    dsimp only
    split
    · exact hwrite
    · have hconsume := hwrite.trans (setConn hp (·.consume
        (Usbmuxd.clientWrite env p c (w.conns p).ibBuf (w.conns p).ibSize w).2) _)
      split
      · exact hconsume
      · exact hconsume.trans (ih _)

theorem clientSetEvents (hc : C c) (events : Events) (w : World) : Confined P C w (clientSetEvents c events w) := by
  unfold Usbmuxd.clientSetEvents
  split
  · exact setClient hc _ w
  · exact setClient hc _ w
  · exact refl w

/-- The fault of a lookup or a pointer, and the end of a counted loop. -/
theorem about_fault (f : Fault) : (Event.fault f).About P C := ⟨by simp [Event.conn?], by simp [Event.mail?], rfl⟩

theorem updateConnection (hp : P p) (hc : ∀ c, (w.conns p).client = some c → C c) :
    Confined P C w (updateConnection p w) := by
  unfold Usbmuxd.updateConnection
  refine (setConn hp (·.refresh) w).trans ?_
  dsimp only
  split
  · rename_i c hclient
    exact clientSetEvents (hc c (by simpa using hclient)) _ _
  · exact emit (about_fault _) _

/-! ### Messages -/

theorem enlargeOutBuffer (hc : C c) (env : Env) (length : UInt32) (w : World) :
    Confined P C w (enlargeOutBuffer env c length w).1 := by
  unfold Usbmuxd.enlargeOutBuffer
  dsimp only
  split
  · split
    · dsimp only
      exact (tock w).trans (setClient hc _ _)
    · exact tock w
  · exact refl w

theorem sendPkt (hc : C c) (env : Env) (tag : UInt32) (msg : MsgType) (payload : List UInt8) (w : World) :
    Confined P C w (sendPkt env c tag msg payload w).1 := by
  unfold Usbmuxd.sendPkt
  have hroom : Confined P C w _ := enlargeOutBuffer hc env (usbmuxdHeaderSize + UInt32.ofNat payload.length) w
  dsimp only
  split
  · split
    · exact hroom.trans (emit (about_fault _) _)
    · exact hroom.trans ((setClient hc _ _).trans (emit ⟨by simp [Event.conn?],
        fun c' hc' => by simp only [Event.mail?, Option.some.injEq] at hc'; exact hc' ▸ hc, rfl⟩ _))
  · exact hroom

theorem sendPlistPkt (hc : C c) (env : Env) (tag : UInt32) (plist : Plist) (w : World) :
    Confined P C w (sendPlistPkt env c tag plist w).1 := by
  unfold Usbmuxd.sendPlistPkt
  split
  · exact tock w
  · exact (tock w).trans (sendPkt hc env tag .plist _ _)

theorem sendResult (hc : C c) (env : Env) (tag result : UInt32) (w : World) :
    Confined P C w (sendResult env c tag result w).1 := by
  unfold Usbmuxd.sendResult
  split
  · exact sendPlistPkt hc env tag _ w
  · exact sendPkt hc env tag .result _ w

theorem clientNotifyConnect (hc : C c) (env : Env) (result : UInt32) (w : World) :
    Confined P C w (clientNotifyConnect env c result w).1 := by
  unfold Usbmuxd.clientNotifyConnect
  split
  · exact refl w
  · have hsend : Confined P C w _ := sendResult hc env (w.clients c).connectTag result w
    dsimp only
    split
    · split
      · dsimp only
        exact hsend.trans (setClient hc _ _)
      · dsimp only
        exact hsend.trans (setClient hc _ _)
    · exact hsend

/-- An entry that is about no connection's history and no client's mail. -/
theorem about_note {e : Event} (h : e.isClientNote = true) : e.About P C := by
  refine ⟨fun p hp => ?_, fun c hc => ?_, ?_⟩ <;> cases e <;>
    simp_all [Event.isClientNote, Event.conn?, Event.mail?, Event.opens]

theorem notifyDeviceAdd (hc : C c) (env : Env) (info : DeviceInfo) (w : World) :
    Confined P C w (notifyDeviceAdd env c info w).1 := by
  unfold Usbmuxd.notifyDeviceAdd
  dsimp only
  generalize hr : (if (w.clients c).protoVersion = 1 then _ else _ : World × Bool) = r
  have hsend : Confined P C w r.1 := by
    subst hr
    split
    · exact sendPlistPkt hc env 0 _ w
    · exact sendPkt hc env 0 .deviceAdd _ w
  split
  · exact hsend.trans (emit (about_note rfl) _)
  · exact hsend

theorem notifyDeviceRemove (hc : C c) (env : Env) (id : ℕ) (w : World) :
    Confined P C w (notifyDeviceRemove env c id w).1 := by
  unfold Usbmuxd.notifyDeviceRemove
  dsimp only
  generalize hr : (if (w.clients c).protoVersion = 1 then _ else _ : World × Bool) = r
  have hsend : Confined P C w r.1 := by
    subst hr
    split
    · exact sendPlistPkt hc env 0 _ w
    · exact sendPkt hc env 0 .deviceRemove _ w
  split
  · exact hsend.trans (emit (about_note rfl) _)
  · exact hsend

/-- A loop over the clients that works for those that listen. -/
theorem forEachListener {body : Ptr → World → World} (hreg : ∀ c v, (body c v).registry = v.registry)
    (hbody : ∀ c v, Confined P (Eq c) v (body c v)) (hskip : ∀ c v, (v.clients c).state ≠ .listen → body c v = v)
    (w : World) : Confined P (fun c => (w.clients c).state = .listen) w (forEachClient body w) := by
  refine (SlotTable.forEach_induct (P := fun v => Confined P (fun c => (w.clients c).state = .listen) w v ∧
    v.registry = w.registry) ?_ _ _ _ ⟨refl w, rfl⟩).1
  rintro c v - ⟨hv, hr⟩
  refine ⟨?_, (hreg c v).trans hr⟩
  by_cases hlisten : (v.clients c).state = .listen
  · refine hv.trans ((hbody c v).mono (fun _ h => h) ?_)
    rintro c' rfl
    exact (state_eq hr c).symm.trans hlisten
  · rwa [hskip c v hlisten]

theorem announceDevice (env : Env) (info : DeviceInfo) (w : World) :
    Confined P (fun c => (w.clients c).state = .listen) w (announceDevice env info w) := by
  refine forEachListener (fun c v => ?_) (fun c v => ?_) (fun c v hno => if_neg hno) w
  · split
    · exact registry_notifyDeviceAdd ..
    · rfl
  · split
    · exact notifyDeviceAdd rfl env info v
    · exact refl v

theorem clientDeviceRemove (env : Env) (id : ℕ) (w : World) :
    Confined P (fun c => (w.clients c).state = .listen) w (clientDeviceRemove env id w) := by
  refine forEachListener (fun c v => ?_) (fun c v => ?_) (fun c v hno => if_neg hno) w
  · split
    · exact registry_notifyDeviceRemove ..
    · rfl
  · split
    · exact notifyDeviceRemove rfl env id v
    · exact refl v

theorem clientDevicePairingEvent (env : Env) (info : DeviceInfo) (event : PairingEvent) (validate : Bool) (w : World) :
    Confined P (fun c => (w.clients c).state = .listen) w (clientDevicePairingEvent env info event validate w) := by
  unfold Usbmuxd.clientDevicePairingEvent
  split
  · refine forEachListener (fun c v => ?_) (fun c v => ?_) (fun c v hno => if_neg fun h => hno h.1) w
    · dsimp only
      split_ifs
      · rw [registry_emit _ rfl, registry_sendPlistPkt]
      · exact registry_sendPlistPkt ..
      · rfl
    · dsimp only
      have hsend : Confined P (Eq c) v _ := sendPlistPkt rfl env 0 (devicePairingEventPlist info event) v
      split_ifs
      · exact hsend.trans (emit (about_note rfl) _)
      · exact hsend
      · exact refl v
  · exact refl w

/-! ### Commands -/

theorem recvCommandBytes (hc : C c) (env : Env) (len : UInt32) (w : World) :
    Confined P C w (recvCommandBytes env c len w).1 := by
  unfold Usbmuxd.recvCommandBytes
  split
  · exact tock w
  · dsimp only
    exact (tock w).trans (setClient hc _ _)

theorem notifyAll (hc : C c) (env : Env) (infos : List DeviceInfo) (w : World) :
    Confined P C w (notifyAll env c infos w) := by
  induction infos generalizing w with
  | nil => exact refl w
  | cons info rest ih =>
    have hone : Confined P C w _ := notifyDeviceAdd hc env info w
    unfold Usbmuxd.notifyAll
    dsimp only
    split
    · exact hone.trans (ih _)
    · exact hone

theorem handleListen (hc : C c) (env : Env) (hdr : UsbmuxdHeader) (w : World) :
    Confined P C w (handleListen env c hdr w) := by
  have hsend : Confined P C w _ := sendResult hc env hdr.tag resultOk w
  unfold Usbmuxd.handleListen
  dsimp only
  split
  · exact hsend.trans ((setClient hc _ _).trans (notifyAll hc env _ _))
  · exact hsend

theorem sendDeviceList (hc : C c) (env : Env) (tag : UInt32) (w : World) :
    Confined P C w (sendDeviceList env c tag w) := (tock w).trans (sendPlistPkt hc env tag _ _)

theorem sendSystemBuid (hc : C c) (env : Env) (tag : UInt32) (w : World) :
    Confined P C w (sendSystemBuid env c tag w) := (tock w).trans (sendPlistPkt hc env tag _ _)

theorem handleReadPairRecordCommand (hc : C c) (env : Env) (hdr : UsbmuxdHeader) (command : Plist) (w : World) :
    Confined P C w (handleReadPairRecordCommand env c hdr command w) := by
  have hresult := fun result => (tock w).trans (sendResult hc env hdr.tag result (w.tock) : Confined P C _ _)
  unfold Usbmuxd.handleReadPairRecordCommand
  split
  · exact emit (about_fault _) w
  · unfold sendPairRecord
    dsimp only
    split
    · exact hresult _
    · split
      · exact hresult _
      · exact (tock w).trans (sendPlistPkt hc env _ _ _)

theorem handleSavePairRecordCommand (hc : C c) (env : Env) (hdr : UsbmuxdHeader) (command : Plist) (w : World) :
    Confined P C w (handleSavePairRecordCommand env c hdr command w) := by
  unfold Usbmuxd.handleSavePairRecordCommand
  split
  · split
    · exact (tock w).trans (sendResult hc env _ _ _)
    · exact sendResult hc env _ _ w
  · exact sendResult hc env _ _ w

theorem handleDeletePairRecordCommand (hc : C c) (env : Env) (hdr : UsbmuxdHeader) (command : Plist) (w : World) :
    Confined P C w (handleDeletePairRecordCommand env c hdr command w) := by
  unfold Usbmuxd.handleDeletePairRecordCommand
  split
  · exact (tock w).trans (sendResult hc env _ _ _)
  · exact sendResult hc env _ _ w

/-! ### Releasing -/

theorem releaseClient (hc : C c) (w : World) : Confined P C w (releaseClient c w) := by
  refine ⟨fun _ _ => rfl, fun _ _ => rfl, fun _ _ _ => Iff.rfl, fun c' hc' => ?_, rfl, fun _ => rfl, _, rfl,
    fun e he => ?_⟩
  · have hne : c' ≠ c := by
      rintro rfl
      exact hc' hc
    rw [releaseClient_clientList, SlotTable.mem_def, SlotTable.mem_def, SlotTable.elements_remove]
    exact List.mem_erase_of_ne hne
  · simp only [List.mem_cons, List.not_mem_nil, or_false] at he
    rcases he with rfl | rfl <;> exact ⟨by simp [Event.conn?], by simp [Event.mail?], rfl⟩

theorem releaseConn (hp : P p) (w : World) : Confined P C w (releaseConn p w) := by
  refine (setDev rfl fun q hq => ?_).trans (emit ⟨fun q hq => by
    simp only [Event.conn?, Option.some.injEq] at hq
    exact hq ▸ hp, by simp [Event.mail?], rfl⟩ _)
  have hne : q ≠ p := by
    rintro rfl
    exact hq hp
  unfold World.connections
  cases (w.devs (w.conns p).dev).connections with
  | none => exact Iff.rfl
  | some t =>
    simp only [Option.map_some, Option.getD_some, SlotTable.mem_def, SlotTable.elements_remove]
    exact List.mem_erase_of_ne hne

theorem closing (hp : P p) (hc : C c) (env : Env) (w : World) : Confined P C w (closing env p c w) := by
  have hdead := (sendTeardownRst hp env w).trans (setConn (C := C) hp (·.become .dead) _)
  unfold Usbmuxd.closing
  dsimp only
  split
  · exact hdead.trans (flushInBuf hp hc env _ _)
  · exact hdead

end Confined

/-! ### Teardown -/

/-- Connection `p` belongs to client `c`, and a lookup for the client finds no other. -/
structure Bound (p c : Ptr) (w : World) : Prop where
  client : (w.conns p).client = some c
  lookup : ∀ q, w.registry.lookup (w.clients c).connectDevice c = some q → q = p

section Teardown

variable {env : Env} {P C : Ptr → Prop} {w w' : World} {d p c : Ptr}

/-- A connection on a list is bound to its client. -/
theorem Tracked.bound (h : Tracked env w) (hl : w.registry.Link d p c) : Bound p c w := by
  refine ⟨hl.client, fun q hq => ?_⟩
  have hp : w.registry.lookup (w.clients c).connectDevice c = some p := h.ok.lookup hl
  exact Option.some.inj (hq.symm.trans hp)

/-- A step that leaves the owners as they are. -/
theorem Bound.congr (h : Bound p c w) {e : ConnEntry} (hreg : w'.registry = w.registry.setConn p e)
    (he : e.client = some c) : Bound p c w' := by
  have hconn : (w'.conns p).entry = e := by simpa using congrFun (congrArg Registry.conns hreg) p
  have hclient : (w'.clients c).entry = (w.clients c).entry := congrFun (congrArg Registry.clients hreg) c
  refine ⟨(congrArg ConnEntry.client hconn).trans he, fun q hq => h.lookup q ?_⟩
  have hid : (w'.clients c).connectDevice = (w.clients c).connectDevice := congrArg ClientEntry.connectDevice hclient
  rw [hid, hreg, Registry.lookup_setConn _ (by rw [he]; exact h.client.symm)] at hq
  exact hq

theorem Bound.same (h : Bound p c w) (hreg : w'.registry = w.registry) : Bound p c w' :=
  h.congr (hreg.trans (Registry.setConn_same _ p).symm) h.client

theorem Bound.setConn (h : Bound p c w) {f : MuxConnection → MuxConnection}
    (hf : (f (w.conns p)).client = (w.conns p).client) : Bound p c (w.setConn p f) :=
  h.congr (registry_setConn ..) (by simpa [hf] using h.client)

/-- The teardown of a connection stays with it and its client. -/
theorem Confined.connectionTeardown (h : Bound p c w) (hp : P p) (hc : C c) (n : ℕ) :
    Confined P C w (connectionTeardown env (n + 3) p w) := by
  by_cases hdead : (w.conns p).state = .dead
  · rw [connectionTeardown_dead (n + 2) hdead]
    exact .refl w
  by_cases hearly : (w.conns p).state = .refused ∨ (w.conns p).state = .connecting
  · rw [connectionTeardown_notify (n + 2) h.client hearly]
    exact ((Confined.sendTeardownRst hp env w).trans (.clientNotifyConnect hc env _ _)).trans (.releaseConn hp _)
  · have hlate : (w.conns p).state = .connected ∨ (w.conns p).state = .dying := by
      cases hs : (w.conns p).state <;> simp_all
    rw [connectionTeardown_close (n + 2) h.client hlate]
    have hclosing : Confined P C w (Usbmuxd.closing env p c w) := .closing hp hc env w
    have hstate : ((Usbmuxd.closing env p c w).conns p).state = .dead := closing_dead
    have hbound : Bound p c (Usbmuxd.closing env p c w) := h.congr registry_closing h.client
    generalize Usbmuxd.closing env p c w = v at hclosing hstate hbound ⊢
    refine (hclosing.trans ?_).trans (.releaseConn hp _)
    by_cases hwaits : (v.clients c).state = .connecting1 ∨ (v.clients c).state = .connecting2
    · have hset : Confined P C v (v.setClient c fun cl => { cl with state := .dead }) := .setClient hc _ v
      cases hlookup : v.registry.lookup (v.clients c).connectDevice c with
      | none =>
        rw [clientClose_not_found (n + 1) hwaits hlookup]
        exact hset.trans (.releaseClient hc _)
      | some q =>
        obtain rfl := hbound.lookup q hlookup
        rw [clientClose_found (n + 1) hwaits hlookup, connectionTeardown_dead n (by simpa using hstate)]
        exact hset.trans (.releaseClient hc _)
    · rw [clientClose_release (n + 1) (not_or.mp hwaits)]
      exact .releaseClient hc v

theorem Confined.tearDown (h : Bound p c w) (hp : P p) (hc : C c) : Confined P C w (tearDown env p w) :=
  .connectionTeardown h hp hc 1

/-- The close of a client stays with it and the connection a lookup finds. -/
theorem Confined.closeClient (env : Env) (hc : C c)
    (hp : ∀ p, w.registry.lookup (w.clients c).connectDevice c = some p → P p) :
    Confined P C w (closeClient env c w) := by
  rw [Usbmuxd.closeClient, callDepth]
  by_cases hwaits : (w.clients c).state = .connecting1 ∨ (w.clients c).state = .connecting2
  · have hset : Confined P C w (w.setClient c fun cl => { cl with state := .dead }) := .setClient hc _ w
    cases hlookup : w.registry.lookup (w.clients c).connectDevice c with
    | none =>
      rw [clientClose_not_found 3 hwaits hlookup]
      exact hset.trans (.releaseClient hc _)
    | some p =>
      rw [clientClose_found 3 hwaits hlookup]
      obtain ⟨d, hl, -⟩ := w.registry.link_of_lookup hlookup
      have hbound : Bound p c (w.setClient c fun cl => { cl with state := .dead }) := by
        refine ⟨hl.client, fun q hq => ?_⟩
        have hq' : w.registry.lookup (w.clients c).connectDevice c = some q := by
          rw [setClient_clients, Function.update_self] at hq
          exact hq
        exact Option.some.inj (hq'.symm.trans hlookup)
      exact (hset.trans (.connectionTeardown hbound (hp p hlookup) hc 0)).trans (.releaseClient hc _)
  · rw [clientClose_release 3 (not_or.mp hwaits)]
    exact .releaseClient hc w

end Teardown

/-! ### Traffic -/

section Traffic

variable {env : Env} {P C : Ptr → Prop} {w w' : World} {d p c : Ptr}

theorem Confined.updated (h : Bound p c w) (hp : P p) (hc : C c) : Confined P C w (Usbmuxd.updateConnection p w) :=
  .updateConnection hp fun c' hclient => by
    rw [h.client, Option.some.injEq] at hclient
    exact hclient ▸ hc

theorem Bound.sendTcp (h : Bound p c w) (env : Env) (flags : UInt8) (data : List UInt8) :
    Bound p c (sendTcp env p flags data w).1 := h.same (registry_sendTcp ..)

theorem Confined.sendTcpAck (h : Bound p c w) (hp : P p) (hc : C c) : Confined P C w (sendTcpAck env p w).1 := by
  have hsent : Confined P C w _ := .sendTcp hp env thAck [] w
  have hbound := h.sendTcp env thAck []
  unfold Usbmuxd.sendTcpAck
  dsimp only
  generalize Usbmuxd.sendTcp env p thAck [] w = r at hsent hbound ⊢
  split
  · exact hsent.trans (.updated hbound hp hc)
  · exact hsent.trans (.tearDown hbound hp hc)

theorem Confined.deviceToClient (hp : P p) (hc : C c) (env : Env) (w : World) :
    Confined P C w (deviceToClient env p c w).1 := by
  have hwrite : Confined P C w _ := .clientWrite hp hc env (w.conns p).ibBuf (w.conns p).ibSize w
  unfold Usbmuxd.deviceToClient
  dsimp only
  split
  · exact hwrite
  · dsimp only
    exact hwrite.trans (.setConn hp _ _)

theorem Confined.clientToDevice (hp : P p) (env : Env) (c : Ptr) (w : World) :
    Confined P C w (clientToDevice env p c w).1 := by
  have hread : Confined P C w _ := .clientRead hp env c (w.conns p).sendable w
  unfold Usbmuxd.clientToDevice
  dsimp only
  split
  · exact hread
  · have hsent := fun data => (hread.trans (.setConn hp (·.fill (Usbmuxd.clientRead env p c (w.conns p).sendable w).2) _)).trans
      (.sendTcp hp env thAck data _)
    split
    · dsimp only
      exact (hsent _).trans (.setConn hp _ _)
    · exact hsent _

theorem Confined.processClientInput (h : Bound p c w) (hp : P p) (hc : C c) (events : Events) :
    Confined P C w (processClientInput env p c events w) := by
  unfold Usbmuxd.processClientInput
  split
  · have hup : Confined P C w _ := .clientToDevice hp env c w
    have hbound : Bound p c _ := h.same (registry_clientToDevice env p c w)
    dsimp only
    split
    · exact hup.trans (.updated hbound hp hc)
    · exact hup.trans (.tearDown hbound hp hc)
  · exact .updated h hp hc

/-- What `device_client_process` does stays with the client and the connection it finds. -/
theorem Confined.deviceClientProcess {id : ℕ} (h : ∀ p, w.registry.lookup id c = some p → Bound p c w ∧ P p) (hc : C c)
    (events : Events) : Confined P C w (deviceClientProcess env id c events w) := by
  unfold Usbmuxd.deviceClientProcess
  split
  · exact .refl w
  · rename_i p hfound
    obtain ⟨hb, hp⟩ := h p hfound
    split
    · have hdown : Confined P C w _ := .deviceToClient hp hc env w
      have hbound : Bound p c _ := hb.same (registry_deviceToClient env p c w)
      generalize Usbmuxd.deviceToClient env p c w = r at hdown hbound ⊢
      dsimp only
      split
      · split
        · have hack : Confined P C r.1 (Usbmuxd.sendTcpAck env p r.1).1 := .sendTcpAck hbound hp hc
          split
          · rename_i hok
            exact (hdown.trans hack).trans (.processClientInput (hbound.same (registry_sendTcpAck hok)) hp hc events)
          · exact (hdown.trans hack).trans (.emit (about_fault _) _)
        · exact hdown.trans (.processClientInput hbound hp hc events)
      · exact hdown.trans (.tearDown hbound hp hc)
    · exact .processClientInput hb hp hc events

/-- A payload that is taken leaves the registry as it is. -/
theorem registry_connectionDeviceInput {payload : List UInt8} (h : (connectionDeviceInput env p payload w).2 = true) :
    (connectionDeviceInput env p payload w).1.registry = w.registry := by
  unfold connectionDeviceInput at h ⊢
  dsimp only at h ⊢
  split at h
  · cases h
  · rename_i hroom
    rw [if_neg hroom, registry_updateConnection, registry_setConn_same _ rfl, registry_emit _ rfl]

theorem Confined.connectionDeviceInput (h : Bound p c w) (hp : P p) (hc : C c) (payload : List UInt8) :
    Confined P C w (connectionDeviceInput env p payload w).1 := by
  have habout : ∀ e : Event, e.conn? = some p → e.mail? = none → e.opens = false → e.About P C :=
    fun e hconn hmail hopens => ⟨fun q hq => by rw [hconn, Option.some.injEq] at hq; exact hq ▸ hp,
      fun c' hc' => by simp [hmail] at hc', hopens⟩
  unfold Usbmuxd.connectionDeviceInput
  dsimp only
  split
  · exact (Confined.emit (habout (.overflow p payload) rfl rfl rfl) w).trans
      (.tearDown (h.same (registry_emit w rfl)) hp hc)
  · have hbound : Bound p c ((w.emit (.accepted p payload)).setConn p (·.append payload)) :=
      (h.same (registry_emit w rfl)).setConn rfl
    exact ((Confined.emit (habout (.accepted p payload) rfl rfl rfl) w).trans (.setConn hp _ _)).trans
      (.updated hbound hp hc)

theorem Confined.connectedInput (h : Bound p c w) (hp : P p) (hc : C c) (th : TcpHdr) (payload : List UInt8) :
    Confined P C w (connectedInput env p th payload w) := by
  unfold Usbmuxd.connectedInput
  split
  · split
    · exact (Confined.setConn hp _ w).trans (.tearDown (h.setConn rfl) hp hc)
    · exact .tearDown h hp hc
  · have hinput : Confined P C w (Usbmuxd.connectionDeviceInput env p payload w).1 :=
      .connectionDeviceInput h hp hc payload
    dsimp only
    split
    · rename_i hok
      split
      · have hbound : Bound p c (Usbmuxd.connectionDeviceInput env p payload w).1 :=
          h.same (registry_connectionDeviceInput hok)
        exact hinput.trans (.sendTcpAck hbound hp hc)
      · exact hinput
    · exact hinput.trans (.emit (about_fault _) _)

/-- Without a client only the connection is released. -/
theorem Confined.tearDown_orphan (hclient : (w.conns p).client = none) (hp : P p) :
    Confined P C w (Usbmuxd.tearDown env p w) := by
  rw [Usbmuxd.tearDown, callDepth]
  by_cases hdead : (w.conns p).state = .dead
  · rw [connectionTeardown_dead 3 hdead]
    exact .refl w
  · rw [connectionTeardown_orphan 3 hclient hdead]
    exact (Confined.sendTeardownRst hp env w).trans (.releaseConn hp _)

/-- The client of a new connection is told, and the connection is in use or released. -/
theorem Confined.establish (hclient : (w.conns p).client = some c) (hp : P p) (hc : C c) :
    Confined P C w (if (Usbmuxd.clientNotifyConnect env c resultOk w).2 then
      Usbmuxd.updateConnection p (Usbmuxd.clientNotifyConnect env c resultOk w).1
    else (Usbmuxd.tearDown env p ((Usbmuxd.clientNotifyConnect env c resultOk w).1.setConn p (·.orphan))).emit
      (.fault .freedConn)) := by
  have hnotify : Confined (fun _ => False) C w _ := .clientNotifyConnect hc env resultOk w
  have hsame := hnotify.conns p id
  replace hnotify : Confined P C w _ := hnotify.mono (fun _ h => h.elim) fun _ h => h
  split
  · refine hnotify.trans (.updateConnection hp fun c' hc' => ?_)
    rw [hsame, hclient, Option.some.injEq] at hc'
    exact hc' ▸ hc
  · exact ((hnotify.trans (.setConn hp _ _)).trans (.tearDown_orphan (by simp) hp)).trans (.emit (about_fault _) _)

theorem Confined.connectingInput (h : Bound p c w) (hp : P p) (hc : C c) (th : TcpHdr) :
    Confined P C w (connectingInput env p th w) := by
  unfold Usbmuxd.connectingInput
  split
  · split
    · exact (Confined.setConn hp _ w).trans (.tearDown (h.setConn rfl) hp hc)
    · exact .tearDown h hp hc
  · have hans : Confined P C w ((w.emit (.synAck p)).setConn p (·.handshake)) := (Confined.emit ⟨fun q hq => by
      simp only [Event.conn?, Option.some.injEq] at hq
      exact hq ▸ hp, by simp [Event.mail?], rfl⟩ w).trans (.setConn hp _ _)
    have hbound : Bound p c ((w.emit (.synAck p)).setConn p (·.handshake)) := (h.same (registry_emit w rfl)).setConn rfl
    generalize (w.emit (.synAck p)).setConn p (·.handshake) = v at hans hbound ⊢
    have hsent : Confined P C w _ := hans.trans (.sendTcp hp env thAck [] v)
    have hbound' := hbound.sendTcp env thAck []
    dsimp only
    generalize Usbmuxd.sendTcp env p thAck [] v = r at hsent hbound' ⊢
    split
    · have hbecome : Bound p c (r.1.setConn p (·.become .connected)) := hbound'.setConn rfl
      rw [hbecome.client]
      exact (hsent.trans (.setConn hp _ _)).trans (.establish hbecome.client hp hc)
    · exact hsent.trans (.tearDown hbound' hp hc)

end Traffic

/-! ### Clients that are not in command mode -/

section Clients

variable {env : Env} {P C : Ptr → Prop} {w w' : World} {p c : Ptr}

/-- `process_recv` collects the command, and then ends in one of three ways. -/
theorem processRecv_induct {Q R : World → Prop} (hstart : Q (w.emit (.processRecv c (w.clients c).ibBuf.isSome)))
    (hrecv : ∀ v len, Q v → Q (recvCommandBytes env c len v).1) (hstay : ∀ v, Q v → R v)
    (hfault : ∀ v, Q v → R (v.emit (.fault .nullIbBuf))) (hclose : ∀ v, Q v → R (closeClient env c v))
    (hrun : ∀ v buffer, Q v → R (runCommand env c buffer v)) : R (processRecv env c w) := by
  have hbody : ∀ v didRead, Q v → R (processRecvBody env c didRead v) := by
    intro v didRead hv
    unfold processRecvBody
    dsimp only
    split
    · exact hfault v hv
    · split_ifs
      · exact hclose v hv
      · exact hclose v hv
      · exact hstay v hv
      · exact hclose _ (hrecv v _ hv)
      · exact hstay _ (hrecv v _ hv)
      · exact hrun _ _ (hrecv v _ hv)
      · exact hrun v _ hv
  unfold processRecv
  dsimp only
  split_ifs
  · exact hclose _ (hrecv _ _ hstart)
  · exact hstay _ (hrecv _ _ hstart)
  · exact hbody _ _ (hrecv _ _ hstart)
  · exact hbody _ _ hstart

/-- A command of a client that is not in command mode is refused. -/
theorem Confined.clientCommand (hc : C c) (hp : ∀ p, w.registry.lookup (w.clients c).connectDevice c = some p → P p)
    (hstate : (w.clients c).state ≠ .command) (buffer : Mem) : Confined P C w (clientCommand env c buffer w) := by
  have hsend : Confined P C w _ := .sendResult hc env (UsbmuxdHeader.read buffer).tag resultBadcommand w
  have hreg := registry_sendResult env c w (UsbmuxdHeader.read buffer).tag resultBadcommand
  unfold Usbmuxd.clientCommand
  dsimp only
  rw [if_pos hstate]
  split
  · refine hsend.trans (.closeClient env hc fun p hfound => hp p ?_)
    have hid := congrArg ClientEntry.connectDevice (congrFun (congrArg Registry.clients hreg) c)
    rw [hreg] at hfound
    exact (show (w.clients c).connectDevice = _ from hid.symm) ▸ hfound
  · exact hsend

theorem Confined.runCommand (hc : C c) (hp : ∀ p, w.registry.lookup (w.clients c).connectDevice c = some p → P p)
    (hstate : (w.clients c).state ≠ .command) (buffer : Mem) : Confined P C w (runCommand env c buffer w) := by
  have hcommand : Confined P C w (Usbmuxd.clientCommand env c buffer w) := .clientCommand hc hp hstate buffer
  unfold Usbmuxd.runCommand
  dsimp only
  split
  · exact hcommand.trans (.emit (about_fault _) _)
  · exact hcommand.trans (.setClient hc _ _)

/-- What `process_recv` does for a client that is not in command mode stays with it and its connection. -/
theorem Confined.processRecv (hc : C c) (hp : ∀ p, w.registry.lookup (w.clients c).connectDevice c = some p → P p)
    (hstate : (w.clients c).state ≠ .command) : Confined P C w (processRecv env c w) := by
  have hsame : ∀ v : World, v.registry = w.registry → (v.clients c).state ≠ .command ∧
      ∀ p, v.registry.lookup (v.clients c).connectDevice c = some p → P p := by
    intro v hv
    have hid := congrArg ClientEntry.connectDevice (congrFun (congrArg Registry.clients hv) c)
    refine ⟨(state_eq hv c).trans_ne hstate, fun p hfound => hp p ?_⟩
    rw [hv] at hfound
    exact (show (w.clients c).connectDevice = _ from hid.symm) ▸ hfound
  refine processRecv_induct (Q := fun v => Confined P C w v ∧ v.registry = w.registry) ⟨?_, registry_emit w rfl⟩
    ?_ (fun v hv => hv.1) ?_ ?_ ?_
  · exact .emit (about_note rfl) w
  · rintro v len ⟨hv, hreg⟩
    exact ⟨hv.trans (.recvCommandBytes hc env len v), (registry_recvCommandBytes ..).trans hreg⟩
  · rintro v ⟨hv, -⟩
    exact hv.trans (.emit (about_fault _) v)
  · rintro v ⟨hv, hreg⟩
    exact hv.trans (.closeClient env hc (hsame v hreg).2)
  · rintro v buffer ⟨hv, hreg⟩
    exact hv.trans (.runCommand hc (hsame v hreg).2 (hsame v hreg).1 buffer)

/-- What `process_send` does stays with the client and its connection. -/
theorem Confined.processSend (hc : C c) (hp : ∀ p, w.registry.lookup (w.clients c).connectDevice c = some p → P p) :
    Confined P C w (processSend env c w) := by
  unfold Usbmuxd.processSend
  dsimp only
  split
  · exact .setClient hc _ w
  · split
    · exact (Confined.tock w).trans (.closeClient env hc hp)
    · refine ((Confined.tock w).trans (.emit ⟨by simp [Event.conn?], fun c' hc' => ?_, rfl⟩ _)).trans (.setClient hc _ _)
      simp only [Event.mail?, Option.some.injEq] at hc'
      exact hc' ▸ hc

end Clients

end Usbmuxd
