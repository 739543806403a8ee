import Usbmuxd.Streams.Transcripts
import Usbmuxd.Streams.Answers

/-!
# Handlers that outlive their records

`process_recv` holds a pointer to a client, and `device_process_sockets` one to a device, while what they call may free
the record: `client_command` closes a client that sends a command out of turn, and `device_version_input` frees a device
whose version it does not know. Neither is told.

## The model

* `QuietAfter` — after a record has been released a call does nothing more with it.
* `OutOfTurn` — a command is complete that `client_command` answers and then closes the client for.
* `Framing.condemned` — the first version packet of a transfer has a version that is not known.

## What is proved

* `quietAfter_processRecv` — exactly when `process_recv` lets go of a client.
* `quietAfter_deviceProcessSocket` — exactly when `device_process_sockets` lets go of a device.
* `letsGo_iff` — both, after every run.
-/

namespace Usbmuxd

open World

/-! ### What is done after a release -/

/-- The client an entry is about. -/
def Event.client? : Event → Option Ptr
  | .newClient c | .wrote _ c _ | .read _ c _ | .sent c _ | .queued c _ _ _ | .attached c _ | .detached c _
  | .pairing c _ _ | .processRecv c _ | .closeSocket c | .freeClient c => some c
  | _ => none

/-- The device an entry is about. -/
def Event.device? : Event → Option Ptr
  | .usbSend d _ _ | .versionInput d _ | .controlInput d _ | .tcpInput d _ _ | .freeDev d => some d
  | _ => none

/-- A use of a client, or of one that has been freed. -/
def Event.usesClient (c : Ptr) (e : Event) : Prop := e = .fault .freedClient ∨ e.client? = some c

/-- A use of a device, or of one that has been freed. -/
def Event.usesDevice (d : Ptr) (e : Event) : Prop := e = .fault .freedDev ∨ e.device? = some d

/-- After `release` a call makes no more entries of a kind. -/
def QuietAfter (release : Event) (use : Event → Prop) (w w' : World) : Prop :=
  ∃ es, w'.log = w.log ++ es ∧ es.Pairwise fun e e' => e = release → ¬ use e'

section QuietAfter

variable {w w' : World} {release : Event} {use : Event → Prop}

/-- What has not been released may be used. -/
theorem quietAfter_live (hgrows : w.Grows (fun _ => true) w') (h : release ∉ w'.log) : QuietAfter release use w w' := by
  obtain ⟨es, hlog, -⟩ := hgrows
  refine ⟨es, hlog, List.pairwise_of_forall_mem_list fun e he _ _ hrelease => ?_⟩
  rw [hlog, ← hrelease] at h
  exact absurd (List.mem_append_right _ he) h

/-- The release is the last that is done. -/
theorem quietAfter_last {es : List Event} {e : Event} (hlog : w'.log = w.log ++ es ++ [e, release]) (he : e ≠ release)
    (h : release ∉ es) : QuietAfter release use w w' := by
  refine ⟨es ++ [e, release], by rw [hlog, List.append_assoc], ?_⟩
  rw [List.pairwise_append]
  refine ⟨List.pairwise_of_forall_mem_list fun x hx _ _ heq => absurd (heq ▸ hx) h, ?_, fun x hx _ _ heq => absurd (heq ▸ hx) h⟩
  exact List.pairwise_pair.mpr fun heq => absurd heq he

/-- Something is done after the release. -/
theorem not_quietAfter {es es' : List Event} {e : Event} (hlog : w'.log = w.log ++ es ++ es') (h : release ∈ es)
    (he : e ∈ es') (huse : use e) : ¬ QuietAfter release use w w' := by
  rintro ⟨es'', hlog'', hquiet⟩
  obtain rfl : es ++ es' = es'' := by
    rw [hlog, List.append_assoc] at hlog''
    exact List.append_cancel_left hlog''
  exact (List.pairwise_append.mp hquiet).2.2 release h e he rfl huse

/-- The release is done twice. -/
theorem not_quietAfter_twice (hcount : w.log.count release + 2 ≤ w'.log.count release) (huse : use release) :
    ¬ QuietAfter release use w w' := by
  rintro ⟨es, hlog, hquiet⟩
  rw [hlog, List.count_append] at hcount
  have htwice : List.Sublist [release, release] es := List.replicate_sublist_iff.mpr (show 2 ≤ es.count release by omega)
  exact List.pairwise_pair.mp (hquiet.sublist htwice) rfl huse

end QuietAfter

/-! ### Replies -/

/-- The reply buffer of a client has room for a packet, or gets it. -/
def World.hasRoom (env : Env) (c : Ptr) (length : UInt32) (w : World) : Prop :=
  (w.clients c).obCapacity - (w.clients c).obSize < length → env.realloc w.tick = true

/-- There is memory for a result. -/
def World.canReply (env : Env) (c : Ptr) (result : UInt32) (w : World) : Prop :=
  if (w.clients c).protoVersion = 1 then
    ∃ xml, env.plistToXml w.tick
        (.dict [("MessageType", .string (cstr "Result")), ("Number", .uint result.toUInt64)]) = some xml ∧
      w.tock.hasRoom env c (usbmuxdHeaderSize + UInt32.ofNat xml.length)
  else w.hasRoom env c (usbmuxdHeaderSize + 4)

section Replies

variable {env : Env} {c : Ptr} {w : World}

theorem sendPkt_iff (hbuf : (w.clients c).obBuf ≠ none) (tag : UInt32) (msg : MsgType) (payload : List UInt8) :
    (sendPkt env c tag msg payload w).2 = true ↔
      w.hasRoom env c (usbmuxdHeaderSize + UInt32.ofNat payload.length) := by
  have hroom : (enlargeOutBuffer env c (usbmuxdHeaderSize + UInt32.ofNat payload.length) w).2 = true ↔
      w.hasRoom env c (usbmuxdHeaderSize + UInt32.ofNat payload.length) := by
    unfold enlargeOutBuffer World.hasRoom
    dsimp only
    split
    · rename_i hsmall
      split
      · rename_i hok
        simp [hok]
      · rename_i hfail
        simp [hfail, hsmall]
    · rename_i hlarge
      exact iff_of_true rfl fun hsmall => absurd hsmall hlarge
  have hkept : ((enlargeOutBuffer env c (usbmuxdHeaderSize + UInt32.ofNat payload.length) w).1.clients c).obBuf ≠ none := by
    unfold enlargeOutBuffer
    dsimp only
    split
    · split
      · simp
      · exact hbuf
    · exact hbuf
  rw [← hroom]
  unfold sendPkt
  dsimp only
  split
  · rename_i hok
    split
    · rename_i hnone
      exact absurd hnone hkept
    · exact iff_of_true rfl hok
  · rfl

/-- A result is queued if there is memory for it. -/
theorem sendResult_iff (hbuf : (w.clients c).obBuf ≠ none) (tag result : UInt32) :
    (sendResult env c tag result w).2 = true ↔ w.canReply env c result := by
  unfold sendResult World.canReply
  split
  · unfold sendPlistPkt
    split
    · rename_i hnone
      refine iff_of_false Bool.false_ne_true ?_
      rintro ⟨xml, hsome, -⟩
      rw [hnone] at hsome
      cases hsome
    · rename_i xml hsome
      have hbuf' : (w.tock.clients c).obBuf ≠ none := hbuf
      rw [sendPkt_iff hbuf', hsome]
      simp
  · rw [sendPkt_iff hbuf]
    rfl

end Replies

/-! ### Clients -/

/-- A client that is not in command mode has sent all of a command, and there is memory for the answer. -/
structure OutOfTurn (env : Env) (c : Ptr) (w : World) : Prop where
  state : (w.clients c).state ≠ .command
  buffer : (w.clients c).ibBuf.isSome = true
  whole : commandFormat.Whole (w.received c ++ arrival env c w)
  memory : w.tock.canReply env c resultBadcommand

/-- A client whose connection has been answered is read from, and has not sent a whole header before. -/
structure DiesWaiting (c : Ptr) (w : World) : Prop where
  state : (w.clients c).state = .connecting2
  header : (w.clients c).ibSize < usbmuxdHeaderSize

section Clients

variable {env : Env} {c p : Ptr} {w : World}

/-- The close of a client that waits for no reply: it is released at the end. -/
theorem closeClient_entries (env : Env) (h : Tracked env w) (hstate : (w.clients c).state ≠ .connecting2) :
    ∃ es, (closeClient env c w).log = w.log ++ es ++ [.closeSocket c, .freeClient c] ∧ .freeClient c ∉ es := by
  rw [closeClient, callDepth]
  by_cases hone : (w.clients c).state = .connecting1
  · cases hlookup : w.registry.lookup (w.clients c).connectDevice c with
    | none =>
      rw [clientClose_not_found 3 (.inl hone) hlookup]
      exact ⟨[], by simp, by simp⟩
    | some p =>
      obtain ⟨d, hl, -⟩ := w.registry.link_of_lookup hlookup
      have hconn : (w.conns p).state = .connecting := (h.ok.link_client hl).2.2.connecting_iff.mpr hone
      rw [clientClose_found 3 (.inl hone) hlookup]
      generalize hu : (w.setClient c fun cl => { cl with state := .dead }) = u
      have hconns : u.conns = w.conns := by
        rw [← hu]
        rfl
      have hlog : u.log = w.log := by
        rw [← hu]
        rfl
      have hrst : (sendTeardownRst env p u).registry = u.registry := registry_sendTeardownRst env u p
      have hdead : ((sendTeardownRst env p u).clients c).state ≠ .connecting1 := by
        rw [state_eq hrst c, ← hu]
        simp
      obtain ⟨es, hes, hsending, -⟩ := sendTeardownRst_entries env p u
      rw [connectionTeardown_notify 2 (by rw [hconns]; exact hl.client) (by rw [hconns]; exact .inr hconn),
        clientNotifyConnect_other hdead]
      refine ⟨es ++ [.freeConn p], ?_, fun hmem => ?_⟩
      · simp [releaseConn, hes, hlog]
      · rcases List.mem_append.mp hmem with hmem | hmem
        · cases hsending _ hmem
        · simp at hmem
  · rw [clientClose_release 3 ⟨hone, hstate⟩]
    exact ⟨[], by simp, by simp⟩

/-- The close of a client that waits for its reply: it is released by its connection as well. -/
theorem closeClient_twice (h : Tracked env w) (hc : c ∈ w.clientList) (hstate : (w.clients c).state = .connecting2) :
    w.log.count (.freeClient c) + 2 ≤ (closeClient env c w).log.count (.freeClient c) := by
  obtain ⟨d, p, hl⟩ := h.ok.owned c hc (by simp) (.inl hstate)
  obtain ⟨e, e₁, e₂, hreg⟩ := @registry_closeClient_dies env _ _ _ _ h hl hstate
  have hcount := congrFun (congrArg Registry.freedClient hreg) c
  simp only [registry_freedClient, Registry.dropClient_freedClient, Function.update_self] at hcount
  rw [hcount]
  exact Nat.le_refl _

/-- A client that stays on the list has not been released. -/
theorem Steady.quietAfter {w' : World} (h : Steady env w') (hc : c ∈ w'.clientList)
    (hgrows : w.Grows (fun _ => true) w') {use : Event → Prop} : QuietAfter (.freeClient c) use w w' :=
  quietAfter_live hgrows fun hfreed => h.unlisted hfreed hc

/-- What `client_command` does with a command that is out of turn. -/
theorem runCommand_outOfTurn (hstate : (w.clients c).state ≠ .command) (m : Mem) :
    runCommand env c m w =
      if (sendResult env c (UsbmuxdHeader.read m).tag resultBadcommand w).2 then
        (closeClient env c (sendResult env c (UsbmuxdHeader.read m).tag resultBadcommand w).1).emit (.fault .freedClient)
      else if (sendResult env c (UsbmuxdHeader.read m).tag resultBadcommand w).1.clientFreed c then
        (sendResult env c (UsbmuxdHeader.read m).tag resultBadcommand w).1.emit (.fault .freedClient)
      else (sendResult env c (UsbmuxdHeader.read m).tag resultBadcommand w).1.setClient c fun cl => { cl with ibSize := 0 } := by
  unfold runCommand clientCommand
  dsimp only
  rw [if_pos hstate]
  split
  · rename_i hsent
    rw [if_pos ((clientFreed_iff _).mpr (freeClient_closeClient ..))]
  · rfl

/-- A command out of turn is answered, if there is memory for it, and then the client is used once too often. -/
theorem quietAfter_runCommand {v : World} (h : Steady env v) (hmem : c ∈ v.clientList)
    (hstate : (v.clients c).state ≠ .command ∧ (v.clients c).state ≠ .connecting2 ∧ (v.clients c).state ≠ .connected)
    (hgrows : w.Grows (fun _ => true) v) (hfresh : .freeClient c ∉ w.log) (m : Mem)
    (hend : w.Grows (fun _ => true) (runCommand env c m v)) :
    QuietAfter (.freeClient c) (Event.usesClient c) w (runCommand env c m v) ↔ ¬ v.canReply env c resultBadcommand := by
  have hbuf : (v.clients c).obBuf ≠ none := by
    intro hnone
    rcases h.tracked.armed.buffer c (h.tracked.armed.known c hmem) hnone with hconnected | hdead
    · exact hstate.2.2 hconnected
    · exact (h.tracked.ok.entries c hmem).alive hdead
  have hreg := registry_sendResult env c v (UsbmuxdHeader.read m).tag resultBadcommand
  have htraffic := traffic_sendResult env c v (UsbmuxdHeader.read m).tag resultBadcommand hstate.2.2
  have hsent := @sendResult_iff env _ _ hbuf (UsbmuxdHeader.read m).tag resultBadcommand
  rw [runCommand_outOfTurn hstate.1] at hend ⊢
  generalize sendResult env c (UsbmuxdHeader.read m).tag resultBadcommand v = r at hreg htraffic hsent hend ⊢
  have hr : Steady env r.1 := h.after (by rw [hreg]) htraffic.turns
  have hmem' : c ∈ r.1.clientList := by
    rw [← registry_clientList, hreg]
    exact hmem
  cases hok : r.2 with
  | true =>
    refine iff_of_false ?_ (not_not.mpr (hsent.mp hok))
    rw [if_pos rfl]
    obtain ⟨es, hlog, -⟩ := hgrows.trans (htraffic.work.log.trans (traffic_closeClient env c r.1).work.log)
    have hlog' := congrArg (· ++ [Event.fault .freedClient]) hlog
    refine not_quietAfter hlog' ?_
      (List.mem_singleton_self _) (.inl rfl)
    have hfreed := freeClient_closeClient env c r.1
    rw [hlog] at hfreed
    exact (List.mem_append.mp hfreed).resolve_left hfresh
  | false =>
    refine iff_of_true ?_ fun hreply => by simp [hok] at hsent; exact hsent hreply
    have hlive : r.1.clientFreed c = false := by
      rw [Bool.eq_false_iff, ne_eq, clientFreed_iff]
      exact fun hfreed => hr.unlisted hfreed hmem'
    rw [hok, if_neg Bool.false_ne_true, hlive, if_neg Bool.false_ne_true] at hend
    rw [if_neg Bool.false_ne_true, hlive, if_neg Bool.false_ne_true]
    exact quietAfter_live hend fun hfreed => hr.unlisted hfreed hmem'

/-- Exactly when `process_recv` does nothing with a client after releasing it. -/
theorem quietAfter_processRecv (env : Env) (ops : List Op) (hmem : c ∈ (run env ops).clientList)
    (hother : ((run env ops).clients c).state ≠ .connected) :
    QuietAfter (.freeClient c) (Event.usesClient c) (run env ops) (processRecv env c (run env ops)) ↔
      ¬ OutOfTurn env c (run env ops) ∧ ¬ DiesWaiting c (run env ops) := by
  have hs := steady_run env ops
  have hreceives : (Op.clientReady c ⟨true, false⟩).receives c (run env ops) := ⟨rfl, hmem, hother, rfl⟩
  have hend : Steady env (processRecv env c (run env ops)) := by
    rw [← exec_receives hreceives]
    exact steady_exec hs _
  have hgrows : (run env ops).Grows (fun _ => true) (processRecv env c (run env ops)) := by
    rw [← exec_receives hreceives]
    exact (turns_exec _ hs.tracked.liveLookups).log
  have hentry := (hs.tracked.ok.entries c hmem).buffer
  have hlisten := listening_of_buffer env c ops hmem
  generalize run env ops = w at *
  by_cases htwo : (w.clients c).state = .connecting2
  · have hnone : (w.clients c).ibBuf = none := by
      have hbuf := hentry.not.mpr fun hb => hb.1 htwo
      simpa using hbuf
    have hturn : ¬ OutOfTurn env c w := fun hout => by
      have hsome := hout.buffer
      rw [hnone] at hsome
      cases hsome
    by_cases hsmall : (w.clients c).ibSize < usbmuxdHeaderSize
    · refine iff_of_false ?_ fun h => h.2 ⟨htwo, hsmall⟩
      have hclosed : processRecv env c w = closeClient env c (w.emit (.processRecv c false)).tock := by
        simp [processRecv, recvCommandBytes, hnone, hsmall]
      have htracked : Tracked env (w.emit (.processRecv c false)).tock :=
        hs.tracked.same (by rw [registry_tock, registry_emit w rfl])
          ((ClientBlock.note (.processRecv c false) w rfl).one.turns.trans (ConnBlock.tock _).one.turns)
      have htwice := closeClient_twice htracked hmem htwo
      rw [← hclosed] at htwice
      refine not_quietAfter_twice (Nat.le_trans ?_ htwice) (.inr rfl)
      simp
    · refine iff_of_true (hend.quietAfter ?_ hgrows) ⟨hturn, fun h => hsmall h.header⟩
      simpa [processRecv, processRecvBody, hnone, hsmall] using hmem
  have hbuf : (w.clients c).ibBuf.isSome = true := hentry.mpr ⟨htwo, hother⟩
  obtain ⟨hl, -⟩ := hlisten hbuf
  have hnotDying : ¬ DiesWaiting c w := fun h => htwo h.state
  rw [and_iff_left hnotDying]
  obtain ⟨-, hreceived⟩ := received_receive w c (@Listening.room env _ _ hl)
  have hreceive := steady_receive hs hl
  have hcases := @collect_listening env _ _ hl
  have hlog : (w.receive c (arrival env c w)).log = w.log ++ [.processRecv c true] := rfl
  have hclosed : (w.clients c).state ≠ .connecting2 →
      QuietAfter (.freeClient c) (Event.usesClient c) w (closeClient env c (w.receive c (arrival env c w))) := by
    intro hstate
    have hstate' : ((w.receive c (arrival env c w)).clients c).state ≠ .connecting2 := by
      simpa [World.receive] using hstate
    obtain ⟨es, hes, hnone⟩ := closeClient_entries env hreceive.tracked hstate'
    refine @quietAfter_last _ _ _ _ (.processRecv c true :: es) (.closeSocket c) ?_ (by simp) (by simpa using hnone)
    rw [hes, hlog, List.append_assoc w.log]
    rfl
  rw [processRecv_collect] at hend hgrows ⊢
  generalize collect env c w = s at hcases hend hgrows ⊢
  cases hcases with
  | nothing hnil =>
    refine iff_of_true (hclosed htwo) fun hout => ?_
    have hwhole := hout.whole
    rw [hnil, List.append_nil] at hwhole
    exact hwhole.not_begun hl.begun
  | begun _ hmore => exact iff_of_true (hend.quietAfter hmem hgrows) fun hout => hout.whole.not_begun hmore
  | refused _ hrefused => exact iff_of_true (hclosed htwo) fun hout => hout.whole.not_refused hrefused
  | whole _ hwhole =>
    by_cases hstate : (w.clients c).state = .command
    · have hstays : InCommand c (w.receive c (arrival env c w)) := ⟨hmem, by simpa [World.receive] using hstate⟩
      exact iff_of_true (hend.quietAfter (hstays.runCommand hreceive _) hgrows) fun hout => hout.state hstate
    · have hstate' : ((w.receive c (arrival env c w)).clients c).state ≠ .command := by
        simpa [World.receive] using hstate
      have hreply : (w.receive c (arrival env c w)).canReply env c resultBadcommand ↔
          w.tock.canReply env c resultBadcommand := by
        simp [World.canReply, World.hasRoom, World.receive]
      have hrun : w.Grows (fun _ => true) (w.receive c (arrival env c w)) := .one hlog rfl
      have hlive : .freeClient c ∉ w.log := fun hfreed => hs.unlisted hfreed hmem
      have hwaits : ((w.receive c (arrival env c w)).clients c).state = (w.clients c).state := by simp [World.receive]
      refine (quietAfter_runCommand hreceive hmem ⟨hstate', hwaits ▸ htwo, hwaits ▸ hother⟩ hrun hlive _ hgrows).trans ?_
      exact ⟨fun hno hout => hno (hreply.mpr hout.memory), fun hno hout => hno ⟨hstate, hbuf, hwhole, hreply.mp hout⟩⟩

end Clients

/-! ### Devices -/

/-- The first version packet of what is left of a transfer has a version that is not known. -/
def Framing.condemned : ℕ → Framing → Mem → UInt32 → Bool
  | 0, _, _, _ => false
  | n + 1, fr, buffer, size =>
    if size = 0 then false
    else
      let r := decode fr buffer size
      match r.dispatch with
      | some (.version vh) => vh.major != 2 && vh.major != 1
      | _ =>
        if size ≤ r.consumed then false
        else condemned n r.framing (buffer.shift r.consumed.toNat) (size - r.consumed)

/-- The device that the packets of its USB device go to, in a state. -/
structure FoundAs (s : MuxDevState) (d : Ptr) (u : UsbDevice) (w : World) : Prop where
  found : findByUsbdev w u = some d
  state : (w.devs d).state = s
  alive : .freeDev d ∉ w.log

namespace FoundAs

variable {env : Env} {s : MuxDevState} {d : Ptr} {u : UsbDevice} {w w' : World}

theorem same (h : FoundAs s d u w) (hlist : w'.deviceList = w.deviceList)
    (husb : ∀ d', (w'.devs d').usbdev = (w.devs d').usbdev) (hstate : (w'.devs d).state = s)
    (hlog : .freeDev d ∉ w'.log) : FoundAs s d u w' := by
  refine ⟨?_, hstate, hlog⟩
  rw [← h.found]
  unfold findByUsbdev
  simp only [hlist, husb]

theorem emit (h : FoundAs s d u w) {e : Event} (he : e ≠ .freeDev d) : FoundAs s d u (w.emit e) :=
  h.same rfl (fun _ => rfl) h.state (by simp [h.alive, he.symm])

theorem traffic (h : FoundAs s d u w) (ht : Traffic env w w') : FoundAs s d u w' := by
  have hf := ht.devices
  refine h.same hf.deviceList (fun d' => congrArg DeviceCore.usbdev (hf.core d')) ?_ fun hfreed => ?_
  · exact (congrArg DeviceCore.state (hf.core d)).trans h.state
  · exact h.alive (hf.log.old rfl hfreed)

theorem setDev (h : FoundAs s d u w) {f : MuxDevice → MuxDevice} (husb : ∀ dev, (f dev).usbdev = dev.usbdev) :
    FoundAs (f (w.devs d)).state d u (w.setDev d f) := by
  refine ⟨?_, by simp, h.alive⟩
  have hsame : ∀ d', ((w.setDev d f).devs d').usbdev = (w.devs d').usbdev := by
    intro d'
    by_cases hd : d' = d
    · subst hd
      simp [husb]
    · simp [hd]
  rw [← h.found]
  unfold findByUsbdev
  simp only [hsame, setDev_deviceList]

theorem setFraming (h : FoundAs s d u w) (fr : Framing) : FoundAs s d u (w.setDev d (·.setFraming fr)) := by
  have hset := h.setDev (f := (·.setFraming fr)) fun _ => rfl
  rwa [show ((w.devs d).setFraming fr).state = s from h.state] at hset

/-- A device that is past its version stays. -/
theorem dispatch (h : FoundAs s d u w) (hs : s ≠ .init) {call : Dispatch} (hfits : call.fits) :
    FoundAs s d u (dispatch env d call w) := by
  cases call with
  | version vh =>
    have hcall := h.emit (e := .versionInput d vh) (by simp)
    have hpast : ((w.emit (.versionInput d vh)).devs d).state ≠ .init := hcall.state ▸ hs
    simp only [Usbmuxd.dispatch, deviceVersionInput, if_pos hpast]
    exact hcall
  | control payload => exact h.emit (by simp)
  | tcp th payload => exact (h.emit (by simp)).traffic (traffic_deviceTcpInput env w d th hfits)

theorem dataInput (h : FoundAs s d u w) (hs : s ≠ .init) (buffer : Mem) (size : UInt32) :
    FoundAs s d u (deviceDataInput env u buffer size w).1 := by
  have hframing := h.setFraming (decode (w.devs d).framing buffer size).framing
  unfold deviceDataInput
  simp only [h.found]
  split
  · exact hframing
  · rename_i call hcall
    exact hframing.dispatch hs (decode_fits _ _ _ hcall)

/-- The rest of a transfer of such a device. -/
theorem drain (h : FoundAs s d u w) (hs : s ≠ .init) (n : ℕ) (buffer : Mem) (size : UInt32) :
    .freeDev d ∉ (drain env d u n buffer size w).log := by
  induction n generalizing buffer size w with
  | zero => exact (h.emit (by simp)).alive
  | succ n ih =>
    have hinput := @dataInput env _ _ _ _ h hs buffer size
    have hlive : (deviceDataInput env u buffer size w).1.devFreed d = false := by
      rw [Bool.eq_false_iff, ne_eq, devFreed_iff]
      exact hinput.alive
    unfold Usbmuxd.drain
    split
    · exact h.alive
    · dsimp only
      rw [if_neg (by simp [hlive])]
      split
      · exact hinput.alive
      · exact ih hinput _ _

/-- A device that waits for its version is freed for one that is not known, and is active with one that is. -/
theorem versionInput (h : FoundAs .init d u w) (env : Env) (vh : VersionHeader) :
    if vh.major != 2 && vh.major != 1 then
      (deviceVersionInput env d vh w).log = w.log ++ [.versionInput d vh, .freeDev d]
    else FoundAs .active d u (deviceVersionInput env d vh w) := by
  have hcall := h.emit (e := .versionInput d vh) (by simp)
  unfold deviceVersionInput
  simp only [hcall.state, ne_eq, not_true_eq_false, if_false]
  by_cases hknown : vh.major ≠ 2 ∧ vh.major ≠ 1
  · rw [if_pos (by simpa using hknown), if_pos hknown]
    simp
  · rw [if_neg (by simpa using hknown), if_neg hknown]
    have hversion := hcall.setDev (f := fun dev => { dev with version := vh.major.toNat }) fun _ => rfl
    generalize (w.emit (.versionInput d vh)).setDev d _ = v at hversion ⊢
    have hsetup : FoundAs ((w.emit (.versionInput d vh)).devs d).state d u
        (if 2 ≤ vh.major then (sendPacket env d .setup [] [0x07] v).1 else v) := by
      split
      · exact hversion.traffic (ConnBlock.packet d .setup [] [0x07] v).one
      · exact hversion
    generalize (if 2 ≤ vh.major then (sendPacket env d .setup [] [0x07] v).1 else v) = t at hsetup ⊢
    have hactive := hsetup.setDev
      (f := fun dev => { dev with state := .active, connections := some (.init capacityStep) }) fun _ => rfl
    have hpreflight := hactive.emit (e := .preflight ((t.setDev d fun dev =>
      { dev with state := .active, connections := some (.init capacityStep) }).devs d).id) (by simp)
    have hrunning := hpreflight.setDev (f := fun dev => { dev with isPreflightWorkerRunning := true }) fun _ => rfl
    rwa [hpreflight.state] at hrunning

end FoundAs

/-- Decoding leaves the version of a device alone. -/
theorem decode_framing_version (fr : Framing) (buffer : Mem) (length : UInt32) :
    (decode fr buffer length).framing.version = fr.version := by
  have hpacket : ∀ (fr : Framing) (m : Mem) (n : UInt32), (decodePacket fr m n).framing.version = fr.version := by
    intro fr m n
    obtain ⟨rxSeq, hframing⟩ := decodePacket_framing fr m n
    rw [hframing]
  unfold decode
  dsimp only
  split_ifs
  · rfl
  · rfl
  · rfl
  · exact hpacket ..
  · rfl
  · rfl
  · exact hpacket ..

theorem framing_setFraming {dev : MuxDevice} {fr : Framing} (h : fr.version = dev.version) :
    (dev.setFraming fr).framing = fr := by
  rw [MuxDevice.framing, MuxDevice.setFraming, ← h]

section Devices

variable {env : Env} {d : Ptr} {u : UsbDevice} {w : World}

/-- What `device_data_input` does for a device that waits for its version. -/
theorem dataInput_init (h : FoundAs .init d u w) (env : Env) (buffer : Mem) (size : UInt32) :
    deviceDataInput env u buffer size w =
      (match (decode (w.devs d).framing buffer size).dispatch with
        | none => w.setDev d (·.setFraming (decode (w.devs d).framing buffer size).framing)
        | some (.version vh) =>
          deviceVersionInput env d vh (w.setDev d (·.setFraming (decode (w.devs d).framing buffer size).framing))
        | some (.control payload) =>
          (w.setDev d (·.setFraming (decode (w.devs d).framing buffer size).framing)).emit (.controlInput d payload)
        | some (.tcp th payload) =>
          (w.setDev d (·.setFraming (decode (w.devs d).framing buffer size).framing)).emit (.tcpInput d th payload),
        (decode (w.devs d).framing buffer size).consumed) := by
  have hset := h.setFraming (decode (w.devs d).framing buffer size).framing
  unfold deviceDataInput
  simp only [h.found]
  cases hcall : (decode (w.devs d).framing buffer size).dispatch with
  | none => rfl
  | some call =>
    cases call with
    | version vh => rfl
    | control payload => rfl
    | tcp th payload =>
      have hidle : ((w.setDev d (·.setFraming (decode (w.devs d).framing buffer size).framing)).emit
          (.tcpInput d th payload) |>.devs d).state ≠ .active := by
        rw [(hset.emit (e := .tcpInput d th payload) (by simp)).state]
        decide
      simp only [dispatch, deviceTcpInput, if_pos hidle]

/-- What a transfer has come to: the device has been freed and used again, or it is still there. -/
def Doomed (d : Ptr) (doomed : Bool) (w w' : World) : Prop :=
  if doomed then ∃ es, w'.log = w.log ++ es ++ [.fault .freedDev] ∧ .freeDev d ∈ es else .freeDev d ∉ w'.log

theorem Doomed.after {doomed : Bool} {v w' : World} (h : Doomed d doomed v w') (hlog : w.log <+: v.log) :
    Doomed d doomed w w' := by
  cases doomed with
  | false => exact h
  | true =>
    obtain ⟨es, hes, hfreed⟩ := h
    obtain ⟨es₀, hes₀⟩ := hlog
    exact ⟨es₀ ++ es, by rw [hes, ← hes₀, List.append_assoc w.log], List.mem_append_right _ hfreed⟩

/-- The rest of a transfer of a device that waits for its version. -/
theorem drain_init (h : FoundAs .init d u w) (env : Env) (n : ℕ) (buffer : Mem) (size : UInt32) :
    Doomed d (Framing.condemned n (w.devs d).framing buffer size) w (drain env d u n buffer size w) := by
  induction n generalizing buffer size w with
  | zero => exact (h.emit (by simp)).alive
  | succ n ih =>
    have hset := h.setFraming (decode (w.devs d).framing buffer size).framing
    have hframing : ((w.setDev d (·.setFraming (decode (w.devs d).framing buffer size).framing)).devs d).framing =
        (decode (w.devs d).framing buffer size).framing := by
      rw [setDev_devs, Function.update_self]
      exact framing_setFraming (decode_framing_version ..)
    have hinput := dataInput_init h env buffer size
    have hbuffer : (∀ vh, (decode (w.devs d).framing buffer size).dispatch ≠ some (.version vh)) →
        transferBuffer w u buffer size = buffer := by
      intro hother
      unfold transferBuffer
      rw [h.found]
      dsimp only
      split
      · rename_i hcall
        exact absurd hcall (hother _)
      · rfl
    unfold drain Framing.condemned
    by_cases hzero : size = 0
    · rw [if_pos hzero, if_pos hzero]
      exact h.alive
    rw [if_neg hzero, if_neg hzero, hinput]
    dsimp only
    have hlog : (w.setDev d (·.setFraming (decode (w.devs d).framing buffer size).framing)).log = w.log := rfl
    generalize decode (w.devs d).framing buffer size = r at *
    generalize w.setDev d (·.setFraming r.framing) = v at *
    -- the loop goes on behind a packet that changes nothing for the device
    have hon : ∀ v', FoundAs .init d u v' → v'.devs = v.devs → w.log <+: v'.log →
        (∀ vh, r.dispatch ≠ some (.version vh)) →
        Doomed d (if size ≤ r.consumed then false
          else Framing.condemned n r.framing (buffer.shift r.consumed.toNat) (size - r.consumed)) w
          (if v'.devFreed d then v'.emit (.fault .freedDev)
          else if size ≤ r.consumed then v'
          else drain env d u n ((transferBuffer w u buffer size).shift r.consumed.toNat) (size - r.consumed) v') := by
      intro v' hv' hdevs hprefix hother
      have hlive : ¬ v'.devFreed d = true := fun hfreed => hv'.alive ((devFreed_iff _).mp hfreed)
      rw [if_neg hlive, hbuffer hother]
      by_cases hleft : size ≤ r.consumed
      · rw [if_pos hleft, if_pos hleft]
        exact hv'.alive
      · rw [if_neg hleft, if_neg hleft, ← hframing, ← hdevs]
        exact (ih hv' ..).after hprefix
    cases hcall : r.dispatch with
    | none => exact hon v hset rfl (by rw [hlog]) (by simp [hcall])
    | some call =>
      cases call with
      | version vh =>
        have hversion := hset.versionInput env vh
        dsimp only
        split at hversion
        · rename_i hunknown
          rw [hunknown]
          have hfreed : (deviceVersionInput env d vh v).devFreed d = true := by
            rw [devFreed_iff, hversion]
            simp
          rw [if_pos hfreed]
          exact ⟨[.versionInput d vh, .freeDev d], by rw [emit_log, hversion, hlog], by simp⟩
        · rename_i hknown
          rw [Bool.eq_false_iff.mpr hknown]
          have hlive : ¬ (deviceVersionInput env d vh v).devFreed d = true := fun hfreed =>
            hversion.alive ((devFreed_iff _).mp hfreed)
          rw [if_neg hlive]
          split
          · exact hversion.alive
          · exact hversion.drain (by decide) _ _ _
      | control payload => exact hon _ (hset.emit (by simp)) rfl (by simp [hlog]) (by simp [hcall])
      | tcp th payload => exact hon _ (hset.emit (by simp)) rfl (by simp [hlog]) (by simp [hcall])

/-- A device waits for its version, and the first version packet of a transfer has one that is not known. -/
structure RejectsVersion (d : Ptr) (t : Transfer) (w : World) : Prop where
  state : (w.devs d).state = .init
  version : Framing.condemned (t.size.toNat + 1) (w.devs d).framing t.buffer t.size = true

/-- Exactly when `device_process_sockets` does nothing with a device after freeing it. -/
theorem quietAfter_deviceProcessSocket (hs : Steady env w) (hd : d ∈ w.deviceList)
    (hfound : findByUsbdev w (w.devs d).usbdev = some d) (t : Transfer) :
    QuietAfter (.freeDev d) (Event.usesDevice d) w (deviceProcessSocket env d t w) ↔ ¬ RejectsVersion d t w := by
  have halive : .freeDev d ∉ w.log := List.count_eq_zero.mp (hs.tracked.ok.device_live d hd)
  have hserved : FoundAs (w.devs d).state d (w.devs d).usbdev w := ⟨hfound, rfl, halive⟩
  have hgrows : w.Grows (fun _ => true) (deviceProcessSocket env d t w) := by
    have hturns := @turns_exec env _ (.transfer d t) hs.tracked.liveLookups
    rw [exec, if_pos hd] at hturns
    exact hturns.log
  by_cases hinit : (w.devs d).state = .init
  · have hdoomed := drain_init (hinit ▸ hserved) env (t.size.toNat + 1) t.buffer t.size
    cases hbad : Framing.condemned (t.size.toNat + 1) (w.devs d).framing t.buffer t.size with
    | true =>
      rw [hbad] at hdoomed
      obtain ⟨es, hlog, hfreed⟩ := hdoomed
      refine iff_of_false ?_ (not_not.mpr ⟨hinit, hbad⟩)
      exact not_quietAfter hlog hfreed (List.mem_singleton_self _) (.inl rfl)
    | false =>
      rw [hbad] at hdoomed
      refine iff_of_true (quietAfter_live hgrows hdoomed) fun hrejects => ?_
      rw [hrejects.version] at hbad
      cases hbad
  · exact iff_of_true (quietAfter_live hgrows (hserved.drain hinit _ _ _)) fun hrejects => hinit hrejects.state

end Devices

/-! ### Runs -/

/-- After every run `process_recv` lets go of its client, and the drain loop of its device, exactly when
* the client has not sent a whole command while it listens or waits for a connection (and there is memory for the
  answer), and has not been read from while its reply waits to be sent, and
* the first version packet for a device that waits for its version has a version that is known. -/
theorem letsGo_iff (env : Env) (ops : List Op) :
    (∀ c ∈ (run env ops).clientList, ((run env ops).clients c).state ≠ .connected →
      (QuietAfter (.freeClient c) (Event.usesClient c) (run env ops) (processRecv env c (run env ops)) ↔
        ¬ OutOfTurn env c (run env ops) ∧ ¬ DiesWaiting c (run env ops))) ∧
    ∀ d ∈ (run env ops).deviceList, findByUsbdev (run env ops) ((run env ops).devs d).usbdev = some d →
      ∀ t, QuietAfter (.freeDev d) (Event.usesDevice d) (run env ops) (deviceProcessSocket env d t (run env ops)) ↔
        ¬ RejectsVersion d t (run env ops) :=
  ⟨fun _ hmem hother => quietAfter_processRecv env ops hmem hother,
    fun _ hd hfound t => quietAfter_deviceProcessSocket (steady_run env ops) hd hfound t⟩

/-- A transfer with a version packet of version 3. -/
def strangeVersion : Transfer where
  buffer := .ofList (htonl 0 ++ htonl 20 ++ htonl 3 ++ htonl 0 ++ htonl 0)
  size := 20
  size_le := by decide

/-- A client that listens sends another command, and a device says that it is of version 3. -/
theorem not_letsGo :
    ¬ QuietAfter (.freeClient 1) (Event.usesClient 1) (run .listening [.clientAccept, .clientReady 1 ⟨true, false⟩])
        (processRecv .listening 1 (run .listening [.clientAccept, .clientReady 1 ⟨true, false⟩])) ∧
      ¬ QuietAfter (.freeDev 1) (Event.usesDevice 1) (run .quiet [.usb (.deviceAdd 5)])
        (deviceProcessSocket .quiet 1 strangeVersion (run .quiet [.usb (.deviceAdd 5)])) := by
  constructor
  · have hlog : (processRecv .listening 1 (run .listening [.clientAccept, .clientReady 1 ⟨true, false⟩])).log =
        (run .listening [.clientAccept, .clientReady 1 ⟨true, false⟩]).log ++
          [.processRecv 1 true, .queued 1 0 .result (le32 resultBadcommand), .closeSocket 1, .freeClient 1] ++
          [.fault .freedClient] := by
      decide +kernel
    exact not_quietAfter hlog (by simp) (List.mem_singleton_self _) (.inl rfl)
  · have hlog : (deviceProcessSocket .quiet 1 strangeVersion (run .quiet [.usb (.deviceAdd 5)])).log =
        (run .quiet [.usb (.deviceAdd 5)]).log ++ [.versionInput 1 ⟨3, 0, 0⟩, .freeDev 1] ++ [.fault .freedDev] := by
      decide +kernel
    exact not_quietAfter hlog (by simp) (List.mem_singleton_self _) (.inl rfl)

end Usbmuxd
