import Usbmuxd.Foundation.Iteration
import Usbmuxd.Runs.Sockets
import Usbmuxd.Streams.Framing

/-!
# Readiness that is out of date

`MainThreadProc` asks `select` once in an iteration, before it looks at the devices, and
`client_process` goes by the answer after the devices have had their turn. In between a device may
have answered the connect of a client, and `client_notify_connect` has freed its command buffer. If
`select` has found the client readable, `process_recv` is called all the same.

## The model

* `MainStep` — an iteration of the main loop, or what a preflight thread does between two.
* `Overtaken` — when `client_process` begins, a client that `select` has found readable is in
  `CLIENT_CONNECTING2`.

## What is proved

* `Overtaken.just_now` — then the device has answered in this very iteration.
* `buffered_iterate` — as long as this does not happen, `process_recv` always finds a command buffer.
* `not_buffered_hasty` — a client that says something while it waits for its connection is enough.
-/

namespace Usbmuxd

open World

/-! ### The main loop and the preflight threads -/

/-- What a preflight thread calls. -/
def Op.ofPreflight : Op → Bool
  | .setVisible _ | .announce _ | .pairingEvent .. | .preflightFinished _ => true
  | _ => false

/-- An iteration of the main loop, or what a preflight thread does between two iterations. -/
inductive MainStep where
  | pass (r : Readiness)
  | preflight (op : Op) (h : op.ofPreflight = true)

/-- Do one step. -/
def MainStep.exec (env : Env) (w : World) : MainStep → World
  | .pass r => mainPass env r w
  | .preflight op _ => Usbmuxd.exec env w op

/-- A run, from the start of the daemon. -/
def iterate (env : Env) (steps : List MainStep) : World := steps.foldl (MainStep.exec env) .init

/-- `process_recv` has only been called for clients with a command buffer. -/
def Buffered (w : World) : Prop := ∀ c b, .processRecv c b ∈ w.log → b = true

/-- When `client_process` begins, a client that `select` has found readable is in `CLIENT_CONNECTING2`. -/
def Overtaken (env : Env) (r : Readiness) (w : World) : Prop :=
  r.timedOut = false ∧ ∃ c ∈ (devicePhase env r w).clientList, (selectClients r w c).pollin = true ∧
    ((devicePhase env r w).clients c).state = .connecting2

instance (env : Env) (r : Readiness) (w : World) : Decidable (Overtaken env r w) :=
  inferInstanceAs (Decidable (_ ∧ ∃ c ∈ (devicePhase env r w).clientList.elements, _ ∧ _))

section Iterations

variable {env : Env} {w v : World} {r : Readiness}

/-- A client that waits for its reply to be sent is not asked for input: the device has answered in this iteration. -/
theorem Overtaken.just_now (h : Fed env w) {c : Ptr} (hready : (selectClients r w c).pollin = true) :
    (w.clients c).state ≠ .connecting2 := by
  intro hstate
  unfold selectClients at hready
  split at hready
  · rename_i hc
    obtain ⟨hasked, -⟩ := Bool.and_eq_true_iff.mp hready
    have hquiet := (h.steady.1.tracked.ok.entries c hc).quiet hstate
    rw [registry_clients, MuxClient.entry, hstate, hasked] at hquiet
    cases hquiet
  · cases hready

/-- A call with a command buffer. -/
theorem Buffered.call (h : Buffered w) (c : Ptr) : Buffered (w.emit (.processRecv c true)) := by
  intro c' b hmem
  rw [emit_log, List.mem_append, List.mem_singleton] at hmem
  obtain hmem | heq := hmem
  · exact h c' b hmem
  · obtain ⟨-, rfl⟩ := Event.processRecv.inj heq
    rfl

/-- Nothing but `process_recv` writes entries for its calls. -/
theorem Buffered.other (h : Buffered w) {e : Event} (he : e.isRecvCall = false) : Buffered (w.emit e) := by
  intro c b hmem
  rw [emit_log, List.mem_append, List.mem_singleton] at hmem
  obtain hmem | rfl := hmem
  · exact h c b hmem
  · cases he

/-- The entries that other functions write. -/
theorem Buffered.more (h : Buffered w) {es : List Event} (hlog : v.log = w.log ++ es)
    (hes : ∀ e ∈ es, e.isRecvCall = false) : Buffered v := by
  intro c b hmem
  rw [hlog, List.mem_append] at hmem
  obtain hmem | hmem := hmem
  · exact h c b hmem
  · cases hes _ hmem

/-- The work on connections calls no `process_recv`. -/
theorem Buffered.conn (h : Buffered w) (hf : ConnFrame w v) : Buffered v := by
  obtain ⟨es, hlog, hes⟩ := hf.log
  refine h.more hlog fun e he => ?_
  have hconn := hes e he
  cases e with
  | processRecv => cases hconn
  | _ => rfl

/-- While the clients have their turns: the calls of `process_recv` so far have been in order, no client is added to
those on the list `clients`, and none of those that are ready has been connected since. -/
structure Serving (clients : SlotTable Ptr) (ready : Ptr → Events) (v : World) : Prop where
  buffered : Buffered v
  listed : ∀ c ∈ v.clientList, c ∈ clients
  waiting : ∀ c ∈ clients, (ready c).pollin = true → (v.clients c).state ≠ .connecting2

/-- Nothing but the answer of a device takes a client to `CLIENT_CONNECTING2`. -/
theorem kept_serving (env : Env) (clients : SlotTable Ptr) (ready : Ptr → Events) :
    Kept env False False (Serving clients ready) where
  conn hf h := ⟨h.buffered.conn hf.toConnFrame, fun c hc => h.listed c (hf.clientList ▸ hc),
    fun c hc hready => by rw [hf.clients]; exact h.waiting c hc hready⟩
  emit he h := ⟨h.buffered.other he, h.listed, h.waiting⟩
  recvCall _ _ hcalls := hcalls.elim
  setClient := by
    intro v c f hstate h
    refine ⟨h.buffered, h.listed, fun c' hc' hready heq => ?_⟩
    by_cases hsame : c' = c
    · subst hsame
      rw [setClient_clients, Function.update_self] at heq
      exact (hstate heq).elim (h.waiting c' hc' hready) id
    · rw [setClient_clients, Function.update_of_ne hsame] at heq
      exact h.waiting c' hc' hready heq
  releaseClient c h := by
    refine ⟨h.buffered.more rfl (by simp [Event.isRecvCall]), fun c' hc' => ?_, h.waiting⟩
    exact h.listed c' (SlotTable.mem_of_mem_remove hc')
  setDev _ _ _ h := ⟨h.buffered, h.listed, h.waiting⟩
  framing _ _ _ h := ⟨h.buffered, h.listed, h.waiting⟩
  allocDev _ _ h := ⟨h.buffered, h.listed, h.waiting⟩
  registerDev _ _ h := ⟨h.buffered, h.listed, h.waiting⟩
  releaseDev _ h := ⟨h.buffered.more rfl (by simp [Event.isRecvCall]), h.listed, h.waiting⟩

/-- The devices do not call `process_recv`. -/
theorem kept_buffered (env : Env) : Kept env True False Buffered where
  conn hf h := h.conn hf.toConnFrame
  emit he h := h.other he
  recvCall _ _ hcalls := hcalls.elim
  setClient _ _ _ h := h
  releaseClient _ h := h.more rfl (by simp [Event.isRecvCall])
  setDev _ _ _ h := h
  framing _ _ _ h := h
  allocDev _ _ h := h
  registerDev _ _ h := h
  releaseDev _ h := h.more rfl (by simp [Event.isRecvCall])

/-- The turn of a client: if it is not connected, and has not been connected since `select` looked at it, it has a
command buffer. -/
theorem Serving.turn {clients : SlotTable Ptr} {ready : Ptr → Events} {c : Ptr} (h : Serving clients ready v)
    (hv : Fed env v) (hc : c ∈ v.clientList) : Serving clients ready (clientReady env c (ready c) v) := by
  have hkept := kept_serving env clients ready
  unfold clientReady
  split_ifs with hevents hstate hin
  · exact hkept.carried.deviceClientProcess h ..
  · have hbuf : (v.clients c).ibBuf.isSome = true :=
      (hv.steady.1.tracked.ok.entries c hc).buffer.mpr ⟨h.waiting c (h.listed c hc) hin, hstate⟩
    apply hkept.upheld.processRecv_called trivial hc
    rw [hbuf]
    exact ⟨h.buffered.call c, h.listed, h.waiting⟩
  · exact hkept.carried.processSend h c
  · exact h

/-- The turns of all clients. -/
theorem Serving.clientProcess {clients : SlotTable Ptr} {ready : Ptr → Events} (h : Serving clients ready v)
    (hv : Fed env v) : Serving clients ready (clientProcess env ready v) := by
  refine (SlotTable.forEach_induct (P := fun v => Fed env v ∧ Serving clients ready v) ?_ _ _ v ⟨hv, h⟩).2
  rintro c v hc ⟨hv, h⟩
  have hturn := hv.exec (.clientReady c (ready c))
  rw [Usbmuxd.exec, if_pos hc] at hturn
  exact ⟨hturn, h.turn hv hc⟩

/-- The phases in front of `client_process`. -/
theorem Buffered.devicePhase (h : Buffered w) (r : Readiness) : Buffered (devicePhase env r w) := by
  have hkept := kept_buffered env
  unfold Usbmuxd.devicePhase
  dsimp only
  have haccepted : Buffered (if r.newClient then clientAccept (fdSetSize < fdCount w + 1) w else w) := by
    split
    · unfold clientAccept
      split
      · exact h
      · exact h.more rfl (by simp [Event.isRecvCall])
    · exact h
  apply hkept.upheld.usbProcess
  apply hkept.upheld.deviceProcessSockets trivial
  split
  · split
    · exact haccepted
    · unfold deviceAcceptSocket
      split
      · exact haccepted
      · exact haccepted
  · exact haccepted

/-- An iteration in which no client is overtaken. -/
theorem Buffered.mainPass (h : Buffered w) (hw : Fed env w) (hr : ¬ Overtaken env r w) :
    Buffered (mainPass env r w) := by
  unfold Usbmuxd.mainPass
  split
  · exact (kept_buffered env).carried.deviceCheckTimeouts ((kept_buffered env).upheld.usbProcess h)
  · rename_i hclients
    have hserving : Serving (Usbmuxd.devicePhase env r w).clientList (selectClients r w) (Usbmuxd.devicePhase env r w) :=
      ⟨h.devicePhase r, fun _ hc => hc, fun c hc hready hstate =>
        hr ⟨by simpa using hclients, c, hc, hready, hstate⟩⟩
    exact (hserving.clientProcess (hw.devicePhaseWith fdSetSize r)).buffered

/-- What the preflight threads do. -/
theorem Buffered.preflight (h : Buffered w) {op : Op} (hop : op.ofPreflight = true) : Buffered (exec env w op) := by
  cases op with
  | setVisible id =>
    simp only [exec, deviceSetVisible]
    split
    · exact h
    · exact h
  | announce info => exact (kept_buffered env).announceDevice h info
  | pairingEvent info event validate => exact (kept_buffered env).clientDevicePairingEvent h info event validate
  | preflightFinished id => exact (kept_buffered env).carried.devicePreflightFinished h id
  | _ => cases hop

/-- **In every run in which no client is overtaken, `process_recv` always finds a command buffer.** -/
theorem buffered_iterate (env : Env) (steps : List MainStep)
    (h : ∀ before r after, steps = before ++ .pass r :: after → ¬ Overtaken env r (iterate env before)) :
    Buffered (iterate env steps) := by
  refine (Iteration.foldl_keeps (P := fun w => Fed env w ∧ Buffered w)
    (C := fun w step => ∀ r, step = MainStep.pass r → ¬ Overtaken env r w) ?_ (fun before step after heq r hstep => ?_)
    ⟨.init, nofun⟩).2
  · rintro w (r | ⟨op, hop⟩) hstep ⟨hw, h⟩
    · exact ⟨hw.mainPassWith fdSetSize r, h.mainPass hw (hstep r rfl)⟩
    · exact ⟨hw.exec op, h.preflight hop⟩
  · subst hstep
    exact h before r after heq

end Iterations

/-! ### A client that is overtaken -/

/-- A device comes, and the first client asks it for port 80. -/
def Env.hasty : Env where
  __ := quiet
  usbProcess t := if t = 0 then [.deviceAdd 5] else []
  recv t := if t < 5 then le32 24 ++ le32 0 ++ le32 2 ++ le32 7 else le32 1 ++ [0, 80, 0, 0]

/-- A version packet fits into a transfer. -/
theorem versionPacket_fits : 20 ≤ deviceRxBufferSize := by decide

/-- A transfer with a version packet. -/
def versionTransfer : Transfer where
  buffer := .ofList (htonl 0 ++ htonl 20 ++ htonl 1 ++ htonl 0 ++ htonl 0)
  size := 20
  size_le := versionPacket_fits

/-- A transfer with the `SYN|ACK` for the first connection. -/
def synAckTransfer : Transfer where
  buffer := .ofList (htonl 6 ++ htonl 28 ++ TcpHdr.bytes ⟨80, 1, 0, 1, 0x50, thSyn ||| thAck, 1000, 0, 0⟩)
  size := 28
  size_le := by decide

/-- The device `1` and the client `2` come, the device says its version, and the client asks for its connection. -/
def askingSteps : List MainStep :=
  let serve := fun transfer => .pass ⟨false, false, none, fun _ => ⟨true, false⟩, fun _ => transfer⟩
  [.pass ⟨false, false, none, fun _ => ⟨false, false⟩, fun _ => none⟩,
    .pass ⟨false, true, some 5, fun _ => ⟨false, false⟩, fun _ => none⟩, serve (some versionTransfer), serve none]

/-- The device answers, and the client is not readable. -/
theorem buffered_hasty : Buffered (iterate .hasty
    (askingSteps ++ [.pass ⟨false, false, none, fun _ => ⟨false, true⟩, fun _ => some synAckTransfer⟩])) := by
  apply buffered_iterate
  intro before r after heq
  obtain _ | ⟨s₁, _ | ⟨s₂, _ | ⟨s₃, _ | ⟨s₄, _ | ⟨s₅, rest⟩⟩⟩⟩⟩ := before
  all_goals simp only [askingSteps, List.cons_append, List.nil_append, List.cons.injEq, MainStep.pass.injEq] at heq
  · obtain ⟨rfl, -⟩ := heq
    decide +kernel
  · obtain ⟨rfl, rfl, -⟩ := heq
    decide +kernel
  · obtain ⟨rfl, rfl, rfl, -⟩ := heq
    decide +kernel
  · obtain ⟨rfl, rfl, rfl, rfl, -⟩ := heq
    decide +kernel
  · obtain ⟨rfl, rfl, rfl, rfl, rfl, -⟩ := heq
    decide +kernel
  · simp at heq

/-- The device answers, and the client has written something more. -/
theorem not_buffered_hasty : ¬ ∀ (env : Env) (steps : List MainStep), Buffered (iterate env steps) := by
  intro h
  have hcall : .processRecv 2 false ∈ (iterate .hasty
      (askingSteps ++ [.pass ⟨false, false, none, fun _ => ⟨true, false⟩, fun _ => some synAckTransfer⟩])).log := by
    decide +kernel
  exact nomatch h _ _ 2 false hcall

end Usbmuxd
