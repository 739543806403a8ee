import Usbmuxd.Streams.Inbox
import Usbmuxd.Streams.Removal
import Usbmuxd.Runs.Kept

/-!
# What a client has sent, and what was made of it

In a run `process_recv` is called for a client again and again, whenever the loop finds that there is something to
read, and between the calls the daemon does whatever else there is to do. None of that touches the command buffer.

## The model

* `Transcript` — the bytes of a client that have been read in a run, and the commands that have been carried out.
* `transcript` — the transcript of a client at the end of a run.

## What is proved

* `exec_commandBuffer` — only `process_recv` for a client changes its command buffer, until the buffer is given up.
* `transcribed_run` — the commands of a transcript, and behind them what the buffer holds, are the bytes read.
* `commands_framed` — the commands are those that the length fields of the stream say, and a client in command mode is
  closed by a call of `process_recv` exactly when it has a length that is not accepted.
-/

namespace Usbmuxd

open World

/-! ### Transcripts -/

/-- The command in the buffer that `client_command` is called with. -/
def commandBytes (m : Mem) : List UInt8 := m.slice 0 (readLe32 m 0).toNat

/-- What has been read from a client, and the commands that have been carried out. -/
structure Transcript where
  stream : List UInt8
  commands : List (List UInt8)

/-- After one more call of `process_recv`. -/
def Transcript.extend (t : Transcript) (s : Collected) : Transcript :=
  ⟨t.stream ++ s.got, t.commands ++ (s.command.map commandBytes).toList⟩

instance (c : Ptr) (w : World) (op : Op) : Decidable (op.receives c w) := by
  unfold Op.receives
  split <;> infer_instance

/-- One more operation. -/
def transcribe (env : Env) (c : Ptr) (s : World × Transcript) (op : Op) : World × Transcript :=
  (exec env s.1 op, if op.receives c s.1 then s.2.extend (collect env c s.1) else s.2)

/-- A run, with what has been read from the client `c`. -/
def transcript (env : Env) (c : Ptr) (ops : List Op) : World × Transcript :=
  ops.foldl (transcribe env c) (.init, ⟨[], []⟩)

section Transcripts

variable {env : Env} {c : Ptr} {w : World} {op : Op} {ops : List Op}

theorem transcript_append (env : Env) (c : Ptr) (ops : List Op) (op : Op) :
    transcript env c (ops ++ [op]) = transcribe env c (transcript env c ops) op := by
  simp [transcript]

/-- Keeping a transcript changes nothing. -/
theorem transcript_world (env : Env) (c : Ptr) (ops : List Op) : (transcript env c ops).1 = run env ops := by
  induction ops using List.reverseRecOn with
  | nil => rfl
  | append_singleton ops op ih =>
    rw [transcript_append, run_append, ← ih]
    rfl

theorem receives_listed (h : op.receives c w) : c ∈ w.clientList := by
  cases op with
  | clientReady x events =>
    obtain ⟨rfl, hmem, -⟩ := h
    exact hmem
  | _ => exact h.elim

theorem exec_receives (h : op.receives c w) : exec env w op = processRecv env c w := by
  cases op with
  | clientReady x events =>
    obtain ⟨rfl, hmem, hstate, hin⟩ := h
    simp only [exec, if_pos hmem, clientReady, if_neg hstate]
    rw [if_pos (.inl hin), if_pos hin]
  | _ => exact h.elim

/-! ### Between the calls -/

/-- Only an accepted client is new on the list. -/
theorem listed_exec (env : Env) {w : World} {op : Op} (h : c ∈ (exec env w op).clientList) :
    c ∈ w.clientList ∨ op = .clientAccept ∧ c = w.fresh := by
  have hkept : Kept env True True fun v => ∀ x ∈ v.clientList, x ∈ w.clientList :=
    { conn := fun hf h x hx => h x (hf.clientList ▸ hx)
      emit := fun _ h => h
      recvCall := fun _ _ _ h => h
      setClient := fun _ _ _ h => h
      releaseClient := fun _ h x hx => h x (SlotTable.mem_of_mem_remove hx)
      setDev := fun _ _ _ h => h
      framing := fun _ _ _ h => h
      allocDev := fun _ _ h => h
      registerDev := fun _ _ h => h
      releaseDev := fun _ h => h }
  by_cases hop : Kept.Ordinary op
  · exact .inl (hkept.exec trivial trivial (fun _ hx => hx) hop c h)
  cases op with
  | clientAccept =>
    rcases SlotTable.mem_add.mp h with rfl | h
    · exact .inr ⟨rfl, rfl⟩
    · exact .inl h
  | acceptSocket u =>
    left
    simp only [exec, deviceAcceptSocket] at h
    split at h
    · exact h
    · exact h
  | setVisible id =>
    left
    simp only [exec, deviceSetVisible] at h
    split at h
    · exact h
    · exact h
  | _ => exact absurd trivial hop

/-- What an operation makes of a command buffer it does not receive into. -/
structure SameBuffer (c : Ptr) (w w' : World) : Prop where
  buffer : (w'.clients c).ibBuf = none ∨ (w'.clients c).ibBuf = (w.clients c).ibBuf
  size : (w'.clients c).ibSize = (w.clients c).ibSize
  capacity : (w'.clients c).ibCapacity = (w.clients c).ibCapacity

theorem SameBuffer.received (h : SameBuffer c w w') (hbuf : (w'.clients c).ibBuf.isSome = true) :
    w'.received c = w.received c := by
  rcases h.buffer with hnone | hsame
  · simp [hnone] at hbuf
  · rw [World.received, World.received, hsame, h.size]

/-- A step to which the command buffer is the same whatever it holds. -/
theorem sameBuffer_of_refill {f : World → World} (hf : ∀ r, f (w.refill c r) = (f w).refill c r) :
    SameBuffer c w (f w) := by
  -- the buffer is replaced by itself, which changes nothing, and is itself afterwards
  have hself : ∀ m, (w.clients c).ibBuf = (w.clients c).ibBuf.map (fun _ => m) →
      (f w).clients c = ((f w).clients c).refill
        ⟨m, fun _ => (w.clients c).ibSize, fun _ => (w.clients c).ibCapacity⟩ := by
    intro m hm
    have hclient : (w.clients c).refill ⟨m, fun _ => (w.clients c).ibSize, fun _ => (w.clients c).ibCapacity⟩ =
        w.clients c := by
      simp only [MuxClient.refill, ← hm]
    have hw : w.refill c ⟨m, fun _ => (w.clients c).ibSize, fun _ => (w.clients c).ibCapacity⟩ = w := by
      simp only [World.refill, setClient, hclient, Function.update_eq_self]
    have hafter := congrArg (fun v : World => v.clients c)
      (hf ⟨m, fun _ => (w.clients c).ibSize, fun _ => (w.clients c).ibCapacity⟩)
    rw [hw] at hafter
    simpa [World.refill] using hafter
  cases hbuf : (w.clients c).ibBuf with
  | none =>
    have hzero := hself (fun _ => 0) (by rw [hbuf]; rfl)
    have hone := hself (fun _ => 1) (by rw [hbuf]; rfl)
    have hsize := congrArg MuxClient.ibSize hzero
    have hcapacity := congrArg MuxClient.ibCapacity hzero
    refine ⟨.inl ?_, hsize, hcapacity⟩
    cases hafter : ((f w).clients c).ibBuf with
    | none => rfl
    | some b =>
      have hb := congrArg MuxClient.ibBuf hzero
      have hb' := congrArg MuxClient.ibBuf hone
      simp only [MuxClient.refill, hafter, Option.map_some, Option.some.injEq] at hb hb'
      exact absurd (congrFun (hb.symm.trans hb') 0) (by decide)
  | some m =>
    have hm := hself m (by rw [hbuf]; rfl)
    have hsize := congrArg MuxClient.ibSize hm
    have hcapacity := congrArg MuxClient.ibCapacity hm
    refine ⟨?_, hsize, hcapacity⟩
    rw [hbuf]
    cases hafter : ((f w).clients c).ibBuf with
    | none => exact .inl rfl
    | some b =>
      have hb := congrArg MuxClient.ibBuf hm
      simp only [MuxClient.refill, hafter, Option.map_some] at hb
      exact .inr hb

/-- A command buffer changes only when it is received into. -/
theorem exec_commandBuffer (hop : ¬ op.receives c w) (hc : op = .clientAccept → c ≠ w.fresh) :
    SameBuffer c w (exec env w op) :=
  sameBuffer_of_refill (f := fun v => exec env v op) fun _ => refill_exec hop hc

/-! ### The transcript of a run -/

/-- A transcript, and what the command buffer holds of the bytes that have been read. -/
structure Transcribed (c : Ptr) (w : World) (t : Transcript) : Prop where
  /-- Nothing has been read from a client that has not been accepted. -/
  unborn : w.fresh ≤ c → t = ⟨[], []⟩
  sizes : c ∈ w.clientList → (w.clients c).ibCapacity = cmdBufSize ∧ (w.clients c).ibSize ≤ cmdBufSize
  cut : ∃ held, commandFormat.Cut t.stream t.commands held ∧
    (c ∈ w.clientList → (w.clients c).ibBuf.isSome = true → Listening c w ∧ held = w.received c)

theorem transcribed_init (c : Ptr) : Transcribed c .init ⟨[], []⟩ where
  unborn _ := rfl
  sizes hc := absurd hc (SlotTable.not_mem_init _ c)
  cut := ⟨[], .nil _, fun hc => absurd hc (SlotTable.not_mem_init _ c)⟩

/-- A client that has been freed is not on the list. -/
theorem Steady.unlisted (h : Steady env w) (hfreed : .freeClient c ∈ w.log) : c ∉ w.clientList := fun hc =>
  absurd (h.tracked.ok.client_live c hc).1 (Nat.ne_of_gt (List.count_pos_iff.mpr hfreed))

theorem freeClient_closeClient (env : Env) (c : Ptr) (w : World) : .freeClient c ∈ (closeClient env c w).log := by
  unfold closeClient callDepth clientClose
  simp

theorem commandBytes_whole {m : Mem} (hbuf : (w.clients c).ibBuf = some m) (h : commandFormat.Whole (w.received c)) :
    commandBytes m = w.received c := by
  have hsize := h.size
  rw [size_received hbuf h.header_le, length_received] at hsize
  rw [commandBytes, hsize, received_some hbuf]

/-- Nothing is collected into a buffer that is not there. -/
theorem collect_noBuffer (env : Env) (hnone : (w.clients c).ibBuf = none) :
    (collect env c w).got = [] ∧ (collect env c w).command = none ∧
      (.freeClient c ∈ (collect env c w).world.log ∨ SameBuffer c w (collect env c w).world) := by
  unfold collect
  simp only [hnone, Option.isSome_none]
  split
  · have hrecv : recvCommandBytes env c (usbmuxdHeaderSize - (w.clients c).ibSize) (w.emit (.processRecv c false)) =
        ((w.emit (.processRecv c false)).tock, 0) := by
      simp [recvCommandBytes, hnone]
    have hdelivers : recvDelivers env c (usbmuxdHeaderSize - (w.clients c).ibSize) (w.emit (.processRecv c false)) = [] := by
      simp [recvDelivers, hnone]
    rw [hrecv, if_pos rfl]
    exact ⟨hdelivers, rfl, .inl (freeClient_closeClient ..)⟩
  · have hbody : collectBody env c false (w.emit (.processRecv c false)) =
        ⟨(w.emit (.processRecv c false)).emit (.fault .nullIbBuf), [], none⟩ := by
      simp [collectBody, hnone]
    rw [hbody]
    exact ⟨rfl, rfl, .inr ⟨.inl hnone, rfl, rfl⟩⟩

/-- A client that is closed has nothing more to be listened to. -/
theorem transcribed_closed {t : Transcript} {held : List UInt8} (hs : Steady env w) (hc : c < w.fresh)
    (hfreed : .freeClient c ∈ w.log) (hcut : commandFormat.Cut t.stream t.commands held) : Transcribed c w t :=
  ⟨fun hborn => absurd hborn (Nat.not_le.mpr hc), fun hmem => absurd hmem (hs.unlisted hfreed),
    held, hcut, fun hmem => absurd hmem (hs.unlisted hfreed)⟩

/-- A call of `process_recv`. -/
theorem Transcribed.receive {t : Transcript} (h : Transcribed c w t) (hmem : c ∈ w.clientList) (hlt : c < w.fresh)
    (hfresh : w.fresh ≤ (processRecv env c w).fresh) (hs : Steady env (processRecv env c w)) :
    Transcribed c (processRecv env c w) (t.extend (collect env c w)) := by
  have hlt' : c < (processRecv env c w).fresh := Nat.lt_of_lt_of_le hlt hfresh
  have hborn : ∀ t', (processRecv env c w).fresh ≤ c → t' = (⟨[], []⟩ : Transcript) :=
    fun t' hle => absurd hle (Nat.not_le.mpr hlt')
  obtain ⟨held, hcut, hheld⟩ := h.cut
  obtain ⟨hcap, hsize⟩ := h.sizes hmem
  rw [processRecv_collect] at hs hlt' hborn ⊢
  cases hbuf : (w.clients c).ibBuf.isSome with
  | false =>
    obtain ⟨hgot, hcommand, hworld⟩ := collect_noBuffer env (Option.isNone_iff_eq_none.mp (by simpa using hbuf))
    have hext : t.extend (collect env c w) = t := by simp [Transcript.extend, hgot, hcommand]
    have hfinish : (collect env c w).finish env c = (collect env c w).world := by rw [Collected.finish, hcommand]
    rw [hfinish] at hs hlt' hborn ⊢
    rw [hext]
    rcases hworld with hfreed | hsame
    · exact transcribed_closed hs hlt' hfreed hcut
    · refine ⟨hborn t, fun _ => ?_, held, hcut, fun _ hsome => ?_⟩
      · rw [hsame.capacity, hsame.size]
        exact ⟨hcap, hsize⟩
      · rcases hsame.buffer with hnone | hold
        · simp [hnone] at hsome
        · rw [hold, hbuf] at hsome
          cases hsome
  | true =>
    obtain ⟨hlisten, rfl⟩ := hheld hmem hbuf
    obtain ⟨hnewSize, hreceived⟩ := received_receive w c (@Listening.room env _ _ hlisten)
    have hroom := @Listening.room env _ _ hlisten
    have hcases := @collect_listening env _ _ hlisten
    have hbuf' : ∃ b, ((w.receive c (arrival env c w)).clients c).ibBuf = some b := ⟨_, by simp [World.receive]; rfl⟩
    have hcap' : ((w.receive c (arrival env c w)).clients c).ibCapacity = cmdBufSize := by simp [World.receive, hcap]
    generalize collect env c w = s at hcases hs hlt' hborn ⊢
    generalize arrival env c w = got at hcases hnewSize hreceived hroom hbuf' hcap'
    cases hcases with
    | nothing hnil =>
      subst hnil
      refine transcribed_closed hs hlt' (freeClient_closeClient ..) (?_ : commandFormat.Cut _ _ (w.received c))
      simpa [Transcript.extend] using hcut
    | begun hne hmore =>
      refine ⟨hborn _, fun _ => ⟨hcap', ?_⟩, w.received c ++ got, ?_, fun _ _ => ⟨⟨?_, hcap', ?_⟩, hreceived.symm⟩⟩
      · rw [UInt32.le_iff_toNat_le]
        exact hnewSize.trans_le hroom
      · simpa [Transcript.extend] using hcut.more hmore.not_ready
      · obtain ⟨b, hb⟩ := hbuf'
        exact Option.isSome_of_eq_some hb
      · exact (congrArg commandFormat.Begun hreceived).mpr hmore
    | refused hne hrefused =>
      refine transcribed_closed hs hlt' (freeClient_closeClient ..)
        (?_ : commandFormat.Cut _ _ (w.received c ++ got))
      simpa [Transcript.extend] using hcut.more hrefused.not_ready
    | whole hne hwhole =>
      obtain ⟨b, hb⟩ := hbuf'
      have hbytes : commandBytes (((w.receive c got).clients c).ibBuf.getD default) = w.received c ++ got := by
        rw [hb, ← hreceived]
        exact commandBytes_whole hb (hreceived ▸ hwhole)
      have hnext : commandFormat.Cut (t.extend ⟨w.receive c got, got,
          some (((w.receive c got).clients c).ibBuf.getD default)⟩).stream (t.extend ⟨w.receive c got, got,
          some (((w.receive c got).clients c).ibBuf.getD default)⟩).commands [] := by
        simp only [Transcript.extend, Option.map_some, Option.toList_some, hbytes]
        exact hcut.message hwhole
      have hsame : SameBuffer c (w.receive c got)
          (clientCommand env c (((w.receive c got).clients c).ibBuf.getD default) (w.receive c got)) :=
        sameBuffer_of_refill fun r => refill_clientCommand (r := r) c _
      simp only [Collected.finish, runCommand] at hs hlt' hborn ⊢
      generalize clientCommand env c (((w.receive c got).clients c).ibBuf.getD default) (w.receive c got) = u
        at hs hlt' hborn hsame ⊢
      cases hfreed : u.clientFreed c with
      | true =>
        rw [hfreed, if_pos rfl] at hs hlt'
        rw [if_pos rfl]
        exact transcribed_closed hs hlt' (List.mem_append_left _ ((clientFreed_iff u).mp hfreed)) hnext
      | false =>
        rw [hfreed, if_neg Bool.false_ne_true] at hborn
        rw [if_neg Bool.false_ne_true]
        refine ⟨hborn _, fun _ => ?_, [], hnext, fun _ hsome => ⟨⟨hsome, ?_, ?_⟩, ?_⟩⟩
        · simp [hsame.capacity, hcap', cmdBufSize]
        · simp [hsame.capacity, hcap']
        · rw [World.received]
          simpa [Mem.slice] using Prefixed.begun_nil
        · simp [World.received, Mem.slice]

theorem turns_fresh {w' : World} (h : Turns env w w') : w.fresh ≤ w'.fresh := by
  induction h with
  | refl => exact Nat.le_refl _
  | tail _ hturn ih => exact Nat.le_trans ih hturn.fresh

/-- One more operation. -/
theorem Transcribed.step {t : Transcript} (h : Transcribed c w t) (hs : Steady env w) (op : Op) :
    Transcribed c (transcribe env c (w, t) op).1 (transcribe env c (w, t) op).2 := by
  have hs' := steady_exec hs op
  have hfresh : w.fresh ≤ (exec env w op).fresh := turns_fresh (turns_exec op hs.tracked.liveLookups)
  have hlt : c ∈ w.clientList → c < w.fresh := hs.tracked.ok.client_lt c
  simp only [transcribe]
  by_cases hop : op.receives c w
  · rw [if_pos hop]
    have hmem := receives_listed hop
    rw [exec_receives hop] at hs' hfresh ⊢
    exact h.receive hmem (hlt hmem) hfresh hs'
  rw [if_neg hop]
  by_cases hnew : op = .clientAccept ∧ c = w.fresh
  · obtain ⟨rfl, rfl⟩ := hnew
    obtain rfl := h.unborn (Nat.le_refl _)
    have hreceived : (exec env w .clientAccept).received w.fresh = [] := by
      simp [exec, clientAccept, World.received, Mem.slice]
    refine ⟨fun _ => rfl, fun _ => ?_, [], .nil _, fun _ _ => ⟨⟨?_, ?_, ?_⟩, hreceived.symm⟩⟩
    · simp [exec, clientAccept, cmdBufSize]
    · simp [exec, clientAccept]
    · simp [exec, clientAccept]
    · rw [hreceived]
      exact Prefixed.begun_nil
  · have hsame : SameBuffer c w (exec env w op) := exec_commandBuffer hop fun haccept heq => hnew ⟨haccept, heq⟩
    have hold : c ∈ (exec env w op).clientList → c ∈ w.clientList := fun hmem =>
      (listed_exec env hmem).resolve_right hnew
    obtain ⟨held, hcut, hheld⟩ := h.cut
    refine ⟨fun hborn => h.unborn (Nat.le_trans hfresh hborn), fun hmem => ?_, held, hcut, fun hmem hsome => ?_⟩
    · rw [hsame.capacity, hsame.size]
      exact h.sizes (hold hmem)
    · have hsome' : (w.clients c).ibBuf.isSome = true := by
        rcases hsame.buffer with hnone | hkept
        · simp [hnone] at hsome
        · rwa [← hkept]
      obtain ⟨hlisten, rfl⟩ := hheld (hold hmem) hsome'
      have hreceived := hsame.received hsome
      exact ⟨⟨hsome, hsame.capacity.trans hlisten.capacity, hreceived.symm ▸ hlisten.begun⟩, hreceived.symm⟩

/-- After every run the transcript of a client is that of the bytes read. -/
theorem transcribed_run (env : Env) (c : Ptr) (ops : List Op) : Transcribed c (run env ops) (transcript env c ops).2 := by
  induction ops using List.reverseRecOn with
  | nil => exact transcribed_init c
  | append_singleton ops op ih =>
    have hstep := ih.step (steady_run env ops) op
    rwa [← transcript_world env c ops, ← transcript_append, transcript_world] at hstep

/-! ### Framing -/

/-- What a client has in its command buffer when it is in command mode. -/
theorem listening_of_buffer (env : Env) (c : Ptr) (ops : List Op) (hmem : c ∈ (run env ops).clientList)
    (hbuf : ((run env ops).clients c).ibBuf.isSome = true) :
    Listening c (run env ops) ∧
      commandFormat.Cut (transcript env c ops).2.stream (transcript env c ops).2.commands ((run env ops).received c) := by
  obtain ⟨held, hcut, hheld⟩ := (transcribed_run env c ops).cut
  obtain ⟨hlisten, rfl⟩ := hheld hmem hbuf
  exact ⟨hlisten, hcut⟩

/-- What a call of `process_recv` reads is all that it does before it looks at it. -/
theorem steady_receive (h : Steady env w) (hlisten : Listening c w) : Steady env (w.receive c (arrival env c w)) := by
  obtain ⟨m, hbuf⟩ := Option.isSome_iff_exists.mp hlisten.buffer
  have hmax : cmdBufSize.toNat = 65536 := rfl
  have hasks : (UInt32.ofNat (commandFormat.asks (w.received c))).toNat = commandFormat.asks (w.received c) := by
    have hbegun := hlisten.begun
    unfold Prefixed.Begun at hbegun
    rw [UInt32.toNat_ofNat', Nat.mod_eq_of_lt]
    unfold Prefixed.asks
    rw [commandFormat_header] at hbegun ⊢
    split
    · omega
    · have hsize := hbegun (by omega)
      rw [commandFormat_admits] at hsize
      omega
  have hrecv := (@recvCommandBytes_receive env _ _ _ hbuf (UInt32.ofNat (commandFormat.asks (w.received c)))).1
  rw [hasks] at hrecv
  have hstep := @ClientBlock.recv env c (UInt32.ofNat (commandFormat.asks (w.received c))) (w.emit (.processRecv c true))
  have hreg := registry_recvCommandBytes env c (w.emit (.processRecv c true))
    (UInt32.ofNat (commandFormat.asks (w.received c)))
  rw [hrecv] at hstep hreg
  exact h.after (by rw [show (w.receive c (arrival env c w)).registry = _ from hreg, registry_emit w rfl])
    ((ClientBlock.note (.processRecv c true) w rfl).one.turns.trans hstep.one.turns)

/-- When something has come, a client in command mode is closed exactly for a length that is not accepted. -/
theorem closed_iff_refused (h : Steady env w) (hlisten : Listening c w) (hcommand : InCommand c w)
    (hsome : env.recv w.tick ≠ []) (hend : Steady env (processRecv env c w)) :
    c ∉ (processRecv env c w).clientList ↔ commandFormat.Refused (w.received c ++ arrival env c w) := by
  have hne : arrival env c w ≠ [] := by
    intro hnil
    have hpos := Prefixed.asks_pos hlisten.begun
    rcases List.take_eq_nil_iff.mp hnil with hzero | hnone
    · omega
    · exact hsome hnone
  have hreceive := steady_receive h hlisten
  have hcases := @collect_listening env _ _ hlisten
  rw [processRecv_collect] at hend ⊢
  generalize arrival env c w = got at hcases hne hreceive ⊢
  generalize collect env c w = s at hcases hend ⊢
  have hstays : InCommand c (w.receive c got) := by
    refine ⟨hcommand.listed, ?_⟩
    simpa [World.receive] using hcommand.state
  cases hcases with
  | nothing hnil => exact absurd hnil hne
  | begun _ hmore =>
    refine ⟨fun hout => absurd hcommand.listed hout, fun hrefused => ?_⟩
    exact absurd (hmore hrefused.header).1 hrefused.admits
  | refused _ hrefused =>
    exact ⟨fun _ => hrefused, fun _ => hend.unlisted (freeClient_closeClient ..)⟩
  | whole _ hwhole =>
    refine ⟨fun hout => absurd (hstays.runCommand hreceive _) hout, fun hrefused => ?_⟩
    exact absurd hwhole.admits hrefused.admits

/-- How the commands of a client are cut out of what it sends. -/
structure WellFramed (env : Env) (c : Ptr) (ops : List Op) : Prop where
  /-- The commands that have been carried out are those that the length fields of the stream say. -/
  messages : commandFormat.messages (transcript env c ops).2.stream = (transcript env c ops).2.commands
  /-- The rest of the stream is in the command buffer. -/
  held : c ∈ (run env ops).clientList → ((run env ops).clients c).ibBuf.isSome = true →
    (transcript env c ops).2.stream = (transcript env c ops).2.commands.flatten ++ (run env ops).received c
  /-- The command buffer has room for what it holds, and for what `recv` delivers next. -/
  room : c ∈ (run env ops).clientList →
    ((run env ops).clients c).ibSize ≤ ((run env ops).clients c).ibCapacity ∧
      (((run env ops).clients c).ibBuf.isSome = true →
        ((run env ops).clients c).ibSize.toNat + (arrival env c (run env ops)).length ≤
          ((run env ops).clients c).ibCapacity.toNat)
  /-- A command that `process_recv` calls `client_command` with is the next of the transcript. -/
  call : ∀ op : Op, op.receives c (run env ops) →
    exec env (run env ops) op = (collect env c (run env ops)).finish env c ∧
      (transcript env c (ops ++ [op])).2 = (transcript env c ops).2.extend (collect env c (run env ops))
  /-- When a command is carried out, nothing behind it has been read. -/
  whole : ∀ op : Op, (transcript env c (ops ++ [op])).2.commands ≠ (transcript env c ops).2.commands →
    (transcript env c (ops ++ [op])).2.stream = (transcript env c (ops ++ [op])).2.commands.flatten
  /-- In command mode a client that sends is closed at the first length that is not accepted, and at no other. -/
  closed : ∀ op : Op, op.receives c (run env ops) → ((run env ops).clients c).state = .command →
    env.recv (run env ops).tick ≠ [] →
      (c ∉ (exec env (run env ops) op).clientList ↔
        commandFormat.Refused ((run env ops).received c ++ arrival env c (run env ops)))

/-- However the bytes of a client arrive, its commands are those that its stream says. -/
theorem commands_framed (env : Env) (ops : List Op) (c : Ptr) : WellFramed env c ops := by
  have hrun := transcribed_run env c ops
  have hsteady := steady_run env ops
  have hnext : ∀ op : Op, (transcript env c (ops ++ [op])).2 =
      if op.receives c (run env ops) then (transcript env c ops).2.extend (collect env c (run env ops))
      else (transcript env c ops).2 := by
    intro op
    rw [transcript_append, transcribe, transcript_world]
  refine ⟨?_, fun hmem hbuf => ?_, fun hmem => ?_, fun op hop => ?_, fun op hnew => ?_, fun op hop hstate hsome => ?_⟩
  · obtain ⟨held, hcut, -⟩ := hrun.cut
    exact hcut.messages
  · exact (listening_of_buffer env c ops hmem hbuf).2.stream
  · obtain ⟨hcap, hsize⟩ := hrun.sizes hmem
    refine ⟨hcap ▸ hsize, fun hbuf => ?_⟩
    have hroom := @Listening.room env _ _ (listening_of_buffer env c ops hmem hbuf).1
    rwa [length_received, ← hcap] at hroom
  · rw [exec_receives hop, processRecv_collect, hnext, if_pos hop]
    exact ⟨rfl, rfl⟩
  · rw [hnext] at hnew ⊢
    split
    · rename_i hop
      rw [if_pos hop] at hnew
      cases hbuf : ((run env ops).clients c).ibBuf.isSome with
      | false =>
        have hnone := (collect_noBuffer env (Option.isNone_iff_eq_none.mp (by simpa using hbuf))).2.1
        simp [Transcript.extend, hnone] at hnew
      | true =>
        obtain ⟨hlisten, hcut⟩ := listening_of_buffer env c ops (receives_listed hop) hbuf
        have hcases := @collect_listening env _ _ hlisten
        obtain ⟨-, hreceived⟩ := received_receive _ c (@Listening.room env _ _ hlisten)
        have hbuf' : ∃ b, (((run env ops).receive c (arrival env c (run env ops))).clients c).ibBuf = some b :=
          ⟨_, by simp [World.receive]; rfl⟩
        generalize collect env c (run env ops) = s at hcases hnew ⊢
        generalize arrival env c (run env ops) = got at hcases hreceived hbuf'
        cases hcases with
        | nothing => simp [Transcript.extend] at hnew
        | begun => simp [Transcript.extend] at hnew
        | refused => simp [Transcript.extend] at hnew
        | whole _ hwhole =>
          obtain ⟨b, hb⟩ := hbuf'
          have hbytes := commandBytes_whole hb (hreceived ▸ hwhole)
          simp only [Transcript.extend, hb, Option.getD_some, Option.map_some, Option.toList_some, hbytes, hreceived]
          have hstream := (hcut.message hwhole).stream
          rwa [List.append_nil] at hstream
    · rename_i hop
      rw [if_neg hop] at hnew
      exact absurd rfl hnew
  · have hmem := receives_listed hop
    have hbuf : ((run env ops).clients c).ibBuf.isSome = true :=
      (hsteady.tracked.ok.entries c hmem).buffer.mpr (by simp [hstate])
    have hend := steady_exec hsteady op
    rw [exec_receives hop] at hend ⊢
    exact closed_iff_refused hsteady (listening_of_buffer env c ops hmem hbuf).1 ⟨hmem, hstate⟩ hsome hend

end Transcripts

end Usbmuxd
