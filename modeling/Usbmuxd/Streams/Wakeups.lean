import Usbmuxd.Streams.AtRest

/-!
# Windows and event masks between operations

What a connection at rest promises to the two sides of it. The device has last been told a window
that is the current one or a large one, so it never waits for room that there is. The client's
socket is waited for exactly when there is something to do, whichever of the three masks is the
one that `select` is given.

## The model

* `Greeted` — an established connection has told its device an edge.
* `MuxClient.Awake` — a reply that is left to send has its socket waited for.

## What is proved

* `window_told` — the window field of the last segment, for every established connection.
* `masks_awake` — the masks of every established connection and of every client.
-/

namespace Usbmuxd

open World Relation

/-! ### The last segment -/

/-- An established connection has told its device an edge. -/
def Greeted (ch : Channel) : Prop := ch.conn.state = .connected → 0 < ch.history.edge

namespace Greeted

variable {reliable : Prop} {ch ch' : Channel}

/-- The edge stays, and the connection was established before. -/
theorem same (h : Greeted ch) {conn : MuxConnection} {hist : History}
    (hstate : conn.state = .connected → ch.conn.state = .connected) (hedge : ch.history.edge ≤ hist.edge) :
    Greeted ⟨conn, hist⟩ := fun hs => (h (hstate hs)).trans_le hedge

theorem segment (h : Greeted ch) {conn : MuxConnection}
    (hstate : conn.state = .connected → ch.conn.state = .connected) (th : TcpHdr) (data : List UInt8) (ok : Bool) :
    Greeted ⟨conn, ch.history.segment th data ok⟩ := by
  refine h.same hstate ?_
  rw [History.segment_edge]
  split
  · exact Nat.le_max_left ..
  · exact le_rfl

theorem step (h : Greeted ch) (hs : Channel.Step reliable ch ch') : Greeted ch' := by
  cases hs with
  | quiet conn hflow => exact h.same (fun hs => (congrArg Flow.state hflow).symm.trans hs) le_rfl
  | start d c sport dport =>
    intro hs
    cases hs
  | become s hbecomes =>
    rintro (rfl : s = .connected)
    generalize ch.conn.state = before at hbecomes
    cases hbecomes
  | established conn hstate hflow =>
    -- the handshake alone is one byte of the device's stream
    intro _
    show 0 < max _ (ch.history.handshakes + 1 + ch.history.accepted.length + _)
    omega
  | unanswered conn hstate hflow =>
    have hconn : conn.state = ch.conn.state := congrArg Flow.state hflow
    exact h.same (fun hs => hconn.symm.trans hs) le_rfl
  | segment flags conn ok _ hflow => exact h.segment (fun hs => (congrArg Flow.state hflow).symm.trans hs) _ _ _
  | accept payload hstate => exact h.same (fun _ => hstate) le_rfl
  | overflow payload hstate => exact h.same id le_rfl
  | deliver size => exact h.same id le_rfl
  | flush size => exact h.same id le_rfl
  | refresh => exact h.same id le_rfl
  | free => exact h.same id le_rfl

theorem steps (h : Greeted ch) (hs : Channel.Steps reliable ch ch') : Greeted ch' := by
  induction hs with
  | refl => exact h
  | tail _ hstep ih => exact ih.step hstep

theorem turns (h : Greeted ch) (ht : Channel.Turns reliable ch ch') : Greeted ch' := by
  induction ht with
  | refl => exact h
  | @tail ch _ _ hturn ih =>
    have hread : ∀ bs, Greeted ⟨ch.conn, ch.history.receive bs⟩ := fun bs => ih.same id le_rfl
    cases hturn with
    | step hs => exact ih.step hs
    | upload bs conn hstate => exact (hread bs).segment (fun _ => hstate) _ _ _
    | failedUpload bs conn hstate _ _ hsteps => exact ((hread bs).segment (fun _ => hstate) _ _ _).steps hsteps

end Greeted

theorem greeted_run (env : Env) (ops : List Op) (p : Ptr) : Greeted ((run env ops).channel p) := by
  have hstart : Greeted (World.init.channel p) := fun hs => by cases hs
  exact hstart.turns (channel_run env ops p)

/-- A connection that has told an edge has sent a segment, and `told` is the window of the last one. -/
theorem last_segment {p : Ptr} {log : List Event} (h : 0 < (log.foldl (History.note p) {}).edge) :
    ∃ before th data ok after, log = before ++ .segment p th data ok :: after ∧
      (∀ th' data' ok', .segment p th' data' ok' ∉ after) ∧
      (log.foldl (History.note p) {}).told = th.win.toNat := by
  induction log using List.reverseRecOn with
  | nil => cases h
  | append_singleton log e ih =>
    rw [List.foldl_append, List.foldl_cons, List.foldl_nil] at h ⊢
    -- an entry that changes neither number and is no segment
    have hskip : ∀ hist : History, hist = (log.foldl (History.note p) {}).note p e →
        hist.edge = (log.foldl (History.note p) {}).edge → hist.told = (log.foldl (History.note p) {}).told →
        (∀ th' data' ok', .segment p th' data' ok' ≠ e) →
        ∃ before th data ok after, log ++ [e] = before ++ .segment p th data ok :: after ∧
          (∀ th' data' ok', .segment p th' data' ok' ∉ after) ∧ hist.told = th.win.toNat := by
      intro hist heq hedge htold hno
      rw [← heq, hedge] at h
      obtain ⟨before, th, data, ok, after, hlog, hlast, hwin⟩ := ih h
      refine ⟨before, th, data, ok, after ++ [e], by simp [hlog], fun th' data' ok' hmem => ?_, htold.trans hwin⟩
      rcases List.mem_append.mp hmem with hmem | hmem
      · exact hlast th' data' ok' hmem
      · exact hno th' data' ok' (List.mem_singleton.mp hmem)
    by_cases he : e.conn? = some p
    · cases e with
      | segment q th data ok =>
        obtain rfl : q = p := Option.some.inj he
        refine ⟨log, th, data, ok, [], rfl, fun _ _ _ => List.not_mem_nil, ?_⟩
        rw [History.note_self rfl]
        rfl
      | start q =>
        rw [History.note_self he] at h
        cases h
      | _ => exact hskip _ rfl (by rw [History.note_self he]; rfl) (by rw [History.note_self he]; rfl) (by simp)
    · refine hskip _ rfl (by rw [History.note_other he]) (by rw [History.note_other he]) fun th' data' ok' heq => he ?_
      rw [← heq]
      rfl

/-! ### Replies -/

/-- A reply that is left to send has its socket waited for, unless the client has been handed to its connection. -/
def MuxClient.Awake (client : MuxClient) : Prop :=
  client.state ≠ .connected → 0 < client.obSize → client.events.pollout = true

section Replies

variable {env : Env} {w w' : World}

/-- One client changes, and is awake. -/
theorem awake_update (h : ∀ c, (w.clients c).Awake) {clients : Ptr → MuxClient} {c : Ptr} {client : MuxClient}
    (hclients : clients = Function.update w.clients c client) (hclient : client.Awake) (c' : Ptr) :
    (clients c').Awake := by
  subst hclients
  by_cases hc : c' = c
  · subst hc
    rwa [Function.update_self]
  · rw [Function.update_of_ne hc]
    exact h c'

theorem awake_setClient (h : ∀ c, (w.clients c).Awake) {c : Ptr} {f : MuxClient → MuxClient}
    (hf : (f (w.clients c)).Awake) (c' : Ptr) : ((w.setClient c f).clients c').Awake :=
  awake_update h (setClient_clients ..) hf c'

theorem awake_clientBlock (h : ∀ c, (w.clients c).Awake) (hb : ClientBlock env w w') (c : Ptr) :
    (w'.clients c).Awake := by
  cases hb with
  | note e => exact h c
  | accept => exact awake_update h (registerClient_clients w) (fun _ hpos => by cases hpos) c
  | send c' tag msg payload =>
    rcases sendPkt_cases env c' tag msg payload w with ⟨-, hclients, -⟩ | ⟨-, hclients, -⟩
    · exact awake_update h hclients (fun _ _ => rfl) c
    · rw [hclients]
      exact h c
  | setEvents c' events =>
    unfold clientSetEvents
    split
    · rename_i hstate
      exact awake_setClient h (fun hs => absurd hstate hs) c
    · rename_i hstate
      exact awake_setClient h (fun hs hpos => h c' hs hpos) c
    · exact h c
  | connecting2 c' => exact awake_setClient h (fun _ _ => rfl) c
  | command c' _ hstate => exact awake_setClient h (fun _ hpos => h c' (by rw [hstate]; decide) hpos) c
  | dead c' _ hstate =>
    refine awake_setClient h (fun _ hpos => h c' ?_ hpos) c
    rcases hstate with hstate | hstate <;> rw [hstate] <;> decide
  | plistVersion c' => exact awake_setClient h (fun hs hpos => h c' hs hpos) c
  | idle c' _ hempty =>
    refine awake_setClient h (fun _ hpos => ?_) c
    rw [show (w.clients c').obSize = 0 from hempty] at hpos
    cases hpos
  | reply c' size _ hpos hle =>
    have hsize : 0 < (w.clients c').obSize := UInt32.lt_iff_toNat_lt.mpr (hpos.trans_le hle)
    have hafter : ((w.clients c').afterSend size).Awake := by
      unfold MuxClient.afterSend
      split
      · split
        · intro hs
          exact absurd rfl hs
        · intro _ hnone
          cases hnone
      · exact fun hs _ => h c' hs hsize
    have hsent : ∀ c, ((w.tock.emit (.sent c' (((w.clients c').obBuf.getD default).slice 0 size))).clients c).Awake := h
    exact awake_setClient hsent hafter c
  | recv c' len =>
    have htock : ∀ c, (w.tock.clients c).Awake := h
    unfold recvCommandBytes
    split
    · exact h c
    · dsimp only
      exact awake_setClient htock (fun hs hpos => h c' hs hpos) c
  | done c' => exact awake_setClient h (fun hs hpos => h c' hs hpos) c
  | release c' => exact h c

theorem awake_work (h : ∀ c, (w.clients c).Awake) (hw : Work env w w') : ∀ c, (w'.clients c).Awake := by
  induction hw with
  | refl => exact h
  | tail _ hb ih =>
    cases hb with
    | device hb => rwa [hb.frame.clients]
    | traffic hb =>
      cases hb with
      | conn hb => rwa [hb.frame.clients]
      | client hb => exact awake_clientBlock ih hb

theorem awake_turns (h : ∀ c, (w.clients c).Awake) (ht : Turns env w w') : ∀ c, (w'.clients c).Awake := by
  induction ht with
  | refl => exact h
  | @tail v _ _ hturn ih =>
    have hupload : ∀ p c' c, ((clientToDevice env p c' v).1.clients c).Awake := fun p c' c => by
      rw [(ConnFrame.clientToDevice env p c' v).clients]
      exact ih c
    cases hturn with
    | block hb => exact awake_work ih (.single hb)
    | request c tag id _ hstate =>
      exact awake_setClient ih fun _ hpos => ih c (by rw [hstate]; decide) hpos
    | listen c _ hstate => exact awake_setClient ih fun _ hpos => ih c (by rw [hstate]; decide) hpos
    | upload p c => exact hupload p c
    | failedUpload p c => exact awake_work (hupload p c) (traffic_tearDown env p _).work

end Replies

/-- After every run a reply that is left to send has its socket waited for. -/
theorem awake_run (env : Env) (ops : List Op) (c : Ptr) : ((run env ops).clients c).Awake :=
  awake_turns (w := .init) (fun _ _ hpos => by cases hpos) (turns_run env [] ops) c

/-! ### Runs -/

/-- An established connection on a list, with its client. -/
theorem settled_run (env : Env) (ops : List Op) {d p : Ptr} (hd : d ∈ (run env ops).deviceList)
    (hp : p ∈ (run env ops).connections d) (hstate : ((run env ops).conns p).state = .connected) :
    ∃ c, (run env ops).registry.Link d p c ∧ Settled p c (run env ops) := by
  have hcalm := calm_run env ops
  obtain ⟨c, hl⟩ := hcalm.steady.tracked.ok.link_of_mem hd hp
  exact ⟨c, hl, (hcalm.rest d p c hl).settled hstate⟩

/-- Between operations the last segment of an established connection has told its device the
current window, or a window that has room for the largest packet; and if the in-buffer is empty it is such
a window. -/
theorem window_told (env : Env) (ops : List Op) :
    let w := run env ops
    ∀ d ∈ w.deviceList, ∀ p ∈ w.connections d, (w.conns p).state = .connected →
      ∃ before th data ok after, w.log = before ++ .segment p th data ok :: after ∧
        (∀ th' data' ok', .segment p th' data' ok' ∉ after) ∧
        (th.win.toNat = ((w.conns p).txWin >>> 8).toNat ∨ (maxMuxPacketSize >>> 8).toNat ≤ th.win.toNat) ∧
        ((w.conns p).ibSize = 0 → (maxMuxPacketSize >>> 8).toNat ≤ th.win.toNat) := by
  intro w d hd p hp hstate
  obtain ⟨-, hwindows, -⟩ := flow_control env ops p
  obtain ⟨hwindow, hfield⟩ := hwindows d hd hp
  obtain ⟨c, -, hsettled⟩ := settled_run env ops hd hp hstate
  obtain ⟨before, th, data, ok, after, hlog, hlast, hwin⟩ := last_segment (greeted_run env ops p hstate)
  have htold : th.win.toNat = ((w.conns p).txWin >>> 8).toUInt16.toNat ∨
      (maxMuxPacketSize >>> 8).toNat ≤ th.win.toNat := hwin ▸ hsettled.told
  refine ⟨before, th, data, ok, after, hlog, hlast, htold.imp_left fun hnow => ?_, fun hempty => ?_⟩
  · rw [hnow, hfield, UInt32.toNat_shiftRight]
    exact (Nat.shiftRight_eq_div_pow _ 8).symm
  · rcases htold with hnow | hlarge
    · -- an empty in-buffer leaves the whole window
      rw [show ((run env ops).conns p).ibSize = 0 from hempty] at hwindow
      have hall : (w.conns p).txWin.toNat = 262144 := hwindow
      rw [hnow, hfield, hall]
      decide
    · exact hlarge

/-- The connection of the example has told its device a large window. -/
theorem window_told_connect :
    ∃ before th data ok after, (run .asking connectOps).log = before ++ .segment 3 th data ok :: after ∧
      (maxMuxPacketSize >>> 8).toNat ≤ th.win.toNat := by
  obtain ⟨before, th, data, ok, after, hlog, -, -, hlarge⟩ :=
    window_told .asking connectOps 1 (by decide +kernel) 3 (by decide +kernel) (by decide +kernel)
  exact ⟨before, th, data, ok, after, hlog, hlarge (by decide +kernel)⟩

/-- Between operations an established connection waits for its client exactly when the client may
send or there is something for it, through the mask its client has at that point; and every client
that is not connected is waited for while a reply is left to send. -/
theorem masks_awake (env : Env) (ops : List Op) :
    let w := run env ops
    (∀ d ∈ w.deviceList, ∀ p ∈ w.connections d, (w.conns p).state = .connected →
      (w.conns p).events = ⟨0 < (w.conns p).sendable, 0 < (w.conns p).ibSize⟩ ∧
        ∃ c, (w.conns p).client = some c ∧
          ((w.clients c).state = .connected ∧ (w.clients c).events = (w.conns p).events ∨
            (w.clients c).state = .connecting2 ∧ (w.clients c).devents = (w.conns p).events ∧
              ((w.mail c).fits = true → (w.clients c).events = ⟨false, true⟩ ∧ 0 < (w.clients c).obSize))) ∧
      ∀ c, (w.clients c).state ≠ .connected → 0 < (w.clients c).obSize → (w.clients c).events.pollout = true := by
  intro w
  refine ⟨fun d hd p hp hstate => ?_, fun c => awake_run env ops c⟩
  obtain ⟨c, hl, hsettled⟩ := settled_run env ops hd hp hstate
  refine ⟨?_, c, hsettled.client, ?_⟩
  · rw [hsettled.events, hsettled.sendable]
    congr 1
    simp only [UInt32.lt_iff_toNat_lt, ne_eq, ← UInt32.toNat_inj, decide_eq_decide]
    exact Nat.pos_iff_ne_zero.symm
  · have hmatch := ((steady_run env ops).tracked.ok.link_client hl).2.2
    rcases hmatch.connected_iff.mp hstate with htwo | hconnected
    · refine .inr ⟨htwo, hsettled.waiting htwo, fun hfits => ?_⟩
      obtain ⟨hpos, hevents⟩ := hsettled.reply htwo hfits
      exact ⟨hevents, hpos⟩
    · exact .inl ⟨hconnected, hsettled.tunnel hconnected⟩

/-- The connection of the example waits for its reply to go through. -/
theorem masks_awake_connect : ((run .asking connectOps).clients 2).events = ⟨false, true⟩ ∧
    ((run .asking connectOps).clients 2).devents = ((run .asking connectOps).conns 3).events := by
  obtain ⟨-, c, hclient, hcases⟩ :=
    (masks_awake .asking connectOps).1 1 (by decide +kernel) 3 (by decide +kernel) (by decide +kernel)
  obtain rfl : c = 2 := Option.some.inj (hclient.symm.trans (by decide +kernel))
  rcases hcases with ⟨hstate, -⟩ | ⟨-, hdevents, hreply⟩
  · exact absurd hstate (by decide +kernel)
  · exact ⟨(hreply (by decide +kernel)).1, hdevents⟩

end Usbmuxd
