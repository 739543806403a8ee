import Usbmuxd.Streams.Confined
import Usbmuxd.Streams.FlowControl

/-!
# A connection at rest

The daemon keeps several copies of what it has computed for a connection: how much its client
may send, what its client's socket is waited for, what the device has been told and what has
been acknowledged. This module shows that a function that works for a connection leaves all of them
in step, or frees the connection.

## The model

* `Told` — the last window the device was told is the current one, or a large one.
* `Ready` — what `update_connection` needs; `Settled` — what it brings about.
* `Peer` — the fields that only a segment from the device changes.
* `Rests` — the connection keeps these fields, and is settled if it is established.

## What is proved

* `Ready.update` — `update_connection` settles a connection.
* `rests_deviceClientProcess`, `rests_connectedInput`, `rests_connectingInput`, … — each function
  leaves its connection at rest or frees it.
-/

namespace Usbmuxd

open World Relation

/-! ### The copies -/

/-- The device has been told the current window, or one of more than the largest packet. -/
def Told (p : Ptr) (w : World) : Prop :=
  (w.history p).told = ((w.conns p).txWin >>> 8).toUInt16.toNat ∨
    (maxMuxPacketSize >>> 8).toNat ≤ (w.history p).told

/-- A client that waits for its reply to go through has it in its reply buffer, and waits for nothing else. -/
def Replying (c : Ptr) (w : World) : Prop :=
  (w.clients c).state = .connecting2 → (w.mail c).fits = true →
    0 < (w.clients c).obSize ∧ (w.clients c).events = ⟨false, true⟩

/-- What `update_connection` needs of an established connection. -/
structure Ready (p c : Ptr) (w : World) : Prop where
  client : (w.conns p).client = some c
  acked : (w.conns p).txAcked = (w.conns p).txAck
  told : Told p w
  reply : Replying c w

/-- An established connection between operations. -/
structure Settled (p c : Ptr) (w : World) : Prop extends Ready p c w where
  noted : (w.conns p).ackPending = false
  sendable : (w.conns p).sendable = (w.conns p).window
  events : (w.conns p).events = ⟨0 < (w.conns p).window, (w.conns p).ibSize ≠ 0⟩
  tunnel : (w.clients c).state = .connected → (w.clients c).events = (w.conns p).events
  waiting : (w.clients c).state = .connecting2 → (w.clients c).devents = (w.conns p).events

/-- The fields of a connection that only a segment from the device changes. -/
structure Peer where
  dev : Ptr
  sport : UInt16
  dport : UInt16
  rxAck : UInt32
  rxWin : UInt32
  maxPayload : UInt32
  obCapacity : UInt32

/-- The peer of a connection. -/
def MuxConnection.peer (conn : MuxConnection) : Peer where
  dev := conn.dev
  sport := conn.sport
  dport := conn.dport
  rxAck := conn.rxAck
  rxWin := conn.rxWin
  maxPayload := conn.maxPayload
  obCapacity := conn.obCapacity

/-- What a connection depends on of its client. -/
structure Face where
  state : ClientState
  obSize : UInt32
  events : Events
  devents : Events

/-- The face of a client. -/
def MuxClient.face (client : MuxClient) : Face := ⟨client.state, client.obSize, client.events, client.devents⟩

/-- A connection keeps its peer, and is settled if it is established. -/
structure Rests (p c : Ptr) (peer : Peer) (w : World) : Prop where
  peer : (w.conns p).peer = peer
  settled : (w.conns p).state = .connected → Settled p c w

/-- A connection rests or has been freed. -/
def RestsOrGone (p c : Ptr) (peer : Peer) (w : World) : Prop := Rests p c peer w ∨ .freeConn p ∈ w.log

section Copies

variable {env : Env} {w w' : World} {d p c : Ptr} {peer : Peer}

theorem conn_state_eq (h : w'.registry = w.registry) (p : Ptr) : (w'.conns p).state = (w.conns p).state :=
  congrArg ConnEntry.state (congrFun (congrArg Registry.conns h) p)

/-- What counts for a connection and its client stays as it is. -/
theorem Settled.same (h : Settled p c w) (hconn : w'.conns p = w.conns p)
    (hface : (w'.clients c).face = (w.clients c).face) (hhist : w'.history p = w.history p)
    (hmail : w'.mail c = w.mail c) : Settled p c w' := by
  have hstate : (w'.clients c).state = (w.clients c).state := congrArg Face.state hface
  have hsize : (w'.clients c).obSize = (w.clients c).obSize := congrArg Face.obSize hface
  have hevents : (w'.clients c).events = (w.clients c).events := congrArg Face.events hface
  have hdevents : (w'.clients c).devents = (w.clients c).devents := congrArg Face.devents hface
  refine ⟨⟨?_, ?_, ?_, ?_⟩, ?_, ?_, ?_, ?_, ?_⟩
  · rw [hconn]
    exact h.client
  · rw [hconn]
    exact h.acked
  · rw [Told, hconn, hhist]
    exact h.told
  · rw [Replying, hstate, hsize, hevents, hmail]
    exact h.reply
  · rw [hconn]
    exact h.noted
  · rw [hconn]
    exact h.sendable
  · rw [hconn]
    exact h.events
  · rw [hstate, hevents, hconn]
    exact h.tunnel
  · rw [hstate, hdevents, hconn]
    exact h.waiting

theorem Rests.emit (h : Rests p c peer w) {e : Event} (hconn : e.conn? ≠ some p) (hmail : e.mail? ≠ some c) :
    Rests p c peer (w.emit e) :=
  ⟨h.peer, fun hstate => (h.settled hstate).same rfl rfl ((history_emit ..).trans (History.note_other hconn _))
    ((mail_emit ..).trans (if_neg hmail))⟩

/-- `update_connection` for a connection that has a client. -/
theorem updateConnection_eq (h : (w.conns p).client = some c) :
    updateConnection p w =
      clientSetEvents c ⟨0 < (w.conns p).window, (w.conns p).ibSize ≠ 0⟩ (w.setConn p (·.refresh)) := by
  unfold updateConnection
  simp only [setConn_conns, Function.update_self, MuxConnection.refresh_client, h]
  rfl

/-- `update_connection` settles a connection. -/
theorem Ready.update (h : Ready p c w) : Settled p c (updateConnection p w) := by
  rw [updateConnection_eq h.client]
  generalize hev : (⟨0 < (w.conns p).window, (w.conns p).ibSize ≠ 0⟩ : Events) = ev
  have hconn : (clientSetEvents c ev (w.setConn p (·.refresh))).conns p = (w.conns p).refresh := by
    rw [clientSetEvents_conns, setConn_conns, Function.update_self]
  have hlog : (clientSetEvents c ev (w.setConn p (·.refresh))).log = w.log := clientSetEvents_log ..
  have hstate : ((clientSetEvents c ev (w.setConn p (·.refresh))).clients c).state = (w.clients c).state :=
    state_eq (registry_clientSetEvents c (w.setConn p (·.refresh)) ev) c
  have hevents : (w.conns p).refresh.events = ev := hev
  refine ⟨⟨?_, ?_, ?_, ?_⟩, ?_, ?_, ?_, ?_, ?_⟩
  · rw [hconn]
    exact h.client
  · rw [hconn]
    exact h.acked
  · rw [Told, hconn, history_same hlog]
    exact h.told
  · intro hs hfits
    rw [hstate] at hs
    rw [mail_same hlog] at hfits
    unfold clientSetEvents
    simp [hs, h.reply hs hfits]
  · rw [hconn]
    simp [MuxConnection.refresh, h.acked]
  · rw [hconn]
    rfl
  · rw [hconn]
    rfl
  · intro hs
    rw [hstate] at hs
    rw [hconn, hevents]
    unfold clientSetEvents
    simp [hs]
  · intro hs
    rw [hstate] at hs
    rw [hconn, hevents]
    unfold clientSetEvents
    simp [hs]

theorem updateConnection_peer (p : Ptr) (w : World) : ((updateConnection p w).conns p).peer = (w.conns p).peer := by
  rw [updateConnection_conns, Function.update_self]
  rfl

theorem Ready.rests (h : Ready p c w) (hpeer : (w.conns p).peer = peer) : Rests p c peer (updateConnection p w) :=
  ⟨(updateConnection_peer p w).trans hpeer, fun _ => h.update⟩

/-! ### Segments -/

/-- A segment that has gone out has told the device the window, and has acknowledged what there is. -/
theorem sendTcp_told {flags : UInt8} {data : List UInt8} (h : (sendTcp env p flags data w).2 = true) :
    ((sendTcp env p flags data w).1.conns p).txAcked = ((sendTcp env p flags data w).1.conns p).txAck ∧
      Told p (sendTcp env p flags data w).1 := by
  have hwin : ((sendTcp env p flags data w).1.conns p).txWin = (w.conns p).txWin :=
    sendTcp_field (f := MuxConnection.txWin) env p w (fun _ _ => rfl) p flags data
  refine ⟨?_, .inl ?_⟩
  · unfold sendTcp at h ⊢
    dsimp only at h ⊢
    split at h
    · rename_i hok
      rw [if_pos hok]
      simp [sendPacket_conns]
    · cases h
  · rw [sendTcp_history, hwin]
    rfl

/-- A segment goes out for a connection whose client is where it should be. -/
theorem Ready.send {flags : UInt8} {data : List UInt8} (hclient : (w.conns p).client = some c)
    (hreply : Replying c w) (h : (sendTcp env p flags data w).2 = true) : Ready p c (sendTcp env p flags data w).1 := by
  obtain ⟨hacked, htold⟩ := sendTcp_told h
  refine ⟨?_, hacked, htold, ?_⟩
  · exact (sendTcp_field (f := MuxConnection.client) env p w (fun _ _ => rfl) p flags data).trans hclient
  · rw [Replying, sendTcp_clients, mail_sendTcp]
    exact hreply

theorem sendTcp_peer (env : Env) (p : Ptr) (flags : UInt8) (data : List UInt8) (w : World) :
    ((sendTcp env p flags data w).1.conns p).peer = (w.conns p).peer :=
  sendTcp_field (f := MuxConnection.peer) env p w (fun _ _ => rfl) p flags data

/-- A connection that is torn down is gone. -/
theorem connectionTeardown_gone (env : Env) (n : ℕ) (h : (w.conns p).state ≠ .dead) :
    .freeConn p ∈ (connectionTeardown env (n + 1) p w).log := by
  rw [connectionTeardown, if_neg h]
  exact List.mem_append_right _ List.mem_cons_self

theorem tearDown_gone (env : Env) (h : (w.conns p).state ≠ .dead) : .freeConn p ∈ (tearDown env p w).log :=
  connectionTeardown_gone env 3 h

/-- The connection of a client that is closed while it waits is gone. -/
theorem closeClient_gone (env : Env) (hwaits : (w.clients c).state = .connecting1 ∨ (w.clients c).state = .connecting2)
    (hfound : w.registry.lookup (w.clients c).connectDevice c = some p) (h : (w.conns p).state ≠ .dead) :
    .freeConn p ∈ (closeClient env c w).log := by
  rw [closeClient, callDepth, clientClose_found 3 hwaits hfound]
  exact List.mem_append_left _ (connectionTeardown_gone env 2 h)

/-- A segment without data, for an established connection. -/
theorem settled_sendTcpAck (env : Env) (hclient : (w.conns p).client = some c) (hstate : (w.conns p).state ≠ .dead)
    (hreply : Replying c w) :
    if (sendTcpAck env p w).2 then Settled p c (sendTcpAck env p w).1 ∧
        ((sendTcpAck env p w).1.conns p).peer = (w.conns p).peer
      else .freeConn p ∈ (sendTcpAck env p w).1.log := by
  unfold sendTcpAck
  dsimp only
  by_cases hsent : (sendTcp env p thAck [] w).2 = true
  · rw [if_pos hsent, if_pos rfl]
    exact ⟨(Ready.send hclient hreply hsent).update, (updateConnection_peer ..).trans (sendTcp_peer ..)⟩
  · rw [if_neg hsent, if_neg (by simp)]
    exact tearDown_gone env (by rwa [sendTcp_state])

end Copies

/-! ### Readiness of a client -/

section Traffic

variable {env : Env} {w w' : World} {d p c : Ptr}

/-- An acknowledgement leaves its connection at rest, or frees it. -/
theorem rests_sendTcpAck (env : Env) (hclient : (w.conns p).client = some c) (hstate : (w.conns p).state ≠ .dead)
    (hreply : Replying c w) : RestsOrGone p c (w.conns p).peer (sendTcpAck env p w).1 := by
  have hack := settled_sendTcpAck env hclient hstate hreply
  split at hack
  · exact .inl ⟨hack.2, fun _ => hack.1⟩
  · exact .inr hack

/-- Bytes of the client are sent. -/
theorem ready_clientToDevice (hclient : (w.conns p).client = some c) (hother : (w.clients c).state = .connected)
    (h : (clientToDevice env p c w).2 = true) : Ready p c (clientToDevice env p c w).1 ∧
      ((clientToDevice env p c w).1.conns p).peer = (w.conns p).peer := by
  by_cases hbs : (clientRead env p c (w.conns p).sendable w).2 = []
  · rw [clientToDevice_none p c hbs] at h
    cases h
  · rw [clientToDevice_some p c hbs] at h ⊢
    dsimp only at h ⊢
    generalize (clientRead env p c (w.conns p).sendable w).2 = bs at h ⊢
    have hconn : (uploading p c bs w).conns p = (w.conns p).fill bs :=
      congrArg Channel.conn (uploading_channel p c bs w)
    have hreply : Replying c (uploading p c bs w) := fun hs => absurd (hother.symm.trans hs) (by decide)
    split at h
    · rename_i hsent
      rw [if_pos hsent]
      have hready : Ready p c _ := .send (by rw [hconn]; exact hclient) hreply hsent
      have hpeer := sendTcp_peer env p thAck bs (uploading p c bs w)
      rw [hconn] at hpeer
      generalize sendTcp env p thAck bs (uploading p c bs w) = r at hready hpeer ⊢
      dsimp only
      refine ⟨⟨?_, ?_, ?_, hready.reply⟩, ?_⟩
      · simpa using hready.client
      · simpa using hready.acked
      · simpa [Told] using hready.told
      · rw [setConn_conns, Function.update_self]
        exact hpeer
    · rename_i hlost
      exact absurd h hlost

/-- The second half of `device_client_process`. -/
theorem rests_processClientInput (env : Env) (h : Ready p c w) (hstate : (w.conns p).state ≠ .dead)
    (hother : (w.clients c).state = .connected) (events : Events) :
    RestsOrGone p c (w.conns p).peer (processClientInput env p c events w) := by
  unfold processClientInput
  split
  · dsimp only
    by_cases hup : (clientToDevice env p c w).2 = true
    · rw [if_pos hup]
      obtain ⟨hready, hpeer⟩ := ready_clientToDevice h.client hother hup
      exact .inl (hready.rests hpeer)
    · rw [if_neg hup]
      refine .inr (tearDown_gone env ?_)
      rwa [conn_state_eq (registry_clientToDevice env p c w)]
  · exact .inl (h.rests rfl)

/-- A window that is not small is told as a large one. -/
theorem large_window {win : UInt32} (h : ¬ win < maxMuxPacketSize) (hle : win.toNat ≤ connInbufSize.toNat) :
    (maxMuxPacketSize >>> 8).toNat ≤ (win >>> 8).toUInt16.toNat := by
  have hge : 0x7FFC ≤ win.toNat := by
    rw [UInt32.lt_iff_toNat_lt] at h
    exact Nat.le_of_not_lt h
  rw [toNat_windowField hle]
  show 127 ≤ win.toNat / 256
  omega

/-- The client takes bytes of the in-buffer. -/
theorem deviceToClient_eq (h : (deviceToClient env p c w).2 = true) : ∃ bs size,
    (deviceToClient env p c w).1 = (w.tock.emit (.wrote p c bs)).setConn p (·.deliver size) := by
  unfold deviceToClient at h ⊢
  dsimp only at h ⊢
  split at h
  · cases h
  · rename_i hsome
    rw [if_neg hsome, clientWrite_some env p c w hsome]
    exact ⟨_, _, rfl⟩

theorem deviceToClient_keeps (h : (deviceToClient env p c w).2 = true) :
    ((deviceToClient env p c w).1.conns p).client = (w.conns p).client ∧
      ((deviceToClient env p c w).1.conns p).txAcked = (w.conns p).txAcked ∧
      ((deviceToClient env p c w).1.conns p).txAck = (w.conns p).txAck ∧
      ((deviceToClient env p c w).1.conns p).peer = (w.conns p).peer ∧
      (deviceToClient env p c w).1.clients = w.clients ∧
      ((deviceToClient env p c w).1.history p).told = (w.history p).told := by
  obtain ⟨bs, size, heq⟩ := deviceToClient_eq h
  have hhist : (w.tock.emit (.wrote p c bs)).history p = (w.history p).write bs :=
    (history_emit ..).trans (History.note_self rfl _)
  rw [heq, setConn_conns, Function.update_self, history_setConn, hhist]
  exact ⟨rfl, rfl, rfl, rfl, rfl, rfl⟩

/-- The window had room for a packet before the client took bytes, so the device need not be told. -/
theorem Ready.deliver (h : Ready p c w) (hok : (deviceToClient env p c w).2 = true)
    (hother : (w.clients c).state = .connected) (hlarge : ¬ (w.conns p).txWin < maxMuxPacketSize)
    (hle : (w.conns p).txWin.toNat ≤ connInbufSize.toNat) : Ready p c (deviceToClient env p c w).1 := by
  obtain ⟨hclient, hacked, hack, -, hclients, htold⟩ := deviceToClient_keeps hok
  refine ⟨hclient.trans h.client, by rw [hacked, hack, h.acked], .inr ?_, fun hs => ?_⟩
  · rw [htold]
    rcases h.told with hnow | hbig
    · rw [hnow]
      exact large_window hlarge hle
    · exact hbig
  · rw [hclients, hother] at hs
    cases hs

/-- `device_client_process` leaves the connection it finds at rest, or frees it. -/
theorem rests_deviceClientProcess {id : ℕ} (hfound : w.registry.lookup id c = some p) (h : Ready p c w)
    (hstate : (w.conns p).state ≠ .dead) (hother : (w.clients c).state = .connected)
    (hle : (w.conns p).txWin.toNat ≤ connInbufSize.toNat) (events : Events) :
    RestsOrGone p c (w.conns p).peer (deviceClientProcess env id c events w) := by
  have hget : getMuxConnection w id c = some p := hfound
  unfold deviceClientProcess
  simp only [hget]
  split
  · by_cases hdown : (deviceToClient env p c w).2 = true
    · rw [if_pos hdown]
      obtain ⟨hclient, -, -, hpeer, hclients, -⟩ := deviceToClient_keeps hdown
      have hstate' : ((deviceToClient env p c w).1.conns p).state ≠ .dead :=
        (deviceToClient_state p c p w).trans_ne hstate
      have hother' : ((deviceToClient env p c w).1.clients c).state = .connected := by rw [hclients]; exact hother
      split
      · have hack := settled_sendTcpAck env (hclient.trans h.client) hstate'
          fun hs => absurd (hother'.symm.trans hs) (by decide)
        by_cases hsent : (sendTcpAck env p (deviceToClient env p c w).1).2 = true
        · rw [if_pos hsent] at hack ⊢
          obtain ⟨hsettled, hpeer'⟩ := hack
          have hrests := rests_processClientInput env hsettled.toReady
            ((conn_state_eq (registry_sendTcpAck hsent) p).trans_ne hstate')
            ((state_eq (registry_sendTcpAck hsent) c).trans hother') events
          rwa [hpeer', hpeer] at hrests
        · rw [if_neg hsent] at hack ⊢
          exact .inr (List.mem_append_left _ hack)
      · rename_i hlarge
        have hrests := rests_processClientInput env (h.deliver hdown hother hlarge hle) hstate' hother' events
        rwa [hpeer] at hrests
    · rw [if_neg hdown]
      exact .inr (tearDown_gone env ((deviceToClient_state p c p w).trans_ne hstate))
  · exact rests_processClientInput env h hstate hother events

/-! ### Segments from the device -/

/-- `update_connection` leaves the reply as it is. -/
theorem Replying.update (h : Replying c w) (hclient : (w.conns p).client = some c) :
    Replying c (updateConnection p w) := by
  rw [updateConnection_eq hclient]
  generalize (⟨0 < (w.conns p).window, (w.conns p).ibSize ≠ 0⟩ : Events) = ev
  intro hs hfits
  rw [state_eq (registry_clientSetEvents c (w.setConn p (·.refresh)) ev) c] at hs
  rw [mail_same (clientSetEvents_log ..)] at hfits
  have hstate : (w.clients c).state = .connecting2 := hs
  unfold clientSetEvents
  simpa [hstate] using h hs hfits

/-- A payload is appended, and acknowledged unless it is empty. -/
theorem rests_connectedInput (env : Env) (h : Ready p c w) (hstate : (w.conns p).state = .connected) (th : TcpHdr)
    (payload : List UInt8) : RestsOrGone p c (w.conns p).peer (connectedInput env p th payload w) := by
  have halive : (w.conns p).state ≠ .dead := by rw [hstate]; decide
  unfold connectedInput
  split
  · split
    · exact .inr (tearDown_gone env (by simp))
    · exact .inr (tearDown_gone env halive)
  · dsimp only
    by_cases hroom : (w.conns p).ibCapacity < (w.conns p).ibSize + UInt32.ofNat payload.length
    · have hfull : connectionDeviceInput env p payload w = (tearDown env p (w.emit (.overflow p payload)), false) := by
        unfold connectionDeviceInput
        simp [hroom]
      rw [hfull]
      exact .inr (List.mem_append_left _ (tearDown_gone env halive))
    · have htaken : connectionDeviceInput env p payload w =
          (updateConnection p ((w.emit (.accepted p payload)).setConn p (·.append payload)), true) := by
        unfold connectionDeviceInput
        simp [hroom]
      rw [htaken, if_pos rfl]
      dsimp only
      generalize hv : (w.emit (.accepted p payload)).setConn p (·.append payload) = v
      have hconn : v.conns p = (w.conns p).append payload := by
        rw [← hv, setConn_conns, Function.update_self]
        rfl
      have hclient : (v.conns p).client = some c := by rw [hconn]; exact h.client
      have hmail : v.mail c = w.mail c := by
        rw [← hv]
        exact mail_emit_none w rfl c
      have hreply : Replying c v := by
        rw [Replying, hmail, ← hv]
        exact h.reply
      have hpeer : ((updateConnection p v).conns p).peer = (w.conns p).peer := by
        rw [updateConnection_peer, hconn]
        rfl
      have hpending : ((updateConnection p v).conns p).ackPending = decide ((v.conns p).txAcked ≠ (v.conns p).txAck) := by
        rw [updateConnection_conns, Function.update_self]
        rfl
      split
      · have hrests := rests_sendTcpAck env (by rw [updateConnection_conns, Function.update_self]; exact hclient)
          (by rw [updateConnection_state, hconn]; exact halive) (hreply.update hclient)
        rwa [hpeer] at hrests
      · rename_i hquiet
        -- only an empty payload leaves nothing to acknowledge
        have hempty : (w.conns p).txAck = (w.conns p).txAck + UInt32.ofNat payload.length := by
          rw [hpending, hconn] at hquiet
          have hsame := not_not.mp (of_decide_eq_false (Bool.not_eq_true _ |>.mp hquiet))
          rw [MuxConnection.append_txAcked, MuxConnection.append_txAck, h.acked] at hsame
          exact hsame
        have hnone : UInt32.ofNat payload.length = 0 :=
          (UInt32.sub_eq_iff_eq_add.mpr (hempty.trans (UInt32.add_comm ..))).symm.trans (UInt32.sub_self _)
        have hhist : (v.history p).told = (w.history p).told := by
          rw [← hv, history_setConn, history_emit, History.note_self rfl]
          rfl
        refine .inl ⟨hpeer, fun _ => Ready.update ⟨hclient, ?_, ?_, hreply⟩⟩
        · rw [hconn, MuxConnection.append_txAcked, MuxConnection.append_txAck, h.acked]
          exact hempty
        · rw [Told, hhist, hconn, MuxConnection.append_txWin, hnone, UInt32.sub_zero]
          exact h.told

/-! ### The answer to a connect request -/

/-- A client that has been told that its connection is established has the reply in its buffer. -/
theorem replying_notify (hmailed : Mailed c w) (hnew : .newClient c ∈ w.log)
    (h : (clientNotifyConnect env c resultOk w).2 = true) : Replying c (clientNotifyConnect env c resultOk w).1 := by
  have hturns := (traffic_clientNotifyConnect env c w resultOk).turns
  obtain ⟨-, hframed⟩ := hmailed.turns hturns (hturns.log.mem hnew)
  intro hs hfits
  have hused := (hframed hfits).used
  clear hframed hturns hfits
  unfold clientNotifyConnect at h hused hs ⊢
  split at h
  · cases h
  · rename_i hone
    rw [if_neg hone] at hused hs ⊢
    dsimp only at h hused hs ⊢
    by_cases hsent : (sendResult env c (w.clients c).connectTag resultOk w).2 = true
    · rw [if_pos hsent, if_pos rfl] at hused hs ⊢
      obtain ⟨msg, payload, hlog⟩ := sendResult_log hsent
      refine ⟨?_, by simp⟩
      have hmail : ((sendResult env c (w.clients c).connectTag resultOk w).1).mail c =
          (w.mail c).queue (w.clients c).connectTag msg payload := by
        simp [World.mail, hlog, Mail.note, Event.mail?, Mail.next]
      dsimp only at hused
      rw [UInt32.lt_iff_toNat_lt, hused, mail_same (setClient_log ..), hmail, Mail.queue_used]
      exact Nat.lt_add_left _ (Nat.lt_add_right _ (by decide))
    · rw [if_neg hsent] at h
      exact absurd h hsent

/-- The answer to a connect request leaves its connection at rest, or frees it. -/
theorem rests_connectingInput (env : Env) (hclient : (w.conns p).client = some c)
    (hstate : (w.conns p).state = .connecting) (hmailed : Mailed c w) (hnew : .newClient c ∈ w.log) (th : TcpHdr) :
    RestsOrGone p c (w.conns p).peer (connectingInput env p th w) := by
  have halive : (w.conns p).state ≠ .dead := by rw [hstate]; decide
  unfold connectingInput
  split
  · split
    · exact .inr (tearDown_gone env (by simp))
    · exact .inr (tearDown_gone env halive)
  · dsimp only
    have hfold : (w.emit (.synAck p)).setConn p (·.handshake) = answered p w := rfl
    have hconn : (answered p w).conns p = (w.conns p).handshake := congrArg Channel.conn (answered_channel p w)
    rw [hfold]
    by_cases hsent : (sendTcp env p thAck [] (answered p w)).2 = true
    · rw [if_pos hsent]
      obtain ⟨hacked, htold⟩ := sendTcp_told hsent
      have hpeer := sendTcp_peer env p thAck [] (answered p w)
      have hturns := (ConnBlock.established p w hstate hsent).one.turns
      have hclient' := sendTcp_field (f := MuxConnection.client) env p (answered p w) (fun _ _ => rfl) p thAck []
      rw [hconn] at hpeer hclient'
      generalize sendTcp env p thAck [] (answered p w) = r at hacked htold hpeer hturns hclient' ⊢
      generalize hu : r.1.setConn p (·.become .connected) = u at hturns ⊢
      have hbecome : u.conns p = (r.1.conns p).become .connected := by rw [← hu, setConn_conns, Function.update_self]
      have hmailed' := hmailed.turns hturns
      have hnew' := hturns.log.mem hnew
      have huclient : (u.conns p).client = some c := by rw [hbecome]; exact hclient'.trans hclient
      simp only [huclient]
      have hnotify : Confined (fun _ => False) (· = c) u (clientNotifyConnect env c resultOk u).1 :=
        .clientNotifyConnect (C := (· = c)) rfl env resultOk u
      have hsame := hnotify.conns p id
      split
      · rename_i hok
        have hready : Ready p c (clientNotifyConnect env c resultOk u).1 := by
          refine ⟨by rw [hsame]; exact huclient, ?_, ?_, replying_notify hmailed' hnew' hok⟩
          · rw [hsame, hbecome]
            exact hacked
          · rw [Told, hsame, hnotify.history id, hbecome, ← hu]
            exact htold
        exact .inl (hready.rests (by rw [hsame, hbecome]; exact hpeer))
      · refine .inr (List.mem_append_left _ (tearDown_gone env ?_))
        rw [setConn_conns, Function.update_self, hsame, hbecome]
        simp
    · rw [if_neg hsent]
      refine .inr (tearDown_gone env ?_)
      rw [sendTcp_state, hconn]
      exact halive

/-! ### The reply to a connect request -/

/-- A client that waits, with the connection that a lookup for it finds. -/
structure Waits (p c : Ptr) (w : World) : Prop where
  state : (w.clients c).state = .connecting1 ∨ (w.clients c).state = .connecting2
  found : w.registry.lookup (w.clients c).connectDevice c = some p
  alive : (w.conns p).state ≠ .dead

/-- Bytes of the reply buffer are sent, and with the last of them the client becomes connected. -/
theorem Settled.reply_sent (h : Settled p c w) (hother : (w.clients c).state ≠ .connected) {size : ℕ}
    (hle : size ≤ (w.clients c).obSize.toNat) (bs : List UInt8) :
    Settled p c ((w.tock.emit (.sent c bs)).setClient c (·.afterSend size)) := by
  have hclient : ((w.tock.emit (.sent c bs)).setClient c (·.afterSend size)).clients c =
      (w.clients c).afterSend size := by rw [setClient_clients, Function.update_self]; rfl
  have hfits : (((w.tock.emit (.sent c bs)).setClient c (·.afterSend size)).mail c).fits = (w.mail c).fits := by
    simp [World.mail, Mail.note, Event.mail?, Mail.next]
  have hconn : ((w.tock.emit (.sent c bs)).setClient c (·.afterSend size)).conns p = w.conns p := rfl
  have hhist : ((w.tock.emit (.sent c bs)).setClient c (·.afterSend size)).history p = w.history p :=
    (history_emit ..).trans (History.note_other (by simp [Event.conn?]) _)
  refine ⟨⟨h.client, h.acked, by rw [Told, hhist, hconn]; exact h.told, ?_⟩, h.noted, h.sendable, h.events, ?_, ?_⟩
  · rw [Replying, hclient, hfits]
    unfold MuxClient.afterSend
    split
    · split
      · intro hs
        cases hs
      · rename_i hnot
        exact fun hs => absurd hs hnot
    · rename_i hpart
      intro hs hfit
      refine ⟨?_, (h.reply hs hfit).2⟩
      have hof : (UInt32.ofNat size).toNat = size := by
        rw [UInt32.toNat_ofNat', Nat.mod_eq_of_lt (hle.trans_lt (w.clients c).obSize.toNat_lt)]
      show 0 < (w.clients c).obSize - UInt32.ofNat size
      rw [UInt32.lt_iff_toNat_lt, UInt32.toNat_sub_of_le _ _ (UInt32.le_iff_toNat_le.mpr (by omega)), hof]
      show 0 < _
      omega
  · rw [hclient, hconn]
    unfold MuxClient.afterSend
    split
    · split
      · rename_i htwo
        exact fun _ => h.waiting htwo
      · exact fun hs => absurd hs hother
    · exact fun hs => absurd hs hother
  · rw [hclient, hconn]
    unfold MuxClient.afterSend
    split
    · split
      · intro hs
        cases hs
      · exact fun hs => h.waiting hs
    · exact fun hs => h.waiting hs

/-- `process_send` leaves the connection of a waiting client at rest, or frees it. -/
theorem rests_processSend (env : Env) (hw : Waits p c w) (h : (w.conns p).state = .connected → Settled p c w) :
    RestsOrGone p c (w.conns p).peer (processSend env c w) := by
  have hother : (w.clients c).state ≠ .connected := by rcases hw.state with hs | hs <;> rw [hs] <;> decide
  unfold processSend
  dsimp only
  split
  · rename_i hempty
    refine .inl ⟨rfl, fun hstate => ?_⟩
    have hs := h hstate
    refine ⟨⟨hs.client, hs.acked, hs.told, fun htwo hfits => ?_⟩, hs.noted, hs.sendable, hs.events, fun htwo => ?_,
      fun htwo => ?_⟩
    · have hpos := (hs.reply (by simpa using htwo) hfits).1
      rw [hempty] at hpos
      exact absurd hpos (by decide)
    · exact absurd (by simpa using htwo) hother
    · simpa using hs.waiting (by simpa using htwo)
  · split
    · exact .inr (closeClient_gone env (w := w.tock) hw.state hw.found hw.alive)
    · exact .inl ⟨rfl, fun hstate => (h hstate).reply_sent hother (Nat.min_le_right ..) _⟩

/-- `process_recv` leaves the connection of a client that waits for an answer as it is, or frees it. -/
theorem rests_processRecv_connecting (env : Env) (hw : Waits p c w) (hstate : (w.conns p).state = .connecting) :
    RestsOrGone p c (w.conns p).peer (processRecv env c w) := by
  have hrest : ∀ v : World, v.conns p = w.conns p → RestsOrGone p c (w.conns p).peer v := by
    intro v hv
    refine .inl ⟨by rw [hv], fun hs => ?_⟩
    rw [hv, hstate] at hs
    cases hs
  have hsame : ∀ v : World, v.registry = w.registry → v.conns p = w.conns p → Waits p c v := by
    intro v hreg hv
    have hid := congrArg ClientEntry.connectDevice (congrFun (congrArg Registry.clients hreg) c)
    refine ⟨by rw [state_eq hreg c]; exact hw.state, ?_, by rw [hv]; exact hw.alive⟩
    rw [hreg, show (v.clients c).connectDevice = (w.clients c).connectDevice from hid]
    exact hw.found
  have hconns : ∀ {v v' : World}, Confined (fun _ => False) (Eq c) v v' → v'.conns p = v.conns p := fun h => h.conns p id
  refine processRecv_induct (Q := fun v => v.conns p = w.conns p ∧ v.registry = w.registry) ⟨rfl, registry_emit w rfl⟩
    ?_ (fun v hv => hrest v hv.1) (fun v hv => hrest _ hv.1) ?_ ?_
  · rintro v len ⟨hv, hreg⟩
    exact ⟨(hconns (.recvCommandBytes rfl env len v)).trans hv, (registry_recvCommandBytes ..).trans hreg⟩
  · rintro v ⟨hv, hreg⟩
    have hwaits := hsame v hreg hv
    exact .inr (closeClient_gone env hwaits.state hwaits.found hwaits.alive)
  · rintro v buffer ⟨hv, hreg⟩
    have hwaits := hsame v hreg hv
    have hcommand : RestsOrGone p c (w.conns p).peer (clientCommand env c buffer v) := by
      have hno : (v.clients c).state ≠ .command := by rcases hwaits.state with hs | hs <;> rw [hs] <;> decide
      have hsent := registry_sendResult env c v (UsbmuxdHeader.read buffer).tag resultBadcommand
      have hkept : (sendResult env c (UsbmuxdHeader.read buffer).tag resultBadcommand v).1.conns p = w.conns p :=
        (hconns (.sendResult rfl env _ _ v)).trans hv
      have hwaits' := hsame _ (hsent.trans hreg) hkept
      unfold clientCommand
      dsimp only
      rw [if_pos hno]
      split
      · exact .inr (closeClient_gone env hwaits'.state hwaits'.found hwaits'.alive)
      · exact hrest _ hkept
    unfold runCommand
    dsimp only
    split
    · rcases hcommand with hr | hgone
      · exact .inl ⟨hr.peer, fun hs => (hr.settled hs).same rfl rfl ((history_emit ..).trans
          (History.note_other (by simp [Event.conn?]) _)) (mail_emit_none _ rfl c)⟩
      · exact .inr (List.mem_append_left _ hgone)
    · rcases hcommand with hr | hgone
      · refine .inl ⟨hr.peer, fun hs => (hr.settled hs).same rfl ?_ rfl rfl⟩
        simp [MuxClient.face]
      · exact .inr hgone

/-- A client that waits for its reply to go through has no command buffer: it is closed, or nothing happens. -/
theorem rests_processRecv_replying (env : Env) (hw : Waits p c w) (hnone : (w.clients c).ibBuf = none)
    (h : (w.conns p).state = .connected → Settled p c w) :
    RestsOrGone p c (w.conns p).peer (processRecv env c w) := by
  have hrecv : ∀ (v : World) (len : UInt32), (v.clients c).ibBuf = none → recvCommandBytes env c len v = (v.tock, 0) := by
    intro v len hv
    simp [recvCommandBytes, hv]
  have hnote : (w.emit (.processRecv c (w.clients c).ibBuf.isSome)).registry = w.registry := registry_emit w rfl
  unfold processRecv
  dsimp only
  split
  · rw [hrecv (w.emit (.processRecv c (w.clients c).ibBuf.isSome)) _ hnone, if_pos rfl]
    refine .inr (closeClient_gone env hw.state ?_ hw.alive)
    rw [registry_tock, hnote]
    exact hw.found
  · unfold processRecvBody
    simp only [emit_clients, hnone]
    refine .inl ⟨rfl, fun hs => (h hs).same rfl rfl ?_ ?_⟩
    · exact ((history_emit ..).trans (History.note_other (by simp [Event.conn?]) _)).trans
        ((history_emit ..).trans (History.note_other (by simp [Event.conn?]) _))
    · exact (mail_emit_none _ rfl c).trans (mail_emit_none w rfl c)

end Traffic

end Usbmuxd
