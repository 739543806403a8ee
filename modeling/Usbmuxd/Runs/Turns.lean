import Usbmuxd.Runs.Frames

/-!
# Turns

What only a client can bring about: bytes of a connected client that go to the device, a
request for a connection, and the end of command mode when a client begins to listen.
With these, each operation is a sequence of steps.

## The model

* `Turn` — a step, a request, or an upload with the teardown of its connection if it fails; `Talk` — the
  first two, which are all there is for a client that is not connected.

## What is proved

* `Work.keeps_command` — nothing else takes a client out of command mode.
* `turns_exec` — every operation is a sequence of turns.
-/

namespace Usbmuxd

open World Relation

/-- A connection that is established, and has not been freed. -/
structure Usable (w : World) (p : Ptr) : Prop where
  state : (w.conns p).state = .connected
  alive : .freeConn p ∉ w.log

/-- A step, a request of a client, or an upload with the teardown of its connection if it fails. -/
inductive Turn (env : Env) : World → World → Prop where
  | block {w w' : World} (h : Block env w w') : Turn env w w'
  /-- A connection has been made for a client. -/
  | request (c : Ptr) (tag : UInt32) (id : ℕ) (w : World) (h : (w.clients c).state = .command) :
      Turn env w (w.setClient c fun cl => { cl with connectTag := tag, connectDevice := id, state := .connecting1 })
  | listen (c : Ptr) (w : World) (h : (w.clients c).state = .command) :
      Turn env w (w.setClient c fun cl => { cl with state := .listen })
  /-- Bytes read from the client and sent. -/
  | upload (p c : Ptr) (w : World) (hlive : Usable w p) (h : (clientToDevice env p c w).2 = true) :
      Turn env w (clientToDevice env p c w).1
  | failedUpload (p c : Ptr) (w : World) (hlive : Usable w p) (h : (clientToDevice env p c w).2 = false) :
      Turn env w (tearDown env p (clientToDevice env p c w).1)

/-- A sequence of turns. -/
abbrev Turns (env : Env) : World → World → Prop := ReflTransGen (Turn env)

/-- A turn of a client that is not connected. -/
inductive Talk (env : Env) : World → World → Prop where
  | block {w w' : World} (h : Block env w w') : Talk env w w'
  | request (c : Ptr) (tag : UInt32) (id : ℕ) (w : World) (h : (w.clients c).state = .command) :
      Talk env w (w.setClient c fun cl => { cl with connectTag := tag, connectDevice := id, state := .connecting1 })
  | listen (c : Ptr) (w : World) (h : (w.clients c).state = .command) :
      Talk env w (w.setClient c fun cl => { cl with state := .listen })

/-- A sequence of such turns. -/
abbrev Talks (env : Env) : World → World → Prop := ReflTransGen (Talk env)

section Sequences

variable {env : Env} {w w' : World}

theorem Turn.one (h : Turn env w w') : Turns env w w' := .single h

theorem Work.turns (h : Work env w w') : Turns env w w' := ReflTransGen.mono (fun _ _ h => Turn.block h) _ _ h

theorem Traffic.turns (h : Traffic env w w') : Turns env w w' := h.work.turns

theorem Talk.one (h : Talk env w w') : Talks env w w' := .single h

theorem Work.talks (h : Work env w w') : Talks env w w' := ReflTransGen.mono (fun _ _ h => Talk.block h) _ _ h

theorem Traffic.talks (h : Traffic env w w') : Talks env w w' := h.work.talks

theorem Talk.turn (h : Talk env w w') : Turn env w w' := by
  cases h with
  | block h => exact .block h
  | request c tag id _ hstate => exact .request c tag id w hstate
  | listen c _ hstate => exact .listen c w hstate

theorem Talks.turns (h : Talks env w w') : Turns env w w' := ReflTransGen.mono (fun _ _ h => h.turn) _ _ h

/-! ### Command mode -/

theorem ClientBlock.keeps_command (h : ClientBlock env w w') {c : Ptr} (hc : (w.clients c).state = .command) :
    (w'.clients c).state = .command := by
  have hset : ∀ (c' : Ptr) (f : MuxClient → MuxClient),
      ((w.clients c').state = .command → (f (w.clients c')).state = .command) →
      ((w.setClient c' f).clients c).state = .command := by
    intro c' f hf
    by_cases heq : c = c'
    · subst heq
      simpa using hf hc
    · simpa [heq] using hc
  cases h with
  | note e => exact hc
  | accept =>
    by_cases heq : c = w.fresh
    · simp [heq]
    · simpa [heq] using hc
  | send c' tag msg payload => rw [state_eq (registry_sendPkt env c' w tag msg payload)]; exact hc
  | setEvents c' events => rw [state_eq (registry_clientSetEvents c' w events)]; exact hc
  | connecting2 c' _ hs => exact hset c' _ fun h => absurd (hs.symm.trans h) (by decide)
  | command c' _ hs => exact hset c' _ fun _ => rfl
  | dead c' _ hs => exact hset c' _ fun h => by rcases hs with hs | hs <;> exact absurd (hs.symm.trans h) (by decide)
  | plistVersion c' => exact hset c' _ id
  | idle c' => exact hset c' _ id
  | reply c' size =>
    have hafter : (w.clients c').state = .command → ((w.clients c').afterSend size).state = .command := by
      intro h
      unfold MuxClient.afterSend
      split
      · rw [if_neg (by rw [h]; decide)]
        exact h
      · exact h
    simpa using hset c' (·.afterSend size) hafter
  | recv c' len => rw [state_eq (registry_recvCommandBytes env c' w len)]; exact hc
  | done c' => exact hset c' _ id
  | release c' => exact hc

/-- A client in command mode stays there, whatever happens that it does not ask for. -/
theorem Work.keeps_command (h : Work env w w') {c : Ptr} (hc : (w.clients c).state = .command) :
    (w'.clients c).state = .command := by
  induction h with
  | refl => exact hc
  | tail _ hb ih =>
    cases hb with
    | device hb => rwa [hb.frame.clients]
    | traffic hb =>
      cases hb with
      | conn hb => rwa [hb.frame.clients]
      | client hb => exact hb.keeps_command ih

end Sequences

/-! ### Commands -/

section Commands

variable (env : Env) (c : Ptr) (w : World)

theorem traffic_notifyAll (infos : List DeviceInfo) (hstate : (w.clients c).state ≠ .connected) :
    Traffic env w (notifyAll env c infos w) := by
  induction infos generalizing w with
  | nil => exact .refl
  | cons info rest ih =>
    unfold notifyAll
    have h := traffic_notifyDeviceAdd env c w info hstate
    have hstate' := state_eq (registry_notifyDeviceAdd env c w info) c
    dsimp only
    split
    · exact h.trans (ih _ (by rwa [hstate']))
    · exact h

theorem talks_handleListen (hdr : UsbmuxdHeader) (hstate : (w.clients c).state = .command) :
    Talks env w (handleListen env c hdr w) := by
  unfold handleListen
  have h := traffic_sendResult env c w hdr.tag resultOk (by rw [hstate]; decide)
  have hstate' := (state_eq (registry_sendResult env c w hdr.tag resultOk) c).trans hstate
  dsimp only
  split
  · refine (h.talks.trans (Talk.listen c _ hstate').one).trans (traffic_notifyAll env c _ _ ?_).talks
    simp
  · exact h.talks

theorem talks_connectRequest (hdr : UsbmuxdHeader) (id : ℕ) (port : UInt16) (hstate : (w.clients c).state = .command) :
    Talks env w (connectRequest env c hdr id port w) := by
  unfold connectRequest
  have hstate' : ((deviceStartConnect env id port c w).1.clients c).state = .command := by
    rwa [deviceStartConnect_clients]
  refine (traffic_deviceStartConnect env c w id port).talks.trans ?_
  dsimp only
  split
  · exact (traffic_sendResult env c _ _ _ (by rw [hstate']; decide)).talks
  · exact (Talk.request c _ id _ hstate').one

theorem talks_handleConnectCommand (hdr : UsbmuxdHeader) (command : Plist) (hstate : (w.clients c).state = .command) :
    Talks env w (handleConnectCommand env c hdr command w) := by
  have hother : (w.clients c).state ≠ .connected := by rw [hstate]; decide
  unfold handleConnectCommand
  split
  · exact (traffic_sendResult env c w _ _ hother).talks
  · dsimp only
    split
    · exact (traffic_sendResult env c w _ _ hother).talks
    · exact talks_connectRequest env c w hdr _ _ hstate

theorem traffic_handlePairRecord (hdr : UsbmuxdHeader) (command : Plist) (hstate : (w.clients c).state ≠ .connected) :
    Traffic env w (handleReadPairRecordCommand env c hdr command w) ∧
      Traffic env w (handleSavePairRecordCommand env c hdr command w) ∧
      Traffic env w (handleDeletePairRecordCommand env c hdr command w) := by
  have htock : Traffic env w _ := (ConnBlock.tock w).one
  have hsend := fun result => traffic_sendResult env c w hdr.tag result hstate
  have hsend' := fun result => htock.trans (traffic_sendResult env c w.tock hdr.tag result hstate)
  refine ⟨?_, ?_, ?_⟩
  · unfold handleReadPairRecordCommand
    split
    · exact (ConnBlock.fault ..).one
    · unfold sendPairRecord
      dsimp only
      split
      · exact hsend' _
      · split
        · exact hsend' _
        · exact htock.trans (traffic_sendPlistPkt env c w.tock _ _ hstate)
  · unfold handleSavePairRecordCommand
    split
    · split
      · exact hsend' _
      · exact hsend _
    · exact hsend _
  · unfold handleDeletePairRecordCommand
    split
    · exact hsend' _
    · exact hsend _

theorem work_withLocation (hdr : UsbmuxdHeader) (command : Plist) {act : UInt32 → World → World}
    (hact : ∀ location, Work env w (act location w)) (hstate : (w.clients c).state = .command) :
    Work env w (withLocation env c hdr command act w) := by
  unfold withLocation
  split
  · exact (traffic_sendResult env c w _ _ (by rw [hstate]; decide)).work
  · refine (hact _).trans (traffic_sendResult env c _ _ _ ?_).work
    rw [(hact _).keeps_command hstate]
    decide

theorem talks_handleClientPlistCommand (hdr : UsbmuxdHeader) (payload : List UInt8)
    (hstate : (w.clients c).state = .command) : Talks env w (handleClientPlistCommand env c hdr payload w) := by
  have hhandled := plistHandled env c hdr payload w
  refine (ClientBlock.plistVersion c w).one.talks.trans ?_
  replace hstate : ((w.setClient c fun cl => { cl with protoVersion := 1 }).clients c).state = .command := by
    simpa using hstate
  generalize handleClientPlistCommand env c hdr payload w = u at hhandled ⊢
  generalize (w.setClient c fun cl => { cl with protoVersion := 1 }) = w at hstate hhandled ⊢
  have hother : (w.clients c).state ≠ .connected := by rw [hstate]; decide
  have htock : Traffic env w _ := (ConnBlock.tock w).one
  have hnote : ∀ cmd location, Work env w (w.emit (.pending cmd location)) :=
    fun _ _ => (ClientBlock.note _ w rfl).one.work
  cases hhandled with
  | ignored => exact .refl
  | listen => exact talks_handleListen env c w hdr hstate
  | connect command => exact talks_handleConnectCommand env c w hdr command hstate
  | listDevices => exact Traffic.talks (htock.trans (traffic_sendPlistPkt env c w.tock _ _ hother))
  | readBuid => exact Traffic.talks (htock.trans (traffic_sendPlistPkt env c w.tock _ _ hother))
  | readPairRecord command => exact (traffic_handlePairRecord env c w hdr command hother).1.talks
  | savePairRecord command => exact (traffic_handlePairRecord env c w hdr command hother).2.1.talks
  | deletePairRecord command => exact (traffic_handlePairRecord env c w hdr command hother).2.2.talks
  | addDevice command => exact (work_withLocation env c w hdr command (hnote _) hstate).talks
  | removeDevice command => exact (work_withLocation env c w hdr command (hnote _) hstate).talks
  | deviceMonitor command =>
    unfold handleDeviceMonitorCommand
    exact (work_withLocation env c w hdr command
      (fun location => (hnote _ location).trans (work_usbProcess ..)) hstate).talks
  | unknown => exact (traffic_sendResult env c w _ _ hother).talks

theorem talks_clientCommand (buffer : Mem) (hother : (w.clients c).state ≠ .connected) :
    Talks env w (clientCommand env c buffer w) := by
  unfold clientCommand
  have hsend := fun result => traffic_sendResult env c w (UsbmuxdHeader.read buffer).tag result hother
  dsimp only
  split
  · split
    · exact Traffic.talks ((hsend _).trans (traffic_closeClient ..))
    · exact (hsend _).talks
  · rename_i hstate
    replace hstate := not_not.mp hstate
    split_ifs
    · exact (hsend _).talks
    · exact talks_handleClientPlistCommand env c w _ _ hstate
    · exact talks_handleListen env c w _ hstate
    · exact talks_connectRequest env c w _ _ _ hstate
    · exact (hsend _).talks

theorem traffic_processSend : Traffic env w (processSend env c w) := by
  unfold processSend
  dsimp only
  split
  · rename_i hempty
    exact (ClientBlock.idle c w hempty).one
  · split
    · exact (ConnBlock.tock w).one.trans (traffic_closeClient ..)
    · rename_i hsize
      exact (ClientBlock.reply c _ w (Nat.pos_of_ne_zero hsize) (Nat.min_le_right ..)).one

theorem talks_runCommand (buffer : Mem) (hother : (w.clients c).state ≠ .connected) :
    Talks env w (runCommand env c buffer w) := by
  unfold runCommand
  refine (talks_clientCommand env c w buffer hother).trans ?_
  dsimp only
  split
  · exact (ConnBlock.fault ..).one.talks
  · exact (ClientBlock.done ..).one.talks

theorem talks_processRecvBody (didRead : Bool) (hother : (w.clients c).state ≠ .connected) :
    Talks env w (processRecvBody env c didRead w) := by
  unfold processRecvBody
  dsimp only
  split
  · exact (ConnBlock.fault ..).one.talks
  · rename_i buffer _
    have hrecv : Traffic env w _ := (ClientBlock.recv c (readLe32 buffer 0 - (w.clients c).ibSize) w).one
    have hother' := state_eq (registry_recvCommandBytes env c w (readLe32 buffer 0 - (w.clients c).ibSize)) c
    split_ifs
    · exact (traffic_closeClient ..).talks
    · exact (traffic_closeClient ..).talks
    · exact .refl
    · exact Traffic.talks (hrecv.trans (traffic_closeClient ..))
    · exact hrecv.talks
    · exact hrecv.talks.trans (talks_runCommand env c _ _ (by rwa [hother']))
    · exact talks_runCommand env c w _ hother

theorem talks_processRecv (hother : (w.clients c).state ≠ .connected) : Talks env w (processRecv env c w) := by
  unfold processRecv
  have hnote : Traffic env w _ := (ClientBlock.note (.processRecv c (w.clients c).ibBuf.isSome) w rfl).one
  refine hnote.talks.trans ?_
  dsimp only
  replace hother : ((w.emit (.processRecv c (w.clients c).ibBuf.isSome)).clients c).state ≠ .connected := hother
  generalize w.emit (.processRecv c (w.clients c).ibBuf.isSome) = v at hother ⊢
  have hrecv : Traffic env v _ := (ClientBlock.recv c (usbmuxdHeaderSize - (w.clients c).ibSize) v).one
  have hother' := state_eq (registry_recvCommandBytes env c v (usbmuxdHeaderSize - (w.clients c).ibSize)) c
  split_ifs
  · exact Traffic.talks (hrecv.trans (traffic_closeClient ..))
  · exact hrecv.talks
  · exact hrecv.talks.trans (talks_processRecvBody env c _ _ (by rwa [hother']))
  · exact talks_processRecvBody env c v _ hother

end Commands

/-! ### Operations -/

section Operations

variable {env : Env} {w w' : World} {p : Ptr}

/-- A connection found for a connected client is one that can be used. -/
def LiveLookups (w : World) : Prop :=
  ∀ id c p, (w.clients c).state = .connected → getMuxConnection w id c = some p → Usable w p

theorem turns_processClientInput (p c : Ptr) (events : Events) (hlive : Usable w p) :
    Turns env w (processClientInput env p c events w) := by
  unfold processClientInput
  split
  · dsimp only
    split
    · rename_i hsent
      exact (Turn.upload p c w hlive hsent).one.trans (traffic_updateConnection ..).turns
    · rename_i hfailed
      rw [Bool.not_eq_true] at hfailed
      exact (Turn.failedUpload p c w hlive hfailed).one
  · exact (traffic_updateConnection ..).turns

theorem deviceToClient_state (p c q : Ptr) (w : World) :
    ((deviceToClient env p c w).1.conns q).state = (w.conns q).state := by
  unfold deviceToClient
  dsimp only
  split
  · rw [clientWrite_conns]
  · by_cases hq : q = p
    · subst hq
      simp [clientWrite_conns]
    · simp [hq, clientWrite_conns]

theorem sendTcpAck_state {p : Ptr} {w : World} (h : (sendTcpAck env p w).2 = true) (q : Ptr) :
    ((sendTcpAck env p w).1.conns q).state = (w.conns q).state := by
  unfold sendTcpAck at h ⊢
  dsimp only at h ⊢
  split at h
  · rename_i hsent
    rw [if_pos hsent, updateConnection_state, sendTcp_state]
  · cases h

theorem Usable.deviceToClient (h : Usable w p) (env : Env) (c : Ptr) : Usable (deviceToClient env p c w).1 p := by
  refine ⟨deviceToClient_state p c p w ▸ h.state, fun hfree => h.alive ?_⟩
  unfold Usbmuxd.deviceToClient clientWrite at hfree
  dsimp only at hfree
  split_ifs at hfree <;> simpa using hfree

theorem Usable.sendTcpAck (h : Usable w p) (hsent : (sendTcpAck env p w).2 = true) :
    Usable (sendTcpAck env p w).1 p := by
  refine ⟨sendTcpAck_state hsent p ▸ h.state, fun hfree => h.alive ?_⟩
  unfold Usbmuxd.sendTcpAck at hsent hfree
  obtain ⟨es, hlog, hkind⟩ := sendTcp_log env p w thAck []
  dsimp only at hsent hfree
  split at hsent
  · rename_i hok
    rw [if_pos hok] at hfree
    have hold := updateConnection_freeConn _ _ hfree
    rw [hlog, List.mem_append] at hold
    refine hold.resolve_right fun hnew => ?_
    cases hkind _ hnew
  · cases hsent

theorem turns_deviceClientProcess (id : ℕ) (c : Ptr) (events : Events) (hc : (w.clients c).state = .connected)
    (hlive : LiveLookups w) :
    Turns env w (deviceClientProcess env id c events w) := by
  unfold deviceClientProcess
  split
  · exact .refl
  · rename_i p hp
    have husable := hlive id c p hc hp
    split
    · have hwrite := (traffic_deviceToClient env p c w).turns
      have hwritten := husable.deviceToClient env c
      dsimp only
      split
      · split
        · have hack := (traffic_sendTcpAck env p _ (by rw [hwritten.state]; decide)).turns
          split
          · rename_i hsent
            exact (hwrite.trans hack).trans (turns_processClientInput p c events (hwritten.sendTcpAck hsent))
          · exact (hwrite.trans hack).trans (ConnBlock.fault ..).one.turns
        · exact hwrite.trans (turns_processClientInput p c events hwritten)
      · exact hwrite.trans (traffic_tearDown ..).turns
    · exact turns_processClientInput p c events husable

theorem turns_clientReady (c : Ptr) (events : Events) (hlive : LiveLookups w) :
    Turns env w (clientReady env c events w) := by
  unfold clientReady
  split_ifs with _ hstate
  · exact turns_deviceClientProcess _ c events hstate hlive
  · exact (talks_processRecv env c w hstate).turns
  · exact (traffic_processSend ..).turns
  · exact .refl

/-- Every operation is a sequence of turns. -/
theorem turns_exec (op : Op) (hlive : LiveLookups w) : Turns env w (exec env w op) := by
  cases op with
  | clientAccept => exact (ClientBlock.accept w).one.turns
  | clientReady c events =>
    simp only [exec]
    split
    · exact turns_clientReady c events hlive
    · exact .refl
  | usb a => exact (work_usbAction env w a).turns
  | acceptSocket u => exact (work_deviceAcceptSocket env w u).turns
  | versionInput d vh =>
    simp only [exec]
    split
    · exact (work_deviceVersionInput env d w vh).turns
    · exact .refl
  | tcpInput d th payload =>
    simp only [exec]
    split
    · rename_i h
      have hwork : Work env w (dispatch env d (.tcp th payload) w) := work_dispatch env d w h.2
      exact hwork.turns
    · exact .refl
  | transfer d t =>
    simp only [exec]
    split
    · exact (work_deviceProcessSocket env d w t).turns
    · exact .refl
  | checkTimeouts => exact (traffic_deviceCheckTimeouts env w).turns
  | setVisible id => exact (work_deviceSetVisible env w id).turns
  | announce info => exact (traffic_announceDevice env w info).turns
  | pairingEvent info event validate => exact (traffic_clientDevicePairingEvent env w info event validate).turns
  | preflightFinished id => exact (work_devicePreflightFinished env w id).turns

theorem Turn.fresh (h : Turn env w w') : w.fresh ≤ w'.fresh := by
  have hupload : ∀ p c, w.fresh ≤ (clientToDevice env p c w).1.fresh := fun p c =>
    (congrArg Registry.fresh (registry_clientToDevice env p c w)).ge
  cases h with
  | block h => exact h.fresh
  | request c tag id => exact le_rfl
  | listen c => exact le_rfl
  | upload p c => exact hupload p c
  | failedUpload p c => exact (hupload p c).trans (traffic_tearDown env p _).work.fresh

theorem Turn.log (h : Turn env w w') : w.Grows (fun _ => true) w' := by
  cases h with
  | block h => exact h.log
  | request c tag id => exact .none rfl
  | listen c => exact .none rfl
  | upload p c => exact (ConnFrame.clientToDevice env p c w).log.mono fun _ _ => rfl
  | failedUpload p c =>
    exact ((ConnFrame.clientToDevice env p c w).log.mono fun _ _ => rfl).trans (traffic_tearDown env p _).work.log

/-- The log only grows. -/
theorem Turns.log (h : Turns env w w') : w.Grows (fun _ => true) w' := by
  induction h with
  | refl => exact .refl _ _
  | tail _ hturn ih => exact ih.trans hturn.log

end Operations

end Usbmuxd
