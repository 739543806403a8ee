import Usbmuxd.Streams.Replies
import Usbmuxd.Streams.Transcripts
import Usbmuxd.Threads.Notices

/-!
# Every command is answered once

The commands of a client are answered in the order in which they come, each with its own tag, and
nothing else is answered. The only reply that may still be missing is the one to a `Connect` whose
connection has not been established yet; a client that sends another command meanwhile is closed.

## The model

* `isAnswered` — whether a command in command mode is answered. A property list that cannot be read
  or has no message type is ignored, and at a `ReadPairRecord` without an identifier the daemon
  fails.
* `tags` — the tags of some commands.

## What is proved

* `owing_clientCommand` — a command is answered, put off or ignored.
* `replies_requested` — in every run each reply is to a command of its own, whatever fails.
* `answered_in_order` — with memory to be had, a client that is on the list has the replies to its
  commands, in their order.
-/

namespace Usbmuxd

open World

/-! ### Commands -/

/-- Whether a command with a property list is answered. -/
def isPlistAnswered (env : Env) (payload : List UInt8) : Bool :=
  match env.plistFromXml payload with
  | none => false
  | some command =>
    match command.getStringVal "MessageType" with
    | none => false
    | some message => message ≠ cstr "ReadPairRecord" || (command.getStringVal "PairRecordID").isSome

/-- Whether a command in command mode is answered. -/
def isAnswered (env : Env) (bs : List UInt8) : Bool :=
  let hdr := UsbmuxdHeader.ofBytes bs
  if hdr.version ≠ 0 ∧ hdr.version ≠ 1 then true
  else if hdr.message = MsgType.plist.code then isPlistAnswered env (bs.drop 16)
  else true

/-- The tags of commands. -/
def tags (commands : List (List UInt8)) : List UInt32 := commands.map fun bs => (UsbmuxdHeader.ofBytes bs).tag

section Commands

variable {env : Env} {w : World} {c : Ptr} {asked due : List UInt32} {tag : UInt32}

/-! ### One reply -/

/-- A command is not answered. -/
theorem Owing.ignore (hw : Owing env c asked due w) (tag : UInt32) : Owing env c (asked ++ [tag]) due w :=
  ⟨hw.within.ask tag, hw.even⟩

/-- A client that can be told something has a reply buffer. -/
theorem Owing.buffered (hw : Owing env c asked due w) (hrel : env.Reliable) (hopen : w.Open c)
    (hstate : (w.clients c).state ≠ .connected) : (w.clients c).obBuf ≠ none := fun hnone =>
  ((hw.even hrel hopen).1 hnone).elim hstate hopen.alive

/-- A command is answered. -/
theorem Owing.reply {r : World × Bool} (hw : Owing env c asked due w) (hsent : Sent c tag w r)
    (hwaiting : (w.clients c).state ≠ .connecting1) (hstate : (w.clients c).state ≠ .connected)
    (hreliable : env.Reliable → (w.clients c).obBuf ≠ none → r.2 = true) :
    Owing env c (asked ++ [tag]) (due ++ [tag]) r.1 := by
  cases hsent with
  | failed h =>
    refine ⟨((hw.still (h c)).ignore tag).within, fun hrel hopen => ?_⟩
    cases hreliable hrel (hw.buffered hrel ((h c).open hopen) hstate)
  | @queued v msg payload h hbuf =>
    have hv := hw.still (h c)
    have hwaiting' : (v.clients c).state ≠ .connecting1 := (h c).state ▸ hwaiting
    have hexchange : ∀ l, (v.emit (.queued c tag msg payload)).exchange c l = ⟨l, v.replies c ++ [tag], none⟩ := by
      intro l
      rw [@exchange_none (v.emit (.queued c tag msg payload)) c hwaiting']
      exact congrArg (fun replies => (⟨l, replies, none⟩ : Exchange UInt32)) (replies_queued ..)
    refine ⟨?_, fun hrel hopen => ⟨fun hnone => absurd hnone hbuf, ?_⟩⟩
    · rw [hexchange]
      exact Exchange.Within.answer (exchange_none hwaiting' asked ▸ hv.within) tag
    · rw [hexchange]
      refine Exchange.Even.answer (exchange_none hwaiting' due ▸ (hv.even hrel ⟨?_, hopen.alive, ?_⟩).2) tag
      · simpa using hopen.born
      · exact fun hfreed => hopen.held (by simp [hfreed])

/-- A command in command mode is answered with a result. -/
theorem Owed.sendResult (hw : Owed env c asked due True w) (tag result : UInt32) :
    Owed env c (asked ++ [tag]) (due ++ [tag]) True (sendResult env c tag result w).1 := by
  have hstate := hw.settled trivial
  refine ⟨hw.reply (sent_sendResult ..) (ne_of_eq_of_ne hstate (by decide)) (ne_of_eq_of_ne hstate (by decide)) fun hrel hbuf =>
    sendResult_reliable hrel hbuf tag result, fun _ => ?_⟩
  exact (state_eq (registry_sendResult ..) c).trans hstate

/-- A command in command mode is answered with a property list. -/
theorem Owed.sendPlistPkt (hw : Owed env c asked due True w) (tag : UInt32) (plist : Plist) :
    Owing env c (asked ++ [tag]) (due ++ [tag]) (sendPlistPkt env c tag plist w).1 := by
  have hstate := hw.settled trivial
  exact hw.reply (sent_sendPlistPkt ..) (ne_of_eq_of_ne hstate (by decide)) (ne_of_eq_of_ne hstate (by decide)) fun hrel hbuf =>
    sendPlistPkt_reliable hrel hbuf tag plist

/-! ### The handlers -/

theorem Owed.startListen (hw : Owed env c asked due True w) : Owing env c asked due (startListen env c w) := by
  have hstate := hw.settled trivial
  have hlisten : ((w.setClient c fun cl => { cl with state := .listen }).clients c).state = .listen := by simp
  have hexchange : ∀ l, (w.setClient c fun cl => { cl with state := .listen }).exchange c l = w.exchange c l := by
    intro l
    rw [@exchange_none w c (ne_of_eq_of_ne hstate (by decide)), exchange_none (ne_of_eq_of_ne hlisten (by decide))]
    rfl
  have hset : Owing env c asked due (w.setClient c fun cl => { cl with state := .listen }) := by
    refine ⟨hexchange asked ▸ hw.within, fun hrel hopen => ?_⟩
    have hopen' : w.Open c := ⟨hopen.born, ne_of_eq_of_ne hstate (by decide), hopen.held⟩
    have hbuf := hw.buffered hrel hopen' (ne_of_eq_of_ne hstate (by decide))
    exact ⟨fun hnone => absurd (by simpa using hnone) hbuf, hexchange due ▸ (hw.even hrel hopen').2⟩
  exact hset.still (.notifyAll ..)

theorem Owed.handleListen (hw : Owed env c asked due True w) (hdr : UsbmuxdHeader) :
    Owing env c (asked ++ [hdr.tag]) (due ++ [hdr.tag]) (handleListen env c hdr w) := by
  have hsent := hw.sendResult hdr.tag resultOk
  unfold Usbmuxd.handleListen
  dsimp only
  split
  · exact hsent.startListen
  · exact hsent.toOwing

/-- The connection is being established, and the reply is put off. -/
theorem Owed.request (hw : Owed env c asked due True w) (tag : UInt32) (id : ℕ) :
    Owing env c (asked ++ [tag]) (due ++ [tag])
      (w.setClient c fun cl => { cl with connectTag := tag, connectDevice := id, state := .connecting1 }) := by
  have hstate := hw.settled trivial
  have hbefore := @exchange_none w c (ne_of_eq_of_ne hstate (by decide))
  have hafter : ∀ l, (w.setClient c fun cl =>
      { cl with connectTag := tag, connectDevice := id, state := .connecting1 }).exchange c l =
      ⟨l, w.replies c, some tag⟩ := by
    intro l
    rw [exchange_some (by simp)]
    simp [World.replies]
  refine ⟨hafter _ ▸ Exchange.Within.defer (hbefore asked ▸ hw.within) tag, fun hrel hopen => ?_⟩
  have hopen' : w.Open c := ⟨hopen.born, ne_of_eq_of_ne hstate (by decide), hopen.held⟩
  have hbuf := hw.buffered hrel hopen' (ne_of_eq_of_ne hstate (by decide))
  exact ⟨fun hnone => absurd (by simpa using hnone) hbuf,
    hafter _ ▸ Exchange.Even.defer (hbefore due ▸ (hw.even hrel hopen').2) tag⟩

theorem Owed.connectRequest (hw : Owed env c asked due True w) (hdr : UsbmuxdHeader) (id : ℕ) (port : UInt16) :
    Owing env c (asked ++ [hdr.tag]) (due ++ [hdr.tag]) (connectRequest env c hdr id port w) := by
  have hstarted := hw.still (.conn c (.deviceStartConnect env c w id port))
  unfold Usbmuxd.connectRequest
  dsimp only
  split
  · exact (hstarted.sendResult ..).toOwing
  · exact hstarted.request hdr.tag id

theorem Owed.handleConnectCommand (hw : Owed env c asked due True w) (hdr : UsbmuxdHeader) (command : Plist) :
    Owing env c (asked ++ [hdr.tag]) (due ++ [hdr.tag]) (handleConnectCommand env c hdr command w) := by
  unfold Usbmuxd.handleConnectCommand
  split
  · exact (hw.sendResult ..).toOwing
  · dsimp only
    split
    · exact (hw.sendResult ..).toOwing
    · exact hw.connectRequest ..

theorem Owed.tock (hw : Owed env c asked due True w) : Owed env c asked due True w.tock := hw.still (.conn c (.tock w))

theorem Owed.sendPairRecord (hw : Owed env c asked due True w) (tag : UInt32) (id : Option (List UInt8)) :
    Owing env c (asked ++ [tag]) (due ++ [tag]) (sendPairRecord env c tag id w) := by
  unfold Usbmuxd.sendPairRecord
  split
  · exact (hw.sendResult ..).toOwing
  · split
    · exact (hw.tock.sendResult ..).toOwing
    · split
      · exact (hw.tock.sendResult ..).toOwing
      · exact hw.tock.sendPlistPkt ..

/-- A `ReadPairRecord` is answered unless it names no record. -/
theorem Owed.handleReadPairRecordCommand (hw : Owed env c asked due True w) (hdr : UsbmuxdHeader) (command : Plist) :
    Owing env c (asked ++ [hdr.tag])
      (due ++ if (command.getStringVal "PairRecordID").isSome then [hdr.tag] else [])
      (handleReadPairRecordCommand env c hdr command w) := by
  unfold Usbmuxd.handleReadPairRecordCommand
  cases command.getStringVal "PairRecordID" with
  | none =>
    simp only [Option.isSome_none, Bool.false_eq_true, if_false, List.append_nil]
    exact (hw.still (.emit rfl w)).ignore hdr.tag
  | some id => exact hw.sendPairRecord ..

theorem Owed.handleSavePairRecordCommand (hw : Owed env c asked due True w) (hdr : UsbmuxdHeader) (command : Plist) :
    Owing env c (asked ++ [hdr.tag]) (due ++ [hdr.tag]) (handleSavePairRecordCommand env c hdr command w) := by
  unfold Usbmuxd.handleSavePairRecordCommand
  split
  · split
    · exact (hw.tock.sendResult ..).toOwing
    · exact (hw.sendResult ..).toOwing
  · exact (hw.sendResult ..).toOwing

theorem Owed.handleDeletePairRecordCommand (hw : Owed env c asked due True w) (hdr : UsbmuxdHeader)
    (command : Plist) :
    Owing env c (asked ++ [hdr.tag]) (due ++ [hdr.tag]) (handleDeletePairRecordCommand env c hdr command w) := by
  unfold Usbmuxd.handleDeletePairRecordCommand
  split
  · exact (hw.tock.sendResult ..).toOwing
  · exact (hw.sendResult ..).toOwing

/-- A command about the device at a location is answered after it has been carried out. -/
theorem Owed.withLocation (hw : Owed env c asked due True w) (hdr : UsbmuxdHeader) (command : Plist)
    {act : UInt32 → World → World} (hact : ∀ location, Owed env c asked due True (act location w)) :
    Owing env c (asked ++ [hdr.tag]) (due ++ [hdr.tag]) (withLocation env c hdr command act w) := by
  unfold Usbmuxd.withLocation
  split
  · exact (hw.sendResult ..).toOwing
  · exact ((hact _).sendResult ..).toOwing

/-- A command with a property list. -/
theorem Owed.handleClientPlistCommand (hw : Owed env c asked due True w) (hdr : UsbmuxdHeader)
    (payload : List UInt8) :
    Owing env c (asked ++ [hdr.tag]) (due ++ if isPlistAnswered env payload then [hdr.tag] else [])
      (handleClientPlistCommand env c hdr payload w) := by
  have hset : Owed env c asked due True (w.setClient c fun cl => { cl with protoVersion := 1 }) :=
    hw.still (.setClient_same fun _ => rfl)
  unfold Usbmuxd.handleClientPlistCommand
  dsimp only
  generalize (w.setClient c fun cl => { cl with protoVersion := 1 }) = v at hset
  generalize hreply : (if isPlistAnswered env payload then [hdr.tag] else []) = reply
  have hignored : isPlistAnswered env payload = false → Owing env c (asked ++ [hdr.tag]) (due ++ reply) v := by
    intro hnone
    rw [← hreply, hnone, if_neg Bool.false_ne_true, List.append_nil]
    exact hset.ignore hdr.tag
  split
  · rename_i hparse
    exact hignored (by simp [isPlistAnswered, hparse])
  · rename_i command hparse
    split
    · rename_i htype
      exact hignored (by simp [isPlistAnswered, hparse, htype])
    · rename_i message htype
      have hpending : ∀ action location, Owed env c asked due True (v.emit (.pending action location)) :=
        fun action location => hset.still (.emit rfl v)
      by_cases hread : message = cstr "ReadPairRecord"
      · subst hread
        have hanswered : isPlistAnswered env payload = (command.getStringVal "PairRecordID").isSome := by
          simp [isPlistAnswered, hparse, htype]
        rw [if_neg (by decide +kernel), if_neg (by decide +kernel), if_neg (by decide +kernel),
          if_neg (by decide +kernel), if_pos rfl, ← hreply, hanswered]
        exact hset.handleReadPairRecordCommand hdr command
      · have hanswered : isPlistAnswered env payload = true := by simp [isPlistAnswered, hparse, htype, hread]
        rw [← hreply, hanswered, if_pos rfl]
        refine iteInduction (fun _ => hset.handleListen hdr) fun _ => ?_
        refine iteInduction (fun _ => hset.handleConnectCommand hdr command) fun _ => ?_
        refine iteInduction (fun _ => hset.tock.sendPlistPkt ..) fun _ => ?_
        refine iteInduction (fun _ => hset.tock.sendPlistPkt ..) fun _ => ?_
        rw [if_neg hread]
        refine iteInduction (fun _ => hset.handleSavePairRecordCommand hdr command) fun _ => ?_
        refine iteInduction (fun _ => hset.handleDeletePairRecordCommand hdr command) fun _ => ?_
        refine iteInduction (fun _ => hset.withLocation hdr command (hpending .add)) fun _ => ?_
        refine iteInduction (fun _ => hset.withLocation hdr command (hpending .remove)) fun _ => ?_
        refine iteInduction (fun _ => ?_) fun _ => (hset.sendResult ..).toOwing
        unfold handleDeviceMonitorCommand
        exact hset.withLocation hdr command fun location =>
          (upheld_owed env c asked due True).usbProcess (hpending _ location)

/-! ### Other modes -/

/-- A client that waits for its connection is closed, and its reply is dropped. -/
theorem Owed.closeConnecting (hstate : (w.clients c).state = .connecting1)
    (hdead : Owed env c asked due False (w.setClient c fun cl => { cl with state := .dead })) :
    Owed env c asked due False (closeClient env c w) := by
  have hcarried := carried_owed env c asked due False
  unfold closeClient callDepth clientClose
  refine Owed.releaseClient ?_ c
  rw [if_pos (.inl hstate)]
  unfold deviceAbortConnect
  split
  · exact (hcarried.closeAndTearDown 3).2 _ _ hdead
  · exact hdead

theorem not_open_closeClient (env : Env) (c : Ptr) (w : World) : ¬ (closeClient env c w).Open c := fun hopen =>
  hopen.held (freeClient_closeClient env c w)

/-- A command of a client that is not in command mode: it is answered, and the client closed. -/
theorem Owing.otherMode (hw : Owing env c asked due w) (hstate : (w.clients c).state ≠ .connected) (tag : UInt32)
    (due' : List UInt32) :
    let r := Usbmuxd.sendResult env c tag resultBadcommand w
    Owing env c (asked ++ [tag]) due' (if r.2 then closeClient env c r.1 else r.1) := by
  have hsent := sent_sendResult env c tag resultBadcommand w
  have hreliable := fun hrel hbuf => @sendResult_reliable env w c hrel hbuf tag resultBadcommand
  dsimp only
  generalize Usbmuxd.sendResult env c tag resultBadcommand w = r at hsent hreliable
  by_cases hok : r.2 = true
  · rw [if_pos hok]
    refine .closed ?_ (not_open_closeClient env c r.1)
    by_cases hwaiting : (w.clients c).state = .connecting1
    · -- the reply that has been put off is dropped before anything else is done
      cases hsent with
      | failed h => cases hok
      | @queued v msg payload h hbuf =>
        have hv := hw.still (h c)
        have hconnecting : (v.clients c).state = .connecting1 := (h c).state.trans hwaiting
        have hexchange : ((v.emit (.queued c tag msg payload)).setClient c fun cl => { cl with state := .dead }).exchange
            c (asked ++ [tag]) = ⟨asked ++ [tag], v.replies c ++ [tag], none⟩ := by
          rw [exchange_none (by simp)]
          exact congrArg (fun replies => (⟨asked ++ [tag], replies, none⟩ : Exchange UInt32)) (replies_queued ..)
        have hdead : Owed env c (asked ++ [tag]) due' False
            ((v.emit (.queued c tag msg payload)).setClient c fun cl => { cl with state := .dead }) := by
          refine ⟨.closed ?_ fun hopen => hopen.alive (by simp), nofun⟩
          rw [hexchange]
          exact Exchange.Within.answer (exchange_some hconnecting asked ▸ hv.within) tag
        exact (Owed.closeConnecting (w := v.emit (.queued c tag msg payload)) hconnecting hdead).within
    · have hreplied : Owed env c (asked ++ [tag]) (due ++ [tag]) False r.1 :=
        ⟨hw.reply hsent hwaiting hstate hreliable, nofun⟩
      exact ((carried_owed env c _ _ False).closeClient hreplied c).within
  · rw [if_neg hok]
    cases hsent with
    | queued => exact absurd rfl hok
    | failed h =>
      refine ⟨((hw.still (h c)).ignore tag).within, fun hrel hopen => ?_⟩
      exact absurd (hreliable hrel (hw.buffered hrel ((h c).open hopen) hstate)) hok

/-- A command is answered, put off or ignored, or its client is closed. -/
theorem owing_clientCommand (hw : Owing env c asked due w) (hstate : (w.clients c).state ≠ .connected) {buffer : Mem}
    {bs : List UInt8} (hhdr : UsbmuxdHeader.read buffer = .ofBytes bs)
    (hpayload : buffer.slice 16 ((UsbmuxdHeader.ofBytes bs).length - usbmuxdHeaderSize).toNat = bs.drop 16) :
    Owing env c (asked ++ [(UsbmuxdHeader.ofBytes bs).tag])
      (due ++ if isAnswered env bs then [(UsbmuxdHeader.ofBytes bs).tag] else []) (clientCommand env c buffer w) := by
  unfold clientCommand isAnswered
  dsimp only
  rw [hhdr, hpayload]
  generalize UsbmuxdHeader.ofBytes bs = hdr
  by_cases hcommand : (w.clients c).state = .command
  · have hsettled : Owed env c asked due True w := ⟨hw, fun _ => hcommand⟩
    rw [if_neg (not_not.mpr hcommand)]
    by_cases hversion : hdr.version ≠ 0 ∧ hdr.version ≠ 1
    · rw [if_pos hversion, if_pos hversion, if_pos rfl]
      exact (hsettled.sendResult ..).toOwing
    rw [if_neg hversion, if_neg hversion]
    by_cases hplist : hdr.message = MsgType.plist.code
    · rw [if_pos hplist, if_pos hplist]
      exact hsettled.handleClientPlistCommand hdr (bs.drop 16)
    rw [if_neg hplist, if_neg hplist, if_pos rfl]
    refine iteInduction (fun _ => hsettled.handleListen hdr) fun _ => ?_
    exact iteInduction (fun _ => hsettled.connectRequest ..) fun _ => (hsettled.sendResult ..).toOwing
  · rw [if_pos hcommand]
    exact hw.otherMode hstate ..

/-! ### Receiving -/

theorem commandBytes_read {m : Mem} (hlong : 16 ≤ (readLe32 m 0).toNat) :
    UsbmuxdHeader.read m = .ofBytes (commandBytes m) ∧
      m.slice 16 ((UsbmuxdHeader.ofBytes (commandBytes m)).length - usbmuxdHeaderSize).toNat =
        (commandBytes m).drop 16 := by
  have hhdr : UsbmuxdHeader.read m = .ofBytes (commandBytes m) := header_received (List.prefix_refl _) hlong
  refine ⟨hhdr, ?_⟩
  have hlength : (UsbmuxdHeader.ofBytes (commandBytes m)).length = readLe32 m 0 := by
    rw [← hhdr]
    rfl
  have hle : usbmuxdHeaderSize ≤ readLe32 m 0 := UInt32.le_iff_toNat_le.mpr hlong
  obtain ⟨k, hk⟩ := Nat.exists_eq_add_of_le hlong
  rw [hlength, UInt32.toNat_sub_of_le _ _ hle, commandBytes, hk, Mem.slice_add, List.drop_left' (Mem.length_slice ..),
    show usbmuxdHeaderSize.toNat = 16 from rfl, Nat.add_sub_cancel_left, Nat.zero_add]

theorem tags_append (commands : List (List UInt8)) (bs : List UInt8) :
    tags (commands ++ [bs]) = tags commands ++ [(UsbmuxdHeader.ofBytes bs).tag] := by simp [tags]

theorem tags_answered (env : Env) (commands : List (List UInt8)) (bs : List UInt8) :
    tags ((commands ++ [bs]).filter (isAnswered env)) =
      tags (commands.filter (isAnswered env)) ++ if isAnswered env bs then [(UsbmuxdHeader.ofBytes bs).tag] else [] := by
  by_cases h : isAnswered env bs = true
  · simp [tags, h]
  · simp [tags, h]

/-- What has been read is all that a call of `process_recv` does before it looks at it. -/
theorem Still.receive (c : Ptr) (w : World) (got : List UInt8) : Still c w (w.receive c got) :=
  ((Still.emit (e := .processRecv c true) rfl w).trans (.conn c (.tock _))).trans (.setClient_same fun _ => rfl)

/-- The client owes nothing but what its commands have asked for. -/
def Answered (env : Env) (c : Ptr) (commands : List (List UInt8)) (w : World) : Prop :=
  Owing env c (tags commands) (tags (commands.filter (isAnswered env))) w

/-- A call of `process_recv` for the client. -/
theorem answered_processRecv {t : Transcript} (hw : Answered env c t.commands w)
    (hstate : (w.clients c).state ≠ .connected) (hlisten : (w.clients c).ibBuf.isSome = true → Listening c w) :
    Answered env c (t.extend (collect env c w)).commands (processRecv env c w) := by
  have howed : Owed env c _ _ False w := ⟨hw, nofun⟩
  have hcarried := carried_owed env c (tags t.commands) (tags (t.commands.filter (isAnswered env))) False
  rw [processRecv_collect]
  cases hbuf : (w.clients c).ibBuf.isSome with
  | false =>
    have hnone : (w.clients c).ibBuf = none := Option.isNone_iff_eq_none.mp (by simpa using hbuf)
    obtain ⟨-, hcommand, -⟩ := collect_noBuffer env hnone
    have hext : (t.extend (collect env c w)).commands = t.commands := by simp [Transcript.extend, hcommand]
    rw [hext, Collected.finish, hcommand]
    have hcall := howed.still (.emit (e := .processRecv c (w.clients c).ibBuf.isSome) rfl w)
    have hrecv := hcarried.recvCommandBytes hcall c (usbmuxdHeaderSize - (w.clients c).ibSize)
    unfold collect
    dsimp only
    split
    · rw [if_pos (by simp [recvCommandBytes, hnone])]
      exact (hcarried.closeClient hrecv c).toOwing
    · rw [hnone] at hcall
      simp only [collectBody, emit_clients, hnone]
      exact (hcall.still (.emit (e := .fault .nullIbBuf) rfl _)).toOwing
  | true =>
    obtain ⟨hsize, hreceived⟩ := received_receive w c (@Listening.room env _ _ (hlisten hbuf))
    have hcases := @collect_listening env _ _ (hlisten hbuf)
    have hread := howed.still (.receive c w (arrival env c w))
    have hbuf' : ∃ b, ((w.receive c (arrival env c w)).clients c).ibBuf = some b := ⟨_, by simp [World.receive]; rfl⟩
    have hstate' : ((w.receive c (arrival env c w)).clients c).state ≠ .connected := by simpa [World.receive] using hstate
    generalize collect env c w = s at hcases
    generalize arrival env c w = got at hcases hread hbuf' hreceived hstate'
    cases hcases with
    | nothing =>
      simp only [Transcript.extend, Collected.finish, Option.map_none, Option.toList_none, List.append_nil]
      exact (hcarried.closeClient hread c).toOwing
    | begun =>
      simp only [Transcript.extend, Collected.finish, Option.map_none, Option.toList_none, List.append_nil]
      exact hread.toOwing
    | refused =>
      simp only [Transcript.extend, Collected.finish, Option.map_none, Option.toList_none, List.append_nil]
      exact (hcarried.closeClient hread c).toOwing
    | whole hne hwhole =>
      obtain ⟨b, hb⟩ := hbuf'
      rw [← hreceived] at hwhole
      have hlong : 16 ≤ (readLe32 b 0).toNat := by
        have hadmits := hwhole.admits
        rw [size_received hb hwhole.header_le, commandFormat_admits] at hadmits
        exact hadmits.1
      obtain ⟨hhdr, hpayload⟩ := commandBytes_read hlong
      have hdone := owing_clientCommand hread.toOwing hstate' hhdr hpayload
      rw [← tags_append, ← tags_answered] at hdone
      simp only [Transcript.extend, Collected.finish, hb, Option.getD_some, Option.map_some, Option.toList_some,
        runCommand]
      generalize clientCommand env c b (w.receive c got) = v at hdone
      split
      · exact hdone.still (.emit rfl v)
      · exact hdone.still (.setClient_same fun _ => rfl)

/-! ### Runs -/

/-- A client is accepted. -/
theorem answered_registerClient {commands : List (List UInt8)} (hw : Answered env c commands w)
    (hborn : w.fresh ≤ c → commands = []) : Answered env c commands (registerClient w) := by
  by_cases hne : w.fresh = c
  · subst hne
    obtain rfl := hborn le_rfl
    have hnothing : w.replies w.fresh = [] := by
      have hsub : (w.replies w.fresh ++ (w.clients w.fresh).waiting.toList).Sublist [] := hw.within
      exact (List.append_eq_nil_iff.mp (List.sublist_nil.mp hsub)).1
    have hreplies : (registerClient w).replies w.fresh = [] := by
      rw [World.replies, registerClient_log, unmarked_append (by rfl)]
      rw [World.replies] at hnothing
      rw [hnothing]
      rfl
    have hexchange : (registerClient w).exchange w.fresh [] = ⟨[], [], none⟩ := by
      rw [exchange_none (by simp), hreplies]
    refine ⟨?_, fun _ _ => ⟨fun hnone => by simp at hnone, ?_⟩⟩
    · exact hexchange ▸ List.Sublist.refl []
    · exact hexchange ▸ rfl
  · have hsame : (registerClient w).clients c = w.clients c := by
      rw [registerClient_clients, Function.update_of_ne (Ne.symm hne)]
    refine hw.still (.grows (.one rfl ?_) (by rw [hsame]) (by rw [hsame]) (by rw [hsame]; exact id))
    simpa [Event.isMute] using hne

/-- An operation that is not a call of `process_recv` for the client, and does not accept it. -/
theorem answered_exec {commands : List (List UInt8)} (hw : Answered env c commands w)
    (hborn : w.fresh ≤ c → commands = []) {op : Op} (hop : ¬ op.receives c w) :
    Answered env c commands (exec env w op) := by
  have howed : Owed env c _ _ False w := ⟨hw, nofun⟩
  have hupheld := upheld_owed env c (tags commands) (tags (commands.filter (isAnswered env))) False
  by_cases hordinary : Upheld.Ordinary op
  · by_cases hturn : ∃ events, op = .clientReady c events
    · obtain ⟨events, rfl⟩ := hturn
      simp only [exec]
      split
      · rename_i hc
        unfold clientReady
        split_ifs with hready hconnected hin
        · exact (hupheld.deviceClientProcess howed ..).toOwing
        · exact absurd ⟨rfl, hc, hconnected, hin⟩ hop
        · exact (hupheld.processSend howed c).toOwing
        · exact hw
      · exact hw
    · refine (hupheld.exec trivial trivial howed hordinary fun x events heq hx => hturn ⟨events, ?_⟩).toOwing
      rw [heq, hx]
  · cases op with
    | clientAccept => exact answered_registerClient hw hborn
    | acceptSocket u =>
      simp only [exec, deviceAcceptSocket]
      split
      · exact hw.still (.setDev ..)
      · exact hw
    | setVisible id =>
      simp only [exec, deviceSetVisible]
      split
      · exact hw.still (.setDev ..)
      · exact hw
    | announce info => exact hw.still (.announceDevice ..)
    | _ => exact absurd trivial hordinary

/-- In every run a client is owed nothing but what its commands have asked for. -/
theorem answered_run (env : Env) (c : Ptr) (ops : List Op) :
    Answered env c (transcript env c ops).2.commands (run env ops) := by
  induction ops using List.reverseRecOn with
  | nil =>
    refine ⟨?_, fun _ hopen => absurd hopen.born List.not_mem_nil⟩
    exact List.Sublist.refl []
  | append_singleton ops op ih =>
    have htranscribed := transcribed_run env c ops
    rw [run_append, transcript_append, transcribe]
    rw [transcript_world]
    dsimp only
    by_cases hop : op.receives c (run env ops)
    · rw [if_pos hop]
      have hc := receives_listed hop
      have hstate : ((run env ops).clients c).state ≠ .connected := by
        cases op with
        | clientReady x events =>
          obtain ⟨rfl, -, hstate, -⟩ := hop
          exact hstate
        | _ => exact hop.elim
      show Answered env c _ (exec env (run env ops) op)
      rw [exec_receives hop]
      exact answered_processRecv ih hstate fun hbuf => (listening_of_buffer env c ops hc hbuf).1
    · rw [if_neg hop]
      exact answered_exec ih (fun hborn => by rw [htranscribed.unborn hborn]) hop

/-- In every run each reply to a client is to a command of its own, in the order of the commands; also the one that
is still to come, if the client waits for a connection. This holds whatever fails. -/
theorem replies_requested (env : Env) (c : Ptr) (ops : List Op) :
    ((run env ops).replies c ++ ((run env ops).clients c).waiting.toList).Sublist
      (tags (transcript env c ops).2.commands) :=
  (answered_run env c ops).within

/-- With memory to be had, a client that is on the list has been sent one reply for each of its commands, in their
order and with their tags, and nothing else but notifications. Only the last one may be missing, while the client
waits for a connection. -/
theorem answered_in_order (hrel : env.Reliable) (ops : List Op) (hc : c ∈ (run env ops).clientList) :
    (run env ops).replies c ++ ((run env ops).clients c).waiting.toList =
      tags ((transcript env c ops).2.commands.filter (isAnswered env)) := by
  have hsteady := steady_run env ops
  refine ((answered_run env c ops).even hrel ⟨hsteady.tracked.armed.known c hc, ?_, fun hfreed => ?_⟩).2
  · exact (hsteady.tracked.ok.entries c hc).alive
  · exact hsteady.unlisted hfreed hc

/-- A client has asked for a connection, and the device has answered. -/
theorem answered_in_order_connected :
    (run .asking connectOps).replies 2 = [7] ∧
      (run .asking connectOps).replies 2 ++ ((run .asking connectOps).clients 2).waiting.toList =
        tags ((transcript .asking 2 connectOps).2.commands.filter (isAnswered .asking)) :=
  ⟨by decide +kernel, answered_in_order ⟨fun _ => rfl, fun _ _ => rfl⟩ connectOps (by decide +kernel)⟩

end Commands

end Usbmuxd
