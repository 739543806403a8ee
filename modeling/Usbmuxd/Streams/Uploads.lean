import Usbmuxd.Runs.Identity
import Usbmuxd.Streams.AtRest

/-!
# Data segments keep to the device's window

How much a client may send is computed by one operation and used by another one. A connection at rest has
computed it from what the device has last said, so whatever the device says, a data segment
ends below the right edge that the device has granted last; and no segment of a connection is
too large for a packet.

## The model

* `Event.plain` — an entry that is no data segment.
* `Event.fair` — an entry that is no data segment, or one within what the record of its connection allows.

## What is proved

* `Talks.plain` — only `device_client_process` sends data segments.
* `fair_deviceClientProcess` — and it sends fair ones.
* `send_window` — the data segments of every operation after every run.
-/

namespace Usbmuxd

open World Relation

/-! ### The window -/

/-- Bytes that fit into the window leave the number of bytes in flight within what the device has granted. -/
theorem MuxConnection.window_fits (conn : MuxConnection) {n : ℕ} (hpos : 0 < n) (h : n ≤ conn.window.toNat) :
    conn.txSeq + UInt32.ofNat n - conn.rxAck ≤ conn.rxWin ∧ n ≤ conn.maxPayload.toNat ∧ n ≤ conn.obCapacity.toNat := by
  unfold MuxConnection.window at h
  dsimp only at h
  generalize hsent : conn.txSeq - conn.rxAck = sent at h
  have hflight : conn.txSeq + UInt32.ofNat n - conn.rxAck = sent + UInt32.ofNat n := by
    rw [← hsent, UInt32.sub_eq_add_neg, UInt32.sub_eq_add_neg, UInt32.add_assoc, UInt32.add_assoc,
      UInt32.add_comm (UInt32.ofNat n)]
  have hsmall : n < 2 ^ 32 := lt_of_le_of_lt h (UInt32.toNat_lt _)
  have hgranted : n ≤ (if sent < conn.rxWin then conn.rxWin - sent else 0).toNat ∧
      n ≤ conn.maxPayload.toNat ∧ n ≤ conn.obCapacity.toNat := by
    generalize (if sent < conn.rxWin then conn.rxWin - sent else 0) = granted at h ⊢
    simp only [UInt32.lt_iff_toNat_lt] at h
    split_ifs at h <;> omega
  refine ⟨?_, hgranted.2⟩
  rw [hflight, UInt32.le_iff_toNat_le, UInt32.toNat_add, UInt32.toNat_ofNat', Nat.mod_eq_of_lt hsmall]
  obtain ⟨hroom, -⟩ := hgranted
  split at hroom
  · rename_i hlt
    rw [UInt32.toNat_sub_of_le _ _ (UInt32.le_of_lt hlt)] at hroom
    have hbelow := UInt32.toNat_lt conn.rxWin
    rw [UInt32.lt_iff_toNat_lt] at hlt
    omega
  · have hnone : n ≤ 0 := hroom
    omega

/-- A connection whose largest payload leaves room for the headers. -/
def MuxConnection.Limited (conn : MuxConnection) : Prop :=
  sizeofMuxHeader + tcphdrSize + conn.maxPayload.toNat ≤ maxMuxPacketSize.toNat

section Limits

variable {env : Env} {w w' : World}

theorem MuxConnection.Keeps.limited {conn conn' : MuxConnection} (h : conn.Keeps conn') (hconn : conn.Limited) :
    conn'.Limited := by
  rw [MuxConnection.Limited, h.maxPayload]
  exact hconn

theorem limited_work (h : ∀ p, (w.conns p).Limited) (hw : Work env w w') : ∀ p, (w'.conns p).Limited := by
  induction hw with
  | refl => exact h
  | tail _ hb ih =>
    intro p
    rcases hb.keeps p with hkeeps | ⟨-, d, c, sport, dport, hstart⟩
    · exact hkeeps.limited (ih p)
    · rw [hstart, MuxConnection.Limited, MuxConnection.start_maxPayload]
      decide

theorem limited_turns (h : ∀ p, (w.conns p).Limited) (ht : Turns env w w') : ∀ p, (w'.conns p).Limited := by
  induction ht with
  | refl => exact h
  | @tail v _ _ hturn ih =>
    have hupload : ∀ p c q, ((clientToDevice env p c v).1.conns q).Limited := fun p c q =>
      (keeps_clientToDevice env p c v q).limited (ih q)
    cases hturn with
    | block hb => exact limited_work ih (.single hb)
    | request c tag id => exact ih
    | listen c => exact ih
    | upload p c => exact hupload p c
    | failedUpload p c => exact limited_work (hupload p c) (traffic_tearDown env p _).work

theorem limited_run (env : Env) (ops : List Op) (p : Ptr) : ((run env ops).conns p).Limited :=
  limited_turns (w := .init) (fun _ => (by decide : sizeofMuxHeader + tcphdrSize + 0 ≤ maxMuxPacketSize.toNat))
    (turns_run env [] ops) p

end Limits

/-! ### Entries -/

/-- An entry that is no data segment. -/
def Event.plain : Event → Bool
  | .segment _ _ data _ => data.isEmpty
  | _ => true

/-- An entry that is no data segment, or one of connection `p` within what its peer allows. -/
def Event.fair (p : Ptr) (peer : Peer) : Event → Bool
  | .segment q th data _ => data.isEmpty || decide (q = p ∧
      th.seq + UInt32.ofNat data.length - peer.rxAck ≤ peer.rxWin ∧ data.length ≤ peer.maxPayload.toNat ∧
      data.length ≤ peer.obCapacity.toNat)
  | _ => true

theorem Event.fair_of_plain (p : Ptr) (peer : Peer) (e : Event) (h : e.plain = true) : e.fair p peer = true := by
  cases e <;> simp_all [Event.plain, Event.fair]

section Entries

variable {env : Env} {w w' : World} {p c : Ptr} {kind : Event → Bool}

/-- A segment writes an entry about a packet, and one about itself. -/
theorem sendTcp_grows (husb : ∀ d bytes ok, kind (.usbSend d bytes ok) = true) {flags : UInt8} {data : List UInt8}
    (hseg : ∀ ok, kind (.segment p ((w.conns p).tcpHeader flags) data ok) = true) :
    w.Grows kind (sendTcp env p flags data w).1 := by
  unfold sendTcp sendPacket usbSend
  dsimp only
  split <;> split <;> exact ⟨_, by simp [List.append_assoc]; rfl, by simp [husb, hseg]⟩

theorem plain_sendTcp (env : Env) (p : Ptr) (flags : UInt8) (w : World) :
    w.Grows Event.plain (sendTcp env p flags [] w).1 := sendTcp_grows (fun _ _ _ => rfl) fun _ => rfl

theorem plain_answered (p : Ptr) (w : World) : w.Grows Event.plain (answered p w) := .one rfl rfl

theorem plain_connBlock (hb : ConnBlock env w w') : w.Grows Event.plain w' := by
  cases hb with
  | packet d proto header data =>
    unfold sendPacket
    split
    · exact .refl _ w
    · exact .one rfl rfl
  | segment p flags => exact plain_sendTcp env p flags w
  | established p =>
    have hsent := (plain_answered p w).trans (plain_sendTcp env p thAck _)
    generalize (sendTcp env p thAck [] (answered p w)).1 = v at hsent ⊢
    exact hsent.trans (.none rfl)
  | unanswered p => exact (plain_answered p w).trans (plain_sendTcp env p thAck _)
  | tock => exact .none rfl
  | nextSport d port => exact .none rfl
  | register d p => exact .none rfl
  | hear p th => exact .none rfl
  | state p s => exact .none rfl
  | orphan p => exact .none rfl
  | refresh p => exact .none rfl
  | _ => exact .one rfl rfl

theorem plain_work (hw : Work env w w') : w.Grows Event.plain w' := by
  induction hw with
  | refl => exact .refl _ _
  | tail _ hb ih =>
    refine ih.trans ?_
    cases hb with
    | device hb => exact hb.frame.log.mono fun e he => by cases e <;> simp_all [Event.ofDevice, Event.plain]
    | traffic hb =>
      cases hb with
      | conn hb => exact plain_connBlock hb
      | client hb => exact hb.frame.log.mono fun e he => by cases e <;> simp_all [Event.ofClient, Event.plain]

/-- Nothing but `device_client_process` sends data segments. -/
theorem Talks.plain (h : Talks env w w') : w.Grows Event.plain w' := by
  induction h with
  | refl => exact .refl _ _
  | tail _ htalk ih =>
    refine ih.trans ?_
    cases htalk with
    | block hb => exact plain_work (.single hb)
    | request c tag id => exact .none rfl
    | listen c => exact .none rfl

theorem fair_work (hw : Work env w w') (p : Ptr) (peer : Peer) : w.Grows (Event.fair p peer) w' :=
  (plain_work hw).mono (Event.fair_of_plain p peer)

/-! ### The upload -/

/-- What an upload sends is within what the record allows, if the record is up to date. -/
theorem fair_clientToDevice (env : Env) (p c : Ptr) (hsendable : (w.conns p).sendable = (w.conns p).window) :
    w.Grows (Event.fair p (w.conns p).peer) (clientToDevice env p c w).1 := by
  by_cases hbs : (clientRead env p c (w.conns p).sendable w).2 = []
  · rw [clientToDevice_none p c hbs]
    unfold clientRead
    split
    · exact .refl _ w
    · dsimp only
      split
      · exact .none rfl
      · exact .one rfl rfl
  · have hlen : (clientRead env p c (w.conns p).sendable w).2.length ≤ (w.conns p).window.toNat := by
      rw [← hsendable]
      unfold clientRead
      split
      · exact Nat.zero_le _
      · dsimp only
        split
        · exact Nat.zero_le _
        · exact List.length_take_le ..
    rw [clientToDevice_some p c hbs]
    dsimp only
    generalize (clientRead env p c (w.conns p).sendable w).2 = bs at hbs hlen ⊢
    have hconn : (uploading p c bs w).conns p = (w.conns p).fill bs :=
      congrArg Channel.conn (uploading_channel p c bs w)
    have hsent : w.Grows (Event.fair p (w.conns p).peer) (sendTcp env p thAck bs (uploading p c bs w)).1 := by
      have hread : w.Grows (Event.fair p (w.conns p).peer) (uploading p c bs w) := .one rfl rfl
      refine hread.trans (sendTcp_grows (fun _ _ _ => rfl) fun ok => ?_)
      obtain ⟨hflight, hpayload, hcapacity⟩ := (w.conns p).window_fits (List.length_pos_of_ne_nil hbs) hlen
      rw [hconn, Event.fair, Bool.or_eq_true, decide_eq_true_eq]
      exact .inr ⟨rfl, hflight, hpayload, hcapacity⟩
    split
    · exact hsent.trans (.none rfl)
    · exact hsent

theorem fair_processClientInput (env : Env) (p c : Ptr) (events : Events)
    (hsendable : (w.conns p).sendable = (w.conns p).window) :
    w.Grows (Event.fair p (w.conns p).peer) (processClientInput env p c events w) := by
  unfold processClientInput
  split
  · have hup := fair_clientToDevice env p c hsendable
    dsimp only
    split
    · exact hup.trans (fair_work (traffic_updateConnection env p _).work _ _)
    · exact hup.trans (fair_work (traffic_tearDown env p _).work _ _)
  · exact fair_work (traffic_updateConnection env p w).work _ _

/-- `device_client_process` sends fair segments for a connection that is settled. -/
theorem fair_deviceClientProcess {id : ℕ} (hfound : w.registry.lookup id c = some p) (h : Settled p c w)
    (hstate : (w.conns p).state ≠ .dead) (hother : (w.clients c).state = .connected) (events : Events) :
    w.Grows (Event.fair p (w.conns p).peer) (deviceClientProcess env id c events w) := by
  have hget : getMuxConnection w id c = some p := hfound
  unfold deviceClientProcess
  simp only [hget]
  split
  · have hlog := fair_work (traffic_deviceToClient env p c w).work p (w.conns p).peer
    by_cases hdown : (deviceToClient env p c w).2 = true
    · obtain ⟨bs, size, heq⟩ := deviceToClient_eq hdown
      obtain ⟨hclient, -, -, hpeer, hclients, -⟩ := deviceToClient_keeps hdown
      have hstate' : ((deviceToClient env p c w).1.conns p).state ≠ .dead := (deviceToClient_state p c p w).trans_ne hstate
      have hsendable : ((deviceToClient env p c w).1.conns p).sendable = ((deviceToClient env p c w).1.conns p).window := by
        rw [heq, setConn_conns, Function.update_self]
        exact h.sendable
      generalize deviceToClient env p c w = r at hdown hclient hpeer hclients hstate' hsendable hlog ⊢
      rw [if_pos hdown]
      split
      · have hack := settled_sendTcpAck env (hclient.trans h.client) hstate' fun hs => by
          rw [hclients, hother] at hs
          cases hs
        have htold := hlog.trans (fair_work (traffic_sendTcpAck env p r.1 hstate').work p (w.conns p).peer)
        generalize sendTcpAck env p r.1 = s at hack htold ⊢
        split
        · rename_i hsent
          rw [if_pos hsent] at hack
          have hinput := fair_processClientInput env p c events hack.1.sendable
          rw [hack.2, hpeer] at hinput
          exact htold.trans hinput
        · exact htold.trans (.one rfl rfl)
      · have hinput := fair_processClientInput env p c events hsendable
        rw [hpeer] at hinput
        exact hlog.trans hinput
    · rw [if_neg hdown]
      exact hlog.trans (fair_work (traffic_tearDown env p _).work _ _)
  · exact fair_processClientInput env p c events h.sendable

end Entries

/-! ### Operations -/

section Operations

variable {env : Env} {w : World}

/-- What an operation writes: no data segment, or fair ones of one connection and no segment from the device. -/
theorem exec_segments (h : Calm env w) (op : Op) : w.Grows Event.plain (exec env w op) ∨
    ∃ c events d p, op = .clientReady c events ∧ w.registry.Link d p c ∧
      w.Grows (Event.fair p (w.conns p).peer) (exec env w op) ∧ Confined (Eq p) (Eq c) w (exec env w op) := by
  cases op with
  | clientReady c events =>
    simp only [exec]
    by_cases hc : c ∈ w.clientList
    · rw [if_pos hc]
      unfold clientReady
      split
      · split
        · rename_i hconnected
          cases hfound : w.registry.lookup (w.clients c).connectDevice c with
          | none =>
            have hget : getMuxConnection w (w.clients c).connectDevice c = none := hfound
            left
            unfold deviceClientProcess
            rw [hget]
            exact .refl _ w
          | some p =>
            obtain ⟨d, hl, -⟩ := w.registry.link_of_lookup hfound
            have ht := h.steady.tracked
            have hbound := ht.bound hl
            have hstate : (w.conns p).state = .connected := (ht.ok.link_client hl).2.2.connected_iff.mpr (.inr hconnected)
            refine .inr ⟨c, events, d, p, rfl, hl, ?_, .deviceClientProcess (fun q hq => ?_) rfl events⟩
            · exact fair_deviceClientProcess hfound ((h.rest d p c hl).settled hstate) (ht.not_dead hl) hconnected events
            · obtain rfl := hbound.lookup q hq
              exact ⟨hbound, rfl⟩
        · rename_i hother
          split
          · exact .inl (talks_processRecv env c w hother).plain
          · exact .inl (plain_work (traffic_processSend env c w).work)
      · exact .inl (.refl _ w)
    · rw [if_neg hc]
      exact .inl (.refl _ w)
  | clientAccept => exact .inl (.one rfl rfl)
  | usb a => exact .inl (plain_work (work_usbAction env w a))
  | acceptSocket u => exact .inl (plain_work (work_deviceAcceptSocket env w u))
  | versionInput d vh =>
    simp only [exec]
    split
    · exact .inl (plain_work (work_deviceVersionInput env d w vh))
    · exact .inl (.refl _ w)
  | tcpInput d th payload =>
    simp only [exec]
    split
    · rename_i hd
      have hwork : Work env w (dispatch env d (.tcp th payload) w) := work_dispatch env d w hd.2
      exact .inl (plain_work hwork)
    · exact .inl (.refl _ w)
  | transfer d t =>
    simp only [exec]
    split
    · exact .inl (plain_work (work_deviceProcessSocket env d w t))
    · exact .inl (.refl _ w)
  | checkTimeouts => exact .inl (plain_work (traffic_deviceCheckTimeouts env w).work)
  | setVisible id => exact .inl (plain_work (work_deviceSetVisible env w id))
  | announce info => exact .inl (plain_work (traffic_announceDevice env w info).work)
  | pairingEvent info event validate =>
    exact .inl (plain_work (traffic_clientDevicePairingEvent env w info event validate).work)
  | preflightFinished id => exact .inl (plain_work (work_devicePreflightFinished env w id))

theorem hearing_of_not_opens {e : Event} (h : e.opens = false) (d p : Ptr) (sport dport : UInt16)
    (heard : UInt32 × UInt32) : hearing d p sport dport heard e = heard := by
  cases e with
  | start => cases h
  | tcpInput => cases h
  | _ => rfl

/-- Entries that are no segments from devices leave what has been heard as it is. -/
theorem foldl_hearing {es : List Event} (h : ∀ e ∈ es, e.opens = false) (d p : Ptr) (sport dport : UInt16)
    (heard : UInt32 × UInt32) : es.foldl (hearing d p sport dport) heard = heard := by
  induction es generalizing heard with
  | nil => rfl
  | cons e es ih =>
    have he : hearing d p sport dport heard e = heard := hearing_of_not_opens (h e List.mem_cons_self) ..
    rw [List.foldl_cons, he]
    exact ih (fun e' he' => h e' (List.mem_cons_of_mem _ he')) heard

end Operations

/-- Every segment that an operation sends for a connection fits into a packet, whatever the version of the device.
A data segment is sent by `device_client_process`, has no more bytes than the largest
payload and the out-buffer, and leaves no more bytes in flight than the last segment heard for the
connection has granted. -/
theorem send_window (env : Env) (ops : List Op) (op : Op) :
    let w := run env ops
    ∀ before p th data ok after, (run env (ops ++ [op])).log = w.log ++ before ++ .segment p th data ok :: after →
      let conn := w.conns p
      (∀ dev : MuxDevice, dev.packetLength th.bytes data ≤ maxMuxPacketSize.toNat ∧
        ¬ usbMtu < dev.packetLength th.bytes data) ∧
      (data ≠ [] → (∃ c events, op = .clientReady c events ∧ conn.client = some c) ∧
        data.length ≤ min conn.maxPayload.toNat conn.obCapacity.toNat ∧
        let heard := (w.log ++ before).foldl (hearing conn.dev p conn.sport conn.dport) (0, 0)
        th.seq + UInt32.ofNat data.length - heard.1 ≤ heard.2) := by
  intro w before p th data ok after hlog conn
  rw [run_append] at hlog
  have hcalm := calm_run env ops
  -- the entries of the operation are those behind the old log
  have hnew : ∀ {P : Event → Prop}, (∃ es, (exec env w op).log = w.log ++ es ∧ ∀ e ∈ es, P e) →
      ∀ e ∈ before ++ .segment p th data ok :: after, P e := by
    rintro P ⟨es, hes, hall⟩
    rw [hes, List.append_assoc] at hlog
    rwa [← List.append_cancel_left hlog]
  have hfair : data = [] ∨ ∃ c events d, op = .clientReady c events ∧ w.registry.Link d p c ∧
      th.seq + UInt32.ofNat data.length - conn.rxAck ≤ conn.rxWin ∧ data.length ≤ conn.maxPayload.toNat ∧
      data.length ≤ conn.obCapacity.toNat ∧ ∀ e ∈ before, e.opens = false := by
    rcases exec_segments hcalm op with hplain | ⟨c, events, d, q, rfl, hl, hsent, hstep⟩
    · have hseg := hnew hplain (.segment p th data ok) (by simp)
      exact .inl (List.isEmpty_iff.mp hseg)
    · have hseg := hnew hsent (.segment p th data ok) (by simp)
      rw [Event.fair, Bool.or_eq_true, decide_eq_true_eq, List.isEmpty_iff] at hseg
      refine hseg.imp_right ?_
      rintro ⟨rfl, hflight, hpayload, hcapacity⟩
      exact ⟨c, events, d, rfl, hl, hflight, hpayload, hcapacity,
        fun e he => (hnew hstep.log e (List.mem_append_left _ he)).opens⟩
  refine ⟨fun dev => ?_, fun hdata => ?_⟩
  · have hlimit : 36 + conn.maxPayload.toNat ≤ 32764 := limited_run env ops p
    have hlen : data.length ≤ conn.maxPayload.toNat := by
      rcases hfair with rfl | ⟨-, -, -, -, -, -, hpayload, -⟩
      · exact Nat.zero_le _
      · exact hpayload
    have hheader : muxHeaderSize dev.version ≤ 16 := by
      unfold muxHeaderSize
      split <;> decide
    have hpacket : dev.packetLength th.bytes data ≤ 32764 := by
      rw [MuxDevice.packetLength, length_tcpHdr_bytes, tcphdrSize]
      omega
    exact ⟨hpacket, Nat.not_lt.mpr (hpacket.trans (by decide))⟩
  · obtain ⟨c, events, d, hop, hl, hflight, hpayload, hcapacity, hquiet⟩ := hfair.resolve_left hdata
    refine ⟨⟨c, events, hop, hl.client⟩, le_min hpayload hcapacity, ?_⟩
    have hdev : conn.dev = d := hcalm.steady.tracked.ok.conn_dev d hl.device p hl.conn
    have hheard : (conn.rxAck, conn.rxWin) = w.heard d p := (hcalm.rest d p c hl).heard
    dsimp only
    rw [List.foldl_append, foldl_hearing hquiet, hdev]
    change _ - (w.heard d p).1 ≤ (w.heard d p).2
    rw [← hheard]
    exact hflight

/-- The bytes that the client of the example sends once it is connected are a data segment. -/
theorem send_window_upload :
    let ops := connectOps ++ [.clientReady 2 ⟨false, true⟩]
    ∃ before th ok, (run .asking (ops ++ [.clientReady 2 ⟨true, false⟩])).log =
        (run .asking ops).log ++ before ++ [.segment 3 th [1, 0, 0, 0, 0, 80, 0, 0] ok] ∧
      8 ≤ min ((run .asking ops).conns 3).maxPayload.toNat ((run .asking ops).conns 3).obCapacity.toNat := by
  intro ops
  have hlog : (run .asking (ops ++ [.clientReady 2 ⟨true, false⟩])).log = (run .asking ops).log ++
      (((run .asking (ops ++ [.clientReady 2 ⟨true, false⟩])).log.drop (run .asking ops).log.length).take 2) ++
      [.segment 3 ⟨1, 80, 1, 1, 0x50, thAck, 1024, 0, 0⟩ [1, 0, 0, 0, 0, 80, 0, 0] true] := by decide +kernel
  refine ⟨_, _, _, hlog, ?_⟩
  exact ((send_window .asking ops (.clientReady 2 ⟨true, false⟩) _ 3 _ _ true [] hlog).2 (by simp)).2.1

end Usbmuxd
