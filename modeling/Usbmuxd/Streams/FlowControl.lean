import Usbmuxd.Registry.Ports
import Usbmuxd.Streams.Integrity

/-!
# The device cannot overrun the in-buffer

Every segment tells the device how far it may send: the next byte that is expected, and a
window in units of 256 bytes. The window is the free space of the in-buffer rounded down, so
the right edge may move back, and the device may still go by an edge it was told before.

## The model

* `Credit` — the numbers in a connection's record are the ones its history calls for, and
  the greatest edge leaves room in the in-buffer.

## What is proved

* `Credit.step` — each step keeps the credit.
* `flow_control` — a device that keeps to the edges it has been told never overruns the
  in-buffer, and `tx_win` is always the free space.
-/

namespace Usbmuxd

open World Relation

/-- The window field of a segment does not truncate. -/
theorem toNat_windowField {win : UInt32} (h : win.toNat ≤ connInbufSize.toNat) :
    (win >>> 8).toUInt16.toNat = win.toNat / 256 := by
  have hle : win.toNat ≤ 262144 := h
  rw [UInt32.toNat_toUInt16, UInt32.toNat_shiftRight]
  show win.toNat >>> 8 % 65536 = _
  rw [Nat.shiftRight_eq_div_pow]
  omega

/-- What a connection has told its device is backed by the in-buffer. -/
structure Credit (ch : Channel) : Prop where
  conserved : Conserved ch
  capacity : ch.history.capacity = ch.conn.ibCapacity.toNat
  bounded : ch.conn.txWin.toNat + ch.conn.ibSize.toNat ≤ ch.conn.ibCapacity.toNat
  window : ch.conn.state ≠ .dead → ch.conn.txWin.toNat + ch.conn.ibSize.toNat = ch.conn.ibCapacity.toNat
  ack : ch.conn.txAck = UInt32.ofNat ch.history.offset
  granted : Fifo.Grants ch.history.handshakes ch.history.written ch.conn.ibCapacity.toNat ch.history.edge
  safe : ch.history.obedient = true → ch.history.overflowed = false
  counted : ch.history.counted = true

namespace Credit

variable {reliable : Prop} {ch ch' : Channel}

theorem held (h : Credit ch) : ch.history.held = ch.conn.ibSize.toNat := by
  have hlen := h.conserved.queue.length_entered
  rw [MuxConnection.length_inBytes] at hlen
  unfold History.held
  omega

theorem capacity_le (h : Credit ch) : ch.conn.ibCapacity.toNat ≤ 262144 := UInt32.le_iff_toNat_le.mp h.conserved.small

/-- The record changes in nothing that counts here. -/
theorem same (h : Credit ch) {conn : MuxConnection} (hbuf : conn.inBytes = ch.conn.inBytes)
    (hcap : conn.ibCapacity = ch.conn.ibCapacity) (hwin : conn.txWin = ch.conn.txWin) (hack : conn.txAck = ch.conn.txAck)
    (hdead : conn.state ≠ .dead → ch.conn.state ≠ .dead) : Credit ⟨conn, ch.history⟩ := by
  have hsize : conn.ibSize.toNat = ch.conn.ibSize.toNat := by
    rw [← MuxConnection.length_inBytes, hbuf, MuxConnection.length_inBytes]
  refine ⟨h.conserved.same hbuf hcap rfl rfl, ?_, ?_, fun halive => ?_, ?_, ?_, h.safe, h.counted⟩
  · show _ = conn.ibCapacity.toNat
    rw [hcap]
    exact h.capacity
  · show conn.txWin.toNat + conn.ibSize.toNat ≤ conn.ibCapacity.toNat
    rw [hwin, hsize, hcap]
    exact h.bounded
  · show conn.txWin.toNat + conn.ibSize.toNat = conn.ibCapacity.toNat
    rw [hwin, hsize, hcap]
    exact h.window (hdead halive)
  · exact hack.trans h.ack
  · show Fifo.Grants _ _ conn.ibCapacity.toNat _
    rw [hcap]
    exact h.granted

/-- The same, from the flow of the record. -/
theorem flow (h : Credit ch) {conn : MuxConnection} (hflow : conn.flow = ch.conn.flow) : Credit ⟨conn, ch.history⟩ :=
  h.same (ch.conn.inBytes_flow hflow) (congrArg Flow.ibCapacity hflow) (congrArg Flow.txWin hflow)
    (congrArg Flow.txAck hflow) fun halive hdead => halive ((congrArg Flow.state hflow).trans hdead)

/-- A `SYN|ACK` counts as one byte of the device. -/
theorem handshake (h : Credit ch) : Credit ⟨ch.conn.handshake, ch.history.handshake⟩ := by
  refine ⟨h.conserved.same rfl rfl rfl rfl, h.capacity, h.bounded, h.window, ?_, h.granted.count, h.safe, h.counted⟩
  show ch.conn.txAck + 1 = UInt32.ofNat (ch.history.handshakes + 1 + ch.history.accepted.length)
  rw [h.ack, History.offset, Nat.add_right_comm, UInt32.ofNat_add (_ + _)]
  rfl

/-- A segment tells the device the free space. -/
theorem segment (h : Credit ch) (hstate : ch.conn.state ≠ .dead) (flags : UInt8) (data : List UInt8) (ok : Bool) :
    Credit ⟨ch.conn, ch.history.segment (ch.conn.tcpHeader flags) data ok⟩ := by
  have hwindow := h.window hstate
  have hcap := h.capacity_le
  have hheld := h.held
  have hfield : (ch.conn.tcpHeader flags).win.toNat = ch.conn.txWin.toNat / 256 :=
    toNat_windowField (show ch.conn.txWin.toNat ≤ 262144 by omega)
  refine ⟨h.conserved.same rfl rfl rfl rfl, h.capacity, h.bounded, h.window, h.ack, ?_, h.safe, ?_⟩
  · show Fifo.Grants _ _ _ (if ok then _ else _)
    cases ok with
    | false => exact h.granted
    | true =>
      refine h.granted.tell h.conserved.queue ?_
      rw [MuxConnection.length_inBytes, hfield]
      omega
  · show (ch.history.counted && decide _) = true
    rw [h.counted, Bool.true_and, decide_eq_true_iff, hfield, hheld, h.capacity]
    exact ⟨h.ack, by omega⟩

/-- The client takes bytes. -/
theorem take (h : Credit ch) {conn : MuxConnection} {size : ℕ} (hle : size ≤ ch.conn.ibSize.toNat)
    (hbuf : conn.inBytes = (ch.conn.consume size).inBytes) (hcap : conn.ibCapacity = ch.conn.ibCapacity)
    (hack : conn.txAck = ch.conn.txAck) (hbound : conn.txWin.toNat ≤ ch.conn.txWin.toNat + size)
    (hwin : conn.state ≠ .dead → ch.conn.state ≠ .dead ∧ conn.txWin.toNat = ch.conn.txWin.toNat + size) :
    Credit ⟨conn, ch.history.write (ch.conn.ibBuf.slice 0 size)⟩ := by
  have hsize : conn.ibSize.toNat = ch.conn.ibSize.toNat - size := by
    rw [← MuxConnection.length_inBytes, hbuf, MuxConnection.length_inBytes, ch.conn.toNat_ibSize_consume hle]
  have hbounded := h.bounded
  refine ⟨h.conserved.take hle hbuf hcap, ?_, ?_, fun halive => ?_, hack.trans h.ack, ?_, h.safe, h.counted⟩
  · show _ = conn.ibCapacity.toNat
    rw [hcap]
    exact h.capacity
  · show conn.txWin.toNat + conn.ibSize.toNat ≤ conn.ibCapacity.toNat
    rw [hcap]
    omega
  · obtain ⟨halive, hwin⟩ := hwin halive
    have hwindow := h.window halive
    show conn.txWin.toNat + conn.ibSize.toNat = conn.ibCapacity.toNat
    rw [hcap]
    omega
  · show Fifo.Grants _ _ conn.ibCapacity.toNat _
    rw [hcap]
    exact h.granted.leave _

/-- A payload is appended. -/
theorem accept (h : Credit ch) {payload : List UInt8} (hstate : ch.conn.state = .connected)
    (hroom : ch.conn.hasRoom payload) (hlen : payload.length ≤ devMru.toNat) :
    Credit ⟨(ch.conn.append payload).refresh, ch.history.accept payload⟩ := by
  have hstep : Channel.Step True ch _ := .accept payload hstate hroom hlen
  have hconserved := h.conserved.step hstep
  have hsize := MuxConnection.toNat_ibSize_append h.conserved.small h.conserved.size_le hlen
  rw [MuxConnection.hasRoom_iff h.conserved.small h.conserved.size_le hlen] at hroom
  have hwindow := h.window (by rw [hstate]; decide)
  have hcap := h.capacity_le
  have hwin : (ch.conn.append payload).txWin.toNat = ch.conn.txWin.toNat - payload.length := by
    have hofNat : (UInt32.ofNat payload.length).toNat = payload.length := by
      rw [UInt32.toNat_ofNat']
      omega
    rw [MuxConnection.append_txWin, UInt32.toNat_sub_of_le, hofNat]
    rw [UInt32.le_iff_toNat_le, hofNat]
    omega
  have hfree : (ch.conn.append payload).txWin.toNat + (ch.conn.append payload).ibSize.toNat =
      ch.conn.ibCapacity.toNat := by
    rw [hwin, hsize]
    omega
  refine ⟨hconserved, h.capacity, hfree.le, fun _ => hfree, ?_, h.granted, fun hobedient => ?_, h.counted⟩
  · show ch.conn.txAck + UInt32.ofNat payload.length =
      UInt32.ofNat (ch.history.handshakes + (ch.history.accepted ++ payload).length)
    rw [h.ack, History.offset, List.length_append, ← Nat.add_assoc, ← UInt32.ofNat_add]
  · exact h.safe (Bool.and_eq_true_iff.mp hobedient).1

/-- A payload that does not fit does not come from a device that keeps to the edges. -/
theorem overflow (h : Credit ch) {payload : List UInt8} (hroom : ¬ ch.conn.hasRoom payload)
    (hlen : payload.length ≤ devMru.toNat) : Credit ⟨ch.conn, ch.history.overflow payload⟩ := by
  refine ⟨h.conserved.same rfl rfl rfl rfl, h.capacity, h.bounded, h.window, h.ack, h.granted, fun hobedient => ?_,
    h.counted⟩
  rw [MuxConnection.hasRoom_iff h.conserved.small h.conserved.size_le hlen] at hroom
  have hedge := of_decide_eq_true (Bool.and_eq_true_iff.mp hobedient).2
  rcases hedge with rfl | hedge
  · exact absurd h.conserved.size_le (by simpa using hroom)
  · have hbelow : ch.history.handshakes + ch.history.accepted.length + payload.length ≤ ch.history.edge := by
      simpa [History.offset] using hedge
    have hfits := h.granted.fits h.conserved.queue hbelow
    rw [MuxConnection.length_inBytes] at hfits
    exact absurd hfits hroom

/-- A connection that has just been made. -/
theorem start (h : Credit ch) (d c : Ptr) (sport dport : UInt16) :
    Credit ⟨.start d c sport dport, ch.history.start⟩ where
  conserved := ⟨Fifo.empty _, UInt32.le_refl _⟩
  capacity := rfl
  bounded := show connInbufSize.toNat + (0 : UInt32).toNat ≤ connInbufSize.toNat by decide
  window := fun _ => rfl
  ack := rfl
  granted := .zero _ _ _
  safe := h.safe
  counted := h.counted

/-- A step keeps the credit. -/
theorem step (h : Credit ch) (hs : Channel.Step reliable ch ch') : Credit ch' := by
  cases hs with
  | quiet conn hflow => exact h.flow hflow
  | start d c sport dport => exact h.start d c sport dport
  | become s hs =>
    refine h.same rfl rfl rfl rfl fun halive hdead => halive ?_
    rw [hdead] at hs
    cases hs
    rfl
  | established conn hstate hflow =>
    have hsent := h.handshake.segment (by simp [hstate]) thAck [] true
    exact hsent.same ((ch.conn.handshake.become .connected).inBytes_flow hflow) (congrArg Flow.ibCapacity hflow)
      (congrArg Flow.txWin hflow) (congrArg Flow.txAck hflow) fun _ => by simp [hstate]
  | unanswered conn hstate hflow => exact (h.handshake.segment (by simp [hstate]) thAck [] false).flow hflow
  | segment flags conn ok hstate hflow => exact (h.segment hstate flags [] ok).flow hflow
  | accept payload hstate hroom hlen => exact h.accept hstate hroom hlen
  | overflow payload _ hroom hlen => exact h.overflow hroom hlen
  | deliver size hpos hle =>
    have hbounded := h.bounded
    have hcap := h.capacity_le
    have hwin : (ch.conn.deliver size).txWin.toNat = ch.conn.txWin.toNat + size := by
      show (ch.conn.txWin + UInt32.ofNat size).toNat = _
      rw [UInt32.toNat_add, UInt32.toNat_ofNat']
      omega
    exact h.take hle rfl rfl rfl hwin.le fun halive => ⟨halive, hwin⟩
  | flush size hstate hpos hle =>
    exact h.take hle rfl rfl rfl (Nat.le_add_right ..) fun halive => absurd hstate halive
  | refresh => exact h.same rfl rfl rfl rfl id
  | free => exact ⟨h.conserved.same rfl rfl rfl rfl, h.capacity, h.bounded, h.window, h.ack, h.granted, h.safe, h.counted⟩

theorem steps (h : Credit ch) (hs : Channel.Steps reliable ch ch') : Credit ch' := by
  induction hs with
  | refl => exact h
  | tail _ hstep ih => exact ih.step hstep

/-- Bytes read from the client do not count. -/
theorem receive (h : Credit ch) (bs : List UInt8) : Credit ⟨ch.conn, ch.history.receive bs⟩ :=
  ⟨h.conserved.same rfl rfl rfl rfl, h.capacity, h.bounded, h.window, h.ack, h.granted, h.safe, h.counted⟩

theorem turn (h : Credit ch) (ht : Channel.Turn reliable ch ch') : Credit ch' := by
  cases ht with
  | step hs => exact h.step hs
  | upload bs conn hstate _ hflow =>
    have hsent := (h.receive bs).segment (by rw [hstate]; decide) thAck bs true
    exact hsent.same ((ch.conn.advance bs.length).inBytes_flow hflow) (congrArg Flow.ibCapacity hflow)
      (congrArg Flow.txWin hflow) (congrArg Flow.txAck hflow) fun _ => by rw [hstate]; decide
  | failedUpload bs conn hstate _ hflow hsteps =>
    exact (((h.receive bs).segment (by rw [hstate]; decide) thAck bs false).flow hflow).steps hsteps

theorem turns (h : Credit ch) (ht : Channel.Turns reliable ch ch') : Credit ch' := by
  induction ht with
  | refl => exact h
  | tail _ hturn ih => exact ih.turn hturn

end Credit

theorem credit_init (p : Ptr) : Credit (World.init.channel p) where
  conserved := conserved_init p
  capacity := rfl
  bounded := show (default : MuxConnection).txWin.toNat + (default : MuxConnection).ibSize.toNat ≤
    (default : MuxConnection).ibCapacity.toNat by decide
  window := fun _ => show (default : MuxConnection).txWin.toNat + (default : MuxConnection).ibSize.toNat =
    (default : MuxConnection).ibCapacity.toNat by decide
  ack := rfl
  granted := .zero _ _ _
  safe := fun _ => rfl
  counted := rfl

/-- In every run the devices are told no more than there is room for. -/
theorem credit_run (env : Env) (ops : List Op) (p : Ptr) : Credit ((run env ops).channel p) :=
  (credit_init p).turns (channel_run env ops p)

/-! ### Connections in use -/

/-- A connection that has been made has an in-buffer of the full size. -/
theorem history_capacity {w : World} {p : Ptr} (h : .start p ∈ w.log) :
    (w.history p).capacity = connInbufSize.toNat := by
  rw [World.history]
  generalize w.log = log at h
  induction log using List.reverseRecOn with
  | nil => cases h
  | append_singleton log e ih =>
    rw [List.foldl_append, List.foldl_cons, List.foldl_nil]
    by_cases he : e.conn? = some p
    · rw [History.note_self he]
      rw [List.mem_append, List.mem_singleton] at h
      cases e with
      | start => rfl
      | accepted p bs => exact ih (h.resolve_right (by simp))
      | overflow p bs => exact ih (h.resolve_right (by simp))
      | _ => exact ih (h.resolve_right (by simp))
    · rw [History.note_other he]
      refine ih ((List.mem_append.mp h).resolve_right fun hlast => he ?_)
      obtain rfl : Event.start p = e := by simpa using hlast
      rfl

/-- A segment of a connection that has counted right. -/
theorem history_counted {log before after : List Event} {p : Ptr} {th : TcpHdr} {data : List UInt8} {ok : Bool}
    (hlog : log = before ++ .segment p th data ok :: after)
    (hcounted : (log.foldl (History.note p) {}).counted = true) :
    let h := before.foldl (History.note p) {}
    th.ack = UInt32.ofNat h.offset ∧ th.win.toNat = (h.capacity - h.held) / 256 := by
  rw [hlog, List.foldl_append, List.foldl_cons] at hcounted
  have hthen := History.good_of_foldl (P := fun h => h.counted = true) (fun _ _ => History.good_of_note.2.1) hcounted
  rw [History.note_self rfl] at hthen
  exact of_decide_eq_true (Bool.and_eq_true_iff.mp hthen).2

/-- A device that sends no byte beyond the greatest edge it has been told never runs into the
overflow branch. Whatever the device does, the window of a connection is the free space of
its in-buffer, the window field does not truncate, and every segment has told the device the
next byte expected and the free space. -/
theorem flow_control (env : Env) (ops : List Op) (p : Ptr) :
    let w := run env ops
    let conn := w.conns p
    ((w.history p).obedient = true → ∀ bs, .overflow p bs ∉ w.log) ∧
      (∀ d ∈ w.deviceList, p ∈ w.connections d →
        conn.txWin.toNat + conn.ibSize.toNat = connInbufSize.toNat ∧
          (conn.txWin >>> 8).toUInt16.toNat = conn.txWin.toNat / 256) ∧
      ∀ before after th data ok, w.log = before ++ .segment p th data ok :: after →
        let h := before.foldl (History.note p) {}
        th.ack = UInt32.ofNat h.offset ∧ th.win.toNat = (h.capacity - h.held) / 256 := by
  have hcredit := credit_run env ops p
  refine ⟨fun hobedient => history_overflowed (hcredit.safe hobedient), fun d hd hp => ?_,
    fun before after th data ok hlog => history_counted hlog hcredit.counted⟩
  have hsteady := steady_run env ops
  obtain ⟨c, hl⟩ := hsteady.tracked.ok.link_of_mem hd hp
  have hwindow : ((run env ops).conns p).txWin.toNat + ((run env ops).conns p).ibSize.toNat =
      ((run env ops).conns p).ibCapacity.toNat := hcredit.window (hsteady.tracked.not_dead hl)
  have hcap : connInbufSize.toNat = ((run env ops).conns p).ibCapacity.toNat :=
    (history_capacity ((ports_run env ops).started d p hp)).symm.trans hcredit.capacity
  refine ⟨hwindow.trans hcap.symm, toNat_windowField ?_⟩
  omega

/-- A run in which the device keeps to the edges, and is taken up on it. -/
theorem flow_control_payload :
    let w := run .asking (connectOps ++ [.tcpInput 1 ⟨80, 1, 1, 1, 0x50, thAck, 1000, 0, 0⟩ [1, 2, 3]])
    (w.history 3).accepted = [1, 2, 3] ∧ (w.history 3).obedient = true ∧ ∀ bs, .overflow 3 bs ∉ w.log := by
  have h := (flow_control .asking
    (connectOps ++ [.tcpInput 1 ⟨80, 1, 1, 1, 0x50, thAck, 1000, 0, 0⟩ [1, 2, 3]]) 3).1
  exact ⟨by decide +kernel, by decide +kernel, h (by decide +kernel)⟩

end Usbmuxd
