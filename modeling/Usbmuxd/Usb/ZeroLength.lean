import Mathlib.Data.List.TakeWhile
import Usbmuxd.Model.Transmit
import Usbmuxd.Usb.Endpoints

/-!
# The packet of no bytes

`usb_send` ends a transfer whose length is a multiple of the packet size of the endpoint with
a packet of no bytes. The packet size comes from the configuration descriptor, where
`usb_configure_mux_interface` takes it from the endpoint as it stands there. A device whose
bulk OUT endpoint says `0` is accepted, and the first packet that is sent to it divides by it.

## The model

* `usbSendTransfers` — `usb_send`: the lengths of the transfers that it starts, and how it ends.
* `ZeroTerminated` — what is promised of every send to a device with this packet size.
* `descriptorAt`, `passed` — the chain of descriptors, cut by their lengths.
* `endpointsBehind`, `lastIn`, `lastOut` — the bulk endpoints behind the first mux interface.
* `Completes`, `OutSized` — the descriptor with which the pair of endpoints is complete, and
  whether the OUT endpoint of that pair has a packet size.

## What is proved

* `transferData_main` — the main thread of `Model.Transmit` goes on to a transfer of no bytes if `usb_send` does.
* `zeroTerminated_iff` — the promise holds for every packet size but `0`.
* `visit_searchAfter`, `muxLoop_completes` — the loop knows the last endpoints of the chain, and
  returns where the pair is complete.
* `zeroTerminated_returns_iff` — the promise holds for a device that is accepted exactly if its
  OUT endpoint has a packet size.
-/

namespace Usbmuxd

/-! ### Sending -/

/-- What `usb_send` is answered. -/
structure SendAnswers where
  /-- Whether `dev->tx.thread` is a handle. -/
  thread : Bool
  /-- `com_plugin_transfer` of the packet. -/
  transfer : Transferred
  /-- Whether `com_plugin_get_transfer_result` succeeds. -/
  result : Bool
  /-- Whether `com_plugin_transfer` of no bytes returns `COM_OK`. -/
  zeroCompleted : Bool
  /-- Whether `com_plugin_get_transfer_result` succeeds for it. -/
  zeroResult : Bool

/-- How `usb_send` ends. -/
inductive SendEnd where
  /-- It returns `iRet`. -/
  | returned (iRet : Int)
  /-- `ExitProcess`. -/
  | exited
  /-- The modulo of `length` by `0`. -/
  | divideByZero
  deriving DecidableEq

/-- `iRet` after the transfer of the packet. -/
def SendAnswers.dataRet (a : SendAnswers) : Int :=
  match a.transfer with
  | .completed => 0
  | .pending => if a.thread then 0 else if a.result then 0 else -1
  | .failed => -1

/-- `iRet` after the transfer of no bytes. -/
def SendAnswers.zeroRet (a : SendAnswers) : Int :=
  if a.zeroCompleted then 0 else if a.thread then 0 else if a.zeroResult then 0 else -1

/-- `usb_send` of a packet of `length` bytes: the lengths of its transfers, and how it ends. -/
def usbSendTransfers (txMaxPacketSize : UInt16) (a : SendAnswers) (length : ℕ) : List ℕ × SendEnd :=
  if a.dataRet ≠ 0 then ([length], .exited)
  else if txMaxPacketSize = 0 then ([length], .divideByZero)
  else if length % txMaxPacketSize.toNat = 0 then ([length, 0], .returned a.zeroRet)
  else ([length], .returned 0)

/-- No send divides by zero, and each one that succeeds starts a transfer of no bytes behind the
packet if the length is a multiple of the packet size, and else no other transfer. -/
def ZeroTerminated (txMaxPacketSize : UInt16) : Prop :=
  txMaxPacketSize ≠ 0 ∧ ∀ (a : SendAnswers) (length : ℕ),
    (usbSendTransfers txMaxPacketSize a length).2 ≠ .divideByZero ∧
    ((usbSendTransfers txMaxPacketSize a length).2 = .returned 0 →
      (usbSendTransfers txMaxPacketSize a length).1 = length :: if txMaxPacketSize.toNat ∣ length then [0] else [])

/-- The promise holds for every packet size but `0`. -/
theorem zeroTerminated_iff {txMaxPacketSize : UInt16} : ZeroTerminated txMaxPacketSize ↔ txMaxPacketSize ≠ 0 := by
  constructor
  · exact fun h => h.1
  · intro hsize
    refine ⟨hsize, fun a length => ?_⟩
    unfold usbSendTransfers
    by_cases hdata : a.dataRet ≠ 0
    · rw [if_pos hdata]
      exact ⟨nofun, nofun⟩
    · rw [if_neg hdata, if_neg hsize]
      by_cases hmultiple : length % txMaxPacketSize.toNat = 0
      · rw [if_pos hmultiple, if_pos (Nat.dvd_of_mod_eq_zero hmultiple)]
        exact ⟨nofun, fun _ => rfl⟩
      · rw [if_neg hmultiple, if_neg fun hdvd => hmultiple (Nat.mod_eq_zero_of_dvd hdvd)]
        exact ⟨nofun, fun _ => rfl⟩

/-- The main thread goes on to the transfer of no bytes, or comes to its end, as `usb_send` does. -/
theorem transferData_main {txMaxPacketSize : UInt16} (hsize : txMaxPacketSize ≠ 0) (a : SendAnswers) (b : Buffer)
    (length : ℕ) {s : Transmit} (hthread : s.thread = a.thread) :
    (s.transferData txMaxPacketSize.toNat b length a.transfer a.result).main =
      match usbSendTransfers txMaxPacketSize a length with
      | (_, .exited) => .exited
      | (lengths, _) => if 0 ∈ lengths.tail then .zero b else .idle := by
  have hafter : ∀ s : Transmit, (s.afterData txMaxPacketSize.toNat b length).main =
      if length % txMaxPacketSize.toNat = 0 then .zero b else .idle := fun _ => rfl
  unfold Transmit.transferData usbSendTransfers SendAnswers.dataRet
  rw [hthread, if_neg hsize]
  cases a.transfer with
  | completed =>
    dsimp only
    rw [hafter]
    split_ifs <;> simp_all
  | pending =>
    cases a.thread with
    | true =>
      dsimp only
      rw [if_pos rfl, hafter]
      split_ifs <;> simp_all
    | false =>
      cases a.result with
      | true =>
        simp only [Bool.false_eq_true, if_false, if_true, hafter]
        split_ifs <;> simp_all
      | false => simp
  | failed => simp

/-! ### The chain of descriptors -/

/-- Where a descriptor begins. -/
def descriptorOffset (m : Mem) : ℕ → ℕ
  | 0 => sizeofConfigurationDescriptor
  | n + 1 => descriptorOffset m n + (bLength (m.shift (descriptorOffset m n))).toNat

/-- A descriptor, with what lies behind it. -/
def descriptorAt (m : Mem) (n : ℕ) : Mem := m.shift (descriptorOffset m n)

/-- The first `n` descriptors. -/
def passed (m : Mem) (n : ℕ) : List Mem := (List.range n).map (descriptorAt m)

/-- An interface of the mux protocol, with two endpoints. -/
def IsMuxInterface (d : Mem) : Prop :=
  bDescriptorType d = usbInterfaceDescriptorType ∧ bInterfaceClass d = interfaceClass ∧
    bInterfaceSubClass d = interfaceSubclass ∧ bInterfaceProtocol d = interfaceProtocol ∧ bNumEndpoints d = 2

/-- A bulk endpoint. -/
def IsBulkEndpoint (d : Mem) : Prop :=
  bDescriptorType d = usbEndpointDescriptorType ∧ bmAttributes d = usbEndpointTypeBulk

/-- The direction of an endpoint. -/
def isInEndpoint (d : Mem) : Bool := usbEndpointDirectionIn (bEndpointAddress d)

instance : DecidablePred IsMuxInterface := fun _ => inferInstanceAs (Decidable (_ ∧ _))
instance : DecidablePred IsBulkEndpoint := fun _ => inferInstanceAs (Decidable (_ ∧ _))

/-- The bulk endpoints behind the first mux interface. -/
def endpointsBehind (ds : List Mem) : List Mem := (ds.dropWhile (¬ IsMuxInterface ·)).filter (IsBulkEndpoint ·)

/-- The last IN endpoint. -/
def lastIn (ds : List Mem) : Option Mem := ((endpointsBehind ds).filter isInEndpoint).getLast?

/-- The last OUT endpoint. -/
def lastOut (ds : List Mem) : Option Mem := ((endpointsBehind ds).filter (!isInEndpoint ·)).getLast?

/-- The last endpoint of each direction; what was in `info` where there is none. -/
def infoAfter (info : InstanceInfo) (ds : List Mem) : InstanceInfo where
  epIn := (lastIn ds).elim info.epIn bEndpointAddress
  epOut := (lastOut ds).elim info.epOut bEndpointAddress
  txMaxPacketSize := (lastOut ds).elim info.txMaxPacketSize wMaxPacketSize

/-- Descriptor `n` is a bulk endpoint behind a mux interface, and behind it the last endpoints of both directions
have addresses. -/
structure Completes (m : Mem) (info : InstanceInfo) (n : ℕ) : Prop where
  endpoint : IsBulkEndpoint (descriptorAt m n)
  behind : ∃ d ∈ passed m n, IsMuxInterface d
  pair : (infoAfter info (passed m (n + 1))).isComplete = true

/-- Of the first pair that is complete, the OUT endpoint has a packet size. -/
def OutSized (m : Mem) (info : InstanceInfo) : Prop :=
  ∀ n, Completes m info n → (∀ k < n, ¬ Completes m info k) →
    (lastOut (passed m (n + 1))).elim info.txMaxPacketSize wMaxPacketSize ≠ 0

section Chain

variable {m : Mem} {info info' : InstanceInfo} {d : Mem} {ds : List Mem} {n rounds : ℕ}

theorem passed_succ (m : Mem) (n : ℕ) : passed m (n + 1) = passed m n ++ [descriptorAt m n] := by
  rw [passed, List.range_succ, List.map_append]
  rfl

/-- An interface is no endpoint. -/
theorem IsBulkEndpoint.not_mux (h : IsBulkEndpoint d) : ¬ IsMuxInterface d := by
  rintro ⟨hinterface, -⟩
  rw [h.1] at hinterface
  exact absurd hinterface (by decide)

/-- One more descriptor adds itself, if it is a bulk endpoint behind a mux interface. -/
theorem endpointsBehind_concat (ds : List Mem) (d : Mem) : endpointsBehind (ds ++ [d]) =
    if (∃ x ∈ ds, IsMuxInterface x) ∧ IsBulkEndpoint d then endpointsBehind ds ++ [d] else endpointsBehind ds := by
  unfold endpointsBehind
  by_cases hmux : ∃ x ∈ ds, IsMuxInterface x
  · have hrest : ds.dropWhile (¬ IsMuxInterface ·) ≠ [] := by
      obtain ⟨x, hx, hxmux⟩ := hmux
      intro hnil
      exact (by simpa using List.dropWhile_eq_nil_iff.mp hnil x hx : ¬ IsMuxInterface x) hxmux
    rw [List.dropWhile_append, if_neg (by simpa using hrest), List.filter_append]
    by_cases hbulk : IsBulkEndpoint d
    · rw [if_pos ⟨hmux, hbulk⟩, List.filter_cons_of_pos (by simpa using hbulk), List.filter_nil]
    · rw [if_neg fun h => hbulk h.2, List.filter_cons_of_neg (by simpa using hbulk), List.filter_nil, List.append_nil]
  · have hnil : ds.dropWhile (¬ IsMuxInterface ·) = [] :=
      List.dropWhile_eq_nil_iff.mpr fun x hx => by simpa using fun h => hmux ⟨x, hx, h⟩
    rw [List.dropWhile_append, if_pos (by simpa using hnil), if_neg fun h => hmux h.1, hnil]
    by_cases hd : IsMuxInterface d
    · have hnot : ¬ IsBulkEndpoint d := fun h => h.not_mux hd
      rw [List.dropWhile_cons_of_neg (by simpa using hd), List.filter_cons_of_neg (by simpa using hnot)]
    · rw [List.dropWhile_cons_of_pos (by simpa using hd), List.dropWhile_nil]

/-- So `info` is what the loop stores. -/
theorem infoAfter_concat (info : InstanceInfo) (ds : List Mem) (d : Mem) : infoAfter info (ds ++ [d]) =
    if (∃ x ∈ ds, IsMuxInterface x) ∧ IsBulkEndpoint d then
      (infoAfter info ds).store (bEndpointAddress d) (wMaxPacketSize d)
    else infoAfter info ds := by
  unfold infoAfter lastIn lastOut
  rw [endpointsBehind_concat]
  split
  · unfold InstanceInfo.store
    rw [List.filter_append, List.filter_append]
    cases hin : isInEndpoint d with
    | true =>
      rw [List.filter_cons_of_pos hin, List.filter_cons_of_neg (by simp [hin]), List.filter_nil, List.filter_nil,
        List.append_nil, List.getLast?_concat, if_pos (show usbEndpointDirectionIn _ = true from hin)]
      rfl
    | false =>
      rw [List.filter_cons_of_neg (by simp [hin]), List.filter_cons_of_pos (by simp [hin]), List.filter_nil,
        List.filter_nil, List.append_nil, List.getLast?_concat, if_neg (by simpa [isInEndpoint] using hin)]
      rfl
  · rfl

/-- What the loop knows behind some descriptors. -/
def searchAfter (info : InstanceInfo) (ds : List Mem) : Search :=
  ⟨decide (∃ x ∈ ds, IsMuxInterface x), infoAfter info ds⟩

/-- A round of the loop. -/
theorem visit_searchAfter (info : InstanceInfo) (ds : List Mem) (d : Mem) : (searchAfter info ds).visit d =
    (searchAfter info (ds ++ [d]), decide ((∃ x ∈ ds, IsMuxInterface x) ∧ IsBulkEndpoint d ∧
      (infoAfter info (ds ++ [d])).isComplete = true)) := by
  have hfound : (∃ x ∈ ds ++ [d], IsMuxInterface x) ↔ (∃ x ∈ ds, IsMuxInterface x) ∨ IsMuxInterface d := by
    simp only [List.mem_append, List.mem_singleton, or_and_right, exists_or, exists_eq_left]
  unfold searchAfter
  rw [infoAfter_concat]
  simp only [hfound]
  by_cases hmux : IsMuxInterface d
  · have hbulk : ¬ IsBulkEndpoint d := fun h => h.not_mux hmux
    obtain ⟨hinterface, hclass, hsub, hproto, hcount⟩ := id hmux
    rw [Search.visit, if_pos hinterface, if_pos ⟨hclass, hsub, hproto⟩, if_pos hcount]
    simp [hmux, hbulk]
  · by_cases hbulk : IsBulkEndpoint d
    · have hinterface : bDescriptorType d ≠ usbInterfaceDescriptorType := by
        rw [hbulk.1]
        decide
      rw [Search.visit, if_neg hinterface, if_pos hbulk.1]
      by_cases hbefore : ∃ x ∈ ds, IsMuxInterface x
      · rw [if_pos (by simpa using hbefore), if_pos hbulk.2]
        simp [hbefore, hbulk, hmux]
      · rw [if_neg (by simpa using hbefore)]
        simp [hbefore, hmux]
    · have hnothing : ∀ s : Search, s.visit d = (s, false) := by
        intro s
        unfold Search.visit
        split_ifs with hinterface hclass hcount hendpoint hflag htype
        · exact absurd ⟨hinterface, hclass.1, hclass.2.1, hclass.2.2, hcount⟩ hmux
        · rfl
        · rfl
        · exact absurd ⟨hendpoint, htype⟩ hbulk
        · rfl
        · rfl
        · rfl
      rw [hnothing]
      simp [hmux, hbulk]

/-- Where the function returns `true`, the pair of endpoints is complete for the first time. -/
theorem muxLoop_completes
    (h : muxLoop m rounds ⟨descriptorOffset m n, searchAfter info (passed m n)⟩ = some (true, info')) :
    ∃ k, n ≤ k ∧ Completes m info k ∧ (∀ j, n ≤ j → j < k → ¬ Completes m info j) ∧
      info' = infoAfter info (passed m (k + 1)) := by
  induction rounds generalizing n with
  | zero => cases h
  | succ rounds ih =>
    have hvisit := visit_searchAfter info (passed m n) (descriptorAt m n)
    rw [← passed_succ] at hvisit
    rw [muxLoop] at h
    dsimp only at h
    rw [show m.shift (descriptorOffset m n) = descriptorAt m n from rfl, hvisit] at h
    dsimp only at h
    split at h
    · cases h
    · split at h
      · rename_i hdone
        obtain ⟨hbehind, hendpoint, hpair⟩ := of_decide_eq_true hdone
        cases h
        exact ⟨n, le_refl n, ⟨hendpoint, hbehind, hpair⟩, fun j hle hlt => absurd hlt (Nat.not_lt.mpr hle), rfl⟩
      · rename_i hdone
        have hnot : ¬ Completes m info n := fun hc => hdone (decide_eq_true ⟨hc.behind, hc.endpoint, hc.pair⟩)
        obtain ⟨k, hle, hk, hfirst, hinfo⟩ := ih (n := n + 1) h
        refine ⟨k, Nat.le_of_succ_le hle, hk, fun j hj hlt => ?_, hinfo⟩
        rcases Nat.eq_or_lt_of_le hj with rfl | hj
        · exact hnot
        · exact hfirst j hj hlt

/-- **A device that is accepted can be sent to exactly if its OUT endpoint has a packet size**: the last bulk OUT
endpoint up to the endpoint that completes the pair. -/
theorem zeroTerminated_returns_iff (m : Mem) (info info' : InstanceInfo) (h : Returns m info (true, info')) :
    ZeroTerminated info'.txMaxPacketSize ↔ OutSized m info := by
  obtain ⟨rounds, h⟩ := h
  obtain ⟨k, -, hk, hfirst, rfl⟩ := muxLoop_completes (n := 0) h
  rw [zeroTerminated_iff]
  constructor
  · intro hsize n hn hbefore
    -- there is one descriptor that completes the first pair
    have heq : n = k := by
      rcases Nat.lt_trichotomy n k with hlt | heq | hlt
      · exact absurd hn (hfirst n (Nat.zero_le n) hlt)
      · exact heq
      · exact absurd hk (hbefore k hlt)
    exact heq ▸ hsize
  · intro hsized
    exact hsized k hk fun j hlt => hfirst j (Nat.zero_le j) hlt

end Chain

/-- The configuration of a mux interface with its two endpoints: the promise holds for it. -/
theorem zeroTerminated_returns_iff_mux : ZeroTerminated 512 ↔ OutSized (.ofBytes muxConfiguration) .cleared :=
  zeroTerminated_returns_iff (.ofBytes muxConfiguration) .cleared ⟨0x81, 4, 512⟩ ⟨3, by decide⟩

/-- The same configuration with an OUT endpoint whose packet size is `0`. -/
def unsizedConfiguration : List UInt8 :=
  [9, 2, 32, 0, 1, 1, 0, 0x80, 50] ++ [9, 4, 0, 0, 2, 255, 254, 2, 0] ++ [7, 5, 0x81, 2, 0, 2, 0] ++
    [7, 5, 4, 2, 0, 0, 0]

/-- It is accepted, and then nothing can be sent. -/
theorem not_zeroTerminated_unsized : ¬ ∀ (m : Mem) (info' : InstanceInfo), Returns m .cleared (true, info') →
    ZeroTerminated info'.txMaxPacketSize := by
  intro h
  exact (h (.ofBytes unsizedConfiguration) ⟨0x81, 4, 0⟩ ⟨3, by decide⟩).1 rfl

end Usbmuxd
