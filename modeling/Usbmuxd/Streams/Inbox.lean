import Usbmuxd.Foundation.Prefixed
import Usbmuxd.Streams.Leftovers

/-!
# Commands from a stream

A client's socket delivers its commands in pieces, and `process_recv` is called again for each of them. It reads a
command in two stages, the header and what lies behind it, and never asks for more than the command has.

## The model

* `commandFormat` — how long a command is, and which lengths are accepted.
* `collect` — `process_recv` up to the call of `client_command`: the bytes that `recv` has delivered, and the buffer
  `client_command` is called with.
* `Listening` — the command buffer of a client holds the beginning of a command.
* `Collects` — what a call can make of what it reads.

## What is proved

* `processRecv_collect` — `process_recv` is `collect` and then `client_command`.
* `Listening.room` — what it asks for fits into the command buffer.
* `collect_listening` — it reads a part of a command, the end of one, or a length that is not accepted.
-/

namespace Usbmuxd

open World

/-! ### Commands -/

/-- A command: its header says how long it is, and the command buffer has room for it. -/
@[simps]
def commandFormat : Prefixed UInt8 where
  header := 16
  size bs := (UsbmuxdHeader.ofBytes bs).length.toNat
  admits n := 16 ≤ n ∧ n ≤ 65536
  decideAdmits := inferInstance
  size_append bs bs' h := by
    have hsame : ((default : Mem).memcpy 0 bs).slice 0 bs.length <+: bs ++ bs' := by
      rw [Mem.slice_memcpy_self]
      exact List.prefix_append ..
    exact congrArg (fun hdr : UsbmuxdHeader => hdr.length.toNat) (header_received hsame h).symm
  header_pos := by decide
  header_le _ h := h.1

/-- What `process_recv` has done when it has read what it can read in one call. -/
structure Collected where
  world : World
  /-- The bytes that `recv` has delivered. -/
  got : List UInt8
  /-- The buffer that `client_command` is called with, if it is called. -/
  command : Option Mem

/-- What `recvCommandBytes` reads. -/
def recvDelivers (env : Env) (c : Ptr) (len : UInt32) (w : World) : List UInt8 :=
  if (w.clients c).ibBuf.isSome then (env.recv w.tick).take len.toNat else []

/-- `processRecvBody`, up to the call of `client_command`. -/
def collectBody (env : Env) (c : Ptr) (didRead : Bool) (w : World) : Collected :=
  let client := w.clients c
  match client.ibBuf with
  | none => ⟨w.emit (.fault .nullIbBuf), [], none⟩
  | some buffer =>
    let length := readLe32 buffer 0
    if client.ibCapacity < length then ⟨closeClient env c w, [], none⟩
    else if length < usbmuxdHeaderSize then ⟨closeClient env c w, [], none⟩
    else if client.ibSize < length then
      if didRead then ⟨w, [], none⟩
      else
        let r := recvCommandBytes env c (length - client.ibSize) w
        let got := recvDelivers env c (length - client.ibSize) w
        if r.2 = 0 then ⟨closeClient env c r.1, got, none⟩
        else if (r.1.clients c).ibSize < length then ⟨r.1, got, none⟩
        else ⟨r.1, got, some ((r.1.clients c).ibBuf.getD default)⟩
    else ⟨w, [], some buffer⟩

/-- `process_recv`, up to the call of `client_command`. -/
def collect (env : Env) (c : Ptr) (w : World) : Collected :=
  let client := w.clients c
  let w := w.emit (.processRecv c client.ibBuf.isSome)
  if client.ibSize < usbmuxdHeaderSize then
    let r := recvCommandBytes env c (usbmuxdHeaderSize - client.ibSize) w
    let got := recvDelivers env c (usbmuxdHeaderSize - client.ibSize) w
    if r.2 = 0 then ⟨closeClient env c r.1, got, none⟩
    else if (r.1.clients c).ibSize < usbmuxdHeaderSize then ⟨r.1, got, none⟩
    else
      let s := collectBody env c true r.1
      ⟨s.world, got ++ s.got, s.command⟩
  else collectBody env c false w

/-- The end of `process_recv`. -/
def Collected.finish (env : Env) (c : Ptr) (s : Collected) : World :=
  match s.command with
  | none => s.world
  | some buffer => runCommand env c buffer s.world

section Collect

variable {env : Env} {c : Ptr} {w : World} {m : Mem} {bs got : List UInt8}

theorem processRecvBody_collect (env : Env) (c : Ptr) (didRead : Bool) (w : World) :
    processRecvBody env c didRead w = (collectBody env c didRead w).finish env c := by
  unfold processRecvBody collectBody
  dsimp only
  cases hbuf : (w.clients c).ibBuf with
  | none => rfl
  | some buffer =>
    dsimp only
    split_ifs <;> rfl

/-- `process_recv` collects a command, and carries it out when it is complete. -/
theorem processRecv_collect (env : Env) (c : Ptr) (w : World) :
    processRecv env c w = (collect env c w).finish env c := by
  unfold processRecv collect
  dsimp only
  split_ifs
  · rfl
  · rfl
  · exact processRecvBody_collect ..
  · exact processRecvBody_collect ..

/-! ### One call -/

/-- A client that is being listened to: its command buffer is there, and holds the beginning of a command. -/
structure Listening (c : Ptr) (w : World) : Prop where
  buffer : (w.clients c).ibBuf.isSome = true
  capacity : (w.clients c).ibCapacity = cmdBufSize
  begun : commandFormat.Begun (w.received c)

/-- The bytes that a call of `process_recv` gets for the command. -/
def arrival (env : Env) (c : Ptr) (w : World) : List UInt8 :=
  (env.recv w.tick).take (commandFormat.asks (w.received c))

theorem not_admits_iff (l : UInt32) : ¬ commandFormat.admits l.toNat ↔ cmdBufSize < l ∨ l < usbmuxdHeaderSize := by
  rw [UInt32.lt_iff_toNat_lt, UInt32.lt_iff_toNat_lt, show cmdBufSize.toNat = 65536 from rfl,
    show usbmuxdHeaderSize.toNat = 16 from rfl, commandFormat_admits]
  omega

/-- The length field in the buffer is that of the bytes received. -/
theorem size_received (hbuf : (w.clients c).ibBuf = some m) (hheader : 16 ≤ (w.received c).length) :
    commandFormat.size (w.received c) = (readLe32 m 0).toNat := by
  rw [length_received] at hheader
  rw [received_some hbuf, commandFormat_size, ← header_received (List.prefix_refl _) hheader]
  rfl

/-- What the second stage does with a length that is not accepted. -/
theorem collectBody_refused (hbuf : (w.clients c).ibBuf = some m) (hcap : (w.clients c).ibCapacity = cmdBufSize)
    (h : commandFormat.Refused (w.received c)) (didRead : Bool) :
    collectBody env c didRead w = ⟨closeClient env c w, [], none⟩ := by
  have hlength := h.admits
  rw [size_received hbuf h.header, not_admits_iff] at hlength
  unfold collectBody
  simp only [hbuf, hcap]
  by_cases hbig : cmdBufSize < readLe32 m 0
  · rw [if_pos hbig]
  · rw [if_neg hbig, if_pos (hlength.resolve_left hbig)]

/-- The second stage with a length that is accepted. -/
theorem collectBody_admitted (hbuf : (w.clients c).ibBuf = some m) (hcap : (w.clients c).ibCapacity = cmdBufSize)
    (hheader : 16 ≤ (w.received c).length) (h : commandFormat.admits (commandFormat.size (w.received c)))
    (didRead : Bool) :
    collectBody env c didRead w =
      if (w.clients c).ibSize < readLe32 m 0 then
        if didRead then ⟨w, [], none⟩
        else
          let r := recvCommandBytes env c (readLe32 m 0 - (w.clients c).ibSize) w
          let got := recvDelivers env c (readLe32 m 0 - (w.clients c).ibSize) w
          if r.2 = 0 then ⟨closeClient env c r.1, got, none⟩
          else if (r.1.clients c).ibSize < readLe32 m 0 then ⟨r.1, got, none⟩
          else ⟨r.1, got, some ((r.1.clients c).ibBuf.getD default)⟩
      else ⟨w, [], some m⟩ := by
  rw [size_received hbuf hheader] at h
  obtain ⟨hbig, hsmall⟩ := not_or.mp ((not_admits_iff _).not.mp (not_not.mpr h))
  unfold collectBody
  simp only [hbuf, hcap]
  rw [if_neg hbig, if_neg hsmall]

/-- When the header has just been read, the rest of the command is left to the next call. -/
theorem collectBody_later (hbuf : (w.clients c).ibBuf = some m) (hcap : (w.clients c).ibCapacity = cmdBufSize)
    (hheader : 16 ≤ (w.received c).length) (h : commandFormat.Begun (w.received c)) :
    collectBody env c true w = ⟨w, [], none⟩ := by
  obtain ⟨hadmits, hmore⟩ := h hheader
  rw [collectBody_admitted hbuf hcap hheader hadmits]
  rw [size_received hbuf hheader, length_received] at hmore
  rw [if_pos (UInt32.lt_iff_toNat_lt.mpr hmore), if_pos rfl]

/-- A command that is no longer than its header is complete with it. -/
theorem collectBody_complete (hbuf : (w.clients c).ibBuf = some m) (hcap : (w.clients c).ibCapacity = cmdBufSize)
    (hheader : 16 ≤ (w.received c).length) (h : commandFormat.Whole (w.received c)) (didRead : Bool) :
    collectBody env c didRead w = ⟨w, [], some m⟩ := by
  have hsize := h.size
  rw [collectBody_admitted hbuf hcap hheader h.admits]
  rw [size_received hbuf hheader, length_received] at hsize
  rw [if_neg (by rw [UInt32.lt_iff_toNat_lt]; omega)]

/-- What a call of `process_recv` that gets `got` makes of what there is then. -/
inductive Collects (env : Env) (c : Ptr) (w : World) (got : List UInt8) : Collected → Prop where
  /-- Nothing has come. -/
  | nothing (h : got = []) : Collects env c w got ⟨closeClient env c (w.receive c got), got, none⟩
  | begun (hne : got ≠ []) (h : commandFormat.Begun (w.received c ++ got)) :
      Collects env c w got ⟨w.receive c got, got, none⟩
  | refused (hne : got ≠ []) (h : commandFormat.Refused (w.received c ++ got)) :
      Collects env c w got ⟨closeClient env c (w.receive c got), got, none⟩
  | whole (hne : got ≠ []) (h : commandFormat.Whole (w.received c ++ got)) :
      Collects env c w got ⟨w.receive c got, got, some (((w.receive c got).clients c).ibBuf.getD default)⟩

/-- A call of `recv` for the command buffer. -/
theorem recvCommandBytes_receive (hbuf : (w.clients c).ibBuf = some m) (len : UInt32) :
    recvCommandBytes env c len (w.emit (.processRecv c true)) =
        (w.receive c ((env.recv w.tick).take len.toNat), ((env.recv w.tick).take len.toNat).length) ∧
      recvDelivers env c len (w.emit (.processRecv c true)) = (env.recv w.tick).take len.toNat := by
  constructor
  · unfold recvCommandBytes
    simp only [emit_clients, emit_tick, hbuf]
    simp [World.receive, MuxClient.receive, setClient, hbuf]
  · unfold recvDelivers
    simp [hbuf]

/-- What a call asks for fits into the command buffer. -/
theorem Listening.room (h : Listening c w) : (w.received c).length + (arrival env c w).length ≤ cmdBufSize.toNat := by
  have hmax : cmdBufSize.toNat = 65536 := rfl
  have hle : (arrival env c w).length ≤ commandFormat.asks (w.received c) := List.length_take_le ..
  have hbegun := h.begun
  unfold Prefixed.Begun at hbegun
  unfold Prefixed.asks at hle
  rw [commandFormat_header] at hbegun hle
  split at hle
  · omega
  · have hsize := hbegun (by omega)
    rw [commandFormat_admits] at hsize
    omega

/-- A call of `process_recv` for a client that is being listened to. -/
theorem collect_listening (h : Listening c w) : Collects env c w (arrival env c w) (collect env c w) := by
  obtain ⟨m, hbuf⟩ := Option.isSome_iff_exists.mp h.buffer
  obtain ⟨husize, hureceived⟩ := received_receive w c (@Listening.room env c w h)
  have hcap : ((w.receive c (arrival env c w)).clients c).ibCapacity = cmdBufSize := by simp [World.receive, h.capacity]
  obtain ⟨b, hubuf⟩ : ∃ b, ((w.receive c (arrival env c w)).clients c).ibBuf = some b := ⟨_, by simp [World.receive]; rfl⟩
  have hbegun := h.begun
  have hcases := Prefixed.receive h.begun (List.length_take_le _ (env.recv w.tick))
  rw [show (env.recv w.tick).take (commandFormat.asks (w.received c)) = arrival env c w from rfl] at hcases
  have hhdr : usbmuxdHeaderSize.toNat = 16 := rfl
  have hheld : (w.clients c).ibSize.toNat = (w.received c).length := length_received.symm
  unfold collect
  simp only [hbuf, Option.isSome_some]
  by_cases hsmall : (w.clients c).ibSize < usbmuxdHeaderSize
  · -- the header is not complete, and the rest of it is asked for
    have hsub : (usbmuxdHeaderSize - (w.clients c).ibSize).toNat = 16 - (w.received c).length := by
      rw [UInt32.toNat_sub_of_le _ _ (UInt32.le_of_lt hsmall), hheld, hhdr]
    have hlt : (w.received c).length < 16 := hheld ▸ UInt32.lt_iff_toNat_lt.mp hsmall
    have hasks : commandFormat.asks (w.received c) = 16 - (w.received c).length := if_pos hlt
    have harrival : (env.recv w.tick).take (usbmuxdHeaderSize - (w.clients c).ibSize).toNat = arrival env c w := by
      rw [hsub, ← hasks]
      rfl
    obtain ⟨hrecv, hdelivers⟩ := @recvCommandBytes_receive env c w m hbuf (usbmuxdHeaderSize - (w.clients c).ibSize)
    rw [harrival] at hrecv hdelivers
    rw [if_pos hsmall, hrecv, hdelivers]
    dsimp only
    by_cases hnone : (arrival env c w).length = 0
    · rw [if_pos hnone]
      exact .nothing (List.eq_nil_of_length_eq_zero hnone)
    have hne : arrival env c w ≠ [] := fun h => hnone (by rw [h]; rfl)
    rw [if_neg hnone]
    by_cases hpart : ((w.receive c (arrival env c w)).clients c).ibSize < usbmuxdHeaderSize
    · rw [if_pos hpart]
      have hshort := UInt32.lt_iff_toNat_lt.mp hpart
      refine .begun hne fun hlong => ?_
      rw [List.length_append, commandFormat_header] at hlong
      omega
    · rw [if_neg hpart]
      have hlong := UInt32.le_iff_toNat_le.mp (UInt32.not_lt.mp hpart)
      have hheader : 16 ≤ ((w.receive c (arrival env c w)).received c).length := by
        rw [hureceived, List.length_append]
        omega
      rw [← hureceived] at hcases
      rcases hcases with hmore | hwhole | hrefused
      · rw [collectBody_later hubuf hcap hheader hmore, List.append_nil]
        exact .begun hne (hureceived ▸ hmore)
      · rw [collectBody_complete hubuf hcap hheader hwhole, List.append_nil]
        exact (show (some b : Option Mem) = some (((w.receive c (arrival env c w)).clients c).ibBuf.getD default) by
          rw [hubuf]; rfl) ▸ .whole hne (hureceived ▸ hwhole)
      · rw [collectBody_refused hubuf hcap hrefused, List.append_nil]
        exact .refused hne (hureceived ▸ hrefused)
  · -- the header is there, so its command has been accepted, and more of it is asked for
    have hlong : 16 ≤ (w.received c).length := hheld ▸ UInt32.le_iff_toNat_le.mp (UInt32.not_lt.mp hsmall)
    obtain ⟨hadmits, hmore⟩ := hbegun hlong
    have hsize := size_received hbuf hlong
    have hlt : (w.clients c).ibSize < readLe32 m 0 := UInt32.lt_iff_toNat_lt.mpr (by omega)
    have hsub : (readLe32 m 0 - (w.clients c).ibSize).toNat = commandFormat.size (w.received c) - (w.received c).length := by
      rw [UInt32.toNat_sub_of_le _ _ (UInt32.le_of_lt hlt), hheld, hsize]
    have hasks : commandFormat.asks (w.received c) = commandFormat.size (w.received c) - (w.received c).length :=
      if_neg (by rw [commandFormat_header]; omega)
    have harrival : (env.recv w.tick).take (readLe32 m 0 - (w.clients c).ibSize).toNat = arrival env c w := by
      rw [hsub, ← hasks]
      rfl
    obtain ⟨hrecv, hdelivers⟩ := @recvCommandBytes_receive env c w m hbuf (readLe32 m 0 - (w.clients c).ibSize)
    rw [harrival] at hrecv hdelivers
    have hgrown : commandFormat.size (w.received c ++ arrival env c w) = (readLe32 m 0).toNat :=
      (commandFormat.size_append _ _ hlong).trans hsize
    have hbody := @collectBody_admitted env c (w.emit (.processRecv c true)) m hbuf h.capacity hlong hadmits false
    rw [emit_clients, if_pos hlt, if_neg Bool.false_ne_true, hrecv, hdelivers] at hbody
    rw [if_neg hsmall, hbody]
    dsimp only
    by_cases hnone : (arrival env c w).length = 0
    · rw [if_pos hnone]
      exact .nothing (List.eq_nil_of_length_eq_zero hnone)
    have hne : arrival env c w ≠ [] := fun h => hnone (by rw [h]; rfl)
    rw [if_neg hnone]
    by_cases hpart : ((w.receive c (arrival env c w)).clients c).ibSize < readLe32 m 0
    · rw [if_pos hpart]
      have hshort := UInt32.lt_iff_toNat_lt.mp hpart
      refine .begun hne fun _ => ⟨?_, ?_⟩
      · rwa [commandFormat.size_append _ _ hlong]
      · rw [hgrown, List.length_append]
        omega
    · rw [if_neg hpart]
      have hall := UInt32.le_iff_toNat_le.mp (UInt32.not_lt.mp hpart)
      refine .whole hne (hcases.elim (fun hbegun => ?_) fun h => h.resolve_right fun hrefused => ?_)
      · have := (hbegun (by rw [List.length_append]; exact Nat.le_add_right_of_le hlong)).2
        rw [hgrown, List.length_append] at this
        omega
      · refine hrefused.admits ?_
        rwa [commandFormat.size_append _ _ hlong]

end Collect

end Usbmuxd
