import Usbmuxd.Runs.Turns

/-!
# A connection stays what it is

A connection keeps the device, the ports and the sizes that it was made with, and it keeps its
client until it loses it. No step gives it another one.

## The model

* `MuxConnection.Keeps` — what stays of a connection.

## What is proved

* `ConnBlock.keeps` — a step keeps it, or makes the connection.
* `Turns.keeps` — so does all that comes after the connection has been made.
-/

namespace Usbmuxd

open World Relation

/-- What a connection keeps of what it was made with; its client it may lose. -/
structure MuxConnection.Keeps (conn conn' : MuxConnection) : Prop where
  dev : conn'.dev = conn.dev
  sport : conn'.sport = conn.sport
  dport : conn'.dport = conn.dport
  maxPayload : conn'.maxPayload = conn.maxPayload
  obCapacity : conn'.obCapacity = conn.obCapacity
  client : conn'.client = conn.client ∨ conn'.client = none

namespace MuxConnection.Keeps

variable {conn conn' conn'' : MuxConnection}

theorem refl (conn : MuxConnection) : conn.Keeps conn := ⟨rfl, rfl, rfl, rfl, rfl, .inl rfl⟩

theorem trans (h : conn.Keeps conn') (h' : conn'.Keeps conn'') : conn.Keeps conn'' := by
  refine ⟨h'.dev.trans h.dev, h'.sport.trans h.sport, h'.dport.trans h.dport, h'.maxPayload.trans h.maxPayload,
    h'.obCapacity.trans h.obCapacity, ?_⟩
  rcases h'.client with hsame | hnone
  · rw [hsame]
    exact h.client
  · exact .inr hnone

end MuxConnection.Keeps

section Steps

variable {env : Env} {w w' : World} {p q : Ptr}

/-- One connection changes, and keeps what it should. -/
theorem keeps_setConn {f : MuxConnection → MuxConnection} (hf : (w.conns p).Keeps (f (w.conns p))) (q : Ptr) :
    (w.conns q).Keeps ((w.setConn p f).conns q) := by
  by_cases hq : q = p
  · subst hq
    rwa [setConn_conns, Function.update_self]
  · rw [setConn_conns, Function.update_of_ne hq]
    exact .refl _

theorem keeps_sendTcp (env : Env) (p : Ptr) (flags : UInt8) (data : List UInt8) (w : World) (q : Ptr) :
    (w.conns q).Keeps ((sendTcp env p flags data w).1.conns q) :=
  ⟨sendTcp_field (f := MuxConnection.dev) env p w (fun _ _ => rfl) q flags data,
    sendTcp_field (f := MuxConnection.sport) env p w (fun _ _ => rfl) q flags data,
    sendTcp_field (f := MuxConnection.dport) env p w (fun _ _ => rfl) q flags data,
    sendTcp_field (f := MuxConnection.maxPayload) env p w (fun _ _ => rfl) q flags data,
    sendTcp_field (f := MuxConnection.obCapacity) env p w (fun _ _ => rfl) q flags data,
    .inl (sendTcp_field (f := MuxConnection.client) env p w (fun _ _ => rfl) q flags data)⟩

/-- A step keeps what it should of a connection, or makes it. -/
theorem ConnBlock.keeps (hb : ConnBlock env w w') (q : Ptr) :
    (w.conns q).Keeps (w'.conns q) ∨ q = w.fresh ∧ ∃ d c sport dport, w'.conns q = .start d c sport dport := by
  have hanswered : ∀ p, (w.conns q).Keeps ((answered p w).conns q) := fun p =>
    keeps_setConn (w := w.emit (.synAck p)) (f := (·.handshake)) ⟨rfl, rfl, rfl, rfl, rfl, .inl rfl⟩ q
  cases hb with
  | packet d proto header data => rw [sendPacket_conns]; exact .inl (.refl _)
  | segment p flags => exact .inl (keeps_sendTcp env p flags [] w q)
  | start d c sport dport =>
    by_cases hq : q = w.fresh
    · subst hq
      exact .inr ⟨rfl, d, c, sport, dport, by rw [allocConn_conns, Function.update_self]⟩
    · rw [allocConn_conns, Function.update_of_ne hq]
      exact .inl (.refl _)
  | hear p th => exact .inl (keeps_setConn ⟨rfl, rfl, rfl, rfl, rfl, .inl rfl⟩ q)
  | established p =>
    have hsent := (hanswered p).trans (keeps_sendTcp env p thAck [] (answered p w) q)
    generalize (sendTcp env p thAck [] (answered p w)).1 = v at hsent ⊢
    exact .inl (hsent.trans (keeps_setConn ⟨rfl, rfl, rfl, rfl, rfl, .inl rfl⟩ q))
  | unanswered p => exact .inl ((hanswered p).trans (keeps_sendTcp env p thAck [] _ q))
  | state p s => exact .inl (keeps_setConn ⟨rfl, rfl, rfl, rfl, rfl, .inl rfl⟩ q)
  | orphan p => exact .inl (keeps_setConn ⟨rfl, rfl, rfl, rfl, rfl, .inr rfl⟩ q)
  | accept p payload =>
    have htaken : (w.conns q).Keeps (((w.emit (.accepted p payload)).setConn p (·.append payload)).conns q) :=
      keeps_setConn (w := w.emit (.accepted p payload)) ⟨rfl, rfl, rfl, rfl, rfl, .inl rfl⟩ q
    exact .inl (htaken.trans (keeps_setConn ⟨rfl, rfl, rfl, rfl, rfl, .inl rfl⟩ q))
  | deliver p c size =>
    exact .inl (keeps_setConn (w := w.tock.emit _) ⟨rfl, rfl, rfl, rfl, rfl, .inl rfl⟩ q)
  | flush p c size => exact .inl (keeps_setConn (w := w.tock.emit _) ⟨rfl, rfl, rfl, rfl, rfl, .inl rfl⟩ q)
  | refresh p => exact .inl (keeps_setConn ⟨rfl, rfl, rfl, rfl, rfl, .inl rfl⟩ q)
  | _ => exact .inl (.refl _)

theorem Block.keeps (hb : Block env w w') (q : Ptr) :
    (w.conns q).Keeps (w'.conns q) ∨ q = w.fresh ∧ ∃ d c sport dport, w'.conns q = .start d c sport dport := by
  cases hb with
  | device hb => rw [hb.frame.conns]; exact .inl (.refl _)
  | traffic hb =>
    cases hb with
    | conn hb => exact hb.keeps q
    | client hb => rw [hb.frame.conns]; exact .inl (.refl _)

theorem Work.keeps (hw : Work env w w') (hq : q < w.fresh) : (w.conns q).Keeps (w'.conns q) ∧ q < w'.fresh := by
  induction hw with
  | refl => exact ⟨.refl _, hq⟩
  | tail _ hb ih =>
    refine ⟨?_, ih.2.trans_le hb.fresh⟩
    rcases hb.keeps q with hkeeps | ⟨hfresh, -⟩
    · exact ih.1.trans hkeeps
    · exact absurd ih.2 (hfresh ▸ lt_irrefl _)

theorem keeps_clientToDevice (env : Env) (p c : Ptr) (w : World) (q : Ptr) :
    (w.conns q).Keeps ((clientToDevice env p c w).1.conns q) := by
  have hread : (clientRead env p c (w.conns p).sendable w).1.conns = w.conns := by
    unfold clientRead
    split
    · rfl
    · dsimp only
      split <;> rfl
  unfold clientToDevice
  dsimp only
  split
  · rw [hread]
    exact .refl _
  · generalize clientRead env p c (w.conns p).sendable w = r at hread ⊢
    have hfill : (w.conns q).Keeps ((r.1.setConn p (·.fill r.2)).conns q) := by
      rw [← hread]
      exact keeps_setConn ⟨rfl, rfl, rfl, rfl, rfl, .inl rfl⟩ q
    have hsent := fun data => hfill.trans (keeps_sendTcp env p thAck data _ q)
    split
    · dsimp only
      exact (hsent _).trans (keeps_setConn ⟨rfl, rfl, rfl, rfl, rfl, .inl rfl⟩ q)
    · exact hsent _

theorem Turn.keeps (ht : Turn env w w') (hq : q < w.fresh) : (w.conns q).Keeps (w'.conns q) := by
  cases ht with
  | block hb => exact (Work.keeps (.single hb) hq).1
  | request c tag id => exact .refl _
  | listen c => exact .refl _
  | upload p c => exact keeps_clientToDevice env p c w q
  | failedUpload p c =>
    have hborn : q < (clientToDevice env p c w).1.fresh :=
      hq.trans_le (congrArg Registry.fresh (registry_clientToDevice env p c w)).ge
    exact (keeps_clientToDevice env p c w q).trans (Work.keeps (traffic_tearDown env p _).work hborn).1

/-- A connection that has been made stays what it is. -/
theorem Turns.keeps (ht : Turns env w w') (hq : q < w.fresh) : (w.conns q).Keeps (w'.conns q) := by
  suffices h : (w.conns q).Keeps (w'.conns q) ∧ q < w'.fresh from h.1
  induction ht with
  | refl => exact ⟨.refl _, hq⟩
  | tail _ hturn ih => exact ⟨ih.1.trans (hturn.keeps ih.2), ih.2.trans_le hturn.fresh⟩

end Steps

end Usbmuxd
