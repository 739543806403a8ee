import Usbmuxd.Registry.Ports
import Usbmuxd.Runs.Identity
import Usbmuxd.Streams.AtRest

/-!
# Connections do not disturb each other

The ports of the connections on a device stay different, so a segment is for one of them at
most; and whatever comes of it stays with that connection and its client, down to the teardown of
both. The same holds of what the client of a connection has its readiness lead to.

## The model

* `Untouched` — a connection and its client are as they were before a step.

## What is proved

* `confined_deviceTcpInput`, `confined_clientReady` — the two operations that work for a connection.
* `connections_isolated` — after every run, for every segment and every connection's client.
-/

namespace Usbmuxd

open World Relation

/-- Connection `p` of device `d` and its client `c` are as they were, and so is all that has been said about them. -/
structure Untouched (d p c : Ptr) (w w' : World) : Prop where
  conn : w'.conns p = w.conns p
  client : w'.clients c = w.clients c
  listed : p ∈ w'.connections d
  clientListed : c ∈ w'.clientList
  history : w'.history p = w.history p
  mail : w'.mail c = w.mail c

section Steps

variable {env : Env} {P C : Ptr → Prop} {w w' : World} {d p c : Ptr}

theorem Confined.untouched (h : Confined P C w w') (ht : Tracked env w) (hl : w.registry.Link d p c) (hp : ¬ P p)
    (hc : ¬ C c) : Untouched d p c w w' :=
  ⟨h.conns p hp, h.clients c hc, (h.connections d p hp).mpr hl.conn,
    (h.clientList c hc).mpr (ht.ok.link_client hl).1, h.history hp, h.mail hc⟩

/-- A segment stays with the connection it is for. -/
theorem confined_deviceTcpInput (ht : Tracked env w) (hd : d ∈ w.deviceList) (th : TcpHdr) (payload : List UInt8)
    (hfor : ∀ p c, w.registry.Link d p c → th.dport = (w.conns p).sport → th.sport = (w.conns p).dport → P p ∧ C c) :
    Confined P C (w.emit (.tcpInput d th payload)) (deviceTcpInput env d th payload w) := by
  have hreg : (w.emit (.tcpInput d th payload)).registry = w.registry := registry_emit w rfl
  unfold deviceTcpInput
  dsimp only
  split
  · exact .refl _
  · split
    · split
      · exact .refl _
      · have hrst : Confined P C (w.emit (.tcpInput d th payload)) _ := .sendPacket env d .tcp
          (TcpHdr.bytes ⟨th.dport, th.sport, 0, th.seq, 0x50, thRst, 0, 0, 0⟩) [] _
        split
        · exact hrst
        · exact hrst.trans (.emit (Confined.about_fault _) _)
    · rename_i p hfound
      have hmem : p ∈ w.connections d := SlotTable.find?_mem hfound
      obtain ⟨hsport, hdport⟩ : (w.conns p).sport = th.dport ∧ (w.conns p).dport = th.sport := by
        simpa using SlotTable.find?_pred hfound
      obtain ⟨c, hl⟩ := ht.ok.link_of_mem hd hmem
      obtain ⟨hp, hc⟩ := hfor p c hl hsport.symm hdport.symm
      have hhear : Confined P C (w.emit (.tcpInput d th payload)) _ := .setConn hp (·.hear th) _
      have hbound : Bound p c ((w.emit (.tcpInput d th payload)).setConn p (·.hear th)) :=
        ((ht.bound hl).same hreg).setConn rfl
      split
      · exact hhear.trans (.connectingInput hbound hp hc th)
      · exact hhear.trans (.connectedInput hbound hp hc th payload)
      · exact hhear

/-- What the readiness of a connection's client leads to stays with the two of them. -/
theorem confined_clientReady (ht : Tracked env w) (hl : w.registry.Link d p c) (events : Events) :
    Confined (Eq p) (Eq c) w (clientReady env c events w) := by
  have hbound := ht.bound hl
  have hlookup : ∀ q, w.registry.lookup (w.clients c).connectDevice c = some q → p = q :=
    fun q hfound => (hbound.lookup q hfound).symm
  unfold clientReady
  split
  · split
    · refine .deviceClientProcess (fun q hfound => ?_) rfl events
      obtain rfl := hlookup q hfound
      exact ⟨hbound, rfl⟩
    · split
      · exact .processRecv rfl hlookup fun hstate => ht.unlinked hstate d p hl
      · exact .processSend rfl hlookup
  · exact .refl w

/-- A segment leaves the connections alone that it is not addressed to. -/
theorem untouched_deviceTcpInput (ht : Tracked env w) (hd : d ∈ w.deviceList) (th : TcpHdr) (payload : List UInt8)
    {d' : Ptr} (hl : w.registry.Link d' p c)
    (hother : ¬ (d' = d ∧ th.dport = (w.conns p).sport ∧ th.sport = (w.conns p).dport)) :
    Untouched d' p c w (deviceTcpInput env d th payload w) := by
  have hreg : (w.emit (.tcpInput d th payload)).registry = w.registry := registry_emit w rfl
  have hcalled : Tracked env (w.emit (.tcpInput d th payload)) :=
    ht.same hreg (DeviceBlock.call (.tcpInput d th payload) w rfl).one.turns
  have hstep : Confined (· ≠ p) (· ≠ c) (w.emit (.tcpInput d th payload)) (deviceTcpInput env d th payload w) := by
    refine confined_deviceTcpInput ht hd th payload fun q c' hl' hsport hdport => ⟨?_, ?_⟩
    · rintro rfl
      exact hother ⟨(ht.ok.conn_dev d' hl.device q hl.conn).symm.trans (ht.ok.conn_dev d hl'.device q hl'.conn),
        hsport, hdport⟩
    · rintro rfl
      obtain rfl := ht.ok.unique d' p d q c' hl hl'
      exact hother ⟨(ht.ok.conn_dev d' hl.device p hl.conn).symm.trans (ht.ok.conn_dev d hl'.device p hl'.conn),
        hsport, hdport⟩
  have huntouched := hstep.untouched hcalled (hreg.symm ▸ hl) (not_not.mpr rfl) (not_not.mpr rfl)
  exact { huntouched with
    history := huntouched.history.trans
      ((history_emit ..).trans (History.note_other (by simp [Event.conn?]) _))
    mail := huntouched.mail.trans (mail_emit_none w rfl c) }

end Steps

/-! ### Runs -/

/-- After every run the connections of a device have different ports, and each keeps its ports and its client
whatever comes. A segment changes nothing of a connection that it is not addressed to, and the
readiness of a connection's client nothing of another connection, nor of their clients; of the devices nothing
changes but the counters of their packets and their lists of connections. -/
theorem connections_isolated (env : Env) (ops : List Op) :
    let w := run env ops
    (∀ d, ∀ p ∈ w.connections d, ∀ q ∈ w.connections d, q ≠ p → (w.conns q).sport ≠ (w.conns p).sport) ∧
      (∀ d, ∀ p ∈ w.connections d, ∀ ops', (w.conns p).Keeps ((run env (ops ++ ops')).conns p)) ∧
      (∀ d th payload, let w' := run env (ops ++ [.tcpInput d th payload])
        w'.deviceList = w.deviceList ∧ (∀ d', (w'.devs d').kept = (w.devs d').kept) ∧
          ∀ d' p c, w.registry.Link d' p c →
            ¬ (d' = d ∧ th.dport = (w.conns p).sport ∧ th.sport = (w.conns p).dport) → Untouched d' p c w w') ∧
      ∀ d p c events, w.registry.Link d p c → let w' := run env (ops ++ [.clientReady c events])
        w'.deviceList = w.deviceList ∧ (∀ d', (w'.devs d').kept = (w.devs d').kept) ∧
          ∀ d' p' c', w.registry.Link d' p' c' → p' ≠ p → Untouched d' p' c' w w' := by
  intro w
  have ht : Tracked env w := (steady_run env ops).tracked
  have hports := ports_run env ops
  refine ⟨hports.distinct, fun d p hp ops' => ?_, fun d th payload => ?_, fun d p c events hl => ?_⟩
  · exact (turns_run env ops ops').keeps (hports.born p (hports.started d p hp))
  · have hexec : run env (ops ++ [.tcpInput d th payload]) = exec env w (.tcpInput d th payload) := run_append ..
    rw [hexec]
    simp only [exec]
    split
    · rename_i hd
      have hstep : Confined (fun _ => True) (fun _ => True) (w.emit (.tcpInput d th payload)) _ :=
        confined_deviceTcpInput ht hd.1 th payload fun _ _ _ _ _ => ⟨trivial, trivial⟩
      exact ⟨hstep.deviceList, hstep.devs, fun d' p c hl => untouched_deviceTcpInput ht hd.1 th payload hl⟩
    · refine ⟨rfl, fun _ => rfl, fun d' p c hl _ => ?_⟩
      exact (Confined.refl (P := fun _ => False) (C := fun _ => False) w).untouched ht hl id id
  · have hexec : run env (ops ++ [.clientReady c events]) = clientReady env c events w :=
      (run_append ..).trans (if_pos (ht.ok.link_client hl).1)
    rw [hexec]
    have hstep := confined_clientReady ht hl events
    refine ⟨hstep.deviceList, hstep.devs, fun d' p' c' hl' hp' => hstep.untouched ht hl' (Ne.symm hp') ?_⟩
    rintro rfl
    exact hp' (ht.ok.unique d' p' d p c hl' hl)

/-- A segment for other ports leaves the connection of the example alone. -/
theorem connections_isolated_stray :
    Untouched 1 3 2 (run .asking connectOps)
      (run .asking (connectOps ++ [.tcpInput 1 ⟨80, 2, 0, 1, 0x50, thAck, 1000, 0, 0⟩ [1, 2, 3]])) := by
  refine ((connections_isolated .asking connectOps).2.2.1 1 ⟨80, 2, 0, 1, 0x50, thAck, 1000, 0, 0⟩ [1, 2, 3]).2.2 1 3 2
    ⟨?_, ?_, ?_⟩ ?_
  all_goals decide +kernel

end Usbmuxd
