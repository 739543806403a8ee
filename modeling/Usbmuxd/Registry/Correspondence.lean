import Usbmuxd.Registry.Refinement

/-!
# Connections and clients

A connection and its client are advanced by different events: the client by its commands
and its socket, the connection by the device's segments. This module says that they stay
together.

## What is proved

* `oneToOne_run` — between the operations of every run in which allocations succeed, the
  connections on the devices' lists and the clients that wait for one or have one belong
  to each other one to one, and their states agree.

## Honest scope

A request for a device that has not sent its version uses a list that has not been
initialised; the model stops there (`Fault.uninitConnections`), and so do the lists.
Sends to the device may fail.
-/

namespace Usbmuxd

open World

/-- A connection on the list of a device on the list. -/
structure Live (w : World) (d p : Ptr) : Prop where
  device : d ∈ w.deviceList
  conn : p ∈ w.connections d

/-- Connections and clients belong to each other one to one, and their states agree. -/
structure OneToOne (w : World) : Prop where
  /-- A connection has a client, which is on the list and has asked for the connection's device. -/
  client : ∀ d p, Live w d p → ∃ c ∈ w.clientList, (w.conns p).client = some c ∧
    (w.devs (w.conns p).dev).id = (w.clients c).connectDevice
  /-- No two connections share a client. -/
  unique : ∀ d p d' p', Live w d p → Live w d' p' → (w.conns p).client = (w.conns p').client → p = p'
  /-- A connection is being made when its client waits for it. -/
  connecting : ∀ d p c, Live w d p → (w.conns p).client = some c →
    ((w.conns p).state = .connecting ↔ (w.clients c).state = .connecting1)
  /-- A connection is established when its client has it, or waits for its reply to be sent. -/
  connected : ∀ d p c, Live w d p → (w.conns p).client = some c →
    ((w.conns p).state = .connected ↔ (w.clients c).state = .connecting2 ∨ (w.clients c).state = .connected)
  /-- A client that waits for a connection or has one has exactly one. -/
  owned : ∀ c ∈ w.clientList,
    (w.clients c).state = .connecting1 ∨ (w.clients c).state = .connecting2 ∨ (w.clients c).state = .connected →
      ∃! p, ∃ d, Live w d p ∧ (w.conns p).client = some c

/-- With memory to be had, a registry that is in order is one to one. -/
theorem Registry.Ok.oneToOne {reliable : Prop} {w : World} (h : w.registry.Ok reliable none) (hrel : reliable) :
    OneToOne w where
  client d p hp := by
    obtain ⟨c, hl⟩ := h.link_of_mem hp.device hp.conn
    obtain ⟨hmem, hid, -⟩ := h.link_client hl
    have hdev : (w.conns p).dev = d := h.conn_dev d hp.device p hp.conn
    exact ⟨c, hmem, hl.client, by rw [hdev]; exact hid.symm⟩
  unique d p d' p' hp hp' heq := by
    obtain ⟨c, hl⟩ := h.link_of_mem hp.device hp.conn
    exact h.unique d p d' p' c hl ⟨hp'.device, hp'.conn, heq.symm.trans hl.client⟩
  connecting d p c hp hc := (h.link_client ⟨hp.device, hp.conn, hc⟩).2.2.connecting_iff
  connected d p c hp hc := (h.link_client ⟨hp.device, hp.conn, hc⟩).2.2.connected_iff
  owned c hc hstate := by
    have hneeds : NeedsConn reliable (w.registry.clients c).state := by
      rcases hstate with hs | hs | hs
      · exact .inr (.inr ⟨hrel, hs⟩)
      · exact .inl hs
      · exact .inr (.inl hs)
    obtain ⟨d, p, hl⟩ := h.owned c hc (by simp) hneeds
    refine ⟨p, ⟨d, ⟨hl.device, hl.conn⟩, hl.client⟩, ?_⟩
    rintro p' ⟨d', hp', hc'⟩
    exact h.unique d' p' d p c ⟨hp'.device, hp'.conn, hc'⟩ hl

/-- Connections and clients stay together in every run in which allocations succeed. -/
theorem oneToOne_run {env : Env} (hrel : env.Reliable) (ops : List Op) : OneToOne (run env ops) :=
  (steady_run env ops).tracked.ok.oneToOne hrel

set_option maxRecDepth 10000 in
/-- The run of a client that connects: connection `3` is there, and is the client's. -/
theorem oneToOne_connectOps :
    (3 ∈ (run Env.asking connectOps).connections 1 ∧ ((run Env.asking connectOps).conns 3).client = some 2) ∧
      OneToOne (run Env.asking connectOps) :=
  ⟨by decide +kernel, oneToOne_run ⟨fun _ => rfl, fun _ _ => rfl⟩ connectOps⟩

end Usbmuxd
