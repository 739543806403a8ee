import Usbmuxd.Registry.Refinement

/-!
# Every record is released once

`client_close` and `connection_teardown` free each other's records, and stop the
recursion by three different marks: `CONN_DEAD`, `CLIENT_DEAD` and the test for a
connection that is still being made. This module says what they achieve.

## What is proved

* `releasedOnce_iff` — a run ends with every record released at most once, no released
  record on a list and the recursion never cut short, if and only if no client dies in it
  between the device's answer and the reply to its connect request.

## Honest scope

After a client has been released twice the model goes on with its lists intact; what a
second `free` does to the heap is not modelled.
-/

namespace Usbmuxd

open World

/-- Connections, clients and sockets are released at most once, nothing that has been
released is on a list, and the teardown has always come to its end. -/
structure ReleasedOnce (w : World) : Prop where
  conn : ∀ p, w.log.count (.freeConn p) ≤ 1
  client : ∀ c, w.log.count (.freeClient c) ≤ 1
  socket : ∀ c, w.log.count (.closeSocket c) ≤ 1
  clientList : ∀ c ∈ w.clientList, Event.freeClient c ∉ w.log
  connections : ∀ d ∈ w.deviceList, ∀ p ∈ w.connections d, Event.freeConn p ∉ w.log
  teardown : Event.outOfFuel .teardown ∉ w.log
  flush : Event.outOfFuel .flush ∉ w.log

section Runs

variable {env : Env} {w : World} {ops : List Op}

theorem releasedOnce_init : World.init.registry.ReleasedOnce :=
  ⟨fun _ => Nat.zero_le _, fun _ => Nat.zero_le _, fun _ => Nat.zero_le _, fun _ => Nat.zero_le _⟩

/-- A client that dies in the exception is released a second time. -/
theorem count_freeClient_dies (h : Steady env w) {op : Op} (hdies : DiesMidConnect env w op) :
    ∃ c, 2 ≤ (exec env w op).log.count (.freeClient c) := by
  obtain ⟨d, p, c, e, e₁, e₂, -, hreg⟩ := registry_exec_dies h hdies
  have hcount := congrFun (congrArg Registry.freedClient hreg) c
  simp only [registry_freedClient, Registry.dropClient_freedClient, Function.update_self] at hcount
  exact ⟨c, by omega⟩

/-- Every record is released once in exactly the runs in which no client dies between the
device's answer and the reply. -/
theorem releasedOnce_iff (env : Env) (ops : List Op) :
    ReleasedOnce (run env ops) ↔ Along env (fun w op => ¬ DiesMidConnect env w op) ops := by
  constructor
  · rintro h before op after rfl hdies
    obtain ⟨c, htwice⟩ := count_freeClient_dies (steady_run env before) hdies
    rw [← run_append] at htwice
    obtain ⟨es, hlog, -⟩ := (turns_run env (before ++ [op]) after).log
    have honce := h.client c
    rw [List.append_cons, hlog, List.count_append] at honce
    omega
  · intro halong
    have hphases := phases_run halong
    have hsteady := steady_run env ops
    have hinit : World.init.registry.Sound env.Reliable := ⟨(steady_init env).tracked.ok, (steady_init env).settled⟩
    have honce := releasedOnce_init.phases hinit hphases
    have hcut := hphases.cutShort
    simp only [registry_cutShort, World.init, List.count_nil] at hcut
    refine ⟨honce.conn, honce.client, honce.socket, fun c hc => ?_, fun d hd p hp => ?_, ?_, ?_⟩
    · exact List.count_eq_zero.mp (hsteady.tracked.ok.client_live c hc).1
    · exact List.count_eq_zero.mp (hsteady.tracked.ok.conn_live d hd p hp)
    · exact List.count_eq_zero.mp (by omega)
    · exact List.count_eq_zero.mp (by omega)

/-! ### The exception happens -/

/-- The client that asks is gone when the reply is sent. -/
def Env.hangingUp : Env where
  __ := asking
  send _ := 0

set_option maxRecDepth 10000 in
/-- A client that hangs up before the reply to its connect request is freed twice. -/
theorem not_releasedOnce_hangingUp :
    ¬ ReleasedOnce (run Env.hangingUp (connectOps ++ [.clientReady 2 ⟨false, true⟩])) := by
  intro h
  have htwice : (run Env.hangingUp (connectOps ++ [.clientReady 2 ⟨false, true⟩])).log.count (.freeClient 2) = 2 := by
    decide +kernel
  have honce := h.client 2
  omega

end Runs

end Usbmuxd
