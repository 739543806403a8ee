import Usbmuxd.Runs.Reachable
import Usbmuxd.Streams.Wakeups

/-!
# The timer for acknowledgements

A connection whose data has not been acknowledged has `CONN_ACK_PENDING`, and
`device_check_timeouts` looks for such connections that have waited too long. There are none:
the call that accepts the data also sends the acknowledgement, or tears the connection down.

## What is proved

* `Fed.calm` — between any two calls every connection on a list is at rest, as after a run.
* `checkTimeouts_idle`, `getTimeout_idle` — where nothing is pending, the two functions of the
  timer do nothing but look at the clock.
* `acks_prompt` — nothing is pending in any reachable state.
-/

namespace Usbmuxd

open World

variable {env : Env} {w : World} {d p : Ptr}

/-- Between any two calls everything holds that holds between operations. -/
theorem Fed.calm (h : Fed env w) : Calm env w := by
  induction h with
  | init => exact calm_init env
  | exec op _ ih => exact calm_exec ih op
  | input u buffer length _ ih => exact calm_deviceDataInput ih u buffer length
  | @tock w _ ih =>
    exact ih.same rfl (ConnBlock.tock w).one.turns (ih.rest.aside (C := fun _ => False) (.tock w) fun _ _ _ _ => id)

/-- No established connection waits for an acknowledgement to be sent. -/
def NothingPending (w : World) : Prop :=
  ∀ d ∈ w.deviceList, ∀ p ∈ w.connections d, (w.conns p).state = .connected →
    (w.conns p).txAcked = (w.conns p).txAck ∧ (w.conns p).ackPending = false

theorem Calm.nothingPending (h : Calm env w) : NothingPending w := by
  intro d hd p hp hstate
  obtain ⟨c, hl⟩ := h.steady.tracked.ok.link_of_mem hd hp
  have hsettled := (h.rest d p c hl).settled hstate
  exact ⟨hsettled.acked, hsettled.noted⟩

/-- A connection for which nothing is pending is not overdue. -/
theorem NothingPending.not_due (h : NothingPending w) (hd : d ∈ w.deviceList) (hp : p ∈ w.connections d) :
    ((w.conns p).state == .connected && (w.conns p).ackPending) = false := by
  cases hstate : (w.conns p).state == .connected with
  | false => rfl
  | true => exact (h d hd p hp (beq_iff_eq.mp hstate)).2

/-- `device_check_timeouts` does nothing but look at the clock. -/
theorem checkTimeouts_idle (h : NothingPending w) (clock : Env) : deviceCheckTimeouts clock w = w.tock := by
  unfold deviceCheckTimeouts
  dsimp only
  refine SlotTable.forEach_induct (P := (· = w.tock)) (fun d v hd hv => ?_) _ _ _ rfl
  subst hv
  split
  · refine SlotTable.forEach_induct (P := (· = w.tock)) (fun p v hp hv => ?_) _ _ _ rfl
    subst hv
    have hidle : ((w.tock.conns p).ackOverdue (clock.mstime64 w.tick)) = false := by
      unfold MuxConnection.ackOverdue
      rw [show ((w.tock.conns p).state == .connected && (w.tock.conns p).ackPending) = false from h.not_due hd hp]
      rfl
    rw [hidle]
    rfl
  · rfl

/-- `device_get_timeout` returns what it returns when nothing is pending. -/
theorem getTimeout_idle (h : NothingPending w) (clock : Env) : deviceGetTimeout clock w = 100000 := by
  have hkeep : ∀ (ds : List Ptr), (∀ d ∈ ds, d ∈ w.deviceList) → ∀ oldest, ds.foldl (fun oldest d =>
      if (w.devs d).state = .active then
        (w.connections d).elements.foldl (fun oldest p => (w.conns p).olderAck oldest) oldest
      else oldest) oldest = oldest := by
    intro ds hds oldest
    refine List.foldlRecOn ds _ (motive := (· = oldest)) rfl fun o ho d hd => ?_
    subst ho
    split
    · refine List.foldlRecOn _ _ (motive := (· = o)) rfl fun o' ho' p hp => ?_
      subst ho'
      unfold MuxConnection.olderAck
      rw [h.not_due (hds d hd) (SlotTable.mem_def.mpr hp)]
      rfl
    · rfl
  have holdest : oldestAck w = -1 := hkeep _ (fun d hd => SlotTable.mem_def.mpr hd) _
  unfold deviceGetTimeout
  rw [holdest]
  rfl

/-- **Accepted data is acknowledged at once.** In every run no established connection waits for
an acknowledgement to be sent; so `device_check_timeouts` does nothing, and `device_get_timeout`
returns its value for no pending acknowledgement, whatever the clock says. An acknowledgement that cannot be sent
frees its connection. -/
theorem acks_prompt (env : Env) (ops : List Op) :
    let w := run env ops
    (∀ d ∈ w.deviceList, ∀ p ∈ w.connections d, (w.conns p).state = .connected →
      (w.conns p).txAcked = (w.conns p).txAck ∧ (w.conns p).ackPending = false) ∧
    (∀ d ∈ w.deviceList, ∀ p ∈ w.connections d, ∀ outside : Env, (sendTcpAck outside p w).2 = false →
      .freeConn p ∈ (sendTcpAck outside p w).1.log) ∧
    ∀ clock : Env, deviceCheckTimeouts clock w = w.tock ∧ deviceGetTimeout clock w = 100000 := by
  intro w
  have hcalm : Calm env w := calm_run env ops
  refine ⟨hcalm.nothingPending, fun d hd p hp outside hfail => ?_, fun clock =>
    ⟨checkTimeouts_idle hcalm.nothingPending clock, getTimeout_idle hcalm.nothingPending clock⟩⟩
  obtain ⟨c, hl⟩ := hcalm.steady.tracked.ok.link_of_mem hd hp
  have hstate := hcalm.steady.tracked.not_dead hl
  unfold sendTcpAck at hfail ⊢
  dsimp only at hfail ⊢
  split_ifs at hfail ⊢ with hsent
  exact tearDown_gone outside (by rw [conn_state_eq (registry_sendTcp ..)]; exact hstate)

end Usbmuxd
