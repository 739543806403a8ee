import Usbmuxd.Streams.Answers

/-!
# Connections that are gone

`connection_teardown` frees a connection deep inside `send_tcp_ack`, `connection_device_input` and
the notification of a client, and what calls these is not told, or does not look. This module says
exactly when the caller goes on with a connection that is no longer there.

## The model

* `KeepsOff` — a call uses no connection that it has freed, and none that it did not find.

## What is proved

* `Answer.keepsOff`, `Touched.not_keepsOff` — by the shape of what is said for the connection.
* `keepsOff_iff` — after every run, for every segment and every readiness of a client.
-/

namespace Usbmuxd

open World

/-- An entry that frees no connection and uses none that is gone. -/
def Event.sound : Event → Bool
  | .freeConn .. | .fault .freedConn | .fault .nullConn => false
  | _ => true

/-- A call uses no connection that it did not find, and none after it has freed it: neither does it run into
undefined behaviour, nor does it do anything for such a connection that the log would show. -/
def KeepsOff (w w' : World) : Prop :=
  ∃ es, w'.log = w.log ++ es ∧ .fault .freedConn ∉ es ∧ .fault .nullConn ∉ es ∧
    ∀ p, es.Pairwise fun e e' => e = .freeConn p → e'.conn? ≠ some p

section KeepsOff

variable {env : Env} {w w' : World} {p : Ptr}

theorem Event.sound_of_polite (version : Ptr → ℕ) (p : Ptr) (e : Event) (h : e.polite version p = true) :
    e.sound = true := by
  unfold Event.sound
  split <;> simp_all [Event.polite, Event.quiet]

theorem Event.sound_of_quiet (e : Event) (h : e.quiet = true) : e.sound = true := by
  unfold Event.sound
  split <;> simp_all [Event.quiet]

/-- Entries that free no connection. -/
theorem pairwise_sound {es : List Event} (h : ∀ e ∈ es, e.sound = true) (p : Ptr) :
    es.Pairwise fun e e' => e = .freeConn p → e'.conn? ≠ some p := by
  refine List.pairwise_of_forall_mem_list fun e he _ _ hfree => ?_
  have hsound := h e he
  rw [hfree] at hsound
  cases hsound

theorem keepsOff_sound (h : w.Grows Event.sound w') : KeepsOff w w' := by
  obtain ⟨es, hlog, hsound⟩ := h
  exact ⟨es, hlog, fun hmem => absurd (hsound _ hmem) (by decide), fun hmem => absurd (hsound _ hmem) (by decide),
    pairwise_sound hsound⟩

/-- A connection that has ended is not used again. -/
theorem Ended.keepsOff (h : Ended env p w w') : KeepsOff w w' := by
  obtain ⟨v, hpolite, es, es', hlog, hquiet, hafter⟩ := h
  obtain ⟨es₁, hlog₁, hes₁⟩ := hpolite.log
  obtain ⟨es₂, hlog₂, hes₂, -⟩ := sendTeardownRst_entries env p v
  have hfront : ∀ e ∈ es₁ ++ es₂ ++ es, e.sound = true := by
    intro e he
    simp only [List.mem_append] at he
    rcases he with (he | he) | he
    · exact e.sound_of_polite _ p (hes₁ e he)
    · have hsending := hes₂ e he
      cases e <;> first | rfl | cases hsending
    · exact e.sound_of_quiet (hquiet e he)
  have hback : ∀ e ∈ es', e.sound = true := fun e he => e.sound_of_quiet (hafter e he).1
  have hfault : ∀ f, (Event.fault f).sound = false → .fault f ∉ es₁ ++ es₂ ++ es ++ .freeConn p :: es' := by
    intro f hf hmem
    rw [List.mem_append, List.mem_cons] at hmem
    rcases hmem with hmem | hmem | hmem
    · exact absurd (hfront _ hmem) (by simp [hf])
    · cases hmem
    · exact absurd (hback _ hmem) (by simp [hf])
  refine ⟨es₁ ++ es₂ ++ es ++ .freeConn p :: es', by rw [hlog, hlog₂, hlog₁]; simp, hfault _ rfl, hfault _ rfl,
    fun q => ?_⟩
  rw [List.pairwise_append, List.pairwise_cons]
  refine ⟨pairwise_sound hfront q, ⟨fun e he _ => by simp [(hafter e he).2], pairwise_sound hback q⟩, ?_⟩
  rintro e he e' - rfl
  exact absurd (hfront _ he) (by simp [Event.sound])

theorem Answer.keepsOff (h : Answer env p w w') : KeepsOff w w' := by
  rcases h with hpolite | hend
  · exact keepsOff_sound (hpolite.log.mono fun e => e.sound_of_polite _ p)
  · exact hend.keepsOff

/-- Undefined behaviour shows in the log. -/
theorem not_keepsOff_of_mem {es : List Event} (hlog : w'.log = w.log ++ es)
    (h : .fault .freedConn ∈ es ∨ .fault .nullConn ∈ es) : ¬ KeepsOff w w' := by
  rintro ⟨es', hlog', hfreed, hnull, -⟩
  obtain rfl : es = es' := List.append_cancel_left (hlog.symm.trans hlog')
  exact h.elim hfreed hnull

theorem Touched.not_keepsOff (h : Touched env p w w') : ¬ KeepsOff w w' := by
  obtain ⟨u, hend, rfl⟩ := h
  obtain ⟨es, hlog, -⟩ := hend.keepsOff
  have hlog' : (u.emit (.fault .freedConn)).log = w.log ++ (es ++ [.fault .freedConn]) := by
    rw [emit_log, hlog, List.append_assoc]
  exact not_keepsOff_of_mem hlog' (.inl (by simp))

/-! ### The two calls -/

/-- A segment. -/
theorem keepsOff_deviceTcpInput (ht : Tracked env w) {d : Ptr} (hd : d ∈ w.deviceList) (th : TcpHdr)
    (payload : List UInt8) :
    KeepsOff w (deviceTcpInput env d th payload w) ↔ ¬ inputLost env d th payload w := by
  cases hfound : findByPorts w d th.dport th.sport with
  | none =>
    obtain ⟨es, hlog, hes⟩ := deviceTcpInput_vain env hfound payload
    simp only [inputLost, hfound]
    by_cases hsilent : (w.devs d).state ≠ .active ∨ th.hasRst = true
    · rw [if_pos hsilent] at hes
      subst hes
      refine iff_of_true (keepsOff_sound (.one hlog rfl)) fun hlost => ?_
      exact hsilent.elim (fun hidle => hidle hlost.1) fun hrst => by simp [hrst] at hlost
    · rw [if_neg hsilent] at hes
      obtain ⟨packet, rfl⟩ := hes
      obtain ⟨hactive, hrst⟩ := not_or.mp hsilent
      cases hok : env.usbSend w.tick with
      | true =>
        rw [hok] at hlog
        exact iff_of_true (keepsOff_sound ⟨_, hlog, by simp [Event.sound]⟩) fun hlost => by simp at hlost
      | false =>
        rw [hok] at hlog
        refine iff_of_false (not_keepsOff_of_mem hlog (.inr (by simp))) (not_not.mpr ⟨not_not.mp hactive, ?_, rfl⟩)
        simpa using hrst
  | some p =>
    by_cases hactive : (w.devs d).state = .active
    · obtain ⟨htouched, hanswer⟩ := deviceTcpInput_found ht hd hfound hactive payload
      by_cases hlost : inputLost env d th payload w
      · exact iff_of_false (htouched hlost).not_keepsOff (not_not.mpr hlost)
      · exact iff_of_true (hanswer hlost).keepsOff hlost
    · refine iff_of_true (keepsOff_sound ?_) fun hlost => hactive hlost.1
      have hidle : ((w.emit (.tcpInput d th payload)).devs d).state ≠ .active := hactive
      unfold deviceTcpInput
      simp only [if_pos hidle]
      exact .one rfl rfl

/-- The readiness of a client. -/
theorem keepsOff_deviceClientProcess (ht : Tracked env w) (id : ℕ) (c : Ptr) (events : Events) :
    KeepsOff w (deviceClientProcess env id c events w) ↔
      ∀ p, getMuxConnection w id c = some p → ¬ updateLost env p c events w := by
  cases hfound : getMuxConnection w id c with
  | none =>
    refine iff_of_true (keepsOff_sound ?_) (by simp)
    unfold deviceClientProcess
    rw [hfound]
    exact .refl _ w
  | some p =>
    simp only [Option.some.injEq, forall_eq']
    obtain ⟨d, hl, -⟩ := w.registry.link_of_lookup (show w.registry.lookup id c = some p from hfound)
    have hshape := deviceClientProcess_shape env hfound (ht.bound hl) (ht.not_dead hl) events
    split at hshape
    · rename_i hlost
      exact iff_of_false hshape.not_keepsOff (not_not.mpr hlost)
    · rename_i hkept
      exact iff_of_true hshape.keepsOff hkept

end KeepsOff

/-! ### Runs -/

/-- After every run a call of `device_tcp_input` or `device_client_process` uses a connection that it has freed, or did
not find, exactly when
* an `RST` for unknown ports of an active device cannot be sent (the message about it follows the connection),
* the client of a connection whose `SYN|ACK` has been acknowledged cannot be told,
* an acknowledged segment without another flag does not fit into the in-buffer of an established connection, or
* a client has taken bytes, the window was small, and its update cannot be sent.
After every other call nothing is done for a connection that the call has freed. -/
theorem keepsOff_iff (env : Env) (ops : List Op) :
    let w := run env ops
    (∀ d ∈ w.deviceList, ∀ th payload,
      KeepsOff w (deviceTcpInput env d th payload w) ↔ ¬ inputLost env d th payload w) ∧
    ∀ id c events, KeepsOff w (deviceClientProcess env id c events w) ↔
      ∀ p, getMuxConnection w id c = some p → ¬ updateLost env p c events w := by
  intro w
  have ht : Tracked env w := (steady_run env ops).tracked
  exact ⟨fun d hd th payload => keepsOff_deviceTcpInput ht hd th payload,
    fun id c events => keepsOff_deviceClientProcess ht id c events⟩

/-- An outside that takes one packet. -/
def Env.stalled : Env where
  __ := quiet
  usbSend t := t == 0

/-- A segment for port 1 of a device without connections, when no packet can be sent. -/
theorem not_keepsOff_unknownPort :
    let w := run .stalled [.usb (.deviceAdd 5), .versionInput 1 ⟨1, 0, 0⟩]
    1 ∈ w.deviceList ∧ ¬ KeepsOff w (deviceTcpInput .stalled 1 ⟨80, 1, 0, 0, 0x50, thAck, 1000, 0, 0⟩ [] w) := by
  intro w
  have hlog : (deviceTcpInput .stalled 1 ⟨80, 1, 0, 0, 0x50, thAck, 1000, 0, 0⟩ [] w).log =
      w.log ++ (deviceTcpInput .stalled 1 ⟨80, 1, 0, 0, 0x50, thAck, 1000, 0, 0⟩ [] w).log.drop w.log.length := by
    decide +kernel
  exact ⟨by decide +kernel, not_keepsOff_of_mem hlog (.inr (by decide +kernel))⟩

end Usbmuxd
