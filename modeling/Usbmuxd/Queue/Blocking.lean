import Usbmuxd.Model.Blocking
import Usbmuxd.Queue.Delivery

/-!
# Nobody sleeps while there is work

`BlockingReaderWriterQueue` counts the elements of the queue with a semaphore. Once the
consumer has waited, it calls `inner.try_dequeue` and asserts that it succeeds; when it
sleeps, the producer has to wake it up. Both rest on one equation between the count, the
elements that have entered and left, and the places of the two threads.

## The model

* `Counted s` — the equation; the count is negative only while the consumer waits at the
  semaphore of the system, and this is signalled exactly once for a consumer that has to go on.

## What is proved

* `Counted.step`, `blocking_run` — every step keeps it and none goes wrong, so that no
  assertion fails: neither the one on the old count in `signal`, nor that of the two callers of
  `inner.try_dequeue`.
* `blocking_refines` — seen from outside, the queue is a list: a step of the producer puts an
  element at its end, and a step of the consumer that takes one off its front returns it.
* `sleeps_only_when_empty` — a consumer that cannot go on has taken all that has entered.
* `wait_delivers` — where there is an element, a call returns the next one after a bounded number
  of its own accesses, wherever it is, even asleep, and whatever the producer does.
-/

namespace Usbmuxd

namespace BlockingReaderWriterQueue

open ReaderWriterQueue (Sound)

variable {α : Type*} {maxBlockSize maxSize : ℕ}

/-! ### The equation -/

/-- The elements that have entered and are not yet signalled. -/
def Producer.unsignalled : Producer → ℕ
  | .signal => 1
  | _ => 0

/-- The wake-ups that the producer owes. -/
def Producer.owed : Producer → ℕ
  | .wake => 1
  | _ => 0

/-- The elements that the consumer has waited for and not yet taken. -/
def Consumer.granted : Consumer α → ℕ
  | .inner => 1
  | _ => 0

/-- Whether the consumer waits at the semaphore of the system, as a number. -/
def Consumer.waiting : Consumer α → ℕ
  | .blocked => 1
  | _ => 0

/-- The count, the elements, and the places of the threads. -/
structure Counted (s : BlockingReaderWriterQueue α) : Prop where
  sound : Sound s.inner
  producer : s.producer = .inner ↔ s.inner.producer.rank ≠ 0
  consumer : s.consumer = .inner ↔ s.inner.consumer.rank ≠ 0
  /-- The call of the inner queue has begun when there was an element. -/
  promised : s.consumer = .inner → s.left.length < s.inner.awaited
  count : s.sema.count + s.left.length + s.consumer.granted + s.consumer.waiting + s.producer.unsignalled =
    s.entered.length
  floor : -(s.consumer.waiting : ℤ) ≤ s.sema.count
  positive : s.consumer = .acquire → 0 < s.sema.count
  woken : s.sema.sema + s.producer.owed = if 0 ≤ s.sema.count then s.consumer.waiting else 0

variable {s s' : BlockingReaderWriterQueue α}

/-- A new queue. -/
theorem counted_init (hblock : ∃ k, maxBlockSize = 2 ^ (k + 1)) (hpos : 0 < maxSize) (hfit : maxSize < 2 ^ 64) :
    Counted (init (α := α) maxBlockSize maxSize) where
  sound := ReaderWriterQueue.sound_init hblock hpos hfit
  producer := by simp [init, ReaderWriterQueue.Shared.init]
  consumer := by simp [init, ReaderWriterQueue.Shared.init]
  promised h := by cases h
  count := rfl
  floor := le_rfl
  positive h := by cases h
  woken := rfl

/-! ### The producer -/

/-- The producer calls `enqueue`. -/
theorem Counted.enqueue (h : Counted s) (x : α) : Counted (s.enqueue x) := by
  obtain ⟨inner, sema, p, c⟩ := s
  cases p with
  | done ok =>
    obtain ⟨hconsumer, hhistory⟩ := ReaderWriterQueue.enqueue_spec inner x
    have hdone : inner.producer.rank = 0 := by
      by_contra hne
      cases h.producer.mpr hne
    have hinside : (inner.enqueue x).producer.rank ≠ 0 := by
      unfold ReaderWriterQueue.Shared.enqueue
      cases hp : inner.producer with
      | done ok => dsimp only; split <;> simp
      | _ => rw [hp] at hdone; cases hdone
    have hleft : (inner.enqueue x).left = inner.left := congrArg QueueEvent.left hhistory
    have hentered : (inner.enqueue x).entered = inner.entered := congrArg QueueEvent.entered hhistory
    have hawaited : (inner.enqueue x).awaited = inner.awaited := congrArg QueueEvent.awaited hhistory
    refine ⟨h.sound.enqueue x, ⟨fun _ => hinside, fun _ => rfl⟩, ?_, fun hc => ?_, ?_, h.floor, h.positive, h.woken⟩
    · change c = .inner ↔ (inner.enqueue x).consumer.rank ≠ 0
      rw [hconsumer]
      exact h.consumer
    · change (inner.enqueue x).left.length < (inner.enqueue x).awaited
      rw [hleft, hawaited]
      exact h.promised hc
    · change sema.count + (inner.enqueue x).left.length + _ + _ + _ = (inner.enqueue x).entered.length
      rw [hleft, hentered]
      exact h.count
  | _ => exact h

section Steps

variable {q : ReaderWriterQueue.Shared α} {sema : LightweightSemaphore} {p : Producer} {c : Consumer α}

/-- The producer goes on in `inner.enqueue`. -/
theorem Counted.inner (h : Counted ⟨q, sema, .inner, c⟩) (memory : Bool) :
    ∃ s', producerStep maxBlockSize memory ⟨q, sema, .inner, c⟩ = some s' ∧ Counted s' := by
  obtain ⟨q', hstep, hsound⟩ := @ReaderWriterQueue.Sound.producerStep _ maxBlockSize _ h.sound memory
  obtain ⟨hstays, -, hwhat⟩ := ReaderWriterQueue.producerStep_spec hstep
  refine ⟨_, by unfold producerStep; dsimp only; rw [hstep]; rfl, ?_⟩
  have hc : c = .inner ↔ q'.consumer.rank ≠ 0 := by rw [hstays]; exact h.consumer
  rcases hwhat with ⟨hhistory, hplace⟩ | ⟨x, -, hdone, hhistory⟩
  · -- nothing has entered
    have hkeeps : ∀ p : Producer, (p = .inner ↔ q'.producer.rank ≠ 0) → p.unsignalled = 0 → p.owed = 0 →
        Counted ⟨q', sema, p, c⟩ := by
      intro p hp hunsignalled howed
      refine ⟨hsound, hp, hc, fun hinner => ?_, ?_, h.floor, h.positive, ?_⟩
      · have hpromised := h.promised hinner
        dsimp only at hpromised ⊢
        rw [left, ReaderWriterQueue.Shared.left, ReaderWriterQueue.Shared.awaited, hhistory]
        exact hpromised
      · have hcount := h.count
        dsimp only at hcount ⊢
        rw [hunsignalled, left, entered, ReaderWriterQueue.Shared.left, ReaderWriterQueue.Shared.entered, hhistory]
        exact hcount
      · dsimp only
        rw [howed]
        exact h.woken
    rcases hplace with hsame | ⟨-, hfails⟩
    · have hinside : q'.producer.rank ≠ 0 := by
        rw [ReaderWriterQueue.Producer.rank_ne_zero, hsame, ← ReaderWriterQueue.Producer.rank_ne_zero]
        exact h.producer.mp rfl
      have hkept := hkeeps .inner ⟨fun _ => hinside, fun _ => rfl⟩ rfl rfl
      dsimp only
      split
      · next hp => rw [hp] at hinside; exact absurd rfl hinside
      · next hp => rw [hp] at hinside; exact absurd rfl hinside
      · exact hkept
    · dsimp only
      rw [hfails]
      exact hkeeps (.done false) (iff_of_false (by simp) (by simp [hfails])) rfl rfl
  · -- the element has entered, and is not yet signalled
    have hleft : q'.left = q.left := by rw [ReaderWriterQueue.Shared.left, hhistory]; rfl
    have hentered : q'.entered = q.entered ++ [x] := by rw [ReaderWriterQueue.Shared.entered, hhistory]; rfl
    dsimp only
    rw [hdone]
    refine ⟨hsound, iff_of_false (by simp) (by simp [hdone]), hc, fun hinner => ?_, ?_, h.floor,
      h.positive, h.woken⟩
    · have hpromised := h.promised hinner
      dsimp only at hpromised ⊢
      rw [left, hleft, ReaderWriterQueue.Shared.awaited, hhistory]
      exact hpromised
    · have hcount : sema.count + q.left.length + c.granted + c.waiting + 0 = q.entered.length := h.count
      change sema.count + q'.left.length + c.granted + c.waiting + 1 = q'.entered.length
      rw [hleft, hentered, List.length_append, List.length_singleton]
      push_cast
      omega

/-- The producer signals. -/
theorem Counted.signal (h : Counted ⟨q, sema, .signal, c⟩) (memory : Bool) :
    ∃ s', producerStep maxBlockSize memory ⟨q, sema, .signal, c⟩ = some s' ∧ Counted s' := by
  have hfloor := h.floor
  have hwaiting : c.waiting ≤ 1 := by cases c <;> simp [Consumer.waiting]
  have hold : sema.count ≥ -1 := by
    dsimp only at hfloor
    omega
  have hcount : sema.count + q.left.length + c.granted + c.waiting + 1 = q.entered.length := h.count
  have hwoken : sema.sema + 0 = if 0 ≤ sema.count then c.waiting else 0 := h.woken
  have hdone : q.producer.rank = 0 := by
    by_contra hne
    cases h.producer.mpr hne
  refine ⟨_, if_pos hold, h.sound, ?_, h.consumer, h.promised, ?_, ?_, fun hc => ?_, ?_⟩
  · dsimp only
    split
    · exact iff_of_false (by simp) (not_not.mpr hdone)
    · exact iff_of_false (by simp) (not_not.mpr hdone)
  · have hunsignalled : (if sema.count < 0 then Producer.wake else .done true).unsignalled = 0 := by split <;> rfl
    dsimp only
    rw [hunsignalled]
    change sema.count + 1 + q.left.length + c.granted + c.waiting + 0 = q.entered.length
    omega
  · dsimp only at hfloor ⊢
    omega
  · have hpositive := h.positive hc
    dsimp only at hpositive ⊢
    omega
  · dsimp only
    split
    · next hneg =>
      simp only [Producer.owed]
      rw [if_pos (by omega)]
      rw [if_neg (by omega)] at hwoken
      dsimp only at hfloor
      omega
    · next hpos =>
      simp only [Producer.owed]
      rw [if_pos (by omega)]
      rw [if_pos (by omega)] at hwoken
      omega

/-- The producer wakes up the consumer. -/
theorem Counted.wake (h : Counted ⟨q, sema, .wake, c⟩) (memory : Bool) :
    ∃ s', producerStep maxBlockSize memory ⟨q, sema, .wake, c⟩ = some s' ∧ Counted s' := by
  have hdone : q.producer.rank = 0 := by
    by_contra hne
    cases h.producer.mpr hne
  exact ⟨_, rfl, h.sound, iff_of_false (by simp) (not_not.mpr hdone), h.consumer, h.promised, h.count, h.floor,
    h.positive, h.woken⟩

/-! ### The consumer -/

/-- The consumer goes to another place without touching anything. -/
theorem Counted.goConsumer {c' : Consumer α} (h : Counted ⟨q, sema, p, c⟩) (hc : c ≠ .inner) (hc' : c' ≠ .inner)
    (hwaiting : c.waiting = 0) (hwaiting' : c'.waiting = 0) (hpositive : c' = .acquire → 0 < sema.count) :
    Counted ⟨q, sema, p, c'⟩ := by
  have hgranted : c.granted = 0 := by
    cases c with
    | inner => exact absurd rfl hc
    | _ => rfl
  have hgranted' : c'.granted = 0 := by
    cases c' with
    | inner => exact absurd rfl hc'
    | _ => rfl
  have hcount := h.count
  have hfloor := h.floor
  have hwoken := h.woken
  dsimp only at hcount hfloor hwoken
  rw [hwaiting] at hcount hfloor hwoken
  rw [hgranted] at hcount
  refine ⟨h.sound, h.producer, ⟨fun h => absurd h hc', fun hrank => absurd (h.consumer.mpr hrank) hc⟩,
    fun h => absurd h hc', ?_, ?_, hpositive, ?_⟩
  · dsimp only
    rw [hwaiting', hgranted']
    exact hcount
  · dsimp only
    rw [hwaiting']
    exact hfloor
  · dsimp only
    rw [hwaiting']
    exact hwoken

/-- The consumer has waited for an element, which is there, and calls `inner.try_dequeue`. -/
theorem Counted.grant {sema' : LightweightSemaphore} (h : Counted ⟨q, sema, p, c⟩) (hc : c ≠ .inner)
    (hcount : sema'.count + 1 = sema.count + c.waiting) (hpos : 0 ≤ sema'.count) (hwoken : sema'.sema + p.owed = 0) :
    Counted (callInner ⟨q, sema', p, c⟩) := by
  obtain ⟨hproducer, hentered, hleft⟩ := ReaderWriterQueue.tryDequeue_spec q
  have hgranted : c.granted = 0 := by
    cases c with
    | inner => exact absurd rfl hc
    | _ => rfl
  have hequation : sema.count + q.left.length + c.granted + c.waiting + p.unsignalled = q.entered.length := h.count
  rw [hgranted] at hequation
  have hdone : q.consumer.rank = 0 := by
    by_contra hne
    exact hc (h.consumer.mpr hne)
  obtain ⟨hinside, hawaited⟩ := ReaderWriterQueue.tryDequeue_called hdone
  refine ⟨h.sound.tryDequeue, ?_, ⟨fun _ => hinside, fun _ => rfl⟩, fun _ => ?_, ?_, ?_, (fun h => nomatch h), ?_⟩
  · change p = .inner ↔ q.tryDequeue.producer.rank ≠ 0
    rw [hproducer]
    exact h.producer
  · change q.tryDequeue.left.length < q.tryDequeue.awaited
    rw [hleft, hawaited]
    omega
  · change sema'.count + q.tryDequeue.left.length + 1 + 0 + p.unsignalled = q.tryDequeue.entered.length
    rw [hleft, hentered]
    omega
  · exact hpos
  · change sema'.sema + p.owed = if 0 ≤ sema'.count then 0 else 0
    rw [ite_self, hwoken]

/-- `m_count.fetch_add_acquire(-1)`, of a positive count. -/
theorem Counted.acquire (h : Counted ⟨q, sema, p, c⟩) (hc : c ≠ .inner) (hwaiting : c.waiting = 0)
    (hpos : 0 < sema.count) : Counted (callInner ⟨q, { sema with count := sema.count - 1 }, p, c⟩) := by
  have hwoken := h.woken
  dsimp only at hwoken
  rw [hwaiting, ite_self] at hwoken
  refine h.grant hc ?_ ?_ hwoken
  · rw [hwaiting]
    exact (Int.sub_add_cancel _ _).trans (Int.add_zero _).symm
  · exact Int.sub_nonneg_of_le hpos

/-- `m_count.fetch_add_acquire(-1)`, of a count that is not positive: the consumer waits. -/
theorem Counted.block (h : Counted ⟨q, sema, p, .spin 0⟩) (hpos : ¬ sema.count > 0) :
    Counted ⟨q, { sema with count := sema.count - 1 }, p, .blocked⟩ := by
  have hcount : sema.count + q.left.length + 0 + 0 + p.unsignalled = q.entered.length := h.count
  have hfloor : -(0 : ℤ) ≤ sema.count := h.floor
  have hwoken : sema.sema + p.owed = if 0 ≤ sema.count then 0 else 0 := h.woken
  refine ⟨h.sound, h.producer, ?_, (fun h => nomatch h), ?_, ?_, (fun h => nomatch h), ?_⟩
  · exact ⟨(fun h => nomatch h), fun hrank => nomatch h.consumer.mpr hrank⟩
  · change sema.count - 1 + q.left.length + 0 + 1 + p.unsignalled = q.entered.length
    omega
  · change -(1 : ℤ) ≤ sema.count - 1
    omega
  · change sema.sema + p.owed = if 0 ≤ sema.count - 1 then 1 else 0
    rw [ite_self] at hwoken
    rw [if_neg (by omega)]
    exact hwoken

/-- The consumer is woken up. -/
theorem Counted.wakeUp {n : ℕ} (h : Counted ⟨q, sema, p, .blocked⟩) (hsema : sema.sema = n + 1) :
    Counted (callInner ⟨q, { sema with sema := n }, p, .blocked⟩) := by
  have hwoken : sema.sema + p.owed = if 0 ≤ sema.count then 1 else 0 := h.woken
  have hpos : 0 ≤ sema.count := by
    by_contra hneg
    rw [if_neg hneg] at hwoken
    omega
  rw [if_pos hpos] at hwoken
  refine h.grant (fun h => nomatch h) rfl hpos ?_
  dsimp only
  omega

/-- The consumer goes on in `inner.try_dequeue`, which succeeds. -/
theorem Counted.innerConsumer (h : Counted ⟨q, sema, p, .inner⟩) :
    ∃ s', consumerStep ⟨q, sema, p, .inner⟩ = some s' ∧ Counted s' ∧ s'.entered = q.entered ∧
      (s'.left = q.left ∧ s'.consumer = .inner ∧ s'.inner.consumer.rank < q.consumer.rank ∨
        ∃ x, s'.consumer = .done (some x) ∧ s'.left = q.left ++ [x]) := by
  obtain ⟨q', hstep, hsound⟩ := h.sound.consumerStep
  have hcalling : ReaderWriterQueue.Calling q.left q.entered q :=
    ⟨h.consumer.mp rfl, rfl, h.promised rfl, List.prefix_rfl⟩
  obtain ⟨hproducer, -, -⟩ := ReaderWriterQueue.consumerStep_spec hstep
  have hcount := h.count
  have hentered := ReaderWriterQueue.consumerStep_entered hstep
  rcases hcalling.consumerStep hstep hsound with ⟨hnext, hlt⟩ | ⟨-, x, hdone, hleft, -⟩
  · refine ⟨⟨q', sema, p, .inner⟩, ?_, ?_, hentered, .inl ⟨hnext.left_eq, rfl, hlt⟩⟩
    · unfold consumerStep
      dsimp only
      rw [hstep, Option.bind_some]
      have hinside := hnext.inside
      cases hc : q'.consumer with
      | done result => rw [hc] at hinside; exact absurd rfl hinside
      | _ => rfl
    · refine ⟨hsound, ?_, ⟨fun _ => hnext.inside, fun _ => rfl⟩, fun _ => ?_, ?_, h.floor, h.positive, h.woken⟩
      · dsimp only
        rw [hproducer]
        exact h.producer
      · change q'.left.length < q'.awaited
        rw [hnext.left_eq]
        exact hnext.more
      · change sema.count + q'.left.length + 1 + 0 + p.unsignalled = q'.entered.length
        rw [hnext.left_eq, hentered]
        exact hcount
  · refine ⟨⟨q', sema, p, .done (some x)⟩, ?_, ?_, hentered, .inr ⟨x, rfl, hleft⟩⟩
    · unfold consumerStep
      dsimp only
      rw [hstep, Option.bind_some, hdone]
    · refine ⟨hsound, ?_, ?_, (fun h => nomatch h), ?_, h.floor, (fun h => nomatch h), h.woken⟩
      · dsimp only
        rw [hproducer]
        exact h.producer
      · exact iff_of_false (by simp) (by simp [hdone])
      · change sema.count + q'.left.length + 0 + 0 + p.unsignalled = q'.entered.length
        rw [hleft, hentered, List.length_append, List.length_singleton]
        change sema.count + q.left.length + 1 + 0 + p.unsignalled = q.entered.length at hcount
        push_cast
        omega

end Steps

/-! ### Every step -/

/-- A step of the producer: nothing leaves, the consumer stays where it is, and an element may enter. -/
theorem producerStep_spec {memory : Bool} (h : s.producerStep maxBlockSize memory = some s') :
    s'.consumer = s.consumer ∧ s'.inner.consumer = s.inner.consumer ∧ s'.left = s.left ∧
      (s'.entered = s.entered ∨ ∃ x, s.inner.producer.element = some x ∧ s'.entered = s.entered ++ [x]) := by
  obtain ⟨q, sema, p, c⟩ := s
  cases p with
  | done ok => cases h; exact ⟨rfl, rfl, rfl, .inl rfl⟩
  | wake => cases h; exact ⟨rfl, rfl, rfl, .inl rfl⟩
  | signal =>
    unfold producerStep at h
    dsimp only at h
    split at h
    · cases h; exact ⟨rfl, rfl, rfl, .inl rfl⟩
    · cases h
  | inner =>
    obtain ⟨q', hstep, rfl⟩ := Option.map_eq_some_iff.mp h
    obtain ⟨hstays, -, ⟨hhistory, -⟩ | ⟨x, hx, -, hhistory⟩⟩ := ReaderWriterQueue.producerStep_spec hstep
    · exact ⟨rfl, hstays, congrArg QueueEvent.left hhistory, .inl (congrArg QueueEvent.entered hhistory)⟩
    · refine ⟨rfl, hstays, ?_, .inr ⟨x, hx, ?_⟩⟩
      · exact (congrArg QueueEvent.left hhistory).trans rfl
      · exact (congrArg QueueEvent.entered hhistory).trans rfl

/-- The producer goes to its next place, and nothing goes wrong. -/
theorem Counted.producerStep (h : Counted s) (memory : Bool) :
    ∃ s', s.producerStep maxBlockSize memory = some s' ∧ Counted s' := by
  obtain ⟨q, sema, p, c⟩ := s
  cases p with
  | done ok => exact ⟨_, rfl, h⟩
  | inner => exact h.inner memory
  | signal => exact h.signal memory
  | wake => exact h.wake memory

/-- The consumer goes to its next place, and nothing goes wrong. -/
theorem Counted.consumerStep (h : Counted s) : ∃ s', s.consumerStep = some s' ∧ Counted s' ∧ s'.entered = s.entered ∧
    (s'.left = s.left ∨ ∃ x, s'.consumer = .done (some x) ∧ s'.left = s.left ++ [x]) := by
  obtain ⟨q, sema, p, c⟩ := s
  obtain ⟨-, hentered, hleft⟩ := ReaderWriterQueue.tryDequeue_spec q
  cases c with
  | done result => exact ⟨_, rfl, h, rfl, .inl rfl⟩
  | tryWait wait =>
    refine ⟨_, rfl, ?_, rfl, .inl rfl⟩
    dsimp only
    split
    · next hpos => exact h.goConsumer (by simp) (by simp) rfl rfl fun _ => hpos
    · split
      · exact h.goConsumer (by simp) (by simp) rfl rfl fun h => nomatch h
      · exact h.goConsumer (by simp) (by simp) rfl rfl fun h => nomatch h
  | acquire => exact ⟨_, rfl, h.acquire (by simp) rfl (h.positive rfl), hentered, .inl hleft⟩
  | spin n =>
    cases n with
    | zero =>
      by_cases hpos : sema.count > 0
      · exact ⟨_, congrArg some (if_pos hpos), h.acquire (by simp) rfl hpos, hentered, .inl hleft⟩
      · exact ⟨_, congrArg some (if_neg hpos), h.block hpos, rfl, .inl rfl⟩
    | succ n =>
      refine ⟨_, rfl, ?_, rfl, .inl rfl⟩
      dsimp only
      split
      · next hpos => exact h.goConsumer (by simp) (by simp) rfl rfl fun _ => hpos
      · exact h.goConsumer (by simp) (by simp) rfl rfl fun h => nomatch h
  | blocked =>
    unfold consumerStep
    dsimp only
    cases hsema : sema.sema with
    | zero => exact ⟨_, rfl, h, rfl, .inl rfl⟩
    | succ n => exact ⟨_, rfl, h.wakeUp hsema, hentered, .inl hleft⟩
  | inner =>
    obtain ⟨s', hstep, hcounted, hentered, ⟨hleft, -, -⟩ | hserved⟩ := h.innerConsumer
    · exact ⟨s', hstep, hcounted, hentered, .inl hleft⟩
    · exact ⟨s', hstep, hcounted, hentered, .inr hserved⟩

/-- The consumer calls `wait_dequeue` or `try_dequeue`. -/
theorem Counted.dequeue (h : Counted s) (wait : Bool) : Counted (s.dequeue wait) := by
  obtain ⟨q, sema, p, c⟩ := s
  cases c with
  | done result => exact h.goConsumer (by simp) (by simp) rfl rfl fun h => nomatch h
  | _ => exact h

/-- Every step keeps the equation, and none goes wrong. -/
theorem Counted.step (h : Counted s) (step : BlockingStep α) :
    ∃ s', s.step maxBlockSize step = some s' ∧ Counted s' := by
  cases step with
  | enqueue x => exact ⟨_, rfl, h.enqueue x⟩
  | producer memory => exact h.producerStep memory
  | dequeue wait => exact ⟨_, rfl, h.dequeue wait⟩
  | consumer =>
    obtain ⟨s', hstep, hcounted, -⟩ := h.consumerStep
    exact ⟨s', hstep, hcounted⟩

/-- No step of a run goes wrong: every assertion holds. -/
theorem blocking_run (hblock : ∃ k, maxBlockSize = 2 ^ (k + 1)) (hpos : 0 < maxSize) (hfit : maxSize < 2 ^ 64)
    (l : List (BlockingStep α)) : ∃ s, run maxBlockSize maxSize l = some s ∧ Counted s :=
  Interleaved.goes (fun _ step h => h.step step) (counted_init hblock hpos hfit) l

/-- A state that a run has reached. -/
theorem counted_run (hblock : ∃ k, maxBlockSize = 2 ^ (k + 1)) (hpos : 0 < maxSize) (hfit : maxSize < 2 ^ 64)
    {l : List (BlockingStep α)} (hrun : run maxBlockSize maxSize l = some s) : Counted s := by
  obtain ⟨s₀, hrun₀, hcounted⟩ := blocking_run hblock hpos hfit l
  exact Option.some.inj (hrun₀.symm.trans hrun) ▸ hcounted

theorem Counted.left_begins (h : Counted s) : s.left <+: s.entered := by
  obtain ⟨live, free, holds, hinv⟩ := h.sound
  exact hinv.fifo.left_begins

/-! ### Seen from outside -/

/-- The elements that have entered and not left. -/
def held (s : BlockingReaderWriterQueue α) : List α := s.entered.drop s.left.length

/-- The queue is a list: a step of the producer puts an element at its end or leaves it alone,
a step of the consumer returns its first element or leaves it alone. -/
theorem blocking_refines (hblock : ∃ k, maxBlockSize = 2 ^ (k + 1)) (hpos : 0 < maxSize) (hfit : maxSize < 2 ^ 64)
    {l : List (BlockingStep α)} (hrun : run maxBlockSize maxSize l = some s) (step : BlockingStep α) :
    ∃ s', s.step maxBlockSize step = some s' ∧
      match step with
      | .producer _ => s'.held = s.held ∨ ∃ x, s.inner.producer.element = some x ∧ s'.held = s.held ++ [x]
      | .consumer => s'.held = s.held ∨ ∃ x, s'.consumer = .done (some x) ∧ s.held = x :: s'.held
      | _ => s'.held = s.held := by
  have h := counted_run hblock hpos hfit hrun
  cases step with
  | enqueue x =>
    refine ⟨_, rfl, ?_⟩
    obtain ⟨q, sema, p, c⟩ := s
    cases p with
    | done ok =>
      obtain ⟨-, hhistory⟩ := ReaderWriterQueue.enqueue_spec q x
      change List.drop (QueueEvent.left (q.enqueue x).history).length (QueueEvent.entered (q.enqueue x).history) = _
      rw [hhistory]
      rfl
    | _ => rfl
  | producer memory =>
    obtain ⟨s', hstep, -⟩ := @Counted.producerStep _ maxBlockSize _ h memory
    refine ⟨s', hstep, ?_⟩
    obtain ⟨-, -, hleft, hentered | ⟨x, hx, hentered⟩⟩ := producerStep_spec hstep
    · exact .inl (by rw [held, held, hleft, hentered])
    · refine .inr ⟨x, hx, ?_⟩
      rw [held, held, hleft, hentered, List.drop_append_of_le_length h.left_begins.length_le]
  | dequeue wait =>
    refine ⟨_, rfl, ?_⟩
    obtain ⟨q, sema, p, c⟩ := s
    cases c <;> rfl
  | consumer =>
    obtain ⟨s', hstep, hcounted, hentered, hleft | ⟨x, hx, hleft⟩⟩ := h.consumerStep
    · exact ⟨s', hstep, .inl (by rw [held, held, hleft, hentered])⟩
    · refine ⟨s', hstep, .inr ⟨x, hx, ?_⟩⟩
      obtain ⟨rest, hrest⟩ := hcounted.left_begins
      rw [held, held, ← hentered, ← hrest, List.drop_left, hleft, List.append_assoc, List.drop_left]
      rfl

/-- The element that the producer has made is about to be published. -/
theorem blocking_refines_first :
    ∃ s : BlockingReaderWriterQueue ℕ, run 512 15 [.enqueue 3, .producer true] = some s ∧
      ∃ s', s.step 512 (.producer true) = some s' ∧
        (s'.held = s.held ∨ ∃ x, s.inner.producer.element = some x ∧ s'.held = s.held ++ [x]) :=
  ⟨_, rfl, blocking_refines ⟨8, rfl⟩ (show 0 < 15 by decide) (by decide)
    (show run 512 15 [.enqueue 3, .producer true] = some _ from rfl) (.producer true)⟩

/-- A consumer that waits at the semaphore of the system and is not woken up, while the
producer is in no call, has taken all that has entered. -/
theorem sleeps_only_when_empty (hblock : ∃ k, maxBlockSize = 2 ^ (k + 1)) (hpos : 0 < maxSize)
    (hfit : maxSize < 2 ^ 64) {l : List (BlockingStep α)} (hrun : run maxBlockSize maxSize l = some s)
    (hblocked : s.consumer = .blocked) (hsema : s.sema.sema = 0) {ok : Bool} (hdone : s.producer = .done ok) :
    s.left = s.entered := by
  have h := counted_run hblock hpos hfit hrun
  have hcount := h.count
  have hfloor := h.floor
  have hwoken := h.woken
  rw [hblocked, hdone] at hcount
  rw [hblocked] at hfloor
  rw [hblocked, hdone, hsema] at hwoken
  simp only [Consumer.granted, Consumer.waiting, Producer.unsignalled, Producer.owed] at hcount hfloor hwoken
  have hneg : ¬ 0 ≤ s.sema.count := fun hle => by rw [if_pos hle] at hwoken; omega
  exact h.left_begins.eq_of_length (by omega)

/-- The loop of `waitWithPartialSpinning` ends when nothing is signalled. -/
theorem spins {n : ℕ} (hcount : ¬ s.sema.count > 0) (hspin : s.consumer = .spin n) :
    s.steps maxBlockSize (List.replicate n .consumer) = some { s with consumer := .spin 0 } := by
  induction n generalizing s with
  | zero =>
    rw [← hspin]
    rfl
  | succ n ih =>
    have hstep : s.step maxBlockSize .consumer = some { s with consumer := .spin n } := by
      change s.consumerStep = _
      unfold consumerStep
      rw [hspin]
      dsimp only
      rw [if_neg hcount]
    unfold steps
    rw [List.replicate_succ, List.foldlM_cons, hstep]
    exact ih hcount rfl

/-- The steps of a consumer that finds nothing. -/
def toSleep : List (BlockingStep α) := .dequeue true :: .consumer :: (List.replicate 10000 .consumer ++ [.consumer])

/-- The consumer of a new queue goes to sleep. -/
theorem run_toSleep : run maxBlockSize maxSize toSleep =
    some (⟨.init maxBlockSize maxSize, ⟨-1, 0⟩, .done true, .blocked⟩ : BlockingReaderWriterQueue α) := by
  have hcall : step maxBlockSize (init (α := α) maxBlockSize maxSize) (.dequeue true) =
      some ⟨.init maxBlockSize maxSize, ⟨0, 0⟩, .done true, .tryWait true⟩ := rfl
  have hload : step maxBlockSize (⟨.init maxBlockSize maxSize, ⟨0, 0⟩, .done true, .tryWait true⟩ :
      BlockingReaderWriterQueue α) .consumer = some ⟨.init maxBlockSize maxSize, ⟨0, 0⟩, .done true, .spin 10000⟩ := rfl
  have hloop : steps maxBlockSize (⟨.init maxBlockSize maxSize, ⟨0, 0⟩, .done true, .spin 10000⟩ :
      BlockingReaderWriterQueue α) (List.replicate 10000 .consumer) = some _ := spins (Int.lt_irrefl 0) rfl
  unfold steps at hloop
  unfold run steps toSleep
  rw [List.foldlM_cons, hcall, Option.bind_eq_bind, Option.bind_some, List.foldlM_cons, hload, Option.bind_eq_bind,
    Option.bind_some, List.foldlM_append, hloop]
  rfl

theorem sleeps_only_when_empty_new :
    ∃ s : BlockingReaderWriterQueue ℕ, run 512 15 toSleep = some s ∧ s.left = s.entered :=
  ⟨_, run_toSleep, sleeps_only_when_empty ⟨8, rfl⟩ (show 0 < 15 by decide) (by decide) run_toSleep rfl rfl rfl⟩

/-! ### How long a call takes -/

/-- The accesses of the consumer until it returns, when there is an element for it. -/
def turns (s : BlockingReaderWriterQueue α) : ℕ :=
  match s.consumer with
  | .done _ => 0
  | .inner => s.inner.consumer.rank
  | .acquire => 9
  | .blocked => 9
  | .spin n => n + 10
  | .tryWait _ => 10011

/-- Whether a step is an access of the consumer. -/
def isConsumer : BlockingStep α → Bool
  | .consumer => true
  | _ => false

/-- The consumer is in a call, and an element behind `left` has been signalled; the producer
does not owe a wake-up. -/
structure Awaiting (left entered : List α) (s : BlockingReaderWriterQueue α) : Prop where
  inside : ∀ result, s.consumer ≠ .done result
  left_eq : s.left = left
  grown : entered <+: s.entered
  more : left.length + s.producer.unsignalled < s.entered.length
  owed : s.producer.owed = 0

/-- The call has returned the element behind `left`. -/
def Served (left entered : List α) (s : BlockingReaderWriterQueue α) : Prop :=
  entered <+: s.entered ∧ ∃ x, s.consumer = .done (some x) ∧ s.left = left ++ [x] ∧ s.left <+: s.entered

variable {left entered : List α}

theorem Awaiting.turns_pos (h : Awaiting left entered s) (hs : Counted s) : s.turns ≠ 0 := by
  unfold turns
  split
  · next result hc => exact absurd hc (h.inside result)
  · next hc => exact hs.consumer.mp hc
  all_goals omega

theorem rank_le (c : ReaderWriterQueue.Consumer α) : c.rank ≤ 8 := by cases c <;> simp

/-- A step of the consumer brings it nearer to its return. -/
theorem Awaiting.consumerStep (h : Awaiting left entered s) (hs : Counted s) (hstep : s.consumerStep = some s')
    (hs' : Counted s') : Awaiting left entered s' ∧ s'.turns < s.turns ∨ Served left entered s' := by
  obtain ⟨q, sema, p, c⟩ := s
  have hcount : sema.count + q.left.length + c.granted + c.waiting + p.unsignalled = q.entered.length := hs.count
  have hmore : left.length + p.unsignalled < q.entered.length := h.more
  have hleft : q.left = left := h.left_eq
  rw [hleft] at hcount
  obtain ⟨-, hentered', hleft'⟩ := ReaderWriterQueue.tryDequeue_spec q
  -- the call of the inner queue has begun
  have hbegun : ∀ sema', Awaiting left entered (callInner ⟨q, sema', p, c⟩) ∧
      (callInner ⟨q, sema', p, c⟩).turns < 9 := by
    intro sema'
    refine ⟨⟨fun _ => nofun, hleft'.trans hleft, ?_, ?_, h.owed⟩, Nat.lt_succ_of_le (rank_le _)⟩
    · change entered <+: q.tryDequeue.entered
      rw [hentered']
      exact h.grown
    · change left.length + p.unsignalled < q.tryDequeue.entered.length
      rw [hentered']
      exact hmore
  -- another place, with the count where it was
  have hgoes : ∀ c', (∀ result, c' ≠ .done result) → Awaiting left entered ⟨q, sema, p, c'⟩ :=
    fun c' hc' => ⟨hc', hleft, h.grown, hmore, h.owed⟩
  cases c with
  | done result => exact absurd rfl (h.inside result)
  | tryWait wait =>
    have hpos : sema.count > 0 := by
      simp only [Consumer.granted, Consumer.waiting] at hcount
      omega
    cases hstep
    dsimp only
    rw [if_pos hpos]
    exact .inl ⟨hgoes .acquire (fun _ => nofun), by simp [turns]⟩
  | acquire =>
    cases hstep
    exact .inl (hbegun _)
  | spin n =>
    have hpos : sema.count > 0 := by
      simp only [Consumer.granted, Consumer.waiting] at hcount
      omega
    cases n with
    | zero =>
      unfold BlockingReaderWriterQueue.consumerStep at hstep
      dsimp only at hstep
      rw [if_pos hpos] at hstep
      cases hstep
      obtain ⟨hnext, hlt⟩ := hbegun { sema with count := sema.count - 1 }
      exact .inl ⟨hnext, hlt.trans (by simp [turns])⟩
    | succ n =>
      cases hstep
      dsimp only
      rw [if_pos hpos]
      exact .inl ⟨hgoes .acquire (fun _ => nofun), by simp [turns]⟩
  | blocked =>
    have hsema : sema.sema = 1 := by
      have hwoken := hs.woken
      have howed := h.owed
      simp only [Consumer.granted, Consumer.waiting] at hcount hwoken howed
      rw [if_pos (by omega), howed] at hwoken
      exact hwoken
    unfold BlockingReaderWriterQueue.consumerStep at hstep
    dsimp only at hstep
    rw [hsema] at hstep
    cases hstep
    exact .inl (hbegun _)
  | inner =>
    obtain ⟨s₁, hstep₁, -, hentered₁, hwhat⟩ := hs.innerConsumer
    obtain rfl : s₁ = s' := Option.some.inj (hstep₁.symm.trans hstep)
    have hstays : s₁.producer = p := by
      obtain ⟨q', -, hq'⟩ := Option.bind_eq_some_iff.mp hstep
      dsimp only at hq'
      split at hq' <;> cases hq' <;> rfl
    rcases hwhat with ⟨hleft₁, hinner, hlt⟩ | ⟨x, hx, hleft₁⟩
    · refine .inl ⟨⟨fun _ => by rw [hinner]; nofun, hleft₁.trans hleft, ?_, ?_, ?_⟩, ?_⟩
      · rw [hentered₁]
        exact h.grown
      · rw [hentered₁, hstays]
        exact hmore
      · rw [hstays]
        exact h.owed
      · have hturns : s₁.turns = s₁.inner.consumer.rank := by unfold turns; rw [hinner]
        rw [hturns]
        exact hlt
    · refine .inr ⟨?_, x, hx, by rw [hleft₁, hleft], hs'.left_begins⟩
      rw [hentered₁]
      exact h.grown

/-- A step of the producer leaves a call of the consumer alone. -/
theorem step_producer {step : BlockingStep α} (h : s.step maxBlockSize step = some s') (hcall : ∀ wait, step ≠ .dequeue wait)
    (hconsumer : step ≠ .consumer) :
    s'.consumer = s.consumer ∧ s'.inner.consumer = s.inner.consumer ∧ s'.left = s.left ∧ s.entered <+: s'.entered := by
  cases step with
  | enqueue x =>
    obtain ⟨q, sema, p, c⟩ := s
    cases h
    cases p with
    | done ok =>
      obtain ⟨hstays, hhistory⟩ := ReaderWriterQueue.enqueue_spec q x
      refine ⟨rfl, hstays, congrArg QueueEvent.left hhistory, ?_⟩
      change _ <+: QueueEvent.entered (q.enqueue x).history
      rw [hhistory]
    | _ => exact ⟨rfl, rfl, rfl, List.prefix_rfl⟩
  | producer memory =>
    obtain ⟨hstays, hinner, hleft, hentered | ⟨x, -, hentered⟩⟩ := producerStep_spec h
    · exact ⟨hstays, hinner, hleft, by rw [hentered]⟩
    · exact ⟨hstays, hinner, hleft, by rw [hentered]; exact List.prefix_append _ _⟩
  | dequeue wait => exact absurd rfl (hcall wait)
  | consumer => exact absurd rfl hconsumer

/-- The producer does not come to owe a wake-up to a consumer that has an element. -/
theorem Awaiting.signals {step : BlockingStep α} (h : Awaiting left entered s) (hs : Counted s)
    (hstep : s.step maxBlockSize step = some s') (hcall : ∀ wait, step ≠ .dequeue wait) (hconsumer : step ≠ .consumer) :
    left.length + s'.producer.unsignalled < s'.entered.length ∧ s'.producer.owed = 0 := by
  obtain ⟨-, -, -, hgrows⟩ := step_producer hstep hcall hconsumer
  have hle := hgrows.length_le
  have hmore := h.more
  have howed := h.owed
  obtain ⟨q, sema, p, c⟩ := s
  cases step with
  | enqueue x =>
    cases hstep
    cases p with
    | done ok => exact ⟨Nat.lt_of_lt_of_le hmore hle, rfl⟩
    | _ => exact ⟨hmore, howed⟩
  | producer memory =>
    cases p with
    | done ok => cases hstep; exact ⟨hmore, howed⟩
    | wake => cases howed
    | signal =>
      have hcount := hs.count
      have hleft := h.left_eq
      have hwaits : c.granted + c.waiting ≤ 1 := by cases c <;> simp [Consumer.granted, Consumer.waiting]
      simp only [Producer.unsignalled] at hcount hmore
      rw [hleft] at hcount
      have hnonneg : ¬ sema.count < 0 := by omega
      unfold BlockingReaderWriterQueue.step BlockingReaderWriterQueue.producerStep at hstep
      dsimp only at hstep
      rw [if_pos (by omega), if_neg hnonneg] at hstep
      cases hstep
      exact ⟨Nat.lt_of_succ_lt hmore, rfl⟩
    | inner =>
      obtain ⟨q', hinner, rfl⟩ := Option.map_eq_some_iff.mp hstep
      obtain ⟨-, -, ⟨-, hplace⟩ | ⟨x, -, hdone, hhistory⟩⟩ := ReaderWriterQueue.producerStep_spec hinner
      · have hsame : left.length < q'.entered.length := Nat.lt_of_lt_of_le hmore hle
        have hnot : q'.producer ≠ .done true := by
          rcases hplace with hplace | ⟨-, hfails⟩
          · intro hdone
            have hinside := ReaderWriterQueue.Producer.rank_ne_zero.mp (hs.producer.mp rfl)
            rw [hdone] at hplace
            exact absurd (hplace.trans hinside.choose_spec) (by simp)
          · rw [hfails]
            simp
        dsimp only
        split
        · next hdone => exact absurd hdone hnot
        · exact ⟨hsame, rfl⟩
        · exact ⟨hsame, rfl⟩
      · have hentered : q'.entered = q.entered ++ [x] := by rw [ReaderWriterQueue.Shared.entered, hhistory]; rfl
        have hmore' : left.length < q.entered.length := hmore
        dsimp only
        rw [hdone]
        refine ⟨?_, rfl⟩
        change left.length + 1 < q'.entered.length
        rw [hentered, List.length_append, List.length_singleton]
        omega
  | dequeue wait => exact absurd rfl (hcall wait)
  | consumer => exact absurd rfl hconsumer

/-- An element that has been returned stays so until the next call. -/
theorem Served.step {step : BlockingStep α} (h : Served left entered s) (hcall : ∀ wait, step ≠ .dequeue wait)
    (hstep : s.step maxBlockSize step = some s') : Served left entered s' := by
  by_cases hconsumer : step = .consumer
  · subst hconsumer
    obtain ⟨-, x, hdone, -, -⟩ := id h
    have hstep : s.consumerStep = some s' := hstep
    unfold consumerStep at hstep
    rw [hdone] at hstep
    cases hstep
    exact h
  · obtain ⟨hgrown, x, hdone, hleft, hlead⟩ := h
    obtain ⟨hstays, -, hleft', hgrows⟩ := step_producer hstep hcall hconsumer
    exact ⟨hgrown.trans hgrows, x, hstays.trans hdone, hleft'.trans hleft, hleft'.symm ▸ hlead.trans hgrows⟩

/-- A call of `wait_dequeue` or `try_dequeue`, wherever it is, returns the next element when
there is one and the producer is in no call: also when it sleeps, and whatever the producer
does from then on. -/
theorem wait_delivers (hblock : ∃ k, maxBlockSize = 2 ^ (k + 1)) (hpos : 0 < maxSize) (hfit : maxSize < 2 ^ 64)
    {before l : List (BlockingStep α)} (hrun : run maxBlockSize maxSize before = some s) {ok : Bool}
    (hproducer : s.producer = .done ok) (hinside : ∀ result, s.consumer ≠ .done result)
    (hmore : s.left.length < s.entered.length) (hcalls : ∀ wait, .dequeue wait ∉ l)
    (hlong : s.turns ≤ l.countP isConsumer) :
    ∃ s', s.steps maxBlockSize l = some s' ∧ s'.consumer = .done s.entered[s.left.length]? ∧
      s'.left = s.left ++ [s.entered[s.left.length]] := by
  have hs := counted_run hblock hpos hfit hrun
  have hcall : ∀ step ∈ l, ∀ wait, step ≠ .dequeue wait := by
    rintro step hmem wait rfl
    exact hcalls wait hmem
  have hawaiting : Awaiting s.left s.entered s :=
    ⟨hinside, rfl, List.prefix_rfl, by rw [hproducer]; exact hmore, by rw [hproducer]; rfl⟩
  obtain ⟨s', hsteps, -⟩ := @Interleaved.goes _ _ (step maxBlockSize) Counted _ (fun _ step h => h.step step) hs l
  have hserved : Served s.left s.entered s' := by
    refine @Interleaved.ends _ _ _ Counted (fun s₁ => Counted s₁ ∧ Awaiting s.left s.entered s₁) _ _ _ _ turns _ ?_ ?_
      (fun _ h => h.2.turns_pos h.1) (fun _ step h => h.step step) hs ⟨hs, hawaiting⟩ hlong hsteps
    · rintro s₁ s₂ step hmem hs₁ hstep hs₂ ⟨-, hp⟩
      by_cases hconsumer : step = .consumer
      · subst hconsumer
        rcases hp.consumerStep hs₁ hstep hs₂ with ⟨hnext, hlt⟩ | hserved
        · exact .inl ⟨⟨hs₂, hnext⟩, hlt.le, fun _ => hlt⟩
        · exact .inr hserved
      · obtain ⟨hstays, hinner, hleft, hgrows⟩ := step_producer hstep (hcall step hmem) hconsumer
        obtain ⟨hmore', howed⟩ := hp.signals hs₁ hstep (hcall step hmem) hconsumer
        have hturns : s₂.turns = s₁.turns := by
          unfold turns
          rw [hstays, hinner]
        refine .inl ⟨⟨hs₂, ⟨?_, hleft.trans hp.left_eq, hp.grown.trans hgrows, hmore', howed⟩⟩, hturns.le, fun hown => ?_⟩
        · rw [hstays]
          exact hp.inside
        · cases step with
          | consumer => exact absurd rfl hconsumer
          | _ => cases hown
    · exact fun s₁ s₂ step hmem hstep hq => hq.step (hcall step hmem) hstep
  obtain ⟨hgrown, x, hx, hleft, hlead⟩ := hserved
  obtain ⟨hnext, hget⟩ := ReaderWriterQueue.next_of_prefix hgrown hmore (hleft ▸ hlead)
  exact ⟨s', hsteps, hnext ▸ hx, by rw [hleft, hget]⟩

/-- The consumer has seen that the count is positive. -/
theorem wait_delivers_first :
    ∃ s : BlockingReaderWriterQueue ℕ, run 512 15 [.enqueue 3, .producer true, .producer true, .producer true,
        .dequeue true, .consumer] = some s ∧
      ∃ s', s.steps 512 (.enqueue 4 :: List.replicate 9 .consumer) = some s' ∧ s'.consumer = .done (some 3) ∧
        s'.left = [3] :=
  ⟨_, rfl, wait_delivers ⟨8, rfl⟩ (show 0 < 15 by decide) (by decide) (show run 512 15 [.enqueue 3, .producer true,
    .producer true, .producer true, .dequeue true, .consumer] = some _ from rfl) rfl (fun _ => nofun) (by decide)
    (by simp) (by decide)⟩

end BlockingReaderWriterQueue

end Usbmuxd
