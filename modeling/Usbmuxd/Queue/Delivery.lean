import Mathlib.Data.List.Range
import Usbmuxd.Foundation.Interleaved
import Usbmuxd.Queue.Sound

/-!
# The queue delivers

The steps of `Usbmuxd.Queue.Sound`, put together to runs of the two threads in any order.

## The model

* `Sound s` — the invariant holds with some circle of blocks.
* `Producer.rank`, `Consumer.rank` — how many accesses a thread has left until it returns.

## What is proved

* `sound_init` — what the constructor makes, from one block or from several.
* `Sound.step`, `run_sound` — no step goes wrong, and the invariant holds throughout.
* `queue_fifo` — the elements leave in the order in which they have entered, and `try_dequeue`
  only returns `false` when all that had entered before the call has left.
* `dequeue_delivers` — a call that begins when there is an element returns the next one after
  eight accesses of its own at most, whatever the producer does in the meantime.
* `enqueue_enters` — a call of `enqueue` for which there is memory puts its element in after six.
-/

namespace Usbmuxd

namespace ReaderWriterQueue

open QueueEvent (FirstInFirstOut)

variable {α : Type*} {maxBlockSize maxSize : ℕ}

/-- The invariant holds with some circle of blocks. -/
def Sound (s : Shared α) : Prop := ∃ live free holds, Inv s live free holds

/-! ### The constructor -/

/-- The blocks that the constructor makes are empty. -/
theorem reserve_block (size n a : ℕ) : ∃ next, reserve (α := α) size n a = makeBlock size next := by
  induction n with
  | zero => exact ⟨0, rfl⟩
  | succ n ih =>
    obtain ⟨next, hnext⟩ := ih
    unfold reserve
    by_cases ha : a = n
    · subst ha
      exact ⟨0, Function.update_self ..⟩
    · rw [Function.update_of_ne ha]
      by_cases hb : a = n - 1
      · subst hb
        exact ⟨n, by rw [Function.update_self, hnext]; rfl⟩
      · exact ⟨next, by rw [Function.update_of_ne hb, hnext]⟩

/-- They are a circle. -/
theorem reserve_linked (size n : ℕ) :
    Linked (fun a => (reserve (α := α) size (n + 1) a).next) (List.range (n + 1) ++ [0]) := by
  induction n with
  | zero => exact List.isChain_pair.mpr rfl
  | succ n ih =>
    have hlast : (List.range (n + 1)).getLast? = some n := by rw [List.range_succ, List.getLast?_concat]
    have hnodup : (List.range (n + 1) ++ []).Nodup := by rw [List.append_nil]; exact List.nodup_range
    have hnew : n + 1 ∉ List.range (n + 1) ++ [] := by
      rw [List.append_nil, List.mem_range]
      exact Nat.lt_irrefl _
    rw [← List.append_nil (List.range (n + 1))] at ih
    have hzero : (reserve (α := α) size (n + 1) n).next = 0 := by
      rw [List.append_nil] at ih
      exact Linked.next_last ih hlast
    have hlinked := ih.insert hnodup hlast hnew
    rw [List.range_succ]
    refine hlinked.congr fun a _ => ?_
    rw [reserve, Nat.add_sub_cancel]
    by_cases ha : a = n + 1
    · subst ha
      rw [Function.update_self, Function.update_of_ne (Nat.succ_ne_self n), Function.update_self, hzero]
      rfl
    · rw [Function.update_of_ne ha]
      by_cases hb : a = n
      · subst hb
        rw [Function.update_self, Function.update_self]
      · rw [Function.update_of_ne hb, Function.update_of_ne hb, Function.update_of_ne ha]

/-- What the constructor makes. -/
theorem sound_init (hblock : ∃ k, maxBlockSize = 2 ^ (k + 1)) (hpos : 0 < maxSize) (hfit : maxSize < 2 ^ 64) :
    Sound (Shared.init (α := α) maxBlockSize maxSize) := by
  have hlargest : ∃ k, ceilToPow2 (maxSize + 1) = 2 ^ (k + 1) := by
    have hsize : 0 < maxSize.size := Nat.size_pos.mpr hpos
    refine ⟨maxSize.size - 1, ?_⟩
    rw [ceilToPow2_eq hfit, Nat.succ_sub_one, Nat.sub_add_cancel hsize]
  unfold Shared.init new
  dsimp only
  split
  · obtain ⟨k, hk⟩ := hblock
    have htwo : 2 ≤ maxBlockSize := by
      have hpow := Nat.two_pow_pos k
      rw [hk, Nat.pow_succ]
      omega
    -- there is at least one block
    obtain ⟨n, hn⟩ : ∃ n, (maxSize + maxBlockSize * 2 - 3) / (maxBlockSize - 1) = n + 1 := by
      refine Nat.exists_eq_add_one.mpr (Nat.div_pos ?_ ?_) <;> omega
    have hrange : [0] ++ List.range' 1 n = List.range (n + 1) := by
      rw [List.range_eq_range', List.range'_succ]
      rfl
    rw [hn]
    refine ⟨[0], List.range' 1 n, fun _ => [], ?_, ?_, rfl, rfl, fun a ha => ?_, ⟨k, hk⟩, fun a _ => ?_,
      fun a ha => (List.not_mem_nil ha).elim, fun _ _ => rfl, rfl, trivial, trivial, trivial⟩
    · rw [hrange]
      exact reserve_linked maxBlockSize n
    · rw [hrange]
      exact List.nodup_range
    · rw [hrange] at ha
      exact List.mem_range.mp ha
    · obtain ⟨next, hnext⟩ := reserve_block (α := α) maxBlockSize (n + 1) a
      dsimp only
      rw [hnext, hk]
      exact Block.Holds.make k next
  · obtain ⟨k, hk⟩ := hlargest
    refine ⟨[0], [], fun _ => [], List.isChain_pair.mpr rfl, List.nodup_singleton 0, rfl, rfl, fun a ha => ?_,
      ⟨k, hk⟩, fun a _ => ?_, fun a ha => (List.not_mem_nil ha).elim, fun a ha => (List.not_mem_nil ha).elim, rfl,
      trivial, trivial, trivial⟩
    · rw [List.append_nil, List.mem_singleton] at ha
      subst ha
      exact Nat.zero_lt_one
    · dsimp only
      rw [hk]
      exact Block.Holds.make k 0

/-! ### The steps -/

variable {s s' : Shared α}

/-- The producer calls `enqueue`. -/
theorem Sound.enqueue (h : Sound s) (x : α) : Sound (s.enqueue x) := by
  obtain ⟨live, free, holds, h⟩ := h
  obtain ⟨q, p, c, history⟩ := s
  cases p with
  | done ok =>
    refine ⟨live, free, holds, ?_⟩
    unfold Shared.enqueue
    dsimp only
    split
    · next hroom => exact h.goProducer (fun _ => rfl) (fun _ => rfl) hroom
    · exact h.goProducer (fun _ => rfl) (fun _ => rfl) trivial
  | _ => exact ⟨live, free, holds, h⟩

/-- The consumer calls `try_dequeue`. -/
theorem Sound.tryDequeue (h : Sound s) : Sound s.tryDequeue := by
  obtain ⟨live, free, holds, h⟩ := h
  obtain ⟨q, p, c, history⟩ := s
  cases c with
  | done result =>
    refine ⟨live, free, holds, ?_⟩
    unfold Shared.tryDequeue
    dsimp only
    split
    · next hseen => exact h.goConsumer (fun _ => rfl) rfl rfl h.fifo ⟨rfl, hseen⟩
    · exact h.goConsumer (fun _ => rfl) rfl rfl h.fifo trivial
  | _ => exact ⟨live, free, holds, h⟩

/-- The producer goes to its next place, and nothing goes wrong. -/
theorem Sound.producerStep (h : Sound s) (memory : Bool) :
    ∃ s', s.producerStep maxBlockSize memory = some s' ∧ Sound s' := by
  obtain ⟨live, free, holds, h⟩ := h
  obtain ⟨q, p, c, history⟩ := s
  cases p with
  | done ok => exact ⟨_, rfl, live, free, holds, h⟩
  | front x => exact ⟨_, rfl, live, free, holds, h.front⟩
  | construct x =>
    have hraw : q.tailB.data[q.tailB.tail]? = some none := h.raw (h.mem_live h.tail_mem) rfl
    refine ⟨_, ?_, live, free, holds, h.construct⟩
    unfold Shared.producerStep
    dsimp only
    rw [hraw]
  | publish x => exact ⟨_, rfl, live, free, _, h.publish⟩
  | frontBlock x => exact ⟨_, rfl, live, free, holds, h.frontBlock⟩
  | nextFront x =>
    obtain ⟨rest, -, hblock⟩ := h.next_empty
    exact ⟨_, if_pos (hblock.front_eq_tail.mpr rfl), live, free, holds, h.nextFront⟩
  | constructNext x b =>
    have hfree : b ∈ live ++ free := List.mem_append_right live (List.mem_of_mem_head? h.producer.1)
    refine ⟨_, ?_, live, free, holds, h.constructNext⟩
    unfold Shared.producerStep
    dsimp only
    rw [h.raw hfree rfl]
  | publishNext x b => exact ⟨_, rfl, live, free, _, h.publishNext⟩
  | allocate x =>
    cases memory with
    | false => exact ⟨_, rfl, live, free, holds, h.goProducer (fun _ => rfl) (fun _ => rfl) trivial⟩
    | true => exact ⟨_, rfl, live, q.fresh :: free, _, h.allocate⟩
  | advance x b =>
    obtain ⟨rest, -, hnext⟩ := h.advance
    exact ⟨_, rfl, live ++ [b], rest, holds, hnext⟩

/-- The consumer goes to its next place, and nothing goes wrong. -/
theorem Sound.consumerStep (h : Sound s) : ∃ s', s.consumerStep = some s' ∧ Sound s' := by
  obtain ⟨live, free, holds, h⟩ := h
  obtain ⟨q, p, c, history⟩ := s
  cases c with
  | done result => exact ⟨_, rfl, live, free, holds, h⟩
  | tail => exact ⟨_, rfl, live, free, holds, h.tail⟩
  | tailBlock =>
    have htail := h.tailBlock
    split at htail
    · next hne => exact ⟨_, if_pos hne, live, free, holds, htail⟩
    · next heq => exact ⟨_, if_neg heq, live, free, holds, htail⟩
  | tailAgain => exact ⟨_, rfl, live, free, holds, h.tailAgain⟩
  | next => exact ⟨_, rfl, live, free, holds, h.next⟩
  | nextTail b => exact ⟨_, if_pos h.next_full, live, free, holds, h.nextTail⟩
  | advance b => exact ⟨_, rfl, live.tail, free ++ [q.frontBlock], holds, h.advanceFront⟩
  | take b =>
    obtain ⟨x, rest, hrest, hthere⟩ := h.there
    refine ⟨_, ?_, live, free, holds, h.take hrest⟩
    unfold Shared.consumerStep
    dsimp only
    rw [hthere]
  | publish b x =>
    obtain ⟨holds', hnext⟩ := h.publishFront
    exact ⟨_, rfl, live, free, holds', hnext⟩

/-- Every step keeps the invariant, and none goes wrong. -/
theorem Sound.step (h : Sound s) (step : QueueStep α) : ∃ s', s.step maxBlockSize step = some s' ∧ Sound s' := by
  cases step with
  | enqueue x => exact ⟨_, rfl, h.enqueue x⟩
  | producer memory => exact h.producerStep memory
  | tryDequeue => exact ⟨_, rfl, h.tryDequeue⟩
  | consumer => exact h.consumerStep

theorem Sound.steps (h : Sound s) (l : List (QueueStep α)) : ∃ s', s.steps maxBlockSize l = some s' ∧ Sound s' :=
  Interleaved.goes (fun _ step h => h.step step) h l

/-- No step of a run goes wrong. -/
theorem run_sound (hblock : ∃ k, maxBlockSize = 2 ^ (k + 1)) (hpos : 0 < maxSize) (hfit : maxSize < 2 ^ 64)
    (l : List (QueueStep α)) : ∃ s, run maxBlockSize maxSize l = some s ∧ Sound s :=
  (sound_init hblock hpos hfit).steps l

/-- In every run of a producer and a consumer no assertion fails and no slot is misused. The
elements leave in the order in which they have entered, and a call of `try_dequeue` that
returns `false` has found nothing that had entered before it. -/
theorem queue_fifo (hblock : ∃ k, maxBlockSize = 2 ^ (k + 1)) (hpos : 0 < maxSize) (hfit : maxSize < 2 ^ 64)
    (l : List (QueueStep α)) :
    ∃ s, run maxBlockSize maxSize l = some s ∧ s.left <+: s.entered ∧ FirstInFirstOut s.history := by
  obtain ⟨s, hrun, live, free, holds, h⟩ := run_sound hblock hpos hfit l
  exact ⟨s, hrun, h.fifo.left_begins, h.fifo⟩

/-- The queue that the daemon makes, with its default sizes, while the consumer looks for the
element that the producer puts in. -/
theorem queue_fifo_default :
    ∃ s : Shared ℕ, run 512 15 [.enqueue 3, .producer true, .tryDequeue, .consumer, .producer true, .consumer] = some s ∧
      s.left <+: s.entered ∧ FirstInFirstOut s.history :=
  queue_fifo ⟨8, rfl⟩ (by decide) (by decide) _

/-! ### How long a call takes -/

/-- The accesses of the producer until it returns. -/
@[simp] def Producer.rank : Producer α → ℕ
  | .done _ => 0
  | .publish _ | .advance _ _ => 1
  | .construct _ | .publishNext _ _ | .allocate _ => 2
  | .constructNext _ _ => 3
  | .nextFront _ => 4
  | .frontBlock _ => 5
  | .front _ => 6

/-- The element that the producer enqueues. -/
@[simp] def Producer.element : Producer α → Option α
  | .done _ => none
  | .publish x | .advance x _ | .construct x | .publishNext x _ | .allocate x | .constructNext x _ | .nextFront x
  | .frontBlock x | .front x => some x

/-- The producer is in a call when it has an element. -/
theorem Producer.rank_ne_zero {p : Producer α} : p.rank ≠ 0 ↔ ∃ x, p.element = some x := by
  cases p <;> simp

/-- The accesses of the consumer until it returns. -/
@[simp] def Consumer.rank : Consumer α → ℕ
  | .done _ => 0
  | .publish _ _ => 1
  | .take _ => 2
  | .advance _ => 3
  | .nextTail _ => 4
  | .next => 5
  | .tailAgain => 6
  | .tailBlock => 7
  | .tail => 8

/-- A step of the producer in a call: it comes nearer to its return, and the element enters when
it returns `true`. -/
theorem producerStep_spec {memory : Bool} (h : s.producerStep maxBlockSize memory = some s') :
    s'.consumer = s.consumer ∧ s'.producer.rank ≤ s.producer.rank - 1 ∧
      (s'.history = s.history ∧
          (s'.producer.element = s.producer.element ∨ memory = false ∧ s'.producer = .done false) ∨
        ∃ x, s.producer.element = some x ∧ s'.producer = .done true ∧ s'.history = .enqueued x :: s.history) := by
  obtain ⟨q, p, c, history⟩ := s
  cases p with
  | done ok => cases h; exact ⟨rfl, le_rfl, .inl ⟨rfl, .inl rfl⟩⟩
  | front x =>
    cases h
    refine ⟨rfl, ?_, .inl ⟨rfl, .inl ?_⟩⟩ <;> dsimp only <;> split <;> simp
  | construct x =>
    unfold Shared.producerStep at h
    dsimp only at h
    split at h
    · cases h; exact ⟨rfl, le_rfl, .inl ⟨rfl, .inl rfl⟩⟩
    · cases h
  | publish x => cases h; exact ⟨rfl, le_rfl, .inr ⟨x, rfl, rfl, rfl⟩⟩
  | frontBlock x =>
    cases h
    refine ⟨rfl, ?_, .inl ⟨rfl, .inl ?_⟩⟩ <;> dsimp only <;> split <;> simp
  | nextFront x =>
    unfold Shared.producerStep at h
    dsimp only at h
    split at h
    · cases h; exact ⟨rfl, le_rfl, .inl ⟨rfl, .inl rfl⟩⟩
    · cases h
  | constructNext x b =>
    unfold Shared.producerStep at h
    dsimp only at h
    split at h
    · cases h; exact ⟨rfl, le_rfl, .inl ⟨rfl, .inl rfl⟩⟩
    · cases h
  | publishNext x b => cases h; exact ⟨rfl, le_rfl, .inl ⟨rfl, .inl rfl⟩⟩
  | allocate x =>
    cases memory with
    | false => cases h; exact ⟨rfl, Nat.zero_le _, .inl ⟨rfl, .inr ⟨rfl, rfl⟩⟩⟩
    | true => cases h; exact ⟨rfl, le_rfl, .inl ⟨rfl, .inl rfl⟩⟩
  | advance x b => cases h; exact ⟨rfl, le_rfl, .inr ⟨x, rfl, rfl, rfl⟩⟩

/-- A step of the consumer in a call: it comes nearer to its return, and an element leaves or
the call returns `false` only when it returns. -/
theorem consumerStep_spec (h : s.consumerStep = some s') :
    s'.producer = s.producer ∧ s'.consumer.rank ≤ s.consumer.rank - 1 ∧
      (s'.history = s.history ∧ (s'.consumer = s.consumer ∨ s'.consumer.rank ≠ 0) ∨
        s'.history = .empty :: s.history ∧ s'.consumer = .done none ∨
        ∃ x, s'.history = .dequeued x :: s.history ∧ s'.consumer = .done (some x)) := by
  obtain ⟨q, p, c, history⟩ := s
  cases c with
  | done result => cases h; exact ⟨rfl, le_rfl, .inl ⟨rfl, .inl rfl⟩⟩
  | tail =>
    cases h
    refine ⟨rfl, ?_, .inl ⟨rfl, .inr ?_⟩⟩ <;> dsimp only <;> split <;> simp
  | tailBlock =>
    unfold Shared.consumerStep at h
    dsimp only at h
    split at h
    · cases h; exact ⟨rfl, le_rfl, .inl ⟨rfl, .inr (Nat.succ_ne_zero _)⟩⟩
    · cases h; exact ⟨rfl, Nat.zero_le _, .inr (.inl ⟨rfl, rfl⟩)⟩
  | tailAgain =>
    cases h
    refine ⟨rfl, ?_, .inl ⟨rfl, .inr ?_⟩⟩ <;> dsimp only <;> split <;> simp
  | next => cases h; exact ⟨rfl, le_rfl, .inl ⟨rfl, .inr (Nat.succ_ne_zero _)⟩⟩
  | nextTail b =>
    unfold Shared.consumerStep at h
    dsimp only at h
    split at h
    · cases h; exact ⟨rfl, le_rfl, .inl ⟨rfl, .inr (Nat.succ_ne_zero _)⟩⟩
    · cases h
  | advance b => cases h; exact ⟨rfl, le_rfl, .inl ⟨rfl, .inr (Nat.succ_ne_zero _)⟩⟩
  | take b =>
    unfold Shared.consumerStep at h
    dsimp only at h
    split at h
    · cases h; exact ⟨rfl, le_rfl, .inl ⟨rfl, .inr (Nat.succ_ne_zero _)⟩⟩
    · cases h
  | publish b x => cases h; exact ⟨rfl, le_rfl, .inr (.inr ⟨x, rfl, rfl⟩)⟩

/-- A call of `enqueue` leaves the consumer and the history. -/
theorem enqueue_spec (s : Shared α) (x : α) :
    (s.enqueue x).consumer = s.consumer ∧ (s.enqueue x).history = s.history := by
  obtain ⟨q, p, c, history⟩ := s
  cases p <;> exact ⟨rfl, rfl⟩

/-- A call of `try_dequeue` leaves the producer, and nothing enters or leaves. -/
theorem tryDequeue_spec (s : Shared α) :
    s.tryDequeue.producer = s.producer ∧ s.tryDequeue.entered = s.entered ∧ s.tryDequeue.left = s.left := by
  obtain ⟨q, p, c, history⟩ := s
  cases c <;> exact ⟨rfl, rfl, rfl⟩

/-- A call of `try_dequeue` begins. -/
theorem tryDequeue_called (h : s.consumer.rank = 0) :
    s.tryDequeue.consumer.rank ≠ 0 ∧ s.tryDequeue.awaited = s.entered.length := by
  obtain ⟨q, p, c, history⟩ := s
  cases c with
  | done result =>
    refine ⟨?_, rfl⟩
    unfold Shared.tryDequeue
    dsimp only
    split <;> simp
  | _ => cases h

/-- Nothing enters in a step of the consumer. -/
theorem consumerStep_entered (h : s.consumerStep = some s') : s'.entered = s.entered := by
  obtain ⟨-, -, ⟨hhistory, -⟩ | ⟨hhistory, -⟩ | ⟨x, hhistory, -⟩⟩ := consumerStep_spec h
  · rw [Shared.entered, hhistory]
  all_goals
    rw [Shared.entered, hhistory]
    rfl

/-! ### A call of the consumer -/

/-- Whether a step is an access of the consumer. -/
def QueueStep.isConsumer : QueueStep α → Bool
  | .consumer => true
  | _ => false

/-- The consumer is in a call that began when more than `left` had entered, at least `entered`. -/
structure Calling (left entered : List α) (s : Shared α) : Prop where
  inside : s.consumer.rank ≠ 0
  left_eq : s.left = left
  more : left.length < s.awaited
  grown : entered <+: s.entered

/-- The call has returned the element behind `left`. -/
def Served (left entered : List α) (s : Shared α) : Prop :=
  entered <+: s.entered ∧ ∃ x, s.consumer = .done (some x) ∧ s.left = left ++ [x] ∧ s.left <+: s.entered

variable {left entered : List α}

/-- A step of the producer leaves a call of the consumer alone. -/
theorem step_producer {step : QueueStep α} (h : s.step maxBlockSize step = some s') (hcall : step ≠ .tryDequeue)
    (hconsumer : step ≠ .consumer) :
    s'.consumer = s.consumer ∧ s'.left = s.left ∧ s'.awaited = s.awaited ∧ s.entered <+: s'.entered := by
  have hsame : s'.history = s.history → s'.left = s.left ∧ s'.awaited = s.awaited ∧ s.entered <+: s'.entered := by
    intro hhistory
    rw [Shared.left, Shared.awaited, Shared.entered, Shared.entered, hhistory]
    exact ⟨rfl, rfl, List.prefix_rfl⟩
  cases step with
  | enqueue x =>
    cases h
    obtain ⟨hstays, hhistory⟩ := enqueue_spec s x
    exact ⟨hstays, hsame hhistory⟩
  | producer memory =>
    obtain ⟨hstays, -, ⟨hhistory, -⟩ | ⟨x, -, -, hhistory⟩⟩ := producerStep_spec h
    · exact ⟨hstays, hsame hhistory⟩
    · rw [Shared.left, Shared.awaited, Shared.entered, Shared.entered, hhistory]
      exact ⟨hstays, rfl, rfl, List.prefix_append _ _⟩
  | tryDequeue => exact absurd rfl hcall
  | consumer => exact absurd rfl hconsumer

/-- A step of the consumer in a call: it comes nearer to its return, and does not return `false`. -/
theorem Calling.consumerStep (h : Calling left entered s) (hstep : s.consumerStep = some s') (hsound : Sound s') :
    Calling left entered s' ∧ s'.consumer.rank < s.consumer.rank ∨ Served left entered s' := by
  obtain ⟨live, free, holds, hinv⟩ := hsound
  have hfifo := hinv.fifo
  obtain ⟨-, hrank, ⟨hhistory, hplace⟩ | ⟨hhistory, -⟩ | ⟨x, hhistory, hdone⟩⟩ := consumerStep_spec hstep
  · have hlt : s'.consumer.rank < s.consumer.rank := by
      have := h.inside
      omega
    have hinside : s'.consumer.rank ≠ 0 := by
      rcases hplace with hsame | hinside
      · exact absurd (congrArg Consumer.rank hsame) (Nat.ne_of_lt hlt)
      · exact hinside
    refine .inl ⟨⟨hinside, ?_, ?_, ?_⟩, hlt⟩
    · rw [Shared.left, hhistory]
      exact h.left_eq
    · rw [Shared.awaited, hhistory]
      exact h.more
    · rw [Shared.entered, hhistory]
      exact h.grown
  · -- all that had entered before the call would have left, which it has not
    rw [hhistory] at hfifo
    have hall : s.awaited ≤ s.left.length := hfifo.1
    have hmore := h.more
    rw [h.left_eq] at hall
    omega
  · refine .inr ⟨?_, x, hdone, ?_, hfifo.left_begins⟩
    · rw [Shared.entered, hhistory]
      exact h.grown
    · rw [Shared.left, hhistory, ← h.left_eq]
      rfl

/-- An element that has been returned stays so until the next call. -/
theorem Served.step {step : QueueStep α} (h : Served left entered s) (hcall : step ≠ .tryDequeue)
    (hstep : s.step maxBlockSize step = some s') : Served left entered s' := by
  by_cases hconsumer : step = .consumer
  · subst hconsumer
    obtain ⟨-, x, hdone, -, -⟩ := id h
    have hstep : s.consumerStep = some s' := hstep
    unfold Shared.consumerStep at hstep
    rw [hdone] at hstep
    cases hstep
    exact h
  · obtain ⟨hgrown, x, hdone, hleft, hlead⟩ := h
    obtain ⟨hstays, hleft', -, hgrows⟩ := step_producer hstep hcall hconsumer
    exact ⟨hgrown.trans hgrows, x, hstays.trans hdone, hleft'.trans hleft, hleft'.symm ▸ hlead.trans hgrows⟩

/-- A call that has begun when there was an element returns the next one. -/
theorem Calling.steps {l : List (QueueStep α)} (h : Calling left entered s) (hs : Sound s) (hcalls : .tryDequeue ∉ l)
    (hlong : s.consumer.rank ≤ l.countP QueueStep.isConsumer) (hsteps : s.steps maxBlockSize l = some s') :
    Served left entered s' := by
  have hcall : ∀ step ∈ l, step ≠ .tryDequeue := by
    rintro step hmem rfl
    exact hcalls hmem
  refine @Interleaved.ends _ _ _ Sound (Calling left entered) _ _ _ _ (fun s => s.consumer.rank) _ ?_ ?_
    (fun _ h => h.inside) (fun _ step h => h.step step) hs h hlong hsteps
  · intro s s' step hmem _ hstep hsound hp
    by_cases hconsumer : step = .consumer
    · subst hconsumer
      rcases hp.consumerStep hstep hsound with ⟨hcalling, hlt⟩ | hserved
      · exact .inl ⟨hcalling, hlt.le, fun _ => hlt⟩
      · exact .inr hserved
    · obtain ⟨hstays, hleft, hawaited, hgrows⟩ := step_producer hstep (hcall step hmem) hconsumer
      refine .inl ⟨⟨?_, hleft.trans hp.left_eq, ?_, hp.grown.trans hgrows⟩, ?_, fun hown => ?_⟩
      · rw [hstays]
        exact hp.inside
      · rw [hawaited]
        exact hp.more
      · rw [hstays]
      · cases step with
        | consumer => exact absurd rfl hconsumer
        | _ => cases hown
  · exact fun s s' step hmem hstep hq => hq.step (hcall step hmem) hstep

/-- What has left behind `left` is the element that had entered behind it. -/
theorem next_of_prefix {later : List α} {x : α} (hgrown : entered <+: later) (hmore : left.length < entered.length)
    (hlead : left ++ [x] <+: later) : entered[left.length]? = some x ∧ entered[left.length] = x := by
  have hat : later[left.length]? = some x := by
    obtain ⟨more, rfl⟩ := hlead
    rw [List.append_assoc, List.getElem?_append_right le_rfl, Nat.sub_self]
    rfl
  obtain ⟨more, rfl⟩ := hgrown
  rw [List.getElem?_append_left hmore] at hat
  exact ⟨hat, (List.getElem?_eq_some_iff.mp hat).2⟩

/-- A call of `try_dequeue` that begins when an element has entered and not left returns the
next one, after at most eight accesses of the consumer, whatever the producer does meanwhile. -/
theorem dequeue_delivers (hblock : ∃ k, maxBlockSize = 2 ^ (k + 1)) (hpos : 0 < maxSize) (hfit : maxSize < 2 ^ 64)
    {before l : List (QueueStep α)} (hrun : run maxBlockSize maxSize before = some s) (hdone : s.consumer.rank = 0)
    (hmore : s.left.length < s.entered.length) (hcalls : .tryDequeue ∉ l)
    (hlong : 8 ≤ l.countP QueueStep.isConsumer) :
    ∃ s', s.tryDequeue.steps maxBlockSize l = some s' ∧ s'.consumer = .done s.entered[s.left.length]? ∧
      s'.left = s.left ++ [s.entered[s.left.length]] := by
  obtain ⟨s₀, hrun₀, hsound⟩ := run_sound hblock hpos hfit before
  obtain rfl : s₀ = s := Option.some.inj (hrun₀.symm.trans hrun)
  obtain ⟨-, hentered, hleft⟩ := tryDequeue_spec s₀
  obtain ⟨hinside, hawaited⟩ := tryDequeue_called hdone
  have hcalling : Calling s₀.left s₀.entered s₀.tryDequeue :=
    ⟨hinside, hleft, by rw [hawaited]; exact hmore, by rw [hentered]⟩
  have hrank : s₀.tryDequeue.consumer.rank ≤ 8 := by
    cases s₀.tryDequeue.consumer <;> simp
  obtain ⟨s', hsteps, -⟩ := @Sound.steps _ maxBlockSize _ hsound.tryDequeue l
  obtain ⟨hgrown, x, hx, hleft', hlead⟩ := hcalling.steps hsound.tryDequeue hcalls (hrank.trans hlong) hsteps
  obtain ⟨hnext, hget⟩ := next_of_prefix hgrown hmore (hleft' ▸ hlead)
  exact ⟨s', hsteps, hnext ▸ hx, by rw [hleft', hget]⟩

/-- Two elements have entered, and a third one is on its way. -/
theorem dequeue_delivers_first :
    ∃ s : Shared ℕ, run 512 15 [.enqueue 3, .producer true, .producer true, .enqueue 4, .producer true, .producer true,
        .enqueue 5, .producer true] = some s ∧
      ∃ s', s.tryDequeue.steps 512 (.producer true :: List.replicate 8 .consumer) = some s' ∧
        s'.consumer = .done (some 3) ∧ s'.left = [3] :=
  ⟨_, rfl, dequeue_delivers ⟨8, rfl⟩ (show 0 < 15 by decide) (by decide) (show run 512 15 [.enqueue 3, .producer true,
    .producer true, .enqueue 4, .producer true, .producer true, .enqueue 5, .producer true] = some _ from rfl) rfl
    (by decide) (by simp) (by decide)⟩

/-! ### A call of the producer -/

/-- Whether a step is an access of the producer. -/
def QueueStep.isProducer : QueueStep α → Bool
  | .producer _ => true
  | _ => false

/-- The producer enqueues `x`, behind `entered`. -/
structure Entering (x : α) (entered : List α) (s : Shared α) : Prop where
  element : s.producer.element = some x
  entered_eq : s.entered = entered

/-- The call has returned `true`, and `x` has entered. -/
def Entered (x : α) (entered : List α) (s : Shared α) : Prop := s.producer = .done true ∧ s.entered = entered ++ [x]

/-- A step of the consumer leaves a call of the producer alone. -/
theorem step_consumer {step : QueueStep α} (h : s.step maxBlockSize step = some s') (hcall : ∀ x, step ≠ .enqueue x)
    (hproducer : step.isProducer = false) : s'.producer = s.producer ∧ s'.entered = s.entered := by
  cases step with
  | enqueue x => exact absurd rfl (hcall x)
  | producer memory => cases hproducer
  | tryDequeue =>
    cases h
    obtain ⟨hproducer, hentered, -⟩ := tryDequeue_spec s
    exact ⟨hproducer, hentered⟩
  | consumer =>
    exact ⟨(consumerStep_spec h).1, consumerStep_entered h⟩

/-- A call of `enqueue` for which there is memory returns `true` after at most six accesses of
the producer, and its element has entered behind all others. -/
theorem enqueue_enters (hblock : ∃ k, maxBlockSize = 2 ^ (k + 1)) (hpos : 0 < maxSize) (hfit : maxSize < 2 ^ 64)
    {before l : List (QueueStep α)} (hrun : run maxBlockSize maxSize before = some s) (hdone : s.producer.rank = 0)
    (x : α) (hcalls : ∀ y, .enqueue y ∉ l) (hmemory : .producer false ∉ l)
    (hlong : 6 ≤ l.countP QueueStep.isProducer) :
    ∃ s', (s.enqueue x).steps maxBlockSize l = some s' ∧ s'.producer = .done true ∧ s'.entered = s.entered ++ [x] := by
  obtain ⟨s₀, hrun₀, hsound⟩ := run_sound hblock hpos hfit before
  obtain rfl : s₀ = s := Option.some.inj (hrun₀.symm.trans hrun)
  obtain ⟨ok, hok⟩ : ∃ ok, s₀.producer = .done ok := by
    cases hp : s₀.producer with
    | done ok => exact ⟨ok, rfl⟩
    | _ => rw [hp] at hdone; cases hdone
  have hentering : Entering x s₀.entered (s₀.enqueue x) := by
    refine ⟨?_, by rw [Shared.entered, (enqueue_spec s₀ x).2]⟩
    unfold Shared.enqueue
    rw [hok]
    dsimp only
    split <;> rfl
  have hrank : (s₀.enqueue x).producer.rank ≤ 6 := by
    cases (s₀.enqueue x).producer <;> simp
  have hinside : ∀ s, Entering x s₀.entered s → s.producer.rank ≠ 0 :=
    fun s h => Producer.rank_ne_zero.mpr ⟨x, h.element⟩
  have hcall : ∀ step ∈ l, ∀ y, step ≠ .enqueue y := by
    rintro step hmem y rfl
    exact hcalls y hmem
  obtain ⟨s', hsteps, -⟩ := @Sound.steps _ maxBlockSize _ (hsound.enqueue x) l
  refine ⟨s', hsteps, @Interleaved.ends _ _ _ Sound (Entering x s₀.entered) (Entered x s₀.entered) _ _ _
    (fun s => s.producer.rank) _ ?_ ?_ hinside (fun _ step h => h.step step) (hsound.enqueue x) hentering
    (hrank.trans hlong) hsteps⟩
  · intro s s' step hmem _ hstep _ hp
    cases hown : step.isProducer with
    | false =>
      obtain ⟨hstays, hentered⟩ := step_consumer hstep (hcall step hmem) hown
      refine .inl ⟨⟨hstays.symm ▸ hp.element, hentered.trans hp.entered_eq⟩, ?_, fun h => Bool.noConfusion h⟩
      rw [hstays]
    | true =>
      cases step with
      | producer memory =>
        obtain ⟨-, hle, ⟨hhistory, hsame | ⟨rfl, -⟩⟩ | ⟨y, hy, hdone, hhistory⟩⟩ := producerStep_spec hstep
        · have hlt : s'.producer.rank < s.producer.rank := by
            have := hinside s hp
            omega
          exact .inl ⟨⟨hsame.trans hp.element, by rw [Shared.entered, hhistory]; exact hp.entered_eq⟩, hlt.le, fun _ => hlt⟩
        · exact absurd hmem hmemory
        · obtain rfl : y = x := Option.some.inj (hy.symm.trans hp.element)
          refine .inr ⟨hdone, ?_⟩
          rw [Shared.entered, hhistory, ← hp.entered_eq]
          rfl
      | _ => cases hown
  · rintro s s' step hmem hstep ⟨hdone, hentered⟩
    cases hown : step.isProducer with
    | false =>
      obtain ⟨hstays, hsame⟩ := step_consumer hstep (hcall step hmem) hown
      exact ⟨hstays.trans hdone, hsame.trans hentered⟩
    | true =>
      cases step with
      | producer memory =>
        have hstep : s.producerStep maxBlockSize memory = some s' := hstep
        unfold Shared.producerStep at hstep
        rw [hdone] at hstep
        cases hstep
        exact ⟨hdone, hentered⟩
      | _ => cases hown

/-- An element is enqueued while the consumer looks for one. -/
theorem enqueue_enters_first :
    ∃ s : Shared ℕ, run 512 15 [.tryDequeue, .consumer] = some s ∧
      ∃ s', (s.enqueue 3).steps 512 (.consumer :: List.replicate 6 (.producer true)) = some s' ∧
        s'.producer = .done true ∧ s'.entered = [3] :=
  ⟨_, rfl, enqueue_enters ⟨8, rfl⟩ (show 0 < 15 by decide) (by decide)
    (show run 512 15 [.tryDequeue, .consumer] = some _ from rfl) rfl 3 (by simp) (by simp) (by decide)⟩

end ReaderWriterQueue

end Usbmuxd
