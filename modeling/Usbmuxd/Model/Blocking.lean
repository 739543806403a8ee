import Usbmuxd.Model.Queue

/-!
# The queue that a thread waits at

`LightweightSemaphore` of `readerwriterqueue/atomicops.h` and `BlockingReaderWriterQueue` of
`readerwriterqueue/readerwriterqueue.h`: the queue of `Usbmuxd.Model.Queue` with a semaphore
that counts its elements, so that the consumer can sleep until there is one. The write thread
of a device waits at `tx.q` with `wait_dequeue`, and empties it with `try_dequeue` when it stops.

## The model

The semaphore is a count that both threads add to, and under it a semaphore of the system,
which the consumer only waits at when the count was not positive. The steps are the accesses
to these two and, in the calls of the inner queue, the accesses of `Usbmuxd.Model.Queue`. A
step is `none` when an assertion fails or the inner queue goes wrong. `ssize_t` is ℤ: the
count stays below the number of elements. What waits with a timeout is left out: nothing in the
repository calls it, nor `try_enqueue`, `peek`, `pop` and `size_approx`.
-/

namespace Usbmuxd

/-- `LightweightSemaphore`. -/
structure LightweightSemaphore where
  /-- `m_count`. -/
  count : ℤ
  /-- `m_sema`: how often it can be waited at without sleeping. -/
  sema : ℕ

namespace BlockingReaderWriterQueue

variable {α : Type*}

/-- Where the producer is in `enqueue`. -/
inductive Producer where
  /-- Its last call has returned `ok`. -/
  | done (ok : Bool)
  /-- In `inner.enqueue`. -/
  | inner
  /-- In `signal`, in front of `m_count.fetch_add_release(1)`. -/
  | signal
  /-- In `signal`, in front of `m_sema.signal(1)`. -/
  | wake

/-- Where the consumer is in `try_dequeue` or `wait_dequeue`. -/
inductive Consumer (α : Type*) where
  /-- Its last call has returned an element or `false`. -/
  | done (result : Option α)
  /-- In front of the load of `tryWait`; `wait` says whether the call is `wait_dequeue`. -/
  | tryWait (wait : Bool)
  /-- The count was positive: in front of `m_count.fetch_add_acquire(-1)`. -/
  | acquire
  /-- In `waitWithPartialSpinning`: in front of a load, with `n` to come, or else in front of
  `m_count.fetch_add_acquire(-1)`. -/
  | spin (n : ℕ)
  /-- In `m_sema.wait()`. -/
  | blocked
  /-- In `inner.try_dequeue`. -/
  | inner

end BlockingReaderWriterQueue

/-- `BlockingReaderWriterQueue`, and where its two threads are. -/
structure BlockingReaderWriterQueue (α : Type*) where
  inner : ReaderWriterQueue.Shared α
  sema : LightweightSemaphore
  producer : BlockingReaderWriterQueue.Producer
  consumer : BlockingReaderWriterQueue.Consumer α

namespace BlockingReaderWriterQueue

variable {α : Type*}

/-- A new queue. -/
def init (maxBlockSize maxSize : ℕ) : BlockingReaderWriterQueue α :=
  ⟨.init maxBlockSize maxSize, ⟨0, 0⟩, .done true, .done none⟩

/-- The items that have entered, in order. -/
abbrev entered (s : BlockingReaderWriterQueue α) : List α := s.inner.entered

/-- The items that have left, in order. -/
abbrev left (s : BlockingReaderWriterQueue α) : List α := s.inner.left

/-- The producer calls `enqueue`. -/
def enqueue (x : α) (s : BlockingReaderWriterQueue α) : BlockingReaderWriterQueue α :=
  match s.producer with
  | .done _ => { s with inner := s.inner.enqueue x, producer := .inner }
  | _ => s

/-- The consumer calls `wait_dequeue`, or else `try_dequeue`. -/
def dequeue (wait : Bool) (s : BlockingReaderWriterQueue α) : BlockingReaderWriterQueue α :=
  match s.consumer with
  | .done _ => { s with consumer := .tryWait wait }
  | _ => s

/-- The consumer has waited, and calls `inner.try_dequeue`. -/
def callInner (s : BlockingReaderWriterQueue α) : BlockingReaderWriterQueue α :=
  { s with inner := s.inner.tryDequeue, consumer := .inner }

/-- The next access of the producer. `memory` says whether `malloc` succeeds. -/
def producerStep (maxBlockSize : ℕ) (memory : Bool) (s : BlockingReaderWriterQueue α) :
    Option (BlockingReaderWriterQueue α) :=
  match s.producer with
  | .done _ => some s
  | .inner =>
    (s.inner.producerStep maxBlockSize memory).map fun inner =>
      { s with
        inner
        producer := match inner.producer with
          | .done true => .signal
          | .done false => .done false
          | _ => .inner }
  | .signal =>
    let oldCount := s.sema.count
    if oldCount ≥ -1 then
      some { s with
        sema := { s.sema with count := oldCount + 1 }
        producer := if oldCount < 0 then .wake else .done true }
    else none
  | .wake => some { s with sema := { s.sema with sema := s.sema.sema + 1 }, producer := .done true }

/-- The next access of the consumer. -/
def consumerStep (s : BlockingReaderWriterQueue α) : Option (BlockingReaderWriterQueue α) :=
  match s.consumer with
  | .done _ => some s
  | .tryWait wait =>
    some { s with
      consumer := if s.sema.count > 0 then .acquire else if wait then .spin 10000 else .done none }
  | .acquire => some { s with sema := { s.sema with count := s.sema.count - 1 } }.callInner
  | .spin (n + 1) => some { s with consumer := if s.sema.count > 0 then .acquire else .spin n }
  | .spin 0 =>
    let s' := { s with sema := { s.sema with count := s.sema.count - 1 } }
    some (if s.sema.count > 0 then s'.callInner else { s' with consumer := .blocked })
  | .blocked =>
    match s.sema.sema with
    | 0 => some s
    | n + 1 => some { s with sema := { s.sema with sema := n } }.callInner
  | .inner =>
    s.inner.consumerStep.bind fun inner =>
      match inner.consumer with
      | .done (some x) => some { s with inner, consumer := .done (some x) }
      -- `assert(success)`
      | .done none => none
      | _ => some { s with inner }

end BlockingReaderWriterQueue

/-- A step of one of the threads. -/
inductive BlockingStep (α : Type*) where
  | enqueue (x : α)
  | producer (memory : Bool)
  | dequeue (wait : Bool)
  | consumer

namespace BlockingReaderWriterQueue

variable {α : Type*}

/-- A step of one of the threads, `none` if it goes wrong. -/
def step (maxBlockSize : ℕ) (s : BlockingReaderWriterQueue α) : BlockingStep α → Option (BlockingReaderWriterQueue α)
  | .enqueue x => some (s.enqueue x)
  | .producer memory => s.producerStep maxBlockSize memory
  | .dequeue wait => some (s.dequeue wait)
  | .consumer => s.consumerStep

/-- Steps of both threads. -/
def steps (maxBlockSize : ℕ) (s : BlockingReaderWriterQueue α) (steps : List (BlockingStep α)) :
    Option (BlockingReaderWriterQueue α) :=
  steps.foldlM (step maxBlockSize) s

/-- A run of both threads on a new queue. -/
def run (maxBlockSize maxSize : ℕ) (steps : List (BlockingStep α)) : Option (BlockingReaderWriterQueue α) :=
  (init maxBlockSize maxSize).steps maxBlockSize steps

end BlockingReaderWriterQueue

end Usbmuxd
