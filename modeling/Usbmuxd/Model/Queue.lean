import Mathlib.Logic.Function.Basic
import Usbmuxd.Foundation.History

/-!
# The queue between two threads

`ReaderWriterQueue` of `readerwriterqueue/readerwriterqueue.h`: a queue for one thread that
puts elements in and one that takes them out, without a lock. It is a circle of blocks, and
each block is a circular buffer. The queue between the main thread and the write thread of a
device (`tx.q` in `usb-mce_internal.h`) is built on it.

## The model

A block's address is a number, and the blocks lie behind a function on these. A slot of a
block is raw memory or holds an element. `producerStep` lets the producer, which is in
`inner_enqueue<CanAlloc>`, go to its next place, `consumerStep` the consumer, which is in
`try_dequeue`; a place is in front of an access to something that the other thread reads or
writes: its indices, the pointers to the blocks, and the slots. What a thread alone writes it
reads when it needs it. A step is `none` when an assertion fails, when an element is made
where there is one already, or when one is taken from raw memory.

Every list of steps is an interleaving. The accesses happen in the order of the steps: what
`weak_atomic` lets a processor reorder between two fences is left out, as are `peek`, `pop`,
`size_approx` and `try_enqueue`, which nothing in the repository calls, the guards against
reentrance, and the destructor. The history is what the calls have come to, the last one first.
-/

namespace Usbmuxd

namespace ReaderWriterQueue

variable {α : Type*}

/-- `Block`. -/
structure Block (α : Type*) where
  /-- Elements are read from here. -/
  front : ℕ
  /-- A copy of `tail`, owned by the consumer. -/
  localTail : ℕ
  /-- Elements are enqueued here. -/
  tail : ℕ
  /-- A copy of `front`, owned by the producer. -/
  localFront : ℕ
  next : ℕ
  data : List (Option α)
  sizeMask : ℕ

/-- `make_block`. The pointer to the next block is set before another thread sees the block. -/
def makeBlock (capacity next : ℕ) : Block α := ⟨0, 0, 0, 0, next, List.replicate capacity none, capacity - 1⟩

namespace Block

/-- The index behind `front`. -/
def nextFront (b : Block α) : ℕ := (b.front + 1) &&& b.sizeMask

/-- The index behind `tail`. -/
def nextTail (b : Block α) : ℕ := (b.tail + 1) &&& b.sizeMask

/-- The consumer looks at `tail`. -/
def loadTail (b : Block α) : Block α := { b with localTail := b.tail }

/-- The producer looks at `front`. -/
def loadFront (b : Block α) : Block α := { b with localFront := b.front }

/-- `new (location) T(element)`, in the slot at `tail`. -/
def construct (x : α) (b : Block α) : Block α := { b with data := b.data.set b.tail (some x) }

/-- The new element is there for the consumer. -/
def publishTail (b : Block α) : Block α := { b with tail := b.nextTail }

/-- The element at `front` is moved away and destroyed. -/
def destroy (b : Block α) : Block α := { b with data := b.data.set b.front none }

/-- Its slot is there for the producer. -/
def publishFront (b : Block α) : Block α := { b with front := b.nextFront }

/-- A block as `inner_enqueue` makes it: with the element, and in front of the block `next`. -/
def firstElement (x : α) (b : Block α) : Block α := { b with data := b.data.set 0 (some x), tail := 1, localTail := 1 }

end Block

end ReaderWriterQueue

/-- `ReaderWriterQueue`. -/
structure ReaderWriterQueue (α : Type*) where
  /-- The blocks, by their addresses. -/
  block : ℕ → ReaderWriterQueue.Block α
  /-- The address of the next block that `malloc` gives out. -/
  fresh : ℕ
  frontBlock : ℕ
  tailBlock : ℕ
  largestBlockSize : ℕ

namespace ReaderWriterQueue

variable {α : Type*}

/-- `ceilToPow2`, where `size_t` has eight bytes. -/
def ceilToPow2 (x : ℕ) : ℕ :=
  let x := x - 1
  let x := x ||| x >>> 1
  let x := x ||| x >>> 2
  let x := x ||| x >>> 4
  -- the loop runs with `i` = 1, 2 and 4
  let x := [1, 2, 4].foldl (fun x i => x ||| x >>> (i <<< 3)) x
  x + 1

/-- The loop of the constructor: the blocks made so far are a circle, and one more is put in
behind the last one. -/
def reserve (size : ℕ) : ℕ → ℕ → Block α
  | 0 => fun _ => makeBlock size 0
  | n + 1 => Function.update
      (Function.update (reserve size n) (n - 1) { reserve size n (n - 1) with next := n }) n (makeBlock size 0)

/-- The constructor, whose calls of `malloc` succeed. -/
def new (maxBlockSize maxSize : ℕ) : ReaderWriterQueue α :=
  -- a spare slot, to tell a full block from an empty one
  let largestBlockSize := ceilToPow2 (maxSize + 1)
  if largestBlockSize > maxBlockSize * 2 then
    let initialBlockCount := (maxSize + maxBlockSize * 2 - 3) / (maxBlockSize - 1)
    ⟨reserve maxBlockSize initialBlockCount, initialBlockCount, 0, 0, maxBlockSize⟩
  else ⟨fun _ => makeBlock largestBlockSize 0, 1, 0, 0, largestBlockSize⟩

/-- The block at an address is changed. -/
def setBlock (q : ReaderWriterQueue α) (a : ℕ) (f : Block α → Block α) : ReaderWriterQueue α :=
  { q with block := Function.update q.block a (f (q.block a)) }

/-- The links between the blocks. -/
def next (q : ReaderWriterQueue α) (a : ℕ) : ℕ := (q.block a).next

/-- The block that elements are enqueued to. -/
def tailB (q : ReaderWriterQueue α) : Block α := q.block q.tailBlock

/-- The block that elements are dequeued from. -/
def frontB (q : ReaderWriterQueue α) : Block α := q.block q.frontBlock

/-- `newBlockSize`. -/
def newBlockSize (maxBlockSize : ℕ) (q : ReaderWriterQueue α) : ℕ :=
  if q.largestBlockSize ≥ maxBlockSize then q.largestBlockSize else q.largestBlockSize * 2

/-- A new block with an element is made and linked behind the tail block. -/
def allocate (maxBlockSize : ℕ) (x : α) (q : ReaderWriterQueue α) : ReaderWriterQueue α :=
  let size := q.newBlockSize maxBlockSize
  let newBlock := (makeBlock size q.tailB.next).firstElement x
  let block := Function.update q.block q.fresh newBlock
  { q with
    block := Function.update block q.tailBlock { block q.tailBlock with next := q.fresh }
    fresh := q.fresh + 1
    largestBlockSize := size }

/-- Where the producer is in `inner_enqueue`. -/
inductive Producer (α : Type*) where
  /-- Its last call has returned `ok`. -/
  | done (ok : Bool)
  /-- In front of the load of `tailBlock_->front`. -/
  | front (x : α)
  /-- There is room in the tail block. -/
  | construct (x : α)
  /-- The element is in the tail block. -/
  | publish (x : α)
  /-- The tail block is full: in front of the load of `frontBlock`. -/
  | frontBlock (x : α)
  /-- The next block is not the front block: in front of the load of `tailBlockNext->front`. -/
  | nextFront (x : α)
  /-- In front of the construction in the next block. -/
  | constructNext (x : α) (tailBlockNext : ℕ)
  /-- The element is in the next block. -/
  | publishNext (x : α) (tailBlockNext : ℕ)
  /-- There is no free block: in front of `make_block`. -/
  | allocate (x : α)
  /-- The element is in a block behind the tail block: in front of the store to `tailBlock`. -/
  | advance (x : α) (block : ℕ)

/-- Where the consumer is in `try_dequeue`. -/
inductive Consumer (α : Type*) where
  /-- Its last call has returned an element or `false`. -/
  | done (result : Option α)
  /-- In front of the load of `frontBlock_->tail`. -/
  | tail
  /-- The front block is empty: in front of the load of `tailBlock`. -/
  | tailBlock
  /-- The tail block is another one: in front of the second load of `frontBlock_->tail`. -/
  | tailAgain
  /-- In front of the load of `frontBlock_->next`. -/
  | next
  /-- In front of the load of `nextBlock->tail`. -/
  | nextTail (nextBlock : ℕ)
  /-- In front of the store to `frontBlock`. -/
  | advance (nextBlock : ℕ)
  /-- In front of the element in a block that is not empty. -/
  | take (block : ℕ)
  /-- The element is taken: in front of the store to `front`. -/
  | publish (block : ℕ) (x : α)

/-- The queue, where its two threads are, and what their calls have come to. -/
structure Shared (α : Type*) where
  queue : ReaderWriterQueue α
  producer : Producer α
  consumer : Consumer α
  history : List (QueueEvent α)

/-- A new queue, which no thread has called. -/
def Shared.init (maxBlockSize maxSize : ℕ) : Shared α := ⟨new maxBlockSize maxSize, .done true, .done none, []⟩

namespace Shared

/-- The items that have entered, in order. -/
abbrev entered (s : Shared α) : List α := QueueEvent.entered s.history

/-- The items that have left, in order. -/
abbrev left (s : Shared α) : List α := QueueEvent.left s.history

/-- The number of items that had entered when the consumer made its last call. -/
abbrev awaited (s : Shared α) : ℕ := QueueEvent.awaited s.history

/-- The producer calls `enqueue`. -/
def enqueue (x : α) (s : Shared α) : Shared α :=
  match s.producer with
  | .done _ => { s with producer := if s.queue.tailB.nextTail ≠ s.queue.tailB.localFront then .construct x else .front x }
  | _ => s

/-- The consumer calls `try_dequeue`. -/
def tryDequeue (s : Shared α) : Shared α :=
  match s.consumer with
  | .done _ =>
    { s with
      consumer := if s.queue.frontB.front ≠ s.queue.frontB.localTail then .take s.queue.frontBlock else .tail
      history := .called :: s.history }
  | _ => s

/-- The next access of the producer. `memory` says whether `malloc` succeeds. -/
def producerStep (maxBlockSize : ℕ) (memory : Bool) (s : Shared α) : Option (Shared α) :=
  let q := s.queue
  match s.producer with
  | .done _ => some s
  | .front x =>
    some { s with
      queue := q.setBlock q.tailBlock .loadFront
      producer := if q.tailB.nextTail ≠ q.tailB.front then .construct x else .frontBlock x }
  | .construct x =>
    match q.tailB.data[q.tailB.tail]? with
    | some none => some { s with queue := q.setBlock q.tailBlock (.construct x), producer := .publish x }
    | _ => none
  | .publish x =>
    some { s with
      queue := q.setBlock q.tailBlock .publishTail, producer := .done true, history := .enqueued x :: s.history }
  | .frontBlock x => some { s with producer := if q.tailB.next ≠ q.frontBlock then .nextFront x else .allocate x }
  | .nextFront x =>
    let tailBlockNext := q.tailB.next
    -- "this block must be empty since it's not the head block"
    if (q.block tailBlockNext).front = (q.block tailBlockNext).tail then
      some { s with queue := q.setBlock tailBlockNext .loadFront, producer := .constructNext x tailBlockNext }
    else none
  | .constructNext x tailBlockNext =>
    match (q.block tailBlockNext).data[(q.block tailBlockNext).tail]? with
    | some none =>
      some { s with queue := q.setBlock tailBlockNext (.construct x), producer := .publishNext x tailBlockNext }
    | _ => none
  | .publishNext x tailBlockNext =>
    some { s with queue := q.setBlock tailBlockNext .publishTail, producer := .advance x tailBlockNext }
  | .allocate x =>
    if memory then some { s with queue := q.allocate maxBlockSize x, producer := .advance x q.fresh }
    else some { s with producer := .done false }
  | .advance x block =>
    some { s with queue := { q with tailBlock := block }, producer := .done true, history := .enqueued x :: s.history }

/-- The next access of the consumer. -/
def consumerStep (s : Shared α) : Option (Shared α) :=
  let q := s.queue
  match s.consumer with
  | .done _ => some s
  | .tail =>
    some { s with
      queue := q.setBlock q.frontBlock .loadTail
      consumer := if q.frontB.front ≠ q.frontB.tail then .take q.frontBlock else .tailBlock }
  | .tailBlock =>
    if q.frontBlock ≠ q.tailBlock then some { s with consumer := .tailAgain }
    else some { s with consumer := .done none, history := .empty :: s.history }
  | .tailAgain =>
    some { s with
      queue := q.setBlock q.frontBlock .loadTail
      consumer := if q.frontB.front ≠ q.frontB.tail then .take q.frontBlock else .next }
  | .next => some { s with consumer := .nextTail q.frontB.next }
  | .nextTail nextBlock =>
    -- "we know there's for sure an element to dequeue on it"
    if (q.block nextBlock).front ≠ (q.block nextBlock).tail then
      some { s with queue := q.setBlock nextBlock .loadTail, consumer := .advance nextBlock }
    else none
  | .advance nextBlock => some { s with queue := { q with frontBlock := nextBlock }, consumer := .take nextBlock }
  | .take block =>
    match (q.block block).data[(q.block block).front]? with
    | some (some x) => some { s with queue := q.setBlock block .destroy, consumer := .publish block x }
    | _ => none
  | .publish block x =>
    some { s with
      queue := q.setBlock block .publishFront, consumer := .done (some x), history := .dequeued x :: s.history }

end Shared

/-- A step of one of the threads. -/
inductive QueueStep (α : Type*) where
  | enqueue (x : α)
  | producer (memory : Bool)
  | tryDequeue
  | consumer

/-- A step of one of the threads, `none` if it goes wrong. -/
def Shared.step (maxBlockSize : ℕ) (s : Shared α) : QueueStep α → Option (Shared α)
  | .enqueue x => some (s.enqueue x)
  | .producer memory => s.producerStep maxBlockSize memory
  | .tryDequeue => some s.tryDequeue
  | .consumer => s.consumerStep

/-- Steps of both threads. -/
def Shared.steps (maxBlockSize : ℕ) (s : Shared α) (steps : List (QueueStep α)) : Option (Shared α) :=
  steps.foldlM (Shared.step maxBlockSize) s

/-- A run of both threads on a new queue. -/
def run (maxBlockSize maxSize : ℕ) (steps : List (QueueStep α)) : Option (Shared α) :=
  (Shared.init maxBlockSize maxSize).steps maxBlockSize steps

end ReaderWriterQueue

end Usbmuxd
