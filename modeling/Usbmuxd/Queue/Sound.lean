import Usbmuxd.Queue.Blocks

/-!
# The queue keeps its order

`ReaderWriterQueue` claims to be a first-in first-out queue for one producer and one consumer
that work at the same time without a lock. Its comments give the reasons step by step; here
they are one invariant of the model of `Usbmuxd.Model.Queue`, kept by each step of either
thread.

## The model

* `Inv s live free holds` — the blocks are a circle. Its first part, from the front block to
  the tail block, is *live* and holds what is in the queue; the rest is *free*. A live block
  behind the front block is never empty, a free block always is, but for the one that the
  producer has prepared and not yet published. The places of the threads say what each has
  found out, and the other cannot undo it.

## What is proved

* `Inv.producerStep`, `Inv.consumerStep` — every step keeps the invariant and none goes wrong:
  no assertion fails, an element is only made in raw memory, and only taken where there is one.
* `run_sound` — every run of the two threads, in any order of their steps, goes through, and
  the elements leave in the order in which they have entered. A call of `try_dequeue` that
  returns `false` has found a queue that had been emptied of all that had entered before it.
-/

namespace Usbmuxd

namespace ReaderWriterQueue

open QueueEvent (FirstInFirstOut)

variable {α : Type*}

/-! ### What the places say -/

/-- What the producer has made in a block and has not published. -/
def Producer.ready (tailBlock a : ℕ) : Producer α → List α
  | .publish x => if a = tailBlock then [x] else []
  | .publishNext x b => if a = b then [x] else []
  | _ => []

/-- What the producer has published in a block that is not yet the tail block. -/
def Producer.prepared (a : ℕ) : Producer α → List α
  | .advance x b => if a = b then [x] else []
  | _ => []

/-- How many elements of a block the consumer has taken without giving back their slots. -/
def Consumer.taken (a : ℕ) : Consumer α → ℕ
  | .publish b _ => if a = b then 1 else 0
  | _ => 0

/-- What the producer has found out. -/
def Producer.Ok (q : ReaderWriterQueue α) (free : List ℕ) : Producer α → Prop
  | .construct _ => q.tailB.nextTail ≠ q.tailB.localFront
  | .nextFront _ => free ≠ []
  | .constructNext _ b => free.head? = some b ∧ (q.block b).nextTail ≠ (q.block b).localFront
  | .publishNext _ b => free.head? = some b
  | .advance _ b => free.head? = some b
  | _ => True

/-- What the consumer has found out. -/
def Consumer.Ok (q : ReaderWriterQueue α) (live : List ℕ) (holds : ℕ → List α) (history : List (QueueEvent α)) :
    Consumer α → Prop
  | .tailBlock => live.tail = [] → QueueEvent.awaited history ≤ (QueueEvent.left history).length
  | .tailAgain => live.tail ≠ []
  | .next => live.tail ≠ [] ∧ holds q.frontBlock = []
  | .nextTail b => live.tail.head? = some b ∧ holds q.frontBlock = []
  | .advance b => live.tail.head? = some b ∧ holds q.frontBlock = [] ∧ (q.block b).front ≠ (q.block b).localTail
  | .take b => b = q.frontBlock ∧ (q.block b).front ≠ (q.block b).localTail
  | .publish b x => b = q.frontBlock ∧ ∃ rest, holds b = x :: rest
  | _ => True

/-- The circle of blocks and what they hold. -/
structure Inv (s : Shared α) (live free : List ℕ) (holds : ℕ → List α) : Prop where
  linked : Linked s.queue.next (live ++ free ++ [s.queue.frontBlock])
  nodup : (live ++ free).Nodup
  head : live.head? = some s.queue.frontBlock
  last : live.getLast? = some s.queue.tailBlock
  below : ∀ a ∈ live ++ free, a < s.queue.fresh
  size : ∃ k, s.queue.largestBlockSize = 2 ^ (k + 1)
  blocks : ∀ a ∈ live ++ free,
    (s.queue.block a).Holds (holds a) (s.producer.ready s.queue.tailBlock a) (s.consumer.taken a)
  full : ∀ a ∈ live.tail, holds a ≠ []
  spare : ∀ a ∈ free, holds a = s.producer.prepared a
  conserved : s.left ++ live.flatMap holds = s.entered
  fifo : FirstInFirstOut s.history
  producer : s.producer.Ok s.queue free
  consumer : s.consumer.Ok s.queue live holds s.history

/-! ### Reading the invariant -/

section Reading

variable {s : Shared α} {live free : List ℕ} {holds : ℕ → List α}

theorem Inv.live_eq (h : Inv s live free holds) : live = s.queue.frontBlock :: live.tail :=
  List.eq_cons_of_mem_head? h.head

theorem Inv.front_mem (h : Inv s live free holds) : s.queue.frontBlock ∈ live := by
  rw [h.live_eq]
  exact List.mem_cons_self

theorem Inv.tail_mem (h : Inv s live free holds) : s.queue.tailBlock ∈ live := List.mem_of_getLast? h.last

/-- While there is another live block, the producer is not in the front block. -/
theorem Inv.apart (h : Inv s live free holds) (hmore : live.tail ≠ []) : s.queue.tailBlock ≠ s.queue.frontBlock := by
  intro heq
  have hlast := h.last
  have hnodup := (List.nodup_append.mp h.nodup).1
  rw [h.live_eq] at hlast hnodup
  rw [List.getLast?_cons, List.getLast?_eq_some_getLast hmore, Option.getD_some, heq, Option.some.injEq] at hlast
  exact (List.nodup_cons.mp hnodup).1 (hlast ▸ List.getLast_mem hmore)

/-- When there is no other live block, the front block is the tail block. -/
theorem Inv.alone (h : Inv s live free holds) (hnone : live.tail = []) : s.queue.tailBlock = s.queue.frontBlock := by
  have hlast := h.last
  rw [h.live_eq, hnone] at hlast
  exact (Option.some.inj hlast).symm

/-- A free block is not live. -/
theorem Inv.not_live (h : Inv s live free holds) {a : ℕ} (ha : a ∈ free) : a ∉ live :=
  fun hlive => (List.nodup_append.mp h.nodup).2.2 a hlive a ha rfl

/-- What follows the tail block: the first free block, or else the front block. -/
theorem Inv.next_tail (h : Inv s live free holds) :
    s.queue.tailB.next = free.head?.getD s.queue.frontBlock := by
  have hlinked := h.linked
  rw [List.append_assoc] at hlinked
  cases free with
  | nil => exact Linked.next_last hlinked h.last
  | cons b free => exact Linked.next_last hlinked h.last

/-- What follows the front block, when there is another live block. -/
theorem Inv.next_front (h : Inv s live free holds) {b : ℕ} (hb : live.tail.head? = some b) :
    s.queue.frontB.next = b := by
  have hlinked := h.linked
  rw [h.live_eq, List.eq_cons_of_mem_head? hb] at hlinked
  exact Linked.next_head hlinked

theorem Inv.taken_le (h : Inv s live free holds) (a : ℕ) : s.consumer.taken a ≤ (holds a).length := by
  have hok := h.consumer
  cases hc : s.consumer with
  | publish b x =>
    rw [hc] at hok
    obtain ⟨-, rest, hrest⟩ := hok
    change (if a = b then 1 else 0) ≤ _
    split
    · next heq => rw [heq, hrest]; exact Nat.succ_pos _
    · exact Nat.zero_le _
  | _ => exact Nat.zero_le _

theorem Inv.mem_live (_ : Inv s live free holds) {a : ℕ} (ha : a ∈ live) : a ∈ live ++ free :=
  List.mem_append_left free ha

end Reading

/-! ### What the other thread leaves alone -/

/-- What the producer has found out stays, whatever the consumer does. -/
theorem Producer.Ok.stable {p : Producer α} {q q' : ReaderWriterQueue α} {free free' : List ℕ} (h : p.Ok q free)
    (htail : q'.tailBlock = q.tailBlock) (hfree : free <+: free')
    (hindex : ∀ a, (q'.block a).nextTail = (q.block a).nextTail ∧ (q'.block a).localFront = (q.block a).localFront) :
    p.Ok q' free' := by
  have hhead : ∀ {b}, free.head? = some b → free'.head? = some b := by
    obtain ⟨more, rfl⟩ := hfree
    intro b hb
    rw [List.head?_append, hb]
    rfl
  cases p with
  | construct x =>
    unfold Producer.Ok tailB
    rw [htail, (hindex _).1, (hindex _).2]
    exact h
  | nextFront x =>
    obtain ⟨more, rfl⟩ := hfree
    exact fun hnil => h (List.append_eq_nil_iff.mp hnil).1
  | constructNext x b =>
    obtain ⟨hb, hroom⟩ := h
    exact ⟨hhead hb, by rw [(hindex b).1, (hindex b).2]; exact hroom⟩
  | publishNext x b => exact hhead h
  | advance x b => exact hhead h
  | done | front | publish | frontBlock | allocate => exact trivial

/-- What the consumer has found out stays, whatever the producer does. -/
theorem Consumer.Ok.stable {c : Consumer α} {q q' : ReaderWriterQueue α} {live live' : List ℕ}
    {holds holds' : ℕ → List α} {history history' : List (QueueEvent α)} (h : c.Ok q live holds history)
    (hmem : q.frontBlock ∈ live) (hfront : q'.frontBlock = q.frontBlock) (hlive : live.tail <+: live'.tail)
    (hindex : ∀ a ∈ live, (q'.block a).front = (q.block a).front ∧ (q'.block a).localTail = (q.block a).localTail)
    (hgrow : ∀ a ∈ live, holds a <+: holds' a) (hholds : live.tail ≠ [] → holds' q.frontBlock = holds q.frontBlock)
    (hawaited : QueueEvent.awaited history' = QueueEvent.awaited history)
    (hleft : QueueEvent.left history' = QueueEvent.left history) : c.Ok q' live' holds' history' := by
  have hmore : live.tail ≠ [] → live'.tail ≠ [] := fun hne hnil => hne (List.prefix_nil.mp (hnil ▸ hlive))
  have hhead : ∀ {b}, live.tail.head? = some b → live'.tail.head? = some b := by
    obtain ⟨more, hmore⟩ := hlive
    intro b hb
    rw [← hmore, List.head?_append, hb]
    rfl
  have hne : ∀ {b}, live.tail.head? = some b → live.tail ≠ [] := fun hb hnil => by rw [hnil] at hb; cases hb
  cases c with
  | tailBlock =>
    intro hnil
    rw [hawaited, hleft]
    exact h (List.prefix_nil.mp (hnil ▸ hlive))
  | tailAgain => exact hmore h
  | next =>
    obtain ⟨hne, hempty⟩ := h
    exact ⟨hmore hne, by rw [hfront, hholds hne, hempty]⟩
  | nextTail b =>
    obtain ⟨hb, hempty⟩ := h
    exact ⟨hhead hb, by rw [hfront, hholds (hne hb), hempty]⟩
  | advance b =>
    obtain ⟨hb, hempty, hseen⟩ := h
    obtain ⟨hfrontIndex, htailIndex⟩ := hindex b (List.mem_of_mem_tail (List.mem_of_mem_head? hb))
    exact ⟨hhead hb, by rw [hfront, hholds (hne hb), hempty], by rw [hfrontIndex, htailIndex]; exact hseen⟩
  | take b =>
    obtain ⟨hb, hseen⟩ := h
    obtain ⟨hfrontIndex, htailIndex⟩ := hindex b (hb ▸ hmem)
    exact ⟨hb.trans hfront.symm, by rw [hfrontIndex, htailIndex]; exact hseen⟩
  | publish b x =>
    obtain ⟨hb, rest, hrest⟩ := h
    obtain ⟨more, hmore⟩ := hgrow b (hb ▸ hmem)
    exact ⟨hb.trans hfront.symm, rest ++ more, by rw [← hmore, hrest, List.cons_append]⟩
  | done | tail => exact trivial

/-! ### Writing to one block -/

@[simp] theorem block_setBlock_self (q : ReaderWriterQueue α) (a : ℕ) (f : Block α → Block α) :
    (q.setBlock a f).block a = f (q.block a) := Function.update_self ..

@[simp] theorem tailB_setBlock_self (q : ReaderWriterQueue α) (f : Block α → Block α) :
    (q.setBlock q.tailBlock f).tailB = f q.tailB := block_setBlock_self q q.tailBlock f

theorem block_setBlock_of_ne (q : ReaderWriterQueue α) {a b : ℕ} (f : Block α → Block α) (h : b ≠ a) :
    (q.setBlock a f).block b = q.block b := Function.update_of_ne h ..

/-- What a write to a block does not change in it, it changes in no block. -/
theorem setBlock_same {β : Type*} (q : ReaderWriterQueue α) (a : ℕ) {f : Block α → Block α} {g : Block α → β}
    (h : ∀ b, g (f b) = g b) (b : ℕ) : g ((q.setBlock a f).block b) = g (q.block b) := by
  by_cases hb : b = a
  · rw [hb, block_setBlock_self, h]
  · rw [block_setBlock_of_ne q f hb]

theorem next_setBlock (q : ReaderWriterQueue α) (a : ℕ) {f : Block α → Block α} (h : ∀ b, (f b).next = b.next) :
    (q.setBlock a f).next = q.next := funext fun b => setBlock_same q a (g := Block.next) h b

section Writing

variable {q : ReaderWriterQueue α} {p p' : Producer α} {c c' : Consumer α} {history : List (QueueEvent α)}
  {live free : List ℕ} {holds : ℕ → List α} {a : ℕ} {f : Block α → Block α}

/-- A write to one block that leaves what it holds and its place in the circle. -/
theorem Inv.write (h : Inv ⟨q, p, c, history⟩ live free holds) (hnext : ∀ b, (f b).next = b.next)
    (hblock : (q.block a).Holds (holds a) (p.ready q.tailBlock a) (c.taken a) →
      (f (q.block a)).Holds (holds a) (p'.ready q.tailBlock a) (c'.taken a))
    (hready : ∀ b, b ≠ a → p'.ready q.tailBlock b = p.ready q.tailBlock b)
    (htaken : ∀ b, b ≠ a → c'.taken b = c.taken b) (hprepared : ∀ b, p'.prepared b = p.prepared b)
    (hp : p'.Ok (q.setBlock a f) free) (hc : c'.Ok (q.setBlock a f) live holds history) :
    Inv ⟨q.setBlock a f, p', c', history⟩ live free holds where
  linked := by
    have hlinked := h.linked
    dsimp only at hlinked ⊢
    rw [next_setBlock q a hnext]
    exact hlinked
  nodup := h.nodup
  head := h.head
  last := h.last
  below := h.below
  size := h.size
  blocks b hb := by
    dsimp only
    by_cases hba : b = a
    · subst hba
      rw [block_setBlock_self]
      exact hblock (h.blocks b hb)
    · rw [block_setBlock_of_ne q f hba, htaken b hba]
      exact (hready b hba) ▸ h.blocks b hb
  full := h.full
  spare b hb := (h.spare b hb).trans (hprepared b).symm
  conserved := h.conserved
  fifo := h.fifo
  producer := hp
  consumer := hc

/-- A step of the producer that changes nothing the consumer relies on. -/
theorem Inv.writeProducer (h : Inv ⟨q, p, c, history⟩ live free holds)
    (hsame : ∀ b, (f b).next = b.next ∧ (f b).front = b.front ∧ (f b).localTail = b.localTail)
    (hblock : (q.block a).Holds (holds a) (p.ready q.tailBlock a) (c.taken a) →
      (f (q.block a)).Holds (holds a) (p'.ready q.tailBlock a) (c.taken a))
    (hready : ∀ b, b ≠ a → p'.ready q.tailBlock b = p.ready q.tailBlock b)
    (hprepared : ∀ b, p'.prepared b = p.prepared b) (hp : p'.Ok (q.setBlock a f) free) :
    Inv ⟨q.setBlock a f, p', c, history⟩ live free holds := by
  refine h.write (fun b => (hsame b).1) hblock hready (fun _ _ => rfl) hprepared hp ?_
  refine h.consumer.stable h.front_mem rfl List.prefix_rfl (fun b _ => ⟨?_, ?_⟩) (fun _ _ => List.prefix_rfl)
    (fun _ => rfl) rfl rfl
  · exact setBlock_same q a (g := Block.front) (fun b => (hsame b).2.1) b
  · exact setBlock_same q a (g := Block.localTail) (fun b => (hsame b).2.2) b

/-- A step of the consumer that changes nothing the producer relies on. -/
theorem Inv.writeConsumer (h : Inv ⟨q, p, c, history⟩ live free holds)
    (hsame : ∀ b, (f b).next = b.next ∧ (f b).nextTail = b.nextTail ∧ (f b).localFront = b.localFront)
    (hblock : (q.block a).Holds (holds a) (p.ready q.tailBlock a) (c.taken a) →
      (f (q.block a)).Holds (holds a) (p.ready q.tailBlock a) (c'.taken a))
    (htaken : ∀ b, b ≠ a → c'.taken b = c.taken b) (hc : c'.Ok (q.setBlock a f) live holds history) :
    Inv ⟨q.setBlock a f, p, c', history⟩ live free holds := by
  refine h.write (fun b => (hsame b).1) hblock (fun _ _ => rfl) htaken (fun _ => rfl) ?_ hc
  refine h.producer.stable rfl List.prefix_rfl fun b => ⟨?_, ?_⟩
  · exact setBlock_same q a (g := Block.nextTail) (fun b => (hsame b).2.1) b
  · exact setBlock_same q a (g := Block.localFront) (fun b => (hsame b).2.2) b

end Writing

/-! ### The producer -/

section Steps

variable {q : ReaderWriterQueue α} {p : Producer α} {c : Consumer α} {history : List (QueueEvent α)}
  {live free : List ℕ} {holds : ℕ → List α} {x : α}

/-- A step of the producer that only goes to another place. -/
theorem Inv.goProducer {p' : Producer α} (h : Inv ⟨q, p, c, history⟩ live free holds)
    (hready : ∀ a, p'.ready q.tailBlock a = p.ready q.tailBlock a) (hprepared : ∀ a, p'.prepared a = p.prepared a)
    (hp : p'.Ok q free) : Inv ⟨q, p', c, history⟩ live free holds :=
  { h with
    blocks := fun a ha => (hready a) ▸ h.blocks a ha
    spare := fun a ha => (h.spare a ha).trans (hprepared a).symm
    producer := hp }

/-- The load of `tailBlock_->front`. -/
theorem Inv.front (h : Inv ⟨q, .front x, c, history⟩ live free holds) :
    Inv ⟨q.setBlock q.tailBlock .loadFront,
      if q.tailB.nextTail ≠ q.tailB.front then .construct x else .frontBlock x, c, history⟩ live free holds := by
  split
  · next hroom =>
    refine h.writeProducer (fun _ => ⟨rfl, rfl, rfl⟩) (fun hb => hb.loadFront) (fun _ _ => rfl) (fun _ => rfl) ?_
    unfold Producer.Ok
    rw [tailB_setBlock_self]
    exact hroom
  · exact h.writeProducer (fun _ => ⟨rfl, rfl, rfl⟩) (fun hb => hb.loadFront) (fun _ _ => rfl) (fun _ => rfl) trivial

/-- The slot behind the last element of a block that the producer has nothing in is raw memory. -/
theorem Inv.raw (h : Inv ⟨q, p, c, history⟩ live free holds) {a : ℕ} (ha : a ∈ live ++ free)
    (hready : p.ready q.tailBlock a = []) : (q.block a).data[(q.block a).tail]? = some none := by
  have hblock := h.blocks a ha
  dsimp only at hblock
  rw [hready] at hblock
  exact hblock.raw (h.taken_le a)

/-- The construction in the tail block. -/
theorem Inv.construct (h : Inv ⟨q, .construct x, c, history⟩ live free holds) :
    Inv ⟨q.setBlock q.tailBlock (.construct x), .publish x, c, history⟩ live free holds := by
  refine h.writeProducer (fun _ => ⟨rfl, rfl, rfl⟩) (fun hb => ?_) (fun b hb => if_neg hb) (fun _ => rfl) trivial
  have hready : Producer.ready q.tailBlock q.tailBlock (.publish x) = [x] := if_pos rfl
  rw [hready]
  exact hb.construct (h.taken_le q.tailBlock) h.producer

/-- The construction in the block behind the tail block. -/
theorem Inv.constructNext {b : ℕ} (h : Inv ⟨q, .constructNext x b, c, history⟩ live free holds) :
    Inv ⟨q.setBlock b (.construct x), .publishNext x b, c, history⟩ live free holds := by
  obtain ⟨hfree, hroom⟩ := h.producer
  refine h.writeProducer (fun _ => ⟨rfl, rfl, rfl⟩) (fun hb => ?_) (fun a ha => if_neg ha) (fun _ => rfl) hfree
  have hready : Producer.ready q.tailBlock b (.publishNext x b) = [x] := if_pos rfl
  rw [hready]
  exact hb.construct (h.taken_le b) hroom

/-- What the blocks hold after an element has been published in one of them. -/
theorem flatMap_append_last {l : List ℕ} {a : ℕ} (hnodup : (l ++ [a]).Nodup) :
    (l ++ [a]).flatMap (Function.update holds a (holds a ++ [x])) = (l ++ [a]).flatMap holds ++ [x] := by
  have hl : l.flatMap (Function.update holds a (holds a ++ [x])) = l.flatMap holds := by
    refine List.flatMap_congr fun b hb => Function.update_of_ne ?_ _ _
    rintro rfl
    exact (List.nodup_append.mp hnodup).2.2 b hb b List.mem_cons_self rfl
  rw [List.flatMap_append, List.flatMap_append, hl, List.flatMap_singleton, List.flatMap_singleton,
    Function.update_self, List.append_assoc]

/-- The store to `tail` of the tail block: the element has entered. -/
theorem Inv.publish (h : Inv ⟨q, .publish x, c, history⟩ live free holds) :
    Inv ⟨q.setBlock q.tailBlock .publishTail, .done true, c, .enqueued x :: history⟩ live free
      (Function.update holds q.tailBlock (holds q.tailBlock ++ [x])) := by
  have hother : ∀ a, a ≠ q.tailBlock → Function.update holds q.tailBlock (holds q.tailBlock ++ [x]) a = holds a :=
    fun a ha => Function.update_of_ne ha _ _
  have hfree : ∀ a ∈ free, a ≠ q.tailBlock := fun a ha heq => h.not_live ha (heq ▸ h.tail_mem)
  refine ⟨?_, h.nodup, h.head, h.last, h.below, h.size, fun a ha => ?_, fun a ha => ?_, fun a ha => ?_, ?_, h.fifo,
    trivial, ?_⟩
  · have hlinked := h.linked
    dsimp only at hlinked ⊢
    rw [next_setBlock q q.tailBlock (f := .publishTail) (fun _ => rfl)]
    exact hlinked
  · have hblock := h.blocks a ha
    dsimp only at hblock ⊢
    by_cases hat : a = q.tailBlock
    · subst hat
      have hready : Producer.ready q.tailBlock q.tailBlock (.publish x) = [x] := if_pos rfl
      rw [hready] at hblock
      rw [block_setBlock_self, Function.update_self]
      exact hblock.publishTail
    · have hready : Producer.ready q.tailBlock a (.publish x) = [] := if_neg hat
      rw [hready] at hblock
      rw [block_setBlock_of_ne q _ hat, hother a hat]
      exact hblock
  · by_cases hat : a = q.tailBlock
    · rw [hat, Function.update_self]
      exact List.append_ne_nil_of_right_ne_nil _ (List.cons_ne_nil x [])
    · rw [hother a hat]
      exact h.full a ha
  · rw [hother a (hfree a ha)]
    exact h.spare a ha
  · obtain ⟨l, hl⟩ := List.getLast?_eq_some_iff.mp h.last
    have hnodup := (List.nodup_append.mp h.nodup).1
    have hconserved := h.conserved
    rw [hl] at hnodup hconserved ⊢
    change _ ++ _ = QueueEvent.entered history ++ [x]
    rw [flatMap_append_last hnodup, ← List.append_assoc]
    exact congrArg (· ++ [x]) hconserved
  · refine h.consumer.stable h.front_mem rfl List.prefix_rfl (fun b _ => ⟨?_, ?_⟩) (fun a _ => ?_) (fun hmore => ?_)
      rfl rfl
    · exact setBlock_same q q.tailBlock (g := Block.front) (f := .publishTail) (fun _ => rfl) b
    · exact setBlock_same q q.tailBlock (g := Block.localTail) (f := .publishTail) (fun _ => rfl) b
    · by_cases hat : a = q.tailBlock
      · rw [hat, Function.update_self]
        exact List.prefix_append _ _
      · rw [hother a hat]
    · exact hother _ (h.apart hmore).symm

/-- The load of `frontBlock`: a next block that is not the front block is free. -/
theorem Inv.frontBlock (h : Inv ⟨q, .frontBlock x, c, history⟩ live free holds) :
    Inv ⟨q, if q.tailB.next ≠ q.frontBlock then .nextFront x else .allocate x, c, history⟩ live free holds := by
  split
  · next hne =>
    refine h.goProducer (fun _ => rfl) (fun _ => rfl) fun hnil => hne ?_
    have hnext := h.next_tail
    rw [hnil] at hnext
    exact hnext
  · exact h.goProducer (fun _ => rfl) (fun _ => rfl) trivial

/-- The block behind the tail block is the first free one, and it is empty. -/
theorem Inv.next_empty (h : Inv ⟨q, .nextFront x, c, history⟩ live free holds) :
    ∃ rest, free = q.tailB.next :: rest ∧ (q.block q.tailB.next).Holds [] [] (c.taken q.tailB.next) := by
  obtain ⟨b, rest, rfl⟩ := List.exists_cons_of_ne_nil h.producer
  have hnext : q.tailB.next = b := h.next_tail
  have hblock := h.blocks b (List.mem_append_right live List.mem_cons_self)
  have hempty := h.spare b List.mem_cons_self
  rw [hempty] at hblock
  exact ⟨rest, by rw [hnext], hnext ▸ hblock⟩

/-- The load of `tailBlockNext->front`. -/
theorem Inv.nextFront (h : Inv ⟨q, .nextFront x, c, history⟩ live free holds) :
    Inv ⟨q.setBlock q.tailB.next .loadFront, .constructNext x q.tailB.next, c, history⟩ live free holds := by
  obtain ⟨rest, hfree, hblock⟩ := h.next_empty
  refine h.writeProducer (fun _ => ⟨rfl, rfl, rfl⟩) (fun hb => hb.loadFront) (fun _ _ => rfl) (fun _ => rfl) ⟨?_, ?_⟩
  · rw [hfree]
    rfl
  · rw [block_setBlock_self]
    change (q.block q.tailB.next).nextTail ≠ (q.block q.tailB.next).front
    have htwo := hblock.two_le
    rw [hblock.nextTail]
    intro heq
    have hzero := add_mod_inj (by rw [List.length_nil]; omega) (Nat.zero_lt_of_lt htwo) (heq.trans hblock.front_eq)
    exact Nat.succ_ne_zero _ hzero

/-- The store to `tail` of the block behind the tail block. -/
theorem Inv.publishNext {b : ℕ} (h : Inv ⟨q, .publishNext x b, c, history⟩ live free holds) :
    Inv ⟨q.setBlock b .publishTail, .advance x b, c, history⟩ live free (Function.update holds b [x]) := by
  have hfree : b ∈ free := List.mem_of_mem_head? h.producer
  have hlive : ∀ a ∈ live, a ≠ b := fun a ha heq => h.not_live hfree (heq ▸ ha)
  have hholds : holds b = [] := h.spare b hfree
  have hother : ∀ a, a ≠ b → Function.update holds b [x] a = holds a := fun a ha => Function.update_of_ne ha _ _
  refine ⟨?_, h.nodup, h.head, h.last, h.below, h.size, fun a ha => ?_, fun a ha => ?_, fun a ha => ?_, ?_, h.fifo,
    h.producer, ?_⟩
  · have hlinked := h.linked
    dsimp only at hlinked ⊢
    rw [next_setBlock q b (f := .publishTail) (fun _ => rfl)]
    exact hlinked
  · have hblock := h.blocks a ha
    dsimp only at hblock ⊢
    by_cases hab : a = b
    · subst hab
      have hready : Producer.ready q.tailBlock a (.publishNext x a) = [x] := if_pos rfl
      rw [hready, hholds] at hblock
      rw [block_setBlock_self, Function.update_self]
      exact hblock.publishTail
    · have hready : Producer.ready q.tailBlock a (.publishNext x b) = [] := if_neg hab
      rw [hready] at hblock
      rw [block_setBlock_of_ne q _ hab, hother a hab]
      exact hblock
  · rw [hother a (hlive a (List.mem_of_mem_tail ha))]
    exact h.full a ha
  · change _ = if a = b then [x] else []
    split
    · next hab => rw [hab, Function.update_self]
    · next hab => rw [hother a hab]; exact h.spare a ha
  · have hsame : live.flatMap (Function.update holds b [x]) = live.flatMap holds :=
      List.flatMap_congr fun a ha => hother a (hlive a ha)
    rw [hsame]
    exact h.conserved
  · refine h.consumer.stable h.front_mem rfl List.prefix_rfl (fun a _ => ⟨?_, ?_⟩)
      (fun a ha => by rw [hother a (hlive a ha)]) (fun _ => hother _ (hlive _ h.front_mem)) rfl rfl
    · exact setBlock_same q b (g := Block.front) (f := .publishTail) (fun _ => rfl) a
    · exact setBlock_same q b (g := Block.localTail) (f := .publishTail) (fun _ => rfl) a

/-- The store to `tailBlock`: the element has entered. -/
theorem Inv.advance {b : ℕ} (h : Inv ⟨q, .advance x b, c, history⟩ live free holds) :
    ∃ rest, free = b :: rest ∧
      Inv ⟨{ q with tailBlock := b }, .done true, c, .enqueued x :: history⟩ (live ++ [b]) rest holds := by
  obtain ⟨rest, rfl⟩ : ∃ rest, free = b :: rest := ⟨free.tail, List.eq_cons_of_mem_head? h.producer⟩
  have hholds : holds b = [x] := (h.spare b List.mem_cons_self).trans (if_pos rfl)
  have heq : live ++ [b] ++ rest = live ++ b :: rest := by rw [List.append_assoc, List.singleton_append]
  have htail : (live ++ [b]).tail = live.tail ++ [b] := by rw [h.live_eq]; rfl
  refine ⟨rest, rfl, ?_, ?_, ?_, List.getLast?_concat, ?_, h.size, fun a ha => ?_, fun a ha => ?_, fun a ha => ?_, ?_,
    h.fifo, trivial, ?_⟩
  · rw [heq]
    exact h.linked
  · rw [heq]
    exact h.nodup
  · rw [List.head?_append, h.head]
    rfl
  · rw [heq]
    exact h.below
  · rw [heq] at ha
    exact h.blocks a ha
  · rw [htail] at ha
    rcases List.mem_append.mp ha with ha | ha
    · exact h.full a ha
    · rw [List.mem_singleton.mp ha, hholds]
      exact List.cons_ne_nil x []
  · have hab : a ≠ b := by
      rintro rfl
      exact (List.nodup_cons.mp (List.nodup_append.mp h.nodup).2.1).1 ha
    exact (h.spare a (List.mem_cons_of_mem b ha)).trans (if_neg hab)
  · rw [List.flatMap_append, List.flatMap_singleton, hholds, ← List.append_assoc]
    exact congrArg (· ++ [x]) h.conserved
  · exact h.consumer.stable h.front_mem rfl (by rw [htail]; exact List.prefix_append _ _) (fun _ _ => ⟨rfl, rfl⟩)
      (fun _ _ => List.prefix_rfl) (fun _ => rfl) rfl rfl

/-! ### The consumer -/

/-- A step of the consumer that only goes to another place. -/
theorem Inv.goConsumer {c' : Consumer α} {history' : List (QueueEvent α)}
    (h : Inv ⟨q, p, c, history⟩ live free holds) (htaken : ∀ a, c'.taken a = c.taken a)
    (hentered : QueueEvent.entered history' = QueueEvent.entered history)
    (hleft : QueueEvent.left history' = QueueEvent.left history) (hfifo : FirstInFirstOut history')
    (hc : c'.Ok q live holds history') : Inv ⟨q, p, c', history'⟩ live free holds :=
  { h with
    blocks := fun a ha => (htaken a) ▸ h.blocks a ha
    conserved := by
      change QueueEvent.left history' ++ _ = QueueEvent.entered history'
      rw [hleft, hentered]
      exact h.conserved
    fifo := hfifo
    consumer := hc }

/-- The front block, when the consumer has taken nothing from it. -/
theorem Inv.front_block (h : Inv ⟨q, p, c, history⟩ live free holds) :
    q.frontB.Holds (holds q.frontBlock) (p.ready q.tailBlock q.frontBlock) (c.taken q.frontBlock) :=
  h.blocks q.frontBlock (h.mem_live h.front_mem)

/-- The load of `tail` of the front block, wherever the consumer goes then. -/
theorem Inv.loadTail {c' : Consumer α} (h : Inv ⟨q, p, c, history⟩ live free holds)
    (htaken : ∀ a, c.taken a = 0) (htaken' : ∀ a, c'.taken a = 0)
    (hempty : holds q.frontBlock = [] → c'.Ok (q.setBlock q.frontBlock .loadTail) live holds history) :
    Inv ⟨q.setBlock q.frontBlock .loadTail, p, if q.frontB.front ≠ q.frontB.tail then .take q.frontBlock else c', history⟩
      live free holds := by
  have hload : ∀ {b : Block α}, b.Holds (holds q.frontBlock) (p.ready q.tailBlock q.frontBlock) (c.taken q.frontBlock) →
      b.loadTail.Holds (holds q.frontBlock) (p.ready q.tailBlock q.frontBlock) 0 := by
    intro b hb
    rw [htaken] at hb
    exact hb.loadTail (Nat.zero_le _)
  split
  · next hne =>
    refine h.writeConsumer (fun _ => ⟨rfl, rfl, rfl⟩) hload (fun a _ => (htaken a).symm) ⟨rfl, ?_⟩
    rw [block_setBlock_self]
    exact hne
  · next heq =>
    have hnil : holds q.frontBlock = [] := h.front_block.front_eq_tail.mp (not_ne_iff.mp heq)
    refine h.writeConsumer (fun _ => ⟨rfl, rfl, rfl⟩) (fun hb => ?_) (fun a _ => (htaken' a).trans (htaken a).symm)
      (hempty hnil)
    rw [htaken']
    exact hload hb

/-- The first load of `frontBlock_->tail`: an empty front block that is alone is an empty queue. -/
theorem Inv.tail (h : Inv ⟨q, p, .tail, history⟩ live free holds) :
    Inv ⟨q.setBlock q.frontBlock .loadTail, p, if q.frontB.front ≠ q.frontB.tail then .take q.frontBlock else .tailBlock,
      history⟩ live free holds := by
  refine h.loadTail (fun _ => rfl) (fun _ => rfl) fun hempty hnone => ?_
  have hconserved := h.conserved
  rw [h.live_eq, hnone, List.flatMap_singleton] at hconserved
  have hall : QueueEvent.left history = QueueEvent.entered history := by
    rw [← List.append_nil (QueueEvent.left history), ← hempty]
    exact hconserved
  rw [hall]
  exact QueueEvent.awaited_le history

/-- The load of `tailBlock`. -/
theorem Inv.tailBlock (h : Inv ⟨q, p, .tailBlock, history⟩ live free holds) :
    if q.frontBlock ≠ q.tailBlock then Inv ⟨q, p, .tailAgain, history⟩ live free holds
    else Inv ⟨q, p, .done none, .empty :: history⟩ live free holds := by
  split
  · next hne => exact h.goConsumer (fun _ => rfl) rfl rfl h.fifo fun hnone => hne (h.alone hnone).symm
  · next heq =>
    have hnone : live.tail = [] := by
      by_contra hmore
      exact h.apart hmore (not_ne_iff.mp heq).symm
    exact h.goConsumer (fun _ => rfl) rfl rfl ⟨h.consumer hnone, h.fifo⟩ trivial

/-- The second load of `frontBlock_->tail`: the front block stays empty, since the producer is in another one. -/
theorem Inv.tailAgain (h : Inv ⟨q, p, .tailAgain, history⟩ live free holds) :
    Inv ⟨q.setBlock q.frontBlock .loadTail, p, if q.frontB.front ≠ q.frontB.tail then .take q.frontBlock else .next,
      history⟩ live free holds :=
  h.loadTail (fun _ => rfl) (fun _ => rfl) fun hempty => ⟨h.consumer, hempty⟩

/-- The load of `frontBlock_->next`. -/
theorem Inv.next (h : Inv ⟨q, p, .next, history⟩ live free holds) :
    Inv ⟨q, p, .nextTail q.frontB.next, history⟩ live free holds := by
  obtain ⟨hmore, hempty⟩ := h.consumer
  obtain ⟨b, rest, hrest⟩ := List.exists_cons_of_ne_nil hmore
  have hb : live.tail.head? = some b := by rw [hrest]; rfl
  have hnext : q.frontB.next = b := h.next_front hb
  exact h.goConsumer (fun _ => rfl) rfl rfl h.fifo ⟨by rw [hnext]; exact hb, hempty⟩

/-- The block behind the front block holds an element. -/
theorem Inv.next_full {b : ℕ} (h : Inv ⟨q, p, .nextTail b, history⟩ live free holds) :
    (q.block b).front ≠ (q.block b).tail := by
  obtain ⟨hb, -⟩ := h.consumer
  have hmem : b ∈ live.tail := List.mem_of_mem_head? hb
  have hblock := h.blocks b (h.mem_live (List.mem_of_mem_tail hmem))
  exact fun heq => h.full b hmem (hblock.front_eq_tail.mp heq)

/-- The load of `nextBlock->tail`. -/
theorem Inv.nextTail {b : ℕ} (h : Inv ⟨q, p, .nextTail b, history⟩ live free holds) :
    Inv ⟨q.setBlock b .loadTail, p, .advance b, history⟩ live free holds := by
  obtain ⟨hb, hempty⟩ := h.consumer
  refine h.writeConsumer (fun _ => ⟨rfl, rfl, rfl⟩) (fun hblock => hblock.loadTail (Nat.zero_le _)) (fun _ _ => rfl)
    ⟨hb, hempty, ?_⟩
  rw [block_setBlock_self]
  exact h.next_full

/-- The producer has prepared nothing in a live block. -/
theorem Inv.prepared_live (h : Inv ⟨q, p, c, history⟩ live free holds) {a : ℕ} (ha : a ∈ live) :
    p.prepared a = [] := by
  have hok := h.producer
  cases p with
  | advance x b =>
    have hb : b ∈ free := List.mem_of_mem_head? hok
    refine if_neg ?_
    rintro rfl
    exact h.not_live hb ha
  | _ => rfl

/-- The store to `frontBlock`: the block that was the front block is free. -/
theorem Inv.advanceFront {b : ℕ} (h : Inv ⟨q, p, .advance b, history⟩ live free holds) :
    Inv ⟨{ q with frontBlock := b }, p, .take b, history⟩ live.tail (free ++ [q.frontBlock]) holds := by
  obtain ⟨hb, hempty, hseen⟩ := h.consumer
  have hlive := h.live_eq
  have htail := List.eq_cons_of_mem_head? hb
  have hperm : (live ++ free).Perm (live.tail ++ (free ++ [q.frontBlock])) := by
    rw [hlive, List.tail_cons, List.cons_append, ← List.append_assoc]
    exact (List.perm_append_singleton _ _).symm
  refine ⟨?_, hperm.nodup h.nodup, hb, ?_, fun a ha => h.below a (hperm.mem_iff.mpr ha), h.size,
    fun a ha => h.blocks a (hperm.mem_iff.mpr ha), fun a ha => h.full a (List.mem_of_mem_tail ha), fun a ha => ?_, ?_,
    h.fifo, ?_, ⟨rfl, hseen⟩⟩
  · have hlinked := h.linked
    dsimp only at hlinked ⊢
    rw [hlive, htail] at hlinked
    rw [htail]
    have hcircle : Linked q.next (q.frontBlock :: b :: (live.tail.tail ++ free) ++ [q.frontBlock]) := by
      simpa only [List.cons_append, List.append_assoc] using hlinked
    change Linked q.next (b :: live.tail.tail ++ (free ++ [q.frontBlock]) ++ [b])
    simpa only [List.cons_append, List.append_assoc] using hcircle.rotate
  · have hlast := h.last
    rw [hlive, htail, List.getLast?_cons_cons, ← htail] at hlast
    exact hlast
  · rcases List.mem_append.mp ha with ha | ha
    · exact h.spare a ha
    · rw [List.mem_singleton.mp ha]
      exact hempty.trans (h.prepared_live h.front_mem).symm
  · have hconserved := h.conserved
    rw [hlive, List.flatMap_cons] at hconserved
    rw [show holds q.frontBlock = [] from hempty, List.nil_append] at hconserved
    exact hconserved
  · exact h.producer.stable rfl (List.prefix_append _ _) fun _ => ⟨rfl, rfl⟩

/-- The element that the consumer is about to take is there. -/
theorem Inv.there {b : ℕ} (h : Inv ⟨q, p, .take b, history⟩ live free holds) :
    ∃ x rest, holds b = x :: rest ∧ (q.block b).data[(q.block b).front]? = some (some x) := by
  obtain ⟨hb, hseen⟩ := h.consumer
  have hb : b = q.frontBlock := hb
  subst hb
  have hblock := h.front_block
  obtain ⟨n, hn, hle, -⟩ := hblock.nonempty hseen
  obtain ⟨x, rest, hrest⟩ := List.exists_cons_of_length_pos (Nat.lt_of_lt_of_le hn hle)
  rw [hrest] at hblock
  exact ⟨x, rest, hrest, hblock.first⟩

/-- The element is moved away and destroyed. -/
theorem Inv.take {b : ℕ} {rest : List α} (h : Inv ⟨q, p, .take b, history⟩ live free holds) (hrest : holds b = x :: rest) :
    Inv ⟨q.setBlock b .destroy, p, .publish b x, history⟩ live free holds := by
  obtain ⟨hb, hseen⟩ := h.consumer
  refine h.writeConsumer (fun _ => ⟨rfl, rfl, rfl⟩) (fun hblock => ?_) (fun a ha => if_neg ha) ⟨hb, rest, hrest⟩
  have htaken : Consumer.taken b (.publish b x) = 1 := if_pos rfl
  rw [hrest] at hblock ⊢
  rw [htaken]
  exact hblock.destroy hseen

/-- The store to `front`: the element has left, in its turn. -/
theorem Inv.publishFront {b : ℕ} (h : Inv ⟨q, p, .publish b x, history⟩ live free holds) :
    ∃ holds', Inv ⟨q.setBlock b .publishFront, p, .done (some x), .dequeued x :: history⟩ live free holds' := by
  obtain ⟨hb, rest, hrest⟩ := h.consumer
  have hb : b = q.frontBlock := hb
  subst hb
  have hother : ∀ a, a ≠ q.frontBlock → Function.update holds q.frontBlock rest a = holds a :=
    fun a ha => Function.update_of_ne ha _ _
  have hbehind : ∀ a ∈ live.tail, a ≠ q.frontBlock := by
    rintro a ha rfl
    have hnodup := (List.nodup_append.mp h.nodup).1
    rw [h.live_eq] at hnodup
    exact (List.nodup_cons.mp hnodup).1 ha
  have hflat : live.tail.flatMap (Function.update holds q.frontBlock rest) = live.tail.flatMap holds :=
    List.flatMap_congr fun a ha => hother a (hbehind a ha)
  have hconserved : QueueEvent.left history ++ x :: (rest ++ live.tail.flatMap holds) = QueueEvent.entered history := by
    have hconserved := h.conserved
    rw [h.live_eq, List.flatMap_cons] at hconserved
    rw [show holds q.frontBlock = x :: rest from hrest] at hconserved
    exact hconserved
  refine ⟨Function.update holds q.frontBlock rest, ?_, h.nodup, h.head, h.last, h.below, h.size, fun a ha => ?_,
    fun a ha => ?_, fun a ha => ?_, ?_, ⟨QueueEvent.next_of_held hconserved, h.fifo⟩, ?_, trivial⟩
  · have hlinked := h.linked
    dsimp only at hlinked ⊢
    rw [next_setBlock q q.frontBlock (f := .publishFront) (fun _ => rfl)]
    exact hlinked
  · have hblock := h.blocks a ha
    dsimp only at hblock ⊢
    by_cases hat : a = q.frontBlock
    · subst hat
      have htaken : Consumer.taken q.frontBlock (.publish q.frontBlock x) = 1 := if_pos rfl
      rw [htaken, hrest] at hblock
      rw [block_setBlock_self, Function.update_self]
      exact hblock.publishFront
    · have htaken : Consumer.taken a (.publish q.frontBlock x) = 0 := if_neg hat
      rw [htaken] at hblock
      rw [block_setBlock_of_ne q _ hat, hother a hat]
      exact hblock
  · rw [hother a (hbehind a ha)]
    exact h.full a ha
  · rw [hother a fun heq => h.not_live ha (heq ▸ h.front_mem)]
    exact h.spare a ha
  · rw [h.live_eq, List.flatMap_cons]
    change (QueueEvent.left history ++ [x]) ++ (Function.update holds q.frontBlock rest q.frontBlock ++ _) = _
    rw [Function.update_self, List.append_assoc, List.singleton_append]
    exact hflat ▸ hconserved
  · refine h.producer.stable rfl List.prefix_rfl fun a => ⟨?_, ?_⟩
    · exact setBlock_same q q.frontBlock (g := Block.nextTail) (f := .publishFront) (fun _ => rfl) a
    · exact setBlock_same q q.frontBlock (g := Block.localFront) (f := .publishFront) (fun _ => rfl) a

/-! ### A new block -/

/-- The links after a block has been put in behind the tail block. -/
theorem next_allocate (maxBlockSize : ℕ) : (q.allocate maxBlockSize x).next =
    Function.update (Function.update q.next q.fresh (q.next q.tailBlock)) q.tailBlock q.fresh := by
  funext a
  unfold ReaderWriterQueue.next allocate
  dsimp only
  by_cases ht : a = q.tailBlock
  · subst ht
    rw [Function.update_self, Function.update_self]
  · rw [Function.update_of_ne ht, Function.update_of_ne ht]
    by_cases hf : a = q.fresh
    · subst hf
      rw [Function.update_self, Function.update_self]
      rfl
    · rw [Function.update_of_ne hf, Function.update_of_ne hf]

/-- `make_block`, and the new block linked behind the tail block. -/
theorem Inv.allocate {maxBlockSize : ℕ} (h : Inv ⟨q, .allocate x, c, history⟩ live free holds) :
    Inv ⟨q.allocate maxBlockSize x, .advance x q.fresh, c, history⟩ live (q.fresh :: free)
      (Function.update holds q.fresh [x]) := by
  have hold : ∀ a ∈ live ++ free, a ≠ q.fresh := fun a ha => Nat.ne_of_lt (h.below a ha)
  have hnew : q.fresh ∉ live ++ free := fun hmem => hold _ hmem rfl
  have hfresh : q.fresh ≠ q.tailBlock := (hold _ (h.mem_live h.tail_mem)).symm
  have hother : ∀ a, a ≠ q.fresh → Function.update holds q.fresh [x] a = holds a :=
    fun a ha => Function.update_of_ne ha _ _
  have hperm : (live ++ q.fresh :: free).Perm (q.fresh :: (live ++ free)) := List.perm_middle
  have hsize : ∃ k, q.newBlockSize maxBlockSize = 2 ^ (k + 1) := by
    obtain ⟨k, hk⟩ := h.size
    unfold newBlockSize
    split
    · exact ⟨k, hk⟩
    · exact ⟨k + 1, by rw [show q.largestBlockSize = _ from hk, ← Nat.pow_succ]⟩
  have hblock : ∀ a, a ≠ q.fresh →
      ∃ n, (q.allocate maxBlockSize x).block a = { q.block a with next := n } := by
    intro a ha
    unfold ReaderWriterQueue.allocate
    dsimp only
    by_cases ht : a = q.tailBlock
    · subst ht
      exact ⟨q.fresh, by rw [Function.update_self, Function.update_of_ne ha]⟩
    · exact ⟨(q.block a).next, by rw [Function.update_of_ne ht, Function.update_of_ne ha]⟩
  refine ⟨?_, hperm.nodup_iff.mpr (List.nodup_cons.mpr ⟨hnew, h.nodup⟩), h.head, h.last, fun a ha => ?_, hsize,
    fun a ha => ?_, fun a ha => ?_, fun a ha => ?_, ?_, h.fifo, rfl, ?_⟩
  · change Linked (q.allocate maxBlockSize x).next _
    rw [next_allocate maxBlockSize]
    exact h.linked.insert h.nodup h.last hnew
  · rcases List.mem_cons.mp (hperm.mem_iff.mp ha) with rfl | ha
    · exact Nat.lt_succ_self _
    · exact Nat.lt_succ_of_lt (h.below a ha)
  · rcases List.mem_cons.mp (hperm.mem_iff.mp ha) with rfl | ha
    · have hmade : (q.allocate maxBlockSize x).block q.fresh =
          (makeBlock (q.newBlockSize maxBlockSize) q.tailB.next).firstElement x := by
        unfold ReaderWriterQueue.allocate
        dsimp only
        rw [Function.update_of_ne hfresh, Function.update_self]
      have htaken : c.taken q.fresh = 0 := by
        have hok := h.consumer
        cases c with
        | publish b y =>
          obtain ⟨hb, -⟩ := hok
          exact if_neg fun heq => hold q.frontBlock (h.mem_live h.front_mem) (hb.symm.trans heq.symm)
        | _ => rfl
      obtain ⟨k, hk⟩ := hsize
      dsimp only
      rw [hmade, hk, Function.update_self, htaken]
      exact Block.Holds.makeFirst k _ x
    · obtain ⟨n, hn⟩ := hblock a (hold a ha)
      dsimp only
      rw [hn, hother a (hold a ha)]
      exact { h.blocks a ha with }
  · rw [hother a (hold a (h.mem_live (List.mem_of_mem_tail ha)))]
    exact h.full a ha
  · rcases List.mem_cons.mp ha with rfl | ha
    · exact (Function.update_self ..).trans (if_pos rfl).symm
    · have hne := hold a (List.mem_append_right live ha)
      rw [hother a hne]
      exact (h.spare a ha).trans (if_neg hne).symm
  · have hsame : live.flatMap (Function.update holds q.fresh [x]) = live.flatMap holds :=
      List.flatMap_congr fun a ha => hother a (hold a (h.mem_live ha))
    rw [hsame]
    exact h.conserved
  · refine h.consumer.stable h.front_mem rfl List.prefix_rfl (fun a ha => ?_)
      (fun a ha => by rw [hother a (hold a (h.mem_live ha))]) (fun _ => hother _ (hold _ (h.mem_live h.front_mem))) rfl rfl
    obtain ⟨n, hn⟩ := hblock a (hold a (h.mem_live ha))
    rw [hn]
    exact ⟨rfl, rfl⟩

end Steps

end ReaderWriterQueue

end Usbmuxd
