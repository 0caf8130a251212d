import HighBar.Library.FixedWidth
import Mathlib.Data.List.Basic

/-!
# Delta fan-out: subscriber slots and the bus

`SubscriberSlot` is the bounded queue between the engine thread and one stream's pump, and
`DeltaBus` is the registry of slots the engine thread fans each update out to.

## What is one step

Each definition here is one critical section or one atomic operation of the source, because that is
the granularity at which threads interleave:

* a slot's `tryPush`, the body of `BlockingPop` once its wait is over (`popFront`, enabled by
  `awake`), and `evict`, a single compare-exchange;
* the bus's `collect` (the locked half of `Publish`), `tryPushTo` and `evictSlow` (the unlocked
  half, one slot at a time), `subscribe`, and the locked halves of `Unsubscribe` (`unregister`) and
  `EvictAll` (`clear`).

`publish`, `unsubscribe` and `evictAll` compose these for callers that run without interleaving.

## Slots are addresses

A registry entry is a weak pointer. It is modelled by an address `SlotId` into `heap`, together with
`released`, which records that the owning stream dropped its shared pointer; `lock` succeeds exactly
while the owner still holds the slot.
-/

namespace HighBar.Grpc

open List

/-- Why a slot was closed. -/
inductive EvictionReason where
  | kNone
  | kSlowConsumer
  | kCanceled
  | kFault
deriving Repr, DecidableEq

/-- The bounded queue of one subscriber. -/
structure SubscriberSlot (β : Type*) where
  capacity : ℕ
  /-- Pending payloads, oldest first. -/
  queue : List β
  eviction : EvictionReason
  /-- Pushes refused because the queue was full. -/
  dropped : ℕ
  /-- The queue is bounded. -/
  length_queue_le : queue.length ≤ capacity

namespace SubscriberSlot

variable {β : Type*}

/-- `kDefaultCapacity`. -/
def defaultCapacity : ℕ := 8192

/-- A fresh slot. -/
def create (capacity : ℕ) : SubscriberSlot β where
  capacity := capacity
  queue := []
  eviction := .kNone
  dropped := 0
  length_queue_le := Nat.zero_le _

/-- `SubscriberSlot::TryPush`. -/
def tryPush (s : SubscriberSlot β) (payload : β) : Bool × SubscriberSlot β :=
  if s.eviction ≠ .kNone then (false, s)
  else if h : s.capacity ≤ s.queue.length then
    (false, { s with dropped := wrapAdd 64 s.dropped 1 })
  else
    (true,
      { s with
        queue := s.queue ++ [payload]
        length_queue_le := by
          rw [length_append, length_singleton]
          omega })

/-- The wait predicate of `BlockingPop`. -/
def awake (s : SubscriberSlot β) : Bool :=
  !s.queue.isEmpty || s.eviction != .kNone

/-- The body of `BlockingPop` after its wait. -/
def popFront (s : SubscriberSlot β) : Option β × SubscriberSlot β :=
  match h : s.queue with
  | [] => (none, s)
  | payload :: rest =>
    (some payload,
      { s with
        queue := rest
        length_queue_le := by
          have hle := s.length_queue_le
          rw [h, length_cons] at hle
          omega })

/-- `SubscriberSlot::Evict`: the first reason wins. -/
def evict (s : SubscriberSlot β) (reason : EvictionReason) : SubscriberSlot β :=
  if s.eviction = .kNone then { s with eviction := reason } else s

variable {s : SubscriberSlot β} {payload : β}

/-- What an accepted push does. -/
theorem tryPush_true (h : (s.tryPush payload).1 = true) :
    s.eviction = .kNone ∧ (s.tryPush payload).2.queue = s.queue ++ [payload] ∧
      (s.tryPush payload).2.eviction = .kNone := by
  unfold tryPush at h ⊢
  by_cases he : s.eviction = .kNone
  · rw [if_neg (not_not.2 he)] at h ⊢
    split at h
    · cases h
    · rename_i hlt
      rw [dif_neg hlt]
      exact ⟨he, rfl, he⟩
  · rw [if_pos he] at h
    cases h

/-- A refused push leaves the queue and the eviction state alone. -/
theorem tryPush_false (h : (s.tryPush payload).1 = false) :
    (s.tryPush payload).2.queue = s.queue ∧ (s.tryPush payload).2.eviction = s.eviction := by
  unfold tryPush at h ⊢
  split
  · exact ⟨rfl, rfl⟩
  · rename_i he
    rw [if_neg he] at h
    split
    · exact ⟨rfl, rfl⟩
    · rename_i hlt
      rw [dif_neg hlt] at h
      cases h

/-- A pop takes the front and leaves the eviction alone. -/
theorem popFront_some (h : s.popFront.1 = some payload) :
    s.queue = payload :: s.popFront.2.queue ∧ s.popFront.2.eviction = s.eviction := by
  unfold popFront at h ⊢
  split at h
  · cases h
  · rename_i p rest hq
    cases h
    exact ⟨hq, rfl⟩

/-- What was popped, followed by what is left, is what was there. -/
theorem popFront_queue (s : SubscriberSlot β) :
    s.popFront.1.toList ++ s.popFront.2.queue = s.queue := by
  unfold popFront
  split
  · rfl
  · rename_i payload rest hq
    exact hq.symm

@[simp] theorem popFront_eviction (s : SubscriberSlot β) :
    s.popFront.2.eviction = s.eviction := by
  unfold popFront
  split <;> rfl

@[simp] theorem popFront_capacity (s : SubscriberSlot β) :
    s.popFront.2.capacity = s.capacity := by
  unfold popFront
  split <;> rfl

@[simp] theorem tryPush_capacity (s : SubscriberSlot β) (payload : β) :
    (s.tryPush payload).2.capacity = s.capacity := by
  unfold tryPush
  split_ifs <;> rfl

/-- A failed test of the wait predicate has seen an open slot. -/
theorem eviction_of_awake_eq_false (h : s.awake = false) :
    s.eviction = .kNone := by
  rw [awake, Bool.or_eq_false_iff] at h
  simpa using h.2

/-- A push does not close or open a slot. -/
@[simp] theorem tryPush_eviction (s : SubscriberSlot β) (payload : β) :
    (s.tryPush payload).2.eviction = s.eviction := by
  rcases h : (s.tryPush payload).1 with - | -
  · exact (tryPush_false h).2
  · obtain ⟨hopen, -, hstays⟩ := tryPush_true h
    rw [hstays, hopen]

/-- On a closed slot the wait predicate holds. -/
theorem awake_of_evicted (h : s.eviction ≠ .kNone) :
    s.awake = true := by
  rw [awake, Bool.or_eq_true]
  exact Or.inr (bne_iff_ne.2 h)

/-- A closed slot takes nothing. -/
theorem tryPush_of_evicted (h : s.eviction ≠ .kNone) (payload : β) :
    s.tryPush payload = (false, s) := if_pos h

/-- A closed slot keeps its reason. -/
theorem evict_of_evicted (h : s.eviction ≠ .kNone) (reason : EvictionReason) :
    s.evict reason = s := if_neg h

@[simp] theorem evict_capacity (s : SubscriberSlot β) (reason : EvictionReason) :
    (s.evict reason).capacity = s.capacity := by
  unfold evict
  split <;> rfl

@[simp] theorem evict_queue (s : SubscriberSlot β) (reason : EvictionReason) :
    (s.evict reason).queue = s.queue := by
  unfold evict
  split <;> rfl

/-- A slot that is still open after an eviction attempt was open before it. -/
theorem eviction_of_evict_eq_none {reason : EvictionReason}
    (h : (s.evict reason).eviction = .kNone) : s.eviction = .kNone := by
  unfold evict at h
  split at h
  · assumption
  · exact h

/-- An eviction for a real reason closes the slot. -/
theorem evict_eviction_ne_none (s : SubscriberSlot β) {reason : EvictionReason}
    (h : reason ≠ .kNone) : (s.evict reason).eviction ≠ .kNone := by
  unfold evict
  split
  · exact h
  · assumption

end SubscriberSlot

/-- The address of a slot. -/
abbrev SlotId := ℕ

/-- The two counters the bus writes. -/
structure BusCounters where
  /-- `subscriber_count`. -/
  subscriberCount : ℕ
  /-- `cumulative_dropped_subscribers`. -/
  cumulativeDroppedSubscribers : ℕ
deriving Repr, DecidableEq

/-- The bus. -/
structure DeltaBus (β : Type*) where
  /-- Registered slots, in registration order. -/
  slots : List SlotId
  /-- Every slot ever allocated. -/
  heap : SlotId → Option (SubscriberSlot β)
  /-- The owner has dropped its shared pointer. -/
  released : SlotId → Bool
  /-- `none` when the bus was built without counters. -/
  counters : Option BusCounters

namespace DeltaBus

variable {β : Type*}

/-- A bus with no subscriber. -/
def create (counters : Option BusCounters) : DeltaBus β where
  slots := []
  heap := fun _ ↦ none
  released := fun _ ↦ false
  counters := counters

/-- Overwrite one heap cell. -/
def setSlot (b : DeltaBus β) (id : SlotId) (s : SubscriberSlot β) : DeltaBus β :=
  { b with heap := Function.update b.heap id (some s) }

/-- `weak_ptr::lock`. -/
def lock (b : DeltaBus β) (id : SlotId) : Option (SubscriberSlot β) :=
  if b.released id then none else b.heap id

/-- The live slots `Publish` collects: locked successfully and not evicted. -/
def isLive (b : DeltaBus β) (id : SlotId) : Bool :=
  match b.lock id with
  | some s => s.eviction == .kNone
  | none => false

/-- The locked half of `Publish`: drop expired registrations, collect the live slots. -/
def collect (b : DeltaBus β) : List SlotId × DeltaBus β :=
  (b.slots.filter b.isLive, { b with slots := b.slots.filter fun id ↦ (b.lock id).isSome })

/-- `TryPush` on one collected slot. -/
def tryPushTo (b : DeltaBus β) (id : SlotId) (payload : β) : Bool × DeltaBus β :=
  match b.heap id with
  | none => (false, b)
  | some s => ((s.tryPush payload).1, b.setSlot id (s.tryPush payload).2)

/-- `Evict` on one slot. -/
def evictSlot (b : DeltaBus β) (id : SlotId) (reason : EvictionReason) : DeltaBus β :=
  match b.heap id with
  | none => b
  | some s => b.setSlot id (s.evict reason)

/-- What `Publish` does with a slot that refused the payload. -/
def evictSlow (b : DeltaBus β) (id : SlotId) : DeltaBus β :=
  { b.evictSlot id .kSlowConsumer with
    counters := b.counters.map fun c ↦
      { c with cumulativeDroppedSubscribers := wrapAdd 64 c.cumulativeDroppedSubscribers 1 } }

/-- The counter `Publish` bumps for a slot that refused the payload. -/
def countDropped (b : DeltaBus β) : DeltaBus β :=
  { b with
    counters := b.counters.map fun c ↦
      { c with cumulativeDroppedSubscribers := wrapAdd 64 c.cumulativeDroppedSubscribers 1 } }

/-- `DeltaBus::Publish`, run without interleaving. -/
def publish (b : DeltaBus β) (payload : β) : DeltaBus β :=
  b.collect.1.foldl
    (fun b id ↦
      let (ok, b) := b.tryPushTo id payload
      if ok then b else b.evictSlow id)
    b.collect.2

/-- `DeltaBus::Subscribe`, allocating the slot at `id`. -/
def subscribe (b : DeltaBus β) (id : SlotId) (capacity : ℕ) : DeltaBus β where
  slots := b.slots ++ [id]
  heap := Function.update b.heap id (some (SubscriberSlot.create capacity))
  released := b.released
  counters := b.counters.map fun c ↦
    { c with subscriberCount := wrapAdd 32 c.subscriberCount 1 }

/-- The locked half of `Unsubscribe`: drop the slot and every expired registration. -/
def unregister (b : DeltaBus β) (id : SlotId) : DeltaBus β :=
  { b with
    slots := b.slots.filter fun i ↦ (b.lock i).isSome && i != id
    counters :=
      if id ∈ b.slots ∧ (b.lock id).isSome then
        b.counters.map fun c ↦ { c with subscriberCount := wrapSub 32 c.subscriberCount 1 }
      else b.counters }

/-- `DeltaBus::Unsubscribe`, run without interleaving. -/
def unsubscribe (b : DeltaBus β) (id : SlotId) : DeltaBus β :=
  (b.evictSlot id .kCanceled).unregister id

/-- The locked half of `EvictAll`: take every registration that locks, and clear the registry. -/
def clear (b : DeltaBus β) : List SlotId × DeltaBus β :=
  (b.slots.filter fun id ↦ (b.lock id).isSome, { b with slots := [] })

/-- The gauge at the end of an `EvictAll` that took `taken` slots. -/
def uncount (b : DeltaBus β) (taken : ℕ) : DeltaBus β :=
  { b with
    counters :=
      if taken = 0 then b.counters
      else b.counters.map fun c ↦ { c with subscriberCount := wrapSub 32 c.subscriberCount taken } }

/-- `DeltaBus::EvictAll`, run without interleaving. -/
def evictAll (b : DeltaBus β) (reason : EvictionReason) : DeltaBus β :=
  let live := b.clear.1
  let evicted := live.foldl (fun b id ↦ b.evictSlot id reason) b.clear.2
  { evicted with
    counters :=
      if live.isEmpty then evicted.counters
      else evicted.counters.map fun c ↦
        { c with subscriberCount := wrapSub 32 c.subscriberCount live.length } }

/-- `DeltaBus::SubscriberCount`. -/
def subscriberCount (b : DeltaBus β) : ℕ := (b.slots.filter b.isLive).length

/-- The owner drops its shared pointer. -/
def release (b : DeltaBus β) (id : SlotId) : DeltaBus β :=
  { b with released := Function.update b.released id true }

/-! ### Frame lemmas -/

variable (b : DeltaBus β) (id : SlotId)

@[simp] theorem setSlot_heap_self (s : SubscriberSlot β) :
    (b.setSlot id s).heap id = some s := Function.update_self ..

theorem setSlot_heap_of_ne (b : DeltaBus β) {id i : SlotId} (s : SubscriberSlot β) (h : i ≠ id) :
    (b.setSlot id s).heap i = b.heap i := Function.update_of_ne h ..

@[simp] theorem tryPushTo_slots (payload : β) :
    (b.tryPushTo id payload).2.slots = b.slots := by
  unfold tryPushTo
  split <;> rfl

theorem tryPushTo_heap_of_ne (b : DeltaBus β) {id i : SlotId} (payload : β) (h : i ≠ id) :
    (b.tryPushTo id payload).2.heap i = b.heap i := by
  unfold tryPushTo
  split
  · rfl
  · exact b.setSlot_heap_of_ne _ h

@[simp] theorem tryPushTo_released (payload : β) :
    (b.tryPushTo id payload).2.released = b.released := by
  unfold tryPushTo
  split <;> rfl

@[simp] theorem tryPushTo_counters (payload : β) :
    (b.tryPushTo id payload).2.counters = b.counters := by
  unfold tryPushTo
  split <;> rfl

/-- A push to a slot is a push of the slot. -/
theorem tryPushTo_of_heap {b : DeltaBus β} {id : SlotId} (payload : β) (h : b.heap id = some s) :
    (b.tryPushTo id payload).1 = (s.tryPush payload).1 ∧
      (b.tryPushTo id payload).2.heap id = some (s.tryPush payload).2 := by
  unfold tryPushTo
  rw [h]
  exact ⟨rfl, b.setSlot_heap_self ..⟩

@[simp] theorem evictSlot_slots (reason : EvictionReason) :
    (b.evictSlot id reason).slots = b.slots := by
  unfold evictSlot
  split <;> rfl

@[simp] theorem evictSlot_released (reason : EvictionReason) :
    (b.evictSlot id reason).released = b.released := by
  unfold evictSlot
  split <;> rfl

@[simp] theorem evictSlot_counters (reason : EvictionReason) :
    (b.evictSlot id reason).counters = b.counters := by
  unfold evictSlot
  split <;> rfl

theorem evictSlot_heap_of_ne (b : DeltaBus β) {id i : SlotId} (reason : EvictionReason)
    (h : i ≠ id) : (b.evictSlot id reason).heap i = b.heap i := by
  unfold evictSlot
  split
  · rfl
  · exact b.setSlot_heap_of_ne _ h

/-- Evicting one slot evicts that slot and nothing else. -/
theorem evictSlot_heap (b : DeltaBus β) (id i : SlotId) (reason : EvictionReason) :
    (b.evictSlot id reason).heap i =
      if i = id then (b.heap i).map fun s ↦ s.evict reason else b.heap i := by
  rcases eq_or_ne i id with rfl | h
  · rw [if_pos rfl]
    unfold evictSlot
    rcases hs : b.heap i with - | s
    · exact hs
    · exact b.setSlot_heap_self ..
  · rw [if_neg h, b.evictSlot_heap_of_ne reason h]

@[simp] theorem evictSlow_slots : (b.evictSlow id).slots = b.slots := b.evictSlot_slots ..

@[simp] theorem evictSlow_heap : (b.evictSlow id).heap = (b.evictSlot id .kSlowConsumer).heap := rfl

theorem subscribe_heap_of_ne (b : DeltaBus β) {id i : SlotId} (capacity : ℕ) (h : i ≠ id) :
    (b.subscribe id capacity).heap i = b.heap i := Function.update_of_ne h ..

@[simp] theorem subscribe_heap_self (capacity : ℕ) :
    (b.subscribe id capacity).heap id = some (SubscriberSlot.create capacity) :=
  Function.update_self ..

/-- A collected slot is registered and allocated. -/
theorem mem_collect {b : DeltaBus β} {id : SlotId} (h : id ∈ b.collect.1) :
    id ∈ b.slots ∧ ∃ s, b.heap id = some s ∧ s.eviction = .kNone := by
  obtain ⟨hmem, hlive⟩ := mem_filter.1 h
  refine ⟨hmem, ?_⟩
  unfold isLive lock at hlive
  split at hlive
  · rename_i s hs
    split at hs
    · cases hs
    · exact ⟨s, hs, by simpa using hlive⟩
  · cases hlive

/-- A registered slot that is open and held by its owner is collected. -/
theorem mem_collect_of_open {b : DeltaBus β} {id : SlotId} (hmem : id ∈ b.slots)
    (hheld : b.released id = false) (hs : b.heap id = some s) (hopen : s.eviction = .kNone) :
    id ∈ b.collect.1 := by
  refine mem_filter.2 ⟨hmem, ?_⟩
  simp [isLive, lock, hheld, hs, hopen]

/-- Collecting forgets registrations and adds none. -/
theorem collect_slots_sublist (b : DeltaBus β) : b.collect.2.slots.Sublist b.slots :=
  filter_sublist

end DeltaBus

end HighBar.Grpc
