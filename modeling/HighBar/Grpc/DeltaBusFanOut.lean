import HighBar.Grpc.DeltaBus
import HighBar.Library.StepMachine
import Mathlib.Data.List.Nodup

/-!
# The bus under concurrency

The bus with one publisher and any number of subscribers, at the granularity of its critical
sections and compare-exchanges. `Publish` collects the live slots in one step and then tries them
one at a time; `Unsubscribe` evicts before it takes the registry's mutex; `EvictAll` empties the
registry before it evicts. Every other party can move in each of these gaps.

The machine keeps a history beside the bus: for each slot the payloads **collected since it was
subscribed** and the payloads **popped** from it.

Slot addresses are unique: `Tidy` says that no list of slots names a slot twice and that all of them
were allocated. What one subscriber sees of a run rests on that, and so does the count of dropped
subscribers.
-/

namespace HighBar.Grpc

open List Option

/-- How far the publisher is in `Publish`. -/
inductive PublishPhase (β : Type*) where
  | idle
  /-- About to try the first of the slots left. -/
  | pushing (payload : β) (live : List SlotId)
  /-- `TryPush` on the slot returned false, and its `Evict` comes next. -/
  | evicting (id : SlotId) (payload : β) (live : List SlotId)
  /-- The counter comes next. -/
  | counting (payload : β) (live : List SlotId)

namespace PublishPhase

variable {β : Type*}

/-- The slots that are still to be tried. -/
def live : PublishPhase β → List SlotId
  | .idle => []
  | .pushing _ live | .evicting _ _ live | .counting _ live => live

/-- The payload that is being published. -/
def payload? : PublishPhase β → Option β
  | .idle => none
  | .pushing payload _ | .evicting _ payload _ | .counting payload _ => some payload

/-- The slot whose eviction comes next. -/
def refusing : PublishPhase β → Option SlotId
  | .evicting id _ _ => some id
  | .idle | .pushing .. | .counting .. => none

/-- The slots `Publish` is not done with. -/
def held (p : PublishPhase β) : List SlotId := p.refusing.toList ++ p.live

/-- The payload that is still to be pushed to a slot. -/
def pendingFor (p : PublishPhase β) (id : SlotId) : Option β :=
  if id ∈ p.live then p.payload? else none

end PublishPhase

/-- One call of `EvictAll`. -/
structure Sweep where
  reason : EvictionReason
  /-- The slots it took from the registry, until it returns. -/
  taken : List SlotId
  /-- The slots it has not evicted yet. -/
  live : List SlotId
deriving Repr, DecidableEq

/-- What a sweep still has in store for a slot. -/
def Sweep.reasonFor (sweep : Sweep) (id : SlotId) : Option EvictionReason :=
  if id ∈ sweep.live then some sweep.reason else none

/-- The bus, its publisher, the calls in progress, and the history of each slot. -/
structure FanOut (β : Type*) where
  bus : DeltaBus β
  publisher : PublishPhase β
  /-- The slots the current `Publish` collected; it holds them until it returns. -/
  collected : List SlotId
  /-- The `EvictAll` calls so far. -/
  sweeps : List Sweep
  /-- The owner is in `Unsubscribe`, past its `Evict`. -/
  unsubscribing : SlotId → Bool
  /-- Every slot so far, oldest first. -/
  subscribed : List SlotId
  /-- The payloads collected since the slot was subscribed. -/
  offered : SlotId → List β
  /-- The payloads popped from the slot. -/
  popped : SlotId → List β

/-- One atomic step. -/
inductive FanOutLabel (β : Type*) where
  /-- The locked half of `Publish`. -/
  | publish (payload : β)
  | tryPush (id : SlotId)
  /-- `Evict` of a slot that refused the payload. -/
  | evictSlow (id : SlotId)
  | countDropped
  | endPublish
  | subscribe (id : SlotId)
  /-- `Evict` in `Unsubscribe`. -/
  | unsubscribe (id : SlotId)
  /-- The locked half of `Unsubscribe`. -/
  | erase (id : SlotId)
  /-- The body of `BlockingPop` after its wait. -/
  | blockingPop (id : SlotId)
  /-- The last shared pointer to the slot goes. -/
  | release (id : SlotId)
  /-- The locked half of `EvictAll`. -/
  | evictAll (reason : EvictionReason)
  /-- The next `Evict` of an `EvictAll`. -/
  | evictNext (call : ℕ) (id : SlotId)
  /-- The gauge at the end of an `EvictAll`. -/
  | endEvictAll (call : ℕ)
deriving Repr, DecidableEq

/-- The labels that are steps of the subscriber, or of the publisher or `EvictAll` on its slot. -/
def FanOutLabel.concerns {β : Type*} (id : SlotId) : FanOutLabel β → Bool
  | .publish _ | .evictAll _ => true
  | .tryPush i | .evictSlow i | .subscribe i | .unsubscribe i | .erase i => i == id
  | .blockingPop i | .release i | .evictNext _ i => i == id
  | .countDropped | .endPublish | .endEvictAll _ => false

namespace FanOut

variable {β : Type*}

/-! ### The machine -/

/-- The locked half of `Publish`. -/
def beginPublish (s : FanOut β) (payload : β) : FanOut β :=
  { s with
    bus := s.bus.collect.2
    publisher := .pushing payload s.bus.collect.1
    collected := s.bus.collect.1
    offered := fun id ↦
      if (s.bus.heap id).isSome then s.offered id ++ [payload] else s.offered id }

/-- Try the next slot. -/
def tryNext (s : FanOut β) (id : SlotId) (payload : β) (live : List SlotId) : FanOut β :=
  { s with
    bus := (s.bus.tryPushTo id payload).2
    publisher :=
      if (s.bus.tryPushTo id payload).1 then .pushing payload live
      else .evicting id payload live }

/-- The body of `BlockingPop`. -/
def pop (s : FanOut β) (id : SlotId) (slot : SubscriberSlot β) : FanOut β :=
  { s with
    bus := s.bus.setSlot id slot.popFront.2
    popped := Function.update s.popped id (s.popped id ++ slot.popFront.1.toList) }

/-- The locked half of `EvictAll`. -/
def beginSweep (s : FanOut β) (reason : EvictionReason) : FanOut β :=
  { s with bus := s.bus.clear.2, sweeps := s.sweeps ++ [⟨reason, s.bus.clear.1, s.bus.clear.1⟩] }

/-- One step. -/
def step (capacity : ℕ) (s : FanOut β) : FanOutLabel β → Option (FanOut β)
  | .publish payload =>
    match s.publisher with
    | .idle => some (s.beginPublish payload)
    | _ => none
  | .tryPush id =>
    match s.publisher with
    | .pushing payload (i :: live) => if i = id then some (s.tryNext id payload live) else none
    | _ => none
  | .evictSlow id =>
    match s.publisher with
    | .evicting i payload live =>
      if i = id then
        some { s with
          bus := s.bus.evictSlot id .kSlowConsumer, publisher := .counting payload live }
      else none
    | _ => none
  | .countDropped =>
    match s.publisher with
    | .counting payload live =>
      some { s with bus := s.bus.countDropped, publisher := .pushing payload live }
    | _ => none
  | .endPublish =>
    match s.publisher with
    | .pushing _ [] => some { s with publisher := .idle, collected := [] }
    | _ => none
  | .subscribe id =>
    if (s.bus.heap id).isNone then
      some { s with bus := s.bus.subscribe id capacity, subscribed := s.subscribed ++ [id] }
    else none
  | .unsubscribe id =>
    if (s.bus.lock id).isSome && !s.unsubscribing id then
      some
        { s with
          bus := s.bus.evictSlot id .kCanceled
          unsubscribing := Function.update s.unsubscribing id true }
    else none
  | .erase id =>
    if s.unsubscribing id then
      some
        { s with
          bus := s.bus.unregister id
          unsubscribing := Function.update s.unsubscribing id false }
    else none
  | .blockingPop id =>
    match s.bus.lock id with
    | some slot => if slot.awake then some (s.pop id slot) else none
    | none => none
  | .release id =>
    if (s.bus.lock id).isSome && !s.unsubscribing id && !s.collected.contains id &&
        s.sweeps.all (fun sweep ↦ !sweep.taken.contains id) then
      some { s with bus := s.bus.release id }
    else none
  | .evictAll reason => some (s.beginSweep reason)
  | .evictNext call id =>
    match s.sweeps[call]? with
    | some ⟨reason, taken, i :: live⟩ =>
      if i = id then
        some
          { s with
            bus := s.bus.evictSlot id reason
            sweeps := s.sweeps.set call ⟨reason, taken, live⟩ }
      else none
    | _ => none
  | .endEvictAll call =>
    match s.sweeps[call]? with
    | some ⟨reason, taken, []⟩ =>
      some
        { s with bus := s.bus.uncount taken.length, sweeps := s.sweeps.set call ⟨reason, [], []⟩ }
    | _ => none

/-- A bus whose subscribers get slots of the given capacity. -/
def machine (capacity : ℕ) (counters : Option BusCounters) :
    StepMachine (FanOut β) (FanOutLabel β) where
  init :=
    { bus := .create counters
      publisher := .idle
      collected := []
      sweeps := []
      unsubscribing := fun _ ↦ false
      subscribed := []
      offered := fun _ ↦ []
      popped := fun _ ↦ [] }
  step := step capacity

/-- **What a step can be**, label by label. -/
inductive Steps (capacity : ℕ) (s : FanOut β) : FanOutLabel β → FanOut β → Prop
  | publish (payload : β) (hidle : s.publisher = .idle) :
    Steps capacity s (.publish payload) (s.beginPublish payload)
  | tryPush (id : SlotId) (payload : β) (live : List SlotId)
      (hphase : s.publisher = .pushing payload (id :: live)) :
    Steps capacity s (.tryPush id) (s.tryNext id payload live)
  | evictSlow (id : SlotId) (payload : β) (live : List SlotId)
      (hphase : s.publisher = .evicting id payload live) :
    Steps capacity s (.evictSlow id)
      { s with bus := s.bus.evictSlot id .kSlowConsumer, publisher := .counting payload live }
  | countDropped (payload : β) (live : List SlotId)
      (hphase : s.publisher = .counting payload live) :
    Steps capacity s .countDropped
      { s with bus := s.bus.countDropped, publisher := .pushing payload live }
  | endPublish (payload : β) (hphase : s.publisher = .pushing payload []) :
    Steps capacity s .endPublish { s with publisher := .idle, collected := [] }
  | subscribe (id : SlotId) (hfresh : s.bus.heap id = none) :
    Steps capacity s (.subscribe id)
      { s with bus := s.bus.subscribe id capacity, subscribed := s.subscribed ++ [id] }
  | unsubscribe (id : SlotId) :
    Steps capacity s (.unsubscribe id)
      { s with
        bus := s.bus.evictSlot id .kCanceled
        unsubscribing := Function.update s.unsubscribing id true }
  | erase (id : SlotId) :
    Steps capacity s (.erase id)
      { s with
        bus := s.bus.unregister id
        unsubscribing := Function.update s.unsubscribing id false }
  | blockingPop (id : SlotId) (slot : SubscriberSlot β) (hslot : s.bus.heap id = some slot) :
    Steps capacity s (.blockingPop id) (s.pop id slot)
  | release (id : SlotId) (halloc : s.bus.heap id ≠ none) :
    Steps capacity s (.release id) { s with bus := s.bus.release id }
  | evictAll (reason : EvictionReason) : Steps capacity s (.evictAll reason) (s.beginSweep reason)
  | evictNext (call : ℕ) (id : SlotId) (reason : EvictionReason) (taken live : List SlotId)
      (hsweep : s.sweeps[call]? = some ⟨reason, taken, id :: live⟩) :
    Steps capacity s (.evictNext call id)
      { s with
        bus := s.bus.evictSlot id reason
        sweeps := s.sweeps.set call ⟨reason, taken, live⟩ }
  | endEvictAll (call : ℕ) (reason : EvictionReason) (taken : List SlotId)
      (hsweep : s.sweeps[call]? = some ⟨reason, taken, []⟩) :
    Steps capacity s (.endEvictAll call)
      { s with bus := s.bus.uncount taken.length, sweeps := s.sweeps.set call ⟨reason, [], []⟩ }

variable {capacity : ℕ} {s t : FanOut β} {label : FanOutLabel β}

/-- A slot that can be locked is allocated. -/
theorem heap_of_lock {b : DeltaBus β} {id : SlotId} {slot : SubscriberSlot β}
    (h : b.lock id = some slot) : b.heap id = some slot :=
  (ite_none_left_eq_some.1 h).2

/-- **One step, inverted.** -/
theorem steps_of_step (hstep : s.step capacity label = some t) : Steps capacity s label t := by
  cases label with
  | publish payload =>
    simp only [step] at hstep
    split at hstep
    · cases hstep
      exact .publish payload ‹_›
    · cases hstep
  | tryPush id =>
    simp only [step] at hstep
    split at hstep
    · obtain ⟨rfl, ⟨⟩⟩ := ite_none_right_eq_some.1 hstep
      exact .tryPush _ _ _ ‹_›
    · cases hstep
  | evictSlow id =>
    simp only [step] at hstep
    split at hstep
    · obtain ⟨rfl, ⟨⟩⟩ := ite_none_right_eq_some.1 hstep
      exact .evictSlow _ _ _ ‹_›
    · cases hstep
  | countDropped =>
    simp only [step] at hstep
    split at hstep
    · cases hstep
      exact .countDropped _ _ ‹_›
    · cases hstep
  | endPublish =>
    simp only [step] at hstep
    split at hstep
    · cases hstep
      exact .endPublish _ ‹_›
    · cases hstep
  | subscribe id =>
    obtain ⟨hfresh, ⟨⟩⟩ := ite_none_right_eq_some.1 hstep
    exact .subscribe id (isNone_iff_eq_none.1 hfresh)
  | unsubscribe id =>
    obtain ⟨-, ⟨⟩⟩ := ite_none_right_eq_some.1 hstep
    exact .unsubscribe id
  | erase id =>
    obtain ⟨-, ⟨⟩⟩ := ite_none_right_eq_some.1 hstep
    exact .erase id
  | blockingPop id =>
    simp only [step] at hstep
    split at hstep
    · obtain ⟨-, ⟨⟩⟩ := ite_none_right_eq_some.1 hstep
      exact .blockingPop id _ (heap_of_lock ‹_›)
    · cases hstep
  | release id =>
    obtain ⟨hheld, ⟨⟩⟩ := ite_none_right_eq_some.1 hstep
    simp only [Bool.and_eq_true] at hheld
    obtain ⟨slot, hslot⟩ := isSome_iff_exists.1 hheld.1.1.1
    exact .release id (by rw [heap_of_lock hslot]; exact some_ne_none _)
  | evictAll reason =>
    cases hstep
    exact .evictAll reason
  | evictNext call id =>
    simp only [step] at hstep
    split at hstep
    · obtain ⟨rfl, ⟨⟩⟩ := ite_none_right_eq_some.1 hstep
      exact .evictNext call _ _ _ _ ‹_›
    · cases hstep
  | endEvictAll call =>
    simp only [step] at hstep
    split at hstep
    · cases hstep
      exact .endEvictAll call _ _ ‹_›
    · cases hstep

/-! ### Slots are named once -/

/-- No list of slots names a slot twice, and every slot in one was allocated. -/
structure Tidy (s : FanOut β) : Prop where
  slots_nodup : s.bus.slots.Nodup
  slots_alloc : ∀ id ∈ s.bus.slots, s.bus.heap id ≠ none
  held_nodup : s.publisher.held.Nodup
  held_alloc : ∀ id ∈ s.publisher.held, s.bus.heap id ≠ none
  sweeps_nodup : ∀ sweep ∈ s.sweeps, sweep.live.Nodup
  sweeps_alloc : ∀ sweep ∈ s.sweeps, ∀ id ∈ sweep.live, s.bus.heap id ≠ none
  released_alloc : ∀ id, s.bus.released id = true → s.bus.heap id ≠ none
  subscribed_nodup : s.subscribed.Nodup
  mem_subscribed : ∀ id, id ∈ s.subscribed ↔ s.bus.heap id ≠ none

theorem tidy_init (capacity : ℕ) (counters : Option BusCounters) :
    (machine (β := β) capacity counters).init.Tidy where
  slots_nodup := nodup_nil
  slots_alloc := nofun
  held_nodup := nodup_nil
  held_alloc := nofun
  sweeps_nodup := nofun
  sweeps_alloc := nofun
  released_alloc := nofun
  subscribed_nodup := nodup_nil
  mem_subscribed := fun _ ↦ ⟨nofun, fun h ↦ absurd rfl h⟩

/-- A step that allocates nothing keeps the lists tidy, if those it leaves are tidy. -/
theorem Tidy.of_heap (h : s.Tidy) (hheap : ∀ id, t.bus.heap id = none ↔ s.bus.heap id = none)
    (hslots : t.bus.slots.Sublist s.bus.slots) (hnodup : t.publisher.held.Nodup)
    (hheld : ∀ id ∈ t.publisher.held, s.bus.heap id ≠ none)
    (hsweeps : ∀ sweep ∈ t.sweeps, sweep.live.Nodup ∧ ∀ id ∈ sweep.live, s.bus.heap id ≠ none)
    (hreleased : ∀ id, t.bus.released id = true → s.bus.heap id ≠ none)
    (hsubscribed : t.subscribed = s.subscribed) : t.Tidy where
  slots_nodup := h.slots_nodup.sublist hslots
  slots_alloc := fun id hid ↦ (not_congr (hheap id)).2 (h.slots_alloc id (hslots.subset hid))
  held_nodup := hnodup
  held_alloc := fun id hid ↦ (not_congr (hheap id)).2 (hheld id hid)
  sweeps_nodup := fun sweep hsweep ↦ (hsweeps sweep hsweep).1
  sweeps_alloc := fun sweep hsweep id hid ↦
    (not_congr (hheap id)).2 ((hsweeps sweep hsweep).2 id hid)
  released_alloc := fun id hid ↦ (not_congr (hheap id)).2 (hreleased id hid)
  subscribed_nodup := hsubscribed ▸ h.subscribed_nodup
  mem_subscribed := fun id ↦ by
    rw [hsubscribed, h.mem_subscribed id]
    exact (not_congr (hheap id)).symm

theorem Tidy.sweeps (h : s.Tidy) : ∀ sweep ∈ s.sweeps,
    sweep.live.Nodup ∧ ∀ id ∈ sweep.live, s.bus.heap id ≠ none :=
  fun sweep hsweep ↦ ⟨h.sweeps_nodup sweep hsweep, h.sweeps_alloc sweep hsweep⟩

/-- An `EvictAll` that moves on keeps its slots tidy. -/
theorem Tidy.sweeps_set (h : s.Tidy) {call : ℕ} {old new : Sweep}
    (hold : s.sweeps[call]? = some old) (hsub : new.live.Sublist old.live) :
    ∀ sweep ∈ s.sweeps.set call new,
      sweep.live.Nodup ∧ ∀ id ∈ sweep.live, s.bus.heap id ≠ none := by
  intro sweep hsweep
  rcases mem_or_eq_of_mem_set hsweep with hmem | rfl
  · exact h.sweeps sweep hmem
  · obtain ⟨hnodup, halloc⟩ := h.sweeps old (mem_of_getElem? hold)
    exact ⟨hnodup.sublist hsub, fun id hid ↦ halloc id (hsub.subset hid)⟩

theorem heap_evictSlot_eq_none (b : DeltaBus β) (i id : SlotId) (reason : EvictionReason) :
    (b.evictSlot i reason).heap id = none ↔ b.heap id = none := by
  rw [b.evictSlot_heap]
  split_ifs
  · exact map_eq_none_iff
  · exact Iff.rfl

theorem heap_tryPushTo_eq_none (b : DeltaBus β) (i id : SlotId) (payload : β) :
    (b.tryPushTo i payload).2.heap id = none ↔ b.heap id = none := by
  rcases eq_or_ne id i with rfl | hne
  · rcases hslot : b.heap id with - | slot
    · rw [DeltaBus.tryPushTo, hslot]
      exact iff_of_true hslot rfl
    · rw [(DeltaBus.tryPushTo_of_heap payload hslot).2]
      exact iff_of_false (some_ne_none _) (some_ne_none _)
  · rw [b.tryPushTo_heap_of_ne payload hne]

/-- Every step keeps the lists tidy. -/
theorem Tidy.step (h : s.Tidy) (hstep : Steps capacity s label t) : t.Tidy := by
  have hheld := h.held_nodup
  have halloc := h.held_alloc
  cases hstep with
  | publish payload hidle =>
    refine h.of_heap (fun _ ↦ Iff.rfl) filter_sublist ?_ ?_ h.sweeps h.released_alloc rfl
    · exact h.slots_nodup.filter _
    · exact fun id hid ↦ h.slots_alloc id (mem_of_mem_filter hid)
  | tryPush id payload live hphase =>
    rw [hphase] at hheld halloc
    have hsame : (s.tryNext id payload live).publisher.held = live ∨
        (s.tryNext id payload live).publisher.held = id :: live := by
      simp only [tryNext]
      split_ifs
      · exact Or.inl rfl
      · exact Or.inr rfl
    refine h.of_heap (fun i ↦ heap_tryPushTo_eq_none s.bus id i payload)
      (by simp [tryNext]) ?_ ?_ h.sweeps (by simpa [tryNext] using h.released_alloc) rfl
    · rcases hsame with heq | heq
      · rw [heq]
        exact (nodup_cons.1 hheld).2
      · rw [heq]
        exact hheld
    · rcases hsame with heq | heq
      · rw [heq]
        exact fun i hi ↦ halloc i (mem_cons_of_mem _ hi)
      · rw [heq]
        exact halloc
  | evictSlow id payload live hphase =>
    rw [hphase] at hheld halloc
    refine h.of_heap (fun i ↦ heap_evictSlot_eq_none s.bus id i _) (by simp) ?_ ?_ h.sweeps
      (by simpa using h.released_alloc) rfl
    · exact (nodup_cons.1 hheld).2
    · exact fun i hi ↦ halloc i (mem_cons_of_mem _ hi)
  | countDropped payload live hphase =>
    rw [hphase] at hheld halloc
    exact h.of_heap (fun _ ↦ Iff.rfl) (List.Sublist.refl _) hheld halloc h.sweeps h.released_alloc
      rfl
  | endPublish payload hphase =>
    exact h.of_heap (fun _ ↦ Iff.rfl) (List.Sublist.refl _) nodup_nil nofun h.sweeps
      h.released_alloc rfl
  | subscribe id hfresh =>
    have hgrow : ∀ i, s.bus.heap i ≠ none → (s.bus.subscribe id capacity).heap i ≠ none := by
      intro i hi
      have hne : i ≠ id := fun heq ↦ hi (heq ▸ hfresh)
      rwa [s.bus.subscribe_heap_of_ne capacity hne]
    have hself : (s.bus.subscribe id capacity).heap id ≠ none := by
      rw [s.bus.subscribe_heap_self]
      exact some_ne_none _
    have hnew : ∀ l : List SlotId, l.Nodup → (∀ i ∈ l, s.bus.heap i ≠ none) →
        (l ++ [id]).Nodup := by
      intro l hl hall
      refine nodup_append.2 ⟨hl, nodup_singleton _, ?_⟩
      intro i hi j hj heq
      rw [heq, mem_singleton.1 hj] at hi
      exact hall id hi hfresh
    exact
      { slots_nodup := hnew _ h.slots_nodup h.slots_alloc
        slots_alloc := forall_mem_append.2
          ⟨fun i hi ↦ hgrow i (h.slots_alloc i hi), forall_mem_singleton.2 hself⟩
        held_nodup := h.held_nodup
        held_alloc := fun i hi ↦ hgrow i (h.held_alloc i hi)
        sweeps_nodup := h.sweeps_nodup
        sweeps_alloc := fun sweep hsweep i hi ↦ hgrow i (h.sweeps_alloc sweep hsweep i hi)
        released_alloc := fun i hi ↦ hgrow i (h.released_alloc i hi)
        subscribed_nodup := hnew _ h.subscribed_nodup fun i hi ↦ (h.mem_subscribed i).1 hi
        mem_subscribed := fun i ↦ by
          rw [mem_append, mem_singleton, h.mem_subscribed i]
          refine ⟨fun hi ↦ hi.elim (hgrow i) fun heq ↦ heq ▸ hself, fun hi ↦ ?_⟩
          rcases eq_or_ne i id with heq | hne
          · exact Or.inr heq
          · rw [s.bus.subscribe_heap_of_ne capacity hne] at hi
            exact Or.inl hi }
  | unsubscribe id =>
    exact h.of_heap (fun i ↦ heap_evictSlot_eq_none s.bus id i _) (by simp) hheld halloc h.sweeps
      (by simpa using h.released_alloc) rfl
  | erase id =>
    exact h.of_heap (fun _ ↦ Iff.rfl) filter_sublist hheld halloc h.sweeps h.released_alloc rfl
  | blockingPop id slot hslot =>
    refine h.of_heap (fun i ↦ ?_) (List.Sublist.refl _) hheld halloc h.sweeps h.released_alloc rfl
    rcases eq_or_ne i id with rfl | hne
    · rw [hslot]
      refine iff_of_false ?_ (some_ne_none _)
      rw [pop, s.bus.setSlot_heap_self]
      exact some_ne_none _
    · rw [pop, s.bus.setSlot_heap_of_ne _ hne]
  | release id hid =>
    refine h.of_heap (fun _ ↦ Iff.rfl) (List.Sublist.refl _) hheld halloc h.sweeps (fun i hi ↦ ?_)
      rfl
    rcases eq_or_ne i id with rfl | hne
    · exact hid
    · have hold : Function.update s.bus.released id true i = true := hi
      rw [Function.update_of_ne hne] at hold
      exact h.released_alloc i hold
  | evictAll reason =>
    refine h.of_heap (fun _ ↦ Iff.rfl) (nil_sublist _) hheld halloc ?_ h.released_alloc rfl
    refine forall_mem_append.2 ⟨h.sweeps, forall_mem_singleton.2 ?_⟩
    exact ⟨h.slots_nodup.filter _, fun i hi ↦ h.slots_alloc i (mem_of_mem_filter hi)⟩
  | evictNext call id reason taken live hsweep =>
    exact h.of_heap (fun i ↦ heap_evictSlot_eq_none s.bus id i _) (by simp) hheld halloc
      (h.sweeps_set hsweep (sublist_cons_self _ _)) (by simpa using h.released_alloc) rfl
  | endEvictAll call reason taken hsweep =>
    exact h.of_heap (fun _ ↦ Iff.rfl) (List.Sublist.refl _) hheld halloc
      (h.sweeps_set hsweep (List.Sublist.refl _)) h.released_alloc rfl

end FanOut

end HighBar.Grpc
