import HighBar.Grpc.DeltaBusFanOut
import HighBar.Library.Counting

/-!
# Accounting for dropped subscribers

`cumulative_dropped_subscribers` is meant to be **the number of slots that were evicted as slow
consumers**. `Publish` bumps it whenever `TryPush` returns false, and `TryPush` returns false for
two reasons: the queue is full, or the slot is already closed. The two are told apart nowhere.

So a slot that closes between the collect step and its `TryPush` (or between a refused `TryPush` and
the `Evict` that follows it) is counted although its reason is another one
(`counts_unsubscribed_slot`). `dropped_accounted` proves the equation for every run in which **no
one else closes a slot that the current `Publish` is not done with**; the other conditions are that
`EvictAll` is not itself called with the slow-consumer reason and that the counter does not wrap.
-/

namespace HighBar.Grpc

open List Option

variable {β : Type*}

/-! ### What the count depends on -/

namespace DeltaBus

/-- The eviction reason of an allocated slot. -/
def evictionOf (b : DeltaBus β) (id : SlotId) : Option EvictionReason :=
  (b.heap id).map SubscriberSlot.eviction

/-- `cumulative_dropped_subscribers`, for a bus with counters. -/
def droppedTotal (b : DeltaBus β) : Option ℕ :=
  b.counters.map BusCounters.cumulativeDroppedSubscribers

variable (b : DeltaBus β)

/-- A push closes no slot. -/
theorem evictionOf_tryPushTo (id i : SlotId) (payload : β) :
    (b.tryPushTo id payload).2.evictionOf i = b.evictionOf i := by
  rcases eq_or_ne i id with rfl | hne
  · rcases hslot : b.heap i with - | slot
    · simp [evictionOf, tryPushTo, hslot]
    · rw [evictionOf, (tryPushTo_of_heap payload hslot).2, evictionOf, hslot]
      exact congrArg some (slot.tryPush_eviction payload)
  · rw [evictionOf, b.tryPushTo_heap_of_ne payload hne, evictionOf]

/-- `Evict` gives an open slot its reason, and does nothing else. -/
theorem evictionOf_evictSlot (id i : SlotId) (reason : EvictionReason) :
    (b.evictSlot id reason).evictionOf i =
      if i = id ∧ b.evictionOf i = some .kNone then some reason else b.evictionOf i := by
  rw [evictionOf, b.evictSlot_heap, evictionOf]
  rcases eq_or_ne i id with rfl | hne
  · rw [if_pos rfl]
    rcases b.heap i with - | slot
    · exact (if_neg fun hopen ↦ nomatch hopen.2).symm
    · by_cases hopen : slot.eviction = .kNone <;> simp [SubscriberSlot.evict, hopen]
  · rw [if_neg hne, if_neg fun h ↦ hne h.1]

theorem evictionOf_popFront {b : DeltaBus β} {id : SlotId} {slot : SubscriberSlot β}
    (hslot : b.heap id = some slot) (i : SlotId) :
    (b.setSlot id slot.popFront.2).evictionOf i = b.evictionOf i := by
  rcases eq_or_ne i id with rfl | hne
  · rw [evictionOf, b.setSlot_heap_self, evictionOf, hslot]
    exact congrArg some slot.popFront_eviction
  · rw [evictionOf, b.setSlot_heap_of_ne _ hne, evictionOf]

theorem droppedTotal_evictSlot (id : SlotId) (reason : EvictionReason) :
    (b.evictSlot id reason).droppedTotal = b.droppedTotal := by
  rw [droppedTotal, evictSlot_counters, droppedTotal]

theorem droppedTotal_countDropped :
    b.countDropped.droppedTotal = b.droppedTotal.map (wrapAdd 64 · 1) := by
  rw [droppedTotal, countDropped, Option.map_map, droppedTotal, Option.map_map]
  rfl

/-- `Subscribe` and the two ways out of the registry write the other counter only. -/
theorem droppedTotal_subscribe (id : SlotId) (capacity : ℕ) :
    (b.subscribe id capacity).droppedTotal = b.droppedTotal := by
  rw [droppedTotal, subscribe, Option.map_map, droppedTotal]
  rfl

theorem droppedTotal_unregister (id : SlotId) :
    (b.unregister id).droppedTotal = b.droppedTotal := by
  simp only [droppedTotal, unregister]
  split_ifs
  · rw [Option.map_map]
    rfl
  · rfl

theorem droppedTotal_uncount (taken : ℕ) :
    (b.uncount taken).droppedTotal = b.droppedTotal := by
  simp only [droppedTotal, uncount]
  split_ifs
  · rfl
  · rw [Option.map_map]
    rfl

end DeltaBus

/-- The refused slot has been evicted and is still to be counted. -/
def PublishPhase.uncounted : PublishPhase β → ℕ
  | .counting .. => 1
  | .idle | .pushing .. | .evicting .. => 0

namespace FanOut

variable {capacity : ℕ} {s t : FanOut β} {label : FanOutLabel β}

/-- The slot was evicted as a slow consumer. -/
def slow (s : FanOut β) (id : SlotId) : Bool := s.bus.evictionOf id == some .kSlowConsumer

/-- The number of slots that were evicted as slow consumers. -/
def slowConsumers (s : FanOut β) : ℕ := s.subscribed.countP s.slow

/-! ### The invariant -/

/-- The condition on a step: slots that `Publish` is not done with are closed by no one else, no
`EvictAll` has the slow-consumer reason, and the counter does not wrap. -/
def Undisturbed (s : FanOut β) : FanOutLabel β → Prop
  | .unsubscribe id | .evictNext _ id => id ∉ s.publisher.held
  | .evictAll reason => reason ≠ .kSlowConsumer
  | .countDropped => ∀ n ∈ s.bus.droppedTotal, n + 1 < 2 ^ 64
  | _ => True

instance (s : FanOut β) : (label : FanOutLabel β) → Decidable (s.Undisturbed label)
  | .unsubscribe id | .evictNext _ id => inferInstanceAs (Decidable (id ∉ s.publisher.held))
  | .evictAll reason => inferInstanceAs (Decidable (reason ≠ .kSlowConsumer))
  | .countDropped => inferInstanceAs (Decidable (∀ n ∈ s.bus.droppedTotal, n + 1 < 2 ^ 64))
  | .publish _ | .tryPush _ | .evictSlow _ | .endPublish => inferInstanceAs (Decidable True)
  | .subscribe _ | .erase _ | .blockingPop _ | .release _ => inferInstanceAs (Decidable True)
  | .endEvictAll _ => inferInstanceAs (Decidable True)

/-- What `Publish` holds is open, so that a refused push means a full queue, and the counter lags
behind the slow consumers by the one that is about to be counted. -/
structure Accounted (s : FanOut β) : Prop where
  held_open : ∀ id ∈ s.publisher.held, s.bus.evictionOf id = some .kNone
  sweep_reason : ∀ sweep ∈ s.sweeps, sweep.reason ≠ .kSlowConsumer
  counted : s.bus.droppedTotal.map (· + s.publisher.uncounted) = some s.slowConsumers

/-- A step that evicts no one and counts no one keeps the account. -/
theorem Accounted.of_same (h : s.Accounted)
    (hsame : ∀ id, t.bus.evictionOf id = s.bus.evictionOf id)
    (hheld : t.publisher.held ⊆ s.publisher.held)
    (hsweeps : ∀ sweep ∈ t.sweeps, sweep.reason ≠ .kSlowConsumer)
    (hdropped : t.bus.droppedTotal = s.bus.droppedTotal)
    (huncounted : t.publisher.uncounted = s.publisher.uncounted)
    (hsubscribed : t.subscribed = s.subscribed) : t.Accounted where
  held_open := fun id hid ↦ (hsame id).trans (h.held_open id (hheld hid))
  sweep_reason := hsweeps
  counted := by
    have hslow : t.slow = s.slow := funext fun id ↦ by rw [slow, hsame id, slow]
    rw [hdropped, huncounted, h.counted, slowConsumers, slowConsumers, hsubscribed, hslow]

/-- Closing a slot for another reason keeps the account, if `Publish` is done with the slot. -/
theorem Accounted.of_evictSlot (h : s.Accounted) {id : SlotId} {reason : EvictionReason}
    (hbus : t.bus = s.bus.evictSlot id reason) (hreason : reason ≠ .kSlowConsumer)
    (hpublisher : t.publisher = s.publisher) (hnot : id ∉ s.publisher.held)
    (hsweeps : ∀ sweep ∈ t.sweeps, sweep.reason ≠ .kSlowConsumer)
    (hsubscribed : t.subscribed = s.subscribed) : t.Accounted where
  held_open := fun i hi ↦ by
    rw [hpublisher] at hi
    have hne : i ≠ id := fun heq ↦ hnot (heq ▸ hi)
    rw [hbus, DeltaBus.evictionOf_evictSlot, if_neg fun hid ↦ hne hid.1]
    exact h.held_open i hi
  sweep_reason := hsweeps
  counted := by
    have hslow : t.slow = s.slow := funext fun i ↦ by
      rw [slow, hbus, DeltaBus.evictionOf_evictSlot, slow]
      split_ifs with hid
      · rw [hid.2]
        simpa using hreason
      · rfl
    rw [hbus, hpublisher, slowConsumers, hsubscribed, hslow, DeltaBus.droppedTotal_evictSlot]
    exact h.counted

/-- An `EvictAll` that moves on keeps its reason. -/
theorem Accounted.sweep_reason_set (h : s.Accounted) {call : ℕ} {old new : Sweep}
    (hold : s.sweeps[call]? = some old) (hsame : new.reason = old.reason) :
    ∀ sweep ∈ s.sweeps.set call new, sweep.reason ≠ .kSlowConsumer := by
  intro sweep hsweep
  rcases mem_or_eq_of_mem_set hsweep with hmem | rfl
  · exact h.sweep_reason sweep hmem
  · rw [hsame]
    exact h.sweep_reason old (mem_of_getElem? hold)

/-- The eviction of a slow consumer adds one to the slow consumers. -/
theorem slowConsumers_evictSlow (h : s.Accounted) (htidy : s.Tidy) {id : SlotId}
    (hid : id ∈ s.publisher.held) {publisher : PublishPhase β} :
    slowConsumers
      { s with bus := s.bus.evictSlot id .kSlowConsumer, publisher := publisher } =
      s.slowConsumers + 1 := by
  have hopen := h.held_open id hid
  have hmem : id ∈ s.subscribed := (htidy.mem_subscribed id).2 (htidy.held_alloc id hid)
  refine htidy.subscribed_nodup.countP_eq_add_one hmem ?_ ?_ fun i hne ↦ ?_
  · rw [slow, hopen]
    rfl
  · rw [slow, DeltaBus.evictionOf_evictSlot, if_pos ⟨rfl, hopen⟩]
    rfl
  · rw [slow, DeltaBus.evictionOf_evictSlot, if_neg fun heq ↦ hne heq.1, slow]

/-- One undisturbed step keeps the account. -/
theorem Accounted.step (h : s.Accounted) (htidy : s.Tidy) (hquiet : s.Undisturbed label)
    (hstep : Steps capacity s label t) : t.Accounted := by
  have hopen := h.held_open
  have hcounted := h.counted
  have hsweeps := h.sweep_reason
  cases hstep with
  | publish payload hidle =>
    rw [hidle] at hcounted
    refine ⟨fun id hid ↦ ?_, hsweeps, hcounted⟩
    obtain ⟨-, slot, hslot, hnone⟩ := DeltaBus.mem_collect hid
    show (s.bus.heap id).map SubscriberSlot.eviction = _
    rw [hslot, ← hnone]
    rfl
  | tryPush id payload live hphase =>
    have hheld : (s.tryNext id payload live).publisher.held ⊆ s.publisher.held := by
      rw [hphase]
      simp only [tryNext]
      split_ifs
      · exact subset_cons_self _ _
      · exact List.Subset.refl _
    have huncounted : (s.tryNext id payload live).publisher.uncounted = 0 := by
      simp only [tryNext]
      split_ifs <;> rfl
    refine h.of_same (fun i ↦ s.bus.evictionOf_tryPushTo id i payload) hheld hsweeps ?_ ?_ rfl
    · exact congrArg (Option.map _) (s.bus.tryPushTo_counters id payload)
    · rw [huncounted, hphase]
      rfl
  | evictSlow id payload live hphase =>
    have hid : id ∈ s.publisher.held := by
      rw [hphase]
      exact mem_cons_self
    have hnodup := htidy.held_nodup
    refine ⟨fun i hi ↦ ?_, hsweeps, ?_⟩
    · rw [hphase] at hnodup hopen
      have hne : i ≠ id := fun heq ↦ (nodup_cons.1 hnodup).1 (heq ▸ hi)
      show (s.bus.evictSlot id .kSlowConsumer).evictionOf i = _
      rw [DeltaBus.evictionOf_evictSlot, if_neg fun heq ↦ hne heq.1]
      exact hopen i (mem_cons_of_mem _ hi)
    · obtain ⟨n, hn, hlag⟩ := map_eq_some_iff.1 hcounted
      rw [hphase] at hlag
      have hsame : n = s.slowConsumers := hlag
      rw [slowConsumers_evictSlow h htidy hid]
      show (s.bus.evictSlot id .kSlowConsumer).droppedTotal.map (· + 1) = _
      rw [DeltaBus.droppedTotal_evictSlot, hn, hsame]
      rfl
  | countDropped payload live hphase =>
    obtain ⟨n, hn, hlag⟩ := map_eq_some_iff.1 hcounted
    rw [hphase] at hopen hlag
    have hone : n + 1 = s.slowConsumers := hlag
    refine ⟨hopen, hsweeps, ?_⟩
    show s.bus.countDropped.droppedTotal.map (· + 0) = some s.slowConsumers
    rw [DeltaBus.droppedTotal_countDropped, hn, ← hone]
    exact congrArg some (wrapAdd_of_lt (hquiet n hn))
  | endPublish payload hphase =>
    refine h.of_same (fun _ ↦ rfl) (nil_subset _) hsweeps rfl ?_ rfl
    rw [hphase]
    rfl
  | subscribe id hfresh =>
    have hnew : id ∉ s.subscribed := fun hmem ↦ (htidy.mem_subscribed id).1 hmem hfresh
    have hold : ∀ i, i ≠ id →
        (s.bus.subscribe id capacity).evictionOf i = s.bus.evictionOf i := by
      intro i hne
      rw [DeltaBus.evictionOf, s.bus.subscribe_heap_of_ne capacity hne, DeltaBus.evictionOf]
    have hself : (s.bus.subscribe id capacity).evictionOf id = some .kNone := by
      rw [DeltaBus.evictionOf, s.bus.subscribe_heap_self]
      rfl
    refine ⟨fun i hi ↦ ?_, hsweeps, ?_⟩
    · have hne : i ≠ id := fun heq ↦ htidy.held_alloc i hi (heq ▸ hfresh)
      exact (hold i hne).trans (hopen i hi)
    · rw [slowConsumers, countP_append_new (p := s.slow) hnew fun i hne ↦ by
        rw [slow, hold i hne, slow]]
      rw [slow, hself, DeltaBus.droppedTotal_subscribe]
      exact hcounted
  | unsubscribe id => exact h.of_evictSlot rfl (by decide) rfl hquiet hsweeps rfl
  | erase id =>
    exact h.of_same (fun _ ↦ rfl) (List.Subset.refl _) hsweeps
      (s.bus.droppedTotal_unregister id) rfl rfl
  | blockingPop id slot hslot =>
    exact h.of_same (DeltaBus.evictionOf_popFront hslot) (List.Subset.refl _) hsweeps rfl rfl rfl
  | release id hid => exact h.of_same (fun _ ↦ rfl) (List.Subset.refl _) hsweeps rfl rfl rfl
  | evictAll reason =>
    refine h.of_same (fun _ ↦ rfl) (List.Subset.refl _) ?_ rfl rfl rfl
    exact forall_mem_append.2 ⟨hsweeps, forall_mem_singleton.2 hquiet⟩
  | evictNext call id reason taken live hsweep =>
    have hreason : reason ≠ .kSlowConsumer := hsweeps _ (mem_of_getElem? hsweep)
    exact h.of_evictSlot rfl hreason rfl hquiet (h.sweep_reason_set hsweep rfl) rfl
  | endEvictAll call reason taken hsweep =>
    exact h.of_same (fun _ ↦ rfl) (List.Subset.refl _) (h.sweep_reason_set hsweep rfl)
      (s.bus.droppedTotal_uncount taken.length) rfl rfl

/-! ### Every run -/

/-- The bus of a gateway that has just started, with its counters at zero. -/
def counted (capacity : ℕ) : StepMachine (FanOut β) (FanOutLabel β) :=
  machine capacity (some ⟨0, 0⟩)

/-- **Whenever no `Publish` is in progress, the counter is the number of slow consumers**, in every
run in which no one else closes a slot that the current `Publish` is not done with. -/
theorem dropped_accounted {labels : List (FanOutLabel β)}
    (hmeets : (counted capacity).Meets Undisturbed (counted capacity).init labels)
    (hrun : (counted capacity).exec (counted capacity).init labels = some s)
    (hidle : s.publisher = .idle) : s.bus.droppedTotal = some s.slowConsumers := by
  have hinit : (counted (β := β) capacity).init.Tidy ∧ (counted (β := β) capacity).init.Accounted :=
    ⟨tidy_init capacity _, ⟨nofun, nofun, rfl⟩⟩
  obtain ⟨-, haccounted⟩ : s.Tidy ∧ s.Accounted :=
    StepMachine.invariant_of_meets (I := fun s ↦ s.Tidy ∧ s.Accounted)
      (fun _ _ _ h hquiet hstep ↦
        ⟨h.1.step (steps_of_step hstep), h.2.step h.1 hquiet (steps_of_step hstep)⟩)
      hinit hmeets hrun
  obtain ⟨n, hn, hlag⟩ := map_eq_some_iff.1 haccounted.counted
  rw [hidle] at hlag
  rw [hn]
  exact congrArg some hlag

/-- Two subscribers with room for one payload; the second keeps up and leaves between two calls of
`Publish`, the first does not. -/
def slowAndLeaving : List (FanOutLabel ℕ) :=
  [.subscribe 0, .subscribe 1, .publish 5, .tryPush 0, .tryPush 1, .endPublish, .blockingPop 1,
    .publish 6, .tryPush 0, .evictSlow 0, .countDropped, .tryPush 1, .endPublish, .unsubscribe 1,
    .erase 1, .publish 7, .endPublish]

theorem dropped_accounted_slowAndLeaving :
    ∃ s, (counted 1).exec (counted 1).init slowAndLeaving = some s ∧ s.publisher = .idle ∧
      s.slowConsumers = 1 ∧ s.bus.droppedTotal = some s.slowConsumers := by
  have hmeets : (counted 1).Meets Undisturbed (counted 1).init slowAndLeaving := by decide
  exact ⟨_, rfl, rfl, rfl, dropped_accounted hmeets rfl rfl⟩

/-- A subscriber leaves between the collect step of `Publish` and its `TryPush`. -/
def leavesDuringPublish : List (FanOutLabel ℕ) :=
  [.subscribe 0, .publish 5, .unsubscribe 0, .erase 0, .tryPush 0, .evictSlow 0, .countDropped,
    .endPublish]

/-- **A subscriber that leaves during a `Publish` is counted as a slow consumer**, though its slot
was empty and was closed as canceled. -/
theorem counts_unsubscribed_slot :
    ∃ s, (counted SubscriberSlot.defaultCapacity).exec
        (counted SubscriberSlot.defaultCapacity).init leavesDuringPublish = some s ∧
      s.publisher = .idle ∧ s.bus.evictionOf 0 = some .kCanceled ∧ s.slowConsumers = 0 ∧
      s.bus.droppedTotal = some 1 :=
  ⟨_, rfl, rfl, rfl, rfl, rfl⟩

end FanOut

end HighBar.Grpc
