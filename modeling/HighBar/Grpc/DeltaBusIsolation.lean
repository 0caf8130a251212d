import HighBar.Grpc.DeltaBusFanOut

/-!
# Fan-out isolation

`SlotView` is **the bus as one subscriber sees it**: its slot, whether the next `Publish` will find
it, and what the publisher and the running `EvictAll` calls still have in store for it. It is a
machine of its own over the labels of the bus, in which a label that does not concern the subscriber
does nothing, and `view` is a simulation from the whole bus into it (`view_step`). Everything about
one slot is then proved in the small machine:

* the payloads popped are a **gap-free prefix** of those collected since the subscription;
* an evicted slot receives **nothing more**;
* two runs with the same labels for the subscriber leave it in the same state, **whatever the other
  subscribers did**, because a run of the small machine is determined by those labels.
-/

namespace HighBar.Grpc

open List Option

/-! ### The bus as one subscriber sees it -/

/-- What one subscriber sees of the bus. -/
@[ext] structure SlotView (β : Type*) where
  /-- The slot, once it is subscribed. -/
  slot : Option (SubscriberSlot β)
  /-- It is registered and its owner holds it, so the next `Publish` finds it. -/
  listed : Bool
  /-- The payload the publisher collected it for and has not tried yet. -/
  pending : Option β
  /-- It refused a payload, and the publisher is about to evict it. -/
  refused : Bool
  /-- For each `EvictAll` call so far, the eviction it has in store for the slot. -/
  sweeping : List (Option EvictionReason)
  offered : List β
  popped : List β

namespace SlotView

variable {β : Type*}

/-- The next `Publish` collects the slot. -/
def isLive (v : SlotView β) : Bool :=
  v.listed && v.slot.any fun slot ↦ slot.eviction == .kNone

/-- Close the slot, unless it is closed already. -/
def evict (v : SlotView β) (reason : EvictionReason) : SlotView β :=
  { v with slot := v.slot.map fun slot ↦ slot.evict reason }

/-- A step of the subscriber, or of another party on its slot. -/
def ownStep (capacity : ℕ) (v : SlotView β) : FanOutLabel β → Option (SlotView β)
  | .publish payload =>
    if v.pending.isNone && !v.refused then
      some
        { v with
          pending := if v.isLive then some payload else none
          offered := if v.slot.isSome then v.offered ++ [payload] else v.offered }
    else none
  | .tryPush _ =>
    match v.slot, v.pending with
    | some slot, some payload =>
      some
        { v with
          slot := some (slot.tryPush payload).2
          pending := none
          refused := !(slot.tryPush payload).1 }
    | _, _ => none
  | .evictSlow _ => some { v.evict .kSlowConsumer with refused := false }
  | .subscribe _ =>
    if v.slot.isNone then some { v with slot := some (.create capacity), listed := true } else none
  | .unsubscribe _ => some (v.evict .kCanceled)
  | .erase _ | .release _ => some { v with listed := false }
  | .blockingPop _ =>
    match v.slot with
    | some slot =>
      some
        { v with
          slot := some slot.popFront.2
          popped := v.popped ++ slot.popFront.1.toList }
    | none => none
  | .evictAll reason =>
    some
      { v with
        listed := false
        sweeping := v.sweeping ++ [if v.listed then some reason else none] }
  | .evictNext call _ =>
    match v.sweeping[call]? with
    | some (some reason) => some { v.evict reason with sweeping := v.sweeping.set call none }
    | _ => none
  | .countDropped | .endPublish | .endEvictAll _ => some v

/-- One step: labels that do not concern the subscriber do nothing. -/
def step (capacity : ℕ) (id : SlotId) (v : SlotView β) (label : FanOutLabel β) :
    Option (SlotView β) :=
  if label.concerns id then v.ownStep capacity label else some v

/-- The machine of one subscriber, before its subscription. -/
def machine (capacity : ℕ) (id : SlotId) : StepMachine (SlotView β) (FanOutLabel β) where
  init :=
    { slot := none
      listed := false
      pending := none
      refused := false
      sweeping := []
      offered := []
      popped := [] }
  step := step capacity id

theorem step_of_concerns {capacity : ℕ} {id : SlotId} {label : FanOutLabel β} (v : SlotView β)
    (h : label.concerns id = true) : v.step capacity id label = v.ownStep capacity label :=
  if_pos h

/-- A label of another slot does nothing. -/
theorem step_of_not_concerns {capacity : ℕ} {id : SlotId} {label : FanOutLabel β} (v : SlotView β)
    (h : label.concerns id = false) : v.step capacity id label = some v :=
  if_neg (by rw [h]; exact Bool.false_ne_true)

/-- A label for one slot is a step of its subscriber, and nothing to the others. -/
theorem step_of_slot {capacity : ℕ} {id i : SlotId} {label : FanOutLabel β} {v w : SlotView β}
    (hlabel : label.concerns id = decide (i = id))
    (hself : i = id → v.ownStep capacity label = some w) (hother : i ≠ id → v = w) :
    v.step capacity id label = some w := by
  by_cases h : i = id
  · exact (v.step_of_concerns (hlabel.trans (decide_eq_true h))).trans (hself h)
  · exact (v.step_of_not_concerns (hlabel.trans (decide_eq_false h))).trans
      (congrArg some (hother h))

end SlotView

namespace FanOut

variable {β : Type*} {capacity : ℕ} {s t : FanOut β} {label : FanOutLabel β}

/-- What the subscriber with slot `id` sees. -/
def view (id : SlotId) (s : FanOut β) : SlotView β where
  slot := s.bus.heap id
  listed := decide (id ∈ s.bus.slots) && !s.bus.released id
  pending := s.publisher.pendingFor id
  refused := decide (s.publisher.refusing = some id)
  sweeping := s.sweeps.map fun sweep ↦ sweep.reasonFor id
  offered := s.offered id
  popped := s.popped id

/-- A slot is collected exactly when its subscriber sees it as live. -/
theorem mem_collect_iff (s : FanOut β) (id : SlotId) :
    id ∈ s.bus.collect.1 ↔ (s.view id).isLive = true := by
  rw [DeltaBus.collect, mem_filter]
  simp only [DeltaBus.isLive, DeltaBus.lock, SlotView.isLive, view, Bool.and_eq_true,
    decide_eq_true_eq, and_assoc]
  refine and_congr_right fun _ ↦ ?_
  rcases s.bus.released id with - | -
  · rcases s.bus.heap id with - | slot <;> simp
  · simp

/-- A registration that cannot be locked is not seen. -/
theorem mem_filter_lock_iff (h : s.Tidy) (id : SlotId) :
    id ∈ s.bus.slots.filter (fun i ↦ (s.bus.lock i).isSome) ↔
      id ∈ s.bus.slots ∧ s.bus.released id = false := by
  rw [mem_filter]
  refine and_congr_right fun hmem ↦ ?_
  obtain ⟨slot, hslot⟩ := ne_none_iff_exists'.1 (h.slots_alloc id hmem)
  rw [DeltaBus.lock, hslot]
  rcases s.bus.released id with - | - <;> simp

/-- The registry of `t` lists the slot for its subscriber exactly when that of `s` does. -/
theorem listed_congr (id : SlotId) (hreleased : t.bus.released id = s.bus.released id)
    (hslots : s.bus.released id = false → (id ∈ t.bus.slots ↔ id ∈ s.bus.slots)) :
    (s.view id).listed = (t.view id).listed := by
  simp only [view, hreleased]
  rcases hr : s.bus.released id with - | -
  · rw [decide_eq_decide.2 (hslots hr).symm]
  · rw [Bool.not_true, Bool.and_false, Bool.and_false]

/-- A sweep that moves on leaves the view of a slot it has the same in store for. -/
theorem map_reasonFor_set {sweeps : List Sweep} {call : ℕ} {old new : Sweep} {id : SlotId}
    (hold : sweeps[call]? = some old) (hsame : new.reasonFor id = old.reasonFor id) :
    sweeps.map (fun sweep ↦ sweep.reasonFor id) =
      (sweeps.set call new).map fun sweep ↦ sweep.reasonFor id := by
  have hlt := (List.getElem?_eq_some_iff.1 hold).1
  refine ext_getElem? fun i ↦ ?_
  rw [getElem?_map, getElem?_map, getElem?_set]
  split_ifs with heq
  · rw [← heq, hold, map_some, map_some, hsame]
  · rfl

/-- A publication collects the slot if it is live. -/
theorem view_publish (h : s.Tidy) (id : SlotId) (payload : β) (hidle : s.publisher = .idle) :
    (s.view id).step capacity id (.publish payload) = some ((s.beginPublish payload).view id) := by
  have hpending : (s.view id).pending = none := by
    rw [view, hidle]
    rfl
  have hrefused : (s.view id).refused = false := by
    rw [view, hidle]
    rfl
  rw [SlotView.step_of_concerns _ rfl, SlotView.ownStep, hpending, hrefused]
  refine congrArg some (SlotView.ext rfl ?_ ?_ rfl rfl rfl rfl)
  · refine listed_congr id rfl fun hr ↦ ?_
    exact (mem_filter_lock_iff h id).trans (and_iff_left hr)
  · exact if_congr (mem_collect_iff s id).symm rfl rfl

/-- The publisher offers its payload to one slot. -/
theorem view_tryPush (h : s.Tidy) (id i : SlotId) (payload : β) (live : List SlotId)
    (hphase : s.publisher = .pushing payload (i :: live)) :
    (s.view id).step capacity id (.tryPush i) = some ((s.tryNext i payload live).view id) := by
  have hlive : (s.tryNext i payload live).publisher.live = live ∧
      (s.tryNext i payload live).publisher.payload? = some payload := by
    simp only [tryNext]
    split_ifs <;> exact ⟨rfl, rfl⟩
  have hrefusing : (s.tryNext i payload live).publisher.refusing =
      if (s.bus.tryPushTo i payload).1 then none else some i := by
    simp only [tryNext]
    split_ifs <;> rfl
  have hheld := h.held_nodup
  have halloc := h.held_alloc i
  rw [hphase] at hheld halloc
  have hlisted : (s.view id).listed = ((s.tryNext i payload live).view id).listed :=
    listed_congr id (by simp [tryNext]) fun _ ↦ by simp [tryNext]
  refine SlotView.step_of_slot rfl ?_ fun hne ↦ ?_
  · rintro rfl
    obtain ⟨slot, hslot⟩ := ne_none_iff_exists'.1 (halloc (mem_cons_self ..))
    obtain ⟨hok, hafter⟩ := DeltaBus.tryPushTo_of_heap payload hslot
    have hview : (s.view i).slot = some slot := hslot
    have hpending : (s.view i).pending = some payload := by
      rw [view, hphase]
      exact if_pos (mem_cons_self ..)
    rw [SlotView.ownStep, hview, hpending]
    refine congrArg some (SlotView.ext hafter.symm hlisted ?_ ?_ rfl rfl rfl)
    · exact (if_neg (by rw [hlive.1]; exact (nodup_cons.1 hheld).1)).symm
    · simp only [view, hrefusing, hok]
      rcases (slot.tryPush payload).1 with - | - <;> simp
  · refine SlotView.ext ?_ hlisted ?_ ?_ rfl rfl rfl
    · exact (s.bus.tryPushTo_heap_of_ne payload hne.symm).symm
    · simp only [view, PublishPhase.pendingFor, hlive, hphase]
      refine if_congr ?_ rfl rfl
      exact mem_cons.trans (or_iff_right hne.symm)
    · simp only [view, hrefusing, hphase]
      split_ifs <;> simp [PublishPhase.refusing, hne]

/-- Evicting a slot is seen by its subscriber, and by no other. -/
theorem heap_evictSlot (b : DeltaBus β) (id i : SlotId) (reason : EvictionReason) :
    (b.evictSlot i reason).heap id =
      if i = id then (b.heap id).map fun slot ↦ slot.evict reason else b.heap id := by
  rw [b.evictSlot_heap]
  exact if_congr eq_comm rfl rfl

theorem listed_evictSlot {id i : SlotId} {reason : EvictionReason}
    (hbus : t.bus = s.bus.evictSlot i reason) : (s.view id).listed = (t.view id).listed :=
  listed_congr id (by simp [hbus]) (by simp [hbus])

/-- The publisher evicts the slot that refused. -/
theorem view_evictSlow (id i : SlotId) (payload : β) (live : List SlotId)
    (hphase : s.publisher = .evicting i payload live) :
    (s.view id).step capacity id (.evictSlow i) =
      some (view id { s with
        bus := s.bus.evictSlot i .kSlowConsumer
        publisher := .counting payload live }) := by
  have hheap := heap_evictSlot s.bus id i .kSlowConsumer
  refine SlotView.step_of_slot rfl ?_ fun hne ↦ ?_
  · rintro rfl
    rw [if_pos rfl] at hheap
    refine congrArg some (SlotView.ext hheap.symm (listed_evictSlot rfl) ?_ rfl rfl rfl rfl)
    simp only [view, SlotView.evict, hphase]
    rfl
  · rw [if_neg hne] at hheap
    refine SlotView.ext hheap.symm (listed_evictSlot rfl) ?_ ?_ rfl rfl rfl
    · simp only [view, hphase]
      rfl
    · simp [view, hphase, PublishPhase.refusing, hne]

/-- A subscription lists an empty slot. -/
theorem view_subscribe (h : s.Tidy) (id i : SlotId) (hfresh : s.bus.heap i = none) :
    (s.view id).step capacity id (.subscribe i) =
      some (view id { s with
        bus := s.bus.subscribe i capacity
        subscribed := s.subscribed ++ [i] }) := by
  refine SlotView.step_of_slot rfl ?_ fun hne ↦ ?_
  · rintro rfl
    have hslot : (s.view i).slot = none := hfresh
    have hheld : s.bus.released i = false :=
      eq_false_of_ne_true fun hr ↦ h.released_alloc i hr hfresh
    rw [SlotView.ownStep, hslot]
    refine congrArg some (SlotView.ext (s.bus.subscribe_heap_self i capacity).symm ?_ rfl rfl rfl
      rfl rfl)
    simp [view, DeltaBus.subscribe, hheld]
  · refine SlotView.ext (s.bus.subscribe_heap_of_ne capacity hne.symm).symm ?_ rfl rfl rfl rfl rfl
    refine listed_congr id rfl fun _ ↦ ?_
    rw [DeltaBus.subscribe, mem_append, mem_singleton]
    exact or_iff_left hne.symm

theorem view_unsubscribe (id i : SlotId) (unsubscribing : SlotId → Bool) :
    (s.view id).step capacity id (.unsubscribe i) =
      some (view id { s with
        bus := s.bus.evictSlot i .kCanceled
        unsubscribing := unsubscribing }) := by
  have hheap := heap_evictSlot s.bus id i .kCanceled
  refine SlotView.step_of_slot rfl ?_ fun hne ↦ ?_
  · rintro rfl
    rw [if_pos rfl] at hheap
    exact congrArg some (SlotView.ext hheap.symm (listed_evictSlot rfl) rfl rfl rfl rfl rfl)
  · rw [if_neg hne] at hheap
    exact SlotView.ext hheap.symm (listed_evictSlot rfl) rfl rfl rfl rfl rfl

/-- The registration of one slot goes. -/
theorem view_erase (h : s.Tidy) (id i : SlotId) (unsubscribing : SlotId → Bool) :
    (s.view id).step capacity id (.erase i) =
      some (view id { s with bus := s.bus.unregister i, unsubscribing := unsubscribing }) := by
  refine SlotView.step_of_slot rfl ?_ fun hne ↦ ?_
  · rintro rfl
    rw [SlotView.ownStep]
    refine congrArg some (SlotView.ext rfl ?_ rfl rfl rfl rfl rfl)
    simp [view, DeltaBus.unregister]
  · refine SlotView.ext rfl ?_ rfl rfl rfl rfl rfl
    refine listed_congr id rfl fun hr ↦ ?_
    refine Iff.trans ?_ ((mem_filter_lock_iff h id).trans (and_iff_left hr))
    simp [DeltaBus.unregister, hne.symm]

theorem view_release (id i : SlotId) :
    (s.view id).step capacity id (.release i) =
      some (view id { s with bus := s.bus.release i }) := by
  refine SlotView.step_of_slot rfl ?_ fun hne ↦ ?_
  · rintro rfl
    rw [SlotView.ownStep]
    refine congrArg some (SlotView.ext rfl ?_ rfl rfl rfl rfl rfl)
    simp [view, DeltaBus.release]
  · refine SlotView.ext rfl ?_ rfl rfl rfl rfl rfl
    exact listed_congr id (Function.update_of_ne hne.symm _ _) fun _ ↦ Iff.rfl

/-- A subscriber pops from its own slot. -/
theorem view_blockingPop (id i : SlotId) (slot : SubscriberSlot β)
    (hslot : s.bus.heap i = some slot) :
    (s.view id).step capacity id (.blockingPop i) = some ((s.pop i slot).view id) := by
  refine SlotView.step_of_slot rfl ?_ fun hne ↦ ?_
  · rintro rfl
    have hview : (s.view i).slot = some slot := hslot
    rw [SlotView.ownStep, hview]
    refine congrArg some (SlotView.ext (s.bus.setSlot_heap_self ..).symm rfl rfl rfl rfl rfl ?_)
    have hpopped : (s.pop i slot).popped i = s.popped i ++ slot.popFront.1.toList :=
      Function.update_self ..
    exact hpopped.symm
  · refine SlotView.ext (s.bus.setSlot_heap_of_ne _ hne.symm).symm rfl rfl rfl rfl rfl ?_
    have hpopped : (s.pop i slot).popped id = s.popped id := Function.update_of_ne hne.symm ..
    exact hpopped.symm

/-- `EvictAll` takes the listed slots. -/
theorem view_evictAll (h : s.Tidy) (id : SlotId) (reason : EvictionReason) :
    (s.view id).step capacity id (.evictAll reason) = some ((s.beginSweep reason).view id) := by
  rw [SlotView.step_of_concerns _ rfl, SlotView.ownStep]
  refine congrArg some (SlotView.ext rfl ?_ rfl rfl ?_ rfl rfl)
  · simp [view, beginSweep, DeltaBus.clear]
  · simp only [view, beginSweep, map_append, map_cons, map_nil]
    refine congrArg (fun r ↦ s.sweeps.map (fun sweep ↦ sweep.reasonFor id) ++ [r]) ?_
    refine if_congr ?_ rfl rfl
    rw [Bool.and_eq_true, decide_eq_true_eq, Bool.not_eq_true']
    exact (mem_filter_lock_iff h id).symm

/-- `EvictAll` closes one of the slots it has taken. -/
theorem view_evictNext (h : s.Tidy) (id : SlotId) {call : ℕ} {i : SlotId} {reason : EvictionReason}
    {taken live : List SlotId} (hsweep : s.sweeps[call]? = some ⟨reason, taken, i :: live⟩) :
    (s.view id).step capacity id (.evictNext call i) =
      some (view id { s with
        bus := s.bus.evictSlot i reason
        sweeps := s.sweeps.set call ⟨reason, taken, live⟩ }) := by
  have hheap := heap_evictSlot s.bus id i reason
  have hnodup := h.sweeps_nodup _ (mem_of_getElem? hsweep)
  refine SlotView.step_of_slot rfl ?_ fun hne ↦ ?_
  · rintro rfl
    have hstore : (s.view i).sweeping[call]? = some (some reason) := by
      rw [view, getElem?_map, hsweep]
      exact congrArg some (if_pos (mem_cons_self ..))
    rw [SlotView.ownStep, hstore]
    rw [if_pos rfl] at hheap
    refine congrArg some (SlotView.ext hheap.symm (listed_evictSlot rfl) rfl rfl ?_ rfl rfl)
    simp only [view, map_set]
    refine congrArg _ ?_
    exact (if_neg (nodup_cons.1 hnodup).1).symm
  · rw [if_neg hne] at hheap
    refine SlotView.ext hheap.symm (listed_evictSlot rfl) rfl rfl ?_ rfl rfl
    refine map_reasonFor_set hsweep (if_congr ?_ rfl rfl)
    exact (mem_cons.trans (or_iff_right hne.symm)).symm

/-- **The view is a simulation**: a step of the bus is, for each subscriber, a step of its own
machine with the same label. -/
theorem view_step (h : s.Tidy) (id : SlotId) (hstep : Steps capacity s label t) :
    (s.view id).step capacity id label = some (t.view id) := by
  cases hstep with
  | publish payload hidle => exact view_publish h id payload hidle
  | tryPush i payload live hphase => exact view_tryPush h id i payload live hphase
  | evictSlow i payload live hphase => exact view_evictSlow id i payload live hphase
  | countDropped _ _ hphase | endPublish _ hphase =>
    rw [SlotView.step_of_not_concerns _ rfl]
    refine congrArg some (SlotView.ext rfl rfl ?_ ?_ rfl rfl rfl)
    · rw [view, hphase]
      rfl
    · rw [view, hphase]
      rfl
  | subscribe i hfresh => exact view_subscribe h id i hfresh
  | unsubscribe i => exact view_unsubscribe id i _
  | erase i => exact view_erase h id i _
  | blockingPop i slot hslot => exact view_blockingPop id i slot hslot
  | release i _ => exact view_release id i
  | evictAll reason => exact view_evictAll h id reason
  | evictNext call i reason taken live hsweep => exact view_evictNext h id hsweep
  | endEvictAll call reason taken hsweep =>
    rw [SlotView.step_of_not_concerns _ rfl]
    exact congrArg some (SlotView.ext rfl rfl rfl rfl (map_reasonFor_set hsweep rfl) rfl rfl)

end FanOut

/-! ### What one subscriber receives -/

namespace SlotView

variable {β : Type*} {capacity : ℕ} {v w : SlotView β} {label : FanOutLabel β}

/-- What a subscribed slot has received, compared with what was collected since. -/
structure Fed (capacity : ℕ) (v : SlotView β) (slot : SubscriberSlot β) : Prop where
  capacity_eq : slot.capacity = capacity
  received : v.popped ++ slot.queue <+: v.offered
  /-- An open slot will also receive what the publisher has collected it for. -/
  receiving : slot.eviction = .kNone → v.popped ++ slot.queue ++ v.pending.toList <+: v.offered
  /-- A slot that is still collected has missed nothing. -/
  complete : slot.eviction = .kNone → v.listed = true → v.refused = false →
    v.popped ++ slot.queue ++ v.pending.toList = v.offered

/-- The invariant of one subscriber. -/
structure Faithful (capacity : ℕ) (v : SlotView β) : Prop where
  fed : ∀ slot, v.slot = some slot → v.Fed capacity slot
  /-- Nothing happens to a slot before its subscription. -/
  quiet : v.slot = none → v.listed = false ∧ v.pending = none ∧ v.offered = [] ∧ v.popped = []
  /-- The publisher is done with a slot that refused. -/
  refused_of_pending : v.pending ≠ none → v.refused = false

theorem faithful_init (id : SlotId) : (machine (β := β) capacity id).init.Faithful capacity where
  fed := nofun
  quiet := fun _ ↦ ⟨rfl, rfl, rfl, rfl⟩
  refused_of_pending := fun h ↦ absurd rfl h

section

variable (h : v.Faithful capacity)
include h

/-- A payload is offered to every slot, and is pending for a live one. -/
theorem Faithful.publish {payload : β} (hpending : v.pending = none)
    (hrefused : v.refused = false) :
    Faithful capacity
      { v with
        pending := if v.isLive then some payload else none
        offered := if v.slot.isSome then v.offered ++ [payload] else v.offered } := by
  refine ⟨fun slot hslot ↦ ?_, fun hslot ↦ ?_, fun _ ↦ hrefused⟩
  · have hslot : v.slot = some slot := hslot
    obtain ⟨hcap, hreceived, -, hcomplete⟩ := h.fed slot hslot
    have hgrow : v.offered <+: v.offered ++ [payload] := prefix_append _ _
    simp only [isLive, hslot, any_some, isSome_some, if_true]
    rcases hlisted : v.listed with - | -
    · simp only [Bool.false_and, Bool.false_eq_true, if_false]
      refine ⟨hcap, hreceived.trans hgrow, fun _ ↦ ?_, fun _ hl _ ↦ ?_⟩
      · rw [toList_none, append_nil]
        exact hreceived.trans hgrow
      · exact absurd hl Bool.noConfusion
    · by_cases hopen : slot.eviction = .kNone
      · have hall := hcomplete hopen hlisted hrefused
        rw [hpending, toList_none, append_nil] at hall
        simp only [hopen, beq_self_eq_true, Bool.and_self, if_true]
        refine ⟨hcap, hreceived.trans hgrow, fun _ ↦ ?_, fun _ _ _ ↦ ?_⟩
        · rw [hall]
          exact prefix_rfl
        · rw [hall]
          rfl
      · exact ⟨hcap, hreceived.trans hgrow, fun hc ↦ absurd hc hopen, fun hc ↦ absurd hc hopen⟩
  · have hslot : v.slot = none := hslot
    obtain ⟨hlisted, -, hoffered, hpopped⟩ := h.quiet hslot
    refine ⟨hlisted, ?_, ?_, hpopped⟩
    · simp only [isLive, hslot, any_none, Bool.and_false, Bool.false_eq_true, if_false]
    · simp only [hslot, isSome_none, Bool.false_eq_true, if_false]
      exact hoffered

/-- A pending payload is received or refused. -/
theorem Faithful.tryPush {slot : SubscriberSlot β} {payload : β} (hslot : v.slot = some slot)
    (hpending : v.pending = some payload) :
    Faithful capacity
      { v with
        slot := some (slot.tryPush payload).2
        pending := none
        refused := !(slot.tryPush payload).1 } := by
  obtain ⟨hcap, hreceived, hreceiving, hcomplete⟩ := h.fed slot hslot
  have hclear := h.refused_of_pending (by rw [hpending]; exact some_ne_none _)
  refine ⟨fun slot' hslot' ↦ ?_, nofun, fun hc ↦ absurd rfl hc⟩
  cases hslot'
  rcases hok : (slot.tryPush payload).1 with - | -
  · -- refused: the payload is lost, but the slot is about to be evicted
    obtain ⟨hqueue, heviction⟩ := SubscriberSlot.tryPush_false hok
    refine ⟨(slot.tryPush_capacity payload).trans hcap, ?_, fun _ ↦ ?_, fun _ _ hr ↦ ?_⟩
    · rw [hqueue]
      exact hreceived
    · rw [hqueue, toList_none, append_nil]
      exact hreceived
    · exact absurd hr Bool.noConfusion
  · obtain ⟨hopen, hqueue, -⟩ := SubscriberSlot.tryPush_true hok
    have hreceived' := hreceiving hopen
    rw [hpending, toList_some] at hreceived'
    refine ⟨(slot.tryPush_capacity payload).trans hcap, ?_, fun _ ↦ ?_, fun _ hl _ ↦ ?_⟩
    · rw [hqueue, ← append_assoc]
      exact hreceived'
    · rw [hqueue, ← append_assoc, toList_none, append_nil]
      exact hreceived'
    · have hall := hcomplete hopen hl hclear
      rw [hpending, toList_some] at hall
      rw [hqueue, ← append_assoc, toList_none, append_nil]
      exact hall

/-- Closing a slot takes nothing back and promises nothing. -/
theorem Faithful.evict (reason : EvictionReason) : (v.evict reason).Faithful capacity := by
  refine ⟨fun slot' hslot' ↦ ?_, fun hslot ↦ h.quiet (map_eq_none_iff.1 hslot),
    h.refused_of_pending⟩
  obtain ⟨slot, hslot, rfl⟩ := map_eq_some_iff.1 hslot'
  obtain ⟨hcap, hreceived, hreceiving, hcomplete⟩ := h.fed slot hslot
  have hqueue := slot.evict_queue reason
  refine ⟨(slot.evict_capacity reason).trans hcap, ?_, fun hopen ↦ ?_, fun hopen ↦ ?_⟩
  · rw [hqueue]
    exact hreceived
  · rw [hqueue]
    exact hreceiving (SubscriberSlot.eviction_of_evict_eq_none hopen)
  · rw [hqueue]
    exact hcomplete (SubscriberSlot.eviction_of_evict_eq_none hopen)

/-- Once the publisher has evicted a slot that refused, the slot is closed. -/
theorem Faithful.evictSlow :
    Faithful capacity { v.evict .kSlowConsumer with refused := false } := by
  have hevict := h.evict .kSlowConsumer
  refine ⟨fun slot' hslot' ↦ ?_, hevict.quiet, fun _ ↦ rfl⟩
  obtain ⟨hcap, hreceived, hreceiving, -⟩ := hevict.fed slot' hslot'
  obtain ⟨slot, -, rfl⟩ := map_eq_some_iff.1 hslot'
  refine ⟨hcap, hreceived, hreceiving, fun hopen ↦ ?_⟩
  exact absurd hopen (slot.evict_eviction_ne_none nofun)

/-- A slot that is no longer listed is no longer collected. -/
theorem Faithful.unlist (sweeping : List (Option EvictionReason)) :
    Faithful capacity { v with listed := false, sweeping := sweeping } := by
  refine ⟨fun slot hslot ↦ ?_, fun hslot ↦ ⟨rfl, (h.quiet hslot).2⟩, h.refused_of_pending⟩
  obtain ⟨hcap, hreceived, hreceiving, -⟩ := h.fed slot hslot
  exact ⟨hcap, hreceived, hreceiving, fun _ hl ↦ absurd hl Bool.noConfusion⟩

/-- A pop moves a payload from the queue to what was popped. -/
theorem Faithful.pop {slot : SubscriberSlot β} (hslot : v.slot = some slot) :
    Faithful capacity
      { v with
        slot := some slot.popFront.2
        popped := v.popped ++ slot.popFront.1.toList } := by
  obtain ⟨hcap, hreceived, hreceiving, hcomplete⟩ := h.fed slot hslot
  refine ⟨fun slot' hslot' ↦ ?_, nofun, h.refused_of_pending⟩
  cases hslot'
  have hsame : v.popped ++ slot.popFront.1.toList ++ slot.popFront.2.queue =
      v.popped ++ slot.queue := by
    rw [append_assoc, slot.popFront_queue]
  refine ⟨slot.popFront_capacity.trans hcap, ?_, fun hopen ↦ ?_, fun hopen ↦ ?_⟩
  · rw [hsame]
    exact hreceived
  · rw [hsame]
    exact hreceiving (slot.popFront_eviction ▸ hopen)
  · rw [hsame]
    exact hcomplete (slot.popFront_eviction ▸ hopen)

/-- A new slot has missed nothing. -/
theorem Faithful.subscribe (hslot : v.slot = none) :
    Faithful capacity { v with slot := some (.create capacity), listed := true } := by
  obtain ⟨-, hpending, hoffered, hpopped⟩ := h.quiet hslot
  refine ⟨fun slot' hslot' ↦ ?_, nofun, h.refused_of_pending⟩
  cases hslot'
  have hnothing : v.popped ++ (SubscriberSlot.create capacity).queue = v.offered := by
    rw [hpopped, hoffered]
    rfl
  have hreceived : v.popped ++ (SubscriberSlot.create capacity).queue <+: v.offered :=
    ⟨[], (append_nil _).trans hnothing⟩
  refine ⟨rfl, hreceived, fun _ ↦ ?_, fun _ _ _ ↦ ?_⟩
  · rw [hpending, toList_none, append_nil]
    exact hreceived
  · rw [hpending, toList_none, append_nil]
    exact hnothing

/-- Every step keeps the invariant. -/
theorem Faithful.ownStep (hstep : v.ownStep capacity label = some w) : w.Faithful capacity := by
  cases label with
  | publish payload =>
    obtain ⟨hready, ⟨⟩⟩ := ite_none_right_eq_some.1 hstep
    rw [Bool.and_eq_true, isNone_iff_eq_none, Bool.not_eq_true'] at hready
    exact h.publish hready.1 hready.2
  | tryPush i =>
    simp only [SlotView.ownStep] at hstep
    split at hstep
    · cases hstep
      exact h.tryPush ‹_› ‹_›
    · cases hstep
  | evictSlow i =>
    cases hstep
    exact h.evictSlow
  | subscribe i =>
    obtain ⟨hnone, ⟨⟩⟩ := ite_none_right_eq_some.1 hstep
    exact h.subscribe (isNone_iff_eq_none.1 hnone)
  | unsubscribe i =>
    cases hstep
    exact h.evict .kCanceled
  | erase i | release i =>
    cases hstep
    exact h.unlist v.sweeping
  | blockingPop i =>
    simp only [SlotView.ownStep] at hstep
    split at hstep
    · cases hstep
      exact h.pop ‹_›
    · cases hstep
  | evictAll reason =>
    cases hstep
    exact h.unlist _
  | evictNext call i =>
    simp only [SlotView.ownStep] at hstep
    split at hstep
    · cases hstep
      obtain ⟨hfed, hquiet, hrefused⟩ := h.evict ‹_›
      refine ⟨fun slot hslot ↦ ?_, hquiet, hrefused⟩
      obtain ⟨hcap, hreceived, hreceiving, hcomplete⟩ := hfed slot hslot
      exact ⟨hcap, hreceived, hreceiving, hcomplete⟩
    · cases hstep
  | countDropped | endPublish | endEvictAll call =>
    cases hstep
    exact h

end

/-- The slot is closed for a reason, and has received this much in all. -/
def ClosedWith (reason : EvictionReason) (received : List β) (v : SlotView β) : Prop :=
  ∃ slot, v.slot = some slot ∧ slot.eviction = reason ∧ v.popped ++ slot.queue = received

/-- **A closed slot receives nothing more**: a step leaves it alone, but for what is popped. -/
theorem ClosedWith.ownStep {reason : EvictionReason} {received : List β}
    (hreason : reason ≠ .kNone) (h : v.ClosedWith reason received)
    (hstep : v.ownStep capacity label = some w) : w.ClosedWith reason received := by
  obtain ⟨slot, hslot, heviction, hreceived⟩ := h
  have hclosed : slot.eviction ≠ .kNone := heviction ▸ hreason
  have hkeep : ∀ reason', (v.evict reason').slot = some slot := fun reason' ↦ by
    rw [evict, hslot, map_some, SubscriberSlot.evict_of_evicted hclosed]
  cases label with
  | publish payload =>
    obtain ⟨-, ⟨⟩⟩ := ite_none_right_eq_some.1 hstep
    exact ⟨slot, hslot, heviction, hreceived⟩
  | tryPush i =>
    simp only [SlotView.ownStep, hslot] at hstep
    split at hstep
    · rename_i slot' payload hsome hpending
      cases hsome
      cases hstep
      refine ⟨slot, ?_, heviction, hreceived⟩
      rw [SubscriberSlot.tryPush_of_evicted hclosed]
    · cases hstep
  | evictSlow i | unsubscribe i =>
    cases hstep
    exact ⟨slot, hkeep _, heviction, hreceived⟩
  | subscribe i =>
    obtain ⟨hnone, -⟩ := ite_none_right_eq_some.1 hstep
    rw [hslot] at hnone
    cases hnone
  | erase i | release i | evictAll reason' | countDropped | endPublish | endEvictAll call =>
    cases hstep
    exact ⟨slot, hslot, heviction, hreceived⟩
  | blockingPop i =>
    simp only [SlotView.ownStep, hslot] at hstep
    cases hstep
    refine ⟨_, rfl, slot.popFront_eviction.trans heviction, ?_⟩
    rw [append_assoc, slot.popFront_queue]
    exact hreceived
  | evictNext call i =>
    simp only [SlotView.ownStep] at hstep
    split at hstep
    · cases hstep
      exact ⟨slot, hkeep _, heviction, hreceived⟩
    · cases hstep

/-- What every step on the slot keeps, every step keeps. -/
theorem keep_of_ownStep {I : SlotView β → Prop} {id : SlotId}
    (h : ∀ v label w, I v → v.ownStep capacity label = some w → I w) :
    ∀ v label w, I v → (machine capacity id).step v label = some w → I w := by
  intro v label w hv hstep
  rcases hconcerns : label.concerns id with - | -
  · have hsame := (v.step_of_not_concerns hconcerns).symm.trans hstep
    exact Option.some.inj hsame ▸ hv
  · exact h v label w hv ((v.step_of_concerns hconcerns).symm.trans hstep)

end SlotView

/-! ### Isolation -/

namespace FanOut

variable {β : Type*} {capacity : ℕ} {counters : Option BusCounters} {s t : FanOut β}

/-- The lists of a reachable bus are tidy. -/
theorem tidy_of_exec {labels : List (FanOutLabel β)}
    (hrun : (machine capacity counters).exec (machine capacity counters).init labels = some s) :
    s.Tidy :=
  StepMachine.invariant_of_exec (fun _ _ _ h hstep ↦ h.step (steps_of_step hstep))
    (tidy_init capacity counters) hrun

/-- A run of the bus is a run of each subscriber. -/
theorem exec_view (id : SlotId) {labels : List (FanOutLabel β)} (hs : s.Tidy)
    (hrun : (machine capacity counters).exec s labels = some t) :
    (SlotView.machine capacity id).exec (s.view id) labels = some (t.view id) :=
  StepMachine.exec_of_simulation (f := view id) (I := Tidy)
    (fun _ _ _ h hstep ↦ h.step (steps_of_step hstep))
    (fun _ _ _ h hstep ↦ view_step h id (steps_of_step hstep)) hs hrun

/-- **Two runs agree on a subscriber** if they agree on the labels that concern it. -/
theorem view_eq_of_filter_eq (id : SlotId) {labels labels' : List (FanOutLabel β)}
    (hrun : (machine capacity counters).exec (machine capacity counters).init labels = some s)
    (hrun' : (machine capacity counters).exec (machine capacity counters).init labels' = some t)
    (hsame : labels.filter (FanOutLabel.concerns id) = labels'.filter (FanOutLabel.concerns id)) :
    s.view id = t.view id := by
  have hidle : ∀ v (label : FanOutLabel β), label.concerns id = false →
      (SlotView.machine capacity id).step v label = some v :=
    fun v _ h ↦ v.step_of_not_concerns h
  have hexec := exec_view id (tidy_init capacity counters) hrun
  have hexec' := exec_view id (tidy_init capacity counters) hrun'
  rw [← StepMachine.exec_filter hidle] at hexec hexec'
  rw [hsame] at hexec
  exact Option.some.inj (hexec.symm.trans hexec')

/-- **Fan-out isolation.** In every interleaving of one publisher with any number of subscribers and
`EvictAll` calls, each slot's popped payloads are a gap-free prefix of those collected since it was
subscribed, and its queue is within its capacity. Once it is evicted nothing is ever appended, and
the reason stays. A run that agrees on the publisher's, the `EvictAll` calls' and the subscriber's
own steps on the slot agrees on what was popped and on the slot itself. -/
theorem fan_out_isolation {labels : List (FanOutLabel β)} {id : SlotId} {slot : SubscriberSlot β}
    (hrun : (machine capacity counters).exec (machine capacity counters).init labels = some s)
    (hslot : s.bus.heap id = some slot) :
    s.popped id <+: s.offered id ∧ slot.queue.length ≤ capacity ∧
    (slot.eviction ≠ .kNone → ∀ later t, (machine capacity counters).exec s later = some t →
      ∃ slot', t.bus.heap id = some slot' ∧ slot'.eviction = slot.eviction ∧
        t.popped id ++ slot'.queue = s.popped id ++ slot.queue) ∧
    (∀ labels' t,
      (machine capacity counters).exec (machine capacity counters).init labels' = some t →
      labels'.filter (FanOutLabel.concerns id) = labels.filter (FanOutLabel.concerns id) →
      t.popped id = s.popped id ∧ ∃ slot', t.bus.heap id = some slot' ∧
        slot'.eviction = slot.eviction ∧ slot'.dropped = slot.dropped ∧
        slot'.queue = slot.queue) := by
  have htidy := tidy_of_exec hrun
  have hfaithful : (s.view id).Faithful capacity :=
    StepMachine.invariant_of_exec (SlotView.keep_of_ownStep fun _ _ _ h hstep ↦ h.ownStep hstep)
      (SlotView.faithful_init id) (exec_view id (tidy_init capacity counters) hrun)
  obtain ⟨hcap, hreceived, -, -⟩ := hfaithful.fed slot hslot
  refine ⟨(prefix_append _ _).trans hreceived, ?_, fun hclosed later t hlater ↦ ?_,
    fun labels' t hrun' hsame ↦ ?_⟩
  · rw [← hcap]
    exact slot.length_queue_le
  · have hstart : (s.view id).ClosedWith slot.eviction (s.popped id ++ slot.queue) :=
      ⟨slot, hslot, rfl, rfl⟩
    exact StepMachine.invariant_of_exec
      (SlotView.keep_of_ownStep fun _ _ _ h hstep ↦ h.ownStep hclosed hstep) hstart
      (exec_view id htidy hlater)
  · have hview := view_eq_of_filter_eq id hrun' hrun hsame
    have hheap : t.bus.heap id = some slot := (congrArg SlotView.slot hview).trans hslot
    exact ⟨congrArg SlotView.popped hview, slot, hheap, rfl, rfl, rfl⟩

/-- Slot 1 holds one payload and is evicted as slow, while slot 2 keeps up. -/
def slowAndFastRun : List (FanOutLabel ℕ) :=
  [.subscribe 1, .subscribe 2, .publish 10, .tryPush 1, .tryPush 2, .endPublish, .blockingPop 2,
    .publish 11, .tryPush 1, .evictSlow 1, .countDropped, .tryPush 2, .endPublish, .blockingPop 2]

theorem fan_out_isolation_slowAndFastRun :
    ∃ s : FanOut ℕ, ∃ slot,
      (machine 1 none).exec (machine 1 none).init slowAndFastRun = some s ∧
      s.bus.heap 2 = some slot ∧ s.popped 2 = [10, 11] ∧ s.popped 2 <+: s.offered 2 ∧
      slot.queue.length ≤ 1 := by
  obtain ⟨s, hrun, hsome, hpopped⟩ : ∃ s : FanOut ℕ,
      (machine 1 none).exec (machine 1 none).init slowAndFastRun = some s ∧
      (s.bus.heap 2).isSome = true ∧ s.popped 2 = [10, 11] := ⟨_, rfl, rfl, rfl⟩
  obtain ⟨slot, hslot⟩ := isSome_iff_exists.1 hsome
  obtain ⟨hoffered, hle, -, -⟩ := fan_out_isolation hrun hslot
  exact ⟨s, slot, hrun, hslot, hpopped, hoffered, hle⟩

end FanOut

end HighBar.Grpc
