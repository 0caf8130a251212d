import HighBar.Grpc.DeltaBus
import HighBar.Grpc.SessionSlots
import Mathlib.Data.List.Perm.Subperm

/-!
# The subscriber gauge

`Counters::subscriber_count` has two writers. The service **stores** its own `observer_count_` into
it whenever an observer's seat is reserved or given back, and the bus **adds and subtracts** as
slots are registered and dropped. The two do not know of each other: a `StreamState` that opens
reserves a seat, which stores the new number of observers, and then subscribes, which adds one more.

Calls follow one another here; what happens inside one call is not interleaved with others.

## What holds

* After a `StreamState` has opened, the gauge is above the number of registered slots, whatever
  happened before (`not_agrees_openStream`). So **the gauge agrees throughout a run exactly when no
  stream is ever opened** (`gauge_agrees_iff`).
* The gauge does not wrap: it is at least the number of registered slots, which is the most that is
  ever subtracted, and at most five.
-/

namespace HighBar.Grpc

open List Option

variable {β : Type*}

namespace DeltaBus

/-- `subscriber_count`, for a bus with counters. -/
def gauge (b : DeltaBus β) : Option ℕ := b.counters.map BusCounters.subscriberCount

/-- The service's store into the counters it shares with the bus. -/
def storeGauge (b : DeltaBus β) (n : ℕ) : DeltaBus β :=
  { b with counters := b.counters.map fun c ↦ { c with subscriberCount := n } }

theorem gauge_storeGauge {b : DeltaBus β} (hb : b.gauge.isSome) (n : ℕ) :
    (b.storeGauge n).gauge = some n := by
  obtain ⟨c, hc⟩ := isSome_iff_exists.1 (isSome_map.symm.trans hb)
  rw [gauge, storeGauge, hc]
  rfl

variable (b : DeltaBus β) (id : SlotId)

theorem gauge_subscribe (capacity : ℕ) :
    (b.subscribe id capacity).gauge = b.gauge.map (wrapAdd 32 · 1) := by
  rw [gauge, subscribe, Option.map_map, gauge, Option.map_map]
  rfl

theorem gauge_evictSlot (reason : EvictionReason) :
    (b.evictSlot id reason).gauge = b.gauge := by
  rw [gauge, evictSlot_counters, gauge]

theorem gauge_unregister :
    (b.unregister id).gauge =
      if id ∈ b.slots ∧ (b.lock id).isSome then b.gauge.map (wrapSub 32 · 1) else b.gauge := by
  simp only [gauge, unregister]
  split_ifs
  · rw [Option.map_map, Option.map_map]
    rfl
  · rfl

/-- What `Unsubscribe` leaves in the registry. -/
theorem unsubscribe_slots :
    (b.unsubscribe id).slots.Sublist b.slots ∧ id ∉ (b.unsubscribe id).slots := by
  rw [unsubscribe, unregister, evictSlot_slots]
  refine ⟨filter_sublist, fun hmem ↦ ?_⟩
  have hkept := (mem_filter.1 hmem).2
  simp at hkept

theorem isSome_gauge_unsubscribe : (b.unsubscribe id).gauge.isSome = b.gauge.isSome := by
  rw [unsubscribe, gauge_unregister, gauge_evictSlot]
  split_ifs
  · exact isSome_map
  · rfl

/-- One slot's turn in `Publish` writes neither the registry nor the gauge. -/
theorem publish_turn (payload : β) :
    let turn := if (b.tryPushTo id payload).1 then (b.tryPushTo id payload).2
      else (b.tryPushTo id payload).2.evictSlow id
    turn.slots = b.slots ∧ turn.gauge = b.gauge := by
  intro turn
  have hslots := b.tryPushTo_slots id payload
  have hgauge : (b.tryPushTo id payload).2.gauge = b.gauge := by
    rw [gauge, tryPushTo_counters, gauge]
  by_cases hok : (b.tryPushTo id payload).1 = true
  · rw [show turn = (b.tryPushTo id payload).2 from if_pos hok]
    exact ⟨hslots, hgauge⟩
  · rw [show turn = (b.tryPushTo id payload).2.evictSlow id from if_neg hok]
    refine ⟨by rw [evictSlow_slots, hslots], ?_⟩
    rw [← hgauge, gauge, evictSlow, Option.map_map, gauge]
    rfl

/-- `Publish` leaves the gauge alone, and drops at most expired registrations. -/
theorem publish_slots_gauge (b : DeltaBus β) (payload : β) :
    (b.publish payload).slots.Sublist b.slots ∧ (b.publish payload).gauge = b.gauge := by
  obtain ⟨hslots, hgauge⟩ : (b.publish payload).slots = b.collect.2.slots ∧
      (b.publish payload).gauge = b.collect.2.gauge := by
    -- Every turn keeps both, whichever slot it is.
    refine List.foldlRecOn b.collect.1 _
      (motive := fun d : DeltaBus β ↦ d.slots = b.collect.2.slots ∧ d.gauge = b.collect.2.gauge)
      ⟨rfl, rfl⟩ fun d hd id _ ↦ ?_
    obtain ⟨hslots, hgauge⟩ := d.publish_turn id payload
    exact ⟨hslots.trans hd.1, hgauge.trans hd.2⟩
  refine ⟨?_, hgauge⟩
  rw [hslots]
  exact b.collect_slots_sublist

/-- `EvictAll` empties the registry, and takes from the gauge the slots it found there. -/
theorem evictAll_slots_gauge (b : DeltaBus β) (reason : EvictionReason) :
    (b.evictAll reason).slots = [] ∧
      ∃ n, n ≤ b.slots.length ∧
        (b.evictAll reason).gauge = if n = 0 then b.gauge else b.gauge.map (wrapSub 32 · n) := by
  obtain ⟨hslots, hcounters⟩ : (b.evictAll reason).slots = [] ∧
      (b.clear.1.foldl (fun b id ↦ b.evictSlot id reason) b.clear.2).counters = b.counters := by
    refine List.foldlRecOn b.clear.1 _
      (motive := fun d : DeltaBus β ↦ d.slots = [] ∧ d.counters = b.counters)
      ⟨rfl, rfl⟩ fun d hd id _ ↦ ?_
    exact ⟨(d.evictSlot_slots id reason).trans hd.1, (d.evictSlot_counters id reason).trans hd.2⟩
  refine ⟨hslots, b.clear.1.length, length_filter_le _ _, ?_⟩
  simp only [gauge, evictAll, hcounters, isEmpty_iff_length_eq_zero]
  split_ifs
  · rfl
  · rw [Option.map_map, Option.map_map]
    rfl

end DeltaBus

/-! ### The service -/

/-- A `StreamState` call that has been accepted and not yet deleted. -/
inductive OpenStream where
  /-- Refused at the cap, without a seat. -/
  | refused
  /-- Refused because the handles were not set, with a seat. -/
  | notWired
  /-- Subscribed, with a seat. -/
  | streaming (id : SlotId)
deriving Repr, DecidableEq

/-- `observer_slot_reserved_`. -/
def OpenStream.reserved : OpenStream → Bool
  | .refused => false
  | .notWired | .streaming _ => true

theorem OpenStream.eq_refused {stream : OpenStream} (h : stream.reserved = false) :
    stream = .refused := by
  rcases stream with - | - | id
  · rfl
  · cases h
  · cases h

/-- The service and the bus it shares its counters with. -/
structure GaugedService (β : Type*) where
  bus : DeltaBus β
  /-- `observer_count_`. -/
  observerCount : ℕ
  /-- The handles of `SetUs1Handles` are set. -/
  wired : Bool
  /-- The next free address. -/
  nextSlot : SlotId
  streams : List OpenStream

/-- One call, from beginning to end. -/
inductive GaugeLabel (β : Type*) where
  | setUs1Handles
  /-- A `Hello` of an observer. -/
  | hello
  /-- `StreamStateCallData::Proceed` in `kCreated`. -/
  | openStream
  /-- `~StreamStateCallData`. -/
  | closeStream (stream : OpenStream)
  | publish (payload : β)
  | blockingPop (id : SlotId)
  | evictSlot (id : SlotId) (reason : EvictionReason)
  | evictAll (reason : EvictionReason)
deriving Repr, DecidableEq

namespace GaugedService

/-- `TryReserveObserverSlot`. -/
def tryReserveObserverSlot (s : GaugedService β) : Bool × GaugedService β :=
  if s.observerCount < observerHardCap then
    (true,
      { s with
        observerCount := s.observerCount + 1
        bus := s.bus.storeGauge (s.observerCount + 1) })
  else (false, s)

/-- `ReleaseObserverSlot`. -/
def releaseObserverSlot (s : GaugedService β) : GaugedService β :=
  { s with
    observerCount := wrapSub 32 s.observerCount 1
    bus := if 0 < s.observerCount then s.bus.storeGauge (s.observerCount - 1) else s.bus }

/-- The part of `HelloCallData::Proceed` that looks for an observer's seat. -/
def hello (s : GaugedService β) : GaugedService β :=
  if s.tryReserveObserverSlot.1 then s.tryReserveObserverSlot.2.releaseObserverSlot else s

/-- `StreamStateCallData::Proceed` in `kCreated`. -/
def openStream (s : GaugedService β) : GaugedService β :=
  if s.tryReserveObserverSlot.1 then
    let s := s.tryReserveObserverSlot.2
    if s.wired then
      { s with
        bus := s.bus.subscribe s.nextSlot SubscriberSlot.defaultCapacity
        nextSlot := s.nextSlot + 1
        streams := s.streams ++ [.streaming s.nextSlot] }
    else { s with streams := s.streams ++ [.notWired] }
  else { s with streams := s.streams ++ [.refused] }

/-- `~StreamStateCallData`; the shared pointer to the slot goes last. -/
def closeStream (s : GaugedService β) (stream : OpenStream) : GaugedService β :=
  let s := { s with streams := s.streams.erase stream }
  match stream with
  | .refused => s
  | .notWired => s.releaseObserverSlot
  | .streaming id =>
    let s := { s with bus := s.bus.unsubscribe id }.releaseObserverSlot
    { s with bus := s.bus.release id }

/-- One call. -/
def step (s : GaugedService β) : GaugeLabel β → Option (GaugedService β)
  | .setUs1Handles => some { s with wired := true }
  | .hello => some s.hello
  | .openStream => some s.openStream
  | .closeStream stream => if stream ∈ s.streams then some (s.closeStream stream) else none
  | .publish payload => some { s with bus := s.bus.publish payload }
  | .blockingPop id =>
    match s.bus.lock id with
    | some slot =>
      if slot.awake then some { s with bus := s.bus.setSlot id slot.popFront.2 } else none
    | none => none
  | .evictSlot id reason => some { s with bus := s.bus.evictSlot id reason }
  | .evictAll reason => some { s with bus := s.bus.evictAll reason }

/-- The service with no session, its counters at zero and its handles not set yet. -/
def machine : StepMachine (GaugedService β) (GaugeLabel β) where
  init := ⟨.create (some ⟨0, 0⟩), 0, false, 0, []⟩
  step := step

/-- **What a call can do**: five things, of which most calls do the first. -/
inductive Steps (s : GaugedService β) : GaugeLabel β → GaugedService β → Prop
  /-- It opens and closes nothing, leaves the gauge alone and at most drops registrations. -/
  | quiet {label : GaugeLabel β} (bus : DeltaBus β) (wired : Bool)
      (hslots : bus.slots.Sublist s.bus.slots) (hgauge : bus.gauge = s.bus.gauge) :
    Steps s label { s with bus := bus, wired := wired }
  | hello : Steps s .hello s.hello
  | openStream : Steps s .openStream s.openStream
  | closeStream (stream : OpenStream) (hmem : stream ∈ s.streams) :
    Steps s (.closeStream stream) (s.closeStream stream)
  | evictAll (reason : EvictionReason) :
    Steps s (.evictAll reason) { s with bus := s.bus.evictAll reason }

variable {s t : GaugedService β} {label : GaugeLabel β}

/-- **One step, inverted.** -/
theorem steps_of_step (hstep : s.step label = some t) : Steps s label t := by
  rcases label with _ | _ | _ | stream | payload | id | ⟨id, reason⟩ | reason
  case setUs1Handles =>
    cases hstep
    exact .quiet s.bus true (List.Sublist.refl _) rfl
  case hello =>
    cases hstep
    exact .hello
  case openStream =>
    cases hstep
    exact .openStream
  case closeStream =>
    obtain ⟨hmem, heq⟩ := ite_none_right_eq_some.1 hstep
    rw [← Option.some.inj heq]
    exact .closeStream stream hmem
  case publish =>
    cases hstep
    obtain ⟨hslots, hgauge⟩ := s.bus.publish_slots_gauge payload
    exact .quiet _ s.wired hslots hgauge
  case blockingPop =>
    simp only [step] at hstep
    split at hstep
    · obtain ⟨-, ⟨⟩⟩ := ite_none_right_eq_some.1 hstep
      exact .quiet _ s.wired (List.Sublist.refl _) rfl
    · cases hstep
  case evictSlot =>
    cases hstep
    exact .quiet _ s.wired (by simp) (s.bus.gauge_evictSlot id reason)
  case evictAll =>
    cases hstep
    exact .evictAll reason

/-! ### Every registered slot belongs to a stream with a seat -/

/-- The seats are counted, and the registered slots belong to different streams. -/
structure Registered (s : GaugedService β) : Prop where
  observers : s.observerCount = s.streams.countP OpenStream.reserved
  observers_le : s.observerCount ≤ observerHardCap
  slots_nodup : s.bus.slots.Nodup
  slots_streaming : ∀ id ∈ s.bus.slots, .streaming id ∈ s.streams
  fresh : ∀ id, .streaming id ∈ s.streams → id < s.nextSlot

/-- So there are at most as many registered slots as seats. -/
theorem Registered.length_slots_le (h : s.Registered) : s.bus.slots.length ≤ s.observerCount := by
  have hinj : Function.Injective OpenStream.streaming := fun _ _ heq ↦ OpenStream.streaming.inj heq
  have hsub : s.bus.slots.map .streaming ⊆ s.streams.filter OpenStream.reserved := by
    intro stream hstream
    obtain ⟨id, hid, rfl⟩ := mem_map.1 hstream
    exact mem_filter.2 ⟨h.slots_streaming id hid, rfl⟩
  have hlen := ((h.slots_nodup.map hinj).subperm hsub).length_le
  rwa [length_map, ← countP_eq_length_filter, ← h.observers] at hlen

/-- A step that neither opens nor closes a stream, and at most drops registrations. -/
theorem Registered.of_sublist (h : s.Registered) (hslots : t.bus.slots.Sublist s.bus.slots)
    (hobservers : t.observerCount = s.observerCount) (hstreams : t.streams = s.streams)
    (hnext : t.nextSlot = s.nextSlot) : t.Registered where
  observers := by rw [hobservers, hstreams, h.observers]
  observers_le := hobservers ▸ h.observers_le
  slots_nodup := h.slots_nodup.sublist hslots
  slots_streaming := fun id hid ↦ hstreams ▸ h.slots_streaming id (hslots.subset hid)
  fresh := fun id hid ↦ hnext ▸ h.fresh id (hstreams ▸ hid)

/-- Giving a seat back stores the number of those left. -/
theorem releaseObserverSlot_eq (hpos : 0 < s.observerCount)
    (hle : s.observerCount ≤ observerHardCap) :
    s.releaseObserverSlot =
      { s with
        observerCount := s.observerCount - 1
        bus := s.bus.storeGauge (s.observerCount - 1) } := by
  have hcap : observerHardCap < 2 ^ 32 := by decide
  rw [releaseObserverSlot, if_pos hpos, wrapSub_of_le hpos (by omega)]

/-- A `Hello` at the cap changes nothing, and one below it stores the number of observers. -/
theorem hello_eq (s : GaugedService β) :
    s.hello = if s.observerCount < observerHardCap then
        { s with bus := (s.bus.storeGauge (s.observerCount + 1)).storeGauge s.observerCount }
      else s := by
  unfold hello tryReserveObserverSlot
  by_cases hroom : s.observerCount < observerHardCap
  · rw [if_pos hroom, if_pos hroom]
    exact releaseObserverSlot_eq (Nat.succ_pos _) hroom
  · rw [if_neg hroom, if_neg hroom]
    rfl

/-- What opening a stream does below the cap. -/
theorem openStream_of_room (hroom : s.observerCount < observerHardCap) :
    s.openStream =
      if s.wired then
        { s with
          observerCount := s.observerCount + 1
          bus := (s.bus.storeGauge (s.observerCount + 1)).subscribe s.nextSlot
            SubscriberSlot.defaultCapacity
          nextSlot := s.nextSlot + 1
          streams := s.streams ++ [.streaming s.nextSlot] }
      else
        { s with
          observerCount := s.observerCount + 1
          bus := s.bus.storeGauge (s.observerCount + 1)
          streams := s.streams ++ [.notWired] } := by
  unfold openStream tryReserveObserverSlot
  rw [if_pos hroom]
  rfl

/-- A stream beyond the cap is refused. -/
theorem openStream_of_full (hfull : ¬s.observerCount < observerHardCap) :
    s.openStream = { s with streams := s.streams ++ [.refused] } := by
  unfold openStream tryReserveObserverSlot
  rw [if_neg hfull]
  rfl

/-- Opening a stream keeps the registrations in order. -/
theorem Registered.openStream (h : s.Registered) : s.openStream.Registered := by
  have hmem : ∀ {id : SlotId} {stream : OpenStream}, .streaming id ∈ s.streams ++ [stream] →
      stream ≠ .streaming id → .streaming id ∈ s.streams := by
    intro id stream hid hne
    rcases mem_append.1 hid with hold | hnew
    · exact hold
    · exact absurd (mem_singleton.1 hnew).symm hne
  by_cases hroom : s.observerCount < observerHardCap
  · rw [openStream_of_room hroom]
    split_ifs
    · refine ⟨?_, hroom, ?_, ?_, ?_⟩
      · simp [h.observers, OpenStream.reserved]
      · refine nodup_append.2 ⟨h.slots_nodup, nodup_singleton _, ?_⟩
        intro id hid new hnew heq
        have hlt := h.fresh id (h.slots_streaming id hid)
        rw [heq, mem_singleton.1 hnew] at hlt
        exact Nat.lt_irrefl _ hlt
      · refine forall_mem_append.2 ⟨fun id hid ↦ ?_, forall_mem_singleton.2 ?_⟩
        · exact mem_append_left _ (h.slots_streaming id hid)
        · exact mem_append_right _ (mem_singleton_self _)
      · intro id hid
        rcases mem_append.1 hid with hold | hnew
        · exact Nat.lt_succ_of_lt (h.fresh id hold)
        · rw [OpenStream.streaming.inj (mem_singleton.1 hnew)]
          exact Nat.lt_succ_self _
    · refine ⟨?_, hroom, h.slots_nodup, fun id hid ↦ ?_, fun id hid ↦ h.fresh id (hmem hid nofun)⟩
      · simp [h.observers, OpenStream.reserved]
      · exact mem_append_left _ (h.slots_streaming id hid)
  · rw [openStream_of_full hroom]
    refine ⟨?_, h.observers_le, h.slots_nodup, fun id hid ↦ ?_,
      fun id hid ↦ h.fresh id (hmem hid nofun)⟩
    · simp [h.observers, OpenStream.reserved]
    · exact mem_append_left _ (h.slots_streaming id hid)

/-- Deleting a stream with a seat drops its slot and stores the number of observers left. -/
theorem closeStream_of_reserved (h : s.Registered) {stream : OpenStream}
    (hmem : stream ∈ s.streams) (hreserved : stream.reserved = true) :
    ∃ bus, s.closeStream stream =
        { s with
          bus := bus
          observerCount := s.observerCount - 1
          streams := s.streams.erase stream } ∧
      bus.slots.Sublist s.bus.slots ∧ (∀ id, stream = .streaming id → id ∉ bus.slots) ∧
      (s.bus.gauge.isSome → bus.gauge = some (s.observerCount - 1)) := by
  have hpos : 0 < s.observerCount := by
    rw [h.observers]
    exact countP_pos_iff.2 ⟨stream, hmem, hreserved⟩
  rcases stream with - | - | id
  · cases hreserved
  · refine ⟨s.bus.storeGauge (s.observerCount - 1), ?_, List.Sublist.refl _, nofun, fun hb ↦ ?_⟩
    · exact releaseObserverSlot_eq hpos h.observers_le
    · exact DeltaBus.gauge_storeGauge hb _
  · obtain ⟨hsub, hnot⟩ := s.bus.unsubscribe_slots id
    refine ⟨((s.bus.unsubscribe id).storeGauge (s.observerCount - 1)).release id, ?_, hsub, ?_,
      fun hb ↦ ?_⟩
    · have hrelease := releaseObserverSlot_eq
        (s := { s with bus := s.bus.unsubscribe id, streams := s.streams.erase (.streaming id) })
        hpos h.observers_le
      exact congrArg (fun u : GaugedService β ↦ { u with bus := u.bus.release id }) hrelease
    · intro id' heq
      cases heq
      exact hnot
    · exact DeltaBus.gauge_storeGauge ((s.bus.isSome_gauge_unsubscribe id).trans hb) _

/-- A stream that closes takes its own slot with it. -/
theorem Registered.closeStream (h : s.Registered) {stream : OpenStream}
    (hmem : stream ∈ s.streams) : (s.closeStream stream).Registered := by
  have hfresh : ∀ id, .streaming id ∈ s.streams.erase stream → id < s.nextSlot :=
    fun id hid ↦ h.fresh id (mem_of_mem_erase hid)
  have hkept : ∀ {id}, .streaming id ∈ s.streams → stream ≠ .streaming id →
      .streaming id ∈ s.streams.erase stream :=
    fun hid hne ↦ (mem_erase_of_ne hne.symm).2 hid
  rcases hreserved : stream.reserved with - | -
  · -- a stream that was refused at the cap has neither a seat nor a slot
    obtain rfl := OpenStream.eq_refused hreserved
    refine ⟨?_, h.observers_le, h.slots_nodup, fun id hid ↦ ?_, hfresh⟩
    · exact h.observers.trans (countP_erase_add hmem).symm
    · exact hkept (h.slots_streaming id hid) nofun
  · obtain ⟨bus, heq, hsub, hnot, -⟩ := closeStream_of_reserved h hmem hreserved
    rw [heq]
    refine ⟨?_, (Nat.sub_le _ _).trans h.observers_le, h.slots_nodup.sublist hsub, fun id hid ↦ ?_,
      hfresh⟩
    · have hcount := countP_erase_add (p := OpenStream.reserved) hmem
      rw [hreserved, ← h.observers] at hcount
      exact Nat.sub_eq_of_eq_add hcount.symm
    · refine hkept (h.slots_streaming id (hsub.subset hid)) fun heq ↦ ?_
      exact hnot id heq hid

/-- Every call keeps the registrations in order. -/
theorem Registered.step (h : s.Registered) (hstep : s.step label = some t) : t.Registered := by
  obtain ⟨bus, wired, hslots, -⟩ | _ | _ | ⟨stream, hmem⟩ | reason := steps_of_step hstep
  · exact h.of_sublist hslots rfl rfl rfl
  · rw [hello_eq]
    split_ifs
    · exact h.of_sublist (List.Sublist.refl _) rfl rfl rfl
    · exact h
  · exact h.openStream
  · exact h.closeStream hmem
  · refine h.of_sublist ?_ rfl rfl rfl
    rw [(s.bus.evictAll_slots_gauge reason).1]
    exact nil_sublist _

/-! ### The gauge stays above the registrations -/

/-- The gauge is at least the number of registered slots, and small. -/
def Bounded (s : GaugedService β) : Prop :=
  ∃ g, s.bus.gauge = some g ∧ s.bus.slots.length ≤ g ∧ g ≤ observerHardCap + 1

theorem Bounded.isSome (h : s.Bounded) : s.bus.gauge.isSome := by
  obtain ⟨g, hg, -⟩ := h
  rw [hg]
  rfl

/-- A gauge that was just stored is in bounds. -/
theorem Registered.bounded_of_gauge (h : t.Registered) (hg : t.bus.gauge = some t.observerCount) :
    t.Bounded :=
  ⟨t.observerCount, hg, h.length_slots_le, Nat.le_succ_of_le h.observers_le⟩

/-- A call that does not write the gauge and registers no slot keeps it in bounds. -/
theorem Bounded.of_same (h : s.Bounded) (hslots : t.bus.slots.Sublist s.bus.slots)
    (hgauge : t.bus.gauge = s.bus.gauge) : t.Bounded := by
  obtain ⟨g, hg, hlen, hle⟩ := h
  exact ⟨g, hgauge.trans hg, hslots.length_le.trans hlen, hle⟩

/-- What a stream that opens leaves in the gauge. -/
theorem gauge_openStream (h : s.Bounded) (hroom : s.observerCount < observerHardCap) :
    s.openStream.bus.gauge = some (s.observerCount + 1 + s.wired.toNat) ∧
      s.openStream.bus.slots.length = s.bus.slots.length + s.wired.toNat := by
  have hcap : observerHardCap < 2 ^ 32 - 2 := by decide
  rw [openStream_of_room hroom]
  rcases hwired : s.wired with - | -
  · exact ⟨DeltaBus.gauge_storeGauge h.isSome _, rfl⟩
  · refine ⟨?_, ?_⟩
    · show (DeltaBus.subscribe _ _ _).gauge = _
      rw [DeltaBus.gauge_subscribe, DeltaBus.gauge_storeGauge h.isSome]
      exact congrArg some (wrapAdd_of_lt (by omega))
    · show (s.bus.slots ++ [s.nextSlot]).length = _
      rw [length_append]
      rfl

/-- Every call keeps the gauge in bounds. -/
theorem Bounded.step (h : s.Bounded) (hs : s.Registered) (hstep : s.step label = some t) :
    t.Bounded := by
  have ht := hs.step hstep
  obtain ⟨bus, wired, hslots, hgauge⟩ | _ | _ | ⟨stream, hmem⟩ | reason := steps_of_step hstep
  · exact h.of_same hslots hgauge
  · rw [hello_eq] at ht ⊢
    split_ifs at ht ⊢
    · refine ht.bounded_of_gauge (DeltaBus.gauge_storeGauge ?_ _)
      rw [DeltaBus.gauge_storeGauge h.isSome]
      rfl
    · exact h
  · by_cases hroom : s.observerCount < observerHardCap
    · obtain ⟨hgauge, hlen⟩ := gauge_openStream h hroom
      have hle := hs.length_slots_le
      have hone := Bool.toNat_le s.wired
      exact ⟨_, hgauge, by omega, by omega⟩
    · rw [openStream_of_full hroom]
      exact h.of_same (List.Sublist.refl _) rfl
  · rcases hreserved : stream.reserved with - | -
    · obtain rfl := OpenStream.eq_refused hreserved
      exact h.of_same (List.Sublist.refl _) rfl
    · obtain ⟨bus, hclose, -, -, hgauge⟩ := closeStream_of_reserved hs hmem hreserved
      rw [hclose] at ht ⊢
      exact ht.bounded_of_gauge (hgauge h.isSome)
  · obtain ⟨hslots, n, hn, hgauge⟩ := s.bus.evictAll_slots_gauge reason
    obtain ⟨g, hg, hlen, hle⟩ := h
    have hcap : observerHardCap + 1 < 2 ^ 32 := by decide
    refine ⟨g - n, ?_, by rw [hslots]; exact Nat.zero_le _, (Nat.sub_le _ _).trans hle⟩
    rw [hgauge, hg]
    split_ifs with hzero
    · rw [hzero]
      rfl
    · exact congrArg some (wrapSub_of_le (hn.trans hlen) (by omega))

/-! ### Agreement -/

/-- The gauge is the number of registered slots. -/
def Agrees (s : GaugedService β) : Prop := s.bus.gauge = some s.bus.slots.length

/-- **Whatever happened before, a stream that is let in leaves the gauge too high.** -/
theorem not_agrees_openStream (hb : s.Bounded) (hr : s.Registered)
    (hroom : s.observerCount < observerHardCap) : ¬s.openStream.Agrees := by
  obtain ⟨hgauge, hlen⟩ := gauge_openStream hb hroom
  have hle := hr.length_slots_le
  intro hagrees
  have heq := Option.some.inj (hgauge.symm.trans hagrees)
  omega

/-- Nothing has been opened. -/
structure Vacant (s : GaugedService β) : Prop where
  observers : s.observerCount = 0
  streams : s.streams = []
  slots : s.bus.slots = []
  gauge : s.bus.gauge = some 0

/-- Without a stream the gauge agrees. -/
theorem Vacant.agrees (h : s.Vacant) : s.Agrees := by
  rw [Agrees, h.gauge, h.slots]
  rfl

/-- It stays so until a stream is opened. -/
theorem Vacant.step (h : s.Vacant) (hlabel : label ≠ .openStream) (hstep : s.step label = some t) :
    t.Vacant := by
  obtain ⟨bus, wired, hslots, hgauge⟩ | _ | _ | ⟨stream, hmem⟩ | reason := steps_of_step hstep
  · rw [h.slots] at hslots
    exact ⟨h.observers, h.streams, sublist_nil.1 hslots, hgauge.trans h.gauge⟩
  · have hsome : (s.bus.storeGauge (0 + 1)).gauge.isSome := by
      rw [DeltaBus.gauge_storeGauge (by rw [h.gauge]; rfl)]
      rfl
    rw [hello_eq, h.observers, if_pos (by decide)]
    exact ⟨rfl, h.streams, h.slots, DeltaBus.gauge_storeGauge hsome 0⟩
  · exact absurd rfl hlabel
  · rw [h.streams] at hmem
    cases hmem
  · obtain ⟨hslots, n, hn, hgauge⟩ := s.bus.evictAll_slots_gauge reason
    rw [h.slots] at hn
    rw [if_pos (Nat.le_zero.1 hn)] at hgauge
    exact ⟨h.observers, h.streams, hslots, hgauge.trans h.gauge⟩

/-- From a state in which nothing is open, the gauge agrees throughout exactly if nothing opens. -/
theorem Vacant.throughout_iff (labels : List (GaugeLabel β)) :
    ∀ {s t : GaugedService β}, s.Vacant → s.Bounded → s.Registered →
      machine.exec s labels = some t →
      (machine.Throughout Agrees s labels ↔ .openStream ∉ labels) := by
  induction labels with
  | nil => exact fun hs _ _ _ ↦ ⟨fun _ ↦ not_mem_nil, fun _ ↦ hs.agrees⟩
  | cons label labels ih =>
    intro s t hs hb hr hrun
    obtain ⟨u, hu, hrest⟩ := machine.exec_cons_eq_some.1 hrun
    by_cases hlabel : label = .openStream
    · subst hlabel
      refine iff_of_false (fun hthroughout ↦ ?_) fun hnot ↦ hnot (mem_cons_self ..)
      have hroom : s.observerCount < observerHardCap := by
        rw [hs.observers]
        decide
      cases hu
      refine not_agrees_openStream hb hr hroom ?_
      -- the state after the call is the first of the rest of the run
      have hnext := hthroughout.2 s.openStream rfl
      rcases labels with - | ⟨_, _⟩
      · exact hnext
      · exact hnext.1
    · have hih := ih (hs.step hlabel hu) (hb.step hr hu) (hr.step hu) hrest
      rw [mem_cons, not_or]
      constructor
      · exact fun h ↦ ⟨fun heq ↦ hlabel heq.symm, hih.1 (h.2 u hu)⟩
      · refine fun h ↦ ⟨hs.agrees, fun v hv ↦ ?_⟩
        obtain rfl := Option.some.inj (hu.symm.trans hv)
        exact hih.2 h.2

/-- **The gauge agrees with the registry throughout a run exactly when no stream is ever opened**;
and in every run it stays at or above the number of registered slots, and below six, so that it
never wraps. -/
theorem gauge_agrees_iff {labels : List (GaugeLabel β)}
    (hrun : machine.exec machine.init labels = some s) :
    (machine.Throughout Agrees machine.init labels ↔ .openStream ∉ labels) ∧ s.Bounded := by
  have hvacant : (machine (β := β)).init.Vacant := ⟨rfl, rfl, rfl, rfl⟩
  have hregistered : (machine (β := β)).init.Registered :=
    ⟨rfl, Nat.zero_le _, nodup_nil, nofun, nofun⟩
  have hbounded : (machine (β := β)).init.Bounded := ⟨0, rfl, Nat.le_refl _, Nat.zero_le _⟩
  refine ⟨hvacant.throughout_iff labels hbounded hregistered hrun, ?_⟩
  exact (StepMachine.invariant_of_exec (I := fun s : GaugedService β ↦ s.Registered ∧ s.Bounded)
    (fun _ _ _ h hstep ↦ ⟨h.1.step hstep, h.2.step h.1 hstep⟩) ⟨hregistered, hbounded⟩ hrun).2

/-- Observers that only look, an update that no one receives, and a shutdown. -/
def handshakesOnly : List (GaugeLabel ℕ) :=
  [.setUs1Handles, .hello, .publish 5, .hello, .evictAll .kCanceled]

theorem gauge_agrees_iff_handshakesOnly :
    machine.Throughout Agrees machine.init handshakesOnly ∧
      ∃ s, machine.exec machine.init handshakesOnly = some s ∧ s.Bounded := by
  obtain ⟨s, hrun⟩ : ∃ s, machine.exec machine.init handshakesOnly = some s := ⟨_, rfl⟩
  exact ⟨(gauge_agrees_iff hrun).1.2 (by decide), s, hrun, (gauge_agrees_iff hrun).2⟩

/-- **One stream is counted twice.** -/
theorem counts_stream_twice :
    ∃ s, (machine (β := ℕ)).exec machine.init [.setUs1Handles, .openStream] = some s ∧
      s.bus.slots = [0] ∧ s.bus.gauge = some 2 :=
  ⟨_, rfl, rfl, rfl⟩

end GaugedService

end HighBar.Grpc
