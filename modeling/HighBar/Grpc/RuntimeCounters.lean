import HighBar.Grpc.CommandQueue
import HighBar.Grpc.DeltaBusFanOut
import HighBar.Library.Collect

/-!
# The runtime counters

`GetRuntimeCounters` answers with six counters, each an atomic of its own, loaded one after the
other with nothing held. `data-model.md` and the comment in the handler promise **one coherent
view as of a single moment**.

## The updates

Every function that writes a counter does it with one atomic instruction, and a `CounterUpdate` is
such an instruction. The bus, the queue, the sessions and the engine thread are free to run in any
order between two loads, so any list of updates and loads is a run of the call.

That the results are about the components as they are modelled elsewhere is said by three links: a
step of the bus changes its two counters by at most one such update (`writes_of_steps`, over
`FanOut`), and so do a producer and the consumer with the depth of the queue (`writes_run` and
`writes_drain`, over `CommandQueue`).

`frame_flush_time_us_p99` is in the answer too, but it is no counter: it is computed from the flush
samples under a mutex of theirs (`FlushSamples`).

## What the loads give

The promise fails as soon as a loaded counter and then one to come are written between two loads. It
holds in the runs where that does not happen, by the general rule for collects.
-/

namespace HighBar.Grpc

open CommandQueue

/-- The counters in the answer. -/
inductive Counter where
  | subscriberCount
  | cumulativeDroppedSubscribers
  | commandQueueDepth
  | commandSubmissionsRejectedResourceExhausted
  | commandSubmissionsRejectedInvalidArgument
  | framesSinceBind
deriving Repr, DecidableEq

/-- An atomic write to a counter. -/
inductive CounterUpdate where
  /-- `Subscribe`. -/
  | subscribe
  /-- `Unsubscribe`, of a slot that was live. -/
  | unsubscribe
  /-- `EvictAll`, which took this many slots. -/
  | evictAll (taken : ℕ)
  /-- `TryReserveObserverSlot` and `ReleaseObserverSlot`, with the count they got. -/
  | storeObserverCount (count : ℕ)
  /-- `Publish`, for a slot that refused the payload. -/
  | countDropped
  /-- `TryPush`, `TryPushBatch` and `Drain`, with the size they leave. -/
  | storeQueueDepth (size : ℕ)
  | rejectResourceExhausted
  | rejectInvalidArgument
  /-- `AdvanceFrame`, with what it got from its own `frames_since_bind_`. -/
  | advanceFrame (frames : ℕ)
deriving Repr, DecidableEq

/-- What the write leaves. -/
def CounterUpdate.apply (update : CounterUpdate) (c : Counter → ℕ) : Counter → ℕ :=
  match update with
  | .subscribe => Function.update c .subscriberCount (wrapAdd 32 (c .subscriberCount) 1)
  | .unsubscribe => Function.update c .subscriberCount (wrapSub 32 (c .subscriberCount) 1)
  | .evictAll taken => Function.update c .subscriberCount (wrapSub 32 (c .subscriberCount) taken)
  | .storeObserverCount count => Function.update c .subscriberCount count
  | .countDropped =>
    Function.update c .cumulativeDroppedSubscribers
      (wrapAdd 64 (c .cumulativeDroppedSubscribers) 1)
  | .storeQueueDepth size => Function.update c .commandQueueDepth (size % 2 ^ 32)
  | .rejectResourceExhausted =>
    Function.update c .commandSubmissionsRejectedResourceExhausted
      (wrapAdd 64 (c .commandSubmissionsRejectedResourceExhausted) 1)
  | .rejectInvalidArgument =>
    Function.update c .commandSubmissionsRejectedInvalidArgument
      (wrapAdd 64 (c .commandSubmissionsRejectedInvalidArgument) 1)
  | .advanceFrame frames => Function.update c .framesSinceBind frames

/-- The order of the loads in `GetRuntimeCountersCallData::Proceed`. -/
def loadOrder : List Counter :=
  [.subscriberCount, .cumulativeDroppedSubscribers, .commandQueueDepth,
    .commandSubmissionsRejectedResourceExhausted, .commandSubmissionsRejectedInvalidArgument,
    .framesSinceBind]

/-- One `GetRuntimeCounters` call, from the moment the counters stood at `counters`. -/
def getRuntimeCounters (counters : Counter → ℕ) :
    StepMachine (Collect Counter ℕ) (CollectLabel CounterUpdate) :=
  Collect.machine CounterUpdate.apply loadOrder counters

/-! ### The bus and the queue write by updates -/

/-- At most one update leads from `c` to `d`. -/
def Writes (c d : Counter → ℕ) : Prop := d = c ∨ ∃ update : CounterUpdate, d = update.apply c

/-- The two counters the bus knows. -/
def busCounters (c : Counter → ℕ) : BusCounters :=
  ⟨c .subscriberCount, c .cumulativeDroppedSubscribers⟩

variable {β : Type*} {c : Counter → ℕ}

theorem writes_same {b b' : DeltaBus β} (hb : b.counters = some (busCounters c))
    (hsame : b'.counters = b.counters) : ∃ d, Writes c d ∧ b'.counters = some (busCounters d) :=
  ⟨c, .inl rfl, hsame.trans hb⟩

theorem writes_map {b b' : DeltaBus β} (hb : b.counters = some (busCounters c))
    {f : BusCounters → BusCounters} (hmap : b'.counters = b.counters.map f)
    (update : CounterUpdate) (hf : f (busCounters c) = busCounters (update.apply c)) :
    ∃ d, Writes c d ∧ b'.counters = some (busCounters d) :=
  ⟨update.apply c, .inr ⟨update, rfl⟩, by rw [hmap, hb, Option.map_some, hf]⟩

/-- **The bus writes by updates.** A step of the publisher, of a subscriber or of `EvictAll` writes
at most one counter. -/
theorem writes_of_steps {capacity : ℕ} {s t : FanOut β} {label : FanOutLabel β}
    (hs : s.bus.counters = some (busCounters c)) (hsteps : FanOut.Steps capacity s label t) :
    ∃ d, Writes c d ∧ t.bus.counters = some (busCounters d) := by
  cases hsteps with
  | countDropped =>
    exact writes_map hs rfl .countDropped (by simp [busCounters, CounterUpdate.apply])
  | subscribe => exact writes_map hs rfl .subscribe (by simp [busCounters, CounterUpdate.apply])
  | erase id =>
    by_cases hlive : id ∈ s.bus.slots ∧ (s.bus.lock id).isSome
    · exact writes_map hs (if_pos hlive) .unsubscribe (by simp [busCounters, CounterUpdate.apply])
    · exact writes_same hs (if_neg hlive)
  | endEvictAll call reason taken =>
    by_cases hnone : taken.length = 0
    · exact writes_same hs (if_pos hnone)
    · exact writes_map hs (if_neg hnone) (.evictAll taken.length)
        (by simp [busCounters, CounterUpdate.apply])
  | tryPush id payload => exact writes_same hs (s.bus.tryPushTo_counters id payload)
  | evictSlow id | unsubscribe id | evictNext _ id =>
    exact writes_same hs (s.bus.evictSlot_counters id _)
  | publish | endPublish | blockingPop | release | evictAll => exact writes_same hs rfl

theorem writes_storeDepth {gauge : Option ℕ} (hgauge : gauge = some (c .commandQueueDepth))
    (size : ℕ) : ∃ d, Writes c d ∧ storeDepth gauge size = some (d .commandQueueDepth) :=
  ⟨_, .inr ⟨.storeQueueDepth size, rfl⟩, by rw [hgauge]; rfl⟩

/-- **The producers write by updates.** -/
theorem writes_run {q : CommandQueue} (hq : q.commandQueueDepth = some (c .commandQueueDepth))
    (call : ProducerCall) :
    ∃ d, Writes c d ∧ (call.run q).2.commandQueueDepth = some (d .commandQueueDepth) := by
  rcases call.run_spec q with hrefused | ⟨-, -, -, hdepth⟩
  · exact ⟨c, .inl rfl, by rw [hrefused]; exact hq⟩
  · rw [hdepth]
    exact writes_storeDepth hq _

/-- **So does the consumer.** -/
theorem writes_drain {q : CommandQueue} (hq : q.commandQueueDepth = some (c .commandQueueDepth))
    (out : Option (List QueuedCommand)) (max : ℕ) :
    ∃ d, Writes c d ∧ (q.drain out max).2.2.commandQueueDepth = some (d .commandQueueDepth) := by
  rcases out with - | out
  · exact ⟨c, .inl rfl, hq⟩
  · exact writes_storeDepth hq _

/-! ### One moment for all the values -/

/-- **The answer is of a single moment in every orderly run.** Whatever the counters stood at when
the call began and whatever updates come between its loads, as long as none of them changes a
counter still to be loaded after one already loaded has changed: the call loads the six counters in
their order, and at one moment during the call they held all the values loaded. -/
theorem runtime_counters_coherent (counters : Counter → ℕ)
    (labels : List (CollectLabel CounterUpdate)) {s : Collect Counter ℕ}
    (hrun : (getRuntimeCounters counters).exec (getRuntimeCounters counters).init labels = some s)
    (hdone : s.pending = [])
    (hmeets : (getRuntimeCounters counters).Meets (Collect.Orderly CounterUpdate.apply)
      (getRuntimeCounters counters).init labels) :
    s.loaded.map Prod.fst = loadOrder ∧
      ∃ moment ∈ s.moments, ∀ entry ∈ s.loaded, moment entry.1 = entry.2 := by
  have horder := Collect.loaded_append_pending hrun
  rw [hdone, List.append_nil] at horder
  exact ⟨horder, Collect.snapshot_of_meets hrun hmeets⟩

/-- A command is queued before its counter is loaded, and a subscriber comes after. -/
def orderlyCall : List (CollectLabel CounterUpdate) :=
  [.load, .write (.storeQueueDepth 1), .load, .load, .write .subscribe, .load, .load, .load]

theorem runtime_counters_coherent_orderlyCall :
    ∃ s, (getRuntimeCounters fun _ ↦ 0).exec (getRuntimeCounters fun _ ↦ 0).init orderlyCall =
        some s ∧
      s.pending = [] ∧
      (getRuntimeCounters fun _ ↦ 0).Meets (Collect.Orderly CounterUpdate.apply)
        (getRuntimeCounters fun _ ↦ 0).init orderlyCall ∧
      s.loaded.map Prod.fst = loadOrder ∧
        ∃ moment ∈ s.moments, ∀ entry ∈ s.loaded, moment entry.1 = entry.2 :=
  ⟨_, rfl, rfl, by decide, runtime_counters_coherent _ orderlyCall rfl rfl (by decide)⟩

/-- A subscriber arrives after the first load, and a frame ends before the last. -/
def tornCall : List (CollectLabel CounterUpdate) :=
  [.load, .write .subscribe, .write (.advanceFrame 1), .load, .load, .load, .load, .load]

/-- **The loads are no snapshot.** The answer says that there is no subscriber and that a frame has
passed, and at no moment was it so: the subscriber came first. -/
theorem torn_counters :
    ∃ s, (getRuntimeCounters fun _ ↦ 0).exec (getRuntimeCounters fun _ ↦ 0).init tornCall =
        some s ∧
      s.pending = [] ∧
      (.subscriberCount, 0) ∈ s.loaded ∧
      (.framesSinceBind, 1) ∈ s.loaded ∧
      ¬∃ moment ∈ s.moments, ∀ entry ∈ s.loaded, moment entry.1 = entry.2 :=
  ⟨_, rfl, rfl, by decide, by decide, by decide⟩

end HighBar.Grpc
