import HighBar.Grpc.DeltaBus
import HighBar.Library.StepMachine

/-!
# Waking a consumer blocked in `BlockingPop`

One slot, its consumer, and any number of `TryPush` and `Evict` calls of other threads. The wait of
`BlockingPop` is taken apart into **the test of the predicate** and **going to sleep**, both under
the slot's mutex, and `Evict` into **the compare-exchange** and **`notify_all`**, neither of which
takes the mutex. There are no spurious wake-ups.

## The gap

`TryPush` changes the predicate under the mutex, so it cannot fall between the test and the sleep.
`Evict` can: a `notify_all` that comes after a failed test and before the sleep wakes no one, and
the consumer then sleeps on a closed slot. Nothing wakes it afterwards (`Stranded.step`): a closed
slot refuses every push without a notification, and a second `Evict` loses its compare-exchange.

`Woken` is the property the callers of `Evict` rely on, and `evict_wakes_consumer` proves it for
every run in which **no `notify_all` falls into the gap**.
-/

namespace HighBar.Grpc

open Option

/-- Where the consumer is in `BlockingPop`. -/
inductive PopPhase where
  /-- Not in a call. -/
  | idle
  /-- About to take the mutex, at the start of the call or after a wake-up. -/
  | acquiring
  /-- Holds the mutex, and the test of the predicate comes next. -/
  | locked
  /-- The predicate was true. -/
  | ready
  /-- The predicate was false, and the consumer still holds the mutex. -/
  | tested
  /-- On the condition variable, without the mutex. -/
  | asleep
deriving Repr, DecidableEq

/-- The consumer holds the slot's mutex. -/
def PopPhase.holdsMutex : PopPhase → Bool
  | .locked | .ready | .tested => true
  | .idle | .acquiring | .asleep => false

/-- A slot, its consumer and the notifications that are still to come. -/
structure SlotWait (β : Type*) where
  slot : SubscriberSlot β
  consumer : PopPhase
  /-- What each finished `BlockingPop` handed over; `none` where it returned false. -/
  returned : List (Option β)
  /-- `TryPush` calls past their locked half, before `notify_one`. -/
  pushing : ℕ
  /-- `Evict` calls that won the compare-exchange, before `notify_all`. -/
  evicting : ℕ

/-- One atomic step. -/
inductive SlotWaitLabel (β : Type*) where
  | blockingPop
  | lock
  | test
  /-- The rest of `BlockingPop` after its wait, up to its return. -/
  | popFront
  /-- Join the condition variable's queue and release the mutex, in one step. -/
  | sleep
  /-- The locked half of `TryPush`. -/
  | tryPush (payload : β)
  | notifyOne
  /-- The compare-exchange of `Evict`. -/
  | evict (reason : EvictionReason)
  | notifyAll
deriving Repr, DecidableEq

/-- The steps of the consumer's own thread. -/
def SlotWaitLabel.ofConsumer {β : Type*} : SlotWaitLabel β → Bool
  | .blockingPop | .lock | .test | .popFront | .sleep => true
  | .tryPush _ | .notifyOne | .evict _ | .notifyAll => false

namespace SlotWait

variable {β : Type*}

/-- Both notifications wake the one consumer, if it is asleep. -/
def wake (s : SlotWait β) : SlotWait β :=
  if s.consumer = .asleep then { s with consumer := .acquiring } else s

/-- One step. -/
def step (s : SlotWait β) : SlotWaitLabel β → Option (SlotWait β)
  | .blockingPop => if s.consumer = .idle then some { s with consumer := .acquiring } else none
  | .lock => if s.consumer = .acquiring then some { s with consumer := .locked } else none
  | .test =>
    if s.consumer = .locked then
      some { s with consumer := if s.slot.awake then .ready else .tested }
    else none
  | .popFront =>
    if s.consumer = .ready then
      some
        { s with
          slot := s.slot.popFront.2
          consumer := .idle
          returned := s.returned ++ [s.slot.popFront.1] }
    else none
  | .sleep => if s.consumer = .tested then some { s with consumer := .asleep } else none
  | .tryPush payload =>
    if s.consumer.holdsMutex then none
    else
      some
        { s with
          slot := (s.slot.tryPush payload).2
          pushing := if (s.slot.tryPush payload).1 then s.pushing + 1 else s.pushing }
  | .notifyOne => if 0 < s.pushing then some { s.wake with pushing := s.pushing - 1 } else none
  | .evict reason =>
    some
      { s with
        slot := s.slot.evict reason
        evicting := if s.slot.eviction = .kNone then s.evicting + 1 else s.evicting }
  | .notifyAll => if 0 < s.evicting then some { s.wake with evicting := s.evicting - 1 } else none

/-- A fresh slot of the given capacity, with its consumer outside `BlockingPop`. -/
def machine (capacity : ℕ) : StepMachine (SlotWait β) (SlotWaitLabel β) where
  init := ⟨.create capacity, .idle, [], 0, 0⟩
  step := step

variable {s t : SlotWait β} {label : SlotWaitLabel β} {capacity : ℕ}

@[simp] theorem wake_slot (s : SlotWait β) : s.wake.slot = s.slot := by
  unfold wake
  split <;> rfl

@[simp] theorem wake_evicting (s : SlotWait β) : s.wake.evicting = s.evicting := by
  unfold wake
  split <;> rfl

/-- No one is asleep after a notification. -/
theorem wake_consumer_ne_asleep (s : SlotWait β) : s.wake.consumer ≠ .asleep := by
  unfold wake
  split
  · exact nofun
  · assumption

/-- A notification does not move a consumer that has tested and not gone to sleep yet. -/
theorem wake_consumer_eq_tested (s : SlotWait β) :
    s.wake.consumer = .tested ↔ s.consumer = .tested := by
  unfold wake
  split
  · rename_i hasleep
    rw [hasleep]
    exact iff_of_false nofun nofun
  · exact Iff.rfl

/-! ### The property and the invariant -/

/-- The wait is committed: the next thing the consumer does without help is to sleep. -/
def Waiting (s : SlotWait β) : Prop := s.consumer = .tested ∨ s.consumer = .asleep

/-- **The invariant**: a consumer that waits on a closed slot has a `notify_all` coming. -/
def Notified (s : SlotWait β) : Prop :=
  s.slot.eviction ≠ .kNone → s.Waiting → 0 < s.evicting

/-- The condition on a step: no `notify_all` of a closed slot falls between the consumer's failed
test and its sleep. -/
def OutsideGap (s : SlotWait β) : SlotWaitLabel β → Prop
  | .notifyAll => s.consumer = .tested → s.slot.eviction = .kNone
  | _ => True

instance (s : SlotWait β) : (label : SlotWaitLabel β) → Decidable (s.OutsideGap label)
  | .notifyAll => inferInstanceAs (Decidable (s.consumer = .tested → s.slot.eviction = .kNone))
  | .blockingPop | .lock | .test | .popFront | .sleep => inferInstanceAs (Decidable True)
  | .tryPush _ | .notifyOne | .evict _ => inferInstanceAs (Decidable True)

/-- A consumer that does not wait has nothing to be notified of. -/
theorem Notified.of_not_waiting (h : ¬s.Waiting) : s.Notified := fun _ hw ↦ absurd hw h

/-- One step outside the gap keeps the invariant. -/
theorem Notified.step (h : s.Notified) (hgap : s.OutsideGap label)
    (hstep : s.step label = some t) : t.Notified := by
  rcases label with - | - | - | - | - | payload | - | reason | -
  case blockingPop =>
    obtain ⟨-, ⟨⟩⟩ := ite_none_right_eq_some.1 hstep
    exact .of_not_waiting nofun
  case lock =>
    obtain ⟨-, ⟨⟩⟩ := ite_none_right_eq_some.1 hstep
    exact .of_not_waiting nofun
  case test =>
    obtain ⟨-, ⟨⟩⟩ := ite_none_right_eq_some.1 hstep
    rcases hawake : s.slot.awake with - | -
    · exact fun hclosed _ ↦ absurd (SubscriberSlot.eviction_of_awake_eq_false hawake) hclosed
    · exact .of_not_waiting (by rw [Waiting, if_pos rfl]; exact nofun)
  case popFront =>
    obtain ⟨-, ⟨⟩⟩ := ite_none_right_eq_some.1 hstep
    exact .of_not_waiting nofun
  case sleep =>
    obtain ⟨htested, ⟨⟩⟩ := ite_none_right_eq_some.1 hstep
    exact fun hclosed _ ↦ h hclosed (Or.inl htested)
  case tryPush =>
    obtain ⟨-, ⟨⟩⟩ := ite_none_left_eq_some.1 hstep
    intro hclosed hwaiting
    rw [SubscriberSlot.tryPush_eviction] at hclosed
    exact h hclosed hwaiting
  case notifyOne =>
    obtain ⟨-, ⟨⟩⟩ := ite_none_right_eq_some.1 hstep
    intro hclosed hwaiting
    have htested : s.consumer = .tested :=
      s.wake_consumer_eq_tested.1 (hwaiting.resolve_right s.wake_consumer_ne_asleep)
    have hcoming := h (by simpa using hclosed) (Or.inl htested)
    simpa using hcoming
  case evict =>
    cases hstep
    intro _ hwaiting
    by_cases hopen : s.slot.eviction = .kNone
    · show 0 < if s.slot.eviction = .kNone then s.evicting + 1 else s.evicting
      rw [if_pos hopen]
      exact Nat.succ_pos _
    · show 0 < if s.slot.eviction = .kNone then s.evicting + 1 else s.evicting
      rw [if_neg hopen]
      exact h hopen hwaiting
  case notifyAll =>
    obtain ⟨-, ⟨⟩⟩ := ite_none_right_eq_some.1 hstep
    -- after `notify_all` only a consumer in the gap could still be waiting
    intro hclosed hwaiting
    have htested : s.consumer = .tested :=
      s.wake_consumer_eq_tested.1 (hwaiting.resolve_right s.wake_consumer_ne_asleep)
    exact absurd (hgap htested) (by simpa using hclosed)

/-! ### What the callers of `Evict` rely on -/

/-- The consumer's thread, left to itself, finishes its `BlockingPop`. -/
def Returns (s : SlotWait β) : Prop :=
  ∃ own t, (∀ a ∈ own, SlotWaitLabel.ofConsumer a = true) ∧
    (machine s.slot.capacity).exec s own = some t ∧ t.consumer = .idle

/-- Once every `Evict` has returned, the consumer of a closed slot is not asleep, and nothing keeps
its `BlockingPop` from returning. -/
def Woken (s : SlotWait β) : Prop :=
  s.evicting = 0 → s.slot.eviction ≠ .kNone → s.consumer ≠ .asleep ∧ s.Returns

/-- On a closed slot a consumer that does not wait goes through. -/
theorem returns_of_evicted (hclosed : s.slot.eviction ≠ .kNone) (hnot : ¬s.Waiting) :
    s.Returns := by
  obtain ⟨slot, consumer, returned, pushing, evicting⟩ := s
  have hawake : slot.awake = true := SubscriberSlot.awake_of_evicted hclosed
  rcases consumer with - | - | - | - | - | -
  case idle => exact ⟨[], _, nofun, rfl, rfl⟩
  case acquiring =>
    refine ⟨[.lock, .test, .popFront],
      ⟨slot.popFront.2, .idle, returned ++ [slot.popFront.1], pushing, evicting⟩, ?_, ?_, rfl⟩
    · simp [SlotWaitLabel.ofConsumer]
    · simp [StepMachine.exec, machine, SlotWait.step, hawake]
  case locked =>
    refine ⟨[.test, .popFront],
      ⟨slot.popFront.2, .idle, returned ++ [slot.popFront.1], pushing, evicting⟩, ?_, ?_, rfl⟩
    · simp [SlotWaitLabel.ofConsumer]
    · simp [StepMachine.exec, machine, SlotWait.step, hawake]
  case ready =>
    refine ⟨[.popFront],
      ⟨slot.popFront.2, .idle, returned ++ [slot.popFront.1], pushing, evicting⟩, ?_, rfl, rfl⟩
    simp [SlotWaitLabel.ofConsumer]
  case tested => exact absurd (Or.inl rfl) hnot
  case asleep => exact absurd (Or.inr rfl) hnot

/-- **Eviction wakes the consumer**, in every run in which no `notify_all` falls between the
consumer's failed test and its sleep. -/
theorem evict_wakes_consumer {labels : List (SlotWaitLabel β)}
    (hmeets : (machine capacity).Meets OutsideGap (machine capacity).init labels)
    (hrun : (machine capacity).exec (machine capacity).init labels = some s) : s.Woken := by
  have hinit : (machine (β := β) capacity).init.Notified := .of_not_waiting nofun
  have hnotified : s.Notified :=
    StepMachine.invariant_of_meets (fun _ _ _ h hgap hstep ↦ h.step hgap hstep) hinit hmeets hrun
  intro hreturned hclosed
  have hnot : ¬s.Waiting := fun hwaiting ↦ by
    have hcoming := hnotified hclosed hwaiting
    omega
  exact ⟨fun hasleep ↦ hnot (Or.inr hasleep), returns_of_evicted hclosed hnot⟩

/-- The consumer falls asleep on an empty slot, and is then evicted. -/
def evictedAsleep : List (SlotWaitLabel ℕ) :=
  [.blockingPop, .lock, .test, .sleep, .evict .kCanceled, .notifyAll]

theorem evict_wakes_consumer_evictedAsleep :
    ∃ s, (machine 8).exec (machine 8).init evictedAsleep = some s ∧
      s.evicting = 0 ∧ s.slot.eviction = .kCanceled ∧ s.consumer ≠ .asleep ∧ s.Returns := by
  have hmeets : (machine 8).Meets OutsideGap (machine 8).init evictedAsleep := by decide
  exact ⟨_, rfl, rfl, rfl, evict_wakes_consumer hmeets rfl rfl nofun⟩

/-! ### A lost wake-up -/

/-- Asleep on a closed slot with no notification to come. -/
structure Stranded (s : SlotWait β) : Prop where
  closed : s.slot.eviction ≠ .kNone
  asleep : s.consumer = .asleep
  pushing : s.pushing = 0
  evicting : s.evicting = 0

/-- Whatever other threads do, a stranded consumer sleeps on. -/
theorem Stranded.step (h : s.Stranded) (hstep : s.step label = some t) : t.Stranded := by
  have hconsumer := h.asleep
  rcases label with - | - | - | - | - | payload | - | reason | -
  case tryPush =>
    -- a closed slot refuses the push, so there is no `notify_one`
    obtain ⟨-, ⟨⟩⟩ := ite_none_left_eq_some.1 hstep
    rw [SubscriberSlot.tryPush_of_evicted h.closed]
    exact ⟨h.closed, h.asleep, h.pushing, h.evicting⟩
  case notifyOne =>
    obtain ⟨hpending, -⟩ := ite_none_right_eq_some.1 hstep
    exact absurd h.pushing (by omega)
  case evict =>
    -- the compare-exchange fails, so there is no `notify_all`
    cases hstep
    rw [SubscriberSlot.evict_of_evicted h.closed, if_neg h.closed]
    exact ⟨h.closed, h.asleep, h.pushing, h.evicting⟩
  case notifyAll =>
    obtain ⟨hpending, -⟩ := ite_none_right_eq_some.1 hstep
    exact absurd h.evicting (by omega)
  all_goals
    obtain ⟨hphase, -⟩ := ite_none_right_eq_some.1 hstep
    rw [hconsumer] at hphase
    cases hphase

/-- The slot is closed, and notified, between the consumer's test and its sleep. -/
def evictedInGap : List (SlotWaitLabel ℕ) :=
  [.blockingPop, .lock, .test, .evict .kCanceled, .notifyAll, .sleep]

/-- **An eviction whose notification falls into the gap is slept through**, and the consumer stays
asleep in every continuation. -/
theorem evict_strands_consumer :
    ∃ s, (machine 8).exec (machine 8).init evictedInGap = some s ∧
      s.evicting = 0 ∧ s.slot.eviction = .kCanceled ∧ s.consumer = .asleep ∧
      ∀ labels t, (machine 8).exec s labels = some t → t.consumer = .asleep := by
  obtain ⟨s, hrun, hclosed, hstranded⟩ : ∃ s, (machine 8).exec (machine 8).init evictedInGap =
      some s ∧ s.slot.eviction = .kCanceled ∧ s.Stranded :=
    ⟨_, rfl, rfl, by decide, rfl, rfl, rfl⟩
  refine ⟨s, hrun, hstranded.evicting, hclosed, hstranded.asleep, fun labels t hrest ↦ ?_⟩
  exact (StepMachine.invariant_of_exec (I := Stranded) (fun _ _ _ h hstep ↦ h.step hstep)
    hstranded hrest).asleep

end SlotWait

end HighBar.Grpc
