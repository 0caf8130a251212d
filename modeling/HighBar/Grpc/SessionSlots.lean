import HighBar.Grpc.SubmitCommands
import HighBar.Library.Counting

/-!
# Session slots: the observer cap and the one AI seat

Two atomic registers of the service bound the number of sessions: `observer_count_`, at most
`kObserverHardCap`, and `ai_slot_taken_`. Three kinds of calls write them. `Hello` takes a seat and
gives it back at once, to find out whether there is one. `StreamState` keeps an observer's seat and
`SubmitCommands` the AI's seat **until the call object is deleted**, which is when the completion of
their `Finish` is handled.

## Calls and their steps

Each kind of call has its own phases, so that a call cannot be in a phase its class does not have,
and whether it holds a seat can be read off the phase (`SessionCall.seat?`). A step is one atomic
operation of one call, and every call may move in any state; in particular `TryReserveObserverSlot`
is a load followed by a **weak** compare-exchange, which may also fail for no reason.

## The invariant

Whatever a call does, it does one of five things to its seat and the registers: nothing, reserve,
give an observer's seat back, claim, give the AI's seat back (`Seating`, `seating_of_step`). The
invariant, that the registers count the seats that are held, follows from these five alone.
-/

namespace HighBar.Grpc

open List Option

/-- `kObserverHardCap`. -/
def observerHardCap : ℕ := 4

/-- The registers of the service. -/
structure SessionSlots where
  /-- `observer_count_`. -/
  observerCount : ℕ
  /-- `ai_slot_taken_`. -/
  aiSlotTaken : Bool
deriving Repr, DecidableEq

namespace SessionSlots

/-- `ReleaseObserverSlot`; the register is a `uint32_t`. -/
def releaseObserverSlot (slots : SessionSlots) : SessionSlots :=
  { slots with observerCount := wrapSub 32 slots.observerCount 1 }

@[simp] theorem releaseObserverSlot_aiSlotTaken (slots : SessionSlots) :
    slots.releaseObserverSlot.aiSlotTaken = slots.aiSlotTaken := by
  obtain ⟨observerCount, aiSlotTaken⟩ := slots
  exact Eq.refl aiSlotTaken

/-- `TryClaimAiSlot`, one compare-exchange. -/
def tryClaimAiSlot (slots : SessionSlots) : Bool × SessionSlots :=
  if slots.aiSlotTaken then (false, slots) else (true, { slots with aiSlotTaken := true })

/-- `ReleaseAiSlot`. -/
def releaseAiSlot (slots : SessionSlots) : SessionSlots := { slots with aiSlotTaken := false }

end SessionSlots

/-! ### What a call can do next -/

/-- One atomic step of a call. -/
inductive SessionAction where
  /-- A completion with `ok = false` in `kCreated`. -/
  | cancelled
  /-- The completion that announces a `Hello`. -/
  | acceptHello (schemaMatches isAi : Bool)
  /-- The completion that announces a `StreamState`. -/
  | acceptStream
  /-- The completion that announces a `SubmitCommands`; `wired` is whether `command_queue_` and
  `validator_` are set. -/
  | acceptSubmit (wired : Bool)
  /-- The load in `TryReserveObserverSlot`. -/
  | load
  /-- The compare-exchange in `TryReserveObserverSlot`, which may fail spuriously. -/
  | compareExchange (spurious : Bool)
  | claim
  /-- `Hello` gives back what it took. -/
  | release
  /-- `StreamState` looks at the handles it needs. -/
  | checkHandles (wired : Bool)
  /-- The pump calls `Finish`. -/
  | finishStream
  /-- `HandleReadDone` ends the stream. -/
  | finishSubmit (how : SubmitFinish)
  /-- The completion of `Finish`: the call object is deleted. -/
  | delete
deriving Repr, DecidableEq

/-- Where a call is in `TryReserveObserverSlot`. -/
inductive Reservation where
  | loading
  /-- A value below the cap was loaded. -/
  | loaded (cur : Fin observerHardCap)
deriving Repr, DecidableEq

/-- What a step of `TryReserveObserverSlot` leads to. -/
inductive ReservationStep where
  | pending (reservation : Reservation)
  | refused
  | granted
deriving Repr, DecidableEq

/-- `TryReserveObserverSlot`, one step of its loop. -/
def Reservation.step (slots : SessionSlots) :
    Reservation → SessionAction → Option (SessionSlots × ReservationStep)
  | .loading, .load =>
    some (slots,
      if h : slots.observerCount < observerHardCap then .pending (.loaded ⟨slots.observerCount, h⟩)
      else .refused)
  | .loaded cur, .compareExchange spurious =>
    if !spurious && slots.observerCount == cur then
      some ({ slots with observerCount := cur + 1 }, .granted)
    else some (slots, .pending .loading)
  | _, _ => none

/-- How a `Hello` is answered. -/
inductive HelloEnd where
  /-- `FAILED_PRECONDITION`, "schema mismatch: ...". -/
  | schemaMismatch
  /-- `RESOURCE_EXHAUSTED`, "observer cap reached (4)". -/
  | observerCapReached
  /-- `ALREADY_EXISTS`, "AI slot already claimed". -/
  | aiSlotAlreadyClaimed
  | ok
deriving Repr, DecidableEq

/-- `HelloCallData`. -/
inductive HelloPhase where
  | created
  | reserving (reservation : Reservation)
  /-- Between `TryReserveObserverSlot` and `ReleaseObserverSlot`. -/
  | reserved
  | claiming
  /-- Between `TryClaimAiSlot` and `ReleaseAiSlot`. -/
  | claimed
  | finishing (how : HelloEnd)
  | deleted
deriving Repr, DecidableEq

/-- How a `StreamState` is finished. -/
inductive StreamEnd where
  /-- `RESOURCE_EXHAUSTED`, "observer cap reached (4)". -/
  | observerCapReached
  /-- `UNAVAILABLE`, "gateway US1 handles not wired". -/
  | handlesNotWired
  /-- By the pump. -/
  | pumpFinished
deriving Repr, DecidableEq

/-- `observer_slot_reserved_` of a call that is finished in this way. -/
def StreamEnd.reserved : StreamEnd → Bool
  | .observerCapReached => false
  | .handlesNotWired | .pumpFinished => true

/-- `StreamStateCallData`. -/
inductive StreamPhase where
  | created
  | reserving (reservation : Reservation)
  /-- Holds a reservation, and the test of the handles comes next. -/
  | reserved
  | streaming
  | finishing (how : StreamEnd)
  | deleted
deriving Repr, DecidableEq

/-- How a `SubmitCommands` is finished. -/
inductive SubmitEnd where
  /-- `UNAVAILABLE`, "command path not wired". -/
  | commandPathNotWired
  /-- `ALREADY_EXISTS`, "AI slot already claimed". -/
  | aiSlotAlreadyClaimed
  /-- By `HandleReadDone`. -/
  | finished (how : SubmitFinish)
deriving Repr, DecidableEq

/-- `ai_slot_claimed_` of a call that is finished in this way. -/
def SubmitEnd.claimed : SubmitEnd → Bool
  | .commandPathNotWired | .aiSlotAlreadyClaimed => false
  | .finished _ => true

/-- `SubmitCommandsCallData`. -/
inductive SubmitPhase where
  | created
  | claiming
  | reading
  | finishing (how : SubmitEnd)
  | deleted
deriving Repr, DecidableEq

/-- `HelloCallData::Proceed`. -/
def HelloPhase.step (slots : SessionSlots) :
    HelloPhase → SessionAction → Option (SessionSlots × HelloPhase)
  | .created, .cancelled => some (slots, .deleted)
  | .created, .acceptHello schemaMatches isAi =>
    some (slots,
      if !schemaMatches then .finishing .schemaMismatch
      else if isAi then .claiming
      else .reserving .loading)
  | .reserving reservation, action =>
    (reservation.step slots action).map fun
      | (slots, .pending reservation) => (slots, .reserving reservation)
      | (slots, .refused) => (slots, .finishing .observerCapReached)
      | (slots, .granted) => (slots, .reserved)
  | .reserved, .release => some (slots.releaseObserverSlot, .finishing .ok)
  | .claiming, .claim =>
    some (slots.tryClaimAiSlot.2,
      if slots.tryClaimAiSlot.1 then .claimed else .finishing .aiSlotAlreadyClaimed)
  | .claimed, .release => some (slots.releaseAiSlot, .finishing .ok)
  | .finishing _, .delete => some (slots, .deleted)
  | _, _ => none

/-- `StreamStateCallData`: `Proceed` up to the start of the pump, and the destructor. -/
def StreamPhase.step (slots : SessionSlots) :
    StreamPhase → SessionAction → Option (SessionSlots × StreamPhase)
  | .created, .cancelled => some (slots, .deleted)
  | .created, .acceptStream => some (slots, .reserving .loading)
  | .reserving reservation, action =>
    (reservation.step slots action).map fun
      | (slots, .pending reservation) => (slots, .reserving reservation)
      | (slots, .refused) => (slots, .finishing .observerCapReached)
      | (slots, .granted) => (slots, .reserved)
  | .reserved, .checkHandles wired =>
    some (slots, if wired then .streaming else .finishing .handlesNotWired)
  | .streaming, .finishStream => some (slots, .finishing .pumpFinished)
  | .finishing how, .delete =>
    some (if how.reserved then slots.releaseObserverSlot else slots, .deleted)
  | _, _ => none

/-- `SubmitCommandsCallData`: `Proceed` without the batches it reads, and the destructor. -/
def SubmitPhase.step (slots : SessionSlots) :
    SubmitPhase → SessionAction → Option (SessionSlots × SubmitPhase)
  | .created, .cancelled => some (slots, .deleted)
  | .created, .acceptSubmit wired =>
    some (slots, if wired then .claiming else .finishing .commandPathNotWired)
  | .claiming, .claim =>
    some (slots.tryClaimAiSlot.2,
      if slots.tryClaimAiSlot.1 then .reading else .finishing .aiSlotAlreadyClaimed)
  | .reading, .finishSubmit how => some (slots, .finishing (.finished how))
  | .finishing how, .delete => some (if how.claimed then slots.releaseAiSlot else slots, .deleted)
  | _, _ => none

/-- A call object. -/
inductive SessionCall where
  | hello (phase : HelloPhase)
  | streamState (phase : StreamPhase)
  | submitCommands (phase : SubmitPhase)
deriving Repr, DecidableEq

namespace SessionCall

/-- One step of the call. -/
def step (slots : SessionSlots) (action : SessionAction) :
    SessionCall → Option (SessionSlots × SessionCall)
  | .hello phase => (phase.step slots action).map (Prod.map id hello)
  | .streamState phase => (phase.step slots action).map (Prod.map id streamState)
  | .submitCommands phase => (phase.step slots action).map (Prod.map id submitCommands)

/-- The call object that an accepted call registers to take the next one. -/
def replacement : SessionAction → List SessionCall
  | .acceptHello .. => [.hello .created]
  | .acceptStream => [.streamState .created]
  | .acceptSubmit _ => [.submitCommands .created]
  | _ => []

end SessionCall

/-- The service: its registers and every call object so far. -/
structure Sessions where
  slots : SessionSlots
  calls : List SessionCall
deriving Repr, DecidableEq

namespace Sessions

/-- One step of the call with the given number. -/
def step (s : Sessions) : ℕ × SessionAction → Option Sessions
  | (i, action) =>
    s.calls[i]?.bind fun call ↦ (call.step s.slots action).map fun
      | (slots, call) => ⟨slots, s.calls.set i call ++ SessionCall.replacement action⟩

/-- The service after `Bind`, with one object registered for each kind of call. -/
def machine : StepMachine Sessions (ℕ × SessionAction) where
  init := ⟨⟨0, false⟩, [.hello .created, .streamState .created, .submitCommands .created]⟩
  step := step

end Sessions

/-! ### Seats -/

/-- What a session takes up. -/
inductive Seat where
  | observer
  | ai
deriving Repr, DecidableEq

/-- The seat a `Hello` call takes up. -/
def HelloPhase.seat? : HelloPhase → Option Seat
  | .reserved => some .observer
  | .claimed => some .ai
  | _ => none

/-- The seat a `StreamState` call takes up. -/
def StreamPhase.seat? : StreamPhase → Option Seat
  | .reserved | .streaming => some .observer
  | .finishing how => if how.reserved then some .observer else none
  | _ => none

/-- The seat a `SubmitCommands` call takes up. -/
def SubmitPhase.seat? : SubmitPhase → Option Seat
  | .reading => some .ai
  | .finishing how => if how.claimed then some .ai else none
  | _ => none

/-- The seat a call holds. -/
def SessionCall.seat? : SessionCall → Option Seat
  | .hello phase => phase.seat?
  | .streamState phase => phase.seat?
  | .submitCommands phase => phase.seat?

/-- **What a step does to the registers and to the seat of its call.** -/
inductive Seating (slots : SessionSlots) : Option Seat → SessionSlots → Option Seat → Prop
  | keep (seat : Option Seat) : Seating slots seat slots seat
  | reserve (hroom : slots.observerCount < observerHardCap) :
    Seating slots none { slots with observerCount := slots.observerCount + 1 } (some .observer)
  | leave : Seating slots (some .observer) slots.releaseObserverSlot none
  | claim (hfree : slots.aiSlotTaken = false) :
    Seating slots none { slots with aiSlotTaken := true } (some .ai)
  | abdicate : Seating slots (some .ai) slots.releaseAiSlot none

variable {slots slots' : SessionSlots} {action : SessionAction}

/-- `TryReserveObserverSlot` takes a seat exactly if it grants one. -/
theorem Reservation.seating_of_step {reservation : Reservation} {result : ReservationStep}
    (hstep : reservation.step slots action = some (slots', result)) :
    Seating slots none slots' (if result = .granted then some .observer else none) := by
  unfold Reservation.step at hstep
  split at hstep
  · cases hstep
    rw [if_neg (by split_ifs <;> exact nofun)]
    exact .keep none
  · rename_i cur spurious
    split_ifs at hstep with hswap
    · cases hstep
      rw [Bool.and_eq_true, beq_iff_eq] at hswap
      rw [if_pos rfl, ← hswap.2]
      exact .reserve (hswap.2 ▸ cur.isLt)
    · cases hstep
      exact .keep none
  · cases hstep

/-- `TryClaimAiSlot` takes the seat exactly if it returns true. -/
theorem SessionSlots.seating_tryClaimAiSlot (slots : SessionSlots) :
    Seating slots none slots.tryClaimAiSlot.2
      (if slots.tryClaimAiSlot.1 then some .ai else none) := by
  unfold tryClaimAiSlot
  rcases hfree : slots.aiSlotTaken with - | -
  · exact .claim hfree
  · exact .keep none

/-- A `Hello` takes and returns its own seat. -/
theorem HelloPhase.seating_of_step {phase phase' : HelloPhase}
    (hstep : phase.step slots action = some (slots', phase')) :
    Seating slots phase.seat? slots' phase'.seat? := by
  unfold HelloPhase.step at hstep
  split at hstep
  · cases hstep
    exact .keep none
  · cases hstep
    split_ifs <;> exact .keep none
  · obtain ⟨⟨slots₁, result⟩, hres, heq⟩ := map_eq_some_iff.1 hstep
    have hseating := Reservation.seating_of_step hres
    rcases result with reservation | - | - <;> obtain ⟨⟩ := heq <;> exact hseating
  · obtain ⟨rfl, rfl⟩ := Prod.mk.inj (Option.some.inj hstep)
    exact .leave
  · cases hstep
    have hseating := slots.seating_tryClaimAiSlot
    split_ifs at hseating ⊢ <;> exact hseating
  · cases hstep
    exact .abdicate
  · cases hstep
    exact .keep none
  · cases hstep

/-- A stream takes and returns its own seat. -/
theorem StreamPhase.seating_of_step {phase phase' : StreamPhase}
    (hstep : phase.step slots action = some (slots', phase')) :
    Seating slots phase.seat? slots' phase'.seat? := by
  unfold StreamPhase.step at hstep
  split at hstep
  · cases hstep
    exact .keep none
  · cases hstep
    exact .keep none
  · obtain ⟨⟨slots₁, result⟩, hres, heq⟩ := map_eq_some_iff.1 hstep
    have hseating := Reservation.seating_of_step hres
    rcases result with reservation | - | - <;> obtain ⟨⟩ := heq <;> exact hseating
  · cases hstep
    split_ifs <;> exact .keep (some .observer)
  · cases hstep
    exact .keep (some .observer)
  · rename_i how
    obtain ⟨rfl, rfl⟩ := Prod.mk.inj (Option.some.inj hstep)
    simp only [StreamPhase.seat?]
    split_ifs
    · exact .leave
    · exact .keep none
  · cases hstep

/-- **What a step of a `SubmitCommands` call can be.** -/
inductive SubmitPhase.Steps (slots : SessionSlots) :
    SubmitPhase → SessionAction → SessionSlots → SubmitPhase → Prop
  | cancelled : Steps slots .created .cancelled slots .deleted
  | accept (wired : Bool) :
    Steps slots .created (.acceptSubmit wired) slots
      (if wired then .claiming else .finishing .commandPathNotWired)
  | claim :
    Steps slots .claiming .claim slots.tryClaimAiSlot.2
      (if slots.tryClaimAiSlot.1 then .reading else .finishing .aiSlotAlreadyClaimed)
  | finish (how : SubmitFinish) :
    Steps slots .reading (.finishSubmit how) slots (.finishing (.finished how))
  | delete (how : SubmitEnd) :
    Steps slots (.finishing how) .delete
      (if how.claimed then slots.releaseAiSlot else slots) .deleted

theorem SubmitPhase.steps_of_step {phase phase' : SubmitPhase}
    (hstep : phase.step slots action = some (slots', phase')) :
    SubmitPhase.Steps slots phase action slots' phase' := by
  unfold SubmitPhase.step at hstep
  split at hstep
  · cases hstep
    exact .cancelled
  · cases hstep
    exact .accept _
  · cases hstep
    exact .claim
  · cases hstep
    exact .finish _
  · cases hstep
    exact .delete _
  · cases hstep

/-- A submission takes and returns its own seat. -/
theorem SubmitPhase.seating_of_step {phase phase' : SubmitPhase}
    (hstep : phase.step slots action = some (slots', phase')) :
    Seating slots phase.seat? slots' phase'.seat? := by
  obtain _ | wired | _ | how | how := SubmitPhase.steps_of_step hstep
  · exact .keep none
  · split_ifs <;> exact .keep none
  · have hseating := slots.seating_tryClaimAiSlot
    split_ifs at hseating ⊢ <;> exact hseating
  · exact .keep (some .ai)
  · simp only [SubmitPhase.seat?]
    split_ifs
    · exact .abdicate
    · exact .keep none

namespace SessionCall

/-- A step of a call is a step of its phase. -/
theorem step_cases {call call' : SessionCall}
    (hstep : call.step slots action = some (slots', call')) :
    (∃ phase phase', call = .hello phase ∧ call' = .hello phase' ∧
        phase.step slots action = some (slots', phase')) ∨
      (∃ phase phase', call = .streamState phase ∧ call' = .streamState phase' ∧
        phase.step slots action = some (slots', phase')) ∨
      ∃ phase phase', call = .submitCommands phase ∧ call' = .submitCommands phase' ∧
        phase.step slots action = some (slots', phase') := by
  rcases call with phase | phase | phase
  all_goals
    obtain ⟨⟨slots₁, phase'⟩, hphase, heq⟩ := map_eq_some_iff.1 hstep
    cases heq
  · exact Or.inl ⟨phase, phase', rfl, rfl, hphase⟩
  · exact Or.inr (Or.inl ⟨phase, phase', rfl, rfl, hphase⟩)
  · exact Or.inr (Or.inr ⟨phase, phase', rfl, rfl, hphase⟩)

theorem seating_of_step {call call' : SessionCall}
    (hstep : call.step slots action = some (slots', call')) :
    Seating slots call.seat? slots' call'.seat? := by
  obtain ⟨phase, phase', rfl, rfl, hphase⟩ | ⟨phase, phase', rfl, rfl, hphase⟩ |
    ⟨phase, phase', rfl, rfl, hphase⟩ := step_cases hstep
  · exact HelloPhase.seating_of_step hphase
  · exact StreamPhase.seating_of_step hphase
  · exact SubmitPhase.seating_of_step hphase

/-- A newly registered call is in its first phase. -/
theorem mem_replacement {call : SessionCall} (h : call ∈ replacement action) :
    call = .hello .created ∨ call = .streamState .created ∨ call = .submitCommands .created := by
  unfold replacement at h
  split at h
  · exact Or.inl (mem_singleton.1 h)
  · exact Or.inr (Or.inl (mem_singleton.1 h))
  · exact Or.inr (Or.inr (mem_singleton.1 h))
  · cases h

end SessionCall

namespace Sessions

variable {s t : Sessions}

/-! ### The registers count the seats -/

/-- The call holds a seat of this kind. -/
def holds (seat : Seat) (call : SessionCall) : Bool := call.seat? == some seat

/-- The number of calls with a seat of this kind. -/
def seats (s : Sessions) (seat : Seat) : ℕ := s.calls.countP (holds seat)

/-- **The invariant**: the registers count the seats that are held. -/
structure Counted (s : Sessions) : Prop where
  observers : s.slots.observerCount = s.seats .observer
  observers_le : s.slots.observerCount ≤ observerHardCap
  ai : s.seats .ai = s.slots.aiSlotTaken.toNat

/-- What a step does, as a step of one call. -/
theorem step_eq_some {i : ℕ} {action : SessionAction} (hstep : s.step (i, action) = some t) :
    ∃ call call', s.calls[i]? = some call ∧ call.step s.slots action = some (t.slots, call') ∧
      t.calls = s.calls.set i call' ++ SessionCall.replacement action := by
  obtain ⟨call, hcall, hmap⟩ := bind_eq_some_iff.1 hstep
  obtain ⟨⟨slots, call'⟩, hmove, heq⟩ := map_eq_some_iff.1 hmap
  obtain rfl : _ = t := heq
  exact ⟨call, call', hcall, hmove, rfl⟩

/-- A step counts its call's old seat out and its new seat in. -/
theorem seats_step {i : ℕ} {action : SessionAction} {call call' : SessionCall}
    (hcall : s.calls[i]? = some call)
    (hcalls : t.calls = s.calls.set i call' ++ SessionCall.replacement action) (seat : Seat) :
    t.seats seat + (holds seat call).toNat = s.seats seat + (holds seat call').toNat := by
  have hnew : (SessionCall.replacement action).countP (holds seat) = 0 := by
    refine countP_eq_zero.2 fun call hmem ↦ ?_
    rcases SessionCall.mem_replacement hmem with rfl | rfl | rfl <;> exact Bool.false_ne_true
  rw [seats, hcalls, countP_append, hnew]
  exact countP_set_add call' hcall

/-- A step that moves one seat keeps the count. -/
theorem Counted.of_seating (h : s.Counted) {old new : Option Seat}
    (hseating : Seating s.slots old t.slots new)
    (hseats : ∀ seat, t.seats seat + (old == some seat).toNat =
      s.seats seat + (new == some seat).toNat) : t.Counted := by
  have hobservers := h.observers
  have hle := h.observers_le
  have hai := h.ai
  generalize hslots : t.slots = slots' at hseating
  cases hseating with
  | keep seat =>
    have hsame : ∀ seat, t.seats seat = s.seats seat :=
      fun seat ↦ Nat.add_right_cancel (hseats seat)
    exact ⟨by rw [hslots, hsame, hobservers], by rw [hslots]; exact hle, by rw [hslots, hsame, hai]⟩
  | reserve hroom =>
    have hmore : t.seats .observer = s.seats .observer + 1 := hseats .observer
    have hsame : t.seats .ai = s.seats .ai := hseats .ai
    exact ⟨by rw [hslots, hmore, ← hobservers], by rw [hslots]; exact hroom,
      by rw [hslots, hsame, hai]⟩
  | leave =>
    have hless : t.seats .observer + 1 = s.seats .observer := hseats .observer
    have hsame : t.seats .ai = s.seats .ai := hseats .ai
    -- the leaving call is counted, so the register is not zero and the decrement does not wrap
    have hrelease : s.slots.releaseObserverSlot.observerCount = s.slots.observerCount - 1 := by
      have hcap : observerHardCap < 2 ^ 32 := by decide
      exact wrapSub_of_le (by omega) (by omega)
    refine ⟨?_, ?_, ?_⟩
    · rw [hslots, hrelease]
      omega
    · rw [hslots, hrelease]
      omega
    · rw [hslots, SessionSlots.releaseObserverSlot_aiSlotTaken, hsame, hai]
  | claim hfree =>
    have hsame : t.seats .observer = s.seats .observer := hseats .observer
    have hmore : t.seats .ai = s.seats .ai + 1 := hseats .ai
    rw [hfree] at hai
    exact ⟨by rw [hslots, hsame]; exact hobservers, by rw [hslots]; exact hle,
      by rw [hslots, hmore, hai]; rfl⟩
  | abdicate =>
    have hsame : t.seats .observer = s.seats .observer := hseats .observer
    have hless : t.seats .ai + 1 = s.seats .ai := hseats .ai
    have hone := Bool.toNat_le s.slots.aiSlotTaken
    refine ⟨by rw [hslots, hsame]; exact hobservers, by rw [hslots]; exact hle, ?_⟩
    rw [hslots]
    show t.seats .ai = 0
    omega

/-- Every step keeps the count. -/
theorem Counted.step (h : s.Counted) {label : ℕ × SessionAction} (hstep : s.step label = some t) :
    t.Counted := by
  obtain ⟨i, action⟩ := label
  obtain ⟨call, call', hcall, hmove, hcalls⟩ := step_eq_some hstep
  exact h.of_seating (SessionCall.seating_of_step hmove) (seats_step hcall hcalls)

/-- **The slots count the sessions** in every reachable state. -/
theorem counted_of_exec {labels : List (ℕ × SessionAction)}
    (hrun : machine.exec machine.init labels = some s) : s.Counted :=
  StepMachine.invariant_of_exec (fun _ _ _ h hstep ↦ h.step hstep)
    (show machine.init.Counted from ⟨rfl, by decide, rfl⟩) hrun

/-- The AI's register says whether its seat is held. -/
theorem Counted.aiSlotTaken_iff (h : s.Counted) :
    s.slots.aiSlotTaken = true ↔ ∃ call ∈ s.calls, call.seat? = some .ai := by
  have hpos : ∀ b : Bool, b = true ↔ 0 < b.toNat := by decide
  rw [hpos, ← h.ai, seats, countP_pos_iff]
  exact exists_congr fun call ↦ and_congr_right fun _ ↦ beq_iff_eq

/-! ### What the registers say -/

/-- A `SubmitCommands` call past its claim and not yet deleted. -/
def isAiSession : SessionCall → Bool
  | .submitCommands phase => phase.seat?.isSome
  | _ => false

/-- A `StreamState` call that holds a reservation. -/
def isObserverSession : SessionCall → Bool
  | .streamState phase => phase.seat?.isSome
  | _ => false

/-- **The caps.** -/
structure WithinCaps (s : Sessions) : Prop where
  /-- There is at most one AI session. -/
  ai_le_one : s.calls.countP isAiSession ≤ 1
  /-- The AI's register says whether there is one, or a `Hello` that is just looking. -/
  ai_taken_iff : s.slots.aiSlotTaken = true ↔
    (∃ call ∈ s.calls, isAiSession call = true) ∨ SessionCall.hello .claimed ∈ s.calls
  /-- The observers' register counts the sessions and the `Hello`s that are just looking. -/
  observer_count : s.slots.observerCount =
    s.calls.countP isObserverSession + s.calls.count (.hello .reserved)
  observer_le : s.slots.observerCount ≤ observerHardCap
  /-- Whoever has a seat to give back finds the register above zero. -/
  leave_pos : ∀ call ∈ s.calls, call.seat? = some .observer → 0 < s.slots.observerCount

/-- A seat of the AI is held by a session or by a `Hello` between its claim and release. -/
theorem seat?_eq_ai_iff (call : SessionCall) :
    call.seat? = some .ai ↔ isAiSession call = true ∨ call = .hello .claimed := by
  rcases call with phase | phase | phase
  · rcases phase <;> simp [SessionCall.seat?, HelloPhase.seat?, isAiSession]
  · rcases phase with - | - | - | - | how | -
    case finishing => rcases how <;> simp [SessionCall.seat?, StreamPhase.seat?, isAiSession,
      StreamEnd.reserved]
    all_goals simp [SessionCall.seat?, StreamPhase.seat?, isAiSession]
  · rcases phase with - | - | - | how | -
    case finishing => rcases how <;> simp [SessionCall.seat?, SubmitPhase.seat?, isAiSession,
      SubmitEnd.claimed]
    all_goals simp [SessionCall.seat?, SubmitPhase.seat?, isAiSession]

/-- An observer's seat is held by a session or by a `Hello` between its reserve and release. -/
theorem holds_observer_eq (call : SessionCall) :
    (holds .observer call).toNat =
      (isObserverSession call).toNat + (call == .hello .reserved).toNat := by
  rcases call with phase | phase | phase
  · rcases phase <;> rfl
  · rcases phase with - | - | - | - | how | -
    case finishing => rcases how <;> rfl
    all_goals rfl
  · rcases phase with - | - | - | how | -
    case finishing => rcases how <;> rfl
    all_goals rfl

/-- **The session caps hold in every state of every run**, whichever way each call is refused,
finished or cancelled. -/
theorem session_caps {labels : List (ℕ × SessionAction)}
    (hrun : machine.exec machine.init labels = some s) : s.WithinCaps := by
  have hcounted := counted_of_exec hrun
  refine ⟨?_, ?_, ?_, hcounted.observers_le, fun call hmem hseat ↦ ?_⟩
  · calc s.calls.countP isAiSession
        ≤ s.seats .ai := countP_mono_left fun call _ hcall ↦
          beq_iff_eq.2 ((seat?_eq_ai_iff call).2 (Or.inl hcall))
      _ ≤ 1 := hcounted.ai ▸ Bool.toNat_le _
  · rw [hcounted.aiSlotTaken_iff]
    constructor
    · rintro ⟨call, hmem, hseat⟩
      rcases (seat?_eq_ai_iff call).1 hseat with hsession | rfl
      · exact Or.inl ⟨call, hmem, hsession⟩
      · exact Or.inr hmem
    · rintro (⟨call, hmem, hsession⟩ | hmem)
      · exact ⟨call, hmem, (seat?_eq_ai_iff call).2 (Or.inl hsession)⟩
      · exact ⟨_, hmem, rfl⟩
  · rw [hcounted.observers]
    exact countP_eq_add holds_observer_eq s.calls
  · rw [hcounted.observers]
    exact countP_pos_iff.2 ⟨call, hmem, beq_iff_eq.2 hseat⟩

/-- Four observers, a fifth that is refused, an AI session, and an AI `Hello` that finds it. -/
def fullHouse : List (ℕ × SessionAction) :=
  let observer (i : ℕ) : List (ℕ × SessionAction) :=
    [(i, .acceptStream), (i, .load), (i, .compareExchange true), (i, .load),
      (i, .compareExchange false), (i, .checkHandles true)]
  observer 1 ++ observer 3 ++ observer 4 ++ observer 5 ++ [(6, .acceptStream), (6, .load)] ++
    [(2, .acceptSubmit true), (2, .claim), (0, .acceptHello true true), (0, .claim)]

theorem session_caps_fullHouse :
    ∃ s, machine.exec machine.init fullHouse = some s ∧ s.slots = ⟨4, true⟩ ∧
      s.calls[6]? = some (.streamState (.finishing .observerCapReached)) ∧
      s.calls[0]? = some (.hello (.finishing .aiSlotAlreadyClaimed)) ∧ s.WithinCaps := by
  obtain ⟨s, hrun, hslots, hstream, hhello⟩ : ∃ s, machine.exec machine.init fullHouse = some s ∧
      s.slots = ⟨4, true⟩ ∧ s.calls[6]? = some (.streamState (.finishing .observerCapReached)) ∧
      s.calls[0]? = some (.hello (.finishing .aiSlotAlreadyClaimed)) := ⟨_, rfl, rfl, rfl, rfl⟩
  exact ⟨s, hrun, hslots, hstream, hhello, session_caps hrun⟩

end Sessions

end HighBar.Grpc
