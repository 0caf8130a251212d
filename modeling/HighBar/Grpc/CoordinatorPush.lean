import HighBar.Library.FixedWidth
import HighBar.Library.StepMachine
import HighBar.Proto.State
import Mathlib.Algebra.Order.Group.Multiset
import Mathlib.Tactic.Abel

/-!
# The coordinator's push stream

The engine thread hands state updates to `PushStateUpdate`, which queues them and drops the oldest
when the queue is full. `PushWorkerLoop` takes one update at a time from the queue, opens the stream
if it is not open, and writes. Opening and writing may fail at any time, and then the update in hand
is gone: the worker goes on with the next one.

## The ledger

An update leaves the queue in one of two ways, and once the worker holds it there are two ends for
it. The machine keeps a list for each, so the ledger is an equation between multisets: what was
pushed is what was **written**, what is **held**, what is **queued**, what was **dropped** and what
was **lost** (`Accounted`). Each step moves one update from one list to the next.

Order is the other half. What was written, what is held and what is queued are, in this order, a
**subsequence** of what was pushed, because the queue is first in first out and there is one worker.

Both halves are before `push_stopping_` is set: the tests of it are not taken here.
-/

namespace HighBar.Grpc

open List Option

/-- `kMaxQueuedPushUpdates`. -/
def kMaxQueuedPushUpdates : ℕ := 256

/-- How far the worker is in its loop. -/
inductive PushPhase (π : Type*) where
  /-- In the wait for an update. -/
  | waiting
  /-- An update was popped; the stream may have to be opened. -/
  | popped (update : StateUpdate π)
  /-- There is a writer. -/
  | writing (update : StateUpdate π)
deriving Repr, DecidableEq

/-- The update the worker holds. -/
def PushPhase.held {π : Type*} : PushPhase π → List (StateUpdate π)
  | .waiting => []
  | .popped update | .writing update => [update]

/-- An update as it was written: on which stream, and with which `send_monotonic_ns`. -/
structure WrittenUpdate (π : Type*) where
  update : StateUpdate π
  stream : ℕ
  sendMonotonicNs : ℕ
deriving Repr, DecidableEq

/-- A call that failed. -/
inductive PushFailure where
  | openFailed
  | writeFailed
deriving Repr, DecidableEq

/-- The push side of `CoordinatorClient`. -/
structure PushWorker (π : Type*) where
  /-- `push_queue_`. -/
  queue : List (StateUpdate π)
  phase : PushPhase π
  /-- `push_stream_open_`. -/
  streamOpen : Bool
  /-- `push_writer_`: the number of its stream, or null. -/
  writer : Option ℕ
  /-- How many streams were opened. -/
  streams : ℕ
  /-- `pushed_count_`. -/
  pushedCount : ℕ
  /-- `push_dropped_count_`. -/
  droppedCount : ℕ
  /-- Every update handed to `PushStateUpdate`, oldest first. -/
  pushed : List (StateUpdate π)
  /-- Every update that was written, oldest first. -/
  written : List (WrittenUpdate π)
  /-- Every update that was dropped on overflow, oldest first. -/
  dropped : List (StateUpdate π)
  /-- Every call of `PushState` and of `Write` that failed, oldest first. -/
  failures : List PushFailure
  /-- Every update that the worker gave up, with the call it puts that down to, oldest first. -/
  lost : List (StateUpdate π × PushFailure)
deriving Repr, DecidableEq

/-- One step of the engine thread or of the worker. -/
inductive PushLabel (π : Type*) where
  /-- `PushStateUpdate`. -/
  | push (update : StateUpdate π)
  /-- The wait is over: the worker pops the front. -/
  | pop
  /-- `OpenPushStateStream`, if the stream is not open; `hasWriter` is what `PushState` returned. -/
  | openStream (hasWriter : Bool)
  /-- `Write`, at a time of the clock. -/
  | write (ok : Bool) (monotonicNs : ℕ)
deriving Repr, DecidableEq

namespace PushWorker

variable {π : Type*}

/-- `PushStateUpdate`; the flag is what it returns. -/
def pushStateUpdate (s : PushWorker π) (update : StateUpdate π) : Bool × PushWorker π :=
  if kMaxQueuedPushUpdates ≤ s.queue.length then
    -- the oldest goes, and `dropped` is the new total
    (decide (wrapAdd 64 s.droppedCount 1 = 0),
      { s with
        queue := s.queue.drop 1 ++ [update]
        droppedCount := wrapAdd 64 s.droppedCount 1
        dropped := s.dropped ++ s.queue.take 1
        pushed := s.pushed ++ [update] })
  else (true, { s with queue := s.queue ++ [update], pushed := s.pushed ++ [update] })

/-- `OpenPushStateStream`. -/
def openPushStateStream (s : PushWorker π) (hasWriter : Bool) : PushWorker π :=
  if s.streamOpen then s
  else if hasWriter then
    { s with writer := some s.streams, streams := s.streams + 1, streamOpen := true }
  else { s with writer := none, failures := s.failures ++ [.openFailed] }

/-- `ClosePushStateStream`. -/
def closePushStateStream (s : PushWorker π) : PushWorker π :=
  if s.streamOpen then { s with streamOpen := false, writer := none } else s

/-- The worker gives up the update it holds. -/
def giveUp (s : PushWorker π) (update : StateUpdate π) (failure : PushFailure) : PushWorker π :=
  { s with phase := .waiting, lost := s.lost ++ [(update, failure)] }

/-- One step. -/
def step (s : PushWorker π) : PushLabel π → Option (PushWorker π)
  | .push update => some (s.pushStateUpdate update).2
  | .pop =>
    match s.phase, s.queue with
    | .waiting, update :: rest => some { s with queue := rest, phase := .popped update }
    | _, _ => none
  | .openStream hasWriter =>
    match s.phase with
    | .popped update =>
      let opened := if s.streamOpen then s else s.openPushStateStream hasWriter
      if opened.writer = none then some (opened.giveUp update .openFailed)
      else some { opened with phase := .writing update }
    | _ => none
  | .write ok monotonicNs =>
    match s.phase, s.writer with
    | .writing update, some stream =>
      if ok then
        some
          { s with
            phase := .waiting
            pushedCount := wrapAdd 64 s.pushedCount 1
            written := s.written ++ [⟨update, stream, monotonicNs⟩] }
      else
        let failed : PushWorker π := { s with failures := s.failures ++ [.writeFailed] }
        some (failed.closePushStateStream.giveUp update .writeFailed)
    | _, _ => none

/-- The client as it is built. -/
def machine (π : Type*) : StepMachine (PushWorker π) (PushLabel π) where
  init :=
    { queue := []
      phase := .waiting
      streamOpen := false
      writer := none
      streams := 0
      pushedCount := 0
      droppedCount := 0
      pushed := []
      written := []
      dropped := []
      failures := []
      lost := [] }
  step := step

/-! ### One step, inverted -/

variable {s t : PushWorker π} {label : PushLabel π}

/-- The stream is open exactly while there is a writer, and a write has one. -/
structure Connected (s : PushWorker π) : Prop where
  streamOpen_iff : s.streamOpen = true ↔ s.writer ≠ none
  writing : ∀ update, s.phase = .writing update → s.writer ≠ none

/-- What a step moves: the parts of the state that hold updates. -/
inductive Moves (s : PushWorker π) : PushLabel π → PushWorker π → Prop
  | push (update : StateUpdate π) {t : PushWorker π} (hroom : s.queue.length < 256)
      (ht : t = { s with queue := s.queue ++ [update], pushed := s.pushed ++ [update] }) :
    Moves s (.push update) t
  | overflow (update oldest : StateUpdate π) (rest : List (StateUpdate π)) {t : PushWorker π}
      (hqueue : s.queue = oldest :: rest) (hfull : 256 ≤ s.queue.length)
      (ht : t = { s with
        queue := rest ++ [update]
        droppedCount := wrapAdd 64 s.droppedCount 1
        dropped := s.dropped ++ [oldest]
        pushed := s.pushed ++ [update] }) : Moves s (.push update) t
  | pop (update : StateUpdate π) (rest : List (StateUpdate π)) {t : PushWorker π}
      (hphase : s.phase = .waiting) (hqueue : s.queue = update :: rest)
      (ht : t = { s with queue := rest, phase := .popped update }) : Moves s .pop t
  | opened (update : StateUpdate π) (hasWriter : Bool) {t : PushWorker π} (writer streams : ℕ)
      (hphase : s.phase = .popped update)
      (ht : t = { s with
        phase := .writing update
        writer := some writer
        streams := streams
        streamOpen := true }) : Moves s (.openStream hasWriter) t
  | openFailed (update : StateUpdate π) (hasWriter : Bool) {t : PushWorker π}
      (hphase : s.phase = .popped update)
      (ht : t = { s with
        phase := .waiting
        writer := none
        streamOpen := false
        failures := s.failures ++ [.openFailed]
        lost := s.lost ++ [(update, .openFailed)] }) : Moves s (.openStream hasWriter) t
  | written (update : StateUpdate π) (stream monotonicNs : ℕ) {t : PushWorker π}
      (hphase : s.phase = .writing update)
      (ht : t = { s with
        phase := .waiting
        pushedCount := wrapAdd 64 s.pushedCount 1
        written := s.written ++ [⟨update, stream, monotonicNs⟩] }) :
    Moves s (.write true monotonicNs) t
  | writeFailed (update : StateUpdate π) (monotonicNs : ℕ) {t : PushWorker π}
      (hphase : s.phase = .writing update)
      (ht : t = { s with
        phase := .waiting
        writer := none
        streamOpen := false
        failures := s.failures ++ [.writeFailed]
        lost := s.lost ++ [(update, .writeFailed)] }) : Moves s (.write false monotonicNs) t

/-- Every step of a connected client is one of the moves. -/
theorem moves_of_step (hs : s.Connected) (hstep : s.step label = some t) : Moves s label t := by
  cases label with
  | push update =>
    cases hstep
    rw [pushStateUpdate, kMaxQueuedPushUpdates]
    split_ifs with hfull
    · rcases hqueue : s.queue with - | ⟨oldest, rest⟩
      · simp [hqueue] at hfull
      · exact .overflow update oldest rest hqueue hfull rfl
    · exact .push update (Nat.lt_of_not_le hfull) rfl
  | pop =>
    simp only [step] at hstep
    split at hstep
    · rename_i update rest hphase hqueue
      exact .pop update rest hphase hqueue (Option.some.inj hstep).symm
    · cases hstep
  | openStream hasWriter =>
    simp only [step] at hstep
    split at hstep
    swap
    · cases hstep
    rename_i update hphase
    rcases hopen : s.streamOpen with - | -
    · rcases hasWriter with - | -
      · refine .openFailed update false hphase ?_
        simp only [hopen, openPushStateStream, giveUp] at hstep
        exact (Option.some.inj hstep).symm
      · refine .opened update true s.streams (s.streams + 1) hphase ?_
        simp only [hopen, openPushStateStream] at hstep
        exact (Option.some.inj hstep).symm
    · obtain ⟨writer, hwriter⟩ := ne_none_iff_exists'.1 (hs.streamOpen_iff.1 hopen)
      refine .opened update hasWriter writer s.streams hphase ?_
      simp only [hopen, if_true, hwriter, reduceCtorEq, if_false] at hstep
      exact (Option.some.inj hstep).symm
  | write ok monotonicNs =>
    simp only [step] at hstep
    split at hstep
    swap
    · cases hstep
    rename_i update stream hphase hwriter
    rcases ok with - | -
    · have hopen := hs.streamOpen_iff.2 (hwriter ▸ some_ne_none stream)
      refine .writeFailed update monotonicNs hphase ?_
      simp only [closePushStateStream, hopen, giveUp] at hstep
      exact (Option.some.inj hstep).symm
    · exact .written update stream monotonicNs hphase (Option.some.inj hstep).symm

theorem Connected.of_moves (hs : s.Connected) (hmoves : Moves s label t) : t.Connected := by
  obtain ⟨hopen, hwriting⟩ := hs
  rcases hmoves with ⟨_, -, rfl⟩ | ⟨_, _, _, -, -, rfl⟩ | ⟨_, _, -, -, rfl⟩ |
    ⟨_, _, _, _, -, rfl⟩ | ⟨_, _, -, rfl⟩ | ⟨_, _, _, -, rfl⟩ | ⟨_, _, -, rfl⟩
  · exact ⟨hopen, hwriting⟩
  · exact ⟨hopen, hwriting⟩
  · exact ⟨hopen, by simp⟩
  · exact ⟨by simp, by simp⟩
  · exact ⟨by simp, by simp⟩
  · exact ⟨hopen, by simp⟩
  · exact ⟨by simp, by simp⟩

/-! ### Where every update is -/

/-- The updates that went through in order: written, then in hand, then waiting. -/
def passed (s : PushWorker π) : List (StateUpdate π) :=
  s.written.map WrittenUpdate.update ++ s.phase.held ++ s.queue

/-- The queue is the end of what was pushed. -/
theorem suffix_of_moves (hs : s.queue <:+ s.pushed) (hmoves : Moves s label t) :
    t.queue <:+ t.pushed := by
  rcases hmoves with ⟨update, -, rfl⟩ | ⟨update, oldest, rest, hqueue, -, rfl⟩ |
    ⟨update, rest, -, hqueue, rfl⟩ | ⟨_, _, _, _, -, rfl⟩ | ⟨_, _, -, rfl⟩ | ⟨_, _, _, -, rfl⟩ |
    ⟨_, _, -, rfl⟩
  · exact (suffix_append_self_iff).2 hs
  · rw [hqueue] at hs
    exact (suffix_append_self_iff).2 ((suffix_cons oldest rest).trans hs)
  · rw [hqueue] at hs
    exact (suffix_cons update rest).trans hs
  all_goals exact hs

/-- The queue never outgrows its bound. -/
theorem bounded_of_moves (hs : s.queue.length ≤ kMaxQueuedPushUpdates)
    (hmoves : Moves s label t) : t.queue.length ≤ kMaxQueuedPushUpdates := by
  rcases hmoves with ⟨update, hroom, rfl⟩ | ⟨update, oldest, rest, hqueue, -, rfl⟩ |
    ⟨update, rest, -, hqueue, rfl⟩ | ⟨_, _, _, _, -, rfl⟩ | ⟨_, _, -, rfl⟩ | ⟨_, _, _, -, rfl⟩ |
    ⟨_, _, -, rfl⟩
  · show (s.queue ++ [update]).length ≤ 256
    rw [length_append, length_singleton]
    exact hroom
  · simpa [hqueue] using hs
  · rw [hqueue, length_cons] at hs
    exact (Nat.le_succ _).trans hs
  all_goals exact hs

/-- What a move does to the account: it enters an update at the end, with or without dropping one
that waits, moves one on, or takes the one in hand out as lost. -/
inductive Books (s t : PushWorker π) : Prop
  | entered (update : StateUpdate π) (hpushed : t.pushed = s.pushed ++ [update])
      (hpassed : t.passed = s.passed ++ [update])
      (hdropped : t.dropped = s.dropped ∧ t.droppedCount = s.droppedCount)
      (hlost : t.lost = s.lost ∧ t.failures = s.failures)
  | dropped (update oldest : StateUpdate π) (before : List (StateUpdate π))
      (rest : List (StateUpdate π)) (hrest : 255 ≤ rest.length)
      (hpushed : t.pushed = s.pushed ++ [update])
      (hpassed : s.passed = before ++ oldest :: rest ∧ t.passed = before ++ rest ++ [update])
      (hdropped : t.dropped = s.dropped ++ [oldest] ∧
        t.droppedCount = wrapAdd 64 s.droppedCount 1)
      (hlost : t.lost = s.lost ∧ t.failures = s.failures)
  | moved (hpushed : t.pushed = s.pushed) (hpassed : t.passed = s.passed)
      (hdropped : t.dropped = s.dropped ∧ t.droppedCount = s.droppedCount)
      (hlost : t.lost = s.lost ∧ t.failures = s.failures)
  | lost (update : StateUpdate π) (failure : PushFailure) (before rest : List (StateUpdate π))
      (hpushed : t.pushed = s.pushed)
      (hpassed : s.passed = before ++ update :: rest ∧ t.passed = before ++ rest)
      (hdropped : t.dropped = s.dropped ∧ t.droppedCount = s.droppedCount)
      (hlost : t.lost = s.lost ++ [(update, failure)] ∧ t.failures = s.failures ++ [failure])

/-- What each move writes into the books. -/
theorem books_of_moves (hmoves : Moves s label t) : Books s t := by
  rcases hmoves with ⟨update, -, rfl⟩ | ⟨update, oldest, rest, hqueue, hfull, rfl⟩ |
    ⟨update, rest, hphase, hqueue, rfl⟩ | ⟨update, _, _, _, hphase, rfl⟩ |
    ⟨update, _, hphase, rfl⟩ | ⟨update, _, _, hphase, rfl⟩ | ⟨update, _, hphase, rfl⟩
  · exact .entered update rfl (by simp [passed]) ⟨rfl, rfl⟩ ⟨rfl, rfl⟩
  · refine .dropped update oldest (s.written.map WrittenUpdate.update ++ s.phase.held) rest ?_ rfl
      ⟨by rw [passed, hqueue], by simp [passed]⟩ ⟨rfl, rfl⟩ ⟨rfl, rfl⟩
    rw [hqueue, length_cons] at hfull
    omega
  · exact .moved rfl (by simp [passed, hphase, hqueue, PushPhase.held]) ⟨rfl, rfl⟩ ⟨rfl, rfl⟩
  · exact .moved rfl (by simp [passed, hphase, PushPhase.held]) ⟨rfl, rfl⟩ ⟨rfl, rfl⟩
  · exact .lost update .openFailed (s.written.map WrittenUpdate.update) s.queue rfl
      (by simp [passed, hphase, PushPhase.held]) ⟨rfl, rfl⟩ ⟨rfl, rfl⟩
  · exact .moved rfl (by simp [passed, hphase, PushPhase.held]) ⟨rfl, rfl⟩ ⟨rfl, rfl⟩
  · exact .lost update .writeFailed (s.written.map WrittenUpdate.update) s.queue rfl
      (by simp [passed, hphase, PushPhase.held]) ⟨rfl, rfl⟩ ⟨rfl, rfl⟩

/-- What was written, is in hand or waits is in the order of the pushes. -/
theorem order_of_books (hs : s.passed.Sublist s.pushed) (hbooks : Books s t) :
    t.passed.Sublist t.pushed := by
  rcases hbooks with ⟨update, hpushed, hpassed, -, -⟩ |
    ⟨update, oldest, before, rest, -, hpushed, ⟨hbefore, hpassed⟩, -, -⟩ |
    ⟨hpushed, hpassed, -, -⟩ | ⟨update, failure, before, rest, hpushed, ⟨hbefore, hpassed⟩, -, -⟩
  · rw [hpushed, hpassed]
    exact hs.append_right [update]
  · rw [hbefore] at hs
    rw [hpushed, hpassed]
    exact (((sublist_cons_self oldest rest).append_left before).trans hs).append_right [update]
  · rwa [hpushed, hpassed]
  · rw [hbefore] at hs
    rw [hpushed, hpassed]
    exact ((sublist_cons_self update rest).append_left before).trans hs

/-- Each update pushed is written, in hand, waiting, dropped or lost, as often as it was pushed. -/
def Accounted (s : PushWorker π) : Prop :=
  (s.pushed : Multiset (StateUpdate π)) = ↑s.passed + ↑s.dropped + ↑(s.lost.map Prod.fst)

/-- Nothing is lost from the books. -/
theorem accounted_of_books (hs : s.Accounted) (hbooks : Books s t) : t.Accounted := by
  rw [Accounted] at hs ⊢
  rcases hbooks with ⟨update, hpushed, hpassed, ⟨hdropped, -⟩, hlost, -⟩ |
    ⟨update, oldest, before, rest, -, hpushed, ⟨hbefore, hpassed⟩, ⟨hdropped, -⟩, hlost, -⟩ |
    ⟨hpushed, hpassed, ⟨hdropped, -⟩, hlost, -⟩ |
    ⟨update, failure, before, rest, hpushed, ⟨hbefore, hpassed⟩, ⟨hdropped, -⟩, hlost, -⟩
  · rw [hpushed, hpassed, hdropped, hlost, ← Multiset.coe_add, hs, ← Multiset.coe_add]
    abel
  · rw [hbefore] at hs
    rw [hpushed, hpassed, hdropped, hlost]
    simp only [← Multiset.coe_add, ← Multiset.cons_coe, hs, ← Multiset.singleton_add]
    abel
  · rw [hpushed, hpassed, hdropped, hlost, hs]
  · rw [hbefore] at hs
    rw [hpushed, hpassed, hdropped, hlost, hs, map_append, map_singleton]
    simp only [← Multiset.coe_add, ← Multiset.cons_coe, ← Multiset.singleton_add]
    abel

theorem Accounted.length_eq (hs : s.Accounted) :
    s.pushed.length = s.passed.length + s.dropped.length + s.lost.length := by
  simpa [Nat.add_assoc] using congrArg Multiset.card hs

/-- The counter is exact as long as the pushes can be numbered by a word. -/
def Counted (s : PushWorker π) : Prop :=
  s.pushed.length ≤ 2 ^ 64 → s.droppedCount = s.dropped.length

theorem counted_of_books (haccounted : s.Accounted) (hs : s.Counted) (hbooks : Books s t) :
    t.Counted := by
  have hlength := haccounted.length_eq
  intro hwords
  rcases hbooks with ⟨update, hpushed, -, ⟨hdropped, hcount⟩, -⟩ |
    ⟨update, oldest, before, rest, hrest, hpushed, ⟨hbefore, -⟩, ⟨hdropped, hcount⟩, -⟩ |
    ⟨hpushed, -, ⟨hdropped, hcount⟩, -⟩ | ⟨update, failure, before, rest, hpushed, -,
      ⟨hdropped, hcount⟩, -⟩
  · rw [hpushed, length_append] at hwords
    rw [hcount, hdropped, hs (by omega)]
  · rw [hpushed, length_append] at hwords
    rw [hbefore, length_append, length_cons] at hlength
    rw [hcount, hdropped, hs (by omega), wrapAdd_of_lt (by omega), length_append]
    rfl
  · rw [hcount, hdropped, hs (hpushed ▸ hwords)]
  · rw [hcount, hdropped, hs (hpushed ▸ hwords)]

theorem failures_of_books (hs : s.lost.map Prod.snd = s.failures) (hbooks : Books s t) :
    t.lost.map Prod.snd = t.failures := by
  rcases hbooks with ⟨_, -, -, -, hlost, hfailures⟩ | ⟨_, _, _, _, -, -, -, -, hlost, hfailures⟩ |
    ⟨-, -, -, hlost, hfailures⟩ | ⟨update, failure, _, _, -, -, -, hlost, hfailures⟩
  · rw [hlost, hfailures, hs]
  · rw [hlost, hfailures, hs]
  · rw [hlost, hfailures, hs]
  · rw [hlost, hfailures, map_append, hs, map_singleton]

/-- The account of a state. -/
structure Ledger (s : PushWorker π) : Prop extends Connected s where
  bounded : s.queue.length ≤ kMaxQueuedPushUpdates
  suffix : s.queue <:+ s.pushed
  order : s.passed.Sublist s.pushed
  accounted : s.Accounted
  counted : s.Counted
  /-- Each update lost is put down to a failed call of its own. -/
  failures : s.lost.map Prod.snd = s.failures

theorem ledger_init : (machine π).init.Ledger where
  streamOpen_iff := by simp [machine]
  writing := by simp [machine]
  bounded := Nat.zero_le _
  suffix := suffix_rfl
  order := List.Sublist.refl _
  accounted := rfl
  counted _ := rfl
  failures := rfl

/-- **One step keeps the ledger.** -/
theorem Ledger.step (hs : s.Ledger) (hstep : (machine π).step s label = some t) : t.Ledger := by
  have hmoves := moves_of_step hs.toConnected hstep
  have hbooks := books_of_moves hmoves
  exact
    { toConnected := hs.toConnected.of_moves hmoves
      bounded := bounded_of_moves hs.bounded hmoves
      suffix := suffix_of_moves hs.suffix hmoves
      order := order_of_books hs.order hbooks
      accounted := accounted_of_books hs.accounted hbooks
      counted := counted_of_books hs.accounted hs.counted hbooks
      failures := failures_of_books hs.failures hbooks }

theorem ledger_of_exec {labels : List (PushLabel π)}
    (hrun : (machine π).exec (machine π).init labels = some s) : s.Ledger :=
  StepMachine.invariant_of_exec (fun _ _ _ hs hstep ↦ Ledger.step hs hstep) ledger_init hrun

/-! ### The run theorem -/

theorem length_le_of_increasing {updates : List (StateUpdate π)}
    (hseqs : updates.Pairwise fun a b ↦ a.seq < b.seq)
    (hwords : ∀ update ∈ updates, update.seq < 2 ^ 64) : updates.length ≤ 2 ^ 64 := by
  have hnodup : (updates.map StateUpdate.seq).Nodup :=
    pairwise_map.2 (hseqs.imp Nat.ne_of_lt)
  have hsubset : updates.map StateUpdate.seq ⊆ List.range (2 ^ 64) := by
    intro seq hseq
    obtain ⟨update, hupdate, rfl⟩ := mem_map.1 hseq
    exact mem_range.2 (hwords update hupdate)
  simpa using (hnodup.subperm hsubset).length_le

/-- The updates pushed, each found once: written, in hand, waiting, dropped or lost. -/
def whereabouts (s : PushWorker π) : List (StateUpdate π) :=
  s.passed ++ s.dropped ++ s.lost.map Prod.fst

/-- Every update is in one place. -/
theorem Accounted.perm_whereabouts (hs : s.Accounted) : s.pushed.Perm s.whereabouts := by
  rw [← Multiset.coe_eq_coe, hs, whereabouts, Multiset.coe_add, Multiset.coe_add]

/-- **The push stream keeps the order and loses nothing silently.** In every run, whatever calls
fail and however they interleave, as long as the updates pushed have increasing 64-bit numbers: the
updates written, over all the streams, have increasing numbers; the queue holds at most 256 updates
and they are the last ones pushed; and every update pushed is at exactly one place, where the
dropped ones are counted and the lost ones are paired off with the failed calls. -/
theorem push_stream_order (labels : List (PushLabel π))
    (hrun : (machine π).exec (machine π).init labels = some s)
    (hseqs : s.pushed.Pairwise fun a b ↦ a.seq < b.seq)
    (hwords : ∀ update ∈ s.pushed, update.seq < 2 ^ 64) :
    (s.written.Pairwise fun a b ↦ a.update.seq < b.update.seq) ∧
      s.queue.length ≤ 256 ∧
      s.queue <:+ s.pushed ∧
      (s.pushed.Perm s.whereabouts ∧ s.whereabouts.Nodup) ∧
      s.droppedCount = s.dropped.length ∧
      s.lost.map Prod.snd = s.failures := by
  have hledger := ledger_of_exec hrun
  have hplaced := hledger.accounted.perm_whereabouts
  have hpassed := hseqs.sublist hledger.order
  refine ⟨?_, hledger.bounded, hledger.suffix, ⟨hplaced, ?_⟩,
    hledger.counted (length_le_of_increasing hseqs hwords), hledger.failures⟩
  · rw [passed, append_assoc] at hpassed
    have hwritten := (pairwise_append.1 hpassed).1
    rwa [pairwise_map] at hwritten
  · refine hplaced.nodup_iff.1 (hseqs.imp ?_)
    rintro a b hlt rfl
    exact Nat.lt_irrefl _ hlt

/-- Four updates: the first meets a coordinator that is down, the third a stream that breaks. -/
def brokenStream : List (PushLabel Unit) :=
  [.push ⟨1, 30, ()⟩, .pop, .push ⟨2, 31, ()⟩, .openStream false, .pop, .openStream true,
    .push ⟨4, 32, ()⟩, .write true 500, .pop, .push ⟨7, 33, ()⟩, .openStream true,
    .write false 600, .pop, .openStream true, .write true 700]

theorem push_stream_order_brokenStream :
    ∃ s, (machine Unit).exec (machine Unit).init brokenStream = some s ∧
      s.written = [⟨⟨2, 31, ()⟩, 0, 500⟩, ⟨⟨7, 33, ()⟩, 1, 700⟩] ∧
      s.lost = [(⟨1, 30, ()⟩, .openFailed), (⟨4, 32, ()⟩, .writeFailed)] ∧
      (s.written.Pairwise fun a b ↦ a.update.seq < b.update.seq) ∧
      s.queue.length ≤ 256 ∧
      s.queue <:+ s.pushed ∧
      (s.pushed.Perm s.whereabouts ∧ s.whereabouts.Nodup) ∧
      s.droppedCount = s.dropped.length ∧
      s.lost.map Prod.snd = s.failures :=
  ⟨_, rfl, rfl, rfl, push_stream_order brokenStream rfl (by decide) (by decide)⟩

end PushWorker

end HighBar.Grpc
