import HighBar.Library.Counting
import HighBar.Library.StepMachine

/-!
# The lifetime of a `StreamState` call object

Two threads share one `StreamStateCallData`. The pump issues a `Write` or a `Finish` and waits for
its completion. The worker of the completion queue handles a completion in `Proceed`, in **two
steps**: it sets `op_done_` and wakes the pump, and then it tests `stage_` and deletes the object if
the stage is `kFinishing`. The destructor joins the pump.

## The gap

The comment at the test says that on `kFinishing` the pump has exited. It has not: the pump sets
`stage_` **before** it issues `Finish`, and it may do so between the two steps of the `Proceed` that
handles its last `Write`. That `Proceed` then deletes the object, and waits in the destructor for a
pump that waits for the completion of its `Finish`, which only this worker could handle
(`write_completion_deletes`).

`deleted_by_finish` proves the lifetime rules for every run in which **the pump does not set
`stage_` while the worker is between the two steps of a `Write` completion**. The invariant is a
list of the situations the two threads can be in (`Situation`).
-/

namespace HighBar.Grpc

open List Option

/-- `StreamStateCallData::Stage`. -/
inductive CallStage where
  | kCreated
  | kStreaming
  | kFinishing
deriving Repr, DecidableEq

/-- An asynchronous operation of the writer. -/
inductive StreamOp where
  | write
  | finish
deriving Repr, DecidableEq

/-- Where the pump thread is. -/
inductive PumpAt where
  /-- The thread has not been started. -/
  | absent
  /-- Between two operations of `PumpLoop`. -/
  | running
  /-- In `WriteAndWait`, past the reset of `op_done_`. -/
  | writeReset
  | writeWaiting
  /-- `WriteAndWait` returned false. -/
  | failed
  /-- In `FinishWithStatus`, past the store of `stage_`. -/
  | finishStaged
  /-- In `FinishWithStatus`, past the reset of `op_done_`. -/
  | finishReset
  | finishWaiting
  | exited
deriving Repr, DecidableEq

/-- The three parts of the pump's life. -/
inductive PumpPart where
  /-- In `PumpLoop`, before `FinishWithStatus`. -/
  | looping
  /-- In `FinishWithStatus`, before the `Finish`. -/
  | staging
  /-- Not started, or past the `Finish`. -/
  | outside
deriving Repr, DecidableEq

/-- The part of its life the pump is in. -/
def PumpAt.part : PumpAt → PumpPart
  | .running | .writeReset | .writeWaiting | .failed => .looping
  | .finishStaged | .finishReset => .staging
  | .absent | .finishWaiting | .exited => .outside

/-- Where the worker is, as far as this call is concerned. -/
inductive WorkerAt where
  | idle
  /-- In `Proceed` for a completion of `op`, before the test of `stage_`. -/
  | notified (op : StreamOp)
  /-- In the destructor. -/
  | destroying
  /-- In the destructor, at `pump_.join()`. -/
  | joining
  /-- The object is gone. -/
  | freed
deriving Repr, DecidableEq

/-- The worker is in the destructor or past it. -/
def WorkerAt.gone : WorkerAt → Bool
  | .destroying | .joining | .freed => true
  | .idle | .notified _ => false

/-- What a `Proceed` call after the first one came to. -/
structure ProceedRecord where
  op : StreamOp
  /-- It deleted the object. -/
  deleted : Bool
  /-- The operations in flight at that moment. -/
  inFlight : List StreamOp
deriving Repr, DecidableEq

/-- A `Proceed` call that keeps the rules: it deletes the object exactly if it handles the
completion of `Finish`, and then nothing is in flight. -/
def ProceedRecord.Proper (r : ProceedRecord) : Prop :=
  (r.deleted = true ↔ r.op = .finish) ∧ (r.deleted = true → r.inFlight = [])

/-- The call object, its two threads, and the `Proceed` calls so far. -/
structure StreamLifetime where
  stage : CallStage
  opDone : Bool
  opOk : Bool
  stop : Bool
  pump : PumpAt
  inFlight : List StreamOp
  worker : WorkerAt
  proceeds : List ProceedRecord
deriving Repr, DecidableEq

/-- One atomic step. -/
inductive LifetimeLabel where
  /-- `Proceed` in `kCreated` with `ok = false`. -/
  | cancelled
  /-- `Proceed` in `kCreated`: the pump is started, or the call is finished at once. -/
  | accept (admitted : Bool)
  /-- `WriteAndWait` up to the `Write`. -/
  | beginWrite
  | write
  /-- The wait in `WriteAndWait` is over. -/
  | wakeFromWrite
  /-- `stage_ = kFinishing` in `FinishWithStatus`. -/
  | setFinishing
  | resetFinish
  | finish
  /-- The wait in `FinishWithStatus` is over, and the thread ends. -/
  | wakeFromFinish
  /-- The worker takes a completion: the first step of `Proceed`. -/
  | complete (op : StreamOp) (ok : Bool)
  /-- The second step of `Proceed`. -/
  | testStage
  /-- The destructor up to the join. -/
  | stopPump
  | join
deriving Repr, DecidableEq

namespace StreamLifetime

/-- One step. -/
def step (s : StreamLifetime) : LifetimeLabel → Option StreamLifetime
  | .cancelled =>
    if s.stage = .kCreated ∧ s.worker = .idle then some { s with worker := .freed } else none
  | .accept admitted =>
    if s.stage = .kCreated ∧ s.worker = .idle then
      some
        (if admitted then { s with stage := .kStreaming, pump := .running }
        else { s with stage := .kFinishing, inFlight := s.inFlight ++ [.finish] })
    else none
  | .beginWrite =>
    if s.pump = .running then
      some { s with opDone := false, opOk := false, pump := .writeReset }
    else none
  | .write =>
    if s.pump = .writeReset then
      some { s with inFlight := s.inFlight ++ [.write], pump := .writeWaiting }
    else none
  | .wakeFromWrite =>
    if s.pump = .writeWaiting ∧ (s.opDone || s.stop) then
      some { s with pump := if s.opOk && !s.stop then .running else .failed }
    else none
  | .setFinishing =>
    if s.pump = .running ∨ s.pump = .failed then
      some { s with stage := .kFinishing, pump := .finishStaged }
    else none
  | .resetFinish =>
    if s.pump = .finishStaged then some { s with opDone := false, pump := .finishReset } else none
  | .finish =>
    if s.pump = .finishReset then
      some { s with inFlight := s.inFlight ++ [.finish], pump := .finishWaiting }
    else none
  | .wakeFromFinish =>
    if s.pump = .finishWaiting ∧ s.opDone then some { s with pump := .exited } else none
  | .complete op ok =>
    if s.worker = .idle ∧ op ∈ s.inFlight then
      some
        { s with
          inFlight := s.inFlight.erase op
          opOk := ok
          opDone := true
          worker := .notified op }
    else none
  | .testStage =>
    match s.worker with
    | .notified op =>
      some
        { s with
          worker := if s.stage = .kFinishing then .destroying else .idle
          proceeds := s.proceeds ++ [⟨op, s.stage = .kFinishing, s.inFlight⟩] }
    | _ => none
  | .stopPump =>
    if s.worker = .destroying then
      some
        (if s.pump = .absent then { s with worker := .freed }
        else { s with stop := true, worker := .joining })
    else none
  | .join =>
    if s.worker = .joining ∧ s.pump = .exited then some { s with worker := .freed } else none

/-- A call object that waits to be announced. -/
def machine : StepMachine StreamLifetime LifetimeLabel where
  init := ⟨.kCreated, false, false, false, .absent, [], .idle, []⟩
  step := step

variable {s t : StreamLifetime} {label : LifetimeLabel}

/-! ### The situations -/

/-- What is in flight while the stream is open. -/
def Writing (s : StreamLifetime) : Prop :=
  match s.pump with
  | .running | .failed => s.inFlight = []
  | .writeReset => s.inFlight = [] ∧ s.opDone = false
  | .writeWaiting => s.inFlight = [.write] ∧ s.opDone = false ∨ s.inFlight = [] ∧ s.opDone = true
  | .absent | .finishStaged | .finishReset | .finishWaiting | .exited => False

/-- **The situations the two threads can be in.** -/
inductive Situation (s : StreamLifetime) : Prop
  /-- Not announced yet, or never. -/
  | created (hstage : s.stage = .kCreated) (hpart : s.pump.part = .outside)
      (hflight : s.inFlight = []) (hstop : s.stop = false)
      (hworker : s.worker = .idle ∨ s.worker = .freed)
  /-- Open; the worker may be late with the test of an earlier `Write`. -/
  | streaming (hstage : s.stage = .kStreaming) (hwriting : s.Writing) (hstop : s.stop = false)
      (hworker : s.worker = .idle ∨ s.worker = .notified .write)
  /-- The stage is set and `Finish` is still to come. -/
  | staged (hstage : s.stage = .kFinishing) (hpart : s.pump.part = .staging)
      (hflight : s.inFlight = []) (hworker : s.worker = .idle)
  /-- `Finish` is in flight. -/
  | finishing (hstage : s.stage = .kFinishing) (hpart : s.pump.part = .outside)
      (hflight : s.inFlight = [.finish]) (hworker : s.worker = .idle)
  /-- `Finish` has completed. -/
  | finished (hstage : s.stage = .kFinishing) (hpart : s.pump.part = .outside)
      (hflight : s.inFlight = []) (hworker : s.worker = .notified .finish ∨ s.worker.gone = true)

/-- The condition on a step: the pump does not set the stage while the worker is between the two
steps of a `Write` completion. -/
def Apart (s : StreamLifetime) : LifetimeLabel → Prop
  | .setFinishing => s.worker ≠ .notified .write
  | _ => True

instance (s : StreamLifetime) : (label : LifetimeLabel) → Decidable (s.Apart label)
  | .setFinishing => inferInstanceAs (Decidable (s.worker ≠ .notified .write))
  | .cancelled | .accept _ | .beginWrite | .write | .wakeFromWrite | .resetFinish | .finish =>
    inferInstanceAs (Decidable True)
  | .wakeFromFinish | .complete _ _ | .testStage | .stopPump | .join =>
    inferInstanceAs (Decidable True)

/-! ### What a situation says -/

theorem Writing.part_eq (h : s.Writing) : s.pump.part = .looping := by
  rcases hpump : s.pump
  all_goals simp only [Writing, hpump] at h
  all_goals rfl

/-- Before the announcement there is nothing but the object. -/
theorem Situation.of_created (h : s.Situation) (hstage : s.stage = .kCreated) :
    s.pump.part = .outside ∧ s.inFlight = [] ∧ s.stop = false := by
  rcases h with ⟨-, hpart, hflight, hstop, -⟩ | ⟨hother, -, -, -⟩ | ⟨hother, -, -, -⟩ |
    ⟨hother, -, -, -⟩ | ⟨hother, -, -, -⟩
  case created => exact ⟨hpart, hflight, hstop⟩
  all_goals
    rw [hstage] at hother
    cases hother

/-- A pump in its loop writes to an open stream. -/
theorem Situation.of_looping (h : s.Situation) (hpart : s.pump.part = .looping) :
    s.stage = .kStreaming ∧ s.Writing ∧ s.stop = false ∧
      (s.worker = .idle ∨ s.worker = .notified .write) := by
  rcases h with ⟨-, hother, -, -, -⟩ | ⟨hstage, hwriting, hstop, hworker⟩ | ⟨-, hother, -, -⟩ |
    ⟨-, hother, -, -⟩ | ⟨-, hother, -, -⟩
  case streaming => exact ⟨hstage, hwriting, hstop, hworker⟩
  all_goals
    rw [hpart] at hother
    cases hother

/-- A pump that is about to finish has the writer for itself. -/
theorem Situation.of_staging (h : s.Situation) (hpart : s.pump.part = .staging) :
    s.stage = .kFinishing ∧ s.inFlight = [] ∧ s.worker = .idle := by
  rcases h with ⟨-, hother, -, -, -⟩ | ⟨-, hwriting, -, -⟩ | ⟨hstage, -, hflight, hworker⟩ |
    ⟨-, hother, -, -⟩ | ⟨-, hother, -, -⟩
  case staged => exact ⟨hstage, hflight, hworker⟩
  case streaming =>
    rw [hwriting.part_eq] at hpart
    cases hpart
  all_goals
    rw [hpart] at hother
    cases hother

/-- An operation in flight is the only one, and the object waits for it. -/
theorem Situation.of_mem_inFlight (h : s.Situation) {op : StreamOp} (hop : op ∈ s.inFlight) :
    s.inFlight = [op] ∧
      (op = .write ∧ s.pump = .writeWaiting ∧ s.stage = .kStreaming ∧ s.stop = false ∨
        op = .finish ∧ s.pump.part = .outside ∧ s.stage = .kFinishing) := by
  rcases h with ⟨-, -, hflight, -, -⟩ | ⟨hstage, hwriting, hstop, -⟩ | ⟨-, -, hflight, -⟩ |
    ⟨hstage, hpart, hflight, -⟩ | ⟨-, -, hflight, -⟩
  case streaming =>
    rcases hpump : s.pump
    all_goals simp only [Writing, hpump] at hwriting
    case writeWaiting =>
      rcases hwriting with ⟨hflight, -⟩ | ⟨hflight, -⟩
      · rw [hflight, mem_singleton] at hop
        subst hop
        exact ⟨hflight, Or.inl ⟨rfl, rfl, hstage, hstop⟩⟩
      · rw [hflight] at hop
        cases hop
    case writeReset =>
      rw [hwriting.1] at hop
      cases hop
    all_goals
      rw [hwriting] at hop
      cases hop
  case finishing =>
    rw [hflight, mem_singleton] at hop
    subst hop
    exact ⟨hflight, Or.inr ⟨rfl, hpart, hstage⟩⟩
  all_goals
    rw [hflight] at hop
    cases hop

/-- A worker that has notified the pump of a `Write` finds the stream open, and one that has
notified it of a `Finish` finds nothing in flight. -/
theorem Situation.of_notified (h : s.Situation) {op : StreamOp}
    (hworker : s.worker = .notified op) :
    op = .write ∧ s.stage = .kStreaming ∧ s.Writing ∧ s.stop = false ∨
      op = .finish ∧ s.stage = .kFinishing ∧ s.pump.part = .outside ∧ s.inFlight = [] := by
  rcases h with ⟨-, -, -, -, hother⟩ | ⟨hstage, hwriting, hstop, hother⟩ | ⟨-, -, -, hother⟩ |
    ⟨-, -, -, hother⟩ | ⟨hstage, hpart, hflight, hother⟩
  all_goals rw [hworker] at hother
  case created => rcases hother with hother | hother <;> cases hother
  case streaming =>
    rcases hother with hother | hother
    · cases hother
    · cases hother
      exact Or.inl ⟨rfl, hstage, hwriting, hstop⟩
  case staged => cases hother
  case finishing => cases hother
  case finished =>
    rcases hother with hother | hother
    · cases hother
      exact Or.inr ⟨rfl, hstage, hpart, hflight⟩
    · cases hother

/-- A worker in the destructor has found nothing in flight. -/
theorem Situation.of_gone (h : s.Situation) (hgone : s.worker.gone = true) :
    s.inFlight = [] ∧ s.pump.part = .outside ∧ (s.stage = .kFinishing ∨ s.worker = .freed) := by
  rcases h with ⟨-, hpart, hflight, -, hworker⟩ | ⟨-, -, -, hworker⟩ | ⟨-, -, -, hworker⟩ |
    ⟨-, -, -, hworker⟩ | ⟨hstage, hpart, hflight, -⟩
  case created =>
    rcases hworker with hworker | hworker
    · rw [hworker] at hgone
      cases hgone
    · exact ⟨hflight, hpart, Or.inr hworker⟩
  case finished => exact ⟨hflight, hpart, Or.inl hstage⟩
  case streaming =>
    rcases hworker with hworker | hworker <;> rw [hworker] at hgone <;> cases hgone
  all_goals
    rw [hworker] at hgone
    cases hgone

/-! ### Each step keeps to the situations -/

/-- Every step that meets the condition leads from one situation to another. -/
theorem Situation.step (h : s.Situation) (hapart : s.Apart label)
    (hstep : s.step label = some t) : t.Situation := by
  rcases label with _ | admitted | _ | _ | _ | _ | _ | _ | _ | ⟨op, ok⟩ | _ | _ | _
  case cancelled =>
    obtain ⟨⟨hstage, -⟩, ⟨⟩⟩ := ite_none_right_eq_some.1 hstep
    obtain ⟨hpart, hflight, hstop⟩ := h.of_created hstage
    exact .created hstage hpart hflight hstop (Or.inr rfl)
  case accept =>
    obtain ⟨⟨hstage, hidle⟩, heq⟩ := ite_none_right_eq_some.1 hstep
    obtain ⟨hpart, hflight, hstop⟩ := h.of_created hstage
    cases heq
    rcases admitted with - | -
    · exact .finishing rfl hpart (congrArg (· ++ [StreamOp.finish]) hflight) hidle
    · exact .streaming rfl hflight hstop (Or.inl hidle)
  case beginWrite =>
    obtain ⟨hpump, ⟨⟩⟩ := ite_none_right_eq_some.1 hstep
    obtain ⟨hstage, hwriting, hstop, hworker⟩ := h.of_looping (by rw [hpump]; rfl)
    rw [Writing, hpump] at hwriting
    exact .streaming hstage ⟨hwriting, rfl⟩ hstop hworker
  case write =>
    obtain ⟨hpump, ⟨⟩⟩ := ite_none_right_eq_some.1 hstep
    obtain ⟨hstage, hwriting, hstop, hworker⟩ := h.of_looping (by rw [hpump]; rfl)
    rw [Writing, hpump] at hwriting
    refine .streaming hstage (Or.inl ⟨?_, hwriting.2⟩) hstop hworker
    exact congrArg (· ++ [StreamOp.write]) hwriting.1
  case wakeFromWrite =>
    obtain ⟨⟨hpump, hwoken⟩, ⟨⟩⟩ := ite_none_right_eq_some.1 hstep
    obtain ⟨hstage, hwriting, hstop, hworker⟩ := h.of_looping (by rw [hpump]; rfl)
    rw [Writing, hpump] at hwriting
    -- only the completion wakes the pump here, so the `Write` is no longer in flight
    have hflight : s.inFlight = [] := by
      rcases hwriting with ⟨-, hpending⟩ | ⟨hflight, -⟩
      · rw [hpending, hstop] at hwoken
        cases hwoken
      · exact hflight
    refine .streaming hstage ?_ hstop hworker
    rcases hok : s.opOk && !s.stop with - | -
    · exact hflight
    · exact hflight
  case setFinishing =>
    obtain ⟨hpump, ⟨⟩⟩ := ite_none_right_eq_some.1 hstep
    have hpart : s.pump.part = .looping := by rcases hpump with hpump | hpump <;> rw [hpump] <;> rfl
    obtain ⟨-, hwriting, -, hworker⟩ := h.of_looping hpart
    have hflight : s.inFlight = [] := by
      rcases hpump with hpump | hpump <;> rw [Writing, hpump] at hwriting <;> exact hwriting
    exact .staged rfl rfl hflight (hworker.resolve_right hapart)
  case resetFinish =>
    obtain ⟨hpump, ⟨⟩⟩ := ite_none_right_eq_some.1 hstep
    obtain ⟨hstage, hflight, hworker⟩ := h.of_staging (by rw [hpump]; rfl)
    exact .staged hstage rfl hflight hworker
  case finish =>
    obtain ⟨hpump, ⟨⟩⟩ := ite_none_right_eq_some.1 hstep
    obtain ⟨hstage, hflight, hworker⟩ := h.of_staging (by rw [hpump]; rfl)
    exact .finishing hstage rfl (congrArg (· ++ [StreamOp.finish]) hflight) hworker
  case wakeFromFinish =>
    obtain ⟨⟨hpump, -⟩, ⟨⟩⟩ := ite_none_right_eq_some.1 hstep
    rcases h with ⟨hstage, -, hflight, hstop, hworker⟩ | ⟨-, hwriting, -, -⟩ | ⟨-, hpart, -, -⟩ |
      ⟨hstage, -, hflight, hworker⟩ | ⟨hstage, -, hflight, hworker⟩
    · exact .created hstage rfl hflight hstop hworker
    · rw [Writing, hpump] at hwriting
      exact hwriting.elim
    · rw [hpump] at hpart
      cases hpart
    · exact .finishing hstage rfl hflight hworker
    · exact .finished hstage rfl hflight hworker
  case complete =>
    obtain ⟨⟨hidle, hop⟩, ⟨⟩⟩ := ite_none_right_eq_some.1 hstep
    obtain ⟨hflight, hwait⟩ := h.of_mem_inFlight hop
    have hempty : s.inFlight.erase op = [] := by rw [hflight, erase_cons_head]
    rcases hwait with ⟨rfl, hpump, hstage, hstop⟩ | ⟨rfl, hpart, hstage⟩
    · refine .streaming hstage ?_ hstop (Or.inr rfl)
      rw [Writing, hpump]
      exact Or.inr ⟨hempty, rfl⟩
    · exact .finished hstage hpart hempty (Or.inl rfl)
  case testStage =>
    simp only [StreamLifetime.step] at hstep
    split at hstep
    · rename_i op hnotified
      cases hstep
      rcases h.of_notified hnotified with
        ⟨-, hstage, hwriting, hstop⟩ | ⟨-, hstage, hpart, hflight⟩
      · exact .streaming hstage hwriting hstop (Or.inl (by rw [hstage]; rfl))
      · exact .finished hstage hpart hflight (Or.inr (by rw [hstage]; rfl))
    · cases hstep
  case stopPump =>
    obtain ⟨hworker, heq⟩ := ite_none_right_eq_some.1 hstep
    obtain ⟨hflight, hpart, hstage⟩ := h.of_gone (by rw [hworker]; rfl)
    have hfinishing : s.stage = .kFinishing :=
      hstage.resolve_right (by rw [hworker]; exact nofun)
    cases heq
    split_ifs
    · exact .finished hfinishing hpart hflight (Or.inr rfl)
    · exact .finished hfinishing hpart hflight (Or.inr rfl)
  case join =>
    obtain ⟨⟨hworker, -⟩, ⟨⟩⟩ := ite_none_right_eq_some.1 hstep
    obtain ⟨hflight, hpart, hstage⟩ := h.of_gone (by rw [hworker]; rfl)
    exact .finished (hstage.resolve_right (by rw [hworker]; exact nofun)) hpart hflight (Or.inr rfl)

/-! ### The record -/

/-- The object has been announced, and the worker is in its destructor or past it. -/
def deleted (s : StreamLifetime) : Bool := s.worker.gone && s.stage != .kCreated

/-- The record so far: every call was proper, and as many calls deleted the object as it has been
deleted, which is at most once. -/
structure Recorded (s : StreamLifetime) : Prop where
  proper : ∀ r ∈ s.proceeds, r.Proper
  deletions : s.proceeds.countP (·.deleted) = s.deleted.toNat

theorem Recorded.of_same (h : s.Recorded) (hproceeds : t.proceeds = s.proceeds)
    (hdeleted : t.deleted = s.deleted) : t.Recorded :=
  ⟨by rw [hproceeds]; exact h.proper, by rw [hproceeds, hdeleted, h.deletions]⟩

/-- A worker that is not in the destructor has not deleted the object. -/
theorem deleted_eq_false (hgone : s.worker.gone = false) : s.deleted = false := by
  rw [deleted, hgone]
  rfl

/-- A step of, or beside, a worker that is not in the destructor. -/
theorem Recorded.of_not_gone (h : s.Recorded) (hproceeds : t.proceeds = s.proceeds)
    (hs : s.worker.gone = false) (ht : t.worker.gone = false) : t.Recorded :=
  h.of_same hproceeds ((deleted_eq_false ht).trans (deleted_eq_false hs).symm)

/-- The test of the stage. -/
theorem Recorded.testStage (h : s.Recorded) (hs : s.Situation) {op : StreamOp}
    (hworker : s.worker = .notified op) :
    Recorded
      { s with
        worker := if s.stage = .kFinishing then .destroying else .idle
        proceeds := s.proceeds ++ [⟨op, s.stage = .kFinishing, s.inFlight⟩] } := by
  have hnone : s.proceeds.countP (·.deleted) = 0 := by
    rw [h.deletions, deleted_eq_false (by rw [hworker]; rfl)]
    rfl
  have happend : ∀ r : ProceedRecord, (s.proceeds ++ [r]).countP (·.deleted) = r.deleted.toNat := by
    intro r
    rw [countP_append, hnone, countP_singleton]
    rcases r.deleted with - | - <;> rfl
  have hproper : ∀ r : ProceedRecord, r.Proper → ∀ r' ∈ s.proceeds ++ [r], r'.Proper :=
    fun _ hr ↦ forall_mem_append.2 ⟨h.proper, forall_mem_singleton.2 hr⟩
  rcases hs.of_notified hworker with ⟨rfl, hstage, -, -⟩ | ⟨rfl, hstage, -, hflight⟩
  · rw [hstage]
    exact ⟨hproper _ ⟨iff_of_false nofun nofun, nofun⟩, happend _⟩
  · rw [hstage]
    exact ⟨hproper _ ⟨iff_of_true rfl rfl, fun _ ↦ hflight⟩, happend _⟩

/-- Every step that meets the condition keeps the record proper. -/
theorem Recorded.step (h : s.Recorded) (hs : s.Situation) (hstep : s.step label = some t) :
    t.Recorded := by
  rcases label with _ | admitted | _ | _ | _ | _ | _ | _ | _ | ⟨op, ok⟩ | _ | _ | _
  case cancelled =>
    obtain ⟨⟨hstage, hidle⟩, ⟨⟩⟩ := ite_none_right_eq_some.1 hstep
    refine h.of_same rfl ?_
    rw [deleted_eq_false (s := s) (by rw [hidle]; rfl), deleted, hstage]
    rfl
  case accept =>
    obtain ⟨⟨-, hidle⟩, heq⟩ := ite_none_right_eq_some.1 hstep
    have hgone : s.worker.gone = false := by
      rw [hidle]
      rfl
    cases heq
    rcases admitted with - | -
    · exact h.of_not_gone rfl hgone hgone
    · exact h.of_not_gone rfl hgone hgone
  case setFinishing =>
    obtain ⟨hpump, ⟨⟩⟩ := ite_none_right_eq_some.1 hstep
    have hpart : s.pump.part = .looping := by rcases hpump with hpump | hpump <;> rw [hpump] <;> rfl
    obtain ⟨hstage, -⟩ := hs.of_looping hpart
    refine h.of_same rfl ?_
    rw [deleted, deleted, hstage]
    rfl
  case complete =>
    obtain ⟨⟨hidle, -⟩, ⟨⟩⟩ := ite_none_right_eq_some.1 hstep
    have hgone : s.worker.gone = false := by
      rw [hidle]
      rfl
    exact h.of_not_gone rfl hgone rfl
  case testStage =>
    simp only [StreamLifetime.step] at hstep
    split at hstep
    · cases hstep
      exact h.testStage hs ‹_›
    · cases hstep
  case stopPump =>
    obtain ⟨hworker, heq⟩ := ite_none_right_eq_some.1 hstep
    cases heq
    refine h.of_same (by split_ifs <;> rfl) ?_
    rw [deleted, deleted, hworker]
    split_ifs <;> rfl
  case join =>
    obtain ⟨⟨hworker, -⟩, ⟨⟩⟩ := ite_none_right_eq_some.1 hstep
    refine h.of_same rfl ?_
    rw [deleted, deleted, hworker]
    rfl
  all_goals
    obtain ⟨-, ⟨⟩⟩ := ite_none_right_eq_some.1 hstep
    exact h.of_same rfl rfl

/-! ### Every run -/

/-- **The lifetime rules.** -/
structure Orderly (s : StreamLifetime) : Prop where
  /-- At most one operation is in flight. -/
  in_flight : s.inFlight.length ≤ 1
  /-- The object is deleted by the `Proceed` that handles the completion of `Finish` and by no
  other, with nothing in flight. -/
  proper : ∀ r ∈ s.proceeds, r.Proper
  /-- Once announced, it is gone exactly if one `Proceed` deleted it. -/
  deleted_once : s.stage ≠ .kCreated → s.proceeds.countP (·.deleted) = s.worker.gone.toNat

/-- At most one operation is in flight. -/
theorem Situation.length_inFlight_le (h : s.Situation) : s.inFlight.length ≤ 1 := by
  rcases hflight : s.inFlight with _ | ⟨op, rest⟩
  · exact Nat.zero_le _
  · have hop : op ∈ s.inFlight := by
      rw [hflight]
      exact mem_cons_self
    rw [← hflight, (h.of_mem_inFlight hop).1]
    exact Nat.le_refl _

/-- **The object is deleted by the completion of `Finish`**, in every run in which the pump does not
set the stage while the worker is between the two steps of a `Write` completion. -/
theorem deleted_by_finish {labels : List LifetimeLabel}
    (hmeets : machine.Meets Apart machine.init labels)
    (hrun : machine.exec machine.init labels = some s) : s.Orderly := by
  have hinit : machine.init.Situation ∧ machine.init.Recorded :=
    ⟨.created rfl rfl rfl rfl (Or.inl rfl), ⟨nofun, rfl⟩⟩
  obtain ⟨hsituation, hrecorded⟩ : s.Situation ∧ s.Recorded :=
    StepMachine.invariant_of_meets (I := fun s ↦ s.Situation ∧ s.Recorded)
      (fun _ _ _ h hapart hstep ↦ ⟨h.1.step hapart hstep, h.2.step h.1 hstep⟩) hinit hmeets hrun
  refine ⟨hsituation.length_inFlight_le, hrecorded.proper, fun hstage ↦ ?_⟩
  rw [hrecorded.deletions, deleted, bne_iff_ne.2 hstage, Bool.and_true]

/-- One successful write, one that fails, and the end of the stream. -/
def writesThenFinishes : List LifetimeLabel :=
  [.accept true, .beginWrite, .write, .complete .write true, .wakeFromWrite, .testStage,
    .beginWrite, .write, .complete .write false, .testStage, .wakeFromWrite, .setFinishing,
    .resetFinish, .finish, .complete .finish true, .testStage, .stopPump, .wakeFromFinish, .join]

theorem deleted_by_finish_writesThenFinishes :
    ∃ s, machine.exec machine.init writesThenFinishes = some s ∧ s.worker = .freed ∧
      s.proceeds = [⟨.write, false, []⟩, ⟨.write, false, []⟩, ⟨.finish, true, []⟩] ∧ s.Orderly := by
  have hmeets : machine.Meets Apart machine.init writesThenFinishes := by decide
  exact ⟨_, rfl, rfl, rfl, deleted_by_finish hmeets rfl⟩

/-- The pump learns that its write failed and sets the stage before the worker's test. -/
def finishesInGap : List LifetimeLabel :=
  [.accept true, .beginWrite, .write, .complete .write false, .wakeFromWrite, .setFinishing,
    .testStage, .resetFinish, .finish, .stopPump]

/-- **The completion of a `Write` deletes the object**, and then neither thread can move: the worker
joins the pump, and the pump waits for the worker to handle its `Finish`. -/
theorem write_completion_deletes :
    ∃ s, machine.exec machine.init finishesInGap = some s ∧ ⟨.write, true, []⟩ ∈ s.proceeds ∧
      s.worker = .joining ∧ s.pump = .finishWaiting ∧ s.inFlight = [.finish] ∧
      ∀ label, s.step label = none := by
  refine ⟨_, rfl, mem_cons_self, rfl, rfl, rfl, fun label ↦ ?_⟩
  rcases label <;> rfl

end StreamLifetime

end HighBar.Grpc
