import HighBar.Library.StepMachine
import Mathlib.Algebra.Order.Ring.Int

/-!
# The scheduler of the AI

`CScheduler` keeps two lists of jobs, those to be run once at a frame and those to be run every so
many frames, and `ProcessJobs` walks over both with an iterator. A job that runs may call the
scheduler itself: what it schedules is appended to the list the iterator is walking on, and what it
removes is only noted down (`removeTasks`) and taken off the lists when the walk is over.

A call of `ProcessJobs` is a **pass**. The machine below takes it apart: each turn of a loop and
each return of a job is a step, and while a job runs any calls may come in. Each of the two lists is
split at the iterator, into the part before it and the part from it on.

Every scheduling has a number of its own, its ticket, since the same job may be scheduled more than
once. With it the state keeps the history that the contract of the scheduler is about: what was
scheduled, what was removed before it ran, what ran in which pass, and the frames of the passes that
are over. Frames are `int`s in the source; a sum that overflows is undefined there.
-/

namespace HighBar.Circuit

variable {Job : Type*} [DecidableEq Job]

/-! ### Tasks -/

/-- When a task is to be run: `OnceTask` and `RepeatTask`. -/
inductive Timing where
  | once (frame : ℤ)
  | every (frameInterval lastFrame : ℤ)
deriving Repr, DecidableEq

/-- The tests of the two loops of `ProcessJobs`. -/
def Timing.isDue (frame : ℤ) : Timing → Bool
  | .once at_ => at_ ≤ frame
  | .every frameInterval lastFrame => frameInterval ≤ frame - lastFrame

/-- `container.lastFrame = frame`. -/
def Timing.ranAt (frame : ℤ) : Timing → Timing
  | .once at_ => .once at_
  | .every frameInterval _ => .every frameInterval frame

/-- An element of a list. -/
structure Task (Job : Type*) where
  job : Job
  timing : Timing
  /-- The number of the scheduling. -/
  ticket : ℕ
  /-- The number of passes that had started when it was scheduled. -/
  born : ℕ
deriving Repr, DecidableEq

/-- The task is run once. -/
def Task.isOnce (task : Task Job) : Bool :=
  match task.timing with
  | .once _ => true
  | .every .. => false

/-! ### The history -/

/-- A job was run. -/
structure Run (Job : Type*) where
  task : Task Job
  /-- The number of the pass, and its frame. -/
  pass : ℕ
  frame : ℤ
  /-- The task was on a list when the pass started. -/
  present : Bool
  /-- `RemoveJob` had been called for the job since the task was scheduled. -/
  removed : Bool
deriving Repr, DecidableEq

/-- What has happened so far. -/
structure History (Job : Type*) where
  /-- The next ticket. -/
  tickets : ℕ := 0
  /-- The number of passes that have started. -/
  pass : ℕ := 0
  /-- The tickets that were on the lists when the last pass started. -/
  present : List ℕ := []
  /-- All that was scheduled. -/
  scheduled : List (Task Job) := []
  /-- The calls of `RemoveJob`, each with the next ticket at that time. -/
  removals : List (Job × ℕ) := []
  /-- All that was run. -/
  runs : List (Run Job) := []
  /-- The passes that are over, with their frames. -/
  finished : List (ℕ × ℤ) := []

namespace History

/-- The task of the next scheduling. -/
def task (h : History Job) (job : Job) (timing : Timing) : Task Job :=
  ⟨job, timing, h.tickets, h.pass⟩

/-- `RemoveJob` was called for the job after the task had been scheduled. -/
def isRemoved (h : History Job) (task : Task Job) : Bool :=
  h.removals.any fun removal ↦ removal.1 = task.job ∧ task.ticket < removal.2

/-- Something is scheduled. -/
def schedule (h : History Job) (job : Job) (timing : Timing) : History Job :=
  { h with tickets := h.tickets + 1, scheduled := h.scheduled ++ [h.task job timing] }

/-- A job is removed. -/
def remove (h : History Job) (job : Job) : History Job :=
  { h with removals := h.removals ++ [(job, h.tickets)] }

/-- A pass starts. -/
def start (h : History Job) (present : List ℕ) : History Job :=
  { h with pass := h.pass + 1, present := present }

/-- A job is run. -/
def run (h : History Job) (frame : ℤ) (task : Task Job) : History Job :=
  { h with
    runs := h.runs ++
      [⟨task, h.pass, frame, h.present.contains task.ticket, h.isRemoved task⟩] }

/-- A pass is over. -/
def finish (h : History Job) (frame : ℤ) : History Job :=
  { h with finished := h.finished ++ [(h.pass, frame)] }

end History

/-! ### The state -/

/-- Where `ProcessJobs` is. -/
inductive Phase (Job : Type*) where
  /-- Not in `ProcessJobs`. -/
  | idle
  /-- At the iterator of the first loop. -/
  | once
  /-- In a job of the first loop; the loop erases the task when it returns. -/
  | runningOnce (task : Task Job)
  /-- At the iterator of the second loop. -/
  | repeats
  /-- In a job of the second loop. -/
  | runningRepeat (task : Task Job)
  /-- Processing what parallel jobs have completed. -/
  | finishing
  /-- In the `onComplete` of a parallel job. -/
  | completing
deriving Repr, DecidableEq

/-- `isProcessing`. -/
def Phase.isProcessing : Phase Job → Bool
  | .idle => false
  | .once | .runningOnce _ | .repeats | .runningRepeat _ | .finishing | .completing => true

/-- Some code that may call the scheduler is running. -/
def Phase.allowsCalls : Phase Job → Bool
  | .idle | .runningOnce _ | .runningRepeat _ | .completing => true
  | .once | .repeats | .finishing => false

/-- The task of the second loop whose job is running. It stays on the list. -/
def Phase.runningRepeats : Phase Job → List (Task Job)
  | .runningRepeat task => [task]
  | .idle | .once | .runningOnce _ | .repeats | .finishing | .completing => []

/-- The scheduler, and its history. -/
structure Scheduler (Job : Type*) where
  lastFrame : ℤ := 0
  phase : Phase Job := .idle
  /-- `onceTasks` before the iterator. -/
  onceDone : List (Task Job) := []
  /-- `onceTasks` from the iterator on. -/
  onceTasks : List (Task Job) := []
  /-- `repeatTasks` before the iterator. -/
  repeatDone : List (Task Job) := []
  /-- `repeatTasks` from the iterator on, a running one excepted. -/
  repeatTasks : List (Task Job) := []
  removeTasks : List Job := []
  history : History Job := {}

namespace Scheduler

/-- All tasks that are on a list. -/
def tasks (s : Scheduler Job) : List (Task Job) :=
  s.onceDone ++ s.onceTasks ++ (s.repeatDone ++ s.phase.runningRepeats ++ s.repeatTasks)

/-! ### The calls -/

/-- The calls. -/
inductive Call (Job : Type*) where
  | runJobAt (job : Job) (frame : ℤ)
  | runJobAfter (job : Job) (frame : ℤ)
  | runJobEvery (job : Job) (frameInterval frameOffset : ℤ)
  | removeJob (job : Job)
deriving Repr, DecidableEq

/-- `push_back` on one of the lists. -/
def schedule (s : Scheduler Job) (job : Job) (timing : Timing) : Scheduler Job :=
  let task := s.history.task job timing
  let s := { s with history := s.history.schedule job timing }
  match timing with
  | .once _ => { s with onceTasks := s.onceTasks ++ [task] }
  | .every .. => { s with repeatTasks := s.repeatTasks ++ [task] }

/-- `RemoveJob`. -/
def removeJob (s : Scheduler Job) (job : Job) : Scheduler Job :=
  let s := { s with history := s.history.remove job }
  if s.phase.isProcessing then
    { s with removeTasks := s.removeTasks ++ [job] }
  else
    { s with
      onceTasks := s.onceTasks.filter (·.job ≠ job)
      repeatTasks := s.repeatTasks.filter (·.job ≠ job) }

/-- A call. -/
def call (s : Scheduler Job) : Call Job → Scheduler Job
  | .runJobAt job frame => s.schedule job (.once frame)
  | .runJobAfter job frame => s.schedule job (.once (s.lastFrame + frame))
  | .runJobEvery job frameInterval frameOffset =>
    s.schedule job (.every frameInterval (s.lastFrame - frameInterval + frameOffset))
  | .removeJob job => s.removeJob job

/-! ### The passes -/

/-- `task->Run()`. -/
def run (s : Scheduler Job) (task : Task Job) : Scheduler Job :=
  { s with history := s.history.run s.lastFrame task }

/-- The end of a pass: what was removed during it comes off the lists. -/
def finish (s : Scheduler Job) : Scheduler Job :=
  { s with
    phase := .idle
    onceDone := []
    onceTasks := (s.onceDone ++ s.onceTasks).filter fun task ↦ !s.removeTasks.contains task.job
    repeatDone := []
    repeatTasks :=
      (s.repeatDone ++ s.repeatTasks).filter fun task ↦ !s.removeTasks.contains task.job
    removeTasks := []
    history := s.history.finish s.lastFrame }

/-- The next step of `ProcessJobs`: the return of the job that is running, or the next turn of the
loop. -/
def advance (s : Scheduler Job) : Option (Scheduler Job) :=
  match s.phase with
  | .idle => none
  | .once =>
    match s.onceTasks with
    | [] => some { s with phase := .repeats }
    | task :: rest =>
      if task.timing.isDue s.lastFrame then
        some { s.run task with phase := .runningOnce task, onceTasks := rest }
      else some { s with onceDone := s.onceDone ++ [task], onceTasks := rest }
  | .runningOnce _ => some { s with phase := .once }
  | .repeats =>
    match s.repeatTasks with
    | [] => some { s with phase := .finishing }
    | task :: rest =>
      if task.timing.isDue s.lastFrame then
        some { s.run task with phase := .runningRepeat task, repeatTasks := rest }
      else some { s with repeatDone := s.repeatDone ++ [task], repeatTasks := rest }
  | .runningRepeat task =>
    some { s with
      phase := .repeats
      repeatDone := s.repeatDone ++ [{ task with timing := task.timing.ranAt s.lastFrame }] }
  | .finishing => some s.finish
  | .completing => some { s with phase := .finishing }

/-- The steps. A parallel job may have completed at any time, so whether another `onComplete` is
called is part of the label. -/
inductive Label (Job : Type*) where
  | call (c : Call Job)
  | processJobs (frame : ℤ)
  | advance
  | complete
deriving Repr, DecidableEq

/-- The step function. -/
def step (s : Scheduler Job) : Label Job → Option (Scheduler Job)
  | .call c => if s.phase.allowsCalls then some (s.call c) else none
  | .processJobs frame =>
    match s.phase with
    | .idle =>
      some { s with
        lastFrame := frame
        phase := .once
        history := s.history.start (s.tasks.map (·.ticket)) }
    | _ => none
  | .advance => s.advance
  | .complete =>
    match s.phase with
    | .finishing => some { s with phase := .completing }
    | _ => none

/-- The scheduler with all the calls it may get. -/
def machine (Job : Type*) [DecidableEq Job] : StepMachine (Scheduler Job) (Label Job) where
  init := {}
  step := step

end Scheduler

end HighBar.Circuit
