import HighBar.Circuit.JobBoard

/-!
# The scheduler as a job board

The lists of the scheduler are a board. What a pass has still to look at is what stands from the
iterator on: both lists in the first loop, only the second in the second. Every step but a call from
a running job is a move of the board, and so is a call under the conditions of `Orderly`:

* a job that was removed during the pass is not scheduled again in it, and what is scheduled on a
  list the pass has not yet walked to the end is not due at the frame of the pass;
* a job that is removed has no task ahead of the pass that is due.

A run of calls that keeps to them keeps the contract (`scheduler_contract`). The scheduler does not
ask for any of it, and without it each part of the contract fails.
-/

namespace HighBar.Circuit

open List

variable {Job : Type*}

namespace Scheduler

/-! ### The board of a scheduler -/

/-- The tasks that the pass has still to look at. -/
def ahead (s : Scheduler Job) : List (Task Job) :=
  match s.phase with
  | .once | .runningOnce _ => s.onceTasks ++ s.repeatTasks
  | .repeats | .runningRepeat _ => s.repeatTasks
  | .idle | .finishing | .completing => []

/-- The board. -/
def board (s : Scheduler Job) : Board Job where
  tasks := s.tasks.map Task.scheduling
  ahead := s.ahead
  removeTasks := s.removeTasks
  frame := s.lastFrame
  isProcessing := s.phase.isProcessing
  history := s.history

/-- A task that is scheduled now is put where the pass has still to look at it. -/
def reaches (s : Scheduler Job) (timing : Timing) : Bool :=
  match s.phase, timing with
  | .once, _ | .runningOnce _, _ => true
  | .repeats, .every .. | .runningRepeat _, .every .. => true
  | .repeats, .once _ | .runningRepeat _, .once _ => false
  | .idle, _ | .finishing, _ | .completing, _ => false

/-- Each task is on the list for its timing, and between the passes the iterators are at the
start. -/
structure Placed (s : Scheduler Job) : Prop where
  once : ∀ task ∈ s.onceDone ++ s.onceTasks, task.isOnce = true
  every : ∀ task ∈ s.repeatDone ++ s.phase.runningRepeats ++ s.repeatTasks, task.isOnce = false
  idle : s.phase = .idle → s.onceDone = [] ∧ s.repeatDone = []

variable {s t : Scheduler Job} {job : Job} {timing : Timing}

theorem phase_eq_idle (h : s.phase.isProcessing = false) : s.phase = .idle := by
  rcases hphase : s.phase <;> simp_all [Phase.isProcessing]

theorem isProcessing_of_reaches (h : s.reaches timing = true) : s.phase.isProcessing = true := by
  by_contra hidle
  rw [Bool.not_eq_true] at hidle
  simp [reaches, phase_eq_idle hidle] at h

/-- A scheduling adds its task. -/
theorem perm_tasks_schedule (s : Scheduler Job) (job : Job) (timing : Timing) :
    (s.schedule job timing).tasks.Perm (s.history.task job timing :: s.tasks) := by
  cases timing with
  | once frame =>
    have htasks : (s.schedule job (.once frame)).tasks = s.onceDone ++ s.onceTasks ++
        s.history.task job (.once frame) ::
          (s.repeatDone ++ s.phase.runningRepeats ++ s.repeatTasks) := by
      simp [schedule, tasks]
    rw [htasks]
    exact perm_middle
  | every frameInterval lastFrame =>
    show (_ ++ (s.repeatDone ++ s.phase.runningRepeats ++ (s.repeatTasks ++ [_]))).Perm _
    rw [← append_assoc _ s.repeatTasks, ← append_assoc]
    exact perm_append_singleton _ _

/-- A task that the pass will look at is ahead of it. -/
theorem perm_ahead_schedule (hreaches : s.reaches timing = true) :
    (s.schedule job timing).ahead.Perm (s.history.task job timing :: s.ahead) := by
  rcases hphase : s.phase <;> cases timing <;>
    simp only [reaches, hphase, Bool.false_eq_true] at hreaches <;>
    simp only [schedule, ahead, hphase, ← append_assoc, append_assoc _ [_],
      singleton_append, perm_middle, perm_append_singleton]

/-- A task that is out of its reach is not. -/
theorem ahead_schedule (hreaches : s.reaches timing = false) :
    (s.schedule job timing).ahead = s.ahead := by
  rcases hphase : s.phase <;> cases timing <;>
    simp only [reaches, hphase, Bool.true_eq_false] at hreaches <;>
    simp only [schedule, ahead, hphase]

/-- What `push_back` leaves alone. -/
theorem schedule_frame (s : Scheduler Job) (job : Job) (timing : Timing) :
    (s.schedule job timing).phase = s.phase ∧
      (s.schedule job timing).removeTasks = s.removeTasks ∧
      (s.schedule job timing).lastFrame = s.lastFrame ∧
      (s.schedule job timing).history = s.history.schedule job timing := by
  cases timing <;> exact ⟨rfl, rfl, rfl, rfl⟩

variable [DecidableEq Job]

/-- A job may be scheduled: between the passes always, and during a pass if it has not been removed
in it and the pass would not run it. -/
def Schedulable (s : Scheduler Job) (job : Job) (timing : Timing) : Prop :=
  s.phase.isProcessing = true → job ∉ s.removeTasks ∧
    (s.reaches timing = true → timing.isDue s.lastFrame = false)

/-- The calls of a run are **orderly**: what they schedule may be scheduled, and what they remove
is not due in the rest of the pass. -/
def Orderly (s : Scheduler Job) : Label Job → Prop
  | .call (.runJobAt job frame) => s.Schedulable job (.once frame)
  | .call (.runJobAfter job frame) => s.Schedulable job (.once (s.lastFrame + frame))
  | .call (.runJobEvery job frameInterval frameOffset) =>
    s.Schedulable job (.every frameInterval (s.lastFrame - frameInterval + frameOffset))
  | .call (.removeJob job) =>
    ∀ task ∈ s.ahead, task.job = job → task.timing.isDue s.lastFrame = false
  | .processJobs _ | .advance | .complete => True

instance (s : Scheduler Job) (job : Job) (timing : Timing) : Decidable (s.Schedulable job timing) :=
  inferInstanceAs (Decidable (_ → _))

instance (s : Scheduler Job) : ∀ label, Decidable (s.Orderly label)
  | .call (.runJobAt ..) | .call (.runJobAfter ..) | .call (.runJobEvery ..) =>
    inferInstanceAs (Decidable (s.Schedulable ..))
  | .call (.removeJob _) => inferInstanceAs (Decidable (∀ task ∈ s.ahead, _))
  | .processJobs _ | .advance | .complete => inferInstanceAs (Decidable True)

/-! ### Each step is a move -/

/-- Scheduling a job is a move. -/
theorem move_schedule (h : s.Schedulable job timing) :
    Board.Move s.board (s.schedule job timing).board := by
  obtain ⟨hphase, hremove, hframe, hhistory⟩ := schedule_frame s job timing
  have hboard : (s.schedule job timing).board = { s.board with
      tasks := (s.schedule job timing).tasks.map Task.scheduling
      ahead := (s.schedule job timing).ahead
      history := s.history.schedule job timing } := by
    rw [board, hphase, hremove, hframe, hhistory, board]
  rw [hboard]
  refine .schedule ((perm_tasks_schedule s job timing).map _) ?_ fun hpass ↦ (h hpass).1
  rcases hreaches : s.reaches timing with - | -
  · exact .inl (ahead_schedule hreaches)
  · have hpass : s.phase.isProcessing = true := isProcessing_of_reaches hreaches
    exact .inr ⟨hpass, perm_ahead_schedule hreaches, (h hpass).2 hreaches⟩

/-- Removing a job is a move. -/
theorem move_removeJob (hplaced : s.Placed)
    (h : ∀ task ∈ s.ahead, task.job = job → task.timing.isDue s.lastFrame = false) :
    Board.Move s.board (s.removeJob job).board := by
  rcases hprocessing : s.phase.isProcessing with - | -
  · have hidle := phase_eq_idle hprocessing
    obtain ⟨honce, hrepeat⟩ := hplaced.idle hidle
    have hboard : (s.removeJob job).board = { s.board with
        tasks := s.board.tasks.filter (·.job ≠ job), history := s.history.remove job } := by
      simp [board, removeJob, tasks, ahead, hidle, honce, hrepeat, Phase.isProcessing,
        Phase.runningRepeats, filter_map, Function.comp_def]
      rfl
    rw [hboard]
    exact .remove hprocessing
  · have hboard : (s.removeJob job).board = { s.board with
        removeTasks := s.removeTasks ++ [job], history := s.history.remove job } := by
      rw [removeJob, if_pos hprocessing]
      rfl
    rw [hboard]
    exact .note hprocessing h

/-- Two states differ on the board at most in what is ahead of the pass. -/
structure SameTasks (s t : Scheduler Job) : Prop where
  tasks : t.tasks.map Task.scheduling = s.tasks.map Task.scheduling
  removeTasks : t.removeTasks = s.removeTasks
  lastFrame : t.lastFrame = s.lastFrame
  isProcessing : t.phase.isProcessing = s.phase.isProcessing
  history : t.history = s.history

omit [DecidableEq Job] in
theorem SameTasks.board (h : SameTasks s t) : t.board = { s.board with ahead := t.ahead } := by
  rw [Scheduler.board, h.tasks, h.removeTasks, h.lastFrame, h.isProcessing, h.history,
    Scheduler.board]

/-- A step that looks at no task. -/
theorem move_keep (h : SameTasks s t) (hahead : t.ahead = s.ahead) :
    Board.Move s.board t.board := by
  rw [h.board]
  refine .skip (hahead ▸ List.Sublist.refl _) fun task hmem ↦ .inl ?_
  rw [hahead]
  exact hmem

/-- A step past a task that is not due. -/
theorem move_pass {task : Task Job} (h : SameTasks s t) (hahead : s.ahead = task :: t.ahead)
    (hdue : ¬task.timing.isDue s.lastFrame = true) : Board.Move s.board t.board := by
  rw [h.board]
  refine .skip ?_ fun other hmem ↦ ?_
  · show t.ahead.Sublist s.ahead
    rw [hahead]
    exact sublist_cons_self ..
  · have hmem : other ∈ task :: t.ahead := hahead ▸ (show other ∈ s.ahead from hmem)
    rcases mem_cons.1 hmem with rfl | hmem
    · exact .inr (Bool.eq_false_iff.2 hdue)
    · exact .inl hmem

/-- A pass starts. -/
theorem move_processJobs (hplaced : s.Placed) (hidle : s.phase = .idle) (frame : ℤ) :
    Board.Move s.board ({ s with
      lastFrame := frame
      phase := .once
      history := s.history.start (s.tasks.map (·.ticket)) } : Scheduler Job).board := by
  obtain ⟨honce, hrepeat⟩ := hplaced.idle hidle
  have hprocessing : s.board.isProcessing = false := by
    rw [board, hidle]
    rfl
  have hahead : (s.onceTasks ++ s.repeatTasks).map Task.scheduling = s.board.tasks := by
    simp [board, tasks, hidle, honce, hrepeat, Phase.runningRepeats]
  have hboard : ({ s with
      lastFrame := frame
      phase := .once
      history := s.history.start (s.tasks.map (·.ticket)) } : Scheduler Job).board =
      { s.board with
        ahead := s.onceTasks ++ s.repeatTasks
        frame := frame
        isProcessing := true
        history := s.history.start (s.board.tasks.map (·.ticket)) } := by
    simp [board, tasks, ahead, hidle, Phase.runningRepeats, Phase.isProcessing, Function.comp_def]
  rw [hboard]
  exact .start hprocessing hahead

/-- A step that runs a task. -/
theorem move_run {task : Task Job} (hremove : t.removeTasks = s.removeTasks)
    (hframe : t.lastFrame = s.lastFrame) (hprocessing : s.phase.isProcessing = true)
    (hprocessing' : t.phase.isProcessing = true)
    (hhistory : t.history = s.history.run s.lastFrame task)
    (hdue : task.timing.isDue s.lastFrame = true) (hahead : s.ahead.Perm (task :: t.ahead))
    (htasks : task.isOnce = true ∧ s.tasks.Perm (task :: t.tasks) ∨
      task.isOnce = false ∧ t.tasks = s.tasks) :
    Board.Move s.board t.board := by
  have hboard : t.board = { s.board with
      tasks := t.tasks.map Task.scheduling
      ahead := t.ahead
      history := s.history.run s.lastFrame task } := by
    rw [board, hremove, hframe, hprocessing', hhistory, board, hprocessing]
  rw [hboard]
  refine .run hprocessing hdue hahead (htasks.imp (fun ⟨honce, hperm⟩ ↦ ⟨honce, ?_⟩)
    fun ⟨hevery, heq⟩ ↦ ⟨hevery, congrArg _ heq⟩)
  have hmap := hperm.map Task.scheduling
  rwa [map_cons, Task.scheduling_of_isOnce honce] at hmap

/-- A pass ends. -/
theorem move_finish (hphase : s.phase = .finishing) : Board.Move s.board s.finish.board := by
  have hboard : s.finish.board = { s.board with
      tasks := s.board.tasks.filter fun task ↦ !s.removeTasks.contains task.job
      removeTasks := []
      isProcessing := false
      history := s.history.finish s.lastFrame } := by
    simp [board, finish, tasks, ahead, hphase, Phase.isProcessing, Phase.runningRepeats,
      filter_map, Function.comp_def]
    rfl
  rw [hboard]
  refine .finish ?_ ?_
  · rw [board, hphase]
    rfl
  · simp only [board, ahead, hphase]

/-- **The steps of a pass** are moves. -/
theorem move_advance (hplaced : s.Placed) (h : s.advance = some t) :
    Board.Move s.board t.board := by
  rw [advance] at h
  rcases hphase : s.phase with - | - | task | - | task | - | - <;> rw [hphase] at h
  case idle => cases h
  case once =>
    rcases hlist : s.onceTasks with - | ⟨task, rest⟩ <;> rw [hlist] at h
    · cases h
      refine move_keep ⟨?_, rfl, rfl, ?_, rfl⟩ ?_ <;>
        simp [tasks, ahead, hphase, hlist, Phase.runningRepeats, Phase.isProcessing]
    · dsimp only at h
      split at h
      case isTrue hdue =>
        cases h
        refine move_run rfl rfl ?_ rfl rfl hdue ?_ (.inl ⟨hplaced.once task (by simp [hlist]), ?_⟩)
        · simp [hphase, Phase.isProcessing]
        · simp [ahead, run, hphase, hlist]
        · simp [tasks, run, hlist, hphase, Phase.runningRepeats, perm_middle]
      case isFalse hdue =>
        cases h
        refine move_pass ⟨?_, rfl, rfl, ?_, rfl⟩ ?_ hdue <;>
          simp [tasks, ahead, hphase, hlist, Phase.runningRepeats]
  case runningOnce =>
    cases h
    refine move_keep ⟨?_, rfl, rfl, ?_, rfl⟩ ?_ <;>
      simp [tasks, ahead, hphase, Phase.runningRepeats, Phase.isProcessing]
  case repeats =>
    rcases hlist : s.repeatTasks with - | ⟨task, rest⟩ <;> rw [hlist] at h
    · cases h
      refine move_keep ⟨?_, rfl, rfl, ?_, rfl⟩ ?_ <;>
        simp [tasks, ahead, hphase, hlist, Phase.runningRepeats, Phase.isProcessing]
    · dsimp only at h
      split at h
      case isTrue hdue =>
        cases h
        refine move_run rfl rfl ?_ rfl rfl hdue ?_
          (.inr ⟨hplaced.every task (by simp [hlist]), ?_⟩)
        · simp [hphase, Phase.isProcessing]
        · simp [ahead, hphase, hlist]
        · simp [tasks, run, hlist, hphase, Phase.runningRepeats]
      case isFalse hdue =>
        cases h
        refine move_pass ⟨?_, rfl, rfl, ?_, rfl⟩ ?_ hdue <;>
          simp [tasks, ahead, hphase, hlist, Phase.runningRepeats]
  case runningRepeat =>
    cases h
    refine move_keep ⟨?_, rfl, rfl, ?_, rfl⟩ ?_ <;>
      simp [tasks, ahead, hphase, Phase.runningRepeats, Phase.isProcessing, Task.scheduling_ranAt]
  case finishing =>
    cases h
    exact move_finish hphase
  case completing =>
    cases h
    refine move_keep ⟨?_, rfl, rfl, ?_, rfl⟩ ?_ <;>
      simp [tasks, ahead, hphase, Phase.runningRepeats, Phase.isProcessing]

/-! ### Each task stays on its list -/

omit [DecidableEq Job] in
theorem Placed.schedule (h : s.Placed) (job : Job) (timing : Timing) :
    (s.schedule job timing).Placed := by
  cases timing with
  | once frame =>
    refine ⟨?_, h.every, h.idle⟩
    show ∀ task ∈ s.onceDone ++ (s.onceTasks ++ [_]), _
    rw [← append_assoc]
    exact forall_mem_append.2 ⟨h.once, forall_mem_singleton.2 rfl⟩
  | every frameInterval lastFrame =>
    refine ⟨h.once, ?_, h.idle⟩
    show ∀ task ∈ s.repeatDone ++ s.phase.runningRepeats ++ (s.repeatTasks ++ [_]), _
    rw [← append_assoc]
    exact forall_mem_append.2 ⟨h.every, forall_mem_singleton.2 rfl⟩

theorem Placed.removeJob (h : s.Placed) (job : Job) : (s.removeJob job).Placed := by
  rw [Scheduler.removeJob]
  split
  case isTrue => exact ⟨h.once, h.every, h.idle⟩
  case isFalse =>
    refine ⟨fun task hmem ↦ h.once task ?_, fun task hmem ↦ h.every task ?_, h.idle⟩
    · exact (List.Sublist.append_left filter_sublist _).subset hmem
    · exact (List.Sublist.append_left filter_sublist _).subset hmem

omit [DecidableEq Job] in
/-- A step within a pass, from which the two lists come out with the same tasks or fewer. -/
theorem Placed.of_subset (h : s.Placed) (hphase : t.phase ≠ .idle)
    (honce : t.onceDone ++ t.onceTasks ⊆ s.onceDone ++ s.onceTasks)
    (hevery : t.repeatDone ++ t.phase.runningRepeats ++ t.repeatTasks ⊆
      s.repeatDone ++ s.phase.runningRepeats ++ s.repeatTasks) : t.Placed where
  once task hmem := h.once task (honce hmem)
  every task hmem := h.every task (hevery hmem)
  idle hidle := absurd hidle hphase

theorem Placed.finish (h : s.Placed) (hphase : s.phase = .finishing) : s.finish.Placed where
  once task hmem := h.once task (mem_of_mem_filter hmem)
  every task hmem := by
    have hmem : task ∈ s.repeatDone ++ s.repeatTasks := mem_of_mem_filter hmem
    refine h.every task ?_
    rwa [hphase, Phase.runningRepeats, append_nil]
  idle _ := ⟨rfl, rfl⟩

theorem Placed.advance (h : s.Placed) (hstep : s.advance = some t) : t.Placed := by
  rw [Scheduler.advance] at hstep
  rcases hphase : s.phase with - | - | task | - | task | - | - <;> rw [hphase] at hstep
  case idle => cases hstep
  case once =>
    rcases hlist : s.onceTasks with - | ⟨task, rest⟩ <;> rw [hlist] at hstep
    · cases hstep
      refine h.of_subset (by simp) ?_ ?_ <;> simp [hlist, hphase, Phase.runningRepeats]
    · dsimp only at hstep
      split at hstep <;> cases hstep <;> refine h.of_subset (by simp) ?_ ?_ <;>
        simp [hlist, hphase, Phase.runningRepeats, run]
  case runningOnce =>
    cases hstep
    refine h.of_subset (by simp) ?_ ?_ <;> simp [hphase, Phase.runningRepeats]
  case repeats =>
    rcases hlist : s.repeatTasks with - | ⟨task, rest⟩ <;> rw [hlist] at hstep
    · cases hstep
      refine h.of_subset (by simp) ?_ ?_ <;> simp [hlist, hphase, Phase.runningRepeats]
    · dsimp only at hstep
      split at hstep <;> cases hstep <;> refine h.of_subset (by simp) ?_ ?_ <;>
        simp [hlist, hphase, Phase.runningRepeats, run]
  case runningRepeat =>
    cases hstep
    refine ⟨h.once, fun other hmem ↦ ?_, fun hidle ↦ by cases hidle⟩
    have hevery : ∀ other ∈ s.repeatDone ++ [task] ++ s.repeatTasks, other.isOnce = false := by
      have hevery := h.every
      rwa [hphase] at hevery
    simp only [Phase.runningRepeats, append_nil, mem_append, mem_singleton] at hmem
    rcases hmem with (hmem | rfl) | hmem
    · exact hevery other (by simp [hmem])
    · rw [← Task.isOnce_scheduling, Task.scheduling_ranAt, Task.isOnce_scheduling]
      exact hevery task (by simp)
    · exact hevery other (by simp [hmem])
  case finishing =>
    cases hstep
    exact h.finish hphase
  case completing =>
    cases hstep
    refine h.of_subset (by simp) ?_ ?_ <;> simp [hphase, Phase.runningRepeats]

theorem Placed.step (h : s.Placed) {label : Label Job} (hstep : s.step label = some t) :
    t.Placed := by
  rcases label with c | frame | - | - <;> rw [Scheduler.step] at hstep
  case call =>
    split at hstep <;> cases hstep
    rcases c with ⟨job, frame⟩ | ⟨job, frame⟩ | ⟨job, frameInterval, frameOffset⟩ | job
    case runJobAt => exact h.schedule job (.once frame)
    case runJobAfter => exact h.schedule job (.once (s.lastFrame + frame))
    case runJobEvery =>
      exact h.schedule job (.every frameInterval (s.lastFrame - frameInterval + frameOffset))
    case removeJob => exact h.removeJob job
  case processJobs =>
    split at hstep <;> cases hstep
    case h_1 hphase =>
      refine h.of_subset (by simp) ?_ ?_ <;> simp [hphase, Phase.runningRepeats]
  case advance => exact h.advance hstep
  case complete =>
    split at hstep <;> cases hstep
    case h_1 hphase =>
      refine h.of_subset (by simp) ?_ ?_ <;> simp [hphase, Phase.runningRepeats]

/-! ### The contract -/

/-- **Orderly steps are moves of the board.** -/
theorem move_of_step (hplaced : s.Placed) {label : Label Job} (horderly : s.Orderly label)
    (hstep : s.step label = some t) : Board.Move s.board t.board := by
  rcases label with c | frame | - | - <;> rw [Scheduler.step] at hstep
  case call =>
    split at hstep <;> cases hstep
    rcases c with ⟨job, frame⟩ | ⟨job, frame⟩ | ⟨job, frameInterval, frameOffset⟩ | job
    case removeJob => exact move_removeJob hplaced horderly
    all_goals exact move_schedule horderly
  case processJobs =>
    split at hstep <;> cases hstep
    case h_1 hphase => exact move_processJobs hplaced hphase frame
  case advance => exact move_advance hplaced hstep
  case complete =>
    split at hstep <;> cases hstep
    case h_1 hphase =>
      refine move_keep ⟨?_, rfl, rfl, ?_, rfl⟩ ?_ <;>
        simp [tasks, ahead, hphase, Phase.runningRepeats, Phase.isProcessing]

/-- An empty board is sound. -/
theorem sound_init : (machine Job).init.board.Sound := by
  refine ⟨⟨?_, ?_, ?_, ?_, ?_⟩, ⟨?_, ?_, ?_, ?_⟩, .of_idle rfl rfl ?_ ?_,
    ⟨?_, ?_, ?_, ?_, ?_, ?_, ?_⟩⟩ <;>
    simp [machine, board, tasks, Phase.runningRepeats]

/-- The calls of an orderly run keep the invariant of the board. -/
theorem sound_of_exec {labels : List (Label Job)}
    (hrun : (machine Job).exec (machine Job).init labels = some s)
    (horderly : (machine Job).Meets Orderly (machine Job).init labels) : s.board.Sound := by
  have hinit : (machine Job).init.Placed ∧ (machine Job).init.board.Sound :=
    ⟨⟨by simp [machine], by simp [machine, Phase.runningRepeats], fun _ ↦ ⟨rfl, rfl⟩⟩, sound_init⟩
  refine (StepMachine.invariant_of_meets (I := fun s ↦ s.Placed ∧ s.board.Sound)
    (fun s label t h horderly hstep ↦ ?_) hinit horderly hrun).2
  exact ⟨h.1.step hstep, h.2.move (move_of_step h.1 horderly hstep)⟩

/-! ### Every pass returns -/

/-- `ProcessJobs` returns, if the running job and those it runs after it make no further calls. -/
def Returns (s : Scheduler Job) : Prop :=
  ∃ n t, (machine Job).exec s (List.replicate n .advance) = some t ∧ t.phase = .idle

theorem Returns.of_advance (hstep : s.advance = some t) (h : t.Returns) : s.Returns := by
  obtain ⟨n, u, hexec, hidle⟩ := h
  exact ⟨n + 1, u, (machine Job).exec_cons_eq_some.2 ⟨t, hstep, hexec⟩, hidle⟩

/-- How many steps the pass still takes at most, if no further call is made. -/
def stepsLeft (s : Scheduler Job) : ℕ :=
  match s.phase with
  | .idle => 0
  | .finishing => 1
  | .completing => 2
  | .repeats => 2 * s.repeatTasks.length + 2
  | .runningRepeat _ => 2 * s.repeatTasks.length + 3
  | .once => 2 * (s.onceTasks.length + s.repeatTasks.length) + 3
  | .runningOnce _ => 2 * (s.onceTasks.length + s.repeatTasks.length) + 4

/-- A pass that is under way has a next step, and each step brings it nearer to its end. -/
theorem exists_advance (h : s.phase ≠ .idle) :
    ∃ t, s.advance = some t ∧ t.stepsLeft < s.stepsLeft := by
  rw [advance]
  rcases hphase : s.phase with - | - | task | - | task | - | -
  case idle => exact absurd hphase h
  case once =>
    rcases hlist : s.onceTasks with - | ⟨task, rest⟩ <;> dsimp only <;> (try split) <;>
      exact ⟨_, rfl, by simp [stepsLeft, hphase, hlist, run] <;> omega⟩
  case repeats =>
    rcases hlist : s.repeatTasks with - | ⟨task, rest⟩ <;> dsimp only <;> (try split) <;>
      exact ⟨_, rfl, by simp [stepsLeft, hphase, hlist] <;> omega⟩
  all_goals exact ⟨_, rfl, by simp [stepsLeft, hphase, finish]⟩

/-- **A pass returns from wherever it is.** -/
theorem returns (s : Scheduler Job) : s.Returns := by
  induction hleft : s.stepsLeft using Nat.strong_induction_on generalizing s with
  | h n ih =>
    by_cases hidle : s.phase = .idle
    · exact ⟨0, s, rfl, hidle⟩
    · obtain ⟨t, hstep, hless⟩ := exists_advance hidle
      exact .of_advance hstep (ih _ (hleft ▸ hless) t rfl)

/-- **The scheduler keeps its contract** in every orderly run, whatever the frames, and from every
state its passes return. -/
theorem scheduler_contract {labels : List (Label Job)}
    (hrun : (machine Job).exec (machine Job).init labels = some s)
    (horderly : (machine Job).Meets Orderly (machine Job).init labels) :
    Contract s.history (s.tasks.map Task.scheduling) ∧ s.Returns :=
  ⟨(sound_of_exec hrun horderly).contract, s.returns⟩

/-- Job `0` runs in the pass for frame `1`; it removes job `1`, which is for frame `5`, and
schedules itself for frame `2`. -/
def rescheduling : List (Label ℕ) :=
  [.call (.runJobAt 0 0), .call (.runJobAt 1 5), .processJobs 1, .advance, .call (.removeJob 1),
    .call (.runJobAfter 0 1), .advance, .advance, .advance, .advance, .advance, .advance,
    .processJobs 2, .advance, .advance]

theorem scheduler_contract_rescheduling :
    ∃ s : Scheduler ℕ, (machine ℕ).exec (machine ℕ).init rescheduling = some s ∧
      s.history.runs.map (fun run ↦ (run.task.job, run.pass)) = [(0, 1), (0, 2)] ∧
      Contract s.history (s.tasks.map Task.scheduling) ∧ s.Returns := by
  refine ⟨_, rfl, by decide, ?_⟩
  exact @scheduler_contract ℕ _ _ rescheduling rfl (by decide)

/-- Jobs `0` and `1` are due in the pass for frame `1`. Job `0` runs first: it removes job `1`,
schedules itself for frame `0` and job `1` for frame `5`. A pass for frame `5` follows. -/
def overtaking : List (Label ℕ) :=
  [.call (.runJobAt 0 0), .call (.runJobAt 1 0), .processJobs 1, .advance, .call (.removeJob 1),
    .call (.runJobAt 0 0), .call (.runJobAt 1 5), .advance, .advance, .advance, .advance, .advance,
    .advance, .advance, .advance, .advance, .processJobs 5, .advance, .advance, .advance]

/-- The pass runs job `1` after its removal and job `0` a second time, and what was scheduled for
frame `5` is lost. -/
theorem removed_job_runs_and_scheduled_job_lost :
    ∃ s : Scheduler ℕ, (machine ℕ).exec (machine ℕ).init overtaking = some s ∧
      s.phase = .idle ∧ s.history.finished = [(1, 1), (2, 5)] ∧
      (∃ run ∈ s.history.runs, run.task.job = 0 ∧ run.task.born = run.pass ∧
        run.present = false) ∧
      (∃ run ∈ s.history.runs, run.task.job = 1 ∧ run.removed = true) ∧
      ∃ task ∈ s.history.scheduled, task.job = 1 ∧ task.timing = .once 5 ∧ task.born = 1 ∧
        s.history.isRemoved task = false ∧ task ∉ s.tasks ∧
        ∀ run ∈ s.history.runs, run.task ≠ task := by
  refine ⟨_, rfl, by decide⟩

end Scheduler

end HighBar.Circuit
