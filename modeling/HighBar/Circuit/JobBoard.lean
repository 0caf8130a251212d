import HighBar.Circuit.Scheduler
import Mathlib.Data.List.Nodup
import Mathlib.Data.List.Perm.Basic

/-!
# Job boards

What the lists of the scheduler are for, without the lists: a **board** has the schedulings that are
in force, in any order, and those of them that the pass under way has still to look at. On a board
there are seven moves. A job that is scheduled is either out of the reach of the pass or not due in
it, and a job that is removed during a pass is not one that the pass would still run: that is what
the moves ask for, and what the lists of the source do not give by themselves.

The contract of the scheduler is about the history of a board. It follows from an invariant
(`Board.Sound`) in four groups, one for each part of the board a law depends on.
-/

namespace HighBar.Circuit

open List

variable {Job : Type*}

/-! ### What was scheduled -/

namespace Task

/-- The task as it was scheduled, up to the frame of its last run. -/
def scheduling (task : Task Job) : Task Job :=
  { task with timing := task.timing.ranAt 0 }

variable {task : Task Job}

@[simp]
theorem job_scheduling : task.scheduling.job = task.job := rfl

@[simp]
theorem ticket_scheduling : task.scheduling.ticket = task.ticket := rfl

@[simp]
theorem born_scheduling : task.scheduling.born = task.born := rfl

/-- How often a task runs does not depend on its last run. -/
@[simp]
theorem isOnce_scheduling : task.scheduling.isOnce = task.isOnce := by
  obtain ⟨job, timing, ticket, born⟩ := task
  cases timing <;> rfl

/-- A task for one run is as it was scheduled. -/
theorem scheduling_of_isOnce (h : task.isOnce = true) : task.scheduling = task := by
  obtain ⟨job, timing, ticket, born⟩ := task
  cases timing with
  | once frame => rfl
  | every frameInterval lastFrame => exact absurd h (by simp [isOnce])

/-- A run leaves the scheduling as it was. -/
theorem scheduling_ranAt (frame : ℤ) :
    ({ task with timing := task.timing.ranAt frame } : Task Job).scheduling = task.scheduling := by
  obtain ⟨job, timing, ticket, born⟩ := task
  cases timing <;> rfl

theorem isOnce_of_timing {frame : ℤ} (h : task.timing = .once frame) : task.isOnce = true := by
  simp [isOnce, h]

end Task

variable [DecidableEq Job]

/-! ### The contract -/

/-- **The contract** of the scheduler, for a history and the schedulings that are in force. -/
structure Contract (h : History Job) (tasks : List (Task Job)) : Prop where
  /-- What is scheduled during a pass does not run before a later pass. -/
  later : ∀ run ∈ h.runs, run.task.born < run.pass
  /-- A pass runs only tasks that were there when it started. -/
  present : ∀ run ∈ h.runs, run.present = true
  /-- A pass runs no task twice. -/
  runs_nodup : (h.runs.map fun run ↦ (run.task.ticket, run.pass)).Nodup
  /-- No task runs after `RemoveJob` for its job. -/
  not_removed : ∀ run ∈ h.runs, run.removed = false
  /-- No scheduling is lost: without a later `RemoveJob` it is in force, or it was for one run and
  that run has been. -/
  kept : ∀ task ∈ h.scheduled, h.isRemoved task = false →
    task.scheduling ∈ tasks ∨ task.isOnce = true ∧ ∃ run ∈ h.runs, run.task = task
  /-- What is to be run once never runs twice. -/
  once_nodup : ((h.runs.filter (·.task.isOnce)).map (·.task.ticket)).Nodup
  /-- It runs at its frame or later, and no later pass before that had reached its frame. -/
  first : ∀ run ∈ h.runs, ∀ frame, run.task.timing = .once frame → frame ≤ run.frame ∧
    ∀ pass ∈ h.finished, run.task.born < pass.1 → pass.1 < run.pass → pass.2 < frame
  /-- It has run when a later pass that reached its frame is over. -/
  ran : ∀ task ∈ h.scheduled, h.isRemoved task = false → ∀ frame, task.timing = .once frame →
    ∀ pass ∈ h.finished, task.born < pass.1 → frame ≤ pass.2 →
      ∃ run ∈ h.runs, run.task = task ∧ run.pass ≤ pass.1

/-! ### Boards and their moves -/

/-- A board. -/
structure Board (Job : Type*) where
  /-- The schedulings in force. -/
  tasks : List (Task Job)
  /-- The tasks that the pass has still to look at. -/
  ahead : List (Task Job)
  removeTasks : List Job
  frame : ℤ
  isProcessing : Bool
  history : History Job

namespace Board

/-- The moves. -/
inductive Move : Board Job → Board Job → Prop
  /-- A job is scheduled; the pass under way will not look at it, or it is not due. -/
  | schedule {b : Board Job} {job : Job} {timing : Timing} {tasks ahead : List (Task Job)}
      (htasks : tasks.Perm ((b.history.task job timing).scheduling :: b.tasks))
      (hahead : ahead = b.ahead ∨ b.isProcessing = true ∧
        ahead.Perm (b.history.task job timing :: b.ahead) ∧ timing.isDue b.frame = false)
      (hjob : b.isProcessing = true → job ∉ b.removeTasks) :
      Move b
        { b with tasks := tasks, ahead := ahead, history := b.history.schedule job timing }
  /-- A job that the pass will not run any more is noted down for removal. -/
  | note {b : Board Job} {job : Job} (hprocessing : b.isProcessing = true)
      (hahead : ∀ task ∈ b.ahead, task.job = job → task.timing.isDue b.frame = false) :
      Move b
        { b with removeTasks := b.removeTasks ++ [job], history := b.history.remove job }
  /-- A job is removed between the passes. -/
  | remove {b : Board Job} {job : Job} (hidle : b.isProcessing = false) :
      Move b
        { b with tasks := b.tasks.filter (·.job ≠ job), history := b.history.remove job }
  /-- A pass starts. -/
  | start {b : Board Job} {frame : ℤ} {ahead : List (Task Job)} (hidle : b.isProcessing = false)
      (hahead : ahead.map Task.scheduling = b.tasks) :
      Move b
        { b with
          ahead := ahead
          frame := frame
          isProcessing := true
          history := b.history.start (b.tasks.map (·.ticket)) }
  /-- A task that is due is run. -/
  | run {b : Board Job} {task : Task Job} {tasks ahead : List (Task Job)}
      (hprocessing : b.isProcessing = true) (hdue : task.timing.isDue b.frame = true)
      (hahead : b.ahead.Perm (task :: ahead))
      (htasks : task.isOnce = true ∧ b.tasks.Perm (task :: tasks) ∨
        task.isOnce = false ∧ tasks = b.tasks) :
      Move b
        { b with tasks := tasks, ahead := ahead, history := b.history.run b.frame task }
  /-- The pass goes on; what it leaves behind is not due. -/
  | skip {b : Board Job} {ahead : List (Task Job)} (hsublist : ahead.Sublist b.ahead)
      (hahead : ∀ task ∈ b.ahead, task ∈ ahead ∨ task.timing.isDue b.frame = false) :
      Move b { b with ahead := ahead }
  /-- The pass is over. -/
  | finish {b : Board Job} (hprocessing : b.isProcessing = true) (hahead : b.ahead = []) :
      Move b
        { b with
          tasks := b.tasks.filter fun task ↦ !b.removeTasks.contains task.job
          removeTasks := []
          isProcessing := false
          history := b.history.finish b.frame }

/-! ### The invariant -/

/-- Tickets are not given out twice, and what ran once is gone. -/
structure Tickets (b : Board Job) : Prop where
  ticket_lt : ∀ task ∈ b.tasks, task.ticket < b.history.tickets
  tickets_nodup : (b.tasks.map (·.ticket)).Nodup
  run_lt : ∀ run ∈ b.history.runs, run.task.ticket < b.history.tickets
  once_gone : ∀ run ∈ b.history.runs, run.task.isOnce = true →
    ∀ task ∈ b.tasks, task.ticket ≠ run.task.ticket
  once_nodup : ((b.history.runs.filter (·.task.isOnce)).map (·.task.ticket)).Nodup

/-- Of the schedulings in force, the removed ones are those of the jobs that are noted down. -/
structure Removals (b : Board Job) : Prop where
  removal_le : ∀ removal ∈ b.history.removals, removal.2 ≤ b.history.tickets
  removed_iff : ∀ task ∈ b.tasks, b.history.isRemoved task = true ↔ task.job ∈ b.removeTasks
  removeTasks_idle : b.isProcessing = false → b.removeTasks = []
  kept : ∀ task ∈ b.history.scheduled, b.history.isRemoved task = false →
    task.scheduling ∈ b.tasks ∨ task.isOnce = true ∧ ∃ run ∈ b.history.runs, run.task = task

/-- The pass has not yet run what it has still to look at. What of this is due was there when the
pass started, and nothing else that was there and is to be run once is due. -/
structure Ahead (b : Board Job) : Prop where
  ahead_idle : b.isProcessing = false → b.ahead = []
  ahead_mem : ∀ task ∈ b.ahead, task.scheduling ∈ b.tasks
  ahead_nodup : (b.ahead.map (·.ticket)).Nodup
  born_le : ∀ task ∈ b.tasks, task.born ≤ b.history.pass
  run_le : ∀ run ∈ b.history.runs, run.pass ≤ b.history.pass
  fresh : ∀ task ∈ b.ahead, ∀ run ∈ b.history.runs, run.task.ticket = task.ticket →
    run.pass < b.history.pass
  due : ∀ task ∈ b.ahead, task.timing.isDue b.frame = true →
    task.ticket ∈ b.history.present ∧ task.job ∉ b.removeTasks ∧ task.born < b.history.pass
  due_ahead : b.isProcessing = true → ∀ task ∈ b.tasks, task.isOnce = true →
    task.born < b.history.pass → task.timing.isDue b.frame = true → task ∈ b.ahead

/-- The laws for what was run and for what waits. -/
structure Runs (b : Board Job) : Prop where
  finished_le : ∀ pass ∈ b.history.finished, pass.1 ≤ b.history.pass
  later : ∀ run ∈ b.history.runs, run.task.born < run.pass
  present : ∀ run ∈ b.history.runs, run.present = true
  not_removed : ∀ run ∈ b.history.runs, run.removed = false
  runs_nodup : (b.history.runs.map fun run ↦ (run.task.ticket, run.pass)).Nodup
  first : ∀ run ∈ b.history.runs, ∀ frame, run.task.timing = .once frame → frame ≤ run.frame ∧
    ∀ pass ∈ b.history.finished, run.task.born < pass.1 → pass.1 < run.pass → pass.2 < frame
  waiting : ∀ task ∈ b.tasks, ∀ frame, task.timing = .once frame →
    ∀ pass ∈ b.history.finished, task.born < pass.1 → pass.2 < frame

/-- The invariant. -/
structure Sound (b : Board Job) : Prop where
  tickets : b.Tickets
  removals : b.Removals
  ahead : b.Ahead
  runs : b.Runs

/-- The board after a job was scheduled. -/
abbrev scheduled (b : Board Job) (job : Job) (timing : Timing) (tasks ahead : List (Task Job)) :
    Board Job :=
  { b with tasks := tasks, ahead := ahead, history := b.history.schedule job timing }

/-- The board after a task was run. -/
abbrev ran (b : Board Job) (task : Task Job) (tasks ahead : List (Task Job)) : Board Job :=
  { b with tasks := tasks, ahead := ahead, history := b.history.run b.frame task }

/-- A run takes a task that is to be run once off the board, and leaves the others. -/
abbrev Takes (b : Board Job) (task : Task Job) (tasks : List (Task Job)) : Prop :=
  task.isOnce = true ∧ b.tasks.Perm (task :: tasks) ∨ task.isOnce = false ∧ tasks = b.tasks

/-- The board after the end of a pass. -/
abbrev finished (b : Board Job) : Board Job :=
  { b with
    tasks := b.tasks.filter fun task ↦ !b.removeTasks.contains task.job
    removeTasks := []
    isProcessing := false
    history := b.history.finish b.frame }

variable {b c : Board Job} {task : Task Job} {tasks ahead : List (Task Job)}

/-- What is scheduled now is not removed yet. -/
theorem isRemoved_task (hremovals : b.Removals) (job : Job) (timing : Timing) :
    b.history.isRemoved (b.history.task job timing) = false := by
  simp only [History.isRemoved, any_eq_false, decide_eq_true_eq]
  rintro removal hmem ⟨-, hlt⟩
  exact absurd (hremovals.removal_le removal hmem) (Nat.not_le.2 hlt)

theorem isRemoved_remove_eq_false (h : History Job) (job : Job) (task : Task Job) :
    (h.remove job).isRemoved task = false ↔
      h.isRemoved task = false ∧ (job = task.job → h.tickets ≤ task.ticket) := by
  simp [History.isRemoved, History.remove]

/-- `RemoveJob` removes what was scheduled for the job before it. -/
theorem isRemoved_remove (h : History Job) (job : Job) (task : Task Job) :
    (h.remove job).isRemoved task = true ↔
      h.isRemoved task = true ∨ job = task.job ∧ task.ticket < h.tickets := by
  simp [History.isRemoved, History.remove]

omit [DecidableEq Job] in
/-- A run puts nothing on the board. -/
theorem mem_of_taken (htasks : b.Takes task tasks) : ∀ other ∈ tasks, other ∈ b.tasks := by
  rcases htasks with ⟨-, hperm⟩ | ⟨-, rfl⟩
  · exact fun other hother ↦ hperm.mem_iff.2 (mem_cons_of_mem _ hother)
  · exact fun other hother ↦ hother

/-- What holds of the runs before and of the run of a task holds of the runs after it. -/
theorem forall_mem_run {P : Run Job → Prop} {frame : ℤ} {h : History Job}
    (hold : ∀ run ∈ h.runs, P run)
    (hnew : P ⟨task, h.pass, frame, h.present.contains task.ticket, h.isRemoved task⟩) :
    ∀ run ∈ (h.run frame task).runs, P run :=
  forall_mem_append.2 ⟨hold, forall_mem_singleton.2 hnew⟩

/-! ### Each move keeps it -/

omit [DecidableEq Job] in
/-- Taking schedulings off the board gives out no tickets. -/
theorem Tickets.filter (h : b.Tickets) (p : Task Job → Bool) :
    ({ b with tasks := b.tasks.filter p } : Board Job).Tickets where
  ticket_lt task hmem := h.ticket_lt task (mem_of_mem_filter hmem)
  tickets_nodup := h.tickets_nodup.sublist (filter_sublist.map _)
  run_lt := h.run_lt
  once_gone run hrun honce task hmem :=
    h.once_gone run hrun honce task (mem_of_mem_filter hmem)
  once_nodup := h.once_nodup

variable {job : Job} {timing : Timing}

omit [DecidableEq Job] in
/-- A new scheduling has a new ticket. -/
theorem Tickets.schedule (h : b.Tickets)
    (htasks : tasks.Perm ((b.history.task job timing).scheduling :: b.tasks)) :
    (b.scheduled job timing tasks ahead).Tickets where
  ticket_lt task hmem := by
    rcases mem_cons.1 (htasks.mem_iff.1 hmem) with rfl | hold
    · exact Nat.lt_succ_self _
    · exact Nat.lt_succ_of_lt (h.ticket_lt task hold)
  tickets_nodup := by
    rw [(htasks.map _).nodup_iff, map_cons, nodup_cons]
    refine ⟨fun hmem ↦ ?_, h.tickets_nodup⟩
    obtain ⟨task, hold, heq⟩ := mem_map.1 hmem
    exact absurd heq (h.ticket_lt task hold).ne
  run_lt run hrun := Nat.lt_succ_of_lt (h.run_lt run hrun)
  once_gone run hrun honce task hmem := by
    rcases mem_cons.1 (htasks.mem_iff.1 hmem) with rfl | hold
    · exact (h.run_lt run hrun).ne'
    · exact h.once_gone run hrun honce task hold
  once_nodup := h.once_nodup

/-- A task for one run that has run is gone. -/
theorem Tickets.run (h : b.Tickets) (hmem : task.scheduling ∈ b.tasks)
    (htasks : b.Takes task tasks) : (b.ran task tasks ahead).Tickets := by
  have hsub := mem_of_taken htasks
  have hnodup : (tasks.map (·.ticket)).Nodup ∧
      (task.isOnce = true → task.ticket ∉ tasks.map (·.ticket)) := by
    rcases htasks with ⟨-, hperm⟩ | ⟨hevery, rfl⟩
    · obtain ⟨hnot, hnodup⟩ := nodup_cons.1 ((hperm.map _).nodup_iff.1 h.tickets_nodup)
      exact ⟨hnodup, fun _ ↦ hnot⟩
    · exact ⟨h.tickets_nodup, fun honce ↦ absurd honce (by simp [hevery])⟩
  refine ⟨fun other hother ↦ h.ticket_lt other (hsub other hother), hnodup.1,
    forall_mem_run h.run_lt (h.ticket_lt task.scheduling hmem), forall_mem_run ?_ ?_, ?_⟩
  · exact fun run hrun honce other hother ↦ h.once_gone run hrun honce other (hsub other hother)
  · exact fun honce other hother heq ↦ hnodup.2 honce (mem_map.2 ⟨other, hother, heq⟩)
  · show ((List.filter _ (b.history.runs ++ _)).map _).Nodup
    rw [filter_append, map_append]
    refine nodup_append.2 ⟨h.once_nodup, ?_, ?_⟩
    · exact (nodup_singleton task.ticket).sublist (filter_sublist.map _)
    · intro ticket hold new hnew heq
      obtain ⟨run, hrun, rfl⟩ := mem_map.1 hold
      obtain ⟨run', hrun', rfl⟩ := mem_map.1 hnew
      rw [mem_singleton.1 (mem_of_mem_filter hrun')] at heq
      obtain ⟨hrun, honce⟩ := mem_filter.1 hrun
      exact h.once_gone run hrun honce _ hmem heq.symm

theorem Tickets.move (h : b.Tickets) (hahead : b.Ahead) (hmove : Move b c) : c.Tickets := by
  cases hmove with
  | schedule htasks hnew hjob => exact h.schedule htasks
  | note hprocessing hnote | start hidle hstart | skip hsublist hskip =>
    exact ⟨h.1, h.2, h.3, h.4, h.5⟩
  | remove hidle | finish hprocessing hnil =>
    obtain ⟨h₁, h₂, h₃, h₄, h₅⟩ := h.filter _
    exact ⟨h₁, h₂, h₃, h₄, h₅⟩
  | run hprocessing hdue hrun htasks =>
    exact h.run (hahead.ahead_mem _ (hrun.mem_iff.2 (mem_cons_self ..))) htasks

/-- A new scheduling is not among the removed ones. -/
theorem Removals.schedule (h : b.Removals)
    (htasks : tasks.Perm ((b.history.task job timing).scheduling :: b.tasks))
    (hjob : b.isProcessing = true → job ∉ b.removeTasks) :
    (b.scheduled job timing tasks ahead).Removals where
  removal_le removal hmem := Nat.le_succ_of_le (h.removal_le removal hmem)
  removed_iff task hmem := by
    rcases mem_cons.1 (htasks.mem_iff.1 hmem) with rfl | hold
    · have hfresh : ¬b.history.isRemoved (b.history.task job timing) = true := by
        rw [isRemoved_task h]
        exact Bool.false_ne_true
      refine iff_of_false hfresh ?_
      rcases hprocessing : b.isProcessing with - | -
      · rw [h.removeTasks_idle hprocessing]
        exact not_mem_nil
      · exact hjob hprocessing
    · exact h.removed_iff task hold
  removeTasks_idle := h.removeTasks_idle
  kept task hmem hremoved := by
    rcases mem_append.1 hmem with hold | hlast
    · exact (h.kept task hold hremoved).imp_left fun hin ↦
        htasks.mem_iff.2 (mem_cons_of_mem _ hin)
    · rw [mem_singleton.1 hlast]
      exact .inl (htasks.mem_iff.2 (mem_cons_self ..))

theorem Removals.removal_le_remove (h : b.Removals) (job : Job) :
    ∀ removal ∈ (b.history.remove job).removals, removal.2 ≤ b.history.tickets :=
  forall_mem_append.2 ⟨h.removal_le, forall_mem_singleton.2 (Nat.le_refl _)⟩

/-- During a pass the job is noted down, and its schedulings stay. -/
theorem Removals.note (h : b.Removals) (htickets : b.Tickets)
    (hprocessing : b.isProcessing = true) :
    ({ b with removeTasks := b.removeTasks ++ [job], history := b.history.remove job } :
      Board Job).Removals where
  removal_le := h.removal_le_remove job
  removed_iff task hmem := by
    show (b.history.remove job).isRemoved task = true ↔ task.job ∈ b.removeTasks ++ [job]
    rw [isRemoved_remove, h.removed_iff task hmem, mem_append, mem_singleton,
      eq_comm, and_iff_left (htickets.ticket_lt task hmem)]
  removeTasks_idle hidle := absurd (hprocessing.symm.trans hidle) (by decide)
  kept task hmem hremoved :=
    h.kept task hmem ((isRemoved_remove_eq_false b.history job task).1 hremoved).1

/-- Between the passes the schedulings of the job go at once. -/
theorem Removals.remove (h : b.Removals) (htickets : b.Tickets) :
    ({ b with tasks := b.tasks.filter (·.job ≠ job), history := b.history.remove job } :
      Board Job).Removals where
  removal_le := h.removal_le_remove job
  removed_iff task hmem := by
    obtain ⟨hmem, hne⟩ := mem_filter.1 hmem
    show (b.history.remove job).isRemoved task = true ↔ task.job ∈ b.removeTasks
    rw [isRemoved_remove, h.removed_iff task hmem, or_iff_left]
    exact fun heq ↦ (of_decide_eq_true hne) heq.1.symm
  removeTasks_idle := h.removeTasks_idle
  kept task hmem hremoved := by
    obtain ⟨hbefore, hother⟩ := (isRemoved_remove_eq_false b.history job task).1 hremoved
    refine (h.kept task hmem hbefore).imp_left fun hin ↦ mem_filter.2 ⟨hin, ?_⟩
    exact decide_eq_true fun heq ↦ (hother heq.symm).not_gt (htickets.ticket_lt task.scheduling hin)

/-- A run removes nothing. -/
theorem Removals.run (h : b.Removals) (htasks : b.Takes task tasks) :
    (b.ran task tasks ahead).Removals where
  removal_le := h.removal_le
  removed_iff other hother := h.removed_iff other (mem_of_taken htasks other hother)
  removeTasks_idle := h.removeTasks_idle
  kept other hmem hremoved := by
    rcases h.kept other hmem hremoved with hin | ⟨honce, run, hrun, heq⟩
    · rcases htasks with ⟨honce, hperm⟩ | ⟨-, rfl⟩
      · rcases mem_cons.1 (hperm.mem_iff.1 hin) with heq | hin
        · -- The task that runs is the one that was scheduled.
          have hother : other.isOnce = true := by rw [← Task.isOnce_scheduling, heq, honce]
          refine .inr ⟨hother, _, mem_append_right _ (mem_singleton_self _), ?_⟩
          exact heq.symm.trans (Task.scheduling_of_isOnce hother)
        · exact .inl hin
      · exact .inl hin
    · exact .inr ⟨honce, run, mem_append_left _ hrun, heq⟩

/-- At the end of a pass the schedulings of the noted jobs go. -/
theorem Removals.finish (h : b.Removals) :
    b.finished.Removals where
  removal_le := h.removal_le
  removed_iff task hmem := by
    obtain ⟨hmem, hnot⟩ := mem_filter.1 hmem
    refine iff_of_false (fun hremoved ↦ ?_) not_mem_nil
    have := (h.removed_iff task hmem).1 hremoved
    simp [this] at hnot
  removeTasks_idle _ := rfl
  kept task hmem hremoved := by
    refine (h.kept task hmem hremoved).imp_left fun hin ↦ mem_filter.2 ⟨hin, ?_⟩
    have hnot : task.job ∉ b.removeTasks := fun hnote ↦
      Bool.false_ne_true (hremoved.symm.trans ((h.removed_iff _ hin).2 hnote))
    simpa using hnot

theorem Removals.move (h : b.Removals) (htickets : b.Tickets) (hmove : Move b c) : c.Removals := by
  cases hmove with
  | schedule htasks hnew hjob => exact h.schedule htasks hjob
  | note hprocessing hnote => exact h.note htickets hprocessing
  | remove hidle => exact h.remove htickets
  | start hidle hstart =>
    exact ⟨h.removal_le, h.removed_iff, fun _ ↦ h.removeTasks_idle hidle, h.kept⟩
  | run hprocessing hdue hrun htasks => exact h.run htasks
  | skip hsublist hskip => exact ⟨h.removal_le, h.removed_iff, h.removeTasks_idle, h.kept⟩
  | finish hprocessing hnil => exact h.finish

omit [DecidableEq Job] in
/-- A new task that the pass will look at is not due. -/
theorem Ahead.schedule (h : b.Ahead) (htickets : b.Tickets)
    (htasks : tasks.Perm ((b.history.task job timing).scheduling :: b.tasks))
    (hahead : ahead = b.ahead ∨ b.isProcessing = true ∧
      ahead.Perm (b.history.task job timing :: b.ahead) ∧ timing.isDue b.frame = false) :
    (b.scheduled job timing tasks ahead).Ahead := by
  have hlt : ∀ task ∈ b.ahead, task.ticket < b.history.tickets := fun task hmem ↦
    htickets.ticket_lt task.scheduling (h.ahead_mem task hmem)
  have hcases : ∀ task ∈ ahead, task ∈ b.ahead ∨
      task = b.history.task job timing ∧ timing.isDue b.frame = false := by
    rcases hahead with rfl | ⟨-, hperm, hdue⟩
    · exact fun task hmem ↦ .inl hmem
    · exact fun task hmem ↦ (mem_cons.1 (hperm.mem_iff.1 hmem)).symm.imp_right (⟨·, hdue⟩)
  have hold : ∀ task ∈ b.ahead, task ∈ ahead := by
    rcases hahead with rfl | ⟨-, hperm, -⟩
    · exact fun task hmem ↦ hmem
    · exact fun task hmem ↦ hperm.mem_iff.2 (mem_cons_of_mem _ hmem)
  refine ⟨?_, ?_, ?_, ?_, h.run_le, ?_, ?_, ?_⟩
  · intro hidle
    rcases hahead with rfl | ⟨hprocessing, -⟩
    · exact h.ahead_idle hidle
    · exact absurd (hprocessing.symm.trans hidle) (by decide)
  · intro task hmem
    rcases hcases task hmem with hmem | ⟨rfl, -⟩
    · exact htasks.mem_iff.2 (mem_cons_of_mem _ (h.ahead_mem task hmem))
    · exact htasks.mem_iff.2 (mem_cons_self ..)
  · rcases hahead with rfl | ⟨-, hperm, -⟩
    · exact h.ahead_nodup
    · rw [(hperm.map _).nodup_iff, map_cons, nodup_cons]
      refine ⟨fun hmem ↦ ?_, h.ahead_nodup⟩
      obtain ⟨task, hmem, heq⟩ := mem_map.1 hmem
      exact absurd heq (hlt task hmem).ne
  · intro task hmem
    rcases mem_cons.1 (htasks.mem_iff.1 hmem) with rfl | hmem
    · exact Nat.le_refl _
    · exact h.born_le task hmem
  · intro task hmem run hrun heq
    rcases hcases task hmem with hmem | ⟨rfl, -⟩
    · exact h.fresh task hmem run hrun heq
    · exact absurd heq (htickets.run_lt run hrun).ne
  · intro task hmem hdue
    rcases hcases task hmem with hmem | ⟨rfl, hnot⟩
    · exact h.due task hmem hdue
    · exact absurd (hdue.symm.trans hnot) (by decide)
  · intro hprocessing task hmem honce hborn hdue
    rcases mem_cons.1 (htasks.mem_iff.1 hmem) with rfl | hmem
    · exact absurd hborn (Nat.lt_irrefl _)
    · exact hold task (h.due_ahead hprocessing task hmem honce hborn hdue)

omit [DecidableEq Job] in
/-- What the pass will still run is not of the noted job. -/
theorem Ahead.note (h : b.Ahead)
    (hahead : ∀ task ∈ b.ahead, task.job = job → task.timing.isDue b.frame = false) :
    ({ b with removeTasks := b.removeTasks ++ [job], history := b.history.remove job } :
      Board Job).Ahead where
  ahead_idle := h.ahead_idle
  ahead_mem := h.ahead_mem
  ahead_nodup := h.ahead_nodup
  born_le := h.born_le
  run_le := h.run_le
  fresh := h.fresh
  due task hmem hdue := by
    obtain ⟨hpresent, hnote, hborn⟩ := h.due task hmem hdue
    refine ⟨hpresent, fun hnew ↦ ?_, hborn⟩
    rcases mem_append.1 hnew with hold | hlast
    · exact hnote hold
    · exact absurd (hdue.symm.trans (hahead task hmem (mem_singleton.1 hlast))) (by decide)
  due_ahead := h.due_ahead

omit [DecidableEq Job] in
/-- Between the passes only the schedulings in force matter. -/
theorem Ahead.of_idle (hidle : b.isProcessing = false) (hahead : b.ahead = [])
    (hborn : ∀ task ∈ b.tasks, task.born ≤ b.history.pass)
    (hrun : ∀ run ∈ b.history.runs, run.pass ≤ b.history.pass) : b.Ahead where
  ahead_idle _ := hahead
  ahead_mem := by simp [hahead]
  ahead_nodup := by simp [hahead]
  born_le := hborn
  run_le := hrun
  fresh := by simp [hahead]
  due := by simp [hahead]
  due_ahead := by simp [hidle]

/-- At the start of a pass everything is ahead of it. -/
theorem Ahead.start {frame : ℤ} (h : b.Ahead) (htickets : b.Tickets)
    (hremovals : b.Removals) (hidle : b.isProcessing = false)
    (hahead : ahead.map Task.scheduling = b.tasks) :
    ({ b with
      ahead := ahead
      frame := frame
      isProcessing := true
      history := b.history.start (b.tasks.map (·.ticket)) } : Board Job).Ahead := by
  have hmem : ∀ task ∈ ahead, task.scheduling ∈ b.tasks := fun task htask ↦
    hahead ▸ mem_map_of_mem htask
  refine ⟨fun hidle ↦ absurd hidle.symm Bool.false_ne_true, hmem, ?_, ?_, ?_, ?_, ?_, ?_⟩
  · have heq : ahead.map (·.ticket) = b.tasks.map (·.ticket) := by
      rw [← hahead, map_map]
      rfl
    exact heq ▸ htickets.tickets_nodup
  · exact fun task htask ↦ Nat.le_succ_of_le (h.born_le task htask)
  · exact fun run hrun ↦ Nat.le_succ_of_le (h.run_le run hrun)
  · exact fun task htask run hrun heq ↦ Nat.lt_succ_of_le (h.run_le run hrun)
  · intro task htask hdue
    refine ⟨mem_map.2 ⟨task.scheduling, hmem task htask, rfl⟩, ?_, ?_⟩
    · rw [hremovals.removeTasks_idle hidle]
      exact not_mem_nil
    · exact Nat.lt_succ_of_le (h.born_le task.scheduling (hmem task htask))
  · intro _ task htask honce _ _
    obtain ⟨raw, hraw, rfl⟩ := mem_map.1 (hahead.symm ▸ htask)
    rw [Task.isOnce_scheduling] at honce
    rwa [Task.scheduling_of_isOnce honce]

/-- A task that runs is behind the pass. -/
theorem Ahead.run (h : b.Ahead) (htickets : b.Tickets) (hahead : b.ahead.Perm (task :: ahead))
    (htasks : b.Takes task tasks) : (b.ran task tasks ahead).Ahead := by
  have hold : ∀ other ∈ ahead, other ∈ b.ahead := fun other hmem ↦
    hahead.mem_iff.2 (mem_cons_of_mem _ hmem)
  obtain ⟨hnot, hnodup⟩ := nodup_cons.1 ((hahead.map _).nodup_iff.1 h.ahead_nodup)
  have hne : ∀ other ∈ ahead, task.ticket ≠ other.ticket := fun other hmem heq ↦
    hnot (mem_map.2 ⟨other, hmem, heq.symm⟩)
  have hsub : ∀ other ∈ tasks, other ∈ b.tasks ∧ (task.isOnce = true → other ≠ task) := by
    rcases htasks with ⟨-, hperm⟩ | ⟨hevery, rfl⟩
    · obtain ⟨hgone, -⟩ := nodup_cons.1 ((hperm.map _).nodup_iff.1 htickets.tickets_nodup)
      refine fun other hmem ↦ ⟨hperm.mem_iff.2 (mem_cons_of_mem _ hmem), ?_⟩
      rintro - rfl
      exact hgone (mem_map_of_mem hmem)
    · exact fun other hmem ↦ ⟨hmem, fun honce ↦ absurd (honce.symm.trans hevery) (by decide)⟩
  refine ⟨?_, ?_, hnodup, fun other hmem ↦ h.born_le other (hsub other hmem).1, ?_, ?_, ?_, ?_⟩
  · intro hidle
    have hnil := h.ahead_idle hidle
    rw [hnil] at hahead
    exact absurd hahead.symm.eq_nil (cons_ne_nil _ _)
  · intro other hmem
    have hin := h.ahead_mem other (hold other hmem)
    rcases htasks with ⟨-, hperm⟩ | ⟨-, rfl⟩
    · rcases mem_cons.1 (hperm.mem_iff.1 hin) with heq | hin
      · exact absurd (congrArg Task.ticket heq).symm (hne other hmem)
      · exact hin
    · exact hin
  · exact forall_mem_run h.run_le (Nat.le_refl _)
  · exact fun other hmem ↦ forall_mem_run (h.fresh other (hold other hmem))
      fun heq ↦ absurd heq (hne other hmem)
  · exact fun other hmem hdue ↦ h.due other (hold other hmem) hdue
  · intro hprocessing other hmem honce hborn hdue
    obtain ⟨hin, hother⟩ := hsub other hmem
    have hmem := h.due_ahead hprocessing other hin honce hborn hdue
    rcases mem_cons.1 (hahead.mem_iff.1 hmem) with rfl | hmem
    · exact absurd rfl (hother honce)
    · exact hmem

omit [DecidableEq Job] in
/-- What is left behind is not due. -/
theorem Ahead.skip (h : b.Ahead) (hsublist : ahead.Sublist b.ahead)
    (hahead : ∀ task ∈ b.ahead, task ∈ ahead ∨ task.timing.isDue b.frame = false) :
    ({ b with ahead := ahead } : Board Job).Ahead where
  ahead_idle hidle := sublist_nil.1 (h.ahead_idle hidle ▸ hsublist)
  ahead_mem task hmem := h.ahead_mem task (hsublist.subset hmem)
  ahead_nodup := h.ahead_nodup.sublist (hsublist.map _)
  born_le := h.born_le
  run_le := h.run_le
  fresh task hmem := h.fresh task (hsublist.subset hmem)
  due task hmem := h.due task (hsublist.subset hmem)
  due_ahead hprocessing task hmem honce hborn hdue :=
    (hahead task (h.due_ahead hprocessing task hmem honce hborn hdue)).resolve_right fun hnot ↦
      absurd (hdue.symm.trans hnot) (by decide)

theorem Ahead.move (h : b.Ahead) (htickets : b.Tickets) (hremovals : b.Removals)
    (hmove : Move b c) : c.Ahead := by
  cases hmove with
  | schedule htasks hnew hjob => exact h.schedule htickets htasks hnew
  | note hprocessing hnote => exact h.note hnote
  | remove hidle =>
    exact .of_idle hidle (h.ahead_idle hidle)
      (fun task hmem ↦ h.born_le task (mem_of_mem_filter hmem)) h.run_le
  | start hidle hstart => exact h.start htickets hremovals hidle hstart
  | run hprocessing hdue hrun htasks => exact h.run htickets hrun htasks
  | skip hsublist hskip => exact h.skip hsublist hskip
  | finish hprocessing hnil =>
    exact .of_idle rfl hnil
      (fun task hmem ↦ h.born_le task (mem_of_mem_filter hmem)) h.run_le

omit [DecidableEq Job] in
/-- A new scheduling has missed no pass. -/
theorem Runs.schedule (h : b.Runs)
    (htasks : tasks.Perm ((b.history.task job timing).scheduling :: b.tasks)) :
    (b.scheduled job timing tasks ahead).Runs where
  finished_le := h.finished_le
  later := h.later
  present := h.present
  not_removed := h.not_removed
  runs_nodup := h.runs_nodup
  first := h.first
  waiting task hmem frame htiming pass hpass hborn := by
    rcases mem_cons.1 (htasks.mem_iff.1 hmem) with rfl | hmem
    · exact absurd hborn (Nat.not_lt.2 (h.finished_le pass hpass))
    · exact h.waiting task hmem frame htiming pass hpass hborn

/-- A task that is still ahead of the pass, and due, is run as the contract asks for. -/
theorem Runs.run (h : b.Sound) (hdue : task.timing.isDue b.frame = true)
    (hahead : b.ahead.Perm (task :: ahead)) (htasks : b.Takes task tasks) :
    (b.ran task tasks ahead).Runs := by
  have hhead : task ∈ b.ahead := hahead.mem_iff.2 (mem_cons_self ..)
  have hmem : task.scheduling ∈ b.tasks := h.ahead.ahead_mem task hhead
  obtain ⟨hpresent, hnote, hborn⟩ := h.ahead.due task hhead hdue
  have hremoved : b.history.isRemoved task = false :=
    Bool.eq_false_iff.2 fun hremoved ↦ hnote ((h.removals.removed_iff _ hmem).1 hremoved)
  refine ⟨h.runs.finished_le, forall_mem_run h.runs.later hborn,
    forall_mem_run h.runs.present (contains_iff_mem.2 hpresent),
    forall_mem_run h.runs.not_removed hremoved, ?_, forall_mem_run h.runs.first ?_, ?_⟩
  · show ((b.history.runs ++ [_]).map _).Nodup
    rw [map_append]
    refine nodup_append.2 ⟨h.runs.runs_nodup, nodup_singleton _, ?_⟩
    intro entry hold new hnew heq
    obtain ⟨run, hrun, rfl⟩ := mem_map.1 hold
    rw [mem_singleton.1 hnew, Prod.mk.injEq] at heq
    exact absurd heq.2 (h.ahead.fresh task hhead run hrun heq.1).ne
  · intro frame htiming
    rw [Task.scheduling_of_isOnce (Task.isOnce_of_timing htiming)] at hmem
    have hle : task.timing.isDue b.frame = decide (frame ≤ b.frame) := by
      rw [show task.timing = .once frame from htiming]
      rfl
    refine ⟨of_decide_eq_true (hle ▸ hdue), fun pass hpass hlt _ ↦ ?_⟩
    exact h.runs.waiting task hmem frame htiming pass hpass hlt
  · exact fun other hother ↦ h.runs.waiting other (mem_of_taken htasks other hother)

/-- At the end of a pass nothing that waits, and was there before, is due. -/
theorem Runs.finish (h : b.Sound) (hprocessing : b.isProcessing = true) (hahead : b.ahead = []) :
    b.finished.Runs where
  finished_le :=
    forall_mem_append.2 ⟨h.runs.finished_le, forall_mem_singleton.2 (Nat.le_refl _)⟩
  later := h.runs.later
  present := h.runs.present
  not_removed := h.runs.not_removed
  runs_nodup := h.runs.runs_nodup
  first run hrun frame htiming := by
    refine (h.runs.first run hrun frame htiming).imp_right fun hfirst pass hpass hborn hlt ↦ ?_
    rcases mem_append.1 hpass with hpass | hlast
    · exact hfirst pass hpass hborn hlt
    · rw [mem_singleton.1 hlast] at hlt
      exact absurd hlt (Nat.not_lt.2 (h.ahead.run_le run hrun))
  waiting task hmem frame htiming pass hpass hborn := by
    have hmem := mem_of_mem_filter hmem
    rcases mem_append.1 hpass with hpass | hlast
    · exact h.runs.waiting task hmem frame htiming pass hpass hborn
    · rw [mem_singleton.1 hlast] at hborn ⊢
      by_contra hle
      have hdue : task.timing.isDue b.frame = true := by
        rw [htiming]
        exact decide_eq_true (not_lt.1 hle)
      have hin := h.ahead.due_ahead hprocessing task hmem (Task.isOnce_of_timing htiming) hborn hdue
      rw [hahead] at hin
      exact not_mem_nil hin

/-- Each move keeps the laws of the runs. -/
theorem Runs.move (h : b.Sound) (hmove : Move b c) : c.Runs := by
  obtain ⟨hfinished, hlater, hpresent, hremoved, hnodup, hfirst, hwaiting⟩ := h.runs
  cases hmove with
  | schedule htasks hnew hjob => exact h.runs.schedule htasks
  | note hprocessing hnote | skip hsublist hskip =>
    exact ⟨hfinished, hlater, hpresent, hremoved, hnodup, hfirst, hwaiting⟩
  | remove hidle =>
    exact ⟨hfinished, hlater, hpresent, hremoved, hnodup, hfirst,
      fun task hmem ↦ hwaiting task (mem_of_mem_filter hmem)⟩
  | start hidle hstart =>
    exact ⟨fun pass hpass ↦ Nat.le_succ_of_le (hfinished pass hpass), hlater, hpresent, hremoved,
      hnodup, hfirst, hwaiting⟩
  | run hprocessing hdue hrun htasks => exact Runs.run h hdue hrun htasks
  | finish hprocessing hnil => exact Runs.finish h hprocessing hnil

/-- **Each move keeps the invariant.** -/
theorem Sound.move (h : b.Sound) (hmove : Move b c) : c.Sound where
  tickets := h.tickets.move h.ahead hmove
  removals := h.removals.move h.tickets hmove
  ahead := h.ahead.move h.tickets h.removals hmove
  runs := Runs.move h hmove

/-- The invariant gives the contract. -/
theorem Sound.contract (h : b.Sound) : Contract b.history b.tasks where
  later := h.runs.later
  present := h.runs.present
  runs_nodup := h.runs.runs_nodup
  not_removed := h.runs.not_removed
  kept := h.removals.kept
  once_nodup := h.tickets.once_nodup
  first := h.runs.first
  ran task hmem hremoved frame htiming pass hpass hborn hle := by
    rcases h.removals.kept task hmem hremoved with hin | ⟨-, run, hrun, rfl⟩
    · rw [Task.scheduling_of_isOnce (Task.isOnce_of_timing htiming)] at hin
      exact absurd (h.runs.waiting task hin frame htiming pass hpass hborn) (not_lt.2 hle)
    · refine ⟨run, hrun, rfl, ?_⟩
      by_contra hlt
      have hfirst := (h.runs.first run hrun frame htiming).2 pass hpass hborn (Nat.not_le.1 hlt)
      exact absurd hfirst (not_lt.2 hle)

end Board

end HighBar.Circuit
