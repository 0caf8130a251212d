import HighBar.Library.Counting
import HighBar.Library.StepMachine
import Mathlib.Logic.Function.Basic

/-!
# Pausing the worker threads

The schedulers share a few threads, which pop tasks from one queue and run those whose scheduler
still runs. `Release` of a scheduler while others go on clears its `isRunning` and then **pauses the
threads**: it raises `gWorkerPauseId`, waits until all have parked, removes its tasks, and raises
the id again.

`Pop` may return a task of any scheduler at any time: this only adds runs, so `RemoveAllIf` and the
null tasks are not needed. No thread reads `gPauseCount` before it sees the raised id, so the two
are written in one step.
-/

namespace HighBar.Circuit

open List Option

/-- Where a thread is in `WorkerThread`. -/
inductive WorkerPhase where
  /-- It has not read `gWorkerPauseId` yet. -/
  | starting
  | looping
  /-- It has seen another id, and is about to lock `gPauseMutex`. -/
  | parking
  /-- It waits for an id other than this. -/
  | parked (pauseId : ℕ)
  | popping
  | running (scheduler : ℕ)
deriving Repr, DecidableEq

/-- A thread: the id it has read last, and where it is. -/
structure Worker where
  workerPauseId : ℕ
  phase : WorkerPhase

/-- Where the main thread is in `Release`. -/
inductive ReleasePhase where
  | outside
  | waiting
  | paused
deriving Repr, DecidableEq

/-- The threads and what they share. -/
structure WorkerPool where
  isRunning : ℕ → Bool := fun _ ↦ true
  workerPauseId : ℕ := 0
  release : ReleasePhase := .outside
  pauseCount : Int := 0
  workThreads : List Worker

namespace WorkerPool

/-- One step of the main thread or of a worker. -/
inductive Label where
  /-- `Release` begins. -/
  | stop (scheduler : ℕ)
  | pause
  /-- `Release` goes on. -/
  | advance
  /-- A thread moves; `Pop` returns a task of the scheduler. -/
  | worker (i scheduler : ℕ)

/-- What a thread does next; `none` while it waits. -/
def moved (s : WorkerPool) (scheduler : ℕ) : Worker → Option Worker
  | ⟨_, .starting⟩ => some ⟨s.workerPauseId, .looping⟩
  | ⟨own, .looping⟩ => some ⟨own, if own ≠ s.workerPauseId then .parking else .popping⟩
  | ⟨_, .parking⟩ => some ⟨s.workerPauseId + 1, .parked s.workerPauseId⟩
  | ⟨own, .parked pauseId⟩ => if pauseId ≠ s.workerPauseId then some ⟨own, .popping⟩ else none
  | ⟨own, .popping⟩ => some ⟨own, if s.isRunning scheduler then .running scheduler else .looping⟩
  | ⟨own, .running _⟩ => some ⟨own, .looping⟩

/-- One step. -/
def step (s : WorkerPool) : Label → Option WorkerPool
  | .stop id => some { s with isRunning := Function.update s.isRunning id false }
  | .pause =>
    if s.release = .outside then
      some { s with
        pauseCount := s.workThreads.length
        workerPauseId := s.workerPauseId + 1
        release := .waiting }
    else none
  | .advance =>
    match s.release with
    | .outside => none
    | .waiting => if s.pauseCount = 0 then some { s with release := .paused } else none
    | .paused => some { s with workerPauseId := s.workerPauseId + 1, release := .outside }
  | .worker i scheduler => do
    let w ← s.workThreads[i]?
    let w' ← s.moved scheduler w
    some { s with
      workThreads := s.workThreads.set i w'
      pauseCount := s.pauseCount - (decide (w.phase = .parking)).toNat }

/-- After `StartThreads`. -/
def machine (threads : ℕ) : StepMachine WorkerPool Label :=
  ⟨{ workThreads := List.replicate threads ⟨0, .starting⟩ }, step⟩

variable {s t : WorkerPool} {w w' : Worker} {id scheduler threads : ℕ} {label : Label}

/-! ### The count of the threads -/

/-- The thread waits for the present pause to end. -/
def Halted (s : WorkerPool) (w : Worker) : Bool := w.phase = .parked s.workerPauseId

/-- What holds between any two steps. -/
structure Inv (s : WorkerPool) : Prop where
  parked_le : ∀ w ∈ s.workThreads, ∀ id, w.phase = .parked id → id ≤ s.workerPauseId
  /-- `gPauseCount` is the number of threads that have still to park. -/
  count : s.release ≠ .outside →
    s.pauseCount + s.workThreads.countP s.Halted = s.workThreads.length
  paused : s.release = .paused → s.pauseCount = 0

theorem inv_init (threads : ℕ) : (machine threads).init.Inv where
  parked_le w hw id hid := by
    obtain rfl := eq_of_mem_replicate hw
    cases hid
  count h := absurd rfl h
  paused := ReleasePhase.noConfusion

/-- When the count is zero, every thread has parked. -/
theorem Inv.halted (hs : s.Inv) (hrelease : s.release ≠ .outside) (hzero : s.pauseCount = 0)
    (hw : w ∈ s.workThreads) : w.phase = .parked s.workerPauseId := by
  have hcount := hs.count hrelease
  rw [hzero, Int.zero_add, Int.natCast_inj, countP_eq_length] at hcount
  exact of_decide_eq_true (hcount w hw)

/-- What a thread that moves was, and what it becomes. -/
theorem moved_spec (hmove : s.moved scheduler w = some w') :
    s.Halted w = false ∧ s.Halted w' = decide (w.phase = .parking) ∧
      (∀ id, w'.phase = .parked id → id ≤ s.workerPauseId) ∧
      ∀ id, w'.phase = .running id → s.isRunning id = true := by
  rcases w with ⟨own, - | - | - | pauseId | - | running⟩
  all_goals simp only [moved, ite_none_right_eq_some, Option.some.injEq] at hmove
  case parked =>
    obtain ⟨hne, rfl⟩ := hmove
    simp [Halted, hne]
  all_goals
    subst hmove
    simp [Halted]
  all_goals split_ifs <;> simp_all

/-- Every step keeps the count. -/
theorem Inv.step (hs : s.Inv) (hstep : s.step label = some t) : t.Inv := by
  cases label with
  | stop id => exact Option.some.inj hstep ▸ ⟨hs.parked_le, hs.count, hs.paused⟩
  | pause =>
    obtain ⟨-, heq⟩ := ite_none_right_eq_some.1 hstep
    cases heq
    refine ⟨fun w hw id hid ↦ Nat.le_succ_of_le (hs.parked_le w hw id hid), fun _ ↦ ?_,
      ReleasePhase.noConfusion⟩
    -- nobody is parked at an id that is just raised
    have hzero : s.workThreads.countP (·.phase = .parked (s.workerPauseId + 1)) = 0 :=
      countP_eq_zero.2 fun w hw h ↦
        Nat.not_succ_le_self _ (hs.parked_le w hw _ (of_decide_eq_true h))
    exact (congrArg (_ + Nat.cast ·) hzero).trans (Int.add_zero _)
  | advance =>
    simp only [WorkerPool.step] at hstep
    split at hstep
    · cases hstep
    · next hwaiting =>
      obtain ⟨hzero, heq⟩ := ite_none_right_eq_some.1 hstep
      exact Option.some.inj heq ▸
        ⟨hs.parked_le, fun _ ↦ hs.count (by simp [hwaiting]), fun _ ↦ hzero⟩
    · cases hstep
      exact ⟨fun w hw id hid ↦ Nat.le_succ_of_le (hs.parked_le w hw id hid),
        fun h ↦ absurd rfl h, ReleasePhase.noConfusion⟩
  | worker i scheduler =>
    obtain ⟨w, hw, hrest⟩ := bind_eq_some_iff.1 hstep
    obtain ⟨w', hmove, hset⟩ := bind_eq_some_iff.1 hrest
    cases hset
    obtain ⟨hold, hnew, hle, -⟩ := moved_spec hmove
    refine ⟨fun v hv ↦ (mem_or_eq_of_mem_set hv).elim (hs.parked_le v) (· ▸ hle),
      fun hrelease ↦ ?_, fun hpaused ↦ ?_⟩
    · have hset := countP_set_add (p := s.Halted) w' hw
      have hcount := hs.count hrelease
      rw [hold, hnew] at hset
      show s.pauseCount - _ + (s.workThreads.set i w').countP s.Halted = _
      rw [length_set]
      simp only [Bool.toNat_false] at hset
      omega
    · -- a halted thread does not move
      have hhalted := hs.halted (by simp [show s.release = _ from hpaused]) (hs.paused hpaused)
        (mem_of_getElem? hw)
      simp [Halted, hhalted] at hold

/-! ### A released scheduler is quiet -/

/-- No thread runs a task of the scheduler, and none will begin one. -/
def Quiet (id : ℕ) (s : WorkerPool) : Prop :=
  s.isRunning id = false ∧ ∀ w ∈ s.workThreads, w.phase ≠ .running id

/-- A scheduler that is quiet stays quiet. -/
theorem Quiet.step (h : s.Quiet id) (hstep : s.step label = some t) : t.Quiet id := by
  cases label with
  | stop other =>
    cases hstep
    exact ⟨by simp [Function.update_apply, h.1], h.2⟩
  | pause => exact Option.some.inj (ite_none_right_eq_some.1 hstep).2 ▸ h
  | advance =>
    simp only [WorkerPool.step] at hstep
    split at hstep
    · cases hstep
    · exact Option.some.inj (ite_none_right_eq_some.1 hstep).2 ▸ h
    · exact Option.some.inj hstep ▸ h
  | worker i scheduler =>
    obtain ⟨w, hw, hrest⟩ := bind_eq_some_iff.1 hstep
    obtain ⟨w', hmove, hset⟩ := bind_eq_some_iff.1 hrest
    cases hset
    refine ⟨h.1, fun v hv ↦ (mem_or_eq_of_mem_set hv).elim (h.2 v) ?_⟩
    rintro rfl hrunning
    simpa [h.1] using (moved_spec hmove).2.2.2 id hrunning

/-- **A released scheduler is quiet**: once `Release` has the threads paused, none is ever in a task
of the scheduler again. -/
theorem released_is_quiet (labels : List Label) (hs : (machine threads).Reachable s)
    (hoff : s.isRunning id = false) (hpaused : s.release = .paused)
    (hrun : (machine threads).exec s labels = some t) :
    ∀ w ∈ t.workThreads, w.phase ≠ .running id := by
  have hinv : s.Inv :=
    StepMachine.invariant_of_reachable (inv_init _) (fun _ _ _ h hstep ↦ h.step hstep) hs
  have hquiet : s.Quiet id := ⟨hoff, fun w hw h ↦ by
    simpa [h] using hinv.halted (by simp [hpaused]) (hinv.paused hpaused) hw⟩
  exact (StepMachine.invariant_of_exec (I := Quiet id) (fun _ _ _ h hstep ↦ h.step hstep) hquiet
    hrun).2

/-- A thread is in a task when its scheduler is released. -/
def releaseWhileRunning : List Label :=
  [.worker 0 5, .worker 1 5, .worker 0 5, .worker 0 5, .stop 5, .pause, .worker 1 5, .worker 1 5,
    .worker 0 5, .worker 0 5, .worker 0 5, .advance]

theorem released_is_quiet_whileRunning :
    ∃ s t, (machine 2).exec (machine 2).init releaseWhileRunning = some s ∧
      (machine 2).exec s [.advance, .worker 0 5] = some t ∧
      ∀ w ∈ t.workThreads, w.phase ≠ .running 5 := by
  have hs : (machine 2).exec (machine 2).init releaseWhileRunning = some _ := rfl
  exact ⟨_, _, hs, rfl, released_is_quiet [.advance, .worker 0 5] ⟨_, hs⟩ rfl rfl rfl⟩

end WorkerPool

end HighBar.Circuit
