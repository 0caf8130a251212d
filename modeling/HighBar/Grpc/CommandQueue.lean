import HighBar.Library.FixedWidth
import HighBar.Library.StepMachine
import HighBar.Proto.Commands

/-!
# CommandQueue: bounded admission of commands

The bounded queue between the gRPC workers and the engine thread, and the coordinator's admission
helper on top of it. Every member function holds the queue's mutex for its whole body, and
`AdmitCommandBatch` touches the queue in one `TryPushBatch` after its thread-local checks, so a call
is one atomic step and an interleaving is a list of calls.

## The bound is a field

`CommandQueue` carries `queue.length ≤ capacity`. The source subtracts `capacity_ - queue_.size()`
in `size_t` arithmetic, so the bound is what each push has to establish before the queue can be
built again, and `availableCapacity_eq` is what it buys: the subtraction never wraps.

## What a run guarantees

`AdmissionSystem` keeps, beside the queue, the log of all calls that have returned and everything
handed to the consumer. `ProducerCall.run_spec` says once what a producer call can do; from it
`admission_ledger` shows that nothing is lost, duplicated, reordered or torn apart, **in every
interleaving of any number of producers with the consumer**. The depth gauge is a `uint32`, so it
shows the depth modulo `2 ^ 32`.
-/

namespace HighBar.Grpc

open List

/-- One queue entry. -/
structure QueuedCommand where
  sessionId : String := ""
  batchSeq : ℕ := 0
  clientCommandId : ℕ := 0
  commandIndex : ℕ := 0
  /-- An `int32`. -/
  authoritativeTargetUnitId : ℤ := 0
  command : AICommand
deriving Repr, DecidableEq

/-- `CommandBatchAdmissionStatus`. -/
inductive CommandBatchAdmissionStatus where
  | kAccepted
  | kInvalidEmpty
  | kInvalidOversized
  | kInvalidTarget
  | kInvalidBatchSequence
  | kInvalidCorrelation
  | kQueueFull
deriving Repr, DecidableEq

/-- The answer of `AdmitCommandBatch`. -/
structure CommandBatchAdmission where
  status : CommandBatchAdmissionStatus
  acceptedCommandCount : ℕ
deriving Repr, DecidableEq

/-- The queue and its gauge. -/
structure CommandQueue where
  /-- `capacity_`, a `size_t`. -/
  capacity : ℕ
  queue : List QueuedCommand
  /-- `counters_->command_queue_depth`, or `none` when `counters_` is null. -/
  commandQueueDepth : Option ℕ
  capacity_lt : capacity < 2 ^ 64
  length_queue_le : queue.length ≤ capacity

namespace CommandQueue

/-! ### The member functions -/

/-- `CommandQueue::CommandQueue`; `gauge` is what a shared counter holds at that time. -/
def create (gauge : Option ℕ) (capacity : ℕ) (h : capacity < 2 ^ 64) : CommandQueue where
  capacity := capacity
  queue := []
  commandQueueDepth := gauge
  capacity_lt := h
  length_queue_le := Nat.zero_le _

/-- `Depth`. -/
def depth (q : CommandQueue) : ℕ := q.queue.length

/-- `AvailableCapacity`. -/
def availableCapacity (q : CommandQueue) : ℕ := wrapSub 64 q.capacity q.depth

/-- **The subtraction never wraps.** -/
theorem availableCapacity_eq (q : CommandQueue) : q.availableCapacity = q.capacity - q.depth :=
  wrapSub_of_le q.length_queue_le q.capacity_lt

/-- The gauge after storing a new depth: `static_cast<std::uint32_t>(queue_.size())`. -/
def storeDepth (gauge : Option ℕ) (size : ℕ) : Option ℕ := gauge.map fun _ ↦ size % 2 ^ 32

/-- `TryPush`. -/
def tryPush (q : CommandQueue) (cmd : QueuedCommand) : Bool × CommandQueue :=
  if h : q.capacity ≤ q.depth then (false, q)
  else
    (true,
      { q with
        queue := q.queue ++ [cmd]
        commandQueueDepth := storeDepth q.commandQueueDepth (q.queue ++ [cmd]).length
        length_queue_le := by
          rw [length_append, length_singleton]
          exact Nat.lt_of_not_le h })

/-- `TryPushBatch`. -/
def tryPushBatch (q : CommandQueue) (cmds : List QueuedCommand) : Bool × CommandQueue :=
  if h : q.availableCapacity < cmds.length then (false, q)
  else
    (true,
      { q with
        queue := q.queue ++ cmds
        commandQueueDepth := storeDepth q.commandQueueDepth (q.queue ++ cmds).length
        length_queue_le := by
          have hle := q.length_queue_le
          rw [availableCapacity_eq, depth] at h
          rw [length_append]
          omega })

/-- A batch that fits is accepted. -/
theorem tryPushBatch_ne_false {q : CommandQueue} {cmds : List QueuedCommand}
    (h : cmds.length ≤ q.capacity - q.depth) : (q.tryPushBatch cmds).1 ≠ false := by
  rw [tryPushBatch, dif_neg (by rw [availableCapacity_eq]; omega)]
  exact Bool.noConfusion

/-- The loop of `Drain`: move `budget` entries from the front of the queue to the end of `out`. -/
def drainLoop : ℕ → List QueuedCommand → List QueuedCommand →
    List QueuedCommand × List QueuedCommand
  | 0, out, queue => (out, queue)
  | _ + 1, out, [] => (out, [])
  | budget + 1, out, cmd :: queue => drainLoop budget (out ++ [cmd]) queue

/-- The loop splits the queue. -/
theorem drainLoop_append (budget : ℕ) (out queue : List QueuedCommand) :
    (drainLoop budget out queue).1 ++ (drainLoop budget out queue).2 = out ++ queue := by
  induction budget generalizing out queue with
  | zero => rfl
  | succ budget ih =>
    cases queue with
    | nil => rfl
    | cons cmd queue =>
      rw [drainLoop, ih, append_assoc, singleton_append]

theorem length_drainLoop_le (budget : ℕ) (out queue : List QueuedCommand) :
    (drainLoop budget out queue).2.length ≤ queue.length := by
  induction budget generalizing out queue with
  | zero => exact Nat.le_refl _
  | succ budget ih =>
    cases queue with
    | nil => exact Nat.le_refl _
    | cons cmd queue => exact Nat.le_succ_of_le (ih (out ++ [cmd]) queue)

/-- With a budget for all of it, the loop empties the queue. -/
theorem drainLoop_length (out queue : List QueuedCommand) :
    drainLoop queue.length out queue = (out ++ queue, []) := by
  induction queue generalizing out with
  | nil => rw [length_nil, drainLoop, append_nil]
  | cons cmd queue ih =>
    rw [length_cons, drainLoop, ih, append_assoc, singleton_append]

/-- How many entries `Drain` moves; `0` asks for all of them. -/
def budget (q : CommandQueue) (max : ℕ) : ℕ := if max = 0 then q.depth else min max q.depth

/-- `Drain`; a null `out` moves nothing and leaves the gauge alone. -/
def drain (q : CommandQueue) (out : Option (List QueuedCommand)) (max : ℕ) :
    ℕ × Option (List QueuedCommand) × CommandQueue :=
  match out with
  | none => (0, none, q)
  | some out =>
    let moved := drainLoop (q.budget max) out q.queue
    (q.budget max, some moved.1,
      { q with
        queue := moved.2
        commandQueueDepth := storeDepth q.commandQueueDepth moved.2.length
        length_queue_le := Nat.le_trans (length_drainLoop_le _ _ _) q.length_queue_le })

end CommandQueue

/-! ### Batches -/

/-- The entries of one batch: the batch's provenance on every child, numbered from zero. -/
def queuedCommands (sessionId : String) (batch : CommandBatch) : List QueuedCommand :=
  batch.commands.mapIdx fun i command ↦
    { sessionId := sessionId
      batchSeq := batch.batchSeq
      clientCommandId := batch.clientCommandId.getD 0
      commandIndex := i
      authoritativeTargetUnitId := toSigned 32 batch.targetUnitId
      command := command }

/-- Each command of a batch becomes one entry. -/
theorem length_queuedCommands (sessionId : String) (batch : CommandBatch) :
    (queuedCommands sessionId batch).length = batch.commands.length :=
  length_mapIdx

variable {batch : CommandBatch} {sessionId : String}

/-- Every child carries the batch's provenance. -/
theorem provenance_of_mem_queuedCommands {q : QueuedCommand}
    (h : q ∈ queuedCommands sessionId batch) :
    q.sessionId = sessionId ∧ q.batchSeq = batch.batchSeq ∧
      q.clientCommandId = batch.clientCommandId.getD 0 ∧
      q.authoritativeTargetUnitId = toSigned 32 batch.targetUnitId ∧
      q.command ∈ batch.commands := by
  obtain ⟨i, hi, rfl⟩ := mem_mapIdx.1 h
  exact ⟨rfl, rfl, rfl, rfl, getElem_mem hi⟩

/-- The children are numbered `0`, `1`, and so on. -/
theorem map_commandIndex_queuedCommands (sessionId : String) (batch : CommandBatch) :
    (queuedCommands sessionId batch).map QueuedCommand.commandIndex =
      List.range batch.commands.length := by
  refine ext_getElem ?_ fun i hi _ ↦ ?_
  · rw [length_map, length_queuedCommands, length_range]
  · simp only [queuedCommands, getElem_map, getElem_mapIdx, getElem_range]

/-- `kMaxCoordinatorBatchCommands`. -/
def kMaxCoordinatorBatchCommands : ℕ := 64

/-- `AdmitCommandBatch`. -/
def admitCommandBatch (queue : CommandQueue) (batch : CommandBatch) (sessionId : String) :
    CommandBatchAdmission × CommandQueue :=
  if batch.commands.length = 0 then (⟨.kInvalidEmpty, 0⟩, queue)
  else if kMaxCoordinatorBatchCommands < batch.commands.length then
    (⟨.kInvalidOversized, 0⟩, queue)
  else if 2 ^ 31 - 1 < batch.targetUnitId then (⟨.kInvalidTarget, 0⟩, queue)
  else if batch.batchSeq = 0 then (⟨.kInvalidBatchSequence, 0⟩, queue)
  else if batch.clientCommandId = none ∨ batch.clientCommandId = some 0 then
    (⟨.kInvalidCorrelation, 0⟩, queue)
  else if !(queue.tryPushBatch (queuedCommands sessionId batch)).1 then (⟨.kQueueFull, 0⟩, queue)
  else
    (⟨.kAccepted, batch.commands.length⟩,
      (queue.tryPushBatch (queuedCommands sessionId batch)).2)

/-- A batch that is admitted passed every check, and its children were pushed at once. -/
theorem admitCommandBatch_accepted {queue : CommandQueue}
    (h : (admitCommandBatch queue batch sessionId).1.status = .kAccepted) :
    (batch.commands.length ≤ kMaxCoordinatorBatchCommands ∧ batch.targetUnitId < 2 ^ 31 ∧
      batch.batchSeq ≠ 0 ∧ ∃ id, batch.clientCommandId = some id ∧ id ≠ 0) ∧
    (queue.tryPushBatch (queuedCommands sessionId batch)).1 = true ∧
    (admitCommandBatch queue batch sessionId).2 =
      (queue.tryPushBatch (queuedCommands sessionId batch)).2 := by
  rw [admitCommandBatch] at h ⊢
  split_ifs at h ⊢ with hempty hsize htarget hseq hcorr hpush
  obtain ⟨hnone, hzero⟩ := not_or.1 hcorr
  obtain ⟨id, hid⟩ := Option.ne_none_iff_exists'.1 hnone
  refine ⟨⟨by omega, by omega, hseq, id, hid, fun h0 ↦ hzero (h0 ▸ hid)⟩, ?_, rfl⟩
  simpa using hpush

/-- A batch that is not admitted leaves the queue as it was. -/
theorem admitCommandBatch_rejected {queue : CommandQueue}
    (h : (admitCommandBatch queue batch sessionId).1.status ≠ .kAccepted) :
    (admitCommandBatch queue batch sessionId).2 = queue := by
  rw [admitCommandBatch] at h ⊢
  split_ifs at h ⊢
  all_goals first | rfl | exact absurd rfl h

/-- Everything `AdmitCommandBatch` asks of a batch, and of the room in the queue. -/
def PassesAdmission (queue : CommandQueue) (batch : CommandBatch) : Prop :=
  batch.commands.length ≠ 0 ∧ batch.commands.length ≤ kMaxCoordinatorBatchCommands ∧
    batch.targetUnitId ≤ 2 ^ 31 - 1 ∧ batch.batchSeq ≠ 0 ∧
    batch.clientCommandId ≠ none ∧ batch.clientCommandId ≠ some 0 ∧
    batch.commands.length ≤ queue.capacity - queue.depth

instance (queue : CommandQueue) (batch : CommandBatch) : Decidable (PassesAdmission queue batch) :=
  inferInstanceAs (Decidable (_ ∧ _ ∧ _ ∧ _ ∧ _ ∧ _ ∧ _))

/-- **The checks are exact**: a batch is admitted if and only if it passes them. -/
theorem admitCommandBatch_accepted_iff (queue : CommandQueue) (batch : CommandBatch)
    (sessionId : String) :
    (admitCommandBatch queue batch sessionId).1.status = .kAccepted ↔
      PassesAdmission queue batch := by
  have hroom : (queue.tryPushBatch (queuedCommands sessionId batch)).1 = true ↔
      batch.commands.length ≤ queue.capacity - queue.depth := by
    rw [CommandQueue.tryPushBatch]
    split_ifs with hfull
    all_goals rw [CommandQueue.availableCapacity_eq, length_queuedCommands] at hfull
    · exact iff_of_false not_false (by omega)
    · exact iff_of_true rfl (by omega)
  simp only [admitCommandBatch, PassesAdmission, ← hroom]
  split_ifs with hempty hsize htarget hseq hcorr hpush
  · exact iff_of_false nofun fun h ↦ h.1 hempty
  · exact iff_of_false nofun fun h ↦ absurd hsize (Nat.not_lt.2 h.2.1)
  · exact iff_of_false nofun fun h ↦ absurd htarget (Nat.not_lt.2 h.2.2.1)
  · exact iff_of_false nofun fun h ↦ h.2.2.2.1 hseq
  · exact iff_of_false nofun fun h ↦ hcorr.elim h.2.2.2.2.1 h.2.2.2.2.2.1
  · exact iff_of_false nofun fun h ↦ by simp [h.2.2.2.2.2.2] at hpush
  · obtain ⟨hnone, hzero⟩ := not_or.1 hcorr
    exact iff_of_true rfl ⟨hempty, Nat.not_lt.1 hsize, Nat.not_lt.1 htarget, hseq, hnone, hzero,
      by simpa using hpush⟩

/-! ### Any number of producers and one consumer -/

/-- A producer's call. -/
inductive ProducerCall where
  | tryPush (cmd : QueuedCommand)
  | tryPushBatch (cmds : List QueuedCommand)
  | admitCommandBatch (batch : CommandBatch) (sessionId : String)
deriving Repr, DecidableEq

namespace ProducerCall

/-- What the call asks to be queued. -/
def commands : ProducerCall → List QueuedCommand
  | .tryPush cmd => [cmd]
  | .tryPushBatch cmds => cmds
  | .admitCommandBatch batch sessionId => queuedCommands sessionId batch

/-- Perform the call; the flag is whether it returned success. -/
def run (q : CommandQueue) : ProducerCall → Bool × CommandQueue
  | .tryPush cmd => q.tryPush cmd
  | .tryPushBatch cmds => q.tryPushBatch cmds
  | .admitCommandBatch batch sessionId =>
    (decide ((Grpc.admitCommandBatch q batch sessionId).1.status = .kAccepted),
      (Grpc.admitCommandBatch q batch sessionId).2)

/-- The queue after a successful push of `cmds`. -/
def Appends (q q' : CommandQueue) (cmds : List QueuedCommand) : Prop :=
  q'.queue = q.queue ++ cmds ∧ q'.capacity = q.capacity ∧
    q'.commandQueueDepth = CommandQueue.storeDepth q.commandQueueDepth q'.depth

/-- A batch is appended as a whole or not at all. -/
theorem tryPushBatch_spec (q : CommandQueue) (cmds : List QueuedCommand) :
    q.tryPushBatch cmds = (false, q) ∨
      (q.tryPushBatch cmds).1 = true ∧ Appends q (q.tryPushBatch cmds).2 cmds := by
  rw [CommandQueue.tryPushBatch]
  split_ifs
  · exact Or.inl rfl
  · exact Or.inr ⟨rfl, rfl, rfl, rfl⟩

/-- **What a producer call can do**: refuse and change nothing, or append all its commands. -/
theorem run_spec (q : CommandQueue) (call : ProducerCall) :
    call.run q = (false, q) ∨ (call.run q).1 = true ∧ Appends q (call.run q).2 call.commands := by
  cases call with
  | tryPush cmd =>
    rw [run, CommandQueue.tryPush]
    split_ifs
    · exact Or.inl rfl
    · exact Or.inr ⟨rfl, rfl, rfl, rfl⟩
  | tryPushBatch cmds => exact tryPushBatch_spec q cmds
  | admitCommandBatch batch sessionId =>
    by_cases hok : (Grpc.admitCommandBatch q batch sessionId).1.status = .kAccepted
    · obtain ⟨-, hpush, hqueue⟩ := admitCommandBatch_accepted hok
      rcases tryPushBatch_spec q (queuedCommands sessionId batch) with hfull | ⟨-, happ⟩
      · rw [hfull] at hpush
        cases hpush
      · refine Or.inr ⟨decide_eq_true hok, ?_⟩
        rw [run, hqueue]
        exact happ
    · rw [run, admitCommandBatch_rejected hok, decide_eq_false hok]
      exact Or.inl rfl

end ProducerCall

/-- The queue with its history. -/
structure AdmissionSystem where
  queue : CommandQueue
  /-- Every producer call that has returned and its answer, oldest first. -/
  history : List (ProducerCall × Bool)
  /-- Everything handed to the consumer, oldest first. -/
  drained : List QueuedCommand

/-- One atomic step: a producer's call, or a `Drain` with or without an output vector. -/
inductive AdmissionLabel where
  | produce (call : ProducerCall)
  | drain (hasOut : Bool) (max : ℕ)
deriving Repr, DecidableEq

namespace AdmissionSystem

/-- The commands of the calls that returned success, in order of admission. -/
def admitted (history : List (ProducerCall × Bool)) : List QueuedCommand :=
  (history.filter Prod.snd).flatMap fun entry ↦ entry.1.commands

/-- One more call admits its commands if it was accepted. -/
theorem admitted_concat (history : List (ProducerCall × Bool)) (call : ProducerCall) (ok : Bool) :
    admitted (history ++ [(call, ok)]) =
      admitted history ++ if ok then call.commands else [] := by
  cases ok <;> simp [admitted]

/-- One step. -/
def step (s : AdmissionSystem) : AdmissionLabel → Option AdmissionSystem
  | .produce call =>
    some { s with
      queue := (call.run s.queue).2
      history := s.history ++ [(call, (call.run s.queue).1)] }
  | .drain hasOut max =>
    let r := s.queue.drain (if hasOut then some s.drained else none) max
    some { s with queue := r.2.2, drained := r.2.1.getD s.drained }

/-- The queue of a given capacity, shared by producers and consumer. -/
def machine (gauge : Option ℕ) (capacity : ℕ) (h : capacity < 2 ^ 64) :
    StepMachine AdmissionSystem AdmissionLabel where
  init := { queue := .create gauge capacity h, history := [], drained := [] }
  step := step

variable {gauge : Option ℕ} {capacity : ℕ} {hcap : capacity < 2 ^ 64} {s t : AdmissionSystem}

/-- A producer's step, by its answer. -/
theorem step_produce {call : ProducerCall} (h : s.step (.produce call) = some t) :
    (t.history = s.history ++ [(call, false)] ∧ t.queue = s.queue ∧ t.drained = s.drained) ∨
    (t.history = s.history ++ [(call, true)] ∧ t.drained = s.drained ∧
      ProducerCall.Appends s.queue t.queue call.commands) := by
  cases h
  rcases ProducerCall.run_spec s.queue call with hno | ⟨hyes, happ⟩
  · refine Or.inl ⟨?_, ?_, rfl⟩
    · rw [hno]
    · rw [hno]
  · refine Or.inr ⟨?_, rfl, happ⟩
    rw [hyes]

/-- A consumer's step moves a front part of the queue, or nothing when there is no `out`. -/
theorem step_drain {hasOut : Bool} {max : ℕ} (h : s.step (.drain hasOut max) = some t) :
    t.history = s.history ∧ t.drained ++ t.queue.queue = s.drained ++ s.queue.queue ∧
      t.queue.capacity = s.queue.capacity ∧
      (hasOut = true → t.queue.commandQueueDepth =
        CommandQueue.storeDepth s.queue.commandQueueDepth t.queue.depth) := by
  cases h
  cases hasOut with
  | false => exact ⟨rfl, rfl, rfl, fun hc ↦ Bool.noConfusion hc⟩
  | true => exact ⟨rfl, CommandQueue.drainLoop_append _ _ _, rfl, fun _ ↦ rfl⟩

/-- **The ledger.** What was drained, followed by what is queued, is what was admitted. -/
theorem admission_ledger (hs : (machine gauge capacity hcap).Reachable s) :
    s.drained ++ s.queue.queue = admitted s.history ∧ s.queue.capacity = capacity := by
  refine StepMachine.invariant_of_reachable
    (I := fun s ↦ s.drained ++ s.queue.queue = admitted s.history ∧ s.queue.capacity = capacity)
    ⟨rfl, rfl⟩ (fun s label t hI hstep ↦ ?_) hs
  obtain ⟨hledger, hcapacity⟩ := hI
  cases label with
  | produce call =>
    rcases step_produce hstep with ⟨hhist, hq, hd⟩ | ⟨hhist, hd, hqueue, hc, -⟩
    · rw [hhist, admitted_concat, hq, hd]
      exact ⟨by simpa using hledger, hcapacity⟩
    · rw [hhist, admitted_concat, hqueue, hd, ← append_assoc, hledger, hc]
      exact ⟨rfl, hcapacity⟩
  | drain hasOut max =>
    obtain ⟨hhist, hkeep, hc, -⟩ := step_drain hstep
    rw [hhist, hkeep, hc]
    exact ⟨hledger, hcapacity⟩

/-- The commands of one successful call stay together. -/
theorem infix_of_admitted {call : ProducerCall} {history : List (ProducerCall × Bool)}
    (h : (call, true) ∈ history) : call.commands <:+: admitted history := by
  obtain ⟨before, after, hsplit⟩ := append_of_mem h
  refine ⟨admitted before, admitted after, ?_⟩
  rw [hsplit]
  simp [admitted]

/-- An accepted coordinator batch passed every check of `AdmitCommandBatch`. -/
theorem checks_of_accepted (hs : (machine gauge capacity hcap).Reachable s)
    (h : (.admitCommandBatch batch sessionId, true) ∈ s.history) :
    batch.targetUnitId < 2 ^ 31 ∧ ∃ id, batch.clientCommandId = some id := by
  revert h
  refine StepMachine.invariant_of_reachable
    (I := fun s ↦ (ProducerCall.admitCommandBatch batch sessionId, true) ∈ s.history →
      batch.targetUnitId < 2 ^ 31 ∧ ∃ id, batch.clientCommandId = some id)
    (fun h ↦ by cases h) (fun s label t hI hstep hmem ↦ ?_) hs
  cases label with
  | produce call =>
    cases hstep
    rcases mem_append.1 hmem with hold | hnew
    · exact hI hold
    · obtain ⟨rfl, hok⟩ := Prod.mk.inj (mem_singleton.1 hnew)
      obtain ⟨⟨-, htarget, -, id, hid, -⟩, -⟩ :=
        admitCommandBatch_accepted (of_decide_eq_true hok.symm)
      exact ⟨htarget, id, hid⟩
  | drain hasOut max =>
    rw [(step_drain hstep).1] at hmem
    exact hI hmem

/-- The children of an accepted coordinator batch. -/
structure CarriesProvenance (batch : CommandBatch) (sessionId : String)
    (children : List QueuedCommand) : Prop where
  commands : children.map QueuedCommand.command = batch.commands
  commandIndex : children.map QueuedCommand.commandIndex = List.range batch.commands.length
  sessionId : ∀ q ∈ children, q.sessionId = sessionId
  batchSeq : ∀ q ∈ children, q.batchSeq = batch.batchSeq
  clientCommandId : ∀ q ∈ children, some q.clientCommandId = batch.clientCommandId
  target : ∀ q ∈ children, q.authoritativeTargetUnitId = batch.targetUnitId

/-- The entries of a batch carry where they come from. -/
theorem carriesProvenance {id : ℕ} (htarget : batch.targetUnitId < 2 ^ 31)
    (hid : batch.clientCommandId = some id) (sessionId : String) :
    CarriesProvenance batch sessionId (queuedCommands sessionId batch) where
  commands := by
    refine ext_getElem ?_ fun i hi _ ↦ ?_
    · rw [length_map, length_queuedCommands]
    · simp only [queuedCommands, getElem_map, getElem_mapIdx]
  commandIndex := map_commandIndex_queuedCommands sessionId batch
  sessionId := fun _ hq ↦ (provenance_of_mem_queuedCommands hq).1
  batchSeq := fun _ hq ↦ (provenance_of_mem_queuedCommands hq).2.1
  clientCommandId := fun _ hq ↦ by
    rw [(provenance_of_mem_queuedCommands hq).2.2.1, hid, Option.getD_some]
  target := fun _ hq ↦ by
    rw [(provenance_of_mem_queuedCommands hq).2.2.2.1, toSigned_of_lt (by decide) htarget]

/-- The gauge shows the depth modulo `2 ^ 32`, which is the depth for any smaller capacity. -/
def GaugeShowsDepth (q : CommandQueue) : Prop :=
  ∀ shown ∈ q.commandQueueDepth,
    shown = q.depth % 2 ^ 32 ∧ (q.capacity < 2 ^ 32 → shown = q.depth)

theorem gaugeShowsDepth {q : CommandQueue} {gauge : Option ℕ}
    (h : q.commandQueueDepth = CommandQueue.storeDepth gauge q.depth) : GaugeShowsDepth q := by
  intro shown hshown
  rw [h] at hshown
  obtain ⟨-, -, rfl⟩ := Option.map_eq_some_iff.1 hshown
  exact ⟨rfl, fun hlt ↦ Nat.mod_eq_of_lt (Nat.lt_of_le_of_lt q.length_queue_le hlt)⟩

/-- **Admission is atomic, ordered and exactly-once.** In every state of every interleaving: the
ledger balances; each successful call's commands are contiguous and a coordinator batch's children
carry its provenance; the depth is within the capacity and the free space does not wrap; and the
next call either fails and changes nothing, or leaves the gauge showing the depth. -/
theorem admission_exactly_once (hs : (machine gauge capacity hcap).Reachable s) :
    s.drained ++ s.queue.queue = admitted s.history ∧
    (∀ call, (call, true) ∈ s.history → call.commands <:+: s.drained ++ s.queue.queue) ∧
    (∀ batch sessionId, (.admitCommandBatch batch sessionId, true) ∈ s.history →
      CarriesProvenance batch sessionId
        (ProducerCall.admitCommandBatch batch sessionId).commands) ∧
    (s.queue.depth ≤ capacity ∧ s.queue.availableCapacity = capacity - s.queue.depth) ∧
    (∀ call t, s.step (.produce call) = some t →
      (t.history = s.history ++ [(call, false)] ∧ t.queue = s.queue ∧ t.drained = s.drained) ∨
      (t.history = s.history ++ [(call, true)] ∧ GaugeShowsDepth t.queue)) ∧
    (∀ max t, s.step (.drain true max) = some t → GaugeShowsDepth t.queue) := by
  obtain ⟨hledger, hcapacity⟩ := admission_ledger hs
  refine ⟨hledger, fun call hcall ↦ ?_, fun batch sessionId hcall ↦ ?_, ⟨?_, ?_⟩,
    fun call t hstep ↦ ?_, fun max t hstep ↦ ?_⟩
  · rw [hledger]
    exact infix_of_admitted hcall
  · obtain ⟨htarget, id, hid⟩ := checks_of_accepted hs hcall
    exact carriesProvenance htarget hid sessionId
  · rw [← hcapacity]
    exact s.queue.length_queue_le
  · rw [s.queue.availableCapacity_eq, hcapacity]
  · rcases step_produce hstep with hno | ⟨hhist, -, -, -, hgauge⟩
    · exact Or.inl hno
    · exact Or.inr ⟨hhist, gaugeShowsDepth hgauge⟩
  · obtain ⟨-, -, -, hgauge⟩ := step_drain hstep
    exact gaugeShowsDepth (hgauge rfl)

/-- Two producers and a partial drain on a queue of capacity two. -/
def contendedRun : List AdmissionLabel :=
  let cmd : QueuedCommand := { command := .pauseTeam true }
  let batch : CommandBatch := ⟨7, 3, [.pauseTeam true, .pauseTeam false], some 9, none, none⟩
  [.produce (.tryPush cmd), .produce (.admitCommandBatch batch "a"), .drain true 1,
    .produce (.admitCommandBatch batch "a"), .drain true 1]

theorem admission_exactly_once_contendedRun :
    ∃ s, (machine (some 0) 2 (by decide)).Reachable s ∧
      s.history.map Prod.snd = [true, false, true] ∧ s.queue.depth = 1 ∧
      s.drained ++ s.queue.queue = admitted s.history := by
  have hs : (machine (some 0) 2 (by decide)).Reachable _ := ⟨contendedRun, rfl⟩
  exact ⟨_, hs, by decide, by decide, (admission_exactly_once hs).1⟩

/-- A batch that fills an empty queue is accepted, and the gauge shows its size modulo `2 ^ 32`. -/
theorem fill_with_batch {n : ℕ} {cmds : List QueuedCommand} (h : n < 2 ^ 64)
    (hlen : cmds.length = n) :
    ∃ s, (machine (some 0) n h).Reachable s ∧ s.history.map Prod.snd = [true] ∧
      s.queue.depth = n ∧ s.queue.commandQueueDepth = some (n % 2 ^ 32) := by
  have hfits : ((ProducerCall.tryPushBatch cmds).run (machine (some 0) n h).init.queue).1 ≠ false :=
    CommandQueue.tryPushBatch_ne_false (Nat.le_of_eq hlen)
  obtain ⟨t, ht⟩ : ∃ t, (machine (some 0) n h).init.step (.produce (.tryPushBatch cmds)) = some t :=
    ⟨_, rfl⟩
  refine ⟨t, ⟨[.produce (.tryPushBatch cmds)], ?_⟩, ?_⟩
  · exact (StepMachine.exec_cons_eq_some _).2 ⟨t, ht, rfl⟩
  rcases step_produce ht with ⟨hhist, -, -⟩ | ⟨hhist, -, hqueue, -, hgauge⟩
  · cases ht
    exact absurd (Prod.mk.inj (singleton_inj.1 (append_cancel_left hhist))).2 hfits
  · have hdepth : t.queue.depth = n := by
      rw [CommandQueue.depth, hqueue]
      exact hlen
    rw [hhist, hgauge, hdepth]
    exact ⟨rfl, rfl, rfl⟩

/-- **The gauge is not the depth** of a queue of `2 ^ 32` commands: it shows zero. -/
theorem gauge_ne_depth_at_two_pow_32 :
    ∃ s, (machine (some 0) (2 ^ 32) (by decide)).Reachable s ∧
      s.history.map Prod.snd = [true] ∧ s.queue.depth = 2 ^ 32 ∧
      s.queue.commandQueueDepth = some 0 := by
  have hlen : (List.replicate (2 ^ 32) ({ command := .notSet } : QueuedCommand)).length = 2 ^ 32 :=
    length_replicate
  obtain ⟨s, hs, hhist, hdepth, hgauge⟩ := fill_with_batch (by decide) hlen
  exact ⟨s, hs, hhist, hdepth, hgauge⟩

end AdmissionSystem

end HighBar.Grpc
