import HighBar.Grpc.CommandQueue
import HighBar.Grpc.CommandValidator

/-!
# SubmitCommands: from a batch to the queue

The read loop of the `SubmitCommands` call: a batch whose number does not increase within the stream
is stale; otherwise the batch is validated and its commands enter the queue in one `TryPushBatch`.
Any refusal ends the stream, and a clean end of stream answers with the running totals.

The main result connects the two independent classifications of the 66 arms with the target cast:
**a queued command is dispatched to the unit it names**, and to no unit exactly when it names none.
-/

namespace HighBar.Grpc

/-- `CommandAck`. -/
structure CommandAck where
  lastAcceptedBatchSeq : ℕ
  batchesAccepted : ℕ
  batchesRejectedInvalid : ℕ
  batchesRejectedFull : ℕ
  results : List CommandBatchResult
deriving Repr, DecidableEq

/-- How the stream is finished. -/
inductive SubmitFinish where
  | ok (ack : CommandAck)
  | invalidArgument (message : String)
  | resourceExhausted (message : String)
deriving Repr, DecidableEq

/-- `SubmitCommandsCallData`, past a successful claim of the AI slot. -/
structure SubmitCommandsCall where
  sessionId : String
  lastAcceptedBatchSeq : ℕ := 0
  lastSeenBatchSeq : ℕ := 0
  batchesAccepted : ℕ := 0
  batchesRejectedInvalid : ℕ := 0
  batchesRejectedFull : ℕ := 0
  results : List CommandBatchResult := []
  /-- Set when the stage is `kFinishing`. -/
  finish : Option SubmitFinish := none
deriving Repr, DecidableEq

/-- The rejection counters. -/
structure SubmissionCounters where
  rejectedInvalidArgument : ℕ
  rejectedResourceExhausted : ℕ
deriving Repr, DecidableEq

/-- What the call shares with the rest of the service. -/
structure SubmissionService where
  queue : CommandQueue
  /-- `none` when `counters_` is null. -/
  counters : Option SubmissionCounters

namespace SubmissionService

/-- Count a batch that was refused as invalid. -/
def countInvalidArgument (svc : SubmissionService) : SubmissionService :=
  { svc with
    counters := svc.counters.map fun c ↦
      { c with rejectedInvalidArgument := wrapAdd 64 c.rejectedInvalidArgument 1 } }

/-- Count a batch that found no room. -/
def countResourceExhausted (svc : SubmissionService) : SubmissionService :=
  { svc with
    counters := svc.counters.map fun c ↦
      { c with rejectedResourceExhausted := wrapAdd 64 c.rejectedResourceExhausted 1 } }

end SubmissionService

namespace SubmitCommandsCall

/-- The result reported for a stale batch number. -/
def staleResult (batch : CommandBatch) : CommandBatchResult where
  batchSeq := batch.batchSeq
  clientCommandId := batch.clientCommandId.getD 0
  status := .rejectedStale
  mode := .strict
  issues :=
    [{ code := .staleOrDuplicateBatchSeq
       fieldPath := "batch_seq"
       detail := "batch_seq must increase within a SubmitCommands stream"
       retryHint := .afterNextSnapshot
       batchSeq := batch.batchSeq
       clientCommandId := batch.clientCommandId.getD 0 }]

/-- The result reported when the queue is full. -/
def fullResult (batch : CommandBatch) (result : CommandBatchResult) : CommandBatchResult :=
  { result with
    status := .rejectedQueueFull
    acceptedCommandCount := 0
    issues := result.issues ++
      [{ code := .queueFull
         fieldPath := "commands"
         detail := "command queue full"
         retryHint := .afterQueueDrains
         batchSeq := batch.batchSeq
         clientCommandId := batch.clientCommandId.getD 0 }] }

/-- The acknowledgement at the end of the stream. -/
def ack (call : SubmitCommandsCall) : CommandAck where
  lastAcceptedBatchSeq := call.lastAcceptedBatchSeq
  batchesAccepted := call.batchesAccepted
  batchesRejectedInvalid := call.batchesRejectedInvalid
  batchesRejectedFull := call.batchesRejectedFull
  results := call.results

/-- `HandleReadDone`; `none` is the end of the stream. -/
def handleReadDone (env : ValidatorEnv) (settings : CommandValidationSettings)
    (call : SubmitCommandsCall) (svc : SubmissionService) :
    Option CommandBatch → SubmitCommandsCall × SubmissionService
  | none => ({ call with finish := some (.ok call.ack) }, svc)
  | some incoming =>
    if incoming.batchSeq ≤ call.lastSeenBatchSeq then
      ({ call with
          batchesRejectedInvalid := wrapAdd 64 call.batchesRejectedInvalid 1
          results := call.results ++ [staleResult incoming]
          finish := some (.invalidArgument "duplicate or stale batch_seq") },
        svc.countInvalidArgument)
    else
      let result := validateBatch env settings incoming
      if !result.ok then
        ({ call with
            batchesRejectedInvalid := wrapAdd 64 call.batchesRejectedInvalid 1
            results := call.results ++ [result.batchResult]
            finish := some (.invalidArgument result.error) },
          svc.countInvalidArgument)
      else
        let pushed := svc.queue.tryPushBatch (queuedCommands call.sessionId incoming)
        if !pushed.1 then
          ({ call with
              batchesRejectedFull := wrapAdd 64 call.batchesRejectedFull 1
              results := call.results ++ [fullResult incoming result.batchResult]
              finish := some (.resourceExhausted "command queue full") },
            svc.countResourceExhausted)
        else
          ({ call with
              batchesAccepted := wrapAdd 64 call.batchesAccepted 1
              lastAcceptedBatchSeq := incoming.batchSeq
              lastSeenBatchSeq := incoming.batchSeq
              results := call.results ++ [result.batchResult] },
            { svc with queue := pushed.2 })

variable {env : ValidatorEnv} {settings : CommandValidationSettings}

/-- **What reading a batch can do**: accept it, with a greater number and all its commands queued,
or refuse it, which queues nothing and finishes the stream with an error. -/
theorem handleReadDone_some (env : ValidatorEnv) (settings : CommandValidationSettings)
    (call : SubmitCommandsCall) (svc : SubmissionService) (batch : CommandBatch) :
    ((validateBatch env settings batch).ok = true ∧ call.lastSeenBatchSeq < batch.batchSeq ∧
      (handleReadDone env settings call svc (some batch)).1 =
        { call with
          batchesAccepted := wrapAdd 64 call.batchesAccepted 1
          lastAcceptedBatchSeq := batch.batchSeq
          lastSeenBatchSeq := batch.batchSeq
          results := call.results ++ [(acceptBatch settings batch).batchResult] } ∧
      (handleReadDone env settings call svc (some batch)).2.queue.queue =
        svc.queue.queue ++ queuedCommands call.sessionId batch) ∨
    ((handleReadDone env settings call svc (some batch)).2.queue = svc.queue ∧
      ∃ finish, (handleReadDone env settings call svc (some batch)).1.finish = some finish ∧
        ∀ ack, finish ≠ .ok ack) := by
  simp only [handleReadDone]
  split_ifs with hstale hok hpushed
  · exact Or.inr ⟨rfl, _, rfl, nofun⟩
  · exact Or.inr ⟨rfl, _, rfl, nofun⟩
  · exact Or.inr ⟨rfl, _, rfl, nofun⟩
  · have hvalid : (validateBatch env settings batch).ok = true := by simpa using hok
    refine Or.inl ⟨hvalid, Nat.not_le.1 hstale, ?_, ?_⟩
    · rw [validateBatch_of_ok hvalid]
    · rcases ProducerCall.tryPushBatch_spec svc.queue (queuedCommands call.sessionId batch) with
        hno | ⟨-, hqueue, -⟩
      · rw [hno] at hpushed
        exact absurd rfl hpushed
      · exact hqueue

/-- What a read can do to the queue: nothing, or append the children of a valid batch. -/
theorem queue_handleReadDone (env : ValidatorEnv) (settings : CommandValidationSettings)
    (call : SubmitCommandsCall) (svc : SubmissionService) (incoming : Option CommandBatch) :
    (handleReadDone env settings call svc incoming).2.queue = svc.queue ∨
    ∃ batch, incoming = some batch ∧ (validateBatch env settings batch).ok = true ∧
      (handleReadDone env settings call svc incoming).2.queue.queue =
        svc.queue.queue ++ queuedCommands call.sessionId batch := by
  rcases incoming with - | batch
  · exact Or.inl rfl
  · rcases handleReadDone_some env settings call svc batch with
      ⟨hvalid, -, -, hqueue⟩ | ⟨hqueue, -⟩
    · exact Or.inr ⟨batch, rfl, hvalid, hqueue⟩
    · exact Or.inl hqueue

/-- A queued command's dispatch target is the unit it names, or `-1` when it names none. -/
structure ReachesOnlyNamedUnit (env : ValidatorEnv) (queued : QueuedCommand) : Prop where
  gameWide : effectiveDispatchTargetUnitId queued.authoritativeTargetUnitId queued.command =
    some (-1) ↔ isGameWideCommand queued.command = true
  unitBound : isGameWideCommand queued.command = false →
    ∃ unitId, tryCommandUnitId queued.command = some unitId ∧
      effectiveDispatchTargetUnitId queued.authoritativeTargetUnitId queued.command =
        some unitId ∧
      1 ≤ unitId ∧ unitId ≤ 2 ^ 31 - 1 ∧ env.ownsLiveUnit unitId = true

/-- The children of a valid batch reach only the unit they name. -/
theorem reachesOnlyNamedUnit {batch : CommandBatch} {sessionId : String} {queued : QueuedCommand}
    (hok : (validateBatch env settings batch).ok = true)
    (hmem : queued ∈ queuedCommands sessionId batch) : ReachesOnlyNamedUnit env queued := by
  obtain ⟨-, -, -, htarget, hcmd⟩ := provenance_of_mem_queuedCommands hmem
  obtain ⟨hset, hunit⟩ := unitId_of_validateBatch hok hcmd
  have hclass := isGameWideCommand_iff_tryCommandUnitId hset
  -- a unit-bound command names the batch target, so the cast did not change it
  have hbound : isGameWideCommand queued.command = false →
      ∃ unitId, tryCommandUnitId queued.command = some unitId ∧
        effectiveDispatchTargetUnitId queued.authoritativeTargetUnitId queued.command =
          some unitId ∧
        1 ≤ unitId ∧ unitId ≤ 2 ^ 31 - 1 ∧ env.ownsLiveUnit unitId = true := by
    intro hgame
    obtain ⟨unitId, hid⟩ := Option.ne_none_iff_exists'.1 fun hnone ↦
      Bool.false_ne_true (hgame.symm.trans (hclass.2 hnone))
    obtain ⟨hpos, heq, howned⟩ := hunit unitId hid
    refine ⟨unitId, hid, ?_, hpos, ?_, howned⟩
    · rw [htarget, ← heq]
      exact effectiveDispatchTargetUnitId_of_pos hgame hpos
    · rw [heq]
      exact Int.le_sub_one_of_lt (toSigned_lt 32 batch.targetUnitId)
  refine ⟨⟨fun hminus ↦ ?_, effectiveDispatchTargetUnitId_of_gameWide⟩, hbound⟩
  by_contra hgame
  obtain ⟨unitId, -, hdispatch, hpos, -⟩ := hbound (Bool.not_eq_true _ ▸ hgame)
  rw [hminus] at hdispatch
  cases hdispatch
  omega

/-- **Submitted commands reach only the unit they name.** Whatever one read appends to the queue
comes from a batch that was just validated, and every entry of it is dispatched to `-1` exactly when
it is game-wide, and otherwise to the live, owned unit that it names itself. -/
theorem enqueued_reach_only_named_unit (env : ValidatorEnv) (settings : CommandValidationSettings)
    (call : SubmitCommandsCall) (svc : SubmissionService) (incoming : Option CommandBatch) :
    ∃ enqueued, (handleReadDone env settings call svc incoming).2.queue.queue =
        svc.queue.queue ++ enqueued ∧
      (∀ batch, incoming = some batch → enqueued ≠ [] →
        enqueued = queuedCommands call.sessionId batch) ∧
      ∀ queued ∈ enqueued, ReachesOnlyNamedUnit env queued := by
  rcases queue_handleReadDone env settings call svc incoming with
    hsame | ⟨batch, rfl, hok, hqueue⟩
  · refine ⟨[], by rw [hsame, List.append_nil], fun _ _ hne ↦ absurd rfl hne, ?_⟩
    intro queued hq
    cases hq
  · refine ⟨_, hqueue, fun _ heq _ ↦ ?_, fun queued hq ↦ reachesOnlyNamedUnit hok hq⟩
    cases heq
    rfl

end SubmitCommandsCall

end HighBar.Grpc
