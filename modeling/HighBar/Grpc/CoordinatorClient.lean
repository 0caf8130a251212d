import HighBar.Grpc.CommandQueue

/-!
# The coordinator's command channel

`CommandReaderLoop` reads batches from the coordinator and admits each into the command queue. When
the stream closes it connects again after a pause, so one reader sees any number of streams, and
what the coordinator sends on each of them is not up to the reader.

## What the reader remembers

Between two batches the loop keeps counters and a pause, and **no batch number**. The other way into
the queue, a `SubmitCommands` stream, keeps the number of the last batch and refuses one that does
not increase. Here `AdmitCommandBatch` only asks that the number is not zero, so whether the
admitted numbers increase is decided by what the coordinator delivers: `admitted_increasing_iff`
says that they do, however full the queue is and wherever the streams break off, **exactly** if the
numbers of the well-formed batches increase in the order of delivery, over all streams.

The sink is shared. `others` stands for the other producers and the engine thread's drain, and may
leave any queue behind.
-/

namespace HighBar.Grpc

open List Option

/-- How far the reader is in its loop. -/
inductive ReaderPhase where
  /-- At the top of the loop. -/
  | connecting
  /-- In `Read`. -/
  | reading
  /-- In `Finish`. -/
  | closing
  /-- In the pause before the next attempt. -/
  | sleeping
  | exited
deriving Repr, DecidableEq

/-- The status `Finish` comes back with. -/
inductive ChannelStatus where
  | ok
  | cancelled
  | failed (code : ℕ)
deriving Repr, DecidableEq

/-- The reader thread of `CoordinatorClient`. -/
structure CoordinatorClient where
  pluginId : String
  /-- The command queue. -/
  sink : CommandQueue
  /-- `cmd_stopping_`. -/
  stopping : Bool
  phase : ReaderPhase
  backoffMs : ℕ
  batchesReceived : ℕ
  batchesAccepted : ℕ
  batchesRejectedInvalid : ℕ
  batchesRejectedFull : ℕ
  commandsReceived : ℕ
  /-- Every batch that was admitted, oldest first. -/
  admitted : List CommandBatch

/-- One step of the reader, of the coordinator, or of anyone else who uses the queue. -/
inductive ReaderLabel where
  /-- Other producers, the engine thread's drain. -/
  | others (sink : CommandQueue)
  /-- The destructor asks the reader to stop. -/
  | stop
  /-- The test of `cmd_stopping_` and `OpenCommandChannel`, which may return no reader. -/
  | connect (hasReader : Bool)
  /-- `Read` returned a batch. -/
  | read (batch : CommandBatch)
  /-- `Read` returned false. -/
  | readEnd
  | finish (status : ChannelStatus)
  | slept

/-- What the coordinator delivers in a step. -/
def ReaderLabel.delivers : ReaderLabel → List CommandBatch
  | .read batch => [batch]
  | _ => []

namespace CoordinatorClient

/-- One batch, from `Read` to the counters. -/
def admitBatch (s : CoordinatorClient) (batch : CommandBatch) : CoordinatorClient :=
  let admission := admitCommandBatch s.sink batch (s.pluginId ++ "-cmd-ch")
  let s : CoordinatorClient :=
    { s with sink := admission.2, batchesReceived := wrapAdd 64 s.batchesReceived 1 }
  if admission.1.status = .kAccepted then
    { s with
      batchesAccepted := wrapAdd 64 s.batchesAccepted 1
      commandsReceived := wrapAdd 64 s.commandsReceived admission.1.acceptedCommandCount
      admitted := s.admitted ++ [batch] }
  else if admission.1.status = .kQueueFull then
    { s with batchesRejectedFull := wrapAdd 64 s.batchesRejectedFull 1 }
  else
    { s with batchesRejectedInvalid := wrapAdd 64 s.batchesRejectedInvalid 1 }

/-- Once a stream is over: stop, or pause before the next. -/
def afterStream (s : CoordinatorClient) : CoordinatorClient :=
  { s with phase := if s.stopping then .exited else .sleeping }

/-- One step. -/
def step (s : CoordinatorClient) : ReaderLabel → Option CoordinatorClient
  | .others sink => some { s with sink := sink }
  | .stop => some { s with stopping := true }
  | .connect hasReader =>
    if s.phase = .connecting then
      some
        (if s.stopping then { s with phase := .exited }
        else if hasReader then { s with phase := .reading }
        else s.afterStream)
    else none
  | .read batch => if s.phase = .reading then some (s.admitBatch batch) else none
  | .readEnd => if s.phase = .reading then some { s with phase := .closing } else none
  | .finish status =>
    if s.phase = .closing then
      some (if status = .cancelled then { s with phase := .exited } else s.afterStream)
    else none
  | .slept =>
    if s.phase = .sleeping then
      some { s with phase := .connecting, backoffMs := min (s.backoffMs * 2) 5000 }
    else none

/-- The reader as `StartCommandChannel` starts it. -/
def machine (pluginId : String) (sink : CommandQueue) :
    StepMachine CoordinatorClient ReaderLabel where
  init :=
    { pluginId := pluginId
      sink := sink
      stopping := false
      phase := .connecting
      backoffMs := 200
      batchesReceived := 0
      batchesAccepted := 0
      batchesRejectedInvalid := 0
      batchesRejectedFull := 0
      commandsReceived := 0
      admitted := [] }
  step := step

/-! ### What is admitted -/

/-- What `AdmitCommandBatch` asks of a batch itself: everything but room in the queue. -/
def WellFormed (batch : CommandBatch) : Prop :=
  batch.commands.length ≠ 0 ∧ batch.commands.length ≤ kMaxCoordinatorBatchCommands ∧
    batch.targetUnitId ≤ 2 ^ 31 - 1 ∧ batch.batchSeq ≠ 0 ∧
    batch.clientCommandId ≠ none ∧ batch.clientCommandId ≠ some 0

instance (batch : CommandBatch) : Decidable (WellFormed batch) :=
  inferInstanceAs (Decidable (_ ∧ _ ∧ _ ∧ _ ∧ _ ∧ _))

/-- A batch is admitted exactly if it is well formed and there is room. -/
theorem passesAdmission_iff {queue : CommandQueue} {batch : CommandBatch} :
    PassesAdmission queue batch ↔
      WellFormed batch ∧ batch.commands.length ≤ queue.capacity - queue.depth := by
  simp only [PassesAdmission, WellFormed, and_assoc]

/-- What the coordinator delivers in a run, over all streams and oldest first. -/
def delivered (labels : List ReaderLabel) : List CommandBatch :=
  labels.flatMap ReaderLabel.delivers

/-- The batch a step admits. -/
def newlyAdmitted (s : CoordinatorClient) : ReaderLabel → List CommandBatch
  | .read batch => if PassesAdmission s.sink batch then [batch] else []
  | _ => []

variable {s t : CoordinatorClient}

/-- What a batch adds to the admitted ones. -/
theorem admitted_admitBatch (s : CoordinatorClient) (batch : CommandBatch) :
    (s.admitBatch batch).admitted = s.admitted ++ s.newlyAdmitted (.read batch) := by
  have hiff := admitCommandBatch_accepted_iff s.sink batch (s.pluginId ++ "-cmd-ch")
  rw [newlyAdmitted, ← if_congr hiff rfl rfl]
  simp only [admitBatch]
  split_ifs
  · rfl
  · exact (append_nil _).symm
  · exact (append_nil _).symm

/-- **What a step does to the admitted batches**: a read appends its batch if it passes the checks,
and no other step touches them. -/
theorem admitted_step {label : ReaderLabel} (hstep : s.step label = some t) :
    t.admitted = s.admitted ++ s.newlyAdmitted label := by
  rcases label with sink | - | hasReader | batch | - | status | -
  · cases hstep
    exact (append_nil _).symm
  · cases hstep
    exact (append_nil _).symm
  · obtain ⟨-, ⟨⟩⟩ := ite_none_right_eq_some.1 hstep
    refine Eq.trans ?_ (append_nil _).symm
    split_ifs <;> rfl
  · obtain ⟨-, ⟨⟩⟩ := ite_none_right_eq_some.1 hstep
    exact s.admitted_admitBatch batch
  · obtain ⟨-, ⟨⟩⟩ := ite_none_right_eq_some.1 hstep
    exact (append_nil _).symm
  · obtain ⟨-, ⟨⟩⟩ := ite_none_right_eq_some.1 hstep
    refine Eq.trans ?_ (append_nil _).symm
    split_ifs <;> rfl
  · obtain ⟨-, ⟨⟩⟩ := ite_none_right_eq_some.1 hstep
    exact (append_nil _).symm

/-- What a step admits is well-formed and was delivered by it. -/
theorem newlyAdmitted_sublist (s : CoordinatorClient) (label : ReaderLabel) :
    (s.newlyAdmitted label).Sublist (label.delivers.filter (WellFormed ·)) := by
  cases label with
  | read batch =>
    simp only [newlyAdmitted, ReaderLabel.delivers]
    split_ifs with hpasses
    · rw [filter_cons_of_pos (by simpa using (passesAdmission_iff.1 hpasses).1)]
      exact List.Sublist.refl _
    · exact nil_sublist _
  | _ => exact List.Sublist.refl _

/-- **What a run admits is a part of what was delivered in it**, in that order. -/
theorem admitted_exec {pluginId : String} {sink : CommandQueue} {labels : List ReaderLabel}
    (hrun : (machine pluginId sink).exec s labels = some t) :
    ∃ new, t.admitted = s.admitted ++ new ∧
      new.Sublist ((delivered labels).filter (WellFormed ·)) := by
  induction labels generalizing s with
  | nil =>
    cases hrun
    exact ⟨[], (append_nil _).symm, List.Sublist.refl _⟩
  | cons label labels ih =>
    obtain ⟨u, hstep, hrest⟩ := (machine pluginId sink).exec_cons_eq_some.1 hrun
    obtain ⟨new, hnew, hsub⟩ := ih hrest
    refine ⟨s.newlyAdmitted label ++ new, ?_, ?_⟩
    · rw [hnew, admitted_step hstep, append_assoc]
    · rw [delivered, flatMap_cons, filter_append]
      exact (s.newlyAdmitted_sublist label).append hsub

/-- The numbers of the batches increase strictly. -/
def Increasing (batches : List CommandBatch) : Prop :=
  batches.Pairwise fun earlier later ↦ earlier.batchSeq < later.batchSeq

instance (batches : List CommandBatch) : Decidable (Increasing batches) :=
  inferInstanceAs (Decidable (batches.Pairwise _))

/-- Deliveries on one stream, before each of which the queue was drained. -/
def drainedReads (sink : CommandQueue) (batches : List CommandBatch) : List ReaderLabel :=
  batches.flatMap fun batch ↦ [.others sink, .read batch]

theorem delivered_drainedReads (sink : CommandQueue) (batches : List CommandBatch) :
    delivered (drainedReads sink batches) = batches := by
  rw [delivered, drainedReads, flatMap_assoc]
  exact flatMap_singleton' batches

theorem phase_admitBatch (s : CoordinatorClient) (batch : CommandBatch) :
    (s.admitBatch batch).phase = s.phase := by
  simp only [admitBatch]
  split_ifs <;> rfl

/-- With room for the largest batch, a batch is admitted if it is well-formed. -/
theorem newlyAdmitted_of_room
    (hroom : kMaxCoordinatorBatchCommands ≤ s.sink.capacity - s.sink.depth)
    (batch : CommandBatch) :
    s.newlyAdmitted (.read batch) = [batch].filter (WellFormed ·) := by
  have hiff : PassesAdmission s.sink batch ↔ WellFormed batch :=
    passesAdmission_iff.trans (and_iff_left_of_imp fun hwf ↦ hwf.2.1.trans hroom)
  by_cases hwf : WellFormed batch
  · rw [filter_cons_of_pos (by simpa using hwf)]
    exact if_pos (hiff.2 hwf)
  · rw [filter_cons_of_neg (by simpa using hwf)]
    exact if_neg (mt hiff.1 hwf)

/-- With room for each, all that is well-formed is admitted. -/
theorem exec_drainedReads {pluginId : String} {first sink : CommandQueue}
    (hroom : kMaxCoordinatorBatchCommands ≤ sink.capacity - sink.depth)
    (batches : List CommandBatch) (hs : s.phase = .reading) :
    ∃ t, (machine pluginId first).exec s (drainedReads sink batches) = some t ∧
      t.admitted = s.admitted ++ batches.filter (WellFormed ·) := by
  induction batches generalizing s with
  | nil => exact ⟨s, rfl, (append_nil _).symm⟩
  | cons batch batches ih =>
    obtain ⟨u, hu, hsink, hphase, hadmitted⟩ : ∃ u, s.step (.others sink) = some u ∧
        u.sink = sink ∧ u.phase = .reading ∧ u.admitted = s.admitted := ⟨_, rfl, rfl, hs, rfl⟩
    obtain ⟨t, hrun, ht⟩ := ih ((u.phase_admitBatch batch).trans hphase)
    refine ⟨t, ?_, ?_⟩
    · exact ((machine pluginId first).exec_cons_eq_some).2
        ⟨u, hu, ((machine pluginId first).exec_cons_eq_some).2 ⟨_, if_pos hphase, hrun⟩⟩
    · subst hsink
      rw [ht, admitted_admitBatch, newlyAdmitted_of_room hroom, hadmitted, append_assoc,
        ← filter_append]
      rfl

/-- **The channel keeps batch numbers increasing exactly when the coordinator does.** The admitted
numbers increase strictly in every run with these deliveries, whatever the queue, the stream ends,
the reconnects and the steps of others, if and only if the numbers of the well-formed batches
increase in the order of delivery. -/
theorem admitted_increasing_iff (batches : List CommandBatch) :
    (∀ pluginId sink labels s, delivered labels = batches →
      (machine pluginId sink).exec (machine pluginId sink).init labels = some s →
        Increasing s.admitted) ↔
      Increasing (batches.filter (WellFormed ·)) := by
  constructor
  · intro hall
    let roomy : CommandQueue := .create none kMaxCoordinatorBatchCommands (by decide)
    obtain ⟨t, hrun, hadmitted⟩ := @exec_drainedReads
      { (machine "" roomy).init with phase := .reading } "" roomy roomy le_rfl batches rfl
    replace hadmitted : t.admitted = batches.filter (WellFormed ·) := hadmitted
    rw [← hadmitted]
    exact hall "" roomy (.connect true :: drainedReads roomy batches) t
      (delivered_drainedReads roomy batches) hrun
  · rintro hinc pluginId sink labels s rfl hrun
    obtain ⟨new, hnew, hsub⟩ := admitted_exec hrun
    rw [hnew]
    exact hinc.sublist hsub

/-- A batch the coordinator sends. -/
def sampleBatch (batchSeq : ℕ) : CommandBatch :=
  ⟨batchSeq, 7, [.stop ⟨7, 0, 0, 0⟩], some 9, none, none⟩

/-- A stream that delivers `first`, its loss, and a second stream that delivers `second`. -/
def reconnectRun (first second : CommandBatch) : List ReaderLabel :=
  [.connect true, .read first, .readEnd, .finish (.failed 14), .slept, .connect true, .read second]

/-- **A batch delivered again after a reconnect is admitted again**, and its command is queued
twice. -/
theorem admits_redelivered_batch :
    ∃ s, (machine "p" (.create none 8 (by decide))).exec
        (machine "p" (.create none 8 (by decide))).init
        (reconnectRun (sampleBatch 4) (sampleBatch 4)) = some s ∧
      s.admitted = [sampleBatch 4, sampleBatch 4] ∧ s.sink.depth = 2 ∧
      ¬Increasing s.admitted :=
  ⟨_, rfl, rfl, rfl, by decide⟩

end CoordinatorClient

end HighBar.Grpc
