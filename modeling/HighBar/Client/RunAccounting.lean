import HighBar.Client.FailureClassification
import HighBar.Library.Counting

/-!
# The accounts of a run

`build_run` sums up its records. `_summary_for_run` counts them by the status of the attempt, by the
mode and by the cause of the failure, and lists the commands that were newly verified and those that
were verified before and are no longer; `_comparison_for_run` subtracts the totals of the run
before. Each of those has filters of its own.

The accounts balance (`ItertestingRun.Accounts`, `verifiedTotal_add_regressed`), and what it rests
on is said of the records alone: each is consistent, and no two are of the same command, because no
two arms of the registry share a command id. The latter makes the dictionaries over the records
faithful, so the record a command had in the run before is found by its id.

What the contract issues are, and whether the metadata was understood, comes from outside
(`RunInputs`), as does the clock.
-/

namespace HighBar.Client

open KeyedLog List Option

/-! ### The actions -/

/-- `ActionStatus`. -/
inductive ActionStatus where
  | planned
  | applied
  | superseded
  | rejected
deriving Repr, DecidableEq

/-- `ImprovementAction`. -/
structure ImprovementAction where
  actionId : String
  commandId : String
  actionType : ActionType
  triggerReason : String
  appliesToRunId : String
  status : ActionStatus
  details : String
deriving Repr, DecidableEq

/-- `_action_id`. -/
def actionId (commandId : String) (sequenceIndex : ℤ) : String :=
  commandId ++ "-" ++
    if 0 ≤ sequenceIndex ∧ sequenceIndex < 10 then "0" ++ toString sequenceIndex
    else toString sequenceIndex

/-- The action for a record that is not verified: its type, and what it says. -/
def plannedAction (record : RunRecord) (cheatEnabled : Bool) : ActionType × String :=
  if naturalImprovable.contains record.commandName then
    (.timingChange, "Retry with a narrower target window and stronger evidence capture.")
  else if cheatOnly.contains record.commandName && !cheatEnabled then
    (.cheatEscalation, "Escalate to the cheat startscript if natural progress stalls.")
  else if record.improvementState = .candidate then
    (.setupChange, textOr record.improvementNote "Retry with improved setup.")
  else (.skipNoBetterAction, textOr record.improvementNote "No better next action remains.")

/-- `_build_actions`. -/
def buildActions (records : List RunRecord) (currentRunId nextRunToken : String)
    (cheatEnabled : Bool) (priorInstructions : String → Option ImprovementInstruction) :
    List ImprovementAction :=
  records.filterMap fun record ↦
    if record.verified then
      if record.improvementState = .applied then
        some
          { actionId := actionId record.commandId 0
            commandId := record.commandId
            actionType :=
              if record.verificationMode = .cheatAssisted then .cheatEscalation else .timingChange
            triggerReason := "prior run left the command unverified"
            appliesToRunId := currentRunId
            status := .applied
            details := textOr record.improvementNote "Applied a targeted retry change." }
      else none
    else
      some
        { actionId := actionId record.commandId
            (((priorInstructions record.commandId).map (·.revision)).getD 0)
          commandId := record.commandId
          actionType := (plannedAction record cheatEnabled).1
          triggerReason := textOr (record.blockingReason.getD "") "unverified"
          appliesToRunId := nextRunToken
          status := .planned
          details := (plannedAction record cheatEnabled).2 }

/-! ### Summaries and comparisons -/

/-- `GuidanceMode`. -/
inductive GuidanceMode where
  | withheld
  | secondaryOnly
  | normal
deriving Repr, DecidableEq

/-- `ImprovementEligibility`, as far as the run reads it. -/
structure ImprovementEligibility where
  contractHealthStatus : ContractHealthStatus
  guidanceMode : GuidanceMode
deriving Repr, DecidableEq

/-- The eligibility that `_contract_health_for_run` gives with a status. -/
def ContractHealthStatus.eligibility (status : ContractHealthStatus) : ImprovementEligibility :=
  match status with
  | .needsPatternReview => ⟨status, .withheld⟩
  | .blockedFoundational => ⟨status, .secondaryOnly⟩
  | .readyForItertesting => ⟨status, .normal⟩

/-- `RunSummary`, as `_summary_for_run` fills it in. -/
structure RunSummary where
  runId : String
  trackedCommands : ℕ
  verifiedTotal : ℕ
  verifiedNatural : ℕ
  verifiedCheatAssisted : ℕ
  inconclusiveTotal : ℕ
  blockedTotal : ℕ
  failedTotal : ℕ
  newlyVerified : List String
  regressed : List String
  stalled : List String
  directCommandsBlockedByFixture : ℕ
  transportInterrupted : Bool
  armRulesTunedCount : ℕ
  manualRestartRequired : Bool
  missingFixtureTotal : ℕ
  transportInterruptionTotal : ℕ
  predicateOrEvidenceGapTotal : ℕ
  behavioralFailureTotal : ℕ
  foundationalBlockerTotal : ℕ
  patternReviewTotal : ℕ
  contractHealthStatus : ContractHealthStatus
  improvementGuidanceMode : GuidanceMode
deriving Repr, DecidableEq

/-- `RunComparison`. -/
structure RunComparison where
  previousRunId : String
  currentRunId : String
  coverageDelta : ℤ
  naturalDelta : ℤ
  cheatDelta : ℤ
  changedCommands : List String
  improvementActionsApplied : List String
  stallDetected : Bool
deriving Repr, DecidableEq

/-- `ItertestingRun`, as far as the next run, the summary and the instructions read it. -/
structure ItertestingRun where
  runId : String
  startedAt : String
  completedAt : String
  setupMode : SetupMode
  commandRecords : List RunRecord
  improvementActions : List ImprovementAction
  summary : RunSummary
  channelHealth : ChannelHealthOutcome
  verificationRules : List ArmVerificationRule
  failureClassifications : List RunFailureClassification
  contractIssues : List CommandContractIssue
  improvementEligibility : ImprovementEligibility
  previousRunComparison : Option RunComparison := none
deriving Repr, DecidableEq

/-- `previous_map.get(item.command_id, item)`. -/
def previousRecord (previousRun : Option ItertestingRun) (item : RunRecord) : RunRecord :=
  (index (·.commandId) ((previousRun.map (·.commandRecords)).getD []) item.commandId).getD item

/-- The command was not verified before. -/
def isNewlyVerified (previousRun : Option ItertestingRun) (item : RunRecord) : Bool :=
  item.verified && (previousRun.isNone || !(previousRecord previousRun item).verified)

/-- The command was verified before. -/
def isRegressed (previousRun : Option ItertestingRun) (item : RunRecord) : Bool :=
  !item.verified && (previousRecord previousRun item).verified

/-- `_summary_for_run`. -/
def summaryForRun (runId : String) (records : List RunRecord)
    (previousRun : Option ItertestingRun)
    (failureClassifications : List RunFailureClassification)
    (channelHealth : ChannelHealthOutcome) (verificationRules : List ArmVerificationRule)
    (contractIssues : List CommandContractIssue)
    (improvementEligibility : ImprovementEligibility) : RunSummary :=
  let causeTotal := fun (cause : FailureCause) ↦
    failureClassifications.countP fun item ↦ item.primaryCause = cause
  { runId := runId
    trackedCommands := records.length
    verifiedTotal := records.countP (·.verified)
    verifiedNatural := records.countP fun item ↦
      item.verified && item.verificationMode = .natural
    verifiedCheatAssisted := records.countP fun item ↦
      item.verified && item.verificationMode = .cheatAssisted
    inconclusiveTotal := records.countP fun item ↦ item.attemptStatus = .inconclusive
    blockedTotal := records.countP fun item ↦ item.attemptStatus = .blocked
    failedTotal := records.countP fun item ↦ item.attemptStatus = .failed
    newlyVerified := (records.filter (isNewlyVerified previousRun)).map (·.commandId)
    regressed := (records.filter (isRegressed previousRun)).map (·.commandId)
    stalled := (records.filter fun item ↦
      !item.verified && item.improvementState = .exhausted).map (·.commandId)
    directCommandsBlockedByFixture := causeTotal .missingFixture
    transportInterrupted := channelHealth.status ≠ .healthy
    armRulesTunedCount := verificationRules.countP fun item ↦ item.ruleMode ≠ .generic
    manualRestartRequired := false
    missingFixtureTotal := causeTotal .missingFixture
    transportInterruptionTotal := causeTotal .transportInterruption
    predicateOrEvidenceGapTotal := causeTotal .predicateOrEvidenceGap
    behavioralFailureTotal := causeTotal .behavioralFailure
    foundationalBlockerTotal := contractIssues.length
    patternReviewTotal := contractIssues.countP fun item ↦ item.issueClass = .needsPatternReview
    contractHealthStatus := improvementEligibility.contractHealthStatus
    improvementGuidanceMode := improvementEligibility.guidanceMode }

/-- `_comparison_for_run`. -/
def comparisonForRun (currentRun : ItertestingRun) (previousRun : Option ItertestingRun) :
    Option RunComparison :=
  previousRun.map fun previous ↦
    let coverageDelta : ℤ := currentRun.summary.verifiedTotal - previous.summary.verifiedTotal
    { previousRunId := previous.runId
      currentRunId := currentRun.runId
      coverageDelta := coverageDelta
      naturalDelta := currentRun.summary.verifiedNatural - previous.summary.verifiedNatural
      cheatDelta :=
        currentRun.summary.verifiedCheatAssisted - previous.summary.verifiedCheatAssisted
      changedCommands := (currentRun.commandRecords.filter fun item ↦
        index (·.commandId) previous.commandRecords item.commandId ≠ some item).map (·.commandId)
      improvementActionsApplied := (currentRun.improvementActions.filter fun item ↦
        item.status = .applied).map (·.actionId)
      stallDetected := coverageDelta ≤ 0 }

/-! ### `build_run` -/

/-- A row of a live run, as `split_command_and_metadata_rows` tells them apart. -/
inductive LiveRow where
  | command (row : LiveCommandRow)
  | metadata (record : MetadataRecord)
deriving Repr, DecidableEq

/-- The arguments of `build_run`, and what it learns from the clock and from the contract issues. -/
structure RunInputs where
  campaignId : String
  runId : String
  sequenceIndex : ℤ
  cheatEnabled : Bool
  priorInstructions : String → Option ImprovementInstruction
  liveRows : Option (List LiveRow)
  startedAt : String
  collectedAt : String
  completedAt : String
  contractIssues : List CommandContractIssue
  /-- The issue ids of the deterministic repros. -/
  reproIssueIds : List String
  fullyInterpreted : Bool

namespace RunInputs

/-- `capture.command_rows`. -/
def commandRows (inputs : RunInputs) : List LiveCommandRow :=
  (inputs.liveRows.getD []).filterMap fun
    | .command row => some row
    | .metadata _ => none

/-- `build_live_execution_capture`. -/
def capture (inputs : RunInputs) : LiveExecutionCapture where
  setupMode := if inputs.cheatEnabled then .cheatAssisted else .natural
  commandRows := inputs.commandRows.map (·.toCommandRow)
  metadataRecords := (inputs.liveRows.getD []).filterMap fun
    | .command _ => none
    | .metadata record => some record
  collectedAt := inputs.collectedAt

/-- The record of an arm. Of several rows of the arm the last one counts. -/
def recordOf (inputs : RunInputs) (arm : String × Category) : RunRecord :=
  let priorInstruction := inputs.priorInstructions (commandId arm.1)
  match inputs.liveRows with
  | none =>
    recordForCommand inputs.runId arm inputs.sequenceIndex inputs.cheatEnabled priorInstruction
  | some _ =>
    recordFromLiveRow inputs.runId
      ((index (·.armName) inputs.commandRows arm.1).getD (missingRow arm)) inputs.sequenceIndex
      inputs.cheatEnabled priorInstruction

/-- `command_records`. -/
def commandRecords (inputs : RunInputs) : List RunRecord :=
  orderedArms.map inputs.recordOf

/-- `channel_health`. -/
def channelHealth (inputs : RunInputs) : ChannelHealthOutcome :=
  channelHealthForRun inputs.runId inputs.commandRecords inputs.capture.commandRows

/-- `failure_classifications`. -/
def failureClassifications (inputs : RunInputs) : List RunFailureClassification :=
  let commandRows := inputs.capture.commandRows
  failureClassificationsForRun inputs.commandRecords
    (fixtureProvisioningForTransitions inputs.runId
      (inputs.capture.fixtureTransitions inputs.collectedAt) inputs.collectedAt)
    (transportCompatibilityChecks commandRows (transportStatusFromRows commandRows).1)
    inputs.channelHealth defaultVerificationRules

/-- `improvement_eligibility`, from `_contract_health_for_run`. -/
def improvementEligibility (inputs : RunInputs) : ImprovementEligibility :=
  (contractHealthForRun
    { commandRecords := inputs.commandRecords.map (·.toCommandVerificationRecord)
      contractIssues := inputs.contractIssues
      reproIssueIds := inputs.reproIssueIds
      failureClassifications :=
        inputs.failureClassifications.map (·.toFailureCauseClassification)
      fullyInterpreted := inputs.fullyInterpreted
      enforceLiveCloseoutGate := inputs.liveRows.isSome }).decisionStatus.eligibility

/-- `actions`: none unless guidance is normal. -/
def actions (inputs : RunInputs) : List ImprovementAction :=
  if inputs.improvementEligibility.guidanceMode = .normal then
    buildActions inputs.commandRecords inputs.runId
      (inputs.campaignId ++ "-next-" ++ toString (inputs.sequenceIndex + 1)) inputs.cheatEnabled
      inputs.priorInstructions
  else []

end RunInputs

/-- `build_run`. -/
def buildRun (inputs : RunInputs) (previousRun : Option ItertestingRun) : ItertestingRun :=
  let summary := summaryForRun inputs.runId inputs.commandRecords previousRun
    inputs.failureClassifications inputs.channelHealth defaultVerificationRules
    inputs.contractIssues inputs.improvementEligibility
  let run : ItertestingRun :=
    { runId := inputs.runId
      startedAt := inputs.startedAt
      completedAt := inputs.completedAt
      setupMode :=
        if summary.verifiedTotal ≠ 0 ∧ summary.verifiedTotal = summary.verifiedCheatAssisted then
          .cheatAssisted
        else if summary.verifiedCheatAssisted ≠ 0 then .mixed
        else .natural
      commandRecords := inputs.commandRecords
      improvementActions := inputs.actions
      summary := summary
      channelHealth := inputs.channelHealth
      verificationRules := defaultVerificationRules
      failureClassifications := inputs.failureClassifications
      contractIssues := inputs.contractIssues
      improvementEligibility := inputs.improvementEligibility }
  { run with previousRunComparison := comparisonForRun run previousRun }

section BuildRun

variable (inputs : RunInputs) (previousRun : Option ItertestingRun)

theorem commandRecords_buildRun :
    (buildRun inputs previousRun).commandRecords = inputs.commandRecords :=
  rfl

theorem failureClassifications_buildRun :
    (buildRun inputs previousRun).failureClassifications = inputs.failureClassifications :=
  rfl

theorem summary_buildRun :
    (buildRun inputs previousRun).summary = summaryForRun inputs.runId inputs.commandRecords
      previousRun inputs.failureClassifications inputs.channelHealth defaultVerificationRules
      inputs.contractIssues inputs.improvementEligibility :=
  rfl

end BuildRun

/-! ### The records -/

/-- **No two arms share a command id.** -/
theorem nodup_commandId_orderedArms : (orderedArms.map fun arm ↦ commandId arm.1).Nodup := by
  have hperm : orderedArms.Perm registryArms := by
    unfold orderedArms
    exact perm_insertionSort _ registryArms
  rw [(hperm.map _).nodup_iff]
  decide +kernel

theorem armName_row (inputs : RunInputs) (arm : String × Category) :
    ((index (·.armName) inputs.commandRows arm.1).getD (missingRow arm)).armName = arm.1 := by
  rw [index_eq_latest]
  rcases hrow : latest (·.armName) inputs.commandRows arm.1 with - | row
  · rw [hrow, getD_none, missingRow]
  · rw [hrow, getD_some]
    exact (mem_of_latest_eq_some hrow).2

/-- A record is for the command of its arm. -/
theorem commandId_recordOf (inputs : RunInputs) (arm : String × Category) :
    (inputs.recordOf arm).commandId = commandId arm.1 := by
  rw [RunInputs.recordOf]
  split
  · exact commandId_recordForCommand _ _ _ _ _
  · rw [commandId_recordFromLiveRow, armName_row]

theorem consistent_recordOf (inputs : RunInputs) (arm : String × Category) :
    (inputs.recordOf arm).Consistent := by
  rw [RunInputs.recordOf]
  split
  · exact consistent_recordForCommand _ _ _ _ _
  · exact consistent_recordFromLiveRow _ _ _ _ _

theorem map_commandId_commandRecords (inputs : RunInputs) :
    inputs.commandRecords.map (·.commandId) = orderedArms.map fun arm ↦ commandId arm.1 := by
  rw [RunInputs.commandRecords, List.map_map]
  exact map_congr_left fun arm _ ↦ commandId_recordOf inputs arm

/-- No command has two records. -/
theorem nodup_commandId_commandRecords (inputs : RunInputs) :
    (inputs.commandRecords.map (·.commandId)).Nodup := by
  rw [map_commandId_commandRecords]
  exact nodup_commandId_orderedArms

theorem consistent_of_mem_commandRecords {inputs : RunInputs} {record : RunRecord}
    (h : record ∈ inputs.commandRecords) : record.Consistent := by
  obtain ⟨arm, -, rfl⟩ := mem_map.1 h
  exact consistent_recordOf inputs arm

/-! ### The totals of one run -/

/-- The accounts of a run balance. -/
structure ItertestingRun.Accounts (run : ItertestingRun) : Prop where
  /-- Every command has one of the four outcomes. -/
  outcomes : run.summary.verifiedTotal + run.summary.inconclusiveTotal +
    run.summary.blockedTotal + run.summary.failedTotal = run.summary.trackedCommands
  /-- A verified command was verified with cheats or without. -/
  modes : run.summary.verifiedTotal =
    run.summary.verifiedNatural + run.summary.verifiedCheatAssisted
  /-- A record is classified once if it is unverified and directly verifiable, else never. -/
  classified : ∀ record ∈ run.commandRecords,
    run.failureClassifications.countP (·.commandId = record.commandId) =
      if record.verified = false ∧ record.directlyVerifiable = true then 1 else 0
  /-- There are no other classifications. -/
  owned : ∀ item ∈ run.failureClassifications, ∃ record ∈ run.commandRecords,
    item.commandId = record.commandId
  /-- Every classification has one of the four causes. -/
  causes : run.summary.missingFixtureTotal + run.summary.transportInterruptionTotal +
    run.summary.predicateOrEvidenceGapTotal + run.summary.behavioralFailureTotal =
      run.commandRecords.countP fun record ↦ !record.verified && record.directlyVerifiable

/-- The four attempt statuses partition the records. -/
theorem countP_attemptStatus (records : List RunRecord)
    (hconsistent : ∀ record ∈ records, record.Consistent) :
    records.countP (·.verified) + records.countP (·.attemptStatus = .inconclusive) +
      records.countP (·.attemptStatus = .blocked) + records.countP (·.attemptStatus = .failed) =
      records.length := by
  induction records with
  | nil => rfl
  | cons record records ih =>
    have hrest := ih fun other hother ↦ hconsistent other (mem_cons_of_mem record hother)
    have hverified : record.verified = decide (record.attemptStatus = .verified) := by
      rw [Bool.eq_iff_iff, (hconsistent record mem_cons_self).verified_iff,
        decide_eq_true_iff]
    simp only [countP_cons, length_cons, hverified]
    rcases record.attemptStatus with - | - | - | - <;>
      simp only [reduceCtorEq, decide_true, decide_false, if_true, Bool.false_eq_true, if_false] <;>
      omega

/-- The two verification modes partition the verified records. -/
theorem countP_verificationMode (records : List RunRecord)
    (hconsistent : ∀ record ∈ records, record.Consistent) :
    records.countP (·.verified) =
      records.countP (fun item ↦ item.verified && item.verificationMode = .natural) +
        records.countP fun item ↦ item.verified && item.verificationMode = .cheatAssisted := by
  induction records with
  | nil => rfl
  | cons record records ih =>
    have hrest := ih fun other hother ↦ hconsistent other (mem_cons_of_mem record hother)
    have hmode := (hconsistent record mem_cons_self).mode
    simp only [countP_cons, hrest]
    rcases hverified : record.verified with - | -
    · simp
    · rcases hcase : record.verificationMode with - | - | -
      · simp only [decide_true, Bool.and_self, if_true, reduceCtorEq, decide_false, Bool.and_false,
          Bool.false_eq_true, if_false]
        omega
      · simp only [decide_true, Bool.and_self, if_true, reduceCtorEq, decide_false, Bool.and_false,
          Bool.false_eq_true, if_false]
        omega
      · exact absurd hcase (hmode hverified)

/-- The four causes partition the classifications. -/
theorem countP_primaryCause (items : List RunFailureClassification) :
    items.countP (·.primaryCause = .missingFixture) +
      items.countP (·.primaryCause = .transportInterruption) +
      items.countP (·.primaryCause = .predicateOrEvidenceGap) +
      items.countP (·.primaryCause = .behavioralFailure) = items.length := by
  induction items with
  | nil => rfl
  | cons item items ih =>
    simp only [countP_cons, length_cons]
    rcases item.primaryCause with - | - | - | - <;>
      simp only [reduceCtorEq, decide_true, decide_false, if_true, Bool.false_eq_true, if_false] <;>
      omega

theorem accounts_buildRun (inputs : RunInputs) (previousRun : Option ItertestingRun) :
    (buildRun inputs previousRun).Accounts := by
  have hconsistent : ∀ record ∈ inputs.commandRecords, record.Consistent := fun record ↦
    consistent_of_mem_commandRecords
  have hids : inputs.failureClassifications.map (·.commandId) =
      (inputs.commandRecords.filter RunRecord.isUnverifiedDirect).map (·.commandId) :=
    map_commandId_failureClassificationsForRun _ _ _ _ _
  constructor
  · rw [summary_buildRun]
    exact countP_attemptStatus _ hconsistent
  · rw [summary_buildRun]
    exact countP_verificationMode _ hconsistent
  · intro record hrecord
    have hcount : inputs.failureClassifications.countP (·.commandId = record.commandId) =
        (inputs.failureClassifications.map (·.commandId)).count record.commandId := by
      rw [count_eq_countP, countP_map]
      exact countP_congr fun item _ ↦ by simp
    rw [failureClassifications_buildRun, hcount, hids,
      count_map_filter_of_nodup (nodup_commandId_commandRecords inputs) hrecord]
    simp [RunRecord.isUnverifiedDirect]
  · intro item hitem
    have hmem : item.commandId ∈
        (inputs.commandRecords.filter RunRecord.isUnverifiedDirect).map (·.commandId) :=
      hids ▸ mem_map_of_mem hitem
    obtain ⟨record, hrecord, heq⟩ := mem_map.1 hmem
    exact ⟨record, (mem_filter.1 hrecord).1, heq.symm⟩
  · have hlength := congrArg List.length hids
    rw [length_map, length_map, ← countP_eq_length_filter] at hlength
    rw [summary_buildRun]
    exact (countP_primaryCause _).trans hlength

/-! ### Two runs, one after the other -/

variable (first second : RunInputs) (earlier : Option ItertestingRun)

/-- The record that a command had in the run before is found by its id. -/
theorem previousRecord_recordOf {arm : String × Category} (harm : arm ∈ orderedArms) :
    previousRecord (some (buildRun first earlier)) (second.recordOf arm) = first.recordOf arm := by
  have hmem : first.recordOf arm ∈ first.commandRecords := mem_map_of_mem harm
  have hfound := latest_of_nodup (nodup_commandId_commandRecords first) hmem
  rw [previousRecord, index_eq_latest, commandId_recordOf, ← commandId_recordOf first,
    map_some, getD_some, commandRecords_buildRun, hfound, getD_some]

/-- The newly verified arms are those verified now and not before. -/
theorem length_newlyVerified :
    (buildRun second (some (buildRun first earlier))).summary.newlyVerified.length =
      orderedArms.countP fun arm ↦
        (second.recordOf arm).verified && !(first.recordOf arm).verified := by
  rw [summary_buildRun, summaryForRun, length_map, ← countP_eq_length_filter,
    RunInputs.commandRecords, countP_map]
  refine countP_congr fun arm harm ↦ ?_
  rw [Function.comp_apply, isNewlyVerified, previousRecord_recordOf first second earlier harm]
  simp

/-- The regressed arms are those verified before and not now. -/
theorem length_regressed :
    (buildRun second (some (buildRun first earlier))).summary.regressed.length =
      orderedArms.countP fun arm ↦
        !(second.recordOf arm).verified && (first.recordOf arm).verified := by
  rw [summary_buildRun, summaryForRun, length_map, ← countP_eq_length_filter,
    RunInputs.commandRecords, countP_map]
  refine countP_congr fun arm harm ↦ ?_
  rw [Function.comp_apply, isRegressed, previousRecord_recordOf first second earlier harm]

theorem verifiedTotal_buildRun (inputs : RunInputs) (previousRun : Option ItertestingRun) :
    (buildRun inputs previousRun).summary.verifiedTotal =
      orderedArms.countP fun arm ↦ (inputs.recordOf arm).verified := by
  rw [summary_buildRun, summaryForRun, RunInputs.commandRecords, countP_map]
  rfl

/-- What was verified in either run: in the second or lost by it, in the first or new. -/
theorem verifiedTotal_add_regressed :
    let previous := buildRun first earlier
    let current := buildRun second (some previous)
    current.summary.verifiedTotal + current.summary.regressed.length =
      previous.summary.verifiedTotal + current.summary.newlyVerified.length := by
  intro previous current
  let either := fun arm : String × Category ↦
    (second.recordOf arm).verified || (first.recordOf arm).verified
  have hsecond : orderedArms.countP either = _ + _ := countP_eq_add
    (q := fun arm ↦ (second.recordOf arm).verified)
    (r := fun arm ↦ !(second.recordOf arm).verified && (first.recordOf arm).verified)
    (fun arm ↦ by
      show (_ || _ : Bool).toNat = _
      rcases (second.recordOf arm).verified with - | - <;>
        rcases (first.recordOf arm).verified with - | - <;> rfl) orderedArms
  have hfirst : orderedArms.countP either = _ + _ := countP_eq_add
    (q := fun arm ↦ (first.recordOf arm).verified)
    (r := fun arm ↦ (second.recordOf arm).verified && !(first.recordOf arm).verified)
    (fun arm ↦ by
      show (_ || _ : Bool).toNat = _
      rcases (second.recordOf arm).verified with - | - <;>
        rcases (first.recordOf arm).verified with - | - <;> rfl) orderedArms
  rw [verifiedTotal_buildRun, verifiedTotal_buildRun, length_newlyVerified, length_regressed,
    ← hsecond, ← hfirst]

/-- **The accounts of consecutive runs.** Whatever rows the live runs leave, the accounts of both
runs balance, and the comparison reports the commands won less the commands lost. -/
theorem buildRun_accounts (first second : RunInputs) (earlier : Option ItertestingRun) :
    let previous := buildRun first earlier
    let current := buildRun second (some previous)
    previous.Accounts ∧ current.Accounts ∧
      ∃ comparison, current.previousRunComparison = some comparison ∧
        comparison.coverageDelta =
          (current.summary.newlyVerified.length : ℤ) - current.summary.regressed.length := by
  intro previous current
  refine ⟨accounts_buildRun _ _, accounts_buildRun _ _, _, rfl, ?_⟩
  have hsum : current.summary.verifiedTotal + current.summary.regressed.length =
      previous.summary.verifiedTotal + current.summary.newlyVerified.length :=
    verifiedTotal_add_regressed first second earlier
  show (current.summary.verifiedTotal : ℤ) - previous.summary.verifiedTotal = _
  omega

end HighBar.Client
