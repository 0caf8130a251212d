import HighBar.Client.CampaignGovernance

/-!
# Stop decisions and the contract-health gate

`_contract_health_for_run` looks at the blocking issues of a run and at the live-closeout evidence,
and records a **status** and an **action**. `run_campaign` reads the status alone: the gate is open
for `ready_for_itertesting` and closed for the two others. A run that needs pattern review is such a
run, and its action says to proceed; the campaign stops all the same, for explicit review.

The action follows the status (`stopOrProceed_contractHealthForRun`), so what the campaign does can
be read off either of them.
-/

namespace HighBar.Client

/-! ### The gate -/

/-- `FoundationalIssueClass`. -/
inductive FoundationalIssueClass where
  | targetDrift
  | validationGap
  | inertDispatch
  | needsPatternReview
deriving Repr, DecidableEq

/-- `CommandContractIssue`, as far as the gate reads it. -/
structure CommandContractIssue where
  issueId : String
  issueClass : FoundationalIssueClass
  blocksImprovement : Bool
deriving Repr, DecidableEq

/-- `FailureCause`. -/
inductive FailureCause where
  | missingFixture
  | transportInterruption
  | predicateOrEvidenceGap
  | behavioralFailure
deriving Repr, DecidableEq

/-- `FailureCauseClassification`, as far as the gate reads it. -/
structure FailureCauseClassification where
  commandId : String
  primaryCause : FailureCause
deriving Repr, DecidableEq

/-- The arguments of `_contract_health_for_run` that decide. -/
structure ContractHealthInputs where
  commandRecords : List CommandVerificationRecord
  contractIssues : List CommandContractIssue
  /-- The issue ids of the deterministic repros. -/
  reproIssueIds : List String
  failureClassifications : List FailureCauseClassification
  fullyInterpreted : Bool
  enforceLiveCloseoutGate : Bool
deriving Repr, DecidableEq

namespace ContractHealthInputs

/-- The issues that block improvement. -/
def blocking (inputs : ContractHealthInputs) : List CommandContractIssue :=
  inputs.contractIssues.filter CommandContractIssue.blocksImprovement

/-- `records_by_command.get`: of several records of a command the last one counts. -/
def recordOf (inputs : ContractHealthInputs) (commandId : String) :
    Option CommandVerificationRecord :=
  inputs.commandRecords.reverse.find? fun record ↦ record.commandId = commandId

/-- A classification of a row that was really collected. -/
def relevant (inputs : ContractHealthInputs) (item : FailureCauseClassification) : Bool :=
  (inputs.recordOf item.commandId).all fun record ↦
    record.blockingReason ≠ some "row missing from live run"

/-- One of the relevant classifications has the cause. -/
def hasCause (inputs : ContractHealthInputs) (cause : FailureCause) : Bool :=
  inputs.failureClassifications.any fun item ↦
    inputs.relevant item && item.primaryCause = cause

/-- `live_closeout_blockers` and `live_closeout_reasons`. -/
def liveCloseout (inputs : ContractHealthInputs) : List (String × String) :=
  if !inputs.enforceLiveCloseoutGate then []
  else
    (if inputs.hasCause .transportInterruption then
      [("live-closeout:transport-interruption", "transport interruption")] else []) ++
    (if inputs.hasCause .missingFixture then
      [("live-closeout:missing-fixture", "missing fixture coverage")] else []) ++
    (if !inputs.fullyInterpreted then
      [("live-closeout:interpretation-warning", "preserved interpretation warnings")] else [])

/-- `needs_pattern_review`. -/
def needsPatternReview (inputs : ContractHealthInputs) : Bool :=
  inputs.blocking.any fun item ↦
    item.issueClass = .needsPatternReview || !inputs.reproIssueIds.contains item.issueId

end ContractHealthInputs

/-- The text of a blocked decision. -/
def blockedSummary (inputs : ContractHealthInputs) : String :=
  let reasons := " and ".intercalate (inputs.liveCloseout.map Prod.snd)
  if inputs.blocking ≠ [] ∧ inputs.liveCloseout ≠ [] then
    "Foundational command-contract blockers were detected, and live closeout evidence " ++
      "remains untrustworthy because " ++ reasons ++ " still blocks normal Itertesting tuning."
  else if inputs.blocking ≠ [] then
    "Foundational command-contract blockers were detected. Repair them before normal " ++
      "Itertesting tuning."
  else
    "Live closeout evidence remains blocked because " ++ reasons ++
      " still prevents trustworthy command evaluation."

/-- The text of a ready decision. -/
def readySummary (inputs : ContractHealthInputs) : String :=
  if inputs.failureClassifications ≠ [] then
    "No foundational command-contract blockers were detected; remaining " ++
      "unverified rows are downstream evidence or behavior follow-up."
  else "No foundational command-contract blockers were detected."

/-- `_contract_health_for_run`: the decision. -/
def contractHealthForRun (inputs : ContractHealthInputs) : ContractHealthDecision :=
  if inputs.needsPatternReview then
    { decisionStatus := .needsPatternReview
      blockingIssueIds := inputs.blocking.map CommandContractIssue.issueId
      summaryMessage :=
        "Foundational command-contract blockers require pattern review before normal " ++
          "Itertesting guidance."
      stopOrProceed := .proceedButFlagReview }
  else if inputs.blocking ≠ [] ∨ inputs.liveCloseout ≠ [] then
    { decisionStatus := .blockedFoundational
      blockingIssueIds :=
        inputs.blocking.map CommandContractIssue.issueId ++ inputs.liveCloseout.map Prod.fst
      summaryMessage := blockedSummary inputs
      stopOrProceed := .stopForRepair }
  else
    { decisionStatus := .readyForItertesting
      blockingIssueIds := []
      summaryMessage := readySummary inputs
      stopOrProceed := .proceedWithImprovement }

/-- The action that goes with a status. -/
def ContractHealthStatus.action : ContractHealthStatus → ContractHealthAction
  | .readyForItertesting => .proceedWithImprovement
  | .blockedFoundational => .stopForRepair
  | .needsPatternReview => .proceedButFlagReview

/-- **The action follows the status.** -/
theorem stopOrProceed_contractHealthForRun (inputs : ContractHealthInputs) :
    (contractHealthForRun inputs).stopOrProceed =
      (contractHealthForRun inputs).decisionStatus.action := by
  rw [contractHealthForRun]
  split_ifs <;> rfl

/-! ### Faithful decisions -/

/-- The gates of the runs come from `_contract_health_for_run`, as `build_run` has it. -/
def Gated (outcomes : ℕ → RunOutcome) : Prop :=
  ∀ i, ∃ inputs, (outcomes i).contractHealthDecision = some (contractHealthForRun inputs)

/-- The action that the gate of a run records. -/
def RunOutcome.recordsAction (outcome : RunOutcome) (action : ContractHealthAction) : Prop :=
  ∃ decision, outcome.contractHealthDecision = some decision ∧ decision.stopOrProceed = action

/-- Behind an open gate the action is to proceed with improvement, and only there. -/
theorem contractReady_iff_recordsAction {outcomes : ℕ → RunOutcome} (hgated : Gated outcomes)
    (i : ℕ) : (outcomes i).contractReady = true ↔
      (outcomes i).recordsAction .proceedWithImprovement := by
  obtain ⟨inputs, hinputs⟩ := hgated i
  have hreads : (outcomes i).recordsAction .proceedWithImprovement ↔
      (contractHealthForRun inputs).stopOrProceed = .proceedWithImprovement := by
    constructor
    · rintro ⟨decision, hdecision, haction⟩
      rwa [← Option.some.inj (hinputs.symm.trans hdecision)] at haction
    · exact fun haction ↦ ⟨_, hinputs, haction⟩
  rw [hreads, stopOrProceed_contractHealthForRun, RunOutcome.contractReady, hinputs,
    Option.all_some, decide_eq_true_iff]
  rcases (contractHealthForRun inputs).decisionStatus with - | - | - <;>
    simp only [ContractHealthStatus.action, reduceCtorEq]

/-- What a run of the campaign is decided by when it is handled by `decide_stop`: its snapshots, and
whether a stall is left to the next run. -/
def handledByDecideStop (policy : CampaignRetryPolicy) (before : List CampaignRun)
    (run : CampaignRun) : Option CampaignStopDecision :=
  let candidates := before.map CampaignRun.snapshot ++ [run.snapshot]
  (decideStop policy candidates run.outcome.runId
    (policy.selectedProfile.effectiveImprovementRuns ≤ before.length)).filter fun stop ↦
      !cancelsStall policy run.cheatEnabled before.length candidates stop

/-- **What a stop decision of a campaign says.** -/
structure Faithful (settings : CampaignSettings) (campaign : ItertestingCampaign)
    (last : CampaignRun) (stop : CampaignStopDecision) : Prop where
  /-- The count is that of the last run. -/
  total : stop.directVerifiedTotal = directVerifiedTotal last.outcome.commandRecords
  target : stop.targetDirectVerified = directTargetMin
  /-- Whether the target is met, unless the gate was closed. -/
  targetMet : stop.stopReason ≠ .foundationalBlocked →
    stop.targetMet = decide (stop.targetDirectVerified ≤ stop.directVerifiedTotal)
  /-- Only a closed gate blocks a campaign: the run is to be repaired, or to be reviewed. -/
  blocked : stop.stopReason = .foundationalBlocked →
    last.outcome.recordsAction .stopForRepair ∨ last.outcome.recordsAction .proceedButFlagReview
  /-- Any other run is handled by `decide_stop`. -/
  handled : ∀ before run after, campaign.runs = before ++ run :: after →
    run.outcome.recordsAction .proceedWithImprovement →
    run.stopDecision = handledByDecideStop (normalizeRetryPolicy settings) before run

/-- A closed gate records one of the two other actions. -/
theorem recordsAction_of_not_ready {outcomes : ℕ → RunOutcome} (hgated : Gated outcomes) {i : ℕ}
    {decision : ContractHealthDecision}
    (hdecision : (outcomes i).contractHealthDecision = some decision)
    (hstatus : decision.decisionStatus ≠ .readyForItertesting) :
    (outcomes i).recordsAction .stopForRepair ∨
      (outcomes i).recordsAction .proceedButFlagReview := by
  obtain ⟨inputs, hinputs⟩ := hgated i
  obtain rfl := Option.some.inj (hinputs.symm.trans hdecision)
  have haction := stopOrProceed_contractHealthForRun inputs
  rcases hcase : (contractHealthForRun inputs).decisionStatus with - | - | - <;>
    rw [hcase] at haction
  · exact absurd hcase hstatus
  · exact .inl ⟨_, hinputs, haction⟩
  · exact .inr ⟨_, hinputs, haction⟩

/-- **Campaigns end with a faithful decision.** -/
theorem stop_decision_faithful (settings : CampaignSettings) {outcomes : ℕ → RunOutcome}
    (hgated : Gated outcomes) :
    ∃ last stop, (runCampaign settings outcomes).runs.getLast? = some last ∧
      (runCampaign settings outcomes).stopDecision = some stop ∧
      Faithful settings (runCampaign settings outcomes) last stop := by
  obtain ⟨before, last, stop, hruns, -, hstop, hcampaign⟩ := exists_last settings outcomes
  obtain ⟨s, hs, rfl, -⟩ := exists_pass_of_runs hruns
  refine ⟨_, stop, by rw [hruns, List.getLast?_concat], hcampaign, ?_⟩
  have hhandled : ∀ before run after,
      (runCampaign settings outcomes).runs = before ++ run :: after →
      run.outcome.recordsAction .proceedWithImprovement →
      run.stopDecision = handledByDecideStop (normalizeRetryPolicy settings) before run := by
    intro before run after hruns haction
    obtain ⟨s, hs, rfl, -⟩ := exists_pass_of_runs hruns
    have hready := (contractReady_iff_recordsAction hgated _).2 haction
    rw [stopDecision_campaignPass, passGate_of_ready hready, handledByDecideStop,
      ← hs.index, ← hs.snapshots]
    rfl
  rcases stopDecision_cases hstop with ⟨-, hdecide⟩ | ⟨decision, hsome, hstatus, -, rfl⟩
  · have hreason := stopReason_ne_of_decideStop hdecide
    rw [passCandidates, decideStop_concat, Option.map_eq_some_iff] at hdecide
    obtain ⟨reason, -, rfl⟩ := hdecide
    exact ⟨rfl, rfl, fun _ ↦ rfl, fun hblocked ↦ absurd hblocked hreason, hhandled⟩
  · exact ⟨rfl, rfl, fun hne ↦ absurd rfl hne,
      fun _ ↦ recordsAction_of_not_ready hgated hsome hstatus, hhandled⟩

/-- A record that is verified without cheats. -/
def verifiedRecord (commandId : String) : CommandVerificationRecord :=
  ⟨commandId, "channel_a_command", .natural, true, none⟩

/-- A blocking issue without a deterministic repro. -/
def unreproducedIssue : ContractHealthInputs where
  commandRecords := []
  contractIssues := [⟨"issue-1", .validationGap, true⟩]
  reproIssueIds := []
  failureClassifications := []
  fullyInterpreted := true
  enforceLiveCloseoutGate := false

/-- Every run verifies twenty commands and needs pattern review. -/
def reviewedOutcome (i : ℕ) : RunOutcome where
  runId := "run-" ++ toString i
  commandRecords := (List.range 20).map fun k ↦ verifiedRecord (toString k)
  contractHealthDecision := some (contractHealthForRun unreproducedIssue)
  elapsedSeconds := 60

/-- A campaign of one run. -/
def singleRun : CampaignSettings := ⟨"campaign-1", .standard, some 0, false, true, 15⟩

theorem stop_decision_faithful_reviewed :
    Gated reviewedOutcome ∧
      ∃ last stop, (runCampaign singleRun reviewedOutcome).runs.getLast? = some last ∧
        (runCampaign singleRun reviewedOutcome).stopDecision = some stop ∧
        Faithful singleRun (runCampaign singleRun reviewedOutcome) last stop :=
  have hgated : Gated reviewedOutcome := fun _ ↦ ⟨unreproducedIssue, rfl⟩
  ⟨hgated, stop_decision_faithful singleRun hgated⟩

/-- The last run says to proceed and has met the target, and the campaign is blocked and says that
the target is not met. -/
theorem reviewed_run_blocks :
    ∃ last stop, (runCampaign singleRun reviewedOutcome).runs.getLast? = some last ∧
      (runCampaign singleRun reviewedOutcome).stopDecision = some stop ∧
      last.outcome.recordsAction .proceedButFlagReview ∧ stop.stopReason = .foundationalBlocked ∧
      stop.targetDirectVerified ≤ stop.directVerifiedTotal ∧ stop.targetMet = false :=
  ⟨_, _, rfl, rfl, ⟨_, rfl, rfl⟩, rfl, by decide, rfl⟩

end HighBar.Client
