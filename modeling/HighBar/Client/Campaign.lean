import HighBar.Library.BreakLoop
import Mathlib.Algebra.Order.Ring.Int

/-!
# Itertesting campaigns

`run_campaign` repeats a live run until a **stop decision** is made or the run budget is used up. A
run ends with its command records, its contract-health decision and the time since the campaign
began; all three come from outside the loop and are one `RunOutcome` here. What the loop itself
decides is who may cheat and when to stop.

A stop decision is built in two places: by `decide_stop`, from the snapshots so far, and in the body
of the loop when the contract health of the run is not ready. In two places a decision that was just
made is taken back, so that the next run may try with cheats.

The timestamps, and the ids made from them, are left out.
-/

namespace HighBar.Client

/-! ### Records -/

/-- `VerificationMode`. -/
inductive VerificationMode where
  | natural
  | cheatAssisted
  | notAttempted
deriving Repr, DecidableEq

/-- `CommandVerificationRecord`. -/
structure CommandVerificationRecord where
  commandId : String
  category : String
  verificationMode : VerificationMode
  verified : Bool
  blockingReason : Option String := none
deriving Repr, DecidableEq

/-- `ContractHealthStatus`. -/
inductive ContractHealthStatus where
  | readyForItertesting
  | blockedFoundational
  | needsPatternReview
deriving Repr, DecidableEq

/-- `ContractHealthAction`. -/
inductive ContractHealthAction where
  | stopForRepair
  | proceedWithImprovement
  | proceedButFlagReview
deriving Repr, DecidableEq

/-- `ContractHealthDecision`. -/
structure ContractHealthDecision where
  decisionStatus : ContractHealthStatus
  blockingIssueIds : List String
  summaryMessage : String
  stopOrProceed : ContractHealthAction
deriving Repr, DecidableEq

/-- What a run of the campaign comes back with. -/
structure RunOutcome where
  runId : String
  commandRecords : List CommandVerificationRecord
  contractHealthDecision : Option ContractHealthDecision
  /-- `int((utc_now() - campaign_started).total_seconds())`. -/
  elapsedSeconds : ℤ
deriving Repr, DecidableEq

/-- The gate of the run is open. -/
def RunOutcome.contractReady (outcome : RunOutcome) : Bool :=
  outcome.contractHealthDecision.all fun decision ↦
    decision.decisionStatus = .readyForItertesting

/-! ### The retry policy -/

/-- `RetryIntensityName`. -/
inductive RetryIntensity where
  | quick
  | standard
  | deep
deriving Repr, DecidableEq

/-- `GLOBAL_IMPROVEMENT_RUN_CAP`. -/
def globalImprovementRunCap : ℕ := 10

/-- `DIRECT_TARGET_MIN`. -/
def directTargetMin : ℕ := 20

/-- `_PROFILE_DEFAULTS`. -/
def RetryIntensity.defaultRuns : RetryIntensity → ℤ
  | .quick => 1
  | .standard => 3
  | .deep => 8

/-- `_PROFILE_STALL_WINDOWS`. -/
def RetryIntensity.stallWindow : RetryIntensity → ℕ
  | .quick => 1
  | .standard => 2
  | .deep => 3

/-- `_PROFILE_MIN_GAIN`. -/
def RetryIntensity.minGain : RetryIntensity → ℤ
  | .quick => 1
  | .standard => 1
  | .deep => 2

/-- The arguments of `run_campaign` that the loop reads. -/
structure CampaignSettings where
  campaignId : String
  retryIntensity : RetryIntensity
  maxImprovementRuns : Option ℤ
  allowCheatEscalation : Bool
  naturalFirst : Bool
  runtimeTargetMinutes : ℤ
deriving Repr, DecidableEq

/-- The number of improvement runs that was asked for. -/
def CampaignSettings.configured (settings : CampaignSettings) : ℤ :=
  settings.maxImprovementRuns.getD settings.retryIntensity.defaultRuns

/-- `RetryIntensityProfile`. -/
structure RetryIntensityProfile where
  configuredImprovementRuns : ℕ
  effectiveImprovementRuns : ℕ
  stallWindowRuns : ℕ
  minDirectGainInWindow : ℤ
  allowCheatEscalation : Bool
deriving Repr, DecidableEq

/-- `CampaignRetryPolicy`. -/
structure CampaignRetryPolicy where
  campaignId : String
  selectedProfile : RetryIntensityProfile
  directTargetMin : ℕ
  runtimeTargetMinutes : ℤ
  naturalFirst : Bool
deriving Repr, DecidableEq

/-- `clamp_improvement_runs`. -/
def clampImprovementRuns (configured : ℤ) : ℕ :=
  min (max configured 0).toNat globalImprovementRunCap

/-- `normalize_retry_policy`. -/
def normalizeRetryPolicy (settings : CampaignSettings) : CampaignRetryPolicy where
  campaignId := settings.campaignId
  selectedProfile :=
    { configuredImprovementRuns := (max settings.configured 0).toNat
      effectiveImprovementRuns := clampImprovementRuns settings.configured
      stallWindowRuns := settings.retryIntensity.stallWindow
      minDirectGainInWindow := settings.retryIntensity.minGain
      allowCheatEscalation := settings.allowCheatEscalation }
  directTargetMin := Client.directTargetMin
  runtimeTargetMinutes := max settings.runtimeTargetMinutes 1
  naturalFirst := settings.naturalFirst

/-! ### Progress -/

/-- `_directly_verifiable`. -/
def CommandVerificationRecord.directlyVerifiable (record : CommandVerificationRecord) : Bool :=
  !(["channel_b_query", "channel_c_lua"].contains record.category)

/-- The direct records verified in one mode. -/
def directVerified (mode : VerificationMode) (records : List CommandVerificationRecord) : ℕ :=
  records.countP fun record ↦
    record.directlyVerifiable && record.verified && record.verificationMode = mode

/-- All direct records that are verified. -/
def directVerifiedTotal (records : List CommandVerificationRecord) : ℕ :=
  directVerified .natural records + directVerified .cheatAssisted records

/-- `RunProgressSnapshot`. -/
structure RunProgressSnapshot where
  runId : String
  sequenceIndex : ℕ
  directVerifiedNatural : ℕ
  directVerifiedCheatAssisted : ℕ
  directUnverifiedTotal : ℕ
  nonObservableTracked : ℕ
  directGainVsPrevious : ℤ
  runtimeElapsedSeconds : ℤ
deriving Repr, DecidableEq

/-- The verified total of a snapshot. -/
def RunProgressSnapshot.directTotal (snapshot : RunProgressSnapshot) : ℕ :=
  snapshot.directVerifiedNatural + snapshot.directVerifiedCheatAssisted

/-- `progress_snapshot_for_run`. -/
def progressSnapshotForRun (outcome : RunOutcome) (sequenceIndex : ℕ)
    (previous : Option RunProgressSnapshot) : RunProgressSnapshot where
  runId := outcome.runId
  sequenceIndex := sequenceIndex
  directVerifiedNatural := directVerified .natural outcome.commandRecords
  directVerifiedCheatAssisted := directVerified .cheatAssisted outcome.commandRecords
  directUnverifiedTotal :=
    outcome.commandRecords.countP CommandVerificationRecord.directlyVerifiable -
      directVerifiedTotal outcome.commandRecords
  nonObservableTracked := outcome.commandRecords.countP fun record ↦ !record.directlyVerifiable
  directGainVsPrevious :=
    directVerifiedTotal outcome.commandRecords -
      (previous.map RunProgressSnapshot.directTotal).getD 0
  runtimeElapsedSeconds := max outcome.elapsedSeconds 0

/-- `stall_detected`, over the last snapshots of the profile's window. -/
def stallDetected (profile : RetryIntensityProfile) (snapshots : List RunProgressSnapshot) : Bool :=
  if profile.stallWindowRuns = 0 ∨ snapshots.length < profile.stallWindowRuns then false
  else
    let window := snapshots.drop (snapshots.length - profile.stallWindowRuns)
    (window.map fun snapshot ↦ max snapshot.directGainVsPrevious 0).sum <
      max profile.minDirectGainInWindow 0

/-- `should_enable_cheat_escalation`. -/
def shouldEnableCheatEscalation (policy : CampaignRetryPolicy)
    (snapshots : List RunProgressSnapshot) (sequenceIndex : ℕ) : Bool :=
  if !policy.selectedProfile.allowCheatEscalation then false
  else if !policy.naturalFirst then true
  else if sequenceIndex = 0 then false
  else stallDetected policy.selectedProfile snapshots

/-! ### Stop decisions -/

/-- `StopReason`. -/
inductive StopReason where
  | targetReached
  | stalled
  | budgetExhausted
  | runtimeGuardrail
  | interrupted
  | foundationalBlocked
deriving Repr, DecidableEq

/-- `_stop_message`. -/
def StopReason.message : StopReason → String
  | .targetReached => "Directly verifiable target reached."
  | .stalled => "No meaningful direct verified gain across the stall window."
  | .budgetExhausted => "Configured improvement run budget was exhausted."
  | .runtimeGuardrail => "Runtime governance guardrail ended the campaign."
  | .interrupted => "Campaign was interrupted by external termination."
  | .foundationalBlocked =>
    "Foundational command-contract blockers must be repaired before Itertesting continues."

/-- `CampaignFinalStatus`, as far as a campaign that returns has it. -/
inductive CampaignFinalStatus where
  | improved
  | stalled
  | budgetExhausted
  | runtimeGuardrail
  | interrupted
  | blockedFoundational
deriving Repr, DecidableEq

/-- `final_status_for_decision`. -/
def finalStatusForDecision : StopReason → CampaignFinalStatus
  | .targetReached => .improved
  | .stalled => .stalled
  | .budgetExhausted => .budgetExhausted
  | .runtimeGuardrail => .runtimeGuardrail
  | .interrupted => .interrupted
  | .foundationalBlocked => .blockedFoundational

/-- `CampaignStopDecision`. -/
structure CampaignStopDecision where
  campaignId : String
  finalRunId : String
  stopReason : StopReason
  directVerifiedTotal : ℕ
  targetDirectVerified : ℕ
  targetMet : Bool
  runtimeElapsedSeconds : ℤ
  message : String
deriving Repr, DecidableEq

/-- The reason `decide_stop` finds, in the order it looks; `run_campaign` never passes
`interrupted`. -/
def stopReasonFor (policy : CampaignRetryPolicy) (snapshots : List RunProgressSnapshot)
    (latest : RunProgressSnapshot) (budgetExhausted : Bool) : Option StopReason :=
  if policy.directTargetMin ≤ latest.directTotal then some .targetReached
  else if max policy.runtimeTargetMinutes 1 * 60 ≤ latest.runtimeElapsedSeconds then
    some .runtimeGuardrail
  else if stallDetected policy.selectedProfile snapshots then some .stalled
  else if budgetExhausted then some .budgetExhausted
  else none

/-- `decide_stop`. -/
def decideStop (policy : CampaignRetryPolicy) (snapshots : List RunProgressSnapshot)
    (finalRunId : String) (budgetExhausted : Bool) : Option CampaignStopDecision :=
  snapshots.getLast?.bind fun latest ↦
    (stopReasonFor policy snapshots latest budgetExhausted).map fun stopReason ↦
      { campaignId := policy.campaignId
        finalRunId := finalRunId
        stopReason := stopReason
        directVerifiedTotal := latest.directTotal
        targetDirectVerified := policy.directTargetMin
        targetMet := policy.directTargetMin ≤ latest.directTotal
        runtimeElapsedSeconds := latest.runtimeElapsedSeconds
        message := stopReason.message }

/-- The decision that `run_campaign` builds itself when the gate is not open. -/
def foundationalStop (policy : CampaignRetryPolicy) (outcome : RunOutcome)
    (snapshot : RunProgressSnapshot) (message : String) : CampaignStopDecision where
  campaignId := policy.campaignId
  finalRunId := outcome.runId
  stopReason := .foundationalBlocked
  directVerifiedTotal := snapshot.directTotal
  targetDirectVerified := policy.directTargetMin
  targetMet := false
  runtimeElapsedSeconds := outcome.elapsedSeconds
  message := message

/-! ### The loop -/

/-- What the loop carries from one run to the next. -/
structure CampaignState where
  sequenceIndex : ℕ
  progressSnapshots : List RunProgressSnapshot
  forceCheatNextRun : Bool
deriving Repr, DecidableEq

/-- A run of the campaign, with the stop decision that is written into its bundle. -/
structure CampaignRun where
  sequenceIndex : ℕ
  outcome : RunOutcome
  cheatEnabled : Bool
  snapshot : RunProgressSnapshot
  stopDecision : Option CampaignStopDecision
  /-- `force_cheat_next_run` after the run. -/
  forcesCheat : Bool
deriving Repr, DecidableEq

/-- The stop section up to `decide_stop`, with `force_cheat_next_run`. -/
def gateDecision (policy : CampaignRetryPolicy) (outcome : RunOutcome) (cheatEnabled : Bool)
    (sequenceIndex : ℕ) (snapshot : RunProgressSnapshot)
    (candidates : List RunProgressSnapshot) : Option CampaignStopDecision × Bool :=
  match outcome.contractHealthDecision.filter fun decision ↦
      decision.decisionStatus ≠ .readyForItertesting with
  | some decision =>
    if policy.selectedProfile.allowCheatEscalation && !cheatEnabled &&
        sequenceIndex < policy.selectedProfile.effectiveImprovementRuns then (none, true)
    else (some (foundationalStop policy outcome snapshot decision.summaryMessage), false)
  | none =>
    (decideStop policy candidates outcome.runId
      (policy.selectedProfile.effectiveImprovementRuns ≤ sequenceIndex), false)

/-- A stall that the next run may still break with cheats is no stop. -/
def cancelsStall (policy : CampaignRetryPolicy) (cheatEnabled : Bool) (sequenceIndex : ℕ)
    (candidates : List RunProgressSnapshot) (stop : CampaignStopDecision) : Bool :=
  stop.stopReason = .stalled && !cheatEnabled &&
    sequenceIndex < policy.selectedProfile.effectiveImprovementRuns &&
    shouldEnableCheatEscalation policy candidates (sequenceIndex + 1)

/-- One pass of the loop over a run with the given outcome. -/
def campaignPass (policy : CampaignRetryPolicy) (outcomes : ℕ → RunOutcome) (s : CampaignState) :
    CampaignRun × Option CampaignState :=
  let outcome := outcomes s.sequenceIndex
  let cheatEnabled := s.forceCheatNextRun ||
    shouldEnableCheatEscalation policy s.progressSnapshots s.sequenceIndex
  let snapshot := progressSnapshotForRun outcome s.sequenceIndex s.progressSnapshots.getLast?
  let candidates := s.progressSnapshots ++ [snapshot]
  let gate := gateDecision policy outcome cheatEnabled s.sequenceIndex snapshot candidates
  let stop := gate.1.filter fun stop ↦
    !cancelsStall policy cheatEnabled s.sequenceIndex candidates stop
  (⟨s.sequenceIndex, outcome, cheatEnabled, snapshot, stop, gate.2⟩,
    if stop.isSome then none else some ⟨s.sequenceIndex + 1, candidates, gate.2⟩)

/-- `ItertestingCampaign`, with the runs. -/
structure ItertestingCampaign where
  runs : List CampaignRun
  configuredImprovementRuns : ℕ
  effectiveImprovementRuns : ℕ
  finalStatus : CampaignFinalStatus
  stopDecision : Option CampaignStopDecision
deriving Repr, DecidableEq

/-- The runs of the campaign. -/
def campaignRuns (policy : CampaignRetryPolicy) (outcomes : ℕ → RunOutcome) : List CampaignRun :=
  breakLoop (campaignPass policy outcomes) (policy.selectedProfile.effectiveImprovementRuns + 1)
    ⟨0, [], false⟩

/-- `run_campaign`. -/
def runCampaign (settings : CampaignSettings) (outcomes : ℕ → RunOutcome) : ItertestingCampaign :=
  let policy := normalizeRetryPolicy settings
  let runs := campaignRuns policy outcomes
  let stop := runs.getLast?.bind fun last ↦
    -- the second call of `decide_stop`, after the loop
    last.stopDecision.or (decideStop policy (runs.map CampaignRun.snapshot) last.outcome.runId true)
  { runs := runs
    configuredImprovementRuns := policy.selectedProfile.configuredImprovementRuns
    effectiveImprovementRuns := policy.selectedProfile.effectiveImprovementRuns
    finalStatus :=
      (stop.map fun stop ↦ finalStatusForDecision stop.stopReason).getD .budgetExhausted
    stopDecision := stop }

end HighBar.Client
