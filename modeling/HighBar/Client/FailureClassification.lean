import HighBar.Client.RunRecords

/-!
# The cause of a failure

For every directly verifiable command that a run did not verify, `_failure_classifications_for_run`
asks `classify_failure_cause` for one cause out of four. The first test that succeeds decides: a
starved bootstrap, a channel that broke, a fixture that was missing, a gate that the texts of the
record speak of, and at last the rule of the arm. Most of the tests look for words in one text, the
`detail` of the record, in lower case.

The classification is about the record it was made for (`commandId_classifyFailureCause`), so the
commands that are classified are those of the records that were kept
(`map_commandId_failureClassificationsForRun`).
-/

namespace HighBar.Client

open KeyedLog

/-! ### What a command depends on -/

/-- `_REFRESHABLE_SHARED_FIXTURE_CLASSES`. -/
def refreshableSharedFixtureClasses : List String :=
  ["transport_unit", "payload_unit", "capturable_target", "restore_target", "wreck_target",
    "custom_target"]

/-- `FixtureProvisioningStrategy`. -/
inductive FixtureProvisioningStrategy where
  | baseline
  | sharedInstance
  | refreshableSharedInstance
deriving Repr, DecidableEq

/-- `FixtureBlockingFallback`. -/
inductive FixtureBlockingFallback where
  | missingFixture
  | transportInterruptionOnlyIfSessionUnhealthy
deriving Repr, DecidableEq

/-- `provisioning_strategy_for_command`. -/
def provisioningStrategyForCommand (commandId : String) : FixtureProvisioningStrategy :=
  let fixtureClasses := fixtureClassesForCommand commandId
  if fixtureClasses.any refreshableSharedFixtureClasses.contains then .refreshableSharedInstance
  else if fixtureClasses.any (!defaultLiveFixtureClasses.contains ·) then .sharedInstance
  else .baseline

/-- `CommandFixtureDependency`. -/
structure CommandFixtureDependency where
  commandId : String
  requiredFixtureClasses : List String
  provisioningStrategy : FixtureProvisioningStrategy
  blockingFallback : FixtureBlockingFallback
deriving Repr, DecidableEq

/-- `command_fixture_dependency`. -/
def commandFixtureDependency (commandId : String) : CommandFixtureDependency :=
  let strategy := provisioningStrategyForCommand commandId
  { commandId := commandId
    requiredFixtureClasses := fixtureClassesForCommand commandId
    provisioningStrategy := strategy
    blockingFallback :=
      if strategy ≠ .baseline then .missingFixture
      else .transportInterruptionOnlyIfSessionUnhealthy }

/-! ### The transports -/

/-- `TransportCompatibilityResult`. -/
inductive TransportCompatibilityResult where
  | compatible
  | payloadIncompatible
  | candidateMissing
  | candidateUnusable
deriving Repr, DecidableEq

/-- `TransportCompatibilityCheck`, as far as a classification reads it. -/
structure TransportCompatibilityCheck where
  commandId : String
  result : TransportCompatibilityResult
  blockingReason : Option String
deriving Repr, DecidableEq

/-- The check of one row in `_transport_compatibility_checks`. -/
def transportCompatibilityCheck (status : TransportProvisioningStatus) (row : CommandRow) :
    TransportCompatibilityCheck :=
  let detail := lower (" ".intercalate [row.evidence.getD "", row.error.getD ""])
  if mentions transportPayloadIncompatibleTokens detail then
    ⟨row.commandId, .payloadIncompatible,
      some "selected transport could not safely carry the pending payload"⟩
  else if status = .missing then
    ⟨row.commandId, .candidateMissing,
      some "no usable transport candidate was available for this command"⟩
  else if status = .unusable then
    ⟨row.commandId, .candidateUnusable,
      some "the transport candidate became unusable before this command could be evaluated"⟩
  else ⟨row.commandId, .compatible, none⟩

/-- `_transport_compatibility_checks`. -/
def transportCompatibilityChecks (commandRows : List CommandRow)
    (status : TransportProvisioningStatus) : List TransportCompatibilityCheck :=
  (commandRows.filter (·.isTransportDependent)).map (transportCompatibilityCheck status)

/-- `transport_blocking_detail_for_command`. -/
def transportBlockingDetailForCommand (checks : List TransportCompatibilityCheck)
    (commandId defaultDetail : String) : String :=
  match checks.find? fun check ↦
      check.commandId = commandId && check.blockingReason.getD "" ≠ "" with
  | some check => check.blockingReason.getD ""
  | none => defaultDetail

/-! ### The channel -/

/-- `ChannelHealthStatus`. -/
inductive ChannelHealthStatus where
  | healthy
  | degraded
  | recovered
  | interrupted
deriving Repr, DecidableEq

/-- `ChannelFailureStage`. -/
inductive ChannelFailureStage where
  | startup
  | dispatch
  | verification
  | shutdown
deriving Repr, DecidableEq

/-- `ChannelHealthOutcome`. -/
structure ChannelHealthOutcome where
  runId : String
  status : ChannelHealthStatus
  firstFailureStage : Option ChannelFailureStage
  failureSignal : String
  commandsAttemptedBeforeFailure : ℕ
  recoveryAttempted : Bool
deriving Repr, DecidableEq

/-- The `detail` in which `_channel_health_for_run` looks for a signal. -/
def CommandRow.signalDetail (row : CommandRow) : String :=
  String.ofList (strip (row.evidence.getD "" ++ " " ++ row.error.getD "").toList)

/-- `_channel_health_for_run`. The rows before the first one with a signal were attempted. -/
def channelHealthForRun (runId : String) (records : List RunRecord)
    (liveRows : List CommandRow) : ChannelHealthOutcome :=
  match liveRows.find? (isChannelFailureSignal ·.signalDetail) with
  | none =>
    { runId := runId
      status := .healthy
      firstFailureStage := none
      failureSignal := ""
      commandsAttemptedBeforeFailure := records.countP fun item ↦ item.attemptStatus ≠ .blocked
      recoveryAttempted := false }
  | some row =>
    { runId := runId
      status := .interrupted
      firstFailureStage := some .dispatch
      failureSignal := row.signalDetail
      commandsAttemptedBeforeFailure := liveRows.findIdx (isChannelFailureSignal ·.signalDetail)
      recoveryAttempted := true }

/-! ### The rules of the arms -/

/-- `VerificationRuleMode`. -/
inductive VerificationRuleMode where
  | generic
  | movementTuned
  | combatTuned
  | constructionTuned
deriving Repr, DecidableEq

/-- `ArmVerificationRule`, without the texts that describe it. -/
structure ArmVerificationRule where
  commandId : String
  ruleMode : VerificationRuleMode
  fallbackClassification : FailureCause
deriving Repr, DecidableEq

/-- `_TUNED_RULES`. -/
def tunedRules : List ArmVerificationRule :=
  [⟨"cmd-move-unit", .movementTuned, .predicateOrEvidenceGap⟩,
    ⟨"cmd-fight", .combatTuned, .predicateOrEvidenceGap⟩,
    ⟨"cmd-build-unit", .constructionTuned, .predicateOrEvidenceGap⟩]

/-- The rule of an arm that has none of its own. -/
def genericRule (commandId : String) : ArmVerificationRule :=
  ⟨commandId, .generic, .behavioralFailure⟩

/-- `default_verification_rules`. -/
def defaultVerificationRules : List ArmVerificationRule :=
  (orderedArms.filter fun arm ↦ arm.2 = .channelACommand).map fun arm ↦
    (index (·.commandId) tunedRules (commandId arm.1)).getD (genericRule (commandId arm.1))

/-! ### Gates -/

/-- `_HELPER_PARITY_TOKENS`. -/
def helperParityTokens : List String :=
  ["helper parity", "local helper", "stubbed", "commented out", "cmdwantedspeed", "cmdpriority",
    "cmdmiscpriority", "cmdmanualfire", "cmdfireatradar", "cmdairstrafe"]

/-- `_LUA_REWRITE_TOKENS`. -/
def luaRewriteTokens : List String :=
  ["place_target_on_ground", "lua rewrite", "rewritten to map", "set-target rewrite",
    "target contract rewrote"]

/-- `_UNIT_SHAPE_TOKENS`. -/
def unitShapeTokens : List String :=
  ["fixed-wing", "fixed wing", "non-commander", "non commander", "manual launch substitution",
    "does not receive the relevant bar command shape", "does not receive the command descriptor",
    "unit-shape"]

/-- `_MOD_OPTION_TOKENS`. -/
def modOptionTokens : List String := ["emprework", "mod option", "mod-option", "modoption"]

/-- The kinds of gate that `semantic_gate_metadata` knows. -/
inductive SemanticGateKind where
  | modOption
  | luaRewrite
  | unitShape
  | helperParity
deriving Repr, DecidableEq

/-- The `gate_label` in `classify_failure_cause`. -/
def SemanticGateKind.label : SemanticGateKind → String
  | .modOption => "mod option gate"
  | .luaRewrite => "lua rewrite gate"
  | .unitShape => "unit shape gate"
  | .helperParity => "helper-parity gap"

/-- The kind in `semantic_gate_metadata`. A text that has one is not empty, so the detail of the
gate is that text. -/
def semanticGateKind (detail : String) : Option SemanticGateKind :=
  let lowered := lower detail
  if mentions modOptionTokens lowered then some .modOption
  else if mentions luaRewriteTokens lowered then some .luaRewrite
  else if mentions unitShapeTokens lowered then some .unitShape
  else if mentions helperParityTokens lowered then some .helperParity
  else none

/-! ### The classification -/

/-- `FailureSourceScope`. -/
inductive FailureSourceScope where
  | bootstrap
  | channelHealth
  | verificationRule
  | commandOutcome
deriving Repr, DecidableEq

/-- `FailureCauseClassification`, with the fields that the gate does not read. -/
structure RunFailureClassification extends FailureCauseClassification where
  runId : String
  supportingDetail : String
  sourceScope : FailureSourceScope
deriving Repr, DecidableEq

/-- The `detail` of a record. -/
def RunRecord.detail (record : RunRecord) : String :=
  textOr (record.blockingReason.getD "") (textOr record.evidenceSummary "no detail recorded")

/-- `precise_missing_fixture_classes_from_detail`. -/
def preciseMissingFixtureClassesFromDetail (detail : String) : List String :=
  preciseMissingFixtureClasses (strip detail.toList)

/-- The `unavailable_fixture_classes` in `classify_failure_cause`. -/
def unavailableFixtureClasses (record : RunRecord)
    (fixtureProvisioning : FixtureProvisioningResult) : List String :=
  let precise := preciseMissingFixtureClassesFromDetail record.detail
  if precise.isEmpty then
    unavailableFixtureClassesForCommand record.commandId fixtureProvisioning.classStatuses
      fixtureProvisioning.provisionedFixtureClasses
  else precise

/-- `classify_failure_cause`. -/
def classifyFailureCause (record : RunRecord) (fixtureProvisioning : FixtureProvisioningResult)
    (compatibilityChecks : List TransportCompatibilityCheck)
    (channelHealth : ChannelHealthOutcome) (verificationRule : ArmVerificationRule) :
    RunFailureClassification :=
  let detail := record.detail
  let dependency := commandFixtureDependency record.commandId
  let lowered := lower detail
  let affected := fixtureProvisioning.affectedCommandIds.contains record.commandId
  let unavailable := unavailableFixtureClasses record fixtureProvisioning
  let classified := fun (cause : FailureCause) (supportingDetail : String)
      (scope : FailureSourceScope) ↦
    ({ commandId := record.commandId
       runId := record.sourceRunId
       primaryCause := cause
       supportingDetail := supportingDetail
       sourceScope := scope } : RunFailureClassification)
  if mentions ["resource_starved", "bootstrap_readiness=resource_starved"] lowered then
    classified .missingFixture ("bootstrap readiness blocker: " ++ detail) .bootstrap
  else if channelHealth.status ≠ .healthy ∧ (isChannelFailureSignal detail ∨ ¬affected) then
    classified .transportInterruption detail .channelHealth
  else if affected ∨ unavailable ≠ [] ∨ dependency.blockingFallback = .missingFixture ∧
      dependency.requiredFixtureClasses.any fixtureProvisioning.missingFixtureClasses.contains then
    let joined := textOr (", ".intercalate unavailable) detail
    let transportDetail :=
      transportBlockingDetailForCommand compatibilityChecks record.commandId detail
    let transportDetail :=
      if mentions ["relay_unavailable", "resolution_status=relay_unavailable"] lowered then
        "prerequisite resolution unavailable: " ++ transportDetail
      else transportDetail
    classified .missingFixture ("missing fixture classes: " ++ joined ++ "; " ++ transportDetail)
      .bootstrap
  else
    match semanticGateKind detail with
    | some kind =>
      classified .predicateOrEvidenceGap ("semantic gate (" ++ kind.label ++ "): " ++ detail)
        .verificationRule
    | none =>
      if mentions ["capability_limited", "unsupported_callback_group="] lowered then
        classified .predicateOrEvidenceGap ("capability-limited diagnostics: " ++ detail)
          .verificationRule
      else if mentions ["selected_source=missing", "map_source_reason="] lowered then
        classified .predicateOrEvidenceGap ("map-source missing: " ++ detail) .verificationRule
      else if record.attemptStatus = .inconclusive ∨
          verificationRule.fallbackClassification = .predicateOrEvidenceGap then
        classified .predicateOrEvidenceGap
          (if mentions ["callback_diagnostics=missing"] lowered then
            "callback diagnostics unavailable: " ++ detail else detail)
          .verificationRule
      else classified .behavioralFailure detail .commandOutcome

/-- A classification is about the record it was made for. -/
theorem commandId_classifyFailureCause (record : RunRecord)
    (fixtureProvisioning : FixtureProvisioningResult)
    (compatibilityChecks : List TransportCompatibilityCheck)
    (channelHealth : ChannelHealthOutcome) (verificationRule : ArmVerificationRule) :
    (classifyFailureCause record fixtureProvisioning compatibilityChecks channelHealth
      verificationRule).commandId = record.commandId := by
  rw [classifyFailureCause]
  let about := fun item : RunFailureClassification ↦ item.commandId = record.commandId
  refine iteInduction (motive := about) (fun _ ↦ rfl) fun _ ↦ ?_
  refine iteInduction (motive := about) (fun _ ↦ rfl) fun _ ↦ ?_
  refine iteInduction (motive := about) (fun _ ↦ rfl) fun _ ↦ ?_
  rcases semanticGateKind record.detail with - | kind
  · refine iteInduction (motive := about) (fun _ ↦ rfl) fun _ ↦ ?_
    refine iteInduction (motive := about) (fun _ ↦ rfl) fun _ ↦ ?_
    exact iteInduction (motive := about) (fun _ ↦ rfl) fun _ ↦ rfl
  · rfl

/-- A record that is to be classified: directly verifiable, and not verified. -/
def RunRecord.isUnverifiedDirect (record : RunRecord) : Bool :=
  !record.verified && record.directlyVerifiable

/-- `_failure_classifications_for_run`. -/
def failureClassificationsForRun (records : List RunRecord)
    (fixtureProvisioning : FixtureProvisioningResult)
    (compatibilityChecks : List TransportCompatibilityCheck)
    (channelHealth : ChannelHealthOutcome) (verificationRules : List ArmVerificationRule) :
    List RunFailureClassification :=
  (records.filter RunRecord.isUnverifiedDirect).map fun record ↦
    classifyFailureCause record fixtureProvisioning compatibilityChecks channelHealth
      ((index (·.commandId) verificationRules record.commandId).getD
        (genericRule record.commandId))

/-- The commands that are classified. -/
theorem map_commandId_failureClassificationsForRun (records : List RunRecord)
    (fixtureProvisioning : FixtureProvisioningResult)
    (compatibilityChecks : List TransportCompatibilityCheck)
    (channelHealth : ChannelHealthOutcome) (verificationRules : List ArmVerificationRule) :
    (failureClassificationsForRun records fixtureProvisioning compatibilityChecks channelHealth
      verificationRules).map (·.commandId) =
      (records.filter RunRecord.isUnverifiedDirect).map (·.commandId) := by
  rw [failureClassificationsForRun, List.map_map]
  exact List.map_congr_left fun record _ ↦ commandId_classifyFailureCause record _ _ _ _

end HighBar.Client
