import HighBar.Client.FixtureProvisioning

/-!
# The interpretation of a live run

A live run leaves command rows and metadata records behind, and `run_interpretation.py` reads two
things out of them that concern the transports. `_build_fixture_transition_history` replays the rows
in order and files a transition for every fixture a row speaks of. `_transport_status_from_rows`
joins the texts of all rows of the transport commands and looks for words in them, in a fixed order
of priority. `transport_decision_from_result` then decides by the second, and names the last
transition of the first as the one with authority.

A row is a `dict` of texts here: a column that is absent, `None` or empty reads the same. Case is
folded as `str.lower` does it, as far as letters of ASCII come out of it.
-/

namespace HighBar.Client

open KeyedLog

/-! ### Texts -/

/-- A character after `str.lower`. The sign for kelvin is the only one outside ASCII that becomes a
letter of ASCII by itself. -/
def lowerChar (c : Char) : Char :=
  if c = Char.ofNat 0x212a then 'k' else c.toLower

/-- `text.lower()`. -/
def lower (text : String) : List Char :=
  text.toList.map lowerChar

/-- `any(token in detail for token in tokens)`. -/
def mentions (tokens : List String) (detail : List Char) : Bool :=
  tokens.any fun token ↦ decide (token.toList <:+: detail)

/-- The characters that `str.strip` removes. -/
def isSpace (c : Char) : Bool :=
  let n := c.toNat
  (9 ≤ n && n ≤ 13) || (28 ≤ n && n ≤ 32) || n = 0x85 || n = 0xa0 || n = 0x1680 ||
    (0x2000 ≤ n && n ≤ 0x200a) || n = 0x2028 || n = 0x2029 || n = 0x202f || n = 0x205f || n = 0x3000

/-- `text.strip()`. -/
def strip (text : List Char) : List Char :=
  ((text.dropWhile isSpace).reverse.dropWhile isSpace).reverse

/-- What follows the first occurrence of a marker. -/
def afterFirst (marker : List Char) : List Char → Option (List Char)
  | [] => if marker.isEmpty then some [] else none
  | c :: rest =>
    if marker.isPrefixOf (c :: rest) then some ((c :: rest).drop marker.length)
    else afterFirst marker rest

/-- `_FIXTURE_KEYWORDS`. -/
def fixtureKeywords : List (String × List String) :=
  [("damaged_friendly", ["damaged", "repair"]), ("reclaim_target", ["reclaim"]),
    ("transport_unit", ["transport", "load", "unload"]),
    ("payload_unit", ["payload", "load", "unload"]),
    ("capturable_target", ["capture", "capturable"]), ("restore_target", ["restore"]),
    ("wreck_target", ["wreck", "resurrect"]), ("custom_target", ["custom"])]

/-- `_UNUSABLE_FIXTURE_TOKENS`. -/
def unusableFixtureTokens : List String :=
  ["refresh_failed", "refresh failed", "stale", "destroyed", "out_of_range", "out of range",
    "consumed", "unusable"]

/-- `_REFRESHED_FIXTURE_TOKENS`. -/
def refreshedFixtureTokens : List String :=
  ["refreshed", "replacement", "replaced"]

/-- `_MISSING_FIXTURE_TOKENS`. -/
def missingFixtureTokens : List String :=
  ["live fixture dependency unavailable", "fixture missing", "missing fixture",
    "not provisioned by the live bootstrap context"]

/-- `_TRANSPORT_PREEXISTING_TOKENS`. -/
def transportPreexistingTokens : List String :=
  ["preexisting transport", "reused transport", "transport reuse"]

/-- `_TRANSPORT_PROVISIONED_TOKENS`. -/
def transportProvisionedTokens : List String :=
  ["transport fixture prepared", "natural transport", "transport provisioned"]

/-- `_TRANSPORT_REPLACED_TOKENS`. -/
def transportReplacedTokens : List String :=
  ["transport replaced", "replacement transport"]

/-- `_TRANSPORT_FALLBACK_TOKENS`. -/
def transportFallbackTokens : List String :=
  ["fallback transport", "fallback spawn", "cheat-assisted transport"]

/-- `_TRANSPORT_PAYLOAD_INCOMPATIBLE_TOKENS`. -/
def transportPayloadIncompatibleTokens : List String :=
  ["payload incompatible", "transport-payload incompatible", "transport payload incompatible"]

/-- `_BOOTSTRAP_BLOCKED_BASELINE_FIXTURE_CLASSES`. -/
def bootstrapBlockedBaselineFixtureClasses : List String :=
  ["commander", "movement_lane", "resource_baseline"]

/-! ### The capture of a run -/

/-- A command row. -/
structure CommandRow where
  armName : String := ""
  evidence : Option String := none
  error : Option String := none
  fixtureStatus : Option String := none
  dispatched : Option String := none
  verified : Option String := none
  recordedAt : Option String := none
deriving Repr, DecidableEq

/-- `_command_id(row.get("arm_name", ""))`. -/
def CommandRow.commandId (row : CommandRow) : String :=
  HighBar.Client.commandId row.armName

/-- The texts of a row that are searched. -/
def CommandRow.parts (row : CommandRow) : List String :=
  [row.evidence.getD "", row.error.getD "", row.fixtureStatus.getD ""]

/-- The `detail` of a row. -/
def CommandRow.detail (row : CommandRow) : List Char :=
  lower (" ".intercalate row.parts)

/-- A metadata record; the fields of its payload that are read here hold texts. -/
structure MetadataRecord where
  recordType : String
  payload : List (String × Option String) := []
deriving Repr, DecidableEq

/-- `SetupMode`. -/
inductive SetupMode where
  | natural
  | mixed
  | cheatAssisted
deriving Repr, DecidableEq

/-- `LiveExecutionCapture`. -/
structure LiveExecutionCapture where
  setupMode : SetupMode
  commandRows : List CommandRow
  metadataRecords : List MetadataRecord := []
  collectedAt : String := ""
deriving Repr, DecidableEq

/-- `TransportAvailabilityStatus`. -/
inductive TransportAvailabilityStatus where
  | available
  | missing
  | unproven
  | unknown
  | modeQualifiedNonLive
deriving Repr, DecidableEq

/-- `RunModeEvidencePolicy`. -/
structure RunModeEvidencePolicy where
  setupMode : SetupMode
  baselineGuaranteedFixtures : List String
  transportDefaultStatus : TransportAvailabilityStatus
  countsAsLiveEvidence : Bool
  policyReason : String
deriving Repr, DecidableEq

/-- `default_run_mode_evidence_policy`. -/
def defaultRunModeEvidencePolicy (setupMode : SetupMode) (hasLiveCommandRows : Bool) :
    RunModeEvidencePolicy :=
  let baseline :=
    if setupMode = .cheatAssisted then sorted allLiveFixtureClasses else defaultLiveFixtureClasses
  if !hasLiveCommandRows then
    { setupMode := setupMode
      baselineGuaranteedFixtures := baseline
      transportDefaultStatus := .modeQualifiedNonLive
      countsAsLiveEvidence := false
      policyReason := "run completed without live command evidence; baseline fixture and " ++
        "transport claims remain mode-qualified non-live" }
  else
    { setupMode := setupMode
      baselineGuaranteedFixtures := baseline
      transportDefaultStatus := .unknown
      countsAsLiveEvidence := true
      policyReason := "live command evidence is present; baseline guarantees may seed " ++
        "interpretation but final claims require explicit evidence transitions" }

/-- The policy of a capture. -/
def LiveExecutionCapture.policy (capture : LiveExecutionCapture) : RunModeEvidencePolicy :=
  defaultRunModeEvidencePolicy capture.setupMode !capture.commandRows.isEmpty

/-- `payload.get(key, default)`. -/
def MetadataRecord.get (record : MetadataRecord) (key default : String) : Option String :=
  (record.payload.lookup key).getD (some default)

/-- The fields of `BootstrapReadinessAssessment` that the history reads. -/
structure BootstrapReadiness where
  readinessStatus : Option String
  recordedAt : Option String
deriving Repr, DecidableEq

/-- The readiness that `_interpret_metadata` finds: that of the last record, or what the rows let
on. -/
def bootstrapReadiness (metadataRecords : List MetadataRecord) (commandRows : List CommandRow)
    (now : String) : BootstrapReadiness :=
  match (metadataRecords.filter (·.recordType = "bootstrap_readiness")).getLast? with
  | some record => ⟨record.get "readiness_status" "unknown", record.get "recorded_at" now⟩
  | none =>
    let detail := " ".intercalate (commandRows.map (·.evidence.getD ""))
    if !commandRows.isEmpty && decide ("resource_starved".toList <:+: detail.toList) then
      ⟨some "resource_starved", some now⟩
    else ⟨some "unknown", some now⟩

/-- `readiness_status not in {"natural_ready", "seeded_ready"}`. -/
def BootstrapReadiness.isBlocked (readiness : BootstrapReadiness) : Bool :=
  readiness.readinessStatus ≠ some "natural_ready" &&
    readiness.readinessStatus ≠ some "seeded_ready"

/-! ### The history of the fixtures -/

/-- `_precise_missing_fixture_classes`: the names between the brackets after the marker. -/
def preciseMissingFixtureClasses (detail : List Char) : List String :=
  match afterFirst "live fixture dependency unavailable for this arm (".toList detail with
  | none => []
  | some rest =>
    if rest.contains ')' then
      (((rest.takeWhile (· ≠ ')')).splitOn ',').map strip).filterMap fun name ↦
        if name.isEmpty then none else some (String.ofList name)
    else []

/-- A row of a command that was blocked because a fixture was missing. -/
def CommandRow.isBlockedOnFixture (row : CommandRow) : Bool :=
  row.error = some "precondition_unmet" && mentions missingFixtureTokens row.detail

/-- The fixtures a blocked row calls missing. -/
def CommandRow.missingFixtureClasses (row : CommandRow) : List String :=
  let precise := preciseMissingFixtureClasses row.detail
  if precise.isEmpty then fixtureClassesForCommand row.commandId else precise

/-- `row.get("dispatched") == "true" or row.get("verified") == "true"`. -/
def CommandRow.reachedEvaluation (row : CommandRow) : Bool :=
  row.dispatched = some "true" || row.verified = some "true"

/-- What the words of a row say of a fixture it mentions. -/
def keywordState (detail : List Char) (fixtureClass : String) : FixtureTransitionState × String :=
  if mentions unusableFixtureTokens detail then
    (.unusable, fixtureClass ++ " became unusable before dependent commands could run")
  else if mentions refreshedFixtureTokens detail then
    (.refreshed, fixtureClass ++ " was refreshed after a stale or consumed instance")
  else (.provisioned, fixtureClass ++ " was provisioned from live setup evidence")

/-- `_append_transition` for a row. -/
def CommandRow.transition (row : CommandRow) (recordedAt : String) (state : FixtureTransitionState)
    (detail fixtureClass : String) : FixtureStateTransition where
  fixtureClass := fixtureClass
  state := state
  observedSource := "live_execution"
  detail := detail
  affectedCommands := [row.commandId]
  recordedAt := if (row.recordedAt.getD "").isEmpty then recordedAt else row.recordedAt.getD ""

/-- The transitions of a row whose command was blocked on a fixture. -/
def CommandRow.blockedTransitions (row : CommandRow) (recordedAt : String) :
    List FixtureStateTransition :=
  row.missingFixtureClasses.map (fun fixtureClass ↦ row.transition recordedAt .missing
    (fixtureClass ++ " was still unavailable when " ++ row.commandId ++ " was attempted")
    fixtureClass) ++
  ((fixtureClassesForCommand row.commandId).filter fun fixtureClass ↦
    !row.missingFixtureClasses.contains fixtureClass).map (fun fixtureClass ↦
      row.transition recordedAt .provisioned
        (fixtureClass ++ " remained available while " ++ row.commandId ++
          " was blocked on another prerequisite") fixtureClass)

/-- The fixtures that the command of a row needs were there if it was evaluated. -/
def CommandRow.evaluatedTransitions (row : CommandRow) (recordedAt : String) :
    List FixtureStateTransition :=
  if row.reachedEvaluation then
    (fixtureClassesForCommand row.commandId).map (row.transition recordedAt .provisioned
      (row.commandId ++ " reached live evaluation with the fixture available"))
  else []

/-- The classes a row speaks of. -/
def CommandRow.keywordClasses (row : CommandRow) : List String :=
  (fixtureKeywords.filter fun entry ↦ mentions entry.2 row.detail).map Prod.fst

/-- The transitions that one row adds. -/
def rowTransitions (recordedAt : String) (row : CommandRow) : List FixtureStateTransition :=
  if row.isBlockedOnFixture then row.blockedTransitions recordedAt
  else
    row.evaluatedTransitions recordedAt ++ row.keywordClasses.map fun fixtureClass ↦
      row.transition recordedAt (keywordState row.detail fixtureClass).1
        (keywordState row.detail fixtureClass).2 fixtureClass

/-- A transition for each of the classes, without a command. -/
def policyTransitions (state : FixtureTransitionState) (observedSource detail recordedAt : String)
    (classes : List String) : List FixtureStateTransition :=
  classes.map fun fixtureClass ↦ ⟨fixtureClass, state, observedSource, detail, [], recordedAt⟩

/-- What the mode of the run guarantees. -/
def baselineTransitions (policy : RunModeEvidencePolicy) (recordedAt : String) :
    List FixtureStateTransition :=
  policyTransitions (if policy.countsAsLiveEvidence then .preexisting else .modeQualifiedNonLive)
    "run_mode_policy" policy.policyReason recordedAt (sorted policy.baselineGuaranteedFixtures)

/-- What a blocked bootstrap never came to. -/
def bootstrapTransitions (capture : LiveExecutionCapture) (readiness : BootstrapReadiness) :
    List FixtureStateTransition :=
  if readiness.isBlocked && !capture.metadataRecords.isEmpty then
    policyTransitions .missing "live_execution"
      "live bootstrap blocked before fixture provisioning could establish this dependency"
      (readiness.recordedAt.getD "")
      (sorted (allLiveFixtureClasses.filter fun fixtureClass ↦
        !bootstrapBlockedBaselineFixtureClasses.contains fixtureClass))
  else []

/-- The transitions in the order in which `_build_fixture_transition_history` appends them. -/
def transitionLog (capture : LiveExecutionCapture) (policy : RunModeEvidencePolicy)
    (readiness : BootstrapReadiness) (now : String) : List FixtureStateTransition :=
  let recordedAt := if capture.collectedAt.isEmpty then now else capture.collectedAt
  let log := baselineTransitions policy recordedAt ++ bootstrapTransitions capture readiness ++
    capture.commandRows.flatMap (rowTransitions recordedAt)
  if log.isEmpty then
    policyTransitions (if policy.countsAsLiveEvidence then .missing else .modeQualifiedNonLive)
      "run_mode_policy"
      (if policy.countsAsLiveEvidence then "no live fixture evidence was recorded for this class"
        else policy.policyReason)
      recordedAt (sorted allLiveFixtureClasses)
  else log

/-- `_build_fixture_transition_history`: the log, filed by the class and the classes in order. -/
def buildFixtureTransitionHistory (capture : LiveExecutionCapture) (policy : RunModeEvidencePolicy)
    (readiness : BootstrapReadiness) (now : String) : List FixtureStateTransition :=
  let log := transitionLog capture policy readiness now
  byKey (·.fixtureClass) log (sorted (log.map (·.fixtureClass)).dedup)

/-! ### The status of the transports -/

/-- `is_transport_dependent_command`, for the command of a row. -/
def CommandRow.isTransportDependent (row : CommandRow) : Bool :=
  isTransportDependentCommand row.commandId

/-- `TransportProvisioningStatus`. -/
inductive TransportProvisioningStatus where
  | preexisting
  | provisioned
  | refreshed
  | replaced
  | fallbackProvisioned
  | missing
  | unusable
deriving Repr, DecidableEq

/-- The texts of all the transport commands, joined. -/
def transportDetail (commandRows : List CommandRow) : List Char :=
  lower (" ".intercalate ((commandRows.filter (·.isTransportDependent)).flatMap (·.parts)))

/-- A row of one of the five arms that was dispatched. -/
def CommandRow.isDispatchedTransport (row : CommandRow) : Bool :=
  ["load_units", "load_units_area", "load_onto", "unload_unit", "unload_units_area"].contains
    row.armName && row.dispatched = some "true"

/-- `_transport_status_from_rows`, without the variant: the status, and the reason for it. -/
def transportStatusFromRows (commandRows : List CommandRow) :
    TransportProvisioningStatus × String :=
  let detail := transportDetail commandRows
  if mentions transportFallbackTokens detail then
    (.fallbackProvisioned, "transport coverage required explicit fallback provisioning")
  else if mentions transportReplacedTokens detail then
    (.replaced, "transport coverage replaced an earlier unusable candidate")
  else if mentions refreshedFixtureTokens detail then
    (.refreshed, "transport coverage was refreshed after a stale or lost candidate")
  else if mentions transportPreexistingTokens detail then
    (.preexisting, "transport coverage reused a preexisting live candidate")
  else if mentions unusableFixtureTokens detail ||
      mentions transportPayloadIncompatibleTokens detail then
    (.unusable, "transport coverage became unusable for one or more dependent commands")
  else if mentions missingFixtureTokens detail then
    (.missing, "transport coverage was not available when dependent commands were attempted")
  else if mentions transportProvisionedTokens detail then
    (.provisioned, "transport coverage was provisioned during the live workflow")
  else if commandRows.any (·.isDispatchedTransport) then
    (.provisioned,
      "transport coverage was available because transport commands reached live evaluation")
  else
    (.missing, "transport coverage was not exercised or recorded in the run bundle")

/-! ### The decision -/

/-- `TransportAvailabilityDecision`. -/
structure TransportAvailabilityDecision where
  availabilityStatus : TransportAvailabilityStatus
  explicitEvidence : Bool
  authoritativeTransition : Option FixtureStateTransition
  reason : String
  diagnosticHistory : List FixtureStateTransition
deriving Repr, DecidableEq

/-- `transport_decision_from_result`, from the status of the transports and whether any row was
checked against them. -/
def transportDecisionFromResult (policy : RunModeEvidencePolicy)
    (status : TransportProvisioningStatus) (hasCompatibilityChecks : Bool)
    (fixtureTransitions : List FixtureStateTransition) : TransportAvailabilityDecision :=
  let transportHistory := fixtureTransitions.filter fun item ↦ item.fixtureClass = "transport_unit"
  let authoritativeTransition := transportHistory.getLast?
  let verdict : TransportAvailabilityStatus × Bool × String :=
    match status with
    | .preexisting | .provisioned | .refreshed | .replaced | .fallbackProvisioned =>
      (.available, true,
        (authoritativeTransition.map (·.detail)).getD "transport was explicitly available")
    | .unusable =>
      (.missing, true,
        (authoritativeTransition.map (·.detail)).getD "transport became unusable")
    | .missing =>
      if policy.transportDefaultStatus = .modeQualifiedNonLive then
        (.modeQualifiedNonLive, false, policy.policyReason)
      else if hasCompatibilityChecks then
        (.unproven, false, "transport-dependent commands were observed without explicit " ++
          "transport availability evidence")
      else (.unknown, false, "live run did not establish explicit transport evidence")
  { availabilityStatus := verdict.1
    explicitEvidence := verdict.2.1
    authoritativeTransition := authoritativeTransition
    reason := verdict.2.2
    diagnosticHistory := transportHistory }

/-- The fixture history in `interpret_live_execution_capture`. -/
def LiveExecutionCapture.fixtureTransitions (capture : LiveExecutionCapture) (now : String) :
    List FixtureStateTransition :=
  buildFixtureTransitionHistory capture capture.policy
    (bootstrapReadiness capture.metadataRecords capture.commandRows now) now

/-- The decision in `interpret_live_execution_capture`. `_transport_compatibility_checks` makes a
check for every row of a transport command. -/
def LiveExecutionCapture.transportDecision (capture : LiveExecutionCapture) (now : String) :
    TransportAvailabilityDecision :=
  transportDecisionFromResult capture.policy (transportStatusFromRows capture.commandRows).1
    (capture.commandRows.any (·.isTransportDependent)) (capture.fixtureTransitions now)

end HighBar.Client
