import HighBar.Client.FixtureAgreement
import HighBar.Client.RunInterpretation

/-!
# The transport decision and the transition it names

The last transition of `transport_unit` is that of the last row that speaks of the transports
(`CommandRow.transportState`), and before any such row what the mode of the run and the bootstrap
say. The decision is made by other means: by words in the joined texts of **all** the transport
rows, in which the words for a transport that was refreshed or found come before those for one that
was lost (`SpeaksOfTransport`). So the order of the rows decides the one and not the other, and the
two agree only where both happen to come out the same.
-/

namespace HighBar.Client

open KeyedLog List Option

variable {capture : LiveExecutionCapture} {row : CommandRow}

/-! ### The last transition of the transports -/

/-- The fixture is usable in the state. -/
def FixtureTransitionState.isUsable (state : FixtureTransitionState) : Prop :=
  state = .preexisting ∨ state = .provisioned ∨ state = .refreshed ∨ state = .replaced

/-- What a row leaves the transports in, if it speaks of them. A blocked row calls the transports
missing, or lets them be available while another fixture is missing; the words of any other row
come after the fact that its command was evaluated. -/
def CommandRow.transportState (row : CommandRow) : Option FixtureTransitionState :=
  if row.isBlockedOnFixture then
    if "transport_unit" ∈ row.missingFixtureClasses then some .missing
    else if row.isTransportDependent then some .provisioned
    else none
  else if mentions ["transport", "load", "unload"] row.detail then
    some (keywordState row.detail "transport_unit").1
  else if row.reachedEvaluation && row.isTransportDependent then some .provisioned
  else none

/-- What is known of the transports before the first row: the bootstrap was blocked, or the cheats
brought them. -/
def LiveExecutionCapture.initialTransportState (capture : LiveExecutionCapture) (now : String) :
    Option FixtureTransitionState :=
  if (bootstrapReadiness capture.metadataRecords capture.commandRows now).isBlocked &&
      !capture.metadataRecords.isEmpty then some .missing
  else if capture.setupMode = .cheatAssisted then some .preexisting
  else none

/-- What is known of the transports after the last row. -/
def LiveExecutionCapture.finalTransportState (capture : LiveExecutionCapture) (now : String) :
    Option FixtureTransitionState :=
  (capture.commandRows.filterMap (·.transportState)).getLast?.or
    (capture.initialTransportState now)

/-- The transport commands are those that need a transport. -/
theorem mem_fixtureClassesForCommand_transport (commandId : String) :
    "transport_unit" ∈ fixtureClassesForCommand commandId ↔
      isTransportDependentCommand commandId = true := by
  have htable : ∀ entry ∈ defaultLiveFixtureClassByCommand,
      "transport_unit" ∈ entry.2 → entry.1 ∈ transportDependentCommandIds := by decide
  have hdependent : ∀ id ∈ transportDependentCommandIds,
      "transport_unit" ∈ fixtureClassesForCommand id := by decide
  rw [isTransportDependentCommand, contains_iff_mem]
  refine ⟨fun hmem ↦ ?_, hdependent commandId⟩
  rw [fixtureClassesForCommand] at hmem
  rcases hlookup : defaultLiveFixtureClassByCommand.lookup commandId with - | classes
  · rw [hlookup, getD_none, mem_singleton] at hmem
    exact absurd hmem (by decide)
  · rw [hlookup, getD_some] at hmem
    obtain ⟨front, back, htableEq, -⟩ := lookup_eq_some_iff.1 hlookup
    exact htable (commandId, classes)
      (htableEq ▸ mem_append_right _ mem_cons_self) hmem

/-- The state of the latest transition of a class. -/
def latestState (log : List FixtureStateTransition) (fixtureClass : String) :
    Option FixtureTransitionState :=
  (latestTransition log fixtureClass).map (·.state)

/-- Later transitions count first. -/
theorem latestState_append (front back : List FixtureStateTransition) (fixtureClass : String) :
    latestState (front ++ back) fixtureClass =
      (latestState back fixtureClass).or (latestState front fixtureClass) := by
  rw [latestState, latestTransition, latest_append, map_or]
  rfl

/-- A transition for each of the classes. -/
theorem latestState_map {entry : String → FixtureStateTransition}
    (hclass : ∀ c, (entry c).fixtureClass = c) (classes : List String) (fixtureClass : String) :
    latestState (classes.map entry) fixtureClass =
      if fixtureClass ∈ classes then some (entry fixtureClass).state else none := by
  rw [latestState, latestTransition, latest_map hclass]
  split_ifs <;> rfl

theorem latestState_flatMap {β : Type*} (items : List β)
    (entries : β → List FixtureStateTransition) (fixtureClass : String) :
    latestState (items.flatMap entries) fixtureClass =
      (items.filterMap fun item ↦ latestState (entries item) fixtureClass).getLast? := by
  rw [latestState, latestTransition, latest_flatMap, ← getLast?_map, map_filterMap]
  rfl

/-- The words that stand for the transports. -/
theorem mem_keywordClasses_transport (row : CommandRow) :
    "transport_unit" ∈ row.keywordClasses ↔
      mentions ["transport", "load", "unload"] row.detail = true := by
  have hentry : ∀ entry ∈ fixtureKeywords, entry.1 = "transport_unit" →
      entry.2 = ["transport", "load", "unload"] := by decide
  rw [CommandRow.keywordClasses, List.mem_map]
  constructor
  · rintro ⟨entry, hmem, hclass⟩
    obtain ⟨htable, hmentions⟩ := mem_filter.1 hmem
    rwa [hentry entry htable hclass] at hmentions
  · intro hmentions
    exact ⟨("transport_unit", ["transport", "load", "unload"]),
      mem_filter.2 ⟨by decide, hmentions⟩, rfl⟩

variable (recordedAt : String) (row : CommandRow)

/-- The fixtures that are not missing are filed after those that are. -/
theorem latestState_blockedTransitions :
    latestState (row.blockedTransitions recordedAt) "transport_unit" =
      if "transport_unit" ∈ row.missingFixtureClasses then some .missing
      else if row.isTransportDependent then some .provisioned
      else none := by
  have hothers : "transport_unit" ∈ ((fixtureClassesForCommand row.commandId).filter
        fun fixtureClass ↦ !row.missingFixtureClasses.contains fixtureClass) ↔
      row.isTransportDependent = true ∧ "transport_unit" ∉ row.missingFixtureClasses := by
    rw [mem_filter, mem_fixtureClassesForCommand_transport, Bool.not_eq_true',
      ← Bool.not_eq_true, contains_iff_mem]
    rfl
  rw [CommandRow.blockedTransitions, latestState_append, latestState_map fun _ ↦ rfl,
    latestState_map fun _ ↦ rfl]
  by_cases hmissing : "transport_unit" ∈ row.missingFixtureClasses
  · rw [if_neg fun hmem ↦ (hothers.1 hmem).2 hmissing, if_pos hmissing, if_pos hmissing]
    rfl
  · rw [if_neg hmissing, if_neg hmissing, or_none]
    exact if_congr (hothers.trans (and_iff_left hmissing)) rfl rfl

/-- A row that reached its evaluation provisions the transport. -/
theorem latestState_evaluatedTransitions :
    latestState (row.evaluatedTransitions recordedAt) "transport_unit" =
      if row.reachedEvaluation && row.isTransportDependent then some .provisioned else none := by
  rw [CommandRow.evaluatedTransitions]
  cases row.reachedEvaluation with
  | false => rfl
  | true =>
    rw [if_pos rfl, latestState_map fun _ ↦ rfl, Bool.true_and]
    exact if_congr (mem_fixtureClassesForCommand_transport row.commandId) rfl rfl

/-- **One row** files its state as the last transition of the transports. -/
theorem latestState_rowTransitions :
    latestState (rowTransitions recordedAt row) "transport_unit" = row.transportState := by
  rw [rowTransitions, CommandRow.transportState]
  by_cases hblocked : row.isBlockedOnFixture = true
  · rw [if_pos hblocked, if_pos hblocked, latestState_blockedTransitions]
  · rw [if_neg hblocked, if_neg hblocked, latestState_append, latestState_map fun _ ↦ rfl,
      latestState_evaluatedTransitions]
    by_cases hkeyword : mentions ["transport", "load", "unload"] row.detail = true
    · rw [if_pos ((mem_keywordClasses_transport row).2 hkeyword), if_pos hkeyword]
      rfl
    · rw [if_neg (mt (mem_keywordClasses_transport row).1 hkeyword), if_neg hkeyword,
        none_or]

/-! ### The whole log -/

theorem baselineGuaranteedFixtures_policy (capture : LiveExecutionCapture) :
    capture.policy.baselineGuaranteedFixtures =
      if capture.setupMode = .cheatAssisted then sorted allLiveFixtureClasses
      else defaultLiveFixtureClasses := by
  rw [LiveExecutionCapture.policy, defaultRunModeEvidencePolicy]
  split_ifs <;> rfl

theorem commander_mem_baseline (capture : LiveExecutionCapture) :
    "commander" ∈ capture.policy.baselineGuaranteedFixtures := by
  rw [baselineGuaranteedFixtures_policy]
  split_ifs
  · exact mem_sorted.2 (mem_allLiveFixtureClasses.2 (by decide))
  · decide

theorem transport_mem_baseline :
    "transport_unit" ∈ capture.policy.baselineGuaranteedFixtures ↔
      capture.setupMode = .cheatAssisted := by
  rw [baselineGuaranteedFixtures_policy]
  split_ifs with hcheats
  · exact iff_of_true (mem_sorted.2 (mem_allLiveFixtureClasses.2 (by decide))) hcheats
  · exact iff_of_false (by decide) hcheats

/-- A guarantee of the mode is of a state in which the transports can be used. -/
theorem latestState_baselineTransitions (recordedAt : String)
    (hlive : capture.policy.countsAsLiveEvidence = true) :
    latestState (baselineTransitions capture.policy recordedAt) "transport_unit" =
      if capture.setupMode = .cheatAssisted then some .preexisting else none := by
  rw [baselineTransitions, policyTransitions, latestState_map fun _ ↦ rfl, if_pos hlive]
  exact if_congr (mem_sorted.trans transport_mem_baseline) rfl rfl

/-- A blocked bootstrap leaves the transport missing. -/
theorem latestState_bootstrapTransitions (readiness : BootstrapReadiness) :
    latestState (bootstrapTransitions capture readiness) "transport_unit" =
      if readiness.isBlocked && !capture.metadataRecords.isEmpty then some .missing else none := by
  have hmem : "transport_unit" ∈ sorted (allLiveFixtureClasses.filter fun fixtureClass ↦
      !bootstrapBlockedBaselineFixtureClasses.contains fixtureClass) :=
    mem_sorted.2 (mem_filter.2 ⟨mem_allLiveFixtureClasses.2 (by decide), by decide⟩)
  rw [bootstrapTransitions]
  split_ifs
  · rw [policyTransitions, latestState_map fun _ ↦ rfl, if_pos hmem]
  · rfl

/-- **The log of a live run** ends, for the transports, in the state that its rows leave. -/
theorem latestState_transitionLog (now : String)
    (hlive : capture.policy.countsAsLiveEvidence = true) :
    latestState (transitionLog capture capture.policy
        (bootstrapReadiness capture.metadataRecords capture.commandRows now) now)
      "transport_unit" = capture.finalTransportState now := by
  have hbaseline : ∀ recordedAt, baselineTransitions capture.policy recordedAt ≠ [] :=
    fun recordedAt hnil ↦ not_mem_nil (mem_sorted.2 (commander_mem_baseline capture) |>
      (map_eq_nil_iff.1 hnil ▸ ·))
  rw [transitionLog, if_neg]
  · rw [latestState_append, latestState_append, latestState_flatMap,
      latestState_baselineTransitions _ hlive, latestState_bootstrapTransitions,
      LiveExecutionCapture.finalTransportState, LiveExecutionCapture.initialTransportState]
    simp only [latestState_rowTransitions]
    congr 1
    split_ifs <;> rfl
  · rw [List.isEmpty_iff, List.append_eq_nil_iff, List.append_eq_nil_iff]
    exact fun hnil ↦ hbaseline _ hnil.1.1

/-- **The fixture history of a live run**, filed by the class, ends in the same state. -/
theorem latestState_fixtureTransitions (now : String)
    (hlive : capture.policy.countsAsLiveEvidence = true) :
    latestState (capture.fixtureTransitions now) "transport_unit" =
      capture.finalTransportState now := by
  rw [← latestState_transitionLog now hlive, LiveExecutionCapture.fixtureTransitions,
    buildFixtureTransitionHistory, latestState, latestTransition, latest_byKey]
  · rfl
  · exact (sorted_perm _).nodup_iff.2 (nodup_dedup _)
  · exact fun entry hmem ↦ mem_sorted.2 (mem_dedup.2 (mem_map_of_mem hmem))

/-! ### The decision -/

/-- The joined texts of the transport rows speak of a transport: one that was found, spawned,
refreshed or replaced, whatever else they say; or, if they speak of no loss, one that was
provisioned or for which a transport command was dispatched. -/
def SpeaksOfTransport (commandRows : List CommandRow) : Prop :=
  let detail := transportDetail commandRows
  mentions transportFallbackTokens detail = true ∨ mentions transportReplacedTokens detail = true ∨
    mentions refreshedFixtureTokens detail = true ∨
    mentions transportPreexistingTokens detail = true ∨
    mentions unusableFixtureTokens detail = false ∧
      mentions transportPayloadIncompatibleTokens detail = false ∧
      mentions missingFixtureTokens detail = false ∧
      (mentions transportProvisionedTokens detail = true ∨
        ∃ row ∈ commandRows, row.isDispatchedTransport = true)

/-- A status by which the transports count as available. -/
def TransportProvisioningStatus.isAvailable (status : TransportProvisioningStatus) : Prop :=
  status ≠ .missing ∧ status ≠ .unusable

/-- The transport is available exactly if the rows speak of it. -/
theorem isAvailable_transportStatusFromRows (commandRows : List CommandRow) :
    (transportStatusFromRows commandRows).1.isAvailable ↔ SpeaksOfTransport commandRows := by
  have hdispatched : commandRows.any (·.isDispatchedTransport) = true ↔
      ∃ row ∈ commandRows, row.isDispatchedTransport = true := any_eq_true
  rw [transportStatusFromRows, SpeaksOfTransport, TransportProvisioningStatus.isAvailable]
  -- One case for each group of words, in the order in which they are looked for.
  split_ifs with hfallback hreplaced hrefreshed hpreexisting hlost hmissing hprovisioned hrow <;>
    simp_all
  rcases hlost with hlost | hlost <;> simp [hlost]

/-- The decision follows the status. -/
theorem availabilityStatus_transportDecisionFromResult (policy : RunModeEvidencePolicy)
    (status : TransportProvisioningStatus) (hasCompatibilityChecks : Bool)
    (fixtureTransitions : List FixtureStateTransition) :
    (transportDecisionFromResult policy status hasCompatibilityChecks
        fixtureTransitions).availabilityStatus = .available ↔ status.isAvailable := by
  rw [TransportProvisioningStatus.isAvailable]
  cases status with
  | missing =>
    refine iff_of_false ?_ fun hboth ↦ hboth.1 rfl
    rw [transportDecisionFromResult]
    dsimp only
    split_ifs <;> exact not_false
  | unusable => exact iff_of_false TransportAvailabilityStatus.noConfusion fun hboth ↦ hboth.2 rfl
  | preexisting | provisioned | refreshed | replaced | fallbackProvisioned =>
    exact iff_of_true rfl ⟨TransportProvisioningStatus.noConfusion,
      TransportProvisioningStatus.noConfusion⟩

theorem availabilityStatus_eq_available_iff (now : String) :
    (capture.transportDecision now).availabilityStatus = .available ↔
      SpeaksOfTransport capture.commandRows := by
  rw [LiveExecutionCapture.transportDecision, availabilityStatus_transportDecisionFromResult,
    isAvailable_transportStatusFromRows]

theorem authoritativeTransition_transportDecisionFromResult (policy : RunModeEvidencePolicy)
    (status : TransportProvisioningStatus) (hasCompatibilityChecks : Bool)
    (fixtureTransitions : List FixtureStateTransition) :
    (transportDecisionFromResult policy status hasCompatibilityChecks
        fixtureTransitions).authoritativeTransition =
      latestTransition fixtureTransitions "transport_unit" :=
  rfl

/-- The state of the transition that the decision names. -/
theorem map_state_authoritativeTransition (now : String)
    (hlive : capture.policy.countsAsLiveEvidence = true) :
    (capture.transportDecision now).authoritativeTransition.map (·.state) =
      capture.finalTransportState now := by
  rw [← latestState_fixtureTransitions now hlive, LiveExecutionCapture.transportDecision,
    authoritativeTransition_transportDecisionFromResult, latestState]

/-- **The transport decision and its transition.** In a live run the decision names the latest
transition of `transport_unit` in the fixture history as the one with authority. It calls the
transports available exactly if that transition leaves them usable, if and only if the joined texts
of the transport rows speak of a transport exactly when the last word of the rows, taken in order,
is that the transports are usable. -/
theorem transportDecision_agrees_iff (capture : LiveExecutionCapture) (now : String)
    (hlive : capture.policy.countsAsLiveEvidence = true) :
    let decision := capture.transportDecision now
    decision.authoritativeTransition =
        latestTransition (capture.fixtureTransitions now) "transport_unit" ∧
      ((decision.availabilityStatus = .available ↔
          ∃ transition ∈ decision.authoritativeTransition, transition.state.isUsable) ↔
        (SpeaksOfTransport capture.commandRows ↔
          ∃ state ∈ capture.finalTransportState now, state.isUsable)) := by
  intro decision
  have hstate : (∃ transition ∈ decision.authoritativeTransition, transition.state.isUsable) ↔
      ∃ state ∈ capture.finalTransportState now, state.isUsable := by
    rw [← map_state_authoritativeTransition now hlive]
    exact exists_mem_map.symm
  refine ⟨authoritativeTransition_transportDecisionFromResult .., ?_⟩
  rw [hstate, availabilityStatus_eq_available_iff]

/-- The rows of two transport commands: a refreshed transport, and one that was lost. -/
def refreshedRow : CommandRow where
  armName := "unload_unit"
  evidence := some "transport refreshed"
  error := some "effect_not_observed"
  dispatched := some "true"
  verified := some "false"

/-- A row whose transport was lost before the dispatch. -/
def lostRow : CommandRow where
  armName := "load_units"
  evidence := some "transport stale"
  error := some "precondition_unmet"
  dispatched := some "false"
  verified := some "false"

/-- A run in which a lost transport was refreshed. -/
def lossThenRefresh : LiveExecutionCapture := ⟨.natural, [lostRow, refreshedRow], [], "t0"⟩

/-- A run in which a refreshed transport was lost. -/
def refreshThenLoss : LiveExecutionCapture := ⟨.natural, [refreshedRow, lostRow], [], "t0"⟩

/-- With the loss first the decision and its transition agree. -/
theorem transportDecision_agrees_lossThenRefresh :
    (lossThenRefresh.transportDecision "t1").availabilityStatus = .available ↔
      ∃ transition ∈ (lossThenRefresh.transportDecision "t1").authoritativeTransition,
        transition.state.isUsable := by
  have hrefreshed : mentions refreshedFixtureTokens (transportDetail lossThenRefresh.commandRows) =
      true := by decide +kernel
  have hstate : lossThenRefresh.finalTransportState "t1" = some .refreshed := by decide +kernel
  exact (transportDecision_agrees_iff lossThenRefresh "t1" rfl).2.2 (iff_of_true
    (Or.inr (Or.inr (Or.inl hrefreshed))) ⟨.refreshed, hstate, Or.inr (Or.inr (Or.inl rfl))⟩)

/-- With the loss last the transports are still called available, by the authority of a transition
that makes them unusable. -/
theorem transport_available_after_loss :
    refreshThenLoss.policy.countsAsLiveEvidence = true ∧
      (refreshThenLoss.transportDecision "t1").availabilityStatus = .available ∧
      (refreshThenLoss.transportDecision "t1").authoritativeTransition.map (·.state) =
        some .unusable := by
  have hrefreshed : mentions refreshedFixtureTokens (transportDetail refreshThenLoss.commandRows) =
      true := by decide +kernel
  refine ⟨rfl, ?_, ?_⟩
  · exact (availabilityStatus_eq_available_iff "t1").2 (Or.inr (Or.inr (Or.inl hrefreshed)))
  · rw [map_state_authoritativeTransition "t1" rfl]
    decide +kernel

end HighBar.Client
