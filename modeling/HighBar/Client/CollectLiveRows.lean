import HighBar.Client.CoverageReport
import Mathlib.Data.List.Infix

/-!
# The rows of a live run

`collect_live_rows` connects, bootstraps a context, and then tests the arms of the registry one
after another, resetting the context before each. Whatever goes wrong it returns rows: on a failed
connection the dry rows, on a failed bootstrap the blocked rows, on a failed reset a row for this
arm and every one after it. What the calls answer is data here (`LiveRun`, `ArmRun`), an exception
being its text, so a run is any combination of answers.

## The rows of the arms

Every way through the function gives each arm exactly one row (`LiveRun.armName_exit`), and each of
those rows passes `_validate_row`, with **one exception**: what a verify-predicate returns is copied
as it is, so the row is accepted if and only if the predicate's outcome is itself consistent
(`validateRow_armRow`).

## The rows after them

To the same list the function appends a row for every record of the context. `_validate_row` knows
nothing of such rows, so the list is no longer one row for each arm, and is refused besides: a
record as the bootstrap writes it leaves `dispatched` at `na`. The report of a run is therefore
complete **only if the context of its last reset has recorded nothing**, and if nothing calls for a
diagnostic (`one_valid_row_per_arm_iff`), while a bootstrap that succeeds always records its
readiness. A run in which all goes well has no report (`readiness_row_refused`); one that could not
connect has.
-/

namespace HighBar.Client

open List Option

/-! ### The registry -/

/-- The category of an arm. -/
inductive Category where
  | channelACommand
  | channelBQuery
  | channelCLua
deriving Repr, DecidableEq

/-- The value of a category in the report. -/
def Category.text : Category → String
  | .channelACommand => "channel_a_command"
  | .channelBQuery => "channel_b_query"
  | .channelCLua => "channel_c_lua"

/-- How an arm is verified: by a function of the snapshots, or not at all. -/
inductive VerifyPredicate where
  | callable
  | notWireObservable (rationale : String)
deriving Repr, DecidableEq

/-- An entry of the registry. -/
structure BehavioralTestCase where
  armName : String
  category : Category := .channelACommand
  verifyPredicate : VerifyPredicate := .callable
  verifyWindowFrames : ℕ := 120
deriving Repr, DecidableEq

/-- `REGISTRY`, a `dict` in which every case is filed under its own `arm_name`. -/
structure Registry where
  cases : List BehavioralTestCase
  nodup : (cases.map BehavioralTestCase.armName).Nodup

/-- The arms of the registry, in its order. -/
def Registry.armNames (registry : Registry) : List String :=
  registry.cases.map BehavioralTestCase.armName

/-- `sorted(REGISTRY.items())`. The names differ, so the cases themselves are not compared. -/
def Registry.ordered (registry : Registry) : List BehavioralTestCase :=
  registry.cases.insertionSort fun a b ↦ a.armName ≤ b.armName

theorem Registry.ordered_perm (registry : Registry) : registry.ordered.Perm registry.cases :=
  perm_insertionSort _ registry.cases

/-! ### The records of the context -/

/-- What a `BootstrapContext` has recorded. -/
structure BootstrapContext where
  bootstrapReadiness : Option Payload := none
  runtimeCapabilityProfile : Option Payload := none
  callbackDiagnostics : List Payload := []
  prerequisiteResolutionRecords : List Payload := []
  mapSourceDecisions : List Payload := []
deriving Repr, DecidableEq

/-- A `dict` in a condition: absent and empty ones do not count. -/
def recorded : Option Payload → List Payload
  | some (entry :: rest) => [entry :: rest]
  | _ => []

/-- `metadata_envelopes_from_bootstrap_context`. -/
def metadataEnvelopesFromBootstrapContext :
    Option BootstrapContext → List MetadataRecordEnvelope
  | none => []
  | some ctx =>
    (recorded ctx.bootstrapReadiness).map (⟨.bootstrapReadiness, ·⟩) ++
    (recorded ctx.runtimeCapabilityProfile).map (⟨.runtimeCapabilityProfile, ·⟩) ++
    ctx.callbackDiagnostics.map (⟨.callbackDiagnostic, ·⟩) ++
    ctx.prerequisiteResolutionRecords.map (⟨.prerequisiteResolution, ·⟩) ++
    ctx.mapSourceDecisions.map (⟨.mapSourceDecision, ·⟩)

/-- `_bootstrap_metadata_rows`. -/
def bootstrapMetadataRows (ctx : Option BootstrapContext) : List Row :=
  (metadataEnvelopesFromBootstrapContext ctx).map rowFromMetadataEnvelope

/-- The context has recorded nothing. -/
structure BootstrapContext.Unrecorded (ctx : BootstrapContext) : Prop where
  readiness : recorded ctx.bootstrapReadiness = []
  profile : recorded ctx.runtimeCapabilityProfile = []
  diagnostics : ctx.callbackDiagnostics = []
  resolutions : ctx.prerequisiteResolutionRecords = []
  decisions : ctx.mapSourceDecisions = []

/-- No envelope is written exactly if nothing was recorded. -/
theorem metadataEnvelopes_eq_nil {ctx : Option BootstrapContext} :
    metadataEnvelopesFromBootstrapContext ctx = [] ↔ ∀ c ∈ ctx, c.Unrecorded := by
  rcases ctx with - | ctx
  · exact ⟨fun _ c h ↦ absurd h (not_mem_none c), fun _ ↦ rfl⟩
  · simp only [metadataEnvelopesFromBootstrapContext, append_eq_nil_iff, map_eq_nil_iff,
      mem_some_iff, forall_eq']
    constructor
    · rintro ⟨⟨⟨⟨h₁, h₂⟩, h₃⟩, h₄⟩, h₅⟩
      exact ⟨h₁, h₂, h₃, h₄, h₅⟩
    · rintro ⟨h₁, h₂, h₃, h₄, h₅⟩
      exact ⟨⟨⟨⟨h₁, h₂⟩, h₃⟩, h₄⟩, h₅⟩

/-- `_record_bootstrap_readiness`. -/
def BootstrapContext.recordBootstrapReadiness (ctx : BootstrapContext)
    (readinessStatus readinessPath firstRequiredStep economySummary reason recordedAt : String) :
    BootstrapContext :=
  let readiness : Payload :=
    [("run_id", .text "live-closeout"), ("readiness_status", .text readinessStatus),
      ("readiness_path", .text readinessPath), ("first_required_step", .text firstRequiredStep),
      ("economy_summary", .text economySummary), ("reason", .text reason),
      ("recorded_at", .text recordedAt)]
  { ctx with bootstrapReadiness := some readiness }

/-- `_record_callback_diagnostic`. -/
def BootstrapContext.recordCallbackDiagnostic (ctx : BootstrapContext)
    (captureStage availabilityStatus source : String) (diagnosticScope : List String)
    (summary capturedAt : String) : BootstrapContext :=
  let number := ctx.callbackDiagnostics.length + 1
  let digits := if number < 10 then s!"0{number}" else s!"{number}"
  let diagnostic : Payload :=
    [("snapshot_id", .text s!"callback-{digits}"), ("capture_stage", .text captureStage),
      ("availability_status", .text availabilityStatus), ("source", .text source),
      ("diagnostic_scope", .tuple diagnosticScope), ("summary", .text summary),
      ("captured_at", .text capturedAt)]
  { ctx with callbackDiagnostics := ctx.callbackDiagnostics ++ [diagnostic] }

variable {run : LiveRun} {ctx : BootstrapContext} {registry : Registry} {case : BehavioralTestCase}

/-! ### What the calls of a run answer -/

/-- The return value of a verify-predicate. The type hints name the texts allowed, and nothing
enforces them before `_validate_row`. -/
structure VerificationOutcome where
  verified : String
  evidence : String
  error : String := ""
deriving Repr, DecidableEq

/-- The answers of the calls made for one arm. An exception is its text. -/
structure ArmRun where
  /-- `_reset_live_context_to_manifest`. When it raises, the caller keeps the context it passed,
  with what was recorded in it meanwhile. -/
  reset : Except (String × BootstrapContext) BootstrapContext
  /-- `_attempt_transport_provisioning`, called for a transport arm only. -/
  provisioned : BootstrapContext := {}
  /-- `input_builder` and `_dispatch`: the exception of the first that raises. -/
  dispatchError : Option String := none
  /-- `_simplified_bootstrap_precondition_message`. -/
  preconditionMessage : Option String := none
  /-- The frame of the last snapshot before the dispatch. -/
  pre : Option ℕ
  /-- `_wait_for_snapshot` returned a snapshot. -/
  arrived : Bool := true
  /-- The last delta received, as text, when the wait ended. -/
  lastDelta : Option String := none
  /-- The verify-predicate. -/
  verdict : Except String VerificationOutcome

/-- The answers of the calls of a run. -/
structure LiveRun where
  /-- The exception of opening the channel, reading the token or the handshake. -/
  connectionError : Option String := none
  /-- `_execute_live_bootstrap`. Its own error carries a context, others do not. -/
  bootstrap : Except (String × Option BootstrapContext) BootstrapContext
  arm : String → ArmRun
  /-- `shared["err"]` is set when the arms are done. -/
  streamError : Bool := false
  /-- `_commander_build_context_debug` of the late refresh. -/
  commanderSummary : String := ""
  /-- The capability profile that the late refresh leaves. -/
  refreshedProfile : Payload := []
  capturedAt : String := ""

/-- `_update_runtime_capability_profile` in the late refresh. The profile it leaves is an answer. -/
def LiveRun.updateRuntimeCapabilityProfile (run : LiveRun) (ctx : BootstrapContext) :
    BootstrapContext :=
  { ctx with runtimeCapabilityProfile := some run.refreshedProfile }

/-- `_capture_callback_diagnostic` at the stage `late_refresh`. It **always** adds a diagnostic; the
callback only decides which. -/
def LiveRun.captureCallbackDiagnostic (run : LiveRun) (ctx : BootstrapContext) :
    BootstrapContext :=
  let refreshed := run.updateRuntimeCapabilityProfile ctx
  let scope := ["commander_def", "build_options", "economy"]
  let summary := run.commanderSummary
  if summary.startsWith "commander_diag_error=" then
    if ctx.callbackDiagnostics = [] then
      refreshed.recordCallbackDiagnostic "late_refresh" "missing" "not_available" scope summary
        run.capturedAt
    else
      refreshed.recordCallbackDiagnostic "late_refresh" "cached" "preserved_earlier_capture" scope
        s!"late callback refresh unavailable; preserved earlier capture after: {summary}"
        run.capturedAt
  else
    refreshed.recordCallbackDiagnostic "late_refresh" "live" "invoke_callback_live" scope summary
      run.capturedAt

/-- The late refresh is recorded. -/
theorem LiveRun.not_unrecorded_captureCallbackDiagnostic (run : LiveRun) (ctx : BootstrapContext) :
    ¬(run.captureCallbackDiagnostic ctx).Unrecorded := by
  have hrecorded (ctx : BootstrapContext) (stage status source : String) (scope : List String)
      (summary capturedAt : String) :
      ¬(ctx.recordCallbackDiagnostic stage status source scope summary capturedAt).Unrecorded :=
    fun h ↦ append_ne_nil_of_right_ne_nil _ (cons_ne_nil _ _) h.diagnostics
  rw [LiveRun.captureCallbackDiagnostic]
  split_ifs
  all_goals exact hrecorded _ _ _ _ _ _ _

/-! ### The row of an arm -/

/-- `_CHANNEL_FAILURE_SIGNALS`. -/
def channelFailureSignals : List String :=
  ["plugin command channel is not connected", "cmd-ch disconnected",
    "command channel disconnected"]

/-- `is_channel_failure_signal`. The letters outside ASCII that `str.lower` brings into it cannot
complete one of the signals, so the lower case of ASCII decides. -/
def isChannelFailureSignal (detail : String) : Bool :=
  channelFailureSignals.any fun signal ↦ decide (signal.toList <:+: detail.toLower.toList)

/-- `_row_for_outcome`. -/
def rowForOutcome (case : BehavioralTestCase) (dispatched : Bool)
    (outcome : VerificationOutcome) : Row :=
  .ofTexts case.armName case.category.text (if dispatched then "true" else "false")
    outcome.verified outcome.evidence outcome.error

/-- The body of the loop after the reset: whether the command counts as dispatched, and the outcome
that is recorded. -/
def armOutcome (case : BehavioralTestCase) (answers : ArmRun) : Bool × VerificationOutcome :=
  match case.verifyPredicate with
  | .notWireObservable rationale =>
    (answers.dispatchError.isNone, ⟨"na", rationale, "not_wire_observable"⟩)
  | .callable =>
    match answers.preconditionMessage with
    | some message => (false, ⟨"na", message, "precondition_unmet"⟩)
    | none =>
      match answers.pre with
      | none => (false, ⟨"na", "no pre-dispatch snapshot", "precondition_unmet"⟩)
      | some frame =>
        match answers.dispatchError with
        | some detail =>
          if isChannelFailureSignal detail then
            (false, ⟨"na", "plugin command channel is not connected", "dispatcher_rejected"⟩)
          else
            (false, ⟨"na", s!"dispatch failed: {detail}", "dispatcher_rejected"⟩)
        | none =>
          let targetFrame := frame + case.verifyWindowFrames
          if answers.arrived then
            match answers.verdict with
            | .ok outcome => (true, outcome)
            | .error detail => (true, ⟨"false", s!"predicate threw: {detail}", "internal_error"⟩)
          else if answers.lastDelta.any isChannelFailureSignal then
            (true, ⟨"na", "plugin command channel is not connected", "dispatcher_rejected"⟩)
          else
            (true, ⟨"false", s!"timeout waiting for frame {targetFrame}", "timeout"⟩)

/-- The row of an arm whose reset succeeded. -/
def armRow (case : BehavioralTestCase) (answers : ArmRun) : Row :=
  rowForOutcome case (armOutcome case answers).1 (armOutcome case answers).2

/-- The verify-predicate of the arm was called, and returned the outcome. -/
structure Judged (case : BehavioralTestCase) (answers : ArmRun)
    (outcome : VerificationOutcome) : Prop where
  callable : case.verifyPredicate = .callable
  precondition : answers.preconditionMessage = none
  pre : answers.pre.isSome
  dispatched : answers.dispatchError = none
  arrived : answers.arrived
  verdict : answers.verdict = .ok outcome

/-- The outcome obeys the rules of the report. -/
def VerificationOutcome.Consistent (outcome : VerificationOutcome) : Prop :=
  Accepted "true" outcome.verified outcome.error

/-- The row of an outcome passes exactly if the outcome is accepted. -/
theorem validateRow_rowForOutcome {dispatched : Bool} {outcome : VerificationOutcome} :
    validateRow (rowForOutcome case dispatched outcome) = .ok () ↔
      Accepted (if dispatched then "true" else "false") outcome.verified outcome.error :=
  validateRow_ofTexts ..

theorem accepted_false (error : String) (h : error ∈ errorsForFalse) :
    Accepted "true" "false" error :=
  ⟨.inl rfl, .inr (.inl ⟨rfl, h⟩)⟩

theorem accepted_na (dispatched : Bool) (error : String) (h : error ∈ errorsForNa) :
    Accepted (if dispatched then "true" else "false") "na" error := by
  refine ⟨?_, .inr (.inr ⟨rfl, h⟩)⟩
  rcases dispatched with - | -
  · exact .inr ⟨rfl, rfl⟩
  · exact .inl rfl

/-- Either the verify-predicate was called and what it returned is the outcome, or it returned
nothing, and the outcome is one of the texts of the driver, which agree with the rules. -/
theorem armOutcome_cases (case : BehavioralTestCase) (answers : ArmRun) :
    (∃ outcome, Judged case answers outcome ∧ armOutcome case answers = (true, outcome)) ∨
      (∀ outcome, ¬Judged case answers outcome) ∧
        ∃ dispatched outcome, armOutcome case answers = (dispatched, outcome) ∧
          Accepted (if dispatched then "true" else "false") outcome.verified outcome.error := by
  rw [armOutcome]
  rcases hcase : case.verifyPredicate with - | rationale
  case notWireObservable =>
    exact .inr ⟨fun _ h ↦ absurd (hcase.symm.trans h.callable) (by simp), _, _, rfl,
      accepted_na _ "not_wire_observable" (by decide)⟩
  rcases hmessage : answers.preconditionMessage with - | message
  case some =>
    exact .inr ⟨fun _ h ↦ absurd (hmessage.symm.trans h.precondition) (by simp), _, _, rfl,
      accepted_na _ "precondition_unmet" (by decide)⟩
  rcases hpre : answers.pre with - | frame
  case none =>
    exact .inr ⟨fun _ h ↦ absurd h.pre (by simp [hpre]), _, _, rfl,
      accepted_na _ "precondition_unmet" (by decide)⟩
  rcases hdispatch : answers.dispatchError with - | detail
  case some =>
    refine .inr ⟨fun _ h ↦ absurd (hdispatch.symm.trans h.dispatched) (by simp), ?_⟩
    dsimp only
    split
    · exact ⟨_, _, rfl, accepted_na _ "dispatcher_rejected" (by decide)⟩
    · exact ⟨_, _, rfl, accepted_na _ "dispatcher_rejected" (by decide)⟩
  rcases harrived : answers.arrived with - | -
  case false =>
    refine .inr ⟨fun _ h ↦ absurd (harrived.symm.trans h.arrived) (by simp), ?_⟩
    rcases answers.lastDelta.any isChannelFailureSignal with - | -
    · exact ⟨_, _, rfl, accepted_false "timeout" (by decide)⟩
    · exact ⟨_, _, rfl, accepted_na _ "dispatcher_rejected" (by decide)⟩
  rcases hverdict : answers.verdict with detail | outcome
  · exact .inr ⟨fun _ h ↦ absurd (hverdict.symm.trans h.verdict) (by simp), _, _, rfl,
      accepted_false "internal_error" (by decide)⟩
  · exact .inl ⟨outcome, ⟨hcase, hmessage, by simp [hpre], hdispatch, harrived, hverdict⟩, rfl⟩

/-- **The row of an arm is accepted**, unless its verify-predicate was called and what it returned
breaks the rules. -/
theorem validateRow_armRow (case : BehavioralTestCase) (answers : ArmRun) :
    validateRow (armRow case answers) = .ok () ↔
      ∀ outcome, Judged case answers outcome → outcome.Consistent := by
  rw [armRow, validateRow_rowForOutcome]
  obtain ⟨outcome, hjudged, heq⟩ | ⟨hnone, dispatched, outcome, heq, haccepted⟩ :=
    armOutcome_cases case answers
  · rw [heq]
    refine ⟨fun h outcome' hjudged' ↦ ?_, fun h ↦ h outcome hjudged⟩
    obtain rfl := Except.ok.inj (hjudged.verdict.symm.trans hjudged'.verdict)
    exact h
  · rw [heq]
    exact ⟨fun _ outcome' h ↦ absurd h (hnone outcome'), fun _ ↦ haccepted⟩

/-! ### The loop -/

/-- The row of an arm that the driver never came to. -/
def untestedRow (evidence error : String) (case : BehavioralTestCase) : Row :=
  .ofTexts case.armName case.category.text "false" "na" evidence error

/-- The row of an arm that was not tested passes. -/
theorem validateRow_untestedRow (evidence : String) {error : String} (h : error ∈ errorsForNa)
    (case : BehavioralTestCase) : validateRow (untestedRow evidence error case) = .ok () :=
  (validateRow_ofTexts ..).2 (accepted_na false error h)

/-- `TRANSPORT_DEPENDENT_COMMAND_IDS`. -/
def transportDependentCommandIds : List String :=
  ["cmd-load-onto", "cmd-load-units", "cmd-load-units-area", "cmd-unload-unit",
    "cmd-unload-units-area"]

/-- The command id of an arm. -/
def commandId (armName : String) : String :=
  "cmd-" ++ armName.map fun c ↦ if c = '_' then '-' else c

/-- `is_transport_dependent_command`. -/
def isTransportDependentCommand (commandId : String) : Bool :=
  transportDependentCommandIds.contains commandId

/-- What the loop over the arms leaves. -/
structure LoopExit where
  rows : List Row
  ctx : BootstrapContext
  resetFailed : Bool

/-- The loop over the arms, with the rows so far. -/
def testArms (arm : String → ArmRun) :
    List BehavioralTestCase → List Row → BootstrapContext → LoopExit
  | [], rows, ctx => ⟨rows, ctx, false⟩
  | case :: remaining, rows, _ =>
    match (arm case.armName).reset with
    | .error (exc, ctx) =>
      let detail := s!"bootstrap_reset_failed: {exc}"
      let resetFailedRow := untestedRow detail "bootstrap_reset_failed"
      ⟨rows ++ [resetFailedRow case] ++ remaining.map resetFailedRow, ctx, true⟩
    | .ok ctx =>
      let ctx :=
        if isTransportDependentCommand (commandId case.armName) then
          (arm case.armName).provisioned
        else ctx
      testArms arm remaining (rows ++ [armRow case (arm case.armName)]) ctx

/-- The arms tested before a reset fails. -/
def testedCases (arm : String → ArmRun) (cases : List BehavioralTestCase) :
    List BehavioralTestCase :=
  cases.takeWhile fun case ↦ (arm case.armName).reset.isOk

/-- A reset that fails leaves the remaining arms untested. -/
theorem testArms_of_reset_error {arm : String → ArmRun} {exc : String} {left : BootstrapContext}
    (h : (arm case.armName).reset = .error (exc, left)) (remaining : List BehavioralTestCase)
    (rows : List Row) (ctx : BootstrapContext) :
    (testArms arm (case :: remaining) rows ctx).rows =
      rows ++ (case :: remaining).map
        (untestedRow s!"bootstrap_reset_failed: {exc}" "bootstrap_reset_failed") := by
  rw [testArms, h]
  exact append_assoc rows [_] _

/-- A reset that succeeds leaves one row for the arm. -/
theorem testArms_of_reset_ok {arm : String → ArmRun} {fresh : BootstrapContext}
    (h : (arm case.armName).reset = .ok fresh) (remaining : List BehavioralTestCase)
    (rows : List Row) (ctx : BootstrapContext) :
    ∃ ctx', testArms arm (case :: remaining) rows ctx =
      testArms arm remaining (rows ++ [armRow case (arm case.armName)]) ctx' := by
  rw [testArms, h]
  exact ⟨_, rfl⟩

/-- **Each arm gets one row**, in the order of the registry, whether the loop ends or breaks off. -/
theorem armName_testArms (arm : String → ArmRun) (cases : List BehavioralTestCase)
    (rows : List Row) (ctx : BootstrapContext) :
    (testArms arm cases rows ctx).rows.map Row.armName =
      rows.map Row.armName ++ cases.map fun case ↦ .text case.armName := by
  induction cases generalizing rows ctx with
  | nil => exact (append_nil _).symm
  | cons case remaining ih =>
    rcases hreset : (arm case.armName).reset with ⟨exc, left⟩ | fresh
    · rw [testArms_of_reset_error hreset, List.map_append, List.map_map]
      rfl
    · obtain ⟨ctx', h⟩ := testArms_of_reset_ok hreset remaining rows ctx
      rw [h, ih, map_append, append_assoc]
      rfl

/-- The rows of the loop are accepted up to the verdicts of the predicates it called. -/
theorem validateRow_testArms (arm : String → ArmRun) (cases : List BehavioralTestCase)
    (rows : List Row) (ctx : BootstrapContext) :
    (∀ row ∈ (testArms arm cases rows ctx).rows, validateRow row = .ok ()) ↔
      (∀ row ∈ rows, validateRow row = .ok ()) ∧
        ∀ case ∈ testedCases arm cases, ∀ outcome,
          Judged case (arm case.armName) outcome → outcome.Consistent := by
  induction cases generalizing rows ctx with
  | nil => exact ⟨fun h ↦ ⟨h, forall_mem_nil _⟩, fun h ↦ h.1⟩
  | cons case remaining ih =>
    rcases hreset : (arm case.armName).reset with ⟨exc, left⟩ | fresh
    · have htested : testedCases arm (case :: remaining) = [] := by
        simp [testedCases, hreset, Except.isOk, Except.toBool]
      rw [testArms_of_reset_error hreset, htested, forall_mem_append]
      refine and_congr_right fun _ ↦ ⟨fun _ ↦ forall_mem_nil _, fun _ row hrow ↦ ?_⟩
      obtain ⟨case', -, rfl⟩ := mem_map.1 hrow
      exact validateRow_untestedRow _ (by decide) case'
    · have htested : testedCases arm (case :: remaining) = case :: testedCases arm remaining := by
        simp [testedCases, hreset, Except.isOk, Except.toBool]
      obtain ⟨ctx', h⟩ := testArms_of_reset_ok hreset remaining rows ctx
      rw [h, ih, htested, forall_mem_append, forall_mem_singleton, forall_mem_cons,
        validateRow_armRow, and_assoc]

/-! ### The run -/

/-- `_collect_dry_rows`. -/
def collectDryRows (registry : Registry) : List Row :=
  registry.ordered.map (untestedRow "" "precondition_unmet")

/-- `_collect_bootstrap_blocked_rows`. -/
def collectBootstrapBlockedRows (registry : Registry) (detail : String) : List Row :=
  registry.ordered.map (untestedRow detail "precondition_unmet")

/-- The errors after which the driver asks for a diagnostic. -/
def diagnosedErrors : List String := ["dispatcher_rejected", "timeout", "bootstrap_reset_failed"]

/-- A row after which the driver asks for a diagnostic. -/
def Row.callsForDiagnostic (row : Row) : Bool :=
  (diagnosedErrors.map Value.text).contains row.error

/-- Whether the driver captures a diagnostic at the end. After a failed reset only the stream is
asked. -/
def LiveRun.capturesDiagnostic (run : LiveRun) (exit : LoopExit) : Bool :=
  if exit.resetFailed then run.streamError
  else exit.rows.any Row.callsForDiagnostic || run.streamError

/-- The context after the loop, with that diagnostic. -/
def LiveRun.lateRefresh (run : LiveRun) (exit : LoopExit) : BootstrapContext :=
  if run.capturesDiagnostic exit then run.captureCallbackDiagnostic exit.ctx else exit.ctx

/-- The exits of `collect_live_rows`: the rows of the arms, and the context whose records are
appended to them. A run that did not connect has no context. -/
def LiveRun.exit (run : LiveRun) (registry : Registry) : List Row × Option BootstrapContext :=
  match run.connectionError with
  | some _ => (collectDryRows registry, none)
  | none =>
    match run.bootstrap with
    | .error (exc, ctx) =>
      (collectBootstrapBlockedRows registry s!"bootstrap_failed: {exc}", ctx)
    | .ok ctx =>
      let exit := testArms run.arm registry.ordered [] ctx
      (exit.rows, some (run.lateRefresh exit))

/-- `collect_live_rows`. -/
def collectLiveRows (registry : Registry) (run : LiveRun) : List Row :=
  (run.exit registry).1 ++ bootstrapMetadataRows (run.exit registry).2

/-- The arms that the run tested. -/
def LiveRun.tested (run : LiveRun) (registry : Registry) : List BehavioralTestCase :=
  match run.connectionError, run.bootstrap with
  | none, .ok _ => testedCases run.arm registry.ordered
  | _, _ => []

/-- Every verify-predicate that was called returned a consistent outcome, or raised. -/
def LiveRun.VerdictsConsistent (run : LiveRun) (registry : Registry) : Prop :=
  ∀ case ∈ run.tested registry, ∀ outcome,
    Judged case (run.arm case.armName) outcome → outcome.Consistent

theorem armName_map_untestedRow (evidence error : String) (cases : List BehavioralTestCase) :
    (cases.map (untestedRow evidence error)).map Row.armName =
      cases.map fun case ↦ .text case.armName := by
  rw [List.map_map]
  rfl

/-- At every exit the rows of the arms are one for each arm. -/
theorem LiveRun.armName_exit (run : LiveRun) (registry : Registry) :
    (run.exit registry).1.map Row.armName =
      registry.ordered.map fun case ↦ .text case.armName := by
  rw [LiveRun.exit]
  rcases run.connectionError with - | e
  · rcases run.bootstrap with ⟨exc, ctx⟩ | ctx
    · exact armName_map_untestedRow _ _ registry.ordered
    · exact armName_testArms run.arm registry.ordered [] ctx
  · exact armName_map_untestedRow _ _ registry.ordered

/-- At every exit the rows of the arms are accepted up to the verdicts. -/
theorem LiveRun.validateRow_exit (run : LiveRun) (registry : Registry) :
    (∀ row ∈ (run.exit registry).1, validateRow row = .ok ()) ↔
      run.VerdictsConsistent registry := by
  have huntested (evidence : String) : ∀ row ∈ registry.ordered.map
      (untestedRow evidence "precondition_unmet"), validateRow row = .ok () := by
    intro row hrow
    obtain ⟨case, -, rfl⟩ := mem_map.1 hrow
    exact validateRow_untestedRow _ (by decide) case
  rw [LiveRun.VerdictsConsistent, LiveRun.tested, LiveRun.exit]
  rcases run.connectionError with - | e
  · rcases run.bootstrap with ⟨exc, ctx⟩ | ctx
    · exact ⟨fun _ ↦ forall_mem_nil _, fun _ ↦ huntested _⟩
    · rw [validateRow_testArms]
      exact and_iff_right (forall_mem_nil _)
  · exact ⟨fun _ ↦ forall_mem_nil _, fun _ ↦ huntested _⟩

/-- **Every arm has one row**, whatever the run meets. -/
theorem LiveRun.armName_exit_perm (run : LiveRun) (registry : Registry) :
    ((run.exit registry).1.map Row.armName).Perm (registry.armNames.map .text) := by
  rw [run.armName_exit, Registry.armNames, List.map_map]
  exact registry.ordered_perm.map _

/-- The names leave no room for a row that is no arm's. -/
theorem OneValidRowPerArm.bootstrapMetadataRows_eq_nil
    (h : OneValidRowPerArm registry.armNames (collectLiveRows registry run)) :
    bootstrapMetadataRows (run.exit registry).2 = [] := by
  have hall := (oneValidRowPerArm_iff.1 h).1.length_eq
  have harms := (run.armName_exit_perm registry).length_eq
  rw [collectLiveRows, map_append, length_append, harms] at hall
  refine eq_nil_of_length_eq_zero ?_
  simpa using hall

/-! ### The answers of a run that is reported -/

/-- The answers for an arm call for a diagnostic: after its checks the dispatch raised, no snapshot
arrived, or its verify-predicate returned one of the errors. -/
def ArmRun.Troubled (case : BehavioralTestCase) (answers : ArmRun) : Prop :=
  case.verifyPredicate = .callable ∧ answers.preconditionMessage = none ∧ answers.pre.isSome ∧
    (answers.dispatchError ≠ none ∨ answers.arrived = false ∨
      ∃ outcome, answers.verdict = .ok outcome ∧ outcome.error ∈ diagnosedErrors)

/-- The context that the answers of the resets leave: that of the last arm, or that with which the
first failing reset was called. -/
def lastContext (arm : String → ArmRun) :
    List BehavioralTestCase → BootstrapContext → BootstrapContext
  | [], ctx => ctx
  | case :: remaining, _ =>
    match (arm case.armName).reset with
    | .error (_, left) => left
    | .ok fresh =>
      lastContext arm remaining
        (if isTransportDependentCommand (commandId case.armName) then
          (arm case.armName).provisioned
        else fresh)

/-- The answers leave nothing to append to the rows of the arms. -/
structure LiveRun.LeavesNoRecord (run : LiveRun) (registry : Registry) : Prop where
  /-- A bootstrap that failed gave no context, or one without records. -/
  blocked : run.connectionError = none → ∀ exc ctx, run.bootstrap = .error (exc, some ctx) →
    ctx.Unrecorded
  /-- The state stream worked to the end, and the last context has no records. -/
  tested : run.connectionError = none → ∀ ctx, run.bootstrap = .ok ctx →
    run.streamError = false ∧ (lastContext run.arm registry.ordered ctx).Unrecorded
  /-- If all resets succeeded, no arm called for a diagnostic. -/
  untroubled : run.connectionError = none → run.bootstrap.isOk →
    (∀ case ∈ registry.cases, (run.arm case.armName).reset.isOk) →
      ∀ case ∈ registry.cases, ¬ArmRun.Troubled case (run.arm case.armName)

theorem callsForDiagnostic_armRow (case : BehavioralTestCase) (answers : ArmRun) :
    (armRow case answers).callsForDiagnostic = true ↔ ArmRun.Troubled case answers := by
  have herror : (armRow case answers).callsForDiagnostic = true ↔
      (armOutcome case answers).2.error ∈ diagnosedErrors := by
    rw [Row.callsForDiagnostic, List.contains_iff_mem, List.mem_map]
    exact ⟨fun ⟨_, hmem, heq⟩ ↦ Value.text.inj heq ▸ hmem, fun hmem ↦ ⟨_, hmem, rfl⟩⟩
  rw [herror, armOutcome, ArmRun.Troubled]
  -- the checks come first, and their errors are not among those
  rcases case.verifyPredicate with - | rationale
  case notWireObservable => exact iff_of_false (by simp [diagnosedErrors]) (by simp)
  rcases answers.preconditionMessage with - | message
  case some => exact iff_of_false (by simp [diagnosedErrors]) (by simp)
  rcases answers.pre with - | frame
  case none => exact iff_of_false (by simp [diagnosedErrors]) (by simp)
  rcases answers.dispatchError with - | detail
  case some =>
    refine iff_of_true ?_ (by simp)
    dsimp only
    split <;> simp [diagnosedErrors]
  rcases answers.arrived with - | -
  case false =>
    refine iff_of_true ?_ (by simp)
    rcases answers.lastDelta.any isChannelFailureSignal with - | - <;> simp [diagnosedErrors]
  rcases answers.verdict with detail | outcome
  · exact iff_of_false (by simp [diagnosedErrors]) (by simp)
  · simp

/-- The context at the end is that of the last reset. -/
theorem ctx_testArms (arm : String → ArmRun) (cases : List BehavioralTestCase)
    (rows : List Row) (ctx : BootstrapContext) :
    (testArms arm cases rows ctx).ctx = lastContext arm cases ctx := by
  induction cases generalizing rows ctx with
  | nil => rfl
  | cons case remaining ih =>
    rcases hreset : (arm case.armName).reset with ⟨exc, left⟩ | fresh
    · simp only [testArms, lastContext, hreset]
    · simp only [testArms, lastContext, hreset, ih]

/-- Without a failed reset the loop ends with the rows of all arms. -/
theorem testArms_of_resets {arm : String → ArmRun} {cases : List BehavioralTestCase}
    (h : ∀ case ∈ cases, (arm case.armName).reset.isOk) (rows : List Row)
    (ctx : BootstrapContext) :
    (testArms arm cases rows ctx).resetFailed = false ∧
      (testArms arm cases rows ctx).rows =
        rows ++ cases.map fun case ↦ armRow case (arm case.armName) := by
  induction cases generalizing rows ctx with
  | nil => exact ⟨rfl, (append_nil _).symm⟩
  | cons case remaining ih =>
    obtain ⟨hcase, hremaining⟩ := forall_mem_cons.1 h
    rcases hreset : (arm case.armName).reset with ⟨exc, left⟩ | fresh
    · rw [hreset] at hcase
      exact absurd hcase Bool.false_ne_true
    · obtain ⟨ctx', heq⟩ := testArms_of_reset_ok hreset remaining rows ctx
      obtain ⟨hfailed, hrows⟩ := ih hremaining (rows ++ [armRow case (arm case.armName)]) ctx'
      rw [heq]
      exact ⟨hfailed, hrows.trans (append_assoc rows [_] _)⟩

theorem resetFailed_testArms {arm : String → ArmRun} {cases : List BehavioralTestCase}
    (h : ¬∀ case ∈ cases, (arm case.armName).reset.isOk) (rows : List Row)
    (ctx : BootstrapContext) : (testArms arm cases rows ctx).resetFailed = true := by
  induction cases generalizing rows ctx with
  | nil => exact absurd (forall_mem_nil _) h
  | cons case remaining ih =>
    rcases hreset : (arm case.armName).reset with ⟨exc, left⟩ | fresh
    · rw [testArms, hreset]
    · obtain ⟨ctx', heq⟩ := testArms_of_reset_ok hreset remaining rows ctx
      rw [heq]
      refine ih (fun hall ↦ h (forall_mem_cons.2 ⟨?_, hall⟩)) _ ctx'
      rw [hreset]
      rfl

/-- The diagnostic at the end, by the answers. -/
theorem LiveRun.capturesDiagnostic_eq_false_iff (run : LiveRun) (registry : Registry)
    (ctx : BootstrapContext) :
    run.capturesDiagnostic (testArms run.arm registry.ordered [] ctx) = false ↔
      run.streamError = false ∧
        ((∀ case ∈ registry.cases, (run.arm case.armName).reset.isOk) →
          ∀ case ∈ registry.cases, ¬ArmRun.Troubled case (run.arm case.armName)) := by
  have hordered {P : BehavioralTestCase → Prop} :
      (∀ case ∈ registry.ordered, P case) ↔ ∀ case ∈ registry.cases, P case :=
    forall_congr' fun _ ↦ imp_congr_left registry.ordered_perm.mem_iff
  rw [LiveRun.capturesDiagnostic, ← hordered, ← hordered]
  by_cases hresets : ∀ case ∈ registry.ordered, (run.arm case.armName).reset.isOk
  · obtain ⟨hfailed, hrows⟩ := testArms_of_resets hresets [] ctx
    rw [hfailed, hrows, if_neg Bool.false_ne_true, Bool.or_eq_false_iff, and_comm,
      List.nil_append, List.any_eq_false, List.forall_mem_map]
    simp only [callsForDiagnostic_armRow]
    exact and_congr_right fun _ ↦ ⟨fun h _ ↦ h, fun h ↦ h hresets⟩
  · rw [resetFailed_testArms hresets, if_pos rfl]
    exact (and_iff_left fun h ↦ absurd h hresets).symm

/-- The refresh at the end records nothing exactly if there is no trouble. -/
theorem LiveRun.unrecorded_lateRefresh (run : LiveRun) (registry : Registry)
    (ctx : BootstrapContext) :
    (run.lateRefresh (testArms run.arm registry.ordered [] ctx)).Unrecorded ↔
      (run.streamError = false ∧
        ((∀ case ∈ registry.cases, (run.arm case.armName).reset.isOk) →
          ∀ case ∈ registry.cases, ¬ArmRun.Troubled case (run.arm case.armName))) ∧
        (lastContext run.arm registry.ordered ctx).Unrecorded := by
  rw [← run.capturesDiagnostic_eq_false_iff registry ctx, ← ctx_testArms run.arm _ [],
    LiveRun.lateRefresh]
  rcases run.capturesDiagnostic (testArms run.arm registry.ordered [] ctx) with - | -
  · exact (and_iff_right rfl).symm
  · exact iff_of_false (run.not_unrecorded_captureCallbackDiagnostic _)
      fun h ↦ Bool.noConfusion h.1

/-- The records that are appended, by the answers. -/
theorem LiveRun.unrecorded_exit_iff (run : LiveRun) (registry : Registry) :
    (∀ ctx ∈ (run.exit registry).2, ctx.Unrecorded) ↔ run.LeavesNoRecord registry := by
  rw [LiveRun.exit]
  rcases hconnected : run.connectionError with - | e
  · rcases hbootstrap : run.bootstrap with ⟨exc, ctx⟩ | ctx
    · constructor
      · intro h
        refine ⟨fun _ exc' ctx' heq ↦ ?_, fun _ ctx' heq ↦ ?_, fun _ hok ↦ ?_⟩
        · obtain ⟨-, rfl⟩ := Prod.mk.inj (Except.error.inj (hbootstrap.symm.trans heq))
          exact h ctx' rfl
        · exact absurd (hbootstrap.symm.trans heq) (by simp)
        · rw [hbootstrap] at hok
          exact absurd hok Bool.false_ne_true
      · rintro h ctx' rfl
        exact h.blocked hconnected exc ctx' hbootstrap
    · have hrefreshed := run.unrecorded_lateRefresh registry ctx
      constructor
      · intro h
        obtain ⟨⟨hstream, htroubled⟩, hctx⟩ := hrefreshed.1 (h _ rfl)
        refine ⟨fun _ exc' ctx' heq ↦ ?_, fun _ ctx' heq ↦ ?_, fun _ _ ↦ htroubled⟩
        · exact absurd (hbootstrap.symm.trans heq) (by simp)
        · obtain rfl := Except.ok.inj (hbootstrap.symm.trans heq)
          exact ⟨hstream, hctx⟩
      · rintro h ctx' hmem
        obtain rfl := mem_some_iff.1 hmem
        obtain ⟨hstream, hctx⟩ := h.tested hconnected ctx hbootstrap
        exact hrefreshed.2 ⟨⟨hstream, h.untroubled hconnected (by rw [hbootstrap]; rfl)⟩, hctx⟩
  · refine iff_of_true (fun ctx h ↦ absurd h (not_mem_none ctx)) ⟨?_, ?_, ?_⟩
    all_goals
      intro h
      exact absurd (hconnected.symm.trans h) (by simp)

/-- **The report of a run is complete** exactly if its answers leave no record to append, and the
outcomes that its verify-predicates returned obey the rules. -/
theorem one_valid_row_per_arm_iff (registry : Registry) (run : LiveRun) :
    OneValidRowPerArm registry.armNames (collectLiveRows registry run) ↔
      run.LeavesNoRecord registry ∧ run.VerdictsConsistent registry := by
  rw [← run.unrecorded_exit_iff, ← metadataEnvelopes_eq_nil, ← run.validateRow_exit registry,
    ← map_eq_nil_iff (f := rowFromMetadataEnvelope)]
  constructor
  · intro h
    have hnil := h.bootstrapMetadataRows_eq_nil
    refine ⟨hnil, fun row hrow ↦ (oneValidRowPerArm_iff.1 h).2 row ?_⟩
    exact mem_append_left _ hrow
  · rintro ⟨hnil, hvalid⟩
    have hrows : collectLiveRows registry run = (run.exit registry).1 :=
      (congrArg _ hnil).trans (append_nil _)
    rw [hrows]
    exact oneValidRowPerArm_iff.2 ⟨run.armName_exit_perm registry, hvalid⟩

/-! ### A run in which all goes well -/

/-- A registry of one arm. -/
def moveUnitRegistry : Registry where
  cases := [{ armName := "move_unit" }]
  nodup := by decide

/-- The context that a bootstrap without records would return, with the readiness recorded. -/
def readyContext : BootstrapContext :=
  BootstrapContext.recordBootstrapReadiness {} "natural_ready" "prepared_state" "armmex"
    "economy=unknown"
    "prepared live start already satisfied commander-built bootstrap requirements"
    "2026-01-01T00:00:00Z"

/-- The arm is reset, dispatched and verified. -/
def verifiedRun : LiveRun where
  bootstrap := .ok readyContext
  arm _ :=
    { reset := .ok readyContext
      pre := some 30
      verdict := .ok ⟨"true", "position dx=503.240 dz=0.000 (threshold 100)", ""⟩ }

/-- The row of the arm is accepted, and the row of the readiness stops the report. -/
theorem readiness_row_refused :
    (verifiedRun.exit moveUnitRegistry).1 =
        [.ofTexts "move_unit" "channel_a_command" "true" "true"
          "position dx=503.240 dz=0.000 (threshold 100)" ""] ∧
      writeCsv (collectLiveRows moveUnitRegistry verifiedRun) =
        .error (.dispatchedNotValid (.text "__bootstrap_readiness__") (.text "na")) ∧
      ¬OneValidRowPerArm moveUnitRegistry.armNames
        (collectLiveRows moveUnitRegistry verifiedRun) := by
  have hrefused : writeCsv (collectLiveRows moveUnitRegistry verifiedRun) =
      .error (.dispatchedNotValid (.text "__bootstrap_readiness__") (.text "na")) := by
    decide +kernel
  refine ⟨by decide +kernel, hrefused, ?_⟩
  rintro ⟨written, hwritten, -⟩
  rw [hrefused] at hwritten
  cases hwritten

end HighBar.Client
