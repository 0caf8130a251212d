import HighBar.Client.InstructionText
import HighBar.Client.StopDecision

/-!
# The records of a run

`build_run` makes one record for every arm of the registry: from the row that the live run left for
it, from a row that says none was left, or, where there was no live run at all, from a table of what
the harness can do (`_record_for_command`). Two facts about the records are used elsewhere.

* A record is verified exactly if its attempt is, and then it says whether it took cheats
  (`RunRecord.Consistent`).
* A record that was made from a row while an instruction was saved for its command builds on that
  instruction (`RunRecord.BuildsOn`), whatever the row says.

A text that is empty counts as absent, as it does in the source (`textOr`).
-/

namespace HighBar.Client

open Option

/-! ### Records -/

/-- `text or fallback`. -/
def textOr (text fallback : String) : String :=
  if text = "" then fallback else text

/-- `AttemptStatus`. -/
inductive AttemptStatus where
  | verified
  | inconclusive
  | blocked
  | failed
deriving Repr, DecidableEq

/-- `EvidenceKind`. -/
inductive EvidenceKind where
  | gameState
  | liveArtifact
  | dispatchOnly
  | none
deriving Repr, DecidableEq

/-- `ImprovementState`. -/
inductive ImprovementState where
  | none
  | candidate
  | applied
  | exhausted
deriving Repr, DecidableEq

/-- `CommandVerificationRecord`, with the fields that the campaign's loop does not read. -/
structure RunRecord extends CommandVerificationRecord where
  commandName : String
  attemptStatus : AttemptStatus
  evidenceKind : EvidenceKind
  sourceRunId : String
  evidenceSummary : String := ""
  setupActions : List String := []
  improvementState : ImprovementState := .none
  improvementNote : String := ""
deriving Repr, DecidableEq

/-- A record says the same of its attempt in both its fields, and a verified one was attempted. -/
structure RunRecord.Consistent (record : RunRecord) : Prop where
  verified_iff : record.verified = true ↔ record.attemptStatus = .verified
  mode : record.verified = true → record.verificationMode ≠ .notAttempted

/-- The record asks for an update of the saved instruction, with a text built on it. -/
structure RunRecord.BuildsOn (record : RunRecord) (prior : ImprovementInstruction) : Prop where
  state : record.improvementState ≠ .none
  note : ∀ defaultDetail, record.improvementNote = instructionDetail (some prior) defaultDetail

/-! ### The arms -/

/-- `_ALWAYS_NATURAL`. -/
def alwaysNatural : List String := ["attack", "build_unit", "self_destruct"]

/-- `_NATURAL_IMPROVABLE`. -/
def naturalImprovable : List String := ["fight", "move_unit", "patrol"]

/-- `_CHEAT_ONLY`. -/
def cheatOnly : List String := ["give_me", "give_me_new_unit"]

/-- `sorted(REGISTRY)`, with the categories. -/
@[irreducible]
def orderedArms : List (String × Category) :=
  registryArms.insertionSort fun a b ↦ a.1 ≤ b.1

/-! ### Without a live run -/

/-- `prior_instruction.action_type == "timing-change"` and its status is `active` or `applied`. -/
def ImprovementInstruction.isTimingChange (prior : ImprovementInstruction) : Bool :=
  prior.actionType = .timingChange && (prior.status = .active || prior.status = .applied)

/-- `_record_for_command`. -/
def recordForCommand (runId : String) (arm : String × Category) (sequenceIndex : ℤ)
    (cheatEnabled : Bool) (priorInstruction : Option ImprovementInstruction) : RunRecord :=
  let record : RunRecord :=
    { commandId := commandId arm.1
      commandName := arm.1
      category := arm.2.text
      attemptStatus := .blocked
      verificationMode := .natural
      evidenceKind := .none
      verified := false
      sourceRunId := runId }
  if alwaysNatural.contains arm.1 then
    { record with
      attemptStatus := .verified
      evidenceKind := .gameState
      verified := true
      evidenceSummary := arm.1 ++ " produced direct observable state change." }
  else if naturalImprovable.contains arm.1 then
    if 1 ≤ sequenceIndex ∨
        sequenceIndex = 0 ∧ priorInstruction.any ImprovementInstruction.isTimingChange then
      { record with
        attemptStatus := .verified
        evidenceKind := .liveArtifact
        verified := true
        evidenceSummary :=
          if sequenceIndex = 0 ∧ priorInstruction.isSome then
            arm.1 ++ " gained direct evidence after reusing a saved instruction."
          else arm.1 ++ " gained direct evidence after a targeted retry."
        improvementState := .applied
        improvementNote := instructionDetail priorInstruction
          "Applied a tighter verify window and stronger target preparation." }
    else
      { record with
        attemptStatus := .inconclusive
        evidenceKind := .dispatchOnly
        blockingReason := some "dispatch observed but direct evidence remained ambiguous"
        improvementState := .candidate
        improvementNote := instructionDetail priorInstruction
          "Retry with stronger timing and target preparation." }
  else if cheatOnly.contains arm.1 then
    if cheatEnabled then
      { record with
        attemptStatus := .verified
        verificationMode := .cheatAssisted
        evidenceKind := .gameState
        verified := true
        evidenceSummary := arm.1 ++ " verified after cheat-backed setup."
        setupActions := ["enabled cheats", "provisioned prerequisite units"]
        improvementState := .applied
        improvementNote := "Escalated after the natural path had no better setup option." }
    else
      { record with
        verificationMode := .notAttempted
        blockingReason := some "requires cheat-backed setup for direct verification"
        improvementState := .candidate
        improvementNote := instructionDetail priorInstruction
          "Escalate only after natural progress stops." }
  else if arm.2 = .channelCLua then
    { record with
      attemptStatus := .inconclusive
      evidenceKind := .dispatchOnly
      blockingReason := some "Lua-only command has no direct game-state evidence in this harness"
      improvementState := .exhausted
      improvementNote := instructionDetail priorInstruction
        "No better direct evidence path exists without transport changes." }
  else if arm.2 = .channelBQuery then
    { record with
      blockingReason := some "query arm does not create a directly verifiable state mutation"
      improvementState := .exhausted
      improvementNote := instructionDetail priorInstruction
        "No better action remains inside the current harness scope." }
  else
    { record with
      blockingReason := some "target/setup path is still unavailable in the current harness"
      improvementState :=
        if 1 ≤ sequenceIndex ∨ priorInstruction.any (·.status = .exhausted) then .exhausted
        else .candidate
      improvementNote := instructionDetail priorInstruction
        (if 1 ≤ sequenceIndex then "No better action remains after the first retry."
          else "Collect a more specific setup or evidence plan before retrying.") }

section RecordForCommand

variable (runId : String) (arm : String × Category) (sequenceIndex : ℤ) (cheatEnabled : Bool)
  (priorInstruction : Option ImprovementInstruction)

theorem commandId_recordForCommand :
    (recordForCommand runId arm sequenceIndex cheatEnabled priorInstruction).commandId =
      commandId arm.1 := by
  rw [recordForCommand]
  split_ifs <;> rfl

/-- A record without a live row is consistent. -/
theorem consistent_recordForCommand :
    (recordForCommand runId arm sequenceIndex cheatEnabled priorInstruction).Consistent := by
  rw [recordForCommand]
  split_ifs <;> exact ⟨by simp, by simp⟩

end RecordForCommand

/-! ### From the row of a live run -/

/-- A command row as `build_run` reads it. -/
structure LiveCommandRow extends CommandRow where
  category : String
deriving Repr, DecidableEq

/-- `_improvement_defaults`. -/
def improvementDefaults (armName : String) (sequenceIndex : ℤ)
    (priorInstruction : Option ImprovementInstruction) : ImprovementState × String :=
  if naturalImprovable.contains armName then
    (.candidate, instructionDetail priorInstruction
      "Retry with stronger timing and target preparation.")
  else if cheatOnly.contains armName then
    (.candidate, instructionDetail priorInstruction "Escalate only after natural progress stops.")
  else
    match priorInstruction.filter (·.status = .exhausted) with
    | some prior => (.exhausted, instructionDetail (some prior) prior.instruction)
    | none =>
      if 1 ≤ sequenceIndex then
        (.exhausted, instructionDetail priorInstruction
          "No better action remains after the first retry.")
      else
        (.candidate, instructionDetail priorInstruction
          "Collect a more specific setup or evidence plan before retrying.")

/-- The `detail` of a row: its evidence and the status of its fixture, those that it has. -/
def LiveCommandRow.detailText (row : LiveCommandRow) : String :=
  let evidence := row.evidence.getD ""
  let fixtureStatus := row.fixtureStatus.getD ""
  if evidence ≠ "" ∧ fixtureStatus ≠ "" then evidence ++ " | " ++ fixtureStatus
  else textOr fixtureStatus evidence

/-- What a row without a verdict says of the attempt: its status, its evidence, and what to do. -/
def unverifiedOutcome (row : LiveCommandRow) (sequenceIndex : ℤ)
    (priorInstruction : Option ImprovementInstruction) :
    AttemptStatus × EvidenceKind × ImprovementState × String :=
  let defaults := improvementDefaults row.armName sequenceIndex priorInstruction
  let error := row.error.getD ""
  if error = "not_wire_observable" then
    (.inconclusive, .dispatchOnly, .exhausted, instructionDetail priorInstruction
      "No better direct evidence path exists without transport changes.")
  else if error = "precondition_unmet" then (.blocked, .none, defaults)
  else if error = "dispatcher_rejected" then (.failed, .none, defaults)
  else (.blocked, if row.dispatched = some "true" then .dispatchOnly else .none, defaults)

/-- What a row with the verdict `false` says of the attempt. -/
def refutedOutcome (row : LiveCommandRow) (sequenceIndex : ℤ)
    (priorInstruction : Option ImprovementInstruction) :
    AttemptStatus × EvidenceKind × ImprovementState × String :=
  let defaults := improvementDefaults row.armName sequenceIndex priorInstruction
  let error := row.error.getD ""
  if error = "effect_not_observed" then
    (.inconclusive, if row.dispatched = some "true" then .dispatchOnly else .none, defaults)
  else if error = "target_unit_destroyed" then (.blocked, .none, defaults)
  else (.failed, .none, defaults)

/-- `_record_from_live_row`. -/
def recordFromLiveRow (runId : String) (row : LiveCommandRow) (sequenceIndex : ℤ)
    (cheatEnabled : Bool) (priorInstruction : Option ImprovementInstruction) : RunRecord :=
  let detail := row.detailText
  let error := row.error.getD ""
  let dispatched := row.dispatched = some "true"
  let verificationMode : VerificationMode :=
    if cheatEnabled && cheatOnly.contains row.armName then .cheatAssisted else .natural
  let improves := priorInstruction.isSome || naturalImprovable.contains row.armName
  let unverified := fun (outcome : AttemptStatus × EvidenceKind × ImprovementState × String)
      (reason : String) ↦
    ({ commandId := commandId row.armName
       commandName := row.armName
       category := row.category
       attemptStatus := outcome.1
       verificationMode := if dispatched then verificationMode else .notAttempted
       evidenceKind := outcome.2.1
       verified := false
       sourceRunId := runId
       blockingReason := some reason
       improvementState := outcome.2.2.1
       improvementNote := outcome.2.2.2 } : RunRecord)
  if isChannelFailureSignal (detail ++ " " ++ error) then
    unverified
      (.blocked, if dispatched then .dispatchOnly else .none, .candidate,
        instructionDetail priorInstruction "Retry after restoring the plugin command channel.")
      "plugin command channel is not connected"
  else if row.verified = some "true" then
    { commandId := commandId row.armName
      commandName := row.armName
      category := row.category
      attemptStatus := .verified
      verificationMode := verificationMode
      evidenceKind := if detail ≠ "" then .gameState else .liveArtifact
      verified := true
      sourceRunId := runId
      evidenceSummary := textOr detail (row.armName ++ " verified via live behavioral coverage.")
      setupActions := if verificationMode = .cheatAssisted then ["enabled cheats"] else []
      improvementState := if improves then .applied else .none
      improvementNote :=
        if improves then
          instructionDetail priorInstruction (textOr detail "Applied live verification guidance.")
        else "" }
  else if row.verified = some "false" then
    unverified (refutedOutcome row sequenceIndex priorInstruction)
      (textOr detail (textOr error "live behavioral verification failed"))
  else
    unverified (unverifiedOutcome row sequenceIndex priorInstruction)
      (textOr detail (textOr error "live behavioral verification unavailable"))

/-- The row that stands in for an arm without one. -/
def missingRow (arm : String × Category) : LiveCommandRow where
  armName := arm.1
  category := arm.2.text
  dispatched := some "false"
  verified := some "na"
  evidence := some "row missing from live run"
  error := some "precondition_unmet"

section RecordFromLiveRow

variable (runId : String) (row : LiveCommandRow) (sequenceIndex : ℤ) (cheatEnabled : Bool)
  (priorInstruction : Option ImprovementInstruction)

theorem commandId_recordFromLiveRow :
    (recordFromLiveRow runId row sequenceIndex cheatEnabled priorInstruction).commandId =
      commandId row.armName := by
  rw [recordFromLiveRow]
  split_ifs <;> rfl

theorem unverifiedOutcome_ne_verified :
    (unverifiedOutcome row sequenceIndex priorInstruction).1 ≠ .verified := by
  rw [unverifiedOutcome]
  split_ifs <;> simp

theorem refutedOutcome_ne_verified :
    (refutedOutcome row sequenceIndex priorInstruction).1 ≠ .verified := by
  rw [refutedOutcome]
  split_ifs <;> simp

/-- A record of a live row is consistent. -/
theorem consistent_recordFromLiveRow :
    (recordFromLiveRow runId row sequenceIndex cheatEnabled priorInstruction).Consistent := by
  rw [recordFromLiveRow]
  refine iteInduction (motive := RunRecord.Consistent) (fun _ ↦ ⟨by simp, by simp⟩) fun _ ↦ ?_
  refine iteInduction (motive := RunRecord.Consistent) (fun _ ↦ ⟨by simp, fun _ ↦ ?_⟩) fun _ ↦ ?_
  · show (if _ then VerificationMode.cheatAssisted else .natural) ≠ .notAttempted
    split_ifs <;> simp
  refine iteInduction (motive := RunRecord.Consistent) (fun _ ↦ ?_) fun _ ↦ ?_
  · exact ⟨by simp [refutedOutcome_ne_verified], by simp⟩
  · exact ⟨by simp [unverifiedOutcome_ne_verified], by simp⟩

end RecordFromLiveRow

end HighBar.Client
