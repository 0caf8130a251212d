import HighBar.Grpc.CommandDispatch
import HighBar.Library.FixedWidth

/-!
# CommandValidator: batch validation

Server-side validation of a `CommandBatch`, all-or-nothing and in source order: the shape of the
batch, then per command the target contract and the command's own checks, and last the ownership of
the batch target. The **first** offending condition ends validation and is reported as a
`CommandIssue`; in the source its detail is always also the error text, so a failed check is
modelled by the issue alone.

What validation reads from the engine is a `ValidatorEnv`: the unit and definition registries
(absent when no AI is attached) and the map extents. Rendering a coordinate into an error text is
the standard library's, so it is a field too.
-/

namespace HighBar.Grpc

/-! ### Capabilities -/

/-- `kSupportedUnitArms`. -/
def kSupportedUnitArms : List String :=
  ["move_unit", "patrol", "fight", "attack_area", "stop", "wait", "build_unit", "repair",
    "reclaim_unit", "reclaim_area", "resurrect_in_area", "self_destruct", "set_wanted_max_speed",
    "set_fire_state", "set_move_state"]

/-- `kQueuedCommandOptionMask`. -/
def kQueuedCommandOptionMask : ℕ := 0x7

/-- `CapabilityProvider::IsSupportedCommandArm`. -/
def isSupportedCommandArm (arm : String) : Bool := kSupportedUnitArms.contains arm

/-- `CapabilityProvider::ValidOptionMaskFor`. -/
def validOptionMaskFor (arm : String) : ℕ :=
  if isSupportedCommandArm arm then kQueuedCommandOptionMask else 0

/-! ### Reading a command -/

/-- `PositionOf`: the position of the arms whose position is checked. -/
def positionOf : AICommand → Option Vector3
  | .drawAddPoint position _ => some position
  | .drawRemovePoint position => some position
  | .setLastPosMessage position => some position
  | .giveMeNewUnit _ position => some position
  | .setFigurePosition _ position => some position
  | .drawUnit _ position _ _ _ _ _ _ => some position
  | .buildUnit _ _ buildPosition _ => some buildPosition
  | .moveUnit _ toPosition => some toPosition
  | .patrol _ toPosition => some toPosition
  | .fight _ toPosition => some toPosition
  | .attackArea _ attackPosition _ => some attackPosition
  | .reclaimArea _ position _ => some position
  | .reclaimInArea _ position _ => some position
  | .restoreArea _ position _ => some position
  | .resurrectInArea _ position _ => some position
  | .captureArea _ position _ => some position
  | .setBase _ basePosition => some basePosition
  | .loadUnitsArea _ position _ => some position
  | .unloadUnit _ toPosition _ => some toPosition
  | .unloadUnitsArea _ toPosition _ => some toPosition
  | _ => none

/-- `CommandArmName`. -/
def commandArmName : AICommand → String
  | .moveUnit .. => "move_unit"
  | .patrol .. => "patrol"
  | .fight .. => "fight"
  | .attackArea .. => "attack_area"
  | .stop .. => "stop"
  | .wait .. => "wait"
  | .buildUnit .. => "build_unit"
  | .repair .. => "repair"
  | .reclaimUnit .. => "reclaim_unit"
  | .reclaimArea .. => "reclaim_area"
  | .resurrectInArea .. => "resurrect_in_area"
  | .selfDestruct .. => "self_destruct"
  | .setWantedMaxSpeed .. => "set_wanted_max_speed"
  | .setFireState .. => "set_fire_state"
  | .setMoveState .. => "set_move_state"
  | .pauseTeam .. => "pause_team"
  | .giveMe .. => "give_me"
  | .giveMeNewUnit .. => "give_me_new_unit"
  | _ => "unsupported"

/-- `CommandOptionsOf`. -/
def commandOptionsOf : AICommand → ℕ
  | .buildUnit order .. | .stop order | .wait order | .timedWait order _ => order.options
  | .squadWait order _ | .deathWait order _ | .gatherWait order => order.options
  | .moveUnit order _ | .patrol order _ | .fight order _ | .attack order _ => order.options
  | .attackArea order .. | .guard order _ | .repair order _ => order.options
  | .reclaimUnit order _ | .reclaimArea order .. | .reclaimInArea order .. => order.options
  | .reclaimFeature order _ | .restoreArea order .. | .resurrect order _ => order.options
  | .resurrectInArea order .. | .capture order _ | .captureArea order .. => order.options
  | .setBase order _ | .selfDestruct order | .loadUnits order _ => order.options
  | .loadUnitsArea order .. | .loadOnto order _ | .unloadUnit order .. => order.options
  | .unloadUnitsArea order .. | .setWantedMaxSpeed order _ | .stockpile order => order.options
  | .dgun order _ | .custom order .. | .setOnOff order _ | .setRepeat order _ => order.options
  | .setMoveState order _ | .setFireState order _ | .setTrajectory order _ => order.options
  | .setAutoRepairLevel order _ | .setIdleMode order _ => order.options
  | _ => 0

/-- `TryCommandUnitId`: the unit a unit-bound arm names. -/
def tryCommandUnitId : AICommand → Option ℤ
  | .buildUnit order .. | .stop order | .wait order | .timedWait order _ => some order.unitId
  | .squadWait order _ | .deathWait order _ | .gatherWait order => some order.unitId
  | .moveUnit order _ | .patrol order _ | .fight order _ | .attack order _ => some order.unitId
  | .attackArea order .. | .guard order _ | .repair order _ => some order.unitId
  | .reclaimUnit order _ | .reclaimArea order .. | .reclaimInArea order .. => some order.unitId
  | .reclaimFeature order _ | .restoreArea order .. | .resurrect order _ => some order.unitId
  | .resurrectInArea order .. | .capture order _ | .captureArea order .. => some order.unitId
  | .setBase order _ | .selfDestruct order | .loadUnits order _ => some order.unitId
  | .loadUnitsArea order .. | .loadOnto order _ | .unloadUnit order .. => some order.unitId
  | .unloadUnitsArea order .. | .setWantedMaxSpeed order _ | .stockpile order => some order.unitId
  | .dgun order _ | .custom order .. | .setOnOff order _ | .setRepeat order _ => some order.unitId
  | .setMoveState order _ | .setFireState order _ | .setTrajectory order _ => some order.unitId
  | .setAutoRepairLevel order _ | .setIdleMode order _ => some order.unitId
  | .groupAddUnit unitId _ | .groupRemoveUnit unitId _ => some unitId
  | _ => none

variable {cmd : AICommand} {env : ValidatorEnv} {settings : CommandValidationSettings} {i : ℕ}

/-- **The two classifications are complements**: a command that was set is game-wide exactly when it
names no unit. -/
theorem isGameWideCommand_iff_tryCommandUnitId (h : cmd ≠ .notSet) :
    isGameWideCommand cmd = true ↔ tryCommandUnitId cmd = none := by
  cases cmd
  all_goals first
    | exact absurd rfl h
    | exact iff_of_true rfl rfl
    | exact iff_of_false Bool.false_ne_true (Option.some_ne_none _)

/-! ### The validator -/

/-- What an attached AI knows about its team. -/
structure AiRegistry where
  /-- `GetTeamUnit` followed by `IsDead`; `none` when the unit is not registered. -/
  teamUnitIsDead : ℤ → Option Bool
  /-- `GetCircuitDefSafe` finds a definition. -/
  hasCircuitDef : ℤ → Bool

/-- Everything validation reads. -/
structure ValidatorEnv where
  /-- `ai_`. -/
  ai : Option AiRegistry
  /-- `AIFloat3::maxxpos`. -/
  maxXPos : FloatValue
  /-- `AIFloat3::maxzpos`. -/
  maxZPos : FloatValue
  /-- How a coordinate is rendered into an error text. -/
  showFloat : FloatValue → String

/-- `CommandValidationSettings`. -/
structure CommandValidationSettings where
  mode : ValidationMode := .compatibility
  maxBatchCommands : ℕ := 64
  requireCorrelation : Bool := false
  requireStateBasis : Bool := false
  allowLegacyAiAdmin : Bool := true
  rejectUnsupportedArms : Bool := false
deriving Repr, DecidableEq

/-- `ValidationResult`. -/
structure ValidationResult where
  ok : Bool
  error : String
  batchResult : CommandBatchResult
deriving Repr, DecidableEq

/-- `"commands[" + std::to_string(command_index) + "]"` with a suffix. -/
def commandPath (commandIndex : ℕ) (suffix : String) : String :=
  "commands[" ++ toString commandIndex ++ "]" ++ suffix

namespace ValidatorEnv

variable (env : ValidatorEnv)

/-- `OwnsLiveUnit`. -/
def ownsLiveUnit (unitId : ℤ) : Bool :=
  match env.ai with
  | none => false
  | some ai => if unitId ≤ 0 then false else ai.teamUnitIsDead unitId == some false

/-- `InMapExtents`. -/
def inMapExtents (x z : FloatValue) : Bool :=
  FloatValue.zero.le x && FloatValue.zero.le z && x.le env.maxXPos && z.le env.maxZPos

/-- `KnownBuildDef`. -/
def knownBuildDef (defId : ℤ) : Bool :=
  match env.ai with
  | none => false
  | some ai => if defId ≤ 0 then false else ai.hasCircuitDef defId

end ValidatorEnv

/-- `ValidateCommandTarget`; the issue, or `none` when the command passes. -/
def validateCommandTarget (cmd : AICommand) (batchTargetUnitId : ℤ) (commandIndex : ℕ) :
    Option CommandIssue :=
  match tryCommandUnitId cmd with
  | none => none
  | some commandUnitId =>
    if commandUnitId ≤ 0 then
      some
        { code := .missingTargetUnit
          commandIndex := commandIndex
          fieldPath := commandPath commandIndex ".unit_id"
          detail := "unit-bound command missing unit_id for batch target " ++
            toString batchTargetUnitId
          retryHint := .never }
    else if commandUnitId ≠ batchTargetUnitId then
      some
        { code := .targetDrift
          commandIndex := commandIndex
          fieldPath := commandPath commandIndex ".unit_id"
          detail := "target_drift: batch target_unit_id " ++ toString batchTargetUnitId ++
            " disagrees with command unit_id " ++ toString commandUnitId
          retryHint := .never }
    else none

/-- A unit-bound command that passes names the batch target, a positive id. -/
theorem unitId_of_validateCommandTarget {target unitId : ℤ}
    (h : validateCommandTarget cmd target i = none) (hunit : tryCommandUnitId cmd = some unitId) :
    0 < unitId ∧ unitId = target := by
  rw [validateCommandTarget, hunit] at h
  simp only at h
  split_ifs at h with hpos hdrift
  exact ⟨by omega, not_not.1 hdrift⟩

/-- The admin arms of the legacy AI channel. -/
def isLegacyAdminArm : AICommand → Bool
  | .pauseTeam .. | .giveMe .. | .giveMeNewUnit .. => true
  | _ => false

/-- The value and field path of an enumeration that must lie in `0..2`. -/
def enumFieldOf : AICommand → Option (ℤ × String × String)
  | .setMoveState _ moveState =>
    some (moveState, ".set_move_state.move_state", "move_state enum value out of range")
  | .setFireState _ fireState =>
    some (fireState, ".set_fire_state.fire_state", "fire_state enum value out of range")
  | _ => none

/-- The enumeration checks of `ValidateCommand`. -/
def validateEnumField (cmd : AICommand) (commandIndex : ℕ) : Option CommandIssue :=
  match enumFieldOf cmd with
  | none => none
  | some (value, path, detail) =>
    if value < 0 ∨ 2 < value then
      some
        { code := .invalidEnumValue
          commandIndex := commandIndex
          fieldPath := commandPath commandIndex path
          detail := detail
          retryHint := .never }
    else none

/-- The position checks of `ValidateCommand`. -/
def validatePosition (env : ValidatorEnv) (cmd : AICommand) (commandIndex : ℕ) :
    Option CommandIssue :=
  match positionOf cmd with
  | none => none
  | some pos =>
    if !pos.x.isFinite || !pos.y.isFinite || !pos.z.isFinite then
      some
        { code := .positionNonFinite
          commandIndex := commandIndex
          fieldPath := commandPath commandIndex ".position"
          detail := "position contains non-finite coordinate"
          retryHint := .never }
    else if !env.inMapExtents pos.x pos.z then
      some
        { code := .positionOutOfMap
          commandIndex := commandIndex
          fieldPath := commandPath commandIndex ".position"
          detail := "position out of map extents: x=" ++ env.showFloat pos.x ++
            " z=" ++ env.showFloat pos.z
          retryHint := .never }
    else none

/-- The build-definition check of `ValidateCommand`. -/
def validateBuildDef (env : ValidatorEnv) (cmd : AICommand) (commandIndex : ℕ) :
    Option CommandIssue :=
  match cmd with
  | .buildUnit _ defId _ _ =>
    if env.knownBuildDef defId then none
    else
      some
        { code := .unknownUnitDef
          commandIndex := commandIndex
          fieldPath := commandPath commandIndex ".build_unit.to_build_unit_def_id"
          detail := "build.def_id unknown or non-constructible: " ++ toString defId
          retryHint := .withFreshCapabilities }
  | _ => none

/-- The option-bit check: `options & ~valid_mask` over 32 bits. -/
def hasInvalidOptionBits (cmd : AICommand) : Bool :=
  let validMask := validOptionMaskFor (commandArmName cmd)
  validMask != 0 && commandOptionsOf cmd &&& (2 ^ 32 - 1 - validMask) != 0

/-- `ValidateCommand`; the issue, or `none` when the command passes. -/
def validateCommand (env : ValidatorEnv) (settings : CommandValidationSettings) (cmd : AICommand)
    (commandIndex : ℕ) : Option CommandIssue :=
  if cmd = .notSet then
    some
      { code := .missingCommandIntent
        commandIndex := commandIndex
        fieldPath := commandPath commandIndex ""
        detail := "command batch contains an empty AICommand"
        retryHint := .never }
  else if !settings.allowLegacyAiAdmin && isLegacyAdminArm cmd then
    some
      { code := .commandRequiresAdminChannel
        commandIndex := commandIndex
        fieldPath := commandPath commandIndex ""
        detail := "AI command arm requires the HighBarAdmin service"
        retryHint := .never }
  else if (settings.rejectUnsupportedArms || settings.mode == .strict) &&
      !isSupportedCommandArm (commandArmName cmd) then
    some
      { code := .commandArmNotDispatched
        commandIndex := commandIndex
        fieldPath := commandPath commandIndex ""
        detail := "command arm is not dispatched by this gateway"
        retryHint := .withFreshCapabilities }
  else if hasInvalidOptionBits cmd then
    some
      { code := .invalidOptionBits
        commandIndex := commandIndex
        fieldPath := commandPath commandIndex ".options"
        detail := "command options contain invalid bits"
        retryHint := .never }
  else
    (validateEnumField cmd commandIndex).or
      ((validatePosition env cmd commandIndex).or (validateBuildDef env cmd commandIndex))

theorem ne_notSet_of_validateCommand (h : validateCommand env settings cmd i = none) : cmd ≠ .notSet
    := by
  rintro rfl
  rw [validateCommand, if_pos rfl] at h
  cases h

/-- The per-command loop of `ValidateBatch` from index `i` on. It stops at the first issue;
otherwise it answers whether any command is unit-bound. -/
def validateCommands (env : ValidatorEnv) (settings : CommandValidationSettings)
    (batchTarget : ℤ) : ℕ → Bool → List AICommand → Except CommandIssue Bool
  | _, hasUnitBoundCommand, [] => .ok hasUnitBoundCommand
  | i, hasUnitBoundCommand, cmd :: rest =>
    match validateCommandTarget cmd batchTarget i with
    | some issue => .error issue
    | none =>
      match validateCommand env settings cmd i with
      | some issue => .error issue
      | none =>
        validateCommands env settings batchTarget (i + 1)
          (hasUnitBoundCommand || (tryCommandUnitId cmd).isSome) rest

/-- The loop accepts only if every command passes both checks, and then it knows whether a command
is unit-bound. -/
theorem validateCommands_ok {batchTarget : ℤ} {cmds : List AICommand} {seen found : Bool}
    (h : validateCommands env settings batchTarget i seen cmds = .ok found) :
    (found = true ↔ seen = true ∨ ∃ cmd ∈ cmds, (tryCommandUnitId cmd).isSome) ∧
    ∀ cmd ∈ cmds, ∃ j, validateCommandTarget cmd batchTarget j = none ∧
      validateCommand env settings cmd j = none := by
  induction cmds generalizing i seen with
  | nil =>
    cases h
    simp
  | cons cmd rest ih =>
    rw [validateCommands] at h
    rcases htarget : validateCommandTarget cmd batchTarget i with - | issue
    · rcases hcmd : validateCommand env settings cmd i with - | issue
      · simp only [htarget, hcmd] at h
        obtain ⟨hfound, hrest⟩ := ih h
        refine ⟨?_, ?_⟩
        · rw [hfound, Bool.or_eq_true, or_assoc]
          simp only [List.mem_cons, exists_eq_or_imp]
        · exact List.forall_mem_cons.2 ⟨⟨i, htarget, hcmd⟩, hrest⟩
      · simp only [htarget, hcmd] at h
        cases h
    · simp only [htarget] at h
      cases h

/-- An issue with the batch's correlation, as every rejected batch reports it. -/
def stampIssue (batch : CommandBatch) (issue : CommandIssue) : CommandIssue :=
  { issue with
    batchSeq := batch.batchSeq
    clientCommandId := batch.clientCommandId.getD issue.clientCommandId }

/-- The result of a rejected batch. -/
def rejectBatch (settings : CommandValidationSettings) (batch : CommandBatch)
    (status : CommandBatchStatus) (issue : CommandIssue) : ValidationResult where
  ok := false
  error := issue.detail
  batchResult :=
    { batchSeq := batch.batchSeq
      clientCommandId := batch.clientCommandId.getD 0
      status := status
      issues := [stampIssue batch issue]
      mode := settings.mode }

/-- The result of an accepted batch. -/
def acceptBatch (settings : CommandValidationSettings) (batch : CommandBatch) :
    ValidationResult where
  ok := true
  error := ""
  batchResult :=
    { batchSeq := batch.batchSeq
      clientCommandId := batch.clientCommandId.getD 0
      status := .accepted
      acceptedCommandCount := batch.commands.length
      mode := settings.mode }

/-- `ValidateBatch`. -/
def validateBatch (env : ValidatorEnv) (settings : CommandValidationSettings)
    (batch : CommandBatch) : ValidationResult :=
  let batchTarget := toSigned 32 batch.targetUnitId
  if batch.commands.length = 0 then
    rejectBatch settings batch .rejectedInvalid
      { code := .emptyCommand
        fieldPath := "commands"
        detail := "command batch must contain at least one AICommand"
        retryHint := .never }
  else if 0 < settings.maxBatchCommands ∧ settings.maxBatchCommands < batch.commands.length then
    rejectBatch settings batch .rejectedInvalid
      { code := .tooManyCommands
        fieldPath := "commands"
        detail := "command batch exceeds max_batch_commands"
        retryHint := .never }
  else if settings.requireCorrelation && batch.clientCommandId.isNone then
    rejectBatch settings batch .rejectedInvalid
      { code := .missingClientCommandId
        fieldPath := "client_command_id"
        detail := "strict validation requires client_command_id"
        retryHint := .never }
  else if settings.requireStateBasis &&
      (batch.basedOnFrame.isNone || batch.basedOnStateSeq.isNone) then
    rejectBatch settings batch .rejectedStale
      { code := .missingStateBasis
        fieldPath := if batch.basedOnFrame.isNone then "based_on_frame" else "based_on_state_seq"
        detail := "strict validation requires based_on_frame and based_on_state_seq"
        retryHint := .afterNextSnapshot }
  else
    match validateCommands env settings batchTarget 0 false batch.commands with
    | .error issue => rejectBatch settings batch .rejectedInvalid issue
    | .ok hasUnitBoundCommand =>
      if hasUnitBoundCommand && !env.ownsLiveUnit batchTarget then
        rejectBatch settings batch .rejectedInvalid
          { code := .targetUnitNotOwned
            fieldPath := "target_unit_id"
            detail := "target_unit_id " ++ toString batch.targetUnitId ++
              " is not a live unit owned by this AI"
            retryHint := .afterNextSnapshot }
      else acceptBatch settings batch

/-- There is one way to accept a batch: in full, and with no issue. -/
theorem validateBatch_of_ok {batch : CommandBatch}
    (h : (validateBatch env settings batch).ok = true) :
    validateBatch env settings batch = acceptBatch settings batch := by
  simp only [validateBatch] at h ⊢
  split_ifs at h ⊢
  any_goals cases h
  split at h
  · cases h
  · split_ifs at h ⊢
    · cases h
    · rfl

/-- **What acceptance of a batch establishes** about each of its commands: it was set, and if it
names a unit then that unit is the batch target, positive, live and owned. -/
theorem unitId_of_validateBatch {batch : CommandBatch}
    (h : (validateBatch env settings batch).ok = true) (hcmd : cmd ∈ batch.commands) :
    cmd ≠ .notSet ∧ ∀ unitId, tryCommandUnitId cmd = some unitId →
      0 < unitId ∧ unitId = toSigned 32 batch.targetUnitId ∧ env.ownsLiveUnit unitId = true := by
  simp only [validateBatch] at h
  split_ifs at h
  any_goals cases h
  rcases hloop : validateCommands env settings (toSigned 32 batch.targetUnitId) 0 false
    batch.commands with issue | found
  · rw [hloop] at h
    cases h
  · rw [hloop] at h
    obtain ⟨hfound, hall⟩ := validateCommands_ok hloop
    obtain ⟨j, htarget, hvalid⟩ := hall cmd hcmd
    refine ⟨ne_notSet_of_validateCommand hvalid, fun unitId hunit ↦ ?_⟩
    obtain ⟨hpos, heq⟩ := unitId_of_validateCommandTarget htarget hunit
    have hbound : found = true := hfound.2 (Or.inr ⟨cmd, hcmd, by rw [hunit]; rfl⟩)
    simp only [hbound] at h
    split_ifs at h with howns
    · cases h
    · exact ⟨hpos, heq, by simpa [heq] using howns⟩

end HighBar.Grpc
