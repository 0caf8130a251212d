import HighBar.Library.FloatValue

/-!
# The command wire format

`AICommand` is the protobuf oneof of the 66 command arms, with `notSet` for a message in which no
arm was set, and `CommandBatch` is the message in which a client submits commands for one unit. The
forty-one orders that carry the common `unit_id`, `group_id`, `options`, `timeout` quadruple share
it as `UnitOrder`; `group_add_unit` and `group_remove_unit` name a unit without the quadruple.

The issue and result messages are the ones the validator fills in. Signed fields are `ℤ` and
unsigned fields `ℕ`; an `optional` field is an `Option`.
-/

namespace HighBar

/-- `Vector3`. -/
structure Vector3 where
  x : FloatValue
  y : FloatValue
  z : FloatValue
deriving Repr, DecidableEq

/-- The fields every unit order starts with. -/
structure UnitOrder where
  unitId : ℤ
  groupId : ℤ
  options : ℕ
  timeout : ℤ
deriving Repr, DecidableEq

/-- `AICommand`, by arm. -/
inductive AICommand where
  /-- `COMMAND_NOT_SET`. -/
  | notSet
  -- drawing
  | drawAddPoint (position : Vector3) (label : String)
  | drawAddLine (fromPosition toPosition : Vector3)
  | drawRemovePoint (position : Vector3)
  -- chat and resources
  | sendTextMessage (text : String) (zone : ℤ)
  | setLastPosMessage (position : Vector3)
  | sendResources (resourceId : ℤ) (amount : FloatValue) (receivingTeamId : ℤ)
  | setMyIncomeShareDirect (resourceId : ℤ) (share : FloatValue)
  | setShareLevel (resourceId : ℤ) (shareLevel : FloatValue)
  | pauseTeam (enable : Bool)
  -- groups
  | groupAddUnit (unitId groupId : ℤ)
  | groupRemoveUnit (unitId groupId : ℤ)
  -- pathfinding
  | initPath (startPosition endPosition : Vector3) (pathType : ℤ) (goalRadius : FloatValue)
  | getApproxLength (startPosition endPosition : Vector3) (pathType : ℤ) (goalRadius : FloatValue)
  | getNextWaypoint (pathId : ℤ)
  | freePath (pathId : ℤ)
  -- cheats
  | giveMe (resourceId : ℤ) (amount : FloatValue)
  | giveMeNewUnit (unitDefId : ℤ) (position : Vector3)
  -- Lua
  | callLuaRules (data : String)
  | callLuaUi (data : String)
  -- drawer figures
  | createSplineFigure (position1 position2 position3 position4 : Vector3) (width : FloatValue)
      (arrow : Bool) (lifespan figureGroupId : ℤ)
  | createLineFigure (fromPosition toPosition : Vector3) (width : FloatValue) (arrow : Bool)
      (lifespan figureGroupId : ℤ)
  | setFigurePosition (figureId : ℤ) (position : Vector3)
  | setFigureColor (figureId : ℤ) (r g b a : FloatValue)
  | removeFigure (figureId : ℤ)
  | drawUnit (unitDefId : ℤ) (position : Vector3) (rotation : FloatValue) (lifespan teamId : ℤ)
      (transparent drawBorder : Bool) (facing : ℤ)
  -- unit orders
  | buildUnit (order : UnitOrder) (toBuildUnitDefId : ℤ) (buildPosition : Vector3) (facing : ℤ)
  | stop (order : UnitOrder)
  | wait (order : UnitOrder)
  | timedWait (order : UnitOrder) (waitTime : ℤ)
  | squadWait (order : UnitOrder) (numUnits : ℤ)
  | deathWait (order : UnitOrder) (deathUnitId : ℤ)
  | gatherWait (order : UnitOrder)
  | moveUnit (order : UnitOrder) (toPosition : Vector3)
  | patrol (order : UnitOrder) (toPosition : Vector3)
  | fight (order : UnitOrder) (toPosition : Vector3)
  | attack (order : UnitOrder) (targetUnitId : ℤ)
  | attackArea (order : UnitOrder) (attackPosition : Vector3) (radius : FloatValue)
  | guard (order : UnitOrder) (guardUnitId : ℤ)
  | repair (order : UnitOrder) (repairUnitId : ℤ)
  | reclaimUnit (order : UnitOrder) (reclaimUnitId : ℤ)
  | reclaimArea (order : UnitOrder) (position : Vector3) (radius : FloatValue)
  | reclaimInArea (order : UnitOrder) (position : Vector3) (radius : FloatValue)
  | reclaimFeature (order : UnitOrder) (featureId : ℤ)
  | restoreArea (order : UnitOrder) (position : Vector3) (radius : FloatValue)
  | resurrect (order : UnitOrder) (featureId : ℤ)
  | resurrectInArea (order : UnitOrder) (position : Vector3) (radius : FloatValue)
  | capture (order : UnitOrder) (targetUnitId : ℤ)
  | captureArea (order : UnitOrder) (position : Vector3) (radius : FloatValue)
  | setBase (order : UnitOrder) (basePosition : Vector3)
  | selfDestruct (order : UnitOrder)
  | loadUnits (order : UnitOrder) (toLoadUnitIds : List ℤ)
  | loadUnitsArea (order : UnitOrder) (position : Vector3) (radius : FloatValue)
  | loadOnto (order : UnitOrder) (transportUnitId : ℤ)
  | unloadUnit (order : UnitOrder) (toPosition : Vector3) (toUnloadUnitId : ℤ)
  | unloadUnitsArea (order : UnitOrder) (toPosition : Vector3) (radius : FloatValue)
  | setWantedMaxSpeed (order : UnitOrder) (wantedMaxSpeed : FloatValue)
  | stockpile (order : UnitOrder)
  | dgun (order : UnitOrder) (targetUnitId : ℤ)
  | custom (order : UnitOrder) (commandId : ℤ) (params : List FloatValue)
  | setOnOff (order : UnitOrder) (on : Bool)
  | setRepeat (order : UnitOrder) (repeats : Bool)
  | setMoveState (order : UnitOrder) (moveState : ℤ)
  | setFireState (order : UnitOrder) (fireState : ℤ)
  | setTrajectory (order : UnitOrder) (trajectory : ℤ)
  | setAutoRepairLevel (order : UnitOrder) (autoRepairLevel : ℤ)
  | setIdleMode (order : UnitOrder) (idleMode : ℤ)
deriving Repr, DecidableEq

/-- `CommandBatch`. -/
structure CommandBatch where
  batchSeq : ℕ
  /-- `target_unit_id`, a `uint32`. -/
  targetUnitId : ℕ
  commands : List AICommand
  clientCommandId : Option ℕ
  basedOnFrame : Option ℕ
  basedOnStateSeq : Option ℕ
deriving Repr, DecidableEq

/-- `ValidationMode`. -/
inductive ValidationMode where
  | unspecified
  | compatibility
  | warningOnly
  | strict
deriving Repr, DecidableEq

/-- `CommandBatchStatus`. -/
inductive CommandBatchStatus where
  | unspecified
  | accepted
  | rejectedInvalid
  | rejectedQueueFull
  | rejectedStale
  | rejectedConflict
  | acceptedWithWarnings
deriving Repr, DecidableEq

/-- `RetryHint`. -/
inductive RetryHint where
  | unspecified
  | never
  | afterNextSnapshot
  | afterUnitIdle
  | afterQueueDrains
  | withFreshCapabilities
deriving Repr, DecidableEq

/-- `CommandIssueCode`; `unspecified` is the zero value. -/
inductive CommandIssueCode where
  | unspecified
  | emptyCommand
  | tooManyCommands
  | missingCommandIntent
  | multipleCommandIntents
  | missingTargetUnit
  | targetDrift
  | targetUnitNotOwned
  | targetUnitDead
  | unknownUnitDef
  | builderCannotBuildDef
  | positionNonFinite
  | positionOutOfMap
  | invalidOptionBits
  | invalidEnumValue
  | invalidTargetUnit
  | invalidTargetFeature
  | queueFull
  | staleOrDuplicateBatchSeq
  | staleSnapshotEpoch
  | staleUnitGeneration
  | orderConflict
  | nonQueueReplacesActiveOrder
  | commandArmNotDispatched
  | commandRequiresAdminChannel
  | legacyAiAdminCommandDisabled
  | missingClientCommandId
  | missingStateBasis
deriving Repr, DecidableEq

/-- `CommandIssue`; unset fields are zero, as on the wire. -/
structure CommandIssue where
  code : CommandIssueCode := .unspecified
  commandIndex : ℕ := 0
  fieldPath : String := ""
  detail : String := ""
  retryHint : RetryHint := .unspecified
  batchSeq : ℕ := 0
  clientCommandId : ℕ := 0
deriving Repr, DecidableEq

/-- `CommandBatchResult`. -/
structure CommandBatchResult where
  batchSeq : ℕ := 0
  clientCommandId : ℕ := 0
  status : CommandBatchStatus := .unspecified
  issues : List CommandIssue := []
  acceptedCommandCount : ℕ := 0
  mode : ValidationMode := .unspecified
deriving Repr, DecidableEq

end HighBar
