import HighBar.Proto.Commands

/-!
# The delta events

The events the gateway accumulates in a frame and publishes together: one arm for each engine hook,
the economy tick, and the report of what became of a command.
-/

namespace HighBar

/-- `CommandDispatchStatus`. -/
inductive CommandDispatchStatus where
  | unspecified
  | applied
  | skippedTargetMissing
  | skippedTargetNotOwned
  | skippedTargetDead
  | skippedCapabilityChanged
  | skippedUnsupportedArm
  | skippedEngineNotReady
  | skippedUnknown
deriving Repr, DecidableEq

/-- `CommandDispatchEvent`; the issue is a submessage, so it may be absent. -/
structure CommandDispatchEvent where
  batchSeq : ℕ
  clientCommandId : ℕ
  commandIndex : ℕ
  /-- A `uint32`. -/
  targetUnitId : ℕ
  status : CommandDispatchStatus := .unspecified
  issue : Option CommandIssue := none
  frame : ℕ
deriving Repr, DecidableEq

/-- `EconomyTickEvent`; the income fields are never set. -/
structure EconomyTickEvent where
  metal : FloatValue := .zero
  metalStorage : FloatValue := .zero
  metalUsage : FloatValue := .zero
  energy : FloatValue := .zero
  energyStorage : FloatValue := .zero
  energyUsage : FloatValue := .zero
deriving Repr, DecidableEq

/-- The arms of `DeltaEvent` that the gateway sets. -/
inductive DeltaEvent where
  | unitCreated (unitId builderId : ℤ)
  | unitFinished (unitId : ℤ)
  | unitDamaged (unitId attackerId : ℤ) (damage : FloatValue) (direction : Vector3)
      (weaponDefId : ℤ) (isParalyzer : Bool)
  | unitDestroyed (unitId attackerId : ℤ)
  | unitIdle (unitId : ℤ)
  | unitMoveFailed (unitId : ℤ)
  | unitGiven (unitId oldTeamId newTeamId : ℤ)
  | unitCaptured (unitId oldTeamId newTeamId : ℤ)
  | enemyEnterLos (enemyId : ℤ)
  | enemyLeaveLos (enemyId : ℤ)
  | enemyEnterRadar (enemyId : ℤ)
  | enemyLeaveRadar (enemyId : ℤ)
  | enemyDamaged (enemyId : ℤ)
  | enemyDestroyed (enemyId : ℤ)
  | featureCreated (featureId defId : ℕ) (position : Vector3)
  | featureDestroyed (featureId : ℕ)
  | economyTick (economy : EconomyTickEvent)
  | commandDispatch (event : CommandDispatchEvent)
deriving Repr, DecidableEq

/-- The dispatch report an event carries, if it is one. -/
def DeltaEvent.dispatch? : DeltaEvent → Option CommandDispatchEvent
  | .commandDispatch event => some event
  | _ => none

/-- The payload oneof of a published update. -/
inductive UpdateBody where
  /-- `StateSnapshot`, of which the gateway itself only sets these two fields. -/
  | snapshot (effectiveCadenceFrames frameNumber : ℕ)
  | delta (events : List DeltaEvent)
  | keepalive
deriving Repr, DecidableEq

/-- The events an update carries. -/
def UpdateBody.events : UpdateBody → List DeltaEvent
  | .delta events => events
  | .snapshot .. | .keepalive => []

end HighBar
