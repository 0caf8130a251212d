import HighBar.Proto.Commands

/-!
# The admin wire format

The messages of the `HighBarAdmin` service: the action oneof with its envelope, the lease on a
control, and the result with its issues. Names that the source passes around as strings but takes
from a fixed table, the control of an action and the role of a caller, are enumerations here.
-/

namespace HighBar

/-- `AdminRole`. -/
inductive AdminRole where
  | unspecified
  | ai
  | observer
  | operator
  | admin
  | testHarness
deriving Repr, DecidableEq

/-- `AdminConflictPolicy`. -/
inductive AdminConflictPolicy where
  | unspecified
  | rejectIfControlled
  | heartbeatExistingLease
  | releaseExistingLease
deriving Repr, DecidableEq

/-- `AdminActionStatus`. -/
inductive AdminActionStatus where
  | unspecified
  | accepted
  | executed
  | rejectedPermissionDenied
  | rejectedDisabled
  | rejectedRunMode
  | rejectedStale
  | rejectedConflict
  | rejectedInvalidTarget
  | rejectedInvalidValue
  | notDispatched
deriving Repr, DecidableEq

/-- The `ADMIN_ACTION_REJECTED_*` values. -/
def AdminActionStatus.isRejected : AdminActionStatus → Bool
  | .rejectedPermissionDenied | .rejectedDisabled | .rejectedRunMode | .rejectedStale => true
  | .rejectedConflict | .rejectedInvalidTarget | .rejectedInvalidValue => true
  | .unspecified | .accepted | .executed | .notDispatched => false

/-- `AdminIssueCode`. -/
inductive AdminIssueCode where
  | unspecified
  | permissionDenied
  | actionDisabled
  | runModeForbidsCheats
  | staleSnapshotEpoch
  | controlConflict
  | invalidSpeed
  | invalidSpeedRange
  | invalidResource
  | invalidAmount
  | unknownUnitDef
  | positionOutOfMap
  | invalidTeam
  | engineNotReady
  | actionNotDispatched
  | unknownUnit
  | unitOwnerMismatch
deriving Repr, DecidableEq

/-- `AdminIssue`. -/
structure AdminIssue where
  code : AdminIssueCode
  fieldPath : String
  detail : String
  retryHint : RetryHint
deriving Repr, DecidableEq

/-- The action oneof of `AdminAction`. -/
inductive AdminActionArm where
  /-- `ACTION_NOT_SET`. -/
  | notSet
  | pause (paused : Bool)
  | globalSpeed (speed : FloatValue)
  | cheatPolicy (enabled : Bool)
  | resourceGrant (teamId resourceId : ℤ) (amount : FloatValue)
  | unitSpawn (teamId unitDefId : ℤ) (position : Vector3)
  | lifecycle (command : String)
  | unitTransfer (unitId fromTeamId toTeamId : ℤ)
deriving Repr, DecidableEq

/-- `AdminAction`. -/
structure AdminAction where
  actionSeq : ℕ := 0
  clientActionId : ℕ := 0
  /-- A `uint32`; zero means that no basis was given. -/
  basedOnFrame : ℕ := 0
  conflictPolicy : AdminConflictPolicy := .unspecified
  reason : String := ""
  action : AdminActionArm
deriving Repr, DecidableEq

/-- The control an action drives, under the name the leases and the audit log use. -/
inductive AdminControl where
  | pause
  | globalSpeed
  | cheatPolicy
  | resourceGrant
  | unitSpawn
  | lifecycle
  | unitTransfer
  | unknown
deriving Repr, DecidableEq

/-- Every control. -/
def AdminControl.all : List AdminControl :=
  [.pause, .globalSpeed, .cheatPolicy, .resourceGrant, .unitSpawn, .lifecycle, .unitTransfer,
    .unknown]

theorem AdminControl.mem_all (control : AdminControl) : control ∈ all := by
  cases control <;> decide

/-- `AdminLease`. -/
structure AdminLease where
  control : AdminControl
  ownerClientId : String
  ownerRole : AdminRole
  acquiredFrame : ℕ
  lastHeartbeatFrame : ℕ
  expiresFrame : ℕ
deriving Repr, DecidableEq

/-- `AdminActionResult`. -/
structure AdminActionResult where
  actionSeq : ℕ
  clientActionId : ℕ
  status : AdminActionStatus
  issues : List AdminIssue := []
  lease : Option AdminLease := none
  frame : ℕ
  stateSeq : ℕ
  dryRun : Bool
deriving Repr, DecidableEq

/-- `AdminAuditEvent`. -/
structure AdminAuditEvent where
  eventId : ℕ
  callerIdentity : String
  role : AdminRole
  actionType : AdminControl
  frame : ℕ
  stateSeq : ℕ
  result : AdminActionStatus
  reason : String
  leaseControl : AdminControl
  runMode : String
deriving Repr, DecidableEq

end HighBar
