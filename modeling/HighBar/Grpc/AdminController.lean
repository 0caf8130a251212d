import HighBar.Library.FixedWidth
import HighBar.Proto.Admin

/-!
# AdminController: validation, leases and audit

The controller decides admin actions. `validate` runs the checks of `AdminController::Validate` in
source order and answers with the first rejection; `execute` validates again, takes the lease of a
leasable control, and audits either way.

## Which checks can change their mind

All checks but the last depend on the settings, the caller, the action and, for staleness, the frame
(`standingRejection`). Only the last one reads the leases (`leaseRejection`). So a standing
rejection can never be withdrawn while the frame does not go back (`standingRejection_mono`), and an
action that is rejected at one moment and accepted at a later one was rejected **because of a
lease**.
-/

namespace HighBar.Grpc

open Option

/-- `AdminCaller`. -/
structure AdminCaller where
  identity : String
  role : AdminRole
deriving Repr, DecidableEq

/-- `AdminController::Settings`. -/
structure AdminSettings where
  enabled : Bool := true
  cheatsAllowed : Bool := false
  unitTransferEnabled : Bool := true
  leaseTtlFrames : ℕ := 90
  /-- The `float` nearest to `0.1`. -/
  minSpeed : FloatValue := .finite (13421773 / 134217728)
  maxSpeed : FloatValue := .finite 10
  mapMinX : FloatValue := .zero
  mapMinZ : FloatValue := .zero
  mapMaxX : FloatValue := .zero
  mapMaxZ : FloatValue := .zero
  validTeamIds : List ℤ := []
  validResourceIds : List ℤ := []
  validUnitDefIds : List ℤ := []
  /-- `live_unit_owners`, from unit to team. -/
  liveUnitOwners : List (ℤ × ℤ) := []
deriving Repr, DecidableEq

/-- `RoleCanExecute`. -/
def roleCanExecute : AdminRole → Bool
  | .operator | .admin | .testHarness => true
  | .unspecified | .ai | .observer => false

/-- `ControlName`. -/
def controlName (action : AdminAction) : AdminControl :=
  match action.action with
  | .pause _ => .pause
  | .globalSpeed _ => .globalSpeed
  | .cheatPolicy _ => .cheatPolicy
  | .resourceGrant .. => .resourceGrant
  | .unitSpawn .. => .unitSpawn
  | .lifecycle _ => .lifecycle
  | .unitTransfer .. => .unitTransfer
  | .notSet => .unknown

namespace AdminSettings

variable (settings : AdminSettings)

/-- `HasMapExtents`. -/
def hasMapExtents : Bool :=
  settings.mapMinX.lt settings.mapMaxX && settings.mapMinZ.lt settings.mapMaxZ

/-- `IsValidTeam`. -/
def isValidTeam (teamId : ℤ) : Bool :=
  if settings.validTeamIds.isEmpty then decide (0 ≤ teamId)
  else settings.validTeamIds.contains teamId

/-- `IsValidResource`. -/
def isValidResource (resourceId : ℤ) : Bool :=
  if settings.validResourceIds.isEmpty then resourceId == 0 || resourceId == 1
  else settings.validResourceIds.contains resourceId

/-- `IsValidUnitDef`. -/
def isValidUnitDef (unitDefId : ℤ) : Bool :=
  if settings.validUnitDefIds.isEmpty then decide (0 < unitDefId)
  else settings.validUnitDefIds.contains unitDefId

/-- `IsWithinMap`. -/
def isWithinMap (position : Vector3) : Bool :=
  if settings.hasMapExtents then
    settings.mapMinX.le position.x && position.x.le settings.mapMaxX &&
      settings.mapMinZ.le position.z && position.z.le settings.mapMaxZ
  else true

end AdminSettings

/-- Why an action is rejected: the arguments of `Reject`, with a rejecting status. -/
structure AdminRejection where
  status : AdminActionStatus
  code : AdminIssueCode
  fieldPath : String
  detail : String
  isRejected_status : status.isRejected = true
deriving Repr, DecidableEq

/-- The checks on the caller and the run mode. -/
def accessRejection (settings : AdminSettings) (caller : AdminCaller) (action : AdminAction) :
    Option AdminRejection :=
  if !roleCanExecute caller.role then
    some ⟨.rejectedPermissionDenied, .permissionDenied, "role",
      "admin action requires operator/admin/test-harness role", rfl⟩
  else if !settings.enabled then
    some ⟨.rejectedDisabled, .actionDisabled, "action", "admin controls are disabled", rfl⟩
  else if controlName action = .cheatPolicy ∧ !settings.cheatsAllowed then
    some ⟨.rejectedRunMode, .runModeForbidsCheats, "cheat_policy",
      "run mode forbids cheat controls", rfl⟩
  else if controlName action = .unitTransfer ∧ !settings.unitTransferEnabled then
    some ⟨.rejectedRunMode, .actionDisabled, "unit_transfer", "run mode forbids unit transfer", rfl⟩
  else none

/-- The checks on a resource grant. -/
def grantRejection (settings : AdminSettings) (teamId resourceId : ℤ) (amount : FloatValue) :
    Option AdminRejection :=
  if !settings.isValidTeam teamId then
    some ⟨.rejectedInvalidTarget, .invalidTeam, "resource_grant.team_id",
      "unknown admin fixture team", rfl⟩
  else if !settings.isValidResource resourceId then
    some ⟨.rejectedInvalidTarget, .invalidResource, "resource_grant.resource_id",
      "unknown admin fixture resource", rfl⟩
  else if !amount.isFinite || amount.le .zero then
    some ⟨.rejectedInvalidValue, .invalidAmount, "resource_grant.amount",
      "resource grant amount must be finite and positive", rfl⟩
  else none

/-- The checks on a unit spawn. -/
def spawnRejection (settings : AdminSettings) (teamId unitDefId : ℤ) (position : Vector3) :
    Option AdminRejection :=
  if !settings.isValidTeam teamId then
    some ⟨.rejectedInvalidTarget, .invalidTeam, "unit_spawn.team_id",
      "unknown admin fixture team", rfl⟩
  else if !settings.isValidUnitDef unitDefId then
    some ⟨.rejectedInvalidTarget, .unknownUnitDef, "unit_spawn.unit_def_id",
      "unknown admin fixture unit definition", rfl⟩
  else if !position.x.isFinite || !position.y.isFinite || !position.z.isFinite ||
      !settings.isWithinMap position then
    some ⟨.rejectedInvalidValue, .positionOutOfMap, "unit_spawn.position",
      "spawn position is outside advertised map extents", rfl⟩
  else none

/-- The checks on a unit transfer. -/
def transferRejection (settings : AdminSettings) (unitId fromTeamId toTeamId : ℤ) :
    Option AdminRejection :=
  let owner := settings.liveUnitOwners.lookup unitId
  if unitId ≤ 0 ∨ (!settings.liveUnitOwners.isEmpty ∧ owner = none) then
    some ⟨.rejectedInvalidTarget, .unknownUnit, "unit_transfer.unit_id", "unknown live unit", rfl⟩
  else if !settings.isValidTeam toTeamId then
    some ⟨.rejectedInvalidTarget, .invalidTeam, "unit_transfer.to_team_id",
      "unknown destination team", rfl⟩
  else if owner.any (· ≠ fromTeamId) then
    some ⟨.rejectedInvalidTarget, .unitOwnerMismatch, "unit_transfer.from_team_id",
      "source team does not own unit", rfl⟩
  else if owner = some toTeamId then
    some ⟨.rejectedInvalidValue, .unitOwnerMismatch, "unit_transfer.to_team_id",
      "destination team already owns unit", rfl⟩
  else none

/-- The checks on the values of an action. -/
def valueRejection (settings : AdminSettings) (action : AdminAction) : Option AdminRejection :=
  match action.action with
  | .globalSpeed speed =>
    if !speed.isFinite || speed.lt settings.minSpeed || settings.maxSpeed.lt speed then
      some ⟨.rejectedInvalidValue, .invalidSpeedRange, "global_speed.speed",
        "speed must be finite and within advertised bounds", rfl⟩
    else none
  | .resourceGrant teamId resourceId amount => grantRejection settings teamId resourceId amount
  | .unitSpawn teamId unitDefId position => spawnRejection settings teamId unitDefId position
  | .unitTransfer unitId fromTeamId toTeamId =>
    transferRejection settings unitId fromTeamId toTeamId
  | .notSet | .pause _ | .cheatPolicy _ | .lifecycle _ => none

/-- The staleness check, in `uint32` arithmetic. -/
def staleRejection (action : AdminAction) (frame : ℕ) : Option AdminRejection :=
  if action.basedOnFrame ≠ 0 ∧ wrapAdd 32 action.basedOnFrame 300 < frame then
    some ⟨.rejectedStale, .staleSnapshotEpoch, "based_on_frame", "admin action basis is stale", rfl⟩
  else none

/-- Every check that does not read the leases. -/
def standingRejection (settings : AdminSettings) (caller : AdminCaller) (action : AdminAction)
    (frame : ℕ) : Option AdminRejection :=
  (accessRejection settings caller action).or
    ((valueRejection settings action).or (staleRejection action frame))

/-- **A standing rejection is not withdrawn** while the frame does not go back. -/
theorem standingRejection_mono {settings : AdminSettings} {caller : AdminCaller}
    {action : AdminAction} {frame frame' : ℕ} (hle : frame ≤ frame')
    (h : standingRejection settings caller action frame ≠ none) :
    standingRejection settings caller action frame' ≠ none := by
  rw [standingRejection, ne_eq, or_eq_none_iff, or_eq_none_iff] at h ⊢
  refine fun hno ↦ h ⟨hno.1, hno.2.1, ?_⟩
  have hstale := hno.2.2
  rw [staleRejection] at hstale ⊢
  split_ifs at hstale with hlate
  rw [if_neg fun hearly ↦ hlate ⟨hearly.1, Nat.lt_of_lt_of_le hearly.2 hle⟩]

/-- The lease check. -/
def leaseRejection (leases : AdminControl → Option AdminLease) (caller : AdminCaller)
    (action : AdminAction) : Option AdminRejection :=
  if (leases (controlName action)).any (·.ownerClientId ≠ caller.identity) ∧
      action.conflictPolicy ≠ .releaseExistingLease then
    some ⟨.rejectedConflict, .controlConflict, "conflict_policy",
      "admin control is leased by another caller", rfl⟩
  else none

/-! ### Which check a status comes from -/

section Statuses

variable {settings : AdminSettings} {caller : AdminCaller} {action : AdminAction} {frame : ℕ}
  {leases : AdminControl → Option AdminLease} {r : AdminRejection}

/-- The status tells a missing right from a control that is switched off. -/
theorem status_accessRejection (h : accessRejection settings caller action = some r) :
    (roleCanExecute caller.role = false ∧ r.status = .rejectedPermissionDenied) ∨
    (roleCanExecute caller.role = true ∧
      (r.status = .rejectedDisabled ∨ r.status = .rejectedRunMode)) := by
  rw [accessRejection] at h
  split_ifs at h with hrole <;> cases h
  · exact Or.inl ⟨by simpa using hrole, rfl⟩
  all_goals exact Or.inr ⟨by simpa using hrole, by simp⟩

theorem status_valueRejection (h : valueRejection settings action = some r) :
    r.status = .rejectedInvalidTarget ∨ r.status = .rejectedInvalidValue := by
  rw [valueRejection] at h
  split at h
  · split_ifs at h
    cases h
    exact Or.inr rfl
  · simp only [grantRejection] at h
    split_ifs at h <;> cases h <;> simp
  · simp only [spawnRejection] at h
    split_ifs at h <;> cases h <;> simp
  · simp only [transferRejection] at h
    split_ifs at h <;> cases h <;> simp
  all_goals cases h

theorem status_staleRejection (h : staleRejection action frame = some r) :
    r.status = .rejectedStale := by
  rw [staleRejection] at h
  split_ifs at h
  cases h
  rfl

/-- A standing rejection denies permission exactly when the role cannot execute, and it is never a
conflict. -/
theorem status_standingRejection (h : standingRejection settings caller action frame = some r) :
    (r.status = .rejectedPermissionDenied ↔ roleCanExecute caller.role = false) ∧
      r.status ≠ .rejectedConflict := by
  rw [standingRejection, or_eq_some_iff] at h
  rcases h with haccess | ⟨hnone, h⟩
  · rcases status_accessRejection haccess with ⟨hrole, hs⟩ | ⟨hrole, hs | hs⟩ <;> simp [hrole, hs]
  · have hrole : roleCanExecute caller.role = true := by
      by_contra hno
      rw [accessRejection, if_pos (by simpa using hno)] at hnone
      cases hnone
    rcases or_eq_some_iff.1 h with hvalue | ⟨-, hstale⟩
    · rcases status_valueRejection hvalue with hs | hs <;> simp [hrole, hs]
    · simp [hrole, status_staleRejection hstale]

/-- A caller that fails no standing check has a privileged role. -/
theorem roleCanExecute_of_standingRejection
    (h : standingRejection settings caller action frame = none) :
    roleCanExecute caller.role = true := by
  rw [standingRejection, or_eq_none_iff] at h
  by_contra hno
  rw [accessRejection, if_pos (by simpa using hno)] at h
  cases h.1

/-- The lease check rejects exactly when the control is leased by another caller and the action does
not ask for the lease to be released; the status is a conflict. -/
theorem leaseRejection_ne_none_iff :
    leaseRejection leases caller action ≠ none ↔
      action.conflictPolicy ≠ .releaseExistingLease ∧
      ∃ lease, leases (controlName action) = some lease ∧
        lease.ownerClientId ≠ caller.identity := by
  rw [leaseRejection]
  rcases hlease : leases (controlName action) with - | lease
  · simp
  · split_ifs with h
    · simpa [and_comm] using h
    · simpa [and_comm] using h

theorem status_leaseRejection (h : leaseRejection leases caller action = some r) :
    r.status = .rejectedConflict := by
  rw [leaseRejection] at h
  split_ifs at h
  cases h
  rfl

end Statuses

/-- The controller's state. -/
structure AdminController where
  settings : AdminSettings
  leases : AdminControl → Option AdminLease
  auditLog : List AdminAuditEvent
  nextAuditId : ℕ

namespace AdminController

/-- `AdminController::AdminController`. -/
def create (settings : AdminSettings) : AdminController where
  settings := settings
  leases := fun _ ↦ none
  auditLog := []
  nextAuditId := 1

/-- `Reject`. -/
def reject (action : AdminAction) (rejection : AdminRejection) (frame stateSeq : ℕ) :
    AdminActionResult where
  actionSeq := action.actionSeq
  clientActionId := action.clientActionId
  status := rejection.status
  issues := [⟨rejection.code, rejection.fieldPath, rejection.detail, .never⟩]
  frame := frame
  stateSeq := stateSeq
  dryRun := true

/-- The first check that fails. -/
def rejection (c : AdminController) (caller : AdminCaller) (action : AdminAction) (frame : ℕ) :
    Option AdminRejection :=
  (standingRejection c.settings caller action frame).or (leaseRejection c.leases caller action)

/-- `Validate`. -/
def validate (c : AdminController) (caller : AdminCaller) (action : AdminAction)
    (frame stateSeq : ℕ) : AdminActionResult :=
  match c.rejection caller action frame with
  | some rejection => reject action rejection frame stateSeq
  | none =>
    { actionSeq := action.actionSeq
      clientActionId := action.clientActionId
      status := .accepted
      frame := frame
      stateSeq := stateSeq
      dryRun := true }

/-- `Audit`. -/
def audit (c : AdminController) (caller : AdminCaller) (action : AdminAction)
    (result : AdminActionResult) (control : AdminControl) : AdminController :=
  { c with
    nextAuditId := wrapAdd 64 c.nextAuditId 1
    auditLog := c.auditLog ++
      [{ eventId := c.nextAuditId
         callerIdentity := caller.identity
         role := caller.role
         actionType := control
         frame := result.frame
         stateSeq := result.stateSeq
         result := result.status
         reason := action.reason
         leaseControl := control
         runMode := if c.settings.cheatsAllowed then "test" else "normal" }] }

/-- The controls that are leased. -/
def isLeasable : AdminControl → Bool
  | .pause | .globalSpeed => true
  | _ => false

/-- The lease that `Execute` takes. -/
def newLease (c : AdminController) (caller : AdminCaller) (control : AdminControl) (frame : ℕ) :
    AdminLease where
  control := control
  ownerClientId := caller.identity
  ownerRole := caller.role
  acquiredFrame := frame
  lastHeartbeatFrame := frame
  expiresFrame := wrapAdd 32 frame c.settings.leaseTtlFrames

/-- `Execute`. -/
def execute (c : AdminController) (caller : AdminCaller) (action : AdminAction)
    (frame stateSeq : ℕ) : AdminActionResult × AdminController :=
  let result := { c.validate caller action frame stateSeq with dryRun := false }
  let control := controlName action
  if result.status ≠ .accepted then (result, c.audit caller action result control)
  else if isLeasable control then
    let lease := c.newLease caller control frame
    let result := { result with status := .executed, lease := some lease }
    (result,
      { c with leases := Function.update c.leases control (some lease) }.audit caller action result
        control)
  else
    let result := { result with status := .executed }
    (result, c.audit caller action result control)

/-- `Heartbeat`. -/
def heartbeat (c : AdminController) (control : AdminControl) (caller : AdminCaller) (frame : ℕ) :
    AdminController :=
  match c.leases control with
  | none => c
  | some lease =>
    if lease.ownerClientId ≠ caller.identity then c
    else
      { c with
        leases := Function.update c.leases control
          (some { lease with
            lastHeartbeatFrame := frame
            expiresFrame := wrapAdd 32 frame c.settings.leaseTtlFrames }) }

/-- `ExpireLeases`. -/
def expireLeases (c : AdminController) (frame : ℕ) : AdminController :=
  { c with
    leases := fun control ↦
      (c.leases control).filter fun lease ↦
        !(lease.expiresFrame != 0 && lease.expiresFrame ≤ frame) }

variable {c : AdminController} {caller : AdminCaller} {action : AdminAction} {frame stateSeq : ℕ}

/-- A rejected result carries the status of the check that failed. -/
theorem validate_of_rejection {rejection : AdminRejection}
    (h : c.rejection caller action frame = some rejection) :
    c.validate caller action frame stateSeq = reject action rejection frame stateSeq := by
  rw [validate, h]

/-- A rejecting status is neither of the two that let an action through, nor that of an action that
was not dispatched. -/
theorem ne_of_isRejected {status : AdminActionStatus} (h : status.isRejected = true) :
    status ≠ .accepted ∧ status ≠ .executed ∧ status ≠ .notDispatched := by
  refine ⟨?_, ?_, ?_⟩ <;> rintro rfl <;> exact Bool.false_ne_true h

/-- Validation accepts exactly when every check passes. -/
theorem validate_accepted_iff :
    (c.validate caller action frame stateSeq).status = .accepted ↔
      c.rejection caller action frame = none := by
  rcases h : c.rejection caller action frame with - | rejection
  · rw [validate, h]
    exact iff_of_true rfl rfl
  · rw [validate_of_rejection h]
    exact iff_of_false (ne_of_isRejected rejection.isRejected_status).1 (some_ne_none _)

/-- A rejected `Execute` answers like `Validate` and only audits. -/
theorem execute_of_rejection {rejection : AdminRejection}
    (h : c.rejection caller action frame = some rejection) (stateSeq : ℕ) :
    (c.execute caller action frame stateSeq).1.status = rejection.status ∧
      (c.execute caller action frame stateSeq).1.lease = none ∧
      (c.execute caller action frame stateSeq).2.leases = c.leases := by
  have hstatus := (ne_of_isRejected rejection.isRejected_status).1
  simp only [execute, validate_of_rejection h, reject]
  rw [if_pos hstatus]
  exact ⟨rfl, rfl, rfl⟩

/-- An `Execute` that no check stops is answered `EXECUTED` and takes the lease of a leasable
control. -/
theorem execute_of_no_rejection (h : c.rejection caller action frame = none) (stateSeq : ℕ) :
    (c.execute caller action frame stateSeq).1.status = .executed ∧
      (c.execute caller action frame stateSeq).2.leases =
        if isLeasable (controlName action) then
          Function.update c.leases (controlName action)
            (some (c.newLease caller (controlName action) frame))
        else c.leases := by
  have haccepted : (c.validate caller action frame stateSeq).status = .accepted :=
    validate_accepted_iff.2 h
  simp only [execute, haccepted, ne_eq, not_true_eq_false, if_false]
  split_ifs <;> exact ⟨rfl, rfl⟩

/-- An `Execute` is answered `EXECUTED` exactly when no check stops it. -/
theorem execute_executed_iff :
    (c.execute caller action frame stateSeq).1.status = .executed ↔
      c.rejection caller action frame = none := by
  rcases h : c.rejection caller action frame with - | rejection
  · exact iff_of_true (execute_of_no_rejection h stateSeq).1 rfl
  · rw [(execute_of_rejection h stateSeq).1]
    exact iff_of_false (ne_of_isRejected rejection.isRejected_status).2.1 (some_ne_none _)

/-- **`Execute` audits once**, whatever it answers: the next id, the caller, the control of the
action and the status of the answer. -/
theorem auditLog_execute (c : AdminController) (caller : AdminCaller) (action : AdminAction)
    (frame stateSeq : ℕ) :
    (c.execute caller action frame stateSeq).2.nextAuditId = wrapAdd 64 c.nextAuditId 1 ∧
      ∃ event, (c.execute caller action frame stateSeq).2.auditLog = c.auditLog ++ [event] ∧
        event.eventId = c.nextAuditId ∧ event.callerIdentity = caller.identity ∧
        event.role = caller.role ∧ event.actionType = controlName action ∧
        event.result = (c.execute caller action frame stateSeq).1.status := by
  rw [execute]
  split_ifs
  · exact ⟨rfl, _, rfl, rfl, rfl, rfl, rfl, rfl⟩
  · exact ⟨rfl, _, rfl, rfl, rfl, rfl, rfl, rfl⟩
  · exact ⟨rfl, _, rfl, rfl, rfl, rfl, rfl, rfl⟩

/-- Executing an action leaves the settings alone. -/
theorem settings_execute (c : AdminController) (caller : AdminCaller) (action : AdminAction)
    (frame stateSeq : ℕ) : (c.execute caller action frame stateSeq).2.settings = c.settings := by
  rw [execute]
  split_ifs <;> rfl

end AdminController

end HighBar.Grpc
