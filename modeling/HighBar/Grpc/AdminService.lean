import HighBar.Grpc.AdminController

/-!
# AdminService: who an admin call comes from

Three components meet in an `ExecuteAdminAction` call. The interceptor compares the token header
with the run's one token and closes the call when they differ; the service reads the caller's role
and identity from two further headers; the controller decides permission and lease ownership from
what the service read.

The results say exactly which input decides what. **The token decides admission and nothing else**;
permission is a function of the declared role, and lease ownership of the declared client id, or of
the peer address when no client id is declared.
-/

namespace HighBar.Grpc

open Option

/-! ### The token -/

/-- The bytes of a `std::string`. -/
def bytesOf (s : String) : List UInt8 := s.toByteArray.data.toList

theorem bytesOf_injective : Function.Injective bytesOf := fun _ _ h ↦
  String.toByteArray_inj.1 (ByteArray.ext (Array.toList_inj.1 h))

/-- The loop of `ConstantTimeEquals`: or the differences of all bytes into `diff`. -/
def diffLoop : UInt8 → List UInt8 → List UInt8 → UInt8
  | diff, [], _ => diff
  | diff, _ :: _, [] => diff
  | diff, x :: xs, y :: ys => diffLoop (diff ||| (x ^^^ y)) xs ys

/-- `AuthToken::ConstantTimeEquals`. -/
def constantTimeEquals (a b : String) : Bool :=
  if (bytesOf a).length ≠ (bytesOf b).length then false
  else diffLoop 0 (bytesOf a) (bytesOf b) == 0

/-- The loop finds no difference exactly if there is none. -/
theorem diffLoop_eq_zero_iff {xs ys : List UInt8} (h : xs.length = ys.length) (diff : UInt8) :
    diffLoop diff xs ys = 0 ↔ diff = 0 ∧ xs = ys := by
  induction xs generalizing ys diff with
  | nil =>
    rw [List.length_eq_zero_iff.1 h.symm, diffLoop]
    simp
  | cons x xs ih =>
    rcases ys with - | ⟨y, ys⟩
    · cases h
    · rw [diffLoop, ih (Nat.succ.inj h), UInt8.or_eq_zero_iff, UInt8.xor_eq_zero_iff, and_assoc,
        List.cons.injEq]

/-- The comparison is equality. -/
theorem constantTimeEquals_iff {a b : String} : constantTimeEquals a b = true ↔ a = b := by
  rw [constantTimeEquals]
  split_ifs with hlen
  · refine iff_of_false id ?_
    rintro rfl
    exact hlen rfl
  · rw [beq_iff_eq, diffLoop_eq_zero_iff (not_not.1 hlen), and_iff_right rfl,
      bytesOf_injective.eq_iff]

/-- Received metadata, in arrival order. -/
abbrev Metadata : Type := List (String × String)

/-- `kTokenHeader`. -/
def kTokenHeader : String := "x-highbar-ai-token"

/-- `kTokenProtected`. -/
def kTokenProtected : List String :=
  ["/highbar.v1.HighBarProxy/SubmitCommands",
    "/highbar.v1.HighBarProxy/ValidateCommandBatch",
    "/highbar.v1.HighBarProxy/GetCommandSchema",
    "/highbar.v1.HighBarProxy/GetUnitCapabilities",
    "/highbar.v1.HighBarProxy/InvokeCallback",
    "/highbar.v1.HighBarProxy/Save",
    "/highbar.v1.HighBarProxy/Load",
    "/highbar.v1.HighBarProxy/GetRuntimeCounters",
    "/highbar.v1.HighBarProxy/RequestSnapshot",
    "/highbar.v1.HighBarAdmin/GetAdminCapabilities",
    "/highbar.v1.HighBarAdmin/ValidateAdminAction",
    "/highbar.v1.HighBarAdmin/ExecuteAdminAction"]

/-- `AuthInterceptor::RequiresToken`. -/
def requiresToken (fullMethod : String) : Bool := kTokenProtected.contains fullMethod

/-- `AuthInterceptor::Intercept` at the inbound-metadata hook: is the call let through? A null
`token_` admits no protected call. -/
def intercept (token : Option String) (fullMethod : String) (metadata : Metadata) : Bool :=
  if requiresToken fullMethod then
    match token with
    | none => false
    | some value =>
      metadata.any fun entry ↦ entry.1 == kTokenHeader && constantTimeEquals entry.2 value
  else true

/-! ### The caller -/

/-- `kRoleHeader`. -/
def kRoleHeader : String := "x-highbar-admin-role"

/-- `kClientHeader`. -/
def kClientHeader : String := "x-highbar-client-id"

/-- What the service reads of the `ServerContext`. -/
structure ServerContext where
  metadata : Metadata
  peer : String

/-- `MetadataValue`: the first value under the key, or the empty string. -/
def metadataValue (metadata : Metadata) (key : String) : String :=
  (metadata.lookup key).getD ""

/-- `AuthToken::ParseAdminRole`. -/
def parseAdminRole (role : String) : AdminRole :=
  if role = "operator" then .operator
  else if role = "admin" then .admin
  else if role = "test-harness" ∨ role = "test_harness" then .testHarness
  else if role = "ai" then .ai
  else if role = "observer" then .observer
  else .unspecified

/-- The identity the service uses: the declared client id, or the peer address. -/
def declaredIdentity (ctx : ServerContext) : String :=
  let identity := metadataValue ctx.metadata kClientHeader
  if identity.isEmpty then ctx.peer else identity

/-- `AdminService::CallerFrom`. -/
def callerFrom (ctx : ServerContext) : AdminCaller where
  identity := declaredIdentity ctx
  role := parseAdminRole (metadataValue ctx.metadata kRoleHeader)

/-- The role headers that grant execution. -/
def privilegedRoleHeaders : List String := ["operator", "admin", "test-harness", "test_harness"]

/-- The headers that give a role which may execute. -/
theorem roleCanExecute_parseAdminRole (role : String) :
    roleCanExecute (parseAdminRole role) = true ↔ role ∈ privilegedRoleHeaders := by
  rw [parseAdminRole]
  split_ifs <;> simp_all [roleCanExecute, privilegedRoleHeaders]

/-! ### The decision -/

/-- The server state an `ExecuteAdminAction` call is decided in. -/
structure AdminServer where
  /-- `AuthToken::Value`, or `none` when no token is loaded. -/
  token : Option String
  controller : AdminController
  frame : ℕ
  stateSeq : ℕ

/-- The full method name of the call. -/
def kExecuteAdminAction : String := "/highbar.v1.HighBarAdmin/ExecuteAdminAction"

/-- The decision on an `ExecuteAdminAction` call: `none` when the interceptor closes it, and
otherwise the worker's validation. -/
def AdminServer.decideExecute (server : AdminServer) (ctx : ServerContext) (action : AdminAction) :
    Option AdminActionResult :=
  if intercept server.token kExecuteAdminAction ctx.metadata then
    some (server.controller.validate (callerFrom ctx) action server.frame server.stateSeq)
  else none

theorem requiresToken_executeAdminAction : requiresToken kExecuteAdminAction = true := by
  simp [requiresToken, kTokenProtected, kExecuteAdminAction]

/-- The interceptor admits exactly the calls that carry the token. -/
theorem intercept_executeAdminAction_iff {token : Option String} {metadata : Metadata} :
    intercept token kExecuteAdminAction metadata = true ↔
      ∃ value, token = some value ∧ (kTokenHeader, value) ∈ metadata := by
  rcases token with - | value
  · simp [intercept, requiresToken_executeAdminAction]
  · simp only [intercept, requiresToken_executeAdminAction, if_true, List.any_eq_true,
      Bool.and_eq_true, beq_iff_eq, constantTimeEquals_iff, Option.some.injEq, exists_eq_left']
    constructor
    · rintro ⟨⟨key, supplied⟩, hmem, rfl, rfl⟩
      exact hmem
    · exact fun hmem ↦ ⟨_, hmem, rfl, rfl⟩

/-- The call carries the run's token. -/
def CarriesToken (server : AdminServer) (ctx : ServerContext) : Prop :=
  ∃ value, server.token = some value ∧ (kTokenHeader, value) ∈ ctx.metadata

/-- A call with the token comes to the controller. -/
theorem decideExecute_of_carriesToken {server : AdminServer} {ctx : ServerContext}
    (h : CarriesToken server ctx) (action : AdminAction) :
    server.decideExecute ctx action =
      some (server.controller.validate (callerFrom ctx) action server.frame server.stateSeq) := by
  rw [AdminServer.decideExecute, if_pos (intercept_executeAdminAction_iff.2 h)]

/-- A call without it does not. -/
theorem decideExecute_of_not_carriesToken {server : AdminServer} {ctx : ServerContext}
    (h : ¬CarriesToken server ctx) (action : AdminAction) :
    server.decideExecute ctx action = none := by
  rw [AdminServer.decideExecute, if_neg fun hok ↦ h (intercept_executeAdminAction_iff.1 hok)]

/-- Permission is denied exactly when the declared role is not a privileged one. -/
theorem validate_permissionDenied_iff {controller : AdminController} {ctx : ServerContext}
    {action : AdminAction} {frame stateSeq : ℕ} :
    (controller.validate (callerFrom ctx) action frame stateSeq).status =
        .rejectedPermissionDenied ↔
      metadataValue ctx.metadata kRoleHeader ∉ privilegedRoleHeaders := by
  rw [← roleCanExecute_parseAdminRole, Bool.not_eq_true]
  rcases h : standingRejection controller.settings (callerFrom ctx) action frame with - | r
  · have hrole := roleCanExecute_of_standingRejection h
    refine iff_of_false ?_ (by simpa [callerFrom] using hrole)
    rw [AdminController.validate, AdminController.rejection, h, none_or]
    rcases hl : leaseRejection controller.leases (callerFrom ctx) action with - | r
    · exact AdminActionStatus.noConfusion
    · simp [AdminController.reject, status_leaseRejection hl]
  · rw [AdminController.validate, AdminController.rejection, h, some_or]
    exact (status_standingRejection h).1

/-- An action meets a lease conflict exactly when no other check fails and its control is leased
under another identity than the declared one. -/
theorem validate_conflict_iff {controller : AdminController} {ctx : ServerContext}
    {action : AdminAction} {frame stateSeq : ℕ} :
    (controller.validate (callerFrom ctx) action frame stateSeq).status = .rejectedConflict ↔
      standingRejection controller.settings (callerFrom ctx) action frame = none ∧
      action.conflictPolicy ≠ .releaseExistingLease ∧
      ∃ lease, controller.leases (controlName action) = some lease ∧
        lease.ownerClientId ≠ declaredIdentity ctx := by
  rw [show declaredIdentity ctx = (callerFrom ctx).identity from rfl, ← leaseRejection_ne_none_iff]
  rcases h : standingRejection controller.settings (callerFrom ctx) action frame with - | r
  · rw [and_iff_right rfl, AdminController.validate, AdminController.rejection, h, none_or]
    rcases hl : leaseRejection controller.leases (callerFrom ctx) action with - | r
    · simp
    · simp [AdminController.reject, status_leaseRejection hl]
  · rw [AdminController.validate, AdminController.rejection, h, some_or]
    exact iff_of_false (status_standingRejection h).2 fun hno ↦ some_ne_none _ hno.1

/-- **Authority is what the headers declare.** The token decides whether the call is admitted. For
an admitted call, permission is denied exactly when the declared role is not a privileged one, and
the caller counts as a stranger to a lease exactly when the declared client id (the peer address if
none is declared) is not its owner's. -/
theorem admin_authority_is_declared (server : AdminServer) (ctx : ServerContext)
    (action : AdminAction) :
    (server.decideExecute ctx action = none ↔ ¬CarriesToken server ctx) ∧
    ((server.decideExecute ctx action).map (·.status) = some .rejectedPermissionDenied ↔
      CarriesToken server ctx ∧
        metadataValue ctx.metadata kRoleHeader ∉ privilegedRoleHeaders) ∧
    ((server.decideExecute ctx action).map (·.status) = some .rejectedConflict ↔
      CarriesToken server ctx ∧
        standingRejection server.controller.settings (callerFrom ctx) action server.frame = none ∧
        action.conflictPolicy ≠ .releaseExistingLease ∧
        ∃ lease, server.controller.leases (controlName action) = some lease ∧
          lease.ownerClientId ≠ declaredIdentity ctx) := by
  by_cases h : CarriesToken server ctx
  · rw [decideExecute_of_carriesToken h, map_some, Option.some.injEq, Option.some.injEq,
      validate_permissionDenied_iff, validate_conflict_iff]
    simp [h]
  · rw [decideExecute_of_not_carriesToken h]
    simp [h]

/-- A run with the token `"t"` in which the client `"b"` holds the pause lease. -/
def leasedServer : AdminServer where
  token := some "t"
  controller :=
    { AdminController.create {} with
      leases := fun control ↦
        if control = .pause then some ⟨.pause, "b", .operator, 0, 0, 90⟩ else none }
  frame := 1
  stateSeq := 0

/-- A call with the token and the given declarations. -/
def declaring (role clientId : String) : ServerContext where
  metadata := [(kTokenHeader, "t"), (kRoleHeader, role), (kClientHeader, clientId)]
  peer := "unix:"

/-- **The headers decide**: with one token, one action and one server state, the declared role turns
a denial into an acceptance, and the declared client id turns a conflict into an acceptance. -/
theorem declared_headers_change_outcome :
    (leasedServer.decideExecute (declaring "ai" "b") { action := .pause true }).map (·.status) =
      some .rejectedPermissionDenied ∧
    (leasedServer.decideExecute (declaring "operator" "a") { action := .pause true }).map
      (·.status) = some .rejectedConflict ∧
    (leasedServer.decideExecute (declaring "operator" "b") { action := .pause true }).map
      (·.status) = some .accepted := by
  have hcarries : ∀ role clientId, CarriesToken leasedServer (declaring role clientId) :=
    fun _ _ ↦ ⟨"t", rfl, List.mem_cons_self ..⟩
  simp only [decideExecute_of_carriesToken (hcarries _ _)]
  refine ⟨?_, ?_, ?_⟩ <;> decide

end HighBar.Grpc
