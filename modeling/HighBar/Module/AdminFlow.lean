import HighBar.Grpc.AdminController
import HighBar.Library.Calls
import HighBar.Library.StepMachine

/-!
# The admin flow: workers, pending queue and engine drain

An `ExecuteAdminAction` call crosses two threads. The worker validates; an accepted action goes
through `QueueAdminAction` to the engine thread and the worker waits for the answer, while a
rejected one goes straight to `AdminController::Execute` on the worker. The engine thread, once a
tick, expires leases, takes the whole pending queue, and for each entry validates, applies, executes
and answers; the frame and the head of the ring advance at any time. One label is one atomic step of
one thread, so a run is an interleaving of any number of calls with the ticks.

The wait may time out at any moment before the answer arrives. What the engine makes of an action
comes with the label of the `apply` step, an exception included: it ends the tick, disables the
gateway, and **discards** the entries not yet answered. Their workers hold on to the promises, so no
future breaks: each waits in vain, and times out.

Beside the state of the threads the machine records what has happened: every application with its
tick and outcome, and the calls in whose name a lease was acquired.
-/

namespace HighBar.Module

open Grpc Option

/-- One `ExecuteAdminAction` call. -/
abbrev RpcId : Type := ℕ

/-- Where a worker is inside `ExecuteActionCallData::Proceed`. -/
inductive RpcPhase where
  /-- Validated and accepted; about to call `QueueAdminAction`. -/
  | accepted
  /-- Rejected with this result; about to call `Execute`. -/
  | rejected (first : AdminActionResult)
  /-- Past the health test of `QueueAdminAction`. -/
  | queueing
  /-- Waiting for the future. -/
  | waiting
  /-- Answered, after so many ticks had begun. -/
  | returned (result : AdminActionResult) (tick : ℕ)
deriving Repr, DecidableEq

/-- The status a call was answered with. -/
def RpcPhase.answerStatus : RpcPhase → Option AdminActionStatus
  | .returned result _ => some result.status
  | _ => none

/-- The phases of a call that has entered the pending queue or was answered without it. -/
def RpcPhase.isPast : RpcPhase → Bool
  | .waiting | .returned .. => true
  | .accepted | .rejected _ | .queueing => false

/-- A call in progress. -/
structure Rpc where
  caller : AdminCaller
  action : AdminAction
  phase : RpcPhase
deriving Repr, DecidableEq

/-- Where the engine thread is inside the admin part of a tick. -/
inductive DrainPhase where
  | idle
  | expiring
  | swapping
  /-- Entries taken from the queue and not yet answered. -/
  | draining (rest : List RpcId)
  /-- Validated with this result; about to call `ApplyAdminAction`. -/
  | applying (id : RpcId) (result : AdminActionResult) (rest : List RpcId)
  | executing (id : RpcId) (rest : List RpcId)
  | completing (id : RpcId) (result : AdminActionResult) (rest : List RpcId)
deriving Repr, DecidableEq

/-- The entries of the current drain that have not been answered. -/
def DrainPhase.ids : DrainPhase → List RpcId
  | .idle | .expiring | .swapping => []
  | .draining rest => rest
  | .applying id _ rest | .executing id rest | .completing id _ rest => id :: rest

/-- The entries of the current drain that have not been applied. -/
def DrainPhase.unapplied : DrainPhase → List RpcId
  | .idle | .expiring | .swapping => []
  | .draining rest | .executing _ rest | .completing _ _ rest => rest
  | .applying id _ rest => id :: rest

/-- One application: the call, the tick, and what `ApplyAdminAction` came back with. -/
structure Application where
  id : RpcId
  tick : ℕ
  outcome : Outcome Bool
deriving Repr, DecidableEq

/-- The whole flow. -/
structure AdminFlow where
  controller : AdminController
  /-- `current_frame_`. -/
  frame : ℕ
  /-- The ring head. -/
  stateSeq : ℕ
  /-- `state_ == Healthy`. -/
  healthy : Bool
  /-- How many ticks have begun. -/
  tick : ℕ
  engine : DrainPhase
  /-- `pending_admin_actions_`. -/
  pending : List RpcId
  rpcs : RpcId → Option Rpc
  /-- The results the promises were given. -/
  completions : RpcId → Option AdminActionResult
  /-- Every call of `ApplyAdminAction`, oldest first. -/
  applications : List Application
  /-- The calls in whose name a lease was acquired. -/
  acquired : List RpcId

/-- One atomic step of a worker or of the engine thread. -/
inductive AdminLabel where
  | start (id : RpcId) (caller : AdminCaller) (action : AdminAction)
  | checkHealthy (id : RpcId)
  | enqueue (id : RpcId)
  | timeOut (id : RpcId)
  | receive (id : RpcId)
  | executeRejected (id : RpcId)
  | beginTick
  | expireLeases
  | swapPending
  | validateEntry
  | applyEntry (outcome : Outcome Bool)
  | executeEntry
  | complete
  | endTick
  | advance (frame stateSeq : ℕ)
  | disable
deriving Repr, DecidableEq

/-- The result of an action that was not dispatched. -/
def notDispatched (action : AdminAction) (frame stateSeq : ℕ) (code : AdminIssueCode)
    (detail : String) : AdminActionResult where
  actionSeq := action.actionSeq
  clientActionId := action.clientActionId
  status := .notDispatched
  issues := [⟨code, "action", detail, .afterNextSnapshot⟩]
  frame := frame
  stateSeq := stateSeq
  dryRun := false

/-- The issue added when the engine refuses an action. -/
def engineRejectedIssue : AdminIssue :=
  ⟨.actionNotDispatched, "action", "engine rejected admin action dispatch", .afterNextSnapshot⟩

namespace AdminFlow

/-- Replace one call's phase. -/
def setPhase (s : AdminFlow) (id : RpcId) (rpc : Rpc) (phase : RpcPhase) : AdminFlow :=
  { s with rpcs := Function.update s.rpcs id (some { rpc with phase := phase }) }

theorem setPhase_rpcs_self (s : AdminFlow) (id : RpcId) (rpc : Rpc) (phase : RpcPhase) :
    (s.setPhase id rpc phase).rpcs id = some { rpc with phase := phase } :=
  Function.update_self ..

theorem setPhase_rpcs_of_ne (s : AdminFlow) {id i : RpcId} (h : i ≠ id) (rpc : Rpc)
    (phase : RpcPhase) : (s.setPhase id rpc phase).rpcs i = s.rpcs i :=
  Function.update_of_ne h ..

/-- After a step that moves one call on, a call is that one or is as it was. -/
theorem rpcs_setPhase {s : AdminFlow} {i id : RpcId} {rpc p : Rpc} {phase : RpcPhase}
    (h : (s.setPhase id rpc phase).rpcs i = some p) :
    i = id ∧ p = { rpc with phase := phase } ∨ s.rpcs i = some p := by
  rcases eq_or_ne i id with rfl | hne
  · rw [setPhase_rpcs_self] at h
    exact Or.inl ⟨rfl, (Option.some.inj h).symm⟩
  · rw [setPhase_rpcs_of_ne s hne] at h
    exact Or.inr h

/-- Call `Execute` in the name of `id`. -/
def execute (s : AdminFlow) (id : RpcId) (rpc : Rpc) : AdminActionResult × AdminFlow :=
  let r := s.controller.execute rpc.caller rpc.action s.frame s.stateSeq
  (r.1,
    { s with
      controller := r.2
      acquired := if r.1.lease.isSome then s.acquired ++ [id] else s.acquired })

/-- The validation both threads start from; `dry_run` is cleared on the result. -/
def validate (s : AdminFlow) (rpc : Rpc) : AdminActionResult :=
  { s.controller.validate rpc.caller rpc.action s.frame s.stateSeq with dryRun := false }

/-! ### Worker steps -/

/-- Answer a call. -/
def answer (s : AdminFlow) (id : RpcId) (rpc : Rpc) (result : AdminActionResult) : AdminFlow :=
  s.setPhase id rpc (.returned result s.tick)

/-- The first `Validate` of `ExecuteActionCallData::Proceed`. -/
def startRpc (s : AdminFlow) (id : RpcId) (caller : AdminCaller) (action : AdminAction) :
    Option AdminFlow :=
  let rpc : Rpc := ⟨caller, action, .accepted⟩
  match s.rpcs id with
  | some _ => none
  | none =>
    if (s.validate rpc).status = .accepted then some (s.setPhase id rpc .accepted)
    else some (s.setPhase id rpc (.rejected (s.validate rpc)))

/-- The health test of `QueueAdminAction`. -/
def checkHealthy (s : AdminFlow) (id : RpcId) (rpc : Rpc) : Option AdminFlow :=
  match rpc.phase with
  | .accepted =>
    if s.healthy then some (s.setPhase id rpc .queueing)
    else
      some (s.answer id rpc (notDispatched rpc.action s.frame s.stateSeq .engineNotReady
        "gateway engine thread is unavailable"))
  | _ => none

/-- The locked `push_back`. -/
def enqueue (s : AdminFlow) (id : RpcId) (rpc : Rpc) : Option AdminFlow :=
  match rpc.phase with
  | .queueing =>
    some (({ s with pending := s.pending ++ [id] } : AdminFlow).setPhase id rpc .waiting)
  | _ => none

/-- `wait_for` gives up; the future is not ready. -/
def timeOut (s : AdminFlow) (id : RpcId) (rpc : Rpc) : Option AdminFlow :=
  match rpc.phase, s.completions id with
  | .waiting, none =>
    some (s.answer id rpc (notDispatched rpc.action s.frame s.stateSeq .actionNotDispatched
      "timed out waiting for engine-thread admin execution"))
  | _, _ => none

/-- `future.get`. -/
def receive (s : AdminFlow) (id : RpcId) (rpc : Rpc) : Option AdminFlow :=
  match rpc.phase, s.completions id with
  | .waiting, some result => some (s.answer id rpc result)
  | _, _ => none

/-- The `Execute` a worker calls after a rejection. -/
def executeRejected (s : AdminFlow) (id : RpcId) (rpc : Rpc) : Option AdminFlow :=
  match rpc.phase with
  | .rejected _ => some ((s.execute id rpc).2.answer id rpc (s.execute id rpc).1)
  | _ => none

/-! ### Engine steps -/

/-- `Validate` of the entry at the front. -/
def validateEntry (s : AdminFlow) : Option AdminFlow :=
  match s.engine with
  | .draining (id :: rest) =>
    (s.rpcs id).map fun rpc ↦
      if (s.validate rpc).status = .accepted then
        { s with engine := .applying id (s.validate rpc) rest }
      else { s with engine := .completing id (s.validate rpc) rest }
  | _ => none

/-- `ApplyAdminAction`. -/
def applyEntry (s : AdminFlow) (outcome : Outcome Bool) : Option AdminFlow :=
  match s.engine with
  | .applying id result rest =>
    let s : AdminFlow := { s with applications := s.applications ++ [⟨id, s.tick, outcome⟩] }
    match outcome with
    | .returned true => some { s with engine := .executing id rest }
    | .returned false =>
      some { s with
        engine := .completing id
          { result with
            status := .notDispatched
            issues := result.issues ++ [engineRejectedIssue] } rest }
    | .threw =>
      -- the exception leaves `OnFrameTick` through its outer handler, with `rest` on the way
      some { s with engine := .idle, healthy := false }
  | _ => none

/-- `Execute` of the entry that was applied. -/
def executeEntry (s : AdminFlow) : Option AdminFlow :=
  match s.engine with
  | .executing id rest =>
    (s.rpcs id).map fun rpc ↦
      { (s.execute id rpc).2 with engine := .completing id (s.execute id rpc).1 rest }
  | _ => none

/-- `completion.set_value`. -/
def complete (s : AdminFlow) : Option AdminFlow :=
  match s.engine with
  | .completing id result rest =>
    some { s with
      completions := Function.update s.completions id (some result)
      engine := .draining rest }
  | _ => none

/-- One step. -/
def step (s : AdminFlow) : AdminLabel → Option AdminFlow
  | .start id caller action => s.startRpc id caller action
  | .checkHealthy id => (s.rpcs id).bind (s.checkHealthy id)
  | .enqueue id => (s.rpcs id).bind (s.enqueue id)
  | .timeOut id => (s.rpcs id).bind (s.timeOut id)
  | .receive id => (s.rpcs id).bind (s.receive id)
  | .executeRejected id => (s.rpcs id).bind (s.executeRejected id)
  | .beginTick =>
    if s.engine = .idle ∧ s.healthy then some { s with engine := .expiring, tick := s.tick + 1 }
    else none
  | .expireLeases =>
    if s.engine = .expiring then
      some { s with engine := .swapping, controller := s.controller.expireLeases s.frame }
    else none
  | .swapPending =>
    if s.engine = .swapping then some { s with engine := .draining s.pending, pending := [] }
    else none
  | .validateEntry => s.validateEntry
  | .applyEntry outcome => s.applyEntry outcome
  | .executeEntry => s.executeEntry
  | .complete => s.complete
  | .endTick => if s.engine = .draining [] then some { s with engine := .idle } else none
  | .advance frame stateSeq =>
    -- frames never go back
    if s.frame ≤ frame then some { s with frame := frame, stateSeq := stateSeq } else none
  | .disable => some { s with healthy := false }

/-- The flow at start-up. -/
def create (settings : AdminSettings) : AdminFlow where
  controller := AdminController.create settings
  frame := 0
  stateSeq := 0
  healthy := true
  tick := 0
  engine := .idle
  pending := []
  rpcs := fun _ ↦ none
  completions := fun _ ↦ none
  applications := []
  acquired := []

/-- The machine of the whole flow. -/
def machine (settings : AdminSettings) : StepMachine AdminFlow AdminLabel where
  init := create settings
  step := step

/-! ### One step, inverted -/

/-- What a step does, with what it was taken at. -/
inductive Steps (s : AdminFlow) : AdminLabel → AdminFlow → Prop
  | startAccepted {id : RpcId} {caller : AdminCaller} {action : AdminAction}
      (hfree : s.rpcs id = none)
      (hvalid : (s.validate ⟨caller, action, .accepted⟩).status = .accepted) :
    Steps s (.start id caller action) (s.setPhase id ⟨caller, action, .accepted⟩ .accepted)
  | startRejected {id : RpcId} {caller : AdminCaller} {action : AdminAction}
      (hfree : s.rpcs id = none)
      (hvalid : (s.validate ⟨caller, action, .accepted⟩).status ≠ .accepted) :
    Steps s (.start id caller action) (s.setPhase id ⟨caller, action, .accepted⟩
      (.rejected (s.validate ⟨caller, action, .accepted⟩)))
  | checkHealthy {id : RpcId} {rpc : Rpc} (hrpc : s.rpcs id = some rpc)
      (hphase : rpc.phase = .accepted) (hhealthy : s.healthy = true) :
    Steps s (.checkHealthy id) (s.setPhase id rpc .queueing)
  | unavailable {id : RpcId} {rpc : Rpc} (hrpc : s.rpcs id = some rpc)
      (hphase : rpc.phase = .accepted) (hhealthy : s.healthy = false) :
    Steps s (.checkHealthy id) (s.answer id rpc (notDispatched rpc.action s.frame s.stateSeq
      .engineNotReady "gateway engine thread is unavailable"))
  | enqueue {id : RpcId} {rpc : Rpc} (hrpc : s.rpcs id = some rpc)
      (hphase : rpc.phase = .queueing) :
    Steps s (.enqueue id)
      (({ s with pending := s.pending ++ [id] } : AdminFlow).setPhase id rpc .waiting)
  | timeOut {id : RpcId} {rpc : Rpc} (hrpc : s.rpcs id = some rpc) (hphase : rpc.phase = .waiting)
      (hcompletion : s.completions id = none) :
    Steps s (.timeOut id) (s.answer id rpc (notDispatched rpc.action s.frame s.stateSeq
      .actionNotDispatched "timed out waiting for engine-thread admin execution"))
  | receive {id : RpcId} {rpc : Rpc} {result : AdminActionResult} (hrpc : s.rpcs id = some rpc)
      (hphase : rpc.phase = .waiting) (hcompletion : s.completions id = some result) :
    Steps s (.receive id) (s.answer id rpc result)
  | executeRejected {id : RpcId} {rpc : Rpc} {first : AdminActionResult}
      (hrpc : s.rpcs id = some rpc) (hphase : rpc.phase = .rejected first) :
    Steps s (.executeRejected id) ((s.execute id rpc).2.answer id rpc (s.execute id rpc).1)
  | beginTick (hengine : s.engine = .idle) (hhealthy : s.healthy = true) :
    Steps s .beginTick { s with engine := .expiring, tick := s.tick + 1 }
  | expireLeases (hengine : s.engine = .expiring) :
    Steps s .expireLeases
      { s with engine := .swapping, controller := s.controller.expireLeases s.frame }
  | swapPending (hengine : s.engine = .swapping) :
    Steps s .swapPending { s with engine := .draining s.pending, pending := [] }
  | validateAccepted {id : RpcId} {rpc : Rpc} {rest : List RpcId}
      (hengine : s.engine = .draining (id :: rest)) (hrpc : s.rpcs id = some rpc)
      (hvalid : (s.validate rpc).status = .accepted) :
    Steps s .validateEntry { s with engine := .applying id (s.validate rpc) rest }
  | validateRejected {id : RpcId} {rpc : Rpc} {rest : List RpcId}
      (hengine : s.engine = .draining (id :: rest)) (hrpc : s.rpcs id = some rpc)
      (hvalid : (s.validate rpc).status ≠ .accepted) :
    Steps s .validateEntry { s with engine := .completing id (s.validate rpc) rest }
  | applied {id : RpcId} {result : AdminActionResult} {rest : List RpcId}
      (hengine : s.engine = .applying id result rest) :
    Steps s (.applyEntry (.returned true))
      { s with
        applications := s.applications ++ [⟨id, s.tick, .returned true⟩]
        engine := .executing id rest }
  | refused {id : RpcId} {result : AdminActionResult} {rest : List RpcId}
      (hengine : s.engine = .applying id result rest) :
    Steps s (.applyEntry (.returned false))
      { s with
        applications := s.applications ++ [⟨id, s.tick, .returned false⟩]
        engine := .completing id
          { result with
            status := .notDispatched
            issues := result.issues ++ [engineRejectedIssue] } rest }
  | threw {id : RpcId} {result : AdminActionResult} {rest : List RpcId}
      (hengine : s.engine = .applying id result rest) :
    Steps s (.applyEntry .threw)
      { s with
        applications := s.applications ++ [⟨id, s.tick, .threw⟩]
        engine := .idle
        healthy := false }
  | executeEntry {id : RpcId} {rpc : Rpc} {rest : List RpcId}
      (hengine : s.engine = .executing id rest) (hrpc : s.rpcs id = some rpc) :
    Steps s .executeEntry
      { (s.execute id rpc).2 with engine := .completing id (s.execute id rpc).1 rest }
  | complete {id : RpcId} {result : AdminActionResult} {rest : List RpcId}
      (hengine : s.engine = .completing id result rest) :
    Steps s .complete
      { s with
        completions := Function.update s.completions id (some result)
        engine := .draining rest }
  | endTick (hengine : s.engine = .draining []) : Steps s .endTick { s with engine := .idle }
  | advance {frame stateSeq : ℕ} (hframe : s.frame ≤ frame) :
    Steps s (.advance frame stateSeq) { s with frame := frame, stateSeq := stateSeq }
  | disable : Steps s .disable { s with healthy := false }

/-- **One step, inverted.** -/
theorem steps_of_step {s t : AdminFlow} {label : AdminLabel} (hstep : s.step label = some t) :
    Steps s label t := by
  cases label with
  | start id caller action =>
    simp only [step, startRpc] at hstep
    split at hstep
    · cases hstep
    rename_i hfree
    split_ifs at hstep with hvalid
    · cases hstep
      exact .startAccepted hfree hvalid
    · cases hstep
      exact .startRejected hfree hvalid
  | checkHealthy id =>
    obtain ⟨rpc, hrpc, hcheck⟩ := bind_eq_some_iff.1 hstep
    simp only [checkHealthy] at hcheck
    split at hcheck
    · rename_i hphase
      split_ifs at hcheck with hhealthy
      · cases hcheck
        exact .checkHealthy hrpc hphase hhealthy
      · cases hcheck
        exact .unavailable hrpc hphase (Bool.eq_false_iff.2 hhealthy)
    · cases hcheck
  | enqueue id =>
    obtain ⟨rpc, hrpc, henqueue⟩ := bind_eq_some_iff.1 hstep
    simp only [AdminFlow.enqueue] at henqueue
    split at henqueue
    · rename_i hphase
      cases henqueue
      exact .enqueue hrpc hphase
    · cases henqueue
  | timeOut id =>
    obtain ⟨rpc, hrpc, htime⟩ := bind_eq_some_iff.1 hstep
    simp only [AdminFlow.timeOut] at htime
    split at htime
    · rename_i hphase hcompletion
      cases htime
      exact .timeOut hrpc hphase hcompletion
    · cases htime
  | receive id =>
    obtain ⟨rpc, hrpc, hreceive⟩ := bind_eq_some_iff.1 hstep
    simp only [AdminFlow.receive] at hreceive
    split at hreceive
    · rename_i hphase hcompletion
      cases hreceive
      exact .receive hrpc hphase hcompletion
    · cases hreceive
  | executeRejected id =>
    obtain ⟨rpc, hrpc, hexecute⟩ := bind_eq_some_iff.1 hstep
    simp only [AdminFlow.executeRejected] at hexecute
    split at hexecute
    · rename_i hphase
      cases hexecute
      exact .executeRejected hrpc hphase
    · cases hexecute
  | beginTick =>
    obtain ⟨hidle, ⟨⟩⟩ := ite_none_right_eq_some.1 hstep
    exact .beginTick hidle.1 hidle.2
  | expireLeases =>
    obtain ⟨hengine, ⟨⟩⟩ := ite_none_right_eq_some.1 hstep
    exact .expireLeases hengine
  | swapPending =>
    obtain ⟨hengine, ⟨⟩⟩ := ite_none_right_eq_some.1 hstep
    exact .swapPending hengine
  | validateEntry =>
    simp only [step, AdminFlow.validateEntry] at hstep
    split at hstep
    · rename_i hengine
      obtain ⟨rpc, hrpc, rfl⟩ := map_eq_some_iff.1 hstep
      split_ifs with hvalid
      · exact .validateAccepted hengine hrpc hvalid
      · exact .validateRejected hengine hrpc hvalid
    · cases hstep
  | applyEntry outcome =>
    simp only [step, AdminFlow.applyEntry] at hstep
    split at hstep
    · rename_i hengine
      split at hstep
      · cases hstep
        exact .applied hengine
      · cases hstep
        exact .refused hengine
      · cases hstep
        exact .threw hengine
    · cases hstep
  | executeEntry =>
    simp only [step, AdminFlow.executeEntry] at hstep
    split at hstep
    · rename_i hengine
      obtain ⟨rpc, hrpc, rfl⟩ := map_eq_some_iff.1 hstep
      exact .executeEntry hengine hrpc
    · cases hstep
  | complete =>
    simp only [step, AdminFlow.complete] at hstep
    split at hstep
    · rename_i hengine
      cases hstep
      exact .complete hengine
    · cases hstep
  | endTick =>
    obtain ⟨hengine, ⟨⟩⟩ := ite_none_right_eq_some.1 hstep
    exact .endTick hengine
  | advance =>
    obtain ⟨hframe, ⟨⟩⟩ := ite_none_right_eq_some.1 hstep
    exact .advance hframe
  | disable =>
    cases hstep
    exact .disable

/-- A call keeps its caller and its action. -/
theorem rpc_of_steps {s t : AdminFlow} {label : AdminLabel} {i : RpcId} {p : Rpc}
    (hstep : Steps s label t) (hp : s.rpcs i = some p) :
    ∃ p', t.rpcs i = some p' ∧ p'.caller = p.caller ∧ p'.action = p.action := by
  have hset : ∀ {u : AdminFlow} {id : RpcId} {rpc : Rpc} {phase : RpcPhase}, u.rpcs = s.rpcs →
      (∀ q, s.rpcs id = some q → q.caller = rpc.caller ∧ q.action = rpc.action) →
      ∃ p', (u.setPhase id rpc phase).rpcs i = some p' ∧ p'.caller = p.caller ∧
        p'.action = p.action := by
    intro u id rpc phase hu hsame
    rcases eq_or_ne i id with rfl | hne
    · obtain ⟨hcaller, haction⟩ := hsame p hp
      exact ⟨_, setPhase_rpcs_self .., hcaller.symm, haction.symm⟩
    · exact ⟨p, (setPhase_rpcs_of_ne u hne ..).trans ((congrFun hu i).trans hp), rfl, rfl⟩
  have hown : ∀ {id : RpcId} {rpc : Rpc}, s.rpcs id = some rpc →
      ∀ q, s.rpcs id = some q → q.caller = rpc.caller ∧ q.action = rpc.action := fun hrpc q hq ↦ by
    rw [Option.some.inj (hrpc.symm.trans hq)]
    exact ⟨rfl, rfl⟩
  cases hstep with
  | startAccepted hfree | startRejected hfree =>
    exact hset rfl fun q hq ↦ absurd (hfree.symm.trans hq) nofun
  | checkHealthy hrpc | unavailable hrpc | enqueue hrpc | timeOut hrpc | receive hrpc
  | executeRejected hrpc => exact hset rfl (hown hrpc)
  | _ => exact ⟨p, hp, rfl, rfl⟩

end AdminFlow

end HighBar.Module
