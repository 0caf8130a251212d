import HighBar.Module.AdminApply
import HighBar.Module.AdminFlow

/-!
# The admin flow down to the engine calls

`AdminFlow` takes what `ApplyAdminAction` comes back with from the label. Here the application is
run: the label holds what each engine call **site** comes back with (`EngineAnswers`), and the
application follows from it, with the calls it made. The rest of the machine is that of the flow.

Beside the flow the machine records what has happened: the engine calls, the entries the drain took
from the queue and those whose promise it fulfilled, the audit events with the call each was written
for, the results that callers were given, and the leases that expired.

## Every drained action is answered

`DrainAdminActionQueue` takes the whole queue before it works on the first entry, so an exception
that leaves the loop takes every entry not yet answered with it: their promises stay unset, and
their workers wait until they time out. Some engine calls are made outside any handler; `ThrowsOut`
lists them, arm by arm. `drained_answered_iff`: every entry taken is answered exactly once
**exactly when no application lets an exception out**.
-/

namespace HighBar.Module

open Grpc List

namespace EngineAnswers

variable (env : EngineAnswers)

/-- What `ApplyAdminAction` comes back with, and the engine calls it made. -/
def apply (action : AdminActionArm) : Outcome Bool × List EngineEvent :=
  match (env.applyAdminAction action).run ⟨false, []⟩ with
  | .ok ok s => (.returned ok, s.log)
  | .error _ s => (.threw, s.log)

/-- The application throws exactly when it ends in the exceptional postcondition. -/
theorem apply_threw_iff (action : AdminActionArm) :
    (env.apply action).1 = .threw ↔
      Calls.wp (env.applyAdminAction action) (fun _ _ ↦ False) (fun _ ↦ True) ⟨false, []⟩ := by
  rw [apply, Calls.wp]
  rcases (env.applyAdminAction action).run ⟨false, []⟩ with ⟨ok, s⟩ | ⟨-, s⟩
  · exact iff_of_false (Outcome.returned_ne_threw ok) id
  · exact iff_of_true rfl trivial

/-- What the calls of an application satisfy, however it ends. -/
theorem apply_calls_iff (action : AdminActionArm) (P : List EngineEvent → Prop) :
    P (env.apply action).2 ↔
      Calls.wp (env.applyAdminAction action) (fun _ s ↦ P s.log) (fun s ↦ P s.log)
        ⟨false, []⟩ := by
  rw [apply, Calls.wp]
  rcases (env.applyAdminAction action).run ⟨false, []⟩ with ⟨ok, s⟩ | ⟨-, s⟩
  · exact Iff.rfl
  · exact Iff.rfl

end EngineAnswers

/-- The label is an application. -/
def AdminLabel.isApply : AdminLabel → Bool
  | .applyEntry _ => true
  | _ => false

namespace AdminFlow

variable {s t : AdminFlow} {label : AdminLabel}

/-! ### What a step of the flow amounts to -/

/-- The call whose action is about to be applied. -/
def applying? (s : AdminFlow) : Option Rpc :=
  match s.engine with
  | .applying id _ _ => s.rpcs id
  | _ => none

/-- The entries a step takes from the queue. -/
def takes (s : AdminFlow) : AdminLabel → List RpcId
  | .swapPending => s.pending
  | _ => []

/-- The entries whose promise a step fulfils. -/
def fulfils (s : AdminFlow) : AdminLabel → List RpcId
  | .complete => s.engine.ids.head?.toList
  | _ => []

/-- The call a step writes audit events for, if it is for a call at all. -/
def writer (s : AdminFlow) : AdminLabel → Option RpcId
  | .executeRejected id => some id
  | .executeEntry => s.engine.ids.head?
  | _ => none

/-- The audit events a step from `s` to `t` appended, with the call they were written for. -/
def audited (s t : AdminFlow) (label : AdminLabel) : List (Option RpcId × AdminAuditEvent) :=
  (t.controller.auditLog.drop s.controller.auditLog.length).map fun event ↦ (s.writer label, event)

/-- The result a call was given with a step to `t`: by `Execute`, by the engine thread, or by
`QueueAdminAction` itself, without an engine thread or after a time-out. -/
def decides (t : AdminFlow) : AdminLabel → List (RpcId × AdminActionResult)
  | .executeRejected id | .receive id | .timeOut id | .checkHealthy id =>
    match (t.rpcs id).map Rpc.phase with
    | some (.returned result _) => [(id, result)]
    | _ => []
  | _ => []

/-- The leases a step removed for having expired. -/
def expires (s t : AdminFlow) : AdminLabel → List AdminLease
  | .expireLeases =>
    AdminControl.all.filterMap fun control ↦
      if t.controller.leases control = none then s.controller.leases control else none
  | _ => []

/-- **The entries in the drain**: what was in it and what a step takes is what the step fulfils and
what is left, unless an exception leaves the drain. -/
theorem ids_of_steps (hstep : Steps s label t) (hno : label ≠ .applyEntry .threw) :
    s.engine.ids ++ s.takes label = s.fulfils label ++ t.engine.ids := by
  cases hstep with
  | threw => exact absurd rfl hno
  | swapPending hengine => rw [hengine]; rfl
  | complete hengine =>
    simp only [fulfils, takes, hengine, DrainPhase.ids]
    exact append_nil _
  | beginTick hengine | expireLeases hengine | validateAccepted hengine | validateRejected hengine
  | applied hengine | refused hengine | executeEntry hengine | endTick hengine =>
    rw [hengine]
    exact append_nil _
  | startAccepted | startRejected | checkHealthy | unavailable | enqueue | timeOut | receive
  | executeRejected | advance | disable => exact append_nil _

/-- A promise stays fulfilled, and a step sets those of the entries it fulfils. -/
theorem completed_of_steps {i : RpcId} (hstep : Steps s label t)
    (hi : s.completions i ≠ none ∨ i ∈ s.fulfils label) : t.completions i ≠ none := by
  cases hstep with
  | @complete id result rest hengine =>
    show Function.update s.completions id (some result) i ≠ none
    rcases eq_or_ne i id with rfl | hne
    · simp
    · rw [Function.update_of_ne hne]
      refine hi.resolve_right fun hmem ↦ hne ?_
      simpa [fulfils, hengine, DrainPhase.ids] using hmem
  | _ => exact hi.resolve_right not_mem_nil

end AdminFlow

/-- The flow, and what has happened so far. -/
structure AdminEngine where
  flow : AdminFlow
  /-- Every engine call that an application made. -/
  calls : List EngineEvent
  /-- Every entry taken from the pending queue. -/
  taken : List RpcId
  /-- Every entry whose `completion.set_value` was called. -/
  fulfilled : List RpcId
  /-- Every audit event, with the call it was written for. -/
  audits : List (Option RpcId × AdminAuditEvent)
  /-- Every result a caller was given. -/
  decided : List (RpcId × AdminActionResult)
  /-- Every lease that `ExpireLeases` removed. -/
  expired : List AdminLease

/-- One atomic step: of the flow, or an application with what its call sites come back with. -/
inductive AdminEngineLabel where
  | flow (label : AdminLabel)
  | apply (env : EngineAnswers)

namespace AdminEngine

/-- Record a step of the flow to `flow`. -/
def follow (s : AdminEngine) (label : AdminLabel) (flow : AdminFlow) : AdminEngine :=
  { s with
    flow := flow
    taken := s.taken ++ s.flow.takes label
    fulfilled := s.fulfilled ++ s.flow.fulfils label
    audits := s.audits ++ s.flow.audited flow label
    decided := s.decided ++ flow.decides label
    expired := s.expired ++ s.flow.expires flow label }

/-- One step. -/
def step (s : AdminEngine) : AdminEngineLabel → Option AdminEngine
  | .flow label => if label.isApply then none else (s.flow.step label).map (s.follow label)
  | .apply env =>
    s.flow.applying?.bind fun rpc ↦
      let r := env.apply rpc.action.action
      (s.flow.step (.applyEntry r.1)).map fun flow ↦
        { s.follow (.applyEntry r.1) flow with calls := s.calls ++ r.2 }

/-- At start-up. -/
def create (settings : AdminSettings) : AdminEngine where
  flow := AdminFlow.create settings
  calls := []
  taken := []
  fulfilled := []
  audits := []
  decided := []
  expired := []

/-- The machine of the flow and its engine calls. -/
def machine (settings : AdminSettings) : StepMachine AdminEngine AdminEngineLabel where
  init := create settings
  step := step

variable {s t : AdminEngine} {label : AdminEngineLabel}

/-- A step, inverted: the step of the flow under it. -/
inductive Steps (s : AdminEngine) : AdminEngineLabel → AdminEngine → Prop
  | flow {label : AdminLabel} {flow : AdminFlow} (hlabel : label.isApply = false)
      (hflow : AdminFlow.Steps s.flow label flow) : Steps s (.flow label) (s.follow label flow)
  | apply {env : EngineAnswers} {rpc : Rpc} {flow : AdminFlow}
      (hrpc : s.flow.applying? = some rpc)
      (hflow : AdminFlow.Steps s.flow (.applyEntry (env.apply rpc.action.action).1) flow) :
    Steps s (.apply env)
      { s.follow (.applyEntry (env.apply rpc.action.action).1) flow with
        calls := s.calls ++ (env.apply rpc.action.action).2 }

/-- **One step, inverted.** -/
theorem steps_of_step (hstep : s.step label = some t) : Steps s label t := by
  cases label with
  | flow label =>
    simp only [step] at hstep
    split_ifs at hstep with hlabel
    obtain ⟨flow, hflow, rfl⟩ := Option.map_eq_some_iff.1 hstep
    exact .flow (Bool.eq_false_iff.2 hlabel) (AdminFlow.steps_of_step hflow)
  | apply env =>
    obtain ⟨rpc, hrpc, hstep⟩ := Option.bind_eq_some_iff.1 hstep
    obtain ⟨flow, hflow, rfl⟩ := Option.map_eq_some_iff.1 hstep
    exact .apply hrpc (AdminFlow.steps_of_step hflow)

end AdminEngine

/-! ### Which applications let an exception out -/

namespace EngineAnswers

variable (env : EngineAnswers)

/-- A call of `global_speed` throws: the autohost's, or one of the two Lua calls it comes to. -/
def SpeedThrows : Prop :=
  env.sendAutohostCommandDatagrams = .threw ∨
    env.sendAutohostCommandDatagrams = .returned false ∧ env.hasLua = true ∧
      (env.callUI = .threw ∨ env.callUI ≠ .returned "ok" ∧ env.callRules = .threw)

/-- A call of `resource_grant` outside its handler throws: the look-up of the resource, or a call of
the grant to another team. -/
def GrantThrows (teamId : ℤ) : Prop :=
  env.hasCallback = true ∧
    (env.getResourceByName = .threw ∨
      env.getResourceByName = .returned true ∧ teamId ≠ env.teamId ∧
        (env.getEconomy = .threw ∨ env.getEconomy = .returned true ∧ env.sendResource = .threw))

/-- A call that no handler guards throws. -/
def ArmThrows : AdminActionArm → Prop
  | .pause _ => env.hasGame = true ∧ env.setPause = .threw
  | .globalSpeed _ => env.SpeedThrows
  | .cheatPolicy _ => env.hasCheats = true ∧ env.setPolicy = .threw
  | .resourceGrant teamId _ _ => env.GrantThrows teamId
  | .unitTransfer unitId _ _ => env.teamUnitIsDead unitId = some false ∧ env.giveUnits = .threw
  | .unitSpawn .. | .lifecycle _ | .notSet => False

/-- The application lets an exception out. -/
def ThrowsOut (action : AdminActionArm) : Prop := env.hasCircuit = true ∧ env.ArmThrows action

instance : Decidable env.SpeedThrows := inferInstanceAs (Decidable (_ ∨ _))

instance (teamId : ℤ) : Decidable (env.GrantThrows teamId) := inferInstanceAs (Decidable (_ ∧ _))

instance : ∀ action, Decidable (env.ArmThrows action)
  | .pause _ | .cheatPolicy _ | .unitTransfer .. => inferInstanceAs (Decidable (_ ∧ _))
  | .globalSpeed _ => inferInstanceAs (Decidable env.SpeedThrows)
  | .resourceGrant teamId _ _ => inferInstanceAs (Decidable (env.GrantThrows teamId))
  | .unitSpawn .. | .lifecycle _ | .notSet => inferInstanceAs (Decidable False)

instance (action : AdminActionArm) : Decidable (env.ThrowsOut action) :=
  inferInstanceAs (Decidable (_ ∧ _))

/-- The program throws. -/
def Throws (program : Applying Bool) (s : CallState EngineEvent Bool) : Prop :=
  Calls.wp program (fun _ _ ↦ False) (fun _ ↦ True) s

/-- Nothing leaves the handler of a spawn or of a grant to the own team. -/
theorem not_throws_underCheats {α : Type} (effect : Applying α) (rest : α → Applying Bool)
    (s : CallState EngineEvent Bool) : ¬Throws (env.underCheats effect rest) s := by
  simp only [Throws, underCheats, Calls.wp_catchAll, Calls.wp_bind, Calls.wp_pure, Calls.wp_const,
    not_false_eq_true]

/-- When setting the speed throws. -/
theorem throws_applyGlobalSpeed (speed : FloatValue) :
    Throws (env.applyGlobalSpeed speed) ⟨false, []⟩ ↔ env.SpeedThrows := by
  simp only [Throws, applyGlobalSpeed, SpeedThrows, Calls.wp_bind]
  rcases env.sendAutohostCommandDatagrams with (- | -) | -
  · rcases env.hasLua with - | -
    · simp
    · rcases env.callUI with ui | -
      · rcases env.callRules with rules | -
        · simp
        · by_cases hui : ui = "ok"
          · simp [hui]
          · simp [hui]
      · simp
  · simp
  · simp

/-- When a grant throws. -/
theorem throws_applyResourceGrant (teamId resourceId : ℤ) (amount : FloatValue) :
    Throws (env.applyResourceGrant teamId resourceId amount) ⟨false, []⟩ ↔
      env.GrantThrows teamId := by
  rw [applyResourceGrant, GrantThrows]
  by_cases hcallback : env.hasCallback
  swap
  · simp [Throws, hcallback]
  rw [if_pos hcallback, Throws, Calls.wp_bind]
  rcases env.getResourceByName with (- | -) | -
  · simp
  · rw [Calls.wp_call_returned, if_pos rfl]
    by_cases hteam : teamId = env.teamId
    · rw [if_pos hteam, ← Throws]
      refine iff_of_false ?_ (by simp [hteam])
      rw [grantToOwnTeam]
      split_ifs
      · exact env.not_throws_underCheats _ _ _
      · exact id
    · rw [if_neg hteam]
      simp only [grantToTeam, Calls.wp_bind]
      rcases env.getEconomy with (- | -) | -
      · simp
      · rcases env.sendResource with - | -
        · simp
        · simp [hcallback, hteam]
      · simp [hcallback, hteam]
  · simp [hcallback]

/-- **Exactly the calls outside a handler let an exception out.** -/
theorem apply_threw_iff_throwsOut (action : AdminActionArm) :
    (env.apply action).1 = .threw ↔ env.ThrowsOut action := by
  rw [apply_threw_iff, applyAdminAction, ThrowsOut]
  by_cases hcircuit : env.hasCircuit
  swap
  · simp [hcircuit]
  rw [if_pos hcircuit, and_iff_right hcircuit]
  cases action with
  | notSet => exact Iff.rfl
  | lifecycle => exact Iff.rfl
  | pause =>
    simp only [applyArm, ArmThrows]
    split_ifs with hgame
    · rcases env.setPause with - | - <;> simp [hgame]
    · simp [hgame]
  | globalSpeed speed => exact env.throws_applyGlobalSpeed speed
  | cheatPolicy =>
    simp only [applyArm, ArmThrows]
    split_ifs with hcheats
    · rcases env.setPolicy with - | - <;> simp [hcheats]
    · simp [hcheats]
  | resourceGrant teamId resourceId amount =>
    exact env.throws_applyResourceGrant teamId resourceId amount
  | unitSpawn teamId unitDefId position =>
    refine iff_of_false ?_ id
    rw [applyArm, applyUnitSpawn]
    split_ifs
    · exact env.not_throws_underCheats _ _ _
    · exact id
  | unitTransfer unitId =>
    simp only [applyArm, applyUnitTransfer, ArmThrows]
    rcases env.teamUnitIsDead unitId with - | (- | -)
    · simp
    · rcases env.giveUnits with - | - <;> simp
    · simp

end EngineAnswers

namespace AdminEngine

variable {s t : AdminEngine} {label : AdminEngineLabel}

/-! ### Every drained action is answered -/

/-- Every entry taken so far has been answered, once and in order, or is still in the drain; and
what was answered is there for its worker. -/
structure AllAnswered (s : AdminEngine) : Prop where
  answered : s.taken = s.fulfilled ++ s.flow.engine.ids
  received : ∀ id ∈ s.fulfilled, s.flow.completions id ≠ none

/-- The condition on a step: the application it makes lets no exception out. -/
def AppliesCalmly (s : AdminEngine) : AdminEngineLabel → Prop
  | .flow _ => True
  | .apply env => ∀ rpc ∈ s.flow.applying?, ¬env.ThrowsOut rpc.action.action

instance (s : AdminEngine) : ∀ label, Decidable (s.AppliesCalmly label)
  | .flow _ => inferInstanceAs (Decidable True)
  | .apply env =>
    inferInstanceAs (Decidable (∀ rpc ∈ s.flow.applying?, ¬env.ThrowsOut rpc.action.action))

/-- Nothing is answered that was not taken, and no answer gets lost. -/
structure Owed (s : AdminEngine) : Prop where
  le : s.fulfilled.length + s.flow.engine.ids.length ≤ s.taken.length
  received : ∀ id ∈ s.fulfilled, s.flow.completions id ≠ none

/-- An exception leaves nothing in the drain, where there was an entry at least. -/
theorem ids_of_threw {flow : AdminFlow} (hflow : AdminFlow.Steps s.flow (.applyEntry .threw) flow) :
    flow.engine.ids = [] ∧ 0 < s.flow.engine.ids.length := by
  cases hflow with
  | threw hengine => exact ⟨rfl, by rw [hengine]; exact Nat.succ_pos _⟩

theorem owed_follow {label : AdminLabel} {flow : AdminFlow} (hs : s.Owed)
    (hflow : AdminFlow.Steps s.flow label flow) : (s.follow label flow).Owed where
  le := by
    have hle := hs.le
    simp only [follow, length_append]
    by_cases hno : label = .applyEntry .threw
    · subst hno
      rw [(ids_of_threw hflow).1]
      exact Nat.le_trans (Nat.le_add_right _ _) hle
    · have hids := congrArg List.length (AdminFlow.ids_of_steps hflow hno)
      simp only [length_append] at hids
      omega
  received := fun id hid ↦ by
    refine AdminFlow.completed_of_steps hflow ?_
    exact (mem_append.1 hid).imp_left (hs.received id)

/-- No step loses an answer or makes one up. -/
theorem owed_step (hs : s.Owed) (hstep : s.step label = some t) : t.Owed := by
  cases steps_of_step hstep with
  | flow _ hflow => exact owed_follow hs hflow
  | apply _ hflow => exact ⟨(owed_follow hs hflow).le, (owed_follow hs hflow).received⟩

/-- What a step that lets no exception out does to the entries. -/
theorem answered_follow_iff {label : AdminLabel} {flow : AdminFlow}
    (hflow : AdminFlow.Steps s.flow label flow) (hno : label ≠ .applyEntry .threw) :
    (s.follow label flow).taken = (s.follow label flow).fulfilled ++ flow.engine.ids ↔
      s.taken = s.fulfilled ++ s.flow.engine.ids := by
  show s.taken ++ s.flow.takes label = s.fulfilled ++ s.flow.fulfils label ++ flow.engine.ids ↔ _
  rw [append_assoc, ← AdminFlow.ids_of_steps hflow hno, ← append_assoc,
    append_left_inj]

/-- **One step**: the entries are accounted for exactly if they were and no exception got out. -/
theorem answered_step_iff (hs : s.Owed) (hstep : s.step label = some t) :
    t.taken = t.fulfilled ++ t.flow.engine.ids ↔
      s.taken = s.fulfilled ++ s.flow.engine.ids ∧ s.AppliesCalmly label := by
  cases steps_of_step hstep with
  | flow hlabel hflow =>
    refine (answered_follow_iff hflow ?_).trans (and_iff_left trivial).symm
    rintro rfl
    cases hlabel
  | @apply env rpc flow hrpc hflow =>
    have hcalmly : s.AppliesCalmly (.apply env) ↔ (env.apply rpc.action.action).1 ≠ .threw := by
      rw [ne_eq, env.apply_threw_iff_throwsOut]
      refine ⟨fun h ↦ h rpc hrpc, fun h rpc' hrpc' ↦ ?_⟩
      obtain rfl := Option.some.inj (hrpc.symm.trans hrpc')
      exact h
    rw [hcalmly]
    by_cases hthrew : (env.apply rpc.action.action).1 = .threw
    · rw [hthrew] at hflow ⊢
      refine iff_of_false (fun h ↦ ?_) fun h ↦ h.2 rfl
      obtain ⟨hnil, hpos⟩ := ids_of_threw hflow
      have hlength := congrArg List.length h
      have hle := hs.le
      simp only [follow, AdminFlow.takes, AdminFlow.fulfils, append_nil, hnil] at hlength
      omega
    · refine (answered_follow_iff hflow fun hc ↦ hthrew ?_).trans (and_iff_left hthrew).symm
      exact AdminLabel.applyEntry.inj hc

theorem owed_create (settings : AdminSettings) : (create settings).Owed :=
  ⟨Nat.le_refl 0, fun _ h ↦ absurd h not_mem_nil⟩

/-- **Every drained action is answered exactly once**, in a run of any interleaving, exactly if no
application in it lets an exception out. -/
theorem drained_answered_iff (settings : AdminSettings) (labels : List AdminEngineLabel)
    (hrun : (machine settings).exec (machine settings).init labels = some t) :
    t.AllAnswered ↔ (machine settings).Meets AppliesCalmly (machine settings).init labels := by
  have howed : t.Owed := StepMachine.invariant_of_exec (I := Owed)
    (fun _ _ _ hs h ↦ owed_step hs h) (owed_create settings) hrun
  have hiff : t.AllAnswered ↔ t.taken = t.fulfilled ++ t.flow.engine.ids :=
    ⟨AllAnswered.answered, fun h ↦ ⟨h, howed.received⟩⟩
  rw [hiff, StepMachine.invariant_iff_meets_of
    (I := fun s ↦ s.taken = s.fulfilled ++ s.flow.engine.ids) (J := Owed)
    (fun _ _ _ hs h ↦ owed_step hs h) (fun _ _ _ hs h ↦ answered_step_iff hs h)
    (owed_create settings) hrun]
  exact and_iff_right rfl

/-- A pause and a spawn are queued, and a tick takes both from the queue. -/
def pauseAndSpawnTaken : List AdminEngineLabel :=
  [.start 0 ⟨"a", .operator⟩ { action := .pause true }, .checkHealthy 0, .enqueue 0,
    .start 1 ⟨"b", .operator⟩ { action := .unitSpawn 0 42 ⟨.zero, .zero, .zero⟩ }, .checkHealthy 1,
    .enqueue 1, .beginTick, .expireLeases, .swapPending, .validateEntry].map .flow

/-- An engine in which everything works, but for the spawn, which throws. -/
def throwingSpawn : EngineAnswers where
  teamId := 0
  knowsDef := fun _ ↦ true
  teamUnitIsDead := fun _ ↦ none
  giveMeUnit := .threw

/-- The pause is applied and executed; the exception of the spawn stays in its handler. -/
def pauseAndSpawnAnswered : List AdminEngineLabel :=
  pauseAndSpawnTaken ++
    [.apply throwingSpawn, .flow .executeEntry, .flow .complete, .flow .validateEntry,
      .apply throwingSpawn, .flow .complete, .flow .endTick]

theorem drained_answered_iff_pauseAndSpawnAnswered :
    ∃ t, (machine {}).exec (machine {}).init pauseAndSpawnAnswered = some t ∧
      t.fulfilled = [0, 1] ∧ t.AllAnswered := by
  refine ⟨_, rfl, rfl, (drained_answered_iff {} pauseAndSpawnAnswered rfl).2 ?_⟩
  decide

/-- **An exception discards the rest of the batch**: `SetPause` throws, and neither call is ever
answered, the spawn although nothing was wrong with it. Both workers time out. -/
theorem exception_discards_batch :
    ∃ t, (machine {}).exec (machine {}).init (pauseAndSpawnTaken ++
        [.apply { throwingSpawn with setPause := .threw }, .flow (.timeOut 0),
          .flow (.timeOut 1)]) = some t ∧
      t.taken = [0, 1] ∧ t.fulfilled = [] ∧ t.flow.engine = .idle ∧
      (t.flow.rpcs 1).map (·.phase.answerStatus) = some (some .notDispatched) ∧
      ¬t.AllAnswered :=
  ⟨_, rfl, rfl, rfl, rfl, rfl, fun hc ↦ cons_ne_nil _ _ hc.answered⟩

end AdminEngine

end HighBar.Module
