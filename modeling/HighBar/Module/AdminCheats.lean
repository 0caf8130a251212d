import HighBar.Module.AdminEngine

/-!
# Cheats in a run mode that forbids them

With `cheats_allowed` off, no admin action should make the engine cheat: no `SetEnabled(true)`, no
`GiveMeUnit`, no `GiveMeResource`. The controller checks the run mode for `cheat_policy` only. A
`unit_spawn`, and a `resource_grant` to the own team, are checked for their values and then applied
**through the cheats**, which the application switches on by itself.

`no_cheats_iff`: a run stays free of cheats exactly when none of its applications is such a spawn or
grant that gets as far as the cheats. That the run mode does keep `cheat_policy` out is part of the
proof (`PolicyFree`): an entry is applied only after a validation with these very settings.
-/

namespace HighBar.Module

open Grpc Calls

/-- The calls that a run mode without cheats forbids. -/
def EngineEvent.isCheat : EngineEvent → Bool
  | .setEnabled enabled _ => enabled
  | .giveMeUnit .. | .giveMeResource .. => true
  | _ => false

namespace EngineAnswers

variable (env : EngineAnswers)

/-- `IsEnabled` answers, so that the next call is a cheat: `SetEnabled(true)`, or the effective call
itself. -/
def GetsToCheats : Prop := env.hasCheats = true ∧ env.isEnabled ≠ .threw

/-- A spawn or a grant to the own team that gets as far as the cheats. -/
def ReachesCheats : AdminActionArm → Prop
  | .unitSpawn _ unitDefId _ =>
    env.hasCircuit = true ∧ env.knowsDef unitDefId = true ∧ env.GetsToCheats
  | .resourceGrant teamId _ _ =>
    env.hasCircuit = true ∧ env.hasCallback = true ∧ env.getResourceByName = .returned true ∧
      teamId = env.teamId ∧ env.GetsToCheats
  | _ => False

instance : Decidable env.GetsToCheats := inferInstanceAs (Decidable (_ ∧ _))

instance : ∀ action, Decidable (env.ReachesCheats action)
  | .unitSpawn .. | .resourceGrant .. => inferInstanceAs (Decidable (_ ∧ _))
  | .notSet | .pause _ | .globalSpeed _ | .cheatPolicy _ | .lifecycle _ | .unitTransfer .. =>
    inferInstanceAs (Decidable False)

/-- A cheat has been called. -/
def Cheated (s : CallState EngineEvent Bool) : Prop := ∃ e ∈ s.log, e.isCheat = true

variable {s : CallState EngineEvent Bool}

theorem cheated_record {e : EngineEvent} :
    Cheated (s.record e) ↔ Cheated s ∨ e.isCheat = true := by
  simp [Cheated, CallState.record, or_and_right, exists_or]

/-- A call made after a cheat does not undo it. -/
theorem preserves_cheated_call {α : Type} (event : Outcome α → EngineEvent) (answer : Outcome α) :
    Preserves Cheated (call event answer : Applying α) :=
  preserves_call fun _ h ↦ cheated_record.2 (Or.inl h)

theorem preserves_cheated_restoreCheats (answer : Outcome Bool) :
    Preserves Cheated (restoreCheats answer) :=
  preserves_bind preserves_get fun _ ↦
    preserves_ite (preserves_bind (preserves_cheated_call _ _) fun _ ↦ preserves_pure _)
      (preserves_pure _)

theorem preserves_cheated_handOver (teamId unitId : ℤ) :
    Preserves Cheated (env.handOver teamId unitId) :=
  preserves_ite (preserves_pure _) (preserves_ite
    (preserves_bind (preserves_cheated_call _ _) fun _ ↦
      preserves_ite (preserves_bind (preserves_cheated_call _ _) fun _ ↦ preserves_pure _)
        (preserves_pure _))
    (preserves_pure _))

/-- The handler of `underCheats` makes no cheat of its own: it only switches them off. -/
theorem wp_cheated_handler (answer : Outcome Bool) :
    wp (do catchAll (restoreCheats answer) (pure ()); pure false) (fun _ t ↦ Cheated t) Cheated s ↔
      Cheated s := by
  rcases s with ⟨- | -, log⟩
  · simp [restoreCheats, SwitchedFlag.switchBack]
  · rcases answer with value | -
    · simp [restoreCheats, SwitchedFlag.switchBack, cheated_record, EngineEvent.isCheat]
    · simp [restoreCheats, SwitchedFlag.switchBack, cheated_record, EngineEvent.isCheat]

/-- **Whoever gets to the cheats uses them**: an `effect` that is a cheat is made under cheats, and
so `underCheats` cheats exactly if `IsEnabled` answers. -/
theorem wp_cheated_underCheats {α : Type} {effect : Applying α} {rest : α → Applying Bool}
    (hs : ¬Cheated s) (heffect : ∀ t, wp effect (fun _ u ↦ Cheated u) Cheated t)
    (hrest : ∀ value, Preserves Cheated (rest value)) :
    wp (env.underCheats effect rest) (fun _ t ↦ Cheated t) Cheated s ↔ env.isEnabled ≠ .threw := by
  have htail : ∀ value, Preserves Cheated (do restoreCheats env.restore; rest value) := fun value ↦
    preserves_bind (preserves_cheated_restoreCheats _) fun _ ↦ hrest value
  have heffective : ∀ t, wp (do let value ← effect; restoreCheats env.restore; rest value)
      (fun _ u ↦ Cheated u) Cheated t := by
    intro t
    rw [wp_bind]
    exact wp_mono (fun value u hu ↦ htail value u hu) (fun _ hu ↦ hu) (heffect t)
  rw [underCheats, wp_catchAll]
  simp only [wp_cheated_handler]
  simp only [enableCheats, SwitchedFlag.switchOn, wp_bind]
  rcases env.isEnabled with (- | -) | -
  · refine iff_of_true ?_ (Outcome.returned_ne_threw _)
    have hon : ∀ outcome u, Cheated (CallState.record (CallState.record s u)
        (.setEnabled true outcome)) := fun _ _ ↦ cheated_record.2 (Or.inr rfl)
    rcases env.enable with (- | -) | -
    · simpa using hon _ _
    · simpa using heffective _
    · simpa using hon _ _
  · refine iff_of_true ?_ (Outcome.returned_ne_threw _)
    simpa using heffective _
  · refine iff_of_false ?_ fun h ↦ h rfl
    simpa [cheated_record, EngineEvent.isCheat] using hs

/-- A call that is no cheat. -/
theorem preserves_not_cheated_call {α : Type} {event : Outcome α → EngineEvent} {answer : Outcome α}
    (hevent : (event answer).isCheat = false) :
    Preserves (fun s ↦ ¬Cheated s) (call event answer : Applying α) :=
  preserves_call fun _ hs hc ↦ (cheated_record.1 hc).elim hs fun h ↦
    Bool.false_ne_true (hevent.symm.trans h)

/-- A program without cheats does not cheat. -/
theorem not_cheated_of_preserves {program : Applying Bool}
    (h : Preserves (fun s ↦ ¬Cheated s) program) (hs : ¬Cheated s) :
    ¬wp program (fun _ t ↦ Cheated t) Cheated s :=
  wp_not.1 (h s hs)

theorem not_cheated_nil {restoreDisabled : Bool} : ¬Cheated ⟨restoreDisabled, []⟩ :=
  fun ⟨_, h, _⟩ ↦ absurd h List.not_mem_nil

/-- The speed is set without cheats. -/
theorem preserves_not_cheated_applyGlobalSpeed (speed : FloatValue) :
    Preserves (fun s ↦ ¬Cheated s) (env.applyGlobalSpeed speed) :=
  preserves_bind (preserves_not_cheated_call rfl) fun _ ↦
    preserves_ite (preserves_pure _) (preserves_ite
      (preserves_bind (preserves_not_cheated_call rfl) fun _ ↦
        preserves_ite (preserves_pure _)
          (preserves_bind (preserves_not_cheated_call rfl) fun _ ↦ preserves_pure _))
      (preserves_pure _))

/-- A resource is sent to another team without cheats. -/
theorem preserves_not_cheated_grantToTeam (name : String) (amount : FloatValue) (teamId : ℤ) :
    Preserves (fun s ↦ ¬Cheated s) (env.grantToTeam name amount teamId) :=
  preserves_bind (preserves_not_cheated_call rfl) fun _ ↦
    preserves_ite (preserves_bind (preserves_not_cheated_call rfl) fun _ ↦ preserves_pure _)
      (preserves_pure _)

/-- A grant to the own team. -/
theorem wp_cheated_grantToOwnTeam (hs : ¬Cheated s) (name : String) (amount : FloatValue) :
    wp (env.grantToOwnTeam name amount) (fun _ t ↦ Cheated t) Cheated s ↔ env.GetsToCheats := by
  rw [grantToOwnTeam, GetsToCheats]
  split_ifs with hcheats
  · rw [env.wp_cheated_underCheats hs ?_ fun _ ↦ preserves_pure _, and_iff_right hcheats]
    intro t
    rcases env.giveMeResource with - | - <;> exact cheated_record.2 (Or.inr rfl)
  · exact iff_of_false hs fun hc ↦ hcheats hc.1

/-- When a grant comes to cheat. -/
theorem wp_cheated_applyResourceGrant (teamId resourceId : ℤ) (amount : FloatValue) :
    wp (env.applyResourceGrant teamId resourceId amount) (fun _ t ↦ Cheated t) Cheated
        ⟨false, []⟩ ↔
      env.hasCallback = true ∧ env.getResourceByName = .returned true ∧ teamId = env.teamId ∧
        env.GetsToCheats := by
  rw [applyResourceGrant]
  by_cases hcallback : env.hasCallback
  swap
  · rw [if_neg hcallback]
    exact iff_of_false not_cheated_nil fun hc ↦ hcallback hc.1
  rw [if_pos hcallback, wp_bind]
  have hclean : ∀ outcome, ¬Cheated (CallState.record ⟨false, []⟩
      (.getResourceByName (resourceName resourceId) outcome)) := fun outcome hc ↦
    (cheated_record.1 hc).elim not_cheated_nil Bool.false_ne_true
  rcases env.getResourceByName with (- | -) | -
  · exact iff_of_false (hclean _) fun hc ↦ absurd (Outcome.returned.inj hc.2.1) Bool.false_ne_true
  · rw [wp_call_returned, if_pos rfl]
    split_ifs with hteam
    · rw [env.wp_cheated_grantToOwnTeam (hclean _)]
      exact ⟨fun h ↦ ⟨hcallback, rfl, hteam, h⟩, fun h ↦ h.2.2.2⟩
    · exact iff_of_false (not_cheated_of_preserves
        (env.preserves_not_cheated_grantToTeam _ amount teamId) (hclean _)) fun hc ↦ hteam hc.2.2.1
  · exact iff_of_false (hclean _) fun hc ↦ absurd hc.2.1.symm (Outcome.returned_ne_threw _)

/-- When a spawn comes to cheat. -/
theorem wp_cheated_applyUnitSpawn (teamId unitDefId : ℤ) (position : Vector3) :
    wp (env.applyUnitSpawn teamId unitDefId position) (fun _ t ↦ Cheated t) Cheated ⟨false, []⟩ ↔
      env.knowsDef unitDefId = true ∧ env.GetsToCheats := by
  rw [applyUnitSpawn, GetsToCheats]
  split_ifs with h
  · rw [Bool.and_eq_true] at h
    rw [env.wp_cheated_underCheats not_cheated_nil ?_ (env.preserves_cheated_handOver teamId)]
    · exact ⟨fun hen ↦ ⟨h.2, h.1, hen⟩, fun hc ↦ hc.2.2⟩
    intro t
    rcases env.giveMeUnit with unitId | - <;> exact cheated_record.2 (Or.inr rfl)
  · refine iff_of_false not_cheated_nil fun hc ↦ h ?_
    rw [Bool.and_eq_true]
    exact ⟨hc.2.1, hc.1⟩

/-- **Which applications cheat**, a cheat policy apart: the spawns and the grants to the own team
that get as far as the cheats. -/
theorem apply_cheats_iff {action : AdminActionArm}
    (haction : ∀ enabled, action ≠ .cheatPolicy enabled) :
    (∃ e ∈ (env.apply action).2, e.isCheat = true) ↔ env.ReachesCheats action := by
  rw [env.apply_calls_iff action fun log ↦ ∃ e ∈ log, e.isCheat = true, applyAdminAction]
  show wp _ (fun _ t ↦ Cheated t) Cheated _ ↔ _
  by_cases hcircuit : env.hasCircuit
  swap
  · rw [if_neg hcircuit]
    refine iff_of_false not_cheated_nil fun hc ↦ ?_
    cases action with
    | unitSpawn | resourceGrant => exact hcircuit hc.1
    | _ => exact hc
  rw [if_pos hcircuit]
  cases action with
  | notSet | lifecycle => exact iff_of_false not_cheated_nil id
  | cheatPolicy enabled => exact absurd rfl (haction enabled)
  | pause =>
    refine iff_of_false (not_cheated_of_preserves ?_ not_cheated_nil) id
    exact preserves_ite (preserves_bind (preserves_not_cheated_call rfl) fun _ ↦ preserves_pure _)
      (preserves_pure _)
  | globalSpeed speed =>
    exact iff_of_false (not_cheated_of_preserves
      (env.preserves_not_cheated_applyGlobalSpeed speed) not_cheated_nil) id
  | unitTransfer unitId =>
    refine iff_of_false (not_cheated_of_preserves ?_ not_cheated_nil) id
    rw [applyArm, applyUnitTransfer]
    split
    · exact preserves_bind (preserves_not_cheated_call rfl) fun _ ↦ preserves_pure _
    · exact preserves_pure _
    · exact preserves_pure _
  | resourceGrant teamId resourceId amount =>
    rw [applyArm, env.wp_cheated_applyResourceGrant]
    exact (and_iff_right hcircuit).symm
  | unitSpawn teamId unitDefId position =>
    rw [applyArm, env.wp_cheated_applyUnitSpawn]
    exact (and_iff_right hcircuit).symm

end EngineAnswers

/-! ### The run mode keeps the cheat policy out -/

namespace AdminFlow

variable {settings : AdminSettings} {s t : AdminFlow} {label : AdminLabel} {id : RpcId} {rpc : Rpc}

/-- The settings are these, and the action about to be applied is not a cheat policy. -/
structure PolicyFree (settings : AdminSettings) (s : AdminFlow) : Prop where
  settings_eq : s.controller.settings = settings
  applying : ∀ id result rest, s.engine = .applying id result rest →
    ∃ rpc, s.rpcs id = some rpc ∧ controlName rpc.action ≠ .cheatPolicy

/-- A validation under a run mode without cheats accepts no cheat policy. -/
theorem controlName_ne_of_validate (hsettings : s.controller.settings.cheatsAllowed = false)
    (hvalid : (s.validate rpc).status = .accepted) : controlName rpc.action ≠ .cheatPolicy := by
  have hnone : s.controller.rejection rpc.caller rpc.action s.frame = none :=
    AdminController.validate_accepted_iff.1 hvalid
  rw [AdminController.rejection, standingRejection, Option.or_eq_none_iff,
    Option.or_eq_none_iff] at hnone
  have haccess := hnone.1.1
  rw [accessRejection] at haccess
  split_ifs at haccess with _ _ hpolicy
  intro hc
  exact hpolicy ⟨hc, by rw [hsettings]; rfl⟩

/-- Where cheats are not allowed, no cheat policy comes to be applied. -/
theorem policyFree_steps (hcheats : settings.cheatsAllowed = false) (hs : s.PolicyFree settings)
    (hstep : Steps s label t) : t.PolicyFree settings := by
  -- the calls keep their actions, so only the place of the engine thread matters
  have hsame : t.engine = s.engine → t.controller.settings = s.controller.settings →
      t.PolicyFree settings := by
    intro hengine hsettings
    refine ⟨hsettings.trans hs.settings_eq, fun id result rest h ↦ ?_⟩
    obtain ⟨rpc, hrpc, hcontrol⟩ := hs.applying id result rest (hengine.symm.trans h)
    obtain ⟨rpc', hrpc', -, haction⟩ := rpc_of_steps hstep hrpc
    exact ⟨rpc', hrpc', by rw [haction]; exact hcontrol⟩
  have helsewhere : t.controller.settings = s.controller.settings →
      (∀ id result rest, t.engine ≠ .applying id result rest) → t.PolicyFree settings :=
    fun hsettings hengine ↦ ⟨hsettings.trans hs.settings_eq,
      fun id result rest h ↦ absurd h (hengine id result rest)⟩
  cases hstep with
  | startAccepted | startRejected | checkHealthy | unavailable | enqueue | timeOut | receive
  | advance | disable => exact hsame rfl rfl
  | executeRejected => exact hsame rfl (AdminController.settings_execute ..)
  | validateAccepted hengine hrpc hvalid =>
    refine ⟨hs.settings_eq, fun i result rest hi ↦ ?_⟩
    obtain ⟨rfl, -, -⟩ := DrainPhase.applying.inj hi
    exact ⟨_, hrpc, controlName_ne_of_validate (by rw [hs.settings_eq]; exact hcheats) hvalid⟩
  | executeEntry =>
    exact helsewhere (AdminController.settings_execute ..) fun _ _ _ h ↦ DrainPhase.noConfusion h
  | beginTick | expireLeases | swapPending | validateRejected | applied | refused | threw | complete
  | endTick => exact helsewhere rfl fun _ _ _ h ↦ DrainPhase.noConfusion h

/-- The action about to be applied is not a cheat policy. -/
theorem PolicyFree.ne_cheatPolicy (hs : s.PolicyFree settings) (hrpc : s.applying? = some rpc)
    (enabled : Bool) : rpc.action.action ≠ .cheatPolicy enabled := by
  intro hc
  rw [applying?] at hrpc
  split at hrpc
  · rename_i id result rest hengine
    obtain ⟨p, hp, hcontrol⟩ := hs.applying id result rest hengine
    obtain rfl := Option.some.inj (hrpc.symm.trans hp)
    exact hcontrol (by rw [controlName, hc])
  · cases hrpc

end AdminFlow

/-! ### Runs without cheats -/

namespace AdminEngine

variable {settings : AdminSettings} {s t : AdminEngine} {label : AdminEngineLabel}

/-- No cheat has been called. -/
def NoCheats (s : AdminEngine) : Prop := ∀ e ∈ s.calls, e.isCheat = false

/-- The condition on a step: it applies no spawn, and no grant to the own team, that gets as far as
the cheats. -/
def KeepsOffCheats (s : AdminEngine) : AdminEngineLabel → Prop
  | .flow _ => True
  | .apply env => ∀ rpc ∈ s.flow.applying?, ¬env.ReachesCheats rpc.action.action

instance (s : AdminEngine) : ∀ label, Decidable (s.KeepsOffCheats label)
  | .flow _ => inferInstanceAs (Decidable True)
  | .apply env =>
    inferInstanceAs (Decidable (∀ rpc ∈ s.flow.applying?, ¬env.ReachesCheats rpc.action.action))

theorem policyFree_step (hcheats : settings.cheatsAllowed = false)
    (hs : s.flow.PolicyFree settings) (hstep : s.step label = some t) :
    t.flow.PolicyFree settings := by
  cases steps_of_step hstep with
  | flow _ hflow | apply _ hflow => exact AdminFlow.policyFree_steps hcheats hs hflow

/-- **One step**: no cheat has been called exactly if none was and the step keeps off them. -/
theorem noCheats_step_iff (hs : s.flow.PolicyFree settings) (hstep : s.step label = some t) :
    t.NoCheats ↔ s.NoCheats ∧ s.KeepsOffCheats label := by
  cases steps_of_step hstep with
  | flow => exact (and_iff_left trivial).symm
  | @apply env rpc flow hrpc =>
    have happly : (∀ e ∈ (env.apply rpc.action.action).2, e.isCheat = false) ↔
        ¬env.ReachesCheats rpc.action.action := by
      rw [← env.apply_cheats_iff (hs.ne_cheatPolicy hrpc)]
      simp
    show (∀ e ∈ s.calls ++ (env.apply rpc.action.action).2, e.isCheat = false) ↔ _
    rw [List.forall_mem_append, happly]
    refine and_congr_right fun _ ↦ ⟨fun h rpc' hrpc' ↦ ?_, fun h ↦ h rpc hrpc⟩
    obtain rfl := Option.some.inj (hrpc.symm.trans hrpc')
    exact h

theorem policyFree_create (settings : AdminSettings) : (create settings).flow.PolicyFree settings :=
  ⟨rfl, fun _ _ _ h ↦ DrainPhase.noConfusion h⟩

/-- **A run mode without cheats**: in a run of any interleaving no cheat is called exactly if every
application in it keeps off the cheats. -/
theorem no_cheats_iff (settings : AdminSettings) (hcheats : settings.cheatsAllowed = false)
    (labels : List AdminEngineLabel)
    (hrun : (machine settings).exec (machine settings).init labels = some t) :
    t.NoCheats ↔ (machine settings).Meets KeepsOffCheats (machine settings).init labels := by
  rw [StepMachine.invariant_iff_meets_of (I := NoCheats)
    (J := fun s ↦ s.flow.PolicyFree settings) (fun _ _ _ hs h ↦ policyFree_step hcheats hs h)
    (fun _ _ _ hs h ↦ noCheats_step_iff hs h) (policyFree_create settings) hrun]
  exact and_iff_right fun _ h ↦ absurd h List.not_mem_nil

/-- An engine of team 0 in which everything works. -/
def obligingEngine : EngineAnswers where
  teamId := 0
  knowsDef := fun _ ↦ true
  teamUnitIsDead := fun _ ↦ none
  giveMeUnit := .returned 7

/-- One call asks for an action, and the next tick takes it from the queue and validates it. -/
def takenByTick (id : RpcId) (action : AdminActionArm) : List AdminEngineLabel :=
  [.start id ⟨"a", .operator⟩ { action := action }, .checkHealthy id, .enqueue id, .beginTick,
    .expireLeases, .swapPending, .validateEntry].map .flow

/-- A cheat policy is turned away on the worker, and a grant to team 1 is applied. -/
def policyAndGrant : List AdminEngineLabel :=
  [.flow (.start 0 ⟨"a", .operator⟩ { action := .cheatPolicy true }), .flow (.executeRejected 0)] ++
    takenByTick 1 (.resourceGrant 1 0 (.finite 100)) ++ [.apply obligingEngine]

theorem no_cheats_iff_policyAndGrant :
    ∃ t, (machine {}).exec (machine {}).init policyAndGrant = some t ∧
      .sendResource "Metal" (.finite 100) 1 (.returned ()) ∈ t.calls ∧ t.NoCheats := by
  refine ⟨_, rfl, by decide, (no_cheats_iff {} rfl policyAndGrant rfl).2 ?_⟩
  decide

/-- **A spawn cheats in a run mode without cheats**: it is validated, queued and applied, and the
application switches the cheats on and has a unit given. -/
theorem spawn_cheats :
    ∃ t, (machine {}).exec (machine {}).init
        (takenByTick 0 (.unitSpawn 0 42 ⟨.zero, .zero, .zero⟩) ++ [.apply obligingEngine]) =
          some t ∧
      .setEnabled true (.returned true) ∈ t.calls ∧
      .giveMeUnit 42 ⟨.zero, .zero, .zero⟩ (.returned 7) ∈ t.calls ∧ ¬t.NoCheats := by
  refine ⟨_, rfl, by decide, by decide, fun hc ↦ ?_⟩
  exact Bool.noConfusion (hc (.setEnabled true (.returned true)) (by decide))

end AdminEngine

end HighBar.Module
