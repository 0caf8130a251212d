import HighBar.Grpc.DispatchCommand
import HighBar.Module.AdminEngine

/-!
# Cheats are put back

Six places of the gateway switch the engine's cheats on for the time of one call: four arms of
`DispatchCommand`, by a scope whose destructor switches them off again, and two arms of
`ApplyAdminAction`, by hand. Cheats are a flag of the engine: `IsEnabled` reports it and
`SetEnabled` sets it.

`cheats_restored`: whatever fails or throws in between, the flag is **as it was before**, after
every dispatch and every application but that of a cheat policy, which is there to set it. The
argument is that of `SwitchedFlag`: an arm keeps `Armed` while cheats may be on, its destructor or
handler makes it `Restored`, and all other calls are none of the flag's business.
-/

namespace HighBar

open Calls SwitchedFlag

namespace Grpc

/-- The calls of a dispatch about the cheats. -/
def DispatchEvent.flagCall? : DispatchEvent → Option FlagCall
  | .isEnabled outcome => some (.query outcome)
  | .setEnabled enabled outcome => some (.set enabled outcome)
  | .engine .. | .getFigure _ | .getEconomy _ | .getResourceByName .. | .giveMeUnit ..
  | .logError .. => none

theorem DispatchEvent.flagCall?_isEnabled (outcome : Outcome Bool) :
    DispatchEvent.flagCall? (.isEnabled outcome) = some (.query outcome) := rfl

theorem DispatchEvent.flagCall?_setEnabled (enabled : Bool) (outcome : Outcome Bool) :
    DispatchEvent.flagCall? (.setEnabled enabled outcome) = some (.set enabled outcome) := rfl

namespace DispatchAnswers

variable (env : DispatchAnswers)

/-! ### The arms without cheats -/

theorem neutral_fail (message : String) : Neutral DispatchEvent.flagCall? (env.fail message) :=
  neutral_bind (neutral_call rfl) fun _ ↦ neutral_pure _

theorem neutral_failCaught (message : String) :
    Neutral DispatchEvent.flagCall? (env.failCaught message) :=
  neutral_bind (neutral_call rfl) fun _ ↦ neutral_pure _

theorem neutral_engineCall (action : EngineCall) :
    Neutral DispatchEvent.flagCall? (env.engineCall action) :=
  neutral_bind (neutral_call rfl) fun _ ↦ neutral_pure _

theorem neutral_through (present : Bool) (action : EngineCall) :
    Neutral DispatchEvent.flagCall? (env.through present action) :=
  neutral_ite (env.neutral_engineCall action) (neutral_pure _)

theorem neutral_throughFigure (action : EngineCall) :
    Neutral DispatchEvent.flagCall? (env.throughFigure action) :=
  neutral_ite
    (neutral_bind (neutral_call rfl) fun _ ↦
      neutral_ite (env.neutral_engineCall action) (neutral_pure _))
    (neutral_pure _)

variable (commandName : String)

theorem neutral_guarded (action : EngineCall) :
    Neutral DispatchEvent.flagCall? (env.guarded commandName action) :=
  neutral_catchAll (env.neutral_engineCall action) (env.neutral_failCaught _)

theorem neutral_buildUnit (defId : ℤ) (position : Vector3) (facing options timeout : ℤ) :
    Neutral DispatchEvent.flagCall? (env.buildUnit defId position facing options timeout) := by
  refine neutral_ite (env.neutral_fail _) ?_
  rcases env.circuitDef defId with - | -
  · exact env.neutral_fail _
  · exact env.neutral_engineCall _

theorem neutral_custom (commandId : ℤ) (params : List FloatValue) (options timeout : ℤ) :
    Neutral DispatchEvent.flagCall? (env.custom commandId params options timeout) := by
  refine neutral_ite ?_ (neutral_pure _)
  rcases customError commandId params.length with - | message
  · exact env.neutral_engineCall _
  · exact env.neutral_fail message

theorem neutral_sendResources (resourceId : ℤ) (amount : FloatValue) (receivingTeamId : ℤ) :
    Neutral DispatchEvent.flagCall? (env.sendResources resourceId amount receivingTeamId) := by
  refine neutral_ite (neutral_bind (neutral_call rfl) fun _ ↦ neutral_ite ?_ (neutral_pure _))
    (neutral_pure _)
  exact neutral_bind (neutral_call rfl) fun _ ↦
    neutral_ite (env.neutral_engineCall _) (neutral_pure _)

theorem neutral_drawUnit (unitDefId : ℤ) (action : EngineCall) :
    Neutral DispatchEvent.flagCall? (env.drawUnit unitDefId action) := by
  refine neutral_ite ?_ (neutral_pure _)
  rcases env.circuitDef unitDefId with - | (- | -)
  · exact neutral_pure _
  · exact neutral_pure _
  · exact env.neutral_engineCall action

/-! ### The arms inside a scope -/

theorem neutral_giveMeNewUnit (unitDefId : ℤ) (position : Vector3) :
    Neutral DispatchEvent.flagCall? (env.giveMeNewUnit unitDefId position) := by
  refine neutral_ite (env.neutral_fail _) ?_
  rcases env.circuitDef unitDefId with - | (- | -)
  · exact neutral_pure _
  · exact neutral_pure _
  · refine neutral_catchAll (neutral_bind (neutral_call rfl) fun _ ↦ ?_) (env.neutral_failCaught _)
    exact neutral_ite (env.neutral_fail _) (neutral_pure _)

theorem neutral_giveMe (resourceId : ℤ) (amount : FloatValue) :
    Neutral DispatchEvent.flagCall? (env.giveMe resourceId amount) := by
  refine neutral_ite (env.neutral_fail _) (neutral_ite ?_ (neutral_pure _))
  exact neutral_bind (neutral_call rfl) fun _ ↦
    neutral_ite (env.neutral_guarded _ _) (neutral_pure _)

/-- `EnsureActive` keeps track of what it has switched on, and its handlers only log. -/
theorem wp_ensureActive {flag : Bool} {s : CallState DispatchEvent Bool}
    (hs : Armed DispatchEvent.flagCall? flag s) (hlocals : s.locals = false) :
    wp (env.ensureActive commandName) (fun _ t ↦ Armed DispatchEvent.flagCall? flag t)
      (Armed DispatchEvent.flagCall? flag) s := by
  have hlog : ∀ (message : String) (answer : Outcome Unit), Neutral DispatchEvent.flagCall?
      (do call (.logError message) answer; pure false : Dispatching Bool) := fun _ _ ↦
    neutral_bind (neutral_call rfl) fun _ ↦ neutral_pure _
  rw [ensureActive]
  split_ifs
  swap
  · exact hs
  rw [wp_catchAll, wp_bind]
  refine wp_mono (fun active t ht ↦ ?_) (fun t ht ↦ (hlog _ _).armed flag t ht)
    (wp_switchOn DispatchEvent.flagCall?_isEnabled DispatchEvent.flagCall?_setEnabled env.isEnabled
      env.enable hs hlocals)
  rcases active with - | -
  · exact wp_mono (fun _ _ h ↦ h) (fun u hu ↦ (hlog _ _).armed flag u hu)
      ((hlog _ _).armed flag t ht.1)
  · exact ht.1

/-- The destructor puts the flag back; what it logs does not matter. -/
theorem wp_restoreScope {flag : Bool} {s : CallState DispatchEvent Bool}
    (hs : Armed DispatchEvent.flagCall? flag s) :
    wp (env.restoreScope commandName) (fun _ t ↦ Restored DispatchEvent.flagCall? flag t)
      (Restored DispatchEvent.flagCall? flag) s := by
  rw [restoreScope, wp_catchAll]
  refine wp_mono (fun _ _ h ↦ h) (fun t ht ↦ ?_)
    (wp_switchBack DispatchEvent.flagCall?_setEnabled env.restore (Or.inl hs))
  exact (neutral_call rfl).restored flag t ht

/-- **A scope puts the flag back** on every exit of the arm inside it. -/
theorem putsBack_underScope {body : Dispatching Bool}
    (hbody : Neutral DispatchEvent.flagCall? body) :
    PutsBack DispatchEvent.flagCall? (env.underScope commandName body) := by
  refine putsBack_ite ?_ (neutral_pure _).putsBack
  intro flag s hs hlocals
  rw [wp_always]
  refine wp_mono (fun _ t ht ↦ env.wp_restoreScope commandName ht)
    (fun t ht ↦ env.wp_restoreScope commandName ht) ?_
  rw [wp_bind]
  refine wp_mono (fun active t ht ↦ ?_) (fun _ ht ↦ ht) (env.wp_ensureActive commandName hs hlocals)
  exact (neutral_ite hbody (neutral_pure _)).armed flag t ht

/-- **Every arm puts the flag back.** -/
theorem putsBack_dispatchArm (cmd : AICommand) :
    PutsBack DispatchEvent.flagCall? (env.dispatchArm cmd) := by
  cases cmd with
  | moveUnit | patrol | fight | attackArea | stop | wait | reclaimInArea | resurrectInArea
  | selfDestruct | setWantedMaxSpeed | setFireState | setMoveState =>
    exact (env.neutral_engineCall _).putsBack
  | buildUnit => exact (env.neutral_buildUnit ..).putsBack
  | custom => exact (env.neutral_custom ..).putsBack
  | createSplineFigure | createLineFigure | setFigureColor | removeFigure =>
    exact (env.neutral_throughFigure _).putsBack
  | setFigurePosition => exact (neutral_pure _).putsBack
  | drawUnit => exact (env.neutral_drawUnit ..).putsBack
  | sendResources => exact (env.neutral_sendResources ..).putsBack
  | notSet => exact (env.neutral_fail _).putsBack
  | setMyIncomeShareDirect | setShareLevel =>
    exact env.putsBack_underScope _ (env.neutral_guarded ..)
  | giveMeNewUnit => exact env.putsBack_underScope _ (env.neutral_giveMeNewUnit ..)
  | giveMe => exact env.putsBack_underScope _ (env.neutral_giveMe ..)
  | _ => exact (env.neutral_through ..).putsBack

/-- **A dispatch puts the flag back.** -/
theorem putsBack_dispatchCommand (cmd : AICommand) :
    PutsBack DispatchEvent.flagCall? (env.dispatchCommand cmd) :=
  putsBack_ite (env.putsBack_dispatchArm cmd) (neutral_pure _).putsBack

end DispatchAnswers

end Grpc

namespace Module

open Grpc

/-- The calls of an application about the cheats. -/
def EngineEvent.flagCall? : EngineEvent → Option FlagCall
  | .isEnabled outcome => some (.query outcome)
  | .setEnabled enabled outcome => some (.set enabled outcome)
  | .setPause .. | .sendAutohostCommandDatagrams .. | .callUI .. | .callRules ..
  | .getResourceByName .. | .giveMeResource .. | .getEconomy _ | .sendResource .. | .giveMeUnit ..
  | .getOrRegTeamUnit .. | .giveUnits .. => none

theorem EngineEvent.flagCall?_isEnabled (outcome : Outcome Bool) :
    EngineEvent.flagCall? (.isEnabled outcome) = some (.query outcome) := rfl

theorem EngineEvent.flagCall?_setEnabled (enabled : Bool) (outcome : Outcome Bool) :
    EngineEvent.flagCall? (.setEnabled enabled outcome) = some (.set enabled outcome) := rfl

namespace EngineAnswers

variable (env : EngineAnswers)

/-- **A spawn and a grant put the flag back**, before the rest of the arm or in the handler. -/
theorem putsBack_underCheats {α : Type} {effect : Applying α} {rest : α → Applying Bool}
    (heffect : Neutral EngineEvent.flagCall? effect)
    (hrest : ∀ value, Neutral EngineEvent.flagCall? (rest value)) :
    PutsBack EngineEvent.flagCall? (env.underCheats effect rest) := by
  intro flag s hs hlocals
  -- an exception before or after the flag is put back ends in the handler
  have hhandler : ∀ t, Armed EngineEvent.flagCall? flag t ∨ Restored EngineEvent.flagCall? flag t →
      wp (do catchAll (restoreCheats env.restoreInHandler) (pure ()); pure false : Applying Bool)
        (fun _ u ↦ Restored EngineEvent.flagCall? flag u) (Restored EngineEvent.flagCall? flag)
        t := by
    intro t ht
    rw [wp_bind, wp_catchAll]
    exact wp_switchBack EngineEvent.flagCall?_setEnabled env.restoreInHandler ht
  have htail : ∀ value t, Armed EngineEvent.flagCall? flag t →
      wp (do restoreCheats env.restore; rest value)
        (fun _ u ↦ Restored EngineEvent.flagCall? flag u) (Restored EngineEvent.flagCall? flag)
        t := by
    intro value t ht
    rw [wp_bind]
    exact wp_mono (fun _ u hu ↦ (hrest value).restored flag u hu) (fun _ hu ↦ hu)
      (wp_switchBack EngineEvent.flagCall?_setEnabled env.restore (Or.inl ht))
  rw [underCheats, wp_catchAll]
  refine wp_mono (fun _ _ h ↦ h) (fun t ht ↦ hhandler t ht) ?_
  rw [wp_bind]
  refine wp_mono (fun enabled t ht ↦ ?_) (fun _ ht ↦ Or.inl ht)
    (wp_switchOn EngineEvent.flagCall?_isEnabled EngineEvent.flagCall?_setEnabled env.isEnabled
      env.enable hs hlocals)
  rcases enabled with - | -
  · exact ht.1.restored (ht.2 rfl)
  · rw [if_pos rfl, wp_bind]
    refine wp_mono (fun value u hu ↦ ?_) (fun _ hu ↦ Or.inl hu) (heffect.armed flag t ht.1)
    exact wp_mono (fun _ _ h ↦ h) (fun _ h ↦ Or.inr h) (htail value u hu)

theorem neutral_applyGlobalSpeed (speed : FloatValue) :
    Neutral EngineEvent.flagCall? (env.applyGlobalSpeed speed) := by
  refine neutral_bind (neutral_call rfl) fun _ ↦ neutral_ite (neutral_pure _)
    (neutral_ite (neutral_bind (neutral_call rfl) fun _ ↦ ?_) (neutral_pure _))
  exact neutral_ite (neutral_pure _) (neutral_bind (neutral_call rfl) fun _ ↦ neutral_pure _)

theorem neutral_grantToTeam (name : String) (amount : FloatValue) (teamId : ℤ) :
    Neutral EngineEvent.flagCall? (env.grantToTeam name amount teamId) :=
  neutral_bind (neutral_call rfl) fun _ ↦
    neutral_ite (neutral_bind (neutral_call rfl) fun _ ↦ neutral_pure _) (neutral_pure _)

theorem neutral_handOver (teamId unitId : ℤ) :
    Neutral EngineEvent.flagCall? (env.handOver teamId unitId) := by
  refine neutral_ite (neutral_pure _)
    (neutral_ite (neutral_bind (neutral_call rfl) fun _ ↦ ?_) (neutral_pure _))
  exact neutral_ite (neutral_bind (neutral_call rfl) fun _ ↦ neutral_pure _) (neutral_pure _)

theorem neutral_applyUnitTransfer (unitId toTeamId : ℤ) :
    Neutral EngineEvent.flagCall? (env.applyUnitTransfer unitId toTeamId) := by
  rw [applyUnitTransfer]
  rcases env.teamUnitIsDead unitId with - | (- | -)
  · exact neutral_pure _
  · exact neutral_bind (neutral_call rfl) fun _ ↦ neutral_pure _
  · exact neutral_pure _

/-- A grant puts the flag back. -/
theorem putsBack_applyResourceGrant (teamId resourceId : ℤ) (amount : FloatValue) :
    PutsBack EngineEvent.flagCall? (env.applyResourceGrant teamId resourceId amount) := by
  refine putsBack_ite (putsBack_call_bind rfl fun _ ↦ putsBack_ite (putsBack_ite ?_ ?_)
    (neutral_pure _).putsBack) (neutral_pure _).putsBack
  · exact putsBack_ite (env.putsBack_underCheats (neutral_call rfl) fun _ ↦ neutral_pure _)
      (neutral_pure _).putsBack
  · exact (env.neutral_grantToTeam ..).putsBack

/-- **Every arm puts the flag back**, but for the one that is there to set it. -/
theorem putsBack_applyAdminAction {action : AdminActionArm}
    (hpolicy : ∀ enabled, action ≠ .cheatPolicy enabled) :
    PutsBack EngineEvent.flagCall? (env.applyAdminAction action) := by
  refine putsBack_ite ?_ (neutral_pure _).putsBack
  cases action with
  | cheatPolicy enabled => exact absurd rfl (hpolicy enabled)
  | notSet | lifecycle => exact (neutral_pure _).putsBack
  | pause =>
    exact putsBack_ite (putsBack_call_bind rfl fun _ ↦ (neutral_pure _).putsBack)
      (neutral_pure _).putsBack
  | globalSpeed speed => exact (env.neutral_applyGlobalSpeed speed).putsBack
  | resourceGrant => exact env.putsBack_applyResourceGrant _ _ _
  | unitSpawn teamId =>
    exact putsBack_ite (env.putsBack_underCheats (neutral_call rfl) (env.neutral_handOver teamId))
      (neutral_pure _).putsBack
  | unitTransfer => exact (env.neutral_applyUnitTransfer ..).putsBack

end EngineAnswers

/-- **Cheats are put back.** As long as the engine keeps its side of the bargain along the calls of
a dispatch, or of an application other than of a cheat policy, the flag is afterwards what it was
before. -/
theorem cheats_restored (flag : Bool) :
    (∀ (env : DispatchAnswers) (cmd : AICommand),
        Lawful DispatchEvent.flagCall? ⟨flag, false⟩ (env.dispatch cmd).2 →
          (stateAfter DispatchEvent.flagCall? ⟨flag, false⟩ (env.dispatch cmd).2).flag = flag) ∧
      ∀ (env : EngineAnswers) (action : AdminActionArm),
        (∀ enabled, action ≠ .cheatPolicy enabled) →
          Lawful EngineEvent.flagCall? ⟨flag, false⟩ (env.apply action).2 →
            (stateAfter EngineEvent.flagCall? ⟨flag, false⟩ (env.apply action).2).flag = flag := by
  refine ⟨fun env cmd ↦ ?_, fun env action hpolicy ↦ ?_⟩
  · rw [env.dispatch_calls_iff cmd fun log ↦ Lawful DispatchEvent.flagCall? ⟨flag, false⟩ log →
      (stateAfter DispatchEvent.flagCall? ⟨flag, false⟩ log).flag = flag]
    exact wp_mono (fun _ _ h ↦ h.flag_eq) (fun _ h ↦ h.flag_eq)
      (env.putsBack_dispatchCommand cmd flag ⟨false, []⟩ armed_init rfl)
  · rw [env.apply_calls_iff action fun log ↦ Lawful EngineEvent.flagCall? ⟨flag, false⟩ log →
      (stateAfter EngineEvent.flagCall? ⟨flag, false⟩ log).flag = flag]
    exact wp_mono (fun _ _ h ↦ h.flag_eq) (fun _ h ↦ h.flag_eq)
      (env.putsBack_applyAdminAction hpolicy flag ⟨false, []⟩ armed_init rfl)

/-- A dispatch in which the engine throws in the arm, and the log throws in its handler. -/
def throwingDispatch : DispatchAnswers where
  circuitDef := fun _ ↦ some true
  friendlyUnit := fun _ ↦ false
  giveMeUnit := .threw
  logException := .threw

theorem cheats_restored_throwingDispatch :
    (throwingDispatch.dispatch (.giveMeNewUnit 42 ⟨.zero, .zero, .zero⟩)).1 = .threw ∧
      .setEnabled true (.returned true) ∈
        (throwingDispatch.dispatch (.giveMeNewUnit 42 ⟨.zero, .zero, .zero⟩)).2 ∧
      (stateAfter DispatchEvent.flagCall? ⟨false, false⟩
        (throwingDispatch.dispatch (.giveMeNewUnit 42 ⟨.zero, .zero, .zero⟩)).2).flag = false :=
  ⟨by decide, by decide, (cheats_restored false).1 _ _ (by decide)⟩

end Module

end HighBar
