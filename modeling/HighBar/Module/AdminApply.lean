import HighBar.Library.SwitchedFlag
import HighBar.Proto.Admin

/-!
# Applying an admin action

`ApplyAdminAction` turns an accepted action into engine calls and says whether the engine took it.
Which calls fail, and how, is not up to the gateway: `EngineAnswers` holds what each call **site**
comes back with. No site is passed twice in one application, so a choice of answers is exactly a
pattern of failing and throwing calls.

## What a failure leaves behind

When the answer is false the caller is told that nothing was dispatched and may retry, so no call of
the application should have taken effect. A spawn and a grant to the own team make calls **after**
the one that takes effect: cheats are switched off again, and a unit for another team is looked up
and given away. `failed_leaves_no_effect_iff` says that these calls are the whole difference: the
guarantee holds exactly when none of them fails after the effect.
-/

namespace HighBar.Module

/-- One engine call with what it came back with. -/
inductive EngineEvent where
  | setPause (paused : Bool) (outcome : Outcome Unit)
  | sendAutohostCommandDatagrams (speed : FloatValue) (outcome : Outcome Bool)
  | callUI (speed : FloatValue) (outcome : Outcome String)
  | callRules (speed : FloatValue) (outcome : Outcome String)
  | isEnabled (outcome : Outcome Bool)
  | setEnabled (enabled : Bool) (outcome : Outcome Bool)
  /-- Whether the resource is known. -/
  | getResourceByName (name : String) (outcome : Outcome Bool)
  | giveMeResource (name : String) (amount : FloatValue) (outcome : Outcome Unit)
  /-- Whether there is an economy. -/
  | getEconomy (outcome : Outcome Bool)
  | sendResource (name : String) (amount : FloatValue) (teamId : ℤ) (outcome : Outcome Unit)
  /-- The id of the unit, not positive when there is none. -/
  | giveMeUnit (unitDefId : ℤ) (position : Vector3) (outcome : Outcome ℤ)
  /-- Whether the unit is known. -/
  | getOrRegTeamUnit (unitId : ℤ) (outcome : Outcome Bool)
  | giveUnits (unitId teamId : ℤ) (outcome : Outcome Unit)
deriving Repr, DecidableEq

/-- The calls that change the match: a unit spawned, a resource granted, a unit handed over. -/
def EngineEvent.hasEffect : EngineEvent → Bool
  | .giveMeUnit _ _ (.returned unitId) => decide (0 < unitId)
  | .giveMeResource _ _ (.returned _) => true
  | .sendResource _ _ _ (.returned _) => true
  | .giveUnits _ _ (.returned _) => true
  | _ => false

/-- What the gateway finds, and what each call site comes back with. -/
structure EngineAnswers where
  hasCircuit : Bool := true
  hasGame : Bool := true
  hasLua : Bool := true
  hasCheats : Bool := true
  hasCallback : Bool := true
  teamId : ℤ
  /-- `GetCircuitDefSafe` finds a definition, and it has an engine counterpart. -/
  knowsDef : ℤ → Bool
  /-- `GetTeamUnit`, with `IsDead` of the unit it finds. -/
  teamUnitIsDead : ℤ → Option Bool
  setPause : Outcome Unit := .returned ()
  sendAutohostCommandDatagrams : Outcome Bool := .returned true
  callUI : Outcome String := .returned "ok"
  callRules : Outcome String := .returned "ok"
  isEnabled : Outcome Bool := .returned false
  /-- `SetEnabled` of a cheat policy. -/
  setPolicy : Outcome Bool := .returned true
  /-- `SetEnabled(true)` before a spawn or a grant. -/
  enable : Outcome Bool := .returned true
  /-- `SetEnabled(false)` after it. -/
  restore : Outcome Bool := .returned true
  /-- `SetEnabled(false)` in the handler. -/
  restoreInHandler : Outcome Bool := .returned true
  getResourceByName : Outcome Bool := .returned true
  giveMeResource : Outcome Unit := .returned ()
  getEconomy : Outcome Bool := .returned true
  sendResource : Outcome Unit := .returned ()
  giveMeUnit : Outcome ℤ
  getOrRegTeamUnit : Outcome Bool := .returned true
  giveUnits : Outcome Unit := .returned ()

/-- An application: its one mutable local is `restore_disabled`. -/
abbrev Applying (α : Type) : Type := Calls EngineEvent Bool α

open Calls (call catchAll)
open SwitchedFlag (switchOn switchBack)

namespace EngineAnswers

variable (env : EngineAnswers)

/-- `SetEnabled(true)` unless cheats are on; whether cheats are on now. -/
def enableCheats : Applying Bool := switchOn .isEnabled .setEnabled env.isEnabled env.enable

/-- Switch cheats off again, if they were switched on here. -/
def restoreCheats (answer : Outcome Bool) : Applying Unit := switchBack .setEnabled answer

/-- The shape a spawn and a grant share: `effect` with cheats on, and `rest` once they are restored;
the handler restores them too and gives up. -/
def underCheats {α : Type} (effect : Applying α) (rest : α → Applying Bool) : Applying Bool :=
  catchAll
    (do
      let enabled ← env.enableCheats
      if enabled then
        let value ← effect
        restoreCheats env.restore
        rest value
      else pure false)
    (do
      catchAll (restoreCheats env.restoreInHandler) (pure ())
      pure false)

/-- The arm of `global_speed`: the autohost first, then the two Lua states. -/
def applyGlobalSpeed (speed : FloatValue) : Applying Bool := do
  let sent ← call (.sendAutohostCommandDatagrams speed) env.sendAutohostCommandDatagrams
  if sent then pure true
  else if env.hasLua then
    let ui ← call (.callUI speed) env.callUI
    if ui = "ok" then pure true
    else
      let rules ← call (.callRules speed) env.callRules
      pure (decide (rules = "ok"))
  else pure false

/-- A grant to the own team goes through the cheats. -/
def grantToOwnTeam (name : String) (amount : FloatValue) : Applying Bool :=
  if env.hasCheats then
    env.underCheats (call (.giveMeResource name amount) env.giveMeResource) fun _ ↦ pure true
  else pure false

/-- A grant to another team goes through the economy. -/
def grantToTeam (name : String) (amount : FloatValue) (teamId : ℤ) : Applying Bool := do
  let economy ← call .getEconomy env.getEconomy
  if economy then
    call (.sendResource name amount teamId) env.sendResource
    pure true
  else pure false

/-- The name `resource_grant` looks a resource up under. -/
def resourceName (resourceId : ℤ) : String := if resourceId = 0 then "Metal" else "Energy"

/-- The arm of `resource_grant`. -/
def applyResourceGrant (teamId resourceId : ℤ) (amount : FloatValue) : Applying Bool :=
  if env.hasCallback then do
    let known ← call (.getResourceByName (resourceName resourceId)) env.getResourceByName
    if known then
      if teamId = env.teamId then env.grantToOwnTeam (resourceName resourceId) amount
      else env.grantToTeam (resourceName resourceId) amount teamId
    else pure false
  else pure false

/-- Hand a unit that was just spawned to the team it is for. -/
def handOver (teamId unitId : ℤ) : Applying Bool := do
  if unitId ≤ 0 then pure false
  else if teamId ≠ env.teamId then
    let known ← call (.getOrRegTeamUnit unitId) env.getOrRegTeamUnit
    if known then
      call (.giveUnits unitId teamId) env.giveUnits
      pure true
    else pure false
  else pure true

/-- The arm of `unit_spawn`. -/
def applyUnitSpawn (teamId unitDefId : ℤ) (position : Vector3) : Applying Bool :=
  if env.hasCheats && env.knowsDef unitDefId then
    env.underCheats (call (.giveMeUnit unitDefId position) env.giveMeUnit) (env.handOver teamId)
  else pure false

/-- The arm of `unit_transfer`. -/
def applyUnitTransfer (unitId toTeamId : ℤ) : Applying Bool := do
  match env.teamUnitIsDead unitId with
  | some false =>
    call (.giveUnits unitId toTeamId) env.giveUnits
    pure true
  | some true | none => pure false

/-- The switch of `ApplyAdminAction`. -/
def applyArm : AdminActionArm → Applying Bool
  | .pause paused =>
    if env.hasGame then do
      call (.setPause paused) env.setPause
      pure true
    else pure false
  | .globalSpeed speed => env.applyGlobalSpeed speed
  | .cheatPolicy enabled =>
    if env.hasCheats then call (.setEnabled enabled) env.setPolicy else pure false
  | .resourceGrant teamId resourceId amount => env.applyResourceGrant teamId resourceId amount
  | .unitSpawn teamId unitDefId position => env.applyUnitSpawn teamId unitDefId position
  | .unitTransfer unitId _ toTeamId => env.applyUnitTransfer unitId toTeamId
  | .lifecycle _ => pure true
  | .notSet => pure false

/-- `ApplyAdminAction`. -/
def applyAdminAction (action : AdminActionArm) : Applying Bool :=
  if env.hasCircuit then env.applyArm action else pure false

/-! ### What a failure leaves behind -/

/-- No call so far took effect. -/
def Harmless (s : CallState EngineEvent Bool) : Prop := ∀ e ∈ s.log, e.hasEffect = false

/-- When the program returns false, no call in its log took effect. -/
def LeavesNoEffect (program : Applying Bool) (s : CallState EngineEvent Bool) : Prop :=
  Calls.wp program (fun ok t ↦ ok = false → Harmless t) (fun _ ↦ True) s

variable {s : CallState EngineEvent Bool}

/-- A failure without effect, as a statement about the log. -/
theorem leavesNoEffect_iff {program : Applying Bool} :
    LeavesNoEffect program s ↔
      ∀ t, program.run s = .ok false t → ∀ e ∈ t.log, e.hasEffect = false := by
  rw [LeavesNoEffect, Calls.wp]
  rcases program.run s with ⟨- | -, u⟩ | ⟨-, u⟩
  · simp [Harmless]
  · simp
  · simp

@[simp] theorem harmless_record {s : CallState EngineEvent Bool} {e : EngineEvent} :
    Harmless (s.record e) ↔ Harmless s ∧ e.hasEffect = false := by
  simp [Harmless, CallState.record, or_imp, forall_and]

theorem harmless_nil {restoreDisabled : Bool} : Harmless ⟨restoreDisabled, []⟩ :=
  fun _ h ↦ absurd h List.not_mem_nil

/-- Cheats are on when the effective call is made. -/
def CheatsOn : Prop :=
  env.isEnabled = .returned true ∨ env.isEnabled = .returned false ∧ env.enable = .returned true

/-- Cheats were switched on for this action, and switching them off again throws. -/
def RestoreThrows : Prop := env.isEnabled = .returned false ∧ env.restore = .threw

/-- The unit is for another team, and is not handed over. -/
def HandOverFails (teamId : ℤ) : Prop :=
  teamId ≠ env.teamId ∧ (env.getOrRegTeamUnit ≠ .returned true ∨ env.giveUnits = .threw)

/-- The unit was spawned and a later call fails. -/
def SpawnSurvives (teamId unitDefId : ℤ) : Prop :=
  env.hasCheats ∧ env.knowsDef unitDefId ∧ env.CheatsOn ∧
    (∃ unitId, env.giveMeUnit = .returned unitId ∧ 0 < unitId) ∧
      (env.RestoreThrows ∨ env.HandOverFails teamId)

/-- The resource was granted and switching cheats off fails. -/
def GrantSurvives (teamId : ℤ) : Prop :=
  env.hasCallback ∧ env.getResourceByName = .returned true ∧ teamId = env.teamId ∧ env.hasCheats ∧
    env.CheatsOn ∧ env.giveMeResource = .returned () ∧ env.RestoreThrows

/-- An effective call succeeds and a later one fails. -/
def EffectSurvives : AdminActionArm → Prop
  | .resourceGrant teamId _ _ => env.hasCircuit ∧ env.GrantSurvives teamId
  | .unitSpawn teamId unitDefId _ => env.hasCircuit ∧ env.SpawnSurvives teamId unitDefId
  | _ => False

/-- The handler of `underCheats` adds nothing that matters, whatever its own call does. -/
theorem leavesNoEffect_handler (answer : Outcome Bool) :
    LeavesNoEffect (do catchAll (restoreCheats answer) (pure ()); pure false) s ↔ Harmless s := by
  rcases s with ⟨- | -, log⟩
  · simp [LeavesNoEffect, restoreCheats, switchBack]
  · rcases answer with value | -
    · simp [LeavesNoEffect, restoreCheats, switchBack, EngineEvent.hasEffect]
    · simp [LeavesNoEffect, restoreCheats, switchBack, EngineEvent.hasEffect]

/-- What `underCheats` does once cheats are on: an exception now ends in the handler, which returns
false. -/
def TailLeavesNoEffect {α : Type} (effect : Applying α) (rest : α → Applying Bool)
    (s : CallState EngineEvent Bool) : Prop :=
  Calls.wp (do let value ← effect; restoreCheats env.restore; rest value)
    (fun ok t ↦ ok = false → Harmless t) Harmless s

/-- `underCheats` comes down to its tail, at a state where `restore_disabled` says whether cheats
were switched on here. -/
theorem leavesNoEffect_underCheats {α : Type} {effect : Applying α} {rest : α → Applying Bool}
    {X : Prop} (hs : Harmless s) (hlocals : s.locals = false)
    (h : ∀ t, Harmless t → (t.locals = true ↔ env.isEnabled = .returned false) →
      (env.TailLeavesNoEffect effect rest t ↔ X)) :
    LeavesNoEffect (env.underCheats effect rest) s ↔ (env.CheatsOn → X) := by
  have hhandler : ∀ t, LeavesNoEffect (do
      catchAll (restoreCheats env.restoreInHandler) (pure ()); pure false) t ↔ Harmless t :=
    fun t ↦ leavesNoEffect_handler _
  simp only [LeavesNoEffect] at hhandler
  simp only [LeavesNoEffect, underCheats, Calls.wp_catchAll, hhandler, enableCheats, switchOn,
    Calls.wp_bind]
  rcases hen : env.isEnabled with (- | -) | -
  · rcases hon : env.enable with (- | -) | -
    · simp [CheatsOn, hen, hon, hs, EngineEvent.hasEffect]
    · have ht := h { (s.record (.isEnabled (.returned false))).record
          (.setEnabled true (.returned true)) with locals := true }
        (harmless_record.2 ⟨harmless_record.2 ⟨hs, rfl⟩, rfl⟩) (by simp [hen])
      simpa [CheatsOn, hen, hon, TailLeavesNoEffect] using ht
    · simp [CheatsOn, hen, hon, hs, EngineEvent.hasEffect]
  · have ht := h (s.record (.isEnabled (.returned true))) (harmless_record.2 ⟨hs, rfl⟩)
      (by simp [hen, hlocals])
    simpa [CheatsOn, hen, TailLeavesNoEffect] using ht
  · simp [CheatsOn, hen, hs, EngineEvent.hasEffect]

/-- Handing a unit over fails harmlessly only if it was never spawned. -/
theorem wp_handOver (teamId unitId : ℤ) :
    Calls.wp (env.handOver teamId unitId) (fun ok t ↦ ok = false → Harmless t) Harmless s ↔
      (0 < unitId ∧ ¬env.HandOverFails teamId ∨ Harmless s) := by
  simp only [handOver, HandOverFails]
  by_cases hid : 0 < unitId
  · have hle : ¬unitId ≤ 0 := by omega
    by_cases hteam : teamId = env.teamId
    · simp [hid, hle, hteam]
    · rcases env.getOrRegTeamUnit with (- | -) | -
      · simp [hle, hteam, EngineEvent.hasEffect]
      · rcases env.giveUnits with - | -
        · simp [hid, hle, hteam]
        · simp [hle, hteam, EngineEvent.hasEffect]
      · simp [hle, hteam, EngineEvent.hasEffect]
  · have hle : unitId ≤ 0 := by omega
    simp [hid, hle]

/-- Switching cheats off again adds nothing that matters, but it may throw. -/
theorem wp_restoreCheats {Q : Unit → CallState EngineEvent Bool → Prop} {X : Prop}
    (hlocals : s.locals = true ↔ env.isEnabled = .returned false)
    (hQ : ∀ t, (Harmless t ↔ Harmless s) → (Q () t ↔ X)) :
    Calls.wp (restoreCheats env.restore) Q Harmless s ↔
      (env.RestoreThrows → Harmless s) ∧ (¬env.RestoreThrows → X) := by
  rcases s with ⟨- | -, log⟩
  · have hno : ¬env.RestoreThrows := fun hc ↦ Bool.false_ne_true (hlocals.2 hc.1)
    rw [← hQ _ Iff.rfl]
    simp [restoreCheats, switchBack, hno]
  · have hen : env.isEnabled = .returned false := hlocals.1 rfl
    rcases hr : env.restore with value | -
    · have hno : ¬env.RestoreThrows := fun hc ↦ by simp [hc.2] at hr
      rw [← hQ (CallState.record ⟨true, log⟩ (.setEnabled false (.returned value)))
        (by simp [EngineEvent.hasEffect])]
      simp [restoreCheats, switchBack, hno]
    · have hyes : env.RestoreThrows := ⟨hen, hr⟩
      simp [restoreCheats, switchBack, hyes, EngineEvent.hasEffect]

/-- The tail of a spawn. -/
theorem tailLeavesNoEffect_giveMeUnit (teamId unitDefId : ℤ) (position : Vector3) (hs : Harmless s)
    (hlocals : s.locals = true ↔ env.isEnabled = .returned false) :
    env.TailLeavesNoEffect (call (.giveMeUnit unitDefId position) env.giveMeUnit)
        (env.handOver teamId) s ↔
      ¬((∃ unitId, env.giveMeUnit = .returned unitId ∧ 0 < unitId) ∧
        (env.RestoreThrows ∨ env.HandOverFails teamId)) := by
  rw [TailLeavesNoEffect, Calls.wp_bind]
  rcases env.giveMeUnit with unitId | -
  · have hspawn : Harmless (s.record (.giveMeUnit unitDefId position (.returned unitId))) ↔
        ¬0 < unitId := by
      simp [hs, EngineEvent.hasEffect]
    rw [Calls.wp_call_returned, Calls.wp_bind, env.wp_restoreCheats
      (X := 0 < unitId ∧ ¬env.HandOverFails teamId ∨ ¬0 < unitId)
      (s := s.record (.giveMeUnit unitDefId position (.returned unitId))) hlocals
      (fun t ht ↦ by rw [wp_handOver, ht, hspawn]), hspawn]
    by_cases hid : 0 < unitId
    · by_cases hr : env.RestoreThrows
      · simp [hid, hr]
      · simp [hid, hr]
    · simp [hid]
  · simp [hs, EngineEvent.hasEffect]

/-- The spawn of a unit. -/
theorem leavesNoEffect_applyUnitSpawn (teamId unitDefId : ℤ) (position : Vector3) :
    LeavesNoEffect (env.applyUnitSpawn teamId unitDefId position) ⟨false, []⟩ ↔
      ¬env.SpawnSurvives teamId unitDefId := by
  rw [applyUnitSpawn]
  split_ifs with h
  · rw [Bool.and_eq_true] at h
    rw [env.leavesNoEffect_underCheats harmless_nil rfl fun s hs hlocals ↦
      env.tailLeavesNoEffect_giveMeUnit teamId unitDefId position hs hlocals]
    simp only [SpawnSurvives, h, true_and, not_and]
  · refine iff_of_true (fun _ ↦ harmless_nil) fun hc ↦ h ?_
    rw [Bool.and_eq_true]
    exact ⟨hc.1, hc.2.1⟩

variable (name : String) (amount : FloatValue)

/-- The tail of a grant to the own team. -/
theorem tailLeavesNoEffect_giveMeResource (hs : Harmless s)
    (hlocals : s.locals = true ↔ env.isEnabled = .returned false) :
    env.TailLeavesNoEffect (call (.giveMeResource name amount) env.giveMeResource)
        (fun _ ↦ pure true) s ↔
      ¬(env.giveMeResource = .returned () ∧ env.RestoreThrows) := by
  rw [TailLeavesNoEffect, Calls.wp_bind]
  rcases env.giveMeResource with ⟨⟩ | -
  · rw [Calls.wp_call_returned, Calls.wp_bind, env.wp_restoreCheats (X := True)
      (s := s.record (.giveMeResource name amount (.returned ()))) hlocals (fun t _ ↦ by simp)]
    simp [EngineEvent.hasEffect]
  · simp [hs, EngineEvent.hasEffect]

/-- A grant to the own team. -/
theorem leavesNoEffect_grantToOwnTeam (hs : Harmless s)
    (hlocals : s.locals = false) :
    LeavesNoEffect (env.grantToOwnTeam name amount) s ↔
      ¬(env.hasCheats ∧ env.CheatsOn ∧ env.giveMeResource = .returned () ∧ env.RestoreThrows) := by
  rw [grantToOwnTeam]
  split_ifs with h
  · rw [env.leavesNoEffect_underCheats hs hlocals fun t ht hlocals ↦
      env.tailLeavesNoEffect_giveMeResource name amount ht hlocals]
    simp only [h, true_and, not_and]
  · exact iff_of_true (fun _ ↦ hs) fun hc ↦ h hc.1

/-- A grant to another team takes effect with its last call. -/
theorem leavesNoEffect_grantToTeam (teamId : ℤ)
    (hs : Harmless s) :
    LeavesNoEffect (env.grantToTeam name amount teamId) s := by
  simp only [LeavesNoEffect, grantToTeam, Calls.wp_bind]
  rcases env.getEconomy with (- | -) | -
  · simp [hs, EngineEvent.hasEffect]
  · rcases env.sendResource with - | -
    · simp
    · simp
  · simp

/-- The grant of a resource. -/
theorem leavesNoEffect_applyResourceGrant (teamId resourceId : ℤ) (amount : FloatValue) :
    LeavesNoEffect (env.applyResourceGrant teamId resourceId amount) ⟨false, []⟩ ↔
      ¬env.GrantSurvives teamId := by
  rw [applyResourceGrant]
  by_cases hcallback : env.hasCallback
  swap
  · rw [if_neg hcallback]
    exact iff_of_true (fun _ ↦ harmless_nil) fun hc ↦ hcallback hc.1
  rw [if_pos hcallback, LeavesNoEffect, Calls.wp_bind]
  rcases hknown : env.getResourceByName with (- | -) | -
  · refine iff_of_true ?_ fun hc ↦ absurd (hknown.symm.trans hc.2.1) nofun
    simp [harmless_nil, EngineEvent.hasEffect]
  · have hs : Harmless (CallState.record ⟨false, []⟩
        (.getResourceByName (resourceName resourceId) (.returned true))) :=
      harmless_record.2 ⟨harmless_nil, rfl⟩
    rw [Calls.wp_call_returned, if_pos rfl]
    split_ifs with hteam
    · rw [← LeavesNoEffect, env.leavesNoEffect_grantToOwnTeam _ amount hs rfl]
      simp [GrantSurvives, hcallback, hknown, hteam]
    · exact iff_of_true (env.leavesNoEffect_grantToTeam _ amount teamId hs)
        fun hc ↦ hteam hc.2.2.1
  · exact iff_of_true trivial fun hc ↦ absurd (hknown.symm.trans hc.2.1) nofun

/-- The speed goes through calls that never take effect. -/
theorem leavesNoEffect_applyGlobalSpeed (speed : FloatValue) :
    LeavesNoEffect (env.applyGlobalSpeed speed) ⟨false, []⟩ := by
  simp only [LeavesNoEffect, applyGlobalSpeed, Calls.wp_bind]
  rcases env.sendAutohostCommandDatagrams with (- | -) | -
  · rcases env.hasLua with - | -
    · simp [harmless_nil, EngineEvent.hasEffect]
    · rcases env.callUI with ui | -
      · rcases env.callRules with rules | -
        · by_cases hui : ui = "ok"
          · simp [hui]
          · simp [hui, harmless_nil, EngineEvent.hasEffect]
        · by_cases hui : ui = "ok"
          · simp [hui]
          · simp
      · simp
  · simp
  · simp

/-- The pause, the policy and the transfer make one call at most, and return false only if it did
nothing. -/
theorem leavesNoEffect_pause (paused : Bool) :
    LeavesNoEffect (env.applyArm (.pause paused)) ⟨false, []⟩ := by
  simp only [LeavesNoEffect, applyArm]
  split_ifs
  · rcases env.setPause with - | -
    · simp
    · simp
  · simp [harmless_nil]

theorem leavesNoEffect_cheatPolicy (enabled : Bool) :
    LeavesNoEffect (env.applyArm (.cheatPolicy enabled)) ⟨false, []⟩ := by
  simp only [LeavesNoEffect, applyArm]
  split_ifs
  · rcases env.setPolicy with - | -
    · simp [harmless_nil, EngineEvent.hasEffect]
    · simp
  · simp [harmless_nil]

theorem leavesNoEffect_applyUnitTransfer (unitId toTeamId : ℤ) :
    LeavesNoEffect (env.applyUnitTransfer unitId toTeamId) ⟨false, []⟩ := by
  simp only [LeavesNoEffect, applyUnitTransfer]
  split
  · rcases env.giveUnits with - | -
    · simp
    · simp
  · simp [harmless_nil]
  · simp [harmless_nil]

/-- **A failed action has no effect exactly when no call fails after the effective one.** -/
theorem failed_leaves_no_effect_iff (action : AdminActionArm) :
    (∀ t, (env.applyAdminAction action).run ⟨false, []⟩ = .ok false t →
        ∀ e ∈ t.log, e.hasEffect = false) ↔
      ¬env.EffectSurvives action := by
  rw [← leavesNoEffect_iff, applyAdminAction]
  by_cases hcircuit : env.hasCircuit
  swap
  · rw [if_neg hcircuit]
    refine iff_of_true (fun _ ↦ harmless_nil) fun hc ↦ ?_
    cases action with
    | resourceGrant => exact hcircuit hc.1
    | unitSpawn => exact hcircuit hc.1
    | _ => exact hc
  rw [if_pos hcircuit]
  cases action with
  | notSet => exact iff_of_true (fun _ ↦ harmless_nil) id
  | lifecycle => exact iff_of_true Bool.noConfusion id
  | pause paused => exact iff_of_true (env.leavesNoEffect_pause paused) id
  | globalSpeed speed => exact iff_of_true (env.leavesNoEffect_applyGlobalSpeed speed) id
  | cheatPolicy enabled => exact iff_of_true (env.leavesNoEffect_cheatPolicy enabled) id
  | unitTransfer unitId _ toTeamId =>
    exact iff_of_true (env.leavesNoEffect_applyUnitTransfer unitId toTeamId) id
  | resourceGrant teamId resourceId amount =>
    rw [applyArm, env.leavesNoEffect_applyResourceGrant]
    simp only [EffectSurvives, hcircuit, true_and]
  | unitSpawn teamId unitDefId position =>
    rw [applyArm, env.leavesNoEffect_applyUnitSpawn]
    simp only [EffectSurvives, hcircuit, true_and]

/-- A spawn for team 1 by team 0, whose unit the gateway does not find again. -/
def lostSpawn : EngineAnswers where
  teamId := 0
  knowsDef := fun _ ↦ true
  teamUnitIsDead := fun _ ↦ none
  giveMeUnit := .returned 7
  getOrRegTeamUnit := .returned false

/-- **A unit spawned by a failed action**: it stays with the own team, and the caller is told that
nothing was dispatched. -/
theorem failed_spawn_leaves_unit :
    ∃ t, (lostSpawn.applyAdminAction (.unitSpawn 1 42 ⟨.zero, .zero, .zero⟩)).run ⟨false, []⟩
        = .ok false t ∧
      .giveMeUnit 42 ⟨.zero, .zero, .zero⟩ (.returned 7) ∈ t.log ∧
      (EngineEvent.giveMeUnit 42 ⟨.zero, .zero, .zero⟩ (.returned 7)).hasEffect = true :=
  ⟨_, rfl, by decide, rfl⟩

end EngineAnswers

end HighBar.Module
