import HighBar.Grpc.CommandValidator
import HighBar.Grpc.DispatchCommand
import Mathlib.Tactic.IntervalCases

/-!
# Options and timeouts on their way to the engine

A unit order carries an `options` word and a `timeout`. `DispatchCommand` reads both at the top, by
`OptionsOf` and `TimeoutOf`, and hands the results to whichever engine call the order leads to. Two
things can go wrong on the way, and both do.

* **The switches have gaps.** Both functions are switches over the arms with a default, and neither
  lists all the arms that lead to a call with options and timeout. An arm that is not listed is
  dispatched with options `0`, or with no timeout.
* **The bits are not translated.** On the wire SHIFT, CTRL and ALT are `1`, `2` and `4`; in the
  engine the keys are `32`, `64` and `128`. `OptionsOf` casts the word and that is all, so an order
  that a client queues with SHIFT is not queued.

What arrives is what the client meant (`KeepsMeaning`) exactly if the order has nothing to lose
(`NothingToLose`).
-/

namespace HighBar.Grpc

open List

/-! ### Orders and the calls they lead to -/

/-- The `unit_id`, `group_id`, `options`, `timeout` of the arms that have them. -/
def orderOf : AICommand → Option UnitOrder
  | .buildUnit order .. | .stop order | .wait order | .timedWait order _ => some order
  | .squadWait order _ | .deathWait order _ | .gatherWait order => some order
  | .moveUnit order _ | .patrol order _ | .fight order _ | .attack order _ => some order
  | .attackArea order .. | .guard order _ | .repair order _ => some order
  | .reclaimUnit order _ | .reclaimArea order .. | .reclaimInArea order .. => some order
  | .reclaimFeature order _ | .restoreArea order .. | .resurrect order _ => some order
  | .resurrectInArea order .. | .capture order _ | .captureArea order .. => some order
  | .setBase order _ | .selfDestruct order | .loadUnits order _ => some order
  | .loadUnitsArea order .. | .loadOnto order _ | .unloadUnit order .. => some order
  | .unloadUnitsArea order .. | .setWantedMaxSpeed order _ | .stockpile order => some order
  | .dgun order _ | .custom order .. | .setOnOff order _ | .setRepeat order _ => some order
  | .setMoveState order _ | .setFireState order _ | .setTrajectory order _ => some order
  | .setAutoRepairLevel order _ | .setIdleMode order _ => some order
  | _ => none

/-- The options and the timeout of a call that takes them. -/
def EngineCall.orderArgs : EngineCall → Option (ℤ × ℤ)
  | .cmdMoveTo _ options timeout | .cmdPatrolTo _ options timeout => some (options, timeout)
  | .cmdFightTo _ options timeout | .cmdAttackGround _ options timeout => some (options, timeout)
  | .cmdStop options timeout | .cmdBuild _ _ _ options timeout => some (options, timeout)
  | .cmdRepair _ options timeout | .cmdReclaimUnit _ options timeout => some (options, timeout)
  | .cmdReclaimInArea _ _ options timeout => some (options, timeout)
  | .cmdResurrectInArea _ _ options timeout => some (options, timeout)
  | .executeCustomCommand _ _ options timeout => some (options, timeout)
  | _ => none

/-- The same of an event. -/
def DispatchEvent.orderArgs : DispatchEvent → Option (ℤ × ℤ)
  | .engine call _ => call.orderArgs
  | _ => none

/-- The arms in the switch of `OptionsOf`. -/
def listsOptions : AICommand → Bool
  | .buildUnit .. | .stop .. | .wait .. | .timedWait .. | .moveUnit .. | .patrol .. => true
  | .fight .. | .attack .. | .attackArea .. | .guard .. | .repair .. | .reclaimUnit .. => true
  | .reclaimArea .. | .reclaimInArea .. | .reclaimFeature .. | .resurrectInArea .. => true
  | .selfDestruct .. | .dgun .. | .setWantedMaxSpeed .. | .setFireState .. => true
  | .setMoveState .. => true
  | _ => false

/-- The arms in the switch of `TimeoutOf`. -/
def listsTimeout : AICommand → Bool
  | .moveUnit .. | .patrol .. | .fight .. | .attack .. | .attackArea .. | .repair .. => true
  | .reclaimUnit .. | .reclaimInArea .. | .resurrectInArea .. | .buildUnit .. | .dgun .. => true
  | _ => false

/-- A timeout as the engine wants it. -/
def engineTimeout (timeout : ℤ) : ℤ := if 0 < timeout then timeout else intMax

section Switches

variable {cmd : AICommand} {order : UnitOrder}

/-- The options that reach the engine. -/
theorem optionsOf_eq (horder : orderOf cmd = some order) :
    optionsOf cmd = if listsOptions cmd then toSigned 16 order.options else 0 := by
  cases cmd
  all_goals first
    | exact absurd horder (Option.some_ne_none _).symm
    | (obtain rfl := Option.some.inj horder; rfl)

/-- The timeout that reaches the engine. -/
theorem timeoutOf_eq (horder : orderOf cmd = some order) :
    timeoutOf cmd = if listsTimeout cmd then engineTimeout order.timeout else intMax := by
  have hflip : ∀ timeout : ℤ,
      (if timeout ≤ 0 then intMax else timeout) = engineTimeout timeout := by
    intro timeout
    rw [engineTimeout]
    split_ifs with hle hpos hpos
    · omega
    · rfl
    · rfl
    · omega
  cases cmd
  all_goals first
    | exact absurd horder (Option.some_ne_none _).symm
    | (obtain rfl := Option.some.inj horder; exact hflip _)
    | rfl

end Switches

/-! ### Every call gets what the switches give -/

namespace DispatchAnswers

open Calls

variable {args : ℤ × ℤ}

/-- All calls so far that take options and a timeout got these. -/
def AllGot (args : ℤ × ℤ) (s : CallState DispatchEvent Bool) : Prop :=
  ∀ event ∈ s.log, ∀ got, event.orderArgs = some got → got = args

theorem AllGot.record {s : CallState DispatchEvent Bool} (hs : AllGot args s)
    {event : DispatchEvent} (hevent : event.orderArgs = none ∨ event.orderArgs = some args) :
    AllGot args (s.record event) := by
  intro e he got hgot
  rcases mem_append.1 he with hold | hnew
  · exact hs e hold got hgot
  · rw [mem_singleton.1 hnew] at hgot
    rcases hevent with hnone | hsome
    · rw [hnone] at hgot
      cases hgot
    · exact Option.some.inj (hgot.symm.trans hsome)

variable (env : DispatchAnswers)

theorem preserves_fail (message : String) : Preserves (AllGot args) (env.fail message) :=
  preserves_bind (preserves_call fun _ hs ↦ hs.record (.inl rfl)) fun _ ↦ preserves_pure _

theorem preserves_engineCall {action : EngineCall}
    (haction : action.orderArgs = none ∨ action.orderArgs = some args) :
    Preserves (AllGot args) (env.engineCall action) :=
  preserves_bind (preserves_call fun _ hs ↦ hs.record haction) fun _ ↦ preserves_pure _

/-- A call on a unit that may be gone. -/
theorem preserves_through {action : EngineCall} (present : Bool)
    (haction : action.orderArgs = none ∨ action.orderArgs = some args) :
    Preserves (AllGot args) (env.through present action) :=
  preserves_ite (env.preserves_engineCall haction) (preserves_pure _)

theorem preserves_buildUnit (defId : ℤ) (position : Vector3) (facing options timeout : ℤ) :
    Preserves (AllGot (options, timeout))
      (env.buildUnit defId position facing options timeout) := by
  refine preserves_ite (env.preserves_fail _) ?_
  rcases env.circuitDef defId with - | -
  · exact env.preserves_fail _
  · exact env.preserves_engineCall (.inr rfl)

theorem preserves_custom (commandId : ℤ) (params : List FloatValue) (options timeout : ℤ) :
    Preserves (AllGot (options, timeout)) (env.custom commandId params options timeout) := by
  refine preserves_ite ?_ (preserves_pure _)
  rcases customError commandId params.length with - | message
  · exact env.preserves_engineCall (.inr rfl)
  · exact env.preserves_fail message

/-- **Every arm hands on what the switches give.** -/
theorem preserves_dispatchArm {cmd : AICommand} {order : UnitOrder}
    (horder : orderOf cmd = some order) :
    Preserves (AllGot (optionsOf cmd, timeoutOf cmd)) (env.dispatchArm cmd) := by
  cases cmd with
  | moveUnit | patrol | fight | attackArea | stop | reclaimInArea | resurrectInArea =>
    exact env.preserves_engineCall (.inr rfl)
  | wait | selfDestruct | setWantedMaxSpeed | setFireState | setMoveState =>
    exact env.preserves_engineCall (.inl rfl)
  | buildUnit => exact env.preserves_buildUnit _ _ _ _ _
  | custom => exact env.preserves_custom _ _ _ _
  | repair | reclaimUnit => exact env.preserves_through _ (.inr rfl)
  | attack | guard | dgun | capture | setOnOff | setRepeat | stockpile | timedWait | squadWait
  | deathWait | gatherWait | reclaimArea | reclaimFeature | restoreArea | resurrect | captureArea
  | setBase | loadUnits | loadUnitsArea | loadOnto | unloadUnit | unloadUnitsArea | setTrajectory
  | setAutoRepairLevel | setIdleMode => exact env.preserves_through _ (.inr rfl)
  | _ => cases horder

/-- A call of a dispatch that takes options and a timeout gets those of the switches. -/
theorem orderArgs_of_dispatch {cmd : AICommand} {order : UnitOrder}
    (horder : orderOf cmd = some order) {event : DispatchEvent}
    (hevent : event ∈ (env.dispatch cmd).2) {got : ℤ × ℤ} (hgot : event.orderArgs = some got) :
    got = (optionsOf cmd, timeoutOf cmd) := by
  have hall : ∀ event ∈ (env.dispatch cmd).2, ∀ got, event.orderArgs = some got →
      got = (optionsOf cmd, timeoutOf cmd) := by
    rw [env.dispatch_calls_iff cmd fun log ↦ ∀ event ∈ log, ∀ got, event.orderArgs = some got →
      got = (optionsOf cmd, timeoutOf cmd)]
    exact preserves_ite (env.preserves_dispatchArm horder) (preserves_pure _) _ fun _ h ↦
      absurd h not_mem_nil
  exact hall event hevent got hgot

end DispatchAnswers

/-! ### What an order loses -/

/-- The bit is set on the wire. -/
def wireHas (options bit : ℕ) : Prop := options &&& bit ≠ 0

/-- The key is down in the engine's word, a `short`. -/
def engineHas (word : ℤ) (key : ℕ) : Prop := ofSigned 16 word &&& key ≠ 0

/-- The three keys of the mask arrive: SHIFT, CTRL and ALT. -/
@[mk_iff]
structure KeysArrive (options : ℕ) (word : ℤ) : Prop where
  shift : engineHas word 32 ↔ wireHas options 1
  control : engineHas word 64 ↔ wireHas options 2
  alt : engineHas word 128 ↔ wireHas options 4

/-- **What the client meant**: the options are the order's own, cast to `short` as for every other
arm, the timeout is the order's own, and the keys are down that the client asked for. -/
structure KeepsMeaning (order : UnitOrder) (word deadline : ℤ) : Prop where
  options : word = toSigned 16 order.options
  timeout : deadline = engineTimeout order.timeout
  keys : order.options &&& kQueuedCommandOptionMask = order.options →
    KeysArrive order.options word

/-- The order has no options or timeout that the switches would drop, and no key of the mask. -/
structure NothingToLose (cmd : AICommand) (order : UnitOrder) : Prop where
  options : listsOptions cmd = false → order.options % 2 ^ 16 = 0
  timeout : listsTimeout cmd = false → order.timeout ≤ 0 ∨ order.timeout = intMax
  keys : order.options &&& kQueuedCommandOptionMask = order.options → order.options = 0

/-- No key of the mask is translated. -/
theorem keysArrive_cast_iff {options : ℕ}
    (hmask : options &&& kQueuedCommandOptionMask = options) :
    KeysArrive options (toSigned 16 options) ↔ options = 0 := by
  have hle : options ≤ 7 := hmask ▸ Nat.and_le_right
  rw [keysArrive_iff]
  unfold engineHas wireHas
  interval_cases options <;> decide

theorem zero_eq_toSigned_iff {options : ℕ} : 0 = toSigned 16 options ↔ options % 2 ^ 16 = 0 := by
  rw [toSigned]
  split_ifs <;> omega

/-- The timeouts that mean none. -/
theorem intMax_eq_engineTimeout_iff {timeout : ℤ} :
    intMax = engineTimeout timeout ↔ timeout ≤ 0 ∨ timeout = intMax := by
  rw [engineTimeout]
  split_ifs <;> omega

/-- **Options and timeout keep their meaning exactly if the order has nothing to lose.** For every
order and every call that its dispatch makes with options and a timeout, whatever the engine
answers: what the call gets is what the client meant exactly if the arm is listed in the switches or
the fields in question are as good as unset, and no key of the advertised mask is set. -/
theorem order_meaning_iff (env : DispatchAnswers) (cmd : AICommand) (order : UnitOrder)
    (horder : orderOf cmd = some order) (event : DispatchEvent)
    (hevent : event ∈ (env.dispatch cmd).2) (word deadline : ℤ)
    (hargs : event.orderArgs = some (word, deadline)) :
    KeepsMeaning order word deadline ↔ NothingToLose cmd order := by
  obtain ⟨rfl, rfl⟩ := Prod.mk.inj (env.orderArgs_of_dispatch horder hevent hargs)
  have hoptions : optionsOf cmd = toSigned 16 order.options ↔
      (listsOptions cmd = false → order.options % 2 ^ 16 = 0) := by
    rw [optionsOf_eq horder]
    rcases listsOptions cmd with - | -
    · simpa using zero_eq_toSigned_iff
    · simp
  have htimeout : timeoutOf cmd = engineTimeout order.timeout ↔
      (listsTimeout cmd = false → order.timeout ≤ 0 ∨ order.timeout = intMax) := by
    rw [timeoutOf_eq horder]
    rcases listsTimeout cmd with - | -
    · simpa using intMax_eq_engineTimeout_iff
    · simp
  refine ⟨fun h ↦ ⟨hoptions.1 h.options, htimeout.1 h.timeout, fun hmask ↦ ?_⟩,
    fun h ↦ ⟨hoptions.2 h.options, htimeout.2 h.timeout, fun hmask ↦ ?_⟩⟩
  · have hkeys := h.keys hmask
    rw [h.options] at hkeys
    exact (keysArrive_cast_iff hmask).1 hkeys
  · rw [hoptions.2 h.options]
    exact (keysArrive_cast_iff hmask).2 (h.keys hmask)

/-- Everything a dispatch looks for is there, and every call returns. -/
def steadyAnswers : DispatchAnswers where
  circuitDef := fun _ ↦ some true
  friendlyUnit := fun _ ↦ true
  giveMeUnit := .returned 1

/-- Where the orders below go. -/
def destination : Vector3 := ⟨.finite 100, .zero, .finite 200⟩

theorem order_meaning_iff_timedMove :
    DispatchEvent.engine (.cmdMoveTo destination 0 90) (.returned ()) ∈
        (steadyAnswers.dispatch (.moveUnit ⟨7, 0, 0, 90⟩ destination)).2 ∧
      (KeepsMeaning ⟨7, 0, 0, 90⟩ 0 90 ↔
        NothingToLose (.moveUnit ⟨7, 0, 0, 90⟩ destination) ⟨7, 0, 0, 90⟩) :=
  ⟨mem_cons_self, order_meaning_iff steadyAnswers (.moveUnit ⟨7, 0, 0, 90⟩ destination) _ rfl
    (.engine (.cmdMoveTo destination 0 90) (.returned ())) mem_cons_self 0 90 rfl⟩

/-- **A queued order arrives as an immediate one.** A move with SHIFT reaches the engine with the
word 1, in which no key is down; a capture with SHIFT and a timeout of 300 reaches it with neither.
-/
theorem queued_order_is_immediate :
    (DispatchEvent.engine (.cmdMoveTo destination 1 intMax) (.returned ()) ∈
        (steadyAnswers.dispatch (.moveUnit ⟨7, 0, 1, 0⟩ destination)).2 ∧
      ¬KeepsMeaning ⟨7, 0, 1, 0⟩ 1 intMax) ∧
    DispatchEvent.engine (.executeCustomCommand 130 [.ofInt 9] 0 intMax) (.returned ()) ∈
        (steadyAnswers.dispatch (.capture ⟨7, 0, 1, 300⟩ 9)).2 ∧
      ¬KeepsMeaning ⟨7, 0, 1, 300⟩ 0 intMax := by
  refine ⟨⟨mem_cons_self, fun h ↦ ?_⟩, mem_cons_self, fun h ↦ ?_⟩
  · have hshift := (h.keys (by decide)).shift
    unfold engineHas wireHas at hshift
    exact absurd hshift (by decide)
  · exact absurd h.timeout (by decide)

end HighBar.Grpc
