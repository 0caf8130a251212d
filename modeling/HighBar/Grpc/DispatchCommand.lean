import HighBar.Library.FixedWidth
import HighBar.Library.SwitchedFlag
import HighBar.Proto.Commands

/-!
# Dispatching a command

`DispatchCommand` turns each of the 66 command arms into engine calls. `DispatchAnswers` holds what
the dispatch finds and what each call **site** comes back with; no site is passed twice in one
dispatch, so a choice of answers is exactly a pattern of failing and throwing calls.

Most arms are one call of the unit, of a raw command id, or of one of the engine's interfaces, and
nothing if the interface is missing. Four arms need cheats: they are inside a `ScopedCheatEnable`,
whose destructor runs on every exit.

The engine's own texts are left out: an exception is logged with the fixed part of the message.
-/

namespace HighBar.Grpc

/-- An entry of the parameter list of a raw command: a number cast to `float`, or a `float`. -/
inductive CommandParam where
  | ofInt (value : ℤ)
  | ofFloat (value : FloatValue)
deriving Repr, DecidableEq

/-- The engine calls of which a dispatch uses nothing but that they return. -/
inductive EngineCall where
  -- `CCircuitUnit`
  | cmdMoveTo (position : Vector3) (options timeout : ℤ)
  | cmdPatrolTo (position : Vector3) (options timeout : ℤ)
  | cmdFightTo (position : Vector3) (options timeout : ℤ)
  | cmdAttackGround (position : Vector3) (options timeout : ℤ)
  | cmdStop (options timeout : ℤ)
  | cmdWait (state : Bool)
  | cmdBuild (defId : ℤ) (position : Vector3) (facing options timeout : ℤ)
  | cmdRepair (targetId options timeout : ℤ)
  | cmdReclaimUnit (targetId options timeout : ℤ)
  | cmdReclaimInArea (position : Vector3) (radius : FloatValue) (options timeout : ℤ)
  | cmdResurrectInArea (position : Vector3) (radius : FloatValue) (options timeout : ℤ)
  | cmdSelfD (state : Bool)
  | cmdWantedSpeed (speed : FloatValue)
  | cmdSetFireState (state : ℤ)
  | cmdSetMoveState (state : ℤ)
  /-- `springai::Unit`. -/
  | executeCustomCommand (cmdId : ℤ) (params : List CommandParam) (options timeout : ℤ)
  -- `Game`
  | sendTextMessage (text : String) (zone : ℤ)
  | setLastMessagePosition (position : Vector3)
  | setPause (enable : Bool) (reason : String)
  -- `Pathing`
  | initPath (startPosition endPosition : Vector3) (pathType : ℤ) (goalRadius : FloatValue)
  | getApproximateLength (startPosition endPosition : Vector3) (pathType : ℤ)
      (goalRadius : FloatValue)
  | getNextWaypoint (pathId : ℤ)
  | freePath (pathId : ℤ)
  -- `Lua`
  | callRules (data : String)
  | callUI (data : String)
  -- `Drawer` and `Figure`
  | addPoint (position : Vector3) (label : String)
  | addLine (fromPosition toPosition : Vector3)
  | deletePointsAndLines (position : Vector3)
  | drawSpline (position1 position2 position3 position4 : Vector3) (width : FloatValue)
      (arrow : Bool) (lifespan figureGroupId : ℤ)
  | drawLine (fromPosition toPosition : Vector3) (width : FloatValue) (arrow : Bool)
      (lifespan figureGroupId : ℤ)
  /-- The components before they are scaled to bytes. -/
  | setColor (figureId : ℤ) (r g b a : FloatValue)
  | removeFigure (figureId : ℤ)
  | drawUnit (unitDefId : ℤ) (position : Vector3) (rotation : FloatValue) (lifespan teamId : ℤ)
      (transparent drawBorder : Bool) (facing : ℤ)
  -- `Cheats` and `Economy`
  | setMyIncomeMultiplier (factor : FloatValue)
  | giveMeResource (name : String) (amount : FloatValue)
  | sendResource (name : String) (amount : FloatValue) (receivingTeamId : ℤ)
deriving Repr, DecidableEq

/-- One call with what it came back with. -/
inductive DispatchEvent where
  | engine (call : EngineCall) (outcome : Outcome Unit)
  /-- Whether the drawer has figures. -/
  | getFigure (outcome : Outcome Bool)
  /-- Whether there is an economy. -/
  | getEconomy (outcome : Outcome Bool)
  /-- Whether the resource is known. -/
  | getResourceByName (name : String) (outcome : Outcome Bool)
  /-- The id of the unit, not positive when there is none. -/
  | giveMeUnit (unitDefId : ℤ) (position : Vector3) (outcome : Outcome ℤ)
  | isEnabled (outcome : Outcome Bool)
  | setEnabled (enabled : Bool) (outcome : Outcome Bool)
  | logError (message : String) (outcome : Outcome Unit)
deriving Repr, DecidableEq

/-- What a dispatch finds, and what each call site comes back with. -/
structure DispatchAnswers where
  hasAi : Bool := true
  hasUnit : Bool := true
  /-- `unit->GetUnit()`. -/
  hasEngineUnit : Bool := true
  hasGame : Bool := true
  hasPathing : Bool := true
  hasLua : Bool := true
  hasCheats : Bool := true
  hasDrawer : Bool := true
  hasCallback : Bool := true
  /-- `GetCircuitDefSafe`, with whether the definition it finds has an engine counterpart. -/
  circuitDef : ℤ → Option Bool
  /-- `GetFriendlyUnit` finds a unit. -/
  friendlyUnit : ℤ → Bool
  /-- The one call of an arm that uses nothing of its result. -/
  engine : Outcome Unit := .returned ()
  getFigure : Outcome Bool := .returned true
  getEconomy : Outcome Bool := .returned true
  getResourceByName : Outcome Bool := .returned true
  giveMeUnit : Outcome ℤ
  isEnabled : Outcome Bool := .returned false
  /-- `SetEnabled(true)` in `EnsureActive`. -/
  enable : Outcome Bool := .returned true
  /-- `SetEnabled(false)` in the destructor. -/
  restore : Outcome Bool := .returned true
  /-- `LogError` in `EnsureActive`, where cheats cannot be enabled. -/
  logUnable : Outcome Unit := .returned ()
  /-- `LogError` in the handlers of `EnsureActive`. -/
  logEnableFailed : Outcome Unit := .returned ()
  /-- `LogError` in the handlers of the destructor. -/
  logDisableFailed : Outcome Unit := .returned ()
  /-- `LogError` in an arm. -/
  logError : Outcome Unit := .returned ()
  /-- `LogError` in the handlers of an arm. -/
  logException : Outcome Unit := .returned ()

/-- `OptionsOf`: the `options` of the arms it knows, cast to `short`. -/
def optionsOf : AICommand → ℤ
  | .buildUnit order .. | .stop order | .wait order | .timedWait order _ | .moveUnit order _
  | .patrol order _ | .fight order _ | .attack order _ | .attackArea order .. | .guard order _
  | .repair order _ | .reclaimUnit order _ | .reclaimArea order .. | .reclaimInArea order ..
  | .reclaimFeature order _ | .resurrectInArea order .. | .selfDestruct order | .dgun order _
  | .setWantedMaxSpeed order _ | .setFireState order _ | .setMoveState order _ =>
    toSigned 16 order.options
  | _ => 0

/-- `INT_MAX`. -/
def intMax : ℤ := 2147483647

/-- `TimeoutOf`: no timeout is `INT_MAX`. -/
def timeoutOf (cmd : AICommand) : ℤ :=
  let timeout := match cmd with
    | .moveUnit order _ | .patrol order _ | .fight order _ | .attack order _
    | .attackArea order .. | .repair order _ | .reclaimUnit order _ | .reclaimInArea order ..
    | .resurrectInArea order .. | .buildUnit order .. | .dgun order _ => order.timeout
    | _ => 0
  if timeout ≤ 0 then intMax else timeout

/-- `CMD_MANUAL_LAUNCH`. -/
def cmdManualLaunch : ℤ := 32102

/-- `CMD_BAR_PRIORITY`. -/
def cmdBarPriority : ℤ := 34571

/-- `CMD_WANT_CLOAK`. -/
def cmdWantCloak : ℤ := 37382

/-- What is wrong with the parameters of a `custom` command. -/
def customError (commandId : ℤ) (paramsSize : ℕ) : Option String :=
  if commandId = cmdManualLaunch then
    if paramsSize ≠ 1 ∧ paramsSize ≠ 3 then
      some "custom: MANUAL_LAUNCH expects unit-id or map-position params"
    else none
  else if commandId = cmdBarPriority ∨ commandId = cmdWantCloak then
    if paramsSize ≠ 1 then some "custom: mode-toggle command expects exactly one param" else none
  else if commandId = 34922 ∨ commandId = 34923 then
    if paramsSize ≠ 1 ∧ paramsSize ≠ 3 then
      some "custom: set-target command expects unit-id or map-position params"
    else none
  else if commandId = 34924 then
    if paramsSize ≠ 0 then some "custom: UNIT_CANCEL_TARGET expects no params" else none
  else if commandId = 34925 then
    if paramsSize < 3 then some "custom: UNIT_SET_TARGET_RECTANGLE expects area params" else none
  else none

/-- The name a resource is looked up under. -/
def dispatchResourceName (resourceId : ℤ) : String := if resourceId = 0 then "Metal" else "Energy"

/-- A dispatch: its one mutable variable is `restore_disabled_` of the cheat scope. -/
abbrev Dispatching (α : Type) : Type := Calls DispatchEvent Bool α

open Calls (call catchAll always)
open SwitchedFlag (switchOn switchBack)

namespace DispatchAnswers

variable (env : DispatchAnswers)

/-! ### Calls -/

/-- `LogError` in an arm, and the arm fails. -/
def fail (message : String) : Dispatching Bool := do
  call (.logError message) env.logError
  pure false

/-- The handlers of an arm. -/
def failCaught (message : String) : Dispatching Bool := do
  call (.logError message) env.logException
  pure false

/-- One engine call, and the arm succeeds. -/
def engineCall (action : EngineCall) : Dispatching Bool := do
  call (.engine action) env.engine
  pure true

/-- One engine call through an interface, if it is there. -/
def through (present : Bool) (action : EngineCall) : Dispatching Bool :=
  if present then env.engineCall action else pure false

/-- One call through the figures of the drawer. -/
def throughFigure (action : EngineCall) : Dispatching Bool :=
  if env.hasDrawer then do
    let figure ← call .getFigure env.getFigure
    if figure then env.engineCall action else pure false
  else pure false

/-! ### `ScopedCheatEnable` -/

/-- `EnsureActive`: whether cheats are on now. -/
def ensureActive (commandName : String) : Dispatching Bool :=
  if env.hasCheats then
    catchAll
      (do
        let active ← switchOn .isEnabled .setEnabled env.isEnabled env.enable
        if active then pure true
        else
          call (.logError (commandName ++ ": unable to enable cheats")) env.logUnable
          pure false)
      (do
        call (.logError (commandName ++ ": cheat enable failed: ")) env.logEnableFailed
        pure false)
  else pure false

/-- The destructor. -/
def restoreScope (commandName : String) : Dispatching Unit :=
  catchAll (switchBack .setEnabled env.restore)
    (call (.logError (commandName ++ ": cheat disable failed: ")) env.logDisableFailed)

/-- An arm inside a scope. -/
def underScope (commandName : String) (body : Dispatching Bool) : Dispatching Bool :=
  if env.hasCheats then
    always
      (do
        let active ← env.ensureActive commandName
        if active then body else pure false)
      (env.restoreScope commandName)
  else pure false

/-- An engine call in an arm's own handler. -/
def guarded (commandName : String) (action : EngineCall) : Dispatching Bool :=
  catchAll (env.engineCall action) (env.failCaught (commandName ++ ": "))

/-- The arm of `give_me_new_unit`, with cheats on. -/
def giveMeNewUnit (unitDefId : ℤ) (position : Vector3) : Dispatching Bool :=
  if unitDefId ≤ 0 then env.fail "give_me_new_unit: invalid def_id <= 0"
  else match env.circuitDef unitDefId with
    | none | some false => pure false
    | some true =>
      catchAll
        (do
          let spawned ← call (.giveMeUnit unitDefId position) env.giveMeUnit
          if spawned ≤ 0 then env.fail "give_me_new_unit: engine returned unit_id <= 0"
          else pure true)
        (env.failCaught "give_me_new_unit: ")

/-- The arm of `give_me`, with cheats on. -/
def giveMe (resourceId : ℤ) (amount : FloatValue) : Dispatching Bool :=
  if amount.le .zero then env.fail "give_me: invalid amount <= 0"
  else if env.hasCallback then do
    let known ← call (.getResourceByName (dispatchResourceName resourceId)) env.getResourceByName
    if known then
      env.guarded "give_me" (.giveMeResource (dispatchResourceName resourceId) amount)
    else pure false
  else pure false

/-! ### The switch -/

/-- The arm of `build_unit`. -/
def buildUnit (defId : ℤ) (position : Vector3) (facing options timeout : ℤ) : Dispatching Bool :=
  if defId ≤ 0 then env.fail "build: invalid def_id <= 0"
  else match env.circuitDef defId with
    | none => env.fail "build: unknown def_id (validated away — should not happen)"
    | some _ => env.engineCall (.cmdBuild defId position facing options timeout)

/-- The arm of `custom`. -/
def custom (commandId : ℤ) (params : List FloatValue) (options timeout : ℤ) : Dispatching Bool :=
  if env.hasEngineUnit then
    match customError commandId params.length with
    | some message => env.fail message
    | none =>
      env.engineCall (.executeCustomCommand commandId (params.map .ofFloat) options timeout)
  else pure false

/-- The arm of `send_resources`. -/
def sendResources (resourceId : ℤ) (amount : FloatValue) (receivingTeamId : ℤ) :
    Dispatching Bool :=
  if env.hasCallback then do
    let economy ← call .getEconomy env.getEconomy
    if economy then
      let known ← call (.getResourceByName (dispatchResourceName resourceId)) env.getResourceByName
      if known then
        env.engineCall (.sendResource (dispatchResourceName resourceId) amount receivingTeamId)
      else pure false
    else pure false
  else pure false

/-- The arm of `draw_unit`. -/
def drawUnit (unitDefId : ℤ) (action : EngineCall) : Dispatching Bool :=
  if env.hasDrawer then
    match env.circuitDef unitDefId with
    | none | some false => pure false
    | some true => env.engineCall action
  else pure false

/-- A command by its raw id, through `unit->GetUnit()`. -/
def byId (cmd : AICommand) (cmdId : ℤ) (params : List CommandParam) : Dispatching Bool :=
  env.through env.hasEngineUnit (.executeCustomCommand cmdId params (optionsOf cmd) (timeoutOf cmd))

/-- A position, and a radius, as parameters. -/
def areaParams (position : Vector3) (radius : FloatValue) : List CommandParam :=
  [.ofFloat position.x, .ofFloat position.y, .ofFloat position.z, .ofFloat radius]

/-- The switch of `DispatchCommand`. -/
def dispatchArm (cmd : AICommand) : Dispatching Bool :=
  let opts := optionsOf cmd
  let timeout := timeoutOf cmd
  match cmd with
  | .moveUnit _ position => env.engineCall (.cmdMoveTo position opts timeout)
  | .patrol _ position => env.engineCall (.cmdPatrolTo position opts timeout)
  | .fight _ position => env.engineCall (.cmdFightTo position opts timeout)
  | .attackArea _ position _ => env.engineCall (.cmdAttackGround position opts timeout)
  | .stop _ => env.engineCall (.cmdStop opts timeout)
  | .wait _ => env.engineCall (.cmdWait true)
  | .buildUnit _ defId position facing => env.buildUnit defId position facing opts timeout
  | .repair _ targetId =>
    env.through (env.friendlyUnit targetId) (.cmdRepair targetId opts timeout)
  | .reclaimUnit _ targetId =>
    env.through (env.friendlyUnit targetId) (.cmdReclaimUnit targetId opts timeout)
  | .reclaimInArea _ position radius =>
    env.engineCall (.cmdReclaimInArea position radius opts timeout)
  | .resurrectInArea _ position radius =>
    env.engineCall (.cmdResurrectInArea position radius opts timeout)
  | .selfDestruct _ => env.engineCall (.cmdSelfD true)
  | .setWantedMaxSpeed _ speed => env.engineCall (.cmdWantedSpeed speed)
  | .setFireState _ state => env.engineCall (.cmdSetFireState state)
  | .setMoveState _ state => env.engineCall (.cmdSetMoveState state)
  -- no `Cmd*` method: the raw command ids
  | .attack _ targetId => env.byId cmd 20 [.ofInt targetId]
  | .guard _ targetId => env.byId cmd 25 [.ofInt targetId]
  | .dgun _ targetId => env.byId cmd 105 [.ofInt targetId]
  | .capture _ targetId => env.byId cmd 130 [.ofInt targetId]
  | .setOnOff _ on => env.byId cmd 85 [.ofInt (if on then 1 else 0)]
  | .setRepeat _ repeats => env.byId cmd 115 [.ofInt (if repeats then 1 else 0)]
  | .stockpile _ => env.byId cmd 100 []
  | .timedWait _ waitTime => env.byId cmd 6 [.ofInt waitTime]
  | .squadWait _ numUnits => env.byId cmd 8 [.ofInt numUnits]
  | .deathWait _ deathUnitId => env.byId cmd 7 [.ofInt deathUnitId]
  | .gatherWait _ => env.byId cmd 9 []
  | .reclaimArea _ position radius => env.byId cmd 90 (areaParams position radius)
  | .reclaimFeature _ featureId => env.byId cmd 90 [.ofInt featureId]
  | .restoreArea _ position radius => env.byId cmd 110 (areaParams position radius)
  | .resurrect _ featureId => env.byId cmd 125 [.ofInt featureId]
  | .captureArea _ position radius => env.byId cmd 130 (areaParams position radius)
  | .setBase _ position =>
    env.byId cmd 55 [.ofFloat position.x, .ofFloat position.y, .ofFloat position.z]
  | .loadUnits _ toLoadUnitIds => env.byId cmd 75 (toLoadUnitIds.map .ofInt)
  | .loadUnitsArea _ position radius => env.byId cmd 75 (areaParams position radius)
  | .loadOnto _ transportUnitId => env.byId cmd 76 [.ofInt transportUnitId]
  | .unloadUnit _ position toUnloadUnitId =>
    env.byId cmd 81 [.ofFloat position.x, .ofFloat position.y, .ofFloat position.z,
      .ofInt toUnloadUnitId]
  | .unloadUnitsArea _ position radius => env.byId cmd 80 (areaParams position radius)
  | .setTrajectory _ trajectory => env.byId cmd 120 [.ofInt trajectory]
  | .setAutoRepairLevel _ level => env.byId cmd 135 [.ofInt level]
  | .setIdleMode _ mode => env.byId cmd 145 [.ofInt mode]
  -- the game, its paths and Lua
  | .sendTextMessage text zone => env.through env.hasGame (.sendTextMessage text zone)
  | .setLastPosMessage position => env.through env.hasGame (.setLastMessagePosition position)
  | .pauseTeam enable => env.through env.hasGame (.setPause enable "via highbar gRPC")
  | .initPath startPosition endPosition pathType goalRadius =>
    env.through env.hasPathing (.initPath startPosition endPosition pathType goalRadius)
  | .getApproxLength startPosition endPosition pathType goalRadius =>
    env.through env.hasPathing (.getApproximateLength startPosition endPosition pathType goalRadius)
  | .getNextWaypoint pathId => env.through env.hasPathing (.getNextWaypoint pathId)
  | .freePath pathId => env.through env.hasPathing (.freePath pathId)
  | .callLuaRules data => env.through env.hasLua (.callRules data)
  | .callLuaUi data => env.through env.hasLua (.callUI data)
  | .custom _ commandId params => env.custom commandId params opts timeout
  | .setMyIncomeShareDirect _ share =>
    env.underScope "set_my_income_share_direct"
      (env.guarded "set_my_income_share_direct" (.setMyIncomeMultiplier share))
  | .setShareLevel _ shareLevel =>
    env.underScope "set_share_level"
      (env.guarded "set_share_level" (.setMyIncomeMultiplier shareLevel))
  | .groupAddUnit _ groupId => env.byId cmd 36 [.ofInt groupId]
  | .groupRemoveUnit .. => env.byId cmd 37 []
  -- drawing
  | .drawAddPoint position label => env.through env.hasDrawer (.addPoint position label)
  | .drawAddLine fromPosition toPosition =>
    env.through env.hasDrawer (.addLine fromPosition toPosition)
  | .drawRemovePoint position => env.through env.hasDrawer (.deletePointsAndLines position)
  | .createSplineFigure position1 position2 position3 position4 width arrow lifespan groupId =>
    env.throughFigure
      (.drawSpline position1 position2 position3 position4 width arrow lifespan groupId)
  | .createLineFigure fromPosition toPosition width arrow lifespan groupId =>
    env.throughFigure (.drawLine fromPosition toPosition width arrow lifespan groupId)
  -- the engine cannot move a figure
  | .setFigurePosition .. => pure env.hasDrawer
  | .setFigureColor figureId r g b a => env.throughFigure (.setColor figureId r g b a)
  | .removeFigure figureId => env.throughFigure (.removeFigure figureId)
  | .drawUnit unitDefId position rotation lifespan teamId transparent drawBorder facing =>
    env.drawUnit unitDefId
      (.drawUnit unitDefId position rotation lifespan teamId transparent drawBorder facing)
  | .giveMeNewUnit unitDefId position =>
    env.underScope "give_me_new_unit" (env.giveMeNewUnit unitDefId position)
  | .sendResources resourceId amount receivingTeamId =>
    env.sendResources resourceId amount receivingTeamId
  | .giveMe resourceId amount => env.underScope "give_me" (env.giveMe resourceId amount)
  | .notSet => env.fail "command arm not yet wired to engine (skipped)"

/-- `DispatchCommand`. -/
def dispatchCommand (cmd : AICommand) : Dispatching Bool :=
  if env.hasAi && env.hasUnit then env.dispatchArm cmd else pure false

/-- What `DispatchCommand` comes back with, and the calls it made. -/
def dispatch (cmd : AICommand) : Outcome Bool × List DispatchEvent :=
  match (env.dispatchCommand cmd).run ⟨false, []⟩ with
  | .ok ok s => (.returned ok, s.log)
  | .error _ s => (.threw, s.log)

/-- What the calls of a dispatch satisfy, however it ends. -/
theorem dispatch_calls_iff (cmd : AICommand) (P : List DispatchEvent → Prop) :
    P (env.dispatch cmd).2 ↔
      Calls.wp (env.dispatchCommand cmd) (fun _ s ↦ P s.log) (fun s ↦ P s.log) ⟨false, []⟩ := by
  rw [dispatch, Calls.wp]
  rcases (env.dispatchCommand cmd).run ⟨false, []⟩ with ⟨ok, s⟩ | ⟨-, s⟩
  · exact Iff.rfl
  · exact Iff.rfl

end DispatchAnswers

end HighBar.Grpc
