import HighBar.Proto.Commands

/-!
# Dispatch targets

Which unit a queued command is dispatched to. `IsGameWideCommand` singles out the arms that have no
unit, and `EffectiveDispatchTargetUnitId` turns the batch target into the dispatch target: `-1` for
a game-wide arm, nothing for a unit arm with target zero, and the batch target otherwise.
-/

namespace HighBar.Grpc

/-- `IsGameWideCommand`. -/
def isGameWideCommand : AICommand → Bool
  | .sendTextMessage .. | .setLastPosMessage .. | .pauseTeam .. | .initPath .. => true
  | .getApproxLength .. | .getNextWaypoint .. | .freePath .. => true
  | .callLuaRules .. | .callLuaUi .. => true
  | .setMyIncomeShareDirect .. | .setShareLevel .. => true
  | .drawAddPoint .. | .drawAddLine .. | .drawRemovePoint .. => true
  | .createSplineFigure .. | .createLineFigure .. | .setFigurePosition .. => true
  | .setFigureColor .. | .removeFigure .. | .drawUnit .. => true
  | .giveMeNewUnit .. | .sendResources .. | .giveMe .. => true
  | _ => false

/-- `EffectiveDispatchTargetUnitId`. -/
def effectiveDispatchTargetUnitId (authoritativeTargetUnitId : ℤ) (cmd : AICommand) : Option ℤ :=
  if isGameWideCommand cmd then some (-1)
  else if authoritativeTargetUnitId = 0 then none
  else some authoritativeTargetUnitId

/-- A unit arm is dispatched to a positive batch target. -/
theorem effectiveDispatchTargetUnitId_of_pos {target : ℤ} {cmd : AICommand}
    (hcmd : isGameWideCommand cmd = false) (htarget : 0 < target) :
    effectiveDispatchTargetUnitId target cmd = some target := by
  rw [effectiveDispatchTargetUnitId, hcmd, if_neg Bool.false_ne_true, if_neg (by omega)]

/-- A game-wide command has no unit. -/
theorem effectiveDispatchTargetUnitId_of_gameWide {target : ℤ} {cmd : AICommand}
    (hcmd : isGameWideCommand cmd = true) :
    effectiveDispatchTargetUnitId target cmd = some (-1) := by
  rw [effectiveDispatchTargetUnitId, if_pos hcmd]

end HighBar.Grpc
