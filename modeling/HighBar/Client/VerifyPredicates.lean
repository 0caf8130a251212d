import HighBar.Client.CollectLiveRows
import HighBar.Proto.Delta

/-!
# The verify-predicates of the arms

A verify-predicate compares a snapshot from before the dispatch of a command with one from after it,
and may consult the **delta log**, the events the client received meanwhile. It returns a verdict or
raises, and the registry says which arm is judged by which predicate.

Positions and health are floats of the client. What the predicates compute from them, differences
and distances, is `FloatArithmetic`: nothing is assumed about it, and nothing here depends on it.

A received event is an `Option`: `none` is an event whose arm the client does not know, for which
`WhichOneof` returns `None`. The evidence texts of the outcomes are left out; a `Verdict` is what is
recorded as `verified` and `error`.
-/

namespace HighBar.Client

/-! ### Snapshots -/

/-- The floating-point operations of the predicates and selectors. -/
structure FloatArithmetic where
  sub : FloatValue → FloatValue → FloatValue
  abs : FloatValue → FloatValue
  /-- The sum of the three squares in the keys of the selectors. -/
  squaredDistance : Vector3 → Vector3 → FloatValue
  /-- `_distance`. -/
  distance : Vector3 → Vector3 → FloatValue

/-- `OwnUnit`. -/
structure OwnUnit where
  unitId : ℤ
  position : Vector3
  health : FloatValue
  maxHealth : FloatValue
  underConstruction : Bool := false
  buildProgress : FloatValue := .zero
deriving Repr, DecidableEq

/-- `EnemyUnit`. -/
structure EnemyUnit where
  unitId : ℤ
  position : Vector3
  health : FloatValue
deriving Repr, DecidableEq

/-- `MapFeature`. -/
structure MapFeature where
  featureId : ℕ
  position : Vector3
  reclaimValueMetal : FloatValue
  reclaimValueEnergy : FloatValue
deriving Repr, DecidableEq

/-- `StateSnapshot`, as far as the predicates read it. -/
structure Snapshot where
  ownUnits : List OwnUnit
  visibleEnemies : List EnemyUnit
  mapFeatures : List MapFeature
deriving Repr, DecidableEq

/-- What `_find_unit` is used for: the position and the health. -/
structure FoundUnit where
  position : Vector3
  health : FloatValue
deriving Repr, DecidableEq

/-- `_find_unit`. -/
def Snapshot.findUnit (snap : Snapshot) (unitId : ℤ) : Option FoundUnit :=
  ((snap.ownUnits.find? fun unit ↦ unit.unitId = unitId).map fun unit ↦
      ⟨unit.position, unit.health⟩).or
    ((snap.visibleEnemies.find? fun enemy ↦ enemy.unitId = unitId).map fun enemy ↦
      ⟨enemy.position, enemy.health⟩)

/-- `_find_feature`. -/
def Snapshot.findFeature (snap : Snapshot) (featureId : ℕ) : Option MapFeature :=
  snap.mapFeatures.find? fun feature ↦ feature.featureId = featureId

/-- The ids of the own units. -/
def Snapshot.ownIds (snap : Snapshot) : List ℤ := snap.ownUnits.map OwnUnit.unitId

/-! ### Selectors -/

/-- The comparison `a == b` of floats. -/
def floatEq (a b : FloatValue) : Bool := a.le b && b.le a

/-- The comparison `<` of two keys `(float, int)`. -/
def keyLt (a b : FloatValue × ℤ) : Bool := if floatEq a.1 b.1 then a.2 < b.2 else a.1.lt b.1

/-- `min(items, key=…)`: the first of the least. -/
def minBy {α : Type*} (key : α → FloatValue × ℤ) : List α → Option α
  | [] => none
  | item :: rest =>
    some (rest.foldl (fun best x ↦ if keyLt (key x) (key best) then x else best) item)

/-- The commander: the first own unit with more than 3000 hit points. -/
def Snapshot.commander (snap : Snapshot) : Option OwnUnit :=
  snap.ownUnits.find? fun unit ↦ FloatValue.lt (.finite 3000) unit.maxHealth

/-- `_commander_unit_id_from_snapshot`. -/
def commanderUnitId (snap : Snapshot) : Option ℤ := snap.commander.map OwnUnit.unitId

/-- `_nearest_visible_enemy_id`. -/
def nearestVisibleEnemyId (arith : FloatArithmetic) (snap : Snapshot) : Option ℤ :=
  snap.commander.bind fun commander ↦
    (minBy (fun enemy ↦ (arith.squaredDistance enemy.position commander.position, enemy.unitId))
      snap.visibleEnemies).map EnemyUnit.unitId

/-- The features that are worth reclaiming. -/
def Snapshot.reclaimable (snap : Snapshot) : List MapFeature :=
  snap.mapFeatures.filter fun feature ↦
    FloatValue.lt .zero feature.reclaimValueMetal || FloatValue.lt .zero feature.reclaimValueEnergy

/-- The key by which features are ranked. -/
def featureKey (arith : FloatArithmetic) (commander : OwnUnit) (feature : MapFeature) :
    FloatValue × ℤ :=
  (arith.squaredDistance feature.position commander.position, feature.featureId)

/-- `_nearest_reclaimable_feature_id`. -/
def nearestReclaimableFeatureId (arith : FloatArithmetic) (snap : Snapshot) : Option ℕ :=
  snap.commander.bind fun commander ↦
    (minBy (featureKey arith commander) snap.reclaimable).map MapFeature.featureId

/-- `_secondary_reclaimable_feature_id`. -/
def secondaryReclaimableFeatureId (arith : FloatArithmetic) (snap : Snapshot) : Option ℕ :=
  snap.commander.bind fun commander ↦
    ((snap.reclaimable.insertionSort fun a b ↦
      keyLt (featureKey arith commander b) (featureKey arith commander a) = false)[1]?).map
        MapFeature.featureId

/-- A unit that is not a commander. -/
def OwnUnit.isLight (unit : OwnUnit) : Bool := unit.maxHealth.lt (.finite 3000)

/-- `_damaged_friendly_unit_id`: the one that lacks the most, and the smaller id among equals. -/
def damagedFriendlyUnitId (arith : FloatArithmetic) (snap : Snapshot) : Option ℤ :=
  let candidates := snap.ownUnits.filter fun unit ↦
    unit.isLight && unit.health.lt unit.maxHealth
  match candidates with
  | first :: rest =>
    let lacks := fun unit : OwnUnit ↦ (arith.sub unit.maxHealth unit.health, -unit.unitId)
    some (rest.foldl (fun best x ↦ if keyLt (lacks best) (lacks x) then x else best) first).unitId
  | [] => (snap.ownUnits.find? OwnUnit.isLight).map OwnUnit.unitId

/-- `_self_destruct_target_unit_id`. -/
def selfDestructTargetUnitId (arith : FloatArithmetic) (snap : Snapshot) : Option ℤ :=
  let near := fun expected : FloatValue ↦ snap.ownUnits.find? fun unit ↦
    (arith.abs (arith.sub unit.maxHealth expected)).le (.finite 1)
  (((near (.finite 690)).or (near (.finite 89))).map OwnUnit.unitId).or
    (damagedFriendlyUnitId arith snap)

/-! ### Verdicts and events -/

/-- The error of an outcome. -/
inductive VerifyError where
  | preconditionUnmet
  | targetUnitDestroyed
  | effectNotObserved
  | cheatsRequired
  | notWireObservable
  | internalError
deriving Repr, DecidableEq

/-- The columns `verified` and `error` of an outcome. -/
inductive Verdict where
  | verified
  | refuted (error : VerifyError)
  | na (error : VerifyError)
deriving Repr, DecidableEq

/-- An event as the client decodes it. -/
abbrev ReceivedEvent := Option DeltaEvent

/-- The name of the arm of an event. -/
def kindName : DeltaEvent → String
  | .unitCreated .. => "unit_created"
  | .unitFinished .. => "unit_finished"
  | .unitDamaged .. => "unit_damaged"
  | .unitDestroyed .. => "unit_destroyed"
  | .unitIdle .. => "unit_idle"
  | .unitMoveFailed .. => "unit_move_failed"
  | .unitGiven .. => "unit_given"
  | .unitCaptured .. => "unit_captured"
  | .enemyEnterLos .. => "enemy_enter_los"
  | .enemyLeaveLos .. => "enemy_leave_los"
  | .enemyEnterRadar .. => "enemy_enter_radar"
  | .enemyLeaveRadar .. => "enemy_leave_radar"
  | .enemyDamaged .. => "enemy_damaged"
  | .enemyDestroyed .. => "enemy_destroyed"
  | .featureCreated .. => "feature_created"
  | .featureDestroyed .. => "feature_destroyed"
  | .economyTick .. => "economy_tick"
  | .commandDispatch .. => "command_dispatch"

/-- `any(d.WhichOneof("kind") in word for d in deltas)`: `in` is the substring test, and `None` on
its left raises. -/
def anyKindIn (word : String) : List ReceivedEvent → Option Bool
  | [] => some false
  | none :: _ => none
  | some event :: rest =>
    if (kindName event).toList <:+: word.toList then some true else anyKindIn word rest

/-- A `unit_created` event of the builder, for a unit that was not there before. -/
def isCreatedBy (builderId : ℤ) (known : List ℤ) : ReceivedEvent → Bool
  | some (.unitCreated unitId builder) => builder = builderId && !known.contains unitId
  | _ => false

/-- A `unit_destroyed` event of the unit. -/
def isDestroyed (target : ℤ) : ReceivedEvent → Bool
  | some (.unitDestroyed unitId _) => unitId = target
  | _ => false

/-- A `feature_destroyed` event of the feature. -/
def isFeatureDestroyed (target : ℕ) : ReceivedEvent → Bool
  | some (.featureDestroyed featureId) => featureId = target
  | _ => false

/-- A `unit_captured` or `unit_given` event of the unit. -/
def isTransferred (target : ℤ) : ReceivedEvent → Bool
  | some (.unitCaptured unitId _ _) | some (.unitGiven unitId _ _) => unitId = target
  | _ => false

/-! ### Predicates -/

/-- `SnapshotPair`, without the log. -/
structure SnapshotPair where
  before : Snapshot
  after : Snapshot
deriving Repr, DecidableEq

/-- The outcome of a threshold. -/
def effectIf (observed : Bool) : Verdict :=
  if observed then .verified else .refuted .effectNotObserved

/-- `position_delta_predicate`. -/
def positionDelta (arith : FloatArithmetic) (unit : Snapshot → Option ℤ) (minDelta : FloatValue)
    (pair : SnapshotPair) : Verdict :=
  match unit pair.before with
  | none => .na .preconditionUnmet
  | some uid =>
    match pair.before.findUnit uid, pair.after.findUnit uid with
    | none, _ => .na .preconditionUnmet
    | some _, none => .refuted .targetUnitDestroyed
    | some pre, some post => effectIf (minDelta.le (arith.distance pre.position post.position))

/-- `health_delta_predicate` with `target_is_enemy`; `none` is an exception. -/
def healthDelta (arith : FloatArithmetic) (target : Snapshot → Option ℤ) (minDrop : FloatValue)
    (pair : SnapshotPair) (deltas : List ReceivedEvent) : Option Verdict :=
  match target pair.before with
  | none => some (.na .preconditionUnmet)
  | some tid =>
    match pair.before.findUnit tid, pair.after.findUnit tid with
    | none, _ => some (.na .preconditionUnmet)
    | some _, none => (anyKindIn "enemy_destroyed" deltas).map fun _ ↦ .verified
    | some pre, some post => some (effectIf (minDrop.le (arith.sub pre.health post.health)))

/-- The part of `combat_engagement_predicate` after the health test. -/
def closesIn (arith : FloatArithmetic) (unit target : Snapshot → Option ℤ)
    (minDistanceDelta : FloatValue) (pair : SnapshotPair) (health : Verdict) : Verdict :=
  match unit pair.before, target pair.before with
  | some uid, some tid =>
    match pair.before.findUnit uid, pair.after.findUnit uid, pair.before.findUnit tid,
      pair.after.findUnit tid with
    | some preUnit, some postUnit, some preTarget, some postTarget =>
      effectIf (minDistanceDelta.le
        (arith.sub (arith.distance preUnit.position preTarget.position)
          (arith.distance postUnit.position postTarget.position)))
    | _, _, _, _ => health
  | _, _ => .na .preconditionUnmet

/-- `combat_engagement_predicate`. -/
def combatEngagement (arith : FloatArithmetic) (unit target : Snapshot → Option ℤ)
    (minDrop minDistanceDelta : FloatValue) (pair : SnapshotPair) (deltas : List ReceivedEvent) :
    Option Verdict :=
  (healthDelta arith target minDrop pair deltas).map fun health ↦
    if health = .verified then .verified
    else closesIn arith unit target minDistanceDelta pair health

/-- The own units that appeared between the snapshots. -/
def SnapshotPair.newUnits (pair : SnapshotPair) : List OwnUnit :=
  pair.after.ownUnits.filter fun unit ↦ !pair.before.ownIds.contains unit.unitId

/-- The part of `build_progress_monotonic_predicate` that reads the snapshots: the newest unit is
under construction and has progress. -/
def siteStarted (pair : SnapshotPair) : Bool :=
  (pair.newUnits.maxOn? OwnUnit.unitId).any fun unit ↦
    unit.underConstruction && !unit.buildProgress.le .zero

/-- `build_progress_monotonic_predicate`. -/
def buildProgressMonotonic (builder : Snapshot → Option ℤ) (pair : SnapshotPair)
    (deltas : List ReceivedEvent) : Verdict :=
  let created := (builder pair.before).any fun builderId ↦
    deltas.any (isCreatedBy builderId pair.before.ownIds)
  if created then .verified else effectIf (siteStarted pair)

/-- A predicate about one target: it is gone or changed in the snapshots, or the log says so. -/
def targetConsumed {ι : Type*} (target : Snapshot → Option ι) (present : ι → Bool)
    (gone : ι → Bool) (event : ι → ReceivedEvent → Bool) (pair : SnapshotPair)
    (deltas : List ReceivedEvent) : Verdict :=
  match target pair.before with
  | none => .na .preconditionUnmet
  | some id =>
    if !present id then .na .preconditionUnmet
    else if gone id then .verified
    else effectIf (deltas.any (event id))

/-- `unit_destroyed_predicate`. -/
def unitDestroyed (target : Snapshot → Option ℤ) (pair : SnapshotPair)
    (deltas : List ReceivedEvent) : Verdict :=
  targetConsumed target (fun id ↦ (pair.before.findUnit id).isSome)
    (fun id ↦ (pair.after.findUnit id).isNone) isDestroyed pair deltas

/-- `feature_consumed_predicate`. -/
def featureConsumed (target : Snapshot → Option ℕ) (pair : SnapshotPair)
    (deltas : List ReceivedEvent) : Verdict :=
  targetConsumed target (fun id ↦ (pair.before.findFeature id).isSome)
    (fun id ↦ (pair.after.findFeature id).isNone) isFeatureDestroyed pair deltas

/-- `capture_ownership_predicate`. -/
def captureOwnership (target : Snapshot → Option ℤ) (pair : SnapshotPair)
    (deltas : List ReceivedEvent) : Verdict :=
  targetConsumed target (fun id ↦ (pair.before.findUnit id).isSome)
    (fun id ↦ pair.after.ownIds.contains id) isTransferred pair deltas

/-- `repair_health_gain_predicate`. -/
def repairHealthGain (arith : FloatArithmetic) (target : Snapshot → Option ℤ)
    (minGain : FloatValue) (pair : SnapshotPair) : Verdict :=
  match target pair.before with
  | none => .na .preconditionUnmet
  | some tid =>
    match pair.before.findUnit tid, pair.after.findUnit tid with
    | some pre, some post => effectIf (minGain.le (arith.sub post.health pre.health))
    | _, _ => .refuted .targetUnitDestroyed

/-- `guard_proximity_predicate`. -/
def guardProximity (arith : FloatArithmetic) (unit target : Snapshot → Option ℤ)
    (minDistanceDelta maxPostDistance : FloatValue) (pair : SnapshotPair) : Verdict :=
  match unit pair.before, target pair.before with
  | some uid, some tid =>
    match pair.before.findUnit uid, pair.after.findUnit uid, pair.before.findUnit tid,
      pair.after.findUnit tid with
    | some preUnit, some postUnit, some preTarget, some postTarget =>
      let preDistance := arith.distance preUnit.position preTarget.position
      let postDistance := arith.distance postUnit.position postTarget.position
      effectIf (minDistanceDelta.le (arith.sub preDistance postDistance) ||
        (postDistance.le maxPostDistance && postDistance.lt preDistance))
    | _, _, _, _ => .refuted .targetUnitDestroyed
  | _, _ => .na .preconditionUnmet

/-- `_cheats_gated_predicate`. -/
def cheatsGated (pair : SnapshotPair) : Verdict :=
  if pair.before.ownUnits.length < pair.after.ownUnits.length then .verified
  else .na .cheatsRequired

/-! ### The registry -/

/-- The verify-predicate of an arm, with its arguments. -/
inductive VerifyRule where
  | notWireObservable
  | alwaysNa
  | cheatsGated
  | effectNotObserved
  | movementProgress (unit : Snapshot → Option ℤ) (minDelta : FloatValue)
  | constructionStarted (builder : Snapshot → Option ℤ)
  | combatEngagement (unit target : Snapshot → Option ℤ) (minDrop minDistanceDelta : FloatValue)
  | healthDelta (target : Snapshot → Option ℤ) (minDrop : FloatValue)
  | guardProximity (unit target : Snapshot → Option ℤ)
      (minDistanceDelta maxPostDistance : FloatValue)
  | repairHealthGain (target : Snapshot → Option ℤ) (minGain : FloatValue)
  | featureConsumed (target : Snapshot → Option ℕ)
  | captureOwnership (target : Snapshot → Option ℤ)
  | unitDestroyed (target : Snapshot → Option ℤ)

/-- The verdict of a rule; `none` is an exception. -/
def VerifyRule.judge (arith : FloatArithmetic) (pair : SnapshotPair) (deltas : List ReceivedEvent) :
    VerifyRule → Option Verdict
  | .notWireObservable => some (.na .notWireObservable)
  | .alwaysNa => some (.na .preconditionUnmet)
  | .cheatsGated => some (Client.cheatsGated pair)
  | .effectNotObserved => some (.refuted .effectNotObserved)
  | .movementProgress unit minDelta => some (positionDelta arith unit minDelta pair)
  | .constructionStarted builder => some (buildProgressMonotonic builder pair deltas)
  | .combatEngagement unit target minDrop minDistanceDelta =>
    Client.combatEngagement arith unit target minDrop minDistanceDelta pair deltas
  | .healthDelta target minDrop => Client.healthDelta arith target minDrop pair deltas
  | .guardProximity unit target minDistanceDelta maxPostDistance =>
    some (Client.guardProximity arith unit target minDistanceDelta maxPostDistance pair)
  | .repairHealthGain target minGain => some (Client.repairHealthGain arith target minGain pair)
  | .featureConsumed target => some (Client.featureConsumed target pair deltas)
  | .captureOwnership target => some (Client.captureOwnership target pair deltas)
  | .unitDestroyed target => some (Client.unitDestroyed target pair deltas)

/-- `_CHANNEL_C_LUA_ARMS`. -/
def channelCLuaArms : List String :=
  ["draw_add_point", "draw_add_line", "draw_remove_point", "send_text_message",
    "set_last_pos_message", "create_spline_figure", "create_line_figure", "set_figure_position",
    "set_figure_color", "remove_figure", "draw_unit", "call_lua_rules", "call_lua_ui"]

/-- `_CHANNEL_B_QUERY_ARMS` and `_TEAM_GLOBAL`, which have no effect in the snapshots. -/
def unobservableArms : List String :=
  ["init_path", "get_approx_length", "get_next_waypoint", "free_path", "group_add_unit",
    "group_remove_unit", "send_resources", "set_my_income_share_direct", "set_share_level",
    "pause_team"]

/-- The arms that are dispatched and have no verifier. -/
def unverifiedUnitArms : List String :=
  ["restore_area", "set_base", "load_units", "load_units_area", "load_onto", "unload_unit",
    "unload_units_area", "custom", "stop", "wait", "timed_wait", "squad_wait", "death_wait",
    "gather_wait", "patrol", "set_wanted_max_speed", "stockpile", "set_on_off", "set_repeat",
    "set_move_state", "set_fire_state", "set_trajectory", "set_auto_repair_level", "set_idle_mode"]

/-- `REGISTRY`: the rule of every arm. -/
def verifyRules (arith : FloatArithmetic) : List (String × VerifyRule) :=
  channelCLuaArms.map (·, .notWireObservable) ++
  unobservableArms.map (·, .alwaysNa) ++
  ["give_me", "give_me_new_unit"].map (·, .cheatsGated) ++
  [("move_unit", .movementProgress commanderUnitId (.finite 48)),
    ("build_unit", .constructionStarted commanderUnitId),
    ("fight", .combatEngagement commanderUnitId (nearestVisibleEnemyId arith) (.finite 1)
      (.finite 48)),
    ("attack", .healthDelta (nearestVisibleEnemyId arith) (.finite 1)),
    ("attack_area", .combatEngagement commanderUnitId (nearestVisibleEnemyId arith) (.finite 1)
      (.finite 48)),
    ("dgun", .healthDelta (nearestVisibleEnemyId arith) (.finite 1)),
    ("reclaim_unit", .healthDelta (nearestVisibleEnemyId arith) (.finite 1)),
    ("guard", .guardProximity commanderUnitId (damagedFriendlyUnitId arith) (.finite 24)
      (.finite 160)),
    ("repair", .repairHealthGain (damagedFriendlyUnitId arith) (.finite 1)),
    ("reclaim_area", .featureConsumed (nearestReclaimableFeatureId arith)),
    ("reclaim_in_area", .featureConsumed (nearestReclaimableFeatureId arith)),
    ("reclaim_feature", .featureConsumed (nearestReclaimableFeatureId arith)),
    ("resurrect", .featureConsumed (secondaryReclaimableFeatureId arith)),
    ("resurrect_in_area", .featureConsumed (secondaryReclaimableFeatureId arith)),
    ("capture", .captureOwnership (nearestVisibleEnemyId arith)),
    ("capture_area", .captureOwnership (nearestVisibleEnemyId arith)),
    ("self_destruct", .unitDestroyed (selfDestructTargetUnitId arith))] ++
  unverifiedUnitArms.map (·, .effectNotObserved)

/-- There are 66 arms, and each has one rule. -/
example (arith : FloatArithmetic) : ((verifyRules arith).map Prod.fst).length = 66 := rfl

/-- What `collect_live_rows` records for a dispatched arm whose post-snapshot has arrived: an
exception of the predicate is an internal error. -/
def recordedVerdict (arith : FloatArithmetic) (rule : VerifyRule) (pair : SnapshotPair)
    (deltas : List ReceivedEvent) : Verdict :=
  (rule.judge arith pair deltas).getD (.refuted .internalError)

end HighBar.Client
