import HighBar.Client.ManifestReset
import HighBar.Library.StepMachine
import HighBar.Proto.Delta
import Mathlib.Algebra.Group.Int.Defs

/-!
# The policy `turtle1`

`Turtle1AI` turns state updates into command batches. With each snapshot, at most once in
`build_interval_frames` frames, it tells one army unit to hold its position and goes through a plan
of what the base lacks; for each entry of the plan it looks for a builder and orders a building.

Unless orders are to be queued, a builder that has an order is **reserved**: it is recorded in
`pending_builds_by_builder` and gets no other order until an event says that it is idle, a snapshot
shows it dead, or the order is too old.

What the policy learns from callbacks, and where a building goes, is part of the input of an update:
an answer may be anything, and so may a position. A batch that does not fit its message makes
`commands.batch` raise; then the update returns nothing and the runner stops, which is a step that
is not enabled.
-/

namespace HighBar.Client.Turtle

/-! ### Configuration and state -/

/-- The groups of `unit_names`. -/
inductive Group where
  | commanders
  | economy
  | factories
  | advancedFactories
  | builders
  | defense
  | army
  | advancedArmy
deriving Repr, DecidableEq

/-- The categories of the plan. -/
inductive Category where
  | mex
  | energy
  | factory
  | builder
  | defense
  | advancedFactory
  | army
  | advancedArmy
deriving Repr, DecidableEq

/-- The configuration of the policy, as far as it decides which orders are given. -/
structure Config where
  maxBatchesPerUpdate : ℤ
  buildIntervalFrames : ℤ
  targetMex : ℤ
  targetEnergy : ℤ
  targetFactories : ℤ
  targetBuilders : ℤ
  targetDefense : ℤ
  targetArmy : ℤ
  targetAdvancedFactories : ℤ
  enableAdvanced : Bool
  queueMacroOrders : Bool
  buildOrderTimeoutFrames : ℤ
  unitNames : Group → List String
  /-- The product of `max_health` and `0.35`. -/
  readyHealth : FloatValue → FloatValue

/-- `_TurtleBuildIntent`. -/
structure BuildIntent where
  builderUnitId : ℤ
  targetDefId : ℤ
  category : Category
  issuedFrame : ℤ
  createdUnitId : Option ℤ := none
deriving Repr, DecidableEq

/-- The state of the policy. A dictionary is a list of its entries; `pendingBuilds` is
`pending_builds_by_builder`, whose keys are the builders of its values. -/
structure State where
  defIdByName : List (String × ℤ)
  buildOptionsByDefId : List (ℤ × List ℤ)
  batchSeq : ℕ
  lastBuildFrame : ℤ
  resolutionAttempted : Bool
  pendingBuilds : List BuildIntent
  macroPauseUntilFrame : ℤ
  armyCursor : ℕ
  advancedArmyCursor : ℕ
  buildSiteCursor : ℕ
deriving Repr, DecidableEq

/-- The state after `__init__`. -/
def initialState (cfg : Config) (defIdByName : List (String × ℤ)) : State :=
  { defIdByName := defIdByName
    buildOptionsByDefId := []
    batchSeq := 1
    lastBuildFrame := -cfg.buildIntervalFrames
    resolutionAttempted := false
    pendingBuilds := []
    macroPauseUntilFrame := 0
    armyCursor := 0
    advancedArmyCursor := 0
    buildSiteCursor := 0 }

/-- `builder_id in self.pending_builds_by_builder`. -/
def State.isPending (s : State) (builderId : ℤ) : Bool :=
  s.pendingBuilds.any fun intent ↦ intent.builderUnitId = builderId

/-- `self.pending_builds_by_builder.pop(builder_id, None)`. -/
def dropIntent (builderId : ℤ) (intents : List BuildIntent) : List BuildIntent :=
  intents.filter fun intent ↦ intent.builderUnitId ≠ builderId

/-! ### Updates and batches -/

/-- `StateSnapshot`, as far as the policy reads it. -/
structure Snapshot where
  frameNumber : ℕ
  ownUnits : List Reset.OwnUnit
  metalIncome : FloatValue
  energyIncome : FloatValue
deriving Repr, DecidableEq

/-- The payload of a `StateUpdate`. An event of a kind that the client does not know is `none`. -/
inductive Payload where
  | snapshot (snapshot : Snapshot)
  | delta (events : List (Option DeltaEvent))
  | keepalive
deriving Repr, DecidableEq

/-- An update, with what the policy is told while it handles it. -/
structure Input where
  frame : ℕ
  payload : Payload
  /-- The ids of the unit defs with their names, where there is one; `none` if a call raises. -/
  unitDefs : Option (List (ℤ × Option String))
  /-- The build options of a def; `none` if the call raises or has no answer. -/
  buildOptions : ℤ → Option (List ℤ)
  /-- `_position_for_category`, with the cursor of the sites. -/
  position : ℕ → Category → Reset.OwnUnit → String → Vector3 × ℕ

/-- An order the client gives. -/
inductive Order where
  | moveState (state : ℕ)
  | fireState (state : ℕ)
  | build (defId : ℤ) (position : Vector3)
deriving Repr, DecidableEq

/-- `CommandBatch`. -/
structure Batch where
  targetUnit : ℕ
  batchSeq : ℕ
  orders : List Order
  /-- The option bits: `SHIFT`, or none. -/
  shift : Bool := false
deriving Repr, DecidableEq

/-- The def that an order builds. -/
def Order.buildDef : Order → Option ℤ
  | .build defId _ => some defId
  | .moveState _ | .fireState _ => none

/-- The batch carries a build order. -/
def Batch.isBuild (batch : Batch) : Bool := batch.orders.any fun order ↦ order.buildDef.isSome

/-- The unit of the batch, once for each build order in it. -/
def Batch.builders (batch : Batch) : List ℕ :=
  (batch.orders.filter fun order ↦ order.buildDef.isSome).map fun _ ↦ batch.targetUnit

/-- The values of a batch fit their fields: `uint64`, and `int32` for ids inside a command. -/
def Batch.fits (batch : Batch) : Bool :=
  decide (batch.batchSeq < 2 ^ 64) && decide (batch.targetUnit < 2 ^ 31) &&
    batch.orders.all fun order ↦ order.buildDef.all fun defId ↦
      decide (-2 ^ 31 ≤ defId) && decide (defId < 2 ^ 31)

/-! ### What the policy knows -/

/-- `_is_ready`. -/
def isReady (cfg : Config) (unit : Reset.OwnUnit) : Bool :=
  FloatValue.zero.lt unit.health && !unit.underConstruction &&
    (unit.maxHealth.le .zero || (cfg.readyHealth unit.maxHealth).le unit.health)

/-- `self.def_id_by_name.get(name)`, if it is not zero. -/
def State.defId (s : State) (name : String) : Option ℤ :=
  (s.defIdByName.lookup name).filter (· ≠ 0)

/-- `_first_resolved`. -/
def State.firstResolved (s : State) (names : List String) : Option String :=
  names.find? fun name ↦ (s.defId name).isSome

/-- `_def_ids_for`. -/
def State.defIdsFor (s : State) (names : List String) : List ℤ := names.filterMap s.defId

/-- `_resolve_defs`. -/
def resolveDefs (cfg : Config) (input : Input) (s : State) : State :=
  let wanted := ([Group.commanders, .economy, .factories, .advancedFactories, .builders, .defense,
    .army, .advancedArmy].flatMap cfg.unitNames).filter fun name ↦
      (s.defIdByName.lookup name).isNone
  if wanted = [] then { s with resolutionAttempted := true }
  else
    match input.unitDefs with
    | none => s
    | some defs =>
      -- a later def of the same name replaces an earlier one
      let resolved := defs.reverse.filterMap fun entry ↦
        (entry.2.filter wanted.contains).map fun name ↦ (name, entry.1)
      { s with defIdByName := resolved ++ s.defIdByName, resolutionAttempted := true }

/-- `_build_options_for_unit`. -/
def buildOptionsForUnit (input : Input) (unit : Reset.OwnUnit) (s : State) : List ℤ × State :=
  match s.buildOptionsByDefId.lookup (unit.defId : ℤ) with
  | some options => (options, s)
  | none =>
    let options := (input.buildOptions unit.defId).getD []
    (options, { s with buildOptionsByDefId := (↑unit.defId, options) :: s.buildOptionsByDefId })

/-- `_can_fallback_build`. -/
def canFallbackBuild (cfg : Config) (s : State) (unit : Reset.OwnUnit) : Category → Bool
  | .mex | .energy | .factory | .defense | .advancedFactory =>
    let baseBuilders := s.defIdsFor (cfg.unitNames .commanders ++ cfg.unitNames .builders)
    if baseBuilders ≠ [] then baseBuilders.contains (unit.defId : ℤ)
    else
      !(s.defIdsFor (cfg.unitNames .factories ++ cfg.unitNames .advancedFactories ++
        cfg.unitNames .army ++ cfg.unitNames .advancedArmy ++ cfg.unitNames .economy ++
        cfg.unitNames .defense)).contains (unit.defId : ℤ)
  | .builder | .army | .advancedArmy =>
    (s.defIdsFor (cfg.unitNames .factories ++ cfg.unitNames .advancedFactories)).contains
      (unit.defId : ℤ)

/-- `_find_builder`. -/
def findBuilder (cfg : Config) (input : Input) (targetDefId : ℤ) (category : Category)
    (assigned : List ℤ) : List Reset.OwnUnit → State → Option Reset.OwnUnit × State
  | [], s => (none, s)
  | unit :: rest, s =>
    if assigned.contains (unit.unitId : ℤ) || !cfg.queueMacroOrders && s.isPending unit.unitId then
      findBuilder cfg input targetDefId category assigned rest s
    else
      let (options, s) := buildOptionsForUnit input unit s
      if options.contains targetDefId || options.isEmpty && canFallbackBuild cfg s unit category
      then (some unit, s)
      else findBuilder cfg input targetDefId category assigned rest s

/-! ### The plan -/

/-- One count of `_counts_by_group`. -/
def countGroup (s : State) (snapshot : Snapshot) (names : List String) : ℤ :=
  snapshot.ownUnits.countP fun unit ↦
    !unit.health.le .zero && (s.defIdsFor names).contains (unit.defId : ℤ)

/-- The names, starting at the cursor. -/
def rotate (names : List String) (cursor : ℕ) : List String :=
  names.drop cursor ++ names.take cursor

/-- `_rotated_army_names(advanced=False)`. -/
def rotatedArmyNames (cfg : Config) (s : State) : List String × State :=
  let names := cfg.unitNames .army
  if names = [] then ([], s)
  else (rotate names s.armyCursor, { s with armyCursor := (s.armyCursor + 1) % names.length })

/-- `_rotated_army_names(advanced=True)`. -/
def rotatedAdvancedArmyNames (cfg : Config) (s : State) : List String × State :=
  let names := cfg.unitNames .advancedArmy
  if names = [] then ([], s)
  else (rotate names s.advancedArmyCursor,
    { s with advancedArmyCursor := (s.advancedArmyCursor + 1) % names.length })

/-- The plan of `_append_macro_batches`. -/
def macroPlan (cfg : Config) (snapshot : Snapshot) (s : State) :
    List (Category × List String) × State :=
  let count := countGroup s snapshot
  let factories := count (cfg.unitNames .factories)
  let advancedFactories := count (cfg.unitNames .advancedFactories)
  let army := count (cfg.unitNames .army ++ cfg.unitNames .advancedArmy)
  let entry (wanted : Bool) (category : Category) (names : List String) :=
    if wanted then [(category, names)] else []
  let base :=
    entry (count ["armmex", "cormex"] < cfg.targetMex) .mex ["armmex", "cormex"] ++
    entry (count ["armsolar", "corsolar", "armwin", "corwin", "armestor", "corestor"] <
      cfg.targetEnergy) .energy ["armsolar", "corsolar", "armwin", "corwin"] ++
    entry (factories < cfg.targetFactories) .factory (cfg.unitNames .factories) ++
    entry (count (cfg.unitNames .builders) < cfg.targetBuilders) .builder
      (cfg.unitNames .builders) ++
    entry (count (cfg.unitNames .defense) < cfg.targetDefense) .defense (cfg.unitNames .defense) ++
    entry (cfg.enableAdvanced && 1 ≤ factories &&
      advancedFactories < cfg.targetAdvancedFactories &&
      FloatValue.le (.finite 2) snapshot.metalIncome &&
      FloatValue.le (.finite 20) snapshot.energyIncome) .advancedFactory
      (cfg.unitNames .advancedFactories)
  if army < cfg.targetArmy then
    let (armyNames, s) := rotatedArmyNames cfg s
    if 0 < advancedFactories then
      let (advancedNames, s) := rotatedAdvancedArmyNames cfg s
      (base ++ [(.army, armyNames), (.advancedArmy, advancedNames)], s)
    else (base ++ [(.army, armyNames)], s)
  else (base, s)

/-! ### Orders -/

/-- What the loop over the plan carries. -/
structure MacroState where
  state : State
  batches : List Batch
  /-- `assigned_builders`. -/
  assigned : List ℤ
deriving Repr, DecidableEq

/-- `self.pending_builds_by_builder[builder_id] = …`. -/
def State.reserve (cfg : Config) (intent : BuildIntent) (s : State) : State :=
  if cfg.queueMacroOrders then s
  else
    { s with
      pendingBuilds := dropIntent intent.builderUnitId s.pendingBuilds ++ [intent]
      macroPauseUntilFrame :=
        max s.macroPauseUntilFrame (intent.issuedFrame + cfg.buildOrderTimeoutFrames) }

/-- The order for one entry of the plan. -/
def orderBuild (cfg : Config) (input : Input) (frame : ℤ) (category : Category)
    (targetName : String) (targetDefId : ℤ) (builder : Reset.OwnUnit) (m : MacroState) :
    Option MacroState :=
  let (position, cursor) := input.position m.state.buildSiteCursor category builder targetName
  let batch : Batch :=
    { targetUnit := builder.unitId, batchSeq := m.state.batchSeq,
      orders := [.build targetDefId position], shift := cfg.queueMacroOrders }
  if batch.fits then
    some
      { state := State.reserve cfg ⟨builder.unitId, targetDefId, category, frame, none⟩
          { m.state with buildSiteCursor := cursor, batchSeq := m.state.batchSeq + 1 }
        batches := m.batches ++ [batch]
        assigned := ↑builder.unitId :: m.assigned }
  else none

/-- The loop of `_append_macro_batches`. -/
def macroLoop (cfg : Config) (input : Input) (ready : List Reset.OwnUnit) (frame : ℤ) :
    List (Category × List String) → MacroState → Option MacroState
  | [], m => some m
  | (category, names) :: rest, m =>
    if cfg.maxBatchesPerUpdate ≤ m.batches.length then some m
    else
      match m.state.firstResolved names with
      | none => macroLoop cfg input ready frame rest m
      | some targetName =>
        let targetDefId := (m.state.defIdByName.lookup targetName).getD 0
        match findBuilder cfg input targetDefId category m.assigned ready m.state with
        | (none, s) => macroLoop cfg input ready frame rest { m with state := s }
        | (some builder, s) => do
          let m ← orderBuild cfg input frame category targetName targetDefId builder
            { m with state := s }
          macroLoop cfg input ready frame rest m

/-- `_append_macro_batches`. -/
def appendMacroBatches (cfg : Config) (input : Input) (snapshot : Snapshot)
    (ready : List Reset.OwnUnit) (frame : ℤ) (batches : List Batch) (s : State) :
    Option (List Batch × State) :=
  let (plan, s) := macroPlan cfg snapshot s
  (macroLoop cfg input ready frame plan ⟨s, batches, []⟩).map fun m ↦ (m.batches, m.state)

/-- `_append_hold_position_batches`. -/
def appendHoldPositionBatches (cfg : Config) (ready : List Reset.OwnUnit) (s : State) :
    Option (List Batch × State) :=
  let armyDefIds := s.defIdsFor (cfg.unitNames .army ++ cfg.unitNames .advancedArmy)
  match ready.find? fun unit ↦ armyDefIds.contains (unit.defId : ℤ) with
  | none => some ([], s)
  | some unit =>
    let batch : Batch :=
      { targetUnit := unit.unitId, batchSeq := s.batchSeq,
        orders := [.moveState 0, .fireState 2] }
    if batch.fits then some ([batch], { s with batchSeq := s.batchSeq + 1 }) else none

/-! ### An update -/

/-- The body of the loop of `_observe_update`. -/
def observeEvent (intents : List BuildIntent) : Option DeltaEvent → List BuildIntent
  | some (.unitIdle unitId) => dropIntent unitId intents
  | some (.unitCreated unitId builderId) =>
    intents.map fun intent ↦
      if intent.builderUnitId = builderId then { intent with createdUnitId := some unitId }
      else intent
  | _ => intents

/-- A pause ends when nothing is pending. -/
def State.withPending (s : State) (intents : List BuildIntent) : State :=
  { s with
    pendingBuilds := intents
    macroPauseUntilFrame := if intents = [] then 0 else s.macroPauseUntilFrame }

/-- `_observe_update`. -/
def observeUpdate (input : Input) (s : State) : State :=
  match input.payload with
  | .delta events =>
    if s.pendingBuilds = [] then s else s.withPending (events.foldl observeEvent s.pendingBuilds)
  | .snapshot _ | .keepalive => s

/-- The snapshot shows the unit dead. -/
def Snapshot.showsDead (snapshot : Snapshot) (unitId : ℤ) : Bool :=
  (snapshot.ownUnits.reverse.find? fun unit ↦ (unit.unitId : ℤ) = unitId).any fun unit ↦
    unit.health.le .zero

/-- `_refresh_pending_builds`. -/
def refreshPendingBuilds (cfg : Config) (snapshot : Snapshot) (frame : ℤ) (s : State) : State :=
  if s.pendingBuilds = [] then s
  else
    s.withPending (s.pendingBuilds.filter fun intent ↦
      !(snapshot.showsDead intent.builderUnitId ||
        decide (intent.issuedFrame + cfg.buildOrderTimeoutFrames ≤ frame)))

/-- `int(update.frame or snapshot.frame_number)`. -/
def Input.frameOf (input : Input) (snapshot : Snapshot) : ℤ :=
  if input.frame ≠ 0 then input.frame else snapshot.frameNumber

/-- The frame of an update that is a snapshot. -/
def Input.snapshotFrame (input : Input) : Option ℤ :=
  match input.payload with
  | .snapshot snapshot => some (input.frameOf snapshot)
  | .delta _ | .keepalive => none

/-- `batches[: n]`. -/
def slice (batches : List Batch) (n : ℤ) : List Batch :=
  if 0 ≤ n then batches.take n.toNat else batches.take (batches.length - (-n).toNat)

/-- The end of `on_state`. -/
def finish (cfg : Config) (frame : ℤ) (result : List Batch × State) : List Batch × State :=
  (slice result.1 cfg.maxBatchesPerUpdate,
    if result.1 = [] then result.2 else { result.2 with lastBuildFrame := frame })

/-- The rest of `on_state`, once there are ready units. -/
def planUpdate (cfg : Config) (input : Input) (snapshot : Snapshot) (frame : ℤ)
    (ready : List Reset.OwnUnit) (s : State) : Option (List Batch × State) := do
  let s := if s.resolutionAttempted then s else resolveDefs cfg input s
  let s := refreshPendingBuilds cfg snapshot frame s
  let (batches, s) ← appendHoldPositionBatches cfg ready s
  if !cfg.queueMacroOrders && !s.pendingBuilds.isEmpty && decide (frame < s.macroPauseUntilFrame)
  then some (finish cfg frame (batches, s))
  else (appendMacroBatches cfg input snapshot ready frame batches s).map (finish cfg frame)

/-- `on_state`. -/
def onState (cfg : Config) (input : Input) (s : State) : Option (List Batch × State) :=
  let s := observeUpdate input s
  match input.payload with
  | .delta _ | .keepalive => some ([], s)
  | .snapshot snapshot =>
    let frame := input.frameOf snapshot
    if frame < s.lastBuildFrame + cfg.buildIntervalFrames then some ([], s)
    else
      let ready := snapshot.ownUnits.filter (isReady cfg)
      if ready = [] then some ([], s) else planUpdate cfg input snapshot frame ready s

/-- The policy together with what it was told and what it returned. -/
structure Run where
  state : State
  history : List (Input × List Batch)

/-- The runs of the policy. -/
def machine (cfg : Config) (defIdByName : List (String × ℤ)) : StepMachine Run Input where
  init := ⟨initialState cfg defIdByName, []⟩
  step run input :=
    (onState cfg input run.state).map fun result ↦
      ⟨result.2, run.history ++ [(input, result.1)]⟩

end HighBar.Client.Turtle
