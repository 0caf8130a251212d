import HighBar.Library.ExceptSpec
import HighBar.Proto.Commands
import Mathlib.Data.List.Dedup
import Mathlib.Data.List.Sort
import Mathlib.Data.String.Basic

/-!
# The reset to the bootstrap manifest

Between two arms the driver restores the units of the bootstrap plan: it compares the manifest, a
count for each def name, with the units that the latest snapshot shows, sends a build order for each
unit that is missing and waits until the counts match. Orders go out in the order of the def names.
An order that a factory has to carry out needs the factory; if it is missing, the driver orders one
by a recursive call and **waits for the manifest** before it goes on.

The engine is a parameter. Its units are the ones it starts with and one for each order, finished at
once and never lost. What the driver sees of them is up to the snapshots: each read of the latest
snapshot shows the units of some of the orders so far, never fewer than the read before, and by the
deadline of a wait a snapshot has arrived that shows all of them.

The driver runs with cheats off; the other branch gives units instead of ordering them.
-/

open ExceptSpec (repeatTimes)

namespace HighBar.Client.Reset

open List

/-! ### The plan -/

/-- What a step of the plan is for. -/
inductive Capability where
  | commander
  | mex
  | solar
  | factoryGround
  | factoryAir
  | radar
  | builder
  | cloakable
deriving Repr, DecidableEq

/-- `BuildStep`. -/
structure BuildStep where
  capability : Capability
  defId : String
  builderCapability : Capability
  relativePosition : Vector3
deriving Repr, DecidableEq

/-- The position with these coordinates. -/
def offset (x y z : ℚ) : Vector3 := ⟨.finite x, .finite y, .finite z⟩

/-- `DEFAULT_BOOTSTRAP_PLAN`. -/
def defaultBootstrapPlan : List BuildStep :=
  [⟨.mex, "armmex", .commander, offset 96 0 0⟩,
    ⟨.solar, "armsolar", .commander, offset (-96) 0 0⟩,
    ⟨.factoryGround, "armvp", .commander, offset 160 0 96⟩,
    ⟨.factoryAir, "armap", .commander, offset (-160) 0 96⟩,
    ⟨.radar, "armrad", .commander, offset 96 0 (-96)⟩,
    ⟨.builder, "armck", .factoryGround, offset 0 0 0⟩,
    ⟨.cloakable, "armpeep", .factoryAir, offset 0 0 0⟩]

/-- `step_by_def_name`. -/
def stepByDefName (name : String) : Option BuildStep :=
  defaultBootstrapPlan.find? fun step ↦ step.defId = name

/-! ### Manifests -/

/-- `ctx.def_id_by_name`: a dictionary, so no name occurs twice. -/
structure DefIds where
  entries : List (String × ℕ)
  nodup : (entries.map Prod.fst).Nodup

/-- `def_id_by_name.get(name, 0)`. -/
def DefIds.get (ids : DefIds) (name : String) : ℕ := (ids.entries.lookup name).getD 0

/-- The name of a def: the last one that has the id. -/
def DefIds.nameOf (ids : DefIds) (defId : ℕ) : String :=
  match ids.entries.reverse.find? fun entry ↦ entry.2 = defId with
  | some entry => entry.1
  | none => s!"def#{defId}"

/-- `OwnUnit`, as far as the reset reads it. -/
structure OwnUnit where
  unitId : ℕ
  defId : ℕ
  position : Vector3
  health : FloatValue
  maxHealth : FloatValue
  underConstruction : Bool
  buildProgress : FloatValue
deriving Repr, DecidableEq

/-- A manifest: a count for each name, no name twice. -/
structure Manifest where
  entries : List (String × ℕ)
  nodup : (entries.map Prod.fst).Nodup

/-- `dict(manifest).get(name, 0)`. -/
def Manifest.count (manifest : Manifest) (name : String) : ℕ :=
  (manifest.entries.lookup name).getD 0

/-- `compute_manifest`. -/
def computeManifest (ids : DefIds) (units : List OwnUnit) : Manifest :=
  let names := units.map fun unit ↦ ids.nameOf unit.defId
  { entries := (names.dedup.insertionSort (· ≤ ·)).map fun name ↦ (name, names.count name)
    nodup := by
      have hfst : (Prod.fst ∘ fun name ↦ (name, names.count name)) = id := rfl
      rw [map_map, hfst, map_id]
      exact ((perm_insertionSort _ _).nodup_iff).2 names.nodup_dedup }

/-- `compute_bootstrap_manifest`. -/
def computeBootstrapManifest (ids : DefIds) (units : List OwnUnit) : Manifest :=
  { entries := (computeManifest ids units).entries.filter fun entry ↦
      defaultBootstrapPlan.any fun step ↦ step.defId = entry.1
    nodup := (computeManifest ids units).nodup.sublist (filter_sublist.map _) }

/-- `manifest_shortages`. -/
def manifestShortages (current target : Manifest) : List (String × ℕ) :=
  (target.entries.insertionSort (·.1 ≤ ·.1)).filterMap fun entry ↦
    if current.count entry.1 < entry.2 then some (entry.1, entry.2 - current.count entry.1)
    else none

/-! ### The context -/

/-- The float operations of the client. -/
structure ClientFloats where
  add : FloatValue → FloatValue → FloatValue
  sub : FloatValue → FloatValue → FloatValue
  abs : FloatValue → FloatValue

/-- What the reset uses of a `BootstrapContext` that changes. -/
structure Context where
  commanderUnitId : ℕ
  commanderPosition : Vector3
  /-- `capability_units["factory_ground"]`. -/
  factoryGround : Option ℕ
  /-- `capability_units["factory_air"]`. -/
  factoryAir : Option ℕ
  observedOwnUnits : List OwnUnit
deriving Repr, DecidableEq

/-- `capability_units.get(capability, 0)`, for the capabilities that build. -/
def Context.capabilityUnit (ctx : Context) : Capability → ℕ
  | .commander => ctx.commanderUnitId
  | .factoryGround => ctx.factoryGround.getD 0
  | .factoryAir => ctx.factoryAir.getD 0
  | .mex | .solar | .radar | .builder | .cloakable => 0

/-- `observed_own_units.get(unit_id)`. -/
def Context.observed (ctx : Context) (unitId : ℕ) : Option OwnUnit :=
  ctx.observedOwnUnits.reverse.find? fun unit ↦ unit.unitId = unitId

/-- `_find_commander`. -/
def findCommander (units : List OwnUnit) : Option OwnUnit :=
  units.foldl (fun commander unit ↦
    if FloatValue.lt (.finite 3000) unit.maxHealth &&
        commander.all fun best ↦ best.maxHealth.lt unit.maxHealth then
      some unit
    else commander) none

/-- The double `0.999`. -/
def almostDone : FloatValue := .finite (8998192055486251 / 9007199254740992)

/-- `_unit_is_ready_fixture_unit`. -/
def OwnUnit.isReady (unit : OwnUnit) : Bool :=
  FloatValue.zero.lt unit.health &&
    !(unit.underConstruction ||
      FloatValue.zero.lt unit.buildProgress && unit.buildProgress.lt almostDone)

/-- `_matches_factory_ground`. The entry it falls back on has just been cleared. -/
def matchesFactoryGround (ids : DefIds) (unit : OwnUnit) : Bool :=
  if ids.get "armvp" ≠ 0 then unit.defId = ids.get "armvp" else unit.unitId = 0

/-- `_matches_factory_air`. -/
def matchesFactoryAir (floats : ClientFloats) (ids : DefIds) (unit : OwnUnit) : Bool :=
  if ids.get "armap" ≠ 0 then unit.defId = ids.get "armap"
  else (floats.abs (floats.sub unit.maxHealth (.finite 2050))).le (.finite 1)

/-- `_refresh_bootstrap_context`, the part that the reset reads. -/
def refreshBootstrapContext (floats : ClientFloats) (ids : DefIds) (units : List OwnUnit)
    (ctx : Context) : Context :=
  let commander := findCommander units
  let commanderUnitId := (commander.map OwnUnit.unitId).getD ctx.commanderUnitId
  let ownUnits := units.filter fun unit ↦ unit.unitId ≠ commanderUnitId
  { commanderUnitId := commanderUnitId
    commanderPosition := (commander.map OwnUnit.position).getD ctx.commanderPosition
    factoryGround := (ownUnits.find? fun unit ↦
      matchesFactoryGround ids unit && unit.isReady).map OwnUnit.unitId
    factoryAir := (ownUnits.find? fun unit ↦
      matchesFactoryAir floats ids unit && unit.isReady).map OwnUnit.unitId
    observedOwnUnits := units }

/-! ### The engine and the snapshots -/

/-- The build order of `_build_unit_batch`. -/
structure BuildOrder where
  builderUnitId : ℕ
  defId : ℕ
  position : Vector3
deriving Repr, DecidableEq

/-- A unit that the engine finishes: alive, complete, and no commander. -/
structure Newborn where
  unitId : ℕ
  position : Vector3
  health : FloatValue
  maxHealth : FloatValue
  buildProgress : FloatValue
  alive : FloatValue.zero.lt health = true
  complete : (FloatValue.zero.lt buildProgress && buildProgress.lt almostDone) = false
  ordinary : FloatValue.lt (.finite 3000) maxHealth = false

/-- The unit of an order. -/
def Newborn.unit (newborn : Newborn) (defId : ℕ) : OwnUnit :=
  ⟨newborn.unitId, defId, newborn.position, newborn.health, newborn.maxHealth, false,
    newborn.buildProgress⟩

theorem Newborn.isReady_unit (newborn : Newborn) (defId : ℕ) :
    (newborn.unit defId).isReady = true := by
  simp only [OwnUnit.isReady, Newborn.unit, newborn.alive, newborn.complete, Bool.or_self,
    Bool.not_false, Bool.and_self]

/-- The engine as the driver meets it. -/
structure Engine where
  /-- The units at the start of the reset. -/
  initial : List OwnUnit
  /-- The unit of each order. -/
  newborn : ℕ → Newborn
  /-- How many orders the snapshot takes in that is the latest at each read. -/
  feed : ℕ → ℕ
  /-- How often a wait that starts after so many reads polls before its deadline. -/
  polls : ℕ → ℕ

/-- The state of the reset. -/
structure State where
  ctx : Context
  orders : List BuildOrder
  /-- How many reads of the latest snapshot there were. -/
  reads : ℕ
  /-- How many orders the latest snapshot takes in. -/
  shown : ℕ
deriving Repr, DecidableEq

/-- The units of the engine after orders for these defs. -/
def Engine.units (engine : Engine) (defs : List ℕ) : List OwnUnit :=
  engine.initial ++ defs.mapIdx fun i defId ↦ (engine.newborn i).unit defId

/-- The defs that were ordered. -/
def State.defs (s : State) : List ℕ := s.orders.map BuildOrder.defId

/-- `_latest_snapshot`. -/
def Engine.latest (engine : Engine) (s : State) : List OwnUnit :=
  engine.units (s.defs.take s.shown)

/-- Some snapshots may arrive. -/
def Engine.read (engine : Engine) (s : State) : State :=
  { s with
    reads := s.reads + 1
    shown := max s.shown (min (engine.feed s.reads) s.orders.length) }

/-- A snapshot arrives that takes in every order. -/
def State.showAll (s : State) : State := { s with shown := s.orders.length }

/-- `_dispatch` of a build order. -/
def State.dispatch (s : State) (order : BuildOrder) : State :=
  { s with orders := s.orders ++ [order] }

/-! ### The reset -/

/-- The exceptions of the reset. -/
inductive ResetError where
  /-- `runtime def id for … was not resolved`. -/
  | defNotResolved (name : String)
  /-- `commander_lost`. -/
  | commanderLost
  /-- `builder capability … is not available`. -/
  | builderNotAvailable (capability : Capability)
  /-- `builder capability … is not observable`. -/
  | builderNotObservable (capability : Capability)
  /-- `timeout waiting for bootstrap manifest to be restored …`, with the remaining shortages and
  the current and the target manifest. -/
  | manifestTimeout (remaining current target : List (String × ℕ))
  /-- The recursion is too deep. -/
  | recursionDepth
deriving Repr, DecidableEq

variable (floats : ClientFloats) (engine : Engine) (ids : DefIds) (target : Manifest)

/-- What the latest snapshot lacks. -/
def remaining (s : State) : List (String × ℕ) :=
  manifestShortages (computeBootstrapManifest ids (engine.latest s)) target

/-- The loop of `_wait_for_manifest_match`. -/
def pollManifest : ℕ → State → Except ResetError State
  | 0, s =>
    let s := s.showAll
    if remaining engine ids target s = [] then .ok s
    else .error (.manifestTimeout (remaining engine ids target s)
      (computeBootstrapManifest ids (engine.latest s)).entries target.entries)
  | polls + 1, s =>
    let s := engine.read s
    if remaining engine ids target s = [] then .ok s else pollManifest polls s

/-- `_wait_for_manifest_match`. -/
def waitForManifestMatch (s : State) : Except ResetError State :=
  pollManifest engine ids target (engine.polls s.reads) s

/-- `_refresh_bootstrap_context` on the latest snapshot. -/
def refresh (s : State) : State :=
  let s := engine.read s
  { s with ctx := refreshBootstrapContext floats ids (engine.latest s) s.ctx }

/-- The order to a factory. -/
def orderFromFactory (step : BuildStep) (s : State) : Except ResetError State :=
  match s.ctx.observed (s.ctx.capabilityUnit step.builderCapability) with
  | none => .error (.builderNotObservable step.builderCapability)
  | some builder => .ok (s.dispatch ⟨s.ctx.capabilityUnit step.builderCapability,
      ids.get step.defId, builder.position⟩)

/-- The body of the inner loop of `_reissue_manifest_shortages`. -/
def orderUnit (reissue : List (String × ℕ) → State → Except ResetError State) (step : BuildStep)
    (s : State) : Except ResetError State :=
  if step.builderCapability = .commander then
    if s.ctx.commanderUnitId = 0 then .error .commanderLost
    else .ok (s.dispatch ⟨s.ctx.commanderUnitId, ids.get step.defId,
      ⟨floats.add s.ctx.commanderPosition.x step.relativePosition.x,
        floats.add s.ctx.commanderPosition.y step.relativePosition.y,
        floats.add s.ctx.commanderPosition.z step.relativePosition.z⟩⟩)
  else
    let s := refresh floats engine ids s
    if s.ctx.capabilityUnit step.builderCapability = 0 then
      match defaultBootstrapPlan.find? fun candidate ↦
          candidate.capability = step.builderCapability with
      | none => .error (.builderNotAvailable step.builderCapability)
      | some prerequisite => do
        let s ← reissue [(prerequisite.defId, 1)] s
        let s ← waitForManifestMatch engine ids target s
        orderFromFactory ids step (refresh floats engine ids s)
    else orderFromFactory ids step s

/-- The body of the outer loop of `_reissue_manifest_shortages`. -/
def orderUnits (reissue : List (String × ℕ) → State → Except ResetError State) (name : String)
    (shortage : ℕ) (s : State) : Except ResetError State :=
  match stepByDefName name with
  | none => .ok s
  | some step =>
    if ids.get name = 0 then .error (.defNotResolved name)
    else repeatTimes (orderUnit floats engine ids target reissue step) shortage s

/-- `_reissue_manifest_shortages`. -/
def reissueManifestShortages : ℕ → List (String × ℕ) → State → Except ResetError State
  | 0, _, _ => .error .recursionDepth
  | depth + 1, shortages, s =>
    (shortages.insertionSort (·.1 ≤ ·.1)).foldlM (fun s entry ↦
      orderUnits floats engine ids target (reissueManifestShortages depth) entry.1 entry.2 s) s

/-- The state in which the reset starts: the latest snapshot shows the units at the start. -/
def Context.start (ctx : Context) : State := ⟨ctx, [], 0, 0⟩

/-- The part of `_reset_live_context_to_manifest` that restores the manifest. The factories are
built by the commander, so that the recursion is two deep (`reissueManifestShortages_depth`). -/
def resetToManifest (ctx : Context) : Except ResetError State :=
  let shortages := manifestShortages (computeBootstrapManifest ids engine.initial) target
  if shortages = [] then .ok ctx.start
  else do
    let s ← reissueManifestShortages floats engine ids target 2 shortages ctx.start
    waitForManifestMatch engine ids target s

end HighBar.Client.Reset
