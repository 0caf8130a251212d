import HighBar.Grpc.CommandQueue
import HighBar.Grpc.CommandValidatorExact

/-!
# CapabilityProvider: what the gateway says it accepts

`CommandSchema` tells a client which arms are supported, which option bits each of them may carry,
how many commands fit in a batch and where the map ends, so that the client can build a batch that
will be accepted. `ValidateBatch` decides. The two share the list of arms and the mask, and **have a
default of their own for everything else**: the bound on a batch, and the extents of the map before
the engine has set them.

## Where they disagree

The bounds are both 64. The extents are not the same: as long as an extent is not positive the
schema advertises `1.0` in its place, and the validator compares with the extent itself. So a batch
that keeps to the schema is accepted exactly if none of its positions is beyond an extent **that is
not positive** (`advertised_accepted_iff`), and on a map that is known that says nothing.
-/

namespace HighBar.Grpc

open List

/-! ### The schema -/

/-- `kSchemaVersion`. -/
def kSchemaVersion : String := "1.0.0"

/-- `CommandOptionMask`. -/
structure CommandOptionMask where
  commandArm : String
  validOptionMask : ℕ
deriving Repr, DecidableEq

/-- `MapLimits`. -/
structure MapLimits where
  minX : FloatValue
  minZ : FloatValue
  maxX : FloatValue
  maxZ : FloatValue
deriving Repr, DecidableEq

/-- `CommandSchemaResponse`. -/
structure CommandSchemaResponse where
  schemaVersion : String
  featureFlags : List String
  supportedCommandArms : List String
  optionMasks : List CommandOptionMask
  validationMode : ValidationMode
  maxBatchCommands : ℕ
  queueDepth : ℕ
  queueCapacity : ℕ
  mapLimits : MapLimits
  resourceIds : List String
deriving Repr, DecidableEq

/-- `CapabilityProvider::Settings`. -/
structure CapabilitySettings where
  validationMode : ValidationMode := .compatibility
  maxBatchCommands : ℕ := 64
deriving Repr, DecidableEq

/-- `AddFeatureFlags`. -/
def featureFlags : List String :=
  ["protobuf_proxy_safety", "structured_command_diagnostics", "dry_run_validation",
    "command_capabilities"]

/-- An extent as the schema gives it: `1.0` unless the extent is positive. -/
def advertisedExtent (extent : FloatValue) : FloatValue :=
  if FloatValue.zero.lt extent then extent else .finite 1

/-- `CapabilityProvider::CommandSchema`; the extents are those of `env`. -/
def commandSchema (env : ValidatorEnv) (queue : Option CommandQueue)
    (settings : CapabilitySettings) : CommandSchemaResponse where
  schemaVersion := kSchemaVersion
  featureFlags := featureFlags
  supportedCommandArms := kSupportedUnitArms
  optionMasks := kSupportedUnitArms.map fun arm ↦ ⟨arm, kQueuedCommandOptionMask⟩
  validationMode := settings.validationMode
  maxBatchCommands := settings.maxBatchCommands
  queueDepth := (queue.map fun q ↦ q.depth % 2 ^ 32).getD 0
  queueCapacity := (queue.map fun q ↦ q.capacity % 2 ^ 32).getD 0
  mapLimits := ⟨.zero, .zero, advertisedExtent env.maxXPos, advertisedExtent env.maxZPos⟩
  resourceIds := ["metal", "energy"]

/-! ### Batches that keep to the schema -/

/-- The position is finite and inside the limits. -/
structure MapLimits.Contains (limits : MapLimits) (pos : Vector3) : Prop where
  finite : pos.x.isFinite = true ∧ pos.y.isFinite = true ∧ pos.z.isFinite = true
  x : limits.minX.le pos.x = true ∧ pos.x.le limits.maxX = true
  z : limits.minZ.le pos.z = true ∧ pos.z.le limits.maxZ = true

/-- The command keeps to the schema; `target` is the unit it is for. -/
structure CommandSchemaResponse.Advertises (schema : CommandSchemaResponse) (env : ValidatorEnv)
    (target : ℤ) (cmd : AICommand) : Prop where
  arm : commandArmName cmd ∈ schema.supportedCommandArms
  options : ∀ mask ∈ schema.optionMasks, mask.commandArm = commandArmName cmd →
    BitsWithin (commandOptionsOf cmd) mask.validOptionMask
  position : ∀ pos, positionOf cmd = some pos → schema.mapLimits.Contains pos
  moveState : ∀ order value, cmd = .setMoveState order value → 0 ≤ value ∧ value ≤ 2
  fireState : ∀ order value, cmd = .setFireState order value → 0 ≤ value ∧ value ≤ 2
  buildDef : ∀ order defId pos facing, cmd = .buildUnit order defId pos facing → env.KnownDef defId
  target : ∀ unitId, tryCommandUnitId cmd = some unitId → unitId = target

/-- The batch keeps to the schema, and is for a live unit of the AI. -/
structure CommandSchemaResponse.AdvertisesBatch (schema : CommandSchemaResponse)
    (env : ValidatorEnv) (batch : CommandBatch) : Prop where
  size : 1 ≤ batch.commands.length ∧ batch.commands.length ≤ schema.maxBatchCommands
  commands : ∀ cmd ∈ batch.commands, schema.Advertises env (toSigned 32 batch.targetUnitId) cmd
  owned : env.LiveOwned (toSigned 32 batch.targetUnitId)

/-- Where an extent is not positive, no position of the batch is beyond it. -/
def WithinUnknownExtents (env : ValidatorEnv) (batch : CommandBatch) : Prop :=
  ∀ cmd ∈ batch.commands, ∀ pos, positionOf cmd = some pos →
    (FloatValue.zero.lt env.maxXPos = false → pos.x.le env.maxXPos = true) ∧
      (FloatValue.zero.lt env.maxZPos = false → pos.z.le env.maxZPos = true)

section Acceptance

variable {env : ValidatorEnv} {queue : Option CommandQueue} {batch : CommandBatch}
  {target : ℤ} {cmd : AICommand}

/-- Inside the advertised extent, and inside the real one should it not be positive. -/
theorem le_of_le_advertisedExtent {coordinate extent : FloatValue}
    (hadvertised : coordinate.le (advertisedExtent extent) = true)
    (hunknown : FloatValue.zero.lt extent = false → coordinate.le extent = true) :
    coordinate.le extent = true := by
  rcases hpos : FloatValue.zero.lt extent with - | -
  · exact hunknown hpos
  · rwa [advertisedExtent, if_pos hpos] at hadvertised

theorem onMap_of_contains {pos : Vector3} {settings : CapabilitySettings}
    (h : (commandSchema env queue settings).mapLimits.Contains pos)
    (hx : FloatValue.zero.lt env.maxXPos = false → pos.x.le env.maxXPos = true)
    (hz : FloatValue.zero.lt env.maxZPos = false → pos.z.le env.maxZPos = true) :
    env.OnMap pos where
  finite := h.finite
  x := ⟨h.x.1, le_of_le_advertisedExtent h.x.2 hx⟩
  z := ⟨h.z.1, le_of_le_advertisedExtent h.z.2 hz⟩

/-- An arm of the list has the mask that the schema gives for it. -/
theorem bitsWithin_of_advertises {settings : CapabilitySettings}
    (h : (commandSchema env queue settings).Advertises env target cmd) :
    BitsWithin (commandOptionsOf cmd) (validOptionMaskFor (commandArmName cmd)) := by
  have hsupported : isSupportedCommandArm (commandArmName cmd) = true :=
    contains_iff_mem.2 h.arm
  rw [validOptionMaskFor, if_pos hsupported]
  exact h.options ⟨commandArmName cmd, kQueuedCommandOptionMask⟩
    (mem_map_of_mem h.arm) rfl

/-- A command that keeps to the schema is acceptable to the default validator if its position is. -/
theorem acceptable_of_advertises
    (h : (commandSchema env queue {}).Advertises env target cmd) (hlive : env.LiveOwned target)
    (hposition : ∀ pos, positionOf cmd = some pos → env.OnMap pos) :
    Acceptable env {} target cmd where
  target unitId hunit := by
    obtain rfl := h.target unitId hunit
    exact ⟨hlive.1, rfl⟩
  isSet := by
    rintro rfl
    have hlisted : commandArmName .notSet ∈ kSupportedUnitArms := h.arm
    exact absurd hlisted (by decide)
  permitted hdisabled := Bool.noConfusion hdisabled
  supported _ := h.arm
  options _ := bitsWithin_of_advertises h
  moveState := h.moveState
  fireState := h.fireState
  position := hposition
  buildDef := h.buildDef

end Acceptance

/-- **What keeps to the schema is accepted, on a map that is known.** For every registry, extents
and queue and every batch that keeps to the schema the provider answers with its default settings:
the validator with its default settings accepts the batch exactly if no position in it is beyond an
extent that is not positive. -/
theorem advertised_accepted_iff (env : ValidatorEnv) (queue : Option CommandQueue)
    (batch : CommandBatch) (h : (commandSchema env queue {}).AdvertisesBatch env batch) :
    (validateBatch env {} batch).ok = true ↔ WithinUnknownExtents env batch := by
  rw [validateBatch_ok_iff]
  refine ⟨fun hvalid cmd hcmd pos hpos ↦ ?_, fun hwithin ↦ ⟨⟨?_, fun _ ↦ h.size.2, ?_, ?_⟩, ?_, ?_⟩⟩
  · have hmap := (hvalid.acceptable cmd hcmd).position pos hpos
    exact ⟨fun _ ↦ hmap.x.2, fun _ ↦ hmap.z.2⟩
  · exact ne_nil_of_length_pos h.size.1
  · exact fun hrequired ↦ Bool.noConfusion hrequired
  · exact fun hrequired ↦ Bool.noConfusion hrequired
  · intro cmd hcmd
    have hadvertised := h.commands cmd hcmd
    refine acceptable_of_advertises hadvertised h.owned fun pos hpos ↦ ?_
    obtain ⟨hx, hz⟩ := hwithin cmd hcmd pos hpos
    exact onMap_of_contains (hadvertised.position pos hpos) hx hz
  · exact fun _ ↦ h.owned

/-- An AI whose only unit is 7, on a square map of this size. -/
def squareMapEnv (extent : FloatValue) : ValidatorEnv where
  ai := some ⟨fun unitId ↦ if unitId = 7 then some false else none, fun _ ↦ false⟩
  maxXPos := extent
  maxZPos := extent
  showFloat := fun _ ↦ ""

/-- Unit 7 is to move to the point (1, 0, 1), with the shift key. -/
def shortMove : CommandBatch where
  batchSeq := 1
  targetUnitId := 7
  commands := [.moveUnit ⟨7, 0, 1, 0⟩ ⟨.finite 1, .zero, .finite 1⟩]
  clientCommandId := none
  basedOnFrame := none
  basedOnStateSeq := none

/-- The move keeps to every schema whose limits contain the point. -/
theorem advertisesBatch_shortMove {extent : FloatValue}
    (hextent : (FloatValue.finite 1).le (advertisedExtent extent) = true) :
    (commandSchema (squareMapEnv extent) none {}).AdvertisesBatch (squareMapEnv extent)
      shortMove := by
  have hmin : FloatValue.zero.le (.finite 1) = true := by decide
  have hlimits : (commandSchema (squareMapEnv extent) none {}).mapLimits.Contains
      ⟨.finite 1, .zero, .finite 1⟩ :=
    ⟨⟨rfl, rfl, rfl⟩, ⟨hmin, hextent⟩, hmin, hextent⟩
  have hsize : 1 ≤ 64 := by decide
  refine ⟨⟨Nat.le_refl 1, hsize⟩, fun cmd hcmd ↦ ?_, by decide, _, rfl, by decide⟩
  obtain rfl := mem_singleton.1 hcmd
  constructor
  case arm => exact mem_cons_self
  case options =>
    intro mask hmask _
    obtain ⟨arm, -, rfl⟩ := mem_map.1 hmask
    change ∀ bit < 32, Nat.testBit 1 bit = true → Nat.testBit 7 bit = true
    decide
  case position =>
    rintro pos hpos
    cases hpos
    exact hlimits
  case target =>
    rintro unitId hunit
    cases hunit
    decide
  all_goals simp

theorem advertised_accepted_iff_shortMove :
    (commandSchema (squareMapEnv (.finite 4096)) none {}).AdvertisesBatch
        (squareMapEnv (.finite 4096)) shortMove ∧
      ((validateBatch (squareMapEnv (.finite 4096)) {} shortMove).ok = true ↔
        WithinUnknownExtents (squareMapEnv (.finite 4096)) shortMove) :=
  ⟨advertisesBatch_shortMove rfl,
    advertised_accepted_iff _ none _ (advertisesBatch_shortMove rfl)⟩

/-- **The schema advertises a map that the validator does not know.** Before the engine has set the
extents the limits say `1.0`, and a move to a point inside them is rejected. -/
theorem advertised_move_rejected :
    (commandSchema (squareMapEnv .zero) none {}).AdvertisesBatch (squareMapEnv .zero) shortMove ∧
      (validateBatch (squareMapEnv .zero) {} shortMove).ok = false :=
  ⟨advertisesBatch_shortMove rfl, by decide⟩

end HighBar.Grpc
