import HighBar.Library.FixedWidth

/-!
# The snapshot scheduler

`SnapshotTick` decides, frame by frame, whether a snapshot is due: because the cadence says so, or
because a worker has asked for one. All numbers are `uint32`.
-/

namespace HighBar.Grpc

/-- `SnapshotTickConfig`. -/
structure SnapshotTickConfig where
  snapshotCadenceFrames : ℕ := 30
  snapshotMaxUnits : ℕ := 1000
deriving Repr, DecidableEq

/-- `SnapshotPumpResult`. -/
structure SnapshotPumpResult where
  emit : Bool := false
  effectiveCadenceFrames : ℕ := 0
  forced : Bool := false
deriving Repr, DecidableEq

/-- `SnapshotTick`. -/
structure SnapshotTick where
  snapshotCadenceFrames : ℕ
  snapshotMaxUnits : ℕ
  effectiveCadenceFrames : ℕ
  nextSnapshotFrame : ℕ
  /-- `pending_request_`. -/
  pendingRequest : Bool := false
deriving Repr, DecidableEq

namespace SnapshotTick

/-- `kMaxEffectiveCadenceFrames`. -/
def kMaxEffectiveCadenceFrames : ℕ := 1024

/-- `Configure`. -/
def configure (cfg : SnapshotTickConfig) : SnapshotTick where
  snapshotCadenceFrames := cfg.snapshotCadenceFrames
  snapshotMaxUnits := cfg.snapshotMaxUnits
  effectiveCadenceFrames := cfg.snapshotCadenceFrames
  nextSnapshotFrame := cfg.snapshotCadenceFrames

/-- The cadence of the next emission: doubled up to the cap above the unit limit, back to the base
below it. -/
def nextCadence (t : SnapshotTick) (ownUnitsCount : ℕ) : ℕ :=
  if t.snapshotMaxUnits < ownUnitsCount then
    let doubled := t.effectiveCadenceFrames * 2 % 2 ^ 32
    -- the product may have wrapped
    let doubled :=
      if doubled < t.effectiveCadenceFrames then kMaxEffectiveCadenceFrames else doubled
    if kMaxEffectiveCadenceFrames < doubled then kMaxEffectiveCadenceFrames else doubled
  else if t.snapshotCadenceFrames < t.effectiveCadenceFrames then t.snapshotCadenceFrames
  else t.effectiveCadenceFrames

/-- Whether `Pump` emits at this frame. -/
def due (t : SnapshotTick) (frame : ℕ) : Bool :=
  t.pendingRequest || decide (t.nextSnapshotFrame ≤ frame)

/-- `Pump`. -/
def pump (t : SnapshotTick) (frame ownUnitsCount : ℕ) : SnapshotPumpResult × SnapshotTick :=
  if t.due frame then
    (⟨true, t.effectiveCadenceFrames, t.pendingRequest⟩,
      { t with
        effectiveCadenceFrames := t.nextCadence ownUnitsCount
        nextSnapshotFrame := wrapAdd 32 frame (t.nextCadence ownUnitsCount)
        pendingRequest := false })
  else ({}, { t with pendingRequest := false })

variable (t : SnapshotTick) (frame ownUnitsCount : ℕ)

@[simp] theorem emit_pump : (t.pump frame ownUnitsCount).1.emit = t.due frame := by
  rw [pump]
  split_ifs with h
  · exact h.symm
  · exact (Bool.eq_false_iff.2 h).symm

/-- An emission is forced exactly if a request was pending. -/
@[simp] theorem forced_pump : (t.pump frame ownUnitsCount).1.forced = t.pendingRequest := by
  rw [pump]
  split_ifs with h
  · rfl
  · exact (Bool.or_eq_false_iff.1 (Bool.eq_false_iff.2 h)).1.symm

/-- `Pump` takes the request. -/
@[simp] theorem pendingRequest_pump : (t.pump frame ownUnitsCount).2.pendingRequest = false := by
  rw [pump]
  split_ifs <;> rfl

end SnapshotTick

end HighBar.Grpc
