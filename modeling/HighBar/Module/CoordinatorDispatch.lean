import HighBar.Grpc.CommandValidator
import HighBar.Module.Gateway

/-!
# Target drift on the coordinator channel

A batch has one authoritative target, and a unit-bound command in it carries a `unit_id` of its own.
The contract of the dispatcher is that the two agree: a command is dispatched on the unit it names,
and a batch in which they disagree is rejected.

There are two ways into the queue. `SubmitCommands` validates each command against the batch target
(`validateCommandTarget`). `AdmitCommandBatch`, the way in for the coordinator, **stores the batch
target and never reads a command's own unit**. So what it admits is safe exactly when the sender
already kept to the contract (`NamesTarget`), and `coordinator_reaches_named_unit_iff` is that
equivalence, for every batch, queue and later state of the engine.
-/

namespace HighBar.Module

open Grpc Option

/-! ### The unit a command is dispatched on -/

namespace Gateway

/-- The id of the unit that is handed to `DispatchCommand`, if it is called. -/
def dispatchUnit (g : Gateway) (entry : QueuedCommand) : Option ℤ :=
  match g.resolve entry with
  | .skip .. => none
  | .dispatch target =>
    if 0 < target then (g.teamUnits.find? fun unit ↦ unit.id = target).map TeamUnit.id
    else g.teamUnits.head?.map TeamUnit.id

variable {g : Gateway} {entry : QueuedCommand}

/-- A command is dispatched only to its effective target. -/
theorem effectiveDispatchTargetUnitId_of_resolve {target : ℤ}
    (h : g.resolve entry = .dispatch target) :
    effectiveDispatchTargetUnitId entry.authoritativeTargetUnitId entry.command = some target := by
  simp only [resolve] at h
  split at h
  · cases h
  rename_i t ht
  rw [ht]
  split_ifs at h with hpos
  · split at h <;> cases h
    rfl
  · split at h
    · cases h
    · split at h <;> cases h
      rfl

/-- **A unit arm is dispatched on the batch target**, whatever unit it names. -/
theorem dispatchUnit_eq_target {unit : ℤ} (hcmd : isGameWideCommand entry.command = false)
    (htarget : 0 ≤ entry.authoritativeTargetUnitId) (h : g.dispatchUnit entry = some unit) :
    unit = entry.authoritativeTargetUnitId := by
  rcases hresolve : g.resolve entry with ⟨status, issue⟩ | target
  · rw [dispatchUnit, hresolve] at h
    cases h
  have heff := effectiveDispatchTargetUnitId_of_resolve hresolve
  rw [effectiveDispatchTargetUnitId, if_neg (by rw [hcmd]; exact Bool.false_ne_true)] at heff
  obtain ⟨hne, ⟨⟩⟩ := ite_none_left_eq_some.1 heff
  -- the target is not zero, so the unit was looked up by it
  simp only [dispatchUnit, hresolve] at h
  rw [if_pos (by omega)] at h
  obtain ⟨found, hfound, rfl⟩ := map_eq_some_iff.1 h
  have hid := List.find?_some hfound
  exact of_decide_eq_true hid

end Gateway

/-! ### Admitted batches -/

/-- Every unit-bound command of the batch names the batch target. -/
def NamesTarget (batch : CommandBatch) : Prop :=
  ∀ cmd ∈ batch.commands, ∀ unitId ∈ tryCommandUnitId cmd, unitId = (batch.targetUnitId : ℤ)

instance (batch : CommandBatch) : Decidable (NamesTarget batch) :=
  inferInstanceAs (Decidable (∀ cmd ∈ batch.commands, ∀ unitId ∈ tryCommandUnitId cmd, _ = _))

/-- Whenever it is drained, a unit-bound command of the batch that is dispatched is dispatched on
the unit it names. -/
def ReachesNamedUnits (batch : CommandBatch) (sessionId : String) : Prop :=
  ∀ g : Gateway, ∀ entry ∈ queuedCommands sessionId batch,
    ∀ unitId ∈ tryCommandUnitId entry.command, ∀ unit ∈ g.dispatchUnit entry, unit = unitId

/-- A command that names a unit is not game-wide. -/
theorem isGameWideCommand_of_mem_tryCommandUnitId {cmd : AICommand} {unitId : ℤ}
    (h : unitId ∈ tryCommandUnitId cmd) : isGameWideCommand cmd = false := by
  have hset : cmd ≠ .notSet := by
    rintro rfl
    cases h
  rw [← Bool.not_eq_true, isGameWideCommand_iff_tryCommandUnitId hset, mem_def.1 h]
  exact some_ne_none _

/-- Commands that name the target of a batch are dispatched on the unit they name. -/
theorem NamesTarget.reachesNamedUnits {batch : CommandBatch} (hnames : NamesTarget batch)
    (htarget : batch.targetUnitId ≤ 2 ^ 31 - 1) (sessionId : String) :
    ReachesNamedUnits batch sessionId := by
  intro g entry hentry unitId hunitId unit hunit
  obtain ⟨-, -, -, hcast, hcmd⟩ := provenance_of_mem_queuedCommands hentry
  rw [toSigned_of_lt (by decide) (by omega)] at hcast
  rw [hnames _ hcmd _ hunitId, ← hcast]
  refine Gateway.dispatchUnit_eq_target (isGameWideCommand_of_mem_tryCommandUnitId hunitId) ?_ hunit
  rw [hcast]
  exact Int.natCast_nonneg _

/-- **The coordinator channel keeps the target contract exactly when its sender does.** What is
admitted reaches only the units it names and a batch with a drifting command is not admitted, if and
only if the batch fails a check of `AdmitCommandBatch` or all its unit-bound commands name the batch
target. -/
theorem coordinator_reaches_named_unit_iff (queue : CommandQueue) (batch : CommandBatch)
    (sessionId : String) :
    (((admitCommandBatch queue batch sessionId).1.status = .kAccepted →
        ReachesNamedUnits batch sessionId) ∧
      (¬NamesTarget batch →
        (admitCommandBatch queue batch sessionId).1.status ≠ .kAccepted)) ↔
    (PassesAdmission queue batch → NamesTarget batch) := by
  rw [Ne, admitCommandBatch_accepted_iff]
  constructor
  · rintro ⟨-, hrejects⟩ hpasses
    by_contra hdrift
    exact hrejects hdrift hpasses
  · intro hnames
    refine ⟨fun hpasses ↦ ?_, fun hdrift hpasses ↦ hdrift (hnames hpasses)⟩
    exact (hnames hpasses).reachesNamedUnits hpasses.2.2.1 sessionId

/-- A batch for unit 7 with one order, which names unit 8. -/
def driftingBatch : CommandBatch :=
  ⟨1, 7, [.stop ⟨8, 0, 0, 0⟩], some 1, none, none⟩

/-- The coordinator's reader admits the batch, and the next tick drains it. -/
def driftingRun : List GatewayLabel :=
  [.units [⟨7, some false⟩, ⟨8, some false⟩], .submit (.admitCommandBatch driftingBatch "ch")] ++
    Gateway.tickToDrain 0 none

/-- **A command for unit 8 is dispatched on unit 7**, though both units are alive. -/
theorem drifts_to_batch_target :
    ∃ g entry rest,
      (Gateway.machine ⟨false, {}, 1, 8, {}, by decide, by decide⟩).exec (Gateway.create
        ⟨false, {}, 1, 8, {}, by decide, by decide⟩) driftingRun = some g ∧
      (admitCommandBatch (.create none 8 (by decide)) driftingBatch "ch").1.status = .kAccepted ∧
      ¬NamesTarget driftingBatch ∧
      g.phase = .dispatching (entry :: rest) ∧ entry ∈ queuedCommands "ch" driftingBatch ∧
      tryCommandUnitId entry.command = some 8 ∧ g.dispatchUnit entry = some 7 :=
  ⟨_, _, _, rfl, by decide, by decide, rfl, by decide, by decide, by decide⟩

end HighBar.Module
