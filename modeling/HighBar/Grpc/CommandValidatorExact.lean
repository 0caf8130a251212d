import HighBar.Grpc.CommandValidator
import Mathlib.Data.Nat.Bitwise
import Mathlib.Order.Bounds.Defs

/-!
# Batch validation is exact

`ValidateBatch` is a dozen checks spread over four functions, each of which ends validation with an
issue. This module states **what a valid batch is** without mentioning a check or an order of
checks, and shows that a batch is accepted exactly if it is valid.

## The reference

A batch is `Valid` if it is well shaped, each of its commands is `Acceptable`, and its target is a
live owned unit should any command be bound to one. The registries appear in the reference
themselves and not through the functions that query them, an option word is its bits, and positions
are compared with the extents.

## The first offence

A batch that is not valid is reported with one issue. If it is well shaped and some command is not
acceptable, the issue carries the **least** index of such a command: the loop goes through the
commands in order, makes all the checks of one before it looks at the next, and stops. Every other
issue is about the batch as a whole and carries index 0: the shape is checked before the loop, and
the ownership of the target after it.
-/

namespace HighBar.Grpc

open Option

/-! ### What a valid batch is -/

namespace ValidatorEnv

/-- The unit is in the registry of the AI, and alive. -/
def LiveOwned (env : ValidatorEnv) (unitId : ℤ) : Prop :=
  0 < unitId ∧ ∃ ai, env.ai = some ai ∧ ai.teamUnitIsDead unitId = some false

/-- The definition is in the registry of the AI. -/
def KnownDef (env : ValidatorEnv) (defId : ℤ) : Prop :=
  0 < defId ∧ ∃ ai, env.ai = some ai ∧ ai.hasCircuitDef defId = true

/-- The position is finite and inside the extents. -/
structure OnMap (env : ValidatorEnv) (pos : Vector3) : Prop where
  finite : pos.x.isFinite = true ∧ pos.y.isFinite = true ∧ pos.z.isFinite = true
  x : FloatValue.zero.le pos.x = true ∧ pos.x.le env.maxXPos = true
  z : FloatValue.zero.le pos.z = true ∧ pos.z.le env.maxZPos = true

end ValidatorEnv

/-- Every option bit of the word is in the mask. -/
def BitsWithin (options mask : ℕ) : Prop :=
  ∀ bit < 32, options.testBit bit = true → mask.testBit bit = true

/-- What one command must meet, in a batch for `target`. -/
structure Acceptable (env : ValidatorEnv) (settings : CommandValidationSettings) (target : ℤ)
    (cmd : AICommand) : Prop where
  target : ∀ unitId, tryCommandUnitId cmd = some unitId → 0 < unitId ∧ unitId = target
  isSet : cmd ≠ .notSet
  permitted : settings.allowLegacyAiAdmin = false → isLegacyAdminArm cmd = false
  supported : settings.rejectUnsupportedArms = true ∨ settings.mode = .strict →
    commandArmName cmd ∈ kSupportedUnitArms
  options : validOptionMaskFor (commandArmName cmd) ≠ 0 →
    BitsWithin (commandOptionsOf cmd) (validOptionMaskFor (commandArmName cmd))
  moveState : ∀ order value, cmd = .setMoveState order value → 0 ≤ value ∧ value ≤ 2
  fireState : ∀ order value, cmd = .setFireState order value → 0 ≤ value ∧ value ≤ 2
  position : ∀ pos, positionOf cmd = some pos → env.OnMap pos
  buildDef : ∀ order defId pos facing, cmd = .buildUnit order defId pos facing → env.KnownDef defId

/-- What the batch as a whole must meet, whatever its commands are. -/
structure WellShaped (settings : CommandValidationSettings) (batch : CommandBatch) : Prop where
  nonempty : batch.commands ≠ []
  bounded : 0 < settings.maxBatchCommands → batch.commands.length ≤ settings.maxBatchCommands
  correlated : settings.requireCorrelation = true → batch.clientCommandId ≠ none
  based : settings.requireStateBasis = true →
    batch.basedOnFrame ≠ none ∧ batch.basedOnStateSeq ≠ none

/-- **A valid batch.** -/
structure Valid (env : ValidatorEnv) (settings : CommandValidationSettings) (batch : CommandBatch) :
    Prop extends WellShaped settings batch where
  acceptable : ∀ cmd ∈ batch.commands, Acceptable env settings (toSigned 32 batch.targetUnitId) cmd
  owned : (∃ cmd ∈ batch.commands, (tryCommandUnitId cmd).isSome) →
    env.LiveOwned (toSigned 32 batch.targetUnitId)

/-! ### The checks, one by one -/

section Checks

variable {env : ValidatorEnv} {settings : CommandValidationSettings} {target : ℤ} {cmd : AICommand}
  {i : ℕ}

/-- The lookup finds the unit alive. -/
theorem ownsLiveUnit_iff {unitId : ℤ} : env.ownsLiveUnit unitId = true ↔ env.LiveOwned unitId := by
  rw [ValidatorEnv.ownsLiveUnit, ValidatorEnv.LiveOwned]
  rcases env.ai with - | ai
  · simp
  · by_cases hpos : unitId ≤ 0
    · simp [hpos, Int.not_lt.2 hpos]
    · simp [hpos, Int.not_le.1 hpos]

theorem knownBuildDef_iff {defId : ℤ} : env.knownBuildDef defId = true ↔ env.KnownDef defId := by
  rw [ValidatorEnv.knownBuildDef, ValidatorEnv.KnownDef]
  rcases env.ai with - | ai
  · simp
  · by_cases hpos : defId ≤ 0
    · simp [hpos, Int.not_lt.2 hpos]
    · simp [hpos, Int.not_le.1 hpos]

/-- A command passes the target check exactly if it names no other unit. -/
theorem validateCommandTarget_eq_none_iff :
    validateCommandTarget cmd target i = none ↔
      ∀ unitId, tryCommandUnitId cmd = some unitId → 0 < unitId ∧ unitId = target := by
  refine ⟨fun h unitId hunit ↦ unitId_of_validateCommandTarget h hunit, fun h ↦ ?_⟩
  rw [validateCommandTarget]
  rcases hunit : tryCommandUnitId cmd with - | unitId
  · rfl
  · obtain ⟨hpos, heq⟩ := h unitId hunit
    exact (if_neg (Int.not_le.2 hpos)).trans (if_neg (not_not.2 heq))

/-- `options & ~mask` is zero exactly if the mask has all the bits. -/
theorem land_compl_eq_zero_iff {options mask : ℕ} (hmask : mask < 2 ^ 32) :
    options &&& (2 ^ 32 - 1 - mask) = 0 ↔ BitsWithin options mask := by
  have hbit : ∀ bit, (options &&& (2 ^ 32 - 1 - mask)).testBit bit =
      (options.testBit bit && (decide (bit < 32) && !mask.testBit bit)) := by
    intro bit
    rw [Nat.testBit_and, Nat.sub_sub, Nat.add_comm 1, Nat.testBit_two_pow_sub_succ hmask]
  refine ⟨fun hzero bit hlt hset ↦ ?_, fun hwithin ↦ Nat.zero_of_testBit_eq_false fun bit ↦ ?_⟩
  · have hclear := hbit bit
    rw [hzero, Nat.zero_testBit, hset, decide_eq_true hlt] at hclear
    simpa using hclear.symm
  · rw [hbit bit]
    rcases hset : options.testBit bit with - | -
    · rfl
    · by_cases hlt : bit < 32
      · simp [hwithin bit hlt hset]
      · simp [hlt]

/-- The options pass exactly if they are within the mask of the arm. -/
theorem hasInvalidOptionBits_eq_false_iff :
    hasInvalidOptionBits cmd = false ↔ (validOptionMaskFor (commandArmName cmd) ≠ 0 →
      BitsWithin (commandOptionsOf cmd) (validOptionMaskFor (commandArmName cmd))) := by
  have hmask : validOptionMaskFor (commandArmName cmd) < 2 ^ 32 := by
    rw [validOptionMaskFor, kQueuedCommandOptionMask]
    split_ifs <;> decide
  rw [← land_compl_eq_zero_iff hmask]
  simp [hasInvalidOptionBits]

/-- The two enumerated states pass exactly from zero to two. -/
theorem validateEnumField_eq_none_iff :
    validateEnumField cmd i = none ↔
      (∀ order value, cmd = .setMoveState order value → 0 ≤ value ∧ value ≤ 2) ∧
        ∀ order value, cmd = .setFireState order value → 0 ≤ value ∧ value ≤ 2 := by
  have hrange : ∀ {value : ℤ} {issue : CommandIssue},
      (if value < 0 ∨ 2 < value then some issue else none) = none ↔ 0 ≤ value ∧ value ≤ 2 := by
    intro value issue
    rw [ite_eq_right_iff]
    simp
  by_cases hmove : ∃ order value, cmd = .setMoveState order value
  · obtain ⟨order, value, rfl⟩ := hmove
    exact hrange.trans (by simp)
  by_cases hfire : ∃ order value, cmd = .setFireState order value
  · obtain ⟨order, value, rfl⟩ := hfire
    exact hrange.trans (by simp)
  have hnone : enumFieldOf cmd = none := by
    unfold enumFieldOf
    split
    · exact absurd ⟨_, _, rfl⟩ hmove
    · exact absurd ⟨_, _, rfl⟩ hfire
    · rfl
  rw [validateEnumField, hnone]
  exact iff_of_true rfl ⟨fun order value h ↦ absurd ⟨order, value, h⟩ hmove,
    fun order value h ↦ absurd ⟨order, value, h⟩ hfire⟩

/-- A position passes exactly on the map. -/
theorem validatePosition_eq_none_iff :
    validatePosition env cmd i = none ↔ ∀ pos, positionOf cmd = some pos → env.OnMap pos := by
  rw [validatePosition]
  rcases hpos : positionOf cmd with - | pos
  · simp
  · simp only [Option.some.injEq, forall_eq']
    split_ifs with hfinite hextents
    · simp only [false_iff]
      intro h
      simp [h.finite] at hfinite
    · simp only [false_iff]
      intro h
      simp [ValidatorEnv.inMapExtents, h.x, h.z] at hextents
    · simp only [Bool.or_eq_true, Bool.not_eq_true', not_or, Bool.not_eq_false] at hfinite
      simp only [ValidatorEnv.inMapExtents, Bool.not_eq_true', Bool.not_eq_false,
        Bool.and_eq_true] at hextents
      obtain ⟨⟨hx, hy⟩, hz⟩ := hfinite
      obtain ⟨⟨⟨hminX, hminZ⟩, hmaxX⟩, hmaxZ⟩ := hextents
      exact iff_of_true rfl ⟨⟨hx, hy, hz⟩, ⟨hminX, hmaxX⟩, hminZ, hmaxZ⟩

/-- A build order passes exactly if its definition is known. -/
theorem validateBuildDef_eq_none_iff :
    validateBuildDef env cmd i = none ↔
      ∀ order defId pos facing, cmd = .buildUnit order defId pos facing → env.KnownDef defId := by
  by_cases hbuild : ∃ order defId pos facing, cmd = .buildUnit order defId pos facing
  · obtain ⟨order, defId, pos, facing, rfl⟩ := hbuild
    have hcheck : validateBuildDef env (.buildUnit order defId pos facing) i = none ↔
        env.knownBuildDef defId = true := by
      rw [validateBuildDef]
      simp
    rw [hcheck, knownBuildDef_iff]
    refine ⟨fun hknown _ _ _ _ heq ↦ ?_, fun h ↦ h _ _ _ _ rfl⟩
    obtain ⟨-, rfl, -, -⟩ := AICommand.buildUnit.inj heq
    exact hknown
  · have hnone : validateBuildDef env cmd i = none := by
      unfold validateBuildDef
      split
      · exact absurd ⟨_, _, _, _, rfl⟩ hbuild
      · rfl
    exact iff_of_true hnone fun order defId pos facing h ↦
      absurd ⟨order, defId, pos, facing, h⟩ hbuild

/-- **A command passes exactly if it passes every check.** -/
theorem validateCommand_eq_none_iff :
    validateCommand env settings cmd i = none ↔
      cmd ≠ .notSet ∧
        (settings.allowLegacyAiAdmin = false → isLegacyAdminArm cmd = false) ∧
        (settings.rejectUnsupportedArms = true ∨ settings.mode = .strict →
          commandArmName cmd ∈ kSupportedUnitArms) ∧
        hasInvalidOptionBits cmd = false ∧
        validateEnumField cmd i = none ∧
        validatePosition env cmd i = none ∧
        validateBuildDef env cmd i = none := by
  rw [validateCommand]
  split_ifs with hset hlegacy hsupported hoptions
  · exact iff_of_false id fun h ↦ h.1 hset
  · refine iff_of_false id fun h ↦ ?_
    obtain ⟨hdisabled, harm⟩ := Bool.and_eq_true_iff.1 hlegacy
    rw [h.2.1 (by simpa using hdisabled)] at harm
    cases harm
  · refine iff_of_false id fun h ↦ ?_
    obtain ⟨hstrict, harm⟩ := Bool.and_eq_true_iff.1 hsupported
    have hmem := h.2.2.1 (by simpa using hstrict)
    simp [isSupportedCommandArm, hmem] at harm
  · exact iff_of_false id fun h ↦ by simp [h.2.2.2.1] at hoptions
  · have hpermitted : settings.allowLegacyAiAdmin = false → isLegacyAdminArm cmd = false := by
      simpa using hlegacy
    have hlisted : settings.rejectUnsupportedArms = true ∨ settings.mode = .strict →
        commandArmName cmd ∈ kSupportedUnitArms := by
      simpa [isSupportedCommandArm] using hsupported
    rw [or_eq_none_iff, or_eq_none_iff]
    exact ⟨fun h ↦ ⟨hset, hpermitted, hlisted, by simpa using hoptions, h⟩, fun h ↦ h.2.2.2.2⟩

/-- **Both checks of a command together are exact.** -/
theorem acceptable_iff :
    validateCommandTarget cmd target i = none ∧ validateCommand env settings cmd i = none ↔
      Acceptable env settings target cmd := by
  rw [validateCommandTarget_eq_none_iff, validateCommand_eq_none_iff,
    hasInvalidOptionBits_eq_false_iff, validateEnumField_eq_none_iff, validatePosition_eq_none_iff,
    validateBuildDef_eq_none_iff]
  refine ⟨?_, fun h ↦ ⟨h.target, h.isSet, h.permitted, h.supported, h.options,
    ⟨h.moveState, h.fireState⟩, h.position, h.buildDef⟩⟩
  rintro ⟨htarget, hset, hlegacy, hsupported, hoptions, ⟨hmove, hfire⟩, hposition, hbuild⟩
  exact ⟨htarget, hset, hlegacy, hsupported, hoptions, hmove, hfire, hposition, hbuild⟩

/-! ### The index in an issue -/

variable {issue : CommandIssue}

theorem commandIndex_of_validateCommandTarget (h : validateCommandTarget cmd target i = some issue)
    : issue.commandIndex = i := by
  rw [validateCommandTarget] at h
  rcases hunit : tryCommandUnitId cmd with - | unitId
  · rw [hunit] at h
    cases h
  · rw [hunit] at h
    simp only at h
    split_ifs at h
    · rw [← Option.some.inj h]
    · rw [← Option.some.inj h]

theorem commandIndex_of_validateEnumField (h : validateEnumField cmd i = some issue) :
    issue.commandIndex = i := by
  rw [validateEnumField] at h
  split at h
  · cases h
  · obtain ⟨-, heq⟩ := ite_none_right_eq_some.1 h
    rw [← Option.some.inj heq]

theorem commandIndex_of_validatePosition (h : validatePosition env cmd i = some issue) :
    issue.commandIndex = i := by
  rw [validatePosition] at h
  split at h
  · cases h
  · split_ifs at h
    · rw [← Option.some.inj h]
    · rw [← Option.some.inj h]

theorem commandIndex_of_validateBuildDef (h : validateBuildDef env cmd i = some issue) :
    issue.commandIndex = i := by
  unfold validateBuildDef at h
  split at h
  · obtain ⟨-, heq⟩ := ite_none_left_eq_some.1 h
    rw [← Option.some.inj heq]
  · cases h

/-- An issue names the command it is about. -/
theorem commandIndex_of_validateCommand (h : validateCommand env settings cmd i = some issue) :
    issue.commandIndex = i := by
  rw [validateCommand] at h
  split_ifs at h
  · rw [← Option.some.inj h]
  · rw [← Option.some.inj h]
  · rw [← Option.some.inj h]
  · rw [← Option.some.inj h]
  · rcases or_eq_some_iff.1 h with henum | ⟨-, hrest⟩
    · exact commandIndex_of_validateEnumField henum
    · rcases or_eq_some_iff.1 hrest with hposition | ⟨-, hbuild⟩
      · exact commandIndex_of_validatePosition hposition
      · exact commandIndex_of_validateBuildDef hbuild

/-! ### The loop -/

/-- The command at this index is not acceptable. -/
def Offends (env : ValidatorEnv) (settings : CommandValidationSettings) (target : ℤ)
    (cmds : List AICommand) (k : ℕ) : Prop :=
  ∃ cmd, cmds[k]? = some cmd ∧ ¬Acceptable env settings target cmd

/-- **The loop stops at the first command that is not acceptable.** -/
theorem isLeast_of_validateCommands {cmds : List AICommand} {seen : Bool}
    (h : validateCommands env settings target i seen cmds = .error issue) :
    ∃ k, issue.commandIndex = i + k ∧ IsLeast {k | Offends env settings target cmds k} k := by
  induction cmds generalizing i seen with
  | nil => cases h
  | cons cmd rest ih =>
    rw [validateCommands] at h
    by_cases hcmd : Acceptable env settings target cmd
    · obtain ⟨htarget, hvalid⟩ := (acceptable_iff (i := i)).2 hcmd
      simp only [htarget, hvalid] at h
      obtain ⟨k, hindex, ⟨bad, hbad, hnot⟩, hleast⟩ := ih h
      refine ⟨k + 1, by omega, ⟨bad, hbad, hnot⟩, ?_⟩
      rintro (- | j) ⟨c, hc, hnot'⟩
      · exact absurd (Option.some.inj hc ▸ hcmd) hnot'
      · exact Nat.succ_le_succ (hleast ⟨c, hc, hnot'⟩)
    · refine ⟨0, ?_, ⟨cmd, rfl, hcmd⟩, fun k _ ↦ Nat.zero_le k⟩
      rcases htarget : validateCommandTarget cmd target i with - | found
      · rcases hvalid : validateCommand env settings cmd i with - | found
        · exact absurd (acceptable_iff.1 ⟨htarget, hvalid⟩) hcmd
        · simp only [htarget, hvalid] at h
          rw [← Except.error.inj h]
          exact commandIndex_of_validateCommand hvalid
      · simp only [htarget] at h
        rw [← Except.error.inj h]
        exact commandIndex_of_validateCommandTarget htarget

end Checks

/-! ### The batch -/

section Batch

variable {env : ValidatorEnv} {settings : CommandValidationSettings} {batch : CommandBatch}

/-- The four checks before the loop, negated. -/
theorem wellShaped_iff :
    WellShaped settings batch ↔
      ¬batch.commands.length = 0 ∧
        ¬(0 < settings.maxBatchCommands ∧ settings.maxBatchCommands < batch.commands.length) ∧
        ¬(settings.requireCorrelation && batch.clientCommandId.isNone) = true ∧
        ¬(settings.requireStateBasis &&
          (batch.basedOnFrame.isNone || batch.basedOnStateSeq.isNone)) = true := by
  refine ⟨fun h ↦ ⟨?_, ?_, ?_, ?_⟩, fun h ↦ ⟨?_, ?_, ?_, ?_⟩⟩
  · simpa using h.nonempty
  · exact fun hover ↦ Nat.not_le.2 hover.2 (h.bounded hover.1)
  · simpa using h.correlated
  · simpa using h.based
  · simpa using h.1
  · exact fun hpos ↦ Nat.not_lt.1 fun hover ↦ h.2.1 ⟨hpos, hover⟩
  · simpa using h.2.2.1
  · simpa using h.2.2.2

/-- **What `ValidateBatch` can do**: reject the shape, reject a command, reject the target, or
accept. -/
inductive Verdict (env : ValidatorEnv) (settings : CommandValidationSettings)
    (batch : CommandBatch) : ValidationResult → Prop
  | shape (status : CommandBatchStatus) (issue : CommandIssue) (hshape : ¬WellShaped settings batch)
      (hindex : issue.commandIndex = 0) :
    Verdict env settings batch (rejectBatch settings batch status issue)
  | command (issue : CommandIssue) (hshape : WellShaped settings batch)
      (hloop : validateCommands env settings (toSigned 32 batch.targetUnitId) 0 false
        batch.commands = .error issue) :
    Verdict env settings batch (rejectBatch settings batch .rejectedInvalid issue)
  | target (issue : CommandIssue) (hshape : WellShaped settings batch)
      (hloop : validateCommands env settings (toSigned 32 batch.targetUnitId) 0 false
        batch.commands = .ok true)
      (howned : ¬env.LiveOwned (toSigned 32 batch.targetUnitId))
      (hindex : issue.commandIndex = 0) :
    Verdict env settings batch (rejectBatch settings batch .rejectedInvalid issue)
  | accept (found : Bool) (hshape : WellShaped settings batch)
      (hloop : validateCommands env settings (toSigned 32 batch.targetUnitId) 0 false
        batch.commands = .ok found)
      (howned : found = true → env.LiveOwned (toSigned 32 batch.targetUnitId)) :
    Verdict env settings batch (acceptBatch settings batch)

theorem verdict_validateBatch (env : ValidatorEnv) (settings : CommandValidationSettings)
    (batch : CommandBatch) : Verdict env settings batch (validateBatch env settings batch) := by
  simp only [validateBatch]
  split_ifs with hempty hmany hcorrelation hbasis hframe
  · exact .shape _ _ (fun h ↦ (wellShaped_iff.1 h).1 hempty) rfl
  · exact .shape _ _ (fun h ↦ (wellShaped_iff.1 h).2.1 hmany) rfl
  · exact .shape _ _ (fun h ↦ (wellShaped_iff.1 h).2.2.1 hcorrelation) rfl
  · exact .shape _ _ (fun h ↦ (wellShaped_iff.1 h).2.2.2 hbasis) rfl
  · exact .shape _ _ (fun h ↦ (wellShaped_iff.1 h).2.2.2 hbasis) rfl
  · have hshape := wellShaped_iff.2 ⟨hempty, hmany, hcorrelation, hbasis⟩
    rcases hloop : validateCommands env settings (toSigned 32 batch.targetUnitId) 0 false
      batch.commands with issue | found
    · exact .command issue hshape hloop
    · simp only
      split_ifs with howned
      · obtain ⟨rfl, hnot⟩ := Bool.and_eq_true_iff.1 howned
        exact .target _ hshape hloop (fun h ↦ by simp [ownsLiveUnit_iff.2 h] at hnot) rfl
      · refine .accept found hshape hloop ?_
        rintro rfl
        exact ownsLiveUnit_iff.1 (by simpa using howned)

/-- A loop that ends has seen acceptable commands only. -/
theorem acceptable_of_validateCommands {target : ℤ} {cmds : List AICommand} {found : Bool}
    (h : validateCommands env settings target 0 false cmds = .ok found) :
    (∀ cmd ∈ cmds, Acceptable env settings target cmd) ∧
      (found = true ↔ ∃ cmd ∈ cmds, (tryCommandUnitId cmd).isSome) := by
  obtain ⟨hfound, hall⟩ := validateCommands_ok h
  refine ⟨fun cmd hcmd ↦ ?_, by simpa using hfound⟩
  obtain ⟨j, htarget, hvalid⟩ := hall cmd hcmd
  exact acceptable_iff.1 ⟨htarget, hvalid⟩

/-- A valid batch has no command for the loop to stop at. -/
theorem Valid.not_offends (h : Valid env settings batch) (k : ℕ) :
    ¬Offends env settings (toSigned 32 batch.targetUnitId) batch.commands k := by
  rintro ⟨cmd, hcmd, hnot⟩
  exact hnot (h.acceptable cmd (List.mem_of_getElem? hcmd))

variable {result : ValidationResult}

/-- A verdict is positive exactly for a valid batch. -/
theorem Verdict.ok_iff (h : Verdict env settings batch result) :
    result.ok = true ↔ Valid env settings batch := by
  rcases h with ⟨status, issue, hshape, -⟩ | ⟨issue, -, hloop⟩ | ⟨issue, -, hloop, howned, -⟩ |
    ⟨found, hshape, hloop, howned⟩
  · exact iff_of_false Bool.false_ne_true fun hvalid ↦ hshape hvalid.toWellShaped
  · obtain ⟨k, -, hoffends, -⟩ := isLeast_of_validateCommands hloop
    exact iff_of_false Bool.false_ne_true fun hvalid ↦ hvalid.not_offends k hoffends
  · have hbound := (acceptable_of_validateCommands hloop).2.1 rfl
    exact iff_of_false Bool.false_ne_true fun hvalid ↦ howned (hvalid.owned hbound)
  · obtain ⟨hall, hfound⟩ := acceptable_of_validateCommands hloop
    exact iff_of_true rfl ⟨hshape, hall, fun hbound ↦ howned (hfound.2 hbound)⟩

/-- **A batch is accepted exactly if it is valid.** -/
theorem validateBatch_ok_iff :
    (validateBatch env settings batch).ok = true ↔ Valid env settings batch :=
  (verdict_validateBatch env settings batch).ok_iff

/-- The offence that is reported: the first command that is not acceptable, and the batch as a whole
if its shape is wrong or all the commands are acceptable. -/
structure FirstOffence (env : ValidatorEnv) (settings : CommandValidationSettings)
    (batch : CommandBatch) (index : ℕ) : Prop where
  ofCommand : WellShaped settings batch →
    (∃ k, Offends env settings (toSigned 32 batch.targetUnitId) batch.commands k) →
      IsLeast {k | Offends env settings (toSigned 32 batch.targetUnitId) batch.commands k} index
  ofBatch : ¬(WellShaped settings batch ∧
    ∃ k, Offends env settings (toSigned 32 batch.targetUnitId) batch.commands k) → index = 0

/-- A negative verdict names the first offence. -/
theorem Verdict.rejected (h : Verdict env settings batch result) (hrejected : result.ok = false) :
    ∃ status issue, result = rejectBatch settings batch status issue ∧
      FirstOffence env settings batch issue.commandIndex := by
  rcases h with ⟨status, issue, hshape, hindex⟩ | ⟨issue, hshape, hloop⟩ |
    ⟨issue, -, hloop, -, hindex⟩ | ⟨found, -, -, -⟩
  · exact ⟨status, issue, rfl, fun h ↦ absurd h hshape, fun _ ↦ hindex⟩
  · obtain ⟨k, hindex, hleast⟩ := isLeast_of_validateCommands hloop
    rw [Nat.zero_add] at hindex
    refine ⟨_, issue, rfl, fun _ _ ↦ hindex ▸ hleast, fun hnone ↦ ?_⟩
    exact absurd ⟨hshape, k, hleast.1⟩ hnone
  · refine ⟨_, issue, rfl, fun _ hoffends ↦ ?_, fun _ ↦ hindex⟩
    obtain ⟨k, cmd, hcmd, hnot⟩ := hoffends
    have hall := (acceptable_of_validateCommands hloop).1
    exact absurd (hall cmd (List.mem_of_getElem? hcmd)) hnot
  · exact absurd hrejected.symm Bool.false_ne_true

/-! ### Exactness -/

/-- **Batch validation is exact, and reports the first offence.** For every registry, extents,
settings and batch: the batch is accepted exactly if it is valid; then the result says so, with no
issue and all the commands counted. Otherwise no command is counted and there is one issue, which
carries the batch's numbers; its index is the least index of an offending command if the batch is
well shaped and has one, and 0 if not. -/
theorem validateBatch_exact (env : ValidatorEnv) (settings : CommandValidationSettings)
    (batch : CommandBatch) :
    ((validateBatch env settings batch).ok = true ↔ Valid env settings batch) ∧
      ((validateBatch env settings batch).ok = true →
        (validateBatch env settings batch).batchResult.status = .accepted ∧
          (validateBatch env settings batch).batchResult.issues = [] ∧
          (validateBatch env settings batch).batchResult.acceptedCommandCount =
            batch.commands.length) ∧
      ((validateBatch env settings batch).ok = false →
        (validateBatch env settings batch).batchResult.acceptedCommandCount = 0 ∧
          ∃ issue, (validateBatch env settings batch).batchResult.issues = [issue] ∧
            issue.batchSeq = batch.batchSeq ∧
            (∀ id, batch.clientCommandId = some id → issue.clientCommandId = id) ∧
            FirstOffence env settings batch issue.commandIndex) := by
  refine ⟨validateBatch_ok_iff, fun hok ↦ ?_, fun hrejected ↦ ?_⟩
  · rw [validateBatch_of_ok hok]
    exact ⟨rfl, rfl, rfl⟩
  · obtain ⟨status, issue, heq, hfirst⟩ :=
      (verdict_validateBatch env settings batch).rejected hrejected
    rw [heq]
    refine ⟨rfl, stampIssue batch issue, rfl, rfl, fun id hid ↦ ?_, hfirst⟩
    rw [stampIssue, hid, getD_some]

/-- A validator with no AI attached, which has not seen a map. -/
def detachedEnv : ValidatorEnv := ⟨none, .zero, .zero, fun _ ↦ ""⟩

/-- Two commands without a client id; only the second command is empty. -/
def uncorrelatedBatch : CommandBatch where
  batchSeq := 1
  targetUnitId := 0
  commands := [.sendTextMessage "hello" 0, .notSet]
  clientCommandId := none
  basedOnFrame := none
  basedOnStateSeq := none

/-- **An issue about the batch carries index 0**, whichever command offends: where a client id is
required, the index reported is 0, and the least index of an offending command is 1. -/
theorem index_of_uncorrelatedBatch :
    (validateBatch detachedEnv { requireCorrelation := true }
        uncorrelatedBatch).batchResult.issues.map CommandIssue.commandIndex = [0] ∧
      IsLeast {k | Offends detachedEnv { requireCorrelation := true }
        (toSigned 32 uncorrelatedBatch.targetUnitId) uncorrelatedBatch.commands k} 1 := by
  refine ⟨rfl, ⟨.notSet, rfl, fun h ↦ h.isSet rfl⟩, ?_⟩
  rintro (- | k) ⟨cmd, hcmd, hnot⟩
  · cases hcmd
    exact absurd ((acceptable_iff (i := 0)).1 ⟨rfl, rfl⟩) hnot
  · exact Nat.succ_le_succ (Nat.zero_le k)

end Batch

end HighBar.Grpc
