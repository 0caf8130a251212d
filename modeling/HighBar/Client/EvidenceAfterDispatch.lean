import HighBar.Client.VerifyPredicates
import Mathlib.Data.Fintype.EquivFin

/-!
# Evidence from before the dispatch

`collect_live_rows` keeps one rolling buffer of events for the whole run and hands **all of it** to
the predicate of each arm. The buffer is `earlier ++ since`: what was received before the command
was sent, and what was received since. A verdict that rests on the command does not depend on
`earlier`.

Whether it does is decided by the snapshots and by `since` (`Settled`). A predicate that looks for
one event in the log is safe exactly if it never gets that far or finds the event in `since`
already: otherwise an earlier event makes the difference. The health predicates read the log only to
word their evidence, but the test they make there raises on an event of an unknown kind.

The verdict is the one that the report shows: `armOutcome_texts` connects it to the row that
`collect_live_rows` builds for the arm, whose columns `verified` and `error` are its texts.
-/

namespace HighBar.Client

open List Option

variable {arith : FloatArithmetic} {pair : SnapshotPair} {since : List ReceivedEvent}

/-- The verdict is the same whatever was received before the dispatch. -/
def IgnoresEarlier {β : Type*} (verdict : List ReceivedEvent → β) (since : List ReceivedEvent) :
    Prop :=
  ∀ earlier earlier', verdict (earlier ++ since) = verdict (earlier' ++ since)

/-- A verdict that does not read the log. -/
theorem ignoresEarlier_const {β : Type*} (verdict : β) : IgnoresEarlier (fun _ ↦ verdict) since :=
  fun _ _ ↦ rfl

/-- **One event decides.** A verdict that turns on whether the log has an event of some kind ignores
what is earlier exactly if there is one since. -/
theorem ignoresEarlier_any_iff {β : Type*} {kind : ReceivedEvent → Bool} (verdict : Bool → β)
    (hverdict : verdict true ≠ verdict false) (hkind : ∃ event, kind event = true) :
    IgnoresEarlier (fun deltas ↦ verdict (deltas.any kind)) since ↔ since.any kind = true := by
  constructor
  · intro h
    obtain ⟨event, hevent⟩ := hkind
    have heq := h [event] []
    simp only [singleton_append, any_cons, hevent, Bool.true_or, nil_append] at heq
    rcases hsince : since.any kind with - | -
    · rw [hsince] at heq
      exact absurd heq hverdict
    · rfl
  · intro h earlier earlier'
    simp only [any_append, h, Bool.or_true]

/-! ### The predicates that look for an event -/

theorem effectIf_ne : effectIf true ≠ effectIf false := Verdict.noConfusion

/-- The predicates about one target. -/
theorem ignoresEarlier_targetConsumed_iff {ι : Type*} {target : Snapshot → Option ι}
    {present gone : ι → Bool} {event : ι → ReceivedEvent → Bool}
    (hevent : ∀ id, ∃ e, event id e = true) :
    IgnoresEarlier (targetConsumed target present gone event pair) since ↔
      ∀ id ∈ target pair.before, present id = true →
        gone id = true ∨ since.any (event id) = true := by
  rcases htarget : target pair.before with - | id
  · simp only [IgnoresEarlier, targetConsumed, htarget, not_mem_none, false_imp_iff,
      implies_true]
  · simp only [IgnoresEarlier, targetConsumed, htarget, mem_def, Option.some.injEq,
      forall_eq']
    rcases present id with - | -
    · simp only [Bool.not_false, if_true, implies_true, Bool.false_eq_true, false_imp_iff]
    · rcases gone id with - | -
      · simp only [Bool.not_true, Bool.false_eq_true, if_false, false_or, true_imp_iff]
        exact ignoresEarlier_any_iff effectIf effectIf_ne (hevent id)
      · simp only [Bool.not_true, Bool.false_eq_true, if_false, if_true, implies_true, true_or]

/-- There is always a unit id that the snapshot does not have. -/
theorem exists_isCreatedBy (builderId : ℤ) (known : List ℤ) :
    ∃ event, isCreatedBy builderId known event = true := by
  obtain ⟨unitId, hunit⟩ := Infinite.exists_notMem_finset known.toFinset
  refine ⟨some (.unitCreated unitId builderId), ?_⟩
  have hnew : known.contains unitId = false := by
    rw [contains_eq_mem, decide_eq_false_iff_not, ← List.mem_toFinset]
    exact hunit
  simp only [isCreatedBy, hnew, decide_true, Bool.not_false, Bool.and_self]

/-- A build ignores what came before the dispatch exactly if its evidence came after it. -/
theorem ignoresEarlier_buildProgressMonotonic_iff {builder : Snapshot → Option ℤ} :
    IgnoresEarlier (buildProgressMonotonic builder pair) since ↔
      ∀ id ∈ builder pair.before,
        since.any (isCreatedBy id pair.before.ownIds) = true ∨ siteStarted pair = true := by
  rcases hbuilder : builder pair.before with - | id
  · simp only [IgnoresEarlier, buildProgressMonotonic, hbuilder, any_none,
      not_mem_none, false_imp_iff, implies_true]
  · simp only [IgnoresEarlier, buildProgressMonotonic, hbuilder, any_some, mem_def,
      Option.some.injEq, forall_eq']
    rcases siteStarted pair with - | -
    · simp only [Bool.false_eq_true, or_false]
      exact ignoresEarlier_any_iff (fun created ↦ if created then .verified else effectIf false)
        Verdict.noConfusion (exists_isCreatedBy id _)
    · simp only [effectIf, if_true, ite_self, implies_true, or_true]

/-! ### The health predicates -/

variable {target : Snapshot → Option ℤ} {minDrop : FloatValue}

/-- The health test does not read the log unless the target is gone. -/
theorem healthDelta_congr (h : ∀ id ∈ target pair.before, (pair.before.findUnit id).isSome = true →
      (pair.after.findUnit id).isSome = true) (deltas deltas' : List ReceivedEvent) :
    healthDelta arith target minDrop pair deltas =
      healthDelta arith target minDrop pair deltas' := by
  simp only [healthDelta]
  rcases htarget : target pair.before with - | id
  · rfl
  · rcases hpre : pair.before.findUnit id with - | pre
    · simp only [hpre]
    · have hstays := h id htarget (by rw [hpre]; rfl)
      obtain ⟨post, hpost⟩ := isSome_iff_exists.1 hstays
      simp only [hpre, hpost]

/-- If the target is gone, an event of an unknown kind makes the test raise, unless there is an
`enemy_destroyed` event before it. -/
theorem healthDelta_of_gone {id : ℤ} (htarget : target pair.before = some id)
    (hpre : (pair.before.findUnit id).isSome = true) (hpost : pair.after.findUnit id = none)
    (deltas : List ReceivedEvent) :
    healthDelta arith target minDrop pair deltas =
      (anyKindIn "enemy_destroyed" deltas).map fun _ ↦ .verified := by
  obtain ⟨pre, hpre⟩ := isSome_iff_exists.1 hpre
  simp only [healthDelta, htarget, hpre, hpost]

theorem anyKindIn_unknown (word : String) (rest : List ReceivedEvent) :
    anyKindIn word (none :: rest) = none := rfl

theorem anyKindIn_enemyDestroyed (rest : List ReceivedEvent) :
    anyKindIn "enemy_destroyed" (some (.enemyDestroyed 0) :: rest) = some true :=
  if_pos infix_rfl

/-- The target is still there, if it was. -/
def TargetStays (target : Snapshot → Option ℤ) (pair : SnapshotPair) : Prop :=
  ∀ id ∈ target pair.before, (pair.before.findUnit id).isSome = true →
    (pair.after.findUnit id).isSome = true

/-- A verdict that goes through the health test: it ignores what is earlier exactly if the target
stays. -/
theorem ignoresEarlier_healthDelta_iff {next : Verdict → Verdict}
    (hnext : next .verified = .verified) :
    IgnoresEarlier (fun deltas ↦
        ((healthDelta arith target minDrop pair deltas).map next).getD (.refuted .internalError))
      since ↔ TargetStays target pair := by
  constructor
  · intro h id htarget hpre
    by_contra hgone
    rw [Bool.not_eq_true, isSome_eq_false_iff, isNone_iff_eq_none] at hgone
    have heq := h [none] [some (.enemyDestroyed 0)]
    simp only [singleton_append, healthDelta_of_gone htarget hpre hgone, anyKindIn_unknown,
      anyKindIn_enemyDestroyed, map_none, map_some, getD_none,
      getD_some, hnext] at heq
    cases heq
  · intro h earlier earlier'
    simp only [healthDelta_congr h (earlier ++ since) (earlier' ++ since)]

/-! ### Every arm -/

/-- **When the verdict of a rule rests on what happened since the dispatch.** A rule that looks for
an event does not get that far, or the event came since; a rule that tests the health of a target
has the target in the later snapshot. -/
def Settled (pair : SnapshotPair) (since : List ReceivedEvent) : VerifyRule → Prop
  | .constructionStarted builder =>
    ∀ id ∈ builder pair.before,
      since.any (isCreatedBy id pair.before.ownIds) = true ∨ siteStarted pair = true
  | .unitDestroyed target =>
    ∀ id ∈ target pair.before, (pair.before.findUnit id).isSome = true →
      (pair.after.findUnit id).isNone = true ∨ since.any (isDestroyed id) = true
  | .featureConsumed target =>
    ∀ id ∈ target pair.before, (pair.before.findFeature id).isSome = true →
      (pair.after.findFeature id).isNone = true ∨ since.any (isFeatureDestroyed id) = true
  | .captureOwnership target =>
    ∀ id ∈ target pair.before, (pair.before.findUnit id).isSome = true →
      pair.after.ownIds.contains id = true ∨ since.any (isTransferred id) = true
  | .healthDelta target _ | .combatEngagement _ target _ _ => TargetStays target pair
  | .notWireObservable | .alwaysNa | .cheatsGated | .effectNotObserved | .movementProgress _ _
  | .guardProximity _ _ _ _ | .repairHealthGain _ _ => True

/-- The verdict on a rule ignores what came before exactly if it is settled without it. -/
theorem ignoresEarlier_recordedVerdict_iff (rule : VerifyRule) :
    IgnoresEarlier (recordedVerdict arith rule pair) since ↔ Settled pair since rule := by
  cases rule with
  | notWireObservable | alwaysNa | cheatsGated | effectNotObserved | movementProgress unit minDelta
  | guardProximity unit target minDelta maxDistance | repairHealthGain target minGain =>
    exact iff_of_true (ignoresEarlier_const _) trivial
  | constructionStarted builder => exact ignoresEarlier_buildProgressMonotonic_iff
  | unitDestroyed target =>
    refine ignoresEarlier_targetConsumed_iff fun id ↦ ⟨some (.unitDestroyed id 0), ?_⟩
    exact decide_eq_true rfl
  | featureConsumed target =>
    refine ignoresEarlier_targetConsumed_iff fun id ↦ ⟨some (.featureDestroyed id), ?_⟩
    exact decide_eq_true rfl
  | captureOwnership target =>
    refine ignoresEarlier_targetConsumed_iff fun id ↦ ⟨some (.unitCaptured id 0 0), ?_⟩
    exact decide_eq_true rfl
  | healthDelta target minDrop =>
    have hmap : recordedVerdict arith (.healthDelta target minDrop) pair = fun deltas ↦
        ((healthDelta arith target minDrop pair deltas).map id).getD (.refuted .internalError) := by
      funext deltas
      rw [Option.map_id]
      rfl
    rw [hmap]
    exact ignoresEarlier_healthDelta_iff rfl
  | combatEngagement unit target minDrop minDelta =>
    exact ignoresEarlier_healthDelta_iff (if_pos rfl)

/-- The verdict of an arm, by its rule in the registry. -/
def armVerdict (arith : FloatArithmetic) (arm : String) (pair : SnapshotPair)
    (deltas : List ReceivedEvent) : Option Verdict :=
  ((verifyRules arith).lookup arm).map fun rule ↦ recordedVerdict arith rule pair deltas

/-- **Verdicts rest on what happened since the dispatch** exactly if the rule of the arm is settled
by the snapshots and the events since. -/
theorem verdict_postdates_dispatch_iff (arith : FloatArithmetic) (arm : String)
    (pair : SnapshotPair) (since : List ReceivedEvent) :
    IgnoresEarlier (armVerdict arith arm pair) since ↔
      ∀ rule, (verifyRules arith).lookup arm = some rule → Settled pair since rule := by
  rcases hrule : (verifyRules arith).lookup arm with - | rule
  · simp only [IgnoresEarlier, armVerdict, hrule, map_none, reduceCtorEq, false_imp_iff,
      implies_true]
  · have hsettled := @ignoresEarlier_recordedVerdict_iff arith pair since rule
    simp only [IgnoresEarlier, armVerdict, hrule, map_some, Option.some.injEq, forall_eq',
      ← hsettled]

/-- A commander that started nothing since the dispatch of `build_unit`. -/
def idleCommander : SnapshotPair :=
  let snap : Snapshot :=
    { ownUnits := [{ unitId := 1, position := ⟨.zero, .zero, .zero⟩,
                     health := .finite 3700, maxHealth := .finite 3700 }]
      visibleEnemies := []
      mapFeatures := [] }
  ⟨snap, snap⟩

/-- The building that the commander started during the bootstrap, and that is lost since, makes
`build_unit` a success. -/
theorem build_verified_by_earlier_event :
    (∀ arith, armVerdict arith "build_unit" idleCommander ([some (.unitCreated 50 1)] ++ []) =
        some .verified) ∧
      (∀ arith, armVerdict arith "build_unit" idleCommander ([] ++ []) =
        some (.refuted .effectNotObserved)) ∧
      ∀ arith, ¬IgnoresEarlier (armVerdict arith "build_unit" idleCommander) [] := by
  refine ⟨fun _ ↦ rfl, fun _ ↦ rfl, fun arith h ↦ ?_⟩
  have heq : some Verdict.verified = some (.refuted .effectNotObserved) :=
    h [some (.unitCreated 50 1)] []
  exact Verdict.noConfusion (Option.some.inj heq)

/-! ### The row of an arm -/

/-- The text in the column `error`. -/
def VerifyError.text : VerifyError → String
  | .preconditionUnmet => "precondition_unmet"
  | .targetUnitDestroyed => "target_unit_destroyed"
  | .effectNotObserved => "effect_not_observed"
  | .cheatsRequired => "cheats_required"
  | .notWireObservable => "not_wire_observable"
  | .internalError => "internal_error"

/-- The texts in the columns `verified` and `error`. -/
def Verdict.texts : Verdict → String × String
  | .verified => ("true", "")
  | .refuted error => ("false", error.text)
  | .na error => ("na", error.text)

/-- The predicate of the arm was called on the two snapshots and the log, and answered by the rule:
with its verdict, or with an exception. -/
structure JudgedBy (arith : FloatArithmetic) (rule : VerifyRule) (pair : SnapshotPair)
    (deltas : List ReceivedEvent) (case : BehavioralTestCase) (answers : ArmRun) : Prop where
  callable : case.verifyPredicate = .callable
  precondition : answers.preconditionMessage = none
  pre : answers.pre.isSome = true
  dispatched : answers.dispatchError = none
  arrived : answers.arrived = true
  verdict : ∀ verdict, rule.judge arith pair deltas = some verdict →
    ∃ evidence, answers.verdict = .ok ⟨verdict.texts.1, evidence, verdict.texts.2⟩
  raised : rule.judge arith pair deltas = none → ∃ detail, answers.verdict = .error detail

/-- **What the row records** for an arm whose predicate was called is the verdict of its rule. -/
theorem armOutcome_texts {rule : VerifyRule} {deltas : List ReceivedEvent}
    {case : BehavioralTestCase} {answers : ArmRun}
    (h : JudgedBy arith rule pair deltas case answers) :
    ((armOutcome case answers).2.verified, (armOutcome case answers).2.error) =
      (recordedVerdict arith rule pair deltas).texts := by
  obtain ⟨frame, hpre⟩ := isSome_iff_exists.1 h.pre
  rcases hjudge : rule.judge arith pair deltas with - | verdict
  · obtain ⟨detail, hdetail⟩ := h.raised hjudge
    simp only [armOutcome, h.callable, h.precondition, hpre, h.dispatched, h.arrived, if_true,
      hdetail, recordedVerdict, hjudge, getD_none, Verdict.texts, VerifyError.text]
  · obtain ⟨evidence, hevidence⟩ := h.verdict verdict hjudge
    simp only [armOutcome, h.callable, h.precondition, hpre, h.dispatched, h.arrived, if_true,
      hevidence, recordedVerdict, hjudge, getD_some]

end HighBar.Client
