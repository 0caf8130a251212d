import HighBar.Client.FixtureProvisioning

/-!
# What the two views of the fixtures agree on

The states of the classes follow from the latest transitions alone (`classState`), so the classes
that are there and those that are missing share all the classes out between them. Both views of a
command then ask for the same thing, a class it needs that is missing or unusable, with one
exception: the summary charges `cmd-self-destruct` with the loss of `builder` or `cloakable` also
while another unit is at hand that may be lost (`SpareAtHand`), and the classification does not.
-/

namespace HighBar.Client

open KeyedLog List Option

variable {transitions : List FixtureStateTransition} {statuses : List FixtureClassStatus}
  {fixtureClass commandId : String}

/-! ### The state of a class -/

/-- What a state of a transition says of the class. -/
def FixtureTransitionState.classState (fixtureClass : String) :
    FixtureTransitionState → FixtureClassState
  | .preexisting | .provisioned => .provisioned
  | .refreshed | .replaced => .refreshed
  | .unusable | .invalidated => .unusable
  | .modeQualifiedNonLive =>
    if fixtureClass ∈ defaultLiveFixtureClasses then .provisioned else .missing
  | .planned | .missing | .unknown => .missing

/-- The latest transition of a class. -/
abbrev latestTransition (transitions : List FixtureStateTransition) (fixtureClass : String) :
    Option FixtureStateTransition :=
  latest FixtureStateTransition.fixtureClass transitions fixtureClass

/-- The state of a class after a history: that of its latest transition, and missing without one. -/
def classState (transitions : List FixtureStateTransition) (fixtureClass : String) :
    FixtureClassState :=
  FixtureTransitionState.classState fixtureClass
    (((latestTransition transitions fixtureClass).map (·.state)).getD .missing)

/-- The latest transition of a class leaves a fixture that can be used. A run without live evidence
vouches for the classes of the baseline only. -/
def Usable (fixtureClass : String) (transition : Option FixtureStateTransition) : Prop :=
  ∃ t ∈ transition, t.state = .preexisting ∨ t.state = .provisioned ∨ t.state = .refreshed ∨
    t.state = .replaced ∨
    t.state = .modeQualifiedNonLive ∧ fixtureClass ∈ defaultLiveFixtureClasses

theorem FixtureTransitionState.classState_ne_planned (fixtureClass : String)
    (state : FixtureTransitionState) : state.classState fixtureClass ≠ .planned := by
  cases state <;> rw [FixtureTransitionState.classState]
  case modeQualifiedNonLive => split_ifs <;> exact FixtureClassState.noConfusion
  all_goals exact FixtureClassState.noConfusion

theorem isUnavailable_eq_not_isAvailable {status : FixtureClassState} (h : status ≠ .planned) :
    status.isUnavailable = !status.isAvailable := by
  cases status with
  | planned => exact absurd rfl h
  | provisioned | refreshed | missing | unusable => rfl

/-- A class that has a state is available or not. -/
theorem isUnavailable_classState (transitions : List FixtureStateTransition)
    (fixtureClass : String) :
    (classState transitions fixtureClass).isUnavailable =
      !(classState transitions fixtureClass).isAvailable :=
  isUnavailable_eq_not_isAvailable (FixtureTransitionState.classState_ne_planned _ _)

/-- A class is available exactly if its latest transition is usable. -/
theorem isAvailable_classState_iff :
    (classState transitions fixtureClass).isAvailable = true ↔
      Usable fixtureClass (latestTransition transitions fixtureClass) := by
  rw [classState, Usable]
  rcases latestTransition transitions fixtureClass with - | t
  · exact iff_of_false Bool.false_ne_true fun ⟨_, h, _⟩ ↦ not_mem_none _ h
  · simp only [map_some, getD_some, mem_def, Option.some.injEq,
      exists_eq_left']
    cases t.state <;> simp only [FixtureTransitionState.classState] <;>
      first
        | split_ifs with hbaseline <;> simp [FixtureClassState.isAvailable, hbaseline]
        | simp [FixtureClassState.isAvailable]

/-! ### The lists of the loop -/

/-- The list a state belongs to. The loop never leaves a class planned. -/
def ClassReport.listOf (report : ClassReport) : FixtureClassState → List String
  | .planned => []
  | .provisioned => report.provisioned
  | .refreshed => report.refreshed
  | .missing => report.missing
  | .unusable => report.unusable

/-- **A pass of the loop** puts the class on the list of its state. -/
theorem ClassReport.listOf_add (report : ClassReport) (fixtureClass : String)
    (status : FixtureClassState) :
    (report.add (latestTransition transitions) fixtureClass).listOf status =
      report.listOf status ++
        if classState transitions fixtureClass = status then [fixtureClass] else [] := by
  rw [ClassReport.add, classState]
  generalize ((latestTransition transitions fixtureClass).map (·.state)).getD .missing = s
  cases s <;> simp only [FixtureTransitionState.classState, contains_iff_mem]
  case modeQualifiedNonLive =>
    by_cases hbaseline : fixtureClass ∈ defaultLiveFixtureClasses <;>
      cases status <;> simp [listOf, hbaseline]
  all_goals cases status <;> simp [listOf]

/-- **The whole loop** sorts the classes by their state. -/
theorem ClassReport.listOf_foldl_add (classes : List String) (report : ClassReport)
    (status : FixtureClassState) :
    (classes.foldl (ClassReport.add (latestTransition transitions)) report).listOf status =
      report.listOf status ++ classes.filter fun c ↦ classState transitions c = status := by
  induction classes generalizing report with
  | nil => rw [foldl_nil, filter_nil, append_nil]
  | cons c classes ih =>
    rw [foldl_cons, ih, listOf_add, append_assoc, filter_cons]
    congr 1
    by_cases hc : classState transitions c = status
    · rw [if_pos hc, if_pos (decide_eq_true hc), singleton_append]
    · rw [if_neg hc, if_neg (by simpa using hc), nil_append]

/-- The report of a history. -/
def historyReport (transitions : List FixtureStateTransition) : ClassReport :=
  (sorted allLiveFixtureClasses).foldl (ClassReport.add (latestTransition transitions)) {}

/-- Each class is on the list of its state. -/
theorem mem_listOf_historyReport {status : FixtureClassState} :
    fixtureClass ∈ (historyReport transitions).listOf status ↔
      fixtureClass ∈ allLiveFixtureClasses ∧ classState transitions fixtureClass = status := by
  have hempty : ClassReport.listOf {} status = [] := by cases status <;> rfl
  rw [historyReport, ClassReport.listOf_foldl_add, hempty, nil_append, mem_filter,
    mem_sorted, decide_eq_true_iff]

/-- `build_fixture_class_statuses` finds every class on the list of its state. -/
theorem statusOf_historyReport (hclass : fixtureClass ∈ allLiveFixtureClasses) :
    ((historyReport transitions).statusOf fixtureClass).1 =
      classState transitions fixtureClass := by
  have hlist : ∀ status, ((historyReport transitions).listOf status).contains fixtureClass =
      decide (classState transitions fixtureClass = status) := fun status ↦ by
    rw [Bool.eq_iff_iff, contains_iff_mem, mem_listOf_historyReport, decide_eq_true_iff]
    exact and_iff_right hclass
  have hplanned : classState transitions fixtureClass ≠ .planned :=
    FixtureTransitionState.classState_ne_planned _ _
  have hunusable := hlist .unusable
  have hrefreshed := hlist .refreshed
  have hprovisioned := hlist .provisioned
  have hmissing := hlist .missing
  simp only [ClassReport.listOf] at hunusable hrefreshed hprovisioned hmissing
  rw [ClassReport.statusOf, hunusable, hrefreshed, hprovisioned, hmissing]
  cases hstate : classState transitions fixtureClass with
  | planned => exact absurd hstate hplanned
  | provisioned | refreshed | missing | unusable => rfl

/-! ### States that describe a history -/

/-- The states of the classes are those of a history: every class has one, and a class that is not
there affects the commands it is planned for. -/
structure Describes (transitions : List FixtureStateTransition)
    (statuses : List FixtureClassStatus) : Prop where
  classes : statuses.map (·.fixtureClass) = allLiveFixtureClasses
  status : ∀ s ∈ statuses, s.status = classState transitions s.fixtureClass
  affected : ∀ s ∈ statuses, s.affectedCommandIds =
    if s.status.isUnavailable then
      plannedCommandIdsForFixtureClass s.fixtureClass supportedCommandIds
    else []

/-- The statuses of a run describe its transitions. -/
theorem describes_buildFixtureClassStatuses (transitions : List FixtureStateTransition)
    (updatedAt : String) (ready : String → Option (List String))
    (reasons : String → Option String) :
    Describes transitions (buildFixtureClassStatuses updatedAt (historyReport transitions) ready
      reasons supportedCommandIds) where
  classes := by
    rw [buildFixtureClassStatuses, List.map_map]
    exact map_id _
  status := by
    intro s hs
    obtain ⟨c, hc, rfl⟩ := mem_map.1 hs
    exact statusOf_historyReport hc
  affected := by
    intro s hs
    obtain ⟨c, -, rfl⟩ := mem_map.1 hs
    rfl

/-- **The states of the summary describe the history.** -/
theorem describes_classStatuses (runId : String) (transitions : List FixtureStateTransition)
    (completedAt : String) :
    Describes transitions
      (fixtureProvisioningForTransitions runId transitions completedAt).classStatuses := by
  dsimp only [fixtureProvisioningForTransitions]
  rw [index_eq_latest]
  exact describes_buildFixtureClassStatuses transitions completedAt _ _

namespace Describes

variable (h : Describes transitions statuses)
include h

theorem nodup : (statuses.map (·.fixtureClass)).Nodup :=
  h.classes ▸ nodup_allLiveFixtureClasses

theorem exists_status (hclass : fixtureClass ∈ allLiveFixtureClasses) :
    ∃ s ∈ statuses, s.fixtureClass = fixtureClass := by
  rw [← h.classes] at hclass
  exact mem_map.1 hclass

theorem mem_classes {s : FixtureClassStatus} (hs : s ∈ statuses) :
    s.fixtureClass ∈ allLiveFixtureClasses :=
  h.classes ▸ mem_map_of_mem hs

/-- The classes whose state passes a test. -/
theorem map_filter (p : FixtureClassState → Bool) :
    (statuses.filter (p ·.status)).map (·.fixtureClass) =
      allLiveFixtureClasses.filter fun c ↦ p (classState transitions c) := by
  rw [← h.classes, List.filter_map]
  congr 1
  exact filter_congr fun s hs ↦ congrArg p (h.status s hs)

/-- Looking a class up in the states gives its state. -/
theorem statusByClass_eq (hclass : fixtureClass ∈ allLiveFixtureClasses) :
    statusByClass statuses fixtureClass = some (classState transitions fixtureClass) := by
  obtain ⟨s, hs, rfl⟩ := h.exists_status hclass
  rw [statusByClass, index_eq_latest, latest_of_nodup h.nodup hs, map_some,
    h.status s hs]

theorem statusByClass_of_notMem (hclass : fixtureClass ∉ allLiveFixtureClasses) :
    statusByClass statuses fixtureClass = none := by
  rw [statusByClass, index_eq_latest, map_eq_none_iff]
  rcases hlatest : latest FixtureClassStatus.fixtureClass statuses fixtureClass with - | s
  · rfl
  · obtain ⟨hs, hkey⟩ := mem_of_latest_eq_some hlatest
    exact absurd (hkey ▸ h.mem_classes hs) hclass

/-- A class is looked up as one that is not there. -/
theorem any_isUnavailable (fixtureClass : String) :
    (statusByClass statuses fixtureClass).any (·.isUnavailable) = true ↔
      fixtureClass ∈ allLiveFixtureClasses ∧
        (classState transitions fixtureClass).isUnavailable = true := by
  by_cases hclass : fixtureClass ∈ allLiveFixtureClasses
  · rw [h.statusByClass_eq hclass, any_some]
    exact (and_iff_right hclass).symm
  · rw [h.statusByClass_of_notMem hclass, any_none]
    exact iff_of_false Bool.false_ne_true fun hmem ↦ hclass hmem.1

theorem ne_nil : statuses.isEmpty = false := by
  have hbuilder : "builder" ∈ allLiveFixtureClasses := mem_allLiveFixtureClasses.2 (by decide)
  obtain ⟨s, hs, -⟩ := h.exists_status hbuilder
  rw [isEmpty_eq_false_iff]
  exact ne_nil_of_mem hs

/-- **The summary's view of a command**: it needs a class that is not there. -/
theorem mem_affected (hsupported : commandId ∈ supportedCommandIds) :
    commandId ∈ sorted (statuses.flatMap (·.affectedCommandIds)).dedup ↔
      ∃ c ∈ fixtureClassesForCommand commandId, c ∈ allLiveFixtureClasses ∧
        (classState transitions c).isUnavailable = true := by
  have hplanned : ∀ c, commandId ∈ plannedCommandIdsForFixtureClass c supportedCommandIds ↔
      c ∈ fixtureClassesForCommand commandId := fun c ↦ by
    have hempty : supportedCommandIds.isEmpty = false :=
      isEmpty_eq_false_iff.2 (ne_nil_of_mem hsupported)
    rw [plannedCommandIdsForFixtureClass, hempty, if_neg Bool.false_ne_true, mem_sorted,
      mem_filter, contains_iff_mem]
    exact and_iff_right hsupported
  rw [mem_sorted, mem_dedup, mem_flatMap]
  constructor
  · rintro ⟨s, hs, hmem⟩
    rw [h.affected s hs] at hmem
    split_ifs at hmem with hunavailable
    · exact ⟨s.fixtureClass, (hplanned _).1 hmem, h.mem_classes hs, h.status s hs ▸ hunavailable⟩
    · exact absurd hmem not_mem_nil
  · rintro ⟨c, hneeds, hclass, hunavailable⟩
    obtain ⟨s, hs, rfl⟩ := h.exists_status hclass
    refine ⟨s, hs, ?_⟩
    rw [h.affected s hs, h.status s hs, if_pos hunavailable]
    exact (hplanned _).2 hneeds

/-- Some class of a command is unavailable, read off the statuses. -/
theorem filter_ne_nil (classes : List String) :
    (classes.filter fun c ↦ (statusByClass statuses c).any (·.isUnavailable)) ≠ [] ↔
      ∃ c ∈ classes, c ∈ allLiveFixtureClasses ∧
        (classState transitions c).isUnavailable = true := by
  rw [ne_eq, filter_eq_nil_iff]
  simp only [h.any_isUnavailable, not_forall, not_not, exists_prop]

/-- **The classification's view of a command**, `cmd-self-destruct` apart: the same. -/
theorem unavailable_ne_nil (hcommand : commandId ≠ "cmd-self-destruct") :
    unavailableFixtureClassesForCommand commandId statuses [] ≠ [] ↔
      ∃ c ∈ fixtureClassesForCommand commandId, c ∈ allLiveFixtureClasses ∧
        (classState transitions c).isUnavailable = true := by
  rw [unavailableFixtureClassesForCommand, if_neg hcommand, h.ne_nil, Bool.not_false, if_pos rfl,
    h.filter_ne_nil]

/-- The two views of `cmd-self-destruct` differ by the unit at hand. -/
theorem unavailable_selfDestruct_ne_nil :
    unavailableFixtureClassesForCommand "cmd-self-destruct" statuses [] ≠ [] ↔
      (¬ ∃ c ∈ disposableFixtureClasses, classState transitions c = .provisioned) ∧
        ∃ c ∈ ["builder", "cloakable"], (classState transitions c).isUnavailable = true := by
  have hlive : ∀ c ∈ disposableFixtureClasses, c ∈ allLiveFixtureClasses := by
    simp only [mem_allLiveFixtureClasses]
    decide
  have hany : (disposableFixtureClasses.any fun c ↦
        statusByClass statuses c = some .provisioned) = true ↔
      ∃ c ∈ disposableFixtureClasses, classState transitions c = .provisioned := by
    rw [List.any_eq_true]
    refine exists_congr fun c ↦ and_congr_right fun hc ↦ ?_
    rw [h.statusByClass_eq (hlive c hc), decide_eq_true_iff, some_inj]
  have hneeded : ∀ c ∈ ["builder", "cloakable"], c ∈ allLiveFixtureClasses := fun c hc ↦
    hlive c (mem_append_left ["payload_unit", "damaged_friendly"] hc)
  rw [unavailableFixtureClassesForCommand, if_pos rfl, h.ne_nil, Bool.not_false, if_pos rfl]
  by_cases hspare : ∃ c ∈ disposableFixtureClasses, classState transitions c = .provisioned
  · rw [if_pos (hany.2 hspare)]
    exact iff_of_false (fun hne ↦ hne rfl) fun hboth ↦ hboth.1 hspare
  · rw [if_neg (mt hany.1 hspare), h.filter_ne_nil, and_iff_right hspare]
    exact exists_congr fun c ↦ and_congr_right fun hc ↦ and_iff_right (hneeded c hc)

end Describes

/-! ### The two views compared -/

/-- The provisioned classes are the available ones. -/
theorem provisionedFixtureClasses_eq (runId : String) (transitions : List FixtureStateTransition)
    (completedAt : String) :
    (fixtureProvisioningForTransitions runId transitions completedAt).provisionedFixtureClasses =
      allLiveFixtureClasses.filter fun c ↦ (classState transitions c).isAvailable :=
  (describes_classStatuses runId transitions completedAt).map_filter FixtureClassState.isAvailable

/-- The missing classes are the others. -/
theorem missingFixtureClasses_eq (runId : String) (transitions : List FixtureStateTransition)
    (completedAt : String) :
    (fixtureProvisioningForTransitions runId transitions completedAt).missingFixtureClasses =
      allLiveFixtureClasses.filter fun c ↦ !(classState transitions c).isAvailable := by
  simp only [← isUnavailable_classState]
  exact (describes_classStatuses runId transitions completedAt).map_filter
    FixtureClassState.isUnavailable

/-- A command is affected exactly if a class of its own is unavailable. -/
theorem mem_affectedCommandIds {runId completedAt : String}
    (hsupported : commandId ∈ supportedCommandIds) :
    commandId ∈
        (fixtureProvisioningForTransitions runId transitions completedAt).affectedCommandIds ↔
      ∃ c ∈ fixtureClassesForCommand commandId, c ∈ allLiveFixtureClasses ∧
        (classState transitions c).isUnavailable = true := by
  rw [← (describes_classStatuses runId transitions completedAt).mem_affected hsupported]
  rfl

/-- A unit that may be lost is at hand, although `builder` or `cloakable` is not there. -/
def SpareAtHand (transitions : List FixtureStateTransition) : Prop :=
  (∃ c ∈ disposableFixtureClasses, classState transitions c = .provisioned) ∧
    ∃ c ∈ ["builder", "cloakable"], (classState transitions c).isUnavailable = true

/-- The summary of a history lists a command as affected exactly if the classification, asked with
the states of that summary, finds a class the command lacks. -/
def ViewsAgree (result : FixtureProvisioningResult) (commandId : String) : Prop :=
  commandId ∈ result.affectedCommandIds ↔
    unavailableFixtureClassesForCommand commandId result.classStatuses [] ≠ []

/-- **The views agree on every other command.** -/
theorem viewsAgree_of_ne (runId completedAt : String) (transitions : List FixtureStateTransition)
    (hsupported : commandId ∈ supportedCommandIds) (hcommand : commandId ≠ "cmd-self-destruct") :
    ViewsAgree (fixtureProvisioningForTransitions runId transitions completedAt) commandId := by
  have h := describes_classStatuses runId transitions completedAt
  rw [ViewsAgree, mem_affectedCommandIds hsupported, h.unavailable_ne_nil hcommand]

theorem selfDestruct_mem_supportedCommandIds : "cmd-self-destruct" ∈ supportedCommandIds := by
  refine mem_sorted.2 (mem_map.2 ⟨("self_destruct", .channelACommand), ?_, ?_⟩)
  · decide +kernel
  · decide +kernel

/-- **The views of `cmd-self-destruct`** agree unless a spare unit is at hand. -/
theorem viewsAgree_selfDestruct_iff (runId completedAt : String)
    (transitions : List FixtureStateTransition) :
    ViewsAgree (fixtureProvisioningForTransitions runId transitions completedAt)
      "cmd-self-destruct" ↔ ¬ SpareAtHand transitions := by
  have h := describes_classStatuses runId transitions completedAt
  have hneeded : (∃ c ∈ fixtureClassesForCommand "cmd-self-destruct", c ∈ allLiveFixtureClasses ∧
        (classState transitions c).isUnavailable = true) ↔
      ∃ c ∈ ["builder", "cloakable"], (classState transitions c).isUnavailable = true := by
    have hclasses : fixtureClassesForCommand "cmd-self-destruct" = ["cloakable", "builder"] := by
      decide +kernel
    have hlive : ∀ c ∈ ["cloakable", "builder"], c ∈ allLiveFixtureClasses := by
      simp only [mem_allLiveFixtureClasses]
      decide
    rw [hclasses]
    refine exists_congr fun c ↦ ?_
    rw [(List.Perm.swap "builder" "cloakable" []).mem_iff]
    exact and_congr_right fun hc ↦
      and_iff_right (hlive c ((List.Perm.swap "builder" "cloakable" []).mem_iff.2 hc))
  rw [SpareAtHand, ViewsAgree, h.unavailable_selfDestruct_ne_nil,
    mem_affectedCommandIds selfDestruct_mem_supportedCommandIds, hneeded, iff_and_self, not_and']

/-- **What the summary and the classification agree on.** For every history the classes that are
there and those that are missing are all the classes, each once, and the latest transition of a
class decides between the two. The summary and the classification agree on every supported command
but `cmd-self-destruct`, and on that one exactly if no spare unit is at hand. -/
theorem fixture_views_agree_iff (runId completedAt : String)
    (transitions : List FixtureStateTransition) :
    let result := fixtureProvisioningForTransitions runId transitions completedAt
    (result.provisionedFixtureClasses ++ result.missingFixtureClasses).Perm
        allLiveFixtureClasses ∧
      allLiveFixtureClasses.Nodup ∧
      (∀ c ∈ allLiveFixtureClasses, c ∈ result.provisionedFixtureClasses ↔
        Usable c (latestTransition transitions c)) ∧
      (∀ commandId ∈ supportedCommandIds, commandId ≠ "cmd-self-destruct" →
        ViewsAgree result commandId) ∧
      ((∀ commandId ∈ supportedCommandIds, ViewsAgree result commandId) ↔
        ¬ SpareAtHand transitions) := by
  intro result
  refine ⟨?_, nodup_allLiveFixtureClasses, fun c hc ↦ ?_, fun commandId hsupported hcommand ↦
    viewsAgree_of_ne runId completedAt transitions hsupported hcommand, ?_⟩
  · rw [provisionedFixtureClasses_eq, missingFixtureClasses_eq]
    exact filter_append_perm _ _
  · rw [provisionedFixtureClasses_eq, mem_filter, isAvailable_classState_iff]
    exact and_iff_right hc
  · rw [← viewsAgree_selfDestruct_iff runId completedAt]
    refine ⟨fun hall ↦ hall _ selfDestruct_mem_supportedCommandIds, fun hself commandId hmem ↦ ?_⟩
    by_cases hcommand : commandId = "cmd-self-destruct"
    · exact hcommand ▸ hself
    · exact viewsAgree_of_ne runId completedAt transitions hmem hcommand

/-- A run in which `cmd-self-destruct` was blocked for want of a cloakable unit, with a builder
there. -/
def builderWithoutCloakable : List FixtureStateTransition :=
  [⟨"builder", .provisioned, "live_execution",
      "builder remained available while cmd-self-destruct was blocked on another prerequisite",
      ["cmd-self-destruct"], "t0"⟩,
    ⟨"cloakable", .missing, "live_execution",
      "cloakable was still unavailable when cmd-self-destruct was attempted",
      ["cmd-self-destruct"], "t0"⟩]

/-- The summary lists `cmd-self-destruct` as affected, and the classification finds nothing it
lacks. -/
theorem selfDestruct_affected_with_builder :
    "cmd-self-destruct" ∈ supportedCommandIds ∧
      "cmd-self-destruct" ∈
        (fixtureProvisioningForTransitions "run" builderWithoutCloakable "t1").affectedCommandIds ∧
      unavailableFixtureClassesForCommand "cmd-self-destruct"
        (fixtureProvisioningForTransitions "run" builderWithoutCloakable "t1").classStatuses [] =
          [] := by
  have h := describes_classStatuses "run" builderWithoutCloakable "t1"
  have hbuilder : classState builderWithoutCloakable "builder" = .provisioned := by decide +kernel
  refine ⟨selfDestruct_mem_supportedCommandIds, ?_, ?_⟩
  · rw [mem_affectedCommandIds selfDestruct_mem_supportedCommandIds]
    exact ⟨"cloakable", by decide +kernel, mem_allLiveFixtureClasses.2 (by decide),
      by decide +kernel⟩
  · by_contra hne
    exact (h.unavailable_selfDestruct_ne_nil.1 hne).1 ⟨"builder", by decide +kernel, hbuilder⟩

end HighBar.Client
