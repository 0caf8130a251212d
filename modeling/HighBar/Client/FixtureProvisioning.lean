import HighBar.Client.CollectLiveRows
import HighBar.Library.KeyedLog

/-!
# The fixtures of a live run

A live run needs **fixtures**: a commander, something to shoot at, a transport. What is known of
each class of them is a history of transitions (`FixtureStateTransition`), and
`fixture_provisioning_for_transitions` sums it up: the state of each of the fourteen classes, which
of them are there, which are missing, and which commands that affects.

The classification of a failure asks the other way round:
`unavailable_fixture_classes_for_command` is given a command and looks its classes up in the same
states. One command is special there. `cmd-self-destruct` needs **some** unit that may be lost, so
it is content with any one of four classes, although the table of the commands names two for it.
-/

namespace HighBar.Client

open KeyedLog List

/-! ### The tables -/

/-- `DEFAULT_LIVE_FIXTURE_CLASS_BY_COMMAND`. -/
def defaultLiveFixtureClassByCommand : List (String × List String) :=
  [("cmd-attack", ["commander", "hostile_target"]),
    ("cmd-attack-area", ["commander", "hostile_target"]),
    ("cmd-build-unit", ["commander", "resource_baseline"]),
    ("cmd-capture", ["commander", "capturable_target"]),
    ("cmd-capture-area", ["commander", "capturable_target"]),
    ("cmd-custom", ["commander", "custom_target"]),
    ("cmd-dgun", ["commander", "hostile_target"]),
    ("cmd-fight", ["commander", "hostile_target", "movement_lane"]),
    ("cmd-guard", ["commander", "damaged_friendly"]),
    ("cmd-load-onto", ["commander", "transport_unit", "payload_unit"]),
    ("cmd-load-units", ["commander", "transport_unit", "payload_unit"]),
    ("cmd-load-units-area", ["commander", "transport_unit", "payload_unit"]),
    ("cmd-move-unit", ["commander", "movement_lane"]),
    ("cmd-patrol", ["commander", "movement_lane"]),
    ("cmd-reclaim-area", ["commander", "reclaim_target"]),
    ("cmd-reclaim-feature", ["commander", "reclaim_target"]),
    ("cmd-reclaim-in-area", ["commander", "reclaim_target"]),
    ("cmd-reclaim-unit", ["commander", "reclaim_target"]),
    ("cmd-repair", ["commander", "damaged_friendly"]),
    ("cmd-restore-area", ["commander", "restore_target"]),
    ("cmd-resurrect", ["commander", "wreck_target"]),
    ("cmd-resurrect-in-area", ["commander", "wreck_target"]),
    ("cmd-self-destruct", ["cloakable", "builder"]),
    ("cmd-unload-unit", ["commander", "transport_unit", "payload_unit"]),
    ("cmd-unload-units-area", ["commander", "transport_unit", "payload_unit"])]

/-- `DEFAULT_LIVE_FIXTURE_CLASSES`. -/
def defaultLiveFixtureClasses : List String :=
  ["commander", "builder", "hostile_target", "movement_lane", "resource_baseline", "cloakable"]

/-- `OPTIONAL_LIVE_FIXTURE_CLASSES`. -/
def optionalLiveFixtureClasses : List String :=
  ["damaged_friendly", "reclaim_target", "transport_unit", "payload_unit", "capturable_target",
    "restore_target", "wreck_target", "custom_target"]

/-- `sorted` of a collection of texts. -/
def sorted (texts : List String) : List String :=
  texts.insertionSort (· ≤ ·)

theorem mem_sorted {text : String} {texts : List String} : text ∈ sorted texts ↔ text ∈ texts :=
  mem_insertionSort _

theorem sorted_perm (texts : List String) : (sorted texts).Perm texts :=
  perm_insertionSort _ texts

/-- `all_live_fixture_classes`. -/
def allLiveFixtureClasses : List String :=
  sorted (defaultLiveFixtureClasses ++ optionalLiveFixtureClasses).dedup

theorem mem_allLiveFixtureClasses {fixtureClass : String} :
    fixtureClass ∈ allLiveFixtureClasses ↔
      fixtureClass ∈ defaultLiveFixtureClasses ++ optionalLiveFixtureClasses := by
  rw [allLiveFixtureClasses, mem_sorted, mem_dedup]

theorem nodup_allLiveFixtureClasses : allLiveFixtureClasses.Nodup :=
  (sorted_perm _).nodup_iff.2 (nodup_dedup _)

/-- `fixture_classes_for_command`. -/
def fixtureClassesForCommand (commandId : String) : List String :=
  (defaultLiveFixtureClassByCommand.lookup commandId).getD ["commander"]

/-- The arms of `_build_registry`, in the order in which it files them. -/
def registryArms : List (String × Category) :=
  let channelC := ["call_lua_rules", "call_lua_ui", "create_line_figure", "create_spline_figure",
    "draw_add_line", "draw_add_point", "draw_remove_point", "draw_unit", "remove_figure",
    "send_text_message", "set_figure_color", "set_figure_position", "set_last_pos_message"]
  let channelB := ["free_path", "get_approx_length", "get_next_waypoint", "group_add_unit",
    "group_remove_unit", "init_path"]
  let cheats := ["give_me", "give_me_new_unit"]
  let teamGlobal := ["pause_team", "send_resources", "set_my_income_share_direct",
    "set_share_level"]
  let verified := ["move_unit", "build_unit", "fight", "attack", "attack_area", "dgun",
    "reclaim_unit", "restore_area", "set_base", "load_units", "load_units_area", "load_onto",
    "unload_unit", "unload_units_area", "custom", "guard", "repair", "reclaim_area",
    "reclaim_in_area", "reclaim_feature", "resurrect", "resurrect_in_area", "capture",
    "capture_area", "self_destruct"]
  let unverified := ["attack_area", "capture", "capture_area", "custom", "death_wait", "dgun",
    "gather_wait", "guard", "load_onto", "load_units", "load_units_area", "patrol",
    "reclaim_area", "reclaim_feature", "reclaim_in_area", "reclaim_unit", "repair",
    "restore_area", "resurrect", "resurrect_in_area", "set_auto_repair_level", "set_base",
    "set_fire_state", "set_idle_mode", "set_move_state", "set_on_off", "set_repeat",
    "set_trajectory", "set_wanted_max_speed", "squad_wait", "stockpile", "stop", "timed_wait",
    "unload_unit", "unload_units_area", "wait"]
  let registered := channelC.map (·, .channelCLua) ++ channelB.map (·, .channelBQuery) ++
    (cheats ++ teamGlobal ++ verified).map (·, .channelACommand)
  -- An arm that has a case keeps it.
  registered ++ (unverified.filter fun arm ↦ !(registered.map Prod.fst).contains arm).map
    (·, .channelACommand)

/-- The `supported_command_ids` of `default_live_fixture_profile`. -/
def supportedCommandIds : List String :=
  sorted ((registryArms.filter fun arm ↦ arm.2 = .channelACommand).map (commandId ·.1))

/-- `planned_command_ids_for_fixture_class`. Without any supported command the table is used. -/
def plannedCommandIdsForFixtureClass (fixtureClass : String) (supported : List String) :
    List String :=
  let commandIds :=
    if supported.isEmpty then defaultLiveFixtureClassByCommand.map Prod.fst else supported
  sorted (commandIds.filter fun commandId ↦
    (fixtureClassesForCommand commandId).contains fixtureClass)

/-! ### The states -/

/-- `FixtureTransitionState`. -/
inductive FixtureTransitionState where
  | planned
  | preexisting
  | provisioned
  | refreshed
  | replaced
  | invalidated
  | missing
  | unusable
  | unknown
  | modeQualifiedNonLive
deriving Repr, DecidableEq

/-- `FixtureStateTransition`. -/
structure FixtureStateTransition where
  fixtureClass : String
  state : FixtureTransitionState
  observedSource : String
  detail : String
  affectedCommands : List String
  recordedAt : String
deriving Repr, DecidableEq

/-- `FixtureClassState`. -/
inductive FixtureClassState where
  | planned
  | provisioned
  | refreshed
  | missing
  | unusable
deriving Repr, DecidableEq

/-- The fixture is not there: `status in {"missing", "unusable"}`. -/
def FixtureClassState.isUnavailable (status : FixtureClassState) : Bool :=
  status = .missing || status = .unusable

/-- The fixture is there: `status in {"provisioned", "refreshed"}`. -/
def FixtureClassState.isAvailable (status : FixtureClassState) : Bool :=
  status = .provisioned || status = .refreshed

/-- `FixtureClassStatus`. -/
structure FixtureClassStatus where
  fixtureClass : String
  status : FixtureClassState
  plannedCommandIds : List String
  readyInstanceIds : List String
  lastTransitionReason : String
  affectedCommandIds : List String
  updatedAt : String
deriving Repr, DecidableEq

/-- What `build_fixture_class_statuses` is told of the classes. -/
structure ClassReport where
  provisioned : List String := []
  missing : List String := []
  refreshed : List String := []
  unusable : List String := []
deriving Repr, DecidableEq

/-- The state of a class, and the reason for it where none is recorded. -/
def ClassReport.statusOf (report : ClassReport) (fixtureClass : String) :
    FixtureClassState × String :=
  if report.unusable.contains fixtureClass then
    (.unusable, "fixture became unusable before dependent commands ran")
  else if report.refreshed.contains fixtureClass then
    (.refreshed, "fixture was refreshed or replaced after going stale")
  else if report.provisioned.contains fixtureClass then
    (.provisioned, "fixture was provisioned and remained usable")
  else if report.missing.contains fixtureClass then
    (.missing, "fixture could not be provisioned for this run")
  else
    (.planned, "fixture is planned but was not exercised in this run")

/-- `build_fixture_class_statuses`. A class that is not there affects all the commands it is
planned for. -/
def buildFixtureClassStatuses (updatedAt : String) (report : ClassReport)
    (readyInstanceIdsByClass : String → Option (List String))
    (transitionReasonByClass : String → Option String) (supported : List String) :
    List FixtureClassStatus :=
  allLiveFixtureClasses.map fun fixtureClass ↦
    let planned := plannedCommandIdsForFixtureClass fixtureClass supported
    let (status, defaultReason) := report.statusOf fixtureClass
    { fixtureClass := fixtureClass
      status := status
      plannedCommandIds := planned
      readyInstanceIds := (readyInstanceIdsByClass fixtureClass).getD []
      lastTransitionReason := (transitionReasonByClass fixtureClass).getD defaultReason
      affectedCommandIds := if status.isUnavailable then planned else []
      updatedAt := updatedAt }

/-! ### The instances behind the classes -/

/-- `SharedFixtureBackingKind`. -/
inductive SharedFixtureBackingKind where
  | unit
  | feature
  | area
  | targetHandle
deriving Repr, DecidableEq

/-- `SharedFixtureUsabilityState`. -/
inductive SharedFixtureUsabilityState where
  | ready
  | consumed
  | destroyed
  | outOfRange
  | stale
  | refreshFailed
deriving Repr, DecidableEq

/-- `SharedFixtureInstance`. -/
structure SharedFixtureInstance where
  instanceId : String
  fixtureClass : String
  backingKind : SharedFixtureBackingKind
  backingId : String
  usabilityState : SharedFixtureUsabilityState
  refreshCount : ℕ
  lastReadyAt : Option String
  replacementOf : Option String
deriving Repr, DecidableEq

/-- `_SHARED_FIXTURE_BACKING_KIND_BY_CLASS`. -/
def sharedFixtureBackingKindByClass : List (String × SharedFixtureBackingKind) :=
  [("builder", .unit), ("capturable_target", .targetHandle), ("cloakable", .unit),
    ("commander", .unit), ("custom_target", .targetHandle), ("damaged_friendly", .unit),
    ("hostile_target", .unit), ("movement_lane", .area), ("payload_unit", .unit),
    ("reclaim_target", .feature), ("resource_baseline", .area), ("restore_target", .targetHandle),
    ("transport_unit", .unit), ("wreck_target", .feature)]

/-- `build_shared_fixture_instance`, for the instance of a class with a number. -/
def buildSharedFixtureInstance (fixtureClass number : String)
    (usabilityState : SharedFixtureUsabilityState) (refreshCount : ℕ)
    (lastReadyAt replacementOf : Option String) : SharedFixtureInstance where
  instanceId := fixtureClass ++ "-instance-" ++ number
  fixtureClass := fixtureClass
  backingKind := (sharedFixtureBackingKindByClass.lookup fixtureClass).getD .targetHandle
  backingId := fixtureClass ++ "-backing-" ++ number
  usabilityState := usabilityState
  refreshCount := refreshCount
  lastReadyAt := lastReadyAt
  replacementOf := replacementOf

/-- The instances of one class in `_shared_fixture_instances_for_run`. -/
def sharedFixtureInstancesForClass (completedAt : String) (status : FixtureClassStatus) :
    List SharedFixtureInstance :=
  match status.status with
  | .provisioned =>
    [buildSharedFixtureInstance status.fixtureClass "01" .ready 0 (some completedAt) none]
  | .refreshed =>
    [buildSharedFixtureInstance status.fixtureClass "00" .stale 0 none none,
      buildSharedFixtureInstance status.fixtureClass "01" .ready 1 (some completedAt)
        (some (status.fixtureClass ++ "-instance-00"))]
  | .unusable => [buildSharedFixtureInstance status.fixtureClass "00" .refreshFailed 0 none none]
  | .planned | .missing => []

/-- `_shared_fixture_instances_for_run`: the instances, and those of each class that are ready. -/
def sharedFixtureInstancesForRun (classStatuses : List FixtureClassStatus) (completedAt : String) :
    List SharedFixtureInstance × (String → Option (List String)) :=
  let instances := classStatuses.flatMap (sharedFixtureInstancesForClass completedAt)
  if instances.isEmpty then ([], fun _ ↦ none)
  else
    (instances, fun fixtureClass ↦
      if (classStatuses.map (·.fixtureClass)).contains fixtureClass then
        some ((instances.filter fun item ↦
          item.fixtureClass = fixtureClass && item.usabilityState = .ready).map (·.instanceId))
      else none)

/-! ### The summary of a history -/

/-- The loop of `fixture_provisioning_for_transitions` puts a class on one of the four lists, by the
state of its latest transition. -/
def ClassReport.add (latestByClass : String → Option FixtureStateTransition) (report : ClassReport)
    (fixtureClass : String) : ClassReport :=
  let toProvisioned := { report with provisioned := report.provisioned ++ [fixtureClass] }
  let toMissing := { report with missing := report.missing ++ [fixtureClass] }
  match ((latestByClass fixtureClass).map (·.state)).getD .missing with
  | .preexisting | .provisioned => toProvisioned
  | .refreshed | .replaced => { report with refreshed := report.refreshed ++ [fixtureClass] }
  | .unusable | .invalidated => { report with unusable := report.unusable ++ [fixtureClass] }
  | .modeQualifiedNonLive =>
    if defaultLiveFixtureClasses.contains fixtureClass then toProvisioned else toMissing
  | .planned | .missing | .unknown => toMissing

/-- `FixtureProvisioningResult`. -/
structure FixtureProvisioningResult where
  runId : String
  profileId : String
  provisionedFixtureClasses : List String
  missingFixtureClasses : List String
  affectedCommandIds : List String
  completedAt : String
  classStatuses : List FixtureClassStatus
  sharedFixtureInstances : List SharedFixtureInstance

/-- `fixture_provisioning_for_transitions`. The states are built twice: the instances follow from
them, and the ready ones among the instances are entered the second time. -/
def fixtureProvisioningForTransitions (runId : String)
    (fixtureTransitions : List FixtureStateTransition) (completedAt : String) :
    FixtureProvisioningResult :=
  let latestByClass := index (·.fixtureClass) fixtureTransitions
  let reasons := fun fixtureClass ↦ (latestByClass fixtureClass).map (·.detail)
  let report := (sorted allLiveFixtureClasses).foldl (ClassReport.add latestByClass) {}
  let shared := sharedFixtureInstancesForRun
    (buildFixtureClassStatuses completedAt report (fun _ ↦ none) reasons supportedCommandIds)
    completedAt
  let classStatuses :=
    buildFixtureClassStatuses completedAt report shared.2 reasons supportedCommandIds
  { runId := runId
    profileId := "default-live-fixture-profile"
    provisionedFixtureClasses :=
      (classStatuses.filter (·.status.isAvailable)).map (·.fixtureClass)
    missingFixtureClasses :=
      (classStatuses.filter (·.status.isUnavailable)).map (·.fixtureClass)
    affectedCommandIds := sorted (classStatuses.flatMap (·.affectedCommandIds)).dedup
    completedAt := completedAt
    classStatuses := classStatuses
    sharedFixtureInstances := shared.1 }

/-! ### What a command lacks -/

/-- The classes a unit may come from that is only there to be destroyed. -/
def disposableFixtureClasses : List String :=
  ["builder", "cloakable", "payload_unit", "damaged_friendly"]

/-- `status_by_class.get`. -/
def statusByClass (classStatuses : List FixtureClassStatus) (fixtureClass : String) :
    Option FixtureClassState :=
  (index (·.fixtureClass) classStatuses fixtureClass).map (·.status)

/-- `unavailable_fixture_classes_for_command`. Without states the classes that were provisioned
decide. -/
def unavailableFixtureClassesForCommand (commandId : String)
    (classStatuses : List FixtureClassStatus) (provisionedFixtureClasses : List String) :
    List String :=
  let unavailable := fun fixtureClass ↦
    (statusByClass classStatuses fixtureClass).any (·.isUnavailable)
  if commandId = "cmd-self-destruct" then
    if !classStatuses.isEmpty then
      if disposableFixtureClasses.any fun fixtureClass ↦
          statusByClass classStatuses fixtureClass = some .provisioned then []
      else ["builder", "cloakable"].filter unavailable
    else if disposableFixtureClasses.any provisionedFixtureClasses.contains then []
    else ["builder", "cloakable"]
  else if !classStatuses.isEmpty then
    (fixtureClassesForCommand commandId).filter unavailable
  else
    (fixtureClassesForCommand commandId).filter fun fixtureClass ↦
      !provisionedFixtureClasses.contains fixtureClass

end HighBar.Client
