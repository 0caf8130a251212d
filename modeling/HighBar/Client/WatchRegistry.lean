import HighBar.Library.KeyedTable
import HighBar.Library.StepMachine

/-!
# The index of watched runs

A campaign that is watched keeps an entry for each of its runs in a file of the reports directory,
`active-watch-sessions.json`, and `attach_watch_to_active_run` selects a run from it to which a
viewer can be attached. Every change of the file is an `upsert_watch_session`: load the index,
replace the entry of one run, write the whole index back.

Nothing locks the file. The machine below has a **load** and a **write** as separate steps, and the
steps of the campaign and of any number of attaching processes in any order. An attaching process
first resolves its target from the index, later looks into the manifest of that run for a client
that it can use, and then upserts the entry of the run itself.

The state also records two things for the statements about runs: every entry that was written
(`written`), and the runs that the campaign has upserted as completed (`completed`).
-/

namespace HighBar.Client.Watch

/-! ### Sessions and entries -/

/-- `ViewerAvailabilityState`. -/
inductive ViewerAvailabilityState where
  | pending
  | available
  | attached
  | unavailable
  | expired
  | disconnected
deriving Repr, DecidableEq

/-- `availability_state in {"available", "attached"}`. -/
def ViewerAvailabilityState.isUsable (state : ViewerAvailabilityState) : Bool :=
  state = .available || state = .attached

/-- `WatchRunLifecycleState`. -/
inductive WatchRunLifecycleState where
  | preflight
  | launching
  | active
  | completed
  | failed
  | expired
deriving Repr, DecidableEq

/-- `ActiveWatchState`, as far as entries have it. -/
inductive ActiveWatchState where
  | active
  | unavailable
  | expired
  | completed
deriving Repr, DecidableEq

/-- The text of a state in the index. -/
def ActiveWatchState.text : ActiveWatchState → String
  | .active => "active"
  | .unavailable => "unavailable"
  | .expired => "expired"
  | .completed => "completed"

/-- The fields of `ViewerAccessRecord` that the index depends on. -/
structure ViewerAccessRecord where
  availabilityState : ViewerAvailabilityState
  reason : String
  lastTransitionAt : String := ""
deriving Repr, DecidableEq

/-- The fields of `WatchedRunSession` that the index depends on. -/
structure WatchedRunSession where
  runId : String
  campaignId : Option String
  runLifecycleState : WatchRunLifecycleState
  /-- The reason of the `preflight_result`. -/
  preflightReason : Option String := none
  viewerAccess : Option ViewerAccessRecord := none
  reportPath : String := ""
deriving Repr, DecidableEq

/-- The viewer of the session can be used. -/
def WatchedRunSession.hasUsableViewer (session : WatchedRunSession) : Bool :=
  session.viewerAccess.any (·.availabilityState.isUsable)

/-- `ActiveWatchIndexEntry`. -/
structure ActiveWatchIndexEntry where
  runId : String
  campaignId : Option String
  watchState : ActiveWatchState
  compatibleForAttach : Bool
  selectionSummary : String
  updatedAt : String
  reportPath : String := ""
  manifestPath : String := ""
deriving Repr, DecidableEq

/-- `ActiveWatchIndex`. -/
structure ActiveWatchIndex where
  generatedAt : String
  entries : List ActiveWatchIndexEntry
  sourceReportsDir : String
deriving Repr, DecidableEq

/-- The state of an entry, and whether a viewer may be attached to its run. -/
def WatchedRunSession.watchState (session : WatchedRunSession) : ActiveWatchState × Bool :=
  if session.runLifecycleState = .completed then (.completed, false)
  else if session.runLifecycleState = .expired ||
      session.viewerAccess.any (·.availabilityState = .expired) then (.expired, false)
  else if session.hasUsableViewer then (.active, true)
  else (.unavailable, false)

/-- `session_to_index_entry`. -/
def sessionToIndexEntry (session : WatchedRunSession) (updatedAt manifestPath : String) :
    ActiveWatchIndexEntry :=
  let reason := match session.viewerAccess with
    | some viewer => viewer.reason
    | none => session.preflightReason.getD "watch state unavailable"
  -- `campaign_id or 'none'`: an empty text counts as none.
  let campaign := if session.campaignId.getD "" = "" then "none" else session.campaignId.getD ""
  { runId := session.runId
    campaignId := session.campaignId
    watchState := session.watchState.1
    compatibleForAttach := session.watchState.2
    selectionSummary := "run=" ++ session.runId ++ " campaign=" ++ campaign ++ " state=" ++
      session.watchState.1.text ++ " reason=" ++ reason
    updatedAt := updatedAt
    reportPath := session.reportPath
    manifestPath := manifestPath }

/-! ### The index -/

/-- `load_active_watch_index`. -/
def loadActiveWatchIndex (reportsDir : String) (file : Option ActiveWatchIndex) :
    ActiveWatchIndex :=
  file.getD ⟨"", [], reportsDir⟩

/-- The index that `upsert_watch_session` writes, made from the one it has loaded. -/
def upsertedIndex (reportsDir : String) (current : ActiveWatchIndex)
    (entry : ActiveWatchIndexEntry) : ActiveWatchIndex where
  generatedAt := entry.updatedAt
  entries := KeyedTable.upsert (·.runId) current.entries entry
  sourceReportsDir :=
    if current.sourceReportsDir.isEmpty then reportsDir else current.sourceReportsDir

/-- `selection_mode`. -/
inductive SelectionMode where
  | explicit
  | singleActiveAuto
  | ambiguous
deriving Repr, DecidableEq

/-- `WatchSelectionResult`. -/
structure WatchSelectionResult where
  runId : Option String
  selectionMode : SelectionMode
  reason : String
  entry : Option ActiveWatchIndexEntry
  compatibleEntries : List ActiveWatchIndexEntry
deriving Repr, DecidableEq

/-- `resolve_attach_later_target`. An empty `run_id` counts as none. -/
def resolveAttachLaterTarget (index : ActiveWatchIndex) (runId : Option String) :
    WatchSelectionResult :=
  let compatible := index.entries.filter (·.compatibleForAttach)
  if runId.getD "" ≠ "" then
    let name := runId.getD ""
    match index.entries.find? (·.runId = name) with
    | some entry =>
      if entry.compatibleForAttach then
        ⟨some entry.runId, .explicit, "resolved explicit watch run '" ++ entry.runId ++ "'",
          some entry, compatible⟩
      else
        ⟨none, .explicit,
          "run '" ++ name ++ "' is not attachable: " ++ entry.selectionSummary, some entry,
          compatible⟩
    | none =>
      ⟨none, .explicit, "run '" ++ name ++ "' is not present in active-watch-sessions.json", none,
        compatible⟩
  else
    match compatible with
    | [entry] =>
      ⟨some entry.runId, .singleActiveAuto,
        "auto-selected the only compatible active run '" ++ entry.runId ++ "'", some entry,
        compatible⟩
    | [] => ⟨none, .singleActiveAuto, "no compatible active watched runs found", none, compatible⟩
    | _ =>
      ⟨none, .ambiguous, "attach-later is ambiguous; specify --watch-run <run-id>. " ++
        "Compatible runs: " ++ ", ".intercalate (compatible.map (·.runId)), none, compatible⟩

/-! ### The processes -/

/-- An upsert that has not finished: the session, the other arguments, and the index once it is
loaded. -/
structure PendingUpsert where
  session : WatchedRunSession
  updatedAt : String
  manifestPath : String
  loaded : Option ActiveWatchIndex := none
deriving Repr, DecidableEq

/-- The entry the upsert is for. -/
def PendingUpsert.entry (upsert : PendingUpsert) : ActiveWatchIndexEntry :=
  sessionToIndexEntry upsert.session upsert.updatedAt upsert.manifestPath

/-- Where the campaign is in the loop of `run_campaign`. -/
inductive CampaignPhase where
  /-- Between two runs. -/
  | between
  /-- The viewer was launched, and the session is upserted before the run. -/
  | announcing (upsert : PendingUpsert)
  /-- In the run. -/
  | running (session : WatchedRunSession)
  /-- The bundle of the run is written, and the session is upserted with its final state. -/
  | closing (upsert : PendingUpsert)
deriving Repr, DecidableEq

/-- Where an attaching process is. -/
inductive AttachPhase where
  | idle
  /-- The target was resolved and the preflight passed. -/
  | resolved (entry : ActiveWatchIndexEntry)
  /-- The manifest was read. -/
  | upserting (upsert : PendingUpsert)
deriving Repr, DecidableEq

/-- The reports directory and the processes over it. -/
structure WatchState where
  /-- `active-watch-sessions.json`. -/
  file : Option ActiveWatchIndex
  /-- The viewer in the watch session of the manifest at a path, or why it cannot be loaded. -/
  manifests : String → Except String (Option ViewerAccessRecord)
  /-- The runs whose directory exists. -/
  runDirs : List String
  campaign : CampaignPhase
  attach : ℕ → AttachPhase
  /-- The entries that finished upserts have written, in order. -/
  written : List ActiveWatchIndexEntry
  /-- The runs that the campaign has upserted as completed. -/
  completed : List String

/-- `manifest_path_for_run`. -/
def manifestPathForRun (reportsDir runId : String) : String :=
  reportsDir ++ "/" ++ runId ++ "/manifest.json"

/-- `report_path_for_run`. -/
def reportPathForRun (reportsDir runId : String) : String :=
  reportsDir ++ "/" ++ runId ++ "/run-report.md"

/-- The session of a run at its start. Without a viewer the preflight was blocking. -/
def launchSession (reportsDir campaignId runId preflightReason : String)
    (viewer : Option ViewerAccessRecord) : WatchedRunSession where
  runId := runId
  campaignId := some campaignId
  runLifecycleState := match viewer with
    | none => .preflight
    | some record => if record.availabilityState = .available then .active else .failed
  preflightReason := some preflightReason
  viewerAccess := viewer
  reportPath := reportPathForRun reportsDir runId

/-- A session whose viewer was launched is upserted before the run. -/
def launchPhase (reportsDir : String) (session : WatchedRunSession)
    (viewer : Option ViewerAccessRecord) : CampaignPhase :=
  match viewer.filter (·.availabilityState = .available) with
  | some record =>
    .announcing
      ⟨session, record.lastTransitionAt, manifestPathForRun reportsDir session.runId, none⟩
  | none => .running session

/-- The final session of a run. -/
def finalSession (reportsDir : String) (session : WatchedRunSession) : WatchedRunSession :=
  { session with
    runLifecycleState := if session.hasUsableViewer then .completed else .failed
    reportPath := reportPathForRun reportsDir session.runId }

/-- The preflight of an attaching process blocks a selection without a run, and the process
ends. -/
def attachTarget (selection : WatchSelectionResult) (ready : Bool) : AttachPhase :=
  match selection.runId, selection.entry with
  | some _, some entry => if ready then .resolved entry else .idle
  | _, _ => .idle

/-- `_attach_existing_graphical_client`: the client of the run can be used again if its manifest has
a viewer that can. -/
def attachExistingGraphicalClient (manifests : String → Except String (Option ViewerAccessRecord))
    (manifestPath checkedAt : String) : ViewerAccessRecord :=
  if manifestPath.isEmpty then
    ⟨.unavailable, "active watched run has no manifest path for graphical client reuse", checkedAt⟩
  else
    match manifests manifestPath with
    | .error exc =>
      ⟨.unavailable, "failed to load watched run manifest for attach-later: " ++ exc, checkedAt⟩
    | .ok existing =>
      if existing.any (·.availabilityState.isUsable) then
        ⟨.attached, "reused the existing graphical BAR client for the active watched run",
          checkedAt⟩
      else
        ⟨.unavailable, "active watched run does not have a reusable graphical BAR client",
          checkedAt⟩

/-- The session that an attaching process upserts. -/
def attachSession (entry : ActiveWatchIndexEntry) (viewer : ViewerAccessRecord) :
    WatchedRunSession where
  runId := entry.runId
  campaignId := entry.campaignId
  runLifecycleState := if viewer.availabilityState = .attached then .active else .failed
  viewerAccess := some viewer
  reportPath := entry.reportPath

/-- The steps. What the environment decides is part of the label: the name of a run and the viewer
launched for it, the times, and whether the preflight of an attaching process passes. -/
inductive Label where
  | start (runId preflightReason : String) (viewer : Option ViewerAccessRecord)
  | finish (completedAt : String)
  | campaignLoad
  | campaignWrite
  | resolve (process : ℕ) (watchRun : Option String) (ready : Bool)
  | view (process : ℕ) (checkedAt : String)
  | attachLoad (process : ℕ)
  | attachWrite (process : ℕ)
deriving Repr, DecidableEq

/-- The write of an upsert. -/
def WatchState.write (reportsDir : String) (s : WatchState) (upsert : PendingUpsert)
    (loaded : ActiveWatchIndex) : WatchState :=
  { s with
    file := some (upsertedIndex reportsDir loaded upsert.entry)
    written := s.written ++ [upsert.entry] }

/-- The step function. -/
def step (reportsDir campaignId : String) (s : WatchState) : Label → Option WatchState
  | .start runId preflightReason viewer =>
    -- `make_run_id` looks for a name without a directory.
    if s.campaign = .between ∧ runId ∉ s.runDirs then
      let session := launchSession reportsDir campaignId runId preflightReason viewer
      some { s with campaign := launchPhase reportsDir session viewer }
    else none
  | .finish completedAt =>
    match s.campaign with
    | .running session =>
      let final := finalSession reportsDir session
      let path := manifestPathForRun reportsDir session.runId
      -- `write_run_bundle` comes before the upsert.
      some { s with
        manifests := Function.update s.manifests path (.ok session.viewerAccess)
        runDirs := session.runId :: s.runDirs
        campaign := .closing ⟨final, completedAt, path, none⟩ }
    | _ => none
  | .campaignLoad =>
    let index := loadActiveWatchIndex reportsDir s.file
    match s.campaign with
    | .announcing ⟨session, updatedAt, path, none⟩ =>
      some { s with campaign := .announcing ⟨session, updatedAt, path, some index⟩ }
    | .closing ⟨session, updatedAt, path, none⟩ =>
      some { s with campaign := .closing ⟨session, updatedAt, path, some index⟩ }
    | _ => none
  | .campaignWrite =>
    match s.campaign with
    | .announcing ⟨session, updatedAt, path, some index⟩ =>
      some { s.write reportsDir ⟨session, updatedAt, path, some index⟩ index with
        campaign := .running session }
    | .closing ⟨session, updatedAt, path, some index⟩ =>
      some { s.write reportsDir ⟨session, updatedAt, path, some index⟩ index with
        campaign := .between
        completed := if session.runLifecycleState = .completed then session.runId :: s.completed
          else s.completed }
    | _ => none
  | .resolve process watchRun ready =>
    if s.attach process = .idle then
      let target := attachTarget
        (resolveAttachLaterTarget (loadActiveWatchIndex reportsDir s.file) watchRun) ready
      some { s with attach := Function.update s.attach process target }
    else none
  | .view process checkedAt =>
    match s.attach process with
    | .resolved entry =>
      let viewer := attachExistingGraphicalClient s.manifests entry.manifestPath checkedAt
      some { s with
        attach := Function.update s.attach process (.upserting
          ⟨attachSession entry viewer, viewer.lastTransitionAt, entry.manifestPath, none⟩) }
    | _ => none
  | .attachLoad process =>
    match s.attach process with
    | .upserting ⟨session, updatedAt, path, none⟩ =>
      some { s with
        attach := Function.update s.attach process (.upserting
          ⟨session, updatedAt, path, some (loadActiveWatchIndex reportsDir s.file)⟩) }
    | _ => none
  | .attachWrite process =>
    match s.attach process with
    | .upserting ⟨session, updatedAt, path, some index⟩ =>
      some { s.write reportsDir ⟨session, updatedAt, path, some index⟩ index with
        attach := Function.update s.attach process .idle }
    | _ => none

/-- The machine over a reports directory, with the index, the manifests and the directories that
earlier campaigns have left there. -/
def machine (reportsDir campaignId : String) (file : Option ActiveWatchIndex)
    (manifests : String → Except String (Option ViewerAccessRecord)) (runDirs : List String) :
    StepMachine WatchState Label where
  init := ⟨file, manifests, runDirs, .between, fun _ ↦ .idle, [], []⟩
  step := step reportsDir campaignId

end HighBar.Client.Watch
