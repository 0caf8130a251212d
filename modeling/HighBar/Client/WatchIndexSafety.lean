import HighBar.Client.WatchRegistry
import HighBar.Library.KeyedLog

/-!
# What becomes of the entries of the index

Every write puts a whole index in the place of the file: the one that the process has loaded, with
the entry of its run replaced. So the entries of **one run** are never more than one, whatever the
order of the steps. The entries of **other runs** are those of the moment of the load, and what was
written between the load and the write is lost.

A run of the machine is **undisturbed** if at every write the entries of the other runs are still
those that were loaded, and no process that found a client to attach to writes the entry of a run
after the campaign has completed it. Then every write is an upsert of the file itself
(`entries_write`), and with that an entry stays until an upsert for its run, and a completed run
stays closed.
-/

namespace HighBar.Client.Watch

open KeyedTable KeyedLog List Option

variable {reportsDir campaignId : String} {s t : WatchState} {label : Label}
  {upsert : PendingUpsert} {index : ActiveWatchIndex}

/-- The entries of the file. -/
def WatchState.entries (s : WatchState) : List ActiveWatchIndexEntry :=
  (s.file.map (·.entries)).getD []

/-- A load returns the entries of the file. -/
theorem entries_loadActiveWatchIndex (s : WatchState) :
    (loadActiveWatchIndex reportsDir s.file).entries = s.entries := by
  rw [loadActiveWatchIndex, WatchState.entries]
  rcases s.file with - | index <;> rfl

/-! ### What a step does -/

/-- The upserts that have not finished. -/
def WatchState.Pends (s : WatchState) (upsert : PendingUpsert) : Prop :=
  s.campaign = .announcing upsert ∨ s.campaign = .closing upsert ∨
    ∃ process, s.attach process = .upserting upsert

/-- The cases of a step. -/
inductive Stepped (reportsDir campaignId : String) (s : WatchState) : Label → WatchState → Prop
  | start {runId preflightReason : String} {viewer : Option ViewerAccessRecord}
      (hdir : runId ∉ s.runDirs) :
      Stepped reportsDir campaignId s (.start runId preflightReason viewer)
        { s with
          campaign := launchPhase reportsDir
            (launchSession reportsDir campaignId runId preflightReason viewer) viewer }
  | finish {completedAt : String} {session : WatchedRunSession}
      (hphase : s.campaign = .running session) :
      Stepped reportsDir campaignId s (.finish completedAt)
        { s with
          manifests := Function.update s.manifests (manifestPathForRun reportsDir session.runId)
            (.ok session.viewerAccess)
          runDirs := session.runId :: s.runDirs
          campaign := .closing ⟨finalSession reportsDir session, completedAt,
            manifestPathForRun reportsDir session.runId, none⟩ }
  | announcingLoad {upsert : PendingUpsert} (hphase : s.campaign = .announcing upsert) :
      Stepped reportsDir campaignId s .campaignLoad
        { s with
          campaign := .announcing
            { upsert with loaded := some (loadActiveWatchIndex reportsDir s.file) } }
  | closingLoad {upsert : PendingUpsert} (hphase : s.campaign = .closing upsert) :
      Stepped reportsDir campaignId s .campaignLoad
        { s with
          campaign := .closing
            { upsert with loaded := some (loadActiveWatchIndex reportsDir s.file) } }
  | announcingWrite {upsert : PendingUpsert} {index : ActiveWatchIndex}
      (hphase : s.campaign = .announcing upsert) (hloaded : upsert.loaded = some index) :
      Stepped reportsDir campaignId s .campaignWrite
        { s.write reportsDir upsert index with campaign := .running upsert.session }
  | closingWrite {upsert : PendingUpsert} {index : ActiveWatchIndex}
      (hphase : s.campaign = .closing upsert) (hloaded : upsert.loaded = some index) :
      Stepped reportsDir campaignId s .campaignWrite
        { s.write reportsDir upsert index with
          campaign := .between
          completed :=
            if upsert.session.runLifecycleState = .completed then
              upsert.session.runId :: s.completed
            else s.completed }
  | resolve {process : ℕ} {watchRun : Option String} {ready : Bool} {phase : AttachPhase}
      (hphase : ∀ upsert, phase ≠ .upserting upsert) :
      Stepped reportsDir campaignId s (.resolve process watchRun ready)
        { s with attach := Function.update s.attach process phase }
  | view {process : ℕ} {checkedAt : String} {upsert : PendingUpsert}
      (hloaded : upsert.loaded = none) :
      Stepped reportsDir campaignId s (.view process checkedAt)
        { s with attach := Function.update s.attach process (.upserting upsert) }
  | attachLoad {process : ℕ} {upsert : PendingUpsert}
      (hphase : s.attach process = .upserting upsert) :
      Stepped reportsDir campaignId s (.attachLoad process)
        { s with
          attach := Function.update s.attach process (.upserting
            { upsert with loaded := some (loadActiveWatchIndex reportsDir s.file) }) }
  | attachWrite {process : ℕ} {upsert : PendingUpsert} {index : ActiveWatchIndex}
      (hphase : s.attach process = .upserting upsert) (hloaded : upsert.loaded = some index) :
      Stepped reportsDir campaignId s (.attachWrite process)
        { s.write reportsDir upsert index with
          attach := Function.update s.attach process .idle }

theorem attachTarget_ne_upserting (selection : WatchSelectionResult) (ready : Bool)
    (upsert : PendingUpsert) : attachTarget selection ready ≠ .upserting upsert := by
  rw [attachTarget]
  split
  · split_ifs <;> exact AttachPhase.noConfusion
  · exact AttachPhase.noConfusion

/-- **Every step is one of the cases.** -/
theorem stepped_of_step (h : step reportsDir campaignId s label = some t) :
    Stepped reportsDir campaignId s label t := by
  cases label with
  | start runId preflightReason viewer =>
    rw [step] at h
    split_ifs at h with hguard
    cases h
    exact .start hguard.2
  | finish completedAt =>
    rw [step] at h
    split at h
    · next session hphase =>
      cases h
      exact .finish hphase
    · cases h
  | campaignLoad =>
    rw [step] at h
    split at h
    · next hphase =>
      cases h
      exact .announcingLoad hphase
    · next hphase =>
      cases h
      exact .closingLoad hphase
    · cases h
  | campaignWrite =>
    rw [step] at h
    split at h
    · next hphase =>
      cases h
      exact .announcingWrite hphase rfl
    · next hphase =>
      cases h
      exact .closingWrite hphase rfl
    · cases h
  | resolve process watchRun ready =>
    rw [step] at h
    split_ifs at h with hidle
    cases h
    exact .resolve (attachTarget_ne_upserting _ _)
  | view process checkedAt =>
    rw [step] at h
    split at h
    · cases h
      exact .view rfl
    · cases h
  | attachLoad process =>
    rw [step] at h
    split at h
    · next hphase =>
      cases h
      exact .attachLoad hphase
    · cases h
  | attachWrite process =>
    rw [step] at h
    split at h
    · next hphase =>
      cases h
      exact .attachWrite hphase rfl
    · cases h

/-! ### One entry for a run -/

/-- The entries of the file and of every index that was loaded have different runs. -/
structure Distinct (s : WatchState) : Prop where
  file : (s.entries.map (·.runId)).Nodup
  loaded : ∀ upsert, s.Pends upsert → ∀ index ∈ upsert.loaded, (index.entries.map (·.runId)).Nodup

/-- A write replaces the entry of its run and keeps the others it has loaded. -/
theorem entries_write_of_stale (s : WatchState) (upsert : PendingUpsert)
    (index : ActiveWatchIndex) :
    (s.write reportsDir upsert index).entries =
      KeyedTable.upsert (·.runId) index.entries upsert.entry := rfl

/-- A finished write leaves distinct entries. -/
theorem Distinct.write (h : Distinct s) (hpends : s.Pends upsert)
    (hloaded : upsert.loaded = some index) :
    ((s.write reportsDir upsert index).entries.map (·.runId)).Nodup := by
  rw [entries_write_of_stale]
  exact nodup_upsert (h.loaded upsert hpends index hloaded) _

theorem loaded_of_launchPhase {session : WatchedRunSession} {viewer : Option ViewerAccessRecord}
    (h : launchPhase reportsDir session viewer = .announcing upsert) : upsert.loaded = none := by
  rw [launchPhase] at h
  split at h
  · exact CampaignPhase.announcing.inj h ▸ rfl
  · cases h

theorem launchPhase_ne_closing (session : WatchedRunSession) (viewer : Option ViewerAccessRecord) :
    launchPhase reportsDir session viewer ≠ .closing upsert := by
  rw [launchPhase]
  split <;> exact CampaignPhase.noConfusion

/-- What is pending after a step of an attaching process was so before, or is its own. -/
theorem pends_of_update {process : ℕ} {phase : AttachPhase} (h : t.Pends upsert)
    (hcampaign : t.campaign = s.campaign)
    (hattach : t.attach = Function.update s.attach process phase) :
    phase = .upserting upsert ∨ s.Pends upsert := by
  rw [WatchState.Pends, hcampaign, hattach] at h
  rcases h with h | h | ⟨other, h⟩
  · exact .inr (.inl h)
  · exact .inr (.inr (.inl h))
  · by_cases heq : other = process
    · rw [heq, Function.update_self] at h
      exact .inl h
    · rw [Function.update_of_ne heq] at h
      exact .inr (.inr (.inr ⟨other, h⟩))

/-- The upserts that a step leaves were there, or have loaded the file, or have loaded nothing. -/
theorem pends_of_stepped (hstep : Stepped reportsDir campaignId s label t)
    (hpends : t.Pends upsert) :
    s.Pends upsert ∨ upsert.loaded = some (loadActiveWatchIndex reportsDir s.file) ∨
      upsert.loaded = none := by
  cases hstep with
  | start =>
    rcases hpends with h | h | h
    · exact .inr (.inr (loaded_of_launchPhase h))
    · exact absurd h (launchPhase_ne_closing _ _)
    · exact .inl (.inr (.inr h))
  | finish =>
    rcases hpends with h | h | h
    · cases h
    · exact .inr (.inr (CampaignPhase.closing.inj h ▸ rfl))
    · exact .inl (.inr (.inr h))
  | announcingLoad =>
    rcases hpends with h | h | h
    · exact .inr (.inl (CampaignPhase.announcing.inj h ▸ rfl))
    · cases h
    · exact .inl (.inr (.inr h))
  | closingLoad =>
    rcases hpends with h | h | h
    · cases h
    · exact .inr (.inl (CampaignPhase.closing.inj h ▸ rfl))
    · exact .inl (.inr (.inr h))
  | announcingWrite | closingWrite =>
    rcases hpends with h | h | h
    · cases h
    · cases h
    · exact .inl (.inr (.inr h))
  | resolve hphase => exact .inl ((pends_of_update (s := s) hpends rfl rfl).resolve_left (hphase _))
  | view hloaded =>
    rcases pends_of_update (s := s) hpends rfl rfl with h | h
    · exact .inr (.inr (AttachPhase.upserting.inj h ▸ hloaded))
    · exact .inl h
  | attachLoad =>
    rcases pends_of_update (s := s) hpends rfl rfl with h | h
    · exact .inr (.inl (AttachPhase.upserting.inj h ▸ rfl))
    · exact .inl h
  | attachWrite =>
    exact .inl ((pends_of_update (s := s) hpends rfl rfl).resolve_left AttachPhase.noConfusion)

/-- **A step keeps the entries distinct.** -/
theorem Distinct.stepped (h : Distinct s) (hstep : Stepped reportsDir campaignId s label t) :
    Distinct t where
  file := by
    cases hstep with
    | announcingWrite hphase hloaded => exact h.write (.inl hphase) hloaded
    | closingWrite hphase hloaded => exact h.write (.inr (.inl hphase)) hloaded
    | attachWrite hphase hloaded => exact h.write (.inr (.inr ⟨_, hphase⟩)) hloaded
    | start | finish | announcingLoad | closingLoad | resolve | view | attachLoad => exact h.file
  loaded := by
    intro upsert hpends index hindex
    rcases pends_of_stepped hstep hpends with hold | hload | hnone
    · exact h.loaded upsert hold index hindex
    · rw [hload] at hindex
      cases hindex
      rw [entries_loadActiveWatchIndex]
      exact h.file
    · rw [hnone] at hindex
      exact absurd hindex (not_mem_none _)

/-! ### The runs of the campaign -/

/-- The run the campaign is at has no directory before its end, and is not completed before its
last upsert. -/
def CampaignPhase.Fresh (runDirs completed : List String) : CampaignPhase → Prop
  | .between => True
  | .announcing upsert => upsert.session.runId ∉ runDirs
  | .running session => session.runId ∉ runDirs
  | .closing upsert => upsert.session.runId ∈ runDirs ∧ upsert.session.runId ∉ completed

/-- The campaign is not at a run that it has completed. -/
structure Fresh (s : WatchState) : Prop where
  completed : ∀ runId ∈ s.completed, runId ∈ s.runDirs
  campaign : s.campaign.Fresh s.runDirs s.completed

/-- A step keeps what was loaded fresh. -/
theorem Fresh.stepped (h : Fresh s) (hstep : Stepped reportsDir campaignId s label t) :
    Fresh t := by
  cases hstep with
  | start hdir =>
    refine ⟨h.completed, ?_⟩
    rw [launchPhase]
    split <;> exact hdir
  | finish hphase =>
    have hdir := h.campaign
    rw [hphase] at hdir
    exact ⟨fun runId hmem ↦ mem_cons_of_mem _ (h.completed runId hmem), mem_cons_self,
      fun hmem ↦ hdir (h.completed _ hmem)⟩
  | announcingLoad hphase | closingLoad hphase | announcingWrite hphase =>
    have hdir := h.campaign
    rw [hphase] at hdir
    exact ⟨h.completed, hdir⟩
  | closingWrite hphase =>
    have hdir := h.campaign
    rw [hphase] at hdir
    refine ⟨fun runId hmem ↦ ?_, trivial⟩
    dsimp only at hmem
    split_ifs at hmem
    · rcases mem_cons.1 hmem with rfl | hmem
      · exact hdir.1
      · exact h.completed runId hmem
    · exact h.completed runId hmem
  | resolve | view | attachLoad | attachWrite => exact ⟨h.completed, h.campaign⟩

/-! ### Undisturbed runs -/

/-- The upsert that the campaign is at. -/
def CampaignPhase.pendingUpsert : CampaignPhase → Option PendingUpsert
  | .announcing upsert | .closing upsert => some upsert
  | .between | .running _ => none

/-- The upsert that an attaching process is at. -/
def AttachPhase.pendingUpsert : AttachPhase → Option PendingUpsert
  | .upserting upsert => some upsert
  | .idle | .resolved _ => none

/-- The entries of the other runs are those that were loaded. -/
def WatchState.Current (s : WatchState) (upsert : PendingUpsert) : Prop :=
  ∀ index ∈ upsert.loaded, others (·.runId) index.entries upsert.session.runId =
    others (·.runId) s.entries upsert.session.runId

/-- A write is undisturbed if the entries of other runs are still those that were loaded, and if it
does not bring a client to a run that the campaign has completed. -/
def Undisturbed (s : WatchState) : Label → Prop
  | .campaignWrite => ∀ upsert ∈ s.campaign.pendingUpsert, s.Current upsert
  | .attachWrite process => ∀ upsert ∈ (s.attach process).pendingUpsert, s.Current upsert ∧
      (upsert.session.hasUsableViewer = true → upsert.session.runId ∉ s.completed)
  | _ => True

/-- **An undisturbed write is an upsert of the file.** -/
theorem entries_write (hcurrent : s.Current upsert) (hloaded : upsert.loaded = some index) :
    (s.write reportsDir upsert index).entries =
      KeyedTable.upsert (·.runId) s.entries upsert.entry := by
  rw [entries_write_of_stale]
  exact upsert_congr (hcurrent index hloaded)

/-- An entry that allows to attach comes from a session with a client that is not completed. -/
theorem compatibleForAttach_entry (h : upsert.entry.compatibleForAttach = true) :
    upsert.session.hasUsableViewer = true ∧
      upsert.session.runLifecycleState ≠ .completed := by
  rw [PendingUpsert.entry, sessionToIndexEntry] at h
  dsimp only at h
  rw [WatchedRunSession.watchState] at h
  split_ifs at h with hcompleted hexpired husable
  exact ⟨husable, hcompleted⟩

/-- The laws of the index. -/
structure Safe (s : WatchState) : Prop where
  kept : ∀ runId entry, latest (·.runId) s.written runId = some entry → entry ∈ s.entries
  closed : ∀ runId ∈ s.completed, ∀ entry ∈ s.entries, entry.runId = runId →
    entry.compatibleForAttach = false

/-- What a write has to be for the laws: an upsert of the file, with an entry that does not allow to
attach if its run is completed. -/
theorem Safe.write (h : Safe s) (hcurrent : s.Current upsert)
    (hloaded : upsert.loaded = some index) {completed : List String}
    (hcompleted : ∀ runId ∈ completed, runId ≠ upsert.session.runId → runId ∈ s.completed)
    (hentry : upsert.session.runId ∈ completed → upsert.entry.compatibleForAttach = false) :
    (∀ runId entry, latest (·.runId) (s.written ++ [upsert.entry]) runId = some entry →
      entry ∈ (s.write reportsDir upsert index).entries) ∧
    ∀ runId ∈ completed, ∀ entry ∈ (s.write reportsDir upsert index).entries,
      entry.runId = runId → entry.compatibleForAttach = false := by
  rw [entries_write hcurrent hloaded]
  constructor
  · intro runId entry hlatest
    rw [latest_concat] at hlatest
    split_ifs at hlatest with hrun
    · exact mem_upsert.2 (.inl (Option.some.inj hlatest).symm)
    · refine mem_upsert.2 (.inr ⟨h.kept runId entry hlatest, fun heq ↦ hrun ?_⟩)
      rw [← heq, (mem_of_latest_eq_some hlatest).2]
  · intro runId hmem entry hentries hrun
    rcases mem_upsert.1 hentries with rfl | ⟨hold, hne⟩
    · have hsession : upsert.session.runId = runId := hrun
      exact hentry (hsession ▸ hmem)
    · exact h.closed runId (hcompleted runId hmem fun heq ↦ hne (hrun.trans heq)) entry hold hrun

/-- **An undisturbed step keeps the laws.** -/
theorem Safe.stepped (h : Safe s) (hfresh : Fresh s) (hguard : Undisturbed s label)
    (hstep : Stepped reportsDir campaignId s label t) : Safe t := by
  cases hstep with
  | @announcingWrite upsert index hphase hloaded =>
    have hdir := hfresh.campaign
    rw [hphase] at hdir
    obtain ⟨hkept, hclosed⟩ := h.write (hguard upsert (hphase ▸ rfl)) hloaded
      (fun runId hmem _ ↦ hmem) fun hmem ↦ absurd (hfresh.completed _ hmem) hdir
    exact ⟨hkept, hclosed⟩
  | @closingWrite upsert index hphase hloaded =>
    have hopen := hfresh.campaign
    rw [hphase] at hopen
    have hcompleted : ∀ runId ∈ (if upsert.session.runLifecycleState = .completed then
          upsert.session.runId :: s.completed else s.completed),
        runId ≠ upsert.session.runId → runId ∈ s.completed := by
      intro runId hmem hne
      split_ifs at hmem
      · exact (mem_cons.1 hmem).resolve_left hne
      · exact hmem
    have hentry : upsert.session.runId ∈ (if upsert.session.runLifecycleState = .completed then
          upsert.session.runId :: s.completed else s.completed) →
        upsert.entry.compatibleForAttach = false := by
      intro hmem
      split_ifs at hmem with hstate
      · exact Bool.eq_false_of_not_eq_true fun hcompatible ↦
          (compatibleForAttach_entry hcompatible).2 hstate
      · exact absurd hmem hopen.2
    obtain ⟨hkept, hclosed⟩ := h.write (hguard upsert (hphase ▸ rfl)) hloaded hcompleted hentry
    exact ⟨hkept, hclosed⟩
  | @attachWrite process upsert index hphase hloaded =>
    obtain ⟨hcurrent, hopen⟩ := hguard upsert (hphase ▸ rfl)
    obtain ⟨hkept, hclosed⟩ := h.write hcurrent hloaded (fun runId hmem _ ↦ hmem)
      fun hmem ↦ Bool.eq_false_of_not_eq_true fun hcompatible ↦
        hopen (compatibleForAttach_entry hcompatible).1 hmem
    exact ⟨hkept, hclosed⟩
  | start | finish | announcingLoad | closingLoad | resolve | view | attachLoad =>
    exact ⟨h.kept, h.closed⟩

/-- **The laws of the index.** Over a directory whose index has different runs, in every
interleaving of the campaign with any number of attaching processes, there is never more than one
entry for a run. If the run is undisturbed, the last entry written for a run is in the index, and a
run that the campaign has completed allows nobody to attach. -/
theorem watch_index_laws (reportsDir campaignId : String) (file : Option ActiveWatchIndex)
    (manifests : String → Except String (Option ViewerAccessRecord)) (runDirs : List String)
    (hfile : ∀ index ∈ file, (index.entries.map (·.runId)).Nodup) (labels : List Label)
    (s : WatchState)
    (hrun : (machine reportsDir campaignId file manifests runDirs).exec
      (machine reportsDir campaignId file manifests runDirs).init labels = some s) :
    (s.entries.map (·.runId)).Nodup ∧
      ((machine reportsDir campaignId file manifests runDirs).Meets Undisturbed
          (machine reportsDir campaignId file manifests runDirs).init labels →
        (∀ runId entry, latest (·.runId) s.written runId = some entry → entry ∈ s.entries) ∧
        ∀ runId ∈ s.completed, ∀ entry ∈ s.entries, entry.runId = runId →
          entry.compatibleForAttach = false) := by
  constructor
  · have hinit : Distinct (machine reportsDir campaignId file manifests runDirs).init := by
      refine ⟨?_, ?_⟩
      · rcases file with - | index
        · exact nodup_nil
        · exact hfile index rfl
      · rintro upsert (h | h | ⟨process, h⟩)
        · cases h
        · cases h
        · cases h
    exact (StepMachine.invariant_of_exec (fun s a t h hstep ↦ h.stepped (stepped_of_step hstep))
      hinit hrun).file
  · intro hmeets
    have hinit : Safe (machine reportsDir campaignId file manifests runDirs).init ∧
        Fresh (machine reportsDir campaignId file manifests runDirs).init :=
      ⟨⟨fun _ _ h ↦ absurd h.symm (some_ne_none _), fun _ h ↦ absurd h not_mem_nil⟩,
        fun _ h ↦ absurd h not_mem_nil, trivial⟩
    have hsafe := (StepMachine.invariant_of_meets
      (fun s a t (h : Safe s ∧ Fresh s) (hguard : Undisturbed s a) hstep ↦
        ⟨h.1.stepped h.2 hguard (stepped_of_step hstep), h.2.stepped (stepped_of_step hstep)⟩)
      hinit hmeets hrun).1
    exact ⟨hsafe.kept, hsafe.closed⟩

instance (s : WatchState) (upsert : PendingUpsert) : Decidable (s.Current upsert) :=
  inferInstanceAs (Decidable (∀ index ∈ upsert.loaded, _ = _))

instance (s : WatchState) : (label : Label) → Decidable (Undisturbed s label)
  | .campaignWrite => inferInstanceAs (Decidable (∀ upsert ∈ s.campaign.pendingUpsert, _))
  | .attachWrite process =>
    inferInstanceAs (Decidable (∀ upsert ∈ (s.attach process).pendingUpsert, _ ∧ (_ → _)))
  | .start .. | .finish .. | .campaignLoad | .resolve .. | .view .. | .attachLoad _ =>
    inferInstanceAs (Decidable True)

/-- An empty directory. -/
def emptyReports : StepMachine WatchState Label :=
  machine "reports" "campaign-1" none (fun _ ↦ .error "No such file or directory") []

/-- A viewer that was launched. -/
def launchedViewer : ViewerAccessRecord := ⟨.available, "graphical BAR client launched", "t0"⟩

/-- A run is announced, a process attaches to it, and it is completed; the next run is announced,
and another process attaches to that one. -/
def attachToTwoRuns : List Label :=
  [.start "run-1" "ready" (some launchedViewer), .campaignLoad, .campaignWrite,
    .resolve 0 none true, .view 0 "t1", .attachLoad 0, .attachWrite 0,
    .finish "t2", .campaignLoad, .campaignWrite,
    .start "run-2" "ready" (some launchedViewer), .campaignLoad, .campaignWrite,
    .resolve 1 none true, .view 1 "t3", .attachLoad 1, .attachWrite 1]

/-- The laws hold in this run: its five writes are undisturbed. -/
theorem watch_index_laws_attachToTwoRuns :
    ∃ s, emptyReports.exec emptyReports.init attachToTwoRuns = some s ∧
      s.written.map (·.runId) = ["run-1", "run-1", "run-1", "run-2", "run-2"] ∧
      (s.entries.map (·.runId)).Nodup ∧
      (∀ runId entry, latest (·.runId) s.written runId = some entry → entry ∈ s.entries) ∧
      ∀ runId ∈ s.completed, ∀ entry ∈ s.entries, entry.runId = runId →
        entry.compatibleForAttach = false := by
  obtain ⟨s, hrun⟩ : ∃ s, emptyReports.exec emptyReports.init attachToTwoRuns = some s :=
    ⟨_, rfl⟩
  have hwritten : (emptyReports.exec emptyReports.init attachToTwoRuns).map (fun s ↦
      s.written.map (·.runId)) = some ["run-1", "run-1", "run-1", "run-2", "run-2"] := by
    decide +kernel
  rw [hrun] at hwritten
  obtain ⟨hnodup, hlaws⟩ := watch_index_laws "reports" "campaign-1" none
    (fun _ ↦ .error "No such file or directory") [] (fun _ h ↦ absurd h (not_mem_none _))
    attachToTwoRuns s hrun
  exact ⟨s, hrun, Option.some.inj hwritten, hnodup, hlaws (by decide +kernel)⟩

/-- The process has found a client in the manifest and loaded the index before the run is
completed, and writes after the next run is announced: the entry of the next run is gone, and the
run that was completed can be attached to again. -/
theorem completed_run_resurrected :
    (emptyReports.exec emptyReports.init
      [.start "run-1" "ready" (some launchedViewer), .campaignLoad, .campaignWrite,
        .resolve 0 none true, .finish "t1", .view 0 "t2", .attachLoad 0, .campaignLoad,
        .campaignWrite, .start "run-2" "ready" (some launchedViewer), .campaignLoad,
        .campaignWrite, .attachWrite 0]).map (fun s ↦
          (s.entries.map fun entry ↦ (entry.runId, entry.compatibleForAttach),
            s.written.map (·.runId), s.completed)) =
      some ([("run-1", true)], ["run-1", "run-1", "run-2", "run-1"], ["run-1"]) := by
  decide +kernel

end HighBar.Client.Watch
