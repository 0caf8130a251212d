import HighBar.Client.RunAccounting
import HighBar.Library.StepMachine
import Mathlib.Tactic.Ring

/-!
# The saved instructions of a campaign

After each run `update_instruction_store` goes through the records and saves an instruction for
every command that the run has something to say about, with the next revision. The next run is built
from what is saved. So a text goes round: it is saved, a front is put before it, the front is taken
off and it is saved again.

What is followed here is one command. `Tracked` says how its entry and the updates stored for it
belong together: the entry is the last update, and the revisions count up from the one before, one
for each update. This holds of whatever the runs do. That the text does not change (`KeepsText`)
needs runs that **rebuild** the instruction from the saved one (`Rebuilds`); every run with live
rows is such a run (`rebuilds_of_live`).
-/

namespace HighBar.Client

open KeyedLog List Option

/-! ### One run -/

/-- `dict[str, ImprovementInstruction]`, by `command_id`. -/
abbrev InstructionStore := String → Option ImprovementInstruction

/-- `_next_instruction_revision`. -/
def nextInstructionRevision : Option ImprovementInstruction → ℤ
  | none => 1
  | some prior => prior.revision + 1

/-- What the loop of `update_instruction_store` stores for a record, if anything. -/
def instructionForRecord (run : ItertestingRun) (prior : Option ImprovementInstruction)
    (record : RunRecord) : Option ImprovementInstruction :=
  let action := index (·.commandId) run.improvementActions record.commandId
  let stored := fun (actionType : ActionType) (status : InstructionStatus)
      (defaultDetails triggerReason : String) ↦
    ({ commandId := record.commandId
       revision := nextInstructionRevision prior
       actionType := (action.map (·.actionType)).getD actionType
       status := status
       instruction := instructionBody
         (textOr record.improvementNote ((action.map (·.details)).getD defaultDetails))
       updatedAt := textOr run.completedAt run.startedAt
       sourceRunId := run.runId
       triggerReason := triggerReason } : ImprovementInstruction)
  let actionTrigger := (action.map (·.triggerReason)).getD ""
  if record.improvementState = .none ∧ action = none then none
  else if record.verified ∧ record.improvementState = .applied then
    some (stored .timingChange (if prior.isSome then .superseded else .retired)
      "Applied a targeted retry change." actionTrigger)
  else if record.improvementState = .candidate then
    some (stored .setupChange .active "Retry with improved setup."
      (textOr (record.blockingReason.getD "") actionTrigger))
  else
    some (stored .skipNoBetterAction .retired "No better next action remains."
      (textOr (record.blockingReason.getD "") actionTrigger))

/-- One round of the loop: the store, and the updates so far. -/
def storeRecord (run : ItertestingRun) (state : InstructionStore × List ImprovementInstruction)
    (record : RunRecord) : InstructionStore × List ImprovementInstruction :=
  match instructionForRecord run (state.1 record.commandId) record with
  | none => state
  | some instruction =>
    (Function.update state.1 record.commandId (some instruction), state.2 ++ [instruction])

/-- `update_instruction_store`, without the files. -/
def updateInstructionStore (run : ItertestingRun) (priorInstructions : InstructionStore) :
    InstructionStore × List ImprovementInstruction :=
  if run.improvementEligibility.guidanceMode ≠ .normal then (priorInstructions, [])
  else
    let result := run.commandRecords.foldl (storeRecord run) (priorInstructions, [])
    (result.1, result.2.insertionSort fun a b ↦ a.commandId ≤ b.commandId)

variable {record : RunRecord} {update : ImprovementInstruction}
  {prior : Option ImprovementInstruction} {inputs : RunInputs}

/-- An update is for the command of its record. -/
theorem commandId_instructionForRecord {run : ItertestingRun}
        (h : instructionForRecord run prior record = some update) :
    update.commandId = record.commandId := by
  rw [instructionForRecord] at h
  split_ifs at h <;> rw [← some_inj.1 h]

/-- An update has the next revision. -/
theorem revision_instructionForRecord {run : ItertestingRun}
        (h : instructionForRecord run prior record = some update) :
    update.revision = nextInstructionRevision prior := by
  rw [instructionForRecord] at h
  split_ifs at h <;> rw [← some_inj.1 h]

/-- A record that has a note gives its body to the update. -/
theorem instruction_instructionForRecord {run : ItertestingRun}
        (h : instructionForRecord run prior record = some update)
    (hnote : record.improvementNote ≠ "") :
    update.instruction = instructionBody record.improvementNote := by
  have htext : ∀ fallback, textOr record.improvementNote fallback = record.improvementNote :=
    fun _ ↦ if_neg hnote
  rw [instructionForRecord] at h
  simp only [htext] at h
  split_ifs at h <;> rw [← some_inj.1 h]

/-! ### One command -/

/-- The updates of one command. -/
def updatesOf (commandId : String) (updates : List ImprovementInstruction) :
    List ImprovementInstruction :=
  updates.filter fun update ↦ update.commandId = commandId

theorem updatesOf_append (commandId : String) (front back : List ImprovementInstruction) :
    updatesOf commandId (front ++ back) = updatesOf commandId front ++ updatesOf commandId back :=
  filter_append _ _

theorem updatesOf_singleton (commandId : String) (update : ImprovementInstruction) :
    updatesOf commandId [update] = if update.commandId = commandId then [update] else [] := by
  rw [updatesOf, filter_singleton]
  split_ifs with hkey
  · rw [decide_eq_true hkey, cond_true]
  · rw [decide_eq_false hkey, cond_false]

/-- Sorting the updates by the command keeps those of a command in order. -/
theorem updatesOf_insertionSort (commandId : String) (updates : List ImprovementInstruction) :
    updatesOf commandId (updates.insertionSort fun a b ↦ a.commandId ≤ b.commandId) =
      updatesOf commandId updates := by
  have hsorted : (updatesOf commandId updates).Pairwise fun a b ↦ a.commandId ≤ b.commandId := by
    refine pairwise_of_forall_mem_list fun a ha b hb ↦ ?_
    have hkey : ∀ update ∈ updatesOf commandId updates, update.commandId = commandId :=
      fun update hmem ↦ of_decide_eq_true (mem_filter.1 hmem).2
    have hsame : a.commandId = b.commandId := (hkey a ha).trans (hkey b hb).symm
    exact hsame ▸ String.le_refl a.commandId
  have hsub := sublist_insertionSort hsorted filter_sublist
  have hlength := ((perm_insertionSort (fun a b ↦ a.commandId ≤ b.commandId) updates).filter
    fun update ↦ update.commandId = commandId).length_eq
  have hfilter := hsub.filter fun update ↦ update.commandId = commandId
  rw [updatesOf, List.filter_filter] at hfilter
  simp only [Bool.and_self] at hfilter
  exact (hfilter.eq_of_length hlength.symm).symm

/-- The revision of the saved instruction; none yet counts as the revision zero. -/
def savedRevision (store : InstructionStore) (commandId : String) : ℤ :=
  ((store commandId).map (·.revision)).getD 0

theorem nextInstructionRevision_eq (store : InstructionStore) (commandId : String) :
    nextInstructionRevision (store commandId) = savedRevision store commandId + 1 := by
  rw [savedRevision]
  rcases store commandId with - | prior
  · rfl
  · rfl

/-- How the entry of a command and the updates stored for it belong together. -/
structure Tracked (commandId : String) (start current : InstructionStore)
    (updates : List ImprovementInstruction) : Prop where
  /-- The entry is the last update. -/
  saved : current commandId = (updatesOf commandId updates).getLast?.or (start commandId)
  /-- Every update has the revision after the one before. -/
  revisions : (updatesOf commandId updates).map (·.revision) =
    (List.range (updatesOf commandId updates).length).map fun i : ℕ ↦
      savedRevision start commandId + 1 + i

namespace Tracked

variable {commandId : String} {start middle current : InstructionStore}
  {front back updates : List ImprovementInstruction}

theorem refl (commandId : String) (start : InstructionStore) : Tracked commandId start start [] :=
  ⟨rfl, rfl⟩

/-- The revision has grown by the number of updates. -/
theorem savedRevision_eq (h : Tracked commandId start current updates) :
    savedRevision current commandId =
      savedRevision start commandId + (updatesOf commandId updates).length := by
  rcases eq_nil_or_concat' (updatesOf commandId updates) with hnil | ⟨earlier, last, hconcat⟩
  · rw [savedRevision, h.saved, hnil]
    exact (add_zero _).symm
  · have hrevisions := h.revisions
    rw [hconcat, map_append, length_append, length_singleton, range_succ,
      map_append] at hrevisions
    have hlast : last.revision = savedRevision start commandId + 1 + earlier.length :=
      singleton_inj.1 (append_inj_right' hrevisions rfl)
    have hsaved : current commandId = some last := by
      rw [h.saved, hconcat, getLast?_concat, some_or]
    rw [savedRevision, hsaved, map_some, getD_some, hlast, hconcat,
      length_append, length_singleton]
    push_cast
    ring

/-- Two stretches of updates, one after the other. -/
theorem trans (hfront : Tracked commandId start middle front)
    (hback : Tracked commandId middle current back) :
    Tracked commandId start current (front ++ back) := by
  constructor
  · rw [hback.saved, hfront.saved, updatesOf_append, List.getLast?_append, Option.or_assoc]
  · rw [updatesOf_append, map_append, hfront.revisions, hback.revisions, length_append,
      List.range_add, List.map_append, List.map_map, hfront.savedRevision_eq]
    congr 1
    refine map_congr_left fun i _ ↦ ?_
    rw [Function.comp_apply]
    push_cast
    ring

/-- An update with the next revision, of this command or another. -/
theorem single (start : InstructionStore)
    (hrevision : update.revision = nextInstructionRevision (start update.commandId)) :
    Tracked commandId start (Function.update start update.commandId (some update)) [update] := by
  by_cases hkey : update.commandId = commandId
  · have hupdates : updatesOf commandId [update] = [update] := by
      rw [updatesOf_singleton, if_pos hkey]
    constructor
    · rw [hupdates, ← hkey, Function.update_self]
      rfl
    · rw [hupdates, map_singleton, hrevision, hkey, nextInstructionRevision_eq]
      simp
  · have hupdates : updatesOf commandId [update] = [] := by
      rw [updatesOf_singleton, if_neg hkey]
    constructor
    · rw [hupdates, Function.update_of_ne fun heq ↦ hkey heq.symm]
      rfl
    · rw [hupdates]
      rfl

/-- Storing a record keeps entry and updates together. -/
theorem storeRecord (run : ItertestingRun) (record : RunRecord)
    (h : Tracked commandId start current updates) :
    Tracked commandId start (storeRecord run (current, updates) record).1
      (storeRecord run (current, updates) record).2 := by
  rw [HighBar.Client.storeRecord]
  rcases hupdate : instructionForRecord run (current record.commandId) record with - | update
  · exact h
  · have hkey := commandId_instructionForRecord hupdate
    have hrevision := revision_instructionForRecord hupdate
    rw [← hkey] at hrevision ⊢
    exact h.trans (single current hrevision)

/-- The loop over the records of a run. -/
theorem foldl_storeRecord (run : ItertestingRun) (records : List RunRecord)
    (h : Tracked commandId start current updates) :
    Tracked commandId start (records.foldl (HighBar.Client.storeRecord run) (current, updates)).1
      (records.foldl (HighBar.Client.storeRecord run) (current, updates)).2 := by
  induction records generalizing current updates with
  | nil => exact h
  | cons record records ih =>
    rw [foldl_cons]
    exact ih (h.storeRecord run record)

/-- **One run**: the revisions count up, one for each update that is stored. -/
theorem updateInstructionStore (commandId : String) (run : ItertestingRun)
    (start : InstructionStore) :
    Tracked commandId start (updateInstructionStore run start).1
      (updateInstructionStore run start).2 := by
  rw [HighBar.Client.updateInstructionStore]
  split_ifs
  · exact refl commandId start
  · have hloop := (refl commandId start).foldl_storeRecord run run.commandRecords
    exact ⟨by rw [updatesOf_insertionSort]; exact hloop.saved,
      by rw [updatesOf_insertionSort]; exact hloop.revisions⟩

end Tracked

/-! ### The texts -/

/-- Every update of a run was made for one of its records. -/
theorem mem_foldl_storeRecord {run : ItertestingRun} {records : List RunRecord}
    {state : InstructionStore × List ImprovementInstruction}
    (h : update ∈ (records.foldl (storeRecord run) state).2) :
    update ∈ state.2 ∨ ∃ record ∈ records, ∃ prior,
      instructionForRecord run prior record = some update := by
  induction records generalizing state with
  | nil => exact .inl h
  | cons record records ih =>
    rw [foldl_cons] at h
    rcases ih h with hmem | ⟨other, hother, prior, hupdate⟩
    · rw [storeRecord] at hmem
      rcases hrecord : instructionForRecord run (state.1 record.commandId) record with - | stored
      · rw [hrecord] at hmem
        exact .inl hmem
      · rw [hrecord] at hmem
        rcases mem_append.1 hmem with hmem | hmem
        · exact .inl hmem
        · exact .inr ⟨record, mem_cons_self, _, mem_singleton.1 hmem ▸ hrecord⟩
    · exact .inr ⟨other, mem_cons_of_mem record hother, prior, hupdate⟩

/-- Every update comes from a record of the run. -/
theorem exists_record_of_mem_updates {run : ItertestingRun} {start : InstructionStore}
    (h : update ∈ (updateInstructionStore run start).2) :
    ∃ record ∈ run.commandRecords, ∃ prior,
      instructionForRecord run prior record = some update := by
  rw [updateInstructionStore] at h
  split_ifs at h
  · exact absurd h not_mem_nil
  · rcases mem_foldl_storeRecord ((mem_insertionSort _).1 h) with hmem | hrecord
    · exact absurd hmem not_mem_nil
    · exact hrecord

theorem savedFront_append_ne (revision : ℤ) (body : String) :
    savedFront revision ++ body ≠ "" := by
  intro hempty
  have hchars := congrArg String.toList hempty
  rw [String.toList_append, savedFront, String.toList_append, String.toList_append] at hchars
  exact absurd (append_eq_nil_iff.1 (append_eq_nil_iff.1
    (append_eq_nil_iff.1 hchars).1).1).1 (by decide)

/-- An update for a record that builds on an instruction stores the body of that instruction. -/
theorem RunRecord.BuildsOn.instruction_eq {run : ItertestingRun} {saved : ImprovementInstruction}
    (h : record.BuildsOn saved) (hne : instructionBody saved.instruction ≠ "")
    (hupdate : instructionForRecord run prior record = some update) :
    update.instruction = instructionBody saved.instruction := by
  have hnote : record.improvementNote ≠ "" := by
    rw [h.note ""]
    exact savedFront_append_ne _ _
  rw [instruction_instructionForRecord hupdate hnote, h.note "",
    instructionBody_instructionDetail saved "" hne]

/-! ### Campaigns -/

/-- What a campaign carries from run to run, and the updates it has stored. -/
structure InstructionHistory where
  store : InstructionStore
  previousRun : Option ItertestingRun := none
  log : List ImprovementInstruction := []

namespace InstructionHistory

/-- The run that is built from the saved instructions. -/
def run (state : InstructionHistory) (inputs : RunInputs) : ItertestingRun :=
  buildRun { inputs with priorInstructions := state.store } state.previousRun

/-- The state after a run. -/
def next (state : InstructionHistory) (inputs : RunInputs) : InstructionHistory where
  store := (updateInstructionStore (state.run inputs) state.store).1
  previousRun := some (state.run inputs)
  log := state.log ++ (updateInstructionStore (state.run inputs) state.store).2

end InstructionHistory

/-- The runs of `run_campaign`, as far as the instructions are concerned. -/
def instructionCampaign : StepMachine InstructionHistory RunInputs where
  init := { store := fun _ ↦ none }
  step state inputs := some (state.next inputs)

/-- The run rebuilds the instruction of the command from the saved one, if it stores one at all. -/
def Rebuilds (commandId : String) (state : InstructionHistory) (inputs : RunInputs) : Prop :=
  ∀ saved, state.store commandId = some saved →
    ∀ record ∈ (state.run inputs).commandRecords, record.commandId = commandId →
      ∀ prior update, instructionForRecord (state.run inputs) prior record = some update →
        record.BuildsOn saved

/-- **The revisions of a campaign** count up, one for each update that is stored. -/
theorem Tracked.exec (commandId : String) {state final : InstructionHistory}
    {runs : List RunInputs} (hlog : state.log = [])
    (hrun : instructionCampaign.exec state runs = some final) :
    Tracked commandId state.store final.store final.log := by
  refine StepMachine.invariant_of_exec
    (I := fun history ↦ Tracked commandId state.store history.store history.log) ?_ ?_ hrun
  · intro history inputs next hhistory hstep
    rw [← Option.some.inj hstep]
    exact hhistory.trans (Tracked.updateInstructionStore commandId _ _)
  · rw [hlog]
    exact Tracked.refl commandId state.store

/-- The saved text has a body, and the updates of the command have stored it. -/
structure KeepsText (commandId body : String) (history : InstructionHistory) : Prop where
  saved : ∃ instruction, history.store commandId = some instruction ∧
    instructionBody instruction.instruction = body
  texts : ∀ update ∈ updatesOf commandId history.log, update.instruction = body

/-- One run that rebuilds the instruction keeps the text. -/
theorem KeepsText.next {commandId body : String} {history : InstructionHistory}
    (h : KeepsText commandId body history) (hne : body ≠ "")
    (hrebuilds : Rebuilds commandId history inputs) :
    KeepsText commandId body (history.next inputs) := by
  obtain ⟨instruction, hsaved, hbody⟩ := h.saved
  -- The updates of this run.
  have hnew : ∀ update ∈ updatesOf commandId
      (updateInstructionStore (history.run inputs) history.store).2, update.instruction = body := by
    intro update hupdate
    obtain ⟨hmem, hkey⟩ := mem_filter.1 hupdate
    obtain ⟨record, hrecord, prior, hstored⟩ := exists_record_of_mem_updates hmem
    have hrecordKey : record.commandId = commandId :=
      (commandId_instructionForRecord hstored).symm.trans (of_decide_eq_true hkey)
    have hbuilds := hrebuilds instruction hsaved record hrecord hrecordKey prior update hstored
    rw [hbuilds.instruction_eq (hbody ▸ hne) hstored, hbody]
  have hstore : (history.next inputs).store commandId = _ :=
    (Tracked.updateInstructionStore commandId (history.run inputs) history.store).saved
  refine ⟨?_, ?_⟩
  · rcases hlast : (updatesOf commandId
        (updateInstructionStore (history.run inputs) history.store).2).getLast? with - | update
    · rw [hlast, none_or] at hstore
      exact ⟨instruction, hstore.trans hsaved, hbody⟩
    · rw [hlast, some_or] at hstore
      refine ⟨update, hstore, ?_⟩
      rw [hnew update (mem_of_getLast? hlast), ← hbody, instructionBody_instructionBody]
  · rw [InstructionHistory.next, updatesOf_append]
    exact forall_mem_append.2 ⟨h.texts, hnew⟩

/-- The text of a campaign whose runs all rebuild the instruction. -/
theorem KeepsText.exec {commandId body : String} (hne : body ≠ "")
    {state final : InstructionHistory} {runs : List RunInputs} (h : KeepsText commandId body state)
    (hrebuilds : instructionCampaign.Meets (Rebuilds commandId) state runs)
    (hrun : instructionCampaign.exec state runs = some final) :
    KeepsText commandId body final := by
  refine StepMachine.invariant_of_meets (I := KeepsText commandId body) ?_ h hrebuilds hrun
  intro history inputs next hhistory hinputs hstep
  rw [← Option.some.inj hstep]
  exact hhistory.next hne hinputs

end HighBar.Client
