import HighBar.Client.Campaign

/-!
# What governs a campaign

The laws of `run_campaign` for **every** sequence of run outcomes. Each of them is a fact about one
pass of the loop, in a state that fits the runs before it (`Follows`), and the rule of `breakLoop`
carries it to every run of the campaign.

* A pass at the end of the budget always stops, so a campaign ends with the decision of its last run
  and never reaches the second call of `decide_stop`.
* Only a stall and a closed gate are ever taken back, so a run that met the target or the guardrail
  behind an open gate is the last one.
* A flag that forces cheats is set by a closed gate only, and `should_enable_cheat_escalation` asks
  for a stall, so under `natural_first` a run cheats for one of the two reasons.
-/

namespace HighBar.Client

open List Option

variable {policy : CampaignRetryPolicy} {outcomes : ℕ → RunOutcome} {s : CampaignState}

/-! ### One pass -/

/-- The decision of `decide_stop` after a run. -/
theorem decideStop_concat (policy : CampaignRetryPolicy) (before : List RunProgressSnapshot)
    (latest : RunProgressSnapshot) (finalRunId : String) (budgetExhausted : Bool) :
    decideStop policy (before ++ [latest]) finalRunId budgetExhausted =
      (stopReasonFor policy (before ++ [latest]) latest budgetExhausted).map fun stopReason ↦
        { campaignId := policy.campaignId
          finalRunId := finalRunId
          stopReason := stopReason
          directVerifiedTotal := latest.directTotal
          targetDirectVerified := policy.directTargetMin
          targetMet := policy.directTargetMin ≤ latest.directTotal
          runtimeElapsedSeconds := latest.runtimeElapsedSeconds
          message := stopReason.message } := by
  rw [decideStop, getLast?_concat, bind_some]

/-- The snapshot of a pass. -/
def passSnapshot (outcomes : ℕ → RunOutcome) (s : CampaignState) : RunProgressSnapshot :=
  progressSnapshotForRun (outcomes s.sequenceIndex) s.sequenceIndex s.progressSnapshots.getLast?

/-- The snapshots of a pass, its own included. -/
def passCandidates (outcomes : ℕ → RunOutcome) (s : CampaignState) : List RunProgressSnapshot :=
  s.progressSnapshots ++ [passSnapshot outcomes s]

/-- Whether a pass uses cheats. -/
def passCheats (policy : CampaignRetryPolicy) (s : CampaignState) : Bool :=
  s.forceCheatNextRun || shouldEnableCheatEscalation policy s.progressSnapshots s.sequenceIndex

/-- What the gate says to the run of a pass. -/
def passGate (policy : CampaignRetryPolicy) (outcomes : ℕ → RunOutcome) (s : CampaignState) :
    Option CampaignStopDecision × Bool :=
  gateDecision policy (outcomes s.sequenceIndex) (passCheats policy s) s.sequenceIndex
    (passSnapshot outcomes s) (passCandidates outcomes s)

/-- The loop ends after a pass exactly if the pass has a stop decision. -/
theorem campaignPass_snd_eq_none :
    (campaignPass policy outcomes s).2 = none ↔
      (campaignPass policy outcomes s).1.stopDecision.isSome = true := by
  simp only [campaignPass]
  split_ifs with hstop
  · exact iff_of_true rfl hstop
  · exact iff_of_false id hstop

/-- **What a pass decides**, by the gate of its run. -/
theorem stopDecision_campaignPass :
    (campaignPass policy outcomes s).1.stopDecision =
      (passGate policy outcomes s).1.filter fun stop ↦
        !cancelsStall policy (passCheats policy s) s.sequenceIndex (passCandidates outcomes s)
          stop := rfl

variable {stop : CampaignStopDecision} {sequenceIndex : ℕ} {cheatEnabled : Bool}
  {candidates : List RunProgressSnapshot}

/-- Behind an open gate the decision is that of `decide_stop`. -/
theorem passGate_of_ready (hready : (outcomes s.sequenceIndex).contractReady = true) :
    passGate policy outcomes s =
      (decideStop policy (passCandidates outcomes s) (outcomes s.sequenceIndex).runId
        (policy.selectedProfile.effectiveImprovementRuns ≤ s.sequenceIndex), false) := by
  have hfilter : ((outcomes s.sequenceIndex).contractHealthDecision.filter fun decision ↦
      decision.decisionStatus ≠ .readyForItertesting) = none := by
    rw [RunOutcome.contractReady] at hready
    rcases houtcome : (outcomes s.sequenceIndex).contractHealthDecision with - | decision <;>
      rw [houtcome] at hready
    · rfl
    · have hstatus : decision.decisionStatus = .readyForItertesting := of_decide_eq_true hready
      simp only [filter_some, hstatus, ne_eq, not_true_eq_false, decide_false,
        Bool.false_eq_true, if_false]
  rw [passGate, gateDecision, hfilter]

/-- Behind a closed gate the run is tried again with cheats, or the campaign is blocked. -/
theorem passGate_of_not_ready (policy : CampaignRetryPolicy)
    (hready : (outcomes s.sequenceIndex).contractReady = false) :
    ∃ decision, (outcomes s.sequenceIndex).contractHealthDecision = some decision ∧
      decision.decisionStatus ≠ .readyForItertesting ∧
      passGate policy outcomes s =
        if policy.selectedProfile.allowCheatEscalation && !passCheats policy s &&
            s.sequenceIndex < policy.selectedProfile.effectiveImprovementRuns then (none, true)
        else (some (foundationalStop policy (outcomes s.sequenceIndex) (passSnapshot outcomes s)
          decision.summaryMessage), false) := by
  rw [RunOutcome.contractReady] at hready
  rcases houtcome : (outcomes s.sequenceIndex).contractHealthDecision with - | decision <;>
    rw [houtcome] at hready
  · exact absurd hready.symm Bool.false_ne_true
  · have hstatus : decision.decisionStatus ≠ .readyForItertesting := of_decide_eq_false hready
    refine ⟨decision, rfl, hstatus, ?_⟩
    simp only [passGate, gateDecision, houtcome, filter_some, ne_eq, hstatus,
      not_false_eq_true, decide_true, if_true]

/-- A decision of a pass was made at the gate and not taken back. -/
theorem stopDecision_eq_some :
    (campaignPass policy outcomes s).1.stopDecision = some stop ↔
      (passGate policy outcomes s).1 = some stop ∧
      cancelsStall policy (passCheats policy s) s.sequenceIndex (passCandidates outcomes s) stop =
        false := by
  rw [stopDecision_campaignPass, filter_eq_some_iff, Bool.not_eq_true']

/-- Taking a stall back needs a run that is left. -/
theorem cancelsStall_of_budget
    (hbudget : policy.selectedProfile.effectiveImprovementRuns ≤ sequenceIndex) :
    cancelsStall policy cheatEnabled sequenceIndex candidates stop = false := by
  have hlt : ¬ sequenceIndex < policy.selectedProfile.effectiveImprovementRuns := by omega
  rw [cancelsStall, decide_eq_false hlt, Bool.and_false, Bool.false_and]

theorem cancelsStall_of_ne (hreason : stop.stopReason ≠ .stalled) :
    cancelsStall policy cheatEnabled sequenceIndex candidates stop = false := by
  rw [cancelsStall, decide_eq_false hreason, Bool.false_and, Bool.false_and, Bool.false_and]

/-- **A pass at the end of the budget stops.** -/
theorem exists_stop_of_budget
    (hbudget : policy.selectedProfile.effectiveImprovementRuns ≤ s.sequenceIndex) :
    ∃ stop, (campaignPass policy outcomes s).1.stopDecision = some stop := by
  have hgate : ∃ stop, (passGate policy outcomes s).1 = some stop := by
    rcases hready : (outcomes s.sequenceIndex).contractReady with - | -
    · obtain ⟨decision, -, -, heq⟩ := passGate_of_not_ready policy hready
      have hlt : ¬ s.sequenceIndex < policy.selectedProfile.effectiveImprovementRuns := by omega
      rw [heq, decide_eq_false hlt, Bool.and_false, if_neg Bool.false_ne_true]
      exact ⟨_, rfl⟩
    · rw [passGate_of_ready hready, passCandidates, decideStop_concat, decide_eq_true hbudget,
        stopReasonFor, if_pos rfl]
      split_ifs <;> exact ⟨_, rfl⟩
  obtain ⟨stop, hstop⟩ := hgate
  exact ⟨stop, stopDecision_eq_some.2 ⟨hstop, cancelsStall_of_budget hbudget⟩⟩

/-- **A run that met the target or the guardrail behind an open gate stops.** -/
theorem exists_stop_of_done (hready : (outcomes s.sequenceIndex).contractReady = true)
    (hdone : policy.directTargetMin ≤ (passSnapshot outcomes s).directTotal ∨
      max policy.runtimeTargetMinutes 1 * 60 ≤ (passSnapshot outcomes s).runtimeElapsedSeconds) :
    ∃ stop, (campaignPass policy outcomes s).1.stopDecision = some stop := by
  have hreason : ∀ budgetExhausted, stopReasonFor policy (passCandidates outcomes s)
        (passSnapshot outcomes s) budgetExhausted = some .targetReached ∨
      stopReasonFor policy (passCandidates outcomes s)
        (passSnapshot outcomes s) budgetExhausted = some .runtimeGuardrail := by
    intro budgetExhausted
    rw [stopReasonFor]
    by_cases htarget : policy.directTargetMin ≤ (passSnapshot outcomes s).directTotal
    · exact .inl (if_pos htarget)
    · rw [if_neg htarget, if_pos (hdone.resolve_left htarget)]
      exact .inr rfl
  simp only [stopDecision_eq_some, passGate_of_ready hready, passCandidates, decideStop_concat]
  rcases hreason (policy.selectedProfile.effectiveImprovementRuns ≤ s.sequenceIndex) with h | h <;>
    rw [passCandidates] at h <;> rw [h] <;>
    exact ⟨_, rfl, cancelsStall_of_ne StopReason.noConfusion⟩

/-- A decision of a pass is that of `decide_stop` or the one of the closed gate. -/
theorem stopDecision_cases (h : (campaignPass policy outcomes s).1.stopDecision = some stop) :
    ((outcomes s.sequenceIndex).contractReady = true ∧
      decideStop policy (passCandidates outcomes s) (outcomes s.sequenceIndex).runId
        (policy.selectedProfile.effectiveImprovementRuns ≤ s.sequenceIndex) = some stop) ∨
    ∃ decision, (outcomes s.sequenceIndex).contractHealthDecision = some decision ∧
      decision.decisionStatus ≠ .readyForItertesting ∧
      (policy.selectedProfile.allowCheatEscalation = true → passCheats policy s = true ∨
        policy.selectedProfile.effectiveImprovementRuns ≤ s.sequenceIndex) ∧
      stop = foundationalStop policy (outcomes s.sequenceIndex) (passSnapshot outcomes s)
        decision.summaryMessage := by
  have hgate := (stopDecision_eq_some.1 h).1
  rcases hready : (outcomes s.sequenceIndex).contractReady with - | -
  · obtain ⟨decision, hsome, hstatus, heq⟩ := passGate_of_not_ready policy hready
    rw [heq] at hgate
    split_ifs at hgate with hagain
    refine .inr ⟨decision, hsome, hstatus, fun hallow ↦ ?_, (Option.some.inj hgate).symm⟩
    rw [hallow, Bool.true_and, Bool.and_eq_true, Bool.not_eq_true', decide_eq_true_iff] at hagain
    by_contra hnot
    rw [not_or, Bool.not_eq_true, not_le] at hnot
    exact hagain hnot
  · rw [passGate_of_ready hready] at hgate
    exact .inl ⟨rfl, hgate⟩

/-- Only a closed gate forces cheats, and only where they are allowed. -/
theorem of_forcesCheat (h : (campaignPass policy outcomes s).1.forcesCheat = true) :
    policy.selectedProfile.allowCheatEscalation = true ∧
      (outcomes s.sequenceIndex).contractReady = false := by
  change (passGate policy outcomes s).2 = true at h
  rcases hready : (outcomes s.sequenceIndex).contractReady with - | -
  · obtain ⟨decision, -, -, heq⟩ := passGate_of_not_ready policy hready
    rw [heq] at h
    split_ifs at h with hagain
    rw [Bool.and_assoc, Bool.and_eq_true] at hagain
    exact ⟨hagain.1, rfl⟩
  · rw [passGate_of_ready hready] at h
    exact absurd h Bool.false_ne_true

/-- Escalation without force: it is allowed, and under `natural_first` there was a stall. -/
theorem shouldEnableCheatEscalation_iff {snapshots : List RunProgressSnapshot} :
    shouldEnableCheatEscalation policy snapshots sequenceIndex = true ↔
      policy.selectedProfile.allowCheatEscalation = true ∧ (policy.naturalFirst = true →
        sequenceIndex ≠ 0 ∧ stallDetected policy.selectedProfile snapshots = true) := by
  rw [shouldEnableCheatEscalation]
  rcases policy.selectedProfile.allowCheatEscalation with - | - <;>
    rcases policy.naturalFirst with - | - <;> simp

/-- Only a stall makes `decide_stop` say so. -/
theorem stallDetected_of_decideStop {before : List RunProgressSnapshot}
    {latest : RunProgressSnapshot} {finalRunId : String} {budgetExhausted : Bool}
        (h : decideStop policy (before ++ [latest]) finalRunId budgetExhausted = some stop)
    (hreason : stop.stopReason = .stalled) :
    stallDetected policy.selectedProfile (before ++ [latest]) = true := by
  rw [decideStop_concat, map_eq_some_iff] at h
  obtain ⟨reason, hfound, rfl⟩ := h
  obtain rfl : reason = .stalled := hreason
  rw [stopReasonFor] at hfound
  split_ifs at hfound with _ _ hstall <;> first | exact hstall | cases hfound

/-- `decide_stop` knows nothing of the gate. -/
theorem stopReason_ne_of_decideStop {before : List RunProgressSnapshot}
    {latest : RunProgressSnapshot} {finalRunId : String} {budgetExhausted : Bool}
        (h : decideStop policy (before ++ [latest]) finalRunId budgetExhausted = some stop) :
    stop.stopReason ≠ .foundationalBlocked := by
  rw [decideStop_concat, map_eq_some_iff] at h
  obtain ⟨reason, hfound, rfl⟩ := h
  rintro rfl
  rw [stopReasonFor] at hfound
  split_ifs at hfound <;> cases hfound

/-- **A stall and a closed gate end a campaign only after cheats, or with the budget.** -/
theorem cheats_or_budget_of_stop (h : (campaignPass policy outcomes s).1.stopDecision = some stop)
    (hallow : policy.selectedProfile.allowCheatEscalation = true)
    (hreason : stop.stopReason = .stalled ∨ stop.stopReason = .foundationalBlocked) :
    passCheats policy s = true ∨
      policy.selectedProfile.effectiveImprovementRuns ≤ s.sequenceIndex := by
  rcases stopDecision_cases h with ⟨-, hdecide⟩ | ⟨decision, -, -, hagain, -⟩
  · have hstalled : stop.stopReason = .stalled :=
      hreason.resolve_right (stopReason_ne_of_decideStop hdecide)
    have hstall := stallDetected_of_decideStop hdecide hstalled
    by_contra hnot
    rw [not_or, Bool.not_eq_true, not_le] at hnot
    -- the next run could have cheated, so the decision would have been taken back
    have hescalates : shouldEnableCheatEscalation policy (passCandidates outcomes s)
        (s.sequenceIndex + 1) = true :=
      shouldEnableCheatEscalation_iff.2 ⟨hallow, fun _ ↦ ⟨Nat.succ_ne_zero _, hstall⟩⟩
    have hkept := (stopDecision_eq_some.1 h).2
    rw [cancelsStall, hstalled, hnot.1, decide_eq_true hnot.2, hescalates] at hkept
    exact absurd hkept.symm Bool.false_ne_true
  · exact hagain hallow

/-- A decision of a pass names its run. -/
theorem finalRunId_of_stop (h : (campaignPass policy outcomes s).1.stopDecision = some stop) :
    stop.finalRunId = (outcomes s.sequenceIndex).runId := by
  rcases stopDecision_cases h with ⟨-, hdecide⟩ | ⟨decision, -, -, -, rfl⟩
  · rw [passCandidates, decideStop_concat, map_eq_some_iff] at hdecide
    obtain ⟨reason, -, rfl⟩ := hdecide
    rfl
  · rfl

/-! ### The whole campaign -/

/-- The state of a pass fits the runs before it, and none of them forced cheats without a closed
gate. -/
structure Follows (policy : CampaignRetryPolicy) (runs : List CampaignRun) (s : CampaignState) :
    Prop where
  index : s.sequenceIndex = runs.length
  snapshots : s.progressSnapshots = runs.map CampaignRun.snapshot
  force : s.forceCheatNextRun = runs.getLast?.any CampaignRun.forcesCheat
  forced : ∀ run ∈ runs, run.forcesCheat = true →
    policy.selectedProfile.allowCheatEscalation = true ∧ run.outcome.contractReady = false

/-- One pass of the loop keeps the campaign on its rules. -/
theorem follows_step (runs : List CampaignRun) (s : CampaignState) (run : CampaignRun)
    (t : CampaignState) (hs : Follows policy runs s)
    (h : campaignPass policy outcomes s = (run, some t)) : Follows policy (runs ++ [run]) t := by
  have hrun : (campaignPass policy outcomes s).1 = run := congrArg Prod.fst h
  have hnext := congrArg Prod.snd h
  simp only [campaignPass, ite_eq_iff, reduceCtorEq, and_false, false_or,
    Option.some.injEq] at hnext
  obtain ⟨-, rfl⟩ := hnext
  refine ⟨?_, ?_, ?_, forall_mem_append.2 ⟨hs.forced, forall_mem_singleton.2 ?_⟩⟩
  · rw [length_append, length_singleton, ← hs.index]
  · rw [map_append, map_singleton, ← hs.snapshots, ← hrun]
    rfl
  · rw [getLast?_concat, any_some, ← hrun]
    rfl
  · rw [← hrun]
    exact of_forcesCheat

/-- **Every run of a campaign is a pass** in a state that fits the runs before it. -/
theorem exists_pass {before after : List CampaignRun} {run : CampaignRun}
    (h : campaignRuns policy outcomes = before ++ run :: after) :
    ∃ s, Follows policy before s ∧ (campaignPass policy outcomes s).1 = run ∧
      (after = [] ↔ run.stopDecision.isSome = true) := by
  have hinit : Follows policy [] ⟨0, [], false⟩ := ⟨rfl, rfl, rfl, forall_mem_nil _⟩
  obtain ⟨s, hs, hrun, hbreak, hlast⟩ := breakLoop.exists_of_eq_append follows_step hinit h
  refine ⟨s, hs, hrun, fun hnil ↦ ?_, fun hstop ↦ hbreak ?_⟩
  · rcases hlast hnil with hnone | hbudget
    · rw [← hrun]
      exact campaignPass_snd_eq_none.1 hnone
    · obtain ⟨stop, hstop⟩ : ∃ stop, (campaignPass policy outcomes s).1.stopDecision = some stop :=
        exists_stop_of_budget (hs.index.trans (Nat.succ.inj hbudget)).ge
      rw [← hrun, hstop]
      rfl
  · rw [← hrun] at hstop
    exact campaignPass_snd_eq_none.2 hstop

/-- A campaign has a last run, its decision is the decision of the campaign, and no earlier run has
one. -/
theorem exists_last (settings : CampaignSettings) (outcomes : ℕ → RunOutcome) :
    ∃ before last stop, (runCampaign settings outcomes).runs = before ++ [last] ∧
      (∀ run ∈ before, run.stopDecision = none) ∧ last.stopDecision = some stop ∧
      (runCampaign settings outcomes).stopDecision = some stop := by
  have hne : campaignRuns (normalizeRetryPolicy settings) outcomes ≠ [] := breakLoop.ne_nil _ _
  obtain ⟨before, last, hruns⟩ := (eq_nil_or_concat' _).resolve_left hne
  obtain ⟨s, -, -, hlast⟩ := exists_pass hruns
  obtain ⟨stop, hstop⟩ := isSome_iff_exists.1 (hlast.1 rfl)
  refine ⟨before, last, stop, hruns, fun run hrun ↦ ?_, hstop, ?_⟩
  · obtain ⟨earlier, later, rfl⟩ := append_of_mem hrun
    rw [append_assoc, cons_append] at hruns
    obtain ⟨s, -, -, hiff⟩ := exists_pass hruns
    rcases hnone : run.stopDecision with - | stop
    · rfl
    · rw [hnone] at hiff
      exact absurd (hiff.2 rfl) (append_ne_nil_of_right_ne_nil _ (cons_ne_nil _ _))
  · simp only [runCampaign, hruns, getLast?_concat, bind_some, hstop, some_or]

/-- **The laws of a campaign.** -/
structure Governed (settings : CampaignSettings) (campaign : ItertestingCampaign) : Prop where
  /-- There is a run. -/
  one_le : 1 ≤ campaign.runs.length
  /-- There are no more runs than the budget, which is capped, and one. -/
  le_budget : (campaign.runs.length : ℤ) ≤ min (max settings.configured 0) 10 + 1
  /-- The campaign ends with the decision of its last run, which names it, and no earlier run has
  one. -/
  ends : ∃ before last stop, campaign.runs = before ++ [last] ∧
    (∀ run ∈ before, run.stopDecision = none) ∧ last.stopDecision = some stop ∧
    campaign.stopDecision = some stop ∧ stop.finalRunId = last.outcome.runId
  /-- No run follows one that met the target or the guardrail behind an open gate. -/
  done : ∀ before run next after, campaign.runs = before ++ run :: next :: after →
    run.outcome.contractReady = true →
    directVerifiedTotal run.outcome.commandRecords < directTargetMin ∧
      max run.outcome.elapsedSeconds 0 < max settings.runtimeTargetMinutes 1 * 60
  /-- Cheats are used only where they are allowed, and under `natural_first` not in the first run
  and only after a closed gate or a stall. -/
  cheats : ∀ before run after, campaign.runs = before ++ run :: after → run.cheatEnabled = true →
    settings.allowCheatEscalation = true ∧ (settings.naturalFirst = true →
      ∃ previous, before.getLast? = some previous ∧ (previous.outcome.contractReady = false ∨
        stallDetected (normalizeRetryPolicy settings).selectedProfile
          (before.map CampaignRun.snapshot) = true))
  /-- Where cheats are allowed, a stall or a closed gate ends the campaign only after a run with
  cheats or at the end of the budget. -/
  escalates : settings.allowCheatEscalation = true → ∀ stop, campaign.stopDecision = some stop →
    stop.stopReason = .stalled ∨ stop.stopReason = .foundationalBlocked →
    (∃ last, campaign.runs.getLast? = some last ∧ last.cheatEnabled = true) ∨
      (campaign.runs.length : ℤ) = min (max settings.configured 0) 10 + 1

/-- The budget, as the policy has it. -/
theorem effectiveImprovementRuns_normalizeRetryPolicy (settings : CampaignSettings) :
    ((normalizeRetryPolicy settings).selectedProfile.effectiveImprovementRuns : ℤ) =
      min (max settings.configured 0) 10 := by
  show ((min (max settings.configured 0).toNat 10 : ℕ) : ℤ) = _
  omega

/-- The runs of `run_campaign` are the runs of its policy. -/
theorem exists_pass_of_runs {settings : CampaignSettings} {before after : List CampaignRun}
    {run : CampaignRun} (h : (runCampaign settings outcomes).runs = before ++ run :: after) :
    ∃ s, Follows (normalizeRetryPolicy settings) before s ∧
      (campaignPass (normalizeRetryPolicy settings) outcomes s).1 = run ∧
      (after = [] ↔ run.stopDecision.isSome = true) :=
  exists_pass h

/-- A run that cheats was forced to by the one before it, or there was a stall. -/
theorem of_passCheats {before : List CampaignRun} (hs : Follows policy before s)
    (hcheats : passCheats policy s = true) :
    policy.selectedProfile.allowCheatEscalation = true ∧ (policy.naturalFirst = true →
      ∃ previous, before.getLast? = some previous ∧ (previous.outcome.contractReady = false ∨
        stallDetected policy.selectedProfile (before.map CampaignRun.snapshot) = true)) := by
  rcases Bool.or_eq_true_iff.1 hcheats with hforce | hescalates
  · rw [hs.force, Option.any_eq_true] at hforce
    obtain ⟨previous, hprevious, hforces⟩ := hforce
    obtain ⟨hallow, hclosed⟩ := hs.forced previous (mem_of_getLast? hprevious) hforces
    exact ⟨hallow, fun _ ↦ ⟨previous, hprevious, .inl hclosed⟩⟩
  · rw [shouldEnableCheatEscalation_iff, hs.index, hs.snapshots] at hescalates
    refine ⟨hescalates.1, fun hnatural ↦ ?_⟩
    obtain ⟨hindex, hstall⟩ := hescalates.2 hnatural
    have hne : before ≠ [] := fun hnil ↦ hindex (by rw [hnil, length_nil])
    exact ⟨before.getLast hne, getLast?_eq_some_getLast hne, .inr hstall⟩

/-- **Campaigns are governed**, whatever the runs come back with. -/
theorem campaign_governed (settings : CampaignSettings) (outcomes : ℕ → RunOutcome) :
    Governed settings (runCampaign settings outcomes) := by
  have hbudget := effectiveImprovementRuns_normalizeRetryPolicy settings
  have hlength : (runCampaign settings outcomes).runs.length ≤
      (normalizeRetryPolicy settings).selectedProfile.effectiveImprovementRuns + 1 :=
    breakLoop.length_le _ _
  obtain ⟨before, last, stop, hruns, hearlier, hstop, hcampaign⟩ := exists_last settings outcomes
  refine ⟨?_, by omega, ?_, ?_, ?_, ?_⟩
  · rw [hruns, length_append]
    exact Nat.le_add_left 1 _
  · obtain ⟨s, -, rfl, -⟩ := exists_pass_of_runs hruns
    exact ⟨before, _, stop, hruns, hearlier, hstop, hcampaign, finalRunId_of_stop hstop⟩
  · intro before run next after hruns hready
    obtain ⟨s, -, rfl, hiff⟩ := exists_pass_of_runs hruns
    by_contra hnot
    rw [not_and_or, not_lt, not_lt] at hnot
    -- such a run would have stopped the campaign
    have hdone :
        max (max settings.runtimeTargetMinutes 1) 1 = max settings.runtimeTargetMinutes 1 :=
      max_eq_left (le_max_right _ _)
    rw [← hdone] at hnot
    obtain ⟨stop, hstop⟩ : ∃ stop,
        (campaignPass (normalizeRetryPolicy settings) outcomes s).1.stopDecision = some stop :=
      exists_stop_of_done hready hnot
    rw [hstop] at hiff
    exact absurd (hiff.2 rfl) (cons_ne_nil _ _)
  · intro before run after hruns hcheats
    obtain ⟨s, hs, rfl, -⟩ := exists_pass_of_runs hruns
    exact of_passCheats hs hcheats
  · intro hallow other hother hreason
    obtain rfl := Option.some.inj (hcampaign.symm.trans hother)
    obtain ⟨s, hs, rfl, -⟩ := exists_pass_of_runs hruns
    rcases cheats_or_budget_of_stop hstop hallow hreason with hcheats | hused
    · exact .inl ⟨_, by rw [hruns, getLast?_concat], hcheats⟩
    · rw [hs.index] at hused
      rw [hruns, length_append, length_singleton] at hlength ⊢
      exact .inr (by omega)

end HighBar.Client
