import HighBar.Grpc.OrderStateTracker
import HighBar.Grpc.SubmitCommands
import HighBar.Module.CoordinatorDispatch
import HighBar.Module.GatewayEmission

/-!
# The order of batches at a unit

The gateway records in its `OrderStateTracker` which batch a unit was last given a command of. Here
the tracker runs beside the gateway: `UnitIdle` and the three hooks that remove a unit mark it, and
so does each command that `DispatchCommand` applied. Batches come in by two ways, through any number
of `SubmitCommands` streams one after the other and through the coordinator's reader.

`CheckAcceptedBatch` would refuse a batch whose number is not above the recorded one, but **nothing
calls it**. A stream compares a number with those of the same stream, and the coordinator's reader
compares it with nothing. So a unit may be given an older number after a newer one.

What holds is that the queue keeps its order: commands are applied in the order in which they were
admitted. So the recorded numbers never decrease in the runs in which each batch, **when it is
admitted**, is no older than what is recorded for its unit or waits for it (`AdmitsInOrder`).
-/

namespace HighBar.Module

open Grpc List Option

/-- `CommandKind`. -/
def commandKind : AICommand → String
  | .attack .. => "attack"
  | .buildUnit .. => "build_unit"
  | .moveUnit .. => "move_unit"
  | .patrol .. => "patrol"
  | .fight .. => "fight"
  | .stop .. => "stop"
  | _ => "other"

/-- What a hook does to the tracker. -/
def Hook.mark (frame : ℕ) (tracker : OrderStateTracker) : Hook → OrderStateTracker
  | .unitIdle (some unit) => tracker.markIdle (ofSigned 32 unit) frame
  | .unitDestroyed (some unit) _ | .unitGiven (some unit) _ _ | .unitCaptured (some unit) _ _ =>
    tracker.markUnitRemoved (ofSigned 32 unit) frame
  | _ => tracker

/-- The unit a queued command is for; none for a game-wide one. -/
def unitOf (entry : QueuedCommand) : Option ℕ :=
  (effectiveDispatchTargetUnitId entry.authoritativeTargetUnitId entry.command).bind fun target ↦
    if 0 < target then some target.toNat else none

/-! ### What waits at the gateway -/

/-- The steps that fill the queue. -/
def GatewayLabel.isSubmit : GatewayLabel → Bool
  | .submit _ => true
  | _ => false

namespace Gateway

variable {g h : Gateway}

/-- The commands admitted and not yet handled, oldest first. -/
def waiting (g : Gateway) : List QueuedCommand := g.phase.batch ++ g.queue.queue

theorem SameWork.waiting_eq (hsame : g.SameWork h) : h.waiting = g.waiting := by
  rw [hsame]
  rfl

/-- An emission leaves the waiting commands alone. -/
theorem waiting_emit {body : UpdateBody} {fault : Option EmitFault} :
    (g.emit body fault).waiting = g.waiting := sameWork_emit.waiting_eq

theorem waiting_transitionToDisabled : g.transitionToDisabled.waiting = g.waiting :=
  sameWork_transitionToDisabled.waiting_eq

theorem queue_transitionToDisabled : g.transitionToDisabled.queue = g.queue := by
  rw [sameWork_transitionToDisabled]

/-- A place of the tick that holds no batch may be exchanged for another. -/
theorem waiting_of_phase {phase : TickPhase} (hphase : g.phase = phase) (hbatch : phase.batch = [])
    (hqueue : h.queue = g.queue) (hnext : h.phase.batch = []) : h.waiting = g.waiting := by
  rw [waiting, waiting, hqueue, hphase, hbatch, hnext]

/-- A handled command leaves, and after an exception so does the rest of its batch. -/
theorem waiting_dispatchNext {outcome : Outcome Bool} (hstep : Steps g (.dispatchNext outcome) h) :
    ∃ entry rest, g.phase = .dispatching (entry :: rest) ∧
      g.waiting = entry :: (rest ++ g.queue.queue) ∧
      h.waiting.Sublist (rest ++ g.queue.queue) := by
  cases hstep with
  | dispatchNext hphase =>
    exact ⟨_, _, hphase, by rw [waiting, hphase]; rfl, List.Sublist.refl _⟩
  | @dispatchThrew entry rest _ hphase =>
    refine ⟨entry, rest, hphase, by rw [waiting, hphase]; rfl, ?_⟩
    show ([] ++ (g.handled entry outcome).transitionToDisabled.queue.queue).Sublist _
    rw [queue_transitionToDisabled]
    exact sublist_append_right _ _

/-- **A step that is not a submission lets nothing in and keeps the order of what waits.** -/
theorem waiting_step {label : GatewayLabel} (hsubmit : label.isSubmit = false)
    (hstep : Steps g label h) : h.waiting.Sublist g.waiting := by
  have hsame : h.waiting = g.waiting → h.waiting.Sublist g.waiting :=
    fun heq ↦ heq ▸ List.Sublist.refl _
  cases hstep with
  | submit => exact absurd hsubmit Bool.noConfusion
  | hookBefore | hookAfter | staysOutside => exact hsame waiting_transitionToDisabled
  | hookEmits => exact hsame waiting_emit
  | beginTick hphase | prologue hphase | noInitialSnapshot hphase | heartbeat hphase
  | endAdmin hphase | endDrain hphase | noSnapshot hphase | noEconomy hphase | economy hphase
  | noUpdate hphase => exact hsame (waiting_of_phase hphase rfl rfl rfl)
  | prologueThrew hphase | heartbeatThrew hphase | applyThrew hphase =>
    exact hsame (waiting_of_phase hphase rfl queue_transitionToDisabled rfl)
  | initialSnapshot hphase =>
    refine hsame (waiting_of_phase hphase rfl ?_ rfl)
    show (Gateway.emit ..).queue = g.queue
    rw [sameWork_emit]
    rfl
  | drain hphase hempty =>
    -- `Drain` moves what waits from the queue to the batch
    refine hsame ?_
    show g.queue.queue ++ _ = g.phase.batch ++ g.queue.queue
    rw [hempty, hphase, append_nil]
    rfl
  | dispatchNext hphase hreturned =>
    obtain ⟨entry, rest, -, hwaiting, hleft⟩ :=
      waiting_dispatchNext (.dispatchNext hphase hreturned)
    rw [hwaiting]
    exact hleft.trans (sublist_cons_self _ _)
  | dispatchThrew hphase hthrew =>
    obtain ⟨entry, rest, -, hwaiting, hleft⟩ := waiting_dispatchNext (.dispatchThrew hphase hthrew)
    rw [hwaiting]
    exact hleft.trans (sublist_cons_self _ _)
  | pump hphase => exact hsame (waiting_emit.trans (waiting_of_phase hphase rfl rfl rfl))
  | economyBefore hphase | economyAfter hphase =>
    exact hsame (waiting_transitionToDisabled.trans (waiting_of_phase hphase rfl rfl rfl))
  | @flush hphase _ events =>
    have hidle : ({ g with phase := .idle, events := events } : Gateway).waiting = g.waiting :=
      waiting_of_phase hphase rfl rfl rfl
    refine hsame (Eq.trans ?_ hidle)
    exact waiting_emit (g := { g with phase := .idle, events := events })
  | _ => exact List.Sublist.refl _

end Gateway

/-! ### The gateway and its tracker -/

/-- The gateway with its tracker and the stream that has the AI slot. -/
structure OrderedGateway where
  gateway : Gateway
  /-- `order_state_tracker_`. -/
  tracker : OrderStateTracker
  /-- The rejection counters, `none` when `counters_` is null. -/
  counters : Option SubmissionCounters
  /-- The `SubmitCommands` call, open or finished. -/
  stream : Option SubmitCommandsCall
  /-- Unit and batch number of every command applied so far, oldest first. -/
  applied : List (ℕ × ℕ)

/-- One step. -/
inductive OrderedLabel where
  /-- A step of the gateway that is not a submission. Where it throws, `marked` says whether the
  tracker had been written before that. -/
  | gateway (label : GatewayLabel) (marked : Bool)
  /-- A new `SubmitCommands` call has the AI slot. -/
  | openStream (sessionId : String)
  /-- `HandleReadDone`, with what the validator sees at that time. -/
  | readDone (env : ValidatorEnv) (incoming : Option CommandBatch)
  /-- The coordinator's reader has a batch. -/
  | admitBatch (batch : CommandBatch) (sessionId : String)

namespace OrderedGateway

/-- The tracker is written for a command that was applied. -/
def markApplied (s : OrderedGateway) (entry : QueuedCommand) : OrderedGateway :=
  match s.gateway.resolve entry with
  | .skip .. => s
  | .dispatch target =>
    if 0 < target then
      { s with
        tracker := s.tracker.markAccepted target.toNat entry.batchSeq entry.clientCommandId
          s.gateway.currentFrame (commandKind entry.command)
        applied := s.applied ++ [(target.toNat, entry.batchSeq)] }
    else s

/-- What a step of the gateway does to the tracker. -/
def mark (s : OrderedGateway) (marked : Bool) : GatewayLabel → OrderedGateway
  | .hook hook fault _ =>
    if s.gateway.state = .healthy ∧ (fault ≠ some .beforeEvent ∨ marked = true) then
      { s with tracker := hook.mark s.gateway.currentFrame s.tracker }
    else s
  | .dispatchNext outcome =>
    match s.gateway.phase.batch with
    | [] => s
    | entry :: _ =>
      if outcome = .returned true ∨ (outcome = .threw ∧ marked = true) then s.markApplied entry
      else s
  | _ => s

/-- Put another queue in place. -/
def setQueue (s : OrderedGateway) (queue : CommandQueue) : OrderedGateway :=
  { s with gateway := { s.gateway with queue := queue } }

/-- One step. -/
def step (settings : CommandValidationSettings) (s : OrderedGateway) :
    OrderedLabel → Option OrderedGateway
  | .gateway label marked =>
    if label.isSubmit then none
    else (s.gateway.step label).map fun g ↦ { s.mark marked label with gateway := g }
  | .openStream sessionId =>
    if ∀ call ∈ s.stream, call.finish ≠ none then
      some { s with stream := some { sessionId := sessionId } }
    else none
  | .readDone env incoming =>
    match s.stream with
    | none => none
    | some call =>
      if call.finish = none then
        let done := SubmitCommandsCall.handleReadDone env settings call
          ⟨s.gateway.queue, s.counters⟩ incoming
        some { s.setQueue done.2.queue with counters := done.2.counters, stream := some done.1 }
      else none
  | .admitBatch batch sessionId =>
    some (s.setQueue (admitCommandBatch s.gateway.queue batch sessionId).2)

/-- The gateway as it is built, with no stream yet. -/
def machine (config : GatewayConfig) (settings : CommandValidationSettings)
    (counters : Option SubmissionCounters) : StepMachine OrderedGateway OrderedLabel where
  init :=
    { gateway := Gateway.create config
      tracker := OrderStateTracker.empty
      counters := counters
      stream := none
      applied := [] }
  step := step settings

/-! ### The condition -/

/-- The later of two commands for one unit does not have the smaller number. -/
def KeepsOrder (a b : QueuedCommand) : Prop :=
  ∀ u ∈ unitOf a, unitOf b = some u → a.batchSeq ≤ b.batchSeq

instance (a b : QueuedCommand) : Decidable (KeepsOrder a b) :=
  inferInstanceAs (Decidable (∀ u ∈ unitOf a, _ → _))

/-- The commands are no older than what is recorded for their unit or waits for it. -/
def Newest (s : OrderedGateway) (cmds : List QueuedCommand) : Prop :=
  ∀ cmd ∈ cmds, (∀ u ∈ unitOf cmd, s.tracker.lastBatchSeq u ≤ cmd.batchSeq) ∧
    ∀ entry ∈ s.gateway.waiting, KeepsOrder entry cmd

instance (s : OrderedGateway) (cmds : List QueuedCommand) : Decidable (s.Newest cmds) :=
  inferInstanceAs (Decidable (∀ cmd ∈ cmds, (∀ u ∈ unitOf cmd, _) ∧ ∀ entry ∈ _, _))

/-- The checks of `HandleReadDone`. -/
def PassesStream (settings : CommandValidationSettings) (env : ValidatorEnv)
    (call : SubmitCommandsCall) (queue : CommandQueue) (batch : CommandBatch) : Prop :=
  call.lastSeenBatchSeq < batch.batchSeq ∧ (validateBatch env settings batch).ok = true ∧
    batch.commands.length ≤ queue.capacity - queue.depth

instance (settings : CommandValidationSettings) (env : ValidatorEnv) (call : SubmitCommandsCall)
    (queue : CommandQueue) (batch : CommandBatch) :
    Decidable (PassesStream settings env call queue batch) :=
  inferInstanceAs (Decidable (_ ∧ _ ∧ _))

/-- **The condition on a step**: a batch that is admitted is no older than what its units have. -/
def AdmitsInOrder (settings : CommandValidationSettings) (s : OrderedGateway) :
    OrderedLabel → Prop
  | .readDone env (some batch) => ∀ call ∈ s.stream,
    PassesStream settings env call s.gateway.queue batch →
      s.Newest (queuedCommands call.sessionId batch)
  | .admitBatch batch sessionId =>
    PassesAdmission s.gateway.queue batch → s.Newest (queuedCommands sessionId batch)
  | .readDone _ none | .gateway .. | .openStream _ => True

instance (settings : CommandValidationSettings) (s : OrderedGateway) :
    ∀ label, Decidable (s.AdmitsInOrder settings label)
  | .readDone _ (some _) => inferInstanceAs (Decidable (∀ call ∈ s.stream, _ → _))
  | .admitBatch .. => inferInstanceAs (Decidable (_ → _))
  | .readDone _ none | .gateway .. | .openStream _ => inferInstanceAs (Decidable True)

/-! ### What a step does to the record -/

variable {settings : CommandValidationSettings} {s t : OrderedGateway} {label : OrderedLabel}

/-- Hooks leave the recorded numbers alone. -/
theorem lastBatchSeq_mark_hook (hook : Hook) (frame : ℕ) (tracker : OrderStateTracker) (u : ℕ) :
    (hook.mark frame tracker).lastBatchSeq u = tracker.lastBatchSeq u := by
  unfold Hook.mark
  split
  · exact tracker.lastBatchSeq_markIdle _ _ u
  · exact tracker.lastBatchSeq_markUnitRemoved _ _ u
  · exact tracker.lastBatchSeq_markUnitRemoved _ _ u
  · exact tracker.lastBatchSeq_markUnitRemoved _ _ u
  · rfl

/-- A command is dispatched only to the unit it is for. -/
theorem unitOf_of_resolve {g : Gateway} {entry : QueuedCommand} {target : ℤ}
    (hresolve : g.resolve entry = .dispatch target) (hpos : 0 < target) :
    unitOf entry = some target.toNat := by
  rw [unitOf, Gateway.effectiveDispatchTargetUnitId_of_resolve hresolve, bind_some,
    if_pos hpos]

/-- **What a gateway step does to the record**: nothing, or it applies the command at the head of
what waits, and the number of that command becomes the recorded one of its unit. -/
inductive Records (s : OrderedGateway) (t : OrderedGateway) : Prop
  | nothing (hlast : ∀ u, t.tracker.lastBatchSeq u = s.tracker.lastBatchSeq u)
      (happlied : t.applied = s.applied)
  | applies (entry : QueuedCommand) (rest : List QueuedCommand) (u : ℕ)
      (hwaiting : s.gateway.waiting = entry :: rest) (hleft : t.gateway.waiting.Sublist rest)
      (hunit : unitOf entry = some u)
      (hlast : ∀ v, t.tracker.lastBatchSeq v =
        if v = u then entry.batchSeq else s.tracker.lastBatchSeq v)
      (happlied : t.applied = s.applied ++ [(u, entry.batchSeq)])

/-- What a step of the gateway records. -/
theorem records_of_step {g : Gateway} {glabel : GatewayLabel} {marked : Bool}
    (hstep : Gateway.Steps s.gateway glabel g) :
    s.Records { s.mark marked glabel with gateway := g } := by
  have hidle : s.mark marked glabel = s → s.Records { s.mark marked glabel with gateway := g } :=
    fun heq ↦ .nothing (fun u ↦ by rw [heq]) (by rw [heq])
  cases glabel with
  | hook hook fault =>
    rw [mark] at hidle ⊢
    split_ifs at hidle ⊢
    · exact .nothing (lastBatchSeq_mark_hook hook _ _) rfl
    · exact hidle rfl
  | dispatchNext outcome =>
    obtain ⟨entry, rest, hphase, hwaiting, hleft⟩ := Gateway.waiting_dispatchNext hstep
    have hmark : s.mark marked (.dispatchNext outcome) =
        if outcome = .returned true ∨ (outcome = .threw ∧ marked = true) then s.markApplied entry
        else s := by
      simp only [mark, hphase, TickPhase.batch]
    rw [hmark] at hidle ⊢
    split_ifs at hidle ⊢ with houtcome
    · rw [markApplied] at hidle ⊢
      rcases hresolve : s.gateway.resolve entry with ⟨status, issue⟩ | target
      · rw [hresolve] at hidle
        exact hidle rfl
      rw [hresolve] at hidle
      dsimp only at hidle ⊢
      split_ifs at hidle ⊢ with hpos
      · exact .applies entry _ target.toNat hwaiting hleft (unitOf_of_resolve hresolve hpos)
          (s.tracker.lastBatchSeq_markAccepted _ _ _ _ _) rfl
      · exact hidle rfl
    · exact hidle rfl
  | _ => exact hidle rfl

/-! ### The invariant -/

/-- What waits is in order and no older than what is recorded, and so was everything applied. -/
structure InOrder (s : OrderedGateway) : Prop where
  waiting : s.gateway.waiting.Pairwise KeepsOrder
  recorded : ∀ entry ∈ s.gateway.waiting, ∀ u ∈ unitOf entry,
    s.tracker.lastBatchSeq u ≤ entry.batchSeq
  applied : s.applied.Pairwise fun a b ↦ a.1 = b.1 → a.2 ≤ b.2
  le_recorded : ∀ a ∈ s.applied, a.2 ≤ s.tracker.lastBatchSeq a.1

/-- The recorded numbers have not gone down. -/
def NotBelow (s t : OrderedGateway) : Prop :=
  ∀ u, s.tracker.lastBatchSeq u ≤ t.tracker.lastBatchSeq u

/-- A gateway step. -/
theorem InOrder.records (hs : s.InOrder) (hrecords : s.Records t)
    (hwaiting : t.gateway.waiting.Sublist s.gateway.waiting) : t.InOrder ∧ s.NotBelow t := by
  rcases hrecords with ⟨hlast, happlied⟩ | ⟨entry, rest, u, hwait, hleft, hunit, hlast, happlied⟩
  · refine ⟨⟨hs.waiting.sublist hwaiting, fun entry hentry u hu ↦ ?_, happlied ▸ hs.applied, ?_⟩,
      fun u ↦ (hlast u).ge⟩
    · rw [hlast u]
      exact hs.recorded entry (hwaiting.subset hentry) u hu
    · intro a ha
      rw [happlied] at ha
      rw [hlast]
      exact hs.le_recorded a ha
  -- the command at the head is no older than what is recorded, and what follows is no older than it
  have hhead : s.tracker.lastBatchSeq u ≤ entry.batchSeq :=
    hs.recorded entry (by rw [hwait]; exact mem_cons_self) u hunit
  have hpairs := hs.waiting
  rw [hwait] at hpairs
  obtain ⟨hafter, hrest⟩ := pairwise_cons.1 hpairs
  have hbelow : s.NotBelow t := by
    intro v
    rw [hlast v]
    split_ifs with hv
    · rw [hv]
      exact hhead
    · exact Nat.le_refl _
  refine ⟨⟨hrest.sublist hleft, fun other hother v hv ↦ ?_, ?_, fun a ha ↦ ?_⟩, hbelow⟩
  · rw [hlast v]
    split_ifs with hvu
    · rw [hvu] at hv
      exact hafter other (hleft.subset hother) u hunit hv
    · refine hs.recorded other ?_ v hv
      rw [hwait]
      exact mem_cons_of_mem _ (hleft.subset hother)
  · rw [happlied]
    refine pairwise_append.2 ⟨hs.applied, pairwise_singleton _ _, ?_⟩
    intro a ha b hb hab
    obtain rfl := mem_singleton.1 hb
    have hle := hs.le_recorded a ha
    rw [hab] at hle
    exact hle.trans hhead
  · rw [happlied] at ha
    rcases mem_append.1 ha with hold | hnew
    · exact (hs.le_recorded a hold).trans (hbelow a.1)
    · obtain rfl := mem_singleton.1 hnew
      rw [hlast, if_pos rfl]

/-- A batch that is admitted. -/
theorem InOrder.setQueue (hs : s.InOrder) {queue : CommandQueue} {cmds : List QueuedCommand}
    {seq : ℕ} (hqueue : queue.queue = s.gateway.queue.queue ++ cmds) (hnewest : s.Newest cmds)
    (hseq : ∀ cmd ∈ cmds, cmd.batchSeq = seq) : (s.setQueue queue).InOrder := by
  have hwaiting : (s.setQueue queue).gateway.waiting = s.gateway.waiting ++ cmds := by
    show s.gateway.phase.batch ++ queue.queue = s.gateway.phase.batch ++ _ ++ cmds
    rw [hqueue, append_assoc]
  refine ⟨?_, ?_, hs.applied, hs.le_recorded⟩
  · rw [hwaiting]
    refine pairwise_append.2 ⟨hs.waiting, ?_, fun entry hentry cmd hcmd ↦ ?_⟩
    · -- the commands of one batch have one number
      refine pairwise_of_forall_mem_list fun a ha b hb u _ _ ↦ ?_
      rw [hseq a ha, hseq b hb]
    · exact (hnewest cmd hcmd).2 entry hentry
  · rw [hwaiting]
    exact forall_mem_append.2 ⟨hs.recorded, fun entry hnew ↦ (hnewest entry hnew).1⟩

/-- Only the gateway, the tracker and what was applied matter to the invariant. -/
theorem InOrder.congr (hs : s.InOrder) (hgateway : t.gateway = s.gateway)
    (htracker : t.tracker = s.tracker) (happlied : t.applied = s.applied) : t.InOrder := by
  refine ⟨hgateway ▸ hs.waiting, ?_, happlied ▸ hs.applied, ?_⟩
  · rw [hgateway, htracker]
    exact hs.recorded
  · rw [happlied, htracker]
    exact hs.le_recorded

/-- What a read does to the queue. -/
theorem queue_handleReadDone_some (settings : CommandValidationSettings) (env : ValidatorEnv)
    (call : SubmitCommandsCall) (svc : SubmissionService) (batch : CommandBatch) :
    (SubmitCommandsCall.handleReadDone env settings call svc (some batch)).2.queue = svc.queue ∨
      PassesStream settings env call svc.queue batch ∧
      (SubmitCommandsCall.handleReadDone env settings call svc (some batch)).2.queue.queue =
        svc.queue.queue ++ queuedCommands call.sessionId batch := by
  rcases SubmitCommandsCall.handleReadDone_some env settings call svc batch with
    ⟨hvalid, hseq, -, hqueue⟩ | ⟨hsame, -⟩
  swap
  · exact Or.inl hsame
  by_cases hroom : batch.commands.length ≤ svc.queue.capacity - svc.queue.depth
  · exact Or.inr ⟨⟨hseq, hvalid, hroom⟩, hqueue⟩
  · -- without room the push is refused
    have hfull : svc.queue.tryPushBatch (queuedCommands call.sessionId batch) =
        (false, svc.queue) := by
      rw [CommandQueue.tryPushBatch]
      refine dif_pos ?_
      rw [CommandQueue.availableCapacity_eq, length_queuedCommands]
      exact Nat.lt_of_not_le hroom
    refine Or.inl ?_
    simp only [SubmitCommandsCall.handleReadDone, hfull, if_neg (Nat.not_le.2 hseq), hvalid]
    rfl

theorem batchSeq_queuedCommands {sessionId : String} {batch : CommandBatch} :
    ∀ cmd ∈ queuedCommands sessionId batch, cmd.batchSeq = batch.batchSeq :=
  fun _ hcmd ↦ (provenance_of_mem_queuedCommands hcmd).2.1

/-- **One step**: the order is kept, and no recorded number goes down. -/
theorem InOrder.step (hs : s.InOrder) (hadmits : AdmitsInOrder settings s label)
    (hstep : OrderedGateway.step settings s label = some t) : t.InOrder ∧ s.NotBelow t := by
  cases label with
  | gateway glabel marked =>
    obtain ⟨hsubmit, hmap⟩ := ite_none_left_eq_some.1 hstep
    obtain ⟨g, hg, rfl⟩ := map_eq_some_iff.1 hmap
    have hg := Gateway.steps_of_step hg
    exact hs.records (records_of_step hg) (Gateway.waiting_step (Bool.eq_false_iff.2 hsubmit) hg)
  | openStream sessionId =>
    obtain ⟨-, hsome⟩ := ite_none_right_eq_some.1 hstep
    cases hsome
    exact ⟨hs.congr rfl rfl rfl, fun _ ↦ Nat.le_refl _⟩
  | readDone env incoming =>
    rcases hstream : s.stream with - | call
    · simp only [OrderedGateway.step, hstream] at hstep
      cases hstep
    simp only [OrderedGateway.step, hstream] at hstep
    obtain ⟨-, hsome⟩ := ite_none_right_eq_some.1 hstep
    cases hsome
    refine ⟨?_, fun _ ↦ Nat.le_refl _⟩
    rcases incoming with - | batch
    · exact hs.congr rfl rfl rfl
    rcases queue_handleReadDone_some settings env call
        ⟨s.gateway.queue, s.counters⟩ batch with hsame | ⟨hpasses, hqueue⟩
    · refine hs.congr ?_ rfl rfl
      show ({ s.gateway with queue := _ } : Gateway) = s.gateway
      rw [hsame]
    · have hset := hs.setQueue hqueue (hadmits call hstream hpasses) batchSeq_queuedCommands
      exact hset.congr rfl rfl rfl
  | admitBatch batch sessionId =>
    cases hstep
    refine ⟨?_, fun _ ↦ Nat.le_refl _⟩
    by_cases hok : (admitCommandBatch s.gateway.queue batch sessionId).1.status = .kAccepted
    · have hpasses := (admitCommandBatch_accepted_iff _ _ _).1 hok
      rcases ProducerCall.run_spec s.gateway.queue (.admitCommandBatch batch sessionId) with
        hrefused | ⟨-, hqueue, -⟩
      · have hfalse := congrArg Prod.fst hrefused
        exact absurd hok (of_decide_eq_false hfalse)
      · exact hs.setQueue hqueue (hadmits hpasses) batchSeq_queuedCommands
    · refine hs.congr ?_ rfl rfl
      show ({ s.gateway with queue := _ } : Gateway) = s.gateway
      rw [admitCommandBatch_rejected hok]

theorem inOrder_init (config : GatewayConfig) (settings : CommandValidationSettings)
    (counters : Option SubmissionCounters) : (machine config settings counters).init.InOrder where
  waiting := List.Pairwise.nil
  recorded := fun _ hentry ↦ absurd hentry not_mem_nil
  applied := List.Pairwise.nil
  le_recorded := fun _ ha ↦ absurd ha not_mem_nil

/-! ### Whole runs -/

/-- **The recorded numbers never decrease** in a run in which every batch is admitted in order: not
between any two of its states, and no command is applied to a unit below one applied before it. -/
theorem record_monotone (config : GatewayConfig) (settings : CommandValidationSettings)
    (counters : Option SubmissionCounters) (before after : List OrderedLabel)
    (hmeets : (machine config settings counters).Meets (AdmitsInOrder settings)
      (machine config settings counters).init (before ++ after))
    (hbefore : (machine config settings counters).exec
      (machine config settings counters).init before = some s)
    (hafter : (machine config settings counters).exec s after = some t) :
    (∀ u, s.tracker.lastBatchSeq u ≤ t.tracker.lastBatchSeq u) ∧
      t.applied.Pairwise fun a b ↦ a.1 = b.1 → a.2 ≤ b.2 := by
  obtain ⟨hfirst, hsecond⟩ := StepMachine.meets_append.1 hmeets
  have hs : s.InOrder := StepMachine.invariant_of_meets
    (fun _ _ _ hs hadmits hstep ↦ (hs.step hadmits hstep).1)
    (inOrder_init config settings counters) hfirst hbefore
  have ht : t.InOrder ∧ s.NotBelow t := by
    refine StepMachine.invariant_of_meets (I := fun t ↦ t.InOrder ∧ s.NotBelow t) ?_
      ⟨hs, fun _ ↦ Nat.le_refl _⟩ (hsecond s hbefore) hafter
    rintro x a y ⟨hx, hbelow⟩ hadmits hstep
    obtain ⟨hy, hnext⟩ := hx.step hadmits hstep
    exact ⟨hy, fun u ↦ (hbelow u).trans (hnext u)⟩
  exact ⟨ht.2, ht.1.applied⟩

/-- A batch with one order for unit 7. -/
def stopBatch (batchSeq : ℕ) : CommandBatch :=
  ⟨batchSeq, 7, [.stop ⟨7, 0, 0, 0⟩], some 1, none, none⟩

/-- What the validator sees: unit 7 is alive. -/
def unitSevenEnv : ValidatorEnv where
  ai := some
    { teamUnitIsDead := fun id ↦ if id = 7 then some false else none
      hasCircuitDef := fun _ ↦ false }
  maxXPos := .zero
  maxZPos := .zero
  showFloat := fun _ ↦ ""

/-- A stream that sends one such batch and ends. -/
def shortStream (batchSeq : ℕ) : List OrderedLabel :=
  [.openStream "ai", .readDone unitSevenEnv (some (stopBatch batchSeq)),
    .readDone unitSevenEnv none]

/-- A tick up to its drain, with unit 7 alive. -/
def drainedTick : List OrderedLabel :=
  (.units [⟨7, some false⟩] :: Gateway.tickToDrain 0 none).map fun label ↦ .gateway label false

/-- A command of the batch is applied. -/
def applyNext : OrderedLabel := .gateway (.dispatchNext (.returned true)) false

/-- Two streams and the coordinator, each with a newer batch; the first command is applied. -/
def newerStreams : List OrderedLabel :=
  shortStream 1 ++ shortStream 2 ++ .admitBatch (stopBatch 3) "ch" :: drainedTick ++ [applyNext]

theorem record_monotone_newerStreams :
    ∃ s t, (machine Gateway.standalone {} none).exec (machine Gateway.standalone {} none).init
        newerStreams = some s ∧
      (machine Gateway.standalone {} none).exec s [applyNext, applyNext] = some t ∧
      s.tracker.lastBatchSeq 7 = 1 ∧ t.tracker.lastBatchSeq 7 = 3 ∧
      ∀ u, s.tracker.lastBatchSeq u ≤ t.tracker.lastBatchSeq u :=
  ⟨_, _, rfl, rfl, by decide, by decide, (record_monotone Gateway.standalone {} none newerStreams
    [applyNext, applyNext] (by decide) rfl rfl).1⟩

/-- **A second stream starts again at one**: unit 7 has been given batch 10, and is given batch 1
next. -/
theorem record_decreases :
    ∃ s t, (machine Gateway.standalone {} none).exec (machine Gateway.standalone {} none).init
        (shortStream 10 ++ shortStream 1 ++ drainedTick ++ [applyNext]) = some s ∧
      (machine Gateway.standalone {} none).exec s [applyNext] = some t ∧
      s.tracker.lastBatchSeq 7 = 10 ∧ t.tracker.lastBatchSeq 7 = 1 ∧
      t.applied = [(7, 10), (7, 1)] :=
  ⟨_, _, rfl, rfl, by decide, by decide, by decide⟩

end OrderedGateway

end HighBar.Module
