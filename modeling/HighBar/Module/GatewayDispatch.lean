import HighBar.Module.GatewayEmission
import Mathlib.Data.List.Forall2

/-!
# Every drained command is accounted for

A command that `DrainCommandQueue` takes from the queue should yield **exactly one** dispatch event
in the published deltas, in drain order, with the command's own identifiers and a status that says
what became of it. The loop appends the event before it knows the outcome, the accumulator is shared
with every hook, and only the end of the tick moves it out; so the accounting is over whole runs,
and reads the log:

* what was drained is what was handled, followed by the rest of the current batch;
* what was handled corresponds, one to one and in order, to the dispatch events published so far
  followed by those in the accumulator (`Accounts`);
* between ticks the accumulator holds none.

`accounts_for_drained` shows this for every healthy run in which a game-wide command always finds a
unit to serve as its context (`ContextReady`). Without one it is skipped as not ready, **with no
issue**.
-/

namespace HighBar.Module

open Grpc List

/-! ### Reading the log -/

namespace GatewayEvent

/-- The commands an event of the log drained. -/
def drainedCommands : GatewayEvent → List QueuedCommand
  | .drained batch => batch
  | _ => []

/-- The command an event of the log handled, with what `DispatchCommand` came back with. -/
def handled? : GatewayEvent → Option (QueuedCommand × Option (Outcome Bool))
  | .handled entry outcome => some (entry, outcome)
  | _ => none

/-- The dispatch events an event of the log published. -/
def publishedDispatches : GatewayEvent → List CommandDispatchEvent
  | .published update => update.body.events.filterMap DeltaEvent.dispatch?
  | _ => []

end GatewayEvent

/-- The event reports the command: its identifiers, a status that says whether it was applied, and
an issue if it was not. -/
structure Accounts (handled : QueuedCommand × Option (Outcome Bool))
    (event : CommandDispatchEvent) : Prop where
  batchSeq : event.batchSeq = handled.1.batchSeq
  clientCommandId : event.clientCommandId = handled.1.clientCommandId
  commandIndex : event.commandIndex = handled.1.commandIndex
  status_ne : event.status ≠ .unspecified
  applied_iff : event.status = .applied ↔ handled.2 = some (.returned true)
  exists_issue : event.status ≠ .applied → ∃ issue ∈ event.issue, issue.code ≠ .unspecified

namespace Gateway

variable {g h : Gateway} {body : UpdateBody} {fault : Option EmitFault}

/-- The commands drained so far. -/
def drainedCommands (g : Gateway) : List QueuedCommand :=
  g.log.flatMap GatewayEvent.drainedCommands

/-- The commands handled so far. -/
def handledCommands (g : Gateway) : List (QueuedCommand × Option (Outcome Bool)) :=
  g.log.filterMap GatewayEvent.handled?

/-- The dispatch events published so far. -/
def publishedDispatches (g : Gateway) : List CommandDispatchEvent :=
  g.log.flatMap GatewayEvent.publishedDispatches

/-- The dispatch events that wait for the end of the tick. -/
def pendingDispatches (g : Gateway) : List CommandDispatchEvent :=
  g.events.filterMap DeltaEvent.dispatch?

/-! ### The report of one command -/

/-- A command for no unit in particular finds one, the first of the team, to be its context. -/
def HasContext (g : Gateway) (entry : QueuedCommand) : Prop :=
  ∀ target ∈ effectiveDispatchTargetUnitId entry.authoritativeTargetUnitId entry.command,
    0 < target ∨ ∃ unit ∈ g.teamUnits.head?, unit.isDead ≠ none

instance (g : Gateway) (entry : QueuedCommand) : Decidable (g.HasContext entry) :=
  inferInstanceAs (Decidable (∀ target ∈ effectiveDispatchTargetUnitId _ _, _ ∨ _))

/-- The condition on a step: the command it handles has a context. -/
def ContextReady (g : Gateway) : GatewayLabel → Prop
  | .dispatchNext _ => ∀ entry ∈ g.phase.batch.head?, g.HasContext entry
  | _ => True

instance (g : Gateway) : ∀ label, Decidable (g.ContextReady label)
  | .dispatchNext _ => inferInstanceAs (Decidable (∀ entry ∈ g.phase.batch.head?, _))
  | .units _ | .hook .. | .beginTick _ | .prologue _ | .initialSnapshot _ | .heartbeat _ | .admin _
  | .applyEntry _ | .endAdmin | .drain | .endDrain | .pump _ | .economy .. | .flush _
  | .requestDisable | .requestSnapshot | .submit _ => inferInstanceAs (Decidable True)

variable {entry : QueuedCommand} {outcome : Outcome Bool}

/-- A command that has a context is skipped with a status of its own and with an issue. -/
theorem resolve_skip {status : CommandDispatchStatus} {issue : Option CommandIssue}
    (hready : g.HasContext entry) (hskip : g.resolve entry = .skip status issue) :
    status ≠ .unspecified ∧ status ≠ .applied ∧ ∃ i ∈ issue, i.code ≠ .unspecified := by
  simp only [resolve] at hskip
  split at hskip
  · cases hskip
    exact ⟨nofun, nofun, _, rfl, nofun⟩
  rename_i target htarget
  by_cases hpos : 0 < target
  · rw [if_pos hpos] at hskip
    split at hskip
    · cases hskip
      exact ⟨nofun, nofun, _, rfl, nofun⟩
    · cases hskip
      exact ⟨nofun, nofun, _, rfl, nofun⟩
    · cases hskip
  · -- the context is there, so the command is not skipped
    obtain ⟨unit, hunit, hdead⟩ := (hready target htarget).resolve_left hpos
    obtain ⟨rest, hunits⟩ := head?_eq_some_iff.1 hunit
    obtain ⟨dead, hdead⟩ := Option.ne_none_iff_exists'.1 hdead
    simp only [if_neg hpos, hunits, hdead] at hskip
    cases hskip

/-- **The event a command leaves reports it**, unless its dispatch threw. -/
theorem accounts_finishedEvent (hready : g.HasContext entry)
    (hreturned : g.dispatchOutcome entry outcome ≠ some .threw) :
    Accounts (entry, g.dispatchOutcome entry outcome) (g.finishedEvent entry outcome) := by
  rcases hresolve : g.resolve entry with ⟨status, issue⟩ | target
  · obtain ⟨hstatus, hnot, hissue⟩ := resolve_skip hready hresolve
    simp only [dispatchOutcome, finishedEvent, hresolve]
    exact ⟨rfl, rfl, rfl, hstatus, ⟨fun hc ↦ absurd hc hnot, nofun⟩, fun _ ↦ hissue⟩
  · simp only [dispatchOutcome, hresolve] at hreturned ⊢
    cases outcome with
    | threw => exact absurd rfl hreturned
    | returned ok =>
      simp only [finishedEvent, hresolve]
      cases ok with
      | true => exact ⟨rfl, rfl, rfl, nofun, ⟨fun _ ↦ rfl, fun _ ↦ rfl⟩, fun hc ↦ absurd rfl hc⟩
      | false => exact ⟨rfl, rfl, rfl, nofun, ⟨nofun, nofun⟩, fun _ ↦ ⟨_, rfl, nofun⟩⟩

/-! ### The accounting -/

/-- Every drained command is handled or waits in the batch, and every handled one is reported in a
published delta or waits in the accumulator. -/
structure Accounted (g : Gateway) : Prop where
  drained : g.drainedCommands = g.handledCommands.map Prod.fst ++ g.phase.batch
  reported : List.Forall₂ Accounts g.handledCommands (g.publishedDispatches ++ g.pendingDispatches)
  flushed : g.phase = .idle → g.pendingDispatches = []

/-- **What a step does to the accounting**: what it drains joins the batch, what it handles leaves
the batch and is reported, and what it publishes leaves the accumulator. -/
theorem Accounted.extend (hg : g.Accounted) (new : List GatewayEvent)
    (reports : List CommandDispatchEvent) (hlog : h.log = g.log ++ new)
    (hbatch : g.phase.batch ++ new.flatMap GatewayEvent.drainedCommands
      = (new.filterMap GatewayEvent.handled?).map Prod.fst ++ h.phase.batch)
    (hreports : List.Forall₂ Accounts (new.filterMap GatewayEvent.handled?) reports)
    (hpending : new.flatMap GatewayEvent.publishedDispatches ++ h.pendingDispatches
      = g.pendingDispatches ++ reports)
    (hidle : h.phase = .idle → h.pendingDispatches = []) : h.Accounted := by
  have hhandled : h.handledCommands
      = g.handledCommands ++ new.filterMap GatewayEvent.handled? := by
    rw [handledCommands, hlog, filterMap_append]
    rfl
  refine ⟨?_, ?_, hidle⟩
  · have hdrained : h.drainedCommands
        = g.drainedCommands ++ new.flatMap GatewayEvent.drainedCommands := by
      rw [drainedCommands, hlog, flatMap_append]
      rfl
    rw [hdrained, hg.drained, append_assoc, hbatch, hhandled, map_append,
      append_assoc]
  · have hpublished : h.publishedDispatches
        = g.publishedDispatches ++ new.flatMap GatewayEvent.publishedDispatches := by
      rw [publishedDispatches, hlog, flatMap_append]
      rfl
    rw [hhandled, hpublished, append_assoc, hpending, ← append_assoc]
    exact rel_append hg.reported hreports

/-- A step that leaves no trace in the log. -/
theorem Accounted.calm (hg : g.Accounted) (hlog : h.log = g.log)
    (hbatch : h.phase.batch = g.phase.batch) (hpending : h.pendingDispatches = g.pendingDispatches)
    (hidle : h.phase = .idle → h.pendingDispatches = []) : h.Accounted := by
  refine hg.extend [] [] ?_ ?_ .nil ?_ hidle
  · rw [hlog, append_nil]
  · rw [hbatch]
    exact append_nil _
  · rw [hpending]
    exact (append_nil _).symm

/-- A step that publishes an update: its dispatch events leave the accumulator. -/
theorem Accounted.publish {seq frame : ℕ} (hg : g.Accounted)
    (hlog : h.log = g.log ++ [.handed seq, .published ⟨seq, frame, body⟩])
    (hbatch : h.phase.batch = g.phase.batch)
    (hpending : body.events.filterMap DeltaEvent.dispatch? ++ h.pendingDispatches
      = g.pendingDispatches)
    (hidle : h.phase = .idle → h.pendingDispatches = []) : h.Accounted := by
  refine hg.extend _ [] hlog ?_ .nil ?_ hidle
  · rw [hbatch]
    exact append_nil _
  · rw [append_nil, ← hpending]
    exact congrArg (· ++ _) (append_nil _)

/-- The accounting of a healthy gateway. -/
def Accounting (g : Gateway) : Prop := g.state = .healthy → g.Accounted

theorem accounting_create (config : GatewayConfig) : (create config).Accounting :=
  fun _ ↦ ⟨rfl, .nil, fun _ ↦ rfl⟩

/-! ### The steps -/

/-- A hook adds no dispatch event. -/
theorem pendingDispatches_addEvent {event : DeltaEvent} (hevent : event.dispatch? = none) :
    (g.addEvent event).pendingDispatches = g.pendingDispatches := by
  show List.filterMap _ (g.events ++ [event]) = _
  rw [filterMap_append, filterMap_cons_none hevent, filterMap_nil, append_nil]
  rfl

/-- A snapshot leaves the accumulator alone. -/
theorem Accounted.snapshot {cadence frame : ℕ} (hg : g.Accounted)
    (hh : (g.emit (.snapshot cadence frame) fault).state = .healthy) :
    (g.emit (.snapshot cadence frame) fault).Accounted := by
  obtain ⟨-, -, seq, updateFrame, hlog⟩ := emit_of_healthy hh
  have hpending : (g.emit (.snapshot cadence frame) fault).pendingDispatches
      = g.pendingDispatches := by
    rw [pendingDispatches, sameWork_emit.events_eq]
    rfl
  refine hg.publish hlog (by rw [sameWork_emit.phase_eq]) hpending fun hidle ↦ ?_
  rw [hpending]
  exact hg.flushed (sameWork_emit.phase_eq.symm.trans hidle)

/-- The end of the tick publishes the accumulator. -/
theorem Accounted.flush {events : List DeltaEvent} (hg : g.Accounted) (hphase : g.phase = .flush)
    (hmoved : events = [] ∨ events = g.events ∧ fault ≠ none)
    (hh : (({ g with phase := .idle, events := events } : Gateway).emit g.closingBody
      fault).state = .healthy) :
    ({ ({ g with phase := .idle, events := events } : Gateway).emit g.closingBody fault with
      framesSinceLastFlush := 0 } : Gateway).Accounted := by
  obtain ⟨-, hfault, seq, frame, hlog⟩ := emit_of_healthy hh
  -- without a fault the events were moved out
  have hempty : events = [] := hmoved.resolve_right fun hc ↦ hc.2 hfault
  have hpending : ({ ({ g with phase := .idle, events := events } : Gateway).emit g.closingBody
      fault with framesSinceLastFlush := 0 } : Gateway).pendingDispatches = [] := by
    show List.filterMap _ (Gateway.emit _ g.closingBody fault).events = []
    rw [sameWork_emit.events_eq, hempty]
    rfl
  refine hg.publish hlog ?_ ?_ fun _ ↦ hpending
  · show (Gateway.emit _ g.closingBody fault).phase.batch = _
    rw [sameWork_emit.phase_eq, hphase]
    rfl
  · rw [hpending, events_closingBody]
    exact append_nil _

/-- **One step keeps the accounting**, if it stays healthy. -/
theorem Accounted.step {label : GatewayLabel} (hg : g.Accounted) (hready : g.ContextReady label)
    (hstep : Steps g label h) (hh : h.state = .healthy) : h.Accounted := by
  have hmove : ∀ {phase : TickPhase} {k : Gateway}, g.phase = phase → phase.batch = k.phase.batch →
      k.log = g.log → k.events = g.events → k.phase ≠ .idle → k.Accounted := by
    intro phase k hphase hbatch hlog hevents hidle
    refine hg.calm hlog (by rw [hphase, hbatch]) ?_ fun hc ↦ absurd hc hidle
    rw [pendingDispatches, hevents]
    rfl
  have hadded : ∀ {event : DeltaEvent}, event.dispatch? = none → (g.addEvent event).Accounted := by
    intro event hevent
    have hpending := pendingDispatches_addEvent (g := g) hevent
    refine hg.calm rfl rfl hpending fun hidle ↦ ?_
    rw [hpending]
    exact hg.flushed hidle
  cases hstep with
  | hookBefore | hookAfter | staysOutside | prologueThrew | heartbeatThrew | applyThrew
  | dispatchThrew | economyBefore | economyAfter => exact absurd hh state_transitionToDisabled
  | units | admin | requestDisable | requestSnapshot | submit =>
    exact hg.calm rfl rfl rfl hg.flushed
  | hookIgnored => exact hg
  | hookAdds _ hevent => exact hadded (Hook.dispatch?_event hevent)
  | @hookEmits _ event _ _ hevent =>
    have hadded := hadded (Hook.dispatch?_event hevent)
    have hstart : (g.addEvent event).startInitialSnapshot.Accounted :=
      hadded.calm rfl rfl rfl hadded.flushed
    exact hstart.snapshot hh
  | beginTick hphase | prologue hphase | noInitialSnapshot hphase | heartbeat hphase
  | endAdmin hphase | endDrain hphase | noSnapshot hphase | noEconomy hphase =>
    exact hmove hphase rfl rfl rfl nofun
  | initialSnapshot hphase =>
    have hstart : g.startInitialSnapshot.Accounted := hg.calm rfl rfl rfl hg.flushed
    refine (hstart.snapshot hh).calm rfl ?_ rfl nofun
    rw [sameWork_emit.phase_eq, startInitialSnapshot, hphase]
    rfl
  | @applyEntry hphase _ _ id =>
    refine hg.extend [.applied id] [] rfl (append_nil _) .nil (append_nil _).symm fun hc ↦ ?_
    exact absurd (hphase.symm.trans hc) nofun
  | drain hphase =>
    -- what `Drain` takes becomes the batch
    refine hg.extend [.drained g.queue.queue] [] rfl ?_ .nil (append_nil _).symm nofun
    rw [hphase]
    exact append_nil _
  | @dispatchNext entry _ outcome hphase hreturned =>
    -- a handled command leaves the batch, and its report joins the accumulator
    have hreport := accounts_finishedEvent (hready entry (by rw [hphase]; rfl)) hreturned
    refine hg.extend [.handled entry (g.dispatchOutcome entry outcome)] _ rfl ?_
      (.cons hreport .nil) filterMap_append nofun
    rw [hphase]
    exact append_nil _
  | pump hphase =>
    have hpumped : g.pumped.Accounted := hmove hphase rfl rfl rfl nofun
    exact hpumped.snapshot hh
  | economy hphase =>
    have hnext : ({ g with phase := .flush } : Gateway).Accounted := hmove hphase rfl rfl rfl nofun
    exact hnext.calm rfl rfl (pendingDispatches_addEvent rfl) nofun
  | noUpdate hphase _ hevents =>
    refine hg.calm rfl (by rw [hphase]; rfl) rfl fun _ ↦ ?_
    show List.filterMap _ g.events = []
    rw [hevents]
    rfl
  | flush hphase _ hmoved => exact hg.flush hphase hmoved hh

/-- **Every step keeps the accounts.** -/
theorem accounting_step {label : GatewayLabel} (hg : g.Accounting) (hready : g.ContextReady label)
    (hstep : g.step label = some h) : h.Accounting := fun hh ↦
  (hg (healthy_of_step hstep hh)).step hready (steps_of_step hstep) hh

/-- **Every drained command is accounted for by exactly one dispatch event**, in every healthy run
in which a game-wide command finds a context: what was drained was handled or is the rest of the
batch, what was handled is reported one to one and in order by the dispatch events that were
published or wait for the end of the tick, and between ticks all of it was handled and published. -/
theorem accounts_for_drained (config : GatewayConfig) {labels : List GatewayLabel}
    (hmeets : (machine config).Meets ContextReady (machine config).init labels)
    (hrun : (machine config).exec (machine config).init labels = some h)
    (hhealthy : h.state = .healthy) :
    h.drainedCommands = h.handledCommands.map Prod.fst ++ h.phase.batch ∧
      List.Forall₂ Accounts h.handledCommands (h.publishedDispatches ++ h.pendingDispatches) ∧
      (h.phase = .idle → h.drainedCommands = h.handledCommands.map Prod.fst ∧
        List.Forall₂ Accounts h.handledCommands h.publishedDispatches) := by
  have hinv : h.Accounting := StepMachine.invariant_of_meets (I := Accounting)
    (fun _ _ _ hg hready hstep ↦ accounting_step hg hready hstep) (accounting_create config)
    hmeets hrun
  obtain ⟨hdrained, hreported, hflushed⟩ := hinv hhealthy
  refine ⟨hdrained, hreported, fun hidle ↦ ⟨?_, ?_⟩⟩
  · rw [hdrained, hidle]
    exact append_nil _
  · rw [hflushed hidle, append_nil] at hreported
    exact hreported

/-- A game-wide command and three stops: for a live unit, a dead one and one that is gone. -/
def mixedBatch : List QueuedCommand :=
  let stop (target : ℤ) : AICommand := .stop ⟨target, 0, 0, 0⟩
  [{ batchSeq := 1, clientCommandId := 5, command := .pauseTeam true },
    { batchSeq := 2, clientCommandId := 6, authoritativeTargetUnitId := 7, command := stop 7 },
    { batchSeq := 3, clientCommandId := 7, authoritativeTargetUnitId := 8, command := stop 8 },
    { batchSeq := 4, clientCommandId := 8, authoritativeTargetUnitId := 9, command := stop 9 }]

/-- The units are there, the batch is queued, and a tick handles it. -/
def mixedRun : List GatewayLabel :=
  .units [⟨7, some false⟩, ⟨8, some true⟩] :: .submit (.tryPushBatch mixedBatch) ::
    tickToDrain 0 none ++
    [.dispatchNext (.returned true), .hook (.unitIdle (some 7)) none none,
      .dispatchNext (.returned false), .dispatchNext (.returned true),
      .dispatchNext (.returned true)] ++ tickFromDrain none none

theorem accounts_for_drained_mixedRun :
    ∃ h, (machine standalone).exec (machine standalone).init mixedRun = some h ∧
      h.publishedDispatches.map CommandDispatchEvent.status
        = [.applied, .skippedUnsupportedArm, .skippedTargetDead, .skippedTargetMissing] ∧
      h.drainedCommands = mixedBatch ∧
      List.Forall₂ Accounts h.handledCommands h.publishedDispatches := by
  have hmeets : (machine standalone).Meets ContextReady (machine standalone).init mixedRun := by
    decide
  exact ⟨_, rfl, by decide, by decide,
    ((accounts_for_drained standalone hmeets rfl rfl).2.2 rfl).2⟩

/-- **A report without an issue**: a game-wide command that is drained while the team has no unit is
skipped as not ready, and its report does not say why. -/
theorem skipped_without_issue :
    ∃ h, (machine standalone).exec (machine standalone).init
        (.submit (.tryPush { command := .pauseTeam true }) :: tickToDrain 0 none ++
          .dispatchNext (.returned true) :: tickFromDrain none none) = some h ∧
      h.state = .healthy ∧
      h.publishedDispatches.map (fun event ↦ (event.status, event.issue))
        = [(.skippedEngineNotReady, none)] ∧
      ¬List.Forall₂ Accounts h.handledCommands h.publishedDispatches := by
  refine ⟨_, rfl, rfl, by decide, fun hall ↦ ?_⟩
  obtain ⟨hreport, -⟩ := forall₂_cons.1 hall
  obtain ⟨issue, hissue, -⟩ := hreport.exists_issue (by decide)
  cases hissue

end Gateway

end HighBar.Module
