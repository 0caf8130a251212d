import HighBar.Grpc.GrpcLog
import HighBar.Module.GatewayEmission

/-!
# The fault transition

A fault disables the gateway for the rest of the match. Faults come from two sides: a worker puts
one into a **mailbox of one slot** (`RequestDisable`), which the engine thread empties at the top of
a tick, and the engine thread itself calls `TransitionToDisabled` wherever it catches an exception.
The worker looks at the state before it takes the lock of the mailbox, so a fault may be put there
long after the transition.

## The transition, statement by statement

`TransitionToDisabled` wins or loses at its compare-and-exchange; the rest is a list of statements
(`TransitionStage.all`) that the engine thread works off, one step each, while the workers go on. A
call from inside it loses.

## What holds

`single_transition`: the state moves along `Healthy`, `Disabling`, `Disabled`; what has happened is
a **beginning of one list**, the effects of the fault that won, and is that list once the engine
thread has worked it off, which nothing can keep it from. The first fault that got into the mailbox
is the one that is reported, unless the engine thread had one of its own before it emptied the
mailbox.

`health_file_tells_fault` adds what `WriteHealthFile` does to the files, whatever fails in it: a
reader finds the old contents or those that tell the fault.

## The gateway

The model of the gateway takes `TransitionToDisabled` as one step, in the results about ticks, hooks
and the closed admission. `exec_transition_gateway` connects it to this one: that step is what the
statements do when nothing comes between them.
-/

namespace HighBar.Module

open List Option

/-- `PendingFault`: what is reported. -/
structure PendingFault where
  subsystem : String
  reason : String
  detail : String
deriving Repr, DecidableEq

/-- The members of the gateway that the transition reads. -/
structure FaultConfig where
  /-- `service_` is set. -/
  hasService : Bool
  /-- `socket_path_`, empty for TCP. -/
  socketPath : String
  tokenFilePath : String
  healthFilePath : String
deriving Repr, DecidableEq

/-- A transition that has begun. -/
structure Transition where
  fault : PendingFault
  frame : ℕ
  /-- It was asked for through the mailbox. -/
  requested : Bool
deriving Repr, DecidableEq

/-- What the transition does. -/
inductive FaultEffect where
  | logFault (fault : PendingFault) (frame : ℕ)
  | faultCloseAllStreams (subsystem reason : String)
  | unlinkSocket (path : String)
  | unlinkToken (path : String)
  | writeHealthFile (path : String) (healthy : Bool) (fault : PendingFault) (frame : ℕ)
  | storeDisabled
deriving Repr, DecidableEq

/-- The statements of `TransitionToDisabled` after its compare-and-exchange. -/
inductive TransitionStage where
  | logFault
  | closeStreams
  | unlinkSocket
  | unlinkToken
  | writeHealthFile
  | storeDisabled
deriving Repr, DecidableEq

/-- In the order of the source. -/
def TransitionStage.all : List TransitionStage :=
  [.logFault, .closeStreams, .unlinkSocket, .unlinkToken, .writeHealthFile, .storeDisabled]

namespace FaultConfig

/-- What a statement does. -/
def effects (cfg : FaultConfig) (transition : Transition) : TransitionStage → List FaultEffect
  | .logFault => [.logFault transition.fault transition.frame]
  | .closeStreams =>
    if cfg.hasService then
      [.faultCloseAllStreams transition.fault.subsystem transition.fault.reason]
    else []
  | .unlinkSocket => if cfg.socketPath.isEmpty then [] else [.unlinkSocket cfg.socketPath]
  | .unlinkToken => if cfg.tokenFilePath.isEmpty then [] else [.unlinkToken cfg.tokenFilePath]
  | .writeHealthFile =>
    [.writeHealthFile cfg.healthFilePath false transition.fault transition.frame]
  | .storeDisabled => [.storeDisabled]

/-- What a whole transition does. -/
def allEffects (cfg : FaultConfig) (transition : Transition) : List FaultEffect :=
  TransitionStage.all.flatMap (cfg.effects transition)

/-- Nothing is done twice in a transition. -/
theorem nodup_allEffects (cfg : FaultConfig) (transition : Transition) :
    (cfg.allEffects transition).Nodup := by
  simp only [allEffects, TransitionStage.all, flatMap_cons, flatMap_nil, effects]
  split_ifs <;> simp

end FaultConfig

/-- A `RequestDisable` call. -/
abbrev RequestId := ℕ

/-- How far a `RequestDisable` call is. -/
inductive RequestPhase where
  /-- It has seen `Healthy`, and has not taken the lock. -/
  | checked (fault : PendingFault)
  | returned
deriving Repr, DecidableEq

/-- Where the engine thread is. -/
inductive EngineAt where
  /-- In the engine, a hook or a tick, but for what follows. -/
  | running
  /-- At the top of a tick. -/
  | tickTop
  /-- It has emptied the mailbox. -/
  | swapped (fault : Option PendingFault)
  /-- In the transition, with the statements still to come. -/
  | transitioning (stages : List TransitionStage) (transition : Transition)
deriving Repr, DecidableEq

/-- The state, the mailbox, the calls and the engine thread, and what has happened. -/
structure FaultState where
  state : GatewayState
  pendingFault : Option PendingFault
  requests : RequestId → Option RequestPhase
  engine : EngineAt
  /-- The values written to `state_`. -/
  moves : List GatewayState
  effects : List FaultEffect
  /-- The faults that got into the mailbox. -/
  accepted : List PendingFault
  /-- The transition that has begun. -/
  begun : Option Transition

/-- One atomic step. -/
inductive FaultLabel where
  /-- `RequestDisable` looks at the state. -/
  | requestDisable (id : RequestId) (fault : PendingFault)
  /-- It takes the lock, and the slot if it is free. -/
  | fillMailbox (id : RequestId)
  | beginTick
  | swapFault
  /-- The rest of `DrainPendingFault`, at this frame. -/
  | drainFault (frame : ℕ)
  /-- The engine thread catches an exception: in a hook, a tick, an emitter or a dispatch, or in a
  call that the transition makes. -/
  | engineFault (fault : PendingFault) (frame : ℕ)
  /-- The next statement of the transition. If closing the streams throws, the exception is
  swallowed and the next statement follows, as if it had returned. -/
  | advance
deriving Repr, DecidableEq

/-- The labels of the transition's own statements. -/
def FaultLabel.isAdvance : FaultLabel → Bool
  | .advance => true
  | _ => false

namespace FaultState

/-- A `RequestDisable` call moves on. -/
def setRequest (s : FaultState) (id : RequestId) (phase : RequestPhase) : FaultState :=
  { s with requests := Function.update s.requests id (some phase) }

/-- The locked part of `RequestDisable`. -/
def fillMailbox (s : FaultState) (fault : PendingFault) : FaultState :=
  match s.pendingFault with
  | none => { s with pendingFault := some fault, accepted := s.accepted ++ [fault] }
  | some _ => s

/-- A fault wins: all statements of the transition are to come. -/
def begin (s : FaultState) (transition : Transition) : FaultState :=
  { s with
    state := .disabling
    moves := s.moves ++ [.disabling]
    begun := some transition
    engine := .transitioning TransitionStage.all transition }

/-- The compare-and-exchange of `TransitionToDisabled`. -/
def transitionToDisabled (s : FaultState) (transition : Transition) : FaultState :=
  match s.state with
  | .healthy => s.begin transition
  | .disabling | .disabled => s

/-- One statement of the transition. -/
def advance (cfg : FaultConfig) (s : FaultState) (stage : TransitionStage)
    (rest : List TransitionStage) (transition : Transition) : FaultState :=
  let next : FaultState :=
    { s with
      effects := s.effects ++ cfg.effects transition stage
      engine := if rest = [] then .running else .transitioning rest transition }
  match stage with
  | .storeDisabled => { next with state := .disabled, moves := s.moves ++ [.disabled] }
  | .logFault | .closeStreams | .unlinkSocket | .unlinkToken | .writeHealthFile => next

/-- One step. -/
def step (cfg : FaultConfig) (s : FaultState) : FaultLabel → Option FaultState
  | .requestDisable id fault =>
    if s.requests id = none then
      some (s.setRequest id (if s.state = .healthy then .checked fault else .returned))
    else none
  | .fillMailbox id =>
    match s.requests id with
    | some (.checked fault) => some ((s.fillMailbox fault).setRequest id .returned)
    | _ => none
  | .beginTick => if s.engine = .running then some { s with engine := .tickTop } else none
  | .swapFault =>
    if s.engine = .tickTop then
      some { s with engine := .swapped s.pendingFault, pendingFault := none }
    else none
  | .drainFault frame =>
    match s.engine with
    | .swapped none => some { s with engine := .running }
    | .swapped (some fault) =>
      some (({ s with engine := .running } : FaultState).transitionToDisabled ⟨fault, frame, true⟩)
    | _ => none
  | .engineFault fault frame =>
    match s.engine with
    | .running | .transitioning .. => some (s.transitionToDisabled ⟨fault, frame, false⟩)
    | _ => none
  | .advance =>
    match s.engine with
    | .transitioning (stage :: rest) transition => some (s.advance cfg stage rest transition)
    | _ => none

/-- The machine of a gateway that has just been built. -/
def machine (cfg : FaultConfig) : StepMachine FaultState FaultLabel where
  init :=
    { state := .healthy
      pendingFault := none
      requests := fun _ ↦ none
      engine := .running
      moves := []
      effects := []
      accepted := []
      begun := none }
  step := step cfg

variable {cfg : FaultConfig} {s t : FaultState} {label : FaultLabel}

/-- A step, inverted. -/
inductive Steps (cfg : FaultConfig) (s : FaultState) : FaultLabel → FaultState → Prop
  | requestDisable {id : RequestId} {fault : PendingFault} (phase : RequestPhase) :
    Steps cfg s (.requestDisable id fault) (s.setRequest id phase)
  | filled {id : RequestId} {fault : PendingFault} (hempty : s.pendingFault = none) :
    Steps cfg s (.fillMailbox id)
      (({ s with pendingFault := some fault, accepted := s.accepted ++ [fault] } :
        FaultState).setRequest id .returned)
  | full {id : RequestId} : Steps cfg s (.fillMailbox id) (s.setRequest id .returned)
  | beginTick (hengine : s.engine = .running) : Steps cfg s .beginTick { s with engine := .tickTop }
  | swapFault (hengine : s.engine = .tickTop) :
    Steps cfg s .swapFault { s with engine := .swapped s.pendingFault, pendingFault := none }
  | drainNone {frame : ℕ} (hengine : s.engine = .swapped none) :
    Steps cfg s (.drainFault frame) { s with engine := .running }
  /-- The fault of the mailbox comes too late. -/
  | drainLate {fault : PendingFault} {frame : ℕ} (hengine : s.engine = .swapped (some fault))
      (hstate : s.state ≠ .healthy) : Steps cfg s (.drainFault frame) { s with engine := .running }
  | drain {fault : PendingFault} {frame : ℕ} (hengine : s.engine = .swapped (some fault))
      (hstate : s.state = .healthy) : Steps cfg s (.drainFault frame) (s.begin ⟨fault, frame, true⟩)
  | engineLate {fault : PendingFault} {frame : ℕ} (hstate : s.state ≠ .healthy) :
    Steps cfg s (.engineFault fault frame) s
  | engineFault {fault : PendingFault} {frame : ℕ}
      (hengine : ∀ fault, s.engine ≠ .swapped fault) (hstate : s.state = .healthy) :
    Steps cfg s (.engineFault fault frame) (s.begin ⟨fault, frame, false⟩)
  | advance {stage : TransitionStage} {rest : List TransitionStage} {transition : Transition}
      (hengine : s.engine = .transitioning (stage :: rest) transition) :
    Steps cfg s .advance (s.advance cfg stage rest transition)

/-- The first fault begins the transition. -/
theorem transitionToDisabled_of_healthy (hstate : s.state = .healthy) (transition : Transition) :
    s.transitionToDisabled transition = s.begin transition := by
  rw [transitionToDisabled, hstate]

/-- A later one does nothing. -/
theorem transitionToDisabled_of_ne (hstate : s.state ≠ .healthy) (transition : Transition) :
    s.transitionToDisabled transition = s := by
  rw [transitionToDisabled]
  split
  · rename_i hs
    exact absurd hs hstate
  · rfl
  · rfl

/-- **One step, inverted.** -/
theorem steps_of_step (hstep : s.step cfg label = some t) : Steps cfg s label t := by
  cases label with
  | requestDisable id fault =>
    obtain ⟨-, ht⟩ := ite_none_right_eq_some.1 hstep
    cases ht
    exact .requestDisable _
  | fillMailbox id =>
    simp only [step] at hstep
    split at hstep
    · cases hstep
      rcases hpending : s.pendingFault with - | old
      · rw [fillMailbox, hpending]
        exact .filled hpending
      · rw [fillMailbox, hpending]
        exact .full
    · cases hstep
  | beginTick =>
    obtain ⟨hengine, ht⟩ := ite_none_right_eq_some.1 hstep
    cases ht
    exact .beginTick hengine
  | swapFault =>
    obtain ⟨hengine, ht⟩ := ite_none_right_eq_some.1 hstep
    cases ht
    exact .swapFault hengine
  | drainFault frame =>
    simp only [step] at hstep
    split at hstep
    · rename_i hengine
      cases hstep
      exact .drainNone hengine
    · rename_i hengine
      cases hstep
      by_cases hstate : s.state = .healthy
      · rw [transitionToDisabled_of_healthy (s := { s with engine := .running }) hstate]
        exact .drain hengine hstate
      · rw [transitionToDisabled_of_ne (s := { s with engine := .running }) hstate]
        exact .drainLate hengine hstate
    · cases hstep
  | engineFault fault frame =>
    have hfault : t = s.transitionToDisabled ⟨fault, frame, false⟩ ∧
        ∀ fault, s.engine ≠ .swapped fault := by
      simp only [step] at hstep
      split at hstep
      · rename_i hengine
        rw [hengine]
        exact ⟨(Option.some.inj hstep).symm, fun _ ↦ EngineAt.noConfusion⟩
      · rename_i hengine
        rw [hengine]
        exact ⟨(Option.some.inj hstep).symm, fun _ ↦ EngineAt.noConfusion⟩
      · cases hstep
    obtain ⟨rfl, hengine⟩ := hfault
    by_cases hstate : s.state = .healthy
    · rw [transitionToDisabled_of_healthy hstate]
      exact .engineFault hengine hstate
    · rw [transitionToDisabled_of_ne hstate]
      exact .engineLate hstate
  | advance =>
    simp only [step] at hstep
    split at hstep
    · rename_i hengine
      cases hstep
      exact .advance hengine
    · cases hstep

/-- **The gateway takes the whole transition as one step**: a fault of the engine thread, worked off
without interruption, leaves the state that it has there, and does all that a transition does. -/
theorem exec_transition_gateway (cfg : FaultConfig) {g : Gateway} (fault : PendingFault) (frame : ℕ)
    (hengine : s.engine = .running) (hstate : s.state = .healthy) (hgateway : g.state = s.state) :
    ∃ t,
      (machine cfg).exec s
          (.engineFault fault frame :: TransitionStage.all.map fun _ ↦ .advance) = some t ∧
        t.state = g.transitionToDisabled.state ∧ t.engine = .running ∧
        t.effects = s.effects ++ cfg.allEffects ⟨fault, frame, false⟩ := by
  obtain ⟨state, pendingFault, requests, engine, moves, effects, accepted, begun⟩ := s
  obtain rfl : engine = .running := hengine
  obtain rfl : state = .healthy := hstate
  refine ⟨_, rfl, ?_, rfl, ?_⟩
  · rw [Gateway.transitionToDisabled, hgateway]
    rfl
  · simp [FaultConfig.allEffects, TransitionStage.all, advance, transitionToDisabled, begin]

/-! ### Where the match is -/

/-- The engine thread is in the transition. -/
def Transitioning (s : FaultState) : Prop :=
  ∃ stages transition, s.engine = .transitioning stages transition

/-- Before, in and after the transition. What has happened in it is what the statements before those
to come do. -/
inductive Phase (cfg : FaultConfig) (s : FaultState) : Prop
  | healthy (hstate : s.state = .healthy) (hmoves : s.moves = []) (heffects : s.effects = [])
      (hbegun : s.begun = none) (hengine : ¬s.Transitioning)
  | disabling (done rest : List TransitionStage) (transition : Transition)
      (hall : TransitionStage.all = done ++ rest) (hrest : rest ≠ [])
      (hstate : s.state = .disabling)
      (hmoves : s.moves = [.disabling])
      (heffects : s.effects = done.flatMap (cfg.effects transition))
      (hbegun : s.begun = some transition) (hengine : s.engine = .transitioning rest transition)
  | disabled (transition : Transition) (hstate : s.state = .disabled)
      (hmoves : s.moves = [.disabling, .disabled])
      (heffects : s.effects = cfg.allEffects transition) (hbegun : s.begun = some transition)
      (hengine : ¬s.Transitioning)

/-- No transition has begun exactly while the state is `Healthy`. -/
theorem Phase.begun_eq_none_iff (hs : s.Phase cfg) : s.begun = none ↔ s.state = .healthy := by
  cases hs with
  | healthy hstate _ _ hbegun => exact iff_of_true hbegun hstate
  | disabling _ _ _ _ _ hstate _ _ hbegun | disabled _ hstate _ _ hbegun =>
    rw [hbegun, hstate]
    exact iff_of_false nofun GatewayState.noConfusion

/-- A step of a worker, or of the engine thread outside the transition. -/
theorem Phase.aside (hs : s.Phase cfg) (hstate : t.state = s.state) (hmoves : t.moves = s.moves)
    (heffects : t.effects = s.effects) (hbegun : t.begun = s.begun)
    (hengine : t.engine = s.engine ∨ ¬s.Transitioning ∧ ¬t.Transitioning) : t.Phase cfg := by
  have hout (hold : ¬s.Transitioning) : ¬t.Transitioning := by
    rcases hengine with heq | ⟨-, hnew⟩
    · rwa [Transitioning, heq]
    · exact hnew
  cases hs with
  | healthy h₁ h₂ h₃ h₄ h₅ =>
    exact .healthy (hstate.trans h₁) (hmoves.trans h₂) (heffects.trans h₃) (hbegun.trans h₄)
      (hout h₅)
  | disabling done rest transition hall hrest h₁ h₂ h₃ h₄ h₅ =>
    have heq := hengine.resolve_right fun h ↦ h.1 ⟨_, _, h₅⟩
    exact .disabling done rest transition hall hrest (hstate.trans h₁) (hmoves.trans h₂)
      (heffects.trans h₃) (hbegun.trans h₄) (heq.trans h₅)
  | disabled transition h₁ h₂ h₃ h₄ h₅ =>
    exact .disabled transition (hstate.trans h₁) (hmoves.trans h₂) (heffects.trans h₃)
      (hbegun.trans h₄) (hout h₅)

/-- A fault that wins. -/
theorem Phase.begin (hs : s.Phase cfg) (hstate : s.state = .healthy) (transition : Transition) :
    (s.begin transition).Phase cfg := by
  cases hs with
  | healthy _ hmoves heffects =>
    refine .disabling [] TransitionStage.all transition rfl (cons_ne_nil _ _) rfl ?_ heffects
      rfl
      rfl
    show s.moves ++ _ = _
    rw [hmoves]
    rfl
  | disabling _ _ _ _ _ h | disabled _ h => exact GatewayState.noConfusion (h.symm.trans hstate)

/-- The terminal store is the last statement. -/
theorem eq_storeDisabled_iff {done rest : List TransitionStage} {stage : TransitionStage}
    (hall : TransitionStage.all = done ++ stage :: rest) : stage = .storeDisabled ↔ rest = [] := by
  have hlast : (done ++ stage :: rest).getLast? = some .storeDisabled := by
    rw [← hall]
    rfl
  have hnodup : (done ++ stage :: rest).Nodup := by
    rw [← hall]
    decide
  rw [getLast?_append, getLast?_cons] at hlast
  rcases rest with - | ⟨next, rest⟩
  · exact iff_of_true (Option.some.inj hlast) rfl
  · refine iff_of_false ?_ (cons_ne_nil _ _)
    rintro rfl
    refine (nodup_cons.1 (nodup_append.1 hnodup).2.1).1 (mem_of_getLast? ?_)
    rw [getLast?_cons] at hlast ⊢
    exact hlast

/-- The next statement of the transition. -/
theorem Phase.advance {stage : TransitionStage} {rest : List TransitionStage}
    {transition : Transition} (hs : s.Phase cfg)
    (hengine : s.engine = .transitioning (stage :: rest) transition) :
    (s.advance cfg stage rest transition).Phase cfg := by
  cases hs with
  | healthy _ _ _ _ h | disabled _ _ _ _ _ h => exact absurd ⟨_, _, hengine⟩ h
  | disabling done rest' transition' hall _ hstate hmoves heffects hbegun h =>
    obtain ⟨rfl, rfl⟩ := EngineAt.transitioning.inj (h.symm.trans hengine)
    have hdone : s.effects ++ cfg.effects transition' stage =
        (done ++ [stage]).flatMap (cfg.effects transition') := by
      rw [heffects, flatMap_append, flatMap_singleton]
    by_cases hrest : rest = []
    · obtain rfl := (eq_storeDisabled_iff hall).2 hrest
      subst hrest
      refine .disabled transition' rfl ?_ ?_ hbegun fun ⟨_, _, hc⟩ ↦ EngineAt.noConfusion hc
      · show s.moves ++ _ = _
        rw [hmoves]
        rfl
      · rw [FaultConfig.allEffects, hall]
        exact hdone
    · have hstage : stage ≠ .storeDisabled := fun hc ↦ hrest ((eq_storeDisabled_iff hall).1 hc)
      have hnext : s.advance cfg stage rest transition' =
          { s with
            effects := s.effects ++ cfg.effects transition' stage
            engine := .transitioning rest transition' } := by
        simp only [FaultState.advance, if_neg hrest]
        split
        · exact absurd rfl hstage
        all_goals rfl
      rw [hnext]
      refine .disabling (done ++ [stage]) rest transition' ?_ hrest hstate hmoves hdone hbegun rfl
      rw [hall, append_assoc]
      rfl

/-- Every step keeps to the phases of the transition. -/
theorem phase_steps (hs : s.Phase cfg) (hstep : Steps cfg s label t) : t.Phase cfg := by
  cases hstep with
  | requestDisable | filled | full => exact hs.aside rfl rfl rfl rfl (Or.inl rfl)
  | beginTick hengine | swapFault hengine | drainNone hengine | drainLate hengine =>
    refine hs.aside rfl rfl rfl rfl (Or.inr ⟨?_, ?_⟩)
    · rintro ⟨_, _, hc⟩
      exact EngineAt.noConfusion (hengine.symm.trans hc)
    · rintro ⟨_, _, hc⟩
      cases hc
  | drain _ hstate | engineFault _ hstate => exact hs.begin hstate _
  | engineLate => exact hs
  | advance hengine => exact hs.advance hengine

/-! ### Which fault is reported -/

/-- The fault that the mailbox would have reported: just taken out of it, or still in it. -/
def waiting (s : FaultState) : Option PendingFault :=
  match s.engine with
  | .swapped (some fault) => some fault
  | .running | .tickTop | .swapped none | .transitioning .. => s.pendingFault

/-- Up to the transition, the first fault that was accepted waits; a transition that was asked for
is of that fault. -/
structure Reporting (s : FaultState) : Prop where
  first : s.begun = none → s.accepted.head? = s.waiting
  requested : ∀ transition, s.begun = some transition → transition.requested = true →
    s.accepted.head? = some transition.fault

/-- The first fault stays the first. -/
theorem head?_append_of_eq_some {fault : PendingFault} (h : s.accepted.head? = some fault)
    (later : List PendingFault) : (s.accepted ++ later).head? = some fault := by
  rw [head?_append, h]
  rfl

theorem waiting_of_engine (h : ∀ fault, s.engine ≠ .swapped (some fault)) :
    s.waiting = s.pendingFault := by
  rw [waiting]
  split
  · rename_i hengine
    exact absurd hengine (h _)
  all_goals rfl

/-- A fault that gets into the mailbox. -/
theorem Reporting.filled (hs : s.Reporting) (hempty : s.pendingFault = none)
    (fault : PendingFault) :
    Reporting { s with pendingFault := some fault, accepted := s.accepted ++ [fault] } := by
  refine ⟨fun hbegun ↦ ?_, fun transition hbegun hrequested ↦ ?_⟩
  · have hfirst := hs.first hbegun
    by_cases hswapped : ∃ taken, s.engine = .swapped (some taken)
    · obtain ⟨taken, hengine⟩ := hswapped
      rw [waiting, hengine] at hfirst
      rw [waiting, hengine]
      exact head?_append_of_eq_some hfirst _
    · rw [not_exists] at hswapped
      rw [waiting_of_engine hswapped, hempty, head?_eq_none_iff] at hfirst
      refine Eq.trans ?_ (waiting_of_engine
        (s := { s with pendingFault := some fault, accepted := s.accepted ++ [fault] })
        hswapped).symm
      show (s.accepted ++ [fault]).head? = _
      rw [hfirst]
      rfl
  · exact head?_append_of_eq_some (hs.requested transition hbegun hrequested) _

/-- The first fault that was accepted stays the one that counts. -/
theorem reporting_steps (hphase : s.Phase cfg) (hs : s.Reporting) (hstep : Steps cfg s label t) :
    t.Reporting := by
  cases hstep with
  | requestDisable | full => exact ⟨hs.first, hs.requested⟩
  | filled hempty => exact ⟨(hs.filled hempty _).first, (hs.filled hempty _).requested⟩
  | engineLate => exact hs
  | beginTick hengine | drainNone hengine =>
    refine ⟨fun hbegun ↦ (hs.first hbegun).trans ?_, hs.requested⟩
    rw [waiting, hengine]
    rfl
  | swapFault hengine =>
    refine ⟨fun hbegun ↦ (hs.first hbegun).trans ?_, hs.requested⟩
    rw [waiting, hengine]
    rcases hpending : s.pendingFault with - | fault
    · rfl
    · rfl
  | drainLate _ hstate =>
    exact ⟨fun hbegun ↦ absurd (hphase.begun_eq_none_iff.1 hbegun) hstate, hs.requested⟩
  | drain hengine hstate =>
    refine ⟨nofun, fun transition hbegun _ ↦ ?_⟩
    cases hbegun
    have hfirst := hs.first (hphase.begun_eq_none_iff.2 hstate)
    rw [waiting, hengine] at hfirst
    exact hfirst
  | engineFault =>
    refine ⟨nofun, fun transition hbegun hrequested ↦ ?_⟩
    cases hbegun
    cases hrequested
  | @advance stage rest transition hengine =>
    have hbegun : (s.advance cfg stage rest transition).begun = s.begun := by
      cases stage <;> rfl
    have haccepted : (s.advance cfg stage rest transition).accepted = s.accepted := by
      cases stage <;> rfl
    refine ⟨fun hnone ↦ ?_, fun tr htr hrequested ↦ ?_⟩
    · rw [hbegun, hphase.begun_eq_none_iff] at hnone
      cases hphase with
      | healthy _ _ _ _ h => exact absurd ⟨_, _, hengine⟩ h
      | disabling _ _ _ _ _ h | disabled _ h => exact GatewayState.noConfusion (h.symm.trans hnone)
    · rw [hbegun] at htr
      rw [haccepted]
      exact hs.requested tr htr hrequested

/-! ### The transition is worked off -/

/-- How many statements of the transition are still to come. -/
def remaining (s : FaultState) : ℕ :=
  match s.engine with
  | .transitioning stages _ => stages.length
  | .running | .tickTop | .swapped _ => 0

/-- **Once a transition has begun it stays the one**, and only its own statements bring it on, by
one each. -/
theorem remaining_steps (hphase : s.Phase cfg) (hbegun : s.begun ≠ none)
    (hstep : Steps cfg s label t) :
    t.begun = s.begun ∧ t.remaining + (if label.isAdvance then 1 else 0) = s.remaining := by
  have hstate : s.state ≠ .healthy := fun h ↦ hbegun (hphase.begun_eq_none_iff.2 h)
  cases hstep with
  | requestDisable | filled | full | engineLate => exact ⟨rfl, rfl⟩
  | beginTick hengine | swapFault hengine | drainNone hengine | drainLate hengine =>
    refine ⟨rfl, ?_⟩
    rw [remaining, remaining, hengine]
    rfl
  | drain _ h | engineFault _ h => exact absurd h hstate
  | @advance stage rest transition hengine =>
    refine ⟨by cases stage <;> rfl, ?_⟩
    have hafter : (s.advance cfg stage rest transition).engine =
        if rest = [] then .running else .transitioning rest transition := by
      cases stage <;> rfl
    rw [remaining, remaining, hafter, hengine]
    by_cases hrest : rest = []
    · rw [if_pos hrest, hrest]
      rfl
    · rw [if_neg hrest]
      rfl

/-- What holds in every state. -/
structure Inv (cfg : FaultConfig) (s : FaultState) : Prop where
  phase : s.Phase cfg
  reporting : s.Reporting

/-- **Every step keeps the invariant.** -/
theorem inv_step (hs : s.Inv cfg) (hstep : s.step cfg label = some t) : t.Inv cfg :=
  ⟨phase_steps hs.phase (steps_of_step hstep),
    reporting_steps hs.phase hs.reporting (steps_of_step hstep)⟩

theorem inv_init (cfg : FaultConfig) : (machine cfg).init.Inv cfg where
  phase := .healthy rfl rfl rfl rfl fun ⟨_, _, hc⟩ ↦ EngineAt.noConfusion hc
  reporting := ⟨fun _ ↦ rfl, fun _ h ↦ absurd h.symm (some_ne_none _)⟩

/-- The run after a transition has begun. -/
theorem remaining_exec {more : List FaultLabel} :
    ∀ {s t : FaultState}, s.Inv cfg → s.begun ≠ none → (machine cfg).exec s more = some t →
      t.begun = s.begun ∧ t.remaining + more.countP FaultLabel.isAdvance = s.remaining := by
  induction more with
  | nil =>
    intro s t _ _ hrun
    cases hrun
    exact ⟨rfl, rfl⟩
  | cons label more ih =>
    intro s t hs hbegun hrun
    obtain ⟨u, hu, hrest⟩ := (machine cfg).exec_cons_eq_some.1 hrun
    obtain ⟨hsame, hone⟩ := remaining_steps hs.phase hbegun (steps_of_step hu)
    obtain ⟨hbegun', hmore⟩ := ih (inv_step hs hu) (hsame ▸ hbegun) hrest
    refine ⟨hbegun'.trans hsame, ?_⟩
    rw [countP_cons, ← hone, ← hmore, Nat.add_assoc]

/-! ### The single transition -/

/-- **At most one transition, and a whole one.** -/
structure SingleTransition (cfg : FaultConfig) (s : FaultState) : Prop where
  /-- The state has moved along `Healthy`, `Disabling`, `Disabled`. -/
  moves : (s.state, s.moves) ∈
    [(.healthy, []), (.disabling, [.disabling]), (.disabled, [.disabling, .disabled])]
  /-- Nothing happens without a transition. -/
  quiet : s.begun = none → s.state = .healthy ∧ s.effects = []
  /-- What has happened is a beginning of what the one transition does, with its fault. -/
  inOrder : ∀ transition, s.begun = some transition → s.effects <+: cfg.allEffects transition
  once : s.effects.Nodup
  /-- Once it is worked off, all of it has happened. -/
  complete : ∀ transition, s.begun = some transition → s.remaining = 0 →
    s.state = .disabled ∧ s.effects = cfg.allEffects transition
  /-- Until then the engine thread can go on. -/
  goesOn : s.remaining ≠ 0 → ((machine cfg).step s .advance).isSome
  /-- Whatever happens besides, it is worked off by its own statements. -/
  worksOff : s.begun ≠ none → ∀ more t, (machine cfg).exec s more = some t →
    t.begun = s.begun ∧ t.remaining + more.countP FaultLabel.isAdvance = s.remaining
  /-- The first fault accepted waits to be reported, or is the one reported, unless the transition
  is of a fault of the engine thread. -/
  reported : ∀ fault, s.accepted.head? = some fault →
    s.begun = none ∧ s.waiting = some fault ∨
      ∃ transition, s.begun = some transition ∧
        (transition.requested = true → transition.fault = fault)

/-- Outside the transition nothing of it is left. -/
theorem remaining_eq_zero (h : ¬s.Transitioning) : s.remaining = 0 := by
  rw [remaining]
  split
  · rename_i hengine
    exact absurd ⟨_, _, hengine⟩ h
  all_goals rfl

/-- The first fault that was accepted waits, or a transition that was asked for is of it. -/
theorem Reporting.reported (hs : s.Reporting) (fault : PendingFault)
    (hfirst : s.accepted.head? = some fault) :
    s.begun = none ∧ s.waiting = some fault ∨
      ∃ transition, s.begun = some transition ∧
        (transition.requested = true → transition.fault = fault) := by
  rcases hbegun : s.begun with - | transition
  · exact Or.inl ⟨rfl, (hs.first hbegun).symm.trans hfirst⟩
  · refine Or.inr ⟨transition, rfl, fun hrequested ↦ ?_⟩
    exact Option.some.inj ((hs.requested _ hbegun hrequested).symm.trans hfirst)

/-- There is at most one transition. -/
theorem Inv.singleTransition (hs : s.Inv cfg) : s.SingleTransition cfg := by
  have hreported := hs.reporting.reported
  have hworksOff : s.begun ≠ none → ∀ more t, (machine cfg).exec s more = some t →
      t.begun = s.begun ∧ t.remaining + more.countP FaultLabel.isAdvance = s.remaining :=
    fun hbegun _ _ hrun ↦ remaining_exec hs hbegun hrun
  cases hs.phase with
  | healthy hstate hmoves heffects hbegun hengine =>
    refine ⟨?_, fun _ ↦ ⟨hstate, heffects⟩, ?_, ?_, ?_, ?_, hworksOff, hreported⟩
    · rw [hstate, hmoves]
      exact mem_cons_self
    · rw [hbegun]
      exact nofun
    · rw [heffects]
      exact nodup_nil
    · rw [hbegun]
      exact nofun
    · exact fun h ↦ absurd (remaining_eq_zero hengine) h
  | disabling done rest transition hall hrest hstate hmoves heffects hbegun hengine =>
    have hpart : s.effects ++ rest.flatMap (cfg.effects transition) =
        cfg.allEffects transition := by
      rw [FaultConfig.allEffects, hall, flatMap_append, heffects]
    refine ⟨?_, ?_, fun tr htr ↦ ?_, ?_, fun tr htr hzero ↦ ?_, fun _ ↦ ?_, hworksOff,
      hreported⟩
    · rw [hstate, hmoves]
      exact mem_cons_of_mem _ mem_cons_self
    · rw [hbegun]
      exact nofun
    · obtain rfl := Option.some.inj (hbegun.symm.trans htr)
      exact ⟨_, hpart⟩
    · have hnodup := cfg.nodup_allEffects transition
      rw [← hpart] at hnodup
      exact (nodup_append.1 hnodup).1
    · rw [remaining, hengine] at hzero
      exact absurd (eq_nil_of_length_eq_zero hzero) hrest
    · rcases rest with - | ⟨stage, rest⟩
      · exact absurd rfl hrest
      · show (s.step cfg .advance).isSome
        rw [step, hengine]
        rfl
  | disabled transition hstate hmoves heffects hbegun hengine =>
    refine ⟨?_, ?_, fun tr htr ↦ ?_, ?_, fun tr htr _ ↦ ?_, ?_, hworksOff, hreported⟩
    · rw [hstate, hmoves]
      exact mem_cons_of_mem _ (mem_cons_of_mem _ mem_cons_self)
    · rw [hbegun]
      exact nofun
    · obtain rfl := Option.some.inj (hbegun.symm.trans htr)
      exact ⟨[], by rw [heffects, append_nil]⟩
    · rw [heffects]
      exact cfg.nodup_allEffects transition
    · obtain rfl := Option.some.inj (hbegun.symm.trans htr)
      exact ⟨hstate, heffects⟩
    · exact fun h ↦ absurd (remaining_eq_zero hengine) h

/-- **The fault transition**: in every run of any interleaving of requests, ticks and faults of the
engine thread there is at most one transition, and it is a whole one. -/
theorem single_transition (cfg : FaultConfig) (labels : List FaultLabel)
    (hrun : (machine cfg).exec (machine cfg).init labels = some t) : t.SingleTransition cfg := by
  have hinv : t.Inv cfg := StepMachine.invariant_of_exec (I := Inv cfg)
    (fun _ _ _ hs h ↦ inv_step hs h) (inv_init cfg) hrun
  exact hinv.singleTransition

/-- Two requests, of which the first fills the mailbox and the second comes after the transition has
begun; a hook throws in the middle of it. -/
def requestThenHook : List FaultLabel :=
  [.requestDisable 0 ⟨"transport", "rpc_internal", "a"⟩,
    .requestDisable 1 ⟨"handler", "oom", "b"⟩, .fillMailbox 0, .beginTick, .swapFault,
    .drainFault 9, .advance, .fillMailbox 1, .engineFault ⟨"callback", "oom", "unit_created"⟩ 9,
    .advance, .advance, .advance, .advance, .advance, .beginTick, .swapFault, .drainFault 10]

theorem single_transition_requestThenHook :
    ∃ t, (machine ⟨true, "hb.sock", "highbar.token", "highbar.health"⟩).exec
        (machine ⟨true, "hb.sock", "highbar.token", "highbar.health"⟩).init requestThenHook =
          some t ∧
      t.begun = some ⟨⟨"transport", "rpc_internal", "a"⟩, 9, true⟩ ∧ t.effects.length = 6 ∧
      t.SingleTransition ⟨true, "hb.sock", "highbar.token", "highbar.health"⟩ :=
  ⟨_, rfl, rfl, by decide, single_transition _ requestThenHook rfl⟩

/-! ### What the health file says -/

/-- The call of `WriteHealthFile` among the effects, with what the C library answers to it and the
files it finds. -/
def healthFileCall (answers : Grpc.FileAnswers) (files : Grpc.Files) (pid : ℤ) :
    FaultEffect → Option (Bool × List Grpc.Files)
  | .writeHealthFile path healthy fault frame =>
    some (Grpc.writeHealthFile answers files path pid healthy (Grpc.ascii fault.subsystem)
      (Grpc.ascii fault.reason) (Grpc.ascii fault.detail) frame)
  | _ => none

/-- What a reader is to find in the health file after a transition. -/
def healthFields (transition : Transition) (pid : ℤ) :
    List (JsonText.Bytes × JsonText.Value) :=
  Grpc.healthFields pid false (Grpc.ascii transition.fault.subsystem)
    (Grpc.ascii transition.fault.reason) (Grpc.ascii transition.fault.detail) transition.frame

/-- `WriteHealthFile` was called once, and what it wrote, as a whole or not at all, tells the
transition. -/
def HealthFileTells (cfg : FaultConfig) (s : FaultState) (transition : Transition) : Prop :=
  ∀ answers files pid, ∃ call body,
    s.effects.filterMap (healthFileCall answers files pid) = [call] ∧
      Grpc.WrittenWhole answers files cfg.healthFilePath body call ∧
      JsonText.parseObject body = some (healthFields transition pid)

/-- A finished transition has told the health file. -/
theorem SingleTransition.healthFileTells (hs : s.SingleTransition cfg) {transition : Transition}
    (hbegun : s.begun = some transition) (hdone : s.remaining = 0) :
    s.HealthFileTells cfg transition := by
  intro answers files pid
  refine ⟨_, _, ?_, Grpc.writtenWhole_writeHealthFile answers files cfg.healthFilePath pid false
    (Grpc.ascii transition.fault.subsystem) (Grpc.ascii transition.fault.reason)
    (Grpc.ascii transition.fault.detail) transition.frame, Grpc.parseObject_healthBody ..⟩
  rw [(hs.complete transition hbegun hdone).2, FaultConfig.allEffects, filterMap_flatMap]
  simp only [TransitionStage.all, flatMap_cons, flatMap_nil, FaultConfig.effects]
  split_ifs <;> rfl

/-- **The health file tells the fault**, however the faults, requests and ticks were interleaved and
whatever fails in writing it: it is written in one call, a reader finds the old contents or all of
the new ones, and the new ones are read as the fault that won. -/
theorem health_file_tells_fault (cfg : FaultConfig) (labels : List FaultLabel)
    {transition : Transition} (hrun : (machine cfg).exec (machine cfg).init labels = some t)
    (hbegun : t.begun = some transition) (hdone : t.remaining = 0) :
    t.HealthFileTells cfg transition :=
  (StepMachine.invariant_of_exec (I := Inv cfg) (fun _ _ _ hs h ↦ inv_step hs h) (inv_init cfg)
    hrun).singleTransition.healthFileTells hbegun hdone

theorem health_file_tells_fault_requestThenHook :
    ∃ t, (machine ⟨false, "", "", "h"⟩).exec (machine ⟨false, "", "", "h"⟩).init requestThenHook =
        some t ∧
      t.HealthFileTells ⟨false, "", "", "h"⟩ ⟨⟨"transport", "rpc_internal", "a"⟩, 9, true⟩ :=
  ⟨_, rfl, health_file_tells_fault _ requestThenHook rfl rfl rfl⟩

end FaultState

end HighBar.Module
