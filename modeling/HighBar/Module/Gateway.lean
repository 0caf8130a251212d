import HighBar.Grpc.CommandDispatch
import HighBar.Grpc.CommandQueue
import HighBar.Grpc.RingBuffer
import HighBar.Grpc.SnapshotTick
import HighBar.Module.AdminFlow
import HighBar.Proto.Delta
import HighBar.Proto.State

/-!
# The gateway: hooks, ticks and faults

`CGrpcGatewayModule` as one machine. The engine thread calls hooks, which add events to the delta of
the frame, and once a frame `OnFrameTick`, which drains the queues the workers fill and publishes.
Faults disable the gateway for good.

## Steps

A tick is cut where the source has a call that may throw or that another party can observe:
`TickPhase` is the place the engine thread has reached in it. **What a call comes back with, and
where building an update throws, is part of the label.** So is the engine's own state: its frame,
and the units of the team. The engine may call a hook from inside a dispatch or an application, so
hooks are steps of their own there as well.

A fault inside an emitter, a hook or a dispatch is caught where it happens and the tick goes on; an
exception elsewhere in the tick ends it. Either way the state leaves `Healthy`.

## The log

Beside its state the machine keeps what it did, oldest first: the numbers it handed to the ring, the
updates it published, the commands it drained and what became of each, the actions it applied, and
the moment it left `Healthy`.

The admin part of a tick is that of `AdminFlow`, seen at the gateway's own frame, ring head and
state.
-/

namespace HighBar.Module

open Grpc

/-- `GatewayState`. -/
inductive GatewayState where
  | healthy
  | disabling
  | disabled
deriving Repr, DecidableEq

/-- Where building or publishing an update throws. -/
inductive EmitFault where
  /-- Before `++seq_`. -/
  | numbering
  /-- After `++seq_`, before the events are moved out of the accumulator. -/
  | building
  /-- After that, before the push. -/
  | serializing
  /-- After the push, before the update is published. -/
  | publishing
  /-- After the update was published. -/
  | forwarding
deriving Repr, DecidableEq

/-- Where a hook throws. -/
inductive HookFault where
  | beforeEvent
  | afterEvent
deriving Repr, DecidableEq

/-- An engine hook. A unit is its id, `none` for a null pointer. -/
inductive Hook where
  | unitCreated (unit builder : Option ℤ)
  | unitFinished (unit : Option ℤ)
  | unitIdle (unit : Option ℤ)
  | onUnitDamagedFull (unit attacker : Option ℤ) (damage : FloatValue) (dir : Vector3)
      (weaponDefId : ℤ) (paralyzer : Bool)
  | unitDestroyed (unit attacker : Option ℤ)
  | unitGiven (unit : Option ℤ) (oldTeam newTeam : ℤ)
  | unitCaptured (unit : Option ℤ) (oldTeam newTeam : ℤ)
  | onUnitMoveFailed (unit : Option ℤ)
  | onEnemyEnterLOS (enemy : Option ℤ)
  | onEnemyLeaveLOS (enemy : Option ℤ)
  | onEnemyEnterRadar (enemy : Option ℤ)
  | onEnemyLeaveRadar (enemy : Option ℤ)
  | onEnemyDamaged (enemy : Option ℤ)
  | onEnemyDestroyed (enemy : Option ℤ)
  | onFeatureCreated (featureId defId : ℤ) (position : Vector3)
  | onFeatureDestroyed (featureId : ℤ)
deriving Repr, DecidableEq

/-- The event a hook adds; none for a null unit. -/
def Hook.event : Hook → Option DeltaEvent
  | .unitCreated unit builder => unit.map (.unitCreated · (builder.getD 0))
  | .unitFinished unit => unit.map .unitFinished
  | .unitIdle unit => unit.map .unitIdle
  | .onUnitDamagedFull unit attacker damage dir weaponDefId paralyzer =>
    -- negative damage is clamped
    unit.map (.unitDamaged · (attacker.getD 0) (if FloatValue.zero.lt damage then damage else .zero)
      dir weaponDefId paralyzer)
  | .unitDestroyed unit attacker => unit.map (.unitDestroyed · (attacker.getD 0))
  | .unitGiven unit oldTeam newTeam => unit.map (.unitGiven · oldTeam newTeam)
  | .unitCaptured unit oldTeam newTeam => unit.map (.unitCaptured · oldTeam newTeam)
  | .onUnitMoveFailed unit => unit.map .unitMoveFailed
  | .onEnemyEnterLOS enemy => enemy.map .enemyEnterLos
  | .onEnemyLeaveLOS enemy => enemy.map .enemyLeaveLos
  | .onEnemyEnterRadar enemy => enemy.map .enemyEnterRadar
  | .onEnemyLeaveRadar enemy => enemy.map .enemyLeaveRadar
  | .onEnemyDamaged enemy => enemy.map .enemyDamaged
  | .onEnemyDestroyed enemy => enemy.map .enemyDestroyed
  | .onFeatureCreated featureId defId position =>
    some (.featureCreated (ofSigned 32 featureId) (ofSigned 32 defId) position)
  | .onFeatureDestroyed featureId => some (.featureDestroyed (ofSigned 32 featureId))

/-- The hooks that may be the first to send a snapshot to the coordinator. -/
def Hook.emitsInitialSnapshot : Hook → Bool
  | .unitCreated .. | .unitFinished .. => true
  | _ => false

/-- No hook reports a dispatch. -/
theorem Hook.dispatch?_event {hook : Hook} {event : DeltaEvent} (h : hook.event = some event) :
    event.dispatch? = none := by
  cases hook
  all_goals
    simp only [Hook.event, Option.map_eq_some_iff, Option.some.injEq] at h
    obtain ⟨unit, -, rfl⟩ := h
    rfl

/-- An entry of `GetTeamUnits`: its key, and `IsDead` of the unit unless the pointer is null. -/
structure TeamUnit where
  id : ℤ
  isDead : Option Bool
deriving Repr, DecidableEq

/-- How far the engine thread is in a tick. -/
inductive TickPhase where
  /-- Between ticks. -/
  | idle
  /-- Past the test of the state. -/
  | prologue
  | initialSnapshot
  | heartbeat
  | admin
  | drain
  /-- Drained commands not yet handled. -/
  | dispatching (batch : List QueuedCommand)
  | pump
  | economy
  | flush
deriving Repr, DecidableEq

/-- The drained commands not yet handled. -/
def TickPhase.batch : TickPhase → List QueuedCommand
  | .dispatching batch => batch
  | _ => []

/-- The phases in which the engine is in control, or is inside a call the gateway made. -/
def TickPhase.engineRuns : TickPhase → Bool
  | .idle | .admin | .dispatching _ => true
  | _ => false

/-- What the gateway did. -/
inductive GatewayEvent where
  /-- A number handed to `RingBuffer::Push`. -/
  | handed (seq : ℕ)
  | published (update : StateUpdate UpdateBody)
  | drained (batch : List QueuedCommand)
  /-- A drained command was handled, with what `DispatchCommand` came back with if it was called. -/
  | handled (entry : QueuedCommand) (outcome : Option (Outcome Bool))
  /-- `ApplyAdminAction` was called for the call with this id. -/
  | applied (id : RpcId)
  | leftHealthy
deriving Repr, DecidableEq

/-- The events that reach clients or the engine. -/
def GatewayEvent.isEffect : GatewayEvent → Bool
  | .handed _ | .published _ | .handled _ (some _) | .applied _ => true
  | .drained _ | .handled _ none | .leftHealthy => false

/-- The gateway. -/
structure Gateway where
  /-- `coordinator_endpoint_` is set. -/
  hasCoordinator : Bool
  state : GatewayState
  /-- `seq_`. -/
  seq : ℕ
  ring : RingBuffer (StateUpdate UpdateBody)
  /-- `current_frame_delta_`. -/
  events : List DeltaEvent
  framesSinceLastFlush : ℕ
  /-- `pending_fault_` is set. -/
  pendingFault : Bool
  queue : CommandQueue
  admin : AdminFlow
  snapshotTick : SnapshotTick
  /-- `coordinator_client_` is set. -/
  coordinatorClient : Bool
  /-- `coordinator_initial_snapshot_sent_`. -/
  initialSnapshotSent : Bool
  /-- `circuit->GetLastFrame()`; negative before the match. -/
  lastFrame : ℤ
  /-- `current_frame_`. -/
  currentFrame : ℕ
  /-- `circuit->GetTeamUnits()`, in key order. -/
  teamUnits : List TeamUnit
  framesSinceBind : ℕ
  frameCounter : ℕ
  phase : TickPhase
  log : List GatewayEvent

/-- `kKeepAliveFrames`. -/
def kKeepAliveFrames : ℕ := 30

/-- `kEconomyEveryNFrames`. -/
def kEconomyEveryNFrames : ℕ := 30

/-- `kHeartbeatEveryNFrames`. -/
def kHeartbeatEveryNFrames : ℕ := 30

namespace Gateway

/-! ### Faults and emission -/

/-- Add to the log. -/
def record (g : Gateway) (event : GatewayEvent) : Gateway := { g with log := g.log ++ [event] }

/-- `TransitionToDisabled`. The engine thread runs it to its end, through `Disabling`. -/
def transitionToDisabled (g : Gateway) : Gateway :=
  match g.state with
  | .healthy => { g with state := .disabled, log := g.log ++ [.leftHealthy] }
  | .disabling | .disabled => g

/-- `FrameForWire`. -/
def frameForWire (g : Gateway) : ℕ := if 0 ≤ g.lastFrame then g.lastFrame.toNat % 2 ^ 32 else 0

/-- `++seq_`. -/
def bumpSeq (g : Gateway) : Gateway := { g with seq := wrapAdd 64 g.seq 1 }

/-- The part of an emitter from the push on. -/
def pushAndPublish (g : Gateway) (body : UpdateBody) (fault : Option EmitFault) : Gateway :=
  let update : StateUpdate UpdateBody := ⟨g.seq, g.frameForWire, body⟩
  match g.ring.push g.seq update with
  | .error _ => (g.record (.handed g.seq)).transitionToDisabled
  | .ok ring =>
    let pushed : Gateway := { g.record (.handed g.seq) with ring := ring }
    if fault = some .publishing then pushed.transitionToDisabled
    else if fault = some .forwarding then
      (pushed.record (.published update)).transitionToDisabled
    else pushed.record (.published update)

/-- What the three emitters share. -/
def emit (g : Gateway) (body : UpdateBody) (fault : Option EmitFault) : Gateway :=
  match fault with
  | some .numbering => g.transitionToDisabled
  | some .building | some .serializing => g.bumpSeq.transitionToDisabled
  | none | some .publishing | some .forwarding => g.bumpSeq.pushAndPublish body fault

/-- `FlushDelta`; up to `building` the accumulator keeps its events. -/
def flushDelta (g : Gateway) (fault : Option EmitFault) : Gateway :=
  match fault with
  | some .numbering | some .building => g.emit (.delta g.events) fault
  | none | some .serializing | some .publishing | some .forwarding =>
    ({ g with events := [] } : Gateway).emit (.delta g.events) fault

/-- `EmitKeepAlive`. -/
def emitKeepAlive (g : Gateway) (fault : Option EmitFault) : Gateway := g.emit .keepalive fault

/-- `BroadcastSnapshot`. -/
def broadcastSnapshot (g : Gateway) (effectiveCadenceFrames : ℕ) (fault : Option EmitFault) :
    Gateway :=
  g.emit (.snapshot effectiveCadenceFrames g.frameForWire) fault

/-- `MaybeEmitInitialCoordinatorSnapshot` goes on to emit. -/
def initialSnapshotDue (g : Gateway) : Bool :=
  !g.initialSnapshotSent && g.hasCoordinator && decide (0 ≤ g.lastFrame) && !g.teamUnits.isEmpty

/-- `MaybeEmitInitialCoordinatorSnapshot`. -/
def maybeEmitInitialCoordinatorSnapshot (g : Gateway) (fault : Option EmitFault) : Gateway :=
  if g.initialSnapshotDue then
    ({ g with coordinatorClient := true, initialSnapshotSent := true } :
      Gateway).broadcastSnapshot 1 fault
  else g

/-! ### Hooks -/

/-- Add to the delta of the frame. -/
def addEvent (g : Gateway) (event : DeltaEvent) : Gateway :=
  { g with events := g.events ++ [event] }

/-- The guard of a hook: nothing unless `Healthy`, and an exception disables. -/
def guardHook (g : Gateway) (event : DeltaEvent) (fault : Option HookFault)
    (rest : Gateway → Gateway) : Gateway :=
  if g.state = .healthy then
    match fault with
    | some .beforeEvent => g.transitionToDisabled
    | some .afterEvent => (g.addEvent event).transitionToDisabled
    | none => rest (g.addEvent event)
  else g

/-- A hook; `emitFault` is where its own emission throws, if it makes one. -/
def runHook (g : Gateway) (hook : Hook) (fault : Option HookFault) (emitFault : Option EmitFault) :
    Gateway :=
  match hook.event with
  | none => g
  | some event =>
    g.guardHook event fault fun g ↦
      if hook.emitsInitialSnapshot then g.maybeEmitInitialCoordinatorSnapshot emitFault else g

/-- `OnEconomyTick`; without an economy manager the event stays empty. -/
def onEconomyTick (g : Gateway) (economy : Option EconomyTickEvent) (fault : Option HookFault) :
    Gateway :=
  g.guardHook (.economyTick (economy.getD {})) fault id

/-! ### Dispatch -/

/-- `GetTeamUnit`: `IsDead` of the unit it finds. -/
def getTeamUnit (g : Gateway) (id : ℤ) : Option Bool :=
  (g.teamUnits.find? fun unit ↦ unit.id = id).bind TeamUnit.isDead

/-- What becomes of a drained command before `DispatchCommand` is called. -/
inductive Resolution where
  | skip (status : CommandDispatchStatus) (issue : Option CommandIssue)
  | dispatch (target : ℤ)
deriving Repr, DecidableEq

/-- The checks of `DrainCommandQueue`. -/
def resolve (g : Gateway) (entry : QueuedCommand) : Resolution :=
  match effectiveDispatchTargetUnitId entry.authoritativeTargetUnitId entry.command with
  | none =>
    .skip .skippedUnsupportedArm (some
      { code := .commandArmNotDispatched
        fieldPath := "commands"
        detail := "command arm is not dispatched"
        retryHint := .withFreshCapabilities })
  | some target =>
    if 0 < target then
      match g.getTeamUnit target with
      | none =>
        .skip .skippedTargetMissing (some
          { code := .missingTargetUnit
            fieldPath := "target_unit_id"
            detail := "target unit missing at dispatch time"
            retryHint := .afterNextSnapshot })
      | some true =>
        .skip .skippedTargetDead (some
          { code := .targetUnitDead
            fieldPath := "target_unit_id"
            detail := "target unit dead at dispatch time"
            retryHint := .afterNextSnapshot })
      | some false => .dispatch target
    else
      -- any own unit serves as the context of a game-wide arm
      match g.teamUnits with
      | [] => .skip .skippedEngineNotReady none
      | unit :: _ =>
        match unit.isDead with
        | none => .skip .skippedEngineNotReady none
        | some _ => .dispatch target

/-- The event of a drained command, before its outcome is known. -/
def dispatchEvent (g : Gateway) (entry : QueuedCommand) : CommandDispatchEvent where
  batchSeq := entry.batchSeq
  clientCommandId := entry.clientCommandId
  commandIndex := entry.commandIndex
  targetUnitId := ofSigned 32 entry.authoritativeTargetUnitId
  frame := g.currentFrame

/-- The issue of a command that `DispatchCommand` turned down. -/
def skippedByDispatcherIssue : CommandIssue where
  code := .commandArmNotDispatched
  fieldPath := "commands"
  detail := "command arm was skipped by dispatcher"
  retryHint := .withFreshCapabilities

/-- What `DispatchCommand` came back with, if it is called. -/
def dispatchOutcome (g : Gateway) (entry : QueuedCommand) (outcome : Outcome Bool) :
    Option (Outcome Bool) :=
  match g.resolve entry with
  | .skip .. => none
  | .dispatch _ => some outcome

/-- The event of a drained command as it is left. -/
def finishedEvent (g : Gateway) (entry : QueuedCommand) (outcome : Outcome Bool) :
    CommandDispatchEvent :=
  match g.resolve entry with
  | .skip status issue => { g.dispatchEvent entry with status := status, issue := issue }
  | .dispatch _ =>
    match outcome with
    | .returned true => { g.dispatchEvent entry with status := .applied }
    | .returned false =>
      { g.dispatchEvent entry with
        status := .skippedUnsupportedArm
        issue := some skippedByDispatcherIssue }
    | .threw => g.dispatchEvent entry

/-- One turn of the loop of `DrainCommandQueue`; an exception leaves the loop. -/
def handleCommand (g : Gateway) (entry : QueuedCommand) (rest : List QueuedCommand)
    (outcome : Outcome Bool) : Gateway :=
  let handled :=
    (g.addEvent (.commandDispatch (g.finishedEvent entry outcome))).record
      (.handled entry (g.dispatchOutcome entry outcome))
  if g.dispatchOutcome entry outcome = some .threw then
    { handled.transitionToDisabled with phase := .pump }
  else { handled with phase := .dispatching rest }

/-! ### The admin part of a tick -/

/-- The admin flow at the gateway's own frame, ring head and state. -/
def adminView (g : Gateway) : AdminFlow :=
  { g.admin with
    frame := g.currentFrame
    stateSeq := g.ring.headSeq
    healthy := decide (g.state = .healthy) }

/-- A step of the admin flow. -/
def adminStep (g : Gateway) (label : AdminLabel) : Option Gateway :=
  (g.adminView.step label).map fun admin ↦ { g with admin := admin }

/-- An exception reaches the handler of `OnFrameTick`. -/
def tickThrew (g : Gateway) : Gateway :=
  { g.transitionToDisabled with phase := .idle, admin := { g.admin with engine := .idle } }

/-- `ApplyAdminAction` of the entry the drain is at. -/
def applyEntry (g : Gateway) (outcome : Outcome Bool) : Option Gateway :=
  match g.admin.engine with
  | .applying id _ _ =>
    (g.adminStep (.applyEntry outcome)).map fun h ↦
      match outcome with
      | .returned _ => h.record (.applied id)
      | .threw => (h.record (.applied id)).tickThrew
  | _ => none

/-! ### The tick -/

/-- The top of `OnFrameTick`: a fault a worker asked for, then the test of the state. -/
def beginTick (g : Gateway) (lastFrame : ℤ) : Option Gateway :=
  let g : Gateway := { g with lastFrame := lastFrame }
  let drained : Gateway :=
    if g.pendingFault then ({ g with pendingFault := false } : Gateway).transitionToDisabled else g
  if drained.state = .healthy then
    (drained.adminStep .beginTick).map fun h ↦ { h with phase := .prologue }
  else some drained

/-- Counting the frame, binding the service and starting the coordinator client. -/
def prologue (g : Gateway) (outcome : Outcome Unit) : Gateway :=
  let counted : Gateway :=
    { g with
      framesSinceBind := wrapAdd 32 g.framesSinceBind 1
      frameCounter := wrapAdd 32 g.frameCounter 1 }
  match outcome with
  | .threw => counted.tickThrew
  | .returned _ =>
    { counted with
      coordinatorClient := g.coordinatorClient || (g.hasCoordinator && decide (0 ≤ g.lastFrame))
      phase := .initialSnapshot }

/-- `SendHeartbeat` is called in this tick. -/
def heartbeatDue (g : Gateway) : Bool :=
  g.coordinatorClient && decide (g.frameCounter % kHeartbeatEveryNFrames = 0)

/-- `SendHeartbeat`, which is the only call here that may throw. -/
def heartbeat (g : Gateway) (outcome : Outcome Unit) : Gateway :=
  if g.heartbeatDue && decide (outcome = .threw) then g.tickThrew else { g with phase := .admin }

/-- The `Drain` of `DrainCommandQueue`. -/
def drain (g : Gateway) : Gateway :=
  match g.queue.drain (some []) 0 with
  | (_, batch, queue) =>
    { g.record (.drained (batch.getD [])) with
      queue := queue
      phase := .dispatching (batch.getD []) }

/-- The snapshot scheduler. -/
def pump (g : Gateway) (fault : Option EmitFault) : Gateway :=
  let pumped := g.snapshotTick.pump g.frameForWire g.teamUnits.length
  let next : Gateway :=
    { g with
      currentFrame := g.frameForWire
      snapshotTick := pumped.2
      phase := .economy }
  if pumped.1.emit then next.broadcastSnapshot pumped.1.effectiveCadenceFrames fault else next

/-- The economy event is added in this tick. -/
def economyDue (g : Gateway) : Bool :=
  decide (0 < g.framesSinceBind) && decide (g.framesSinceBind % kEconomyEveryNFrames = 0)

/-- `OnEconomyTick`, every so many frames. -/
def economy (g : Gateway) (values : Option EconomyTickEvent) (fault : Option HookFault) : Gateway :=
  let next : Gateway := { g with phase := .flush }
  if g.economyDue then next.onEconomyTick values fault else next

/-- `EmitKeepAlive` is called in this tick, if there is no event. -/
def keepAliveDue (g : Gateway) : Bool :=
  decide (kKeepAliveFrames ≤ wrapAdd 32 g.framesSinceLastFlush 1)

/-- The end of the tick: the delta, or a keep-alive after a quiet time. -/
def flush (g : Gateway) (fault : Option EmitFault) : Gateway :=
  let next : Gateway := { g with phase := .idle }
  if g.events ≠ [] then { next.flushDelta fault with framesSinceLastFlush := 0 }
  else if g.keepAliveDue then { next.emitKeepAlive fault with framesSinceLastFlush := 0 }
  else { next with framesSinceLastFlush := wrapAdd 32 g.framesSinceLastFlush 1 }

end Gateway

/-- The labels of the admin flow that are steps of a worker. -/
def AdminLabel.isWorker : AdminLabel → Bool
  | .start .. | .checkHealthy _ | .enqueue _ | .timeOut _ | .receive _ | .executeRejected _ => true
  | .beginTick | .expireLeases | .swapPending | .validateEntry | .applyEntry _ => false
  | .executeEntry | .complete | .endTick | .advance .. | .disable => false

/-- The labels of the admin flow that are steps of the drain, but for the application itself. -/
def AdminLabel.isDrain : AdminLabel → Bool
  | .expireLeases | .swapPending | .validateEntry | .executeEntry | .complete => true
  | .start .. | .checkHealthy _ | .enqueue _ | .timeOut _ | .receive _ | .executeRejected _ => false
  | .beginTick | .applyEntry _ | .endTick | .advance .. | .disable => false

/-- One step of the engine, of the engine thread or of a worker. -/
inductive GatewayLabel where
  /-- Units are born and die. -/
  | units (teamUnits : List TeamUnit)
  | hook (hook : Hook) (fault : Option HookFault) (emitFault : Option EmitFault)
  | beginTick (lastFrame : ℤ)
  | prologue (outcome : Outcome Unit)
  | initialSnapshot (fault : Option EmitFault)
  | heartbeat (outcome : Outcome Unit)
  | admin (label : AdminLabel)
  | applyEntry (outcome : Outcome Bool)
  | endAdmin
  | drain
  | dispatchNext (outcome : Outcome Bool)
  | endDrain
  | pump (fault : Option EmitFault)
  | economy (values : Option EconomyTickEvent) (fault : Option HookFault)
  | flush (fault : Option EmitFault)
  /-- `RequestDisable`. -/
  | requestDisable
  /-- The flag of `RequestSnapshot`. -/
  | requestSnapshot
  /-- A call that fills the command queue. -/
  | submit (call : ProducerCall)

namespace Gateway

/-- One step. -/
def step (g : Gateway) : GatewayLabel → Option Gateway
  | .units teamUnits =>
    if g.phase.engineRuns then some { g with teamUnits := teamUnits } else none
  | .hook hook fault emitFault =>
    if g.phase.engineRuns then some (g.runHook hook fault emitFault) else none
  | .beginTick lastFrame => if g.phase = .idle then g.beginTick lastFrame else none
  | .prologue outcome => if g.phase = .prologue then some (g.prologue outcome) else none
  | .initialSnapshot fault =>
    if g.phase = .initialSnapshot then
      some { g.maybeEmitInitialCoordinatorSnapshot fault with phase := .heartbeat }
    else none
  | .heartbeat outcome => if g.phase = .heartbeat then some (g.heartbeat outcome) else none
  | .admin label =>
    if label.isWorker || (label.isDrain && decide (g.phase = .admin)) then g.adminStep label
    else none
  | .applyEntry outcome => if g.phase = .admin then g.applyEntry outcome else none
  | .endAdmin =>
    if g.phase = .admin then (g.adminStep .endTick).map fun h ↦ { h with phase := .drain } else none
  | .drain => if g.phase = .drain then some g.drain else none
  | .dispatchNext outcome =>
    match g.phase with
    | .dispatching (entry :: rest) => some (g.handleCommand entry rest outcome)
    | _ => none
  | .endDrain => if g.phase = .dispatching [] then some { g with phase := .pump } else none
  | .pump fault => if g.phase = .pump then some (g.pump fault) else none
  | .economy values fault => if g.phase = .economy then some (g.economy values fault) else none
  | .flush fault => if g.phase = .flush then some (g.flush fault) else none
  | .requestDisable =>
    some (if g.state = .healthy then { g with pendingFault := true } else g)
  | .requestSnapshot =>
    some { g with snapshotTick := { g.snapshotTick with pendingRequest := true } }
  | .submit call => some { g with queue := (call.run g.queue).2 }

end Gateway

/-- What the gateway is built from. -/
structure GatewayConfig where
  hasCoordinator : Bool := false
  snapshotTick : SnapshotTickConfig := {}
  ringSize : ℕ
  queueCapacity : ℕ
  adminSettings : AdminSettings := {}
  /-- The ring's constructor refuses zero. -/
  ringSize_pos : 0 < ringSize
  queueCapacity_lt : queueCapacity < 2 ^ 64

namespace Gateway

/-- The constructor. -/
def create (config : GatewayConfig) : Gateway where
  hasCoordinator := config.hasCoordinator
  state := .healthy
  seq := 0
  ring := RingBuffer.empty config.ringSize config.ringSize_pos
  events := []
  framesSinceLastFlush := 0
  pendingFault := false
  queue := CommandQueue.create (some 0) config.queueCapacity config.queueCapacity_lt
  admin := AdminFlow.create config.adminSettings
  snapshotTick := SnapshotTick.configure config.snapshotTick
  coordinatorClient := false
  initialSnapshotSent := false
  lastFrame := -1
  currentFrame := 0
  teamUnits := []
  framesSinceBind := 0
  frameCounter := 0
  phase := .idle
  log := []

/-- The machine of the gateway. -/
def machine (config : GatewayConfig) : StepMachine Gateway GatewayLabel where
  init := create config
  step := step

/-- A gateway without a coordinator. -/
def standalone : GatewayConfig where
  ringSize := 4
  queueCapacity := 4
  ringSize_pos := by decide
  queueCapacity_lt := by decide

/-- A tick up to its `Drain`, with no admin action pending. Only the initial snapshot may fault. -/
def tickToDrain (lastFrame : ℤ) (snapshotFault : Option EmitFault) : List GatewayLabel :=
  [.beginTick lastFrame, .prologue (.returned ()), .initialSnapshot snapshotFault,
    .heartbeat (.returned ()), .admin .expireLeases, .admin .swapPending, .endAdmin, .drain]

/-- The rest of a tick, once its batch has been handled. Only the two emitters may fault. -/
def tickFromDrain (pumpFault flushFault : Option EmitFault) : List GatewayLabel :=
  [.endDrain, .pump pumpFault, .economy none none, .flush flushFault]

end Gateway

end HighBar.Module
