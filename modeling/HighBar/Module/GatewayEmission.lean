import HighBar.Module.Gateway

/-!
# What an emission can do, and what is left of a tick

Three emitters share the counter `seq_`, and each catches its own exceptions. `emit_cases` says once
**what an emission can do**: nothing, spend a number, or hand one to the ring and perhaps publish.
All of it happens in four fields, the state, the counter, the ring and the log (`SameWork`), so an
emission never changes what is left for the rest of the tick.

What is left is read off the place the tick has reached. `emissionLeft` says that the tick will, or
may, begin another update after this point, **if no further event is added**; a gateway that has
left `Healthy` adds none but the reports of the commands it drains, so for such a gateway it is
exact.
-/

namespace HighBar.Module

open Grpc Option

namespace Gateway

variable {g h : Gateway} {body : UpdateBody} {fault : Option EmitFault}

/-! ### The fields a fault or an emission touches -/

/-- `h` differs from `g` in the state, the counter, the ring and the log only. -/
def SameWork (g h : Gateway) : Prop :=
  h = { g with state := h.state, seq := h.seq, ring := h.ring, log := h.log }

theorem SameWork.trans {k : Gateway} (hgh : g.SameWork h) (hhk : h.SameWork k) : g.SameWork k := by
  rw [SameWork] at hgh hhk ⊢
  rw [hhk, hgh]

theorem sameWork_record (event : GatewayEvent) : g.SameWork (g.record event) := rfl

theorem sameWork_transitionToDisabled : g.SameWork g.transitionToDisabled := by
  rw [SameWork, transitionToDisabled]
  split
  · rfl
  · rfl
  · rfl

theorem sameWork_bumpSeq : g.SameWork g.bumpSeq := rfl

theorem sameWork_pushAndPublish : g.SameWork (g.pushAndPublish body fault) := by
  simp only [pushAndPublish]
  split
  · exact (sameWork_record _).trans sameWork_transitionToDisabled
  · split_ifs
    · refine SameWork.trans ?_ sameWork_transitionToDisabled
      rfl
    · refine SameWork.trans ?_ sameWork_transitionToDisabled
      rfl
    · rfl

/-- An emission leaves the work of the tick alone. -/
theorem sameWork_emit : g.SameWork (g.emit body fault) := by
  cases fault with
  | none => exact sameWork_bumpSeq.trans sameWork_pushAndPublish
  | some fault =>
    cases fault with
    | numbering => exact sameWork_transitionToDisabled
    | building | serializing => exact sameWork_bumpSeq.trans sameWork_transitionToDisabled
    | publishing | forwarding => exact sameWork_bumpSeq.trans sameWork_pushAndPublish

namespace SameWork

theorem phase_eq (h' : g.SameWork h) : h.phase = g.phase := by rw [h']

theorem events_eq (h' : g.SameWork h) : h.events = g.events := by rw [h']

end SameWork

/-! ### Faults -/

@[simp] theorem state_transitionToDisabled : g.transitionToDisabled.state ≠ .healthy := by
  rw [transitionToDisabled]
  split
  · exact GatewayState.noConfusion
  · rename_i hs
    rw [hs]
    exact GatewayState.noConfusion
  · rename_i hs
    rw [hs]
    exact GatewayState.noConfusion

@[simp] theorem seq_transitionToDisabled : g.transitionToDisabled.seq = g.seq := by
  rw [transitionToDisabled]
  split <;> rfl

@[simp] theorem ring_transitionToDisabled : g.transitionToDisabled.ring = g.ring := by
  rw [transitionToDisabled]
  split <;> rfl

/-- Only a healthy gateway is disabled. -/
theorem transitionToDisabled_of_ne (hstate : g.state ≠ .healthy) : g.transitionToDisabled = g := by
  rw [transitionToDisabled]
  split
  · rename_i hs
    exact absurd hs hstate
  · rfl
  · rfl

/-- The mark a transition leaves, the first time. -/
def transitionMark (g : Gateway) : List GatewayEvent :=
  if g.state = .healthy then [.leftHealthy] else []

/-- Leaving health is marked in the log. -/
@[simp] theorem log_transitionToDisabled :
    g.transitionToDisabled.log = g.log ++ g.transitionMark := by
  rw [transitionToDisabled, transitionMark]
  split
  · rename_i hs
    rw [if_pos hs]
  · rename_i hs
    rw [if_neg (by rw [hs]; exact GatewayState.noConfusion), List.append_nil]
  · rename_i hs
    rw [if_neg (by rw [hs]; exact GatewayState.noConfusion), List.append_nil]

/-- The faults that spend a number without handing it to the ring. -/
def skipsNumber (fault : Option EmitFault) : Bool :=
  decide (fault = some .building) || decide (fault = some .serializing)

/-- **What an emission can do**: nothing, spend a number, or go on to the push. -/
theorem emit_cases (g : Gateway) (body : UpdateBody) (fault : Option EmitFault) :
    fault = some .numbering ∧ g.emit body fault = g.transitionToDisabled ∨
      skipsNumber fault ∧ g.emit body fault = g.bumpSeq.transitionToDisabled ∨
      fault ≠ some .numbering ∧ ¬skipsNumber fault ∧
        g.emit body fault = g.bumpSeq.pushAndPublish body fault := by
  cases fault with
  | none => exact Or.inr (Or.inr ⟨nofun, by decide, rfl⟩)
  | some fault =>
    cases fault with
    | numbering => exact Or.inl ⟨rfl, rfl⟩
    | building | serializing => exact Or.inr (Or.inl ⟨rfl, rfl⟩)
    | publishing | forwarding => exact Or.inr (Or.inr ⟨by decide, by decide, rfl⟩)

/-- What follows the number in the log of a push that the ring accepts: the update if it got that
far, and the fault if there was one. -/
def publishMarks (g : Gateway) (body : UpdateBody) (fault : Option EmitFault) : List GatewayEvent :=
  (if fault = some .publishing then []
    else [.published ⟨g.seq, g.frameForWire, body⟩]) ++
  (if fault = some .publishing ∨ fault = some .forwarding then g.transitionMark else [])

/-- A push that the ring accepts. -/
theorem pushAndPublish_of_ok {ring : RingBuffer (StateUpdate UpdateBody)} (body : UpdateBody)
    (fault : Option EmitFault)
    (hpush : g.ring.push g.seq ⟨g.seq, g.frameForWire, body⟩ = .ok ring) :
    (g.pushAndPublish body fault).seq = g.seq ∧ (g.pushAndPublish body fault).ring = ring ∧
      (g.pushAndPublish body fault).log
        = g.log ++ .handed g.seq :: g.publishMarks body fault := by
  simp only [pushAndPublish, hpush, publishMarks]
  by_cases hpub : fault = some .publishing
  · simp [hpub, record, transitionMark]
  · by_cases hfor : fault = some .forwarding
    · simp [hfor, record, transitionMark]
    · simp [hpub, hfor, record]

/-! ### Which emissions fault -/

/-- The ring turns the next number down, as it does when the counter has wrapped. -/
def ringRefuses (g : Gateway) : Bool :=
  decide (g.ring.headSeq ≠ 0) && decide (wrapAdd 64 g.seq 1 ≤ g.ring.headSeq)

/-- An emission throws. -/
def emitFaults (g : Gateway) (fault : Option EmitFault) : Bool := fault.isSome || g.ringRefuses

/-- An emission that does not throw leaves the state alone. -/
theorem state_emit (hno : g.emitFaults fault = false) : (g.emit body fault).state = g.state := by
  rw [emitFaults, Bool.or_eq_false_iff] at hno
  obtain ⟨hfault, hring⟩ := hno
  rw [isSome_eq_false_iff, isNone_iff_eq_none] at hfault
  subst hfault
  have hkey : g.bumpSeq.ring.headSeq = 0 ∨ g.bumpSeq.ring.headSeq < g.bumpSeq.seq := by
    simp only [ringRefuses, Bool.and_eq_false_iff, decide_eq_false_iff_not, not_not,
      not_le] at hring
    exact hring
  obtain ⟨ring, hpush⟩ : ∃ ring, g.bumpSeq.ring.push g.bumpSeq.seq
      ⟨g.bumpSeq.seq, g.bumpSeq.frameForWire, body⟩ = .ok ring :=
    RingBuffer.exists_push_ok _ hkey
  show (g.bumpSeq.pushAndPublish body none).state = g.state
  simp only [pushAndPublish, hpush]
  rfl

/-- An emission that leaves the gateway healthy was published. -/
theorem emit_of_healthy (hh : (g.emit body fault).state = .healthy) :
    g.state = .healthy ∧ fault = none ∧ ∃ seq frame,
      (g.emit body fault).log = g.log ++ [.handed seq, .published ⟨seq, frame, body⟩] := by
  rcases emit_cases g body fault with ⟨-, heq⟩ | ⟨-, heq⟩ | ⟨hnum, hskip, heq⟩
  · rw [heq] at hh
    exact absurd hh state_transitionToDisabled
  · rw [heq] at hh
    exact absurd hh state_transitionToDisabled
  rw [heq] at hh ⊢
  simp only [pushAndPublish] at hh ⊢
  split at hh
  · exact absurd hh state_transitionToDisabled
  by_cases hpub : fault = some .publishing
  · rw [if_pos hpub] at hh
    exact absurd hh state_transitionToDisabled
  by_cases hfor : fault = some .forwarding
  · rw [if_neg hpub, if_pos hfor] at hh
    exact absurd hh state_transitionToDisabled
  rw [if_neg hpub, if_neg hfor] at hh
  refine ⟨hh, ?_, g.bumpSeq.seq, g.bumpSeq.frameForWire, ?_⟩
  · cases fault with
    | none => rfl
    | some fault =>
      cases fault with
      | numbering => exact absurd rfl hnum
      | building | serializing => exact absurd rfl hskip
      | publishing => exact absurd rfl hpub
      | forwarding => exact absurd rfl hfor
  · simp only [if_neg hpub, if_neg hfor]
    exact List.append_assoc ..

/-! ### What is left of a tick -/

/-- The scheduler emits at the frame of this tick. -/
def snapshotDue (g : Gateway) : Bool := g.snapshotTick.due g.frameForWire

/-- The end of the tick publishes something. -/
def flushLeft (g : Gateway) : Bool := !g.events.isEmpty || g.keepAliveDue

/-- Something is published after the admin part of the tick: draining a command adds an event. -/
def emissionAfterAdmin (g : Gateway) : Bool :=
  g.snapshotDue || !g.queue.queue.isEmpty || g.flushLeft

/-- The rest of the tick begins an update, if no further event is added. -/
def emissionLeft (g : Gateway) : Bool :=
  match g.phase with
  | .idle => false
  | .prologue | .initialSnapshot => true
  | .heartbeat | .admin | .drain => g.emissionAfterAdmin
  | .dispatching batch => g.snapshotDue || !batch.isEmpty || g.flushLeft
  | .pump => g.snapshotDue || g.flushLeft
  | .economy | .flush => g.flushLeft

theorem SameWork.emissionLeft_eq (h' : g.SameWork h) : h.emissionLeft = g.emissionLeft := by
  rw [h']
  rfl

/-! ### One step, inverted -/

/-- The hook goes on to emit the initial snapshot. -/
def hookEmits (g : Gateway) (hook : Hook) (fault : Option HookFault) : Bool :=
  decide (g.state = .healthy) && hook.event.isSome && fault.isNone && hook.emitsInitialSnapshot &&
    g.initialSnapshotDue

/-- The gateway the initial snapshot is emitted from. -/
def startInitialSnapshot (g : Gateway) : Gateway :=
  { g with coordinatorClient := true, initialSnapshotSent := true }

/-- The gateway with the report and the record of a drained command. -/
def handled (g : Gateway) (entry : QueuedCommand) (outcome : Outcome Bool) : Gateway :=
  (g.addEvent (.commandDispatch (g.finishedEvent entry outcome))).record
    (.handled entry (g.dispatchOutcome entry outcome))

/-- The gateway the periodic snapshot is emitted from. -/
def pumped (g : Gateway) : Gateway :=
  { g with
    currentFrame := g.frameForWire
    snapshotTick := (g.snapshotTick.pump g.frameForWire g.teamUnits.length).2
    phase := .economy }

/-- The delta is moved out, unless the fault comes first. -/
theorem flushDelta_eq (g : Gateway) (fault : Option EmitFault) :
    ∃ events, (events = [] ∨ events = g.events ∧ fault ≠ none) ∧
      g.flushDelta fault =
        ({ g with events := events } : Gateway).emit (.delta g.events) fault := by
  cases fault with
  | none => exact ⟨[], Or.inl rfl, rfl⟩
  | some fault =>
    cases fault with
    | numbering | building => exact ⟨g.events, Or.inr ⟨rfl, nofun⟩, rfl⟩
    | serializing | publishing | forwarding => exact ⟨[], Or.inl rfl, rfl⟩

/-- The update that closes a tick, if there is one. -/
def closingBody (g : Gateway) : UpdateBody := if g.events = [] then .keepalive else .delta g.events

/-- The closing update carries the events of the tick. -/
theorem events_closingBody (g : Gateway) : g.closingBody.events = g.events := by
  rw [closingBody]
  split_ifs with hevents
  · exact hevents.symm
  · rfl

/-- What a step does, with the place of the tick it is taken at. A fault that is caught where it
happens has a step of its own, and so has an update that is not due. -/
inductive Steps (g : Gateway) : GatewayLabel → Gateway → Prop
  | units {teamUnits : List TeamUnit} : Steps g (.units teamUnits) { g with teamUnits := teamUnits }
  | hookIgnored {hook : Hook} {fault : Option HookFault} {emitFault : Option EmitFault}
      (hwhy : g.state ≠ .healthy ∨ hook.event = none) : Steps g (.hook hook fault emitFault) g
  | hookBefore {hook : Hook} {event : DeltaEvent} {emitFault : Option EmitFault}
      (hstate : g.state = .healthy) (hevent : hook.event = some event) :
    Steps g (.hook hook (some .beforeEvent) emitFault) g.transitionToDisabled
  | hookAfter {hook : Hook} {event : DeltaEvent} {emitFault : Option EmitFault}
      (hstate : g.state = .healthy) (hevent : hook.event = some event) :
    Steps g (.hook hook (some .afterEvent) emitFault) (g.addEvent event).transitionToDisabled
  | hookAdds {hook : Hook} {event : DeltaEvent} {emitFault : Option EmitFault}
      (hstate : g.state = .healthy) (hevent : hook.event = some event) :
    Steps g (.hook hook none emitFault) (g.addEvent event)
  | hookEmits {hook : Hook} {event : DeltaEvent} {emitFault : Option EmitFault}
      (hstate : g.state = .healthy) (hevent : hook.event = some event)
      (hemits : g.hookEmits hook none = true) :
    Steps g (.hook hook none emitFault)
      ((g.addEvent event).startInitialSnapshot.emit (.snapshot 1 g.frameForWire) emitFault)
  | staysOutside (hphase : g.phase = .idle) {lastFrame : ℤ} {pending : Bool} :
    Steps g (.beginTick lastFrame)
      ({ g with lastFrame := lastFrame, pendingFault := pending } : Gateway).transitionToDisabled
  | beginTick (hphase : g.phase = .idle) (hstate : g.state = .healthy) {lastFrame : ℤ}
      {admin : AdminFlow} :
    Steps g (.beginTick lastFrame)
      { g with lastFrame := lastFrame, admin := admin, phase := .prologue }
  | prologue (hphase : g.phase = .prologue) {framesSinceBind frameCounter : ℕ} {client : Bool} :
    Steps g (.prologue (.returned ()))
      { g with
        framesSinceBind := framesSinceBind
        frameCounter := frameCounter
        coordinatorClient := client
        phase := .initialSnapshot }
  | prologueThrew (hphase : g.phase = .prologue) {framesSinceBind frameCounter : ℕ} :
    Steps g (.prologue .threw)
      ({ g with framesSinceBind := framesSinceBind, frameCounter := frameCounter } :
        Gateway).tickThrew
  | noInitialSnapshot (hphase : g.phase = .initialSnapshot) {fault : Option EmitFault} :
    Steps g (.initialSnapshot fault) { g with phase := .heartbeat }
  | initialSnapshot (hphase : g.phase = .initialSnapshot) (hdue : g.initialSnapshotDue = true)
      {fault : Option EmitFault} :
    Steps g (.initialSnapshot fault)
      { g.startInitialSnapshot.emit (.snapshot 1 g.frameForWire) fault with phase := .heartbeat }
  | heartbeat (hphase : g.phase = .heartbeat) {outcome : Outcome Unit} :
    Steps g (.heartbeat outcome) { g with phase := .admin }
  | heartbeatThrew (hphase : g.phase = .heartbeat) : Steps g (.heartbeat .threw) g.tickThrew
  | admin {label : AdminLabel} {admin : AdminFlow}
      (hlabel : label.isWorker ∨ label.isDrain ∧ g.phase = .admin)
      (hstep : g.adminView.step label = some admin) :
    Steps g (.admin label) { g with admin := admin }
  | applyEntry (hphase : g.phase = .admin) {outcome : Outcome Bool} {admin : AdminFlow}
      {id : RpcId} {result : AdminActionResult} {rest : List RpcId}
      (hengine : g.admin.engine = .applying id result rest) :
    Steps g (.applyEntry outcome) (({ g with admin := admin } : Gateway).record (.applied id))
  | applyThrew (hphase : g.phase = .admin) {outcome : Outcome Bool} {admin : AdminFlow}
      {id : RpcId} {result : AdminActionResult} {rest : List RpcId}
      (hengine : g.admin.engine = .applying id result rest) :
    Steps g (.applyEntry outcome)
      (({ g with admin := admin } : Gateway).record (.applied id)).tickThrew
  | endAdmin (hphase : g.phase = .admin) {admin : AdminFlow} :
    Steps g .endAdmin { g with admin := admin, phase := .drain }
  | drain (hphase : g.phase = .drain) {queue : CommandQueue} (hempty : queue.queue = []) :
    Steps g .drain
      { g.record (.drained g.queue.queue) with
        queue := queue
        phase := .dispatching g.queue.queue }
  | dispatchNext {entry : QueuedCommand} {rest : List QueuedCommand} {outcome : Outcome Bool}
      (hphase : g.phase = .dispatching (entry :: rest))
      (hreturned : g.dispatchOutcome entry outcome ≠ some .threw) :
    Steps g (.dispatchNext outcome)
      { g.handled entry outcome with phase := .dispatching rest }
  | dispatchThrew {entry : QueuedCommand} {rest : List QueuedCommand} {outcome : Outcome Bool}
      (hphase : g.phase = .dispatching (entry :: rest))
      (hthrew : g.dispatchOutcome entry outcome = some .threw) :
    Steps g (.dispatchNext outcome)
      { (g.handled entry outcome).transitionToDisabled with phase := .pump }
  | endDrain (hphase : g.phase = .dispatching []) : Steps g .endDrain { g with phase := .pump }
  | noSnapshot (hphase : g.phase = .pump) (hdue : g.snapshotDue = false)
      {fault : Option EmitFault} : Steps g (.pump fault) g.pumped
  | pump (hphase : g.phase = .pump) (hdue : g.snapshotDue = true) {cadence : ℕ}
      {fault : Option EmitFault} :
    Steps g (.pump fault) (g.pumped.emit (.snapshot cadence g.frameForWire) fault)
  | noEconomy (hphase : g.phase = .economy) {values : Option EconomyTickEvent}
      {fault : Option HookFault} (hwhy : g.state ≠ .healthy ∨ g.economyDue = false) :
    Steps g (.economy values fault) { g with phase := .flush }
  | economyBefore (hphase : g.phase = .economy) {values : Option EconomyTickEvent}
      (hstate : g.state = .healthy) (hdue : g.economyDue = true) :
    Steps g (.economy values (some .beforeEvent))
      ({ g with phase := .flush } : Gateway).transitionToDisabled
  | economyAfter (hphase : g.phase = .economy) {values : Option EconomyTickEvent}
      (hstate : g.state = .healthy) (hdue : g.economyDue = true) :
    Steps g (.economy values (some .afterEvent))
      (({ g with phase := .flush } : Gateway).addEvent
        (.economyTick (values.getD {}))).transitionToDisabled
  | economy (hphase : g.phase = .economy) {values : Option EconomyTickEvent}
      (hstate : g.state = .healthy) (hdue : g.economyDue = true) :
    Steps g (.economy values none)
      (({ g with phase := .flush } : Gateway).addEvent (.economyTick (values.getD {})))
  | noUpdate (hphase : g.phase = .flush) (hleft : g.flushLeft = false) (hevents : g.events = [])
      {fault : Option EmitFault} :
    Steps g (.flush fault)
      { g with phase := .idle, framesSinceLastFlush := wrapAdd 32 g.framesSinceLastFlush 1 }
  | flush (hphase : g.phase = .flush) (hleft : g.flushLeft = true) {events : List DeltaEvent}
      {fault : Option EmitFault} (hmoved : events = [] ∨ events = g.events ∧ fault ≠ none) :
    Steps g (.flush fault)
      { ({ g with phase := .idle, events := events } : Gateway).emit g.closingBody fault with
        framesSinceLastFlush := 0 }
  | requestDisable {pending : Bool} : Steps g .requestDisable { g with pendingFault := pending }
  | requestSnapshot :
    Steps g .requestSnapshot
      { g with snapshotTick := { g.snapshotTick with pendingRequest := true } }
  | submit {call : ProducerCall} : Steps g (.submit call) { g with queue := (call.run g.queue).2 }

/-- The ways a hook can go. -/
theorem steps_runHook (hook : Hook) (hookFault : Option HookFault) :
    Steps g (.hook hook hookFault fault) (g.runHook hook hookFault fault) := by
  rw [runHook]
  split
  case h_1 hevent => exact .hookIgnored (.inr hevent)
  case h_2 event hevent =>
    unfold guardHook
    by_cases hstate : g.state = .healthy
    swap
    · rw [if_neg hstate]
      exact .hookIgnored (.inl hstate)
    rw [if_pos hstate]
    rcases hookFault with - | - | -
    · dsimp only
      split_ifs with hemits
      · rw [maybeEmitInitialCoordinatorSnapshot]
        split_ifs with hdue
        · refine .hookEmits hstate hevent ?_
          have hdue : g.initialSnapshotDue = true := hdue
          simp [hookEmits, hstate, hevent, hemits, hdue]
        · exact .hookAdds hstate hevent
      · exact .hookAdds hstate hevent
    · exact .hookBefore hstate hevent
    · exact .hookAfter hstate hevent

/-- The top of a tick: the gateway is disabled and stays outside, or it is healthy and goes in. -/
theorem steps_beginTick {lastFrame : ℤ} (hphase : g.phase = .idle)
    (hstep : g.beginTick lastFrame = some h) : Steps g (.beginTick lastFrame) h := by
  simp only [beginTick] at hstep
  by_cases hpending : g.pendingFault = true
  · rw [if_pos hpending, if_neg state_transitionToDisabled] at hstep
    cases hstep
    exact .staysOutside hphase
  · rw [if_neg hpending] at hstep
    split_ifs at hstep with hstate
    · obtain ⟨k, hk, rfl⟩ := map_eq_some_iff.1 hstep
      obtain ⟨admin, -, rfl⟩ := map_eq_some_iff.1 hk
      exact .beginTick hphase hstate
    · cases hstep
      have hstays := @Steps.staysOutside g hphase lastFrame g.pendingFault
      rwa [transitionToDisabled_of_ne hstate] at hstays

/-- The ways an admin entry can go. -/
theorem steps_applyEntry {outcome : Outcome Bool} (hphase : g.phase = .admin)
    (hstep : g.applyEntry outcome = some h) : Steps g (.applyEntry outcome) h := by
  simp only [applyEntry] at hstep
  split at hstep
  case h_2 => cases hstep
  case h_1 hengine =>
    obtain ⟨k, hk, rfl⟩ := map_eq_some_iff.1 hstep
    obtain ⟨admin, -, rfl⟩ := map_eq_some_iff.1 hk
    cases outcome with
    | returned => exact .applyEntry hphase hengine
    | threw => exact .applyThrew hphase hengine

/-- `Drain` takes the whole queue. -/
theorem steps_drain (hphase : g.phase = .drain) : Steps g .drain g.drain := by
  have hloop : CommandQueue.drainLoop (g.queue.budget 0) [] g.queue.queue = (g.queue.queue, []) :=
    CommandQueue.drainLoop_length [] g.queue.queue
  have hdrain : g.drain =
      { g.record (.drained g.queue.queue) with
        queue := (g.queue.drain (some []) 0).2.2
        phase := .dispatching g.queue.queue } := by
    simp only [drain, CommandQueue.drain, hloop, getD_some]
  rw [hdrain]
  refine .drain hphase ?_
  simp only [CommandQueue.drain, hloop]

/-- The ways the economy tick can go. -/
theorem steps_economy (hphase : g.phase = .economy) (values : Option EconomyTickEvent)
    (hookFault : Option HookFault) :
    Steps g (.economy values hookFault) (g.economy values hookFault) := by
  rw [economy]
  split_ifs with hdue
  swap
  · exact .noEconomy hphase (.inr (Bool.eq_false_iff.2 hdue))
  unfold onEconomyTick guardHook
  split_ifs with hstate
  · rcases hookFault with - | - | -
    · exact .economy hphase hstate hdue
    · exact .economyBefore hphase hstate hdue
    · exact .economyAfter hphase hstate hdue
  · exact .noEconomy hphase (.inl hstate)

/-- The end of a tick: nothing, or one update. -/
theorem steps_flush (hphase : g.phase = .flush) (fault : Option EmitFault) :
    Steps g (.flush fault) (g.flush fault) := by
  rw [flush]
  split_ifs with hevents hdue
  · obtain ⟨events, hmoved, heq⟩ := flushDelta_eq { g with phase := .idle } fault
    have hstep := Steps.flush hphase (by simp [flushLeft, hevents]) hmoved
    rwa [closingBody, if_neg hevents, ← heq] at hstep
  · have hnil : g.events = [] := not_not.1 hevents
    have hstep : Steps g (.flush fault) _ :=
      .flush hphase (by simp [flushLeft, hdue]) (.inl hnil)
    rwa [closingBody, if_pos hnil] at hstep
  · have hnil : g.events = [] := not_not.1 hevents
    exact .noUpdate hphase (by simp [flushLeft, hnil, hdue]) hnil

/-- **One step, inverted.** -/
theorem steps_of_step {label : GatewayLabel} (hstep : g.step label = some h) : Steps g label h := by
  cases label with
  | units =>
    obtain ⟨-, ⟨⟩⟩ := ite_none_right_eq_some.1 hstep
    exact .units
  | hook hook fault =>
    obtain ⟨-, ⟨⟩⟩ := ite_none_right_eq_some.1 hstep
    exact steps_runHook hook fault
  | beginTick =>
    obtain ⟨hphase, hstep⟩ := ite_none_right_eq_some.1 hstep
    exact steps_beginTick hphase hstep
  | prologue outcome =>
    obtain ⟨hphase, ⟨⟩⟩ := ite_none_right_eq_some.1 hstep
    cases outcome with
    | returned => exact .prologue hphase
    | threw => exact .prologueThrew hphase
  | initialSnapshot =>
    obtain ⟨hphase, ⟨⟩⟩ := ite_none_right_eq_some.1 hstep
    rw [maybeEmitInitialCoordinatorSnapshot]
    split_ifs with hdue
    · exact .initialSnapshot hphase hdue
    · exact .noInitialSnapshot hphase
  | heartbeat outcome =>
    obtain ⟨hphase, ⟨⟩⟩ := ite_none_right_eq_some.1 hstep
    rw [heartbeat]
    split_ifs with hthrew
    · obtain rfl : outcome = .threw := of_decide_eq_true (Bool.and_eq_true_iff.1 hthrew).2
      exact .heartbeatThrew hphase
    · exact .heartbeat hphase
  | admin label =>
    obtain ⟨hlabel, hstep⟩ := ite_none_right_eq_some.1 hstep
    obtain ⟨admin, hadmin, rfl⟩ := map_eq_some_iff.1 hstep
    exact .admin (by simpa using hlabel) hadmin
  | applyEntry =>
    obtain ⟨hphase, hstep⟩ := ite_none_right_eq_some.1 hstep
    exact steps_applyEntry hphase hstep
  | endAdmin =>
    obtain ⟨hphase, hstep⟩ := ite_none_right_eq_some.1 hstep
    obtain ⟨k, hk, rfl⟩ := map_eq_some_iff.1 hstep
    obtain ⟨admin, -, rfl⟩ := map_eq_some_iff.1 hk
    exact .endAdmin hphase
  | drain =>
    obtain ⟨hphase, ⟨⟩⟩ := ite_none_right_eq_some.1 hstep
    exact steps_drain hphase
  | dispatchNext =>
    simp only [step] at hstep
    split at hstep
    case h_1 hphase =>
      cases hstep
      rw [handleCommand]
      split_ifs with hthrew
      · exact .dispatchThrew hphase hthrew
      · exact .dispatchNext hphase hthrew
    case h_2 => cases hstep
  | endDrain =>
    obtain ⟨hphase, ⟨⟩⟩ := ite_none_right_eq_some.1 hstep
    exact .endDrain hphase
  | pump =>
    obtain ⟨hphase, ⟨⟩⟩ := ite_none_right_eq_some.1 hstep
    simp only [Gateway.pump, SnapshotTick.emit_pump]
    split_ifs with hdue
    · exact .pump hphase hdue
    · exact .noSnapshot hphase (Bool.eq_false_iff.2 hdue)
  | economy =>
    obtain ⟨hphase, ⟨⟩⟩ := ite_none_right_eq_some.1 hstep
    exact steps_economy hphase _ _
  | flush =>
    obtain ⟨hphase, ⟨⟩⟩ := ite_none_right_eq_some.1 hstep
    exact steps_flush hphase _
  | requestDisable =>
    simp only [step, Option.some.injEq] at hstep
    split_ifs at hstep
    · subst hstep
      exact .requestDisable
    · subst hstep
      exact .requestDisable
  | requestSnapshot =>
    cases hstep
    exact .requestSnapshot
  | submit =>
    cases hstep
    exact .submit

/-- A healthy gateway was healthy before the step. -/
theorem healthy_of_step {label : GatewayLabel} (hstep : g.step label = some h)
    (hh : h.state = .healthy) : g.state = .healthy := by
  by_contra hno
  cases steps_of_step hstep with
  | hookBefore hstate | hookAfter hstate | hookAdds hstate | hookEmits hstate
  | beginTick _ hstate | economyBefore _ hstate | economyAfter _ hstate | economy _ hstate =>
    exact hno hstate
  | staysOutside | prologueThrew | heartbeatThrew | applyThrew | dispatchThrew =>
    exact state_transitionToDisabled hh
  | initialSnapshot | pump | flush => exact hno (emit_of_healthy hh).1
  | _ => exact hno hh

end Gateway

end HighBar.Module
