import HighBar.Module.GatewayEmission

/-!
# Failing closed

Once the gateway has left `Healthy` it should do nothing that reaches a client or the engine: no
update handed to the ring or published, no command dispatched, no admin action applied. Ticks and
hooks test the state at their top, so what comes **after** the tick of the fault is safe. The rest
of that tick is not: emitters, hooks and dispatches swallow their faults and return, and the tick
goes on without looking at the state again.

`fails_closed` holds for every run in which a fault inside a tick comes only when the tick has
nothing left to do (`FaultsLast`). A dispatch that throws never meets that: its report is already in
the delta, and the end of the tick publishes it.

The invariant keeps two things together: the log is closed, and a gateway that has left `Healthy` is
`Quiet`, with nothing to emit and no pending action that would be accepted.
-/

namespace HighBar.Module

open Grpc List Option

/-- Nothing that reaches a client or the engine comes after the mark. -/
def ClosedLog (log : List GatewayEvent) : Prop :=
  log.Pairwise fun a b ↦ a = .leftHealthy → b.isEffect = false

instance (log : List GatewayEvent) : Decidable (ClosedLog log) :=
  inferInstanceAs (Decidable (log.Pairwise _))

/-! ### A drain that applies nothing -/

/-- The steps of a worker that give the drain an action, or change the leases it is checked
against. -/
def AdminLabel.feedsDrain : AdminLabel → Bool
  | .enqueue _ | .executeRejected _ => true
  | _ => false

namespace AdminFlow

variable {s t : AdminFlow} {id : RpcId} {rpc : Rpc}

/-- The controller turns the call's action down at this frame. -/
def TurnedAway (s : AdminFlow) (controller : AdminController) (id : RpcId) : Prop :=
  ∃ rpc, s.rpcs id = some rpc ∧ controller.rejection rpc.caller rpc.action s.frame ≠ none

/-- The rest of the drain applies nothing: every entry it will come to is turned away. -/
def Quiet (s : AdminFlow) : Prop :=
  match s.engine with
  | .idle => True
  | .expiring => ∀ id ∈ s.pending, s.TurnedAway (s.controller.expireLeases s.frame) id
  | .swapping => ∀ id ∈ s.pending, s.TurnedAway s.controller id
  | .draining rest | .completing _ _ rest => ∀ id ∈ rest, s.TurnedAway s.controller id
  | .applying .. | .executing .. => False

instance (s : AdminFlow) (controller : AdminController) (id : RpcId) :
    Decidable (s.TurnedAway controller id) :=
  inferInstanceAs (Decidable (∃ rpc ∈ s.rpcs id, _))

instance (s : AdminFlow) : Decidable s.Quiet := by
  rw [Quiet]
  split <;> infer_instance

/-- Whether an action is turned away depends on the call's caller and action only. -/
theorem TurnedAway.setPhase {controller : AdminController} {i : RpcId} {phase : RpcPhase}
    (hi : s.TurnedAway controller i)
    (hsame : ∀ p, s.rpcs id = some p → p.caller = rpc.caller ∧ p.action = rpc.action) :
    (s.setPhase id rpc phase).TurnedAway controller i := by
  obtain ⟨p, hp, hrejected⟩ := hi
  rcases eq_or_ne i id with rfl | hne
  · obtain ⟨hcaller, haction⟩ := hsame p hp
    refine ⟨_, setPhase_rpcs_self .., ?_⟩
    rw [hcaller, haction] at hrejected
    exact hrejected
  · exact ⟨p, by rw [setPhase_rpcs_of_ne s hne]; exact hp, hrejected⟩

/-- A call that moves on keeps the drain quiet. -/
theorem Quiet.setPhase {phase : RpcPhase} (hs : s.Quiet)
    (hsame : ∀ p, s.rpcs id = some p → p.caller = rpc.caller ∧ p.action = rpc.action) :
    (s.setPhase id rpc phase).Quiet := by
  rw [Quiet] at hs ⊢
  show match s.engine with
    | .idle => True
    | .expiring => ∀ i ∈ s.pending, _
    | .swapping => ∀ i ∈ s.pending, _
    | .draining rest | .completing _ _ rest => ∀ i ∈ rest, _
    | .applying .. | .executing .. => False
  split at hs
  · trivial
  · exact fun i hi ↦ (hs i hi).setPhase hsame
  · exact fun i hi ↦ (hs i hi).setPhase hsame
  · exact fun i hi ↦ (hs i hi).setPhase hsame
  · exact fun i hi ↦ (hs i hi).setPhase hsame
  · exact hs
  · exact hs

/-- The other steps of a worker move one call on. -/
theorem step_worker_cases {label : AdminLabel} (hworker : label.isWorker = true)
    (hfeeds : label.feedsDrain = false) (hstep : s.step label = some t) :
    ∃ id rpc phase, (∀ p, s.rpcs id = some p → p.caller = rpc.caller ∧ p.action = rpc.action) ∧
      t = s.setPhase id rpc phase := by
  have hsame : ∀ {id : RpcId} {rpc : Rpc}, s.rpcs id = some rpc →
      ∀ p, s.rpcs id = some p → p.caller = rpc.caller ∧ p.action = rpc.action := by
    intro id rpc hrpc p hp
    obtain rfl : rpc = p := Option.some.inj (hrpc.symm.trans hp)
    exact ⟨rfl, rfl⟩
  cases steps_of_step hstep with
  | startAccepted hfree | startRejected hfree =>
    exact ⟨_, _, _, fun p hp ↦ absurd (hp.symm.trans hfree) (some_ne_none p), rfl⟩
  | checkHealthy hrpc | unavailable hrpc | timeOut hrpc | receive hrpc =>
    exact ⟨_, _, _, hsame hrpc, rfl⟩
  | enqueue | executeRejected => cases hfeeds
  | _ => cases hworker

/-- The front entry of a quiet drain is turned down again when it is validated. -/
theorem Quiet.validateEntry (hs : s.Quiet) (hstep : s.validateEntry = some t) :
    t.Quiet ∧ t.frame = s.frame := by
  simp only [AdminFlow.validateEntry] at hstep
  split at hstep
  swap
  · cases hstep
  rename_i id rest hengine
  have hrest : ∀ i ∈ id :: rest, s.TurnedAway s.controller i := by
    simp only [Quiet, hengine] at hs
    exact hs
  obtain ⟨rpc, hrpc, hrejected⟩ := hrest id (mem_cons_self ..)
  have hstatus : (s.validate rpc).status ≠ .accepted := fun hc ↦
    hrejected (AdminController.validate_accepted_iff.1 hc)
  rw [hrpc, map_some, if_neg hstatus] at hstep
  cases hstep
  exact ⟨fun i hi ↦ hrest i (mem_cons_of_mem _ hi), rfl⟩

/-- A step keeps a drain quiet, if it is one of the drain or of a worker that does not feed it. -/
theorem Quiet.step {label : AdminLabel} (hs : s.Quiet)
    (hlabel : label.isWorker = true ∨ label.isDrain = true) (hfeeds : label.feedsDrain = false)
    (hstep : s.step label = some t) : t.Quiet ∧ t.frame = s.frame := by
  rcases hlabel with hworker | hdrain
  · obtain ⟨id, rpc, phase, hsame, rfl⟩ := step_worker_cases hworker hfeeds hstep
    exact ⟨hs.setPhase hsame, rfl⟩
  cases label with
  | expireLeases | swapPending =>
    obtain ⟨hengine, ⟨⟩⟩ := ite_none_right_eq_some.1 hstep
    simp only [Quiet, hengine] at hs
    exact ⟨hs, rfl⟩
  | validateEntry => exact hs.validateEntry hstep
  | executeEntry =>
    simp only [AdminFlow.step, executeEntry] at hstep
    split at hstep
    · rename_i hengine
      simp only [Quiet, hengine] at hs
    · cases hstep
  | complete =>
    simp only [AdminFlow.step, complete] at hstep
    split at hstep
    · rename_i hengine
      cases hstep
      simp only [Quiet, hengine] at hs
      exact ⟨hs, rfl⟩
    · cases hstep
  | start | checkHealthy | enqueue | timeOut | receive | executeRejected | beginTick | applyEntry
  | endTick | advance | disable => cases hdrain

end AdminFlow

namespace Gateway

variable {g h : Gateway} {body : UpdateBody} {fault : Option EmitFault}

/-! ### The marks of an operation -/

/-- `h` continues the log of `g` by a closed piece, which has the mark exactly if `Healthy` was left
on the way. -/
def Continues (g h : Gateway) : Prop :=
  ∃ new, h.log = g.log ++ new ∧ ClosedLog new ∧
    (.leftHealthy ∈ new ↔ g.state = .healthy ∧ h.state ≠ .healthy)

/-- A piece without the mark. -/
theorem continues_of_not_mem {new : List GatewayEvent} (hlog : h.log = g.log ++ new)
    (hclosed : ClosedLog new) (hmark : .leftHealthy ∉ new) (hstate : h.state = g.state) :
    g.Continues h := by
  refine ⟨new, hlog, hclosed, fun hc ↦ absurd hc hmark, fun hc ↦ ?_⟩
  exact absurd (hstate.trans hc.1) hc.2

theorem continues_of_log_eq (hlog : h.log = g.log) (hstate : h.state = g.state) : g.Continues h :=
  continues_of_not_mem (by rw [hlog, append_nil]) List.Pairwise.nil not_mem_nil hstate

theorem continues_of_log_concat {event : GatewayEvent} (hlog : h.log = g.log ++ [event])
    (hevent : event ≠ .leftHealthy) (hstate : h.state = g.state) : g.Continues h :=
  continues_of_not_mem hlog (pairwise_singleton _ _)
    (fun hc ↦ hevent (mem_singleton.1 hc).symm) hstate

theorem mem_transitionMark : .leftHealthy ∈ g.transitionMark ↔ g.state = .healthy := by
  rw [transitionMark]
  split_ifs with hstate
  · exact ⟨fun _ ↦ hstate, fun _ ↦ mem_singleton_self _⟩
  · exact ⟨fun hc ↦ absurd hc not_mem_nil, fun hc ↦ absurd hc hstate⟩

theorem closedLog_transitionMark : ClosedLog g.transitionMark := by
  rw [transitionMark]
  split_ifs
  · exact pairwise_singleton _ _
  · exact List.Pairwise.nil

/-- The transition marks the log if it leaves `Healthy`. -/
theorem continues_transitionToDisabled : g.Continues g.transitionToDisabled :=
  ⟨g.transitionMark, log_transitionToDisabled, closedLog_transitionMark,
    mem_transitionMark.trans ⟨fun hstate ↦ ⟨hstate, state_transitionToDisabled⟩, And.left⟩⟩

/-- Events without the mark, and then a transition. -/
theorem continues_append_transitionMark (new : List GatewayEvent)
    (hlog : h.log = g.log ++ (new ++ g.transitionMark)) (hmark : .leftHealthy ∉ new)
    (hstate : h.state ≠ .healthy) : g.Continues h := by
  have hne : ∀ a ∈ new, a ≠ .leftHealthy := fun a ha hc ↦ hmark (hc ▸ ha)
  refine ⟨new ++ g.transitionMark, hlog, ?_, ?_⟩
  · refine pairwise_append.2 ⟨?_, closedLog_transitionMark, fun a ha _ _ hc ↦ ?_⟩
    · exact pairwise_of_forall_mem_list fun a ha _ _ hc ↦ absurd hc (hne a ha)
    · exact absurd hc (hne a ha)
  · rw [mem_append, mem_transitionMark]
    exact ⟨fun hc ↦ ⟨hc.resolve_left hmark, hstate⟩, fun hc ↦ Or.inr hc.1⟩

/-- The push and what follows it. -/
theorem continues_pushAndPublish : g.Continues (g.pushAndPublish body fault) := by
  rcases hpush : g.ring.push g.seq ⟨g.seq, g.frameForWire, body⟩ with error | ring
  · simp only [pushAndPublish, hpush]
    refine continues_append_transitionMark [.handed g.seq] ?_ (by simp) state_transitionToDisabled
    rw [log_transitionToDisabled]
    exact append_assoc ..
  obtain ⟨-, -, hlog⟩ := pushAndPublish_of_ok body fault hpush
  by_cases hpub : fault = some .publishing
  · refine continues_append_transitionMark [.handed g.seq] ?_ (by simp) ?_
    · simpa [publishMarks, hpub] using hlog
    · simp only [pushAndPublish, hpush, if_pos hpub]
      exact state_transitionToDisabled
  by_cases hfor : fault = some .forwarding
  · refine continues_append_transitionMark
      [.handed g.seq, .published ⟨g.seq, g.frameForWire, body⟩] ?_ (by simp) ?_
    · simpa [publishMarks, hpub, hfor] using hlog
    · simp only [pushAndPublish, hpush, if_neg hpub, if_pos hfor]
      exact state_transitionToDisabled
  · -- without a fault there is no mark
    refine continues_of_not_mem (by rw [hlog]) ?_ ?_ ?_
    · simp [publishMarks, hpub, hfor, ClosedLog]
    · simp [publishMarks, hpub, hfor]
    · simp only [pushAndPublish, hpush, if_neg hpub, if_neg hfor]
      rfl

/-- An emission adds a closed piece to the log. -/
theorem continues_emit : g.Continues (g.emit body fault) := by
  rcases emit_cases g body fault with ⟨-, heq⟩ | ⟨-, heq⟩ | ⟨-, -, heq⟩
  · rw [heq]
    exact continues_transitionToDisabled
  · rw [heq]
    exact continues_transitionToDisabled (g := g.bumpSeq)
  · rw [heq]
    exact continues_pushAndPublish (g := g.bumpSeq)

/-! ### What is left when the gateway has left `Healthy` -/

/-- The admin part of the tick applies nothing more. -/
def AdminQuiet (g : Gateway) : Prop := g.adminView.Quiet

/-- The rest of the tick does nothing that reaches a client or the engine. -/
structure Quiet (g : Gateway) : Prop where
  emission : g.emissionLeft = false
  admin : g.phase = .heartbeat ∨ g.phase = .admin → g.AdminQuiet

instance (g : Gateway) : Decidable g.AdminQuiet := inferInstanceAs (Decidable g.adminView.Quiet)

instance (g : Gateway) : Decidable g.Quiet :=
  decidable_of_iff
    (g.emissionLeft = false ∧ (g.phase = .heartbeat ∨ g.phase = .admin → g.AdminQuiet))
    ⟨fun h ↦ ⟨h.1, h.2⟩, fun h ↦ ⟨h.emission, h.admin⟩⟩

theorem quiet_idle (hphase : g.phase = .idle) : g.Quiet := by
  refine ⟨by simp only [emissionLeft, hphase], fun hc ↦ ?_⟩
  rw [hphase] at hc
  rcases hc with hc | hc
  · cases hc
  · cases hc

/-- The invariant behind `fails_closed`. -/
structure FailClosedInv (g : Gateway) : Prop where
  closed : ClosedLog g.log
  mark : .leftHealthy ∈ g.log ↔ g.state ≠ .healthy
  quiet : g.state ≠ .healthy → g.Quiet

/-- A step of a healthy gateway: if it leaves `Healthy`, it must be quiet. -/
theorem FailClosedInv.of_healthy (hg : g.FailClosedInv) (hstate : g.state = .healthy)
    (hlog : g.Continues h) (hquiet : h.state ≠ .healthy → h.Quiet) : h.FailClosedInv := by
  obtain ⟨new, hnew, hclosed, hmark⟩ := hlog
  have hno : .leftHealthy ∉ g.log := fun hc ↦ hg.mark.1 hc hstate
  refine ⟨?_, ?_, hquiet⟩
  · rw [hnew]
    refine pairwise_append.2 ⟨hg.closed, hclosed, fun a ha _ _ hc ↦ ?_⟩
    exact absurd (hc ▸ ha) hno
  · rw [hnew, mem_append, hmark]
    exact ⟨fun hc ↦ (hc.resolve_left hno).2, fun hc ↦ Or.inr ⟨hstate, hc⟩⟩

/-- A step of a gateway that has left `Healthy`: it must do nothing, and stay quiet. -/
theorem FailClosedInv.of_left (hg : g.FailClosedInv) (hleft : g.state ≠ .healthy)
    (hstate : h.state = g.state)
    (hlog : ∃ new, h.log = g.log ++ new ∧ ∀ e ∈ new, e.isEffect = false) (hquiet : h.Quiet) :
    h.FailClosedInv := by
  obtain ⟨new, hnew, hno⟩ := hlog
  refine ⟨?_, ⟨fun _ ↦ ?_, fun _ ↦ ?_⟩, fun _ ↦ hquiet⟩
  · rw [hnew]
    exact pairwise_append.2 ⟨hg.closed,
      pairwise_of_forall_mem_list fun _ _ b hb _ ↦ hno b hb, fun _ _ b hb _ ↦ hno b hb⟩
  · rw [hstate]
    exact hleft
  · rw [hnew]
    exact mem_append_left _ (hg.mark.2 hleft)

/-- A healthy gateway takes a step and stays healthy. -/
theorem FailClosedInv.calm (hg : g.FailClosedInv) (hstate : g.state = .healthy)
    (hlog : g.Continues h) (hsame : h.state = .healthy) : h.FailClosedInv :=
  hg.of_healthy hstate hlog fun hc ↦ absurd hsame hc

/-- A gateway that has left `Healthy` takes a step that leaves no trace. -/
theorem FailClosedInv.still (hg : g.FailClosedInv) (hleft : g.state ≠ .healthy)
    (hstate : h.state = g.state) (hlog : h.log = g.log) (hquiet : h.Quiet) : h.FailClosedInv :=
  hg.of_left hleft hstate
    ⟨[], by rw [hlog, append_nil], fun _ hc ↦ absurd hc not_mem_nil⟩ hquiet

/-- A healthy gateway emits, from `k`, which has its log. -/
theorem FailClosedInv.emit {k : Gateway} (hg : g.FailClosedInv) (hstate : g.state = .healthy)
    (hk : k.log = g.log ∧ k.state = .healthy)
    (hh : h.log = (k.emit body fault).log ∧ h.state = (k.emit body fault).state)
    (hquiet : k.emitFaults fault = true → h.Quiet) : h.FailClosedInv := by
  have hcontinues : k.Continues (k.emit body fault) := continues_emit
  obtain ⟨new, hnew, hclosed, hmark⟩ := hcontinues
  refine hg.of_healthy hstate ⟨new, ?_, hclosed, ?_⟩ fun hleft ↦ ?_
  · rw [hh.1, hnew, hk.1]
  · have hsame : g.state = k.state := hstate.trans hk.2.symm
    rw [hh.2, hsame]
    exact hmark
  · rcases hfaults : k.emitFaults fault with - | -
    · rw [hh.2, state_emit hfaults, hk.2] at hleft
      exact absurd rfl hleft
    · exact hquiet hfaults

theorem failClosedInv_create (config : GatewayConfig) : (create config).FailClosedInv :=
  ⟨List.Pairwise.nil, ⟨fun hc ↦ absurd hc not_mem_nil, fun hc ↦ absurd rfl hc⟩,
    fun hc ↦ absurd rfl hc⟩

theorem SameWork.quiet (hsame : g.SameWork h) (hg : g.Quiet) : h.Quiet := by
  rw [hsame]
  exact ⟨hg.emission, hg.admin⟩

/-! ### The condition -/

/-- **The condition on a step**: a fault inside a tick comes only when the rest of the tick does
nothing, and until that tick has ended no worker gives the gateway more to do. -/
def FaultsLast (g : Gateway) : GatewayLabel → Prop
  | .hook hook fault emitFault =>
    -- an event that was added waits for the end of a tick
    (g.state = .healthy → hook.event.isSome = true → fault = some .beforeEvent → g.Quiet) ∧
      (g.state = .healthy → hook.event.isSome = true → fault = some .afterEvent → g.phase = .idle) ∧
      (g.hookEmits hook fault = true → g.emitFaults emitFault = true → g.phase = .idle)
  | .initialSnapshot fault =>
    g.initialSnapshotDue = true → g.emitFaults fault = true →
      g.emissionAfterAdmin = false ∧ g.AdminQuiet
  | .dispatchNext outcome =>
    -- the report of the command is in the delta before the dispatch
    ∀ entry ∈ g.phase.batch.head?, g.dispatchOutcome entry outcome ≠ some .threw
  | .pump fault => g.snapshotDue = true → g.emitFaults fault = true → g.flushLeft = false
  | .economy _ fault =>
    g.state = .healthy → g.economyDue = true → fault ≠ none →
      fault = some .beforeEvent ∧ g.flushLeft = false
  | .admin label => label.feedsDrain = true → g.state = .healthy ∨ g.phase = .idle
  | .submit _ | .requestSnapshot => g.state = .healthy ∨ g.phase = .idle
  | _ => True

instance (g : Gateway) : ∀ label, Decidable (g.FaultsLast label)
  | .hook .. => inferInstanceAs (Decidable ((_ → _) ∧ (_ → _) ∧ (_ → _)))
  | .initialSnapshot _ | .pump _ | .economy .. | .admin _ => inferInstanceAs (Decidable (_ → _))
  | .dispatchNext _ => inferInstanceAs (Decidable (∀ entry ∈ g.phase.batch.head?, _))
  | .submit _ | .requestSnapshot => inferInstanceAs (Decidable (_ ∨ _))
  | .units _ | .beginTick _ | .prologue _ | .heartbeat _ | .applyEntry _ | .endAdmin | .drain
  | .endDrain | .flush _ | .requestDisable => inferInstanceAs (Decidable True)

/-! ### The steps of a gateway that has left `Healthy` -/

/-- At a place with something left to emit a quiet gateway is not. -/
theorem Quiet.elim {P : Prop} (hq : g.Quiet) (hleft : g.emissionLeft = true) : P :=
  absurd (hq.emission.symm.trans hleft) Bool.false_ne_true

/-- A quiet drain is not at an application. -/
theorem Quiet.not_applying {id : RpcId} {result : AdminActionResult} {rest : List RpcId}
    (hq : g.Quiet) (hphase : g.phase = .admin) :
    g.admin.engine ≠ .applying id result rest := by
  intro hengine
  have hadmin := hq.admin (Or.inr hphase)
  have hengine : g.adminView.engine = .applying id result rest := hengine
  simp only [AdminQuiet, AdminFlow.Quiet, hengine] at hadmin

/-- A quiet gateway stays quiet under the admin calls. -/
theorem Quiet.adminStep {label : AdminLabel} {admin : AdminFlow} (hq : g.Quiet)
    (hlabel : label.isWorker = true ∨ label.isDrain = true)
    (hguard : label.feedsDrain = true → g.phase = .idle)
    (hstep : g.adminView.step label = some admin) :
    ({ g with admin := admin } : Gateway).Quiet := by
  rcases hfeeds : label.feedsDrain with - | -
  · refine ⟨hq.emission, fun hphase ↦ ?_⟩
    obtain ⟨hquiet, hframe⟩ := (hq.admin hphase).step hlabel hfeeds hstep
    show AdminFlow.Quiet { admin with frame := g.currentFrame, stateSeq := _, healthy := _ }
    have hframe' : g.currentFrame = admin.frame := hframe.symm
    rw [hframe']
    exact hquiet
  · exact quiet_idle (hguard hfeeds)

variable {label : GatewayLabel}

/-- **A gateway that has left `Healthy`**, whatever step it takes, does nothing and stays quiet. -/
theorem failClosedInv_step_left (hg : g.FailClosedInv) (hleft : g.state ≠ .healthy)
    (hguard : g.FaultsLast label) (hstep : Steps g label h) : h.FailClosedInv := by
  have hq := hg.quiet hleft
  have hemission := hq.emission
  cases hstep with
  | hookBefore hstate | hookAfter hstate | hookAdds hstate | hookEmits hstate
  | beginTick _ hstate | economyBefore _ hstate | economyAfter _ hstate | economy _ hstate =>
    exact absurd hstate hleft
  | prologue hphase | prologueThrew hphase | noInitialSnapshot hphase | initialSnapshot hphase
  | dispatchNext hphase | dispatchThrew hphase => exact hq.elim (by simp [emissionLeft, hphase])
  | pump hphase hdue => exact hq.elim (by simp only [emissionLeft, hphase, hdue, Bool.true_or])
  | flush hphase hdue => exact hq.elim (by simp only [emissionLeft, hphase, hdue])
  | applyEntry hphase hengine | applyThrew hphase hengine =>
    exact absurd hengine (hq.not_applying hphase)
  | units | requestDisable => exact hg.still hleft rfl rfl ⟨hemission, hq.admin⟩
  | hookIgnored => exact hg
  | staysOutside hphase =>
    rw [transitionToDisabled_of_ne]
    · exact hg.still hleft rfl rfl (quiet_idle hphase)
    · exact hleft
  | heartbeat hphase =>
    simp only [emissionLeft, hphase] at hemission
    exact hg.still hleft rfl rfl ⟨hemission, fun _ ↦ hq.admin (Or.inl hphase)⟩
  | heartbeatThrew =>
    rw [tickThrew, transitionToDisabled_of_ne hleft]
    exact hg.still hleft rfl rfl (quiet_idle rfl)
  | admin hlabel hadmin =>
    exact hg.still hleft rfl rfl (hq.adminStep (hlabel.imp_right And.left)
      (fun hfeeds ↦ (hguard hfeeds).resolve_left hleft) hadmin)
  | endAdmin hphase | noEconomy hphase =>
    simp only [emissionLeft, hphase] at hemission
    exact hg.still hleft rfl rfl ⟨hemission, nofun⟩
  | drain hphase =>
    simp only [emissionLeft, hphase] at hemission
    refine hg.of_left hleft rfl ⟨[.drained g.queue.queue], rfl, fun e he ↦ ?_⟩ ⟨hemission, nofun⟩
    rw [mem_singleton.1 he]
    rfl
  | endDrain hphase =>
    simp only [emissionLeft, hphase, isEmpty_nil, Bool.not_true, Bool.or_false] at hemission
    exact hg.still hleft rfl rfl ⟨hemission, nofun⟩
  | noSnapshot hphase hdue =>
    simp only [emissionLeft, hphase, hdue, Bool.false_or] at hemission
    exact hg.still hleft rfl rfl ⟨hemission, nofun⟩
  | noUpdate => exact hg.still hleft rfl rfl (quiet_idle rfl)
  | requestSnapshot | submit =>
    exact hg.still hleft rfl rfl (quiet_idle (hguard.resolve_left hleft))

/-! ### The steps of a healthy gateway -/

/-- A fault of a healthy gateway, which has gone on to `k` before it. -/
theorem FailClosedInv.disable {k : Gateway} (hg : g.FailClosedInv) (hstate : g.state = .healthy)
    (hk : k.log = g.log ∧ k.state = g.state) (hquiet : k.Quiet) :
    k.transitionToDisabled.FailClosedInv := by
  have hcalm : k.FailClosedInv :=
    hg.calm hstate (continues_of_log_eq hk.1 hk.2) (hk.2.trans hstate)
  exact hcalm.of_healthy (hk.2.trans hstate) continues_transitionToDisabled fun _ ↦
    sameWork_transitionToDisabled.quiet hquiet

/-- An exception that ends the tick of a healthy gateway. -/
theorem failClosedInv_tickThrew (hg : g.FailClosedInv) (hstate : g.state = .healthy) :
    g.tickThrew.FailClosedInv :=
  hg.of_healthy hstate continues_transitionToDisabled fun _ ↦ quiet_idle rfl

/-- **A healthy gateway** keeps the log closed, and is left quiet if it faults. -/
theorem failClosedInv_step_healthy (hg : g.FailClosedInv) (hstate : g.state = .healthy)
    (hguard : g.FaultsLast label) (hstep : Steps g label h) : h.FailClosedInv := by
  have hcalm : ∀ {k : Gateway}, k.log = g.log → k.state = g.state → k.FailClosedInv :=
    fun hlog hsame ↦ hg.calm hstate (continues_of_log_eq hlog hsame) (hsame.trans hstate)
  cases hstep with
  | hookIgnored => exact hg
  | hookBefore _ hevent =>
    exact hg.disable hstate ⟨rfl, rfl⟩ (hguard.1 hstate (by rw [hevent]; rfl) rfl)
  | hookAfter _ hevent =>
    exact hg.disable hstate ⟨rfl, rfl⟩ (quiet_idle (hguard.2.1 hstate (by rw [hevent]; rfl) rfl))
  | @hookEmits _ event _ _ _ hemits =>
    refine hg.emit (k := (g.addEvent event).startInitialSnapshot) hstate ⟨rfl, hstate⟩ ⟨rfl, rfl⟩
      fun hfaults ↦ ?_
    exact quiet_idle (sameWork_emit.phase_eq.trans (hguard.2.2 hemits hfaults))
  | staysOutside hphase => exact hg.disable hstate ⟨rfl, rfl⟩ (quiet_idle hphase)
  | prologueThrew => exact failClosedInv_tickThrew (hcalm rfl rfl) hstate
  | heartbeatThrew => exact failClosedInv_tickThrew hg hstate
  | initialSnapshot _ hdue =>
    refine hg.emit (k := g.startInitialSnapshot) hstate ⟨rfl, hstate⟩ ⟨rfl, rfl⟩ fun hfaults ↦ ?_
    obtain ⟨hemission, hadmin⟩ := hguard hdue hfaults
    rw [sameWork_emit]
    exact ⟨hemission, fun _ ↦ hadmin⟩
  | applyEntry | drain | dispatchNext =>
    exact hg.calm hstate (continues_of_log_concat rfl nofun rfl) hstate
  | applyThrew =>
    exact failClosedInv_tickThrew (hg.calm hstate (continues_of_log_concat rfl nofun rfl) hstate)
      hstate
  | @dispatchThrew entry _ _ hphase hthrew =>
    exact absurd hthrew (hguard entry (by rw [hphase]; rfl))
  | pump _ hdue =>
    refine hg.emit (k := g.pumped) hstate ⟨rfl, hstate⟩ ⟨rfl, rfl⟩ fun hfaults ↦ ?_
    exact sameWork_emit.quiet ⟨hguard hdue hfaults, nofun⟩
  | economyBefore _ _ hdue =>
    exact hg.disable hstate ⟨rfl, rfl⟩ ⟨(hguard hstate hdue nofun).2, nofun⟩
  | economyAfter _ _ hdue => exact absurd (hguard hstate hdue nofun).1 (by decide)
  | @flush _ _ events =>
    refine hg.emit (k := { g with phase := .idle, events := events }) hstate ⟨rfl, hstate⟩
      ⟨rfl, rfl⟩ fun _ ↦ quiet_idle ?_
    exact sameWork_emit.phase_eq
  | _ => exact hcalm rfl rfl

/-- **One step keeps the invariant**, if a fault comes only where the tick has nothing left. -/
theorem failClosedInv_step (hg : g.FailClosedInv) (hguard : g.FaultsLast label)
    (hstep : g.step label = some h) : h.FailClosedInv := by
  by_cases hstate : g.state = .healthy
  · exact failClosedInv_step_healthy hg hstate hguard (steps_of_step hstep)
  · exact failClosedInv_step_left hg hstate hguard (steps_of_step hstep)

/-- **The gateway fails closed**, in every run in which a fault inside a tick comes only when the
rest of the tick does nothing: the log has the mark exactly when the gateway has left `Healthy`, and
after it no update is handed to the ring or published, no command is dispatched and no admin action
is applied. -/
theorem fails_closed (config : GatewayConfig) {labels : List GatewayLabel}
    (hmeets : (machine config).Meets FaultsLast (machine config).init labels)
    (hrun : (machine config).exec (machine config).init labels = some h) :
    (.leftHealthy ∈ h.log ↔ h.state ≠ .healthy) ∧ ClosedLog h.log := by
  have hinv : h.FailClosedInv := StepMachine.invariant_of_meets (I := FailClosedInv)
    (fun _ _ _ hg hguard hstep ↦ failClosedInv_step hg hguard hstep) (failClosedInv_create config)
    hmeets hrun
  exact ⟨hinv.mark, hinv.closed⟩

/-- A gateway with a coordinator. -/
def withCoordinator : GatewayConfig := { standalone with hasCoordinator := true }

/-- With nothing queued the fault is the last the tick does, and a command that comes later stays in
the queue. -/
theorem fails_closed_nothingQueued :
    ∃ h, (machine withCoordinator).exec (machine withCoordinator).init
        (.units [⟨7, some false⟩] :: tickToDrain 0 (some .serializing) ++
          tickFromDrain none none ++
          [.submit (.tryPush { command := .pauseTeam true }), .beginTick 1]) = some h ∧
      h.log = [.leftHealthy, .drained []] ∧ h.queue.depth = 1 ∧ ClosedLog h.log := by
  have hmeets : (machine withCoordinator).Meets FaultsLast (machine withCoordinator).init
      (.units [⟨7, some false⟩] :: tickToDrain 0 (some .serializing) ++
        tickFromDrain none none ++
        [.submit (.tryPush { command := .pauseTeam true }), .beginTick 1]) := by
    decide
  exact ⟨_, rfl, by decide, by decide, (fails_closed withCoordinator hmeets rfl).2⟩

/-- **The gateway does not fail closed**: the initial snapshot faults, and the rest of the same tick
dispatches the queued command and publishes its report. -/
theorem dispatches_after_fault :
    ∃ h, (machine withCoordinator).exec (machine withCoordinator).init
        (.units [⟨7, some false⟩] :: .submit (.tryPush { command := .pauseTeam true }) ::
          tickToDrain 0 (some .serializing) ++ .dispatchNext (.returned true) ::
            tickFromDrain none none) = some h ∧
      h.log.map GatewayEvent.isEffect = [false, false, true, true, true] ∧
      h.log.head? = some .leftHealthy ∧ ¬ClosedLog h.log := by
  exact ⟨_, rfl, by decide, by decide, by decide⟩

end Gateway

end HighBar.Module
