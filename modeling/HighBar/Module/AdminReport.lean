import HighBar.Module.AdminFlow

/-!
# What an admin answer is worth

Two guarantees a caller reads into the answers of `ExecuteAdminAction`, and when they hold.

## Reported means applied

`EXECUTED`, or a lease in the caller's name, should mean that `ApplyAdminAction` returned true for
the action. On the engine thread it does: `Execute` is called only after a successful application.
On the worker it is called after a rejection, and validates again; in between, the engine thread may
have expired the lease that caused the rejection. `reported_only_if_applied` holds for every run in
which a worker that was turned away by a lease **still finds it** when it calls `Execute`: every
other rejection stands by itself.

## Not dispatched means never applied

`NOT_DISPATCHED` invites a retry, so the action should neither have been applied nor be applied at a
later tick. A wait that times out answers so while its entry may be in the pending queue, in the
drain, or applied already. `not_dispatched_never_applied` holds for every run in which no wait times
out **between the push of its entry and its completion**, unless an exception has discarded the
entry before its turn.
-/

namespace HighBar.Module

open Grpc List Option

namespace AdminFlow

variable {s t : AdminFlow} {label : AdminLabel} {id : RpcId} {rpc : Rpc}

/-! ### Reported means applied -/

/-- `ApplyAdminAction` returned true for the action of the call. -/
def Applied (s : AdminFlow) (id : RpcId) : Prop :=
  ∃ tick, ⟨id, tick, .returned true⟩ ∈ s.applications

/-- What was applied stays applied. -/
theorem Applied.mono (hsub : s.applications ⊆ t.applications) (h : s.Applied id) :
    t.Applied id := by
  obtain ⟨tick, hmem⟩ := h
  exact ⟨tick, hsub hmem⟩

/-- A call's phase is consistent with what was applied. A rejection for another reason than a lease
stands by itself. -/
def RpcReports (s : AdminFlow) (id : RpcId) (rpc : Rpc) : Prop :=
  match rpc.phase with
  | .returned result _ => result.status = .executed → s.Applied id
  | .rejected first =>
    standingRejection s.controller.settings rpc.caller rpc.action s.frame ≠ none ∨
      first.status = .rejectedConflict ∧ rpc.action.conflictPolicy ≠ .releaseExistingLease
  | _ => True

/-- The entry the engine thread is at is consistent with what was applied. -/
def EngineReports (s : AdminFlow) : Prop :=
  match s.engine with
  | .applying _ result _ => result.status ≠ .executed
  | .executing id _ => s.Applied id
  | .completing id result _ => result.status = .executed → s.Applied id
  | .idle | .expiring | .swapping | .draining _ => True

/-- The invariant behind `reported_only_if_applied`. -/
structure ReportInv (s : AdminFlow) : Prop where
  rpcs : ∀ id rpc, s.rpcs id = some rpc → s.RpcReports id rpc
  completions : ∀ id result, s.completions id = some result →
    result.status = .executed → s.Applied id
  engine : s.EngineReports
  acquired : ∀ id ∈ s.acquired, s.Applied id

/-- What a step may change without touching a call: applications are only added, settings stay, and
frames do not go back. -/
structure Advances (s t : AdminFlow) : Prop where
  applications : s.applications ⊆ t.applications
  settings : t.controller.settings = s.controller.settings
  frame : s.frame ≤ t.frame

/-- What a call was told stays true. -/
theorem RpcReports.advance (h : s.RpcReports id rpc) (hst : s.Advances t) :
    t.RpcReports id rpc := by
  rw [RpcReports] at h ⊢
  split at h
  · exact fun hex ↦ (h hex).mono hst.applications
  · rw [hst.settings]
    exact h.imp_left (standingRejection_mono hst.frame)
  · trivial

/-- A step of the engine thread that answers no one. -/
theorem ReportInv.advance (hs : s.ReportInv) (hst : s.Advances t) (hrpcs : t.rpcs = s.rpcs)
    (hengine : t.EngineReports)
    (hcompletions : ∀ id result, t.completions id = some result →
      result.status = .executed → t.Applied id)
    (hacquired : ∀ id ∈ t.acquired, t.Applied id) : t.ReportInv where
  rpcs := fun id rpc hrpc ↦ (hs.rpcs id rpc (by rw [← hrpcs]; exact hrpc)).advance hst
  completions := hcompletions
  engine := hengine
  acquired := hacquired

variable {result : AdminActionResult} {phase : RpcPhase} {rest : List RpcId}

/-- A worker's step to a phase that is consistent with what was applied. -/
theorem ReportInv.setPhase (hs : s.ReportInv) (h : s.RpcReports id { rpc with phase := phase }) :
    (s.setPhase id rpc phase).ReportInv where
  rpcs := by
    intro i p hp
    rcases eq_or_ne i id with rfl | hne
    · rw [setPhase_rpcs_self] at hp
      exact Option.some.inj hp ▸ h
    · rw [setPhase_rpcs_of_ne s hne] at hp
      exact hs.rpcs i p hp
  completions := hs.completions
  engine := hs.engine
  acquired := hs.acquired

/-- The worker that was turned away by a lease still finds the control leased by someone else. -/
def StillLeased (s : AdminFlow) (id : RpcId) : Prop :=
  ∀ rpc first, s.rpcs id = some rpc → rpc.phase = .rejected first →
    first.status = .rejectedConflict →
      ∃ lease, s.controller.leases (controlName rpc.action) = some lease ∧
        lease.ownerClientId ≠ rpc.caller.identity

/-- The condition on a step: a worker executes after a conflict only while the conflict lasts. -/
def ConflictLasts (s : AdminFlow) : AdminLabel → Prop
  | .executeRejected id => s.StillLeased id
  | _ => True

/-- A first validation that rejects does so for good, or because of a lease. -/
theorem rpcReports_rejected (hrpc : (s.validate rpc).status ≠ .accepted) :
    s.RpcReports id { rpc with phase := .rejected (s.validate rpc) } := by
  rcases h : standingRejection s.controller.settings rpc.caller rpc.action s.frame with - | r
  · have hlease : leaseRejection s.controller.leases rpc.caller rpc.action ≠ none := fun hno ↦
      hrpc (AdminController.validate_accepted_iff.2 (by
        rw [AdminController.rejection, h, hno, none_or]))
    obtain ⟨r, hr⟩ := ne_none_iff_exists'.1 hlease
    refine Or.inr ⟨?_, (leaseRejection_ne_none_iff.1 hlease).1⟩
    have hrej : s.controller.rejection rpc.caller rpc.action s.frame = some r := by
      rw [AdminController.rejection, h, hr, none_or]
    show (s.controller.validate rpc.caller rpc.action s.frame s.stateSeq).status = _
    rw [AdminController.validate_of_rejection hrej]
    exact status_leaseRejection hr
  · refine Or.inl ?_
    show standingRejection s.controller.settings rpc.caller rpc.action s.frame ≠ none
    rw [h]
    exact some_ne_none r

/-- While the conflict lasts, the second validation rejects too. -/
theorem rejection_of_stillLeased {first : AdminActionResult} (hs : s.ReportInv)
    (hlast : s.StillLeased id) (hrpc : s.rpcs id = some rpc)
    (hphase : rpc.phase = .rejected first) :
    s.controller.rejection rpc.caller rpc.action s.frame ≠ none := by
  rw [AdminController.rejection, ne_eq, or_eq_none_iff]
  rintro ⟨hstanding, hlease⟩
  have hreports := hs.rpcs id rpc hrpc
  simp only [RpcReports, hphase] at hreports
  rcases hreports with hno | ⟨hconflict, hpolicy⟩
  · exact hno hstanding
  · exact leaseRejection_ne_none_iff.2 ⟨hpolicy, hlast rpc first hrpc hphase hconflict⟩ hlease

theorem reportInv_create (settings : AdminSettings) : (create settings).ReportInv where
  rpcs := fun _ _ h ↦ by cases h
  completions := fun _ _ h ↦ by cases h
  engine := trivial
  acquired := fun _ h ↦ by cases h

theorem Advances.of_eq (happ : t.applications = s.applications)
    (hset : t.controller.settings = s.controller.settings) (hframe : s.frame ≤ t.frame) :
    s.Advances t :=
  ⟨by rw [happ]; exact List.Subset.refl _, hset, hframe⟩

/-- A step that answers no entry and takes no lease. -/
theorem ReportInv.calm (hs : s.ReportInv) (hst : s.Advances t) (hrpcs : t.rpcs = s.rpcs)
    (hengine : t.EngineReports)
    (hcompletions : ∀ i result, t.completions i = some result →
      s.completions i = some result)
    (hacquired : t.acquired = s.acquired) : t.ReportInv := by
  refine hs.advance hst hrpcs hengine (fun i result h hex ↦ ?_) fun i hi ↦ ?_
  · exact (hs.completions i result (hcompletions i result h) hex).mono hst.applications
  · exact (hs.acquired i (hacquired ▸ hi)).mono hst.applications

/-- The worker's `Execute`, while the conflict lasts: nothing is executed and no lease is taken. -/
theorem ReportInv.executeRejected {first : AdminActionResult} (hs : s.ReportInv)
    (hlast : s.StillLeased id) (hrpc : s.rpcs id = some rpc)
    (hphase : rpc.phase = .rejected first) :
    ((s.execute id rpc).2.answer id rpc (s.execute id rpc).1).ReportInv := by
  obtain ⟨r, hr⟩ := ne_none_iff_exists'.1 (rejection_of_stillLeased hs hlast hrpc hphase)
  obtain ⟨hstatus, hlease, -⟩ := AdminController.execute_of_rejection hr s.stateSeq
  have hacquired : (s.execute id rpc).2.acquired = s.acquired := by
    simp only [AdminFlow.execute, hlease, isSome_none, Bool.false_eq_true, if_false]
  have hexec : (s.execute id rpc).2.ReportInv :=
    hs.calm (Advances.of_eq rfl (AdminController.settings_execute ..) (Nat.le_refl _)) rfl
      hs.engine (fun _ _ h ↦ h) hacquired
  refine hexec.setPhase fun hex ↦ ?_
  have hno := (AdminController.ne_of_isRejected r.isRejected_status).2.1
  exact absurd (hstatus.symm.trans hex) hno

/-- A validation reports neither an execution nor that an action was not dispatched. -/
theorem status_validate_ne (s : AdminFlow) (rpc : Rpc) :
    (s.validate rpc).status ≠ .executed ∧ (s.validate rpc).status ≠ .notDispatched := by
  show (s.controller.validate rpc.caller rpc.action s.frame s.stateSeq).status ≠ .executed ∧
    (s.controller.validate rpc.caller rpc.action s.frame s.stateSeq).status ≠ .notDispatched
  rcases hr : s.controller.rejection rpc.caller rpc.action s.frame with - | r
  · rw [AdminController.validate, hr]
    exact ⟨AdminActionStatus.noConfusion, AdminActionStatus.noConfusion⟩
  · rw [AdminController.validate_of_rejection hr]
    exact (AdminController.ne_of_isRejected r.isRejected_status).2

/-- Nor does an `Execute` report that an action was not dispatched. -/
theorem status_execute_ne_notDispatched (s : AdminFlow) (id : RpcId) (rpc : Rpc) :
    (s.execute id rpc).1.status ≠ .notDispatched := by
  show (s.controller.execute rpc.caller rpc.action s.frame s.stateSeq).1.status ≠ _
  rcases hr : s.controller.rejection rpc.caller rpc.action s.frame with - | r
  · rw [(AdminController.execute_of_no_rejection hr s.stateSeq).1]
    exact AdminActionStatus.noConfusion
  · rw [(AdminController.execute_of_rejection hr s.stateSeq).1]
    exact (AdminController.ne_of_isRejected r.isRejected_status).2.2

/-- The engine thread executes an entry that was applied. -/
theorem ReportInv.executeEntry (hs : s.ReportInv) (hengine : s.engine = .executing id rest) :
    ({ (s.execute id rpc).2 with engine := .completing id (s.execute id rpc).1 rest } :
      AdminFlow).ReportInv := by
  have happlied : s.Applied id := by
    have := hs.engine
    rwa [EngineReports, hengine] at this
  refine hs.advance (Advances.of_eq rfl (AdminController.settings_execute ..) (Nat.le_refl _)) rfl
    (fun _ ↦ happlied) hs.completions ?_
  simp only [AdminFlow.execute]
  split_ifs
  · exact forall_mem_append.2 ⟨hs.acquired, forall_mem_singleton.2 happlied⟩
  · exact hs.acquired

/-- The engine thread answers an entry. -/
theorem ReportInv.complete (hs : s.ReportInv) (hengine : s.engine = .completing id result rest) :
    ({ s with
      completions := Function.update s.completions id (some result)
      engine := .draining rest } : AdminFlow).ReportInv := by
  refine hs.advance (Advances.of_eq rfl rfl (Nat.le_refl _)) rfl trivial (fun i r hc hex ↦ ?_)
    hs.acquired
  rcases eq_or_ne i id with rfl | hne
  · simp only [Function.update_self, Option.some.injEq] at hc
    have hreports := hs.engine
    rw [EngineReports, hengine, hc] at hreports
    exact hreports hex
  · simp only [Function.update_of_ne hne] at hc
    exact hs.completions i r hc hex

/-- **One step keeps the invariant**, if a conflict lasts until the worker executes. -/
theorem reportInv_step (hs : s.ReportInv) (hlast : s.ConflictLasts label)
    (h : s.step label = some t) : t.ReportInv := by
  have happend : ∀ a, s.applications ⊆ s.applications ++ [a] :=
    fun _ ↦ subset_append_left _ _
  cases steps_of_step h with
  | startAccepted | checkHealthy => exact hs.setPhase trivial
  | startRejected hfree hvalid => exact hs.setPhase (rpcReports_rejected hvalid)
  | unavailable | timeOut => exact hs.setPhase fun hex ↦ AdminActionStatus.noConfusion hex
  | enqueue => exact ReportInv.setPhase ⟨hs.rpcs, hs.completions, hs.engine, hs.acquired⟩ trivial
  | receive hrpc hphase hcompletion => exact hs.setPhase (hs.completions _ _ hcompletion)
  | executeRejected hrpc hphase => exact hs.executeRejected hlast hrpc hphase
  | beginTick | expireLeases | swapPending | endTick =>
    exact hs.calm (Advances.of_eq rfl rfl (Nat.le_refl _)) rfl trivial (fun _ _ h ↦ h) rfl
  | validateAccepted =>
    exact hs.calm (Advances.of_eq rfl rfl (Nat.le_refl _)) rfl (status_validate_ne s _).1
      (fun _ _ h ↦ h) rfl
  | validateRejected =>
    exact hs.calm (Advances.of_eq rfl rfl (Nat.le_refl _)) rfl
      (fun hex ↦ absurd hex (status_validate_ne s _).1) (fun _ _ h ↦ h) rfl
  | applied =>
    exact hs.calm ⟨happend _, rfl, Nat.le_refl _⟩ rfl
      ⟨s.tick, mem_append_right _ (mem_singleton_self _)⟩ (fun _ _ h ↦ h) rfl
  | refused =>
    exact hs.calm ⟨happend _, rfl, Nat.le_refl _⟩ rfl (fun hex ↦ AdminActionStatus.noConfusion hex)
      (fun _ _ h ↦ h) rfl
  | threw => exact hs.calm ⟨happend _, rfl, Nat.le_refl _⟩ rfl trivial (fun _ _ h ↦ h) rfl
  | executeEntry hengine => exact hs.executeEntry hengine
  | complete hengine => exact hs.complete hengine
  | advance hframe =>
    exact hs.calm (Advances.of_eq rfl rfl hframe) rfl hs.engine (fun _ _ h ↦ h) rfl
  | disable =>
    exact hs.calm (Advances.of_eq rfl rfl (Nat.le_refl _)) rfl hs.engine (fun _ _ h ↦ h) rfl

/-- What the answers promise: an executed action, or a lease, stands for a successful
application. -/
def ReportsOnlyApplied (s : AdminFlow) : Prop :=
  (∀ id rpc result tick, s.rpcs id = some rpc → rpc.phase = .returned result tick →
    result.status = .executed → s.Applied id) ∧
  ∀ id ∈ s.acquired, s.Applied id

/-- **Reported means applied**, in every run in which a worker that was turned away by a lease still
finds the control leased when it calls `Execute`. -/
theorem reported_only_if_applied (settings : AdminSettings) {labels : List AdminLabel}
    (hmeets : (machine settings).Meets ConflictLasts (machine settings).init labels)
    (hrun : (machine settings).exec (machine settings).init labels = some t) :
    t.ReportsOnlyApplied := by
  have hinv : t.ReportInv := StepMachine.invariant_of_meets (I := ReportInv)
    (fun _ _ _ hs hlast hstep ↦ reportInv_step hs hlast hstep) (reportInv_create settings) hmeets
    hrun
  refine ⟨fun id rpc result tick hrpc hphase hex ↦ ?_, hinv.acquired⟩
  have hreports := hinv.rpcs id rpc hrpc
  simp only [RpcReports, hphase] at hreports
  exact hreports hex

/-- The client `"b"` pauses the game through the engine thread and takes the lease; then `"a"` asks
for the same control and is rejected. -/
def leaseAndConflict : List AdminLabel :=
  [.start 0 ⟨"b", .operator⟩ { action := .pause true }, .checkHealthy 0, .enqueue 0,
    .beginTick, .expireLeases, .swapPending, .validateEntry, .applyEntry (.returned true),
    .executeEntry, .complete, .endTick, .advance 100 1, .receive 0,
    .start 1 ⟨"a", .operator⟩ { action := .pause false }]

theorem conflictLasts_leaseAndConflict :
    ∀ label ∈ leaseAndConflict, ∀ s : AdminFlow, s.ConflictLasts label := by
  simp [leaseAndConflict, ConflictLasts]

theorem reported_only_if_applied_leaseAndConflict :
    ∃ t, (machine {}).exec (machine {}).init (leaseAndConflict ++ [.executeRejected 1]) = some t ∧
      (t.rpcs 1).map (·.phase.answerStatus) = some (some .rejectedConflict) ∧
      t.acquired = [0] ∧ t.ReportsOnlyApplied := by
  have hmeets : (machine {}).Meets ConflictLasts (machine {}).init
      (leaseAndConflict ++ [.executeRejected 1]) := by
    refine StepMachine.meets_append.2
      ⟨StepMachine.meets_of_forall_mem conflictLasts_leaseAndConflict _, ?_⟩
    rintro s hs
    cases hs
    refine ⟨?_, fun _ _ ↦ trivial⟩
    rintro rpc first hrpc - -
    cases hrpc
    exact ⟨_, rfl, by decide⟩
  exact ⟨_, rfl, rfl, rfl, reported_only_if_applied {} hmeets rfl⟩

/-- **A report without an application**: the lease expires between the worker's rejection and its
`Execute`, which then reports execution and takes the lease for an action nobody applied. -/
theorem reported_without_application :
    ∃ t, (machine {}).exec (machine {}).init
        (leaseAndConflict ++ [.beginTick, .expireLeases, .executeRejected 1]) = some t ∧
      (t.rpcs 1).map (·.phase.answerStatus) = some (some .executed) ∧
      1 ∈ t.acquired ∧ ¬t.Applied 1 := by
  refine ⟨_, rfl, rfl, by decide, ?_⟩
  rintro ⟨tick, hmem⟩
  cases mem_singleton.1 hmem

/-! ### The queue -/

/-- A call that will not enter the pending queue again. -/
def PastEnqueue (s : AdminFlow) (id : RpcId) : Prop :=
  ∃ rpc, s.rpcs id = some rpc ∧ rpc.phase.isPast = true

/-- A call that moves on stays past the queue if its new phase is. -/
theorem PastEnqueue.setPhase {i : RpcId} (h : s.PastEnqueue i)
    (hpast : i = id → phase.isPast = true) : (s.setPhase id rpc phase).PastEnqueue i := by
  rcases eq_or_ne i id with rfl | hne
  · exact ⟨_, setPhase_rpcs_self .., hpast rfl⟩
  · obtain ⟨p, hp, hphase⟩ := h
    exact ⟨p, by rw [setPhase_rpcs_of_ne s hne]; exact hp, hphase⟩

/-- A call that is not past the queue. -/
theorem not_pastEnqueue (hrpc : s.rpcs id = some rpc) (hphase : rpc.phase.isPast = false) :
    ¬s.PastEnqueue id := by
  rintro ⟨p, hp, hpast⟩
  obtain rfl := Option.some.inj (hrpc.symm.trans hp)
  exact Bool.false_ne_true (hphase.symm.trans hpast)

/-- A call that is past the queue stays so. -/
theorem pastEnqueue_steps {i : RpcId} (hstep : Steps s label t) (hi : s.PastEnqueue i) :
    t.PastEnqueue i := by
  cases hstep with
  | startAccepted hfree | startRejected hfree =>
    refine hi.setPhase fun heq ↦ ?_
    obtain ⟨p, hp, -⟩ := hi
    rw [heq, hfree] at hp
    cases hp
  | checkHealthy hrpc hphase =>
    exact hi.setPhase fun heq ↦ absurd (heq ▸ hi) (not_pastEnqueue hrpc (by rw [hphase]; rfl))
  | unavailable | timeOut | receive => exact hi.setPhase fun _ ↦ rfl
  | enqueue => exact PastEnqueue.setPhase (s := { s with pending := _ }) hi fun _ ↦ rfl
  | @executeRejected id rpc =>
    exact PastEnqueue.setPhase (s := (s.execute id rpc).2) hi fun _ ↦ rfl
  | _ => exact hi

/-- No entry is in the queue or the drain twice, and each is past the queue. -/
structure Lined (s : AdminFlow) : Prop where
  nodup : (s.pending ++ s.engine.ids).Nodup
  past : ∀ id ∈ s.pending ++ s.engine.ids, s.PastEnqueue id

/-- A step that brings no entry in. -/
theorem Lined.of_sublist (hs : s.Lined) (hstep : Steps s label t)
    (h : (t.pending ++ t.engine.ids).Sublist (s.pending ++ s.engine.ids)) : t.Lined :=
  ⟨hs.nodup.sublist h, fun id hid ↦ pastEnqueue_steps hstep (hs.past id (h.subset hid))⟩

theorem lined_create (settings : AdminSettings) : (create settings).Lined :=
  ⟨nodup_nil, fun _ h ↦ absurd h not_mem_nil⟩

/-- Every step keeps the queue and the drain in line. -/
theorem lined_steps (hs : s.Lined) (hstep : Steps s label t) : t.Lined := by
  have hsame : t.pending = s.pending → t.engine.ids = s.engine.ids → t.Lined := by
    intro hpending hids
    refine hs.of_sublist hstep ?_
    rw [hpending, hids]
  cases hstep with
  | startAccepted | startRejected | checkHealthy | unavailable | timeOut | receive
  | executeRejected | advance | disable => exact hsame rfl rfl
  | beginTick hengine | expireLeases hengine | validateAccepted hengine | validateRejected hengine
  | applied hengine | refused hengine | executeEntry hengine | endTick hengine =>
    exact hsame rfl (by rw [hengine]; rfl)
  | swapPending hengine =>
    refine hs.of_sublist (.swapPending hengine) ?_
    rw [hengine]
    exact (append_nil s.pending).symm ▸ List.Sublist.refl _
  | threw hengine =>
    exact hs.of_sublist (.threw hengine) ((List.Sublist.refl _).append (nil_sublist _))
  | complete hengine =>
    refine hs.of_sublist (.complete hengine) ?_
    rw [hengine]
    exact (List.Sublist.refl _).append (sublist_cons_self _ _)
  | @enqueue id rpc hrpc hphase =>
    -- a call that is about to enter the queue is not in it yet
    have hnew : id ∉ s.pending ++ s.engine.ids := fun hmem ↦
      not_pastEnqueue hrpc (by rw [hphase]; rfl) (hs.past id hmem)
    have hperm : (s.pending ++ [id] ++ s.engine.ids).Perm (id :: (s.pending ++ s.engine.ids)) := by
      rw [append_assoc, singleton_append]
      exact perm_middle
    refine ⟨hperm.nodup_iff.2 (nodup_cons.2 ⟨hnew, hs.nodup⟩), fun i hi ↦ ?_⟩
    rcases mem_cons.1 (hperm.subset hi) with rfl | hold
    · exact ⟨_, setPhase_rpcs_self .., rfl⟩
    · exact pastEnqueue_steps (.enqueue hrpc hphase) (hs.past i hold)

/-! ### Not dispatched means never applied -/

/-- Every application of the call was refused by the engine, and none is later than the tick. -/
def Refused (s : AdminFlow) (id : RpcId) (tick : ℕ) : Prop :=
  ∀ a ∈ s.applications, a.id = id → a.outcome = .returned false ∧ a.tick ≤ tick

/-- The invariant behind `not_dispatched_never_applied`. -/
structure Settled (s : AdminFlow) : Prop where
  lined : s.Lined
  /-- A call in the queue or the drain still waits. -/
  waiting : ∀ id ∈ s.pending ++ s.engine.ids, s.completions id = none ∧
    ∃ rpc, s.rpcs id = some rpc ∧ rpc.phase = .waiting
  completed : ∀ id, s.completions id ≠ none → s.PastEnqueue id
  applied : ∀ a ∈ s.applications, s.PastEnqueue a.id ∧ a.tick ≤ s.tick
  /-- What is still to be applied has not been applied. -/
  unapplied : ∀ a ∈ s.applications, a.id ∉ s.pending ++ s.engine.unapplied
  completing : ∀ id result rest, s.engine = .completing id result rest →
    result.status = .notDispatched → s.Refused id s.tick
  completions : ∀ id result, s.completions id = some result →
    result.status = .notDispatched → s.Refused id s.tick
  returned : ∀ id rpc result tick, s.rpcs id = some rpc → rpc.phase = .returned result tick →
    result.status = .notDispatched → s.Refused id tick

theorem settled_create (settings : AdminSettings) : (create settings).Settled where
  lined := lined_create settings
  waiting := fun _ h ↦ absurd h not_mem_nil
  completed := fun _ h ↦ absurd rfl h
  applied := fun _ h ↦ absurd h not_mem_nil
  unapplied := fun _ h ↦ absurd h not_mem_nil
  completing := fun _ _ _ h ↦ DrainPhase.noConfusion h
  completions := fun _ _ h ↦ by cases h
  returned := fun _ _ _ _ h ↦ by cases h

section Settled

variable (hs : s.Settled)
include hs

/-- A call that does not wait is neither in the queue nor in the drain. -/
theorem Settled.not_mem (hrpc : s.rpcs id = some rpc) (hphase : rpc.phase ≠ .waiting) :
    id ∉ s.pending ++ s.engine.ids := by
  intro hmem
  obtain ⟨-, p, hp, hwait⟩ := hs.waiting id hmem
  obtain rfl := Option.some.inj (hrpc.symm.trans hp)
  exact hphase hwait

/-- A call that has not been in the queue has not been applied. -/
theorem Settled.refused_of_not_past (h : ¬s.PastEnqueue id) (tick : ℕ) : s.Refused id tick :=
  fun a ha hid ↦ absurd (hid ▸ (hs.applied a ha).1) h

/-- A worker's step that does not enqueue. -/
theorem Settled.setPhase (hlined : (s.setPhase id rpc phase).Lined)
    (hpast : ∀ i, s.PastEnqueue i → (s.setPhase id rpc phase).PastEnqueue i)
    (hout : id ∉ s.pending ++ s.engine.ids)
    (hreturned : ∀ result tick, phase = .returned result tick → result.status = .notDispatched →
      s.Refused id tick) : (s.setPhase id rpc phase).Settled where
  lined := hlined
  waiting := by
    intro i hi
    have hne : i ≠ id := fun heq ↦ hout (heq ▸ hi)
    rw [setPhase_rpcs_of_ne s hne]
    exact hs.waiting i hi
  completed := fun i hi ↦ hpast i (hs.completed i hi)
  applied := fun a ha ↦ (hs.applied a ha).imp_left (hpast a.id)
  unapplied := hs.unapplied
  completing := hs.completing
  completions := hs.completions
  returned := by
    intro i p result tick hp hphase
    rcases rpcs_setPhase hp with ⟨rfl, rfl⟩ | hold
    · exact hreturned result tick hphase
    · exact hs.returned i p result tick hold hphase

/-- Entering the queue. -/
theorem Settled.enqueue (hrpc : s.rpcs id = some rpc) (hphase : rpc.phase = .queueing) :
    (({ s with pending := s.pending ++ [id] } : AdminFlow).setPhase id rpc .waiting).Settled := by
  have hstep := Steps.enqueue hrpc hphase
  have hpast := not_pastEnqueue hrpc (by rw [hphase]; rfl)
  have hmem {i : RpcId} {rest : List RpcId} (hi : i ∈ s.pending ++ [id] ++ rest) (hne : i ≠ id) :
      i ∈ s.pending ++ rest := by
    simpa [hne] using hi
  refine
    { lined := lined_steps hs.lined hstep
      waiting := fun i hi ↦ ?_
      completed := fun i hi ↦ pastEnqueue_steps hstep (hs.completed i hi)
      applied := fun a ha ↦ (hs.applied a ha).imp_left (pastEnqueue_steps hstep)
      unapplied := fun a ha hi ↦ ?_
      completing := hs.completing
      completions := hs.completions
      returned := fun i p result tick hp hreturned ↦ ?_ }
  · rcases eq_or_ne i id with rfl | hne
    · exact ⟨not_not.1 fun h ↦ hpast (hs.completed i h), _, setPhase_rpcs_self .., rfl⟩
    · rw [setPhase_rpcs_of_ne _ hne]
      exact hs.waiting i (hmem hi hne)
  · exact hs.unapplied a ha (hmem hi fun heq ↦ hpast (heq ▸ (hs.applied a ha).1))
  · rcases rpcs_setPhase hp with ⟨rfl, rfl⟩ | hold
    · cases hreturned
    · exact hs.returned i p result tick hold hreturned

/-- A step of the engine thread that neither applies nor answers. -/
theorem Settled.engine (hstep : Steps s label t) (hrpcs : t.rpcs = s.rpcs)
    (hcompletions : t.completions = s.completions)
    (happlications : t.applications = s.applications) (htick : s.tick ≤ t.tick)
    (hids : ∀ id ∈ t.pending ++ t.engine.ids, id ∈ s.pending ++ s.engine.ids)
    (hunapplied : ∀ id ∈ t.pending ++ t.engine.unapplied, id ∈ s.pending ++ s.engine.unapplied)
    (hcompleting : ∀ id result rest, t.engine = .completing id result rest →
      result.status = .notDispatched → s.engine = .completing id result rest) : t.Settled := by
  have hlater {i : RpcId} (h : s.Refused i s.tick) : t.Refused i t.tick := by
    rw [Refused, happlications]
    exact fun a ha hid ↦ (h a ha hid).imp_right (Nat.le_trans · htick)
  refine
    { lined := lined_steps hs.lined hstep
      waiting := fun i hi ↦ ?_
      completed := fun i hi ↦ pastEnqueue_steps hstep (hs.completed i (hcompletions ▸ hi))
      applied := fun a ha ↦ ?_
      unapplied := fun a ha hi ↦ hs.unapplied a (happlications ▸ ha) (hunapplied _ hi)
      completing := fun i result rest h hno ↦
        hlater (hs.completing i result rest (hcompleting i result rest h hno) hno)
      completions := fun i result h hno ↦ hlater (hs.completions i result (hcompletions ▸ h) hno)
      returned := ?_ }
  · rw [hcompletions, hrpcs]
    exact hs.waiting i (hids i hi)
  · obtain ⟨hpast, hle⟩ := hs.applied a (happlications ▸ ha)
    exact ⟨pastEnqueue_steps hstep hpast, hle.trans htick⟩
  · simp only [Refused, hrpcs, happlications]
    exact hs.returned

/-- An application, of an entry that still waits and has not been applied. -/
theorem Settled.apply {outcome : Outcome Bool} (hstep : Steps s label t)
    (hengine : s.engine = .applying id result rest) (hrpcs : t.rpcs = s.rpcs)
    (hcompletions : t.completions = s.completions)
    (happlications : t.applications = s.applications ++ [⟨id, s.tick, outcome⟩])
    (hpending : t.pending = s.pending) (htick : t.tick = s.tick)
    (hids : t.engine.ids ⊆ id :: rest) (hunapplied : t.engine.unapplied ⊆ rest)
    (hcompleting : ∀ i result rest, t.engine = .completing i result rest →
      i = id ∧ outcome = .returned false) : t.Settled := by
  have hmem : id ∈ s.pending ++ s.engine.ids := by
    rw [hengine]
    exact mem_append_right _ mem_cons_self
  have hnodup : (s.pending ++ id :: rest).Nodup := by
    have h := hs.lined.nodup
    rwa [hengine] at h
  have hnew : id ∉ s.pending ++ rest := (nodup_cons.1 (perm_middle.nodup_iff.1 hnodup)).1
  have hfirst : ∀ a ∈ s.applications, a.id ≠ id := fun a ha heq ↦ by
    refine hs.unapplied a ha ?_
    rw [hengine, heq]
    exact mem_append_right _ mem_cons_self
  -- nobody else is touched
  have hother {i : RpcId} {tick : ℕ} (hne : i ≠ id) (h : s.Refused i tick) : t.Refused i tick := by
    rw [Refused, happlications]
    refine forall_mem_append.2 ⟨h, forall_mem_singleton.2 fun heq ↦ ?_⟩
    exact absurd heq.symm hne
  obtain ⟨hcompletion, p, hp, hwait⟩ := hs.waiting id hmem
  refine
    { lined := lined_steps hs.lined hstep
      waiting := fun i hi ↦ ?_
      completed := fun i hi ↦ pastEnqueue_steps hstep (hs.completed i (hcompletions ▸ hi))
      applied := ?_
      unapplied := ?_
      completing := fun i r l h hno ↦ ?_
      completions := fun i r h hno ↦ ?_
      returned := fun i p' r tick hp' hphase hno ↦ ?_ }
  · rw [hcompletions, hrpcs]
    refine hs.waiting i ?_
    rw [hpending] at hi
    rw [hengine]
    exact (mem_append.1 hi).elim (mem_append_left _) fun h ↦
      mem_append_right _ (hids h)
  · rw [happlications, htick]
    refine forall_mem_append.2 ⟨fun a ha ↦ ?_, forall_mem_singleton.2 ?_⟩
    · exact (hs.applied a ha).imp_left (pastEnqueue_steps hstep)
    · exact ⟨pastEnqueue_steps hstep (hs.lined.past id hmem), le_rfl⟩
  · have hsub : ∀ i ∈ t.pending ++ t.engine.unapplied, i ∈ s.pending ++ rest := fun i hi ↦ by
      rw [hpending] at hi
      exact (mem_append.1 hi).elim (mem_append_left _) fun h ↦
        mem_append_right _ (hunapplied h)
    rw [happlications]
    refine forall_mem_append.2 ⟨fun a ha hi ↦ hs.unapplied a ha ?_,
      forall_mem_singleton.2 fun hi ↦ hnew (hsub id hi)⟩
    rw [hengine]
    exact (mem_append.1 (hsub _ hi)).elim (mem_append_left _) fun h ↦
      mem_append_right _ (mem_cons_of_mem _ h)
  · obtain ⟨rfl, rfl⟩ := hcompleting i r l h
    rw [Refused, happlications, htick]
    refine forall_mem_append.2 ⟨fun a ha heq ↦ absurd heq (hfirst a ha), ?_⟩
    exact forall_mem_singleton.2 fun _ ↦ ⟨rfl, le_rfl⟩
  · rw [hcompletions] at h
    rw [htick]
    refine hother (fun heq ↦ ?_) (hs.completions i r h hno)
    exact some_ne_none r (h.symm.trans (heq ▸ hcompletion))
  · rw [hrpcs] at hp'
    refine hother (fun heq ↦ ?_) (hs.returned i p' r tick hp' hphase hno)
    obtain rfl := Option.some.inj (hp.symm.trans (heq ▸ hp'))
    exact RpcPhase.noConfusion (hwait.symm.trans hphase)

/-- The answer of one entry. -/
theorem Settled.complete (hengine : s.engine = .completing id result rest) :
    ({ s with
      completions := Function.update s.completions id (some result)
      engine := .draining rest } : AdminFlow).Settled := by
  have hstep := Steps.complete hengine
  have hids : s.engine.ids = id :: rest := by rw [hengine]; rfl
  have hnodup : id ∉ s.pending ++ rest := by
    have h := hs.lined.nodup
    rw [hids] at h
    exact (nodup_cons.1 (perm_middle.nodup_iff.1 h)).1
  refine
    { lined := lined_steps hs.lined hstep
      waiting := fun i hi ↦ ?_
      completed := fun i hi ↦ ?_
      applied := hs.applied
      unapplied := fun a ha hi ↦ hs.unapplied a ha (by rw [hengine]; exact hi)
      completing := fun _ _ _ h ↦ DrainPhase.noConfusion h
      completions := fun i r h hno ↦ ?_
      returned := hs.returned }
  · have hne : i ≠ id := fun heq ↦ hnodup (heq ▸ hi)
    have hold : i ∈ s.pending ++ s.engine.ids := by
      rw [hids]
      exact (mem_append.1 hi).elim (mem_append_left _) fun h ↦
        mem_append_right _ (mem_cons_of_mem _ h)
    exact (hs.waiting i hold).imp_left (Function.update_of_ne hne ..).trans
  · rcases eq_or_ne i id with rfl | hne
    · exact hs.lined.past i (mem_append_right _ (hids ▸ mem_cons_self))
    · exact hs.completed i fun hc ↦ hi ((Function.update_of_ne hne ..).trans hc)
  · rcases eq_or_ne i id with rfl | hne
    · change Function.update s.completions i (some result) i = some r at h
      rw [Function.update_self] at h
      cases h
      exact hs.completing i result rest hengine hno
    · exact hs.completions i r ((Function.update_of_ne hne ..).symm.trans h) hno

end Settled

/-- The condition on a step: a wait times out only if an exception has discarded its entry before it
was applied. From the push to the completion of an entry, it is in the queue or in the drain. -/
def TimesOutDiscarded (s : AdminFlow) : AdminLabel → Prop
  | .timeOut id => id ∉ s.pending ++ s.engine.ids ∧ ∀ a ∈ s.applications, a.id ≠ id
  | _ => True

instance (s : AdminFlow) : ∀ label, Decidable (s.TimesOutDiscarded label)
  | .timeOut _ => inferInstanceAs (Decidable (_ ∧ _))
  | .start .. | .checkHealthy _ | .enqueue _ | .receive _ | .executeRejected _ | .beginTick
  | .expireLeases | .swapPending | .validateEntry | .applyEntry _ | .executeEntry | .complete
  | .endTick | .advance .. | .disable => inferInstanceAs (Decidable True)

/-- **One step keeps the invariant**, if no wait times out before its entry is completed or
discarded. -/
theorem settled_step (hs : s.Settled) (hwaits : s.TimesOutDiscarded label)
    (h : s.step label = some t) : t.Settled := by
  have hstep := steps_of_step h
  have hlined := lined_steps hs.lined hstep
  have hpast (i : RpcId) (hi : s.PastEnqueue i) : t.PastEnqueue i := pastEnqueue_steps hstep hi
  have hstep' := hstep
  cases hstep with
  | startAccepted hfree | startRejected hfree =>
    refine hs.setPhase hlined hpast (fun hmem ↦ ?_) fun _ _ hc ↦ RpcPhase.noConfusion hc
    obtain ⟨-, p, hp, -⟩ := hs.waiting _ hmem
    exact some_ne_none p (hp.symm.trans hfree)
  | checkHealthy hrpc hphase =>
    exact hs.setPhase hlined hpast (hs.not_mem hrpc (by rw [hphase]; exact RpcPhase.noConfusion))
      fun _ _ hc ↦ RpcPhase.noConfusion hc
  | unavailable hrpc hphase =>
    exact hs.setPhase hlined hpast (hs.not_mem hrpc (by rw [hphase]; exact RpcPhase.noConfusion))
      fun _ tick _ _ ↦ hs.refused_of_not_past (not_pastEnqueue hrpc (by rw [hphase]; rfl)) tick
  | enqueue hrpc hphase => exact hs.enqueue hrpc hphase
  | timeOut =>
    exact hs.setPhase hlined hpast hwaits.1 fun _ _ _ _ a ha heq ↦ absurd heq (hwaits.2 a ha)
  | receive hrpc hphase hcompletion =>
    refine hs.setPhase hlined hpast (fun hmem ↦ ?_) fun result tick hc hno ↦ ?_
    · exact some_ne_none _ (hcompletion.symm.trans (hs.waiting _ hmem).1)
    · obtain ⟨rfl, rfl⟩ := RpcPhase.returned.inj hc
      exact hs.completions _ _ hcompletion hno
  | @executeRejected id rpc first hrpc hphase =>
    have hexec : (s.execute id rpc).2.Settled :=
      ⟨⟨hs.lined.nodup, hs.lined.past⟩, hs.waiting, hs.completed, hs.applied, hs.unapplied,
        hs.completing, hs.completions, hs.returned⟩
    exact hexec.setPhase hlined hpast
      (hs.not_mem hrpc (by rw [hphase]; exact RpcPhase.noConfusion)) fun _ tick _ _ ↦
        hs.refused_of_not_past (not_pastEnqueue hrpc (by rw [hphase]; rfl)) tick
  | beginTick hengine =>
    exact hs.engine hstep' rfl rfl rfl (Nat.le_succ _) (by rw [hengine]; exact fun _ h ↦ h)
      (by rw [hengine]; exact fun _ h ↦ h) fun _ _ _ hc ↦ DrainPhase.noConfusion hc
  | expireLeases hengine | validateAccepted hengine | endTick hengine =>
    exact hs.engine hstep' rfl rfl rfl le_rfl (by rw [hengine]; exact fun _ h ↦ h)
      (by rw [hengine]; exact fun _ h ↦ h) fun _ _ _ hc ↦ DrainPhase.noConfusion hc
  | swapPending hengine =>
    exact hs.engine hstep' rfl rfl rfl le_rfl (fun _ h ↦ mem_append_left _ h)
      (fun _ h ↦ mem_append_left _ h) fun _ _ _ hc ↦ DrainPhase.noConfusion hc
  | @validateRejected id rpc rest hengine =>
    refine hs.engine hstep' rfl rfl rfl le_rfl (by rw [hengine]; exact fun _ h ↦ h) ?_
      fun i result rest hc hno ↦ ?_
    · rw [hengine]
      exact forall_mem_append.2 ⟨fun _ ↦ mem_append_left _, fun _ h ↦
        mem_append_right _ (mem_cons_of_mem _ h)⟩
    · obtain ⟨-, rfl, -⟩ := DrainPhase.completing.inj hc
      exact absurd hno (status_validate_ne s rpc).2
  | @executeEntry id rpc rest hengine =>
    refine hs.engine hstep' rfl rfl rfl le_rfl (by rw [hengine]; exact fun _ h ↦ h)
      (by rw [hengine]; exact fun _ h ↦ h) fun i result rest hc hno ↦ ?_
    obtain ⟨-, rfl, -⟩ := DrainPhase.completing.inj hc
    exact absurd hno (status_execute_ne_notDispatched s id rpc)
  | applied hengine =>
    exact hs.apply hstep' hengine rfl rfl rfl rfl rfl (List.Subset.refl _) (List.Subset.refl _)
      fun _ _ _ hc ↦ DrainPhase.noConfusion hc
  | refused hengine =>
    exact hs.apply hstep' hengine rfl rfl rfl rfl rfl (List.Subset.refl _) (List.Subset.refl _)
      fun _ _ _ hc ↦ ⟨(DrainPhase.completing.inj hc).1.symm, rfl⟩
  | threw hengine =>
    exact hs.apply hstep' hengine rfl rfl rfl rfl rfl (nil_subset _) (nil_subset _)
      fun _ _ _ hc ↦ DrainPhase.noConfusion hc
  | complete hengine => exact hs.complete hengine
  | advance | disable =>
    exact hs.engine hstep' rfl rfl rfl le_rfl (fun _ h ↦ h) (fun _ h ↦ h) fun _ _ _ h _ ↦ h

/-- What `NOT_DISPATCHED` promises: if the engine was given the action at all it refused it, and it
is not given it again at a later tick. -/
def NeverApplied (s : AdminFlow) : Prop :=
  ∀ id rpc result tick, s.rpcs id = some rpc → rpc.phase = .returned result tick →
    result.status = .notDispatched → s.Refused id tick

/-- **Not dispatched means never applied**, in every run in which no wait times out between the push
of its entry and its completion, unless an exception has discarded the entry before its turn. -/
theorem not_dispatched_never_applied (settings : AdminSettings) {labels : List AdminLabel}
    (hmeets : (machine settings).Meets TimesOutDiscarded (machine settings).init labels)
    (hrun : (machine settings).exec (machine settings).init labels = some t) :
    t.NeverApplied := by
  have hinv : t.Settled := StepMachine.invariant_of_meets (I := Settled)
    (fun _ _ _ hs hwaits hstep ↦ settled_step hs hwaits hstep) (settled_create settings) hmeets
    hrun
  exact hinv.returned

/-- The client `"b"` asks for a pause; its entry is in the queue. -/
def pauseQueued (id : RpcId) : List AdminLabel :=
  [.start id ⟨"b", .operator⟩ { action := .pause true }, .checkHealthy id, .enqueue id]

/-- One tick takes the entry and applies it. -/
def applyingTick (outcome : Outcome Bool) : List AdminLabel :=
  [.beginTick, .expireLeases, .swapPending, .validateEntry, .applyEntry outcome]

/-- The engine refuses the first entry and throws at the second; the third is discarded. -/
def refusedAndDiscarded : List AdminLabel :=
  pauseQueued 0 ++ pauseQueued 1 ++ pauseQueued 2 ++ applyingTick (.returned false) ++
    [.complete, .receive 0, .validateEntry, .applyEntry .threw, .timeOut 2]

theorem not_dispatched_never_applied_refusedAndDiscarded :
    ∃ t, (machine {}).exec (machine {}).init refusedAndDiscarded = some t ∧
      (t.rpcs 0).map (·.phase.answerStatus) = some (some .notDispatched) ∧
      (t.rpcs 2).map (·.phase.answerStatus) = some (some .notDispatched) ∧
      t.applications = [⟨0, 1, .returned false⟩, ⟨1, 1, .threw⟩] ∧ t.NeverApplied := by
  have hmeets : (machine {}).Meets TimesOutDiscarded (machine {}).init refusedAndDiscarded := by
    decide
  exact ⟨_, rfl, rfl, rfl, rfl, not_dispatched_never_applied {} hmeets rfl⟩

/-- **Applied after `NOT_DISPATCHED`**: the wait times out before the engine thread takes the queue,
and the next tick applies the entry all the same. -/
theorem applied_after_not_dispatched :
    ∃ t, (machine {}).exec (machine {}).init
        (pauseQueued 0 ++ [.timeOut 0] ++ applyingTick (.returned true)) = some t ∧
      (t.rpcs 0).map (·.phase.answerStatus) = some (some .notDispatched) ∧
      t.applications = [⟨0, 1, .returned true⟩] ∧ ¬t.NeverApplied := by
  refine ⟨_, rfl, rfl, rfl, fun hc ↦ ?_⟩
  have := hc 0 _ _ _ rfl rfl rfl ⟨0, 1, .returned true⟩ (mem_singleton_self _) rfl
  exact absurd this.2 (by decide)

end AdminFlow

end HighBar.Module
