import HighBar.Module.AdminEngine
import HighBar.Module.AdminReport
import Mathlib.Data.List.Nodup

/-!
# The audit log

Every result a caller is given should have **exactly one** audit event, with that caller, that
control and that status; every lease that expires should have one too; and the events are numbered
1, 2, 3 and so on.

`Execute` audits once, whatever it answers (`AdminController.auditLog_execute`), so the events of
the calls that end in `Execute` are complete: those rejected on the worker, and those applied. The
drain has three exits that do not go through `Execute`, the entry it rejects itself, the entry the
engine refuses and the exception; nor do the two results that `QueueAdminAction` makes up itself,
without an engine thread and after a time-out; and `ExpireLeases` audits nothing. `audit_complete`
holds for every run in which the drain **rejects no entry, every application succeeds, no wait times
out, no call finds the gateway disabled, and no lease is due** when leases are expired.

The invariant follows each audited call: it is past the queue, in no list of entries to come, and
its event carries the status of whatever result is on its way to the caller.
-/

namespace HighBar.Module

open Grpc List Option

/-- The engine thread is about to answer an entry. -/
def DrainPhase.isCompleting : DrainPhase → Bool
  | .completing .. => true
  | _ => false

theorem DrainPhase.ne_completing {phase : DrainPhase} (h : phase.isCompleting = false) (id : RpcId)
    (result : AdminActionResult) (rest : List RpcId) : phase ≠ .completing id result rest := by
  rintro rfl
  cases h

namespace AdminFlow

variable {s t : AdminFlow} {label : AdminLabel}

/-! ### Which steps audit -/

/-- Where `Execute` is called: on the worker after a rejection, or on the engine thread after an
application. -/
inductive Executes (s : AdminFlow) (id : RpcId) (rpc : Rpc) : AdminLabel → AdminFlow → Prop
  | worker {first : AdminActionResult} (hphase : rpc.phase = .rejected first) :
    Executes s id rpc (.executeRejected id)
      ((s.execute id rpc).2.answer id rpc (s.execute id rpc).1)
  | engine {rest : List RpcId} (hengine : s.engine = .executing id rest) :
    Executes s id rpc .executeEntry
      { (s.execute id rpc).2 with engine := .completing id (s.execute id rpc).1 rest }

theorem audited_of_eq (h : t.controller.auditLog = s.controller.auditLog) :
    s.audited t label = [] := by
  rw [audited, h, drop_length]
  rfl

end AdminFlow

/-- The event says who asked for what and what came of it. -/
structure Reports (event : AdminAuditEvent) (rpc : Rpc) (status : AdminActionStatus) : Prop where
  callerIdentity : event.callerIdentity = rpc.caller.identity
  role : event.role = rpc.caller.role
  actionType : event.actionType = controlName rpc.action
  result : event.result = status

namespace AdminFlow

variable {s t : AdminFlow} {label : AdminLabel}

/-- What an `Execute` writes. -/
theorem Executes.audits {id : RpcId} {rpc : Rpc} (h : Executes s id rpc label t) :
    ∃ event, s.audited t label = [(some id, event)] ∧
      t.controller.auditLog = s.controller.auditLog ++ [event] ∧
      t.controller.nextAuditId = wrapAdd 64 s.controller.nextAuditId 1 ∧
      event.eventId = s.controller.nextAuditId ∧ Reports event rpc (s.execute id rpc).1.status := by
  obtain ⟨hnext, event, hlog, hid, hcaller, hrole, haction, hresult⟩ :=
    AdminController.auditLog_execute s.controller rpc.caller rpc.action s.frame s.stateSeq
  have hdrop : (s.controller.auditLog ++ [event]).drop s.controller.auditLog.length = [event] := by
    rw [drop_left]
  refine ⟨event, ?_, ?_, ?_, hid, hcaller, hrole, haction, hresult⟩
  · cases h with
    | worker =>
      show List.map _ (List.drop _ (s.execute id rpc).2.controller.auditLog) = _
      rw [show (s.execute id rpc).2.controller.auditLog = _ from hlog, hdrop]
      rfl
    | engine hengine =>
      show List.map _ (List.drop _ (s.execute id rpc).2.controller.auditLog) = _
      rw [show (s.execute id rpc).2.controller.auditLog = _ from hlog, hdrop, writer, hengine]
      rfl
  · cases h with
    | worker => exact hlog
    | engine => exact hlog
  · cases h with
    | worker => exact hnext
    | engine => exact hnext

/-! ### Steps that keep the audit complete -/

/-- No lease is due at this frame. -/
def NoneDue (s : AdminFlow) : Prop :=
  ∀ control ∈ AdminControl.all, ∀ lease ∈ s.controller.leases control,
    lease.expiresFrame = 0 ∨ s.frame < lease.expiresFrame

instance (s : AdminFlow) : Decidable s.NoneDue :=
  inferInstanceAs (Decidable (∀ control ∈ AdminControl.all, ∀ lease ∈ _, _ ∨ _))

/-- Where no lease is due, none expires. -/
theorem NoneDue.expireLeases (h : s.NoneDue) :
    (s.controller.expireLeases s.frame).leases = s.controller.leases := by
  funext control
  show (s.controller.leases control).filter _ = _
  rcases hlease : s.controller.leases control with - | lease
  · rfl
  · rcases h control control.mem_all lease hlease with hnever | hlater
    · simp [hnever]
    · simp [hlater]

/-- With no lease due none is audited as expired. -/
theorem NoneDue.expires (h : s.NoneDue) {t : AdminFlow}
    (ht : t.controller = s.controller.expireLeases s.frame) : s.expires t .expireLeases = [] := by
  refine filterMap_eq_nil_iff.2 fun control _ ↦ ?_
  rw [ht, h.expireLeases]
  split_ifs with hnone
  · exact hnone
  · rfl

/-- The condition on a step: a call finds the gateway healthy and its wait does not time out, the
drain accepts the entry it validates, the engine applies the action it is given, no lease is due
when leases are expired, and there are event ids left. -/
def Audits (s : AdminFlow) : AdminLabel → Prop
  | .checkHealthy _ => s.healthy = true
  | .timeOut _ => False
  | .validateEntry =>
    ∀ rpc ∈ s.engine.ids.head?.bind s.rpcs, (s.validate rpc).status = .accepted
  | .applyEntry outcome => outcome = .returned true
  | .expireLeases => s.NoneDue
  | .executeRejected _ | .executeEntry => s.controller.auditLog.length + 2 < 2 ^ 64
  | _ => True

instance (s : AdminFlow) : ∀ label, Decidable (s.Audits label)
  | .validateEntry => inferInstanceAs (Decidable (∀ rpc ∈ s.engine.ids.head?.bind s.rpcs, _ = _))
  | .checkHealthy _ | .applyEntry _ => inferInstanceAs (Decidable (_ = _))
  | .timeOut _ => inferInstanceAs (Decidable False)
  | .expireLeases => inferInstanceAs (Decidable s.NoneDue)
  | .executeRejected _ | .executeEntry => inferInstanceAs (Decidable (_ < _))
  | .start .. | .enqueue _ | .receive _ | .beginTick | .swapPending | .complete | .endTick
  | .advance .. | .disable => inferInstanceAs (Decidable True)

end AdminFlow

namespace AdminEngine

variable {s t : AdminEngine} {label : AdminLabel} {flow : AdminFlow} {id : RpcId}

/-! ### The invariant -/

/-- The call has an audit event with the status of this result. -/
def AuditedAs (s : AdminEngine) (id : RpcId) (result : AdminActionResult) : Prop :=
  ∃ rpc event, s.flow.rpcs id = some rpc ∧ (some id, event) ∈ s.audits ∧
    Reports event rpc result.status

/-- What holds as long as every result goes through `Execute` and no lease expires. -/
structure AuditInv (s : AdminEngine) : Prop where
  lined : s.flow.Lined
  log_eq : s.audits.map Prod.snd = s.flow.controller.auditLog
  eventIds : s.flow.controller.auditLog.map AdminAuditEvent.eventId =
    List.range' 1 s.flow.controller.auditLog.length
  nextAuditId : s.flow.controller.nextAuditId = s.flow.controller.auditLog.length + 1
  /-- No call is audited twice. -/
  nodup : (s.audits.map Prod.fst).Nodup
  /-- Every event is for a call. -/
  forCall : none ∉ s.audits.map Prod.fst
  /-- An audited call is past the queue, and in the drain at most to be answered. -/
  done : ∀ id, some id ∈ s.audits.map Prod.fst → s.flow.PastEnqueue id ∧ id ∉ s.flow.pending ∧
    (id ∈ s.flow.engine.ids → ∃ result rest, s.flow.engine = .completing id result rest)
  completing : ∀ id result rest, s.flow.engine = .completing id result rest → s.AuditedAs id result
  completions : ∀ id result, s.flow.completions id = some result → s.AuditedAs id result
  decided : ∀ id result, (id, result) ∈ s.decided → s.AuditedAs id result
  expired : s.expired = []

/-- A call keeps its caller and its action, so what an event reports of it stays true. -/
theorem auditedAs_follow {result : AdminActionResult} {rpc : Rpc} {event : AdminAuditEvent}
    (hflow : AdminFlow.Steps s.flow label flow) (hrpc : s.flow.rpcs id = some rpc)
    (hmem : (some id, event) ∈ (s.follow label flow).audits)
    (hreports : Reports event rpc result.status) : (s.follow label flow).AuditedAs id result := by
  obtain ⟨rpc', hrpc', hcaller, haction⟩ := AdminFlow.rpc_of_steps hflow hrpc
  refine ⟨rpc', event, hrpc', hmem, ?_, ?_, ?_, hreports.result⟩
  · rw [hcaller]
    exact hreports.callerIdentity
  · rw [hcaller]
    exact hreports.role
  · rw [haction]
    exact hreports.actionType

theorem AuditedAs.follow {result : AdminActionResult} (h : s.AuditedAs id result)
    (hflow : AdminFlow.Steps s.flow label flow) : (s.follow label flow).AuditedAs id result := by
  obtain ⟨rpc, event, hrpc, hmem, hreports⟩ := h
  exact auditedAs_follow hflow hrpc (mem_append_left _ hmem) hreports

/-- A step that audits nothing, and brings only audited results on their way. -/
theorem AuditInv.calm (hs : s.AuditInv) (hflow : AdminFlow.Steps s.flow label flow)
    (hlog : flow.controller.auditLog = s.flow.controller.auditLog)
    (hnext : flow.controller.nextAuditId = s.flow.controller.nextAuditId)
    (hdone : ∀ id, some id ∈ s.audits.map Prod.fst → id ∉ flow.pending ∧
      (id ∈ flow.engine.ids → ∃ result rest, flow.engine = .completing id result rest))
    (hcompleting : ∀ id result rest, flow.engine = .completing id result rest →
      s.flow.engine = .completing id result rest)
    (hcompletions : ∀ id result, flow.completions id = some result →
      s.AuditedAs id result)
    (hdecides : ∀ id result, (id, result) ∈ flow.decides label →
      s.flow.completions id = some result)
    (hexpires : s.flow.expires flow label = []) : (s.follow label flow).AuditInv := by
  have haudits : (s.follow label flow).audits = s.audits := by
    rw [AdminEngine.follow, AdminFlow.audited_of_eq hlog, append_nil]
  refine
    { lined := AdminFlow.lined_steps hs.lined hflow
      log_eq := ?_
      eventIds := ?_
      nextAuditId := ?_
      nodup := ?_
      forCall := ?_
      done := fun i hi ↦ ?_
      completing := fun i result rest h ↦ ?_
      completions := fun i result h ↦ (hcompletions i result h).follow hflow
      decided := fun i result h ↦ ?_
      expired := ?_ }
  · rw [haudits, hs.log_eq]
    exact hlog.symm
  · show List.map _ flow.controller.auditLog = List.range' 1 flow.controller.auditLog.length
    rw [hlog]
    exact hs.eventIds
  · show flow.controller.nextAuditId = flow.controller.auditLog.length + 1
    rw [hlog, hnext]
    exact hs.nextAuditId
  · rw [haudits]
    exact hs.nodup
  · rw [haudits]
    exact hs.forCall
  · rw [haudits] at hi
    exact ⟨AdminFlow.pastEnqueue_steps hflow (hs.done i hi).1, hdone i hi⟩
  · exact (hs.completing i result rest (hcompleting i result rest h)).follow hflow
  · rcases mem_append.1 h with hold | hnew
    · exact (hs.decided i result hold).follow hflow
    · exact (hs.completions i result (hdecides i result hnew)).follow hflow
  · show s.expired ++ s.flow.expires flow label = []
    rw [hexpires, hs.expired]
    rfl

/-- A call that is not past the queue has not been audited. -/
theorem AuditInv.not_audited {rpc : Rpc} (hs : s.AuditInv) (hrpc : s.flow.rpcs id = some rpc)
    (hphase : rpc.phase.isPast = false) : some id ∉ s.audits.map Prod.fst := fun hmem ↦
  AdminFlow.not_pastEnqueue hrpc hphase (hs.done id hmem).1

/-- The call an `Execute` is for has not been audited, and is not in the queue. -/
theorem AuditInv.not_audited_of_executes {rpc : Rpc} (hs : s.AuditInv)
    (hrpc : s.flow.rpcs id = some rpc) (hexec : AdminFlow.Executes s.flow id rpc label flow) :
    some id ∉ s.audits.map Prod.fst ∧ id ∉ s.flow.pending := by
  cases hexec with
  | worker hphase =>
    have hpast : rpc.phase.isPast = false := by rw [hphase]; rfl
    refine ⟨hs.not_audited hrpc hpast, fun hmem ↦ ?_⟩
    exact AdminFlow.not_pastEnqueue hrpc hpast (hs.lined.past id (mem_append_left _ hmem))
  | engine hengine =>
    have hid : id ∈ s.flow.engine.ids := by rw [hengine]; exact mem_cons_self
    refine ⟨fun hmem ↦ ?_, fun hmem ↦ (nodup_append.1 hs.lined.nodup).2.2 id hmem id hid rfl⟩
    obtain ⟨result, rest, hc⟩ := (hs.done id hmem).2.2 hid
    exact DrainPhase.noConfusion (hengine.symm.trans hc)

/-- After an `Execute`, an audited call is in the drain at most to be answered. -/
theorem AuditInv.done_of_executes {rpc : Rpc} {i : RpcId} (hs : s.AuditInv)
    (hrpc : s.flow.rpcs id = some rpc) (hexec : AdminFlow.Executes s.flow id rpc label flow)
    (hi : i = id ∨ some i ∈ s.audits.map Prod.fst) :
    flow.PastEnqueue i ∧ i ∉ flow.pending ∧
      (i ∈ flow.engine.ids → ∃ result rest, flow.engine = .completing i result rest) := by
  have hnew := hs.not_audited_of_executes hrpc hexec
  cases hexec with
  | worker hphase =>
    rcases hi with rfl | hold
    · refine ⟨⟨_, AdminFlow.setPhase_rpcs_self .., rfl⟩, hnew.2, fun hmem ↦ ?_⟩
      exact absurd (hs.lined.past i (mem_append_right _ hmem))
        (AdminFlow.not_pastEnqueue hrpc (by rw [hphase]; rfl))
    · obtain ⟨hpast, hdone⟩ := hs.done i hold
      exact ⟨AdminFlow.pastEnqueue_steps (.executeRejected hrpc hphase) hpast, hdone⟩
  | engine hengine =>
    rcases hi with rfl | hold
    · refine ⟨hs.lined.past i (mem_append_right _ ?_), hnew.2, fun _ ↦ ⟨_, _, rfl⟩⟩
      rw [hengine]
      exact mem_cons_self
    · obtain ⟨hpast, hpending, hids⟩ := hs.done i hold
      refine ⟨hpast, hpending, fun hmem ↦ ?_⟩
      obtain ⟨result, rest, hc⟩ := hids (by rw [hengine]; exact hmem)
      exact DrainPhase.noConfusion (hengine.symm.trans hc)

/-- **An `Execute` keeps the audit complete**, while the ids last. -/
theorem AuditInv.execute {rpc : Rpc} (hs : s.AuditInv) (hflow : AdminFlow.Steps s.flow label flow)
    (hrpc : s.flow.rpcs id = some rpc) (hexec : AdminFlow.Executes s.flow id rpc label flow)
    (hroom : s.flow.controller.auditLog.length + 2 < 2 ^ 64) : (s.follow label flow).AuditInv := by
  obtain ⟨event, haudited, hlog, hnext, heventId, hreports⟩ := hexec.audits
  have haudits : (s.follow label flow).audits = s.audits ++ [(some id, event)] := by
    rw [AdminEngine.follow, haudited]
  have hkeys : (s.follow label flow).audits.map Prod.fst = s.audits.map Prod.fst ++ [some id] := by
    rw [haudits, map_append]
    rfl
  have hwritten : (s.follow label flow).AuditedAs id (s.flow.execute id rpc).1 := by
    refine auditedAs_follow hflow hrpc ?_ hreports
    rw [haudits]
    exact mem_append_right _ (mem_singleton_self _)
  refine
    { lined := AdminFlow.lined_steps hs.lined hflow
      log_eq := ?_
      eventIds := ?_
      nextAuditId := ?_
      nodup := ?_
      forCall := ?_
      done := fun i hi ↦ ?_
      completing := fun i result rest h ↦ ?_
      completions := fun i result h ↦ ?_
      decided := fun i result h ↦ ?_
      expired := ?_ }
  · rw [haudits, map_append, hs.log_eq]
    exact hlog.symm
  · show List.map _ flow.controller.auditLog = List.range' 1 flow.controller.auditLog.length
    rw [hlog, map_append, hs.eventIds, length_append, length_singleton,
      range'_concat, map_singleton, heventId, hs.nextAuditId, Nat.one_mul, Nat.add_comm 1]
  · show flow.controller.nextAuditId = flow.controller.auditLog.length + 1
    rw [hnext, hlog, hs.nextAuditId, wrapAdd_of_lt (by omega), length_append,
      length_singleton]
  · rw [hkeys]
    refine nodup_append.2 ⟨hs.nodup, pairwise_singleton _ _, ?_⟩
    rintro key hold _ hkey rfl
    rw [mem_singleton.1 hkey] at hold
    exact (hs.not_audited_of_executes hrpc hexec).1 hold
  · rw [hkeys]
    intro hmem
    rcases mem_append.1 hmem with hold | hkey
    · exact hs.forCall hold
    · exact absurd (mem_singleton.1 hkey).symm (some_ne_none _)
  · rw [hkeys] at hi
    refine hs.done_of_executes hrpc hexec ?_
    rcases mem_append.1 hi with hold | hkey
    · exact Or.inr hold
    · exact Or.inl (Option.some.inj (mem_singleton.1 hkey))
  · cases hexec with
    | worker => exact (hs.completing i result rest h).follow hflow
    | engine =>
      obtain ⟨rfl, rfl, -⟩ := DrainPhase.completing.inj h
      exact hwritten
  · cases hexec with
    | worker | engine => exact (hs.completions i result h).follow hflow
  · rcases mem_append.1 h with hold | hnew
    · exact (hs.decided i result hold).follow hflow
    · cases hexec with
      | worker =>
        simp only [AdminFlow.decides, AdminFlow.answer, AdminFlow.setPhase_rpcs_self,
          map_some, mem_singleton, Prod.mk.injEq] at hnew
        obtain ⟨rfl, rfl⟩ := hnew
        exact hwritten
      | engine => exact absurd hnew not_mem_nil
  · cases hexec with
    | worker | engine => exact (append_nil _).trans hs.expired

/-! ### Runs with a complete audit -/

/-- The condition on a step, with an application by what it comes to. -/
def AuditsAll (s : AdminEngine) : AdminEngineLabel → Prop
  | .flow label => s.flow.Audits label
  | .apply env =>
    ∀ rpc ∈ s.flow.applying?, s.flow.Audits (.applyEntry (env.apply rpc.action.action).1)

instance (s : AdminEngine) : ∀ label, Decidable (s.AuditsAll label)
  | .flow label => inferInstanceAs (Decidable (s.flow.Audits label))
  | .apply _ => inferInstanceAs (Decidable (∀ rpc ∈ s.flow.applying?, s.flow.Audits _))

/-- Unless the drain is answering it, an audited call is not in the drain. -/
theorem AuditInv.not_mem_ids (hs : s.AuditInv) (hid : some id ∈ s.audits.map Prod.fst)
    (hno : s.flow.engine.isCompleting = false) : id ∉ s.flow.engine.ids := fun hmem ↦ by
  obtain ⟨result, rest, hc⟩ := (hs.done id hid).2.2 hmem
  exact DrainPhase.ne_completing hno id result rest hc

/-- A step of a worker that audits nothing: it leaves the queue, the drain and the promises. -/
theorem AuditInv.worker (hs : s.AuditInv) (hflow : AdminFlow.Steps s.flow label flow)
    (hcontroller : flow.controller = s.flow.controller) (hpending : flow.pending = s.flow.pending)
    (hengine : flow.engine = s.flow.engine) (hcompletions : flow.completions = s.flow.completions)
    (hdecides : ∀ id result, (id, result) ∈ flow.decides label →
      s.flow.completions id = some result)
    (hexpires : s.flow.expires flow label = []) : (s.follow label flow).AuditInv := by
  refine hs.calm hflow (by rw [hcontroller]) (by rw [hcontroller]) (fun i hi ↦ ?_)
    (fun i result rest h ↦ hengine ▸ h) (fun i result h ↦ ?_) hdecides hexpires
  · rw [hpending, hengine]
    exact (hs.done i hi).2
  · rw [hcompletions] at h
    exact hs.completions i result h

/-- A step of the drain that answers nobody and rejects nothing. -/
theorem AuditInv.drain (hs : s.AuditInv) (hflow : AdminFlow.Steps s.flow label flow)
    (hlog : flow.controller.auditLog = s.flow.controller.auditLog)
    (hnext : flow.controller.nextAuditId = s.flow.controller.nextAuditId)
    (hno : s.flow.engine.isCompleting = false) (hno' : flow.engine.isCompleting = false)
    (hmem : ∀ id ∈ flow.pending ++ flow.engine.ids, id ∈ s.flow.pending ++ s.flow.engine.ids)
    (hcompletions : ∀ id result, flow.completions id = some result →
      s.flow.completions id = some result)
    (hdecides : flow.decides label = []) (hexpires : s.flow.expires flow label = []) :
    (s.follow label flow).AuditInv := by
  refine hs.calm hflow hlog hnext (fun i hi ↦ ?_)
    (fun i result rest h ↦ absurd h (DrainPhase.ne_completing hno' i result rest))
    (fun i result h ↦ hs.completions i result (hcompletions i result h)) (fun i result h ↦ ?_)
    hexpires
  · have hout : i ∉ s.flow.pending ++ s.flow.engine.ids := fun h ↦
      (mem_append.1 h).elim (hs.done i hi).2.1 (hs.not_mem_ids hi hno)
    refine ⟨fun h ↦ hout (hmem i (mem_append_left _ h)), fun h ↦ ?_⟩
    exact absurd (hmem i (mem_append_right _ h)) hout
  · rw [hdecides] at h
    exact absurd h not_mem_nil

/-- **One step.** -/
theorem auditInv_follow (hs : s.AuditInv) (hflow : AdminFlow.Steps s.flow label flow)
    (haudits : s.flow.Audits label) : (s.follow label flow).AuditInv := by
  have hflow' := hflow
  cases hflow with
  | executeRejected hrpc hphase => exact hs.execute hflow' hrpc (.worker hphase) haudits
  | executeEntry hengine hrpc => exact hs.execute hflow' hrpc (.engine hengine) haudits
  | startAccepted | startRejected | advance | disable =>
    exact hs.worker hflow' rfl rfl rfl rfl (fun _ _ h ↦ absurd h not_mem_nil) rfl
  | checkHealthy hrpc =>
    refine hs.worker hflow' rfl rfl rfl rfl (fun i result h ↦ ?_) rfl
    simp only [AdminFlow.decides, AdminFlow.setPhase_rpcs_self, map_some] at h
    exact absurd h not_mem_nil
  | unavailable _ _ hhealthy => exact absurd (hhealthy.symm.trans haudits) Bool.false_ne_true
  | timeOut => exact haudits.elim
  | receive hrpc hphase hcompletion =>
    refine hs.worker hflow' rfl rfl rfl rfl (fun i result h ↦ ?_) rfl
    simp only [AdminFlow.decides, AdminFlow.answer, AdminFlow.setPhase_rpcs_self,
      map_some, mem_singleton, Prod.mk.injEq] at h
    obtain ⟨rfl, rfl⟩ := h
    exact hcompletion
  | @enqueue id rpc hrpc hphase =>
    refine hs.calm hflow' rfl rfl (fun i hi ↦ ?_) (fun _ _ _ h ↦ h) hs.completions
      (fun _ _ h ↦ absurd h not_mem_nil) rfl
    obtain ⟨-, hpending, hids⟩ := hs.done i hi
    refine ⟨fun hmem ↦ ?_, hids⟩
    rcases mem_append.1 hmem with hold | hnew
    · exact hpending hold
    · rw [mem_singleton.1 hnew] at hi
      exact hs.not_audited hrpc (by rw [hphase]; rfl) hi
  | beginTick hengine | validateAccepted hengine | applied hengine | endTick hengine =>
    refine hs.drain hflow' rfl rfl (by rw [hengine]; rfl) rfl (by rw [hengine]; exact fun _ h ↦ h)
      (fun _ _ h ↦ h) rfl rfl
  | expireLeases hengine =>
    refine hs.drain hflow' rfl rfl (by rw [hengine]; rfl) rfl (by rw [hengine]; exact fun _ h ↦ h)
      (fun _ _ h ↦ h) rfl (AdminFlow.NoneDue.expires haudits rfl)
  | swapPending hengine =>
    refine hs.drain hflow' rfl rfl (by rw [hengine]; rfl) rfl (fun _ h ↦ mem_append_left _ h)
      (fun _ _ h ↦ h) rfl rfl
  | validateRejected hengine hrpc hvalid =>
    refine absurd (haudits _ ?_) hvalid
    rw [hengine]
    exact hrpc
  | refused | threw => cases haudits
  | @complete id result rest hengine =>
    have hnodup : id ∉ rest := by
      have h := (nodup_append.1 hs.lined.nodup).2.1
      rw [hengine] at h
      exact (nodup_cons.1 h).1
    refine hs.calm hflow' rfl rfl (fun i hi ↦ ?_) (fun _ _ _ h ↦ DrainPhase.noConfusion h)
      (fun i result' h ↦ ?_) (fun _ _ h ↦ absurd h not_mem_nil) rfl
    · obtain ⟨-, hpending, hids⟩ := hs.done i hi
      refine ⟨hpending, fun hmem ↦ ?_⟩
      obtain ⟨_, _, hc⟩ := hids (by rw [hengine]; exact mem_cons_of_mem _ hmem)
      rw [hengine] at hc
      obtain ⟨rfl, -, -⟩ := DrainPhase.completing.inj hc
      exact absurd hmem hnodup
    · change Function.update s.flow.completions id (some result) i = _ at h
      rcases eq_or_ne i id with rfl | hne
      · rw [Function.update_self] at h
        cases h
        exact hs.completing i result rest hengine
      · rw [Function.update_of_ne hne] at h
        exact hs.completions i result' h

/-- A step that audits all it must keeps the invariant. -/
theorem auditInv_step {label : AdminEngineLabel} (hs : s.AuditInv) (hall : s.AuditsAll label)
    (hstep : s.step label = some t) : t.AuditInv := by
  cases steps_of_step hstep with
  | flow _ hflow => exact auditInv_follow hs hflow hall
  | apply hrpc hflow =>
    obtain ⟨hlined, hlog, hids, hnext, hnodup, hfor, hdone, hcompleting, hcompletions, hdecided,
      hexpired⟩ := auditInv_follow hs hflow (hall _ hrpc)
    exact ⟨hlined, hlog, hids, hnext, hnodup, hfor, hdone, hcompleting, hcompletions, hdecided,
      hexpired⟩

theorem auditInv_create (settings : AdminSettings) : (create settings).AuditInv where
  lined := AdminFlow.lined_create settings
  log_eq := rfl
  eventIds := rfl
  nextAuditId := rfl
  nodup := nodup_nil
  forCall := not_mem_nil
  done := fun _ h ↦ absurd h not_mem_nil
  completing := fun _ _ _ h ↦ DrainPhase.noConfusion h
  completions := fun _ _ h ↦ absurd h nofun
  decided := fun _ _ h ↦ absurd h not_mem_nil
  expired := rfl

/-- The audit is complete: **one event, with the caller, the control and the status**, for every
result a caller was given; one event that is for no call for every lease that expired; these are
the events of the log; and their ids are 1, 2, 3 and so on. -/
structure AuditComplete (s : AdminEngine) : Prop where
  decided : ∀ id result, (id, result) ∈ s.decided →
    (s.audits.map Prod.fst).count (some id) = 1 ∧ s.AuditedAs id result
  expired : (s.audits.map Prod.fst).count none = s.expired.length
  log_eq : s.audits.map Prod.snd = s.flow.controller.auditLog
  eventIds : s.flow.controller.auditLog.map AdminAuditEvent.eventId =
    List.range' 1 s.flow.controller.auditLog.length

/-- Under the invariant the audit is complete. -/
theorem AuditInv.auditComplete (hs : s.AuditInv) : s.AuditComplete where
  decided := fun id result h ↦ by
    obtain ⟨rpc, event, hrpc, hmem, hreports⟩ := hs.decided id result h
    refine ⟨?_, rpc, event, hrpc, hmem, hreports⟩
    exact count_eq_one_of_mem hs.nodup (mem_map_of_mem hmem)
  expired := by
    rw [hs.expired]
    exact count_eq_zero.2 hs.forCall
  log_eq := hs.log_eq
  eventIds := hs.eventIds

/-- **The audit is complete** in every state of a run of any interleaving in which no call finds the
gateway disabled, no wait times out, the drain rejects no entry, every application succeeds and no
lease is due when leases are expired. -/
theorem audit_complete (settings : AdminSettings) (labels : List AdminEngineLabel)
    (hmeets : (machine settings).Meets AuditsAll (machine settings).init labels)
    (hrun : (machine settings).exec (machine settings).init labels = some t) :
    t.AuditComplete := by
  have hinv : t.AuditInv := StepMachine.invariant_of_meets (I := AuditInv)
    (fun _ _ _ hs hall h ↦ auditInv_step hs hall h) (auditInv_create settings) hmeets hrun
  exact hinv.auditComplete

/-- A pause is applied, executed and received; then another controller asks for it, is turned away
on the worker and told so by `Execute`. -/
def pauseAndConflict : List AdminEngineLabel :=
  [.start 0 ⟨"a", .operator⟩ { action := .pause true }, .checkHealthy 0, .enqueue 0, .beginTick,
      .expireLeases, .swapPending, .validateEntry].map .flow ++
    [.apply throwingSpawn] ++
    [.executeEntry, .complete, .receive 0, .start 1 ⟨"b", .operator⟩ { action := .pause false },
      .executeRejected 1].map .flow

theorem audit_complete_pauseAndConflict :
    ∃ t, (machine {}).exec (machine {}).init pauseAndConflict = some t ∧
      t.decided.map (fun d ↦ (d.1, d.2.status)) = [(0, .executed), (1, .rejectedConflict)] ∧
      t.AuditComplete := by
  refine ⟨_, rfl, by decide, audit_complete {} pauseAndConflict ?_ rfl⟩
  decide

/-- **A refused action leaves no trace**: the engine refuses the pause, its caller is told that it
was not dispatched, and the log stays empty. -/
theorem refused_not_audited :
    ∃ t, (machine {}).exec (machine {}).init
        ([.start 0 ⟨"a", .operator⟩ { action := .pause true }, .checkHealthy 0, .enqueue 0,
            .beginTick, .expireLeases, .swapPending, .validateEntry].map .flow ++
          [.apply { throwingSpawn with hasGame := false }, .flow .complete, .flow (.receive 0)]) =
          some t ∧
      t.decided.map (fun d ↦ (d.1, d.2.status)) = [(0, .notDispatched)] ∧ t.audits = [] ∧
      t.flow.controller.auditLog = [] ∧ ¬t.AuditComplete := by
  refine ⟨_, rfl, by decide, rfl, rfl, fun hc ↦ ?_⟩
  exact absurd (hc.decided 0 _ mem_cons_self).1 (by decide)

end AdminEngine

end HighBar.Module
