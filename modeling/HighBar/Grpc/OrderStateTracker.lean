import HighBar.Library.FixedWidth
import HighBar.Library.StepMachine
import HighBar.Proto.Commands

/-!
# The order tracker

`OrderStateTracker` remembers for each unit the last batch applied to it, whether it is busy, and a
generation that tells uses of one unit id apart. The three mutators create an entry on first touch,
each with its own rule for the generation.

Every mutator changes **one entry**, by a function of that entry (`update`). So what a call does is
one equation (`eq_update_of_step`), and each law of the protocol is a fact about
`TrackerCall.apply`:

* an accepted batch number is above the recorded one, and becomes the recorded one;
* `busy` and `released` are opposite in every entry a call has written;
* the generation goes up at a removal and does not go down otherwise, **unless it wraps**. It is
  a 64-bit counter that is incremented without a check, so that is the condition of the law
  (`KeepsBelowWrap`), and `generation_wraps` is the run that breaks it.

`CheckAcceptedBatch` changes nothing. A batch is applied here only right after it was checked, which
is the protocol of the class and not what the gateway does.
-/

namespace HighBar.Grpc

open List Option

/-- `CommandConflictPolicy`; an open enumeration, as all of them on the wire. -/
inductive CommandConflictPolicy where
  | unspecified
  | rejectIfBusy
  | queueAfterCurrent
  | replaceCurrent
  | unrecognized (value : ℤ)
deriving Repr, DecidableEq

/-- `OrderState`. -/
structure OrderState where
  unitId : ℕ := 0
  generation : ℕ := 0
  lastCommandFrame : ℕ := 0
  lastBatchSeq : ℕ := 0
  activeClientCommandId : ℕ := 0
  activeIntentClass : String := ""
  busy : Bool := false
  released : Bool := true
deriving Repr, DecidableEq

namespace OrderState

/-- A generation of zero is that of an entry just created. -/
def firstTouch (generation : ℕ) : ℕ := if generation = 0 then 1 else generation

/-- What `MarkAccepted` writes. -/
def accepted (unitId batchSeq clientCommandId frame : ℕ) (intentClass : String)
    (state : OrderState) : OrderState :=
  { unitId := unitId
    lastBatchSeq := batchSeq
    activeClientCommandId := clientCommandId
    lastCommandFrame := frame
    activeIntentClass := intentClass
    busy := true
    released := false
    generation := firstTouch state.generation }

/-- What `MarkIdle` writes. -/
def idled (unitId frame : ℕ) (state : OrderState) : OrderState :=
  { state with
    unitId := unitId
    lastCommandFrame := frame
    busy := false
    released := true
    generation := firstTouch state.generation }

/-- What `MarkUnitRemoved` writes. -/
def unitRemoved (unitId frame : ℕ) (state : OrderState) : OrderState :=
  { state with
    unitId := unitId
    lastCommandFrame := frame
    busy := false
    released := true
    generation := wrapAdd 64 state.generation 1 }

end OrderState

/-- `OrderCheckResult`. -/
structure OrderCheckResult where
  ok : Bool := true
  issue : CommandIssue := {}
deriving Repr, DecidableEq

/-- `OrderStateTracker`: the entries, by unit id. -/
structure OrderStateTracker where
  states : ℕ → Option OrderState

namespace OrderStateTracker

/-- No unit has been touched. -/
def empty : OrderStateTracker := ⟨fun _ ↦ none⟩

/-- `states_[unit_id]`: the entry, or the one that is created. -/
def entry (t : OrderStateTracker) (unitId : ℕ) : OrderState := (t.states unitId).getD {}

/-- Write through the reference that `states_[unit_id]` returns. -/
def update (t : OrderStateTracker) (unitId : ℕ) (f : OrderState → OrderState) :
    OrderStateTracker where
  states := fun v ↦ if v = unitId then some (f (t.entry unitId)) else t.states v

/-- `CheckAcceptedBatch`. -/
def checkAcceptedBatch (t : OrderStateTracker) (unitId batchSeq clientCommandId : ℕ)
    (conflictPolicy : CommandConflictPolicy) : OrderCheckResult :=
  match t.states unitId with
  | none => {}
  | some state =>
    if batchSeq ≤ state.lastBatchSeq then
      { ok := false
        issue :=
          { code := .staleOrDuplicateBatchSeq
            batchSeq := batchSeq
            clientCommandId := clientCommandId
            fieldPath := "batch_seq"
            detail := "batch_seq must increase per unit"
            retryHint := .afterNextSnapshot } }
    else if state.busy = true ∧ conflictPolicy ≠ .replaceCurrent ∧
        conflictPolicy ≠ .queueAfterCurrent then
      { ok := false
        issue :=
          { code := .orderConflict
            batchSeq := batchSeq
            clientCommandId := clientCommandId
            fieldPath := "conflict_policy"
            detail := "unit has an active order"
            retryHint := .afterUnitIdle } }
    else {}

/-- `MarkAccepted`. -/
def markAccepted (t : OrderStateTracker) (unitId batchSeq clientCommandId frame : ℕ)
    (intentClass : String) : OrderStateTracker :=
  t.update unitId (OrderState.accepted unitId batchSeq clientCommandId frame intentClass)

/-- `MarkIdle`. -/
def markIdle (t : OrderStateTracker) (unitId frame : ℕ) : OrderStateTracker :=
  t.update unitId (OrderState.idled unitId frame)

/-- `MarkUnitRemoved`. -/
def markUnitRemoved (t : OrderStateTracker) (unitId frame : ℕ) : OrderStateTracker :=
  t.update unitId (OrderState.unitRemoved unitId frame)

/-- `Generation`. -/
def generation (t : OrderStateTracker) (unitId : ℕ) : ℕ :=
  match t.states unitId with
  | none => 0
  | some state => state.generation

/-- The recorded batch number, zero for a unit never touched. -/
def lastBatchSeq (t : OrderStateTracker) (unitId : ℕ) : ℕ := (t.entry unitId).lastBatchSeq

variable (t : OrderStateTracker)

theorem generation_eq (unitId : ℕ) :
    t.generation unitId = (t.entry unitId).generation := by
  rw [generation, entry]
  rcases t.states unitId with - | state <;> rfl

@[simp] theorem states_update_self (unitId : ℕ) (f : OrderState → OrderState) :
    (t.update unitId f).states unitId = some (f (t.entry unitId)) := if_pos rfl

theorem states_update_of_ne {u unitId : ℕ} (f : OrderState → OrderState)
    (h : u ≠ unitId) : (t.update unitId f).states u = t.states u := if_neg h

@[simp] theorem entry_update_self (unitId : ℕ)
    (f : OrderState → OrderState) : (t.update unitId f).entry unitId = f (t.entry unitId) := by
  rw [entry, states_update_self, getD_some]

theorem entry_update_of_ne {u unitId : ℕ} (f : OrderState → OrderState)
    (h : u ≠ unitId) : (t.update unitId f).entry u = t.entry u := by
  rw [entry, states_update_of_ne t f h, entry]

theorem lastBatchSeq_update (unitId : ℕ) (f : OrderState → OrderState) (u : ℕ) :
    (t.update unitId f).lastBatchSeq u =
      if u = unitId then (f (t.entry unitId)).lastBatchSeq else t.lastBatchSeq u := by
  rw [lastBatchSeq]
  split_ifs with hu
  · rw [hu, entry_update_self]
  · rw [entry_update_of_ne t f hu, lastBatchSeq]

/-- An accepted batch becomes the last one of its unit. -/
theorem lastBatchSeq_markAccepted
    (unitId batchSeq clientCommandId frame : ℕ) (intentClass : String) (u : ℕ) :
    (t.markAccepted unitId batchSeq clientCommandId frame intentClass).lastBatchSeq u =
      if u = unitId then batchSeq else t.lastBatchSeq u :=
  t.lastBatchSeq_update unitId _ u

/-- A unit that goes idle keeps its last batch. -/
@[simp] theorem lastBatchSeq_markIdle (unitId frame u : ℕ) :
    (t.markIdle unitId frame).lastBatchSeq u = t.lastBatchSeq u :=
  (t.lastBatchSeq_update unitId _ u).trans (ite_eq_right_iff.2 fun hu ↦ hu ▸ rfl)

@[simp] theorem lastBatchSeq_markUnitRemoved (unitId frame u : ℕ) :
    (t.markUnitRemoved unitId frame).lastBatchSeq u = t.lastBatchSeq u :=
  (t.lastBatchSeq_update unitId _ u).trans (ite_eq_right_iff.2 fun hu ↦ hu ▸ rfl)

/-- What a check that passes has established. -/
theorem checkAcceptedBatch_ok {t : OrderStateTracker} {unitId batchSeq clientCommandId : ℕ}
    {policy : CommandConflictPolicy}
    (h : (t.checkAcceptedBatch unitId batchSeq clientCommandId policy).ok = true)
    {state : OrderState} (hstate : t.states unitId = some state) :
    state.lastBatchSeq < batchSeq ∧
      (state.busy = true → policy = .replaceCurrent ∨ policy = .queueAfterCurrent) := by
  simp only [checkAcceptedBatch, hstate] at h
  split_ifs at h with hstale hbusy
  refine ⟨Nat.lt_of_not_le hstale, fun hb ↦ ?_⟩
  by_contra hpolicy
  exact hbusy ⟨hb, fun hr ↦ hpolicy (Or.inl hr), fun hq ↦ hpolicy (Or.inr hq)⟩

end OrderStateTracker

/-! ### Calls -/

/-- A call of the protocol. -/
inductive TrackerCall where
  /-- `CheckAcceptedBatch` returned ok, and right after it `MarkAccepted` is called. -/
  | markAccepted (unitId batchSeq clientCommandId frame : ℕ) (intentClass : String)
      (policy : CommandConflictPolicy)
  | markIdle (unitId frame : ℕ)
  | markUnitRemoved (unitId frame : ℕ)
deriving Repr, DecidableEq

namespace TrackerCall

/-- The unit the call is about. -/
def unitId : TrackerCall → ℕ
  | .markAccepted unitId .. | .markIdle unitId _ | .markUnitRemoved unitId _ => unitId

/-- What the call writes to the entry of its unit. -/
def apply : TrackerCall → OrderState → OrderState
  | .markAccepted unitId batchSeq clientCommandId frame intentClass _ =>
    OrderState.accepted unitId batchSeq clientCommandId frame intentClass
  | .markIdle unitId frame => OrderState.idled unitId frame
  | .markUnitRemoved unitId frame => OrderState.unitRemoved unitId frame

/-- The batch number accepted for a unit. -/
def acceptedSeq (u : ℕ) : TrackerCall → Option ℕ
  | .markAccepted unitId batchSeq .. => if unitId = u then some batchSeq else none
  | .markIdle .. | .markUnitRemoved .. => none

/-- The call removes the unit. -/
def Removes (u : ℕ) : TrackerCall → Prop
  | .markUnitRemoved unitId _ => unitId = u
  | .markAccepted .. | .markIdle .. => False

instance (u : ℕ) : ∀ call : TrackerCall, Decidable (call.Removes u)
  | .markUnitRemoved unitId _ => inferInstanceAs (Decidable (unitId = u))
  | .markAccepted .. | .markIdle .. => inferInstanceAs (Decidable False)

theorem Removes.unitId_eq {call : TrackerCall} {u : ℕ} (h : call.Removes u) : call.unitId = u := by
  cases call with
  | markUnitRemoved unitId frame => exact h
  | markAccepted => exact h.elim
  | markIdle => exact h.elim

/-- The entries a call writes are busy exactly if they are not released. -/
theorem busy_apply (call : TrackerCall) (state : OrderState) :
    (call.apply state).busy = !(call.apply state).released := by
  cases call <;> rfl

/-- The recorded batch number changes only by an acceptance. -/
theorem lastBatchSeq_apply (call : TrackerCall) (state : OrderState) :
    (call.apply state).lastBatchSeq = (call.acceptedSeq call.unitId).getD state.lastBatchSeq := by
  cases call with
  | markAccepted id batchSeq =>
    show batchSeq = (if id = id then some batchSeq else none).getD state.lastBatchSeq
    rw [if_pos rfl, getD_some]
  | markIdle => rfl
  | markUnitRemoved => rfl

theorem acceptedSeq_eq_none_of_ne {call : TrackerCall} {u : ℕ} (h : call.unitId ≠ u) :
    call.acceptedSeq u = none := by
  cases call with
  | markAccepted => exact if_neg h
  | markIdle => rfl
  | markUnitRemoved => rfl

/-- The generation goes up at a removal and not down otherwise, unless it is at its largest. -/
theorem generation_apply (call : TrackerCall) {state : OrderState}
    (h : call.Removes call.unitId → state.generation + 1 < 2 ^ 64) :
    state.generation ≤ (call.apply state).generation ∧
      (call.Removes call.unitId → state.generation < (call.apply state).generation) := by
  have htouch : state.generation ≤ OrderState.firstTouch state.generation := by
    rw [OrderState.firstTouch]
    split_ifs <;> omega
  cases call with
  | markAccepted | markIdle => exact ⟨htouch, False.elim⟩
  | markUnitRemoved unitId frame =>
    have hgen : (apply (.markUnitRemoved unitId frame) state).generation = state.generation + 1 :=
      wrapAdd_of_lt (h rfl)
    rw [hgen]
    exact ⟨Nat.le_succ _, fun _ ↦ Nat.lt_succ_self _⟩

end TrackerCall

namespace OrderStateTracker

/-- One call; the check of a batch must pass. -/
def step (t : OrderStateTracker) : TrackerCall → Option OrderStateTracker
  | .markAccepted unitId batchSeq clientCommandId frame intentClass policy =>
    if (t.checkAcceptedBatch unitId batchSeq clientCommandId policy).ok then
      some (t.markAccepted unitId batchSeq clientCommandId frame intentClass)
    else none
  | .markIdle unitId frame => some (t.markIdle unitId frame)
  | .markUnitRemoved unitId frame => some (t.markUnitRemoved unitId frame)

/-- The tracker under its protocol. -/
def machine : StepMachine OrderStateTracker TrackerCall where
  init := empty
  step := step

variable {s t : OrderStateTracker} {call : TrackerCall} {calls : List TrackerCall} {u : ℕ}

/-- The number is above what is recorded for the unit, if anything is. -/
def Exceeds (t : OrderStateTracker) (u seq : ℕ) : Prop :=
  ∀ state ∈ t.states u, state.lastBatchSeq < seq

/-- **What a step does**: one entry is written, and an accepted number exceeds the recorded one. -/
theorem eq_update_of_step (h : s.step call = some t) :
    t = s.update call.unitId call.apply ∧ ∀ seq ∈ call.acceptedSeq u, s.Exceeds u seq := by
  cases call with
  | markAccepted unitId batchSeq clientCommandId frame intentClass policy =>
    obtain ⟨hok, ht⟩ := ite_none_right_eq_some.1 h
    refine ⟨(Option.some.inj ht).symm, fun seq hseq state hstate ↦ ?_⟩
    obtain ⟨rfl, hsome⟩ := ite_none_right_eq_some.1 hseq
    cases hsome
    exact (checkAcceptedBatch_ok hok hstate).1
  | markIdle unitId frame | markUnitRemoved unitId frame =>
    exact ⟨(Option.some.inj h).symm, fun seq hseq ↦ absurd hseq (not_mem_none seq)⟩

/-- Calls about other units leave an entry alone. -/
theorem states_exec (hne : ∀ call ∈ calls, call.unitId ≠ u)
    (hrun : machine.exec s calls = some t) : t.states u = s.states u := by
  induction calls generalizing s with
  | nil => rw [Option.some.inj hrun]
  | cons call calls ih =>
    obtain ⟨s₁, hstep, hrest⟩ := machine.exec_cons_eq_some.1 hrun
    obtain ⟨rfl, -⟩ := eq_update_of_step (u := u) hstep
    rw [ih (fun c hc ↦ hne c (mem_cons_of_mem _ hc)) hrest]
    exact states_update_of_ne s _ (Ne.symm (hne call mem_cons_self))

/-- No entry is busy and released. -/
theorem busy_eq_not_released (hs : machine.Reachable s) :
    ∀ u, ∀ state ∈ s.states u, state.busy = !state.released := by
  refine StepMachine.invariant_of_reachable
    (I := fun s ↦ ∀ u, ∀ state ∈ s.states u, state.busy = !state.released)
    (fun u state hstate ↦ ?_) ?_ hs
  · exact absurd hstate (not_mem_none state)
  · intro s call t hs hstep u state hstate
    obtain ⟨rfl, -⟩ := eq_update_of_step (u := u) hstep
    by_cases hu : u = call.unitId
    · subst hu
      rw [states_update_self] at hstate
      rw [← mem_some_iff.1 hstate]
      exact call.busy_apply _
    · rw [states_update_of_ne s _ hu] at hstate
      exact hs u state hstate

/-! ### Batch numbers -/

/-- The batch numbers accepted for a unit. -/
def acceptedSeqs (u : ℕ) (calls : List TrackerCall) : List ℕ :=
  calls.filterMap (TrackerCall.acceptedSeq u)

/-- A number that exceeds what is recorded after a step exceeded it before, and exceeds the number
the step accepted. -/
theorem Exceeds.of_step {seq : ℕ} (hstep : s.step call = some t) (h : t.Exceeds u seq) :
    s.Exceeds u seq ∧ ∀ accepted ∈ call.acceptedSeq u, accepted < seq := by
  obtain ⟨rfl, haccept⟩ := eq_update_of_step (u := u) hstep
  by_cases hu : call.unitId = u
  · subst hu
    have hlast := h _ (states_update_self s _ _)
    rw [TrackerCall.lastBatchSeq_apply] at hlast
    refine ⟨fun state hstate ↦ ?_, fun accepted haccepted ↦ ?_⟩
    · have hentry : s.entry call.unitId = state := by
        rw [entry, mem_def.1 hstate, getD_some]
      rcases hseq : call.acceptedSeq call.unitId with - | accepted
      · rwa [hseq, hentry] at hlast
      · have hlt := haccept accepted hseq state hstate
        rw [hseq] at hlast
        exact hlt.trans hlast
    · rwa [mem_def.1 haccepted] at hlast
  · refine ⟨fun state hstate ↦ ?_, fun accepted haccepted ↦ ?_⟩
    · exact h state (by rwa [states_update_of_ne s _ (Ne.symm hu)])
    · rw [TrackerCall.acceptedSeq_eq_none_of_ne hu] at haccepted
      exact absurd haccepted (not_mem_none _)

/-- **The accepted numbers of a run increase, from above what is recorded at its start.** -/
theorem acceptedSeqs_increasing (u : ℕ) (hrun : machine.exec s calls = some t) :
    (∀ seq ∈ acceptedSeqs u calls, s.Exceeds u seq) ∧
      (acceptedSeqs u calls).Pairwise (· < ·) := by
  induction calls generalizing s with
  | nil => exact ⟨fun seq hseq ↦ absurd hseq not_mem_nil, List.Pairwise.nil⟩
  | cons call calls ih =>
    obtain ⟨s₁, hstep, hrest⟩ := machine.exec_cons_eq_some.1 hrun
    obtain ⟨hexceeds, hpairwise⟩ := ih hrest
    have hback := fun seq hseq ↦ Exceeds.of_step hstep (hexceeds seq hseq)
    rcases hseq : call.acceptedSeq u with - | accepted
    · rw [acceptedSeqs, filterMap_cons_none hseq]
      exact ⟨fun seq hmem ↦ (hback seq hmem).1, hpairwise⟩
    · rw [acceptedSeqs, filterMap_cons_some hseq]
      refine ⟨fun seq hmem ↦ ?_, pairwise_cons.2 ⟨fun seq hmem ↦ ?_, hpairwise⟩⟩
      · rcases mem_cons.1 hmem with rfl | hmem
        · exact (eq_update_of_step hstep).2 seq hseq
        · exact (hback seq hmem).1
      · exact (hback seq hmem).2 accepted hseq

/-! ### Generations -/

/-- The condition on a call: it does not remove the unit at the largest generation. -/
def KeepsBelowWrap (u : ℕ) (t : OrderStateTracker) (call : TrackerCall) : Prop :=
  call.Removes u → t.generation u + 1 < 2 ^ 64

instance (u : ℕ) (t : OrderStateTracker) (call : TrackerCall) :
    Decidable (KeepsBelowWrap u t call) :=
  inferInstanceAs (Decidable (_ → _))

/-- One call. -/
theorem generation_step (hbelow : KeepsBelowWrap u s call) (hstep : s.step call = some t) :
    s.generation u ≤ t.generation u ∧ (call.Removes u → s.generation u < t.generation u) := by
  obtain ⟨rfl, -⟩ := eq_update_of_step (u := u) hstep
  rw [KeepsBelowWrap, generation_eq] at hbelow
  rw [generation_eq, generation_eq]
  by_cases hu : call.unitId = u
  · subst hu
    rw [entry_update_self]
    exact call.generation_apply hbelow
  · rw [entry_update_of_ne s _ (Ne.symm hu)]
    exact ⟨Nat.le_refl _, fun hremoves ↦ absurd hremoves.unitId_eq hu⟩

/-- **A run without a wrap**: the generation does not go down, and a removal makes it differ. -/
theorem generation_exec (hbelow : machine.Meets (KeepsBelowWrap u) s calls)
    (hrun : machine.exec s calls = some t) :
    s.generation u ≤ t.generation u ∧
      ((∃ call ∈ calls, call.Removes u) → s.generation u < t.generation u) := by
  induction calls generalizing s with
  | nil =>
    cases hrun
    exact ⟨Nat.le_refl _, fun ⟨call, hcall, _⟩ ↦ absurd hcall not_mem_nil⟩
  | cons call calls ih =>
    obtain ⟨s₁, hstep, hrest⟩ := machine.exec_cons_eq_some.1 hrun
    obtain ⟨hle₁, hlt₁⟩ := generation_step hbelow.1 hstep
    obtain ⟨hle₂, hlt₂⟩ := ih (hbelow.2 s₁ hstep) hrest
    refine ⟨hle₁.trans hle₂, ?_⟩
    rintro ⟨c, hc, hremoves⟩
    rcases mem_cons.1 hc with rfl | hc
    · exact (hlt₁ hremoves).trans_le hle₂
    · exact hle₁.trans_lt (hlt₂ ⟨c, hc, hremoves⟩)

/-! ### The protocol -/

/-- **The laws of the tracker**, at any point `s` of any run and from there to any later point `t`.
The generation may wrap, so its law is about the units that are not removed at the largest one. -/
theorem tracker_protocol (before after : List TrackerCall)
    (hbefore : machine.exec machine.init before = some s) (hafter : machine.exec s after = some t) :
    (∀ u, (acceptedSeqs u (before ++ after)).Pairwise (· < ·)) ∧
    (∀ unitId batchSeq clientCommandId frame intentClass policy rest,
      after = .markAccepted unitId batchSeq clientCommandId frame intentClass policy :: rest →
      (s.entry unitId).busy = true → policy = .replaceCurrent ∨ policy = .queueAfterCurrent) ∧
    (∀ u, ∀ state ∈ s.states u, ¬ (state.busy = true ∧ state.released = true)) ∧
    (∀ u, machine.Meets (KeepsBelowWrap u) s after → s.generation u ≤ t.generation u ∧
      ((∃ call ∈ after, call.Removes u) → s.generation u ≠ t.generation u)) ∧
    (∀ u, (∀ call ∈ after, call.unitId ≠ u) → t.states u = s.states u) := by
  refine ⟨fun u ↦ ?_, ?_, fun u state hstate ⟨hbusy, hreleased⟩ ↦ ?_, fun u hbelow ↦ ?_,
    fun u hne ↦ states_exec hne hafter⟩
  · refine (acceptedSeqs_increasing (s := machine.init) (t := t) u ?_).2
    rw [machine.exec_append, hbefore]
    exact hafter
  · rintro unitId batchSeq clientCommandId frame intentClass policy rest rfl hbusy
    obtain ⟨s₁, hstep, -⟩ := machine.exec_cons_eq_some.1 hafter
    obtain ⟨hok, -⟩ := ite_none_right_eq_some.1 hstep
    rcases hstate : s.states unitId with - | state
    · rw [entry, hstate] at hbusy
      exact absurd hbusy Bool.false_ne_true
    · rw [entry, hstate, getD_some] at hbusy
      exact (checkAcceptedBatch_ok hok hstate).2 hbusy
  · have hopposite := busy_eq_not_released ⟨before, hbefore⟩ u state hstate
    rw [hbusy, hreleased] at hopposite
    cases hopposite
  · obtain ⟨hle, hlt⟩ := generation_exec hbelow hafter
    exact ⟨hle, fun hremoved ↦ Nat.ne_of_lt (hlt hremoved)⟩

/-- A unit is given an order, idles, is replaced, and is removed. -/
def orderedLife : List TrackerCall :=
  [.markAccepted 42 10 100 30 "move" .unspecified, .markIdle 42 35, .markUnitRemoved 42 36,
    .markAccepted 42 11 101 40 "fight" .rejectIfBusy]

/-- The laws over that life, from its second call on. -/
theorem tracker_protocol_orderedLife :
    ∃ s t, machine.exec machine.init [.markIdle 7 1] = some s ∧
      machine.exec s orderedLife = some t ∧
      acceptedSeqs 42 ([.markIdle 7 1] ++ orderedLife) = [10, 11] ∧
      t.generation 42 = 2 ∧ s.generation 42 ≤ t.generation 42 ∧ t.states 7 = s.states 7 := by
  obtain ⟨-, -, -, hgeneration, hframe⟩ :=
    tracker_protocol (t := _) [.markIdle 7 1] orderedLife rfl rfl
  exact ⟨_, _, rfl, rfl, by decide, by decide, (hgeneration 42 (by decide)).1,
    hframe 7 (by decide)⟩

/-- The generation after a number of removals. -/
theorem exec_replicate_removed (u frame n : ℕ) (hlt : s.generation u < 2 ^ 64) :
    ∃ t, machine.exec s (List.replicate n (.markUnitRemoved u frame)) = some t ∧
      t.generation u = (s.generation u + n) % 2 ^ 64 := by
  induction n generalizing s with
  | zero => exact ⟨s, rfl, (Nat.mod_eq_of_lt hlt).symm⟩
  | succ n ih =>
    have hgen : (s.markUnitRemoved u frame).generation u = (s.generation u + 1) % 2 ^ 64 := by
      rw [generation_eq, markUnitRemoved, entry_update_self, generation_eq,
        OrderState.unitRemoved, wrapAdd]
    obtain ⟨t, hrun, ht⟩ := ih (s := s.markUnitRemoved u frame) (by
      rw [hgen]
      exact Nat.mod_lt _ (Nat.two_pow_pos 64))
    refine ⟨t, machine.exec_cons_eq_some.2 ⟨_, rfl, hrun⟩, ?_⟩
    rw [ht, hgen, Nat.mod_add_mod, Nat.add_assoc, Nat.add_comm 1 n]

/-- **The generation comes around**: after `2 ^ 64` removals it is what it was before them. -/
theorem generation_wraps :
    ∃ t, machine.exec machine.init (List.replicate (2 ^ 64) (.markUnitRemoved 1 0)) = some t ∧
      TrackerCall.Removes 1 (.markUnitRemoved 1 0) ∧
      t.generation 1 = machine.init.generation 1 := by
  have hzero : machine.init.generation 1 = 0 := rfl
  obtain ⟨t, hrun, hgen⟩ := exec_replicate_removed (s := machine.init) 1 0 (2 ^ 64) (by
    rw [hzero]
    exact Nat.two_pow_pos 64)
  exact ⟨t, hrun, rfl, by rw [hgen, hzero, Nat.zero_add, Nat.mod_self]⟩

end OrderStateTracker

end HighBar.Grpc
