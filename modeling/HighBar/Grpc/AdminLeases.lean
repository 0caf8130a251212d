import HighBar.Grpc.AdminController
import HighBar.Library.StepMachine

/-!
# Exclusive admin leases

An executed `pause` or `global_speed` leases its control to the caller. This module runs the four
operations of the controller in any order and by any callers, at frames that do not go back, and
says how long such a lease **keeps everyone else out**.

Beside the controller the machine records, for each control and each identity, the frame of the
latest `Execute` or `Heartbeat` with which that identity succeeded on the control. The invariant
`Leased` ties the lease map to this record: the lease of a control carries the frame of its
**owner's** latest success, and expires a full lifetime after it.

* `leased_step`: each operation keeps `Leased`, takeovers and refused heartbeats included.
* `holds_step`: an owner loses the control only to a successful release by another caller, or to an
  expiry at least a lifetime after its latest success.
* `lease_exclusive`: until then every other caller is rejected, and the lease stays as it was.
-/

namespace HighBar.Grpc

open Option

/-- One call of a controller operation. -/
inductive AdminOperation where
  | validate (caller : AdminCaller) (action : AdminAction) (frame stateSeq : ℕ)
  | execute (caller : AdminCaller) (action : AdminAction) (frame stateSeq : ℕ)
  | heartbeat (control : AdminControl) (caller : AdminCaller) (frame : ℕ)
  | expireLeases (frame : ℕ)
deriving Repr, DecidableEq

/-- The frame an operation is called with. -/
def AdminOperation.frame : AdminOperation → ℕ
  | .validate _ _ frame _ | .execute _ _ frame _ => frame
  | .heartbeat _ _ frame | .expireLeases frame => frame

/-- The controller in use. -/
structure LeaseRun where
  controller : AdminController
  /-- The frame of the latest operation. -/
  frame : ℕ
  /-- The frame of an identity's latest successful `Execute` or `Heartbeat` on a control. -/
  renewedAt : AdminControl → String → Option ℕ

namespace LeaseRun

/-- Record a success of `identity` on `control`. -/
def renew (s : LeaseRun) (control : AdminControl) (identity : String) (frame : ℕ) : LeaseRun :=
  { s with
    renewedAt := fun k i ↦ if k = control ∧ i = identity then some frame else s.renewedAt k i }

/-- The identity holds the lease of the control. -/
def Holds (s : LeaseRun) (control : AdminControl) (identity : String) : Prop :=
  (s.controller.leases control).any (·.ownerClientId == identity) = true

instance (s : LeaseRun) (control : AdminControl) (identity : String) :
    Decidable (s.Holds control identity) :=
  inferInstanceAs (Decidable (_ = true))

/-- What an operation does to the controller and to the record. -/
def operate (s : LeaseRun) : AdminOperation → LeaseRun
  | .validate .. => s
  | .execute caller action frame stateSeq =>
    let r := s.controller.execute caller action frame stateSeq
    let t := { s with controller := r.2 }
    if r.1.status = .executed then t.renew (controlName action) caller.identity frame else t
  | .heartbeat control caller frame =>
    let t := { s with controller := s.controller.heartbeat control caller frame }
    if s.Holds control caller.identity then t.renew control caller.identity frame else t
  | .expireLeases frame => { s with controller := s.controller.expireLeases frame }

/-- One operation. Frames do not go back, and a lease taken now ends below `2 ^ 32`. -/
def step (s : LeaseRun) (op : AdminOperation) : Option LeaseRun :=
  if s.frame ≤ op.frame ∧ op.frame + s.controller.settings.leaseTtlFrames < 2 ^ 32 then
    some { s.operate op with frame := op.frame }
  else none

/-- A controller that has not been used. -/
def create (settings : AdminSettings) : LeaseRun where
  controller := AdminController.create settings
  frame := 0
  renewedAt := fun _ _ ↦ none

/-- The machine of the four operations. -/
def machine (settings : AdminSettings) : StepMachine LeaseRun AdminOperation where
  init := create settings
  step := step

variable {settings : AdminSettings} {s t : LeaseRun} {control : AdminControl} {owner : String}
  {op : AdminOperation}

/-- A caller holds a control exactly if the lease of it is theirs. -/
theorem holds_iff :
    s.Holds control owner ↔
      ∃ lease, s.controller.leases control = some lease ∧ lease.ownerClientId = owner := by
  rw [Holds, any_eq_true_iff_get]
  rcases s.controller.leases control with - | lease <;> simp

/-! ### The lease map -/

/-- A lease on `control` that is as `Execute` and `Heartbeat` leave it. -/
structure LeaseOn (settings : AdminSettings) (renewedAt : AdminControl → String → Option ℕ)
    (control : AdminControl) (lease : AdminLease) : Prop where
  control_eq : lease.control = control
  isLeasable : AdminController.isLeasable control = true
  expiresFrame_eq : lease.expiresFrame = lease.lastHeartbeatFrame + settings.leaseTtlFrames
  /-- The lease carries the frame of its owner's latest success. -/
  renewedAt_eq : renewedAt control lease.ownerClientId = some lease.lastHeartbeatFrame

/-- The invariant of the lease map. -/
structure Leased (settings : AdminSettings) (s : LeaseRun) : Prop where
  settings_eq : s.controller.settings = settings
  leases : ∀ control lease, s.controller.leases control = some lease →
    LeaseOn settings s.renewedAt control lease

/-- The execution of an action that was asked to release the lease of `control`, and that no check
stopped. -/
def Releases (s : LeaseRun) (control : AdminControl) (identity : String) : AdminOperation → Prop
  | .execute caller action frame stateSeq =>
    controlName action = control ∧ caller.identity = identity ∧
      action.conflictPolicy = .releaseExistingLease ∧
      (s.controller.execute caller action frame stateSeq).1.status = .executed
  | _ => False

/-- A lease as it is when `identity` has just succeeded on `control`. -/
def FreshLease (settings : AdminSettings) (lease : AdminLease) (control : AdminControl)
    (identity : String) (frame : ℕ) : Prop :=
  lease.control = control ∧ lease.ownerClientId = identity ∧ lease.lastHeartbeatFrame = frame ∧
    lease.expiresFrame = frame + settings.leaseTtlFrames

/-- **All that an operation can do** to the leases and the record. -/
inductive Change (settings : AdminSettings) (s : LeaseRun) (op : AdminOperation) :
    (AdminControl → Option AdminLease) → (AdminControl → String → Option ℕ) → Prop
  /-- Nothing: a validation, a rejected `Execute`, a heartbeat by someone else. -/
  | calm : Change settings s op s.controller.leases s.renewedAt
  /-- An action on a control that is not leased. -/
  | notes {control : AdminControl} {identity : String}
      (hcontrol : AdminController.isLeasable control = false) :
      Change settings s op s.controller.leases (s.renew control identity op.frame).renewedAt
  /-- A lease taken or renewed: it was free, or the caller's own, or released to the caller. -/
  | takes {control : AdminControl} {identity : String} {lease : AdminLease}
      (hcontrol : AdminController.isLeasable control = true)
      (hfresh : FreshLease settings lease control identity op.frame)
      (hwhy : s.controller.leases control = none ∨ s.Holds control identity ∨
        s.Releases control identity op) :
      Change settings s op (Function.update s.controller.leases control (some lease))
        (s.renew control identity op.frame).renewedAt
  | expires {frame : ℕ} (hop : op = .expireLeases frame) :
      Change settings s op (s.controller.expireLeases frame).leases s.renewedAt

variable {caller : AdminCaller} {frame : ℕ} {action : AdminAction} {lease : AdminLease}

/-- Without a lease check that fails, the control is free, the caller's own, or to be released. -/
theorem free_of_no_rejection (h : s.controller.rejection caller action frame = none) :
    s.controller.leases (controlName action) = none ∨
      s.Holds (controlName action) caller.identity ∨
      action.conflictPolicy = .releaseExistingLease := by
  rw [AdminController.rejection, or_eq_none_iff] at h
  by_contra hno
  simp only [not_or, ← ne_eq] at hno
  obtain ⟨hsome, hother, hpolicy⟩ := hno
  obtain ⟨lease, hlease⟩ := ne_none_iff_exists'.1 hsome
  refine leaseRejection_ne_none_iff.2 ⟨hpolicy, lease, hlease, fun howner ↦ ?_⟩ h.2
  exact hother (holds_iff.2 ⟨lease, hlease, howner⟩)

/-- What an execution does to the leases. -/
theorem change_execute {frame stateSeq : ℕ} (hs : s.Leased settings)
    (hframe : frame + settings.leaseTtlFrames < 2 ^ 32) :
    Change settings s (.execute caller action frame stateSeq)
      (s.operate (.execute caller action frame stateSeq)).controller.leases
      (s.operate (.execute caller action frame stateSeq)).renewedAt := by
  rcases hr : s.controller.rejection caller action frame with - | r
  · obtain ⟨hstatus, hleases⟩ := AdminController.execute_of_no_rejection hr stateSeq
    simp only [operate, hstatus, if_true, renew, hleases]
    split_ifs with hleasable
    · refine .takes hleasable ⟨rfl, rfl, rfl, ?_⟩
        ((free_of_no_rejection hr).imp_right (Or.imp_right fun h ↦ ⟨rfl, rfl, h, hstatus⟩))
      rw [AdminController.newLease, hs.settings_eq]
      exact wrapAdd_of_lt hframe
    · exact .notes (Bool.eq_false_iff.2 hleasable)
  · obtain ⟨hstatus, -, hleases⟩ := AdminController.execute_of_rejection hr stateSeq
    have hno := (AdminController.ne_of_isRejected r.isRejected_status).2.1
    simp only [operate, hstatus, if_neg hno, hleases]
    exact .calm

/-- What a heartbeat does to the leases. -/
theorem change_heartbeat (hs : s.Leased settings)
    (hframe : frame + settings.leaseTtlFrames < 2 ^ 32) :
    Change settings s (.heartbeat control caller frame)
      (s.operate (.heartbeat control caller frame)).controller.leases
      (s.operate (.heartbeat control caller frame)).renewedAt := by
  by_cases hholds : s.Holds control caller.identity
  · obtain ⟨lease, hlease, howner⟩ := holds_iff.1 hholds
    have hon := hs.leases control lease hlease
    simp only [operate, if_pos hholds, AdminController.heartbeat, hlease, howner, ne_eq,
      not_true_eq_false, if_false]
    refine .takes hon.isLeasable ⟨hon.control_eq, rfl, rfl, ?_⟩ (Or.inr (Or.inl hholds))
    rw [hs.settings_eq]
    exact wrapAdd_of_lt hframe
  · simp only [operate, if_neg hholds, AdminController.heartbeat]
    split
    · exact .calm
    · rename_i lease hlease
      have hother : lease.ownerClientId ≠ caller.identity := fun howner ↦
        hholds (holds_iff.2 ⟨lease, hlease, howner⟩)
      rw [if_pos hother]
      exact .calm

/-- No operation changes the settings. -/
theorem settings_operate (s : LeaseRun) (op : AdminOperation) :
    (s.operate op).controller.settings = s.controller.settings := by
  cases op with
  | validate caller action frame stateSeq => rfl
  | execute caller action frame stateSeq =>
    simp only [operate]
    split_ifs <;> exact AdminController.settings_execute ..
  | heartbeat control caller frame =>
    have hkept :
        (s.controller.heartbeat control caller frame).settings = s.controller.settings := by
      rw [AdminController.heartbeat]
      split
      · rfl
      · split_ifs <;> rfl
    simp only [operate]
    split_ifs <;> exact hkept
  | expireLeases frame => rfl

/-- The inversion of a step. -/
theorem change_of_step (hs : s.Leased settings) (h : s.step op = some t) :
    t.controller.settings = settings ∧
      Change settings s op t.controller.leases t.renewedAt := by
  simp only [step, hs.settings_eq] at h
  split_ifs at h with hframe
  cases h
  refine ⟨(settings_operate s op).trans hs.settings_eq, ?_⟩
  cases op with
  | validate caller action frame stateSeq => exact .calm
  | execute caller action frame stateSeq => exact change_execute hs hframe.2
  | heartbeat control caller frame => exact change_heartbeat hs hframe.2
  | expireLeases frame => exact .expires rfl

/-- A lease that survives an expiry was there before, and is not due. -/
theorem expireLeases_eq_some_iff {c : AdminController} (hne : lease.expiresFrame ≠ 0) :
    (c.expireLeases frame).leases control = some lease ↔
      c.leases control = some lease ∧ frame < lease.expiresFrame := by
  rw [AdminController.expireLeases, filter_eq_some_iff]
  simp [hne]

/-- A success on another control, or by someone else, leaves a lease as it was. -/
theorem LeaseOn.renew {k : AdminControl} {identity : String}
    (h : LeaseOn settings s.renewedAt k lease) (hne : k ≠ control) :
    LeaseOn settings (s.renew control identity frame).renewedAt k lease :=
  { h with renewedAt_eq := (if_neg fun heq ↦ hne heq.1).trans h.renewedAt_eq }

/-- A fresh lease carries the frame of the success that is being recorded. -/
theorem FreshLease.leaseOn {identity : String}
    (hcontrol : AdminController.isLeasable control = true)
    (h : FreshLease settings lease control identity frame) :
    LeaseOn settings (s.renew control identity frame).renewedAt control lease := by
  obtain ⟨hname, howner, hlast, hexpires⟩ := h
  refine ⟨hname, hcontrol, by rw [hexpires, hlast], ?_⟩
  rw [howner, hlast]
  exact if_pos ⟨rfl, rfl⟩

/-- **Each operation keeps the lease map in order.** -/
theorem leased_step (hs : s.Leased settings) (h : s.step op = some t) : t.Leased settings := by
  obtain ⟨hsettings, hchange⟩ := change_of_step hs h
  refine ⟨hsettings, ?_⟩
  generalize t.controller.leases = leases, t.renewedAt = renewedAt at hchange
  intro k lease hlease
  cases hchange with
  | calm => exact hs.leases k lease hlease
  | @notes control identity hcontrol =>
    have hon := hs.leases k lease hlease
    refine hon.renew ?_
    rintro rfl
    exact Bool.false_ne_true (hcontrol.symm.trans hon.isLeasable)
  | @takes control identity taken hcontrol hfresh hwhy =>
    rcases eq_or_ne k control with rfl | hne
    · rw [Function.update_self] at hlease
      exact Option.some.inj hlease ▸ hfresh.leaseOn hcontrol
    · rw [Function.update_of_ne hne] at hlease
      exact (hs.leases k lease hlease).renew hne
  | expires hop => exact hs.leases k lease (filter_eq_some_iff.1 hlease).1

theorem leased_create (settings : AdminSettings) : (create settings).Leased settings :=
  ⟨rfl, fun _ _ h ↦ absurd h nofun⟩

/-- The lease map is in order after every run. -/
theorem leased_of_exec {ops : List AdminOperation}
    (hrun : (machine settings).exec (machine settings).init ops = some t) : t.Leased settings :=
  StepMachine.invariant_of_exec (I := Leased settings) (fun _ _ _ hs h ↦ leased_step hs h)
    (leased_create settings) hrun

/-! ### How long a lease is held -/

/-- The operation does not end the lease of `owner` on `control`: it is not a successful release by
another caller, nor an expiry a lifetime or more after the owner's latest success. -/
def Keeps (control : AdminControl) (owner : String) (s : LeaseRun) : AdminOperation → Prop
  | .execute caller action frame stateSeq =>
    caller.identity ≠ owner →
      ¬s.Releases control caller.identity (.execute caller action frame stateSeq)
  | .expireLeases frame =>
    ∀ renewed ∈ s.renewedAt control owner, frame < renewed + s.controller.settings.leaseTtlFrames
  | .validate .. | .heartbeat .. => True

/-- **An owner keeps the control**, unless it is released to another caller or expires. -/
theorem holds_step (hs : s.Leased settings)
    (hholds : s.Holds control owner) (hkeeps : Keeps control owner s op)
    (h : s.step op = some t) : t.Holds control owner := by
  obtain ⟨-, hchange⟩ := change_of_step hs h
  obtain ⟨lease, hlease, howner⟩ := holds_iff.1 hholds
  rw [holds_iff]
  generalize t.controller.leases = leases, t.renewedAt = renewedAt at hchange
  cases hchange with
  | calm | notes => exact ⟨lease, hlease, howner⟩
  | @takes k identity taken hcontrol hfresh hwhy =>
    rcases eq_or_ne control k with rfl | hne
    · refine ⟨taken, Function.update_self .., hfresh.2.1.trans ?_⟩
      by_contra hother
      -- the control is leased to someone else, so it can only have been released
      rcases hwhy with hfree | hown | hrelease
      · exact some_ne_none _ (hlease.symm.trans hfree)
      · obtain ⟨lease', hlease', howner'⟩ := holds_iff.1 hown
        obtain rfl := Option.some.inj (hlease.symm.trans hlease')
        exact hother (howner'.symm.trans howner)
      · cases op with
        | execute caller action frame stateSeq =>
          obtain rfl := hrelease.2.1
          exact hkeeps hother hrelease
        | validate => exact hrelease
        | heartbeat => exact hrelease
        | expireLeases => exact hrelease
    · exact ⟨lease, (Function.update_of_ne hne ..).trans hlease, howner⟩
  | @expires frame hop =>
    subst hop
    have hon := hs.leases control lease hlease
    have hrenewed : s.renewedAt control owner = some lease.lastHeartbeatFrame :=
      howner ▸ hon.renewedAt_eq
    have hlate := hkeeps _ hrenewed
    rw [hs.settings_eq, ← hon.expiresFrame_eq] at hlate
    exact ⟨lease, (expireLeases_eq_some_iff (by omega)).2 ⟨hlease, hlate⟩, howner⟩

/-- The caller of an executed action on a leasable control holds the control. -/
theorem holds_of_executed {frame stateSeq : ℕ}
    (hleasable : AdminController.isLeasable (controlName action) = true)
    (hexecuted : (s.controller.execute caller action frame stateSeq).1.status = .executed)
    (h : s.step (.execute caller action frame stateSeq) = some t) :
    t.Holds (controlName action) caller.identity := by
  simp only [step] at h
  split_ifs at h
  cases h
  obtain ⟨-, hleases⟩ := AdminController.execute_of_no_rejection
    (AdminController.execute_executed_iff.1 hexecuted) stateSeq
  rw [if_pos hleasable] at hleases
  refine holds_iff.2 ⟨s.controller.newLease caller (controlName action) frame, ?_, rfl⟩
  simp only [operate, hexecuted, if_true, renew, hleases, Function.update_self]

/-- While someone holds the control, everyone else is rejected, and no lease changes. -/
theorem rejected_of_holds (hholds : s.Holds (controlName action) owner)
    (hother : caller.identity ≠ owner) (hpolicy : action.conflictPolicy ≠ .releaseExistingLease)
    (frame stateSeq : ℕ) :
    (s.controller.execute caller action frame stateSeq).1.status.isRejected = true ∧
      (s.controller.execute caller action frame stateSeq).2.leases = s.controller.leases := by
  obtain ⟨lease, hlease, howner⟩ := holds_iff.1 hholds
  rcases hr : s.controller.rejection caller action frame with - | r
  · rw [AdminController.rejection, or_eq_none_iff] at hr
    refine absurd hr.2 (leaseRejection_ne_none_iff.2 ⟨hpolicy, lease, hlease, ?_⟩)
    rw [howner]
    exact hother.symm
  · obtain ⟨hstatus, -, hleases⟩ := AdminController.execute_of_rejection hr stateSeq
    rw [hstatus]
    exact ⟨r.isRejected_status, hleases⟩

/-- **Leases are exclusive.** After every run of the four operations there is at most one lease for
each control, each ends a lifetime after its last heartbeat, and an expiry removes exactly those
that are due. And if `owner` executed a leasable action earlier in the run, and no operation since
ended the lease, any other caller who does not ask for a release is rejected and leaves every lease
as it is. -/
theorem lease_exclusive (settings : AdminSettings) (httl : 0 < settings.leaseTtlFrames)
    (ops : List AdminOperation) {u : LeaseRun}
    (hrun : (machine settings).exec (machine settings).init ops = some u) :
    (∀ k k' lease lease', u.controller.leases k = some lease →
      u.controller.leases k' = some lease' → lease.control = lease'.control →
        k = k' ∧ lease = lease') ∧
    (∀ k lease, u.controller.leases k = some lease →
      lease.expiresFrame = lease.lastHeartbeatFrame + settings.leaseTtlFrames) ∧
    (∀ frame k lease, (u.controller.expireLeases frame).leases k = some lease ↔
      u.controller.leases k = some lease ∧ frame < lease.expiresFrame) ∧
    ∀ before after owner action frame stateSeq s t,
      ops = before ++ .execute owner action frame stateSeq :: after →
      (machine settings).exec (machine settings).init before = some s →
      s.step (.execute owner action frame stateSeq) = some t →
      AdminController.isLeasable (controlName action) = true →
      (s.controller.execute owner action frame stateSeq).1.status = .executed →
      (machine settings).Meets (Keeps (controlName action) owner.identity) t after →
      ∀ caller action' frame' stateSeq', controlName action' = controlName action →
        caller.identity ≠ owner.identity → action'.conflictPolicy ≠ .releaseExistingLease →
        (u.controller.execute caller action' frame' stateSeq').1.status.isRejected = true ∧
          (u.controller.execute caller action' frame' stateSeq').2.leases =
            u.controller.leases := by
  have hu := leased_of_exec hrun
  refine ⟨?_, fun k lease h ↦ (hu.leases k lease h).expiresFrame_eq, ?_, ?_⟩
  · intro k k' lease lease' hlease hlease' hcontrol
    have hk : k = k' := by
      rw [← (hu.leases k lease hlease).control_eq, hcontrol]
      exact (hu.leases k' lease' hlease').control_eq
    subst hk
    exact ⟨rfl, Option.some.inj (hlease.symm.trans hlease')⟩
  · intro frame k lease
    constructor
    · intro h
      have hlease := (filter_eq_some_iff.1 h).1
      have hends := (hu.leases k lease hlease).expiresFrame_eq
      exact (expireLeases_eq_some_iff (by omega)).1 h
    · rintro ⟨hlease, hdue⟩
      exact (expireLeases_eq_some_iff (by omega)).2 ⟨hlease, hdue⟩
  · rintro before after owner action frame stateSeq s t rfl hbefore hstep hleasable hexecuted hmeets
      caller action' frame' stateSeq' hsame hother hpolicy
    have ht := leased_step (leased_of_exec hbefore) hstep
    have hafter : (machine settings).exec t after = some u := by
      rw [StepMachine.exec_append, hbefore, bind_some, StepMachine.exec_cons] at hrun
      rwa [show (machine settings).step s _ = some t from hstep] at hrun
    have hholds := StepMachine.invariant_of_meets
      (I := fun s ↦ s.Leased settings ∧ s.Holds (controlName action) owner.identity)
      (fun _ _ _ hs hkeeps h ↦ ⟨leased_step hs.1 h, holds_step hs.1 hs.2 hkeeps h⟩)
      ⟨ht, holds_of_executed hleasable hexecuted hstep⟩ hmeets hafter
    exact rejected_of_holds (hsame ▸ hholds.2) hother hpolicy frame' stateSeq'

/-- The client `"a"` pauses the game at frame 10 and renews its lease at frame 20; a heartbeat of
`"b"` and an expiry at frame 109 come too early to matter. -/
def pausedAndRenewed : List AdminOperation :=
  [.execute ⟨"a", .operator⟩ { action := .pause true } 10 1,
    .heartbeat .pause ⟨"a", .operator⟩ 20, .heartbeat .pause ⟨"b", .operator⟩ 30,
    .expireLeases 109]

theorem lease_exclusive_pausedAndRenewed :
    ∃ u, (machine {}).exec (machine {}).init pausedAndRenewed = some u ∧
      (u.controller.execute ⟨"b", .admin⟩ { action := .pause false } 109 2).1.status.isRejected =
        true ∧
      (u.controller.expireLeases 110).leases .pause = none := by
  refine ⟨_, rfl, ?_, ?_⟩
  · refine ((lease_exclusive {} (by decide) pausedAndRenewed rfl).2.2.2 [] _
      ⟨"a", .operator⟩ { action := .pause true } 10 1 _ _ rfl rfl rfl rfl rfl ?_ ⟨"b", .admin⟩
      { action := .pause false } 109 2 rfl (by decide) (by decide)).1
    refine ⟨trivial, fun _ h ↦ ?_⟩
    cases h
    refine ⟨trivial, fun _ h ↦ ?_⟩
    cases h
    refine ⟨?_, fun _ _ ↦ trivial⟩
    rintro renewed hrenewed
    cases hrenewed
    decide
  · rfl

end LeaseRun

end HighBar.Grpc
