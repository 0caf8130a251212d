import HighBar.Grpc.SnapshotTick
import HighBar.Library.Checks
import HighBar.Library.StepMachine
import Mathlib.Data.List.Chain

/-!
# The cadence of snapshots

The scheduler stamps an emission with the cadence **before** it updates it, and schedules the next
emission with the cadence after the update. So the stamp of an emission is the interval that led to
it, and the law of the intervals links each emission with the one before (`FollowsCadence`).

`CadenceRun` pumps consecutive frames, with any number of own units and a request or none before
each. Between two pumps its state is known exactly (`Scheduled`): the next snapshot is due one
effective cadence after the last emission, and the effective cadence is what the last emission's
load made of its stamp. Both parts of the law, the bound on the cadence and the bound on silence are
read off that.

The settings are those that `LoadTransportConfig` lets through. `pumpChecked` is `Pump` with its two
`uint32` operations **tested**, and the tests never fail.
-/

namespace HighBar.Grpc

open Checks List Option

/-! ### The configuration -/

/-- The `snapshot_tick` block of `grpc.json`, with its members if they are there. -/
structure SnapshotTickBlock where
  snapshotCadenceFrames : Option ℕ
  snapshotMaxUnits : Option ℕ
deriving Repr, DecidableEq

/-- A member, which must lie between one and `max`. -/
def loadMember (name : String) (max : ℕ) (default : ℕ) : Option ℕ → Except String ℕ
  | none => .ok default
  | some v =>
    if v < 1 ∨ max < v then
      .error ("grpc.json: snapshot_tick." ++ name ++ " must be in [1, " ++ toString max ++
        "] (got " ++ toString v ++ ")")
    else .ok v

/-- The part of `LoadTransportConfig` about `snapshot_tick`; without the block the defaults stay. -/
def loadSnapshotTick : Option SnapshotTickBlock → Except String SnapshotTickConfig
  | none => .ok {}
  | some st => do
    let cadence ← loadMember "snapshot_cadence_frames" 1024 30 st.snapshotCadenceFrames
    let maxUnits ← loadMember "snapshot_max_units" 100000 1000 st.snapshotMaxUnits
    .ok ⟨cadence, maxUnits⟩

theorem loadMember_eq_ok {name : String} {max default v : ℕ} {member : Option ℕ}
    (hdefault : 1 ≤ default ∧ default ≤ max) (h : loadMember name max default member = .ok v) :
    1 ≤ v ∧ v ≤ max := by
  rcases member with - | w
  · obtain rfl := Except.ok.inj h
    exact hdefault
  · rw [loadMember] at h
    split_ifs at h with hrange
    obtain rfl := Except.ok.inj h
    omega

/-- **What the loader lets through.** -/
theorem loadSnapshotTick_eq_ok {block : Option SnapshotTickBlock} {cfg : SnapshotTickConfig}
    (h : loadSnapshotTick block = .ok cfg) :
    (1 ≤ cfg.snapshotCadenceFrames ∧ cfg.snapshotCadenceFrames ≤ 1024) ∧
      1 ≤ cfg.snapshotMaxUnits ∧ cfg.snapshotMaxUnits ≤ 100000 := by
  rcases block with - | st
  · obtain rfl := Except.ok.inj h
    decide
  · obtain ⟨cadence, hcadence, hrest⟩ := bind_eq_ok.1 h
    obtain ⟨maxUnits, hmaxUnits, hcfg⟩ := bind_eq_ok.1 hrest
    obtain rfl := Except.ok.inj hcfg
    exact ⟨loadMember_eq_ok (by decide) hcadence, loadMember_eq_ok (by decide) hmaxUnits⟩

/-! ### The operations that could wrap -/

/-- Unsigned multiplication at width 32, `none` where it would wrap. -/
def checkedMul (a b : ℕ) : Option ℕ := if a * b < 2 ^ 32 then some (a * b) else none

/-- Unsigned addition at width 32, `none` where it would wrap. -/
def checkedAdd (a b : ℕ) : Option ℕ := if a + b < 2 ^ 32 then some (a + b) else none

namespace SnapshotTick

/-- `nextCadence`, `none` where the doubling wraps. -/
def nextCadenceChecked (t : SnapshotTick) (ownUnitsCount : ℕ) : Option ℕ :=
  if t.snapshotMaxUnits < ownUnitsCount then
    (checkedMul t.effectiveCadenceFrames 2).map fun doubled ↦
      let doubled :=
        if doubled < t.effectiveCadenceFrames then kMaxEffectiveCadenceFrames else doubled
      if kMaxEffectiveCadenceFrames < doubled then kMaxEffectiveCadenceFrames else doubled
  else if t.snapshotCadenceFrames < t.effectiveCadenceFrames then some t.snapshotCadenceFrames
  else some t.effectiveCadenceFrames

/-- `Pump`, `none` where an operation wraps. -/
def pumpChecked (t : SnapshotTick) (frame ownUnitsCount : ℕ) :
    Option (SnapshotPumpResult × SnapshotTick) :=
  if t.due frame then
    (t.nextCadenceChecked ownUnitsCount).bind fun cadence ↦
      (checkedAdd frame cadence).map fun next ↦
        (⟨true, t.effectiveCadenceFrames, t.pendingRequest⟩,
          { t with
            effectiveCadenceFrames := cadence
            nextSnapshotFrame := next
            pendingRequest := false })
  else some ({}, { t with pendingRequest := false })

variable {t : SnapshotTick}

/-- The cadence after an emission: doubled up to the cap, or the configured one. -/
theorem nextCadence_eq (hle : t.snapshotCadenceFrames ≤ t.effectiveCadenceFrames)
    (hcap : t.effectiveCadenceFrames ≤ 1024) (ownUnitsCount : ℕ) :
    t.nextCadence ownUnitsCount =
      if t.snapshotMaxUnits < ownUnitsCount then min (2 * t.effectiveCadenceFrames) 1024
      else t.snapshotCadenceFrames := by
  rw [nextCadence, kMaxEffectiveCadenceFrames,
    Nat.mod_eq_of_lt (show t.effectiveCadenceFrames * 2 < 2 ^ 32 by omega)]
  dsimp only
  split_ifs <;> omega

theorem nextCadenceChecked_eq (hcap : t.effectiveCadenceFrames ≤ 1024) (ownUnitsCount : ℕ) :
    t.nextCadenceChecked ownUnitsCount = some (t.nextCadence ownUnitsCount) := by
  have hfits : t.effectiveCadenceFrames * 2 < 2 ^ 32 := by omega
  rw [nextCadenceChecked, nextCadence, checkedMul, if_pos hfits, Nat.mod_eq_of_lt hfits,
    map_some]
  by_cases hover : t.snapshotMaxUnits < ownUnitsCount
  · rw [if_pos hover, if_pos hover]
  · rw [if_neg hover, if_neg hover, apply_ite some]

variable (hpos : 1 ≤ t.snapshotCadenceFrames)
  (hle : t.snapshotCadenceFrames ≤ t.effectiveCadenceFrames)
  (hcap : t.effectiveCadenceFrames ≤ 1024)
include hpos hle hcap

/-- The cadence stays between its setting and 1024. -/
theorem nextCadence_bounds (ownUnitsCount : ℕ) :
    t.snapshotCadenceFrames ≤ t.nextCadence ownUnitsCount ∧
      t.nextCadence ownUnitsCount ≤ 1024 := by
  rw [nextCadence_eq hle hcap]
  split_ifs <;> omega

/-- **No operation of `Pump` wraps** below frame `2 ^ 31`. -/
theorem pumpChecked_eq {frame : ℕ} (hframe : frame < 2 ^ 31) (ownUnitsCount : ℕ) :
    t.pumpChecked frame ownUnitsCount = some (t.pump frame ownUnitsCount) := by
  obtain ⟨-, hbound⟩ := nextCadence_bounds hpos hle hcap ownUnitsCount
  have hfits : frame + t.nextCadence ownUnitsCount < 2 ^ 32 := by omega
  rw [pumpChecked, pump, nextCadenceChecked_eq hcap, bind_some, checkedAdd, if_pos hfits,
    map_some, wrapAdd_of_lt hfits]
  split_ifs <;> rfl

end SnapshotTick

/-! ### Consecutive frames -/

/-- What a frame brings: the number of own units, and whether a snapshot was requested since the
frame before. -/
structure FrameInput where
  ownUnitsCount : ℕ
  requested : Bool
deriving Repr, DecidableEq

/-- An emission: its frame, the cadence it was stamped with, whether it was forced, and the number
of own units it saw. -/
structure Emission where
  frame : ℕ
  stamp : ℕ
  forced : Bool
  ownUnitsCount : ℕ
deriving Repr, DecidableEq

/-- The scheduler over consecutive frames. -/
structure CadenceRun where
  tick : SnapshotTick
  /-- The frame that is pumped next. -/
  frame : ℕ
  /-- Every emission so far, oldest first. -/
  emissions : List Emission
deriving Repr, DecidableEq

namespace CadenceRun

/-- The scheduler as `Pump` finds it. -/
def armed (s : CadenceRun) (requested : Bool) : SnapshotTick :=
  { s.tick with pendingRequest := s.tick.pendingRequest || requested }

/-- One frame, below `2 ^ 31`. -/
def step (s : CadenceRun) (input : FrameInput) : Option CadenceRun :=
  if s.frame < 2 ^ 31 then
    let pumped := (s.armed input.requested).pump s.frame input.ownUnitsCount
    some
      { tick := pumped.2
        frame := s.frame + 1
        emissions :=
          if pumped.1.emit then
            s.emissions ++
              [⟨s.frame, pumped.1.effectiveCadenceFrames, pumped.1.forced, input.ownUnitsCount⟩]
          else s.emissions }
  else none

/-- A configured scheduler, from its first frame on. -/
def machine (cfg : SnapshotTickConfig) (first : ℕ) : StepMachine CadenceRun FrameInput where
  init := { tick := SnapshotTick.configure cfg, frame := first, emissions := [] }
  step := step

/-- The cadence that an emission leaves behind. -/
def cadenceAfter (cfg : SnapshotTickConfig) (e : Emission) : ℕ :=
  if cfg.snapshotMaxUnits < e.ownUnitsCount then min (2 * e.stamp) 1024
  else cfg.snapshotCadenceFrames

/-- **The law of two successive emissions.** -/
structure FollowsCadence (cfg : SnapshotTickConfig) (e e' : Emission) : Prop where
  frame_lt : e.frame < e'.frame
  stamp : e'.stamp = cadenceAfter cfg e
  /-- A forced emission may come early. -/
  interval_le : e'.frame - e.frame ≤ e'.stamp
  interval : e'.forced = false → e'.frame - e.frame = e'.stamp

/-- How the scheduler stands between two pumps. -/
structure Scheduled (cfg : SnapshotTickConfig) (first : ℕ) (s : CadenceRun) : Prop where
  cadence : s.tick.snapshotCadenceFrames = cfg.snapshotCadenceFrames
  maxUnits : s.tick.snapshotMaxUnits = cfg.snapshotMaxUnits
  idle : s.tick.pendingRequest = false
  le_effective : cfg.snapshotCadenceFrames ≤ s.tick.effectiveCadenceFrames
  effective_le : s.tick.effectiveCadenceFrames ≤ 1024
  /-- The next snapshot is not overdue. -/
  frame_le : s.frame ≤ s.tick.nextSnapshotFrame
  /-- Before the first emission. -/
  start : s.emissions = [] → s.tick.effectiveCadenceFrames = cfg.snapshotCadenceFrames ∧
    s.tick.nextSnapshotFrame = cfg.snapshotCadenceFrames
  /-- After an emission the next one is due one effective cadence later. -/
  last : ∀ e ∈ s.emissions.getLast?, e.frame < s.frame ∧
    s.tick.nextSnapshotFrame = e.frame + s.tick.effectiveCadenceFrames ∧
    s.tick.effectiveCadenceFrames = cadenceAfter cfg e
  chain : s.emissions.IsChain (FollowsCadence cfg)
  head : ∀ e ∈ s.emissions.head?, e.stamp = cfg.snapshotCadenceFrames
  /-- No 1024 frames were silent. -/
  heard : ∀ f, first ≤ f → f + 1024 ≤ s.frame →
    ∃ e ∈ s.emissions, f ≤ e.frame ∧ e.frame < f + 1024

variable {cfg : SnapshotTickConfig} {first : ℕ} {s t : CadenceRun} {input : FrameInput}

theorem scheduled_init (hfirst : first ≤ cfg.snapshotCadenceFrames)
    (hcap : cfg.snapshotCadenceFrames ≤ 1024) : (machine cfg first).init.Scheduled cfg first where
  cadence := rfl
  maxUnits := rfl
  idle := rfl
  le_effective := Nat.le_refl _
  effective_le := hcap
  frame_le := hfirst
  start := fun _ ↦ ⟨rfl, rfl⟩
  last := fun e he ↦ absurd he (not_mem_none e)
  chain := isChain_nil
  head := fun e he ↦ absurd he (not_mem_none e)
  heard := by
    intro f hf hle
    have hframe : (machine cfg first).init.frame = first := rfl
    omega

/-- What a frame does: nothing, or it emits. -/
theorem step_cases (hstep : s.step input = some t) :
    s.frame < 2 ^ 31 ∧
    ((s.armed input.requested).due s.frame = false ∧
        t = { s with
          tick := { s.armed input.requested with pendingRequest := false }
          frame := s.frame + 1 } ∨
      (s.armed input.requested).due s.frame = true ∧
        t = { tick := ((s.armed input.requested).pump s.frame input.ownUnitsCount).2
              frame := s.frame + 1
              emissions := s.emissions ++ [⟨s.frame, s.tick.effectiveCadenceFrames,
                s.tick.pendingRequest || input.requested, input.ownUnitsCount⟩] }) := by
  obtain ⟨hframe, hsome⟩ := ite_none_right_eq_some.1 hstep
  refine ⟨hframe, ?_⟩
  rcases hdue : (s.armed input.requested).due s.frame with - | -
  · refine Or.inl ⟨rfl, ?_⟩
    rw [← Option.some.inj hsome, SnapshotTick.pump, hdue]
    rfl
  · refine Or.inr ⟨rfl, ?_⟩
    rw [← Option.some.inj hsome, SnapshotTick.pump, hdue]
    rfl

/-- A frame without an emission. -/
theorem Scheduled.quiet (hs : s.Scheduled cfg first) (hfirst : 1 ≤ first)
    (hcap : cfg.snapshotCadenceFrames ≤ 1024)
    (hdue : (s.armed input.requested).due s.frame = false) :
    ({ s with
      tick := { s.armed input.requested with pendingRequest := false }
      frame := s.frame + 1 } : CadenceRun).Scheduled cfg first := by
  obtain ⟨-, hearly⟩ := Bool.or_eq_false_iff.1 hdue
  have hlt : s.frame < s.tick.nextSnapshotFrame := Nat.lt_of_not_le (of_decide_eq_false hearly)
  refine ⟨hs.cadence, hs.maxUnits, rfl, hs.le_effective, hs.effective_le, hlt, hs.start, ?_,
    hs.chain, hs.head, ?_⟩
  · intro e he
    obtain ⟨hframe, hnext, heff⟩ := hs.last e he
    exact ⟨Nat.lt_succ_of_lt hframe, hnext, heff⟩
  · intro f hf hle
    have hle' : f + 1024 ≤ s.frame + 1 := hle
    rcases Nat.lt_or_ge s.frame (f + 1024) with hnew | hold
    swap
    · exact hs.heard f hf hold
    -- the window ends with this frame, so the last emission is in it
    rcases hlast : s.emissions.getLast? with - | e
    · obtain ⟨-, hnext⟩ := hs.start (getLast?_eq_none_iff.1 hlast)
      omega
    · obtain ⟨hframe, hnext, -⟩ := hs.last e hlast
      have heff := hs.effective_le
      exact ⟨e, mem_of_getLast? hlast, by omega, by omega⟩

/-- A frame with an emission. -/
theorem Scheduled.emits (hs : s.Scheduled cfg first) (hpos : 1 ≤ cfg.snapshotCadenceFrames)
    (hframe : s.frame < 2 ^ 31) (hdue : (s.armed input.requested).due s.frame = true) :
    ({ tick := ((s.armed input.requested).pump s.frame input.ownUnitsCount).2
       frame := s.frame + 1
       emissions := s.emissions ++ [⟨s.frame, s.tick.effectiveCadenceFrames,
        s.tick.pendingRequest || input.requested, input.ownUnitsCount⟩] } :
      CadenceRun).Scheduled cfg first := by
  have hle := hs.le_effective
  have hcap := hs.effective_le
  obtain ⟨hlow, hhigh⟩ := SnapshotTick.nextCadence_bounds (t := s.armed input.requested)
    (by rw [armed, hs.cadence]; exact hpos) (by rw [armed, hs.cadence]; exact hle) hcap
    input.ownUnitsCount
  have hnext := SnapshotTick.nextCadence_eq (t := s.armed input.requested)
    (by rw [armed, hs.cadence]; exact hle) hcap input.ownUnitsCount
  have hlow' : cfg.snapshotCadenceFrames ≤
      (s.armed input.requested).nextCadence input.ownUnitsCount := by
    rw [← hs.cadence]
    exact hlow
  have hsum : wrapAdd 32 s.frame ((s.armed input.requested).nextCadence input.ownUnitsCount) =
      s.frame + (s.armed input.requested).nextCadence input.ownUnitsCount :=
    wrapAdd_of_lt (by omega)
  rw [SnapshotTick.pump, if_pos hdue]
  refine ⟨hs.cadence, hs.maxUnits, rfl, hlow', hhigh, ?_, fun hempty ↦ ?_, ?_, ?_, ?_, ?_⟩
  · show s.frame + 1 ≤ wrapAdd 32 s.frame _
    rw [hsum]
    omega
  · exact absurd hempty (append_ne_nil_of_right_ne_nil _ (cons_ne_nil _ _))
  · intro e he
    rw [getLast?_concat] at he
    obtain rfl := mem_some_iff.1 he
    refine ⟨Nat.lt_succ_self _, hsum, ?_⟩
    show (s.armed input.requested).nextCadence input.ownUnitsCount = cadenceAfter cfg _
    rw [hnext, cadenceAfter, ← hs.cadence, ← hs.maxUnits]
    rfl
  · -- the interval that ends here began at the last emission
    refine isChain_append.2 ⟨hs.chain, isChain_singleton _, fun e he e' he' ↦ ?_⟩
    obtain rfl := mem_some_iff.1 he'
    obtain ⟨hlt, hdueAt, heff⟩ := hs.last e he
    have hnot := hs.frame_le
    refine ⟨hlt, heff, ?_, fun hforced ↦ ?_⟩
    · show s.frame - e.frame ≤ s.tick.effectiveCadenceFrames
      omega
    · have hcadenceDue : s.tick.nextSnapshotFrame ≤ s.frame := by
        rcases Bool.or_eq_true_iff.1 hdue with hpending | hnow
        · exact absurd (hpending.symm.trans hforced) Bool.noConfusion
        · exact of_decide_eq_true hnow
      show s.frame - e.frame = s.tick.effectiveCadenceFrames
      omega
  · intro e he
    rcases hempty : s.emissions with - | ⟨e₀, rest⟩
    · rw [hempty] at he
      obtain rfl := mem_some_iff.1 he
      exact (hs.start hempty).1
    · rw [hempty] at he
      exact hs.head e (by rw [hempty]; exact he)
  · intro f hf hwindow
    have hwindow' : f + 1024 ≤ s.frame + 1 := hwindow
    rcases Nat.lt_or_ge s.frame (f + 1024) with hnew | hold
    · exact ⟨_, mem_append_right _ (mem_singleton_self _), by
        show f ≤ s.frame
        omega, hnew⟩
    · obtain ⟨e, he, hin⟩ := hs.heard f hf hold
      exact ⟨e, mem_append_left _ he, hin⟩

/-- **One frame keeps the schedule.** -/
theorem Scheduled.step (hs : s.Scheduled cfg first) (hfirst : 1 ≤ first)
    (hpos : 1 ≤ cfg.snapshotCadenceFrames) (hcap : cfg.snapshotCadenceFrames ≤ 1024)
    (hstep : s.step input = some t) : t.Scheduled cfg first := by
  obtain ⟨hframe, ⟨hdue, rfl⟩ | ⟨hdue, rfl⟩⟩ := step_cases hstep
  · exact hs.quiet hfirst hcap hdue
  · exact hs.emits hpos hframe hdue

/-- **The cadence law**, over any run of consecutive frames of a scheduler that was configured from
an accepted file: the cadence stays within its bounds, no operation of the next `Pump` wraps, each
two successive emissions follow the law, the first is stamped with the configured cadence, and no
1024 consecutive frames of the run are without an emission. -/
theorem snapshot_cadence_law (block : Option SnapshotTickBlock) (cfg : SnapshotTickConfig)
    (hcfg : loadSnapshotTick block = .ok cfg) (first : ℕ) (hfirst : 1 ≤ first)
    (hle : first ≤ cfg.snapshotCadenceFrames) (inputs : List FrameInput) {s : CadenceRun}
    (hrun : (machine cfg first).exec (machine cfg first).init inputs = some s) :
    (cfg.snapshotCadenceFrames ≤ s.tick.effectiveCadenceFrames ∧
      s.tick.effectiveCadenceFrames ≤ 1024) ∧
    (s.frame < 2 ^ 31 → ∀ requested ownUnitsCount,
      (s.armed requested).pumpChecked s.frame ownUnitsCount =
        some ((s.armed requested).pump s.frame ownUnitsCount)) ∧
    s.emissions.IsChain (FollowsCadence cfg) ∧
    (∀ e ∈ s.emissions.head?, e.stamp = cfg.snapshotCadenceFrames) ∧
    ∀ f, first ≤ f → f + 1024 ≤ s.frame → ∃ e ∈ s.emissions, f ≤ e.frame ∧ e.frame < f + 1024 := by
  obtain ⟨⟨hpos, hcap⟩, -⟩ := loadSnapshotTick_eq_ok hcfg
  have hs : s.Scheduled cfg first := StepMachine.invariant_of_exec
    (fun _ _ _ hs hstep ↦ hs.step hfirst hpos hcap hstep) (scheduled_init hle hcap) hrun
  refine ⟨⟨hs.le_effective, hs.effective_le⟩, fun hframe requested ownUnitsCount ↦ ?_, hs.chain,
    hs.head, hs.heard⟩
  refine SnapshotTick.pumpChecked_eq (t := s.armed requested) ?_ ?_ hs.effective_le hframe
    ownUnitsCount
  · rw [armed, hs.cadence]
    exact hpos
  · rw [armed, hs.cadence]
    exact hs.le_effective

/-- A busy frame, a request, and quiet frames. -/
def busyThenForced : List FrameInput :=
  [⟨0, false⟩, ⟨5, false⟩, ⟨0, false⟩, ⟨0, true⟩, ⟨0, false⟩, ⟨0, false⟩]

/-- Cadence two: emissions at two (over the limit), at four (forced, early), and at six. -/
theorem snapshot_cadence_law_busyThenForced :
    ∃ s, (machine ⟨2, 3⟩ 1).exec (machine ⟨2, 3⟩ 1).init busyThenForced = some s ∧
      s.emissions = [⟨2, 2, false, 5⟩, ⟨4, 4, true, 0⟩, ⟨6, 2, false, 0⟩] ∧
      s.emissions.IsChain (FollowsCadence ⟨2, 3⟩) :=
  ⟨_, rfl, by decide, (snapshot_cadence_law (some ⟨some 2, some 3⟩) ⟨2, 3⟩ rfl 1 (by decide)
    (by decide) busyThenForced rfl).2.2.1⟩

end CadenceRun

end HighBar.Grpc
