import HighBar.Module.GatewayEmission

/-!
# No event is lost or published twice

Hooks, the command drain and the economy tick all append to one accumulator; the end of a tick moves
it out and publishes it as a delta, or, after a quiet time, publishes a keep-alive instead. This
module follows **what was appended** through a run (`appended`, read off the labels and the states
they were taken in) and compares it with **what was published** (`closings`, read off the log: the
deltas and the keep-alives, the two updates that close a tick).

`Accrues` says what a stretch of a healthy run does to both: its closing updates carry, in order,
the events that were waiting and the events it appended, up to those that wait at its end; it closes
at most once a tick; and if it closes nothing, the quiet counter has gone up by its ticks. Stretches
compose (`Accrues.trans`), so only single steps have to be looked at (`accrues_step`).

A gateway that is healthy at the end of a run has been healthy throughout (`healthy_of_step`), and
no serialisation has thrown.
-/

namespace HighBar.Module

open Grpc List Option

/-- The body of an update that closes a tick. -/
def GatewayEvent.closing? : GatewayEvent → Option UpdateBody
  | .published ⟨_, _, .delta events⟩ => some (.delta events)
  | .published ⟨_, _, .keepalive⟩ => some .keepalive
  | _ => none

/-- The label begins a tick. -/
def GatewayLabel.isBeginTick : GatewayLabel → Bool
  | .beginTick _ => true
  | _ => false

namespace Gateway

variable {g h k : Gateway} {body : UpdateBody} {fault : Option EmitFault}

/-- The deltas and keep-alives published so far. -/
def closings (g : Gateway) : List UpdateBody := g.log.filterMap GatewayEvent.closing?

/-- The events a step appends to the accumulator. -/
def appends (g : Gateway) : GatewayLabel → List DeltaEvent
  | .hook hook fault _ =>
    if g.state = .healthy ∧ fault ≠ some .beforeEvent then hook.event.toList else []
  | .dispatchNext outcome =>
    g.phase.batch.head?.toList.map fun entry ↦ .commandDispatch (g.finishedEvent entry outcome)
  | .economy values fault =>
    if g.state = .healthy ∧ g.economyDue ∧ fault ≠ some .beforeEvent then
      [.economyTick (values.getD {})]
    else []
  | _ => []

/-- The events a run appends, in append order. -/
def appended (g : Gateway) : List GatewayLabel → List DeltaEvent
  | [] => []
  | label :: labels => g.appends label ++ ((g.step label).map (appended · labels)).getD []

/-- The number of ticks that labels begin. -/
def ticks (labels : List GatewayLabel) : ℕ := labels.countP GatewayLabel.isBeginTick

/-- One while a tick is in progress. -/
def inTick (g : Gateway) : ℕ := if g.phase = .idle then 0 else 1

/-! ### Health is lost for good -/

/-- A gateway that is healthy at the end of a run was healthy at its start. -/
theorem healthy_of_exec (config : GatewayConfig) {labels : List GatewayLabel}
    (hrun : (machine config).exec g labels = some h) (hh : h.state = .healthy) :
    g.state = .healthy := by
  by_contra hno
  refine StepMachine.invariant_of_exec (I := fun g ↦ g.state ≠ .healthy) ?_ hno hrun hh
  exact fun _ _ _ hg hstep hc ↦ hg (healthy_of_step hstep hc)

/-! ### What a stretch of a run accrues -/

/-- From `g` to `h`, over so many ticks, `added` was appended and `new` was published. -/
structure Accrues (g h : Gateway) (added : List DeltaEvent) (ticks : ℕ) (new : List UpdateBody) :
    Prop where
  closings : h.closings = g.closings ++ new
  /-- What was waiting and what was appended is what was published and what is waiting. -/
  events : new.flatMap UpdateBody.events ++ h.events = g.events ++ added
  nonempty : .delta [] ∉ new
  /-- A tick closes at most once. -/
  once : new.length + h.inTick ≤ g.inTick + ticks
  /-- A tick that closes nothing is counted as quiet. -/
  quiet : new = [] →
    h.framesSinceLastFlush + h.inTick = g.framesSinceLastFlush + g.inTick + ticks
  bound : h.framesSinceLastFlush < kKeepAliveFrames

/-- **Stretches compose.** -/
theorem Accrues.trans {added added' : List DeltaEvent} {n n' : ℕ} {new new' : List UpdateBody}
    (hgh : g.Accrues h added n new) (hhk : h.Accrues k added' n' new') :
    g.Accrues k (added ++ added') (n + n') (new ++ new') where
  closings := by rw [hhk.closings, hgh.closings, append_assoc]
  events := by
    rw [flatMap_append, append_assoc, hhk.events, ← append_assoc, hgh.events,
      append_assoc]
  nonempty := fun hmem ↦ (mem_append.1 hmem).elim hgh.nonempty hhk.nonempty
  once := by
    have h₁ := hgh.once
    have h₂ := hhk.once
    rw [length_append]
    omega
  quiet := by
    intro hnil
    obtain ⟨h₁, h₂⟩ := append_eq_nil_iff.1 hnil
    have hq₁ := hgh.quiet h₁
    have hq₂ := hhk.quiet h₂
    omega
  bound := hhk.bound

/-- A step that closes nothing. -/
theorem Accrues.calm {added : List DeltaEvent} {n : ℕ} (hclosings : h.closings = g.closings)
    (hevents : h.events = g.events ++ added)
    (hquiet : h.framesSinceLastFlush = g.framesSinceLastFlush) (htick : h.inTick = g.inTick + n)
    (hbound : g.framesSinceLastFlush < kKeepAliveFrames) : g.Accrues h added n [] where
  closings := by rw [hclosings, append_nil]
  events := hevents
  nonempty := not_mem_nil
  once := by
    rw [htick, length_nil]
    omega
  quiet := fun _ ↦ by rw [hquiet, htick, Nat.add_assoc]
  bound := hquiet ▸ hbound

/-- A step that closes nothing, in a phase of the same tick, or none as before. -/
theorem Accrues.within {added : List DeltaEvent} (hlog : h.log = g.log)
    (hevents : h.events = g.events ++ added)
    (hquiet : h.framesSinceLastFlush = g.framesSinceLastFlush) (htick : h.inTick = g.inTick)
    (hbound : g.framesSinceLastFlush < kKeepAliveFrames) : g.Accrues h added 0 [] :=
  .calm (congrArg (List.filterMap GatewayEvent.closing?) hlog) hevents hquiet htick hbound

/-- A log entry that closes no tick. -/
theorem closings_append {new : List GatewayEvent} (hlog : h.log = g.log ++ new)
    (hnew : new.filterMap GatewayEvent.closing? = []) : h.closings = g.closings := by
  rw [closings, hlog, filterMap_append, hnew, append_nil]
  rfl

/-- A snapshot closes no tick. -/
theorem closings_snapshot {cadence frame : ℕ}
    (hh : (g.emit (.snapshot cadence frame) fault).state = .healthy) :
    (g.emit (.snapshot cadence frame) fault).closings = g.closings := by
  obtain ⟨-, -, seq, updateFrame, hlog⟩ := emit_of_healthy hh
  exact closings_append hlog rfl

/-- A snapshot emitted from `k`, which carries what a step appends. -/
theorem Accrues.snapshot {cadence frame : ℕ} {added : List DeltaEvent}
    (hh : (k.emit (.snapshot cadence frame) fault).state = .healthy) (hlog : k.log = g.log)
    (hevents : k.events = g.events ++ added)
    (hquiet : k.framesSinceLastFlush = g.framesSinceLastFlush) (htick : k.inTick = g.inTick)
    (hbound : g.framesSinceLastFlush < kKeepAliveFrames) :
    g.Accrues (k.emit (.snapshot cadence frame) fault) added 0 [] := by
  have hwork : k.SameWork (k.emit (.snapshot cadence frame) fault) := sameWork_emit
  refine .calm ?_ ?_ ?_ ?_ hbound
  · rw [closings_snapshot hh]
    exact congrArg (List.filterMap GatewayEvent.closing?) hlog
  · rw [hwork.events_eq, hevents]
  · rw [hwork]
    exact hquiet
  · rw [inTick, hwork.phase_eq]
    exact htick

theorem closing?_closingBody (seq frame : ℕ) :
    GatewayEvent.closing? (.published ⟨seq, frame, g.closingBody⟩) = some g.closingBody := by
  rw [closingBody]
  split_ifs
  · rfl
  · rfl

section Accrual

variable (hbound : g.framesSinceLastFlush < kKeepAliveFrames)
include hbound

/-- The initial snapshot takes no event. -/
theorem accrues_initialSnapshot (hphase : g.phase = .initialSnapshot)
    (hh : (g.startInitialSnapshot.emit (.snapshot 1 g.frameForWire) fault).state = .healthy) :
    g.Accrues { g.startInitialSnapshot.emit (.snapshot 1 g.frameForWire) fault with
      phase := .heartbeat } [] 0 [] := by
  have htick : g.inTick = 1 := by rw [inTick, hphase]; rfl
  have hwork : g.startInitialSnapshot.SameWork
      (g.startInitialSnapshot.emit (.snapshot 1 g.frameForWire) fault) := sameWork_emit
  refine .calm (closings_snapshot hh) ?_ ?_ htick.symm hbound
  · exact hwork.events_eq.trans (append_nil _).symm
  · rw [hwork]
    rfl

/-- A tick that closes nothing is counted as quiet. -/
theorem accrues_noUpdate (hphase : g.phase = .flush) (hleft : g.flushLeft = false) :
    g.Accrues { g with phase := .idle, framesSinceLastFlush := wrapAdd 32 g.framesSinceLastFlush 1 }
      [] 0 [] := by
  have hdue : g.keepAliveDue = false := (Bool.or_eq_false_iff.1 hleft).2
  have hcount : wrapAdd 32 g.framesSinceLastFlush 1 = g.framesSinceLastFlush + 1 :=
    wrapAdd_of_lt (by rw [kKeepAliveFrames] at hbound; omega)
  rw [keepAliveDue, decide_eq_false_iff_not, hcount] at hdue
  rw [hcount]
  exact
    { closings := (append_nil _).symm
      events := (append_nil _).symm
      nonempty := not_mem_nil
      once := Nat.zero_le _
      quiet := fun _ ↦ by rw [inTick, inTick, hphase]; rfl
      bound := Nat.not_le.1 hdue }

omit hbound in
/-- The update that closes a tick has the accumulator in it. -/
theorem accrues_flush {events : List DeltaEvent} (hphase : g.phase = .flush)
    (hmoved : events = [] ∨ events = g.events ∧ fault ≠ none)
    (hh : (({ g with phase := .idle, events := events } : Gateway).emit g.closingBody
      fault).state = .healthy) :
    g.Accrues
      { ({ g with phase := .idle, events := events } : Gateway).emit g.closingBody fault with
        framesSinceLastFlush := 0 } [] 0 [g.closingBody] := by
  obtain ⟨-, hfault, seq, frame, hlog⟩ := emit_of_healthy hh
  obtain rfl : events = [] := hmoved.resolve_right fun hc ↦ hc.2 hfault
  have hwork : ({ g with phase := .idle, events := [] } : Gateway).SameWork
      (Gateway.emit _ g.closingBody fault) := sameWork_emit
  refine ⟨?_, ?_, ?_, ?_, fun hc ↦ absurd hc (cons_ne_nil _ _), Nat.zero_lt_succ _⟩
  · show List.filterMap _ (Gateway.emit _ g.closingBody fault).log = _
    rw [hlog, filterMap_append, filterMap_cons_none rfl,
      filterMap_cons_some (closing?_closingBody seq frame), filterMap_nil]
    rfl
  · show g.closingBody.events ++ [] ++ (Gateway.emit _ g.closingBody fault).events = _
    rw [hwork.events_eq, events_closingBody, append_nil]
  · rw [mem_singleton, closingBody]
    split_ifs with hevents
    · exact not_false
    · exact fun hc ↦ hevents (UpdateBody.delta.inj hc).symm
  · rw [inTick, if_pos hwork.phase_eq, inTick, hphase]
    exact Nat.le_refl _

/-- **What one step accrues**, in a run that stays healthy. -/
theorem accrues_step {label : GatewayLabel} (hstep : g.step label = some h)
    (hh : h.state = .healthy) : ∃ new, g.Accrues h (g.appends label) (ticks [label]) new := by
  have hin : ∀ {phase : TickPhase} {k : Gateway}, g.phase = phase → phase ≠ .idle →
      k.phase ≠ .idle → k.inTick = g.inTick := by
    intro phase k hphase hne hk
    rw [inTick, inTick, if_neg hk, if_neg (by rw [hphase]; exact hne)]
  cases steps_of_step hstep with
  | hookBefore | hookAfter | staysOutside | prologueThrew | heartbeatThrew | applyThrew
  | dispatchThrew | economyBefore | economyAfter => exact absurd hh state_transitionToDisabled
  | units | admin | requestDisable | requestSnapshot | submit =>
    exact ⟨[], .within rfl (append_nil _).symm rfl rfl hbound⟩
  | hookIgnored hwhy =>
    refine ⟨[], .within rfl ?_ rfl rfl hbound⟩
    rcases hwhy with hstate | hevent
    · simp [appends, hstate]
    · simp [appends, hevent]
  | hookAdds hstate hevent =>
    exact ⟨[], .within rfl (by simp [appends, addEvent, hstate, hevent]) rfl rfl hbound⟩
  | hookEmits hstate hevent =>
    refine ⟨[], .snapshot hh rfl ?_ rfl rfl hbound⟩
    simp [appends, startInitialSnapshot, addEvent, hstate, hevent]
  | beginTick hphase =>
    refine ⟨[], .calm rfl (append_nil _).symm rfl ?_ hbound⟩
    rw [inTick, inTick, if_pos hphase]
    rfl
  | prologue hphase | noInitialSnapshot hphase | heartbeat hphase | endAdmin hphase
  | endDrain hphase | noSnapshot hphase =>
    exact ⟨[], .within rfl (append_nil _).symm rfl (hin hphase nofun nofun) hbound⟩
  | initialSnapshot hphase => exact ⟨[], accrues_initialSnapshot hbound hphase hh⟩
  | applyEntry => exact ⟨[], .calm (closings_append rfl rfl) (append_nil _).symm rfl rfl hbound⟩
  | drain hphase =>
    exact ⟨[], .calm (closings_append rfl rfl) (append_nil _).symm rfl (hin hphase nofun nofun)
      hbound⟩
  | dispatchNext hphase =>
    refine ⟨[], .calm (closings_append rfl rfl) ?_ rfl (hin hphase nofun nofun) hbound⟩
    simp only [appends, hphase]
    rfl
  | pump hphase =>
    exact ⟨[], .snapshot hh rfl (append_nil _).symm rfl (hin hphase nofun nofun) hbound⟩
  | noEconomy hphase hwhy =>
    refine ⟨[], .within rfl ?_ rfl (hin hphase nofun nofun) hbound⟩
    rcases hwhy with hstate | hdue
    · simp [appends, hstate]
    · simp [appends, hdue]
  | economy hphase hstate hdue =>
    refine ⟨[], .within rfl ?_ rfl (hin hphase nofun nofun) hbound⟩
    simp [appends, addEvent, hstate, hdue]
  | noUpdate hphase hleft => exact ⟨[], accrues_noUpdate hbound hphase hleft⟩
  | flush hphase _ hmoved => exact ⟨[g.closingBody], accrues_flush hphase hmoved hh⟩

end Accrual

/-- **What a run accrues**, by induction on its labels. -/
theorem accrues_of_exec (config : GatewayConfig) {labels : List GatewayLabel} :
    ∀ {g : Gateway}, g.framesSinceLastFlush < kKeepAliveFrames →
      (machine config).exec g labels = some h → h.state = .healthy →
      ∃ new, g.Accrues h (g.appended labels) (ticks labels) new := by
  induction labels with
  | nil =>
    intro g hbound hrun hh
    cases hrun
    exact ⟨[], .within rfl (append_nil _).symm rfl rfl hbound⟩
  | cons label labels ih =>
    intro g hbound hrun hh
    obtain ⟨u, hu, hrest⟩ := (machine config).exec_cons_eq_some.1 hrun
    obtain ⟨new, hnew⟩ := accrues_step hbound hu (healthy_of_exec config hrest hh)
    obtain ⟨new', hnew'⟩ := ih hnew.bound hrest hh
    refine ⟨new ++ new', ?_⟩
    have hadded : g.appended (label :: labels) = g.appends label ++ u.appended labels := by
      rw [appended, show g.step label = some u from hu]
      rfl
    have hticks : ticks (label :: labels) = ticks [label] + ticks labels := by
      rw [ticks, ← singleton_append, countP_append]
      rfl
    rw [hadded, hticks]
    exact hnew.trans hnew'

/-- **Events are conserved.** In every run that ends healthy, the events of the published deltas
followed by the accumulator are the appended events in append order, and no published delta is
empty. In every stretch of the run that starts between ticks: if it has at most one tick, it does
not publish both a delta and a keep-alive; and if it ends between ticks after 30 ticks or more, it
publishes one of them. -/
theorem events_conserved (config : GatewayConfig) (labels : List GatewayLabel)
    (hrun : (machine config).exec (machine config).init labels = some h)
    (hhealthy : h.state = .healthy) :
    h.closings.flatMap UpdateBody.events ++ h.events = (machine config).init.appended labels ∧
    .delta [] ∉ h.closings ∧
    ∀ before stretch after g k, labels = before ++ stretch ++ after →
      (machine config).exec (machine config).init before = some g →
      (machine config).exec g stretch = some k → g.phase = .idle →
      ∃ new, k.closings = g.closings ++ new ∧
        (ticks stretch ≤ 1 → ¬(.keepalive ∈ new ∧ ∃ events, .delta events ∈ new)) ∧
        (k.phase = .idle → 30 ≤ ticks stretch → new ≠ []) := by
  have hstart : (machine config).init.framesSinceLastFlush < kKeepAliveFrames :=
    Nat.zero_lt_succ _
  obtain ⟨new, hnew⟩ := accrues_of_exec config hstart hrun hhealthy
  have hclosings : h.closings = new := hnew.closings
  refine ⟨?_, hclosings ▸ hnew.nonempty, ?_⟩
  · rw [hclosings]
    exact hnew.events
  rintro before stretch after g k rfl hbefore hstretch hidle
  have hafter : (machine config).exec k after = some h := by
    rwa [StepMachine.exec_append, StepMachine.exec_append, hbefore, bind_some, hstretch,
      bind_some] at hrun
  have hk : k.state = .healthy := healthy_of_exec config hafter hhealthy
  obtain ⟨_, hg⟩ := accrues_of_exec config hstart hbefore (healthy_of_exec config hstretch hk)
  obtain ⟨new, hnew⟩ := accrues_of_exec config hg.bound hstretch hk
  refine ⟨new, hnew.closings, fun hone ↦ ?_, fun hidle' hmany hnil ↦ ?_⟩
  · rintro ⟨hkeepalive, events, hdelta⟩
    have hle : new.length ≤ 1 := by
      have := hnew.once
      rw [inTick, inTick, if_pos hidle] at this
      omega
    obtain ⟨body, rfl⟩ := length_eq_one_iff.1
      (Nat.le_antisymm hle (length_pos_of_mem hkeepalive))
    rw [mem_singleton] at hkeepalive hdelta
    exact UpdateBody.noConfusion (hkeepalive.trans hdelta.symm)
  · have hquiet := hnew.quiet hnil
    have hbound := hnew.bound
    rw [inTick, inTick, if_pos hidle, if_pos hidle'] at hquiet
    rw [kKeepAliveFrames] at hbound
    omega

/-- A unit goes idle before a tick and another between two; the second tick is still to come. -/
def idleTwice : List GatewayLabel :=
  .hook (.unitIdle (some 7)) none none :: tickToDrain 0 none ++ tickFromDrain none none ++
    [.hook (.unitIdle (some 8)) none none]

theorem events_conserved_idleTwice :
    ∃ h, (machine standalone).exec (machine standalone).init idleTwice = some h ∧
      h.closings = [.delta [.unitIdle 7]] ∧ h.events = [.unitIdle 8] ∧
      (machine standalone).init.appended idleTwice = [.unitIdle 7, .unitIdle 8] :=
  ⟨_, rfl, rfl, rfl, (events_conserved standalone idleTwice rfl rfl).1.symm⟩

end Gateway

end HighBar.Module
