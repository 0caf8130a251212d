import HighBar.Module.GatewayEmission

/-!
# Update numbering

Every update gets the next number, and the ring relies on it: the numbers handed to `Push` should be
1, 2, 3 and so on, faults or not. An emitter spends its number before it serialises, so a fault in
between leaves a hole. The gateway is disabled then, and no later tick emits; but **the tick it
happens in goes on**, and a later emitter of the same tick hands over the number after the hole.

`handed_without_gap` holds for every run in which a number is lost only when the tick has nothing
more to emit (`KeepsNumbering`). The invariant says just that: the counter is the head of the ring,
or the gateway has left `Healthy` and nothing is left to emit.
-/

namespace HighBar.Module

open Grpc List

/-- The number handed to the ring, if the event is that. -/
def GatewayEvent.handedSeq? : GatewayEvent → Option ℕ
  | .handed seq => some seq
  | _ => none

namespace Gateway

variable {g h : Gateway} {body : UpdateBody} {fault : Option EmitFault}

/-- The numbers handed to `RingBuffer::Push` so far. -/
def handedSeqs (g : Gateway) : List ℕ := g.log.filterMap GatewayEvent.handedSeq?

/-- The numbers handed over are 1 up to the head of the ring, and the ring's keys have no hole. -/
structure Numbered (g : Gateway) : Prop where
  handedSeqs : g.handedSeqs = List.range' 1 g.ring.headSeq
  dense : g.ring.Dense

theorem Numbered.of_eq (hg : g.Numbered) (hring : h.ring = g.ring)
    (hlog : h.handedSeqs = g.handedSeqs) : h.Numbered := by
  refine ⟨?_, ?_⟩
  · rw [hlog, hring]
    exact hg.handedSeqs
  · rw [hring]
    exact hg.dense

theorem handedSeq?_transitionMark : g.transitionMark.filterMap GatewayEvent.handedSeq? = [] := by
  rw [transitionMark]
  split_ifs
  · rfl
  · rfl

theorem handedSeq?_publishMarks :
    (g.publishMarks body fault).filterMap GatewayEvent.handedSeq? = [] := by
  rw [publishMarks, filterMap_append, append_eq_nil_iff]
  refine ⟨?_, ?_⟩
  · split_ifs
    · rfl
    · rfl
  · split_ifs
    · exact handedSeq?_transitionMark
    · rfl

@[simp] theorem handedSeqs_transitionToDisabled :
    g.transitionToDisabled.handedSeqs = g.handedSeqs := by
  rw [Gateway.handedSeqs, log_transitionToDisabled, filterMap_append,
    handedSeq?_transitionMark, append_nil]
  rfl

/-- Disabling hands no number. -/
theorem Numbered.transitionToDisabled (hg : g.Numbered) : g.transitionToDisabled.Numbered :=
  hg.of_eq ring_transitionToDisabled handedSeqs_transitionToDisabled

/-- The next number is handed over. -/
theorem Numbered.pushAndPublish (body : UpdateBody) (fault : Option EmitFault) (hg : g.Numbered)
    (hseq : g.seq = g.ring.headSeq + 1) (hroom : g.ring.headSeq + 1 < 2 ^ 64) :
    (g.pushAndPublish body fault).Numbered ∧
      (g.pushAndPublish body fault).seq = (g.pushAndPublish body fault).ring.headSeq := by
  obtain ⟨ring, hpush⟩ : ∃ ring, g.ring.push g.seq ⟨g.seq, g.frameForWire, body⟩ = .ok ring :=
    RingBuffer.exists_push_ok _ (by omega)
  obtain ⟨hs, hr, hlog⟩ := pushAndPublish_of_ok body fault hpush
  have hhead : ring.headSeq = g.ring.headSeq + 1 := by
    obtain ⟨-, -, -, -, -, hhead⟩ := RingBuffer.push_eq_ok hpush
    rw [hhead, hseq]
  refine ⟨⟨?_, ?_⟩, ?_⟩
  · have hold : List.filterMap GatewayEvent.handedSeq? g.log = List.range' 1 g.ring.headSeq :=
      hg.handedSeqs
    rw [Gateway.handedSeqs, hlog, hr, filterMap_append, hold, filterMap_cons,
      handedSeq?_publishMarks, hhead, range'_concat, hseq]
    simp [GatewayEvent.handedSeq?, Nat.add_comm]
  · rw [hr]
    rw [hseq] at hpush
    exact hg.dense.push hpush hroom
  · rw [hs, hr, hhead, hseq]

/-- One emission: the numbering goes on, or one number is lost and the gateway is disabled. -/
theorem Numbered.emit (body : UpdateBody) (fault : Option EmitFault) (hg : g.Numbered)
    (hseq : g.seq = g.ring.headSeq)
    (hroom : fault ≠ some .numbering → g.seq + 1 < 2 ^ 64) :
    (g.emit body fault).Numbered ∧
      ((g.emit body fault).seq = (g.emit body fault).ring.headSeq ∨
        skipsNumber fault ∧ (g.emit body fault).state ≠ .healthy) := by
  rcases emit_cases g body fault with ⟨-, heq⟩ | ⟨hskip, heq⟩ | ⟨hnum, -, heq⟩
  · rw [heq]
    refine ⟨hg.transitionToDisabled, Or.inl ?_⟩
    rw [seq_transitionToDisabled, ring_transitionToDisabled, hseq]
  · rw [heq]
    exact ⟨(hg.of_eq rfl rfl : g.bumpSeq.Numbered).transitionToDisabled,
      Or.inr ⟨hskip, state_transitionToDisabled⟩⟩
  · have hlt : g.ring.headSeq + 1 < 2 ^ 64 := hseq ▸ hroom hnum
    have hbump : g.bumpSeq.seq = g.bumpSeq.ring.headSeq + 1 := by
      show wrapAdd 64 g.seq 1 = g.ring.headSeq + 1
      rw [hseq, wrapAdd_of_lt hlt]
    rw [heq]
    obtain ⟨hnum, hs⟩ := (hg.of_eq rfl rfl : g.bumpSeq.Numbered).pushAndPublish body fault hbump hlt
    exact ⟨hnum, Or.inl hs⟩

/-! ### The invariant -/

/-- A number is lost only by a gateway that has left `Healthy` with nothing left to emit. -/
structure NumberingInv (g : Gateway) : Prop where
  numbered : g.Numbered
  lost : g.seq = g.ring.headSeq ∨ g.state ≠ .healthy ∧ g.emissionLeft = false

/-- In health the counter is the head of the ring. -/
theorem NumberingInv.seq_eq_of_healthy (hg : g.NumberingInv) (hstate : g.state = .healthy) :
    g.seq = g.ring.headSeq :=
  hg.lost.resolve_right fun hc ↦ hc.1 hstate

/-- And so it is wherever an emission is left. -/
theorem NumberingInv.seq_eq_of_left (hg : g.NumberingInv) (hleft : g.emissionLeft = true) :
    g.seq = g.ring.headSeq :=
  hg.lost.resolve_right fun hc ↦ Bool.false_ne_true (hc.2.symm.trans hleft)

/-- A step without an emission: after a loss it must leave nothing to emit. -/
theorem NumberingInv.calm (hg : g.NumberingInv) (hring : h.ring = g.ring) (hseq : h.seq = g.seq)
    (hlog : h.handedSeqs = g.handedSeqs)
    (hlost : g.state ≠ .healthy → g.emissionLeft = false →
      h.state ≠ .healthy ∧ h.emissionLeft = false) : h.NumberingInv where
  numbered := hg.numbered.of_eq hring hlog
  lost := by
    rw [hring, hseq]
    exact hg.lost.imp_right fun hc ↦ hlost hc.1 hc.2

/-- A step without an emission at a place where no number is lost. -/
theorem NumberingInv.calm_of_seq_eq (hg : g.NumberingInv) (hhead : g.seq = g.ring.headSeq)
    (hring : h.ring = g.ring) (hseq : h.seq = g.seq) (hlog : h.handedSeqs = g.handedSeqs) :
    h.NumberingInv :=
  ⟨hg.numbered.of_eq hring hlog, Or.inl (by rw [hring, hseq, hhead])⟩

/-- The condition on an emission: the counter does not overflow, and a number is lost only if no
update follows in the same tick. -/
def EmitAllowed (g : Gateway) (fault : Option EmitFault) (left : Bool) : Prop :=
  (fault ≠ some .numbering → g.seq + 1 < 2 ^ 64) ∧ (skipsNumber fault = true → left = false)

instance (g : Gateway) (fault : Option EmitFault) (left : Bool) :
    Decidable (g.EmitAllowed fault left) :=
  inferInstanceAs (Decidable ((_ → _) ∧ (_ → _)))

/-- A step with an emission from `k`, which has the numbers of `g`, to `h`, which has those of the
emission. -/
theorem NumberingInv.emit {k : Gateway} {left : Bool} (hg : g.NumberingInv)
    (hhead : g.seq = g.ring.headSeq) (hallowed : g.EmitAllowed fault left)
    (hring : k.ring = g.ring) (hseq : k.seq = g.seq) (hlog : k.handedSeqs = g.handedSeqs)
    (hh : h.ring = (k.emit body fault).ring ∧ h.seq = (k.emit body fault).seq ∧
      h.handedSeqs = (k.emit body fault).handedSeqs ∧ h.state = (k.emit body fault).state)
    (hleft : left = false → h.emissionLeft = false) : h.NumberingInv := by
  obtain ⟨hnum, hlost⟩ := (hg.numbered.of_eq hring hlog).emit body fault
    (by rw [hring, hseq, hhead]) (by rw [hseq]; exact hallowed.1)
  obtain ⟨hr, hs, hl, hstate⟩ := hh
  refine ⟨hnum.of_eq hr hl, ?_⟩
  rw [hr, hs, hstate]
  exact hlost.imp_right fun hc ↦ ⟨hc.2, hleft (hallowed.2 hc.1)⟩

theorem numberingInv_create (config : GatewayConfig) : (create config).NumberingInv :=
  ⟨⟨rfl, RingBuffer.dense_empty _ _⟩, Or.inl rfl⟩

/-! ### The steps -/

/-- The condition on a step. -/
def KeepsNumbering (g : Gateway) : GatewayLabel → Prop
  | .hook hook fault emitFault =>
    -- the event of the hook is left for the end of a tick
    g.hookEmits hook fault → g.EmitAllowed emitFault (decide (g.phase ≠ .idle))
  | .initialSnapshot fault => g.initialSnapshotDue → g.EmitAllowed fault g.emissionAfterAdmin
  | .pump fault => g.snapshotDue → g.EmitAllowed fault g.flushLeft
  | .flush fault => g.flushLeft → g.EmitAllowed fault false
  | .submit _ | .requestSnapshot => g.seq = g.ring.headSeq ∨ g.phase = .idle
  | _ => True

instance (g : Gateway) : ∀ label, Decidable (g.KeepsNumbering label)
  | .hook .. | .initialSnapshot _ | .pump _ | .flush _ => inferInstanceAs (Decidable (_ → _))
  | .submit _ | .requestSnapshot => inferInstanceAs (Decidable (_ ∨ _))
  | .units _ | .beginTick _ | .prologue _ | .heartbeat _ | .admin _ | .applyEntry _ | .endAdmin
  | .drain | .dispatchNext _ | .endDrain | .economy .. | .requestDisable =>
    inferInstanceAs (Decidable True)

/-- A log entry that hands nothing to the ring. -/
theorem handedSeqs_record {event : GatewayEvent} (hevent : event.handedSeq? = none) :
    (g.record event).handedSeqs = g.handedSeqs := by
  show List.filterMap _ (g.log ++ [event]) = _
  rw [filterMap_append, filterMap_cons_none hevent, filterMap_nil, append_nil]
  rfl

/-- **One step keeps the numbering**, if a number is lost only where nothing follows. -/
theorem numberingInv_step {label : GatewayLabel} (hg : g.NumberingInv)
    (hkeeps : g.KeepsNumbering label) (hstep : Steps g label h) : h.NumberingInv := by
  cases hstep with
  | units | admin | requestDisable => exact hg.calm rfl rfl rfl fun hstate hleft ↦ ⟨hstate, hleft⟩
  | hookIgnored => exact hg
  | hookAdds hstate | beginTick _ hstate | economy _ hstate =>
    exact hg.calm_of_seq_eq (hg.seq_eq_of_healthy hstate) rfl rfl rfl
  | hookBefore hstate | hookAfter hstate | economyBefore _ hstate | economyAfter _ hstate =>
    exact hg.calm_of_seq_eq (hg.seq_eq_of_healthy hstate) ring_transitionToDisabled
      seq_transitionToDisabled handedSeqs_transitionToDisabled
  | @hookEmits _ event _ hstate _ hemits =>
    refine hg.emit (k := (g.addEvent event).startInitialSnapshot) (hg.seq_eq_of_healthy hstate)
      (hkeeps hemits) rfl rfl rfl ⟨rfl, rfl, rfl, rfl⟩ fun hidle ↦ ?_
    rw [sameWork_emit.emissionLeft_eq]
    simp only [decide_eq_false_iff_not, not_not] at hidle
    simp only [emissionLeft, addEvent, startInitialSnapshot, hidle]
  | staysOutside hphase =>
    refine hg.calm ring_transitionToDisabled seq_transitionToDisabled
      handedSeqs_transitionToDisabled fun _ _ ↦ ⟨state_transitionToDisabled, ?_⟩
    rw [sameWork_transitionToDisabled.emissionLeft_eq]
    simp only [emissionLeft, hphase]
  | prologueThrew | heartbeatThrew =>
    exact hg.calm ring_transitionToDisabled seq_transitionToDisabled
      handedSeqs_transitionToDisabled fun _ _ ↦ ⟨state_transitionToDisabled, rfl⟩
  | prologue hphase | noInitialSnapshot hphase =>
    exact hg.calm_of_seq_eq (hg.seq_eq_of_left (by simp only [emissionLeft, hphase])) rfl rfl rfl
  | initialSnapshot hphase hdue =>
    refine hg.emit (k := g.startInitialSnapshot)
      (hg.seq_eq_of_left (by simp only [emissionLeft, hphase])) (hkeeps hdue) rfl rfl rfl
      ⟨rfl, rfl, rfl, rfl⟩ fun hleft ↦ ?_
    rw [sameWork_emit]
    exact hleft
  | heartbeat hphase | endAdmin hphase | noEconomy hphase =>
    refine hg.calm rfl rfl rfl fun hstate hleft ↦ ⟨hstate, ?_⟩
    simp only [emissionLeft, hphase] at hleft
    exact hleft
  | applyEntry =>
    exact hg.calm rfl rfl (handedSeqs_record rfl) fun hstate hleft ↦ ⟨hstate, hleft⟩
  | applyThrew =>
    exact hg.calm ring_transitionToDisabled seq_transitionToDisabled
      (handedSeqs_transitionToDisabled.trans (handedSeqs_record rfl))
      fun _ _ ↦ ⟨state_transitionToDisabled, rfl⟩
  | drain hphase =>
    refine hg.calm rfl rfl (handedSeqs_record rfl) fun hstate hleft ↦ ⟨hstate, ?_⟩
    simp only [emissionLeft, hphase] at hleft
    exact hleft
  | dispatchNext hphase =>
    exact hg.calm_of_seq_eq (hg.seq_eq_of_left (by simp [emissionLeft, hphase])) rfl rfl
      (handedSeqs_record rfl)
  | dispatchThrew hphase =>
    exact hg.calm_of_seq_eq (hg.seq_eq_of_left (by simp [emissionLeft, hphase]))
      ring_transitionToDisabled seq_transitionToDisabled
      (handedSeqs_transitionToDisabled.trans (handedSeqs_record rfl))
  | endDrain hphase =>
    refine hg.calm rfl rfl rfl fun hstate hleft ↦ ⟨hstate, ?_⟩
    simp only [emissionLeft, hphase, isEmpty_nil, Bool.not_true, Bool.or_false] at hleft
    exact hleft
  | noSnapshot hphase hdue =>
    refine hg.calm rfl rfl rfl fun hstate hleft ↦ ⟨hstate, ?_⟩
    simp only [emissionLeft, hphase, hdue, Bool.false_or] at hleft
    exact hleft
  | pump hphase hdue =>
    have hhead := hg.seq_eq_of_left (by simp only [emissionLeft, hphase, hdue, Bool.true_or])
    refine hg.emit (k := g.pumped) hhead (hkeeps hdue) rfl rfl rfl ⟨rfl, rfl, rfl, rfl⟩
      fun hleft ↦ ?_
    rw [sameWork_emit.emissionLeft_eq]
    exact hleft
  | noUpdate => exact hg.calm rfl rfl rfl fun hstate _ ↦ ⟨hstate, rfl⟩
  | @flush hphase hleft events =>
    refine hg.emit (k := { g with phase := .idle, events := events })
      (hg.seq_eq_of_left (by simp only [emissionLeft, hphase, hleft])) (hkeeps hleft) rfl rfl rfl
      ⟨rfl, rfl, rfl, rfl⟩ fun _ ↦ ?_
    rw [sameWork_emit]
    rfl
  | requestSnapshot | submit =>
    rcases hkeeps with hhead | hidle
    · exact hg.calm_of_seq_eq hhead rfl rfl rfl
    · exact hg.calm rfl rfl rfl fun hstate _ ↦ ⟨hstate, by simp only [emissionLeft, hidle]⟩

/-- **The numbers handed to the ring are 1, 2, 3 and so on**, and the ring's keys have no hole, in
every run in which a number is lost only where the tick emits nothing more. -/
theorem handed_without_gap (config : GatewayConfig) {labels : List GatewayLabel}
    (hmeets : (machine config).Meets KeepsNumbering (machine config).init labels)
    (hrun : (machine config).exec (machine config).init labels = some h) :
    h.handedSeqs = List.range' 1 h.handedSeqs.length ∧ h.ring.Dense := by
  have hinv : h.NumberingInv := StepMachine.invariant_of_meets (I := NumberingInv)
    (fun _ _ _ hg hkeeps hstep ↦ numberingInv_step hg hkeeps (steps_of_step hstep))
    (numberingInv_create config) hmeets hrun
  refine ⟨?_, hinv.numbered.dense⟩
  rw [hinv.numbered.handedSeqs, length_range']

/-- A gateway whose snapshots are due from frame 1 on. -/
def everyFrame : GatewayConfig :=
  { standalone with snapshotTick := { snapshotCadenceFrames := 1 } }

/-- A unit goes idle, and a tick follows in which only the two emitters may fault. -/
def idleThenTick (lastFrame : ℤ) (pumpFault flushFault : Option EmitFault) : List GatewayLabel :=
  .hook (.unitIdle (some 7)) none none :: tickToDrain lastFrame none ++
    tickFromDrain pumpFault flushFault

/-- The last emitter of a tick may lose its number: nothing follows. -/
theorem handed_without_gap_lostAtEnd :
    ∃ h, (machine everyFrame).exec (machine everyFrame).init
        (idleThenTick 0 none none ++ idleThenTick 1 none (some .serializing)) = some h ∧
      h.handedSeqs = [1, 2] ∧ h.seq = 3 ∧ h.ring.Dense := by
  have hmeets : (machine everyFrame).Meets KeepsNumbering (machine everyFrame).init
      (idleThenTick 0 none none ++ idleThenTick 1 none (some .serializing)) := by
    decide
  exact ⟨_, rfl, by decide, by decide, (handed_without_gap everyFrame hmeets rfl).2⟩

/-- **A hole in the numbering**: the snapshot loses the number 2, and the delta of the same tick is
handed over as 3. -/
theorem handed_with_gap :
    ∃ h, (machine everyFrame).exec (machine everyFrame).init
        (idleThenTick 0 none none ++ idleThenTick 1 (some .serializing) none) = some h ∧
      h.handedSeqs = [1, 3] ∧ ¬h.ring.Dense := by
  refine ⟨_, rfl, by decide, fun hdense ↦ ?_⟩
  exact absurd hdense.seqs (by decide)

end Gateway

end HighBar.Module
