import HighBar.Client.Turtle

/-!
# Builders are reserved

What one update of the policy does (`Handled`): the batches it returns are numbered consecutively,
there are few enough of them, each is for a ready unit, and no builder gets two build orders. An
intent stays recorded until the update **releases** it, and a builder whose intent is recorded gets
no order; a new intent is recorded together with the order that is returned.

Nothing that is reserved is lost when the list of batches is cut: the loop stops before the list is
too long, so the cut removes nothing as long as an update may return at least one batch.

The laws of whole runs follow: for every build order of the past, its intent is still recorded or it
has been released since (`RunInv.releasedOrPending`).
-/

namespace HighBar.Client.Turtle

open List Option

/-! ### Releases -/

/-- The two intents are for the same order. The unit that was created for it may be known to one of
them only. -/
structure SameOrder (intent intent' : BuildIntent) : Prop where
  builder : intent'.builderUnitId = intent.builderUnitId
  target : intent'.targetDefId = intent.targetDefId
  frame : intent'.issuedFrame = intent.issuedFrame

theorem SameOrder.refl (intent : BuildIntent) : SameOrder intent intent := ⟨rfl, rfl, rfl⟩

theorem SameOrder.trans {i j k : BuildIntent} (h : SameOrder i j) (h' : SameOrder j k) :
    SameOrder i k :=
  ⟨h'.builder.trans h.builder, h'.target.trans h.target, h'.frame.trans h.frame⟩

/-- The events of an update. -/
def Input.events (input : Input) : List (Option DeltaEvent) :=
  match input.payload with
  | .delta events => events
  | .snapshot _ | .keepalive => []

/-- The update has an event that the unit is idle. -/
def Input.Idles (input : Input) (unitId : ℤ) : Prop := some (.unitIdle unitId) ∈ input.events

/-- The snapshot of the update shows the unit without health. -/
def Input.ShowsDead (input : Input) (unitId : ℤ) : Prop :=
  ∃ snapshot, input.payload = .snapshot snapshot ∧
    ∃ unit ∈ snapshot.ownUnits, (unit.unitId : ℤ) = unitId ∧ unit.health.le .zero = true

/-- The snapshot of the update is from so late a frame that the order is given up. -/
def Input.TimesOut (cfg : Config) (input : Input) (issuedFrame : ℤ) : Prop :=
  ∃ frame, input.snapshotFrame = some frame ∧ issuedFrame + cfg.buildOrderTimeoutFrames ≤ frame

/-- The update ends the reservation of a builder whose order was issued at the frame. -/
def Input.Releases (cfg : Config) (input : Input) (builderId issuedFrame : ℤ) : Prop :=
  input.Idles builderId ∨ input.ShowsDead builderId ∨ input.TimesOut cfg issuedFrame

variable {builderId : ℤ} {targetDefId : ℤ} {category : Category} {result : List Batch × State}
  {snapshot : Snapshot}

/-- Dropping an intent frees its builder alone. -/
theorem mem_dropIntent {intents : List BuildIntent} {intent : BuildIntent} :
    intent ∈ dropIntent builderId intents ↔
      intent ∈ intents ∧ intent.builderUnitId ≠ builderId := by
  rw [dropIntent, mem_filter, decide_eq_true_eq]

/-- One event keeps an intent, unless it is that the builder is idle. -/
theorem exists_mem_observeEvent {intents : List BuildIntent} {intent : BuildIntent}
    (hintent : intent ∈ intents) (event : Option DeltaEvent) :
    event = some (.unitIdle intent.builderUnitId) ∨
      ∃ intent' ∈ observeEvent intents event, SameOrder intent intent' := by
  fun_cases observeEvent intents event with
  | case1 unitId =>
    by_cases hid : intent.builderUnitId = unitId
    · exact .inl (by rw [hid])
    · exact .inr ⟨intent, mem_dropIntent.2 ⟨hintent, hid⟩, .refl _⟩
  | case2 unitId builderId =>
    refine .inr ⟨_, mem_map_of_mem hintent, ?_⟩
    split
    · exact ⟨rfl, rfl, rfl⟩
    · exact .refl _
  | case3 => exact .inr ⟨intent, hintent, .refl _⟩

theorem exists_of_mem_observeEvent {intents : List BuildIntent} {event : Option DeltaEvent}
    {intent' : BuildIntent} (hintent : intent' ∈ observeEvent intents event) :
    ∃ intent ∈ intents, SameOrder intent intent' := by
  revert hintent
  fun_cases observeEvent intents event with
  | case1 unitId => exact fun h ↦ ⟨intent', (mem_dropIntent.1 h).1, .refl _⟩
  | case2 unitId builderId =>
    intro h
    obtain ⟨intent, hmem, rfl⟩ := mem_map.1 h
    refine ⟨intent, hmem, ?_⟩
    split
    · exact ⟨rfl, rfl, rfl⟩
    · exact .refl _
  | case3 => exact fun h ↦ ⟨intent', h, .refl _⟩

/-- The events of an update keep an intent, unless one is that the builder is idle. -/
theorem exists_mem_foldl_observeEvent {events : List (Option DeltaEvent)} :
    ∀ {intents : List BuildIntent} {intent : BuildIntent}, intent ∈ intents →
      some (.unitIdle intent.builderUnitId) ∈ events ∨
        ∃ intent' ∈ events.foldl observeEvent intents, SameOrder intent intent' := by
  induction events with
  | nil => exact fun h ↦ .inr ⟨_, h, .refl _⟩
  | cons event events ih =>
    intro intents intent hintent
    rcases exists_mem_observeEvent hintent event with rfl | ⟨intent₁, hmem₁, hsame₁⟩
    · exact .inl (mem_cons_self ..)
    · rcases ih hmem₁ with hidle | ⟨intent₂, hmem₂, hsame₂⟩
      · rw [hsame₁.builder] at hidle
        exact .inl (mem_cons_of_mem _ hidle)
      · exact .inr ⟨intent₂, hmem₂, hsame₁.trans hsame₂⟩

theorem exists_of_mem_foldl_observeEvent {events : List (Option DeltaEvent)} :
    ∀ {intents : List BuildIntent} {intent' : BuildIntent},
      intent' ∈ events.foldl observeEvent intents →
        ∃ intent ∈ intents, SameOrder intent intent' := by
  induction events with
  | nil => exact fun h ↦ ⟨_, h, .refl _⟩
  | cons event events ih =>
    intro intents intent' hintent
    obtain ⟨intent₁, hmem₁, hsame₁⟩ := ih hintent
    obtain ⟨intent, hmem, hsame⟩ := exists_of_mem_observeEvent hmem₁
    exact ⟨intent, hmem, hsame.trans hsame₁⟩

/-- What `_observe_update` and `_refresh_pending_builds` do to the intents: each is kept or
released, and there are no new ones. -/
structure Settles (cfg : Config) (input : Input) (s s' : State) : Prop where
  seq : s'.batchSeq = s.batchSeq
  kept : ∀ intent ∈ s.pendingBuilds,
    input.Releases cfg intent.builderUnitId intent.issuedFrame ∨
      ∃ intent' ∈ s'.pendingBuilds, SameOrder intent intent'
  origin : ∀ intent' ∈ s'.pendingBuilds, ∃ intent ∈ s.pendingBuilds, SameOrder intent intent'

variable {cfg : Config} {input : Input} {s s' s'' : State}

theorem Settles.refl (s : State) : Settles cfg input s s :=
  ⟨rfl, fun intent h ↦ .inr ⟨intent, h, .refl _⟩, fun intent h ↦ ⟨intent, h, .refl _⟩⟩

/-- Two settlings, one after the other. -/
theorem Settles.trans (h : Settles cfg input s s') (h' : Settles cfg input s' s'') :
    Settles cfg input s s'' where
  seq := h'.seq.trans h.seq
  kept := by
    intro intent hintent
    rcases h.kept intent hintent with hreleased | ⟨intent₁, hmem₁, hsame₁⟩
    · exact .inl hreleased
    · rcases h'.kept intent₁ hmem₁ with hreleased | ⟨intent₂, hmem₂, hsame₂⟩
      · rw [hsame₁.builder, hsame₁.frame] at hreleased
        exact .inl hreleased
      · exact .inr ⟨intent₂, hmem₂, hsame₁.trans hsame₂⟩
  origin := by
    intro intent₂ hmem₂
    obtain ⟨intent₁, hmem₁, hsame₁⟩ := h'.origin intent₂ hmem₂
    obtain ⟨intent, hmem, hsame⟩ := h.origin intent₁ hmem₁
    exact ⟨intent, hmem, hsame.trans hsame₁⟩

/-- Events of an update settle intents and add none. -/
theorem settles_observeUpdate (cfg : Config) (input : Input) (s : State) :
    Settles cfg input s (observeUpdate input s) := by
  rcases hpayload : input.payload with snapshot | events | -
  · simp only [observeUpdate, hpayload]
    exact .refl s
  · simp only [observeUpdate, hpayload]
    split
    · exact .refl s
    · refine ⟨rfl, fun intent hintent ↦ ?_, fun intent' ↦ exists_of_mem_foldl_observeEvent⟩
      refine (exists_mem_foldl_observeEvent hintent).imp_left fun hidle ↦ .inl ?_
      simpa only [Input.Idles, Input.events, hpayload] using hidle
  · simp only [observeUpdate, hpayload]
    exact .refl s

theorem Snapshot.exists_of_showsDead {unitId : ℤ} (h : snapshot.showsDead unitId = true) :
    ∃ unit ∈ snapshot.ownUnits, (unit.unitId : ℤ) = unitId ∧ unit.health.le .zero = true := by
  rw [Snapshot.showsDead, Option.any_eq_true] at h
  obtain ⟨unit, hfind, hdead⟩ := h
  have hid := find?_some hfind
  exact ⟨unit, mem_reverse.1 (mem_of_find?_eq_some hfind), of_decide_eq_true hid, hdead⟩

/-- A snapshot settles intents and adds none. -/
theorem settles_refreshPendingBuilds {frame : ℤ} (hpayload : input.payload = .snapshot snapshot)
    (hframe : input.snapshotFrame = some frame) (s : State) :
    Settles cfg input s (refreshPendingBuilds cfg snapshot frame s) := by
  rw [refreshPendingBuilds]
  split
  · exact .refl s
  · refine ⟨rfl, fun intent hintent ↦ ?_, fun intent' hintent' ↦ ?_⟩
    · by_cases hdead : snapshot.showsDead intent.builderUnitId = true
      · exact .inl (.inr (.inl ⟨snapshot, hpayload, Snapshot.exists_of_showsDead hdead⟩))
      · by_cases hold : intent.issuedFrame + cfg.buildOrderTimeoutFrames ≤ frame
        · exact .inl (.inr (.inr ⟨frame, hframe, hold⟩))
        · refine .inr ⟨intent, mem_filter.2 ⟨hintent, ?_⟩, .refl _⟩
          simp only [Bool.not_eq_true] at hdead
          simp only [hdead, hold, decide_false, Bool.or_self, Bool.not_false]
    · exact ⟨intent', mem_of_mem_filter hintent', .refl _⟩

/-! ### Orders -/

/-- The part of the state that the laws are about is the same. -/
structure SameBooks (s s' : State) : Prop where
  seq : s'.batchSeq = s.batchSeq
  pending : s'.pendingBuilds = s.pendingBuilds

theorem SameBooks.settles (h : SameBooks s s') : Settles cfg input s s' :=
  ⟨h.seq, fun intent hmem ↦ .inr ⟨intent, h.pending ▸ hmem, .refl _⟩,
    fun intent hmem ↦ ⟨intent, h.pending ▸ hmem, .refl _⟩⟩

theorem sameBooks_resolveDefs (cfg : Config) (input : Input) (s : State) :
    SameBooks s (resolveDefs cfg input s) := by
  rw [resolveDefs]
  split
  · exact ⟨rfl, rfl⟩
  · split
    · exact ⟨rfl, rfl⟩
    · exact ⟨rfl, rfl⟩

theorem sameBooks_buildOptionsForUnit (input : Input) (unit : Reset.OwnUnit) (s : State) :
    SameBooks s (buildOptionsForUnit input unit s).2 := by
  rw [buildOptionsForUnit]
  split
  · exact ⟨rfl, rfl⟩
  · exact ⟨rfl, rfl⟩

theorem sameBooks_macroPlan (cfg : Config) (snapshot : Snapshot) (s : State) :
    SameBooks s (macroPlan cfg snapshot s).2 := by
  have harmy : ∀ s, SameBooks s (rotatedArmyNames cfg s).2 := by
    intro s
    rw [rotatedArmyNames]
    split
    · exact ⟨rfl, rfl⟩
    · exact ⟨rfl, rfl⟩
  have hadvanced : ∀ s, SameBooks s (rotatedAdvancedArmyNames cfg s).2 := by
    intro s
    rw [rotatedAdvancedArmyNames]
    split
    · exact ⟨rfl, rfl⟩
    · exact ⟨rfl, rfl⟩
  simp only [macroPlan]
  split
  · split
    · exact ⟨(hadvanced _).seq.trans (harmy s).seq, (hadvanced _).pending.trans (harmy s).pending⟩
    · exact harmy s
  · exact ⟨rfl, rfl⟩

/-- A builder is free exactly if no intent is for it. -/
theorem State.isPending_eq_false_iff :
    s.isPending builderId = false ↔
      ∀ intent ∈ s.pendingBuilds, intent.builderUnitId ≠ builderId := by
  simp only [State.isPending, List.any_eq_false, decide_eq_true_eq]

/-- A builder that is found is ready and has no order, from this update or an earlier one. -/
theorem findBuilder_spec {assigned : List ℤ} :
    ∀ {ready : List Reset.OwnUnit} {s : State} {result : Option Reset.OwnUnit × State},
      findBuilder cfg input targetDefId category assigned ready s = result →
        SameBooks s result.2 ∧ ∀ unit ∈ result.1, unit ∈ ready ∧ (unit.unitId : ℤ) ∉ assigned ∧
          (cfg.queueMacroOrders = false → s.isPending unit.unitId = false) := by
  intro ready
  induction ready with
  | nil =>
    rintro s _ rfl
    exact ⟨⟨rfl, rfl⟩, fun unit hunit ↦ nomatch hunit⟩
  | cons unit rest ih =>
    rintro s _ rfl
    rw [findBuilder]
    split
    · obtain ⟨hbooks, hfound⟩ := ih rfl
      refine ⟨hbooks, fun found hunit ↦ ?_⟩
      obtain ⟨hmem, hrest⟩ := hfound found hunit
      exact ⟨mem_cons_of_mem _ hmem, hrest⟩
    · rename_i hfree
      simp only [Bool.or_eq_true, not_or, contains_iff_mem, Bool.and_eq_true, not_and,
        Bool.not_eq_true', Bool.not_eq_true] at hfree
      have hbooks := sameBooks_buildOptionsForUnit input unit s
      dsimp only
      split
      · refine ⟨hbooks, fun found hunit ↦ ?_⟩
        cases hunit
        exact ⟨mem_cons_self .., hfree⟩
      · obtain ⟨hbooks', hfound⟩ := ih (s := (buildOptionsForUnit input unit s).2) rfl
        refine ⟨⟨hbooks'.seq.trans hbooks.seq, hbooks'.pending.trans hbooks.pending⟩, ?_⟩
        intro found hunit
        obtain ⟨hmem, hassigned, hpending⟩ := hfound found hunit
        refine ⟨mem_cons_of_mem _ hmem, hassigned, fun hqueue ↦ ?_⟩
        rw [State.isPending_eq_false_iff, ← hbooks.pending, ← State.isPending_eq_false_iff]
        exact hpending hqueue

/-- The batch carries the order of the intent. -/
def Batch.Carries (batch : Batch) (intent : BuildIntent) : Prop :=
  (batch.targetUnit : ℤ) = intent.builderUnitId ∧
    ∃ position, Order.build intent.targetDefId position ∈ batch.orders

theorem Batch.mem_builders {batch : Batch} (h : batch.isBuild = true) :
    batch.targetUnit ∈ batch.builders := by
  obtain ⟨order, horder, hbuild⟩ := any_eq_true.1 h
  exact mem_map.2 ⟨order, mem_filter.2 ⟨horder, hbuild⟩, rfl⟩

/-- What is known of the batches so far, in an update that started with the number `start` and the
intents `old`. -/
structure MacroInv (cfg : Config) (ready : List Reset.OwnUnit) (frame : ℤ) (start : ℕ)
    (old : List BuildIntent) (m : MacroState) : Prop where
  seqs : m.batches.map Batch.batchSeq = List.range' start m.batches.length
  next : m.state.batchSeq = start + m.batches.length
  count : (m.batches.length : ℤ) ≤ cfg.maxBatchesPerUpdate
  ready : ∀ batch ∈ m.batches, ∃ unit ∈ ready, unit.unitId = batch.targetUnit
  builders : (m.batches.flatMap Batch.builders).map Nat.cast = m.assigned.reverse
  nodup : m.assigned.Nodup
  origin : ∀ intent ∈ m.state.pendingBuilds, intent ∈ old ∨
    ∃ batch ∈ m.batches, batch.Carries intent ∧ intent.issuedFrame = frame
  kept : cfg.queueMacroOrders = false → ∀ intent ∈ old,
    intent ∈ m.state.pendingBuilds ∧ intent.builderUnitId ∉ m.assigned
  reserved : cfg.queueMacroOrders = false → ∀ builderId ∈ m.assigned,
    ∃ intent ∈ m.state.pendingBuilds, intent.builderUnitId = builderId ∧ intent.issuedFrame = frame

variable {ready : List Reset.OwnUnit} {frame : ℤ} {start : ℕ} {old : List BuildIntent}
  {m m' : MacroState}

theorem MacroInv.of_sameBooks (h : MacroInv cfg ready frame start old m)
    (hbooks : SameBooks m.state s) : MacroInv cfg ready frame start old { m with state := s } where
  seqs := h.seqs
  next := hbooks.seq.trans h.next
  count := h.count
  ready := h.ready
  builders := h.builders
  nodup := h.nodup
  origin := fun intent hmem ↦ h.origin intent (hbooks.pending ▸ hmem)
  kept := fun hqueue intent hmem ↦ by
    obtain ⟨hpending, hassigned⟩ := h.kept hqueue intent hmem
    exact ⟨hbooks.pending ▸ hpending, hassigned⟩
  reserved := fun hqueue builderId hmem ↦ by
    obtain ⟨intent, hpending, hintent⟩ := h.reserved hqueue builderId hmem
    exact ⟨intent, hbooks.pending ▸ hpending, hintent⟩

/-- What an order changes. -/
theorem orderBuild_eq_some {targetName : String} {builder : Reset.OwnUnit}
    (h : orderBuild cfg input frame category targetName targetDefId builder m = some m') :
    ∃ batch intent, m'.batches = m.batches ++ [batch] ∧ batch.Carries intent ∧
      batch.targetUnit = builder.unitId ∧ batch.builders = [builder.unitId] ∧
      batch.batchSeq = m.state.batchSeq ∧
      intent.issuedFrame = frame ∧ m'.assigned = ↑builder.unitId :: m.assigned ∧
      m'.state.batchSeq = m.state.batchSeq + 1 ∧
      m'.state.pendingBuilds = if cfg.queueMacroOrders then m.state.pendingBuilds
        else dropIntent builder.unitId m.state.pendingBuilds ++ [intent] := by
  rw [orderBuild] at h
  dsimp only at h
  split at h
  · cases h
    refine ⟨_, ⟨builder.unitId, targetDefId, category, frame, none⟩, rfl,
      ⟨rfl, _, mem_singleton_self _⟩, rfl, rfl, rfl, rfl, rfl, ?_, ?_⟩
    · rw [State.reserve]
      split
      · rfl
      · rfl
    · rw [State.reserve]
      split
      · rfl
      · rfl
  · exact nomatch h

/-- **One order.** The builder is ready and free, and there is room for the batch. -/
theorem MacroInv.orderBuild {targetName : String} {builder : Reset.OwnUnit}
    (h : MacroInv cfg ready frame start old m)
    (hroom : (m.batches.length : ℤ) < cfg.maxBatchesPerUpdate) (hready : builder ∈ ready)
    (hassigned : (builder.unitId : ℤ) ∉ m.assigned)
    (hpending : cfg.queueMacroOrders = false → m.state.isPending builder.unitId = false)
    (horder : orderBuild cfg input frame category targetName targetDefId builder m = some m') :
    MacroInv cfg ready frame start old m' := by
  obtain ⟨batch, intent, hbatches, hcarries, htarget, hbuilders, hseq, hframe, hassigned', hnext,
    hpending'⟩ := orderBuild_eq_some horder
  have hlength : m'.batches.length = m.batches.length + 1 := by
    rw [hbatches, length_append, length_singleton]
  have hbuilder : intent.builderUnitId = builder.unitId := by rw [← hcarries.1, htarget]
  -- nothing is dropped for a builder that has no intent
  have hdrop : cfg.queueMacroOrders = false →
      m'.state.pendingBuilds = m.state.pendingBuilds ++ [intent] := by
    intro hqueue
    have hfree := State.isPending_eq_false_iff.1 (hpending hqueue)
    rw [hpending', hqueue, if_neg Bool.false_ne_true, dropIntent, filter_eq_self.2]
    exact fun i hi ↦ decide_eq_true (hfree i hi)
  refine ⟨?_, ?_, ?_, ?_, ?_, ?_, ?_, ?_, ?_⟩
  · rw [hlength, range'_concat, hbatches, map_append, h.seqs, map_singleton, hseq,
      h.next, Nat.one_mul]
  · rw [hnext, hlength, h.next, Nat.add_assoc]
  · rw [hlength]
    exact Int.add_one_le_of_lt hroom
  · rw [hbatches]
    exact forall_mem_append.2
      ⟨h.ready, forall_mem_singleton.2 ⟨builder, hready, htarget.symm⟩⟩
  · rw [hbatches, flatMap_append, map_append, h.builders, hassigned', reverse_cons,
      flatMap_singleton, hbuilders, map_singleton]
  · rw [hassigned']
    exact nodup_cons.2 ⟨hassigned, h.nodup⟩
  · intro i hi
    have hold : i ∈ m.state.pendingBuilds ∨ i = intent := by
      rw [hpending'] at hi
      split at hi
      · exact .inl hi
      · rcases mem_append.1 hi with hi | hi
        · exact .inl (mem_dropIntent.1 hi).1
        · exact .inr (mem_singleton.1 hi)
    rw [hbatches]
    rcases hold with hi | rfl
    · refine (h.origin i hi).imp_right ?_
      rintro ⟨b, hb, hcarried⟩
      exact ⟨b, mem_append_left _ hb, hcarried⟩
    · exact .inr ⟨batch, mem_append_right _ (mem_singleton_self _), hcarries, hframe⟩
  · intro hqueue i hi
    obtain ⟨hmem, hnot⟩ := h.kept hqueue i hi
    refine ⟨hdrop hqueue ▸ mem_append_left _ hmem, ?_⟩
    rw [hassigned', mem_cons, not_or]
    exact ⟨State.isPending_eq_false_iff.1 (hpending hqueue) i hmem, hnot⟩
  · intro hqueue builderId hmem
    rw [hassigned', mem_cons] at hmem
    rw [hdrop hqueue]
    rcases hmem with rfl | hmem
    · exact ⟨intent, mem_append_right _ (mem_singleton_self _), hbuilder, hframe⟩
    · obtain ⟨i, hi, hrest⟩ := h.reserved hqueue builderId hmem
      exact ⟨i, mem_append_left _ hi, hrest⟩

/-- **The loop over the plan.** -/
theorem MacroInv.macroLoop : ∀ {plan : List (Category × List String)} {m m' : MacroState},
    MacroInv cfg ready frame start old m →
      macroLoop cfg input ready frame plan m = some m' → MacroInv cfg ready frame start old m' := by
  intro plan
  induction plan with
  | nil =>
    intro m m' h hloop
    exact Option.some.inj hloop ▸ h
  | cons entry rest ih =>
    obtain ⟨category, names⟩ := entry
    intro m m' h hloop
    rw [Turtle.macroLoop] at hloop
    split at hloop
    · exact Option.some.inj hloop ▸ h
    · rename_i hroom
      split at hloop
      · exact ih h hloop
      · dsimp only at hloop
        split at hloop
        · rename_i s hfind
          exact ih (h.of_sameBooks (findBuilder_spec hfind).1) hloop
        · rename_i builder s hfind
          obtain ⟨hbooks, hfound⟩ := findBuilder_spec hfind
          obtain ⟨hready, hassigned, hpending⟩ := hfound builder rfl
          obtain ⟨m₁, horder, hrest⟩ := bind_eq_some_iff.1 hloop
          refine ih ((h.of_sameBooks hbooks).orderBuild (Int.not_le.1 hroom) hready hassigned ?_
            horder) hrest
          intro hqueue
          rw [State.isPending_eq_false_iff, hbooks.pending, ← State.isPending_eq_false_iff]
          exact hpending hqueue

/-! ### One update -/

/-- **What an update does.** -/
structure Handled (cfg : Config) (input : Input) (s : State) (out : List Batch) (s' : State) :
    Prop where
  seqs : out.map Batch.batchSeq = List.range' s.batchSeq out.length
  next : s'.batchSeq = s.batchSeq + out.length
  count : (out.length : ℤ) ≤ cfg.maxBatchesPerUpdate
  ready : ∀ batch ∈ out, ∃ snapshot, input.payload = .snapshot snapshot ∧
    ∃ unit ∈ snapshot.ownUnits, isReady cfg unit = true ∧ unit.unitId = batch.targetUnit
  builders : (out.flatMap Batch.builders).Nodup
  origin : ∀ intent' ∈ s'.pendingBuilds, (∃ intent ∈ s.pendingBuilds, SameOrder intent intent') ∨
    ∃ batch ∈ out, batch.Carries intent' ∧ input.snapshotFrame = some intent'.issuedFrame
  kept : cfg.queueMacroOrders = false → ∀ intent ∈ s.pendingBuilds,
    input.Releases cfg intent.builderUnitId intent.issuedFrame ∨
      (∃ intent' ∈ s'.pendingBuilds, SameOrder intent intent') ∧
        ∀ batch ∈ out, batch.isBuild = true → (batch.targetUnit : ℤ) ≠ intent.builderUnitId
  reserved : cfg.queueMacroOrders = false → ∀ batch ∈ out, batch.isBuild = true →
    ∃ intent' ∈ s'.pendingBuilds, intent'.builderUnitId = batch.targetUnit ∧
      input.snapshotFrame = some intent'.issuedFrame

/-- An update that returns nothing. -/
theorem handled_nil (hmax : 1 ≤ cfg.maxBatchesPerUpdate) (h : Settles cfg input s s') :
    Handled cfg input s [] s' where
  seqs := rfl
  next := h.seq
  count := Int.le_trans Int.one_nonneg hmax
  ready := fun _ hbatch ↦ nomatch hbatch
  builders := nodup_nil
  origin := fun intent' hmem ↦ .inl (h.origin intent' hmem)
  kept := fun _ intent hmem ↦ (h.kept intent hmem).imp_right fun hkept ↦
    ⟨hkept, fun _ hbatch ↦ nomatch hbatch⟩
  reserved := fun _ _ hbatch ↦ nomatch hbatch

/-- The batches of the hold position, before the loop. -/
theorem macroInv_appendHoldPositionBatches (hmax : 1 ≤ cfg.maxBatchesPerUpdate)
        (h : appendHoldPositionBatches cfg ready s = some result) :
    MacroInv cfg ready frame s.batchSeq s.pendingBuilds ⟨result.2, result.1, []⟩ := by
  rw [appendHoldPositionBatches] at h
  dsimp only at h
  split at h
  · cases h
    exact ⟨rfl, rfl, Int.le_trans Int.one_nonneg hmax, fun _ hb ↦ (nomatch hb), rfl,
      nodup_nil, fun _ hmem ↦ .inl hmem, fun _ _ hmem ↦ ⟨hmem, not_mem_nil⟩,
      fun _ _ hmem ↦ (nomatch hmem)⟩
  · rename_i unit hfind
    split at h
    · cases h
      refine ⟨rfl, rfl, hmax, fun batch hb ↦ ?_, rfl, nodup_nil, fun _ hmem ↦ .inl hmem,
        fun _ _ hmem ↦ ⟨hmem, not_mem_nil⟩, fun _ _ hmem ↦ (nomatch hmem)⟩
      rw [mem_singleton] at hb
      exact ⟨unit, mem_of_find?_eq_some hfind, hb ▸ rfl⟩
    · exact nomatch h

theorem slice_of_length_le {batches : List Batch} {n : ℤ} (hlength : (batches.length : ℤ) ≤ n) :
    slice batches n = batches := by
  have hpos : 0 ≤ n := Int.le_trans (Int.natCast_nonneg _) hlength
  rw [slice, if_pos hpos, take_of_length_le]
  omega

/-- An update that came to the end of `on_state`: the cut removes nothing. -/
theorem MacroInv.handled (hpayload : input.payload = .snapshot snapshot)
    (hframe : input.snapshotFrame = some frame) (hsettles : Settles cfg input s s')
    (h : MacroInv cfg (snapshot.ownUnits.filter (isReady cfg)) frame s'.batchSeq s'.pendingBuilds
      m) :
    Handled cfg input s (finish cfg frame (m.batches, m.state)).1
      (finish cfg frame (m.batches, m.state)).2 := by
  have hslice : (finish cfg frame (m.batches, m.state)).1 = m.batches := slice_of_length_le h.count
  have hbooks : SameBooks m.state (finish cfg frame (m.batches, m.state)).2 := by
    rw [finish]
    dsimp only
    split
    · exact ⟨rfl, rfl⟩
    · exact ⟨rfl, rfl⟩
  have hbuilds : ∀ batch ∈ m.batches, batch.isBuild = true →
      (batch.targetUnit : ℤ) ∈ m.assigned := by
    intro batch hbatch hbuild
    rw [← mem_reverse, ← h.builders]
    exact mem_map_of_mem (mem_flatMap.2 ⟨batch, hbatch, Batch.mem_builders hbuild⟩)
  rw [hslice]
  refine ⟨?_, ?_, h.count, ?_, ?_, ?_, ?_, ?_⟩
  · rw [← hsettles.seq]
    exact h.seqs
  · rw [hbooks.seq, h.next, hsettles.seq]
  · intro batch hbatch
    obtain ⟨unit, hunit, hid⟩ := h.ready batch hbatch
    obtain ⟨hmem, hready⟩ := mem_filter.1 hunit
    exact ⟨snapshot, hpayload, unit, hmem, hready, hid⟩
  · have hnodup := nodup_reverse.2 h.nodup
    rw [← h.builders] at hnodup
    exact hnodup.of_map _
  · intro intent hintent
    rcases h.origin intent (hbooks.pending ▸ hintent) with hold | ⟨batch, hbatch, hcarries, hissued⟩
    · exact .inl (hsettles.origin intent hold)
    · exact .inr ⟨batch, hbatch, hcarries, hissued ▸ hframe⟩
  · intro hqueue intent hintent
    rcases hsettles.kept intent hintent with hreleased | ⟨intent₁, hmem₁, hsame⟩
    · exact .inl hreleased
    · obtain ⟨hmem, hassigned⟩ := h.kept hqueue intent₁ hmem₁
      refine .inr ⟨⟨intent₁, hbooks.pending ▸ hmem, hsame⟩, fun batch hbatch hbuild heq ↦ ?_⟩
      exact hassigned (hsame.builder ▸ heq ▸ hbuilds batch hbatch hbuild)
  · intro hqueue batch hbatch hbuild
    obtain ⟨intent, hmem, hbuilder, hissued⟩ :=
      h.reserved hqueue _ (hbuilds batch hbatch hbuild)
    exact ⟨intent, hbooks.pending ▸ hmem, hbuilder, hissued ▸ hframe⟩

/-- A plan for a snapshot handles the update. -/
theorem handled_planUpdate (hmax : 1 ≤ cfg.maxBatchesPerUpdate)
    (hpayload : input.payload = .snapshot snapshot) (hframe : input.snapshotFrame = some frame)
    (hsettles : Settles cfg input s s')
    (h : planUpdate cfg input snapshot frame (snapshot.ownUnits.filter (isReady cfg)) s' =
      some result) : Handled cfg input s result.1 result.2 := by
  rw [planUpdate] at h
  dsimp only at h
  have hresolve :
      SameBooks s' (if s'.resolutionAttempted then s' else resolveDefs cfg input s') := by
    split
    · exact ⟨rfl, rfl⟩
    · exact sameBooks_resolveDefs cfg input s'
  generalize (if s'.resolutionAttempted then s' else resolveDefs cfg input s') = s₁ at h hresolve
  have hrefresh : Settles cfg input s (refreshPendingBuilds cfg snapshot frame s₁) :=
    (hsettles.trans hresolve.settles).trans (settles_refreshPendingBuilds hpayload hframe s₁)
  obtain ⟨⟨batches, s₂⟩, hhold, hrest⟩ := bind_eq_some_iff.1 h
  have hinv : MacroInv cfg _ frame _ _ _ := macroInv_appendHoldPositionBatches hmax hhold
  dsimp only at hrest
  split at hrest
  · cases hrest
    exact hinv.handled hpayload hframe hrefresh
  · obtain ⟨⟨batches', s₃⟩, hmacro, rfl⟩ := map_eq_some_iff.1 hrest
    rw [appendMacroBatches] at hmacro
    obtain ⟨m, hloop, heq⟩ := map_eq_some_iff.1 hmacro
    obtain ⟨rfl, rfl⟩ := Prod.mk.inj heq
    have hplan := hinv.of_sameBooks (sameBooks_macroPlan cfg snapshot s₂)
    exact (hplan.macroLoop hloop).handled hpayload hframe hrefresh

/-- **Every update** does what `Handled` states. -/
theorem handled_onState (hmax : 1 ≤ cfg.maxBatchesPerUpdate) (h : onState cfg input s = some result)
    : Handled cfg input s result.1 result.2 := by
  have hobserve := settles_observeUpdate cfg input s
  rw [onState] at h
  dsimp only at h
  split at h
  · cases h
    exact handled_nil hmax hobserve
  · cases h
    exact handled_nil hmax hobserve
  · rename_i snapshot hpayload
    split at h
    · cases h
      exact handled_nil hmax hobserve
    · split at h
      · cases h
        exact handled_nil hmax hobserve
      · exact handled_planUpdate hmax hpayload (by rw [Input.snapshotFrame, hpayload]) hobserve h

/-! ### Whole runs -/

/-- The frames of the snapshots do not decrease. -/
def FramesNondecreasing (inputs : List Input) : Prop :=
  inputs.Pairwise fun input input' ↦
    ∀ frame ∈ input.snapshotFrame, ∀ frame' ∈ input'.snapshotFrame, frame ≤ frame'

/-- What the updates of a run return, one by one. -/
structure Orderly (cfg : Config) (run : Run) : Prop where
  /-- The numbers of all the batches increase. -/
  increasing : ((run.history.flatMap Prod.snd).map Batch.batchSeq).Pairwise (· < ·)
  /-- No update returns too many batches. -/
  count : ∀ entry ∈ run.history, (entry.2.length : ℤ) ≤ cfg.maxBatchesPerUpdate
  /-- Each batch is for a ready own unit of the snapshot. -/
  ready : ∀ entry ∈ run.history, ∀ batch ∈ entry.2,
    ∃ snapshot, entry.1.payload = .snapshot snapshot ∧
      ∃ unit ∈ snapshot.ownUnits, isReady cfg unit = true ∧ unit.unitId = batch.targetUnit
  /-- No builder gets two build orders in one update, in one batch or in two. -/
  builders : ∀ entry ∈ run.history, (entry.2.flatMap Batch.builders).Nodup
  /-- Each intent that is recorded has had its order returned. -/
  returned : ∀ intent ∈ run.state.pendingBuilds, ∃ entry ∈ run.history, ∃ batch ∈ entry.2,
    batch.Carries intent ∧ entry.1.snapshotFrame = some intent.issuedFrame

/-- **Builder reservation**, along a run. -/
structure Reserved (cfg : Config) (run : Run) : Prop extends Orderly cfg run where
  /-- Two build orders to one builder are separated by an event that it is idle, by a snapshot that
  shows it dead, or by the timeout. -/
  separated : cfg.queueMacroOrders = false → ∀ before entry between entry' after,
    run.history = before ++ entry :: (between ++ entry' :: after) →
    ∀ batch ∈ entry.2, ∀ batch' ∈ entry'.2, batch.isBuild = true → batch'.isBuild = true →
      batch'.targetUnit = batch.targetUnit →
      (∃ e ∈ between ++ [entry'], e.1.Idles batch.targetUnit) ∨
        (∃ e ∈ between ++ [entry'], e.1.ShowsDead batch.targetUnit) ∨
        ∃ frame frame', entry.1.snapshotFrame = some frame ∧
          entry'.1.snapshotFrame = some frame' ∧ frame + cfg.buildOrderTimeoutFrames ≤ frame'

/-- One of the updates ended the reservation that the build order of the entry made. -/
def ReleasedSince (cfg : Config) (entry : Input × List Batch) (since : List (Input × List Batch))
    (builderId : ℤ) : Prop :=
  ∃ frame, entry.1.snapshotFrame = some frame ∧ ∃ e ∈ since, e.1.Releases cfg builderId frame

/-- The build order of the entry is still recorded. -/
def StillPending (entry : Input × List Batch) (s : State) (builderId : ℤ) : Prop :=
  ∃ intent ∈ s.pendingBuilds, intent.builderUnitId = builderId ∧
    entry.1.snapshotFrame = some intent.issuedFrame

/-- What holds of every run, whatever the frames. -/
structure RunInv (cfg : Config) (run : Run) : Prop extends Orderly cfg run where
  below : ∀ batch ∈ run.history.flatMap Prod.snd, batch.batchSeq < run.state.batchSeq
  releasedOrPending : cfg.queueMacroOrders = false → ∀ before entry after,
    run.history = before ++ entry :: after → ∀ batch ∈ entry.2, batch.isBuild = true →
      ReleasedSince cfg entry after batch.targetUnit ∨
        StillPending entry run.state batch.targetUnit
  releasedBetween : cfg.queueMacroOrders = false → ∀ before entry between entry' after,
    run.history = before ++ entry :: (between ++ entry' :: after) →
    ∀ batch ∈ entry.2, ∀ batch' ∈ entry'.2, batch.isBuild = true → batch'.isBuild = true →
      batch'.targetUnit = batch.targetUnit →
      ReleasedSince cfg entry (between ++ [entry']) batch.targetUnit

theorem SameOrder.carries {batch : Batch} {intent intent' : BuildIntent}
    (h : SameOrder intent intent') (hcarries : batch.Carries intent) : batch.Carries intent' := by
  obtain ⟨htarget, position, horder⟩ := hcarries
  exact ⟨htarget.trans h.builder.symm, position, h.target ▸ horder⟩

/-- What was released stays released. -/
theorem ReleasedSince.append {entry : Input × List Batch} {since more : List (Input × List Batch)}
    (h : ReleasedSince cfg entry since builderId) :
    ReleasedSince cfg entry (since ++ more) builderId := by
  obtain ⟨frame, hframe, e, he, hreleases⟩ := h
  exact ⟨frame, hframe, e, mem_append_left _ he, hreleases⟩

/-- An update that orders from a builder whose order is recorded releases it first; otherwise the
order stays recorded. -/
theorem Handled.pending_cases {out : List Batch} (h : Handled cfg input s out s')
    (hqueue : cfg.queueMacroOrders = false) {entry : Input × List Batch}
    (hpending : StillPending entry s builderId) :
    ReleasedSince cfg entry [(input, out)] builderId ∨
      StillPending entry s' builderId ∧
        ∀ batch ∈ out, batch.isBuild = true → (batch.targetUnit : ℤ) ≠ builderId := by
  obtain ⟨intent, hintent, rfl, hframe⟩ := hpending
  rcases h.kept hqueue intent hintent with hreleases | ⟨⟨intent', hmem, hsame⟩, hnone⟩
  · exact .inl ⟨_, hframe, _, mem_singleton_self _, hreleases⟩
  · exact .inr ⟨⟨intent', hmem, hsame.builder, hsame.frame ▸ hframe⟩, hnone⟩

theorem runInv_init (cfg : Config) (defIdByName : List (String × ℤ)) :
    RunInv cfg (machine cfg defIdByName).init where
  increasing := List.Pairwise.nil
  count := fun _ hmem ↦ nomatch hmem
  ready := fun _ hmem ↦ nomatch hmem
  builders := fun _ hmem ↦ nomatch hmem
  returned := fun _ hmem ↦ nomatch hmem
  below := fun _ hmem ↦ nomatch hmem
  releasedOrPending := fun _ _ _ _ heq ↦ absurd heq.symm (by simp [machine])
  releasedBetween := fun _ _ _ _ _ _ heq ↦ absurd heq.symm (by simp [machine])

variable {run : Run} {out : List Batch}

/-- The run after one more update. -/
def Run.extend (run : Run) (input : Input) (out : List Batch) (s' : State) : Run :=
  ⟨s', run.history ++ [(input, out)]⟩

/-- One update keeps the run orderly. -/
theorem Orderly.extend (h : Orderly cfg run)
    (hbelow : ∀ batch ∈ run.history.flatMap Prod.snd, batch.batchSeq < run.state.batchSeq)
    (hhandled : Handled cfg input run.state out s') : Orderly cfg (run.extend input out s') := by
  have hentry : ∀ {P : Input × List Batch → Prop}, (∀ entry ∈ run.history, P entry) →
      P (input, out) → ∀ entry ∈ (run.extend input out s').history, P entry := by
    intro P hold hnew
    exact forall_mem_append.2 ⟨hold, forall_mem_singleton.2 hnew⟩
  refine ⟨?_, hentry h.count hhandled.count, hentry h.ready hhandled.ready,
    hentry h.builders hhandled.builders, ?_⟩
  · rw [Run.extend, flatMap_append, flatMap_singleton, map_append,
      pairwise_append, hhandled.seqs]
    refine ⟨h.increasing, pairwise_lt_range', ?_⟩
    intro n hn n' hn'
    obtain ⟨batch, hbatch, rfl⟩ := mem_map.1 hn
    have hge := (mem_range'_1.1 hn').1
    exact Nat.lt_of_lt_of_le (hbelow batch hbatch) hge
  · intro intent' hintent'
    rcases hhandled.origin intent' hintent' with ⟨intent, hintent, hsame⟩ | ⟨batch, hbatch, hnew⟩
    · obtain ⟨entry, hmem, batch, hbatch, hcarries, hframe⟩ := h.returned intent hintent
      exact ⟨entry, mem_append_left _ hmem, batch, hbatch, hsame.carries hcarries,
        hsame.frame ▸ hframe⟩
    · exact ⟨(input, out), mem_append_right _ (mem_singleton_self _), batch, hbatch, hnew⟩

/-- **One update keeps the laws.** -/
theorem RunInv.extend (h : RunInv cfg run) (hhandled : Handled cfg input run.state out s') :
    RunInv cfg (run.extend input out s') := by
  refine ⟨h.toOrderly.extend h.below hhandled, ?_, ?_, ?_⟩
  · intro batch hbatch
    have hnext : (run.extend input out s').state.batchSeq = run.state.batchSeq + out.length :=
      hhandled.next
    rw [Run.extend, flatMap_append, flatMap_singleton, mem_append] at hbatch
    rw [hnext]
    rcases hbatch with hbatch | hbatch
    · exact Nat.lt_of_lt_of_le (h.below batch hbatch) (Nat.le_add_right _ _)
    · have hseq := mem_map_of_mem (f := Batch.batchSeq) hbatch
      rw [hhandled.seqs] at hseq
      exact (mem_range'_1.1 hseq).2
  · intro hqueue before entry after heq batch hbatch hbuild
    rcases eq_nil_or_concat' after with rfl | ⟨since, last, rfl⟩
    · -- the order is from this update
      obtain ⟨-, hlast⟩ := append_inj' heq rfl
      obtain rfl := List.cons.inj hlast |>.1
      exact .inr (hhandled.reserved hqueue batch hbatch hbuild)
    · rw [← cons_append, ← append_assoc] at heq
      obtain ⟨hhistory, hlast⟩ := append_inj' heq rfl
      obtain rfl := List.cons.inj hlast |>.1
      rcases h.releasedOrPending hqueue before entry since hhistory batch hbatch hbuild with
        hreleased | hpending
      · exact .inl hreleased.append
      · rcases hhandled.pending_cases hqueue hpending with hreleased | hkept
        · obtain ⟨frame, hframe, e, he, hreleases⟩ := hreleased
          exact .inl ⟨frame, hframe, e, mem_append_right _ he, hreleases⟩
        · exact .inr hkept.1
  · intro hqueue before entry between entry' after heq batch hbatch batch' hbatch' hbuild hbuild'
      htarget
    rcases eq_nil_or_concat' after with rfl | ⟨since, last, rfl⟩
    · -- the second order is from this update
      rw [← cons_append, ← append_assoc] at heq
      obtain ⟨hhistory, hlast⟩ := append_inj' heq rfl
      obtain rfl := List.cons.inj hlast |>.1
      rcases h.releasedOrPending hqueue before entry between hhistory batch hbatch hbuild with
        hreleased | hpending
      · exact hreleased.append
      · rcases hhandled.pending_cases hqueue hpending with hreleased | hkept
        · obtain ⟨frame, hframe, e, he, hreleases⟩ := hreleased
          exact ⟨frame, hframe, e, mem_append_right _ he, hreleases⟩
        · exact absurd (congrArg Nat.cast htarget) (hkept.2 batch' hbatch' hbuild')
    · have hassoc : before ++ entry :: (between ++ entry' :: (since ++ [last])) =
          before ++ entry :: (between ++ entry' :: since) ++ [last] := by
        simp only [append_assoc, cons_append]
      obtain ⟨hhistory, -⟩ := append_inj' (heq.trans hassoc) rfl
      exact h.releasedBetween hqueue before entry between entry' since hhistory batch hbatch batch'
        hbatch' hbuild hbuild' htarget

/-- **One update keeps the invariant.** -/
theorem RunInv.step (hmax : 1 ≤ cfg.maxBatchesPerUpdate) {defIdByName : List (String × ℤ)}
    {run' : Run} (h : RunInv cfg run)
    (hstep : (machine cfg defIdByName).step run input = some run') : RunInv cfg run' := by
  obtain ⟨result, honState, rfl⟩ := map_eq_some_iff.1 hstep
  exact h.extend (handled_onState hmax honState)

/-- The history tells the updates of the run. -/
theorem map_fst_history {defIdByName : List (String × ℤ)} {inputs : List Input} :
    ∀ {run run' : Run}, (machine cfg defIdByName).exec run inputs = some run' →
      run'.history.map Prod.fst = run.history.map Prod.fst ++ inputs := by
  induction inputs with
  | nil =>
    intro run run' hrun
    rw [← Option.some.inj hrun, append_nil]
  | cons input inputs ih =>
    intro run run' hrun
    obtain ⟨run₁, hstep, hrest⟩ := (machine cfg defIdByName).exec_cons_eq_some.1 hrun
    obtain ⟨result, -, rfl⟩ := map_eq_some_iff.1 hstep
    rw [ih hrest, map_append, append_assoc]
    rfl

/-- A later snapshot is not of an earlier frame. -/
theorem FramesNondecreasing.le {history before between after : List (Input × List Batch)}
    {entry entry' e : Input × List Batch} (h : FramesNondecreasing (history.map Prod.fst))
    (hhistory : history = before ++ entry :: (between ++ entry' :: after))
    (he : e ∈ between ++ [entry']) {frame frame' : ℤ} (hframe : e.1.snapshotFrame = some frame)
    (hframe' : entry'.1.snapshotFrame = some frame') : frame ≤ frame' := by
  rcases mem_append.1 he with he | he
  · rw [FramesNondecreasing, pairwise_map, hhistory] at h
    have hlater := (pairwise_cons.1 (pairwise_append.1 h).2.1).2
    have hbetween := (pairwise_append.1 hlater).2.2 e he entry' (mem_cons_self ..)
    exact hbetween frame hframe frame' hframe'
  · obtain rfl := mem_singleton.1 he
    exact Int.le_of_eq (Option.some.inj (hframe.symm.trans hframe'))

/-- **Builders are reserved** along every run of the policy. -/
theorem builder_reservation (cfg : Config) (defIdByName : List (String × ℤ)) (inputs : List Input)
    (run : Run) (hmax : 1 ≤ cfg.maxBatchesPerUpdate) (hframes : FramesNondecreasing inputs)
    (hrun : (machine cfg defIdByName).exec (machine cfg defIdByName).init inputs = some run) :
    Reserved cfg run := by
  have hinv : RunInv cfg run := StepMachine.invariant_of_reachable (runInv_init cfg defIdByName)
    (fun _ _ _ h hstep ↦ h.step hmax hstep) ⟨inputs, hrun⟩
  have hhistory : run.history.map Prod.fst = inputs := map_fst_history hrun
  rw [← hhistory] at hframes
  refine ⟨hinv.toOrderly, ?_⟩
  intro hqueue before entry between entry' after heq batch hbatch batch' hbatch' hbuild hbuild'
    htarget
  obtain ⟨frame, hframe, e, he, hidle | hdead | ⟨late, hlate, htimeout⟩⟩ :=
    hinv.releasedBetween hqueue before entry between entry' after heq batch hbatch batch' hbatch'
      hbuild hbuild' htarget
  · exact .inl ⟨e, he, hidle⟩
  · exact .inr (.inl ⟨e, he, hdead⟩)
  · have hmem : entry' ∈ run.history := by
      rw [heq]
      simp only [mem_append, mem_cons, true_or, or_true]
    obtain ⟨snapshot, hpayload, -⟩ := hinv.ready entry' hmem batch' hbatch'
    have hframe' : entry'.1.snapshotFrame = some (entry'.1.frameOf snapshot) := by
      rw [Input.snapshotFrame, hpayload]
    have hle := hframes.le heq he hlate hframe'
    exact .inr (.inr ⟨frame, _, hframe, hframe', Int.le_trans htimeout hle⟩)

/-! ### A run: an order, the event that the builder is idle, another order -/

/-- One order at a time, for metal extractors. -/
def smallConfig : Config :=
  { maxBatchesPerUpdate := 1, buildIntervalFrames := 1, targetMex := 5, targetEnergy := 7,
    targetFactories := 3, targetBuilders := 5, targetDefense := 8, targetArmy := 45,
    targetAdvancedFactories := 1, enableAdvanced := true, queueMacroOrders := false,
    buildOrderTimeoutFrames := 18000, unitNames := fun _ ↦ [], readyHealth := id }

/-- An update, while no callback is answered. -/
def quietInput (frame : ℕ) (payload : Payload) : Input :=
  { frame := frame, payload := payload, unitDefs := none, buildOptions := fun _ ↦ none,
    position := fun cursor _ _ _ ↦ (Reset.offset 0 0 0, cursor + 1) }

/-- A snapshot with the commander alone. -/
def commanderSnapshot (frame : ℕ) : Payload :=
  .snapshot ⟨frame, [⟨101, 1, Reset.offset 0 0 0, .finite 3000, .finite 3000, false, .zero⟩],
    .zero, .zero⟩

/-- The commander goes idle between two snapshots. -/
def idleInputs : List Input :=
  [quietInput 100 (commanderSnapshot 100), quietInput 110 (.delta [some (.unitIdle 101)]),
    quietInput 111 (commanderSnapshot 111)]

theorem builder_reservation_idle :
    ∃ run, (machine smallConfig [("armmex", 11)]).exec
        (machine smallConfig [("armmex", 11)]).init idleInputs = some run ∧
      run.history.map (fun entry ↦ entry.2.map Batch.targetUnit) = [[101], [], [101]] ∧
      Reserved smallConfig run := by
  have hsome : ((machine smallConfig [("armmex", 11)]).exec
      (machine smallConfig [("armmex", 11)]).init idleInputs).map (fun run ↦
        run.history.map fun entry ↦ entry.2.map Batch.targetUnit) =
      some [[101], [], [101]] := by decide +kernel
  obtain ⟨run, hrun, hbatches⟩ := map_eq_some_iff.1 hsome
  have hframes : FramesNondecreasing idleInputs := by
    simp [FramesNondecreasing, idleInputs, quietInput, commanderSnapshot, Input.snapshotFrame,
      Input.frameOf]
  exact ⟨run, hrun, hbatches,
    builder_reservation smallConfig _ idleInputs run (by decide) hframes hrun⟩

end HighBar.Client.Turtle
