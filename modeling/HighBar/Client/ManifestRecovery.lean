import HighBar.Client.ManifestCounts
import Mathlib.Algebra.Order.Field.Rat
import Mathlib.Data.List.Infix

/-!
# When the reset recovers the losses

The reset **recovers** a loss if it raises nothing and sends, for each def, as many orders as units
are missing. It does so exactly if every def that is short has a builder when its turn comes
(`Ready`). The recursive call that builds a missing factory never helps: the wait that follows it
waits for the whole manifest, and the def that needed the factory is still short.

Orders go out by the names of the defs: `armap` before `armpeep`, but `armvp` **after** `armck`. So
a lost `armap` can be back for `armpeep`, if a snapshot shows it in time, and a lost `armvp` cannot
be back for `armck`.
-/

open ExceptSpec

namespace HighBar.Client.Reset

open List

section

variable {floats : ClientFloats} {engine : Engine} {ids : DefIds} {target : Manifest}

/-! ### Finding a factory -/

/-- The context names the commander among the units, and no new unit takes its id. -/
structure LiveCommander (engine : Engine) (ctx : Context) : Prop where
  found : (findCommander engine.initial).map OwnUnit.unitId = some ctx.commanderUnitId
  newborn : ∀ i, (engine.newborn i).unitId ≠ ctx.commanderUnitId

/-- The new units do not change who the commander is. -/
theorem findCommander_units (engine : Engine) (defs : List ℕ) :
    findCommander (engine.units defs) = findCommander engine.initial := by
  rw [Engine.units, findCommander, foldl_append, ← findCommander]
  have hnew : ∀ unit ∈ defs.mapIdx fun i defId ↦ (engine.newborn i).unit defId,
      FloatValue.lt (.finite 3000) unit.maxHealth = false := by
    intro unit hunit
    obtain ⟨i, hi, rfl⟩ := mem_mapIdx.1 hunit
    exact (engine.newborn i).ordinary
  generalize defs.mapIdx (fun i defId ↦ (engine.newborn i).unit defId) = units at hnew
  induction units with
  | nil => rfl
  | cons unit units ih =>
    have hunit := hnew unit (mem_cons_self ..)
    rw [foldl_cons, hunit]
    exact ih fun u hu ↦ hnew u (mem_cons_of_mem _ hu)

/-- The id of the factory that the driver finds among the units. -/
def factoryIn (ids : DefIds) (ctx : Context) (name : String) (units : List OwnUnit) : Option ℕ :=
  ((units.filter fun unit ↦ unit.unitId ≠ ctx.commanderUnitId).find? fun unit ↦
    decide (unit.defId = ids.get name) && unit.isReady).map OwnUnit.unitId

/-- The def of the factory of a capability. -/
def factoryName : Capability → String
  | .factoryGround => "armvp"
  | .factoryAir => "armap"
  | .commander | .mex | .solar | .radar | .builder | .cloakable => ""

/-- The capabilities that are factories. -/
def Capability.IsFactory (capability : Capability) : Prop :=
  capability = .factoryGround ∨ capability = .factoryAir

/-- A factory is looked for among the older units first. -/
theorem factoryIn_append (ctx : Context) (name : String) (units more : List OwnUnit) :
    factoryIn ids ctx name (units ++ more) =
      (factoryIn ids ctx name units).or (factoryIn ids ctx name more) := by
  rw [factoryIn, filter_append, find?_append, Option.map_or]
  rfl

variable {name : String} {before after : List String} {capability : Capability}

/-- A factory that was found is found again. -/
theorem factoryIn_of_prefix {ctx : Context} {units units' : List OwnUnit} {id : ℕ}
    (h : units <+: units') (hid : factoryIn ids ctx name units = some id) :
    factoryIn ids ctx name units' = some id := by
  obtain ⟨more, rfl⟩ := h
  rw [factoryIn_append, hid, Option.some_or]

variable {ctx : Context}

/-- A live commander is found again. -/
theorem refresh_commander (hlive : LiveCommander engine ctx) (s : State) :
    (refresh floats engine ids s).ctx.commanderUnitId = ctx.commanderUnitId := by
  simp only [refresh, refreshBootstrapContext, Engine.latest, findCommander_units, hlive.found,
    Option.getD_some]

/-- What a refresh knows of a factory. -/
theorem refresh_capabilityUnit (h : ids.Resolved) (hlive : LiveCommander engine ctx)
    (hfactory : capability.IsFactory) (s : State) :
    (refresh floats engine ids s).ctx.capabilityUnit capability =
      (factoryIn ids ctx (factoryName capability) (engine.latest (engine.read s))).getD 0 := by
  have hcommander : ((findCommander (engine.latest (engine.read s))).map OwnUnit.unitId).getD
      (engine.read s).ctx.commanderUnitId = ctx.commanderUnitId := by
    rw [Engine.latest, findCommander_units, hlive.found, Option.getD_some]
  rcases hfactory with rfl | rfl
  · have hmatches : ∀ unit, matchesFactoryGround ids unit = decide (unit.defId = ids.get "armvp") :=
      fun _ ↦ if_pos (h.get_ne_zero rfl)
    simp only [refresh, refreshBootstrapContext, Context.capabilityUnit, factoryIn, factoryName,
      hmatches, hcommander]
    rfl
  · have hmatches : ∀ unit, matchesFactoryAir floats ids unit =
        decide (unit.defId = ids.get "armap") :=
      fun _ ↦ if_pos (h.get_ne_zero rfl)
    simp only [refresh, refreshBootstrapContext, Context.capabilityUnit, factoryIn, factoryName,
      hmatches, hcommander]
    rfl

/-- A unit that a refresh observes can be looked up. -/
theorem observed_of_mem {ctx : Context} {unit : OwnUnit} (hunit : unit ∈ ctx.observedOwnUnits) :
    ∃ found, ctx.observed unit.unitId = some found := by
  rw [← Option.isSome_iff_exists, Context.observed, find?_isSome]
  exact ⟨unit, mem_reverse.2 hunit, decide_eq_true rfl⟩

/-- A factory that a refresh knows is among the observed units. -/
theorem refresh_observed (h : ids.Resolved) (hlive : LiveCommander engine ctx) (s : State)
    (hfactory : capability.IsFactory)
    (hid : (refresh floats engine ids s).ctx.capabilityUnit capability ≠ 0) :
    ∃ unit, (refresh floats engine ids s).ctx.observed
      ((refresh floats engine ids s).ctx.capabilityUnit capability) = some unit := by
  rw [refresh_capabilityUnit h hlive hfactory] at hid ⊢
  rcases hfind : factoryIn ids ctx (factoryName capability) (engine.latest (engine.read s))
    with - | id
  · rw [hfind] at hid
    exact absurd rfl hid
  · obtain ⟨unit, hunit, rfl⟩ := Option.map_eq_some_iff.1 hfind
    have hmem := mem_of_mem_filter (mem_of_find?_eq_some hunit)
    exact observed_of_mem hmem

/-! ### Orders -/

/-- Orders for the defs went out, with so many reads of the latest snapshot. If something had been
ordered before the reads, the latest snapshot shows an order now exactly if it did before or one of
the reads brought it. -/
structure Sent (engine : Engine) (s : State) (added : List ℕ) (k : ℕ) (s' : State) : Prop where
  defs : s'.defs = s.defs ++ added
  commander : s'.ctx.commanderUnitId = s.ctx.commanderUnitId
  reads : s'.reads = s.reads + k
  shown : s.defs ≠ [] ∨ k = 0 →
    (0 < s'.shown ↔ 0 < s.shown ∨ ∃ r, s.reads ≤ r ∧ r < s'.reads ∧ 0 < engine.feed r)

theorem Sent.refl (s : State) : Sent engine s [] 0 s where
  defs := (append_nil _).symm
  commander := rfl
  reads := rfl
  shown _ := ⟨.inl, fun h ↦ h.elim id fun ⟨_, hle, hlt, _⟩ ↦ absurd hlt (Nat.not_lt.2 hle)⟩

/-- Orders and reads add up. -/
theorem Sent.trans {s s' s'' : State} {added added' : List ℕ} {k k' : ℕ}
    (h : Sent engine s added k s') (h' : Sent engine s' added' k' s'') :
    Sent engine s (added ++ added') (k + k') s'' where
  defs := by rw [h'.defs, h.defs, append_assoc]
  commander := h'.commander.trans h.commander
  reads := by rw [h'.reads, h.reads, Nat.add_assoc]
  shown hne := by
    have hne₁ : s.defs ≠ [] ∨ k = 0 := hne.imp_right fun hzero ↦ by omega
    have hne₂ : s'.defs ≠ [] ∨ k' = 0 := by
      refine hne.imp (fun hdefs ↦ ?_) fun hzero ↦ by omega
      rw [h.defs]
      exact append_ne_nil_of_left_ne_nil hdefs _
    rw [h'.shown hne₂, h.shown hne₁, or_assoc]
    refine or_congr_right ?_
    have hle := h.reads
    have hle' := h'.reads
    constructor
    · rintro (⟨r, h₁, h₂, hr⟩ | ⟨r, h₁, h₂, hr⟩)
      · exact ⟨r, h₁, by omega, hr⟩
      · exact ⟨r, by omega, h₂, hr⟩
    · rintro ⟨r, h₁, h₂, hr⟩
      rcases Nat.lt_or_ge r s'.reads with hlt | hge
      · exact .inl ⟨r, h₁, hlt, hr⟩
      · exact .inr ⟨r, hge, h₂, hr⟩

/-- A dispatch adds one order. -/
theorem sent_dispatch (s : State) {order : BuildOrder} {defId : ℕ} (hdef : order.defId = defId) :
    Sent engine s [defId] 0 (s.dispatch order) where
  defs := hdef ▸ s.dispatch_defs order
  commander := rfl
  reads := rfl
  shown _ := ⟨.inl, fun h ↦ h.elim id fun ⟨_, hle, hlt, _⟩ ↦ absurd hlt (Nat.not_lt.2 hle)⟩

/-- A refresh reads once and orders nothing. -/
theorem sent_refresh (hlive : LiveCommander engine ctx) {s : State}
    (hctx : s.ctx.commanderUnitId = ctx.commanderUnitId) :
    Sent engine s [] 1 (refresh floats engine ids s) where
  defs := (append_nil _).symm
  commander := (refresh_commander hlive s).trans hctx.symm
  reads := rfl
  shown hne := by
    have hlength : 0 < s.orders.length := by
      rw [length_pos_iff]
      exact fun hnil ↦ (hne.resolve_right Nat.one_ne_zero) (congrArg (List.map _) hnil)
    have hshown : (refresh floats engine ids s).shown =
        max s.shown (min (engine.feed s.reads) s.orders.length) := rfl
    have hreads : (refresh floats engine ids s).reads = s.reads + 1 := rfl
    rw [hshown, hreads, lt_max_iff, lt_min_iff]
    refine or_congr_right ⟨fun h ↦ ⟨s.reads, Nat.le_refl _, Nat.lt_succ_self _, h.1⟩, ?_⟩
    rintro ⟨r, hge, hlt, hr⟩
    obtain rfl : r = s.reads := by omega
    exact ⟨hr, hlength⟩

variable {reissue : List (String × ℕ) → State → Except ResetError State} {step : BuildStep}
  {s : State}

/-- The commander takes orders as long as the context names it. -/
theorem orderUnit_commander (hstep : step.builderCapability = .commander)
    (hcommander : s.ctx.commanderUnitId ≠ 0) :
    ∃ s', orderUnit floats engine ids target reissue step s = .ok s' ∧
      Sent engine s [ids.get step.defId] 0 s' := by
  rw [orderUnit, if_pos hstep, if_neg hcommander]
  exact ⟨_, rfl, sent_dispatch s rfl⟩

/-- Without a commander nothing is built. -/
theorem orderUnit_commander_lost (hstep : step.builderCapability = .commander)
    (hcommander : s.ctx.commanderUnitId = 0) :
    orderUnit floats engine ids target reissue step s = .error .commanderLost := by
  rw [orderUnit, if_pos hstep, if_pos hcommander]

theorem Capability.IsFactory.ne_commander (h : capability.IsFactory) :
    capability ≠ .commander := by
  rcases h with rfl | rfl
  · exact Capability.noConfusion
  · exact Capability.noConfusion

/-- The driver will find the factory at the next read. -/
def FactorySeen (engine : Engine) (ids : DefIds) (ctx : Context) (step : BuildStep) (s : State) :
    Prop :=
  ∃ id, id ≠ 0 ∧ factoryIn ids ctx (factoryName step.builderCapability)
    (engine.latest (engine.read s)) = some id

/-- A refresh finds the factory exactly if it has been seen. -/
theorem refresh_capabilityUnit_ne_zero_iff (h : ids.Resolved) (hlive : LiveCommander engine ctx)
    (hfactory : step.builderCapability.IsFactory) :
    (refresh floats engine ids s).ctx.capabilityUnit step.builderCapability ≠ 0 ↔
      FactorySeen engine ids ctx step s := by
  rw [refresh_capabilityUnit h hlive hfactory, FactorySeen]
  rcases factoryIn ids ctx (factoryName step.builderCapability) (engine.latest (engine.read s))
    with - | id
  · simp only [Option.getD_none, ne_eq, not_true_eq_false, reduceCtorEq, and_false, exists_false]
  · simp only [Option.getD_some, ne_eq, Option.some.injEq, exists_eq_right']

/-- A factory that is seen takes the order. -/
theorem orderUnit_factory (h : ids.Resolved) (hlive : LiveCommander engine ctx)
    (hctx : s.ctx.commanderUnitId = ctx.commanderUnitId)
    (hfactory : step.builderCapability.IsFactory) (hseen : FactorySeen engine ids ctx step s) :
    ∃ s', orderUnit floats engine ids target reissue step s = .ok s' ∧
      Sent engine s [ids.get step.defId] 1 s' ∧ (engine.read s).shown = s'.shown := by
  have hid : (refresh floats engine ids s).ctx.capabilityUnit step.builderCapability ≠ 0 :=
    (refresh_capabilityUnit_ne_zero_iff h hlive hfactory).2 hseen
  obtain ⟨builder, hbuilder⟩ := refresh_observed h hlive s hfactory hid
  refine ⟨(refresh floats engine ids s).dispatch ⟨(refresh floats engine ids s).ctx.capabilityUnit
    step.builderCapability, ids.get step.defId, builder.position⟩, ?_, ?_, rfl⟩
  · rw [orderUnit, if_neg hfactory.ne_commander]
    simp only [if_neg hid, orderFromFactory, hbuilder]
  · have hrefresh : Sent engine s [] 1 (refresh floats engine ids s) := sent_refresh hlive hctx
    show Sent engine s ([] ++ [ids.get step.defId]) (1 + 0) _
    exact hrefresh.trans (sent_dispatch _ rfl)

/-- What is seen once is seen from then on. -/
theorem FactorySeen.of_prefix {s' : State} (hseen : FactorySeen engine ids ctx step s)
    (hinitialPart : engine.latest (engine.read s) <+: engine.latest (engine.read s')) :
    FactorySeen engine ids ctx step s' := by
  obtain ⟨id, hne, hid⟩ := hseen
  exact ⟨id, hne, factoryIn_of_prefix hinitialPart hid⟩

theorem take_take_of_prefix_of_le {defs defs' : List ℕ} (h : defs <+: defs') {k k' : ℕ}
    (hk : k ≤ k') : defs.take k <+: defs'.take k' :=
  (h.take k).trans (take_prefix_take_left hk)

/-- The orders of a def, if its factory is seen. -/
theorem repeatTimes_factory (h : ids.Resolved) (hlive : LiveCommander engine ctx)
    (hfactory : step.builderCapability.IsFactory) (n : ℕ)
    (hctx : s.ctx.commanderUnitId = ctx.commanderUnitId)
    (hseen : FactorySeen engine ids ctx step s) :
    ∃ s', repeatTimes (orderUnit floats engine ids target reissue step) n s = .ok s' ∧
      Sent engine s (List.replicate n (ids.get step.defId)) n s' := by
  induction n generalizing s with
  | zero => exact ⟨s, rfl, Sent.refl s⟩
  | succ n ih =>
    obtain ⟨s₁, hok, hsent, hshown⟩ := orderUnit_factory h hlive hctx hfactory hseen
    have hinitialPart : engine.latest (engine.read s) <+: engine.latest (engine.read s₁) := by
      refine Engine.units_prefix (take_take_of_prefix_of_le ?_ ?_)
      · rw [Engine.read_defs, Engine.read_defs, hsent.defs]
        exact prefix_append _ _
      · rw [hshown]
        exact Nat.le_max_left _ _
    obtain ⟨s₂, hok₂, hsent₂⟩ := ih (hsent.commander.trans hctx) (hseen.of_prefix hinitialPart)
    refine ⟨s₂, ?_, ?_⟩
    · rw [repeatTimes, hok]
      exact hok₂
    · rw [replicate_succ, Nat.add_comm n 1]
      exact hsent.trans hsent₂

/-- The orders of a def that the commander builds. -/
theorem repeatTimes_commander (hstep : step.builderCapability = .commander) (n : ℕ)
    (hcommander : s.ctx.commanderUnitId ≠ 0) :
    ∃ s', repeatTimes (orderUnit floats engine ids target reissue step) n s = .ok s' ∧
      Sent engine s (List.replicate n (ids.get step.defId)) 0 s' := by
  induction n generalizing s with
  | zero => exact ⟨s, rfl, Sent.refl s⟩
  | succ n ih =>
    obtain ⟨s₁, hok, hsent⟩ : ∃ s₁, orderUnit floats engine ids target reissue step s = .ok s₁ ∧
        Sent engine s [ids.get step.defId] 0 s₁ := orderUnit_commander hstep hcommander
    obtain ⟨s₂, hok₂, hsent₂⟩ := ih (hsent.commander ▸ hcommander)
    refine ⟨s₂, ?_, ?_⟩
    · rw [repeatTimes, hok]
      exact hok₂
    · rw [replicate_succ]
      exact hsent.trans hsent₂

/-! ### A missing factory -/

/-- The factories of the plan are built by the commander. -/
theorem prerequisite_of_factory : ∀ step ∈ defaultBootstrapPlan,
    step.builderCapability = .factoryGround ∨ step.builderCapability = .factoryAir →
      ∃ prerequisite ∈ defaultBootstrapPlan,
        (defaultBootstrapPlan.find? fun candidate ↦
          candidate.capability = step.builderCapability) = some prerequisite ∧
        stepByDefName prerequisite.defId = some prerequisite ∧
        prerequisite.builderCapability = .commander ∧ prerequisite.defId ≠ step.defId := by
  decide

theorem factory_or_commander : ∀ step ∈ defaultBootstrapPlan, step.builderCapability = .commander ∨
    step.builderCapability = .factoryGround ∨ step.builderCapability = .factoryAir := by
  decide

/-- The recursive call for a def that the commander builds does not go deeper. -/
theorem reissueManifestShortages_commander (depth : ℕ) (s : State)
    (reissue : List (String × ℕ) → State → Except ResetError State)
    (hfind : stepByDefName step.defId = some step) (hstep : step.builderCapability = .commander) :
    reissueManifestShortages floats engine ids target (depth + 1) [(step.defId, 1)] s =
      if ids.get step.defId = 0 then .error (.defNotResolved step.defId)
      else orderUnit floats engine ids target reissue step s := by
  have hunit : ∀ f g, orderUnit floats engine ids target f step s =
      orderUnit floats engine ids target g step s := fun f g ↦ by
    rw [orderUnit, if_pos hstep, orderUnit, if_pos hstep]
  have hsort : [(step.defId, 1)].insertionSort (·.1 ≤ ·.1) = [(step.defId, 1)] := rfl
  simp only [reissueManifestShortages, hsort, foldlM_cons, foldlM_nil, bind_pure,
    orderUnits, hfind, repeatTimes]
  split
  · rfl
  · rw [hunit _ reissue]
    rcases orderUnit floats engine ids target reissue step s with e | s'
    · rfl
    · rfl

/-- **The detour never helps.** If the factory of a def that is short is missing, the reset fails:
the wait after the detour wants the def itself. -/
theorem orderUnit_missing (h : ids.Resolved) (htarget : target.OverPlan)
    (hlive : LiveCommander engine ctx) (hstep : step ∈ defaultBootstrapPlan)
    (hfactory : step.builderCapability.IsFactory) (hseen : ¬FactorySeen engine ids ctx step s)
    (hshort : (engine.initial.countP fun unit ↦ unit.defId = ids.get step.defId) +
      s.defs.count (ids.get step.defId) < target.count step.defId) (depth : ℕ) :
    ∃ e, orderUnit floats engine ids target
      (reissueManifestShortages floats engine ids target (depth + 1)) step s = .error e := by
  obtain ⟨prerequisite, hmem, hfind, hname, hcommander, hne⟩ :=
    prerequisite_of_factory step hstep hfactory
  have hid : (refresh floats engine ids s).ctx.capabilityUnit step.builderCapability = 0 := by
    by_contra hid
    exact hseen ((refresh_capabilityUnit_ne_zero_iff h hlive hfactory).1 hid)
  have hget : ids.get prerequisite.defId ≠ ids.get step.defId :=
    fun heq ↦ hne (h.get_inj hmem hstep heq)
  rw [orderUnit, if_neg hfactory.ne_commander]
  simp only [hid, if_true, hfind]
  rw [reissueManifestShortages_commander depth _ (fun _ ↦ .ok) hname hcommander,
    if_neg (h.resolved _ hmem)]
  by_cases hlost : (refresh floats engine ids s).ctx.commanderUnitId = 0
  · exact ⟨_, by rw [orderUnit_commander_lost hcommander hlost]; rfl⟩
  · obtain ⟨s', hok, hsent⟩ : ∃ s', orderUnit floats engine ids target (fun _ ↦ .ok) prerequisite
        (refresh floats engine ids s) = .ok s' ∧ Sent engine (refresh floats engine ids s)
          [ids.get prerequisite.defId] 0 s' := orderUnit_commander hcommander hlost
    have hnot : ¬Met engine ids target s'.defs := by
      intro hmet
      have hcount := hmet step hstep
      rw [hsent.defs, count_append, count_singleton, if_neg (by simpa using hget)]
        at hcount
      exact absurd hcount (Nat.not_le.2 hshort)
    obtain ⟨e, he⟩ := (succeedsIff_waitForManifestMatch h htarget s').exists_error hnot
    refine ⟨e, ?_⟩
    rw [hok]
    show (waitForManifestMatch engine ids target s' >>= _) = _
    rw [he]
    rfl

/-- A unit asks for a reissue of its factory alone. -/
theorem orderUnit_congr {f g : List (String × ℕ) → State → Except ResetError State}
    (hfg : ∀ prerequisite ∈ defaultBootstrapPlan, prerequisite.builderCapability = .commander →
      stepByDefName prerequisite.defId = some prerequisite →
        f [(prerequisite.defId, 1)] = g [(prerequisite.defId, 1)])
    (hstep : step ∈ defaultBootstrapPlan) :
    orderUnit floats engine ids target f step = orderUnit floats engine ids target g step := by
  funext s
  by_cases hcommander : step.builderCapability = .commander
  · rw [orderUnit, if_pos hcommander, orderUnit, if_pos hcommander]
  · have hfactory : step.builderCapability.IsFactory :=
      ((factory_or_commander step hstep).resolve_left hcommander)
    obtain ⟨prerequisite, hmem, hfind, hname, hbuilder, -⟩ :=
      prerequisite_of_factory step hstep hfactory
    simp only [orderUnit, if_neg hcommander, hfind, hfg prerequisite hmem hbuilder hname]

theorem avoids_waitForManifestMatch (s : State) :
    Avoids .recursionDepth (waitForManifestMatch engine ids target s) := by
  rw [waitForManifestMatch]
  generalize engine.polls s.reads = polls
  induction polls generalizing s with
  | zero =>
    rw [pollManifest]
    split
    · exact .ok _
    · rintro ⟨⟩
  | succ polls ih =>
    rw [pollManifest]
    split
    · exact .ok _
    · exact ih _

theorem avoids_orderFromFactory (s : State) :
    Avoids .recursionDepth (orderFromFactory ids step s) := by
  rw [orderFromFactory]
  split
  · rintro ⟨⟩
  · exact .ok _

/-- An order is too deep only if the call for the factory is. -/
theorem avoids_orderUnit {reissue : List (String × ℕ) → State → Except ResetError State}
    (hreissue : ∀ prerequisite ∈ defaultBootstrapPlan,
      prerequisite.builderCapability = .commander →
        stepByDefName prerequisite.defId = some prerequisite →
          ∀ s, Avoids .recursionDepth (reissue [(prerequisite.defId, 1)] s))
    (hstep : step ∈ defaultBootstrapPlan) (s : State) :
    Avoids .recursionDepth (orderUnit floats engine ids target reissue step s) := by
  by_cases hcommander : step.builderCapability = .commander
  · rw [orderUnit, if_pos hcommander]
    split
    · rintro ⟨⟩
    · exact .ok _
  · obtain ⟨prerequisite, hmem, hfind, hname, hbuilder, -⟩ :=
      prerequisite_of_factory step hstep ((factory_or_commander step hstep).resolve_left hcommander)
    simp only [orderUnit, if_neg hcommander, hfind]
    split
    · exact (hreissue prerequisite hmem hbuilder hname _).bind fun _ ↦
        (avoids_waitForManifestMatch _).bind fun _ ↦ avoids_orderFromFactory _
    · exact avoids_orderFromFactory _

/-- **The recursion is two levels deep at most**: with two levels it does not end for their number,
and deeper recursion changes nothing. -/
theorem reissueManifestShortages_depth (depth : ℕ) (shortages : List (String × ℕ)) (s : State) :
    reissueManifestShortages floats engine ids target 2 shortages s ≠ .error .recursionDepth ∧
      reissueManifestShortages floats engine ids target (depth + 2) shortages s =
        reissueManifestShortages floats engine ids target 2 shortages s := by
  have hcommander : ∀ prerequisite ∈ defaultBootstrapPlan,
      prerequisite.builderCapability = .commander →
        stepByDefName prerequisite.defId = some prerequisite → ∀ depth s,
          reissueManifestShortages floats engine ids target (depth + 1)
            [(prerequisite.defId, 1)] s =
            if ids.get prerequisite.defId = 0 then .error (.defNotResolved prerequisite.defId)
            else orderUnit floats engine ids target (fun _ ↦ .ok) prerequisite s :=
    fun _ _ hbuilder hname depth s ↦ reissueManifestShortages_commander depth s _ hname hbuilder
  refine ⟨Avoids.foldlM (fun s entry ↦ ?_) _ s, foldlM_congr (fun entry _ s ↦ ?_) s⟩
  · rw [orderUnits]
    split
    · exact .ok _
    · rename_i step hfind
      split
      · rintro ⟨⟩
      · refine .repeatTimes (avoids_orderUnit (fun prerequisite hmem hbuilder hname s ↦ ?_)
          (mem_of_find?_eq_some hfind)) _ _
        rw [hcommander prerequisite hmem hbuilder hname]
        split
        · rintro ⟨⟩
        · exact avoids_orderUnit (fun _ _ _ _ ↦ .ok) hmem s
  · rw [orderUnits, orderUnits]
    split
    · rfl
    · rename_i step hfind
      rw [orderUnit_congr _ (mem_of_find?_eq_some hfind)]
      intro prerequisite hmem hbuilder hname
      funext s
      rw [hcommander prerequisite hmem hbuilder hname, hcommander prerequisite hmem hbuilder hname]

/-- The loop over the shortages is a loop over the plan. -/
theorem reissueManifestShortages_eq (h : ids.Resolved) (htarget : target.OverPlan) (depth : ℕ)
    (s : State) :
    reissueManifestShortages floats engine ids target (depth + 1)
        (manifestShortages (computeBootstrapManifest ids engine.initial) target) s =
      planNames.foldlM (fun s name ↦ orderUnits floats engine ids target
        (reissueManifestShortages floats engine ids target depth) name
        (shortage engine ids target name) s) s := by
  rw [reissueManifestShortages, insertionSort_manifestShortages htarget, shortagesByName,
    foldlM_filterMap]
  refine foldlM_congr (fun name hname s ↦ ?_) s
  by_cases hpos : 0 < shortage engine ids target name
  · simp only [hpos, if_true]
  · obtain ⟨step, hstep, hfind, rfl⟩ := stepByDefName_planNames name hname
    have hzero : shortage engine ids target step.defId = 0 := Nat.eq_zero_of_not_pos hpos
    simp only [hzero, lt_irrefl, if_false, orderUnits, hfind, h.resolved step hstep]
    rfl

/-! ### The turn of a def -/

/-- **When a def that is short has its builder.** The commander is there; the ground factory is
among the units at the start; the air factory is, or it was ordered before and a snapshot has shown
it by the first order of `armpeep`. -/
def Ready (engine : Engine) (ids : DefIds) (target : Manifest) (ctx : Context)
    (step : BuildStep) : Prop :=
  match step.builderCapability with
  | .commander => ctx.commanderUnitId ≠ 0
  | .factoryGround => ∃ id, id ≠ 0 ∧ factoryIn ids ctx "armvp" engine.initial = some id
  | .factoryAir =>
    (∃ id, id ≠ 0 ∧ factoryIn ids ctx "armap" engine.initial = some id) ∨
      factoryIn ids ctx "armap" engine.initial = none ∧
        0 < shortage engine ids target "armap" ∧
        (∃ r ≤ shortage engine ids target "armck", 0 < engine.feed r) ∧
        (engine.newborn 0).unitId ≠ 0
  | .mex | .solar | .radar | .builder | .cloakable => False

/-- How many reads the orders of a def take. -/
def readsOf (engine : Engine) (ids : DefIds) (target : Manifest) (name : String) : ℕ :=
  if name = "armck" ∨ name = "armpeep" then shortage engine ids target name else 0

/-- The state in which the loop is done with some of the names. -/
structure Reached (engine : Engine) (ids : DefIds) (target : Manifest) (ctx : Context)
    (before : List String) (s : State) : Prop where
  defs : s.defs = before.flatMap fun name ↦
    List.replicate (shortage engine ids target name) (ids.get name)
  commander : s.ctx.commanderUnitId = ctx.commanderUnitId
  reads : s.reads = (before.map (readsOf engine ids target)).sum
  shown : 0 < shortage engine ids target "armap" →
    (0 < s.shown ↔ ∃ r < s.reads, 0 < engine.feed r)

theorem reached_start : Reached engine ids target ctx [] ctx.start where
  defs := rfl
  commander := rfl
  reads := rfl
  shown _ := iff_of_false (Nat.lt_irrefl 0) fun ⟨_, hr, _⟩ ↦ absurd hr (Nat.not_lt_zero _)

/-- The orders of one more name. -/
theorem Reached.sent {before : List String} {s' : State}
    (hreached : Reached engine ids target ctx before s)
    (hsent : Sent engine s (List.replicate (shortage engine ids target name) (ids.get name))
      (readsOf engine ids target name) s') (hfirst : 0 < shortage engine ids target "armap" →
      s.defs ≠ [] ∨ readsOf engine ids target name = 0) :
    Reached engine ids target ctx (before ++ [name]) s' where
  defs := by
    rw [hsent.defs, hreached.defs, flatMap_append, flatMap_singleton]
  commander := hsent.commander.trans hreached.commander
  reads := by
    rw [hsent.reads, hreached.reads, map_append, sum_append, map_singleton,
      sum_singleton]
  shown hpos := by
    rw [hsent.shown (hfirst hpos), hreached.shown hpos, hsent.reads]
    constructor
    · rintro (⟨r, hlt, hr⟩ | ⟨r, -, hlt, hr⟩)
      · exact ⟨r, by omega, hr⟩
      · exact ⟨r, hlt, hr⟩
    · rintro ⟨r, hlt, hr⟩
      rcases Nat.lt_or_ge r s.reads with hold | hnew
      · exact .inl ⟨r, hold, hr⟩
      · exact .inr ⟨r, hnew, hlt, hr⟩

/-- New units of other defs do not matter for a factory. -/
theorem factoryIn_units_of_notMem {defs : List ℕ} (hdefs : ids.get name ∉ defs) :
    factoryIn ids ctx name (engine.units defs) = factoryIn ids ctx name engine.initial := by
  have hnew : factoryIn ids ctx name (defs.mapIdx fun i defId ↦ (engine.newborn i).unit defId) =
      none := by
    rw [factoryIn, Option.map_eq_none_iff, find?_eq_none]
    intro unit hunit hmatch
    have hdef := mem_map_of_mem (f := OwnUnit.defId) (mem_of_mem_filter hunit)
    rw [map_defId_mapIdx] at hdef
    rw [Bool.and_eq_true, decide_eq_true_eq] at hmatch
    exact hdefs (hmatch.1 ▸ hdef)
  rw [Engine.units, factoryIn_append, hnew, Option.or_none]

theorem factoryIn_cons {unit : OwnUnit} {units : List OwnUnit}
    (hother : unit.unitId ≠ ctx.commanderUnitId) (hdef : unit.defId = ids.get name)
    (hready : unit.isReady = true) :
    factoryIn ids ctx name (unit :: units) = some unit.unitId := by
  rw [factoryIn, filter_cons, if_pos (decide_eq_true hother), find?_cons]
  simp only [hdef, hready, decide_true, Bool.and_self, Option.map_some]

/-- The unit of the first order, if that was for the factory. -/
theorem factoryIn_units_cons (hlive : LiveCommander engine ctx) {defs : List ℕ}
    (hinitial : factoryIn ids ctx name engine.initial = none) :
    factoryIn ids ctx name (engine.units (ids.get name :: defs)) =
      some (engine.newborn 0).unitId := by
  rw [Engine.units, factoryIn_append, hinitial, Option.none_or, mapIdx_cons]
  exact factoryIn_cons (hlive.newborn 0) rfl (Newborn.isReady_unit _ _)

/-- A def has not been ordered before its turn. -/
theorem Reached.notMem_defs (h : ids.Resolved) (hreached : Reached engine ids target ctx before s)
    (hsplit : planNames = before ++ step.defId :: after) : ids.get step.defId ∉ s.defs := by
  rw [hreached.defs, mem_flatMap]
  rintro ⟨name, hname, hmem⟩
  have hdisjoint := disjoint_of_nodup_append (hsplit ▸ nodup_planNames) hname
  refine h.get_ne_get ?_ ?_ ?_ (eq_of_mem_replicate hmem)
  · exact hsplit ▸ mem_append_right _ (mem_cons_self ..)
  · exact hsplit ▸ mem_append_left _ hname
  · rintro rfl
    exact hdisjoint (mem_cons_self ..)

/-- What a read shows of the first orders. -/
theorem latest_read (s : State) :
    engine.latest (engine.read s) = engine.units (s.defs.take (engine.read s).shown) := rfl

theorem read_shown_pos_iff (hdefs : s.defs ≠ []) :
    0 < (engine.read s).shown ↔ 0 < s.shown ∨ 0 < engine.feed s.reads := by
  have hlength : 0 < s.orders.length := by
    rw [length_pos_iff]
    exact fun hnil ↦ hdefs (congrArg (List.map _) hnil)
  have hshown : (engine.read s).shown = max s.shown (min (engine.feed s.reads) s.orders.length) :=
    rfl
  rw [hshown, lt_max_iff, lt_min_iff, and_iff_left hlength]

/-- The ground factory has its turn after the def it builds, so it has to be there at the start. -/
theorem factorySeen_armck (h : ids.Resolved) (hreached : Reached engine ids target ctx ["armap"] s)
    (hstep : step.builderCapability = .factoryGround) :
    FactorySeen engine ids ctx step s ↔ Ready engine ids target ctx step := by
  have hdefs : ids.get "armvp" ∉ s.defs.take (engine.read s).shown := by
    intro hmem
    have hdefs := hreached.defs
    rw [flatMap_singleton] at hdefs
    have heq := eq_of_mem_replicate (hdefs ▸ mem_of_mem_take hmem)
    exact h.get_ne_get (by decide) (by decide) (by decide) heq
  rw [FactorySeen, latest_read, hstep, factoryName, factoryIn_units_of_notMem hdefs, Ready, hstep]

/-- The air factory has its turn before the def it builds. -/
theorem factorySeen_armpeep (h : ids.Resolved) (hlive : LiveCommander engine ctx)
    (hreached : Reached engine ids target ctx ["armap", "armck", "armmex"] s)
    (hstep : step.builderCapability = .factoryAir) :
    FactorySeen engine ids ctx step s ↔ Ready engine ids target ctx step := by
  have hdefs : s.defs = List.replicate (shortage engine ids target "armap") (ids.get "armap") ++
      ["armck", "armmex"].flatMap fun name ↦
        List.replicate (shortage engine ids target name) (ids.get name) := hreached.defs
  have hreads : s.reads = shortage engine ids target "armck" := by
    rw [hreached.reads]
    simp [readsOf]
  rw [FactorySeen, latest_read, hstep, factoryName, Ready, hstep]
  rcases hinitial : factoryIn ids ctx "armap" engine.initial with - | id
  · simp only [reduceCtorEq, and_false, exists_false, false_or, true_and]
    have hother : ids.get "armap" ∉ ["armck", "armmex"].flatMap fun name ↦
        List.replicate (shortage engine ids target name) (ids.get name) := by
      rw [mem_flatMap]
      rintro ⟨name, hname, hmem⟩
      have hnames : ∀ name ∈ ["armck", "armmex"], name ∈ planNames ∧ "armap" ≠ name := by decide
      exact h.get_ne_get (by decide) (hnames name hname).1 (hnames name hname).2
        (eq_of_mem_replicate hmem)
    rcases hshort : shortage engine ids target "armap" with - | n
    · -- no order for the factory, and none at the start
      rw [hshort, replicate_zero, nil_append] at hdefs
      have hnone : ids.get "armap" ∉ s.defs.take (engine.read s).shown := fun hmem ↦
        hother (hdefs ▸ mem_of_mem_take hmem)
      rw [factoryIn_units_of_notMem hnone, hinitial]
      simp only [reduceCtorEq, and_false, exists_false, lt_irrefl, false_and]
    · -- the first order was for the factory
      rw [hshort, replicate_succ, cons_append] at hdefs
      have hne : s.defs ≠ [] := hdefs ▸ cons_ne_nil _ _
      have hseen : 0 < (engine.read s).shown ↔
          ∃ r ≤ shortage engine ids target "armck", 0 < engine.feed r := by
        rw [read_shown_pos_iff hne, hreached.shown (hshort ▸ Nat.succ_pos n), ← hreads]
        simp only [Nat.le_iff_lt_or_eq, or_and_right, exists_or, exists_eq_left]
      rw [← hseen]
      rcases (engine.read s).shown with - | k
      · rw [take_zero, factoryIn_units_of_notMem not_mem_nil, hinitial]
        simp only [reduceCtorEq, and_false, exists_false, lt_irrefl, false_and]
      · rw [hdefs, take_succ_cons, factoryIn_units_cons hlive hinitial]
        simp only [Option.some.injEq, exists_eq_right', Nat.succ_pos, true_and]
  · have hall : factoryIn ids ctx "armap" (engine.units (s.defs.take (engine.read s).shown)) =
        some id := factoryIn_of_prefix (prefix_append _ _) hinitial
    simp only [hall, reduceCtorEq, false_and, or_false]

/-- The plan: the factories build one unit each, the commander the rest. -/
theorem plan_cases : ∀ step ∈ defaultBootstrapPlan,
    step.builderCapability = .commander ∧ step.defId ≠ "armck" ∧ step.defId ≠ "armpeep" ∨
      step.builderCapability = .factoryGround ∧ step.defId = "armck" ∨
      step.builderCapability = .factoryAir ∧ step.defId = "armpeep" := by
  decide

/-- When its turn comes, the factory of a def is seen exactly if the def is ready. -/
theorem factorySeen_iff_ready (h : ids.Resolved) (hlive : LiveCommander engine ctx)
    (hstep : step ∈ defaultBootstrapPlan) (hsplit : planNames = before ++ step.defId :: after)
    (hreached : Reached engine ids target ctx before s)
    (hfactory : step.builderCapability.IsFactory) :
    FactorySeen engine ids ctx step s ↔ Ready engine ids target ctx step := by
  have hbefore := eq_take_of_nodup nodup_planNames hsplit
  rcases plan_cases step hstep with ⟨hcommander, -⟩ | ⟨hground, hname⟩ | ⟨hair, hname⟩
  · exact absurd hcommander hfactory.ne_commander
  · rw [hname] at hbefore
    obtain rfl : before = ["armap"] := hbefore
    exact factorySeen_armck h hreached hground
  · rw [hname] at hbefore
    obtain rfl : before = ["armap", "armck", "armmex"] := hbefore
    exact factorySeen_armpeep h hlive hreached hair

theorem plan_unique : ∀ step ∈ defaultBootstrapPlan, ∀ step' ∈ defaultBootstrapPlan,
    step'.defId = step.defId → step' = step := by
  decide

/-- The turn of a def that the commander builds. -/
theorem succeedsIff_commanderTurn {before : List String}
    (hreached : Reached engine ids target ctx before s)
    (hcommander : step.builderCapability = .commander)
    (hreads : readsOf engine ids target step.defId = 0)
    (hpos : 0 < shortage engine ids target step.defId) :
    SucceedsIff (Ready engine ids target ctx step)
      (Reached engine ids target ctx (before ++ [step.defId]))
      (repeatTimes (orderUnit floats engine ids target reissue step)
        (shortage engine ids target step.defId) s) := by
  have hready : Ready engine ids target ctx step ↔ s.ctx.commanderUnitId ≠ 0 := by
    rw [Ready, hcommander, hreached.commander]
  by_cases hlost : s.ctx.commanderUnitId = 0
  · obtain ⟨n, hn⟩ := Nat.exists_eq_succ_of_ne_zero (Nat.pos_iff_ne_zero.1 hpos)
    rw [hn, repeatTimes, orderUnit_commander_lost hcommander hlost]
    exact .error fun h ↦ hready.1 h hlost
  · obtain ⟨s', hok, hsent⟩ := repeatTimes_commander hcommander
      (shortage engine ids target step.defId) hlost
    rw [hok]
    exact .ok (hready.2 hlost) (hreached.sent (hreads ▸ hsent) fun _ ↦ .inr hreads)

variable (h : ids.Resolved) (htarget : target.OverPlan) (hlive : LiveCommander engine ctx)
include h htarget hlive

/-- The turn of a def that a factory builds. -/
theorem succeedsIff_factoryTurn (hstep : step ∈ defaultBootstrapPlan)
    (hsplit : planNames = before ++ step.defId :: after)
    (hreached : Reached engine ids target ctx before s)
    (hfactory : step.builderCapability.IsFactory)
    (hreads : readsOf engine ids target step.defId = shortage engine ids target step.defId)
    (hair : "armap" ∈ before) (hpos : 0 < shortage engine ids target step.defId) (depth : ℕ) :
    SucceedsIff (Ready engine ids target ctx step)
      (Reached engine ids target ctx (before ++ [step.defId]))
      (repeatTimes (orderUnit floats engine ids target
        (reissueManifestShortages floats engine ids target (depth + 1)) step)
        (shortage engine ids target step.defId) s) := by
  have hready := factorySeen_iff_ready h hlive hstep hsplit hreached hfactory
  by_cases hseen : FactorySeen engine ids ctx step s
  · obtain ⟨s', hok, hsent⟩ := repeatTimes_factory h hlive hfactory
      (shortage engine ids target step.defId) hreached.commander hseen
    rw [hok]
    refine .ok (hready.1 hseen) (hreached.sent (hreads ▸ hsent) fun hshort ↦ .inl ?_)
    have hmem : ids.get "armap" ∈ s.defs := by
      rw [hreached.defs, mem_flatMap]
      exact ⟨"armap", hair, mem_replicate.2 ⟨Nat.pos_iff_ne_zero.1 hshort, rfl⟩⟩
    exact ne_nil_of_mem hmem
  · -- the first order already fails
    obtain ⟨n, hn⟩ := Nat.exists_eq_succ_of_ne_zero (Nat.pos_iff_ne_zero.1 hpos)
    have hshort : (engine.initial.countP fun unit ↦ unit.defId = ids.get step.defId) +
        s.defs.count (ids.get step.defId) < target.count step.defId := by
      rw [count_eq_zero.2 (hreached.notMem_defs h hsplit)]
      rw [shortage_eq h hstep] at hpos
      omega
    obtain ⟨e, he⟩ := orderUnit_missing h htarget hlive hstep hfactory hseen hshort depth
    rw [hn, repeatTimes, he]
    exact .error fun hnot ↦ hseen (hready.2 hnot)

/-- **One turn.** The orders of a def go out exactly if it is not short or it is ready. -/
theorem succeedsIff_orderUnits (hsplit : planNames = before ++ name :: after)
    (hreached : Reached engine ids target ctx before s) (depth : ℕ) :
    SucceedsIff (∀ step ∈ defaultBootstrapPlan, step.defId = name →
        0 < shortage engine ids target name → Ready engine ids target ctx step)
      (Reached engine ids target ctx (before ++ [name]))
      (orderUnits floats engine ids target
        (reissueManifestShortages floats engine ids target (depth + 1)) name
        (shortage engine ids target name) s) := by
  have hname : name ∈ planNames := hsplit ▸ mem_append_right _ (mem_cons_self ..)
  obtain ⟨step, hstep, hfind, rfl⟩ := stepByDefName_planNames name hname
  have hready : (0 < shortage engine ids target step.defId → Ready engine ids target ctx step) ↔
      ∀ step' ∈ defaultBootstrapPlan, step'.defId = step.defId →
        0 < shortage engine ids target step.defId → Ready engine ids target ctx step' :=
    ⟨fun hready step' hstep' heq ↦ plan_unique step hstep step' hstep' heq ▸ hready,
      fun hready ↦ hready step hstep rfl⟩
  simp only [orderUnits, hfind, h.resolved step hstep, if_false]
  refine SucceedsIff.congr ?_ hready
  by_cases hpos : 0 < shortage engine ids target step.defId
  · refine SucceedsIff.congr ?_ (forall_prop_of_true hpos).symm
    rcases plan_cases step hstep with ⟨hcommander, hck, hpeep⟩ | hfactory
    · exact succeedsIff_commanderTurn hreached hcommander (if_neg (not_or.2 ⟨hck, hpeep⟩)) hpos
    · have hnames := hfactory.imp And.right And.right
      refine succeedsIff_factoryTurn h htarget hlive hstep hsplit hreached
        (hfactory.imp And.left And.left) (if_pos hnames) ?_ hpos depth
      rw [eq_take_of_nodup nodup_planNames hsplit]
      rcases hnames with hck | hpeep
      · rw [hck]
        decide
      · rw [hpeep]
        decide
  · have hzero : shortage engine ids target step.defId = 0 := Nat.eq_zero_of_not_pos hpos
    have hreads : readsOf engine ids target step.defId = 0 := by
      rw [readsOf, hzero, ite_self]
    have hsent : Sent engine s (List.replicate (shortage engine ids target step.defId)
        (ids.get step.defId)) (readsOf engine ids target step.defId) s := by
      rw [hreads, hzero]
      exact Sent.refl s
    have hok : repeatTimes (orderUnit floats engine ids target
        (reissueManifestShortages floats engine ids target (depth + 1)) step)
          (shortage engine ids target step.defId) s = .ok s := by
      rw [hzero]
      rfl
    rw [hok]
    exact .ok (fun h ↦ absurd h hpos) (hreached.sent hsent fun _ ↦ .inr hreads)

/-! ### The whole reset -/

/-- **The reset succeeds exactly if every step it needs is ready.** -/
theorem succeedsIff_resetToManifest :
    SucceedsIff (∀ step ∈ defaultBootstrapPlan, 0 < shortage engine ids target step.defId →
        Ready engine ids target ctx step)
      (fun s ↦ s.defs = ordersFor engine ids target)
      (resetToManifest floats engine ids target ctx) := by
  rw [resetToManifest]
  split
  · rename_i hnil
    have hzero := shortage_eq_zero_of_nil hnil
    refine .ok (fun step _ hpos ↦ absurd (hzero _) (Nat.pos_iff_ne_zero.1 hpos)) ?_
    simp only [ordersFor, hzero, replicate_zero]
    rfl
  · have hall : (∀ name ∈ planNames, ∀ step ∈ defaultBootstrapPlan, step.defId = name →
          0 < shortage engine ids target name → Ready engine ids target ctx step) ∧ True ↔
        ∀ step ∈ defaultBootstrapPlan, 0 < shortage engine ids target step.defId →
          Ready engine ids target ctx step := by
      have hplan : ∀ step ∈ defaultBootstrapPlan, step.defId ∈ planNames := by decide
      rw [and_true]
      exact ⟨fun h step hstep ↦ h _ (hplan step hstep) step hstep rfl,
        fun h _ _ step hstep heq ↦ heq ▸ h step hstep⟩
    rw [reissueManifestShortages_eq h htarget 1]
    have hloop : SucceedsIff (∀ name ∈ planNames, ∀ step ∈ defaultBootstrapPlan,
          step.defId = name → 0 < shortage engine ids target name →
            Ready engine ids target ctx step)
        (Reached engine ids target ctx planNames) (planNames.foldlM (fun s name ↦
          orderUnits floats engine ids target (reissueManifestShortages floats engine ids target 1)
            name (shortage engine ids target name) s) ctx.start) :=
      succeedsIff_foldlM (Reached engine ids target ctx) (fun _ _ _ _ hsplit hreached ↦
        succeedsIff_orderUnits h htarget hlive hsplit hreached 0) reached_start
    refine (hloop.bind fun s hreached ↦ ?_).congr hall
    have hdefs : s.defs = ordersFor engine ids target := hreached.defs
    have hmet : Met engine ids target s.defs := hdefs ▸ met_ordersFor h htarget
    refine ((succeedsIff_waitForManifestMatch h htarget s).congr (iff_true_intro hmet)).mono ?_
    intro s' horders
    rw [← hdefs, State.defs, horders]
    rfl

end

/-- **When the reset recovers every loss.** The reset raises nothing and sends as many orders for
each def as units of it are missing, exactly if every def that is short is ready. -/
theorem reset_recovers_iff (floats : ClientFloats) (engine : Engine) (ids : DefIds)
    (target : Manifest) (ctx : Context) (h : ids.Resolved) (htarget : target.OverPlan)
    (hlive : LiveCommander engine ctx) :
    (∃ s, resetToManifest floats engine ids target ctx = .ok s ∧
      ∀ name, ids.get name ≠ 0 →
        s.defs.count (ids.get name) = shortage engine ids target name) ↔
      ∀ step ∈ defaultBootstrapPlan, 0 < shortage engine ids target step.defId →
        Ready engine ids target ctx step := by
  have hreset : SucceedsIff _ _ (resetToManifest floats engine ids target ctx) :=
    succeedsIff_resetToManifest h htarget hlive
  constructor
  · rintro ⟨s, hok, -⟩
    exact (hreset.of_eq_ok hok).1
  · intro hready
    obtain ⟨s, hok, hdefs⟩ := hreset.exists_ok hready
    exact ⟨s, hok, fun name hname ↦ hdefs ▸ count_ordersFor h htarget hname⟩

/-! ### The examples: one builder and its factory -/

/-- Rational arithmetic. -/
def exactFloats : ClientFloats where
  add
    | .finite a, .finite b => .finite (a + b)
    | _, _ => .nan
  sub
    | .finite a, .finite b => .finite (a - b)
    | _, _ => .nan
  abs
    | .finite a => .finite (max a (-a))
    | _ => .nan

/-- The commander, at the origin. -/
def commanderUnit : OwnUnit :=
  { unitId := 42, defId := 1, position := offset 0 0 0, health := .finite 3250,
    maxHealth := .finite 3250, underConstruction := false, buildProgress := .zero }

/-- A ground factory, where the plan puts it. -/
def groundFactory : OwnUnit :=
  { unitId := 103, defId := 13, position := offset 160 0 96, health := .finite 2050,
    maxHealth := .finite 2050, underConstruction := false, buildProgress := .zero }

/-- An engine with these units at the start, whose snapshots show every order at once. -/
def promptEngine (initial : List OwnUnit) : Engine :=
  { initial := initial
    newborn := fun i ↦
      { unitId := 200 + i, position := offset 0 0 0, health := .finite 690,
        maxHealth := .finite 690, buildProgress := .zero,
        alive := rfl, complete := rfl, ordinary := rfl }
    feed := fun _ ↦ 100
    polls := fun _ ↦ 2 }

/-- A game that knows every definition of the plan. -/
def planIds : DefIds :=
  ⟨[("armcom", 1), ("armmex", 11), ("armsolar", 12), ("armvp", 13), ("armap", 14), ("armrad", 15),
    ("armck", 16), ("armpeep", 17)], by decide⟩

/-- A manifest of a builder and its factory. -/
def builderManifest : Manifest := ⟨[("armck", 1), ("armvp", 1)], by decide⟩

/-- A context with the commander alone. -/
def commanderContext : Context := ⟨42, offset 0 0 0, none, none, []⟩

theorem resolved_planIds : planIds.Resolved := ⟨by decide, by decide⟩

theorem overPlan_builderManifest : builderManifest.OverPlan := by
  show ∀ entry ∈ [("armck", 1), ("armvp", 1)], ∃ step ∈ defaultBootstrapPlan, step.defId = entry.1
  decide

theorem liveCommander_promptEngine {initial : List OwnUnit}
    (h : (findCommander initial).map OwnUnit.unitId = some 42) :
    LiveCommander (promptEngine initial) commanderContext := by
  refine ⟨h, fun i heq ↦ ?_⟩
  have hid : 200 + i = 42 := heq
  omega

/-- The builder is lost and its factory is there. -/
theorem reset_recovers_builder :
    ∃ s, resetToManifest exactFloats (promptEngine [commanderUnit, groundFactory]) planIds
        builderManifest commanderContext = .ok s ∧
      ∀ name, planIds.get name ≠ 0 → s.defs.count (planIds.get name) =
        shortage (promptEngine [commanderUnit, groundFactory]) planIds builderManifest name := by
  refine (reset_recovers_iff exactFloats _ planIds builderManifest commanderContext
    resolved_planIds overPlan_builderManifest (liveCommander_promptEngine rfl)).2 ?_
  intro step hstep hpos
  rw [Ready]
  rcases plan_cases step hstep with ⟨hcommander, -⟩ | ⟨hground, -⟩ | ⟨-, hpeep⟩
  · rw [hcommander]
    exact Nat.succ_ne_zero 41
  · rw [hground]
    exact ⟨103, Nat.succ_ne_zero 102, by decide⟩
  · rw [hpeep] at hpos
    exact absurd hpos (by decide)

/-- **The builder and its factory are lost.** The driver orders the factory and waits until the
builder is there, which it has not ordered. -/
theorem reset_waits_for_unordered_builder :
    planIds.Resolved ∧ builderManifest.OverPlan ∧
      LiveCommander (promptEngine [commanderUnit]) commanderContext ∧
      "armvp" ∈ builderManifest.entries.map Prod.fst ∧
      resetToManifest exactFloats (promptEngine [commanderUnit]) planIds builderManifest
        commanderContext = .error (.manifestTimeout [("armck", 1)] [("armvp", 1)]
          [("armck", 1), ("armvp", 1)]) := by
  refine ⟨resolved_planIds, overPlan_builderManifest, liveCommander_promptEngine rfl, ?_, ?_⟩
  · decide
  · decide +kernel

end HighBar.Client.Reset
