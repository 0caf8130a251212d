import HighBar.Client.ManifestReset

/-!
# Counting the units of the plan

What the manifest functions compute, in terms of numbers of units: the manifest counts the units of
each def of the plan, a target is met if there are enough of them, and the shortages come in the
order of the names of the defs (`planNames`). A wait for the manifest ends well exactly if the units
of all the orders are enough.
-/

open ExceptSpec

namespace HighBar.Client.Reset

open List Option

/-! ### Names and ids -/

/-- Every def of the plan has an id, and no other name has the same. -/
structure DefIds.Resolved (ids : DefIds) : Prop where
  resolved : ∀ step ∈ defaultBootstrapPlan, ids.get step.defId ≠ 0
  distinct : ∀ step ∈ defaultBootstrapPlan, ∀ entry ∈ ids.entries,
    entry.2 = ids.get step.defId → entry.1 = step.defId

variable {ids : DefIds} {name : String} {step : BuildStep} {entry : String × ℕ}

theorem DefIds.Resolved.get_ne_zero (h : ids.Resolved) (hname : (stepByDefName name).isSome = true)
    : ids.get name ≠ 0 := by
  obtain ⟨step, hstep⟩ := isSome_iff_exists.1 hname
  have hdef : step.defId = name := by
    have hfound := find?_some hstep
    exact of_decide_eq_true hfound
  exact hdef ▸ h.resolved step (mem_of_find?_eq_some hstep)

/-- In a dictionary, an entry is what the lookup of its key finds. -/
theorem mem_iff_lookup_eq_some {entries : List (String × ℕ)} (hnodup : (entries.map Prod.fst).Nodup)
    {n : ℕ} :
    (name, n) ∈ entries ↔ entries.lookup name = some n := by
  rw [lookup_eq_some_iff]
  constructor
  · intro hmem
    obtain ⟨before, after, rfl⟩ := append_of_mem hmem
    refine ⟨before, after, rfl, fun entry hentry ↦ ?_⟩
    rw [map_append, map_cons, nodup_append] at hnodup
    have hne := hnodup.2.2 entry.1 (mem_map_of_mem hentry) name (mem_cons_self ..)
    exact bne_iff_ne.2 hne.symm
  · rintro ⟨before, after, rfl, -⟩
    exact mem_append_right _ (mem_cons_self ..)

/-- The label of an unknown def is no name of the plan. -/
theorem defLabel_ne (hstep : step ∈ defaultBootstrapPlan) (defId : ℕ) :
    s!"def#{defId}" ≠ step.defId := by
  have hplan : ∀ step ∈ defaultBootstrapPlan, step.defId.toList.head? ≠ some 'd' := by decide
  have hhead : (s!"def#{defId}").toList.head? = some 'd' := by
    simp only [toString, String.toList_append]
    rfl
  intro heq
  rw [heq] at hhead
  exact hplan step hstep hhead

theorem DefIds.get_eq_of_mem (hentry : entry ∈ ids.entries) :
    ids.get entry.1 = entry.2 := by
  rw [DefIds.get, (mem_iff_lookup_eq_some ids.nodup).1 hentry]
  rfl

/-- A def has the name of a step of the plan exactly if it has its id. -/
theorem DefIds.Resolved.nameOf_eq_iff (h : ids.Resolved) (hstep : step ∈ defaultBootstrapPlan)
    {defId : ℕ} :
    ids.nameOf defId = step.defId ↔ defId = ids.get step.defId := by
  rw [DefIds.nameOf]
  split
  case h_2 hfind =>
    refine iff_of_false (defLabel_ne hstep defId) ?_
    rintro rfl
    have hlookup : ids.entries.lookup step.defId = some (ids.get step.defId) := by
      rcases hget : ids.entries.lookup step.defId with - | id
      · exact absurd (by rw [DefIds.get, hget]; rfl) (h.resolved step hstep)
      · rw [DefIds.get, hget]
        rfl
    have hmem := (mem_iff_lookup_eq_some ids.nodup).2 hlookup
    exact find?_eq_none.1 hfind _ (mem_reverse.2 hmem) (decide_eq_true rfl)
  case h_1 entry hfind =>
    have hentry := mem_reverse.1 (mem_of_find?_eq_some hfind)
    have hid : entry.2 = defId := by
      have hfound := find?_some hfind
      exact of_decide_eq_true hfound
    constructor
    · intro hname
      rw [← hid, ← DefIds.get_eq_of_mem hentry, hname]
    · intro hdef
      exact h.distinct step hstep entry hentry (hid.trans hdef)

/-! ### Counts -/

/-- What a dictionary comprehension over keys has for a key. -/
theorem lookup_map_key {keys : List String} (f : String → ℕ) (name : String) :
    (keys.map fun key ↦ (key, f key)).lookup name =
      if name ∈ keys then some (f name) else none := by
  induction keys with
  | nil => rfl
  | cons key keys ih =>
    by_cases hname : name = key
    · subst hname
      simp only [map_cons, lookup_cons_self, mem_cons, true_or, if_true]
    · have hne : (name == key) = false := beq_eq_false_iff_ne.2 hname
      simp only [map_cons, lookup_cons, hne, ih, mem_cons, hname, false_or]

/-- The manifest counts the units of each def of the plan. -/
theorem count_computeBootstrapManifest (h : ids.Resolved) (hstep : step ∈ defaultBootstrapPlan)
    (units : List OwnUnit) :
    (computeBootstrapManifest ids units).count step.defId =
      units.countP fun unit ↦ unit.defId = ids.get step.defId := by
  have hnames : (units.map fun unit ↦ ids.nameOf unit.defId).count step.defId =
      units.countP fun unit ↦ unit.defId = ids.get step.defId := by
    rw [List.count, countP_map]
    refine countP_congr fun unit _ ↦ ?_
    simp only [Function.comp_apply, beq_iff_eq, decide_eq_true_eq]
    exact h.nameOf_eq_iff hstep
  have hallowed : (defaultBootstrapPlan.any fun s ↦ s.defId = step.defId) = true :=
    any_eq_true.2 ⟨step, hstep, decide_eq_true rfl⟩
  rw [← hnames, Manifest.count]
  simp only [computeBootstrapManifest, computeManifest, List.filter_map]
  rw [lookup_map_key]
  simp only [mem_filter, mem_insertionSort, mem_dedup, Function.comp_apply, hallowed,
    and_true]
  split
  · rfl
  · rename_i hnot
    exact (count_eq_zero.2 hnot).symm

/-- The manifest is about the plan. -/
def Manifest.OverPlan (target : Manifest) : Prop :=
  ∀ entry ∈ target.entries, ∃ step ∈ defaultBootstrapPlan, step.defId = entry.1

/-- There is no shortage exactly if every count is reached. -/
theorem manifestShortages_eq_nil_iff {current target : Manifest} :
    manifestShortages current target = [] ↔
      ∀ entry ∈ target.entries, entry.2 ≤ current.count entry.1 := by
  simp only [manifestShortages, filterMap_eq_nil_iff, mem_insertionSort, ite_eq_right_iff,
    reduceCtorEq, imp_false, Nat.not_lt]

/-- A manifest over the plan is met exactly if there are enough units of each def. -/
theorem manifestShortages_computeBootstrapManifest_eq_nil (h : ids.Resolved) {target : Manifest}
    (htarget : target.OverPlan) {units : List OwnUnit} :
    manifestShortages (computeBootstrapManifest ids units) target = [] ↔
      ∀ step ∈ defaultBootstrapPlan,
        target.count step.defId ≤ units.countP fun unit ↦ unit.defId = ids.get step.defId := by
  rw [manifestShortages_eq_nil_iff]
  constructor
  · intro hmet step hstep
    rw [Manifest.count]
    rcases hlookup : target.entries.lookup step.defId with - | want
    · exact Nat.zero_le _
    · have hentry := hmet _ ((mem_iff_lookup_eq_some target.nodup).2 hlookup)
      rwa [count_computeBootstrapManifest h hstep] at hentry
  · intro hmet entry hentry
    obtain ⟨step, hstep, hname⟩ := htarget entry hentry
    have hcount : target.count entry.1 = entry.2 := by
      rw [Manifest.count, (mem_iff_lookup_eq_some target.nodup).1 hentry]
      rfl
    rw [← hcount, ← hname, count_computeBootstrapManifest h hstep]
    exact hmet step hstep

/-! ### The engine -/

theorem map_defId_mapIdx (newborn : ℕ → Newborn) (defs : List ℕ) :
    (defs.mapIdx fun i defId ↦ (newborn i).unit defId).map OwnUnit.defId = defs := by
  refine ext_getElem? fun i ↦ ?_
  rw [List.getElem?_map, List.getElem?_mapIdx, Option.map_map]
  exact map_id'

/-- Each order adds one unit of its def. -/
theorem Engine.countP_units (engine : Engine) (defs : List ℕ) (defId : ℕ) :
    ((engine.units defs).countP fun unit ↦ unit.defId = defId) =
      (engine.initial.countP fun unit ↦ unit.defId = defId) + defs.count defId := by
  have hnew := countP_map (p := (· == defId)) (f := OwnUnit.defId)
    (l := defs.mapIdx fun i d ↦ (engine.newborn i).unit d)
  rw [map_defId_mapIdx] at hnew
  rw [Engine.units, countP_append, List.count, hnew]
  rfl

/-- Later orders add units behind the earlier ones. -/
theorem Engine.units_prefix {engine : Engine} {defs defs' : List ℕ} (h : defs <+: defs') :
    engine.units defs <+: engine.units defs' := by
  obtain ⟨more, rfl⟩ := h
  rw [Engine.units, Engine.units, mapIdx_append, ← append_assoc]
  exact prefix_append _ _

@[simp] theorem Engine.read_defs (engine : Engine) (s : State) : (engine.read s).defs = s.defs :=
  rfl

@[simp] theorem State.showAll_defs (s : State) : s.showAll.defs = s.defs := rfl

theorem State.dispatch_defs (s : State) (order : BuildOrder) :
    (s.dispatch order).defs = s.defs ++ [order.defId] := by
  rw [State.defs, State.dispatch, map_append]
  rfl

section

variable {floats : ClientFloats} {engine : Engine} {ids : DefIds} {target : Manifest}

/-- There are enough units after orders for these defs. -/
def Met (engine : Engine) (ids : DefIds) (target : Manifest) (defs : List ℕ) : Prop :=
  ∀ step ∈ defaultBootstrapPlan, target.count step.defId ≤
    (engine.initial.countP fun unit ↦ unit.defId = ids.get step.defId) +
      defs.count (ids.get step.defId)

/-- More orders meet the target as well. -/
theorem Met.mono {defs defs' : List ℕ} (h : Met engine ids target defs)
    (hsub : defs.Sublist defs') : Met engine ids target defs' :=
  fun step hstep ↦ (h step hstep).trans (Nat.add_le_add_left (hsub.count_le _) _)

/-- Nothing is missing exactly if the orders shown so far meet the target. -/
theorem remaining_eq_nil_iff (h : ids.Resolved) (htarget : target.OverPlan) {s : State} :
    remaining engine ids target s = [] ↔ Met engine ids target (s.defs.take s.shown) := by
  simp only [remaining, manifestShortages_computeBootstrapManifest_eq_nil h htarget, Engine.latest,
    Engine.countP_units, Met]

/-- A wait ends well exactly if the units of all the orders are enough. -/
theorem succeedsIff_pollManifest (h : ids.Resolved) (htarget : target.OverPlan) (polls : ℕ)
    (s : State) :
    SucceedsIff (Met engine ids target s.defs) (fun s' ↦ s'.orders = s.orders)
      (pollManifest engine ids target polls s) := by
  induction polls generalizing s with
  | zero =>
    have hall : remaining engine ids target s.showAll = [] ↔ Met engine ids target s.defs := by
      rw [remaining_eq_nil_iff h htarget, State.showAll_defs]
      simp only [State.showAll, State.defs, take_of_length_le, length_map,
        Nat.le_refl]
    rw [← hall, pollManifest]
    split
    · exact .ok ‹_› rfl
    · exact .error ‹_›
  | succ polls ih =>
    rw [pollManifest]
    split
    · rename_i hmet
      rw [remaining_eq_nil_iff h htarget] at hmet
      exact .ok (hmet.mono (take_sublist ..)) rfl
    · exact ih (engine.read s)

/-- The wait succeeds exactly if what was ordered meets the target. -/
theorem succeedsIff_waitForManifestMatch (h : ids.Resolved) (htarget : target.OverPlan)
    (s : State) :
    SucceedsIff (Met engine ids target s.defs) (fun s' ↦ s'.orders = s.orders)
      (waitForManifestMatch engine ids target s) :=
  succeedsIff_pollManifest h htarget _ s

/-! ### The order of the defs -/

/-- The defs of the plan in the order of their names. -/
def planNames : List String :=
  ["armap", "armck", "armmex", "armpeep", "armrad", "armsolar", "armvp"]

/-- How many units of the def are missing at the start. -/
def shortage (engine : Engine) (ids : DefIds) (target : Manifest) (name : String) : ℕ :=
  target.count name - (computeBootstrapManifest ids engine.initial).count name

/-- A shortage is what the target has above the count. -/
theorem mem_manifestShortages {current target : Manifest} :
    entry ∈ manifestShortages current target ↔
      0 < target.count entry.1 - current.count entry.1 ∧
        entry.2 = target.count entry.1 - current.count entry.1 := by
  obtain ⟨name, n⟩ := entry
  simp only [manifestShortages, mem_filterMap, mem_insertionSort]
  constructor
  · rintro ⟨entry, hentry, heq⟩
    split at heq
    · rename_i hlt
      obtain ⟨rfl, rfl⟩ := Prod.mk.inj (Option.some.inj heq)
      have hcount : target.count entry.1 = entry.2 := by
        rw [Manifest.count, (mem_iff_lookup_eq_some target.nodup).1 hentry]
        rfl
      rw [hcount]
      exact ⟨Nat.sub_pos_of_lt hlt, rfl⟩
    · exact nomatch heq
  · rintro ⟨hpos, rfl⟩
    rcases hlookup : target.entries.lookup name with - | want
    · rw [Manifest.count, hlookup] at hpos
      exact absurd hpos (by simp)
    · have hcount : target.count name = want := by
        rw [Manifest.count, hlookup]
        rfl
      refine ⟨(name, want), (mem_iff_lookup_eq_some target.nodup).2 hlookup, ?_⟩
      rw [hcount] at hpos ⊢
      exact if_pos (Nat.lt_of_sub_pos hpos)

theorem nodup_manifestShortages (current target : Manifest) :
    (manifestShortages current target).Nodup := by
  refine List.Nodup.filterMap ?_ ((perm_insertionSort _ _).nodup_iff.2 target.nodup.of_map)
  intro entry entry' short hshort hshort'
  simp only [mem_def, ite_none_right_eq_some, Option.some.injEq] at hshort hshort'
  obtain ⟨hlt, rfl⟩ := hshort
  obtain ⟨hlt', heq⟩ := hshort'
  obtain ⟨hname, hsub⟩ := Prod.mk.inj heq
  refine Prod.ext hname.symm ?_
  rw [hname] at hlt' hsub
  omega

instance totalFst : Std.Total fun a b : String × ℕ ↦ a.1 ≤ b.1 := ⟨fun a b ↦ le_total a.1 b.1⟩

instance transFst : IsTrans (String × ℕ) fun a b ↦ a.1 ≤ b.1 := ⟨fun _ _ _ ↦ le_trans⟩

/-- A name of a manifest over the plan is one of the plan. -/
theorem Manifest.OverPlan.mem_planNames (htarget : target.OverPlan) (hname : 0 < target.count name)
    : name ∈ planNames := by
  have hplan : ∀ step ∈ defaultBootstrapPlan, step.defId ∈ planNames := by decide
  rcases hlookup : target.entries.lookup name with - | want
  · rw [Manifest.count, hlookup] at hname
    exact absurd hname (by simp)
  · obtain ⟨step, hstep, heq⟩ := htarget _ ((mem_iff_lookup_eq_some target.nodup).2 hlookup)
    have hmem := hplan step hstep
    rwa [heq] at hmem

/-- The shortages in the order of the names. -/
def shortagesByName (engine : Engine) (ids : DefIds) (target : Manifest) : List (String × ℕ) :=
  planNames.filterMap fun name ↦
    if 0 < shortage engine ids target name then some (name, shortage engine ids target name)
    else none

/-- Sorting by name loses no shortage. -/
theorem mem_shortagesByName (htarget : target.OverPlan) :
    entry ∈ shortagesByName engine ids target ↔
      entry ∈ manifestShortages (computeBootstrapManifest ids engine.initial) target := by
  obtain ⟨name, n⟩ := entry
  simp only [shortagesByName, mem_manifestShortages, mem_filterMap,
    ite_none_right_eq_some, Option.some.injEq, Prod.mk.injEq]
  constructor
  · rintro ⟨_, -, hpos, rfl, rfl⟩
    exact ⟨hpos, rfl⟩
  · rintro ⟨hpos, rfl⟩
    exact ⟨name, htarget.mem_planNames (Nat.lt_of_lt_of_le hpos (Nat.sub_le ..)), hpos, rfl, rfl⟩

theorem nodup_shortagesByName : (shortagesByName engine ids target).Nodup := by
  refine List.Nodup.filterMap ?_ (by decide)
  intro name name' entry hentry hentry'
  simp only [mem_def, ite_none_right_eq_some, Option.some.injEq] at hentry hentry'
  obtain ⟨-, rfl⟩ := hentry
  exact (Prod.mk.inj hentry'.2).1.symm

theorem pairwise_shortagesByName :
    (shortagesByName engine ids target).Pairwise (·.1 ≤ ·.1) := by
  refine List.Pairwise.filterMap _ ?_ (by decide : planNames.Pairwise (· ≤ ·))
  intro name name' hle entry hentry entry' hentry'
  simp only [ite_none_right_eq_some, Option.some.injEq] at hentry hentry'
  obtain ⟨-, rfl⟩ := hentry
  obtain ⟨-, rfl⟩ := hentry'
  exact hle

/-- The order in which the shortages are dealt with. -/
theorem insertionSort_manifestShortages (htarget : target.OverPlan) :
    (manifestShortages (computeBootstrapManifest ids engine.initial) target).insertionSort
      (·.1 ≤ ·.1) = shortagesByName engine ids target := by
  refine List.Perm.eq_of_pairwise ?_ (pairwise_insertionSort _ _) pairwise_shortagesByName ?_
  · intro a b ha hb hab hba
    rw [mem_insertionSort, mem_manifestShortages] at ha
    rw [mem_shortagesByName htarget, mem_manifestShortages] at hb
    have hname : a.1 = b.1 := le_antisymm hab hba
    exact Prod.ext hname (by rw [ha.2, hb.2, hname])
  · refine (perm_insertionSort _ _).trans ?_
    exact (perm_ext_iff_of_nodup (nodup_manifestShortages _ _) nodup_shortagesByName).2
      fun entry ↦ (mem_shortagesByName htarget).symm

theorem stepByDefName_planNames : ∀ name ∈ planNames, ∃ step ∈ defaultBootstrapPlan,
    stepByDefName name = some step ∧ step.defId = name := by
  decide

/-- Two steps with one definition have one name. -/
theorem DefIds.Resolved.get_inj (h : ids.Resolved) {step step' : BuildStep}
    (hstep : step ∈ defaultBootstrapPlan) (hstep' : step' ∈ defaultBootstrapPlan)
    (heq : ids.get step.defId = ids.get step'.defId) : step.defId = step'.defId := by
  rw [← h.nameOf_eq_iff hstep'] at heq
  exact ((h.nameOf_eq_iff hstep).2 rfl).symm.trans heq

/-- Different defs of the plan have different ids. -/
theorem DefIds.Resolved.get_ne_get (h : ids.Resolved) {name name' : String}
    (hname : name ∈ planNames) (hname' : name' ∈ planNames) (hne : name ≠ name') :
    ids.get name ≠ ids.get name' := by
  obtain ⟨step, hstep, -, rfl⟩ := stepByDefName_planNames name hname
  obtain ⟨step', hstep', -, rfl⟩ := stepByDefName_planNames name' hname'
  exact fun heq ↦ hne (h.get_inj hstep hstep' heq)

theorem nodup_planNames : planNames.Nodup := by decide

/-- A shortage is what the target asks for less the units there are. -/
theorem shortage_eq (h : ids.Resolved) (hstep : step ∈ defaultBootstrapPlan) :
    shortage engine ids target step.defId = target.count step.defId -
      engine.initial.countP fun unit ↦ unit.defId = ids.get step.defId := by
  rw [shortage, count_computeBootstrapManifest h hstep]

theorem shortage_eq_zero_of_nil
    (hnil : manifestShortages (computeBootstrapManifest ids engine.initial) target = [])
    (name : String) : shortage engine ids target name = 0 := by
  by_contra hne
  have hmem : (name, shortage engine ids target name) ∈
      manifestShortages (computeBootstrapManifest ids engine.initial) target :=
    mem_manifestShortages.2 ⟨Nat.pos_iff_ne_zero.2 hne, rfl⟩
  rw [hnil] at hmem
  exact not_mem_nil hmem

/-- The defs of the orders that make up for every shortage. -/
def ordersFor (engine : Engine) (ids : DefIds) (target : Manifest) : List ℕ :=
  planNames.flatMap fun name ↦ List.replicate (shortage engine ids target name) (ids.get name)

theorem count_flatMap_replicate {names : List String} (hnodup : names.Nodup) {f g : String → ℕ}
    {a : String} (hinj : ∀ name ∈ names, g name = g a → name = a) :
    (names.flatMap fun name ↦ List.replicate (f name) (g name)).count (g a) =
      if a ∈ names then f a else 0 := by
  induction names with
  | nil => rfl
  | cons name names ih =>
    obtain ⟨hname, hnodup⟩ := nodup_cons.1 hnodup
    have ih := ih hnodup fun n hn ↦ hinj n (mem_cons_of_mem _ hn)
    rw [flatMap_cons, count_append, ih, count_replicate]
    by_cases heq : name = a
    · subst heq
      simp only [beq_self_eq_true, if_true, hname, if_false, mem_cons_self, Nat.add_zero]
    · have hg : g name ≠ g a := fun h ↦ heq (hinj name (mem_cons_self ..) h)
      simp only [beq_eq_false_iff_ne.2 hg, Bool.false_eq_true, if_false, Nat.zero_add,
        mem_cons, Ne.symm heq, false_or]

/-- For each def that has an id, there are as many orders as units are missing. -/
theorem count_ordersFor (h : ids.Resolved) (htarget : target.OverPlan) (hname : ids.get name ≠ 0) :
    (ordersFor engine ids target).count (ids.get name) = shortage engine ids target name := by
  have hinj : ∀ n ∈ planNames, ids.get n = ids.get name → n = name := by
    intro n hn heq
    obtain ⟨step, hstep, -, rfl⟩ := stepByDefName_planNames n hn
    rcases hlookup : ids.entries.lookup name with - | id
    · exact absurd (by rw [DefIds.get, hlookup]; rfl) hname
    · have hmem := (mem_iff_lookup_eq_some ids.nodup).2 hlookup
      have hid : id = ids.get name := by rw [DefIds.get, hlookup]; rfl
      exact (h.distinct step hstep _ hmem (hid.trans heq.symm)).symm
  rw [ordersFor, count_flatMap_replicate nodup_planNames hinj]
  split
  · rfl
  · rename_i hnot
    rw [shortage]
    have hzero : target.count name = 0 := by
      by_contra hne
      exact hnot (htarget.mem_planNames (Nat.pos_iff_ne_zero.2 hne))
    rw [hzero, Nat.zero_sub]

/-- The orders that make up for every shortage are enough. -/
theorem met_ordersFor (h : ids.Resolved) (htarget : target.OverPlan) :
    Met engine ids target (ordersFor engine ids target) := by
  intro step hstep
  rw [count_ordersFor h htarget (h.resolved step hstep), shortage_eq h hstep]
  omega

end

end HighBar.Client.Reset
