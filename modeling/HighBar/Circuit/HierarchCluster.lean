import HighBar.Circuit.RagMatrix
import HighBar.Library.CompleteLinkage
import Mathlib.Data.List.GetD
import Mathlib.Data.List.Nodup
import Mathlib.Data.List.Perm.Basic
import Mathlib.Data.List.Range

/-!
# Hierarchical clustering

`CHierarchCluster::Clusterize` starts with one cluster for each point and merges the closest two as
long as they are within `maxDistance`. The distance matrix is overwritten on the way: the cluster
`js` takes in the cluster `is`, the last cluster moves to the freed place, and the entries of both
are changed in five loops, according to whether the other cluster stands before or after.

The loops do to the table of the matrix what the merge does to the clusters, so the table holds the
complete-linkage distances of the clusters at every turn (`runs_mergeLoop`).
-/

namespace HighBar.Circuit

open StateRuns CRagMatrix CompleteLinkage

variable {α : Type} [LinearOrder α] {nrows : ℕ}

/-! ### The algorithm -/

/-- "Fix the distances": `js` is merged with `is`, and the last cluster moves to `is`. -/
def fixDistances (n is js : ℕ) : MatrixM α nrows Unit := do
  forRange 0 js fun j ↦ do write js j (max (← read is j) (← read js j))
  forRange (js + 1) is fun j ↦ do write j js (max (← read is j) (← read j js))
  forRange (is + 1) n fun j ↦ do write j js (max (← read j is) (← read j js))
  forRange 0 is fun j ↦ do write is j (← read (n - 1) j)
  forRange (is + 1) (n - 1) fun j ↦ do write j is (← read (n - 1) j)

/-- "Merge clusters". -/
def mergeClusters (n is js : ℕ) (iclusters : List (List ℕ)) : Option (List (List ℕ)) := do
  let cluster ← iclusters[js]?
  let other ← iclusters[is]?
  let iclusters := iclusters.set js (cluster ++ other)
  let last ← iclusters[n - 1]?
  pure (iclusters.set is last).dropLast

/-- The loop of `Clusterize`, with `n` clusters left. -/
def mergeLoop (maxDistance : α) : ℕ → List (List ℕ) → MatrixM α nrows (List (List ℕ))
  | 0, iclusters | 1, iclusters => pure iclusters
  | n + 2, iclusters => do
    let closest ← findClosestPair (n + 2)
    if maxDistance < closest.1 then pure iclusters
    else do
      fixDistances (n + 2) closest.2.1 closest.2.2
      let iclusters ← StateT.lift (mergeClusters (n + 2) closest.2.1 closest.2.2 iclusters)
      mergeLoop maxDistance (n + 1) iclusters

/-- `Clusterize`. -/
def clusterize (maxDistance : α) : MatrixM α nrows (List (List ℕ)) :=
  mergeLoop maxDistance nrows ((List.range nrows).map fun i ↦ [i])

section Loops

open List Option

/-! ### What the loops do to the table -/

variable {m : CRagMatrix α nrows} {t : ℕ → ℕ → α} {n is js : ℕ}

/-- The places of the clusters that are not merged, in the order of the loops. -/
def others (n is js : ℕ) : List ℕ :=
  List.range' 0 (js - 0) ++ List.range' (js + 1) (is - (js + 1)) ++
    List.range' (is + 1) (n - (is + 1))

/-- The places of the clusters that neither move nor are moved over. -/
def unmoved (n is : ℕ) : List ℕ :=
  List.range' 0 (is - 0) ++ List.range' (is + 1) (n - 1 - (is + 1))

/-- The loop visits every cluster but the two that are merged. -/
theorem mem_others (hjs : js < is) (his : is < n) {j : ℕ} :
    j ∈ others n is js ↔ j < n ∧ j ≠ is ∧ j ≠ js := by
  simp only [others, mem_append, mem_range'_1]
  omega

/-- The second loop visits every cluster but the freed one and the last. -/
theorem mem_unmoved (his : is < n) {j : ℕ} : j ∈ unmoved n is ↔ j < n - 1 ∧ j ≠ is := by
  simp only [unmoved, mem_append, mem_range'_1]
  omega

theorem nodup_others (hjs : js < is) : (others n is js).Nodup := by
  refine nodup_append.2 ⟨nodup_append.2 ⟨nodup_range', nodup_range', ?_⟩,
    nodup_range', ?_⟩
  · intro i hi j hj
    rw [mem_range'_1] at hi hj
    omega
  · intro i hi j hj
    rw [mem_append, mem_range'_1, mem_range'_1] at hi
    rw [mem_range'_1] at hj
    omega

theorem nodup_unmoved : (unmoved n is).Nodup := by
  refine nodup_append.2 ⟨nodup_range', nodup_range', fun i hi j hj ↦ ?_⟩
  rw [mem_range'_1] at hi hj
  omega

/-- The table after `js` has taken in `is`. -/
def absorbed (n is js : ℕ) (t : ℕ → ℕ → α) : ℕ → ℕ → α :=
  withRow t js (fun j ↦ max (t is j) (t js j)) (others n is js)

/-- The table after the last cluster has moved to `is`. -/
def moved (n is : ℕ) (t : ℕ → ℕ → α) : ℕ → ℕ → α :=
  withRow t is (fun j ↦ t (n - 1) j) (unmoved n is)

/-- **The first loop** leaves the distances to the merged cluster. -/
theorem foldl_absorb (hjs : js < is) (his : is < n) (t : ℕ → ℕ → α) :
    (others n is js).foldl (fun t j ↦ setPair t js j (max (t is j) (t js j))) t =
      absorbed n is js t := by
  refine foldl_setPair (fun t j ↦ max (t is j) (t js j)) (nodup_others hjs) ?_ ?_
  · rw [mem_others hjs his]
    exact fun h ↦ h.2.2 rfl
  · intro j hj t t' heq
    obtain ⟨-, hne, hne'⟩ := (mem_others hjs his).1 hj
    have his : t' is j = t is j := heq is j (fun h ↦ absurd h hjs.ne') fun h ↦ absurd h hne'
    have hjs : t' js j = t js j := heq js j (fun _ ↦ rfl) fun h ↦ absurd h hne'
    show max (t' is j) (t' js j) = max (t is j) (t js j)
    rw [his, hjs]

omit [LinearOrder α] in
/-- **The second loop** moves the last cluster to the freed row. -/
theorem foldl_move (his : is < n) (t : ℕ → ℕ → α) :
    (unmoved n is).foldl (fun t j ↦ setPair t is j (t (n - 1) j)) t = moved n is t := by
  refine foldl_setPair (fun t j ↦ t (n - 1) j) nodup_unmoved ?_ ?_
  · rw [mem_unmoved his]
    exact fun h ↦ h.2 rfl
  · intro j hj t t' heq
    exact heq (n - 1) j (fun _ ↦ rfl) fun h ↦ absurd h ((mem_unmoved his).1 hj).2

/-- Writing the larger of two entries. -/
theorem CRagMatrix.Shows.runs_writeMax (h : Shows m t) {row column row' column' : ℕ}
    (hcolumn : column < row) (hrow : row < nrows) (hcolumn' : column' < row')
    (hrow' : row' < nrows) :
    Runs (do write row' column' (max (← read row column) (← read row' column')))
      (fun _ m' ↦ Shows m'
        (setPair t row' column' (max (t row column) (t row' column')))) m := by
  refine (h.runs_read hcolumn hrow).bind fun x m₁ hx ↦ ?_
  refine (hx.2.runs_read hcolumn' hrow').bind fun y m₂ hy ↦ ?_
  rw [hx.1, hy.1]
  exact hy.2.runs_write hcolumn' hrow' _

omit [LinearOrder α] in
/-- Copying an entry. -/
theorem CRagMatrix.Shows.runs_writeCopy (h : Shows m t) {row column row' column' : ℕ}
    (hcolumn : column < row) (hrow : row < nrows) (hcolumn' : column' < row')
    (hrow' : row' < nrows) :
    Runs (do write row' column' (← read row column))
      (fun _ m' ↦ Shows m' (setPair t row' column' (t row column))) m := by
  refine (h.runs_read hcolumn hrow).bind fun x m₁ hx ↦ ?_
  rw [hx.1]
  exact hx.2.runs_write hcolumn' hrow' _

/-- **The five loops** do to the table what the merge does to the clusters. -/
theorem CRagMatrix.Shows.runs_fixDistances (h : Shows m t) (hjs : js < is) (his : is < n)
    (hn : n ≤ nrows) :
    Runs (fixDistances n is js) (fun _ m' ↦ Shows m' (moved n is (absorbed n is js t))) m := by
  -- In each loop the pass of `j` has the same effect, only the row and the column change places.
  have hfirst : ∀ j, 0 ≤ j → j < js → ∀ (m : CRagMatrix α nrows) t, Shows m t →
      Runs (do write js j (max (← read is j) (← read js j)))
        (fun _ m' ↦ Shows m' (setPair t js j (max (t is j) (t js j)))) m :=
    fun j _ hj m t h ↦ h.runs_writeMax (by omega) (by omega) hj (by omega)
  have hsecond : ∀ j, js + 1 ≤ j → j < is → ∀ (m : CRagMatrix α nrows) t, Shows m t →
      Runs (do write j js (max (← read is j) (← read j js)))
        (fun _ m' ↦ Shows m' (setPair t js j (max (t is j) (t js j)))) m := by
    intro j hj hj' m t h
    rw [setPair_comm, h.symm js j]
    exact h.runs_writeMax hj' (by omega) hj (by omega)
  have hthird : ∀ j, is + 1 ≤ j → j < n → ∀ (m : CRagMatrix α nrows) t, Shows m t →
      Runs (do write j js (max (← read j is) (← read j js)))
        (fun _ m' ↦ Shows m' (setPair t js j (max (t is j) (t js j)))) m := by
    intro j hj hj' m t h
    rw [setPair_comm, h.symm js j, h.symm is j]
    exact h.runs_writeMax hj (by omega) (by omega) (by omega)
  have hfourth : ∀ j, 0 ≤ j → j < is → ∀ (m : CRagMatrix α nrows) t, Shows m t →
      Runs (do write is j (← read (n - 1) j))
        (fun _ m' ↦ Shows m' (setPair t is j (t (n - 1) j))) m :=
    fun j _ hj m t h ↦ h.runs_writeCopy (by omega) (by omega) hj (by omega)
  have hfifth : ∀ j, is + 1 ≤ j → j < n - 1 → ∀ (m : CRagMatrix α nrows) t, Shows m t →
      Runs (do write j is (← read (n - 1) j))
        (fun _ m' ↦ Shows m' (setPair t is j (t (n - 1) j))) m := by
    intro j hj hj' m t h
    rw [setPair_comm]
    exact h.runs_writeCopy hj' (by omega) hj (by omega)
  rw [← foldl_move his, ← foldl_absorb hjs his, others, unmoved]
  simp only [foldl_append]
  refine (h.runs_forRange hfirst).bind fun _ m₁ h₁ ↦ ?_
  refine (h₁.runs_forRange hsecond).bind fun _ m₂ h₂ ↦ ?_
  refine (h₂.runs_forRange hthird).bind fun _ m₃ h₃ ↦ ?_
  refine (h₃.runs_forRange hfourth).bind fun _ m₄ h₄ ↦ ?_
  exact h₄.runs_forRange hfifth

/-! ### What the merge does to the clusters -/

/-- Where the cluster at `i` stood before the last one moved. -/
def slot (n is i : ℕ) : ℕ := if i = is then n - 1 else i

theorem slot_ne {i : ℕ} (hi : i < n - 1) : slot n is i ≠ is := by
  rw [slot]
  split_ifs with heq
  · omega
  · exact heq

theorem slot_lt {i : ℕ} (hi : i < n - 1) : slot n is i < n := by
  rw [slot]
  split_ifs <;> omega

/-- Two clusters that are left have different rows. -/
theorem slot_injOn : Set.InjOn (slot n is) {i | i < n - 1} := by
  intro i hi j hj heq
  simp only [Set.mem_ofPred_eq] at hi hj
  rw [slot, slot] at heq
  split_ifs at heq <;> omega

/-- The cluster at each place after `js` has taken in `is`. -/
def joined (is js : ℕ) (iclusters : List (List ℕ)) : ℕ → List ℕ :=
  Function.update (iclusters.getD · []) js (iclusters.getD js [] ++ iclusters.getD is [])

/-- **What is left after a merge**, row by row. -/
theorem mergeClusters_eq {iclusters : List (List ℕ)} (hlength : iclusters.length = n)
    (hjs : js < is) (his : is < n) :
    mergeClusters n is js iclusters =
      some ((List.range (n - 1)).map (joined is js iclusters ∘ slot n is)) := by
  have hget : ∀ i < n, iclusters[i]? = some (iclusters.getD i []) := fun i hi ↦ by
    rw [getD_eq_getElem?_getD, getElem?_eq_getElem (by omega)]
    rfl
  have hjoined : ∀ i < n, (iclusters.set js (iclusters.getD js [] ++ iclusters.getD is []))[i]? =
      some (joined is js iclusters i) := by
    intro i hi
    rw [getElem?_set, joined]
    by_cases heq : js = i
    · subst heq
      rw [if_pos rfl, if_pos (by omega), Function.update_self]
    · rw [if_neg heq, Function.update_of_ne (Ne.symm heq), hget i hi]
  rw [mergeClusters, hget js (by omega), hget is his]
  show ((iclusters.set js _)[n - 1]?.bind fun last ↦ some (List.set _ is last).dropLast) = _
  rw [hjoined (n - 1) (by omega), bind_some]
  refine congrArg some (ext_getElem? fun i ↦ ?_)
  rw [getElem?_dropLast, length_set, length_set, hlength, getElem?_map]
  by_cases hi : i < n - 1
  · rw [if_pos hi, getElem?_range hi, getElem?_set, length_set, hlength,
      map_some, Function.comp_apply, slot]
    by_cases heq : is = i
    · rw [if_pos heq, if_pos his, if_pos heq.symm]
    · rw [if_neg heq, if_neg (Ne.symm heq), hjoined i (by omega)]
  · rw [if_neg hi, getElem?_eq_none (by simpa using hi), map_none]

/-! ### Each merge keeps the clustering -/

/-- A partition of the points into clusters within the bound. -/
structure Clustering (dist : ℕ → ℕ → α) (maxDistance : α) (nrows : ℕ)
    (iclusters : List (List ℕ)) : Prop where
  partition : iclusters.flatten.Perm (List.range nrows)
  nonempty : ∀ cluster ∈ iclusters, cluster ≠ []
  compact : ∀ cluster ∈ iclusters, Compact dist maxDistance cluster

/-- The rows that are left, with the freed one, are all the rows. -/
theorem perm_slot (his : is < n) :
    ((List.range (n - 1)).map (slot n is) ++ [is]).Perm (List.range n) := by
  refine (perm_ext_iff_of_nodup ?_ nodup_range).2 fun i ↦ ?_
  · refine nodup_append.2 ⟨List.Nodup.map_on (fun i hi j hj ↦ ?_) nodup_range,
      nodup_singleton is, fun i hi j hj ↦ ?_⟩
    · exact slot_injOn (mem_range.1 hi) (mem_range.1 hj)
    · obtain ⟨k, hk, rfl⟩ := mem_map.1 hi
      rw [mem_singleton.1 hj]
      exact slot_ne (mem_range.1 hk)
  · rw [List.mem_append, List.mem_map, List.mem_singleton, List.mem_range]
    constructor
    · rintro (⟨k, hk, rfl⟩ | rfl)
      · exact slot_lt (mem_range.1 hk)
      · exact his
    · intro hi
      by_cases heq : i = is
      · exact .inr heq
      · by_cases hlast : i = n - 1
        · exact .inl ⟨is, mem_range.2 (by omega), by rw [slot, if_pos rfl, hlast]⟩
        · exact .inl ⟨i, mem_range.2 (by omega), by rw [slot, if_neg heq]⟩

/-- A cluster that grows adds its new members and nothing else. -/
theorem perm_flatMap_update {l : List ℕ} (hnodup : l.Nodup) {a : ℕ} (ha : a ∈ l)
    (cluster : ℕ → List ℕ) (more : List ℕ) :
    (l.flatMap (Function.update cluster a (cluster a ++ more))).Perm
      (l.flatMap cluster ++ more) := by
  have hperm := perm_cons_erase ha
  have hrest : (l.erase a).flatMap (Function.update cluster a (cluster a ++ more)) =
      (l.erase a).flatMap cluster := by
    refine flatMap_congr fun i hi ↦ Function.update_of_ne ?_ ..
    rintro rfl
    exact hnodup.not_mem_erase hi
  refine (hperm.flatMap_right _).trans ?_
  rw [flatMap_cons, Function.update_self, hrest, append_assoc]
  refine (perm_append_comm.append_left _).trans ?_
  rw [← append_assoc, ← flatMap_cons]
  exact (hperm.symm.flatMap_right _).append_right _

/-- A list is what it has at each of its places. -/
theorem eq_map_getD {iclusters : List (List ℕ)} (hlength : iclusters.length = n) :
    iclusters = (List.range n).map (iclusters.getD · []) := by
  refine ext_getElem (by rw [length_map, length_range, hlength]) fun i hi hi' ↦ ?_
  rw [getElem_map, getElem_range, getD_eq_getElem _ _ hi]

section Merge

variable {iclusters : List (List ℕ)}

/-- No point is lost and none is doubled. -/
theorem perm_flatten_merge (hlength : iclusters.length = n) (hjs : js < is) (his : is < n) :
    ((List.range (n - 1)).map (joined is js iclusters ∘ slot n is)).flatten.Perm
      iclusters.flatten := by
  have hslots : ((List.range (n - 1)).map (slot n is) ++ [is]).flatMap (joined is js iclusters) =
      ((List.range (n - 1)).map (joined is js iclusters ∘ slot n is)).flatten ++
        iclusters.getD is [] := by
    rw [flatMap_append, flatMap_singleton, joined, Function.update_of_ne hjs.ne',
      flatMap_map, List.flatMap]
    rfl
  have hclusters : (List.range n).flatMap (iclusters.getD · []) = iclusters.flatten := by
    rw [List.flatMap, ← eq_map_getD hlength]
  have hperm := ((perm_slot his).flatMap_right (joined is js iclusters)).trans
    (perm_flatMap_update nodup_range (mem_range.2 (hjs.trans his)) _ _)
  rw [hslots, hclusters] at hperm
  exact (perm_append_right_iff _).1 hperm

variable {dist : ℕ → ℕ → α} {maxDistance : α}

/-- A property of the clusters before the merge that the merged cluster has too. -/
theorem forall_mem_merge {p : List ℕ → Prop} (hlength : iclusters.length = n)
    (h : ∀ cluster ∈ iclusters, p cluster)
    (hmerged : p (iclusters.getD js [] ++ iclusters.getD is [])) :
    ∀ cluster ∈ (List.range (n - 1)).map (joined is js iclusters ∘ slot n is), p cluster := by
  intro cluster hmem
  obtain ⟨i, hi, rfl⟩ := mem_map.1 hmem
  have hlt : slot n is i < iclusters.length := by
    rw [hlength]
    exact slot_lt (mem_range.1 hi)
  rw [Function.comp_apply, joined]
  by_cases heq : slot n is i = js
  · rwa [heq, Function.update_self]
  · rw [Function.update_of_ne heq, getD_eq_getElem _ _ hlt]
    exact h _ (getElem_mem hlt)

/-- **A merge within the bound keeps the clustering.** -/
theorem Clustering.merge (hsymm : ∀ a b, dist a b = dist b a)
    (h : Clustering dist maxDistance nrows iclusters) (hlength : iclusters.length = n)
    (hjs : js < is) (his : is < n)
    (hlinked : LinkedOn dist {i | i < n} (iclusters.getD · []) t)
    (hle : t is js ≤ maxDistance) :
    Clustering dist maxDistance nrows
      ((List.range (n - 1)).map (joined is js iclusters ∘ slot n is)) := by
  have hmem : ∀ i < n, iclusters.getD i [] ∈ iclusters := fun i hi ↦ by
    rw [getD_eq_getElem _ _ (hlength ▸ hi)]
    exact getElem_mem _
  have hpair : Linked dist (iclusters.getD js []) (iclusters.getD is []) (t is js) :=
    (hlinked is his js (hjs.trans his) hjs.ne').symm hsymm
  refine ⟨(perm_flatten_merge hlength hjs his).trans h.partition,
    forall_mem_merge hlength h.nonempty ?_, forall_mem_merge hlength h.compact ?_⟩
  · exact append_ne_nil_of_left_ne_nil (h.nonempty _ (hmem js (hjs.trans his))) _
  · exact (h.compact _ (hmem js (hjs.trans his))).append hsymm (h.compact _ (hmem is his)) hpair hle

omit [LinearOrder α] in
theorem withRow_symm (hsymm : ∀ i j, t i j = t j i) (a : ℕ) (value : ℕ → α) (places : List ℕ)
    (i j : ℕ) : withRow t a value places i j = withRow t a value places j i := by
  rw [withRow, withRow, hsymm i j]
  grind

/-- **The table of the merged clusters** is the one the loops make. -/
theorem LinkedOn.merge (hsymm : ∀ a b, dist a b = dist b a) (htable : ∀ i j, t i j = t j i)
    (hjs : js < is) (his : is < n)
    (hlinked : LinkedOn dist {i | i < n} (iclusters.getD · []) t) :
    LinkedOn dist {i | i < n - 1}
      (((List.range (n - 1)).map (joined is js iclusters ∘ slot n is)).getD · [])
      (moved n is (absorbed n is js t)) := by
  have hjs' : js ∈ {i | i < n} := hjs.trans his
  have habsorbed : LinkedOn dist ({i | i < n} \ {is}) (joined is js iclusters)
      (absorbed n is js t) := by
    refine hlinked.absorb hsymm his hjs' ?_ ?_ ?_
    · intro i _ j _ hi hj
      rw [absorbed, withRow, if_neg fun h ↦ hi h.1, if_neg fun h ↦ hj h.1]
    · intro j hj hne hne'
      have hmem : j ∈ others n is js := (mem_others hjs his).2 ⟨hj, hne', hne⟩
      rw [absorbed, withRow, if_pos ⟨rfl, hmem⟩, max_comm]
    · intro j hj hne hne'
      have hmem : j ∈ others n is js := (mem_others hjs his).2 ⟨hj, hne', hne⟩
      rw [absorbed, withRow, if_neg fun h ↦ hne h.1, if_pos ⟨rfl, hmem⟩, max_comm]
  have hmaps : Set.MapsTo (slot n is) {i | i < n - 1} ({i | i < n} \ {is}) :=
    fun i hi ↦ ⟨slot_lt hi, slot_ne hi⟩
  refine (habsorbed.comp hmaps slot_injOn).congr ?_ ?_
  · intro i hi
    rw [getD_eq_getElem _ _ (by simpa using hi), getElem_map, getElem_range]
  · intro i hi j hj hne
    -- A cluster that stands at `is` now has moved there, and its distances with it.
    rw [moved, withRow, slot, slot]
    by_cases hi' : i = is
    · subst hi'
      rw [if_pos ⟨rfl, (mem_unmoved his).2 ⟨hj, hne.symm⟩⟩, if_pos rfl, if_neg hne.symm]
    · rw [if_neg fun h ↦ hi' h.1, if_neg hi']
      by_cases hj' : j = is
      · subst hj'
        rw [if_pos ⟨rfl, (mem_unmoved his).2 ⟨hi, hne⟩⟩, if_pos rfl]
        exact withRow_symm htable ..
      · rw [if_neg fun h ↦ hj' h.1, if_neg hj']

end Merge

/-! ### The whole loop -/

/-- Two clusters with a pair of points farther apart than the bound. -/
def Apart (dist : ℕ → ℕ → α) (maxDistance : α) (A B : List ℕ) : Prop :=
  ∃ a ∈ A, ∃ b ∈ B, maxDistance < dist a b

/-- **The loop invariant**: with `n` clusters left, they are a clustering and the matrix holds their
complete-linkage distances. -/
theorem runs_mergeLoop {dist : ℕ → ℕ → α} (hsymm : ∀ a b, dist a b = dist b a) (maxDistance : α)
    (n : ℕ) : ∀ (iclusters : List (List ℕ)) (m : CRagMatrix α nrows) (t : ℕ → ℕ → α),
      iclusters.length = n → n ≤ nrows → Shows m t →
      Clustering dist maxDistance nrows iclusters →
      LinkedOn dist {i | i < n} (iclusters.getD · []) t →
      Runs (mergeLoop maxDistance n iclusters) (fun result m' ↦
        Clustering dist maxDistance nrows result ∧ result.Pairwise (Apart dist maxDistance) ∧
          ∀ access ∈ m'.accesses, access.2 < access.1 ∧ access.1 < nrows) m := by
  induction n with
  | zero =>
    intro iclusters m t hlength hn hshows hclusters hlinked
    rw [length_eq_zero_iff.1 hlength] at hclusters ⊢
    exact runs_pure ⟨hclusters, .nil, hshows.accesses⟩
  | succ n ih =>
    intro iclusters m t hlength hn hshows hclusters hlinked
    rcases n with - | n
    · obtain ⟨cluster, rfl⟩ := length_eq_one_iff.1 hlength
      exact runs_pure ⟨hclusters, pairwise_singleton _ _, hshows.accesses⟩
    · refine (hshows.runs_findClosestPair (Nat.le_add_left 2 n) hn).bind
        fun closest m₁ hclosest ↦ ?_
      obtain ⟨hjs, his, hdistance, hleast, hshows⟩ := hclosest
      split_ifs with hfar
      · refine runs_pure ⟨hclusters, pairwise_iff_getElem.2 fun i j hi hj hlt ↦ ?_,
          hshows.accesses⟩
        have hpair : Linked dist (iclusters.getD i []) (iclusters.getD j []) (t i j) :=
          hlinked i (hlength ▸ hi) j (hlength ▸ hj) hlt.ne
        rw [getD_eq_getElem _ _ hi, getD_eq_getElem _ _ hj, hshows.symm i j] at hpair
        exact hpair.exists_lt (hfar.trans_le (hleast j (hlength ▸ hj) i hlt))
      · refine (hshows.runs_fixDistances hjs his hn).bind fun _ m₂ hfixed ↦ ?_
        have hle : t closest.2.1 closest.2.2 ≤ maxDistance := hdistance ▸ not_lt.1 hfar
        refine Runs.bind (Q := fun result m₃ ↦ result = (List.range (n + 1)).map
          (joined closest.2.1 closest.2.2 iclusters ∘ slot (n + 2) closest.2.1) ∧ m₃ = m₂)
          (runs_lift (mergeClusters_eq hlength hjs his) ⟨rfl, rfl⟩) ?_
        rintro result m₃ ⟨rfl, rfl⟩
        refine ih _ _ _ ?_ (Nat.le_of_succ_le hn) hfixed
          (hclusters.merge hsymm hlength hjs his hlinked hle)
          (LinkedOn.merge hsymm hshows.symm hjs his hlinked)
        rw [length_map, length_range]

/-- At the start each point is a cluster. -/
theorem clustering_singletons (dist : ℕ → ℕ → α) (maxDistance : α) :
    Clustering dist maxDistance nrows ((List.range nrows).map fun i ↦ [i]) := by
  refine ⟨?_, fun cluster hmem ↦ ?_, fun cluster hmem ↦ ?_⟩
  · show ((List.range nrows).flatMap fun i ↦ [i]).Perm (List.range nrows)
    rw [flatMap_singleton']
  · obtain ⟨i, -, rfl⟩ := mem_map.1 hmem
    exact cons_ne_nil i []
  · obtain ⟨i, -, rfl⟩ := mem_map.1 hmem
    exact compact_singleton dist maxDistance i

/-- At the start the distances of the clusters are those of the points. -/
theorem linkedOn_singletons (dist : ℕ → ℕ → α) :
    LinkedOn dist {i | i < nrows} (((List.range nrows).map fun i ↦ [i]).getD · []) dist := by
  have hget : ∀ i < nrows, ((List.range nrows).map fun i ↦ [i]).getD i [] = [i] := fun i hi ↦ by
    rw [getD_eq_getElem _ _ (by simpa using hi), getElem_map, getElem_range]
  intro i hi j hj _
  show Linked dist (List.getD _ i []) (List.getD _ j []) (dist i j)
  rw [hget i hi, hget j hj]
  exact linked_singleton dist i j

end Loops

/-- The distance of two points in a matrix. -/
def distance (data : Vector α (nrows * (nrows - 1) / 2)) (a b : ℕ) : Option α :=
  data[idx (max a b) (min a b)]?

omit [LinearOrder α] in
/-- The distance of two different points is in the matrix. -/
theorem distance_eq_some (data : Vector α (nrows * (nrows - 1) / 2)) (default : α) {a b : ℕ}
    (ha : a < nrows) (hb : b < nrows) (hne : a ≠ b) :
    distance data a b = some ((distance data a b).getD default) := by
  have hlt : idx (max a b) (min a b) < nrows * (nrows - 1) / 2 :=
    idx_lt (by omega) (by omega)
  rw [distance, Vector.getElem?_eq_getElem hlt, Option.getD_some]

/-- **`Clusterize` is a complete-linkage clustering.** It ends with a partition of the points into
non-empty clusters; two points of a cluster are within `maxDistance`, two clusters have a pair of
points that is not; and every access on the way is below the diagonal of the matrix. -/
theorem clusterize_completeLinkage (data : Vector α (nrows * (nrows - 1) / 2)) (maxDistance : α) :
    ∃ iclusters m', clusterize maxDistance ⟨data, []⟩ = some (iclusters, m') ∧
      iclusters.flatten.Perm (List.range nrows) ∧ (∀ cluster ∈ iclusters, cluster ≠ []) ∧
      (∀ cluster ∈ iclusters, ∀ a ∈ cluster, ∀ b ∈ cluster, a ≠ b →
        ∃ x ∈ distance data a b, x ≤ maxDistance) ∧
      iclusters.Pairwise (fun A B ↦ ∃ a ∈ A, ∃ b ∈ B, ∃ x ∈ distance data a b, maxDistance < x) ∧
      ∀ access ∈ m'.accesses, access.2 < access.1 ∧ access.1 < nrows := by
  let dist (a b : ℕ) : α := (distance data a b).getD maxDistance
  have hsymm : ∀ a b, dist a b = dist b a := fun a b ↦ by
    show (distance data a b).getD _ = (distance data b a).getD _
    rw [distance, distance, max_comm, min_comm]
  have hshows : Shows (⟨data, []⟩ : CRagMatrix α nrows) dist := by
    refine ⟨hsymm, fun row hrow column hcolumn ↦ ?_, fun access hmem ↦ absurd hmem ?_⟩
    · have hcell : distance data row column = data[idx row column]? := by
        rw [distance, max_eq_left hcolumn.le, min_eq_right hcolumn.le]
      rw [← hcell]
      exact distance_eq_some data maxDistance hrow (hcolumn.trans hrow) hcolumn.ne'
    · exact List.not_mem_nil
  obtain ⟨iclusters, m', heq, hclusters, hapart, haccesses⟩ :=
    runs_mergeLoop hsymm maxDistance nrows _ _ dist (by rw [List.length_map, List.length_range])
      le_rfl hshows (clustering_singletons dist maxDistance) (linkedOn_singletons dist)
  have hlt : ∀ cluster ∈ iclusters, ∀ a ∈ cluster, a < nrows := fun cluster hcluster a ha ↦
    List.mem_range.1 (hclusters.partition.mem_iff.1 (List.mem_flatten.2 ⟨cluster, hcluster, ha⟩))
  refine ⟨iclusters, m', heq, hclusters.partition, hclusters.nonempty, ?_, ?_, haccesses⟩
  · intro cluster hcluster a ha b hb hne
    exact ⟨dist a b, distance_eq_some data maxDistance (hlt cluster hcluster a ha)
      (hlt cluster hcluster b hb) hne, hclusters.compact cluster hcluster a ha b hb hne⟩
  · refine hapart.imp ?_
    rintro A B ⟨a, ha, b, hb, hlt⟩
    refine ⟨a, ha, b, hb, ?_⟩
    change maxDistance < (distance data a b).getD maxDistance at hlt
    rcases hdistance : distance data a b with - | x
    · rw [hdistance] at hlt
      exact absurd hlt (lt_irrefl _)
    · rw [hdistance] at hlt
      exact ⟨x, rfl, hlt⟩

-- Points `0`, `1` and `3` end up together, and the last cluster has moved twice.
example : ((clusterize 3 ⟨#v[1, 9, 9, 2, 3, 9, 9, 9, 2, 9], []⟩ :
    Option (List (List ℕ) × CRagMatrix ℕ 5)).map (·.1)) = some [[0, 1, 3], [4, 2]] := by
  decide +kernel

end HighBar.Circuit
