import Mathlib.Data.List.Basic
import Mathlib.Order.Bounds.Lattice

/-!
# Complete linkage

The **complete-linkage distance** of two clusters is the greatest distance between a member of the
one and a member of the other. `Linked dist A B x` says that this distance is `x`. It is what a
table over clusters has to hold so that an entry decides about all cross pairs at once: a small
entry bounds them all (`Compact.append`), a large one is one of them (`Linked.exists_lt`).

`LinkedOn` is a table for a set of clusters. It is kept when one cluster takes in another and the
table takes the greater of the two entries (`LinkedOn.absorb`), and when the clusters are renamed
(`LinkedOn.comp`).
-/

namespace CompleteLinkage

open List

variable {ι κ κ' α : Type*} [LinearOrder α] {dist : ι → ι → α} {A B C : List ι} {x y bound : α}

/-- The complete-linkage distance of two clusters. -/
def Linked (dist : ι → ι → α) (A B : List ι) (x : α) : Prop :=
  IsGreatest {y | ∃ a ∈ A, ∃ b ∈ B, dist a b = y} x

theorem linked_singleton (dist : ι → ι → α) (a b : ι) : Linked dist [a] [b] (dist a b) := by
  refine ⟨⟨a, mem_singleton_self a, b, mem_singleton_self b, rfl⟩, ?_⟩
  rintro y ⟨a', ha', b', hb', rfl⟩
  rw [mem_singleton.1 ha', mem_singleton.1 hb']

namespace Linked

/-- The distance of two clusters is symmetric if that of the points is. -/
theorem symm (hsymm : ∀ a b, dist a b = dist b a) (h : Linked dist A B x) : Linked dist B A x := by
  have hset : {y | ∃ b ∈ B, ∃ a ∈ A, dist b a = y} = {y | ∃ a ∈ A, ∃ b ∈ B, dist a b = y} := by
    ext y
    constructor
    · rintro ⟨b, hb, a, ha, rfl⟩
      exact ⟨a, ha, b, hb, hsymm a b⟩
    · rintro ⟨a, ha, b, hb, rfl⟩
      exact ⟨b, hb, a, ha, hsymm b a⟩
  rw [Linked, hset]
  exact h

/-- A cluster that takes in another is as far away as the farther of the two. -/
theorem append (hA : Linked dist A C x) (hB : Linked dist B C y) :
    Linked dist (A ++ B) C (max x y) := by
  have hset : {z | ∃ a ∈ A ++ B, ∃ c ∈ C, dist a c = z} =
      {z | ∃ a ∈ A, ∃ c ∈ C, dist a c = z} ∪ {z | ∃ b ∈ B, ∃ c ∈ C, dist b c = z} := by
    ext z
    simp only [mem_append, or_and_right, exists_or, Set.mem_ofPred_eq, Set.mem_union]
  rw [Linked, hset]
  exact hA.union hB

/-- No two points are further apart than their clusters. -/
theorem le (h : Linked dist A B x) {a b : ι} (ha : a ∈ A) (hb : b ∈ B) : dist a b ≤ x :=
  h.2 ⟨a, ha, b, hb, rfl⟩

/-- Clusters that are far apart have points that are. -/
theorem exists_lt (h : Linked dist A B x) (hlt : bound < x) :
    ∃ a ∈ A, ∃ b ∈ B, bound < dist a b := by
  obtain ⟨a, ha, b, hb, rfl⟩ := h.1
  exact ⟨a, ha, b, hb, hlt⟩

end Linked

/-- No two members are farther apart than the bound. -/
def Compact (dist : ι → ι → α) (bound : α) (A : List ι) : Prop :=
  ∀ a ∈ A, ∀ b ∈ A, a ≠ b → dist a b ≤ bound

theorem compact_singleton (dist : ι → ι → α) (bound : α) (a : ι) : Compact dist bound [a] := by
  intro b hb c hc hne
  rw [mem_singleton.1 hb, mem_singleton.1 hc] at hne
  exact absurd rfl hne

/-- Two compact clusters within the bound of each other make one compact cluster. -/
theorem Compact.append (hsymm : ∀ a b, dist a b = dist b a) (hA : Compact dist bound A)
    (hB : Compact dist bound B) (h : Linked dist A B x) (hle : x ≤ bound) :
    Compact dist bound (A ++ B) := by
  intro a ha b hb hne
  rcases mem_append.1 ha with ha | ha <;> rcases mem_append.1 hb with hb | hb
  · exact hA a ha b hb hne
  · exact (h.le ha hb).trans hle
  · rw [hsymm]
    exact (h.le hb ha).trans hle
  · exact hB a ha b hb hne

/-! ### Tables of distances -/

/-- The table holds the complete-linkage distances of the clusters in `S`. -/
def LinkedOn (dist : ι → ι → α) (S : Set κ) (cluster : κ → List ι) (table : κ → κ → α) : Prop :=
  ∀ i ∈ S, ∀ j ∈ S, i ≠ j → Linked dist (cluster i) (cluster j) (table i j)

namespace LinkedOn

variable {S : Set κ} {cluster : κ → List ι} {table table' : κ → κ → α}

/-- Only the clusters and distances on `S` matter. -/
theorem congr (h : LinkedOn dist S cluster table) {cluster' : κ → List ι}
    (hcluster : ∀ i ∈ S, cluster' i = cluster i)
    (htable : ∀ i ∈ S, ∀ j ∈ S, i ≠ j → table' i j = table i j) :
    LinkedOn dist S cluster' table' := by
  intro i hi j hj hne
  rw [hcluster i hi, hcluster j hj, htable i hi j hj hne]
  exact h i hi j hj hne

/-- Clusters under other names. -/
theorem comp (h : LinkedOn dist S cluster table) {T : Set κ'} {name : κ' → κ}
    (hmaps : Set.MapsTo name T S) (hinj : Set.InjOn name T) :
    LinkedOn dist T (cluster ∘ name) fun i j ↦ table (name i) (name j) :=
  fun i hi j hj hne ↦ h (name i) (hmaps hi) (name j) (hmaps hj) fun heq ↦ hne (hinj hi hj heq)

/-- The cluster `js` takes in the cluster `is`, which is given up. -/
theorem absorb [DecidableEq κ] (hsymm : ∀ a b, dist a b = dist b a)
    (h : LinkedOn dist S cluster table) {is js : κ} (his : is ∈ S) (hjs : js ∈ S)
    (hkeep : ∀ i ∈ S, ∀ j ∈ S, i ≠ js → j ≠ js → table' i j = table i j)
    (hrow : ∀ j ∈ S, j ≠ js → j ≠ is → table' js j = max (table js j) (table is j))
    (hcolumn : ∀ j ∈ S, j ≠ js → j ≠ is → table' j js = max (table js j) (table is j)) :
    LinkedOn dist (S \ {is}) (Function.update cluster js (cluster js ++ cluster is)) table' := by
  have hmerged : ∀ j ∈ S \ {is}, j ≠ js →
      Linked dist (cluster js ++ cluster is) (cluster j) (max (table js j) (table is j)) :=
    fun j hj hne ↦ (h js hjs j hj.1 hne.symm).append (h is his j hj.1 fun heq ↦ hj.2 heq.symm)
  intro i hi j hj hne
  by_cases hi' : i = js
  · subst hi'
    rw [Function.update_self, Function.update_of_ne hne.symm, hrow j hj.1 hne.symm hj.2]
    exact hmerged j hj hne.symm
  · by_cases hj' : j = js
    · subst hj'
      rw [Function.update_self, Function.update_of_ne hne, hcolumn i hi.1 hne hi.2]
      exact (hmerged i hi hne).symm hsymm
    · rw [Function.update_of_ne hi', Function.update_of_ne hj', hkeep i hi.1 j hj.1 hi' hj']
      exact h i hi.1 j hj.1 hne

end LinkedOn

end CompleteLinkage
