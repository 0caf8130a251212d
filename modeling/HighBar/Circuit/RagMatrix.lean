import HighBar.Library.StateRuns
import Mathlib.Data.List.Induction
import Mathlib.Data.Nat.Choose.Basic
import Mathlib.Order.Lattice

/-!
# Triangular matrices

`CRagMatrix` holds one entry for every two different rows, packed into one array: the entry of `row`
and `column`, with `column < row`, stands at `row * (row - 1) / 2 + column`. An access outside the
bounds that the source asserts, or outside the array, fails. The matrix keeps the list of the
accesses made.

A matrix is used as a symmetric table of distances. `Shows m t` says that `m` holds the table `t`
and that every access so far was below the diagonal; reading and writing below the diagonal reads
and writes the table (`runs_read`, `runs_write`), and with that a loop over the matrix is a loop
over the table.
-/

namespace HighBar.Circuit

open StateRuns

variable {α : Type} {nrows : ℕ}

/-! ### The matrix -/

/-- `CRagMatrix`, with the accesses made so far. -/
structure CRagMatrix (α : Type) (nrows : ℕ) where
  data : Vector α (nrows * (nrows - 1) / 2)
  accesses : List (ℕ × ℕ) := []

/-- A program over a matrix. -/
abbrev MatrixM (α : Type) (nrows : ℕ) : Type → Type := StateT (CRagMatrix α nrows) Option

open List

namespace CRagMatrix

/-- `idx` of `operator()`. -/
def idx (row column : ℕ) : ℕ := row * (row - 1) / 2 + column

/-- The assertion of `operator()`. -/
def Asserted (nrows row column : ℕ) : Prop := (1 ≤ row ∧ row < nrows) ∧ column < nrows - 1

instance (nrows row column : ℕ) : Decidable (Asserted nrows row column) :=
  inferInstanceAs (Decidable (_ ∧ _))

/-- `operator()`, read. -/
def read (row column : ℕ) : MatrixM α nrows α := fun m ↦
  if Asserted nrows row column then
    m.data[idx row column]?.map fun value ↦
      (value, { m with accesses := m.accesses ++ [(row, column)] })
  else none

/-- `operator()`, assigned to. -/
def write (row column : ℕ) (value : α) : MatrixM α nrows Unit := fun m ↦
  if Asserted nrows row column ∧ idx row column < nrows * (nrows - 1) / 2 then
    some ((), ⟨m.data.setIfInBounds (idx row column) value, m.accesses ++ [(row, column)]⟩)
  else none

/-- `for (int j = first; j < last; j++) body`. -/
def forRange (first last : ℕ) (body : ℕ → MatrixM α nrows Unit) : MatrixM α nrows Unit :=
  (List.range' first (last - first)).foldlM (fun _ j ↦ body j) ()

/-- `FindClosestPair`: the distance, `ir` and `jr`. -/
def findClosestPair [LT α] [DecidableLT α] (n : ℕ) : MatrixM α nrows (α × ℕ × ℕ) := do
  let distance ← read 1 0
  (List.range' 2 (n - 2)).foldlM (fun best i ↦
    (List.range i).foldlM (fun best j ↦ do
      let temp ← read i j
      pure (if temp < best.1 then (temp, i, j) else best)) best) (distance, 1, 0)

/-! ### The packing -/

/-- A later row is stored behind an earlier one. -/
theorem idx_lt_idx {row column row' column' : ℕ} (hcolumn : column < row) (hrow : row < row') :
    idx row column < idx row' column' := by
  have hmono : Monotone fun n : ℕ ↦ n * (n - 1) / 2 := monotone_nat_of_le_succ fun n ↦ by
    show n * (n - 1) / 2 ≤ (n + 1) * (n + 1 - 1) / 2
    rw [Nat.triangle_succ]
    exact Nat.le_add_right ..
  have hle : (row + 1) * (row + 1 - 1) / 2 ≤ row' * (row' - 1) / 2 := hmono hrow
  rw [Nat.triangle_succ] at hle
  rw [idx, idx]
  omega

/-- An entry below the diagonal is in the array. -/
theorem idx_lt {row column : ℕ} (hcolumn : column < row) (hrow : row < nrows) :
    idx row column < nrows * (nrows - 1) / 2 := by
  have hlt : idx row column < idx nrows 0 := idx_lt_idx hcolumn hrow
  exact hlt

/-- Different entries below the diagonal stand at different places. -/
theorem idx_inj {row column row' column' : ℕ} (hcolumn : column < row) (hcolumn' : column' < row')
    (h : idx row column = idx row' column') : row = row' ∧ column = column' := by
  rcases lt_trichotomy row row' with hlt | rfl | hgt
  · exact absurd h (idx_lt_idx hcolumn hlt).ne
  · exact ⟨rfl, Nat.add_left_cancel h⟩
  · exact absurd h (idx_lt_idx hcolumn' hgt).ne'

theorem asserted_of_lt {row column : ℕ} (hcolumn : column < row) (hrow : row < nrows) :
    Asserted nrows row column := by
  rw [Asserted]
  omega

/-! ### Tables -/

/-- The table with the entry of one pair replaced. -/
def setPair (t : ℕ → ℕ → α) (i j : ℕ) (value : α) : ℕ → ℕ → α := fun k l ↦
  if k = i ∧ l = j ∨ k = j ∧ l = i then value else t k l

/-- The order of a pair does not matter. -/
theorem setPair_comm (t : ℕ → ℕ → α) (i j : ℕ) (value : α) :
    setPair t i j value = setPair t j i value := by
  funext k l
  rw [setPair, setPair]
  exact if_congr or_comm rfl rfl

/-- The matrix holds a symmetric table, and every access was below the diagonal. -/
structure Shows (m : CRagMatrix α nrows) (t : ℕ → ℕ → α) : Prop where
  symm : ∀ i j, t i j = t j i
  entry : ∀ row < nrows, ∀ column < row, m.data[idx row column]? = some (t row column)
  accesses : ∀ access ∈ m.accesses, access.2 < access.1 ∧ access.1 < nrows

variable {m : CRagMatrix α nrows} {t : ℕ → ℕ → α} {row column : ℕ}

theorem Shows.accesses_append (h : Shows m t) (hcolumn : column < row) (hrow : row < nrows) :
    ∀ access ∈ m.accesses ++ [(row, column)], access.2 < access.1 ∧ access.1 < nrows :=
  forall_mem_append.2 ⟨h.accesses, forall_mem_singleton.2 ⟨hcolumn, hrow⟩⟩

/-- A read returns the entry. -/
theorem Shows.runs_read (h : Shows m t) (hcolumn : column < row) (hrow : row < nrows) :
    Runs (read row column) (fun value m' ↦ value = t row column ∧ Shows m' t) m := by
  refine ⟨t row column, { m with accesses := m.accesses ++ [(row, column)] }, ?_, rfl, ?_⟩
  · rw [read, if_pos (asserted_of_lt hcolumn hrow), h.entry row hrow column hcolumn]
    rfl
  · exact ⟨h.symm, h.entry, h.accesses_append hcolumn hrow⟩

/-- A write sets the pair and nothing else. -/
theorem Shows.runs_write (h : Shows m t) (hcolumn : column < row) (hrow : row < nrows)
    (value : α) :
    Runs (write row column value) (fun _ m' ↦ Shows m' (setPair t row column value)) m := by
  refine ⟨(), _, if_pos ⟨asserted_of_lt hcolumn hrow, idx_lt hcolumn hrow⟩, ?_, ?_, ?_⟩
  · intro i j
    rw [setPair, setPair, h.symm i j]
    exact if_congr ⟨Or.symm ∘ Or.imp And.symm And.symm, Or.symm ∘ Or.imp And.symm And.symm⟩ rfl rfl
  · intro row' hrow' column' hcolumn'
    show (m.data.setIfInBounds _ _)[_]? = some (setPair t row column value row' column')
    rw [Vector.getElem?_setIfInBounds, setPair]
    by_cases heq : idx row column = idx row' column'
    · obtain ⟨rfl, rfl⟩ := idx_inj hcolumn hcolumn' heq
      rw [if_pos rfl, if_pos (idx_lt hcolumn hrow), if_pos (.inl ⟨rfl, rfl⟩)]
    · rw [if_neg heq, if_neg, h.entry row' hrow' column' hcolumn']
      rintro (⟨rfl, rfl⟩ | ⟨rfl, rfl⟩)
      · exact heq rfl
      · exact absurd hcolumn' (Nat.lt_asymm hcolumn)
  · exact h.accesses_append hcolumn hrow

/-- A loop whose passes change the table changes it pass by pass. -/
theorem Shows.runs_forRange {first last : ℕ} {body : ℕ → MatrixM α nrows Unit}
    {assign : (ℕ → ℕ → α) → ℕ → ℕ → ℕ → α} (h : Shows m t)
    (hbody : ∀ j, first ≤ j → j < last → ∀ m t, Shows m t →
      Runs (body j) (fun _ m' ↦ Shows m' (assign t j)) m) :
    Runs (forRange first last body)
      (fun _ m' ↦ Shows m' ((List.range' first (last - first)).foldl assign t)) m := by
  refine runs_foldlM (fun before _ m' ↦ Shows m' (before.foldl assign t)) ?_ h
  intro before j after _ m' hsplit hshows
  have hmem : j ∈ List.range' first (last - first) := by
    rw [hsplit]
    exact mem_append_right _ (mem_cons_self ..)
  obtain ⟨hfirst, hlast⟩ := mem_range'_1.1 hmem
  refine (hbody j hfirst (by omega) m' _ hshows).mono fun _ m'' hshows' ↦ ?_
  rwa [foldl_append]

/-! ### Loops that change one row of a table -/

/-- The table in which the row `a` has new entries at the places of a list. -/
def withRow (t : ℕ → ℕ → α) (a : ℕ) (value : ℕ → α) (places : List ℕ) : ℕ → ℕ → α := fun i j ↦
  if i = a ∧ j ∈ places then value j else if j = a ∧ i ∈ places then value i else t i j

/-- A loop that gives the row `a` a new entry in each pass, where a pass looks at no other entry of
that row, gives it all entries at once. -/
theorem foldl_setPair {a : ℕ} (value : (ℕ → ℕ → α) → ℕ → α) {places : List ℕ}
    (hnodup : places.Nodup) (ha : a ∉ places)
    (hlocal : ∀ j ∈ places, ∀ t t' : ℕ → ℕ → α,
      (∀ k l, (k = a → l = j) → (l = a → k = j) → t' k l = t k l) → value t' j = value t j) :
    places.foldl (fun t j ↦ setPair t a j (value t j)) t = withRow t a (value t) places := by
  -- The last pass sees the table after all others.
  induction places using List.reverseRecOn with
  | nil =>
    funext i j
    simp [withRow]
  | append_singleton places j ih =>
    obtain ⟨hnodup', -, hdisjoint⟩ := nodup_append.1 hnodup
    have hj : j ∉ places := fun hmem ↦ hdisjoint j hmem j (mem_singleton_self j) rfl
    have hne : j ≠ a := fun heq ↦ ha (heq ▸ mem_append_right _ (mem_singleton_self j))
    rw [foldl_append, ih hnodup' (fun hmem ↦ ha (mem_append_left _ hmem))
      fun k hk ↦ hlocal k (mem_append_left _ hk)]
    have hvalue : value (withRow t a (value t) places) j = value t j := by
      refine hlocal j (mem_append_right _ (mem_singleton_self j)) _ _ fun k l hk hl ↦ ?_
      have hrow : ¬(k = a ∧ l ∈ places) := fun h ↦ hj (hk h.1 ▸ h.2)
      have hcolumn : ¬(l = a ∧ k ∈ places) := fun h ↦ hj (hl h.1 ▸ h.2)
      rw [withRow, if_neg hrow, if_neg hcolumn]
    show setPair _ a j (value (withRow t a (value t) places) j) = _
    rw [hvalue]
    funext k l
    simp only [setPair, withRow, mem_append, mem_singleton]
    grind

/-! ### The closest pair -/

variable [LinearOrder α] {n : ℕ} {seen : List (ℕ × ℕ)} {best : α × ℕ × ℕ}

/-- The best pair is one of the pairs below the diagonal up to `n`, and no pair seen is closer. -/
structure ClosestOf (t : ℕ → ℕ → α) (n : ℕ) (seen : List (ℕ × ℕ)) (best : α × ℕ × ℕ) : Prop where
  column_lt : best.2.2 < best.2.1
  row_lt : best.2.1 < n
  distance : best.1 = t best.2.1 best.2.2
  le : ∀ pair ∈ seen, best.1 ≤ t pair.1 pair.2

/-- One turn of the search for the closest pair. -/
theorem ClosestOf.next (h : ClosestOf t n seen best) {i j : ℕ} (hj : j < i) (hi : i < n) :
    ClosestOf t n (seen ++ [(i, j)]) (if t i j < best.1 then (t i j, i, j) else best) := by
  by_cases hlt : t i j < best.1
  · rw [if_pos hlt]
    refine ⟨hj, hi, rfl, forall_mem_append.2 ⟨fun pair hmem ↦ ?_, ?_⟩⟩
    · exact hlt.le.trans (h.le pair hmem)
    · exact forall_mem_singleton.2 le_rfl
  · rw [if_neg hlt]
    refine ⟨h.column_lt, h.row_lt, h.distance, forall_mem_append.2 ⟨h.le, ?_⟩⟩
    exact forall_mem_singleton.2 (not_lt.1 hlt)

/-- The inner loop sees a row. -/
theorem Shows.runs_closestInRow (h : Shows m t) {i : ℕ} (hi : i < n) (hn : n ≤ nrows)
    (hbest : ClosestOf t n seen best) :
    Runs ((List.range i).foldlM (fun best j ↦ do
        let temp ← read i j
        pure (if temp < best.1 then (temp, i, j) else best)) best)
      (fun best m' ↦ ClosestOf t n (seen ++ (List.range i).map (i, ·)) best ∧ Shows m' t) m := by
  refine runs_foldlM
    (fun before best m' ↦ ClosestOf t n (seen ++ before.map (i, ·)) best ∧ Shows m' t) ?_
    ⟨by rwa [map_nil, append_nil], h⟩
  rintro before j after best m' hsplit ⟨hbest, hshows⟩
  have hj : j < i := by
    rw [← mem_range, hsplit]
    exact mem_append_right _ (mem_cons_self ..)
  refine (hshows.runs_read hj (hi.trans_le hn)).bind fun temp m'' hread ↦ ?_
  refine runs_pure ⟨?_, hread.2⟩
  rw [map_append, ← append_assoc, hread.1]
  exact hbest.next hj hi

/-- **`FindClosestPair`** finds the closest of all pairs. -/
theorem Shows.runs_findClosestPair (h : Shows m t) (htwo : 2 ≤ n) (hn : n ≤ nrows) :
    Runs (findClosestPair n) (fun best m' ↦ best.2.2 < best.2.1 ∧ best.2.1 < n ∧
      best.1 = t best.2.1 best.2.2 ∧ (∀ i < n, ∀ j < i, best.1 ≤ t i j) ∧ Shows m' t) m := by
  refine (h.runs_read Nat.zero_lt_one (htwo.trans hn)).bind fun distance m' hread ↦ ?_
  have hfirst : ClosestOf t n [(1, 0)] (distance, 1, 0) := by
    refine ⟨Nat.zero_lt_one, htwo, hread.1, fun pair hmem ↦ ?_⟩
    rw [mem_singleton.1 hmem, hread.1]
  refine (runs_foldlM (fun before best m' ↦ ClosestOf t n
    ((1, 0) :: before.flatMap fun i ↦ (List.range i).map (i, ·)) best ∧ Shows m' t) ?_
    ⟨hfirst, hread.2⟩).mono ?_
  · rintro before i after best m'' hsplit ⟨hbest, hshows⟩
    have hmem : i ∈ List.range' 2 (n - 2) := by
      rw [hsplit]
      exact mem_append_right _ (mem_cons_self ..)
    have hi := (mem_range'_1.1 hmem).2
    refine (hshows.runs_closestInRow (by omega) hn hbest).mono fun best' m₃ hdone ↦ ?_
    rw [flatMap_append, flatMap_singleton]
    exact hdone
  · rintro best m'' ⟨hbest, hshows⟩
    refine ⟨hbest.column_lt, hbest.row_lt, hbest.distance, fun i hi j hj ↦ ?_, hshows⟩
    refine hbest.le (i, j) (mem_cons.2 ?_)
    rcases Nat.lt_or_ge i 2 with hlt | hge
    · exact .inl (by rw [Prod.mk.injEq]; omega)
    · refine .inr (mem_flatMap.2 ⟨i, mem_range'_1.2 (by omega), ?_⟩)
      exact mem_map.2 ⟨j, mem_range.2 hj, rfl⟩

end CRagMatrix

end HighBar.Circuit
