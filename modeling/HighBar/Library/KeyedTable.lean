import Mathlib.Data.List.Sort

/-!
# Tables with a key

A table is a list of rows, kept in the order of their keys, that should hold at most one row for a
key. To **upsert** a row is to drop the rows of its key, add it, and sort again.

An upsert reads of the table only the rows of other keys (`upsert_congr`). That is what makes an
upsert from an older copy of the table harmless: it writes what one from the table itself would,
provided the rows of the other keys are still the same.
-/

namespace KeyedTable

open List

variable {κ α : Type*} [DecidableEq κ] [LE κ] [DecidableLE κ]
variable {key : α → κ} {rows : List α} {row : α}

/-- The rows of the other keys. -/
def others (key : α → κ) (rows : List α) (k : κ) : List α :=
  rows.filter fun row ↦ key row ≠ k

/-- The table with the row in the place of those of its key. -/
def upsert (key : α → κ) (rows : List α) (row : α) : List α :=
  (others key rows (key row) ++ [row]).insertionSort fun a b ↦ key a ≤ key b

omit [LE κ] [DecidableLE κ] in
theorem mem_others {k : κ} {other : α} :
    other ∈ others key rows k ↔ other ∈ rows ∧ key other ≠ k := by
  rw [others, mem_filter, decide_eq_true_iff]

/-- An upsert replaces the row of its key. -/
theorem upsert_perm (rows : List α) (row : α) :
    (upsert key rows row).Perm (others key rows (key row) ++ [row]) :=
  perm_insertionSort _ _

/-- The rows of the other keys stay. -/
theorem mem_upsert {other : α} :
    other ∈ upsert key rows row ↔ other = row ∨ other ∈ rows ∧ key other ≠ key row := by
  rw [(upsert_perm rows row).mem_iff, mem_append, mem_singleton, mem_others, or_comm]

/-- **An upsert keeps the keys apart.** -/
theorem nodup_upsert (hnodup : (rows.map key).Nodup) (row : α) :
    ((upsert key rows row).map key).Nodup := by
  rw [((upsert_perm rows row).map key).nodup_iff, map_append, nodup_append]
  refine ⟨?_, nodup_singleton _, ?_⟩
  · exact hnodup.sublist (filter_sublist.map key)
  · intro k hk l hl heq
    obtain ⟨other, hother, rfl⟩ := mem_map.1 hk
    exact (mem_others.1 hother).2 (heq.trans (mem_singleton.1 hl))

/-- **An upsert depends only on the rows of the other keys.** -/
theorem upsert_congr {stale : List α}
    (h : others key stale (key row) = others key rows (key row)) :
    upsert key stale row = upsert key rows row := by
  rw [upsert, upsert, h]

end KeyedTable
