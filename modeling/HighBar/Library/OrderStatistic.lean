import Mathlib.Data.List.Sort

/-!
# Order statistics

How many entries of a list are at most the one of a rank: one more than the rank, and more only if
the next one in ascending order is equal to it.
-/

namespace OrderStatistic

open List

variable {α : Type*} [LinearOrder α] {l : List α} {k : ℕ} {a : α}

/-- The entry of a rank, counted from zero, in ascending order. -/
def nth (l : List α) (k : ℕ) : Option α := (l.insertionSort (· ≤ ·))[k]?

theorem mem_of_nth (h : nth l k = some a) : a ∈ l :=
  (perm_insertionSort _ l).mem_iff.1 (mem_of_getElem? h)

/-- There is an order statistic at every index of the list. -/
theorem isSome_nth (hk : k < l.length) : ∃ a, nth l k = some a :=
  ⟨_, getElem?_eq_getElem (by rwa [length_insertionSort])⟩

/-- The order of the entries does not matter. -/
theorem nth_perm {l' : List α} (h : l.Perm l') (k : ℕ) : nth l k = nth l' k := by
  have hsorted : ∀ l : List α, (l.insertionSort (· ≤ ·)).SortedLE := fun l ↦
    (pairwise_insertionSort _ l).sortedLE
  have hperm := (perm_insertionSort (· ≤ ·) l).trans
    (h.trans (perm_insertionSort (· ≤ ·) l').symm)
  rw [nth, nth, hperm.eq_of_sortedLE (hsorted l) (hsorted l')]

/-- It is where the sorted list has it. -/
theorem drop_insertionSort (h : nth l k = some a) : ∃ back,
    (l.insertionSort (· ≤ ·)).drop k = a :: back := by
  obtain ⟨hk, rfl⟩ := List.getElem?_eq_some_iff.1 h
  exact ⟨_, drop_eq_getElem_cons hk⟩

/-- The entries before the rank are at most the entry of the rank. -/
theorem countP_le (h : nth l k = some a) :
    l.countP (· ≤ a) = k + ((l.insertionSort (· ≤ ·)).drop k).countP (· ≤ a) := by
  obtain ⟨back, hback⟩ := drop_insertionSort h
  have hk : k < (l.insertionSort (· ≤ ·)).length := (List.getElem?_eq_some_iff.1 h).1
  have hfront : ∀ b ∈ (l.insertionSort (· ≤ ·)).take k, decide (b ≤ a) = true := by
    intro b hb
    have hmem : a ∈ (l.insertionSort (· ≤ ·)).drop k := hback ▸ mem_cons_self
    exact decide_eq_true
      ((pairwise_insertionSort _ l).rel_of_mem_take_of_mem_drop hb hmem)
  rw [← (perm_insertionSort (· ≤ ·) l).countP_eq]
  conv_lhs => rw [← take_append_drop k (l.insertionSort (· ≤ ·)), countP_append]
  rw [countP_eq_length.2 hfront, length_take, min_eq_left hk.le]

/-- More than `k` elements are at most the one at `k`. -/
theorem lt_countP_le (h : nth l k = some a) : k < l.countP (· ≤ a) := by
  obtain ⟨back, hback⟩ := drop_insertionSort h
  rw [countP_le h, hback]
  exact Nat.lt_add_of_pos_right
    (countP_pos_iff.2 ⟨a, mem_cons_self, decide_eq_true le_rfl⟩)

/-- One more entry is at most the entry of the rank exactly if the entry of the next rank is the
same. -/
theorem succ_lt_countP_le_iff {b : α} (h : nth l k = some a) (hnext : nth l (k + 1) = some b) :
    k + 1 < l.countP (· ≤ a) ↔ a = b := by
  refine ⟨fun hlt ↦ ?_, fun heq ↦ heq ▸ lt_countP_le hnext⟩
  obtain ⟨back, hback⟩ := drop_insertionSort h
  obtain ⟨rest, hrest⟩ := drop_insertionSort hnext
  obtain rfl : back = b :: rest := by
    rw [← hrest, ← tail_drop, hback, tail_cons]
  have hsorted : (a :: b :: rest).Pairwise (· ≤ ·) :=
    hback ▸ (pairwise_insertionSort _ l).sublist (drop_sublist k _)
  rw [countP_le h, hback, countP_cons] at hlt
  -- one of the entries after the rank is at most its entry, and all are at least the next one
  have hpos : 0 < (b :: rest).countP (· ≤ a) := by
    split at hlt <;> omega
  obtain ⟨c, hc, hca⟩ := countP_pos_iff.1 hpos
  obtain ⟨hab, htail⟩ := pairwise_cons.1 hsorted
  have hbc : b ≤ c := by
    rcases mem_cons.1 hc with rfl | hc
    · exact le_rfl
    · exact (pairwise_cons.1 htail).1 c hc
  exact le_antisymm (hab b mem_cons_self) (hbc.trans (of_decide_eq_true hca))

end OrderStatistic
