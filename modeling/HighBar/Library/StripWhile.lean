import Mathlib.Data.List.DropRight

/-!
# Stripping a list at both ends

`List.stripWhile p` drops the entries with a property from both ends of a list. What is left begins
and ends with an entry without it, and those lists are exactly the ones that are left alone. Entries
with the property that are put around a list come off again.
-/

namespace List

open Option

variable {α : Type*} {p : α → Bool} {l front back : List α}

/-- The list without the entries at both ends that have the property. -/
def stripWhile (p : α → Bool) (l : List α) : List α :=
  (l.dropWhile p).rdropWhile p

theorem length_stripWhile_le (p : α → Bool) (l : List α) :
    (l.stripWhile p).length ≤ l.length := by
  have hback : l.stripWhile p <+: l.dropWhile p := rdropWhile_prefix p _
  exact hback.length_le.trans (dropWhile_suffix p).length_le

/-- A list that neither begins nor ends with such an entry is left alone. -/
theorem stripWhile_eq_self (hhead : ∀ a ∈ l.head?, p a = false)
    (hlast : ∀ a ∈ l.getLast?, p a = false) : l.stripWhile p = l := by
  have hfront : l.dropWhile p = l := by
    rcases l with - | ⟨a, rest⟩
    · rfl
    · rw [dropWhile_cons, hhead a rfl]
      rfl
  rw [stripWhile, hfront, rdropWhile_eq_self_iff]
  intro hne
  rw [hlast _ (getLast?_eq_some_getLast hne)]
  exact Bool.false_ne_true

/-- What is left does not begin with a stripped element. -/
theorem head?_stripWhile : ∀ a ∈ (l.stripWhile p).head?, p a = false := by
  intro a ha
  have hbegins : l.stripWhile p <+: l.dropWhile p := rdropWhile_prefix p _
  have hhead : (l.dropWhile p).head? = some a := by
    obtain ⟨rest, hrest⟩ := hbegins
    rw [← hrest, head?_append, mem_def.1 ha]
    rfl
  have hnot := head?_dropWhile_not p l
  rw [hhead] at hnot
  exact hnot

/-- Nor does it end with one. -/
theorem getLast?_stripWhile : ∀ a ∈ (l.stripWhile p).getLast?, p a = false := by
  intro a ha
  have hne : (l.dropWhile p).rdropWhile p ≠ [] := by
    intro hnil
    rw [stripWhile, hnil] at ha
    exact absurd ha (not_mem_none a)
  have hnot := rdropWhile_last_not p (l.dropWhile p) hne
  rw [mem_def, stripWhile, getLast?_eq_some_getLast hne, some_inj] at ha
  rw [ha] at hnot
  exact Bool.eq_false_iff.2 hnot

/-- Stripping twice is stripping once. -/
theorem stripWhile_stripWhile (p : α → Bool) (l : List α) :
    (l.stripWhile p).stripWhile p = l.stripWhile p :=
  stripWhile_eq_self head?_stripWhile getLast?_stripWhile

theorem rdropWhile_append_of_pos (hback : ∀ a ∈ back, p a = true) (l : List α) :
    (l ++ back).rdropWhile p = l.rdropWhile p := by
  rw [rdropWhile, reverse_append, dropWhile_append_of_pos fun a ha ↦ hback a (mem_reverse.1 ha),
    rdropWhile]

/-- Entries with the property around a list come off. -/
theorem stripWhile_append (hfront : ∀ a ∈ front, p a = true) (hback : ∀ a ∈ back, p a = true)
    (l : List α) : (front ++ l ++ back).stripWhile p = l.stripWhile p := by
  rw [stripWhile, append_assoc, dropWhile_append_of_pos hfront, dropWhile_append]
  split_ifs with hempty
  · have hback' : back.dropWhile p = [] := dropWhile_eq_nil_iff.2 hback
    rw [hback', stripWhile, isEmpty_iff.1 hempty]
  · rw [rdropWhile_append_of_pos hback, stripWhile]

end List
