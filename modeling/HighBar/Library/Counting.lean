import Mathlib.Data.List.Nodup

/-!
# Counting members by their state

A table is a list of names without repetition, and a counter is meant to be **the number of names in
some state**. When one name changes its state and no other does, the number moves by one
(`List.Nodup.countP_eq_add_one`, which reads from left to right for a name that leaves the state and
from right to left for one that enters it); a new name adds what it counts itself.

Where the table is the list of the states themselves, an entry that is taken out is counted out
(`List.countP_erase_add`), and one that is overwritten is counted out and its successor in
(`List.countP_set_add`); both sides are sums, so that no subtraction is left over. A state that
splits into two is counted in two parts (`List.countP_eq_add`).
-/

variable {α : Type*} {p q : α → Bool} {l : List α} {a : α}

/-- If `q` counts `a` and `p` does not, and they agree on every other name, then `q` counts one
more. -/
theorem List.Nodup.countP_eq_add_one [DecidableEq α] (hl : l.Nodup) (ha : a ∈ l)
    (hp : p a = false) (hq : q a = true) (hne : ∀ x, x ≠ a → q x = p x) :
    l.countP q = l.countP p + 1 := by
  have hperm : l.Perm (a :: l.erase a) := List.perm_cons_erase ha
  have hrest : (l.erase a).countP q = (l.erase a).countP p := by
    refine List.countP_congr fun x hx ↦ ?_
    rw [hne x (hl.mem_erase_iff.1 hx).1]
  rw [hperm.countP_eq, hperm.countP_eq p, List.countP_cons_of_pos hq,
    List.countP_cons_of_neg (by rw [hp]; exact Bool.false_ne_true), hrest]

/-- A new name adds itself to the count exactly if it is in the state. -/
theorem List.countP_append_new (ha : a ∉ l) (hne : ∀ x, x ≠ a → q x = p x) :
    (l ++ [a]).countP q = l.countP p + if q a then 1 else 0 := by
  have hrest : l.countP q = l.countP p := by
    refine List.countP_congr fun x hx ↦ ?_
    rw [hne x fun heq ↦ ha (heq ▸ hx)]
  rw [List.countP_append, hrest, List.countP_singleton]

/-- Taking one entry out. -/
theorem List.countP_erase_add [DecidableEq α] (ha : a ∈ l) :
    (l.erase a).countP p + (p a).toNat = l.countP p := by
  rw [(List.perm_cons_erase ha).countP_eq p]
  rcases hp : p a with - | -
  · rw [List.countP_cons_of_neg (by rw [hp]; exact Bool.false_ne_true)]
    rfl
  · rw [List.countP_cons_of_pos hp]
    rfl

/-- Overwriting one entry. -/
theorem List.countP_set_add {i : ℕ} {old : α} (new : α) (hold : l[i]? = some old) :
    (l.set i new).countP p + (p old).toNat = l.countP p + (p new).toNat := by
  obtain ⟨hi, rfl⟩ := List.getElem?_eq_some_iff.1 hold
  have hpos : p l[i] = true → 0 < l.countP p := fun h ↦
    List.countP_pos_iff.2 ⟨l[i], List.getElem_mem hi, h⟩
  rw [List.countP_set hi]
  rcases hp : p l[i] with - | - <;> rcases hq : p new with - | - <;>
    simp only [Bool.toNat_true, Bool.toNat_false, if_true, Bool.false_eq_true, if_false]
  · rfl
  · rfl
  · have := hpos hp
    omega
  · have := hpos hp
    omega

/-- If every entry that `p` counts is counted by exactly one of `q` and `r`, so is the list. -/
theorem List.countP_eq_add {r : α → Bool} (h : ∀ a, (p a).toNat = (q a).toNat + (r a).toNat)
    (l : List α) : l.countP p = l.countP q + l.countP r := by
  have hite : ∀ b : Bool, (if b = true then 1 else 0) = b.toNat := by decide
  induction l with
  | nil => rfl
  | cons a l ih =>
    have hhead := h a
    rw [List.countP_cons, List.countP_cons, List.countP_cons, hite, hite, hite]
    omega

/-- Where no two entries share a key, the entries that `p` counts have the key of an entry once if
`p` counts it, and else not at all. -/
theorem List.count_map_filter_of_nodup {κ : Type*} [DecidableEq κ] {key : α → κ}
    (hnodup : (l.map key).Nodup) (ha : a ∈ l) :
    ((l.filter p).map key).count (key a) = if p a then 1 else 0 := by
  have hsub : ((l.filter p).map key).Nodup := hnodup.sublist (List.filter_sublist.map key)
  rw [hsub.count]
  refine if_congr ?_ rfl rfl
  constructor
  · intro hmem
    obtain ⟨b, hb, hkey⟩ := List.mem_map.1 hmem
    obtain ⟨hbl, hpb⟩ := List.mem_filter.1 hb
    exact List.inj_on_of_nodup_map hnodup hbl ha hkey ▸ hpb
  · exact fun hp ↦ List.mem_map_of_mem (List.mem_filter.2 ⟨ha, hp⟩)
