import Mathlib.Data.List.Chain

/-!
# The longest prefix that is a chain

A consumer that compares each element with the one before it, and stops at the first pair that is
not related, keeps the **longest prefix that is a chain**. `takeChain R` is that prefix and
`firstBreak R` the pair it stops at.

* `takeChain_isPrefix`, `isChain_takeChain` and `isPrefix_takeChain` say that it is the longest.
* `takeChain_eq_iff` compares two relations, one of them stricter: the looser one keeps **the same
  prefix** exactly if the pair that breaks the stricter relation first breaks the looser one too.
-/

namespace ChainPrefix

open List Option

variable {α : Type*} (R S : α → α → Prop) [DecidableRel R] [DecidableRel S]

/-- What is kept after the element `a`. -/
def takeFrom (a : α) : List α → List α
  | [] => []
  | b :: l => if R a b then b :: takeFrom b l else []

/-- The longest prefix that is a chain. -/
def takeChain : List α → List α
  | [] => []
  | a :: l => a :: takeFrom R a l

/-- The pair at which the list after `a` breaks. -/
def breakFrom (a : α) : List α → Option (α × α)
  | [] => none
  | b :: l => if R a b then breakFrom b l else some (a, b)

/-- The first pair of neighbours that are not related. -/
def firstBreak : List α → Option (α × α)
  | [] => none
  | a :: l => breakFrom R a l

variable {R S}

/-- The chain is a prefix of the list. -/
theorem takeChain_isPrefix (l : List α) : takeChain R l <+: l := by
  have hfrom : ∀ (l : List α) (a : α), takeFrom R a l <+: l := by
    intro l
    induction l with
    | nil => exact fun _ ↦ prefix_refl _
    | cons b l ih =>
      intro a
      rw [takeFrom]
      split_ifs with hab
      · exact (prefix_cons_inj b).2 (ih b)
      · exact nil_prefix
  rcases l with - | ⟨a, l⟩
  · exact prefix_refl _
  · exact (prefix_cons_inj a).2 (hfrom l a)

/-- It is a chain. -/
theorem isChain_takeChain (l : List α) : (takeChain R l).IsChain R := by
  have hfrom : ∀ (l : List α) (a : α), (a :: takeFrom R a l).IsChain R := by
    intro l
    induction l with
    | nil => exact fun _ ↦ isChain_singleton _
    | cons b l ih =>
      intro a
      rw [takeFrom]
      split_ifs with hab
      · exact isChain_cons_cons.2 ⟨hab, ih b⟩
      · exact isChain_singleton _
  rcases l with - | ⟨a, l⟩
  · exact isChain_nil
  · exact hfrom l a

/-- **No prefix that is a chain is longer.** -/
theorem isPrefix_takeChain {l q : List α} (hq : q <+: l) (hchain : q.IsChain R) :
    q <+: takeChain R l := by
  have hfrom : ∀ (l q : List α) (a : α), q <+: l → (a :: q).IsChain R → q <+: takeFrom R a l := by
    intro l
    induction l with
    | nil => exact fun q a hq _ ↦ hq
    | cons b l ih =>
      rintro (- | ⟨c, q⟩) a hq hchain
      · exact nil_prefix
      obtain ⟨rfl, htail⟩ := cons_prefix_cons.1 hq
      obtain ⟨hac, hrest⟩ := isChain_cons_cons.1 hchain
      rw [takeFrom, if_pos hac]
      exact (prefix_cons_inj c).2 (ih q c htail hrest)
  rcases l with - | ⟨a, l⟩
  · exact hq
  rcases q with - | ⟨b, q⟩
  · exact nil_prefix
  obtain ⟨rfl, htail⟩ := cons_prefix_cons.1 hq
  exact (prefix_cons_inj b).2 (hfrom l q b htail hchain)

/-- A list is kept whole exactly if it is a chain. -/
theorem takeChain_eq_self_iff {l : List α} : takeChain R l = l ↔ l.IsChain R := by
  refine ⟨fun heq ↦ heq ▸ isChain_takeChain l, fun hchain ↦ ?_⟩
  have hle := (isPrefix_takeChain (prefix_refl l) hchain).length_le
  exact (takeChain_isPrefix l).eq_of_length_le hle

/-- A list has no break exactly if it is a chain. -/
theorem firstBreak_eq_none_iff {l : List α} : firstBreak R l = none ↔ l.IsChain R := by
  have hfrom : ∀ (l : List α) (a : α), breakFrom R a l = none ↔ (a :: l).IsChain R := by
    intro l
    induction l with
    | nil => exact fun a ↦ iff_of_true rfl (isChain_singleton a)
    | cons b l ih =>
      intro a
      rw [breakFrom, isChain_cons_cons]
      by_cases hab : R a b
      · rw [if_pos hab, ih b, and_iff_right hab]
      · rw [if_neg hab]
        exact iff_of_false (some_ne_none _) fun h ↦ hab h.1
  rcases l with - | ⟨a, l⟩
  · exact iff_of_true rfl isChain_nil
  · exact hfrom l a

/-- **A looser relation keeps the same prefix exactly if it breaks where the stricter one does.** -/
theorem takeChain_eq_iff (hSR : ∀ a b, S a b → R a b) (l : List α) :
    takeChain R l = takeChain S l ↔ ∀ p ∈ firstBreak S l, ¬ R p.1 p.2 := by
  have hfrom : ∀ (l : List α) (a : α),
      takeFrom R a l = takeFrom S a l ↔ ∀ p ∈ breakFrom S a l, ¬ R p.1 p.2 := by
    intro l
    induction l with
    | nil => exact fun a ↦ iff_of_true rfl fun p hp ↦ absurd hp (not_mem_none p)
    | cons b l ih =>
      intro a
      rw [takeFrom, takeFrom, breakFrom]
      by_cases hS : S a b
      · rw [if_pos hS, if_pos (hSR a b hS), if_pos hS, cons_inj_right, ih b]
      rw [if_neg hS, if_neg hS]
      by_cases hR : R a b
      · rw [if_pos hR]
        exact iff_of_false (cons_ne_nil _ _) fun h ↦ h (a, b) rfl hR
      · rw [if_neg hR]
        refine iff_of_true rfl fun p hp ↦ ?_
        obtain rfl := mem_some_iff.1 hp
        exact hR
  rcases l with - | ⟨a, l⟩
  · exact iff_of_true rfl fun p hp ↦ absurd hp (not_mem_none p)
  · rw [takeChain, takeChain, cons_inj_right, firstBreak, hfrom]

end ChainPrefix
