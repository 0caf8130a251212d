import Mathlib.Data.List.Perm.Basic

/-!
# A queue with several takers

Items enter a queue at the back. Takers take from the front, and each keeps what it took **in hand**
for a while before it hands it over. The queue is first in first out, but the hands are not ordered:
two takers may hand over in either order.

`Custody accepted handed hands queued` says that nothing is lost or made up on the way: what was
handed over, then what is in hand in **some** order, then what is queued, is what was accepted. It
is kept by putting (`Custody.put`), by taking (`Custody.take`), and by a hand-over of the item that
was accepted first among those in hand (`Custody.handOver`). The last one needs the condition, and
the order of the items is given by a rank that increases along what was accepted.
-/

variable {α : Type*} {accepted handed hands hands' queued : List α} {x : α}

/-- What was handed over, what is in hand and what is queued is what was accepted, in this order. -/
def Custody (accepted handed hands queued : List α) : Prop :=
  ∃ taken : List α, handed ++ taken ++ queued = accepted ∧ taken.Perm hands

namespace Custody

open List

/-- At the start there is nothing. -/
theorem nil : Custody ([] : List α) [] [] [] := ⟨[], rfl, .nil⟩

/-- Which taker has what in hand does not matter. -/
theorem perm (h : Custody accepted handed hands queued) (hhands : hands.Perm hands') :
    Custody accepted handed hands' queued := by
  obtain ⟨taken, heq, hperm⟩ := h
  exact ⟨taken, heq, hperm.trans hhands⟩

/-- An item that is accepted goes to the end of the queue. -/
theorem put (h : Custody accepted handed hands queued) (x : α) :
    Custody (accepted ++ [x]) handed hands (queued ++ [x]) := by
  obtain ⟨taken, rfl, hperm⟩ := h
  exact ⟨taken, (append_assoc ..).symm, hperm⟩

/-- The item at the front goes from the queue into a hand. -/
theorem take (h : Custody accepted handed hands (x :: queued)) (hhands : hands'.Perm (x :: hands)) :
    Custody accepted handed hands' queued := by
  obtain ⟨taken, rfl, hperm⟩ := h
  refine ⟨taken ++ [x], by simp only [append_assoc, singleton_append], ?_⟩
  exact ((perm_append_singleton x taken).trans (hperm.cons x)).trans hhands.symm

/-- The oldest item in hand is the next one to hand over. -/
theorem handOver {rank : α → ℕ} (h : Custody accepted handed hands queued)
    (hrank : accepted.Pairwise fun a b ↦ rank a < rank b) (hhands : hands.Perm (x :: hands'))
    (holdest : ∀ z ∈ hands', rank x < rank z) :
    Custody accepted (handed ++ [x]) hands' queued := by
  obtain ⟨taken, rfl, hperm⟩ := h
  have htaken : taken.Perm (x :: hands') := hperm.trans hhands
  cases taken with
  | nil => exact absurd htaken.length_eq.symm (Nat.succ_ne_zero _)
  | cons first rest =>
    have hfirst : first = x := by
      by_contra hne
      -- both orders between the first item taken and `x` would hold
      have hin : first ∈ hands' :=
        mem_of_ne_of_mem hne (htaken.mem_iff.1 (mem_cons_self ..))
      have hrest : x ∈ rest :=
        mem_of_ne_of_mem (Ne.symm hne) (htaken.mem_iff.2 (mem_cons_self ..))
      have hpair := (pairwise_append.1 (pairwise_append.1 hrank).1).2.1
      exact Nat.lt_asymm (holdest first hin) ((pairwise_cons.1 hpair).1 x hrest)
    subst hfirst
    refine ⟨rest, ?_, (perm_cons first).1 htaken⟩
    simp only [append_assoc, cons_append, nil_append]

/-- When nothing is in hand and nothing is queued, all of it was handed over, in order. -/
theorem eq_of_nil (h : Custody accepted handed [] []) : handed = accepted := by
  obtain ⟨taken, rfl, hperm⟩ := h
  rw [hperm.eq_nil, append_nil, append_nil]

end Custody
