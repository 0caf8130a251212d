import Mathlib.Data.List.Nodup

/-!
# When a computation that may raise succeeds

`SucceedsIff P Q x`: the computation `x` succeeds **exactly if** `P`, and then its result satisfies
`Q`. A postcondition alone says nothing about a computation that always raises; here success is part
of the statement, and so is failure.

The rules follow the structure of a program: a sequence succeeds if its parts do, and a loop over a
list succeeds if every pass does, where a pass is judged in a state that satisfies an invariant of
what came before it. `Avoids e x` is the weaker statement that `x` does not raise `e`.
-/

universe u

namespace ExceptSpec

open List

variable {ε : Type*} {α α' : Type u} {β : Type*}

/-- The computation succeeds exactly if `P`, with a result that satisfies `Q`. -/
def SucceedsIff (P : Prop) (Q : α → Prop) (x : Except ε α) : Prop :=
  (P ∧ ∃ a, x = .ok a ∧ Q a) ∨ (¬P ∧ ∃ e, x = .error e)

namespace SucceedsIff

variable {P P' : Prop} {Q : α → Prop} {Q' : α' → Prop} {x : Except ε α}

/-- A success under the condition. -/
theorem ok {a : α} (hP : P) (hQ : Q a) : SucceedsIff P Q (.ok a : Except ε α) :=
  .inl ⟨hP, a, rfl, hQ⟩

/-- A failure without it. -/
theorem error {e : ε} (hP : ¬P) : SucceedsIff P Q (.error e : Except ε α) := .inr ⟨hP, e, rfl⟩

/-- An equivalent condition will do. -/
theorem congr (h : SucceedsIff P Q x) (hP : P ↔ P') : SucceedsIff P' Q x := by
  rwa [← propext hP]

/-- A weaker result will do. -/
theorem mono {Q₂ : α → Prop} (h : SucceedsIff P Q x) (hQ : ∀ a, Q a → Q₂ a) :
    SucceedsIff P Q₂ x :=
  h.imp_left fun ⟨hP, a, ha, hQa⟩ ↦ ⟨hP, a, ha, hQ a hQa⟩

theorem exists_ok (h : SucceedsIff P Q x) (hP : P) : ∃ a, x = .ok a ∧ Q a :=
  (h.resolve_right fun hnot ↦ hnot.1 hP).2

theorem exists_error (h : SucceedsIff P Q x) (hP : ¬P) : ∃ e, x = .error e :=
  (h.resolve_left fun hyes ↦ hP hyes.1).2

/-- What is known of a computation that has succeeded. -/
theorem of_eq_ok (h : SucceedsIff P Q x) {a : α} (ha : x = .ok a) : P ∧ Q a := by
  rcases h with ⟨hP, a', rfl, hQ⟩ | ⟨-, e, rfl⟩
  · obtain rfl := Except.ok.inj ha
    exact ⟨hP, hQ⟩
  · exact nomatch ha

/-- A sequence succeeds if both parts do. -/
theorem bind {f : α → Except ε α'} (hx : SucceedsIff P Q x)
    (hf : ∀ a, Q a → SucceedsIff P' Q' (f a)) : SucceedsIff (P ∧ P') Q' (x >>= f) := by
  rcases hx with ⟨hP, a, rfl, hQ⟩ | ⟨hP, e, rfl⟩
  · rcases hf a hQ with ⟨hP', b, hb, hQ'⟩ | ⟨hP', e, he⟩
    · exact .inl ⟨⟨hP, hP'⟩, b, hb, hQ'⟩
    · exact .inr ⟨fun h ↦ hP' h.2, e, he⟩
  · exact .inr ⟨fun h ↦ hP h.1, e, rfl⟩

end SucceedsIff

/-- **The loop rule.** `Inv before` holds of the state in which the pass of an element starts, where
`before` is what came before it. -/
theorem succeedsIff_foldlM {f : α → β → Except ε α} {P : β → Prop} (Inv : List β → α → Prop)
    {l : List β} (hpass : ∀ before b after a, l = before ++ b :: after → Inv before a →
      SucceedsIff (P b) (Inv (before ++ [b])) (f a b)) {a : α} (hinit : Inv [] a) :
    SucceedsIff (∀ b ∈ l, P b) (Inv l) (l.foldlM f a) := by
  -- the elements still to come, with the invariant of those before them
  suffices hrest : ∀ after before a, l = before ++ after → Inv before a →
      SucceedsIff (∀ b ∈ after, P b) (Inv l) (after.foldlM f a) from hrest l [] a rfl hinit
  intro after
  induction after with
  | nil =>
    intro before a hl hinv
    rw [append_nil] at hl
    exact .ok (fun b hb ↦ absurd hb not_mem_nil) (hl ▸ hinv)
  | cons b after ih =>
    intro before a hl hinv
    rw [foldlM_cons]
    refine ((hpass before b after a hl hinv).bind fun a' hinv' ↦ ?_).congr
      forall_mem_cons.symm
    exact ih (before ++ [b]) a' (by rw [hl, append_assoc]; rfl) hinv'

/-- A fold depends on its body at the elements of the list only. -/
theorem foldlM_congr {f g : α → β → Except ε α} {l : List β}
    (h : ∀ b ∈ l, ∀ a, f a b = g a b) (a : α) : l.foldlM f a = l.foldlM g a := by
  induction l generalizing a with
  | nil => rfl
  | cons b l ih =>
    rw [foldlM_cons, foldlM_cons, h b (mem_cons_self ..)]
    refine bind_congr fun a' ↦ ?_
    exact ih (fun b' hb' ↦ h b' (mem_cons_of_mem _ hb')) a'

/-- What comes before an element of a list without repetitions. -/
theorem eq_take_of_nodup [DecidableEq β] {l before after : List β} {b : β} (hl : l.Nodup)
    (hsplit : l = before ++ b :: after) : before = l.take (l.idxOf b) := by
  subst hsplit
  have hb : b ∉ before := fun hmem ↦
    disjoint_of_nodup_append hl hmem (mem_cons_self ..)
  rw [idxOf_append_of_notMem hb, idxOf_cons_self, Nat.add_zero, take_left']
  rfl

/-- `for _ in range(n)`. -/
def repeatTimes (body : α → Except ε α) : ℕ → α → Except ε α
  | 0, a => .ok a
  | n + 1, a => body a >>= repeatTimes body n

/-! ### Errors that are not raised -/

/-- The computation does not raise the error. -/
def Avoids (e : ε) (x : Except ε α) : Prop := x ≠ .error e

theorem Avoids.ok {e : ε} (a : α) : Avoids e (.ok a) := fun h ↦ nomatch h

/-- A sequence does not raise what neither of its parts raises. -/
theorem Avoids.bind {e : ε} {x : Except ε α} {f : α → Except ε α'} (hx : Avoids e x)
    (hf : ∀ a, Avoids e (f a)) : Avoids e (x >>= f) := by
  rcases x with e' | a
  · exact fun h ↦ hx (congrArg Except.error (Except.error.inj h))
  · exact hf a

/-- A loop over a list whose body never fails with `e`. -/
theorem Avoids.foldlM {e : ε} {f : α → β → Except ε α} (hf : ∀ a b, Avoids e (f a b))
    (l : List β) (a : α) : Avoids e (l.foldlM f a) := by
  induction l generalizing a with
  | nil => exact .ok a
  | cons b l ih => exact (hf a b).bind ih

/-- A counted loop whose body never fails with `e`. -/
theorem Avoids.repeatTimes {e : ε} {body : α → Except ε α} (hbody : ∀ a, Avoids e (body a))
    (n : ℕ) (a : α) : Avoids e (repeatTimes body n a) := by
  induction n generalizing a with
  | zero => exact .ok a
  | succ n ih => exact (hbody a).bind ih

end ExceptSpec
