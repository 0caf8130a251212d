import Mathlib.Data.List.Basic

/-!
# Loops with a budget and a break

`for i in range(n)` with a `break` in its body: each pass produces an output and either the state of
the next pass or none. What is known about the loop is the **list of its outputs**, so the invariant
rule speaks of the outputs so far and the state of the pass (`exists_of_eq_append`): every output is
that of a pass whose state fits what came before, no output follows a break, and the last output is
a break unless the budget is used up.
-/

variable {σ β : Type*}

/-- The outputs of at most `n` passes from `s`. -/
def breakLoop (body : σ → β × Option σ) : ℕ → σ → List β
  | 0, _ => []
  | n + 1, s =>
    match body s with
    | (b, none) => [b]
    | (b, some t) => b :: breakLoop body n t

namespace breakLoop

open List

variable {body : σ → β × Option σ}

/-- A loop makes no more turns than it has. -/
theorem length_le (n : ℕ) : ∀ s, (breakLoop body n s).length ≤ n := by
  induction n with
  | zero => exact fun _ ↦ Nat.le_refl 0
  | succ n ih =>
    intro s
    rw [breakLoop]
    rcases body s with ⟨b, - | t⟩
    · exact Nat.succ_le_succ (Nat.zero_le n)
    · exact Nat.succ_le_succ (ih t)

/-- It makes at least one. -/
theorem ne_nil (n : ℕ) (s : σ) : breakLoop body (n + 1) s ≠ [] := by
  rw [breakLoop]
  rcases body s with ⟨b, - | t⟩ <;> exact cons_ne_nil _ _

/-- **The invariant rule.** An output of the loop is that of a pass whose state has the invariant of
the outputs before it. -/
theorem exists_of_eq_append {I : List β → σ → Prop}
    (hstep : ∀ outputs s b t, I outputs s → body s = (b, some t) → I (outputs ++ [b]) t) {n : ℕ} :
    ∀ {s : σ} {outputs before after : List β} {b : β}, I outputs s →
      breakLoop body n s = before ++ b :: after →
      ∃ t, I (outputs ++ before) t ∧ (body t).1 = b ∧ ((body t).2 = none → after = []) ∧
        (after = [] → (body t).2 = none ∨ before.length + 1 = n) := by
  induction n with
  | zero =>
    intro s outputs before after b _ h
    exact absurd h.symm (append_ne_nil_of_right_ne_nil _ (cons_ne_nil _ _))
  | succ n ih =>
    intro s outputs before after b hs h
    rw [breakLoop] at h
    rcases hbody : body s with ⟨c, - | t⟩ <;> rw [hbody] at h
    · -- a break: there is one output
      rcases before with - | ⟨d, before⟩
      · obtain ⟨rfl, rfl⟩ := List.cons.inj h
        exact ⟨s, by rwa [append_nil], by rw [hbody], fun _ ↦ rfl,
          fun _ ↦ .inl (by rw [hbody])⟩
      · exact absurd (List.cons.inj h).2.symm
          (append_ne_nil_of_right_ne_nil _ (cons_ne_nil _ _))
    · rcases before with - | ⟨d, before⟩
      · obtain ⟨rfl, rfl⟩ := List.cons.inj h
        refine ⟨s, by rwa [append_nil], by rw [hbody], fun hnone ↦ ?_, fun hnil ↦ .inr ?_⟩
        · rw [hbody] at hnone
          exact absurd hnone (Option.some_ne_none t)
        · rcases n with - | n
          · rfl
          · exact absurd hnil (ne_nil n t)
      · obtain ⟨rfl, hrest⟩ := List.cons.inj h
        obtain ⟨u, hu, hfst, hbreak, hlast⟩ := ih (hstep _ _ _ _ hs hbody) hrest
        refine ⟨u, by rwa [append_assoc] at hu, hfst, hbreak, fun hnil ↦ ?_⟩
        exact (hlast hnil).imp_right fun hlen ↦ by rw [length_cons, hlen]

end breakLoop
