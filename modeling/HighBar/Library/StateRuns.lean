import Mathlib.Tactic.Common

/-!
# Programs over a state that may fail

`StateT σ Option` is the monad of a program that changes a state and stops when it does something it
must not do, such as an access outside an array. `Runs x Q s` says that `x` started at `s` **does
not fail**, and that `Q` holds of its result and of the state it ends in.

Each way of putting programs together has one rule. The rule for a loop over a list takes an
invariant of what the loop has been over.
-/

namespace StateRuns

variable {σ α β γ : Type}

/-- The program does not fail from `s` and ends in `Q`. -/
def Runs (x : StateT σ Option α) (Q : α → σ → Prop) (s : σ) : Prop :=
  ∃ a t, x s = some (a, t) ∧ Q a t

variable {x : StateT σ Option α} {f : α → StateT σ Option β} {Q Q' : α → σ → Prop}
  {R : β → σ → Prop} {s : σ}

/-- The rule of consequence. -/
theorem Runs.mono (h : Runs x Q s) (hQ : ∀ a t, Q a t → Q' a t) : Runs x Q' s := by
  obtain ⟨a, t, heq, hQa⟩ := h
  exact ⟨a, t, heq, hQ a t hQa⟩

theorem runs_pure {a : α} (h : Q a s) : Runs (pure a) Q s := ⟨a, s, rfl, h⟩

/-- A program that only looks something up. -/
theorem runs_lift {o : Option α} {a : α} (ho : o = some a) (h : Q a s) :
    Runs (StateT.lift o) Q s := by
  subst ho
  exact ⟨a, s, rfl, h⟩

/-- Sequencing. -/
theorem Runs.bind (hx : Runs x Q s) (hf : ∀ a t, Q a t → Runs (f a) R t) :
    Runs (x >>= f) R s := by
  obtain ⟨a, t, heq, hQ⟩ := hx
  obtain ⟨b, u, heq', hR⟩ := hf a t hQ
  refine ⟨b, u, ?_, hR⟩
  show (x s).bind (fun p ↦ f p.1 p.2) = some (b, u)
  rw [heq]
  exact heq'

/-- **The loop rule.** `Inv before` holds where the pass of an element starts, where `before` is
what came before the element. -/
theorem runs_foldlM {body : β → γ → StateT σ Option β} (Inv : List γ → β → σ → Prop)
    {l : List γ} (hpass : ∀ before c after b s, l = before ++ c :: after → Inv before b s →
      Runs (body b c) (Inv (before ++ [c])) s) {b : β} (hinit : Inv [] b s) :
    Runs (l.foldlM body b) (Inv l) s := by
  -- the elements still to come, with the invariant of those before them
  suffices hrest : ∀ after before b s, l = before ++ after → Inv before b s →
      Runs (after.foldlM body b) (Inv l) s from hrest l [] b s rfl hinit
  intro after
  induction after with
  | nil =>
    intro before b s hl hinv
    rw [List.append_nil] at hl
    exact runs_pure (hl ▸ hinv)
  | cons c after ih =>
    intro before b s hl hinv
    rw [List.foldlM_cons]
    refine (hpass before c after b s hl hinv).bind fun b' s' hinv' ↦ ?_
    exact ih (before ++ [c]) b' s' (by rw [hl, List.append_assoc]; rfl) hinv'

end StateRuns
