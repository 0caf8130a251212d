import Mathlib.Data.Nat.Notation

/-!
# Sequences of checks

A validator is a sequence of tests, each of which lets the rest run or stops with an error. What
such a sequence establishes is the **conjunction** of its tests, whatever the order they are made
in; the order only decides which error is reported. The lemmas here turn `… = .ok ()` into that
conjunction, one for each way to put tests together, so a validator is never run branch by branch.

`require` is the test. It is not `unless … throw`, which the `do` block copies the rest of the
sequence around.
-/

namespace HighBar.Checks

variable {ε : Type*} {α β : Type}

/-- Stop with `e` unless the condition holds. -/
def require (holds : Prop) [Decidable holds] (e : ε) : Except ε Unit :=
  if holds then .ok () else .error e

/-- A check passes exactly if it holds. -/
theorem require_eq_ok {holds : Prop} [Decidable holds] {e : ε} :
    require holds e = .ok () ↔ holds := by
  by_cases h : holds
  · simp only [require, h, if_true]
  · simp only [require, h, if_false, reduceCtorEq]

theorem ok_bind {a : α} {f : α → Except ε β} : (Except.ok a >>= f) = f a :=
  rfl

/-- Two checks pass exactly if each does. -/
theorem bind_eq_ok {x : Except ε α} {f : α → Except ε β} {b : β} :
    (x >>= f) = .ok b ↔ ∃ a, x = .ok a ∧ f a = .ok b := by
  constructor
  · intro h
    rcases x with e | a
    · cases h
    · exact ⟨a, rfl, h⟩
  · rintro ⟨a, rfl, h⟩
    exact h

/-- A test first, and then the rest. -/
theorem require_bind_eq_ok {holds : Prop} [Decidable holds] {e : ε} {f : Unit → Except ε β}
    {b : β} : (require holds e >>= f) = .ok b ↔ holds ∧ f () = .ok b := by
  rw [bind_eq_ok]
  constructor
  · rintro ⟨⟨⟩, h, hb⟩
    exact ⟨require_eq_ok.1 h, hb⟩
  · rintro ⟨h, hb⟩
    exact ⟨(), require_eq_ok.2 h, hb⟩

/-- The same check of every element. -/
theorem forM_eq_ok {check : α → Except ε Unit} {l : List α} :
    l.forM check = .ok () ↔ ∀ a ∈ l, check a = .ok () := by
  induction l with
  | nil => exact ⟨fun _ ↦ List.forall_mem_nil _, fun _ ↦ rfl⟩
  | cons a l ih =>
    show (check a >>= fun _ ↦ l.forM check) = .ok () ↔ _
    rw [bind_eq_ok, List.forall_mem_cons, ← ih]
    constructor
    · rintro ⟨⟨⟩, h, hl⟩
      exact ⟨h, hl⟩
    · rintro ⟨h, hl⟩
      exact ⟨(), h, hl⟩

end HighBar.Checks
