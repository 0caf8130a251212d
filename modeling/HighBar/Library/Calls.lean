import Mathlib.Tactic.Common

/-!
# Programs that call out and may throw

A program that calls code it does not control sees each call **return a value or throw**, and what
it did before a throw stays done. `Calls ε σ` is that kind of program: local variables in `σ`, and a
log of the calls made so far with what each came back with. It is the standard `EStateM` with the
log in its state, so a handler sees the log of what it caught.

## Weakest preconditions

`wp p Q E s` says that `p` started at `s` ends in `Q` if it returns and in `E` if it throws. Each
operation has one rule, an equivalence and a `simp` lemma, so that rewriting turns a program into
the case analysis over **what its calls came back with**, and nothing else is left of it.

`Preserves I p` says that `p` keeps `I` however it ends. It has one rule for each operation too, and
needs no case analysis: only the calls have to be looked at, one by one.
-/

/-- What a call came back with. -/
inductive Outcome (α : Type) where
  | returned (value : α)
  | threw
deriving Repr, DecidableEq

theorem Outcome.returned_ne_threw {α : Type} (value : α) : Outcome.returned value ≠ .threw := by
  simp

/-- Local variables, and the calls made so far. -/
structure CallState (ε σ : Type) where
  locals : σ
  log : List ε := []
deriving Repr, DecidableEq

namespace CallState

variable {ε σ : Type}

/-- One more call. -/
def record (s : CallState ε σ) (event : ε) : CallState ε σ := { s with log := s.log ++ [event] }

@[simp] theorem locals_record (s : CallState ε σ) (event : ε) :
    (s.record event).locals = s.locals := rfl

end CallState

/-- A program that logs calls `ε` over local variables `σ`. -/
abbrev Calls (ε σ α : Type) : Type := EStateM Unit (CallState ε σ) α

namespace Calls

variable {ε σ α β : Type}

/-- Make one call, that comes back with `answer`. -/
def call (event : Outcome α → ε) (answer : Outcome α) : Calls ε σ α := fun s ↦
  match answer with
  | .returned value => .ok value (s.record (event answer))
  | .threw => .error () (s.record (event answer))

/-- `try { body } catch (...) { handler }`. -/
def catchAll (body handler : Calls ε σ α) : Calls ε σ α := fun s ↦
  match body s with
  | .ok value t => .ok value t
  | .error _ t => handler t

/-- A destructor at the end of a scope: `cleanup` runs after `body`, also if that throws. -/
def always (body : Calls ε σ α) (cleanup : Calls ε σ Unit) : Calls ε σ α := fun s ↦
  match body s with
  | .ok value t => (cleanup >>= fun _ ↦ pure value : Calls ε σ α) t
  | .error _ t => (cleanup >>= fun _ ↦ throw () : Calls ε σ α) t

/-- Where the program ends: in `Q` if it returns, in `E` if it throws. -/
def wp (p : Calls ε σ α) (Q : α → CallState ε σ → Prop) (E : CallState ε σ → Prop)
    (s : CallState ε σ) : Prop :=
  match p.run s with
  | .ok value t => Q value t
  | .error _ t => E t

variable {Q : β → CallState ε σ → Prop} {E : CallState ε σ → Prop} {s : CallState ε σ}

@[simp] theorem wp_pure (value : β) : wp (pure value : Calls ε σ β) Q E s ↔ Q value s := Iff.rfl

/-- Sequencing: the rest of the program runs from where the first part ends. -/
@[simp] theorem wp_bind (p : Calls ε σ α) (f : α → Calls ε σ β) :
    wp (p >>= f) Q E s ↔ wp p (fun value t ↦ wp (f value) Q E t) E s := by
  rw [wp, wp, EStateM.run_bind]
  rcases p.run s with ⟨value, t⟩ | ⟨-, t⟩
  · exact Iff.rfl
  · exact Iff.rfl

@[simp] theorem wp_map (f : α → β) (p : Calls ε σ α) :
    wp (f <$> p) Q E s ↔ wp p (fun value t ↦ Q (f value) t) E s := by
  rw [← bind_pure_comp]
  exact wp_bind p _

@[simp] theorem wp_call_returned (event : Outcome β → ε) (value : β) :
    wp (call event (.returned value)) Q E s ↔ Q value (s.record (event (.returned value))) :=
  Iff.rfl

@[simp] theorem wp_call_threw (event : Outcome β → ε) :
    wp (call event .threw) Q E s ↔ E (s.record (event .threw)) :=
  Iff.rfl

/-- A handler runs from where the body threw. -/
@[simp] theorem wp_catchAll (body handler : Calls ε σ β) :
    wp (catchAll body handler) Q E s ↔ wp body Q (fun t ↦ wp handler Q E t) s := by
  simp only [wp, catchAll, EStateM.run]
  rcases body s with ⟨value, t⟩ | ⟨-, t⟩
  · exact Iff.rfl
  · exact Iff.rfl

@[simp] theorem wp_throw : wp (throw () : Calls ε σ β) Q E s ↔ E s := Iff.rfl

/-- The destructor runs on both exits. -/
theorem wp_always (body : Calls ε σ β) (cleanup : Calls ε σ Unit) :
    wp (always body cleanup) Q E s ↔
      wp body (fun value t ↦ wp cleanup (fun _ u ↦ Q value u) E t)
        (fun t ↦ wp cleanup (fun _ u ↦ E u) E t) s := by
  have hreturned : ∀ (value : β) (t : CallState ε σ),
      wp (cleanup >>= fun _ ↦ pure value) Q E t ↔ wp cleanup (fun _ u ↦ Q value u) E t := fun _ _ ↦
    wp_bind ..
  have hthrew : ∀ t : CallState ε σ,
      wp (cleanup >>= fun _ ↦ throw ()) Q E t ↔ wp cleanup (fun _ u ↦ E u) E t := fun _ ↦
    wp_bind ..
  rw [wp, wp, EStateM.run, EStateM.run, always]
  rcases body s with ⟨value, t⟩ | ⟨-, t⟩
  · exact hreturned value t
  · exact hthrew t

@[simp] theorem wp_get {R : CallState ε σ → CallState ε σ → Prop} :
    wp (get : Calls ε σ (CallState ε σ)) R E s ↔ R s s :=
  Iff.rfl

@[simp] theorem wp_modify {R : PUnit → CallState ε σ → Prop}
    (f : CallState ε σ → CallState ε σ) :
    wp (modify f : Calls ε σ PUnit) R E s ↔ R ⟨⟩ (f s) :=
  Iff.rfl

@[simp] theorem wp_ite {c : Prop} [Decidable c] (p q : Calls ε σ β) :
    wp (if c then p else q) Q E s ↔ if c then wp p Q E s else wp q Q E s := by
  split_ifs
  · exact Iff.rfl
  · exact Iff.rfl

/-- A program ends, one way or the other. -/
@[simp] theorem wp_const (p : Calls ε σ β) (X : Prop) :
    wp p (fun _ _ ↦ X) (fun _ ↦ X) s ↔ X := by
  rw [wp]
  rcases p.run s with ⟨-, t⟩ | ⟨-, t⟩
  · exact Iff.rfl
  · exact Iff.rfl

/-- The rule of consequence. -/
theorem wp_mono {Q' : β → CallState ε σ → Prop} {E' : CallState ε σ → Prop} {p : Calls ε σ β}
    (hQ : ∀ value t, Q value t → Q' value t) (hE : ∀ t, E t → E' t) (h : wp p Q E s) :
    wp p Q' E' s := by
  revert h
  rw [wp, wp]
  rcases p.run s with ⟨value, t⟩ | ⟨-, t⟩
  · exact hQ value t
  · exact hE t

/-- A program ends once, so what it does not end in, it ends outside of. -/
theorem wp_not {p : Calls ε σ β} :
    wp p (fun value t ↦ ¬Q value t) (fun t ↦ ¬E t) s ↔ ¬wp p Q E s := by
  rw [wp, wp]
  rcases p.run s with ⟨value, t⟩ | ⟨-, t⟩
  · exact Iff.rfl
  · exact Iff.rfl

/-! ### Programs that keep an invariant -/

variable {I : CallState ε σ → Prop}

/-- The program keeps `I`, whether it returns or throws. -/
def Preserves (I : CallState ε σ → Prop) (p : Calls ε σ α) : Prop :=
  ∀ s, I s → wp p (fun _ t ↦ I t) I s

theorem preserves_pure (value : α) : Preserves I (pure value : Calls ε σ α) := fun _ h ↦ h

/-- An invariant of both parts is one of the sequence. -/
theorem preserves_bind {p : Calls ε σ α} {f : α → Calls ε σ β} (hp : Preserves I p)
    (hf : ∀ value, Preserves I (f value)) : Preserves I (p >>= f) := by
  intro s hs
  rw [wp_bind]
  exact wp_mono (fun value t ht ↦ hf value t ht) (fun _ ht ↦ ht) (hp s hs)

/-- A call keeps an invariant that its event keeps. -/
theorem preserves_call {event : Outcome α → ε} {answer : Outcome α}
    (h : ∀ s, I s → I (s.record (event answer))) :
    Preserves I (call event answer : Calls ε σ α) := by
  intro s hs
  rcases answer with value | -
  · exact h s hs
  · exact h s hs

theorem preserves_catchAll {body handler : Calls ε σ α} (hbody : Preserves I body)
    (hhandler : Preserves I handler) : Preserves I (catchAll body handler) := by
  intro s hs
  rw [wp_catchAll]
  exact wp_mono (fun _ _ ht ↦ ht) (fun t ht ↦ hhandler t ht) (hbody s hs)

theorem preserves_get : Preserves I (get : Calls ε σ (CallState ε σ)) := fun _ h ↦ h

theorem preserves_ite {c : Prop} [Decidable c] {p q : Calls ε σ α} (hp : Preserves I p)
    (hq : Preserves I q) : Preserves I (if c then p else q) := by
  split_ifs
  · exact hp
  · exact hq

end Calls
