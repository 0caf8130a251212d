import HighBar.Library.Calls

/-!
# A flag that is switched on for a while

A program needs a flag of the outside world to be on, finds out whether it is, switches it on if not
and has to **put it back** whatever happens in between. The flag is not in the program: it is known
from the calls alone, those that ask for it and those that set it.

`view` says which of the calls of a program are about the flag. The outside world keeps its side of
the bargain along a log (`Lawful`) if a query reports the flag, and if **switching it off succeeds
when it was switched on before**; any call may fail or throw otherwise, and a set that fails or
throws leaves the flag as it was.

## Two invariants

`Armed` holds from the start up to the moment the flag is put back: the flag is on exactly if it was
on before or the program's local variable says that the program has switched it on. `Restored` holds
from then on. Both are kept by calls that are not about the flag, and `switchBack` leads from either
to `Restored`, whether it returns or throws. A program `PutsBack` if it leads from `Armed`, with
nothing switched on yet, to `Restored`.
-/

/-- A call about the flag. -/
inductive FlagCall where
  | query (outcome : Outcome Bool)
  | set (value : Bool) (outcome : Outcome Bool)
deriving Repr, DecidableEq

/-- The flag, and whether it was switched on and not off again since. -/
structure FlagState where
  flag : Bool
  switchedOn : Bool := false
deriving Repr, DecidableEq

namespace FlagState

/-- What a call does to the flag: only a set that returns true does anything. -/
def after (f : FlagState) : Option FlagCall → FlagState
  | some (.set value (.returned true)) => ⟨value, value⟩
  | some (.set _ (.returned false)) | some (.set _ .threw) | some (.query _) | none => f

/-- The bargain, for one call. -/
def Allows (f : FlagState) : Option FlagCall → Prop
  | some (.query (.returned value)) => value = f.flag
  | some (.set false outcome) => f.switchedOn = true → outcome = .returned true
  | some (.query .threw) | some (.set true _) | none => True

instance (f : FlagState) : ∀ c, Decidable (f.Allows c)
  | some (.query (.returned _)) => inferInstanceAs (Decidable (_ = _))
  | some (.set false _) => inferInstanceAs (Decidable (_ → _))
  | some (.query .threw) | some (.set true _) | none => inferInstanceAs (Decidable True)

end FlagState

namespace SwitchedFlag

variable {ε α : Type} (view : ε → Option FlagCall)

/-- The flag after the calls of a log. -/
def stateAfter (f : FlagState) (log : List ε) : FlagState :=
  log.foldl (fun f event ↦ f.after (view event)) f

/-- The outside world keeps the bargain along a log. -/
def Lawful : FlagState → List ε → Prop
  | _, [] => True
  | f, event :: log => f.Allows (view event) ∧ Lawful (f.after (view event)) log

instance decidableLawful : ∀ (f : FlagState) (log : List ε), Decidable (Lawful view f log)
  | _, [] => inferInstanceAs (Decidable True)
  | f, event :: log =>
    haveI := decidableLawful (f.after (view event)) log
    inferInstanceAs (Decidable (f.Allows (view event) ∧ _))

/-- The flag after one more event. -/
theorem stateAfter_append_singleton (f : FlagState) (log : List ε) (event : ε) :
    stateAfter view f (log ++ [event]) = (stateAfter view f log).after (view event) :=
  List.foldl_append ..

/-- A log stays lawful if its next event is allowed. -/
theorem lawful_append_singleton (log : List ε) (event : ε) :
    ∀ f, Lawful view f (log ++ [event]) ↔
      Lawful view f log ∧ (stateAfter view f log).Allows (view event) := by
  induction log with
  | nil =>
    intro f
    exact ⟨fun h ↦ ⟨trivial, h.1⟩, fun h ↦ ⟨h.2, trivial⟩⟩
  | cons first log ih =>
    intro f
    rw [List.cons_append, Lawful, Lawful, ih, and_assoc]
    rfl

/-! ### The two invariants -/

/-- The flag is put back. -/
def Restored (flag : Bool) (s : CallState ε Bool) : Prop :=
  Lawful view ⟨flag, false⟩ s.log →
    stateAfter view ⟨flag, false⟩ s.log = ⟨flag, false⟩ ∧ (s.locals = true → flag = false)

/-- The flag is on if it was before, or if the program says that it has switched it on. -/
def Armed (flag : Bool) (s : CallState ε Bool) : Prop :=
  Lawful view ⟨flag, false⟩ s.log →
    stateAfter view ⟨flag, false⟩ s.log = ⟨flag || s.locals, s.locals⟩ ∧
      (s.locals = true → flag = false)

variable {view} {flag : Bool} {s : CallState ε Bool}

theorem armed_init : Armed view flag (⟨false, []⟩ : CallState ε Bool) := fun _ ↦
  ⟨by rw [Bool.or_false]; rfl, Bool.noConfusion⟩

/-- As long as the program has not switched the flag on, there is nothing to put back. -/
theorem Armed.restored (h : Armed view flag s) (hlocals : s.locals = false) :
    Restored view flag s := by
  intro hlawful
  have harmed := h hlawful
  rw [hlocals, Bool.or_false] at harmed
  rw [hlocals]
  exact harmed

/-- The flag is what it was. -/
theorem Restored.flag_eq (h : Restored view flag s) (hlawful : Lawful view ⟨flag, false⟩ s.log) :
    (stateAfter view ⟨flag, false⟩ s.log).flag = flag := by
  rw [(h hlawful).1]

/-- One more call: what is known of the flag before it, under the bargain for the call. -/
theorem record_iff {P : FlagState → Bool → Prop} {event : ε} :
    (Lawful view ⟨flag, false⟩ (s.record event).log →
        P (stateAfter view ⟨flag, false⟩ (s.record event).log) s.locals) ↔
      (Lawful view ⟨flag, false⟩ s.log →
        (stateAfter view ⟨flag, false⟩ s.log).Allows (view event) →
          P ((stateAfter view ⟨flag, false⟩ s.log).after (view event)) s.locals) := by
  rw [CallState.record, lawful_append_singleton, stateAfter_append_singleton, and_imp]

/-- A call that is not about the flag. -/
theorem Armed.record_other {event : ε} (h : Armed view flag s) (hview : view event = none) :
    Armed view flag (s.record event) := by
  refine record_iff (P := fun f locals ↦
    f = ⟨flag || locals, locals⟩ ∧ (locals = true → flag = false)).2 fun hlawful _ ↦ ?_
  rw [hview]
  exact h hlawful

theorem Restored.record_other {event : ε} (h : Restored view flag s) (hview : view event = none) :
    Restored view flag (s.record event) := by
  refine record_iff (P := fun f locals ↦
    f = ⟨flag, false⟩ ∧ (locals = true → flag = false)).2 fun hlawful _ ↦ ?_
  rw [hview]
  exact h hlawful

open Calls

/-! ### Programs that are none of the flag's business -/

/-- The program keeps both invariants. -/
structure Neutral (view : ε → Option FlagCall) (program : Calls ε Bool α) : Prop where
  armed : ∀ flag, Preserves (Armed view flag) program
  restored : ∀ flag, Preserves (Restored view flag) program

variable {β : Type}

theorem neutral_pure (value : α) : Neutral view (pure value : Calls ε Bool α) :=
  ⟨fun _ ↦ preserves_pure value, fun _ ↦ preserves_pure value⟩

theorem neutral_call {event : Outcome α → ε} {answer : Outcome α}
    (hview : view (event answer) = none) : Neutral view (call event answer : Calls ε Bool α) :=
  ⟨fun _ ↦ preserves_call fun _ h ↦ h.record_other hview,
    fun _ ↦ preserves_call fun _ h ↦ h.record_other hview⟩

/-- Two programs that leave the flag alone, one after the other. -/
theorem neutral_bind {p : Calls ε Bool α} {f : α → Calls ε Bool β} (hp : Neutral view p)
    (hf : ∀ value, Neutral view (f value)) : Neutral view (p >>= f) :=
  ⟨fun flag ↦ preserves_bind (hp.armed flag) fun value ↦ (hf value).armed flag,
    fun flag ↦ preserves_bind (hp.restored flag) fun value ↦ (hf value).restored flag⟩

theorem neutral_ite {c : Prop} [Decidable c] {p q : Calls ε Bool α} (hp : Neutral view p)
    (hq : Neutral view q) : Neutral view (if c then p else q) :=
  ⟨fun flag ↦ preserves_ite (hp.armed flag) (hq.armed flag),
    fun flag ↦ preserves_ite (hp.restored flag) (hq.restored flag)⟩

theorem neutral_catchAll {body handler : Calls ε Bool α} (hbody : Neutral view body)
    (hhandler : Neutral view handler) : Neutral view (catchAll body handler) :=
  ⟨fun flag ↦ preserves_catchAll (hbody.armed flag) (hhandler.armed flag),
    fun flag ↦ preserves_catchAll (hbody.restored flag) (hhandler.restored flag)⟩

/-- What a program owes: from a state in which it has switched nothing on, it ends with the flag put
back, whether it returns or throws. -/
def PutsBack (view : ε → Option FlagCall) (program : Calls ε Bool α) : Prop :=
  ∀ flag s, Armed view flag s → s.locals = false →
    wp program (fun _ t ↦ Restored view flag t) (Restored view flag) s

/-- A program that leaves the flag alone puts it back. -/
theorem Neutral.putsBack {program : Calls ε Bool α} (h : Neutral view program) :
    PutsBack view program := fun flag s hs hlocals ↦ h.restored flag s (hs.restored hlocals)

theorem putsBack_ite {c : Prop} [Decidable c] {p q : Calls ε Bool α} (hp : PutsBack view p)
    (hq : PutsBack view q) : PutsBack view (if c then p else q) := by
  split_ifs
  · exact hp
  · exact hq

/-- Calls before, that are none of the flag's business. -/
theorem putsBack_call_bind {event : Outcome α → ε} {answer : Outcome α} {f : α → Calls ε Bool β}
    (hview : view (event answer) = none) (hf : ∀ value, PutsBack view (f value)) :
    PutsBack view (call event answer >>= f) := by
  intro flag s hs hlocals
  have hcalled := hs.record_other hview
  rw [wp_bind]
  rcases answer with value | -
  · exact hf value flag _ hcalled hlocals
  · exact hcalled.restored hlocals

/-! ### Switching on and back -/

section

variable (query : Outcome Bool → ε) (set : Bool → Outcome Bool → ε)

/-- Switch the flag on unless it is, and remember it; whether the flag is on now. -/
def switchOn (asked enabled : Outcome Bool) : Calls ε Bool Bool := do
  let wasEnabled ← call query asked
  if wasEnabled then pure true
  else
    let done ← call (set true) enabled
    if done then
      modify fun s ↦ { s with locals := true }
      pure true
    else pure false

/-- Switch the flag off again, if it was switched on here. -/
def switchBack (answer : Outcome Bool) : Calls ε Bool Unit := do
  let s ← get
  if s.locals then
    let _ ← call (set false) answer
    pure ()
  else pure ()

variable {query set} (hquery : ∀ outcome, view (query outcome) = some (.query outcome))
  (hset : ∀ value outcome, view (set value outcome) = some (.set value outcome))

include hquery in
theorem Armed.record_query (h : Armed view flag s) (outcome : Outcome Bool) :
    Armed view flag (s.record (query outcome)) := by
  refine record_iff (P := fun f locals ↦
    f = ⟨flag || locals, locals⟩ ∧ (locals = true → flag = false)).2 fun hlawful _ ↦ ?_
  rw [hquery]
  exact h hlawful

include hset in
/-- A set that fails leaves everything as it was. -/
theorem Armed.record_set_failed (h : Armed view flag s) (value : Bool) {outcome : Outcome Bool}
    (hfailed : outcome ≠ .returned true) : Armed view flag (s.record (set value outcome)) := by
  refine record_iff (P := fun f locals ↦
    f = ⟨flag || locals, locals⟩ ∧ (locals = true → flag = false)).2 fun hlawful _ ↦ ?_
  have hafter : ∀ f : FlagState, f.after (view (set value outcome)) = f := by
    intro f
    rw [hset]
    rcases outcome with (- | -) | -
    · rfl
    · exact absurd rfl hfailed
    · rfl
  rw [hafter]
  exact h hlawful

include hquery hset in
/-- The flag was found off and is switched on. -/
theorem Armed.record_switchedOn (h : Armed view flag s) (hlocals : s.locals = false) :
    Armed view flag
      { (s.record (query (.returned false))).record (set true (.returned true)) with
        locals := true } := by
  intro hlawful
  obtain ⟨hfound, -⟩ := (lawful_append_singleton view _ _ _).1 hlawful
  obtain ⟨hbefore, hreported⟩ := (lawful_append_singleton view _ _ _).1 hfound
  have hflag : flag = false := by
    rw [hquery, (h hbefore).1, hlocals, Bool.or_false] at hreported
    exact hreported.symm
  refine ⟨?_, fun _ ↦ hflag⟩
  show stateAfter view _ (_ ++ [_]) = _
  rw [stateAfter_append_singleton, hset, Bool.or_true]
  rfl

include hquery hset in
/-- `switchOn` keeps the invariant, and has switched nothing on if it returns false. -/
theorem wp_switchOn (asked enabled : Outcome Bool) (h : Armed view flag s)
    (hlocals : s.locals = false) :
    wp (switchOn query set asked enabled)
      (fun on t ↦ Armed view flag t ∧ (on = false → t.locals = false)) (Armed view flag) s := by
  have hasked := h.record_query hquery asked
  rw [switchOn, wp_bind]
  rcases asked with (- | -) | -
  · rw [wp_call_returned, if_neg Bool.false_ne_true, wp_bind]
    rcases enabled with (- | -) | -
    · exact ⟨hasked.record_set_failed hset true nofun, fun _ ↦ hlocals⟩
    · exact ⟨h.record_switchedOn hquery hset hlocals, Bool.noConfusion⟩
    · exact hasked.record_set_failed hset true nofun
  · exact ⟨hasked, Bool.noConfusion⟩
  · exact hasked

include hset in
/-- Switching off puts the flag back, or breaks the bargain. -/
theorem restored_record_set_false (h : Armed view flag s ∨ Restored view flag s)
    (hlocals : s.locals = true) (outcome : Outcome Bool) :
    Restored view flag (s.record (set false outcome)) := by
  refine record_iff (P := fun f locals ↦
    f = ⟨flag, false⟩ ∧ (locals = true → flag = false)).2 fun hlawful hallows ↦ ?_
  rw [hset] at hallows ⊢
  rcases h with harmed | hrestored
  · obtain ⟨hstate, hoff⟩ := harmed hlawful
    rw [hstate] at hallows ⊢
    obtain rfl := hallows hlocals
    rw [hoff hlocals]
    exact ⟨rfl, fun _ ↦ rfl⟩
  · obtain ⟨hstate, hoff⟩ := hrestored hlawful
    rw [hstate, hoff hlocals]
    refine ⟨?_, fun _ ↦ rfl⟩
    rcases outcome with (- | -) | - <;> rfl

include hset in
/-- **`switchBack` puts the flag back**, whether it returns or throws. -/
theorem wp_switchBack (answer : Outcome Bool) (h : Armed view flag s ∨ Restored view flag s) :
    wp (switchBack set answer) (fun _ t ↦ Restored view flag t) (Restored view flag) s := by
  rw [switchBack, wp_bind, wp_get]
  by_cases hlocals : s.locals = true
  · have hdone := restored_record_set_false hset h hlocals
    rw [if_pos hlocals, wp_bind]
    rcases answer with value | -
    · exact hdone _
    · exact hdone _
  · rw [if_neg hlocals, wp_pure]
    rcases h with harmed | hrestored
    · exact harmed.restored (Bool.eq_false_iff.2 hlocals)
    · exact hrestored

end

end SwitchedFlag
