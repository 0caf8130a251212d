import HighBar.Client.RunInterpretation
import HighBar.Library.StripWhile

/-!
# The text of a saved instruction

What a campaign learns about a command is kept as an **instruction**, a text with a revision. The
next run builds on it: `_instruction_detail` puts `Build on saved instruction r<revision>: ` before
the text, and when the result is saved again, `_instruction_body` takes such fronts off. The text
may be anything, so it may itself begin with the front, hold the separator or be surrounded by
spaces.

The loop of `_instruction_body` is a step that makes the text shorter (`unwrapped`), repeated until
it no longer applies (`dropSaved`). What it stops at is stripped and cannot be unwrapped
(`IsBody`), and those are exactly the texts it leaves alone (`instructionBody_eq_self`). A front put
before such a text, unless it is empty, is the only one there is and comes off again.
-/

namespace HighBar.Client

open List Option

/-! ### Stripping -/

theorem strip_eq_stripWhile (text : List Char) : strip text = text.stripWhile isSpace :=
  rfl

/-- Stripping twice is stripping once. -/
theorem strip_strip (text : List Char) : strip (strip text) = strip text :=
  stripWhile_stripWhile isSpace text

/-! ### The separator -/

theorem length_afterFirst_lt {m : Char} {marker text rest : List Char}
    (h : afterFirst (m :: marker) text = some rest) : rest.length < text.length := by
  induction text with
  | nil => exact absurd h (by simp [afterFirst])
  | cons c text ih =>
    rw [afterFirst] at h
    split_ifs at h with hhere
    · rw [← some_inj.1 h, length_drop, length_cons, length_cons]
      omega
    · exact (ih h).trans (Nat.lt_succ_self _)

/-- A marker whose first character does not occur before it is found where it stands. -/
theorem afterFirst_append {m : Char} {marker front rest : List Char} (hfront : m ∉ front) :
    afterFirst (m :: marker) (front ++ (m :: marker) ++ rest) = some rest := by
  induction front with
  | nil =>
    have hhere : (m :: marker).isPrefixOf (m :: (marker ++ rest)) = true :=
      isPrefixOf_iff_prefix.2 (prefix_append (m :: marker) rest)
    rw [nil_append, cons_append, afterFirst, if_pos hhere, ← cons_append,
      drop_left]
  | cons c front ih =>
    have hc : m ≠ c := fun heq ↦ hfront (heq ▸ mem_cons_self)
    have hhere : (m :: marker).isPrefixOf (c :: (front ++ (m :: marker) ++ rest)) ≠ true := by
      intro hpre
      exact hc (cons_prefix_cons.1 ( isPrefixOf_iff_prefix.1 hpre)).1
    rw [cons_append, cons_append, afterFirst, if_neg hhere]
    exact ih fun hmem ↦ hfront (mem_cons_of_mem c hmem)

/-! ### The body -/

/-- `_SAVED_INSTRUCTION_PREFIX`. -/
def savedInstructionPrefix : String := "Build on saved instruction r"

/-- One round of the loop in `_instruction_body`: what follows the separator, stripped, if the text
begins with the front and something follows. -/
def unwrapped (detail : List Char) : Option (List Char) :=
  if savedInstructionPrefix.toList.isPrefixOf detail then
    match afterFirst ": ".toList detail with
    | some (c :: rest) => some (strip (c :: rest))
    | some [] | none => none
  else none

/-- Unwrapping shortens the text, so it ends. -/
theorem length_unwrapped_lt {detail rest : List Char} (h : unwrapped detail = some rest) :
    rest.length < detail.length := by
  rw [unwrapped] at h
  split_ifs at h
  split at h
  next c rest' hafter =>
    rw [← some_inj.1 h]
    exact (length_stripWhile_le isSpace _).trans_lt (length_afterFirst_lt hafter)
  all_goals exact absurd h (by simp)

theorem strip_unwrapped {detail rest : List Char} (h : unwrapped detail = some rest) :
    strip rest = rest := by
  rw [unwrapped] at h
  split_ifs at h
  split at h
  next c rest' hafter =>
    rw [← some_inj.1 h]
    exact strip_strip _
  all_goals exact absurd h (by simp)

/-- The loop of `_instruction_body`. -/
def dropSaved (detail : List Char) : List Char :=
  match _h : unwrapped detail with
  | some rest => dropSaved rest
  | none => detail
termination_by detail.length
decreasing_by exact length_unwrapped_lt _h

theorem dropSaved_of_some {detail rest : List Char} (h : unwrapped detail = some rest) :
    dropSaved detail = dropSaved rest := by
  rw [dropSaved]
  split
  next rest' hrest => rw [some_inj.1 (h.symm.trans hrest)]
  next hnone => exact absurd (h.symm.trans hnone) (by simp)

theorem dropSaved_of_none {detail : List Char} (h : unwrapped detail = none) :
    dropSaved detail = detail := by
  rw [dropSaved]
  split
  next rest hrest => exact absurd (h.symm.trans hrest) (by simp)
  next => rfl

/-- `_instruction_body`. -/
def instructionBody (instruction : String) : String :=
  String.ofList (dropSaved (strip instruction.toList))

theorem toList_instructionBody (instruction : String) :
    (instructionBody instruction).toList = dropSaved (strip instruction.toList) :=
  String.toList_ofList

/-- What the loop stops at. -/
structure IsBody (detail : List Char) : Prop where
  stripped : strip detail = detail
  unwrapped : unwrapped detail = none

/-- What is left when no wrapping is left is a body. -/
theorem isBody_dropSaved {detail : List Char} (h : strip detail = detail) :
    IsBody (dropSaved detail) := by
  -- The rounds of the loop: each of them leaves a stripped text.
  induction detail using dropSaved.induct with
  | case1 detail rest hrest ih =>
    rw [dropSaved_of_some hrest]
    exact ih (strip_unwrapped hrest)
  | case2 detail hnone =>
    rw [dropSaved_of_none hnone]
    exact ⟨h, hnone⟩

/-- **The body of an instruction has no wrapping.** -/
theorem isBody_instructionBody (instruction : String) :
    IsBody (instructionBody instruction).toList := by
  rw [toList_instructionBody]
  exact isBody_dropSaved (strip_strip _)

/-- A body is its own body. -/
theorem IsBody.instructionBody_eq {instruction : String} (h : IsBody instruction.toList) :
    instructionBody instruction = instruction := by
  rw [instructionBody, h.stripped, dropSaved_of_none h.unwrapped, String.ofList_toList]

/-- **`_instruction_body` is idempotent.** -/
theorem instructionBody_instructionBody (instruction : String) :
    instructionBody (instructionBody instruction) = instructionBody instruction :=
  (isBody_instructionBody instruction).instructionBody_eq

/-! ### The front -/

/-- `ActionType`. -/
inductive ActionType where
  | setupChange
  | targetChange
  | evidenceChange
  | timingChange
  | cheatEscalation
  | skipNoBetterAction
deriving Repr, DecidableEq

/-- `InstructionStatus`. -/
inductive InstructionStatus where
  | active
  | superseded
  | retired
  | applied
  | exhausted
deriving Repr, DecidableEq

/-- `ImprovementInstruction`. -/
structure ImprovementInstruction where
  commandId : String
  revision : ℤ
  actionType : ActionType
  status : InstructionStatus
  instruction : String
  updatedAt : String
  sourceRunId : String
  triggerReason : String := ""
deriving Repr, DecidableEq

/-- The front of a text that builds on a revision. -/
def savedFront (revision : ℤ) : String :=
  savedInstructionPrefix ++ toString revision ++ ": "

/-- `_instruction_detail`. -/
def instructionDetail (priorInstruction : Option ImprovementInstruction) (defaultDetail : String) :
    String :=
  match priorInstruction with
  | none => defaultDetail
  | some prior => savedFront prior.revision ++ instructionBody prior.instruction

/-- The digits of a revision hold no separator. -/
theorem colon_notMem_toString (revision : ℤ) : ':' ∉ (toString revision).toList := by
  have hnat : ∀ n : ℕ, ':' ∉ n.repr.toList := by
    intro n hmem
    rw [Nat.toList_repr] at hmem
    exact absurd (Nat.isDigit_of_mem_toDigits (by decide) (by decide) hmem) (by decide)
  rcases revision with n | n
  · exact hnat n
  · intro hmem
    have hsplit : (toString (Int.negSucc n)).toList = '-' :: (n + 1).repr.toList := by
      show ("-" ++ (n + 1).repr).toList = _
      rw [String.toList_append]
      rfl
    rw [hsplit] at hmem
    rcases mem_cons.1 hmem with heq | hmem
    · exact absurd heq (by decide)
    · exact hnat _ hmem

/-- A front before a body that is not empty comes off in one round. -/
theorem unwrapped_savedFront (revision : ℤ) {body : List Char} (hbody : strip body = body)
    (hne : body ≠ []) : unwrapped ((savedFront revision).toList ++ body) = some body := by
  have hfront : (savedFront revision).toList =
      (savedInstructionPrefix.toList ++ (toString revision).toList) ++ ": ".toList := by
    rw [savedFront, String.toList_append, String.toList_append]
  have hcolon : ':' ∉ savedInstructionPrefix.toList ++ (toString revision).toList := by
    rw [mem_append]
    rintro (hmem | hmem)
    · exact absurd hmem (by decide)
    · exact colon_notMem_toString revision hmem
  have hbegins : savedInstructionPrefix.toList.isPrefixOf ((savedFront revision).toList ++ body) =
      true := by
    rw [hfront, append_assoc, append_assoc]
    exact isPrefixOf_iff_prefix.2 (prefix_append _ _)
  have hafter : afterFirst ": ".toList ((savedFront revision).toList ++ body) = some body := by
    rw [hfront]
    exact afterFirst_append hcolon
  obtain ⟨c, rest, rfl⟩ := exists_cons_of_ne_nil hne
  rw [unwrapped, if_pos hbegins, hafter]
  exact congrArg some hbody

/-- The text with a front begins with a letter and ends as the body does, so nothing is stripped. -/
theorem strip_savedFront (revision : ℤ) {body : List Char} (hbody : strip body = body)
    (hne : body ≠ []) :
    strip ((savedFront revision).toList ++ body) = (savedFront revision).toList ++ body := by
  refine stripWhile_eq_self ?_ ?_
  · have hletter : savedInstructionPrefix.toList.head? = some 'B' := by decide
    intro c hc
    rw [savedFront, String.toList_append, String.toList_append, append_assoc,
      append_assoc, head?_append, hletter, some_or, mem_some_iff] at hc
    exact hc ▸ (by decide : isSpace 'B' = false)
  · intro c hc
    rw [getLast?_append_of_ne_nil _ hne, ← hbody, strip_eq_stripWhile] at hc
    exact getLast?_stripWhile c hc

/-- **A front comes off**: what is built on a saved instruction has the body of the instruction,
unless that is empty. -/
theorem instructionBody_instructionDetail (prior : ImprovementInstruction) (defaultDetail : String)
    (hne : instructionBody prior.instruction ≠ "") :
    instructionBody (instructionDetail (some prior) defaultDetail) =
      instructionBody prior.instruction := by
  have hbody := isBody_instructionBody prior.instruction
  have hchars : (instructionBody prior.instruction).toList ≠ [] := fun hnil ↦
    hne (String.toList_eq_nil_iff.1 hnil)
  rw [instructionDetail, instructionBody, String.toList_append,
    strip_savedFront prior.revision hbody.stripped hchars,
    dropSaved_of_some (unwrapped_savedFront prior.revision hbody.stripped hchars),
    dropSaved_of_none hbody.unwrapped, String.ofList_toList]

end HighBar.Client
