import HighBar.Library.FloatValue

/-!
# What the coordinator checks before it relays a batch

`validate_command_batch` asks for a positive `batch_seq`, at least one command, an arm in every
command, and **no float anywhere that is not finite**. The last check is reflective: it walks the
set fields of any message, as `ListFields` gives them, and the error names the path it took.

So a message is its list of set fields here. `validateFiniteFields_eq_none_iff` says that the walk
misses nothing.
-/

namespace HighBar.Coordinator

open List Option

/-- The value of a set field, as far as `_validate_finite_fields` tells the types apart. -/
inductive FieldValue where
  /-- Neither a message nor a float, repeated or not. -/
  | other
  | float (value : FloatValue)
  | floats (values : List FloatValue)
  | message (fields : List (String × FieldValue))
  | messages (items : List (List (String × FieldValue)))

/-- A message, by its set fields. -/
abbrev Message := List (String × FieldValue)

/-- `f"{path}.{field.name}" if path else field.name`. -/
def fieldPath (path name : String) : String :=
  if path = "" then name else path ++ "." ++ name

/-- The path of an element of a repeated field. -/
def itemPath (path : String) (idx : ℕ) : String := path ++ "[" ++ toString idx ++ "]"

/-- The text of the error. -/
def mustBeFinite (path : String) : String := path ++ " must be finite"

/-- The loop over a repeated float field. -/
def validateFloats (path : String) : ℕ → List FloatValue → Option String
  | _, [] => none
  | idx, value :: rest =>
    if value.isFinite then validateFloats path (idx + 1) rest
    else some (mustBeFinite (itemPath path idx))

mutual

/-- `_validate_finite_fields`: the first error in the order of the fields. -/
def validateFiniteFields (path : String) : Message → Option String
  | [] => none
  | (name, value) :: rest =>
    match validateField (fieldPath path name) value with
    | some err => some err
    | none => validateFiniteFields path rest

/-- The body of the loop, for one field. -/
def validateField (path : String) : FieldValue → Option String
  | .other => none
  | .float value => if value.isFinite then none else some (mustBeFinite path)
  | .floats values => validateFloats path 0 values
  | .message fields => validateFiniteFields path fields
  | .messages items => validateItems path 0 items

/-- The loop over a repeated message field. -/
def validateItems (path : String) (idx : ℕ) : List Message → Option String
  | [] => none
  | item :: rest =>
    match validateFiniteFields (itemPath path idx) item with
    | some err => some err
    | none => validateItems path (idx + 1) rest

end

mutual

/-- Every float below a message is finite. -/
def FiniteFields : Message → Prop
  | [] => True
  | (_, value) :: rest => FiniteField value ∧ FiniteFields rest

/-- Every float below a field is finite. -/
def FiniteField : FieldValue → Prop
  | .other => True
  | .float value => value.isFinite = true
  | .floats values => ∀ value ∈ values, value.isFinite = true
  | .message fields => FiniteFields fields
  | .messages items => FiniteItems items

/-- Every float below a list of messages is finite. -/
def FiniteItems : List Message → Prop
  | [] => True
  | item :: rest => FiniteFields item ∧ FiniteItems rest

end

/-- A list of floats passes exactly if all are finite. -/
theorem validateFloats_eq_none_iff (path : String) (values : List FloatValue) :
    ∀ idx, validateFloats path idx values = none ↔ ∀ value ∈ values, value.isFinite = true := by
  induction values with
  | nil => exact fun _ ↦ ⟨fun _ ↦ forall_mem_nil _, fun _ ↦ rfl⟩
  | cons value rest ih =>
    intro idx
    rw [validateFloats, forall_mem_cons]
    by_cases hvalue : value.isFinite = true
    · rw [if_pos hvalue, ih]
      exact (and_iff_right hvalue).symm
    · rw [if_neg hvalue]
      exact iff_of_false (some_ne_none _) fun h ↦ hvalue h.1

mutual

/-- **The walk misses nothing**: it reports no error exactly if every float is finite. -/
theorem validateFiniteFields_eq_none_iff (path : String) :
    ∀ fields : Message, validateFiniteFields path fields = none ↔ FiniteFields fields
  | [] => by simp only [validateFiniteFields, FiniteFields]
  | (name, value) :: rest => by
    have hvalue := validateField_eq_none_iff (fieldPath path name) value
    have hrest := validateFiniteFields_eq_none_iff path rest
    rw [validateFiniteFields, FiniteFields, ← hvalue, ← hrest]
    cases validateField (fieldPath path name) value with
    | some err => exact iff_of_false (some_ne_none err) fun h ↦ some_ne_none _ h.1
    | none => exact (and_iff_right rfl).symm

theorem validateField_eq_none_iff (path : String) :
    ∀ value : FieldValue, validateField path value = none ↔ FiniteField value
  | .other => by simp only [validateField, FiniteField]
  | .float value => by
    rw [validateField, FiniteField]
    by_cases hvalue : value.isFinite = true
    · rw [if_pos hvalue]
      exact iff_of_true rfl hvalue
    · rw [if_neg hvalue]
      exact iff_of_false (some_ne_none _) hvalue
  | .floats values => by
    rw [validateField, FiniteField]
    exact validateFloats_eq_none_iff path values 0
  | .message fields => by
    rw [validateField, FiniteField]
    exact validateFiniteFields_eq_none_iff path fields
  | .messages items => by
    rw [validateField, FiniteField]
    exact validateItems_eq_none_iff path 0 items

theorem validateItems_eq_none_iff (path : String) (idx : ℕ) :
    ∀ items : List Message, validateItems path idx items = none ↔ FiniteItems items
  | [] => by simp only [validateItems, FiniteItems]
  | item :: rest => by
    have hitem := validateFiniteFields_eq_none_iff (itemPath path idx) item
    have hrest := validateItems_eq_none_iff path (idx + 1) rest
    rw [validateItems, FiniteItems, ← hitem, ← hrest]
    cases validateFiniteFields (itemPath path idx) item with
    | some err => exact iff_of_false (some_ne_none err) fun h ↦ some_ne_none _ h.1
    | none => exact (and_iff_right rfl).symm

end

/-- A `CommandBatch` at the coordinator. No other field of it holds a float. -/
structure RelayBatch where
  /-- `batch_seq`, a `uint64`. -/
  batchSeq : ℕ
  /-- Each `AICommand`, by the arm of the oneof that is set. -/
  commands : List (Option (String × Message))

/-- The set fields of one `AICommand`. -/
def commandFields : Option (String × Message) → Message
  | none => []
  | some (arm, fields) => [(arm, .message fields)]

/-- The loop that looks for a command without an arm. -/
def validateArms : ℕ → List (Option (String × Message)) → Option String
  | _, [] => none
  | idx, command :: rest =>
    if command.isNone then some ("commands[" ++ toString idx ++ "] command must be set")
    else validateArms (idx + 1) rest

/-- `validate_command_batch`. -/
def validateCommandBatch (batch : RelayBatch) : Option String :=
  if batch.batchSeq = 0 then some "batch_seq must be > 0"
  else if batch.commands = [] then some "commands must not be empty"
  else
    match validateArms 0 batch.commands with
    | some err => some err
    | none =>
      validateFiniteFields "batch" [("commands", .messages (batch.commands.map commandFields))]

/-- The arms pass exactly if every command has one. -/
theorem validateArms_eq_none_iff (commands : List (Option (String × Message))) :
    ∀ idx, validateArms idx commands = none ↔ ∀ command ∈ commands, command ≠ none := by
  induction commands with
  | nil => exact fun _ ↦ ⟨fun _ ↦ forall_mem_nil _, fun _ ↦ rfl⟩
  | cons command rest ih =>
    intro idx
    rw [validateArms, forall_mem_cons]
    cases command with
    | none => exact iff_of_false (some_ne_none _) fun h ↦ h.1 rfl
    | some arm =>
      rw [isNone_some, if_neg Bool.false_ne_true, ih]
      exact (and_iff_right (some_ne_none arm)).symm

/-- What a batch that is relayed looks like. -/
structure WellFormed (batch : RelayBatch) : Prop where
  batchSeq_pos : 0 < batch.batchSeq
  commands_ne : batch.commands ≠ []
  armed : ∀ command ∈ batch.commands, command ≠ none
  finite : FiniteItems (batch.commands.map commandFields)

/-- `validate_command_batch` accepts exactly the well-formed batches. -/
theorem validateCommandBatch_eq_none_iff (batch : RelayBatch) :
    validateCommandBatch batch = none ↔ WellFormed batch := by
  have harms := validateArms_eq_none_iff batch.commands 0
  have hfinite := validateFiniteFields_eq_none_iff "batch"
    [("commands", .messages (batch.commands.map commandFields))]
  rw [FiniteFields, FiniteFields, and_true, FiniteField] at hfinite
  rw [validateCommandBatch]
  split_ifs with hseq hempty
  · exact iff_of_false id fun h ↦ absurd hseq h.batchSeq_pos.ne'
  · exact iff_of_false id fun h ↦ h.commands_ne hempty
  · cases hwalk : validateArms 0 batch.commands with
    | some err =>
      refine iff_of_false (some_ne_none err) fun h ↦ ?_
      exact some_ne_none err (hwalk.symm.trans (harms.2 h.armed))
    | none =>
      exact hfinite.trans ⟨fun h ↦ ⟨Nat.pos_of_ne_zero hseq, hempty, harms.1 hwalk, h⟩,
        WellFormed.finite⟩

end HighBar.Coordinator
