import HighBar.Library.Checks
import Mathlib.Data.List.Lex
import Mathlib.Data.List.Sort

/-!
# The behavioural coverage report

`report.py` turns the rows of a run into a CSV: it sorts them by the UTF-8 bytes of their
`arm_name`, passes each through `_validate_row`, and only then writes. A row is a Python `dict`; the
report reads six of its keys, and those are the fields of `Row` here.

Two kinds of rows reach the report. A **command row** has a text in every column. A **metadata row**
is `row_from_metadata_envelope`: six defaults, over which the payload of the record is laid, so a
payload with a key such as `dispatched` replaces that column, by a value of any type.

* `validateRow_ofTexts`: on a row of texts the sequence of tests is the table of the contract,
  `Accepted`.
* `writeCsv_eq_ok`: what is written is the rows given, in the order of their bytes, all accepted.
-/

namespace HighBar.Client

open Checks List

/-! ### Rows -/

/-- The Python values that records hold. -/
inductive Value where
  | text (s : String)
  | number (n : ℤ)
  | none
  | tuple (items : List String)
  | strings (items : List String)
  | numbers (items : List ℤ)
deriving Repr, DecidableEq

/-- The columns of a row, those of `CSV_HEADER`. -/
structure Row where
  armName : Value
  category : Value
  dispatched : Value
  verified : Value
  evidence : Value
  error : Value
deriving Repr, DecidableEq

/-- A row of texts. -/
def Row.ofTexts (armName category dispatched verified evidence error : String) : Row where
  armName := .text armName
  category := .text category
  dispatched := .text dispatched
  verified := .text verified
  evidence := .text evidence
  error := .text error

/-- A `dict` of recorded values. -/
abbrev Payload := List (String × Value)

/-- `row[key] = value`. A key that is no column is stored as well, and never read. -/
def Row.set (row : Row) (key : String) (value : Value) : Row :=
  if key = "arm_name" then { row with armName := value }
  else if key = "category" then { row with category := value }
  else if key = "dispatched" then { row with dispatched := value }
  else if key = "verified" then { row with verified := value }
  else if key = "evidence" then { row with evidence := value }
  else if key = "error" then { row with error := value }
  else row

/-- `row.update(payload)`. -/
def Row.update (row : Row) (payload : Payload) : Row :=
  payload.foldl (fun row entry ↦ row.set entry.1 entry.2) row

/-! ### Metadata rows -/

/-- The record types that a bootstrap context holds. -/
inductive RecordType where
  | bootstrapReadiness
  | runtimeCapabilityProfile
  | callbackDiagnostic
  | prerequisiteResolution
  | mapSourceDecision
deriving Repr, DecidableEq

/-- `RECORD_TYPE_TO_MARKER`. -/
def markerForRecordType : RecordType → String
  | .bootstrapReadiness => "__bootstrap_readiness__"
  | .runtimeCapabilityProfile => "__runtime_capability_profile__"
  | .callbackDiagnostic => "__callback_diagnostic__"
  | .prerequisiteResolution => "__prerequisite_resolution__"
  | .mapSourceDecision => "__map_source_decision__"

/-- What becomes of a record on its way to a row. -/
structure MetadataRecordEnvelope where
  recordType : RecordType
  payload : Payload
deriving Repr, DecidableEq

/-- `row_from_metadata_envelope`. -/
def rowFromMetadataEnvelope (envelope : MetadataRecordEnvelope) : Row :=
  (Row.ofTexts (markerForRecordType envelope.recordType) "metadata" "na" "na" "" "").update
    envelope.payload

/-! ### The check of a row -/

/-- Why a report is not written: the `CoverageReportError`s of `_validate_row`, with what their
texts interpolate, and the two exceptions of Python itself. -/
inductive ReportError where
  | verifiedNotValid (armName verified : Value)
  | dispatchedNotValid (armName dispatched : Value)
  | dispatchedFalseRequiresNa (armName verified : Value)
  | verifiedTrueRequiresNoError (armName error : Value)
  | verifiedFalseRequiresError (armName error : Value)
  | verifiedNaRequiresError (armName error : Value)
  | unhashable (value : Value)
  | notEncodable (armName : Value)
deriving Repr, DecidableEq

/-- `_VALID_VERIFIED`. -/
def validVerified : List String := ["true", "false", "na"]

/-- `_ERRORS_FOR_FALSE`. -/
def errorsForFalse : List String :=
  ["effect_not_observed", "target_unit_destroyed", "timeout", "internal_error"]

/-- `_ERRORS_FOR_NA`. -/
def errorsForNa : List String :=
  ["dispatcher_rejected", "cheats_required", "precondition_unmet", "bootstrap_reset_failed",
    "not_wire_observable"]

/-- `value in texts` for a `set` of texts. The look-up hashes the value, which a list refuses. -/
def Value.inSet (value : Value) (texts : List String) : Except ReportError Bool :=
  match value with
  | .text s => .ok (decide (s ∈ texts))
  | .number _ | .none | .tuple _ => .ok false
  | .strings _ | .numbers _ => .error (.unhashable value)

/-- `_validate_row`. -/
def validateRow (row : Row) : Except ReportError Unit := do
  let valid ← row.verified.inSet validVerified
  require valid (.verifiedNotValid row.armName row.verified)
  -- a tuple, not a set: the values are compared, not hashed
  require (row.dispatched = .text "true" ∨ row.dispatched = .text "false")
    (.dispatchedNotValid row.armName row.dispatched)
  require (¬(row.dispatched = .text "false" ∧ row.verified ≠ .text "na"))
    (.dispatchedFalseRequiresNa row.armName row.verified)
  require (¬(row.verified = .text "true" ∧ row.error ≠ .text ""))
    (.verifiedTrueRequiresNoError row.armName row.error)
  if row.verified = .text "false" then
    let valid ← row.error.inSet errorsForFalse
    require valid (.verifiedFalseRequiresError row.armName row.error)
  else if row.verified = .text "na" then
    let valid ← row.error.inSet errorsForNa
    require valid (.verifiedNaRequiresError row.armName row.error)

/-- The consistency rules of the contract for the three columns they are about. -/
def Accepted (dispatched verified error : String) : Prop :=
  (dispatched = "true" ∨ dispatched = "false" ∧ verified = "na") ∧
    (verified = "true" ∧ error = "" ∨ verified = "false" ∧ error ∈ errorsForFalse ∨
      verified = "na" ∧ error ∈ errorsForNa)

instance (dispatched verified error : String) : Decidable (Accepted dispatched verified error) :=
  inferInstanceAs (Decidable (_ ∧ _))

/-- A row passes exactly if its values go together. -/
theorem validateRow_ofTexts (armName category dispatched verified evidence error : String) :
    validateRow (.ofTexts armName category dispatched verified evidence error) = .ok () ↔
      Accepted dispatched verified error := by
  simp only [validateRow, Row.ofTexts, Value.inSet, ok_bind, require_bind_eq_ok,
    Value.text.injEq, decide_eq_true_eq]
  rcases Classical.em (verified ∈ validVerified) with hv | hv
  · have hd : (dispatched = "true" ∨ dispatched = "false") ∧ dispatched ≠ "false" ↔
        dispatched = "true" := by
      constructor
      · rintro ⟨h | h, hne⟩
        · exact h
        · exact absurd h hne
      · rintro rfl
        exact ⟨.inl rfl, by decide⟩
    simp only [validVerified, mem_cons, not_mem_nil, or_false] at hv
    obtain rfl | rfl | rfl := hv
    · simp [Accepted, validVerified, ← and_assoc, hd, pure, Except.pure]
    · simp [Accepted, validVerified, ← and_assoc, hd, require_eq_ok]
    · simp [Accepted, validVerified, require_eq_ok]
  · simp only [hv, false_and, false_iff]
    simp only [validVerified, mem_cons, not_mem_nil, or_false, not_or] at hv
    simp [Accepted, hv]

/-! ### Writing -/

/-- `name.encode("utf-8")`. -/
def utf8Key (name : String) : List ℕ :=
  name.toUTF8.data.toList.map UInt8.toNat

theorem utf8Key_injective : Function.Injective utf8Key := by
  intro a b h
  have hbytes : a.toUTF8.data.toList = b.toUTF8.data.toList :=
    map_injective_iff.2 (fun _ _ ↦ UInt8.toNat_inj.1) h
  exact String.toByteArray_inj.1 (ByteArray.ext_iff.2 (Array.toList_inj.1 hbytes))

/-- The key of an `arm_name` in the sort. Only a text has one. -/
def Value.encode : Value → List ℕ
  | .text name => utf8Key name
  | _ => []

/-- `_sort_rows`. -/
def sortRows (rows : List Row) : Except ReportError (List Row) :=
  match rows.find? fun row ↦ !(row.armName matches .text _) with
  | some row => .error (.notEncodable row.armName)
  | none => .ok (rows.insertionSort fun a b ↦ a.armName.encode ≤ b.armName.encode)

/-- `write_csv`, as the list of the rows written. -/
def writeCsv (rows : List Row) : Except ReportError (List Row) := do
  let sortedRows ← sortRows rows
  sortedRows.forM validateRow
  return sortedRows

/-- Sorting by a key sorts, though the key may identify elements. -/
theorem pairwise_insertionSort_key {α κ : Type*} [LinearOrder κ] (key : α → κ) (l : List α) :
    (l.insertionSort fun a b ↦ key a ≤ key b).Pairwise fun a b ↦ key a ≤ key b := by
  have : Std.Total fun a b ↦ key a ≤ key b := ⟨fun a b ↦ le_total (key a) (key b)⟩
  have : IsTrans α fun a b ↦ key a ≤ key b := ⟨fun _ _ _ hab hbc ↦ le_trans hab hbc⟩
  exact pairwise_insertionSort _ l

/-- Rows with names are sorted by their bytes. -/
theorem sortRows_of_texts {rows : List Row}
    (h : ∀ row ∈ rows, ∃ name, row.armName = .text name) :
    sortRows rows =
      .ok (rows.insertionSort fun a b ↦ a.armName.encode ≤ b.armName.encode) := by
  have hnone : (rows.find? fun row ↦ !(row.armName matches .text _)) = none := by
    refine find?_eq_none.2 fun row hrow ↦ ?_
    obtain ⟨name, hname⟩ := h row hrow
    simp [hname]
  rw [sortRows, hnone]

theorem sortRows_perm {rows sorted : List Row} (h : sortRows rows = .ok sorted) :
    sorted.Perm rows := by
  rw [sortRows] at h
  split at h
  · cases h
  · obtain rfl := Except.ok.inj h
    exact perm_insertionSort _ rows

/-- The rows are written in ascending order of the bytes of their names. -/
theorem sortRows_pairwise {rows sorted : List Row} (h : sortRows rows = .ok sorted) :
    sorted.Pairwise fun a b ↦ a.armName.encode ≤ b.armName.encode := by
  rw [sortRows] at h
  split at h
  · cases h
  · obtain rfl := Except.ok.inj h
    exact pairwise_insertionSort_key _ rows

/-- The report is written exactly if every row passes. -/
theorem writeCsv_eq_ok {rows written : List Row} :
    writeCsv rows = .ok written ↔
      sortRows rows = .ok written ∧ ∀ row ∈ written, validateRow row = .ok () := by
  simp only [writeCsv, bind_eq_ok, ← forM_eq_ok]
  constructor
  · rintro ⟨sorted, hsorted, ⟨⟩, hvalid, h⟩
    obtain rfl := Except.ok.inj h
    exact ⟨hsorted, hvalid⟩
  · rintro ⟨hsorted, hvalid⟩
    exact ⟨written, hsorted, (), hvalid, rfl⟩

/-! ### One valid row for each name -/

/-- Names in ascending order of their bytes. -/
def sortNames (names : List String) : List String :=
  names.insertionSort fun a b ↦ utf8Key a ≤ utf8Key b

/-- **The report is complete**: `write_csv` accepts every row, and the names of the rows it writes
are the given ones, in ascending order. -/
def OneValidRowPerArm (names : List String) (rows : List Row) : Prop :=
  ∃ written, writeCsv rows = .ok written ∧
    written.map Row.armName = (sortNames names).map .text

theorem sortNames_perm (names : List String) : (sortNames names).Perm names :=
  perm_insertionSort _ names

theorem sortNames_pairwise (names : List String) :
    (sortNames names).Pairwise fun a b ↦ utf8Key a ≤ utf8Key b :=
  pairwise_insertionSort_key _ names

/-- The order of the bytes is an order on texts, so sorted lists of the same names are equal. -/
theorem armName_eq_of_perm {sorted : List Row} {names : List String}
    (hsorted : sorted.Pairwise fun a b ↦ a.armName.encode ≤ b.armName.encode)
    (hperm : (sorted.map Row.armName).Perm (names.map .text)) :
    sorted.map Row.armName = (sortNames names).map .text := by
  have htext : ∀ value ∈ sorted.map Row.armName, ∃ name, value = .text name := by
    intro value hvalue
    obtain ⟨name, -, hname⟩ := mem_map.1 (hperm.mem_iff.1 hvalue)
    exact ⟨name, hname.symm⟩
  have hrows : (sorted.map Row.armName).Pairwise fun a b ↦ a.encode ≤ b.encode :=
    pairwise_map.2 hsorted
  have hnames : ((sortNames names).map Value.text).Pairwise fun a b ↦ a.encode ≤ b.encode :=
    pairwise_map.2 (sortNames_pairwise names)
  refine List.Perm.eq_of_pairwise ?_ hrows hnames (hperm.trans ((sortNames_perm names).map _).symm)
  intro a b ha hb hab hba
  obtain ⟨name, rfl⟩ := htext a ha
  obtain ⟨name', -, rfl⟩ := mem_map.1 hb
  rw [utf8Key_injective (le_antisymm hab hba)]

/-- A report is complete exactly if the rows have the given names, each as often, and every one of
them is accepted. The order the rows come in is irrelevant. -/
theorem oneValidRowPerArm_iff {names : List String} {rows : List Row} :
    OneValidRowPerArm names rows ↔
      (rows.map Row.armName).Perm (names.map .text) ∧
        ∀ row ∈ rows, validateRow row = .ok () := by
  constructor
  · rintro ⟨written, hwritten, hnames⟩
    obtain ⟨hsorted, hvalid⟩ := writeCsv_eq_ok.1 hwritten
    have hperm := sortRows_perm hsorted
    refine ⟨(hperm.map _).symm.trans ?_, fun row hrow ↦ hvalid row (hperm.mem_iff.2 hrow)⟩
    rw [hnames]
    exact (sortNames_perm names).map _
  · rintro ⟨hnames, hvalid⟩
    have htext : ∀ row ∈ rows, ∃ name, row.armName = .text name := by
      intro row hrow
      obtain ⟨name, -, hname⟩ :=
        mem_map.1 (hnames.mem_iff.1 (mem_map_of_mem hrow))
      exact ⟨name, hname.symm⟩
    have hsorted := sortRows_of_texts htext
    have hperm := sortRows_perm hsorted
    refine ⟨_, writeCsv_eq_ok.2 ⟨hsorted, fun row hrow ↦ hvalid row (hperm.mem_iff.1 hrow)⟩, ?_⟩
    exact armName_eq_of_perm (sortRows_pairwise hsorted) ((hperm.map _).trans hnames)

end HighBar.Client
