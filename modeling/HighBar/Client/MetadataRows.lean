import HighBar.Library.StripWhile
import Mathlib.Data.Finmap

/-!
# Metadata among the rows of a live run

A live run hands over one list of rows. A metadata record travels in it as a row of its own:
`row_from_metadata_envelope` writes a **marker** made from the record type into `arm_name`, fills
the five other columns of a row, and merges the payload into the same `dict`.
`split_command_and_metadata_rows` takes the list apart again. It knows a metadata row by the two
underscores its `arm_name` begins with, reads the record type off the marker by stripping
underscores, and takes as payload whatever is not one of the six columns.

Neither half is one-to-one. A payload that has a column of its own overwrites that of the row, and
loses it on the way back; if the column is `arm_name`, the row may no longer look like metadata at
all and end up among the commands. A record type that begins or ends with an underscore comes back
without it. Those are all the ways to fail: `row_round_trips_iff` says it of one envelope, and
`metadata_round_trip_iff` of every list.

A `dict` is a finite map here; two of them are equal if they have the same keys and values, in
whatever order.
-/

namespace HighBar.Client.MetadataRows

open List

/-! ### Values and dictionaries -/

/-- What the functions ask of a value of a row: its text, and whether it counts as true. A text is a
value too, and is its own text. -/
class FieldValue (V : Type) where
  ofText : String → V
  str : V → String
  truthy : V → Bool
  str_ofText : ∀ text, str (ofText text) = text
  truthy_ofText : ∀ text, truthy (ofText text) = (text != "")

/-- Rows in which every value is a text. -/
instance : FieldValue String where
  ofText := id
  str := id
  truthy text := text != ""
  str_ofText _ := rfl
  truthy_ofText _ := rfl

/-- `dict[str, Any]`. -/
abbrev Dict (V : Type) := Finmap fun _ : String ↦ V

section Rows

variable {V : Type} [FieldValue V]

open FieldValue

/-! ### Markers -/

/-- `RECORD_TYPE_TO_MARKER`. -/
def recordTypeToMarker : List (String × String) :=
  [("bootstrap_readiness", "__bootstrap_readiness__"),
    ("runtime_capability_profile", "__runtime_capability_profile__"),
    ("callback_diagnostic", "__callback_diagnostic__"),
    ("prerequisite_resolution", "__prerequisite_resolution__"),
    ("map_source_decision", "__map_source_decision__"),
    ("standalone_build_probe", "__standalone_build_probe__")]

/-- `marker_for_record_type`. -/
def markerForRecordType (recordType : String) : String :=
  (recordTypeToMarker.lookup recordType).getD ("__" ++ recordType ++ "__")

/-- `marker.strip("_")`. -/
def stripUnderscores (marker : String) : String :=
  String.ofList (marker.toList.stripWhile (· = '_'))

/-- `record_type_for_marker`. The first lookup is in `MARKER_TO_RECORD_TYPE`. -/
def recordTypeForMarker (marker : String) : String :=
  match (recordTypeToMarker.map Prod.swap).lookup marker with
  | some recordType => recordType
  | none => if stripUnderscores marker = "" then "unknown" else stripUnderscores marker

theorem mem_of_lookup_eq_some {table : List (String × String)} {key value : String}
    (h : table.lookup key = some value) : (key, value) ∈ table := by
  obtain ⟨front, back, rfl, -⟩ := lookup_eq_some_iff.1 h
  exact mem_append_right front mem_cons_self

theorem registered_marker :
    ∀ entry ∈ recordTypeToMarker, entry.2 = "__" ++ entry.1 ++ "__" := by
  decide

/-- A record type is made into a marker in one way, registered or not. -/
theorem markerForRecordType_eq (recordType : String) :
    markerForRecordType recordType = "__" ++ recordType ++ "__" := by
  rw [markerForRecordType]
  rcases hlookup : recordTypeToMarker.lookup recordType with - | marker
  · rfl
  · exact registered_marker _ (mem_of_lookup_eq_some hlookup)

/-- The record type neither begins nor ends with an underscore. -/
structure IsPlain (recordType : String) : Prop where
  head : recordType.toList.head? ≠ some '_'
  last : recordType.toList.getLast? ≠ some '_'

theorem IsPlain.stripUnderscores_eq {recordType : String} (h : IsPlain recordType) :
    stripUnderscores recordType = recordType := by
  rw [stripUnderscores, stripWhile_eq_self, String.ofList_toList]
  · intro c hc
    exact decide_eq_false fun heq ↦ h.head (heq ▸ hc)
  · intro c hc
    exact decide_eq_false fun heq ↦ h.last (heq ▸ hc)

/-- The marker of a record type is read back as the type. -/
theorem stripUnderscores_marker (recordType : String) :
    stripUnderscores ("__" ++ recordType ++ "__") = stripUnderscores recordType := by
  have hpad : ∀ c ∈ "__".toList, decide (c = '_') = true := all_eq_true.1 (by decide)
  rw [stripUnderscores, String.toList_append, String.toList_append,
    stripWhile_append hpad hpad, stripUnderscores]

/-- Whatever the marker is, a plain record type is read off it. -/
theorem isPlain_recordTypeForMarker (marker : String) : IsPlain (recordTypeForMarker marker) := by
  rw [recordTypeForMarker]
  rcases hlookup : (recordTypeToMarker.map Prod.swap).lookup marker with - | recordType
  · split_ifs
    · exact ⟨by decide, by decide⟩
    · rw [stripUnderscores]
      constructor
      · intro hhead
        rw [String.toList_ofList] at hhead
        exact absurd (head?_stripWhile _ hhead) (by decide)
      · intro hlast
        rw [String.toList_ofList] at hlast
        exact absurd (getLast?_stripWhile _ hlast) (by decide)
  · have hregistered : ∀ entry ∈ recordTypeToMarker.map Prod.swap,
        entry.2.toList.head? ≠ some '_' ∧ entry.2.toList.getLast? ≠ some '_' := by
      decide
    obtain ⟨hhead, hlast⟩ := hregistered _ (mem_of_lookup_eq_some hlookup)
    exact ⟨hhead, hlast⟩

/-- **The marker of a record type** is read back exactly if the type is plain. -/
theorem recordTypeForMarker_eq_iff {recordType : String} (hne : recordType ≠ "") :
    recordTypeForMarker (markerForRecordType recordType) = recordType ↔ IsPlain recordType := by
  constructor
  · intro heq
    rw [← heq]
    exact isPlain_recordTypeForMarker _
  · intro hplain
    rw [markerForRecordType_eq, recordTypeForMarker]
    rcases hlookup : (recordTypeToMarker.map Prod.swap).lookup ("__" ++ recordType ++ "__")
      with - | other
    · rw [stripUnderscores_marker, hplain.stripUnderscores_eq, if_neg hne]
    · obtain ⟨entry, hentry, hswap⟩ := mem_map.1 (mem_of_lookup_eq_some hlookup)
      obtain ⟨hmarker, rfl⟩ := Prod.ext_iff.1 hswap
      have heq := (registered_marker entry hentry).symm.trans hmarker
      have hchars := congrArg String.toList heq
      rw [String.toList_append, String.toList_append, String.toList_append,
        String.toList_append] at hchars
      exact String.toList_injective
        (append_cancel_left (append_cancel_right hchars))

/-! ### Envelopes -/

/-- `MetadataSourceLayer`. -/
inductive MetadataSourceLayer where
  | liveExecution
  | standaloneProbe
  | runModePolicy
  | unknown
deriving Repr, DecidableEq

/-- `MetadataInterpretationStatus`. -/
inductive MetadataInterpretationStatus where
  | handled
  | warning
  | unhandled
deriving Repr, DecidableEq

/-- `MetadataRecordEnvelope`. -/
structure MetadataRecordEnvelope (V : Type) where
  recordType : String
  sourceLayer : MetadataSourceLayer := .liveExecution
  sequenceIndex : ℕ := 0
  payload : Dict V
  recordedAt : String := ""
  interpretationStatus : MetadataInterpretationStatus := .handled

/-- The record types that `METADATA_INTERPRETATION_RULES` has a rule for. -/
def interpretedRecordTypes : List String :=
  ["bootstrap_readiness", "runtime_capability_profile", "callback_diagnostic",
    "prerequisite_resolution", "map_source_decision", "standalone_build_probe"]

/-- The first of the values under the keys that counts as true, as a text. -/
def firstTruthy (payload : Dict V) (keys : List String) : String :=
  ((keys.filterMap payload.lookup).find? truthy).elim "" str

/-- `metadata_envelope`, as `metadata_envelope_from_row` calls it. -/
def metadataEnvelope (recordType : String) (payload : Dict V) (sequenceIndex : ℕ) :
    MetadataRecordEnvelope V where
  recordType := recordType
  sourceLayer := .liveExecution
  sequenceIndex := sequenceIndex
  payload := payload
  recordedAt := firstTruthy payload ["recorded_at", "captured_at", "completed_at"]
  interpretationStatus :=
    if interpretedRecordTypes.contains recordType then .handled else .unhandled

/-! ### Rows -/

/-- `str(row.get("arm_name", ""))`. -/
def armName (row : Dict V) : String :=
  ((row.lookup "arm_name").map str).getD ""

/-- `is_metadata_row`. -/
def isMetadataRow (row : Dict V) : Bool :=
  "__".toList.isPrefixOf (armName row).toList

/-- The columns of a row. -/
def rowColumns : List String :=
  ["arm_name", "category", "dispatched", "verified", "evidence", "error"]

/-- The entries of the row under other keys. -/
def withoutColumns (row : Dict V) : Dict V :=
  rowColumns.foldl (fun rest column ↦ rest.erase column) row

/-- `metadata_envelope_from_row`. -/
def metadataEnvelopeFromRow (row : Dict V) (sequenceIndex : ℕ) : MetadataRecordEnvelope V :=
  metadataEnvelope (recordTypeForMarker (armName row)) (withoutColumns row) sequenceIndex

/-- The row that the payload is merged into. -/
def markerRow (recordType : String) : Dict V :=
  [⟨"arm_name", ofText (markerForRecordType recordType)⟩, ⟨"category", ofText "metadata"⟩,
    ⟨"dispatched", ofText "na"⟩, ⟨"verified", ofText "na"⟩, ⟨"evidence", ofText ""⟩,
    ⟨"error", ofText ""⟩].toFinmap

/-- `row_from_metadata_envelope`. In `row.update(payload)` the payload wins. -/
def rowFromMetadataEnvelope (envelope : MetadataRecordEnvelope V) : Dict V :=
  envelope.payload ∪ markerRow envelope.recordType

/-- `metadata_rows_for_envelopes`. -/
def metadataRowsForEnvelopes (envelopes : List (MetadataRecordEnvelope V)) : List (Dict V) :=
  envelopes.map rowFromMetadataEnvelope

/-- One round of the loop in `split_command_and_metadata_rows`. -/
def splitRow (found : List (Dict V) × List (MetadataRecordEnvelope V)) (row : Dict V) :
    List (Dict V) × List (MetadataRecordEnvelope V) :=
  if isMetadataRow row then
    (found.1, found.2 ++ [metadataEnvelopeFromRow row found.2.length])
  else (found.1 ++ [row], found.2)

/-- `split_command_and_metadata_rows`. -/
def splitCommandAndMetadataRows (liveRows : List (Dict V)) :
    List (Dict V) × List (MetadataRecordEnvelope V) :=
  liveRows.foldl splitRow ([], [])

/-! ### One envelope -/

omit [FieldValue V] in
/-- Erasing columns leaves the others. -/
theorem lookup_foldl_erase (key : String) (columns : List String) (row : Dict V) :
    (columns.foldl (fun rest column ↦ rest.erase column) row).lookup key =
      if key ∈ columns then none else row.lookup key := by
  induction columns generalizing row with
  | nil => rfl
  | cons column columns ih =>
    rw [foldl_cons, ih]
    by_cases hkey : key = column
    · rw [hkey, Finmap.lookup_erase, ite_self, if_pos mem_cons_self]
    · rw [Finmap.lookup_erase_ne hkey]
      exact if_congr (mem_cons.trans (or_iff_right hkey)).symm rfl rfl

theorem mem_markerRow {recordType key : String} :
    key ∈ (markerRow recordType : Dict V) ↔ key ∈ rowColumns := by
  rw [markerRow, Finmap.mem_list_toFinmap]
  simp [rowColumns, exists_or]

/-- What can travel: a payload without a column of the row, under a plain record type. -/
structure MetadataRecordEnvelope.Fits (envelope : MetadataRecordEnvelope V) : Prop where
  columns : ∀ column ∈ rowColumns, column ∉ envelope.payload
  recordType : IsPlain envelope.recordType

/-- **The payload** is read back exactly if it has none of the columns. -/
theorem withoutColumns_row_iff (envelope : MetadataRecordEnvelope V) :
    withoutColumns (rowFromMetadataEnvelope envelope) = envelope.payload ↔
      ∀ column ∈ rowColumns, column ∉ envelope.payload := by
  constructor
  · intro heq column hcolumn
    rw [← Finmap.lookup_eq_none, ← heq, withoutColumns, lookup_foldl_erase, if_pos hcolumn]
  · intro hcolumns
    refine Finmap.ext_lookup fun key ↦ ?_
    rw [withoutColumns, lookup_foldl_erase]
    split_ifs with hkey
    · exact (Finmap.lookup_eq_none.2 (hcolumns key hkey)).symm
    · exact Finmap.lookup_union_left_of_not_in fun hmem ↦ hkey (mem_markerRow.1 hmem)

/-- A payload without an `arm_name` leaves the marker where it is. -/
theorem armName_row {envelope : MetadataRecordEnvelope V} (h : "arm_name" ∉ envelope.payload) :
    armName (rowFromMetadataEnvelope envelope) = markerForRecordType envelope.recordType := by
  have hmarker : (markerRow envelope.recordType : Dict V).lookup "arm_name" =
      some (ofText (markerForRecordType envelope.recordType)) := by
    rw [markerRow, Finmap.dlookup_list_toFinmap]
    rfl
  rw [armName, rowFromMetadataEnvelope, Finmap.lookup_union_right h, hmarker, Option.map_some,
    Option.getD_some, str_ofText]

/-- The envelope comes back: its row is known for metadata, and record type and payload are read off
it as they were. -/
def RowRoundTrips (envelope : MetadataRecordEnvelope V) : Prop :=
  isMetadataRow (rowFromMetadataEnvelope envelope) = true ∧
    recordTypeForMarker (armName (rowFromMetadataEnvelope envelope)) = envelope.recordType ∧
      withoutColumns (rowFromMetadataEnvelope envelope) = envelope.payload

/-- **One envelope comes back exactly if it fits.** -/
theorem row_round_trips_iff {envelope : MetadataRecordEnvelope V}
    (hne : envelope.recordType ≠ "") : RowRoundTrips envelope ↔ envelope.Fits := by
  constructor
  · rintro ⟨-, htype, hpayload⟩
    have hcolumns := (withoutColumns_row_iff envelope).1 hpayload
    rw [armName_row (hcolumns "arm_name" mem_cons_self)] at htype
    exact ⟨hcolumns, (recordTypeForMarker_eq_iff hne).1 htype⟩
  · rintro ⟨hcolumns, hplain⟩
    have harm := armName_row (hcolumns "arm_name" mem_cons_self)
    refine ⟨?_, ?_, (withoutColumns_row_iff envelope).2 hcolumns⟩
    · rw [isMetadataRow, harm, markerForRecordType_eq, String.toList_append,
        String.toList_append, append_assoc]
      exact isPrefixOf_iff_prefix.2 (prefix_append _ _)
    · rw [harm]
      exact (recordTypeForMarker_eq_iff hne).2 hplain

/-! ### The list of the rows -/

/-- What an envelope is compared by. -/
def MetadataRecordEnvelope.content (envelope : MetadataRecordEnvelope V) : String × Dict V :=
  (envelope.recordType, envelope.payload)

/-- The content that is read off a row. -/
def rowContent (row : Dict V) : String × Dict V :=
  (recordTypeForMarker (armName row), withoutColumns row)

/-- The loop files every row on one side or the other, in order. -/
theorem foldl_splitRow (rows : List (Dict V))
    (found : List (Dict V) × List (MetadataRecordEnvelope V)) :
    (rows.foldl splitRow found).1 = found.1 ++ rows.filter (!isMetadataRow ·) ∧
      (rows.foldl splitRow found).2.map (·.content) =
        found.2.map (·.content) ++ (rows.filter isMetadataRow).map rowContent := by
  induction rows generalizing found with
  | nil => exact ⟨(append_nil _).symm, (append_nil _).symm⟩
  | cons row rows ih =>
    obtain ⟨hcommands, hmetadata⟩ := ih (splitRow found row)
    rw [foldl_cons, hcommands, hmetadata, splitRow]
    rcases hrow : isMetadataRow row with - | -
    · rw [filter_cons_of_pos (by rw [hrow]; rfl), filter_cons_of_neg (by rw [hrow]; simp)]
      simp
    · rw [filter_cons_of_neg (by rw [hrow]; simp), filter_cons_of_pos hrow]
      simp [rowContent, metadataEnvelopeFromRow, metadataEnvelope, MetadataRecordEnvelope.content]

/-- The rows come back: the command rows as they were, and envelopes with the same record types and
payloads in the same order. -/
def RoundTrips (commandRows : List (Dict V)) (envelopes : List (MetadataRecordEnvelope V)) : Prop :=
  let found := splitCommandAndMetadataRows (commandRows ++ metadataRowsForEnvelopes envelopes)
  found.1 = commandRows ∧ found.2.map (·.content) = envelopes.map (·.content)

/-- **Metadata rows come back exactly if every envelope fits**: no payload has one of the six
columns of a row, and no record type begins or ends with an underscore. -/
theorem metadata_round_trip_iff {commandRows : List (Dict V)}
    (hcommand : ∀ row ∈ commandRows, isMetadataRow row = false)
    {envelopes : List (MetadataRecordEnvelope V)}
    (hne : ∀ envelope ∈ envelopes, envelope.recordType ≠ "") :
    RoundTrips commandRows envelopes ↔ ∀ envelope ∈ envelopes, envelope.Fits := by
  obtain ⟨hcommands, hmetadata⟩ :=
    foldl_splitRow (commandRows ++ metadataRowsForEnvelopes envelopes) ([], [])
  have hkept : commandRows.filter (!isMetadataRow ·) = commandRows :=
    filter_eq_self.2 fun row hrow ↦ by rw [hcommand row hrow]; rfl
  have hnone : commandRows.filter isMetadataRow = [] :=
    filter_eq_nil_iff.2 fun row hrow ↦ by rw [hcommand row hrow]; exact Bool.false_ne_true
  rw [filter_append, hkept, nil_append] at hcommands
  rw [filter_append, hnone, nil_append, map_nil, nil_append] at hmetadata
  rw [RoundTrips, splitCommandAndMetadataRows, hcommands, hmetadata, metadataRowsForEnvelopes,
    append_right_eq_self]
  calc _ ↔ ∀ envelope ∈ envelopes, RowRoundTrips envelope := ?_
    _ ↔ _ := forall₂_congr fun envelope henvelope ↦ row_round_trips_iff (hne envelope henvelope)
  constructor
  · rintro ⟨hall, hcontents⟩ envelope henvelope
    have hmeta : ∀ row ∈ envelopes.map rowFromMetadataEnvelope, isMetadataRow row = true := by
      intro row hrow
      simpa using filter_eq_nil_iff.1 hall row hrow
    rw [filter_eq_self.2 hmeta, map_map, map_inj_left] at hcontents
    obtain ⟨htype, hpayload⟩ := Prod.ext_iff.1 (hcontents envelope henvelope)
    exact ⟨hmeta _ (mem_map_of_mem henvelope), htype, hpayload⟩
  · intro hall
    have hmeta : ∀ row ∈ envelopes.map rowFromMetadataEnvelope, isMetadataRow row = true := by
      intro row hrow
      obtain ⟨envelope, henvelope, rfl⟩ := mem_map.1 hrow
      exact (hall envelope henvelope).1
    refine ⟨filter_eq_nil_iff.2 fun row hrow ↦ by simp [hmeta row hrow], ?_⟩
    rw [filter_eq_self.2 hmeta, map_map, map_inj_left]
    exact fun envelope henvelope ↦
      Prod.ext (hall envelope henvelope).2.1 (hall envelope henvelope).2.2

/-- A command row and a record of a type that is not registered. -/
theorem metadata_round_trip_futureFact :
    RoundTrips [(Finmap.singleton "arm_name" "attack" : Dict String)]
      [{ recordType := "future_fact", payload := Finmap.singleton "detail" "new" }] := by
  refine (metadata_round_trip_iff (fun row hrow ↦ ?_) fun envelope henvelope ↦ ?_).2
    fun envelope henvelope ↦ ?_
  · rw [mem_singleton.1 hrow]
    decide
  · rw [mem_singleton.1 henvelope]
    decide
  · rw [mem_singleton.1 henvelope]
    refine ⟨fun column hcolumn ↦ ?_, by decide, by decide⟩
    rw [Finmap.mem_singleton]
    rintro rfl
    exact absurd hcolumn (by decide)

/-- Three envelopes that do not come back. A payload with an `arm_name` of its own turns the record
into a command row, one with an `error` loses it, and a record type loses its underscore. -/
theorem metadata_envelope_lost :
    let asCommand : MetadataRecordEnvelope String :=
      { recordType := "future_fact", payload := Finmap.singleton "arm_name" "attack" }
    let shadowed : MetadataRecordEnvelope String :=
      { recordType := "future_fact", payload := Finmap.singleton "error" "timeout" }
    let renamed : MetadataRecordEnvelope String :=
      { recordType := "_future_fact", payload := ∅ }
    let found := fun envelope ↦ splitCommandAndMetadataRows (metadataRowsForEnvelopes [envelope])
    ((found asCommand).1.map armName = ["attack"] ∧ (found asCommand).2.length = 0) ∧
      (found shadowed).2.map (·.payload.lookup "error") = [none] ∧
      (found renamed).2.map (·.recordType) = ["future_fact"] ∧
      ¬ RoundTrips [] [asCommand] ∧ ¬ RoundTrips [] [shadowed] ∧ ¬ RoundTrips [] [renamed] := by
  intro asCommand shadowed renamed found
  have hcommand : (found asCommand).1.map armName = ["attack"] ∧
      (found asCommand).2.length = 0 := by decide +kernel
  have hshadowed : (found shadowed).2.map (·.payload.lookup "error") = [none] := by
    decide +kernel
  have hrenamed : (found renamed).2.map (·.recordType) = ["future_fact"] := by decide +kernel
  refine ⟨hcommand, hshadowed, hrenamed, ?_, ?_, ?_⟩
  · rintro ⟨hrows, -⟩
    have hlength := congrArg List.length (hcommand.1.symm.trans (congrArg (List.map armName) hrows))
    exact absurd hlength (by decide)
  · rintro ⟨-, hcontents⟩
    have hpayloads := congrArg (List.map fun content ↦ content.2.lookup "error") hcontents
    rw [map_map, map_map] at hpayloads
    exact absurd (hshadowed.symm.trans hpayloads) (by decide +kernel)
  · rintro ⟨-, hcontents⟩
    have htypes := congrArg (List.map Prod.fst) hcontents
    rw [map_map, map_map] at htypes
    exact absurd (hrenamed.symm.trans htypes) (by decide +kernel)

end Rows

end HighBar.Client.MetadataRows
