import HighBar.Client.CoverageReport
import HighBar.Library.ExceptSpec
import HighBar.Library.SelfDelimiting

/-!
# The canonical digest

`canonical_digest` of `report.py` is the fingerprint of a run by which two runs are compared: the
rows are sorted by the UTF-8 bytes of their names, each is written with unit separators between its
fields and a newline at its end, and the SHA-256 of the buffer is taken. The hash is a parameter
here. What the comparison of runs rests on is the buffer.

* `sortDigestRows_perm`: the order in which the rows are given does not matter.
* `selfDelimiting_digestBytes`: a row whose name has no unit separator and whose error has no
  newline can be read back from the buffer.
* `canonicalBuffer_eq_iff`: the buffers of two sets of rows are equal exactly if the sets are.
-/

namespace HighBar.Client

open Checks ExceptSpec List

/-! ### The buffer -/

/-- The tuple `(arm_name, dispatched, verified, error)`. -/
structure DigestRow where
  armName : String
  dispatched : String
  verified : String
  error : String
deriving Repr, DecidableEq

/-- The `CoverageReportError`s of the digest, with what their texts interpolate. -/
inductive DigestError where
  | dispatched (armName dispatched : String)
  | verified (armName verified : String)
deriving Repr, DecidableEq

/-- What a row adds to the buffer. -/
def DigestRow.bytes (row : DigestRow) : List ℕ :=
  utf8Key row.armName ++ [0x1f] ++ utf8Key row.dispatched ++ [0x1f] ++ utf8Key row.verified ++
    [0x1f] ++ utf8Key row.error ++ [0x0a]

/-- The body of the loop. -/
def digestRow (buf : List ℕ) (row : DigestRow) : Except DigestError (List ℕ) := do
  require (row.dispatched ∈ ["true", "false"]) (.dispatched row.armName row.dispatched)
  require (row.verified ∈ ["true", "false", "na"]) (.verified row.armName row.verified)
  return buf ++ row.bytes

/-- `sorted(rows, key=lambda r: r[0].encode("utf-8"))`. -/
def sortDigestRows (rows : List DigestRow) : List DigestRow :=
  rows.insertionSort fun a b ↦ utf8Key a.armName ≤ utf8Key b.armName

/-- The buffer that `canonical_digest` hashes. -/
def canonicalBuffer (rows : List DigestRow) : Except DigestError (List ℕ) :=
  (sortDigestRows rows).foldlM digestRow []

/-- `canonical_digest`. -/
def canonicalDigest (sha256 : List ℕ → String) (rows : List DigestRow) :
    Except DigestError String := do
  let buf ← canonicalBuffer rows
  return sha256 buf

/-- The values that the loop lets through. -/
def DigestRow.Valid (row : DigestRow) : Prop :=
  row.dispatched ∈ ["true", "false"] ∧ row.verified ∈ ["true", "false", "na"]

instance (row : DigestRow) : Decidable row.Valid :=
  inferInstanceAs (Decidable (_ ∧ _))

/-- A row is digested exactly if its texts can be encoded. -/
theorem digestRow_succeedsIff (buf : List ℕ) (row : DigestRow) :
    SucceedsIff row.Valid (· = buf ++ row.bytes) (digestRow buf row) := by
  by_cases hd : row.dispatched ∈ ["true", "false"]
  · by_cases hv : row.verified ∈ ["true", "false", "na"]
    · refine .inl ⟨⟨hd, hv⟩, _, ?_, rfl⟩
      rw [digestRow, require, if_pos hd, require, if_pos hv]
      rfl
    · refine .inr ⟨fun hvalid ↦ hv hvalid.2, .verified row.armName row.verified, ?_⟩
      rw [digestRow, require, if_pos hd, require, if_neg hv]
      rfl
  · refine .inr ⟨fun hvalid ↦ hd hvalid.1, .dispatched row.armName row.dispatched, ?_⟩
    rw [digestRow, require, if_neg hd]
    rfl

/-- The buffer is what the rows add to it, in ascending order of their names. -/
theorem canonicalBuffer_succeedsIff (rows : List DigestRow) :
    SucceedsIff (∀ row ∈ rows, row.Valid)
      (· = (sortDigestRows rows).flatMap DigestRow.bytes) (canonicalBuffer rows) := by
  have hloop : SucceedsIff (∀ row ∈ sortDigestRows rows, row.Valid)
      (· = (sortDigestRows rows).flatMap DigestRow.bytes) (canonicalBuffer rows) := by
    refine succeedsIff_foldlM (fun before buf ↦ buf = before.flatMap DigestRow.bytes) ?_ rfl
    rintro before row after buf - rfl
    refine (digestRow_succeedsIff _ row).mono fun out hout ↦ ?_
    rw [hout, flatMap_append, flatMap_singleton]
  refine hloop.congr ?_
  simp only [sortDigestRows, mem_insertionSort]

/-! ### The order of the rows -/

/-- Rows with distinct names have one order that is ascending. -/
theorem sortDigestRows_perm {rows rows' : List DigestRow}
    (hnames : (rows.map DigestRow.armName).Nodup) (h : rows.Perm rows') :
    sortDigestRows rows = sortDigestRows rows' := by
  have hsorted (rows : List DigestRow) : (sortDigestRows rows).Perm rows :=
    perm_insertionSort _ rows
  have hascending (rows : List DigestRow) : (sortDigestRows rows).Pairwise fun a b ↦
      utf8Key a.armName ≤ utf8Key b.armName := pairwise_insertionSort_key _ rows
  refine List.Perm.eq_of_pairwise ?_ (hascending rows) (hascending rows')
    ((hsorted rows).trans (h.trans (hsorted rows').symm))
  intro a b ha hb hab hba
  have hkey : a.armName = b.armName := utf8Key_injective (le_antisymm hab hba)
  have hb' : b ∈ rows := h.symm.subset ((hsorted rows').subset hb)
  exact inj_on_of_nodup_map hnames ((hsorted rows).subset ha) hb' hkey

/-! ### Reading the buffer -/

/-- The fields of a row, as they stand in the buffer. -/
def DigestRow.fields (row : DigestRow) : List ℕ × List ℕ × List ℕ × List ℕ :=
  (utf8Key row.armName, utf8Key row.dispatched, utf8Key row.verified, utf8Key row.error)

/-- A row is determined by its fields. -/
theorem DigestRow.fields_injective : Function.Injective DigestRow.fields := by
  intro a b h
  simp only [DigestRow.fields, Prod.mk.injEq, utf8Key_injective.eq_iff] at h
  obtain ⟨h₁, h₂, h₃, h₄⟩ := h
  rcases a
  subst h₁ h₂ h₃ h₄
  rfl

/-- The rows that pass the loop and have neither separator in the two fields that may be any
text. -/
@[mk_iff]
structure DigestRow.Separable (row : DigestRow) : Prop where
  valid : row.Valid
  armName_unit : 0x1f ∉ utf8Key row.armName
  armName_newline : 0x0a ∉ utf8Key row.armName
  error_unit : 0x1f ∉ utf8Key row.error
  error_newline : 0x0a ∉ utf8Key row.error

instance (row : DigestRow) : Decidable row.Separable :=
  decidable_of_iff' _ (DigestRow.separable_iff row)

theorem DigestRow.Valid.unit_notMem {row : DigestRow} (h : row.Valid) :
    0x1f ∉ utf8Key row.dispatched ∧ 0x1f ∉ utf8Key row.verified := by
  have hd : ∀ s ∈ ["true", "false"], 0x1f ∉ utf8Key s := by decide
  have hv : ∀ s ∈ ["true", "false", "na"], 0x1f ∉ utf8Key s := by decide
  exact ⟨hd _ h.1, hv _ h.2⟩

/-- A row is read field by field: three up to a unit separator, the last up to a newline. -/
theorem selfDelimiting_digestBytes :
    SelfDelimiting {row : DigestRow | row.Separable} DigestRow.bytes := by
  have hunit := selfDelimiting_terminated (0x1f : ℕ)
  have hfields := hunit.prod (hunit.prod (hunit.prod (selfDelimiting_terminated (0x0a : ℕ))))
  have hbytes (row : DigestRow) : row.bytes = utf8Key row.armName ++ [0x1f] ++
      (utf8Key row.dispatched ++ [0x1f] ++ (utf8Key row.verified ++ [0x1f] ++
        (utf8Key row.error ++ [0x0a]))) := by
    simp only [DigestRow.bytes, append_assoc]
  refine hfields.comap hbytes DigestRow.fields_injective.injOn fun row hrow ↦ ?_
  exact ⟨hrow.armName_unit, hrow.valid.unit_notMem.1, hrow.valid.unit_notMem.2,
    hrow.error_newline⟩

theorem DigestRow.bytes_ne_nil (row : DigestRow) : row.bytes ≠ [] :=
  append_ne_nil_of_right_ne_nil _ (cons_ne_nil _ _)

/-- A finite set of rows, in some order, with the names of distinct rows distinct. -/
structure Digestible (rows : List DigestRow) : Prop where
  nodup : (rows.map DigestRow.armName).Nodup
  separable : ∀ row ∈ rows, row.Separable

/-- **The buffer stands for the set of rows**: it is written for every such set, it is the same in
every order of the rows, and another set has another buffer. -/
theorem canonicalBuffer_eq_iff {rows rows' : List DigestRow} (h : Digestible rows)
    (h' : Digestible rows') :
    ∃ buf buf', canonicalBuffer rows = .ok buf ∧ canonicalBuffer rows' = .ok buf' ∧
      (buf = buf' ↔ ∀ row, row ∈ rows ↔ row ∈ rows') := by
  obtain ⟨buf, hbuf, rfl⟩ := (canonicalBuffer_succeedsIff rows).exists_ok
    fun row hrow ↦ (h.separable row hrow).valid
  obtain ⟨buf', hbuf', rfl⟩ := (canonicalBuffer_succeedsIff rows').exists_ok
    fun row hrow ↦ (h'.separable row hrow).valid
  refine ⟨_, _, hbuf, hbuf', ?_, ?_⟩
  · intro heq row
    have hsorted : sortDigestRows rows = sortDigestRows rows' := by
      refine selfDelimiting_digestBytes.flatMap_injOn (fun row _ ↦ row.bytes_ne_nil) ?_ ?_ heq
      · exact fun row hrow ↦ h.separable row (mem_insertionSort _ |>.1 hrow)
      · exact fun row hrow ↦ h'.separable row (mem_insertionSort _ |>.1 hrow)
    have hmem : row ∈ sortDigestRows rows ↔ row ∈ sortDigestRows rows' := by rw [hsorted]
    simpa only [sortDigestRows, mem_insertionSort] using hmem
  · intro hsame
    have hperm : rows.Perm rows' :=
      (perm_ext_iff_of_nodup h.nodup.of_map h'.nodup.of_map).2 hsame
    rw [sortDigestRows_perm h.nodup hperm]

/-- Two rows in the two orders, against one of them alone. -/
theorem canonicalBuffer_eq_iff_two :
    let attack : DigestRow := ⟨"attack", "true", "false", "timeout"⟩
    let repair : DigestRow := ⟨"repair", "false", "na", "dispatcher_rejected"⟩
    canonicalBuffer [attack, repair] = canonicalBuffer [repair, attack] ∧
      canonicalBuffer [attack, repair] ≠ canonicalBuffer [attack] := by
  intro attack repair
  have hboth : Digestible [attack, repair] := ⟨by decide, by decide⟩
  have hswapped : Digestible [repair, attack] := ⟨by decide, by decide⟩
  have hone : Digestible [attack] := ⟨by decide, by decide⟩
  constructor
  · obtain ⟨buf, buf', h, h', hiff⟩ := canonicalBuffer_eq_iff hboth hswapped
    rw [h, h', hiff.2 (by simp [or_comm])]
  · obtain ⟨buf, buf', h, h', hiff⟩ := canonicalBuffer_eq_iff hboth hone
    rw [h, h', ne_eq, Except.ok.injEq, hiff]
    intro hsame
    exact absurd ((hsame repair).1 (by simp)) (by decide)

end HighBar.Client
