import HighBar.Library.JsonText

/-!
# The health file

`GrpcLog.cpp` writes `highbar.health`, the file by which scripts outside the match tell a gateway
that runs from one that a fault has disabled. It is one line of JSON, put together by hand: the
texts of the fault, which may be any bytes, pass through `JsonEscape`, the rest is literal.

* `health_file_round_trip`: what `JsonEscape` writes is the body of a JSON string and is read back
  as the text that went in, so that the file is one line, an object with the fields of the contract.
* `writtenWhole_writeHealthFile`: the file is written beside its place and renamed, so a reader
  finds the old contents or all of the new ones, **never a part**. With the fault transition this
  becomes `FaultState.health_file_tells_fault`.
-/

namespace HighBar.Grpc

open JsonText List

/-! ### Escaping -/

/-- The bytes of a literal. -/
def ascii (s : String) : Bytes := s.toUTF8.data.toList

/-- A digit of `%x`. -/
def hexDigit (d : ℕ) : UInt8 :=
  if d < 10 then UInt8.ofNat (0x30 + d) else UInt8.ofNat (0x57 + d)

/-- `\u%04x` of a control byte. -/
def unicodeText (c : UInt8) : Bytes :=
  let n := c.toNat
  [backslash, 0x75, hexDigit (n / 0x1000 % 16), hexDigit (n / 0x100 % 16), hexDigit (n / 16 % 16),
    hexDigit (n % 16)]

/-- What `JsonEscape` appends for one byte. -/
def escapeByte (c : UInt8) : Bytes :=
  if c = quote then [backslash, quote]
  else if c = backslash then [backslash, backslash]
  else if c = 0x0a then [backslash, 0x6e] -- `n`
  else if c = 0x0d then [backslash, 0x72] -- `r`
  else if c = 0x09 then [backslash, 0x74] -- `t`
  else if c < 0x20 then unicodeText c
  else [c]

/-- `JsonEscape`. -/
def jsonEscape (input : Bytes) : Bytes :=
  input.foldl (fun out c ↦ out ++ escapeByte c) []

theorem jsonEscape_eq_flatMap (input : Bytes) : jsonEscape input = input.flatMap escapeByte := by
  have hloop : ∀ out : Bytes,
      input.foldl (fun out c ↦ out ++ escapeByte c) out = out ++ input.flatMap escapeByte := by
    induction input with
    | nil => exact fun out ↦ (append_nil out).symm
    | cons c input ih =>
      intro out
      rw [foldl_cons, ih, append_assoc, flatMap_cons]
  exact hloop []

/-- The classes of bytes that `JsonEscape` tells apart: those with an escape of their own, the other
control bytes, and those that stand for themselves. -/
theorem escapeByte_cases {motive : UInt8 → Bytes → Prop}
    (short : ∀ e b, shortEscapes.lookup e = some b → motive b [backslash, e])
    (control : ∀ c : UInt8, c < 0x20 → motive c (unicodeText c))
    (self : ∀ c : UInt8, c ≠ quote → c ≠ backslash → ¬c < 0x20 → motive c [c]) (c : UInt8) :
    motive c (escapeByte c) := by
  rw [escapeByte]
  split_ifs with h₁ h₂ h₃ h₄ h₅ h₆
  · exact short quote c (by rw [h₁]; rfl)
  · exact short backslash c (by rw [h₂]; rfl)
  · exact short 0x6e c (by rw [h₃]; rfl)
  · exact short 0x72 c (by rw [h₄]; rfl)
  · exact short 0x74 c (by rw [h₅]; rfl)
  · exact control c h₆
  · exact self c h₁ h₂ h₆

theorem hexDigit_mod (n : ℕ) :
    0x20 ≤ hexDigit (n % 16) ∧ hexDigit (n % 16) ≠ quote ∧ hexDigit (n % 16) ≠ backslash := by
  have hall : ∀ d : Fin 16,
      0x20 ≤ hexDigit d ∧ hexDigit d ≠ quote ∧ hexDigit d ≠ backslash := by decide
  exact hall ⟨n % 16, Nat.mod_lt n (by decide)⟩

/-- An escaped byte is printable. -/
theorem printable_escapeByte : ∀ c, Printable (escapeByte c) := by
  have hcons {c : UInt8} {text : Bytes} (hc : 0x20 ≤ c) (htext : Printable text) :
      Printable (c :: text) := printable_cons.2 ⟨hc, htext⟩
  refine escapeByte_cases (fun e b he ↦ ?_) (fun c hc ↦ ?_) (fun c _ _ hc ↦ ?_)
  · exact hcons (by decide) (hcons (le_of_lookup_shortEscapes he) printable_nil)
  · exact hcons (by decide) (hcons (by decide) (hcons (hexDigit_mod _).1 (hcons (hexDigit_mod _).1
      (hcons (hexDigit_mod _).1 (hcons (hexDigit_mod _).1 printable_nil)))))
  · exact hcons (UInt8.not_lt.1 hc) printable_nil

theorem readsAs_unicodeText {c : UInt8} (hc : c < 0x20) : ReadsAs (unicodeText c) c := by
  have hall : ∀ n : Fin 32, unicodeEscape (hexDigit (n / 0x1000 % 16)) (hexDigit (n / 0x100 % 16))
      (hexDigit (n / 16 % 16)) (hexDigit (n % 16)) = some [UInt8.ofNat n] := by decide
  have hdigits := hall ⟨c.toNat, UInt8.lt_iff_toNat_lt.1 hc⟩
  rw [UInt8.ofNat_toNat] at hdigits
  exact readsAs_unicodeEscape hdigits

/-- An escaped byte is read back. -/
theorem readsAs_escapeByte : ∀ c, ReadsAs (escapeByte c) c :=
  escapeByte_cases (motive := fun c piece ↦ ReadsAs piece c) (fun _ _ ↦ readsAs_shortEscape)
    (fun _ ↦ readsAs_unicodeText) (fun _ ↦ readsAs_self)

/-- Neither a quote nor a backslash is left for the reader to stumble over. -/
theorem mem_unescaped_escapeByte {special : UInt8} (h : special = quote ∨ special = backslash) :
    ∀ c rest, special ∈ unescaped (escapeByte c ++ rest) → special ∈ unescaped rest := by
  have hplain {c : UInt8} {text : Bytes} (hc : c ≠ quote ∧ c ≠ backslash) :
      special ∈ unescaped (c :: text) ↔ special ∈ unescaped text := by
    have hne : special ≠ c := by
      rcases h with rfl | rfl
      · exact hc.1.symm
      · exact hc.2.symm
    rw [unescaped_cons hc.2, mem_cons, or_iff_right hne]
  refine escapeByte_cases (motive := fun _ piece ↦
    ∀ rest, special ∈ unescaped (piece ++ rest) → special ∈ unescaped rest)
    (fun e b _ rest ↦ ?_) (fun c _ rest ↦ ?_) (fun c hquote hbackslash _ rest ↦ ?_)
  · show special ∈ unescaped (backslash :: e :: rest) → _
    rw [unescaped_backslash]
    exact id
  · show special ∈ unescaped (backslash :: 0x75 :: _ :: _ :: _ :: _ :: rest) → _
    rw [unescaped_backslash, hplain (hexDigit_mod _).2, hplain (hexDigit_mod _).2,
      hplain (hexDigit_mod _).2, hplain (hexDigit_mod _).2]
    exact id
  · exact (hplain ⟨hquote, hbackslash⟩).1

/-! ### The file -/

/-- The contents that `WriteHealthFile` puts together. -/
def healthBody (pid : ℤ) (healthy : Bool) (subsystem reason detail : Bytes) (frame : ℕ) : Bytes :=
  ascii "\x7b\"status\":\"" ++ ascii (if healthy then "healthy" else "disabled") ++
    ascii "\",\"schema\":\"highbar.v1\",\"pid\":" ++ decimalInt pid ++
    (if healthy then []
    else
      ascii ",\"subsystem\":\"" ++ jsonEscape subsystem ++ ascii "\",\"reason\":\"" ++
        jsonEscape reason ++ ascii "\",\"detail\":\"" ++ jsonEscape detail ++
        ascii "\",\"frame\":" ++ decimal frame) ++
    ascii "\x7d\n"

/-- The fields that the contract gives the file: what a reader is to find in it. -/
def healthFields (pid : ℤ) (healthy : Bool) (subsystem reason detail : Bytes) (frame : ℕ) :
    List (Bytes × Value) :=
  [(ascii "status", .text (ascii (if healthy then "healthy" else "disabled"))),
    (ascii "schema", .text (ascii "highbar.v1")), (ascii "pid", .integer pid)] ++
  if healthy then []
  else
    [(ascii "subsystem", .text subsystem), (ascii "reason", .text reason),
      (ascii "detail", .text detail), (ascii "frame", .integer frame)]

variable (pid : ℤ) (healthy : Bool) (subsystem reason detail : Bytes) (frame : ℕ)

/-- The body put together by hand is the compact text of the fields, on a line of its own. -/
theorem healthBody_eq_renderObject :
    healthBody pid healthy subsystem reason detail frame =
      renderObject escapeByte (healthFields pid healthy subsystem reason detail frame) ++
        [0x0a] := by
  -- each literal of the source closes one part of the object and opens the next
  have hstatus : ascii "\x7b\"status\":\"" =
      openBrace :: quote :: (ascii "status").flatMap escapeByte ++ [quote, colon, quote] := by
    decide
  have hhealthy : (ascii "healthy").flatMap escapeByte = ascii "healthy" := by decide
  have hdisabled : (ascii "disabled").flatMap escapeByte = ascii "disabled" := by decide
  have hschema : ascii "\",\"schema\":\"highbar.v1\",\"pid\":" =
      quote :: comma :: quote :: (ascii "schema").flatMap escapeByte ++ quote :: colon :: quote ::
        (ascii "highbar.v1").flatMap escapeByte ++ quote :: comma :: quote ::
        (ascii "pid").flatMap escapeByte ++ [quote, colon] := by decide
  have hsubsystem : ascii ",\"subsystem\":\"" =
      comma :: quote :: (ascii "subsystem").flatMap escapeByte ++ [quote, colon, quote] := by decide
  have hreason : ascii "\",\"reason\":\"" =
      quote :: comma :: quote :: (ascii "reason").flatMap escapeByte ++ [quote, colon, quote] := by
    decide
  have hdetail : ascii "\",\"detail\":\"" =
      quote :: comma :: quote :: (ascii "detail").flatMap escapeByte ++ [quote, colon, quote] := by
    decide
  have hframe : ascii "\",\"frame\":" =
      quote :: comma :: quote :: (ascii "frame").flatMap escapeByte ++ [quote, colon] := by decide
  have hend : ascii "\x7d\n" = [closeBrace, 0x0a] := by decide
  rcases healthy with - | -
  · simp only [healthBody, healthFields, renderObject, renderMembers, renderMember, renderValue,
      renderString, jsonEscape_eq_flatMap, decimalInt_natCast, Bool.false_eq_true, if_false,
      hstatus, hdisabled, hschema, hsubsystem, hreason, hdetail, hframe, hend, append_assoc,
      cons_append, nil_append]
  · simp only [healthBody, healthFields, renderObject, renderMembers, renderMember, renderValue,
      renderString, if_true, hstatus, hhealthy, hschema, hend, append_assoc, cons_append,
      nil_append]

/-- **The health file is read back** field by field. -/
theorem parseObject_healthBody :
    parseObject (healthBody pid healthy subsystem reason detail frame) =
      some (healthFields pid healthy subsystem reason detail frame) := by
  rw [healthBody_eq_renderObject]
  exact parseObject_renderObject readsAs_escapeByte _ (forall_mem_singleton.2 rfl)

/-- **The health file is read as it was meant.** What `JsonEscape` writes for a text has no control
byte, nothing in it ends the string or begins an escape that was not written, and a reader of JSON
gets the text back; so the file is a single line, and an object whose fields are those given. -/
theorem health_file_round_trip :
    (∀ s : Bytes, (∀ c ∈ jsonEscape s, 0x20 ≤ c) ∧
      quote ∉ unescaped (jsonEscape s) ∧ backslash ∉ unescaped (jsonEscape s) ∧
      ∀ rest, readString (jsonEscape s ++ quote :: rest) = some (s, rest)) ∧
    ∀ (pid : ℤ) (healthy : Bool) (subsystem reason detail : Bytes) (frame : ℕ),
      (∃ line, healthBody pid healthy subsystem reason detail frame = line ++ [0x0a] ∧
        ∀ c ∈ line, 0x20 ≤ c) ∧
      parseObject (healthBody pid healthy subsystem reason detail frame) =
        some (healthFields pid healthy subsystem reason detail frame) := by
  refine ⟨fun s ↦ ?_, fun pid healthy subsystem reason detail frame ↦ ⟨?_, ?_⟩⟩
  · rw [jsonEscape_eq_flatMap]
    exact ⟨printable_flatMap printable_escapeByte s,
      notMem_unescaped_flatMap (mem_unescaped_escapeByte (.inl rfl)) s,
      notMem_unescaped_flatMap (mem_unescaped_escapeByte (.inr rfl)) s,
      readString_flatMap readsAs_escapeByte s⟩
  · exact ⟨_, healthBody_eq_renderObject .., printable_renderObject printable_escapeByte _⟩
  · exact parseObject_healthBody ..

/-! ### Writing it -/

/-- The contents of the files, by their paths. -/
abbrev Files := String → Option Bytes

/-- What the calls of the C library answer. -/
structure FileAnswers where
  /-- `fopen` opens the file. -/
  fopen : Bool
  /-- The number of bytes that `fwrite` takes. -/
  fwrite : ℕ
  fflush : Bool
  fclose : Bool
  rename : Bool

/-- `WriteHealthFile`: its result, and the states that the files go through. -/
def writeHealthFile (answers : FileAnswers) (files : Files) (path : String) (pid : ℤ)
    (healthy : Bool) (subsystem reason detail : Bytes) (frame : ℕ) : Bool × List Files :=
  if path.isEmpty then (false, [])
  else
    let body := healthBody pid healthy subsystem reason detail frame
    let tmp := path ++ ".tmp"
    if !answers.fopen then (false, [])
    else
      let opened := Function.update files tmp (some [])
      let written := Function.update files tmp (some (body.take answers.fwrite))
      let unlinked := Function.update files tmp none
      if answers.fwrite ≠ body.length ∨ answers.fflush = false ∨ answers.fclose = false then
        (false, [opened, written, unlinked])
      else if !answers.rename then (false, [opened, written, unlinked])
      else (true, [opened, written, Function.update unlinked path (written tmp)])

/-- Every call of the C library does all that it is asked, for contents of this size. -/
def FileAnswers.Succeed (answers : FileAnswers) (size : ℕ) : Prop :=
  answers.fopen = true ∧ answers.fwrite = size ∧ answers.fflush = true ∧ answers.fclose = true ∧
    answers.rename = true

/-- A file is replaced as a whole or not at all. -/
structure WrittenWhole (answers : FileAnswers) (files : Files) (path : String) (body : Bytes)
    (call : Bool × List Files) : Prop where
  /-- The call succeeds if there is a path and nothing fails. -/
  result : call.1 = true ↔ path.isEmpty = false ∧ answers.Succeed body.length
  /-- Up to the last state the file holds what it held before. -/
  before : ∀ state ∈ call.2.dropLast, state path = files path
  /-- In the end it holds all of the new contents if the call succeeds, and else what it held. -/
  after : (call.2.getLast?.getD files) path = if call.1 then some body else files path

/-- **No reader finds a part of the file**, whatever fails. -/
theorem writtenWhole_writeHealthFile (answers : FileAnswers) (files : Files) (path : String)
    (pid : ℤ) (healthy : Bool) (subsystem reason detail : Bytes) (frame : ℕ) :
    WrittenWhole answers files path (healthBody pid healthy subsystem reason detail frame)
      (writeHealthFile answers files path pid healthy subsystem reason detail frame) := by
  set body := healthBody pid healthy subsystem reason detail frame with hbody
  -- what is written beside the file does not touch it
  have hbeside (contents : Option Bytes) :
      Function.update files (path ++ ".tmp") contents path = files path := by
    refine Function.update_of_ne (fun h ↦ ?_) ..
    have hlength := congrArg String.length h
    simp at hlength
  have hnothing (hfails : ¬(path.isEmpty = false ∧ answers.Succeed body.length)) :
      WrittenWhole answers files path body (false, []) :=
    ⟨iff_of_false Bool.false_ne_true hfails, fun _ hstate ↦ absurd hstate not_mem_nil, rfl⟩
  have hfailed (contents : Option Bytes)
      (hfails : ¬(path.isEmpty = false ∧ answers.Succeed body.length)) :
      WrittenWhole answers files path body
        (false, [Function.update files (path ++ ".tmp") (some []),
          Function.update files (path ++ ".tmp") contents,
          Function.update files (path ++ ".tmp") none]) :=
    ⟨iff_of_false Bool.false_ne_true hfails, by simp [hbeside], by simp [hbeside]⟩
  rw [writeHealthFile]
  refine iteInduction (fun hpath ↦ hnothing ?_) fun hpath ↦ ?_
  · exact fun h ↦ Bool.false_ne_true (h.1.symm.trans hpath)
  refine iteInduction (fun hopen ↦ hnothing ?_) fun hopen ↦ ?_
  · exact fun h ↦ by simp [h.2.1] at hopen
  refine iteInduction (fun hcalls ↦ hfailed _ ?_) fun hcalls ↦ ?_
  · rintro ⟨-, -, hsize, hflush, hclose, -⟩
    simp [hsize, hflush, hclose, ← hbody] at hcalls
  refine iteInduction (fun hrename ↦ hfailed _ ?_) fun hrename ↦ ?_
  · exact fun h ↦ by simp [h.2.2.2.2.2] at hrename
  simp only [not_or, not_not, Bool.not_eq_false, Bool.not_eq_true, Bool.not_eq_eq_eq_not,
    Bool.not_true] at hpath hopen hcalls hrename
  have hwhole : body.take answers.fwrite = body := take_of_length_le hcalls.1.ge
  refine ⟨iff_of_true rfl ⟨hpath, ?_⟩, by simp [hbeside], by simp [← hbody, hwhole]⟩
  exact ⟨hopen, hcalls.1, hcalls.2.1, hcalls.2.2, hrename⟩

end HighBar.Grpc
