import Mathlib.Data.List.TakeWhile
import Mathlib.Data.Nat.Digits.Lemmas

/-!
# JSON objects as bytes

A reader and a writer for the objects of RFC 8259 whose members are strings and integers.

The **reader** works on bytes. It takes every escape of the grammar but a surrogate pair, and white
space wherever the grammar has it; bytes from `0x80` on stand for themselves, so that it does not
matter whether a text is UTF-8.

The **writer** is compact, and has the escaping of strings as a parameter. All that is asked of the
escaping is that the reader takes what it writes for one byte as that byte (`ReadsAs`);
`parseObject_renderObject` is that the reader then takes any object as it was written.
-/

namespace JsonText

open List Option

/-- A text, or the value of a string. -/
abbrev Bytes := List UInt8

/-- A double quote. -/
abbrev quote : UInt8 := 0x22
/-- A backslash. -/
abbrev backslash : UInt8 := 0x5c
/-- A comma. -/
abbrev comma : UInt8 := 0x2c
/-- A colon. -/
abbrev colon : UInt8 := 0x3a
/-- A minus sign. -/
abbrev minus : UInt8 := 0x2d
/-- The brace that opens an object. -/
abbrev openBrace : UInt8 := 0x7b
/-- The brace that closes an object. -/
abbrev closeBrace : UInt8 := 0x7d

/-! ### Strings -/

/-- The escapes of two characters: what follows the backslash, and what it stands for. -/
def shortEscapes : List (UInt8 × UInt8) :=
  [(quote, quote), (backslash, backslash), (0x2f, 0x2f), (0x62, 0x08), (0x66, 0x0c), (0x6e, 0x0a),
    (0x72, 0x0d), (0x74, 0x09)]

/-- The value of a hexadecimal digit. -/
def hexValue (c : UInt8) : Option ℕ :=
  if 0x30 ≤ c ∧ c ≤ 0x39 then some (c.toNat - 0x30)
  else if 0x61 ≤ c ∧ c ≤ 0x66 then some (c.toNat - 0x57)
  else if 0x41 ≤ c ∧ c ≤ 0x46 then some (c.toNat - 0x37)
  else none

/-- What an escape with four hexadecimal digits stands for, in UTF-8. Half a surrogate pair has no
code point. -/
def unicodeEscape (h₁ h₂ h₃ h₄ : UInt8) : Option Bytes := do
  let d₁ ← hexValue h₁
  let d₂ ← hexValue h₂
  let d₃ ← hexValue h₃
  let d₄ ← hexValue h₄
  let n := ((d₁ * 16 + d₂) * 16 + d₃) * 16 + d₄
  if n.isValidChar then some (String.utf8EncodeChar (Char.ofNat n)) else none

/-- Bytes in front of a string that is read. -/
def prepend (bytes : Bytes) (read : Option (Bytes × Bytes)) : Option (Bytes × Bytes) :=
  read.map fun p ↦ (bytes ++ p.1, p.2)

/-- The value of a string, from after its opening quote, and what follows its closing quote. -/
def readString : Bytes → Option (Bytes × Bytes)
  | [] => none
  | c :: rest =>
    if c = quote then some ([], rest)
    else if c = backslash then
      match rest with
      | [] => none
      | e :: rest =>
        match shortEscapes.lookup e with
        | some b => prepend [b] (readString rest)
        | none =>
          match rest with
          | h₁ :: h₂ :: h₃ :: h₄ :: rest =>
            if e = 0x75 then
              match unicodeEscape h₁ h₂ h₃ h₄ with
              | some bytes => prepend bytes (readString rest)
              | none => none
            else none
          | _ => none
    else if c < 0x20 then none
    else prepend [c] (readString rest)

/-- The bytes of the body of a string that no backslash escapes, in order. A backslash is one of
them only if nothing follows it. -/
def unescaped : Bytes → Bytes
  | [] => []
  | [c] => [c]
  | c :: e :: rest => if c = backslash then unescaped rest else c :: unescaped (e :: rest)

/-- The reader takes the piece as the byte, whatever follows. -/
def ReadsAs (piece : Bytes) (b : UInt8) : Prop :=
  ∀ rest, readString (piece ++ rest) = prepend [b] (readString rest)

variable {c : UInt8}

/-- A plain byte stands for itself. -/
theorem readsAs_self (hquote : c ≠ quote) (hbackslash : c ≠ backslash) (hcontrol : ¬c < 0x20) :
    ReadsAs [c] c := by
  intro rest
  rw [singleton_append, readString.eq_def]
  simp only [if_neg hquote, if_neg hbackslash, if_neg hcontrol]

/-- An escape of two bytes. -/
theorem readsAs_shortEscape {e b : UInt8} (h : shortEscapes.lookup e = some b) :
    ReadsAs [backslash, e] b := by
  intro rest
  have hne : backslash ≠ quote := by decide
  show readString (backslash :: e :: rest) = _
  rw [readString.eq_def]
  simp only [if_neg hne, if_true, h]

theorem le_of_lookup_shortEscapes {e b : UInt8} (h : shortEscapes.lookup e = some b) :
    0x20 ≤ e := by
  have hall : shortEscapes.all (0x20 ≤ ·.1) = true := by decide
  obtain ⟨before, after, hsplit, -⟩ := lookup_eq_some_iff.1 h
  have hmem : (e, b) ∈ shortEscapes := hsplit ▸ mem_append_right _ mem_cons_self
  exact of_decide_eq_true (all_eq_true.1 hall _ hmem)

/-- An escape of six bytes. -/
theorem readsAs_unicodeEscape {h₁ h₂ h₃ h₄ b : UInt8} (h : unicodeEscape h₁ h₂ h₃ h₄ = some [b]) :
    ReadsAs [backslash, 0x75, h₁, h₂, h₃, h₄] b := by
  have hlong : shortEscapes.lookup 0x75 = none := by decide
  intro rest
  have hne : backslash ≠ quote := by decide
  show readString (backslash :: 0x75 :: h₁ :: h₂ :: h₃ :: h₄ :: rest) = _
  rw [readString.eq_def]
  simp only [if_neg hne, if_true, hlong, h]

/-- The closing quote ends a string. -/
theorem readString_quote (rest : Bytes) : readString (quote :: rest) = some ([], rest) := by
  rw [readString.eq_def]
  exact if_pos rfl

/-- A string escaped byte by byte is read up to its closing quote. -/
theorem readString_flatMap {escape : UInt8 → Bytes} (h : ∀ b, ReadsAs (escape b) b)
    (s rest : Bytes) : readString (s.flatMap escape ++ quote :: rest) = some (s, rest) := by
  induction s with
  | nil => exact readString_quote rest
  | cons b s ih =>
    rw [flatMap_cons, append_assoc, h b, ih]
    rfl

theorem unescaped_cons (hc : c ≠ backslash) (rest : Bytes) :
    unescaped (c :: rest) = c :: unescaped rest := by
  rcases rest with - | ⟨e, rest⟩
  · rfl
  · rw [unescaped, if_neg hc]

theorem unescaped_backslash (e : UInt8) (rest : Bytes) :
    unescaped (backslash :: e :: rest) = unescaped rest := by
  rw [unescaped, if_pos rfl]

/-- A byte that no piece leaves unescaped is nowhere unescaped. -/
theorem notMem_unescaped_flatMap {escape : UInt8 → Bytes}
    (h : ∀ b rest, c ∈ unescaped (escape b ++ rest) → c ∈ unescaped rest) (s : Bytes) :
    c ∉ unescaped (s.flatMap escape) := by
  induction s with
  | nil => exact not_mem_nil
  | cons b s ih =>
    rw [flatMap_cons]
    exact fun hc ↦ ih (h b _ hc)

/-! ### Integers -/

/-- A decimal digit. -/
def isDigit (c : UInt8) : Bool := decide (0x30 ≤ c ∧ c ≤ 0x39)

/-- A natural number without leading zeros. -/
def readNatural (text : Bytes) : Option (ℕ × Bytes) :=
  let digits := text.takeWhile isDigit
  if digits = [] ∨ digits.head? = some 0x30 ∧ digits ≠ [0x30] then none
  else
    some (Nat.ofDigits 10 (digits.map fun c ↦ c.toNat - 0x30).reverse, text.dropWhile isDigit)

/-- Read an integer, with a sign or without. -/
def readInteger : Bytes → Option (ℤ × Bytes)
  | [] => none
  | c :: rest =>
    if c = minus then (readNatural rest).map fun p ↦ (-(p.1 : ℤ), p.2)
    else (readNatural (c :: rest)).map fun p ↦ ((p.1 : ℤ), p.2)

/-- The decimal text of a natural number. -/
def decimal (n : ℕ) : Bytes :=
  if n = 0 then [0x30] else (Nat.digits 10 n).reverse.map fun d ↦ UInt8.ofNat (0x30 + d)

/-- The decimal text of an integer. -/
def decimalInt (n : ℤ) : Bytes :=
  if n < 0 then minus :: decimal n.natAbs else decimal n.natAbs

theorem decimalInt_natCast (n : ℕ) : decimalInt n = decimal n := by
  rw [decimalInt, if_neg (not_lt.2 (Int.natCast_nonneg n)), Int.natAbs_natCast]

theorem toNat_digit {d : ℕ} (h : d < 10) : (UInt8.ofNat (0x30 + d)).toNat = 0x30 + d :=
  Nat.mod_eq_of_lt (by omega)

theorem isDigit_digit {d : ℕ} (h : d < 10) : isDigit (UInt8.ofNat (0x30 + d)) = true := by
  simp only [isDigit, decide_eq_true_eq, UInt8.le_iff_toNat_le, toNat_digit h]
  exact ⟨Nat.le_add_right _ _, Nat.add_le_add_left (Nat.le_of_lt_succ h) _⟩

/-- A number is written in digits. -/
theorem isDigit_of_mem_decimal {n : ℕ} (h : c ∈ decimal n) : isDigit c = true := by
  rw [decimal] at h
  split at h
  · rw [mem_singleton.1 h]
    rfl
  · obtain ⟨d, hd, rfl⟩ := mem_map.1 h
    exact isDigit_digit (Nat.digits_lt_base (by decide) (mem_reverse.1 hd))

theorem decimal_ne_nil (n : ℕ) : decimal n ≠ [] := by
  rw [decimal]
  split
  · exact cons_ne_nil _ _
  · rename_i h
    rw [ne_eq, map_eq_nil_iff, reverse_eq_nil_iff]
    exact Nat.digits_ne_nil_iff_ne_zero.2 h

/-- Only zero begins with a zero. -/
theorem head?_decimal {n : ℕ} (h : (decimal n).head? = some 0x30) : decimal n = [0x30] := by
  by_cases hn : n = 0
  · rw [decimal, if_pos hn]
  · rw [decimal, if_neg hn, head?_map, head?_reverse] at h
    obtain ⟨d, hd, hzero⟩ := map_eq_some_iff.1 h
    have hne : Nat.digits 10 n ≠ [] := Nat.digits_ne_nil_iff_ne_zero.2 hn
    have hlast : (Nat.digits 10 n).getLast hne = d :=
      Option.some.inj ((getLast?_eq_some_getLast hne).symm.trans hd)
    have hlt : d < 10 := by
      rw [← hlast]
      exact Nat.digits_lt_base (by decide) (getLast_mem hne)
    have hd0 : d = 0 := by
      have htoNat := congrArg UInt8.toNat hzero
      rw [toNat_digit hlt] at htoNat
      exact Nat.add_left_cancel htoNat
    exact absurd (hlast.trans hd0) (Nat.getLast_digit_ne_zero 10 hn)

/-- The digits have the value of the number. -/
theorem ofDigits_decimal (n : ℕ) :
    Nat.ofDigits 10 ((decimal n).map fun c ↦ c.toNat - 0x30).reverse = n := by
  by_cases hn : n = 0
  · rw [decimal, if_pos hn, hn]
    rfl
  · have hdigits : ((decimal n).map fun c ↦ c.toNat - 0x30).reverse = Nat.digits 10 n := by
      rw [decimal, if_neg hn, List.map_map, ← List.map_reverse, List.reverse_reverse]
      refine (map_congr_left fun d hd ↦ ?_).trans (map_id _)
      have hlt : d < 10 := Nat.digits_lt_base (by decide) hd
      rw [Function.comp_apply, toNat_digit hlt, Nat.add_sub_cancel_left, id_eq]
    rw [hdigits, Nat.ofDigits_digits]

/-- The text of a number ends where the digits do. -/
theorem readNatural_decimal (n : ℕ) (hc : isDigit c = false) (rest : Bytes) :
    readNatural (decimal n ++ c :: rest) = some (n, c :: rest) := by
  have htake : (decimal n ++ c :: rest).takeWhile isDigit = decimal n := by
    rw [takeWhile_append_of_pos fun c hc ↦ isDigit_of_mem_decimal hc,
      takeWhile_cons_of_neg (Bool.eq_false_iff.1 hc), append_nil]
  have hdrop : (decimal n ++ c :: rest).dropWhile isDigit = c :: rest := by
    rw [dropWhile_append_of_pos fun c hc ↦ isDigit_of_mem_decimal hc,
      dropWhile_cons_of_neg (Bool.eq_false_iff.1 hc)]
  have hnumber : ¬(decimal n = [] ∨ (decimal n).head? = some 0x30 ∧ decimal n ≠ [0x30]) := by
    rintro (h | ⟨h, hne⟩)
    · exact decimal_ne_nil n h
    · exact hne (head?_decimal h)
  simp only [readNatural, htake, hdrop, if_neg hnumber, ofDigits_decimal]

/-- The text of an integer begins with a minus sign or a digit. -/
theorem decimalInt_eq_cons (n : ℤ) :
    ∃ c text, decimalInt n = c :: text ∧ (c = minus ∨ isDigit c = true) := by
  by_cases hn : n < 0
  · exact ⟨minus, _, if_pos hn, .inl rfl⟩
  · obtain ⟨c, text, htext⟩ := exists_cons_of_ne_nil (decimal_ne_nil n.natAbs)
    have hc : c ∈ decimal n.natAbs := htext ▸ mem_cons_self
    exact ⟨c, text, (if_neg hn).trans htext, .inr (isDigit_of_mem_decimal hc)⟩

/-- **An integer is read back**, if no digit follows. -/
theorem readInteger_decimalInt (n : ℤ) (hc : isDigit c = false) (rest : Bytes) :
    readInteger (decimalInt n ++ c :: rest) = some (n, c :: rest) := by
  by_cases hn : n < 0
  · rw [decimalInt, if_pos hn, cons_append, readInteger, if_pos rfl,
      readNatural_decimal _ hc, map_some, Int.ofNat_natAbs_of_nonpos hn.le, neg_neg]
  · obtain ⟨d, text, htext⟩ := exists_cons_of_ne_nil (decimal_ne_nil n.natAbs)
    have hd : d ≠ minus := by
      rintro rfl
      have hdigit := isDigit_of_mem_decimal (htext ▸ mem_cons_self : minus ∈ decimal n.natAbs)
      exact absurd hdigit (by decide)
    have hread := readNatural_decimal n.natAbs hc rest
    rw [htext, cons_append] at hread
    rw [decimalInt, if_neg hn, htext, cons_append, readInteger, if_neg hd, hread,
      map_some, Int.natAbs_of_nonneg (not_lt.1 hn)]

/-! ### Objects -/

/-- The value of a member. -/
inductive Value where
  | text (s : Bytes)
  | integer (n : ℤ)
deriving Repr, DecidableEq

/-- White space between two tokens. -/
def isSpace (c : UInt8) : Bool := decide (c ∈ [0x20, 0x09, 0x0a, 0x0d])

/-- A byte of the grammar, after white space. -/
def readByte (c : UInt8) (text : Bytes) : Option Bytes :=
  match text.dropWhile isSpace with
  | [] => none
  | d :: rest => if d = c then some rest else none

/-- Read a string or an integer. -/
def readValue : Bytes → Option (Value × Bytes)
  | [] => none
  | c :: rest =>
    if c = quote then (readString rest).map fun p ↦ (.text p.1, p.2)
    else (readInteger (c :: rest)).map fun p ↦ (.integer p.1, p.2)

/-- Read a key and its value. -/
def readMember (text : Bytes) : Option ((Bytes × Value) × Bytes) := do
  let rest ← readByte quote text
  let (key, rest) ← readString rest
  let rest ← readByte colon rest
  let (value, rest) ← readValue (rest.dropWhile isSpace)
  return ((key, value), rest)

/-- The members of an object that has some, up to its closing brace. There are no more of them than
bytes, which is what the bound is for. -/
def readMembers : ℕ → Bytes → Option (List (Bytes × Value) × Bytes)
  | 0, _ => none
  | bound + 1, text => do
    let (member, rest) ← readMember text
    match readByte comma rest with
    | some rest =>
      let (members, rest) ← readMembers bound rest
      return (member :: members, rest)
    | none =>
      let rest ← readByte closeBrace rest
      return ([member], rest)

/-- Read an object, with members or without. -/
def readObject (text : Bytes) : Option (List (Bytes × Value) × Bytes) := do
  let rest ← readByte openBrace text
  match readByte closeBrace rest with
  | some rest => return ([], rest)
  | none => readMembers rest.length rest

/-- The members of the object that a text is. -/
def parseObject (text : Bytes) : Option (List (Bytes × Value)) := do
  let (members, rest) ← readObject text
  if rest.dropWhile isSpace = [] then some members else none

section Writer

variable (escape : UInt8 → Bytes)

/-- Write a string. -/
def renderString (s : Bytes) : Bytes := quote :: s.flatMap escape ++ [quote]

/-- Write a string or an integer. -/
def renderValue : Value → Bytes
  | .text s => renderString escape s
  | .integer n => decimalInt n

/-- Write a key and its value. -/
def renderMember (member : Bytes × Value) : Bytes :=
  renderString escape member.1 ++ colon :: renderValue escape member.2

/-- The members and the closing brace. -/
def renderMembers : List (Bytes × Value) → Bytes
  | [] => [closeBrace]
  | [member] => renderMember escape member ++ [closeBrace]
  | member :: next :: members =>
    renderMember escape member ++ comma :: renderMembers (next :: members)

/-- The compact text of an object. -/
def renderObject (members : List (Bytes × Value)) : Bytes :=
  openBrace :: renderMembers escape members

end Writer

section

variable {escape : UInt8 → Bytes}

theorem dropWhile_isSpace (h : isSpace c = false) (rest : Bytes) :
    (c :: rest).dropWhile isSpace = c :: rest :=
  dropWhile_cons_of_neg (Bool.eq_false_iff.1 h)

theorem readByte_self (h : isSpace c = false) (rest : Bytes) :
    readByte c (c :: rest) = some rest := by
  rw [readByte, dropWhile_isSpace h]
  exact if_pos rfl

theorem readByte_of_ne {c d : UInt8} (h : isSpace d = false) (hne : d ≠ c) (rest : Bytes) :
    readByte c (d :: rest) = none := by
  rw [readByte, dropWhile_isSpace h]
  exact if_neg hne

theorem isSpace_of_isDigit (h : isDigit c = true) : isSpace c = false := by
  have hspaces : ([0x20, 0x09, 0x0a, 0x0d] : Bytes).all (!isDigit ·) = true := by decide
  rw [isSpace, decide_eq_false_iff_not]
  intro hmem
  have hnot := all_eq_true.1 hspaces c hmem
  rw [h] at hnot
  exact Bool.false_ne_true hnot

/-- There is no white space before a value. -/
theorem dropWhile_renderValue (escape : UInt8 → Bytes) (value : Value) (rest : Bytes) :
    (renderValue escape value ++ rest).dropWhile isSpace = renderValue escape value ++ rest := by
  rcases value with s | n
  · exact dropWhile_isSpace rfl _
  · obtain ⟨c, text, htext, hc⟩ := decimalInt_eq_cons n
    show (decimalInt n ++ rest).dropWhile isSpace = decimalInt n ++ rest
    rw [htext]
    refine dropWhile_isSpace ?_ _
    rcases hc with rfl | hc
    · rfl
    · exact isSpace_of_isDigit hc

/-- Every member takes up at least one byte. -/
theorem length_le_renderMembers (escape : UInt8 → Bytes) (members : List (Bytes × Value)) :
    members.length ≤ (renderMembers escape members).length := by
  induction members with
  | nil => exact Nat.zero_le _
  | cons member members ih =>
    rcases members with - | ⟨next, members⟩
    · rw [renderMembers, length_append]
      exact Nat.le_add_left _ _
    · rw [renderMembers, length_append, length_cons, length_cons]
      exact (Nat.succ_le_succ ih).trans (Nat.le_add_left _ _)

theorem renderMembers_cons (escape : UInt8 → Bytes) (member : Bytes × Value)
    (members : List (Bytes × Value)) :
    ∃ text, renderMembers escape (member :: members) = quote :: text := by
  rcases members with - | ⟨next, members⟩
  · exact ⟨_, rfl⟩
  · exact ⟨_, rfl⟩

section Reading

variable (h : ∀ b, ReadsAs (escape b) b)
include h

/-- **A value is read back**, if no digit follows. -/
theorem readValue_renderValue (value : Value) (hc : isDigit c = false) (rest : Bytes) :
    readValue (renderValue escape value ++ c :: rest) = some (value, c :: rest) := by
  rcases value with s | n
  · show readValue (quote :: (s.flatMap escape ++ [quote]) ++ c :: rest) = _
    rw [cons_append, append_assoc, readValue, if_pos rfl, singleton_append,
      readString_flatMap h, map_some]
  · obtain ⟨d, text, htext, hd⟩ := decimalInt_eq_cons n
    have hquote : d ≠ quote := by
      rintro rfl
      exact absurd hd (by decide)
    have hread := readInteger_decimalInt n hc rest
    show readValue (decimalInt n ++ c :: rest) = _
    rw [htext, cons_append] at hread ⊢
    rw [readValue, if_neg hquote, hread, map_some]

/-- **A member is read back**, if no digit follows. -/
theorem readMember_renderMember (member : Bytes × Value) (hc : isDigit c = false) (rest : Bytes) :
    readMember (renderMember escape member ++ c :: rest) = some (member, c :: rest) := by
  have htext : renderMember escape member ++ c :: rest =
      quote :: (member.1.flatMap escape ++ quote :: colon ::
        (renderValue escape member.2 ++ c :: rest)) := by
    simp only [renderMember, renderString, cons_append, append_assoc, nil_append]
  have hcolon : isSpace colon = false := rfl
  rw [htext, readMember, readByte_self rfl]
  simp only [bind_eq_bind, bind_some, readString_flatMap h, readByte_self hcolon,
    dropWhile_renderValue, readValue_renderValue h _ hc]
  rfl

/-- The members of an object are read up to its closing brace. -/
theorem readMembers_renderMembers (rest : Bytes) {members : List (Bytes × Value)}
    (hne : members ≠ []) {bound : ℕ} (hbound : members.length ≤ bound) :
    readMembers bound (renderMembers escape members ++ rest) = some (members, rest) := by
  induction members generalizing bound with
  | nil => exact absurd rfl hne
  | cons member members ih =>
    obtain ⟨bound, rfl⟩ := Nat.exists_eq_add_one_of_ne_zero (Nat.ne_zero_of_lt hbound)
    rcases members with - | ⟨next, members⟩
    · rw [renderMembers, append_assoc, singleton_append, readMembers,
        readMember_renderMember h member rfl]
      rfl
    · have hmore := ih (cons_ne_nil next members) (Nat.le_of_succ_le_succ hbound)
      have hcomma : isSpace comma = false := rfl
      rw [renderMembers, append_assoc, cons_append, readMembers,
        readMember_renderMember h member rfl]
      simp only [bind_eq_bind, bind_some, readByte_self hcomma, hmore]
      rfl

/-- **An object is read as it was written**, whatever white space follows it. -/
theorem parseObject_renderObject (members : List (Bytes × Value)) {space : Bytes}
    (hspace : ∀ c ∈ space, isSpace c = true) :
    parseObject (renderObject escape members ++ space) = some members := by
  have hend : space.dropWhile isSpace = [] := dropWhile_eq_nil_iff.2 hspace
  have hread : readObject (renderObject escape members ++ space) = some (members, space) := by
    rw [renderObject, cons_append, readObject, readByte_self rfl]
    rcases members with - | ⟨member, members⟩
    · rfl
    · obtain ⟨text, htext⟩ := renderMembers_cons escape member members
      have hmember : readByte closeBrace (renderMembers escape (member :: members) ++ space) =
          none := by
        rw [htext, cons_append]
        exact readByte_of_ne rfl (by decide) _
      simp only [bind_eq_bind, bind_some, hmember]
      refine readMembers_renderMembers h space (cons_ne_nil _ _) ?_
      rw [length_append]
      exact (length_le_renderMembers escape _).trans (Nat.le_add_right _ _)
  rw [parseObject, hread]
  exact if_pos hend

end Reading

/-! ### Control bytes -/

/-- The text has no control byte. -/
def Printable (text : Bytes) : Prop := ∀ c ∈ text, 0x20 ≤ c

theorem printable_nil : Printable [] := fun _ hc ↦ absurd hc not_mem_nil

theorem printable_cons {text : Bytes} :
    Printable (c :: text) ↔ 0x20 ≤ c ∧ Printable text := forall_mem_cons

theorem printable_append {text more : Bytes} :
    Printable (text ++ more) ↔ Printable text ∧ Printable more := forall_mem_append

theorem printable_decimal (n : ℕ) : Printable (decimal n) := by
  intro c hc
  have hdigit : 0x30 ≤ c ∧ c ≤ 0x39 := of_decide_eq_true (isDigit_of_mem_decimal hc)
  exact UInt8.le_trans (by decide) hdigit.1

theorem printable_decimalInt (n : ℤ) : Printable (decimalInt n) := by
  rw [decimalInt]
  split
  · exact printable_cons.2 ⟨by decide, printable_decimal _⟩
  · exact printable_decimal _

variable (h : ∀ b, Printable (escape b))
include h

/-- Escaping leaves no control byte. -/
theorem printable_flatMap (s : Bytes) : Printable (s.flatMap escape) := by
  intro c hc
  obtain ⟨b, -, hcb⟩ := mem_flatMap.1 hc
  exact h b c hcb

theorem printable_renderString (s : Bytes) : Printable (renderString escape s) := by
  refine printable_append.2 ⟨printable_cons.2 ⟨by decide, printable_flatMap h s⟩, ?_⟩
  exact printable_cons.2 ⟨by decide, printable_nil⟩

/-- A member is printable. -/
theorem printable_renderMember (member : Bytes × Value) :
    Printable (renderMember escape member) := by
  obtain ⟨key, value⟩ := member
  refine printable_append.2 ⟨printable_renderString h key, printable_cons.2 ⟨by decide, ?_⟩⟩
  rcases value with s | n
  · exact printable_renderString h s
  · exact printable_decimalInt n

/-- The text of an object is one line if the escaping leaves no control byte. -/
theorem printable_renderObject (members : List (Bytes × Value)) :
    Printable (renderObject escape members) := by
  have hclose : Printable [closeBrace] := printable_cons.2 ⟨by decide, printable_nil⟩
  refine printable_cons.2 ⟨by decide, ?_⟩
  induction members with
  | nil => exact hclose
  | cons member members ih =>
    rcases members with - | ⟨next, members⟩
    · exact printable_append.2 ⟨printable_renderMember h member, hclose⟩
    · exact printable_append.2 ⟨printable_renderMember h member,
        printable_cons.2 ⟨by decide, ih⟩⟩

end

end JsonText
