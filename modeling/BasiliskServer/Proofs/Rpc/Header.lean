import BasiliskServer.Proofs.Json.Scalar
import BasiliskServer.Proofs.Text.Utf8
import BasiliskServer.Rpc.Frame
import Mathlib.Data.List.TakeWhile
import Mathlib.Tactic.Set

/-!
# Header blocks

What the scanner of frames looks for, said without the scanner. A header block ends at the first
terminator (`HeaderEnds`, `splitHeader?_eq_some_iff`), and the length it gives is that of the first
length field in it (`FirstLength`, `contentLength?_eq_some_iff`): the name of the field in any
letter case, a gap, and a run of digits. The header block that is written has a length and nothing
else (`lengthLine`, `lengthDigits`).
-/

namespace BasiliskServer.Rpc

/-! ## Where a header block ends -/

/-- The first terminator of `header` followed by a terminator is that last one. -/
def HeaderEnds (header : List UInt8) : Prop :=
  ∀ before after, header ++ terminator = before ++ terminator ++ after → after = []

theorem headerEnds_nil : HeaderEnds [] := by
  intro before after h
  have hlength := congrArg List.length h
  simp only [List.nil_append, List.length_append] at hlength
  exact List.eq_nil_of_length_eq_zero (by omega)

/-- A byte may be put in front of a header block unless a terminator starts with it. -/
theorem headerEnds_cons_iff {b : UInt8} {header : List UInt8} :
    HeaderEnds (b :: header) ↔
      HeaderEnds header ∧ ¬ terminator <+: b :: (header ++ terminator) := by
  constructor
  · intro h
    refine ⟨fun before after heq => h (b :: before) after (by simp [heq]), ?_⟩
    rintro ⟨after, hafter⟩
    -- A terminator at the front would be the whole of `b :: header` and its own terminator.
    obtain rfl : after = [] := h [] after (by simpa using hafter.symm)
    have hlength := congrArg List.length hafter
    simp only [List.length_append, List.length_cons, List.length_nil] at hlength
    omega
  · rintro ⟨hends, hfront⟩ before after heq
    cases before with
    | nil => exact absurd ⟨after, by simpa using heq.symm⟩ hfront
    | cons c before =>
      simp only [List.cons_append, List.cons.injEq] at heq
      exact hends before after heq.2

/-- A header block on a single line ends at its end. -/
theorem headerEnds_of_notMem {header : List UInt8} (h : 13 ∉ header) : HeaderEnds header := by
  induction header with
  | nil => exact headerEnds_nil
  | cons b header ih =>
    rw [List.mem_cons, not_or] at h
    refine headerEnds_cons_iff.mpr ⟨ih h.2, fun hfront => h.1 ?_⟩
    exact (List.cons_prefix_cons.mp hfront).1

/-- Whether a terminator stands at the front is settled by the bytes up to the next one. -/
theorem terminator_prefix_append_iff {bytes after : List UInt8} :
    terminator <+: bytes ++ terminator ++ after ↔ terminator <+: bytes ++ terminator := by
  constructor
  · intro h
    exact List.prefix_of_prefix_length_le h (List.prefix_append _ _) (by simp)
  · intro h
    exact h.trans (List.prefix_append _ _)

/-- With a terminator at the front there is nothing in the header block. -/
theorem HeaderEnds.eq_nil_of_prefix {header after : List UInt8} (hends : HeaderEnds header)
    (hfront : terminator <+: header ++ terminator ++ after) : header = [] := by
  cases header with
  | nil => rfl
  | cons b header =>
    rw [terminator_prefix_append_iff] at hfront
    exact absurd hfront (headerEnds_cons_iff.mp hends).2

/-- Cutting a byte string finds its first terminator. -/
theorem splitHeader?_eq_some_iff {bytes header after : List UInt8} :
    splitHeader? bytes = some (header, after) ↔
      bytes = header ++ terminator ++ after ∧ HeaderEnds header := by
  induction bytes generalizing header with
  | nil => simp [splitHeader?, terminator]
  | cons b rest ih =>
    rw [splitHeader?]
    by_cases hfront : terminator <+: b :: rest
    · -- The terminator at the front leaves no room for a header.
      rw [if_pos (List.isPrefixOf_iff_prefix.mpr hfront)]
      obtain ⟨tail, htail⟩ := hfront
      rw [← htail, List.drop_left]
      constructor
      · intro h
        simp only [Option.some.injEq, Prod.mk.injEq] at h
        obtain ⟨rfl, rfl⟩ := h
        exact ⟨rfl, headerEnds_nil⟩
      · rintro ⟨heq, hends⟩
        obtain rfl := hends.eq_nil_of_prefix (heq ▸ List.prefix_append _ _)
        simpa using heq
    · -- The first byte belongs to the header, and the rest is cut in the same way.
      rw [if_neg (by simpa using hfront), Option.map_eq_some_iff]
      constructor
      · rintro ⟨⟨header', after'⟩, hsplit, heq⟩
        simp only [Prod.mk.injEq] at heq
        obtain ⟨rfl, rfl⟩ := heq
        obtain ⟨rfl, hends⟩ := ih.mp hsplit
        refine ⟨by simp, headerEnds_cons_iff.mpr ⟨hends, fun h => hfront ?_⟩⟩
        rw [← List.cons_append] at h ⊢
        exact terminator_prefix_append_iff.mpr h
      · rintro ⟨heq, hends⟩
        cases header with
        | nil => exact absurd ⟨after, by simpa using heq.symm⟩ hfront
        | cons c header =>
          simp only [List.cons_append, List.cons.injEq] at heq
          obtain ⟨rfl, rfl⟩ := heq
          exact ⟨(header, after), ih.mpr ⟨rfl, (headerEnds_cons_iff.mp hends).1⟩, rfl⟩

theorem splitHeader?_append {bytes header after : List UInt8} (more : List UInt8)
    (h : splitHeader? bytes = some (header, after)) :
    splitHeader? (bytes ++ more) = some (header, after ++ more) := by
  obtain ⟨rfl, hends⟩ := splitHeader?_eq_some_iff.mp h
  exact splitHeader?_eq_some_iff.mpr ⟨by simp, hends⟩

/-! ## The length that a header block gives -/

/-- A length field at the front of a byte string: its name in any letter case, spaces and tabs, and
a run of digits that goes on as far as digits do. -/
def LengthField (bytes digits : List UInt8) : Prop :=
  ∃ name gap rest, bytes = name ++ gap ++ digits ++ rest ∧ name.map lowerByte = lengthName ∧
    (∀ b ∈ gap, isGap b = true) ∧ digits ≠ [] ∧ (∀ b ∈ digits, isDigitByte b = true) ∧
    ∀ b ∈ rest.head?, isDigitByte b = false

/-- No length field stands anywhere in a header block. -/
def NoLength (header : List UInt8) : Prop :=
  ∀ before field, header = before ++ field → ∀ digits, ¬ LengthField field digits

/-- The digits of the first length field in a header block. -/
def FirstLength (header digits : List UInt8) : Prop :=
  ∃ before field, header = before ++ field ∧ LengthField field digits ∧
    ∀ before' field', header = before' ++ field' → before'.length < before.length →
      ∀ digits', ¬ LengthField field' digits'

theorem isGap_eq_false_of_isDigitByte {b : UInt8} (h : isDigitByte b = true) : isGap b = false := by
  have hne : b ≠ 32 ∧ b ≠ 9 := by
    constructor <;> (rintro rfl; exact absurd h (by decide))
  simp [isGap, hne]

/-- What the scanner takes off the front is a length field. -/
theorem lengthField_of_lengthAt? {bytes digits : List UInt8} (h : lengthAt? bytes = some digits) :
    LengthField bytes digits := by
  simp only [lengthAt?] at h
  split at h
  · rename_i hname
    have hname : lengthName <+: bytes.map lowerByte := List.isPrefixOf_iff_prefix.mp hname
    -- The field is cut where its name, the gap and the run of digits end.
    set after := bytes.drop lengthName.length with hafter
    set number := after.dropWhile isGap with hnumber
    have hdigits : number.takeWhile isDigitByte = digits ∧ digits ≠ [] := by
      split at h
      · cases h
      · rename_i hne
        obtain rfl := Option.some.inj h
        exact ⟨rfl, hne⟩
    refine ⟨bytes.take lengthName.length, after.takeWhile isGap, number.dropWhile isDigitByte,
      ?_, ?_, ?_, hdigits.2, ?_, ?_⟩
    · rw [← hdigits.1, List.append_assoc, List.append_assoc, List.takeWhile_append_dropWhile,
        hnumber, List.takeWhile_append_dropWhile, hafter, List.take_append_drop]
    · rw [List.map_take]
      exact (List.prefix_iff_eq_take.mp hname).symm
    · exact fun b hb => List.mem_takeWhile_imp hb
    · exact fun b hb => List.mem_takeWhile_imp (hdigits.1 ▸ hb)
    · intro b hb
      have hstop := List.head?_dropWhile_not isDigitByte number
      rw [Option.mem_def.mp hb] at hstop
      exact hstop
  · cases h

/-- The scanner takes a length field off the front. -/
theorem LengthField.lengthAt? {bytes digits : List UInt8} (h : LengthField bytes digits) :
    lengthAt? bytes = some digits := by
  obtain ⟨name, gap, rest, rfl, hname, hgap, hne, hdigits, hrest⟩ := h
  have hlength : name.length = lengthName.length := by rw [← hname, List.length_map]
  have hprefix : lengthName <+: (name ++ gap ++ digits ++ rest).map lowerByte := by
    simp only [List.map_append, hname, List.append_assoc]
    exact List.prefix_append _ _
  -- The gap goes on up to the first digit, which is no gap.
  have hgapEnds : ∀ b ∈ (digits ++ rest).head?, isGap b = false := by
    obtain ⟨b, digits, rfl⟩ := List.exists_cons_of_ne_nil hne
    intro c hc
    obtain rfl : b = c := by simpa using hc
    exact isGap_eq_false_of_isDigitByte (hdigits b List.mem_cons_self)
  have hdrop : (name ++ gap ++ digits ++ rest).drop lengthName.length =
      gap ++ (digits ++ rest) := by
    rw [← hlength, List.append_assoc, List.append_assoc, List.drop_left]
  rw [Rpc.lengthAt?, if_pos (List.isPrefixOf_iff_prefix.mpr hprefix), hdrop,
    (Text.takeWhile_append_of_head hgap hgapEnds).2,
    (Text.takeWhile_append_of_head hdigits hrest).1]
  cases digits with
  | nil => exact absurd rfl hne
  | cons b digits => rfl

theorem lengthAt?_eq_some_iff {bytes digits : List UInt8} :
    lengthAt? bytes = some digits ↔ LengthField bytes digits :=
  ⟨lengthField_of_lengthAt?, LengthField.lengthAt?⟩

theorem not_lengthField_iff {bytes : List UInt8} :
    (∀ digits, ¬ LengthField bytes digits) ↔ lengthAt? bytes = none := by
  simp only [← lengthAt?_eq_some_iff, Option.eq_none_iff_forall_ne_some, ne_eq]

section Scan

variable {b : UInt8} {rest digits : List UInt8}

/-- A length field stands nowhere exactly if it stands neither at the front nor further on. -/
theorem noLength_cons_iff :
    NoLength (b :: rest) ↔ (∀ digits, ¬ LengthField (b :: rest) digits) ∧ NoLength rest := by
  constructor
  · intro h
    exact ⟨h [] (b :: rest) rfl, fun before field heq => h (b :: before) field (by simp [heq])⟩
  · rintro ⟨hfront, hrest⟩ before field heq
    cases before with
    | nil =>
      rw [List.nil_append] at heq
      exact heq ▸ hfront
    | cons c before =>
      simp only [List.cons_append, List.cons.injEq] at heq
      exact hrest before field heq.2

/-- A length field at the front is the first. -/
theorem firstLength_cons_of_field {found : List UInt8} (hfound : LengthField (b :: rest) found) :
    FirstLength (b :: rest) digits ↔ found = digits := by
  constructor
  · rintro ⟨before, field, heq, hfield, hfirst⟩
    cases before with
    | nil =>
      rw [List.nil_append] at heq
      exact Option.some.inj (hfound.lengthAt?.symm.trans (heq ▸ hfield.lengthAt?))
    | cons c before => exact absurd hfound (hfirst [] (b :: rest) rfl (by simp) found)
  · rintro rfl
    exact ⟨[], b :: rest, rfl, hfound, fun _ _ _ h => absurd h (Nat.not_lt_zero _)⟩

/-- Without a length field at the front, the first one is that of the rest. -/
theorem firstLength_cons_of_no_field (hnone : ∀ digits, ¬ LengthField (b :: rest) digits) :
    FirstLength (b :: rest) digits ↔ FirstLength rest digits := by
  constructor
  · rintro ⟨before, field, heq, hfield, hfirst⟩
    cases before with
    | nil =>
      rw [List.nil_append] at heq
      exact absurd hfield (heq ▸ hnone digits)
    | cons c before =>
      simp only [List.cons_append, List.cons.injEq] at heq
      refine ⟨before, field, heq.2, hfield, fun before' field' heq' hlt => ?_⟩
      exact hfirst (b :: before') field' (by simp [heq']) (by simpa using hlt)
  · rintro ⟨before, field, rfl, hfield, hfirst⟩
    refine ⟨b :: before, field, rfl, hfield, fun before' field' heq hlt => ?_⟩
    cases before' with
    | nil =>
      rw [List.nil_append] at heq
      exact heq ▸ hnone
    | cons c before' =>
      simp only [List.cons_append, List.cons.injEq] at heq
      exact hfirst before' field' heq.2 (by simpa using hlt)

end Scan

/-- The scanner gives no length exactly where no length field stands. -/
theorem contentLength?_eq_none_iff {header : List UInt8} :
    contentLength? header = none ↔ NoLength header := by
  induction header with
  | nil =>
    refine ⟨fun _ before field h => ?_, fun _ => rfl⟩
    obtain ⟨rfl, rfl⟩ := List.append_eq_nil_iff.mp h.symm
    exact not_lengthField_iff.mpr (by decide)
  | cons b rest ih =>
    rw [contentLength?, noLength_cons_iff, not_lengthField_iff, ← ih]
    cases lengthAt? (b :: rest) <;> simp

/-- The scanner gives the digits of the first length field. -/
theorem contentLength?_eq_some_iff {header digits : List UInt8} :
    contentLength? header = some digits ↔ FirstLength header digits := by
  induction header with
  | nil =>
    simp only [contentLength?, reduceCtorEq, false_iff]
    rintro ⟨before, field, heq, hfield, -⟩
    obtain ⟨rfl, rfl⟩ := List.append_eq_nil_iff.mp heq.symm
    exact not_lengthField_iff.mpr (by decide) digits hfield
  | cons b rest ih =>
    rw [contentLength?]
    cases hfront : lengthAt? (b :: rest) with
    | some found =>
      rw [firstLength_cons_of_field (lengthAt?_eq_some_iff.mp hfront), Option.some.injEq]
    | none => rw [firstLength_cons_of_no_field (not_lengthField_iff.mpr hfront), ← ih]

/-! ## The header block that is written -/

/-- A header block with nothing but a length, spelled by the given digits. -/
def lengthLine (digits : List UInt8) : List UInt8 :=
  Text.Utf8.encode "Content-Length: " ++ digits

section LengthLine

variable {digits : List UInt8}

theorem headerEnds_lengthLine (h : ∀ b ∈ digits, isDigitByte b = true) :
    HeaderEnds (lengthLine digits) := by
  apply headerEnds_of_notMem
  rw [lengthLine, List.mem_append, not_or]
  exact ⟨by decide, fun hmem => absurd (h 13 hmem) (by decide)⟩

theorem firstLength_lengthLine (hne : digits ≠ []) (h : ∀ b ∈ digits, isDigitByte b = true) :
    FirstLength (lengthLine digits) digits := by
  refine ⟨[], lengthLine digits, rfl, ?_, fun _ _ _ hlt => absurd hlt (Nat.not_lt_zero _)⟩
  have hgap : ∀ b ∈ [32], isGap b = true := List.forall_mem_singleton.mpr rfl
  refine ⟨Text.Utf8.encode "Content-Length:", [32], [], ?_, by decide, hgap, hne, h, by simp⟩
  rw [List.append_nil]
  rfl

end LengthLine

/-- The digits of a length, as bytes. -/
def lengthDigits (length : Nat) : List UInt8 :=
  Text.Utf8.encode (String.ofList (Nat.toDigits 10 length))

/-- A digit is written as one byte, which keeps its value. -/
theorem encodeChar_of_isDecimal {c : Char} (h : Json.isDecimal c = true) :
    ∃ b, Text.Utf8.encodeChar c = [b] ∧ isDigitByte b = true ∧ b.toNat = c.toNat := by
  have hrange : 48 ≤ c.toNat ∧ c.toNat ≤ 57 := by
    simpa [Json.isDecimal, Char.le_def, UInt32.le_iff_toNat_le] using h
  have hbyte : c.toNat.toUInt8.toNat = c.toNat := Text.Utf8.toNat_toUInt8 (by omega)
  refine ⟨c.toNat.toUInt8, ?_, ?_, hbyte⟩
  · simp only [Text.Utf8.encodeChar, if_pos (show c.toNat < 0x80 by omega)]
  · simp [isDigitByte, hbyte, hrange]

/-- Digits are written one byte each, and their number is the one they spelled. -/
theorem encode_decimal {cs : List Char} (h : ∀ c ∈ cs, Json.isDecimal c = true) :
    (Text.Utf8.encode (String.ofList cs)).length = cs.length ∧
      (∀ b ∈ Text.Utf8.encode (String.ofList cs), isDigitByte b = true) ∧
      digitsNumber (Text.Utf8.encode (String.ofList cs)) = Json.decimalValue cs := by
  simp only [Text.Utf8.encode, String.toList_ofList, digitsNumber, Json.decimalValue]
  -- Both numbers are folds from the left, so the induction is over every start value.
  generalize 0 = value
  induction cs generalizing value with
  | nil => simp
  | cons c cs ih =>
    obtain ⟨b, hb, hdigit, hvalue⟩ := encodeChar_of_isDecimal (h c List.mem_cons_self)
    obtain ⟨hlength, hdigits, hnumber⟩ := ih (fun d hd => h d (List.mem_cons_of_mem c hd))
      (value * 10 + (c.toNat - 48))
    rw [List.flatMap_cons, hb, List.singleton_append]
    refine ⟨by simp [hlength], ?_, ?_⟩
    · rintro d (_ | ⟨_, hd⟩)
      · exact hdigit
      · exact hdigits d hd
    · rw [List.foldl_cons, List.foldl_cons, hvalue, hnumber]

theorem length_lengthDigits (length : Nat) :
    (lengthDigits length).length = (Nat.toDigits 10 length).length :=
  (encode_decimal fun _ => Json.isDecimal_of_mem_toDigits).1

theorem isDigitByte_of_mem_lengthDigits {length : Nat} {b : UInt8}
    (h : b ∈ lengthDigits length) : isDigitByte b = true :=
  (encode_decimal fun _ => Json.isDecimal_of_mem_toDigits).2.1 b h

theorem digitsNumber_lengthDigits (length : Nat) : digitsNumber (lengthDigits length) = length :=
  (encode_decimal fun _ => Json.isDecimal_of_mem_toDigits).2.2.trans
    (Json.decimalValue_toDigits length)

theorem lengthDigits_ne_nil (length : Nat) : lengthDigits length ≠ [] := by
  apply List.ne_nil_of_length_pos
  rw [length_lengthDigits]
  exact Nat.length_toDigits_pos

end BasiliskServer.Rpc
