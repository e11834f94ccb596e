import Mathlib.Tactic.SplitIfs
import BasiliskServer.Json.Parser
import BasiliskServer.Json.Printer
import BasiliskServer.Proofs.Text.Pieces
import BasiliskServer.Proofs.Text.Utf8

/-!
# Reading back texts and integers

The parts of a written value that hold no other values, followed by anything that can stand after a
value (`Ends`), are read back as they were:

* `readText_writeText`: a text between quotes, whatever characters it holds;
* `readNumber_toDigits`: the digits of a number, unless there are too many of them;
* `readScalar_writeInt`: an integer with its sign, which is not taken for a named value.

Texts are written with all characters as they are or in ASCII. Quotes, backslashes and control
characters are escaped in both; in ASCII all characters beyond it are escaped too, each by one code
point or by the two halves of a pair (`exists_escapeCodePoint_eq_cons`).
-/

namespace BasiliskServer.Json

/-- What can stand after a value: nothing, a comma, or the end of a list or an object. -/
def Ends (rest : List Char) : Prop :=
  ∀ c ∈ rest.head?, c = ',' ∨ c = ']' ∨ c = '}'

theorem ends_nil : Ends [] := by
  simp [Ends]

theorem ends_cons {c : Char} {rest : List Char} (h : c = ',' ∨ c = ']' ∨ c = '}') :
    Ends (c :: rest) := by
  simpa [Ends] using h

/-! ## Escaped code points -/

/-- The last digit stands behind the digits of the rest of the number. -/
theorem hexDigits_succ (width n : Nat) :
    hexDigits (width + 2) n = hexDigits (width + 1) (n / 16) ++ [(n % 16).digitChar] := by
  by_cases h : n < 16
  · simp [hexDigits, Nat.toDigits_of_lt_base h, Nat.div_eq_of_lt h, Nat.mod_eq_of_lt h,
      List.replicate_succ']
  · simp [hexDigits, Nat.toDigits_of_base_le (b := 16) (by decide) (Nat.le_of_not_lt h)]

theorem hexDigits_one {n : Nat} (h : n < 16) : hexDigits 1 n = [n.digitChar] := by
  simp [hexDigits, Nat.toDigits_of_lt_base h]

/-- The four digits of a number of at most sixteen bits are read back. -/
theorem exists_hexDigits_eq {n : Nat} (h : n < 0x10000) :
    ∃ a b c d, hexDigits 4 n = [a, b, c, d] ∧ hex4? a b c d = some n := by
  have hdigit : ∀ m < 16, hexValue? m.digitChar = some m := by decide
  refine ⟨(n / 16 / 16 / 16).digitChar, (n / 16 / 16 % 16).digitChar, (n / 16 % 16).digitChar,
    (n % 16).digitChar, ?_, ?_⟩
  · rw [hexDigits_succ, hexDigits_succ, hexDigits_succ, hexDigits_one (by omega)]
    rfl
  · rw [hex4?, hdigit _ (by omega), hdigit _ (by omega), hdigit _ (by omega), hdigit _ (by omega)]
    simp only [Option.bind_eq_bind, Option.bind_some, Option.pure_def, Option.some.injEq]
    omega

theorem readCodePoint_hexDigits {n : Nat} (h : n < 0x10000) (e : Char) (rest : List Char) :
    readCodePoint (hexDigits 4 n ++ e :: rest) = readPair n (e :: rest) := by
  obtain ⟨a, b, c, d, hdigits, hvalue⟩ := exists_hexDigits_eq h
  simp [hdigits, readCodePoint, hvalue]

theorem secondHalf?_escapeUnit {n : Nat} (h : n < 0x10000) (e : Char) (rest : List Char) :
    ∃ here, secondHalf? (escapeUnit n ++ e :: rest) = some (here, some n, e :: rest) := by
  obtain ⟨a, b, c, d, hdigits, hvalue⟩ := exists_hexDigits_eq h
  exact ⟨'u' :: a :: b :: c :: d :: e :: rest, by simp [escapeUnit, hdigits, secondHalf?, hvalue]⟩

/-- A number that is no half of a pair spells a character on its own. -/
theorem readPair_single {n : Nat} (h : n < 0xD800 ∨ 0xDFFF < n) (rest : List Char) :
    readPair n rest = .ok (.char (Char.ofNat n), rest) := by
  have hhigh : isHighHalf n = false := by
    simp only [isHighHalf, Bool.and_eq_false_iff, decide_eq_false_iff_not]
    omega
  have hlow : isLowHalf n = false := by
    simp only [isLowHalf, Bool.and_eq_false_iff, decide_eq_false_iff_not]
    omega
  simp [readPair, escapedCodePoint, hhigh, hlow]

/-- The two halves of a number of more than sixteen bits spell one character together. -/
theorem readPair_halves {n : Nat} (hlow : 0x10000 ≤ n) (hhigh : n < 0x110000) (e : Char)
    (rest : List Char) :
    readPair (0xD800 + (n - 0x10000) / 1024)
        (escapeUnit (0xDC00 + (n - 0x10000) % 1024) ++ e :: rest) =
      .ok (.char (Char.ofNat n), e :: rest) := by
  obtain ⟨here, hsecond⟩ :=
    secondHalf?_escapeUnit (n := 0xDC00 + (n - 0x10000) % 1024) (by omega) e rest
  have hfirst : isHighHalf (0xD800 + (n - 0x10000) / 1024) = true := by
    simp only [isHighHalf, Bool.and_eq_true, decide_eq_true_eq]
    omega
  have hhalf : isLowHalf (0xDC00 + (n - 0x10000) % 1024) = true := by
    simp only [isLowHalf, Bool.and_eq_true, decide_eq_true_eq]
    omega
  have hback : 0x10000 + (0xD800 + (n - 0x10000) / 1024 - 0xD800) * 1024 +
      (0xDC00 + (n - 0x10000) % 1024 - 0xDC00) = n := by omega
  rw [readPair, if_pos hfirst, hsecond]
  simp only [hhalf, if_true, pairedChar, hback]

/-- An escaped character is read back after its backslash, provided that something follows it. -/
theorem exists_escapeCodePoint_eq_cons (start : List Char) (c e : Char) (rest : List Char) :
    ∃ cs, escapeCodePoint c.toNat = '\\' :: cs ∧
      readEscape start (cs ++ e :: rest) = .ok (.char c, e :: rest) := by
  have hvalid := Text.Utf8.toNat_lt_or_gt c
  -- One escape up to sixteen bits, which is no half of a pair, and the two halves beyond.
  by_cases h : c.toNat < 0x10000
  · refine ⟨'u' :: hexDigits 4 c.toNat, by rw [escapeCodePoint, if_pos h, escapeUnit], ?_⟩
    rw [List.cons_append, readEscape, if_pos rfl, readCodePoint_hexDigits h,
      readPair_single (by omega), Char.ofNat_toNat]
  · have hpair := readPair_halves (n := c.toNat) (by omega) (by omega) e rest
    rw [Char.ofNat_toNat, escapeUnit, List.cons_append] at hpair
    have hhigh : 0xD800 + (c.toNat - 0x10000) / 1024 < 0x10000 := by omega
    refine ⟨'u' :: (hexDigits 4 (0xD800 + (c.toNat - 0x10000) / 1024) ++
      escapeUnit (0xDC00 + (c.toNat - 0x10000) % 1024)),
      by rw [escapeCodePoint, if_neg h, escapeUnit, List.cons_append, List.cons_append], ?_⟩
    rw [escapeUnit, List.cons_append, List.append_assoc, List.cons_append, readEscape, if_pos rfl,
      readCodePoint_hexDigits hhigh, hpair]

/-! ## Texts -/

/-- A text goes on after an escape that is read back. -/
theorem readText_escape {start rest after : List Char} {c : CodePoint}
    (h : readEscape start rest = .ok (c, after)) :
    readText start ('\\' :: rest) =
      (readText start after).map fun (text, rest) => (c :: text, rest) := by
  rw [readText]
  simp only [Char.reduceEq, ↓reduceIte]
  split
  · simp_all
  · rename_i hread
    rw [h, Except.ok.injEq, Prod.mk.injEq] at hread
    obtain ⟨rfl, rfl⟩ := hread
    cases readText start after <;> rfl

/-- A text goes on after a character that stands for itself. -/
theorem readText_plain {start rest : List Char} {c : Char} (hquote : c ≠ '"')
    (hescape : c ≠ '\\') (hcontrol : ¬ c.toNat < 0x20) :
    readText start (c :: rest) =
      (readText start rest).map fun (text, rest) => (.char c :: text, rest) := by
  rw [readText, if_neg hquote, if_neg hescape, if_neg (by omega)]
  cases readText start rest <;> rfl

/-- A written character is read back, provided that something follows it. -/
theorem readText_writeChar_append (ascii : Bool) (start : List Char) (c e : Char)
    (rest : List Char) :
    readText start (writeChar ascii c ++ e :: rest) =
      (readText start (e :: rest)).map fun (text, rest) => (.char c :: text, rest) := by
  rw [writeChar]
  -- Five short escapes that name their character, two that name its number, the escaped code
  -- points, and the characters that stand for themselves.
  split_ifs with hquote hescape hline hreturn htab hback hfeed hcontrol
  · exact readText_escape (by simp [readEscape, shortEscape?, hquote])
  · exact readText_escape (by simp [readEscape, shortEscape?, hescape])
  · exact readText_escape (by simp [readEscape, shortEscape?, hline])
  · exact readText_escape (by simp [readEscape, shortEscape?, hreturn])
  · exact readText_escape (by simp [readEscape, shortEscape?, htab])
  · obtain rfl : c = Char.ofNat 8 := by rw [← hback, Char.ofNat_toNat]
    exact readText_escape rfl
  · obtain rfl : c = Char.ofNat 12 := by rw [← hfeed, Char.ofNat_toNat]
    exact readText_escape rfl
  · obtain ⟨cs, hcs, hread⟩ := exists_escapeCodePoint_eq_cons start c e rest
    rw [hcs, List.cons_append]
    exact readText_escape hread
  · have hplain : ¬ c.toNat < 0x20 := fun hlt => hcontrol (by simp [hlt])
    exact readText_plain hquote hescape hplain

/-- A written text is read back, together with its closing quote. -/
theorem readText_writeText (ascii : Bool) (start cs rest : List Char) :
    readText start (cs.flatMap (writeChar ascii) ++ '"' :: rest) =
      .ok (cs.map CodePoint.char, rest) := by
  induction cs with
  | nil => simp [readText]
  | cons c cs ih =>
    -- What follows the first character is not empty: it ends with the closing quote.
    obtain ⟨e, more, hmore⟩ : ∃ e more, cs.flatMap (writeChar ascii) ++ '"' :: rest = e :: more :=
      List.exists_cons_of_ne_nil (by simp)
    rw [List.flatMap_cons, List.append_assoc, hmore, readText_writeChar_append, ← hmore, ih]
    rfl

/-! ## Integers -/

theorem isDecimal_eq_isDigit (c : Char) : isDecimal c = c.isDigit := by
  simp [isDecimal, Char.isDigit, Char.le_def, ge_iff_le]

theorem isDecimal_of_mem_toDigits {n : Nat} {c : Char} (h : c ∈ Nat.toDigits 10 n) :
    isDecimal c = true := by
  rw [isDecimal_eq_isDigit]
  exact Nat.isDigit_of_mem_toDigits (by decide) (by decide) h

theorem decimalValue_toDigits (n : Nat) : decimalValue (Nat.toDigits 10 n) = n := by
  have h := Nat.ofDigitChars_ten_toDigits (n := n)
  simpa [Nat.ofDigitChars, decimalValue, Nat.mul_comm] using h

/-- Only zero is written with a leading zero. -/
theorem exists_toDigits_eq_cons {n : Nat} (h : 0 < n) :
    ∃ c cs, Nat.toDigits 10 n = c :: cs ∧ c ≠ '0' := by
  -- Taking the last digit off leaves a smaller number with the same first digit.
  induction n using Nat.strongRecOn with
  | ind n ih =>
    by_cases hsmall : n < 10
    · refine ⟨n.digitChar, [], Nat.toDigits_of_lt_base hsmall, ?_⟩
      have hall : ∀ m < 10, 0 < m → m.digitChar ≠ '0' := by decide
      exact hall n hsmall h
    · obtain ⟨c, cs, hcs, hc⟩ := ih (n / 10) (by omega) (by omega)
      refine ⟨c, cs ++ [(n % 10).digitChar], ?_, hc⟩
      rw [Nat.toDigits_of_base_le (by decide) (by omega), hcs, List.cons_append]

/-- After a number nothing goes on with it. -/
theorem not_isDecimal_of_ends {rest : List Char} (h : Ends rest) :
    ∀ c ∈ rest.head?, isDecimal c = false := by
  intro c hc
  rcases h c hc with rfl | rfl | rfl <;> rfl

theorem wholeDigits?_toDigits_append (n : Nat) {rest : List Char} (h : Ends rest) :
    wholeDigits? (Nat.toDigits 10 n ++ rest) = some (Nat.toDigits 10 n, rest) := by
  -- A zero is read on its own, whatever digits follow; any other run is read as far as it goes.
  rcases Nat.eq_zero_or_pos n with rfl | hpos
  · simp [wholeDigits?]
  · obtain ⟨c, cs, hcs, hc⟩ := exists_toDigits_eq_cons hpos
    have hall : ∀ d ∈ c :: cs, isDecimal d = true := fun d hd =>
      isDecimal_of_mem_toDigits (n := n) (hcs ▸ hd)
    have hspan := Text.takeWhile_append_of_head (fun d hd => hall d (List.mem_cons_of_mem c hd))
      (not_isDecimal_of_ends h)
    rw [hcs, List.cons_append, wholeDigits?]
    · rw [if_pos (hall c List.mem_cons_self), hspan.1, hspan.2]
    · exact hc

theorem fractionDigits_of_ends {rest : List Char} (h : Ends rest) :
    fractionDigits rest = ([], rest) := by
  cases rest with
  | nil => rfl
  | cons c rest => rcases h c rfl with rfl | rfl | rfl <;> rfl

theorem exponentPart_of_ends {rest : List Char} (h : Ends rest) : exponentPart rest = none := by
  cases rest with
  | nil => rfl
  | cons c rest => rcases h c rfl with rfl | rfl | rfl <;> rfl

/-- The digits of a number are read back as an integer, unless there are too many of them. -/
theorem readNumber_toDigits (start : List Char) (negative : Bool) (n : Nat) {rest : List Char}
    (h : Ends rest) :
    readNumber start negative (Nat.toDigits 10 n ++ rest) =
      if Text.digitLimit < (Nat.toDigits 10 n).length then
        .error (.excess (.digits (Nat.toDigits 10 n).length))
      else .ok (.int (if negative then -(n : Int) else n), rest) := by
  simp only [readNumber, wholeDigits?_toDigits_append n h, fractionDigits_of_ends h,
    exponentPart_of_ends h, decimalValue_toDigits]

/-! ## Integers with a sign -/

/-- No named value starts with a digit, nor with a minus sign that a digit follows. -/
theorem readNamed?_of_isDecimal {c : Char} (rest : List Char) (h : isDecimal c = true) :
    readNamed? (c :: rest) = none ∧ readNamed? ('-' :: c :: rest) = none := by
  have hne {d : Char} (hd : isDecimal d = false) : d ≠ c := by
    rintro rfl
    simp [hd] at h
  have hn := hne (d := 'n') rfl
  have ht := hne (d := 't') rfl
  have hf := hne (d := 'f') rfl
  have hN := hne (d := 'N') rfl
  have hI := hne (d := 'I') rfl
  have hminus := hne (d := '-') rfl
  simp [readNamed?, namedValues, afterWord?, *]

/-- A written integer is read back, unless it has too many digits. -/
theorem readScalar_writeInt (n : Int) {rest : List Char} (h : Ends rest) :
    readScalar (writeInt n ++ rest) =
      if Text.digitLimit < (Nat.toDigits 10 n.natAbs).length then
        .error (.excess (.digits (Nat.toDigits 10 n.natAbs).length))
      else .ok (.int n, rest) := by
  obtain ⟨c, cs, hcs⟩ := List.exists_cons_of_ne_nil (Nat.toDigits_ne_nil (n := n.natAbs) (b := 10))
  have hc : isDecimal c = true := isDecimal_of_mem_toDigits (n := n.natAbs) (by simp [hcs])
  obtain ⟨hplain, hsigned⟩ := readNamed?_of_isDecimal (cs ++ rest) hc
  -- With or without a sign, the digits are those of the absolute value.
  rw [writeInt]
  split
  · have hn : -(n.natAbs : Int) = n := by omega
    have hread := readNumber_toDigits ('-' :: (Nat.toDigits 10 n.natAbs ++ rest)) true n.natAbs h
    simp only [hn, if_true] at hread
    rw [List.cons_append, readScalar, hcs, List.cons_append, hsigned]
    rw [hcs, List.cons_append] at hread
    exact hread
  · have hn : (n.natAbs : Int) = n := by omega
    have hread := readNumber_toDigits (Nat.toDigits 10 n.natAbs ++ rest) false n.natAbs h
    simp only [hn, Bool.false_eq_true, if_false] at hread
    rw [readScalar]
    · rw [hcs, List.cons_append] at hread ⊢
      rw [hplain]
      exact hread
    · intro rest' heq
      rw [hcs, List.cons_append, List.cons.injEq] at heq
      simp [heq.1, isDecimal] at hc

end BasiliskServer.Json
