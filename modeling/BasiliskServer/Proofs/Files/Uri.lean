import Mathlib.Data.List.TakeWhile
import BasiliskServer.Files.Uri
import BasiliskServer.Proofs.Files.Anchoring
import BasiliskServer.Proofs.Files.Spelling
import BasiliskServer.Proofs.Text.Utf8

/-!
# Addresses of paths

The address of a path is read back as that path (`uriToPath_pathToUri`), whatever characters its names hold.
Two things make it so. Percent signs are undone byte by byte (`percentDecode_percentEncode`): a percent sign
of a name is itself written as one of them, so no name is taken for an escape. And what is written holds no
character that means something to the reader of addresses (`IsWritten`), so all of it is taken for the path.
-/

namespace BasiliskServer.Files

open Text (isAsciiLetter isAsciiDigit)

/-! ## Characters of written text -/

/-- Characters that stand in a text with percent signs. -/
def IsWritten (c : Char) : Prop :=
  isPlainInUri c ∨ c = '%'

instance (c : Char) : Decidable (IsWritten c) :=
  inferInstanceAs (Decidable (_ ∨ _))

theorem toNat_lt_of_isPlainInUri {c : Char} (h : isPlainInUri c) : c.toNat < 128 := by
  have hlast {last : Char} (hle : c ≤ last) (hlast : last.toNat < 128) : c.toNat < 128 :=
    Nat.lt_of_le_of_lt (UInt32.le_iff_toNat_le.mp hle) hlast
  simp only [isPlainInUri, isAsciiLetter, isAsciiDigit, Bool.or_eq_true, Bool.and_eq_true,
    decide_eq_true_eq] at h
  -- Letters and digits lie below the last of their range; the others are single characters.
  rcases h with ((((((⟨-, h⟩ | ⟨-, h⟩) | ⟨-, h⟩) | h) | h) | h) | h) | h
  · exact hlast h (by decide)
  · exact hlast h (by decide)
  · exact hlast h (by decide)
  all_goals
    subst h
    decide

theorem IsWritten.toNat_lt {c : Char} (h : IsWritten c) : c.toNat < 128 := by
  rcases h with h | rfl
  · exact toNat_lt_of_isPlainInUri h
  · decide

/-- Characters that are not written are told apart from those that are. -/
theorem IsWritten.ne {c d : Char} (h : IsWritten c) (hd : ¬IsWritten d) : c ≠ d := by
  rintro rfl
  exact hd h

theorem isPlainInUri_upperHex : ∀ n < 16, isPlainInUri (upperHex n) = true := by
  decide

theorem isWritten_of_mem_writeByte {b : UInt8} {c : Char} (h : c ∈ writeByte b) : IsWritten c := by
  have hb := b.toNat_lt
  rw [writeByte] at h
  split at h
  next hplain =>
    obtain rfl := List.mem_singleton.mp h
    exact .inl (Bool.and_eq_true_iff.mp hplain).2
  next =>
    simp only [escapeByte, List.mem_cons, List.not_mem_nil, or_false] at h
    rcases h with rfl | rfl | rfl
    · exact .inr rfl
    · exact .inl (isPlainInUri_upperHex _ (by omega))
    · exact .inl (isPlainInUri_upperHex _ (by omega))

theorem isWritten_of_mem_percentEncode {s : String} {c : Char}
    (h : c ∈ (percentEncode s).toList) : IsWritten c := by
  rw [percentEncode, String.toList_ofList] at h
  obtain ⟨b, -, hc⟩ := List.mem_flatMap.mp h
  exact isWritten_of_mem_writeByte hc

/-! ## Undoing percent signs -/

theorem hexDigit?_upperHex : ∀ n < 16, hexDigit? (upperHex n) = some n := by
  decide

theorem unescapeBytes_cons {c : Char} (h : c ≠ '%') (rest : List Char) :
    unescapeBytes (c :: rest) = c.toNat.toUInt8 :: unescapeBytes rest := by
  rw [unescapeBytes]
  rintro a b more rfl
  exact absurd rfl h

theorem toNat_ofNat_of_ascii : ∀ n < 128, (Char.ofNat n).toNat = n := by
  decide

theorem unescapeBytes_escapeByte (b : UInt8) (rest : List Char) :
    unescapeBytes (escapeByte b ++ rest) = b :: unescapeBytes rest := by
  have hb := b.toNat_lt
  have hback : (b.toNat / 16 * 16 + b.toNat % 16).toUInt8 = b := by
    rw [Nat.div_add_mod']
    exact UInt8.ofNat_toNat
  rw [escapeByte, List.cons_append, List.cons_append, List.singleton_append, unescapeBytes,
    hexDigit?_upperHex _ (by omega), hexDigit?_upperHex _ (by omega)]
  simp only [hback]

/-- A written byte is read back, whatever follows it. -/
theorem unescapeBytes_writeByte (b : UInt8) (rest : List Char) :
    unescapeBytes (writeByte b ++ rest) = b :: unescapeBytes rest := by
  rw [writeByte]
  split
  next hplain =>
    obtain ⟨hsmall, hplain⟩ := Bool.and_eq_true_iff.mp hplain
    -- A percent sign is not plain, so what is written as it is does not start an escape.
    have hne : Char.ofNat b.toNat ≠ '%' := by
      intro heq
      rw [heq] at hplain
      exact absurd hplain (by decide)
    have hback : b.toNat.toUInt8 = b := UInt8.ofNat_toNat
    rw [List.singleton_append, unescapeBytes_cons hne,
      toNat_ofNat_of_ascii _ (of_decide_eq_true hsmall), hback]
  next => exact unescapeBytes_escapeByte b rest

theorem unescapeBytes_flatMap_writeByte (bytes : List UInt8) :
    unescapeBytes (bytes.flatMap writeByte) = bytes := by
  induction bytes with
  | nil => rfl
  | cons b bytes ih => rw [List.flatMap_cons, unescapeBytes_writeByte, ih]

/-- A text of ASCII characters is one run of them. -/
theorem asciiRuns_of_ascii {cs : List Char} (hne : cs ≠ []) (h : ∀ c ∈ cs, c.toNat < 128) :
    asciiRuns cs = [(true, cs)] := by
  induction cs with
  | nil => exact absurd rfl hne
  | cons c cs ih =>
    obtain ⟨hc, hcs⟩ := List.forall_mem_cons.mp h
    by_cases hnil : cs = []
    · subst hnil
      simp [asciiRuns, hc]
    · simp [asciiRuns, ih hnil hcs, hc]

theorem percentDecode_of_ascii {s : String} (h : ∀ c ∈ s.toList, c.toNat < 128) :
    percentDecode s = Text.Utf8.decodeLenient (unescapeBytes s.toList) := by
  -- The empty text has no run at all, any other has one.
  by_cases hnil : s.toList = []
  · simp [percentDecode, hnil, asciiRuns, unescapeBytes, Text.Utf8.decodeLenient, Text.Utf8.decodeSteps]
  · rw [percentDecode, asciiRuns_of_ascii hnil h]
    simp [String.join]

/-- Percent signs are undone, whatever the text holds. -/
theorem percentDecode_percentEncode (s : String) : percentDecode (percentEncode s) = s := by
  rw [percentDecode_of_ascii fun c hc => (isWritten_of_mem_percentEncode hc).toNat_lt,
    percentEncode, String.toList_ofList, unescapeBytes_flatMap_writeByte,
    Text.Utf8.decodeLenient_encode]

/-! ## Parts of an address -/

/-- A slash is written as it is. -/
theorem exists_percentEncode_eq_cons {s : String} (h : s.toList.head? = some '/') :
    ∃ cs, (percentEncode s).toList = '/' :: cs := by
  obtain ⟨rest, hrest⟩ := List.head?_eq_some_iff.mp h
  refine ⟨(rest.flatMap Text.Utf8.encodeChar).flatMap writeByte, ?_⟩
  rw [percentEncode, String.toList_ofList, Text.Utf8.encode, hrest, List.flatMap_cons,
    List.flatMap_append]
  rfl

section

variable {cs : List Char}

/-- Cleaning takes nothing off an address whose path is written with percent signs. -/
theorem cleanUri_file (h : ∀ c ∈ cs, IsWritten c) :
    cleanUri (String.ofList ("file://".toList ++ cs)) = "file://".toList ++ cs := by
  have hscheme : ∀ c ∈ "file://".toList, c ≠ '\t' ∧ c ≠ '\r' ∧ c ≠ '\n' := by simp
  have hall : ∀ c ∈ "file://".toList ++ cs, c ≠ '\t' ∧ c ≠ '\r' ∧ c ≠ '\n' :=
    List.forall_mem_append.mpr ⟨hscheme, fun c hc =>
      ⟨(h c hc).ne (by decide), (h c hc).ne (by decide), (h c hc).ne (by decide)⟩⟩
  rw [cleanUri, String.toList_ofList]
  exact List.filter_eq_self.mpr (by simpa [and_assoc] using hall)

theorem scheme?_file (cs : List Char) :
    scheme? ("file:".toList ++ cs) = some ("file".toList, cs) := by
  rfl

/-- All that follows an empty authority is the path, if it is written with percent signs. -/
theorem pathPart_of_isWritten (h : ∀ c ∈ '/' :: cs, IsWritten c) :
    pathPart ('/' :: '/' :: '/' :: cs) = '/' :: cs := by
  have hafter : afterAuthority ('/' :: '/' :: '/' :: cs) = '/' :: cs := rfl
  have hfragment : ('/' :: cs).takeWhile (· ≠ '#') = '/' :: cs :=
    List.takeWhile_eq_self_iff.mpr fun c hc => decide_eq_true ((h c hc).ne (by decide))
  have hquery : ('/' :: cs).takeWhile (· ≠ '?') = '/' :: cs :=
    List.takeWhile_eq_self_iff.mpr fun c hc => decide_eq_true ((h c hc).ne (by decide))
  rw [pathPart, hafter, hfragment, hquery]

end

/-- The address of an absolute path is read back as that path. -/
theorem uriToPath_pathToUri {p : Path} (habsolute : p.isAbsolute)
    (h : ∀ name ∈ p.names, Path.IsName name) : uriToPath (pathToUri p) = .ok p := by
  have hslash : p.toString.toList.head? = some '/' :=
    isAbsoluteText_iff.mp (Path.isAbsoluteText_toString habsolute)
  obtain ⟨cs, hcs⟩ := exists_percentEncode_eq_cons hslash
  have hwritten : ∀ c ∈ '/' :: cs, IsWritten c := fun c hc =>
    isWritten_of_mem_percentEncode (hcs ▸ hc)
  have hencoded : String.ofList ('/' :: cs) = percentEncode p.toString := by
    rw [← hcs, String.ofList_toList]
  have huri : pathToUri p = String.ofList ("file://".toList ++ '/' :: cs) := by
    rw [pathToUri, String.ofList_append, hencoded, String.ofList_toList]
  have hscheme : scheme? ("file://".toList ++ '/' :: cs) =
      some ("file".toList, '/' :: '/' :: '/' :: cs) := scheme?_file _
  -- The authority is empty, and nothing in the path ends it before its end.
  have hauthority : authorityPart ('/' :: '/' :: '/' :: cs) = [] := rfl
  simp only [uriToPath, huri, cleanUri_file hwritten, hscheme, Option.getD_some, hauthority,
    pathPart_of_isWritten hwritten, hencoded, percentDecode_percentEncode,
    Path.ofString_toString h]
  rfl

/-- A percent sign of a name is written as an escape of its own. -/
example : pathToUri ⟨.absolute, ["a%20b", "c#d?e;f"]⟩ = "file:///a%2520b/c%23d%3Fe%3Bf" := by
  decide +kernel

/-- A normalised path comes back from its address, whatever characters its names hold. -/
theorem Host.uriToPath_uriOf (host : Host) {p : Path} (h : p.IsNormal)
    (hnull : ∀ name ∈ p.names, Char.ofNat 0 ∉ name.toList) :
    ∃ uri, host.uriOf p = .ok uri ∧ uriToPath uri = .ok p := by
  have habsolute : p.isAbsolute := by simp [Path.isAbsolute, h.root]
  have hresolve : host.resolve p = .ok p := by
    have hnames : p.names.any holdsNull = false := by simpa [holdsNull] using hnull
    rw [resolve, hnames, (Path.isNormal_iff_resolve_eq h.isName host.cwd).mp h]
    rfl
  exact ⟨pathToUri p, by rw [uriOf, hresolve]; rfl, uriToPath_pathToUri habsolute h.isName⟩

/-- A path whose names hold escapes, delimiters of addresses, brackets, a line feed and letters beyond ASCII. -/
def oddPath : Path :=
  ⟨.absolute, ["a b", "100%", "%2F%25", "a#b?c;d+e", "[::1]", "x\ny", "é𝄞", "~"]⟩

theorem uriToPath_uriOf_oddPath :
    oddPath.IsNormal ∧ (∀ name ∈ oddPath.names, Char.ofNat 0 ∉ name.toList) ∧
      ∃ uri, Host.uriOf {} oddPath = .ok uri ∧ uriToPath uri = .ok oddPath := by
  have hnormal : oddPath.IsNormal := ⟨rfl, by decide +kernel, by decide +kernel⟩
  have hnull : ∀ name ∈ oddPath.names, Char.ofNat 0 ∉ name.toList := by decide +kernel
  exact ⟨hnormal, hnull, Host.uriToPath_uriOf {} hnormal hnull⟩

end BasiliskServer.Files
