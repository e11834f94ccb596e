import BasiliskServer.Text.Utf8

/-!
# Reading what was written in UTF-8

Both readers undo the writer (`decode?_encode`, `decodeLenient_encode`): the bytes of a character are
read back as that character whatever follows them (`decodeSteps_encodeChar_append`).
-/

namespace BasiliskServer.Text.Utf8

theorem toNat_toUInt8 {n : Nat} (h : n < 256) : n.toUInt8.toNat = n := by
  simp only [Nat.toUInt8, UInt8.toNat_ofNat', Nat.reducePow]
  omega

/-- A byte that may follow is read as the six low bits of the code point. -/
theorem tail_cons {count bits low high n : Nat} (rest : List UInt8) (hlow : low ≤ n)
    (hhigh : n ≤ high) (h : n < 256) :
    tail (count + 1) bits low high (n.toUInt8 :: rest) =
      tail count (bits * 64 + n % 64) 0x80 0xBF rest := by
  rw [tail, toNat_toUInt8 h]
  simp [hlow, hhigh]

theorem nextChar_ascii {n : Nat} (rest : List UInt8) (h : n < 0x80) :
    nextChar n.toUInt8 rest = (some (Char.ofNat n), rest) := by
  rw [nextChar, toNat_toUInt8 (by omega), if_pos h]

/-- A code point is no surrogate. -/
theorem toNat_lt_or_gt (c : Char) : c.toNat < 0xD800 ∨ 0xDFFF < c.toNat ∧ c.toNat < 0x110000 :=
  c.valid

/-! ## Lead bytes -/

theorem lead?_two {n : Nat} (hlow : 0xC2 ≤ n) (hhigh : n ≤ 0xDF) :
    lead? n.toUInt8 = some ⟨1, n - 0xC0, 0x80, 0xBF⟩ := by
  simp only [lead?, toNat_toUInt8 (show n < 256 by omega)]
  simp [hlow, hhigh]

theorem lead?_three {n : Nat} (hlow : 0xE0 ≤ n) (hhigh : n ≤ 0xEF) :
    lead? n.toUInt8 =
      some ⟨2, n - 0xE0, if n = 0xE0 then 0xA0 else 0x80, if n = 0xED then 0x9F else 0xBF⟩ := by
  simp only [lead?, toNat_toUInt8 (show n < 256 by omega)]
  grind

theorem lead?_four {n : Nat} (hlow : 0xF0 ≤ n) (hhigh : n ≤ 0xF4) :
    lead? n.toUInt8 =
      some ⟨3, n - 0xF0, if n = 0xF0 then 0x90 else 0x80, if n = 0xF4 then 0x8F else 0xBF⟩ := by
  simp only [lead?, toNat_toUInt8 (show n < 256 by omega)]
  grind

theorem nextChar_lead {n count bits low high : Nat} (rest : List UInt8) (hn : 0x80 ≤ n)
    (hn' : n < 256) (h : lead? n.toUInt8 = some ⟨count, bits, low, high⟩) :
    nextChar n.toUInt8 rest = tail count bits low high rest := by
  rw [nextChar, toNat_toUInt8 hn', if_neg (by omega), h]

/-! ## Characters and texts -/

/-- The bytes of a character are read back as that character whatever follows them. -/
theorem decodeSteps_encodeChar_append (c : Char) (rest : List UInt8) :
    decodeSteps (encodeChar c ++ rest) = some c :: decodeSteps rest := by
  have hvalid := toNat_lt_or_gt c
  -- Each length of a sequence puts the code point together again from its bits.
  have hback {n : Nat} (h : n = c.toNat) : some (Char.ofNat n) = some c := by
    rw [h, Char.ofNat_toNat]
  simp only [encodeChar]
  split
  · rename_i h
    rw [List.singleton_append, decodeSteps, nextChar_ascii _ h, hback rfl]
  split
  · simp only [List.cons_append, List.nil_append]
    rw [decodeSteps, nextChar_lead _ (by omega) (by omega) (lead?_two (by omega) (by omega)),
      tail_cons _ (by omega) (by omega) (by omega), tail]
    simp only [hback (show (0xC0 + c.toNat / 64 - 0xC0) * 64 + (0x80 + c.toNat % 64) % 64 = c.toNat
      by omega)]
  split
  · simp only [List.cons_append, List.nil_append]
    rw [decodeSteps, nextChar_lead _ (by omega) (by omega) (lead?_three (by omega) (by omega)),
      tail_cons _ (by grind) (by grind) (by omega), tail_cons _ (by omega) (by omega) (by omega),
      tail]
    simp only [hback (show ((0xE0 + c.toNat / 4096 - 0xE0) * 64 + (0x80 + c.toNat / 64 % 64) % 64)
      * 64 + (0x80 + c.toNat % 64) % 64 = c.toNat by omega)]
  · simp only [List.cons_append, List.nil_append]
    rw [decodeSteps, nextChar_lead _ (by omega) (by omega) (lead?_four (by omega) (by omega)),
      tail_cons _ (by grind) (by grind) (by omega), tail_cons _ (by omega) (by omega) (by omega),
      tail_cons _ (by omega) (by omega) (by omega), tail]
    simp only [hback (show (((0xF0 + c.toNat / 262144 - 0xF0) * 64
      + (0x80 + c.toNat / 4096 % 64) % 64) * 64 + (0x80 + c.toNat / 64 % 64) % 64) * 64
      + (0x80 + c.toNat % 64) % 64 = c.toNat by omega)]

theorem decodeSteps_encode (s : String) : decodeSteps (encode s) = s.toList.map some := by
  rw [encode]
  -- Character by character: none takes a byte of the next.
  induction s.toList with
  | nil => simp [decodeSteps]
  | cons c cs ih => rw [List.flatMap_cons, decodeSteps_encodeChar_append, ih, List.map_cons]

/-- The strict reader undoes the writer. -/
theorem decode?_encode (s : String) : decode? (encode s) = some s := by
  have hall (cs : List Char) : (cs.map some).mapM id = some cs := by
    induction cs with
    | nil => rfl
    | cons c cs ih => simp [List.mapM_cons, ih]
  rw [decode?, decodeSteps_encode, hall, Option.map_some, String.ofList_toList]

/-- So does the lenient reader, which finds nothing to replace. -/
theorem decodeLenient_encode (s : String) : decodeLenient (encode s) = s := by
  rw [decodeLenient, decodeSteps_encode, List.map_map]
  simp [Function.comp_def]

end BasiliskServer.Text.Utf8
