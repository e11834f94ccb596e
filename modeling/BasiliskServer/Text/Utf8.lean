/-!
# UTF-8

Texts as byte strings and back. Reading goes sequence by sequence: `nextChar` takes either a
character or the longest malformed beginning of one off the front of the bytes. The strict reader
refuses malformed input, the lenient one puts a replacement character in its place.
-/

namespace BasiliskServer.Text.Utf8

/-- The bytes of one character. -/
def encodeChar (c : Char) : List UInt8 :=
  let n := c.toNat
  if n < 0x80 then [n.toUInt8]
  else if n < 0x800 then [(0xC0 + n / 64).toUInt8, (0x80 + n % 64).toUInt8]
  else if n < 0x10000 then
    [(0xE0 + n / 4096).toUInt8, (0x80 + n / 64 % 64).toUInt8, (0x80 + n % 64).toUInt8]
  else
    [(0xF0 + n / 262144).toUInt8, (0x80 + n / 4096 % 64).toUInt8, (0x80 + n / 64 % 64).toUInt8,
      (0x80 + n % 64).toUInt8]

/-- The bytes of a text. -/
def encode (s : String) : List UInt8 :=
  s.toList.flatMap encodeChar

/-- What a lead byte announces. -/
structure Lead where
  /-- Number of bytes that follow. -/
  count : Nat
  /-- The high bits of the code point. -/
  bits : Nat
  /-- Least value of the first byte that follows. -/
  low : Nat
  /-- Greatest value of the first byte that follows. -/
  high : Nat

/-- The lead bytes of sequences of two to four bytes. The bounds on the byte that follows leave out
overlong forms, surrogates and code points beyond the last one. -/
def lead? (b : UInt8) : Option Lead :=
  let n := b.toNat
  if 0xC2 ≤ n && n ≤ 0xDF then some ⟨1, n - 0xC0, 0x80, 0xBF⟩
  else if n = 0xE0 then some ⟨2, 0, 0xA0, 0xBF⟩
  else if n = 0xED then some ⟨2, 0xD, 0x80, 0x9F⟩
  else if 0xE1 ≤ n && n ≤ 0xEF then some ⟨2, n - 0xE0, 0x80, 0xBF⟩
  else if n = 0xF0 then some ⟨3, 0, 0x90, 0xBF⟩
  else if 0xF1 ≤ n && n ≤ 0xF3 then some ⟨3, n - 0xF0, 0x80, 0xBF⟩
  else if n = 0xF4 then some ⟨3, 4, 0x80, 0x8F⟩
  else none

/-- Reads the `count` bytes that complete a sequence; the first lies between `low` and `high`. -/
def tail (count bits low high : Nat) (bytes : List UInt8) : Option Char × List UInt8 :=
  match count, bytes with
  | 0, rest => (some (Char.ofNat bits), rest)
  | _ + 1, [] => (none, [])
  | count + 1, b :: rest =>
    if low ≤ b.toNat && b.toNat ≤ high then tail count (bits * 64 + b.toNat % 64) 0x80 0xBF rest
    else (none, b :: rest)

/-- Takes one character, or the longest malformed beginning of one, off a non-empty byte string. -/
def nextChar (b : UInt8) (rest : List UInt8) : Option Char × List UInt8 :=
  if b.toNat < 0x80 then (some (Char.ofNat b.toNat), rest)
  else match lead? b with
    | none => (none, rest)
    | some lead => tail lead.count lead.bits lead.low lead.high rest

theorem tail_length_le (count bits low high : Nat) (bytes : List UInt8) :
    (tail count bits low high bytes).2.length ≤ bytes.length := by
  induction bytes generalizing count bits low high with
  | nil => cases count <;> simp [tail]
  | cons b rest ih =>
    cases count with
    | zero => simp [tail]
    | succ count =>
      rw [tail]
      split
      · exact Nat.le_succ_of_le (ih ..)
      · simp

theorem nextChar_length_le (b : UInt8) (rest : List UInt8) :
    (nextChar b rest).2.length ≤ rest.length := by
  unfold nextChar
  split
  · simp
  · split
    · simp
    · exact tail_length_le ..

/-- The characters of a byte string, one at a time; a malformed piece is read as `none`. -/
def decodeSteps : List UInt8 → List (Option Char)
  | [] => []
  | b :: rest => (nextChar b rest).1 :: decodeSteps (nextChar b rest).2
termination_by bytes => bytes.length
decreasing_by
  exact Nat.lt_succ_of_le (nextChar_length_le b rest)

/-- The text that a byte string spells, if it is well-formed. -/
def decode? (bytes : List UInt8) : Option String :=
  ((decodeSteps bytes).mapM id).map String.ofList

/-- The text that a byte string spells, with a replacement character for every malformed piece. -/
def decodeLenient (bytes : List UInt8) : String :=
  String.ofList ((decodeSteps bytes).map (·.getD (Char.ofNat 0xFFFD)))

end BasiliskServer.Text.Utf8
