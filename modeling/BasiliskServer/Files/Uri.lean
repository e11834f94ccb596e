import BasiliskServer.Files.Authority
import BasiliskServer.Files.Host
import BasiliskServer.Text.Utf8

/-!
# Document addresses

Documents are named by addresses. An address of the `file` scheme names a path, written with
percent signs for the bytes outside a small set; any other text is taken for a path as it stands.
The authority of an address is checked whatever its scheme is.
-/

namespace BasiliskServer.Files

open Text (isAsciiLetter isAsciiDigit)

/-- Characters that are written as they are in an address. -/
def isPlainInUri (c : Char) : Bool :=
  isAsciiLetter c || isAsciiDigit c || c = '_' || c = '.' || c = '-' || c = '~' || c = '/'

/-- The upper-case hexadecimal digit of a number below sixteen. -/
def upperHex (n : Nat) : Char :=
  if n < 10 then Char.ofNat (48 + n) else Char.ofNat (55 + n)

/-- A byte written with a percent sign. -/
def escapeByte (b : UInt8) : List Char :=
  ['%', upperHex (b.toNat / 16), upperHex (b.toNat % 16)]

/-- A byte as it is written in an address. -/
def writeByte (b : UInt8) : List Char :=
  let c := Char.ofNat b.toNat
  if b.toNat < 128 && isPlainInUri c then [c] else escapeByte b

/-- A text with percent signs for the bytes outside the plain set. -/
def percentEncode (s : String) : String :=
  String.ofList ((Text.Utf8.encode s).flatMap writeByte)

/-- The value of a hexadecimal digit. -/
def hexDigit? (c : Char) : Option Nat :=
  if '0' ≤ c && c ≤ '9' then some (c.toNat - 48)
  else if 'a' ≤ c && c ≤ 'f' then some (c.toNat - 87)
  else if 'A' ≤ c && c ≤ 'F' then some (c.toNat - 55)
  else none

/-- The bytes of an ASCII text with percent signs; malformed ones stay as they are. -/
def unescapeBytes : List Char → List UInt8
  | '%' :: a :: b :: rest =>
    match hexDigit? a, hexDigit? b with
    | some high, some low => (high * 16 + low).toUInt8 :: unescapeBytes rest
    | _, _ => '%'.toNat.toUInt8 :: unescapeBytes (a :: b :: rest)
  | c :: rest => c.toNat.toUInt8 :: unescapeBytes rest
  | [] => []

/-- Cuts a text into runs of ASCII characters and runs of others. -/
def asciiRuns : List Char → List (Bool × List Char)
  | [] => []
  | c :: rest =>
    let ascii := c.toNat < 128
    match asciiRuns rest with
    | (kind, run) :: more =>
      if kind = ascii then (kind, c :: run) :: more else (ascii, [c]) :: (kind, run) :: more
    | [] => [(ascii, [c])]

/-- Undoes percent signs. Every run of ASCII characters is read as UTF-8 on its own, malformed
bytes becoming replacement characters. -/
def percentDecode (s : String) : String :=
  String.join ((asciiRuns s.toList).map fun (ascii, run) =>
    if ascii then Text.Utf8.decodeLenient (unescapeBytes run) else String.ofList run)

/-- Characters of the scheme of an address. -/
def isSchemeChar (c : Char) : Bool :=
  isAsciiLetter c || isAsciiDigit c || c = '+' || c = '-' || c = '.'

/-- The scheme of an address in lower case and what follows its colon. -/
def scheme? (cs : List Char) : Option (List Char × List Char) :=
  let scheme := cs.takeWhile (· ≠ ':')
  match cs.dropWhile (· ≠ ':'), scheme with
  | ':' :: rest, first :: _ =>
    if isAsciiLetter first && scheme.all isSchemeChar then
      some (scheme.map Char.toLower, rest)
    else none
  | _, _ => none

/-- An address as it is read: without leading control characters and blanks, and without tabs
and line ends. -/
def cleanUri (uri : String) : List Char :=
  (uri.toList.dropWhile (·.toNat ≤ 32)).filter fun c => c ≠ '\t' && c ≠ '\r' && c ≠ '\n'

/-- Characters of the authority of an address. -/
def isAuthorityChar (c : Char) : Bool :=
  c ≠ '/' && c ≠ '?' && c ≠ '#'

/-- The authority of an address after its scheme; it may be empty. -/
def authorityPart : List Char → List Char
  | '/' :: '/' :: rest => rest.takeWhile isAuthorityChar
  | _ => []

/-- What follows the authority of an address. -/
def afterAuthority : List Char → List Char
  | '/' :: '/' :: rest => rest.dropWhile isAuthorityChar
  | cs => cs

/-- The path part of an address after its scheme: without authority, query and fragment. -/
def pathPart (cs : List Char) : List Char :=
  ((afterAuthority cs).takeWhile (· ≠ '#')).takeWhile (· ≠ '?')

/-- The path that an address names. -/
def uriToPath (uri : String) : Except AddressFault Path := do
  let (scheme, rest) := (scheme? (cleanUri uri)).getD ([], cleanUri uri)
  checkAuthority (authorityPart rest)
  if scheme = "file".toList then
    return .ofString (percentDecode (String.ofList (pathPart rest)))
  else return .ofString uri

/-- The address of an absolute path. -/
def pathToUri (p : Path) : String :=
  "file://" ++ percentEncode p.toString

/-- The address of a path on a host. -/
def Host.uriOf (host : Host) (p : Path) : Except Failure String :=
  (host.resolve p).map pathToUri

end BasiliskServer.Files
