import BasiliskServer.Json.Spelled
import BasiliskServer.Text.Line

/-!
# The authority of an address

What stands between the two slashes and the path of an address names a host, perhaps with a user in
front and the number of a service behind. Brackets may only hold an address of version six, which is
checked here. Characters that a normalisation would turn into delimiters are refused.
-/

namespace BasiliskServer.Files

/-- What can be wrong with the authority of an address. -/
inductive AddressFault where
  /-- Brackets that do not fit together. -/
  | brackets
  /-- An address of a future version that is malformed. -/
  | futureVersion
  /-- An address of version four in brackets. -/
  | bracketedFour
  /-- Brackets around something that is no address. -/
  | noAddress (host : String)
  /-- A character that a normalisation turns into a delimiter. -/
  | disguised (authority : String)
  deriving DecidableEq, Repr

/-- The wording of a fault. -/
def AddressFault.message : AddressFault → String
  | .brackets => "Invalid IPv6 URL"
  | .futureVersion => "IPvFuture address is invalid"
  | .bracketedFour => "An IPv4 address cannot be in brackets"
  | .noAddress host => Json.quoted host ++ " does not appear to be an IPv4 or IPv6 address"
  | .disguised authority =>
    "netloc '" ++ authority ++ "' contains invalid characters under NFKC normalization"

open Text (isAsciiDigit splitBy)

/-- Hexadecimal digits. -/
def isHexDigit (c : Char) : Bool :=
  isAsciiDigit c || ('a' ≤ c && c ≤ 'f') || ('A' ≤ c && c ≤ 'F')

/-- One of the four numbers of an address of version four: without zeros in front, at most 255. -/
def isOctet (cs : List Char) : Bool :=
  cs.all isAsciiDigit && 0 < cs.length && cs.length ≤ 3 &&
    (cs = ['0'] || cs.head? ≠ some '0') && Text.digitsValue cs ≤ 255

/-- Addresses of version four: four numbers with points between them. -/
def isVersionFour (cs : List Char) : Bool :=
  let octets := splitBy (· = '.') cs
  octets.length = 4 && octets.all isOctet

/-- One of the eight groups of an address of version six. -/
def isGroup (cs : List Char) : Bool :=
  cs.all isHexDigit && 0 < cs.length && cs.length ≤ 4

/-- The parts of an address of version six: what stands between its colons. An address of version
four at the end stands for two groups; it is left as it is if it is malformed. -/
def groupParts (cs : List Char) : List (List Char) :=
  let parts := splitBy (· = ':') cs
  match parts.getLast? with
  | some last => if isVersionFour last then parts.dropLast ++ [['0'], ['0']] else parts
  | none => parts

/-- One side of a gap: groups, or nothing. -/
def isGapSide (parts : List (List Char)) : Bool :=
  parts = [[]] || parts.all isGroup

/-- The number of groups on one side of a gap. -/
def gapSideCount (parts : List (List Char)) : Nat :=
  if parts = [[]] then 0 else parts.length

/-- The places of the empty parts that are neither the first nor the last. -/
def gaps (parts : List (List Char)) : List Nat :=
  (List.range parts.length).filter fun i =>
    0 < i && i + 1 < parts.length && parts[i]? = some []

/-- The groups of an address of version six: eight, or fewer with one gap. -/
def areGroups (parts : List (List Char)) : Bool :=
  match gaps parts with
  | [] => parts.length = 8 && parts.all isGroup
  | [gap] =>
    let front := parts.take gap
    let back := parts.drop (gap + 1)
    isGapSide front && isGapSide back && gapSideCount front + gapSideCount back ≤ 7
  | _ => false

/-- The zone of an address: absent, or one percent sign and a name. -/
def isZone : List Char → Bool
  | [] => true
  | '%' :: name => !name.isEmpty && !name.contains '%'
  | _ => false

/-- Addresses of version six: groups, perhaps with a zone. -/
def isVersionSix (cs : List Char) : Bool :=
  isZone (cs.dropWhile (· ≠ '%')) && areGroups (groupParts (cs.takeWhile (· ≠ '%')))

/-- Addresses of a future version, after the letter in front: a version in hexadecimal digits, a
point and some text. -/
def isFutureVersion (cs : List Char) : Bool :=
  match cs.takeWhile isHexDigit, cs.dropWhile isHexDigit with
  | _ :: _, '.' :: _ :: _ => true
  | _, _ => false

/-- Checks what stands in brackets. -/
def checkHost : List Char → Except AddressFault Unit
  | 'v' :: rest => if isFutureVersion rest then .ok () else .error .futureVersion
  | host =>
    if isVersionFour host then .error .bracketedFour
    else if isVersionSix host then .ok ()
    else .error (.noAddress (String.ofList host))

/-- Checks an authority with brackets. After the user, the brackets come first, and only a colon may
follow them. Brackets in the user leave the host without any. -/
def checkBrackets (authority : List Char) : Except AddressFault Unit :=
  let afterUser := (authority.reverse.takeWhile (· ≠ '@')).reverse
  match afterUser with
  | '[' :: bracketed =>
    match (bracketed.dropWhile (· ≠ ']')).drop 1 with
    | [] => checkHost (bracketed.takeWhile (· ≠ ']'))
    | ':' :: _ => checkHost (bracketed.takeWhile (· ≠ ']'))
    | _ => .error .brackets
  | host =>
    if host.contains '[' then .error .brackets else checkHost (host.takeWhile (· ≠ ':'))

/-- Characters whose compatibility form holds a delimiter of addresses. -/
def disguisedDelimiters : List Nat :=
  [0x2047, 0x2048, 0x2049, 0x2100, 0x2101, 0x2105, 0x2106, 0x2A74, 0xFE13, 0xFE16, 0xFE55, 0xFE56,
   0xFE5F, 0xFE6B, 0xFF03, 0xFF0F, 0xFF1A, 0xFF1F, 0xFF20]

/-- Checks an authority: first its brackets, then its characters. -/
def checkAuthority (authority : List Char) : Except AddressFault Unit := do
  if authority.contains '[' != authority.contains ']' then throw .brackets
  if authority.contains '[' then checkBrackets authority
  if authority.any fun c => disguisedDelimiters.contains c.toNat then
    throw (.disguised (String.ofList authority))

end BasiliskServer.Files
