import BasiliskServer.Json.Parser
import BasiliskServer.Json.Printer
import BasiliskServer.Text.Utf8

/-!
# Frames

Messages travel as frames: a header block that ends with an empty line and gives the length of the
body in bytes, then the body, a JSON object in UTF-8. The decoder takes bytes in pieces of any size
and hands a message out as soon as its body is complete. A header block without a length is
skipped, and a body that is not a JSON object is dropped, so that one bad frame never holds up the
frames after it. Only a frame with too much of something, such as a number with too many digits,
makes the decoder fail; the messages that were complete with it are then lost.

The layout of a frame is a total function of its message (`frame`). A writer that has only so many
levels left for lists and objects refuses some messages (`encode`), and a reader of frames has a
limit of its own.
-/

namespace BasiliskServer.Rpc

open Json (Value Fields)

/-- The bytes that end a header block. -/
def terminator : List UInt8 := [13, 10, 13, 10]

/-- The body of a frame. -/
def frameBody (value : Value) : List UInt8 :=
  Text.Utf8.encode (Json.render value)

/-- The header block of a frame with a body of the given length, with its end. -/
def frameHeader (length : Nat) : List UInt8 :=
  Text.Utf8.encode "Content-Length: " ++ Text.Utf8.encode (String.ofList (Nat.toDigits 10 length))
    ++ terminator

/-- The frame of any value. Only frames of objects are taken for messages by a decoder. -/
def frameValue (value : Value) : List UInt8 :=
  frameHeader (frameBody value).length ++ frameBody value

/-- The frame of a message. -/
def frame (message : Fields) : List UInt8 :=
  frameValue (.object message)

/-- What stands against writing the frame of a value with so many levels left: something in the
value, a text without bytes, or the length of the body. Without a number of levels nothing is
refused. -/
def refusal? (room : Option Nat) (value : Value) : Option Json.Excess :=
  room.bind fun depth => ((value.excess? depth).or value.halvesExcess?).or
    (Json.digitsExcess? (frameBody value).length)

/-- Writes the frame of any value. -/
def encodeValue (room : Option Nat) (value : Value) : Except Json.Excess (List UInt8) :=
  match refusal? room value with
  | none => .ok (frameValue value)
  | some what => .error what

/-- Writes the frame of a message. -/
def encode (room : Option Nat) (message : Fields) : Except Json.Excess (List UInt8) :=
  encodeValue room (.object message)

/-- Cuts a byte string at its first terminator: what stands before it and what after. -/
def splitHeader? : List UInt8 → Option (List UInt8 × List UInt8)
  | [] => none
  | b :: rest =>
    if terminator.isPrefixOf (b :: rest) then some ([], (b :: rest).drop terminator.length)
    else (splitHeader? rest).map fun (header, body) => (b :: header, body)

/-- The lower case of an ASCII letter; other bytes stay. -/
def lowerByte (b : UInt8) : UInt8 :=
  if 65 ≤ b.toNat && b.toNat ≤ 90 then b + 32 else b

/-- The name of the length field, in lower case, with its colon. -/
def lengthName : List UInt8 := Text.Utf8.encode "content-length:"

/-- Spaces and tabs. -/
def isGap (b : UInt8) : Bool :=
  b = 32 || b = 9

/-- ASCII digits. -/
def isDigitByte (b : UInt8) : Bool :=
  48 ≤ b.toNat && b.toNat ≤ 57

/-- The number that a run of digits denotes. -/
def digitsNumber (digits : List UInt8) : Nat :=
  digits.foldl (fun value b => value * 10 + (b.toNat - 48)) 0

/-- The digits of the length given by a field that starts at the front of a byte string. -/
def lengthAt? (bytes : List UInt8) : Option (List UInt8) :=
  if lengthName.isPrefixOf (bytes.map lowerByte) then
    match ((bytes.drop lengthName.length).dropWhile isGap).takeWhile isDigitByte with
    | [] => none
    | digits => some digits
  else none

/-- The digits of the length that a header block gives: those of the first length field in it. -/
def contentLength? : List UInt8 → Option (List UInt8)
  | [] => none
  | b :: rest =>
    match lengthAt? (b :: rest) with
    | some digits => some digits
    | none => contentLength? rest

/-- The message in a body, if it is one. -/
def decodeBody (nesting : Nat) (body : List UInt8) : Except Json.Excess (Option Fields) :=
  match Text.Utf8.decode? body with
  | none => .ok none
  | some text =>
    match Json.parse nesting text with
    | .ok (.object fields) => .ok (some fields)
    | .ok _ => .ok none
    | .error (.malformed _) => .ok none
    | .error (.excess what) => .error what

/-- What stands at the front of a byte string. -/
inductive Front where
  /-- Nothing that is complete yet. -/
  | incomplete
  /-- A header block without a length, and what follows it. -/
  | malformed (rest : List UInt8)
  /-- A header block whose length has too many digits. -/
  | oversized (digits : Nat)
  /-- A frame with its body, and what follows it. -/
  | frame (body rest : List UInt8)

/-- Looks at the front of a byte string. -/
def front (bytes : List UInt8) : Front :=
  match splitHeader? bytes with
  | none => .incomplete
  | some (header, after) =>
    match contentLength? header with
    | none => .malformed after
    | some digits =>
      if Text.digitLimit < digits.length then .oversized digits.length
      else if after.length < digitsNumber digits then .incomplete
      else .frame (after.take (digitsNumber digits)) (after.drop (digitsNumber digits))

theorem splitHeader?_length {bytes header after : List UInt8}
    (h : splitHeader? bytes = some (header, after)) : after.length < bytes.length := by
  induction bytes generalizing header with
  | nil => simp [splitHeader?] at h
  | cons b rest ih =>
    rw [splitHeader?] at h
    split at h
    · obtain ⟨-, rfl⟩ := Prod.mk.inj (Option.some.inj h)
      simp only [List.length_drop, List.length_cons, terminator, List.length_nil]
      omega
    · obtain ⟨⟨header', after'⟩, h', heq⟩ := Option.map_eq_some_iff.mp h
      obtain ⟨-, rfl⟩ := Prod.mk.inj heq
      exact Nat.lt_succ_of_lt (ih h')

theorem front_malformed_length {bytes rest : List UInt8} (h : front bytes = .malformed rest) :
    rest.length < bytes.length := by
  unfold front at h
  split at h
  · simp at h
  · rename_i header after hsplit
    split at h
    · obtain rfl := Front.malformed.inj h
      exact splitHeader?_length hsplit
    · split at h
      · simp at h
      · split at h <;> simp at h

theorem front_frame_length {bytes body rest : List UInt8} (h : front bytes = .frame body rest) :
    rest.length < bytes.length := by
  unfold front at h
  split at h
  · simp at h
  · rename_i header after hsplit
    split at h
    · simp at h
    · split at h
      · simp at h
      · split at h
        · simp at h
        · obtain ⟨-, rfl⟩ := Front.frame.inj h
          exact Nat.lt_of_le_of_lt (by simp) (splitHeader?_length hsplit)

/-- All messages that are complete, and the bytes that are left. Bodies are read at most `nesting`
levels down. -/
def drain (nesting : Nat) (bytes : List UInt8) : Except Json.Excess (List Fields) × List UInt8 :=
  match _h : front bytes with
  | .incomplete => (.ok [], bytes)
  | .malformed rest => drain nesting rest
  | .oversized digits => (.error (.digits digits), bytes)
  | .frame body rest =>
    match decodeBody nesting body with
    | .error what => (.error what, rest)
    | .ok message =>
      let (messages, left) := drain nesting rest
      (messages.map (message.toList ++ ·), left)
termination_by bytes.length
decreasing_by
  · exact front_malformed_length ‹_›
  · exact front_frame_length ‹_›

/-- A decoder: how far down it reads, and the bytes that were fed and not used yet. -/
structure Decoder where
  /-- How many lists and objects may stand inside each other in a body. -/
  nesting : Nat
  /-- Bytes that wait for more. -/
  buffer : List UInt8 := []

namespace Decoder

/-- Number of bytes that wait for more. -/
def buffered (decoder : Decoder) : Nat :=
  decoder.buffer.length

/-- Takes a piece of the byte stream and hands out the messages that it completes. -/
def feed (decoder : Decoder) (chunk : List UInt8) :
    Except Json.Excess (List Fields) × Decoder :=
  let (messages, left) := drain decoder.nesting (decoder.buffer ++ chunk)
  (messages, { decoder with buffer := left })

/-- Takes pieces of the byte stream one after the other, until one makes it fail. -/
def feedAll (decoder : Decoder) :
    List (List UInt8) → Except Json.Excess (List Fields) × Decoder
  | [] => (.ok [], decoder)
  | chunk :: rest =>
    match decoder.feed chunk with
    | (.error what, decoder) => (.error what, decoder)
    | (.ok first, decoder) =>
      let (more, decoder) := decoder.feedAll rest
      (more.map (first ++ ·), decoder)

end Decoder

end BasiliskServer.Rpc
