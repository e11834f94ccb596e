import BasiliskServer.Proofs.Rpc.Resynchronisation
import Mathlib.Data.List.Basic

/-!
# Decoding what was encoded

A writer with so many levels left writes exactly the messages that keep to its limits (`Fits`), and
the frames that it has written, one after the other, are decoded to the same messages in the same
order, with nothing left in the buffer, exactly if none of them lies too deep for the decoder
(`feed_encode_iff`). So a decoder that reads as deep as the writer writes takes everything
(`feed_encode_of_le`). A frame is a segment of a byte stream (`frameOf`), so this is a stream that
is not cut off.
-/

namespace BasiliskServer.Rpc

open Json (Value Fields)

/-- A message that keeps to the limits of a writer with `depth` levels left: no integer has too many
digits, no list or object lies too deep, every text is made of characters, and the length of the body
is itself spelled with few enough digits. -/
structure Fits (depth : Nat) (message : Fields) : Prop where
  /-- Nothing in the message is too much. -/
  value : (Value.object message).excess? depth = none
  /-- It has bytes. -/
  whole : (Value.object message).isWhole = true
  /-- Nor is the number of digits of the length in the header block. -/
  length : (Nat.toDigits 10 (frameBody (.object message)).length).length ≤ Text.digitLimit

/-- The frame of a message as a segment. -/
def frameOf (message : Fields) : Segment :=
  .ofValue (.object message)

theorem flatten_map_frame (messages : List Fields) :
    (messages.map frame).flatten = stream (messages.map frameOf) := by
  rw [stream, List.flatMap_map]
  rfl

/-! ## Writing -/

theorem encode_eq_ok_iff {writing : Option Nat} {message : Fields} {bytes : List UInt8} :
    encode writing message = .ok bytes ↔
      refusal? writing (.object message) = none ∧ frame message = bytes := by
  rw [encode, encodeValue, frame]
  cases refusal? writing (.object message) <;> simp

theorem refusal?_eq_none_iff {depth : Nat} {message : Fields} :
    refusal? (some depth) (.object message) = none ↔ Fits depth message := by
  rw [refusal?, Option.bind_some, Option.or_eq_none_iff, Option.or_eq_none_iff,
    Json.halvesExcess?_eq_none_iff, Json.digitsExcess?_eq_none_iff]
  exact ⟨fun ⟨⟨hvalue, hwhole⟩, hlength⟩ => ⟨hvalue, hwhole, hlength⟩,
    fun ⟨hvalue, hwhole, hlength⟩ => ⟨⟨hvalue, hwhole⟩, hlength⟩⟩

/-- A field of a message that keeps to the limits lies one level below it. -/
theorem Fits.field {depth : Nat} {message : Fields} (h : Fits depth message)
    {field : String × Value} (hmem : field ∈ message) : field.2.excess? (depth - 1) = none := by
  have hvalue := h.value
  rw [Value.excess?] at hvalue
  split at hvalue
  · cases hvalue
  · exact Json.fieldsExcess?_eq_none_iff.mp hvalue field hmem

theorem exists_encode_error {depth : Nat} {message : Fields} (h : ¬ Fits depth message) :
    ∃ what, encode (some depth) message = .error what := by
  cases hencode : encode (some depth) message with
  | error what => exact ⟨what, rfl⟩
  | ok bytes => exact absurd (refusal?_eq_none_iff.mp (encode_eq_ok_iff.mp hencode).1) h

/-- The messages of a list are written exactly if all of them keep to the limits. -/
theorem mapM_encode_eq_ok_iff {depth : Nat} {messages : List Fields} {frames : List (List UInt8)} :
    messages.mapM (encode (some depth)) = .ok frames ↔
      (∀ message ∈ messages, Fits depth message) ∧ messages.map frame = frames := by
  induction messages generalizing frames with
  | nil => simp [pure, Except.pure]
  | cons message rest ih =>
    rw [List.mapM_cons, List.forall_mem_cons, List.map_cons, ← refusal?_eq_none_iff]
    cases hencode : encode (some depth) message with
    | error what =>
      have hrefused : refusal? (some depth) (.object message) ≠ none := fun hnone =>
        nomatch hencode.symm.trans (encode_eq_ok_iff.mpr ⟨hnone, rfl⟩)
      simp [bind, Except.bind, hrefused]
    | ok bytes =>
      obtain ⟨hnone, rfl⟩ := encode_eq_ok_iff.mp hencode
      cases hrest : rest.mapM (encode (some depth)) with
      | error what =>
        have hunfit : ¬ ∀ other ∈ rest, Fits depth other := fun hall =>
          nomatch hrest.symm.trans (ih.mpr ⟨hall, rfl⟩)
        simp [bind, Except.bind, hunfit]
      | ok others =>
        obtain ⟨hall, rfl⟩ := ih.mp hrest
        simp only [bind, Except.bind, pure, Except.pure, hnone, true_and, Except.ok.injEq]
        exact ⟨fun h => ⟨hall, h⟩, fun h => h.2⟩

/-- The length that a frame declares is the number of bytes of its body, and these spell the text
of the message. -/
theorem declared_length_frame (message : Fields) :
    ∃ header digits body, splitHeader? (frame message) = some (header, body) ∧
      contentLength? header = some digits ∧ digitsNumber digits = body.length ∧
      Text.Utf8.decode? body = some (Json.render (.object message)) := by
  let length := (frameBody (.object message)).length
  have hdigits : ∀ b ∈ lengthDigits length, isDigitByte b = true :=
    fun _ => isDigitByte_of_mem_lengthDigits
  refine ⟨lengthLine (lengthDigits length), lengthDigits length, frameBody (.object message),
    ?_, ?_, digitsNumber_lengthDigits length, Text.Utf8.decode?_encode _⟩
  · exact splitHeader?_eq_some_iff.mpr ⟨rfl, headerEnds_lengthLine hdigits⟩
  · exact contentLength?_eq_some_iff.mpr
      (firstLength_lengthLine (lengthDigits_ne_nil length) hdigits)

/-! ## Streams of frames -/

variable {nesting : Nat}

/-- The frame of a plain message is readable exactly if the message keeps to the limits. -/
theorem readable_frameOf {message : Fields} (h : (Value.object message).Plain) :
    (frameOf message).Readable nesting (frameOf message).bytes.length ↔ Fits nesting message := by
  have hheader : (lengthLine (lengthDigits (frameBody (.object message)).length) ++
      terminator).length ≤ (frameOf message).bytes.length := by
    simp [frameOf, Segment.ofValue, Segment.bytes]
  constructor
  · rintro ⟨hdigits, hbody⟩
    refine ⟨(readableBody_frameBody h).mp (hbody (Nat.le_refl _)), h.isWhole, ?_⟩
    rw [← length_lengthDigits]
    exact hdigits hheader
  · rintro ⟨hvalue, -, hlength⟩
    refine ⟨fun _ => ?_, fun _ => (readableBody_frameBody h).mpr hvalue⟩
    rw [length_lengthDigits]
    exact hlength

theorem filterMap_message?_frameOf {messages : List Fields}
    (hplain : ∀ message ∈ messages, (Value.object message).Plain)
    (hfits : ∀ message ∈ messages, Fits nesting message) :
    (messages.map frameOf).filterMap (Segment.message? nesting) = messages := by
  -- Every frame yields its message, so nothing is filtered out.
  rw [List.filterMap_map]
  have hsome : ∀ message ∈ messages, (Segment.message? nesting ∘ frameOf) message = some message := by
    intro message hmem
    rw [Function.comp_apply, frameOf, Segment.ofValue, Segment.message?,
      bodyMessage?_frameBody (hplain message hmem), (hfits message hmem).value]
    rfl
  rw [List.filterMap_congr hsome, List.filterMap_some]

theorem readable_map_frameOf {messages : List Fields}
    (hplain : ∀ message ∈ messages, (Value.object message).Plain) :
    (∀ segment ∈ messages.map frameOf, segment.Readable nesting segment.bytes.length) ↔
      ∀ message ∈ messages, Fits nesting message := by
  rw [List.forall_mem_map]
  exact forall₂_congr fun message hmem => readable_frameOf (hplain message hmem)

/-- Frames of plain messages are decoded to these messages exactly if all of them keep to the limits
of the decoder. -/
theorem feed_map_frame_iff {messages : List Fields}
    (hplain : ∀ message ∈ messages, (Value.object message).Plain) :
    (({ nesting } : Decoder).feed (messages.map frame).flatten).1 = .ok messages ∧
        (({ nesting } : Decoder).feed (messages.map frame).flatten).2.buffered = 0 ↔
      ∀ message ∈ messages, Fits nesting message := by
  rw [flatten_map_frame]
  constructor
  · rintro ⟨hmessages, -⟩
    by_contra h
    rw [← readable_map_frameOf hplain] at h
    obtain ⟨what, left, hdrain⟩ := drain_stream_error h
    simp [Decoder.feed_eq, hdrain] at hmessages
  · intro h
    have hdrain := drain_stream ((readable_map_frameOf hplain).mpr h)
    rw [filterMap_message?_frameOf hplain h] at hdrain
    simp [Decoder.feed_eq, Decoder.buffered, hdrain]

/-- Decoding undoes encoding over the whole message format. Messages are written exactly if all of
them keep to the limits of the writer; what was written is decoded to the same messages, with nothing
left, exactly if none of them lies too deep for the decoder; and the length that a frame declares is
the number of bytes of its body, which is the text of the message in UTF-8. -/
theorem feed_encode_iff (writing nesting : Nat) (messages : List Fields)
    (hplain : ∀ message ∈ messages, (Value.object message).Plain) :
    ((∃ frames, messages.mapM (encode (some writing)) = .ok frames) ↔
        ∀ message ∈ messages, Fits writing message) ∧
      (∀ frames, messages.mapM (encode (some writing)) = .ok frames →
        ((({ nesting } : Decoder).feed frames.flatten).1 = .ok messages ∧
            (({ nesting } : Decoder).feed frames.flatten).2.buffered = 0 ↔
          ∀ message ∈ messages, (Value.object message).excess? nesting = none)) ∧
      ∀ message bytes, encode (some writing) message = .ok bytes →
        ∃ header digits body, splitHeader? bytes = some (header, body) ∧
          contentLength? header = some digits ∧ digitsNumber digits = body.length ∧
          Text.Utf8.decode? body = some (Json.render (.object message)) := by
  refine ⟨?_, ?_, ?_⟩
  · simp only [mapM_encode_eq_ok_iff]
    exact ⟨fun ⟨_, hall, _⟩ => hall, fun hall => ⟨_, hall, rfl⟩⟩
  · intro frames hframes
    obtain ⟨hall, rfl⟩ := mapM_encode_eq_ok_iff.mp hframes
    rw [feed_map_frame_iff hplain]
    -- The digits are few enough, since the messages were written.
    exact forall₂_congr fun message hmem =>
      ⟨Fits.value, fun hvalue => ⟨hvalue, (hall message hmem).whole, (hall message hmem).length⟩⟩
  · intro message bytes hbytes
    obtain ⟨-, rfl⟩ := encode_eq_ok_iff.mp hbytes
    exact declared_length_frame message

/-- A decoder that reads at least as deep as the writer writes gives everything back that was
written. -/
theorem feed_encode_of_le {writing nesting : Nat} (hle : writing ≤ nesting) {messages : List Fields}
    (hplain : ∀ message ∈ messages, (Value.object message).Plain) {frames : List (List UInt8)}
    (hframes : messages.mapM (encode (some writing)) = .ok frames) :
    (({ nesting } : Decoder).feed frames.flatten).1 = .ok messages ∧
      (({ nesting } : Decoder).feed frames.flatten).2.buffered = 0 := by
  obtain ⟨hall, rfl⟩ := mapM_encode_eq_ok_iff.mp hframes
  rw [feed_map_frame_iff hplain]
  exact fun message hmem =>
    ⟨(hplain message hmem).excess?_mono hle (hall message hmem).value, (hall message hmem).whole,
      (hall message hmem).length⟩

/-- Every kind of value that a message can hold, and texts with characters of every kind: those
that are escaped, those that end a header block, and those of several bytes. -/
def assortedMessages : List Fields :=
  [[("\"text\"", .string "quote \", backslash \\, bell \x07, end\r\n\r\n, clef 𝄞"),
      ("items", .array [.int (-120), .null, .bool true, .array [.object [], .array []]])],
    [], [("id", .int 18446744073709551616), ("", .object [("é", .bool false)])]]

theorem feed_encode_assortedMessages :
    (∀ message ∈ assortedMessages, (Value.object message).Plain) ∧
      ∃ frames, assortedMessages.mapM (encode (some 4)) = .ok frames ∧
        (({ nesting := 4 } : Decoder).feed frames.flatten).1 = .ok assortedMessages ∧
        (({ nesting := 4 } : Decoder).feed frames.flatten).2.buffered = 0 := by
  have hplain : ∀ message ∈ assortedMessages, (Value.object message).Plain := by
    simp [assortedMessages, or_imp, forall_and]
  have hvalue : ∀ message ∈ assortedMessages, (Value.object message).excess? 4 = none := by
    decide +kernel
  have hlength : ∀ message ∈ assortedMessages,
      (Nat.toDigits 10 (frameBody (.object message)).length).length ≤ Text.digitLimit := by
    decide +kernel
  have hall := feed_encode_iff 4 4 _ hplain
  obtain ⟨frames, hframes⟩ := hall.1.mpr fun message hmem =>
    ⟨hvalue message hmem, (hplain message hmem).isWhole, hlength message hmem⟩
  exact ⟨hplain, frames, hframes, (hall.2.1 frames hframes).mpr hvalue⟩

/-! ## Messages beyond the limits -/

/-- A text of `n` characters. -/
def longText (n : Nat) : Value :=
  .string (String.ofList (List.replicate n 'a'))

/-- From the power of ten on, a number has more digits than the limit. -/
theorem digitLimit_lt_length_toDigits {n : Nat} (h : Decimal.tenTo Text.digitLimit ≤ n) :
    Text.digitLimit < (Nat.toDigits 10 n).length := by
  have hdigits (limit : Nat) (hpos : 0 < limit) (hn : Decimal.tenTo limit ≤ n) :
      limit < (Nat.toDigits 10 n).length := by
    rw [← Nat.not_le, Nat.length_toDigits_le_iff (by decide) hpos]
    exact Nat.not_lt_of_le hn
  exact hdigits Text.digitLimit (by decide) h

theorem excess?_nat {n : Nat} (depth : Nat) (h : Decimal.tenTo Text.digitLimit ≤ n) :
    (Value.nat n).excess? depth ≠ none := by
  rw [Value.nat, Value.excess?, Int.natAbs_natCast, Ne, Json.digitsExcess?_eq_none_iff, Nat.not_le]
  exact digitLimit_lt_length_toDigits h

theorem not_fits_of_excess {depth : Nat} {name : String} {value : Value}
    (h : value.excess? (depth - 1) ≠ none) : ¬ Fits depth [(name, value)] :=
  fun hfits => h (hfits.field (List.mem_singleton_self _))

/-- UTF-8 spends at least one byte on a character. -/
theorem length_le_length_encode (cs : List Char) :
    cs.length ≤ (Text.Utf8.encode (String.ofList cs)).length := by
  have hchar (c : Char) : 1 ≤ (Text.Utf8.encodeChar c).length := by
    simp only [Text.Utf8.encodeChar]
    split_ifs <;> simp
  rw [Text.Utf8.encode, String.toList_ofList]
  induction cs with
  | nil => simp
  | cons c cs ih =>
    have := hchar c
    rw [List.flatMap_cons, List.length_append, List.length_cons]
    omega

theorem le_length_frameBody_longText (name : String) (n : Nat) :
    n ≤ (frameBody (.object [(name, longText n)])).length := by
  have hchars : n ≤ ((List.replicate n 'a').flatMap (Json.writeChar false)).length := by
    have hone : (Json.writeChar false 'a').length = 1 := rfl
    simp [List.length_flatMap, hone]
  -- The text of the message holds the characters of the value, and more.
  refine Nat.le_trans ?_ (length_le_length_encode _)
  simp only [Json.write, Json.writeFields, Json.writeScalar, longText, Json.writeText,
    String.toList_ofList, List.length_cons, List.length_append]
  omega

theorem not_fits_longText {depth : Nat} {name : String} {n : Nat}
    (h : Decimal.tenTo Text.digitLimit ≤ n) : ¬ Fits depth [(name, longText n)] := by
  intro hfits
  have hbody := h.trans (le_length_frameBody_longText name n)
  exact absurd hfits.length (Nat.not_le_of_lt (digitLimit_lt_length_toDigits hbody))

/-- A plain message that is not written with `depth` levels left. -/
def Refused (depth : Nat) (message : Fields) : Prop :=
  (Value.object message).Plain ∧ ∃ what, encode (some depth) message = .error what

theorem refused_of_not_fits {depth : Nat} {name : String} {value : Value} (hplain : value.Plain)
    (h : ¬ Fits depth [(name, value)]) : Refused depth [(name, value)] :=
  ⟨by simpa using hplain, exists_encode_error h⟩

/-- None of the three limits can be left out: an integer with too many digits, lists that are
nested too deeply and a body whose length has too many digits are not written. -/
theorem refused_of_limits :
    Refused 1000 [("value", .nat (Decimal.tenTo Text.digitLimit))] ∧
      Refused 1000 [("value", Json.nestedLists 1000)] ∧
      Refused 1000 [("value", longText (Decimal.tenTo Text.digitLimit))] := by
  refine ⟨refused_of_not_fits (.int _) (not_fits_of_excess (excess?_nat _ (Nat.le_refl _))),
    refused_of_not_fits (Json.plain_nestedLists _) (not_fits_of_excess ?_),
    refused_of_not_fits (.string _) (not_fits_longText (Nat.le_refl _))⟩
  rw [Json.excess?_nestedLists (Nat.sub_le _ _)]
  exact Option.some_ne_none _

end BasiliskServer.Rpc
