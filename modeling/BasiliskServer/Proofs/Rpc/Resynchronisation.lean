import BasiliskServer.Proofs.Json.RoundTrip
import BasiliskServer.Proofs.Rpc.Slicing

/-!
# Getting back in step

A byte stream is a sequence of segments: header blocks without a length, which are skipped, and
frames, whose bodies may hold anything. The decoder finds the segments again, wherever the stream
is cut off: it hands out the messages of the frames that are complete and keeps the bytes after the
last complete segment.

The one thing that stands against this is a frame with too much of something: a length spelled with
too many digits as soon as its header block is complete, and a body that the reader of JSON gives
up on as soon as it is complete. `feed_take_iff` says that this is the only way to fail.
-/

namespace BasiliskServer.Rpc

open Json (Value Fields)

/-! ## Segments -/

/-- A segment of a byte stream. Its header block ends at the first terminator. -/
inductive Segment where
  /-- A header block without a length. -/
  | stray (header : List UInt8) (ends : HeaderEnds header) (undeclared : NoLength header)
  /-- A header block that gives a length, and a body of that length. -/
  | frame (header digits body : List UInt8) (ends : HeaderEnds header)
      (declared : FirstLength header digits) (sized : body.length = digitsNumber digits)

/-- The message in a body: the fields of the JSON object that it spells in UTF-8. -/
def bodyMessage? (nesting : Nat) (body : List UInt8) : Option Fields := do
  let text ← Text.Utf8.decode? body
  let value ← (Json.parse nesting text).toOption
  value.fields?

/-- A body in which the reader of JSON finds nothing too much. -/
def ReadableBody (nesting : Nat) (body : List UInt8) : Prop :=
  ∀ text what, Text.Utf8.decode? body = some text →
    Json.parse nesting text ≠ .error (.excess what)

namespace Segment

/-- The bytes of a segment. -/
def bytes : Segment → List UInt8
  | stray header _ _ => header ++ terminator
  | frame header _ body _ _ _ => header ++ terminator ++ body

/-- The message that a segment carries, if any. -/
def message? (nesting : Nat) : Segment → Option Fields
  | stray _ _ _ => none
  | frame _ _ body _ _ _ => bodyMessage? nesting body

/-- The decoder does not fail on the first `n` bytes of a segment: a complete header block spells
its length with few enough digits, and a complete body is readable. -/
def Readable (nesting n : Nat) : Segment → Prop
  | stray _ _ _ => True
  | frame header digits body _ _ _ =>
    ((header ++ terminator).length ≤ n → digits.length ≤ Text.digitLimit) ∧
      ((header ++ terminator ++ body).length ≤ n → ReadableBody nesting body)

/-- The frame of a value as a segment. -/
def ofValue (value : Value) : Segment :=
  let body := frameBody value
  .frame (lengthLine (lengthDigits body.length)) (lengthDigits body.length) body
    (headerEnds_lengthLine fun _ => isDigitByte_of_mem_lengthDigits)
    (firstLength_lengthLine (lengthDigits_ne_nil _) fun _ => isDigitByte_of_mem_lengthDigits)
    (digitsNumber_lengthDigits _).symm

end Segment

/-- The byte stream that segments make up. -/
def stream (segments : List Segment) : List UInt8 :=
  segments.flatMap Segment.bytes

/-- The segments that lie wholly within the first `n` bytes of their stream. -/
def within (n : Nat) : List Segment → List Segment
  | [] => []
  | segment :: rest =>
    if segment.bytes.length ≤ n then segment :: within (n - segment.bytes.length) rest else []

/-- The decoder does not fail on the first `n` bytes of a stream. -/
def ReadableWithin (nesting n : Nat) : List Segment → Prop
  | [] => True
  | segment :: rest =>
    segment.Readable nesting n ∧
      (segment.bytes.length ≤ n → ReadableWithin nesting (n - segment.bytes.length) rest)

/-! ## Bodies -/

variable {nesting : Nat}

theorem decodeBody_of_readable {body : List UInt8} (h : ReadableBody nesting body) :
    decodeBody nesting body = .ok (bodyMessage? nesting body) := by
  cases hdecode : Text.Utf8.decode? body with
  | none => simp [decodeBody, bodyMessage?, hdecode]
  | some text =>
    cases hparse : Json.parse nesting text with
    | ok value =>
      cases value <;>
        simp [decodeBody, bodyMessage?, hdecode, hparse, Except.toOption, Json.Value.fields?]
    | error error =>
      cases error with
      | malformed _ => simp [decodeBody, bodyMessage?, hdecode, hparse, Except.toOption]
      | excess what => exact absurd hparse (h text what hdecode)

theorem decodeBody_of_not_readable {body : List UInt8} (h : ¬ ReadableBody nesting body) :
    ∃ what, decodeBody nesting body = .error what := by
  simp only [ReadableBody, not_forall, not_not] at h
  obtain ⟨text, what, hdecode, hparse⟩ := h
  exact ⟨what, by simp [decodeBody, hdecode, hparse]⟩

/-- The body of a plain value is read as JSON text reads it back. -/
theorem readableBody_frameBody {value : Value} (h : value.Plain) :
    ReadableBody nesting (frameBody value) ↔ value.excess? nesting = none := by
  have hparse := Json.parse_render nesting h
  simp only [ReadableBody, frameBody, Text.Utf8.decode?_encode, Option.some.injEq]
  cases hexcess : value.excess? nesting with
  | none =>
    rw [hexcess] at hparse
    simp only [iff_true]
    rintro text what rfl
    simp [hparse]
  | some what =>
    rw [hexcess] at hparse
    simp only [reduceCtorEq, iff_false]
    exact fun hall => hall _ what rfl hparse

theorem bodyMessage?_frameBody {value : Value} (h : value.Plain) :
    bodyMessage? nesting (frameBody value) =
      if (value.excess? nesting).isNone then value.fields? else none := by
  have hparse := Json.parse_render nesting h
  simp only [bodyMessage?, frameBody, Text.Utf8.decode?_encode, Option.bind_eq_bind,
    Option.bind_some, hparse]
  cases value.excess? nesting <;> rfl

/-! ## What stands at the front of a stream -/

section Front

variable {header digits : List UInt8}

/-- A header block that is cut off is not found. -/
theorem front_take_header {n : Nat} (hends : HeaderEnds header)
    (hn : n < (header ++ terminator).length) :
    front ((header ++ terminator).take n) = .incomplete := by
  have hnone : splitHeader? ((header ++ terminator).take n) = none := by
    by_contra hsome
    obtain ⟨⟨header', after⟩, hsplit⟩ := Option.ne_none_iff_exists'.mp hsome
    obtain ⟨htake, -⟩ := splitHeader?_eq_some_iff.mp hsplit
    -- The cut off part would end the header block before its end.
    have hwhole : header ++ terminator =
        header' ++ terminator ++ (after ++ (header ++ terminator).drop n) := by
      rw [← List.append_assoc, ← htake, List.take_append_drop]
    have hempty := (List.append_eq_nil_iff.mp (hends _ _ hwhole)).2
    exact absurd (List.drop_eq_nil_iff.mp hempty) (Nat.not_le_of_lt hn)
  simp only [front, hnone]

theorem front_stray (hends : HeaderEnds header) (hnone : NoLength header) (after : List UInt8) :
    front (header ++ terminator ++ after) = .malformed after := by
  simp only [front, splitHeader?_eq_some_iff.mpr ⟨rfl, hends⟩, contentLength?_eq_none_iff.mpr hnone]

theorem front_oversized (hends : HeaderEnds header) (hfirst : FirstLength header digits)
    (hdigits : Text.digitLimit < digits.length) (after : List UInt8) :
    front (header ++ terminator ++ after) = .oversized digits.length := by
  simp only [front, splitHeader?_eq_some_iff.mpr ⟨rfl, hends⟩,
    contentLength?_eq_some_iff.mpr hfirst, if_pos hdigits]

theorem front_short {after : List UInt8} (hends : HeaderEnds header)
    (hfirst : FirstLength header digits) (hdigits : digits.length ≤ Text.digitLimit)
    (hshort : after.length < digitsNumber digits) :
    front (header ++ terminator ++ after) = .incomplete := by
  simp only [front, splitHeader?_eq_some_iff.mpr ⟨rfl, hends⟩,
    contentLength?_eq_some_iff.mpr hfirst, if_neg (Nat.not_lt_of_le hdigits), if_pos hshort]

theorem front_frame {body : List UInt8} (hends : HeaderEnds header)
    (hfirst : FirstLength header digits) (hdigits : digits.length ≤ Text.digitLimit)
    (hsized : body.length = digitsNumber digits) (more : List UInt8) :
    front (header ++ terminator ++ body ++ more) = .frame body more := by
  have hlong : ¬ (body ++ more).length < body.length := by
    rw [List.length_append]
    omega
  rw [List.append_assoc _ body]
  simp only [front, splitHeader?_eq_some_iff.mpr ⟨rfl, hends⟩,
    contentLength?_eq_some_iff.mpr hfirst, if_neg (Nat.not_lt_of_le hdigits), if_neg hlong,
    ← hsized, List.take_left, List.drop_left]

end Front

/-! ## Draining one segment -/

namespace Segment

/-- A complete segment is taken off the front, and its message goes out. -/
theorem drain_bytes_append {segment : Segment} (more : List UInt8)
    (h : segment.Readable nesting segment.bytes.length) :
    drain nesting (segment.bytes ++ more) =
      ((drain nesting more).1.map ((segment.message? nesting).toList ++ ·),
        (drain nesting more).2) := by
  cases segment with
  | stray header ends undeclared =>
    -- Nothing goes out for a header block without a length.
    rw [bytes, drain_of_malformed (front_stray ends undeclared more)]
    cases (drain nesting more) with
    | mk outcome left => cases outcome <;> rfl
  | frame header digits body ends declared sized =>
    have hdigits : digits.length ≤ Text.digitLimit := h.1 (by simp [bytes])
    have hbody : ReadableBody nesting body := h.2 (by simp [bytes])
    rw [bytes, message?]
    exact drain_of_frame (front_frame ends declared hdigits sized more)
      (decodeBody_of_readable hbody)

/-- A complete segment with too much of something makes draining fail. -/
theorem drain_bytes_append_error {segment : Segment} (more : List UInt8)
    (h : ¬ segment.Readable nesting segment.bytes.length) :
    ∃ what left, drain nesting (segment.bytes ++ more) = (.error what, left) := by
  cases segment with
  | stray header ends undeclared => exact absurd trivial h
  | frame header digits body ends declared sized =>
    rw [bytes]
    -- Too many digits are found before the body is looked at.
    by_cases hdigits : digits.length ≤ Text.digitLimit
    · have hbody : ¬ ReadableBody nesting body := fun hbody => h ⟨fun _ => hdigits, fun _ => hbody⟩
      obtain ⟨what, hwhat⟩ := decodeBody_of_not_readable hbody
      exact ⟨what, more, drain_of_excess (front_frame ends declared hdigits sized more) hwhat⟩
    · rw [List.append_assoc _ body]
      exact ⟨_, _, drain_of_oversized (front_oversized ends declared (Nat.lt_of_not_le hdigits) _)⟩

/-- A segment that is cut off waits for the rest of it. -/
theorem drain_take_bytes {segment : Segment} {n : Nat} (hn : n < segment.bytes.length)
    (h : segment.Readable nesting n) :
    drain nesting (segment.bytes.take n) = (.ok [], segment.bytes.take n) := by
  cases segment with
  | stray header ends undeclared => exact drain_of_incomplete (front_take_header ends hn)
  | frame header digits body ends declared sized =>
    apply drain_of_incomplete
    rw [bytes] at hn ⊢
    -- The cut is in the body, or in the header block or its terminator.
    by_cases hheader : (header ++ terminator).length ≤ n
    · rw [List.take_append, List.take_of_length_le hheader]
      refine front_short ends declared (h.1 hheader) ?_
      rw [← sized, List.length_take]
      rw [List.length_append] at hn
      omega
    · rw [List.take_append_of_le_length (by omega)]
      exact front_take_header ends (by omega)

/-- A segment that is cut off makes draining fail if its length has too many digits. -/
theorem drain_take_bytes_error {segment : Segment} {n : Nat} (hn : n < segment.bytes.length)
    (h : ¬ segment.Readable nesting n) :
    ∃ what left, drain nesting (segment.bytes.take n) = (.error what, left) := by
  cases segment with
  | stray header ends undeclared => exact absurd trivial h
  | frame header digits body ends declared sized =>
    rw [bytes] at hn ⊢
    -- The body is not complete, so it is the length that is in the way.
    have hheader : (header ++ terminator).length ≤ n ∧ ¬ digits.length ≤ Text.digitLimit := by
      by_contra hnot
      exact h ⟨fun hle => by_contra fun hdigits => hnot ⟨hle, hdigits⟩,
        fun hle => absurd hn (Nat.not_lt_of_le hle)⟩
    rw [List.take_append, List.take_of_length_le hheader.1]
    exact ⟨_, _, drain_of_oversized (front_oversized ends declared (Nat.lt_of_not_le hheader.2) _)⟩

end Segment

/-! ## Draining a stream that is cut off -/

theorem length_stream_cons (segment : Segment) (rest : List Segment) :
    (stream (segment :: rest)).length = segment.bytes.length + (stream rest).length := by
  rw [stream, List.flatMap_cons, List.length_append, stream]

theorem take_stream_cons {segment : Segment} {n : Nat} (rest : List Segment)
    (hn : segment.bytes.length ≤ n) :
    (stream (segment :: rest)).take n =
      segment.bytes ++ (stream rest).take (n - segment.bytes.length) := by
  rw [stream, List.flatMap_cons, List.take_append, List.take_of_length_le hn, stream]

theorem take_stream_cons_of_lt {segment : Segment} {n : Nat} (rest : List Segment)
    (hn : n < segment.bytes.length) :
    (stream (segment :: rest)).take n = segment.bytes.take n := by
  rw [stream, List.flatMap_cons, List.take_append_of_le_length (Nat.le_of_lt hn)]

/-- What a segment still needs to be readable when more of it than there is has come. -/
theorem Segment.Readable.of_length_le {segment : Segment} {n : Nat}
    (hn : segment.bytes.length ≤ n) :
    segment.Readable nesting n ↔ segment.Readable nesting segment.bytes.length := by
  cases segment with
  | stray => rfl
  | frame header digits body ends declared sized =>
    rw [bytes] at hn ⊢
    have hheader : (header ++ terminator).length ≤ (header ++ terminator ++ body).length := by simp
    simp only [Readable, hn, hheader, hheader.trans hn, Nat.le_refl, true_implies]

/-- The messages of the complete segments go out, and the bytes after them are left. -/
theorem drain_take_stream {segments : List Segment} {n : Nat}
    (h : ReadableWithin nesting n segments) :
    drain nesting ((stream segments).take n) =
      (.ok ((within n segments).filterMap (Segment.message? nesting)),
        ((stream segments).take n).drop (stream (within n segments)).length) := by
  -- Induction on the segments: a complete one is taken off, and the cut moves by its length.
  induction segments generalizing n with
  | nil => simp [stream, within, drain_of_incomplete (show front [] = .incomplete from rfl)]
  | cons segment rest ih =>
    obtain ⟨hsegment, hrest⟩ := h
    by_cases hn : segment.bytes.length ≤ n
    · have hmessages : (within n (segment :: rest)).filterMap (Segment.message? nesting) =
          (segment.message? nesting).toList ++
            (within (n - segment.bytes.length) rest).filterMap (Segment.message? nesting) := by
        rw [within, if_pos hn, List.filterMap_cons]
        cases segment.message? nesting <;> rfl
      have hleft : (stream (within n (segment :: rest))).length =
          segment.bytes.length + (stream (within (n - segment.bytes.length) rest)).length := by
        rw [within, if_pos hn, length_stream_cons]
      rw [take_stream_cons rest hn,
        segment.drain_bytes_append _ ((Segment.Readable.of_length_le hn).mp hsegment),
        ih (hrest hn), hmessages, hleft, ← List.drop_drop, List.drop_left]
      rfl
    · have hlt : n < segment.bytes.length := Nat.lt_of_not_le hn
      rw [take_stream_cons_of_lt rest hlt, segment.drain_take_bytes hlt hsegment, within,
        if_neg hn]
      rfl

/-- A segment with too much of something makes draining fail. -/
theorem drain_take_stream_error {segments : List Segment} {n : Nat}
    (h : ¬ ReadableWithin nesting n segments) :
    ∃ what left, drain nesting ((stream segments).take n) = (.error what, left) := by
  induction segments generalizing n with
  | nil => exact absurd trivial h
  | cons segment rest ih =>
    by_cases hn : segment.bytes.length ≤ n
    · rw [take_stream_cons rest hn]
      by_cases hsegment : segment.Readable nesting segment.bytes.length
      · obtain ⟨what, left, hrest⟩ := ih fun hrest =>
          h ⟨(Segment.Readable.of_length_le hn).mpr hsegment, fun _ => hrest⟩
        rw [segment.drain_bytes_append _ hsegment, hrest]
        exact ⟨what, left, rfl⟩
      · exact segment.drain_bytes_append_error _ hsegment
    · have hlt : n < segment.bytes.length := Nat.lt_of_not_le hn
      rw [take_stream_cons_of_lt rest hlt]
      exact segment.drain_take_bytes_error hlt fun hsegment =>
        h ⟨hsegment, fun hle => absurd hle hn⟩

/-! ## Draining a whole stream -/

theorem within_length_stream (segments : List Segment) :
    within (stream segments).length segments = segments := by
  induction segments with
  | nil => rfl
  | cons segment rest ih =>
    rw [within, length_stream_cons, if_pos (Nat.le_add_right _ _), Nat.add_sub_cancel_left, ih]

theorem readableWithin_length_stream (segments : List Segment) :
    ReadableWithin nesting (stream segments).length segments ↔
      ∀ segment ∈ segments, segment.Readable nesting segment.bytes.length := by
  induction segments with
  | nil => simp [ReadableWithin]
  | cons segment rest ih =>
    have hle : segment.bytes.length ≤ segment.bytes.length + (stream rest).length :=
      Nat.le_add_right _ _
    rw [ReadableWithin, length_stream_cons, Segment.Readable.of_length_le hle, Nat.add_sub_cancel_left, ih]
    simp only [hle, true_implies, List.forall_mem_cons]

/-- Of a whole stream all messages go out, and nothing is left. -/
theorem drain_stream {segments : List Segment}
    (h : ∀ segment ∈ segments, segment.Readable nesting segment.bytes.length) :
    drain nesting (stream segments) = (.ok (segments.filterMap (Segment.message? nesting)), []) := by
  have hdrain := drain_take_stream ((readableWithin_length_stream segments).mpr h)
  rwa [List.take_length, within_length_stream, List.drop_length] at hdrain

theorem drain_stream_error {segments : List Segment}
    (h : ¬ ∀ segment ∈ segments, segment.Readable nesting segment.bytes.length) :
    ∃ what left, drain nesting (stream segments) = (.error what, left) := by
  have hdrain := drain_take_stream_error (mt (readableWithin_length_stream segments).mp h)
  rwa [List.take_length] at hdrain

/-! ## Every cut of a stream -/

/-- Of a stream that is cut off after `n` bytes, a fresh decoder has handed out the messages of the
frames that are complete, in order, and keeps as many bytes as come after the last complete
segment, exactly if nothing that is complete has too much of something. -/
theorem feed_take_iff (nesting : Nat) (segments : List Segment) (n : Nat) :
    (({ nesting } : Decoder).feed ((stream segments).take n)).1 =
          .ok ((within n segments).filterMap (Segment.message? nesting)) ∧
        (({ nesting } : Decoder).feed ((stream segments).take n)).2.buffered =
          ((stream segments).take n).length - (stream (within n segments)).length ↔
      ReadableWithin nesting n segments := by
  constructor
  · rintro ⟨hmessages, -⟩
    by_contra h
    obtain ⟨what, left, hdrain⟩ := drain_take_stream_error h
    simp [Decoder.feed_eq, hdrain] at hmessages
  · intro h
    simp [Decoder.feed_eq, Decoder.buffered, drain_take_stream h]

/-! ## A frame that is not dropped -/

section Excess

variable {value : Value} {what : Json.Excess}

theorem message?_ofValue_of_excess (hplain : value.Plain)
    (hexcess : value.excess? nesting = some what) :
    (Segment.ofValue value).message? nesting = none := by
  rw [Segment.ofValue, Segment.message?, bodyMessage?_frameBody hplain, hexcess]
  rfl

theorem feed_ofValue_of_excess (hplain : value.Plain)
    (hexcess : value.excess? nesting = some what) (rest : List Segment) :
    ∃ what, (({ nesting } : Decoder).feed (stream (.ofValue value :: rest))).1 = .error what := by
  have hunreadable : ¬ ∀ segment ∈ Segment.ofValue value :: rest,
      segment.Readable nesting segment.bytes.length := by
    intro hall
    have hbody := (hall _ List.mem_cons_self).2 (Nat.le_refl _)
    rw [readableBody_frameBody hplain, hexcess] at hbody
    exact Option.some_ne_none _ hbody
  obtain ⟨what, left, hdrain⟩ := drain_stream_error hunreadable
  exact ⟨what, by simp [Decoder.feed_eq, hdrain]⟩

end Excess

theorem message?_ofValue_empty (nesting : Nat) :
    (Segment.ofValue (.object [])).message? (nesting + 1) = some [] := by
  rw [Segment.ofValue, Segment.message?, bodyMessage?_frameBody (by simp)]
  rfl

/-- A list that is nested too deeply is no message, and yet its frame is not dropped: the message of
the frame after it is lost. -/
theorem feed_nestedLists_ne :
    let decoder : Decoder := { nesting := 1000 }
    let segments : List Segment := [.ofValue (Json.nestedLists 3000), .ofValue (.object [])]
    let n := (stream segments).length
    (within n segments).filterMap (Segment.message? decoder.nesting) = [[]] ∧
      ¬ (decoder.feed ((stream segments).take n)).1 = .ok [[]] := by
  intro decoder segments n
  have hplain := Json.plain_nestedLists 3000
  have hexcess := Json.excess?_nestedLists (show 1000 ≤ 3000 by decide)
  constructor
  · rw [within_length_stream, List.filterMap_cons_none (message?_ofValue_of_excess hplain hexcess),
      List.filterMap_cons_some (message?_ofValue_empty _), List.filterMap_nil]
  · obtain ⟨what, herror⟩ := feed_ofValue_of_excess hplain hexcess [.ofValue (.object [])]
    rw [List.take_length, herror]
    simp

end BasiliskServer.Rpc
