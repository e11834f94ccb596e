import BasiliskServer.Proofs.Rpc.Header

/-!
# Slicing of the byte stream

What a decoder hands out does not depend on the pieces in which the bytes reach it. Bytes that
complete something at the front of the buffer complete the same thing when more bytes follow
(`front_append`), so draining a longer buffer is draining the shorter one first and going on with
what is left of it (`drain_append`). Hence feeding pieces one after the other is feeding their
concatenation (`feedAll_eq_feed_flatten`).

Nothing here looks into a body: the statements hold for every byte string, well-formed or not.
-/

namespace BasiliskServer.Rpc

open Json (Fields)

/-! ## What stands at the front of a longer buffer -/

/-- What stands at the front when more bytes follow. -/
def Front.extend (more : List UInt8) : Front → Front
  | .incomplete => .incomplete
  | .malformed rest => .malformed (rest ++ more)
  | .oversized digits => .oversized digits
  | .frame body rest => .frame body (rest ++ more)

/-- Bytes that complete something at the front complete the same when more follow. -/
theorem front_append {bytes : List UInt8} (more : List UInt8) (h : front bytes ≠ .incomplete) :
    front (bytes ++ more) = (front bytes).extend more := by
  cases hsplit : splitHeader? bytes with
  | none => simp [front, hsplit] at h
  | some parts =>
    obtain ⟨header, after⟩ := parts
    simp only [front, hsplit, splitHeader?_append more hsplit] at h ⊢
    cases hlength : contentLength? header with
    | none => simp [Front.extend]
    | some digits =>
      simp only [hlength] at h ⊢
      split
      · simp [Front.extend]
      · rename_i hlimit
        rw [if_neg hlimit] at h
        -- A body that is complete is cut off before the bytes that follow.
        by_cases hshort : after.length < digitsNumber digits
        · simp [hshort] at h
        · have hle : digitsNumber digits ≤ after.length := Nat.le_of_not_lt hshort
          have hle' : ¬ (after ++ more).length < digitsNumber digits := by
            rw [List.length_append]
            omega
          rw [if_neg hshort, if_neg hle', List.take_append_of_le_length hle,
            List.drop_append_of_le_length hle, Front.extend]

/-! ## Draining in two goes -/

variable {nesting : Nat}

theorem drain_of_incomplete {bytes : List UInt8} (h : front bytes = .incomplete) :
    drain nesting bytes = (.ok [], bytes) := by
  rw [drain]
  split <;> simp_all

theorem drain_of_malformed {bytes rest : List UInt8} (h : front bytes = .malformed rest) :
    drain nesting bytes = drain nesting rest := by
  rw [drain]
  split <;> simp_all

theorem drain_of_oversized {bytes : List UInt8} {digits : Nat}
    (h : front bytes = .oversized digits) :
    drain nesting bytes = (.error (.digits digits), bytes) := by
  rw [drain]
  split <;> simp_all

theorem drain_of_frame {bytes body rest : List UInt8} {message : Option Fields}
    (h : front bytes = .frame body rest) (hbody : decodeBody nesting body = .ok message) :
    drain nesting bytes =
      ((drain nesting rest).1.map (message.toList ++ ·), (drain nesting rest).2) := by
  rw [drain]
  split <;> simp_all

theorem drain_of_excess {bytes body rest : List UInt8} {what : Json.Excess}
    (h : front bytes = .frame body rest) (hbody : decodeBody nesting body = .error what) :
    drain nesting bytes = (.error what, rest) := by
  rw [drain]
  split <;> simp_all

theorem map_append_map_append (result : Except Json.Excess (List Fields))
    (first second : List Fields) :
    (result.map (second ++ ·)).map (first ++ ·) = result.map (first ++ second ++ ·) := by
  cases result with
  | error what => rfl
  | ok messages => simp [Except.map]

/-- What draining makes of `bytes` when `more` follows, given the outcome on `bytes` alone: a
failure stays, otherwise draining goes on with what was left. -/
def resume (nesting : Nat) (more : List UInt8) :
    Except Json.Excess (List Fields) × List UInt8 → Except Json.Excess (List Fields) × List UInt8
  | (.error what, left) => (.error what, left ++ more)
  | (.ok messages, left) =>
    ((drain nesting (left ++ more)).1.map (messages ++ ·), (drain nesting (left ++ more)).2)

/-- Draining a longer buffer is draining the shorter one and going on with what is left. -/
theorem drain_append (bytes more : List UInt8) :
    drain nesting (bytes ++ more) = resume nesting more (drain nesting bytes) := by
  -- Induction on the buffer: each complete front leaves a shorter one.
  induction hn : bytes.length using Nat.strongRecOn generalizing bytes with
  | ind n ih =>
    subst hn
    cases hfront : front bytes with
    | incomplete =>
      rw [drain_of_incomplete hfront, resume]
      cases hdrain : (drain nesting (bytes ++ more)).1 <;> simp [Except.map, Prod.ext_iff, hdrain]
    | malformed rest =>
      have hmore : front (bytes ++ more) = .malformed (rest ++ more) := by
        rw [front_append more (by simp [hfront]), hfront, Front.extend]
      rw [drain_of_malformed hfront, drain_of_malformed hmore]
      exact ih _ (front_malformed_length hfront) rest rfl
    | oversized digits =>
      have hmore : front (bytes ++ more) = .oversized digits := by
        rw [front_append more (by simp [hfront]), hfront, Front.extend]
      rw [drain_of_oversized hfront, drain_of_oversized hmore, resume]
    | frame body rest =>
      have hmore : front (bytes ++ more) = .frame body (rest ++ more) := by
        rw [front_append more (by simp [hfront]), hfront, Front.extend]
      cases hbody : decodeBody nesting body with
      | error what => rw [drain_of_excess hfront hbody, drain_of_excess hmore hbody, resume]
      | ok message =>
        rw [drain_of_frame hfront hbody, drain_of_frame hmore hbody,
          ih _ (front_frame_length hfront) rest rfl]
        obtain ⟨outcome, left⟩ := drain nesting rest
        cases outcome with
        | error what => rfl
        | ok messages =>
          simp only [resume, map_append_map_append]
          rfl

/-- Nothing complete is left after draining. -/
theorem front_of_drain_ok {bytes left : List UInt8} {messages : List Fields}
    (h : drain nesting bytes = (.ok messages, left)) : front left = .incomplete := by
  -- Induction on the buffer again: what is left is left of a shorter buffer.
  induction hn : bytes.length using Nat.strongRecOn generalizing bytes messages with
  | ind n ih =>
    subst hn
    cases hfront : front bytes with
    | incomplete =>
      rw [drain_of_incomplete hfront, Prod.mk.injEq] at h
      rw [← h.2, hfront]
    | malformed rest =>
      rw [drain_of_malformed hfront] at h
      exact ih _ (front_malformed_length hfront) h rfl
    | oversized digits =>
      rw [drain_of_oversized hfront] at h
      simp at h
    | frame body rest =>
      cases hbody : decodeBody nesting body with
      | error what => simp [drain_of_excess hfront hbody] at h
      | ok message =>
        rw [drain_of_frame hfront hbody, Prod.mk.injEq] at h
        cases hrest : (drain nesting rest).1 with
        | error what => simp [hrest, Except.map] at h
        | ok more => exact ih _ (front_frame_length hfront) (Prod.ext hrest h.2) rfl

/-! ## Feeding piece by piece -/

namespace Decoder

theorem feed_eq (decoder : Decoder) (chunk : List UInt8) :
    decoder.feed chunk =
      ((drain decoder.nesting (decoder.buffer ++ chunk)).1,
        { decoder with buffer := (drain decoder.nesting (decoder.buffer ++ chunk)).2 }) := rfl

/-- Feeding pieces to a decoder that has nothing complete in its buffer, compared with feeding
their concatenation. The `unread` pieces are those after the one that made the decoder fail. -/
theorem feedAll_of_incomplete (decoder : Decoder) (chunks : List (List UInt8))
    (h : front decoder.buffer = .incomplete) :
    ∃ unread, unread <:+ chunks ∧
      (decoder.feedAll chunks).1 = (decoder.feed chunks.flatten).1 ∧
      (decoder.feedAll chunks).2.buffer ++ unread.flatten =
        (decoder.feed chunks.flatten).2.buffer ∧
      (unread = [] ∨ ∃ what, (decoder.feed chunks.flatten).1 = .error what) := by
  induction chunks generalizing decoder with
  | nil =>
    refine ⟨[], List.nil_suffix, ?_⟩
    simp [feedAll, feed_eq, drain_of_incomplete h]
  | cons chunk rest ih =>
    -- The concatenation is drained up to the end of the first piece, then as the rest is.
    rw [List.flatten_cons, feed_eq, ← List.append_assoc, drain_append, feedAll, feed_eq]
    cases hdrain : drain decoder.nesting (decoder.buffer ++ chunk) with
    | mk outcome left =>
      cases outcome with
      | error what => exact ⟨rest, List.suffix_cons _ _, by simp [resume]⟩
      | ok messages =>
        obtain ⟨unread, hsuffix, houtcome, hbuffer, hunread⟩ :=
          ih { decoder with buffer := left } (front_of_drain_ok hdrain)
        refine ⟨unread, hsuffix.trans (List.suffix_cons _ _), ?_, hbuffer, ?_⟩
        · simp only [houtcome, resume, feed_eq]
        · refine hunread.imp_right ?_
          rintro ⟨what, hwhat⟩
          exact ⟨what, by simp_all [resume, feed_eq, Except.map]⟩

/-- However a byte string is cut into pieces, a fresh decoder hands out the same messages and keeps
the same bytes as when it is fed in one go. Where a frame has too much of something, both ways fail
alike, and the bytes kept differ by the pieces that were not fed any more. -/
theorem feedAll_eq_feed_flatten (nesting : Nat) (chunks : List (List UInt8)) :
    let fresh : Decoder := { nesting }
    (fresh.feedAll chunks).1 = (fresh.feed chunks.flatten).1 ∧
      (∀ messages, (fresh.feed chunks.flatten).1 = .ok messages →
        (fresh.feedAll chunks).2.buffer = (fresh.feed chunks.flatten).2.buffer) ∧
      ∀ what, (fresh.feed chunks.flatten).1 = .error what →
        ∃ unread, unread <:+ chunks ∧ (fresh.feedAll chunks).2.buffer ++ unread.flatten =
          (fresh.feed chunks.flatten).2.buffer := by
  intro fresh
  obtain ⟨unread, hsuffix, houtcome, hbuffer, hunread⟩ := feedAll_of_incomplete fresh chunks rfl
  refine ⟨houtcome, fun messages hok => ?_, fun _ _ => ⟨unread, hsuffix, hbuffer⟩⟩
  obtain rfl | ⟨what, herror⟩ := hunread
  · rwa [List.flatten_nil, List.append_nil] at hbuffer
  · exact nomatch herror.symm.trans hok

end Decoder

end BasiliskServer.Rpc
