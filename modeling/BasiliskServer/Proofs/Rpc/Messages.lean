import BasiliskServer.Proofs.Rpc.Resynchronisation

/-!
# The messages in a byte stream

What a byte stream says does not depend on what a decoder can take: the messages of the complete
frames, where a body that is no message brings nothing, whatever is wrong with it. A decoder that
does not fail hands out just these (`messagesIn_of_drain`), and one that fails later has handed out
the first of them (`messagesIn_append_of_drain`).
-/

namespace BasiliskServer.Rpc

open Json (Fields)

/-- The messages in a byte stream. -/
def messagesIn (nesting : Nat) (bytes : List UInt8) : List Fields :=
  match _h : splitHeader? bytes with
  | none => []
  | some (header, after) =>
    match contentLength? header with
    | none => messagesIn nesting after
    | some digits =>
      if after.length < digitsNumber digits then []
      else
        (bodyMessage? nesting (after.take (digitsNumber digits))).toList ++
          messagesIn nesting (after.drop (digitsNumber digits))
termination_by bytes.length
decreasing_by
  · exact splitHeader?_length ‹_›
  · exact Nat.lt_of_le_of_lt (List.length_drop ▸ Nat.sub_le _ _) (splitHeader?_length ‹_›)

section Front

variable {nesting : Nat} {bytes body rest : List UInt8}

theorem messagesIn_of_incomplete (h : front bytes = .incomplete) : messagesIn nesting bytes = [] := by
  unfold front at h
  rw [messagesIn]
  -- Either there is no complete header block, or the body is not complete.
  split at h
  · rename_i hsplit
    split <;> simp_all
  · rename_i header after hsplit
    split at h
    · simp at h
    · rename_i digits hlength
      split at h
      · simp at h
      · split at h
        · rename_i hshort
          split <;> simp_all
        · simp at h

theorem messagesIn_of_malformed (h : front bytes = .malformed rest) :
    messagesIn nesting bytes = messagesIn nesting rest := by
  unfold front at h
  rw [messagesIn]
  split at h
  · simp at h
  · rename_i header after hsplit
    split at h
    · split <;> simp_all
    · split at h
      · simp at h
      · split at h <;> simp at h

theorem messagesIn_of_frame (h : front bytes = .frame body rest) :
    messagesIn nesting bytes = (bodyMessage? nesting body).toList ++ messagesIn nesting rest := by
  unfold front at h
  rw [messagesIn]
  split at h
  · simp at h
  · rename_i header after hsplit
    split at h
    · simp at h
    · rename_i digits hlength
      split at h
      · simp at h
      · split at h
        · simp at h
        · rename_i hlong
          obtain ⟨rfl, rfl⟩ := Front.frame.inj h
          split
          · simp_all
          · rename_i heq
            obtain ⟨rfl, rfl⟩ := Prod.mk.inj (Option.some.inj (hsplit.symm.trans heq))
            simp only [hlength, if_neg hlong]

end Front

variable {nesting : Nat}

/-- A body that does not make the decoder fail brings what it says. -/
theorem bodyMessage?_of_decodeBody {body : List UInt8} {message : Option Fields}
    (h : decodeBody nesting body = .ok message) : bodyMessage? nesting body = message := by
  by_cases hreadable : ReadableBody nesting body
  · rw [decodeBody_of_readable hreadable] at h
    exact Except.ok.inj h
  · obtain ⟨what, hwhat⟩ := decodeBody_of_not_readable hreadable
    rw [hwhat] at h
    cases h

/-- What was handed out without a failure comes first in the stream, whatever follows. -/
theorem messagesIn_append_of_drain {bytes left : List UInt8} {messages : List Fields}
    (h : drain nesting bytes = (.ok messages, left)) (more : List UInt8) :
    messagesIn nesting (bytes ++ more) = messages ++ messagesIn nesting (left ++ more) := by
  -- Induction on the buffer: each complete front leaves a shorter one.
  induction hn : bytes.length using Nat.strongRecOn generalizing bytes messages with
  | ind n ih =>
    subst hn
    cases hfront : front bytes with
    | incomplete =>
      rw [drain_of_incomplete hfront, Prod.mk.injEq, Except.ok.injEq] at h
      obtain ⟨rfl, rfl⟩ := h
      rfl
    | malformed rest =>
      have hmore : front (bytes ++ more) = .malformed (rest ++ more) := by
        rw [front_append more (by simp [hfront]), hfront, Front.extend]
      rw [drain_of_malformed hfront] at h
      rw [messagesIn_of_malformed hmore]
      exact ih _ (front_malformed_length hfront) h rfl
    | oversized digits =>
      rw [drain_of_oversized hfront] at h
      simp at h
    | frame body rest =>
      have hmore : front (bytes ++ more) = .frame body (rest ++ more) := by
        rw [front_append more (by simp [hfront]), hfront, Front.extend]
      cases hbody : decodeBody nesting body with
      | error what => simp [drain_of_excess hfront hbody] at h
      | ok message =>
        rw [drain_of_frame hfront hbody, Prod.mk.injEq] at h
        obtain ⟨hmessages, rfl⟩ := h
        cases hrest : (drain nesting rest).1 with
        | error what => simp [hrest, Except.map] at hmessages
        | ok others =>
          rw [hrest] at hmessages
          obtain rfl : message.toList ++ others = messages := Except.ok.inj hmessages
          rw [messagesIn_of_frame hmore, bodyMessage?_of_decodeBody hbody,
            ih _ (front_frame_length hfront) (Prod.ext hrest rfl) rfl, List.append_assoc]

/-- A decoder that does not fail hands out the messages in the stream. -/
theorem messagesIn_of_drain {bytes left : List UInt8} {messages : List Fields}
    (h : drain nesting bytes = (.ok messages, left)) : messagesIn nesting bytes = messages := by
  have hsplit := messagesIn_append_of_drain h []
  rwa [List.append_nil, List.append_nil, messagesIn_of_incomplete (front_of_drain_ok h),
    List.append_nil] at hsplit

/-- Once a decoder has failed, more bytes do not mend it. -/
theorem drain_append_error {bytes : List UInt8} {what : Json.Excess}
    (h : (drain nesting bytes).1 = .error what) (more : List UInt8) :
    (drain nesting (bytes ++ more)).1 = .error what := by
  cases hdrain : drain nesting bytes with
  | mk outcome left =>
    rw [hdrain] at h
    obtain rfl : outcome = .error what := h
    rw [drain_append, hdrain, resume]

end BasiliskServer.Rpc
