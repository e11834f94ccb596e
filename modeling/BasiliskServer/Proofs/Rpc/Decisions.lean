import BasiliskServer.Proofs.Rpc.Correlation

/-!
# What becomes of requests

What the elementary actions on a table of requests do to the outcomes found in it: sending a request
decides nothing, taking one off the list decides at most that one, and a message of the peer decides
the request that it answers (`handle_cases`).
-/

namespace BasiliskServer.Rpc.Requests

open Json (Value Fields)

variable {requests : Requests}

/-- A request that was just sent is undecided. -/
theorem outcome?_request (requests : Requests) (method : String) (id : Nat) :
    (requests.request method).outcome? id = requests.outcome? id := by
  simp only [outcome?, get?, request, List.find?_append]
  cases requests.sent.find? (·.id = id) with
  | some request => rfl
  | none =>
    rw [Option.none_or, List.find?_singleton]
    split <;> rfl

theorem id_of_getElem? (hvalid : requests.Valid) {i : Nat} {request : Request}
    (h : requests.sent[i]? = some request) : request.id = i + 1 := by
  have hid : (requests.sent.map Request.id)[i]? = some request.id := by simp [h]
  have hlt := (List.getElem?_eq_some_iff.1 h).1
  rw [hvalid.ids, List.getElem?_range' hlt] at hid
  have := Option.some.inj hid
  omega

/-- What became of a request is found under its number. -/
theorem outcome?_of_getElem? (hvalid : requests.Valid) {i : Nat} {request : Request}
    (h : requests.sent[i]? = some request) : requests.outcome? (i + 1) = request.outcome := by
  have hget : requests.get? (i + 1) = some request :=
    hvalid.get?_eq_some_iff.2 ⟨List.mem_of_getElem? h, id_of_getElem? hvalid h⟩
  rw [outcome?, hget]
  rfl

/-- Only a request that was sent can have been decided. -/
theorem le_of_outcome? (hvalid : requests.Valid) {id : Nat} {outcome : Outcome}
    (h : requests.outcome? id = some outcome) : 0 < id ∧ id ≤ requests.sent.length := by
  rw [outcome?] at h
  obtain ⟨request, hget, -⟩ := Option.bind_eq_some_iff.1 h
  obtain ⟨hmem, rfl⟩ := hvalid.get?_eq_some_iff.1 hget
  obtain ⟨i, hi⟩ := List.mem_iff_getElem?.1 hmem
  have hid := id_of_getElem? hvalid hi
  have hlt := (List.getElem?_eq_some_iff.1 hi).1
  omega

/-- A number that is too large stands for no request. -/
theorem outcome?_of_length_lt (hvalid : requests.Valid) {id : Nat} (h : requests.sent.length < id) :
    requests.outcome? id = none :=
  Option.eq_none_iff_forall_ne_some.2 fun _ hsome => Nat.not_lt.2 (le_of_outcome? hvalid hsome).2 h

/-- Changing a request changes what is found under its number only. -/
theorem get?_update (requests : Requests) (id : Nat) (change : Request → Request)
    (hid : ∀ request, (change request).id = request.id) (other : Nat) :
    (requests.update id change).get? other =
      (requests.get? other).map fun request => if request.id = id then change request else request := by
  obtain ⟨sent⟩ := requests
  simp only [get?, update]
  induction sent with
  | nil => rfl
  | cons request rest ih =>
    have hsame : (if request.id = id then change request else request).id = request.id := by
      split <;> simp [hid]
    rw [List.map_cons, List.find?_cons, List.find?_cons, hsame]
    split
    · rfl
    · exact ih

theorem outcome?_unlist (requests : Requests) (id other : Nat) :
    (requests.unlist id).outcome? other = requests.outcome? other := by
  have hget := get?_update requests id (fun request => { request with listed := false })
    (fun _ => rfl) other
  rw [outcome?, unlist, hget, outcome?]
  cases requests.get? other with
  | none => rfl
  | some request =>
    rw [Option.map_some, Option.bind_some, Option.bind_some]
    split <;> rfl

theorem outcome?_decide (requests : Requests) (id : Nat) (outcome : Outcome) (other : Nat) :
    (requests.decide id outcome).outcome? other =
      if other = id then (requests.get? id).bind fun request => request.outcome.or (some outcome)
      else requests.outcome? other := by
  have hget := get?_update requests id
    (fun request => if request.undecided then { request with outcome := some outcome } else request)
    (fun request => by split <;> rfl) other
  rw [outcome?, decide, hget]
  split
  · rename_i heq
    subst heq
    cases hrequest : requests.get? other with
    | none => rfl
    | some request =>
      have hid : request.id = other := by
        simpa using List.find?_some hrequest
      rw [Option.map_some, Option.bind_some, Option.bind_some, if_pos hid, Request.decide_eq]
  · rename_i hne
    rw [outcome?]
    cases hrequest : requests.get? other with
    | none => rfl
    | some request =>
      have hid : request.id = other := by
        simpa using List.find?_some hrequest
      rw [Option.map_some, Option.bind_some, Option.bind_some, if_neg (hid ▸ hne)]

/-- What fails with an answer is a refusal of the peer. -/
theorem peer_of_outcomeOf {spelling : Option Nat} {message : Fields} {method : String}
    {failure : Failure} (h : outcomeOf spelling message method = .ok (.error failure)) :
    ∃ fault, failure = .peer fault := by
  unfold outcomeOf at h
  split at h
  · cases h
  · cases h
  · rename_i error _ _
    cases hfault : peerFault spelling error method with
    | error what => exact nomatch hfault ▸ h
    | ok fault =>
      rw [hfault] at h
      exact ⟨fault, (Except.error.inj (Except.ok.inj h)).symm⟩

/-- Where nothing is refused, every answer gives an outcome. -/
theorem spelled_receive (writing : Option Nat) (message : Fields) :
    (Event.receive { writing } message).Spelled := by
  intro method
  have htext (value : Value) : ∃ text, value.textWithin none = .ok text := by
    cases value <;> exact ⟨_, rfl⟩
  show ∃ outcome, outcomeOf none message method = .ok outcome
  unfold outcomeOf
  split
  · exact ⟨_, rfl⟩
  · exact ⟨_, rfl⟩
  · rename_i error _ _
    obtain ⟨text, htext⟩ : ∃ text, refusalText none error method = .ok text := by
      unfold refusalText
      split
      · simp only
        split
        · exact ⟨_, rfl⟩
        · exact htext _
      · exact htext _
    rw [peerFault, htext]
    exact ⟨_, rfl⟩

/-- What a message of the peer decides: one request that was undecided, with a value or because the
peer refused it, or none. -/
theorem handle_cases (hvalid : requests.Valid) (room : Room) (handlers : Handlers)
    (message : Fields) :
    (∃ id outcome, (requests.handle room handlers message).2 = .decided id outcome ∧
        requests.outcome? id = none ∧
        (requests.handle room handlers message).1.outcome? id = some outcome ∧
        (∀ other, other ≠ id →
          (requests.handle room handlers message).1.outcome? other = requests.outcome? other) ∧
        ∀ failure, outcome = .error failure → ∃ fault, failure = .peer fault) ∨
      (∀ id outcome, (requests.handle room handlers message).2 ≠ .decided id outcome) ∧
        ∀ id, (requests.handle room handlers message).1.outcome? id = requests.outcome? id := by
  -- Of the ways to handle a message only the settling of an answer changes an outcome.
  have hsettle : ∀ message : Fields,
      (∃ id outcome, (requests.settle room.spelling message).2 = .decided id outcome ∧
        requests.outcome? id = none ∧
        (requests.settle room.spelling message).1.outcome? id = some outcome ∧
        (∀ other, other ≠ id → (requests.settle room.spelling message).1.outcome? other =
          requests.outcome? other) ∧
        ∀ failure, outcome = .error failure → ∃ fault, failure = .peer fault) ∨
      (∀ id outcome, (requests.settle room.spelling message).2 ≠ .decided id outcome) ∧
        ∀ id, (requests.settle room.spelling message).1.outcome? id = requests.outcome? id := by
    intro message
    unfold settle
    split
    · exact .inr ⟨fun _ _ h => (by cases h), fun _ => rfl⟩
    · rename_i request hresolve
      have hget : requests.get? request.id = some request :=
        hvalid.get?_eq_some_iff.2 ⟨mem_of_resolve? hresolve, rfl⟩
      split
      · rename_i hundecided
        rw [Request.undecided_iff] at hundecided
        split
        · rename_i outcome houtcome
          refine .inl ⟨request.id, outcome, rfl, ?_, ?_, fun other hne => ?_, fun failure hf => ?_⟩
          · rw [outcome?, hget]
            exact hundecided
          · rw [outcome?_unlist, outcome?_decide, if_pos rfl, hget, Option.bind_some, hundecided]
            rfl
          · rw [outcome?_unlist, outcome?_decide, if_neg hne]
          · exact peer_of_outcomeOf (hf ▸ houtcome)
        · exact .inr ⟨fun _ _ h => (by cases h), fun id => outcome?_unlist _ _ _⟩
      · exact .inr ⟨fun _ _ h => (by cases h), fun id => outcome?_unlist _ _ _⟩
  unfold handle
  simp only
  split
  · refine .inr ⟨fun _ _ h => ?_, fun _ => rfl⟩
    unfold answer at h
    simp only at h
    split at h <;> cases h
  · exact .inr ⟨fun _ _ h => (by cases h), fun _ => rfl⟩
  · exact hsettle message
  · exact .inr ⟨fun _ _ h => (by cases h), fun _ => rfl⟩

/-- A table of requests that has moved on: nothing was sent, and what was decided is. -/
structure Advances (requests next : Requests) : Prop where
  /-- The table is still valid. -/
  valid : next.Valid
  /-- Nothing was sent. -/
  length : next.sent.length = requests.sent.length
  /-- What was decided is decided. -/
  outcomes : ∀ id outcome, requests.outcome? id = some outcome → next.outcome? id = some outcome

theorem Advances.step {requests : Requests} (hvalid : requests.Valid) (handlers : Handlers)
    {event : Event} (hspelled : event.Spelled) (hissued : event.issued requests.nextId = []) :
    Advances requests (requests.step handlers event).1 where
  valid := valid_step hvalid handlers hspelled
  length := by rw [length_step, hissued]; rfl
  outcomes := by
    intro id outcome ho
    obtain ⟨request, hrequest, ho⟩ := Option.bind_eq_some_iff.1 ho
    obtain ⟨next, hnext, hevolves⟩ := get?_step hvalid hrequest handlers hspelled
    exact Option.bind_eq_some_iff.2 ⟨next, hnext, hevolves.kept outcome ho⟩

theorem Advances.refl {requests : Requests} (hvalid : requests.Valid) :
    Advances requests requests :=
  ⟨hvalid, rfl, fun _ _ h => h⟩

/-- A request that is taken off its list is decided from then on, and others are not touched. -/
theorem advances_forget (hvalid : requests.Valid) (id : Nat) :
    Advances requests ((requests.cancel id).unlist id) := by
  have hcancel : Advances requests (requests.cancel id) :=
    Advances.step hvalid defaultHandlers (Event.spelled_cancel id) rfl
  refine ⟨⟨⟨?_⟩, ?_⟩, ?_, fun other outcome ho => ?_⟩
  · rw [map_id_unlist, hcancel.valid.ids]
    simp [unlist, update]
  · intro request hmem hundecided
    -- the one that is taken off the list is decided
    obtain ⟨old, hold, rfl⟩ := List.mem_map.1 hmem
    by_cases heq : old.id = id
    · rw [if_pos heq] at hundecided
      have hget : (requests.cancel id).get? id = some old :=
        hcancel.valid.get?_eq_some_iff.2 ⟨hold, heq⟩
      have hfound : (requests.cancel id).outcome? id = old.outcome := by
        rw [outcome?, hget]
        rfl
      rw [cancel, outcome?_decide, if_pos rfl, show old.outcome = none from hundecided,
        Option.bind_eq_none_iff] at hfound
      cases hrequest : requests.get? id with
      | none =>
        rw [cancel, decide, get?_update _ _ _ (by intro; split <;> rfl),
          hrequest] at hget
        cases hget
      | some request => simpa using hfound request hrequest
    · rw [if_neg heq] at hundecided ⊢
      exact hcancel.valid.listed old hold hundecided
  · rw [← hcancel.length]
    simp [unlist, update]
  · rw [outcome?_unlist]
    exact hcancel.outcomes other outcome ho

/-- All requests are decided when they are rejected. -/
theorem isSome_rejectAll (hvalid : requests.Valid) (failure : Failure) {i : Nat}
    (hi : i < requests.sent.length) : ((requests.rejectAll failure).outcome? (i + 1)).isSome := by
  have hrejected : Advances requests (requests.rejectAll failure) :=
    Advances.step hvalid defaultHandlers (Event.spelled_rejectAll failure) rfl
  have hrequest : requests.sent[i]? = some requests.sent[i] := List.getElem?_eq_getElem hi
  have hlisted := hvalid.listed requests.sent[i] (List.mem_of_getElem? hrequest)
  have hnext : (requests.rejectAll failure).sent[i]? =
      some (if requests.sent[i].listed && requests.sent[i].undecided then
        { requests.sent[i] with outcome := some (.error failure), listed := false }
      else { requests.sent[i] with listed := false }) := by
    simp [rejectAll, hrequest]
  rw [outcome?_of_getElem? hrejected.valid hnext]
  split
  · rfl
  · rename_i hnot
    simp only
    cases houtcome : requests.sent[i].outcome with
    | some outcome => rfl
    | none => simp [hlisted houtcome, Request.undecided, houtcome] at hnot

end BasiliskServer.Rpc.Requests
