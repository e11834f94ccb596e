import BasiliskServer.Proofs.Rpc.Correlation

/-!
# Ids that stand for requests

Our requests are numbered with integers, so that an answer whose id is anything else should be dropped.
It is, with one exception: the truth value that counts as one stands for the first request, as long as
that one is listed (`dropped_iff`).
-/

namespace BasiliskServer.Rpc

open Json (Value Fields)

variable {requests : Requests} {room : Room} {message : Fields} {value : Value}

namespace Requests

/-- A message without a method that has an id is taken for an answer. -/
theorem handle_of_unnamed (handlers : Handlers)
    (hunnamed : ∀ method, message.get? "method" ≠ some (.string method))
    (hvalue : message.get? "id" = some value) :
    requests.handle room handlers message = requests.settle room.spelling message := by
  unfold handle
  split
  · exact absurd ‹_› (hunnamed _)
  · exact absurd ‹_› (hunnamed _)
  · rfl
  · rename_i hnone _
    cases hvalue.symm.trans hnone

/-- A message with neither a method nor an id is dropped. -/
theorem handle_of_anonymous (handlers : Handlers)
    (hunnamed : ∀ method, message.get? "method" ≠ some (.string method))
    (hnone : message.get? "id" = none) : requests.handle room handlers message = (requests, .none) := by
  unfold handle
  split
  · exact absurd ‹_› (hunnamed _)
  · exact absurd ‹_› (hunnamed _)
  · rename_i hsome _
    cases hnone.symm.trans hsome
  · rfl

/-- An answer is dropped exactly if its id stands for no listed request. -/
theorem settle_eq_self_iff {spelling : Option Nat} (hvalue : message.get? "id" = some value) :
    requests.settle spelling message = (requests, .none) ↔ requests.resolve? value = none := by
  rw [settle, hvalue, Option.getD_some]
  cases hresolve : requests.resolve? value with
  | none => simp
  | some request =>
    refine iff_of_false (fun hsame => ?_) (Option.some_ne_none _)
    -- the request is listed before, and not afterwards
    have hmem := mem_of_resolve? hresolve
    have hlisted : request.listed = true := by
      simp only [resolve?, Option.bind_eq_bind, Option.bind_eq_some_iff] at hresolve
      obtain ⟨_, -, hfind⟩ := hresolve
      exact (List.mem_filter.mp (List.mem_of_find?_eq_some hfind)).2
    have hunlisted : ∀ other : Requests, other.unlist request.id = requests → False := by
      intro other hother
      rw [← hother, unlist, update] at hmem
      obtain ⟨old, -, heq⟩ := List.mem_map.mp hmem
      split at heq
      · rw [← heq] at hlisted
        cases hlisted
      · rename_i hne
        exact hne (congrArg Request.id heq)
    simp only at hsame
    split at hsame
    · split at hsame
      · exact hunlisted _ (congrArg Prod.fst hsame)
      · exact hunlisted _ (congrArg Prod.fst hsame)
    · exact hunlisted _ (congrArg Prod.fst hsame)

/-- Of all ids that are no integers only one stands for a request: the truth value that counts as one,
for the first. -/
theorem resolve?_eq_none_iff (hnumbered : requests.Numbered) (hvalue : ∀ n, value ≠ .int n) :
    requests.resolve? value = none ↔
      ¬ (value = .bool true ∧ ∃ request ∈ requests.pending, request.id = 1) := by
  have hpositive : ∀ request ∈ requests.pending, request.id ≠ 0 := by
    intro request hrequest hzero
    have hid : request.id ∈ requests.sent.map Request.id :=
      List.mem_map_of_mem (List.mem_of_mem_filter hrequest)
    rw [hnumbered.ids, List.mem_range'_1] at hid
    omega
  cases value with
  | int n => exact absurd rfl (hvalue n)
  | bool b =>
    cases b with
    | false =>
      have hnone : ∀ request ∈ requests.pending, ¬ (request.id : Int) = 0 := fun request hrequest hzero =>
        hpositive request hrequest (by omega)
      simpa [resolve?, Value.integer?] using hnone
    | true =>
      have hone : ∀ request : Request, (request.id : Int) = 1 ↔ request.id = 1 := fun request => by omega
      simp [resolve?, Value.integer?, hone]
  | _ => simp [resolve?, Value.integer?]

end Requests

/-- **Which answers are dropped.** In every state that a run leads to, a message that names no method
and whose id is no integer settles nothing and leaves the table as it is, unless its id is the truth
value that counts as one and the first request is listed. -/
theorem dropped_iff (handlers : Handlers) (events : List Event) (room : Room) (message : Fields)
    (hunnamed : ∀ method, message.get? "method" ≠ some (.string method))
    (hid : ∀ n, message.get? "id" ≠ some (.int n)) :
    (tableAfter handlers events).handle room handlers message =
        (tableAfter handlers events, .none) ↔
      ¬ (message.get? "id" = some (.bool true) ∧
        ∃ request ∈ (tableAfter handlers events).pending, request.id = 1) := by
  have hnumbered := numbered_tableAfter handlers events
  cases hvalue : message.get? "id" with
  | none =>
    rw [Requests.handle_of_anonymous handlers hunnamed hvalue]
    simp
  | some value =>
    rw [Requests.handle_of_unnamed handlers hunnamed hvalue, Requests.settle_eq_self_iff hvalue,
      Requests.resolve?_eq_none_iff hnumbered fun n heq => hid n (heq ▸ hvalue)]
    simp

/-- Two requests are under way, and the first has been answered. -/
def answeredFirst : List Event :=
  [.request (some 2) "first" .null, .request (some 2) "second" .null,
    .receive ⟨some 2, some 2⟩ [("id", .int 1), ("result", .null)]]

theorem dropped_iff_answeredFirst :
    (tableAfter defaultHandlers answeredFirst).pending.map Request.id = [2] ∧
      (tableAfter defaultHandlers answeredFirst).handle ⟨some 2, some 2⟩ defaultHandlers
          [("id", .bool true), ("result", .int 5)] =
        (tableAfter defaultHandlers answeredFirst, .none) := by
  have hpending : (tableAfter defaultHandlers answeredFirst).pending.map Request.id = [2] := by decide
  refine ⟨hpending, (dropped_iff defaultHandlers answeredFirst ⟨some 2, some 2⟩
    [("id", .bool true), ("result", .int 5)]
    (by simp [Fields.get?, List.lookup_cons]) (by simp [Fields.get?])).mpr ?_⟩
  rintro ⟨-, request, hrequest, hid⟩
  have hmem : (1 : Nat) ∈ (tableAfter defaultHandlers answeredFirst).pending.map Request.id :=
    hid ▸ List.mem_map_of_mem hrequest
  rw [hpending] at hmem
  cases List.mem_singleton.mp hmem

/-- A truth value settles the first request, although no request has it for its id. -/
theorem truth_settles_first :
    let asked := tableAfter defaultHandlers [.request (some 2) "first" .null]
    let answered :=
      asked.handle ⟨some 2, some 2⟩ defaultHandlers [("id", .bool true), ("result", .int 5)]
    asked.pending.map Request.id = [1] ∧ answered.1.pending.map Request.id = [] ∧
      answered.1.outcome? 1 = some (.ok (.int 5)) :=
  ⟨by decide, by decide, by rfl⟩

end BasiliskServer.Rpc
