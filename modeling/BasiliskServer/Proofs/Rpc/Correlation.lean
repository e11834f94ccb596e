import BasiliskServer.Proofs.Rpc.RoundTrip
import BasiliskServer.Rpc.Requests
import Mathlib.Data.List.Nodup

/-!
# Requests and their answers

Over every run of one side of a connection, whatever the order of its events:

* the `n`-th request gets the number `n`, and goes out with it if it can be written,
* its outcome is what the first event that decides it says (`Decides`, `DecidedBy`), and it never
  changes afterwards,
* once every decided request has been noticed in a later turn (`Noticed`), exactly the undecided
  requests are listed, in the order in which they were sent,
* giving all requests up counts the undecided ones.

Everything follows from what one event does to one request (`Evolves`, `exists_change`) and from an
invariant of the table (`Requests.Valid`). Half of the invariant holds in any case: requests are
numbered in order (`Requests.Numbered`). The other half, that undecided requests are listed, is lost
with a refusal that cannot be spelled (`settle_of_unspelled`), so that the runs considered here have
none (`Event.Spelled`).
-/

namespace BasiliskServer.Rpc

open Json (Value Fields)

/-! ## What decides a request -/

/-- A message answers the request with a number: it names no method, and the table finds the request
under the id that it gives. -/
structure Requests.Answers (requests : Requests) (message : Fields) (id : Nat) : Prop where
  /-- A message with a method is a request or a notification of the peer. -/
  unnamed : ∀ method, message.get? "method" ≠ some (.string method)
  /-- The id stands for the request. -/
  resolved : ∃ value request, message.get? "id" = some value ∧
    requests.resolve? value = some request ∧ request.id = id

/-- What decides the request with a number and a method, and how. -/
inductive Decides (requests : Requests) (id : Nat) (method : String) : Event → Outcome → Prop
  /-- An answer without an error gives its result, null if it has none. -/
  | result {room : Room} {message : Fields} : requests.Answers message id →
      (∀ error, message.get? "error" = some error → error = .null) →
      Decides requests id method (.receive room message) (.ok ((message.get? "result").getD .null))
  /-- An answer with an error is a refusal of the method, if it can be spelled. -/
  | refusal {room : Room} {message : Fields} {error : Value} {fault : PeerFault} :
      requests.Answers message id → message.get? "error" = some error → error ≠ .null →
      peerFault room.spelling error method = .ok fault →
      Decides requests id method (.receive room message) (.error (.peer fault))
  /-- The caller gives the request up. -/
  | cancel : Decides requests id method (.cancel id) (.error .cancelled)
  /-- All requests are given up. -/
  | rejectAll (failure : Failure) :
      Decides requests id method (.rejectAll failure) (.error failure)

/-- The first of a run of events that decides the request with a number and a method gives it an
outcome. -/
inductive DecidedBy (handlers : Handlers) (id : Nat) (method : String) :
    Requests → List Event → Outcome → Prop
  /-- It is the first event. -/
  | here {requests : Requests} {event : Event} {outcome : Outcome} (rest : List Event) :
      Decides requests id method event outcome →
      DecidedBy handlers id method requests (event :: rest) outcome
  /-- The first event does not decide the request, and it is one of the others. -/
  | later {requests : Requests} {event : Event} {rest : List Event} {outcome : Outcome} :
      (∀ other, ¬ Decides requests id method event other) →
      DecidedBy handlers id method (requests.step handlers event).1 rest outcome →
      DecidedBy handlers id method requests (event :: rest) outcome

/-- A refusal that an event brings can be spelled. -/
def Event.Spelled : Event → Prop
  | .receive room message => ∀ method, ∃ outcome, outcomeOf room.spelling message method = .ok outcome
  | _ => True

theorem Event.spelled_request (writing : Option Nat) (method : String) (params : Value) :
    (Event.request writing method params).Spelled :=
  trivial

theorem Event.spelled_cancel (id : Nat) : (Event.cancel id).Spelled :=
  trivial

theorem Event.spelled_rejectAll (failure : Failure) : (Event.rejectAll failure).Spelled :=
  trivial

theorem Event.spelled_turn : Event.turn.Spelled :=
  trivial

theorem peerFault_method {spelling : Option Nat} {error : Value} {method : String} {fault : PeerFault}
    (h : peerFault spelling error method = .ok fault) : fault.method = method := by
  unfold peerFault at h
  cases htext : refusalText spelling error method with
  | error what => exact nomatch htext ▸ h
  | ok text =>
    rw [htext] at h
    obtain rfl := Except.ok.inj h
    rfl

theorem outcomeOf_of_null {message : Fields} (spelling : Option Nat) (method : String)
    (h : ∀ error, message.get? "error" = some error → error = .null) :
    outcomeOf spelling message method = .ok (.ok ((message.get? "result").getD .null)) := by
  cases herror : message.get? "error" with
  | none => simp [outcomeOf, herror]
  | some error => simp [outcomeOf, herror, h error herror]

theorem outcomeOf_of_error {message : Fields} {error : Value} (spelling : Option Nat)
    (method : String) (h : message.get? "error" = some error) (hne : error ≠ .null) :
    outcomeOf spelling message method =
      (peerFault spelling error method).map fun fault => .error (.peer fault) := by
  rw [outcomeOf, h]
  cases error <;> first | rfl | exact absurd rfl hne

/-- A message decides the request that it answers, if what it says can be spelled. -/
theorem decides_receive_iff {requests : Requests} {id : Nat} {method : String} {room : Room}
    {message : Fields} {outcome : Outcome} :
    Decides requests id method (.receive room message) outcome ↔
      requests.Answers message id ∧ outcomeOf room.spelling message method = .ok outcome := by
  constructor
  · rintro (⟨hanswers, hnull⟩ | ⟨hanswers, herror, hne, hfault⟩)
    · exact ⟨hanswers, outcomeOf_of_null _ method hnull⟩
    · exact ⟨hanswers, by rw [outcomeOf_of_error _ method herror hne, hfault]; rfl⟩
  · rintro ⟨hanswers, houtcome⟩
    by_cases hnull : ∀ error, message.get? "error" = some error → error = .null
    · obtain rfl := Except.ok.inj ((outcomeOf_of_null _ method hnull).symm.trans houtcome)
      exact .result hanswers hnull
    · simp only [not_forall] at hnull
      obtain ⟨error, herror, hne⟩ := hnull
      rw [outcomeOf_of_error _ method herror hne] at houtcome
      cases hfault : peerFault room.spelling error method with
      | error what => exact nomatch hfault ▸ houtcome
      | ok fault =>
        rw [hfault] at houtcome
        obtain rfl := Except.ok.inj houtcome
        exact .refusal hanswers herror hne hfault

/-! ## The table -/

theorem Request.undecided_iff (request : Request) :
    request.undecided = true ↔ request.outcome = none := by
  rw [Request.undecided, Option.isNone_iff_eq_none]

/-- Deciding a request that is undecided leaves the outcome of one that is decided. -/
theorem Request.decide_eq (request : Request) (outcome : Outcome) :
    (if request.undecided then { request with outcome := some outcome } else request) =
      { request with outcome := request.outcome.or (some outcome) } := by
  obtain ⟨id, method, _ | kept, listed⟩ := request <;> rfl

namespace Requests

/-- Requests are numbered from one in the order in which they were sent. -/
structure Numbered (requests : Requests) : Prop where
  /-- The numbers go up from one. -/
  ids : requests.sent.map Request.id = List.range' 1 requests.sent.length

/-- The invariant of the table: requests are numbered, and those that are undecided are listed. -/
structure Valid (requests : Requests) : Prop extends Numbered requests where
  /-- What is undecided is listed. -/
  listed : ∀ request ∈ requests.sent, request.outcome = none → request.listed = true

theorem valid_empty : Valid {} :=
  ⟨⟨rfl⟩, by simp⟩

section Numbered

variable {requests : Requests} (hnumbered : requests.Numbered)
include hnumbered

theorem Numbered.eq_of_id_eq {request other : Request} (hmem : request ∈ requests.sent)
    (hother : other ∈ requests.sent) (hid : request.id = other.id) : request = other := by
  have hnodup : (requests.sent.map Request.id).Nodup := hnumbered.ids ▸ List.nodup_range'
  exact List.inj_on_of_nodup_map hnodup hmem hother hid

/-- The table finds a request under its number. -/
theorem Numbered.get?_eq_some_iff {request : Request} {id : Nat} :
    requests.get? id = some request ↔ request ∈ requests.sent ∧ request.id = id := by
  constructor
  · intro h
    exact ⟨List.mem_of_find?_eq_some h, by simpa using List.find?_some h⟩
  · rintro ⟨hmem, rfl⟩
    cases hfind : requests.get? request.id with
    | none =>
      have hnone := List.find?_eq_none.mp hfind request hmem
      simp at hnone
    | some other =>
      have hid : other.id = request.id := by simpa using List.find?_some hfind
      rw [hnumbered.eq_of_id_eq (List.mem_of_find?_eq_some hfind) hmem hid]

end Numbered

/-- Changing a request keeps the numbers if the change does. -/
theorem map_id_update (requests : Requests) (id : Nat) {change : Request → Request}
    (hid : ∀ request, (change request).id = request.id) :
    (requests.update id change).sent.map Request.id = requests.sent.map Request.id := by
  rw [update, List.map_map]
  refine List.map_congr_left fun request _ => ?_
  rw [Function.comp_apply]
  split
  · exact hid request
  · rfl

theorem map_id_decide (requests : Requests) (id : Nat) (outcome : Outcome) :
    (requests.decide id outcome).sent.map Request.id = requests.sent.map Request.id :=
  requests.map_id_update id fun request => by split <;> rfl

theorem map_id_unlist (requests : Requests) (id : Nat) :
    (requests.unlist id).sent.map Request.id = requests.sent.map Request.id :=
  requests.map_id_update id fun _ => rfl

/-- A message of the peer leaves the numbers as they are, whatever becomes of it. -/
theorem map_id_handle (requests : Requests) (room : Room) (handlers : Handlers) (message : Fields) :
    (requests.handle room handlers message).1.sent.map Request.id = requests.sent.map Request.id := by
  unfold handle
  split
  · rfl
  · rfl
  · unfold settle
    split
    · rfl
    · split
      · split
        · exact (map_id_unlist _ _).trans (map_id_decide _ _ _)
        · exact map_id_unlist _ _
      · exact map_id_unlist _ _
  · rfl

/-- What an id stands for was sent. -/
theorem mem_of_resolve? {requests : Requests} {value : Value} {request : Request}
    (h : requests.resolve? value = some request) : request ∈ requests.sent := by
  simp only [resolve?, Option.bind_eq_bind, Option.bind_eq_some_iff] at h
  obtain ⟨number, -, hfind⟩ := h
  exact List.mem_of_mem_filter (List.mem_of_find?_eq_some hfind)

theorem Answers.unique {requests : Requests} {message : Fields} {id other : Nat}
    (h : requests.Answers message id) (h' : requests.Answers message other) : id = other := by
  obtain ⟨value, request, hvalue, hrequest, rfl⟩ := h.resolved
  obtain ⟨value', request', hvalue', hrequest', rfl⟩ := h'.resolved
  obtain rfl : value = value' := Option.some.inj (hvalue.symm.trans hvalue')
  rw [Option.some.inj (hrequest.symm.trans hrequest')]

/-- A message that answers nothing leaves the table as it is. -/
theorem handle_of_not_answers {requests : Requests} (room : Room) (handlers : Handlers)
    {message : Fields} (h : ∀ id, ¬ requests.Answers message id) :
    (requests.handle room handlers message).1 = requests := by
  unfold handle
  -- Only a message with an id and without a method touches the table.
  split
  · rfl
  · rfl
  · rename_i value hvalue hunnamed
    cases hresolve : requests.resolve? value with
    | none => simp [settle, hvalue, hresolve]
    | some request =>
      exact absurd ⟨hunnamed, value, request, hvalue, hresolve, rfl⟩ (h request.id)
  · rfl

/-- A message that answers a request is settled. -/
theorem handle_eq_settle {requests : Requests} (room : Room) (handlers : Handlers) {message : Fields}
    {id : Nat} (h : requests.Answers message id) :
    requests.handle room handlers message = requests.settle room.spelling message := by
  obtain ⟨value, -, hvalue, -, -⟩ := h.resolved
  unfold handle
  split
  · exact absurd ‹_› (h.unnamed _)
  · exact absurd ‹_› (h.unnamed _)
  · rfl
  · simp_all

section Answers

variable {requests : Requests} (hvalid : requests.Valid) {message : Fields} {request : Request}
  (hmem : request ∈ requests.sent) (h : requests.Answers message request.id)
include hvalid hmem h

/-- The table finds the request that a message answers under the id in it. -/
theorem resolve?_of_answers :
    requests.resolve? ((message.get? "id").getD .null) = some request := by
  obtain ⟨value, other, hvalue, hresolve, hid⟩ := h.resolved
  -- Numbers are not used twice.
  obtain rfl := hvalid.eq_of_id_eq (mem_of_resolve? hresolve) hmem hid
  rw [hvalue, Option.getD_some, hresolve]

/-- A message that answers a request decides it, unless it was decided before, and takes it off the
list. -/
theorem handle_of_answers (room : Room) (handlers : Handlers) {outcome : Outcome}
    (houtcome : outcomeOf room.spelling message request.method = .ok outcome) :
    (requests.handle room handlers message).1 =
      (requests.decide request.id outcome).unlist request.id := by
  rw [handle_eq_settle room handlers h, settle, resolve?_of_answers hvalid hmem h]
  by_cases hundecided : request.undecided = true
  · simp [hundecided, houtcome]
  · -- The request is the only one with its number, so deciding it again changes nothing.
    have hsame : requests.decide request.id outcome = requests := by
      have hmap : ∀ other ∈ requests.sent, (if other.id = request.id then
          if other.undecided then { other with outcome := some outcome } else other
          else other) = other := by
        intro other hother
        split
        · rw [hvalid.eq_of_id_eq hother hmem ‹_›, if_neg hundecided]
        · rfl
      rw [decide, update, List.map_congr_left hmap, List.map_id']
    simp [hundecided, hsame]

/-- A refusal that cannot be spelled takes the undecided request that it answers off the list, and
nothing decides it then: it is not found under its number any more, nor among those that are given up
together. -/
theorem settle_of_unspelled {spelling : Option Nat} {what : Json.Excess}
    (hundecided : request.undecided = true)
    (hwhat : outcomeOf spelling message request.method = .error what) :
    requests.settle spelling message = (requests.unlist request.id, .failed what) := by
  rw [settle, resolve?_of_answers hvalid hmem h]
  simp [hundecided, hwhat]

end Answers

end Requests

/-! ## One event -/

/-- The request that an event adds to the table. -/
def Event.issued (id : Nat) : Event → List Request
  | .request _ method _ => [{ id, method }]
  | _ => []

namespace Requests

/-- An event leaves the numbers of the requests as they are, and adds that of the one that it sends. -/
theorem map_id_step (requests : Requests) (handlers : Handlers) (event : Event) :
    (requests.step handlers event).1.sent.map Request.id =
      requests.sent.map Request.id ++ (event.issued requests.nextId).map Request.id := by
  cases event with
  | request writing method params => simp [step, request, Event.issued]
  | notify writing method params => simp [step, Event.issued]
  | receive room message =>
    simpa [step, Event.issued] using requests.map_id_handle room handlers message
  | cancel id =>
    simpa [step, cancel, Event.issued] using requests.map_id_decide id (.error .cancelled)
  | rejectAll failure =>
    simp only [step, rejectAll, Event.issued, List.map_map, List.map_nil, List.append_nil]
    exact List.map_congr_left fun request _ => by rw [Function.comp_apply]; split <;> rfl
  | turn =>
    simp only [step, turn, Event.issued, List.map_map, List.map_nil, List.append_nil]
    exact List.map_congr_left fun request _ => by rw [Function.comp_apply]; split <;> rfl

theorem length_step (requests : Requests) (handlers : Handlers) (event : Event) :
    (requests.step handlers event).1.sent.length =
      requests.sent.length + (event.issued requests.nextId).length := by
  simpa using congrArg List.length (requests.map_id_step handlers event)

theorem Numbered.step {requests : Requests} (hnumbered : requests.Numbered) (handlers : Handlers)
    (event : Event) : (requests.step handlers event).1.Numbered := by
  constructor
  rw [map_id_step, length_step, hnumbered.ids]
  -- A new request takes the number after the last.
  cases event <;> simp [Event.issued, Requests.nextId, List.range'_1_concat, Nat.add_comm]

end Requests

/-- What an event does to a request that was sent before it. -/
structure Evolves (requests : Requests) (event : Event) (request next : Request) : Prop where
  /-- The number stays. -/
  id : next.id = request.id
  /-- The method stays. -/
  method : next.method = request.method
  /-- An outcome stays. -/
  kept : ∀ outcome, request.outcome = some outcome → next.outcome = some outcome
  /-- An undecided request gets the outcome that the event gives it, if it decides it. -/
  decided : request.outcome = none →
    ∀ outcome, next.outcome = some outcome ↔ Decides requests request.id request.method event outcome
  /-- No request gets back onto the list. -/
  unlisted : request.listed = false → next.listed = false
  /-- A request that is still undecided is not taken off the list. -/
  listed : request.listed = true → next.outcome = none → next.listed = true
  /-- In a turn decided requests are taken off the list. -/
  noticed : event = .turn → request.outcome ≠ none → next.listed = false

theorem Decides.unique {requests : Requests} {id : Nat} {method : String} {event : Event}
    {outcome other : Outcome} (h : Decides requests id method event outcome)
    (h' : Decides requests id method event other) : outcome = other := by
  cases event with
  | receive room message =>
    rw [decides_receive_iff] at h h'
    exact Except.ok.inj (h.2.symm.trans h'.2)
  | cancel => cases h; cases h'; rfl
  | rejectAll => cases h; cases h'; rfl
  | request | notify | turn => cases h

section Evolves

variable {requests : Requests} {event : Event} {request : Request} (hturn : event ≠ .turn)
include hturn

/-- An event that does not decide a request can leave it as it is. -/
theorem evolves_self
    (hnone : ∀ outcome, ¬ Decides requests request.id request.method event outcome) :
    Evolves requests event request request := by
  refine ⟨rfl, rfl, fun _ h => h, ?_, fun h => h, fun h _ => h, fun h => absurd h hturn⟩
  intro hundecided outcome
  simp [hundecided, hnone outcome]

/-- An event that decides a request gives it the outcome, unless it has one, and may take it off the
list. -/
theorem evolves_of_decides {outcome : Outcome} {listed : Bool}
    (hdecides : Decides requests request.id request.method event outcome)
    (hlisted : request.listed = false → listed = false) :
    Evolves requests event request
      { request with outcome := request.outcome.or (some outcome), listed := listed } := by
  refine ⟨rfl, rfl, ?_, ?_, hlisted, ?_, fun h => absurd h hturn⟩
  · intro kept hkept
    rw [hkept, Option.some_or]
  · intro hundecided other
    rw [hundecided, Option.none_or, Option.some.injEq]
    exact ⟨fun h => h ▸ hdecides, hdecides.unique⟩
  · simp

end Evolves

theorem evolves_turn (requests : Requests) (request : Request) :
    Evolves requests .turn request
      (if request.undecided then request else { request with listed := false }) := by
  have hnone (outcome : Outcome) :
      ¬ Decides requests request.id request.method .turn outcome := nofun
  by_cases hundecided : request.undecided = true
  · have houtcome := request.undecided_iff.mp hundecided
    rw [if_pos hundecided]
    refine ⟨rfl, rfl, fun _ h => h, ?_, fun h => h, fun h _ => h, fun _ h => absurd houtcome h⟩
    simp [houtcome, hnone]
  · have houtcome := mt request.undecided_iff.mpr hundecided
    rw [if_neg hundecided]
    exact ⟨rfl, rfl, fun _ h => h, fun h => absurd h houtcome, fun _ => rfl,
      fun _ h => absurd h houtcome, fun _ _ => rfl⟩

section Change

variable {requests : Requests} (hvalid : requests.Valid)
include hvalid

/-- A message decides the request that it answers, if there is one, and takes it off the list. -/
theorem exists_change_receive (handlers : Handlers) {room : Room} {message : Fields}
    (hspelled : (Event.receive room message).Spelled) :
    ∃ change : Request → Request,
      (requests.handle room handlers message).1.sent = requests.sent.map change ∧
        ∀ request ∈ requests.sent,
          Evolves requests (.receive room message) request (change request) := by
  by_cases hanswers : ∃ request ∈ requests.sent, requests.Answers message request.id
  · -- One request is decided and unlisted; the message answers none of the others.
    obtain ⟨answered, hanswered, hanswers⟩ := hanswers
    obtain ⟨outcome, houtcome⟩ := hspelled answered.method
    refine ⟨fun request => if request.id = answered.id then { request with
      outcome := request.outcome.or (some outcome), listed := false } else request, ?_, ?_⟩
    · rw [Requests.handle_of_answers hvalid hanswered hanswers room handlers houtcome]
      simp only [Requests.unlist, Requests.decide, Requests.update, List.map_map,
        Request.decide_eq]
      refine List.map_congr_left fun request _ => ?_
      by_cases hid : request.id = answered.id <;> simp [hid]
    · intro request hmem
      by_cases hid : request.id = answered.id
      · obtain rfl := hvalid.eq_of_id_eq hmem hanswered hid
        simpa using
          evolves_of_decides (by simp) (decides_receive_iff.mpr ⟨hanswers, houtcome⟩) (by simp)
      · simp only [hid, if_false]
        refine evolves_self (by simp) fun outcome hdecides => hid ?_
        exact (decides_receive_iff.mp hdecides).1.unique hanswers
  · have hnone : ∀ id, ¬ requests.Answers message id := by
      rintro _ hanswer
      obtain ⟨value, request, -, hresolve, rfl⟩ := hanswer.resolved
      exact hanswers ⟨request, Requests.mem_of_resolve? hresolve, hanswer⟩
    refine ⟨id, by rw [Requests.handle_of_not_answers room handlers hnone, List.map_id], ?_⟩
    exact fun request _ => evolves_self (by simp) fun outcome hdecides =>
      hnone _ (decides_receive_iff.mp hdecides).1

/-- What one event does to the table: it changes each request that was sent before, and may add one
to the end. -/
theorem exists_change (handlers : Handlers) {event : Event} (hspelled : event.Spelled) :
    ∃ change : Request → Request,
      (requests.step handlers event).1.sent =
          requests.sent.map change ++ event.issued requests.nextId ∧
        ∀ request ∈ requests.sent, Evolves requests event request (change request) := by
  -- One case for each event: those that decide something go through `evolves_of_decides`, those that
  -- decide nothing through `evolves_self`, and only a turn takes requests off the list by itself.
  cases event with
  | request writing method params =>
    exact ⟨id, by simp [Requests.step, Requests.request, Event.issued],
      fun request _ => evolves_self (by simp) nofun⟩
  | notify writing method params =>
    exact ⟨id, by simp [Requests.step, Event.issued],
      fun request _ => evolves_self (by simp) nofun⟩
  | receive room message =>
    obtain ⟨change, hsent, hchange⟩ := exists_change_receive hvalid handlers hspelled
    exact ⟨change, by simpa [Requests.step, Event.issued] using hsent, hchange⟩
  | cancel id =>
    refine ⟨fun request => if request.id = id then
      { request with outcome := request.outcome.or (some (.error .cancelled)) } else request,
      ?_, ?_⟩
    · simp only [Requests.step, Requests.cancel, Requests.decide, Requests.update,
        Request.decide_eq, Event.issued, List.append_nil]
    · intro request hmem
      by_cases hid : request.id = id
      · subst hid
        simpa using evolves_of_decides (by simp) .cancel (fun h => h)
      · simp only [hid, if_false]
        exact evolves_self (by simp) fun outcome hdecides => by cases hdecides; exact hid rfl
  | rejectAll failure =>
    refine ⟨fun request => { request with
      outcome := request.outcome.or (some (.error failure)), listed := false }, ?_, ?_⟩
    · simp only [Requests.step, Requests.rejectAll, Event.issued, List.append_nil]
      refine List.map_congr_left fun request hmem => ?_
      -- What is undecided is listed, so that no request is passed over.
      have hlisted := hvalid.listed request hmem
      obtain ⟨id, method, _ | kept, listed⟩ := request
      · simp_all [Request.undecided]
      · simp [Request.undecided]
    · exact fun request _ => evolves_of_decides (by simp) (.rejectAll failure) (fun _ => rfl)
  | turn =>
    exact ⟨fun request => if request.undecided then request else { request with listed := false },
      by simp only [Requests.step, Requests.turn, Event.issued, List.append_nil],
      fun request _ => evolves_turn requests request⟩

/-- The invariant is kept by every event, as long as refusals can be spelled. -/
theorem valid_step (handlers : Handlers) {event : Event} (hspelled : event.Spelled) :
    (requests.step handlers event).1.Valid := by
  obtain ⟨change, hsent, hchange⟩ := exists_change hvalid handlers hspelled
  refine ⟨hvalid.step handlers event, ?_⟩
  intro next hnext hundecided
  rw [hsent, List.mem_append, List.mem_map] at hnext
  obtain ⟨request, hmem, rfl⟩ | hissued := hnext
  · -- A request that is undecided now was undecided before, and listed.
    have hevolves := hchange request hmem
    have houtcome : request.outcome = none := by
      cases houtcome : request.outcome with
      | none => rfl
      | some outcome => simp [hevolves.kept outcome houtcome] at hundecided
    exact hevolves.listed (hvalid.listed request hmem houtcome) hundecided
  · cases event <;> simp_all [Event.issued]

/-- An event lets the request with a number evolve. -/
theorem get?_step {request : Request} {id : Nat} (h : requests.get? id = some request)
    (handlers : Handlers) {event : Event} (hspelled : event.Spelled) :
    ∃ next, (requests.step handlers event).1.get? id = some next ∧
      Evolves requests event request next := by
  obtain ⟨change, hsent, hchange⟩ := exists_change hvalid handlers hspelled
  obtain ⟨hmem, rfl⟩ := hvalid.get?_eq_some_iff.mp h
  have hevolves := hchange request hmem
  refine ⟨change request, (valid_step hvalid handlers hspelled).get?_eq_some_iff.mpr ⟨?_, hevolves.id⟩,
    hevolves⟩
  rw [hsent]
  exact List.mem_append_left _ (List.mem_map_of_mem hmem)

end Change

/-! ## Runs -/

/-- Whether an event makes a request. -/
def Event.isRequest : Event → Bool
  | .request _ _ _ => true
  | _ => false

theorem Event.length_issued (id : Nat) (event : Event) :
    (event.issued id).length = if event.isRequest then 1 else 0 := by
  cases event <;> rfl

/-- How many requests a run makes. -/
def requestCount (events : List Event) : Nat :=
  events.countP Event.isRequest

namespace Requests

/-- What became of the request with a number, if it was sent and is decided. -/
def outcome? (requests : Requests) (id : Nat) : Option Outcome :=
  (requests.get? id).bind Request.outcome

theorem run_append (requests : Requests) (handlers : Handlers) (before after : List Event) :
    requests.run handlers (before ++ after) = (requests.run handlers before).run handlers after := by
  induction before generalizing requests with
  | nil => rfl
  | cons event before ih => exact ih _

theorem numbered_run {requests : Requests} (hnumbered : requests.Numbered) (handlers : Handlers)
    (events : List Event) : (requests.run handlers events).Numbered := by
  induction events generalizing requests with
  | nil => exact hnumbered
  | cons event events ih => exact ih (hnumbered.step handlers event)

theorem length_run (requests : Requests) (handlers : Handlers) (events : List Event) :
    (requests.run handlers events).sent.length =
      requests.sent.length + requestCount events := by
  induction events generalizing requests with
  | nil => rfl
  | cons event events ih =>
    rw [run, ih, length_step, requestCount, requestCount, List.countP_cons, Event.length_issued]
    omega

section Run

variable {requests : Requests} (hvalid : requests.Valid) (handlers : Handlers) {events : List Event}
  (hspelled : ∀ event ∈ events, event.Spelled)
include hvalid hspelled

theorem valid_run : (requests.run handlers events).Valid := by
  induction events generalizing requests with
  | nil => exact hvalid
  | cons event events ih =>
    rw [List.forall_mem_cons] at hspelled
    exact ih (valid_step hvalid handlers hspelled.1) hspelled.2

/-- A request that was decided keeps its outcome over a run. -/
theorem outcome?_run_of_decided {id : Nat} {outcome : Outcome}
    (h : requests.outcome? id = some outcome) :
    (requests.run handlers events).outcome? id = some outcome := by
  induction events generalizing requests with
  | nil => exact h
  | cons event events ih =>
    rw [List.forall_mem_cons] at hspelled
    obtain ⟨request, hrequest, houtcome⟩ := Option.bind_eq_some_iff.mp h
    obtain ⟨next, hnext, hevolves⟩ := get?_step hvalid hrequest handlers hspelled.1
    refine ih (valid_step hvalid handlers hspelled.1) hspelled.2
      (Option.bind_eq_some_iff.mpr ⟨next, hnext, ?_⟩)
    exact hevolves.kept outcome houtcome

/-- A request that was taken off the list stays off it over a run. -/
theorem get?_run_of_unlisted {request : Request} {id : Nat}
    (h : requests.get? id = some request) (hlisted : request.listed = false) :
    ∃ next, (requests.run handlers events).get? id = some next ∧ next.listed = false := by
  induction events generalizing requests request with
  | nil => exact ⟨request, h, hlisted⟩
  | cons event events ih =>
    rw [List.forall_mem_cons] at hspelled
    obtain ⟨next, hnext, hevolves⟩ := get?_step hvalid h handlers hspelled.1
    exact ih (valid_step hvalid handlers hspelled.1) hspelled.2 hnext (hevolves.unlisted hlisted)

/-- Over a run, an undecided request gets the outcome that the first event that decides it gives. -/
theorem outcome?_run_iff {request : Request} {id : Nat} (h : requests.get? id = some request)
    (hundecided : request.outcome = none) (outcome : Outcome) :
    (requests.run handlers events).outcome? id = some outcome ↔
      DecidedBy handlers id request.method requests events outcome := by
  -- Induction on the run; the request stays undecided up to the event that decides it.
  induction events generalizing requests request with
  | nil =>
    simp only [run, outcome?, h, Option.bind_some, hundecided]
    exact ⟨nofun, nofun⟩
  | cons event events ih =>
    rw [List.forall_mem_cons] at hspelled
    obtain ⟨-, rfl⟩ := hvalid.get?_eq_some_iff.mp h
    obtain ⟨next, hnext, hevolves⟩ := get?_step hvalid h handlers hspelled.1
    have hdecides := hevolves.decided hundecided
    have hvalid' := valid_step hvalid handlers hspelled.1
    cases houtcome : next.outcome with
    | none =>
      have hnone : ∀ other, ¬ Decides requests request.id request.method event other := by
        intro other hother
        exact nomatch houtcome.symm.trans ((hdecides other).mpr hother)
      rw [run, ih hvalid' hspelled.2 hnext houtcome, hevolves.method]
      refine ⟨.later hnone, ?_⟩
      rintro (⟨_, hhere⟩ | ⟨_, hlater⟩)
      · exact absurd hhere (hnone outcome)
      · exact hlater
    | some first =>
      have hfirst := (hdecides first).mp houtcome
      -- No later event changes the outcome, and the first event leaves no choice.
      have hkept := outcome?_run_of_decided hvalid' handlers hspelled.2
        (Option.bind_eq_some_iff.mpr ⟨next, hnext, houtcome⟩)
      rw [run, hkept, Option.some.injEq]
      constructor
      · rintro rfl
        exact .here events hfirst
      · rintro (⟨_, hhere⟩ | ⟨hnone, _⟩)
        · exact hfirst.unique hhere
        · exact absurd hfirst (hnone first)

end Run

/-- The request that an event makes gets the next number. -/
theorem get?_step_request {requests : Requests} (hnumbered : requests.Numbered) (handlers : Handlers)
    (writing : Option Nat) (method : String) (params : Value) :
    (requests.step handlers (.request writing method params)).1.get? requests.nextId =
      some { id := requests.nextId, method } :=
  (hnumbered.step handlers (.request writing method params)).get?_eq_some_iff.mpr
    ⟨by simp [step, request], rfl⟩

end Requests

/-! ## The list -/

section List

variable (handlers : Handlers) (events : List Event)

/-- The table after a run. -/
def tableAfter : Requests :=
  ({} : Requests).run handlers events

/-- The numbers of the requests of a run that are undecided after it, in the order in which they were
sent. -/
def undecidedNumbers : List Nat :=
  (List.range' 1 (requestCount events)).filter fun id =>
    ((tableAfter handlers events).outcome? id).isNone

/-- Every request that a run decides was decided before one of its turns. -/
def Noticed : Prop :=
  ∀ id outcome, (tableAfter handlers events).outcome? id = some outcome →
    ∃ before after, events = before ++ .turn :: after ∧
      (tableAfter handlers before).outcome? id ≠ none

theorem tableAfter_append (before after : List Event) :
    tableAfter handlers (before ++ after) = (tableAfter handlers before).run handlers after :=
  Requests.run_append {} handlers before after

theorem numbered_tableAfter : (tableAfter handlers events).Numbered :=
  Requests.numbered_run Requests.valid_empty.toNumbered handlers events

theorem length_tableAfter : (tableAfter handlers events).sent.length = requestCount events := by
  rw [tableAfter, Requests.length_run]
  exact Nat.zero_add _

theorem map_id_filter_undecided :
    ((tableAfter handlers events).sent.filter Request.undecided).map Request.id =
      undecidedNumbers handlers events := by
  have hnumbered := numbered_tableAfter handlers events
  rw [undecidedNumbers, ← length_tableAfter handlers, ← hnumbered.ids, List.filter_map]
  refine congrArg _ (List.filter_congr fun request hmem => ?_)
  have hget := hnumbered.get?_eq_some_iff.mpr ⟨hmem, rfl⟩
  simp [Requests.outcome?, hget, Request.undecided]

/-- The table finds the request that was sent last under the number of requests sent so far. -/
theorem get?_tableAfter_request (writing : Option Nat) (method : String) (params : Value) :
    (tableAfter handlers (events ++ [.request writing method params])).get?
      (requestCount events + 1) = some { id := requestCount events + 1, method } := by
  have hget := Requests.get?_step_request (numbered_tableAfter handlers events) handlers writing
    method params
  rw [Requests.nextId, length_tableAfter] at hget
  rw [tableAfter_append]
  exact hget

variable {handlers events}

/-- A request that was decided before a turn is not listed any more. -/
theorem listed_eq_false_of_turn {before after : List Event} {id : Nat} {request : Request}
    (hbefore : ∀ event ∈ before, event.Spelled) (hafter : ∀ event ∈ after, event.Spelled)
    (hget : (tableAfter handlers (before ++ .turn :: after)).get? id = some request)
    (hdecided : (tableAfter handlers before).outcome? id ≠ none) : request.listed = false := by
  -- The request is taken off the list in the turn at the latest, and stays off it.
  have hvalid : (tableAfter handlers before).Valid :=
    Requests.valid_run Requests.valid_empty handlers hbefore
  obtain ⟨outcome, houtcome⟩ := Option.ne_none_iff_exists'.mp hdecided
  obtain ⟨earlier, hearlier, houtcome⟩ := Option.bind_eq_some_iff.mp houtcome
  obtain ⟨next, hnext, hevolves⟩ := get?_step hvalid hearlier handlers Event.spelled_turn
  have hunlisted : next.listed = false := hevolves.noticed rfl (by simp [houtcome])
  obtain ⟨final, hfinal, hlisted⟩ := Requests.get?_run_of_unlisted
    (valid_step hvalid handlers Event.spelled_turn) handlers hafter hnext hunlisted
  rw [tableAfter_append] at hget
  obtain rfl : final = request := Option.some.inj (hfinal.symm.trans hget)
  exact hlisted

section Spelled

variable (hspelled : ∀ event ∈ events, event.Spelled)
include hspelled

theorem valid_tableAfter : (tableAfter handlers events).Valid :=
  Requests.valid_run Requests.valid_empty handlers hspelled

theorem rejectable_eq :
    (tableAfter handlers events).rejectable =
      (tableAfter handlers events).sent.filter Request.undecided := by
  -- The list holds decided requests too, but no undecided one is missing from it.
  rw [Requests.rejectable, Requests.pending, List.filter_filter]
  refine List.filter_congr fun request hmem => ?_
  have hlisted := (valid_tableAfter hspelled).listed request hmem
  rw [← Request.undecided_iff] at hlisted
  cases hundecided : request.undecided <;> simp_all

/-- Once all outcomes have been noticed, the undecided requests are listed. -/
theorem pending_of_noticed (h : Noticed handlers events) :
    (tableAfter handlers events).pending =
      (tableAfter handlers events).sent.filter Request.undecided := by
  have hvalid : (tableAfter handlers events).Valid := valid_tableAfter hspelled
  refine List.filter_congr fun request hmem => ?_
  have hget := hvalid.get?_eq_some_iff.mpr ⟨hmem, rfl⟩
  cases houtcome : request.outcome with
  | none => simp [hvalid.listed request hmem houtcome, Request.undecided, houtcome]
  | some outcome =>
    obtain ⟨before, after, rfl, hdecided⟩ := h request.id outcome (by
      rw [Requests.outcome?, hget, Option.bind_some, houtcome])
    rw [List.forall_mem_append, List.forall_mem_cons] at hspelled
    simp [listed_eq_false_of_turn hspelled.1 hspelled.2.2 hget hdecided, Request.undecided, houtcome]

/-- After a turn all outcomes have been noticed. -/
theorem noticed_append_turn : Noticed handlers (events ++ [.turn]) := by
  intro id outcome houtcome
  refine ⟨events, [], rfl, fun hnone => ?_⟩
  have hvalid : (tableAfter handlers events).Valid := valid_tableAfter hspelled
  obtain ⟨change, hsent, hchange⟩ := exists_change hvalid handlers Event.spelled_turn
  rw [tableAfter_append] at houtcome
  -- A turn decides nothing, so what is decided after it was decided before.
  obtain ⟨next, hnext, hdecided⟩ := Option.bind_eq_some_iff.mp houtcome
  obtain ⟨hmem, rfl⟩ :=
    (valid_step hvalid handlers Event.spelled_turn).get?_eq_some_iff.mp hnext
  rw [hsent, show Event.issued _ .turn = [] from rfl, List.append_nil, List.mem_map] at hmem
  obtain ⟨request, hrequest, rfl⟩ := hmem
  have hevolves := hchange request hrequest
  have hget := hvalid.get?_eq_some_iff.mpr ⟨hrequest, rfl⟩
  rw [hevolves.id, Requests.outcome?, hget, Option.bind_some] at hnone
  exact nomatch (hevolves.decided hnone outcome).mp hdecided

end Spelled

end List

/-! ## Whole runs -/

/-- What goes out for a request: its message, unless that cannot be written. -/
theorem ofWriting_cases (writing : Option Nat) (message : Fields) :
    (∃ bytes, encode writing message = .ok bytes) ∧
        Effect.ofWriting writing message = { sent := [message] } ∨
      ∃ what, encode writing message = .error what ∧
        Effect.ofWriting writing message = { fault := some what } := by
  unfold Effect.ofWriting
  cases encode writing message with
  | ok bytes => exact .inl ⟨⟨bytes, rfl⟩, rfl⟩
  | error what => exact .inr ⟨what, rfl, rfl⟩

/-- Three requests: the first is given up and then answered, the third is refused and then answered
again. -/
def contestedRun : List Event :=
  [.request (some 3) "first" .null, .request (some 3) "second" .null,
    .request (some 3) "third" (.int 3), .cancel 1,
    .receive ⟨some 3, some 3⟩ [("id", .bool true), ("result", .int 5)],
    .receive ⟨some 3, some 3⟩ [("id", .int 3), ("error", .object [("message", .string "no")])],
    .receive ⟨some 3, some 3⟩ [("id", .int 3), ("result", .null)], .turn]

theorem spelled_contestedRun : ∀ event ∈ contestedRun, event.Spelled := by
  simp only [contestedRun, List.forall_mem_cons]
  refine ⟨trivial, trivial, trivial, trivial, fun _ => ⟨_, rfl⟩, fun _ => ⟨_, rfl⟩,
    fun _ => ⟨_, rfl⟩, trivial, nofun⟩

end BasiliskServer.Rpc
