import BasiliskServer.Failure
import BasiliskServer.Json.Value
import BasiliskServer.Rpc.Frame

/-!
# Requests under way

Both sides of a connection ask each other. Requests of our own are numbered in the order in which
they are sent, and the table keeps for each what became of it. A request is listed until its
outcome has been noticed: an answer takes it off the list at once, a request that the caller gives
up stays listed until the next turn. The outcome of a request is decided once.

Requests of the peer are answered at once, by a handler if there is one for the method.

Two things can fail for want of stack: an answer is not written, and what the peer says when it
refuses a request is not spelled. How many levels are left for both is given with each message
(`Room`).
-/

/-!
## Messages

The four kinds of messages: requests and notifications, which name a method, and results and
errors, which answer a request by its id. Parameters that are null are left out.
-/

namespace BasiliskServer.Rpc

open Json (Value Fields)

/-- The protocol version that opens every message. -/
def versionField : String × Value := ("jsonrpc", .string "2.0")

/-- The field with the parameters, left out if they are null. -/
def paramsField (params : Value) : Fields :=
  if params.isNull then [] else [("params", params)]

/-- A request. -/
def requestMessage (id : Value) (method : String) (params : Value := .null) : Fields :=
  [versionField, ("id", id), ("method", .string method)] ++ paramsField params

/-- A notification. -/
def notificationMessage (method : String) (params : Value := .null) : Fields :=
  [versionField, ("method", .string method)] ++ paramsField params

/-- The answer to a request. -/
def resultMessage (id result : Value) : Fields :=
  [versionField, ("id", id), ("result", result)]

/-- The refusal of a request. -/
def errorMessage (id : Value) (code : Int) (text : String) : Fields :=
  [versionField, ("id", id), ("error", .object [("code", .int code), ("message", .string text)])]

/-! ## Requests under way -/

/-- What became of a request. -/
abbrev Outcome := Except Failure Value

/-- A request that was sent. -/
structure Request where
  /-- Its number, counted from one. -/
  id : Nat
  /-- Its method. -/
  method : String
  /-- What became of it, once that is decided. -/
  outcome : Option Outcome := none
  /-- Whether it is still listed. -/
  listed : Bool := true

/-- Whether a request is undecided. -/
def Request.undecided (request : Request) : Bool :=
  request.outcome.isNone

/-- All requests that were sent over a connection, in the order in which they were sent. -/
structure Requests where
  /-- The requests. -/
  sent : List Request := []

/-- What the peer can ask for: the answer to a method and its parameters, or the wording of what
went wrong. -/
abbrev Handlers := String → Value → Except String Value

/-- The code of an answer that says that a handler failed. -/
def internalErrorCode : Int := -32603

/-- The answer to a question for settings: an empty object for each item asked for. -/
def answerConfiguration (params : Value) : Value :=
  match params.get? "items" with
  | some (.array items) => .array (items.map fun _ => .object [])
  | _ => .array []

/-- The answers given by default. A method that is not known is answered with null, since the peer
may wait for the answer. -/
def defaultHandlers : Handlers := fun method params =>
  match method with
  | "workspace/configuration" => .ok (answerConfiguration params)
  | "workspace/applyEdit" => .ok (.object [("applied", .bool false)])
  | _ => .ok .null

/-- What answers one method: the answer to its parameters, or the wording of what went wrong. -/
abbrev Handler := Value → Except String Value

/-- Handlers given by method, laid over the default answers. -/
def layered (given : List (String × Handler)) : Handlers := fun method params =>
  match given.lookup method with
  | some handler => handler params
  | none => defaultHandlers method params

/-- How many levels of lists and objects are left when a message is taken. Without a number nothing
is refused. -/
structure Room where
  /-- For the writer of an answer. -/
  writing : Option Nat := none
  /-- For the wording of a failure. -/
  spelling : Option Nat := none

/-- The wording of a refusal: the message in it, or else all of it. -/
def refusalText (spelling : Option Nat) (error : Value) (method : String) :
    Except Json.Excess String :=
  match error with
  | .object fields =>
    let message := (Json.Fields.get? fields "message").getD .null
    if message.isNull then .ok (method ++ " failed") else message.textWithin spelling
  | error => error.textWithin spelling

/-- What the peer says when it refuses a request. -/
def peerFault (spelling : Option Nat) (error : Value) (method : String) :
    Except Json.Excess PeerFault :=
  (refusalText spelling error method).map fun message =>
    let code := error.getD "code"
    { message
      code := if code.integer?.isSome then code else .null
      data := error.getD "data"
      method }

/-- The outcome that an answer gives to a request. -/
def outcomeOf (spelling : Option Nat) (message : Fields) (method : String) :
    Except Json.Excess Outcome :=
  match message.get? "error" with
  | none => .ok (.ok ((message.get? "result").getD .null))
  | some .null => .ok (.ok ((message.get? "result").getD .null))
  | some error => (peerFault spelling error method).map fun fault => .error (.peer fault)

/-- What follows from a message of the peer. -/
inductive Reaction where
  /-- Nothing. -/
  | none
  /-- An answer goes out. -/
  | reply (message : Fields)
  /-- A notification is passed on. -/
  | notified (method : String) (params : Value)
  /-- A request of our own is decided. -/
  | decided (id : Nat) (outcome : Outcome)
  /-- There is too much of something, and the message is given up. -/
  | failed (what : Json.Excess)

/-- What is to be answered to a request of the peer. -/
def answerMessage (handlers : Handlers) (id : Value) (method : String) (params : Value) : Fields :=
  match handlers method params with
  | .ok result => resultMessage id result
  | .error text => errorMessage id internalErrorCode text

/-- Answers a request of the peer, if the answer can be written. -/
def answer (writing : Option Nat) (handlers : Handlers) (id : Value) (method : String)
    (params : Value) : Reaction :=
  let message := answerMessage handlers id method params
  match encode writing message with
  | .ok _ => .reply message
  | .error what => .failed what

namespace Requests

/-- The requests that are listed, in the order in which they were sent. -/
def pending (requests : Requests) : List Request :=
  requests.sent.filter (·.listed)

/-- The request with a number. -/
def get? (requests : Requests) (id : Nat) : Option Request :=
  requests.sent.find? (·.id = id)

/-- Changes the request with a number. -/
def update (requests : Requests) (id : Nat) (change : Request → Request) : Requests :=
  ⟨requests.sent.map fun request => if request.id = id then change request else request⟩

/-- The number of the next request. -/
def nextId (requests : Requests) : Nat :=
  requests.sent.length + 1

/-- Numbers and lists a request that is about to be sent. -/
def request (requests : Requests) (method : String) : Requests :=
  ⟨requests.sent ++ [{ id := requests.nextId, method }]⟩

/-- Takes a request off the list. -/
def unlist (requests : Requests) (id : Nat) : Requests :=
  requests.update id fun request => { request with listed := false }

/-- Decides a request that is undecided. -/
def decide (requests : Requests) (id : Nat) (outcome : Outcome) : Requests :=
  requests.update id fun request =>
    if request.undecided then { request with outcome := some outcome } else request

/-- The listed request that an id stands for: an integer, or a truth value that counts as one. -/
def resolve? (requests : Requests) (id : Value) : Option Request := do
  let number ← id.integer?
  requests.pending.find? fun request => (request.id : Int) = number

/-- Takes an answer. It is dropped if no listed request has its id, and has no effect on a request
that was decided before. A refusal that cannot be spelled takes the request off the list and leaves
it undecided. -/
def settle (requests : Requests) (spelling : Option Nat) (message : Fields) :
    Requests × Reaction :=
  match requests.resolve? ((message.get? "id").getD .null) with
  | none => (requests, .none)
  | some request =>
    if request.undecided then
      match outcomeOf spelling message request.method with
      | .ok outcome =>
        ((requests.decide request.id outcome).unlist request.id, .decided request.id outcome)
      | .error what => (requests.unlist request.id, .failed what)
    else (requests.unlist request.id, .none)

/-- Takes a message of the peer. -/
def handle (requests : Requests) (room : Room) (handlers : Handlers) (message : Fields) :
    Requests × Reaction :=
  let params := (message.get? "params").getD .null
  match message.get? "method", message.get? "id" with
  | some (.string method), some id => (requests, answer room.writing handlers id method params)
  | some (.string method), none => (requests, .notified method params)
  | _, some _ => requests.settle room.spelling message
  | _, none => (requests, .none)

/-- Gives a request up. -/
def cancel (requests : Requests) (id : Nat) : Requests :=
  requests.decide id (.error .cancelled)

/-- Whether a request can still be given up. -/
def canCancel (requests : Requests) (id : Nat) : Bool :=
  match requests.get? id with
  | some request => request.undecided
  | none => false

/-- The listed requests that are undecided. -/
def rejectable (requests : Requests) : List Request :=
  requests.pending.filter (·.undecided)

/-- Decides all listed requests with one failure and empties the list. -/
def rejectAll (requests : Requests) (failure : Failure) : Requests :=
  ⟨requests.sent.map fun request =>
    if request.listed && request.undecided then
      { request with outcome := some (.error failure), listed := false }
    else { request with listed := false }⟩

/-- Takes all requests off the list that have been decided. -/
def turn (requests : Requests) : Requests :=
  ⟨requests.sent.map fun request =>
    if request.undecided then request else { request with listed := false }⟩

end Requests

/-!
## One side of a connection

What can happen to one side of a connection, one event after the other: it sends requests and
notifications, takes messages of the peer, has requests given up one by one or all at once, and gets
its turn to take decided requests off the list. `Requests.step` says for each event what it does to
the requests under way and what it makes visible outside. A request is numbered and listed before it
is written, so one that cannot be written stays listed although nothing was sent.
-/

/-- What can happen to one side of a connection. Where something is to be written, it says how many
levels are left for that. -/
inductive Event where
  /-- A request is to be sent. -/
  | request (writing : Option Nat) (method : String) (params : Value)
  /-- A notification is to be sent. -/
  | notify (writing : Option Nat) (method : String) (params : Value)
  /-- A message of the peer arrives. -/
  | receive (room : Room) (message : Fields)
  /-- The caller gives the request with a number up. -/
  | cancel (id : Nat)
  /-- All requests that are listed are given up with one failure. -/
  | rejectAll (failure : Failure)
  /-- Decided requests are taken off the list. -/
  | turn

/-- What an event makes visible outside. -/
structure Effect where
  /-- The messages that go out. -/
  sent : List Fields := []
  /-- The notifications that are passed on: method and parameters. -/
  notified : List (String × Value) := []
  /-- How many requests are given up. -/
  abandoned : Nat := 0
  /-- What there was too much of, if the event fails. -/
  fault : Option Json.Excess := none

/-- A message goes out, if it can be written. -/
def Effect.ofWriting (writing : Option Nat) (message : Fields) : Effect :=
  match encode writing message with
  | .ok _ => { sent := [message] }
  | .error what => { fault := some what }

/-- What a reaction to a message of the peer makes visible outside. -/
def Reaction.effect : Reaction → Effect
  | .reply message => { sent := [message] }
  | .notified method params => { notified := [(method, params)] }
  | .none => {}
  | .decided _ _ => {}
  | .failed what => { fault := some what }

namespace Requests

/-- One event. -/
def step (requests : Requests) (handlers : Handlers) : Event → Requests × Effect
  | .request writing method params =>
    (requests.request method,
      .ofWriting writing (requestMessage (.nat requests.nextId) method params))
  | .notify writing method params =>
    (requests, .ofWriting writing (notificationMessage method params))
  | .receive room message =>
    let (requests, reaction) := requests.handle room handlers message
    (requests, reaction.effect)
  | .cancel id => (requests.cancel id, { abandoned := if requests.canCancel id then 1 else 0 })
  | .rejectAll failure =>
    (requests.rejectAll failure, { abandoned := requests.rejectable.length })
  | .turn => (requests.turn, {})

/-- Events one after the other. -/
def run (requests : Requests) (handlers : Handlers) : List Event → Requests
  | [] => requests
  | event :: rest => (requests.step handlers event).1.run handlers rest

end Requests

end BasiliskServer.Rpc
