import BasiliskServer.World.Program

/-!
# Channels

A channel carries messages to a companion process and keeps the requests sent through it. Nothing
is written to the process once the channel is being closed or the process is gone.
-/

namespace BasiliskServer.World

open Json (Value Fields)

/-- Changes a channel. -/
def updateChannel (number : Nat) (change : Channel → Channel) : Act Unit :=
  modify fun w => { w with channels := w.channels.modify number change }

/-- Makes a channel. -/
def newChannel (command : List String) (owner : Owner) : Act Nat := do
  let number := (← get).channels.length
  modify fun w =>
    { w with channels :=
        w.channels ++ [{ command, owner, decoder := { nesting := w.host.nesting } }] }
  return number

/-- Hands something to the process of a channel. -/
def send (number : Nat) (payload : Payload) : Act Unit := do
  match (← get).channels[number]? with
  | some { process := some process, closing := false, .. } => writeInput process payload
  | _ => return

/-- Sends a notification. -/
def notifyThrough (number : Nat) (method : String) (params : Value := .null) : Act Unit :=
  send number (.message (Rpc.notificationMessage method params))

/-- Lists a request and sends it, if it can be written: the promise of its answer, or what stands
against it. A request that cannot be written stays listed. -/
def requestThrough (room : Option Nat) (number : Nat) (method : String) (params : Value := .null) :
    Act (Except Json.Excess Nat) := do
  let answer ← promise
  match (← get).channels[number]? with
  | none => return .ok answer
  | some c =>
    let id := c.requests.nextId
    updateChannel number fun c =>
      { c with requests := c.requests.request method, answers := c.answers ++ [answer] }
    observe answer (.hook (.forget number id))
    let message := Rpc.requestMessage (.nat id) method params
    match Rpc.refusal? room (.object message) with
    | some what => return .error what
    | none =>
      send number (.message message)
      return .ok answer

/-- The promise of the answer to a request. -/
def Channel.answerTo? (c : Channel) (id : Nat) : Option Nat :=
  c.answers[id - 1]?

/-- Takes a message of the process: requests are answered if the answer can be written, answers
settle the promises of our own requests, and a notification is returned. -/
def takeMessage (room : Option Nat) (number : Nat) (message : Fields) :
    Act (Option (String × Value)) := do
  match (← get).channels[number]? with
  | none => return none
  | some c =>
    let (requests, reaction) := c.requests.handle { writing := room } Rpc.defaultHandlers message
    updateChannel number fun c => { c with requests }
    match reaction with
    | .none | .failed _ => return none
    | .reply message =>
      send number (.message message)
      return none
    | .decided id outcome =>
      (c.answerTo? id).forM fun answer => settle answer (outcome.map .json)
      return none
    | .notified method params => return some (method, params)

/-- Decides all requests under way with one failure. -/
def rejectAll (number : Nat) (failure : Failure) : Act Unit := do
  match (← get).channels[number]? with
  | none => return
  | some c =>
    updateChannel number fun c => { c with requests := c.requests.rejectAll failure }
    c.requests.rejectable.forM fun request =>
      (c.answerTo? request.id).forM fun answer => settle answer (.error failure)

/-- Takes a request off its list; a request that is still undecided then was given up. -/
def forget (number id : Nat) : Act Unit :=
  updateChannel number fun c => { c with requests := (c.requests.cancel id).unlist id }

end BasiliskServer.World
