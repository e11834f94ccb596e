import BasiliskServer.World.Connection

/-!
# The keeper

The keeper holds at most one connection. It starts another one only when the configuration that is
asked for needs another process, or when the connection is not ready. Those who ask are served one
after the other: who comes while another one is served waits for their turn and then finds the
connection that the other one has made.
-/

namespace BasiliskServer.World

/-- Changes the keeper. -/
def updateKeeper (change : Keeper → Keeper) : Act Unit :=
  modify fun w => { w with keeper := change w.keeper }

/-- Whether everyone who waits for their turn has given up. -/
def nobodyWaits : Act Bool := do
  let w ← get
  return w.keeper.tickets.all fun ticket =>
    w.tasks.outcome? ticket matches some (.error .cancelled)

/-- Waits for our turn, if need be with a ticket: the promise that is settled when it comes. -/
def takeTurn (point : Option Nat → KeeperPoint) : Act Next := do
  if !(← get).keeper.busy && (← nobodyWaits) then
    updateKeeper fun k => { k with busy := true }
    return .go (.ok .unit) [.keeper (point none)]
  else
    let ticket ← promise
    updateKeeper fun k => { k with tickets := k.tickets ++ [ticket] }
    waitAt ticket (.keeper (point (some ticket)))

/-- Calls the first one who waits, unless they have been called before. -/
def callFirst : Act Unit := do
  match (← get).keeper.tickets with
  | [] => return
  | ticket :: _ => settle ticket (.ok .unit)

/-- Our turn is over. -/
def leave : Act Unit := do
  updateKeeper fun k => { k with busy := false }
  callFirst

/-- It is our turn. -/
def enter (ticket : Option Nat) : Act Unit :=
  updateKeeper fun k =>
    { k with busy := true, tickets := k.tickets.filter fun t => some t ≠ ticket }

/-- We have given up waiting for our turn. -/
def withdraw (ticket : Option Nat) : Act Unit := do
  updateKeeper fun k => { k with tickets := k.tickets.filter fun t => some t ≠ ticket }
  if !(← get).keeper.busy then callFirst

/-- Stops the connection, if there is one. -/
def vacate : Act Next := do
  let connection := (← get).keeper.connection
  updateKeeper fun k => { k with connection := none, fingerprint := none }
  match connection with
  | none => finish .unit
  | some number => under (.keeper .disconnected) (disconnect number)

/-- Whether the connection is ready and needs no other process for a configuration. -/
def isServed (w : World) (config : Companion.Config) : Bool :=
  match w.keeper.connection.bind (w.connections[·]?) with
  | some c => c.phase = .ready && w.keeper.fingerprint = some config.fingerprint
  | none => false

/-- The connection, if it is ready. -/
def readyConnection? (w : World) : Option Nat :=
  w.keeper.connection.filter fun number =>
    (w.connections[number]?).any (·.phase = .ready)

/-- Sees to it that the right companion process runs, when it is our turn. -/
def arrange (config : Option Companion.Config) : Act Next := do
  match config with
  | none => under (.keeper .cleared) vacate
  | some config =>
    if isServed (← get) config then
      leave
      finish (.bool false)
    else under (.keeper (.vacated config)) vacate

/-- Sees to it that the right companion process runs; without a configuration, that none does. The
answer is whether a process was started. -/
def ensure (config : Option Companion.Config) : Act Next :=
  takeTurn (.admitted config)

/-- Stops the companion process. -/
def release : Act Next :=
  takeTurn .admittedToStop

/-- Goes on in the keeper. -/
def KeeperPoint.resume (point : KeeperPoint) (outcome : Outcome) : Act Next := do
  match point, outcome with
  | .admitted config ticket, .ok _ =>
    enter ticket
    arrange config
  | .admittedToStop ticket, .ok _ =>
    enter ticket
    under (.keeper .released) vacate
  | .admitted _ ticket, .error failure =>
    withdraw ticket
    fail failure
  | .admittedToStop ticket, .error failure =>
    withdraw ticket
    fail failure
  | .disconnected, .ok _ =>
    if (← get).keeper.observed then
      note fun r => { r with stops := r.stops + 1 }
      updateSession fun s => { s with store := s.store.clearCompanion }
    finish .unit
  | .disconnected, .error failure => fail failure
  | .vacated config, .ok _ =>
    let w ← get
    let number ← newConnection { config, listener := w.keeper.listener }
    updateKeeper fun k =>
      { k with connection := some number, fingerprint := some config.fingerprint }
    under (.keeper (.connected config)) (connect number)
  | .connected config, .ok (.bool false) => under (.keeper (.failed config)) vacate
  | .failed config, .ok _ =>
    leave
    fail (.startFailed config.path)
  | .cleared, .ok _ =>
    leave
    finish (.bool false)
  | .released, .ok _ =>
    leave
    finish .unit
  | _, outcome =>
    leave
    give outcome

end BasiliskServer.World
