import BasiliskServer.Proofs.World.Runs
import BasiliskServer.World.Incidents

/-!
# What promises are for

A task that waits relies on what it waits for: who waits for the end of a process relies on the
process having ended, and who waits for an answer relies on nobody else giving the answer up. What
can be relied on is written down in a `Ledger`, which says for every promise what it is for
(`Purpose`) and which promises were given up. It says with which outcomes a promise may be settled
(`Ledger.Permits`), who may wait for it (`Ledger.Feeds`), and whether the points of a task fit
together (`Ledger.Sits`), where every point is told what it expects (`Expectation`).
-/

namespace BasiliskServer.World

open Json (Value)
open Tasks (Notice Scheduler Standing)

/-! ## Purposes and expectations -/

/-- What a promise is for. -/
inductive Purpose where
  /-- Something that succeeds: a timer goes off, or our turn comes. -/
  | pause
  /-- Something that may be given up. -/
  | idle
  /-- A process ends. The task with the result waits for it, and may be given up. -/
  | exit (process result : Nat)
  /-- The result of a task that waits for the end of a process on behalf of another task. -/
  | ending (process owner : Nat)
  /-- The answer to a request, for which the owner waits. -/
  | answer (channel id owner : Nat)
  /-- A connection has become ready, or not. -/
  | started
  /-- The same for one of those who wait for it. -/
  | shield (source : Nat)
  /-- The result of a task in the background. -/
  | errand (task : Nat)
  /-- The result of what somebody has called for. -/
  | call

/-- What a task relies on when it goes on. -/
inductive Expectation where
  /-- The task begins. -/
  | beginning
  /-- Waiting was not in vain. -/
  | pause
  /-- All went well. -/
  | success
  /-- A process was started, or could not be started. -/
  | process
  /-- A channel has its process, or the process could not be started. -/
  | opening
  /-- The first request over a channel was answered, or was not answered in time; the promise is that
  of its answer. -/
  | greeting (channel answer : Nat)
  /-- A request was answered, or was not answered in time. -/
  | reply
  /-- A process has ended, or has taken too long. -/
  | ending (process : Nat)
  /-- A process has ended, unless the task was given up. -/
  | exit (process : Nat)
  /-- If all went well, a process has ended. -/
  | gone (process : Nat)
  /-- A channel was closed. -/
  | closing
  /-- A connection was stopped. -/
  | departure
  /-- The keeper has no connection any more. -/
  | vacancy
  /-- Whether a connection has become ready, or something could not be written to it. -/
  | readiness
  /-- Whether a connection has become ready, for a request. -/
  | request
  /-- Anything, for what somebody has called for. -/
  | result
  /-- Anything, for a task in the background. -/
  | idle

/-- What is relied on of processes, channels and promises. -/
structure Facts where
  /-- There has been a process. -/
  known : Nat → Prop
  /-- A process has ended. -/
  ended : Nat → Prop
  /-- A request through a channel was answered with a value. -/
  answered : Nat → Nat → Value → Prop
  /-- A promise was settled. -/
  heard : Nat → Prop

/-- What was a fact is one. -/
structure Facts.Grow (f f' : Facts) : Prop where
  /-- Processes are not forgotten. -/
  known : ∀ process, f.known process → f'.known process
  /-- Processes that have ended stay so. -/
  ended : ∀ process, f.ended process → f'.ended process
  /-- Answers are not changed. -/
  answered : ∀ channel id value, f.answered channel id value → f'.answered channel id value
  /-- Promises are settled for good. -/
  heard : ∀ promise, f.heard promise → f'.heard promise

/-- What all promises are for, and which of them were given up. -/
structure Ledger where
  /-- What the promises are for. -/
  purposes : List Purpose := []
  /-- Those that were given up. -/
  dropped : List Nat := []

/-- What the points of a task have to come to, if the promise of its result is for this. -/
def Purpose.expectation? : Purpose → Option Expectation
  | .errand _ => some .idle
  | .call => some .result
  | .ending process _ => some (.exit process)
  | _ => none

/-- Whether the task with a result may give a promise up that is for this. -/
def Purpose.IsDroppable (owner : Option Nat) : Purpose → Prop
  | .errand _ => True
  | .ending _ other | .answer _ _ other => owner = some other
  | _ => False

/-- Whether the task with a result may wait for a promise that is for this. -/
def Purpose.Feeds (result promise : Nat) : Purpose → Expectation → Prop
  | .pause, e => e = .pause ∨ e = .success
  | .idle, e => e = .idle
  | .shield _, e => e = .request
  | .exit process other, e => other = result ∧ e = .exit process
  | .answer channel _ owner, e =>
    owner = result ∧ (e = .reply ∨ e = .result ∨ e = .greeting channel promise)
  | _, _ => False

/-- What the task with a result is told in the end if it waits for a promise for some time. -/
def Purpose.Yields (result promise : Nat) : Purpose → Expectation → Prop
  | .ending process owner, e => owner = result ∧ e = .ending process
  | .answer channel _ owner, e =>
    owner = result ∧ (e = .reply ∨ e = .result ∨ e = .greeting channel promise)
  | _, _ => False

/-- What a point relies on. -/
def Point.expectation : Point → Expectation
  | .start _ => .beginning
  | .wait _ => .pause
  | .program (.ending process) => .exit process
  | .channel (.opened _) => .process
  | .channel (.output _ _) | .channel (.errors _ _) | .channel (.drained _ _) => .idle
  | .channel (.gone _ process) => .gone process
  | .channel (.asked _ process) => .ending process
  | .connection (.opened _ _) => .opening
  | .connection (.greeted _ line answer) => .greeting line answer
  | .connection (.parted _ _) => .reply
  | .connection .abandoned | .connection (.refused _) | .connection (.closed _ _) => .closing
  | .connection (.awaited _ _ _ _) => .request
  | .keeper (.connected _) => .readiness
  | .keeper .disconnected => .departure
  | .keeper .cleared | .keeper (.vacated _) | .keeper (.failed _) | .keeper .released => .vacancy
  | _ => .success

/-- What a point tells the point below it, if it can stand in a stack at all. Starts and points of
waiting tell different things. -/
def Point.delivery? : Point → Option Expectation
  | .program (.starting _ _) => some .process
  | .program (.ending process) => some (.exit process)
  | .channel (.opened _) => some .opening
  | .channel (.asked _ _) | .channel (.killed _) | .channel (.quiet _) => some .closing
  | .channel (.output _ _) | .channel (.errors _ _) | .channel (.drained _ _)
  | .channel (.gone _ _) => some .idle
  | .connection (.parted _ _) | .connection (.closed _ _) => some .departure
  | .connection (.awaited _ _ _ _) => some .result
  | .connection _ => some .readiness
  | .keeper .disconnected => some .vacancy
  | .keeper _ => some .result
  | _ => none

/-- Whether what one point tells is what another relies on. -/
inductive Expectation.Suits (counter : Counter) : Expectation → Expectation → Prop where
  /-- It is the same. -/
  | same (e : Expectation) : Suits counter e e
  /-- Who does not care about being given up. -/
  | gone (process : Nat) : Suits counter (.exit process) (.gone process)
  /-- Connections can be called on where there is no keeper. -/
  | readiness (h : counter = .connections) : Suits counter .readiness .result
  /-- Connections can be called on where there is no keeper. -/
  | departure (h : counter = .connections) : Suits counter .departure .result

/-- What can be begun by a task that has to come to this in the end. -/
def Counter.Begins (counter : Counter) (activity : Activity) : Expectation → Prop
  | .result => counter.offers activity
  | .idle => (∃ channel, activity = .readOutput channel) ∨ (∃ channel, activity = .readErrors channel) ∨
      ∃ channel reader, activity = .watch channel reader
  | .exit process => activity = .awaitExit process
  | _ => False

/-- What is expected by the first of some points, or else below them. -/
def expected (below : Expectation) : List Point → Expectation
  | [] => below
  | point :: _ => point.expectation

/-- Who relies on this takes being given up. -/
def Expectation.IsLenient : Expectation → Prop
  | .idle | .exit _ | .gone _ => True
  | _ => False

/-- All that is relied on is that something went well. -/
def Expectation.IsSuccess : Expectation → Prop
  | .success | .closing | .departure | .vacancy => True
  | _ => False

/-- The points of waiting. -/
def Point.isWait : Point → Bool
  | .wait _ => true
  | _ => false

protected theorem Facts.Grow.refl (f : Facts) : f.Grow f :=
  ⟨fun _ h => h, fun _ h => h, fun _ _ _ h => h, fun _ h => h⟩

protected theorem Facts.Grow.trans {f f' f'' : Facts} (h : f.Grow f') (h' : f'.Grow f'') :
    f.Grow f'' :=
  ⟨fun _ hq => h'.known _ (h.known _ hq), fun _ hq => h'.ended _ (h.ended _ hq),
    fun _ _ _ hq => h'.answered _ _ _ (h.answered _ _ _ hq), fun _ hq => h'.heard _ (h.heard _ hq)⟩

/-- What is waited for where being given up is taken may be given up. -/
theorem Purpose.feeds_lenient {purpose : Purpose} {result q : Nat} {e : Expectation}
    (h : purpose.Feeds result q e) (hlenient : e.IsLenient) :
    purpose = .idle ∨ ∃ process, purpose = .exit process result := by
  cases purpose with
  | idle => exact .inl rfl
  | exit process other => exact .inr ⟨process, by rw [h.1]⟩
  | pause => rcases h with rfl | rfl <;> cases hlenient
  | shield source =>
    obtain rfl : e = .request := h
    cases hlenient
  | answer channel id owner => obtain ⟨-, rfl | rfl | rfl⟩ := h <;> cases hlenient
  | _ => cases h

/-- Nothing is waited for where a task begins. -/
theorem Purpose.not_feeds_beginning {purpose : Purpose} {result q : Nat} :
    ¬ purpose.Feeds result q .beginning := by
  cases purpose <;> simp [Purpose.Feeds]

namespace Ledger

/-- An outcome is as the task with a result relies on it. -/
def Admits (Γ : Ledger) (f : Facts) (result : Nat) : Expectation → Outcome → Prop
  | .beginning, outcome | .pause, outcome | .success, outcome | .closing, outcome
  | .departure, outcome | .vacancy, outcome => ∃ a, outcome = .ok a
  | .process, outcome =>
    (∃ number, outcome = .ok (.process number) ∧ f.known number) ∨
      ∃ command text, outcome = .error (.spawn command text)
  | .opening, outcome => (∃ a, outcome = .ok a) ∨ ∃ command text, outcome = .error (.spawn command text)
  | .greeting channel answer, outcome =>
    f.heard answer ∧ (∀ a, outcome = .ok a → ∃ id, f.answered channel id a.value) ∧
      ∀ failure, outcome = .error failure → isUnanswered failure
  | .reply, outcome => ∀ failure, outcome = .error failure → isUnanswered failure
  | .ending process, outcome =>
    (∀ a, outcome = .ok a → f.ended process) ∧
      ∀ failure, outcome = .error failure → failure = .timedOut ∧ f.known process
  | .exit process, outcome =>
    (∀ a, outcome = .ok a → f.ended process) ∧
      ∀ failure, outcome = .error failure → failure = .cancelled ∧ result ∈ Γ.dropped
  | .gone process, outcome => ∀ a, outcome = .ok a → f.ended process
  | .readiness, outcome =>
    (∃ ready, outcome = .ok (.bool ready)) ∨ ∃ what, outcome = .error (.ofExcess what)
  | .request, _ | .result, _ | .idle, _ => True

/-- A promise that is for this may be settled with the outcome. -/
def Permits (Γ : Ledger) (f : Facts) (promise : Nat) : Purpose → Outcome → Prop
  | .pause, outcome | .started, outcome => ∃ a, outcome = .ok a
  | .idle, _ | .shield _, _ | .errand _, _ | .call, _ => True
  | .exit process result, outcome => Γ.Admits f result (.exit process) outcome
  | .ending process _, outcome => Γ.Admits f promise (.exit process) outcome
  | .answer channel id _, outcome =>
    (∀ a, outcome = .ok a → f.answered channel id a.value) ∧
      ∀ failure, outcome = .error failure →
        isUnanswered failure ∨ failure = .cancelled ∧ promise ∈ Γ.dropped

/-- What a notice settles is for something that the notice brings. -/
def Allows (Γ : Ledger) : Notice Hook → Prop
  | .wake _ | .hook _ => True
  | .release promise => Γ.purposes[promise]? = some .pause
  | .tally promise =>
    Γ.purposes[promise]? = some .pause ∨ Γ.purposes[promise]? = some .idle
  | .relay source target => Γ.purposes[target]? = some (.shield source)

/-- The task with a result can wait for a promise and go on where this is expected. -/
def Feeds (Γ : Ledger) (result promise : Nat) (e : Expectation) : Prop :=
  ∃ purpose, Γ.purposes[promise]? = some purpose ∧ promise ∉ Γ.dropped ∧ purpose.Feeds result promise e

/-- A point of the task with a result tells what is expected below it. -/
def Passes (Γ : Ledger) (counter : Counter) (result : Nat) (below : Expectation) : Point → Prop
  | .start activity => counter.Begins activity below
  | .wait (.sleeping _) => below = .success
  | .wait (.limited inner _) =>
    inner ∉ Γ.dropped ∧ ∃ purpose, Γ.purposes[inner]? = some purpose ∧ purpose.Yields result inner below
  | .wait (.reaping inner _ interrupted) =>
    interrupted = false ∧ inner ∈ Γ.dropped ∧
      ∃ purpose, Γ.purposes[inner]? = some purpose ∧ purpose.Yields result inner below
  | point => ∃ e, point.delivery? = some e ∧ Expectation.Suits counter e below

/-- The points of the task with a result fit together. -/
def Sits (Γ : Ledger) (counter : Counter) (result : Nat) (below : Expectation) : List Point → Prop
  | [] => True
  | point :: rest => Γ.Passes counter result (expected below rest) point ∧
      Γ.Sits counter result below rest

/-- An activity of the task with a result goes on as is expected below it. -/
def Leads (Γ : Ledger) (f : Facts) (counter : Counter) (result : Nat) (below : Expectation) :
    Next → Prop
  | .wait promise front =>
    Γ.Sits counter result below front ∧ Γ.Feeds result promise (expected below front)
  | .go outcome front =>
    Γ.Sits counter result below front ∧ Γ.Admits f result (expected below front) outcome

/-- A ledger with further entries; what was given up meanwhile the task with a result could give
up. -/
structure Extends (owner : Option Nat) (Γ Γ' : Ledger) : Prop where
  /-- The entries are still there. -/
  purposes : ∀ (q : Nat) (purpose : Purpose), Γ.purposes[q]? = some purpose →
    Γ'.purposes[q]? = some purpose
  /-- What was given up is still given up. -/
  dropped : ∀ q ∈ Γ.dropped, q ∈ Γ'.dropped
  /-- What was given up meanwhile could be given up. -/
  droppable : ∀ q ∈ Γ'.dropped, q ∈ Γ.dropped ∨
    ∃ purpose, Γ'.purposes[q]? = some purpose ∧ purpose.IsDroppable owner

/-! ## Ledgers that grow -/

variable {Γ Γ' : Ledger} {f f' : Facts} {counter : Counter} {owner : Option Nat} {result : Nat}
  {below e : Expectation} {outcome : Outcome} {point : Point} {front rest stack : List Point}

protected theorem Extends.refl : Γ.Extends owner Γ :=
  ⟨fun _ _ h => h, fun _ h => h, fun _ h => .inl h⟩

protected theorem Extends.trans {Γ'' : Ledger} (h : Γ.Extends owner Γ')
    (h' : Γ'.Extends owner Γ'') : Γ.Extends owner Γ'' where
  purposes := fun q purpose hq => h'.purposes q purpose (h.purposes q purpose hq)
  dropped := fun q hq => h'.dropped q (h.dropped q hq)
  droppable := by
    intro q hq
    rcases h'.droppable q hq with hq | hnew
    · exact (h.droppable q hq).imp id fun ⟨purpose, hpurpose, hdroppable⟩ =>
        ⟨purpose, h'.purposes q purpose hpurpose, hdroppable⟩
    · exact .inr hnew

/-- Where nobody could give anything up, somebody could. -/
theorem Extends.of_nobody (h : Γ.Extends none Γ') : Γ.Extends owner Γ' where
  purposes := h.purposes
  dropped := h.dropped
  droppable := by
    intro q hq
    refine (h.droppable q hq).imp id fun ⟨purpose, hpurpose, hdroppable⟩ => ⟨purpose, hpurpose, ?_⟩
    cases purpose <;> first | exact hdroppable | cases hdroppable

theorem Admits.mono (h : Γ.Admits f result e outcome) (hext : Γ.Extends owner Γ')
    (hgrow : f.Grow f') : Γ'.Admits f' result e outcome := by
  cases e with
  | process => exact h.imp (fun ⟨number, heq, hknown⟩ => ⟨number, heq, hgrow.known _ hknown⟩) id
  | greeting channel answer =>
    exact ⟨hgrow.heard _ h.1, fun a ha => (h.2.1 a ha).imp fun _ => hgrow.answered _ _ _, h.2.2⟩
  | ending process =>
    exact ⟨fun a ha => hgrow.ended _ (h.1 a ha), fun failure hf =>
      ⟨(h.2 failure hf).1, hgrow.known _ (h.2 failure hf).2⟩⟩
  | exit process =>
    exact ⟨fun a ha => hgrow.ended _ (h.1 a ha), fun failure hf =>
      ⟨(h.2 failure hf).1, hext.dropped _ (h.2 failure hf).2⟩⟩
  | gone process => exact fun a ha => hgrow.ended _ (h a ha)
  | _ => exact h

theorem Permits.mono {q : Nat} {purpose : Purpose} (h : Γ.Permits f q purpose outcome)
    (hext : Γ.Extends owner Γ') (hgrow : f.Grow f') : Γ'.Permits f' q purpose outcome := by
  cases purpose with
  | exit process result =>
    have h : Γ.Admits f result (.exit process) outcome := h
    exact h.mono hext hgrow
  | ending process owner =>
    have h : Γ.Admits f q (.exit process) outcome := h
    exact h.mono hext hgrow
  | answer channel number owner =>
    refine ⟨fun a ha => hgrow.answered _ _ _ (h.1 a ha), fun failure hf => ?_⟩
    exact (h.2 failure hf).imp id fun ⟨hcancelled, hdropped⟩ => ⟨hcancelled, hext.dropped _ hdropped⟩
  | _ => exact h

theorem Allows.mono {notice : Notice Hook} (h : Γ.Allows notice) (hext : Γ.Extends owner Γ') :
    Γ'.Allows notice := by
  cases notice with
  | wake task => trivial
  | hook hook => trivial
  | release promise => exact hext.purposes _ _ h
  | tally promise => exact h.imp (hext.purposes _ _) (hext.purposes _ _)
  | relay source target => exact hext.purposes _ _ h

/-- What a task waits for nobody else gives up. -/
theorem Extends.notMem_dropped (hext : Γ.Extends owner Γ') (hother : owner ≠ some result) {q : Nat}
    {purpose : Purpose} (hpurpose : Γ.purposes[q]? = some purpose)
    (huse : (∃ e, purpose.Feeds result q e) ∨ ∃ e, purpose.Yields result q e) (hq : q ∉ Γ.dropped) :
    q ∉ Γ'.dropped := by
  intro hdropped
  rcases hext.droppable q hdropped with hold | ⟨purpose', hpurpose', hdroppable⟩
  · exact hq hold
  · rw [hext.purposes q purpose hpurpose] at hpurpose'
    obtain rfl := Option.some.inj hpurpose'
    cases purpose with
    | ending process other =>
      rcases huse with ⟨e, huse⟩ | ⟨e, huse⟩
      · cases huse
      · exact hother (huse.1 ▸ hdroppable)
    | answer channel id other =>
      rcases huse with ⟨e, huse⟩ | ⟨e, huse⟩ <;> exact hother (huse.1 ▸ hdroppable)
    | errand task => rcases huse with ⟨e, huse⟩ | ⟨e, huse⟩ <;> cases huse
    | _ => cases hdroppable

theorem Feeds.mono {q : Nat} (h : Γ.Feeds result q e) (hext : Γ.Extends owner Γ')
    (hother : owner ≠ some result) : Γ'.Feeds result q e := by
  obtain ⟨purpose, hpurpose, hq, hfeeds⟩ := h
  exact ⟨purpose, hext.purposes _ _ hpurpose,
    hext.notMem_dropped hother hpurpose (.inl ⟨e, hfeeds⟩) hq, hfeeds⟩

/-- A point passes on what it did if it does not wait, or if nobody gave up what it waits for. -/
theorem Passes.mono (h : Γ.Passes counter result below point) (hext : Γ.Extends owner Γ')
    (hsafe : owner ≠ some result ∨ point.isWait = false) : Γ'.Passes counter result below point := by
  cases point with
  | wait point =>
    have hother : owner ≠ some result := hsafe.resolve_right (by simp [Point.isWait])
    cases point with
    | sleeping alarm => exact h
    | limited inner alarm =>
      obtain ⟨hinner, purpose, hpurpose, hyields⟩ := h
      exact ⟨hext.notMem_dropped hother hpurpose (.inr ⟨_, hyields⟩) hinner, purpose,
        hext.purposes _ _ hpurpose, hyields⟩
    | reaping inner alarm interrupted =>
      obtain ⟨hflag, hdropped, purpose, hpurpose, hyields⟩ := h
      exact ⟨hflag, hext.dropped _ hdropped, purpose, hext.purposes _ _ hpurpose, hyields⟩
  | _ => exact h

theorem Sits.mono (h : Γ.Sits counter result below stack) (hext : Γ.Extends owner Γ')
    (hsafe : owner ≠ some result ∨ ∀ point ∈ stack, point.isWait = false) :
    Γ'.Sits counter result below stack := by
  induction stack with
  | nil => trivial
  | cons point rest ih =>
    refine ⟨h.1.mono hext (hsafe.imp id fun hcalm => hcalm point List.mem_cons_self), ih h.2 ?_⟩
    exact hsafe.imp id fun hcalm other hother => hcalm other (List.mem_cons_of_mem _ hother)

/-! ## Stacks -/

end Ledger

theorem expected_append (below : Expectation) (front rest : List Point) :
    expected below (front ++ rest) = expected (expected below rest) front := by
  cases front <;> rfl

namespace Ledger

variable {Γ Γ' : Ledger} {f f' : Facts} {counter : Counter} {owner : Option Nat} {result : Nat}
  {below e : Expectation} {outcome : Outcome} {point : Point} {front rest stack : List Point}

theorem sits_append : Γ.Sits counter result below (front ++ rest) ↔
    Γ.Sits counter result (expected below rest) front ∧ Γ.Sits counter result below rest := by
  induction front with
  | nil => simp [Sits]
  | cons point front ih => simp [Sits, ih, expected_append, and_assoc]

/-- Nothing stands above a point of waiting, above the start of a task, or above a request that waits
for a connection. -/
theorem not_passes (h : e = .pause ∨ e = .beginning ∨ e = .request) :
    ¬ Γ.Passes counter result e point := by
  intro hpasses
  cases point with
  | start activity => rcases h with rfl | rfl | rfl <;> cases hpasses
  | wait point =>
    cases point with
    | sleeping alarm => rcases h with rfl | rfl | rfl <;> cases hpasses
    | limited inner alarm =>
      obtain ⟨-, purpose, -, hyields⟩ := hpasses
      rcases h with rfl | rfl | rfl <;> cases purpose <;> simp [Purpose.Yields] at hyields
    | reaping inner alarm interrupted =>
      obtain ⟨-, -, purpose, -, hyields⟩ := hpasses
      rcases h with rfl | rfl | rfl <;> cases purpose <;> simp [Purpose.Yields] at hyields
  | _ point =>
    -- whatever another point tells, it is not this
    obtain ⟨told, htold, hsuits⟩ := hpasses
    rcases h with rfl | rfl | rfl <;> cases hsuits <;> cases point <;> cases htold

/-- Below another point nothing waits. -/
theorem Sits.calm (h : Γ.Sits counter result below (point :: rest)) :
    ∀ other ∈ rest, other.isWait = false := by
  induction rest generalizing point with
  | nil => exact fun _ hother => absurd hother List.not_mem_nil
  | cons next rest ih =>
    intro other hother
    rcases List.mem_cons.1 hother with rfl | hother
    · cases other with
      | wait point => exact absurd h.1 (not_passes (.inl rfl))
      | _ => rfl
    · exact ih h.2 other hother

theorem Sits.eq_nil_of_request (h : Γ.Sits counter result .request front) : front = [] := by
  induction front with
  | nil => rfl
  | cons point rest ih =>
    obtain rfl := ih h.2
    exact absurd h.1 (not_passes (.inr (.inr rfl)))

/-- Points of a task in the background take being given up, once it has begun. -/
theorem Sits.lenient (h : Γ.Sits counter result below stack) (hbelow : below.IsLenient) :
    (expected below stack).IsLenient ∨ expected below stack = .beginning := by
  induction stack with
  | nil => exact .inl hbelow
  | cons point rest ih =>
    obtain ⟨hpasses, hrest⟩ := h
    rcases ih hrest with hlenient | hbeginning
    · generalize expected below rest = e at hpasses hlenient
      cases point with
      | start activity => exact .inr rfl
      | wait point =>
        cases point with
        | sleeping alarm => cases hpasses; cases hlenient
        | limited inner alarm =>
          obtain ⟨-, purpose, -, hyields⟩ := hpasses
          cases purpose <;> cases e <;> simp [Purpose.Yields, Expectation.IsLenient] at hyields hlenient
        | reaping inner alarm interrupted =>
          obtain ⟨-, -, purpose, -, hyields⟩ := hpasses
          cases purpose <;> cases e <;> simp [Purpose.Yields, Expectation.IsLenient] at hyields hlenient
      | _ point =>
        obtain ⟨told, htold, hsuits⟩ := hpasses
        cases point <;> cases htold <;> cases hsuits <;> first | exact .inl trivial | cases hlenient
    · exact absurd (hbeginning ▸ hpasses) (not_passes (.inr (.inl rfl)))

/-! ## What outcomes bring -/

theorem Admits.suits {e' : Expectation} (h : Γ.Admits f result e outcome)
    (hsuits : Expectation.Suits counter e e') : Γ.Admits f result e' outcome := by
  cases hsuits with
  | same => exact h
  | gone process => exact h.1
  | _ => trivial

/-- What a promise is settled with is as those who wait for it rely on it. -/
theorem Feeds.admits {q : Nat} (h : Γ.Feeds result q e) (hheard : f.heard q)
    (hpermits : ∀ purpose, Γ.purposes[q]? = some purpose → Γ.Permits f q purpose outcome) :
    Γ.Admits f result e outcome := by
  obtain ⟨purpose, hpurpose, hq, hfeeds⟩ := h
  have hpermits := hpermits purpose hpurpose
  cases purpose with
  | pause => rcases hfeeds with rfl | rfl <;> exact hpermits
  | idle =>
    obtain rfl : e = .idle := hfeeds
    trivial
  | shield source =>
    obtain rfl : e = .request := hfeeds
    trivial
  | exit process other =>
    obtain ⟨rfl, rfl⟩ := hfeeds
    exact hpermits
  | answer channel number other =>
    obtain ⟨hanswered, hfailed⟩ := hpermits
    -- Whoever waits for an answer has not dropped it, so a failure is no cancellation.
    have hreply : ∀ failure, outcome = .error failure → isUnanswered failure := fun failure hf =>
      (hfailed failure hf).resolve_right fun hgiven => hq hgiven.2
    obtain ⟨-, rfl | rfl | rfl⟩ := hfeeds
    · exact hreply
    · trivial
    · exact ⟨hheard, fun a ha => ⟨number, hanswered a ha⟩, hreply⟩
  | _ => cases hfeeds

/-- Who waits for some time is told what the promise was settled with in time. -/
theorem admits_of_yields {inner : Nat} {purpose : Purpose} (hyields : purpose.Yields result inner e)
    (hheard : f.heard inner) (hpermits : Γ.Permits f inner purpose outcome)
    (hinner : inner ∉ Γ.dropped) : Γ.Admits f result e outcome := by
  cases purpose with
  | ending process other =>
    obtain ⟨-, rfl⟩ := hyields
    exact ⟨hpermits.1, fun failure hf => absurd (hpermits.2 failure hf).2 hinner⟩
  | answer channel number other =>
    obtain ⟨hanswered, hfailed⟩ := hpermits
    have hreply : ∀ failure, outcome = .error failure → isUnanswered failure := fun failure hf =>
      (hfailed failure hf).resolve_right fun hgiven => hinner hgiven.2
    obtain ⟨-, rfl | rfl | rfl⟩ := hyields
    · exact hreply
    · trivial
    · exact ⟨hheard, fun a ha => ⟨number, hanswered a ha⟩, hreply⟩
  | _ => cases hyields

/-- Who gave a promise up is told what it was settled with meanwhile, or that it took too long. -/
theorem admits_lateOutcome {inner : Nat} {purpose : Purpose} (hyields : purpose.Yields result inner e)
    (hknown : ∀ process other, purpose = .ending process other → f.known process)
    (hheard : ∀ channel id other, purpose = .answer channel id other → f.heard inner)
    {late : Option Outcome}
    (hpermits : ∀ outcome, late = some outcome → Γ.Permits f inner purpose outcome) :
    Γ.Admits f result e (lateOutcome late) := by
  -- What is not settled by then, or was only cancelled, counts as having taken too long.
  have hlate : (∃ a, late = some (.ok a) ∧ lateOutcome late = .ok a) ∨
      lateOutcome late = .error .timedOut ∨
      ∃ failure, late = some (.error failure) ∧ failure ≠ .cancelled ∧
        lateOutcome late = .error failure := by
    unfold lateOutcome
    split
    · exact .inr (.inl rfl)
    · rename_i outcome hnot
      cases outcome with
      | ok a => exact .inl ⟨a, rfl, rfl⟩
      | error failure => exact .inr (.inr ⟨failure, rfl, fun h => hnot (h ▸ rfl), rfl⟩)
    · exact .inr (.inl rfl)
  cases purpose with
  | ending process other =>
    obtain ⟨-, rfl⟩ := hyields
    rcases hlate with ⟨a, hsome, heq⟩ | heq | ⟨failure, hsome, hne, heq⟩ <;> rw [heq]
    · exact ⟨fun _ _ => (hpermits _ hsome).1 a rfl, fun _ h => by cases h⟩
    · exact ⟨fun _ h => (by cases h), fun _ h => ⟨(Except.error.inj h).symm, hknown _ _ rfl⟩⟩
    · exact absurd ((hpermits _ hsome).2 failure rfl).1 hne
  | answer channel number other =>
    have hreply : (∀ a, lateOutcome late = .ok a → f.answered channel number a.value) ∧
        ∀ failure, lateOutcome late = .error failure → isUnanswered failure := by
      rcases hlate with ⟨a, hsome, heq⟩ | heq | ⟨failure, hsome, hne, heq⟩ <;> rw [heq]
      · refine ⟨fun a' ha' => ?_, fun _ h => by cases h⟩
        rw [← Except.ok.inj ha']
        exact (hpermits _ hsome).1 a rfl
      · exact ⟨fun _ h => (by cases h), fun failure h => by rw [← Except.error.inj h]; rfl⟩
      · refine ⟨fun _ h => (by cases h), fun failure' h => ?_⟩
        rw [← Except.error.inj h]
        exact ((hpermits _ hsome).2 failure rfl).resolve_right fun hgiven => hne hgiven.1
    obtain ⟨-, rfl | rfl | rfl⟩ := hyields
    · exact hreply.2
    · trivial
    · exact ⟨hheard _ _ _ rfl, fun a ha => ⟨number, hreply.1 a ha⟩, hreply.2⟩
  | _ => cases hyields

end Ledger

end BasiliskServer.World
