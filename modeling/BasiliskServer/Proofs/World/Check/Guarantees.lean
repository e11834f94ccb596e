import BasiliskServer.Proofs.World.Noninterference.Steps

/-!
# What can be relied on in a check

In a check of a file the first task does everything in order, and other tasks help it: they wait for
commands and processes to end, and read what a process writes. Who waits for such a promise relies on
what it was settled with. A promise comes with a `Pledge`: what is certain when it was settled with
success (`Guarantee`), and with which failures it may be settled (`Excuse`). A `Trust` is what all
promises pledge, and which of them were given up.

`Trust.Sound` says that the scheduler is as its promises pledge: promises are settled as they may be,
the points of the tasks that help fit together, and the first task waits for what it can go on with.
What happens to a scheduler in a check keeps it so.
-/

namespace BasiliskServer.World

open Tasks (Notice Scheduler)

/-! ## Pledges -/

/-- What is certain when a promise was settled with success. -/
inductive Guarantee where
  /-- Nothing. -/
  | nothing
  /-- A companion process has ended. -/
  | ended (process : Nat)
  /-- A command has ended. -/
  | ran (command : Nat)
  /-- The first task is over. -/
  | last
  /-- This cannot be. -/
  | never

/-- With which failures a promise may be settled. -/
inductive Excuse where
  /-- With none. -/
  | never
  /-- With any. -/
  | anyhow
  /-- The promise of an answer: with one that says that there is none, or given up. -/
  | reply (promise : Nat)
  /-- Given up, if the task with the result is. -/
  | upon (result : Nat)
  /-- With any, when the first task is over. -/
  | last

/-- What a promise pledges. -/
structure Pledge where
  /-- What is certain when it was settled with success. -/
  guarantee : Guarantee
  /-- With which failures it may be settled. -/
  excuse : Excuse

namespace Pledge

/-- Nobody relies on the promise. -/
def free : Pledge := ⟨.nothing, .anyhow⟩

/-- The promise is kept. -/
def signal : Pledge := ⟨.nothing, .never⟩

/-- The promise is settled when the first task is over. -/
def last : Pledge := ⟨.last, .last⟩

/-- The promise of an answer. -/
def reply (promise : Nat) : Pledge := ⟨.nothing, .reply promise⟩

end Pledge

/-- Which processes and commands have ended. -/
structure Ended where
  /-- The process has. -/
  process : Nat → Prop
  /-- The command has. -/
  command : Nat → Prop
  /-- There is a command with the number. -/
  started : Nat → Prop

/-- Which processes and commands of a world have ended. -/
def ended (w : World) : Ended where
  process number := (exitCode? w number).isSome
  command number := (w.commands[number]?.bind (·.code)).isSome
  started number := number < w.commands.length

/-- What has ended stays so. -/
structure Ended.Grow (e e' : Ended) : Prop where
  /-- Processes that have ended stay so. -/
  process : ∀ number, e.process number → e'.process number
  /-- Commands that have ended stay so. -/
  command : ∀ number, e.command number → e'.command number
  /-- Commands that there were there are. -/
  started : ∀ number, e.started number → e'.started number

/-- Who is guaranteed one thing is guaranteed another. -/
def Guarantee.Gives (given wanted : Guarantee) : Prop :=
  given = .never ∨ wanted = .nothing ∨ given = wanted

/-- What all promises pledge, which of them were given up, and whether the first task is over. -/
structure Trust where
  /-- What the promises pledge. -/
  pledges : List Pledge := []
  /-- Those that were given up. -/
  given : List Nat := []
  /-- Whether the first task is over. -/
  closed : Bool := false

namespace Trust

/-- What is guaranteed is so. -/
def Grants (T : Trust) (e : Ended) : Guarantee → Prop
  | .nothing => True
  | .ended process => e.process process
  | .ran command => e.command command
  | .last => T.closed = true
  | .never => False

/-- A failure is excused. -/
def Excuses (T : Trust) : Excuse → Failure → Prop
  | .never, _ => False
  | .anyhow, _ => True
  | .reply q, failure => isUnanswered failure ∨ failure = .cancelled ∧ q ∈ T.given
  | .upon result, failure => failure = .cancelled ∧ result ∈ T.given
  | .last, _ => T.closed = true

/-- A promise that pledges this may be settled with the outcome. -/
def Allows (T : Trust) (e : Ended) (pledge : Pledge) : Outcome → Prop
  | .ok _ => T.Grants e pledge.guarantee
  | .error failure => T.Excuses pledge.excuse failure

/-- What a notice settles with success guarantees nothing. -/
def Announces (T : Trust) : Notice Hook → Prop
  | .wake _ | .hook _ => True
  | .release q | .tally q => ∃ pledge, T.pledges[q]? = some pledge ∧ pledge.guarantee = .nothing
  | .relay _ _ => False

/-- A trust with further pledges; more may have been given up. -/
structure Grows (T T' : Trust) : Prop where
  /-- The pledges are still made. -/
  pledges : ∀ (q : Nat) (pledge : Pledge), T.pledges[q]? = some pledge → T'.pledges[q]? = some pledge
  /-- What was given up is. -/
  given : ∀ q ∈ T.given, q ∈ T'.given
  /-- When the first task is over, it stays so. -/
  closed : T.closed = true → T'.closed = true

/-- A promise is made. -/
def add (T : Trust) (pledge : Pledge) : Trust :=
  { T with pledges := T.pledges ++ [pledge] }

/-- A promise is given up. -/
def drop (T : Trust) (q : Nat) : Trust :=
  { T with given := q :: T.given }

/-- The first task is over. -/
def close (T : Trust) : Trust :=
  { T with closed := true }

end Trust

/-! ## Points -/

/-- What a point relies on where all went well. -/
def Point.relies : Point → Guarantee
  | .program .hanging => .never
  | .program (.ending process) | .channel (.gone _ process) => .ended process
  | _ => .nothing

/-- What a point guarantees to the point below it, if somebody who helps can stand at it. -/
def Point.brings? : Point → Option Guarantee
  | .start (.communicate number) | .program (.working number) => some (.ran number)
  | .start (.awaitExit process) | .program (.ending process) => some (.ended process)
  | .program .hanging => some .never
  | .start (.readOutput _) | .start (.readErrors _) | .start (.watch _ _) | .wait (.sleeping _)
  | .channel (.output _ _) | .channel (.errors _ _) | .channel (.drained _ _) | .channel (.gone _ _) =>
    some .nothing
  | _ => none

/-- The points at which a task reads what a process writes, which may go wrong. -/
def Point.isFallible : Point → Bool
  | .start (.readOutput _) | .start (.readErrors _) | .channel (.output _ _) | .channel (.errors _ _) =>
    true
  | _ => false

/-- The command that a point is about. -/
def Point.command? : Point → Option Nat
  | .start (.communicate number) | .program (.working number) => some number
  | _ => none

/-- The points at which the first task looks at what it is told. -/
def Point.isStrict : Point → Bool
  | .program (.finished _ _ _) | .channel (.asked _ _) | .connection (.parted _ _) => true
  | _ => false

/-- The points that can stand below any other. -/
def Point.isEasy (point : Point) : Bool :=
  !point.isWait && !point.isStrict

/-- What the first of some points relies on, or else what is relied on below. -/
def relied (below : Guarantee) : List Point → Guarantee
  | [] => below
  | point :: _ => point.relies

/-- The points of a task that helps fit together, and what they come to is as the result pledges. -/
def Pledge.Chain (e : Ended) (pledge : Pledge) : List Point → Prop
  | [] => True
  | point :: rest => (∃ brought, point.brings? = some brought ∧ brought.Gives (relied pledge.guarantee rest)) ∧
      (point.isFallible = true → pledge.excuse = .anyhow) ∧
      (∀ number, point.command? = some number → e.started number) ∧ pledge.Chain e rest

/-- Whoever waits for a promise for some time can go on at the point. -/
def Pledge.Meets (q : Nat) (pledge : Pledge) : Point → Prop
  | .program (.finished number _ _) => pledge = ⟨.ran number, .upon q⟩
  | .channel (.asked _ process) => pledge = ⟨.ended process, .upon q⟩
  | .connection (.parted _ _) | .connection (.greeted _ _ _) | .tool (.received _ _) => pledge = .reply q
  | _ => False

/-- What the first task relies on at a point. -/
def Point.Accepts (e : Ended) : Point → Outcome → Prop
  | .program (.finished number _ _), outcome =>
    (∀ a, outcome = .ok a → e.command number) ∧ ∀ failure, outcome = .error failure → failure = .timedOut
  | .channel (.asked _ process), outcome =>
    (∀ a, outcome = .ok a → e.process process) ∧ ∀ failure, outcome = .error failure → failure = .timedOut
  | .connection (.parted _ _), outcome => ∀ failure, outcome = .error failure → isUnanswered failure
  | _, _ => True

/-- The points of the first task lie on each other as they may: it waits above one point, if at all, and
only the first point that is not for waiting looks at what it is told. -/
def Layered : List Point → Prop
  | [] => True
  | [_] => True
  | point :: next :: rest => (if point.isWait then next.isWait = false else next.isEasy = true) ∧
      ∀ other ∈ rest, other.isEasy = true

namespace Trust

/-- The first task can wait at the first of some points for something that is kept. -/
def Awaits (T : Trust) : List Point → Prop
  | .wait (.limited q _) :: point :: _ =>
    ∃ pledge, T.pledges[q]? = some pledge ∧ pledge.Meets q point ∧ (point.isStrict = true → q ∉ T.given)
  | .wait (.reaping q _ interrupted) :: point :: _ =>
    interrupted = false ∧ ∃ pledge, T.pledges[q]? = some pledge ∧ pledge.Meets q point
  | .wait (.sleeping _) :: point :: _ => point.isEasy = true
  | .channel (.quiet _) :: _ => True
  | _ => False

/-- The first task can go on at its points with the outcome. -/
def Takes (T : Trust) (e : Ended) : List Point → Outcome → Prop
  | [], _ => True
  | .wait point :: rest, outcome => (∃ a, outcome = .ok a) ∧ T.Awaits (.wait point :: rest)
  | point :: _, outcome => point.Accepts e outcome

/-- A task that helps: its points fit together, and it waits for something that it can go on with. -/
structure Helps (T : Trust) (e : Ended) (pledge : Pledge) (idle : Prop) (task : Tasks.Task Point) : Prop where
  /-- Its result pledges this. -/
  result : T.pledges[task.result]? = some pledge
  /-- Its points fit together. -/
  chain : pledge.Chain e task.stack
  /-- If it is to be given up, it is excused. -/
  interrupted : task.interrupted = true → T.Excuses pledge.excuse .cancelled
  /-- What it waits for is what it relies on. -/
  waits : idle → ∀ q, task.waiting = some q → task.begun = true ∧ ∃ other, T.pledges[q]? = some other ∧
    other.excuse = pledge.excuse ∧ other.guarantee.Gives (relied pledge.guarantee task.stack)
  /-- If it waits for nothing, it has not begun or is over. -/
  fresh : idle → task.waiting = none →
    task.stack = [] ∨ task.begun = false ∧ ∃ activity, task.stack = [.start activity]

/-- The first task: it is not given up, and waits for something that it can go on with. -/
structure Leads (T : Trust) (idle : Prop) (task : Tasks.Task Point) : Prop where
  /-- Its result is settled at last. -/
  result : T.pledges[task.result]? = some .last
  /-- If it is over, it has no points left. -/
  closed : T.closed = true → task.stack = []
  /-- It is not to be given up. -/
  interrupted : task.interrupted = false
  /-- Its points lie on each other as they may. -/
  layered : Layered task.stack
  /-- What it waits for is kept, and it can go on with that. -/
  waits : idle → ∀ q, task.waiting = some q →
    task.begun = true ∧ T.pledges[q]? = some .signal ∧ T.Awaits task.stack
  /-- If it waits for nothing, it has not begun or is over. -/
  fresh : idle → task.waiting = none →
    task.stack = [] ∨ task.begun = false ∧ ∃ activity, task.stack = [.start activity]

/-- The first task leads, and all others help. -/
structure Employs (T : Trust) (e : Ended) (number : Nat) (idle : Prop) (task : Tasks.Task Point) : Prop where
  /-- The first task leads. -/
  leads : number = 0 → T.Leads idle task
  /-- The others help. -/
  helps : number ≠ 0 → ∃ pledge, T.Helps e pledge idle task

/-- Everything in the scheduler is as the promises pledge. -/
structure Sound (T : Trust) (e : Ended) (s : Scheduler Point Answer Hook) : Prop where
  /-- Every promise pledges something. -/
  length : T.pledges.length = s.promises.length
  /-- What was given up was promised. -/
  given : ∀ q ∈ T.given, q < T.pledges.length
  /-- What was settled was settled as it may be. -/
  outcomes : ∀ (q : Nat) (pledge : Pledge) (outcome : Outcome), T.pledges[q]? = some pledge →
    s.outcome? q = some outcome → T.Allows e pledge outcome
  /-- What is going to be settled guarantees nothing. -/
  notices : ∀ notice ∈ s.notices, T.Announces notice
  /-- The first task leads, and all others help. -/
  tasks : ∀ (number : Nat) (task : Tasks.Task Point), s.tasks[number]? = some task →
    T.Employs e number (∀ outcome, s.running ≠ some (number, outcome)) task
  /-- The result of a task that is over is known. -/
  finished : ∀ (number : Nat) (task : Tasks.Task Point), s.tasks[number]? = some task →
    (∀ outcome, s.running ≠ some (number, outcome)) → task.stack = [] → task.waiting = none →
    (s.outcome? task.result).isSome
  /-- A promise that says so is that of the result of a task. -/
  owners : ∀ (q number : Nat), (s.promises[q]?).bind (·.task) = some number →
    ∃ task, s.tasks[number]? = some task ∧ task.result = q
  /-- The task that runs has begun and waits for nothing. -/
  running : ∀ (number : Nat) (outcome : Outcome), s.running = some (number, outcome) →
    ∃ task, s.tasks[number]? = some task ∧ task.waiting = none ∧ task.begun = true

/-- The task that runs is told what it relies on, or is over already. -/
structure Told (T : Trust) (e : Ended) (s : Scheduler Point Answer Hook) : Prop where
  /-- The first task is told what it can go on with. -/
  leader : ∀ (outcome : Outcome) (task : Tasks.Task Point), s.running = some (0, outcome) →
    s.tasks[0]? = some task → T.Takes e task.stack outcome
  /-- The others are told what they rely on. -/
  helper : ∀ (number : Nat) (outcome : Outcome) (task : Tasks.Task Point) (pledge : Pledge),
    s.running = some (number, outcome) → number ≠ 0 → s.tasks[number]? = some task →
    T.pledges[task.result]? = some pledge → task.stack = [] ∧ (s.outcome? task.result).isSome ∨
      T.Allows e ⟨relied pledge.guarantee task.stack, pledge.excuse⟩ outcome

/-- An activity of a task that helps goes on as the result pledges. -/
def Continues (T : Trust) (e : Ended) (pledge : Pledge) : Next → Prop
  | .wait q front => pledge.Chain e front ∧ ∃ other, T.pledges[q]? = some other ∧
      other.excuse = pledge.excuse ∧ other.guarantee.Gives (relied pledge.guarantee front)
  | .go outcome front => pledge.Chain e front ∧ T.Allows e ⟨relied pledge.guarantee front, pledge.excuse⟩ outcome

/-- An activity of the first task goes on with what it relies on, above some points. -/
def Steers (T : Trust) (e : Ended) (rest : List Point) : Next → Prop
  | .wait q front => T.pledges[q]? = some .signal ∧ T.Awaits (front ++ rest) ∧ Layered (front ++ rest)
  | .go outcome front => T.Takes e (front ++ rest) outcome ∧ Layered (front ++ rest)

/-! ## More to rely on -/

section Mono

variable {T T' : Trust} {q : Nat}

protected theorem Grows.refl : T.Grows T :=
  ⟨fun _ _ h => h, fun _ h => h, id⟩

protected theorem Grows.trans {T'' : Trust} (h : T.Grows T') (h' : T'.Grows T'') : T.Grows T'' :=
  ⟨fun _ _ hq => h'.pledges _ _ (h.pledges _ _ hq), fun _ hq => h'.given _ (h.given _ hq),
    fun hclosed => h'.closed (h.closed hclosed)⟩

theorem grows_add (pledge : Pledge) : T.Grows (T.add pledge) where
  pledges := fun _ _ hq => Tasks.getElem?_append_of_some hq [pledge]
  given := fun _ h => h
  closed := id

theorem grows_drop (q : Nat) : T.Grows (T.drop q) :=
  ⟨fun _ _ h => h, fun _ h => List.mem_cons_of_mem _ h, id⟩

theorem grows_close : T.Grows T.close :=
  ⟨fun _ _ h => h, fun _ h => h, fun _ => rfl⟩

theorem pledges_add (pledge : Pledge) : (T.add pledge).pledges[T.pledges.length]? = some pledge := by
  simp [add]

end Mono

end Trust

namespace Ended.Grow

variable {e e' e'' : Ended}

protected theorem refl (e : Ended) : e.Grow e :=
  ⟨fun _ h => h, fun _ h => h, fun _ h => h⟩

protected theorem trans (h : e.Grow e') (h' : e'.Grow e'') : e.Grow e'' :=
  ⟨fun _ hn => h'.process _ (h.process _ hn), fun _ hn => h'.command _ (h.command _ hn),
    fun _ hn => h'.started _ (h.started _ hn)⟩

end Ended.Grow

namespace Guarantee

protected theorem Gives.refl (g : Guarantee) : g.Gives g :=
  .inr (.inr rfl)

theorem gives_nothing (g : Guarantee) : g.Gives .nothing :=
  .inr (.inl rfl)

theorem never_gives (g : Guarantee) : never.Gives g :=
  .inl rfl

protected theorem Gives.trans {given known wanted : Guarantee} (h : given.Gives known)
    (h' : known.Gives wanted) : given.Gives wanted := by
  rcases h with rfl | rfl | rfl
  · exact never_gives _
  · rcases h' with h' | rfl | rfl
    · cases h'
    · exact gives_nothing _
    · exact gives_nothing _
  · exact h'

end Guarantee

namespace Trust

variable {T T' : Trust} {e e' : Ended} {pledge : Pledge} {outcome : Outcome} {idle idle' : Prop}
  {task : Tasks.Task Point} {point : Point} {front rest stack : List Point} {number q : Nat}

theorem Grants.gives {given wanted : Guarantee} (h : T.Grants e given) (hgives : given.Gives wanted) :
    T.Grants e wanted := by
  rcases hgives with rfl | rfl | rfl
  · cases h
  · trivial
  · exact h

theorem Grants.mono {guarantee : Guarantee} (h : T.Grants e guarantee) (hgrows : T.Grows T')
    (hgrow : e.Grow e') : T'.Grants e' guarantee := by
  cases guarantee with
  | ended process => exact hgrow.process _ h
  | ran command => exact hgrow.command _ h
  | last => exact hgrows.closed h
  | _ => exact h

theorem Excuses.mono {excuse : Excuse} {failure : Failure} (h : T.Excuses excuse failure)
    (hgrows : T.Grows T') : T'.Excuses excuse failure := by
  cases excuse with
  | reply q => exact h.imp_right fun ⟨hcancelled, hgiven⟩ => ⟨hcancelled, hgrows.given q hgiven⟩
  | upon result => exact ⟨h.1, hgrows.given result h.2⟩
  | last => exact hgrows.closed h
  | _ => exact h

theorem Allows.mono (h : T.Allows e pledge outcome) (hgrows : T.Grows T') (hgrow : e.Grow e') :
    T'.Allows e' pledge outcome := by
  cases outcome with
  | ok answer => exact Grants.mono h hgrows hgrow
  | error failure => exact Excuses.mono h hgrows

/-- What is allowed where more is guaranteed is allowed. -/
theorem Allows.gives {other : Pledge} (h : T.Allows e other outcome)
    (hgives : other.guarantee.Gives pledge.guarantee) (hexcuse : other.excuse = pledge.excuse) :
    T.Allows e pledge outcome := by
  cases outcome with
  | ok answer => exact Grants.gives h hgives
  | error failure =>
    show T.Excuses pledge.excuse failure
    rw [← hexcuse]
    exact h

theorem Announces.mono {notice : Notice Hook} (h : T.Announces notice) (hgrows : T.Grows T') :
    T'.Announces notice := by
  cases notice with
  | release q => exact h.imp fun _ hq => ⟨hgrows.pledges _ _ hq.1, hq.2⟩
  | tally q => exact h.imp fun _ hq => ⟨hgrows.pledges _ _ hq.1, hq.2⟩
  | _ => exact h

theorem Awaits.mono (h : T.Awaits stack) (hgrows : T.Grows T') (hgiven : T'.given = T.given) :
    T'.Awaits stack := by
  unfold Awaits at h ⊢
  split at h
  · exact h.imp fun _ hq => ⟨hgrows.pledges _ _ hq.1, hq.2.1, hgiven ▸ hq.2.2⟩
  · exact ⟨h.1, h.2.imp fun _ hq => ⟨hgrows.pledges _ _ hq.1, hq.2⟩⟩
  · exact h
  · trivial
  · cases h

/-- Who can wait above some points can wait above more. -/
theorem Awaits.append (h : T.Awaits front) (rest : List Point) : T.Awaits (front ++ rest) := by
  unfold Awaits at h
  split at h
  · exact h
  · exact h
  · exact h
  · trivial
  · cases h

theorem Chain.mono (h : pledge.Chain e stack) (hgrow : e.Grow e') : pledge.Chain e' stack := by
  induction stack with
  | nil => trivial
  | cons point rest ih =>
    exact ⟨h.1, h.2.1, fun number hnumber => hgrow.started number (h.2.2.1 number hnumber), ih h.2.2.2⟩

theorem Helps.mono (h : T.Helps e pledge idle task) (hgrows : T.Grows T') (hgrow : e.Grow e')
    (hidle : idle' → idle) : T'.Helps e' pledge idle' task where
  result := hgrows.pledges _ _ h.result
  chain := Chain.mono h.chain hgrow
  interrupted := fun hflag => (h.interrupted hflag).mono hgrows
  waits := fun hidle' q hq => (h.waits (hidle hidle') q hq).imp_right
    (Exists.imp fun _ hother => ⟨hgrows.pledges _ _ hother.1, hother.2⟩)
  fresh := fun hidle' => h.fresh (hidle hidle')

theorem Leads.mono (h : T.Leads idle task) (hgrows : T.Grows T') (hclosed : T'.closed = T.closed)
    (hidle : idle' → idle) (hgiven : idle' → T'.given = T.given) : T'.Leads idle' task where
  result := hgrows.pledges _ _ h.result
  closed := fun hover => h.closed (hclosed ▸ hover)
  interrupted := h.interrupted
  layered := h.layered
  waits := fun hidle' q hq =>
    have ⟨hbegun, hsignal, hawaits⟩ := h.waits (hidle hidle') q hq
    ⟨hbegun, hgrows.pledges _ _ hsignal, hawaits.mono hgrows (hgiven hidle')⟩
  fresh := fun hidle' => h.fresh (hidle hidle')

theorem Employs.mono (h : T.Employs e number idle task) (hgrows : T.Grows T') (hgrow : e.Grow e')
    (hclosed : T'.closed = T.closed) (hidle : idle' → idle)
    (hgiven : number = 0 → idle' → T'.given = T.given) : T'.Employs e' number idle' task where
  leads := fun hfirst => (h.leads hfirst).mono hgrows hclosed hidle (hgiven hfirst)
  helps := fun hother => (h.helps hother).imp fun _ hhelps => hhelps.mono hgrows hgrow hidle

/-! ## Stacks -/

theorem relied_append (below : Guarantee) (front rest : List Point) :
    relied below (front ++ rest) = relied (relied below rest) front := by
  cases front <;> rfl

theorem chain_append : pledge.Chain e (front ++ rest) ↔
    Pledge.Chain e ⟨relied pledge.guarantee rest, pledge.excuse⟩ front ∧ pledge.Chain e rest := by
  induction front with
  | nil => simp [Pledge.Chain]
  | cons point front ih => simp [Pledge.Chain, ih, relied_append, and_assoc]

/-- Below a point that looks at what it is told, or that does not wait, all points are easy. -/
theorem easy_of_layered (h : Layered (point :: rest)) (hwait : point.isWait = false) :
    ∀ other ∈ rest, other.isEasy = true := by
  cases rest with
  | nil => exact fun _ hother => absurd hother List.not_mem_nil
  | cons next rest =>
    intro other hother
    rcases List.mem_cons.1 hother with rfl | hother
    · simpa [hwait] using h.1
    · exact h.2 other hother

/-- Any points may stand on easy ones that may stand at all. -/
theorem layered_append (h : Layered front) (hrest : ∀ other ∈ rest, other.isEasy = true) :
    Layered (front ++ rest) := by
  -- only at the seam do points of both lists stand beside each other
  match front, rest with
  | [], [] => trivial
  | [], [_] => trivial
  | [], point :: next :: rest =>
    have hnext := hrest next (by simp)
    refine ⟨?_, fun other hother => hrest other (by simp [hother])⟩
    split
    · simp only [Point.isEasy, Bool.and_eq_true, Bool.not_eq_true'] at hnext
      exact hnext.1
    · exact hnext
  | [_], [] => trivial
  | [point], next :: rest =>
    have hnext := hrest next (by simp)
    refine ⟨?_, fun other hother => hrest other (by simp [hother])⟩
    split
    · simp only [Point.isEasy, Bool.and_eq_true, Bool.not_eq_true'] at hnext
      exact hnext.1
    · exact hnext
  | point :: next :: front, rest =>
    refine ⟨h.1, fun other hother => ?_⟩
    rcases List.mem_append.1 hother with hother | hother
    · exact h.2 other hother
    · exact hrest other hother

/-- At an easy point the first task goes on with anything. -/
theorem takes_of_easy (hrest : ∀ other ∈ rest, other.isEasy = true) : T.Takes e rest outcome := by
  cases rest with
  | nil => trivial
  | cons point rest =>
    have heasy := hrest point List.mem_cons_self
    cases point with
    | wait point => cases heasy
    | program point => cases point <;> trivial
    | channel point => cases point <;> trivial
    | connection point => cases point <;> trivial
    | _ => trivial

/-- Who goes on above some points goes on above more. -/
theorem Takes.append (h : T.Takes e front outcome) (hrest : ∀ other ∈ rest, other.isEasy = true) :
    T.Takes e (front ++ rest) outcome := by
  cases front with
  | nil => exact takes_of_easy hrest
  | cons point front =>
    cases point with
    | wait point => exact ⟨h.1, h.2.append rest⟩
    | _ => exact h

/-- Who goes on alone goes on above easy points. -/
theorem Steers.append {next : Next} (h : T.Steers e [] next) (hrest : ∀ other ∈ rest, other.isEasy = true) :
    T.Steers e rest next := by
  cases next with
  | wait q front =>
    simp only [Steers, List.append_nil] at h ⊢
    exact ⟨h.1, h.2.1.append rest, layered_append h.2.2 hrest⟩
  | go outcome front =>
    simp only [Steers, List.append_nil] at h ⊢
    exact ⟨h.1.append hrest, layered_append h.2 hrest⟩

/-- Who goes on alone goes on above an easy point. -/
theorem Steers.under {next : Next} (h : T.Steers e [] next) (hpoint : point.isEasy = true) :
    T.Steers e [] (next.under point) := by
  have hbelow : ∀ other ∈ [point], other.isEasy = true := by simpa using hpoint
  have happend := h.append hbelow
  cases next with
  | wait q front => simpa [Steers, Tasks.Next.under] using happend
  | go outcome front => simpa [Steers, Tasks.Next.under] using happend

/-- What is given is taken by anyone who does not look at it. -/
theorem steers_give (outcome : Outcome) : T.Steers e [] (.go outcome []) :=
  ⟨trivial, trivial⟩

theorem Continues.gives {other : Pledge} {next : Next} (h : T.Continues e other next)
    (hgives : other.guarantee.Gives pledge.guarantee) (hexcuse : other.excuse = pledge.excuse) :
    T.Continues e pledge next := by
  -- by induction on the points: only the last one brings what is relied on below them all
  have hchain : ∀ {front : List Point}, other.Chain e front → pledge.Chain e front := by
    intro front
    induction front with
    | nil => exact fun _ => trivial
    | cons point rest ih =>
      rintro ⟨⟨brought, hbrings, hbrought⟩, hreading, hstarted, hrest⟩
      refine ⟨⟨brought, hbrings, ?_⟩, hexcuse ▸ hreading, hstarted, ih hrest⟩
      cases rest with
      | nil => exact hbrought.trans hgives
      | cons => exact hbrought
  -- what is relied on next is the same unless there are no points
  have hrelied : ∀ front : List Point,
      (relied other.guarantee front).Gives (relied pledge.guarantee front) := by
    intro front
    cases front with
    | nil => exact hgives
    | cons => exact .refl _
  cases next with
  | wait q front =>
    obtain ⟨hfront, waited, hwaited, hsame, hgiven⟩ := h
    exact ⟨hchain hfront, waited, hwaited, hsame.trans hexcuse, hgiven.trans (hrelied front)⟩
  | go outcome front => exact ⟨hchain h.1, h.2.gives (hrelied front) hexcuse⟩

/-- Who waits for a promise for some time is told what it was settled with in time. -/
theorem accepts_of_meets (hmeets : pledge.Meets q point) (hgiven : point.isStrict = true → q ∉ T.given)
    (hallows : T.Allows e pledge outcome) : point.Accepts e outcome := by
  -- where the end of a program is waited for, the promise can fail only when it is given up,
  -- and the first task has not given it up
  have hupon : ∀ guarantee, point.isStrict = true → pledge = ⟨guarantee, .upon q⟩ →
      (∀ a, outcome = .ok a → T.Grants e guarantee) ∧
        ∀ failure, outcome = .error failure → failure = .timedOut := by
    rintro guarantee hstrict rfl
    refine ⟨fun a ha => ?_, fun failure hfailure => ?_⟩
    · subst ha
      exact hallows
    · subst hfailure
      exact absurd hallows.2 (hgiven hstrict)
  cases point with
  | program point => cases point <;> first | exact hupon _ rfl hmeets | trivial
  | channel point => cases point <;> first | exact hupon _ rfl hmeets | trivial
  | connection point =>
    cases point with
    | parted connection channel =>
      obtain rfl : pledge = .reply q := hmeets
      rintro failure rfl
      exact hallows.resolve_right fun hlate => hgiven rfl hlate.2
    | _ => trivial
  | _ => trivial

/-- What a promise that was given up has come to is known, or it took too long. -/
theorem lateOutcome_cases (known : Option Outcome) : lateOutcome known = .error .timedOut ∨
    ∃ outcome, known = some outcome ∧ lateOutcome known = outcome ∧ outcome ≠ .error .cancelled := by
  unfold lateOutcome
  split
  · exact .inl rfl
  · rename_i outcome hnot
    exact .inr ⟨outcome, rfl, rfl, fun h => hnot (h ▸ rfl)⟩
  · exact .inl rfl

/-- Who gave a promise up is told what it was settled with meanwhile, or that it took too long. -/
theorem accepts_lateOutcome {known : Option Outcome} (hmeets : pledge.Meets q point)
    (hallows : ∀ outcome, known = some outcome → T.Allows e pledge outcome) :
    point.Accepts e (lateOutcome known) := by
  -- a promise that was given up in vain counts as late: what fails with `cancelled` is never told
  have hlate := lateOutcome_cases known
  have hupon : ∀ guarantee, pledge = ⟨guarantee, .upon q⟩ →
      (∀ a, lateOutcome known = .ok a → T.Grants e guarantee) ∧
        ∀ failure, lateOutcome known = .error failure → failure = .timedOut := by
    rintro guarantee rfl
    rcases hlate with hlate | ⟨outcome, hknown, heq, hne⟩
    · rw [hlate]
      exact ⟨fun a ha => (by cases ha), fun failure hfailure => (Except.error.inj hfailure).symm⟩
    · have hallowed := hallows outcome hknown
      rw [heq]
      refine ⟨fun a ha => ?_, fun failure hfailure => ?_⟩
      · subst ha
        exact hallowed
      · subst hfailure
        exact absurd (congrArg Except.error hallowed.1) hne
  cases point with
  | program point => cases point <;> first | exact hupon _ hmeets | trivial
  | channel point => cases point <;> first | exact hupon _ hmeets | trivial
  | connection point =>
    cases point with
    | parted connection channel =>
      obtain rfl : pledge = .reply q := hmeets
      intro failure hfailure
      rcases hlate with hlate | ⟨outcome, hknown, heq, hne⟩
      · rw [hlate] at hfailure
        obtain rfl := Except.error.inj hfailure
        rfl
      · have hallowed := hallows outcome hknown
        rw [heq] at hfailure
        subst hfailure
        -- an answer that is not late was not given up
        exact hallowed.resolve_right fun hcancelled => hne (congrArg Except.error hcancelled.1)
    | _ => trivial
  | _ => trivial

/-- What is kept is settled with success. -/
theorem ok_of_signal (h : T.Allows e .signal outcome) : ∃ answer, outcome = .ok answer := by
  cases outcome with
  | ok answer => exact ⟨answer, rfl⟩
  | error failure => exact h.elim

/-- Who waits for what is kept can go on. -/
theorem takes_of_awaits (h : T.Awaits stack) (hok : ∃ answer, outcome = .ok answer) :
    T.Takes e stack outcome := by
  unfold Awaits at h
  split at h
  · exact ⟨hok, h⟩
  · exact ⟨hok, h⟩
  · exact ⟨hok, h⟩
  · trivial
  · cases h

/-- What the first task waits for may be given up. -/
theorem excuses_of_meets (hmeets : pledge.Meets q point) :
    (T.drop q).Excuses pledge.excuse .cancelled := by
  have hupon : ∀ guarantee, pledge = ⟨guarantee, .upon q⟩ →
      (T.drop q).Excuses pledge.excuse .cancelled := by
    rintro guarantee rfl
    exact ⟨rfl, List.mem_cons_self⟩
  have hreply : pledge = .reply q → (T.drop q).Excuses pledge.excuse .cancelled := by
    rintro rfl
    exact .inr ⟨rfl, List.mem_cons_self⟩
  cases point with
  | program point => cases point <;> first | exact hupon _ hmeets | exact hmeets.elim
  | channel point => cases point <;> first | exact hupon _ hmeets | exact hmeets.elim
  | connection point => cases point <;> first | exact hreply hmeets | exact hmeets.elim
  | tool point => cases point <;> first | exact hreply hmeets | exact hmeets.elim
  | _ => exact hmeets.elim

/-- Nobody waits for the first task. -/
theorem not_meets_last : ¬ Pledge.last.Meets q point := by
  intro hmeets
  cases point with
  | program point => cases point <;> cases hmeets
  | channel point => cases point <;> cases hmeets
  | connection point => cases point <;> cases hmeets
  | tool point => cases point <;> cases hmeets
  | _ => cases hmeets

theorem layered_tail (h : Layered (point :: rest)) : Layered rest := by
  match rest with
  | [] => trivial
  | [_] => trivial
  | next :: third :: rest =>
    have hthird := h.2 third List.mem_cons_self
    refine ⟨?_, fun other hother => h.2 other (List.mem_cons_of_mem _ hother)⟩
    split
    · simp only [Point.isEasy, Bool.and_eq_true, Bool.not_eq_true'] at hthird
      exact hthird.1
    · exact hthird

end Trust

end BasiliskServer.World
