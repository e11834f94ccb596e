import BasiliskServer.Proofs.Tasks.Scheduler
import BasiliskServer.World.Timeline

/-!
# What goes on in the background

Most of what happens in a world has nothing to do with which documents the companion process knows:
output is read, compilers run, problems are stored and shown. `View` is the part of the world that
does matter, and `Background` says that the world has changed in other ways only: the view is the
same, no task was moved, and no promise was settled that belongs to somebody else.

`Modest` lifts this to actions. Its rules follow the way actions are put together, so that an action
is modest because its parts are.
-/

namespace BasiliskServer.World

open Json (Value Fields)
open Tasks (Notice Scheduler)

/-! ## The part of the world that matters -/

/-- What a companion process has to know of an open document. -/
structure Sheet where
  /-- Its address. -/
  uri : String
  /-- Its text. -/
  text : String
  /-- The version that the editor gave it last. -/
  version : Int

/-- What a companion process has to know of an open document. -/
def sheetOf (document : Diagnostics.Document) : Sheet :=
  ⟨document.uri, document.text, document.clientVersion⟩

/-- Whether and where a channel leads. -/
structure Line where
  /-- The process. -/
  process : Option Nat
  /-- Whether it is being closed. -/
  closing : Bool
  /-- Who takes the messages of the process. -/
  owner : Owner

/-- Whether and where a channel leads. -/
def Channel.line (c : Channel) : Line :=
  ⟨c.process, c.closing, c.owner⟩

/-- How far a connection is, and what waits in it. -/
structure Link where
  /-- How far it is. -/
  phase : Phase
  /-- The channel to the process. -/
  channel : Option Nat
  /-- Notifications that wait until the process is ready. -/
  queue : List (String × Value)
  /-- How many levels are left when a message is written. -/
  room : Option Nat

/-- How far a connection is, and what waits in it. -/
def Connection.link (c : Connection) : Link :=
  ⟨c.phase, c.channel, c.queue, c.room⟩

/-- The part of the world that decides what companion processes know of the documents. -/
structure View where
  /-- The open documents. -/
  sheets : List Sheet
  /-- The keeper. -/
  keeper : Keeper
  /-- How far the connections are. -/
  links : List Link
  /-- Where the channels lead. -/
  lines : List Line
  /-- How many processes there have been. -/
  processCount : Nat
  /-- What the processes were told. -/
  syncs : List (Nat × String × Sync)

/-- The part of the world that decides what companion processes know of the documents. -/
def view (w : World) : View :=
  { sheets := w.session.store.documents.map sheetOf
    keeper := w.keeper
    links := w.connections.map Connection.link
    lines := w.channels.map Channel.line
    processCount := w.processes.length
    syncs := w.syncs }

/-! ## Promises that are somebody's to settle -/

/-- The promises that a process settles. -/
def Process.waiters (p : Process) : List Nat :=
  p.stdout.waiter.toList ++ p.stderr.waiter.toList ++ p.exitWaiters

/-- The promises that a connection settles. -/
def Connection.waiters (c : Connection) : List Nat :=
  c.started.toList ++ match c.listener with
    | .check _ received => [received]
    | _ => []

/-- The promises that processes, channels and connections settle. -/
def outerTargets (w : World) : List Nat :=
  w.channels.flatMap (·.answers) ++ w.processes.flatMap Process.waiters ++
    w.connections.flatMap Connection.waiters

/-- All promises that are somebody's to settle. The tickets of the keeper are not among them. -/
def targets (w : World) : List Nat :=
  w.outerTargets ++ w.tasks.targets

/-! ## Points that need no care -/

/-- What is started in the background. -/
def Activity.isErrand : Activity → Bool
  | .readOutput _ | .readErrors _ | .watch _ _ | .awaitExit _ | .communicate _ | .lookUp _
  | .validate _ _ | .commitPush _ _ _ | .republish _ => true
  | _ => false

/-- What is started in a session: what the editor calls for, and what goes on in the background. -/
def Activity.isOfSession (activity : Activity) : Bool :=
  activity.isCall || activity.isErrand

/-- The start of something in a session. -/
def Point.isBeginning : Point → Bool
  | .start activity => activity.isOfSession
  | _ => false

/-- The points of a session at which a task can stand whatever else is the case, and which can be
reached with any outcome. -/
def Point.isPlain : Point → Bool
  | .start activity => activity.isOfSession
  | .wait _ => true
  | .program (.starting _ _) => false
  | .program _ => true
  | .channel (.output _ _) | .channel (.errors _ _) | .channel (.drained _ _)
  | .channel (.gone _ _) => true
  | .channel _ => false
  | .connection (.awaited _ _ _ _) => true
  | .connection _ => false
  | .keeper _ => false
  | .tool _ => false
  | .session (.ensured _) => false
  | .session _ => true

/-- The points at which a task goes on. -/
def points : Next → List Point
  | .wait _ points => points
  | .go _ points => points

theorem points_under (next : Next) (point : Point) :
    points (next.under point) = points next ++ [point] := by
  cases next <;> rfl

/-- An activity goes on at points that need no care. -/
def Plain (next : Next) : Prop :=
  ∀ point ∈ points next, point.isPlain

/-! ## Changes in the background -/

/-- Between `base` and `w` no task was moved, and no promise of others was settled, except that a
ticket of the keeper may have been called. -/
structure Drift (called : Option Nat) (base w : World) : Prop where
  /-- No task was moved. -/
  tasks : base.tasks.Grows (·.isBeginning) (fun q => q ∈ base.targets ∨ called = some q) w.tasks
  /-- Nobody is going to settle a promise of others. -/
  outer : ∀ q ∈ w.outerTargets, q ∈ base.outerTargets ∨
    base.tasks.promises.length ≤ q ∧ q < w.tasks.promises.length

/-- The world `w` differs from `base` only by what goes on in the background. -/
structure Background (base w : World) : Prop extends Drift none base w where
  /-- What matters is the same. -/
  view : w.view = base.view

namespace Drift

variable {called : Option Nat} {base w : World}

protected theorem refl (w : World) : Drift called w w :=
  ⟨.refl, fun _ h => .inl h⟩

theorem targets (h : Drift called base w) {q : Nat} (hq : q ∈ w.targets) :
    q ∈ base.targets ∨ base.tasks.promises.length ≤ q ∧ q < w.tasks.promises.length := by
  rcases List.mem_append.1 hq with hq | hq
  · exact (h.outer q hq).imp (List.mem_append_left _) id
  · exact (h.tasks.targets q hq).imp (List.mem_append_right _) id

protected theorem trans {next : World} (h : Drift called base w) (h' : Drift called w next) :
    Drift called base next where
  tasks := h.tasks.trans h'.tasks fun _ hq =>
    hq.elim (fun hq => (h.targets hq).imp .inl And.left) fun hq => .inl (.inr hq)
  outer := by
    intro q hq
    have hle := h.tasks.promises
    have hle' := h'.tasks.promises
    rcases h'.outer q hq with hq | ⟨hge, hlt⟩
    · exact (h.outer q hq).imp id fun ⟨hge, hlt⟩ => ⟨hge, by omega⟩
    · exact .inr ⟨by omega, hlt⟩

/-- Where no ticket was called, one may have been. -/
theorem weaken (h : Drift none base w) : Drift called base w where
  tasks := .trans .refl h.tasks fun _ hq => .inl (hq.imp id fun hq => by cases hq)
  outer := h.outer

/-- Something else than tasks was changed. -/
theorem of_tasks_eq {next : World} (h : Drift called base w) (htasks : next.tasks = w.tasks)
    (houter : ∀ q ∈ next.outerTargets, q ∈ w.outerTargets ∨
      base.tasks.promises.length ≤ q ∧ q < w.tasks.promises.length) : Drift called base next where
  tasks := htasks ▸ h.tasks
  outer := fun q hq => htasks ▸ (houter q hq).elim (h.outer q) .inr

/-- What holds of all items before one is changed holds of all afterwards. -/
theorem mem_flatMap_modify {α : Type} {items : List α} {number : Nat} {change : α → α}
    {promises : α → List Nat} {allowed : Nat → Prop}
    (hchange : ∀ a ∈ items, ∀ q ∈ promises (change a), q ∈ promises a ∨ allowed q) {q : Nat}
    (hq : q ∈ (items.modify number change).flatMap promises) :
    q ∈ items.flatMap promises ∨ allowed q := by
  obtain ⟨a, ha, hq⟩ := List.mem_flatMap.1 hq
  obtain ⟨i, hi⟩ := List.mem_iff_getElem?.1 ha
  rw [List.getElem?_modify] at hi
  obtain ⟨a', ha', rfl⟩ := Option.map_eq_some_iff.1 hi
  have hmem := List.mem_of_getElem? ha'
  split at hq
  · exact (hchange a' hmem q hq).imp (fun hq => List.mem_flatMap.2 ⟨a', hmem, hq⟩) id
  · exact .inl (List.mem_flatMap.2 ⟨a', hmem, hq⟩)

/-- A process is changed, and it waits for nothing of others that is new. -/
theorem setProcess (h : Drift called base w) (number : Nat) (change : Process → Process)
    (hwaiters : ∀ p ∈ w.processes, ∀ q ∈ (change p).waiters, q ∈ p.waiters ∨
      base.tasks.promises.length ≤ q ∧ q < w.tasks.promises.length) :
    Drift called base { w with processes := w.processes.modify number change } := by
  refine h.of_tasks_eq rfl fun q hq => ?_
  simp only [outerTargets, List.mem_append] at hq ⊢
  rcases hq with (hq | hq) | hq
  · exact .inl (.inl (.inl hq))
  · exact (mem_flatMap_modify hwaiters hq).imp (fun hq => .inl (.inr hq)) id
  · exact .inl (.inr hq)

/-- A channel is changed, and it waits for nothing of others that is new. -/
theorem setChannel (h : Drift called base w) (number : Nat) (change : Channel → Channel)
    (hanswers : ∀ c ∈ w.channels, ∀ q ∈ (change c).answers, q ∈ c.answers ∨
      base.tasks.promises.length ≤ q ∧ q < w.tasks.promises.length) :
    Drift called base { w with channels := w.channels.modify number change } := by
  refine h.of_tasks_eq rfl fun q hq => ?_
  simp only [outerTargets, List.mem_append] at hq ⊢
  rcases hq with (hq | hq) | hq
  · exact (mem_flatMap_modify hanswers hq).imp (fun hq => .inl (.inl hq)) id
  · exact .inl (.inl (.inr hq))
  · exact .inl (.inr hq)

/-- A connection is changed, and it settles nothing of others that is new. -/
theorem setConnection (h : Drift called base w) (number : Nat) (change : Connection → Connection)
    (hwaiters : ∀ c ∈ w.connections, ∀ q ∈ (change c).waiters, q ∈ c.waiters ∨
      base.tasks.promises.length ≤ q ∧ q < w.tasks.promises.length) :
    Drift called base { w with connections := w.connections.modify number change } := by
  refine h.of_tasks_eq rfl fun q hq => ?_
  simp only [outerTargets, List.mem_append] at hq ⊢
  rcases hq with hq | hq
  · exact .inl (.inl hq)
  · exact (mem_flatMap_modify hwaiters hq).imp .inr id

end Drift

/-- A change of one item that does not show in a projection does not show in the list of them. -/
theorem map_modify_of_eq {α β : Type} {items : List α} {number : Nat} {change : α → α} {f : α → β}
    (h : ∀ a, f (change a) = f a) : (items.modify number change).map f = items.map f := by
  refine List.ext_getElem? fun i => ?_
  simp only [List.getElem?_map, List.getElem?_modify]
  split
  · cases items[i]? <;> simp [h]
  · cases items[i]? <;> rfl

namespace Background

variable {base w : World}

protected theorem refl (w : World) : Background w w :=
  ⟨.refl w, rfl⟩

protected theorem trans {next : World} (h : Background base w) (h' : Background w next) :
    Background base next :=
  ⟨h.toDrift.trans h'.toDrift, h'.view.trans h.view⟩

/-- The tasks are changed. -/
theorem setTasks (h : Background base w) {s : Scheduler Point Answer Hook}
    (hgrows : base.tasks.Grows (·.isBeginning) (fun q => q ∈ base.targets ∨ none = some q) s)
    (hlength : w.tasks.promises.length ≤ s.promises.length) :
    Background base { w with tasks := s } where
  view := h.view
  tasks := hgrows
  outer := fun q hq => (h.outer q hq).imp id fun ⟨hge, hlt⟩ => ⟨hge, Nat.lt_of_lt_of_le hlt hlength⟩

/-- A process is changed, and it waits for nothing new. -/
theorem setProcess (h : Background base w) (number : Nat) (change : Process → Process)
    (hwaiters : ∀ p ∈ w.processes, ∀ q ∈ (change p).waiters, q ∈ p.waiters ∨
      base.tasks.promises.length ≤ q ∧ q < w.tasks.promises.length) :
    Background base { w with processes := w.processes.modify number change } where
  toDrift := h.toDrift.setProcess number change hwaiters
  view := by rw [← h.view]; simp [World.view, World.syncs]

/-- A channel is changed, it leads where it did, and it waits for nothing new. -/
theorem setChannel (h : Background base w) (number : Nat) (change : Channel → Channel)
    (hline : ∀ c, (change c).line = c.line)
    (hanswers : ∀ c ∈ w.channels, ∀ q ∈ (change c).answers, q ∈ c.answers ∨
      base.tasks.promises.length ≤ q ∧ q < w.tasks.promises.length) :
    Background base { w with channels := w.channels.modify number change } where
  toDrift := h.toDrift.setChannel number change hanswers
  view := by
    rw [← h.view]
    simp [World.view, map_modify_of_eq hline, World.syncs]

/-- A connection is changed, it is as far as it was, and it settles nothing new. -/
theorem setConnection (h : Background base w) (number : Nat) (change : Connection → Connection)
    (hlink : ∀ c, (change c).link = c.link)
    (hwaiters : ∀ c ∈ w.connections, ∀ q ∈ (change c).waiters, q ∈ c.waiters ∨
      base.tasks.promises.length ≤ q ∧ q < w.tasks.promises.length) :
    Background base { w with connections := w.connections.modify number change } where
  toDrift := h.toDrift.setConnection number change hwaiters
  view := by
    rw [← h.view]
    simp [World.view, map_modify_of_eq hlink, World.syncs]

/-- The session is changed, and what is open stays as it is. -/
theorem setSession (h : Background base w) (session : Session)
    (hsheets : session.store.documents.map sheetOf = w.session.store.documents.map sheetOf) :
    Background base { w with session } where
  toDrift := h.toDrift.of_tasks_eq rfl fun _ hq => .inl hq
  view := by rw [← h.view]; simp [World.view, hsheets, World.syncs]

/-- Something can be seen from outside, and no process is told anything about documents. -/
theorem setRecord (h : Background base w) {record : Record}
    (hsyncs : { w with record := record : World }.syncs = w.syncs) :
    Background base { w with record } where
  toDrift := h.toDrift.of_tasks_eq rfl fun _ hq => .inl hq
  view := by rw [← h.view]; simp [World.view, hsyncs]

/-! ### Tasks and promises -/

theorem promise (h : Background base w) (missing : Nat) :
    Background base { w with tasks := (w.tasks.addPromise missing).2 } :=
  h.setTasks (h.tasks.addPromise missing) (by simp [Scheduler.addPromise])

theorem settle (h : Background base w) (promise : Nat) (outcome : Outcome)
    (hown : (∃ failure, outcome = .error failure) ∨ promise ∈ base.targets ∨
      base.tasks.promises.length ≤ promise) :
    Background base { w with tasks := w.tasks.settle promise outcome } :=
  h.setTasks (h.tasks.settle (hown.imp id (Or.imp .inl id))) (by simp)

theorem observe (h : Background base w) (promise : Nat) (notice : Notice Hook)
    (hfresh : ∀ q, notice.target? = some q →
      base.tasks.promises.length ≤ q ∧ q < w.tasks.promises.length) :
    Background base { w with tasks := w.tasks.observe promise notice } :=
  h.setTasks (h.tasks.observe hfresh) (by simp)

theorem spawn (h : Background base w) (activity : Activity) (hactivity : activity.isOfSession) :
    Background base { w with tasks := (w.tasks.spawn (.start activity)).2 } :=
  h.setTasks (h.tasks.spawn hactivity) (by simp [Scheduler.spawn])

theorem timer (h : Background base w) (delay : Nat) (notice : Notice Hook)
    (hfresh : ∀ q, notice.target? = some q →
      base.tasks.promises.length ≤ q ∧ q < w.tasks.promises.length) :
    Background base { w with tasks := (w.tasks.addTimer delay notice).2 } :=
  h.setTasks (h.tasks.addTimer hfresh) (by simp [Scheduler.addTimer])

theorem stopTimer (h : Background base w) (number : Nat) :
    Background base { w with tasks := w.tasks.stopTimer number } :=
  h.setTasks (h.tasks.stopTimer number) (by simp [Scheduler.stopTimer])

theorem interrupt (h : Background base w) (task : Nat) :
    Background base { w with tasks := w.tasks.interrupt task } :=
  h.setTasks (h.tasks.interrupt task) (by simp)

theorem giveUp (h : Background base w) (promise : Nat) :
    Background base { w with tasks := w.tasks.giveUp promise } :=
  h.setTasks (h.tasks.giveUp promise) (by simp)

/-- What a process waits for is somebody's to settle. -/
theorem mem_targets_of_process {number q : Nat} {p : Process} (hp : w.processes[number]? = some p)
    (hq : q ∈ p.waiters) : q ∈ w.targets :=
  List.mem_append_left _ (List.mem_append_left _ (List.mem_append_right _
    (List.mem_flatMap.2 ⟨p, List.mem_of_getElem? hp, hq⟩)))

/-- The answers to requests are somebody's to settle. -/
theorem mem_targets_of_channel {number q : Nat} {c : Channel} (hc : w.channels[number]? = some c)
    (hq : q ∈ c.answers) : q ∈ w.targets :=
  List.mem_append_left _ (List.mem_append_left _ (List.mem_append_left _
    (List.mem_flatMap.2 ⟨c, List.mem_of_getElem? hc, hq⟩)))

/-- What a connection settles is somebody's to settle. -/
theorem mem_targets_of_connection {number q : Nat} {c : Connection}
    (hc : w.connections[number]? = some c) (hq : q ∈ c.waiters) : q ∈ w.targets :=
  List.mem_append_left _ (List.mem_append_right _
    (List.mem_flatMap.2 ⟨c, List.mem_of_getElem? hc, hq⟩))

end Background

/-! ## Running actions -/

theorem run_bind {α β : Type} (act : Act α) (rest : α → Act β) (w : World) :
    (act >>= rest).run w = (rest (act.run w).1).run (act.run w).2 :=
  rfl

theorem run_get (w : World) : (get : Act World).run w = (w, w) :=
  rfl

theorem run_pure {α : Type} (a : α) (w : World) : (pure a : Act α).run w = (a, w) :=
  rfl

theorem run_promise (missing : Nat) (w : World) : (promise missing).run w =
    (w.tasks.promises.length, { w with tasks := (w.tasks.addPromise missing).2 }) :=
  rfl

/-! ## Modest actions -/

/-- An action that changes things in the background only, and whose result satisfies `post`. -/
def Modest {α : Type} (post : α → Prop) (act : Act α) : Prop :=
  ∀ w, Background w (act.run w).2 ∧ post (act.run w).1

/-- An action that changes things in the background only. -/
abbrev Quiet {α : Type} (act : Act α) : Prop :=
  Modest (fun _ => True) act

namespace Modest

variable {α β : Type} {post : α → Prop} {post' : β → Prop}

theorem pure {a : α} (h : post a) : Modest post (Pure.pure a) :=
  fun w => ⟨.refl w, h⟩

theorem bind {act : Act α} {rest : α → Act β} (h : Modest post act)
    (hrest : ∀ a, post a → Modest post' (rest a)) : Modest post' (act >>= rest) := by
  intro w
  obtain ⟨hback, ha⟩ := h w
  obtain ⟨hback', hb⟩ := hrest _ ha (act.run w).2
  exact ⟨hback.trans hback', hb⟩

theorem imp {post₂ : α → Prop} {act : Act α} (h : Modest post act)
    (hpost : ∀ a, post a → post₂ a) : Modest post₂ act :=
  fun w => ⟨(h w).1, hpost _ (h w).2⟩

/-- After an action that leaves nothing to know. -/
theorem seq {act : Act α} {rest : α → Act β} (h : Quiet act)
    (hrest : ∀ a, Modest post' (rest a)) : Modest post' (act >>= rest) :=
  bind h fun a _ => hrest a

theorem get_bind {rest : World → Act β} (hrest : ∀ w, Modest post' (rest w)) :
    Modest post' (get >>= rest) :=
  fun w => hrest w w

/-- A modest action, taken in one world. -/
theorem apply {act : Act α} (h : Modest post act) (w : World) :
    Background w (act.run w).2 ∧ post (act.run w).1 :=
  h w

/-- After what went on in the background, an action that changes things in the background only. -/
theorem after {base w : World} {act : Act α} (h : Modest post act) (hbase : Background base w) :
    Background base (act.run w).2 :=
  hbase.trans (h w).1

/-- An action that looks at the world first, where it matters that it is this world. -/
theorem of_get {rest : World → Act β}
    (h : ∀ w, Background w ((rest w).run w).2 ∧ post' ((rest w).run w).1) :
    Modest post' (get >>= rest) :=
  h

theorem forM {items : List β} {act : β → Act Unit} (h : ∀ item ∈ items, Quiet (act item)) :
    Quiet (items.forM act) := by
  induction items with
  | nil => exact pure trivial
  | cons item rest ih =>
    refine bind (h item List.mem_cons_self) fun _ _ => ih fun other hother => ?_
    exact h other (List.mem_cons_of_mem _ hother)

theorem forM_option {item : Option β} {act : β → Act Unit} (h : ∀ i, item = some i → Quiet (act i)) :
    Quiet (item.forM act) := by
  cases item with
  | none => exact pure trivial
  | some i => exact h i rfl

/-- An activity that goes on at a plain point afterwards. -/
theorem under {point : Point} {act : Act Next} (hpoint : point.isPlain) (h : Modest Plain act) :
    Modest Plain (World.under point act) := by
  refine bind h fun next hnext => pure ?_
  intro other hother
  have hmem : other ∈ points next ++ [point] := by
    cases next <;> exact hother
  rcases List.mem_append.1 hmem with hmem | hmem
  · exact hnext other hmem
  · rw [List.mem_singleton.1 hmem]
    exact hpoint

theorem finish (answer : Answer) : Modest Plain (World.finish answer) :=
  pure fun _ h => absurd h List.not_mem_nil

theorem fail (failure : Failure) : Modest Plain (World.fail failure) :=
  pure fun _ h => absurd h List.not_mem_nil

theorem give (outcome : Outcome) : Modest Plain (World.give outcome) :=
  pure fun _ h => absurd h List.not_mem_nil

end Modest

end BasiliskServer.World
