import BasiliskServer.Proofs.World.Check.Scheduler

/-!
# What can be relied on around the tasks of a check

In a world in which one file is checked, processes, channels and connections keep promises that pledge
what they settle them with (`Trust.Holds`). An action may make more of them, but breaks none
(`Trust.Acts`); most actions make none and leave the `Inventory` as it is: who is connected to which
process, and how many processes and commands there are (`Trust.Does`). The rules follow the way actions
are put together.
-/

namespace BasiliskServer.World

open Json (Value Fields)
open Tasks (Notice Scheduler)

/-! ## Worlds in which a file is checked -/

/-- Who is connected to which process, and how many processes and commands there have been. -/
@[ext]
structure Inventory where
  /-- How far the connections are, and their channels. -/
  bonds : List (Phase × Option Nat)
  /-- The processes of the channels. -/
  pipes : List (Option Nat)
  /-- How many processes were started. -/
  processes : Nat
  /-- How many commands were started. -/
  commands : Nat

/-- Who is connected to which process in a world, and how many processes and commands there are. -/
def inventory (w : World) : Inventory where
  bonds := w.connections.map fun c => (c.phase, c.channel)
  pipes := w.channels.map (·.process)
  processes := w.processes.length
  commands := w.commands.length

/-- Programs that do not refuse to be asked to end or to be killed. -/
structure AreObliging (companions : List CompanionScript) (version : CommandScript)
    (runs : List CommandScript) : Prop where
  /-- Companion programs do not. -/
  companions : ∀ script ∈ companions, script.isUnreachable = false
  /-- The compiler does not when it is asked for its version. -/
  version : version.isUnreachable = false
  /-- Nor does it otherwise. -/
  runs : ∀ script ∈ runs, script.isUnreachable = false

/-- No task was moved or has got another result, and the same task runs. -/
structure Unmoved (s s' : Scheduler Point Answer Hook) : Prop where
  /-- The same task runs. -/
  running : s'.running = s.running
  /-- The tasks stand where they stood. -/
  tasks : ∀ (number : Nat) (t : Tasks.Task Point), s.tasks[number]? = some t →
    ∃ t', s'.tasks[number]? = some t' ∧ t'.stack = t.stack ∧ t'.result = t.result

/-- No task is lost or has got another result. -/
def KeepsResults (s s' : Scheduler Point Answer Hook) : Prop :=
  ∀ (number : Nat) (t : Tasks.Task Point), s.tasks[number]? = some t →
    ∃ t', s'.tasks[number]? = some t' ∧ t'.result = t.result

namespace Trust

/-- A process settles promises that pledge what it settles them with. -/
structure Serves (T : Trust) (number : Nat) (p : Process) : Prop where
  /-- It can be asked to end. -/
  reachable : p.script.isUnreachable = false
  /-- Nobody relies on its output. -/
  output : ∀ q, p.stdout.waiter = some q → T.pledges[q]? = some .free
  /-- Nobody relies on its error output. -/
  errors : ∀ q, p.stderr.waiter = some q → T.pledges[q]? = some .free
  /-- Who waits for its end may rely on that. -/
  exits : ∀ q ∈ p.exitWaiters, ∃ excuse, T.pledges[q]? = some ⟨.ended number, excuse⟩

/-- A channel belongs to a process, its requests are answered, and its tasks may be given up. -/
structure Conveys (T : Trust) (s : Scheduler Point Answer Hook) (processes : Nat) (c : Channel) : Prop where
  /-- The process was started. -/
  process : ∀ number, c.process = some number → number < processes
  /-- Its requests are answered. -/
  answers : ∀ q ∈ c.answers, T.pledges[q]? = some (.reply q)
  /-- Nobody relies on its tasks. -/
  tasks : ∀ number ∈ c.tasks, number ≠ 0 ∧ ∃ t, s.tasks[number]? = some t ∧ T.pledges[t.result]? = some .free

/-- A connection tells a check of a report, and waits for answers for some time. -/
structure Binds (T : Trust) (c : Connection) : Prop where
  /-- Nobody relies on its start. -/
  started : ∀ q, c.started = some q → T.pledges[q]? = some .free
  /-- It tells of a report. -/
  listener : ∃ uri received, c.listener = .check uri received ∧ T.pledges[received]? = some (.reply received)
  /-- It waits for the first answer for some time. -/
  greeting : c.greetingLimit.isSome
  /-- It waits for the last answer for some time. -/
  parting : c.partingLimit.isSome
  /-- It writes everything. -/
  room : c.room = none

/-- A world in which a file is checked is as its promises pledge. -/
structure Holds (T : Trust) (w : World) : Prop where
  /-- The scheduler is. -/
  sound : T.Sound w.ended w.tasks
  /-- There is a first task. -/
  staffed : w.tasks.tasks ≠ []
  /-- The processes are. -/
  processes : ∀ number p, w.processes[number]? = some p → T.Serves number p
  /-- Commands can be killed. -/
  commands : ∀ c ∈ w.commands, c.script.isUnreachable = false
  /-- The channels are. -/
  channels : ∀ c ∈ w.channels, T.Conveys w.tasks w.processes.length c
  /-- The connections are. -/
  connections : ∀ c ∈ w.connections, T.Binds c
  /-- Other programs can be asked to end and killed, too. -/
  obliging : AreObliging w.companions w.versionScript w.runScripts

/-- A world has become another one: more may be pledged, and more have ended. -/
structure Moves (T : Trust) (w : World) (T' : Trust) (w' : World) : Prop where
  /-- What was pledged is. -/
  grows : T.Grows T'
  /-- The first task is not over now if it was not. -/
  closed : T'.closed = T.closed
  /-- What has ended has ended. -/
  ends : w.ended.Grow w'.ended
  /-- No task was moved. -/
  unmoved : Unmoved w.tasks w'.tasks

variable {α β : Type} {T T' T'' : Trust} {w w' w'' : World}

/-- An action breaks no promise, and what it comes to satisfies `post`. -/
def Acts (T : Trust) (w : World) (act : Act α) (post : Trust → World → α → Prop) : Prop :=
  T.Holds w → ∃ T', T.Moves w T' (act.run w).2 ∧ T'.Holds (act.run w).2 ∧
    post T' (act.run w).2 (act.run w).1

/-- An action breaks no promise and makes none, and leaves the inventory as it is. -/
abbrev Does (T : Trust) (w : World) (act : Act α) : Prop :=
  T.Acts w act fun T' w' _ => T' = T ∧ w'.inventory = w.inventory

end Trust

/-! ## Steps of the scheduler -/

namespace Unmoved

variable {s s' s'' : Scheduler Point Answer Hook}

theorem of_same (hrunning : s'.running = s.running) (htasks : s'.tasks = s.tasks) : Unmoved s s' :=
  ⟨hrunning, fun _ t ht => ⟨t, htasks ▸ ht, rfl, rfl⟩⟩

protected theorem refl : Unmoved s s :=
  of_same rfl rfl

theorem keepsResults (h : Unmoved s s') : KeepsResults s s' :=
  fun number t ht => (h.tasks number t ht).imp fun _ hmoved => ⟨hmoved.1, hmoved.2.2⟩

protected theorem trans (h : Unmoved s s') (h' : Unmoved s' s'') : Unmoved s s'' where
  running := h'.running.trans h.running
  tasks := by
    intro number t ht
    obtain ⟨t', ht', hstack, hresult⟩ := h.tasks number t ht
    obtain ⟨t'', ht'', hstack', hresult'⟩ := h'.tasks number t' ht'
    exact ⟨t'', ht'', hstack'.trans hstack, hresult'.trans hresult⟩

theorem settle (q : Nat) (outcome : Outcome) : Unmoved s (s.settle q outcome) :=
  of_same (s.settle_same q outcome).1 (s.settle_same q outcome).2

theorem observe (q : Nat) (notice : Notice Hook) : Unmoved s (s.observe q notice) :=
  of_same (s.observe_same q notice).1 (s.observe_same q notice).2

theorem countDown (q : Nat) : Unmoved s (s.countDown q) :=
  of_same (s.countDown_same q).1 (s.countDown_same q).2

theorem spawn (activity : Activity) : Unmoved s (s.spawn (.start activity)).2 where
  running := rfl
  tasks := by
    intro number t ht
    refine ⟨t, ?_, rfl, rfl⟩
    exact Tasks.getElem?_append_of_some ht _

theorem mark {number : Nat} {t : Tasks.Task Point} (ht : s.tasks[number]? = some t) :
    Unmoved s { s with tasks := s.tasks.set number { t with interrupted := true } } where
  running := rfl
  tasks := by
    intro other known hknown
    show ∃ t', (s.tasks.set number { t with interrupted := true })[other]? = some t' ∧ _
    -- only the mark is new, which nobody can see in the stack or the result
    obtain ⟨now, hnow, ⟨-, rfl, rfl⟩ | ⟨-, rfl⟩⟩ :=
      Tasks.exists_getElem?_set ht hknown { t with interrupted := true } <;>
    exact ⟨_, hnow, rfl, rfl⟩

theorem interrupt (number : Nat) : Unmoved s (s.interrupt number) := by
  rcases s.interrupt_cases number with heq | ⟨t, ht, heq | ⟨q, -, heq⟩⟩ <;> rw [heq]
  · exact .refl
  · exact mark ht
  · exact settle q _

theorem giveUp (q : Nat) : Unmoved s (s.giveUp q) := by
  rcases s.giveUp_cases q with ⟨task, -, heq⟩ | ⟨-, heq⟩ <;> rw [heq]
  · exact interrupt task
  · exact settle q _

end Unmoved

namespace Trust

variable {α β : Type} {T T' T'' : Trust} {w w' w'' : World}

/-! ## What stays so -/

theorem Serves.mono {number : Nat} {p : Process} (h : T.Serves number p) (hgrows : T.Grows T') :
    T'.Serves number p where
  reachable := h.reachable
  output := fun q hq => hgrows.pledges _ _ (h.output q hq)
  errors := fun q hq => hgrows.pledges _ _ (h.errors q hq)
  exits := fun q hq => (h.exits q hq).imp fun _ hexcuse => hgrows.pledges _ _ hexcuse

theorem Conveys.mono {s s' : Scheduler Point Answer Hook} {size size' : Nat} {c : Channel}
    (h : T.Conveys s size c) (hgrows : T.Grows T') (hresults : KeepsResults s s') (hsize : size ≤ size') :
    T'.Conveys s' size' c where
  process := fun number hnumber => Nat.lt_of_lt_of_le (h.process number hnumber) hsize
  answers := fun q hq => hgrows.pledges _ _ (h.answers q hq)
  tasks := by
    intro number hnumber
    obtain ⟨hne, t, ht, hfree⟩ := h.tasks number hnumber
    obtain ⟨t', ht', hresult⟩ := hresults number t ht
    exact ⟨hne, t', ht', hresult ▸ hgrows.pledges _ _ hfree⟩

theorem Binds.mono {c : Connection} (h : T.Binds c) (hgrows : T.Grows T') : T'.Binds c where
  started := fun q hq => hgrows.pledges _ _ (h.started q hq)
  listener := by
    obtain ⟨uri, received, hlistener, hreply⟩ := h.listener
    exact ⟨uri, received, hlistener, hgrows.pledges _ _ hreply⟩
  greeting := h.greeting
  parting := h.parting
  room := h.room

/-- The tasks have gone on. -/
theorem Holds.goOn (h : T.Holds w) {s : Scheduler Point Answer Hook} (hgrows : T.Grows T')
    (hsound : T'.Sound w.ended s) (hresults : KeepsResults w.tasks s) : T'.Holds { w with tasks := s } where
  sound := hsound
  staffed := by
    obtain ⟨t, ht⟩ := List.exists_mem_of_ne_nil _ h.staffed
    obtain ⟨i, hi⟩ := List.mem_iff_getElem?.1 ht
    obtain ⟨t', ht', -⟩ := hresults i t hi
    exact List.ne_nil_of_mem (List.mem_of_getElem? ht')
  processes := fun number p hp => (h.processes number p hp).mono hgrows
  commands := h.commands
  channels := fun c hc => (h.channels c hc).mono hgrows hresults (Nat.le_refl _)
  connections := fun c hc => (h.connections c hc).mono hgrows
  obliging := h.obliging

/-- Something has happened to the tasks, and none was moved. -/
theorem Holds.setTasks (h : T.Holds w) {s : Scheduler Point Answer Hook} (hgrows : T.Grows T')
    (hsound : T'.Sound w.ended s) (hunmoved : Unmoved w.tasks s) : T'.Holds { w with tasks := s } :=
  h.goOn hgrows hsound hunmoved.keepsResults

namespace Moves

protected theorem refl : T.Moves w T w :=
  ⟨.refl, rfl, .refl _, .refl⟩

protected theorem trans (h : T.Moves w T' w') (h' : T'.Moves w' T'' w'') : T.Moves w T'' w'' :=
  ⟨h.grows.trans h'.grows, h'.closed.trans h.closed, h.ends.trans h'.ends, h.unmoved.trans h'.unmoved⟩

end Moves

/-! ## Rules -/

namespace Acts

variable {act : Act α} {rest : α → Act β} {post post' : Trust → World → α → Prop}
  {last : Trust → World → β → Prop}

theorem bind (h : T.Acts w act post)
    (hrest : ∀ T' w' a, T.Moves w T' w' → T'.Holds w' → post T' w' a → T'.Acts w' (rest a) last) :
    T.Acts w (act >>= rest) last := by
  intro hw
  obtain ⟨T', hmoves, hholds, hpost⟩ := h hw
  obtain ⟨T'', hmoves', hholds', hlast⟩ := hrest T' _ _ hmoves hholds hpost hholds
  exact ⟨T'', hmoves.trans hmoves', hholds', hlast⟩

/-- An action that looks at the world first. -/
theorem get {rest : World → Act β} (h : T.Holds w → T.Acts w (rest w) last) :
    T.Acts w (get >>= rest) last :=
  fun hw => h hw hw

/-- What is so before an action may be relied on. -/
theorem of_holds (h : T.Holds w → T.Acts w act post) : T.Acts w act post :=
  fun hw => h hw hw

protected theorem pure {a : α} (h : T.Holds w → post T w a) : T.Acts w (pure a) post :=
  fun hw => ⟨T, .refl, hw, h hw⟩

theorem imp (h : T.Acts w act post)
    (hpost : ∀ T' w' a, T.Moves w T' w' → T'.Holds w' → post T' w' a → post' T' w' a) :
    T.Acts w act post' := by
  intro hw
  obtain ⟨T', hmoves, hholds, ha⟩ := h hw
  exact ⟨T', hmoves, hholds, hpost T' _ _ hmoves hholds ha⟩

/-- Something else than the tasks changes. -/
theorem modify {change : World → World} (hholds : T.Holds w → T.Holds (change w))
    (htasks : (change w).tasks = w.tasks) (hends : w.ended.Grow (change w).ended) :
    T.Acts w (modify change : Act Unit) fun T' w' _ => T' = T ∧ w' = change w :=
  fun hw => ⟨T, ⟨.refl, rfl, hends, .of_same (congrArg _ htasks) (congrArg _ htasks)⟩, hholds hw, rfl, rfl⟩

/-- An activity goes on at a point. -/
theorem under {act : Act Next} {post : Trust → World → Next → Prop} (point : Point)
    (h : T.Acts w act fun T' w' next => post T' w' (next.under point)) :
    T.Acts w (World.under point act) post :=
  h

end Acts

namespace Does

variable {act : Act α} {rest : α → Act β}

/-- After an action that leaves promises and the inventory as they are. -/
theorem acts {last : Trust → World → β → Prop} (h : T.Does w act)
    (hrest : ∀ w' a, T.Moves w T w' → w'.inventory = w.inventory → T.Acts w' (rest a) last) :
    T.Acts w (act >>= rest) last := by
  refine Acts.bind h ?_
  rintro T' w' a hmoves - ⟨rfl, hinventory⟩
  exact hrest w' a hmoves hinventory

theorem seq (h : T.Does w act) (hrest : ∀ w' a, T.Moves w T w' → T.Does w' (rest a)) :
    T.Does w (act >>= rest) :=
  h.acts fun w' a hmoves hinventory => (hrest w' a hmoves).imp fun _ _ _ _ _ hdone =>
    ⟨hdone.1, hdone.2.trans hinventory⟩

protected theorem pure (a : α) : T.Does w (pure a : Act α) :=
  Acts.pure fun _ => ⟨rfl, rfl⟩

theorem forM {items : List β} {act : β → Act Unit}
    (h : ∀ item ∈ items, ∀ w', T.Moves w T w' → T.Does w' (act item)) : T.Does w (items.forM act) := by
  induction items generalizing w with
  | nil => exact .pure ()
  | cons item rest ih =>
    refine seq (h item List.mem_cons_self w .refl) fun w' _ hmoves => ih fun i hi w'' hmoves' => ?_
    exact h i (List.mem_cons_of_mem _ hi) w'' (hmoves.trans hmoves')

theorem forM_option {item : Option β} {act : β → Act Unit} (h : ∀ i, item = some i → T.Does w (act i)) :
    T.Does w (item.forM act) := by
  cases item with
  | none => exact .pure ()
  | some i => exact h i rfl

/-- Something else than the tasks changes, and the inventory does not. -/
theorem modify {change : World → World} (hholds : T.Holds w → T.Holds (change w))
    (htasks : (change w).tasks = w.tasks) (hends : w.ended.Grow (change w).ended)
    (hinventory : (change w).inventory = w.inventory) : T.Does w (modify change : Act Unit) :=
  (Acts.modify hholds htasks hends).imp fun _ _ _ _ _ hdone => ⟨hdone.1, hdone.2 ▸ hinventory⟩

end Does

/-! ## Tasks -/

/-- The tasks change as they may. -/
theorem modifyTasks_does {change : Scheduler Point Answer Hook → Scheduler Point Answer Hook}
    (hsound : T.Sound w.ended w.tasks → T.Sound w.ended (change w.tasks))
    (hunmoved : Unmoved w.tasks (change w.tasks)) : T.Does w (modifyTasks change) :=
  fun hw => ⟨T, ⟨.refl, rfl, .refl _, hunmoved⟩, hw.setTasks .refl (hsound hw.sound) hunmoved, rfl, rfl⟩

theorem settle_does {q : Nat} {outcome : Outcome}
    (h : ∀ pledge, T.pledges[q]? = some pledge → T.Allows w.ended pledge outcome) :
    T.Does w (settle q outcome) :=
  modifyTasks_does (·.settle h) (.settle q outcome)

/-- Nobody relies on the promise. -/
theorem settle_free_does {q : Nat} (h : T.pledges[q]? = some .free) (answer : Answer) :
    T.Does w (settle q (.ok answer)) :=
  settle_does fun pledge hpledge => by
    obtain rfl := Option.some.inj (h.symm.trans hpledge)
    trivial

/-- The promise of an answer is settled with success, or with a failure that says that there is none. -/
theorem settle_reply_does {q : Nat} {outcome : Outcome} (h : T.pledges[q]? = some (.reply q))
    (hfailed : ∀ failure, outcome = .error failure → isUnanswered failure) :
    T.Does w (settle q outcome) :=
  settle_does fun pledge hpledge => by
    obtain rfl := Option.some.inj (h.symm.trans hpledge)
    cases outcome with
    | ok answer => trivial
    | error failure => exact .inl (hfailed failure rfl)

theorem observe_does (q : Nat) (notice : Notice Hook) (h : T.Announces notice) :
    T.Does w (observe q notice) :=
  modifyTasks_does (fun hsound => hsound.observe q h) (.observe q notice)

theorem timer_does (delay : Nat) (notice : Notice Hook) (h : T.Announces notice) :
    T.Does w (timer delay notice) :=
  fun hw => ⟨T, ⟨.refl, rfl, .refl _, .of_same rfl rfl⟩,
    hw.setTasks .refl (hw.sound.addTimer delay h) (.of_same rfl rfl), rfl, rfl⟩

theorem stopTimer_does (number : Nat) : T.Does w (stopTimer number) :=
  modifyTasks_does (·.stopTimer number) (.of_same rfl rfl)

/-- A task of a channel is given up. -/
theorem interrupt_does {number : Nat} (h : number ≠ 0 ∧ ∃ t, w.tasks.tasks[number]? = some t ∧
    T.pledges[t.result]? = some .free) : T.Does w (modifyTasks (·.interrupt number)) := by
  obtain ⟨hne, t, ht, hfree⟩ := h
  exact modifyTasks_does (fun hsound => hsound.interrupt ht hne hfree trivial) (.interrupt number)

/-- A promise is made; what it pledges may be said in terms of its number. -/
theorem promise_acts (missing : Nat) (pledge : Nat → Pledge) : T.Acts w (promise missing) fun T' w' q =>
    T'.pledges[q]? = some (pledge q) ∧ q ∉ T'.given ∧ w'.inventory = w.inventory ∧ T'.given = T.given := by
  intro hw
  have hlength : w.tasks.promises.length = T.pledges.length := hw.sound.length.symm
  -- promises and pledges are as many, so the new promise gets the new pledge
  refine ⟨T.add (pledge T.pledges.length), ⟨grows_add _, rfl, .refl _, .of_same rfl rfl⟩,
    hw.setTasks (grows_add _) (hw.sound.addPromise missing _) (.of_same rfl rfl), ?_, ?_, rfl, rfl⟩
  · show (T.add _).pledges[w.tasks.promises.length]? = some (pledge w.tasks.promises.length)
    rw [hlength]
    exact pledges_add _
  · intro hgiven
    exact absurd (hw.sound.given _ hgiven) (by show ¬ w.tasks.promises.length < _; omega)

/-- A task that helps is started; what its result pledges may be said in terms of its number. -/
theorem spawn_acts {activity : Activity} (pledge : Nat → Pledge)
    (hchain : ∀ q, (pledge q).Chain w.ended [.start activity]) :
    T.Acts w (spawn activity) fun T' w' task => T'.pledges[task.2]? = some (pledge task.2) ∧
      task.2 ∉ T'.given ∧ (task.1 ≠ 0 ∧ ∃ t, w'.tasks.tasks[task.1]? = some t ∧ t.result = task.2) ∧
      w'.inventory = w.inventory := by
  intro hw
  have hlength : w.tasks.promises.length = T.pledges.length := hw.sound.length.symm
  refine ⟨T.add (pledge T.pledges.length), ⟨grows_add _, rfl, .refl _, .spawn activity⟩,
    hw.setTasks (grows_add _) (hw.sound.spawn hw.staffed (hchain _)) (.spawn activity), ?_, ?_, ?_, rfl⟩
  · show (T.add _).pledges[w.tasks.promises.length]? = some (pledge w.tasks.promises.length)
    rw [hlength]
    exact pledges_add _
  · intro hgiven
    exact absurd (hw.sound.given _ hgiven) (by show ¬ w.tasks.promises.length < _; omega)
  · refine ⟨fun hzero => hw.staffed (List.length_eq_zero_iff.1 hzero), ?_⟩
    exact ⟨{ stack := [.start activity], result := w.tasks.promises.length },
      List.getElem?_concat_length, rfl⟩

end Trust

end BasiliskServer.World
