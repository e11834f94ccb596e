import BasiliskServer.Proofs.Tasks.Recasting
import BasiliskServer.Proofs.World.Undisturbed
import BasiliskServer.Proofs.World.Transitions.Points

/-!
# What is not looked at does not interfere

Nobody who deals with processes and connections looks at what a check of a file has found so far, or at
what stands below on a stack. A `Guise` puts other data in their places, and the world does the same
in that guise: an action that is begun there ends in what it comes to otherwise, in the guise
(`Guise.Carries`), and it keeps what holds of a world in which a single file is checked
(`Guise.Holds`).

The rules follow the way actions are put together, so that an action is carried because its parts are.
-/

namespace BasiliskServer.World

open Json (Value Fields)
open Tasks (Notice Scheduler)

/-! ## Guises -/

/-- Activities that deal with processes only. -/
def Activity.isMenial : Activity → Bool
  | .communicate _ | .readOutput _ | .readErrors _ | .watch _ _ | .awaitExit _ => true
  | _ => false

/-- Points that deal with processes and connections only. -/
def Point.isMenial : Point → Bool
  | .start activity => activity.isMenial
  | .wait _ | .channel _ | .connection _ => true
  | .program (.compiled _ _) => false
  | .program _ => true
  | _ => false

/-- Answers that nobody looks at who deals with processes and connections: what the compiler has found
and what a check has found. -/
def Answer.isFinding : Answer → Bool
  | .findings _ | .check _ => true
  | _ => false

/-- Other data in the places of those that nobody looks at, and what is around where they are not looked
at: who stands where, which commands there have been, and which scripts are followed. -/
structure Guise extends Tasks.Recasting Point Answer where
  /-- Where a task can stand. -/
  allowed : Nat → List Point → Prop
  /-- Which commands there can be. -/
  command : Command → Prop
  /-- The script of commands that are asked for their version. -/
  versionScript : CommandScript
  /-- The scripts of other commands. -/
  runScripts : List CommandScript
  /-- Menial points are as they are. -/
  point_menial : ∀ p, p.isMenial = true → point p = p
  /-- Failures are as they are. -/
  outcome_error : ∀ failure, outcome (.error failure) = .error failure
  /-- Answers that are looked at are as they are. -/
  outcome_ok : ∀ answer, answer.isFinding = false → outcome (.ok answer) = .ok answer
  /-- What is found by the compiler is found by the compiler. -/
  outcome_findings : ∀ findings, ∃ findings', outcome (.ok (.findings findings)) = .ok (.findings findings')
  /-- What is found by a check is found by a check. -/
  outcome_check : ∀ report, ∃ report', outcome (.ok (.check report)) = .ok (.check report')
  /-- A task can be over. -/
  allowed_nil : ∀ n, allowed n []
  /-- Tasks that deal with processes can begin. -/
  allowed_start : ∀ n activity, 0 < n → activity.isMenial = true → allowed n [.start activity]
  /-- A task can go on from a menial point. -/
  allowed_tail : ∀ n p rest, p.isMenial = true → allowed n (p :: rest) → allowed n rest
  /-- A task can go on at menial points. -/
  allowed_append : ∀ n front rest, (∀ p ∈ front, p.isMenial = true) → allowed n rest →
    allowed n (front ++ rest)
  /-- A command can end. -/
  command_code : ∀ c code, command c → command { c with code := some code }

/-- Where the tasks stand. -/
def taskStacks (w : World) : List (List Point) :=
  w.tasks.tasks.map (·.stack)

namespace Guise

variable {α β : Type} {g : Guise}

/-- The output that an outcome tells of is that of a command. -/
def Sound (g : Guise) (outcome : Outcome) : Prop :=
  ∀ output, outcome = .ok (.output output) → ∃ c, g.command c ∧ output = c.output

/-- What holds of a world in which a file is checked. -/
structure Holds (g : Guise) (w : World) : Prop where
  /-- There is a task. -/
  begun : 0 < w.tasks.tasks.length
  /-- Tasks stand where they can. -/
  taskStacks : ∀ n t, w.tasks.tasks[n]? = some t → g.allowed n t.stack
  /-- Promises are settled with what commands wrote. -/
  settled : ∀ q outcome, w.tasks.outcome? q = some outcome → g.Sound outcome
  /-- A task goes on with what commands wrote. -/
  running : ∀ n outcome, w.tasks.running = some (n, outcome) → g.Sound outcome
  /-- Connections tell checks. -/
  listeners : ∀ c ∈ w.connections, ∃ uri received, c.listener = .check uri received
  /-- Commands are as they can be. -/
  commands : ∀ c ∈ w.commands, g.command c
  /-- Commands are asked for their version with this script. -/
  versionScript : w.versionScript = g.versionScript
  /-- Other commands run with these scripts. -/
  runScripts : w.runScripts = g.runScripts

/-- A world in a guise. -/
def world (g : Guise) (w : World) : World :=
  { w with tasks := g.scheduler w.tasks }

/-- An activity goes on at menial points, with what commands wrote. -/
structure Suits (g : Guise) (next : Next) : Prop where
  /-- The points are menial. -/
  menial : ∀ p ∈ points next, p.isMenial = true
  /-- What is told is sound. -/
  sound : ∀ outcome front, next = .go outcome front → g.Sound outcome

/-- An action does in the guise of a world what another one does in the world, and keeps what holds.
It moves no task. -/
abbrev CarriesAt (g : Guise) (result : α → α) (post : α → Prop) (act' act : Act α) (w : World) : Prop :=
  act'.run (g.world w) = (result (act.run w).1, g.world (act.run w).2) ∧
    g.Holds (act.run w).2 ∧ post (act.run w).1 ∧ w.taskStacks <+: (act.run w).2.taskStacks

/-- An action does in the guise what another one does, and keeps what holds. It moves no task. -/
def Carries (g : Guise) (result : α → α) (post : α → Prop) (act' act : Act α) : Prop :=
  ∀ w, g.Holds w → g.CarriesAt result post act' act w

/-- An action does the same in the guise. -/
abbrev Does (g : Guise) (act : Act α) : Prop :=
  g.Carries id (fun _ => True) act act

/-- An activity goes on in the guise as otherwise. -/
abbrev Goes (g : Guise) (act : Act Next) : Prop :=
  g.Carries g.next g.Suits act act

/-- Nothing is left to do. -/
theorem Suits.over {outcome : Outcome} (hsound : g.Sound outcome) : g.Suits (.go outcome []) where
  menial := fun _ hp => absurd hp List.not_mem_nil
  sound := fun _ _ h => (Tasks.Next.go.inj h).1 ▸ hsound

theorem Suits.under {next : Next} (h : g.Suits next) {point : Point} (hpoint : point.isMenial = true) :
    g.Suits (next.under point) where
  menial := fun p hp => by
    rw [points_under, List.mem_append, List.mem_singleton] at hp
    rcases hp with hp | rfl
    · exact h.menial p hp
    · exact hpoint
  sound := fun outcome front heq => by
    cases next with
    | wait q pts => cases heq
    | go outcome' pts =>
      obtain ⟨rfl, -⟩ := Tasks.Next.go.inj heq
      exact h.sound _ _ rfl

theorem sound_error (failure : Failure) : g.Sound (.error failure) :=
  fun _ h => by cases h

/-- An answer that tells of no output. -/
theorem sound_ok {answer : Answer} (h : ∀ output, answer ≠ .output output) : g.Sound (.ok answer) :=
  fun output heq => absurd (Except.ok.inj heq) (h output)

/-- Every answer stays an answer. -/
theorem exists_outcome_ok (g : Guise) (answer : Answer) :
    ∃ answer', g.outcome (.ok answer) = .ok answer' ∧ answer'.value = answer.value := by
  cases answer with
  | findings findings =>
    obtain ⟨findings', h⟩ := g.outcome_findings findings
    exact ⟨_, h, rfl⟩
  | check report =>
    obtain ⟨report', h⟩ := g.outcome_check report
    exact ⟨_, h, rfl⟩
  | _ => exact ⟨_, g.outcome_ok _ rfl, rfl⟩

/-! ## What holds -/

namespace Holds

variable {w w' : World}

/-- It holds of a world in which tasks, connections and commands are the same. -/
theorem of_same (h : g.Holds w) (htasks : w'.tasks = w.tasks) (hconnections : w'.connections = w.connections)
    (hcommands : w'.commands = w.commands) (hversion : w'.versionScript = w.versionScript)
    (hruns : w'.runScripts = w.runScripts) : g.Holds w' where
  begun := htasks ▸ h.begun
  taskStacks := htasks ▸ h.taskStacks
  settled := htasks ▸ h.settled
  running := htasks ▸ h.running
  listeners := hconnections ▸ h.listeners
  commands := hcommands ▸ h.commands
  versionScript := hversion ▸ h.versionScript
  runScripts := hruns ▸ h.runScripts

/-- It holds when the tasks go on. -/
theorem setTasks (h : g.Holds w) {s : Scheduler Point Answer Hook} (hbegun : 0 < s.tasks.length)
    (hstacks : ∀ n t, s.tasks[n]? = some t → g.allowed n t.stack)
    (hsettled : ∀ q outcome, s.outcome? q = some outcome → g.Sound outcome)
    (hrunning : ∀ n outcome, s.running = some (n, outcome) → g.Sound outcome) :
    g.Holds { w with tasks := s } :=
  ⟨hbegun, hstacks, hsettled, hrunning, h.listeners, h.commands, h.versionScript, h.runScripts⟩

end Holds

/-! ## Rules -/

namespace Carries

variable {result : β → β} {post : β → Prop} {post' : α → Prop}

theorem seq {act' act : Act α} {rest' rest : α → Act β} (h : g.Carries id post' act' act)
    (hrest : ∀ a, post' a → g.Carries result post (rest' a) (rest a)) :
    g.Carries result post (act' >>= rest') (act >>= rest) := by
  intro w hw
  obtain ⟨hrun, hholds, hpost, hstacks⟩ := h w hw
  obtain ⟨hrun', hholds', hpost', hstacks'⟩ := hrest _ hpost _ hholds
  refine ⟨?_, hholds', hpost', hstacks.trans hstacks'⟩
  rw [run_bind, run_bind, hrun]
  exact hrun'

/-- An action that looks at the world first. -/
theorem at_get {rest' rest : World → Act β} {w : World}
    (h : g.CarriesAt result post (rest' (g.world w)) (rest w) w) :
    g.CarriesAt result post (get >>= rest') (get >>= rest) w := by
  rw [CarriesAt, run_bind, run_bind, run_get, run_get]
  exact h

/-- An action that looks at the world first, but not at its tasks. -/
theorem of_get {rest : World → Act β} (hsame : ∀ w, rest (g.world w) = rest w)
    (h : ∀ w, g.Holds w → g.Carries result post (rest w) (rest w)) :
    g.Carries result post (get >>= rest) (get >>= rest) := by
  intro w hw
  refine at_get ?_
  rw [hsame]
  exact h w hw w hw

theorem mono {act' act : Act β} {post'' : β → Prop} (h : g.Carries result post act' act)
    (hpost : ∀ a, post a → post'' a) : g.Carries result post'' act' act :=
  fun w hw => ⟨(h w hw).1, (h w hw).2.1, hpost _ (h w hw).2.2.1, (h w hw).2.2.2⟩

end Carries

theorem Does.seq {result : β → β} {post : β → Prop} {act : Act α} {rest' rest : α → Act β}
    (h : g.Does act) (hrest : ∀ a, g.Carries result post (rest' a) (rest a)) :
    g.Carries result post (act >>= rest') (act >>= rest) :=
  Carries.seq h fun a _ => hrest a

namespace Carries

protected theorem pure (a : α) : g.Does (pure a : Act α) :=
  fun _ hw => ⟨rfl, hw, trivial, List.prefix_rfl⟩

theorem forM {items : List β} {act : β → Act Unit} (h : ∀ item ∈ items, g.Does (act item)) :
    g.Does (items.forM act) := by
  induction items with
  | nil => exact .pure ()
  | cons item rest ih =>
    exact (h item List.mem_cons_self).seq fun _ => ih fun i hi => h i (List.mem_cons_of_mem _ hi)

theorem forM_option {item : Option β} {act : β → Act Unit} (h : ∀ i, g.Does (act i)) :
    g.Does (item.forM act) := by
  cases item with
  | none => exact .pure ()
  | some i => exact h i

/-- The world changes, but not its tasks. -/
theorem modify {change : World → World} (hsame : ∀ w, change (g.world w) = g.world (change w))
    (htasks : ∀ w, (change w).tasks = w.tasks) (hholds : ∀ w, g.Holds w → g.Holds (change w)) :
    g.Does (modify change : Act Unit) := by
  intro w hw
  have hstacks : (change w).taskStacks = w.taskStacks := congrArg (fun s => s.tasks.map (·.stack)) (htasks w)
  refine ⟨?_, hholds w hw, trivial, hstacks ▸ List.prefix_rfl⟩
  show ((), change (g.world w)) = ((), g.world (change w))
  rw [hsame]

theorem pure_next {next : Next} (h : g.Suits next) (hsame : g.next next = next) :
    g.Goes (pure next) :=
  fun _ hw => ⟨by rw [run_pure, run_pure, hsame], hw, h, List.prefix_rfl⟩

/-- Nothing is left to do, and what is told is as it is. -/
theorem give {outcome : Outcome} (hsame : g.outcome outcome = outcome) (hsound : g.Sound outcome) :
    g.Goes (give outcome) :=
  pure_next (.over hsound) (congrArg (Tasks.Next.go · []) hsame)

theorem finish {answer : Answer} (hfinding : answer.isFinding = false)
    (houtput : ∀ output, answer ≠ .output output) : g.Goes (finish answer) :=
  give (g.outcome_ok answer hfinding) (sound_ok houtput)

theorem fail (failure : Failure) : g.Goes (fail failure) :=
  give (g.outcome_error failure) (sound_error failure)

theorem waitAt (q : Nat) {point : Point} (hpoint : point.isMenial = true) :
    g.Goes (waitAt q point) := by
  refine pure_next ⟨fun p hp => ?_, fun _ _ h => (by cases h)⟩ ?_
  · obtain rfl : p = point := List.mem_singleton.1 hp
    exact hpoint
  · show Tasks.Next.wait q [g.point point] = .wait q [point]
    rw [g.point_menial point hpoint]

end Carries

/-- What is told below is told in the guise. -/
theorem give_carries {outcome : Outcome} (hsound : g.Sound outcome) :
    g.Carries g.next g.Suits (give (g.outcome outcome)) (give outcome) :=
  fun _ hw => ⟨rfl, hw, .over hsound, List.prefix_rfl⟩

/-- An activity that goes on at a menial point. -/
theorem Carries.under {act' act : Act Next} (h : g.Carries g.next g.Suits act' act) {point : Point}
    (hpoint : point.isMenial = true) :
    g.Carries g.next g.Suits (World.under point act') (World.under point act) := by
  intro w hw
  obtain ⟨hrun, hholds, hsuits, hstacks⟩ := h w hw
  have hunder : ∀ (a : Act Next) (w : World), (World.under point a).run w =
      ((a.run w).1.under point, (a.run w).2) := fun _ _ => rfl
  rw [CarriesAt, hunder, hunder, hrun]
  refine ⟨Prod.ext ?_ rfl, hholds, ?_, hstacks⟩
  · cases (act.run w).1 <;> simp [Tasks.Next.under, Tasks.Recasting.next, g.point_menial point hpoint]
  · exact hsuits.under hpoint

/-! ## The tasks -/

/-- The tasks stand where they stood, and what has become known is sound. -/
structure Tells (g : Guise) (s s' : Scheduler Point Answer Hook) : Prop where
  /-- Nobody goes on. -/
  taskStacks : s'.tasks.map (·.stack) = s.tasks.map (·.stack)
  /-- What is known is what was known, or it is sound. -/
  outcomes : ∀ q outcome, s'.outcome? q = some outcome → s.outcome? q = some outcome ∨ g.Sound outcome
  /-- Who runs is who ran. -/
  running : s'.running = s.running

namespace Tells

variable {s s' s'' : Scheduler Point Answer Hook}

theorem of_same (htasks : s'.tasks.map (·.stack) = s.tasks.map (·.stack))
    (houtcomes : s'.outcome? = s.outcome?) (hrunning : s'.running = s.running) : g.Tells s s' :=
  ⟨htasks, fun _ _ h => .inl (houtcomes ▸ h), hrunning⟩

theorem settle (q : Nat) {outcome : Outcome} (hsound : g.Sound outcome) :
    g.Tells s (s.settle q outcome) := by
  rcases s.settle_cases q outcome with ⟨hsame, -⟩ | ⟨p, -, halters, -⟩
  · rw [hsame]
    exact of_same rfl rfl rfl
  · refine ⟨by rw [halters.tasks], fun r known h => ?_, halters.running⟩
    rw [halters.outcome?] at h
    split at h
    · exact .inr (Option.some.inj h ▸ hsound)
    · exact .inl h

theorem observe (q : Nat) (notice : Notice Hook) : g.Tells s (s.observe q notice) :=
  of_same (by rw [(s.observe_same q notice).2]) (s.outcome?_observe q notice) (s.observe_same q notice).1

theorem addPromise (missing : Nat) : g.Tells s (s.addPromise missing).2 :=
  of_same rfl (Undisturbed.outcome?_added rfl fun _ hp => by rw [List.mem_singleton.1 hp]) rfl

theorem countDown (q : Nat) : g.Tells s (s.countDown q) := by
  rcases s.countDown_cases q with hsame | ⟨p, counted, halters, -, heq⟩
  · rw [hsame]
    exact of_same rfl rfl rfl
  have hcounted : g.Tells s counted := by
    refine of_same (by rw [halters.tasks]) (funext fun r => ?_) halters.running
    rw [halters.outcome?]
    split
    · subst r
      exact halters.outcome?_of_self.symm
    · rfl
  rcases heq with heq | heq <;> rw [heq]
  · exact hcounted
  · have hanswer : g.Sound (.ok default) := sound_ok fun _ h => by cases h
    have hsettle := settle (g := g) (s := counted) q hanswer
    exact ⟨hsettle.taskStacks.trans hcounted.taskStacks, fun r known h =>
      (hsettle.outcomes r known h).elim (hcounted.outcomes r known) .inr,
      hsettle.running.trans hcounted.running⟩

theorem interrupt (n : Nat) : g.Tells s (s.interrupt n) := by
  rcases s.interrupt_cases n with heq | ⟨t, ht, heq | ⟨q, -, heq⟩⟩ <;> rw [heq]
  · exact of_same rfl rfl rfl
  · exact of_same (Scheduler.map_set_of_eq ht rfl) rfl rfl
  · exact settle q (sound_error _)

theorem giveUp (q : Nat) : g.Tells s (s.giveUp q) := by
  rcases s.giveUp_cases q with ⟨task, -, heq⟩ | ⟨-, heq⟩ <;> rw [heq]
  · exact interrupt task
  · exact settle q (sound_error _)

theorem moved {w : World} (h : g.Tells w.tasks s) :
    w.taskStacks <+: World.taskStacks { w with tasks := s } := by
  refine ⟨[], ?_⟩
  rw [List.append_nil]
  exact h.taskStacks.symm

theorem holds {w : World} (h : g.Tells w.tasks s) (hw : g.Holds w) :
    g.Holds { w with tasks := s } := by
  have hlength : s.tasks.length = w.tasks.tasks.length := by
    simpa using congrArg List.length h.taskStacks
  refine hw.setTasks (hlength ▸ hw.begun) (fun n t ht => ?_) (fun q outcome hq => ?_)
    fun n outcome hrunning => hw.running n outcome (h.running ▸ hrunning)
  · have hstack : (w.tasks.tasks.map (·.stack))[n]? = some t.stack := by
      rw [← h.taskStacks, List.getElem?_map, ht]
      rfl
    rw [List.getElem?_map] at hstack
    obtain ⟨t', ht', heq⟩ := Option.map_eq_some_iff.1 hstack
    exact heq ▸ hw.taskStacks n t' ht'
  · exact (h.outcomes q outcome hq).elim (hw.settled q outcome) id

end Tells

theorem modifyTasks_does {change : Scheduler Point Answer Hook → Scheduler Point Answer Hook}
    (hsame : ∀ s, change (g.scheduler s) = g.scheduler (change s)) (htells : ∀ s, g.Tells s (change s)) :
    g.Does (modifyTasks change) := by
  intro w hw
  refine ⟨?_, (htells w.tasks).holds hw, trivial, (htells w.tasks).moved⟩
  show ((), ({ w with tasks := change (g.scheduler w.tasks) } : World)) = _
  rw [hsame]
  rfl

theorem onTasks_does {change : Scheduler Point Answer Hook → α × Scheduler Point Answer Hook}
    (hsame : ∀ s, change (g.scheduler s) = ((change s).1, g.scheduler (change s).2))
    (htells : ∀ s, g.Tells s (change s).2) : g.Does (onTasks change) := by
  intro w hw
  refine ⟨?_, (htells w.tasks).holds hw, trivial, (htells w.tasks).moved⟩
  show ((change (g.scheduler w.tasks)).1, { w with tasks := (change (g.scheduler w.tasks)).2 }) = _
  rw [hsame]
  rfl

theorem promise_does (missing : Nat) : g.Does (promise missing) :=
  onTasks_does (fun s => g.addPromise_scheduler s missing) fun _ => .addPromise missing

theorem settle_does (q : Nat) {outcome : Outcome} (hsame : g.outcome outcome = outcome)
    (hsound : g.Sound outcome) : g.Does (settle q outcome) :=
  modifyTasks_does (fun s => by rw [← g.settle_scheduler, hsame]) fun _ => .settle q hsound

/-- A promise is settled with an answer that is looked at. -/
theorem settle_ok_does (q : Nat) {answer : Answer} (hfinding : answer.isFinding = false)
    (houtput : ∀ output, answer ≠ .output output) : g.Does (settle q (.ok answer)) :=
  settle_does q (g.outcome_ok answer hfinding) (sound_ok houtput)

theorem settle_error_does (q : Nat) (failure : Failure) : g.Does (settle q (.error failure)) :=
  settle_does q (g.outcome_error failure) (sound_error failure)

theorem observe_does (q : Nat) (notice : Notice Hook) : g.Does (observe q notice) :=
  modifyTasks_does (fun s => g.observe_scheduler s q notice) fun _ => .observe q notice

theorem giveUp_does (q : Nat) : g.Does (modifyTasks (·.giveUp q)) :=
  modifyTasks_does (fun s => g.giveUp_scheduler s q) fun _ => .giveUp q

theorem interrupt_does (n : Nat) : g.Does (modifyTasks (·.interrupt n)) :=
  modifyTasks_does (fun s => g.interrupt_scheduler s n) fun _ => .interrupt n

theorem timer_does (delay : Nat) (notice : Notice Hook) : g.Does (timer delay notice) :=
  onTasks_does (fun _ => rfl) fun _ => .of_same rfl rfl rfl

theorem stopTimer_does (number : Nat) : g.Does (stopTimer number) :=
  modifyTasks_does (fun _ => rfl) fun _ => .of_same rfl rfl rfl

/-- A task begins that deals with processes. -/
theorem spawn_does {activity : Activity} (hmenial : activity.isMenial = true) :
    g.Does (spawn activity) := by
  intro w hw
  have hspawn : (g.scheduler w.tasks).spawn (.start activity) =
      ((w.tasks.spawn (.start activity)).1, g.scheduler (w.tasks.spawn (.start activity)).2) := by
    rw [← g.spawn_scheduler, g.point_menial (.start activity) hmenial]
  refine ⟨?_, ?_, trivial, ⟨[[.start activity]], ?_⟩⟩
  · show (((g.scheduler w.tasks).spawn (.start activity)).1,
      { w with tasks := ((g.scheduler w.tasks).spawn (.start activity)).2 }) = _
    rw [hspawn]
    rfl
  · refine hw.setTasks (s := (w.tasks.spawn (.start activity)).2) (by simp [Scheduler.spawn])
      (fun n t ht => ?_) (fun q outcome hq => ?_) hw.running
    · have ht : (w.tasks.tasks ++ [_])[n]? = some t := ht
      rcases Tasks.getElem?_concat_cases ht with hold | ⟨rfl, rfl⟩
      · exact hw.taskStacks n t hold
      · exact g.allowed_start _ activity (by have := hw.begun; omega) hmenial
    · refine hw.settled q outcome ?_
      rw [← hq]
      exact (congrFun (Undisturbed.outcome?_added (s := w.tasks) rfl fun _ hp => by
        rw [List.mem_singleton.1 hp]) q).symm
  · show _ = (w.tasks.tasks ++ [_]).map fun t : Tasks.Task Point => t.stack
    rw [List.map_append]
    rfl

/-! ## What is around -/

/-- What is around of tasks, connections and commands changes. -/
theorem modify_does {change : World → World} (hworld : ∀ w, change (g.world w) = g.world (change w))
    (htasks : ∀ w, (change w).tasks = w.tasks) (hconnections : ∀ w, (change w).connections = w.connections)
    (hcommands : ∀ w, (change w).commands = w.commands)
    (hversion : ∀ w, (change w).versionScript = w.versionScript)
    (hruns : ∀ w, (change w).runScripts = w.runScripts) : g.Does (modify change : Act Unit) :=
  .modify hworld htasks fun w hw =>
    hw.of_same (htasks w) (hconnections w) (hcommands w) (hversion w) (hruns w)

theorem updateProcess_does (number : Nat) (change : Process → Process) :
    g.Does (updateProcess number change) :=
  modify_does (fun _ => rfl) (fun _ => rfl) (fun _ => rfl) (fun _ => rfl) (fun _ => rfl) fun _ => rfl

theorem note_does (change : Record → Record) : g.Does (note change) :=
  modify_does (fun _ => rfl) (fun _ => rfl) (fun _ => rfl) (fun _ => rfl) (fun _ => rfl) fun _ => rfl

theorem updateSession_does (change : Session → Session) : g.Does (updateSession change) :=
  modify_does (fun _ => rfl) (fun _ => rfl) (fun _ => rfl) (fun _ => rfl) (fun _ => rfl) fun _ => rfl

theorem updateChannel_does (number : Nat) (change : Channel → Channel) :
    g.Does (updateChannel number change) :=
  modify_does (fun _ => rfl) (fun _ => rfl) (fun _ => rfl) (fun _ => rfl) (fun _ => rfl) fun _ => rfl

/-- A connection changes, but tells the same. -/
theorem updateConnection_does (number : Nat) {change : Connection → Connection}
    (h : ∀ c, (change c).listener = c.listener) : g.Does (updateConnection number change) := by
  refine .modify (fun _ => rfl) (fun _ => rfl) fun w hw => ⟨hw.begun, hw.taskStacks, hw.settled, hw.running,
    fun c hc => ?_, hw.commands, hw.versionScript, hw.runScripts⟩
  obtain ⟨i, hi⟩ := List.mem_iff_getElem?.1 hc
  rw [List.getElem?_modify] at hi
  obtain ⟨c', hc', rfl⟩ := Option.map_eq_some_iff.1 hi
  have hlistener := hw.listeners c' (List.mem_of_getElem? hc')
  split
  · rwa [h]
  · exact hlistener

theorem updateCommand_does (number : Nat) {change : Command → Command}
    (h : ∀ c, g.command c → g.command (change c)) : g.Does (updateCommand number change) := by
  refine .modify (fun _ => rfl) (fun _ => rfl) fun w hw => ⟨hw.begun, hw.taskStacks, hw.settled, hw.running, hw.listeners,
    fun c hc => ?_, hw.versionScript, hw.runScripts⟩
  obtain ⟨i, hi⟩ := List.mem_iff_getElem?.1 hc
  rw [List.getElem?_modify] at hi
  obtain ⟨c', hc', rfl⟩ := Option.map_eq_some_iff.1 hi
  have hcommand := hw.commands c' (List.mem_of_getElem? hc')
  split
  · exact h c' hcommand
  · exact hcommand

end Guise

end BasiliskServer.World
