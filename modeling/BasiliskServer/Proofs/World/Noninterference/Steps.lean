import BasiliskServer.Proofs.World.Noninterference.Connections

/-!
# Steps do not interfere with what was found

Whatever a task does at a menial point is the same in every guise (`Guise.resume_carries`). So a step
of the world is, unless the task that acts looks at what was found: a world in a guise takes the step
that the world takes, in the guise (`Guise.step_of_menial`), and what holds of it is kept.
-/

namespace BasiliskServer.World

open Json (Value Fields)
open Tasks (Notice Scheduler)

namespace Guise

variable {α β : Type} {g : Guise}

/-! ## Any menial point -/

/-- Whatever a task does at a menial point is done in the guise. -/
theorem resume_carries {point : Point} (hmenial : point.isMenial = true) {outcome : Outcome}
    (hsound : g.Sound outcome) :
    g.Carries g.next g.Suits (point.resume (g.outcome outcome)) (point.resume outcome) := by
  cases point with
  | start activity =>
    have hbegin : g.Goes (beginActivity activity) := by
      cases activity with
      | readOutput channel => exact withProcess_goes channel (readOutput_goes channel)
      | readErrors channel => exact withProcess_goes channel (readErrors_goes channel)
      | watch channel reader => exact withProcess_goes channel fun _ => waitAll_goes _ rfl
      | awaitExit process => exact awaitExit_goes process
      | communicate command => exact communicate_goes command
      | _ => cases hmenial
    refine Carries.of_told hsound (fun told hsame hsound => ?_) fun found' found _ _ heq => hbegin
    cases told with
    | ok answer => exact hbegin
    | error failure => exact .fail failure
  | wait point => exact waitResume_carries point hsound
  | program point => exact programResume_carries hmenial hsound
  | channel point => exact channelResume_carries point hsound
  | connection point => exact connectionResume_carries point hsound
  | _ => cases hmenial

/-! ## Steps -/

/-- A promise is settled with what another one has come to. -/
theorem settle_carries (q : Nat) {outcome : Outcome} (hsound : g.Sound outcome) :
    g.Carries id (fun _ => True) (settle q (g.outcome outcome)) (settle q outcome) := by
  intro w hw
  refine ⟨?_, (Tells.settle q hsound).holds hw, trivial, (Tells.settle q hsound).moved⟩
  show ((), ({ w with tasks := (g.scheduler w.tasks).settle q (g.outcome outcome) } : World)) = _
  rw [g.settle_scheduler]
  rfl

theorem holds_resume {w : World} (hw : g.Holds w) (n : Nat) :
    g.Holds { w with tasks := w.tasks.resume n } := by
  unfold Scheduler.resume
  split
  · exact hw
  · rename_i t ht
    split
    · exact hw
    · rename_i outcome hnews
      -- A task is told of what was settled, and of nothing else.
      have hsound : g.Sound outcome := by
        rcases Scheduler.news?_eq_some hnews with ⟨-, rfl⟩ | ⟨q, -, hsettled⟩
        · exact sound_ok fun _ h => by cases h
        · exact hw.settled _ _ hsettled
      refine hw.setTasks ((List.length_set ..).symm ▸ hw.begun) (fun m t' ht' => ?_) hw.settled ?_
      · rcases Tasks.getElem?_set_cases ht' with ⟨rfl, rfl⟩ | ⟨-, ht'⟩
        · show g.allowed n (if _ then [] else t.stack)
          split
          · exact g.allowed_nil n
          · exact hw.taskStacks n t ht
        · exact hw.taskStacks m t' ht'
      · intro m told hrunning
        obtain ⟨-, rfl⟩ := Prod.mk.inj (Option.some.inj hrunning)
        split
        · exact sound_error _
        · exact hsound

/-- Whatever was caused happens in the guise. -/
theorem happen_world {w : World} (hw : g.Holds w) (notice : Notice Hook) :
    ((happen notice).run (g.world w)).2 = g.world ((happen notice).run w).2 ∧
      g.Holds ((happen notice).run w).2 := by
  have hdoes : g.Does (happen notice) →
      ((happen notice).run (g.world w)).2 = g.world ((happen notice).run w).2 ∧
        g.Holds ((happen notice).run w).2 :=
    fun h => ⟨congrArg Prod.snd (h w hw).1, (h w hw).2.1⟩
  cases notice with
  | wake task =>
    refine ⟨?_, holds_resume hw task⟩
    show ({ w with tasks := (g.scheduler w.tasks).resume task } : World) = _
    rw [g.resume_scheduler]
    rfl
  | release promise => exact hdoes (settle_ok_does promise rfl fun _ h => by cases h)
  | relay source target =>
    exact hdoes (.of_outcome? source (fun outcome hsound => settle_carries target hsound) (.pure ()))
  | tally promise =>
    exact hdoes (modifyTasks_does (fun s => g.countDown_scheduler s promise) fun _ => .countDown promise)
  | hook hook =>
    cases hook with
    | forget channel request => exact hdoes (updateChannel_does _ _)
    | retire task =>
      exact hdoes (updateSession_does fun s => { s with tasks := s.tasks.filter (· ≠ task) })
    | write process bytes => exact hdoes (writeOutput_does process bytes)
    | quit process code => exact hdoes (quit_does process code)

/-- While no task runs, the first thing in the queue happens in the guise. -/
theorem step_of_idle {w : World} (hw : g.Holds w) (hidle : w.tasks.running = none) :
    (g.world w).step = g.world w.step ∧ g.Holds w.step := by
  have hidle' : (g.world w).tasks.running = none := by
    show (g.scheduler w.tasks).running = none
    rw [Tasks.Recasting.scheduler, hidle]
    rfl
  have htake' : (g.world w).tasks.takeNotice = _ := g.takeNotice_scheduler w.tasks
  rw [World.step_of_idle hidle, World.step_of_idle hidle', htake']
  cases htake : w.tasks.takeNotice with
  | none => exact ⟨rfl, hw⟩
  | some pair =>
    obtain ⟨notice, tasks⟩ := pair
    obtain ⟨hrunning, hsame, hpromises, -⟩ := Scheduler.takeNotice_same htake
    have hheld : g.Holds { w with tasks } := by
      refine hw.setTasks (hsame ▸ hw.begun) (hsame ▸ hw.taskStacks) (fun q outcome hq => ?_) (hrunning ▸ hw.running)
      refine hw.settled q outcome ?_
      rwa [Scheduler.outcome?, ← hpromises]
    exact happen_world hheld notice

section Running

variable {w : World} {n : Nat} {outcome : Outcome} {t : Tasks.Task Point} {point : Point}
  {rest : List Point}

theorem running_world (hrunning : w.tasks.running = some (n, outcome)) :
    (g.world w).tasks.running = some (n, g.outcome outcome) := by
  show (g.scheduler w.tasks).running = _
  rw [Tasks.Recasting.scheduler, hrunning]
  rfl

theorem tasks_world (ht : w.tasks.tasks[n]? = some t) : (g.world w).tasks.tasks[n]? = some (g.task t) := by
  rw [show (g.world w).tasks.tasks[n]? = _ from g.tasks_scheduler w.tasks n, ht]
  rfl

/-- A task that is over tells so in the guise. -/
theorem step_of_nil (hw : g.Holds w) (hrunning : w.tasks.running = some (n, outcome))
    (ht : w.tasks.tasks[n]? = some t) (hstack : t.stack = []) :
    (g.world w).step = g.world w.step ∧ g.Holds w.step := by
  have hstack' : (g.task t).stack = [] := congrArg (List.map g.point) hstack
  have hrested : g.Holds { w with tasks := { w.tasks with running := none } } :=
    hw.setTasks hw.begun hw.taskStacks hw.settled fun _ _ h => by cases h
  obtain ⟨hrun, hholds, -⟩ := settle_carries (g := g) t.result (hw.running n outcome hrunning) _ hrested
  rw [World.step_of_nil hrunning ht hstack,
    World.step_of_nil (running_world hrunning) (tasks_world ht) hstack']
  exact ⟨congrArg Prod.snd hrun, hholds⟩

/-- Where no such task is, none runs afterwards. -/
theorem step_of_none (hw : g.Holds w) (hrunning : w.tasks.running = some (n, outcome))
    (ht : w.tasks.tasks[n]? = none) : (g.world w).step = g.world w.step ∧ g.Holds w.step := by
  have hstep : ∀ {w : World} {outcome : Outcome}, w.tasks.running = some (n, outcome) →
      w.tasks.tasks[n]? = none → w.step = { w with tasks := { w.tasks with running := none } } := by
    intro w outcome hrunning ht
    simp only [step, perform, stepAct, run_bind, run_get, hrunning, advanceTask, ht]
    rfl
  have ht' : (g.world w).tasks.tasks[n]? = none := by
    rw [show (g.world w).tasks.tasks[n]? = _ from g.tasks_scheduler w.tasks n, ht]
    rfl
  rw [hstep hrunning ht, hstep (running_world hrunning) ht']
  exact ⟨rfl, hw.setTasks hw.begun hw.taskStacks hw.settled fun _ _ h => by cases h⟩

/-- What a task does at a point, so that it stands afterwards where it can. -/
def Fits (g : Guise) (n : Nat) (rest : List Point) (next : Next) : Prop :=
  g.allowed n (points next ++ rest) ∧ ∀ outcome front, next = .go outcome front → g.Sound outcome

/-- An activity that goes on at a point below. -/
theorem Carries.fits_under {act' act : Act Next} {n : Nat} {point : Point} {rest : List Point}
    (h : g.Carries g.next (g.Fits n (point :: rest)) act' act) :
    g.Carries g.next (g.Fits n rest) (World.under (g.point point) act') (World.under point act) := by
  intro w hw
  obtain ⟨hrun, hholds, ⟨hallowed, hsound⟩, hstacks⟩ := h w hw
  have hunder : ∀ (p : Point) (a : Act Next) (w : World), (World.under p a).run w =
      ((a.run w).1.under p, (a.run w).2) := fun _ _ _ => rfl
  rw [CarriesAt, hunder, hunder, hrun]
  refine ⟨Prod.ext ?_ rfl, hholds, ⟨?_, ?_⟩, hstacks⟩
  · cases (act.run w).1 <;> simp [Tasks.Next.under, Tasks.Recasting.next]
  · rw [points_under, List.append_assoc]
    exact hallowed
  · intro outcome front heq
    generalize (act.run w).1 = next at hsound heq
    cases next with
    | wait q points => cases heq
    | go told points =>
      obtain ⟨rfl, -⟩ := Tasks.Next.go.inj heq
      exact hsound _ _ rfl

theorem Suits.fits {n : Nat} {rest : List Point} {next : Next} (h : g.Suits next) (hrest : g.allowed n rest) :
    g.Fits n rest next :=
  ⟨g.allowed_append n _ _ h.menial hrest, h.sound⟩

/-- A task that has acted goes on as told. -/
theorem holds_proceed {w : World} (hw : g.Holds w) {n : Nat} {rest : List Point} {next : Next}
    (hstack : ∀ t, w.tasks.tasks[n]? = some t → t.stack = rest) (hfits : g.Fits n rest next) :
    g.Holds { w with tasks := w.tasks.proceed n next } := by
  -- Only the task that acted has another stack, and the guise allows it.
  have hset : ∀ {t t' : Tasks.Task Point}, w.tasks.tasks[n]? = some t → t'.stack = points next ++ t.stack →
      ∀ m u, (w.tasks.tasks.set n t')[m]? = some u → g.allowed m u.stack := by
    intro t t' ht hpoints m u hu
    rcases Tasks.getElem?_set_cases hu with ⟨rfl, rfl⟩ | ⟨-, hu⟩
    · rw [hpoints, hstack t ht]
      exact hfits.1
    · exact hw.taskStacks m u hu
  have hlength : ∀ {t' : Tasks.Task Point}, 0 < (w.tasks.tasks.set n t').length :=
    (List.length_set ..).symm ▸ hw.begun
  unfold Scheduler.proceed
  split
  · exact hw.setTasks hw.begun hw.taskStacks hw.settled fun _ _ h => by cases h
  · rename_i t ht
    split
    · rename_i outcome front
      refine hw.setTasks hlength (hset ht rfl) hw.settled fun m told h => ?_
      obtain ⟨-, rfl⟩ := Prod.mk.inj (Option.some.inj h)
      exact hfits.2 _ _ rfl
    · rename_i q front
      cases hknown : w.tasks.outcome? q with
      | some outcome =>
        refine hw.setTasks hlength (hset ht rfl) hw.settled fun m told h => ?_
        obtain ⟨-, rfl⟩ := Prod.mk.inj (Option.some.inj h)
        exact hw.settled q _ hknown
      | none =>
        have hwaits := hw.setTasks (s := { w.tasks with
            tasks := w.tasks.tasks.set n { t with stack := front ++ t.stack, waiting := some q }
            running := none }) hlength (hset ht rfl) hw.settled fun _ _ h => by cases h
        exact (Tells.observe q (.wake n)).holds hwaits

theorem moveTask_world (g : Guise) (w : World) (n : Nat) (t : Tasks.Task Point) (outcome : Outcome) :
    (g.world w).moveTask n (g.task t) (some (g.outcome outcome)) =
      g.world (w.moveTask n t (some outcome)) := by
  simp [moveTask, world, Tasks.Recasting.scheduler, List.map_set]

theorem Holds.popped (hw : g.Holds w) (hrunning : w.tasks.running = some (n, outcome))
    (hrest : g.allowed n rest) : g.Holds (w.moveTask n { t with stack := rest } (some outcome)) := by
  refine hw.setTasks ((List.length_set ..).symm ▸ hw.begun) (fun m u hu => ?_) hw.settled ?_
  · rcases Tasks.getElem?_set_cases hu with ⟨rfl, rfl⟩ | ⟨-, hu⟩
    · exact hrest
    · exact hw.taskStacks m u hu
  · intro m told h
    obtain ⟨-, rfl⟩ := Prod.mk.inj (Option.some.inj h)
    exact hw.running n _ hrunning

/-- A task goes on at a point in the guise. -/
theorem step_of_acts (hrunning : w.tasks.running = some (n, outcome)) (ht : w.tasks.tasks[n]? = some t)
    (hstack : t.stack = point :: rest)
    (hacts : g.CarriesAt g.next (g.Fits n rest) ((g.point point).resume (g.outcome outcome))
      (point.resume outcome) (w.moveTask n { t with stack := rest } (some outcome))) :
    (g.world w).step = g.world w.step ∧ g.Holds w.step := by
  have hstack' : (g.task t).stack = g.point point :: rest.map g.point :=
    congrArg (List.map g.point) hstack
  have hbefore : (w.moveTask n { t with stack := rest } (some outcome)).taskStacks[n]? = some rest := by
    show ((w.tasks.tasks.set n { t with stack := rest }).map fun u : Tasks.Task Point => u.stack)[n]? = _
    rw [List.getElem?_map, List.getElem?_set_self (List.getElem?_eq_some_iff.1 ht).1]
    rfl
  obtain ⟨hrun, hholds, hfits, hstays⟩ := hacts
  rw [World.step_of_point hrunning ht hstack,
    World.step_of_point (running_world hrunning) (tasks_world ht) hstack',
    show ({ g.task t with stack := rest.map g.point } : Tasks.Task Point) = g.task { t with stack := rest } from rfl,
    moveTask_world]
  generalize w.moveTask n { t with stack := rest } (some outcome) = before at hbefore hrun hholds hfits hstays
  simp only [perform, run_bind, hrun]
  generalize (point.resume outcome).run before = acted at hholds hfits hstays
  obtain ⟨next, w'⟩ := acted
  refine ⟨?_, holds_proceed hholds (fun u hu => ?_) hfits⟩
  · show ({ w' with tasks := (g.scheduler w'.tasks).proceed n (g.next next) } : World) = _
    rw [g.proceed_scheduler]
    rfl
  · -- acting has moved no task
    have hafter : w'.taskStacks[n]? = some u.stack := by
      rw [World.taskStacks, List.getElem?_map, hu]
      rfl
    obtain ⟨more, hmore⟩ := hstays
    rw [← hmore, Tasks.getElem?_append_of_some hbefore] at hafter
    exact (Option.some.inj hafter).symm

/-- A task goes on at a menial point in the guise. -/
theorem step_of_menial (hw : g.Holds w) (hrunning : w.tasks.running = some (n, outcome))
    (ht : w.tasks.tasks[n]? = some t) (hstack : t.stack = point :: rest) (hmenial : point.isMenial = true) :
    (g.world w).step = g.world w.step ∧ g.Holds w.step := by
  have hrest : g.allowed n rest := g.allowed_tail n point rest hmenial (hstack ▸ hw.taskStacks n t ht)
  refine step_of_acts hrunning ht hstack ?_
  rw [g.point_menial point hmenial]
  refine ((resume_carries hmenial (hw.running n outcome hrunning)).mono fun next hsuits => ?_) _
    (hw.popped hrunning hrest)
  exact hsuits.fits hrest

end Running

/-- Time moves on in the guise. -/
theorem moveTo_world {w : World} (hw : g.Holds w) (moment : Nat) :
    (g.world w).moveTo moment = g.world (w.moveTo moment) ∧ g.Holds (w.moveTo moment) := by
  obtain ⟨hrunning, htasks, hpromises⟩ := w.tasks.moveTo_same moment
  refine ⟨?_, hw.setTasks (htasks ▸ hw.begun) (htasks ▸ hw.taskStacks) (fun q outcome hq => ?_)
    (hrunning ▸ hw.running)⟩
  · show ({ w with tasks := (g.scheduler w.tasks).moveTo moment } : World) = _
    rw [g.moveTo_scheduler]
    rfl
  · refine hw.settled q outcome ?_
    rwa [Scheduler.outcome?, ← hpromises]

end Guise

end BasiliskServer.World
