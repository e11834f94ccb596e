import BasiliskServer.Proofs.World.Renewals
import BasiliskServer.Proofs.World.Check.StageSteps
import BasiliskServer.Proofs.World.Check.ExitCode

/-!
# What a check leaves behind

Whatever the compiler and the companion process do in a check of a file, none of the programs that were
started is left running when the check is over (`check_leaves_nothing`), as long as a program that is killed
ends.

Throughout a check the world is as its promises pledge, and the first task is at a stage
(`Trust.Oversees`). The promise of the result of the first task pledges that it is over, so that it has no
points left when that is known, and the stage with no points left is one at which everything has ended
(`Trust.Oversees.leavesNoneRunning`).
-/

namespace BasiliskServer.World

open Tasks (Notice Scheduler)

/-- Nothing that was started is left running. -/
def LeavesNoneRunning (w : World) : Prop :=
  (∀ p ∈ w.processes, p.code.isSome) ∧ ∀ c ∈ w.commands, c.code.isSome

/-! ## What happens to tasks -/

section Tasks

variable {s : Scheduler Point Answer Hook} {number : Nat} {t : Tasks.Task Point}

/-- A task that is moved keeps its result. -/
theorem keepsResults_set (ht : s.tasks[number]? = some t) (t' : Tasks.Task Point) (hresult : t'.result = t.result)
    (running : Option (Nat × Outcome)) :
    KeepsResults s { s with tasks := s.tasks.set number t', running } := by
  intro other known hknown
  show ∃ t'', (s.tasks.set number t')[other]? = some t'' ∧ _
  -- only one task was moved
  obtain ⟨now, hnow, ⟨-, rfl, rfl⟩ | ⟨-, rfl⟩⟩ := Tasks.exists_getElem?_set ht hknown t'
  · exact ⟨now, hnow, hresult⟩
  · exact ⟨now, hnow, rfl⟩

/-- A task that goes on as told stands at further points, and waits, or is told something at once. -/
theorem proceed_moves (ht : s.tasks[number]? = some t) (next : Next) : ∃ t' running,
    Unmoved { s with tasks := s.tasks.set number t', running } (s.proceed number next) ∧
      t'.stack = points next ++ t.stack ∧ t'.result = t.result ∧
        (running = (tells? next).map (number, ·) ∨
          tells? next = none ∧ ∃ told, running = some (number, told)) := by
  rcases s.proceed_cases ht next with ⟨outcome, front, rfl | ⟨q, rfl, -⟩, heq⟩ | ⟨q, front, rfl, -, heq⟩ <;>
    rw [heq]
  · exact ⟨_, _, .refl, rfl, rfl, .inl rfl⟩
  · exact ⟨_, _, .refl, rfl, rfl, .inr ⟨rfl, _, rfl⟩⟩
  · exact ⟨_, _, .observe q _, rfl, rfl, .inl rfl⟩

theorem keepsResults_proceed (ht : s.tasks[number]? = some t) (next : Next) : KeepsResults s (s.proceed number next) := by
  obtain ⟨t', running, hunmoved, -, hresult, -⟩ := proceed_moves ht next
  intro other known hknown
  obtain ⟨moved, hmoved, hsame⟩ := keepsResults_set ht t' hresult running other known hknown
  obtain ⟨last, hlast, -, hlastResult⟩ := hunmoved.tasks other moved hmoved
  exact ⟨last, hlast, hlastResult.trans hsame⟩

end Tasks

variable {w : World} {number : Nat} {outcome : Outcome}

theorem told?_of_other (h : w.tasks.running = some (number, outcome)) (hother : number ≠ 0) :
    w.told? 0 = none := by
  simp [told?, h, hother]

namespace Trust

/-- A world in which a file is checked is as its promises pledge, and the first task is at a stage. -/
structure Oversees (T : Trust) (w : World) : Prop where
  /-- It is as its promises pledge. -/
  holds : T.Holds w
  /-- The task that runs is told what it relies on. -/
  told : T.Told w.ended w.tasks
  /-- The first promise is that of the result of the first task. -/
  first : T.pledges[0]? = some .last
  /-- The first task is at a stage. -/
  stage : ∃ task, w.tasks.tasks[0]? = some task ∧ T.Stage w.ended w.inventory (w.told? 0) task.stack

variable {T T' : Trust} {t : Tasks.Task Point} {point : Point} {rest : List Point}

/-- A single task that is to begin is as it pledges. -/
theorem sound_begin {activity : Activity} {s : Scheduler Point Answer Hook} (e : Ended)
    (hs : s =
      { promises := [{ task := some 0 }]
        tasks := [{ stack := [.start activity], result := 0 }]
        ready := [.wake 0] }) : ({ pledges := [.last] } : Trust).Sound e s := by
  have hfirst : ∀ {number : Nat} {task : Tasks.Task Point}, s.tasks[number]? = some task →
      number = 0 ∧ task = { stack := [.start activity], result := 0 } := by
    intro number task ht
    rw [hs] at ht
    cases number with
    | zero => exact ⟨rfl, (Option.some.inj ht).symm⟩
    | succ number => cases ht
  have hunknown : ∀ q, s.outcome? q = none := by
    intro q
    rw [hs]
    cases q <;> rfl
  -- There is one task and one promise, and nothing is settled yet.
  constructor
  case length => rw [hs]; rfl
  case given => exact fun _ h => absurd h List.not_mem_nil
  case outcomes =>
    intro q pledge outcome _ houtcome
    rw [hunknown] at houtcome
    cases houtcome
  case notices =>
    intro notice hnotice
    rw [hs, Scheduler.mem_notices] at hnotice
    rcases hnotice with hready | ⟨timer, htimer, -⟩ | hpromise
    · exact List.mem_singleton.1 hready ▸ trivial
    · exact absurd htimer List.not_mem_nil
    · simp at hpromise
  case tasks =>
    intro number task ht
    obtain ⟨rfl, rfl⟩ := hfirst ht
    refine ⟨fun _ => ⟨rfl, fun h => (by cases h), rfl, trivial, fun _ _ h => (by cases h), fun _ _ => ?_⟩,
      fun h => absurd rfl h⟩
    exact .inr ⟨rfl, _, rfl⟩
  case finished =>
    intro number task ht _ hstack
    obtain ⟨rfl, rfl⟩ := hfirst ht
    cases hstack
  case owners =>
    intro q number hq
    rw [hs] at hq ⊢
    cases q with
    | zero =>
      obtain rfl := Option.some.inj hq
      exact ⟨_, rfl, rfl⟩
    | succ q => cases hq
  case running =>
    intro number outcome hrunning
    rw [hs] at hrunning
    cases hrunning

namespace Oversees

/-- When the first task has gone on as told, it is at the stage to which that leads. -/
theorem stage_proceed {e : Ended} {I : Inventory} {next : Next} (ht : w.tasks.tasks[0]? = some t)
    (hstage : T.Stage e I (tells? next) (points next ++ t.stack)) :
    ∃ task, (w.tasks.proceed 0 next).tasks[0]? = some task ∧
      T.Stage e I (({ w with tasks := w.tasks.proceed 0 next } : World).told? 0) task.stack := by
  obtain ⟨t', running, hunmoved, hstack, -, hrunning⟩ := proceed_moves ht next
  obtain ⟨task, htask, hsame, -⟩ := hunmoved.tasks 0 t'
    (List.getElem?_set_self (List.getElem?_eq_some_iff.1 ht).1)
  have hproceeds : (w.tasks.proceed 0 next).running = running := hunmoved.running
  refine ⟨task, htask, ?_⟩
  rw [hsame, hstack]
  -- if what it waits for is known already, it is told that at once
  rcases hrunning with hrunning | ⟨hnone, told, hrunning⟩
  · cases htells : tells? next with
    | none =>
      rw [told?_of_idle (hproceeds.trans (by rw [hrunning, htells]; rfl)) 0]
      exact htells ▸ hstage
    | some told =>
      rw [told?_eq_some.2 (hproceeds.trans (by rw [hrunning, htells]; rfl))]
      exact htells ▸ hstage
  · rw [told?_eq_some.2 (hproceeds.trans hrunning)]
    exact (hnone ▸ hstage).wakes (some told)

/-- When another task has gone on as told, the first one is where it was. -/
theorem first_proceed {e : Ended} {I : Inventory} {next : Next} {first : Tasks.Task Point}
    (ht : w.tasks.tasks[number]? = some t) (hother : number ≠ 0) (hfirst : w.tasks.tasks[0]? = some first)
    (hstage : T.Stage e I none first.stack) :
    ∃ task, (w.tasks.proceed number next).tasks[0]? = some task ∧
      T.Stage e I (({ w with tasks := w.tasks.proceed number next } : World).told? 0) task.stack := by
  obtain ⟨t', running, hunmoved, -, -, hrunning⟩ := proceed_moves ht next
  obtain ⟨task, htask, hsame, -⟩ := hunmoved.tasks 0 first
    ((List.getElem?_set_ne hother).trans hfirst)
  have hproceeds : (w.tasks.proceed number next).running = running := hunmoved.running
  have hnone : ({ w with tasks := w.tasks.proceed number next } : World).told? 0 = none := by
    rcases hrunning with hrunning | ⟨-, told, hrunning⟩
    · cases htells : tells? next with
      | none => exact told?_of_idle (hproceeds.trans (by rw [hrunning, htells]; rfl)) 0
      | some told => exact told?_of_other (hproceeds.trans (by rw [hrunning, htells]; rfl)) hother
    · exact told?_of_other (hproceeds.trans hrunning) hother
  exact ⟨task, htask, by rw [hsame, hnone]; exact hstage⟩

/-- When a task that helps has taken leave of a process or not, the first task is at a stage. -/
theorem takesLeave {w' : World} {stack : List Point} (h : T.Stage w.ended w.inventory none stack)
    (hleave : w.TakesLeave w') : T.Stage w.ended w'.inventory none stack := by
  rcases hleave with hsame | ⟨⟨process, hended⟩, hprocesses, hcommands⟩
  · exact hsame ▸ h
  · refine h.leaves (fun other hother => ?_) hended hprocesses hcommands
    obtain ⟨code, hcode⟩ := Option.isSome_iff_exists.1 hother
    obtain ⟨p, hp, -⟩ := Option.bind_eq_some_iff.1 hcode
    exact (List.getElem?_eq_some_iff.1 hp).1

/-- The first task takes a step. -/
theorem step_of_leader (h : T.Oversees w) (hrunning : w.tasks.running = some (0, outcome))
    (ht : w.tasks.tasks[0]? = some t) (hstack : t.stack = point :: rest) : ∃ T' : Trust, T'.Oversees w.step := by
  have hlead := (h.holds.sound.tasks 0 t ht).leads rfl
  have htakes := h.told.leader outcome t hrunning ht
  obtain ⟨task, htask, hstage⟩ := h.stage
  obtain rfl := Option.some.inj (ht.symm.trans htask)
  rw [told?_eq_some.2 hrunning, hstack] at hstage
  rw [hstack] at htakes
  rw [step_of_point hrunning ht hstack]
  set t₀ : Tasks.Task Point := { t with stack := rest }
  -- first its point is taken off, then it acts, then it goes on as told
  have hpopped : T.Holds (w.moveTask 0 t₀ (some outcome)) :=
    h.holds.goOn .refl (h.holds.sound.pop hrunning ht hstack) (keepsResults_set ht t₀ rfl _)
  obtain ⟨T', hmoves, hholds, hreaches⟩ := resume_leads (w := w.moveTask 0 t₀ (some outcome)) ⟨outcome, rfl⟩
    htakes (hstack ▸ hlead.layered) hstage hpopped
  obtain ⟨t', ht', hrest, -⟩ := hmoves.unmoved.tasks 0 t₀
    (List.getElem?_set_self (List.getElem?_eq_some_iff.1 ht).1)
  have hrest : t'.stack = rest := hrest
  -- it has a point left, so it was not over
  have hopen : T'.closed = false := by
    rw [hmoves.closed, Bool.eq_false_iff]
    intro hclosed
    rw [hlead.closed hclosed] at hstack
    cases hstack
  rw [← hrest] at hreaches
  obtain ⟨hsound, htold⟩ := hholds.sound.proceed hmoves.unmoved.running ht'
    (fun _ => ⟨hopen, hreaches.steers⟩) fun hother => absurd rfl hother
  exact ⟨T', hholds.goOn .refl hsound (keepsResults_proceed ht' _), htold, hmoves.grows.pledges _ _ h.first,
    stage_proceed ht' hreaches.stage⟩

/-- Another task takes a step. -/
theorem step_of_helper (h : T.Oversees w) (hrunning : w.tasks.running = some (number, outcome))
    (hother : number ≠ 0) (ht : w.tasks.tasks[number]? = some t) (hstack : t.stack = point :: rest) :
    ∃ T' : Trust, T'.Oversees w.step := by
  obtain ⟨pledge, hhelp⟩ := (h.holds.sound.tasks number t ht).helps hother
  have htold := h.told.helper number outcome t pledge hrunning hother ht hhelp.result
  have hchain := hhelp.chain
  rw [hstack] at htold hchain
  obtain ⟨⟨brought, hbrings, hgives⟩, hreading, hstarted, -⟩ := hchain
  have hallows : T.Allows w.ended ⟨point.relies, pledge.excuse⟩ outcome :=
    htold.resolve_left fun hover => by cases hover.1
  obtain ⟨first, hfirst, hstage⟩ := h.stage
  rw [told?_of_other hrunning hother] at hstage
  rw [step_of_point hrunning ht hstack]
  set t₀ : Tasks.Task Point := { t with stack := rest }
  have hpopped : T.Holds (w.moveTask number t₀ (some outcome)) :=
    h.holds.goOn .refl (h.holds.sound.pop hrunning ht hstack) (keepsResults_set ht t₀ rfl _)
  obtain ⟨T', hmoves, hholds, hcontinues, hleave⟩ :=
    resume_helps (w := w.moveTask number t₀ (some outcome)) hbrings hreading hstarted hallows hpopped
  -- what the point brings is what is relied on below it
  have hgoes : T'.Continues _ ⟨relied pledge.guarantee rest, pledge.excuse⟩ _ := hcontinues.gives hgives rfl
  obtain ⟨t', ht', hrest, hresult⟩ := hmoves.unmoved.tasks number t₀
    (List.getElem?_set_self (List.getElem?_eq_some_iff.1 ht).1)
  have hrest : t'.stack = rest := hrest
  obtain ⟨first', hfirst', hsame, -⟩ := hmoves.unmoved.tasks 0 first
    ((List.getElem?_set_ne hother).trans hfirst)
  obtain ⟨hsound, htold⟩ := hholds.sound.proceed hmoves.unmoved.running ht' (fun hzero => absurd hzero hother)
    fun _ known hknown => by
      rw [show t'.result = t.result from hresult] at hknown
      obtain rfl := Option.some.inj ((hmoves.grows.pledges _ _ hhelp.result).symm.trans hknown)
      rw [hrest]
      exact hgoes
  refine ⟨T', hholds.goOn .refl hsound (keepsResults_proceed ht' _), htold, hmoves.grows.pledges _ _ h.first,
    first_proceed ht' hother hfirst' ?_⟩
  -- the first task stands where it stood, perhaps at a later stage
  rw [hsame]
  exact (takesLeave (w := w.moveTask number t₀ (some outcome)) hstage hleave).mono hmoves.grows hmoves.ends

/-- A task that has no points left is over. -/
theorem step_of_over (h : T.Oversees w) (hrunning : w.tasks.running = some (number, outcome))
    (ht : w.tasks.tasks[number]? = some t) (hstack : t.stack = []) : ∃ T' : Trust, T'.Oversees w.step := by
  rw [step_of_nil hrunning ht hstack]
  obtain ⟨first, hfirst, hstage⟩ := h.stage
  have hunmoved : Unmoved { w.tasks with running := none }
      ({ w.tasks with running := none }.settle t.result outcome) := .settle _ _
  have hresults : KeepsResults w.tasks ({ w.tasks with running := none }.settle t.result outcome) :=
    hunmoved.keepsResults
  obtain ⟨first', hfirst', hsame, -⟩ := hunmoved.tasks 0 first hfirst
  have hidle : ({ w.tasks with running := none }.settle t.result outcome).running = none := hunmoved.running
  have hover : ∀ {T' : Trust}, T.Grows T' →
      T'.Sound w.ended ({ w.tasks with running := none }.settle t.result outcome) →
      T'.Stage w.ended w.inventory none first.stack →
      T'.Oversees { w with tasks := { w.tasks with running := none }.settle t.result outcome } :=
    fun hgrows hsound hstage' => ⟨h.holds.goOn hgrows hsound hresults, Sound.told_of_idle hidle,
      hgrows.pledges _ _ h.first, first', hfirst', by rw [hsame, told?_of_idle hidle 0]; exact hstage'⟩
  by_cases hzero : number = 0
  · -- the first task is over
    subst hzero
    obtain rfl := Option.some.inj (ht.symm.trans hfirst)
    have hlead := (h.holds.sound.tasks 0 t ht).leads rfl
    -- its result pledges that it is over, so this is put down before the result is settled
    have hclosed := h.holds.sound.close fun task htask => by
      obtain rfl := Option.some.inj (ht.symm.trans htask)
      exact hstack
    refine ⟨T.close, hover grows_close (hclosed.finish hrunning ht hstack fun pledge hpledge => .inr ?_) ?_⟩
    · obtain rfl := Option.some.inj (hlead.result.symm.trans hpledge)
      cases outcome <;> rfl
    · rw [hstack] at hstage ⊢
      exact hstage.stops _ _
  · obtain ⟨pledge, hhelp⟩ := (h.holds.sound.tasks number t ht).helps hzero
    have htold := h.told.helper number outcome t pledge hrunning hzero ht hhelp.result
    rw [hstack] at htold
    refine ⟨T, hover .refl (h.holds.sound.finish hrunning ht hstack fun known hknown => ?_) ?_⟩
    · obtain rfl := Option.some.inj (hhelp.result.symm.trans hknown)
      exact htold.imp_left (·.2)
    · rwa [told?_of_other hrunning hzero] at hstage

/-- The task that runs takes a step. -/
theorem step_of_running (h : T.Oversees w) (hrunning : w.tasks.running = some (number, outcome)) :
    ∃ T' : Trust, T'.Oversees w.step := by
  obtain ⟨t, ht, -⟩ := h.holds.sound.running number outcome hrunning
  cases hstack : t.stack with
  | nil => exact h.step_of_over hrunning ht hstack
  | cons point rest =>
    by_cases hzero : number = 0
    · subst hzero
      exact h.step_of_leader hrunning ht hstack
    · exact h.step_of_helper hrunning hzero ht hstack

/-- Something happens while no task runs that changes no inventory and breaks no promise. -/
theorem does (h : T.Oversees w) (hidle : w.tasks.running = none) {act : Act Unit} (hact : T.Does w act) :
    T.Oversees (w.perform act) := by
  obtain ⟨T', hmoves, hholds, rfl, hinventory⟩ := hact h.holds
  obtain ⟨first, hfirst, hstage⟩ := h.stage
  obtain ⟨first', hfirst', hsame, -⟩ := hmoves.unmoved.tasks 0 first hfirst
  have hidle' : (w.perform act).tasks.running = none := hmoves.unmoved.running.trans hidle
  refine ⟨hholds, Sound.told_of_idle hidle', h.first, first', hfirst', ?_⟩
  rw [told?_of_idle hidle] at hstage
  rw [told?_of_idle hidle', hsame, show (w.perform act).inventory = w.inventory from hinventory]
  exact hstage.mono .refl hmoves.ends

/-- Something happens to what waits in the queue, or to the time. -/
theorem queue (h : T.Oversees w) {s : Scheduler Point Answer Hook} (hsound : T.Sound w.ended s)
    (hrunning : s.running = w.tasks.running) (htasks : s.tasks = w.tasks.tasks)
    (hpromises : s.promises = w.tasks.promises) : T.Oversees { w with tasks := s } where
  holds := h.holds.setTasks .refl hsound (.of_same hrunning htasks)
  told :=
    { leader := fun outcome task hr ht => h.told.leader outcome task (hrunning ▸ hr) (htasks ▸ ht)
      helper := fun number outcome task pledge hr hother ht hpledge => by
        have houtcome : ∀ q, s.outcome? q = w.tasks.outcome? q := fun q => by
          simp [Scheduler.outcome?, hpromises]
        rw [houtcome]
        exact h.told.helper number outcome task pledge (hrunning ▸ hr) hother (htasks ▸ ht) hpledge }
  first := h.first
  stage := by
    obtain ⟨first, hfirst, hstage⟩ := h.stage
    refine ⟨first, htasks ▸ hfirst, ?_⟩
    have htold : ({ w with tasks := s } : World).told? 0 = w.told? 0 := by simp [told?, hrunning]
    rw [htold]
    exact hstage

/-- Time moves on. -/
theorem moveTo (h : T.Oversees w) (moment : Nat) : T.Oversees (w.moveTo moment) :=
  have ⟨hrunning, htasks, hpromises⟩ := w.tasks.moveTo_same moment
  h.queue (h.holds.sound.moveTo moment) hrunning htasks hpromises

/-- A task that waited goes on. -/
theorem wake (h : T.Oversees w) (hidle : w.tasks.running = none) (number : Nat) :
    T.Oversees { w with tasks := w.tasks.resume number } := by
  obtain ⟨hsound, htold⟩ := h.holds.sound.resume hidle number
  obtain ⟨first, hfirst, hstage⟩ := h.stage
  rcases w.tasks.resume_eq_or number with hsame | ⟨t, outcome, ht, -, hmoved⟩
  · rw [hsame]
    exact h
  rw [told?_of_idle hidle] at hstage
  rw [hmoved] at hsound htold ⊢
  refine ⟨h.holds.goOn .refl hsound (keepsResults_set ht t.woken rfl _), htold, h.first, ?_⟩
  by_cases hzero : number = 0
  · subst hzero
    obtain rfl := Option.some.inj (ht.symm.trans hfirst)
    have hlead := (h.holds.sound.tasks 0 t ht).leads rfl
    refine ⟨t.woken, List.getElem?_set_self (List.getElem?_eq_some_iff.1 ht).1, ?_⟩
    rw [t.stack_woken (.inl hlead.interrupted)]
    exact hstage.wakes _
  · refine ⟨first, (List.getElem?_set_ne hzero).trans hfirst, ?_⟩
    rw [told?_of_other rfl hzero]
    exact hstage

theorem happenHook_does (hook : Hook) : T.Does w (happenHook hook) := by
  cases hook with
  | forget channel request => exact forget_does channel request
  | retire task => exact updateSession_does _
  | write process bytes => exact writeOutput_does process bytes
  | quit process code => exact quit_does process code

/-- While no task runs, the first notice in the queue happens. -/
theorem step_of_notice (h : T.Oversees w) (hidle : w.tasks.running = none) : T.Oversees w.step := by
  rw [step_of_idle hidle]
  cases htake : w.tasks.takeNotice with
  | none => exact h
  | some pair =>
    obtain ⟨notice, s⟩ := pair
    obtain ⟨hsound, hannounces⟩ := h.holds.sound.takeNotice htake
    obtain ⟨hrunning, htasks, hpromises, -⟩ := Scheduler.takeNotice_same htake
    have hidle' : s.running = none := hrunning.trans hidle
    have htaken : T.Oversees { w with tasks := s } := h.queue hsound hrunning htasks hpromises
    cases notice with
    | wake number => exact htaken.wake hidle' number
    | release q =>
      obtain ⟨pledge, hpledge, hnothing⟩ := hannounces
      refine htaken.does hidle' (settle_does fun known hknown => ?_)
      obtain rfl := Option.some.inj (hpledge.symm.trans hknown)
      show T.Grants _ pledge.guarantee
      rw [hnothing]
      trivial
    -- no promise of a check is settled like another one
    | relay source target => exact hannounces.elim
    | tally q =>
      refine htaken.does hidle' (modifyTasks_does (fun hsound => hsound.countDown hannounces) ?_)
      exact .countDown q
    | hook hook => exact htaken.does hidle' (happenHook_does hook)

/-- Every step keeps the world as its promises pledge, and the first task at a stage. -/
theorem step (h : T.Oversees w) : ∃ T' : Trust, T'.Oversees w.step := by
  cases hrunning : w.tasks.running with
  | some pair => exact h.step_of_running hrunning
  | none => exact ⟨T, h.step_of_notice hrunning⟩

/-- When the first task is over, nothing that was started is left running. -/
theorem leavesNoneRunning (h : T.Oversees w) (hover : (w.outcome? 0).isSome) : w.LeavesNoneRunning := by
  obtain ⟨outcome, houtcome⟩ := Option.isSome_iff_exists.1 hover
  -- the first promise is settled only when the first task is over
  have hclosed : T.closed = true := by
    have hallows := h.holds.sound.outcomes 0 _ outcome h.first houtcome
    cases outcome <;> exact hallows
  obtain ⟨first, hfirst, hstage⟩ := h.stage
  have hstack := ((h.holds.sound.tasks 0 first hfirst).leads rfl).closed hclosed
  rw [hstack] at hstage
  obtain ⟨hquiet, hprocesses⟩ := hstage.ends
  constructor
  · intro p hp
    obtain ⟨number, hlt, rfl⟩ := List.mem_iff_getElem.1 hp
    simpa [ended, exitCode?, hlt] using hprocesses number hlt
  · intro c hc
    obtain ⟨number, hlt, rfl⟩ := List.mem_iff_getElem.1 hc
    simpa [ended, hlt] using hquiet number hlt

end Oversees

end Trust

/-! ## Runs -/

/-- What can happen without anybody asking for it. -/
def Incident.isUnasked : Incident → Bool
  | .call _ | .notify _ _ _ => false
  | _ => true

/-- The world is as it is throughout a check. -/
def IsOverseen (w : World) : Prop :=
  ∃ T : Trust, T.Oversees w

/-- What happens from outside breaks no promise, and changes no inventory. -/
theorem act_does {T : Trust} {counter : Counter} {incident : Incident} (hunasked : incident.isUnasked = true)
    (hstep : incident ≠ .step) : T.Does w (incident.act counter) := by
  cases incident with
  | step => exact absurd rfl hstep
  | call activity => cases hunasked
  | notify connection method params => cases hunasked
  | output process bytes => exact Trust.writeOutput_does process bytes
  | errors process bytes => exact Trust.writeErrors_does process bytes
  | fault process text => exact Trust.breakOutput_does process text
  | exit process code => exact Trust.quit_does process code
  | time moment =>
    obtain ⟨hrunning, htasks, -⟩ := w.tasks.moveTo_same moment
    exact Trust.modifyTasks_does (·.moveTo moment) (.of_same hrunning htasks)

namespace IsOverseen

/-- At the beginning of a check nothing is known, and the first task stands at its start. -/
theorem begins {w : World} (huntouched : w.IsUntouched)
    (hobliging : AreObliging w.companions w.versionScript w.runScripts) (request : CheckRequest) :
    (w.begin (.check request)).1.IsOverseen := by
  rw [huntouched.begin_eq]
  have hnone : ∀ {α : Type} {items : List α} {a : α}, items = [] → a ∉ items := by
    rintro α items a rfl
    exact List.not_mem_nil
  refine ⟨{ pledges := [.last] }, ⟨Trust.sound_begin _ rfl, List.cons_ne_nil _ _,
    fun number p hp => (hnone huntouched.processes (List.mem_of_getElem? hp)).elim,
    fun c hc => (hnone huntouched.commands hc).elim, fun c hc => (hnone huntouched.channels hc).elim,
    fun c hc => (hnone huntouched.connections hc).elim, hobliging⟩, Trust.Sound.told_of_idle rfl, rfl, _, rfl, ?_⟩
  refine .calling [] (.start (.check request)) rfl ⟨?_, ?_, ?_⟩ rfl (fun _ h => absurd h List.not_mem_nil) ?_
  · simp [inventory, huntouched.connections]
  · simp [inventory, huntouched.channels]
  · simp [inventory, huntouched.processes]
  · simp [inventory, huntouched.commands]

theorem step (h : w.IsOverseen) : w.step.IsOverseen :=
  h.elim fun _ hoversees => hoversees.step

theorem moveTo (h : w.IsOverseen) (moment : Nat) : (w.moveTo moment).IsOverseen :=
  h.imp fun _ hoversees => hoversees.moveTo moment

theorem undergo (h : w.IsOverseen) (counter : Counter) {incident : Incident}
    (hunasked : incident.isUnasked = true) : (undergo counter w incident).IsOverseen := by
  unfold World.undergo
  split
  · exact h.step
  · exact h
  · rename_i hstep hidle
    exact h.imp fun _ hoversees => hoversees.does hidle (act_does hunasked hstep)

theorem undergoAll (h : w.IsOverseen) (counter : Counter) {incidents : List Incident}
    (hunasked : ∀ incident ∈ incidents, incident.isUnasked = true) :
    (undergoAll counter w incidents).IsOverseen := by
  induction incidents generalizing w with
  | nil => exact h
  | cons incident incidents ih =>
    exact ih (h.undergo counter (hunasked incident List.mem_cons_self)) fun other hother =>
      hunasked other (List.mem_cons_of_mem _ hother)

theorem runSteps (h : w.IsOverseen) (fuel : Nat) : (w.runSteps fuel).IsOverseen := by
  induction fuel generalizing w with
  | zero => exact h
  | succ fuel ih =>
    rw [World.runSteps]
    split
    · exact h
    · exact ih h.step

theorem runUntilSettled (h : w.IsOverseen) (fuel q : Nat) : (w.runUntilSettled fuel q).IsOverseen := by
  induction fuel generalizing w with
  | zero => exact h
  | succ fuel ih =>
    have hran := h.runSteps (fuel + 1)
    simp only [World.runUntilSettled]
    split
    · exact hran
    · split
      · exact ih (hran.moveTo _)
      · exact hran

theorem leavesNoneRunning (h : w.IsOverseen) (hover : (w.outcome? 0).isSome) : w.LeavesNoneRunning :=
  h.elim fun _ hoversees => hoversees.leavesNoneRunning hover

end IsOverseen

/-- A check leaves nothing behind: whatever the file, the settings and the machine are, and whatever the
compiler and the companion process do and when they end, no program that the check has started is running
when the check is over, as long as a program that is killed ends. This is so in every run in which nobody asks
for anything else, and in the run that the tool makes. -/
theorem check_leaves_nothing {w : World} (huntouched : w.IsUntouched)
    (hobliging : AreObliging w.companions w.versionScript w.runScripts) (request : CheckRequest) :
    (∀ (counter : Counter) (incidents : List Incident), (∀ incident ∈ incidents, incident.isUnasked = true) →
      ((undergoAll counter (w.begin (.check request)).1 incidents).outcome? (w.begin (.check request)).2).isSome →
        (undergoAll counter (w.begin (.check request)).1 incidents).LeavesNoneRunning) ∧
      ∀ fuel, (runToEnd fuel w (.check request)).2.isSome →
        (runToEnd fuel w (.check request)).1.LeavesNoneRunning := by
  have hbegins := IsOverseen.begins huntouched hobliging request
  have hresult : (w.begin (.check request)).2 = 0 := by
    show w.tasks.promises.length = 0
    rw [huntouched.tasks]
    rfl
  refine ⟨fun counter incidents hunasked hover => ?_, fun fuel hover => ?_⟩
  · rw [hresult] at hover
    exact (hbegins.undergoAll counter hunasked).leavesNoneRunning hover
  · have hran := hbegins.runUntilSettled fuel (w.begin (.check request)).2
    have hover : (((w.begin (.check request)).1.runUntilSettled fuel (w.begin (.check request)).2).outcome?
        (w.begin (.check request)).2).isSome := hover
    rw [hresult] at hover hran
    show ((w.begin (.check request)).1.runUntilSettled fuel (w.begin (.check request)).2).LeavesNoneRunning
    rw [hresult]
    exact hran.leavesNoneRunning hover

/-- A machine with a file, a compiler that hangs, and a companion program that cannot be written to and goes on
when it is asked to end. -/
def stubborn : World where
  host := ((({} : Files.Host).place ["case.c"] (.file [] false)).place ["qcc"] (.file [] true)).place ["clangd"]
    (.file [] true)
  companions := [{ refusesInput := true, ignoresEnd := true }]
  versionScript := { hangs := true }
  runScripts := [{ hangs := true }]

/-- A check of the file. -/
def stubbornCheck : CheckRequest where
  file := "/case.c"
  options := { qccPath := some "/qcc", clangdPath := some "/clangd" }

/-- The companion program ends on its own while it is waited for. -/
def stubbornCrash : List Incident :=
  List.replicate 4 .step ++ .time 10000 :: List.replicate 16 .step ++ .time 40000 :: List.replicate 22 .step ++
    .exit 0 11 :: List.replicate 20 .step

/-- The compiler hangs twice, and is killed twice. The companion program is killed, or ends on its own. -/
theorem stubborn_leaves_nothing :
    (runToEnd 50 stubborn (.check stubbornCheck)).1.LeavesNoneRunning ∧
      (runToEnd 50 stubborn (.check stubbornCheck)).1.commands.map (·.code) = [some (-9), some (-9)] ∧
      (runToEnd 50 stubborn (.check stubbornCheck)).1.processes.map (·.code) = [some (-9)] ∧
      (undergoAll .connections (stubborn.begin (.check stubbornCheck)).1 stubbornCrash).LeavesNoneRunning ∧
      (undergoAll .connections (stubborn.begin (.check stubbornCheck)).1 stubbornCrash).processes.map (·.code) =
        [some 11] :=
  have hleaves := check_leaves_nothing (w := stubborn) ⟨rfl, rfl, rfl, rfl, rfl⟩
    ⟨by simp [stubborn], rfl, by simp [stubborn]⟩ stubbornCheck
  ⟨hleaves.2 50 (by decide +kernel), by decide +kernel, by decide +kernel,
    hleaves.1 .connections stubbornCrash (by decide) (by decide +kernel), by decide +kernel⟩

end BasiliskServer.World
