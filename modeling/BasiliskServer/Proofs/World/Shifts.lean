import BasiliskServer.Proofs.World.Transitions.Points

/-!
# What happens from moment to moment

Of a world that is in order it matters here where its tasks stand and how the task that runs goes on.
Either a task acts (`Acts`): it takes a course and goes on where the course says. Or nobody acts
(`Drifts`): at most something is heard of, or somebody passes a notification to a connection. Tasks
that were told at once how to go on are the only ones to go on at a hinge, a point that relies on what
a task has done just before.
-/

namespace BasiliskServer.World

open Json (Value Fields)
open Tasks (Notice Scheduler)

/-! ## Places and hinges -/

/-- Points at which tasks do not begin. -/
def Point.isLater : Point → Bool
  | .start _ => false
  | _ => true

/-- Points that rely on what their task has done just before. -/
def Point.isHinge (point : Point) : Bool :=
  match point.expectation with
  | .process | .opening | .closing => true
  | _ => false

/-- The points at which tasks stand, apart from beginnings. -/
def places (w : World) : List Point :=
  w.allPoints.filter Point.isLater

/-- How a task goes on at once. -/
def Presents (rest : List Point) (acting : Option (Point × Outcome)) : Next → Prop
  | .go outcome front => acting = (front ++ rest).head?.map (·, outcome)
  | .wait _ _ => ∀ point outcome, acting = some (point, outcome) → point.isHinge = false

/-- A task acts. -/
structure Acts (counter : Counter) (w w' : World) (point : Point) (outcome : Outcome)
    (rest aside : List Point) (next : Next) : Prop where
  /-- The task goes on at the point. -/
  acting : w.acting? = some (point, outcome)
  /-- Where tasks stand before. -/
  before : w.places.Perm ((point :: rest).filter Point.isLater ++ aside)
  /-- Where tasks stand afterwards. -/
  after : w'.places.Perm ((points next ++ rest).filter Point.isLater ++ aside)
  /-- The points of the task fit together, and it is told what it relies on. -/
  sits : ∃ (Γ : Ledger) (result : Nat) (below : Expectation),
    Γ.Sits counter result below (point :: rest) ∧ Γ.Admits w.facts result point.expectation outcome ∧
      (below = .result ∨ below = .idle ∨ ∃ process, below = .exit process)
  /-- What the task does. -/
  course : Course w.facts w'.facts w.layout point outcome w'.layout next
  /-- How it goes on. -/
  presents : Presents rest w'.acting? next
  /-- Nothing that was known is forgotten. -/
  grows : w.facts.Grow w'.facts

/-- A notification is passed to a connection. -/
inductive Layout.Notifies (l : Layout) (number : Nat) (method : String) (params : Value) :
    Layout → Prop where
  /-- The connection is ready, and the notification can be written. -/
  | tells {channel : Nat} (h : l.IsReady number channel)
    (hroom : obstacle? (l.room number) (method, params) = none) :
    Notifies l number method params (l.tellOf channel method params)
  /-- The connection is ready, and the notification cannot be written. -/
  | refuses {channel : Nat} (h : l.IsReady number channel)
    (hroom : obstacle? (l.room number) (method, params) ≠ none) :
    Notifies l number method params l
  /-- There is no such connection, or it is being stopped. -/
  | drops (h : l.bonds[number]? = none ∨ l.IsIn .stopping number) : Notifies l number method params l
  /-- The notification waits. -/
  | queues {bond : Bond} (hbond : l.bonds[number]? = some bond) (hphase : bond.phase ≠ .stopping)
    (hready : ∀ channel, ¬ l.IsReady number channel) :
    Notifies l number method params
      (l.setBond number fun b => { b with queue := b.queue ++ [(method, params)] })

/-- The notification that is passed to a connection. -/
def Incident.notice? : Incident → Option (Nat × String × Value)
  | .notify number method params => some (number, method, params)
  | _ => none

/-- Nobody acts; at most something is heard of, or a notification is passed to a connection. -/
structure Drifts (w w' : World) (notice : Option (Nat × String × Value)) : Prop where
  /-- Nobody acts. -/
  acting : w.acting? = none
  /-- What is heard of, or passed on. -/
  layout : w.layout.Hears w'.layout ∨
    ∃ number method params, notice = some (number, method, params) ∧
      w.layout.Notifies number method params w'.layout
  /-- Tasks stand where they stood. -/
  places : w'.places.Perm w.places
  /-- How a task goes on that is woken. -/
  presents : ∀ point outcome, w'.acting? = some (point, outcome) → point.isHinge = false
  /-- Nothing that was known is forgotten. -/
  grows : w.facts.Grow w'.facts

variable {Γ Γ' : Ledger} {counter : Counter} {w w' : World} {task : Nat} {t : Tasks.Task Point}
  {point : Point} {rest : List Point} {outcome : Outcome}

/-! ## Where tasks stand -/

theorem acting?_of_running (hrunning : w.tasks.running = some (task, outcome))
    (ht : w.tasks.tasks[task]? = some t) : w.acting? = t.stack.head?.map (·, outcome) := by
  simp only [acting?, hrunning, ht, Option.bind_eq_bind, Option.bind_some]
  cases t.stack <;> rfl

/-- Whoever can be seen to go on is a task that runs. -/
theorem exists_task_of_acting (hacting : w.acting? = some (point, outcome)) :
    ∃ task t rest, w.tasks.running = some (task, outcome) ∧ w.tasks.tasks[task]? = some t ∧
      t.stack = point :: rest := by
  unfold acting? at hacting
  cases hrunning : w.tasks.running with
  | none => simp [hrunning] at hacting
  | some pair =>
    obtain ⟨task, known⟩ := pair
    cases ht : w.tasks.tasks[task]? with
    | none => simp [hrunning, ht] at hacting
    | some t =>
      cases hstack : t.stack with
      | nil => simp [hrunning, ht, hstack] at hacting
      | cons first rest =>
        obtain ⟨rfl, rfl⟩ : first = point ∧ known = outcome := by
          simpa [hrunning, ht, hstack] using hacting
        exact ⟨task, t, rest, rfl, ht, hstack⟩

/-- The step in which a task goes on does what the point says; what was settled stays so. -/
theorem exists_step (counter : Counter) (hacting : w.acting? = some (point, outcome)) :
    ∃ before after : Scheduler Point Answer Hook, before.promises = w.tasks.promises ∧
      (∀ q known, ((point.resume outcome).run { w with tasks := before }).2.tasks.outcome? q = some known →
        after.outcome? q = some known) ∧
      w.undergo counter .step =
        { ((point.resume outcome).run { w with tasks := before }).2 with tasks := after } := by
  obtain ⟨task, t, rest, hrunning, ht, hstack⟩ := exists_task_of_acting hacting
  let w₁ : World := w.moveTask task { t with stack := rest } (some outcome)
  let moved := (point.resume outcome).run w₁
  exact ⟨w₁.tasks, moved.2.tasks.proceed task moved.1, rfl, fun q known => Ordered.outcome?_proceed _,
    step_of_point hrunning ht hstack⟩

theorem acting?_of_idle (hidle : w.tasks.running = none) : w.acting? = none := by
  simp [acting?, hidle]

/-- What a promise is settled with does not let a task go on at a hinge. -/
theorem Ledger.Feeds.isHinge {result q : Nat} (h : Γ.Feeds result q point.expectation) :
    point.isHinge = false := by
  obtain ⟨purpose, -, -, hfeeds⟩ := h
  unfold Point.isHinge
  cases purpose with
  | pause => rcases hfeeds with heq | heq <;> rw [heq]
  | idle => rw [show point.expectation = .idle from hfeeds]
  | shield source => rw [show point.expectation = .request from hfeeds]
  | exit process other => rw [hfeeds.2]
  | answer channel id other => obtain ⟨-, heq | heq | heq⟩ := hfeeds <;> rw [heq]
  | _ => cases hfeeds

theorem filter_starts (activities : List Activity) :
    (activities.flatMap fun activity => [Point.start activity]).filter Point.isLater = [] := by
  refine List.filter_eq_nil_iff.2 fun point hpoint => ?_
  obtain ⟨activity, -, hpoint⟩ := List.mem_flatMap.1 hpoint
  rw [List.mem_singleton.1 hpoint]
  exact Bool.false_ne_true

/-- Where no task was moved, tasks stand where they stood. -/
theorem Onward.places_eq (h : Onward w.tasks w'.tasks) : w'.places = w.places := by
  obtain ⟨activities, heq⟩ := h.standings
  have hstarts := filter_starts activities
  simp [places, allPoints, heq, List.flatMap_append, List.flatMap_map, hstarts]

/-- The same with the points of one task left out. -/
theorem Onward.others_filter (h : Onward w.tasks w'.tasks) (ht : task < w.tasks.standings.length) :
    (w'.others task).filter Point.isLater = (w.others task).filter Point.isLater := by
  obtain ⟨activities, heq⟩ := h.standings
  have hstarts := filter_starts activities
  rw [others, heq, List.eraseIdx_append_of_lt_length ht, List.flatMap_append, List.filter_append,
    List.flatMap_map, hstarts, List.append_nil]
  rfl

/-- Where a task stands that goes on as told. -/
theorem places_proceed (ht : w.tasks.tasks[task]? = some t) (next : Next) :
    ({ w with tasks := w.tasks.proceed task next } : World).places.Perm
      ((points next ++ t.stack).filter Point.isLater ++ (w.others task).filter Point.isLater) := by
  have hmoved : ∀ (t' : Tasks.Task Point) (running : Option Outcome),
      t'.stack = points next ++ t.stack → (w.moveTask task t' running).places.Perm
        ((points next ++ t.stack).filter Point.isLater ++
          (w.others task).filter Point.isLater) := by
    intro t' running hstack
    rw [← List.filter_append, ← hstack]
    exact (allPoints_moveTask ht).filter _
  rcases proceed_cases ht next with ⟨outcome, -, heq⟩ | ⟨promise, -, -, heq⟩ <;> rw [heq]
  · exact hmoved _ _ rfl
  · let t' : Tasks.Task Point := { t with stack := points next ++ t.stack, waiting := some promise }
    have honward : Onward (w.moveTask task t' none).tasks
        ((w.moveTask task t' none).tasks.observe promise (.wake task)) := .observe _ _
    rw [honward.places_eq (w := w.moveTask task t' none)]
    exact hmoved t' none rfl

/-- How a task goes on that goes on as told. -/
theorem presents_proceed {result : Nat} {below : Expectation} {f : Facts} {next : Next}
    (ht : w.tasks.tasks[task]? = some t)
    (hleads : Γ.Leads f counter result (expected below t.stack) next) :
    Presents t.stack ({ w with tasks := w.tasks.proceed task next } : World).acting? next := by
  have hlt := (List.getElem?_eq_some_iff.1 ht).1
  obtain ⟨front, hfront⟩ : ∃ front, front = points next := ⟨_, rfl⟩
  rcases proceed_cases ht next with ⟨outcome, hnext, heq⟩ | ⟨promise, hnext, -, heq⟩ <;>
    rw [heq, ← hfront]
  · let t' : Tasks.Task Point := { t with stack := front ++ t.stack }
    have hacting : (w.moveTask task t' (some outcome)).acting? =
        (front ++ t.stack).head?.map (·, outcome) :=
      acting?_of_running (w := w.moveTask task t' (some outcome)) rfl (List.getElem?_set_self hlt)
    rcases hnext with hnext | ⟨promise, hnext, -⟩ <;> rw [hnext, ← hfront]
    · exact hacting
    · -- what it waits for is known
      intro point known hgoes
      obtain ⟨first, hfirst, hsame⟩ := Option.map_eq_some_iff.1 (hacting.symm.trans hgoes)
      obtain ⟨rfl, -⟩ := Prod.mk.inj hsame
      rw [hnext, ← hfront] at hleads
      have hfeeds : Γ.Feeds result promise (expected below (front ++ t.stack)) := by
        rw [expected_append]
        exact hleads.2
      obtain ⟨others, hothers⟩ := List.head?_eq_some_iff.1 hfirst
      rw [hothers] at hfeeds
      exact hfeeds.isHinge
  -- it waits, and nobody acts
  · rw [hnext]
    intro point known hgoes
    let t' : Tasks.Task Point := { t with stack := front ++ t.stack, waiting := some promise }
    have honward : Onward (w.moveTask task t' none).tasks
        ((w.moveTask task t' none).tasks.observe promise (.wake task)) := .observe _ _
    have hidle := acting?_of_idle (w := { w.moveTask task t' none with
      tasks := (w.moveTask task t' none).tasks.observe promise (.wake task) }) honward.running
    cases hidle.symm.trans hgoes

namespace Ordered

/-- The results of tasks are those of errands and of what was called for. -/
theorem below_cases {purpose : Purpose} {below : Expectation}
    (h : purpose.expectation? = some below) :
    below = .result ∨ below = .idle ∨ ∃ process, below = .exit process := by
  cases purpose <;> cases h <;> simp

/-- The task that runs acts, unless it has no points left: it goes on as the point says. -/
theorem acts_resume (h : Ordered counter Γ w) (hrunning : w.tasks.running = some (task, outcome))
    (ht : w.tasks.tasks[task]? = some t) (hstack : t.stack = point :: rest) :
    ∃ aside, Acts counter w w.step point outcome rest aside
      ((point.resume outcome).run (w.moveTask task { t with stack := rest } (some outcome))).1 := by
  obtain ⟨same, bottom, hsame, ⟨purpose, hpurpose, hbottom⟩, hsits, htold⟩ :=
    h.exists_task hrunning
  rw [ht] at hsame
  obtain rfl := Option.some.inj hsame
  rw [hstack] at hsits htold
  obtain ⟨Γ', below, hpasses, hadmits, -, hmoves, hleads, -⟩ := h.advance hrunning ht hstack
  have hlt := (List.getElem?_eq_some_iff.1 ht).1
  -- the task without its first point
  let popped : Tasks.Task Point := { t with stack := rest }
  let w₁ : World := w.moveTask task popped (some outcome)
  let next := ((point.resume outcome).run w₁).1
  let w₂ : World := ((point.resume outcome).run w₁).2
  have hstep : w.step = { w₂ with tasks := w₂.tasks.proceed task next } :=
    step_of_point hrunning ht hstack
  have ht₁ : w₁.tasks.tasks[task]? = some popped := List.getElem?_set_self hlt
  have hothers₁ : w₁.others task = w.others task := others_moveTask
  -- it stands there still when it has acted
  obtain ⟨number, outcome', t₂, hrunning₂, ht₂, hresult₂, -⟩ := hmoves.kept.books.acting t.result rfl
  have hsame : some (number, outcome') = some (task, outcome) :=
    hrunning₂.symm.trans hmoves.onward.running
  obtain ⟨rfl, rfl⟩ := Prod.mk.inj (Option.some.inj hsame)
  have hstack₂ : t₂.stack = rest := by
    obtain ⟨activities, heq⟩ := hmoves.onward.standings
    have hstanding := standings_getElem? ht₂
    rw [heq, Tasks.getElem?_append_of_some (standings_getElem? ht₁)] at hstanding
    exact (congrArg Tasks.Standing.stack (Option.some.inj hstanding)).symm
  refine ⟨(w.others number).filter Point.isLater, ?acting, ?before, ?after, ?sits, ?course,
      ?presents, ?grows⟩
  case acting =>
    rw [acting?_of_running hrunning ht, hstack]
    rfl
  case before =>
    rw [← List.filter_append]
    have hperm := allPoints_perm (standings_getElem? ht)
    rw [show t.standing.stack = point :: rest from hstack] at hperm
    exact hperm.filter _
  case after =>
    have hperm := places_proceed ht₂ next
    rw [hstack₂, hmoves.onward.others_filter
      (List.getElem?_eq_some_iff.1 (standings_getElem? ht₁)).1, hothers₁] at hperm
    rw [hstep]
    exact hperm
  case sits => exact ⟨Γ, t.result, bottom, hsits, hadmits, below_cases hbottom⟩
  case course =>
    rw [hstep]
    exact resume_course (h.pop hrunning ht hstack) hpasses hadmits
      (.of_tasks fun _ _ => outcome?_proceed next)
  case presents =>
    have hleads : Γ'.Leads w₂.facts counter t.result (expected below t₂.stack) next := by
      rw [hstack₂]
      exact hleads
    have hpresents := presents_proceed ht₂ hleads
    rw [hstack₂] at hpresents
    rw [hstep]
    exact hpresents
  case grows =>
    rw [hstep]
    exact hmoves.grows.trans (.of_tasks fun _ _ => outcome?_proceed next)

/-- The task that runs acts, unless it has no points left. -/
theorem acts (h : Ordered counter Γ w) (hrunning : w.tasks.running = some (task, outcome))
    (ht : w.tasks.tasks[task]? = some t) (hstack : t.stack = point :: rest) :
    ∃ aside next, Acts counter w w.step point outcome rest aside next :=
  (h.acts_resume hrunning ht hstack).imp fun _ hacts => ⟨_, hacts⟩

/-- Whoever can be seen to go on acts. -/
theorem acts_of_acting (h : Ordered counter Γ w) (hacting : w.acting? = some (point, outcome)) :
    ∃ rest aside next, Acts counter w (w.undergo counter .step) point outcome rest aside next := by
  obtain ⟨task, t, rest, hrunning, ht, hstack⟩ := exists_task_of_acting hacting
  obtain ⟨aside, next, hacts⟩ := h.acts hrunning ht hstack
  exact ⟨rest, aside, next, hacts⟩

/-- A task that has no points left ends, and nobody acts. -/
theorem drifts_nil (hrunning : w.tasks.running = some (task, outcome))
    (ht : w.tasks.tasks[task]? = some t) (hstack : t.stack = []) : Drifts w w.step none := by
  let ended : World := { w with tasks := { w.tasks with running := none } }
  have hstep : w.step = { ended with tasks := ended.tasks.settle t.result outcome } :=
    step_of_nil hrunning ht hstack
  have honward : Onward ended.tasks (ended.tasks.settle t.result outcome) := .settle t.result
  have hidle : w.step.acting? = none := by
    rw [hstep]
    exact acting?_of_idle honward.running
  refine ⟨?acting, .inl ?layout, ?places, ?presents, ?grows⟩
  case acting =>
    rw [acting?_of_running hrunning ht, hstack]
    rfl
  case layout =>
    rw [hstep]
    exact .refl _
  case places =>
    have hplaces : ended.places = w.places := rfl
    rw [hstep, ← hplaces]
    exact .of_eq honward.places_eq
  case presents =>
    intro point outcome hacting
    rw [hidle] at hacting
    cases hacting
  case grows =>
    rw [hstep]
    exact .of_tasks honward.outcomes

/-- Where no task runs and none is moved. -/
theorem drifts_of_onward {notice : Option (Nat × String × Value)} (hidle : w.tasks.running = none)
    (honward : Onward w.tasks w'.tasks) (hgrows : w.facts.Grow w'.facts)
    (hlayout : w.layout.Hears w'.layout ∨
      ∃ number method params, notice = some (number, method, params) ∧
        w.layout.Notifies number method params w'.layout) : Drifts w w' notice := by
  refine ⟨acting?_of_idle hidle, hlayout, .of_eq honward.places_eq, fun point outcome hacting => ?_,
    hgrows⟩
  rw [acting?_of_idle (honward.running.trans hidle)] at hacting
  cases hacting

/-- A task that has not begun has at most a beginning before it. -/
theorem eq_start_of_unbegun (h : Books counter none Γ w.facts w.tasks) (hidle : w.tasks.running = none)
    (ht : w.tasks.tasks[task]? = some t) (hbegun : t.begun = false) :
    ∀ point ∈ t.stack, ∃ activity, point = .start activity := by
  obtain ⟨below, hkeeps⟩ := h.tasks task t ht
  have hrests := hkeeps.rests fun outcome hrunning => by rw [hidle] at hrunning; cases hrunning
  cases hwaiting : t.waiting with
  | some q =>
    rw [(hrests.feeds q hwaiting).2] at hbegun
    cases hbegun
  | none =>
    intro point hpoint
    rcases hrests.fresh hwaiting with hempty | ⟨-, activity, hstart⟩
    · rw [hempty] at hpoint
      cases hpoint
    · rw [hstart] at hpoint
      exact ⟨activity, List.mem_singleton.1 hpoint⟩

/-- A task is woken. -/
theorem drifts_wake (h : Books counter none Γ w.facts w.tasks) (hidle : w.tasks.running = none)
    (task : Nat) : Drifts w { w with tasks := w.tasks.resume task } none := by
  rcases w.tasks.resume_cases task with
    heq | ⟨t, t', outcome, ht, hresult, -, heq, hstack⟩ <;> rw [heq]
  · exact drifts_of_onward hidle .refl (.refl _) (.inl (.refl _))
  obtain ⟨below, hkeeps⟩ := h.tasks task t ht
  have hrests := hkeeps.rests fun outcome hrunning => by rw [hidle] at hrunning; cases hrunning
  have hlt := (List.getElem?_eq_some_iff.1 ht).1
  have hmoved : ({ w with
      tasks := { w.tasks with
        tasks := w.tasks.tasks.set task t', running := some (task, outcome) } } : World) =
      w.moveTask task t' (some outcome) := rfl
  rw [hmoved]
  refine ⟨acting?_of_idle hidle, .inl (.refl _), ?places, ?presents, .refl _⟩
  case places =>
    -- a task that does not go on has not begun
    have hfilter : t'.stack.filter Point.isLater = t.stack.filter Point.isLater := by
      rcases hstack with ⟨heq, -⟩ | ⟨hnil, hbegun⟩
      · rw [heq]
      · rw [hnil]
        refine (List.filter_eq_nil_iff.2 fun point hpoint => ?_).symm
        obtain ⟨activity, rfl⟩ := eq_start_of_unbegun h hidle ht hbegun point hpoint
        exact Bool.false_ne_true
    have hmoved : (w.moveTask task t' (some outcome)).allPoints.Perm (t'.stack ++ w.others task) :=
      allPoints_moveTask ht
    have hafter := hmoved.filter Point.isLater
    have hbefore := (allPoints_perm (standings_getElem? ht)).filter Point.isLater
    rw [List.filter_append, hfilter, ← List.filter_append] at hafter
    exact hafter.trans hbefore.symm
  case presents =>
    -- the task was waiting for what it goes on with, or it begins: neither tells a hinge how to go on
    intro point known hacting
    have ht' : (w.moveTask task t' (some outcome)).tasks.tasks[task]? = some t' :=
      List.getElem?_set_self hlt
    rw [acting?_of_running (w := w.moveTask task t' (some outcome)) rfl ht'] at hacting
    cases hstack' : t'.stack with
    | nil => rw [hstack'] at hacting; cases hacting
    | cons first others =>
      rw [hstack'] at hacting
      obtain ⟨rfl, -⟩ := Prod.mk.inj (Option.some.inj hacting)
      have heq : t.stack = first :: others := by
        rcases hstack with ⟨heq, -⟩ | ⟨hnil, -⟩
        · rw [← heq, hstack']
        · rw [hnil] at hstack'
          cases hstack'
      cases hwaiting : t.waiting with
      | some q =>
        have hfeeds := (hrests.feeds q hwaiting).1
        rw [heq] at hfeeds
        exact hfeeds.isHinge
      | none =>
        rcases hrests.fresh hwaiting with hempty | ⟨-, activity, hstart⟩
        · rw [hempty] at heq
          cases heq
        · rw [hstart] at heq
          rw [← (List.cons.inj heq).1]
          rfl

/-- An action taken while no task runs. -/
theorem drifts_of_minds {α : Type} {act : Act α} {post : Ledger → World → α → Prop}
    {notice : Option (Nat × String × Value)} (hidle : w.tasks.running = none)
    (h : Minds counter none none Γ w post act)
    (hlayout : w.layout.Hears (w.perform act).layout ∨
      ∃ number method params, notice = some (number, method, params) ∧
        w.layout.Notifies number method params (w.perform act).layout) :
    Drifts w (w.perform act) notice := by
  obtain ⟨Γ', hmoves, -⟩ := h
  exact drifts_of_onward hidle hmoves.onward hmoves.grows hlayout

theorem forget_heeds (channel request : Nat) : Heeds (forget channel request) := by
  intro w
  have hupdated : Lays w (w.layout.setPipe channel fun p =>
      { p with requests := (p.requests.cancel request).unlist request }) (fun _ => True)
      (forget channel request) := updateChannel_lays w channel fun _ => rfl
  rw [hupdated.layout]
  exact .setPipe _ channel fun pipe _ => .forget _ _

theorem happenHook_heeds (hook : Hook) : Heeds (happenHook hook) := by
  cases hook with
  | forget channel request => exact forget_heeds channel request
  | retire task => exact .of_inert (updateSession_inert _)
  | write process bytes => exact .of_inert (writeOutput_inert _ _)
  | quit process code => exact .of_inert (quit_inert _ _)

/-- What was queued happens, and nobody acts. -/
theorem drifts_idle (h : Ordered counter Γ w) (hidle : w.tasks.running = none) :
    Drifts w w.step none := by
  rw [step_of_idle hidle]
  cases htake : w.tasks.takeNotice with
  | none => exact drifts_of_onward hidle .refl (.refl _) (.inl (.refl _))
  | some pair =>
    obtain ⟨notice, s⟩ := pair
    obtain ⟨hrunning, htasks, hpromises, -⟩ := Scheduler.takeNotice_same htake
    have hstill : s.running = none := hrunning.trans hidle
    have htaken : Onward w.tasks s := .of_tasks hrunning htasks fun q known hknown => by
      rwa [Scheduler.outcome?, hpromises]
    obtain ⟨hbooks, -⟩ := h.kept.books.takeNotice htake
    -- where tasks stand, and how they go on, does not depend on the queue
    have hdrifts : ∀ {w' : World}, Drifts { w with tasks := s } w' none → Drifts w w' none := by
      intro w' hdrifts
      refine ⟨acting?_of_idle hidle, hdrifts.layout, ?_, hdrifts.presents,
        Facts.Grow.trans (.of_tasks htaken.outcomes) hdrifts.grows⟩
      have hplaces : { w with tasks := s }.places = w.places := htaken.places_eq
      rw [← hplaces]
      exact hdrifts.places
    refine hdrifts ?_
    have hsettles : ∀ s', Onward s s' → Drifts { w with tasks := s } { w with tasks := s' } none :=
      fun s' honward => drifts_of_onward hstill honward (.of_tasks honward.outcomes) (.inl (.refl _))
    cases notice with
    | wake task => exact drifts_wake (hbooks.grow (.of_tasks htaken.outcomes)) hstill task
    | release promise => exact hsettles _ (.settle promise)
    | relay source target =>
      show Drifts _ (({ w with tasks := s } : World).perform (World.happen (.relay source target))) none
      rw [perform_relay]
      cases ({ w with tasks := s } : World).tasks.outcome? source with
      | none => exact hsettles _ .refl
      | some known => exact hsettles _ (.settle target)
    | tally promise => exact hsettles _ (.countDown promise)
    | hook hook =>
      obtain ⟨hposts, hsource⟩ := h.kept.posts.takeNotice htake
      have hkept : Kept counter none (Posts.dueAfter [] (.hook hook)) Γ { w with tasks := s } :=
        h.kept.setTasks (.refl : Γ.Extends none Γ) (Kept.backed_self Γ _) hbooks hposts
          htaken.outcomes fun _ hq => absurd hq List.not_mem_nil
      exact drifts_of_minds hstill (happenHook_minds hkept hsource)
        (.inl (happenHook_heeds hook { w with tasks := s }))

/-- A notification is passed to a connection. -/
theorem notify_lays (w : World) (number : Nat) (method : String) (params : Value) :
    ∃ l, w.layout.Notifies number method params l ∧
      Lays w l (fun _ => True) (World.notify number method params) := by
  cases hc : w.connections[number]? with
  | none =>
    refine ⟨_, .drops (.inl (by rw [layout_bonds_getElem?, hc]; rfl)), .get_bind ?_⟩
    rw [hc]
    exact .pure trivial
  | some c =>
    have hbond : w.layout.bonds[number]? = some c.bond := bond_of_connection hc
    have hroom : w.layout.room number = c.room := by rw [Layout.room, hbond]; rfl
    have hadds : Lays w (w.layout.setBond number fun b =>
        { b with queue := b.queue ++ [(method, params)] }) (fun _ => True)
        (updateConnection number fun c => { c with queue := c.queue ++ [(method, params)] }) :=
      updateConnection_lays w number fun _ => rfl
    have hqueue : Lays w (w.layout.setBond number fun b =>
        { b with queue := b.queue ++ [(method, params)] }) (fun _ => True)
        (do
          updateConnection number fun c => { c with queue := c.queue ++ [(method, params)] }
          return (none : Option Json.Excess)) :=
      hadds.bind fun _ _ hw₁ _ => hw₁ ▸ .pure trivial
    have hready : ∀ channel, w.layout.IsReady number channel →
        c.phase = .ready ∧ c.channel = some channel := by
      rintro channel ⟨bond, hbond', hphase, hchannel⟩
      obtain rfl := Option.some.inj (hbond.symm.trans hbond')
      exact ⟨hphase, hchannel⟩
    -- one that is not ready keeps the notification
    have hwaits : c.phase ≠ .stopping → (∀ channel, ¬ w.layout.IsReady number channel) →
        ∃ l, w.layout.Notifies number method params l ∧ Lays w l (fun _ => True) (do
          updateConnection number fun c => { c with queue := c.queue ++ [(method, params)] }
          return (none : Option Json.Excess)) :=
      fun hphase hnot => ⟨_, .queues hbond hphase hnot, hqueue⟩
    cases hphase : c.phase with
    | stopping =>
      refine ⟨_, .drops (.inr ⟨_, hbond, hphase⟩), .get_bind ?_⟩
      rw [hc]
      simp only [hphase]
      exact .pure trivial
    | ready =>
      cases hchannel : c.channel with
      | some channel =>
        have hreaches : w.layout.IsReady number channel := ⟨_, hbond, hphase, hchannel⟩
        cases hobstacle : obstacle? c.room (method, params) with
        | none =>
          refine ⟨_, .tells hreaches (hroom ▸ hobstacle), .get_bind ?_⟩
          rw [hc]
          simp only [hphase, hchannel, hobstacle]
          exact (notifyThrough_lays w channel method params).bind fun _ _ hw₁ _ =>
            hw₁ ▸ .pure trivial
        | some what =>
          refine ⟨_, .refuses hreaches (by simp [hroom, hobstacle]), .get_bind ?_⟩
          rw [hc]
          simp only [hphase, hchannel, hobstacle]
          exact .pure trivial
      | none =>
        obtain ⟨l, hnotifies, hlays⟩ := hwaits (by simp [hphase]) fun channel h => by
          have := (hready channel h).2
          rw [hchannel] at this
          cases this
        refine ⟨l, hnotifies, .get_bind ?_⟩
        rw [hc]
        simp only [hphase, hchannel]
        exact hlays
    | _ =>
      obtain ⟨l, hnotifies, hlays⟩ := hwaits (by simp [hphase]) fun channel h => by
        have := (hready channel h).1
        rw [hphase] at this
        cases this
      refine ⟨l, hnotifies, .get_bind ?_⟩
      rw [hc]
      simp only [hphase]
      exact hlays

/-- What happens from outside, while nobody acts. -/
theorem drifts_outside (h : Ordered counter Γ w) (hidle : w.tasks.running = none)
    {incident : Incident} (hstep : incident ≠ .step) :
    Drifts w (w.perform (incident.act counter)) incident.notice? := by
  refine drifts_of_minds hidle (act_minds h.kept hstep) ?_
  have hinert : ∀ {act : Act Unit}, Inert act → w.layout.Hears (w.perform act).layout :=
    fun hact => Heeds.of_inert hact w
  cases incident with
  | step => exact absurd rfl hstep
  | notify number method params =>
    obtain ⟨l, hnotifies, hlays⟩ := notify_lays w number method params
    refine .inr ⟨number, method, params, rfl, ?_⟩
    rw [← hlays.layout] at hnotifies
    exact hnotifies
  | call activity =>
    refine .inl (hinert ?_)
    unfold Incident.act
    simp only
    split
    · exact fun _ => rfl
    · exact .pure ()
  | output process bytes => exact .inl (hinert (writeOutput_inert _ _))
  | errors process bytes => exact .inl (hinert (writeErrors_inert _ _))
  | fault process text => exact .inl (hinert (breakOutput_inert _ _))
  | exit process code => exact .inl (hinert (quit_inert _ _))
  | time moment => exact .inl (hinert (modifyTasks_inert _))

/-- A task acts, or what happens has to wait until the task that runs does, or a notification is passed to
a connection, or something is heard of. -/
theorem turns (h : Ordered counter Γ w) (incident : Incident) :
    (∃ point outcome rest aside next, incident = .step ∧
      Acts counter w (w.undergo counter incident) point outcome rest aside next) ∨
    (incident ≠ .step ∧ w.tasks.running.isSome ∧ w.undergo counter incident = w) ∨
    (w.tasks.running = none ∧ ∃ number method params, incident = .notify number method params ∧
      w.layout.Notifies number method params (w.undergo counter incident).layout ∧
      Drifts w (w.undergo counter incident) incident.notice?) ∨
    (incident.notice? = none ∧ Drifts w (w.undergo counter incident) none) := by
  -- A step is the scheduler's or that of the task that runs; all else waits while one runs.
  unfold World.undergo
  split
  · cases hrunning : w.tasks.running with
    | none => exact .inr (.inr (.inr ⟨rfl, h.drifts_idle hrunning⟩))
    | some pair =>
      obtain ⟨task, outcome⟩ := pair
      obtain ⟨t, below, ht, -⟩ := h.exists_task hrunning
      cases hstack : t.stack with
      | nil => exact .inr (.inr (.inr ⟨rfl, drifts_nil hrunning ht hstack⟩))
      | cons point rest =>
        obtain ⟨aside, next, hacts⟩ := h.acts hrunning ht hstack
        exact .inl ⟨point, outcome, rest, aside, next, rfl, hacts⟩
  · rename_i hstep hrunning
    exact .inr (.inl ⟨hstep, by rw [hrunning]; rfl, rfl⟩)
  · rename_i incident _ _ hstep hidle
    have hdrifts := h.drifts_outside hidle hstep
    cases incident with
    | notify number method params =>
      obtain ⟨l, hnotifies, hlays⟩ := notify_lays w number method params
      rw [← hlays.layout] at hnotifies
      exact .inr (.inr (.inl ⟨hidle, number, method, params, rfl, hnotifies, hdrifts⟩))
    | _ => exact .inr (.inr (.inr ⟨rfl, hdrifts⟩))

/-- Whatever happens, a task acts or nobody does, or it has to wait. -/
theorem shifts (h : Ordered counter Γ w) (incident : Incident) :
    w.undergo counter incident = w ∨
      (∃ point outcome rest aside next, incident = .step ∧
        Acts counter w (w.undergo counter incident) point outcome rest aside next) ∨
      Drifts w (w.undergo counter incident) incident.notice? := by
  rcases h.turns incident with hacts | ⟨-, -, heq⟩ | ⟨-, _, _, _, -, -, hdrifts⟩ | ⟨hnotice, hdrifts⟩
  · exact .inr (.inl hacts)
  · exact .inl heq
  · exact .inr (.inr hdrifts)
  · rw [hnotice]
    exact .inr (.inr hdrifts)

end Ordered

end BasiliskServer.World
