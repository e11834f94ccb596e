import BasiliskServer.Proofs.World.SessionSteps
import Mathlib.Data.List.Perm.Basic

/-!
# What a world keeps as it runs

A world is sound (`Sound`) if its tasks stand at points that fit together, the task that runs is told
something it can rely on, and, with all these points, connections, channels and processes belong
together and the keeper serves one at a time. Every stimulus leaves a sound world sound, and is a
deed as the documents see it (`Sound.meet`).
-/

namespace BasiliskServer.World

open Tasks (Notice Scheduler Standing)

/-- The points of all tasks. -/
def allPoints (w : World) : List Point :=
  w.tasks.standings.flatMap (·.stack)

/-- The points of all tasks but one. -/
def others (w : World) (task : Nat) : List Point :=
  (w.tasks.standings.eraseIdx task).flatMap (·.stack)

/-- A task that does not run takes whatever comes, or waits for its ticket. -/
structure Calm (s : Standing Point) : Prop where
  /-- Its points fit together. -/
  fits : Fits none s.stack
  /-- All that it can rely on is that its ticket is called. -/
  waits : ∀ role, lead none s.stack = some role → ∃ t, role = .ticket t ∧ s.waiting = some t
  /-- Before it has run it stands where it needs no care. -/
  plain : s.begun = false → ∀ point ∈ s.stack, point.isPlain

/-- A task that runs is told something it can rely on. -/
structure Active (w : World) (outcome : Outcome) (s : Standing Point) : Prop where
  /-- Its points fit together. -/
  fits : Fits none s.stack
  /-- What it is told is as the first of them expects. -/
  delivers : Delivers w outcome (lead none s.stack)
  /-- It has run. -/
  begun : s.begun

/-- A task that runs with an outcome, or does not run. -/
def Stays (w : World) (s : Standing Point) : Option Outcome → Prop
  | none => Calm s
  | some outcome => Active w outcome s

/-- At all times: with the points of all tasks everything belongs together. -/
structure Sound (w : World) : Prop where
  /-- Connections, channels and processes belong together. -/
  coherent : Coherent w.view w.allPoints
  /-- The keeper serves one at a time. -/
  exclusive : Exclusive w false w.allPoints
  /-- The task that runs is told something it can rely on. -/
  active : ∀ (task : Nat) (outcome : Outcome), w.tasks.running = some (task, outcome) →
    ∃ s, w.tasks.standings[task]? = some s ∧ Active w outcome s
  /-- The other tasks take whatever comes, or wait for their tickets. -/
  calm : ∀ (task : Nat) (s : Standing Point), w.tasks.standings[task]? = some s →
    (∀ outcome, w.tasks.running ≠ some (task, outcome)) → Calm s

/-- Whether the task that runs is about to announce the open documents. -/
def announcing (w : World) : Bool :=
  match w.tasks.running with
  | none => false
  | some (task, outcome) =>
    announces ((w.tasks.standings[task]?).bind fun s => lead none s.stack) outcome

theorem announcing_of_idle {w : World} (h : w.tasks.running = none) : w.announcing = false := by
  rw [announcing, h]

theorem announcing_of_running {w : World} {task : Nat} {outcome : Outcome} {s : Standing Point}
    (hrunning : w.tasks.running = some (task, outcome)) (hs : w.tasks.standings[task]? = some s) :
    w.announcing = announces (lead none s.stack) outcome := by
  rw [announcing, hrunning]
  simp [hs]

/-! ## The points of one task -/

/-- The points of all tasks are those of one and those of the others. -/
theorem allPoints_perm {w : World} {task : Nat} {s : Standing Point}
    (h : w.tasks.standings[task]? = some s) : w.allPoints.Perm (s.stack ++ w.others task) := by
  obtain ⟨hlt, rfl⟩ := List.getElem?_eq_some_iff.1 h
  rw [others, ← List.flatMap_cons]
  exact (List.getElem_cons_eraseIdx_perm hlt).symm.flatMap_right _

theorem standings_getElem? {w : World} {task : Nat} {t : Tasks.Task Point}
    (h : w.tasks.tasks[task]? = some t) : w.tasks.standings[task]? = some t.standing := by
  simp [Scheduler.standings, h]

/-- A world in which one task was moved. -/
def moveTask (w : World) (task : Nat) (t : Tasks.Task Point) (running : Option Outcome) : World :=
  { w with
    tasks :=
      { w.tasks with tasks := w.tasks.tasks.set task t, running := running.map (task, ·) } }

section MoveTask

variable {w : World} {task : Nat} {t t' : Tasks.Task Point} {running : Option Outcome}

theorem standings_moveTask :
    (w.moveTask task t' running).tasks.standings = w.tasks.standings.set task t'.standing := by
  simp [moveTask, Scheduler.standings, List.map_set]

theorem others_moveTask : (w.moveTask task t' running).others task = w.others task := by
  rw [others, standings_moveTask, List.eraseIdx_set_eq]
  rfl

theorem allPoints_moveTask (ht : w.tasks.tasks[task]? = some t) :
    (w.moveTask task t' running).allPoints.Perm (t'.stack ++ w.others task) := by
  have hlt := (List.getElem?_eq_some_iff.1 (standings_getElem? ht)).1
  have hset : (w.moveTask task t' running).tasks.standings[task]? = some t'.standing := by
    rw [standings_moveTask, List.getElem?_set_self hlt]
  refine (allPoints_perm hset).trans ?_
  rw [others_moveTask]
  exact .refl _

theorem exclusive_moveTask (ht : w.tasks.tasks[task]? = some t) (t' : Tasks.Task Point)
    (hresult : t'.result = t.result) {acting : Bool} {pts : List Point} (h : Exclusive w acting pts) :
    Exclusive (w.moveTask task t' running) acting pts := by
  refine h.of_promises rfl rfl fun q hq => ?_
  have htargets := Scheduler.targets_set ht t' hresult (running.map (task, ·))
  rw [targets, show (w.moveTask task t' running).tasks.targets = _ from htargets] at hq
  exact hq

/-- A task that has acted runs on, with what it was told or with what is known of the promise that it
waits for, or it waits. -/
theorem proceed_cases (ht : w.tasks.tasks[task]? = some t) (next : Next) :
    (∃ outcome, (next = .go outcome (points next) ∨ ∃ promise,
        next = .wait promise (points next) ∧ w.tasks.outcome? promise = some outcome) ∧
      ({ w with tasks := w.tasks.proceed task next } : World) =
        w.moveTask task { t with stack := points next ++ t.stack } (some outcome)) ∨
    ∃ promise, next = .wait promise (points next) ∧ w.tasks.outcome? promise = none ∧
      let waits :=
        w.moveTask task { t with stack := points next ++ t.stack, waiting := some promise } none
      ({ w with tasks := w.tasks.proceed task next } : World) =
        { waits with tasks := waits.tasks.observe promise (.wake task) } := by
  cases next with
  | go outcome front =>
    refine .inl ⟨outcome, .inl rfl, ?_⟩
    simp only [Scheduler.proceed, ht]
    rfl
  | wait promise front =>
    cases hsettled : w.tasks.outcome? promise with
    | some outcome =>
      refine .inl ⟨outcome, .inr ⟨promise, rfl, hsettled⟩, ?_⟩
      simp only [Scheduler.proceed, ht, hsettled]
      rfl
    | none =>
      refine .inr ⟨promise, rfl, hsettled, ?_⟩
      simp only [Scheduler.proceed, ht, hsettled]
      rfl

theorem Delivers.imp {w' : World} {outcome : Outcome} {role : Option Role}
    (h : Delivers w outcome role) (hview : w'.view = w.view)
    (hkept : ∀ q result, w.tasks.outcome? q = some result → w'.tasks.outcome? q = some result) :
    Delivers w' outcome role := by
  unfold Delivers at h ⊢
  split at h
  · rw [hview]
    exact h
  · rw [hview]
    exact h
  · exact h
  · intro answer heq
    obtain ⟨answer', hok⟩ := h answer heq
    exact ⟨answer', hkept _ _ hok⟩
  · trivial

/-- One task is moved: the world is sound if everything belongs together with its new points, and
nobody else runs. -/
theorem Sound.of_moveTask (ht : w.tasks.tasks[task]? = some t) (t' : Tasks.Task Point)
    (hresult : t'.result = t.result)
    (hcoherent : Coherent w.view (t'.stack ++ w.others task))
    (hexclusive : Exclusive w false (t'.stack ++ w.others task))
    (hcalm : ∀ (other : Nat) (s : Standing Point), other ≠ task →
      w.tasks.standings[other]? = some s → Calm s)
    (hstays : Stays w t'.standing running) :
    Sound (w.moveTask task t' running) ∧
      (w.moveTask task t' running).announcing =
        running.elim false (announces (lead none t'.stack)) := by
  have hperm : (w.moveTask task t' running).allPoints.Perm _ := allPoints_moveTask ht
  have hlt := (List.getElem?_eq_some_iff.1 (standings_getElem? ht)).1
  -- all tasks together stand at the points of the moved one and those of the others, in some order
  have hset : (w.moveTask task t' running).tasks.standings[task]? = some t'.standing := by
    rw [standings_moveTask, List.getElem?_set_self hlt]
  refine ⟨⟨?coherent, ?exclusive, ?active, ?calm⟩, ?announcing⟩
  case coherent => exact hcoherent.of_subset fun point hpoint => hperm.mem_iff.1 hpoint
  case exclusive => exact (exclusive_moveTask ht t' hresult hexclusive).of_perm hperm
  case active =>
    intro other outcome hrunning
    cases running with
    | none => cases hrunning
    | some outcome' =>
      cases hrunning
      exact ⟨_, hset, hstays.fits, hstays.delivers.imp rfl fun _ _ h => h, hstays.begun⟩
  case calm =>
    intro other s hs hrests
    by_cases heq : other = task
    · subst heq
      rw [hset] at hs
      obtain rfl := Option.some.inj hs
      cases running with
      | none => exact hstays
      | some outcome => exact absurd rfl (hrests outcome)
    · rw [standings_moveTask, List.getElem?_set_ne fun h => heq h.symm] at hs
      exact hcalm other s heq hs
  case announcing =>
    cases running with
    | none => rfl
    | some outcome => exact announcing_of_running rfl hset

end MoveTask

namespace Sound

variable {w w' : World}

/-! ## In the background -/

theorem eq_start_of_isBeginning {point : Point} (h : point.isBeginning) :
    ∃ activity, point = .start activity ∧ activity.isOfSession := by
  cases point with
  | start activity => exact ⟨activity, rfl, h⟩
  | _ => cases h

/-- Tasks that were added need no care. -/
theorem not_counted_of_isBeginning {point : Point} (h : point.isBeginning) :
    point.holds = false ∧ point.ticket? = none := by
  obtain ⟨activity, rfl, -⟩ := eq_start_of_isBeginning h
  exact ⟨rfl, rfl⟩

theorem places_of_isBeginning (v : View) {point : Point} (h : point.isBeginning) :
    v.Places point := by
  obtain ⟨activity, rfl, hactivity⟩ := eq_start_of_isBeginning h
  exact hactivity

theorem calm_of_isBeginning {point : Point} (h : point.isBeginning) : Calm { stack := [point] } := by
  obtain ⟨activity, rfl, hactivity⟩ := eq_start_of_isBeginning h
  refine ⟨⟨rfl, trivial⟩, fun role hrole => ?_, fun _ point hpoint => ?_⟩
  · cases hrole
  · rw [List.mem_singleton.1 hpoint]
    exact hactivity

/-- Where no task is moved, the tasks that were there stand where they stood. -/
theorem allPoints_of_drift {called : Option Nat} (hdrift : Drift called w w') :
    ∃ beginnings : List Point, (∀ point ∈ beginnings, point.isBeginning) ∧
      w'.tasks.standings = w.tasks.standings ++ beginnings.map ({ stack := [·] }) ∧
      w'.allPoints.Perm (beginnings ++ w.allPoints) := by
  obtain ⟨beginnings, hbeginnings, hstandings⟩ := hdrift.tasks.standings
  refine ⟨beginnings, hbeginnings, hstandings, ?_⟩
  have hpoints : w'.allPoints = w.allPoints ++ beginnings := by
    simp [allPoints, hstandings, List.flatMap_map]
  rw [hpoints]
  exact List.perm_append_comm

/-- Where no task is moved, the keeper goes on serving one at a time. -/
theorem exclusive_of_drift (h : Exclusive w false w.allPoints) (hdrift : Drift none w w')
    (hkeeper : w'.keeper = w.keeper) : Exclusive w' false w'.allPoints := by
  obtain ⟨beginnings, hbeginnings, -, hperm⟩ := allPoints_of_drift hdrift
  have hdrifted := h.drift hdrift (by rw [hkeeper]) (by rw [hkeeper])
  exact (hdrifted.add fun point hpoint =>
    not_counted_of_isBeginning (hbeginnings point hpoint)).of_perm hperm

/-- Where no task is moved and everything still belongs together, a sound world stays sound. -/
theorem of_drift (h : Sound w) (hdrift : Drift none w w') (hkeeper : w'.keeper = w.keeper)
    (hcoherent : Coherent w'.view w.allPoints)
    (hactive : ∀ (task : Nat) (outcome : Outcome) (s : Standing Point),
      w.tasks.running = some (task, outcome) → Active w outcome s → Active w' outcome s) :
    Sound w' ∧ w'.announcing = w.announcing := by
  obtain ⟨beginnings, hbeginnings, hstandings, hperm⟩ := allPoints_of_drift hdrift
  -- the tasks that were there stay as they are
  have hold : ∀ (task : Nat) (s : Standing Point), w.tasks.standings[task]? = some s →
      w'.tasks.standings[task]? = some s := by
    intro task s hs
    rw [hstandings]
    exact Tasks.getElem?_append_of_some hs _
  refine ⟨⟨?coherent, ?exclusive, ?active, ?calm⟩, ?announcing⟩
  case coherent =>
    refine (hcoherent.add fun point hpoint => ?_).of_subset fun point hpoint =>
      hperm.mem_iff.1 hpoint
    exact places_of_isBeginning _ (hbeginnings point hpoint)
  case exclusive => exact exclusive_of_drift h.exclusive hdrift hkeeper
  case active =>
    intro task outcome hrunning
    rw [hdrift.tasks.running] at hrunning
    obtain ⟨s, hs, hactiveAt⟩ := h.active task outcome hrunning
    exact ⟨s, hold task s hs, hactive task outcome s hrunning hactiveAt⟩
  case calm =>
    intro task s hs hrests
    rw [hdrift.tasks.running] at hrests
    rw [hstandings, List.getElem?_append] at hs
    split at hs
    · exact h.calm task s hs hrests
    · obtain ⟨point, hpoint, rfl⟩ := List.mem_map.1 (List.mem_of_getElem? hs)
      exact calm_of_isBeginning (hbeginnings point hpoint)
  case announcing =>
    cases hrunning : w.tasks.running with
    | none =>
      rw [announcing_of_idle hrunning, announcing_of_idle (hdrift.tasks.running.trans hrunning)]
    | some next =>
      obtain ⟨task, outcome⟩ := next
      obtain ⟨s, hs, -⟩ := h.active task outcome hrunning
      rw [announcing_of_running hrunning hs,
        announcing_of_running (hdrift.tasks.running.trans hrunning) (hold task s hs)]

/-- What goes on in the background leaves a world sound. -/
theorem background (h : Sound w) (hback : Background w w') :
    Sound w' ∧ w'.announcing = w.announcing := by
  refine h.of_drift hback.toDrift (congrArg View.keeper hback.view) (hback.view ▸ h.coherent) ?_
  intro task outcome s hrunning hactive
  exact ⟨hactive.fits, hactive.delivers.imp hback.view hback.tasks.kept, hactive.begun⟩

/-- While no task runs, what goes on in the background is aside. -/
theorem idle (h : Sound w) (hidle : w.tasks.running = none) (hback : Background w w') :
    Sound w' ∧ Deed w.view w.announcing none w'.view w'.announcing := by
  obtain ⟨hsound, hannouncing⟩ := h.background hback
  refine ⟨hsound, ?_⟩
  rw [hannouncing, announcing_of_idle hidle, hback.view]
  exact .aside (.refl _)

/-! ## A task goes on -/

/-- The points of the other tasks are where they were; some may have been added. -/
theorem others_of_drift {called : Option Nat} (hdrift : Drift called w w') (task : Nat)
    (htask : task < w.tasks.standings.length) : ∃ beginnings : List Point,
      (∀ point ∈ beginnings, point.isBeginning) ∧
      w'.tasks.standings = w.tasks.standings ++ beginnings.map ({ stack := [·] }) ∧
      w'.others task = w.others task ++ beginnings := by
  obtain ⟨beginnings, hbeginnings, hstandings⟩ := hdrift.tasks.standings
  refine ⟨beginnings, hbeginnings, hstandings, ?_⟩
  rw [others, hstandings, List.eraseIdx_append_of_lt_length htask, List.flatMap_append]
  simp [others, List.flatMap_map]

/-- Among tasks that do not run there are never more starts of a connection than points that wait
for one. -/
theorem countP_isStart_le_of_calm {standings : List (Standing Point)}
    (h : ∀ s ∈ standings, Calm s) :
    (standings.flatMap (·.stack)).countP Point.isStart ≤
      (standings.flatMap (·.stack)).countP Point.isConnected := by
  induction standings with
  | nil => exact Nat.le_refl 0
  | cons s rest ih =>
    have hrest := ih fun other hother => h other (List.mem_cons_of_mem s hother)
    have hfirst := countP_isStart_le (h s List.mem_cons_self).fits
    rw [List.flatMap_cons, List.countP_append, List.countP_append]
    omega

/-- A task goes on to the point at which it stands. -/
theorem stands (h : Sound w) {task : Nat} {outcome : Outcome} {t : Tasks.Task Point}
    (hrunning : w.tasks.running = some (task, outcome)) (ht : w.tasks.tasks[task]? = some t)
    {point : Point} {rest : List Point} (hstack : t.stack = point :: rest) :
    Stands (w.moveTask task { t with stack := rest } (some outcome)) point
      (rest ++ w.others task) ∧
      Delivers (w.moveTask task { t with stack := rest } (some outcome)) outcome point.expects := by
  obtain ⟨s, hs, hactive⟩ := h.active task outcome hrunning
  rw [standings_getElem? ht] at hs
  obtain rfl := Option.some.inj hs
  have hfits : Fits none (point :: rest) := hstack ▸ hactive.fits
  have hdelivers : Delivers w outcome point.expects := by
    have hdelivers := hactive.delivers
    rw [show t.standing.stack = point :: rest from hstack] at hdelivers
    exact hdelivers
  have hperm : w.allPoints.Perm (point :: (rest ++ w.others task)) := by
    have hperm := allPoints_perm (standings_getElem? ht)
    rw [show t.standing.stack = point :: rest from hstack] at hperm
    exact hperm
  refine ⟨⟨?_, ?_, ?_, ?_⟩, hdelivers.imp rfl fun _ _ h => h⟩
  · exact h.coherent.of_subset fun other hother => hperm.mem_iff.2 hother
  · exact exclusive_moveTask ht { t with stack := rest } rfl (h.exclusive.of_perm hperm.symm)
  · -- below it stands whoever is told what it reports
    intro role hrole
    rw [hfits.1] at hrole
    cases rest with
    | nil => cases hrole
    | cons other below => exact ⟨other, List.mem_cons_self, hrole⟩
  · have hrest := countP_isStart_lt hfits
    -- in tasks that do not run every start has its point that waits for it
    have hothers : (w.others task).countP Point.isStart ≤
        (w.others task).countP Point.isConnected := by
      refine countP_isStart_le_of_calm fun s hs => ?_
      obtain ⟨other, hne, hs⟩ := List.mem_eraseIdx_iff_getElem?.1 hs
      refine h.calm other s hs fun outcome' hother => hne ?_
      rw [hrunning] at hother
      exact (Prod.mk.inj (Option.some.inj hother)).1.symm
    rw [List.countP_append, List.countP_append]
    omega

/-- A task that has acted goes on as told, or waits. -/
theorem of_proceed {task : Nat} {t : Tasks.Task Point} {next : Next}
    (ht : w.tasks.tasks[task]? = some t) (hfits : Fits none t.stack) (hbegun : t.begun)
    (hcoherent : Coherent w.view (points next ++ (t.stack ++ w.others task)))
    (hexclusive : Exclusive w false (points next ++ (t.stack ++ w.others task)))
    (hcalm : ∀ (other : Nat) (s : Standing Point), other ≠ task →
      w.tasks.standings[other]? = some s → Calm s)
    (hreaches : Reaches w (lead none t.stack) next) :
    Sound { w with tasks := w.tasks.proceed task next } ∧
      announcing { w with tasks := w.tasks.proceed task next } =
        isAnnouncing (lead none t.stack) next := by
  obtain ⟨front, hfront⟩ : ∃ front, front = points next := ⟨_, rfl⟩
  rw [← hfront, ← List.append_assoc] at hcoherent hexclusive
  rcases proceed_cases ht next with ⟨outcome, hnext, heq⟩ | ⟨promise, hnext, -, heq⟩ <;>
    rw [heq, ← hfront]
  -- The task runs on: with what it was told, or with what is known of the promise.
  · have hstays : Fits none (front ++ t.stack) ∧ Delivers w outcome (lead none (front ++ t.stack)) ∧
        announces (lead none (front ++ t.stack)) outcome = isAnnouncing (lead none t.stack) next := by
      rw [fits_append, lead_append]
      rcases hnext with hnext | ⟨promise, hnext, hsettled⟩ <;> rw [hnext, ← hfront] at hreaches ⊢ <;>
        refine ⟨⟨hreaches.1, hfits⟩, ?_⟩
      · exact ⟨hreaches.2, rfl⟩
      · rcases hreaches.2.eq with hlead | hlead <;> rw [hlead]
        · exact ⟨trivial, rfl⟩
        · exact ⟨fun answer heq => ⟨answer, by rw [hsettled, heq]⟩, rfl⟩
    let t' : Tasks.Task Point := { t with stack := front ++ t.stack }
    have hactive : Stays w t'.standing (some outcome) := ⟨hstays.1, hstays.2.1, hbegun⟩
    exact (Sound.of_moveTask ht t' rfl hcoherent hexclusive hcalm hactive).imp id fun hflag =>
      hflag.trans hstays.2.2
  -- The task waits, and the promise wakes it.
  · rw [hnext, ← hfront] at hreaches
    let t' : Tasks.Task Point := { t with stack := front ++ t.stack, waiting := some promise }
    obtain ⟨hsound, hflag⟩ : Sound (w.moveTask task t' none) ∧
        (w.moveTask task t' none).announcing = false := by
      refine Sound.of_moveTask ht t' rfl hcoherent hexclusive hcalm
        ⟨fits_append.2 ⟨hreaches.1, hfits⟩, fun role hrole => ?_, fun hnot => ?_⟩
      · have hwaits := hreaches.2
        rw [← lead_append, show lead none (front ++ t.stack) = some role from hrole] at hwaits
        rcases hwaits.eq with hlead | hlead
        · cases hlead
        · exact ⟨promise, Option.some.inj hlead, rfl⟩
      · rw [show t'.standing.begun = true from hbegun] at hnot
        cases hnot
    have hobserved := (Background.refl (w.moveTask task t' none)).observe promise (.wake task)
      (by simp [Notice.target?])
    rw [hnext]
    exact (hsound.background hobserved).imp id fun hsame => hsame.trans hflag

/-- A task acts, and goes on as told. -/
theorem of_handles {task : Nat} {t : Tasks.Task Point} {flag : Bool}
    {edit : Option (String × Sync)} {act : Act Next} (ht : w.tasks.tasks[task]? = some t)
    (hfits : Fits none t.stack) (hbegun : t.begun)
    (hcalm : ∀ (other : Nat) (s : Standing Point), other ≠ task →
      w.tasks.standings[other]? = some s → Calm s)
    (h : Handles w (t.stack ++ w.others task) (lead none t.stack) flag edit act) :
    (w.perform (do modifyTasks (·.proceed task (← act)))).Sound ∧
      Deed w.view flag edit (w.perform (do modifyTasks (·.proceed task (← act)))).view
        (w.perform (do modifyTasks (·.proceed task (← act)))).announcing := by
  obtain ⟨⟨called, hdrift⟩, hcoherent, hexclusive, hreaches, hdeed⟩ := h
  have hlt := (List.getElem?_eq_some_iff.1 (standings_getElem? ht)).1
  obtain ⟨beginnings, hbeginnings, hstandings, hothers⟩ := others_of_drift hdrift task hlt
  -- the task itself stands where it did
  have hs : (act.run w).2.tasks.standings[task]? = some t.standing := by
    rw [hstandings, List.getElem?_append_left hlt, standings_getElem? ht]
  rw [Scheduler.standings, List.getElem?_map] at hs
  obtain ⟨t', ht', hstanding⟩ := Option.map_eq_some_iff.1 hs
  have hstack : t'.stack = t.stack := congrArg Standing.stack hstanding
  have hbegun' : t'.begun = t.begun := congrArg Standing.begun hstanding
  have hperm : (points (act.run w).1 ++ (t'.stack ++ (act.run w).2.others task)).Perm
      (beginnings ++ (points (act.run w).1 ++ (t.stack ++ w.others task))) := by
    rw [hstack, hothers, ← List.append_assoc t.stack, ← List.append_assoc]
    exact List.perm_append_comm
  have hcoherent' := (hcoherent.add fun point hpoint =>
    places_of_isBeginning _ (hbeginnings point hpoint)).of_subset fun point hpoint =>
      hperm.mem_iff.1 hpoint
  have hexclusive' := (hexclusive.add fun point hpoint =>
    not_counted_of_isBeginning (hbeginnings point hpoint)).of_perm hperm
  have hcalm' : ∀ (other : Nat) (s : Standing Point), other ≠ task →
      (act.run w).2.tasks.standings[other]? = some s → Calm s := by
    intro other s hne hs
    rw [hstandings, List.getElem?_append] at hs
    split at hs
    · exact hcalm other s hne hs
    · obtain ⟨point, hpoint, rfl⟩ := List.mem_map.1 (List.mem_of_getElem? hs)
      exact calm_of_isBeginning (hbeginnings point hpoint)
  obtain ⟨hsound, hflag⟩ := Sound.of_proceed ht' (hstack ▸ hfits) (hbegun'.trans hbegun) hcoherent'
    hexclusive' hcalm' (hstack ▸ hreaches)
  refine ⟨hsound, ?_⟩
  have hflag : (w.perform (do modifyTasks (·.proceed task (← act)))).announcing =
      isAnnouncing (lead none t'.stack) (act.run w).1 := hflag
  rw [hflag, hstack]
  exact hdeed

/-- The task that runs goes on to its next point, or ends. -/
theorem advance (h : Sound w) {task : Nat} {outcome : Outcome}
    (hrunning : w.tasks.running = some (task, outcome)) {t : Tasks.Task Point}
    (ht : w.tasks.tasks[task]? = some t) :
    Sound ((advanceTask task outcome).run w).2 ∧
      Deed w.view w.announcing ((t.stack.head?).bind (Point.edit? w · outcome))
        ((advanceTask task outcome).run w).2.view ((advanceTask task outcome).run w).2.announcing := by
  obtain ⟨s, hs, hactive⟩ := h.active task outcome hrunning
  rw [standings_getElem? ht] at hs
  obtain rfl := Option.some.inj hs
  have hothers : ∀ (other : Nat) (s : Standing Point), other ≠ task →
      w.tasks.standings[other]? = some s → Calm s := by
    intro other s hne hs
    refine h.calm other s hs fun outcome' hother => hne ?_
    rw [hrunning] at hother
    exact (Prod.mk.inj (Option.some.inj hother)).1.symm
  have hannouncing := announcing_of_running hrunning (standings_getElem? ht)
  have hperm := allPoints_perm (standings_getElem? ht)
  cases hstack : t.stack with
  | nil =>
    -- the task ends, and its result is known
    have hsame : w.tasks.tasks.set task t = w.tasks.tasks := by
      obtain ⟨hlt, rfl⟩ := List.getElem?_eq_some_iff.1 ht
      exact List.set_getElem_self hlt
    have hends : ((advanceTask task outcome).run w).2 =
        { w.moveTask task t none with
          tasks := (w.moveTask task t none).tasks.settle t.result outcome } := by
      simp only [advanceTask, run_bind, run_get, ht, hstack, moveTask, hsame]
      rfl
    obtain ⟨hsound, hflag⟩ : Sound (w.moveTask task t none) ∧
        (w.moveTask task t none).announcing = false := by
      refine Sound.of_moveTask ht t rfl ?_ ?_ hothers ⟨hactive.fits, ?_, fun _ => ?_⟩
      · exact h.coherent.of_subset fun point hpoint => hperm.mem_iff.2 hpoint
      · exact h.exclusive.of_perm hperm.symm
      · rw [show t.standing.stack = [] from hstack]
        intro role hrole
        cases hrole
      · rw [show t.standing.stack = [] from hstack]
        simp
    have hsettled := (Background.refl (w.moveTask task t none)).settle t.result outcome
      (.inr (.inl (List.mem_append_right _ (Scheduler.mem_targets.2
        (.inr ⟨t, by simp [moveTask, hsame, List.mem_of_getElem? ht], rfl⟩)))))
    obtain ⟨hsound', hflag'⟩ := hsound.background hsettled
    rw [hends, hflag', hflag, hannouncing, show t.standing.stack = [] from hstack, hsettled.view]
    exact ⟨hsound', .aside (.refl _)⟩
  | cons point rest =>
    -- the point is taken off, and what is done there is told to the points below
    let t₁ : Tasks.Task Point := { t with stack := rest }
    let w₁ := w.moveTask task t₁ (some outcome)
    obtain ⟨hstands, hdelivers⟩ : Stands w₁ point (rest ++ w.others task) ∧
        Delivers w₁ outcome point.expects := h.stands hrunning ht hstack
    have hfits : Fits none (point :: rest) := hstack ▸ hactive.fits
    have hstep : ((advanceTask task outcome).run w).2 =
        w₁.perform (do modifyTasks (·.proceed task (← point.resume outcome))) := by
      have hpopped : { w with
          tasks := { w.tasks with tasks := w.tasks.tasks.set task t₁ } } = w₁ := by
        simp [w₁, moveTask, ← hrunning]
      simp only [advanceTask, run_bind, run_get, ht, hstack]
      rw [← hpopped]
      rfl
    have ht₁ : w₁.tasks.tasks[task]? = some t₁ :=
      List.getElem?_set_self (List.getElem?_eq_some_iff.1 ht).1
    have hothers₁ : ∀ (other : Nat) (s : Standing Point), other ≠ task →
        w₁.tasks.standings[other]? = some s → Calm s := by
      intro other s hne hs
      rw [standings_moveTask, List.getElem?_set_ne fun heq => hne heq.symm] at hs
      exact hothers other s hne hs
    have hsame : w₁.others task = w.others task := others_moveTask
    have hhandles := Point.resume_handles hstands hdelivers
    rw [hfits.1, ← hsame] at hhandles
    rw [hstep, hannouncing, show t.standing.stack = point :: rest from hstack]
    exact of_handles ht₁ hfits.2 hactive.begun hothers₁ hhandles

/-! ## What was caused happens -/

/-- A task that waited goes on, or one that was given up ends. -/
theorem resume (h : Sound w) (hidle : w.tasks.running = none) (task : Nat) :
    Sound { w with tasks := w.tasks.resume task } ∧
      announcing { w with tasks := w.tasks.resume task } = false := by
  rcases w.tasks.resume_cases task with
    hsame | ⟨t, t', outcome, ht, hresult, hbegun, hmoved, hstack⟩
  · rw [hsame]
    exact ⟨h, announcing_of_idle hidle⟩
  · have hresumed : { w with tasks := w.tasks.resume task } =
        w.moveTask task t' (some outcome) := by
      rw [hmoved]
      rfl
    have hcalms : ∀ (other : Nat) (s : Standing Point), w.tasks.standings[other]? = some s →
        Calm s := by
      intro other s hs
      refine h.calm other s hs fun outcome' hrunning => ?_
      rw [hidle] at hrunning
      cases hrunning
    have hcalm : Calm t.standing := hcalms task _ (standings_getElem? ht)
    have hperm := allPoints_perm (standings_getElem? ht)
    rw [hresumed]
    rcases hstack with ⟨hstack, houtcome⟩ | ⟨hstack, hunbegun⟩
    · -- it takes whatever comes, or its ticket was called
      have hdelivers : Delivers w outcome (lead none t'.stack) ∧
          announces (lead none t'.stack) outcome = false := by
        rw [hstack]
        cases hlead : lead none t.stack with
        | none => exact ⟨trivial, rfl⟩
        | some role =>
          obtain ⟨number, rfl, hwaiting⟩ := hcalm.waits role hlead
          refine ⟨fun answer heq => ⟨answer, ?_⟩, rfl⟩
          subst heq
          rcases houtcome with hnews | hfailed
          · have hwaiting : t.waiting = some number := hwaiting
            simpa [Scheduler.news?, hwaiting] using hnews
          · cases hfailed
      have hstays : Stays w t'.standing (some outcome) := by
        refine ⟨?_, hdelivers.1, hbegun⟩
        show Fits none t'.stack
        rw [hstack]
        exact hcalm.fits
      refine (Sound.of_moveTask ht t' hresult ?_ ?_ (fun other s _ => hcalms other s) hstays).imp id
        fun hflag => hflag.trans hdelivers.2
      · rw [hstack]
        exact h.coherent.of_subset fun point hpoint => hperm.mem_iff.2 hpoint
      · rw [hstack]
        exact h.exclusive.of_perm hperm.symm
    · -- it was given up before it has run
      have hstays : Stays w t'.standing (some outcome) := by
        refine ⟨?_, ?_, hbegun⟩ <;> rw [show t'.standing.stack = [] from hstack] <;> trivial
      refine (Sound.of_moveTask ht t' hresult ?_ ?_ (fun other s _ => hcalms other s) hstays).imp id
        fun hflag => hflag.trans ?_
      · rw [hstack]
        refine h.coherent.of_subset fun point hpoint => hperm.mem_iff.2 ?_
        exact List.mem_append_right _ hpoint
      · rw [hstack]
        refine (h.exclusive.of_perm hperm.symm).remove fun point hpoint => ?_
        have hplain : w.view.Allows point := .inl (hcalm.plain hunbegun point hpoint)
        obtain ⟨hholds, -, hticket⟩ := not_counted_of_allows hplain
        exact ⟨hholds, hticket⟩
      · show announces (lead none t'.stack) outcome = false
        rw [hstack]
        rfl

theorem happenHook_quiet (hook : Hook) : Quiet (happenHook hook) := by
  cases hook with
  | forget channel request => exact forget_quiet channel request
  | retire task => exact retire_quiet task
  | write process bytes => exact writeOutput_quiet process bytes
  | quit process code => exact quit_quiet process code

/-- While no task runs, the first thing in the queue happens. -/
theorem step_of_idle (h : Sound w) (hidle : w.tasks.running = none) :
    Sound w.step ∧ Deed w.view w.announcing none w.step.view w.step.announcing := by
  cases htake : w.tasks.takeNotice with
  | none =>
    have hstep : w.step = w := by
      simp only [step, perform, stepAct, run_bind, run_get, hidle, htake]
      rfl
    rw [hstep]
    exact h.idle hidle (.refl w)
  | some pair =>
    obtain ⟨notice, tasks⟩ := pair
    have hstep : w.step = ((happen notice).run { w with tasks }).2 := by
      simp only [step, perform, stepAct, run_bind, run_get, hidle, htake]
      rfl
    have hgrows : w.tasks.Grows (·.isBeginning) (fun q => q ∈ w.targets ∨ none = some q) tasks ∧
        notice ∈ w.tasks.ready := Scheduler.Grows.takeNotice .refl htake
    have hback : Background w { w with tasks } :=
      (Background.refl w).setTasks hgrows.1 hgrows.1.promises
    -- what a notice settles was to be settled
    have htarget : ∀ q, notice.target? = some q → q ∈ w.targets := by
      intro q hq
      refine List.mem_append_right _ (Scheduler.mem_targets.2 (.inl ⟨notice, ?_, hq⟩))
      exact Scheduler.mem_notices.2 (.inl hgrows.2)
    rw [hstep]
    cases notice with
    | wake task =>
      obtain ⟨hsound, -⟩ := h.background hback
      have hresting : tasks.running = none :=
        hback.tasks.running.trans hidle
      obtain ⟨hsound', hflag⟩ := hsound.resume hresting task
      refine ⟨hsound', ?_⟩
      have hflag : ((happen (.wake task)).run { w with tasks }).2.announcing = false := hflag
      rw [hflag, announcing_of_idle hidle]
      exact .aside (.refl _)
    | release promise =>
      exact h.idle hidle (hback.settle promise _ (.inr (.inl (htarget _ rfl))))
    | relay source target =>
      refine h.idle hidle ?_
      simp only [happen, run_bind, run_get]
      split
      · exact hback.settle target _ (.inr (.inl (htarget _ rfl)))
      · exact hback
    | tally promise =>
      have hlength : Scheduler.Grows (·.isBeginning) (fun _ => True) tasks
        (tasks.countDown promise) := Scheduler.Grows.countDown .refl (.inl trivial)
      exact h.idle hidle (hback.setTasks (hgrows.1.countDown (.inl (.inl (htarget _ rfl))))
        hlength.promises)
    | hook hook => exact h.idle hidle (hback.trans (happenHook_quiet hook _).1)

/-- A step leaves a sound world sound. -/
theorem step (h : Sound w) :
    Sound w.step ∧ Deed w.view w.announcing (w.edit? .step) w.step.view w.step.announcing := by
  cases hrunning : w.tasks.running with
  | none =>
    have hedit : w.edit? .step = none := by
      rw [edit?, hrunning]
    rw [hedit]
    exact h.step_of_idle hrunning
  | some pair =>
    obtain ⟨task, outcome⟩ := pair
    obtain ⟨s, hs, -⟩ := h.active task outcome hrunning
    rw [Scheduler.standings, List.getElem?_map] at hs
    obtain ⟨t, ht, -⟩ := Option.map_eq_some_iff.1 hs
    have hstep : w.step = ((advanceTask task outcome).run w).2 := by
      simp only [World.step, perform, stepAct, run_bind, run_get, hrunning]
    have hedit : w.edit? .step = (t.stack.head?).bind (Point.edit? w · outcome) := by
      simp [edit?, hrunning, ht]
    rw [hstep, hedit]
    exact h.advance hrunning ht

/-! ## Stimuli -/

theorem introduce_quiet (rootUri : Option String) (folders : List (String × String))
    (asksSettings : Bool) : Quiet (introduce rootUri folders asksSettings) := by
  refine .seq (updateSession_quiet _ fun _ => rfl) fun _ => ?_
  split
  · exact .pure trivial
  · exact .seq (updateSession_quiet _ fun _ => rfl) fun _ => .pure trivial

theorem moveTo_quiet (moment : Nat) : Quiet (modifyTasks (·.moveTo moment)) := by
  intro w
  have hgrows : w.tasks.Grows (·.isBeginning) (fun q => q ∈ w.targets ∨ none = some q)
    (w.tasks.moveTo moment) := .moveTo .refl moment
  exact ⟨(Background.refl w).setTasks hgrows hgrows.promises, trivial⟩

/-- Except for closing a document, nothing from outside matters at once. -/
theorem quiet_of_stimulus {stimulus : Stimulus} (hstep : stimulus ≠ .step)
    (hclose : ∀ uri, stimulus ≠ .close uri) : Quiet stimulus.act := by
  have hsilent : ∀ change : World → World, (∀ w, (change w).tasks = w.tasks) →
      (∀ w, (change w).view = w.view) →
      (∀ w, (change w).outerTargets = w.outerTargets) → Quiet (modify change) := by
    intro change htasks hview htargets w
    refine ⟨⟨(Drift.refl w).of_tasks_eq (htasks w) fun q hq => .inl ?_, hview w⟩, trivial⟩
    rw [← htargets w]
    exact hq
  cases stimulus with
  | step => exact absurd rfl hstep
  | introduction rootUri folders asksSettings =>
    exact .seq (introduce_quiet rootUri folders asksSettings) fun _ => .pure trivial
  | call activity =>
    show Quiet (if activity.isCall then discard (spawn activity) else return)
    split
    · rename_i hcall
      have hactivity : activity.isOfSession := by simp [Activity.isOfSession, hcall]
      exact .seq (spawn_quiet hactivity) fun _ => .pure trivial
    · exact .pure trivial
  | close uri => exact absurd rfl (hclose uri)
  | output process bytes => exact writeOutput_quiet process bytes
  | errors process bytes => exact writeErrors_quiet process bytes
  | fault process text => exact breakOutput_quiet process text
  | exit process code => exact quit_quiet process code
  | time moment => exact moveTo_quiet moment
  | machine host => exact hsilent _ (fun _ => rfl) (fun _ => rfl) fun _ => rfl
  | editor script => exact hsilent _ (fun _ => rfl) (fun _ => rfl) fun _ => rfl
  | settings chosen compilerWorks => exact updateSession_quiet _ fun _ => rfl

theorem closeDocument_turns (w : World) (uri : String) :
    Turns none w
      (View.forward
        { w.view with sheets := (w.session.store.closed uri).1.documents.map sheetOf }
        "textDocument/didClose" (documentParams uri))
      (fun _ => True) (closeDocument uri) := by
  have hclosed := updateSession_turns w fun s =>
    { s with
      store := (w.session.store.closed uri).1
      numbers := s.numbers.filter (·.1 ≠ uri) }
  refine .get_bind (hclosed.bind fun _ w₁ hw₁ _ => ?_)
  have hview : w₁.view =
      { w.view with sheets := (w.session.store.closed uri).1.documents.map sheetOf } := hw₁
  rw [← hview]
  refine .modest_seq (display_quiet _) fun _ w₂ hw₂ => ?_
  rw [← hw₂]
  refine .modest_seq (updateSession_quiet _ fun _ => rfl) fun _ w₃ hw₃ => ?_
  rw [← hw₃]
  exact forward_turns w₃ _ _

/-- The editor closes a document. -/
theorem close (h : Sound w) (hidle : w.tasks.running = none) (uri : String) :
    Sound (w.perform (closeDocument uri)) ∧
      Deed w.view false (some (uri, .closed)) (w.perform (closeDocument uri)).view false ∧
      (w.perform (closeDocument uri)).announcing = false := by
  obtain ⟨hdrift, hview, -⟩ := closeDocument_turns w uri
  obtain ⟨hcoherent, hsheets, hlearns⟩ :=
    (h.coherent.setSheets ((w.session.store.closed uri).1.documents.map sheetOf)).forward
      "textDocument/didClose" (documentParams uri)
  rw [heard_closed] at hlearns
  have hedits := edits_closed w uri
  have hkeeper : (w.perform (closeDocument uri)).keeper = w.keeper := by
    have heq := congrArg View.keeper hview
    rw [forward_keeper] at heq
    exact heq
  -- Nobody runs, so whatever closing causes waits for its turn.
  obtain ⟨hsound, hflag⟩ := h.of_drift hdrift hkeeper (hview ▸ hcoherent)
    fun task outcome s hrunning => by
      rw [hidle] at hrunning
      cases hrunning
  refine ⟨hsound, ?_, hflag.trans (announcing_of_idle hidle)⟩
  rw [show (w.perform (closeDocument uri)).view = _ from hview]
  refine .edit ⟨fun other => ?_, fun hdistinct => ?_⟩ hlearns
  · rw [View.content?, hsheets]
    exact hedits.content? other
  · rw [View.Distinct, hsheets]
    exact hedits.distinct hdistinct

/-- Whatever happens leaves a sound world sound, and is a deed as the documents see it. -/
theorem meet (h : Sound w) (stimulus : Stimulus) :
    Sound (w.meet stimulus) ∧ Deed w.view w.announcing (w.edit? stimulus) (w.meet stimulus).view
      (w.meet stimulus).announcing := by
  by_cases hstep : stimulus = .step
  · subst hstep
    exact h.step
  · cases hrunning : w.tasks.running with
    | some pair =>
      -- it waits until the task does
      have hmeet : w.meet stimulus = w := by
        unfold World.meet
        split
        · exact absurd rfl hstep
        · rfl
        · rename_i hnone
          rw [hrunning] at hnone
          cases hnone
      have hedit : w.edit? stimulus = none := by
        unfold edit?
        split
        · exact absurd rfl hstep
        · simp [hrunning]
        · rfl
      rw [hmeet, hedit]
      refine ⟨h, ?_⟩
      cases w.announcing with
      | true => exact .pass rfl rfl rfl
      | false => exact .aside (.refl _)
    | none =>
      have hmeet : w.meet stimulus = w.perform stimulus.act := by
        unfold World.meet
        split
        · exact absurd rfl hstep
        · rename_i hsome
          rw [hrunning] at hsome
          cases hsome
        · rfl
      rw [hmeet]
      by_cases hclose : ∃ uri, stimulus = .close uri
      · obtain ⟨uri, rfl⟩ := hclose
        obtain ⟨hsound, hdeed, hflag⟩ := h.close hrunning uri
        have hedit : w.edit? (.close uri) = some (uri, .closed) := by
          simp [edit?, hrunning]
        refine ⟨hsound, ?_⟩
        rw [hedit, announcing_of_idle hrunning,
          show (w.perform (Stimulus.close uri).act).announcing = false from hflag]
        exact hdeed
      · have hclose : ∀ uri, stimulus ≠ .close uri := fun uri heq => hclose ⟨uri, heq⟩
        have hedit : w.edit? stimulus = none := by
          unfold edit?
          split
          · exact absurd rfl hstep
          · exact absurd rfl (hclose _)
          · rfl
        rw [hedit]
        exact h.idle hrunning (quiet_of_stimulus hstep hclose w).1

/-- Whatever happens, one after the other, leaves a sound world sound. -/
theorem meetAll (h : Sound w) (stimuli : List Stimulus) : Sound (w.meetAll stimuli) := by
  induction stimuli generalizing w with
  | nil => exact h
  | cons stimulus rest ih => exact ih (h.meet stimulus).1

/-- A world in which nothing has happened yet is sound. -/
theorem fresh (host : Files.Host) (companions : List CompanionScript)
    (versionScript : CommandScript) (runScripts : List CommandScript) (editor : EditorScript) :
    Sound (World.fresh host companions versionScript runScripts editor) := by
  refine ⟨⟨?_, ?_, ?_, rfl, ?_, ?_⟩, ⟨rfl, .refl _, List.nodup_nil, ?_, ?_, ?_⟩, ?_, ?_⟩
  · rintro number (⟨link, hlink, -⟩ | ⟨link, hlink, -⟩) <;> cases hlink
  · rintro number link hlink
    cases hlink
  · rintro entry hentry
    cases hentry
  · rintro link hlink
    cases hlink
  · rintro point hpoint
    cases hpoint
  · rintro t ht
    cases ht
  · rintro t ht
    cases ht
  · rintro q hq
    cases hq
  · rintro task outcome hrunning
    cases hrunning
  · rintro task s hs
    cases hs

end Sound

end BasiliskServer.World
