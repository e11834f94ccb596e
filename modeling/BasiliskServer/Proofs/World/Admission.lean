import BasiliskServer.Proofs.World.Aloof

/-!
# Turns in a run of the keeper

Any number of callers may deal with the keeper at a time, and each of them either has its turn or
waits for its ticket with nothing else to do (`Queued`). Whatever happens, the keeper goes on serving
one at a time (`TakesTurns.undergo`): a task that acts at a point of the keeper hands its turn on as
it should, and everything else leaves the keeper alone.
-/

namespace BasiliskServer.World

open Json (Value)
open Tasks (Notice Scheduler Standing)

variable {Γ : Ledger} {counter : Counter} {w w' : World} {task : Nat} {t : Tasks.Task Point}
  {pts : List Point} {point : Point} {rest : List Point} {outcome : Outcome} {incident : Incident}

/-! ## Tasks that wait for their turn -/

/-- What the task is told that runs, if it is this one. -/
def told? (w : World) (task : Nat) : Option Outcome :=
  w.tasks.running.bind fun (other, outcome) => if other = task then some outcome else none

/-- Who wants its turn stands at its ticket alone; it waits for the ticket, or goes on with what
became of it. -/
def InLine (w : World) (told : Option Outcome) (s : Standing Point) : Prop :=
  ∀ point ∈ s.stack, ∀ ticket, point.ticket? = some ticket → s.stack = [point] ∧
    match told with
    | none => s.waiting = some ticket
    | some outcome => Delivers w outcome (some (.ticket ticket))

/-- Whoever wants its turn waits for its ticket. -/
def Queued (w : World) : Prop :=
  ∀ (task : Nat) (s : Standing Point), w.tasks.standings[task]? = some s → w.InLine (w.told? task) s

theorem Delivers.grow {role : Option Role} {number : Nat} (h : Delivers w outcome role)
    (hrole : role = some (.ticket number))
    (hkept : ∀ q known, w.tasks.outcome? q = some known → w'.tasks.outcome? q = some known) :
    Delivers w' outcome role := by
  subst hrole
  intro answer heq
  obtain ⟨known, hknown⟩ := h answer heq
  exact ⟨known, hkept _ _ hknown⟩

namespace InLine

variable {told : Option Outcome} {s : Standing Point}

/-- Where there are no tickets. -/
theorem of_none (h : ∀ point ∈ s.stack, point.ticket? = none) : w.InLine told s := by
  intro point hpoint ticket hticket
  rw [h point hpoint] at hticket
  cases hticket

theorem grow (h : w.InLine told s)
    (hkept : ∀ q known, w.tasks.outcome? q = some known → w'.tasks.outcome? q = some known) :
    w'.InLine told s := by
  intro point hpoint ticket hticket
  obtain ⟨halone, htold⟩ := h point hpoint ticket hticket
  refine ⟨halone, ?_⟩
  cases told with
  | none => exact htold
  | some outcome => exact htold.grow rfl hkept

/-- Below the first point nobody wants their turn. -/
theorem not_ticket_below (h : w.InLine told s) (hstack : s.stack = point :: rest) :
    ∀ other ∈ rest, other.ticket? = none := by
  intro other hother
  by_contra hne
  obtain ⟨ticket, hticket⟩ := Option.ne_none_iff_exists'.1 hne
  obtain ⟨halone, -⟩ := h other (hstack ▸ List.mem_cons_of_mem _ hother) ticket hticket
  rw [hstack] at halone
  rw [(List.cons.inj halone).2] at hother
  cases hother

/-- Who goes on at its ticket is told what became of it. -/
theorem delivers (h : w.InLine (some outcome) s) (hstack : s.stack = point :: rest) {ticket : Nat}
    (hticket : point.ticket? = some ticket) : Delivers w outcome (some (.ticket ticket)) :=
  (h point (hstack ▸ List.mem_cons_self) ticket hticket).2

end InLine

namespace Queued

theorem onward (h : Queued w) (honward : Onward w.tasks w'.tasks) : Queued w' := by
  obtain ⟨activities, hstandings⟩ := honward.standings
  have htold : w'.told? = w.told? := by
    funext task
    rw [told?, honward.running]
    rfl
  intro task s hs
  rw [htold]
  rw [hstandings, List.getElem?_append] at hs
  split at hs
  · exact (h task s hs).grow honward.outcomes
  · obtain ⟨activity, -, rfl⟩ := List.mem_map.1 (List.mem_of_getElem? hs)
    refine .of_none fun point hpoint => ?_
    rw [List.mem_singleton.1 hpoint]
    rfl

/-- One task is moved, and nobody else runs. -/
theorem moveTask (h : Queued w) (ht : w.tasks.tasks[task]? = some t) {t' : Tasks.Task Point}
    {running : Option Outcome} (hothers : ∀ other ≠ task, w.told? other = none)
    (hself : w.InLine running t'.standing) : Queued (w.moveTask task t' running) := by
  have hlt := (List.getElem?_eq_some_iff.1 (standings_getElem? ht)).1
  intro other s hs
  rw [standings_moveTask] at hs
  by_cases heq : other = task
  · subst heq
    rw [List.getElem?_set_self hlt] at hs
    obtain rfl := Option.some.inj hs
    have htold : (w.moveTask other t' running).told? other = running := by
      cases running <;> simp [told?, World.moveTask]
    rw [htold]
    exact hself.grow fun _ _ hknown => hknown
  · rw [List.getElem?_set_ne fun h => heq h.symm] at hs
    have htold : (w.moveTask task t' running).told? other = none := by
      cases running <;> simp [told?, World.moveTask, Ne.symm heq]
    have hqueues := h other s hs
    rw [hothers other heq] at hqueues
    rw [htold]
    exact hqueues.grow fun _ _ hknown => hknown

end Queued

/-- A task goes on without a ticket, or waits for one that it has just got and does nothing else. -/
def QueuesUp (next : Next) (rest : List Point) : Prop :=
  ∀ point ∈ points next ++ rest, ∀ ticket, point.ticket? = some ticket →
    rest = [] ∧ next = .wait ticket [point]

/-- A task that has acted goes on as told. -/
theorem Queued.proceed {next : Next} (h : Queued w) (ht : w.tasks.tasks[task]? = some t)
    (hothers : ∀ other ≠ task, w.told? other = none) (hnext : QueuesUp next t.stack) :
    Queued { w with tasks := w.tasks.proceed task next } := by
  have halone : ∀ point ∈ points next ++ t.stack, ∀ ticket, point.ticket? = some ticket →
      points next ++ t.stack = [point] ∧ next = .wait ticket [point] := by
    intro point hpoint ticket hticket
    obtain ⟨hrest, heq⟩ := hnext point hpoint ticket hticket
    rw [hrest, List.append_nil, heq]
    exact ⟨rfl, rfl⟩
  rcases proceed_cases ht next with ⟨outcome, hgoes, heq⟩ | ⟨promise, hwaits, -, heq⟩ <;> rw [heq]
  · refine h.moveTask ht hothers fun point hpoint ticket hticket => ?_
    obtain ⟨hstack, hwait⟩ := halone point hpoint ticket hticket
    refine ⟨hstack, fun answer heq => ?_⟩
    rcases hgoes with hgo | ⟨promise, hwait', hknown⟩
    · rw [hgo] at hwait
      cases hwait
    · obtain ⟨rfl, -⟩ := Tasks.Next.wait.inj (hwait.symm.trans hwait')
      exact ⟨answer, heq ▸ hknown⟩
  · refine (h.moveTask ht hothers fun point hpoint ticket hticket => ?_).onward (.observe promise _)
    obtain ⟨hstack, hwait⟩ := halone point hpoint ticket hticket
    obtain ⟨rfl, -⟩ := Tasks.Next.wait.inj (hwait.symm.trans hwaits)
    exact ⟨hstack, rfl⟩

theorem told?_of_idle (hidle : w.tasks.running = none) (task : Nat) : w.told? task = none := by
  rw [told?, hidle]
  rfl

/-- A task is woken while none runs. -/
theorem Queued.resume (h : Queued w) (hidle : w.tasks.running = none) (task : Nat) :
    Queued { w with tasks := w.tasks.resume task } := by
  rcases w.tasks.resume_cases task with
    heq | ⟨t, t', outcome, ht, -, -, heq, hstack⟩ <;> rw [heq]
  · exact h
  · have hqueues := h task _ (standings_getElem? ht)
    rw [told?_of_idle hidle] at hqueues
    suffices hself : w.InLine (some outcome) t'.standing from
      h.moveTask ht (fun other _ => told?_of_idle hidle other) hself
    rcases hstack with ⟨hstack, houtcome⟩ | ⟨hstack, -⟩
    · intro point hpoint ticket hticket
      rw [show t'.standing.stack = t.stack from hstack] at hpoint ⊢
      obtain ⟨halone, hwaiting⟩ := hqueues point hpoint ticket hticket
      refine ⟨halone, fun answer heq => ⟨answer, ?_⟩⟩
      subst heq
      have hwaiting : t.waiting = some ticket := hwaiting
      rcases houtcome with hnews | hfailed
      · simpa [Scheduler.news?, hwaiting] using hnews
      · cases hfailed
    · refine .of_none fun point hpoint => ?_
      rw [show t'.standing.stack = [] from hstack] at hpoint
      cases hpoint

/-! ## Turns that are handed on -/

/-- With tasks at the given points the action leaves the keeper serving one at a time. -/
structure Yields (w : World) (pts : List Point) (act : Act Next) : Prop where
  /-- No other task is moved. -/
  drift : ∃ called, Drift called w (act.run w).2
  /-- Afterwards the keeper serves one at a time. -/
  exclusive : Exclusive (act.run w).2 false (points (act.run w).1 ++ pts)

/-- Points that need no turn. -/
def NeedsNone (next : Next) : Prop :=
  ∀ point ∈ points next, point.holds = false ∧ point.ticket? = none

theorem NeedsNone.of_avoids {next : Next} (h : Avoids Point.isKeeper next) : NeedsNone next := by
  intro point hpoint
  have hkeeper := h point hpoint
  cases point <;> first | exact ⟨rfl, rfl⟩ | cases hkeeper

namespace Yields

variable {act : Act Next}

/-- After a first action that leaves the turns as they are. -/
theorem after {α : Type} {first : Act α} {rest : α → Act Next} (hdrift : Drift none w (first.run w).2)
    (h : Yields (first.run w).2 pts (rest (first.run w).1)) : Yields w pts (first >>= rest) := by
  obtain ⟨called, hcalled⟩ := h.drift
  exact ⟨⟨called, hdrift.weaken.trans hcalled⟩, h.exclusive⟩

theorem get_bind {rest : World → Act Next} (h : Yields w pts (rest w)) :
    Yields w pts (get >>= rest) :=
  ⟨h.drift, h.exclusive⟩

/-- Who leaves the keeper alone keeps its place. -/
theorem of_aloof (h : Exclusive w false pts) (hact : Aloof act) (hpoints : NeedsNone (act.run w).1) :
    Yields w pts act := by
  obtain ⟨hdrift, hkeeper⟩ := hact w
  exact ⟨⟨none, hdrift⟩, (h.drift hdrift (by rw [hkeeper]) (by rw [hkeeper])).add hpoints⟩

/-- Who wants its turn gets it or leaves a ticket. -/
theorem takeTurn {gate : Option Nat → KeeperPoint} (hgate : IsGate gate) (h : Exclusive w false pts) :
    Yields w pts (World.takeTurn gate) := by
  refine ⟨⟨none, ?_⟩, h.takeTurn hgate⟩
  rw [takeTurn_run]
  split
  · exact (Drift.refl w).of_tasks_eq rfl fun _ hq => .inl hq
  · exact ((Background.refl w).promise 0).toDrift.of_tasks_eq rfl fun _ hq => .inl hq

/-- Who is done with its turn calls the next one. -/
theorem leave (h : Exclusive w true pts) (outcome : Outcome) :
    Yields w pts (do World.leave; give outcome) := by
  have hturns := leave_turns w
  have hkeeper : ((World.leave).run w).2.keeper = { w.keeper with busy := false } :=
    congrArg View.keeper hturns.view
  have hleft : Exclusive ((World.leave).run w).2 false pts :=
    h.leave hturns.drift (by rw [hkeeper]) (by rw [hkeeper])
  exact ⟨⟨_, hturns.drift⟩, hleft⟩

/-- Who has its turn keeps it while it waits for something else. -/
theorem hold {next : Point} (h : Exclusive w true pts) (hholds : next.holds)
    (hticket : next.ticket? = none) (hdrift : Drift none w (act.run w).2)
    (hbusy : (act.run w).2.keeper.busy = w.keeper.busy)
    (htickets : (act.run w).2.keeper.tickets = w.keeper.tickets)
    (hpoints : NeedsNone (act.run w).1) : Yields w pts (under next act) := by
  refine ⟨⟨none, hdrift⟩, ?_⟩
  have hunder : points ((under next act).run w).1 ++ pts = points (act.run w).1 ++ next :: pts := by
    rw [show ((under next act).run w).1 = (act.run w).1.under next from rfl, points_under,
      List.append_assoc]
    rfl
  rw [hunder]
  exact ((h.drift hdrift hbusy htickets).hold hholds hticket).add hpoints

/-- Who lets the connection go keeps its turn meanwhile. -/
theorem vacate {next : Point} (h : Exclusive w true pts) (hholds : next.holds)
    (hticket : next.ticket? = none) : Yields w pts (under next World.vacate) := by
  let cleared := updateKeeper fun k => { k with connection := none, fingerprint := none }
  have hcleared := updateKeeper_turns w fun k => { k with connection := none, fingerprint := none }
  -- To stop the connection leaves the keeper as it is once it has been cleared.
  have hleaves : Drift none w ((World.vacate).run w).2 ∧
      ((World.vacate).run w).2.keeper = { w.keeper with connection := none, fingerprint := none } := by
    obtain ⟨hdrift, hkeeper⟩ : Drift none (cleared.run w).2 ((World.vacate).run w).2 ∧
        ((World.vacate).run w).2.keeper = (cleared.run w).2.keeper := by
      unfold World.vacate
      simp only [run_bind, run_get]
      cases w.keeper.connection with
      | none => exact Aloof.finish _ _
      | some number => exact (disconnect_aloof number).under (.keeper .disconnected) _
    exact ⟨hcleared.drift.trans hdrift, hkeeper⟩
  refine hold h hholds hticket hleaves.1 (by rw [hleaves.2]) (by rw [hleaves.2]) ?_
  have hvacates := vacate_goes w
  unfold Goes at hvacates
  generalize ((World.vacate).run w).1 = next at hvacates ⊢
  generalize ((World.vacate).run w).2.layout = l at hvacates
  cases hvacates with
  | vacant _ => exact fun point hpoint => absurd hpoint List.not_mem_nil
  | leaves _ hleaves =>
    intro point hpoint
    rw [points_under, List.mem_append, List.mem_singleton] at hpoint
    rcases hpoint with hpoint | rfl
    · exact NeedsNone.of_avoids hleaves.keeps_shape.2 point hpoint
    · exact ⟨rfl, rfl⟩

end Yields

theorem NeedsNone.of_plain (w : World) {next : Next} (h : Plain next) : NeedsNone next :=
  fun point hpoint =>
    have hallows : w.view.Allows point := .inl (h point hpoint)
    ⟨(not_counted_of_allows hallows).1, (not_counted_of_allows hallows).2.2⟩

/-- The keeper makes another connection and starts it. -/
theorem renew_yields {config : Companion.Config}
    (h : Exclusive w false (.keeper (.vacated config) :: pts)) (hlistener : w.keeper.listener = .recorder)
    (answer : Answer) : Yields w pts (KeeperPoint.resume (.vacated config) (.ok answer)) := by
  have hacts : Exclusive w true pts := h.act rfl rfl
  have hmade := newConnection_turns w { config, listener := w.keeper.listener } (by
    rw [hlistener]
    simp [Connection.waiters])
  let w₁ := ((newConnection { config, listener := w.keeper.listener }).run w).2
  have hkept := updateKeeper_turns w₁ fun k =>
    { k with connection := some w.connections.length, fingerprint := some config.fingerprint }
  let w₂ := ((updateKeeper fun k => { k with
    connection := some w.connections.length, fingerprint := some config.fingerprint }).run w₁).2
  have hready : Exclusive w₂ true pts := hacts.drift (hmade.drift.trans hkept.drift) rfl rfl
  obtain ⟨hdrift, hkeeper⟩ := connect_aloof w.connections.length w₂
  have hconnects : w₂.layout.Connects w.connections.length _ _ := connect_goes w₂ w.connections.length
  refine .get_bind (.after hmade.drift (.after hkept.drift ?_))
  exact .hold hready rfl rfl hdrift (congrArg Keeper.busy hkeeper) (congrArg Keeper.tickets hkeeper)
    (.of_avoids hconnects.keeps_shape.2)

/-- What a task does that deals with the keeper and whose turn it is. -/
theorem keeperResume_yields {f : Facts} {result : Nat} {keeperPoint : KeeperPoint}
    (h : Exclusive w false (.keeper keeperPoint :: pts))
    (hadmits : Γ.Admits f result (Point.keeper keeperPoint).expectation outcome)
    (hlistener : w.keeper.listener = .recorder)
    (hcalled : ∀ t, (Point.keeper keeperPoint).ticket? = some t →
      ∃ answer, w.tasks.outcome? t = some (.ok answer)) :
    Yields w pts (keeperPoint.resume outcome) := by
  cases keeperPoint with
  | admitted config ticket =>
    obtain ⟨answer, rfl⟩ := hadmits
    have henters := h.enters (isGate_admitted config) hcalled
    refine .after (updateKeeper_turns w _).drift ?_
    cases config with
    | none => exact .vacate henters rfl rfl
    | some config =>
      refine .get_bind ?_
      split
      · exact .leave henters _
      · exact .vacate henters rfl rfl
  | admittedToStop ticket =>
    obtain ⟨answer, rfl⟩ := hadmits
    have henters := h.enters isGate_admittedToStop hcalled
    exact .after (updateKeeper_turns w _).drift (.vacate henters rfl rfl)
  | disconnected =>
    obtain ⟨answer, rfl⟩ := hadmits
    have hmodest : Modest Plain (KeeperPoint.resume .disconnected (.ok answer)) := by
      refine .get_bind fun w => ?_
      split
      · exact .seq (note_quiet fun _ => rfl) fun _ => .seq clearCompanion_quiet fun _ => .finish _
      · exact .finish _
    exact .of_aloof (h.drop rfl rfl) (.of_modest hmodest) (.of_plain w (hmodest w).2)
  | vacated config =>
    obtain ⟨answer, rfl⟩ := hadmits
    exact renew_yields h hlistener answer
  | connected config =>
    obtain ⟨_ | _, rfl⟩ | ⟨what, rfl⟩ := hadmits
    · exact .vacate (h.act rfl rfl) rfl rfl
    · exact .leave (h.act rfl rfl) _
    · exact .leave (h.act rfl rfl) _
  | _ =>
    obtain ⟨answer, rfl⟩ := hadmits
    exact .leave (h.act rfl rfl) _

/-- Whatever a task does, the keeper goes on serving one at a time. -/
theorem resume_yields {result : Nat} {below : Expectation} (hkept : Kept counter (some result) [] Γ w)
    (hpasses : Γ.Passes counter result below point)
    (hadmits : Γ.Admits w.facts result point.expectation outcome) (h : Exclusive w false (point :: pts))
    (hcalled : ∀ t, point.ticket? = some t → ∃ answer, w.tasks.outcome? t = some (.ok answer)) :
    Yields w pts (point.resume outcome) := by
  cases hdeals : point.dealsWithKeeper with
  | false =>
    have hcourse := resume_course hkept hpasses hadmits (.refl _)
    have hneeds : point.holds = false ∧ point.ticket? = none := by
      cases point <;> first | exact ⟨rfl, rfl⟩ | cases hdeals
    exact .of_aloof (h.drop hneeds.1 hneeds.2) (resume_aloof hpasses hdeals)
      (.of_avoids (hcourse.keeps_shape hdeals).2)
  | true =>
    cases point with
    | start activity =>
      obtain ⟨answer, rfl⟩ := hadmits
      have hrest : Exclusive w false pts := h.drop rfl rfl
      cases activity with
      | ensure config => exact .takeTurn (isGate_admitted config) hrest
      | release => exact .takeTurn isGate_admittedToStop hrest
      | _ => cases hdeals
    | keeper point => exact keeperResume_yields h hadmits hkept.listener hcalled
    | _ => cases hdeals

/-! ## Tickets that tasks get -/

/-- Nothing stands below what somebody has called for. -/
theorem Ledger.Sits.eq_nil_of_result {below : Expectation}
    (h : expected below rest = .result) : rest = [] := by
  cases rest with
  | nil => rfl
  | cons other others =>
    have hother : other.expectation = .result := h
    unfold Point.expectation at hother
    split at hother <;> cases hother

/-- Who deals with the keeper gets no ticket. -/
theorem Course.not_ticket {f f' : Facts} {l l' : Layout} {keeperPoint : KeeperPoint} {next : Next}
    (h : Course f f' l (.keeper keeperPoint) outcome l' next) :
    ∀ other ∈ points next, other.ticket? = none := by
  have hunder : ∀ {inner : Next} {after : KeeperPoint}, Avoids Point.isKeeper inner →
      (Point.keeper after).ticket? = none →
      ∀ other ∈ points (inner.under (.keeper after)), other.ticket? = none := by
    intro inner after hinner hafter other hother
    rw [points_under, List.mem_append, List.mem_singleton] at hother
    rcases hother with hother | rfl
    · exact (NeedsNone.of_avoids hinner other hother).2
    · exact hafter
  cases h with
  | hears hpoint => cases hpoint
  | sends hasks => cases hasks
  | leaves => exact fun other hother => absurd hother List.not_mem_nil
  | renews h => exact hunder h.keeps_shape.2 rfl
  | vacates hpoint h =>
    rename_i after inner
    have hafter : (Point.keeper after).ticket? = none := by
      rcases hpoint with ⟨_, _, -, rfl⟩ | ⟨_, -, rfl⟩ | ⟨_, -, rfl⟩ | ⟨_, -, rfl⟩ <;> rfl
    cases h with
    | vacant => exact hunder (.go _) hafter
    | leaves _ h =>
      intro other hother
      rw [points_under, List.mem_append, List.mem_singleton] at hother
      rcases hother with hother | rfl
      · exact hunder h.keeps_shape.2 rfl other hother
      · exact hafter

/-- Who wants its turn does nothing else. -/
theorem takeTurn_queuesUp {gate : Option Nat → KeeperPoint} (hgate : IsGate gate) :
    QueuesUp ((takeTurn gate).run w).1 [] := by
  rw [takeTurn_run]
  split
  · intro other hother ticket hticket
    obtain rfl : other = .keeper (gate none) := List.mem_singleton.1 hother
    rw [hgate.ticket?] at hticket
    cases hticket
  · intro other hother ticket hticket
    obtain rfl : other = .keeper (gate (some w.tasks.promises.length)) := List.mem_singleton.1 hother
    rw [hgate.ticket?] at hticket
    obtain rfl := Option.some.inj hticket
    exact ⟨rfl, rfl⟩

/-- A task that acts gets a ticket only if it wants its turn and does nothing else. -/
theorem resume_queuesUp {result : Nat} {below : Expectation} (hkept : Kept counter (some result) [] Γ w)
    (hpasses : Γ.Passes counter result (expected below rest) point)
    (hadmits : Γ.Admits w.facts result point.expectation outcome)
    (hrest : ∀ other ∈ rest, other.ticket? = none) :
    QueuesUp ((point.resume outcome).run w).1 rest := by
  have hcourse := resume_course hkept hpasses hadmits (.refl _)
  have hnone : (∀ other ∈ points ((point.resume outcome).run w).1, other.ticket? = none) →
      QueuesUp ((point.resume outcome).run w).1 rest := by
    intro hnext other hother ticket hticket
    rcases List.mem_append.1 hother with hother | hother
    · rw [hnext other hother] at hticket
      cases hticket
    · rw [hrest other hother] at hticket
      cases hticket
  -- Whoever does not deal with the keeper cannot come to want a turn here.
  cases hdeals : point.dealsWithKeeper with
  | false =>
    have havoids : NeedsNone _ := .of_avoids (hcourse.keeps_shape hdeals).2
    exact hnone fun other hother => (havoids other hother).2
  | true =>
    cases point with
    | start activity =>
      obtain ⟨answer, rfl⟩ := hadmits
      have hbegins : counter.Begins activity (expected below rest) := hpasses
      have hresult : activity.callsOnKeeper = true → rest = [] := by
        refine fun hcalls => @Ledger.Sits.eq_nil_of_result _ below ?_
        generalize expected below rest = e at hbegins
        cases activity <;> cases hcalls <;> cases e <;> simp [Counter.Begins] at hbegins ⊢
      rw [hresult hdeals]
      cases activity with
      | ensure config => exact takeTurn_queuesUp (isGate_admitted config)
      | release => exact takeTurn_queuesUp isGate_admittedToStop
      | _ => cases hdeals
    | keeper point => exact hnone hcourse.not_ticket
    | _ => cases hdeals

/-! ## Runs -/

/-- The keeper serves one at a time, and who wants its turn waits for it. -/
structure TakesTurns (w : World) : Prop where
  /-- The keeper serves one at a time. -/
  exclusive : Exclusive w false w.allPoints
  /-- Whoever wants its turn waits for its ticket. -/
  queued : Queued w

/-- What is called for needs no turn before it has begun. -/
theorem Exclusive.spawn {acting : Bool} (h : Exclusive w acting pts) (activity : Activity) :
    Exclusive ((World.spawn activity).run w).2 acting pts := by
  have hoflt : ∀ {q : Nat}, q < w.tasks.promises.length →
      (w.tasks.spawn (.start activity)).2.outcome? q = w.tasks.outcome? q := by
    intro q hlt
    simp only [Scheduler.outcome?, Scheduler.spawn, List.getElem?_append_left hlt]
  have hlength : (w.tasks.spawn (.start activity)).2.promises.length = w.tasks.promises.length + 1 := by
    simp [Scheduler.spawn]
  have htargets : ∀ q ∈ ((World.spawn activity).run w).2.targets,
      q ∈ w.targets ∨ q = w.tasks.promises.length := by
    intro q hq
    have hgrows : w.tasks.Grows (fun _ => True) (fun _ => False)
        (w.tasks.spawn (.start activity)).2 := Scheduler.Grows.spawn .refl trivial
    rcases List.mem_append.1 hq with hq | hq
    · exact .inl (List.mem_append_left _ hq)
    · refine (hgrows.targets q hq).imp (List.mem_append_right _) fun hnew => ?_
      rw [hlength] at hnew
      omega
  -- The new promise is no ticket, and to begin a task calls nobody.
  refine ⟨h.holders, h.queued, h.distinct, fun t ht => ?_, fun t ht answer hok => ?_, fun q hq => ?_⟩
  · obtain ⟨hlt, hsafe⟩ := h.safe t ht
    refine ⟨Nat.lt_of_lt_of_eq (Nat.lt_succ_of_lt hlt) hlength.symm, fun hmem => ?_⟩
    rcases htargets t hmem with hmem | rfl
    · exact hsafe hmem
    · exact Nat.lt_irrefl _ hlt
  · exact h.called t ht answer ((hoflt (h.safe t ht).1).symm.trans hok)
  · refine Nat.lt_of_lt_of_eq ?_ hlength.symm
    rcases htargets q hq with hq | rfl
    · exact Nat.lt_succ_of_lt (h.known q hq)
    · exact Nat.lt_succ_self _

/-- A task that has acted goes on as told. -/
theorem Exclusive.proceed {next : Next} (ht : w.tasks.tasks[task]? = some t)
    (h : Exclusive w false (points next ++ t.stack ++ w.others task)) :
    Exclusive { w with tasks := w.tasks.proceed task next } false
      ({ w with tasks := w.tasks.proceed task next } : World).allPoints := by
  have hmoved : ∀ (t' : Tasks.Task Point) (running : Option Outcome), t'.result = t.result →
      t'.stack = points next ++ t.stack →
      Exclusive (w.moveTask task t' running) false (w.moveTask task t' running).allPoints := by
    intro t' running hresult hstack
    refine (exclusive_moveTask ht t' hresult (hstack.symm ▸ h)).of_perm ?_
    exact allPoints_moveTask ht
  rcases proceed_cases ht next with ⟨outcome, -, heq⟩ | ⟨promise, -, -, heq⟩ <;> rw [heq]
  · exact hmoved _ _ rfl rfl
  · let t' : Tasks.Task Point := { t with stack := points next ++ t.stack, waiting := some promise }
    have hobserved := (Background.refl (w.moveTask task t' none)).observe promise (.wake task)
      (by simp [Notice.target?])
    exact Sound.exclusive_of_drift (hmoved t' none rfl rfl) hobserved.toDrift rfl

namespace TakesTurns

/-- What does not concern the keeper and moves no task. -/
theorem drift (h : TakesTurns w) (hdrift : Drift none w w') (hkeeper : w'.keeper = w.keeper)
    (honward : Onward w.tasks w'.tasks) : TakesTurns w' :=
  ⟨Sound.exclusive_of_drift h.exclusive hdrift hkeeper, h.queued.onward honward⟩

/-- What goes on in the background and moves no task. -/
theorem background (h : TakesTurns w) (hback : Background w w') (honward : Onward w.tasks w'.tasks) :
    TakesTurns w' :=
  h.drift hback.toDrift (congrArg View.keeper hback.view) honward

/-- A task goes on where it stood. -/
theorem moveTask (h : TakesTurns w) (ht : w.tasks.tasks[task]? = some t) {t' : Tasks.Task Point}
    {running : Option Outcome} (hresult : t'.result = t.result)
    (hexclusive : Exclusive w false (t'.stack ++ w.others task))
    (hothers : ∀ other ≠ task, w.told? other = none) (hself : w.InLine running t'.standing) :
    TakesTurns (w.moveTask task t' running) :=
  ⟨(exclusive_moveTask ht t' hresult hexclusive).of_perm (allPoints_moveTask ht),
    h.queued.moveTask ht hothers hself⟩

/-- A task is woken. -/
theorem resume (h : TakesTurns w) (hbooks : Books counter none Γ w.facts w.tasks)
    (hidle : w.tasks.running = none) (task : Nat) :
    TakesTurns { w with tasks := w.tasks.resume task } := by
  refine ⟨?_, h.queued.resume hidle task⟩
  rcases w.tasks.resume_cases task with heq | ⟨t, t', outcome, ht, hresult, -, heq, hstack⟩ <;>
    rw [heq]
  · exact h.exclusive
  have hexclusive : Exclusive w false (t'.stack ++ w.others task) := by
    have hperm := h.exclusive.of_perm (allPoints_perm (standings_getElem? ht)).symm
    rcases hstack with ⟨hstack, -⟩ | ⟨hnil, hbegun⟩
    · rw [hstack]
      exact hperm
    · rw [hnil]
      refine hperm.remove fun point hpoint => ?_
      obtain ⟨activity, rfl⟩ := Ordered.eq_start_of_unbegun hbooks hidle ht hbegun point hpoint
      exact ⟨rfl, rfl⟩
  have hmoved : Exclusive (w.moveTask task t' (some outcome)) false
      (w.moveTask task t' (some outcome)).allPoints :=
    (exclusive_moveTask ht t' hresult hexclusive).of_perm (allPoints_moveTask ht)
  exact hmoved

/-- The task that runs goes on at a point. -/
theorem advance (h : TakesTurns w) (hordered : Ordered counter Γ w)
    (hrunning : w.tasks.running = some (task, outcome)) (ht : w.tasks.tasks[task]? = some t)
    (hstack : t.stack = point :: rest) : TakesTurns w.step := by
  obtain ⟨Γ', below, hpasses, hadmits, -, hmoves, -, -⟩ := hordered.advance hrunning ht hstack
  have hlt := (List.getElem?_eq_some_iff.1 (standings_getElem? ht)).1
  -- the task without its first point
  let popped : Tasks.Task Point := { t with stack := rest }
  let w₁ : World := w.moveTask task popped (some outcome)
  let next := ((point.resume outcome).run w₁).1
  let w₂ : World := ((point.resume outcome).run w₁).2
  have hothers₁ : w₁.others task = w.others task := others_moveTask
  have htold : ∀ other ≠ task, w.told? other = none := by
    intro other hne
    simp [told?, hrunning, Ne.symm hne]
  have hself : w.told? task = some outcome := by simp [told?, hrunning]
  have hqueues := h.queued task _ (standings_getElem? ht)
  rw [hself] at hqueues
  have hrest : ∀ other ∈ rest, other.ticket? = none := hqueues.not_ticket_below hstack
  have hcalled : ∀ ticket, point.ticket? = some ticket →
      ∃ answer, w₁.tasks.outcome? ticket = some (.ok answer) := by
    intro ticket hticket
    obtain ⟨answer, rfl⟩ : ∃ answer, outcome = .ok answer := by
      cases point with
      | keeper point => cases point <;> first | exact hadmits | cases hticket
      | _ => cases hticket
    exact hqueues.delivers hstack hticket answer rfl
  have hfirst : Exclusive w₁ false (point :: (rest ++ w.others task)) := by
    have hperm := allPoints_perm (standings_getElem? ht)
    rw [show t.standing.stack = point :: rest from hstack] at hperm
    exact exclusive_moveTask ht popped rfl (h.exclusive.of_perm hperm.symm)
  have hkept : Kept counter (some t.result) [] Γ w₁ := hordered.pop hrunning ht hstack
  obtain ⟨⟨called, hdrift⟩, hyields⟩ := resume_yields hkept hpasses hadmits hfirst hcalled
  have hlt₁ : task < w₁.tasks.standings.length := by
    rw [standings_moveTask, List.length_set]
    exact hlt
  obtain ⟨beginnings, hbeginnings, hstandings, hothers⟩ := Sound.others_of_drift hdrift task hlt₁
  -- it stands there still when it has acted
  have hs : w₂.tasks.standings[task]? = some popped.standing := by
    rw [hstandings, List.getElem?_append_left hlt₁, standings_moveTask, List.getElem?_set_self hlt]
  rw [Scheduler.standings, List.getElem?_map] at hs
  obtain ⟨t₂, ht₂, hstanding⟩ := Option.map_eq_some_iff.1 hs
  have hstack₂ : t₂.stack = rest := congrArg Standing.stack hstanding
  have hstep : w.step = { w₂ with tasks := w₂.tasks.proceed task next } :=
    step_of_point hrunning ht hstack
  rw [hstep]
  refine ⟨?_, ?_⟩
  · have hexclusive : Exclusive w₂ false (points next ++ t₂.stack ++ w₂.others task) := by
      refine (hyields.add fun other hother =>
        Sound.not_counted_of_isBeginning (hbeginnings other hother)).of_perm ?_
      rw [hstack₂, hothers, hothers₁, ← List.append_assoc, List.append_assoc (points next)]
      exact List.perm_append_comm
    exact hexclusive.proceed ht₂
  · have hin : w.InLine (some outcome) popped.standing := .of_none fun other hother => hrest other hother
    have hqueued₁ : Queued w₁ := h.queued.moveTask ht htold hin
    have hqueued₂ : Queued w₂ := hqueued₁.onward hmoves.onward
    have htold₂ : ∀ other ≠ task, w₂.told? other = none := by
      intro other hne
      simp [told?, show w₂.tasks.running = _ from hmoves.onward.running, World.moveTask, Ne.symm hne]
    refine hqueued₂.proceed ht₂ htold₂ ?_
    rw [hstack₂]
    exact resume_queuesUp hkept hpasses hadmits hrest

/-- The task that runs ends. -/
theorem finish (h : TakesTurns w) (hrunning : w.tasks.running = some (task, outcome))
    (ht : w.tasks.tasks[task]? = some t) (hstack : t.stack = []) : TakesTurns w.step := by
  have hsame : w.tasks.tasks.set task t = w.tasks.tasks := by
    obtain ⟨hlt, rfl⟩ := List.getElem?_eq_some_iff.1 ht
    exact List.set_getElem_self hlt
  have hends : ({ w with tasks := { w.tasks with running := none } } : World) =
      w.moveTask task t none := by
    simp [World.moveTask, hsame]
  have hmoved : TakesTurns (w.moveTask task t none) := by
    refine h.moveTask ht rfl (h.exclusive.of_perm (allPoints_perm (standings_getElem? ht)).symm)
      (fun other hne => ?_) (.of_none fun point hpoint => ?_)
    · simp [told?, hrunning, Ne.symm hne]
    · rw [show t.standing.stack = [] from hstack] at hpoint
      cases hpoint
  rw [step_of_nil hrunning ht hstack]
  rw [← hends] at hmoved
  refine hmoved.background ((Background.refl _).settle t.result outcome (.inr (.inl ?_))) (.settle _)
  exact List.mem_append_right _ (Scheduler.mem_targets.2 (.inr ⟨t, List.mem_of_getElem? ht, rfl⟩))

/-- What was queued happens. -/
theorem idle (h : TakesTurns w) (hordered : Ordered counter Γ w) (hidle : w.tasks.running = none) :
    TakesTurns w.step := by
  rw [step_of_idle hidle]
  cases htake : w.tasks.takeNotice with
  | none => exact h
  | some pair =>
    obtain ⟨notice, s⟩ := pair
    obtain ⟨hrunning, htasks, hpromises, -⟩ := Scheduler.takeNotice_same htake
    have honward : Onward w.tasks s := .of_tasks hrunning htasks fun q known hknown => by
      rwa [Scheduler.outcome?, hpromises]
    obtain ⟨hgrows, hready⟩ : w.tasks.Grows (·.isBeginning)
        (fun q => q ∈ w.targets ∨ none = some q) s ∧ notice ∈ w.tasks.ready :=
      Scheduler.Grows.takeNotice .refl htake
    have hback : Background w { w with tasks := s } := (Background.refl w).setTasks hgrows hgrows.promises
    -- what a notice settles was to be settled
    have htarget : ∀ q, notice.target? = some q → q ∈ w.targets := fun q hq =>
      List.mem_append_right _ (Scheduler.mem_targets.2
        (.inl ⟨notice, Scheduler.mem_notices.2 (.inl hready), hq⟩))
    have hsettles : ∀ q known, q ∈ w.targets → TakesTurns { w with tasks := s.settle q known } :=
      fun q known hq => h.background (hback.settle q known (.inr (.inl hq))) (honward.trans (.settle q))
    cases notice with
    | wake task =>
      obtain ⟨hbooks, -⟩ := hordered.kept.books.takeNotice htake
      have htaken : TakesTurns { w with tasks := s } := h.background hback honward
      exact htaken.resume (hbooks.grow (.of_tasks honward.outcomes)) (hrunning.trans hidle) task
    | release promise => exact hsettles promise _ (htarget _ rfl)
    | relay source target =>
      show TakesTurns (({ w with tasks := s } : World).perform (World.happen (.relay source target)))
      rw [perform_relay]
      cases ({ w with tasks := s } : World).tasks.outcome? source with
      | none => exact h.background hback honward
      | some known => exact hsettles target known (htarget _ rfl)
    | tally promise =>
      have hlength : Scheduler.Grows (·.isBeginning) (fun _ => True) s (s.countDown promise) :=
        Scheduler.Grows.countDown .refl (.inl trivial)
      exact h.background (hback.setTasks (hgrows.countDown (.inl (.inl (htarget _ rfl)))) hlength.promises)
        (honward.trans (.countDown promise))
    | hook hook =>
      obtain ⟨hbooks, -⟩ := hordered.kept.books.takeNotice htake
      obtain ⟨hposts, hsource⟩ := hordered.kept.posts.takeNotice htake
      have hkept : Kept counter none (Posts.dueAfter [] (.hook hook)) Γ { w with tasks := s } :=
        hordered.kept.setTasks (.refl : Γ.Extends none Γ) (Kept.backed_self Γ _) hbooks hposts
          honward.outcomes fun _ hq => absurd hq List.not_mem_nil
      obtain ⟨Γ', hmoves, -⟩ := Ordered.happenHook_minds hkept hsource
      exact h.background (hback.trans (Sound.happenHook_quiet hook _).1) (honward.trans hmoves.onward)

/-- What happens from outside. -/
theorem outside (h : TakesTurns w) (hordered : Ordered counter Γ w) (hstep : incident ≠ .step) :
    TakesTurns (w.perform (incident.act counter)) := by
  obtain ⟨Γ', hmoves, -⟩ := Ordered.act_minds hordered.kept hstep
  have hquiet : Quiet (incident.act counter) → TakesTurns (w.perform (incident.act counter)) :=
    fun hquiet => h.background (hquiet w).1 hmoves.onward
  cases incident with
  | step => exact absurd rfl hstep
  | call activity =>
    refine ⟨?_, h.queued.onward hmoves.onward⟩
    unfold Incident.act
    simp only
    split
    · have hpoints : (w.perform (discard (World.spawn activity))).allPoints =
          w.allPoints ++ [.start activity] := by
        show World.allPoints { w with tasks := (w.tasks.spawn (.start activity)).2 } = _
        simp [allPoints, Scheduler.standings, Scheduler.spawn, Tasks.Task.standing]
      have hadded : Exclusive (w.perform (discard (World.spawn activity))) false
          ([.start activity] ++ w.allPoints) :=
        (h.exclusive.spawn activity).add fun point hpoint => by
          rw [List.mem_singleton.1 hpoint]
          exact ⟨rfl, rfl⟩
      rw [hpoints]
      exact hadded.of_perm List.perm_append_comm
    · exact h.exclusive
  | notify number method params =>
    have hturns := notify_turns w number method params
    exact h.drift hturns.drift ((congrArg View.keeper hturns.view).trans (notify_keeper _ _ _ _))
      hmoves.onward
  | output process bytes => exact hquiet (writeOutput_quiet process bytes)
  | errors process bytes => exact hquiet (writeErrors_quiet process bytes)
  | fault process text => exact hquiet (breakOutput_quiet process text)
  | exit process code => exact hquiet (quit_quiet process code)
  | time moment => exact hquiet (Sound.moveTo_quiet moment)

/-- Whatever happens, the keeper goes on serving one at a time. -/
theorem undergo (h : TakesTurns w) (hordered : Ordered counter Γ w) (incident : Incident) :
    TakesTurns (w.undergo counter incident) := by
  unfold World.undergo
  split
  · cases hrunning : w.tasks.running with
    | none => exact h.idle hordered hrunning
    | some pair =>
      obtain ⟨task, outcome⟩ := pair
      obtain ⟨t, below, ht, -⟩ := hordered.exists_task hrunning
      cases hstack : t.stack with
      | nil => exact h.finish hrunning ht hstack
      | cons point rest => exact h.advance hordered hrunning ht hstack
  · exact h
  · rename_i hstep _
    exact h.outside hordered hstep

/-- Before anything has happened nobody wants their turn. -/
theorem fresh (htasks : w.tasks = {}) (hkeeper : w.keeper.busy = false ∧ w.keeper.tickets = [])
    (htargets : w.outerTargets = []) : TakesTurns w := by
  have hpoints : w.allPoints = [] := by simp [allPoints, Scheduler.standings, htasks]
  have htargets : w.targets = [] := by
    simp [targets, htargets, htasks, Scheduler.targets, Scheduler.notices]
  refine ⟨⟨?_, ?_, ?_, ?_, ?_, ?_⟩, ?_⟩
  · simp [hpoints, hkeeper.1]
  · simp [hpoints, hkeeper.2]
  · simp [hkeeper.2]
  · simp [hkeeper.2]
  · simp [hkeeper.2]
  · simp [htargets]
  · intro task s hs
    simp [Scheduler.standings, htasks] at hs

end TakesTurns

end BasiliskServer.World
