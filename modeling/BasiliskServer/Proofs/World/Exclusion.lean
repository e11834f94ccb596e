import BasiliskServer.Proofs.World.Stacks

/-!
# The keeper serves one at a time

Those who see to the connection take turns. Whoever finds the keeper free and nobody waiting begins
at once; everyone else leaves a ticket and waits until it is called. `Exclusive` is what makes this
work: the keeper is busy exactly if one task is at a point at which it has its turn, every ticket
belongs to one task that waits, and a ticket that was called is the first one and keeps the keeper
free for its task. Nothing that goes on in the background calls a ticket.
-/

namespace BasiliskServer.World

open Json (Value Fields)
open Tasks (Notice Scheduler)

/-- With tasks at the given points, the keeper serves one at a time; `acting` says that the action
that is under way has its turn. -/
structure Exclusive (w : World) (acting : Bool) (pts : List Point) : Prop where
  /-- The keeper is busy exactly if someone has their turn. -/
  holders : pts.countP Point.holds + acting.toNat = w.keeper.busy.toNat
  /-- The tickets are those of the tasks that wait. -/
  queued : (pts.filterMap Point.ticket?).Perm w.keeper.tickets
  /-- Every ticket is there once. -/
  distinct : w.keeper.tickets.Nodup
  /-- Nobody but the keeper settles a ticket. -/
  safe : ∀ t ∈ w.keeper.tickets, t < w.tasks.promises.length ∧ t ∉ w.targets
  /-- Only the first ticket is called, and then nobody has their turn. -/
  called : ∀ t ∈ w.keeper.tickets, ∀ answer, w.tasks.outcome? t = some (.ok answer) →
    w.keeper.busy = false ∧ w.keeper.tickets.head? = some t
  /-- What is going to be settled exists. -/
  known : ∀ q ∈ w.targets, q < w.tasks.promises.length

namespace Exclusive

variable {w w' : World} {acting : Bool} {called : Option Nat} {pts pts' : List Point}
  {point : Point}

/-! ## Points that come and go -/

theorem of_points (h : Exclusive w acting pts)
    (hholders : pts'.countP Point.holds = pts.countP Point.holds)
    (hqueued : (pts'.filterMap Point.ticket?).Perm (pts.filterMap Point.ticket?)) :
    Exclusive w acting pts' :=
  { h with holders := hholders ▸ h.holders, queued := hqueued.trans h.queued }

theorem of_perm (h : Exclusive w acting pts) (hperm : pts'.Perm pts) : Exclusive w acting pts' :=
  h.of_points (hperm.countP_eq _) (hperm.filterMap _)

/-- Points that need no care come. -/
theorem add {front : List Point} (h : Exclusive w acting pts)
    (hfront : ∀ point ∈ front, point.holds = false ∧ point.ticket? = none) :
    Exclusive w acting (front ++ pts) := by
  have hholders : front.countP Point.holds = 0 :=
    List.countP_eq_zero.2 fun point hpoint => by simp [(hfront point hpoint).1]
  have htickets : front.filterMap Point.ticket? = [] :=
    List.filterMap_eq_nil_iff.2 fun point hpoint => (hfront point hpoint).2
  refine h.of_points ?_ ?_
  · rw [List.countP_append, hholders, Nat.zero_add]
  · rw [List.filterMap_append, htickets, List.nil_append]

/-- A point that needs no care goes. -/
theorem drop (h : Exclusive w acting (point :: pts)) (hholds : point.holds = false)
    (hticket : point.ticket? = none) : Exclusive w acting pts := by
  refine h.of_points ?_ ?_
  · rw [List.countP_cons, hholds]
    simp
  · rw [List.filterMap_cons, hticket]

/-- Points that need no care go. -/
theorem remove {front : List Point} (h : Exclusive w acting (front ++ pts))
    (hfront : ∀ point ∈ front, point.holds = false ∧ point.ticket? = none) :
    Exclusive w acting pts := by
  induction front with
  | nil => exact h
  | cons point rest ih =>
    obtain ⟨hholds, hticket⟩ := hfront point List.mem_cons_self
    exact ih (h.drop hholds hticket) fun other hother =>
      hfront other (List.mem_cons_of_mem _ hother)

/-- The task at a point acts. -/
theorem act (h : Exclusive w false (point :: pts)) (hholds : point.holds)
    (hticket : point.ticket? = none) : Exclusive w true pts :=
  { h with
    holders := by simpa [hholds] using h.holders
    queued := by simpa [List.filterMap_cons, hticket] using h.queued }

/-- A task goes on at a point at which it keeps its turn. -/
theorem hold (h : Exclusive w true pts) (hholds : point.holds) (hticket : point.ticket? = none) :
    Exclusive w false (point :: pts) :=
  { h with
    holders := by simpa [hholds] using h.holders
    queued := by simpa [List.filterMap_cons, hticket] using h.queued }

/-- While someone acts, nobody else has their turn. -/
theorem holders_eq_zero (h : Exclusive w true pts) : pts.countP Point.holds = 0 := by
  have hle := Bool.toNat_le w.keeper.busy
  have hholders := h.holders
  simp only [Bool.toNat_true] at hholders
  omega

/-! ## Changes of the world -/

/-- Tasks are moved, and nothing happens to promises. -/
theorem of_promises (h : Exclusive w acting pts) (hkeeper : w'.keeper = w.keeper)
    (hpromises : w'.tasks.promises = w.tasks.promises) (htargets : ∀ q ∈ w'.targets, q ∈ w.targets) :
    Exclusive w' acting pts where
  holders := by rw [hkeeper]; exact h.holders
  queued := by rw [hkeeper]; exact h.queued
  distinct := by rw [hkeeper]; exact h.distinct
  safe := by
    rw [hkeeper, hpromises]
    exact fun t ht => ⟨(h.safe t ht).1, fun htarget => (h.safe t ht).2 (htargets t htarget)⟩
  called := by
    simp only [hkeeper, Scheduler.outcome?, hpromises]
    exact h.called
  known := by
    rw [hpromises]
    exact fun q hq => h.known q (htargets q hq)

/-- A ticket is called only by the keeper. -/
theorem ok_of_drift (h : Exclusive w acting pts) (hdrift : Drift called w w') {t : Nat}
    (ht : t ∈ w.keeper.tickets) {answer : Answer}
    (hok : w'.tasks.outcome? t = some (.ok answer)) :
    w.tasks.outcome? t = some (.ok answer) ∨ called = some t := by
  obtain ⟨hlt, hsafe⟩ := h.safe t ht
  rcases hdrift.tasks.settled t answer hok with hok | (htarget | hcalled) | hge
  · exact .inl hok
  · exact absurd htarget hsafe
  · exact .inr hcalled
  · omega

theorem safe_of_drift (h : Exclusive w acting pts) (hdrift : Drift called w w') {t : Nat}
    (ht : t ∈ w.keeper.tickets) : t < w'.tasks.promises.length ∧ t ∉ w'.targets := by
  obtain ⟨hlt, hsafe⟩ := h.safe t ht
  have hle := hdrift.tasks.promises
  refine ⟨by omega, fun htarget => ?_⟩
  rcases hdrift.targets htarget with htarget | ⟨hge, -⟩
  · exact hsafe htarget
  · omega

theorem known_of_drift (h : Exclusive w acting pts) (hdrift : Drift called w w') :
    ∀ q ∈ w'.targets, q < w'.tasks.promises.length := by
  intro q hq
  have hle := hdrift.tasks.promises
  rcases hdrift.targets hq with hq | ⟨-, hlt⟩
  · have := h.known q hq
    omega
  · exact hlt

/-- Something happens that does not concern the turns. -/
theorem drift (h : Exclusive w acting pts) (hdrift : Drift none w w')
    (hbusy : w'.keeper.busy = w.keeper.busy) (htickets : w'.keeper.tickets = w.keeper.tickets) :
    Exclusive w' acting pts where
  holders := by rw [hbusy, h.holders]
  queued := by rw [htickets]; exact h.queued
  distinct := by rw [htickets]; exact h.distinct
  safe := by rw [htickets]; exact fun t ht => h.safe_of_drift hdrift ht
  called := by
    rw [htickets, hbusy]
    intro t ht answer hok
    rcases h.ok_of_drift hdrift ht hok with hok | hcalled
    · exact h.called t ht answer hok
    · cases hcalled
  known := h.known_of_drift hdrift

/-- The turn of the acting task is over, and the first ticket may be called. -/
theorem leave (h : Exclusive w true pts) (hdrift : Drift w.keeper.tickets.head? w w')
    (hbusy : w'.keeper.busy = false) (htickets : w'.keeper.tickets = w.keeper.tickets) :
    Exclusive w' false pts where
  holders := by simp [h.holders_eq_zero, hbusy]
  queued := by rw [htickets]; exact h.queued
  distinct := by rw [htickets]; exact h.distinct
  safe := by rw [htickets]; exact fun t ht => h.safe_of_drift hdrift ht
  called := by
    rw [htickets]
    intro t ht answer hok
    refine ⟨hbusy, ?_⟩
    rcases h.ok_of_drift hdrift ht hok with hok | hcalled
    · exact (h.called t ht answer hok).2
    · exact hcalled
  known := h.known_of_drift hdrift

/-- The tickets that are left when one is taken away. -/
theorem queued_without {t : Nat} (h : Exclusive w acting (point :: pts))
    (hticket : point.ticket? = some t) :
    (pts.filterMap Point.ticket?).Perm (w.keeper.tickets.filter (· ≠ t)) := by
  have hqueued := h.queued
  rw [List.filterMap_cons, hticket] at hqueued
  have hnodup : (t :: pts.filterMap Point.ticket?).Nodup := hqueued.nodup_iff.2 h.distinct
  have hrest : (t :: pts.filterMap Point.ticket?).filter (· ≠ t) = pts.filterMap Point.ticket? := by
    have hne : ∀ q ∈ pts.filterMap Point.ticket?, q ≠ t := fun q hq heq =>
      (List.nodup_cons.1 hnodup).1 (heq ▸ hq)
    simpa using hne
  rw [← hrest]
  exact hqueued.filter _

theorem mem_tickets {t : Nat} (h : Exclusive w acting (point :: pts))
    (hticket : point.ticket? = some t) : t ∈ w.keeper.tickets := by
  refine h.queued.mem_iff.1 ?_
  simp [hticket]

/-- A task whose ticket was called begins its turn. -/
theorem enter {t : Nat} {answer : Answer} (h : Exclusive w false (point :: pts))
    (hholds : point.holds = false) (hticket : point.ticket? = some t)
    (hok : w.tasks.outcome? t = some (.ok answer)) (hdrift : Drift none w w')
    (hbusy : w'.keeper.busy = true)
    (htickets : w'.keeper.tickets = w.keeper.tickets.filter (· ≠ t)) :
    Exclusive w' true pts := by
  obtain ⟨hfree, hhead⟩ := h.called t (h.mem_tickets hticket) answer hok
  have hmem : ∀ q ∈ w'.keeper.tickets, q ∈ w.keeper.tickets ∧ q ≠ t := by
    rw [htickets]
    exact fun q hq => by simpa using hq
  refine ⟨?holders, ?queued, ?distinct, fun q hq => h.safe_of_drift hdrift (hmem q hq).1, ?called,
    h.known_of_drift hdrift⟩
  case holders =>
    have hholders := h.holders
    rw [List.countP_cons, hholds, hfree] at hholders
    simpa [hbusy] using hholders
  case queued =>
    rw [htickets]
    exact h.queued_without hticket
  case distinct =>
    rw [htickets]
    exact h.distinct.filter _
  case called =>
    -- only the ticket of this task was called
    intro q hq answer' hok'
    obtain ⟨hq, hne⟩ := hmem q hq
    rcases h.ok_of_drift hdrift hq hok' with hok' | hcalled
    · have hhead' := (h.called q hq answer' hok').2
      rw [hhead] at hhead'
      exact absurd (Option.some.inj hhead').symm hne
    · cases hcalled

/-- A task that has given up waiting takes its ticket away, and the first ticket may be called if
the keeper is free. -/
theorem withdraw {t : Nat} (h : Exclusive w false (point :: pts)) (hholds : point.holds = false)
    (hticket : point.ticket? = some t)
    (hdrift : Drift (if w.keeper.busy then none else w'.keeper.tickets.head?) w w')
    (hbusy : w'.keeper.busy = w.keeper.busy)
    (htickets : w'.keeper.tickets = w.keeper.tickets.filter (· ≠ t)) :
    Exclusive w' false pts := by
  have hmem : ∀ q ∈ w'.keeper.tickets, q ∈ w.keeper.tickets ∧ q ≠ t := by
    rw [htickets]
    exact fun q hq => by simpa using hq
  refine ⟨?holders, ?queued, ?distinct, fun q hq => h.safe_of_drift hdrift (hmem q hq).1, ?called,
    h.known_of_drift hdrift⟩
  case holders =>
    have hholders := h.holders
    rw [List.countP_cons, hholds] at hholders
    simpa [hbusy] using hholders
  case queued =>
    rw [htickets]
    exact h.queued_without hticket
  case distinct =>
    rw [htickets]
    exact h.distinct.filter _
  case called =>
    intro q hq answer hok
    rw [hbusy]
    obtain ⟨hq', hne⟩ := hmem q hq
    rcases h.ok_of_drift hdrift hq' hok with hok | hcalled
    · obtain ⟨hfree, hhead⟩ := h.called q hq' answer hok
      refine ⟨hfree, ?_⟩
      obtain ⟨rest, hrest⟩ := List.head?_eq_some_iff.1 hhead
      simp [htickets, hrest, hne]
    · split at hcalled
      · cases hcalled
      · rename_i hfree
        exact ⟨by simpa using hfree, hcalled⟩

end Exclusive

/-! ## Taking turns -/

theorem callFirst_turns (w : World) :
    Turns w.keeper.tickets.head? w w.view (fun _ => True) callFirst := by
  refine .get_bind ?_
  cases htickets : w.keeper.tickets with
  | nil => exact .pure trivial
  | cons ticket rest =>
    refine ⟨⟨.settle .refl (.inr (.inl (.inr rfl))), fun q hq => .inl hq⟩, rfl, trivial⟩

theorem leave_turns (w : World) :
    Turns w.keeper.tickets.head? w (w.view.setKeeper fun k => { k with busy := false })
      (fun _ => True) leave := by
  refine (updateKeeper_turns w _).weaken.bind fun _ w' hw' _ => ?_
  have hkeeper : w'.keeper = { w.keeper with busy := false } := congrArg View.keeper hw'
  have hcalled := callFirst_turns w'
  rw [hkeeper, hw'] at hcalled
  exact hcalled

theorem withdraw_turns (w : World) (ticket : Nat) :
    Turns (if w.keeper.busy then none else (w.keeper.tickets.filter (· ≠ ticket)).head?) w
      (w.view.setKeeper fun k => { k with tickets := k.tickets.filter (· ≠ ticket) })
      (fun _ => True) (withdraw (some ticket)) := by
  have hfilter : ∀ k : Keeper, k.tickets.filter (fun t => some t ≠ some ticket) =
      k.tickets.filter (· ≠ ticket) := by simp
  have hwithdrawn : Turns none w
      (w.view.setKeeper fun k => { k with tickets := k.tickets.filter (· ≠ ticket) })
      (fun _ => True)
      (updateKeeper fun k => { k with tickets := k.tickets.filter fun t => some t ≠ some ticket }) := by
    simp only [hfilter]
    exact updateKeeper_turns w _
  refine hwithdrawn.weaken.bind fun _ w' hw' _ => .get_bind ?_
  have hkeeper : w'.keeper =
      { w.keeper with tickets := w.keeper.tickets.filter (· ≠ ticket) } := congrArg View.keeper hw'
  rw [hkeeper, ← hw']
  cases w.keeper.busy with
  | true => exact .pure trivial
  | false =>
    have hcalled := callFirst_turns w'
    rw [hkeeper] at hcalled
    exact hcalled

/-- Whether the keeper is free and everyone who had a ticket has given up. -/
def isFree (w : World) : Bool :=
  !w.keeper.busy && w.keeper.tickets.all fun ticket =>
    w.tasks.outcome? ticket matches some (.error .cancelled)

theorem takeTurn_run (w : World) (point : Option Nat → KeeperPoint) :
    (takeTurn point).run w =
      if w.isFree then
        (.go (.ok .unit) [.keeper (point none)], { w with keeper := { w.keeper with busy := true } })
      else
        (.wait w.tasks.promises.length [.keeper (point (some w.tasks.promises.length))],
          { w with
            tasks := (w.tasks.addPromise 0).2
            keeper := { w.keeper with tickets := w.keeper.tickets ++ [w.tasks.promises.length] } })
    := by
  show (if w.isFree then _ else _ : Act Next).run w = _
  split <;> rfl

/-- Points at which a task waits for its turn, or has just got it. -/
structure IsGate (point : Option Nat → KeeperPoint) : Prop where
  /-- With a ticket the task waits. -/
  ticket? : ∀ ticket, (Point.keeper (point ticket)).ticket? = ticket
  /-- Without a ticket the task has its turn. -/
  holds : ∀ ticket, (Point.keeper (point ticket)).holds = ticket.isNone
  /-- The task relies on having its turn. -/
  expects : ∀ ticket, (Point.keeper (point ticket)).expects = some (ticket.elim .turn .ticket)

theorem isGate_admitted (config : Option Companion.Config) : IsGate (.admitted config) :=
  ⟨fun _ => rfl, fun ticket => by cases ticket <;> rfl, fun _ => rfl⟩

theorem isGate_admittedToStop : IsGate .admittedToStop :=
  ⟨fun _ => rfl, fun ticket => by cases ticket <;> rfl, fun _ => rfl⟩

/-- A task that wants its turn gets it at once or leaves a ticket. -/
theorem Exclusive.takeTurn {w : World} {pts : List Point} (h : Exclusive w false pts)
    {point : Option Nat → KeeperPoint} (hgate : IsGate point) :
    Exclusive ((World.takeTurn point).run w).2 false
      (points ((World.takeTurn point).run w).1 ++ pts) := by
  rw [takeTurn_run]
  split
  · rename_i hfree
    -- the keeper is free: the task goes on without a ticket
    obtain ⟨hbusy, hgone⟩ : w.keeper.busy = false ∧ ∀ t ∈ w.keeper.tickets,
        (w.tasks.outcome? t matches some (.error .cancelled)) = true := by
      simpa [isFree] using hfree
    have hholders := h.holders
    rw [hbusy] at hholders
    refine { h with holders := ?_, queued := ?_, called := ?_ }
    · simp only [points, List.singleton_append, List.countP_cons, hgate.holds]
      simpa using hholders
    · simpa only [points, List.singleton_append, List.filterMap_cons, hgate.ticket?] using h.queued
    · -- whoever has given up was not called
      intro t ht answer hok
      have hcancelled := hgone t ht
      rw [show w.tasks.outcome? t = some (.ok answer) from hok] at hcancelled
      cases hcancelled
  · have hfresh : w.tasks.promises.length ∉ w.keeper.tickets := fun hmem =>
      absurd (h.safe _ hmem).1 (Nat.lt_irrefl _)
    -- otherwise it waits for a new ticket, which nobody knows yet
    have hdrift : Drift none w { w with tasks := (w.tasks.addPromise 0).2 } :=
      ((Background.refl w).promise 0).toDrift
    have htargets : { w with tasks := (w.tasks.addPromise 0).2 : World }.targets = w.targets := by
      simp [targets, outerTargets, Scheduler.targets, Scheduler.notices, Scheduler.addPromise]
    have hlength : (w.tasks.addPromise 0).2.promises.length = w.tasks.promises.length + 1 := by
      simp [Scheduler.addPromise]
    refine ⟨?holders, ?queued, ?distinct, ?safe, ?called, ?known⟩
    case holders =>
      simp only [points, List.singleton_append, List.countP_cons, hgate.holds]
      simpa using h.holders
    case queued =>
      simp only [points, List.singleton_append, List.filterMap_cons, hgate.ticket?]
      exact (h.queued.cons _).trans (List.perm_append_singleton _ _).symm
    case distinct =>
      simpa [List.nodup_append, hfresh] using
        ⟨h.distinct, fun t ht heq => hfresh (heq ▸ ht)⟩
    case safe =>
      intro t ht
      show t < (w.tasks.addPromise 0).2.promises.length ∧
        t ∉ { w with tasks := (w.tasks.addPromise 0).2 : World }.targets
      rw [htargets, hlength]
      rcases List.mem_append.1 ht with ht | ht
      · obtain ⟨hlt, hsafe⟩ := h.safe t ht
        exact ⟨by omega, hsafe⟩
      · rw [List.mem_singleton.1 ht]
        exact ⟨Nat.lt_succ_self _, fun htarget => absurd (h.known _ htarget) (Nat.lt_irrefl _)⟩
    case called =>
      intro t ht answer hok
      rcases List.mem_append.1 ht with ht | ht
      · rcases h.ok_of_drift hdrift ht hok with hok | hcalled
        · obtain ⟨hfree, hhead⟩ := h.called t ht answer hok
          obtain ⟨rest, hrest⟩ := List.head?_eq_some_iff.1 hhead
          exact ⟨hfree, by simp [hrest]⟩
        · cases hcalled
      · -- the promise of the new ticket is open
        rw [List.mem_singleton.1 ht] at hok
        simp [Scheduler.outcome?, Scheduler.addPromise] at hok
    case known => exact fun q hq => h.known_of_drift hdrift q hq

/-- A task whose turn has come begins it. -/
theorem Exclusive.enters {w : World} {pts : List Point} {gate : Option Nat → KeeperPoint}
    (hgate : IsGate gate) {ticket : Option Nat} (h : Exclusive w false (.keeper (gate ticket) :: pts))
    (hcalled : ∀ t, ticket = some t → ∃ answer, w.tasks.outcome? t = some (.ok answer)) :
    Exclusive ((World.enter ticket).run w).2 true pts := by
  have hdrift : Drift none w ((World.enter ticket).run w).2 := (updateKeeper_turns w _).drift
  cases ticket with
  | none =>
    have hacts := h.act (by rw [hgate.holds]; rfl) (hgate.ticket? none)
    have hbusy : w.keeper.busy = true := by
      have hholders := hacts.holders
      cases hcase : w.keeper.busy with
      | true => rfl
      | false => simp [hcase] at hholders
    refine hacts.drift hdrift hbusy.symm ?_
    show w.keeper.tickets.filter _ = _
    simp
  | some t =>
    obtain ⟨answer, hok⟩ := hcalled t rfl
    refine h.enter (by rw [hgate.holds]; rfl) (hgate.ticket? (some t)) hok hdrift rfl ?_
    show w.keeper.tickets.filter _ = _
    simp

end BasiliskServer.World
