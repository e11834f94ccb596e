import BasiliskServer.Proofs.World.Admission

/-!
# One keeper, one process

However many callers deal with a keeper at a time, and whatever its processes do, at most one of the
processes that it has started is alive (`lone_companion`). Who has its turn is the only one to start or
stop a connection (`Minded.handlers_eq_nil`), and a connection that is starting or ready is the one
that the keeper has (`Custody`): where the keeper has none, all connections are stopped, and the next
one can start.
-/

namespace BasiliskServer.World

open Json (Value)

variable {Γ : Ledger} {counter : Counter} {w w' : World} {task : Nat} {t : Tasks.Task Point}
  {point : Point} {rest aside : List Point} {outcome : Outcome} {next : Next} {incident : Incident}

/-! ## Connections that are starting or ready -/

namespace Layout

variable {l l' l'' : Layout} {f f' : Facts} {number channel : Nat}

/-- A connection is starting or ready. -/
def IsLive (l : Layout) (number : Nat) : Prop :=
  l.IsIn .starting number ∨ l.IsIn .ready number

/-- The keeper has the connection that it had, and no connection starts or becomes ready that has not
begun to start. -/
structure Honours (l l' : Layout) : Prop where
  /-- The keeper has the connection that it had. -/
  kept : l'.kept = l.kept
  /-- No other connection starts. -/
  live : ∀ number, l'.IsLive number → l.IsLive number

namespace Honours

protected theorem refl (l : Layout) : l.Honours l :=
  ⟨rfl, fun _ h => h⟩

protected theorem trans (h : l.Honours l') (h' : l'.Honours l'') : l.Honours l'' :=
  ⟨h'.kept.trans h.kept, fun number hlive => h.live number (h'.live number hlive)⟩

theorem of_bonds (hkept : l'.kept = l.kept) (hbonds : l'.bonds = l.bonds) : l.Honours l' := by
  refine ⟨hkept, fun number hlive => ?_⟩
  unfold IsLive IsIn at hlive ⊢
  rwa [hbonds] at hlive

theorem setPipe (l : Layout) (channel : Nat) (change : Pipe → Pipe) :
    l.Honours (l.setPipe channel change) :=
  of_bonds rfl rfl

theorem say (l : Layout) (channel : Nat) (said : Option Json.Fields) : l.Honours (l.say channel said) := by
  unfold Layout.say
  split
  · unfold tell
    split
    · exact of_bonds rfl rfl
    · exact .refl l
  · exact .refl l

theorem ask (l : Layout) (room : Option Nat) (channel : Nat) (method : String) (params : Value)
    (answer : Nat) : l.Honours (l.ask room channel method params answer) := by
  unfold Layout.ask
  split
  · exact .refl l
  · exact (setPipe l channel _).trans (.say _ _ _)

theorem sayAll (l : Layout) (channel : Nat) (queue : List (String × Value)) :
    l.Honours (l.sayAll channel queue) := by
  induction queue generalizing l with
  | nil => exact .refl l
  | cons entry others ih => exact (say l channel _).trans (ih _)

/-- A connection changes, and does not begin to start. -/
theorem setBond (l : Layout) (number : Nat) {change : Bond → Bond}
    (h : ∀ bond, l.bonds[number]? = some bond →
      (change bond).phase = .starting ∨ (change bond).phase = .ready →
        bond.phase = .starting ∨ bond.phase = .ready) : l.Honours (l.setBond number change) := by
  have hback : ∀ {phase : Phase} {other : Nat}, phase = .starting ∨ phase = .ready →
      (l.setBond number change).IsIn phase other → l.IsLive other := by
    rintro phase other hphase ⟨bond, hbond, rfl⟩
    obtain ⟨old, hold, ⟨rfl, rfl⟩ | ⟨-, rfl⟩⟩ := Tasks.getElem?_modify_cases hbond
    · exact (h old hold hphase).imp (⟨old, hold, ·⟩) (⟨old, hold, ·⟩)
    · exact hphase.imp (⟨_, hold, ·⟩) (⟨_, hold, ·⟩)
  exact ⟨rfl, fun other hlive => hlive.elim (hback (.inl rfl)) (hback (.inr rfl))⟩

theorem reset (l : Layout) (number : Nat) : l.Honours (l.reset number) :=
  setBond l number fun _ _ h => by rcases h with h | h <;> cases h

theorem clear (l : Layout) (number : Nat) : l.Honours (l.clear number) :=
  setBond l number fun _ _ h => h

theorem rejectOn (l : Layout) (channel : Option Nat) (failure : Failure) :
    l.Honours (l.rejectOn channel failure) := by
  cases channel with
  | none => exact .refl l
  | some channel => exact setPipe l channel _

/-- A connection becomes ready that has begun to start. -/
theorem welcome {bond : Bond} (hbond : l.bonds[number]? = some bond) (hphase : bond.phase = .starting) :
    l.Honours (l.welcome number channel bond) := by
  have hready : l.Honours (l.setPhase number .ready) := setBond l number fun old hold _ => by
    obtain rfl := Option.some.inj (hbond.symm.trans hold)
    exact .inl hphase
  exact ((hready.trans (.say _ _ _)).trans (.clear _ _)).trans (.sayAll _ _ _)

/-- A connection is stopped, with what is told of it. -/
theorem stopping (l : Layout) (number : Nat) :
    l.Honours (l.setPhase number .stopping) ∧ ¬ (l.setPhase number .stopping).IsLive number := by
  refine ⟨setBond l number fun _ _ h => (by rcases h with h | h <;> cases h), ?_⟩
  rintro (⟨bond, hbond, hphase⟩ | ⟨bond, hbond, hphase⟩) <;>
    obtain ⟨old, hold, ⟨-, rfl⟩ | ⟨hne, -⟩⟩ := Tasks.getElem?_modify_cases hbond <;>
    first | cases hphase | exact hne rfl

end Honours

theorem Loses.honours {code : Option Int} (h : l.Loses channel code l') : l.Honours l' := by
  have hshut : l.Honours ((l.shut channel).carry channel none) := .of_bonds rfl rfl
  cases h with
  | expected => exact .refl l
  | unheard => exact hshut
  | stopping => exact (hshut.trans (.rejectOn _ _ _)).trans (.clear _ _)
  | stops =>
    exact (((hshut.trans (.rejectOn _ _ _)).trans (.clear _ _)).trans (.reset _ _)).trans
      (.of_bonds rfl rfl)

theorem Subsides.honours (h : l.Subsides channel l' next) : l.Honours l' := by
  cases h with
  | now => exact .setPipe l channel _
  | waits => exact .refl l

theorem Closes.honours (h : l.Closes f channel l' next) : l.Honours l' := by
  cases h with
  | bare => exact .refl l
  | subsides _ _ h => exact (Honours.setPipe l channel _).trans h.honours
  | asks => exact .setPipe l channel _

theorem Disconnects.honours (h : l.Disconnects f number l' next) :
    l.Honours l' ∧ ¬ l'.IsLive number := by
  have hdead : ∀ {phase : Phase}, l.IsIn phase number → phase ≠ .starting → phase ≠ .ready →
      ¬ l.IsLive number := by
    rintro phase ⟨bond, hbond, rfl⟩ hstarting hready
      (⟨other, hother, hphase⟩ | ⟨other, hother, hphase⟩) <;>
      obtain rfl := Option.some.inj (hbond.symm.trans hother)
    · exact hstarting hphase
    · exact hready hphase
  obtain ⟨hhonours, hstopping⟩ := Honours.stopping l number
  -- A connection that is being stopped is not live, and nothing that follows makes it live again.
  cases h with
  | keeps h =>
    refine ⟨.refl l, ?_⟩
    rcases h with hnone | hin
    · rintro (⟨bond, hbond, -⟩ | ⟨bond, hbond, -⟩) <;> rw [hnone] at hbond <;> cases hbond
    · exact hdead hin nofun nofun
  | clears h =>
    exact ⟨.clear l number, fun hlive => hdead h nofun nofun ((Honours.clear l number).live _ hlive)⟩
  | parts =>
    exact ⟨hhonours.trans (.ask ..), fun hlive => hstopping ((Honours.ask ..).live _ hlive)⟩
  | closes _ _ _ hcloses =>
    cases hcloses with
    | nothing => exact ⟨hhonours, hstopping⟩
    | closes hcloses =>
      exact ⟨hhonours.trans hcloses.honours, fun hlive => hstopping (hcloses.honours.live _ hlive)⟩

/-- Only the connection that is started begins to start. -/
theorem Connects.lives (h : l.Connects number l' next) :
    l'.kept = l.kept ∧ ∀ other, l'.IsLive other → other = number ∨ l.IsLive other := by
  cases h with
  | keeps => exact ⟨rfl, fun other hlive => .inr hlive⟩
  | begins =>
    refine ⟨rfl, fun other hlive => ?_⟩
    by_cases heq : other = number
    · exact .inl heq
    · right
      refine hlive.imp ?_ ?_ <;> rintro ⟨bond, hbond, hphase⟩ <;>
        obtain ⟨old, hold, ⟨rfl, -⟩ | ⟨-, rfl⟩⟩ := Tasks.getElem?_modify_cases hbond <;>
        first | exact absurd rfl heq | exact ⟨_, hold, hphase⟩

/-- A connection that is made is stopped. -/
theorem isLive_of_addBond {config : Companion.Config} {listener : Listener} {kept : Option Nat}
    (h : ({ l.addBond config listener with kept } : Layout).IsLive number) : l.IsLive number := by
  refine h.imp ?_ ?_ <;> rintro ⟨bond, hbond, hphase⟩ <;>
    rw [show ({ l.addBond config listener with kept } : Layout).bonds = l.bonds ++ [_] from rfl,
      List.getElem?_append] at hbond <;> split at hbond <;>
    first
      | exact ⟨bond, hbond, hphase⟩
      | (rw [List.mem_singleton.1 (List.mem_of_getElem? hbond)] at hphase; cases hphase)

theorem Hears.honours (h : l.Hears l') : l.Honours l' :=
  .of_bonds (by rw [h.rest]) (by rw [h.rest])

theorem Notifies.honours {method : String} {params : Value} (h : l.Notifies number method params l') :
    l.Honours l' := by
  cases h with
  | tells => exact .say _ _ _
  | refuses => exact .refl l
  | drops => exact .refl l
  | queues => exact .setBond l number fun _ _ h => h

end Layout

/-- Who neither deals with the keeper nor starts a connection leaves the keeper its connection. -/
theorem Course.honours {f f' : Facts} {l l' : Layout} (h : Course f f' l point outcome l' next)
    (hpoint : point.dealsWithKeeper = false) (hconnect : ∀ number, point ≠ .start (.connect number)) :
    l.Honours l' := by
  cases h with
  | hears _ _ hhears => exact hhears.honours
  | loses _ hloses => exact hloses.honours
  | sends => exact .ask ..
  | connects => exact absurd rfl (hconnect _)
  | disconnects hdisconnects => exact hdisconnects.honours.1
  | launches => exact .of_bonds rfl rfl
  | opens => exact .setPipe _ _ _
  | complies _ hsubsides => exact hsubsides.honours
  | buries hsubsides => exact hsubsides.honours
  | rests => exact .setPipe _ _ _
  | greets => exact .ask ..
  | falters => exact .setPipe _ _ _
  | abandons _ hcloses => exact hcloses.honours
  | fails => exact .reset _ _
  | welcomes hbond hphase => exact .welcome hbond hphase
  | refuses _ hcloses => exact hcloses.honours
  | dismisses => exact .reset _ _
  | parts _ hcloses => exact (Layout.Honours.say _ _ _).trans hcloses.honours
  | closed => exact (Layout.Honours.rejectOn _ _ _).trans (.reset _ _)
  | comes hactivity => rcases hactivity with ⟨_, _, rfl, -⟩ | ⟨_, rfl, -⟩ <;> cases hpoint
  | vacates => cases hpoint
  | renews => cases hpoint
  | leaves => cases hpoint
  | _ => exact .refl _

/-! ## Who has its turn -/

theorem Point.holds_of_readiness (h : point.expectation = .readiness) : point.holds = true := by
  unfold Point.expectation at h
  split at h <;> first | rfl | cases h

theorem Point.eq_of_departure (h : point.expectation = .departure) : point = .keeper .disconnected := by
  unfold Point.expectation at h
  split at h <;> first | rfl | cases h

theorem Point.holds_of_vacancy (h : point.expectation = .vacancy) : point.holds = true := by
  unfold Point.expectation at h
  split at h <;> first | rfl | cases h

/-- What only those rely on who deal with the keeper. -/
theorem Expectation.Suits.eq_of_keeper {e other : Expectation} (h : Expectation.Suits .keeper e other)
    (he : e = .readiness ∨ e = .departure ∨ e = .vacancy ∨ e = .result) : other = e := by
  cases h with
  | same => rfl
  | gone => rcases he with h | h | h | h <;> cases h
  | readiness h => cases h
  | departure h => cases h

section

variable {result : Nat} {below : Expectation} (hbelow : below.IsFinal)

include hbelow

/-- Who stops a connection does so for somebody who has their turn, and who has nothing else to do. -/
theorem Ledger.Sits.vacancy_holder
    (h : Γ.Sits .keeper result below (.keeper .disconnected :: rest)) :
    ∃ holder, rest = [holder] ∧ holder.holds = true := by
  obtain ⟨holder, others, rfl, hvacancy⟩ := h.feeds hbelow rfl
    (fun _ hsuits => hsuits.eq_of_keeper (.inr (.inr (.inl rfl)))) (by rintro (h | h | ⟨_, h⟩) <;> cases h)
  have hresult : holder.delivery? = some .result := by
    unfold Point.expectation at hvacancy
    split at hvacancy <;> first | rfl | cases hvacancy
  have hothers : expected below others = .result := by
    have hpasses := h.2.1
    obtain ⟨e, he, hsuits⟩ : ∃ e, holder.delivery? = some e ∧
        Expectation.Suits .keeper e (expected below others) := by
      cases holder with
      | keeper point => exact hpasses
      | _ => cases Point.holds_of_vacancy hvacancy
    obtain rfl := Option.some.inj (hresult.symm.trans he)
    exact hsuits.eq_of_keeper (.inr (.inr (.inr rfl)))
  obtain rfl : others = [] := eq_nil_of_result hothers
  exact ⟨holder, rfl, Point.holds_of_vacancy hvacancy⟩

/-- Who starts or stops a connection does so for somebody who has their turn. -/
theorem Ledger.Sits.exists_holder {stack : List Point} (h : Γ.Sits .keeper result below stack)
    (hmem : point ∈ stack) (hhandling : point.isHandling = true) :
    ∃ holder ∈ stack, holder.holds = true := by
  obtain ⟨front, rest, rfl⟩ := List.append_of_mem hmem
  have hsits := (Ledger.sits_append.1 h).2
  suffices hrest : ∃ holder ∈ rest, holder.holds = true by
    obtain ⟨holder, hholder, hholds⟩ := hrest
    exact ⟨holder, List.mem_append_right _ (List.mem_cons_of_mem _ hholder), hholds⟩
  have hdelivery : point.delivery? = some .readiness ∨ point.delivery? = some .departure := by
    cases point with
    | connection point => cases point <;> first | exact .inl rfl | exact .inr rfl | cases hhandling
    | _ => cases hhandling
  rcases hdelivery with hdelivery | hdelivery
  · obtain ⟨holder, others, rfl, hreadiness⟩ := hsits.feeds hbelow hdelivery
      (fun _ hsuits => hsuits.eq_of_keeper (.inl rfl)) (by rintro (h | h | ⟨_, h⟩) <;> cases h)
    exact ⟨holder, List.mem_cons_self, Point.holds_of_readiness hreadiness⟩
  · obtain ⟨other, others, rfl, hdeparture⟩ := hsits.feeds hbelow hdelivery
      (fun _ hsuits => hsuits.eq_of_keeper (.inr (.inl rfl))) (by rintro (h | h | ⟨_, h⟩) <;> cases h)
    obtain rfl := Point.eq_of_departure hdeparture
    obtain ⟨holder, rfl, hholds⟩ := hsits.2.vacancy_holder hbelow
    exact ⟨holder, List.mem_cons_of_mem _ List.mem_cons_self, hholds⟩

end

/-- At any other point a task has its turn or a ticket. -/
theorem KeeperPoint.eq_disconnected {keeperPoint : KeeperPoint}
    (hholds : (Point.keeper keeperPoint).holds = false)
    (hticket : (Point.keeper keeperPoint).ticket? = none) : keeperPoint = .disconnected := by
  cases keeperPoint with
  | disconnected => rfl
  | admitted config ticket => cases ticket <;> simp [Point.holds, Point.ticket?] at hholds hticket
  | admittedToStop ticket => cases ticket <;> simp [Point.holds, Point.ticket?] at hholds hticket
  | _ => cases hholds

/-- While a task deals with the keeper, whoever else has its turn would be one too many. -/
theorem TakesTurns.not_holder {keeperPoint : KeeperPoint} (h : TakesTurns w)
    (hordered : Ordered .keeper Γ w) (hrunning : w.tasks.running = some (task, outcome))
    (ht : w.tasks.tasks[task]? = some t) (hstack : t.stack = .keeper keeperPoint :: rest) :
    (∀ holder ∈ w.others task, holder.holds = false) ∧
      ((∃ holder ∈ rest, holder.holds = true) → keeperPoint = .disconnected ∧ rest.length = 1) := by
  obtain ⟨same, below, hsame, ⟨purpose, -, hfinal⟩, hsits, htold⟩ := hordered.exists_task hrunning
  obtain rfl := Option.some.inj (ht.symm.trans hsame)
  rw [hstack] at hsits htold
  have hbelow : below.IsFinal := Ordered.below_cases hfinal
  have hadmits := htold.resolve_left (List.cons_ne_nil _ _)
  have hexclusive : Exclusive w false (.keeper keeperPoint :: (rest ++ w.others task)) := by
    have hperm := allPoints_perm (standings_getElem? ht)
    rw [show t.standing.stack = .keeper keeperPoint :: rest from hstack] at hperm
    exact h.exclusive.of_perm hperm.symm
  have hcount := hexclusive.holders
  have hbusy := Bool.toNat_le w.keeper.busy
  simp only [Bool.toNat_false, Nat.add_zero, List.countP_cons, List.countP_append] at hcount
  have hnone : rest.countP Point.holds + (w.others task).countP Point.holds = 0 →
      (∀ holder ∈ w.others task, holder.holds = false) ∧
      ((∃ holder ∈ rest, holder.holds = true) → keeperPoint = .disconnected ∧ rest.length = 1) := by
    intro hzero
    refine ⟨fun holder hholder => ?_, fun hholder => ?_⟩
    · simpa using List.countP_eq_zero.1 (by omega) holder hholder
    · have hpos := List.countP_pos_iff.2 hholder
      omega
  cases hholds : (Point.keeper keeperPoint).holds with
  | true =>
    rw [hholds] at hcount
    exact hnone (by simp only [if_true] at hcount; omega)
  | false =>
    cases hticket : (Point.keeper keeperPoint).ticket? with
    | some ticket =>
      -- a ticket is called only when nobody has their turn
      have hqueues := h.queued task _ (standings_getElem? ht)
      rw [show w.told? task = some outcome by simp [told?, hrunning]] at hqueues
      obtain ⟨answer, rfl⟩ : ∃ answer, outcome = .ok answer := by
        cases keeperPoint <;> first | exact hadmits | cases hticket
      obtain ⟨known, hknown⟩ := hqueues.delivers hstack hticket answer rfl
      have hfree := (hexclusive.called ticket (hexclusive.mem_tickets hticket) known hknown).1
      rw [hfree] at hcount
      exact hnone (by simp only [Bool.toNat_false] at hcount; omega)
    | none =>
      obtain rfl := KeeperPoint.eq_disconnected hholds hticket
      obtain ⟨holder, rfl, hholder⟩ := hsits.vacancy_holder hbelow
      refine ⟨fun other hother => ?_, fun _ => ⟨rfl, rfl⟩⟩
      simp only [List.countP_singleton, hholder, if_true] at hcount
      simpa using List.countP_eq_zero.1 (by omega) other hother

theorem exists_task_of_others (hmem : point ∈ w.others task) :
    ∃ (other : Nat) (t' : Tasks.Task Point), w.tasks.tasks[other]? = some t' ∧ point ∈ t'.stack ∧
      ∀ q ∈ t'.stack, q ∈ w.others task := by
  obtain ⟨s, hs, hpoint⟩ := List.mem_flatMap.1 hmem
  obtain ⟨other, -, hother⟩ := List.mem_eraseIdx_iff_getElem?.1 hs
  obtain ⟨t', ht', rfl⟩ := Option.map_eq_some_iff.1 ((List.getElem?_map ..).symm.trans hother)
  exact ⟨other, t', ht', hpoint, fun q hq => List.mem_flatMap.2 ⟨_, hs, hq⟩⟩

/-- While a task deals with the keeper, nobody starts or stops a connection. -/
theorem TakesTurns.handlers_eq_nil {keeperPoint : KeeperPoint} (h : TakesTurns w)
    (hordered : Ordered .keeper Γ w) (hacting : w.acting? = some (.keeper keeperPoint, outcome)) :
    w.handlers = [] := by
  obtain ⟨task, t, rest, hrunning, ht, hstack⟩ := exists_task_of_acting hacting
  obtain ⟨hothers, hrest⟩ := h.not_holder hordered hrunning ht hstack
  -- Whoever starts or stops a connection does so for somebody whose turn it is, and that one acts.
  refine List.filter_eq_nil_iff.2 fun point hpoint hhandling => ?_
  have hmem := (allPoints_perm (standings_getElem? ht)).mem_iff.1 (List.mem_of_mem_filter hpoint)
  rw [show t.standing.stack = t.stack from rfl, hstack, List.cons_append, List.mem_cons,
    List.mem_append] at hmem
  rcases hmem with rfl | hmem | hmem
  · cases hhandling
  · obtain ⟨below, ⟨purpose, -, hfinal⟩, hsits, -⟩ := hordered.kept.books.tasks task t ht
    rw [hstack] at hsits
    have hbelow : below.IsFinal := Ordered.below_cases hfinal
    obtain ⟨-, hlength⟩ := hrest (hsits.2.exists_holder hbelow hmem hhandling)
    obtain ⟨holder, rfl⟩ := List.length_eq_one_iff.1 hlength
    obtain ⟨other, hother, hholds⟩ := hsits.2.exists_holder hbelow hmem hhandling
    rw [List.mem_singleton.1 hother, ← List.mem_singleton.1 hmem] at hholds
    cases point with
    | keeper point => cases hhandling
    | _ => cases hholds
  · obtain ⟨other, t', ht', hin, hstands⟩ := exists_task_of_others hmem
    obtain ⟨below, ⟨purpose, -, hfinal⟩, hsits, -⟩ := hordered.kept.books.tasks other t' ht'
    obtain ⟨holder, hholder, hholds⟩ :=
      hsits.exists_holder (Ordered.below_cases hfinal) hin hhandling
    rw [hothers holder (hstands holder hholder)] at hholds
    cases hholds

/-- At most one task has its turn. -/
theorem TakesTurns.countP_holds_le (h : TakesTurns w) : w.places.countP Point.holds ≤ 1 := by
  have hholders := h.exclusive.holders
  have hbusy := Bool.toNat_le w.keeper.busy
  have hle : w.places.countP Point.holds ≤ w.allPoints.countP Point.holds :=
    List.filter_sublist.countP_le
  simp only [Bool.toNat_false, Nat.add_zero] at hholders
  omega

/-! ## The connection of the keeper -/

/-- A connection that is starting or ready is the one that the keeper has. -/
structure Custody (w : World) : Prop where
  /-- The keeper has every connection that is starting or ready. -/
  live : ∀ number, w.layout.IsLive number → w.layout.kept = some number
  /-- Who is about to make another connection has let the old one go. -/
  vacated : ∀ config, .keeper (.vacated config) ∈ w.places → w.layout.kept = none

theorem Point.isPivotal_of_dealsWithKeeper (h : point.dealsWithKeeper = true) :
    point.isPivotal = true := by
  cases point with
  | start activity => cases activity <;> first | rfl | cases h
  | keeper point => rfl
  | _ => cases h

/-- Only the keeper starts and stops connections. -/
theorem Acts.not_handles {activity : Activity}
    (hacts : Acts .keeper w w' (.start activity) outcome rest aside next) (number : Nat) :
    activity ≠ .connect number ∧ activity ≠ .disconnect number := by
  obtain ⟨Γ, result, below, ⟨hpasses, -⟩, -⟩ := hacts.sits
  have hbegins : Counter.keeper.Begins activity (expected below rest) := hpasses
  generalize expected below rest = e at hbegins
  refine ⟨?_, ?_⟩ <;> rintro rfl <;> cases e <;> simp [Counter.Begins, Counter.offers] at hbegins

namespace Custody

theorem of_honours (h : Custody w) (hhonours : w.layout.Honours w'.layout)
    (hplaces : ∀ config, .keeper (.vacated config) ∈ w'.places →
      .keeper (.vacated config) ∈ w.places) : Custody w' where
  live := fun number hlive => by
    rw [hhonours.kept]
    exact h.live number (hhonours.live number hlive)
  vacated := fun config hmem => by
    rw [hhonours.kept]
    exact h.vacated config (hplaces config hmem)

theorem drifts {notice : Option (Nat × String × Value)} (hdrifts : Drifts w w' notice) (h : Custody w) :
    Custody w' := by
  refine h.of_honours ?_ fun config hmem => hdrifts.places.mem_iff.1 hmem
  rcases hdrifts.layout with hhears | ⟨_, _, _, -, hnotifies⟩
  · exact hhears.honours
  · exact hnotifies.honours

/-- The keeper goes on having every connection that is starting or ready. -/
theorem acts (hacts : Acts .keeper w w' point outcome rest aside next) (hturns : TakesTurns w)
    (h : Custody w) : Custody w' := by
  -- where tasks stand that have not acted, or where this one goes on
  have hstand : ∀ config, .keeper (.vacated config) ∈ w'.places →
      .keeper (.vacated config) ∈ points next ∨
        .keeper (.vacated config) ∈ rest.filter Point.isLater ++ aside := by
    intro config hmem
    rw [hacts.after.mem_iff, List.mem_append, List.filter_append, List.mem_append] at hmem
    rcases hmem with (hnext | hrest) | haside
    · exact .inl (List.mem_of_mem_filter hnext)
    · exact .inr (List.mem_append_left _ hrest)
    · exact .inr (List.mem_append_right _ haside)
  have hbefore : ∀ other ∈ rest.filter Point.isLater ++ aside, other ∈ w.places := by
    intro other hother
    refine hacts.before.mem_iff.2 (List.mem_append.2 ?_)
    rcases List.mem_append.1 hother with hother | hother
    · obtain ⟨hmem, hlater⟩ := List.mem_filter.1 hother
      exact .inl (List.mem_filter.2 ⟨List.mem_cons_of_mem _ hmem, hlater⟩)
    · exact .inr hother
  cases hdeals : point.dealsWithKeeper with
  | false =>
    refine h.of_honours (hacts.course.honours hdeals ?_) fun config hmem => ?_
    · rintro number rfl
      exact (hacts.not_handles number).1 rfl
    · refine (hstand config hmem).elim (fun hnext => ?_) (hbefore _)
      cases (hacts.course.keeps_shape hdeals).2 _ hnext
  | true =>
    have hcourse := hacts.course
    generalize hl' : w'.layout = l' at hcourse
    have hsame : l' = w.layout → (∀ config, .keeper (.vacated config) ∉ points next) → Custody w' := by
      intro heq hnext
      refine h.of_honours (by rw [hl', heq]; exact .refl _) fun config hmem => ?_
      exact (hstand config hmem).elim (fun hin => absurd hin (hnext config)) (hbefore _)
    cases hcourse with
    | comes hactivity hnext =>
      obtain ⟨minor, hpoints, hminor⟩ := hnext
      refine hsame rfl fun config hmem => ?_
      rw [hpoints, List.mem_append, List.mem_singleton] at hmem
      rcases hmem with hmem | hmem
      · cases hminor _ hmem
      · rcases hactivity with ⟨_, _, -, rfl⟩ | ⟨_, -, rfl⟩ <;> cases hmem
    | leaves => exact hsame rfl fun config hmem => absurd hmem List.not_mem_nil
    | vacates hpoint hvacates =>
      have hnone : w'.layout.kept = none ∧ ∀ number, ¬ w'.layout.IsLive number := by
        rw [hl']
        cases hvacates with
        | vacant hkept =>
          refine ⟨hkept, fun number hlive => ?_⟩
          have heq := h.live number hlive
          rw [hkept] at heq
          cases heq
        | leaves hkept hleaves =>
          obtain ⟨hhonours, hdead⟩ := hleaves.honours
          refine ⟨hhonours.kept, fun number hlive => ?_⟩
          have heq := h.live number (hhonours.live number hlive)
          rw [hkept] at heq
          obtain rfl := Option.some.inj heq
          exact hdead hlive
      exact ⟨fun number hlive => absurd hlive (hnone.2 number), fun _ _ => hnone.1⟩
    | renews hrenews =>
      rename_i config listener answer inner
      have hvacant : w.layout.kept = none := h.vacated config (hacts.mem rfl)
      have hnobody : ∀ number, ¬ w.layout.IsLive number := fun number hlive => by
        have heq := h.live number hlive
        rw [hvacant] at heq
        cases heq
      -- nobody else is about to make a connection
      have hsole : ∀ other ∈ rest.filter Point.isLater ++ aside, other.holds = false := by
        have hperm : w.places.Perm (.keeper (.vacated config) :: (rest.filter Point.isLater ++ aside)) :=
          hacts.before
        have hcount := hturns.countP_holds_le
        rw [hperm.countP_eq, List.countP_cons_of_pos rfl] at hcount
        exact fun other hother => by simpa using List.countP_eq_zero.1 (by omega) other hother
      refine ⟨?_, fun config' hmem => ?_⟩
      · rw [hl']
        obtain ⟨hkept, hstarts⟩ := hrenews.lives
        intro number hlive
        rw [hkept]
        rcases hstarts number hlive with rfl | hold
        · rfl
        · exact absurd (Layout.isLive_of_addBond hold) (hnobody number)
      · exfalso
        rcases hstand config' hmem with hnext | hother
        · rw [points_under, List.mem_append, List.mem_singleton] at hnext
          rcases hnext with hnext | hnext
          · cases hrenews.keeps_shape.2 _ hnext
          · cases hnext
        · cases hsole _ hother
    | hears hpoint => rw [Point.isPivotal_of_dealsWithKeeper hdeals] at hpoint; cases hpoint
    | sends hasks => cases hasks <;> cases hdeals
    | _ => cases hdeals

end Custody

/-! ## Runs of the keeper -/

/-- Whoever writes everything can greet a process. -/
theorem canGreet_of_free (h : w.layout.IsFree) (point : Point) : CanGreet w point := by
  rintro number channel - bond hbond pipe -
  rw [h number bond hbond]
  rfl

/-- A keeper whose connections start and stop in turns. -/
structure Minded (w : World) : Prop where
  /-- Everything is in order. -/
  ordered : ∃ Γ, Ordered .keeper Γ w
  /-- The keeper serves one at a time. -/
  turns : TakesTurns w
  /-- The keeper has the connection that is starting or ready. -/
  custody : Custody w
  /-- At most one process is alive. -/
  single : Single w.layout.shape w.done w.places w.hinge?
  /-- It can be told from who has its turn how far connections are. -/
  serial : Serial False w.layout.shape w.hinge? w.handlers
  /-- Connections write everything. -/
  free : w.layout.IsFree

namespace Minded

/-- While a task deals with the keeper, nobody starts or stops a connection. -/
theorem handlers_eq_nil {keeperPoint : KeeperPoint} (h : Minded w)
    (hacting : w.acting? = some (.keeper keeperPoint, outcome)) : w.handlers = [] := by
  obtain ⟨Γ, hordered⟩ := h.ordered
  exact h.turns.handlers_eq_nil hordered hacting

/-- A connection starts only where nobody starts or stops one and all are stopped. -/
theorem clears (h : Minded w) (hacts : Acts .keeper w w' point outcome rest aside next) :
    Clears w point := by
  refine ⟨fun number heq => ?_, fun config heq => ?_⟩
  · subst heq
    exact absurd rfl (hacts.not_handles number).1
  subst heq
  obtain ⟨Γ, hordered⟩ := h.ordered
  have hnobody := h.handlers_eq_nil hacts.acting
  refine ⟨hordered.clear_points hnobody, fun number stage hstage => ?_⟩
  have hserial := h.serial
  rw [hnobody] at hserial
  cases hserial with
  | calm hsettled =>
    obtain hstopped | hready | ⟨-, hnever⟩ := hsettled.phase_cases hstage
    · exact hstopped
    · -- a connection that is ready is kept
      have hlive : w.layout.IsLive number := .inr (Layout.isIn_iff.2 ⟨stage.channel, by
        rw [Shape.IsAt, hstage, ← hready]⟩)
      have hkept := h.custody.live number hlive
      rw [h.custody.vacated config (hacts.mem rfl)] at hkept
      cases hkept
    · exact hnever.elim

/-- The keeper lets a connection go only where nobody starts or stops one. -/
theorem alternates (h : Minded w) (hacts : Acts .keeper w w' point outcome rest aside next) :
    Alternates w point := by
  rintro (⟨number, rfl⟩ | ⟨keeperPoint, rfl⟩)
  · exact absurd rfl (hacts.not_handles number).2
  · exact h.handlers_eq_nil hacts.acting

/-- Whatever happens, connections go on to start and stop in turns. -/
theorem undergo (h : Minded w) (incident : Incident) : Minded (w.undergo .keeper incident) := by
  obtain ⟨Γ, hordered⟩ := h.ordered
  obtain ⟨Γ', -, -, hordered'⟩ := hordered.undergo incident
  have hturns := h.turns.undergo hordered incident
  rcases hordered.shifts incident with heq | ⟨point, outcome, rest, aside, next, rfl, hacts⟩ | hdrifts
  · rw [heq]
    exact h
  · exact ⟨⟨Γ', hordered'⟩, hturns, h.custody.acts hacts h.turns, h.single.acts hacts (h.clears hacts),
      h.serial.acts hacts (h.clears hacts) (h.alternates hacts)
        (.inl (canGreet_of_free h.free point)) h.single,
      hacts.course.retains.free h.free⟩
  · exact ⟨⟨Γ', hordered'⟩, hturns, h.custody.drifts hdrifts, h.single.drifts hdrifts,
      h.serial.drifts hdrifts, hdrifts.retains.free h.free⟩

theorem undergoAll (h : Minded w) (incidents : List Incident) :
    Minded (w.undergoAll .keeper incidents) := by
  induction incidents generalizing w with
  | nil => exact h
  | cons incident rest ih => exact ih (h.undergo incident)

/-- Before anything has happened. -/
theorem ofKeeper (host : Files.Host) (companions : List CompanionScript) (observed : Bool) :
    Minded (World.ofKeeper host companions observed) where
  ordered := ⟨{}, Ordered.fresh rfl rfl rfl (fun c hc => absurd hc List.not_mem_nil) rfl rfl⟩
  turns := TakesTurns.fresh rfl ⟨rfl, rfl⟩ rfl
  custody := by
    refine ⟨?_, fun config hmem => absurd hmem List.not_mem_nil⟩
    rintro number (⟨_, hbond, -⟩ | ⟨_, hbond, -⟩) <;> cases hbond
  single := .fresh rfl rfl fun number stage hstage => by cases hstage
  serial := .calm fun number stage hstage => by cases hstage
  free := fun number bond hbond => by cases hbond

end Minded

/-- **One keeper, one process.** However many callers ask a keeper for companion processes or want none
at a time, and whatever processes do, at most one of them is alive at any time. -/
theorem lone_companion (host : Files.Host) {companions : List CompanionScript} (observed : Bool)
    (incidents : List Incident)
    (hreachable : ∀ script ∈ companions, script.isUnreachable = false) :
    ((World.ofKeeper host companions observed).undergoAll .keeper incidents).aliveCount ≤ 1 := by
  have hfresh : Minded (World.ofKeeper host companions observed) := .ofKeeper host companions observed
  obtain ⟨Γ, hordered⟩ := hfresh.ordered
  have hreach : Reachable (World.ofKeeper host companions observed) :=
    ⟨hreachable, fun _ _ hmem => absurd hmem List.not_mem_nil⟩
  exact aliveCount_le_one (hfresh.undergoAll incidents).single (hreach.undergoAll hordered incidents)

/-- Two ask for different companion processes at a time: while the first one is starting its process,
the second one waits, and has its own turn after that process has ended. -/
def contended : List Incident :=
  [.call (.ensure (some { path := "clangd" })), .call (.ensure (some { path := "other" }))] ++
    List.replicate 16 .step ++ .exit 0 1 :: List.replicate 24 .step

theorem lone_companion_contended :
    let w := (World.ofKeeper {} ([0].map lateScript) true).undergoAll .keeper contended
    w.processes.length = 2 ∧ w.aliveCount = 1 ∧ w.aliveCount ≤ 1 := by
  have hreachable : ∀ script ∈ [0].map lateScript, script.isUnreachable = false := by decide
  exact ⟨by decide +kernel, by decide +kernel, lone_companion {} true contended hreachable⟩

end BasiliskServer.World
