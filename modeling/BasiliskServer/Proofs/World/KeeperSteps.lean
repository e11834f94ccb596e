import BasiliskServer.Proofs.World.Steps

/-!
# What a task does at the points of the keeper

A task that has its turn lets go of the connection that is kept, makes and starts another one, and
ends its turn. While it has its turn, nobody else has one and no connection starts, so that letting
go leaves no connection behind that is starting or ready.
-/

namespace BasiliskServer.World

open Json (Value Fields)

namespace Handles

variable {w : World} {pts : List Point} {below : Option Role} {announcing : Bool}
  {edit : Option (String × Sync)} {act : Act Next}

/-- An activity that goes on at a point afterwards. -/
theorem under {next : Point} (h : Handles w (next :: pts) next.expects announcing edit act) :
    Handles w pts next.reports announcing edit (World.under next act) := by
  obtain ⟨hdrift, hcoherent, hexclusive, hreaches, hdeed⟩ := h
  have hpoints : points (((World.under next act).run w).1) ++ pts =
      points (act.run w).1 ++ next :: pts := by
    rw [show ((World.under next act).run w).1 = (act.run w).1.under next from rfl, points_under,
      List.append_assoc]
    rfl
  have hflag : isAnnouncing next.reports ((World.under next act).run w).1 =
      isAnnouncing next.expects (act.run w).1 := by
    show isAnnouncing next.reports ((act.run w).1.under next) = _
    cases (act.run w).1 with
    | wait promise front => rfl
    | go outcome front =>
      simp only [Tasks.Next.under, isAnnouncing, lead_append]
      rfl
  -- The world is the same either way; only what is expected below tells the two apart.
  refine ⟨hdrift, hpoints ▸ hcoherent, hpoints ▸ hexclusive, ?_, hflag ▸ hdeed⟩
  show Reaches (act.run w).2 next.reports ((act.run w).1.under next)
  cases hnext : (act.run w).1 with
  | wait promise front =>
    rw [hnext] at hreaches
    exact ⟨fits_append.2 ⟨hreaches.1, rfl, trivial⟩, by rw [lead_append]; exact hreaches.2⟩
  | go outcome front =>
    rw [hnext] at hreaches
    exact ⟨fits_append.2 ⟨hreaches.1, rfl, trivial⟩, by rw [lead_append]; exact hreaches.2⟩

/-- After a change of the keeper that does not concern the connection. -/
theorem after_keeper {change : Keeper → Keeper} {α : Type} {first : Act α} {rest : α → Act Next}
    {post : α → Prop} (hturns : Turns none w (w.view.setKeeper change) post first)
    (hsame : (change w.keeper).connection = w.keeper.connection)
    (h : Handles (first.run w).2 pts below announcing edit (rest (first.run w).1)) :
    Handles w pts below announcing edit (first >>= rest) := by
  obtain ⟨called, hdrift⟩ := h.drift
  refine ⟨⟨called, hturns.drift.weaken.trans hdrift⟩, h.coherent, h.exclusive, h.reaches, ?_⟩
  have hdeed := h.deed
  rw [hturns.view] at hdeed
  exact hdeed.of_setKeeper hsame

end Handles

/-! ## Letting go of a connection -/

/-- Where a connection that was the only live one has been ended, none is live. -/
theorem not_isLive_of_ended {v : View} {number : Nat} (honly : ∀ other, v.IsLive other → other = number)
    {ending : Link → Link} (hending : ∀ link, v.links[number]? = some link →
      (ending link).phase ≠ .starting ∧ (ending link).phase ≠ .ready) (other : Nat) :
    ¬ (v.setLink number ending).IsLive other := by
  intro hlive
  have hlive' : v.IsLive other ∧ other ≠ number := by
    rcases hlive with ⟨link, hlink, hphase⟩ | ⟨link, hlink, hphase⟩ <;>
      rw [View.links_setLink] at hlink <;>
      obtain ⟨link₀, hlink₀, rfl⟩ := Option.map_eq_some_iff.1 hlink <;>
      by_cases heq : number = other
    · subst heq
      rw [if_pos rfl] at hphase
      exact absurd hphase (hending link₀ hlink₀).1
    · rw [if_neg heq] at hphase
      exact ⟨.inl ⟨link₀, hlink₀, hphase⟩, fun h => heq h.symm⟩
    · subst heq
      rw [if_pos rfl] at hphase
      exact absurd hphase (hending link₀ hlink₀).2
    · rw [if_neg heq] at hphase
      exact ⟨.inr ⟨link₀, hlink₀, hphase⟩, fun h => heq h.symm⟩
  exact hlive'.2 (honly other hlive'.1)

/-- How a connection that is let go leaves: nothing is starting or ready any more, and the task that
stops it waits at points that it can rely on. -/
theorem departure_coherent {v next : View} {pts rest : List Point} {number : Nat}
    (h : Coherent v pts) (hkept : v.keeper.connection = some number) {change : Keeper → Keeper}
    (hnone : (change v.keeper).connection = none)
    (hlistener : (change v.keeper).listener = v.keeper.listener)
    (hdeparture : Departure (v.setKeeper change) number next rest) :
    Coherent next pts ∧ v.Aside next ∧ next.keeper = change v.keeper ∧
      ∀ point ∈ rest, next.Places point ∧ point.holds = false ∧ point.ticket? = none ∧
        point.expects = none ∧ point.reports = none := by
  have honly : ∀ other, v.IsLive other → other = number := by
    intro other hlive
    have hother := h.kept other hlive
    rw [hkept] at hother
    exact (Option.some.inj hother).symm
  have hrelease : (∀ link, v.links[number]? = some link →
      link.phase ≠ .starting ∧ link.phase ≠ .ready) → Coherent (v.setKeeper change) pts := by
    intro hdead
    refine h.release (fun other hlive => ?_) hnone hlistener
    obtain rfl := honly other hlive
    rcases hlive with ⟨link, hlink, hphase⟩ | ⟨link, hlink, hphase⟩
    · exact (hdead link hlink).1 hphase
    · exact (hdead link hlink).2 hphase
  -- after a change that ends the connection nothing is starting or ready
  have hceased : ∀ ending : Link → Link, (∀ link, v.links[number]? = some link →
      (ending link).phase ≠ .starting ∧ (ending link).phase ≠ .ready) →
      (∀ link, (ending link).room = link.room) →
      Coherent ((v.setKeeper change).setLink number ending) pts ∧
        v.Aside ((v.setKeeper change).setLink number ending) ∧
        ∀ other, ¬ ((v.setKeeper change).setLink number ending).IsLive other := by
    intro ending hending hroom
    have hended : Coherent (v.setLink number ending) pts := h.setLink hending hroom
    have hdead : ∀ other, ¬ (v.setLink number ending).IsLive other := not_isLive_of_ended honly hending
    exact ⟨hended.release hdead hnone hlistener,
      (View.aside_setLink hending).trans (View.aside_release hnone), hdead⟩
  have hstopping : ∀ link : Link, ({ link with phase := .stopping } : Link).phase ≠ .starting ∧
      ({ link with phase := .stopping } : Link).phase ≠ .ready := by simp
  cases hdeparture with
  | none hlink =>
    have hdead : ∀ link, v.links[number]? = some link →
        link.phase ≠ .starting ∧ link.phase ≠ .ready := fun link hlink' => by
      rw [show v.links[number]? = none from hlink] at hlink'
      cases hlink'
    exact ⟨hrelease hdead, View.aside_release hnone, rfl, by simp⟩
  | @leaving link hlink hphase =>
    have hdead : ∀ link', v.links[number]? = some link' →
        link'.phase ≠ .starting ∧ link'.phase ≠ .ready := fun link' hlink' => by
      rw [show v.links[number]? = some link from hlink] at hlink'
      obtain rfl := Option.some.inj hlink'
      simp [hphase]
    exact ⟨hrelease hdead, View.aside_release hnone, rfl, by simp⟩
  | @ended link hlink hphase =>
    obtain ⟨hcoherent, haside, -⟩ := hceased (fun l => { l with queue := [] }) (fun link' hlink' => by
      rw [show v.links[number]? = some link from hlink] at hlink'
      obtain rfl := Option.some.inj hlink'
      simp [hphase]) fun _ => rfl
    exact ⟨hcoherent, haside, rfl, by simp⟩
  | @parting link channel hlink hphase hchannel =>
    obtain ⟨hcoherent, haside, -⟩ := hceased (fun l => { l with phase := .stopping })
      (fun link _ => hstopping link) fun _ => rfl
    refine ⟨hcoherent, haside, rfl, fun point hpoint => ?_⟩
    rw [List.mem_singleton.1 hpoint]
    refine ⟨?_, rfl, rfl, rfl, rfl⟩
    obtain ⟨channel', process, hchannel', hline, -⟩ := h.served number link hlink hphase
    rw [hchannel] at hchannel'
    obtain rfl := Option.some.inj hchannel'
    have hlinked : ((v.setKeeper change).setLink number fun l =>
        { l with phase := .stopping }).links[number]? = some { link with phase := .stopping } := by
      rw [View.links_setLink, hlink]
      simp
    exact ⟨_, _, hlinked, hline, rfl, by simp, by simp⟩
  | @closing link channel ending hlink hchannel hending =>
    obtain ⟨hcoherent, haside, hdead⟩ := hceased (fun l => { l with phase := .stopping })
      (fun link _ => hstopping link) fun _ => rfl
    have hspare : Spare ((v.setKeeper change).setLink number fun l =>
        { l with phase := .stopping }) pts channel :=
      ⟨fun other link hlink hphase => absurd (.inr ⟨link, hlink, hphase⟩) (hdead other),
        fun point _ other _ hin => hdead other (.inl hin)⟩
    refine ⟨hcoherent.setLine hspare hending, haside.trans (View.aside_setLine hspare.ready), rfl,
      fun point hpoint => ?_⟩
    rw [List.mem_singleton.1 hpoint]
    exact ⟨trivial, rfl, rfl, rfl, rfl⟩
  | bare hlink hchannel =>
    obtain ⟨hcoherent, haside, -⟩ := hceased (fun l => { l with phase := .stopping })
      (fun link _ => hstopping link) fun _ => rfl
    refine ⟨hcoherent, haside, rfl, fun point hpoint => ?_⟩
    rw [List.mem_singleton.1 hpoint]
    exact ⟨trivial, rfl, rfl, rfl, rfl⟩

/-- The keeper lets go of its connection, and the task goes on at a point at which it keeps its
turn. -/
theorem vacate_handles {w : World} {pts : List Point} (hcoherent : Coherent w.view pts)
    (hexclusive : Exclusive w true pts) (next : Point) (hholds : next.holds)
    (hticket : next.ticket? = none) (hexpects : next.expects = none)
    (hplaced : ∀ v : View, v.keeper.connection = none → v.Places next) :
    Handles w pts next.reports false none (under next vacate) := by
  -- the point at which it goes on has the turn that the task had
  have hhold : ∀ w' : World, Drift none w w' →
      w'.keeper = { w.keeper with connection := none, fingerprint := none } →
      Exclusive w' false (next :: pts) := fun w' hdrift hkeeper =>
    (hexclusive.drift hdrift (by rw [hkeeper]) (by rw [hkeeper])).hold hholds hticket
  have hcleared := updateKeeper_turns w fun k => { k with connection := none, fingerprint := none }
  cases hkept : w.keeper.connection with
  | none =>
    have hturns : Turns none w (w.view.setKeeper fun k =>
        { k with connection := none, fingerprint := none })
        (Leads (w.view.setKeeper fun k => { k with connection := none, fingerprint := none }) [next])
        (under next vacate) := by
      have hvacated : Turns none w (w.view.setKeeper fun k =>
          { k with connection := none, fingerprint := none }) Plain vacate := by
        refine .get_bind (hcleared.seq_modest fun _ => ?_)
        rw [hkept]
        exact .finish _
      exact hvacated.under fun other hother => (Leads.of_plain hother).under next
    -- without a connection that is kept, none is live
    have hdead : ∀ number, ¬ w.view.IsLive number := fun number hlive => by
      have heq := hcoherent.kept number hlive
      rw [show w.view.keeper.connection = none from hkept] at heq
      cases heq
    refine .of_leads hturns (hcoherent.release hdead rfl rfl) ?_ (fun w' hdrift hview => ?_)
      ⟨rfl, trivial⟩ hexpects (.aside (View.aside_release rfl))
    · intro other hother
      rw [List.mem_singleton.1 hother]
      exact hplaced _ rfl
    · exact hhold w' hdrift (congrArg View.keeper hview)
  | some number =>
    -- the connection is let go of first, and told to stop while nobody keeps it
    obtain ⟨v, rest, hdeparture, hturns⟩ := disconnect_turns
      ((updateKeeper fun k => { k with connection := none, fingerprint := none }).run w).2 number
    rw [hcleared.view] at hdeparture
    obtain ⟨hv, haside, hkeeper, hrest⟩ :=
      departure_coherent hcoherent hkept rfl rfl hdeparture
    have hleads : Turns none w v (Leads v (rest ++ [.keeper .disconnected] ++ [next]))
        (under next vacate) := by
      have hvacated : Turns none w v (Leads v (rest ++ [.keeper .disconnected])) vacate := by
        refine .get_bind (.bind_run hcleared.drift ?_)
        rw [hkept]
        exact hturns.under fun other hother => hother.under _
      exact hvacated.under fun other hother => hother.under next
    have hroles : ∀ point ∈ rest ++ [.keeper .disconnected],
        point.expects = none ∧ point.reports = none := by
      intro point hpoint
      rcases List.mem_append.1 hpoint with hpoint | hpoint
      · exact (hrest point hpoint).2.2.2
      · rw [List.mem_singleton.1 hpoint]
        exact ⟨rfl, rfl⟩
    obtain ⟨hfits, hlead⟩ := fits_of_roles hroles
    refine .of_leads hleads hv ?_ (fun w' hdrift hview => ?_) ?_ ?_ (.aside haside)
    · intro point hpoint
      rcases List.mem_append.1 hpoint with hpoint | hpoint
      · rcases List.mem_append.1 hpoint with hpoint | hpoint
        · exact (hrest point hpoint).1
        · rw [List.mem_singleton.1 hpoint]
          trivial
      · rw [List.mem_singleton.1 hpoint]
        exact hplaced _ (by rw [hkeeper])
    · rw [List.append_assoc]
      refine (hhold w' hdrift
        ((congrArg View.keeper hview).trans hkeeper)).add fun point hpoint => ?_
      rcases List.mem_append.1 hpoint with hpoint | hpoint
      · exact ⟨(hrest point hpoint).2.1, (hrest point hpoint).2.2.1⟩
      · rw [List.mem_singleton.1 hpoint]
        exact ⟨rfl, rfl⟩
    · rw [fits_append, show lead next.reports [next] = none from hexpects]
      exact ⟨hfits, rfl, trivial⟩
    · rw [lead_append, show lead next.reports [next] = none from hexpects, hlead]

/-! ## Taking turns -/

/-- The turn of the task is over, and an outcome is passed on. -/
theorem leave_handles {w : World} {pts : List Point} (hcoherent : Coherent w.view pts)
    (hexclusive : Exclusive w true pts) {below : Option Role} {announcing : Bool}
    {outcome : Outcome} (hdelivers : ∀ w', Delivers w' outcome below)
    (hannounces : announces below outcome = announcing) :
    Handles w pts below announcing none (do
      leave
      give outcome) := by
  have hturns : Turns w.keeper.tickets.head? w (w.view.setKeeper fun k => { k with busy := false })
      (· = .go outcome []) (do
        leave
        give outcome) :=
    (leave_turns w).seq_modest fun _ => .pure rfl
  refine .of_go hturns (hcoherent.setKeeper rfl rfl) (fun w' hdrift hview => ?_)
    (fun w' _ => hdelivers w') ?_
  · have hkeeper : w'.keeper = { w.keeper with busy := false } := congrArg View.keeper hview
    exact hexclusive.leave hdrift (by rw [hkeeper]) (by rw [hkeeper])
  · rw [hannounces]
    cases announcing with
    | true => exact .pass rfl rfl (View.service_setKeeper rfl)
    | false => exact .aside (View.aside_setKeeper rfl)

/-- A task wants its turn. -/
theorem takeTurn_handles {w : World} {point : Point} {pts : List Point} (h : Stands w point pts)
    (hholds : point.holds = false) (hticket : point.ticket? = none)
    {gate : Option Nat → KeeperPoint} (hgate : IsGate gate) {below : Option Role}
    (hreports : ∀ ticket, (Point.keeper (gate ticket)).reports = below)
    (hplaced : ∀ (v : View) ticket, v.Places (.keeper (gate ticket))) :
    Handles w pts below false none (takeTurn gate) := by
  have hexclusive := (h.exclusive.drop hholds hticket).takeTurn hgate
  have hpromise := ((Background.refl w).promise 0).toDrift
  rw [takeTurn_run] at hexclusive
  -- A keeper that is free is taken at once, and otherwise
  -- a ticket is left. Neither shows in documents.
  by_cases hfree : w.isFree
  · rw [if_pos hfree] at hexclusive
    refine ⟨⟨none, ?_⟩, ?_, ?_, ?_, ?_⟩ <;> rw [takeTurn_run, if_pos hfree]
    · exact (Drift.refl w).of_tasks_eq rfl fun _ hq => .inl hq
    · have hcoherent : Coherent (w.view.setKeeper fun k => { k with busy := true }) pts :=
        h.coherent_rest.setKeeper rfl rfl
      refine hcoherent.add fun other hother => ?_
      rw [List.mem_singleton.1 hother]
      exact hplaced _ _
    · exact hexclusive
    · refine ⟨⟨hreports _, trivial⟩, ?_⟩
      rw [show lead below [.keeper (gate none)] = _ from hgate.expects none]
      exact ⟨_, rfl⟩
    · have hflag : announces (lead below [.keeper (gate none)]) (.ok .unit) = false := by
        rw [show lead below [.keeper (gate none)] = _ from hgate.expects none]
        rfl
      show Deed _ _ _ _ (announces (lead below [.keeper (gate none)]) (.ok .unit))
      have haside : w.view.Aside (w.view.setKeeper fun k => { k with busy := true }) :=
        View.aside_setKeeper rfl
      rw [hflag]
      exact .aside haside
  · rw [if_neg hfree] at hexclusive
    refine ⟨⟨none, ?_⟩, ?_, ?_, ?_, ?_⟩ <;> rw [takeTurn_run, if_neg hfree]
    · exact hpromise.of_tasks_eq rfl fun _ hq => .inl hq
    · have hcoherent : Coherent (w.view.setKeeper fun k =>
          { k with tickets := k.tickets ++ [w.tasks.promises.length] }) pts :=
        h.coherent_rest.setKeeper rfl rfl
      refine hcoherent.add fun other hother => ?_
      rw [List.mem_singleton.1 hother]
      exact hplaced _ _
    · exact hexclusive
    · refine ⟨⟨hreports _, trivial⟩, ?_⟩
      rw [show lead below [.keeper (gate (some w.tasks.promises.length))] = _ from
        hgate.expects (some w.tasks.promises.length)]
      exact rfl
    · have haside : w.view.Aside (w.view.setKeeper fun k =>
          { k with tickets := k.tickets ++ [w.tasks.promises.length] }) := View.aside_setKeeper rfl
      exact .aside haside

/-- It is the task's turn. -/
theorem enter_exclusive {w : World} {pts : List Point} {gate : Option Nat → KeeperPoint}
    (hgate : IsGate gate) {ticket : Option Nat} (h : Stands w (.keeper (gate ticket)) pts)
    {answer : Answer} (hdelivers : Delivers w (.ok answer) (some (ticket.elim .turn .ticket))) :
    Exclusive ((enter ticket).run w).2 true pts := by
  refine h.exclusive.enters hgate ?_
  rintro t rfl
  exact hdelivers answer rfl

/-- A task with its turn acts. -/
theorem enter_handles {w : World} {pts : List Point} {gate : Option Nat → KeeperPoint}
    (hgate : IsGate gate) {ticket : Option Nat} (h : Stands w (.keeper (gate ticket)) pts)
    {answer : Answer} (hdelivers : Delivers w (.ok answer) (some (ticket.elim .turn .ticket)))
    {below : Option Role} {act : Act Next}
    (hact : ∀ w' : World, Coherent w'.view pts → Exclusive w' true pts →
      Handles w' pts below false none act) :
    Handles w pts below false none (do
      enter ticket
      act) := by
  have hturns := updateKeeper_turns w fun k =>
    { k with busy := true, tickets := k.tickets.filter fun t => some t ≠ ticket }
  refine .after_keeper hturns rfl (hact _ ?_ (enter_exclusive hgate h hdelivers))
  rw [show ((enter ticket).run w).2.view = _ from hturns.view]
  exact h.coherent_rest.setKeeper rfl rfl

/-- A task that has given up waiting withdraws. -/
theorem withdraw_handles {w : World} {pts : List Point} {gate : Option Nat → KeeperPoint}
    (hgate : IsGate gate) {ticket : Option Nat} (h : Stands w (.keeper (gate ticket)) pts)
    {failure : Failure} (hdelivers : Delivers w (.error failure) (some (ticket.elim .turn .ticket)))
    {below : Option Role} (hbelow : ∀ w', Delivers w' (.error failure) below) :
    Handles w pts below false none (do
      withdraw ticket
      fail failure) := by
  cases ticket with
  | none =>
    obtain ⟨answer, heq⟩ := hdelivers
    cases heq
  | some t =>
    -- The ticket alone goes, and the first of the others may be called instead.
    have hturns := (withdraw_turns w t).seq_modest fun _ =>
      (Modest.pure rfl : Modest (· = .go (.error failure) []) (fail failure))
    refine .of_go hturns (h.coherent_rest.setKeeper rfl rfl) (fun w' hdrift hview => ?_)
      (fun w' _ => hbelow w') ?_
    · have hkeeper : w'.keeper = { w.keeper with tickets := w.keeper.tickets.filter (· ≠ t) } :=
        congrArg View.keeper hview
      refine h.exclusive.withdraw (by rw [hgate.holds]; rfl) (hgate.ticket? (some t)) ?_
        (by rw [hkeeper]) (by rw [hkeeper])
      rw [hkeeper]
      exact hdrift
    · have hflag : announces below (.error failure) = false := by
        unfold announces
        split <;> simp_all
      rw [hflag]
      exact .aside (View.aside_setKeeper rfl)

/-! ## The points of the keeper -/

theorem admitted_handles {w : World} {config : Option Companion.Config} {ticket : Option Nat}
    {pts : List Point} (h : Stands w (.keeper (.admitted config ticket)) pts) {outcome : Outcome}
    (hdelivers : Delivers w outcome (some (ticket.elim .turn .ticket))) :
    Handles w pts (some .service) false none
      ((Point.keeper (.admitted config ticket)).resume outcome) := by
  cases outcome with
  | error failure =>
    exact withdraw_handles (isGate_admitted config) h hdelivers fun _ => trivial
  | ok answer =>
    refine enter_handles (isGate_admitted config) h hdelivers fun w' hcoherent hexclusive => ?_
    cases config with
    | none => exact vacate_handles hcoherent hexclusive (.keeper .cleared) rfl rfl rfl fun _ _ => trivial
    | some config =>
      refine .get_bind ?_
      split
      · exact leave_handles hcoherent hexclusive (fun _ => trivial) rfl
      · exact vacate_handles hcoherent hexclusive (.keeper (.vacated config)) rfl rfl rfl
          fun _ hnone => hnone

theorem admittedToStop_handles {w : World} {ticket : Option Nat} {pts : List Point}
    (h : Stands w (.keeper (.admittedToStop ticket)) pts) {outcome : Outcome}
    (hdelivers : Delivers w outcome (some (ticket.elim .turn .ticket))) :
    Handles w pts none false none
      ((Point.keeper (.admittedToStop ticket)).resume outcome) := by
  cases outcome with
  | error failure => exact withdraw_handles isGate_admittedToStop h hdelivers fun _ => trivial
  | ok answer =>
    refine enter_handles isGate_admittedToStop h hdelivers fun w' hcoherent hexclusive => ?_
    exact vacate_handles hcoherent hexclusive (.keeper .released) rfl rfl rfl fun _ _ => trivial

theorem disconnected_handles {w : World} {pts : List Point}
    (h : Stands w (.keeper .disconnected) pts) (outcome : Outcome) :
    Handles w pts none false none ((Point.keeper .disconnected).resume outcome) := by
  cases outcome with
  | ok answer =>
    have hmodest : Modest Plain ((Point.keeper .disconnected).resume (.ok answer)) := by
      refine .get_bind fun w => ?_
      split
      · exact .seq (note_quiet fun _ => rfl) fun _ => .seq clearCompanion_quiet fun _ => .finish _
      · exact .finish _
    exact modest_handles h rfl rfl hmodest
  | error failure => exact modest_handles h rfl rfl (.fail failure)

theorem turnEnds_handles {w : World} {point : Point} {pts : List Point} (h : Stands w point pts)
    (hholds : point.holds) (hticket : point.ticket? = none) {below : Option Role}
    {announcing : Bool} {outcome : Outcome} (hdelivers : ∀ w', Delivers w' outcome below)
    (hannounces : announces below outcome = announcing) :
    Handles w pts below announcing none (do
      leave
      give outcome) :=
  leave_handles h.coherent_rest (h.exclusive.act hholds hticket) hdelivers hannounces

theorem cleared_handles {w : World} {pts : List Point} (h : Stands w (.keeper .cleared) pts)
    (outcome : Outcome) :
    Handles w pts (some .service) false none ((Point.keeper .cleared).resume outcome) := by
  cases outcome with
  | ok answer => exact turnEnds_handles h rfl rfl (fun _ => trivial) rfl
  | error failure => exact turnEnds_handles h rfl rfl (fun _ => trivial) rfl

theorem released_handles {w : World} {pts : List Point} (h : Stands w (.keeper .released) pts)
    (outcome : Outcome) :
    Handles w pts none false none ((Point.keeper .released).resume outcome) := by
  cases outcome with
  | ok answer => exact turnEnds_handles h rfl rfl (fun _ => trivial) rfl
  | error failure => exact turnEnds_handles h rfl rfl (fun _ => trivial) rfl

theorem failed_handles {w : World} {config : Companion.Config} {pts : List Point}
    (h : Stands w (.keeper (.failed config)) pts) (outcome : Outcome) :
    Handles w pts (some .service) false none ((Point.keeper (.failed config)).resume outcome) := by
  cases outcome with
  | ok answer => exact turnEnds_handles h rfl rfl (fun _ => trivial) rfl
  | error failure => exact turnEnds_handles h rfl rfl (fun _ => trivial) rfl

/-- The connection has started, or not: what is said of it is passed on, or it is let go. -/
theorem connected_handles {w : World} {config : Companion.Config} {pts : List Point}
    (h : Stands w (.keeper (.connected config)) pts) (outcome : Outcome) :
    Handles w pts (some .service) (announces (some .readiness) outcome) none
      ((Point.keeper (.connected config)).resume outcome) := by
  by_cases hfailed : outcome = .ok (.bool false)
  · subst hfailed
    exact vacate_handles h.coherent_rest (h.exclusive.act rfl rfl) (.keeper (.failed config)) rfl rfl
      rfl fun _ _ => trivial
  · have hresume : (Point.keeper (.connected config)).resume outcome = (do
        leave
        give outcome) := by
      show KeeperPoint.resume _ outcome = _
      unfold KeeperPoint.resume
      split <;> simp_all
    rw [hresume]
    refine turnEnds_handles h rfl rfl (fun _ => trivial) ?_
    unfold announces
    split <;> simp_all

/-- The last item is changed. -/
theorem modify_length_append {α : Type} (items : List α) (item : α) (change : α → α) :
    (items ++ [item]).modify items.length change = items ++ [change item] := by
  induction items with
  | nil => rfl
  | cons first rest ih => simpa using ih

/-- A connection that is made, kept and started. -/
theorem arise_turns (w : World) (config : Companion.Config)
    (hlistener : w.keeper.listener = .session) :
    Turns none w
      (w.view.arise fun k =>
        { k with
          connection := some w.view.links.length
          fingerprint := some config.fingerprint })
      (fun next => ∃ script command, ∀ v, Leads v
        [.program (.starting script command), .channel (.opened w.view.lines.length),
          .connection (.opened w.view.links.length w.view.lines.length),
          .keeper (.connected config)] next)
      ((Point.keeper (.vacated config)).resume (.ok .unit)) := by
  refine .get_bind ?_
  have hmade := newConnection_turns w { config, listener := w.keeper.listener } (by
    rw [hlistener]
    simp [Connection.waiters])
  refine hmade.bind fun number w₁ hw₁ hnumber => ?_
  subst hnumber
  have hkept := updateKeeper_turns w₁ fun k =>
    { k with connection := some w.view.links.length, fingerprint := some config.fingerprint }
  rw [hw₁] at hkept
  refine hkept.bind fun _ w₂ hw₂ _ => ?_
  have hlink : w₂.view.links[w.view.links.length]? = some ⟨.stopped, none, [], none⟩ := by
    rw [hw₂]
    simp [View.setKeeper, View.addLink, Connection.link]
  have hlines : w₂.view.lines = w.view.lines := by
    rw [hw₂]
    rfl
  have hstarted := connect_turns hlink rfl
  rw [hlines] at hstarted
  -- Made, kept and started in turn, the connection is what `arise` makes of the view at once.
  have hview : (w₂.view.addLine (.connection w.view.links.length)).setLink w.view.links.length
      (fun l => ⟨.starting, some w.view.lines.length, l.queue, l.room⟩) = w.view.arise fun k =>
        { k with
          connection := some w.view.links.length
          fingerprint := some config.fingerprint } := by
    have hlinks := modify_length_append w.view.links ⟨.stopped, none, [], none⟩
      fun l => ⟨.starting, some w.view.lines.length, l.queue, l.room⟩
    rw [hw₂]
    simp only [View.setLink, View.addLine, View.setKeeper, View.addLink, View.arise,
      Connection.link, hlinks]
  rw [hview] at hstarted
  refine hstarted.under fun next hnext => ?_
  obtain ⟨script, command, hleads⟩ := hnext
  exact ⟨script, command, fun v => (hleads v).under _⟩

theorem vacated_handles {w : World} {config : Companion.Config} {pts : List Point}
    (h : Stands w (.keeper (.vacated config)) pts) (outcome : Outcome) :
    Handles w pts (some .service) false none
      ((Point.keeper (.vacated config)).resume outcome) := by
  cases outcome with
  | error failure => exact turnEnds_handles h rfl rfl (fun _ => trivial) rfl
  | ok answer =>
    -- Whoever stands here has vacated the keeper, so that the new connection is the only one kept.
    have hnone : w.view.keeper.connection = none := h.coherent.placed _ List.mem_cons_self
    have hacts := h.exclusive.act rfl rfl
    obtain ⟨hcoherent, hlaunches⟩ := h.coherent_rest.arise hnone (h.alone hacts)
      (fun k =>
        { k with
          connection := some w.view.links.length
          fingerprint := some config.fingerprint }) rfl rfl
    have harises := arise_turns w config h.coherent.listener
    obtain ⟨script, command, hleads⟩ := harises.result
    refine .of_leads ⟨harises.drift, harises.view, hleads _⟩ hcoherent (fun point hpoint => ?_)
      (fun w' hdrift hview => ?_) ⟨rfl, rfl, rfl, rfl, trivial⟩ rfl
      (.begin rfl rfl ?_ (Coherent.service_arise _ rfl))
    · simp only [List.mem_cons, List.not_mem_nil, or_false] at hpoint
      rcases hpoint with rfl | rfl | rfl | rfl
      · trivial
      · trivial
      · exact hlaunches
      · trivial
    · have hkeeper : w'.keeper.busy = w.keeper.busy ∧ w'.keeper.tickets = w.keeper.tickets := by
        have hkeeper := congrArg View.keeper hview
        rw [show w'.keeper = _ from hkeeper]
        exact ⟨rfl, rfl⟩
      have hheld : Exclusive w' false (.keeper (.connected config) :: pts) :=
        (hacts.drift hdrift hkeeper.1 hkeeper.2).hold rfl rfl
      show Exclusive w' false ([_, _, _] ++ _ :: pts)
      refine hheld.add fun point hpoint => ?_
      simp only [List.mem_cons, List.not_mem_nil, or_false] at hpoint
      rcases hpoint with rfl | rfl | rfl <;> exact ⟨rfl, rfl⟩
    · simp [View.service, hnone]

end BasiliskServer.World
