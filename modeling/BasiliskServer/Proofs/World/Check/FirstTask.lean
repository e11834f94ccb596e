import BasiliskServer.Proofs.World.Check.Helpers

/-!
# What the first task of a check does

The first task of a check waits only for what is kept, and gives nothing up that others rely on
(`Trust.Steers`). Here is what it does where it waits for a program (`Trust.waitLimited_leads`,
`Trust.wait_leads`), what it does when it takes leave of a companion process, and what it does where
nothing is left to be started: it starts nothing (`Trust.Winds`).
-/

namespace BasiliskServer.World

open Json (Value Fields)
open Tasks (Notice Scheduler)

/-- The first task runs. -/
def IsLed (w : World) : Prop :=
  ∃ outcome, w.tasks.running = some (0, outcome)

/-- The points at which the first task stands when it has nothing left to start. -/
def Point.IsLate (T : Trust) (processes : Nat) : Point → Prop
  | .wait _ | .channel (.killed _) | .channel (.quiet _) => True
  | .channel (.asked _ process) => process < processes
  | .connection (.awaited _ _ _ _) => False
  | .connection _ => True
  | .tool (.connected _ _ received _) => T.pledges[received]? = some (.reply received)
  | .tool (.received _ _) | .tool (.disconnected _ _) | .tool (.consulted _) => True
  | _ => False

namespace Trust

variable {α β : Type} {T T' T'' : Trust} {w w' w'' : World} {pledge : Pledge} {outcome : Outcome}
  {point : Point} {q : Nat}

theorem Moves.isLed (h : T.Moves w T' w') (hled : w.IsLed) : w'.IsLed :=
  hled.imp fun _ hrunning => h.unmoved.running.trans hrunning

/-! ## Waiting -/

/-- The first task does not wait twice in a row. -/
theorem not_isWait_of_meets (h : pledge.Meets q point) : point.isWait = false := by
  cases point with
  | wait point => exact h.elim
  | _ => rfl

/-- At a point that does not wait, what is told is accepted or not. -/
theorem takes_of_accepts {e : Ended} {rest : List Point} (hwait : point.isWait = false)
    (h : point.Accepts e outcome) : T.Takes e (point :: rest) outcome := by
  cases point with
  | wait point => cases hwait
  | _ => exact h

/-- The first task gives up what it waits for. -/
theorem giveUp_acts (hled : w.IsLed) (hpledge : T.pledges[q]? = some pledge) (hmeets : pledge.Meets q point) :
    T.Acts w (modifyTasks (·.giveUp q)) fun _ w' _ => w'.inventory = w.inventory :=
  fun hw => ⟨T.drop q, ⟨grows_drop q, rfl, .refl _, .giveUp q⟩,
    hw.setTasks (grows_drop q) (hw.sound.giveUp hled hpledge hmeets) (.giveUp q), rfl⟩

/-- The first task gives up what it waits for, and waits until that has taken effect. -/
theorem reap_leads (alarm : Option Nat) (hled : w.IsLed) (hpledge : T.pledges[q]? = some pledge)
    (hmeets : pledge.Meets q point) : T.Acts w (reap q alarm false) fun T' w' next =>
      w'.inventory = w.inventory ∧ ∃ done, next = .wait done [.wait (.reaping q alarm false)] ∧
        T'.pledges[done]? = some .signal ∧ T'.pledges[q]? = some pledge := by
  refine (promise_acts 0 fun _ => .signal).bind fun T₁ w₁ done hmoves₁ _ hsignal => ?_
  refine (observe_does q (.release done) ⟨_, hsignal.1, rfl⟩).acts fun w₂ _ hmoves₂ hinventory₂ => ?_
  refine (giveUp_acts (hmoves₂.isLed (hmoves₁.isLed hled)) (hmoves₁.grows.pledges q _ hpledge) hmeets).bind
    fun T₃ w₃ _ hmoves₃ _ hinventory₃ => .pure fun _ => ⟨?_, done, rfl, hmoves₃.grows.pledges _ _ hsignal.1,
      hmoves₃.grows.pledges _ _ (hmoves₁.grows.pledges q _ hpledge)⟩
  rw [hinventory₃, hinventory₂, hsignal.2.2.1]

/-- The first task waits for something, for some time. -/
theorem waitLimited_leads (limit : Nat) (hled : w.IsLed) (hpledge : T.pledges[q]? = some pledge)
    (hmeets : pledge.Meets q point) (hgiven : point.isStrict = true → q ∉ T.given) :
    T.Acts w (under point (waitLimited q limit)) fun T' w' next => T'.Steers w'.ended [] next ∧
      w'.inventory = w.inventory ∧ ∃ front, points next = front ++ [point] ∧ ∀ p ∈ front, p.isWait = true := by
  have hwait := not_isWait_of_meets hmeets
  have hlayered : ∀ other : WaitPoint, Layered [.wait other, point] := fun _ =>
    ⟨hwait, fun _ h => absurd h List.not_mem_nil⟩
  -- with no time left the promise is looked at once, and given up if it is open;
  -- otherwise the first task waits until it is settled or the time is over, whichever is first
  refine Acts.under _ ?_
  unfold waitLimited
  split
  · refine Acts.get fun hw => ?_
    split
    · rename_i known hknown
      refine .pure fun _ => ⟨⟨takes_of_accepts hwait (accepts_of_meets hmeets hgiven
        (hw.sound.outcomes q _ known hpledge hknown)), trivial⟩, rfl, [], rfl,
          fun _ h => absurd h List.not_mem_nil⟩
    · refine (reap_leads none hled hpledge hmeets).imp ?_
      rintro T' w' next - - ⟨hinventory, done, rfl, hsignal, hpledge'⟩
      exact ⟨⟨hsignal, ⟨rfl, _, hpledge', hmeets⟩, hlayered _⟩, hinventory, [_], rfl, fun _ h =>
        List.mem_singleton.1 h ▸ rfl⟩
  · refine (promise_acts 0 fun _ => .signal).bind fun T₁ w₁ done hmoves₁ hw₁ hsignal => ?_
    have hpledge₁ := hmoves₁.grows.pledges q _ hpledge
    refine (timer_does limit (.release done) ⟨_, hsignal.1, rfl⟩).acts
      fun w₂ alarm hmoves₂ hinventory₂ => ?_
    refine (observe_does q (.release done) ⟨_, hsignal.1, rfl⟩).acts
      fun w₃ _ hmoves₃ hinventory₃ => .pure fun hw₃ => ⟨⟨hsignal.1, ⟨_, hpledge₁, hmeets, ?_⟩, hlayered _⟩, ?_,
        [_], rfl, fun _ h => List.mem_singleton.1 h ▸ rfl⟩
    · rw [hsignal.2.2.2]
      exact hgiven
    · rw [hinventory₃, hinventory₂, hsignal.2.2.1]

/-- The first task waits for some time. -/
theorem sleep_leads (delay : Nat) (heasy : point.isEasy = true) :
    T.Acts w (under point (sleep delay)) fun T' w' next => T'.Steers w'.ended [] next ∧
      w'.inventory = w.inventory ∧ ∃ front, points next = front ++ [point] ∧ ∀ p ∈ front, p.isWait = true := by
  refine Acts.under _ ((sleep_acts .never delay).imp ?_)
  rintro T' w' next - - ⟨hinventory, done, alarm, rfl, hsignal⟩
  have hwait : point.isWait = false := by
    simp only [Point.isEasy, Bool.and_eq_true, Bool.not_eq_true'] at heasy
    exact heasy.1
  exact ⟨⟨hsignal, heasy, hwait, fun _ h => absurd h List.not_mem_nil⟩, hinventory, [_], rfl, fun _ h =>
    List.mem_singleton.1 h ▸ rfl⟩

/-- The first task goes on after waiting, or waits until something that it gave up has taken effect. -/
theorem wait_leads {waits : WaitPoint} {rest : List Point} (hled : w.IsLed)
    (htakes : T.Takes w.ended (.wait waits :: rest) outcome) (hlayered : Layered (.wait waits :: rest)) :
    T.Acts w (waits.resume outcome) fun T' w' next => T'.Steers w'.ended rest next ∧
      w'.inventory = w.inventory ∧ ∀ other ∈ points next, other.isWait = true := by
  -- what it waits for is kept, so that it is never told of a failure
  obtain ⟨⟨a, rfl⟩, hawaits⟩ := htakes
  have hnone : ∀ other ∈ ([] : List Point), other.isWait = true := fun _ h => absurd h List.not_mem_nil
  have hrest : Layered rest := layered_tail hlayered
  cases rest with
  | nil => cases waits <;> exact hawaits.elim
  | cons point rest =>
    cases waits with
    | sleeping alarm =>
      refine (stopTimer_does alarm).acts fun w' _ _ hinventory => .pure fun _ => ⟨⟨?_, hrest⟩, hinventory, hnone⟩
      refine takes_of_easy fun other hother => ?_
      rcases List.mem_cons.1 hother with rfl | hother
      · exact hawaits
      · refine easy_of_layered hrest ?_ other hother
        simpa [Point.isEasy] using (Bool.and_eq_true_iff.1 hawaits).1
    | limited q alarm =>
      obtain ⟨pledge, hpledge, hmeets, hgiven⟩ := hawaits
      have hwait := not_isWait_of_meets hmeets
      refine Acts.get fun hw => ?_
      split
      · rename_i known hknown
        refine (stopTimer_does alarm).acts fun w' _ hmoves hinventory => .pure fun _ =>
          ⟨⟨takes_of_accepts hwait (accepts_of_meets hmeets hgiven ?_), hrest⟩, hinventory, hnone⟩
        exact (hw.sound.outcomes q _ known hpledge hknown).mono .refl hmoves.ends
      · refine (reap_leads (some alarm) hled hpledge hmeets).imp ?_
        rintro T' w' next - - ⟨hinventory, done, rfl, hsignal, hpledge'⟩
        exact ⟨⟨hsignal, ⟨rfl, _, hpledge', hmeets⟩, hlayered⟩, hinventory, fun _ h =>
          List.mem_singleton.1 h ▸ rfl⟩
    -- what was given up has come to something by now
    | reaping q alarm interrupted =>
      obtain ⟨rfl, pledge, hpledge, hmeets⟩ := hawaits
      have hwait := not_isWait_of_meets hmeets
      refine (Does.forM_option fun _ _ => stopTimer_does _).acts fun w' _ _ hinventory => ?_
      refine Acts.get fun hw => .pure fun _ => ⟨⟨takes_of_accepts hwait ?_, hrest⟩, hinventory, hnone⟩
      exact accepts_lateOutcome hmeets fun known hknown => hw.sound.outcomes q _ known hpledge hknown

/-! ## Nothing left to start -/

/-- An activity of the first task starts no process and no command, and goes on where nothing is left to
be started. -/
structure Winds (T : Trust) (w w' : World) (next : Next) : Prop where
  /-- It goes on with what it relies on. -/
  steers : T.Steers w'.ended [] next
  /-- It starts no process. -/
  processes : w'.inventory.processes = w.inventory.processes
  /-- It starts no command. -/
  commands : w'.inventory.commands = w.inventory.commands
  /-- It goes on where nothing is left to be started. -/
  late : ∀ point ∈ points next, point.IsLate T w.inventory.processes

/-- An activity of the first task starts nothing. -/
abbrev Unwinds (T : Trust) (w : World) (act : Act Next) : Prop :=
  T.Acts w act fun T' w' next => T'.Winds w w' next

theorem late_of_isWait {n : Nat} (h : point.isWait = true) : point.IsLate T n := by
  cases point with
  | wait point => trivial
  | _ => cases h

theorem late_of_waits {n : Nat} {front : List Point} (hpoint : point.IsLate T n)
    (hfront : ∀ p ∈ front, p.isWait = true) : ∀ p ∈ front ++ [point], p.IsLate T n := by
  intro p hp
  rcases List.mem_append.1 hp with hp | hp
  · exact late_of_isWait (hfront p hp)
  · exact List.mem_singleton.1 hp ▸ hpoint

theorem Winds.under {next : Next} (h : T.Winds w w' next) (heasy : point.isEasy = true)
    (hlate : point.IsLate T w.inventory.processes) : T.Winds w w' (next.under point) where
  steers := h.steers.under heasy
  processes := h.processes
  commands := h.commands
  late := by
    intro p hp
    rw [points_under] at hp
    rcases List.mem_append.1 hp with hp | hp
    · exact h.late p hp
    · exact List.mem_singleton.1 hp ▸ hlate

/-- Nothing is left to do. -/
theorem winds_give (h : w'.inventory.processes = w.inventory.processes)
    (h' : w'.inventory.commands = w.inventory.commands) (outcome : Outcome) :
    T.Winds w w' (.go outcome []) :=
  ⟨steers_give outcome, h, h', fun _ hp => absurd hp List.not_mem_nil⟩

theorem give_unwinds (outcome : Outcome) : T.Unwinds w (give outcome) :=
  .pure fun _ => winds_give rfl rfl outcome

/-- What follows does as if the inventory had not been looked at before. -/
theorem Winds.of_inventory {next : Next} (h : T.Winds w' w'' next) (hinventory : w'.inventory = w.inventory) :
    T.Winds w w'' next :=
  ⟨h.steers, by rw [← hinventory]; exact h.processes, by rw [← hinventory]; exact h.commands,
    by rw [← hinventory]; exact h.late⟩

/-- After an action that leaves promises and the inventory as they are. -/
theorem Does.unwinds {act : Act α} {rest : α → Act Next} (h : T.Does w act)
    (hrest : ∀ w' a, T.Moves w T w' → w'.inventory = w.inventory → T.Unwinds w' (rest a)) :
    T.Unwinds w (act >>= rest) :=
  h.acts fun w' a hmoves hinventory => (hrest w' a hmoves hinventory).imp fun _ _ _ _ _ hwinds =>
    hwinds.of_inventory hinventory

end Trust

/-- Somebody sees to the first process: it has ended, or the first task has asked it to end, or is about to
when it has said goodbye. -/
def Attends (e : Ended) (I : Inventory) (stack : List Point) : Prop :=
  e.process 0 ∨ ∃ front point rest, stack = front ++ point :: rest ∧ (∀ p ∈ front, p.isWait = true) ∧
    (point = .channel (.asked 0 0) ∨ point = .connection (.parted 0 0) ∧ I.pipes = [some 0])

theorem Attends.append {e : Ended} {I : Inventory} {stack : List Point} (h : Attends e I stack)
    (below : List Point) : Attends e I (stack ++ below) := by
  rcases h with hended | ⟨front, point, rest, rfl, hfront, hpoint⟩
  · exact .inl hended
  · exact .inr ⟨front, point, rest ++ below, by simp, hfront, hpoint⟩

theorem Attends.under {e : Ended} {I : Inventory} {next : Next} (h : Attends e I (points next))
    (point : Point) : Attends e I (points (next.under point)) := by
  rw [points_under]
  exact h.append [point]

namespace Trust

variable {α β : Type} {T T' T'' : Trust} {w w' w'' : World} {pledge : Pledge} {outcome : Outcome}
  {point : Point} {q : Nat}

/-! ## Channels -/

theorem endTraffic_unwinds (number : Nat) : T.Unwinds w (endTraffic number) := by
  refine Acts.get fun hw => ?_
  split
  · exact give_unwinds _
  · rename_i c hc
    refine Does.unwinds (.forM fun task htask w' hmoves => interrupt_does ?_) fun w₁ _ _ _ => ?_
    · -- the task is still there
      obtain ⟨hne, t, ht, hfree⟩ := (hw.channels c (List.mem_of_getElem? hc)).tasks task htask
      obtain ⟨t', ht', -, hresult⟩ := hmoves.unmoved.tasks task t ht
      exact ⟨hne, t', ht', hresult ▸ hfree⟩
    · split
      · refine Acts.bind (updateChannel_acts number
          fun c _ h => ⟨fun _ hn => (by cases hn), h.answers, h.tasks⟩) ?_
        rintro T' w₂ - - - ⟨-, hchanged⟩
        exact .pure fun _ => winds_give (by rw [hchanged]; rfl) (by rw [hchanged]; rfl) _
      · refine (waitAll_acts .never _ _).imp ?_
        rintro T' w₂ next - - ⟨hinventory, done, rfl, hsignal⟩
        exact ⟨⟨hsignal, trivial, trivial⟩, congrArg _ hinventory, congrArg _ hinventory, fun p hp =>
          List.mem_singleton.1 hp ▸ trivial⟩

/-- A process that has ended needs no care, and one that has not is asked to end. -/
theorem endProcess_acts {number process : Nat} (hled : w.IsLed) (hprocess : process < w.inventory.processes) :
    T.Acts w (endProcess number process) fun T' w' next => T'.Winds w w' next ∧
      (number = 0 → process = 0 → Attends w'.ended w'.inventory (points next)) := by
  refine Acts.get fun _ => ?_
  split
  · rename_i hended
    refine (endTraffic_unwinds number).imp fun T' w' next hmoves _ hwinds => ⟨hwinds, ?_⟩
    rintro - rfl
    exact .inl (hmoves.ends.process 0 hended)
  -- the process can be asked, so that somebody waits for its end from now on
  · refine (askToEnd_acts process).bind ?_
    rintro _ w₁ _ hmoves₁ - ⟨rfl, hinventory₁, rfl⟩
    refine (spawn_acts (fun q => ⟨.ended process, .upon q⟩) fun q => ?_).bind ?_
    · exact chain_singleton (.ended process) rfl (.refl _) (fun h => (by cases h)) fun _ h => by cases h
    · rintro T₂ w₂ ⟨task, ended⟩ hmoves₂ - ⟨hpledge, hgiven, -, hinventory₂⟩
      have hmeets : Pledge.Meets ended ⟨.ended process, .upon ended⟩ (.channel (.asked number process)) := rfl
      refine (waitLimited_leads endingGrace (hmoves₂.isLed (hmoves₁.isLed hled)) hpledge hmeets
        fun _ => hgiven).imp ?_
      rintro T₃ w₃ next - - ⟨hsteers, hinventory₃, front, hpoints, hfront⟩
      have hinventory : w₃.inventory = w.inventory := hinventory₃.trans (hinventory₂.trans hinventory₁)
      refine ⟨⟨hsteers, congrArg _ hinventory, congrArg _ hinventory, ?_⟩, ?_⟩
      · rw [hpoints]
        exact late_of_waits hprocess hfront
      · rintro rfl rfl
        exact .inr ⟨front, _, [], hpoints, hfront, .inl rfl⟩

/-- Who closes a channel sees to its process. -/
theorem closeChannel_acts (number : Nat) (hled : w.IsLed) :
    T.Acts w (closeChannel number) fun T' w' next => T'.Winds w w' next ∧
      (number = 0 → w.inventory.pipes = [some 0] → Attends w'.ended w'.inventory (points next)) := by
  refine withProcess_acts number (fun hnone => .pure fun _ => ⟨winds_give rfl rfl _, ?_⟩)
    fun process hpipe hprocess => ?_
  · rintro rfl hpipes
    exact absurd (by rw [hpipes]; rfl) (hnone 0)
  · refine Does.acts (updateChannel_does number (fun c _ h => ⟨h.process, h.answers, h.tasks⟩) fun _ => rfl)
      fun w₁ _ hmoves hinventory => ?_
    refine (endProcess_acts (hmoves.isLed hled) (hinventory ▸ hprocess)).imp ?_
    refine fun T' w' next _ _ hpost => ⟨hpost.1.of_inventory hinventory, ?_⟩
    rintro rfl hpipes
    rw [hpipes] at hpipe
    exact hpost.2 rfl (Option.some.inj (Option.some.inj hpipe)).symm

/-- Where the first task has closed a channel, it sees to the process, and ends the other tasks then. -/
theorem channel_late {point : ChannelPoint} (hlate : (Point.channel point).IsLate T w.inventory.processes)
    (haccepts : (Point.channel point).Accepts w.ended outcome) :
    T.Acts w (point.resume outcome) fun T' w' next => T'.Winds w w' next ∧
      (point = .asked 0 0 → Attends w'.ended w'.inventory (points next)) := by
  have hother : ∀ {act : Act Next}, point ≠ .asked 0 0 → T.Unwinds w act →
      T.Acts w act fun T' w' next => T'.Winds w w' next ∧
        (point = .asked 0 0 → Attends w'.ended w'.inventory (points next)) :=
    fun hne h => h.imp fun _ _ _ _ _ hwinds => ⟨hwinds, fun heq => absurd heq hne⟩
  cases point with
  | asked number process =>
    cases outcome with
    | ok answer =>
      have hended : w.ended.process process := haccepts.1 answer rfl
      refine (endTraffic_unwinds number).imp fun T' w' next hmoves _ hwinds => ⟨hwinds, fun heq => .inl ?_⟩
      cases heq
      exact hmoves.ends.process 0 hended
    | error failure =>
      -- it has not ended in time and is killed, and has ended then
      obtain rfl := haccepts.2 failure rfl
      refine (kill_acts process).bind ?_
      rintro _ w₁ _ - - ⟨rfl, hinventory, hended⟩
      have hgone := hended hlate
      refine Acts.under _ ((awaitExit_acts .never process).imp ?_)
      rintro T' w₂ next hmoves - ⟨hinventory₂, ⟨⟨code, rfl⟩, -⟩ | ⟨hnot, -⟩⟩
      · have hsame : w₂.inventory = w.inventory := hinventory₂.trans hinventory
        refine ⟨(winds_give (congrArg _ hsame) (congrArg _ hsame) _).under rfl trivial, fun heq => .inl ?_⟩
        cases heq
        exact hmoves.ends.process 0 hgone
      · exact absurd hgone hnot
  | killed number =>
    cases outcome with
    | ok answer => exact hother nofun (endTraffic_unwinds number)
    | error failure => exact hother nofun (give_unwinds _)
  | quiet number =>
    cases outcome with
    | ok answer =>
      refine hother nofun (Acts.bind (updateChannel_acts number
        fun c _ h => ⟨fun _ hn => (by cases hn), h.answers, fun _ hn => absurd hn List.not_mem_nil⟩) ?_)
      rintro T' w' - - - ⟨-, hchanged⟩
      exact .pure fun _ => winds_give (by rw [hchanged]; rfl) (by rw [hchanged]; rfl) _
    | error failure => exact hother nofun (give_unwinds _)
  | _ => exact hlate.elim

/-! ## Connections -/

end Trust

/-- There is one process, and a connection that has neither lost it nor begun to stop it. -/
structure Inventory.IsHeld (I : Inventory) : Prop where
  /-- The connection is starting, or ready. -/
  bonds : I.bonds = [(.starting, some 0)] ∨ I.bonds = [(.ready, some 0)]
  /-- Its channel is that to the process. -/
  pipes : I.pipes = [some 0]
  /-- There is no other one. -/
  processes : I.processes = 1

/-- Where there is one connection, it is as the inventory says. -/
theorem connection_of_bonds {w : World} {phase : Phase} {channel : Option Nat}
    (h : w.inventory.bonds = [(phase, channel)]) :
    ∃ c, w.connections = [c] ∧ c.phase = phase ∧ c.channel = channel := by
  obtain ⟨c, hc, heq⟩ := List.map_eq_singleton_iff.1 h
  obtain ⟨rfl, rfl⟩ := Prod.mk.inj heq
  exact ⟨c, hc, rfl, rfl⟩

namespace Trust

variable {α β : Type} {T T' T'' : Trust} {w w' w'' : World} {pledge : Pledge} {outcome : Outcome}
  {point : Point} {q : Nat}

theorem isInPhase_acts (phase : Phase) (number : Nat) : T.Acts w (isInPhase phase number) fun T' w' b =>
    T' = T ∧ w' = w ∧ ∀ channel, w.inventory.bonds[number]? = some (phase, channel) → b = true := by
  refine Acts.get fun _ => ?_
  split
  · rename_i c hc
    refine .pure fun _ => ⟨rfl, rfl, fun channel hbond => ?_⟩
    simp only [inventory, List.getElem?_map, hc, Option.map_some, Option.some.injEq, Prod.mk.injEq] at hbond
    simpa using hbond.1
  · rename_i hnone
    refine .pure fun _ => ⟨rfl, rfl, fun channel hbond => ?_⟩
    simp [inventory, hnone] at hbond

/-- A connection changes in something that nobody waits for. -/
theorem setPhase_binds {c : Connection} (h : T.Binds c) (phase : Phase) : T.Binds { c with phase } :=
  ⟨h.started, h.listener, h.greeting, h.parting, h.room⟩

/-- Who greets a process waits for the answer. -/
theorem greet_acts (number channel : Nat) (hled : w.IsLed) :
    T.Acts w (greet number channel) fun T' w' next => T'.Winds w w' next ∧ w'.inventory = w.inventory ∧
      ∀ p ∈ points next, p.isWait = true ∨ ∃ answer, p = .connection (.greeted number channel answer) := by
  refine Acts.get fun hw => ?_
  split
  · exact .pure fun _ => ⟨winds_give rfl rfl _, rfl, fun _ hp => absurd hp List.not_mem_nil⟩
  · rename_i c hc
    obtain ⟨limit, hlimit⟩ := Option.isSome_iff_exists.1 (hw.connections c (List.mem_of_getElem? hc)).greeting
    rw [(hw.connections c (List.mem_of_getElem? hc)).room]
    refine (requestThrough_acts channel _ _).bind fun T₁ w₁ asked hmoves₁ _ hasked => ?_
    obtain ⟨answer, rfl, hpledge⟩ := hasked
    simp only [hlimit]
    have hmeets : Pledge.Meets answer (.reply answer) (.connection (.greeted number channel answer)) := rfl
    refine (waitLimited_leads limit (hmoves₁.isLed hled) hpledge.1 hmeets fun _ => hpledge.2.1).imp ?_
    rintro T' w' next - - ⟨hsteers, hinventory, front, hpoints, hfront⟩
    have hsame : w'.inventory = w.inventory := hinventory.trans hpledge.2.2
    refine ⟨⟨hsteers, congrArg _ hsame, congrArg _ hsame, ?_⟩, hsame, fun p hp => ?_⟩
    · rw [hpoints]
      exact late_of_waits trivial hfront
    · rw [hpoints] at hp
      rcases List.mem_append.1 hp with hp | hp
      · exact .inl (hfront p hp)
      · exact .inr ⟨answer, List.mem_singleton.1 hp⟩

/-- A connection that becomes ready holds its process. -/
theorem becomeReady_acts (number channel : Nat) (answer : Value) :
    T.Acts w (becomeReady number channel answer) fun T' w' next => T'.Winds w w' next ∧ points next = [] ∧
      (number = 0 → w.inventory.IsHeld → w'.inventory.IsHeld) := by
  refine Acts.get fun hw => ?_
  split
  · exact .pure fun _ => ⟨winds_give rfl rfl _, rfl, fun _ => id⟩
  · rename_i c hc
    rw [(hw.connections c (List.mem_of_getElem? hc)).room, findSome?_obstacle_none]
    refine Acts.bind (updateConnection_acts number fun _ h => setPhase_binds h _) ?_
    rintro _ w₁ - - - ⟨rfl, hchanged⟩
    refine (notifyThrough_does _ _ _).acts fun w₂ _ _ hinventory₂ => ?_
    refine Does.acts (updateConnection_does number
      (fun c h => ⟨h.started, h.listener, h.greeting, h.parting, h.room⟩)
      (fun _ => rfl) fun _ => rfl) fun w₃ _ _ hinventory₃ => ?_
    refine Does.acts (.forM fun _ _ _ _ => notifyThrough_does _ _ _) fun w₄ _ _ hinventory₄ => ?_
    refine Does.acts (updateConnection_does number
      (fun c h => ⟨h.started, h.listener, h.greeting, h.parting, h.room⟩)
      (fun _ => rfl) fun _ => rfl) fun w₅ _ _ hinventory₅ => ?_
    refine (settleStarted_does number true).acts fun w₆ _ _ hinventory₆ => ?_
    -- Only the phase matters to what is held, and all that follows leaves the inventory alone.
    have hsame : w₆.inventory = w₁.inventory := by
      rw [hinventory₆, hinventory₅, hinventory₄, hinventory₃, hinventory₂]
    refine .pure fun _ => ⟨winds_give ?_ ?_ _, rfl, ?_⟩
    · rw [hsame, hchanged]
      rfl
    · rw [hsame, hchanged]
      rfl
    · rintro rfl hheld
      rw [hsame, hchanged]
      refine ⟨.inr ?_, hheld.pipes, hheld.processes⟩
      rcases hheld.bonds with hbonds | hbonds <;>
      · obtain ⟨known, hknown, -, hchannel⟩ := connection_of_bonds hbonds
        simp [inventory, hknown, hchannel]

/-- Who ends the process of a connection sees to it. -/
theorem closeConnection_acts (number channel : Nat) (hled : w.IsLed) :
    T.Acts w (closeConnection number (some channel)) fun T' w' next => T'.Winds w w' next ∧
      (channel = 0 → w.inventory.pipes = [some 0] → Attends w'.ended w'.inventory (points next)) :=
  Acts.under _ ((closeChannel_acts channel hled).imp fun _ _ _ _ _ hpost =>
    ⟨hpost.1.under rfl trivial, fun hzero hpipes => (hpost.2 hzero hpipes).under _⟩)

/-- Who stops a connection that holds a process sees to the process. -/
theorem disconnect_acts (number : Nat) (hled : w.IsLed) :
    T.Acts w (disconnect number) fun T' w' next => T'.Winds w w' next ∧
      (number = 0 → w.inventory.IsHeld → Attends w'.ended w'.inventory (points next)) := by
  refine Acts.get fun hw => ?_
  split
  · rename_i hnone
    refine .pure fun _ => ⟨winds_give rfl rfl _, ?_⟩
    rintro rfl hheld
    rcases hheld.bonds with hbonds | hbonds <;>
    · obtain ⟨c, hc, -⟩ := connection_of_bonds hbonds
      simp [hc] at hnone
  · rename_i c hc
    have hbinds := hw.connections c (List.mem_of_getElem? hc)
    -- a connection that holds a process is neither stopped nor being stopped
    have hphase : number = 0 → w.inventory.IsHeld →
        (c.phase = .starting ∨ c.phase = .ready) ∧ c.channel = some 0 := by
      rintro rfl hheld
      rcases hheld.bonds with hbonds | hbonds <;>
      · obtain ⟨known, hknown, hphase, hchannel⟩ := connection_of_bonds hbonds
        rw [hknown] at hc
        obtain rfl := Option.some.inj hc
        exact ⟨by simp [hphase], hchannel⟩
    split
    · rename_i hstopped
      refine Does.acts (updateConnection_does number
        (fun c h => ⟨h.started, h.listener, h.greeting, h.parting, h.room⟩)
        (fun _ => rfl) fun _ => rfl) fun w₁ _ _ hinventory => .pure fun _ =>
          ⟨winds_give (congrArg _ hinventory) (congrArg _ hinventory) _, fun hzero hheld => ?_⟩
      simp [hstopped] at hphase
      exact absurd hheld (hphase hzero)
    · rename_i hstopping
      refine .pure fun _ => ⟨winds_give rfl rfl _, fun hzero hheld => ?_⟩
      simp [hstopping] at hphase
      exact absurd hheld (hphase hzero)
    · refine Acts.bind (updateConnection_acts number fun _ h => setPhase_binds h .stopping) ?_
      rintro T₁ w₁ - hmoves - ⟨rfl, hchanged⟩
      have hpipes : w₁.inventory.pipes = w.inventory.pipes := by rw [hchanged]; rfl
      have hprocesses : w₁.inventory.processes = w.inventory.processes := by rw [hchanged]; rfl
      have hcommands : w₁.inventory.commands = w.inventory.commands := by rw [hchanged]; rfl
      have hled₁ := hmoves.isLed hled
      have hwinds : ∀ {T' : Trust} {w' : World} {next : Next}, T'.Winds w₁ w' next → T'.Winds w w' next :=
        fun h => ⟨h.steers, h.processes.trans hprocesses, h.commands.trans hcommands, hprocesses ▸ h.late⟩
      -- whoever does not say goodbye closes the channel at once
      have hclose : ∀ known, c.channel = known → T₁.Acts w₁ (closeConnection number known)
          fun T' w' next => T'.Winds w w' next ∧
            (number = 0 → w.inventory.IsHeld → Attends w'.ended w'.inventory (points next)) := by
        intro known hknown
        cases known with
        | none =>
          refine Acts.under _ (.pure fun _ => ⟨(hwinds (winds_give rfl rfl _)).under rfl trivial, ?_⟩)
          intro hzero hheld
          have hsome := (hphase hzero hheld).2
          rw [hknown] at hsome
          cases hsome
        | some channel =>
          refine (closeConnection_acts number channel hled₁).imp fun T' w' next _ _ hpost =>
            ⟨hwinds hpost.1, fun hzero hheld => hpost.2 ?_ (hpipes.trans hheld.pipes)⟩
          have hsome := (hphase hzero hheld).2
          rw [hknown] at hsome
          exact Option.some.inj hsome
      split
      · -- a connection that is ready says goodbye first
        rename_i channel hready hchannel
        obtain ⟨limit, hlimit⟩ := Option.isSome_iff_exists.1 hbinds.parting
        refine (requestThrough_acts channel _ _).bind fun T₂ w₂ asked hmoves₂ _ hasked => ?_
        obtain ⟨answer, rfl, hpledge⟩ := hasked
        simp only [hlimit]
        have hmeets : Pledge.Meets answer (.reply answer) (.connection (.parted number channel)) := rfl
        refine (waitLimited_leads limit (hmoves₂.isLed hled₁) hpledge.1 hmeets fun _ => hpledge.2.1).imp ?_
        rintro T' w' next - - ⟨hsteers, hinventory, front, hpoints, hfront⟩
        have hsame : w'.inventory = w₁.inventory := hinventory.trans hpledge.2.2
        refine ⟨hwinds ⟨hsteers, congrArg _ hsame, congrArg _ hsame, ?_⟩, fun hzero hheld => .inr ?_⟩
        · rw [hpoints]
          exact late_of_waits trivial hfront
        · subst hzero
          have hsome := (hphase rfl hheld).2
          rw [hchannel] at hsome
          obtain rfl := Option.some.inj hsome
          exact ⟨front, _, [], hpoints, hfront, .inr ⟨rfl, by rw [hsame, hpipes, hheld.pipes]⟩⟩
      · exact hclose _ rfl

/-- Where the first task has to do with a connection, it starts nothing, and sees to the process. -/
theorem connection_late {point : ConnectionPoint} (hled : w.IsLed)
    (hlate : (Point.connection point).IsLate T w.inventory.processes)
    (haccepts : (Point.connection point).Accepts w.ended outcome) :
    T.Acts w (point.resume outcome) fun T' w' next => T'.Winds w w' next ∧
      (point = .parted 0 0 → w.inventory.pipes = [some 0] → Attends w'.ended w'.inventory (points next)) := by
  have hother : ∀ {act : Act Next}, (∀ number channel, point ≠ .parted number channel) → T.Unwinds w act →
      T.Acts w act fun T' w' next => T'.Winds w w' next ∧
        (point = .parted 0 0 → w.inventory.pipes = [some 0] → Attends w'.ended w'.inventory (points next)) :=
    fun hne h => h.imp fun _ _ _ _ _ hwinds => ⟨hwinds, fun heq => absurd heq (hne 0 0)⟩
  have hreset : ∀ number answer, T.Unwinds w (do
      reset number
      finish answer) := fun number answer =>
    (reset_acts number).bind fun _ _ _ _ _ hpost => .pure fun _ => winds_give hpost.2.2.1 hpost.2.2.2 _
  cases point with
  | opened number channel =>
    cases outcome with
    | ok answer =>
      refine hother nofun ((isInPhase_acts _ _).bind ?_)
      rintro T₁ w₁ starting hmoves - ⟨rfl, rfl, -⟩
      cases starting with
      | true => exact (greet_acts number channel hled).imp fun _ _ _ _ _ hpost => hpost.1
      | false =>
        exact Acts.under _ ((closeChannel_acts channel hled).imp fun _ _ _ _ _ hpost =>
          hpost.1.under rfl trivial)
    | error failure =>
      cases failure with
      | spawn program text => exact hother nofun (hreset number _)
      | _ => exact hother nofun (give_unwinds _)
  | abandoned => cases outcome <;> exact hother nofun (give_unwinds _)
  | greeted number channel reply =>
    cases outcome with
    | ok answer =>
      refine hother nofun ((isInPhase_acts _ _).bind ?_)
      rintro T₁ w₁ starting hmoves - ⟨rfl, rfl, -⟩
      cases starting with
      | true => exact (becomeReady_acts number channel _).imp fun _ _ _ _ _ hpost => hpost.1
      | false => exact give_unwinds _
    | error failure =>
      refine hother nofun ?_
      show T.Unwinds w (if isUnanswered failure then _ else _)
      split
      · refine (isInPhase_acts _ _).bind ?_
        rintro T₁ w₁ starting hmoves - ⟨rfl, rfl, -⟩
        cases starting with
        | true =>
          exact Acts.under _ ((closeChannel_acts channel hled).imp fun _ _ _ _ _ hpost =>
            hpost.1.under rfl trivial)
        | false => exact give_unwinds _
      · exact give_unwinds _
  | refused number =>
    cases outcome with
    | ok answer => exact hother nofun (hreset number _)
    | error failure => exact hother nofun (give_unwinds _)
  | parted number channel =>
    have hclose : T.Acts w (do
        notifyThrough channel "exit"
        closeConnection number (some channel)) fun T' w' next => T'.Winds w w' next ∧
          (ConnectionPoint.parted number channel = .parted 0 0 → w.inventory.pipes = [some 0] →
            Attends w'.ended w'.inventory (points next)) := by
      refine (notifyThrough_does _ _ _).acts fun w₁ _ hmoves hinventory => ?_
      refine (closeConnection_acts number channel (hmoves.isLed hled)).imp fun T' w' next _ _ hpost =>
        ⟨hpost.1.of_inventory hinventory, fun heq hpipes => hpost.2 ?_ (by rw [hinventory, hpipes])⟩
      cases heq
      rfl
    cases outcome with
    | ok answer => exact hclose
    | error failure =>
      -- a goodbye that is not answered is as good as one that is
      have hanswered : isUnanswered failure = true := haccepts failure rfl
      show T.Acts w (if isUnanswered failure then _ else _) _
      rw [if_pos hanswered]
      exact hclose
  | closed number channel =>
    cases outcome with
    | ok answer =>
      refine hother nofun (Does.unwinds (.forM_option fun _ _ => rejectAll_does _ (.exited none) rfl)
        fun w₁ _ _ _ => ?_)
      exact (reset_acts number).bind fun _ _ _ _ _ hpost => .pure fun _ => winds_give hpost.2.2.1 hpost.2.2.2 _
    | error failure => exact hother nofun (give_unwinds _)
  | awaited number method params limit => exact hlate.elim

/-! ## The check -/

theorem notify_does (number : Nat) (method : String) (params : Value) :
    T.Does w (notify number method params) := by
  refine Acts.get fun _ => ?_
  split
  · exact Does.pure none
  · split
    · split
      · exact Does.pure _
      · exact (notifyThrough_does _ _ _).seq fun _ _ _ => Does.pure none
    · exact Does.pure none
    · refine Does.seq (updateConnection_does number (fun c h => ?_) (fun _ => rfl) fun _ => rfl)
        fun _ _ _ => Does.pure none
      exact ⟨h.started, h.listener, h.greeting, h.parting, h.room⟩

/-- A check that stops its connection sees to the process. -/
theorem partWith_acts (check : Check) (number : Nat) (result : Except Failure (List Value)) (hled : w.IsLed) :
    T.Acts w (partWith check number result) fun T' w' next => T'.Winds w w' next ∧
      (number = 0 → w.inventory.IsHeld → Attends w'.ended w'.inventory (points next)) :=
  Acts.under _ ((disconnect_acts number hled).imp fun _ _ _ _ _ hpost =>
    ⟨hpost.1.under rfl trivial, fun hzero hheld => (hpost.2 hzero hheld).under _⟩)

/-- A check waits for a report for some time, or stops its connection. -/
theorem awaitReport_acts (check : Check) (number received : Nat) (uri : String) (hled : w.IsLed)
    (hpledge : T.pledges[received]? = some (.reply received)) :
    T.Acts w (awaitReport check number received uri) fun T' w' next => T'.Winds w w' next ∧
      (number = 0 → w.inventory.IsHeld → Attends w'.ended w'.inventory (points next) ∨
        w'.inventory.IsHeld ∧ ∃ front, points next = front ++ [.tool (.received check 0)] ∧
          ∀ p ∈ front, p.isWait = true) := by
  refine (notify_does _ _ _).acts fun w₁ _ hmoves hinventory => Acts.get fun _ => ?_
  split
  · refine (partWith_acts check number _ (hmoves.isLed hled)).imp fun T' w' next _ _ hpost =>
      ⟨hpost.1.of_inventory hinventory, fun hzero hheld => .inl (hpost.2 hzero (hinventory ▸ hheld))⟩
  · have hmeets : Pledge.Meets received (.reply received) (.tool (.received check number)) := rfl
    refine (waitLimited_leads _ (hmoves.isLed hled) hpledge hmeets fun hstrict => (by cases hstrict)).imp ?_
    rintro T' w' next - - ⟨hsteers, hsame, front, hpoints, hfront⟩
    refine ⟨Winds.of_inventory ⟨hsteers, congrArg _ hsame, congrArg _ hsame, ?_⟩ hinventory,
      fun hzero hheld => .inr ⟨?_, front, hzero ▸ hpoints, hfront⟩⟩
    · rw [hpoints]
      exact late_of_waits trivial hfront
    · rw [hsame, hinventory]
      exact hheld

/-- Where the first task has consulted the companion process, it starts nothing. -/
theorem tool_late {point : ToolPoint} (hled : w.IsLed)
    (hlate : (Point.tool point).IsLate T w.inventory.processes) : T.Unwinds w (point.resume outcome) := by
  have hpart : ∀ check number result, T.Unwinds w (partWith check number result) := fun check number result =>
    (partWith_acts check number result hled).imp fun _ _ _ _ _ hpost => hpost.1
  unfold ToolPoint.resume
  split
  · exact hlate.elim
  · exact hlate.elim
  · exact hlate.elim
  · unfold conclude
    split <;> exact give_unwinds _
  · split <;> exact give_unwinds _
  · exact (awaitReport_acts _ _ _ _ hled hlate).imp fun _ _ _ _ _ hpost => hpost.1
  · exact hpart _ _ _
  · exact hpart _ _ _
  · exact hpart _ _ _
  · exact hpart _ _ _
  · exact hpart _ _ _
  · exact hpart _ _ _
  · exact give_unwinds _
  · exact hlate.elim
  · exact give_unwinds _

/-- Where nothing is left to be started, nothing is, and whoever has asked the process to end, or said
goodbye to it, sees to it. -/
theorem resume_late (hled : w.IsLed) (hwait : point.isWait = false)
    (hlate : point.IsLate T w.inventory.processes) (haccepts : point.Accepts w.ended outcome) :
    T.Acts w (point.resume outcome) fun T' w' next => T'.Winds w w' next ∧
      (point = .channel (.asked 0 0) ∨ point = .connection (.parted 0 0) ∧ w.inventory.pipes = [some 0] →
        Attends w'.ended w'.inventory (points next)) := by
  cases point with
  | channel point =>
    refine (channel_late hlate haccepts).imp fun T' w' next _ _ hpost => ⟨hpost.1, fun hor => hpost.2 ?_⟩
    rcases hor with heq | ⟨heq, -⟩
    · exact Point.channel.inj heq
    · cases heq
  | connection point =>
    refine (connection_late hled hlate haccepts).imp fun T' w' next _ _ hpost => ⟨hpost.1, fun hor => ?_⟩
    rcases hor with heq | ⟨heq, hpipes⟩
    · cases heq
    · exact hpost.2 (Point.connection.inj heq) hpipes
  | tool point =>
    refine (tool_late hled hlate).imp fun T' w' next _ _ hwinds => ⟨hwinds, fun hor => ?_⟩
    rcases hor with heq | ⟨heq, -⟩ <;> cases heq
  | wait point => cases hwait
  | _ => exact hlate.elim

end Trust

end BasiliskServer.World
