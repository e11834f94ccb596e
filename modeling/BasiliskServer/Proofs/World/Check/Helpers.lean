import BasiliskServer.Proofs.World.Check.Programs

/-!
# Tasks that help a check

A task that helps goes on at any of its points as its result pledges, and all that it can do to the
inventory is to take leave of a process that has ended (`Trust.resume_helps`).
-/

namespace BasiliskServer.World

open Json (Value Fields)
open Tasks (Notice Scheduler)

namespace Trust

variable {α β : Type} {T T' T'' : Trust} {w w' w'' : World}

/-! ## Tasks that help -/

/-- An activity of a task that helps goes on as it pledges, and leaves the inventory as it is. -/
abbrev Assists (T : Trust) (w : World) (pledge : Pledge) (act : Act Next) : Prop :=
  T.Acts w act fun T' w' next => T'.Continues w'.ended pledge next ∧ w'.inventory = w.inventory

variable {pledge : Pledge} {excuse : Excuse} {outcome : Outcome} {point : Point} {brought : Guarantee}

/-- What is told below is what is pledged. -/
theorem give_assists (h : T.Allows w.ended pledge outcome) : T.Assists w pledge (give outcome) :=
  .pure fun _ => ⟨⟨trivial, h⟩, rfl⟩

/-- Who pledges nothing may come to anything. -/
theorem free_assists (outcome : Outcome) : T.Assists w .free (give outcome) :=
  give_assists (by cases outcome <;> trivial)

/-- After an action that leaves promises and the inventory as they are. -/
theorem Does.assists {act : Act α} {rest : α → Act Next} (h : T.Does w act)
    (hrest : ∀ w' a, T.Moves w T w' → T.Assists w' pledge (rest a)) : T.Assists w pledge (act >>= rest) :=
  h.acts fun w' a hmoves hinventory => (hrest w' a hmoves).imp fun _ _ _ _ _ hdone =>
    ⟨hdone.1, hdone.2.trans hinventory⟩

/-- A point at which nothing is relied on may be put below. -/
theorem chain_singleton (brought : Guarantee) (hbrings : point.brings? = some brought)
    (hgives : brought.Gives pledge.guarantee) (hreading : point.isFallible = true → pledge.excuse = .anyhow)
    (hcommand : ∀ number, point.command? = some number → w.ended.started number) :
    pledge.Chain w.ended [point] :=
  ⟨⟨brought, hbrings, hgives⟩, hreading, hcommand, trivial⟩

/-- A reader waits for more. -/
theorem await_assists {reads : Point} (hbrings : reads.brings? = some .nothing)
    (hrelies : reads.relies = .nothing) (hcommand : reads.command? = none) {rest : Nat → Act Unit}
    (hrest : ∀ T' : Trust, ∀ w' q, T'.pledges[q]? = some .free → T'.Does w' (rest q)) :
    T.Assists w .free (do
      let waiter ← promise
      rest waiter
      waitAt waiter reads) := by
  -- nobody relies on what is read, so the promise of more pledges nothing
  refine (promise_acts 0 fun _ => .free).bind fun T₁ w₁ q _ _ hpledge => ?_
  refine (hrest T₁ w₁ q hpledge.1).acts fun w₂ _ _ hinventory => .pure fun _ => ?_
  refine ⟨⟨chain_singleton _ hbrings (.refl _) (fun _ => rfl) fun number hnumber => ?_, .free, hpledge.1, rfl,
    ?_⟩, hinventory.trans hpledge.2.2.1⟩
  · rw [hcommand] at hnumber
    cases hnumber
  · show Guarantee.Gives .nothing reads.relies
    rw [hrelies]
    exact .refl _

/-- A reader reads on. -/
theorem go_assists {reads : Point} (hbrings : reads.brings? = some .nothing)
    (hrelies : reads.relies = .nothing) (hcommand : reads.command? = none) :
    T.Assists w .free (pure (.go (.ok .unit) [reads])) := by
  refine .pure fun _ => ⟨⟨chain_singleton _ hbrings (.refl _) (fun _ => rfl) fun number hnumber => ?_, ?_⟩, rfl⟩
  · rw [hcommand] at hnumber
    cases hnumber
  · show T.Grants w.ended reads.relies
    rw [hrelies]
    trivial

theorem withProcess_acts (channel : Nat) {activity : Nat → Act Next} {post : Trust → World → Next → Prop}
    (hnone : (∀ process, w.inventory.pipes[channel]? ≠ some (some process)) → T.Acts w (finish .unit) post)
    (h : ∀ process, w.inventory.pipes[channel]? = some (some process) → process < w.inventory.processes →
      T.Acts w (activity process) post) : T.Acts w (withProcess channel activity) post := by
  have hpipes : w.inventory.pipes[channel]? = (w.channels[channel]?).map (·.process) := by simp [inventory]
  refine Acts.get fun hw => ?_
  split
  · rename_i hprocess
    refine hnone fun process hpipe => ?_
    rw [hpipes] at hpipe
    obtain ⟨c, hc, hsome⟩ := Option.map_eq_some_iff.1 hpipe
    rw [hc] at hprocess
    rw [show c.process = none from hprocess] at hsome
    cases hsome
  · rename_i process hprocess
    obtain ⟨c, hc, hsome⟩ := Option.bind_eq_some_iff.1 hprocess
    refine h process (by rw [hpipes, hc]; exact congrArg _ hsome) ?_
    exact (hw.channels c (List.mem_of_getElem? hc)).process process hsome

theorem readOutput_assists (channel process : Nat) : T.Assists w .free (readOutput channel process) := by
  refine Acts.get fun _ => Acts.get fun _ => ?_
  split
  · split
    · exact free_assists _
    · split
      · exact free_assists _
      · refine await_assists rfl rfl rfl fun T' w' q hfree => ?_
        refine updateProcess_does process (fun p _ h => ⟨h.reachable, fun other hother => ?_, h.errors, h.exits⟩)
          fun _ h => h
        obtain rfl := Option.some.inj hother
        exact hfree
    · refine Does.assists (updateProcess_does process
        (fun p _ h => ⟨h.reachable, h.output, h.errors, h.exits⟩) fun _ h => h) fun _ _ _ => ?_
      refine Does.assists (updateChannel_does channel (fun _ _ h => ⟨h.process, h.answers, h.tasks⟩) fun _ => rfl)
        fun _ _ _ => ?_
      split
      · exact free_assists _
      · exact (Does.forM fun _ _ _ _ => frame_does _ _).assists fun _ _ _ => go_assists rfl rfl rfl
  · exact free_assists _

theorem readErrors_assists (channel process : Nat) : T.Assists w .free (readErrors channel process) := by
  have hupdate : ∀ (w : World) (buffer : List UInt8), T.Does w (updateProcess process fun p =>
      { p with stderr := { p.stderr with buffer } }) := fun w buffer =>
    updateProcess_does process (fun p _ h => ⟨h.reachable, h.output, h.errors, h.exits⟩) fun _ h => h
  refine Acts.get fun _ => Acts.get fun _ => ?_
  split
  · split
    · refine Does.assists (hupdate _ _) fun _ _ _ => ?_
      split
      · exact free_assists _
      · exact (ownerErrors_does _ _).assists fun _ _ _ => go_assists rfl rfl rfl
    · split
      · exact Does.assists (hupdate _ _) fun _ _ _ => free_assists _
      · split
        · split
          · exact free_assists _
          · exact Does.assists (hupdate _ _) fun _ _ _ =>
              (ownerErrors_does _ _).assists fun _ _ _ => go_assists rfl rfl rfl
        · refine await_assists rfl rfl rfl fun T' w' q hfree => ?_
          refine updateProcess_does process
            (fun p _ h => ⟨h.reachable, h.output, fun other hother => ?_, h.exits⟩) fun _ h => h
          obtain rfl := Option.some.inj hother
          exact hfree
  · exact free_assists _

/-- Who waits for the end of a process pledges that it has ended. -/
theorem awaitExit_assists (process : Nat) : T.Assists w ⟨.ended process, excuse⟩ (awaitExit process) := by
  refine (awaitExit_acts excuse process).imp ?_
  rintro T' w' next - - ⟨hinventory, ⟨⟨code, rfl⟩, hended⟩ | ⟨-, done, rfl, hpledge⟩⟩
  · exact ⟨⟨trivial, hended⟩, hinventory⟩
  · exact ⟨⟨chain_singleton (.ended process) rfl (.refl _) (fun h => (by cases h))
      fun _ h => (by cases h), _, hpledge, rfl, .refl _⟩, hinventory⟩

/-- Who runs a command pledges that it has ended. -/
theorem communicate_assists {command : Nat} (hstarted : w.ended.started command) :
    T.Assists w ⟨.ran command, excuse⟩ (communicate command) := by
  refine Acts.get fun _ => ?_
  split
  · rename_i hnone
    exact absurd (List.getElem?_eq_none_iff.1 hnone) (Nat.not_le.2 hstarted)
  · split
    -- a command that hangs never ends: the promise that it waits for is only ever given up
    · refine (promise_acts 0 fun _ => ⟨.never, excuse⟩).bind fun T₁ w₁ q _ _ hpledge => .pure fun _ => ?_
      exact ⟨⟨chain_singleton .never rfl (Guarantee.never_gives _) (fun h => (by cases h))
        fun _ h => (by cases h), _, hpledge.1, rfl, .refl _⟩, hpledge.2.2.1⟩
    · have hworking : ∀ w' : World, w.ended.Grow w'.ended →
          Pledge.Chain w'.ended ⟨.ran command, excuse⟩ [.program (.working command)] := fun w' hends =>
        chain_singleton (.ran command) rfl (.refl _) (fun h => by cases h) fun number hnumber => by
          obtain rfl := Option.some.inj hnumber
          exact hends.started _ hstarted
      refine Acts.under _ ?_
      split
      · exact .pure fun _ => ⟨⟨hworking w (.refl _), trivial⟩, rfl⟩
      · refine (sleep_acts excuse _).imp ?_
        rintro T' w' next hmoves - ⟨hinventory, done, alarm, rfl, hpledge⟩
        refine ⟨⟨⟨⟨.nothing, rfl, .refl _⟩, fun h => (by cases h), fun _ h => (by cases h),
          hworking w' hmoves.ends⟩, _, hpledge, rfl, .refl _⟩, hinventory⟩

/-- A connection that is stopped leaves everything else in the inventory as it is. -/
theorem reset_acts (number : Nat) : T.Acts w (reset number) fun T' w' _ => T' = T ∧
    w'.inventory.pipes = w.inventory.pipes ∧ w'.inventory.processes = w.inventory.processes ∧
      w'.inventory.commands = w.inventory.commands := by
  refine Acts.bind (updateConnection_acts number
    fun c h => ⟨h.started, h.listener, h.greeting, h.parting, h.room⟩) ?_
  rintro _ w₁ - - - ⟨rfl, rfl⟩
  refine (settleStarted_does number false).imp ?_
  rintro T' w₂ - - - ⟨rfl, hinventory⟩
  rw [hinventory]
  exact ⟨rfl, rfl, rfl, rfl⟩

/-- A connection that loses its process is stopped. -/
theorem takeLoss_acts (number : Nat) (code : Option Int) : T.Acts w (takeLoss number code)
    fun T' w' _ => T' = T ∧ w'.inventory.pipes = w.inventory.pipes ∧
      w'.inventory.processes = w.inventory.processes ∧ w'.inventory.commands = w.inventory.commands := by
  refine Acts.get fun hw => ?_
  split
  · exact .pure fun _ => ⟨rfl, rfl, rfl, rfl⟩
  · rename_i c hc
    obtain ⟨uri, received, hlistener, -⟩ := (hw.connections c (List.mem_of_getElem? hc)).listener
    refine Does.acts (.forM_option fun _ _ => rejectAll_does _ (.exited code) rfl)
      fun w₁ _ _ hinventory₁ => ?_
    refine Does.acts (updateConnection_does number
      (fun c h => ⟨h.started, h.listener, h.greeting, h.parting, h.room⟩) (fun _ => rfl) fun _ => rfl)
      fun w₂ _ _ hinventory₂ => ?_
    have hinventory := hinventory₂.trans hinventory₁
    split
    -- whoever loses a connection stops it, unless it is being stopped already; a check is not told
    · rw [hlistener]
      refine (reset_acts number).bind fun T' w' _ _ _ hreset => .pure fun _ => ⟨hreset.1, ?_⟩
      rw [← hinventory]
      exact ⟨hreset.2.1, hreset.2.2.1, hreset.2.2.2⟩
    · exact .pure fun _ => by rw [hinventory]; exact ⟨rfl, rfl, rfl, rfl⟩

end Trust

/-- The inventory is what it was, or somebody has taken leave of a process that has ended. -/
def TakesLeave (w w' : World) : Prop :=
  w'.inventory = w.inventory ∨ (∃ process, w.ended.process process) ∧
    w'.inventory.processes = w.inventory.processes ∧ w'.inventory.commands = w.inventory.commands

namespace Trust

variable {α β : Type} {T T' T'' : Trust} {w w' w'' : World} {pledge : Pledge} {excuse : Excuse}
  {outcome : Outcome} {point : Point} {brought : Guarantee}

/-- Who is told that a process has ended starts nothing. -/
theorem exit_acts (owner : Owner) (code : Option Int) : T.Acts w (owner.exit code) fun _ w' _ =>
    w'.inventory.processes = w.inventory.processes ∧ w'.inventory.commands = w.inventory.commands := by
  cases owner with
  | recorder full takes =>
    show Acts _ _ (if _ then _ else _) _
    split
    · exact (note_does _).imp fun _ _ _ _ _ hdone => by rw [hdone.2]; exact ⟨rfl, rfl⟩
    · exact .pure fun _ => ⟨rfl, rfl⟩
  | connection number => exact (takeLoss_acts number code).imp fun _ _ _ _ _ hdone => hdone.2.2

/-- A channel may lose a process that has ended. -/
theorem loseProcess_acts (number : Nat) {process : Nat} (code : Option Int)
    (hended : w.ended.process process) : T.Acts w (loseProcess number code) fun T' w' next =>
      T'.Continues w'.ended ⟨.nothing, excuse⟩ next ∧ w.TakesLeave w' := by
  refine Acts.get fun _ => ?_
  have hfinish : T.Acts w (finish .unit) fun T' w' next =>
      T'.Continues w'.ended ⟨.nothing, excuse⟩ next ∧ w.TakesLeave w' :=
    .pure fun _ => ⟨⟨trivial, trivial⟩, .inl rfl⟩
  split
  · exact hfinish
  · rename_i c hc
    split
    · refine Acts.bind (updateChannel_acts number
        fun c _ h => ⟨fun _ hn => (by cases hn), h.answers, h.tasks⟩) ?_
      rintro _ w₁ - - - ⟨rfl, hchanged⟩
      have hprocesses : w₁.inventory.processes = w.inventory.processes := by rw [hchanged]; rfl
      have hcommands : w₁.inventory.commands = w.inventory.commands := by rw [hchanged]; rfl
      refine (exit_acts c.owner code).bind fun T' w₂ _ _ _ hsame => .pure fun _ => ⟨⟨trivial, trivial⟩, .inr ?_⟩
      exact ⟨⟨process, hended⟩, hsame.1.trans hprocesses, hsame.2.trans hcommands⟩
    · exact hfinish

/-- Whatever a task that helps does at a point: it goes on as its result pledges, and at most takes leave
of a process that has ended. -/
theorem resume_helps (hbrings : point.brings? = some brought)
    (hreading : point.isFallible = true → excuse = .anyhow)
    (hstarted : ∀ number, point.command? = some number → w.ended.started number)
    (htold : T.Allows w.ended ⟨point.relies, excuse⟩ outcome) :
    T.Acts w (point.resume outcome) fun T' w' next =>
      T'.Continues w'.ended ⟨brought, excuse⟩ next ∧ w.TakesLeave w' := by
  have hassists : ∀ {act : Act Next}, T.Assists w ⟨brought, excuse⟩ act →
      T.Acts w act fun T' w' next => T'.Continues w'.ended ⟨brought, excuse⟩ next ∧ w.TakesLeave w' :=
    fun h => h.imp fun _ _ _ _ _ hdone => ⟨hdone.1, .inl hdone.2⟩
  -- by the point: each does something of its own when all went well
  cases outcome with
  | error failure =>
    -- a failure is passed on
    have hgive : ∀ w' : World, T.Assists w' ⟨brought, excuse⟩ (give (.error failure)) := fun _ =>
      give_assists htold
    cases point with
    | start activity => exact hassists (hgive w)
    | wait point =>
      cases point with
      | sleeping alarm => exact hassists ((stopTimer_does alarm).assists fun w' _ _ => hgive w')
      | _ => cases hbrings
    | program point => cases point <;> first | exact hassists (hgive w) | cases hbrings
    | channel point => cases point <;> first | exact hassists (hgive w) | cases hbrings
    | _ => cases hbrings
  | ok answer =>
    cases point with
    | start activity =>
      cases activity with
      | readOutput channel =>
        cases hbrings
        obtain rfl : excuse = .anyhow := hreading rfl
        exact hassists (withProcess_acts channel (fun _ => free_assists _) fun process _ _ =>
          readOutput_assists channel process)
      | readErrors channel =>
        cases hbrings
        obtain rfl : excuse = .anyhow := hreading rfl
        exact hassists (withProcess_acts channel (fun _ => free_assists _) fun process _ _ =>
          readErrors_assists channel process)
      | watch channel reader =>
        cases hbrings
        refine hassists (withProcess_acts channel (fun _ => give_assists trivial) fun process _ _ => ?_)
        -- the watcher waits for the reader, on which it does not rely
        refine (waitAll_acts excuse [reader] (.channel (.drained channel process))).imp ?_
        rintro T' w' next - - ⟨hinventory, done, rfl, hpledge⟩
        exact ⟨⟨chain_singleton .nothing rfl (.refl _) (fun h => (by cases h))
          fun _ h => (by cases h), _, hpledge, rfl, .refl _⟩, hinventory⟩
      | awaitExit process =>
        cases hbrings
        exact hassists (awaitExit_assists process)
      | communicate command =>
        cases hbrings
        exact hassists (communicate_assists (hstarted command rfl))
      | _ => cases hbrings
    | wait point =>
      cases point with
      | sleeping alarm =>
        cases hbrings
        exact hassists ((stopTimer_does alarm).assists fun w' _ _ => give_assists trivial)
      | _ => cases hbrings
    | program point =>
      cases point with
      | ending process =>
        cases hbrings
        exact hassists (Acts.get fun _ => give_assists htold)
      | working command =>
        cases hbrings
        refine hassists (Acts.bind (updateCommand_does command (fun _ => rfl) fun _ _ => rfl) ?_)
        rintro _ w' - - - ⟨rfl, hinventory, hchanged⟩
        refine .pure fun _ => ⟨⟨trivial, ?_⟩, hinventory⟩
        -- now the command has ended
        show ((w'.commands[command]?).bind (·.code)).isSome
        have hlt : command < w.commands.length := hstarted command rfl
        simp [hchanged, hlt]
      | hanging => exact htold.elim
      | _ => cases hbrings
    | channel point =>
      cases point with
      | output channel process =>
        cases hbrings
        obtain rfl : excuse = .anyhow := hreading rfl
        exact hassists (readOutput_assists channel process)
      | errors channel process =>
        cases hbrings
        obtain rfl : excuse = .anyhow := hreading rfl
        exact hassists (readErrors_assists channel process)
      | drained channel process =>
        cases hbrings
        refine hassists (Acts.under _ ((awaitExit_acts excuse process).imp ?_))
        have hgone : ∀ w' : World, Pledge.Chain w'.ended ⟨.nothing, excuse⟩ [.channel (.gone channel process)] :=
          fun _ => chain_singleton .nothing rfl (.refl _) (fun h => (by cases h)) fun _ h => by cases h
        rintro T' w' next - - ⟨hinventory, ⟨⟨code, rfl⟩, hended⟩ | ⟨-, done, rfl, hpledge⟩⟩
        · exact ⟨⟨hgone w', hended⟩, hinventory⟩
        · exact ⟨⟨⟨⟨.ended process, rfl, .refl _⟩, fun h => (by cases h), fun _ h => (by cases h), hgone w'⟩,
            _, hpledge, rfl, .refl _⟩, hinventory⟩
      | gone channel process =>
        cases hbrings
        cases answer with
        | code code => exact loseProcess_acts channel code htold
        | _ => exact hassists (give_assists trivial)
      | _ => cases hbrings
    | _ => cases hbrings

end Trust

end BasiliskServer.World
