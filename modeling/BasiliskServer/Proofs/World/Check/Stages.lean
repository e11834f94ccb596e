import BasiliskServer.Proofs.World.Check.FirstTask

/-!
# The stages of a check

A check of a file runs the compiler, at most once to find out whether it works and once on the file, and
where it does not work, a companion process. Its first task goes through stages (`Trust.Stage`): before a
companion process is started every command has ended or is waited for; then there is one connection that
holds the process; and when nothing is left to be started, the process has ended, or the first task has
asked it to end, or is about to, and kills it if it does not. All that another task can do to the stage is
to take leave of a process that has ended (`Trust.Stage.leaves`).
-/

namespace BasiliskServer.World

open Json (Value Fields)
open Tasks (Notice Scheduler)

/-- The points at which a command is run. -/
def Point.isCalling : Point → Bool
  | .wait _ | .program (.finished _ _ _) | .program .probed | .program .tested
  | .program (.compiled _ _) => true
  | _ => false

/-- The points at which a check goes on when a command was run. -/
def Point.isChecking : Point → Bool
  | .start (.check _) | .tool (.tested _) | .tool (.compiled _) => true
  | _ => false

namespace Trust

variable {α β : Type} {T T' T'' : Trust} {w w' w'' : World} {pledge : Pledge} {outcome : Outcome}
  {point : Point} {q : Nat}

/-! ## Commands -/

/-- An activity of the first task at most runs a command, and waits for it. -/
structure Calls (T : Trust) (w w' : World) (next : Next) : Prop where
  /-- It goes on with what it relies on. -/
  steers : T.Steers w'.ended [] next
  /-- It has to do with no connection. -/
  bonds : w'.inventory.bonds = w.inventory.bonds
  /-- Nor with a channel. -/
  pipes : w'.inventory.pipes = w.inventory.pipes
  /-- Nor with a process. -/
  processes : w'.inventory.processes = w.inventory.processes
  /-- It goes on where commands are run. -/
  calling : ∀ point ∈ points next, point.isCalling = true
  /-- A command that it has started is waited for. -/
  commands : ∀ number < w'.inventory.commands, number < w.inventory.commands ∨
    ∃ command limit, .program (.finished number command limit) ∈ points next

theorem give_calls (outcome : Outcome) : T.Acts w (give outcome) fun T' w' next => T'.Calls w w' next :=
  .pure fun _ => ⟨steers_give outcome, rfl, rfl, rfl, fun _ hp => absurd hp List.not_mem_nil, fun _ h => .inl h⟩

theorem Calls.under {next : Next} (h : T.Calls w w' next) (heasy : point.isEasy = true)
    (hcalling : point.isCalling = true) : T.Calls w w' (next.under point) where
  steers := h.steers.under heasy
  bonds := h.bonds
  pipes := h.pipes
  processes := h.processes
  calling := by
    intro p hp
    rw [points_under] at hp
    rcases List.mem_append.1 hp with hp | hp
    · exact h.calling p hp
    · exact List.mem_singleton.1 hp ▸ hcalling
  commands := by
    intro number hnumber
    refine (h.commands number hnumber).imp_right ?_
    rintro ⟨command, limit, hmem⟩
    exact ⟨command, limit, by rw [points_under]; exact List.mem_append_left _ hmem⟩

/-- A command is started. -/
theorem addCommand_acts {script : CommandScript} (hscript : script.isUnreachable = false) :
    T.Acts w (modify fun w => { w with commands := w.commands ++ [{ script }] } : Act Unit) fun T' w' _ =>
      T' = T ∧ w' = { w with commands := w.commands ++ [{ script }] } := by
  have hends : w.ended.Grow ({ w with commands := w.commands ++ [{ script }] } : World).ended := by
    refine ⟨fun _ h => h, fun _ h => Tasks.isSome_bind_append h _, fun number hn => ?_⟩
    show number < (w.commands ++ [_]).length
    have hn : number < w.commands.length := hn
    rw [List.length_append]
    omega
  refine Acts.modify (fun hw => ?_) rfl hends
  refine ⟨hw.sound.grow hends, hw.staffed, hw.processes, fun c hc => ?_, hw.channels, hw.connections,
    hw.obliging⟩
  rcases List.mem_append.1 hc with hold | hnew
  · exact hw.commands c hold
  · exact List.mem_singleton.1 hnew ▸ hscript

theorem runCommand_calls (launch : Launch) (limit : Int) (hled : w.IsLed) :
    T.Acts w (runCommand launch limit) fun T' w' next => T'.Calls w w' next := by
  refine Acts.get fun hw => ?_
  -- the script is found differently for a version and for a run, and is all that differs
  have hrun : ∀ (script : CommandScript) (w₁ : World), script.isUnreachable = false → w₁.IsLed →
      w₁.commands.length = w.commands.length → w₁.inventory = w.inventory → T.Acts w₁ (do
        note fun r => { r with launches := r.launches ++ [launch] }
        if script.isMissing then World.fail (.toolMissing (programOf launch.command))
        else
          let number := w.commands.length
          modify fun w => { w with commands := w.commands ++ [{ script }] }
          let spawned ← spawn (.communicate number)
          World.under (.program (.finished number launch.command limit))
            (waitLimited spawned.2 (Decimal.clockMilliseconds limit))) fun T' w' next => T'.Calls w w' next := by
    intro script w₁ hscript hled₁ hlength hinventory
    refine (note_does _).acts fun w₂ _ hmoves₂ hinventory₂ => ?_
    have hsame := hinventory₂.trans hinventory
    split
    · refine .pure fun _ => ⟨steers_give _, congrArg _ hsame, congrArg _ hsame, congrArg _ hsame,
        fun _ hp => absurd hp List.not_mem_nil, fun n hn => .inl (hsame ▸ hn)⟩
    · refine (addCommand_acts hscript).bind ?_
      rintro T₃ w₃ - hmoves₃ - ⟨rfl, hchanged⟩
      have hlength₂ : w₂.commands.length = w.commands.length := congrArg Inventory.commands hsame
      have hlength₃ : w₃.inventory.commands = w.inventory.commands + 1 := by
        rw [hchanged]
        simp [inventory, hlength₂]
      -- who waits for the output may rely on the end of the command, unless it gives up
      refine (spawn_acts (fun q => ⟨.ran w.commands.length, .upon q⟩) fun q => ?_).bind ?_
      · refine chain_singleton (.ran w.commands.length) rfl (.refl _) (fun h => (by cases h)) fun n hn => ?_
        obtain rfl := Option.some.inj hn
        show w.commands.length < w₃.inventory.commands
        rw [hlength₃]
        exact Nat.lt_succ_self _
      · rintro T₄ w₄ ⟨task, output⟩ hmoves₄ - ⟨hpledge, hgiven, -, hinventory₄⟩
        have hmeets : Pledge.Meets output ⟨.ran w.commands.length, .upon output⟩
            (.program (.finished w.commands.length launch.command limit)) := rfl
        have hled₄ := hmoves₄.isLed (hmoves₃.isLed (hmoves₂.isLed hled₁))
        refine (waitLimited_leads _ hled₄ hpledge hmeets fun _ => hgiven).imp ?_
        rintro T₅ w₅ next - - ⟨hsteers, hinventory₅, front, hpoints, hfront⟩
        have hsame₅ : w₅.inventory = w₃.inventory := hinventory₅.trans hinventory₄
        have hbonds : w₃.inventory.bonds = w.inventory.bonds := by rw [← hsame, hchanged]; rfl
        have hpipes : w₃.inventory.pipes = w.inventory.pipes := by rw [← hsame, hchanged]; rfl
        have hprocesses : w₃.inventory.processes = w.inventory.processes := by rw [← hsame, hchanged]; rfl
        refine ⟨hsteers, hsame₅ ▸ hbonds, hsame₅ ▸ hpipes, hsame₅ ▸ hprocesses, fun p hp => ?_, fun n hn => ?_⟩
        · rw [hpoints] at hp
          rcases List.mem_append.1 hp with hp | hp
          · have hwait := hfront p hp
            cases p with
            | wait => rfl
            | _ => cases hwait
          · exact List.mem_singleton.1 hp ▸ rfl
        · rw [hsame₅, hlength₃] at hn
          rcases Nat.lt_succ_iff_lt_or_eq.1 hn with hold | rfl
          · exact .inl hold
          · refine .inr ⟨launch.command, limit, ?_⟩
            rw [hpoints]
            exact List.mem_append_right _ (List.mem_singleton.2 rfl)
  split
  · exact hrun _ w hw.obliging.version hled rfl rfl
  · refine Acts.bind (Acts.modify (fun hw => ⟨hw.sound, hw.staffed, hw.processes, hw.commands, hw.channels,
      hw.connections, hw.obliging⟩) rfl (.refl _)) ?_
    rintro T₁ w₁ - hmoves₁ - ⟨rfl, hchanged⟩
    refine hrun _ w₁ ?_ (hmoves₁.isLed hled) (by rw [hchanged]) (by rw [hchanged]; rfl)
    cases hscript : repeating w.runScripts w.runCount with
    | none => rfl
    | some script => exact hw.obliging.runs script (mem_of_repeating hscript)

theorem compile_calls (uri text : String) (settings : Settings) (compiler : Option String)
    (limit : Option Int) (hled : w.IsLed) :
    T.Acts w (compile uri text settings compiler limit) fun T' w' next => T'.Calls w w' next := by
  unfold compile
  split
  · exact give_calls _
  · refine Acts.get fun _ => ?_
    split
    · exact give_calls _
    · exact give_calls _
    · exact Acts.under _ ((runCommand_calls _ _ hled).imp fun _ _ _ _ _ hcalls => hcalls.under rfl rfl)

theorem askVersion_calls (compiler : String) (hled : w.IsLed) :
    T.Acts w (askVersion compiler) fun T' w' next => T'.Calls w w' next := by
  refine Acts.get fun _ => ?_
  split
  · exact give_calls _
  · exact give_calls _
  · exact Acts.under _ ((runCommand_calls _ _ hled).imp fun _ _ _ _ _ hcalls => hcalls.under rfl rfl)

theorem testCompiler_calls (compiler : String) (hled : w.IsLed) :
    T.Acts w (testCompiler compiler) fun T' w' next => T'.Calls w w' next :=
  Acts.under _ ((askVersion_calls compiler hled).imp fun _ _ _ _ _ hcalls => hcalls.under rfl rfl)

/-- A command that is killed has ended. -/
theorem killCommand_acts (number : Nat) : T.Acts w (killCommand number) fun T' w' _ =>
    T' = T ∧ w'.inventory = w.inventory ∧ (number < w.inventory.commands → w'.ended.command number) := by
  refine .of_holds fun hw => (updateCommand_does number (fun c => ?_) fun c hc => ?_).imp ?_
  · split <;> rfl
  · split
    · exact hc
    · rfl
  · rintro T' w' - - - ⟨rfl, hinventory, hchanged⟩
    refine ⟨rfl, hinventory, fun hlt => ?_⟩
    have hlt : number < w.commands.length := hlt
    show ((w'.commands[number]?).bind (·.code)).isSome
    simp [hchanged, hlt, hw.commands _ (List.getElem_mem hlt)]

/-- Where a command was run, the first task goes on at once, and the command has ended. -/
theorem calling_acts (hcalling : point.isCalling = true) (hwait : point.isWait = false)
    (haccepts : point.Accepts w.ended outcome) :
    T.Acts w (point.resume outcome) fun _ w' next => (∃ told, next = .go told []) ∧
      w'.inventory = w.inventory ∧ ∀ number command limit, point = .program (.finished number command limit) →
        number < w.inventory.commands → w'.ended.command number := by
  have hgive : ∀ told, (∀ number command limit, point ≠ .program (.finished number command limit)) →
      T.Acts w (give told) fun _ w' next => (∃ told, next = .go told []) ∧
        w'.inventory = w.inventory ∧ ∀ number command limit, point = .program (.finished number command limit) →
          number < w.inventory.commands → w'.ended.command number :=
    fun told hne => .pure fun _ => ⟨⟨told, rfl⟩, rfl, fun _ _ _ heq => absurd heq (hne _ _ _)⟩
  cases point with
  | wait point => cases hwait
  | program point =>
    cases point with
    | finished number command limit =>
      cases outcome with
      | ok answer =>
        have hended : w.ended.command number := haccepts.1 answer rfl
        refine Acts.get fun _ => ?_
        split <;>
        · refine .pure fun _ => ⟨⟨_, rfl⟩, rfl, fun _ _ _ heq _ => ?_⟩
          cases heq
          exact hended
      | error failure =>
        -- A command that took too long is killed, and has ended then.
        obtain rfl := haccepts.2 failure rfl
        refine (killCommand_acts number).bind ?_
        rintro _ w₁ _ - - ⟨rfl, hinventory, hended⟩
        refine .pure fun _ => ⟨⟨_, rfl⟩, hinventory, fun _ _ _ heq hlt => ?_⟩
        cases heq
        exact hended hlt
    | probed | tested | compiled =>
      cases outcome with
      | ok answer => cases answer <;> exact hgive _ fun _ _ _ h => by cases h
      | error failure => cases failure <;> exact hgive _ fun _ _ _ h => by cases h
    | _ => cases hcalling
  | _ => cases hcalling

end Trust

/-! ## Stages -/

/-- What a task that goes on at once is told. -/
def tells? : Next → Option Outcome
  | .go outcome _ => some outcome
  | .wait _ _ => none

/-- There is no connection and no process. -/
structure Inventory.IsBare (I : Inventory) : Prop where
  /-- There is no connection. -/
  bonds : I.bonds = []
  /-- There is no channel. -/
  pipes : I.pipes = []
  /-- There is no process. -/
  processes : I.processes = 0

/-- There is one connection, which starts and has a channel to no process yet. -/
structure Inventory.IsLinked (I : Inventory) : Prop where
  /-- The connection starts. -/
  bonds : I.bonds = [(.starting, some 0)]
  /-- Its channel leads nowhere yet. -/
  pipes : I.pipes = [none]

/-- All commands have ended. -/
def Inventory.IsQuiet (e : Ended) (I : Inventory) : Prop :=
  ∀ number < I.commands, e.command number

/-- The points at which a check has a connection and does not stop it yet. -/
def Point.Keeps (T : Trust) : Point → Prop
  | .tool (.connected _ 0 received _) => T.pledges[received]? = some (.reply received)
  | .tool (.received _ 0) => True
  | _ => False

namespace Trust

/-- How far the first task of a check is, by what it is told and its points. -/
inductive Stage (T : Trust) (e : Ended) (I : Inventory) (told : Option Outcome) (stack : List Point) : Prop
  /-- It runs commands: each has ended, or is waited for. -/
  | calling (front : List Point) (last : Point) (hstack : stack = front ++ [last]) (hbare : I.IsBare)
      (hlast : last.isChecking = true) (hfront : ∀ point ∈ front, point.isCalling = true)
      (hcommands : ∀ number < I.commands, e.command number ∨
        ∃ command limit, .program (.finished number command limit) ∈ front)
  /-- It starts a process. -/
  | launching (front : List Point) (script : CompanionScript) (command : List String) (hold : Point)
      (check : Check) (hstack : stack = front ++ [.program (.starting script command), .channel (.opened 0),
        .connection (.opened 0 0), hold, .tool (.consulted check)])
      (hlinked : I.IsLinked) (hprocesses : I.processes = 0) (hquiet : I.IsQuiet e)
      (hscript : script.isUnreachable = false) (hfront : ∀ point ∈ front, point.isWait = true)
      (hkeeps : hold.Keeps T)
  /-- It has started a process, or has failed to. -/
  | launched (hold : Point) (check : Check) (hstack : stack = [.channel (.opened 0),
        .connection (.opened 0 0), hold, .tool (.consulted check)])
      (hlinked : I.IsLinked) (hquiet : I.IsQuiet e) (hkeeps : hold.Keeps T)
      (htold : told = some (.ok (.process 0)) ∧ I.processes = 1 ∨
        (∃ failure, told = some (.error failure)) ∧ I.processes = 0)
  /-- It has got a channel to a process. -/
  | opened (hold : Point) (check : Check) (hstack : stack = [.connection (.opened 0 0), hold,
        .tool (.consulted check)])
      (hbonds : I.bonds = [(.starting, some 0)]) (hpipes : I.pipes = [some 0]) (hprocesses : I.processes = 1)
      (hquiet : I.IsQuiet e) (hkeeps : hold.Keeps T) (htold : ∃ answer, told = some (.ok answer))
  /-- Its connection holds a process. -/
  | holding (front : List Point) (hold : Point) (check : Check)
      (hstack : stack = front ++ [hold, .tool (.consulted check)]) (hheld : I.IsHeld) (hquiet : I.IsQuiet e)
      (hfront : ∀ point ∈ front, point.isWait = true ∨ ∃ answer, point = .connection (.greeted 0 0 answer))
      (hkeeps : hold.Keeps T)
  /-- It has nothing left to start, and sees to the process. -/
  | late (hprocesses : I.processes ≤ 1) (hquiet : I.IsQuiet e)
      (hlate : ∀ point ∈ stack, point.IsLate T I.processes) (hattends : I.processes = 1 → Attends e I stack)

variable {T T' : Trust} {e e' : Ended} {I I' : Inventory} {told told' : Option Outcome} {stack rest : List Point}
  {point : Point} {outcome : Outcome} {w w' : World}

/-! ## What stays so -/

theorem keeps_mono (h : point.Keeps T) (hgrows : T.Grows T') : point.Keeps T' := by
  cases point with
  | tool point =>
    cases point with
    | connected check number received uri =>
      cases number with
      | zero => exact hgrows.pledges _ _ h
      | succ number => exact h.elim
    | received check number => cases number <;> exact h
    | _ => exact h.elim
  | _ => exact h.elim

theorem late_mono {n : Nat} (h : point.IsLate T n) (hgrows : T.Grows T') : point.IsLate T' n := by
  cases point with
  | tool point =>
    cases point with
    | connected check number received uri => exact hgrows.pledges _ _ h
    | _ => exact h
  | channel point => cases point <;> exact h
  | connection point => cases point <;> exact h
  | _ => exact h

/-- Where a check has a connection, it has nothing left to start. -/
theorem late_of_keeps {n : Nat} (h : point.Keeps T) : point.IsLate T n := by
  cases point with
  | tool point =>
    cases point with
    | connected check number received uri =>
      cases number with
      | zero => exact h
      | succ number => exact h.elim
    | received check number => trivial
    | _ => exact h.elim
  | _ => exact h.elim

theorem quiet_mono (h : I.IsQuiet e) (hgrow : e.Grow e') : I.IsQuiet e' :=
  fun number hnumber => hgrow.command number (h number hnumber)

theorem attends_mono (h : Attends e I stack) (hgrow : e.Grow e') : Attends e' I stack :=
  h.imp_left (hgrow.process 0)

namespace Stage

theorem mono (h : T.Stage e I told stack) (hgrows : T.Grows T') (hgrow : e.Grow e') :
    T'.Stage e' I told stack := by
  cases h with
  | calling front last hstack hbare hlast hfront hcommands =>
    exact .calling front last hstack hbare hlast hfront fun number hnumber =>
      (hcommands number hnumber).imp_left (hgrow.command number)
  | launching front script command hold check hstack hlinked hprocesses hquiet hscript hfront hkeeps =>
    exact .launching front script command hold check hstack hlinked hprocesses (quiet_mono hquiet hgrow) hscript
      hfront (keeps_mono hkeeps hgrows)
  | launched hold check hstack hlinked hquiet hkeeps htold =>
    exact .launched hold check hstack hlinked (quiet_mono hquiet hgrow) (keeps_mono hkeeps hgrows) htold
  | opened hold check hstack hbonds hpipes hprocesses hquiet hkeeps htold =>
    exact .opened hold check hstack hbonds hpipes hprocesses (quiet_mono hquiet hgrow) (keeps_mono hkeeps hgrows)
      htold
  | holding front hold check hstack hheld hquiet hfront hkeeps =>
    exact .holding front hold check hstack hheld (quiet_mono hquiet hgrow) hfront (keeps_mono hkeeps hgrows)
  | late hprocesses hquiet hlate hattends =>
    exact .late hprocesses (quiet_mono hquiet hgrow) (fun point hpoint => late_mono (hlate point hpoint) hgrows)
      fun hone => attends_mono (hattends hone) hgrow

/-- Who waits may be told anything. -/
theorem wakes (h : T.Stage e I none stack) (told : Option Outcome) : T.Stage e I told stack := by
  cases h with
  | calling front last hstack hbare hlast hfront hcommands =>
    exact .calling front last hstack hbare hlast hfront hcommands
  | launching front script command hold check hstack hlinked hprocesses hquiet hscript hfront hkeeps =>
    exact .launching front script command hold check hstack hlinked hprocesses hquiet hscript hfront hkeeps
  | launched hold check hstack hlinked hquiet hkeeps htold => simp at htold
  | opened hold check hstack hbonds hpipes hprocesses hquiet hkeeps htold => simp at htold
  | holding front hold check hstack hheld hquiet hfront hkeeps =>
    exact .holding front hold check hstack hheld hquiet hfront hkeeps
  | late hprocesses hquiet hlate hattends => exact .late hprocesses hquiet hlate hattends

/-- Who has no points left has nothing left to start, whatever it is told. -/
theorem stops (h : T.Stage e I told []) (T' : Trust) (told' : Option Outcome) : T'.Stage e I told' [] := by
  cases h with
  | late hprocesses hquiet hlate hattends =>
    exact .late hprocesses hquiet (fun _ hpoint => absurd hpoint List.not_mem_nil) hattends
  | _ => simp_all

/-- Who has no points left has seen to all commands and processes. -/
theorem ends (h : T.Stage e I told []) : I.IsQuiet e ∧ ∀ number < I.processes, e.process number := by
  cases h with
  | late hprocesses hquiet hlate hattends =>
    refine ⟨hquiet, fun number hnumber => ?_⟩
    obtain rfl : number = 0 := by omega
    rcases hattends (by omega) with hended | ⟨front, point, rest, hstack, -⟩
    · exact hended
    · simp at hstack
  | _ => simp_all

/-- Who waited goes on at the same stage, whether it waits for something else now or not. -/
theorem waits {waiting : WaitPoint} (h : T.Stage e I told (.wait waiting :: rest)) {front : List Point}
    (hfront : ∀ point ∈ front, point.isWait = true) (told' : Option Outcome) :
    T.Stage e I told' (front ++ rest) := by
  -- by the stage: where there is a point to wait at, it is the first of those in front
  cases h with
  | calling before last hstack hbare hlast hbefore hcommands =>
    cases before with
    | nil =>
      obtain ⟨rfl, -⟩ := List.cons.inj hstack
      cases hlast
    | cons first before =>
      obtain ⟨rfl, rfl⟩ := List.cons.inj hstack
      refine .calling (front ++ before) last (by simp) hbare hlast (fun point hpoint => ?_)
        fun number hnumber => ?_
      · rcases List.mem_append.1 hpoint with hpoint | hpoint
        · cases point with
          | wait point => rfl
          | _ => cases hfront _ hpoint
        · exact hbefore point (List.mem_cons_of_mem _ hpoint)
      · refine (hcommands number hnumber).imp_right ?_
        rintro ⟨command, limit, hmem⟩
        refine ⟨command, limit, List.mem_append_right _ ?_⟩
        simpa using hmem
  | launching before script command hold check hstack hlinked hprocesses hquiet hscript hbefore hkeeps =>
    cases before with
    | nil => cases (List.cons.inj hstack).1
    | cons first before =>
      obtain ⟨rfl, rfl⟩ := List.cons.inj hstack
      refine .launching (front ++ before) script command hold check (by simp) hlinked hprocesses hquiet hscript
        (fun point hpoint => ?_) hkeeps
      exact (List.mem_append.1 hpoint).elim (hfront point) fun hmem => hbefore point (List.mem_cons_of_mem _ hmem)
  | launched hold check hstack => cases (List.cons.inj hstack).1
  | opened hold check hstack => cases (List.cons.inj hstack).1
  | holding before hold check hstack hheld hquiet hbefore hkeeps =>
    cases before with
    | nil =>
      obtain ⟨rfl, -⟩ := List.cons.inj hstack
      exact hkeeps.elim
    | cons first before =>
      obtain ⟨rfl, rfl⟩ := List.cons.inj hstack
      refine .holding (front ++ before) hold check (by simp) hheld hquiet (fun point hpoint => ?_) hkeeps
      exact (List.mem_append.1 hpoint).elim (fun hmem => .inl (hfront point hmem)) fun hmem =>
        hbefore point (List.mem_cons_of_mem _ hmem)
  | late hprocesses hquiet hlate hattends =>
    refine .late hprocesses hquiet (fun point hpoint => ?_) fun hone => (hattends hone).imp_right ?_
    · exact (List.mem_append.1 hpoint).elim (fun hmem => late_of_isWait (hfront point hmem)) fun hmem =>
        hlate point (List.mem_cons_of_mem _ hmem)
    · rintro ⟨before, point, below, hstack, hbefore, hpoint⟩
      cases before with
      | nil =>
        obtain ⟨rfl, -⟩ := List.cons.inj hstack
        rcases hpoint with heq | ⟨heq, -⟩ <;> cases heq
      | cons first before =>
        obtain ⟨rfl, rfl⟩ := List.cons.inj hstack
        refine ⟨front ++ before, point, below, by simp, fun point hpoint => ?_, hpoint⟩
        exact (List.mem_append.1 hpoint).elim (hfront point) fun hmem =>
          hbefore point (List.mem_cons_of_mem _ hmem)

/-- When somebody takes leave of a process that has ended, the first task has nothing left to start. -/
theorem leaves (h : T.Stage e I none stack) (hbound : ∀ number, e.process number → number < I.processes)
    {process : Nat} (hended : e.process process) (hprocesses : I'.processes = I.processes)
    (hcommands : I'.commands = I.commands) : T.Stage e I' none stack := by
  -- before a process is started none has ended, and while one is being started only the first task runs
  have hlt := hbound process hended
  have hquiet' : I.IsQuiet e → I'.IsQuiet e := fun hquiet number hnumber => hquiet number (hcommands ▸ hnumber)
  cases h with
  | calling front last hstack hbare =>
    rw [hbare.processes] at hlt
    exact absurd hlt (Nat.not_lt_zero _)
  | launching front script command hold check hstack hlinked hnone =>
    rw [hnone] at hlt
    exact absurd hlt (Nat.not_lt_zero _)
  | launched hold check hstack hlinked hquiet hkeeps htold => simp at htold
  | opened hold check hstack hbonds hpipes hone hquiet hkeeps htold => simp at htold
  | holding front hold check hstack hheld hquiet hfront hkeeps =>
    have hone := hheld.processes
    obtain rfl : process = 0 := by omega
    -- from here on the first task only stops the connection, or finds it stopped
    refine .late (by omega) (hquiet' hquiet) (fun point hpoint => ?_) fun _ => .inl hended
    rw [hstack] at hpoint
    rcases List.mem_append.1 hpoint with hpoint | hpoint
    · rcases hfront point hpoint with hwait | ⟨answer, rfl⟩
      · exact late_of_isWait hwait
      · trivial
    · rcases List.mem_cons.1 hpoint with rfl | hpoint
      · exact late_of_keeps hkeeps
      · exact List.mem_singleton.1 hpoint ▸ trivial
  | late hsingle hquiet hlate hattends =>
    obtain rfl : process = 0 := by omega
    exact .late (by omega) (hquiet' hquiet) (hprocesses ▸ hlate) fun _ => .inl hended

end Stage

end Trust

end BasiliskServer.World
