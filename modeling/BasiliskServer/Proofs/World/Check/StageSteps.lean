import BasiliskServer.Proofs.World.Check.Stages

/-!
# From stage to stage

Every step of the first task of a check leads from a stage to a stage (`Trust.resume_leads`): one lemma
for each stage says what the task reaches from there.
-/

namespace BasiliskServer.World

open Json (Value Fields)
open Tasks (Notice Scheduler)

namespace Trust

variable {T T' : Trust} {e e' : Ended} {I I' : Inventory} {told told' : Option Outcome} {stack rest : List Point}
  {point : Point} {outcome : Outcome} {w w' : World}

/-! ## Steps of the first task -/

/-- An activity of the first task of a check goes on with what it relies on above some points, and leads to a
stage. -/
structure Reaches (T : Trust) (w : World) (rest : List Point) (next : Next) : Prop where
  /-- It goes on with what it relies on. -/
  steers : T.Steers w.ended rest next
  /-- It leads to a stage. -/
  stage : T.Stage w.ended w.inventory (tells? next) (points next ++ rest)

/-- A check may be over where nothing was started that has not ended. -/
theorem reaches_give (hbare : w.inventory.IsBare) (hquiet : w.inventory.IsQuiet w.ended) (outcome : Outcome) :
    T.Reaches w [] (.go outcome []) := by
  have hzero := hbare.processes
  refine ⟨steers_give outcome, .late (by omega) hquiet (fun _ hpoint => absurd hpoint List.not_mem_nil) ?_⟩
  omega

/-- A check that at most runs a command goes on where commands are run. -/
theorem Calls.reaches {next : Next} (h : T'.Calls w w' next) (hmoves : T.Moves w T' w')
    (hbare : w.inventory.IsBare) (hquiet : w.inventory.IsQuiet w.ended) (heasy : point.isEasy = true)
    (hchecking : point.isChecking = true) : T'.Reaches w' [] (next.under point) := by
  refine ⟨h.steers.under heasy, .calling (points next) point (by simp [points_under])
    ⟨h.bonds.trans hbare.bonds, h.pipes.trans hbare.pipes, h.processes.trans hbare.processes⟩ hchecking h.calling
    fun number hnumber => ?_⟩
  exact (h.commands number hnumber).imp_left fun hold => hmoves.ends.command number (hquiet number hold)

/-- A connection is made. -/
theorem newConnection_acts {connection : Connection} (hbinds : T.Binds connection) :
    T.Acts w (newConnection connection) fun T' w' number => T' = T ∧ number = w.connections.length ∧
      w' = { w with connections := w.connections ++ [connection] } := by
  refine Acts.get fun _ => ?_
  refine Acts.bind (Acts.modify (fun hw => ⟨hw.sound, hw.staffed, hw.processes, hw.commands, hw.channels,
    fun c hc => ?_, hw.obliging⟩) rfl (.refl _)) ?_
  · exact (List.mem_append.1 hc).elim (hw.connections c) fun hnew => List.mem_singleton.1 hnew ▸ hbinds
  · rintro T' w' - - - ⟨rfl, rfl⟩
    exact .pure fun _ => ⟨rfl, rfl, rfl⟩

/-- A channel is made. -/
theorem newChannel_acts (command : List String) (owner : Owner) :
    T.Acts w (newChannel command owner) fun T' w' number => T' = T ∧ number = w.channels.length ∧
      w' = { w with channels := w.channels ++
        [{ command, owner, decoder := { nesting := w.host.nesting } }] } := by
  refine Acts.get fun _ => ?_
  refine Acts.bind (Acts.modify (fun hw => ⟨hw.sound, hw.staffed, hw.processes, hw.commands,
    fun c hc => ?_, hw.connections, hw.obliging⟩) rfl (.refl _)) ?_
  · refine (List.mem_append.1 hc).elim (hw.channels c) fun hnew => ?_
    obtain rfl := List.mem_singleton.1 hnew
    exact ⟨fun _ h => (by cases h), fun _ h => absurd h List.not_mem_nil, fun _ h => absurd h List.not_mem_nil⟩
  · rintro T' w' - - - ⟨rfl, rfl⟩
    exact .pure fun _ => ⟨rfl, rfl, rfl⟩

/-- A process is about to be started; it can be asked to end. -/
theorem startCompanion_acts (command : List String) :
    T.Acts w (startCompanion command) fun T' w' next => T'.Steers w'.ended [] next ∧
      w'.inventory = w.inventory ∧ ∃ front script, script.isUnreachable = false ∧
        points next = front ++ [.program (.starting script command)] ∧ ∀ p ∈ front, p.isWait = true := by
  refine Acts.get fun hw => ?_
  have hscript : ((repeating w.companions w.companionCount).getD {}).isUnreachable = false := by
    cases hscript : repeating w.companions w.companionCount with
    | none => rfl
    | some script => exact hw.obliging.companions script (mem_of_repeating hscript)
  refine Acts.bind (Acts.modify (fun hw => ⟨hw.sound, hw.staffed, hw.processes, hw.commands, hw.channels,
    hw.connections, hw.obliging⟩) rfl (.refl _)) ?_
  rintro _ w₁ - - - ⟨rfl, rfl⟩
  refine (note_does _).acts fun w₂ _ _ hinventory => ?_
  split
  · refine Acts.under _ (.pure fun _ => ⟨⟨trivial, trivial⟩, hinventory, [], _, hscript, rfl, ?_⟩)
    exact fun _ h => absurd h List.not_mem_nil
  · refine (sleep_leads _ rfl).imp ?_
    rintro T' w₃ next - - ⟨hsteers, hinventory₃, front, hpoints, hfront⟩
    exact ⟨hsteers, hinventory₃.trans hinventory, front, _, hscript, hpoints, hfront⟩

/-- The only connection begins to start. -/
theorem beginStart_acts (command : List String) {phase : Phase} {channel : Option Nat}
    (hbonds : w.inventory.bonds = [(phase, channel)]) (hpipes : w.inventory.pipes = []) :
    T.Acts w (beginStart 0 command) fun _ w' channel => channel = 0 ∧ w'.inventory.IsLinked ∧
      (∃ decoder, w'.channels = [{ command, owner := .connection 0, decoder }]) ∧
        w'.inventory.processes = w.inventory.processes ∧ w'.inventory.commands = w.inventory.commands := by
  refine (promise_acts 0 fun _ => .free).bind fun T₁ w₁ started _ _ hpledge => ?_
  have hsame := hpledge.2.2.1
  obtain ⟨c, hc, -⟩ := connection_of_bonds (hsame ▸ hbonds)
  have hchannels : w₁.channels = [] := List.map_eq_nil_iff.1 (hsame ▸ hpipes)
  refine (newChannel_acts command (.connection 0)).bind ?_
  rintro _ w₂ _ - - ⟨rfl, rfl, hchanged₂⟩
  refine Acts.bind (updateConnection_acts 0 fun c h =>
    ⟨fun q hq => ?_, h.listener, h.greeting, h.parting, h.room⟩) ?_
  · obtain rfl := Option.some.inj hq
    exact hpledge.1
  · rintro T' w₃ - - - ⟨rfl, hchanged₃⟩
    have hprocesses : w₃.inventory.processes = w.inventory.processes := by
      rw [hchanged₃, hchanged₂, ← hsame]
      rfl
    have hcommands : w₃.inventory.commands = w.inventory.commands := by
      rw [hchanged₃, hchanged₂, ← hsame]
      rfl
    refine .pure fun _ => ⟨by rw [hchannels]; rfl, ⟨?_, ?_⟩, ?_, hprocesses, hcommands⟩
    · simp [hchanged₃, hchanged₂, inventory, hc, hchannels]
    · simp [hchanged₃, hchanged₂, inventory, hchannels]
    · exact ⟨{ nesting := w₁.host.nesting }, by simp [hchanged₃, hchanged₂, hchannels]⟩

/-- The only connection is started, and with it a process. -/
theorem connect_acts {connection : Connection} (hconnections : w.connections = [connection])
    (hphase : connection.phase = .stopped) (hpipes : w.inventory.pipes = []) :
    T.Acts w (connect 0) fun T' w' next => T'.Steers w'.ended [] next ∧ w'.inventory.IsLinked ∧
      w'.inventory.processes = w.inventory.processes ∧ w'.inventory.commands = w.inventory.commands ∧
        ∃ front script command, script.isUnreachable = false ∧ (∀ p ∈ front, p.isWait = true) ∧
          points next = front ++ [.program (.starting script command), .channel (.opened 0),
            .connection (.opened 0 0)] := by
  refine Acts.get fun _ => ?_
  have hfirst : w.connections[0]? = some connection := by rw [hconnections]; rfl
  have hbonds : w.inventory.bonds = [(connection.phase, connection.channel)] := by
    simp [inventory, hconnections]
  simp only [hfirst, hphase]
  refine (beginStart_acts connection.config.command hbonds hpipes).bind ?_
  rintro T₁ w₁ _ - - ⟨rfl, hlinked, ⟨decoder, hchannels⟩, hprocesses, hcommands⟩
  refine Acts.under _ (Acts.get fun _ => ?_)
  simp only [hchannels, List.getElem?_cons_zero, Option.isSome_none, Bool.false_eq_true, if_false]
  refine Acts.under _ ((startCompanion_acts _).imp ?_)
  rintro T₂ w₂ next - - ⟨hsteers, hinventory, front, script, hscript, hpoints, hfront⟩
  refine ⟨(hsteers.under rfl).under rfl, hinventory ▸ hlinked, ?_, ?_, front, script,
    connection.config.command, hscript, hfront, ?_⟩
  · rw [hinventory, hprocesses]
  · rw [hinventory, hcommands]
  · simp [points_under, hpoints]

/-- A check that consults a companion process starts one, or fails before that. -/
theorem consult_reaches (check check' : Check) (hbare : w.inventory.IsBare)
    (hquiet : w.inventory.IsQuiet w.ended) :
    T.Acts w (under (.tool (.consulted check')) (consult check)) fun T' w' next => T'.Reaches w' [] next := by
  refine Acts.under _ (Acts.get fun _ => ?_)
  split
  · have hzero := hbare.processes
    refine .pure fun _ => ⟨⟨trivial, trivial⟩, .late (by omega) hquiet (fun point hpoint => ?_) (by omega)⟩
    exact List.mem_singleton.1 hpoint ▸ trivial
  · rename_i uri config _
    refine (promise_acts 0 .reply).bind fun T₁ w₁ received hmoves₁ _ hpledge => ?_
    -- the connection tells of the report by settling its promise, and waits for answers for some time
    refine (newConnection_acts
      ⟨fun _ h => (by cases h), ⟨uri, received, rfl, hpledge.1⟩, rfl, rfl, rfl⟩).bind ?_
    rintro _ w₂ _ hmoves₂ - ⟨rfl, rfl, hchanged⟩
    have hsame := hpledge.2.2.1
    have hnone : w₁.connections = [] := List.map_eq_nil_iff.1 (hsame ▸ hbare.bonds)
    have hpipes : w₂.inventory.pipes = [] := by
      rw [hchanged]
      exact (congrArg Inventory.pipes hsame).trans hbare.pipes
    have hprocesses : w₂.inventory.processes = 0 := by
      rw [hchanged]
      exact (congrArg Inventory.processes hsame).trans hbare.processes
    have hcommands : w₂.inventory.commands = w.inventory.commands := by rw [hchanged, ← hsame]; rfl
    rw [hnone]
    refine Acts.under _ ((connect_acts (by rw [hchanged, hnone]; rfl) rfl hpipes).imp ?_)
    rintro T₃ w₃ next hmoves₃ - ⟨hsteers, hlinked, hprocesses₃, hcommands₃, front, script, command, hscript,
      hfront, hpoints⟩
    refine ⟨(hsteers.under rfl).under rfl, .launching front script command
      (.tool (.connected check 0 received uri)) check' ?_ hlinked (hprocesses₃.trans hprocesses) (fun number hnumber => ?_) hscript hfront
        (hmoves₃.grows.pledges _ _ hpledge.1)⟩
    · simp [points_under, hpoints]
    · rw [hcommands₃, hcommands] at hnumber
      exact (hmoves₁.trans (hmoves₂.trans hmoves₃)).ends.command number (hquiet number hnumber)

/-- A check that may be over is over. -/
theorem conclude_reaches (check : Check) (consulted : Bool) (hbare : w.inventory.IsBare)
    (hquiet : w.inventory.IsQuiet w.ended) :
    T.Acts w (conclude check consulted) fun T' w' next => T'.Reaches w' [] next := by
  unfold conclude
  split <;> exact .pure fun _ => reaches_give hbare hquiet _

theorem continueCheck_reaches (check : Check) (hbare : w.inventory.IsBare)
    (hquiet : w.inventory.IsQuiet w.ended) :
    T.Acts w (continueCheck check) fun T' w' next => T'.Reaches w' [] next := by
  unfold continueCheck
  split
  · exact conclude_reaches check false hbare hquiet
  · refine Acts.get fun _ => ?_
    split
    · exact .pure fun _ => reaches_give hbare hquiet _
    · exact conclude_reaches check false hbare hquiet
    · exact consult_reaches check check hbare hquiet

theorem compileFor_reaches (check : Check) (hled : w.IsLed) (hbare : w.inventory.IsBare)
    (hquiet : w.inventory.IsQuiet w.ended) :
    T.Acts w (compileFor check) fun T' w' next => T'.Reaches w' [] next := by
  refine Acts.get fun _ => ?_
  split
  · exact .pure fun _ => reaches_give hbare hquiet _
  · exact Acts.under _ ((compile_calls _ _ _ _ _ hled).imp fun _ _ _ hmoves _ hcalls =>
      hcalls.reaches hmoves hbare hquiet rfl rfl)

theorem checkFile_reaches (request : CheckRequest) (hled : w.IsLed) (hbare : w.inventory.IsBare)
    (hquiet : w.inventory.IsQuiet w.ended) :
    T.Acts w (checkFile request) fun T' w' next => T'.Reaches w' [] next := by
  refine Acts.get fun _ => ?_
  split
  · exact .pure fun _ => reaches_give hbare hquiet _
  · exact .pure fun _ => reaches_give hbare hquiet _
  · unfold beginCheck
    split
    · refine Acts.get fun _ => ?_
      split
      · exact .pure fun _ => reaches_give hbare hquiet _
      · exact Acts.under _ ((testCompiler_calls _ hled).imp fun _ _ _ hmoves _ hcalls =>
          hcalls.reaches hmoves hbare hquiet rfl rfl)
      · exact compileFor_reaches _ hled hbare hquiet
    · exact continueCheck_reaches _ hbare hquiet

/-- Where a command was run for it, a check goes on. -/
theorem checking_reaches (hchecking : point.isChecking = true) (hled : w.IsLed) (hbare : w.inventory.IsBare)
    (hquiet : w.inventory.IsQuiet w.ended) :
    T.Acts w (point.resume outcome) fun T' w' next => T'.Reaches w' [] next := by
  have hgive : ∀ told, T.Acts w (give told) fun T' w' next => T'.Reaches w' [] next :=
    fun told => .pure fun _ => reaches_give hbare hquiet told
  cases point with
  | start activity =>
    cases activity with
    | check request =>
      cases outcome with
      | ok answer => exact checkFile_reaches request hled hbare hquiet
      | error failure => exact hgive _
    | _ => cases hchecking
  | tool point =>
    cases point with
    | tested check =>
      cases outcome with
      | ok answer =>
        cases answer with
        | bool works => exact compileFor_reaches _ hled hbare hquiet
        | _ => exact hgive _
      | error failure => exact hgive _
    | compiled check =>
      cases outcome with
      | ok answer =>
        cases answer with
        | findings findings => exact continueCheck_reaches _ hbare hquiet
        | _ => exact hgive _
      | error failure =>
        show T.Acts w (if failure.isExpected then _ else _) _
        split
        · exact continueCheck_reaches _ hbare hquiet
        · exact hgive _
    | _ => cases hchecking
  | _ => cases hchecking

/-- A process is started. -/
theorem addProcess_acts {script : CompanionScript} (hscript : script.isUnreachable = false) :
    T.Acts w (modify fun w => { w with processes := w.processes ++ [{ script }] } : Act Unit) fun T' w' _ =>
      T' = T ∧ w' = { w with processes := w.processes ++ [{ script }] } := by
  have hends : w.ended.Grow ({ w with processes := w.processes ++ [{ script }] } : World).ended :=
    ⟨fun _ h => Tasks.isSome_bind_append h _, fun _ h => h, fun _ h => h⟩
  refine Acts.modify (fun hw => ?_) rfl hends
  refine ⟨hw.sound.grow hends, hw.staffed, fun number p hp => ?_, hw.commands, fun c hc => ?_, hw.connections,
    hw.obliging⟩
  · rcases Tasks.getElem?_concat_cases hp with hold | ⟨-, rfl⟩
    · exact hw.processes number p hold
    · exact ⟨hscript, fun _ h => (by cases h), fun _ h => (by cases h), fun _ h => absurd h List.not_mem_nil⟩
  · exact (hw.channels c hc).mono .refl Unmoved.refl.keepsResults (by simp)

/-- The process is started that was about to be, or it cannot be. -/
theorem starting_acts {script : CompanionScript} {command : List String} (hscript : script.isUnreachable = false)
    (hnone : w.inventory.processes = 0) :
    T.Acts w ((Point.program (.starting script command)).resume outcome) fun _ w' next =>
      ∃ told, next = .go told [] ∧ (told = .ok (.process 0) ∧ w'.inventory = { w.inventory with processes := 1 } ∨
        (∃ failure, told = .error failure) ∧ w'.inventory = w.inventory) := by
  cases outcome with
  | error failure => exact .pure fun _ => ⟨_, rfl, .inr ⟨⟨_, rfl⟩, rfl⟩⟩
  | ok answer =>
    show T.Acts w (if script.isMissing then _ else _) _
    split
    · exact .pure fun _ => ⟨_, rfl, .inr ⟨⟨_, rfl⟩, rfl⟩⟩
    · have hnone : w.processes.length = 0 := hnone
      refine Acts.get fun _ => Acts.bind (addProcess_acts hscript) ?_
      rintro _ w₁ - - - ⟨rfl, rfl⟩
      refine .pure fun _ => ⟨_, rfl, .inl ⟨by rw [hnone], ?_⟩⟩
      simp [inventory, hnone]

/-- The tasks of the only channel begin. -/
theorem beginTraffic_acts (hpipes : w.inventory.pipes = [none]) (hprocesses : w.inventory.processes = 1) :
    T.Acts w (beginTraffic 0 0) fun _ w' next => next = .go (.ok .unit) [] ∧
      w'.inventory = { w.inventory with pipes := [some 0] } := by
  obtain ⟨c, hc, -⟩ := List.map_eq_singleton_iff.1 hpipes
  refine Acts.bind (updateChannel_acts 0 fun c _ h => ⟨fun number hnumber => ?_, h.answers, h.tasks⟩) ?_
  · obtain rfl := Option.some.inj hnumber
    show 0 < w.inventory.processes
    omega
  rintro _ w₁ - - - ⟨rfl, hchanged₁⟩
  -- nobody relies on the tasks of a channel
  have hreads : ∀ {w : World} {activity : Activity},
      (Point.start activity).brings? = some .nothing → (Point.start activity).command? = none →
      Pledge.Chain w.ended .free [.start activity] := fun hbrings hcommand =>
    chain_singleton _ hbrings (.refl _) (fun _ => rfl) fun _ h => by rw [hcommand] at h; cases h
  refine (spawn_acts (fun _ => .free) fun _ => hreads rfl rfl).bind ?_
  rintro T₂ w₂ ⟨reader, readerDone⟩ hmoves₂ - ⟨hpledge₂, -, ⟨hne₂, t₂, ht₂, rfl⟩, hinventory₂⟩
  refine (spawn_acts (fun _ => .free) fun _ => hreads rfl rfl).bind ?_
  rintro T₃ w₃ ⟨errors, errorsDone⟩ hmoves₃ - ⟨hpledge₃, -, ⟨hne₃, t₃, ht₃, rfl⟩, hinventory₃⟩
  refine (spawn_acts (fun _ => .free) fun _ => hreads rfl rfl).bind ?_
  rintro T₄ w₄ ⟨watcher, watcherDone⟩ hmoves₄ - ⟨hpledge₄, -, ⟨hne₄, t₄, ht₄, rfl⟩, hinventory₄⟩
  refine Does.acts (updateChannel_does 0 (fun c _ h => ⟨h.process, h.answers, fun number hnumber => ?_⟩)
    fun _ => rfl) fun w₅ _ _ hinventory₅ => .pure fun _ => ⟨rfl, ?_⟩
  · obtain ⟨u₃, hu₃, -, hresult₃⟩ := hmoves₄.unmoved.tasks _ _ ht₃
    obtain ⟨u₂, hu₂, -, hresult₂⟩ := (hmoves₃.trans hmoves₄).unmoved.tasks _ _ ht₂
    have hnumber : number = reader ∨ number = errors ∨ number = watcher := by simpa using hnumber
    rcases hnumber with rfl | rfl | rfl
    · exact ⟨hne₂, u₂, hu₂, hresult₂ ▸ (hmoves₃.trans hmoves₄).grows.pledges _ _ hpledge₂⟩
    · exact ⟨hne₃, u₃, hu₃, hresult₃ ▸ hmoves₄.grows.pledges _ _ hpledge₃⟩
    · exact ⟨hne₄, t₄, ht₄, hpledge₄⟩
  · rw [hinventory₅, hinventory₄, hinventory₃, hinventory₂, hchanged₁]
    simp [inventory, hc]

/-- Who has greeted a process holds it, or sees to it. -/
theorem greeted_acts {answer : Nat} (hled : w.IsLed) (hheld : w.inventory.IsHeld) :
    T.Acts w ((Point.connection (.greeted 0 0 answer)).resume outcome) fun T' w' next => T'.Winds w w' next ∧
      (Attends w'.ended w'.inventory (points next) ∨ w'.inventory.IsHeld ∧ points next = []) := by
  have hgive : ∀ told, T.Acts w (give told) fun T' w' next => T'.Winds w w' next ∧
      (Attends w'.ended w'.inventory (points next) ∨ w'.inventory.IsHeld ∧ points next = []) :=
    fun told => .pure fun _ => ⟨winds_give rfl rfl told, .inr ⟨hheld, rfl⟩⟩
  cases outcome with
  | ok value =>
    refine (isInPhase_acts _ _).bind ?_
    rintro T₁ w₁ starting - - ⟨rfl, rfl, -⟩
    cases starting with
    | true =>
      exact (becomeReady_acts 0 0 _).imp fun _ _ _ _ _ hpost =>
        ⟨hpost.1, .inr ⟨hpost.2.2 rfl hheld, hpost.2.1⟩⟩
    | false => exact hgive _
  | error failure =>
    -- A process that did not answer is held no longer: its channel is closed.
    show T.Acts w (if isUnanswered failure then _ else _) _
    split
    · refine (isInPhase_acts _ _).bind ?_
      rintro T₁ w₁ starting - - ⟨rfl, rfl, -⟩
      cases starting with
      | true =>
        exact Acts.under _ ((closeChannel_acts 0 hled).imp fun _ _ _ _ _ hpost =>
          ⟨hpost.1.under rfl trivial, .inl ((hpost.2 rfl hheld.pipes).under _)⟩)
      | false => exact hgive _
    · exact hgive _

/-- A check that has a connection waits for a report, or sees to the process. -/
theorem keeps_acts (hled : w.IsLed) (hheld : w.inventory.IsHeld) (hkeeps : point.Keeps T) :
    T.Acts w (point.resume outcome) fun T' w' next => T'.Winds w w' next ∧
      (Attends w'.ended w'.inventory (points next) ∨ w'.inventory.IsHeld ∧ ∃ front check,
        points next = front ++ [.tool (.received check 0)] ∧ ∀ p ∈ front, p.isWait = true) := by
  have hpart : ∀ check result, T.Acts w (partWith check 0 result) fun T' w' next => T'.Winds w w' next ∧
      (Attends w'.ended w'.inventory (points next) ∨ w'.inventory.IsHeld ∧ ∃ front check,
        points next = front ++ [.tool (.received check 0)] ∧ ∀ p ∈ front, p.isWait = true) :=
    fun check result => (partWith_acts check 0 result hled).imp fun _ _ _ _ _ hpost =>
      ⟨hpost.1, .inl (hpost.2 rfl hheld)⟩
  -- A check whose connection is ready waits for the report; any other parts with the connection.
  cases point with
  | tool point =>
    cases point with
    | connected check number received uri =>
      cases number with
      | zero =>
        cases outcome with
        | ok answer =>
          cases answer with
          | bool ready =>
            cases ready with
            | true =>
              refine (awaitReport_acts check 0 received uri hled hkeeps).imp fun T' w' next _ _ hpost =>
                ⟨hpost.1, (hpost.2 rfl hheld).imp_right ?_⟩
              rintro ⟨hheld', front, hpoints, hfront⟩
              exact ⟨hheld', front, check, hpoints, hfront⟩
            | false => exact hpart _ _
          | _ => exact hpart _ _
        | error failure => exact hpart _ _
      | succ number => exact hkeeps.elim
    | received check number =>
      cases number with
      | zero =>
        cases outcome with
        | ok answer =>
          cases answer with
          | json value => cases value <;> exact hpart _ _
          | _ => exact hpart _ _
        | error failure => cases failure <;> exact hpart _ _
      | succ number => exact hkeeps.elim
    | _ => exact hkeeps.elim
  | _ => exact hkeeps.elim

/-- Where nothing is started, nothing is left to start. -/
theorem Winds.stage {next : Next} (h : T'.Winds w w' next) (hmoves : T.Moves w T' w')
    (hsingle : w.inventory.processes ≤ 1) (hquiet : w.inventory.IsQuiet w.ended)
    (hrest : ∀ point ∈ rest, point.IsLate T w.inventory.processes)
    (hattends : w.inventory.processes = 1 → Attends w'.ended w'.inventory (points next ++ rest)) :
    T'.Stage w'.ended w'.inventory (tells? next) (points next ++ rest) := by
  have hsame := h.processes
  refine .late (hsame ▸ hsingle) (fun number hnumber => ?_) (fun point hpoint => ?_)
    fun hone => hattends (hsame ▸ hone)
  · rw [h.commands] at hnumber
    exact hmoves.ends.command number (hquiet number hnumber)
  · rw [hsame]
    exact (List.mem_append.1 hpoint).elim (h.late point) fun hmem => late_mono (hrest point hmem) hmoves.grows

theorem late_of_hold {hold : Point} {check : Check} {n : Nat} (hkeeps : hold.Keeps T) :
    ∀ p ∈ [hold, .tool (.consulted check)], p.IsLate T n := by
  intro p hp
  rcases List.mem_cons.1 hp with rfl | hp
  · exact late_of_keeps hkeeps
  · exact List.mem_singleton.1 hp ▸ trivial

section

variable (hled : w.IsLed) (heasy : ∀ other ∈ rest, other.isEasy = true)

include hled heasy

/-- While commands are run, either one of them is waited for, or all have ended and the check goes on. -/
theorem calling_reaches (hwait : point.isWait = false) (haccepts : point.Accepts w.ended outcome)
    (front : List Point) (last : Point) (hstack : point :: rest = front ++ [last])
    (hbare : w.inventory.IsBare) (hlast : last.isChecking = true)
    (hfront : ∀ point ∈ front, point.isCalling = true)
    (hcommands : ∀ number < w.inventory.commands, w.ended.command number ∨
      ∃ command limit, .program (.finished number command limit) ∈ front) :
    T.Acts w (point.resume outcome) fun T' w' next => T'.Reaches w' rest next := by
  cases front with
  | nil =>
    obtain ⟨rfl, rfl⟩ := List.cons.inj hstack
    refine checking_reaches hlast hled hbare fun number hnumber => ?_
    exact (hcommands number hnumber).resolve_right fun ⟨_, _, hmem⟩ => absurd hmem List.not_mem_nil
  | cons first front =>
    obtain ⟨rfl, rfl⟩ := List.cons.inj hstack
    refine (calling_acts (hfront _ List.mem_cons_self) hwait haccepts).imp ?_
    rintro T' w' next hmoves - ⟨⟨told, rfl⟩, hinventory, hended⟩
    refine ⟨(steers_give told).append heasy, .calling front last rfl (hinventory ▸ hbare) hlast
      (fun p hp => hfront p (List.mem_cons_of_mem _ hp)) fun number hnumber => ?_⟩
    rw [hinventory] at hnumber
    rcases hcommands number hnumber with hold | ⟨command, limit, hmem⟩
    · exact .inl (hmoves.ends.command number hold)
    -- a command that was waited for here has ended now
    · rcases List.mem_cons.1 hmem with heq | hmem
      · exact .inl (hended number command limit heq.symm hnumber)
      · exact .inr ⟨command, limit, hmem⟩

omit hled in
/-- A process is started, or is not. -/
theorem launching_reaches {script : CompanionScript} {command : List String} (hold : Point) (check : Check)
    (hrest : rest = [.channel (.opened 0), .connection (.opened 0 0), hold, .tool (.consulted check)])
    (hlinked : w.inventory.IsLinked) (hprocesses : w.inventory.processes = 0)
    (hquiet : w.inventory.IsQuiet w.ended) (hscript : script.isUnreachable = false)
    (hkeeps : hold.Keeps T) :
    T.Acts w ((Point.program (.starting script command)).resume outcome)
      fun T' w' next => T'.Reaches w' rest next := by
  refine (starting_acts hscript hprocesses).imp ?_
  rintro T' w' next hmoves - ⟨told, rfl, hor⟩
  have hquiet' := quiet_mono hquiet hmoves.ends
  refine ⟨(steers_give told).append heasy, ?_⟩
  rcases hor with ⟨rfl, hinventory⟩ | ⟨⟨failure, rfl⟩, hinventory⟩
  · refine .launched hold check hrest ⟨?_, ?_⟩ ?_ (keeps_mono hkeeps hmoves.grows) (.inl ⟨rfl, ?_⟩)
    · exact (congrArg Inventory.bonds hinventory).trans hlinked.bonds
    · exact (congrArg Inventory.pipes hinventory).trans hlinked.pipes
    · exact fun number hnumber => hquiet' number (by rw [hinventory] at hnumber; exact hnumber)
    · rw [hinventory]
  · rw [hinventory]
    exact .launched hold check hrest hlinked hquiet' (keeps_mono hkeeps hmoves.grows)
      (.inr ⟨⟨failure, rfl⟩, hprocesses⟩)

omit hled in
/-- The channel gets the process, or there is none and nothing is left to start. -/
theorem launched_reaches (hold : Point) (check : Check)
    (hrest : rest = [.connection (.opened 0 0), hold, .tool (.consulted check)])
    (hlinked : w.inventory.IsLinked) (hquiet : w.inventory.IsQuiet w.ended) (hkeeps : hold.Keeps T)
    (htold : outcome = .ok (.process 0) ∧ w.inventory.processes = 1 ∨
      (∃ failure, outcome = .error failure) ∧ w.inventory.processes = 0) :
    T.Acts w ((Point.channel (.opened 0)).resume outcome) fun T' w' next => T'.Reaches w' rest next := by
  subst hrest
  rcases htold with ⟨rfl, hone⟩ | ⟨⟨failure, rfl⟩, hnone⟩
  · refine (beginTraffic_acts hlinked.pipes hone).imp ?_
    rintro T' w' next hmoves - ⟨rfl, hinventory⟩
    refine ⟨(steers_give _).append heasy, .opened hold check rfl ?_ ?_ ?_ (fun number hnumber => ?_)
      (keeps_mono hkeeps hmoves.grows) ⟨_, rfl⟩⟩
    · exact (congrArg Inventory.bonds hinventory).trans hlinked.bonds
    · rw [hinventory]
    · exact (congrArg Inventory.processes hinventory).trans hone
    · exact hmoves.ends.command number (hquiet number (by rw [hinventory] at hnumber; exact hnumber))
  · refine .pure fun _ => ⟨(steers_give _).append heasy, .late (by omega) hquiet (fun p hp => ?_) (by omega)⟩
    rcases List.mem_cons.1 hp with rfl | hp
    · trivial
    · exact late_of_hold hkeeps p hp

/-- The process is greeted: no other task has run since its connection began to start. -/
theorem opened_reaches {answer : Answer} (hold : Point) (check : Check)
    (hrest : rest = [hold, .tool (.consulted check)])
    (hbonds : w.inventory.bonds = [(.starting, some 0)]) (hpipes : w.inventory.pipes = [some 0])
    (hprocesses : w.inventory.processes = 1) (hquiet : w.inventory.IsQuiet w.ended) (hkeeps : hold.Keeps T) :
    T.Acts w ((Point.connection (.opened 0 0)).resume (.ok answer))
      fun T' w' next => T'.Reaches w' rest next := by
  subst hrest
  refine (isInPhase_acts _ _).bind ?_
  rintro T₁ w₁ starting - - ⟨rfl, rfl, hstarting⟩
  rw [hstarting (some 0) (by rw [hbonds]; rfl)]
  refine (greet_acts 0 0 hled).imp ?_
  rintro T' w' next hmoves - ⟨hwinds, hinventory, hfront⟩
  refine ⟨hwinds.steers.append heasy, .holding (points next) hold check rfl ⟨?_, ?_, ?_⟩ ?_ hfront
    (keeps_mono hkeeps hmoves.grows)⟩
  · exact .inl (hinventory ▸ hbonds)
  · exact hinventory ▸ hpipes
  · exact hinventory ▸ hprocesses
  · exact hinventory ▸ quiet_mono hquiet hmoves.ends

/-- A connection holds the process: it goes on to do so, or the process is seen to. -/
theorem holding_reaches (hwait : point.isWait = false) (front : List Point) (hold : Point) (check : Check)
    (hstack : point :: rest = front ++ [hold, .tool (.consulted check)]) (hheld : w.inventory.IsHeld)
    (hquiet : w.inventory.IsQuiet w.ended)
    (hfront : ∀ point ∈ front, point.isWait = true ∨ ∃ answer, point = .connection (.greeted 0 0 answer))
    (hkeeps : hold.Keeps T) :
    T.Acts w (point.resume outcome) fun T' w' next => T'.Reaches w' rest next := by
  have hone := hheld.processes
  -- The holder itself goes on, or one of those above that the holder waits for.
  cases front with
  | nil =>
    obtain ⟨rfl, rfl⟩ := List.cons.inj hstack
    refine (keeps_acts hled hheld hkeeps).imp ?_
    rintro T' w' next hmoves - ⟨hwinds, hor⟩
    refine ⟨hwinds.steers.append heasy, ?_⟩
    rcases hor with hattends | ⟨hheld', front, check', hpoints, hfront'⟩
    · exact hwinds.stage hmoves (by omega) hquiet
        (fun p hp => late_of_hold hkeeps p (List.mem_cons_of_mem _ hp)) fun _ => hattends.append _
    · refine .holding front (.tool (.received check' 0)) check (by simp [hpoints]) hheld'
        (fun number hnumber => ?_) (fun p hp => .inl (hfront' p hp)) trivial
      rw [hwinds.commands] at hnumber
      exact hmoves.ends.command number (hquiet number hnumber)
  | cons first front =>
    obtain ⟨rfl, rfl⟩ := List.cons.inj hstack
    obtain ⟨answer, rfl⟩ := (hfront _ List.mem_cons_self).resolve_left (by simp [hwait])
    refine (greeted_acts hled hheld).imp ?_
    rintro T' w' next hmoves - ⟨hwinds, hor⟩
    refine ⟨hwinds.steers.append heasy, ?_⟩
    rcases hor with hattends | ⟨hheld', hpoints⟩
    · refine hwinds.stage hmoves (by omega) hquiet (fun p hp => ?_) fun _ => hattends.append _
      rcases List.mem_append.1 hp with hp | hp
      · rcases hfront p (List.mem_cons_of_mem _ hp) with hwaiting | ⟨other, rfl⟩
        · exact late_of_isWait hwaiting
        · trivial
      · exact late_of_hold hkeeps p hp
    · refine .holding front hold check (by simp [hpoints]) hheld' (fun number hnumber => ?_)
        (fun p hp => hfront p (List.mem_cons_of_mem _ hp)) (keeps_mono hkeeps hmoves.grows)
      rw [hwinds.commands] at hnumber
      exact hmoves.ends.command number (hquiet number hnumber)

/-- Nothing is left to start: whoever sees to the process goes on doing so, or it has ended. -/
theorem late_reaches (hwait : point.isWait = false) (haccepts : point.Accepts w.ended outcome)
    (hsingle : w.inventory.processes ≤ 1) (hquiet : w.inventory.IsQuiet w.ended)
    (hlate : ∀ other ∈ point :: rest, other.IsLate T w.inventory.processes)
    (hattends : w.inventory.processes = 1 → Attends w.ended w.inventory (point :: rest)) :
    T.Acts w (point.resume outcome) fun T' w' next => T'.Reaches w' rest next := by
  refine (resume_late hled hwait (hlate point List.mem_cons_self) haccepts).imp ?_
  rintro T' w' next hmoves - ⟨hwinds, hsees⟩
  refine ⟨hwinds.steers.append heasy, hwinds.stage hmoves hsingle hquiet
    (fun p hp => hlate p (List.mem_cons_of_mem _ hp)) fun hone => ?_⟩
  rcases hattends hone with hended | ⟨front, asked, below, hstack, hfront, hasked⟩
  · exact .inl (hmoves.ends.process 0 hended)
  · cases front with
    | nil =>
      obtain ⟨rfl, rfl⟩ := List.cons.inj hstack
      exact (hsees hasked).append _
    | cons first front =>
      obtain ⟨rfl, -⟩ := List.cons.inj hstack
      exact absurd (hfront _ List.mem_cons_self) (by simp [hwait])

/-- A step of the first task of a check at a point at which it does not wait leads from a stage to a stage. -/
theorem resume_reaches (hwait : point.isWait = false) (haccepts : point.Accepts w.ended outcome)
    (hstage : T.Stage w.ended w.inventory (some outcome) (point :: rest)) :
    T.Acts w (point.resume outcome) fun T' w' next => T'.Reaches w' rest next := by
  cases hstage with
  | calling front last hstack hbare hlast hfront hcommands =>
    exact calling_reaches hled heasy hwait haccepts front last hstack hbare hlast hfront hcommands
  | launching front script command hold check hstack hlinked hprocesses hquiet hscript hfront hkeeps =>
    cases front with
    | nil =>
      obtain ⟨rfl, hrest⟩ := List.cons.inj hstack
      exact launching_reaches heasy hold check hrest hlinked hprocesses hquiet hscript hkeeps
    | cons first front =>
      -- the point in front is waited for
      obtain ⟨rfl, -⟩ := List.cons.inj hstack
      exact absurd (hfront _ List.mem_cons_self) (by simp [hwait])
  | launched hold check hstack hlinked hquiet hkeeps htold =>
    obtain ⟨rfl, hrest⟩ := List.cons.inj hstack
    simp only [Option.some.injEq] at htold
    exact launched_reaches heasy hold check hrest hlinked hquiet hkeeps htold
  | opened hold check hstack hbonds hpipes hprocesses hquiet hkeeps htold =>
    obtain ⟨rfl, hrest⟩ := List.cons.inj hstack
    obtain ⟨answer, htold⟩ := htold
    obtain rfl := Option.some.inj htold
    exact opened_reaches hled heasy hold check hrest hbonds hpipes hprocesses hquiet hkeeps
  | holding front hold check hstack hheld hquiet hfront hkeeps =>
    exact holding_reaches hled heasy hwait front hold check hstack hheld hquiet hfront hkeeps
  | late hsingle hquiet hlate hattends =>
    exact late_reaches hled heasy hwait haccepts hsingle hquiet hlate hattends

end

/-- Every step of the first task of a check leads from a stage to a stage. -/
theorem resume_leads (hled : w.IsLed) (htakes : T.Takes w.ended (point :: rest) outcome)
    (hlayered : Layered (point :: rest)) (hstage : T.Stage w.ended w.inventory (some outcome) (point :: rest)) :
    T.Acts w (point.resume outcome) fun T' w' next => T'.Reaches w' rest next := by
  cases hwait : point.isWait with
  | true =>
    cases point with
    | wait waiting =>
      refine (wait_leads hled htakes hlayered).imp ?_
      rintro T' w' next hmoves - ⟨hsteers, hinventory, hfront⟩
      refine ⟨hsteers, ?_⟩
      rw [hinventory]
      exact (hstage.waits hfront _).mono hmoves.grows hmoves.ends
    | _ => cases hwait
  | false =>
    refine resume_reaches hled (easy_of_layered hlayered hwait) hwait ?_ hstage
    cases point with
    | wait waiting => cases hwait
    | _ => exact htakes

end Trust

end BasiliskServer.World
