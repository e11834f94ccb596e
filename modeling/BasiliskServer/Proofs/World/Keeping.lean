import BasiliskServer.Proofs.Rpc.Decisions
import BasiliskServer.Proofs.World.Posts

/-!
# What keeps a world in order

`Kept` says that everything in a world is as the ledger says: the scheduler keeps its books, and
processes, channels, connections and the keeper settle promises only as they may. `Moves` says that
the world has moved on with everything in order, with new entries in the ledger and without moving a
task. `Minds` lifts this to actions: whatever the ledger is, an action leaves everything in order and
comes to what is expected of it. Its rules follow the way actions are put together.
-/

namespace BasiliskServer.World

open Json (Value)
open Tasks (Notice Scheduler Standing)

/-! ## Schedulers that go on -/

/-- The same task runs at the same point, tasks may have begun, and what was settled is. -/
structure Onward (s s' : Scheduler Point Answer Hook) : Prop where
  /-- The same task runs. -/
  running : s'.running = s.running
  /-- No task was moved. -/
  standings : ∃ activities : List Activity,
    s'.standings = s.standings ++ activities.map fun activity => { stack := [.start activity] }
  /-- What was settled is as it was. -/
  outcomes : ∀ q outcome, s.outcome? q = some outcome → s'.outcome? q = some outcome

namespace Onward

variable {s s' s'' : Scheduler Point Answer Hook} {outcome : Outcome}

protected theorem refl : Onward s s :=
  ⟨rfl, ⟨[], by simp⟩, fun _ _ h => h⟩

protected theorem trans (h : Onward s s') (h' : Onward s' s'') : Onward s s'' where
  running := h'.running.trans h.running
  standings := by
    obtain ⟨activities, heq⟩ := h.standings
    obtain ⟨activities', heq'⟩ := h'.standings
    exact ⟨activities ++ activities', by rw [heq', heq, List.map_append, List.append_assoc]⟩
  outcomes := fun q outcome hq => h'.outcomes q outcome (h.outcomes q outcome hq)

/-- No task was touched. -/
theorem of_tasks (hrunning : s'.running = s.running) (htasks : s'.tasks = s.tasks)
    (houtcomes : ∀ q outcome, s.outcome? q = some outcome → s'.outcome? q = some outcome) :
    Onward s s' :=
  ⟨hrunning, ⟨[], by simp [Scheduler.standings, htasks]⟩, houtcomes⟩

theorem settle (q : Nat) : Onward s (s.settle q outcome) :=
  of_tasks (s.settle_same q outcome).1 (s.settle_same q outcome).2 fun _ _ => Scheduler.outcome?_settle

theorem observe (q : Nat) (notice : Notice Hook) : Onward s (s.observe q notice) := by
  obtain ⟨hrunning, htasks⟩ := s.observe_same q notice
  refine of_tasks hrunning htasks fun other known hknown => ?_
  rwa [Scheduler.outcome?_observe]

theorem addPromise (missing : Nat) : Onward s (s.addPromise missing).2 :=
  of_tasks rfl rfl fun _ _ h => Tasks.bind_append_of_some h _

theorem spawn (activity : Activity) : Onward s (s.spawn (.start activity)).2 where
  running := rfl
  standings := ⟨[activity], by simp [Scheduler.spawn, Scheduler.standings, Tasks.Task.standing]⟩
  outcomes := fun _ _ h => Tasks.bind_append_of_some h _

theorem addTimer (delay : Nat) (notice : Notice Hook) : Onward s (s.addTimer delay notice).2 :=
  of_tasks rfl rfl fun _ _ h => h

theorem stopTimer (number : Nat) : Onward s (s.stopTimer number) :=
  of_tasks rfl rfl fun _ _ h => h

theorem interrupt (task : Nat) : Onward s (s.interrupt task) := by
  -- a task that is marked stands where it did
  have hmark : ∀ t, s.tasks[task]? = some t →
      Onward s { s with tasks := s.tasks.set task { t with interrupted := true } } := by
    intro t ht
    refine ⟨rfl, ⟨[], ?_⟩, fun _ _ h => h⟩
    rw [List.map_nil, List.append_nil]
    exact Scheduler.map_set_of_eq ht rfl
  rcases s.interrupt_cases task with heq | ⟨t, ht, heq | ⟨q, -, heq⟩⟩ <;> rw [heq]
  · exact .refl
  · exact hmark t ht
  · exact settle q

theorem giveUp (q : Nat) : Onward s (s.giveUp q) := by
  rcases s.giveUp_cases q with ⟨task, -, heq⟩ | ⟨-, heq⟩ <;> rw [heq]
  · exact interrupt task
  · exact settle q

end Onward

/-! ## Everything in order -/

/-- Purposes of promises that are neither the result of a task nor caused by another promise. An
answer is one of them if the request was not sent. -/
def Purpose.IsBare : Purpose → Prop
  | .pause | .idle | .exit _ _ | .started | .answer _ 0 _ => True
  | _ => False

/-- What is known of processes, channels and promises. -/
def facts (w : World) : Facts where
  known process := process < w.processes.length
  ended process := (exitCode? w process).isSome
  answered channel id value :=
    ∃ c, w.channels[channel]? = some c ∧ c.requests.outcome? id = some (.ok value)
  heard promise := (w.tasks.outcome? promise).isSome

/-- A process settles promises that are for it. -/
structure Ledger.Serves (Γ : Ledger) (number : Nat) (p : Process) : Prop where
  /-- Its readers can be given up. -/
  readers : ∀ q : Nat, p.stdout.waiter = some q ∨ p.stderr.waiter = some q →
    Γ.purposes[q]? = some .idle
  /-- Others wait for its end. -/
  exits : ∀ q ∈ p.exitWaiters, ∃ result, Γ.purposes[q]? = some (.exit number result)

/-- A channel belongs to a process, has its tasks, and knows who waits for answers. -/
structure Ledger.Carries (Γ : Ledger) (f : Facts) (number : Nat) (c : Channel) : Prop where
  /-- There is the process. -/
  process : ∀ p, c.process = some p → f.known p
  /-- Its tasks work in the background. -/
  tasks : ∀ task ∈ c.tasks, ∃ q : Nat, Γ.purposes[q]? = some (.errand task)
  /-- There is one promise for each request. -/
  answers : ∀ i q : Nat, c.answers[i]? = some q →
    ∃ asker, Γ.purposes[q]? = some (.answer number (i + 1) asker)
  /-- There is one promise for each request. -/
  length : c.answers.length = c.requests.sent.length
  /-- The requests are numbered. -/
  valid : c.requests.Valid

/-- A connection settles promises that are for it, and does not involve a session. -/
structure Ledger.Joins (Γ : Ledger) (c : Connection) : Prop where
  /-- Others wait for it to become ready. -/
  started : ∀ q, c.started = some q → Γ.purposes[q]? = some .started
  /-- No session is told anything. -/
  listener : c.listener = .nobody ∨ c.listener = .recorder

/-- Everything in a world is as the ledger says, except that some promises are `due` to be settled;
the task with the result `owner` acts, if any. -/
structure Kept (counter : Counter) (owner : Option Nat) (due : List Nat) (Γ : Ledger) (w : World) :
    Prop where
  /-- The scheduler keeps its books. -/
  books : Books counter owner Γ w.facts w.tasks
  /-- Notices come from settled promises. -/
  posts : Posts due Γ w.tasks
  /-- Processes settle what is for them. -/
  processes : ∀ (number : Nat) (p : Process), w.processes[number]? = some p → Γ.Serves number p
  /-- Channels settle the answers to their requests. -/
  channels : ∀ (number : Nat) (c : Channel), w.channels[number]? = some c →
    Γ.Carries w.facts number c
  /-- Connections settle what is for them. -/
  connections : ∀ c ∈ w.connections, Γ.Joins c
  /-- The keeper settles tickets. -/
  tickets : ∀ q ∈ w.keeper.tickets, Γ.purposes[q]? = some .pause
  /-- The keeper does not involve a session. -/
  listener : w.keeper.listener = .recorder
  /-- Answers are those to requests; number zero stands for a request that was not sent. -/
  owned : ∀ q channel id asker : Nat, Γ.purposes[q]? = some (.answer channel (id + 1) asker) →
    ∃ c, w.channels[channel]? = some c ∧ c.answers[id]? = some q
  /-- Who waits for the end of a process waits for one that there is. -/
  endings : ∀ q process asker : Nat, Γ.purposes[q]? = some (.ending process asker) →
    w.facts.known process
  /-- Whoever waits for an answer waits for a request that is undecided. -/
  undecided : ∀ (number : Nat) (c : Channel) (i q : Nat), w.channels[number]? = some c →
    c.answers[i]? = some q → q ∉ due → w.tasks.outcome? q = none →
    c.requests.outcome? (i + 1) = none
  /-- An answer that was given up is settled. -/
  spared : ∀ q ∈ Γ.dropped, ∀ channel id asker, Γ.purposes[q]? = some (.answer channel id asker) →
    w.facts.heard q
  /-- Whoever waits for a connection has been told, or a connection has still to tell. -/
  shielded : ∀ q source : Nat, Γ.purposes[q]? = some (.shield source) →
    w.facts.heard source ∨ ∃ c ∈ w.connections, c.started = some source
  /-- A connection that is stopped has told whether it became ready. -/
  halted : ∀ c ∈ w.connections, c.phase = .stopped → ∀ source, c.started = some source →
    w.facts.heard source

/-- The world has moved on with everything in order, and no task was moved. What was given up the
task with the result `dropper` could give up. -/
structure Moves (counter : Counter) (owner dropper : Option Nat) (Γ : Ledger) (w : World)
    (Γ' : Ledger) (w' : World) : Prop where
  /-- There are new entries in the ledger. -/
  ledger : Γ.Extends dropper Γ'
  /-- More is known. -/
  grows : w.facts.Grow w'.facts
  /-- No task was moved. -/
  onward : Onward w.tasks w'.tasks
  /-- Everything is in order. -/
  kept : Kept counter owner [] Γ' w'

variable {Γ Γ' : Ledger} {counter : Counter} {owner dropper : Option Nat} {due due' : List Nat}
  {result : Nat} {e : Expectation} {outcome : Outcome} {w w' : World}

theorem Ledger.Serves.mono {number : Nat} {p : Process} (h : Γ.Serves number p)
    (hext : Γ.Extends owner Γ') : Γ'.Serves number p where
  readers := fun q hq => hext.purposes _ _ (h.readers q hq)
  exits := fun q hq => (h.exits q hq).imp fun _ => hext.purposes _ _

theorem Ledger.Carries.mono {f f' : Facts} {number : Nat} {c : Channel} (h : Γ.Carries f number c)
    (hext : Γ.Extends owner Γ') (hgrow : f.Grow f') : Γ'.Carries f' number c where
  process := fun p hp => hgrow.known p (h.process p hp)
  tasks := fun task htask => (h.tasks task htask).imp fun _ => hext.purposes _ _
  answers := fun i q hq => (h.answers i q hq).imp fun _ => hext.purposes _ _
  length := h.length
  valid := h.valid

theorem Ledger.Joins.mono {c : Connection} (h : Γ.Joins c) (hext : Γ.Extends owner Γ') :
    Γ'.Joins c where
  started := fun q hq => hext.purposes _ _ (h.started q hq)
  listener := h.listener

/-- When only tasks have changed, no more is known than which promises are settled. -/
theorem Facts.Grow.of_tasks {s : Scheduler Point Answer Hook}
    (houtcomes : ∀ q outcome, w.tasks.outcome? q = some outcome → s.outcome? q = some outcome) :
    w.facts.Grow { w with tasks := s : World }.facts :=
  ⟨fun _ h => h, fun _ h => h, fun _ _ _ h => h, fun q h =>
    let ⟨outcome, ho⟩ := Option.isSome_iff_exists.1 h
    Option.isSome_of_eq_some (houtcomes q outcome ho)⟩

namespace Moves

protected theorem refl (h : Kept counter owner [] Γ w) : Moves counter owner dropper Γ w Γ w :=
  ⟨.refl, .refl _, .refl, h⟩

protected theorem trans {Γ'' : Ledger} {w'' : World} (h : Moves counter owner dropper Γ w Γ' w')
    (h' : Moves counter owner dropper Γ' w' Γ'' w'') : Moves counter owner dropper Γ w Γ'' w'' :=
  ⟨h.ledger.trans h'.ledger, h.grows.trans h'.grows, h.onward.trans h'.onward, h'.kept⟩

/-- Where nobody could give anything up, somebody could. -/
theorem weaken (h : Moves counter owner none Γ w Γ' w') : Moves counter owner dropper Γ w Γ' w' :=
  { h with ledger := h.ledger.of_nobody }

end Moves

namespace Kept

/-- More is due to be settled. -/
theorem weaken (h : Kept counter owner due Γ w) (hsub : ∀ q ∈ due, q ∈ due') :
    Kept counter owner due' Γ w :=
  { h with
    posts := h.posts.weaken hsub
    undecided := fun number c i q hc hq hdue =>
      h.undecided number c i q hc hq fun hmem => hdue (hsub q hmem) }

/-- The entries of a ledger say what is so: there are no new answers, processes and connections that
are waited for exist, and answers that are given up are settled. -/
structure Backed (Γ Γ' : Ledger) (w : World) (s : Scheduler Point Answer Hook) : Prop where
  /-- There are no new answers, and processes and connections that are waited for exist. -/
  entries : ∀ (q : Nat) (purpose : Purpose), Γ'.purposes[q]? = some purpose →
    Γ.purposes[q]? = some purpose ∨
      (∀ channel id asker, purpose ≠ .answer channel (id + 1) asker) ∧
        (∀ process asker, purpose = .ending process asker → w.facts.known process) ∧
          ∀ source, purpose = .shield source → ∃ c ∈ w.connections, c.started = some source
  /-- Answers that are given up are settled. -/
  spared : ∀ q ∈ Γ'.dropped, q ∈ Γ.dropped ∨ ∀ channel id asker,
    Γ'.purposes[q]? = some (.answer channel id asker) → (s.outcome? q).isSome

theorem backed_self (Γ : Ledger) (w : World) {s : Scheduler Point Answer Hook} : Backed Γ Γ w s :=
  ⟨fun _ _ h => .inl h, fun _ h => .inl h⟩

theorem backed_add {purpose : Purpose} {s : Scheduler Point Answer Hook}
    (hanswer : ∀ channel id asker, purpose ≠ .answer channel (id + 1) asker)
    (hending : ∀ process asker, purpose = .ending process asker → w.facts.known process)
    (hshield : ∀ source, purpose = .shield source → ∃ c ∈ w.connections, c.started = some source) :
    Backed Γ (Γ.add purpose) w s := by
  refine ⟨fun q other hq => ?_, fun _ h => .inl h⟩
  rcases Ledger.purposes_add_cases hq with hold | ⟨-, rfl⟩
  · exact .inl hold
  · exact .inr ⟨hanswer, hending, hshield⟩

theorem backed_drop {q : Nat} {s : Scheduler Point Answer Hook}
    (hsettled : ∀ channel id asker, Γ.purposes[q]? = some (.answer channel id asker) →
      (s.outcome? q).isSome) : Backed Γ (Γ.drop q) w s := by
  refine ⟨fun _ _ h => .inl h, fun other hother => ?_⟩
  rcases List.mem_cons.1 hother with rfl | hother
  · exact .inr hsettled
  · exact .inl hother

/-- The scheduler has changed. -/
theorem setTasks {s : Scheduler Point Answer Hook} {owner' : Option Nat}
    (h : Kept counter owner due Γ w) (hext : Γ.Extends dropper Γ') (hbacked : Backed Γ Γ' w s)
    (hbooks : Books counter owner' Γ' w.facts s) (hposts : Posts due' Γ' s)
    (houtcomes : ∀ q outcome, w.tasks.outcome? q = some outcome → s.outcome? q = some outcome)
    (hdue : ∀ q ∈ due, q ∈ due' ∨ s.outcome? q ≠ none) :
    Kept counter owner' due' Γ' { w with tasks := s } where
  books := hbooks.grow (.of_tasks houtcomes)
  posts := hposts
  processes := fun number p hp => (h.processes number p hp).mono hext
  channels := fun number c hc => (h.channels number c hc).mono hext (.of_tasks houtcomes)
  connections := fun c hc => (h.connections c hc).mono hext
  tickets := fun q hq => hext.purposes _ _ (h.tickets q hq)
  listener := h.listener
  -- an entry of the ledger was there before, or is backed because it is new
  owned := by
    intro q channel id asker hq
    rcases hbacked.entries q _ hq with hold | hnew
    · exact h.owned q channel id asker hold
    · exact absurd rfl (hnew.1 channel id asker)
  endings := by
    intro q process asker hq
    rcases hbacked.entries q _ hq with hold | hnew
    · exact h.endings q process asker hold
    · exact hnew.2.1 process asker rfl
  undecided := by
    intro number c i q hc hq hnot hnone
    have hopen : w.tasks.outcome? q = none := by
      cases ho : w.tasks.outcome? q with
      | none => rfl
      | some outcome => exact absurd ((houtcomes q outcome ho).symm.trans hnone) (by simp)
    exact h.undecided number c i q hc hq
      (fun hmem => (hdue q hmem).elim hnot fun hsome => hsome hnone) hopen
  spared := by
    intro q hq channel id asker hpurpose
    rcases hbacked.spared q hq with hold | hnew
    · obtain ⟨purpose, hsame, -⟩ := h.books.dropped q hold
      obtain rfl := Option.some.inj ((hext.purposes q _ hsame).symm.trans hpurpose)
      exact (Facts.Grow.of_tasks houtcomes).heard q (h.spared q hold channel id asker hsame)
    · exact hnew channel id asker hpurpose
  shielded := by
    intro q source hq
    rcases hbacked.entries q _ hq with hold | hnew
    · exact (h.shielded q source hold).imp_left ((Facts.Grow.of_tasks houtcomes).heard source)
    · exact .inr (hnew.2.2 source rfl)
  halted := fun c hc hphase source hsource =>
    (Facts.Grow.of_tasks houtcomes).heard source (h.halted c hc hphase source hsource)

/-- One process has changed. -/
theorem setProcess (h : Kept counter owner due Γ w) (number : Nat) {change : Process → Process}
    (hchange : ∀ p, w.processes[number]? = some p → Γ.Serves number p →
      (p.code.isSome → (change p).code.isSome) ∧ Γ.Serves number (change p)) :
    w.facts.Grow { w with processes := w.processes.modify number change : World }.facts ∧
      Kept counter owner due Γ { w with processes := w.processes.modify number change } := by
  have hgrow : w.facts.Grow
      { w with processes := w.processes.modify number change : World }.facts := by
    refine ⟨fun process hp => ?_, fun process hp => ?_, fun _ _ _ hq => hq, fun _ hq => hq⟩
    · show process < (w.processes.modify number change).length
      rw [List.length_modify]
      exact hp
    · show (((w.processes.modify number change)[process]?).bind (·.code)).isSome
      have hp : ((w.processes[process]?).bind (·.code)).isSome := hp
      rw [List.getElem?_modify]
      split
      · rename_i heq
        subst heq
        cases hprocess : w.processes[number]? with
        | none => simp [hprocess] at hp
        | some p =>
          simp only [hprocess, Option.bind_some] at hp
          exact (hchange p hprocess (h.processes number p hprocess)).1 hp
      · simpa using hp
  refine ⟨hgrow, { h with
    books := h.books.grow hgrow
    processes := ?_
    channels := fun other c hc => (h.channels other c hc).mono (.refl : Γ.Extends none Γ) hgrow
    endings := fun q process asker hq => hgrow.known _ (h.endings q process asker hq) }⟩
  intro other p hp
  obtain ⟨old, hold, ⟨rfl, rfl⟩ | ⟨-, rfl⟩⟩ := Tasks.getElem?_modify_cases hp
  · exact (hchange old hold (h.processes _ old hold)).2
  · exact h.processes other _ hold

/-- A process was started. -/
theorem addProcess (h : Kept counter owner due Γ w) (script : CompanionScript) :
    w.facts.Grow { w with processes := w.processes ++ [{ script }] : World }.facts ∧
      Kept counter owner due Γ { w with processes := w.processes ++ [{ script }] } := by
  have hgrow : w.facts.Grow { w with processes := w.processes ++ [{ script }] : World }.facts := by
    refine ⟨fun process hp => ?_, fun process hp => ?_, fun _ _ _ hq => hq, fun _ hq => hq⟩
    · show process < (w.processes ++ [_]).length
      rw [List.length_append]
      exact Nat.lt_add_right _ hp
    · exact Tasks.isSome_bind_append hp _
  refine ⟨hgrow, { h with
    books := h.books.grow hgrow
    processes := ?_
    channels := fun other c hc => (h.channels other c hc).mono (.refl : Γ.Extends none Γ) hgrow
    endings := fun q process asker hq => hgrow.known _ (h.endings q process asker hq) }⟩
  intro number p hp
  rcases Tasks.getElem?_concat_cases hp with hold | ⟨-, rfl⟩
  · exact h.processes number p hold
  · exact ⟨fun q hq => hq.elim (fun hq => (by cases hq)) fun hq => (by cases hq),
      fun q hq => absurd hq List.not_mem_nil⟩

/-- One channel has changed, and its requests may have been decided. -/
theorem setChannel (h : Kept counter owner due Γ w) {number : Nat} {change : Channel → Channel}
    (hanswers : ∀ c, (change c).answers = c.answers)
    (hadvances : ∀ c, w.channels[number]? = some c → c.requests.Advances (change c).requests)
    (hcarries : ∀ c, w.channels[number]? = some c → Γ.Carries w.facts number c →
      (∀ p, (change c).process = some p → w.facts.known p) ∧
        ∀ task ∈ (change c).tasks, ∃ q : Nat, Γ.purposes[q]? = some (.errand task))
    (hdecided : ∀ c, w.channels[number]? = some c → ∀ i q : Nat, c.answers[i]? = some q →
      c.requests.outcome? (i + 1) = none → q ∈ due' ∨ w.tasks.outcome? q ≠ none ∨
        (change c).requests.outcome? (i + 1) = none)
    (hsub : ∀ q ∈ due, q ∈ due') :
    w.facts.Grow { w with channels := w.channels.modify number change : World }.facts ∧
      Kept counter owner due' Γ { w with channels := w.channels.modify number change } := by
  have hgrow : w.facts.Grow
      { w with channels := w.channels.modify number change : World }.facts := by
    refine ⟨fun _ hp => hp, fun _ hp => hp, fun channel id value => ?_, fun _ hq => hq⟩
    rintro ⟨c, hc, ho⟩
    by_cases heq : number = channel
    · subst heq
      exact ⟨change c, by simp [hc], (hadvances c hc).outcomes id _ ho⟩
    · exact ⟨c, by simp [hc, heq], ho⟩
  -- One channel differs, and it answers for the requests that it answered for.
  refine ⟨hgrow, { h.weaken hsub with
    books := h.books.grow hgrow
    channels := ?_
    owned := ?_
    undecided := ?_ }⟩
  · intro other c hc
    obtain ⟨old, hold, ⟨rfl, rfl⟩ | ⟨-, rfl⟩⟩ := Tasks.getElem?_modify_cases hc
    · have hkept := h.channels _ old hold
      obtain ⟨hprocess, htasks⟩ := hcarries old hold hkept
      refine ⟨hprocess, htasks, ?_, ?_, (hadvances old hold).valid⟩
      · rw [hanswers]
        exact hkept.answers
      · rw [hanswers, hkept.length, (hadvances old hold).length]
    · exact (h.channels other _ hold).mono (.refl : Γ.Extends none Γ) hgrow
  · intro q channel id asker hq
    obtain ⟨c, hc, hanswer⟩ := h.owned q channel id asker hq
    by_cases heq : number = channel
    · subst heq
      exact ⟨change c, by simp [hc], by rw [hanswers]; exact hanswer⟩
    · exact ⟨c, by simp [hc, heq], hanswer⟩
  · intro other c i q hc hq hnot hnone
    obtain ⟨old, hold, ⟨rfl, rfl⟩ | ⟨-, rfl⟩⟩ := Tasks.getElem?_modify_cases hc
    · rw [hanswers] at hq
      have hopen := h.undecided _ old i q hold hq (fun hmem => hnot (hsub q hmem)) hnone
      exact ((hdecided old hold i q hq hopen).resolve_left hnot).resolve_left fun hsome => hsome hnone
    · exact h.undecided other _ i q hold hq (fun hmem => hnot (hsub q hmem)) hnone

/-- A channel was made. -/
theorem addChannel (h : Kept counter owner due Γ w) (command : List String) (holder : Owner)
    (decoder : Rpc.Decoder) :
    w.facts.Grow
        { w with channels := w.channels ++ [{ command, owner := holder, decoder }] : World }.facts ∧
      Kept counter owner due Γ
        { w with channels := w.channels ++ [{ command, owner := holder, decoder }] } := by
  have hgrow : w.facts.Grow
      { w with channels := w.channels ++ [{ command, owner := holder, decoder }] : World }.facts := by
    refine ⟨fun _ hp => hp, fun _ hp => hp, fun channel id value => ?_, fun _ hq => hq⟩
    rintro ⟨c, hc, ho⟩
    exact ⟨c, Tasks.getElem?_append_of_some hc _, ho⟩
  -- The new channel has no process, no tasks and no requests to answer for.
  refine ⟨hgrow, { h with
    books := h.books.grow hgrow
    channels := ?_
    owned := ?_
    undecided := ?_ }⟩
  · intro number c hc
    rcases Tasks.getElem?_concat_cases hc with hc | ⟨-, rfl⟩
    · exact (h.channels number c hc).mono (.refl : Γ.Extends none Γ) hgrow
    · exact ⟨fun p hp => (by cases hp), fun task htask => absurd htask List.not_mem_nil,
        fun i q hq => (by simp at hq), rfl, Rpc.Requests.valid_empty⟩
  · intro q channel id asker hq
    obtain ⟨c, hc, hanswer⟩ := h.owned q channel id asker hq
    exact ⟨c, Tasks.getElem?_append_of_some hc _, hanswer⟩
  · intro number c i q hc hq
    rcases Tasks.getElem?_concat_cases hc with hc | ⟨-, rfl⟩
    · exact h.undecided number c i q hc hq
    · simp at hq

/-- One connection has changed. -/
theorem setConnection (h : Kept counter owner due Γ w) (number : Nat)
    {change : Connection → Connection} (hchange : ∀ c, Γ.Joins c → Γ.Joins (change c))
    (htold : ∀ c, w.connections[number]? = some c → (change c).started = c.started ∨
      ∀ source, c.started = some source → w.facts.heard source)
    (hhalted : ∀ c, w.connections[number]? = some c → (change c).phase = .stopped →
      ∀ source, (change c).started = some source → w.facts.heard source) :
    Kept counter owner due Γ { w with connections := w.connections.modify number change } := by
  -- a connection that was there is still there, changed or not
  have hcases : ∀ c ∈ w.connections.modify number change, ∃ old ∈ w.connections,
      w.connections[number]? = some old ∧ c = change old ∨ c = old := by
    intro c hc
    obtain ⟨i, hi⟩ := List.mem_iff_getElem?.1 hc
    obtain ⟨old, hold, ⟨rfl, rfl⟩ | ⟨-, rfl⟩⟩ := Tasks.getElem?_modify_cases hi
    · exact ⟨old, List.mem_of_getElem? hold, .inl ⟨hold, rfl⟩⟩
    · exact ⟨c, List.mem_of_getElem? hold, .inr rfl⟩
  refine { h with connections := ?_, shielded := ?_, halted := ?_ }
  · intro c hc
    obtain ⟨old, hold, ⟨-, rfl⟩ | rfl⟩ := hcases c hc
    · exact hchange old (h.connections old hold)
    · exact h.connections c hold
  · intro q source hq
    rcases h.shielded q source hq with hheard | ⟨c, hc, hsource⟩
    · exact .inl hheard
    · obtain ⟨i, hi⟩ := List.mem_iff_getElem?.1 hc
      by_cases heq : number = i
      · subst heq
        rcases htold c hi with hsame | hheard
        · refine .inr ⟨change c, List.mem_of_getElem? (i := number) ?_, hsame.trans hsource⟩
          simp [hi]
        · exact .inl (hheard source hsource)
      · refine .inr ⟨c, List.mem_of_getElem? (i := i) ?_, hsource⟩
        simp [heq, hi]
  · intro c hc hphase source hsource
    obtain ⟨old, hold, ⟨hself, rfl⟩ | rfl⟩ := hcases c hc
    · exact hhalted old hself hphase source hsource
    · exact h.halted c hold hphase source hsource

/-- A connection was made. -/
theorem addConnection (h : Kept counter owner due Γ w) {connection : Connection}
    (hjoins : Γ.Joins connection) (hstarted : connection.started = none) :
    Kept counter owner due Γ { w with connections := w.connections ++ [connection] } :=
  { h with
    connections := fun c hc => (List.mem_append.1 hc).elim (h.connections c) fun hnew =>
      List.mem_singleton.1 hnew ▸ hjoins
    shielded := fun q source hq => (h.shielded q source hq).imp_right fun ⟨c, hc, hsource⟩ =>
      ⟨c, List.mem_append_left _ hc, hsource⟩
    halted := fun c hc hphase source hsource => (List.mem_append.1 hc).elim
      (fun hold => h.halted c hold hphase source hsource) fun hnew => by
        rw [List.mem_singleton.1 hnew, hstarted] at hsource
        cases hsource }

/-- The keeper has changed. -/
theorem setKeeper (h : Kept counter owner due Γ w) {keeper : Keeper}
    (htickets : ∀ q ∈ keeper.tickets, Γ.purposes[q]? = some .pause)
    (hlistener : keeper.listener = .recorder) : Kept counter owner due Γ { w with keeper } :=
  { h with tickets := htickets, listener := hlistener }

/-! ### Promises, timers and tasks -/

/-- A promise is settled that was due to be. -/
theorem settle_due {q : Nat} (h : Kept counter owner (q :: due) Γ w)
    (hpermits : ∀ purpose, Γ.purposes[q]? = some purpose → Γ.Permits w.facts q purpose outcome) :
    Kept counter owner due Γ { w with tasks := w.tasks.settle q outcome } := by
  by_cases hq : q < w.tasks.promises.length
  · refine h.setTasks (.refl : Γ.Extends none Γ) (backed_self Γ _) (h.books.settle hpermits)
      (h.posts.settle hq) (Onward.settle q).outcomes fun other hother => ?_
    rcases List.mem_cons.1 hother with rfl | hother
    · have hsettled : ((w.tasks.settle other outcome).outcome? other).isSome :=
        Scheduler.isSome_settle hq
      exact .inr fun hnone => by rw [hnone] at hsettled; cases hsettled
    · exact .inl hother
  · -- there is no such promise
    have hsame : w.tasks.settle q outcome = w.tasks :=
      Scheduler.settle_of_length_le (Nat.le_of_not_lt hq)
    have hnone : ∀ purpose, Γ.purposes[q]? ≠ some purpose := by
      intro purpose hpurpose
      have hlt := (List.getElem?_eq_some_iff.1 hpurpose).1
      rw [h.books.length] at hlt
      exact hq hlt
    rw [hsame]
    refine { h with posts := { h.posts with shields := ?_ }, undecided := ?_ }
    · intro other source hother hdue
      refine h.posts.shields other source hother fun hmem => ?_
      rcases List.mem_cons.1 hmem with rfl | hmem
      · exact hnone _ hother
      · exact hdue hmem
    · intro number c i other hc hother hdue
      refine h.undecided number c i other hc hother fun hmem => ?_
      rcases List.mem_cons.1 hmem with rfl | hmem
      · obtain ⟨asker, hasker⟩ := (h.channels number c hc).answers i other hother
        exact hnone _ hasker
      · exact hdue hmem

/-- The scheduler has changed, and no task was moved. -/
theorem moves {s : Scheduler Point Answer Hook} (h : Kept counter owner [] Γ w)
    (hext : Γ.Extends dropper Γ') (hbacked : Backed Γ Γ' w s)
    (hbooks : Books counter owner Γ' w.facts s) (hposts : Posts [] Γ' s)
    (honward : Onward w.tasks s) : Moves counter owner dropper Γ w Γ' { w with tasks := s } :=
  ⟨hext, .of_tasks honward.outcomes, honward, h.setTasks hext hbacked hbooks hposts honward.outcomes
    fun _ hq => absurd hq List.not_mem_nil⟩

theorem settle (h : Kept counter owner [] Γ w) {q : Nat}
    (hpermits : ∀ purpose, Γ.purposes[q]? = some purpose → Γ.Permits w.facts q purpose outcome) :
    Moves counter owner dropper Γ w Γ { w with tasks := w.tasks.settle q outcome } :=
  h.moves .refl (backed_self Γ _) (h.books.settle hpermits) (h.posts.settle_any q) (.settle q)

/-- A promise is settled that may be settled with anything like that. -/
theorem settle_of {q : Nat} {purpose : Purpose} (h : Kept counter owner [] Γ w)
    (hpurpose : Γ.purposes[q]? = some purpose) (hpermits : Γ.Permits w.facts q purpose outcome) :
    Moves counter owner dropper Γ w Γ { w with tasks := w.tasks.settle q outcome } := by
  refine h.settle fun other hother => ?_
  rw [hpurpose] at hother
  exact Option.some.inj hother ▸ hpermits

theorem observe (h : Kept counter owner [] Γ w) {q : Nat} {notice : Notice Hook}
    (hallows : Γ.Allows notice) (hsends : Γ.Sends q notice) :
    Moves counter owner dropper Γ w Γ { w with tasks := w.tasks.observe q notice } :=
  h.moves .refl (backed_self Γ _) (h.books.observe q hallows) (h.posts.observe hsends)
    (.observe q notice)

theorem promise (h : Kept counter owner [] Γ w) (missing : Nat) (purpose : Purpose)
    (hbare : purpose.IsBare) : Moves counter owner dropper Γ w (Γ.add purpose)
      { w with tasks := (w.tasks.addPromise missing).2 } := by
  have hplain : purpose.expectation? = none ∧ (∀ source, purpose ≠ .shield source) ∧
      (∀ channel id asker, purpose ≠ .answer channel (id + 1) asker) ∧
      ∀ process asker, purpose ≠ .ending process asker := by
    unfold Purpose.IsBare at hbare
    split at hbare <;> simp [Purpose.expectation?] at hbare ⊢
  exact h.moves (Ledger.extends_add purpose)
    (backed_add hplain.2.2.1 (fun process asker heq => absurd heq (hplain.2.2.2 process asker))
      fun source heq => absurd heq (hplain.2.1 source))
    (h.books.addPromise missing hplain.1) (h.posts.addPromise h.books.length missing hplain.2.1)
    (.addPromise missing)

/-- A promise tells somebody whether a connection has become ready. -/
theorem shield (h : Kept counter owner [] Γ w) {source : Nat}
    (hsource : Γ.purposes[source]? = some .started)
    (hholder : ∃ c ∈ w.connections, c.started = some source) :
    Moves counter owner dropper Γ w (Γ.add (.shield source))
      { w with
        tasks := (w.tasks.addPromise 0).2.observe source
          (.relay source w.tasks.promises.length) } := by
  refine h.moves (Ledger.extends_add _)
    (backed_add (by simp) (by simp) fun other heq => Purpose.shield.inj heq ▸ hholder)
    ((h.books.addPromise 0 rfl).observe source ?_) (h.posts.shield h.books.length hsource)
    ((Onward.addPromise 0).trans (.observe _ _))
  rw [← h.books.length]
  exact Ledger.purposes_add_length _

theorem spawn (h : Kept counter owner [] Γ w) {activity : Activity} {purpose : Purpose}
    (hpurpose : purpose.expectation? = some e) (hbegins : counter.Begins activity e)
    (herrand : ∀ number, purpose = .errand number → number = w.tasks.tasks.length)
    (hending : ∀ process asker, purpose = .ending process asker → w.facts.known process) :
    Moves counter owner dropper Γ w (Γ.add purpose)
      { w with tasks := (w.tasks.spawn (.start activity)).2 } := by
  have hplain : (∀ source, purpose ≠ .shield source) ∧
      ∀ channel id asker, purpose ≠ .answer channel (id + 1) asker := by
    cases purpose <;> simp [Purpose.expectation?] at hpurpose ⊢
  exact h.moves (Ledger.extends_add purpose)
    (backed_add hplain.2 hending fun source heq => absurd heq (hplain.1 source))
    (h.books.spawn hpurpose hbegins herrand) (h.posts.spawn h.books.length _ hplain.1)
    (.spawn activity)

theorem timer (h : Kept counter owner [] Γ w) (delay : Nat) {notice : Notice Hook}
    (hallows : Γ.Allows notice) (hsourced : isSourced notice = false) :
    Moves counter owner dropper Γ w Γ { w with tasks := (w.tasks.addTimer delay notice).2 } :=
  h.moves .refl (backed_self Γ _) (h.books.addTimer delay hallows) (h.posts.addTimer delay hsourced)
    (.addTimer delay notice)

theorem stopTimer (h : Kept counter owner [] Γ w) (number : Nat) :
    Moves counter owner dropper Γ w Γ { w with tasks := w.tasks.stopTimer number } :=
  h.moves .refl (backed_self Γ _) (h.books.stopTimer number) (h.posts.stopTimer number)
    (.stopTimer number)

/-- A task in the background is given up. -/
theorem interrupt (h : Kept counter owner [] Γ w) {task q : Nat}
    (htask : Γ.purposes[q]? = some (.errand task)) :
    Moves counter owner dropper Γ w (Γ.drop q) { w with tasks := w.tasks.interrupt task } := by
  obtain ⟨t, ht, rfl⟩ := h.books.owners q task (h.books.errands q task htask)
  exact h.moves (Ledger.extends_drop htask trivial)
    (backed_drop fun _ _ _ hanswer => by rw [htask] at hanswer; cases hanswer)
    (h.books.interrupt ht htask trivial) ((h.posts.interrupt task).drop _) (.interrupt task)

/-- A promise that the acting task waits for is given up. -/
theorem giveUp (h : Kept counter owner [] Γ w) {q : Nat} {purpose : Purpose}
    (hpurpose : Γ.purposes[q]? = some purpose) (hdroppable : purpose.IsDroppable owner)
    (hwaits : ∃ result e, purpose.Yields result q e) :
    Moves counter owner owner Γ w (Γ.drop q) { w with tasks := w.tasks.giveUp q } :=
  h.moves (Ledger.extends_drop hpurpose hdroppable)
    (backed_drop fun _ _ _ hanswer => h.books.isSome_giveUp hanswer)
    (h.books.giveUp hpurpose hdroppable hwaits) ((h.posts.giveUp q).drop q) (.giveUp q)

end Kept

/-! ## Actions that leave everything in order -/

/-- The action leaves everything in order, and `post` holds afterwards. -/
def Minds {α : Type} (counter : Counter) (owner dropper : Option Nat) (Γ : Ledger) (w : World)
    (post : Ledger → World → α → Prop) (act : Act α) : Prop :=
  ∃ Γ', Moves counter owner dropper Γ w Γ' (act.run w).2 ∧ post Γ' (act.run w).2 (act.run w).1

/-- An action that leaves everything in order wherever it is taken. -/
def Tidy {α : Type} (act : Act α) : Prop :=
  ∀ (counter : Counter) (owner : Option Nat) (Γ : Ledger) (w : World), Kept counter owner [] Γ w →
    Minds counter owner none Γ w (fun _ _ _ => True) act

/-- An activity of the task with the result goes on as is expected below it. -/
def Pursues (counter : Counter) (result : Nat) (below : Expectation) (Γ : Ledger) (w : World)
    (act : Act Next) : Prop :=
  Minds counter (some result) (some result) Γ w
    (fun Γ' w' next => Γ'.Leads w'.facts counter result below next) act

namespace Minds

variable {α β : Type} {post : Ledger → World → α → Prop} {post' : Ledger → World → β → Prop}

theorem of_moves {act : Act α} (h : Moves counter owner dropper Γ w Γ' (act.run w).2)
    (hpost : post Γ' (act.run w).2 (act.run w).1) : Minds counter owner dropper Γ w post act :=
  ⟨Γ', h, hpost⟩

theorem pure {a : α} (h : Kept counter owner [] Γ w) (hpost : post Γ w a) :
    Minds counter owner dropper Γ w post (Pure.pure a) :=
  ⟨Γ, .refl h, hpost⟩

theorem bind {act : Act α} {rest : α → Act β} (h : Minds counter owner dropper Γ w post act)
    (hrest : ∀ (Γ' : Ledger) (w' : World) (a : α), act.run w = (a, w') →
      Moves counter owner dropper Γ w Γ' w' → post Γ' w' a → Minds counter owner dropper Γ' w' post' (rest a)) :
    Minds counter owner dropper Γ w post' (act >>= rest) := by
  obtain ⟨Γ', hmoves, hpost⟩ := h
  obtain ⟨Γ'', hmoves', hpost'⟩ := hrest Γ' (act.run w).2 (act.run w).1 rfl hmoves hpost
  exact ⟨Γ'', hmoves.trans hmoves', hpost'⟩

/-- After an action of which it is known what it does. -/
theorem after {act : Act α} {rest : α → Act β} (h : Moves counter owner dropper Γ w Γ' (act.run w).2)
    (hrest : Kept counter owner [] Γ' (act.run w).2 →
      Minds counter owner dropper Γ' (act.run w).2 post' (rest (act.run w).1)) :
    Minds counter owner dropper Γ w post' (act >>= rest) := by
  obtain ⟨Γ'', hmoves, hpost⟩ := hrest h.kept
  exact ⟨Γ'', h.trans hmoves, hpost⟩

theorem get_bind {rest : World → Act β} (h : Minds counter owner dropper Γ w post' (rest w)) :
    Minds counter owner dropper Γ w post' (get >>= rest) :=
  h

theorem imp {post₂ : Ledger → World → α → Prop} {act : Act α}
    (h : Minds counter owner dropper Γ w post act)
    (hpost : ∀ (Γ' : Ledger) (w' : World) (a : α), Moves counter owner dropper Γ w Γ' w' →
      post Γ' w' a → post₂ Γ' w' a) : Minds counter owner dropper Γ w post₂ act := by
  obtain ⟨Γ', hmoves, ha⟩ := h
  exact ⟨Γ', hmoves, hpost _ _ _ hmoves ha⟩

end Minds

namespace Tidy

variable {α β : Type} {post : Ledger → World → β → Prop}

protected theorem pure (a : α) : Tidy (pure a) :=
  fun _ _ _ _ h => .pure h trivial

/-- After an action that leaves everything in order. -/
theorem andThen {act : Act α} {rest : α → Act β} (hact : Tidy act)
    (h : Kept counter owner [] Γ w)
    (hrest : ∀ (Γ' : Ledger) (w' : World) (a : α), act.run w = (a, w') →
      Moves counter owner none Γ w Γ' w' → Minds counter owner dropper Γ' w' post (rest a)) :
    Minds counter owner dropper Γ w post (act >>= rest) := by
  obtain ⟨Γ', hmoves, -⟩ := hact counter owner Γ w h
  obtain ⟨Γ'', hmoves', hpost⟩ := hrest Γ' (act.run w).2 (act.run w).1 rfl hmoves
  exact ⟨Γ'', hmoves.weaken.trans hmoves', hpost⟩

theorem seq {act : Act α} {rest : α → Act β} (hact : Tidy act) (hrest : ∀ a, Tidy (rest a)) :
    Tidy (act >>= rest) :=
  fun counter owner _ _ h => hact.andThen h fun Γ' w' a _ hmoves =>
    hrest a counter owner Γ' w' hmoves.kept

/-- An action that looks at the world first. -/
theorem of_get {rest : World → Act β}
    (h : ∀ (counter : Counter) (owner : Option Nat) (Γ : Ledger) (w : World),
      Kept counter owner [] Γ w → Minds counter owner none Γ w (fun _ _ _ => True) (rest w)) :
    Tidy (get >>= rest) :=
  h

theorem forM {items : List β} {act : β → Act Unit} (h : ∀ item ∈ items, Tidy (act item)) :
    Tidy (items.forM act) := by
  induction items with
  | nil => exact .pure ()
  | cons item rest ih =>
    refine seq (h item List.mem_cons_self) fun _ => ih fun other hother => ?_
    exact h other (List.mem_cons_of_mem _ hother)

theorem forM_option {item : Option β} {act : β → Act Unit} (h : ∀ i, Tidy (act i)) :
    Tidy (item.forM act) := by
  cases item with
  | none => exact .pure ()
  | some i => exact h i

end Tidy

end BasiliskServer.World
