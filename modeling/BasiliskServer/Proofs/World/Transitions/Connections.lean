import BasiliskServer.Proofs.World.Transitions.Basic

/-!
# Transitions of connections

A task that goes on at a point takes one of a few courses (`Course`): a connection starts through a
channel of its own, its process is started, greeted and told what waited, a channel is closed in
stages, a connection says goodbye, a process is lost, or the keeper vacates and renews its
connection. Everything else leaves connections and channels as they are. Here is what the activities
that start and stop connections do.
-/

namespace BasiliskServer.World

open Json (Value Fields)
open Tasks (Notice Scheduler)

/-! ## Courses of connections -/

namespace Layout

/-- A connection is ready, with its channel. -/
def IsReady (l : Layout) (number channel : Nat) : Prop :=
  ∃ bond, l.bonds[number]? = some bond ∧ bond.phase = .ready ∧ bond.channel = some channel

/-- The process of a connection can be greeted over a channel. -/
def CanGreet (l : Layout) (number channel : Nat) : Prop :=
  ∀ bond, l.bonds[number]? = some bond → l.CanAsk bond.room channel "initialize" bond.greeting

/-- A connection begins to start with a channel of its own. -/
def beginStart (l : Layout) (number started : Nat) : Layout :=
  (l.addPipe (.connection number)).setBond number fun b =>
    { b with phase := .starting, started := some started, channel := some l.pipes.length }

/-- A connection is started, unless it is not stopped. -/
inductive Connects (l : Layout) (number : Nat) : Layout → Next → Prop where
  /-- It is not stopped. -/
  | keeps {next : Next} (h : ¬ l.IsIn .stopped number) (hnext : Rises [] next) :
    Connects l number l next
  /-- It begins to start. -/
  | begins {started : Nat} {script : CompanionScript} {command : List String} {next : Next}
    (h : l.IsIn .stopped number) (hscript : script ∈ l.companions ∨ script = {})
    (hnext : Rises [.program (.starting script command), .channel (.opened l.pipes.length),
      .connection (.opened number l.pipes.length)] next) :
    Connects l number (l.beginStart number started) next

/-- The channel of a connection is closed, if it has one. -/
inductive ClosesOn (l : Layout) (f : Facts) : Option Nat → Layout → Next → Prop where
  /-- There is none. -/
  | nothing : ClosesOn l f none l (.go (.ok .unit) [])
  /-- There is one. -/
  | closes {channel : Nat} {l' : Layout} {next : Next} (h : l.Closes f channel l' next) :
    ClosesOn l f (some channel) l' next

/-- A connection is stopped, unless it is not at work. -/
inductive Disconnects (l : Layout) (f : Facts) (number : Nat) : Layout → Next → Prop where
  /-- There is no such connection, or it is being stopped. -/
  | keeps (h : l.bonds[number]? = none ∨ l.IsIn .stopping number) :
    Disconnects l f number l (.go (.ok .unit) [])
  /-- It is stopped, and nothing waits any more. -/
  | clears (h : l.IsIn .stopped number) :
    Disconnects l f number (l.clear number) (.go (.ok .unit) [])
  /-- It is ready and says goodbye. -/
  | parts {channel answer : Nat} {next : Next} (h : l.IsReady number channel)
    (hnext : Rises [.connection (.parted number channel)] next) :
    Disconnects l f number ((l.setPhase number .stopping).ask none channel "shutdown" .null answer) next
  /-- It is not ready yet, and its channel is closed. -/
  | closes {bond : Bond} {channel : Option Nat} {l' : Layout} {next : Next}
    (hbond : l.bonds[number]? = some bond) (hchannel : bond.channel = channel)
    (hphase : bond.phase = .starting ∨ bond.phase = .ready ∧ channel = none)
    (h : (l.setPhase number .stopping).ClosesOn f channel l' next) :
    Disconnects l f number l' (next.under (.connection (.closed number channel)))

/-- The keeper gives its connection up, if it has one. -/
inductive Vacates (l : Layout) (f : Facts) : Layout → Next → Prop where
  /-- It has none. -/
  | vacant (h : l.kept = none) : Vacates l f l (.go (.ok .unit) [])
  /-- It has one. -/
  | leaves {number : Nat} {l' : Layout} {next : Next} (h : l.kept = some number)
    (hleaves : { l with kept := none }.Disconnects f number l' next) :
    Vacates l f l' (next.under (.keeper .disconnected))

/-- A process that has answered is told what waited, up to the first notification that cannot be
written. -/
def welcome (l : Layout) (number channel : Nat) (bond : Bond) : Layout :=
  (((l.setPhase number .ready).tellOf channel "initialized" (.object [])).clear number).sayAll
    channel (writable bond.room bond.queue)

end Layout

/-- A task wants to send a request over a connection. -/
inductive Asks (number : Nat) (method : String) (params : Value) : Point → Outcome → Prop where
  /-- It has just begun. -/
  | begins (limit : Option Nat) (answer : Answer) :
    Asks number method params (.start (.ask number method params limit)) (.ok answer)
  /-- The connection has become ready. -/
  | resumes (limit : Option Nat) :
    Asks number method params (.connection (.awaited number method params limit)) (.ok (.bool true))

/-- Points at which more happens than that something is heard of. -/
def Point.isPivotal : Point → Bool
  | .start (.connect _) | .start (.disconnect _) | .start (.ensure _) | .start .release => true
  | .program (.starting _ _) => true
  | .channel (.opened _) | .channel (.asked _ _) | .channel (.killed _) | .channel (.quiet _) => true
  | .connection (.awaited _ _ _ _) => false
  | .connection _ => true
  | .keeper _ => true
  | _ => false

/-- What becomes of the layout when a task goes on at a point with an outcome, and where the task
goes on then. -/
inductive Course (f f' : Facts) (l : Layout) : Point → Outcome → Layout → Next → Prop where
  /-- Something is heard of at most. -/
  | hears {point : Point} {outcome : Outcome} {l' : Layout} {next : Next}
    (hpoint : point.isPivotal = false)
    (hasks : ∀ number method params channel, Asks number method params point outcome →
      ¬ l.IsReady number channel)
    (h : l.Hears l') (hnext : Rises [] next) : Course f f' l point outcome l' next
  /-- The end of a process is watched for. -/
  | watches {channel reader process : Nat} {answer : Answer} {next : Next}
    (hprocess : l.pipes[channel]?.bind (·.process) = some process)
    (hnext : Rises [.channel (.drained channel process)] next) :
    Course f f' l (.start (.watch channel reader)) (.ok answer) l next
  /-- All output of a process is read. -/
  | drains {channel process : Nat} {answer : Answer} {next : Next}
    (hnext : Rises [.channel (.gone channel process)] next) :
    Course f f' l (.channel (.drained channel process)) (.ok answer) l next
  /-- A process is lost. -/
  | loses {channel process : Nat} {code : Option Int} {l' : Layout} (hended : f.ended process)
    (h : l.Loses channel code l') :
    Course f f' l (.channel (.gone channel process)) (.ok (.code code)) l' (.go (.ok .unit) [])
  /-- A request is listed, and sent if it can be written. -/
  | sends {point : Point} {outcome : Outcome} {number channel answer : Nat} {method : String}
    {params : Value} {next : Next} (hasks : Asks number method params point outcome)
    (hready : l.IsReady number channel) (hnext : Rises [] next) :
    Course f f' l point outcome (l.ask (l.room number) channel method params answer) next
  /-- A connection is started. -/
  | connects {number : Nat} {answer : Answer} {l' : Layout} {next : Next}
    (h : l.Connects number l' next) : Course f f' l (.start (.connect number)) (.ok answer) l' next
  /-- A connection is stopped. -/
  | disconnects {number : Nat} {answer : Answer} {l' : Layout} {next : Next}
    (h : l.Disconnects f number l' next) :
    Course f f' l (.start (.disconnect number)) (.ok answer) l' next
  /-- A program is missing. -/
  | misses {script : CompanionScript} {program : List String} {command text : String}
    {answer : Answer} :
    Course f f' l (.program (.starting script program)) (.ok answer) l
      (.go (.error (.spawn command text)) [])
  /-- A process is started. -/
  | launches {script : CompanionScript} {program : List String} {answer : Answer} :
    Course f f' l (.program (.starting script program)) (.ok answer) (l.addScript script)
      (.go (.ok (.process l.scripts.length)) [])
  /-- A channel has its process. -/
  | opens {channel process : Nat} :
    Course f f' l (.channel (.opened channel)) (.ok (.process process))
      (l.carry channel (some process)) (.go (.ok .unit) [])
  /-- A channel has no process. -/
  | shuns {channel : Nat} {command text : String} :
    Course f f' l (.channel (.opened channel)) (.error (.spawn command text)) l
      (.go (.error (.spawn command text)) [])
  /-- A process that was asked to end has ended. -/
  | complies {channel process : Nat} {answer : Answer} {l' : Layout} {next : Next}
    (hended : f.ended process) (h : l.Subsides channel l' next) :
    Course f f' l (.channel (.asked channel process)) (.ok answer) l' next
  /-- A process that was asked to end is killed. -/
  | kills {channel process : Nat} {next : Next} (hended : f'.ended process)
    (hnext : Rises [.channel (.killed channel)] next) :
    Course f f' l (.channel (.asked channel process)) (.error .timedOut) l next
  /-- A process that was killed has ended. -/
  | buries {channel : Nat} {answer : Answer} {l' : Layout} {next : Next}
    (h : l.Subsides channel l' next) :
    Course f f' l (.channel (.killed channel)) (.ok answer) l' next
  /-- The tasks of a channel have ended. -/
  | rests {channel : Nat} {answer : Answer} :
    Course f f' l (.channel (.quiet channel)) (.ok answer) (l.carry channel none)
      (.go (.ok .unit) [])
  /-- A process is greeted. -/
  | greets {number channel greeted : Nat} {params : Value} {answer : Answer} {next : Next}
    (h : l.IsIn .starting number) (hnext : Rises [.connection (.greeted number channel greeted)] next) :
    Course f f' l (.connection (.opened number channel)) (.ok answer)
      (l.ask none channel "initialize" params greeted) next
  /-- The greeting of a process cannot be written. -/
  | falters {number channel greeted : Nat} {answer : Answer} {what : Json.Excess}
    (h : l.IsIn .starting number) (hrefused : ¬ l.CanGreet number channel) :
    Course f f' l (.connection (.opened number channel)) (.ok answer)
      (l.list channel "initialize" greeted) (.go (.error (.ofExcess what)) [])
  /-- A process is not wanted any more. -/
  | abandons {number channel : Nat} {answer : Answer} {l' : Layout} {next : Next}
    (h : ¬ l.IsIn .starting number) (hcloses : l.Closes f channel l' next) :
    Course f f' l (.connection (.opened number channel)) (.ok answer) l'
      (next.under (.connection .abandoned))
  /-- There is no process for a connection. -/
  | fails {number channel : Nat} {command text : String} :
    Course f f' l (.connection (.opened number channel)) (.error (.spawn command text))
      (l.reset number) (.go (.ok (.bool false)) [])
  /-- A process that was not wanted any more has ended. -/
  | forsakes {answer : Answer} :
    Course f f' l (.connection .abandoned) (.ok answer) l (.go (.ok (.bool false)) [])
  /-- A process has answered, and its connection is ready. Who starts it fails if something that
  waited cannot be written. -/
  | welcomes {number channel greeted : Nat} {bond : Bond} {answer : Answer} {outcome : Outcome}
    (hbond : l.bonds[number]? = some bond) (hphase : bond.phase = .starting)
    (houtcome : outcome = .ok (.bool true) ∨
      bond.room ≠ none ∧ ∃ what, outcome = .error (.ofExcess what)) :
    Course f f' l (.connection (.greeted number channel greeted)) (.ok answer)
      (l.welcome number channel bond) (.go outcome [])
  /-- A process has not answered in time. -/
  | refuses {number channel greeted : Nat} {failure : Failure} {l' : Layout} {next : Next}
    (h : l.IsIn .starting number) (hcloses : l.Closes f channel l' next) :
    Course f f' l (.connection (.greeted number channel greeted)) (.error failure) l'
      (next.under (.connection (.refused number)))
  /-- A connection was stopped while its process was greeted. -/
  | ignores {number channel greeted : Nat} {outcome : Outcome} (h : ¬ l.IsIn .starting number) :
    Course f f' l (.connection (.greeted number channel greeted)) outcome l (.go (.ok (.bool false)) [])
  /-- A process that has not answered in time has ended. -/
  | dismisses {number : Nat} {answer : Answer} :
    Course f f' l (.connection (.refused number)) (.ok answer) (l.reset number)
      (.go (.ok (.bool false)) [])
  /-- A connection has said goodbye. -/
  | parts {number channel : Nat} {outcome : Outcome} {f₁ : Facts} {l' : Layout} {next : Next}
    (hgrows : f₁.Grow f') (hcloses : (l.tellOf channel "exit" .null).Closes f₁ channel l' next) :
    Course f f' l (.connection (.parted number channel)) outcome l'
      (next.under (.connection (.closed number (some channel))))
  /-- The channel of a connection is closed. -/
  | closed {number : Nat} {channel : Option Nat} {answer : Answer} :
    Course f f' l (.connection (.closed number channel)) (.ok answer)
      ((l.rejectOn channel (.exited none)).reset number) (.go (.ok .unit) [])
  /-- Somebody comes to the keeper. -/
  | comes {activity : Activity} {point : KeeperPoint} {answer : Answer} {next : Next}
    (hactivity : (∃ config ticket, activity = .ensure config ∧ point = .admitted config ticket) ∨
      ∃ ticket, activity = .release ∧ point = .admittedToStop ticket)
    (hnext : Rises [.keeper point] next) : Course f f' l (.start activity) (.ok answer) l next
  /-- The keeper gives its connection up. -/
  | vacates {point after : KeeperPoint} {outcome : Outcome} {l' : Layout} {next : Next}
    (hpoint : (∃ config ticket, point = .admitted (some config) ticket ∧ after = .vacated config) ∨
      (∃ ticket, point = .admitted none ticket ∧ after = .cleared) ∨
      (∃ ticket, point = .admittedToStop ticket ∧ after = .released) ∨
      ∃ config, point = .connected config ∧ after = .failed config)
    (h : l.Vacates f l' next) :
    Course f f' l (.keeper point) outcome l' (next.under (.keeper after))
  /-- The keeper makes another connection. -/
  | renews {config : Companion.Config} {listener : Listener} {answer : Answer} {l' : Layout}
    {next : Next}
    (h : { l.addBond config listener with kept := some l.bonds.length }.Connects l.bonds.length l' next) :
    Course f f' l (.keeper (.vacated config)) (.ok answer) l'
      (next.under (.keeper (.connected config)))
  /-- Somebody is done with the keeper. -/
  | leaves {point : KeeperPoint} {outcome outcome' : Outcome}
    (hpoint : ∀ config, point ≠ .vacated config) :
    Course f f' l (.keeper point) outcome l (.go outcome' [])

/-! ## What tasks do -/

variable {Γ : Ledger} {counter : Counter} {result : Nat} {below : Expectation} {outcome : Outcome}
  {w : World}

theorem mem_of_repeating {α : Type} {items : List α} {number : Nat} {item : α}
    (h : repeating items number = some item) : item ∈ items := by
  induction items, number using repeating.induct with
  | case1 => cases h
  | case2 last => exact List.mem_singleton.2 (Option.some.inj h).symm
  | case3 first rest hne => 
    have h : some first = some item := by simpa [repeating] using h
    exact Option.some.inj h ▸ List.mem_cons_self
  | case4 first rest n hne ih =>
    exact List.mem_cons_of_mem _ (ih (by simpa [repeating] using h))

/-- An activity that depends on the phase of a connection. -/
theorem Goes.isInPhase_bind {course : Layout → Next → Prop} {phase : Phase} {number : Nat}
    {rest : Bool → Act Next} (hyes : w.layout.IsIn phase number → Goes w course (rest true))
    (hno : ¬ w.layout.IsIn phase number → Goes w course (rest false)) :
    Goes w course (isInPhase phase number >>= rest) := by
  obtain ⟨b, hrun, hb⟩ := isInPhase_run w phase number
  have hsame : w.view.IsIn phase number ↔ w.layout.IsIn phase number := by
    unfold View.IsIn Layout.IsIn
    rw [layout_bonds_getElem?]
    cases hc : w.connections[number]? <;> simp [view, Connection.link, Connection.bond, hc]
  rw [hsame] at hb
  have hlays : Lays w w.layout (fun a => a = b) (isInPhase phase number) :=
    ⟨by rw [hrun], by rw [hrun]⟩
  refine Goes.bind hlays fun a w' hrun' _ ha => ?_
  rw [hrun] at hrun'
  obtain ⟨rfl, rfl⟩ := Prod.mk.inj hrun'
  cases b with
  | true => exact hyes (hb.1 rfl)
  | false => exact hno fun h => by cases hb.2 h

theorem startCompanion_lays (w : World) (command : List String) :
    Lays w w.layout (fun next => ∃ script, (script ∈ w.layout.companions ∨ script = {}) ∧
      Rises [.program (.starting script command)] next) (startCompanion command) := by
  refine .get_bind ?_
  have hscript : (repeating w.companions w.companionCount).getD {} ∈ w.layout.companions ∨
      (repeating w.companions w.companionCount).getD {} = {} := by
    cases hs : repeating w.companions w.companionCount with
    | none => exact .inr rfl
    | some script => exact .inl (mem_of_repeating hs)
  refine Lays.after (fun _ => rfl) fun _ w₁ hw₁ => ?_
  refine Lays.after (note_inert fun _ => ⟨rfl, rfl⟩) fun _ w₂ hw₂ => ?_
  rw [← hw₁, ← hw₂]
  -- The program starts at once or after a delay; either way somebody goes on with the start.
  have hstarts : Lingers [.program (.starting ((repeating w.companions w.companionCount).getD {})
      command)] (under (.program (.starting ((repeating w.companions w.companionCount).getD {})
        command)) (if ((repeating w.companions w.companionCount).getD {}).startDelay = 0
          then finish .unit
          else sleep ((repeating w.companions w.companionCount).getD {}).startDelay)) := by
    have hsleeps : Lingers [] (if ((repeating w.companions w.companionCount).getD {}).startDelay = 0
        then finish .unit
        else sleep ((repeating w.companions w.companionCount).getD {}).startDelay) := by
      split
      · exact .give _
      · exact sleep_lingers _
    exact hsleeps.under _
  refine (hstarts w₂).imp fun next hnext => ⟨_, ?_, hnext⟩
  rw [hw₂, hw₁]
  exact hscript

theorem openChannel_lays (w : World) {channel : Nat} {pipe : Pipe}
    (hpipe : w.layout.pipes[channel]? = some pipe) (hprocess : pipe.process = none) :
    Lays w w.layout (fun next => ∃ script command, (script ∈ w.layout.companions ∨ script = {}) ∧
      Rises [.program (.starting script command), .channel (.opened channel)] next)
      (openChannel channel) := by
  refine .get_bind ?_
  rw [layout_pipes_getElem?] at hpipe
  obtain ⟨c, hc, rfl⟩ := Option.map_eq_some_iff.1 hpipe
  have hnone : c.process = none := hprocess
  rw [hc]
  simp only [hnone, Option.isSome_none, Bool.false_eq_true, if_false]
  refine (startCompanion_lays w c.command).bind fun next w₁ hw₁ hnext => ?_
  obtain ⟨script, hscript, hrises⟩ := hnext
  rw [← hw₁]
  refine .pure ⟨script, c.command, ?_, hrises.under _⟩
  rw [hw₁]
  exact hscript

theorem beginStart_lays (w : World) (number : Nat) (command : List String) :
    Lays w (w.layout.beginStart number w.tasks.promises.length) (· = w.layout.pipes.length)
      (World.beginStart number command) := by
  have hpromise : Lays w w.layout (· = w.tasks.promises.length) promise :=
    ⟨onTasks_inert _ w, rfl⟩
  refine hpromise.bind fun started w₁ hw₁ hstarted => ?_
  refine (newChannel_lays w₁ command _).bind fun channel w₂ hw₂ hchannel => ?_
  have hchanged : Lays w₂ (w₂.layout.setBond number fun b =>
      { b with phase := .starting, started := some started, channel := some channel })
      (fun _ => True) (updateConnection number fun c =>
        { c with phase := .starting, started := some started, channel := some channel }) :=
    updateConnection_lays w₂ number fun _ => rfl
  refine hchanged.bind fun _ w₃ hw₃ _ => ?_
  refine ⟨?_, ?_⟩
  · show w₃.layout = _
    rw [hw₃, hw₂, hchannel, hstarted, hw₁]
    rfl
  · show channel = _
    rw [hchannel, hw₁]

theorem connect_goes (w : World) (number : Nat) :
    Goes w (w.layout.Connects number) (connect number) := by
  refine .get_bind ?_
  cases hc : w.connections[number]? with
  | none =>
    refine Goes.pure (.keeps ?_ (rises_go _ _))
    rintro ⟨bond, hbond, -⟩
    rw [layout_bonds_getElem?, hc] at hbond
    cases hbond
  | some c =>
    have hbond : w.layout.bonds[number]? = some c.bond := bond_of_connection hc
    have hkeeps : ∀ ready, c.phase ≠ .stopped →
        Goes w (w.layout.Connects number) (finish (.bool ready)) := by
      refine fun ready hne => .pure (.keeps ?_ (rises_go _ _))
      rintro ⟨bond, hbond', hphase⟩
      obtain rfl := Option.some.inj (hbond.symm.trans hbond')
      exact hne hphase
    -- Only a connection that is stopped begins to start; all others are kept as they are.
    cases hphase : c.phase with
    | stopped =>
      simp only [hphase]
      refine .bind (beginStart_lays w number c.config.command) fun channel w₁ _ hw₁ hchannel => ?_
      subst hchannel
      have hpipe : w₁.layout.pipes[w.layout.pipes.length]? =
          some ⟨none, false, .connection number, {}, []⟩ := by
        rw [hw₁]
        exact List.getElem?_concat_length
      refine (openChannel_lays w₁ hpipe rfl).goes.under fun l next hnext => ?_
      obtain ⟨rfl, script, command, hscript, hrises⟩ := hnext
      rw [hw₁] at hscript ⊢
      exact .begins ⟨_, hbond, hphase⟩ hscript (hrises.under _)
    | ready => simpa only [hphase] using hkeeps true (by simp [hphase])
    | starting => simpa only [hphase] using hkeeps false (by simp [hphase])
    | stopping => simpa only [hphase] using hkeeps false (by simp [hphase])

theorem closeOn_goes (w : World) (channel : Option Nat) :
    Goes w (w.layout.ClosesOn w.facts channel)
      (match channel with
        | some channel => closeChannel channel
        | none => finish .unit) := by
  cases channel with
  | none => exact .pure .nothing
  | some channel => exact (closeChannel_goes w channel).imp fun _ _ h => .closes h

/-- An action that changes connections only tells nothing of processes. -/
theorem facts_updateConnection (w : World) (number : Nat) (change : Connection → Connection) :
    ((updateConnection number change).run w).2.facts = w.facts :=
  rfl

theorem disconnect_goes (w : World) (number : Nat) :
    Goes w (w.layout.Disconnects w.facts number) (disconnect number) := by
  refine .get_bind ?_
  cases hc : w.connections[number]? with
  | none => exact .pure (.keeps (.inl (by rw [layout_bonds_getElem?, hc]; rfl)))
  | some c =>
    have hbond : w.layout.bonds[number]? = some c.bond := bond_of_connection hc
    -- A connection on its way is closed at once, and one that is ready is asked to go first.
    cases hphase : c.phase with
    | stopped =>
      simp only [hphase]
      refine .bind (clear_lays w number) fun _ w₁ _ hw₁ _ => .pure ?_
      rw [hw₁]
      exact .clears ⟨_, hbond, hphase⟩
    | stopping =>
      simp only [hphase]
      exact .pure (.keeps (.inr ⟨_, hbond, hphase⟩))
    | starting =>
      simp only [hphase]
      refine .bind (setPhase_lays w number .stopping) fun _ w₁ hrun hw₁ _ => ?_
      have hfacts : w₁.facts = w.facts := by
        rw [← facts_updateConnection w number fun c => { c with phase := .stopping }, hrun]
      refine (closeOn_goes w₁ c.channel).under fun l next h => ?_
      rw [hw₁, hfacts] at h
      exact .closes hbond rfl (.inl hphase) h
    | ready =>
      simp only [hphase]
      refine .bind (setPhase_lays w number .stopping) fun _ w₁ hrun hw₁ _ => ?_
      have hfacts : w₁.facts = w.facts := by
        rw [← facts_updateConnection w number fun c => { c with phase := .stopping }, hrun]
      cases hchannel : c.channel with
      | none =>
        refine (closeOn_goes w₁ none).under fun l next h => ?_
        rw [hw₁, hfacts] at h
        exact .closes hbond hchannel (.inr ⟨hphase, rfl⟩) h
      | some channel =>
        refine .bind (requestThrough_lays w₁ none channel "shutdown" .null)
          fun asked w₂ _ hw₂ hasked => ?_
        obtain ⟨rfl, -⟩ | ⟨-, hrefused⟩ := hasked
        · refine .of_lingers ((waitWithin_lingers _ _).under _) fun next hnext => ?_
          rw [hw₂, hw₁]
          exact .parts ⟨_, hbond, hphase, hchannel⟩ hnext
        · exact absurd (fun _ _ => rfl) hrefused

theorem vacate_goes (w : World) : Goes w (w.layout.Vacates w.facts) vacate := by
  refine .get_bind ?_
  have hvacant : Lays w { w.layout with kept := none } (fun _ => True)
      (updateKeeper fun k => { k with connection := none, fingerprint := none }) :=
    ⟨rfl, trivial⟩
  refine .bind hvacant fun _ w₁ hrun hw₁ _ => ?_
  have hfacts : w₁.facts = w.facts := by
    rw [← show ((updateKeeper fun k => { k with connection := none, fingerprint := none }).run
      w).2.facts = w.facts from rfl, hrun]
  cases hkept : w.keeper.connection with
  | none =>
    refine .pure ?_
    have hsame : ({ w.layout with kept := none } : Layout) = w.layout := by
      simp [layout, hkept]
    rw [hw₁, hsame]
    exact .vacant hkept
  | some number =>
    refine (disconnect_goes w₁ number).under fun l next h => ?_
    rw [hw₁, hfacts] at h
    exact .leaves hkept h

end BasiliskServer.World
