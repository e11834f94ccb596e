import BasiliskServer.Proofs.World.View.Notifications

/-!
# Connections and the view

What becomes of the view when a channel is closed in stages (`Ends`), when processes come and go, and
when connections are started, greeted, stopped and lost.
-/

namespace BasiliskServer.World

open Json (Value Fields)
open Tasks (Notice Scheduler)

/-! ## Channels -/

/-- The channel that a point waits to see closed. -/
def Point.closes? : Point → Option Nat
  | .channel (.asked number _) => some number
  | .channel (.killed number) => some number
  | .channel (.quiet number) => some number
  | _ => none

/-- Whether a channel is being closed. -/
def View.IsClosing (v : View) (channel : Nat) : Prop :=
  ∃ line, v.lines[channel]? = some line ∧ line.closing = true

/-- A point that needs no care, or at which a task waits to see a channel closed that is being
closed. -/
def View.Allows (v : View) (point : Point) : Prop :=
  point.isPlain ∨ ∃ channel, point.closes? = some channel ∧ v.IsClosing channel

/-- An activity goes on at points that the view allows, and then at the given ones. -/
def Leads (v : View) (rest : List Point) (next : Next) : Prop :=
  ∃ front, (∀ point ∈ front, v.Allows point) ∧ points next = front ++ rest

theorem Leads.of_plain {v : View} {next : Next} (h : Plain next) : Leads v [] next :=
  ⟨points next, fun point hpoint => .inl (h point hpoint), by simp⟩

theorem Leads.under {v : View} {rest : List Point} {next : Next} (h : Leads v rest next)
    (point : Point) : Leads v (rest ++ [point]) (next.under point) := by
  obtain ⟨front, hfront, heq⟩ := h
  exact ⟨front, hfront, by rw [points_under, heq, List.append_assoc]⟩

/-- A line is brought nearer to its end. -/
structure Line.Ends (line next : Line) : Prop where
  /-- It has the same owner. -/
  owner : next.owner = line.owner
  /-- It is not opened again. -/
  closing : line.closing = true → next.closing = true
  /-- It has the same process or none. -/
  process : next.process = line.process ∨ next.process = none

/-- A change of a line that brings it nearer to its end. -/
def Ending (change : Line → Line) : Prop :=
  ∀ line : Line, line.Ends (change line)

theorem IsClosing_setLine {v : View} {channel : Nat} {change : Line → Line}
    (hclosing : ∀ line, v.lines[channel]? = some line → (change line).closing = true)
    (hexists : (v.lines[channel]?).isSome) : (v.setLine channel change).IsClosing channel := by
  obtain ⟨line, hline⟩ := Option.isSome_iff_exists.1 hexists
  exact ⟨change line, by simp [View.setLine, hline], hclosing line hline⟩

theorem setLine_id (v : View) (channel : Nat) : v.setLine channel id = v := by
  simp [View.setLine]

theorem ending_id : Ending id :=
  fun _ => ⟨rfl, id, .inl rfl⟩

theorem ending_close : Ending fun line => { line with closing := true } :=
  fun _ => ⟨rfl, fun _ => rfl, .inl rfl⟩

theorem ending_clear : Ending fun line => { line with process := none } :=
  fun _ => ⟨rfl, id, .inr rfl⟩

theorem Ending.comp {change change' : Line → Line} (h : Ending change) (h' : Ending change') :
    Ending (change' ∘ change) := by
  intro line
  refine ⟨(h' _).owner.trans (h line).owner, fun hc => (h' _).closing ((h line).closing hc), ?_⟩
  rcases (h' (change line)).process with heq | hnone
  · rw [Function.comp, heq]
    exact (h line).process
  · exact .inr hnone

theorem IsClosing.setLine {v : View} {channel : Nat} (h : v.IsClosing channel)
    {change : Line → Line} (hchange : Ending change) :
    (v.setLine channel change).IsClosing channel := by
  obtain ⟨line, hline, hclosing⟩ := h
  exact ⟨change line, by simp [View.setLine, hline], (hchange line).closing hclosing⟩

/-- In the world `w` the action brings a channel nearer to its end, and may wait for it. -/
def Ends (w : World) (channel : Nat) (act : Act Next) : Prop :=
  ∃ change, Ending change ∧
    Turns none w (w.view.setLine channel change) (Leads (w.view.setLine channel change) []) act

namespace Ends

variable {w : World} {channel : Nat}

/-- An activity that has nothing to do with the channel. -/
theorem of_modest {act : Act Next} (h : Modest Plain act) (w : World) (channel : Nat) :
    Ends w channel act := by
  refine ⟨id, ending_id, ?_⟩
  rw [setLine_id]
  exact (Turns.of_modest h w).imp fun _ => .of_plain

/-- After an action that brings the channel nearer to its end. -/
theorem after {α : Type} {act : Act α} {rest : α → Act Next} {change : Line → Line}
    {post : α → Prop} (hchange : Ending change) (h : Turns none w (w.view.setLine channel change) post act)
    (hrest : Ends (act.run w).2 channel (rest (act.run w).1)) : Ends w channel (act >>= rest) := by
  obtain ⟨change', hchange', hturns⟩ := hrest
  have hcomp : (act.run w).2.view.setLine channel change' =
      w.view.setLine channel (change' ∘ change) := by
    rw [h.view]
    simp [View.setLine, List.modify_modify_eq]
  exact ⟨_, hchange.comp hchange', .bind_run h.drift (hcomp ▸ hturns)⟩

/-- After an action that changes things in the background. -/
theorem after_quiet {α : Type} {act : Act α} {rest : α → Act Next} (h : Quiet act)
    (hrest : Ends (act.run w).2 channel (rest (act.run w).1)) : Ends w channel (act >>= rest) := by
  have hturns : Turns none w (w.view.setLine channel id) (fun _ => True) act := by
    rw [setLine_id]
    exact .of_modest h w
  exact after ending_id hturns hrest

theorem get_bind {rest : World → Act Next} (h : Ends w channel (rest w)) :
    Ends w channel (get >>= rest) :=
  h.imp fun _ ⟨hchange, hturns⟩ => ⟨hchange, .get_bind hturns⟩

end Ends

theorem endTraffic_ends (w : World) {channel : Nat} (hclosing : w.view.IsClosing channel) :
    Ends w channel (endTraffic channel) := by
  obtain ⟨line, hline, -⟩ := id hclosing
  rw [view_lines_getElem?] at hline
  obtain ⟨c, hc, -⟩ := Option.map_eq_some_iff.1 hline
  -- Without tasks the channel lets go of its process at once; otherwise their end is waited for.
  by_cases htasks : c.tasks.isEmpty
  · refine ⟨fun line => { line with process := none }, ending_clear, .get_bind ?_⟩
    simp only [hc]
    refine .modest_seq (.forM fun task _ => interrupt_quiet task) fun _ w' hw' => ?_
    rw [if_pos htasks]
    have hcleared : Turns none w' (w'.view.setLine channel fun line => { line with process := none })
        (fun _ => True) (updateChannel channel fun c => { c with process := none }) :=
      updateChannel_turns w' channel (fun _ => rfl) fun _ _ hq => hq
    rw [hw'] at hcleared
    exact hcleared.seq_modest fun _ => (Modest.finish _).imp fun _ => Leads.of_plain
  · refine ⟨id, ending_id, .get_bind ?_⟩
    simp only [hc]
    refine .modest_seq (.forM fun task _ => interrupt_quiet task) fun _ w' hw' => ?_
    rw [if_neg htasks]
    have hwaits : Turns none w' _ _ _ := .of_modest (waitAll_points (c.tasks.filterMap fun task =>
      w.tasks.tasks[task]?.map (·.result)) (.channel (.quiet channel))) w'
    rw [hw', ← setLine_id w.view channel] at hwaits
    refine hwaits.imp fun next hnext => ⟨_, ?_, by rw [hnext, List.append_nil]⟩
    intro point hpoint
    rw [List.mem_singleton.1 hpoint, setLine_id]
    exact .inr ⟨channel, rfl, hclosing⟩

theorem endProcess_ends (w : World) {channel : Nat} (hclosing : w.view.IsClosing channel)
    (process : Nat) : Ends w channel (endProcess channel process) := by
  refine .get_bind ?_
  split
  · exact endTraffic_ends w hclosing
  · refine .after_quiet (askToEnd_quiet process) ?_
    have hclosing' := (askToEnd_quiet process w).1.view.symm ▸ hclosing
    split
    · refine .after_quiet (spawn_quiet rfl) ⟨id, ending_id, ?_⟩
      rw [setLine_id]
      refine (Turns.of_modest (waitLimited_modest _ _) _).under fun next hnext => ?_
      obtain ⟨front, hfront, heq⟩ := (Leads.of_plain hnext).under (.channel (.asked channel process))
      refine ⟨front ++ [_], fun point hpoint => ?_, by simpa using heq⟩
      rcases List.mem_append.1 hpoint with hpoint | hpoint
      · exact hfront point hpoint
      · rw [List.mem_singleton.1 hpoint]
        refine .inr ⟨channel, rfl, ?_⟩
        rw [((spawn_quiet _) _).1.view]
        · exact hclosing'
        · rfl
    · exact endTraffic_ends _ hclosing'

theorem closeChannel_ends (w : World) (channel : Nat) : Ends w channel (closeChannel channel) := by
  refine .get_bind ?_
  split
  · exact .of_modest (.finish .unit) w channel
  · rename_i process hprocess
    obtain ⟨c, hc, -⟩ := Option.bind_eq_some_iff.1 hprocess
    have hclosed : Turns none w (w.view.setLine channel fun line => { line with closing := true })
        (fun _ => True) (updateChannel channel fun c => { c with closing := true }) :=
      updateChannel_turns w channel (fun _ => rfl) fun _ _ hq => hq
    refine .after ending_close hclosed (endProcess_ends _ ?_ process)
    rw [hclosed.view]
    refine IsClosing_setLine (fun _ _ => rfl) ?_
    simp [view_lines_getElem?, hc]

/-! ## Processes that come and go -/

/-- How far a connection is when it is stopped. -/
def Link.stopped (link : Link) : Link :=
  ⟨.stopped, none, [], link.room⟩

/-- How far a connection is when its process has ended on its own. -/
def Link.lost (link : Link) : Link :=
  if link.phase = .stopping then { link with queue := [] } else link.stopped

/-- Where a channel leads when its process has ended on its own. -/
def Line.lost (line : Line) : Line :=
  { line with process := none, closing := true }

/-- The owner of a channel learns that the process has ended on its own. -/
def View.leave (v : View) : Owner → View
  | .recorder _ _ => v
  | .connection number => v.setLink number Link.lost

theorem reset_turns (w : World) (number : Nat) :
    Turns none w (w.view.setLink number Link.stopped) (fun _ => True) (reset number) := by
  have hreset : Turns none w (w.view.setLink number Link.stopped) (fun _ => True)
      (updateConnection number fun c =>
        { c with channel := none, queue := [], phase := .stopped }) :=
    updateConnection_turns w number (fun _ => rfl) fun _ _ hq => hq
  exact hreset.seq_modest fun _ => settleStarted_quiet number false

theorem setLink_none {v : View} {number : Nat} (h : v.links[number]? = none)
    (change : Link → Link) : v.setLink number change = v := by
  have hge := List.getElem?_eq_none_iff.1 h
  simp [View.setLink, List.modify_eq_self hge]

theorem setLink_congr {v : View} {number : Nat} {change change' : Link → Link} {link : Link}
    (hlink : v.links[number]? = some link) (heq : change link = change' link) :
    v.setLink number change = v.setLink number change' := by
  have hmodify : v.links.modify number change = v.links.modify number change' := by
    refine List.ext_getElem? fun i => ?_
    simp only [List.getElem?_modify]
    split
    · rename_i hi
      simp [← hi, hlink, heq]
    · rfl
  simp [View.setLink, hmodify]

theorem setLink_setLink (v : View) (number : Nat) (change change' : Link → Link) :
    (v.setLink number change).setLink number change' = v.setLink number (change' ∘ change) := by
  simp [View.setLink, List.modify_modify_eq]

theorem takeLoss_turns (w : World) (number : Nat) (code : Option Int) :
    Turns none w (w.view.setLink number Link.lost) (fun _ => True) (takeLoss number code) := by
  refine .get_bind ?_
  have hlinks := view_links_getElem? w number
  split
  · rename_i hnone
    rw [hnone] at hlinks
    rw [setLink_none hlinks]
    exact .pure trivial
  · rename_i c hc
    rw [hc] at hlinks
    refine .modest_seq (.forM_option fun channel _ => rejectAll_quiet channel _) fun _ w' hw' => ?_
    have hqueue : Turns none w' (w'.view.setLink number fun l => { l with queue := [] })
        (fun _ => True) (updateConnection number fun c => { c with queue := [] }) :=
      updateConnection_turns w' number (fun _ => rfl) fun _ _ hq => hq
    rw [hw'] at hqueue
    -- A connection that is being stopped is left to whoever stops it.
    by_cases hphase : c.phase = .stopping
    · simp only [hphase, ne_eq, not_true_eq_false, if_false]
      have hlost : w.view.setLink number Link.lost =
          w.view.setLink number fun l => { l with queue := [] } :=
        setLink_congr hlinks (by simp [Link.lost, Connection.link, hphase])
      rw [hlost]
      exact hqueue.seq_modest fun _ => .pure trivial
    · simp only [hphase, ne_eq, not_false_eq_true, if_true]
      refine hqueue.bind fun _ w'' hw'' _ => ?_
      have hreset := reset_turns w'' number
      rw [hw'', setLink_setLink] at hreset
      have hlost : w.view.setLink number Link.lost =
          w.view.setLink number (Link.stopped ∘ fun l => { l with queue := [] }) :=
        setLink_congr hlinks (by simp [Link.lost, Link.stopped, Connection.link, hphase])
      rw [hlost]
      exact hreset.seq_modest fun _ => exit_quiet _ code

theorem Owner.exit_turns (w : World) (owner : Owner) (code : Option Int) :
    Turns none w (w.view.leave owner) (fun _ => True) (owner.exit code) := by
  cases owner with
  | recorder full takes =>
    have hnoted : Quiet ((Owner.recorder full takes).exit code) := by
      simp only [Owner.exit]
      split
      · exact note_quiet fun _ => rfl
      · exact .pure trivial
    exact .of_modest hnoted w
  | connection number => exact takeLoss_turns w number code

/-- A process that has ended on its own: nothing changes if its channel is being closed, and
otherwise the channel leads nowhere and its owner learns of it. -/
theorem loseProcess_turns (w : World) (channel : Nat) (code : Option Int) :
    ∃ v, (v = w.view ∨ ∃ line, w.view.lines[channel]? = some line ∧ line.closing = false ∧
        v = (w.view.leave line.owner).setLine channel Line.lost) ∧
      Turns none w v Plain (loseProcess channel code) := by
  cases hchannel : w.channels[channel]? with
  | none =>
    refine ⟨_, .inl rfl, .get_bind ?_⟩
    rw [hchannel]
    exact .of_modest (.finish _) w
  | some c =>
    cases hclosing : c.closing with
    | true =>
      refine ⟨_, .inl rfl, .get_bind ?_⟩
      simp only [hchannel, hclosing]
      exact .of_modest (.finish _) w
    | false =>
      refine ⟨_, .inr ⟨c.line, by simp [view_lines_getElem?, hchannel], hclosing, rfl⟩,
        .get_bind ?_⟩
      simp only [hchannel, hclosing, Bool.not_false, if_true]
      have hlost : Turns none w (w.view.setLine channel Line.lost) (fun _ => True)
          (updateChannel channel fun c => { c with closing := true, process := none }) :=
        updateChannel_turns w channel (fun _ => rfl) fun _ _ hq => hq
      refine hlost.bind fun _ w' hw' _ => ?_
      have hexit := Owner.exit_turns w' c.owner code
      -- The channel is changed before its owner, and the statement has it the other way round.
      have hcomm : w'.view.leave c.owner =
          (w.view.leave c.line.owner).setLine channel Line.lost := by
        rw [hw']
        cases hc : c.owner <;> simp [Channel.line, hc, View.leave, View.setLine, View.setLink]
      rw [hcomm] at hexit
      exact hexit.seq_modest fun _ => .finish _

/-- The start of a companion program: it fails, or there is another process. -/
theorem starting_turns (w : World) (script : CompanionScript) (command : List String)
    (outcome : Outcome) :
    (∃ failure, Turns none w w.view (· = .go (.error failure) [])
      ((ProgramPoint.starting script command).resume outcome)) ∨
    Turns none w w.view.addProcess
      (· = .go (.ok (.process w.view.processCount)) [])
      ((ProgramPoint.starting script command).resume outcome) := by
  cases outcome with
  | error failure => exact .inl ⟨failure, .pure rfl⟩
  | ok answer =>
    by_cases hmissing : script.isMissing
    · refine .inl ⟨.spawn (programOf command) (missingText (programOf command)), ?_⟩
      simp only [ProgramPoint.resume, hmissing, if_true]
      exact .pure rfl
    · refine .inr ?_
      simp only [ProgramPoint.resume, hmissing]
      refine .get_bind ?_
      have hgrown : Turns none w w.view.addProcess
          (fun _ => True)
          (modify fun w => { w with processes := w.processes ++ [{ script }] } : Act Unit) := by
        refine ⟨(Drift.refl w).of_tasks_eq rfl fun q hq => .inl ?_, ?_, trivial⟩
        · have hq : q ∈ outerTargets { w with processes := w.processes ++ [{ script }] } := hq
          simpa [outerTargets, Process.waiters] using hq
        · show World.view { w with processes := w.processes ++ [{ script }] } = _
          simp [view, View.addProcess, syncs]
      exact hgrown.bind fun _ w' hw' _ => hw' ▸ .pure rfl

/-- The process of a channel is started, or it is not. -/
theorem opened_turns (w : World) (channel process : Nat) :
    Turns none w (w.view.setLine channel fun line => { line with process := some process })
      (· = .go (.ok .unit) []) ((ChannelPoint.opened channel).resume (.ok (.process process))) := by
  have hbegun : Turns none w (w.view.setLine channel fun line => { line with process := some process })
      (fun _ => True) (updateChannel channel fun c => { c with process := some process }) :=
    updateChannel_turns w channel (fun _ => rfl) fun _ _ hq => hq
  refine hbegun.seq_modest fun _ => .seq (spawn_quiet rfl) fun _ => ?_
  refine .seq (spawn_quiet rfl) fun _ => .seq (spawn_quiet rfl) fun _ => ?_
  exact .seq (updateChannel_quiet channel _ (fun _ => rfl) fun _ _ hq => hq) fun _ => .pure rfl

/-! ## Connections -/

theorem startCompanion_modest (command : List String) :
    Modest (fun next => ∃ script, ∀ v, Leads v [.program (.starting script command)] next)
      (startCompanion command) := by
  refine .get_bind fun w => ?_
  refine .seq (modify_quiet (fun _ => rfl) (fun _ => rfl) (fun _ => rfl)) fun _ => ?_
  refine .seq (note_quiet fun _ => rfl) fun _ => ?_
  generalize (repeating w.companions w.companionCount).getD {} = script
  have hdelay : Modest Plain
      (if script.startDelay = 0 then finish .unit else sleep script.startDelay) := by
    split
    · exact .finish _
    · exact sleep_modest _
  refine hdelay.bind fun next hnext => .pure ?_
  exact ⟨script, fun v => (Leads.of_plain hnext).under _⟩

/-- The start of the process of a channel that leads nowhere. -/
theorem openChannel_turns {w : World} {channel : Nat} {line : Line}
    (hline : w.view.lines[channel]? = some line) (hnone : line.process = none) :
    Turns none w w.view (fun next => ∃ script command, ∀ v,
      Leads v [.program (.starting script command), .channel (.opened channel)] next)
      (openChannel channel) := by
  refine .get_bind ?_
  rw [view_lines_getElem?] at hline
  obtain ⟨c, hc, rfl⟩ := Option.map_eq_some_iff.1 hline
  have hprocess : c.process = none := hnone
  simp only [hc, hprocess, Option.isSome_none, Bool.false_eq_true, if_false]
  refine (Turns.of_modest (startCompanion_modest c.command) w).under fun next hnext => ?_
  obtain ⟨script, hleads⟩ := hnext
  exact ⟨script, c.command, fun v => (hleads v).under _⟩

theorem newChannel_turns (w : World) (command : List String) (owner : Owner) :
    Turns none w (w.view.addLine owner)
      (· = w.view.lines.length) (newChannel command owner) := by
  refine .get_bind ⟨(Drift.refl w).of_tasks_eq rfl fun q hq => .inl ?_, ?_, ?_⟩
  · have hq : q ∈ outerTargets { w with channels := w.channels ++
        [{ command, owner, decoder := { nesting := w.host.nesting } }] } := hq
    simpa [outerTargets] using hq
  · show World.view { w with channels := w.channels ++
        [{ command, owner, decoder := { nesting := w.host.nesting } }] } = _
    simp [view, View.addLine, Channel.line, syncs]
  · show w.channels.length = _
    simp [view]

theorem newConnection_turns (w : World) (connection : Connection)
    (hwaiters : ∀ q ∈ connection.waiters, q ∈ w.outerTargets) :
    Turns none w (w.view.addLink connection.link)
      (· = w.view.links.length) (newConnection connection) := by
  refine .get_bind ⟨(Drift.refl w).of_tasks_eq rfl fun q hq => .inl ?_, ?_, ?_⟩
  · have hq : q ∈ outerTargets { w with connections := w.connections ++ [connection] } := hq
    simp only [outerTargets, List.flatMap_append, List.flatMap_cons, List.flatMap_nil,
      List.append_nil, List.mem_append] at hq
    rcases hq with hq | hq | hq
    · exact List.mem_append_left _ (List.mem_append.2 hq)
    · exact List.mem_append_right _ hq
    · exact hwaiters q hq
  · show World.view { w with connections := w.connections ++ [connection] } = _
    simp [view, View.addLink, syncs]
  · show w.connections.length = _
    simp [view]

theorem beginStart_turns (w : World) (number : Nat) (command : List String) :
    Turns none w
      ((w.view.addLine (.connection number)).setLink number
        fun l => ⟨.starting, some w.view.lines.length, l.queue, l.room⟩)
      (· = w.view.lines.length) (beginStart number command) := by
  have hpromise := (Background.refl w).promise 0
  have hchannel := newChannel_turns { w with tasks := (w.tasks.addPromise 0).2 } command
    (.connection number)
  -- the connection settles the promise that was just made
  have hbegun := (hpromise.toDrift.trans hchannel.drift).setConnection number
    (fun c => { c with
      phase := .starting
      started := some w.tasks.promises.length
      channel := some w.channels.length }) (by
    intro c _ q hq
    simp only [Connection.waiters, Option.toList_some, List.mem_append, List.mem_singleton] at hq ⊢
    rcases hq with rfl | hq
    · refine .inr ⟨Nat.le_refl _, ?_⟩
      show _ < (w.tasks.promises ++ [_]).length
      simp
    · exact .inl (.inr hq))
  have hlength : w.view.lines.length = w.channels.length := by simp [view]
  refine ⟨hbegun, ?_, hlength.symm⟩
  have hlinks : (w.connections.modify number fun c => { c with
        phase := .starting
        started := some w.tasks.promises.length
        channel := some w.channels.length }).map Connection.link =
      (w.connections.map Connection.link).modify number
        fun l => ⟨.starting, some w.channels.length, l.queue, l.room⟩ :=
    map_modify_of_comm fun _ => rfl
  rw [View.setLink, View.addLine, hlength]
  show World.view { w with
    tasks := (w.tasks.addPromise 0).2
    channels := w.channels ++
      [{ command, owner := .connection number, decoder := { nesting := w.host.nesting } }]
    connections := w.connections.modify number _ } = _
  simp [view, hlinks, Channel.line, syncs]

/-- The start of a connection that is stopped. -/
theorem connect_turns {w : World} {number : Nat} {link : Link}
    (hlink : w.view.links[number]? = some link) (hphase : link.phase = .stopped) :
    Turns none w
      ((w.view.addLine (.connection number)).setLink number
        fun l => ⟨.starting, some w.view.lines.length, l.queue, l.room⟩)
      (fun next => ∃ script command, ∀ v, Leads v
        [.program (.starting script command), .channel (.opened w.view.lines.length),
          .connection (.opened number w.view.lines.length)] next)
      (connect number) := by
  refine .get_bind ?_
  rw [view_links_getElem?] at hlink
  obtain ⟨c, hc, rfl⟩ := Option.map_eq_some_iff.1 hlink
  have hstopped : c.phase = .stopped := hphase
  simp only [hc, hstopped]
  refine (beginStart_turns w number c.config.command).bind fun channel w' hw' hchannel => ?_
  subst hchannel
  have hline : w'.view.lines[w.view.lines.length]? = some ⟨none, false, .connection number⟩ := by
    simp [hw', View.setLink, View.addLine]
  rw [← hw']
  refine (openChannel_turns hline rfl).under fun next hnext => ?_
  obtain ⟨script, command, hleads⟩ := hnext
  exact ⟨script, command, fun v => (hleads v).under _⟩

/-- Whether a connection is in a phase. -/
def View.IsIn (v : View) (phase : Phase) (number : Nat) : Prop :=
  ∃ link, v.links[number]? = some link ∧ link.phase = phase

theorem isInPhase_turns (w : World) (phase : Phase) (number : Nat) :
    Turns none w w.view (· = true ↔ w.view.IsIn phase number) (isInPhase phase number) := by
  refine .get_bind ?_
  simp only [View.IsIn, view_links_getElem?]
  cases hc : w.connections[number]? with
  | none => exact .pure (by simp)
  | some c => exact .pure (by simp [Connection.link])

theorem Ends.under {w : World} {channel : Nat} {act : Act Next} (h : Ends w channel act)
    (point : Point) : ∃ change, Ending change ∧ Turns none w (w.view.setLine channel change)
      (Leads (w.view.setLine channel change) [point]) (World.under point act) := by
  obtain ⟨change, hchange, hturns⟩ := h
  exact ⟨change, hchange, hturns.under fun next hnext => hnext.under point⟩

/-- No connection limits what can be written. -/
def View.Unlimited (v : View) : Prop :=
  ∀ link ∈ v.links, link.room = none

/-- A request that can be written whatever it says. -/
theorem requestThrough_turns (w : World) (channel : Nat) (method : String) (params : Value) :
    ∃ answer, Turns none w w.view (· = .ok answer) (requestThrough none channel method params) := by
  obtain ⟨answer, hanswer⟩ := requestThrough_ok channel method params w
  have hsent : Turns none w w.view (fun _ => True) (requestThrough none channel method params) :=
    .of_modest (requestThrough_quiet _ _ _ _) w
  exact ⟨answer, hsent.drift, hsent.view, hanswer⟩

/-- The greeting of a process. -/
theorem greet_turns {w : World} {number : Nat} (hphase : w.view.IsIn .starting number)
    (hunlimited : w.view.Unlimited) (channel : Nat) :
    ∃ answer, Turns none w w.view (Leads w.view [.connection (.greeted number channel answer)])
      (greet number channel) := by
  obtain ⟨link, hlink, -⟩ := hphase
  have hroom := hunlimited link (List.mem_of_getElem? hlink)
  rw [view_links_getElem?] at hlink
  obtain ⟨c, hc, rfl⟩ := Option.map_eq_some_iff.1 hlink
  have hroom : c.room = none := hroom
  obtain ⟨answer, hsent⟩ := requestThrough_turns w channel "initialize"
    (c.config.greeting ownProcessId c.capabilities)
  refine ⟨answer, .get_bind ?_⟩
  simp only [hc, hroom]
  refine hsent.bind fun asked w' hw' hasked => ?_
  subst hasked
  rw [← hw']
  refine (Turns.of_modest (waitWithin_modest _ _) w').under fun next hnext => ?_
  exact (Leads.of_plain hnext).under _

/-- A process has answered the greeting. -/
theorem becomeReady_turns {w : World} {number : Nat} {link : Link}
    (hlink : w.view.links[number]? = some link) (hroom : link.room = none) (channel : Nat)
    (answer : Value) :
    Turns none w
      ((w.view.setLink number fun l => { l with phase := .ready, queue := [] }).handAll channel
        link.queue)
      (· = .go (.ok (.bool true)) []) (becomeReady number channel answer) := by
  rw [view_links_getElem?] at hlink
  obtain ⟨c, hc, rfl⟩ := Option.map_eq_some_iff.1 hlink
  have hroom : c.room = none := hroom
  refine .get_bind ?_
  simp only [hc, hroom, writable_none, findSome?_obstacle_none]
  have hready : Turns none w (w.view.setLink number fun l => { l with phase := .ready })
      (fun _ => True) (updateConnection number fun c => { c with phase := .ready }) :=
    updateConnection_turns w number (fun _ => rfl) fun _ _ hq => hq
  refine hready.bind fun _ w₁ hw₁ _ => ?_
  refine .modest_seq (notifyThrough_quiet channel rfl) fun _ w₂ hw₂ => ?_
  have hcleared : Turns none w₂ (w₂.view.setLink number fun l => { l with queue := [] })
      (fun _ => True) (updateConnection number fun c => { c with queue := [] }) :=
    updateConnection_turns w₂ number (fun _ => rfl) fun _ _ hq => hq
  -- Two changes of the connection, with a message in between, are one change in the view.
  rw [hw₂, hw₁, setLink_setLink] at hcleared
  refine hcleared.bind fun _ w₃ hw₃ _ => ?_
  have hflushed := handAll_turns w₃ channel c.queue
  rw [hw₃] at hflushed
  refine Turns.seq_modest hflushed fun _ => ?_
  refine .seq ?_ fun _ => .seq (settleStarted_quiet number true) fun _ => .pure rfl
  exact fun w => ⟨(Background.refl w).setConnection number _ (fun _ => rfl)
    fun c _ q hq => .inl hq, trivial⟩

/-- How a connection that is to be stopped leaves: the view afterwards, and what the task that
stops it waits for. -/
inductive Departure (v : View) (number : Nat) : View → List Point → Prop where
  /-- There is no such connection. -/
  | none (hlink : v.links[number]? = none) : Departure v number v []
  /-- It is stopped already. -/
  | ended {link : Link} (hlink : v.links[number]? = some link) (hphase : link.phase = .stopped) :
    Departure v number (v.setLink number fun l => { l with queue := [] }) []
  /-- It is being stopped already. -/
  | leaving {link : Link} (hlink : v.links[number]? = some link) (hphase : link.phase = .stopping) :
    Departure v number v []
  /-- It says goodbye first. -/
  | parting {link : Link} {channel : Nat} (hlink : v.links[number]? = some link)
    (hphase : link.phase = .ready) (hchannel : link.channel = some channel) :
    Departure v number (v.setLink number fun l => { l with phase := .stopping })
      [.connection (.parted number channel)]
  /-- Its process is ended at once. -/
  | closing {link : Link} {channel : Nat} {change : Line → Line}
    (hlink : v.links[number]? = some link) (hchannel : link.channel = some channel)
    (hchange : Ending change) :
    Departure v number
      ((v.setLink number fun l => { l with phase := .stopping }).setLine channel change)
      [.connection (.closed number (some channel))]
  /-- It has no process. -/
  | bare {link : Link} (hlink : v.links[number]? = some link) (hchannel : link.channel = .none) :
    Departure v number (v.setLink number fun l => { l with phase := .stopping })
      [.connection (.closed number .none)]

theorem disconnect_turns (w : World) (number : Nat) :
    ∃ v rest, Departure w.view number v rest ∧ Turns none w v (Leads v rest) (disconnect number) := by
  have hlinks := view_links_getElem? w number
  cases hc : w.connections[number]? with
  | none =>
    rw [hc] at hlinks
    refine ⟨_, _, .none hlinks, .get_bind ?_⟩
    rw [hc]
    exact (Turns.of_modest (.finish _) w).imp fun _ => .of_plain
  | some c =>
    rw [hc] at hlinks
    -- A connection that is on its way or ready is closed, or asked to go first; both begin alike.
    have hstopping : Turns none w (w.view.setLink number fun l => { l with phase := .stopping })
        (fun _ => True) (updateConnection number fun c => { c with phase := .stopping }) :=
      updateConnection_turns w number (fun _ => rfl) fun _ _ hq => hq
    have hclosing : ∃ v rest, Departure w.view number v rest ∧ Turns none w v (Leads v rest) (do
        updateConnection number fun c => { c with phase := .stopping }
        closeConnection number c.channel) := by
      cases hchannel : c.channel with
      | none =>
        refine ⟨_, _, .bare hlinks hchannel, hstopping.bind fun _ w' hw' _ => ?_⟩
        rw [← hw']
        exact ((Turns.of_modest (.finish _) w').imp fun _ => Leads.of_plain).under
          fun next hnext => hnext.under _
      | some channel =>
        obtain ⟨change, hchange, hturns⟩ := (closeChannel_ends
          ((updateConnection number fun c => { c with phase := .stopping }).run w).2
          channel).under (.connection (.closed number (some channel)))
        rw [hstopping.view] at hturns
        exact ⟨_, _, .closing hlinks hchannel hchange, .bind_run hstopping.drift hturns⟩
    cases hphase : c.phase with
    | stopped =>
      refine ⟨_, _, .ended hlinks hphase, .get_bind ?_⟩
      simp only [hc, hphase]
      have hcleared : Turns none w (w.view.setLink number fun l => { l with queue := [] })
          (fun _ => True) (updateConnection number fun c => { c with queue := [] }) :=
        updateConnection_turns w number (fun _ => rfl) fun _ _ hq => hq
      exact hcleared.seq_modest fun _ => (Modest.finish _).imp fun _ => .of_plain
    | stopping =>
      refine ⟨_, _, .leaving hlinks hphase, .get_bind ?_⟩
      simp only [hc, hphase]
      exact (Turns.of_modest (.finish _) w).imp fun _ => .of_plain
    | starting =>
      obtain ⟨v, rest, hdeparture, hturns⟩ := hclosing
      refine ⟨v, rest, hdeparture, .get_bind ?_⟩
      simpa only [hc, hphase] using hturns
    | ready =>
      cases hchannel : c.channel with
      | none =>
        obtain ⟨v, rest, hdeparture, hturns⟩ := hclosing
        refine ⟨v, rest, hdeparture, .get_bind ?_⟩
        simpa only [hc, hphase, hchannel] using hturns
      | some channel =>
        refine ⟨_, _, .parting hlinks hphase hchannel, .get_bind ?_⟩
        simp only [hc, hphase, hchannel]
        refine hstopping.bind fun _ w' hw' _ => ?_
        obtain ⟨answer, hsent⟩ := requestThrough_turns w' channel "shutdown" .null
        refine hsent.bind fun asked w'' hw'' hasked => ?_
        subst hasked
        rw [← hw', ← hw'']
        refine (Turns.of_modest (waitWithin_modest _ _) w'').under fun next hnext => ?_
        exact (Leads.of_plain hnext).under _

end BasiliskServer.World
