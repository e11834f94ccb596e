import BasiliskServer.Proofs.World.Losses

/-!
# Crashes

A process crashes when it ends while its channel is open and its connection is not being stopped. Only
then is its end reported, once (`losses_undergoAll`, `nodup_crashes`), and never after the connection
has begun to stop or to close the channel (`not_mem_crashes`).
-/

namespace BasiliskServer.World

open Json (Value)

variable {Γ Γ' : Ledger} {counter : Counter} {w w' : World} {point : Point} {outcome : Outcome}
  {rest aside : List Point} {next : Next} {s s' : Shape} {number channel process : Nat}

/-! ## Answers that are given up -/

/-- The action leaves what was settled as it was. -/
def Remembers (act : Act Unit) : Prop :=
  ∀ (w : World) (q : Nat) (known : Outcome), w.tasks.outcome? q = some known →
    (act.run w).2.tasks.outcome? q = some known

theorem settle_remembers (q : Nat) (outcome : Outcome) : Remembers (settle q outcome) :=
  fun _ _ _ h => (Onward.settle q).outcomes _ _ h

theorem reset_remembers (number : Nat) : Remembers (reset number) := by
  intro w q known h
  have hsettles : Remembers (settleStarted number false) := by
    intro w q known h
    unfold settleStarted
    simp only [run_bind, run_get]
    split
    · exact settle_remembers _ _ w q known h
    · exact h
  exact hsettles _ q known h

/-- A promise that is open is settled. -/
theorem outcome?_settle_self {q : Nat} (outcome : Outcome) (hq : q < w.tasks.promises.length)
    (hnone : w.tasks.outcome? q = none) : (w.tasks.settle q outcome).outcome? q = some outcome := by
  rcases w.tasks.settle_cases q outcome with ⟨-, hsettled⟩ | ⟨p, -, halters, -⟩
  · rw [hnone] at hsettled
    cases hsettled hq
  · rw [halters.outcome?, if_pos rfl]

/-- Other promises are as they were. -/
theorem settle_other {q other : Nat} (outcome : Outcome) (hne : q ≠ other) :
    (w.tasks.settle other outcome).promises.length = w.tasks.promises.length ∧
      (w.tasks.settle other outcome).outcome? q = w.tasks.outcome? q := by
  rcases w.tasks.settle_cases other outcome with ⟨hsame, -⟩ | ⟨p, -, halters, -⟩
  · rw [hsame]
    exact ⟨rfl, rfl⟩
  · rw [halters.outcome?, if_neg hne]
    exact ⟨halters.length, rfl⟩

/-- Promises that are open are settled one after the other. -/
theorem outcome?_settleAll {α : Type} (f : α → Option Nat) (outcome : Outcome) {items : List α} {q : Nat}
    (hmem : q ∈ items.filterMap f) (hq : q < w.tasks.promises.length)
    (hnone : w.tasks.outcome? q = none) :
    ((items.forM fun item => (f item).forM fun q => settle q outcome).run w).2.tasks.outcome? q =
      some outcome := by
  -- What is settled stays so, hence it is enough that the promise is settled once on the way.
  have hkeeps : ∀ (items : List α), Remembers (items.forM fun item => (f item).forM fun q =>
      settle q outcome) := by
    intro items
    induction items with
    | nil => exact fun _ _ _ h => h
    | cons item rest ih =>
      intro w q known h
      refine ih _ q known ?_
      cases f item with
      | none => exact h
      | some other => exact settle_remembers other outcome w q known h
  induction items generalizing w with
  | nil => cases hmem
  | cons item rest ih =>
    have hcons : (((item :: rest).forM fun item => (f item).forM fun q => settle q outcome :
        Act Unit).run w).2 = ((rest.forM fun item => (f item).forM fun q => settle q outcome :
        Act Unit).run (((f item).forM fun q => settle q outcome : Act Unit).run w).2).2 := rfl
    rw [List.filterMap_cons] at hmem
    rw [hcons]
    cases hitem : f item with
    | none =>
      rw [hitem] at hmem
      exact ih hmem hq hnone
    | some other =>
      rw [hitem] at hmem
      show ((rest.forM fun item => (f item).forM fun q => settle q outcome : Act Unit).run
        { w with tasks := w.tasks.settle other outcome }).2.tasks.outcome? q = some outcome
      by_cases heq : q = other
      · subst heq
        exact hkeeps rest _ q outcome (outcome?_settle_self outcome hq hnone)
      · obtain ⟨hlength, hothers⟩ := settle_other outcome heq
        exact ih ((List.mem_cons.1 hmem).resolve_left heq) (hlength.symm ▸ hq) (hothers.trans hnone)

/-- Whoever waits for an answer over a channel is told when its requests are rejected. -/
theorem outcome?_rejectAll {c : Channel} (hc : w.channels[channel]? = some c) (hvalid : c.requests.Valid)
    (hlength : c.answers.length = c.requests.sent.length) {i q : Nat} (hanswer : c.answers[i]? = some q)
    (hundecided : c.requests.outcome? (i + 1) = none) (hq : q < w.tasks.promises.length)
    (hnone : w.tasks.outcome? q = none) (failure : Failure) :
    ((rejectAll channel failure).run w).2.tasks.outcome? q = some (.error failure) := by
  have hlt : i < c.requests.sent.length := by
    rw [← hlength]
    exact (List.getElem?_eq_some_iff.1 hanswer).1
  have hrequest : c.requests.sent[i]? = some c.requests.sent[i] := List.getElem?_eq_getElem hlt
  have hopen : c.requests.sent[i].outcome = none := by
    rwa [Rpc.Requests.outcome?_of_getElem? hvalid hrequest] at hundecided
  -- An undecided request is listed, so its answer is among those that are settled.
  have hmem : q ∈ c.requests.rejectable.filterMap fun request => c.answerTo? request.id := by
    refine List.mem_filterMap.2 ⟨c.requests.sent[i], ?_, ?_⟩
    · have hlisted := hvalid.listed _ (List.mem_of_getElem? hrequest) hopen
      simp [Rpc.Requests.rejectable, Rpc.Requests.pending, hlisted, Rpc.Request.undecided_iff, hopen]
    · rw [Rpc.Requests.id_of_getElem? hvalid hrequest]
      exact hanswer
  let rejected : World := { w with channels := w.channels.modify channel fun c =>
    { c with requests := c.requests.rejectAll failure } }
  have hrun : ((rejectAll channel failure).run w).2 =
      ((c.requests.rejectable.forM fun request =>
        (c.answerTo? request.id).forM fun answer => settle answer (.error failure) :
        Act Unit).run rejected).2 := by
    unfold rejectAll
    simp only [run_bind, run_get, hc]
    rfl
  rw [hrun]
  exact outcome?_settleAll (w := rejected) _ _ hmem hq hnone

/-! ## Crashes -/

/-- The process and the code with which it has ended, where the end of a process is told to a connection
that is not being stopped. -/
def crashOf? (w : World) : Incident → Option (Nat × Option Int)
  | .step =>
    match w.acting? with
    | some (.channel (.gone channel process), .ok (.code code)) =>
      match w.channels[channel]? with
      | some { closing := false, owner := .connection number, .. } =>
        if w.phaseOf? number = some .stopping then none else some (process, code)
      | _ => none
    | _ => none
  | _ => none

/-- The crashes of a run. -/
def crashes (counter : Counter) : World → List Incident → List (Nat × Option Int)
  | _, [] => []
  | w, incident :: rest => (w.crashOf? incident).toList ++ crashes counter (w.undergo counter incident) rest

variable {incident : Incident} {code : Option Int}

/-- The end of a process is told to a connection that is not being stopped. -/
structure IsCrash (w : World) (channel number process : Nat) (code : Option Int) (c : Channel) : Prop where
  /-- A task goes on with the end of the process. -/
  acting : w.acting? = some (.channel (.gone channel process), .ok (.code code))
  /-- There is the channel. -/
  line : w.channels[channel]? = some c
  /-- It is open. -/
  isOpen : c.closing = false
  /-- It belongs to the connection. -/
  owner : c.owner = .connection number
  /-- The connection is not being stopped. -/
  phase : w.phaseOf? number ≠ some .stopping

theorem crashOf?_eq_some (h : w.crashOf? incident = some (process, code)) :
    incident = .step ∧ ∃ channel number c, w.IsCrash channel number process code c := by
  unfold crashOf? at h
  split at h
  · split at h
    · rename_i channel process' code' hacting
      split at h
      · rename_i command owner process'' tasks decoder requests answers hline
        split at h
        · cases h
        · rename_i hphase
          obtain ⟨rfl, rfl⟩ := Prod.mk.inj (Option.some.inj h)
          exact ⟨rfl, _, _, _, hacting, hline, rfl, rfl, hphase⟩
      · cases h
    · cases h
  · cases h

/-- Whatever is told is a crash, if the channel is open and the connection is not being stopped. -/
theorem IsCrash.crashOf? {number : Nat} {c : Channel} (h : w.IsCrash channel number process code c) :
    w.crashOf? .step = some (process, code) := by
  obtain ⟨command, owner, given, closing, tasks, decoder, requests, answers⟩ := c
  obtain rfl : closing = false := h.isOpen
  obtain rfl : owner = .connection number := h.owner
  simp [World.crashOf?, h.acting, h.line, h.phase]

theorem crashOf?_eq_none (h : ∀ channel number process code c, incident = .step →
    ¬ w.IsCrash channel number process code c) : w.crashOf? incident = none := by
  cases hcrash : w.crashOf? incident with
  | none => rfl
  | some pair =>
    obtain ⟨hstep, channel, number, c, hcrash⟩ := crashOf?_eq_some hcrash
    exact absurd hcrash (h _ _ _ _ _ hstep)

/-- The end of a process is told by a step that loses it. -/
theorem loses_of_gone (counter : Counter)
    (hacting : w.acting? = some (.channel (.gone channel process), .ok (.code code))) :
    w.layout.Loses channel code (w.undergo counter .step).layout := by
  obtain ⟨before, after, -, -, hstep⟩ := exists_step counter hacting
  rw [hstep]
  exact (loseProcess_goes { w with tasks := before } channel code).1

/-- What is asked over the channel is given up when its connection is told that the process has ended. -/
theorem outcome?_loseProcess {c : Channel} {b : Connection} (hc : w.channels[channel]? = some c)
    (hopen : c.closing = false) (howner : c.owner = .connection number)
    (hb : w.connections[number]? = some b) (hchannel : b.channel = some channel)
    (hlistener : b.listener = .recorder) (hvalid : c.requests.Valid)
    (hlength : c.answers.length = c.requests.sent.length) {i q : Nat} (hanswer : c.answers[i]? = some q)
    (hundecided : c.requests.outcome? (i + 1) = none) (hq : q < w.tasks.promises.length)
    (hnone : w.tasks.outcome? q = none) :
    ((loseProcess channel code).run w).2.tasks.outcome? q = some (.error (.exited code)) := by
  let lost : World := { w with channels := w.channels.modify channel fun c =>
    { c with closing := true, process := none } }
  have hrun : ((loseProcess channel code).run w).2 = ((takeLoss number code).run lost).2 := by
    unfold loseProcess
    simp only [run_bind, run_get, hc, hopen, howner]
    rfl
  have hlost : lost.channels[channel]? = some { c with closing := true, process := none } := by
    simp [lost, hc]
  have hgiven := outcome?_rejectAll hlost hvalid hlength hanswer hundecided hq hnone (.exited code)
  -- Whatever comes after the rejection leaves settled promises as they are.
  have hrest : Remembers (do
      updateConnection number fun c => { c with queue := [] }
      if b.phase ≠ .stopping then
        reset number
        b.listener.exit code) := by
    intro w q known h
    simp only [run_bind]
    split
    · rw [hlistener]
      exact reset_remembers number _ q known h
    · exact h
  have htaken : ((takeLoss number code).run lost).2 = ((do
      updateConnection number fun c => { c with queue := [] }
      if b.phase ≠ .stopping then
        reset number
        b.listener.exit code : Act Unit).run ((rejectAll channel (.exited code)).run lost).2).2 := by
    unfold takeLoss
    simp only [run_bind, run_get, show lost.connections[number]? = some b from hb, hchannel]
    rfl
  rw [hrun, htaken]
  exact hrest _ q _ hgiven

namespace Attentive

variable {c : Channel}

/-- A process that crashes is that of the connection, which is at work. -/
theorem exists_connection (h : Attentive w) (hcrash : w.IsCrash channel number process code c) :
    c.process = some process ∧ w.layout.shape.IsLast channel ∧
      ∃ b, w.connections[number]? = some b ∧ b.channel = some channel ∧ b.listener = .recorder := by
  obtain ⟨Γ, hordered⟩ := h.ordered
  obtain ⟨rest, aside, next, hacts⟩ := hordered.acts_of_acting hcrash.acting
  have hfree := h.single
  rw [hacts.hinge?_eq] at hfree
  have hpipe : w.layout.pipes[channel]? = some c.pipe := pipe_of_channel hcrash.line
  obtain ⟨hprocess, hlast, same, stage, hsame, hstage, hphase⟩ :=
    hfree.lives_of_gone (hacts.mem rfl) hpipe hcrash.isOpen
  obtain rfl : number = same := Owner.connection.inj (hcrash.owner.symm.trans hsame)
  obtain ⟨line, -, hline, hlast', -⟩ := hfree.led number stage hstage hphase
  obtain rfl := hlast.unique hlast'
  rw [Layout.shape_stages_getElem?] at hstage
  obtain ⟨bond, hbond, rfl⟩ := Option.map_eq_some_iff.1 hstage
  have hlistener := (h.tended number bond hbond).listener
  rw [layout_bonds_getElem?] at hbond
  obtain ⟨b, hb, rfl⟩ := Option.map_eq_some_iff.1 hbond
  exact ⟨hprocess, hlast, b, hb, hline, hlistener⟩

/-- Whoever waits for an answer is told of a crash. -/
theorem settles_of_crash (h : Attentive w) (hcrash : w.IsCrash channel number process code c)
    {other : Channel} (hother : other ∈ w.channels) {q : Nat} (hq : q ∈ other.answers)
    (hnone : w.tasks.outcome? q = none) :
    (w.undergo .connections .step).tasks.outcome? q = some (.error (.exited code)) := by
  obtain ⟨Γ, hordered⟩ := h.ordered
  obtain ⟨-, hlast, b, hb, hchannel, hlistener⟩ := h.exists_connection hcrash
  -- the answer is one over the channel of the process
  obtain ⟨line, hline⟩ := List.getElem?_of_mem hother
  have hwire : w.layout.wires[line]? = some other.pipe.wire :=
    Layout.wire_of_pipe (pipe_of_channel hline)
  obtain ⟨owner, phase, hat, hphase, -⟩ := h.answered.owned line _ hwire q hq (by simp [facts, hnone])
  obtain ⟨line', -, hsame, hlast', -⟩ := h.single.led owner _ hat hphase
  obtain rfl : line = line' := Option.some.inj hsame
  obtain rfl := hlast.unique hlast'
  obtain rfl := Option.some.inj (hline.symm.trans hcrash.line)
  obtain ⟨i, hi⟩ := List.getElem?_of_mem hq
  have hcarries := hordered.kept.channels line other hline
  have hundecided := hordered.kept.undecided line other i q hline hi List.not_mem_nil hnone
  obtain ⟨asker, hpurpose⟩ := hcarries.answers i q hi
  have hlt := (List.getElem?_eq_some_iff.1 hpurpose).1
  rw [hordered.kept.books.length] at hlt
  obtain ⟨before, after, hbefore, hafter, hstep⟩ := exists_step .connections hcrash.acting
  rw [hstep]
  exact hafter q _ (outcome?_loseProcess (w := { w with tasks := before }) hline hcrash.isOpen
    hcrash.owner hb hchannel hlistener hcarries.valid hcarries.length hi hundecided (hbefore ▸ hlt)
    (by rw [Tasks.Scheduler.outcome?, hbefore]; exact hnone))

/-- A crash is reported, and nothing else is. -/
theorem losses_undergo (h : Attentive w) (incident : Incident) :
    (w.undergo .connections incident).losses =
      w.losses ++ ((w.crashOf? incident).map (·.2)).toList := by
  obtain ⟨Γ, hordered⟩ := h.ordered
  show (w.undergo .connections incident).layout.losses = w.layout.losses ++ _
  -- A crash is noticed only by the task that reads that a process is gone: there the layout says
  -- whether it is reported, and everywhere else neither side grows.
  by_cases hgone : incident = .step ∧ ∃ channel process code,
      w.acting? = some (.channel (.gone channel process), .ok (.code code))
  · obtain ⟨rfl, channel, process, code, hacting⟩ := hgone
    obtain ⟨rest, aside, next, hacts⟩ := hordered.acts_of_acting hacting
    have hfree := h.single
    rw [hacts.hinge?_eq] at hfree
    have hsame : ∀ {line number process' : Nat} {code' : Option Int} {c : Channel},
        w.IsCrash line number process' code' c → line = channel := by
      intro line number process' code' c hcrash
      have heq := hcrash.acting.symm.trans hacting
      simp only [Option.some.injEq, Prod.mk.injEq, Point.channel.injEq, ChannelPoint.gone.injEq] at heq
      exact heq.1.1
    have hloses := loses_of_gone .connections hacting
    generalize (w.undergo .connections .step).layout = l' at hloses ⊢
    cases hloses with
    | expected hclosing =>
      rw [crashOf?_eq_none fun line number process' code' c _ hcrash => ?_]
      · exact (List.append_nil _).symm
      · obtain rfl := hsame hcrash
        have hclosed := hclosing c.pipe (pipe_of_channel hcrash.line)
        rw [show c.pipe.closing = c.closing from rfl, hcrash.isOpen] at hclosed
        cases hclosed
    | unheard hpipe hopen howner =>
      obtain ⟨-, -, number, stage, hnumber, hstage, -⟩ := hfree.lives_of_gone (hacts.mem rfl) hpipe hopen
      rw [Layout.shape_stages_getElem?, howner number hnumber] at hstage
      cases hstage
    | stopping hpipe hopen howner hbond hphase =>
      rename_i pipe number bond
      rw [crashOf?_eq_none fun line number' process' code' c _ hcrash => ?_]
      · simp [Layout.clear, Layout.setBond, Layout.carry, Layout.shut, Layout.setPipe]
      · obtain rfl := hsame hcrash
        obtain rfl := Option.some.inj ((pipe_of_channel hcrash.line).symm.trans hpipe)
        obtain rfl := Owner.connection.inj (hcrash.owner.symm.trans howner)
        exact hcrash.phase (phaseOf?_of_isIn ⟨bond, hbond, hphase⟩)
    | stops hpipe hopen howner hbond hphase =>
      rename_i pipe number bond
      have hcrash : w.crashOf? .step = some (process, code) := by
        rw [layout_pipes_getElem?] at hpipe
        obtain ⟨c, hc, rfl⟩ := Option.map_eq_some_iff.1 hpipe
        refine IsCrash.crashOf? ⟨hacting, hc, hopen, howner, fun heq => hphase ?_⟩
        rw [phaseOf?_of_isIn ⟨bond, hbond, rfl⟩] at heq
        exact Option.some.inj heq
      rw [hcrash, (h.tended number bond hbond).listener]
      simp [Layout.report, Layout.reset, Layout.clear, Layout.setBond, Layout.carry, Layout.shut,
        Layout.setPipe, Listener.told]
  · rw [crashOf?_eq_none fun line number process code c hstep hcrash =>
      hgone ⟨hstep, line, process, code, hcrash.acting⟩]
    refine Eq.trans ?_ (List.append_nil _).symm
    rcases hordered.shifts incident with heq | ⟨point, outcome, rest, aside, next, rfl, hacts⟩ | hdrifts
    · rw [heq]
    · refine hacts.course.losses_eq fun channel process code hpoint houtcome => ?_
      exact hgone ⟨rfl, channel, process, code, by rw [hacts.acting, hpoint, houtcome]⟩
    · exact hdrifts.losses_eq

/-- All crashes of a run are reported, and nothing else is. -/
theorem losses_undergoAll {incidents : List Incident} (h : Attentive w)
    (halone : w.allowsAll .connections startsAndStopsAlone incidents = true) :
    (w.undergoAll .connections incidents).losses =
      w.losses ++ (w.crashes .connections incidents).map (·.2) := by
  induction incidents generalizing w with
  | nil => exact (List.append_nil _).symm
  | cons incident rest ih =>
    obtain ⟨hfirst, hrest⟩ := allowsAll_cons.1 halone
    rw [undergoAll_cons, ih (h.undergo hfirst) hrest, h.losses_undergo incident, List.append_assoc,
      crashes, List.map_append, Option.toList_map]

/-! ## Processes that do not crash any more -/

/-- A process whose end is not reported goes on so, whatever happens. -/
theorem doomed_undergo (h : Attentive w) (incident : Incident)
    (hdoomed : Doomed w.layout.shape w.hinge? process) :
    Doomed (w.undergo .connections incident).layout.shape (w.undergo .connections incident).hinge?
      process := by
  obtain ⟨Γ, hordered⟩ := h.ordered
  rcases hordered.shifts incident with heq | ⟨_, _, _, _, _, -, hacts⟩ | hdrifts
  · rwa [heq]
  · exact hdoomed.acts hacts h.serial h.single
  · refine ⟨hdrifts.given hdoomed.toGiven, ?_⟩
    rw [hdrifts.shape_eq]
    exact hdoomed.stopping

/-- It does not crash. -/
theorem ne_of_doomed (h : Attentive w) (hdoomed : Doomed w.layout.shape w.hinge? process)
    (hcrash : w.crashOf? incident = some (number, code)) : number ≠ process := by
  rintro rfl
  obtain ⟨-, channel, owner, c, hcrash⟩ := crashOf?_eq_some hcrash
  obtain ⟨hprocess, -, b, hb, -⟩ := h.exists_connection hcrash
  have htrack : w.layout.shape.tracks[channel]? = some c.pipe.track :=
    Layout.track_of_pipe (pipe_of_channel hcrash.line)
  obtain ⟨same, line, hsame, hat⟩ := hdoomed.stopping channel _ htrack hprocess hcrash.isOpen
  obtain rfl := Owner.connection.inj (hcrash.owner.symm.trans hsame)
  exact hcrash.phase (phaseOf?_of_isIn (Layout.isIn_iff.2 ⟨line, hat⟩))

theorem not_mem_crashes {incidents : List Incident} (h : Attentive w)
    (halone : w.allowsAll .connections startsAndStopsAlone incidents = true)
    (hdoomed : Doomed w.layout.shape w.hinge? process) :
    process ∉ (w.crashes .connections incidents).map (·.1) := by
  induction incidents generalizing w with
  | nil => exact List.not_mem_nil
  | cons incident rest ih =>
    obtain ⟨hfirst, hrest⟩ := allowsAll_cons.1 halone
    rw [crashes, List.map_append, List.mem_append]
    rintro (hmem | hmem)
    · obtain ⟨pair, hpair, rfl⟩ := List.mem_map.1 hmem
      exact h.ne_of_doomed hdoomed (Option.mem_toList.1 hpair) rfl
    · exact ih (h.undergo hfirst) hrest (h.doomed_undergo incident hdoomed) hmem

/-- Every process belongs to one channel, whatever happens. -/
theorem isHeld_undergoAll {incidents : List Incident} (h : Attentive w)
    (halone : w.allowsAll .connections startsAndStopsAlone incidents = true)
    (hheld : w.layout.shape.IsHeld w.hinge?) :
    (w.undergoAll .connections incidents).layout.shape.IsHeld
      (w.undergoAll .connections incidents).hinge? := by
  induction incidents generalizing w with
  | nil => exact hheld
  | cons incident rest ih =>
    obtain ⟨hfirst, hrest⟩ := allowsAll_cons.1 halone
    refine ih (h.undergo hfirst) hrest ?_
    obtain ⟨Γ, hordered⟩ := h.ordered
    rcases hordered.shifts incident with heq | ⟨_, _, _, _, _, -, hacts⟩ | hdrifts
    · rwa [heq]
    · exact hheld.acts hacts h.serial
    · rw [hdrifts.shape_eq]
      refine ⟨fun line process track htrack hprocess => ?_, fun line process hhinge => ?_⟩
      · obtain ⟨hgiven, honly⟩ := hheld.held line process track htrack hprocess
        exact ⟨hdrifts.shape_eq ▸ hdrifts.given hgiven, honly⟩
      · cases hdrifts.presents _ _ (Option.filter_eq_some_iff.1 hhinge).1

/-- Where the last channel is closed, or its connection is being stopped, the end of a process that was
given to a channel is not reported. -/
theorem doomed_of_last (h : Attentive w) {track : Track} (hlast : w.layout.shape.IsLast channel)
    (htrack : w.layout.shape.tracks[channel]? = some track)
    (hgiven : w.layout.shape.Given w.hinge? process) (hclosing : track.closing = true) :
    Doomed w.layout.shape w.hinge? process where
  toGiven := hgiven
  stopping := fun line other hother hprocess hopen => by
    obtain ⟨hlast', -⟩ := h.single.line line other process hother hprocess hopen
    obtain rfl := hlast.unique hlast'
    obtain rfl := Option.some.inj (hother.symm.trans htrack)
    rw [hclosing] at hopen
    cases hopen

/-- A process that has crashed does not crash again. -/
theorem doomed_of_crash (h : Attentive w) (h' : Attentive (w.undergo .connections incident))
    (hcrash : w.crashOf? incident = some (process, code)) :
    Doomed (w.undergo .connections incident).layout.shape (w.undergo .connections incident).hinge?
      process := by
  obtain ⟨rfl, channel, number, c, hcrash⟩ := crashOf?_eq_some hcrash
  obtain ⟨Γ, hordered⟩ := h.ordered
  obtain ⟨rest, aside, next, hacts⟩ := hordered.acts_of_acting hcrash.acting
  obtain ⟨hprocess, hlast, -⟩ := h.exists_connection hcrash
  have hpipe : w.layout.pipes[channel]? = some c.pipe := pipe_of_channel hcrash.line
  have htrack : w.layout.shape.tracks[channel]? = some c.pipe.track := Layout.track_of_pipe hpipe
  have hknown : process < w.layout.shape.scripts.length := by
    have hknown := (hordered.kept.channels channel c hcrash.line).process process hprocess
    simpa [layout, Layout.shape, facts] using hknown
  -- the channel is closed with the process
  have hlost : (w.undergo .connections .step).layout.shape.tracks =
      ((w.layout.shape.shut channel).carry channel none).tracks := by
    have hloses := loses_of_gone .connections hcrash.acting
    generalize (w.undergo .connections .step).layout = l' at hloses ⊢
    cases hloses with
    | expected hclosing =>
      have hclosed := hclosing _ hpipe
      rw [show c.pipe.closing = c.closing from rfl, hcrash.isOpen] at hclosed
      cases hclosed
    | unheard => simp
    | stopping => simp
    | stops => simp [Shape.reset, Shape.setStage]
  obtain ⟨track', htrack', hclosing, -⟩ := Shape.isLost_shut_carry htrack
  rw [← hlost] at htrack'
  refine h'.doomed_of_last ?_ htrack' (hacts.given ⟨hknown, fun line hhinge => ?_⟩) hclosing
  · rw [Shape.IsLast, hlost]
    exact (Shape.Wanes.shut_carry _ _).isLast.2 hlast
  · rw [hacts.hinge?_eq] at hhinge
    cases hhinge

/-- No process crashes twice. -/
theorem nodup_crashes {incidents : List Incident} (h : Attentive w)
    (halone : w.allowsAll .connections startsAndStopsAlone incidents = true) :
    ((w.crashes .connections incidents).map (·.1)).Nodup := by
  induction incidents generalizing w with
  | nil => exact List.nodup_nil
  | cons incident rest ih =>
    obtain ⟨hfirst, hrest⟩ := allowsAll_cons.1 halone
    have hnext := h.undergo hfirst
    rw [crashes, List.map_append]
    cases hcrash : w.crashOf? incident with
    | none => simpa using ih hnext hrest
    | some pair =>
      have hdoomed := h.doomed_of_crash hnext hcrash
      exact List.nodup_cons.2 ⟨hnext.not_mem_crashes hrest hdoomed, ih hnext hrest⟩

end Attentive

/-- The end of a process is not going to be reported: its channel is closed, or its connection is being
stopped. -/
def IsLeaving (w : World) (process : Nat) : Prop :=
  ∃ c ∈ w.channels, c.process = some process ∧
    (c.closing = true ∨ ∃ number, c.owner = .connection number ∧ w.phaseOf? number = some .stopping)

theorem Shape.IsHeld.doomed (h : w.layout.shape.IsHeld w.hinge?) (hleaving : w.IsLeaving process) :
    Doomed w.layout.shape w.hinge? process := by
  obtain ⟨c, hc, hprocess, hstopping⟩ := hleaving
  obtain ⟨channel, hline⟩ := List.getElem?_of_mem hc
  have htrack : w.layout.shape.tracks[channel]? = some c.pipe.track :=
    Layout.track_of_pipe (pipe_of_channel hline)
  obtain ⟨hgiven, honly⟩ := h.held channel process c.pipe.track htrack hprocess
  refine ⟨hgiven, fun line track hother hsame hopen => ?_⟩
  obtain rfl := honly line track hother hsame
  obtain rfl := Option.some.inj (htrack.symm.trans hother)
  rcases hstopping with hclosing | ⟨number, howner, hphase⟩
  · rw [show c.pipe.track.closing = c.closing from rfl, hclosing] at hopen
    cases hopen
  · obtain ⟨b, hb, hphase⟩ := Option.map_eq_some_iff.1 hphase
    refine ⟨number, b.channel, howner, ?_⟩
    rw [Shape.IsAt, Layout.stage_of_bond (bond_of_connection hb), ← hphase]
    rfl

end BasiliskServer.World
