import BasiliskServer.Proofs.World.Crashes

/-!
# Nothing is left waiting

Where a connection is started and stopped by one task at a time, nobody waits for what cannot come
(`nothing_left_waiting`). When the connection is stopped, it has no channel, all that was asked over
its channels is decided, and whoever waits for it to become ready has been told. A crash decides all
that was asked at once, and is reported once.
-/

namespace BasiliskServer.World

open Json (Value)

variable {Γ : Ledger} {w : World} {c : Connection} {number : Nat}

/-- A promise is settled, or a notice that settles it is queued. -/
def IsDue (w : World) (q : Nat) : Prop :=
  (w.tasks.outcome? q).isSome ∨
    ∃ source, (w.tasks.outcome? source).isSome ∧ .relay source q ∈ w.tasks.ready

/-- What nobody waits for, as far as the connection is. -/
structure LeavesNothing (w : World) (c : Connection) : Prop where
  /-- Where the connection is stopped, it has no channel. -/
  channel : c.phase = .stopped → c.channel = none
  /-- Where it is stopped, nobody waits for an answer. -/
  answers : c.phase = .stopped → ∀ line ∈ w.channels, ∀ q ∈ line.answers, (w.tasks.outcome? q).isSome
  /-- Where it is stopped, no request waits for it to become ready. -/
  requests : c.phase = .stopped → ∀ t ∈ w.tasks.tasks, ∀ number method params limit,
    .connection (.awaited number method params limit) ∈ t.stack → ∀ q, t.waiting = some q → w.IsDue q
  /-- Where it is ready, nothing is queued, and it has a channel. -/
  ready : c.phase = .ready → c.queue = [] ∧
    ∃ number line, c.channel = some number ∧ w.channels[number]? = some line
  /-- Where it is starting, it waits for nothing but the answer to the greeting. -/
  starting : c.phase = .starting → ∀ line ∈ w.channels,
    ∀ asked ∈ line.requests.sent.zip line.answers, w.tasks.outcome? asked.2 = none →
      asked.1.method = "initialize"

/-- A request that waits for a connection waits for a promise that tells whether another one was kept. -/
theorem Ordered.exists_shield (h : Ordered .connections Γ w) {t : Tasks.Task Point}
    (ht : t ∈ w.tasks.tasks) {method : String} {params : Value} {limit : Option Nat}
    (hpoint : .connection (.awaited number method params limit) ∈ t.stack) {q : Nat}
    (hwaiting : t.waiting = some q) : ∃ source : Nat, Γ.purposes[q]? = some (.shield source) := by
  obtain ⟨task, htask⟩ := List.getElem?_of_mem ht
  obtain ⟨below, -, hsits, -, hrests⟩ := h.kept.books.tasks task t htask
  -- the task does not run, since it waits
  have hidle : ∀ outcome, w.tasks.running ≠ some (task, outcome) := by
    intro outcome hrunning
    obtain ⟨t', ht', hnone, -⟩ := h.kept.books.running task outcome hrunning
    obtain rfl := Option.some.inj (htask.symm.trans ht')
    rw [hnone] at hwaiting
    cases hwaiting
  obtain ⟨⟨purpose, hpurpose, -, hfeeds⟩, -⟩ := (hrests hidle).feeds q hwaiting
  -- nothing stands above the request
  obtain ⟨front, rest, hstack⟩ := List.append_of_mem hpoint
  rw [hstack] at hsits hfeeds
  obtain rfl := (Ledger.sits_append.1 hsits).1.eq_nil_of_request
  have hfeeds : purpose.Feeds t.result q .request := hfeeds
  cases purpose with
  | shield source => exact ⟨source, hpurpose⟩
  | pause => rcases hfeeds with heq | heq <;> cases heq
  | idle => cases hfeeds
  | exit => cases hfeeds.2
  | answer => rcases hfeeds.2 with heq | heq | heq <;> cases heq
  | _ => exact hfeeds.elim

/-- Whoever waits for a connection that has told is going to be told. -/
theorem Ordered.isDue (h : Ordered .connections Γ w) {q source : Nat}
    (hpurpose : Γ.purposes[q]? = some (.shield source)) (hheard : (w.tasks.outcome? source).isSome) :
    w.IsDue q := by
  cases hq : w.tasks.outcome? q with
  | some outcome => exact .inl (by simp [hq])
  | none =>
    rcases h.kept.posts.shields q source hpurpose List.not_mem_nil hq with hready | ⟨p, hp, hnone, -⟩
    · exact .inr ⟨source, hheard, hready⟩
    · rw [Tasks.Scheduler.outcome?, hp, Option.bind_some, hnone] at hheard
      cases hheard

namespace Attentive

/-- There is no other connection. -/
theorem connections_eq (h : Attentive w) (hc : c ∈ w.connections) : w.connections = [c] := by
  have hlength : w.connections.length = 1 := by
    simpa [layout, Layout.shape] using h.lone.length
  obtain ⟨other, hother⟩ := List.length_eq_one_iff.1 hlength
  rw [hother] at hc ⊢
  rw [List.mem_singleton.1 hc]

/-- Whatever a connection is at, it is this one. -/
theorem eq_of_isAt (h : Attentive w) (hc : c ∈ w.connections) {phase : Phase} {line : Option Nat}
    (hat : w.layout.shape.IsAt number phase line) : phase = c.phase ∧ line = c.channel := by
  rw [Shape.IsAt, Layout.shape_stages_getElem?, layout_bonds_getElem?, h.connections_eq hc] at hat
  obtain ⟨bond, hbond, hstage⟩ := Option.map_eq_some_iff.1 hat
  obtain ⟨other, hother, rfl⟩ := Option.map_eq_some_iff.1 hbond
  obtain rfl := List.mem_singleton.1 (List.mem_of_getElem? hother)
  exact ⟨(congrArg Stage.phase hstage).symm, (congrArg Stage.channel hstage).symm⟩

theorem leavesNothing (h : Attentive w) (hc : c ∈ w.connections) : w.LeavesNothing c := by
  obtain ⟨Γ, hordered⟩ := h.ordered
  obtain ⟨number, hnumber⟩ := List.getElem?_of_mem hc
  have hbond : w.layout.bonds[number]? = some c.bond := bond_of_connection hnumber
  have hat : w.layout.shape.IsAt number c.phase c.channel := Layout.stage_of_bond hbond
  -- whoever waits for an answer waits for one of the connection
  have howned : ∀ (channel : Nat) (line : Channel), w.channels[channel]? = some line →
      ∀ q ∈ line.answers, w.tasks.outcome? q = none → c.phase ≠ .stopped ∧ c.channel = some channel := by
    intro channel line hline q hq hnone
    have hwire : w.layout.wires[channel]? = some line.pipe.wire :=
      Layout.wire_of_pipe (pipe_of_channel hline)
    obtain ⟨other, phase, hother, hphase, -⟩ :=
      h.answered.owned channel _ hwire q hq (by simp [facts, hnone])
    obtain ⟨rfl, hchannel⟩ := h.eq_of_isAt hc hother
    exact ⟨hphase, hchannel.symm⟩
  refine ⟨fun hstopped => ?_, fun hstopped line hline q hq => ?_,
    fun hstopped t ht number method params limit hpoint q hwaiting => ?_, fun hready => ?_,
    fun hstarting line hline asked hasked hnone => ?_⟩
  · exact h.lone.tidy number _ hat hstopped
  · obtain ⟨channel, hchannel⟩ := List.getElem?_of_mem hline
    by_contra hnone
    exact (howned channel line hchannel q hq (by simpa using hnone)).1 hstopped
  · obtain ⟨source, hpurpose⟩ := hordered.exists_shield ht hpoint hwaiting
    refine hordered.isDue hpurpose ?_
    rcases hordered.kept.shielded q source hpurpose with hheard | ⟨other, hother, hstarted⟩
    · exact hheard
    · rw [h.connections_eq hc] at hother
      obtain rfl := List.mem_singleton.1 hother
      exact hordered.kept.halted _ hc hstopped source hstarted
  · obtain ⟨channel, track, hchannel, -, htrack, -⟩ :=
      h.single.led number _ hat (by rw [hready]; exact Phase.noConfusion)
    rw [Layout.shape_tracks_getElem?, layout_pipes_getElem?] at htrack
    obtain ⟨pipe, hpipe, -⟩ := Option.map_eq_some_iff.1 htrack
    obtain ⟨line, hline, -⟩ := Option.map_eq_some_iff.1 hpipe
    exact ⟨(h.tended number _ hbond).queue hready, channel, line, hchannel, hline⟩
  · obtain ⟨channel, hchannel⟩ := List.getElem?_of_mem hline
    have hmem := List.of_mem_zip (show (asked.1, asked.2) ∈ _ from hasked)
    have hsame := (howned channel line hchannel asked.2 hmem.2 hnone).2
    have hwire : w.layout.wires[channel]? = some line.pipe.wire :=
      Layout.wire_of_pipe (pipe_of_channel hchannel)
    rw [hstarting, hsame] at hat
    exact h.answered.modest number channel _ hat hwire _ (List.mem_map_of_mem hmem.1)

end Attentive

/-! ## Runs of a connection -/

/-- **Nothing is left waiting.** Where the connection is started and stopped by one task at a time, nobody
waits for what cannot come, however much of what is sent cannot be written. A crash decides at once all
that was asked, the listener is told of the crashes and of nothing else, no process crashes twice, and
none crashes once its channel is closed or its connection is being stopped. -/
theorem nothing_left_waiting (host : Files.Host) (companions : List CompanionScript)
    (config : Companion.Config) (capabilities : Value) (greetingLimit partingLimit room : Option Nat)
    (incidents : List Incident)
    (halone : (ofConnection host companions config capabilities greetingLimit partingLimit
      room).allowsAll .connections startsAndStopsAlone incidents = true) :
    let fresh := ofConnection host companions config capabilities greetingLimit partingLimit room
    let w := fresh.undergoAll .connections incidents
    (∀ c ∈ w.connections, w.LeavesNothing c) ∧
      (∀ process code, w.crashOf? .step = some (process, code) → ∀ line ∈ w.channels, ∀ q ∈ line.answers,
        w.tasks.outcome? q = none →
        (w.undergo .connections .step).tasks.outcome? q = some (.error (.exited code))) ∧
      w.losses = (fresh.crashes .connections incidents).map (·.2) ∧
      ((fresh.crashes .connections incidents).map (·.1)).Nodup ∧
      ∀ earlier later process, incidents = earlier ++ later →
        (fresh.undergoAll .connections earlier).IsLeaving process →
        process ∉ ((fresh.undergoAll .connections earlier).crashes .connections later).map (·.1) := by
  intro fresh w
  have hfresh : Attentive fresh :=
    .ofConnection host companions config capabilities greetingLimit partingLimit room
  have hattentive : Attentive w := hfresh.undergoAll halone
  refine ⟨fun c hc => hattentive.leavesNothing hc, fun process code hcrash line hline q hq hnone => ?_,
    hfresh.losses_undergoAll halone, hfresh.nodup_crashes halone, ?_⟩
  · obtain ⟨-, channel, number, c, hcrash⟩ := crashOf?_eq_some hcrash
    exact hattentive.settles_of_crash hcrash hline hq hnone
  · rintro earlier later process rfl hleaving
    obtain ⟨hearlier, hlater⟩ := allowsAll_append.1 halone
    -- In the beginning no channel has a process, so ever after each process belongs to one channel.
    have hheld : fresh.layout.shape.IsHeld fresh.hinge? :=
      ⟨fun _ _ _ htrack => absurd htrack nofun, fun _ _ hhinge => absurd hhinge nofun⟩
    exact (hfresh.undergoAll hearlier).not_mem_crashes hlater
      ((hfresh.isHeld_undergoAll hearlier hheld).doomed hleaving)

/-- The connection is started, a request is sent, and the process is about to crash. -/
def crashing : List Incident :=
  startedOnce ++ (Incident.step.andRest ++ (Incident.call (.ask 0 "query" .null none)).andRest ++
    .exit 0 3 :: List.replicate 9 .step)

theorem nothing_left_waiting_crashing :
    let w := (connectionWith [0]).undergoAll .connections crashing
    (connectionWith [0]).allowsAll .connections startsAndStopsAlone crashing = true ∧
      (∀ c ∈ w.connections, w.LeavesNothing c) ∧ w.crashOf? .step = some (0, some 3) ∧
      (w.undergo .connections .step).tasks.outcome? 12 = some (.error (.exited (some 3))) ∧
      w.losses = [] := by
  intro w
  have halone : (connectionWith [0]).allowsAll .connections startsAndStopsAlone crashing = true := by
    decide +kernel
  obtain ⟨hnothing, hsettles, hlosses, -⟩ := nothing_left_waiting {} ([0].map lateScript)
    { path := "clangd" } .null (some 10000) (some 2000) none crashing halone
  have hcrash : w.crashOf? .step = some (0, some 3) := by decide +kernel
  obtain ⟨line, hline, hasked⟩ : ∃ line ∈ w.channels, 12 ∈ line.answers := by decide +kernel
  have hnone : (w.tasks.outcome? 12).isNone = true := by decide +kernel
  have hcalm : (connectionWith [0]).crashes .connections crashing = [] := by decide +kernel
  exact ⟨halone, hnothing, hcrash,
    hsettles 0 (some 3) hcrash line hline 12 hasked (Option.isNone_iff_eq_none.1 hnone),
    hlosses.trans (congrArg _ hcalm)⟩

end BasiliskServer.World
