import BasiliskServer.Proofs.World.Queues

/-!
# The handshake comes first

`Annals` says at every moment what each process was told so far: the process of a connection that is
ready goes on with its `Chapter`, whoever starts or stops the connection knows what was said
(`Expects`), and all other processes are told nothing any more. Every course of a task keeps it so
(`Annals.acts`).
-/

namespace BasiliskServer.World

open Json (Value Fields)

variable {Γ : Ledger} {w w' fresh : World} {point : Point} {outcome : Outcome}
  {rest aside : List Point} {next : Next} {incident : Incident} {incidents more : List Incident}
  {number channel process : Nat} {s : Shape} {l l' : Layout} {sayings parting : List Saying} {goes : Bool}

/-! ## Chapters -/

/-- What is said to a process that has answered the first request, farewells apart, as long as its
connection is ready; whether it still is. -/
inductive Chapter (fresh : World) (incidents : List Incident) (process : Nat) (sayings : List Saying)
    (goes : Bool) : Prop where
  /-- The process has answered, and other things have happened since. -/
  | mk (params : Value) (earlier later : List Incident) (hrun : incidents = earlier ++ .step :: later)
    (hwelcomes : (fresh.undergoAll .connections earlier).Welcomes process)
    (hsayings : sayings = welcomed (fresh.undergoAll .connections earlier).room params
      (fresh.accepted [] earlier)
      (((fresh.undergoAll .connections earlier).undergo .connections .step).issued later))
    (hgoes : ((fresh.undergoAll .connections earlier).undergo .connections .step).StaysReady later ↔
      goes = true)

namespace Chapter

theorem tale (h : Chapter fresh incidents process sayings goes) (hparting : parting <+: farewell) :
    Tale fresh incidents process (sayings ++ parting) := by
  obtain ⟨params, earlier, later, hrun, hwelcomes, rfl, -⟩ := h
  exact .welcomed params hrun hwelcomes hparting

/-- Something else happens. -/
theorem goes_on (h : Chapter fresh incidents process sayings true)
    (hrun : fresh.undergoAll .connections incidents = w) (incident : Incident) :
    Chapter fresh (incidents ++ [incident]) process (sayings ++ (w.issue? incident).toList)
      ((w.undergo .connections incident).phaseOf? 0 = some .ready) := by
  obtain ⟨params, earlier, later, rfl, hwelcomes, rfl, hgoes⟩ := h
  have hready := hgoes.2 rfl
  have hlater : ((fresh.undergoAll .connections earlier).undergo .connections .step).undergoAll
      .connections later = w := by
    rw [← hrun, undergoAll_append, undergoAll_cons]
  refine ⟨params, earlier, later ++ [incident], by simp, hwelcomes, ?_, ?_⟩
  · rw [issued_append hready, hlater, issued_singleton (hlater ▸ hready.phase)]
    simp [welcomed]
  · rw [staysReady_append, hlater]
    simp [hready]

/-- Nothing is said any more. -/
theorem ended (h : Chapter fresh incidents process sayings false) (more : List Incident) :
    Chapter fresh (incidents ++ more) process sayings false := by
  obtain ⟨params, earlier, later, rfl, hwelcomes, rfl, hgoes⟩ := h
  have hnot : ¬ ((fresh.undergoAll .connections earlier).undergo .connections .step).StaysReady later :=
    fun h => by cases hgoes.1 h
  refine ⟨params, earlier, later ++ more, by simp, hwelcomes, ?_, ?_⟩
  · rw [issued_append_of_not hnot]
  · exact iff_of_false (fun h => hnot h.of_append) Bool.false_ne_true

end Chapter

/-! ## What was said, and what is to be said -/

/-- What was said to the process of a channel when a task stands at a point. -/
def Expects (fresh : World) (incidents : List Incident) (l : Layout) : Point → Prop
  | .connection (.opened _ channel) => l.asked channel = 0 ∧
    ∀ process, l.shape.Carries channel process → l.told process = []
  | .connection (.greeted _ channel _) => l.asked channel = 1 ∧
    ∀ process, l.shape.Carries channel process →
      ∃ params, l.told process = messages 0 [.request none "initialize" params]
  | .connection (.parted _ channel) => ∀ process, l.shape.Carries channel process →
    ∃ sayings, Chapter fresh incidents process sayings false ∧
      l.told process = messages 0 (sayings ++ [.request none "shutdown" .null])
  | _ => True

/-- What processes were told in a run. -/
structure Annals (fresh : World) (incidents : List Incident) (w : World) : Prop where
  /-- This is where the run ends. -/
  run : fresh.undergoAll .connections incidents = w
  /-- Those that were told something there are. -/
  known : w.layout.IsKnown
  /-- Who is about to be given to a channel was told nothing. -/
  given : ∀ channel process, w.hinge? = some (.channel (.opened channel), .ok (.process process)) →
    w.layout.told process = []
  /-- Whoever starts or stops the connection relies on what was said. -/
  handled : ∀ point ∈ w.handlers, Expects fresh incidents w.layout point
  /-- Where the connection is ready, its process is told what is sent. -/
  current : ∀ channel process, w.layout.shape.IsAt 0 .ready (some channel) →
    w.layout.shape.Carries channel process → ∃ sayings, Chapter fresh incidents process sayings true ∧
      w.layout.told process = messages 0 sayings ∧ w.layout.asked channel = countAll 0 sayings
  /-- Other processes are not told anything any more. -/
  past : ∀ process, (∀ channel, w.layout.shape.IsAt 0 .ready (some channel) →
      ¬ w.layout.shape.Carries channel process) →
    ∃ sayings, w.layout.told process = messages 0 sayings ∧
      ∀ more, Tale fresh (incidents ++ more) process sayings

/-- The process at which a point stands has been told the same, and at most what it was given is lost. -/
theorem Expects.keep (h : Expects fresh incidents l point)
    (htold : ∀ process, l'.told process = l.told process)
    (hasked : ∀ channel, l'.asked channel = l.asked channel)
    (hcarries : ∀ channel process, l'.shape.Carries channel process → l.shape.Carries channel process)
    (more : List Incident) : Expects fresh (incidents ++ more) l' point := by
  unfold Expects at h ⊢
  split at h
  · exact ⟨(hasked _).trans h.1, fun process hc => (htold process).trans (h.2 process (hcarries _ _ hc))⟩
  · refine ⟨(hasked _).trans h.1, fun process hc => ?_⟩
    obtain ⟨params, hparams⟩ := h.2 process (hcarries _ _ hc)
    exact ⟨params, (htold process).trans hparams⟩
  · intro process hc
    obtain ⟨sayings, hchapter, hsayings⟩ := h process (hcarries _ _ hc)
    exact ⟨sayings, hchapter.ended more, (htold process).trans hsayings⟩
  · trivial

namespace Annals

/-- A process that is not told anything any more is not. -/
theorem past_keep {told : List Fields} (h : ∃ sayings, w.layout.told process = messages 0 sayings ∧
      ∀ more, Tale fresh (incidents ++ more) process sayings)
    (htold : told = w.layout.told process) : ∃ sayings, told = messages 0 sayings ∧
      ∀ more, Tale fresh (incidents ++ [incident] ++ more) process sayings := by
  obtain ⟨sayings, hsayings, htale⟩ := h
  exact ⟨sayings, htold.trans hsayings, fun more => by simpa using htale ([incident] ++ more)⟩

variable (h : Annals fresh incidents w) (hstep : w.undergo .connections incident = w')
  (hserial : Serial sticks w'.layout.shape w'.hinge? w'.handlers)

include h hstep

theorem run_next : fresh.undergoAll .connections (incidents ++ [incident]) = w' := by
  rw [undergoAll_append, h.run]
  exact hstep

/-- What was told to the process of the connection goes on as long as the connection is ready. -/
theorem chapter_next (hchapter : Chapter fresh incidents process sayings true) (goes : Bool)
    (hgoes : w'.phaseOf? 0 = some .ready ↔ goes = true) :
    Chapter fresh (incidents ++ [incident]) process (sayings ++ (w.issue? incident).toList) goes := by
  have hnext := hchapter.goes_on h.run incident
  rw [hstep] at hnext
  rwa [show decide (w'.phaseOf? 0 = some .ready) = goes by cases goes <;> simp_all] at hnext

include hserial

/-- Nothing with a method is said. -/
theorem silent (hspoken : w'.layout.spoken = w.layout.spoken)
    (hscripts : w.layout.scripts.length ≤ w'.layout.scripts.length)
    (hasked : ∀ channel, w'.layout.shape.IsAt 0 .ready (some channel) →
      w'.layout.asked channel = w.layout.asked channel)
    (hcurrent : ∀ channel process, w'.layout.shape.IsAt 0 .ready (some channel) →
      w'.layout.shape.Carries channel process → w.layout.shape.IsAt 0 .ready (some channel) ∧
        w.layout.shape.Carries channel process)
    (hissue : ∀ channel, w.layout.shape.IsAt 0 .ready (some channel) → w.issue? incident = none)
    (hgiven : ∀ channel process, w'.hinge? = some (.channel (.opened channel), .ok (.process process)) →
      w.layout.told process = [])
    (hhandled : ∀ point ∈ w'.handlers, Expects fresh (incidents ++ [incident]) w'.layout point) :
    Annals fresh (incidents ++ [incident]) w' := by
  have htold := Layout.told_of_spoken hspoken
  refine ⟨h.run_next hstep, h.known.of_spoken hspoken hscripts, fun channel process hhinge => ?_, hhandled,
    fun channel process hat hcarries => ?_, fun process hnot => ?_⟩
  · rw [htold]
    exact hgiven channel process hhinge
  · obtain ⟨hat', hcarries'⟩ := hcurrent channel process hat hcarries
    obtain ⟨sayings, hchapter, hsayings, hcount⟩ := h.current channel process hat' hcarries'
    have hnext := h.chapter_next hstep hchapter true (iff_of_true (phaseOf?_eq_iff.2 ⟨_, hat⟩) rfl)
    rw [hissue channel hat'] at hnext
    exact ⟨sayings, by simpa using hnext, (htold process).trans hsayings,
      (hasked channel hat).trans hcount⟩
  · by_cases hbefore : ∃ channel, w.layout.shape.IsAt 0 .ready (some channel) ∧
      w.layout.shape.Carries channel process
    · obtain ⟨channel, hat, hcarries⟩ := hbefore
      obtain ⟨sayings, hchapter, hsayings, -⟩ := h.current channel process hat hcarries
      have hended : w'.phaseOf? 0 ≠ some .ready := by
        intro hready
        -- the connection would still be ready on the process
        obtain ⟨line, hat'⟩ := phaseOf?_eq_iff.1 hready
        obtain ⟨-, channel', rfl, hopen⟩ := hserial.of_ready hat'
        obtain ⟨process', hcarries'⟩ := hopen.exists_carries
        obtain ⟨hsame, hsame'⟩ := hcurrent channel' process' hat' hcarries'
        obtain rfl := Option.some.inj (hat.unique hsame).2
        obtain rfl := hcarries.unique hsame'
        exact hnot channel' hat' hcarries'
      have hnext := h.chapter_next hstep hchapter false (iff_of_false hended Bool.false_ne_true)
      rw [hissue channel hat] at hnext
      refine ⟨sayings, (htold process).trans hsayings, fun more => ?_⟩
      simpa using (hnext.ended more).tale List.nil_prefix
    · exact past_keep (h.past process fun channel hat hcarries => hbefore ⟨channel, hat, hcarries⟩)
        (htold process)

omit hserial in
/-- One process is told something. -/
theorem tells {told : Nat} (hlt : told < w.layout.scripts.length) (hknown : w'.layout.IsKnown)
    (hother : ∀ process, process ≠ told → w'.layout.told process = w.layout.told process)
    (halone : ∀ channel process, w.layout.shape.IsAt 0 .ready (some channel) →
      w.layout.shape.Carries channel process → process = told)
    (hcurrent : ∀ channel process, w'.layout.shape.IsAt 0 .ready (some channel) →
      w'.layout.shape.Carries channel process → process = told ∧ ∃ sayings,
        Chapter fresh (incidents ++ [incident]) told sayings true ∧
          w'.layout.told told = messages 0 sayings ∧ w'.layout.asked channel = countAll 0 sayings)
    (hpast : (∀ channel, w'.layout.shape.IsAt 0 .ready (some channel) →
      ¬ w'.layout.shape.Carries channel told) → ∃ sayings, w'.layout.told told = messages 0 sayings ∧
        ∀ more, Tale fresh (incidents ++ [incident] ++ more) told sayings)
    (hgiven : ∀ channel process, w'.hinge? = some (.channel (.opened channel), .ok (.process process)) →
      process = w.layout.scripts.length)
    (hhandled : ∀ point ∈ w'.handlers, Expects fresh (incidents ++ [incident]) w'.layout point) :
    Annals fresh (incidents ++ [incident]) w' := by
  -- The hypotheses speak of the process that was told something; the others are as they were.
  refine ⟨h.run_next hstep, hknown, fun channel process hhinge => ?_, hhandled,
    fun channel process hat hcarries => ?_, fun process hnot => ?_⟩
  · obtain rfl := hgiven channel process hhinge
    rw [hother _ (Nat.ne_of_gt hlt)]
    exact h.known.told_eq_nil (Nat.le_refl _)
  · obtain ⟨rfl, hsayings⟩ := hcurrent channel process hat hcarries
    exact hsayings
  · by_cases hself : process = told
    · subst hself
      exact hpast hnot
    · refine past_keep (h.past process fun channel hat hcarries => ?_) (hother process hself)
      exact hself (halone channel process hat hcarries)

/-- Something is sent over the connection, which is ready. -/
theorem sends {saying : Saying} (hready : w.layout.shape.IsAt 0 .ready (some channel))
    (hreaches : w.layout.shape.Reaches channel process) (hshape : w'.layout.shape = w.layout.shape)
    (hissue : w.issue? incident = some saying) (hknown : w'.layout.IsKnown)
    (htold : w'.layout.told process =
      w.layout.told process ++ messages (w.layout.asked channel) [saying])
    (hother : ∀ other, ¬ w.layout.shape.Reaches channel other → w'.layout.told other = w.layout.told other)
    (hasked : w'.layout.asked channel = saying.count (w.layout.asked channel))
    (hgiven : ∀ channel process, w'.hinge? = some (.channel (.opened channel), .ok (.process process)) →
      process = w.layout.scripts.length) : Annals fresh (incidents ++ [incident]) w' := by
  have hline : ∀ {line other : Nat}, w.layout.shape.IsAt 0 .ready (some line) →
      w.layout.shape.Carries line other → line = channel ∧ other = process := by
    intro line other hat hcarries
    obtain rfl := Option.some.inj (hready.unique hat).2
    exact ⟨rfl, hreaches.carries.unique hcarries⟩
  have hready' : w'.layout.shape.IsAt 0 .ready (some channel) := hshape ▸ hready
  obtain ⟨sayings, hchapter, hsayings, hcount⟩ := h.current channel process hready hreaches.carries
  -- What is sent is the next saying of the current chapter.
  have hnext := h.chapter_next hstep hchapter true (iff_of_true (phaseOf?_eq_iff.2 ⟨_, hready'⟩) rfl)
  rw [hissue] at hnext
  refine h.tells hstep hreaches.choose_spec.2.2.2 hknown (fun other hne => ?_)
    (fun line other hat hcarries => (hline hat hcarries).2) (fun line other hat hcarries => ?_)
    (fun hnot => ?_) hgiven fun other hhandling => ?_
  · exact hother other fun h => hne (hreaches.carries.unique h.carries)
  · rw [hshape] at hat hcarries
    obtain ⟨rfl, rfl⟩ := hline hat hcarries
    refine ⟨rfl, _, hnext, ?_, ?_⟩
    · rw [htold, hsayings, hcount, ← messages_append]
      rfl
    · rw [hasked, hcount, countAll_append]
      rfl
  · exact absurd (hshape ▸ hreaches.carries) (hnot channel hready')
  · rw [(hserial.of_ready hready').1] at hhandling
    cases hhandling

omit hserial in
/-- The connection, which is ready, begins to be stopped, and its process is told so. -/
theorem leaves (hready : w.layout.shape.IsAt 0 .ready (some channel))
    (hreaches : w.layout.shape.Reaches channel process)
    (hphase : w'.layout.shape.IsAt 0 .stopping (some channel))
    (hcarries : ∀ line other, w'.layout.shape.Carries line other → w.layout.shape.Carries line other)
    (hissue : w.issue? incident = none) (hknown : w'.layout.IsKnown)
    (htold : w'.layout.told process =
      w.layout.told process ++ messages (w.layout.asked channel) [.request none "shutdown" .null])
    (hother : ∀ other, ¬ w.layout.shape.Reaches channel other → w'.layout.told other = w.layout.told other)
    (hgiven : ∀ channel process, w'.hinge? = some (.channel (.opened channel), .ok (.process process)) →
      process = w.layout.scripts.length)
    (hhandlers : ∀ point ∈ w'.handlers, point = .connection (.parted 0 channel)) :
    Annals fresh (incidents ++ [incident]) w' := by
  have hnot : ∀ line, ¬ w'.layout.shape.IsAt 0 .ready line := fun line hat => by
    cases (hphase.unique hat).1
  obtain ⟨sayings, hchapter, hsayings, hcount⟩ := h.current channel process hready hreaches.carries
  have hended : w'.phaseOf? 0 ≠ some .ready := fun heq => by
    obtain ⟨line, hat⟩ := phaseOf?_eq_iff.1 heq
    exact hnot line hat
  -- The chapter ends here, for the connection is ready no more.
  have hnext := h.chapter_next hstep hchapter false (iff_of_false hended Bool.false_ne_true)
  rw [hissue, Option.toList_none, List.append_nil] at hnext
  have htold' : w'.layout.told process = messages 0 (sayings ++ [.request none "shutdown" .null]) := by
    rw [htold, hsayings, hcount, ← messages_append]
  refine h.tells hstep hreaches.choose_spec.2.2.2 hknown (fun other hne => ?_)
    (fun line other hat hcarries => ?_) (fun line other hat => absurd hat (hnot _)) (fun _ => ?_) hgiven
    fun point hpoint => ?_
  · exact hother other fun h => hne (hreaches.carries.unique h.carries)
  · obtain rfl := Option.some.inj (hready.unique hat).2
    exact hreaches.carries.unique hcarries
  · exact ⟨_, htold', fun more => (hnext.ended more).tale (List.prefix_append _ _)⟩
  · rw [hhandlers point hpoint]
    intro other hother'
    obtain rfl := hreaches.carries.unique (hcarries channel other hother')
    exact ⟨sayings, hnext, htold'⟩

omit hserial in
/-- The process of the connection is greeted. -/
theorem greets {answer : Nat} {params : Value}
    (hstarting : w.layout.shape.IsAt 0 .starting (some channel))
    (hopened : .connection (.opened 0 channel) ∈ w.handlers)
    (hreaches : w.layout.shape.Reaches channel process) (hshape : w'.layout.shape = w.layout.shape)
    (hlayout : w'.layout = w.layout.ask none channel "initialize" params answer)
    (hgiven : ∀ channel process, w'.hinge? = some (.channel (.opened channel), .ok (.process process)) →
      process = w.layout.scripts.length)
    (hhandlers : ∀ point ∈ w'.handlers, point = .connection (.greeted 0 channel answer)) :
    Annals fresh (incidents ++ [incident]) w' := by
  have hnot : ∀ line, ¬ w.layout.shape.IsAt 0 .ready line := fun line hat => by
    cases (hstarting.unique hat).1
  -- A process that is to be greeted was told nothing before.
  obtain ⟨hasked, hnothing⟩ := h.handled _ hopened
  have htold : w'.layout.told process = messages 0 [.request none "initialize" params] := by
    rw [hlayout, Layout.told_ask_self hreaches, hnothing process hreaches.carries, hasked]
    rfl
  refine h.tells hstep hreaches.choose_spec.2.2.2 ?_ (fun other hne => ?_)
    (fun line other hat => absurd hat (hnot _)) (fun line other hat => absurd (hshape ▸ hat) (hnot _))
    (fun _ => ⟨_, htold, fun more => .greeted params⟩) hgiven fun point hpoint => ?_
  · rw [hlayout]
    exact h.known.ask _ _ _ _ _
  · rw [hlayout]
    exact Layout.told_ask_other (fun h => hne (hreaches.carries.unique h.carries)) ..
  · rw [hhandlers point hpoint]
    refine ⟨?_, fun other hother => ?_⟩
    · obtain ⟨track, htrack, -⟩ := hreaches
      rw [hlayout, Layout.asked_ask_self htrack, hasked]
    · rw [hshape] at hother
      obtain rfl := hreaches.carries.unique hother
      exact ⟨params, htold⟩

omit hserial in
/-- The process of the connection has answered, and the connection is ready. -/
theorem welcomes {answer : Nat} {bond : Bond} (hqueue : bond.queue = fresh.accepted [] incidents)
    (hroom : bond.room = w.room) (hincident : incident = .step)
    (hgreeted : .connection (.greeted 0 channel answer) ∈ w.handlers)
    (hwelcomes : w.Welcomes process) (hstarting : w.layout.shape.IsAt 0 .starting (some channel))
    (hreaches : w.layout.shape.Reaches channel process)
    (hlayout : w'.layout = w.layout.welcome 0 channel bond)
    (hgiven : ∀ channel process, w'.hinge? = some (.channel (.opened channel), .ok (.process process)) →
      process = w.layout.scripts.length) (hhandlers : w'.handlers = []) :
    Annals fresh (incidents ++ [incident]) w' := by
  subst hincident
  have hshape : w'.layout.shape = w.layout.shape.setPhase 0 .ready := by
    rw [hlayout, Layout.shape_welcome]
  have hready : w'.layout.shape.IsAt 0 .ready (some channel) := by
    rw [hshape]
    exact Shape.isAt_setStage hstarting _
  have hline : ∀ {line other : Nat}, w'.layout.shape.IsAt 0 .ready (some line) →
      w'.layout.shape.Carries line other → line = channel ∧ other = process := by
    intro line other hat hcarries
    obtain rfl := Option.some.inj (hready.unique hat).2
    rw [hshape] at hcarries
    exact ⟨rfl, hreaches.carries.unique hcarries⟩
  obtain ⟨hasked, hgreeting⟩ := h.handled _ hgreeted
  obtain ⟨params, hparams⟩ := hgreeting process hreaches.carries
  -- the greeting, and what has waited since
  let opened := (w.layout.setPhase 0 .ready).tellOf channel "initialized" (.object [])
  have hopened : opened.shape = w.layout.shape.setPhase 0 .ready := by
    rw [Layout.shape_tellOf, Layout.shape_setPhase]
  have htold : w'.layout.told process =
      messages 0 (welcomed w.room params (fresh.accepted [] incidents) []) := by
    have hreaches' : opened.shape.Reaches channel process := by
      rw [hopened]
      exact hreaches
    have hall : w'.layout.told process = opened.told process ++
        messages 1 (notifications (writable w.room bond.queue)) := by
      rw [hlayout, Layout.welcome, hroom]
      exact Layout.told_sayAll_self (l := opened.clear 0) (by rwa [Layout.shape_clear]) 1 _
    have hfirst : opened.told process =
        w.layout.told process ++ [Rpc.notificationMessage "initialized" (.object [])] :=
      Layout.told_say_self (l := w.layout.setPhase 0 .ready) (by
        rw [Layout.shape_setPhase]
        exact hreaches) _
    rw [hall, hfirst, hparams, hqueue, welcomed, List.append_nil]
    rfl
  have hchapter : Chapter fresh (incidents ++ [.step]) process
      (welcomed w.room params (fresh.accepted [] incidents) []) true := by
    refine ⟨params, incidents, [], rfl, h.run ▸ hwelcomes, by rw [h.run]; rfl, iff_of_true ?_ rfl⟩
    rw [h.run, hstep]
    exact phaseOf?_eq_iff.2 ⟨_, hready⟩
  refine h.tells hstep hreaches.choose_spec.2.2.2 ?_ (fun other hne => ?_) (fun line other hat => ?_)
    (fun line other hat hcarries => ?_) (fun hnot => ?_) hgiven fun point hpoint => ?_
  · have hknown : opened.IsKnown := h.known.say (l := w.layout.setPhase 0 .ready) channel _
    rw [hlayout]
    exact Layout.IsKnown.sayAll (l := opened.clear 0) hknown _ _
  · have hnot : ¬ w.layout.shape.Reaches channel other :=
      fun h => hne (hreaches.carries.unique h.carries)
    rw [hlayout]
    refine (Layout.told_sayAll_other (l := opened.clear 0) ?_ _).trans
      (Layout.told_say_other (l := w.layout.setPhase 0 .ready) ?_ _)
    · rw [Layout.shape_clear, hopened]
      exact hnot
    · rw [Layout.shape_setPhase]
      exact hnot
  · cases (hstarting.unique hat).1
  · obtain ⟨rfl, rfl⟩ := hline hat hcarries
    refine ⟨rfl, _, hchapter, htold, ?_⟩
    rw [hlayout, Layout.asked_of_wires (Layout.wires_welcome _ _ _ _), hasked, welcomed, List.append_nil]
    exact (countAll_notifications 1 _).symm
  · refine absurd ?_ (hnot channel hready)
    rw [hshape]
    exact hreaches.carries
  · rw [hhandlers] at hpoint
    cases hpoint

omit hserial in
/-- The connection has said goodbye, and its process is told so. -/
theorem departs (hparted : .connection (.parted 0 channel) ∈ w.handlers)
    (hreaches : w.layout.shape.Reaches channel process)
    (hbefore : ∀ line, ¬ w.layout.shape.IsAt 0 .ready line)
    (hafter : ∀ line, ¬ w'.layout.shape.IsAt 0 .ready line)
    (hspoken : w'.layout.spoken = (w.layout.tellOf channel "exit" .null).spoken)
    (hscripts : w'.layout.scripts = w.layout.scripts)
    (hgiven : ∀ channel process, w'.hinge? = some (.channel (.opened channel), .ok (.process process)) →
      process = w.layout.scripts.length)
    (hhandlers : ∀ point ∈ w'.handlers, point = .connection (.closed 0 (some channel))) :
    Annals fresh (incidents ++ [incident]) w' := by
  obtain ⟨sayings, hchapter, hsayings⟩ := h.handled _ hparted process hreaches.carries
  -- The chapter ended when the connection began to be stopped, so the farewell ends the tale.
  have htold : w'.layout.told process = messages 0 (sayings ++ farewell) := by
    rw [Layout.told_of_spoken hspoken, Layout.tellOf, Layout.told_say_self hreaches, hsayings,
      messages_append, messages_append, List.append_assoc]
    rfl
  have hknown : (w.layout.tellOf channel "exit" .null).IsKnown := h.known.say _ _
  refine h.tells hstep hreaches.choose_spec.2.2.2 (hknown.of_spoken hspoken ?_) (fun other hne => ?_)
    (fun line other hat => absurd hat (hbefore _)) (fun line other hat => absurd hat (hafter _))
    (fun _ => ⟨_, htold, fun more => ?_⟩) hgiven fun point hpoint => ?_
  · have hsame : (w.layout.tellOf channel "exit" .null).scripts = w.layout.scripts :=
      congrArg Shape.scripts (Layout.shape_tellOf _ _ _ _)
    exact Nat.le_of_eq (congrArg List.length (hsame.trans hscripts.symm))
  · rw [Layout.told_of_spoken hspoken, Layout.tellOf, Layout.told_say_other fun h =>
      hne (hreaches.carries.unique h.carries)]
  · rw [List.append_assoc]
    exact (hchapter.ended _).tale (List.prefix_refl _)
  · rw [hhandlers point hpoint]
    trivial

end Annals

/-! ## Steps -/

/-- How many levels are left over the connection. -/
theorem layout_room (w : World) : w.layout.room 0 = w.room := by
  rw [Layout.room, layout_bonds_getElem?, room]
  cases w.connections[0]? <;> rfl

theorem issue?_of_asks {method : String} {params : Value} (hacting : w.acting? = some (point, outcome))
    (hasks : Asks 0 method params point outcome) :
    w.issue? .step = some (.request w.room method params) := by
  cases hasks <;> simp [issue?, hacting]

theorem issue?_eq_none (hacting : w.acting? = some (point, outcome))
    (hasks : ∀ method params, ¬ Asks 0 method params point outcome) : w.issue? .step = none := by
  unfold issue?
  simp only [hacting]
  split
  · rename_i heq
    obtain ⟨rfl, rfl⟩ := Prod.mk.inj (Option.some.inj heq)
    exact absurd (.begins _ _) (hasks _ _)
  · rename_i heq
    obtain ⟨rfl, rfl⟩ := Prod.mk.inj (Option.some.inj heq)
    exact absurd (.resumes _) (hasks _ _)
  · rfl

theorem Layout.asked_beginStart (l : Layout) (number started line : Nat) :
    (l.beginStart number started).asked line = l.asked line ∧ l.asked l.pipes.length = 0 := by
  have hlength : l.wires.length = l.pipes.length := by simp [wires]
  constructor
  · simp only [asked, wires_beginStart, List.getElem?_append]
    split
    · rfl
    · rename_i hge
      rw [List.getElem?_eq_none_iff.2 (Nat.le_of_not_lt hge)]
      cases line - l.wires.length <;> rfl
  · simp [asked, ← hlength]

/-- Points at which neither a process is given to a channel nor a request is made. -/
def Point.isUneventful : Point → Bool
  | .channel (.opened _) | .start (.ask _ _ _ _) | .connection (.awaited _ _ _ _) => false
  | _ => true

theorem Point.not_asks_of_isUneventful {method : String} {params : Value} (h : point.isUneventful = true) :
    ¬ Asks number method params point outcome := by
  rintro (_ | _) <;> cases h

/-- No connection becomes ready when a process is lost. -/
theorem Layout.Loses.was_ready {code : Option Int} {line : Option Nat} (h : l.Loses channel code l')
    (hat : l'.shape.IsAt number .ready line) : l.shape.IsAt number .ready line := by
  cases h with
  | expected => exact hat
  | unheard => exact hat.of_stages (by simp [Shape.carry, Shape.shut, Shape.setTrack])
  | stopping => exact hat.of_stages (by simp [Shape.carry, Shape.shut, Shape.setTrack])
  | stops =>
    rw [shape_report, shape_reset, shape_clear, shape_rejectOn, shape_carry, shape_shut] at hat
    exact (Shape.isAt_of_setStage hat fun _ h => by cases h).of_stages rfl

/-- A process that a channel has there is. -/
theorem Attentive.lt_of_carries (h : Attentive w) (hcarries : w.layout.shape.Carries channel process) :
    process < w.layout.scripts.length := by
  obtain ⟨Γ, hordered⟩ := h.ordered
  obtain ⟨track, htrack, hprocess⟩ := hcarries
  rw [Layout.shape_tracks_getElem?, layout_pipes_getElem?] at htrack
  obtain ⟨pipe, hpipe, rfl⟩ := Option.map_eq_some_iff.1 htrack
  obtain ⟨c, hc, rfl⟩ := Option.map_eq_some_iff.1 hpipe
  simpa [layout, facts] using (hordered.kept.channels channel c hc).process process hprocess

/-- What is said over an open channel reaches a process. -/
theorem Attentive.exists_reaches (h : Attentive w) (hopen : w.layout.shape.IsOpen channel) :
    ∃ process, w.layout.shape.Reaches channel process := by
  obtain ⟨process, hcarries⟩ := hopen.exists_carries
  exact ⟨process, hopen.reaches hcarries (h.lt_of_carries hcarries)⟩

/-- The connection that is ready is the only one, and what is said over its channel reaches a process. -/
theorem Attentive.of_ready (h : Attentive w) (hready : w.layout.IsReady number channel) :
    number = 0 ∧ ∃ process, w.layout.shape.Reaches channel process := by
  obtain ⟨-, line, hsame, hopen⟩ := h.serial.of_ready hready.isAt
  obtain rfl := Option.some.inj hsame
  exact ⟨h.lone.eq_zero hready.isAt, h.exists_reaches hopen⟩

namespace Annals

section

variable (h : Annals fresh incidents w) (hattentive : Attentive w)
  (hattentive' : Attentive (w.undergo .connections .step))
  (hacts : Acts .connections w (w.undergo .connections .step) point outcome rest aside next)

include h hattentive hattentive' hacts

omit hattentive hattentive' in
/-- A process that has just been started was told nothing. -/
theorem told_of_given (hhinge : (w.undergo .connections .step).hinge? =
    some (.channel (.opened channel), .ok (.process process))) : w.layout.told process = [] := by
  rw [(hacts.eq_of_given hhinge).1]
  exact h.known.told_eq_nil (Nat.le_refl _)

/-- A task that goes on says nothing with a method. -/
theorem rests {handling : List Point}
    (hpoint : ∀ line process, point = .channel (.opened line) → outcome ≠ .ok (.process process))
    (hasks : ∀ method params channel, Asks 0 method params point outcome → ¬ w.layout.IsReady 0 channel)
    (hspoken : (w.undergo .connections .step).layout.spoken = w.layout.spoken)
    (hasked : ∀ channel, (w.undergo .connections .step).layout.asked channel = w.layout.asked channel)
    (hready : ∀ line, (w.undergo .connections .step).layout.shape.IsAt 0 .ready line →
      w.layout.shape.IsAt 0 .ready line) (hfollows : Follows next handling)
    (hhandling : ∀ point ∈ handling,
      Expects fresh (incidents ++ [.step]) (w.undergo .connections .step).layout point) :
    Annals fresh (incidents ++ [.step]) (w.undergo .connections .step) := by
  have hgiven : ∀ line process, w.hinge? ≠ some (.channel (.opened line), .ok (.process process)) := by
    intro line process hhinge
    have hsame := hacts.acting.symm.trans (Option.filter_eq_some_iff.1 hhinge).1
    obtain ⟨heq, heq'⟩ := Prod.mk.inj (Option.some.inj hsame)
    exact hpoint line process heq heq'
  have hcarries : ∀ channel process, (w.undergo .connections .step).layout.shape.Carries channel process →
      w.layout.shape.Carries channel process := by
    rintro channel process ⟨track, htrack, hprocess⟩
    exact hacts.had hattentive.serial (fun line => hgiven line process) htrack hprocess
  have hscripts : w.layout.scripts.length ≤ (w.undergo .connections .step).layout.scripts.length := by
    obtain ⟨launched, heq, -⟩ := hacts.course.supplies.scripts
    rw [show (w.undergo .connections .step).layout.scripts = _ from heq, List.length_append]
    exact Nat.le_add_right _ _
  -- Nothing is said and no channel gets a process, so what was said before is still all there is.
  refine h.silent rfl hattentive'.serial hspoken hscripts (fun channel _ => hasked channel)
    (fun channel process hat hc => ⟨hready _ hat, hcarries _ _ hc⟩) (fun channel hat => ?_)
    (fun channel process hhinge => ?_) fun other hother => ?_
  · refine issue?_eq_none hacts.acting fun method params h => hasks method params channel h ?_
    obtain ⟨bond, hbond⟩ := hattentive.exists_bond
    rw [Shape.IsAt, Layout.shape_stages_getElem?, hbond] at hat
    have hstage := Option.some.inj hat
    exact ⟨bond, hbond, congrArg Stage.phase hstage, congrArg Stage.channel hstage⟩
  · exact h.told_of_given hacts hhinge
  · rw [(hacts.handlers_after hfollows).mem_iff, List.mem_append] at hother
    rcases hother with hnew | hold
    · exact hhandling other hnew
    · have hbefore : other ∈ w.handlers := hacts.handlers_before.mem_iff.2 (List.mem_append_right _ hold)
      exact (h.handled other hbefore).keep (Layout.told_of_spoken hspoken) hasked hcarries _

/-- A channel gets its process. -/
theorem opens {given : Nat} {answer : Answer} (hpoint : point = .channel (.opened channel))
    (houtcome : outcome = .ok (.process given)) (hnext : next = .go (.ok answer) [])
    (hlayout : (w.undergo .connections .step).layout = w.layout.carry channel (some given)) :
    Annals fresh (incidents ++ [.step]) (w.undergo .connections .step) := by
  subst hpoint houtcome hnext
  -- whoever waits for the channel goes on next, and nobody else starts or stops the connection
  obtain ⟨number, others, rfl, -⟩ := hacts.exists_opener hattentive.single
  have hopened : .connection (.opened number channel) ∈ w.handlers :=
    hacts.handlers_before.mem_iff.2 (by simp [Point.isHandling])
  have hopened' : .connection (.opened number channel) ∈ (w.undergo .connections .step).handlers :=
    (hacts.handlers_after (.idle (rises_go _ _))).mem_iff.2 (by simp [Point.isHandling])
  have hnever : ∀ phase, ¬ (w.undergo .connections .step).layout.shape.IsAt 0 .ready phase := by
    intro phase hat
    rw [(hattentive'.serial.of_ready hat).1] at hopened'
    cases hopened'
  have hasked : ∀ other, (w.undergo .connections .step).layout.asked other = w.layout.asked other :=
    Layout.asked_of_wires (by rw [hlayout, Layout.wires_carry])
  refine h.silent rfl hattentive'.serial (by rw [hlayout]; rfl) (by rw [hlayout]; exact Nat.le_refl _)
    (fun channel _ => hasked channel) (fun _ _ hat _ => absurd hat (hnever _)) (fun _ _ => ?_)
    (fun _ _ => h.told_of_given hacts) fun other hother => ?_
  · refine issue?_eq_none hacts.acting fun _ _ hasks => ?_
    cases hasks
  · rw [(hattentive'.serial.of_mem hopened').1, List.mem_singleton] at hother
    subst hother
    refine ⟨(hasked _).trans (h.handled _ hopened).1, fun process hcarries => ?_⟩
    obtain ⟨track, htrack, hprocess⟩ := hcarries
    rw [hlayout, Layout.shape_carry] at htrack
    obtain ⟨old, hold, ⟨-, rfl⟩ | ⟨hne, -⟩⟩ := Tasks.getElem?_modify_cases htrack
    · obtain rfl := Option.some.inj hprocess
      rw [hlayout]
      exact h.given channel _ hacts.hinge?_eq
    · exact absurd rfl hne

/-- A task that goes on sends nothing, and no connection becomes ready by it. -/
theorem goes_on {handling : List Point} (hl' : (w.undergo .connections .step).layout = l')
    (hpoint : ∀ line process, point = .channel (.opened line) → outcome ≠ .ok (.process process))
    (hasks : ∀ method params channel, Asks 0 method params point outcome → ¬ w.layout.IsReady 0 channel)
    (hspoken : l'.spoken = w.layout.spoken) (hwires : l'.wires = w.layout.wires)
    (hready : ∀ line, l'.shape.IsAt 0 .ready line → w.layout.shape.IsAt 0 .ready line)
    (hfollows : Follows next handling)
    (hhandling : ∀ point ∈ handling, Expects fresh (incidents ++ [.step]) l' point) :
    Annals fresh (incidents ++ [.step]) (w.undergo .connections .step) := by
  subst hl'
  exact h.rests hattentive hattentive' hacts hpoint hasks hspoken (Layout.asked_of_wires hwires) hready
    hfollows hhandling

/-- A task goes on at an uneventful point, and does not start or stop the connection from there on. -/
theorem passes (hl' : (w.undergo .connections .step).layout = l') (hpoint : point.isUneventful = true)
    (hspoken : l'.spoken = w.layout.spoken) (hwires : l'.wires = w.layout.wires)
    (hready : ∀ line, l'.shape.IsAt 0 .ready line → w.layout.shape.IsAt 0 .ready line)
    (hfollows : Follows next []) : Annals fresh (incidents ++ [.step]) (w.undergo .connections .step) := by
  refine h.goes_on hattentive hattentive' hacts hl' ?_ ?_ hspoken hwires hready hfollows
    fun _ hother => absurd hother List.not_mem_nil
  · rintro line process rfl
    cases hpoint
  · exact fun _ _ _ hasks => absurd hasks (Point.not_asks_of_isUneventful hpoint)

/-- A request is sent over the connection. -/
theorem acts_sends {answer : Nat} {method : String} {params : Value}
    (hasks : Asks number method params point outcome) (hready : w.layout.IsReady number channel)
    (hl' : (w.undergo .connections .step).layout =
      w.layout.ask (w.layout.room number) channel method params answer) :
    Annals fresh (incidents ++ [.step]) (w.undergo .connections .step) := by
  have hat := hready.isAt
  obtain ⟨rfl, process, hreaches⟩ := hattentive.of_ready hready
  have ⟨track, htrack, _⟩ := hreaches
  refine h.sends rfl hattentive'.serial hat hreaches ?_ (issue?_of_asks hacts.acting hasks) ?_ ?_ ?_ ?_
    fun _ _ hhinge => (hacts.eq_of_given hhinge).1
  · rw [hl', Layout.shape_ask]
  · rw [hl']
    exact h.known.ask _ _ _ _ _
  · rw [hl', layout_room, Layout.told_ask_self hreaches]
  · rw [hl']
    exact fun other hother => Layout.told_ask_other hother ..
  · rw [hl', Layout.asked_ask_self htrack]
    rfl

/-- The connection begins to be started: it has a channel of its own, which has no process yet. -/
theorem acts_begins {started : Nat} (hpoint : point = .start (.connect number))
    (hl' : (w.undergo .connections .step).layout = w.layout.beginStart number started)
    (hfollows : Follows next [.connection (.opened number w.layout.pipes.length)]) :
    Annals fresh (incidents ++ [.step]) (w.undergo .connections .step) := by
  subst hpoint
  refine h.rests hattentive hattentive' hacts (by simp) (fun _ _ _ h => by cases h) (by rw [hl']; rfl)
    (fun channel => ?_) ?_ hfollows fun other hother => ?_
  · rw [hl', (w.layout.asked_beginStart number started channel).1]
  · rw [hl', Layout.shape_beginStart]
    exact fun line hat => Shape.isAt_of_setStage hat (by simp)
  · obtain rfl := List.mem_singleton.1 hother
    refine ⟨?_, fun process hcarries => ?_⟩
    · obtain ⟨hsame, hnone⟩ := w.layout.asked_beginStart number started w.layout.pipes.length
      rw [hl', hsame, hnone]
    · obtain ⟨track, htrack, hprocess⟩ := hcarries
      have hlength : w.layout.pipes.length = w.layout.shape.tracks.length := by simp [Layout.shape]
      rw [hl', Layout.shape_beginStart, Shape.beginStart, hlength, List.getElem?_concat_length] at htrack
      rw [← Option.some.inj htrack] at hprocess
      cases hprocess

omit hattentive' in
/-- The connection, which is ready, begins to be stopped, where nobody else starts or stops it. -/
theorem acts_leaves {answer : Nat} (hpoint : point.isUneventful = true) (hnobody : w.handlers = [])
    (hready : w.layout.IsReady number channel)
    (hl' : (w.undergo .connections .step).layout =
      (w.layout.setPhase number .stopping).ask none channel "shutdown" .null answer)
    (hfollows : Follows next [.connection (.parted number channel)]) :
    Annals fresh (incidents ++ [.step]) (w.undergo .connections .step) := by
  have hat := hready.isAt
  obtain ⟨rfl, process, hreaches⟩ := hattentive.of_ready hready
  let stopping : Layout := w.layout.setPhase 0 .stopping
  have hreaches' : ∀ {other : Nat}, stopping.shape.Reaches channel other ↔
      w.layout.shape.Reaches channel other := by
    intro other
    rw [Layout.shape_setPhase]
    exact .rfl
  refine h.leaves rfl hat hreaches ?_ ?_
    (issue?_eq_none hacts.acting fun _ _ => Point.not_asks_of_isUneventful hpoint) ?_ ?_ ?_
    (fun _ _ hhinge => (hacts.eq_of_given hhinge).1) fun other hother => ?_
  · rw [hl', Layout.shape_ask, Layout.shape_setPhase]
    exact Shape.isAt_setStage hat _
  · rw [hl', Layout.shape_ask, Layout.shape_setPhase]
    exact fun _ _ hcarries => hcarries
  · rw [hl']
    exact Layout.IsKnown.ask (l := stopping) h.known _ _ _ _ _
  · rw [hl', Layout.told_ask_self (l := stopping) (hreaches'.2 hreaches)]
    rfl
  · rw [hl']
    exact fun other hother => Layout.told_ask_other (l := stopping) (hother ∘ hreaches'.1) ..
  · exact List.mem_singleton.1 ((hacts.handlers_begun hnobody hfollows).mem_iff.1 hother)

omit hattentive' in
/-- The channel of the connection has its process, which is greeted. -/
theorem acts_greets {params : Value} {answer : Nat} (hpoint : point = .connection (.opened number channel))
    (hok : ∃ given, outcome = .ok given)
    (hl' : (w.undergo .connections .step).layout = w.layout.ask none channel "initialize" params answer)
    (hfollows : Follows next [.connection (.greeted number channel answer)]) :
    Annals fresh (incidents ++ [.step]) (w.undergo .connections .step) := by
  obtain ⟨given, rfl⟩ := hok
  subst hpoint
  have hmem := hacts.mem_handlers rfl
  obtain ⟨hat, track, htrack, hopen, hmet⟩ := hacts.stands hattentive.serial rfl
  obtain rfl := hattentive.lone.eq_zero hat
  obtain ⟨process, hreaches⟩ := hattentive.exists_reaches
    ⟨track, htrack, hopen, hmet.2 ⟨_, _, hacts.hinge?_eq⟩⟩
  refine h.greets rfl hat hmem hreaches (by rw [hl', Layout.shape_ask]) hl'
    (fun _ _ hhinge => (hacts.eq_of_given hhinge).1) fun other hother => ?_
  have hhandlers := hacts.handlers_replaced hattentive.serial rfl hfollows
  exact List.mem_singleton.1 (hhandlers.mem_iff.1 hother)

/-- The greeting cannot be written: the connection is stuck, and its process is told nothing. -/
theorem acts_falters {answer : Nat} {failure : Failure}
    (hpoint : point = .connection (.opened number channel)) (hnext : next = .go (.error failure) [])
    (hl' : (w.undergo .connections .step).layout = w.layout.list channel "initialize" answer) :
    Annals fresh (incidents ++ [.step]) (w.undergo .connections .step) := by
  subst hpoint hnext
  obtain ⟨hat, -⟩ := hacts.stands hattentive.serial rfl
  obtain rfl := hattentive.lone.eq_zero hat
  have hshape : (w.undergo .connections .step).layout.shape = w.layout.shape := by
    rw [hl', Layout.shape_list]
  have hnever : ∀ line, ¬ w.layout.shape.IsAt 0 .ready line := fun line hready => by
    cases (hat.unique hready).1
  refine h.silent rfl hattentive'.serial (by rw [hl']; rfl) (by rw [hl']; exact Nat.le_refl _)
    (fun line hready => absurd (hshape ▸ hready) (hnever _))
    (fun line _ hready _ => absurd (hshape ▸ hready) (hnever _))
    (fun line hready => absurd hready (hnever _)) (fun _ _ => h.told_of_given hacts) fun other hother => ?_
  have hnobody := (hacts.handlers_replaced hattentive.serial rfl (.idle (rises_go _ _))).eq_nil
  rw [hnobody] at hother
  cases hother

/-- The connection begins to be stopped before it was ready, and its channel is closed. -/
theorem acts_closes {f : Facts} {line : Option Nat} {closing : Next}
    (hpoint : point = .start (.disconnect number))
    (hl' : (w.undergo .connections .step).layout = l')
    (hcloses : (w.layout.setPhase number .stopping).ClosesOn f line l' closing)
    (hnext : next = closing.under (.connection (.closed number line))) :
    Annals fresh (incidents ++ [.step]) (w.undergo .connections .step) := by
  subst hpoint hnext
  obtain ⟨hstages, hspoken, hwires, hidle⟩ :
      l'.shape.stages = (w.layout.shape.setPhase number .stopping).stages ∧
        l'.spoken = w.layout.spoken ∧ l'.wires = w.layout.wires ∧ Follows closing [] := by
    rw [← Layout.shape_setPhase, ← Layout.wires_setPhase w.layout number .stopping]
    cases hcloses with
    | nothing => exact ⟨rfl, rfl, rfl, .idle (rises_go _ _)⟩
    | closes hcloses => exact ⟨hcloses.stages, hcloses.spoken_eq.1, hcloses.wires_eq, hcloses.follows⟩
  refine h.goes_on hattentive hattentive' hacts hl' (by simp) (fun _ _ _ h => by cases h) hspoken hwires
    (fun line hat => Shape.isAt_of_setStage (hat.of_stages hstages.symm) (by simp))
    (hidle.under (by simp)) fun other hother => ?_
  obtain rfl := List.mem_singleton.1 hother
  trivial

omit hattentive' in
/-- An answer to whoever has greeted the process of a channel is one to the first request, since no
other was sent. -/
theorem welcomes_of_answer {greeted : Nat} {answer : Answer}
    (hpoint : point = .connection (.greeted 0 channel greeted)) (houtcome : outcome = .ok answer)
    (hstarting : w.layout.shape.IsAt 0 .starting (some channel))
    (hcarries : w.layout.shape.Carries channel process) : w.Welcomes process := by
  subst hpoint houtcome
  obtain ⟨Γ, result, below, -, hadmits, -⟩ := hacts.sits
  obtain ⟨id, c, hc, houtcome⟩ := hadmits.2.1 answer rfl
  obtain ⟨Γ', hordered⟩ := hattentive.ordered
  have hbounds := Rpc.Requests.le_of_outcome? (hordered.kept.channels channel c hc).valid houtcome
  have hasked := (h.handled _ (hacts.mem_handlers rfl)).1
  obtain ⟨track, htrack, hprocess⟩ := hcarries
  have hpipe := pipe_of_channel hc
  rw [Layout.asked, Layout.wire_of_pipe hpipe] at hasked
  obtain rfl := Option.some.inj ((Layout.track_of_pipe hpipe).symm.trans htrack)
  have hlength : c.requests.sent.length = 1 := by simpa [Channel.pipe, Pipe.wire] using hasked
  obtain rfl : id = 1 := by omega
  exact ⟨channel, greeted, answer, c, hacts.acting, phaseOf?_eq_iff.2 ⟨_, hstarting⟩, hc, hprocess, houtcome⟩

omit hattentive' in
/-- The process of the connection has answered, and the connection becomes ready. -/
theorem acts_welcomes {greeted : Nat} {bond : Bond} {answer : Answer}
    (hqueues : Queues fresh incidents w) (hpoint : point = .connection (.greeted number channel greeted))
    (houtcome : outcome = .ok answer) (hbond : w.layout.bonds[number]? = some bond)
    (hphase : bond.phase = .starting)
    (hl' : (w.undergo .connections .step).layout = w.layout.welcome number channel bond)
    (hfollows : Follows next []) : Annals fresh (incidents ++ [.step]) (w.undergo .connections .step) := by
  subst hpoint
  have hmem := hacts.mem_handlers rfl
  obtain ⟨hat, hopen⟩ := (hacts.stands hattentive.serial rfl).of_starting ⟨_, hbond, hphase⟩
  obtain rfl := hattentive.lone.eq_zero hat
  obtain ⟨process, hreaches⟩ := hattentive.exists_reaches hopen
  have hwelcomes := h.welcomes_of_answer hattentive hacts rfl houtcome hat hreaches.carries
  have hroom : bond.room = w.room := by
    rw [← layout_room, Layout.room, hbond, Option.bind_some]
  exact h.welcomes rfl (hqueues bond hbond (by simp [hphase])) hroom rfl hmem hwelcomes hat
    hreaches hl'
    (fun _ _ hhinge => (hacts.eq_of_given hhinge).1)
    (hacts.handlers_replaced hattentive.serial rfl hfollows).eq_nil

/-- The connection has said goodbye, and its channel is closed. -/
theorem acts_departs {f : Facts} {closing : Next}
    (hpoint : point = .connection (.parted number channel))
    (hl' : (w.undergo .connections .step).layout = l')
    (hcloses : (w.layout.tellOf channel "exit" .null).Closes f channel l' closing)
    (hnext : next = closing.under (.connection (.closed number (some channel)))) :
    Annals fresh (incidents ++ [.step]) (w.undergo .connections .step) := by
  subst hpoint hnext
  have hmem := hacts.mem_handlers rfl
  have hat : w.layout.shape.IsAt number .stopping (some channel) := hacts.stands hattentive.serial rfl
  obtain rfl := hattentive.lone.eq_zero hat
  have hstages : l'.shape.stages = w.layout.shape.stages := by rw [hcloses.stages, Layout.shape_tellOf]
  have hbefore : ∀ line, ¬ w.layout.shape.IsAt 0 .ready line := fun line hready => by
    cases (hat.unique hready).1
  have hafter : ∀ line, ¬ l'.shape.IsAt 0 .ready line :=
    fun line hready => hbefore line (hready.of_stages hstages.symm)
  have hfollows : Follows (closing.under (.connection (.closed 0 (some channel))))
      [.connection (.closed 0 (some channel))] := hcloses.follows.under (by simp)
  -- A process that can still be reached is told to exit, and one that is gone hears nothing.
  by_cases hreaches : ∃ process, w.layout.shape.Reaches channel process
  · obtain ⟨process, hreaches⟩ := hreaches
    refine h.departs rfl hmem hreaches hbefore (hl' ▸ hafter) ?_ ?_
      (fun _ _ hhinge => (hacts.eq_of_given hhinge).1) fun other hother => ?_
    · rw [hl', hcloses.spoken_eq.1]
    · rw [hl', hcloses.spoken_eq.2]
      exact congrArg Shape.scripts (Layout.shape_tellOf _ _ _ _)
    · have hhandlers := hacts.handlers_replaced hattentive.serial rfl hfollows
      exact List.mem_singleton.1 (hhandlers.mem_iff.1 hother)
  · -- nobody can be told any more
    have hsilent : w.layout.tellOf channel "exit" .null = w.layout := by
      rcases w.layout.say_cases channel (Rpc.notificationMessage "exit" .null) with
        ⟨heq, -⟩ | ⟨process, hreaches', -⟩
      · exact heq
      · exact absurd ⟨process, hreaches'⟩ hreaches
    rw [hsilent] at hcloses
    refine h.goes_on hattentive hattentive' hacts hl' (by simp) (fun _ _ _ h => by cases h)
      hcloses.spoken_eq.1 hcloses.wires_eq (fun line hready => absurd hready (hafter line)) hfollows
      fun other hother => ?_
    obtain rfl := List.mem_singleton.1 hother
    trivial

/-- What processes were told, whatever course a task takes. -/
theorem acts (hqueues : Queues fresh incidents w)
    (halone : ∀ number, point = .start (.disconnect number) → w.handlers = []) :
    Annals fresh (incidents ++ [.step]) (w.undergo .connections .step) := by
  -- most courses are uneventful: what differs is why no connection becomes ready
  have hplain : ∀ {l' : Layout}, (w.undergo .connections .step).layout = l' → point.isUneventful = true →
      l'.spoken = w.layout.spoken → l'.wires = w.layout.wires →
      (∀ line, l'.shape.IsAt 0 .ready line → w.layout.shape.IsAt 0 .ready line) →
      Follows next [] → Annals fresh (incidents ++ [.step]) (w.undergo .connections .step) :=
    h.passes hattentive hattentive' hacts
  have hidle : ∀ {s' : Shape}, s'.stages = w.layout.shape.stages → ∀ line, s'.IsAt 0 .ready line →
      w.layout.shape.IsAt 0 .ready line := fun hstages line hat => hat.of_stages hstages.symm
  have hreset : ∀ {s' : Shape} (number : Nat), s'.stages = (w.layout.shape.reset number).stages →
      ∀ line, s'.IsAt 0 .ready line → w.layout.shape.IsAt 0 .ready line :=
    fun _ hstages line hat => Shape.isAt_of_setStage (hat.of_stages hstages.symm) (by simp)
  have hcourse := hacts.course
  generalize hl' : (w.undergo .connections .step).layout = l' at hcourse
  cases hcourse with
  | hears hpivotal hasks hhears hnext =>
    refine h.goes_on hattentive hattentive' hacts hl' ?_
      (fun method params channel => hasks 0 method params channel) (by rw [hhears.rest]) hhears.wires_eq
      (hidle (by rw [hhears.shape_eq])) (.idle hnext) fun _ hother => absurd hother List.not_mem_nil
    rintro line process rfl
    cases hpivotal
  | watches _ hnext => exact hplain hl' rfl rfl rfl (hidle rfl) (.of_rises hnext rfl (by simp))
  | drains hnext => exact hplain hl' rfl rfl rfl (hidle rfl) (.of_rises hnext rfl (by simp))
  | loses _ hloses =>
    exact hplain hl' rfl hloses.spoken_eq.1 hloses.wires_eq (fun _ => hloses.was_ready)
      (.idle (rises_go _ _))
  | sends hasks hready hnext => exact h.acts_sends hattentive hattentive' hacts hasks hready hl'
  | connects hconnects =>
    cases hconnects with
    | keeps _ hnext => exact hplain hl' rfl rfl rfl (hidle rfl) (.idle hnext)
    | begins hstopped _ hnext =>
      exact h.acts_begins hattentive hattentive' hacts rfl hl' (.of_rises hnext rfl (by simp))
  | disconnects hdisconnects =>
    cases hdisconnects with
    | keeps => exact hplain hl' rfl rfl rfl (hidle rfl) (.idle (rises_go _ _))
    | clears =>
      exact hplain hl' rfl rfl rfl (hidle (by rw [Layout.shape_clear])) (.idle (rises_go _ _))
    | parts hready hnext =>
      exact h.acts_leaves hattentive hacts rfl (halone _ rfl) hready hl'
        (.of_rises hnext rfl (by simp))
    | closes _ _ _ hcloses => exact h.acts_closes hattentive hattentive' hacts rfl hl' hcloses rfl
  | misses => exact hplain hl' rfl rfl rfl (hidle rfl) (.idle (rises_go _ _))
  | launches => exact hplain hl' rfl rfl rfl (hidle rfl) (.idle (rises_go _ _))
  | opens => exact h.opens hattentive hattentive' hacts rfl rfl rfl hl'
  | shuns =>
    exact h.goes_on hattentive hattentive' hacts hl' (by simp) (fun _ _ _ h => by cases h) rfl rfl
      (hidle rfl) (.idle (rises_go _ _)) fun _ hother => absurd hother List.not_mem_nil
  | complies _ hsubsides =>
    exact hplain hl' rfl hsubsides.spoken_eq.1 hsubsides.wires_eq (hidle hsubsides.stages)
      hsubsides.follows
  | kills _ hnext => exact hplain hl' rfl rfl rfl (hidle rfl) (.of_rises hnext rfl (by simp))
  | buries hsubsides =>
    exact hplain hl' rfl hsubsides.spoken_eq.1 hsubsides.wires_eq (hidle hsubsides.stages)
      hsubsides.follows
  | rests =>
    exact hplain hl' rfl rfl (Layout.wires_carry _ _ _) (hidle rfl) (.idle (rises_go _ _))
  | greets _ hnext =>
    exact h.acts_greets hattentive hacts rfl ⟨_, rfl⟩ hl' (.of_rises hnext rfl (by simp))
  | falters => exact h.acts_falters hattentive hattentive' hacts rfl rfl hl'
  | abandons hnot =>
    exact absurd (Layout.isIn_iff.2 ⟨_, (hacts.stands hattentive.serial rfl).1⟩) hnot
  | fails => exact hplain hl' rfl rfl rfl (hreset _ (by rw [Layout.shape_reset])) (.idle (rises_go _ _))
  | forsakes => exact hplain hl' rfl rfl rfl (hidle rfl) (.idle (rises_go _ _))
  | welcomes hbond hphase =>
    exact h.acts_welcomes hattentive hacts hqueues rfl rfl hbond hphase hl'
      (.idle (rises_go _ _))
  | refuses hstarting hcloses =>
    refine h.goes_on hattentive hattentive' hacts hl' (by simp) (fun _ _ _ h => by cases h)
      hcloses.spoken_eq.1 hcloses.wires_eq (hidle hcloses.stages) (hcloses.follows.under (by simp))
      fun other hother => ?_
    obtain rfl := List.mem_singleton.1 hother
    trivial
  | ignores => exact hplain hl' rfl rfl rfl (hidle rfl) (.idle (rises_go _ _))
  | dismisses =>
    exact hplain hl' rfl rfl rfl (hreset _ (by rw [Layout.shape_reset])) (.idle (rises_go _ _))
  | parts hgrows hcloses => exact h.acts_departs hattentive hattentive' hacts rfl hl' hcloses rfl
  | closed =>
    rename_i number channel answer
    refine hplain hl' rfl ?_ (by simp) (hreset number ?_) (.idle (rises_go _ _))
    · cases channel <;> rfl
    · rw [Layout.shape_reset, Layout.shape_rejectOn]
  | comes hactivity =>
    exact (hacts.not_comes hactivity).elim
  -- nobody keeps the connection
  | vacates => cases hattentive.lone.keepers _ (hacts.mem rfl)
  | renews => cases hattentive.lone.keepers _ (hacts.mem rfl)
  | leaves => cases hattentive.lone.keepers _ (hacts.mem rfl)

end

end Annals

end BasiliskServer.World
