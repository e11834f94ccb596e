import BasiliskServer.Proofs.World.Exclusion

/-!
# Connections, channels and processes belong together

`Coherent` is what holds of the view at all times: only the connection that is kept is starting or
ready, one that is ready leads through an open channel of its own to a process, and a task at a point
finds things as the point needs them (`View.Places`). In particular a connection that is being started
leads to a process that was told nothing yet.

Every elementary change of the view keeps this up.
-/

namespace BasiliskServer.World

open Json (Value Fields)

namespace View

theorem links_setLink (v : View) (number other : Nat) (change : Link → Link) :
    (v.setLink number change).links[other]? =
      (v.links[other]?).map fun link => if number = other then change link else link := by
  simp [setLink, List.getElem?_modify]

theorem lines_setLine (v : View) (channel other : Nat) (change : Line → Line) :
    (v.setLine channel change).lines[other]? =
      (v.lines[other]?).map fun line => if channel = other then change line else line := by
  simp [setLine, List.getElem?_modify]

theorem Unlimited.setLink {v : View} (h : v.Unlimited) (number : Nat) {change : Link → Link}
    (hroom : ∀ link, (change link).room = link.room) : (v.setLink number change).Unlimited := by
  intro link hlink
  obtain ⟨other, hother⟩ := List.mem_iff_getElem?.1 hlink
  rw [links_setLink] at hother
  obtain ⟨before, hbefore, rfl⟩ := Option.map_eq_some_iff.1 hother
  have hnone := h before (List.mem_of_getElem? hbefore)
  split
  · exact (hroom before).trans hnone
  · exact hnone

/-! ## What points need -/

/-- Whether a connection is starting or ready. -/
def IsLive (v : View) (number : Nat) : Prop :=
  v.IsIn .starting number ∨ v.IsIn .ready number

/-- A process exists and was told nothing yet. -/
def IsNew (v : View) (process : Nat) : Prop :=
  process < v.processCount ∧ ∀ entry ∈ v.syncs, entry.1 ≠ process

/-- A channel belongs to a connection that is not ready; while the connection is starting it leads
to the channel, which is open and has a new process if any. -/
def Launches (v : View) (number channel : Nat) : Prop :=
  ∃ link line, v.links[number]? = some link ∧ v.lines[channel]? = some line ∧
    line.owner = .connection number ∧ link.phase ≠ .ready ∧
    (link.phase = .starting → link.channel = some channel ∧ line.closing = false ∧
      ∀ process, line.process = some process → v.IsNew process)

/-- A channel has got its process. -/
def HasProcess (v : View) (channel : Nat) : Prop :=
  ∃ line, v.lines[channel]? = some line ∧ line.process.isSome

/-- A channel belongs to a connection that is neither starting nor ready. -/
def Leaves (v : View) (number channel : Nat) : Prop :=
  ∃ link line, v.links[number]? = some link ∧ v.lines[channel]? = some line ∧
    line.owner = .connection number ∧ link.phase ≠ .starting ∧ link.phase ≠ .ready

/-- What has to be the case where a task stands at a point. -/
def Places (v : View) : Point → Prop
  | .channel (.asked number _) | .channel (.killed number) | .channel (.quiet number) =>
    v.IsClosing number
  | .connection (.opened number line) => v.Launches number line
  | .connection (.greeted number line _) =>
    v.Launches number line ∧ (v.IsIn .starting number → v.HasProcess line)
  | .connection (.parted number line) => v.Leaves number line
  | .keeper (.vacated _) => v.keeper.connection = none
  | .start activity => activity.isOfSession
  | .tool _ => False
  | _ => True

/-- What a point at which a connection starts is about: the connection and the channel. -/
def starts? : Point → Option (Nat × Nat)
  | .connection (.opened number line) | .connection (.greeted number line _) => some (number, line)
  | _ => .none

theorem isStart_of_starts? {point : Point} {pair : Nat × Nat} (h : starts? point = some pair) :
    point.isStart := by
  unfold starts? at h
  split at h <;> first | rfl | cases h

/-- Where a task stood at a point it still can, if what the point needs is still the case. -/
theorem Places.imp {v v' : View} {point : Point} (h : v.Places point)
    (hclosing : ∀ channel, v.IsClosing channel → v'.IsClosing channel)
    (hlaunches : ∀ number channel, starts? point = some (number, channel) →
      v.Launches number channel → v'.Launches number channel ∧
        (v'.IsIn .starting number → v.IsIn .starting number ∧
          (v.HasProcess channel → v'.HasProcess channel)))
    (hleaves : ∀ number channel, v.Leaves number channel → v'.Leaves number channel)
    (hkept : (∃ config, point = .keeper (.vacated config)) → v.keeper.connection = .none →
      v'.keeper.connection = .none) :
    v'.Places point := by
  unfold Places at h ⊢
  split at h
  · exact hclosing _ h
  · exact hclosing _ h
  · exact hclosing _ h
  · exact (hlaunches _ _ rfl h).1
  · obtain ⟨hlaunched, hstarting⟩ := hlaunches _ _ rfl h.1
    exact ⟨hlaunched, fun hin => (hstarting hin).2 (h.2 (hstarting hin).1)⟩
  · exact hleaves _ _ h
  · exact hkept ⟨_, rfl⟩ h
  · exact h
  · exact h
  · trivial

theorem places_of_allows {v : View} {point : Point} (h : v.Allows point) : v.Places point := by
  rcases h with hplain | ⟨channel, hcloses, hclosing⟩
  · unfold Places
    split <;> trivial
  · unfold Point.closes? at hcloses
    split at hcloses <;> cases hcloses <;> exact hclosing

end View

/-- At all times: connections, channels and processes belong together, with tasks at the given
points. -/
structure Coherent (v : View) (pts : List Point) : Prop where
  /-- Only the kept connection is starting or ready. -/
  kept : ∀ number, v.IsLive number → v.keeper.connection = some number
  /-- A connection that is ready leads to a process. -/
  served : ∀ number (link : Link), v.links[number]? = some link → link.phase = .ready →
    ∃ channel process, link.channel = some channel ∧
      v.lines[channel]? = some ⟨some process, false, .connection number⟩ ∧
      process < v.processCount
  /-- Only processes that exist were told anything. -/
  existing : ∀ entry ∈ v.syncs, entry.1 < v.processCount
  /-- Connections of the keeper are listened to by the session. -/
  listener : v.keeper.listener = .session
  /-- Whatever is to be said can be written. -/
  unlimited : v.Unlimited
  /-- Tasks find things as they need them. -/
  placed : ∀ point ∈ pts, v.Places point

/-- A channel does not matter: no connection that is ready leads to it, and none is being started
through it. -/
structure Spare (v : View) (pts : List Point) (channel : Nat) : Prop where
  /-- It leads no connection that is ready to its process. -/
  ready : ∀ (number : Nat) (link : Link), v.links[number]? = some link → link.phase = .ready →
    link.channel ≠ some channel
  /-- No connection is being started through it. -/
  starting : ∀ point ∈ pts, ∀ number, View.starts? point = some (number, channel) →
    ¬ v.IsIn .starting number

namespace Coherent

variable {v : View} {pts : List Point}

theorem of_subset {pts' : List Point} (h : Coherent v pts) (hsub : ∀ point ∈ pts', point ∈ pts) :
    Coherent v pts' :=
  { h with placed := fun point hpoint => h.placed point (hsub point hpoint) }

/-- Tasks come to stand at further points. -/
theorem add {front : List Point} (h : Coherent v pts) (hfront : ∀ point ∈ front, v.Places point) :
    Coherent v (front ++ pts) :=
  { h with
    placed := fun point hpoint =>
      (List.mem_append.1 hpoint).elim (hfront point) (h.placed point) }

/-- A task at a point at which a connection starts. -/
theorem launches (h : Coherent v pts) {point : Point} (hpoint : point ∈ pts) {number channel : Nat}
    (hstarts : View.starts? point = some (number, channel)) : v.Launches number channel := by
  have hplaced := h.placed point hpoint
  unfold View.starts? at hstarts
  split at hstarts <;> cases hstarts
  · exact hplaced
  · exact hplaced.1

/-! ## Connections that come to an end -/

/-- A connection comes to an end. -/
theorem setLink (h : Coherent v pts) {number : Nat} {change : Link → Link}
    (hceases : ∀ link, v.links[number]? = some link →
      (change link).phase ≠ .starting ∧ (change link).phase ≠ .ready)
    (hroom : ∀ link, (change link).room = link.room) :
    Coherent (v.setLink number change) pts := by
  -- what is still starting or ready is another connection, as it was
  have hsame : ∀ (other : Nat) (link : Link), (v.setLink number change).links[other]? = some link →
      link.phase = .starting ∨ link.phase = .ready → v.links[other]? = some link := by
    intro other link hlink hlive
    rw [View.links_setLink] at hlink
    obtain ⟨link₀, hlink₀, rfl⟩ := Option.map_eq_some_iff.1 hlink
    by_cases heq : number = other
    · subst heq
      obtain ⟨hstarting, hready⟩ := hceases link₀ hlink₀
      rw [if_pos rfl] at hlive
      exact absurd hlive (by simp [hstarting, hready])
    · rw [if_neg heq, hlink₀]
  have hlaunches : ∀ other channel, v.Launches other channel →
      (v.setLink number change).Launches other channel := by
    rintro other channel ⟨link, line, hlink, hline, howner, hready, hstarting⟩
    have hlink' : (v.setLink number change).links[other]? =
        some (if number = other then change link else link) := by
      rw [View.links_setLink, hlink, Option.map_some]
    refine ⟨_, line, hlink', hline, howner, fun hphase => ?_, fun hphase => ?_⟩
    · have heq := hsame other _ hlink' (.inr hphase)
      rw [hlink] at heq
      exact hready (by rw [Option.some.inj heq, hphase])
    · have heq := hsame other _ hlink' (.inl hphase)
      rw [hlink] at heq
      have heq := Option.some.inj heq
      rw [← heq] at hphase ⊢
      exact hstarting hphase
  have hin : ∀ other, (v.setLink number change).IsIn .starting other → v.IsIn .starting other :=
    fun other ⟨link, hlink, hphase⟩ => ⟨link, hsame other link hlink (.inl hphase), hphase⟩
  have hleaves : ∀ other channel, v.Leaves other channel →
      (v.setLink number change).Leaves other channel := by
    rintro other channel ⟨link, line, hlink, hline, howner, hnot⟩
    refine ⟨_, line, by rw [View.links_setLink, hlink, Option.map_some], hline, howner, ?_⟩
    split
    · rename_i heq
      subst heq
      exact hceases link hlink
    · exact hnot
  refine ⟨?_, ?_, h.existing, h.listener, h.unlimited.setLink number hroom, fun point hpoint => ?_⟩
  · rintro other (⟨link, hlink, hphase⟩ | ⟨link, hlink, hphase⟩)
    · exact h.kept other (.inl ⟨link, hsame other link hlink (.inl hphase), hphase⟩)
    · exact h.kept other (.inr ⟨link, hsame other link hlink (.inr hphase), hphase⟩)
  · intro other link hlink hphase
    exact h.served other link (hsame other link hlink (.inr hphase)) hphase
  · exact (h.placed point hpoint).imp (fun _ hclosing => hclosing)
      (fun other channel _ hlaunch => ⟨hlaunches other channel hlaunch, fun hstarting =>
        ⟨hin other hstarting, id⟩⟩) hleaves (fun _ hnone => hnone)

/-! ## Channels that come to an end -/

/-- A channel that does not matter is brought nearer to its end. -/
theorem setLine (h : Coherent v pts) {channel : Nat} (hspare : Spare v pts channel)
    {change : Line → Line} (hchange : Ending change) : Coherent (v.setLine channel change) pts := by
  have hother : ∀ other, other ≠ channel →
      (v.setLine channel change).lines[other]? = v.lines[other]? := by
    intro other hne
    rw [View.lines_setLine]
    simp [hne.symm]
  have hsame : ∀ line, v.lines[channel]? = some line →
      (v.setLine channel change).lines[channel]? = some (change line) := by
    intro line hline
    rw [View.lines_setLine, hline]
    simp
  -- Other channels are as they were, and no ready or starting connection goes through this one.
  refine ⟨h.kept, ?_, h.existing, h.listener, h.unlimited, fun point hpoint => ?_⟩
  · intro number link hlink hphase
    obtain ⟨leading, process, hleading, hline, hlt⟩ := h.served number link hlink hphase
    have hne : leading ≠ channel := fun heq =>
      hspare.ready number link hlink hphase (heq ▸ hleading)
    exact ⟨leading, process, hleading, (hother leading hne).trans hline, hlt⟩
  · refine (h.placed point hpoint).imp (fun other hclosing => ?_) (fun number other hstarts => ?_)
      (fun number other hleaves => ?_) fun _ hnone => hnone
    · by_cases heq : other = channel
      · subst heq
        exact IsClosing.setLine hclosing hchange
      · obtain ⟨line, hline, hclosed⟩ := hclosing
        exact ⟨line, (hother other heq).trans hline, hclosed⟩
    · rintro ⟨link, line, hlink, hline, howner, hready, hstarting⟩
      by_cases heq : other = channel
      · subst heq
        have hnot := hspare.starting point hpoint number hstarts
        refine ⟨⟨link, change line, hlink, hsame line hline, ?_, hready, fun hphase => ?_⟩,
          fun hin => absurd hin hnot⟩
        · rw [(hchange line).owner, howner]
        · exact absurd ⟨link, hlink, hphase⟩ hnot
      · refine ⟨⟨link, line, hlink, (hother other heq).trans hline, howner, hready, hstarting⟩,
          fun hin => ⟨hin, ?_⟩⟩
        rintro ⟨line', hline', hprocess⟩
        exact ⟨line', (hother other heq).trans hline', hprocess⟩
    · obtain ⟨link, line, hlink, hline, howner, hnot⟩ := hleaves
      by_cases heq : other = channel
      · subst heq
        exact ⟨link, change line, hlink, hsame line hline, by rw [(hchange line).owner, howner],
          hnot⟩
      · exact ⟨link, line, hlink, (hother other heq).trans hline, howner, hnot⟩

/-- A channel that is being closed does not matter. -/
theorem spare_of_isClosing (h : Coherent v pts) {channel : Nat} (hclosing : v.IsClosing channel) :
    Spare v pts channel := by
  obtain ⟨line, hline, hclosed⟩ := hclosing
  refine ⟨fun number link hlink hphase hleads => ?_, fun point hpoint number hstarts hin => ?_⟩
  · obtain ⟨leading, process, hleading, hopen, -⟩ := h.served number link hlink hphase
    rw [hleads] at hleading
    obtain rfl := Option.some.inj hleading
    rw [hline] at hopen
    rw [Option.some.inj hopen] at hclosed
    cases hclosed
  · obtain ⟨link, line', hlink, hline', -, -, hstarting⟩ := h.launches hpoint hstarts
    obtain ⟨link', hlink', hphase⟩ := hin
    rw [hlink] at hlink'
    rw [hline] at hline'
    obtain rfl := Option.some.inj hlink'
    obtain rfl := Option.some.inj hline'
    rw [(hstarting hphase).2.1] at hclosed
    cases hclosed

/-- A channel whose owner is neither starting nor ready does not matter. -/
theorem spare_of_owner (h : Coherent v pts) {channel : Nat} {line : Line}
    (hline : v.lines[channel]? = some line)
    (howner : ∀ number, line.owner = .connection number → ¬ v.IsLive number) :
    Spare v pts channel := by
  refine ⟨fun number link hlink hphase hleads => ?_, fun point hpoint number hstarts hin => ?_⟩
  · obtain ⟨leading, process, hleading, hopen, -⟩ := h.served number link hlink hphase
    rw [hleads] at hleading
    obtain rfl := Option.some.inj hleading
    rw [hline] at hopen
    exact howner number (by rw [Option.some.inj hopen]) (.inr ⟨link, hlink, hphase⟩)
  · obtain ⟨link, line', hlink, hline', howned, -⟩ := h.launches hpoint hstarts
    rw [hline] at hline'
    exact howner number (by rw [Option.some.inj hline', howned]) (.inl hin)

/-! ## The keeper -/

/-- The keeper is changed and keeps its connection. -/
theorem setKeeper (h : Coherent v pts) {change : Keeper → Keeper}
    (hsame : (change v.keeper).connection = v.keeper.connection)
    (hlistener : (change v.keeper).listener = v.keeper.listener) :
    Coherent (v.setKeeper change) pts := by
  refine ⟨fun number hlive => hsame.trans (h.kept number hlive), h.served, h.existing,
    hlistener.trans h.listener, h.unlimited, ?_⟩
  intro point hpoint
  exact (h.placed point hpoint).imp (fun _ hclosing => hclosing)
    (fun _ _ _ hlaunches => ⟨hlaunches, fun hin => ⟨hin, id⟩⟩) (fun _ _ hleaves => hleaves)
    fun _ hnone => hsame.trans hnone

/-- The keeper lets go of a connection that is neither starting nor ready. -/
theorem release (h : Coherent v pts) (hdead : ∀ number, ¬ v.IsLive number)
    {change : Keeper → Keeper} (hnone : (change v.keeper).connection = none)
    (hlistener : (change v.keeper).listener = v.keeper.listener) :
    Coherent (v.setKeeper change) pts := by
  refine ⟨fun number hlive => absurd hlive (hdead number), h.served, h.existing,
    hlistener.trans h.listener, h.unlimited, ?_⟩
  intro point hpoint
  exact (h.placed point hpoint).imp (fun _ hclosing => hclosing)
    (fun _ _ _ hlaunches => ⟨hlaunches, fun hin => ⟨hin, id⟩⟩) (fun _ _ hleaves => hleaves)
    fun _ _ => hnone

/-! ## Documents and what is told of them -/

/-- Documents are opened, changed and closed. -/
theorem setSheets (h : Coherent v pts) (sheets : List Sheet) :
    Coherent { v with sheets } pts :=
  ⟨h.kept, h.served, h.existing, h.listener, h.unlimited,
    fun point hpoint => h.placed point hpoint⟩

/-- Notifications wait in a connection. -/
theorem setQueue (h : Coherent v pts) (number : Nat)
    (change : List (String × Value) → List (String × Value)) :
    Coherent (v.setLink number fun l => { l with queue := change l.queue }) pts := by
  -- Nothing in `Coherent` looks at queues: connections correspond to each other before and after.
  have hsome : ∀ (other : Nat) (link : Link), v.links[other]? = some link →
      ∃ link', (v.setLink number fun l => { l with queue := change l.queue }).links[other]? =
        some link' ∧ link'.phase = link.phase ∧ link'.channel = link.channel := by
    intro other link hlink
    refine ⟨_, by rw [View.links_setLink, hlink, Option.map_some], ?_⟩
    split <;> exact ⟨rfl, rfl⟩
  have hback : ∀ (other : Nat) (link' : Link),
      (v.setLink number fun l => { l with queue := change l.queue }).links[other]? = some link' →
      ∃ link, v.links[other]? = some link ∧ link'.phase = link.phase ∧
        link'.channel = link.channel := by
    intro other link' hlink'
    rw [View.links_setLink] at hlink'
    obtain ⟨link, hlink, rfl⟩ := Option.map_eq_some_iff.1 hlink'
    refine ⟨link, hlink, ?_⟩
    split <;> exact ⟨rfl, rfl⟩
  have hin : ∀ phase other,
      (v.setLink number fun l => { l with queue := change l.queue }).IsIn phase other →
      v.IsIn phase other := by
    rintro phase other ⟨link', hlink', hphase⟩
    obtain ⟨link, hlink, heq, -⟩ := hback other link' hlink'
    exact ⟨link, hlink, heq ▸ hphase⟩
  refine ⟨fun other hlive => h.kept other (hlive.imp (hin _ _) (hin _ _)), ?_, h.existing, h.listener,
    h.unlimited.setLink number fun _ => rfl, ?_⟩
  · intro other link' hlink' hphase
    obtain ⟨link, hlink, heq, hchannel⟩ := hback other link' hlink'
    rw [hchannel]
    exact h.served other link hlink (heq ▸ hphase)
  · intro point hpoint
    refine (h.placed point hpoint).imp (fun _ hclosing => hclosing) (fun other channel _ => ?_)
      (fun other channel => ?_) fun _ hnone => hnone
    · rintro ⟨link, line, hlink, hline, howner, hready, hstarting⟩
      obtain ⟨link', hlink', heq, hchannel⟩ := hsome other link hlink
      refine ⟨⟨link', line, hlink', hline, howner, heq ▸ hready, fun hphase => ?_⟩,
        fun hstart => ⟨hin _ _ hstart, id⟩⟩
      rw [hchannel]
      exact hstarting (heq ▸ hphase)
    · rintro ⟨link, line, hlink, hline, howner, hnot⟩
      obtain ⟨link', hlink', heq, -⟩ := hsome other link hlink
      exact ⟨link', line, hlink', hline, howner, heq ▸ hnot⟩

/-- While no connection is starting, processes are told of documents. -/
theorem hear (h : Coherent v pts) {entries : List (Nat × String × Sync)}
    (hexisting : ∀ entry ∈ entries, entry.1 < v.processCount)
    (hidle : ∀ number, ¬ v.IsIn .starting number) :
    Coherent { v with syncs := v.syncs ++ entries } pts := by
  refine ⟨h.kept, h.served, fun entry hentry => ?_, h.listener, h.unlimited, fun point hpoint => ?_⟩
  · exact (List.mem_append.1 hentry).elim (h.existing entry) (hexisting entry)
  · refine (h.placed point hpoint).imp (fun _ hclosing => hclosing) (fun number channel _ => ?_)
      (fun _ _ hleaves => hleaves) fun _ hnone => hnone
    rintro ⟨link, line, hlink, hline, howner, hready, -⟩
    exact ⟨⟨link, line, hlink, hline, howner, hready, fun hphase =>
      absurd ⟨link, hlink, hphase⟩ (hidle number)⟩, fun hin => absurd hin (hidle number)⟩

/-- While a connection is ready, no connection is starting. -/
theorem not_starting (h : Coherent v pts) {number : Nat} (hready : v.IsIn .ready number)
    (other : Nat) : ¬ v.IsIn .starting other := by
  intro hstarting
  have hkept := h.kept number (.inr hready)
  rw [h.kept other (.inl hstarting)] at hkept
  obtain rfl := Option.some.inj hkept
  obtain ⟨link, hlink, hphase⟩ := hready
  obtain ⟨link', hlink', hphase'⟩ := hstarting
  rw [hlink] at hlink'
  obtain rfl := Option.some.inj hlink'
  rw [hphase] at hphase'
  cases hphase'

/-! ## Connections that start -/

/-- A process is started. -/
theorem addProcess (h : Coherent v pts) : Coherent v.addProcess pts := by
  refine ⟨h.kept, fun number link hlink hphase => ?_, fun entry hentry => ?_,
    h.listener, h.unlimited, fun point hpoint => ?_⟩
  · obtain ⟨channel, process, hchannel, hline, hlt⟩ := h.served number link hlink hphase
    exact ⟨channel, process, hchannel, hline, Nat.lt_succ_of_lt hlt⟩
  · exact Nat.lt_succ_of_lt (h.existing entry hentry)
  · refine (h.placed point hpoint).imp (fun _ hclosing => hclosing) (fun number channel _ => ?_)
      (fun _ _ hleaves => hleaves) fun _ hnone => hnone
    rintro ⟨link, line, hlink, hline, howner, hready, hstarting⟩
    refine ⟨⟨link, line, hlink, hline, howner, hready, fun hphase => ?_⟩, fun hin => ⟨hin, id⟩⟩
    obtain ⟨hchannel, hclosing, hnew⟩ := hstarting hphase
    exact ⟨hchannel, hclosing, fun process hprocess =>
      ⟨Nat.lt_succ_of_lt (hnew process hprocess).1, (hnew process hprocess).2⟩⟩

/-- The process that was started last was told nothing yet. -/
theorem isNew_addProcess (h : Coherent v pts) : v.addProcess.IsNew v.processCount :=
  ⟨Nat.lt_succ_self _, fun entry hentry heq => absurd (h.existing entry hentry) (by omega)⟩

/-- No connection that is ready leads to a channel through which another one starts. -/
theorem not_led (h : Coherent v pts) {number channel : Nat} (hlaunches : v.Launches number channel)
    (other : Nat) (link : Link) (hlink : v.links[other]? = some link) (hphase : link.phase = .ready) :
    link.channel ≠ some channel := by
  intro hleads
  obtain ⟨leading, process, hleading, hopen, -⟩ := h.served other link hlink hphase
  obtain ⟨link', line, hlink', hline, howner, hready, -⟩ := hlaunches
  rw [hleads] at hleading
  obtain rfl := Option.some.inj hleading
  rw [hopen] at hline
  obtain rfl := Option.some.inj hline
  obtain rfl := Owner.connection.inj howner
  rw [hlink] at hlink'
  obtain rfl := Option.some.inj hlink'
  exact hready hphase

/-- A channel through which a connection starts gets its process. -/
theorem setProcess (h : Coherent v pts) {number channel process : Nat}
    (hlaunches : v.Launches number channel) (hnew : v.IsNew process) :
    Coherent (v.setLine channel fun line => { line with process := some process }) pts := by
  have hlines := fun other =>
    View.lines_setLine v channel other fun line => { line with process := some process }
  have hother : ∀ other, other ≠ channel →
      (v.setLine channel fun line => { line with process := some process }).lines[other]? =
        v.lines[other]? := by
    intro other hne
    rw [hlines]
    simp [hne.symm]
  have hsome : ∀ (other : Nat) (line : Line), v.lines[other]? = some line → ∃ line',
      (v.setLine channel fun line => { line with process := some process }).lines[other]? =
        some line' ∧ line'.owner = line.owner ∧ line'.closing = line.closing ∧
        (line'.process = line.process ∨ line'.process = some process) := by
    intro other line hline
    refine ⟨_, by rw [hlines, hline, Option.map_some], ?_⟩
    split
    · exact ⟨rfl, rfl, .inr rfl⟩
    · exact ⟨rfl, rfl, .inl rfl⟩
  -- No ready connection goes through this channel, for a starting one has it to itself.
  refine ⟨h.kept, ?_, h.existing, h.listener, h.unlimited, fun point hpoint => ?_⟩
  · intro other link hlink hphase
    obtain ⟨leading, process', hleading, hline, hlt⟩ := h.served other link hlink hphase
    have hne : leading ≠ channel := fun heq =>
      h.not_led hlaunches other link hlink hphase (heq ▸ hleading)
    exact ⟨leading, process', hleading, (hother leading hne).trans hline, hlt⟩
  · refine (h.placed point hpoint).imp ?_ (fun other leading _ => ?_) ?_ fun _ hnone => hnone
    · rintro other ⟨line, hline, hclosed⟩
      obtain ⟨line', hline', -, hclosing, -⟩ := hsome other line hline
      exact ⟨line', hline', hclosing.trans hclosed⟩
    · rintro ⟨link, line, hlink, hline, howner, hready, hstarting⟩
      obtain ⟨line', hline', howner', hclosing', hprocess⟩ := hsome leading line hline
      refine ⟨⟨link, line', hlink, hline', howner'.trans howner, hready, fun hphase => ?_⟩,
        fun hin => ⟨hin, ?_⟩⟩
      · obtain ⟨hchannel, hopen, hold⟩ := hstarting hphase
        refine ⟨hchannel, hclosing'.trans hopen, fun q hq => ?_⟩
        rcases hprocess with heq | heq
        · exact hold q (heq ▸ hq)
        · rw [heq] at hq
          exact Option.some.inj hq ▸ hnew
      · rintro ⟨line₀, hline₀, hsomeProcess⟩
        rw [hline] at hline₀
        obtain rfl := Option.some.inj hline₀
        refine ⟨line', hline', ?_⟩
        rcases hprocess with heq | heq
        · rw [heq]
          exact hsomeProcess
        · rw [heq]
          rfl
    · rintro other leading ⟨link, line, hlink, hline, howner, hnot⟩
      obtain ⟨line', hline', howner', -⟩ := hsome leading line hline
      exact ⟨link, line', hlink, hline', howner'.trans howner, hnot⟩

/-- A connection whose process has answered the greeting becomes ready. -/
theorem becomeReady (h : Coherent v pts) (hno : ∀ point ∈ pts, point.isStart = false)
    {number channel : Nat} (hlaunches : v.Launches number channel)
    (hstarting : v.IsIn .starting number) (hprocess : v.HasProcess channel) :
    ∃ process, v.lines[channel]? = some ⟨some process, false, .connection number⟩ ∧
      v.IsNew process ∧
      Coherent (v.setLink number fun l => { l with phase := .ready, queue := [] }) pts := by
  -- the three hypotheses speak of one link and one line
  obtain ⟨link, ⟨_, closing, owner⟩, hlink, hline, howner, -, hlaunch⟩ := hlaunches
  obtain ⟨link', hlink', hphase⟩ := hstarting
  rw [hlink] at hlink'
  obtain rfl := Option.some.inj hlink'
  obtain ⟨hchannel, hclosing, hnew⟩ := hlaunch hphase
  obtain ⟨line', hline', hsome⟩ := hprocess
  rw [hline] at hline'
  obtain rfl := Option.some.inj hline'
  obtain ⟨process, rfl⟩ := Option.isSome_iff_exists.1 hsome
  obtain rfl : closing = false := hclosing
  obtain rfl : owner = .connection number := howner
  refine ⟨process, hline, hnew process rfl, ?_, ?_, h.existing, h.listener,
    h.unlimited.setLink number fun _ => rfl, fun point hpoint => ?_⟩
  · -- what is starting or ready now was so before
    intro other hlive
    refine h.kept other ?_
    by_cases heq : other = number
    · exact heq ▸ .inl ⟨link, hlink, hphase⟩
    · have hback : ∀ phase, (v.setLink number fun l => { l with phase := .ready, queue := [] }).IsIn
          phase other → v.IsIn phase other := by
        rintro phase ⟨link', hlink', hphase'⟩
        rw [View.links_setLink] at hlink'
        obtain ⟨link₀, hlink₀, rfl⟩ := Option.map_eq_some_iff.1 hlink'
        rw [if_neg (fun h => heq h.symm)] at hphase'
        exact ⟨link₀, hlink₀, hphase'⟩
      exact hlive.imp (hback _) (hback _)
  · intro other link' hlink' hphase'
    rw [View.links_setLink] at hlink'
    obtain ⟨link₀, hlink₀, rfl⟩ := Option.map_eq_some_iff.1 hlink'
    by_cases heq : number = other
    · subst heq
      rw [hlink] at hlink₀
      obtain rfl := Option.some.inj hlink₀
      rw [if_pos rfl]
      exact ⟨channel, process, hchannel, hline, (hnew process rfl).1⟩
    · rw [if_neg heq] at hphase' ⊢
      exact h.served other link₀ hlink₀ hphase'
  · refine (h.placed point hpoint).imp (fun _ hclosing => hclosing) (fun other leading hstarts => ?_)
      (fun other leading => ?_) fun _ hnone => hnone
    · have hstart := View.isStart_of_starts? hstarts
      rw [hno point hpoint] at hstart
      cases hstart
    · rintro ⟨link', line', hlink', hline', howner', hnot⟩
      have hne : number ≠ other := by
        rintro rfl
        rw [hlink] at hlink'
        obtain rfl := Option.some.inj hlink'
        exact hnot.1 hphase
      exact ⟨link', line', by rw [View.links_setLink, hlink', Option.map_some, if_neg hne], hline',
        howner', hnot⟩

end Coherent

/-- A connection is made, kept and started through a channel of its own. -/
def View.arise (v : View) (change : Keeper → Keeper) : View :=
  { v with
    keeper := change v.keeper
    links := v.links ++ [⟨.starting, some v.lines.length, [], none⟩]
    lines := v.lines ++ [⟨none, false, .connection v.links.length⟩] }

namespace Coherent

variable {v : View} {pts : List Point}

/-- A connection is made, kept and started, when none is kept. -/
theorem arise (h : Coherent v pts) (hnone : v.keeper.connection = none)
    (hno : ∀ point ∈ pts, point.isStart = false ∧ point.holds = false)
    (change : Keeper → Keeper) (hkept : (change v.keeper).connection = some v.links.length)
    (hlistener : (change v.keeper).listener = v.keeper.listener) :
    Coherent (v.arise change) pts ∧ (v.arise change).Launches v.links.length v.lines.length := by
  have hdead : ∀ number, ¬ v.IsLive number := fun number hlive => by
    have heq := h.kept number hlive
    rw [hnone] at heq
    cases heq
  have hlinks : ∀ (number : Nat) (link : Link), (v.arise change).links[number]? = some link →
      v.links[number]? = some link ∨ number = v.links.length :=
    fun _ _ hlink => (Tasks.getElem?_concat_cases hlink).imp_right And.left
  have hold : ∀ (number : Nat) (link : Link), v.links[number]? = some link →
      (v.arise change).links[number]? = some link :=
    fun _ _ hlink => Tasks.getElem?_append_of_some hlink _
  have hlines : ∀ (channel : Nat) (line : Line), v.lines[channel]? = some line →
      (v.arise change).lines[channel]? = some line :=
    fun _ _ hline => Tasks.getElem?_append_of_some hline _
  have hlink : (v.arise change).links[v.links.length]? =
      some ⟨.starting, some v.lines.length, [], none⟩ := by simp [View.arise]
  have hline : (v.arise change).lines[v.lines.length]? =
      some ⟨none, false, .connection v.links.length⟩ := by simp [View.arise]
  -- No connection was live, so the new one is the only one that the keeper has to keep.
  have hunlimited : (v.arise change).Unlimited := fun link hlink' =>
    (List.mem_append.1 hlink').elim (h.unlimited link) fun hnew => by rw [List.mem_singleton.1 hnew]
  refine ⟨⟨?_, ?_, h.existing, hlistener.trans h.listener, hunlimited, fun point hpoint => ?_⟩,
    ⟨_, _, hlink, hline, rfl, by simp, fun _ => ⟨rfl, rfl, by simp⟩⟩⟩
  · rintro number (⟨link, hlink', hphase⟩ | ⟨link, hlink', hphase⟩)
    · rcases hlinks number link hlink' with hlink' | rfl
      · exact absurd (.inl ⟨link, hlink', hphase⟩) (hdead number)
      · exact hkept
    · rcases hlinks number link hlink' with hlink' | rfl
      · exact absurd (.inr ⟨link, hlink', hphase⟩) (hdead number)
      · exact hkept
  · intro number link hlink' hphase
    rcases hlinks number link hlink' with hlink' | rfl
    · exact absurd (.inr ⟨link, hlink', hphase⟩) (hdead number)
    · rw [hlink] at hlink'
      obtain rfl := Option.some.inj hlink'
      cases hphase
  · refine (h.placed point hpoint).imp ?_ (fun number channel hstarts => ?_) ?_ ?_
    · rintro channel ⟨line, hline', hclosed⟩
      exact ⟨line, hlines channel line hline', hclosed⟩
    · have hstart := View.isStart_of_starts? hstarts
      rw [(hno point hpoint).1] at hstart
      cases hstart
    · rintro number channel ⟨link, line, hlink', hline', howner, hnot⟩
      exact ⟨link, line, hold number link hlink', hlines channel line hline', howner, hnot⟩
    · rintro ⟨config, rfl⟩ -
      have hholds := (hno _ hpoint).2
      cases hholds

end Coherent

end BasiliskServer.World
