import BasiliskServer.Proofs.World.Crashes

/-!
# What a process is told

Besides answers a process is told requests, which are numbered in order, and notifications
(`messages`), unless they cannot be written. They reach it over the channel that has it, while the
channel is open (`told_say_self`).

What a process should be told follows from what happens in a run. The notifications that are passed to
a connection wait until it has become ready or has been stopped (`accepted`), and once it is ready, what
is sent over it goes out at once (`issued`). `Tale` puts this together.
-/

namespace BasiliskServer.World

open Json (Value Fields)

/-! ## Messages -/

/-- Something that a process is to be told, answers apart, and how many levels are left when it is
written. -/
inductive Saying where
  /-- A request. -/
  | request (room : Option Nat) (method : String) (params : Value)
  /-- A notification. -/
  | notification (room : Option Nat) (method : String) (params : Value)

namespace Saying

/-- How many requests have been made after this. -/
def count (made : Nat) : Saying → Nat
  | .request _ _ _ => made + 1
  | .notification _ _ _ => made

/-- The message, after a number of requests, if it can be written. -/
def message? (made : Nat) : Saying → Option Fields
  | .request room method params => written? room (Rpc.requestMessage (.nat (made + 1)) method params)
  | .notification room method params => written? room (Rpc.notificationMessage method params)

end Saying

theorem written?_of_obstacle?_eq_none {room : Option Nat} {method : String} {params : Value}
    (h : obstacle? room (method, params) = none) :
    written? room (Rpc.notificationMessage method params) = some (Rpc.notificationMessage method params) :=
  if_pos (Option.isNone_iff_eq_none.2 h)

theorem written?_of_obstacle?_ne_none {room : Option Nat} {method : String} {params : Value}
    (h : obstacle? room (method, params) ≠ none) :
    written? room (Rpc.notificationMessage method params) = none :=
  if_neg fun hnone => h (Option.isNone_iff_eq_none.1 hnone)

/-- The messages that say something. Requests are numbered from one; one that cannot be written has a
number all the same. -/
def messages (made : Nat) : List Saying → List Fields
  | [] => []
  | saying :: rest => (saying.message? made).toList ++ messages (saying.count made) rest

/-- Notifications that can be written. -/
def notifications (entries : List (String × Value)) : List Saying :=
  entries.map fun entry => .notification none entry.1 entry.2

/-- How many requests have been made after all this. -/
def countAll (made : Nat) (sayings : List Saying) : Nat :=
  sayings.foldl Saying.count made

theorem messages_append (made : Nat) (sayings others : List Saying) :
    messages made (sayings ++ others) = messages made sayings ++ messages (countAll made sayings) others := by
  induction sayings generalizing made with
  | nil => rfl
  | cons saying rest ih => simp [messages, ih, countAll]

theorem countAll_append (made : Nat) (sayings others : List Saying) :
    countAll made (sayings ++ others) = countAll (countAll made sayings) others :=
  List.foldl_append

/-- Notifications are not numbered. -/
theorem countAll_notifications (made : Nat) (entries : List (String × Value)) :
    countAll made (notifications entries) = made := by
  induction entries with
  | nil => rfl
  | cons entry rest ih => exact ih

/-! ## Who is told -/

/-- A channel has a process. -/
def Shape.Carries (s : Shape) (channel process : Nat) : Prop :=
  ∃ track, s.tracks[channel]? = some track ∧ track.process = some process

/-- What is said over a channel reaches a process. -/
def Shape.Reaches (s : Shape) (channel process : Nat) : Prop :=
  ∃ track, s.tracks[channel]? = some track ∧ track.process = some process ∧ track.closing = false ∧
    process < s.scripts.length

/-- What a process was told, answers apart. -/
def Layout.told (l : Layout) (process : Nat) : List Fields :=
  l.spoken.filterMap fun entry => if entry.1 = process then some entry.2 else none

/-- How many requests were sent through a channel. -/
def Layout.asked (l : Layout) (channel : Nat) : Nat :=
  (l.wires[channel]?).elim 0 (·.methods.length)

variable {s s' : Shape} {channel process : Nat}

namespace Shape

theorem Reaches.carries (h : s.Reaches channel process) : s.Carries channel process := by
  obtain ⟨track, htrack, hprocess, -⟩ := h
  exact ⟨track, htrack, hprocess⟩

theorem Carries.unique {other : Nat} (h : s.Carries channel process) (h' : s.Carries channel other) :
    other = process := by
  obtain ⟨track, htrack, hprocess⟩ := h
  obtain ⟨same, hsame, hother⟩ := h'
  obtain rfl := Option.some.inj (htrack.symm.trans hsame)
  exact Option.some.inj (hother.symm.trans hprocess)

theorem IsOpen.exists_carries (h : s.IsOpen channel) : ∃ process, s.Carries channel process := by
  obtain ⟨track, htrack, -, hprocess⟩ := h
  obtain ⟨process, hprocess⟩ := Option.isSome_iff_exists.1 hprocess
  exact ⟨process, track, htrack, hprocess⟩

/-- What is said over an open channel reaches its process. -/
theorem IsOpen.reaches (h : s.IsOpen channel) (hcarries : s.Carries channel process)
    (hknown : process < s.scripts.length) : s.Reaches channel process := by
  obtain ⟨track, htrack, hopen, -⟩ := h
  obtain ⟨same, hsame, hprocess⟩ := hcarries
  obtain rfl := Option.some.inj (htrack.symm.trans hsame)
  exact ⟨track, htrack, hprocess, hopen, hknown⟩

end Shape

namespace Layout

variable {l l' : Layout}

theorem told_of_spoken (h : l'.spoken = l.spoken) (process : Nat) : l'.told process = l.told process := by
  rw [told, h, told]

theorem asked_of_wires (h : l'.wires = l.wires) (channel : Nat) : l'.asked channel = l.asked channel := by
  rw [asked, h, asked]

/-- What is said over a channel reaches the process that the channel has, if it is open. -/
theorem say_cases (l : Layout) (channel : Nat) (said : Fields) :
    (l.say channel (some said) = l ∧ ∀ process, ¬ l.shape.Reaches channel process) ∨
      ∃ process, l.shape.Reaches channel process ∧
        l.say channel (some said) = { l with spoken := l.spoken ++ [(process, said)] } := by
  have hreaches : ∀ {process}, l.shape.Reaches channel process ↔ ∃ pipe, l.pipes[channel]? = some pipe ∧
      pipe.process = some process ∧ pipe.closing = false ∧ process < l.scripts.length := by
    intro process
    simp only [Shape.Reaches, shape_tracks_getElem?, Option.map_eq_some_iff]
    constructor
    · rintro ⟨_, ⟨pipe, hpipe, rfl⟩, h⟩
      exact ⟨pipe, hpipe, h⟩
    · rintro ⟨pipe, hpipe, h⟩
      exact ⟨_, ⟨pipe, hpipe, rfl⟩, h⟩
  -- Said of pipes, to reach a process is just what `say` and `tell` look for.
  simp only [hreaches]
  unfold say
  split
  · rename_i process _ _ _ hpipe
    unfold tell
    split
    · rename_i hlt
      exact .inr ⟨process, ⟨_, hpipe, rfl, rfl, hlt⟩, rfl⟩
    · rename_i hge
      refine .inl ⟨rfl, ?_⟩
      rintro other ⟨pipe, hpipe', hprocess, -, hlt⟩
      obtain rfl := Option.some.inj (hpipe.symm.trans hpipe')
      obtain rfl := Option.some.inj hprocess
      exact hge hlt
  · rename_i hnone
    refine .inl ⟨rfl, ?_⟩
    rintro other ⟨⟨process, closing, owner, requests, answers⟩, hpipe, hprocess, hopen, -⟩
    obtain rfl : process = some other := hprocess
    obtain rfl : closing = false := hopen
    exact hnone _ _ _ _ hpipe

theorem told_say_self (h : l.shape.Reaches channel process) (said : Option Fields) :
    (l.say channel said).told process = l.told process ++ said.toList := by
  cases said with
  | none => rw [say_none, Option.toList_none, List.append_nil]
  | some said =>
    rcases l.say_cases channel said with ⟨-, hnone⟩ | ⟨other, hother, hsay⟩
    · exact absurd h (hnone process)
    · obtain rfl := h.carries.unique hother.carries
      rw [hsay]
      simp [told]

theorem told_say_other (h : ¬ l.shape.Reaches channel process) (said : Option Fields) :
    (l.say channel said).told process = l.told process := by
  cases said with
  | none => rw [say_none]
  | some said =>
    rcases l.say_cases channel said with ⟨hsay, -⟩ | ⟨other, hother, hsay⟩
    · rw [hsay]
    · rw [hsay]
      have hne : other ≠ process := by
        rintro rfl
        exact h hother
      simp [told, hne]

theorem told_sayAll_self (h : l.shape.Reaches channel process) (made : Nat)
    (queue : List (String × Value)) :
    (l.sayAll channel queue).told process = l.told process ++ messages made (notifications queue) := by
  induction queue generalizing l with
  | nil => exact (List.append_nil _).symm
  | cons entry rest ih =>
    have h' : (l.tellOf channel entry.1 entry.2).shape.Reaches channel process := by rwa [shape_tellOf]
    show ((l.tellOf channel entry.1 entry.2).sayAll channel rest).told process = _
    rw [ih h', tellOf, told_say_self h, List.append_assoc]
    rfl

theorem told_sayAll_other (h : ¬ l.shape.Reaches channel process) (queue : List (String × Value)) :
    (l.sayAll channel queue).told process = l.told process := by
  induction queue generalizing l with
  | nil => rfl
  | cons entry rest ih =>
    have h' : ¬ (l.tellOf channel entry.1 entry.2).shape.Reaches channel process := by rwa [shape_tellOf]
    show ((l.tellOf channel entry.1 entry.2).sayAll channel rest).told process = _
    rw [ih h', tellOf, told_say_other h]

/-- A request has the number that follows those of the requests made before. -/
theorem ask_cases (l : Layout) (room : Option Nat) (channel : Nat) (method : String) (params : Value)
    (answer : Nat) :
    (l.pipes[channel]? = none ∧ l.ask room channel method params answer = l) ∨
      ∃ listed : Layout, listed.shape = l.shape ∧ listed.spoken = l.spoken ∧ listed.scripts = l.scripts ∧
        l.ask room channel method params answer =
          listed.say channel ((Saying.request room method params).message? (l.asked channel)) := by
  unfold ask
  cases hpipe : l.pipes[channel]? with
  | none => exact .inl ⟨rfl, rfl⟩
  | some pipe =>
    have hasked : l.asked channel = pipe.requests.sent.length := by
      simp [asked, wires_getElem?, hpipe, Pipe.wire]
    refine .inr ⟨l.list channel method answer, shape_list .., rfl, rfl, ?_⟩
    rw [hasked]
    rfl

theorem told_ask_self (h : l.shape.Reaches channel process) (room : Option Nat) (method : String)
    (params : Value) (answer : Nat) : (l.ask room channel method params answer).told process =
      l.told process ++ messages (l.asked channel) [.request room method params] := by
  rcases l.ask_cases room channel method params answer with
    ⟨hnone, -⟩ | ⟨listed, hshape, hspoken, -, hask⟩
  · obtain ⟨track, htrack, -⟩ := h
    rw [shape_tracks_getElem?, hnone] at htrack
    cases htrack
  · rw [hask, told_say_self (hshape ▸ h), told_of_spoken hspoken, messages, messages, List.append_nil]

theorem told_ask_other (h : ¬ l.shape.Reaches channel process) (room : Option Nat) (method : String)
    (params : Value) (answer : Nat) :
    (l.ask room channel method params answer).told process = l.told process := by
  rcases l.ask_cases room channel method params answer with ⟨-, hask⟩ | ⟨listed, hshape, hspoken, -, hask⟩
  · rw [hask]
  · rw [hask, told_say_other (hshape ▸ h), told_of_spoken hspoken]

theorem asked_ask_self {track : Track} (h : l.shape.tracks[channel]? = some track) (room : Option Nat)
    (method : String) (params : Value) (answer : Nat) :
    (l.ask room channel method params answer).asked channel = l.asked channel + 1 := by
  rw [shape_tracks_getElem?] at h
  obtain ⟨pipe, hpipe, -⟩ := Option.map_eq_some_iff.1 h
  simp [asked, wires_getElem?, hpipe, Wiring.ask]

/-- Whoever is told something is a process that there is. -/
def IsKnown (l : Layout) : Prop :=
  ∀ entry ∈ l.spoken, entry.1 < l.scripts.length

namespace IsKnown

theorem of_spoken (h : l.IsKnown) (hspoken : l'.spoken = l.spoken)
    (hscripts : l.scripts.length ≤ l'.scripts.length) : l'.IsKnown := by
  intro entry hentry
  rw [hspoken] at hentry
  exact Nat.lt_of_lt_of_le (h entry hentry) hscripts

theorem say (h : l.IsKnown) (channel : Nat) (said : Option Fields) : (l.say channel said).IsKnown := by
  cases said with
  | none => rwa [say_none]
  | some said =>
    rcases l.say_cases channel said with ⟨hsay, -⟩ | ⟨process, ⟨_, _, _, _, hlt⟩, hsay⟩
    · rwa [hsay]
    · rw [hsay]
      intro entry hentry
      rcases List.mem_append.1 hentry with hold | hnew
      · exact h entry hold
      · rw [List.mem_singleton.1 hnew]
        exact hlt

theorem sayAll (h : l.IsKnown) (channel : Nat) (queue : List (String × Value)) :
    (l.sayAll channel queue).IsKnown := by
  induction queue generalizing l with
  | nil => exact h
  | cons entry rest ih => exact ih (h.say _ _)

theorem ask (h : l.IsKnown) (room : Option Nat) (channel : Nat) (method : String) (params : Value)
    (answer : Nat) : (l.ask room channel method params answer).IsKnown := by
  rcases l.ask_cases room channel method params answer with ⟨-, hask⟩ |
    ⟨listed, -, hspoken, hscripts, hask⟩
  · rwa [hask]
  · rw [hask]
    exact IsKnown.say (h.of_spoken hspoken (Nat.le_of_eq (congrArg _ hscripts.symm))) _ _

/-- A process that has just been started was told nothing. -/
theorem told_eq_nil (h : l.IsKnown) (hge : l.scripts.length ≤ process) : l.told process = [] := by
  refine List.filterMap_eq_nil_iff.2 fun entry hentry => if_neg fun heq => ?_
  have hlt := h entry hentry
  omega

end IsKnown

theorem Subsides.spoken_eq {next : Next} (h : l.Subsides channel l' next) :
    l'.spoken = l.spoken ∧ l'.scripts = l.scripts := by
  cases h <;> exact ⟨rfl, rfl⟩

theorem Closes.spoken_eq {f : Facts} {next : Next} (h : l.Closes f channel l' next) :
    l'.spoken = l.spoken ∧ l'.scripts = l.scripts := by
  cases h with
  | bare => exact ⟨rfl, rfl⟩
  | subsides _ _ h => exact h.spoken_eq
  | asks => exact ⟨rfl, rfl⟩

theorem Loses.spoken_eq {code : Option Int} (h : l.Loses channel code l') :
    l'.spoken = l.spoken ∧ l'.scripts = l.scripts := by
  have hreject : ∀ (l : Layout) (channel : Option Nat) (failure : Failure),
      (l.rejectOn channel failure).spoken = l.spoken ∧ (l.rejectOn channel failure).scripts = l.scripts := by
    intro l channel failure
    cases channel <;> exact ⟨rfl, rfl⟩
  cases h with
  | expected => exact ⟨rfl, rfl⟩
  | unheard => exact ⟨rfl, rfl⟩
  | stopping => exact hreject _ _ _
  | stops => exact hreject _ _ _

end Layout

/-! ## What a process should be told -/

/-- What a process was told, answers apart. -/
def utterances (w : World) (process : Nat) : List Fields :=
  w.record.handed.filterMap fun entry => if entry.1 = process then entry.2.utterance? else none

theorem utterances_eq (w : World) (process : Nat) : w.utterances process = w.layout.told process := by
  simp only [utterances, Layout.told, layout, spoken, List.filterMap_filterMap]
  refine List.filterMap_congr fun entry _ => ?_
  cases entry.2.utterance? <;> simp

/-- What waits is given up, or goes out: the connection is ready, it has been stopped, or somebody stops
it where it is stopped. -/
def clearsQueue (w : World) (incident : Incident) : Bool :=
  match (w.undergo .connections incident).phaseOf? 0 with
  | some .ready => true
  | some .stopped => w.phaseOf? 0 ≠ some .stopped || (w.begins? incident matches some (.disconnect 0))
  | _ => false

/-- The notification that has to wait, if one is passed to a connection that is stopped or starting. While
a task runs, nothing is passed on. -/
def accepts? (w : World) : Incident → Option (String × Value)
  | .notify 0 method params =>
    match w.tasks.running, w.phaseOf? 0 with
    | none, some .stopped | none, some .starting => some (method, params)
    | _, _ => none
  | _ => none

/-- The notifications that wait after a run, if these waited before. -/
def accepted : World → List (String × Value) → List Incident → List (String × Value)
  | _, waiting, [] => waiting
  | w, waiting, incident :: rest =>
    accepted (w.undergo .connections incident)
      (if w.clearsQueue incident then [] else waiting ++ (w.accepts? incident).toList) rest

/-- How many levels are left when something is written over the connection. -/
def room (w : World) : Option Nat :=
  (w.connections[0]?).bind (·.room)

/-- What is to be sent over the connection, if it is ready. -/
def issue? (w : World) : Incident → Option Saying
  | .notify 0 method params =>
    if w.tasks.running.isNone then some (.notification w.room method params) else none
  | .step =>
    match w.acting? with
    | some (.start (.ask 0 method params _), .ok _)
    | some (.connection (.awaited 0 method params _), .ok (.bool true)) =>
      some (.request w.room method params)
    | _ => none
  | _ => none

/-- What is to be sent over the connection as long as it is ready. -/
def issued : World → List Incident → List Saying
  | _, [] => []
  | w, incident :: rest =>
    if w.phaseOf? 0 = some .ready then
      (w.issue? incident).toList ++ issued (w.undergo .connections incident) rest
    else []

/-- The connection is ready all the time. -/
def StaysReady : World → List Incident → Prop
  | w, [] => w.phaseOf? 0 = some .ready
  | w, incident :: rest =>
    w.phaseOf? 0 = some .ready ∧ StaysReady (w.undergo .connections incident) rest

/-- The connection is about to become ready: its process has answered the first request. -/
def Welcomes (w : World) (process : Nat) : Prop :=
  ∃ channel promise answer c, w.acting? = some (.connection (.greeted 0 channel promise), .ok answer) ∧
    w.phaseOf? 0 = some .starting ∧ w.channels[channel]? = some c ∧ c.process = some process ∧
    c.requests.outcome? 1 = some (.ok answer.value)

/-- What is said to a process that has answered the first request: what has waited, up to the first
notification that cannot be written, and what is to be sent later. -/
def welcomed (room : Option Nat) (params : Value) (waiting : List (String × Value))
    (sent : List Saying) : List Saying :=
  .request none "initialize" params :: .notification none "initialized" (.object []) ::
    notifications (writable room waiting) ++ sent

/-- What is said to a process when its connection is stopped. -/
def farewell : List Saying :=
  [.request none "shutdown" .null, .notification none "exit" .null]

/-- What a process is told in a run that begins with a fresh connection. -/
inductive Tale (fresh : World) (incidents : List Incident) (process : Nat) : List Saying → Prop where
  /-- It is told nothing. -/
  | silent : Tale fresh incidents process []
  /-- It is told the first request only. -/
  | greeted (params : Value) : Tale fresh incidents process [.request none "initialize" params]
  /-- It has answered the first request. -/
  | welcomed (params : Value) {earlier later : List Incident} {parting : List Saying}
    (hrun : incidents = earlier ++ .step :: later)
    (hwelcomes : (fresh.undergoAll .connections earlier).Welcomes process)
    (hparting : parting <+: farewell) :
    Tale fresh incidents process
      (welcomed (fresh.undergoAll .connections earlier).room params (fresh.accepted [] earlier)
        (((fresh.undergoAll .connections earlier).undergo .connections .step).issued later) ++ parting)

variable {w : World} {before after : List Incident} {incident : Incident}

theorem accepted_append {waiting : List (String × Value)} : w.accepted waiting (before ++ after) =
    (w.undergoAll .connections before).accepted (w.accepted waiting before) after := by
  induction before generalizing w waiting with
  | nil => rfl
  | cons first others ih => exact ih

theorem StaysReady.phase (h : w.StaysReady before) :
    (w.undergoAll .connections before).phaseOf? 0 = some .ready := by
  induction before generalizing w with
  | nil => exact h
  | cons first others ih => exact ih h.2

theorem staysReady_append : w.StaysReady (before ++ [incident]) ↔ w.StaysReady before ∧
    ((w.undergoAll .connections before).undergo .connections incident).phaseOf? 0 = some .ready := by
  induction before generalizing w with
  | nil => rfl
  | cons first others ih =>
    simp only [List.cons_append, StaysReady, ih, and_assoc]
    rfl

theorem StaysReady.of_append (h : w.StaysReady (before ++ after)) : w.StaysReady before := by
  induction before generalizing w with
  | nil =>
    cases after with
    | nil => exact h
    | cons incident rest => exact h.1
  | cons first others ih => exact ⟨h.1, ih h.2⟩

theorem issued_append (h : w.StaysReady before) : w.issued (before ++ after) =
    w.issued before ++ (w.undergoAll .connections before).issued after := by
  induction before generalizing w with
  | nil => rfl
  | cons first others ih =>
    simp only [List.cons_append, issued, if_pos h.1, ih h.2, List.append_assoc]
    rfl

/-- Nothing is sent any more once the connection is not ready. -/
theorem issued_append_of_not (h : ¬ w.StaysReady before) : w.issued (before ++ after) = w.issued before := by
  induction before generalizing w with
  | nil =>
    cases after with
    | nil => rfl
    | cons incident rest => exact if_neg h
  | cons first others ih =>
    by_cases hready : w.phaseOf? 0 = some .ready
    · simp only [List.cons_append, issued, if_pos hready]
      rw [ih fun hrest => h ⟨hready, hrest⟩]
    · simp only [List.cons_append, issued, if_neg hready]

theorem issued_singleton (h : w.phaseOf? 0 = some .ready) :
    w.issued [incident] = (w.issue? incident).toList := by
  simp [issued, h]

end BasiliskServer.World
