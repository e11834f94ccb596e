import BasiliskServer.Proofs.Diagnostics.Store
import Mathlib.Data.List.Induction

/-!
# Markers of checks and reports

Both sides take a marker before they look for problems, and what they find is stored if the marker
is still current. Over every run of the store:

* as long as a document is not closed, a check is stored exactly if the document was neither opened
  again nor changed since its marker was taken; as long as it is neither opened again nor closed, a
  report is stored exactly if no later report got a marker and the problems of the companion process
  were not cleared (`guard_within_life`),
* the counters begin anew when a document is opened, so a marker from an earlier life of a document
  is accepted again as soon as the counter has come to the same number (`commit_outlived_iff`).

Everything follows from what one event does to the two counters of a document (`beginOwn_step`,
`generation?_step`).
-/

namespace BasiliskServer.Diagnostics

open Json (Value)
open Wire (Diagnostic)

/-! ## Events of one document -/

namespace Event

/-- Whether an event opens a document. -/
def opens (uri : String) : Event → Bool
  | .opened address _ _ _ => address = uri
  | _ => false

/-- Whether an event changes a document. -/
def changes (uri : String) : Event → Bool
  | .changed address _ _ => address = uri
  | _ => false

/-- Whether an event closes a document. -/
def closes (uri : String) : Event → Bool
  | .closed address => address = uri
  | _ => false

/-- Whether an event counts as an edit of a document that is open. -/
def edits (uri : String) (event : Event) : Bool :=
  event.opens uri || event.changes uri

theorem exists_eq_opened {event : Event} {uri : String} (h : event.opens uri = true) :
    ∃ text language version, event = .opened uri text language version := by
  cases event with
  | opened address text language version =>
    obtain rfl : address = uri := by simpa [opens] using h
    exact ⟨text, language, version, rfl⟩
  | _ => simp [opens] at h

end Event

/-- Whether an event gives the companion process a new marker for a document that is open: a report
that is not dropped, or the clearing of all its problems. -/
def Store.renews (store : Store) (uri : String) : Event → Bool
  | .beginPush address version => address = uri && (store.beginPush address version).2.isSome
  | .clearCompanion => true
  | _ => false

/-- How many events of a run give the companion process a new marker for a document. -/
def Store.renewals (store : Store) (uri : String) : List Event → Nat
  | [] => 0
  | event :: rest =>
    (if store.renews uri event then 1 else 0) + (store.step event).1.renewals uri rest

/-! ## One event -/

namespace Store

/-- What an event does to the marker of the server's own checks. -/
theorem beginOwn_step (store : Store) (event : Event) (uri : String) :
    (store.step event).1.beginOwn uri =
      if event.closes uri then none
      else if event.opens uri then some (((store.beginOwn uri).map (· + 1)).getD 0)
      else if event.changes uri then (store.beginOwn uri).map (· + 1)
      else store.beginOwn uri := by
  cases event with
  | opened address text language version =>
    by_cases h : address = uri <;>
      simp [step, beginOwn, get?_opened, Event.opens, Event.closes, Event.changes, h,
        Function.comp_def]
  | changed address text version =>
    by_cases h : address = uri <;>
      simp [step, beginOwn, get?_changed, Event.opens, Event.closes, Event.changes, h,
        Function.comp_def]
  | closed address =>
    by_cases h : address = uri <;>
      simp [step, beginOwn, Event.opens, Event.closes, Event.changes, h]
  | clearCompanion =>
    simp [step, beginOwn, Event.opens, Event.closes, Event.changes, Function.comp_def]
  | commitOwn address version diagnostics limit =>
    exact map_get?_commitOwn store (fun _ _ => rfl) address version diagnostics limit uri
  | commitPush address generation diagnostics shown limit =>
    exact map_get?_commitPush store (fun _ _ => rfl) address generation diagnostics shown limit uri
  | beginPush address version =>
    exact map_get?_beginPush store (fun _ _ => rfl) address version uri
  | beginOwn | isCurrentPush | fused | publish => rfl

/-- What an event does to the marker of the companion process. -/
theorem generation?_step (store : Store) (event : Event) (uri : String) :
    (store.step event).1.generation? uri =
      if event.closes uri then none
      else if event.opens uri then some 0
      else if store.renews uri event then (store.generation? uri).map (· + 1)
      else store.generation? uri := by
  cases event with
  | opened address text language version =>
    by_cases h : address = uri <;>
      simp [step, generation?, get?_opened, Event.opens, Event.closes, renews, h]
  | changed address text version =>
    by_cases h : address = uri <;>
      simp [step, generation?, get?_changed, Event.opens, Event.closes, renews, h,
        Function.comp_def]
  | closed address =>
    by_cases h : address = uri <;>
      simp [step, generation?, Event.opens, Event.closes, renews, h]
  | clearCompanion =>
    simp [step, generation?, Event.opens, Event.closes, renews, Function.comp_def]
  | commitOwn address version diagnostics limit =>
    exact map_get?_commitOwn store (fun _ _ => rfl) address version diagnostics limit uri
  | commitPush address generation diagnostics shown limit =>
    exact map_get?_commitPush store (fun _ _ => rfl) address generation diagnostics shown limit uri
  | beginPush address version =>
    -- A report that is dropped leaves the store as it is; any other one counts for its document.
    obtain hdrop | ⟨document, hget, hnext⟩ := store.beginPush_eq address version
    · simp [step, Event.opens, Event.closes, renews, hdrop]
    · have haddress := uri_of_get? hget
      by_cases h : address = uri
      · subst h
        simp [step, generation?, Event.opens, Event.closes, renews, hnext, hget, haddress]
      · simp [step, generation?, Event.opens, Event.closes, renews, hnext, haddress, h]
  | beginOwn | isCurrentPush | fused | publish => rfl

/-- No event stores an address twice. -/
theorem Distinct.step {store : Store} (h : store.Distinct) (event : Event) :
    (store.step event).1.Distinct := by
  cases event with
  | opened => exact h.put _
  | changed address text version =>
    simp only [Store.step, changed]
    split
    · exact h
    · exact h.put _
  | closed uri => exact h.closed uri
  | clearCompanion => exact h.clearCompanion
  | commitOwn address version diagnostics limit =>
    simp only [Store.step, commitOwn]
    split
    · exact h
    · split
      · exact h.put _
      · exact h
  | commitPush address generation diagnostics shown limit =>
    simp only [Store.step, commitPush]
    split
    · exact h
    · split
      · exact h.put _
      · exact h
  | beginPush address version =>
    obtain hdrop | ⟨document, -, hnext⟩ := store.beginPush_eq address version
    · simpa only [Store.step, hdrop] using h
    · simpa only [Store.step, hnext] using h.put _
  | beginOwn | isCurrentPush | fused | publish => exact h

/-! ## Runs -/

theorem run_append (store : Store) (before after : List Event) :
    store.run (before ++ after) = (store.run before).run after := by
  induction before generalizing store with
  | nil => rfl
  | cons event before ih => exact ih _

theorem Distinct.run {store : Store} (h : store.Distinct) (events : List Event) :
    (store.run events).Distinct := by
  induction events generalizing store with
  | nil => exact h
  | cons event events ih => exact ih (h.step event)

/-- Over a run that does not close a document, its marker counts the edits. -/
theorem beginOwn_run {store : Store} {uri : String} {version : Nat}
    (hbegin : store.beginOwn uri = some version) {events : List Event}
    (hclosed : ∀ event ∈ events, event.closes uri = false) :
    (store.run events).beginOwn uri = some (version + events.countP (·.edits uri)) := by
  induction events generalizing store version with
  | nil => simpa [run] using hbegin
  | cons event events ih =>
    rw [List.forall_mem_cons] at hclosed
    have hstep := store.beginOwn_step event uri
    rw [hclosed.1, hbegin] at hstep
    rw [run, List.countP_cons]
    by_cases hedits : event.edits uri = true
    · -- Opening the document again counts as one edit, just like changing it.
      have hnext : (store.step event).1.beginOwn uri = some (version + 1) := by
        rw [hstep]
        cases hopens : event.opens uri with
        | true => simp
        | false =>
          have hchanges : event.changes uri = true := by simpa [Event.edits, hopens] using hedits
          simp [hchanges]
      rw [ih hnext hclosed.2, if_pos hedits]
      congr 1
      omega
    · have hnone : event.opens uri = false ∧ event.changes uri = false := by
        simpa [Event.edits] using hedits
      have hnext : (store.step event).1.beginOwn uri = some version := by
        rw [hstep]
        simp [hnone]
      rw [ih hnext hclosed.2, if_neg hedits]
      congr 1

/-- Over a run that neither opens nor closes a document, the marker of the companion process counts
the renewals. -/
theorem generation?_run {store : Store} {uri : String} {generation : Nat}
    (hbegin : store.generation? uri = some generation) {events : List Event}
    (hkept : ∀ event ∈ events, event.opens uri = false ∧ event.closes uri = false) :
    (store.run events).generation? uri = some (generation + store.renewals uri events) := by
  induction events generalizing store generation with
  | nil => simpa [run, renewals] using hbegin
  | cons event events ih =>
    rw [List.forall_mem_cons] at hkept
    have hstep := store.generation?_step event uri
    rw [hkept.1.1, hkept.1.2, hbegin] at hstep
    rw [run, renewals]
    cases hrenews : store.renews uri event with
    | true =>
      have hnext : (store.step event).1.generation? uri = some (generation + 1) := by
        rw [hstep]
        simp [hrenews]
      rw [ih hnext hkept.2, if_pos rfl, Nat.add_assoc]
    | false =>
      have hnext : (store.step event).1.generation? uri = some generation := by
        rw [hstep]
        simp [hrenews]
      rw [ih hnext hkept.2]
      simp

theorem generation?_of_beginPush {store : Store} {uri : String} {version : Option Int}
    {generation : Nat} (h : (store.beginPush uri version).2 = some generation) :
    (store.beginPush uri version).1.generation? uri = some generation := by
  obtain hdrop | ⟨document, hget, hnext⟩ := store.beginPush_eq uri version
  · rw [hdrop] at h
    exact nomatch h
  · rw [hnext] at h ⊢
    obtain rfl := Option.some.inj h
    simp [generation?, uri_of_get? hget]

/-- A run renews the marker of a document exactly if a report gets a marker or the problems of the
companion process are cleared. -/
theorem renewals_eq_zero_iff (store : Store) (uri : String) (events : List Event) :
    store.renewals uri events = 0 ↔
      .clearCompanion ∉ events ∧
        ∀ before version after, events = before ++ .beginPush uri version :: after →
          ((store.run before).beginPush uri version).2 = none := by
  induction events generalizing store with
  | nil => simp [renewals]
  | cons event events ih =>
    rw [renewals, Nat.add_eq_zero_iff, ih]
    have hnone : (if store.renews uri event then 1 else 0) = 0 ↔ event ≠ .clearCompanion ∧
        ∀ version, event = .beginPush uri version → (store.beginPush uri version).2 = none := by
      cases event with
      | beginPush address version =>
        by_cases h : address = uri
        · subst h
          simp [renews]
        · simp [renews, h]
      | _ => simp [renews]
    rw [hnone]
    -- A report in the run is the first event, or one of the rest with the first event before it.
    constructor
    · rintro ⟨⟨hclear, hfirst⟩, hclears, hlater⟩
      refine ⟨by simp [Ne.symm hclear, hclears], ?_⟩
      intro before version after heq
      cases before with
      | nil => exact hfirst version (List.cons.inj heq).1
      | cons first before =>
        obtain ⟨rfl, hrest⟩ := List.cons.inj heq
        exact hlater before version after hrest
    · rintro ⟨hclears, hall⟩
      rw [List.mem_cons, not_or] at hclears
      refine ⟨⟨Ne.symm hclears.1, ?_⟩, hclears.2, ?_⟩
      · rintro version rfl
        exact hall [] version events rfl
      · rintro before version after rfl
        exact hall (event :: before) version after rfl

end Store

/-- The store after a run. -/
def storeAfter (events : List Event) : Store :=
  ({} : Store).run events

theorem storeAfter_append (before after : List Event) :
    storeAfter (before ++ after) = (storeAfter before).run after :=
  Store.run_append {} before after

theorem distinct_storeAfter (events : List Event) : (storeAfter events).Distinct :=
  have hempty : Store.Distinct {} := List.nodup_nil
  hempty.run events

/-! ## Commits -/

/-- What an event answers after a run. -/
def replyAfter (events : List Event) (event : Event) : Reply :=
  ((storeAfter events).step event).2.reply

section Commit

variable {events : List Event} {uri : String} {diagnostics : List Diagnostic} {limit : Int}

theorem commitOwn_accepted_iff {version : Nat} :
    replyAfter events (.commitOwn uri version diagnostics limit) = .verdict true ↔
      (storeAfter events).beginOwn uri = some version := by
  constructor
  · intro h
    by_contra hne
    have hstale : ((storeAfter events).beginOwn uri).map Int.ofNat ≠ some (version : Int) := by
      intro hmap
      obtain ⟨number, hbegin, hnumber⟩ := Option.map_eq_some_iff.mp hmap
      exact hne (Int.ofNat.inj hnumber ▸ hbegin)
    simp [replyAfter, Store.step, Store.commitOwn_of_not_current hstale] at h
  · intro h
    obtain ⟨document, hget, rfl⟩ := Option.map_eq_some_iff.mp h
    simp [replyAfter, Store.step, Store.commitOwn_of_current hget]

theorem commitPush_accepted_iff {generation : Nat} {shown : Bool} :
    replyAfter events (.commitPush uri generation diagnostics shown limit) = .verdict true ↔
      (storeAfter events).generation? uri = some generation := by
  constructor
  · intro h
    by_contra hne
    have hstale : ((storeAfter events).generation? uri).map Int.ofNat ≠
        some (generation : Int) := by
      intro hmap
      obtain ⟨number, hbegin, hnumber⟩ := Option.map_eq_some_iff.mp hmap
      exact hne (Int.ofNat.inj hnumber ▸ hbegin)
    simp [replyAfter, Store.step, Store.commitPush_of_not_current hstale] at h
  · intro h
    obtain ⟨document, hget, rfl⟩ := Option.map_eq_some_iff.mp h
    simp [replyAfter, Store.step, Store.commitPush_of_current hget]

end Commit

/-- A commit has one of two results. If it is accepted, one document is changed and something is
shown; if it is not, the store stays as it is and nothing is shown. -/
def Commits (store : Store) (uri : String) (change : Document → Document)
    (shown : Document → List Publication) (result : Store × Effect) : Prop :=
  (result.2.reply = .verdict true ∧
      ∃ document, store.get? uri = some document ∧ result.1 = store.alter uri change ∧
        result.2.shown = shown document) ∨
    (result.2.reply = .verdict false ∧ result.1 = store ∧ result.2.shown = [])

section Commits

variable {store : Store} (hdistinct : store.Distinct) (uri : String)
  (diagnostics : List Diagnostic) (limit : Int)
include hdistinct

theorem commits_own (version : Int) :
    Commits store uri ({ · with own := diagnostics })
      (fun document => [⟨uri, fuse document.companion diagnostics limit⟩])
      (store.step (.commitOwn uri version diagnostics limit)) := by
  by_cases hcurrent : (store.beginOwn uri).map Int.ofNat = some version
  · obtain ⟨number, hbegin, rfl⟩ := Option.map_eq_some_iff.mp hcurrent
    obtain ⟨document, hget, rfl⟩ := Option.map_eq_some_iff.mp hbegin
    have hput : store.put { document with own := diagnostics } =
        store.alter uri ({ · with own := diagnostics }) :=
      hdistinct.put_eq_alter hget ({ · with own := diagnostics }) fun _ => rfl
    rw [Store.step, Int.ofNat_eq_natCast, Store.commitOwn_of_current hget, hput]
    exact .inl ⟨rfl, document, hget, rfl, rfl⟩
  · rw [Store.step, Store.commitOwn_of_not_current hcurrent]
    exact .inr ⟨rfl, rfl, rfl⟩

theorem commits_push (generation : Int) (shown : Bool) :
    Commits store uri ({ · with companion := diagnostics })
      (fun document => if shown then [⟨uri, fuse diagnostics document.own limit⟩] else [])
      (store.step (.commitPush uri generation diagnostics shown limit)) := by
  by_cases hcurrent : (store.generation? uri).map Int.ofNat = some generation
  · obtain ⟨number, hbegin, rfl⟩ := Option.map_eq_some_iff.mp hcurrent
    obtain ⟨document, hget, rfl⟩ := Option.map_eq_some_iff.mp hbegin
    have hput : store.put { document with companion := diagnostics } =
        store.alter uri ({ · with companion := diagnostics }) :=
      hdistinct.put_eq_alter hget ({ · with companion := diagnostics }) fun _ => rfl
    rw [Store.step, Int.ofNat_eq_natCast, Store.commitPush_of_current hget, hput]
    exact .inl ⟨rfl, document, hget, rfl, rfl⟩
  · rw [Store.step, Store.commitPush_of_not_current hcurrent]
    exact .inr ⟨rfl, rfl, rfl⟩

end Commits

/-! ## Within one life of a document -/

/-- A marker is current as long as nothing makes it stale. As long as a document is not closed, a
check is stored exactly if the document was neither opened again nor changed since its marker was
taken. As long as the document is neither opened nor closed, a report is stored exactly if no later
report got a marker and the problems of the companion process were not cleared. What is stored
replaces the list of its side and is shown together with the other list, if it is to be shown; what
is not stored changes nothing. -/
theorem guard_within_life (uri : String) :
    (∀ before middle version diagnostics limit,
      replyAfter before (.beginOwn uri) = .marker (some version) →
      (∀ event ∈ middle, event.closes uri = false) →
      (replyAfter (before ++ .beginOwn uri :: middle) (.commitOwn uri version diagnostics limit) =
          .verdict true ↔
        ∀ event ∈ middle, event.opens uri = false ∧ event.changes uri = false)) ∧
    (∀ before about middle generation diagnostics shown limit,
      replyAfter before (.beginPush uri about) = .marker (some generation) →
      (∀ event ∈ middle, event.opens uri = false ∧ event.closes uri = false) →
      (replyAfter (before ++ .beginPush uri about :: middle)
          (.commitPush uri generation diagnostics shown limit) = .verdict true ↔
        .clearCompanion ∉ middle ∧
          ∀ earlier version later, middle = earlier ++ .beginPush uri version :: later →
            replyAfter (before ++ .beginPush uri about :: earlier) (.beginPush uri version) =
              .marker none)) ∧
    (∀ events version diagnostics limit,
      Commits (storeAfter events) uri ({ · with own := diagnostics })
        (fun document => [⟨uri, fuse document.companion diagnostics limit⟩])
        ((storeAfter events).step (.commitOwn uri version diagnostics limit))) ∧
    ∀ events generation diagnostics shown limit,
      Commits (storeAfter events) uri ({ · with companion := diagnostics })
        (fun document => if shown then [⟨uri, fuse diagnostics document.own limit⟩] else [])
        ((storeAfter events).step (.commitPush uri generation diagnostics shown limit)) := by
  -- which results are taken, of one's own check and of a report; then what taking them does
  refine ⟨?_, ?_, ?_, ?_⟩
  · intro before middle version diagnostics limit hbegin hclosed
    have hbegin : (storeAfter before).beginOwn uri = some version := Reply.marker.inj hbegin
    have hafter : (storeAfter (before ++ .beginOwn uri :: middle)).beginOwn uri =
        some (version + middle.countP (·.edits uri)) := by
      rw [storeAfter_append]
      exact (Store.beginOwn_run hbegin hclosed : ((storeAfter before).run middle).beginOwn uri = _)
    rw [commitOwn_accepted_iff, hafter]
    -- versions only grow, by one at every edit: they agree exactly if there was none
    have hcount : middle.countP (·.edits uri) = 0 ↔
        ∀ event ∈ middle, event.opens uri = false ∧ event.changes uri = false := by
      simp [List.countP_eq_zero, Event.edits]
    rw [← hcount, Option.some.injEq]
    omega
  · intro before about middle generation diagnostics shown limit hbegin hkept
    have hbegin : ((storeAfter before).beginPush uri about).2 = some generation :=
      Reply.marker.inj hbegin
    have hmarked := Store.generation?_of_beginPush hbegin
    have hafter : (storeAfter (before ++ .beginPush uri about :: middle)).generation? uri =
        some (generation + ((storeAfter before).beginPush uri about).1.renewals uri middle) := by
      rw [storeAfter_append]
      exact Store.generation?_run hmarked hkept
    rw [commitPush_accepted_iff, hafter]
    -- a later report renews the generation exactly if it is given one
    have hrenewals := ((storeAfter before).beginPush uri about).1.renewals_eq_zero_iff uri middle
    have hreplies : (∀ earlier version later, middle = earlier ++ .beginPush uri version :: later →
        replyAfter (before ++ .beginPush uri about :: earlier) (.beginPush uri version) =
          .marker none) ↔
        ∀ earlier version later, middle = earlier ++ .beginPush uri version :: later →
          ((((storeAfter before).beginPush uri about).1.run earlier).beginPush uri version).2 =
            none := by
      simp only [replyAfter, storeAfter_append, Store.step, Reply.marker.injEq]
      rfl
    rw [hreplies, ← hrenewals, Option.some.injEq]
    omega
  · intro events version diagnostics limit
    exact commits_own (distinct_storeAfter events) uri diagnostics limit version
  · intro events generation diagnostics shown limit
    exact commits_push (distinct_storeAfter events) uri diagnostics limit generation shown

/-- A document that is opened, checked and reported on, while another one is changed. -/
def busyLife : List Event :=
  [.opened "a" "int x;" (.string "c") 1, .opened "b" "int y;" (.string "c") 1, .beginOwn "a",
    .changed "b" "int z;" (some 2), .beginPush "a" (some 1)]

theorem guard_within_life_busyLife :
    replyAfter busyLife (.beginPush "a" none) = .marker (some 2) ∧
      replyAfter (busyLife ++ .beginPush "a" none :: [.beginPush "a" (some 0)])
        (.commitPush "a" 2 [] true 10) = .verdict true ∧
      replyAfter busyLife (.beginOwn "b") = .marker (some 1) ∧
      replyAfter (busyLife ++ .beginOwn "b" :: [.changed "b" "" none])
        (.commitOwn "b" 1 [] 10) ≠ .verdict true := by
  have hguard := guard_within_life
  refine ⟨rfl, ?_, rfl, ?_⟩
  · refine ((hguard "a").2.1 busyLife none _ 2 [] true 10 rfl (by decide)).mpr ⟨by simp, ?_⟩
    -- The only further report is about an older version, so it is dropped.
    intro earlier version later heq
    obtain ⟨rfl, hrest⟩ | ⟨rest, rfl, hrest⟩ := List.cons_eq_append_iff.mp heq
    · obtain ⟨hversion, -⟩ := List.cons.inj hrest
      cases hversion
      rfl
    · simp at hrest
  · intro haccepted
    have hnone := ((hguard "b").1 busyLife _ 1 [] 10 rfl (by decide)).mp haccepted
    exact absurd (hnone _ (List.mem_singleton.mpr rfl)).2 (by decide)

/-! ## Over several lives of a document -/

/-- Over a run, a document is opened from scratch, is not closed any more, and is edited so often
since then. -/
def Edited (store : Store) (uri : String) (events : List Event) (edits : Nat) : Prop :=
  ∃ idle text language version rest,
    events = idle ++ .opened uri text language version :: rest ∧
      (store.run idle).beginOwn uri = none ∧ (∀ event ∈ rest, event.closes uri = false) ∧
        rest.countP (·.edits uri) = edits

/-- Over a run, a document is opened, is neither opened nor closed any more, and the marker of the
companion process is renewed so often since then. -/
def Renewed (store : Store) (uri : String) (events : List Event) (renewals : Nat) : Prop :=
  ∃ idle text language version rest,
    events = idle ++ .opened uri text language version :: rest ∧
      (∀ event ∈ rest, event.opens uri = false ∧ event.closes uri = false) ∧
        (store.run (idle ++ [.opened uri text language version])).renewals uri rest = renewals

section Lives

variable {store : Store} {uri : String}

theorem Edited.beginOwn {events : List Event} {edits : Nat} (h : Edited store uri events edits) :
    (store.run events).beginOwn uri = some edits := by
  obtain ⟨idle, text, language, version, rest, rfl, hnone, hclosed, rfl⟩ := h
  have hopened : ((store.run idle).step (.opened uri text language version)).1.beginOwn uri =
      some 0 := by
    rw [Store.beginOwn_step, hnone]
    simp [Event.closes, Event.opens]
  rw [Store.run_append, Store.run, Store.beginOwn_run hopened hclosed, Nat.zero_add]

/-- The marker of the server's own checks counts the edits since a document was opened. -/
theorem beginOwn_eq_some_iff (hnone : store.beginOwn uri = none) {events : List Event}
    {edits : Nat} :
    (store.run events).beginOwn uri = some edits ↔ Edited store uri events edits := by
  refine ⟨?_, Edited.beginOwn⟩
  -- Induction on the run from its end: the last event opens the document, or it was open before.
  induction events using List.reverseRecOn generalizing edits with
  | nil => simp [Store.run, hnone]
  | append_singleton events event ih =>
    intro hbegin
    have hstep := (store.run events).beginOwn_step event uri
    have hlast : store.run (events ++ [event]) = ((store.run events).step event).1 :=
      Store.run_append store events [event]
    rw [← hlast, hbegin] at hstep
    cases hcloses : event.closes uri with
    | true => simp [hcloses] at hstep
    | false =>
      cases hbefore : (store.run events).beginOwn uri with
      | none =>
        have hopens : event.opens uri = true := by
          by_contra hopens
          simp [hcloses, hopens, hbefore] at hstep
        obtain ⟨text, language, version, rfl⟩ := Event.exists_eq_opened hopens
        refine ⟨events, text, language, version, [], rfl, hbefore, by simp, ?_⟩
        simpa [hcloses, hopens, hbefore] using hstep.symm
      | some before =>
        obtain ⟨idle, text, language, version, rest, rfl, hidle, hclosed, hcount⟩ := ih hbefore
        refine ⟨idle, text, language, version, rest ++ [event], by simp, hidle, ?_, ?_⟩
        · simpa [or_imp, forall_and, hcloses] using hclosed
        · -- The counter has gone on by one exactly if the last event is an edit.
          have hone : ∀ e ∈ [event], e.closes uri = false := by simpa using hcloses
          have hrun := Store.beginOwn_run hbefore hone
          rw [← Store.run_append, hbegin, Option.some.injEq] at hrun
          rw [List.countP_append, hcount, hrun]

theorem Renewed.generation? {events : List Event} {renewals : Nat}
    (h : Renewed store uri events renewals) :
    (store.run events).generation? uri = some renewals := by
  obtain ⟨idle, text, language, version, rest, rfl, hkept, rfl⟩ := h
  have hopened : (store.run (idle ++ [.opened uri text language version])).generation? uri =
      some 0 := by
    rw [Store.run_append]
    simp only [Store.run]
    rw [Store.generation?_step]
    simp [Event.closes, Event.opens]
  rw [List.append_cons, Store.run_append, Store.generation?_run hopened hkept, Nat.zero_add]

/-- The marker of the companion process counts its renewals since a document was last opened. -/
theorem generation?_eq_some_iff {events : List Event} {renewals : Nat}
    (hfresh : store.generation? uri = none ∨
      ∃ event ∈ events, event.opens uri = true ∨ event.closes uri = true) :
    (store.run events).generation? uri = some renewals ↔ Renewed store uri events renewals := by
  refine ⟨?_, Renewed.generation?⟩
  induction events using List.reverseRecOn generalizing renewals with
  | nil => simp_all [Store.run]
  | append_singleton events event ih =>
    intro hbegin
    have hstep := (store.run events).generation?_step event uri
    have hlast : store.run (events ++ [event]) = ((store.run events).step event).1 :=
      Store.run_append store events [event]
    rw [← hlast, hbegin] at hstep
    cases hcloses : event.closes uri with
    | true => simp [hcloses] at hstep
    | false =>
      cases hopens : event.opens uri with
      | true =>
        obtain ⟨text, language, version, rfl⟩ := Event.exists_eq_opened hopens
        refine ⟨events, text, language, version, [], rfl, by simp, ?_⟩
        simpa [hcloses, hopens, Store.renewals] using hstep.symm
      | false =>
        -- The last event neither opens nor closes the document, so it was open before.
        have hfresh' : store.generation? uri = none ∨
            ∃ event ∈ events, event.opens uri = true ∨ event.closes uri = true := by
          simpa [or_and_right, exists_or, hopens, hcloses] using hfresh
        obtain ⟨before, hbefore⟩ : ∃ before, (store.run events).generation? uri = some before := by
          rw [← Option.ne_none_iff_exists']
          intro hnone
          simp [hcloses, hopens, hnone] at hstep
        obtain ⟨idle, text, language, version, rest, rfl, hkept, hcount⟩ := ih hfresh' hbefore
        have hkept' : ∀ e ∈ rest ++ [event], e.opens uri = false ∧ e.closes uri = false := by
          simpa [or_imp, forall_and, hopens, hcloses] using hkept
        have hlife : Renewed store uri (idle ++ .opened uri text language version :: rest ++ [event])
            ((store.run (idle ++ [.opened uri text language version])).renewals uri
              (rest ++ [event])) :=
          ⟨idle, text, language, version, rest ++ [event], by simp, hkept', rfl⟩
        have hsame := hlife.generation?.symm.trans hbegin
        rw [← Option.some.inj hsame]
        exact hlife

end Lives

/-- A marker outlives its document only as a number. The marker of a check is the number of edits
since the document was opened: once the document has been closed, the marker is accepted again
exactly if the document has been opened again and edited just as often. The marker of a report is
the number of renewals since the document was last opened: once the document has been closed or
opened again, it is accepted exactly if the document has been opened since and the marker renewed
just as often. -/
theorem commit_outlived_iff (uri : String) :
    (∀ taken before after version diagnostics limit,
      replyAfter taken (.beginOwn uri) = .marker (some version) →
      Edited {} uri taken version ∧
        (replyAfter (taken ++ before ++ .closed uri :: after)
            (.commitOwn uri version diagnostics limit) = .verdict true ↔
          Edited (storeAfter (taken ++ before ++ [.closed uri])) uri after version)) ∧
    ∀ taken about before event after generation diagnostics shown limit,
      replyAfter taken (.beginPush uri about) = .marker (some generation) →
      event.opens uri = true ∨ event.closes uri = true →
      Renewed {} uri (taken ++ [.beginPush uri about]) generation ∧
        (replyAfter (taken ++ .beginPush uri about :: before ++ event :: after)
            (.commitPush uri generation diagnostics shown limit) = .verdict true ↔
          Renewed (storeAfter (taken ++ .beginPush uri about :: before)) uri (event :: after)
            generation) := by
  refine ⟨?_, ?_⟩
  · intro taken before after version diagnostics limit hbegin
    have hbegin : (storeAfter taken).beginOwn uri = some version := Reply.marker.inj hbegin
    refine ⟨(beginOwn_eq_some_iff rfl).mp hbegin, ?_⟩
    -- the marker is accepted if the counter of the new life, which starts at nothing, has got as far
    have hclosed : (storeAfter (taken ++ before ++ [.closed uri])).beginOwn uri = none := by
      rw [storeAfter_append]
      simp only [Store.run]
      rw [Store.beginOwn_step]
      simp [Event.closes]
    rw [commitOwn_accepted_iff, List.append_cons, storeAfter_append, beginOwn_eq_some_iff hclosed]
  · intro taken about before event after generation diagnostics shown limit hbegin hturn
    have hbegin : ((storeAfter taken).beginPush uri about).2 = some generation :=
      Reply.marker.inj hbegin
    have hmarked : (storeAfter (taken ++ [.beginPush uri about])).generation? uri =
        some generation := by
      rw [storeAfter_append]
      exact Store.generation?_of_beginPush hbegin
    refine ⟨(generation?_eq_some_iff (.inl rfl)).mp hmarked, ?_⟩
    rw [commitPush_accepted_iff, storeAfter_append,
      generation?_eq_some_iff (.inr ⟨event, List.mem_cons_self, hturn⟩)]

/-- Two lives of a document. -/
def twoLives : List Event :=
  [.opened "a" "int x;" (.string "c") 1, .closed "a", .opened "a" "int y;" (.string "c") 1]

theorem commit_outlived_twoLives :
    (replyAfter (twoLives.take 1) (.beginOwn "a") = .marker (some 0) ∧
      Edited {} "a" (twoLives.take 1) 0 ∧
      replyAfter (twoLives ++ [.changed "a" "" none]) (.commitOwn "a" 0 [] 10) ≠ .verdict true) ∧
    replyAfter (twoLives.take 1) (.beginPush "a" none) = .marker (some 1) ∧
      replyAfter (twoLives.take 1 ++ .beginPush "a" none :: [] ++ .closed "a" :: twoLives.drop 2)
        (.commitPush "a" 1 [] true 10) ≠ .verdict true := by
  have hown := (commit_outlived_iff "a").1 (twoLives.take 1) [] [twoLives.getLast (by decide),
    .changed "a" "" none] 0 [] 10 rfl
  have hpush := (commit_outlived_iff "a").2 (twoLives.take 1) none [] (.closed "a")
    (twoLives.drop 2) 1 [] true 10 rfl (.inr (by decide))
  refine ⟨⟨rfl, hown.1, fun haccepted => ?_⟩, rfl, fun haccepted => ?_⟩
  · exact nomatch (hown.2.mp haccepted).beginOwn
  · exact nomatch (hpush.2.mp haccepted).generation?

/-- Markers survive the documents that they were taken from: one of a check is accepted after its
document was closed and opened again, and one of a report after its document was closed and opened
again or just opened again. -/
theorem outlived_markers_accepted :
    (replyAfter (twoLives.take 1) (.beginOwn "a") = .marker (some 0) ∧
      replyAfter twoLives (.commitOwn "a" 0 [] 10) = .verdict true) ∧
    (replyAfter (twoLives.take 1) (.beginPush "a" none) = .marker (some 1) ∧
      replyAfter (twoLives ++ [.beginPush "a" none]) (.commitPush "a" 1 [] true 10) =
        .verdict true) ∧
    replyAfter
        [.opened "a" "" (.string "c") 1, .beginPush "a" none, .opened "a" "" (.string "c") 1,
          .beginPush "a" none]
        (.commitPush "a" 1 [] true 10) = .verdict true :=
  ⟨⟨rfl, rfl⟩, ⟨rfl, rfl⟩, rfl⟩

end BasiliskServer.Diagnostics
