import BasiliskServer.Proofs.Diagnostics.Staleness

/-!
# How fresh stored problems are

A marker that is accepted says something about the past only: what else has happened since it was
taken decides how fresh the problems are that are stored with it. Over every run of the store:

* a report of the companion process that arrived with a version is stored for a document that has
  no later version exactly if the editor gave no later version in between
  (`covers_document_iff`),
* whenever the problems of an open document are shown, those of the server's own checks are of its
  last edit exactly if it was not changed since they were stored, and those of the companion process
  exactly if it was not changed since their report arrived (`shown_fresh_iff`).

So an edit makes stale what is stored already, and what the companion process has reported but the
server has not stored yet.
-/

namespace BasiliskServer.Diagnostics

open Json (Value)
open Wire (Diagnostic)

/-! ## Versions of the editor -/

/-- The version that an event gives a document, if it gives one. -/
def Event.given? (uri : String) : Event → Option Int
  | .opened address _ _ version => if address = uri then some version else none
  | .changed address _ version => if address = uri then version else none
  | _ => none

/-- The version that the editor gave an open document last. -/
def Store.clientVersion? (store : Store) (uri : String) : Option Int :=
  (store.get? uri).map (·.clientVersion)

/-- What an event does to the version of the editor. -/
theorem Store.clientVersion?_step (store : Store) (event : Event) (uri : String) :
    (store.step event).1.clientVersion? uri =
      if event.closes uri then none
      else if event.opens uri then event.given? uri
      else (store.clientVersion? uri).map (event.given? uri).getD := by
  have hsame : ∀ version : Option Int, version.map (none : Option Int).getD = version := by
    intro version
    cases version <;> rfl
  cases event with
  | opened address text language version =>
    by_cases h : address = uri <;>
      simp [step, clientVersion?, get?_opened, Event.opens, Event.closes, Event.given?, h, hsame]
  | changed address text version =>
    by_cases h : address = uri
    · cases version <;>
        simp [step, clientVersion?, get?_changed, Event.opens, Event.closes, Event.given?, h,
          Function.comp_def]
    · simp [step, clientVersion?, get?_changed, Event.opens, Event.closes, Event.given?, h, hsame]
  | closed address =>
    by_cases h : address = uri <;>
      simp [step, clientVersion?, Event.opens, Event.closes, Event.given?, h, hsame]
  | clearCompanion =>
    simp [step, clientVersion?, Event.opens, Event.closes, Event.given?, hsame, Function.comp_def]
  | commitOwn address version diagnostics limit =>
    simp only [Event.opens, Event.closes, Event.given?, hsame]
    exact map_get?_commitOwn store (fun _ _ => rfl) address version diagnostics limit uri
  | commitPush address generation diagnostics shown limit =>
    simp only [Event.opens, Event.closes, Event.given?, hsame]
    exact map_get?_commitPush store (fun _ _ => rfl) address generation diagnostics shown limit uri
  | beginPush address version =>
    simp only [Event.opens, Event.closes, Event.given?, hsame]
    exact map_get?_beginPush store (fun _ _ => rfl) address version uri
  | beginOwn | isCurrentPush | fused | publish =>
    simp only [Event.opens, Event.closes, Event.given?, hsame]
    rfl

/-- An open document has the version that a run gave it last. -/
theorem getLast?_given_of_open {uri : String} {events : List Event} {version : Int}
    (h : (storeAfter events).clientVersion? uri = some version) :
    (events.filterMap (Event.given? uri)).getLast? = some version := by
  induction events using List.reverseRecOn generalizing version with
  | nil => cases h
  | append_singleton events event ih =>
    rw [storeAfter_append, Store.run, Store.run, Store.clientVersion?_step] at h
    split at h
    · cases h
    · split at h
      · simp [h]
      · obtain ⟨before, hbefore, hversion⟩ := Option.map_eq_some_iff.mp h
        cases hgiven : event.given? uri with
        | none =>
          rw [hgiven, Option.getD_none] at hversion
          subst hversion
          simpa [hgiven] using ih hbefore
        | some given =>
          rw [hgiven, Option.getD_some] at hversion
          simp [hgiven, hversion]

theorem le_getLast_of_pairwise {versions : List Int} (h : versions.Pairwise (· < ·))
    {version last : Int} (hlast : versions.getLast? = some last) (hmem : version ∈ versions) :
    version ≤ last := by
  obtain ⟨front, rfl⟩ := List.getLast?_eq_some_iff.mp hlast
  rcases List.mem_append.mp hmem with hfront | hself
  · have hlt := (List.pairwise_append.mp h).2.2 version hfront last (List.mem_singleton_self _)
    exact Int.le_of_lt hlt
  · exact Int.le_of_eq (List.mem_singleton.mp hself)

/-- A report that gets a marker is about no older version than the editor's. -/
theorem clientVersion_le_of_beginPush {store : Store} {uri : String} {about : Int}
    {generation : Nat} (h : (store.beginPush uri (some about)).2 = some generation) :
    ∃ version, store.clientVersion? uri = some version ∧ version ≤ about := by
  unfold Store.beginPush at h
  cases hget : store.get? uri with
  | none => simp [hget] at h
  | some document =>
    by_cases houtdated : about < document.clientVersion
    · simp [hget, houtdated] at h
    · exact ⟨document.clientVersion, by simp [Store.clientVersion?, hget], Int.not_lt.mp houtdated⟩

/-- A report about a version is stored for a document that has no later one exactly if the editor
gave no later version between its arrival and its storing. -/
theorem covers_document_iff {uri : String} {before middle : List Event} {about : Int}
    {generation : Nat} {diagnostics : List Diagnostic} {shown : Bool} {limit : Int}
    (hgrow : ((before ++ .beginPush uri (some about) :: middle).filterMap
      (Event.given? uri)).Pairwise (· < ·))
    (hbegin : replyAfter before (.beginPush uri (some about)) = .marker (some generation))
    (haccepted : replyAfter (before ++ .beginPush uri (some about) :: middle)
      (.commitPush uri generation diagnostics shown limit) = .verdict true) :
    ∃ document, (storeAfter (before ++ .beginPush uri (some about) :: middle ++
        [.commitPush uri generation diagnostics shown limit])).get? uri = some document ∧
      (document.clientVersion ≤ about ↔
        ∀ event ∈ middle, ∀ version, event.given? uri = some version → version ≤ about) := by
  set run := before ++ .beginPush uri (some about) :: middle with hrun
  have hgiven : run.filterMap (Event.given? uri) =
      before.filterMap (Event.given? uri) ++ middle.filterMap (Event.given? uri) := by
    rw [hrun, List.filterMap_append, List.filterMap_cons_none rfl]
  -- The document is open, and storing the report leaves its version as it is.
  obtain ⟨document, hget, -⟩ := Option.map_eq_some_iff.mp (commitPush_accepted_iff.mp haccepted)
  have hversion : (storeAfter run).clientVersion? uri = some document.clientVersion := by
    simp [Store.clientVersion?, hget]
  have hstored := Store.clientVersion?_step (storeAfter run)
    (.commitPush uri generation diagnostics shown limit) uri
  have hkept : (storeAfter (run ++
      [.commitPush uri generation diagnostics shown limit])).clientVersion? uri =
        some document.clientVersion := by
    rw [storeAfter_append, Store.run, Store.run, hstored, hversion]
    rfl
  obtain ⟨after, hafter, hsame⟩ := Option.map_eq_some_iff.mp hkept
  refine ⟨after, hafter, ?_⟩
  rw [hsame]
  have hlast := getLast?_given_of_open hversion
  constructor
  · intro hle event hevent version hgives
    have hmem : version ∈ run.filterMap (Event.given? uri) := by
      rw [hgiven]
      exact List.mem_append_right _ (List.mem_filterMap.mpr ⟨event, hevent, hgives⟩)
    exact Int.le_trans (le_getLast_of_pairwise hgrow hlast hmem) hle
  · intro hall
    rw [hgiven, List.getLast?_append] at hlast
    cases hmiddle : (middle.filterMap (Event.given? uri)).getLast? with
    | some last =>
      -- The last version was given after the report had arrived.
      obtain ⟨event, hevent, hgives⟩ := List.mem_filterMap.mp (List.mem_of_getLast? hmiddle)
      rw [hmiddle, Option.some_or, Option.some.injEq] at hlast
      exact hlast ▸ hall event hevent last hgives
    | none =>
      obtain ⟨version, hopen, hle⟩ := clientVersion_le_of_beginPush (Reply.marker.inj hbegin)
      rw [hmiddle, Option.none_or, getLast?_given_of_open hopen, Option.some.injEq] at hlast
      exact hlast ▸ hle

/-- A document that is changed while a report on it is under way. -/
def overtakenReport : List Event :=
  [.opened "a" "int x;" (.string "c") 1, .beginPush "a" (some 1), .changed "a" "int y;" (some 2)]

theorem covers_document_overtakenReport :
    ∃ document, (storeAfter (overtakenReport ++ [.commitPush "a" 1 [] true 10])).get? "a" =
        some document ∧ ¬ document.clientVersion ≤ 1 := by
  have hgrow : ((overtakenReport.take 1 ++ .beginPush "a" (some 1) ::
      overtakenReport.drop 2).filterMap (Event.given? "a")).Pairwise (· < ·) := by decide
  have haccepted : replyAfter (overtakenReport.take 1 ++ .beginPush "a" (some 1) ::
      overtakenReport.drop 2) (.commitPush "a" (1 : Nat) [] true 10) = .verdict true := rfl
  obtain ⟨document, hget, hiff⟩ := covers_document_iff hgrow rfl haccepted
  refine ⟨document, hget, fun hle => ?_⟩
  have hgiven := hiff.mp hle (.changed "a" "int y;" (some 2)) (List.mem_singleton_self _) 2 rfl
  exact absurd hgiven (by decide)

/-- A report about the first version of a document is stored for the second one. -/
theorem outdated_report_accepted :
    replyAfter (overtakenReport.take 1) (.beginPush "a" (some 1)) = .marker (some 1) ∧
      replyAfter overtakenReport (.commitPush "a" 1 [] true 10) = .verdict true ∧
      (storeAfter overtakenReport).clientVersion? "a" = some 2 :=
  ⟨rfl, rfl, rfl⟩

/-! ## What is stored -/

/-- The two sides that find problems. -/
inductive Side where
  /-- The server's own checks. -/
  | own
  /-- The companion process. -/
  | companion

namespace Side

/-- The problems of a document that a side has found. -/
def problems : Side → Document → List Diagnostic
  | .own => Document.own
  | .companion => Document.companion

/-- Whether an event takes a marker of a side for a document. -/
def takes (uri : String) : Side → Event → Bool
  | .own, .beginOwn address => address = uri
  | .companion, .beginPush address _ => address = uri
  | _, _ => false

/-- The marker under which an event stores problems of a side, if it does. -/
def stores? (uri : String) : Side → Event → Option Int
  | .own, .commitOwn address version _ _ => if address = uri then some version else none
  | .companion, .commitPush address generation _ _ _ =>
    if address = uri then some generation else none
  | _, _ => none

/-- Whether an event makes the markers of a side begin anew. -/
def restarts (uri : String) : Side → Event → Bool
  | .own, event => event.closes uri
  | .companion, event => event.opens uri || event.closes uri

end Side

/-- The event between two parts of a run is the last one that has stored problems of a side. -/
structure Standing (side : Side) (uri : String) (before : List Event) (commit : Event)
    (after : List Event) : Prop where
  /-- The event is to store problems of the side. -/
  stores : (side.stores? uri commit).isSome
  /-- Its marker is accepted. -/
  accepted : replyAfter before commit = .verdict true
  /-- No later one is accepted. -/
  last : ∀ earlier other later, after = earlier ++ other :: later →
    (side.stores? uri other).isSome →
      replyAfter (before ++ commit :: earlier) other ≠ .verdict true

/-- The problems of a side were stored with a marker that was taken after the last edit. -/
def Fresh (side : Side) (uri : String) (events : List Event) : Prop :=
  ∃ taken take middle commit after, ∃ marker : Nat,
    events = taken ++ take :: middle ++ commit :: after ∧ side.takes uri take ∧
      replyAfter taken take = .marker (some marker) ∧
      side.stores? uri commit = some (marker : Int) ∧
      Standing side uri (taken ++ take :: middle) commit after ∧
        ∀ event ∈ middle ++ after, event.edits uri = false

/-- Every marker that is used was taken before, and is used before the markers begin anew. -/
def Timely (uri : String) (events : List Event) : Prop :=
  ∀ side before commit after marker, events = before ++ commit :: after →
    Side.stores? uri side commit = some marker →
      ∃ taken take middle, ∃ number : Nat, before = taken ++ take :: middle ∧ side.takes uri take ∧
        replyAfter taken take = .marker (some number) ∧ marker = number ∧
          ∀ event ∈ middle, side.restarts uri event = false

section Stored

variable {side : Side} {uri : String}

theorem commitOwn_eq (store : Store) (uri : String) (version : Int) (diagnostics : List Diagnostic)
    (limit : Int) :
    store.commitOwn uri version diagnostics limit = (store, false, []) ∨
      ∃ document, store.get? uri = some document ∧
        store.commitOwn uri version diagnostics limit =
          (store.put { document with own := diagnostics }, true,
            [⟨uri, fuse document.companion diagnostics limit⟩]) := by
  by_cases hcurrent : (store.beginOwn uri).map Int.ofNat = some version
  · obtain ⟨number, hbegin, rfl⟩ := Option.map_eq_some_iff.mp hcurrent
    obtain ⟨document, hget, rfl⟩ := Option.map_eq_some_iff.mp hbegin
    exact .inr ⟨document, hget, Store.commitOwn_of_current hget diagnostics limit⟩
  · exact .inl (Store.commitOwn_of_not_current hcurrent diagnostics limit)

theorem commitPush_eq (store : Store) (uri : String) (generation : Int)
    (diagnostics : List Diagnostic) (shown : Bool) (limit : Int) :
    store.commitPush uri generation diagnostics shown limit = (store, false, []) ∨
      ∃ document, store.get? uri = some document ∧
        store.commitPush uri generation diagnostics shown limit =
          (store.put { document with companion := diagnostics }, true,
            if shown then [⟨uri, fuse diagnostics document.own limit⟩] else []) := by
  by_cases hcurrent : (store.generation? uri).map Int.ofNat = some generation
  · obtain ⟨number, hbegin, rfl⟩ := Option.map_eq_some_iff.mp hcurrent
    obtain ⟨document, hget, rfl⟩ := Option.map_eq_some_iff.mp hbegin
    exact .inr ⟨document, hget, Store.commitPush_of_current hget diagnostics shown limit⟩
  · exact .inl (Store.commitPush_of_not_current hcurrent diagnostics shown limit)

/-- An event that neither opens a document nor stores problems of a side leaves no problems of that
side that were not there before. -/
theorem problems_of_step {store : Store} {event : Event} {document : Document}
    (hopens : event.opens uri = false)
    (hrefused : (side.stores? uri event).isSome → (store.step event).2.reply ≠ .verdict true)
    (hget : (store.step event).1.get? uri = some document) (hsome : side.problems document ≠ []) :
    ∃ earlier, store.get? uri = some earlier ∧ side.problems earlier ≠ [] := by
  -- Most events change nothing that a side has found.
  have hkept : ((store.step event).1.get? uri).map side.problems =
      (store.get? uri).map side.problems →
      ∃ earlier, store.get? uri = some earlier ∧ side.problems earlier ≠ [] := by
    intro hsame
    rw [hget, Option.map_some] at hsame
    obtain ⟨earlier, hearlier, heq⟩ := Option.map_eq_some_iff.mp hsame.symm
    exact ⟨earlier, hearlier, heq ▸ hsome⟩
  cases event with
  | opened address text language version =>
    have hne : address ≠ uri := by simpa [Event.opens] using hopens
    exact hkept (by simp [Store.step, Store.get?_opened, hne])
  | changed address text version =>
    refine hkept ?_
    rw [Store.step, Store.get?_changed]
    split
    · cases side <;> simp [Side.problems, Function.comp_def]
    · rfl
  | closed address =>
    rw [Store.step, Store.get?_closed] at hget
    split at hget
    · cases hget
    · exact ⟨document, hget, hsome⟩
  | clearCompanion =>
    rw [Store.step, Store.get?_clearCompanion] at hget
    obtain ⟨earlier, hearlier, rfl⟩ := Option.map_eq_some_iff.mp hget
    cases side with
    | own => exact ⟨earlier, hearlier, hsome⟩
    | companion => exact absurd rfl hsome
  | beginPush address version =>
    refine hkept (Store.map_get?_beginPush store (fun _ _ => ?_) address version uri)
    cases side <;> rfl
  | commitOwn address version diagnostics limit =>
    cases side with
    | companion =>
      exact hkept (Store.map_get?_commitOwn store (fun _ _ => rfl) address version diagnostics limit
        uri)
    | own =>
      obtain hdrop | ⟨other, hother, hstored⟩ := commitOwn_eq store address version
        diagnostics limit
      · exact hkept (by rw [Store.step, hdrop])
      · by_cases haddress : address = uri
        · exact absurd (by rw [Store.step, hstored]) (hrefused (by simp [Side.stores?, haddress]))
        · refine hkept ?_
          rw [Store.step, hstored]
          simp [Store.uri_of_get? hother, haddress]
  | commitPush address generation diagnostics shown limit =>
    cases side with
    | own =>
      exact hkept (Store.map_get?_commitPush store (fun _ _ => rfl) address generation diagnostics
        shown limit uri)
    | companion =>
      obtain hdrop | ⟨other, hother, hstored⟩ := commitPush_eq store address generation
        diagnostics shown limit
      · exact hkept (by rw [Store.step, hdrop])
      · by_cases haddress : address = uri
        · exact absurd (by rw [Store.step, hstored]) (hrefused (by simp [Side.stores?, haddress]))
        · refine hkept ?_
          rw [Store.step, hstored]
          simp [Store.uri_of_get? hother, haddress]
  | beginOwn | isCurrentPush | fused | publish => exact hkept rfl

/-- An event that stores nothing leaves the last event that has stored something the last one. -/
theorem Standing.append {before after : List Event} {commit event : Event}
    (h : Standing side uri before commit after)
    (hrefused : (side.stores? uri event).isSome →
      replyAfter (before ++ commit :: after) event ≠ .verdict true) :
    Standing side uri before commit (after ++ [event]) := by
  refine ⟨h.stores, h.accepted, fun earlier other later heq hstores => ?_⟩
  obtain rfl | ⟨rest, final, rfl⟩ := List.eq_nil_or_concat later
  · obtain ⟨rfl, hlast⟩ := List.append_inj' heq rfl
    obtain rfl := List.singleton_injective hlast
    exact hrefused hstores
  · rw [List.concat_eq_append, ← List.cons_append, ← List.append_assoc] at heq
    obtain ⟨rfl, -⟩ := List.append_inj' heq rfl
    exact h.last earlier other rest rfl hstores

/-- Only one event of a run is the last one that has stored problems of a side. -/
theorem Standing.unique {before after before' after' : List Event} {commit commit' : Event}
    (h : Standing side uri before commit after) (h' : Standing side uri before' commit' after')
    (heq : before ++ commit :: after = before' ++ commit' :: after') :
    before = before' ∧ commit = commit' ∧ after = after' := by
  obtain ⟨between, rfl, hrest⟩ | ⟨between, rfl, hrest⟩ := List.append_eq_append_iff.mp heq
  · cases between with
    | nil => exact ⟨(List.append_nil before).symm, List.cons.inj hrest⟩
    | cons first between =>
      obtain ⟨rfl, rfl⟩ := List.cons.inj hrest
      exact absurd h'.accepted (h.last between commit' after' rfl h'.stores)
  · cases between with
    | nil =>
      obtain ⟨rfl, rfl⟩ := List.cons.inj hrest
      exact ⟨List.append_nil before', rfl, rfl⟩
    | cons first between =>
      obtain ⟨rfl, rfl⟩ := List.cons.inj hrest
      exact absurd h.accepted (h'.last between commit after rfl h.stores)

/-- Problems that are there were stored by an event since which the document was neither opened nor
closed. -/
theorem exists_standing (side : Side) {events : List Event} {document : Document}
    (hget : (storeAfter events).get? uri = some document) (hsome : side.problems document ≠ []) :
    ∃ before commit after, events = before ++ commit :: after ∧
      Standing side uri before commit after ∧
        ∀ event ∈ after, event.opens uri = false ∧ event.closes uri = false := by
  -- Induction on the run from its end: its last event stores the problems, or they were there.
  induction events using List.reverseRecOn generalizing document with
  | nil => cases hget
  | append_singleton events event ih =>
    rw [storeAfter_append, Store.run, Store.run] at hget
    have hcloses : event.closes uri = false := by
      by_contra hcloses
      have hstep := (storeAfter events).beginOwn_step event uri
      simp [hcloses, Store.beginOwn, hget] at hstep
    have hopens : event.opens uri = false := by
      by_contra hopens
      rw [Bool.not_eq_false] at hopens
      obtain ⟨text, language, version, rfl⟩ := Event.exists_eq_opened hopens
      rw [Store.step, Store.get?_opened, if_pos rfl] at hget
      obtain rfl := Option.some.inj hget
      cases side <;> exact hsome rfl
    by_cases haccepted : (side.stores? uri event).isSome ∧
        replyAfter events event = .verdict true
    · refine ⟨events, event, [], rfl, ⟨haccepted.1, haccepted.2, fun earlier other later h => ?_⟩,
        fun other hother => absurd hother List.not_mem_nil⟩
      simp at h
    · rw [not_and] at haccepted
      obtain ⟨earlier, hearlier, hproblems⟩ := problems_of_step hopens haccepted hget hsome
      obtain ⟨before, commit, after, rfl, hstanding, hlife⟩ := ih hearlier hproblems
      refine ⟨before, commit, after ++ [event], by simp, hstanding.append haccepted, ?_⟩
      simpa [or_imp, forall_and, hopens, hcloses] using hlife

/-- Checks that were stored with a marker of the document's life are fresh as long as the document
is not changed. -/
theorem fresh_own_iff {before after : List Event} {commit : Event}
    (htimely : Timely uri (before ++ commit :: after))
    (hstanding : Standing .own uri before commit after)
    (hlife : ∀ event ∈ after, event.opens uri = false ∧ event.closes uri = false) :
    Fresh .own uri (before ++ commit :: after) ↔ ∀ event ∈ after, event.changes uri = false := by
  constructor
  · rintro ⟨taken, take, middle, commit', after', marker, heq, -, -, -, hstanding', hedits⟩
    intro event hevent
    obtain ⟨-, -, rfl⟩ := hstanding.unique hstanding' heq
    have hnone := hedits event (List.mem_append_right _ hevent)
    rw [Event.edits, Bool.or_eq_false_iff] at hnone
    exact hnone.2
  · intro hchanges
    obtain ⟨marker, hstores⟩ := Option.isSome_iff_exists.mp hstanding.stores
    obtain ⟨taken, take, middle, number, rfl, htakes, hmarker, rfl, hkept⟩ :=
      htimely .own before commit after marker rfl hstores
    refine ⟨taken, take, middle, commit, after, number, rfl, htakes, hmarker, hstores, hstanding,
      ?_⟩
    -- The marker was accepted, so no edit came between its being taken and the storing.
    have hmiddle : ∀ event ∈ middle, event.edits uri = false := by
      cases take with
      | beginOwn address =>
        obtain rfl : address = uri := by simpa [Side.takes] using htakes
        cases commit with
        | commitOwn address' version diagnostics limit =>
          simp only [Side.stores?, Option.ite_none_right_eq_some, Option.some.injEq] at hstores
          obtain ⟨rfl, rfl⟩ := hstores
          have hcurrent := commitOwn_accepted_iff.mp hstanding.accepted
          have hbegin : (storeAfter taken).beginOwn address' = some number :=
            Reply.marker.inj hmarker
          have hrun := Store.beginOwn_run hbegin hkept
          rw [storeAfter_append] at hcurrent
          have hsame := hrun.symm.trans hcurrent
          rw [Option.some.injEq] at hsame
          have hcount : middle.countP (·.edits address') = 0 := by omega
          simpa [List.countP_eq_zero] using hcount
        | _ => simp [Side.stores?] at hstores
      | _ => simp [Side.takes] at htakes
    intro event hevent
    rcases List.mem_append.mp hevent with hevent | hevent
    · exact hmiddle event hevent
    · rw [Event.edits, (hlife event hevent).1, hchanges event hevent]
      rfl

/-- As long as a document is neither opened nor closed, later reports get larger markers. -/
theorem marker_lt_of_takes {taken between : List Event} {take later : Event} {number next : Nat}
    (htakes : Side.takes uri .companion take)
    (hmarker : replyAfter taken take = .marker (some number))
    (hlater : Side.takes uri .companion later)
    (hnext : replyAfter (taken ++ take :: between) later = .marker (some next))
    (hkept : ∀ event ∈ between, Side.restarts uri .companion event = false) : number < next := by
  cases take with
  | beginPush address version =>
    obtain rfl : address = uri := by simpa [Side.takes] using htakes
    cases later with
    | beginPush address' version' =>
      obtain rfl : address' = address := by simpa [Side.takes] using hlater
      have hbegin : ((storeAfter taken).beginPush address' version).2 = some number :=
        Reply.marker.inj hmarker
      have hgeneration := Store.generation?_of_beginPush hbegin
      have hlife : ∀ event ∈ between,
          event.opens address' = false ∧ event.closes address' = false := by
        intro event hevent
        simpa [Side.restarts] using hkept event hevent
      have hrun := Store.generation?_run hgeneration hlife
      rw [replyAfter, storeAfter_append] at hnext
      have hnext : ((((storeAfter taken).beginPush address' version).1.run between).beginPush
          address' version').2 = some next := Reply.marker.inj hnext
      -- The next report counts one more than the marker that is current when it arrives.
      obtain hdrop | ⟨document, hget, hcount⟩ := Store.beginPush_eq
        (((storeAfter taken).beginPush address' version).1.run between) address' version'
      · rw [hdrop] at hnext
        cases hnext
      · rw [hcount, Option.some.injEq] at hnext
        rw [Store.generation?, hget, Option.map_some, Option.some.injEq] at hrun
        omega
    | _ => simp [Side.takes] at hlater
  | _ => simp [Side.takes] at htakes

/-- Reports that were stored with a marker of the document's life are fresh as long as the document
is not changed after they have arrived. -/
theorem fresh_companion_iff {taken middle after : List Event} {take commit : Event} {number : Nat}
    (htakes : Side.takes uri .companion take)
    (hmarker : replyAfter taken take = .marker (some number))
    (hstores : Side.stores? uri .companion commit = some (number : Int))
    (hkept : ∀ event ∈ middle, Side.restarts uri .companion event = false)
    (hstanding : Standing .companion uri (taken ++ take :: middle) commit after)
    (hlife : ∀ event ∈ after, event.opens uri = false ∧ event.closes uri = false) :
    Fresh .companion uri (taken ++ take :: middle ++ commit :: after) ↔
      ∀ event ∈ middle ++ after, event.changes uri = false := by
  have hedits : ∀ event ∈ middle ++ after, event.edits uri = event.changes uri := by
    intro event hevent
    have hopens : event.opens uri = false := by
      rcases List.mem_append.mp hevent with hevent | hevent
      · have hnone := hkept event hevent
        rw [Side.restarts, Bool.or_eq_false_iff] at hnone
        exact hnone.1
      · exact (hlife event hevent).1
    rw [Event.edits, hopens, Bool.false_or]
  constructor
  · rintro ⟨taken', take', middle', commit', after', number', heq, htakes', hmarker', hstores',
      hstanding', hnone⟩ event hevent
    rw [← hedits event hevent]
    obtain ⟨hbefore, rfl, rfl⟩ := hstanding.unique hstanding' heq
    obtain rfl : number = number' := by
      have hsame := Option.some.inj (hstores.symm.trans hstores')
      omega
    suffices hmiddle : ∀ event ∈ middle, event ∈ middle' by
      rcases List.mem_append.mp hevent with hevent | hevent
      · exact hnone event (List.mem_append_left _ (hmiddle event hevent))
      · exact hnone event (List.mem_append_right _ hevent)
    intro event hevent
    obtain ⟨between, rfl, hrest⟩ | ⟨between, rfl, hrest⟩ := List.append_eq_append_iff.mp hbefore
    · cases between with
      | nil =>
        obtain ⟨-, rfl⟩ := List.cons.inj hrest
        exact hevent
      | cons first between =>
        -- A report that arrives later gets a larger marker.
        obtain ⟨rfl, rfl⟩ := List.cons.inj hrest
        have hlater := marker_lt_of_takes htakes hmarker htakes' hmarker' fun event hevent =>
          hkept event (List.mem_append_left _ hevent)
        exact absurd hlater (Nat.lt_irrefl _)
    · cases between with
      | nil =>
        obtain ⟨-, rfl⟩ := List.cons.inj hrest
        exact hevent
      | cons first between =>
        obtain ⟨-, rfl⟩ := List.cons.inj hrest
        exact List.mem_append_right _ (List.mem_cons_of_mem _ hevent)
  · intro hchanges
    refine ⟨taken, take, middle, commit, after, number, rfl, htakes, hmarker, hstores, hstanding,
      ?_⟩
    intro event hevent
    rw [hedits event hevent, hchanges event hevent]

theorem timely_nil : Timely uri [] := by
  intro side before commit after marker heq
  simp at heq

/-- A run is timely if all but its last event are, and the marker of the last event was taken in
time. -/
theorem Timely.append {events : List Event} {event : Event} (h : Timely uri events)
    (hlast : ∀ side marker, Side.stores? uri side event = some marker →
      ∃ taken take middle, ∃ number : Nat, events = taken ++ take :: middle ∧ side.takes uri take ∧
        replyAfter taken take = .marker (some number) ∧ marker = number ∧
          ∀ event ∈ middle, side.restarts uri event = false) :
    Timely uri (events ++ [event]) := by
  intro side before commit after marker heq hstores
  obtain rfl | ⟨rest, final, rfl⟩ := List.eq_nil_or_concat after
  · obtain ⟨rfl, hcommit⟩ := List.append_inj' heq rfl
    obtain rfl := List.singleton_injective hcommit
    exact hlast side marker hstores
  · rw [List.concat_eq_append, ← List.cons_append, ← List.append_assoc] at heq
    obtain ⟨rfl, -⟩ := List.append_inj' heq rfl
    exact h side before commit rest marker rfl hstores

/-- What is shown for an open document are the problems stored for it, of both sides. -/
theorem shown_eq_fuse {store : Store} {event : Event} {document : Document}
    {problems : List Diagnostic} (hshown : ⟨uri, problems⟩ ∈ (store.step event).2.shown)
    (hopen : (store.step event).1.get? uri = some document) :
    ∃ limit, problems = fuse document.companion document.own limit := by
  -- Only a publication and a commit that is accepted show anything of a document that stays open.
  cases event with
  | closed address =>
    have haddress : uri = address := by
      have hmem := List.mem_singleton.mp hshown
      exact congrArg Publication.uri hmem
    simp [Store.step, haddress] at hopen
  | commitOwn address version diagnostics limit =>
    obtain hdrop | ⟨other, hother, hstored⟩ := commitOwn_eq store address version diagnostics
      limit
    · simp [Store.step, hdrop] at hshown
    · rw [Store.step, hstored] at hshown hopen
      obtain ⟨rfl, rfl⟩ := Publication.mk.inj (List.mem_singleton.mp hshown)
      rw [Store.get?_put, if_pos (Store.uri_of_get? hother), Option.some.injEq] at hopen
      exact ⟨limit, hopen ▸ rfl⟩
  | commitPush address generation diagnostics shown limit =>
    obtain hdrop | ⟨other, hother, hstored⟩ := commitPush_eq store address generation
      diagnostics shown limit
    · simp [Store.step, hdrop] at hshown
    · rw [Store.step, hstored] at hshown hopen
      cases shown with
      | false => exact absurd hshown List.not_mem_nil
      | true =>
        obtain ⟨rfl, rfl⟩ := Publication.mk.inj (List.mem_singleton.mp hshown)
        rw [Store.get?_put, if_pos (Store.uri_of_get? hother), Option.some.injEq] at hopen
        exact ⟨limit, hopen ▸ rfl⟩
  | publish address limit =>
    simp only [Store.step, Store.publish] at hshown hopen
    split at hshown
    · exact absurd hshown List.not_mem_nil
    · obtain ⟨rfl, rfl⟩ := Publication.mk.inj (List.mem_singleton.mp hshown)
      exact ⟨limit, by rw [Store.fused, hopen]⟩
  | _ => simp [Store.step] at hshown

end Stored

/-- Whenever the problems of an open document are shown, they are those stored for it. If all
markers are used in the life of the document in which they were taken, the problems of the server's
own checks belong to its last edit exactly if it was not changed after they were stored, and those
of the companion process exactly if it was not changed after their report had arrived. -/
theorem shown_fresh_iff {uri : String} {before : List Event} {event : Event} {document : Document}
    {problems : List Diagnostic} (htimely : Timely uri (before ++ [event]))
    (hshown : ⟨uri, problems⟩ ∈ ((storeAfter before).step event).2.shown)
    (hopen : (storeAfter (before ++ [event])).get? uri = some document) :
    (∃ limit, problems = fuse document.companion document.own limit) ∧
    (document.own ≠ [] → ∃ earlier commit after, before ++ [event] = earlier ++ commit :: after ∧
      Standing .own uri earlier commit after ∧
        (Fresh .own uri (before ++ [event]) ↔ ∀ event ∈ after, event.changes uri = false)) ∧
    (document.companion ≠ [] → ∃ taken report middle commit after, ∃ number : Nat,
      before ++ [event] = taken ++ report :: middle ++ commit :: after ∧
        Side.takes uri .companion report ∧ replyAfter taken report = .marker (some number) ∧
        Side.stores? uri .companion commit = some (number : Int) ∧
        Standing .companion uri (taken ++ report :: middle) commit after ∧
        (Fresh .companion uri (before ++ [event]) ↔
          ∀ event ∈ middle ++ after, event.changes uri = false)) := by
  refine ⟨?_, fun hsome => ?_, fun hsome => ?_⟩
  · rw [storeAfter_append] at hopen
    exact shown_eq_fuse hshown hopen
  · obtain ⟨earlier, commit, after, heq, hstanding, hlife⟩ := exists_standing .own hopen hsome
    rw [heq] at htimely ⊢
    exact ⟨earlier, commit, after, rfl, hstanding, fresh_own_iff htimely hstanding hlife⟩
  -- the report was stored with a marker, which it was given when it arrived: it is as old as that
  · obtain ⟨earlier, commit, after, heq, hstanding, hlife⟩ :=
      exists_standing .companion hopen hsome
    obtain ⟨marker, hstores⟩ := Option.isSome_iff_exists.mp hstanding.stores
    obtain ⟨taken, report, middle, number, rfl, htakes, hmarker, rfl, hkept⟩ :=
      htimely .companion earlier commit after marker heq hstores
    rw [heq]
    exact ⟨taken, report, middle, commit, after, number, rfl, htakes, hmarker, hstores, hstanding,
      fresh_companion_iff htakes hmarker hstores hkept hstanding hlife⟩

/-- A problem. -/
def someProblem : Diagnostic :=
  { range := ⟨⟨0, 0⟩, ⟨0, 1⟩⟩, message := "wrong" }

/-- A document that is checked and reported on, and changed before the report is stored. -/
def changedRun : List Event :=
  [.opened "a" "int x;" (.string "c") 1, .beginOwn "a", .commitOwn "a" 0 [someProblem] 10,
    .beginPush "a" (some 1), .changed "a" "int y;" (some 2)]

/-- The report is stored and shown. -/
def lateReport : Event :=
  .commitPush "a" 1 [{ someProblem with message := "unknown" }] true 10

theorem timely_changedRun : Timely "a" (changedRun ++ [lateReport]) := by
  have hstart : Timely "a" (changedRun.take 2) :=
    (timely_nil.append (by rintro (_ | _) _ ⟨⟩)).append (by rintro (_ | _) _ ⟨⟩)
  have hcheck : Timely "a" (changedRun.take 3) := by
    refine hstart.append ?_
    rintro (_ | _) marker ⟨⟩
    exact ⟨changedRun.take 1, .beginOwn "a", [], 0, rfl, rfl, rfl, rfl, nofun⟩
  have hchange : Timely "a" changedRun :=
    (hcheck.append (by rintro (_ | _) _ ⟨⟩)).append (by rintro (_ | _) _ ⟨⟩)
  refine hchange.append ?_
  rintro (_ | _) marker ⟨⟩
  exact ⟨changedRun.take 3, .beginPush "a" (some 1), changedRun.drop 4, 1, rfl, rfl, rfl, rfl,
    by decide⟩

theorem shown_fresh_changedRun :
    ∃ document problems, (storeAfter (changedRun ++ [lateReport])).get? "a" = some document ∧
      ⟨"a", problems⟩ ∈ ((storeAfter changedRun).step lateReport).2.shown ∧
      (∃ limit, problems = fuse document.companion document.own limit) ∧
      ∃ earlier commit after, changedRun ++ [lateReport] = earlier ++ commit :: after ∧
        Standing .own "a" earlier commit after ∧
          (Fresh .own "a" (changedRun ++ [lateReport]) ↔
            ∀ event ∈ after, event.changes "a" = false) := by
  obtain ⟨hfuse, hown, -⟩ := shown_fresh_iff timely_changedRun List.mem_cons_self rfl
  exact ⟨_, _, rfl, List.mem_cons_self, hfuse, hown (List.cons_ne_nil _ _)⟩

/-- What is shown after a document was changed is stale on both sides: a check that was stored
before, and a report that had arrived before. -/
theorem stale_problems_shown :
    replyAfter (changedRun.take 1) (.beginOwn "a") = .marker (some 0) ∧
      replyAfter (changedRun.take 3) (.beginPush "a" (some 1)) = .marker (some 1) ∧
      ((storeAfter changedRun).step lateReport).2.shown.map (·.diagnostics.map (·.message)) =
        [["unknown", "wrong"]] ∧
      ((storeAfter (changedRun ++ [lateReport])).get? "a").map (fun document =>
        (document.own.length, document.companion.length)) = some (1, 1) ∧
      ¬ Fresh .own "a" (changedRun ++ [lateReport]) ∧
      ¬ Fresh .companion "a" (changedRun ++ [lateReport]) := by
  refine ⟨rfl, rfl, by decide, rfl, fun hfresh => ?_, fun hfresh => ?_⟩
  · -- The check was stored before the document was changed.
    have hstored : Standing .own "a" (changedRun.take 2) (.commitOwn "a" 0 [someProblem] 10) [] :=
      ⟨rfl, rfl, fun earlier other later heq => by simp at heq⟩
    have hstanding : Standing .own "a" (changedRun.take 2) (.commitOwn "a" 0 [someProblem] 10)
        ([] ++ [changedRun[3]] ++ [changedRun[4]] ++ [lateReport]) :=
      ((hstored.append (absurd · (by decide))).append (absurd · (by decide))).append
        (absurd · (by decide))
    have htimely : Timely "a" (changedRun.take 2 ++ .commitOwn "a" 0 [someProblem] 10 ::
        (changedRun.drop 3 ++ [lateReport])) := timely_changedRun
    have hnone := (fresh_own_iff htimely hstanding (by decide)).mp hfresh
    exact absurd (hnone (.changed "a" "int y;" (some 2)) (by simp [changedRun])) (by decide)
  · have hstanding : Standing .companion "a"
        (changedRun.take 3 ++ .beginPush "a" (some 1) :: changedRun.drop 4) lateReport [] :=
      ⟨rfl, rfl, fun earlier other later heq => by simp at heq⟩
    have hmarker : replyAfter (changedRun.take 3) (.beginPush "a" (some 1)) =
        .marker (some 1) := rfl
    have hnone := (fresh_companion_iff rfl hmarker rfl (by decide) hstanding nofun).mp hfresh
    exact absurd (hnone (.changed "a" "int y;" (some 2)) (by simp [changedRun])) (by decide)

end BasiliskServer.Diagnostics
