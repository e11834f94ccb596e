import BasiliskServer.Proofs.World.KeeperSteps

/-!
# What a task does at the points of a session

The session edits documents and tells the companion process of it, sees to it that the right
companion process runs, and announces the open documents to a process that was started.
-/

namespace BasiliskServer.World

open Json (Value Fields)
open Diagnostics (Document Store)

/-! ## Documents -/

/-- The text and the version of a document. -/
def contentOf (document : Document) : String × Int :=
  (document.text, document.clientVersion)

theorem content?_view (w : World) (uri : String) :
    w.view.content? uri = (w.session.store.get? uri).map contentOf := by
  simp only [View.content?, view, Store.get?, List.find?_map, Option.map_map]
  rfl

theorem distinct_view (w : World) : w.view.Distinct ↔ w.session.store.Distinct := by
  simp only [View.Distinct, Store.Distinct, view, List.map_map]
  rfl

/-- A document is edited in the store. -/
theorem edits_of_store {w : World} {store : Store} {uri : String} {sync : Sync}
    (hget : ∀ other, (store.get? other).map contentOf =
      if uri = other then sync.content? else (w.session.store.get? other).map contentOf)
    (hdistinct : w.session.store.Distinct → store.Distinct) :
    w.view.Edits uri sync { w.view with sheets := store.documents.map sheetOf } := by
  let w' : World := { w with session := { w.session with store } }
  have hview : w'.view = { w.view with sheets := store.documents.map sheetOf } := rfl
  refine ⟨fun other => ?_, fun h => ?_⟩
  · rw [← hview, content?_view, content?_view, show w'.session.store = store from rfl, hget other]
    simp only [eq_comm]
  · rw [← hview, distinct_view]
    exact hdistinct ((distinct_view w).1 h)

theorem edits_opened (w : World) (uri text : String) (language : Value) (version : Int) :
    w.view.Edits uri (.opened text version)
      { w.view with
        sheets := (w.session.store.opened uri text language version).documents.map sheetOf } := by
  refine edits_of_store (fun other => ?_) fun h => h.put _
  rw [Store.get?_opened]
  split <;> rfl

theorem edits_changed {w : World} {uri : String} {document : Document}
    (hget : w.session.store.get? uri = some document) (text : String) (version : Option Int) :
    w.view.Edits uri (.changed text (version.getD document.clientVersion))
      { w.view with
        sheets := (w.session.store.changed uri text version).documents.map sheetOf } := by
  refine edits_of_store (fun other => ?_) fun h => ?_
  · rw [Store.get?_changed]
    by_cases heq : uri = other
    · subst heq
      simp [hget, contentOf, Sync.content?]
    · simp [heq]
  · rw [Store.changed, hget]
    exact h.put _

theorem edits_closed (w : World) (uri : String) :
    w.view.Edits uri .closed
      { w.view with sheets := (w.session.store.closed uri).1.documents.map sheetOf } := by
  refine edits_of_store (fun other => ?_) fun h => h.closed uri
  rw [Store.get?_closed]
  split <;> rfl

theorem updateSession_turns (w : World) (change : Session → Session) :
    Turns none w { w.view with sheets := (change w.session).store.documents.map sheetOf }
      (fun _ => True) (updateSession change) :=
  ⟨(Drift.refl w).of_tasks_eq rfl fun _ hq => .inl hq, rfl, trivial⟩

/-- A document is edited, and the companion process is told. -/
theorem edit_handles {w : World} {point : Point} {pts : List Point} (h : Stands w point pts)
    (hholds : point.holds = false) (hticket : point.ticket? = none) {uri : String} {sync : Sync}
    {sheets : List Sheet} (hedits : w.view.Edits uri sync { w.view with sheets })
    {method : String} {params : Value} {act : Act Next}
    (hturns : Turns none w (View.forward { w.view with sheets } method params) Plain act)
    (hheard : heard [(method, params)] = [(uri, sync)]) :
    Handles w pts none false (some (uri, sync)) act := by
  obtain ⟨hcoherent, hsheets, hlearns⟩ := (h.coherent_rest.setSheets sheets).forward method params
  rw [hheard] at hlearns
  have hkeeper := forward_keeper { w.view with sheets } method params
  refine .of_leads (hturns.imp fun _ => Leads.of_plain) hcoherent (by simp)
    (fun w' hdrift hview => h.exclusive_rest hholds hticket hkeeper hdrift hview) trivial rfl
    (.edit ⟨fun other => ?_, fun hdistinct => ?_⟩ hlearns)
  · rw [View.content?, hsheets]
    exact hedits.content? other
  · rw [View.Distinct, hsheets]
    exact hedits.distinct hdistinct

/-- A document is opened: the companion process is told what is in the store then. -/
theorem openDocument_turns (w : World) (uri text : String) (language : Value) (version : Int) :
    Turns none w
      (View.forward
        { w.view with
          sheets := (w.session.store.opened uri text language version).documents.map sheetOf }
        "textDocument/didOpen"
        (openParams
          { uri, text, language, clientVersion := version
            version := ((w.session.store.get? uri).map (·.version + 1)).getD 0 }))
      Plain (openDocument uri text language version) := by
  have hopened := updateSession_turns w fun s =>
    { s.rememberNew uri text with
      store := s.store.opened uri text language version
      symbols := s.symbols.index uri text }
  have hget := Store.get?_opened w.session.store uri text language version uri
  rw [if_pos rfl] at hget
  refine .bind_run hopened.drift (.get_bind ?_)
  rw [← hopened.view]
  show Turns none _ _ _ (do
    ((w.session.store.opened uri text language version).get? uri).forM forwardOpen
    validate uri .opened)
  rw [hget]
  exact (forward_turns _ _ _).seq_modest fun _ => validate_modest uri .opened

theorem openDocument_handles {w : World} {point : Point} {pts : List Point} (h : Stands w point pts)
    (hholds : point.holds = false) (hticket : point.ticket? = none) (uri text : String)
    (language : Value) (version : Int) :
    Handles w pts none false (some (uri, .opened text version))
      (openDocument uri text language version) :=
  edit_handles h hholds hticket (edits_opened w uri text language version)
    (openDocument_turns w uri text language version) (Coherent.heard_openParams _)

/-- The parameters with which a document is changed. -/
def changeParams (uri text : String) (version : Int) : Value :=
  .object
    [("textDocument", .object [("uri", .string uri), ("version", .int version)]),
     ("contentChanges", .array [.object [("text", .string text)]])]

/-- The parameters with which a document is changed say its text and its version. -/
theorem heard_changeParams (uri text : String) (version : Int) :
    heard [("textDocument/didChange", changeParams uri text version)] =
      [(uri, .changed text version)] :=
  rfl

/-- The parameters with which a document is closed say that it is closed. -/
theorem heard_closed (uri : String) :
    heard [("textDocument/didClose", documentParams uri)] = [(uri, .closed)] :=
  rfl

theorem changed_eq_self {store : Store} {uri : String} (hget : store.get? uri = none) (text : String)
    (version : Option Int) : store.changed uri text version = store := by
  rw [Store.changed, hget]

theorem changeDocument_handles {w : World} {point : Point} {pts : List Point}
    (h : Stands w point pts) (hholds : point.holds = false) (hticket : point.ticket? = none)
    (uri text : String) (version : Option Int) :
    Handles w pts none false
      ((w.session.store.get? uri).map fun document =>
        (uri, .changed text (version.getD document.clientVersion)))
      (changeDocument uri text version) := by
  have hchanged := updateSession_turns w fun s =>
    { s.rememberChange uri text with store := s.store.changed uri text version }
  have hget' := Store.get?_changed w.session.store uri text version uri
  rw [if_pos rfl] at hget'
  cases hget : w.session.store.get? uri with
  | none =>
    -- a document that is not open stays as it is
    rw [hget] at hget'
    have hsame : (w.session.store.changed uri text version).documents.map sheetOf =
        w.view.sheets := by
      rw [changed_eq_self hget]
      rfl
    have hturns : Turns none w w.view Plain (changeDocument uri text version) := by
      have hview : { w.view with
          sheets := (w.session.store.changed uri text version).documents.map sheetOf } = w.view := by
        rw [hsame]
      refine .bind_run hchanged.drift (.get_bind ?_)
      rw [← hview, ← hchanged.view]
      split
      · exact .of_modest (.finish .unit) _
      · cases hget'.symm.trans ‹_›
    exact .of_leads (hturns.imp fun _ => Leads.of_plain) h.coherent_rest (by simp)
      (fun w' hdrift hview => h.exclusive_rest hholds hticket rfl hdrift hview) trivial rfl
      (.aside (.refl _))
  | some document =>
    rw [hget] at hget'
    refine edit_handles h hholds hticket (edits_changed hget text version) ?_
      (heard_changeParams uri text _)
    refine .bind_run hchanged.drift (.get_bind ?_)
    rw [← hchanged.view]
    split
    · cases hget'.symm.trans ‹_›
    · obtain rfl := Option.some.inj (hget'.symm.trans ‹_›)
      refine .modest_seq (updateSession_quiet _ fun _ => rfl) fun _ w' hw' => ?_
      rw [← hw']
      exact (forward_turns w' _ _).seq_modest fun _ => validate_modest uri .changed

theorem saveDocument_handles {w : World} {point : Point} {pts : List Point} (h : Stands w point pts)
    (hholds : point.holds = false) (hticket : point.ticket? = none) (uri : String) :
    Handles w pts none false none (saveDocument uri) := by
  have hturns : Turns none w (w.view.forward "textDocument/didSave" (documentParams uri)) Plain
      (saveDocument uri) :=
    (forward_turns w _ _).seq_modest fun _ => validate_modest uri .saved
  obtain ⟨hcoherent, hsheets, hlearns⟩ :=
    h.coherent_rest.forward "textDocument/didSave" (documentParams uri)
  -- it says nothing about what is open
  have hnothing : heard [("textDocument/didSave", documentParams uri)] = [] := rfl
  rw [hnothing] at hlearns
  have hkeeper := forward_keeper w.view "textDocument/didSave" (documentParams uri)
  exact .of_leads (hturns.imp fun _ => Leads.of_plain) hcoherent (by simp)
    (fun w' hdrift hview => h.exclusive_rest hholds hticket hkeeper hdrift hview) trivial rfl
    (.aside (hlearns.aside hsheets))

/-! ## The companion process -/

/-- A task stands above a point that is not counted. -/
theorem Stands.push {w : World} {point next : Point} {pts : List Point} (h : Stands w point pts)
    (hplaced : w.view.Places next) (hholds : next.holds = false) (hticket : next.ticket? = none)
    (hstart : next.isStart = false) (hconnected : next.isConnected = false) :
    Stands w point (next :: pts) where
  coherent := by
    have hadded : Coherent w.view ([next] ++ point :: pts) := h.coherent.add fun other hother => by
      rw [List.mem_singleton.1 hother]
      exact hplaced
    refine hadded.of_subset fun other hother => ?_
    simp only [List.mem_cons, List.mem_append, List.not_mem_nil, or_false] at hother ⊢
    tauto
  exclusive := by
    have hadded : Exclusive w false ([next] ++ point :: pts) :=
      h.exclusive.add fun other hother => by
        rw [List.mem_singleton.1 hother]
        exact ⟨hholds, hticket⟩
    exact hadded.of_perm (List.Perm.swap next point pts)
  reported := fun role hrole => by
    obtain ⟨other, hother, hexpects⟩ := h.reported role hrole
    exact ⟨other, List.mem_cons_of_mem _ hother, hexpects⟩
  starts := by
    rw [List.countP_cons, List.countP_cons, hstart, hconnected]
    exact h.starts

theorem shutdown_handles {w : World} {point : Point} {pts : List Point} (h : Stands w point pts)
    (hholds : point.holds = false) (hticket : point.ticket? = none) :
    Handles w pts none false none shutdown := by
  have hquiet : Quiet (w.session.tasks.forM fun task => modifyTasks (·.interrupt task)) :=
    .forM fun task _ => interrupt_quiet task
  exact .get_bind (.after_quiet hquiet (takeTurn_handles (h.background (hquiet w).1) hholds hticket
    isGate_admittedToStop (fun _ => rfl) fun _ _ => trivial))

theorem failing_handles {w : World} {point : Point} {pts : List Point} (h : Stands w point pts)
    (hholds : point.holds = false) (hticket : point.ticket? = none) (failure : Failure) :
    Handles w pts none false none (fail failure) :=
  modest_handles h hholds hticket (.fail failure)

theorem ensureCompanion_handles {w : World} {point : Point} {pts : List Point}
    (h : Stands w point pts) (hholds : point.holds = false) (hticket : point.ticket? = none)
    (revalidate : Bool) : Handles w pts none false none (ensureCompanion revalidate) := by
  refine .get_bind ?_
  split
  · exact failing_handles h hholds hticket _
  · rename_i config _
    have hpushed : Stands w point (.session (.ensured revalidate) :: pts) :=
      h.push trivial rfl rfl rfl rfl
    exact .under (takeTurn_handles hpushed hholds hticket (isGate_admitted config) (fun _ => rfl)
      fun _ _ => trivial)

theorem noteCompiler_handles {w : World} {point : Point} {pts : List Point} (h : Stands w point pts)
    (hholds : point.holds = false) (hticket : point.ticket? = none) (settings : Settings)
    (works : Bool) (compiler : String) (revalidate : Bool) :
    Handles w pts none false none (noteCompiler settings works compiler revalidate) := by
  have hnoted : ∀ w', Background w w' → Handles w' pts none false none (do
      updateSession fun s => { s with compilerWorks := works }
      ensureCompanion revalidate) := by
    intro w' hback
    have hquiet := updateSession_quiet (fun s => { s with compilerWorks := works }) fun _ => rfl
    exact .after_quiet hquiet (ensureCompanion_handles
      ((h.background hback).background (hquiet w').1) hholds hticket revalidate)
  unfold noteCompiler
  split
  · split
    · exact .after_quiet (log_quiet _ _) (hnoted _ (log_quiet _ _ w).1)
    · exact .after_quiet (log_quiet _ _) (hnoted _ (log_quiet _ _ w).1)
  · exact hnoted w (.refl w)

theorem checkCompiler_handles {w : World} {point : Point} {pts : List Point} (h : Stands w point pts)
    (hholds : point.holds = false) (hticket : point.ticket? = none) (revalidate : Bool) :
    Handles w pts none false none (checkCompiler revalidate) := by
  refine .get_bind ?_
  dsimp only
  split
  · exact failing_handles h hholds hticket _
  · exact noteCompiler_handles h hholds hticket _ _ _ _
  · exact modest_handles h hholds hticket (.under rfl (testCompiler_modest _))

theorem refreshed_handles {w : World} {revalidate : Bool} {pts : List Point}
    (h : Stands w (.session (.refreshed revalidate)) pts) (outcome : Outcome) :
    Handles w pts none false none ((Point.session (.refreshed revalidate)).resume outcome) := by
  show Handles w pts none false none (SessionPoint.resume _ outcome)
  unfold SessionPoint.resume
  split <;> first | contradiction | skip
  · rename_i editor heq
    cases heq
    refine .get_bind ?_
    have hresolved := resolveSettings_quiet w.session.root w.session.root editor
    refine .after_quiet hresolved ?_
    have h' := h.background (hresolved w).1
    split
    · exact failing_handles h' rfl rfl _
    · rename_i settings _
      have hquiet := updateSession_quiet (fun s => { s with settings }) fun _ => rfl
      exact .after_quiet hquiet
        (checkCompiler_handles (h'.background (hquiet _).1) rfl rfl revalidate)
  · exact modest_handles h rfl rfl (.give _)

theorem tested_handles {w : World} {settings : Settings} {compiler : String} {revalidate : Bool}
    {pts : List Point} (h : Stands w (.session (.tested settings compiler revalidate)) pts)
    (outcome : Outcome) : Handles w pts none false none
      ((Point.session (.tested settings compiler revalidate)).resume outcome) := by
  show Handles w pts none false none (SessionPoint.resume _ outcome)
  unfold SessionPoint.resume
  split <;> first | contradiction | skip
  · rename_i works heq
    cases heq
    exact noteCompiler_handles h rfl rfl _ _ _ _
  · exact modest_handles h rfl rfl (.give _)

/-- After the companion process was seen to, the documents may be checked again. -/
theorem recheck_modest (revalidate : Bool) : Modest Plain (do
    if revalidate then
      (← get).session.store.documents.forM fun document =>
        schedule (.validate document.uri .opened)
    finish .unit) := by
  cases revalidate with
  | false => exact .finish _
  | true =>
    refine .get_bind fun w => .seq (.forM fun document _ => schedule_quiet rfl) fun _ => ?_
    exact .finish _

theorem afterEnsure_handles {w : World} {point : Point} {pts : List Point} (h : Stands w point pts)
    (hholds : point.holds = false) (hticket : point.ticket? = none) (started revalidate : Bool) :
    Handles w pts none started none (afterEnsure started revalidate) := by
  cases started with
  | false => exact modest_handles h hholds hticket (recheck_modest revalidate)
  | true =>
    have hturns : Turns none w (w.view.announce w.session.store.documents) Plain
        (afterEnsure true revalidate) :=
      .get_bind ((announce_turns w _).seq_modest fun _ => recheck_modest revalidate)
    obtain ⟨hcoherent, hsheets, hlearns⟩ := h.coherent_rest.announce w.session.store.documents
    have hopenings : (w.session.store.documents.map fun document => (sheetOf document).opening) =
        w.view.sheets.map Sheet.opening := by
      simp [view]
    rw [hopenings] at hlearns
    exact .of_leads (hturns.imp fun _ => Leads.of_plain) hcoherent (by simp)
      (fun w' hdrift hview => h.exclusive_rest hholds hticket (announce_keeper _ _) hdrift hview)
      trivial rfl (.announce hsheets hlearns)

theorem ensured_handles {w : World} {revalidate : Bool} {pts : List Point}
    (h : Stands w (.session (.ensured revalidate)) pts) (outcome : Outcome) :
    Handles w pts none (announces (some .service) outcome) none
      ((Point.session (.ensured revalidate)).resume outcome) := by
  cases outcome with
  | ok answer =>
    cases answer with
    | bool started =>
      have hannounces : announces (some .service) (.ok (.bool started)) = started := by
        cases started <;> rfl
      rw [hannounces]
      exact afterEnsure_handles h rfl rfl started revalidate
    | _ => exact modest_handles h rfl rfl (.give _)
  | error failure =>
    cases failure with
    | startFailed path =>
      exact modest_handles h rfl rfl (.seq (log_quiet _ _) fun _ => .seq (popUp_quiet _ _) fun _ =>
        recheck_modest revalidate)
    | _ => exact modest_handles h rfl rfl (.give _)

/-! ## Every point -/

theorem start_handles {w : World} {activity : Activity} {pts : List Point}
    (h : Stands w (.start activity) pts) (outcome : Outcome) :
    Handles w pts none false ((Point.start activity).edit? w outcome)
      ((Point.start activity).resume outcome) := by
  have hactivity : activity.isOfSession := h.coherent.placed _ List.mem_cons_self
  -- Only four activities of a session deal with documents or the keeper; all others are quiet.
  by_cases hquiet : activity.isQuiet
  · have hedit : (Point.start activity).edit? w outcome = none := by
      unfold Point.edit?
      split <;> first | rfl | (rename_i heq; cases heq; cases hquiet)
    rw [hedit]
    have hpoint : (Point.start activity).isQuiet := hquiet
    exact modest_handles h rfl rfl (Point.resume_modest hpoint outcome)
  · cases outcome with
    | error failure =>
      have hedit : (Point.start activity).edit? w (.error failure) = none := by
        unfold Point.edit?
        split <;> first | rfl | contradiction
      rw [hedit]
      exact failing_handles h rfl rfl failure
    | ok answer =>
      cases activity with
      | openDocument uri text language version => exact openDocument_handles h rfl rfl _ _ _ _
      | changeDocument uri text version => exact changeDocument_handles h rfl rfl _ _ _
      | saveDocument uri => exact saveDocument_handles h rfl rfl _
      | shutdown => exact shutdown_handles h rfl rfl
      | _ => simp_all [Activity.isQuiet, Activity.isOfSession, Activity.isCall, Activity.isErrand]

/-- At every point of a session a task does what it should. -/
theorem Point.resume_handles {w : World} {point : Point} {pts : List Point} (h : Stands w point pts)
    {outcome : Outcome} (hdelivers : Delivers w outcome point.expects) :
    Handles w pts point.reports (announces point.expects outcome) (point.edit? w outcome)
      (point.resume outcome) := by
  cases point with
  | start activity => exact start_handles h outcome
  | wait point => exact modest_handles h rfl rfl (point.resume_modest outcome)
  | tool point => cases h.coherent.placed _ List.mem_cons_self
  | program point =>
    cases point with
    | starting script command => exact starting_handles h outcome
    | _ => exact modest_handles h rfl rfl (Point.resume_modest rfl outcome)
  | channel point =>
    cases point with
    | opened channel => exact opened_handles h hdelivers
    | asked channel process => exact asked_handles h outcome
    | killed channel => exact killed_handles h outcome
    | quiet channel => exact quiet_handles h outcome
    | gone channel process => exact gone_handles h outcome
    | _ => exact modest_handles h rfl rfl (Point.resume_modest rfl outcome)
  | connection point =>
    cases point with
    | opened number channel => exact connectionOpened_handles h hdelivers
    | abandoned => exact abandoned_handles h outcome
    | greeted number channel => exact greeted_handles h outcome
    | refused number => exact refused_handles h outcome
    | parted number channel => exact parted_handles h outcome
    | closed number channel => exact closed_handles h outcome
    | awaited number method params limit =>
      exact modest_handles h rfl rfl (Point.resume_modest rfl outcome)
  | keeper point =>
    cases point with
    | admitted config ticket => cases ticket <;> exact admitted_handles h hdelivers
    | admittedToStop ticket => cases ticket <;> exact admittedToStop_handles h hdelivers
    | disconnected => exact disconnected_handles h outcome
    | cleared => exact cleared_handles h outcome
    | vacated config => exact vacated_handles h outcome
    | connected config => exact connected_handles h outcome
    | failed config => exact failed_handles h outcome
    | released => exact released_handles h outcome
  | session point =>
    cases point with
    | refreshed revalidate => exact refreshed_handles h outcome
    | tested settings compiler revalidate => exact tested_handles h outcome
    | ensured revalidate => exact ensured_handles h outcome
    | _ => exact modest_handles h rfl rfl (Point.resume_modest rfl outcome)

end BasiliskServer.World
