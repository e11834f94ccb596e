import BasiliskServer.Proofs.World.Background.Channels

/-!
# The session in the background

One lemma for each action that looks up settings, stores and shows problems or answers the editor, and
what follows for every point of a task that does no more (`Point.resume_modest`): all of this changes
things in the background only.
-/

namespace BasiliskServer.World

open Json (Value Fields)
open Wire (Diagnostic)
open Tasks (Notice Scheduler)

/-! ## Settings -/

theorem fetch_modest (scope : Option String) : Modest Plain (fetch scope) := by
  refine .get_bind fun w => .seq (note_quiet fun _ => rfl) fun _ => .under rfl ?_
  split
  · exact .finish _
  · exact sleep_modest _

theorem complain_quiet (path : Files.Path) (problem : String) : Quiet (complain path problem) := by
  refine .get_bind fun w => ?_
  split
  · exact .seq (updateSession_quiet _ fun _ => rfl) fun _ => log_quiet _ _
  · exact .pure trivial

theorem resolveSettings_quiet (start root : Option Files.Path) (editor : Value) :
    Quiet (resolveSettings start root editor) := by
  refine .get_bind fun w => ?_
  simp only
  split
  · exact .pure trivial
  · refine .seq (.forM_option fun complaint _ => complain_quiet _ _) fun _ => .pure trivial

theorem refresh_modest (revalidate : Bool) : Modest Plain (refresh revalidate) := by
  refine .get_bind fun w => .under rfl ?_
  split
  · exact fetch_modest none
  · exact .finish _

theorem lookUp_modest (uri : String) : Modest Plain (lookUp uri) :=
  .under rfl (fetch_modest (some uri))

theorem documentSettings_modest (uri : String) : Modest Plain (documentSettings uri) := by
  refine .of_get fun w => ?_
  simp only
  split
  · exact Modest.finish _ w
  · split
    · exact lookUp_modest uri w
    · rename_i document hget
      split
      · exact waitShielded_modest _ w
      · have hspawned := (Background.refl w).spawn (.lookUp uri) rfl
        have hstored := hspawned.setSession
          { w.session with
            store := w.session.store.put
              { document with lookup := some w.tasks.promises.length } }
          (sheets_put hget rfl)
        exact ⟨(waitShielded_modest _).after hstored, (waitShielded_modest _ _).2⟩

/-! ## The session -/

theorem registerAndStart_modest : Modest Plain registerAndStart := by
  refine .get_bind fun w => ?_
  simp only
  split
  · exact .seq (note_quiet fun _ => rfl) fun _ => refresh_modest false
  · exact refresh_modest false

theorem reconfigure_modest (payload : Value) : Modest Plain (reconfigure payload) := by
  refine .seq (updateSession_quiet _ fun s => ?_) fun _ => refresh_modest true
  simp [sheetOf, Function.comp_def]

theorem settleDown_modest : Modest Plain settleDown := by
  refine .get_bind fun w => ?_
  split
  · exact .finish _
  · exact waitAll_modest _ rfl

theorem validate_modest (uri : String) (trigger : Settings.Trigger) :
    Modest Plain (validate uri trigger) :=
  .under rfl (documentSettings_modest uri)

theorem commitOwn_modest (uri : String) (version : Nat) (settings : Settings)
    (found : List Diagnostic) : Modest Plain (commitOwn uri version settings found) := by
  refine .of_get fun w => ?_
  refine ⟨?_, (Modest.finish .unit w).2⟩
  have hstored := (Background.refl w).setSession
    { w.session with
      store := (w.session.store.commitOwn uri version found settings.maxProblems).1 }
    (sheets_commitOwn _ uri version found _)
  exact (display_quiet _).after hstored

theorem checkDocument_modest (uri : String) (trigger : Settings.Trigger) (settings : Settings) :
    Modest Plain (checkDocument uri trigger settings) := by
  unfold checkDocument
  split
  · exact .finish _
  · refine .get_bind fun w => ?_
    split
    · exact .finish _
    · simp only
      split
      · exact .under rfl (compile_modest _ _ _ _ _)
      · exact commitOwn_modest _ _ _ _

theorem commitPush_modest (uri : String) (generation : Nat) (diagnostics : List Diagnostic) :
    Modest Plain (commitPush uri generation diagnostics) :=
  .under rfl (documentSettings_modest uri)

theorem storeReport_modest (uri : String) (generation : Nat) (diagnostics : List Diagnostic)
    (settings : Settings) : Modest Plain (storeReport uri generation diagnostics settings) := by
  refine .of_get fun w => ?_
  simp only
  split
  · exact Modest.finish _ w
  · split
    · exact Modest.finish _ w
    · refine ⟨?_, (Modest.finish .unit w).2⟩
      refine (display_quiet _).after ((Background.refl w).setSession _ ?_)
      exact sheets_commitPush _ uri generation _ _ _

theorem republish_modest (uri : String) : Modest Plain (republish uri) :=
  .under rfl (documentSettings_modest uri)

/-! ## Features for the editor -/

theorem complete_modest (cursor : Cursor) : Modest Plain (complete cursor) :=
  .get_bind fun _ => .under rfl (documentSettings_modest _)

theorem resolveItem_modest (item : Wire.CompletionItem) : Modest Plain (resolveItem item) := by
  refine .get_bind fun w => ?_
  simp only
  split
  · exact .under rfl (ask_modest _ _ _ _)
  · exact .finish _

theorem ifOpen_modest (uri : String) (otherwise : Answer) {activity : Act Next}
    (h : Modest Plain activity) : Modest Plain (ifOpen uri otherwise activity) := by
  refine .get_bind fun w => ?_
  split
  · exact h
  · exact .finish _

theorem explain_modest (cursor : Cursor) : Modest Plain (explain cursor) :=
  ifOpen_modest _ _ (.under rfl (documentSettings_modest _))

theorem define_modest (cursor : Cursor) : Modest Plain (define cursor) :=
  ifOpen_modest _ _ (.under rfl (documentSettings_modest _))

theorem refer_modest (cursor : Cursor) : Modest Plain (refer cursor) :=
  ifOpen_modest _ _ (.get_bind fun _ => .under rfl (documentSettings_modest _))

theorem outline_modest (uri : String) (params : Value) : Modest Plain (outline uri params) :=
  .under rfl (documentSettings_modest uri)

theorem search_modest (query : String) (params : Value) : Modest Plain (search query params) :=
  .get_bind fun _ => .under rfl (proxy_modest _ _ _)

theorem finishDefinition_modest (value : Option Value) (cursor : Cursor) : Modest Plain (do
    match companionDefinition? value with
    | some definition => finish (.definition definition)
    | none => finish (.definition (ownDefinition (← get).session cursor))) := by
  split
  · exact .finish _
  · exact .get_bind fun _ => .finish _

/-- In a session, where the companion process is not seen to. -/
theorem SessionPoint.resume_modest {point : SessionPoint}
    (hrefreshed : ∀ revalidate, point ≠ .refreshed revalidate)
    (htested : ∀ settings compiler revalidate, point ≠ .tested settings compiler revalidate)
    (hensured : ∀ revalidate, point ≠ .ensured revalidate) (outcome : Outcome) :
    Modest Plain (point.resume outcome) := by
  unfold SessionPoint.resume
  split
  · exact .finish _
  · exact absurd rfl (hrefreshed _)
  · exact absurd rfl (htested _ _ _)
  · exact absurd rfl (hensured _)
  · exact absurd rfl (hensured _)
  · split
    · exact .fail _
    · exact .get_bind fun w => .seq (resolveSettings_quiet _ _ _) fun _ => .give _
  · exact checkDocument_modest _ _ _
  · exact commitOwn_modest _ _ _ _
  · split
    · exact .seq (log_quiet _ _) fun _ => commitOwn_modest _ _ _ _
    · exact .fail _
  · exact storeReport_modest _ _ _ _
  · exact .get_bind fun w => .seq (display_quiet _) fun _ => .finish _
  · exact settleDown_modest
  · exact .finish _
  · split
    · exact .finish _
    · exact .fail _
  · exact .under rfl (proxy_modest _ _ _)
  · exact .finish _
  · exact .finish _
  · split
    · exact .finish _
    · exact .fail _
  · exact .get_bind fun w => .under rfl (proxy_modest _ _ _)
  · exact .finish _
  · exact .under rfl (proxy_modest _ _ _)
  · exact finishDefinition_modest _ _
  · exact .under rfl (proxy_modest _ _ _)
  · split
    · exact .finish _
    · exact .get_bind fun _ => .finish _
  · exact .under rfl (proxy_modest _ _ _)
  · split
    · exact .finish _
    · exact .get_bind fun _ => .finish _
  · split
    · exact .finish _
    · exact .get_bind fun _ => .finish _
  · exact .give _

/-! ## Points -/

/-- What can be started in a session without telling the companion process of a document and
without seeing to the companion process. -/
def Activity.isQuiet : Activity → Bool
  | .openDocument _ _ _ _ | .changeDocument _ _ _ | .saveDocument _ | .shutdown => false
  | activity => activity.isOfSession

/-- The points at which a task goes on in the background. -/
def Point.isQuiet : Point → Bool
  | .start activity => activity.isQuiet
  | .channel (.gone _ _) => false
  | .session (.refreshed _) | .session (.tested _ _ _) => false
  | point => point.isPlain

theorem beginActivity_modest {activity : Activity} (h : activity.isQuiet) :
    Modest Plain (beginActivity activity) := by
  cases activity with
  | readOutput channel => exact withProcess_modest channel (readOutput_modest channel)
  | readErrors channel => exact withProcess_modest channel (readErrors_modest channel)
  | watch channel reader => exact withProcess_modest channel fun process => waitAll_modest _ rfl
  | awaitExit process => exact awaitExit_modest process
  | communicate command => exact communicate_modest command
  | startup => exact refresh_modest false
  | registerAndStart => exact registerAndStart_modest
  | reconfigure payload => exact reconfigure_modest payload
  | settleDown => exact settleDown_modest
  | lookUp uri => exact lookUp_modest uri
  | validate uri trigger => exact validate_modest uri trigger
  | commitPush uri generation diagnostics => exact commitPush_modest uri generation diagnostics
  | republish uri => exact republish_modest uri
  | complete cursor => exact complete_modest cursor
  | resolveItem item => exact resolveItem_modest item
  | hover cursor => exact explain_modest cursor
  | define cursor => exact define_modest cursor
  | refer cursor => exact refer_modest cursor
  | outline uri params => exact outline_modest uri params
  | search query params => exact search_modest query params
  | _ => cases h

theorem ChannelPoint.resume_modest {point : ChannelPoint} (h : (Point.channel point).isQuiet)
    (outcome : Outcome) : Modest Plain (point.resume outcome) := by
  unfold ChannelPoint.resume
  split
  · cases h
  · exact readOutput_modest _ _
  · exact readErrors_modest _ _
  · exact .under rfl (awaitExit_modest _)
  · cases h
  · cases h
  · cases h
  · cases h
  · cases h
  · exact .give _

/-- At a point in the background a task goes on in the background. -/
theorem Point.resume_modest {point : Point} (h : point.isQuiet) (outcome : Outcome) :
    Modest Plain (point.resume outcome) := by
  cases point with
  | start activity =>
    cases outcome with
    | ok answer => exact beginActivity_modest h
    | error failure => exact .fail failure
  | wait point => exact point.resume_modest outcome
  | program point =>
    refine ProgramPoint.resume_modest (fun script command heq => ?_) outcome
    rw [heq] at h
    cases h
  | channel point => exact point.resume_modest h outcome
  | connection point =>
    cases point with
    | awaited number method params limit =>
      show Modest Plain (ConnectionPoint.resume _ outcome)
      unfold ConnectionPoint.resume
      split
      all_goals first
        | rename_i heq; cases heq
        | skip
      · split
        · exact askReady_modest _ _ _ _
        · exact .fail _
      · exact .give _
    | _ => cases h
  | keeper point => cases h
  | tool point => cases h
  | session point =>
    refine SessionPoint.resume_modest ?_ ?_ ?_ outcome
    · rintro revalidate rfl
      cases h
    · rintro settings compiler revalidate rfl
      cases h
    · rintro revalidate rfl
      cases h

end BasiliskServer.World
