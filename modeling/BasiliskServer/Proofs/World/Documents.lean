import BasiliskServer.Proofs.World.Service

/-!
# What companion processes know of the documents

Seen from the documents a run is a sequence of deeds. A process is informed if the last that it was
told, or is about to be told, about every document is what the document has now, or that it is
closed (`Informed`); every deed keeps it so. What a process is told makes sense from beginning to
end unless a document was edited while the connection to it was starting: `Deed.follows_iff` says
what exactly has to be the case when a connection becomes ready.
-/

namespace BasiliskServer.World

/-! ## What is said about one document -/

/-- What is said about one document. -/
def about (uri : String) (said : List (String × Sync)) : List Sync :=
  said.filterMap fun entry => if entry.1 = uri then some entry.2 else none

theorem about_append (uri : String) (said said' : List (String × Sync)) :
    about uri (said ++ said') = about uri said ++ about uri said' := by
  simp [about]

theorem about_singleton (uri other : String) (sync : Sync) :
    about uri [(other, sync)] = if other = uri then [sync] else [] := by
  by_cases h : other = uri <;> simp [about, h]

namespace Sync

/-- The text and the version that a document has after what was said about it; nothing if it is
not known to be open. -/
def lastContent? (said : List Sync) : Option (String × Int) :=
  said.getLast?.bind content?

/-- Whether a document that is open or not at first is open after what was said about it. -/
def isOpenAfter (isOpen : Bool) (said : List Sync) : Bool :=
  said.foldl (fun _ sync => sync.content?.isSome) isOpen

theorem lastContent?_append_singleton (said : List Sync) (sync : Sync) :
    lastContent? (said ++ [sync]) = sync.content? := by
  simp [lastContent?]

theorem isOpenAfter_append (isOpen : Bool) (said said' : List Sync) :
    isOpenAfter isOpen (said ++ said') = isOpenAfter (isOpenAfter isOpen said) said' :=
  List.foldl_append

theorem isOpenAfter_false (said : List Sync) :
    isOpenAfter false said = (lastContent? said).isSome := by
  rcases List.eq_nil_or_concat said with rfl | ⟨before, sync, rfl⟩
  · rfl
  · rw [List.concat_eq_append, isOpenAfter_append, lastContent?_append_singleton]
    rfl

theorem follows_append {isOpen : Bool} {said said' : List Sync} :
    Follows isOpen (said ++ said') ↔
      Follows isOpen said ∧ Follows (isOpenAfter isOpen said) said' := by
  induction said generalizing isOpen with
  | nil => simp [Follows, isOpenAfter]
  | cons sync rest ih =>
    rw [List.cons_append, Follows, Follows, ih, and_assoc]
    rfl

/-- What is said about a document when it is announced as it is. -/
def announcement (content : Option (String × Int)) : List Sync :=
  content.toList.map fun (text, version) => .opened text version

/-- What waits for a process that knows nothing makes sense, together with the announcement
afterwards: nothing waits, or the document was opened and is closed again. -/
def IsClean (isOpen : Bool) (said : List Sync) : Prop :=
  said = [] ∨ isOpen = false ∧ ∃ text version rest, said = .opened text version :: rest

/-- What was said about a document, and then its announcement, make sense to a process that knows
nothing only if nothing was said, or the document was opened and is closed again. -/
theorem follows_announcement {isOpen : Bool} {said : List Sync} {content : Option (String × Int)}
    (hsaid : Follows isOpen said) (hafter : isOpenAfter isOpen said = content.isSome) :
    Follows false (said ++ announcement content) ↔ IsClean content.isSome said := by
  have hannounced : ∀ b : Bool, Follows b (announcement content) ↔ b = false ∨ content = none := by
    intro b
    cases content with
    | none => simp [announcement, Follows]
    | some c => simp [announcement, Follows, Fits]
  rw [follows_append, hannounced]
  cases said with
  | nil => simp [Follows, isOpenAfter, IsClean]
  | cons sync rest =>
    have hsame : isOpenAfter false (sync :: rest) = content.isSome := hafter
    have hfirst : sync.Fits false ↔ ∃ text version, sync = .opened text version := by
      cases sync <;> simp [Fits]
    rw [hsame, Follows, hfirst]
    cases content <;> simp [IsClean, hsaid.2]

end Sync

open Sync (lastContent? isOpenAfter Follows announcement IsClean)

namespace View

variable {v next : View}

/-- What a process was told about a document, in order. -/
def told (v : View) (process : Nat) (uri : String) : List Sync :=
  v.syncs.filterMap fun (p, u, sync) => if p = process ∧ u = uri then some sync else none

/-- What is said about a document when the open documents are announced. -/
def openings (v : View) (uri : String) : List Sync :=
  about uri (v.sheets.map Sheet.opening)

/-- What a process was told about a document, and what it is about to be told. -/
def toldSoon (v : View) (announcing : Bool) (process : Nat) (uri : String) : List Sync :=
  v.told process uri ++
    if announcing ∧ v.service = .ready process then v.openings uri else []

/-- No document is announced twice. -/
theorem openings_eq (h : v.Distinct) (uri : String) :
    v.openings uri = announcement (v.content? uri) := by
  rw [openings, View.content?]
  rw [Distinct] at h
  generalize v.sheets = sheets at h
  induction sheets with
  | nil => rfl
  | cons sheet rest ih =>
    rw [List.map_cons] at h
    obtain ⟨hnew, hrest⟩ := List.nodup_cons.1 h
    -- If the first sheet is the one that is asked for, then no other is.
    by_cases heq : sheet.uri = uri
    · have hnone : about uri (rest.map Sheet.opening) = [] := by
        refine List.filterMap_eq_nil_iff.2 fun entry hentry => ?_
        obtain ⟨other, hother, rfl⟩ := List.mem_map.1 hentry
        have hne : other.uri ≠ uri := fun hsame =>
          hnew (List.mem_map.2 ⟨other, hother, hsame.trans heq.symm⟩)
        simp [Sheet.opening, hne]
      have hfirst : about uri ((sheet :: rest).map Sheet.opening) =
          .opened sheet.text sheet.version :: about uri (rest.map Sheet.opening) := by
        simp [about, Sheet.opening, heq]
      rw [hfirst, hnone, List.find?_cons_of_pos (by simpa using heq)]
      rfl
    · have hfirst : about uri ((sheet :: rest).map Sheet.opening) =
          about uri (rest.map Sheet.opening) := by
        simp [about, Sheet.opening, heq]
      rw [hfirst, ih hrest, List.find?_cons_of_neg (by simpa using heq)]

/-- When something is said to a process, it is told what concerns each document. -/
theorem told_of_syncs {said : List (String × Sync)} {process : Nat}
    (h : next.syncs = v.syncs ++ said.map fun entry => (process, entry)) (other : Nat)
    (uri : String) :
    next.told other uri = v.told other uri ++ if process = other then about uri said else [] := by
  rw [told, h, List.filterMap_append]
  by_cases heq : process = other <;> simp [told, about, List.filterMap_map, heq]

theorem told_congr (h : next.syncs = v.syncs) (process : Nat) (uri : String) :
    next.told process uri = v.told process uri := by
  rw [told, told, h]

/-- After its announcement a document is known as it is, if it is not known to be open where it is
not. -/
theorem lastContent?_announced {content : Option (String × Int)} {said : List Sync} :
    lastContent? (said ++ announcement content) = content ↔
      (content = none → lastContent? said = none) := by
  cases content with
  | none => simp [announcement]
  | some c => simp [announcement, lastContent?, Sync.content?]

end View

/-! ## Processes are informed -/

/-- A process is told, or about to be told, of every document what it has now. -/
structure Informed (v : View) (announcing : Bool) : Prop where
  /-- No document is open twice. -/
  distinct : v.Distinct
  /-- What waits says of no document that it is open unless it is. -/
  waiting : ∀ waiting, v.service = .starting waiting → ∀ uri, v.content? uri = none →
    lastContent? (about uri waiting) = none
  /-- The last that the process was told of a document, or is about to be told, is as it is. -/
  told : ∀ process, v.service = .ready process → ∀ uri,
    lastContent? (v.toldSoon announcing process uri) = v.content? uri
  /-- Documents are announced to a process only. -/
  serving : announcing → ∃ process, v.service = .ready process

namespace Deed

variable {v next : View} {announcing announcing' : Bool} {edit : Option (String × Sync)}

theorem content?_congr (h : next.sheets = v.sheets) : next.content? = v.content? := by
  funext uri
  rw [View.content?, View.content?, h]

theorem distinct_congr (h : next.sheets = v.sheets) : next.Distinct ↔ v.Distinct := by
  rw [View.Distinct, View.Distinct, h]

/-- A process that is new was told nothing. -/
theorem told_of_isNew {process : Nat} (hnew : v.IsNew process) (uri : String) : v.told process uri = [] := by
  refine List.filterMap_eq_nil_iff.2 fun entry hentry => ?_
  have hne := hnew.2 entry hentry
  simp [hne]

/-- A new process whose connection becomes ready is told what waited, and then what is open. -/
theorem toldSoon_of_ready (hdistinct : v.Distinct) {waiting : List (String × Sync)} {process : Nat}
    (hsheets : next.sheets = v.sheets) (hnew : v.IsNew process) (hready : next.service = .ready process)
    (hsyncs : next.syncs = v.syncs ++ waiting.map fun entry => (process, entry)) (uri : String) :
    next.toldSoon true process uri = about uri waiting ++ announcement (v.content? uri) := by
  rw [View.toldSoon, if_pos ⟨rfl, hready⟩, View.told_of_syncs hsyncs, if_pos rfl, told_of_isNew hnew,
    List.nil_append, View.openings_eq ((distinct_congr hsheets).2 hdistinct), content?_congr hsheets]

/-- Whatever happens, processes stay informed. -/
theorem informed (h : Informed v announcing) (hdeed : Deed v announcing edit next announcing') :
    Informed next announcing' := by
  cases hdeed with
  | aside haside =>
    obtain ⟨hsheets, hsyncs, hservice⟩ := haside
    have hcontent := content?_congr hsheets
    rcases hservice with hservice | hservice
    · refine ⟨(distinct_congr hsheets).2 h.distinct, ?_, ?_, by simp⟩
      · rw [hservice, hcontent]
        exact h.waiting
      · intro process hready uri
        rw [hservice] at hready
        have htold := h.told process hready uri
        simpa [View.toldSoon, View.told_congr hsyncs, hcontent] using htold
    · exact ⟨(distinct_congr hsheets).2 h.distinct, by simp [hservice], by simp [hservice], by simp⟩
  | begin hsheets hsyncs hnone hservice =>
    refine ⟨(distinct_congr hsheets).2 h.distinct, ?_, by simp [hservice], by simp⟩
    intro waiting hwaiting uri _
    rw [hservice] at hwaiting
    cases hwaiting
    rfl
  | @edit _ uri sync hedits hlearns =>
    refine ⟨hedits.distinct h.distinct, ?_, ?_, by simp⟩
    · intro waiting hwaiting other hclosed
      obtain ⟨before, hservice, rfl⟩ := hlearns.of_starting hwaiting
      rw [hedits.content?] at hclosed
      rw [about_append, about_singleton]
      -- the entry is the last one about its own document, and none about any other
      by_cases heq : other = uri
      · subst heq
        rw [if_pos rfl] at hclosed ⊢
        rw [Sync.lastContent?_append_singleton]
        exact hclosed
      · rw [if_neg heq] at hclosed
        rw [if_neg fun hsame => heq hsame.symm, List.append_nil]
        exact h.waiting before hservice other hclosed
    · intro process hready other
      obtain ⟨hservice, hsyncs⟩ := hlearns.of_ready hready
      have htold := h.told process hservice other
      simp only [View.toldSoon, Bool.false_eq_true, false_and, if_false, List.append_nil] at htold ⊢
      rw [hedits.content?, View.told_of_syncs hsyncs, if_pos rfl, about_singleton]
      by_cases heq : other = uri
      · subst heq
        rw [if_pos rfl, if_pos rfl, Sync.lastContent?_append_singleton]
      · rw [if_neg heq, if_neg fun hsame => heq hsame.symm, List.append_nil, htold]
  | @ready _ waiting process hsheets hkept hstarting hnew hready hsyncs =>
    refine ⟨(distinct_congr hsheets).2 h.distinct, by simp [hready], ?_, fun _ => ⟨process, hready⟩⟩
    intro process' hready' uri
    rw [hready] at hready'
    cases hready'
    -- it is told all open documents, and then what waited for it
    rw [toldSoon_of_ready h.distinct hsheets hnew hready hsyncs, content?_congr hsheets,
      View.lastContent?_announced]
    exact h.waiting waiting hstarting uri
  | pass hsheets hsyncs hservice =>
    have hcontent := content?_congr hsheets
    refine ⟨(distinct_congr hsheets).2 h.distinct, ?_, ?_, ?_⟩
    · rw [hservice, hcontent]
      exact h.waiting
    · intro process hready uri
      rw [hservice] at hready
      have htold := h.told process hready uri
      simpa [View.toldSoon, View.told_congr hsyncs, View.openings, hcontent, hservice, hsheets]
        using htold
    · rw [hservice]
      exact h.serving
  | announce hsheets hlearns =>
    have hcontent := content?_congr hsheets
    obtain ⟨process, hservice⟩ := h.serving rfl
    rw [View.Learns, hservice] at hlearns
    refine ⟨(distinct_congr hsheets).2 h.distinct, by simp [hlearns.1], ?_, by simp⟩
    intro process' hready uri
    rw [hlearns.1] at hready
    cases hready
    have htold := h.told process hservice uri
    rw [View.toldSoon, if_pos ⟨rfl, hservice⟩] at htold
    rw [View.toldSoon, if_neg (by simp), View.told_of_syncs hlearns.2, if_pos rfl, List.append_nil,
      hcontent]
    exact htold

end Deed

/-! ## What processes are told makes sense -/

/-- What waits for a process makes sense one after the other, and leaves every document as it is. -/
def InOrder (v : View) : Prop :=
  ∀ waiting, v.service = .starting waiting → ∀ uri, ∃ wasOpen,
    Follows wasOpen (about uri waiting) ∧
      isOpenAfter wasOpen (about uri waiting) = (v.content? uri).isSome

/-- The editor opens a document only while it is closed, and changes or closes it only while it is
open. -/
def View.Accepts (v : View) (edit : Option (String × Sync)) : Prop :=
  ∀ uri sync, edit = some (uri, sync) → sync.Fits (v.content? uri).isSome

namespace Deed

variable {v next : View} {announcing announcing' : Bool} {edit : Option (String × Sync)}

/-- What waits stays in order. -/
theorem inOrder (h : InOrder v) (hdeed : Deed v announcing edit next announcing')
    (hedit : v.Accepts edit) (hserving : announcing → ∃ process, v.service = .ready process) :
    InOrder next := by
  intro waiting hwaiting uri
  -- Only an edit adds to what waits, and it fits what the documents are before it.
  cases hdeed with
  | aside haside =>
    obtain ⟨hsheets, -, hservice⟩ := haside
    rcases hservice with hservice | hservice
    · rw [hservice] at hwaiting
      rw [content?_congr hsheets]
      exact h waiting hwaiting uri
    · rw [hservice] at hwaiting
      cases hwaiting
  | begin hsheets hsyncs hnone hservice =>
    rw [hservice] at hwaiting
    cases hwaiting
    exact ⟨_, trivial, rfl⟩
  | @edit _ edited sync hedits hlearns =>
    obtain ⟨before, hservice, rfl⟩ := hlearns.of_starting hwaiting
    obtain ⟨wasOpen, hfollows, hafter⟩ := h before hservice uri
    refine ⟨wasOpen, ?_⟩
    rw [hedits.content?, about_append, about_singleton, Sync.follows_append,
      Sync.isOpenAfter_append, hafter]
    by_cases heq : uri = edited
    · subst heq
      rw [if_pos rfl, if_pos rfl]
      exact ⟨⟨hfollows, hedit uri sync rfl, trivial⟩, rfl⟩
    · rw [if_neg heq, if_neg fun hsame => heq hsame.symm]
      exact ⟨⟨hfollows, trivial⟩, rfl⟩
  | ready hsheets hkept hstarting hnew hready hsyncs =>
    rw [hready] at hwaiting
    cases hwaiting
  | pass hsheets hsyncs hservice =>
    rw [hservice] at hwaiting
    rw [content?_congr hsheets]
    exact h waiting hwaiting uri
  | announce hsheets hlearns =>
    obtain ⟨process, hready⟩ := hserving rfl
    obtain ⟨before, hservice, -⟩ := hlearns.of_starting hwaiting
    rw [hready] at hservice
    cases hservice

/-- What a process is told, or about to be told, makes sense after a deed if it did before, and, where
the deed makes the process ready, what waited for it was clean. -/
theorem follows_iff (h : Informed v announcing) (horder : InOrder v)
    (hdeed : Deed v announcing edit next announcing') (hedit : v.Accepts edit) (process : Nat)
    (uri : String) :
    Follows false (next.toldSoon announcing' process uri) ↔
      Follows false (v.toldSoon announcing process uri) ∧
        ∀ waiting, v.service = .starting waiting → next.service = .ready process →
          IsClean (v.content? uri).isSome (about uri waiting) := by
  -- nothing is said about the document, and the process does not become ready
  have hsame : next.toldSoon announcing' process uri = v.toldSoon announcing process uri →
      (∀ waiting, v.service = .starting waiting → next.service ≠ .ready process) →
      (Follows false (next.toldSoon announcing' process uri) ↔
        Follows false (v.toldSoon announcing process uri) ∧
          ∀ waiting, v.service = .starting waiting → next.service = .ready process →
            IsClean (v.content? uri).isSome (about uri waiting)) := by
    intro htold hnot
    rw [htold]
    exact ⟨fun hfollows => ⟨hfollows, fun waiting hstarting hready =>
      absurd hready (hnot waiting hstarting)⟩, And.left⟩
  cases hdeed with
  | aside haside =>
    obtain ⟨-, hsyncs, hservice⟩ := haside
    refine hsame (by simp [View.toldSoon, View.told_congr hsyncs]) fun waiting hstarting => ?_
    rcases hservice with hservice | hservice <;> rw [hservice]
    · simp [hstarting]
    · simp
  | begin hsheets hsyncs hnone hservice =>
    exact hsame (by simp [View.toldSoon, View.told_congr hsyncs]) (by simp [hservice])
  | @edit _ edited sync hedits hlearns =>
    cases hservice : v.service with
    | none =>
      rw [View.Learns, hservice] at hlearns
      exact hservice ▸ hsame (by simp [View.toldSoon, View.told_congr hlearns.2]) (by simp [hservice])
    | starting before =>
      rw [View.Learns, hservice] at hlearns
      exact hservice ▸ hsame (by simp [View.toldSoon, View.told_congr hlearns.2])
        (by simp [hlearns.1])
    | ready ready =>
      rw [View.Learns, hservice] at hlearns
      have htold : next.toldSoon false process uri = v.toldSoon false process uri ++
          if ready = process ∧ edited = uri then [sync] else [] := by
        by_cases heq : ready = process <;>
          simp [View.toldSoon, View.told_of_syncs hlearns.2, about_singleton, heq]
      by_cases hconcerns : ready = process ∧ edited = uri
      · obtain ⟨rfl, rfl⟩ := hconcerns
        have hfits : sync.Fits (isOpenAfter false (v.toldSoon false ready edited)) := by
          rw [Sync.isOpenAfter_false, h.told ready hservice]
          exact hedit edited sync rfl
        rw [htold, if_pos ⟨rfl, rfl⟩, Sync.follows_append]
        simp [Follows, hfits]
      · rw [if_neg hconcerns, List.append_nil] at htold
        exact hservice ▸ hsame htold (by simp [hservice])
  | @ready _ waiting ready hsheets hkept hstarting hnew hready hsyncs =>
    by_cases heq : ready = process
    · subst heq
      have hbefore : v.toldSoon false ready uri = [] := by
        simp [View.toldSoon, told_of_isNew hnew]
      obtain ⟨wasOpen, hfollows, hopen⟩ := horder waiting hstarting uri
      rw [hbefore, toldSoon_of_ready h.distinct hsheets hnew hready hsyncs,
        Sync.follows_announcement hfollows hopen]
      constructor
      · intro hclean
        refine ⟨trivial, fun other hother _ => ?_⟩
        rw [hstarting] at hother
        cases hother
        exact hclean
      · exact fun hall => hall.2 waiting hstarting hready
    · refine hsame ?_ fun waiting' _ hready' => heq ?_
      · simp [View.toldSoon, View.told_of_syncs hsyncs, heq, hready]
      · rw [hready] at hready'
        exact Service.ready.inj hready'
  | pass hsheets hsyncs hservice =>
    refine hsame ?_ fun waiting hstarting => by simp [hservice, hstarting]
    simp [View.toldSoon, View.told_congr hsyncs, View.openings, hservice, hsheets]
  | announce hsheets hlearns =>
    obtain ⟨ready, hservice⟩ := h.serving rfl
    rw [View.Learns, hservice] at hlearns
    refine hsame ?_ (by simp [hservice])
    simp [View.toldSoon, View.told_of_syncs hlearns.2, hservice, View.openings]

end Deed

end BasiliskServer.World
