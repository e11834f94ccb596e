import BasiliskServer.Files.Host

/-!
# Anchored paths

A path that was anchored at an absolute directory is spelled with a slash in front
(`Host.isAbsoluteText_of_anchorAt`) and stays as it is when it is anchored once more
(`Host.anchor_of_isAbsoluteText`). Anchoring only fails where a tilde stands for a home directory
that is not known, for one path and for all paths that are anchored on the way to a result
(`Host.NeedsHomeFor`).
-/

namespace BasiliskServer.Files

/-! ## Absolute paths -/

theorem isAbsoluteText_iff {s : String} : isAbsoluteText s ↔ s.toList.head? = some '/' := by
  rw [isAbsoluteText, String.startsWith_string_iff]
  cases h : s.toList with
  | nil => simp
  | cons c rest => simp [eq_comm]

theorem ne_empty_of_isAbsoluteText {s : String} (h : isAbsoluteText s) : s ≠ "" := by
  rintro rfl
  simp [isAbsoluteText_iff] at h

namespace Path

theorem isAbsoluteText_toString {p : Path} (h : p.isAbsolute) : isAbsoluteText p.toString := by
  obtain ⟨root, names⟩ := p
  rw [isAbsoluteText_iff]
  cases root with
  | relative => simp [isAbsolute] at h
  | absolute => simp [toString, PathRoot.spelled]
  | doubled => simp [toString, PathRoot.spelled]

theorem isAbsolute_join {base : Path} (h : base.isAbsolute) (p : Path) :
    (base.join p).isAbsolute := by
  rw [join]
  split
  next hp => exact hp
  next => exact h

theorem isAbsolute_child {base : Path} (h : base.isAbsolute) (name : String) :
    (base.child name).isAbsolute :=
  isAbsolute_join h _

theorem isAbsolute_parent {p : Path} (h : p.isAbsolute) : p.parent.isAbsolute := h

theorem isAbsolute_of_mem_andAbove {p directory : Path} (h : p.isAbsolute)
    (hmem : directory ∈ p.andAbove) : directory.isAbsolute := by
  obtain ⟨names, -, rfl⟩ := List.mem_map.1 hmem
  exact h

end Path

/-! ## One after the other -/

section

variable {ε α β : Type} {f : α → Except ε β} {a : α} {b : β} {entries : List α} {results : List β}

theorem mapM_cons_of_ok (h : f a = .ok b) (hrest : entries.mapM f = .ok results) :
    (a :: entries).mapM f = .ok (b :: results) := by
  rw [List.mapM_cons, h, hrest]
  rfl

/-- What succeeds on every entry of a list succeeds on the list. -/
theorem mapM_of_forall_ok {g : α → β} (h : ∀ a ∈ entries, f a = .ok (g a)) :
    entries.mapM f = .ok (entries.map g) := by
  induction entries with
  | nil => rfl
  | cons a entries ih =>
    obtain ⟨ha, hentries⟩ := List.forall_mem_cons.1 h
    exact mapM_cons_of_ok ha (ih hentries)

theorem exists_of_mapM_cons (h : (a :: entries).mapM f = .ok results) :
    ∃ b rest, f a = .ok b ∧ entries.mapM f = .ok rest ∧ results = b :: rest := by
  rw [List.mapM_cons] at h
  cases hfirst : f a with
  | error e => rw [hfirst] at h; cases h
  | ok b =>
    rw [hfirst] at h
    cases hrest : entries.mapM f with
    | error e => rw [hrest] at h; cases h
    | ok rest =>
      rw [hrest] at h
      cases h
      exact ⟨b, rest, rfl, rfl, rfl⟩

end

/-! ## Anchoring -/

namespace Host

variable {host : Host} {s result : String}

theorem expandTilde_of_isAbsoluteText (host : Host) (h : isAbsoluteText s) :
    host.expandTilde s = .ok s := by
  rw [isAbsoluteText_iff] at h
  rw [expandTilde]
  split
  next rest heq => simp [heq] at h
  next => rfl

/-- A path that is spelled with a slash in front is anchored already. -/
theorem anchor_of_isAbsoluteText (host : Host) (h : isAbsoluteText s) (root : Option Path) :
    host.anchor s root = .ok s := by
  have hne : ¬s.isEmpty := by simpa using ne_empty_of_isAbsoluteText h
  rw [anchor, if_neg hne, expandTilde_of_isAbsoluteText host h]
  simp [Except.map, h]

theorem isAbsoluteText_of_anchorAt {base : Path} (hbase : base.isAbsolute)
    (h : host.anchorAt s base = .ok result) : isAbsoluteText result := by
  obtain ⟨expanded, -, rfl⟩ : ∃ expanded, host.expandTilde s = .ok expanded ∧
      (base.child expanded).toString = result := by
    cases hexpand : host.expandTilde s with
    | error failure => simp [anchorAt, hexpand, Except.map] at h
    | ok expanded => exact ⟨expanded, rfl, by simpa [anchorAt, hexpand, Except.map] using h⟩
  exact Path.isAbsoluteText_toString (Path.isAbsolute_child hbase expanded)

/-! ## Where anchoring fails -/

/-- Whether a path starts with a tilde while the home directory is not known. -/
def LacksHome (host : Host) (s : String) : Prop :=
  s.toList.head? = some '~' ∧ host.home = .error .noHome

theorem home_eq_error {failure : Failure} (h : host.home = .error failure) :
    failure = .noHome := by
  unfold home at h
  split at h
  · cases h
    rfl
  · dsimp only at h
    split at h
    · cases h
      rfl
    · cases h

theorem not_lacksHome {home : Path} (hhome : host.home = .ok home) (s : String) : ¬host.LacksHome s := by
  rintro ⟨-, hnone⟩
  rw [hhome] at hnone
  cases hnone

/-- A result for which some paths are expanded: it fails if one of them lacks a home directory, and for no
other reason. -/
structure NeedsHomeFor {α : Type} (host : Host) (paths : List String) (result : Except Failure α) : Prop
    where
  fails : (∃ s ∈ paths, host.LacksHome s) → result = .error .noHome
  succeeds : (∀ s ∈ paths, ¬host.LacksHome s) → ∃ a, result = .ok a

namespace NeedsHomeFor

variable {α β : Type} {paths more : List String} {step : Except Failure α} {next : α → Except Failure β}

theorem pure (host : Host) (a : α) : host.NeedsHomeFor [] (.ok a) where
  fails := by simp
  succeeds _ := ⟨a, rfl⟩

/-- What goes on after a step needs a home directory for its own paths too. -/
theorem bind (hstep : host.NeedsHomeFor paths step)
    (hnext : ∀ a, step = .ok a → host.NeedsHomeFor more (next a)) :
    host.NeedsHomeFor (paths ++ more) (step >>= next) where
  fails h := by
    by_cases hpaths : ∃ s ∈ paths, host.LacksHome s
    · rw [hstep.fails hpaths]
      rfl
    · -- The step succeeds, so it is a later path that lacks its home directory.
      obtain ⟨a, ha⟩ := hstep.succeeds (by simpa using hpaths)
      rw [ha]
      refine (hnext a ha).fails ?_
      obtain ⟨s, hmem, hlacks⟩ := h
      rcases List.mem_append.1 hmem with hmem | hmem
      · exact absurd ⟨s, hmem, hlacks⟩ hpaths
      · exact ⟨s, hmem, hlacks⟩
  succeeds h := by
    obtain ⟨hpaths, hmore⟩ := List.forall_mem_append.1 h
    obtain ⟨a, ha⟩ := hstep.succeeds hpaths
    rw [ha]
    exact (hnext a ha).succeeds hmore

theorem map (hstep : host.NeedsHomeFor paths step) (f : α → β) :
    host.NeedsHomeFor paths (step.map f) where
  fails h := by
    rw [hstep.fails h]
    rfl
  succeeds h := by
    obtain ⟨a, ha⟩ := hstep.succeeds h
    exact ⟨f a, by rw [ha]; rfl⟩

/-- Going through a list of paths needs a home directory for all of them. -/
theorem mapM {f : String → Except Failure α} (h : ∀ s, host.NeedsHomeFor [s] (f s)) (paths : List String) :
    host.NeedsHomeFor paths (paths.mapM f) := by
  induction paths with
  | nil => exact .pure host []
  | cons s paths ih =>
    rw [List.mapM_cons]
    refine (h s).bind fun first _ => ?_
    have hrest := ih.bind fun rest _ => NeedsHomeFor.pure host (first :: rest)
    rwa [List.append_nil] at hrest

theorem eq_error_iff (h : host.NeedsHomeFor paths step) {failure : Failure} :
    step = .error failure ↔ failure = .noHome ∧ ∃ s ∈ paths, host.LacksHome s := by
  constructor
  · intro hstep
    by_cases hlacks : ∃ s ∈ paths, host.LacksHome s
    · rw [h.fails hlacks] at hstep
      exact ⟨(Except.error.inj hstep).symm, hlacks⟩
    · obtain ⟨a, ha⟩ := h.succeeds (by simpa using hlacks)
      rw [ha] at hstep
      cases hstep
  · rintro ⟨rfl, hlacks⟩
    exact h.fails hlacks

end NeedsHomeFor

theorem needsHomeFor_expandTilde (host : Host) (s : String) :
    host.NeedsHomeFor [s] (host.expandTilde s) where
  fails h := by
    obtain ⟨s, hmem, htilde, hhome⟩ := h
    obtain rfl := List.mem_singleton.1 hmem
    cases hs : s.toList with
    | nil => simp [hs] at htilde
    | cons c rest =>
      obtain rfl : c = '~' := by simpa [hs] using htilde
      simp [expandTilde, hs, hhome, Except.map]
  succeeds h := by
    have hknown := h s List.mem_cons_self
    rw [expandTilde]
    split
    next rest heq =>
      cases hhome : host.home with
      | ok home => exact ⟨_, rfl⟩
      | error failure =>
        rw [home_eq_error hhome] at hhome
        exact absurd ⟨by simp [heq], hhome⟩ hknown
    next => exact ⟨s, rfl⟩

theorem needsHomeFor_anchorAt (host : Host) (s : String) (base : Path) :
    host.NeedsHomeFor [s] (host.anchorAt s base) :=
  (needsHomeFor_expandTilde host s).map _

theorem needsHomeFor_anchor (host : Host) (s : String) (root : Option Path) :
    host.NeedsHomeFor [s] (host.anchor s root) := by
  rw [anchor]
  split
  next hempty =>
    have hknown : ¬host.LacksHome s := by
      rintro ⟨htilde, -⟩
      simp_all
    exact ⟨by simpa using fun hlacks => absurd hlacks hknown, fun _ => ⟨_, rfl⟩⟩
  next => exact (needsHomeFor_expandTilde host s).map _

/-- A list of paths is anchored unless one of them lacks a home directory. -/
theorem exists_mapM_anchorAt {entries : List String} (h : ∀ s ∈ entries, ¬host.LacksHome s)
    (base : Path) : ∃ results, entries.mapM (host.anchorAt · base) = .ok results :=
  (NeedsHomeFor.mapM (needsHomeFor_anchorAt host · base) entries).succeeds h

theorem mapM_anchorAt_of_lacksHome {entries : List String} (hmem : s ∈ entries)
    (h : host.LacksHome s) (base : Path) :
    entries.mapM (host.anchorAt · base) = .error .noHome :=
  (NeedsHomeFor.mapM (needsHomeFor_anchorAt host · base) entries).fails ⟨s, hmem, h⟩

theorem isAbsoluteText_of_mapM_anchorAt {base : Path} (hbase : base.isAbsolute)
    {entries results : List String} (h : entries.mapM (host.anchorAt · base) = .ok results) :
    ∀ result ∈ results, isAbsoluteText result := by
  induction entries generalizing results with
  | nil => cases h; simp
  | cons entry rest ih =>
    obtain ⟨first, others, hfirst, hothers, rfl⟩ := exists_of_mapM_cons h
    exact List.forall_mem_cons.2 ⟨isAbsoluteText_of_anchorAt hbase hfirst, ih hothers⟩

/-- Paths that are spelled with a slash in front stay as they are. -/
theorem mapM_anchor_of_isAbsoluteText (host : Host) {entries : List String}
    (h : ∀ s ∈ entries, isAbsoluteText s) (root : Option Path) :
    entries.mapM (host.anchor · root) = .ok entries := by
  have heach := mapM_of_forall_ok (g := id) fun s hmem => anchor_of_isAbsoluteText host (h s hmem) root
  rwa [List.map_id] at heach

end Host

end BasiliskServer.Files
