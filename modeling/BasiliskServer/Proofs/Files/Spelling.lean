import BasiliskServer.Files.Host
import BasiliskServer.Proofs.Text.Line

/-!
# Paths and their spellings

A path whose names are all proper names (`Path.IsName`) is read back from its spelling, wherever it
starts (`Path.ofString_toString`). The normalised paths (`Path.IsNormal`) are those that denote
themselves from any working directory (`Path.isNormal_iff_resolve_eq`).
-/

namespace BasiliskServer.Files

namespace Path

/-! ## Names -/

/-- What can be a name on the way: some text without a slash that is not a single dot. -/
structure IsName (name : String) : Prop where
  ne_empty : name ≠ ""
  ne_dot : name ≠ "."
  no_slash : '/' ∉ name.toList

instance (name : String) : Decidable (IsName name) :=
  decidable_of_iff (name ≠ "" ∧ name ≠ "." ∧ '/' ∉ name.toList)
    ⟨fun ⟨hempty, hdot, hslash⟩ => ⟨hempty, hdot, hslash⟩,
      fun h => ⟨h.ne_empty, h.ne_dot, h.no_slash⟩⟩

variable {names : List String}

/-- Names with slashes between them, as they are spelled. -/
def spelledNames (names : List String) : List Char :=
  List.intercalate ['/'] (names.map String.toList)

theorem toList_joinWith (names : List String) :
    (Text.joinWith "/" names).toList = spelledNames names :=
  String.toList_intercalate

/-- A slash in front adds no name. -/
theorem namesOf_slash (cs : List Char) : namesOf ('/' :: cs) = namesOf cs := by
  simp [namesOf, Text.splitBy]

/-- Spelled names are read back. -/
theorem namesOf_spelledNames (h : ∀ name ∈ names, IsName name) :
    namesOf (spelledNames names) = names := by
  by_cases hnil : names = []
  · subst hnil
    simp [spelledNames, namesOf, Text.splitBy]
  · have hslash : ∀ piece ∈ names.map String.toList, '/' ∉ piece := by
      simpa using fun name hname => (h name hname).no_slash
    rw [namesOf, spelledNames, Text.splitBy_intercalate (by simpa using hnil) hslash, List.map_map,
      List.filter_eq_self.mpr]
    · simp
    · intro name hname
      have hname : IsName name := h name (by simpa using hname)
      simp [hname.ne_empty, hname.ne_dot]

/-- Spelled names do not start with a slash. -/
theorem head?_spelledNames_ne (h : ∀ name ∈ names, IsName name) :
    (spelledNames names).head? ≠ some '/' := by
  cases names with
  | nil => simp [spelledNames]
  | cons name rest =>
    have hname := h name List.mem_cons_self
    obtain ⟨c, cs, hcs⟩ := List.exists_cons_of_ne_nil
      (show name.toList ≠ [] by simpa using hname.ne_empty)
    have hc : c ≠ '/' := fun heq => hname.no_slash (by simp [hcs, heq])
    cases rest <;> simp [spelledNames, hcs, hc]

/-! ## Spelled paths -/

section

variable {cs : List Char}

theorem rootOf_of_head? (h : cs.head? ≠ some '/') : rootOf cs = .relative := by
  cases cs with
  | nil => rfl
  | cons c cs => simp_all [rootOf]

theorem rootOf_slash (h : cs.head? ≠ some '/') : rootOf ('/' :: cs) = .absolute := by
  cases cs with
  | nil => rfl
  | cons c cs => simp_all [rootOf]

theorem rootOf_slash_slash (h : cs.head? ≠ some '/') : rootOf ('/' :: '/' :: cs) = .doubled := by
  cases cs with
  | nil => rfl
  | cons c cs => simp_all [rootOf]

end

/-- A path is spelled by its root and its names, unless nothing is left of it. -/
theorem toList_toString {p : Path} (h : p.root = .relative → p.names ≠ []) :
    p.toString.toList = p.root.spelled.toList ++ spelledNames p.names := by
  have hcond : ¬(decide (p.root = .relative) && p.names.isEmpty) = true := by
    simpa using h
  rw [toString, if_neg hcond, String.toList_append, toList_joinWith]

/-- A path is read back from its spelling. -/
theorem ofString_toString {p : Path} (h : ∀ name ∈ p.names, IsName name) :
    ofString p.toString = p := by
  obtain ⟨root, names⟩ := p
  have hhead := head?_spelledNames_ne h
  have hnames := namesOf_spelledNames h
  cases root with
  | relative =>
    by_cases hnil : names = []
    · -- The path without names is spelled by a dot, which is no name.
      subst hnil
      decide
    · rw [ofString, toList_toString fun _ => hnil]
      simp [PathRoot.spelled, rootOf_of_head? hhead, hnames]
  | absolute =>
    rw [ofString, toList_toString (by simp)]
    simp [PathRoot.spelled, rootOf_slash hhead, namesOf_slash, hnames]
  | doubled =>
    rw [ofString, toList_toString (by simp)]
    simp [PathRoot.spelled, rootOf_slash_slash hhead, namesOf_slash, hnames]

/-! ## Normalised paths -/

/-- A path as resolving leaves it: it starts at the root of the file system, written with one slash, and all
its names lead downwards. -/
structure IsNormal (p : Path) : Prop where
  root : p.root = .absolute
  isName : ∀ name ∈ p.names, IsName name
  downwards : ".." ∉ p.names

theorem collapse_of_notMem (kept : List String) (h : ".." ∉ names) :
    collapse kept names = kept.reverse ++ names := by
  induction names generalizing kept with
  | nil => simp [collapse]
  | cons name rest ih =>
    rw [List.mem_cons, not_or] at h
    rw [collapse, if_neg (Ne.symm h.1), ih (name :: kept) h.2]
    simp

theorem notMem_collapse {kept : List String} (h : ".." ∉ kept) : ".." ∉ collapse kept names := by
  induction names generalizing kept with
  | nil => simpa [collapse] using h
  | cons name rest ih =>
    rw [collapse]
    split
    next => exact ih fun hmem => h (List.mem_of_mem_drop hmem)
    next hname => exact ih (List.not_mem_cons_of_ne_of_not_mem (Ne.symm hname) h)

theorem resolve_of_isAbsolute {p : Path} (h : p.isAbsolute) (cwd : Path) :
    p.resolve cwd = ⟨.absolute, collapse [] p.names⟩ := by
  rw [resolve, join, if_pos h]

/-- The normalised paths are those that denote themselves, whatever the working directory is. -/
theorem isNormal_iff_resolve_eq {p : Path} (h : ∀ name ∈ p.names, IsName name) (cwd : Path) :
    p.IsNormal ↔ p.resolve cwd = p := by
  constructor
  · intro hnormal
    have habsolute : p.isAbsolute := by simp [isAbsolute, hnormal.root]
    rw [resolve_of_isAbsolute habsolute, collapse_of_notMem [] hnormal.downwards, List.reverse_nil,
      List.nil_append, ← hnormal.root]
  · intro hresolve
    -- Whatever comes out of resolving starts at the root, so the path was absolute before.
    have hroot : p.root = .absolute := by rw [← hresolve, resolve]
    have habsolute : p.isAbsolute := by simp [isAbsolute, hroot]
    rw [resolve_of_isAbsolute habsolute] at hresolve
    have hnames : collapse [] p.names = p.names := congrArg Path.names hresolve
    exact ⟨hroot, h, hnames ▸ notMem_collapse List.not_mem_nil⟩

end Path

end BasiliskServer.Files
