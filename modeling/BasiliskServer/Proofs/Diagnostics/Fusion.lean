import BasiliskServer.Diagnostics.Fusion
import BasiliskServer.Proofs.Diagnostics.Firsts

/-!
# What is published of two lists

The problems of the companion process and those of the server itself are put together without
repetitions and cut off at a number. What is published is therefore the beginning of one list that does
not depend on the number: the first problem of each key of the two lists put together
(`fuse_beginning_of_firsts`).

De-duplication is the scan for the first of each key (`dedupeFrom_eq_firstsFrom`), so problems that follow
others add those with new keys (`dedupe_append`). From this come the rest: a repetition adds nothing
wherever it stands (`dedupe_of_dropsRepetition`), and the problems of the server itself come behind all of
the companion process.
-/

namespace BasiliskServer.Diagnostics

open Wire (Diagnostic)

variable {all less : List Diagnostic}

/-! ### Repetitions -/

/-- De-duplication scans for the first problem of each key. -/
theorem dedupeFrom_eq_firstsFrom (seen : List Key) (diagnostics : List Diagnostic) :
    dedupeFrom seen diagnostics = firstsFrom keyOf seen diagnostics := by
  induction diagnostics generalizing seen with
  | nil => rfl
  | cons d rest ih =>
    rw [dedupeFrom, firstsFrom, ih, ih]
    exact if_congr List.contains_iff_mem rfl rfl

/-- Which problems are dropped depends on the keys that were seen, not on their order. -/
theorem dedupeFrom_congr {seen seen' : List Key} (h : ∀ key, key ∈ seen ↔ key ∈ seen')
    (diagnostics : List Diagnostic) :
    dedupeFrom seen diagnostics = dedupeFrom seen' diagnostics := by
  rw [dedupeFrom_eq_firstsFrom, dedupeFrom_eq_firstsFrom]
  exact firstsFrom_congr h diagnostics

/-- Problems that follow others add those whose keys are new. -/
theorem dedupeFrom_append (seen : List Key) (before after : List Diagnostic) :
    dedupeFrom seen (before ++ after) =
      dedupeFrom seen before ++ dedupeFrom (seen ++ before.map keyOf) after := by
  simp only [dedupeFrom_eq_firstsFrom]
  exact firstsFrom_append seen before after

theorem dedupe_append (before after : List Diagnostic) :
    dedupe (before ++ after) = dedupe before ++ dedupeFrom (before.map keyOf) after := by
  simpa [dedupe] using dedupeFrom_append [] before after

/-- Nothing is left exactly of problems whose keys were all seen. -/
theorem dedupeFrom_eq_nil_iff (seen : List Key) (diagnostics : List Diagnostic) :
    dedupeFrom seen diagnostics = [] ↔ ∀ d ∈ diagnostics, keyOf d ∈ seen := by
  rw [dedupeFrom_eq_firstsFrom]
  exact firstsFrom_eq_nil_iff

/-- Problems that follow others cannot be seen in a published list exactly if the others fill it
or they only repeat the others. -/
theorem take_dedupe_append_iff (limit : Nat) (before after : List Diagnostic) :
    (dedupe before).take limit = (dedupe (before ++ after)).take limit ↔
      limit ≤ (dedupe before).length ∨ ∀ d ∈ after, keyOf d ∈ before.map keyOf := by
  rw [dedupe_append, List.take_append, List.self_eq_append_right, List.take_eq_nil_iff,
    dedupeFrom_eq_nil_iff, Nat.sub_eq_zero_iff_le]

theorem firstOfEach_dedupe (all : List Diagnostic) : FirstOfEach keyOf all (dedupe all) := by
  rw [dedupe, dedupeFrom_eq_firstsFrom]
  exact firstOfEach_firstsFrom keyOf all

/-- What is left of problems is some of them, in their order. -/
theorem dedupeFrom_sublist (seen : List Key) (diagnostics : List Diagnostic) :
    (dedupeFrom seen diagnostics).Sublist diagnostics := by
  induction diagnostics generalizing seen with
  | nil => exact .slnil
  | cons d rest ih =>
    rw [dedupeFrom]
    split
    · exact (ih seen).cons d
    · exact (ih (keyOf d :: seen)).cons_cons d

/-- What is left has none of the keys that were seen. -/
theorem not_mem_of_mem_dedupeFrom {seen : List Key} {diagnostics : List Diagnostic} {d : Diagnostic}
    (h : d ∈ dedupeFrom seen diagnostics) : keyOf d ∉ seen := by
  induction diagnostics generalizing seen with
  | nil => cases h
  | cons first rest ih =>
    rw [dedupeFrom] at h
    split at h
    next => exact ih h
    next hfresh =>
      rcases List.mem_cons.1 h with rfl | h
      · simpa using hfresh
      · exact fun hmem => ih h (List.mem_cons_of_mem _ hmem)

/-- A list without a problem that repeats an earlier one. -/
def DropsRepetition (all less : List Diagnostic) : Prop :=
  ∃ before d after, all = before ++ d :: after ∧ less = before ++ after ∧ keyOf d ∈ before.map keyOf

/-- A repetition may be dropped beforehand. -/
theorem dedupe_of_dropsRepetition (h : DropsRepetition all less) : dedupe less = dedupe all := by
  obtain ⟨before, d, after, rfl, rfl, hknown⟩ := h
  have hskip : dedupeFrom (before.map keyOf) (d :: after) = dedupeFrom (before.map keyOf) after := by
    rw [dedupeFrom, if_pos (List.contains_iff_mem.mpr hknown)]
  rw [dedupe_append, dedupe_append, hskip]

/-! ### What is published -/

theorem fuse_prefix (companion own : List Diagnostic) {limit more : Int} (h : limit ≤ more) :
    fuse companion own limit <+: fuse companion own more := by
  rw [fuse, fuse]
  exact List.take_prefix_take_left (Int.toNat_le_toNat h)

theorem length_fuse (companion own : List Diagnostic) (limit : Int) :
    ((fuse companion own limit).length : Int) =
      min (max 0 limit) (dedupe (companion ++ own)).length := by
  rw [fuse, List.length_take]
  omega

/-- What is published of the server itself comes behind what is published of the companion process and
repeats nothing of it. -/
theorem exists_fuse_eq_append (companion own : List Diagnostic) (limit : Int) :
    ∃ theirs ours, fuse companion own limit = theirs ++ ours ∧ theirs.Sublist companion ∧
      ours.Sublist own ∧ ∀ d ∈ ours, keyOf d ∉ companion.map keyOf := by
  refine ⟨_, _, by rw [fuse, dedupe_append, List.take_append], ?_, ?_, fun d hd => ?_⟩
  · exact (List.take_sublist _ _).trans (dedupeFrom_sublist [] companion)
  · exact (List.take_sublist _ _).trans (dedupeFrom_sublist (companion.map keyOf) own)
  · exact not_mem_of_mem_dedupeFrom (List.mem_of_mem_take hd)

/-- **What is published.** For all lists of problems of the companion process and of the server itself
there is one list that keeps the first problem of each key of the two lists put together, and what is
published with a limit is its beginning, as long as the limit and the list allow and empty for a negative
limit. So a greater limit only goes on with what a smaller one publishes, to drop a repetition from what
is put together never changes anything, and no problem of the server itself comes before one of the
companion process or repeats one. -/
theorem fuse_beginning_of_firsts (companion own : List Diagnostic) :
    ∃ firsts, FirstOfEach keyOf (companion ++ own) firsts ∧
      (∀ other, FirstOfEach keyOf (companion ++ own) other → other = firsts) ∧
      ∀ limit : Int,
        (fuse companion own limit <+: firsts ∧
          ((fuse companion own limit).length : Int) = min (max 0 limit) firsts.length) ∧
        (∀ more, limit ≤ more → fuse companion own limit <+: fuse companion own more) ∧
        (∀ companion' own', DropsRepetition (companion ++ own) (companion' ++ own') →
          fuse companion' own' limit = fuse companion own limit) ∧
        ∃ theirs ours, fuse companion own limit = theirs ++ ours ∧ theirs.Sublist companion ∧
          ours.Sublist own ∧ ∀ d ∈ ours, keyOf d ∉ companion.map keyOf := by
  have hfirsts := firstOfEach_dedupe (companion ++ own)
  refine ⟨dedupe (companion ++ own), hfirsts, fun other hother => hother.unique hfirsts, fun limit => ?_⟩
  refine ⟨⟨List.take_prefix _ _, length_fuse companion own limit⟩, fun more h => fuse_prefix companion own h,
    fun companion' own' h => ?_, exists_fuse_eq_append companion own limit⟩
  rw [fuse, fuse, dedupe_of_dropsRepetition h]

end BasiliskServer.Diagnostics
