import Mathlib.Data.List.Induction
import Mathlib.Data.List.Nodup
import Mathlib.Data.List.Perm.Basic

/-!
# The first of each key

Problems and completions of two sides are put together in the same way: one after the other, and what
repeats the key of an earlier one is left out. The rule is stated without a scan (`FirstOfEach`): what is
kept stands in the list in this order, no key is kept twice, and of each key the first is kept. There is
only one such list (`FirstOfEach.unique`).

A scan that remembers the keys that it has seen computes it (`firstOfEach_firstsFrom`). One more element
at the end of a list changes what is kept in one of two ways (`FirstOfEach.concat_known`,
`FirstOfEach.concat_new`), and the scan takes the same step (`firstsFrom_append`).
-/

namespace BasiliskServer

variable {α β κ : Type} [DecidableEq κ] {key : α → κ} {all kept other : List α} {a : α}

/-- Of a list the first element of each key is kept, and nothing else. -/
structure FirstOfEach (key : α → κ) (all kept : List α) : Prop where
  /-- What is kept stands in the list. -/
  sublist : kept.Sublist all
  /-- No key is kept twice. -/
  distinct : (kept.map key).Nodup
  /-- Of each key that occurs, the first element is kept. -/
  first : ∀ a ∈ all, ∃ b ∈ kept, all.find? (key · = key a) = some b
  /-- What is kept stands in the order in which its keys first occur. -/
  ordered : kept.Pairwise fun a b => (all.map key).idxOf (key a) < (all.map key).idxOf (key b)

/-- What is found by its key has it. -/
theorem key_eq_of_find? {k : κ} (h : all.find? (key · = k) = some a) : key a = k := by
  simpa using List.find?_some h

namespace FirstOfEach

theorem nil : FirstOfEach key [] [] :=
  ⟨.slnil, .nil, nofun, .nil⟩

/-- What is kept is the first element of its key. -/
theorem find?_of_mem (h : FirstOfEach key all kept) (ha : a ∈ kept) :
    all.find? (key · = key a) = some a := by
  obtain ⟨b, hb, hfind⟩ := h.first a (h.sublist.subset ha)
  rwa [List.inj_on_of_nodup_map h.distinct hb ha (key_eq_of_find? hfind)] at hfind

theorem mem_iff (h : FirstOfEach key all kept) :
    a ∈ kept ↔ all.find? (key · = key a) = some a := by
  refine ⟨h.find?_of_mem, fun hfind => ?_⟩
  obtain ⟨b, hb, hfind'⟩ := h.first a (List.mem_of_find?_eq_some hfind)
  rw [hfind, Option.some.injEq] at hfind'
  exact hfind' ▸ hb

/-- The rule leaves no choice. -/
theorem unique (h : FirstOfEach key all kept) (hother : FirstOfEach key all other) : kept = other := by
  have hperm : kept.Perm other := by
    rw [List.perm_ext_iff_of_nodup h.distinct.of_map hother.distinct.of_map]
    exact fun a => h.mem_iff.trans hother.mem_iff.symm
  exact hperm.eq_of_pairwise (fun a b _ _ hab hba => absurd hba (Nat.lt_asymm hab))
    h.ordered hother.ordered

theorem mem_map_key (h : FirstOfEach key all kept) {k : κ} : k ∈ kept.map key ↔ k ∈ all.map key := by
  refine ⟨fun hk => (h.sublist.map key).subset hk, fun hk => ?_⟩
  obtain ⟨a, ha, rfl⟩ := List.mem_map.mp hk
  obtain ⟨b, hb, hfind⟩ := h.first a ha
  exact List.mem_map.mpr ⟨b, hb, key_eq_of_find? hfind⟩

/-- Places of keys do not change when the list grows at its end. -/
theorem ordered_append (h : FirstOfEach key all kept) (more : List α) :
    kept.Pairwise fun a b =>
      ((all ++ more).map key).idxOf (key a) < ((all ++ more).map key).idxOf (key b) := by
  refine h.ordered.imp_of_mem fun {a b} ha hb hab => ?_
  have hplace : ∀ c ∈ kept, ((all ++ more).map key).idxOf (key c) = (all.map key).idxOf (key c) := by
    intro c hc
    rw [List.map_append, List.idxOf_append_of_mem (List.mem_map_of_mem (h.sublist.subset hc))]
  rwa [hplace a ha, hplace b hb]

/-- An element whose key has occurred is left out. -/
theorem concat_known (h : FirstOfEach key all kept) (ha : key a ∈ all.map key) :
    FirstOfEach key (all ++ [a]) kept where
  sublist := h.sublist.trans (List.sublist_append_left all [a])
  distinct := h.distinct
  first := by
    intro c hc
    have hknown : key c ∈ all.map key := by
      rcases List.mem_append.mp hc with hc | hc
      · exact List.mem_map_of_mem hc
      · exact List.mem_singleton.mp hc ▸ ha
    obtain ⟨d, hd, hkey⟩ := List.mem_map.mp hknown
    obtain ⟨b, hb, hfind⟩ := h.first d hd
    rw [hkey] at hfind
    exact ⟨b, hb, by rw [List.find?_append, hfind, Option.some_or]⟩
  ordered := h.ordered_append [a]

/-- An element with a new key is kept, behind all others. -/
theorem concat_new (h : FirstOfEach key all kept) (ha : key a ∉ all.map key) :
    FirstOfEach key (all ++ [a]) (kept ++ [a]) where
  sublist := h.sublist.append_right [a]
  distinct := by
    rw [List.map_append, List.map_singleton, ← List.concat_eq_append, List.nodup_concat, h.mem_map_key]
    exact ⟨ha, h.distinct⟩
  first := by
    intro c hc
    rcases List.mem_append.mp hc with hc | hc
    · obtain ⟨b, hb, hfind⟩ := h.first c hc
      exact ⟨b, List.mem_append_left [a] hb, by rw [List.find?_append, hfind, Option.some_or]⟩
    · obtain rfl := List.mem_singleton.mp hc
      -- nothing in front of it has its key
      have hnone : all.find? (key · = key c) = none := by
        rw [List.find?_eq_none]
        intro d hd hkey
        exact ha (of_decide_eq_true hkey ▸ List.mem_map_of_mem hd)
      refine ⟨c, List.mem_append_right kept (List.mem_singleton_self c), ?_⟩
      rw [List.find?_append, hnone, Option.none_or, List.find?_cons_of_pos]
      exact decide_eq_true rfl
  ordered := by
    rw [List.pairwise_append]
    refine ⟨h.ordered_append [a], List.pairwise_singleton _ _, fun b hb c hc => ?_⟩
    obtain rfl := List.mem_singleton.mp hc
    have hb : key b ∈ all.map key := List.mem_map_of_mem (h.sublist.subset hb)
    rw [List.map_append, List.idxOf_append_of_mem hb, List.idxOf_append_of_notMem ha]
    exact Nat.lt_add_right _ (List.idxOf_lt_length_of_mem hb)

end FirstOfEach

/-! ### The scan -/

/-- The elements whose keys are not among those seen, each key once. -/
def firstsFrom (key : α → κ) (seen : List κ) : List α → List α
  | [] => []
  | a :: rest =>
    if key a ∈ seen then firstsFrom key seen rest
    else a :: firstsFrom key (key a :: seen) rest

/-- What is kept depends on the keys that were seen, not on their order. -/
theorem firstsFrom_congr {seen seen' : List κ} (h : ∀ k, k ∈ seen ↔ k ∈ seen') (all : List α) :
    firstsFrom key seen all = firstsFrom key seen' all := by
  induction all generalizing seen seen' with
  | nil => rfl
  | cons a rest ih =>
    have hmore : ∀ k, k ∈ key a :: seen ↔ k ∈ key a :: seen' := fun k => by
      rw [List.mem_cons, List.mem_cons, h]
    rw [firstsFrom, firstsFrom, ih h, ih hmore]
    exact if_congr (h (key a)) rfl rfl

/-- Elements that follow others add those whose keys are new. -/
theorem firstsFrom_append (seen : List κ) (before after : List α) :
    firstsFrom key seen (before ++ after) =
      firstsFrom key seen before ++ firstsFrom key (seen ++ before.map key) after := by
  induction before generalizing seen with
  | nil => rw [List.nil_append, List.map_nil, List.append_nil, firstsFrom, List.nil_append]
  | cons a rest ih =>
    rw [List.cons_append, firstsFrom, firstsFrom]
    split
    next hseen =>
      rw [ih]
      congr 1
      apply firstsFrom_congr
      intro k
      simp only [List.map_cons, List.mem_append, List.mem_cons]
      grind
    next =>
      rw [ih, List.cons_append]
      congr 2
      apply firstsFrom_congr
      intro k
      simp only [List.map_cons, List.mem_append, List.mem_cons]
      grind

/-- Nothing is left exactly of elements whose keys were all seen. -/
theorem firstsFrom_eq_nil_iff {seen : List κ} :
    firstsFrom key seen all = [] ↔ ∀ a ∈ all, key a ∈ seen := by
  induction all with
  | nil => simp [firstsFrom]
  | cons a rest ih =>
    rw [firstsFrom, List.forall_mem_cons]
    split
    next hseen => rw [ih, and_iff_right hseen]
    next hnew => exact iff_of_false (List.cons_ne_nil _ _) fun h => hnew h.1

/-- Keys may be computed before or after the elements are changed. -/
theorem firstsFrom_map (f : β → α) (seen : List κ) (all : List β) :
    firstsFrom key seen (all.map f) = (firstsFrom (fun b => key (f b)) seen all).map f := by
  induction all generalizing seen with
  | nil => rfl
  | cons b rest ih =>
    rw [List.map_cons, firstsFrom, firstsFrom, ih, ih]
    split <;> rfl

/-- The scan keeps the first element of each key. -/
theorem firstOfEach_firstsFrom (key : α → κ) (all : List α) :
    FirstOfEach key all (firstsFrom key [] all) := by
  -- the scan is followed element by element, so the list grows at its end
  induction all using List.reverseRecOn with
  | nil => exact .nil
  | append_singleton all a ih =>
    rw [firstsFrom_append, List.nil_append, firstsFrom, firstsFrom]
    split
    next hknown =>
      rw [List.append_nil]
      exact ih.concat_known hknown
    next hnew => exact ih.concat_new hnew

end BasiliskServer
