import BasiliskServer.Proofs.Source.Braces
import BasiliskServer.Source.QuickCheck
import Mathlib.Combinatorics.Enumerative.DyckWord
import Mathlib.Algebra.BigOperators.Group.List.Basic
import Mathlib.Algebra.Order.BigOperators.Group.List

/-!
# Balance of braces

The braces of a text are balanced if they are a Dyck word. Where they are not, the quick checks hint at
the braces that have no partner: closing ones at which no block is open, and opening ones whose block
is never closed. This module shows that these hints are a least repair.

Balance is told by heights: opening braces rise by one, closing ones fall by one, and a list is
balanced if it ends at height zero and never falls below it (`isBalanced_iff_descends`). What the
scan keeps goes down to height zero from the braces that are open (`descends_partnered`), so the text
without the hinted braces is balanced. The text falls into two parts at the last closing brace without a partner
(`exists_parts`): the first part falls below its start by the number of closing braces without a
partner, and the second rises by the number of opening ones. Whoever takes braces away to balance the
text has to take at least that many from each part (`length_unmatched_le`).
-/

namespace BasiliskServer.Source

open Wire (Diagnostic Position)

/-! ### Heights -/

/-- The step of a brace in a Dyck word. -/
def Brace.step (brace : Brace) : DyckStep :=
  if brace.opening then .U else .D

/-- The braces are a Dyck word: as many close as open, and nowhere have more closed than opened. -/
def IsBalanced (all : List Brace) : Prop :=
  ∃ word : DyckWord, word.toList = all.map Brace.step

/-- How much a brace adds to the number of open blocks. -/
def Brace.rise (brace : Brace) : ℤ :=
  if brace.opening then 1 else -1

/-- How many blocks braces leave open, as a difference: closing braces may prevail. -/
def height (all : List Brace) : ℤ :=
  (all.map Brace.rise).sum

@[simp] theorem height_nil : height [] = 0 := rfl

@[simp]
theorem height_cons (brace : Brace) (rest : List Brace) :
    height (brace :: rest) = brace.rise + height rest :=
  List.sum_cons

@[simp]
theorem height_append (before after : List Brace) :
    height (before ++ after) = height before + height after := by
  rw [height, List.map_append, List.sum_append, height, height]

theorem Brace.rise_of_opening {brace : Brace} (h : brace.opening = true) : brace.rise = 1 :=
  if_pos h

theorem Brace.rise_of_closing {brace : Brace} (h : brace.opening = false) : brace.rise = -1 :=
  if_neg (Bool.eq_false_iff.mp h)

/-- The height is the number of opening braces less the number of closing ones. -/
theorem height_eq_count_sub (all : List Brace) :
    height all = (all.map Brace.step).count .U - (all.map Brace.step).count .D := by
  induction all with
  | nil => rfl
  | cons brace rest ih =>
    rw [height_cons, ih, List.map_cons, List.count_cons, List.count_cons, Brace.rise, Brace.step]
    cases brace.opening <;> simp <;> omega

/-- From a height the braces lead down to height zero and never below it. -/
structure Descends (start : ℤ) (all : List Brace) : Prop where
  /-- They end at height zero. -/
  ends : start + height all = 0
  /-- Nowhere have they fallen below it. -/
  stays : ∀ part, part <+: all → 0 ≤ start + height part

theorem descends_zero_nil : Descends 0 [] where
  ends := rfl
  stays part hpart := by rw [List.prefix_nil.mp hpart]; rfl

theorem Descends.cons {start : ℤ} {brace : Brace} {rest : List Brace} (hstart : 0 ≤ start)
    (h : Descends (start + brace.rise) rest) : Descends start (brace :: rest) where
  ends := by
    have hends := h.ends
    rw [height_cons]
    omega
  stays part hpart := by
    rcases List.prefix_cons_iff.mp hpart with rfl | ⟨part, rfl, htail⟩
    · rw [height_nil]
      omega
    · have hstays := h.stays part htail
      rw [height_cons]
      omega

/-- Braces are balanced exactly if they end at height zero and never fall below it. -/
theorem isBalanced_iff_descends (all : List Brace) : IsBalanced all ↔ Descends 0 all := by
  constructor
  · rintro ⟨word, hword⟩
    refine ⟨?_, fun part hpart => ?_⟩
    · rw [height_eq_count_sub, ← hword, word.count_U_eq_count_D, Int.sub_self, Int.zero_add]
    -- a prefix of the braces is a prefix of the word, so its counts compare
    · have hprefix := word.count_D_le_count_U part.length
      rw [hword, ← List.map_take, ← List.prefix_iff_eq_take.mp hpart] at hprefix
      rw [height_eq_count_sub]
      omega
  · rintro ⟨hend, hprefix⟩
    refine ⟨⟨all.map Brace.step, ?_, fun i => ?_⟩, rfl⟩
    · rw [height_eq_count_sub] at hend
      omega
    · have hpart := hprefix _ (List.take_prefix i all)
      rw [height_eq_count_sub, List.map_take] at hpart
      omega

theorem height_le_length (all : List Brace) : height all ≤ all.length := by
  induction all with
  | nil => rfl
  | cons brace rest ih =>
    rw [height_cons, List.length_cons, Brace.rise]
    split <;> omega

theorem neg_length_le_height (all : List Brace) : -(all.length : ℤ) ≤ height all := by
  induction all with
  | nil => rfl
  | cons brace rest ih =>
    rw [height_cons, List.length_cons, Brace.rise]
    split <;> omega

/-- Those that are kept and those that are taken away make up the height. -/
theorem height_filter_add (keep : Brace → Bool) (all : List Brace) :
    height (all.filter keep) + height (all.filter fun brace => !keep brace) = height all := by
  induction all with
  | nil => rfl
  | cons brace rest ih =>
    rw [height_cons, ← ih, List.filter_cons, List.filter_cons]
    cases keep brace <;> simp <;> omega

/-! ### The scan for partners -/

/-- One brace of the scan: it opens a block, closes one, or has no partner. -/
theorem unmatchedFrom_cons (stack : List Brace) (brace : Brace) (rest : List Brace) :
    (brace.opening = true ∧
      unmatchedFrom stack (brace :: rest) = unmatchedFrom (brace :: stack) rest) ∨
    (brace.opening = false ∧ ∃ partner lower, stack = partner :: lower ∧
      unmatchedFrom stack (brace :: rest) = unmatchedFrom lower rest) ∨
    (brace.opening = false ∧ stack = [] ∧
      unmatchedFrom stack (brace :: rest) =
        (brace :: (unmatchedFrom [] rest).1, (unmatchedFrom [] rest).2)) := by
  cases hopening : brace.opening with
  | true => exact .inl ⟨rfl, by simp [unmatchedFrom, hopening]⟩
  | false =>
    cases stack with
    | nil => exact .inr (.inr ⟨rfl, rfl, by simp [unmatchedFrom, hopening]⟩)
    | cons partner lower =>
      exact .inr (.inl ⟨rfl, partner, lower, rfl, by simp [unmatchedFrom, hopening]⟩)

/-- What the scan leaves without a partner stands in the order of the text, the closing braces first. -/
theorem unmatchedFrom_sublist (stack all : List Brace) :
    ((unmatchedFrom stack all).1 ++ (unmatchedFrom stack all).2.reverse).Sublist
      (stack.reverse ++ all) := by
  induction all generalizing stack with
  | nil => simp [unmatchedFrom]
  | cons brace rest ih =>
    rcases unmatchedFrom_cons stack brace rest with
      ⟨-, heq⟩ | ⟨-, partner, lower, rfl, heq⟩ | ⟨-, rfl, heq⟩
    · simpa [heq] using ih (brace :: stack)
    · rw [heq, List.reverse_cons, List.append_assoc, List.singleton_append]
      exact (ih lower).trans
        ((((List.sublist_cons_self brace rest).cons partner)).append_left lower.reverse)
    · rw [heq]
      exact (ih []).cons_cons brace

theorem opening_of_mem_unmatchedFrom {stack all : List Brace}
    (hstack : ∀ brace ∈ stack, brace.opening = true) :
    (∀ brace ∈ (unmatchedFrom stack all).1, brace.opening = false) ∧
      ∀ brace ∈ (unmatchedFrom stack all).2, brace.opening = true := by
  induction all generalizing stack with
  | nil => exact ⟨fun _ h => absurd h List.not_mem_nil, hstack⟩
  | cons brace rest ih =>
    rcases unmatchedFrom_cons stack brace rest with
      ⟨hopening, heq⟩ | ⟨-, partner, lower, rfl, heq⟩ | ⟨hclosing, rfl, heq⟩
    · rw [heq]
      exact ih (List.forall_mem_cons.mpr ⟨hopening, hstack⟩)
    · rw [heq]
      exact ih (List.forall_mem_cons.mp hstack).2
    · rw [heq]
      obtain ⟨hclosings, hopenings⟩ := ih hstack
      exact ⟨List.forall_mem_cons.mpr ⟨hclosing, hclosings⟩, hopenings⟩

/-- The braces that have no partner in a scan. -/
def aloneFrom (stack all : List Brace) : List Brace :=
  (unmatchedFrom stack all).1 ++ (unmatchedFrom stack all).2

theorem not_mem_aloneFrom {stack all : List Brace} {brace : Brace} (h : brace ∉ stack)
    (h' : brace ∉ all) : brace ∉ aloneFrom stack all := by
  intro hmem
  have hsub := (unmatchedFrom_sublist stack all).subset (a := brace)
  simp only [aloneFrom, List.mem_append, List.mem_reverse] at hmem hsub
  exact (hsub hmem).elim h h'

/-- The braces that have a partner in a scan, of those that stand on the stack or in the text. -/
def partnered (stack all among : List Brace) : List Brace :=
  among.filter fun brace => brace ∉ aloneFrom stack all

theorem partnered_of_eq {stack all stack' all' : List Brace}
    (h : unmatchedFrom stack all = unmatchedFrom stack' all') (among : List Brace) :
    partnered stack all among = partnered stack' all' among := by
  rw [partnered, partnered, aloneFrom, aloneFrom, h]

/-- The braces that have a partner lead from the open blocks that get closed down to height zero. -/
theorem descends_partnered {stack all : List Brace} (hnodup : (stack ++ all).Nodup) :
    Descends (partnered stack all stack).length (partnered stack all all) := by
  -- the stack is general: an opening brace is carried on it until its fate is known
  induction all generalizing stack with
  | nil =>
    have hnone : partnered stack [] stack = [] :=
      List.filter_eq_nil_iff.mpr fun brace hbrace halone =>
        of_decide_eq_true halone (List.mem_append_right _ hbrace)
    rw [hnone]
    exact descends_zero_nil
  | cons brace rest ih =>
    obtain ⟨hbrace, hothers⟩ := List.nodup_cons.mp (List.nodup_middle.mp hnodup)
    rw [List.mem_append, not_or] at hbrace
    rcases unmatchedFrom_cons stack brace rest with
      ⟨hopening, heq⟩ | ⟨hclosing, partner, lower, rfl, heq⟩ | ⟨hclosing, rfl, heq⟩
    -- an opening brace counts only if the rest of the text closes it
    · have hrest := @ih (brace :: stack) (List.nodup_middle.mp hnodup)
      rw [partnered_of_eq heq, partnered_of_eq heq]
      by_cases halone : brace ∈ aloneFrom (brace :: stack) rest
      · simpa [partnered, halone] using hrest
      · have hstack : partnered (brace :: stack) rest (brace :: stack) =
            brace :: partnered (brace :: stack) rest stack := by
          simp [partnered, halone]
        have hall : partnered (brace :: stack) rest (brace :: rest) =
            brace :: partnered (brace :: stack) rest rest := by
          simp [partnered, halone]
        rw [hall]
        refine .cons (Int.natCast_nonneg _) ?_
        rw [hstack, List.length_cons] at hrest
        rwa [Brace.rise_of_opening hopening]
    -- a closing brace and the one on top of the stack are partners, and both count
    · rw [List.cons_append] at hothers
      obtain ⟨hpartner, hlower⟩ := List.nodup_cons.mp hothers
      rw [List.mem_cons, not_or] at hbrace
      rw [List.mem_append, not_or] at hpartner
      have hstack : partnered lower rest (partner :: lower) = partner :: partnered lower rest lower := by
        simp [partnered, not_mem_aloneFrom hpartner.1 hpartner.2]
      have hall : partnered lower rest (brace :: rest) = brace :: partnered lower rest rest := by
        simp [partnered, not_mem_aloneFrom hbrace.1.2 hbrace.2]
      rw [partnered_of_eq heq, partnered_of_eq heq, hstack, hall]
      refine .cons (Int.natCast_nonneg _) ?_
      have hheight : ((partner :: partnered lower rest lower).length : ℤ) + brace.rise =
          (partnered lower rest lower).length := by
        rw [Brace.rise_of_closing hclosing, List.length_cons]
        omega
      rw [hheight]
      exact ih hlower
    -- a closing brace at which no block is open does not count
    · have halone : aloneFrom [] (brace :: rest) = brace :: aloneFrom [] rest := by
        rw [aloneFrom, heq]
        rfl
      have hall : partnered [] (brace :: rest) (brace :: rest) = partnered [] rest rest := by
        rw [partnered, partnered, halone, List.filter_cons_of_neg (by simp)]
        refine List.filter_congr fun other hother => decide_eq_decide.mpr ?_
        have hdiffers : other ≠ brace := fun h => hbrace.2 (h ▸ hother)
        simp [hdiffers]
      rw [hall]
      exact ih hothers

/-! ### The least repair -/

/-- The text falls into a part that falls below its start by the number of closing braces without a
partner and a part that rises by the number of opening ones; as long as no brace lacks a partner, there
is but one part. -/
theorem exists_parts (stack all : List Brace) :
    ((unmatchedFrom stack all).1 = [] ∧
      ((unmatchedFrom stack all).2.length : ℤ) = stack.length + height all) ∨
    ∃ before after, all = before ++ after ∧
      stack.length + height before = -((unmatchedFrom stack all).1.length : ℤ) ∧
      height after = (unmatchedFrom stack all).2.length := by
  induction all generalizing stack with
  | nil => exact .inl ⟨rfl, by simp [unmatchedFrom]⟩
  | cons brace rest ih =>
    rcases unmatchedFrom_cons stack brace rest with
      ⟨hopening, heq⟩ | ⟨hclosing, partner, lower, rfl, heq⟩ | ⟨hclosing, rfl, heq⟩
    · have hrise := Brace.rise_of_opening hopening
      rcases ih (brace :: stack) with ⟨hnone, hlength⟩ | ⟨before, after, rfl, hbefore, hafter⟩
      · refine .inl (heq ▸ ⟨hnone, ?_⟩)
        rw [hlength, List.length_cons, height_cons, hrise]
        omega
      · refine .inr (heq ▸ ⟨brace :: before, after, rfl, ?_, hafter⟩)
        rw [← hbefore, List.length_cons, height_cons, hrise]
        omega
    · have hrise := Brace.rise_of_closing hclosing
      rcases ih lower with ⟨hnone, hlength⟩ | ⟨before, after, rfl, hbefore, hafter⟩
      · refine .inl (heq ▸ ⟨hnone, ?_⟩)
        rw [hlength, List.length_cons, height_cons, hrise]
        omega
      · refine .inr (heq ▸ ⟨brace :: before, after, rfl, ?_, hafter⟩)
        rw [← hbefore, List.length_cons, height_cons, hrise]
        omega
    · have hrise := Brace.rise_of_closing hclosing
      rcases ih [] with ⟨hnone, hlength⟩ | ⟨before, after, rfl, hbefore, hafter⟩
      -- the first closing brace without a partner ends the part that falls
      · refine .inr (heq ▸ ⟨[brace], rest, rfl, ?_, ?_⟩)
        · simp [hnone, hrise]
        · simpa using hlength.symm
      · refine .inr (heq ▸ ⟨brace :: before, after, rfl, ?_, hafter⟩)
        rw [List.length_cons, height_cons, hrise]
        rw [List.length_nil] at hbefore ⊢
        omega

/-- Whoever takes braces away so that a balanced list is left takes away at least as many as have no
partner. -/
theorem length_unmatched_le {all : List Brace} {keep : Brace → Bool}
    (h : IsBalanced (all.filter keep)) :
    (unmatched all).length ≤ (all.filter fun brace => !keep brace).length := by
  have hlength : (unmatched all).length =
      (unmatchedFrom [] all).1.length + (unmatchedFrom [] all).2.length := by
    simp [unmatched]
  have hparts : ∃ before after, all = before ++ after ∧
      height before = -((unmatchedFrom [] all).1.length : ℤ) ∧
      height after = (unmatchedFrom [] all).2.length := by
    rcases exists_parts [] all with ⟨hnone, hheight⟩ | ⟨before, after, hall, hbefore, hafter⟩
    · exact ⟨[], all, rfl, by simp [hnone], by simpa using hheight.symm⟩
    · exact ⟨before, after, hall, by simpa using hbefore, hafter⟩
  obtain ⟨before, after, hall, hbefore, hafter⟩ := hparts
  rw [isBalanced_iff_descends] at h
  have hends := h.ends
  have hstays := h.stays (before.filter keep)
    (by rw [hall, List.filter_append]; exact List.prefix_append _ _)
  -- what is kept must not fall, so the falling part loses a closing brace for each step of its fall;
  -- it must end at zero, so the rising part loses an opening brace for each step of its rise
  have htaken := neg_length_le_height (before.filter fun brace => !keep brace)
  have htaken' := height_le_length (after.filter fun brace => !keep brace)
  have hsum := height_filter_add keep before
  have hsum' := height_filter_add keep after
  have hsplit : (all.filter fun brace => !keep brace).length =
      (before.filter fun brace => !keep brace).length +
        (after.filter fun brace => !keep brace).length := by
    rw [hall, List.filter_append, List.length_append]
  have hheight : height (all.filter keep) =
      height (before.filter keep) + height (after.filter keep) := by
    rw [hall, List.filter_append, height_append]
  omega

/-! ### The hints -/

/-- Where a brace stands. -/
def Brace.position (brace : Brace) : Position :=
  ⟨brace.line, brace.column⟩

/-- The place comes before the other one in a text. -/
def PrecedesInText (a b : Position) : Prop :=
  a.line < b.line ∨ (a.line = b.line ∧ a.character < b.character)

/-- The braces that are left when those at some places are taken away. -/
def without (places : Finset Position) (all : List Brace) : List Brace :=
  all.filter fun brace => brace.position ∉ places

/-- The places that the hints for braces point at. -/
def hintedPlaces (text : String) : Finset Position :=
  ((checkBraces text).map (·.range.start)).toFinset

/-- The hint for a closing brace at which no block is open. -/
def hintAtClosing (brace : Brace) : Diagnostic :=
  ownProblem brace.line brace.column (brace.column + 1) .hint "Unmatched closing brace '\x7d'"

/-- The hint for an opening brace whose block is not closed. -/
def hintAtOpening (brace : Brace) : Diagnostic :=
  ownProblem brace.line brace.column (brace.column + 1) .hint "Unclosed brace '\x7b'"

/-- Braces without a partner stand in the order of the text, the closing ones first. -/
theorem unmatched_sublist (all : List Brace) : (unmatched all).Sublist all :=
  unmatchedFrom_sublist [] all

theorem mem_unmatched_iff (all : List Brace) (brace : Brace) :
    brace ∈ unmatched all ↔ brace ∈ aloneFrom [] all := by
  simp [unmatched, aloneFrom]

/-- The places of braces in increasing order are different. -/
theorem nodup_positions {all : List Brace} (h : all.Pairwise Brace.StandsBefore) :
    (all.map Brace.position).Nodup := by
  refine List.pairwise_map.mpr (h.imp fun {a b} hab heq => ?_)
  obtain ⟨hline, hcolumn⟩ := Position.mk.inj heq
  unfold Brace.StandsBefore at hab
  omega

theorem map_start_checkBraces (text : String) :
    (checkBraces text).map (·.range.start) = (unmatched (braces text)).map Brace.position := by
  rw [checkBraces, List.map_map]
  rfl

/-- Taking away the hinted braces leaves those that have a partner. -/
theorem without_hintedPlaces (text : String) :
    without (hintedPlaces text) (braces text) = partnered [] (braces text) (braces text) := by
  refine List.filter_congr fun brace hbrace => decide_eq_decide.mpr (not_congr ?_)
  rw [hintedPlaces, map_start_checkBraces, List.mem_toFinset, ← mem_unmatched_iff, List.mem_map]
  refine ⟨fun ⟨other, hother, heq⟩ => ?_, fun hmem => ⟨brace, hmem, rfl⟩⟩
  have hsame := List.inj_on_of_nodup_map (nodup_positions (pairwise_braces text))
    ((unmatched_sublist _).subset hother) hbrace heq
  exact hsame ▸ hother

theorem card_hintedPlaces (text : String) :
    (hintedPlaces text).card = (unmatched (braces text)).length := by
  rw [hintedPlaces, map_start_checkBraces, List.toFinset_card_of_nodup, List.length_map]
  exact (nodup_positions (pairwise_braces text)).sublist ((unmatched_sublist _).map _)

theorem isBalanced_without_hintedPlaces (text : String) :
    IsBalanced (without (hintedPlaces text) (braces text)) := by
  rw [without_hintedPlaces, isBalanced_iff_descends]
  have hnodup : (braces text).Nodup := (nodup_positions (pairwise_braces text)).of_map _
  exact @descends_partnered [] _ hnodup

/-- No fewer places than the hinted ones balance a text. -/
theorem card_hintedPlaces_le (text : String) {places : Finset Position}
    (h : IsBalanced (without places (braces text))) : (hintedPlaces text).card ≤ places.card := by
  have htaken := length_unmatched_le h
  have hnodup := (nodup_positions (pairwise_braces text)).sublist
    ((List.filter_sublist (p := fun brace => !decide (brace.position ∉ places))).map Brace.position)
  rw [card_hintedPlaces]
  refine htaken.trans ?_
  rw [← List.length_map Brace.position, ← List.toFinset_card_of_nodup hnodup]
  refine Finset.card_le_card fun place hplace => ?_
  obtain ⟨brace, hbrace, rfl⟩ := List.mem_map.mp (List.mem_toFinset.mp hplace)
  simpa using (List.mem_filter.mp hbrace).2

/-- The hints name the closing braces without a partner first and then the opening ones, in the order of
the text. -/
theorem exists_checkBraces_eq (text : String) :
    ∃ closing opening : List Brace,
      checkBraces text = closing.map hintAtClosing ++ opening.map hintAtOpening ∧
      (∀ brace ∈ closing, brace.opening = false) ∧ (∀ brace ∈ opening, brace.opening = true) ∧
      (closing ++ opening).Sublist (braces text) := by
  obtain ⟨hclosing, hopening⟩ := @opening_of_mem_unmatchedFrom [] (braces text)
    (fun brace (h : brace ∈ []) => absurd h List.not_mem_nil)
  refine ⟨(unmatchedFrom [] (braces text)).1, (unmatchedFrom [] (braces text)).2.reverse, ?_, hclosing,
    fun brace h => hopening brace (List.mem_reverse.mp h), unmatched_sublist _⟩
  rw [checkBraces, unmatched, List.map_append]
  congr 1
  · exact List.map_congr_left fun brace h => by rw [hclosing brace h]; rfl
  · exact List.map_congr_left fun brace h => by
      rw [hopening brace (List.mem_reverse.mp h)]; rfl

/-- **Least hints for braces.** For every text there are no hints exactly if its braces are balanced, the
braces that are left without the hinted ones are balanced, and no fewer places than the hinted ones
could be taken away to balance the text. The hints point at different places in increasing order: first
at the closing braces without a partner, then at the opening ones, all of which are braces of the
text. -/
theorem brace_hints_least (text : String) :
    (hintedPlaces text = ∅ ↔ IsBalanced (braces text)) ∧
    IsBalanced (without (hintedPlaces text) (braces text)) ∧
    (∀ places, IsBalanced (without places (braces text)) → (hintedPlaces text).card ≤ places.card) ∧
    ((checkBraces text).map (·.range.start)).Pairwise PrecedesInText ∧
    (checkBraces text).length = (hintedPlaces text).card ∧
    ∃ closing opening : List Brace,
      checkBraces text = closing.map hintAtClosing ++ opening.map hintAtOpening ∧
      (∀ brace ∈ closing, brace.opening = false) ∧ (∀ brace ∈ opening, brace.opening = true) ∧
      (closing ++ opening).Sublist (braces text) := by
  have hwhole : without ∅ (braces text) = braces text := by simp [without]
  refine ⟨⟨fun hnone => ?_, fun hbalanced => ?_⟩, isBalanced_without_hintedPlaces text,
    fun places => card_hintedPlaces_le text, ?_, ?_, exists_checkBraces_eq text⟩
  · rw [← hwhole, ← hnone]
    exact isBalanced_without_hintedPlaces text
  · have hcard := @card_hintedPlaces_le text ∅ (hwhole.symm ▸ hbalanced)
    exact Finset.card_eq_zero.mp (Nat.le_zero.mp hcard)
  · rw [map_start_checkBraces]
    exact List.pairwise_map.mpr ((pairwise_braces text).sublist (unmatched_sublist _))
  · rw [card_hintedPlaces, checkBraces, List.length_map]

end BasiliskServer.Source
