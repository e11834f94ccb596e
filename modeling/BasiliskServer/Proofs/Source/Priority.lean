import BasiliskServer.Proofs.Source.Tokens
import Mathlib.Data.Set.Basic

/-!
# Which tokens are taken

The classes of words may propose tokens that overlap, and the tokens of a text are found by one scan that
compares a proposal with the token taken last and with no other. This module says without a scan which
tokens these are. A proposal gives way to one that overlaps it if that one starts further left, or in the
same column while its class has its turn earlier (`Token.Displaces`). A selection takes proposals that do
not overlap and leaves out only those that give way to one it takes (`IsSelection`).

There is at most one selection, since what a proposal gives way to stands before it
(`IsSelection.eq_of_isSelection`). The scan makes one because sorting is stable: proposals that start
together keep the order of their classes (`pairwise_goesBefore_mergeSort`), so that the token taken last
goes before every proposal that it meets (`exists_displaces_of_notMem`).
-/

namespace BasiliskServer.Source

open Text (Line allBlank dropBlanks isBlank isWord)

/-! ### The order of proposals -/

/-- The types of tokens that are proposed, in the order in which their classes have their turn. -/
def TokenType.proposed : List TokenType :=
  [.keyword, .type, .function, .variableName, .parameter, .nameSpace, .directive]

/-- The turn of the class that proposes the token. -/
def Token.turn (token : Token) : Nat :=
  TokenType.proposed.idxOf token.type

/-- All proposals for a text: line by line, in every line class by class. -/
def candidates (text : String) : List Token :=
  (Text.lines text).zipIdx.flatMap fun (line, number) => proposals number line

/-- The order in which proposals are made: by line, class and column. -/
def Token.ProposedBefore (a b : Token) : Prop :=
  a.line < b.line ∨ a.line = b.line ∧ (a.turn < b.turn ∨ a.turn = b.turn ∧ a.start < b.start)

/-- The order in which proposals are considered: by line, column and class. -/
def Token.GoesBefore (a b : Token) : Prop :=
  a.line < b.line ∨ a.line = b.line ∧ (a.start < b.start ∨ a.start = b.start ∧ a.turn < b.turn)

/-- The token overlaps the other one and starts further left, or in the same column while its class has its
turn earlier. -/
def Token.Displaces (a b : Token) : Prop :=
  a.Overlaps b ∧ (a.start < b.start ∨ a.start = b.start ∧ a.turn < b.turn)

/-- Tokens taken from candidates: those that are left out are displaced by one that is taken, and no two
that are taken overlap. -/
structure IsSelection (candidates : List Token) (chosen : Set Token) : Prop where
  /-- Only candidates are taken. -/
  subset : ∀ token ∈ chosen, token ∈ candidates
  /-- What is left out is displaced. -/
  displaced : ∀ token ∈ candidates, token ∉ chosen → ∃ taken ∈ chosen, taken.Displaces token
  /-- What is taken does not overlap. -/
  apart : ∀ a ∈ chosen, ∀ b ∈ chosen, a.Overlaps b → a = b

theorem Token.Overlaps.symm {a b : Token} (h : a.Overlaps b) : b.Overlaps a := by
  obtain ⟨hline, column, ha, hb⟩ := h
  exact ⟨hline.symm, column, hb, ha⟩

/-! ### There is at most one selection -/

/-- Whatever one selection takes, every other one takes: a token that displaces it in the other stands before
it, so that both take that one. -/
theorem IsSelection.mem_of_mem {proposed : List Token} {chosen other : Set Token}
    (h : IsSelection proposed chosen) (hother : IsSelection proposed other) {token : Token}
    (hmem : token ∈ chosen) : token ∈ other := by
  -- The induction is on column and class; it goes through for both selections at once.
  suffices hboth : ∀ column turn, ∀ token : Token, token.start = column → token.turn = turn →
      (token ∈ chosen ↔ token ∈ other) from (hboth _ _ token rfl rfl).mp hmem
  intro column
  induction column using Nat.strong_induction_on with
  | _ column ihcolumn =>
    intro turn
    induction turn using Nat.strong_induction_on with
    | _ turn ihturn =>
      rintro token rfl rfl
      have hearlier : ∀ taken : Token, taken.Displaces token → (taken ∈ chosen ↔ taken ∈ other) := by
        rintro taken ⟨-, hleft | ⟨hstart, hturn⟩⟩
        · exact ihcolumn _ hleft _ taken rfl rfl
        · exact ihturn _ hturn taken hstart rfl
      have hnot : ∀ taken : Token, taken.Displaces token → taken ≠ token := by
        rintro taken ⟨-, hplace⟩ rfl
        omega
      constructor
      · intro hchosen
        by_contra hleft
        obtain ⟨taken, htaken, hdisplaces⟩ := hother.displaced token (h.subset token hchosen) hleft
        have hin := (hearlier taken hdisplaces).mpr htaken
        exact hnot taken hdisplaces (h.apart taken hin token hchosen hdisplaces.1)
      · intro hchosen
        by_contra hleft
        obtain ⟨taken, htaken, hdisplaces⟩ := h.displaced token (hother.subset token hchosen) hleft
        have hin := (hearlier taken hdisplaces).mp htaken
        exact hnot taken hdisplaces (hother.apart taken hin token hchosen hdisplaces.1)

/-- There is at most one selection. -/
theorem IsSelection.eq_of_isSelection {proposed : List Token} {chosen other : Set Token}
    (h : IsSelection proposed chosen) (hother : IsSelection proposed other) : chosen = other :=
  Set.ext fun _ => ⟨h.mem_of_mem hother, hother.mem_of_mem h⟩

/-! ### Proposals are made in their order -/

/-- The words of a line are listed from left to right. -/
theorem pairwise_wordRuns (column : Nat) (cs : List Char) :
    (wordRuns column cs).Pairwise fun a b => a.start < b.start := by
  induction column, cs using wordRuns.induct with
  | case1 column => rw [wordRuns]; exact .nil
  | case2 column c rest hword word after ih =>
    rw [wordRuns, if_pos hword]
    refine .cons (fun run hrun => ?_) ih
    obtain ⟨before, -, hstart, -⟩ := (mem_wordRuns_iff _ _).mp hrun
    have hpos : 0 < (c :: rest.takeWhile isWord).length := Nat.succ_pos _
    change column < run.start
    omega
  | case3 column c rest hword ih => rwa [wordRuns, if_neg hword]

/-- Proposals for one line by the classes before a turn, in their order. -/
structure IsProposed (number turn : Nat) (proposed : List Token) : Prop where
  /-- They are made for the line, before the turn. -/
  place : ∀ token ∈ proposed, token.line = number ∧ token.turn < turn
  /-- They are in their order. -/
  pairwise : proposed.Pairwise Token.ProposedBefore

theorem isProposed_nil (number : Nat) : IsProposed number 0 [] :=
  ⟨fun _ h => absurd h List.not_mem_nil, .nil⟩

/-- The proposals of the class that has its turn come last. -/
theorem IsProposed.append {number turn : Nat} {proposed block : List Token}
    (h : IsProposed number turn proposed)
    (hplace : ∀ token ∈ block, token.line = number ∧ token.turn = turn)
    (hsorted : block.Pairwise fun a b => a.start < b.start) :
    IsProposed number (turn + 1) (proposed ++ block) where
  place token hmem := by
    rcases List.mem_append.mp hmem with hmem | hmem
    · exact ⟨(h.place token hmem).1, Nat.lt_succ_of_lt (h.place token hmem).2⟩
    · exact ⟨(hplace token hmem).1, by rw [(hplace token hmem).2]; exact Nat.lt_succ_self _⟩
  pairwise := by
    refine List.pairwise_append.mpr ⟨h.pairwise, hsorted.imp_of_mem ?_, ?_⟩
    · intro a b ha hb hstart
      obtain ⟨hline, hturn⟩ := hplace a ha
      obtain ⟨hline', hturn'⟩ := hplace b hb
      exact .inr ⟨hline.trans hline'.symm, .inr ⟨hturn.trans hturn'.symm, hstart⟩⟩
    · intro a ha b hb
      obtain ⟨hline, hturn⟩ := h.place a ha
      obtain ⟨hline', hturn'⟩ := hplace b hb
      exact .inr ⟨hline.trans hline'.symm, .inl (by omega)⟩

/-- A class of words proposes words from left to right. -/
theorem IsProposed.append_words {number turn : Nat} {proposed : List Token}
    (h : IsProposed number turn proposed) (line : Line) (belongs : WordRun → Bool) (kind : TokenType)
    (modifiers : Nat) (hturn : TokenType.proposed.idxOf kind = turn) :
    IsProposed number (turn + 1) (proposed ++ ((wordRuns 0 line).filter belongs).map fun run =>
      ⟨number, run.start, run.word.length, kind, modifiers⟩) := by
  refine h.append (fun token hmem => ?_) ?_
  · obtain ⟨run, -, rfl⟩ := List.mem_map.mp hmem
    exact ⟨rfl, hturn⟩
  · exact List.pairwise_map.mpr ((pairwise_wordRuns 0 line).filter _)

/-- The classes propose tokens for a line in their order. -/
theorem isProposed_proposals (number : Nat) (line : Line) :
    IsProposed number 7 (proposals number line) := by
  let among (words : List String) (run : WordRun) : Bool := words.contains (String.ofList run.word)
  have hkeywords := (isProposed_nil number).append_words line (among keywordTokens) .keyword 0 rfl
  have htypes := hkeywords.append_words line (among typeTokens) .type 0 rfl
  have hcalls := htypes.append_words line isBuiltinCall .function 0 rfl
  have hconstants := hcalls.append_words line (among constantTokens) .variableName readOnly rfl
  have hvariables := hconstants.append_words line (among loopVariableTokens) .parameter 0 rfl
  have hwords := hvariables.append_words line (fun run => isParallelName run.word) .nameSpace 0 rfl
  rw [List.nil_append] at hwords
  refine hwords.append (fun token hmem => ?_) ?_
  · obtain ⟨⟨start, length⟩, -, rfl⟩ := Option.map_eq_some_iff.mp (Option.mem_toList.mp hmem)
    exact ⟨rfl, rfl⟩
  · cases directive? line <;> simp

/-- Proposals for the lines of a text are made in their order. -/
theorem pairwise_allProposals (number : Nat) (lines : List Line) :
    (allProposals number lines).Pairwise Token.ProposedBefore := by
  induction lines generalizing number with
  | nil => exact .nil
  | cons line rest ih =>
    rw [allProposals]
    refine List.pairwise_append.mpr ⟨?_, ih _, fun a ha b hb => .inl ?_⟩
    · split
      · exact .nil
      · exact (isProposed_proposals number line).pairwise
    · split at ha
      · cases ha
      · have hline := ((isProposed_proposals number line).place a ha).1
        have hlater := (mem_allProposals hb).1
        omega

/-- Nothing is proposed for a blank line. -/
theorem proposals_of_allBlank (number : Nat) {line : Line} (h : allBlank line) :
    proposals number line = [] := by
  have hblank := Text.allBlank_iff.mp h
  have hwords : wordRuns 0 line = [] := by
    refine List.eq_nil_iff_forall_not_mem.mpr fun run hrun => ?_
    obtain ⟨before, hline, -, hlongest⟩ := (mem_wordRuns_iff 0 line).mp hrun
    obtain ⟨c, hc⟩ := List.exists_mem_of_ne_nil _ hlongest.ne_nil
    have hmem : c ∈ line := by simp [hline, hc]
    simpa [hlongest.inside c hc] using Text.isWord_of_isBlank (hblank c hmem)
  have hdirective : directive? line = none := by
    have hdropped : dropBlanks line = [] := by
      simpa [dropBlanks, List.dropWhile_eq_nil_iff] using hblank
    rw [directive?, hdropped]
  simp [proposals, hwords, hdirective]

/-- Leaving out blank lines leaves out no proposals. -/
theorem allProposals_eq (number : Nat) (lines : List Line) :
    allProposals number lines =
      (lines.zipIdx number).flatMap fun (line, number) => proposals number line := by
  induction lines generalizing number with
  | nil => rfl
  | cons line rest ih =>
    rw [allProposals, ih, List.zipIdx_cons, List.flatMap_cons]
    split
    next hblank => exact congrArg (· ++ _) (proposals_of_allBlank number hblank).symm
    next => rfl

/-! ### Sorting is stable -/

theorem Token.ProposedBefore.asymm {a b : Token} (h : a.ProposedBefore b) : ¬ b.ProposedBefore a := by
  unfold Token.ProposedBefore at *
  omega

/-- Two elements of a list follow each other in one order or the other. -/
theorem pair_sublist_or {α : Type} {a b : α} {list : List α} (ha : a ∈ list) (hb : b ∈ list)
    (hne : a ≠ b) : [a, b].Sublist list ∨ [b, a].Sublist list := by
  obtain ⟨front, rest, rfl⟩ := List.append_of_mem ha
  rcases List.mem_append.mp hb with hfront | hrest
  · exact .inr ((List.singleton_sublist.mpr hfront).append
      (List.singleton_sublist.mpr List.mem_cons_self))
  · have hrest : b ∈ rest := (List.mem_cons.mp hrest).resolve_left hne.symm
    exact .inl (((List.singleton_sublist.mpr hrest).cons_cons a).trans (List.sublist_append_right ..))

/-- Elements of a list without repetitions follow each other in one order only. -/
theorem not_pair_sublist_of_nodup {α : Type} {a b : α} {list : List α} (hnodup : list.Nodup)
    (h : [a, b].Sublist list) : ¬ [b, a].Sublist list := by
  induction list with
  | nil => simp at h
  | cons first rest ih =>
    obtain ⟨hfirst, hrest⟩ := List.nodup_cons.mp hnodup
    intro hback
    rw [List.cons_sublist_cons'] at h hback
    grind

/-- Sorting puts proposals in the order in which they are considered: those that start in one column keep
the order of their classes. -/
theorem pairwise_goesBefore_mergeSort {proposed : List Token}
    (h : proposed.Pairwise Token.ProposedBefore) :
    (proposed.mergeSort Token.notAfter).Pairwise Token.GoesBefore := by
  have hnodup : (proposed.mergeSort Token.notAfter).Nodup := by
    refine (List.mergeSort_perm proposed Token.notAfter).symm.nodup (h.imp ?_)
    rintro a b hbefore rfl
    exact hbefore.asymm hbefore
  rw [List.pairwise_iff_forall_sublist]
  intro a b hsorted
  have hplace := (a.notAfter_iff b).mp
    (List.pairwise_iff_forall_sublist.mp (pairwise_notAfter_mergeSort proposed) hsorted)
  -- Only the classes of tokens that start in one place are left to compare.
  by_cases hstart : a.line = b.line ∧ a.start = b.start
  · obtain ⟨hline, hstart⟩ := hstart
    have ha : a ∈ proposed := List.mem_mergeSort.mp (hsorted.mem (by simp))
    have hb : b ∈ proposed := List.mem_mergeSort.mp (hsorted.mem (by simp))
    have hne : a ≠ b := by
      rintro rfl
      exact not_pair_sublist_of_nodup hnodup hsorted hsorted
    rcases pair_sublist_or ha hb hne with hforth | hback
    · have hbefore := List.pairwise_iff_forall_sublist.mp h hforth
      unfold Token.ProposedBefore at hbefore
      unfold Token.GoesBefore
      omega
    · have hkept := List.pair_sublist_mergeSort Token.notAfter_trans Token.notAfter_total
        ((b.notAfter_iff a).mpr (.inr ⟨hline.symm, hstart.ge⟩)) hback
      exact absurd hkept (not_pair_sublist_of_nodup hnodup hsorted)
  · unfold Token.GoesBefore
    omega

/-! ### The scan makes a selection -/

/-- A token that goes before another one and is not over where that one starts displaces it. -/
theorem Token.GoesBefore.displaces {a b : Token} (h : a.GoesBefore b) (hline : a.line = b.line)
    (hinside : b.start < a.start + a.length) (hlength : 1 ≤ b.length) : a.Displaces b := by
  unfold Token.GoesBefore at h
  refine ⟨⟨hline, b.start, ⟨by omega, hinside⟩, Nat.le_refl _, by omega⟩, by omega⟩

/-- Of proposals in the order in which they are considered, every one that is left out is displaced by one
that is taken, or by the token taken last before them. -/
theorem exists_displaces_of_notMem {last : Option Token} {sorted : List Token}
    (hsorted : (last.toList ++ sorted).Pairwise Token.GoesBefore)
    (hlength : ∀ token ∈ sorted, 1 ≤ token.length) {token : Token} (hmem : token ∈ sorted)
    (hleft : token ∉ takeDisjoint last sorted) :
    ∃ taken, (taken ∈ last ∨ taken ∈ takeDisjoint last sorted) ∧ taken.Displaces token := by
  -- The first proposal is left out because of the token taken last, or it is itself taken and is
  -- then the one that was taken last for the rest.
  induction sorted generalizing last with
  | nil => cases hmem
  | cons next rest ih =>
    obtain ⟨hnext, hrest⟩ := List.forall_mem_cons.mp hlength
    rw [takeDisjoint_cons] at hleft ⊢
    split at hleft
    next hinside =>
      rw [if_pos hinside]
      rcases List.mem_cons.mp hmem with rfl | hlater
      · cases last with
        | none => cases hinside
        | some taken =>
          simp only [Option.any_some, Bool.and_eq_true, decide_eq_true_eq] at hinside
          have hbefore := (List.pairwise_cons.mp hsorted).1 token List.mem_cons_self
          exact ⟨taken, .inl rfl, hbefore.displaces hinside.1 hinside.2 hnext⟩
      · exact ih (hsorted.sublist (List.sublist_cons_self next rest |>.append_left _)) hrest hlater hleft
    next hapart =>
      rw [if_neg hapart]
      obtain ⟨hne, hleft⟩ := not_or.mp (mt List.mem_cons.mpr hleft)
      have hlater := (List.mem_cons.mp hmem).resolve_left hne
      have hfrom : ((some next).toList ++ rest).Pairwise Token.GoesBefore :=
        hsorted.sublist (List.sublist_append_right _ _)
      obtain ⟨taken, htaken, hdisplaces⟩ := ih hfrom hrest hlater hleft
      refine ⟨taken, .inr ?_, hdisplaces⟩
      rcases htaken with hlast | htaken
      · obtain rfl := Option.mem_some.mp hlast
        exact List.mem_cons_self
      · exact List.mem_cons_of_mem next htaken

/-- The tokens of a text are a selection from the proposals for it. -/
theorem isSelection_tokens (text : String) :
    IsSelection (candidates text) {token | token ∈ tokens text} where
  subset token hmem := by
    rw [candidates, ← allProposals_eq 0]
    exact List.mem_mergeSort.mp ((takeDisjoint_sublist none _).mem hmem)
  displaced token hmem hleft := by
    rw [candidates, ← allProposals_eq 0] at hmem
    have hlength : ∀ token ∈ (allProposals 0 (Text.lines text)).mergeSort Token.notAfter,
        1 ≤ token.length := by
      intro token hmem
      obtain ⟨-, line, -, hpos, -⟩ := mem_allProposals (List.mem_mergeSort.mp hmem)
      exact hpos
    obtain ⟨taken, htaken, hdisplaces⟩ := exists_displaces_of_notMem
      (pairwise_goesBefore_mergeSort (pairwise_allProposals 0 _)) hlength
      (List.mem_mergeSort.mpr hmem) hleft
    exact ⟨taken, htaken.resolve_left (by simp), hdisplaces⟩
  apart a ha b hb hoverlaps := by
    by_contra hne
    rcases pair_sublist_or ha hb hne with hab | hba
    · exact (List.pairwise_iff_forall_sublist.mp (pairwise_tokens text) hab).not_overlaps hoverlaps
    · exact (List.pairwise_iff_forall_sublist.mp (pairwise_tokens text) hba).not_overlaps hoverlaps.symm

/-- **Which tokens are taken.** The proposals for a text are made line by line, in every line class by class,
and none of them is made twice. The tokens of the text stand in the order of lines, columns and classes, and
they are the only selection from the proposals: exactly of this set of proposals it is true that no two
overlap, and that every other proposal overlaps one of them that starts further left on the line, or in
the same column while its class has its turn earlier. -/
theorem isSelection_iff_tokens (text : String) :
    (candidates text).Pairwise Token.ProposedBefore ∧
    (tokens text).Pairwise Token.GoesBefore ∧
    ∀ chosen : Set Token,
      IsSelection (candidates text) chosen ↔ chosen = {token | token ∈ tokens text} := by
  have hproposed := pairwise_allProposals 0 (Text.lines text)
  refine ⟨?_, ?_, fun chosen => ⟨fun h => h.eq_of_isSelection (isSelection_tokens text), ?_⟩⟩
  · rwa [candidates, ← allProposals_eq 0]
  · exact (pairwise_goesBefore_mergeSort hproposed).sublist (takeDisjoint_sublist none _)
  · rintro rfl
    exact isSelection_tokens text

end BasiliskServer.Source
