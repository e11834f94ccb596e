import BasiliskServer.Proofs.Source.Words
import BasiliskServer.Source.Token

/-!
# Semantic tokens are valid on the wire

An editor colours a document from one list of numbers in which every token stands relative to the
one before it, so that one negative number, or one token that reaches into the next, spoils the
colours of the rest of the document. The classes of words may propose tokens that overlap; this
module shows that the tokens which are taken do not, that each lies inside its line, and that the
numbers can be read back.

The words of a line and the directive at its start lie inside the line (`mem_wordRuns`,
`directive?_bounds`), so every proposal does (`mem_allProposals`). Taking sorted proposals from the
front leaves a list in which every token ends before the next one starts
(`pairwise_takeDisjoint`), whatever was proposed.
-/

namespace BasiliskServer.Source

open Text (Line isWord dropBlanks)

/-! ### Places of tokens -/

/-- The token stands before the other one in the text. -/
def Token.StandsBefore (a b : Token) : Prop :=
  a.line < b.line ∨ (a.line = b.line ∧ a.start < b.start)

/-- The token ends, at the latest, where the other one starts. -/
def Token.EndsBefore (a b : Token) : Prop :=
  a.line < b.line ∨ (a.line = b.line ∧ a.start + a.length ≤ b.start)

/-- Some column of some line belongs to both tokens. -/
def Token.Overlaps (a b : Token) : Prop :=
  a.line = b.line ∧ ∃ column, (a.start ≤ column ∧ column < a.start + a.length) ∧
    b.start ≤ column ∧ column < b.start + b.length

/-- The token holds at least one character and lies inside its line. -/
def Token.LiesInside (lines : List Line) (token : Token) : Prop :=
  ∃ line, lines[token.line]? = some line ∧ 1 ≤ token.length ∧
    token.start + token.length ≤ line.length

theorem Token.notAfter_iff (a b : Token) :
    a.notAfter b ↔ a.line < b.line ∨ (a.line = b.line ∧ a.start ≤ b.start) := by
  simp [Token.notAfter]

theorem Token.EndsBefore.trans {a b c : Token} (hab : a.EndsBefore b) (hbc : b.EndsBefore c) :
    a.EndsBefore c := by
  unfold Token.EndsBefore at *
  omega

theorem Token.EndsBefore.notAfter {a b : Token} (h : a.EndsBefore b) : a.notAfter b := by
  rw [Token.notAfter_iff]
  unfold Token.EndsBefore at h
  omega

/-- A token that is not empty and ends before another stands before it. -/
theorem Token.EndsBefore.standsBefore {a b : Token} (h : a.EndsBefore b) (hlength : 1 ≤ a.length) :
    a.StandsBefore b := by
  unfold Token.EndsBefore at h
  unfold Token.StandsBefore
  omega

theorem Token.EndsBefore.not_overlaps {a b : Token} (h : a.EndsBefore b) : ¬ a.Overlaps b := by
  rintro ⟨hline, column, ⟨-, hlast⟩, hfirst, -⟩
  unfold Token.EndsBefore at h
  omega

/-! ### Proposals lie inside their lines -/

/-- A word of a line has a character and lies inside the line. -/
theorem mem_wordRuns (column : Nat) (cs : List Char) {run : WordRun}
    (h : run ∈ wordRuns column cs) :
    1 ≤ run.word.length ∧ run.start + run.word.length ≤ column + cs.length := by
  obtain ⟨before, hcs, hstart, hrun⟩ := (mem_wordRuns_iff column cs).mp h
  have hparts := congrArg List.length hcs
  rw [List.length_append, List.length_append] at hparts
  have hpos : 0 < run.word.length := List.length_pos_iff.mpr hrun.ne_nil
  omega

/-- The directive at the start of a line lies inside it. -/
theorem directive?_bounds {line : Line} {start length : Nat}
    (h : directive? line = some (start, length)) :
    1 ≤ length ∧ start + length ≤ line.length := by
  unfold directive? at h
  split at h
  next rest hblanks =>
    have hline : (dropBlanks line).length ≤ line.length :=
      (List.dropWhile_sublist _).length_le
    have hword : (rest.takeWhile isWord).length ≤ rest.length :=
      (List.takeWhile_sublist _).length_le
    rw [hblanks, List.length_cons] at hline
    split at h
    · cases h
    · simp only [Option.some.injEq, Prod.mk.injEq] at h
      omega
  next => cases h

/-- What the classes propose for a line is on that line and inside it. -/
theorem mem_proposals {number : Nat} {line : Line} {token : Token}
    (h : token ∈ proposals number line) :
    token.line = number ∧ 1 ≤ token.length ∧ token.start + token.length ≤ line.length := by
  have hwords : ∀ run ∈ wordRuns 0 line,
      1 ≤ run.word.length ∧ run.start + run.word.length ≤ line.length := by
    intro run hrun
    simpa using mem_wordRuns 0 line hrun
  simp only [proposals, List.mem_append, List.mem_map, List.mem_filter, Option.mem_toList,
    Option.map_eq_some_iff, Prod.exists] at h
  -- All classes but the last propose words; the last proposes the directive.
  rcases h with (((((⟨run, ⟨hrun, -⟩, rfl⟩ | ⟨run, ⟨hrun, -⟩, rfl⟩) | ⟨run, ⟨hrun, -⟩, rfl⟩) |
    ⟨run, ⟨hrun, -⟩, rfl⟩) | ⟨run, ⟨hrun, -⟩, rfl⟩) | ⟨run, ⟨hrun, -⟩, rfl⟩) |
    ⟨start, length, hdirective, rfl⟩
  all_goals first
    | exact ⟨rfl, hwords run hrun⟩
    | exact ⟨rfl, directive?_bounds hdirective⟩

/-- Every proposal for a text lies inside the line it names. -/
theorem mem_allProposals {number : Nat} {lines : List Line} {token : Token}
    (h : token ∈ allProposals number lines) :
    number ≤ token.line ∧ ∃ line, lines[token.line - number]? = some line ∧ 1 ≤ token.length ∧
      token.start + token.length ≤ line.length := by
  induction lines generalizing number with
  | nil => simp [allProposals] at h
  | cons line rest ih =>
    rw [allProposals, List.mem_append] at h
    rcases h with hhere | hlater
    · split at hhere
      · cases hhere
      · obtain ⟨rfl, hinside⟩ := mem_proposals hhere
        exact ⟨Nat.le_refl _, line, by simp, hinside⟩
    · obtain ⟨hnumber, found, hfound, hinside⟩ := ih hlater
      refine ⟨by omega, found, ?_, hinside⟩
      have hindex : token.line - number = (token.line - (number + 1)) + 1 := by omega
      rw [hindex, List.getElem?_cons_succ, hfound]

/-! ### Taking disjoint tokens -/

/-- A token is left out exactly when it starts inside the token taken last. -/
theorem takeDisjoint_cons (last : Option Token) (token : Token) (rest : List Token) :
    takeDisjoint last (token :: rest) =
      if last.any fun last => last.line = token.line && token.start < last.start + last.length then
        takeDisjoint last rest
      else token :: takeDisjoint (some token) rest := by
  cases last <;> rfl

/-- The tokens that are taken are among those proposed, in their order. -/
theorem takeDisjoint_sublist (last : Option Token) (sorted : List Token) :
    (takeDisjoint last sorted).Sublist sorted := by
  induction sorted generalizing last with
  | nil => exact List.Sublist.refl _
  | cons token rest ih =>
    rw [takeDisjoint_cons]
    split
    · exact (ih _).cons _
    · exact (ih _).cons_cons _

/-- Of proposals that do not stand before a token taken last, none is taken that starts inside
it. -/
theorem endsBefore_of_mem_takeDisjoint {last : Token} {sorted : List Token}
    (hsorted : (last :: sorted).Pairwise (fun a b => a.notAfter b)) {token : Token}
    (h : token ∈ takeDisjoint (some last) sorted) : last.EndsBefore token := by
  induction sorted generalizing last with
  | nil => simp [takeDisjoint] at h
  | cons next rest ih =>
    obtain ⟨hlast, hrest⟩ := List.pairwise_cons.mp hsorted
    rw [takeDisjoint_cons] at h
    simp only [Option.any_some, Bool.and_eq_true, decide_eq_true_eq] at h
    split at h
    next =>
      exact ih (hsorted.sublist ((List.sublist_cons_self next rest).cons_cons last)) h
    next hapart =>
      have hnext : last.EndsBefore next := by
        have horder := (last.notAfter_iff next).mp (hlast next List.mem_cons_self)
        unfold Token.EndsBefore
        omega
      rcases List.mem_cons.mp h with rfl | hlater
      · exact hnext
      · exact hnext.trans (ih hrest hlater)

/-- Of sorted proposals those are taken of which each ends before all later ones. -/
theorem pairwise_takeDisjoint (last : Option Token) {sorted : List Token}
    (hsorted : sorted.Pairwise (fun a b => a.notAfter b)) :
    (takeDisjoint last sorted).Pairwise Token.EndsBefore := by
  induction sorted generalizing last with
  | nil => exact List.Pairwise.nil
  | cons token rest ih =>
    rw [takeDisjoint_cons]
    split
    · exact ih _ hsorted.of_cons
    · exact .cons (fun _ => endsBefore_of_mem_takeDisjoint hsorted) (ih _ hsorted.of_cons)

theorem Token.notAfter_trans (a b c : Token) (hab : a.notAfter b) (hbc : b.notAfter c) :
    a.notAfter c := by
  rw [Token.notAfter_iff] at *
  omega

theorem Token.notAfter_total (a b : Token) : a.notAfter b || b.notAfter a := by
  rw [Bool.or_eq_true, Token.notAfter_iff, Token.notAfter_iff]
  omega

/-- The proposals are sorted before tokens are taken from them. -/
theorem pairwise_notAfter_mergeSort (proposed : List Token) :
    (proposed.mergeSort Token.notAfter).Pairwise (fun a b => a.notAfter b) :=
  List.pairwise_mergeSort Token.notAfter_trans Token.notAfter_total proposed

/-- Every token of a text ends before all later ones start. -/
theorem pairwise_tokens (text : String) : (tokens text).Pairwise Token.EndsBefore :=
  pairwise_takeDisjoint none (pairwise_notAfter_mergeSort _)

/-- Every token of a text lies inside its line. -/
theorem liesInside_of_mem_tokens {text : String} {token : Token} (h : token ∈ tokens text) :
    token.LiesInside (Text.lines text) := by
  have hproposed : token ∈ allProposals 0 (Text.lines text) :=
    List.mem_mergeSort.mp ((takeDisjoint_sublist none _).mem h)
  obtain ⟨-, hinside⟩ := mem_allProposals hproposed
  simpa [Token.LiesInside] using hinside

/-! ### Reading the numbers back -/

/-- The type of tokens with a code. -/
def TokenType.ofCode? (code : Nat) : Option TokenType :=
  TokenType.all[code]?

/-- The tokens that an editor reads from numbers: the numbers are natural, five make one token, a
difference of lines is added to the line before, and a difference of columns to the column before
if both tokens are on one line. -/
def decodeTokens (line start : Nat) : List Int → Option (List Token)
  | [] => some []
  | deltaLine :: deltaStart :: length :: code :: modifiers :: rest => do
    let deltaLine ← deltaLine.toNat?
    let deltaStart ← deltaStart.toNat?
    let length ← length.toNat?
    let kind ← TokenType.ofCode? (← code.toNat?)
    let modifiers ← modifiers.toNat?
    let newLine := line + deltaLine
    let newStart := if deltaLine = 0 then start + deltaStart else deltaStart
    let later ← decodeTokens newLine newStart rest
    return ⟨newLine, newStart, length, kind, modifiers⟩ :: later
  | _ => none

@[simp]
theorem TokenType.ofCode?_code (kind : TokenType) : TokenType.ofCode? kind.code = some kind := by
  cases kind <;> rfl

theorem toNat?_natCast (n : Nat) : (n : Int).toNat? = some n :=
  Int.mem_toNat?.mpr rfl

/-- Every token takes five numbers. -/
theorem length_encodeTokens (line start : Nat) (sorted : List Token) :
    (encodeTokens line start sorted).length = 5 * sorted.length := by
  induction sorted generalizing line start with
  | nil => rfl
  | cons token rest ih =>
    simp only [encodeTokens, List.length_append, List.length_cons, List.length_nil, ih]
    omega

/-- A token that does not stand before a place is that place moved by two natural numbers: by the
difference of the lines and, on the same line, by the difference of the columns. -/
theorem encodeTokens_cons {line start : Nat} {token : Token} (rest : List Token)
    (hplace : line < token.line ∨ (line = token.line ∧ start ≤ token.start)) :
    ∃ deltaLine deltaStart : Nat,
      encodeTokens line start (token :: rest) =
        [(deltaLine : Int), (deltaStart : Int), (token.length : Int), (token.type.code : Int),
          (token.modifiers : Int)] ++ encodeTokens token.line token.start rest ∧
      token.line = line + deltaLine ∧
      token.start = if deltaLine = 0 then start + deltaStart else deltaStart := by
  rcases hplace with hlater | ⟨rfl, hstart⟩
  · refine ⟨token.line - line, token.start, ?_, by omega, by rw [if_neg (by omega)]⟩
    have hdelta : (token.line : Int) - line ≠ 0 := by omega
    simp only [encodeTokens, if_neg hdelta]
    rw [Int.ofNat_sub (Nat.le_of_lt hlater)]
  · refine ⟨0, token.start - start, ?_, rfl, by rw [if_pos rfl]; omega⟩
    simp only [encodeTokens, Int.sub_self, if_true]
    rw [Int.ofNat_sub hstart, Int.natCast_zero]

/-- The numbers of sorted tokens are natural and are read back as the tokens. -/
theorem decodeTokens_encodeTokens {sorted : List Token} (line start : Nat)
    (hfrom : ∀ token ∈ sorted, line < token.line ∨ (line = token.line ∧ start ≤ token.start))
    (hsorted : sorted.Pairwise (fun a b => a.notAfter b)) :
    (∀ n ∈ encodeTokens line start sorted, 0 ≤ n) ∧
      decodeTokens line start (encodeTokens line start sorted) = some sorted := by
  induction sorted generalizing line start with
  | nil => simp [encodeTokens, decodeTokens]
  | cons token rest ih =>
    obtain ⟨htoken, hrest⟩ := List.pairwise_cons.mp hsorted
    obtain ⟨hnatural, hread⟩ := ih token.line token.start
      (fun next hnext => (token.notAfter_iff next).mp (htoken next hnext)) hrest
    obtain ⟨deltaLine, deltaStart, hencode, hline, hstart⟩ :=
      encodeTokens_cons rest (hfrom token List.mem_cons_self)
    rw [hencode]
    constructor
    · intro n hn
      simp only [List.cons_append, List.nil_append, List.mem_cons] at hn
      rcases hn with rfl | rfl | rfl | rfl | rfl | hn
      case inr.inr.inr.inr.inr => exact hnatural n hn
      all_goals exact Int.natCast_nonneg _
    · simp only [List.cons_append, List.nil_append, decodeTokens, toNat?_natCast,
        TokenType.ofCode?_code, Option.bind_eq_bind, Option.bind_some, ← hline, ← hstart, hread]
      rfl

/-- **Valid semantic tokens.** The tokens of every text stand in strictly increasing order, no two
of them overlap, and each has at least one character and lies inside its line. The list sent for
them has five numbers for every token, none of them negative, and an editor reads the very tokens
back from it, with their types and properties. -/
theorem tokens_valid_on_wire (text : String) :
    (tokens text).Pairwise Token.StandsBefore ∧
    (tokens text).Pairwise (fun a b => ¬ a.Overlaps b) ∧
    (∀ token ∈ tokens text, token.LiesInside (Text.lines text)) ∧
    (tokenData text).length = 5 * (tokens text).length ∧
    (∀ n ∈ tokenData text, 0 ≤ n) ∧
    decodeTokens 0 0 (tokenData text) = some (tokens text) := by
  have hends := pairwise_tokens text
  have hinside : ∀ token ∈ tokens text, token.LiesInside (Text.lines text) :=
    fun _ => liesInside_of_mem_tokens
  have hread := decodeTokens_encodeTokens 0 0
    (fun token _ => by omega) (hends.imp Token.EndsBefore.notAfter)
  refine ⟨?_, hends.imp Token.EndsBefore.not_overlaps, hinside, length_encodeTokens 0 0 _, hread⟩
  apply hends.imp_of_mem
  intro a b ha _ hab
  obtain ⟨_, _, hlength, _⟩ := hinside a ha
  exact hab.standsBefore hlength

/-- The numbers of a line with a type, a loop variable and a constant. -/
example : decodeTokens 0 0 [1, 0, 6, 1, 0, 0, 9, 5, 4, 0, 0, 6, 2, 3, 4] =
    some [⟨1, 0, 6, .type, 0⟩, ⟨1, 9, 5, .parameter, 0⟩, ⟨1, 15, 2, .variableName, 4⟩] := by
  decide

end BasiliskServer.Source
