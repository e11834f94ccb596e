import BasiliskServer.Proofs.Source.Words
import BasiliskServer.Source.Dialect
import Mathlib.Data.List.Forall2

/-!
# Noise is told line by line

A plain C compiler reports problems on correct Basilisk C. Such noise is dropped on lines that look like
Basilisk C, and before that the whole text is looked at: where it does not look like Basilisk C, everything
is kept. The words and includes of a text are not those of its lines, since blanks in an include may be
line feeds. This module shows that the look at the whole text changes nothing
(`dropNoise_eq_filter_lines`).

What looks like Basilisk C is said without a search first (`LooksBasilisk`): one of the words of the text
is a word of the language, or an include of a header of the solver library stands in it. The searches find
just that (`looksBasilisk_iff`). A word of a line is a word of the text too, because a line feed is in no
word, and what stands in a line stands in the text (`LooksBasilisk.of_line`).
-/

namespace BasiliskServer.Source

open Text (Line isWord isBlank allBlank dropBlanks literal? NoneAfter NoneBefore)
open Wire (Diagnostic)

variable {cs rest header directive wording line before after : List Char}

/-! ### Includes of headers -/

/-- Characters of the name of a header in one of the directories. -/
def isHeaderChar (c : Char) : Bool :=
  isWord c || c = '-'

/-- A text names a header of the solver library, without its ending. -/
def IsMarkerHeader (header : List Char) : Prop :=
  (∃ directory ∈ markerDirectories, ∃ name, name ≠ [] ∧ (∀ c ∈ name, isHeaderChar c = true) ∧
    header = directory.toList ++ '/' :: name) ∨
  ∃ name ∈ markerHeaders, header = name.toList

/-- A text is an include of a header of the solver library, as far as its ending. -/
def IsMarkerInclude (directive : List Char) : Prop :=
  ∃ gap gap' mark header, allBlank gap = true ∧ allBlank gap' = true ∧ (mark = '<' ∨ mark = '"') ∧
    IsMarkerHeader header ∧
    directive = '#' :: (gap ++ ("include".toList ++ (gap' ++ mark :: (header ++ ".h".toList))))

theorem literal?_isSome_iff {expected : String} :
    (literal? expected cs).isSome = true ↔ ∃ rest, cs = expected.toList ++ rest := by
  rw [Option.isSome_iff_exists]
  exact exists_congr fun rest => Text.literal?_eq_some_iff

/-- Whether a text starts with the name of a header in a directory and its ending. -/
def startsWithHeaderName (cs : List Char) : Bool :=
  !(cs.takeWhile isHeaderChar).isEmpty && (literal? ".h" (cs.dropWhile isHeaderChar)).isSome

/-- The name is read as far as its characters go. -/
theorem startsWithHeaderName_iff :
    startsWithHeaderName cs = true ↔
      ∃ name rest, cs = name ++ (".h".toList ++ rest) ∧ name ≠ [] ∧ ∀ c ∈ name, isHeaderChar c = true := by
  rw [startsWithHeaderName, Bool.and_eq_true, literal?_isSome_iff, Bool.not_eq_true', List.isEmpty_eq_false_iff]
  constructor
  · rintro ⟨hne, rest, hrest⟩
    refine ⟨cs.takeWhile isHeaderChar, rest, ?_, hne, fun c hc => List.mem_takeWhile_imp hc⟩
    rw [← hrest, List.takeWhile_append_dropWhile]
  · rintro ⟨name, rest, rfl, hne, hname⟩
    have hpoint : NoneAfter isHeaderChar (".h".toList ++ rest) :=
      Text.noneAfter_cons.mpr (by decide)
    obtain ⟨htake, hdrop⟩ := Text.takeWhile_append_of_head hname hpoint
    rw [htake, hdrop]
    exact ⟨hne, rest, rfl⟩

theorem namesHeader_eq (cs : List Char) :
    namesHeader cs =
      ((markerDirectories.any fun directory => (literal? (directory ++ "/") cs).any startsWithHeaderName) ||
        markerHeaders.any fun name => (literal? (name ++ ".h") cs).isSome) := by
  rw [namesHeader]
  congr 2
  funext directory
  cases literal? (directory ++ "/") cs <;> rfl

theorem namesHeader_iff :
    namesHeader cs = true ↔ ∃ header rest, cs = header ++ (".h".toList ++ rest) ∧ IsMarkerHeader header := by
  rw [namesHeader_eq, Bool.or_eq_true, List.any_eq_true, List.any_eq_true]
  constructor
  · rintro (⟨directory, hdirectory, h⟩ | ⟨name, hname, h⟩)
    · obtain ⟨behind, hread, hnamed⟩ := (Option.any_eq_true _ _).mp h
      obtain ⟨name, rest, rfl, hne, hchars⟩ := startsWithHeaderName_iff.mp hnamed
      refine ⟨directory.toList ++ '/' :: name, rest, ?_, .inl ⟨directory, hdirectory, name, hne, hchars, rfl⟩⟩
      rw [Text.literal?_eq_some_iff.mp hread, String.toList_append, List.append_assoc, List.append_assoc]
      rfl
    · obtain ⟨rest, rfl⟩ := literal?_isSome_iff.mp h
      exact ⟨name.toList, rest, by rw [String.toList_append, List.append_assoc], .inr ⟨name, hname, rfl⟩⟩
  · rintro ⟨_, rest, rfl, ⟨directory, hdirectory, name, hne, hchars, rfl⟩ | ⟨name, hname, rfl⟩⟩
    · refine .inl ⟨directory, hdirectory, (Option.any_eq_true _ _).mpr ⟨name ++ (".h".toList ++ rest), ?_, ?_⟩⟩
      · rw [Text.literal?_eq_some_iff, String.toList_append, List.append_assoc, List.append_assoc]
        rfl
      · exact startsWithHeaderName_iff.mpr ⟨name, rest, rfl, hne, hchars⟩
    · refine .inr ⟨name, hname, literal?_isSome_iff.mpr ⟨rest, ?_⟩⟩
      rw [String.toList_append, List.append_assoc]

/-- What follows the hash sign and the blanks behind it. -/
theorem includesHeader_iff_read :
    includesHeader cs = true ↔
      ∃ rest mark name, cs = '#' :: rest ∧
        (literal? "include" (dropBlanks rest)).map dropBlanks = some (mark :: name) ∧
        (mark = '<' ∨ mark = '"') ∧ namesHeader name = true := by
  unfold includesHeader
  split
  next rest =>
    split
    next mark name hread =>
      rw [Bool.and_eq_true, Bool.or_eq_true, decide_eq_true_iff, decide_eq_true_iff]
      constructor
      · rintro ⟨hmark, hname⟩
        exact ⟨rest, mark, name, rfl, hread, hmark, hname⟩
      · rintro ⟨_, mark', name', heq, hread', hmark, hname⟩
        obtain rfl := (List.cons.inj heq).2
        rw [hread, Option.some.injEq, List.cons.injEq] at hread'
        obtain ⟨rfl, rfl⟩ := hread'
        exact ⟨hmark, hname⟩
    next hread =>
      refine iff_of_false Bool.false_ne_true ?_
      rintro ⟨_, mark, name, heq, hread', -⟩
      obtain rfl := (List.cons.inj heq).2
      exact hread mark name hread'
  next hhash =>
    refine iff_of_false Bool.false_ne_true ?_
    rintro ⟨rest, _, _, heq, -⟩
    exact hhash rest heq

/-- An include is read at the start of a text exactly if one stands there: no blank is part of the word
or of the mark that follows it, so blanks are read as far as they go. -/
theorem includesHeader_iff :
    includesHeader cs = true ↔ ∃ directive, directive <+: cs ∧ IsMarkerInclude directive := by
  constructor
  · intro h
    obtain ⟨behind, mark, name, rfl, hread, hmark, hname⟩ := includesHeader_iff_read.mp h
    obtain ⟨word, hword, hblanks⟩ := Option.map_eq_some_iff.mp hread
    obtain ⟨gap, rfl, hall, -⟩ := Text.dropBlanks_eq_iff.mp (Text.literal?_eq_some_iff.mp hword)
    obtain ⟨gap', rfl, hall', -⟩ := Text.dropBlanks_eq_iff.mp hblanks
    obtain ⟨header, rest, rfl, hheader⟩ := namesHeader_iff.mp hname
    exact ⟨_, ⟨rest, by simp⟩, gap, gap', mark, header, hall, hall', hmark, hheader, rfl⟩
  · rintro ⟨_, ⟨rest, rfl⟩, gap, gap', mark, header, hall, hall', hmark, hheader, rfl⟩
    rw [List.cons_append, includesHeader_iff_read]
    -- Neither the word nor the mark begins with a blank, so all blanks are skipped.
    have hword : NoneAfter isBlank ("include".toList ++ (gap' ++ mark :: (header ++ ".h".toList)) ++ rest) :=
      Text.noneAfter_cons.mpr (by decide)
    have hblank : NoneAfter isBlank (mark :: (header ++ ".h".toList) ++ rest) := by
      rw [List.cons_append, Text.noneAfter_cons]
      rcases hmark with rfl | rfl <;> decide
    have hskip : dropBlanks (gap ++ ("include".toList ++ (gap' ++ mark :: (header ++ ".h".toList))) ++ rest) =
        "include".toList ++ (gap' ++ mark :: (header ++ ".h".toList)) ++ rest :=
      Text.dropBlanks_eq_iff.mpr ⟨gap, by rw [List.append_assoc], hall, hword⟩
    have hskip' : dropBlanks (gap' ++ mark :: (header ++ ".h".toList) ++ rest) =
        mark :: (header ++ ".h".toList) ++ rest :=
      Text.dropBlanks_eq_iff.mpr ⟨gap', by rw [List.append_assoc], hall', hblank⟩
    refine ⟨_, mark, header ++ ".h".toList ++ rest, rfl, ?_, hmark, ?_⟩
    · rw [hskip, Text.literal?_eq_some_iff.mpr (List.append_assoc _ _ _), Option.map_some, hskip']
      rfl
    · exact namesHeader_iff.mpr ⟨header, rest, by rw [List.append_assoc], hheader⟩

theorem hasMarkerInclude_iff :
    hasMarkerInclude cs = true ↔ ∃ directive, directive <:+: cs ∧ IsMarkerInclude directive := by
  induction cs with
  | nil =>
    refine iff_of_false Bool.false_ne_true ?_
    rintro ⟨directive, hnil, gap, gap', mark, header, -, -, -, -, rfl⟩
    exact List.cons_ne_nil _ _ (List.infix_nil.mp hnil)
  | cons c rest ih =>
    rw [hasMarkerInclude, Bool.or_eq_true, includesHeader_iff, ih]
    simp only [List.infix_cons_iff, or_and_right, exists_or]

/-! ### What looks like Basilisk C -/

/-- A text looks like Basilisk C: one of its words is a word of the language, or an include of a header
of the solver library stands in it. -/
def LooksBasilisk (cs : List Char) : Prop :=
  (∃ start word, IsWordOf cs start word ∧ String.ofList word ∈ markerWords) ∨
  ∃ directive, directive <:+: cs ∧ IsMarkerInclude directive

theorem hasMarkerWord_iff :
    hasMarkerWord cs = true ↔ ∃ start word, IsWordOf cs start word ∧ String.ofList word ∈ markerWords := by
  rw [hasMarkerWord, List.any_eq_true]
  constructor
  · rintro ⟨run, hrun, hmarker⟩
    obtain ⟨before, heq, -, hlongest⟩ := (mem_wordRuns_iff 0 cs).mp hrun
    exact ⟨before.length, run.word, ⟨before, run.rest, heq, rfl, hlongest⟩, List.contains_iff_mem.mp hmarker⟩
  · rintro ⟨start, word, ⟨before, after, heq, -, hlongest⟩, hmarker⟩
    have hrun : ⟨0 + before.length, word, after⟩ ∈ wordRuns 0 cs :=
      (mem_wordRuns_iff 0 cs).mpr ⟨before, heq, rfl, hlongest⟩
    exact ⟨_, hrun, List.contains_iff_mem.mpr hmarker⟩

theorem looksBasilisk_iff : looksBasilisk cs = true ↔ LooksBasilisk cs := by
  rw [looksBasilisk, Bool.or_eq_true, hasMarkerWord_iff, hasMarkerInclude_iff, LooksBasilisk]

instance (cs : List Char) : Decidable (LooksBasilisk cs) :=
  decidable_of_iff _ looksBasilisk_iff

/-- What looks like Basilisk C does so in a longer text, where no word of it goes on. -/
theorem LooksBasilisk.append (h : LooksBasilisk line) (hbefore : NoneBefore isWord before)
    (hafter : NoneAfter isWord after) : LooksBasilisk (before ++ line ++ after) := by
  rcases h with ⟨start, word, ⟨front, back, rfl, -, hrun⟩, hmarker⟩ | ⟨directive, hinfix, hmarker⟩
  · refine .inl ⟨_, word, ⟨before ++ front, back ++ after, by simp, rfl, ?_⟩, hmarker⟩
    exact ⟨hrun.ne_nil, hrun.inside, .append (fun _ => hbefore) hrun.left, .append hrun.right fun _ => hafter⟩
  · exact .inr ⟨directive, hinfix.trans (List.infix_append before line after), hmarker⟩

/-- A text of which a line looks like Basilisk C looks like it too. -/
theorem LooksBasilisk.of_line {text : String} (h : LooksBasilisk line) (hline : line ∈ Text.lines text) :
    LooksBasilisk text.toList := by
  have hfeed : isWord '\n' = false := by decide
  obtain ⟨before, after, heq, hbefore, hafter⟩ := Text.exists_eq_append_of_mem_splitBy hfeed hline
  rw [heq]
  exact h.append hbefore hafter

theorem not_looksBasilisk_nil : ¬LooksBasilisk [] := by
  rw [← looksBasilisk_iff]
  cbv
  exact Bool.false_ne_true

/-! ### What is worded like noise -/

/-- A text is a lower-case wording, case aside. -/
def IsSpelling (wording run : List Char) : Prop :=
  List.Forall₂ (fun letter c => Text.sameLetter letter c = true) wording run

theorem startsWithWording_iff :
    startsWithWording wording cs = true ↔ ∃ run, run <+: cs ∧ IsSpelling wording run := by
  induction wording generalizing cs with
  | nil => exact iff_of_true rfl ⟨[], List.nil_prefix, .nil⟩
  | cons letter wording ih =>
    cases cs with
    | nil =>
      refine iff_of_false Bool.false_ne_true ?_
      rintro ⟨run, hprefix, hspelling⟩
      obtain rfl := List.prefix_nil.mp hprefix
      cases hspelling
    | cons c rest =>
      rw [startsWithWording, Bool.and_eq_true, ih]
      constructor
      · rintro ⟨hletter, run, hprefix, hspelling⟩
        exact ⟨c :: run, List.cons_prefix_cons.mpr ⟨rfl, hprefix⟩, .cons hletter hspelling⟩
      · rintro ⟨run, hprefix, hspelling⟩
        cases hspelling with
        | cons hletter hspelling =>
          obtain ⟨rfl, hrest⟩ := List.cons_prefix_cons.mp hprefix
          exact ⟨hletter, _, hrest, hspelling⟩

theorem holdsWording_iff :
    holdsWording wording cs = true ↔ ∃ run, run <:+: cs ∧ IsSpelling wording run := by
  induction cs with
  | nil =>
    rw [holdsWording, List.isEmpty_iff]
    simp only [List.infix_nil, exists_eq_left, IsSpelling, List.forall₂_nil_right_iff]
  | cons c rest ih =>
    rw [holdsWording, Bool.or_eq_true, startsWithWording_iff, ih]
    simp only [List.infix_cons_iff, or_and_right, exists_or]

/-- A message holds one of the wordings of noise, case aside. -/
def IsWordedAsNoise (message : String) : Prop :=
  ∃ wording ∈ noiseWordings, ∃ run, run <:+: message.toList ∧ IsSpelling wording.toList run

theorem isNoise_iff {message : String} : isNoise message = true ↔ IsWordedAsNoise message := by
  rw [isNoise, List.any_eq_true]
  exact exists_congr fun wording => and_congr_right fun _ => holdsWording_iff

instance (message : String) : Decidable (IsWordedAsNoise message) :=
  decidable_of_iff _ isNoise_iff

/-! ### Dropping noise -/

/-- A line of a text; a line that the text does not have is empty. -/
def lineAt (text : String) (number : Nat) : Line :=
  (Text.lines text)[number]?.getD []

theorem lineAt_cases (text : String) (number : Nat) :
    lineAt text number ∈ Text.lines text ∨ lineAt text number = [] := by
  rw [lineAt]
  cases hline : (Text.lines text)[number]? with
  | none => exact .inr rfl
  | some line => exact .inl (List.mem_of_getElem? hline)

/-- **Noise is told line by line.** For every text and all diagnostics, those are kept, in their order,
whose first line does not look like Basilisk C or whose message is not worded like noise. The whole text
is of no account. -/
theorem dropNoise_eq_filter_lines (diagnostics : List Diagnostic) (text : String) :
    dropNoise diagnostics text = diagnostics.filter fun diagnostic =>
      ¬(LooksBasilisk (lineAt text diagnostic.range.start.line) ∧ IsWordedAsNoise diagnostic.message) := by
  rw [dropNoise]
  split
  next =>
    refine List.filter_congr fun diagnostic _ => ?_
    rw [Bool.eq_iff_iff, decide_eq_true_iff, ← looksBasilisk_iff, ← isNoise_iff, ← Bool.and_eq_true,
      Bool.not_eq_true', Bool.not_eq_true]
    rfl
  next hplain =>
    -- no line looks like Basilisk C, or the text would, so that the filter keeps everything
    rw [eq_comm, List.filter_eq_self]
    intro diagnostic _
    rw [decide_eq_true_iff]
    rintro ⟨hline, -⟩
    rcases lineAt_cases text diagnostic.range.start.line with hmem | hnil
    · exact hplain (looksBasilisk_iff.mpr (hline.of_line hmem))
    · exact not_looksBasilisk_nil (hnil ▸ hline)

/-- A text may look like Basilisk C although none of its lines does; then everything is kept all the same. -/
example : looksBasilisk "#\ninclude <vof.h>".toList = true ∧
    ((Text.lines "#\ninclude <vof.h>").any looksBasilisk) = false := by
  decide +kernel

end BasiliskServer.Source
