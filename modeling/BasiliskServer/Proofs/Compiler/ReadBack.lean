import BasiliskServer.Compiler.Message
import BasiliskServer.Proofs.Json.Scalar
import BasiliskServer.Tool.Report

/-!
# Problems of the compiler are read back

The compiler prints a problem with colons between its parts, and each of the parts may hold colons itself.
The file ends at the first colon after which the rest of the line has the required shape, so that a
colon inside the name of the file is passed over as long as no digit follows it (`atColons_append`), and
colons of the message come too late to be tried. Hence a printed line is read back as it was printed,
whatever its message looks like (`parseLine?_printed`, `parseLine?_printedWithoutColumn`).

Lines are read one by one (`reports_joinWith`), and a diagnostic shows the line and the column that
were read (`formatDiagnostic_toDiagnostic`). Numbers with too many digits are refused when they are
converted and not before: `readOutput` is what is read if digits of any number convert.
-/

namespace BasiliskServer.Compiler

open Text (NoneAfter IsOneLine isOneLine_append isOneLine_cons isBlank isDigit isLineBreak digitsValue)
open Wire (Position)

variable {cs front rest digits passed : List Char} {file text : String}

/-! ### Numbers that convert -/

/-- A problem with the numbers that its digits spell, however many they are. -/
def Reported.numbered (reported : Reported) : Message :=
  { file := reported.file, line := digitsValue reported.line, column := digitsValue reported.column
    grade := reported.grade, text := reported.text }

/-- No number of the problem has too many digits. -/
def Reported.Converts (reported : Reported) : Prop :=
  Text.hasTooManyDigits reported.line = false ∧ Text.hasTooManyDigits reported.column = false

/-- The problems on the lines of an output, their numbers not yet converted. -/
def reports (output : String) : List Reported :=
  (Text.breakLines output.toList).filterMap parseLine?

/-- The problems reported in an output if digits of any number convert. -/
def readOutput (output : String) : List Message :=
  (reports output).map Reported.numbered

theorem toMessage_of_converts {reported : Reported} (h : reported.Converts) :
    reported.toMessage = .ok reported.numbered := by
  obtain ⟨hline, hcolumn⟩ := h
  simp only [Reported.toMessage, spelledNumber, hline, hcolumn]
  rfl

theorem parseOutput_eq_mapM (output : String) :
    parseOutput output = (reports output).mapM Reported.toMessage :=
  rfl

/-- An output is read as if all numbers converted, unless one of them does not. -/
theorem parseOutput_of_converts {output : String} (h : ∀ reported ∈ reports output, reported.Converts) :
    parseOutput output = .ok (readOutput output) := by
  rw [parseOutput_eq_mapM, readOutput]
  generalize reports output = read at h ⊢
  induction read with
  | nil => rfl
  | cons reported more ih =>
    obtain ⟨hreported, hmore⟩ := List.forall_mem_cons.mp h
    rw [List.mapM_cons, toMessage_of_converts hreported, ih hmore]
    rfl

/-- An output with one problem is read as this problem. -/
theorem readOutput_of_reports {output : String} {reported : Reported} (h : reports output = [reported]) :
    readOutput output = [reported.numbered] ∧
      (reported.Converts → parseOutput output = .ok [reported.numbered]) := by
  have hread : readOutput output = [reported.numbered] := by rw [readOutput, h, List.map_singleton]
  refine ⟨hread, fun hconverts => ?_⟩
  rw [← hread]
  refine parseOutput_of_converts ?_
  rwa [h, List.forall_mem_singleton]

/-! ### Line by line -/

theorem parseLine?_nil : parseLine? [] = none :=
  rfl

/-- The only problem of an output is that of its only line. -/
theorem reports_eq_singleton {line : String} {reported : Reported} (h : IsOneLine line.toList)
    (hread : parseLine? line.toList = some reported) : reports line = [reported] := by
  have hne : line.toList ≠ [] := fun hnil => by
    rw [hnil, parseLine?_nil] at hread
    cases hread
  rw [reports, Text.breakLines_of_isOneLine h hne]
  simp [hread]

theorem reports_joinWith {lines : List String} (h : ∀ line ∈ lines, IsOneLine line.toList) :
    reports (Text.joinWith "\n" lines) = lines.flatMap reports := by
  have hone : ∀ line ∈ lines, reports line = (parseLine? line.toList).toList := by
    intro line hline
    rw [reports]
    by_cases hne : line.toList = []
    · rw [hne]
      rfl
    · rw [Text.breakLines_of_isOneLine (h line hline) hne]
      cases hread : parseLine? line.toList <;> simp [hread]
  rw [reports, Text.joinWith, String.toList_intercalate]
  change (Text.breakLines (List.intercalate ['\n'] _)).filterMap parseLine? = _
  rw [Text.filterMap_breakLines_intercalate parseLine?_nil (by simpa using h), List.filterMap_map,
    List.filterMap_eq_flatMap_toList]
  exact List.flatMap_congr fun line hline => (hone line hline).symm

/-- Going through the pieces of a list and putting the results together is going through the list. -/
theorem mapM_flatMap {ε α β γ : Type} (f : β → Except ε γ) (pieces : α → List β) (list : List α) :
    (list.flatMap pieces).mapM f = (list.mapM fun a => (pieces a).mapM f).map List.flatten := by
  induction list with
  | nil => rfl
  | cons a list ih =>
    rw [List.flatMap_cons, List.mapM_append, List.mapM_cons, ih]
    cases (pieces a).mapM f with
    | error e => rfl
    | ok first => cases list.mapM fun a => (pieces a).mapM f <;> rfl

/-! ### What the compiler prints -/

/-- A problem as the compiler prints it. -/
def printed (file : String) (line column : Nat) (grade : Grade) (text : String) : String :=
  file ++ ":" ++ toString line ++ ":" ++ toString column ++ ": " ++ grade.name ++ ": " ++ text

/-- A problem as the compiler prints it if it knows no column. -/
def printedWithoutColumn (file : String) (line : Nat) (grade : Grade) (text : String) : String :=
  file ++ ":" ++ toString line ++ ": " ++ grade.name ++ ": " ++ text

/-- No colon of the text is followed by a digit. -/
def HoldsNoPlace (cs : List Char) : Prop :=
  ∀ before c after, cs = before ++ ':' :: c :: after → isDigit c = false

/-- The name of a file on one line that holds nothing like a place. -/
structure IsFileName (file : String) : Prop where
  /-- It is not empty. -/
  ne_empty : file ≠ ""
  /-- It holds no line break. -/
  oneLine : IsOneLine file.toList
  /-- None of its colons is followed by a digit. -/
  noPlace : HoldsNoPlace file.toList

/-- A message on one line. -/
structure IsMessage (text : String) : Prop where
  /-- It is not empty. -/
  ne_empty : text ≠ ""
  /-- It holds no line break. -/
  oneLine : IsOneLine text.toList
  /-- It does not start with a blank. -/
  noBlank : NoneAfter isBlank text.toList

theorem holdsNoPlace_nil : HoldsNoPlace [] := by
  simp [HoldsNoPlace]

theorem holdsNoPlace_cons {c : Char} :
    HoldsNoPlace (c :: rest) ↔ (c = ':' → NoneAfter isDigit rest) ∧ HoldsNoPlace rest := by
  constructor
  · intro h
    refine ⟨?_, fun before d after heq => h (c :: before) d after (by rw [heq]; rfl)⟩
    rintro rfl
    cases rest with
    | nil => exact Text.noneAfter_nil
    | cons d rest => exact Text.noneAfter_cons.mpr (h [] d rest rfl)
  · rintro ⟨hhere, hlater⟩ before d after heq
    cases before with
    | nil =>
      obtain ⟨rfl, rfl⟩ := List.cons.inj heq
      exact Text.noneAfter_cons.mp (hhere rfl)
    | cons b before => exact hlater before d after (List.cons.inj heq).2

instance decidableHoldsNoPlace : (cs : List Char) → Decidable (HoldsNoPlace cs)
  | [] => .isTrue holdsNoPlace_nil
  | _ :: rest =>
    have := decidableHoldsNoPlace rest
    decidable_of_iff' _ holdsNoPlace_cons

/-- A text without colons holds nothing like a place. -/
theorem holdsNoPlace_of_notMem (h : ':' ∉ cs) : HoldsNoPlace cs := by
  rintro before c after rfl
  exact absurd (List.mem_append_right before List.mem_cons_self) h

/-- A colon and a blank do not make a place. -/
theorem HoldsNoPlace.append (hrest : HoldsNoPlace rest) (hfront : ':' ∉ front) :
    HoldsNoPlace (front ++ ':' :: ' ' :: rest) := by
  induction front with
  | nil =>
    have hblank : HoldsNoPlace (' ' :: rest) := holdsNoPlace_cons.mpr ⟨by simp, hrest⟩
    exact holdsNoPlace_cons.mpr ⟨fun _ => Text.noneAfter_cons.mpr rfl, hblank⟩
  | cons c front ih =>
    obtain ⟨hc, hfront⟩ := not_or.mp (mt List.mem_cons.mpr hfront)
    exact holdsNoPlace_cons.mpr ⟨fun heq => absurd heq.symm hc, ih hfront⟩

/-! ### Reading the parts -/

theorem number?_of_noneAfter (h : NoneAfter isDigit cs) : number? cs = none := by
  have hnone : cs.takeWhile isDigit = [] := by
    cases cs with
    | nil => rfl
    | cons c cs => simp [Text.noneAfter_cons.mp h]
  rw [number?, hnone]

/-- A number is read up to the colon after it. -/
theorem number?_append (hne : digits ≠ []) (hdigits : ∀ c ∈ digits, isDigit c = true) :
    number? (digits ++ ':' :: rest) = some (digits, rest) := by
  have hcolon : ∀ c ∈ (':' :: rest).head?, isDigit c = false := by
    rintro c ⟨⟩
    rfl
  obtain ⟨htake, hdrop⟩ := Text.takeWhile_append_of_head hdigits hcolon
  obtain ⟨d, digits, rfl⟩ := List.exists_cons_of_ne_nil hne
  rw [number?, htake, hdrop]
  rfl

theorem grade?_append (grade : Grade) (rest : List Char) :
    grade? (' ' :: (grade.name.toList ++ ':' :: rest)) = some (grade, rest) := by
  cases grade <;> rfl

theorem text?_of_noneAfter (hne : cs ≠ []) (h : NoneAfter isBlank cs) :
    text? (' ' :: cs) = some (String.ofList cs) := by
  have hdropped : Text.dropBlanks (' ' :: cs) = cs :=
    Text.dropBlanks_eq_iff.mpr ⟨[' '], rfl, rfl, h⟩
  obtain ⟨c, cs, rfl⟩ := List.exists_cons_of_ne_nil hne
  rw [text?, hdropped]

theorem toNat_of_isDecimal {c : Char} (h : Json.isDecimal c = true) : 48 ≤ c.toNat ∧ c.toNat ≤ 57 := by
  simp only [Json.isDecimal, Bool.and_eq_true, decide_eq_true_eq] at h
  exact h

theorem digitValue?_of_isDecimal {c : Char} (h : Json.isDecimal c = true) :
    Text.digitValue? c = some (c.toNat - 48) := by
  have hascii : Text.isAsciiDigit c = true := h
  obtain ⟨-, hlast⟩ := toNat_of_isDecimal h
  rw [Text.digitValue?, if_pos (by omega), if_pos hascii]

theorem isDigit_of_mem_toDigits {n : Nat} {c : Char} (h : c ∈ Nat.toDigits 10 n) : isDigit c = true := by
  rw [isDigit, digitValue?_of_isDecimal (Json.isDecimal_of_mem_toDigits h)]
  rfl

theorem digitsValue_toDigits (n : Nat) : digitsValue (Nat.toDigits 10 n) = n := by
  refine Eq.trans ?_ (Json.decimalValue_toDigits n)
  refine List.foldl_ext _ _ _ fun value c hc => ?_
  rw [digitValue?_of_isDecimal (Json.isDecimal_of_mem_toDigits hc), Option.getD_some]

/-! ### Where the file ends -/

/-- What is read after the colon of the file starts with a digit. -/
def NeedsNumber (read : String → List Char → Option Reported) : Prop :=
  ∀ file cs, NoneAfter isDigit cs → read file cs = none

theorem needsNumber_gradedPlace? : NeedsNumber gradedPlace? := by
  intro file cs h
  rw [gradedPlace?, number?_of_noneAfter h]
  rfl

theorem needsNumber_gradedLine? : NeedsNumber gradedLine? := by
  intro file cs h
  rw [gradedLine?, number?_of_noneAfter h]
  rfl

variable {read : String → List Char → Option Reported}

/-- Nothing is read from a text that holds nothing like a place. -/
theorem atColons_of_holdsNoPlace (hread : NeedsNumber read) (h : HoldsNoPlace cs) (passed : List Char) :
    atColons read passed cs = none := by
  induction cs generalizing passed with
  | nil => rfl
  | cons c cs ih =>
    obtain ⟨hhere, hlater⟩ := holdsNoPlace_cons.mp h
    -- A colon is tried here and fails, as no digit follows it.
    rw [atColons, ih hlater]
    by_cases hc : c = ':'
    · simp [hread _ cs (hhere hc)]
    · simp [hc]

/-- Colons of the name of a file are passed over; then the colon after it is tried, and only if that fails
the colons behind it. -/
theorem atColons_append (hread : NeedsNumber read) (hfront : HoldsNoPlace front)
    (hne : passed.reverse ++ front ≠ []) :
    atColons read passed (front ++ ':' :: rest) =
      (read (String.ofList (passed.reverse ++ front)) rest).or
        (atColons read (':' :: (front.reverse ++ passed)) rest) := by
  induction front generalizing passed with
  | nil =>
    have hpassed : passed.isEmpty = false := by simpa using hne
    rw [List.nil_append, atColons, hpassed, List.append_nil]
    cases read (String.ofList passed.reverse) rest <;> simp
  | cons c front ih =>
    obtain ⟨hhere, hlater⟩ := holdsNoPlace_cons.mp hfront
    -- What follows a colon inside the name may also be the colon after it, which is no digit either.
    have hskip : c = ':' → read (String.ofList passed.reverse) (front ++ ':' :: rest) = none := by
      intro hc
      refine hread _ _ (.append (hhere hc) fun _ => Text.noneAfter_cons.mpr rfl)
    rw [List.cons_append, atColons, ih hlater (by simp)]
    by_cases hc : c = ':'
    · simp [hskip hc]
    · simp [hc]

/-! ### Printed lines are read back -/

theorem toList_printed (file : String) (line column : Nat) (grade : Grade) (text : String) :
    (printed file line column grade text).toList =
      file.toList ++ ':' :: (Nat.toDigits 10 line ++ ':' :: (Nat.toDigits 10 column ++ ':' ::
        ' ' :: (grade.name.toList ++ ':' :: ' ' :: text.toList))) := by
  simp [printed]

theorem toList_printedWithoutColumn (file : String) (line : Nat) (grade : Grade) (text : String) :
    (printedWithoutColumn file line grade text).toList =
      file.toList ++ ':' :: (Nat.toDigits 10 line ++ ':' :: ' ' ::
        (grade.name.toList ++ ':' :: ' ' :: text.toList)) := by
  simp [printedWithoutColumn]

theorem number?_toDigits (n : Nat) (rest : List Char) :
    number? (Nat.toDigits 10 n ++ ':' :: rest) = some (Nat.toDigits 10 n, rest) :=
  number?_append Nat.toDigits_ne_nil fun _ => isDigit_of_mem_toDigits

theorem IsMessage.text? (h : IsMessage text) : text? (' ' :: text.toList) = some text := by
  rw [text?_of_noneAfter (by simpa using h.ne_empty) h.noBlank, String.ofList_toList]

/-- A printed line is read back, whatever its message looks like. -/
theorem parseLine?_printed (hfile : IsFileName file) (htext : IsMessage text) (line column : Nat)
    (grade : Grade) :
    parseLine? (printed file line column grade text).toList =
      some { file, line := Nat.toDigits 10 line, column := Nat.toDigits 10 column, grade, text } := by
  have hplace : atColons gradedPlace? [] (printed file line column grade text).toList =
      some { file, line := Nat.toDigits 10 line, column := Nat.toDigits 10 column, grade, text } := by
    rw [toList_printed, atColons_append needsNumber_gradedPlace? hfile.noPlace (by simpa using hfile.ne_empty)]
    simp [gradedPlace?, number?_toDigits, grade?_append, htext.text?]
  rw [parseLine?, hplace]

/-- A printed line without a column is read back if its message has no colon. -/
theorem parseLine?_printedWithoutColumn (hfile : IsFileName file) (htext : IsMessage text)
    (hcolon : ':' ∉ text.toList) (line : Nat) (grade : Grade) :
    parseLine? (printedWithoutColumn file line grade text).toList =
      some { file, line := Nat.toDigits 10 line, grade, text } := by
  have hne : [].reverse ++ file.toList ≠ [] := by simpa using hfile.ne_empty
  have hgrade : ':' ∉ grade.name.toList := by cases grade <;> decide
  have hdigits : ':' ∉ Nat.toDigits 10 line := fun hmem => absurd (isDigit_of_mem_toDigits hmem) (by decide)
  -- Behind the file no colon is followed by a digit, so that no column is found.
  have hbehind : HoldsNoPlace (Nat.toDigits 10 line ++ ':' :: ' ' ::
      (grade.name.toList ++ ':' :: ' ' :: text.toList)) :=
    ((holdsNoPlace_of_notMem hcolon).append hgrade).append hdigits
  have hplace : atColons gradedPlace? [] (printedWithoutColumn file line grade text).toList = none := by
    rw [toList_printedWithoutColumn, atColons_append needsNumber_gradedPlace? hfile.noPlace hne,
      atColons_of_holdsNoPlace needsNumber_gradedPlace? hbehind, Option.or_none, gradedPlace?,
      number?_toDigits]
    rfl
  have hline : atColons gradedLine? [] (printedWithoutColumn file line grade text).toList =
      some { file, line := Nat.toDigits 10 line, grade, text } := by
    rw [toList_printedWithoutColumn, atColons_append needsNumber_gradedLine? hfile.noPlace hne]
    simp [gradedLine?, number?_toDigits, grade?_append, htext.text?]
  rw [parseLine?, hplace, hline]

theorem isOneLine_toDigits (n : Nat) : IsOneLine (Nat.toDigits 10 n) := by
  intro c hc
  obtain ⟨hfirst, hlast⟩ := toNat_of_isDecimal (Json.isDecimal_of_mem_toDigits hc)
  simp only [isLineBreak]
  grind

theorem isOneLine_name (grade : Grade) : IsOneLine grade.name.toList := by
  cases grade <;> decide

/-- The parts of a printed line hold no line break, and neither does the line. -/
theorem isOneLine_printed (hfile : IsFileName file) (htext : IsMessage text) (line column : Nat)
    (grade : Grade) : IsOneLine (printed file line column grade text).toList := by
  rw [toList_printed]
  simp only [isOneLine_append, isOneLine_cons]
  exact ⟨hfile.oneLine, rfl, isOneLine_toDigits line, rfl, isOneLine_toDigits column, rfl, rfl,
    isOneLine_name grade, rfl, rfl, htext.oneLine⟩

theorem isOneLine_printedWithoutColumn (hfile : IsFileName file) (htext : IsMessage text) (line : Nat)
    (grade : Grade) : IsOneLine (printedWithoutColumn file line grade text).toList := by
  rw [toList_printedWithoutColumn]
  simp only [isOneLine_append, isOneLine_cons]
  exact ⟨hfile.oneLine, rfl, isOneLine_toDigits line, rfl, rfl, isOneLine_name grade, rfl, rfl,
    htext.oneLine⟩

theorem reports_printed (hfile : IsFileName file) (htext : IsMessage text) (line column : Nat)
    (grade : Grade) :
    reports (printed file line column grade text) =
      [{ file, line := Nat.toDigits 10 line, column := Nat.toDigits 10 column, grade, text }] :=
  reports_eq_singleton (isOneLine_printed hfile htext line column grade)
    (parseLine?_printed hfile htext line column grade)

theorem reports_printedWithoutColumn (hfile : IsFileName file) (htext : IsMessage text)
    (hcolon : ':' ∉ text.toList) (line : Nat) (grade : Grade) :
    reports (printedWithoutColumn file line grade text) =
      [{ file, line := Nat.toDigits 10 line, grade, text }] :=
  reports_eq_singleton (isOneLine_printedWithoutColumn hfile htext line grade)
    (parseLine?_printedWithoutColumn hfile htext hcolon line grade)

theorem hasTooManyDigits_toDigits {n : Nat} (h : (Nat.toDigits 10 n).length ≤ Text.digitLimit) :
    Text.hasTooManyDigits (Nat.toDigits 10 n) = false := by
  have hcount : (Nat.toDigits 10 n).countP isDigit ≤ (Nat.toDigits 10 n).length := List.countP_le_length
  exact decide_eq_false (by omega)

/-! ### Places of diagnostics -/

theorem make_natCast {line character : Nat} (hline : line ≤ Position.limit)
    (hcharacter : character ≤ Position.limit) :
    Position.make line character = .ok ⟨line, character⟩ := by
  rw [Position.make, if_neg (by omega), if_neg (by omega)]
  rfl

/-- The diagnostic for a problem at a place that can be shown is shown at that place. -/
theorem formatDiagnostic_toDiagnostic {message : Message}
    (hline : 1 ≤ message.line ∧ message.line ≤ Position.limit)
    (hcolumn : 1 ≤ message.column ∧ message.column ≤ Position.limit) :
    ∃ d, message.toDiagnostic = .ok d ∧ ∀ file, Tool.formatDiagnostic file d =
      file ++ ":" ++ toString message.line ++ ":" ++ toString message.column ++ ": " ++
        Tool.severityLabel (some message.grade.severity) ++ ": " ++ (reporter ++ ": ") ++ message.text := by
  -- In between places are counted from zero: one is taken off and added again, within the limits both times.
  have hstart : Position.make (message.line - 1 : Nat) (message.column - 1 : Nat) =
      .ok ⟨message.line - 1, message.column - 1⟩ :=
    make_natCast (by omega) (by omega)
  have hstop : Position.make (message.line - 1 : Nat) ((message.column - 1 : Nat) + 1) =
      .ok ⟨message.line - 1, message.column⟩ := by
    have hback : ((message.column - 1 : Nat) : Int) + 1 = message.column := by omega
    rw [hback]
    exact make_natCast (by omega) hcolumn.2
  refine ⟨{
    range := ⟨⟨message.line - 1, message.column - 1⟩, ⟨message.line - 1, message.column⟩⟩
    severity := some message.grade.severity
    source := some reporter
    message := message.text }, ?_, fun file => ?_⟩
  · rw [Message.toDiagnostic]
    simp only [hstart, hstop]
    rfl
  · simp only [Tool.formatDiagnostic, Nat.sub_add_cancel hline.1, Nat.sub_add_cancel hcolumn.1]
    rfl

/-! ### Whole outputs -/

/-- Output is read line by line, and printed problems are read back as they were printed:

* an output is read as if digits of any number converted, unless a number in it does not convert;
* what is read from lines that are joined is what is read from each of them, one after the other;
* a printed problem is read back, whatever places its message seems to hold, and so is one printed without a
  column if its message has no colon; the column is then the first;
* the diagnostic for a problem is shown at the line and the column of the problem. -/
theorem printed_problems_readBack :
    (∀ output, (∀ reported ∈ reports output, reported.Converts) →
      parseOutput output = .ok (readOutput output)) ∧
    (∀ lines : List String, (∀ line ∈ lines, IsOneLine line.toList) →
      readOutput (Text.joinWith "\n" lines) = lines.flatMap readOutput ∧
      parseOutput (Text.joinWith "\n" lines) = (lines.mapM parseOutput).map List.flatten) ∧
    (∀ file text, IsFileName file → IsMessage text → ∀ line column grade,
      readOutput (printed file line column grade text) = [⟨file, line, column, grade, text⟩] ∧
      ((Nat.toDigits 10 line).length ≤ Text.digitLimit →
        (Nat.toDigits 10 column).length ≤ Text.digitLimit →
        parseOutput (printed file line column grade text) = .ok [⟨file, line, column, grade, text⟩])) ∧
    (∀ file text, IsFileName file → IsMessage text → ':' ∉ text.toList → ∀ line grade,
      readOutput (printedWithoutColumn file line grade text) = [⟨file, line, 1, grade, text⟩] ∧
      ((Nat.toDigits 10 line).length ≤ Text.digitLimit →
        parseOutput (printedWithoutColumn file line grade text) = .ok [⟨file, line, 1, grade, text⟩])) ∧
    (∀ message : Message, 1 ≤ message.line → message.line ≤ Position.limit →
      1 ≤ message.column → message.column ≤ Position.limit →
      ∃ d, message.toDiagnostic = .ok d ∧ ∀ file, Tool.formatDiagnostic file d =
        file ++ ":" ++ toString message.line ++ ":" ++ toString message.column ++ ": " ++
          Tool.severityLabel (some message.grade.severity) ++ ": " ++ (reporter ++ ": ") ++ message.text) := by
  refine ⟨fun output => parseOutput_of_converts, fun lines hlines => ⟨?_, ?_⟩,
    fun file text hfile htext line column grade => ?_, fun file text hfile htext hcolon line grade => ?_,
    fun message hfirstLine hlastLine hfirstColumn hlastColumn =>
      formatDiagnostic_toDiagnostic ⟨hfirstLine, hlastLine⟩ ⟨hfirstColumn, hlastColumn⟩⟩
  · rw [readOutput, reports_joinWith hlines, List.map_flatMap]
    rfl
  · rw [parseOutput_eq_mapM, reports_joinWith hlines]
    exact mapM_flatMap Reported.toMessage reports lines
  -- what was printed is reported with its digits; their value is the number unless there are too many
  · have hnumbered : Reported.numbered
        { file, line := Nat.toDigits 10 line, column := Nat.toDigits 10 column, grade, text } =
          ⟨file, line, column, grade, text⟩ := by
      rw [Reported.numbered, digitsValue_toDigits, digitsValue_toDigits]
    obtain ⟨hread, hparse⟩ := readOutput_of_reports (reports_printed hfile htext line column grade)
    rw [hnumbered] at hread hparse
    exact ⟨hread, fun hline hcolumn =>
      hparse ⟨hasTooManyDigits_toDigits hline, hasTooManyDigits_toDigits hcolumn⟩⟩
  · have hnumbered : Reported.numbered { file, line := Nat.toDigits 10 line, grade, text } =
        ⟨file, line, 1, grade, text⟩ := by
      rw [Reported.numbered, digitsValue_toDigits]
      rfl
    obtain ⟨hread, hparse⟩ :=
      readOutput_of_reports (reports_printedWithoutColumn hfile htext hcolon line grade)
    rw [hnumbered] at hread hparse
    exact ⟨hread, fun hline => hparse ⟨hasTooManyDigits_toDigits hline, rfl⟩⟩

/-- A name that holds a colon, a message that looks like the start of another problem and a line too large to be
shown do not confuse the reading; two problems that are joined are both read; and the second is
shown where it was found. -/
theorem printed_problems_readBack_confusing :
    let first := printed "C:\\x:y.c" 4294967297 5 .error "y.c:7:8: error: z:9"
    let second := printedWithoutColumn "a.c" 3 .note "here"
    parseOutput (Text.joinWith "\n" [first, second]) =
        .ok [⟨"C:\\x:y.c", 4294967297, 5, .error, "y.c:7:8: error: z:9"⟩,
          ⟨"a.c", 3, 1, .note, "here"⟩] ∧
      ∃ d, (⟨"a.c", 3, 1, .note, "here"⟩ : Message).toDiagnostic = .ok d ∧
        Tool.formatDiagnostic "a.c" d = "a.c:3:1: info: qcc: here" := by
  intro first second
  obtain ⟨-, hjoined, hplaced, hwithout, hshown⟩ := printed_problems_readBack
  have hlines : ∀ line ∈ [first, second], IsOneLine line.toList := by decide +kernel
  have hfirst := (hplaced "C:\\x:y.c" "y.c:7:8: error: z:9" (by constructor <;> decide +kernel)
    (by constructor <;> decide +kernel) 4294967297 5 .error).2 (by decide +kernel) (by decide +kernel)
  have hsecond := (hwithout "a.c" "here" (by constructor <;> decide +kernel)
    (by constructor <;> decide +kernel) (by decide +kernel) 3 .note).2 (by decide +kernel)
  obtain ⟨d, hd, hshow⟩ :=
    hshown ⟨"a.c", 3, 1, .note, "here"⟩ (by decide) (by decide) (by decide) (by decide)
  refine ⟨?_, d, hd, hshow "a.c"⟩
  rw [(hjoined _ hlines).2, List.mapM_cons, hfirst, List.mapM_cons, hsecond]
  rfl

end BasiliskServer.Compiler
