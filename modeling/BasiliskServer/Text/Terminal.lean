import BasiliskServer.Text.CharClass

/-!
# Codes for terminals

Programs colour what they write with codes for terminals. Such a code starts with the escape
character and a bracket, goes on with parameters and ends with a letter. Where the output is not a
terminal, the codes are left out.
-/

namespace BasiliskServer.Text

/-- Characters of the parameters of a code. -/
def isCodeParameter (c : Char) : Bool :=
  c = ';' || c = '?' || isAsciiDigit c

/-- What follows the code at the front of a text, after its escape character. -/
def afterCode? : List Char → Option (List Char)
  | '[' :: rest =>
    match rest.dropWhile isCodeParameter with
    | c :: after => if isAsciiLetter c then some after else none
    | [] => none
  | _ => none

/-- A code is not empty. -/
theorem length_of_afterCode? {cs after : List Char} (h : afterCode? cs = some after) :
    after.length < cs.length := by
  unfold afterCode? at h
  split at h
  · next rest =>
    have bound := (List.dropWhile_suffix (p := isCodeParameter) (l := rest)).length_le
    split at h
    · next found =>
      split at h
      · cases h
        rw [found] at bound
        simp only [List.length_cons] at bound ⊢
        omega
      · cases h
    · cases h
  · cases h

/-- A text without codes for terminals. -/
def withoutCodes (cs : List Char) : List Char :=
  match cs with
  | [] => []
  | c :: rest =>
    if c = Char.ofNat 27 then
      match h : afterCode? rest with
      | some after =>
        have := length_of_afterCode? h
        withoutCodes after
      | none => c :: withoutCodes rest
    else c :: withoutCodes rest
termination_by cs.length
decreasing_by all_goals (simp only [List.length_cons]; omega)

end BasiliskServer.Text
