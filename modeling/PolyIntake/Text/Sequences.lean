/-
This file takes control sequences for terminals out of a text. A sequence is an
escape character and an opening bracket, then parameters, then intermediate
characters, both as many as there are, and one final character. An escape
character that begins no whole sequence stays where it is.
-/

import PolyIntake.Decimal

namespace PolyIntake

namespace Text

/-! ### Parts of a sequence -/

/-- The character that begins a sequence. -/
def escapeMark : Char := '\x1b'

/-- A character of the parameters: a digit or one of a few signs. -/
def isParameter (char : Char) : Bool :=
  '0' ≤ char && char ≤ '?'

/-- An intermediate character: a blank or one of a few signs. -/
def isIntermediate (char : Char) : Bool :=
  ' ' ≤ char && char ≤ '/'

/-- A final character: a letter or one of a few signs. -/
def isFinal (char : Char) : Bool :=
  '@' ≤ char && char ≤ '~'

/-- What follows a sequence, given what follows its escape character. -/
def behindSequence? : List Char → Option (List Char)
  | '[' :: rest =>
    match (rest.dropWhile isParameter).dropWhile isIntermediate with
    | final :: behind => if isFinal final then some behind else none
    | [] => none
  | _ => none

/-- A sequence takes up characters. -/
theorem length_lt_of_behindSequence {text behind : List Char}
    (found : behindSequence? text = some behind) : behind.length < text.length := by
  unfold behindSequence? at found
  split at found
  case h_1 rest =>
    split at found
    case h_1 final more dropped =>
      split at found
      · cases found
        have inner : (rest.dropWhile isParameter).length ≤ rest.length :=
          (List.dropWhile_suffix isParameter).length_le
        have outer := (List.dropWhile_suffix isIntermediate
          (l := rest.dropWhile isParameter)).length_le
        rw [dropped, List.length_cons] at outer
        rw [List.length_cons]
        omega
      · cases found
    · cases found
  · cases found

/-! ### Text without sequences -/

/-- A text without its sequences. -/
def withoutSequences : List Char → List Char
  | [] => []
  | char :: rest =>
    if char = escapeMark then
      match _found : behindSequence? rest with
      | some behind => withoutSequences behind
      | none => char :: withoutSequences rest
    else char :: withoutSequences rest
termination_by text => text.length
decreasing_by
  · have shorter := length_lt_of_behindSequence _found
    rw [List.length_cons]
    omega
  · simp
  · simp

end Text

end PolyIntake
