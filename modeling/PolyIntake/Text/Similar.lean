/-
This file tells how similar two words are. The longest run of characters that
both have is matched first, then what is left of it on either side and what is
right of it, and so on. Words are similar when at least three fifths of their
characters are matched.
-/

import PolyIntake.Value

namespace PolyIntake

namespace Text

/-! ### Common runs -/

/-- The length of the run that two words begin with alike. -/
def commonFront : List Char → List Char → Nat
  | char :: rest, char' :: rest' => if char = char' then commonFront rest rest' + 1 else 0
  | _, _ => 0

/-- A run of characters that two words have in common: where it begins in either, and its
length. -/
structure Run where
  first : Nat
  second : Nat
  length : Nat

/-- The longer of two runs; of two of one length the earlier one. -/
def Run.longer (run other : Run) : Run :=
  if run.length < other.length then other else run

/-- The longest common run of two words, and the first of these. -/
def longestRun (word other : List Char) : Run :=
  let runs := (List.range word.length).flatMap fun first =>
    (List.range other.length).map fun second =>
      (⟨first, second, commonFront (word.drop first) (other.drop second)⟩ : Run)
  runs.foldl Run.longer ⟨0, 0, 0⟩

/-- The characters that two words have in common, run by run. Every run takes a character away,
so that the length of a word is steps enough. -/
def matched : (steps : Nat) → (word other : List Char) → Nat
  | 0, _, _ => 0
  | steps + 1, word, other =>
    let run := longestRun word other
    if run.length = 0 then 0
    else
      run.length + matched steps (word.take run.first) (other.take run.second) +
        matched steps (word.drop (run.first + run.length)) (other.drop (run.second + run.length))

/-! ### Similar words -/

/-- A word with the characters that it has in common with another one, and the length of both
words together. -/
structure Likeness where
  word : String
  common : Nat
  total : Nat

/-- The likeness of a word to another one. -/
def likeness (other word : String) : Likeness :=
  ⟨word, matched (word.length + 1) word.toList other.toList, word.length + other.length⟩

/-- The words are similar. -/
def Likeness.isClose (likeness : Likeness) : Bool :=
  3 * likeness.total ≤ 10 * likeness.common

/-- A likeness goes before another one: it is greater, or as great and for a later word. -/
def Likeness.goesBefore (likeness other : Likeness) : Bool :=
  let left := likeness.common * other.total
  let right := other.common * likeness.total
  right < left || (left == right && other.word ≤ likeness.word)

/-- At most three words that are similar to another one, the most similar ones. -/
def similar (other : String) (words : List String) : List String :=
  let close := (words.map (likeness other)).filter Likeness.isClose
  ((close.mergeSort Likeness.goesBefore).take 3).map Likeness.word

end Text

end PolyIntake
