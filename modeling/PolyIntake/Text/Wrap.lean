/-
This file fits text into a width. A text keeps its own line breaks, and a line
that is too long is broken in front of a word. The blanks behind a word stay
with it, and those that stick out are dropped. A word that fits on no line is
either folded over several lines or left to be cut, with an ellipsis to show
for it.
-/

import PolyIntake.Text.Cells

namespace PolyIntake

namespace Text

/-! ### Blanks and words -/

/-- A blank of any kind. -/
def isBlank (char : Char) : Bool :=
  inRanges #[(0x09, 0x0D), (0x1C, 0x20), (0x85, 0x85), (0xA0, 0xA0), (0x1680, 0x1680),
    (0x2000, 0x200A), (0x2028, 0x2029), (0x202F, 0x202F), (0x205F, 0x205F), (0x3000, 0x3000)]
    char.toNat

/-- A character that ends a line, by any convention. -/
def endsLine (char : Char) : Bool :=
  inRanges #[(0x0A, 0x0D), (0x1C, 0x1E), (0x85, 0x85), (0x2028, 0x2029)] char.toNat

/-- The pieces of a text between separators. -/
def pieces (separates : Char → Bool) : List Char → List (List Char)
  | [] => [[]]
  | char :: rest =>
    if separates char then [] :: pieces separates rest
    else
      match pieces separates rest with
      | [] => [[char]]
      | piece :: more => (char :: piece) :: more

/-- A text cut in front of every word that has a blank in front of it. -/
def cutAtWords : List Char → List (List Char)
  | [] => []
  | [char] => [[char]]
  | char :: next :: rest =>
    match cutAtWords (next :: rest) with
    | [] => [[char]]
    | word :: more =>
      if isBlank char && !isBlank next then [char] :: word :: more else (char :: word) :: more

/-- The words of a text, each with the blanks behind it. Blanks in front of the first word
belong to it as well. -/
def words (text : List Char) : List (List Char) :=
  match cutAtWords text with
  | first :: second :: rest =>
    if first.all isBlank then (first ++ second) :: rest else first :: second :: rest
  | few => few

/-- A text without the blanks at its end. -/
def withoutTail (text : List Char) : List Char :=
  (text.reverse.dropWhile isBlank).reverse

/-- A text without as many of the blanks at its end as it has characters too many. -/
def withoutExcess (width : Nat) (text : List Char) : List Char :=
  let blanks := text.length - (withoutTail text).length
  text.take (text.length - min blanks (text.length - width))

/-- Every tabulator replaced by blanks up to the next multiple of eight cells, given the cells
in front. -/
def expandTabs (used : Nat) : List Char → List Char
  | [] => []
  | char :: rest =>
    if char = '\t' then
      let blanks := 8 - used % 8
      List.replicate blanks ' ' ++ expandTabs (used + blanks) rest
    else char :: expandTabs (used + cellsOf char) rest

/-! ### Breaking lines -/

/-- Lines that are under way: the finished ones, the latest first, and the one that takes the
next word, with the cells that it has used. -/
structure Breaking where
  finished : List (List Char)
  current : List Char
  used : Nat

namespace Breaking

/-- The finished lines once the line under way is closed. An empty one does not count. -/
def closed (state : Breaking) : List (List Char) :=
  if state.current.isEmpty then state.finished else state.current :: state.finished

/-- One more word. -/
def step (folds : Bool) (width : Nat) (state : Breaking) (word : List Char) : Breaking :=
  let bare := cells (withoutTail word)
  if state.used + bare ≤ width then
    ⟨state.finished, state.current ++ word, state.used + cells word⟩
  else if width < bare && folds then
    match (chop width word).reverse with
    | [] => ⟨state.closed, word, 0⟩
    | last :: before => ⟨before ++ state.closed, last, cells last⟩
  else ⟨state.closed, word, cells word⟩

end Breaking

/-- A line broken into lines of a width. -/
def breakLine (folds : Bool) (width : Nat) (line : List Char) : List (List Char) :=
  let state := (words line).foldl (Breaking.step folds width) ⟨[], [], 0⟩
  (state.current :: state.finished).reverse

/-! ### Wrapped text -/

/-- Where a line stands in its width. A loose line is not filled up. -/
inductive Placement where
  | loose
  | left
  | right
  deriving DecidableEq

/-- A line cut to a width, with an ellipsis for what is lost. -/
def ellipsize (width : Nat) (line : List Char) : List Char :=
  if width < cells line then crop (width - 1) line ++ ['…'] else line

/-- A line in its width. -/
def place (placement : Placement) (folds : Bool) (width : Nat) (line : List Char) : List Char :=
  let cut (line : List Char) : List Char :=
    if folds then (if width < cells line then crop width line else line)
    else ellipsize width line
  match placement with
  | .loose => cut line
  | .left => fillRight width (cut line)
  | .right => fillLeft width (cut (withoutTail line))

/-- The lines of a text that is wrapped in a width. -/
def wrap (placement : Placement) (folds : Bool) (width : Nat) (text : List Char) :
    List (List Char) :=
  (pieces (· = '\n') text).flatMap fun line =>
    (breakLine folds width (expandTabs 0 line)).map fun part =>
      place placement folds width (withoutExcess width part)

end Text

end PolyIntake
