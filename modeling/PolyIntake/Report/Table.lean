/-
This file draws tables. A table is as wide as its cells ask for, as long as
that fits; otherwise the widest columns give way until it does. A cell may take
several lines, and the cells beside it are filled up. The head is set off by
heavy lines.
-/

import PolyIntake.Text.Wrap

namespace PolyIntake

namespace Report

open Text

/-! ### Tables -/

/-- A column: its title and where its cells stand. -/
structure Column where
  title : List Char
  placement : Placement

/-- The width that a text asks for: that of its longest line, with a blank on either side. -/
def naturalWidth (limit : Nat) (text : List Char) : Nat :=
  min limit (((pieces endsLine text).map cells).foldl max 0 + 2)

/-- The widths that columns ask for: each that of its widest text. -/
def naturalWidths (limit : Nat) (titles : List (List Char)) (rows : List (List (List Char))) :
    List Nat :=
  rows.foldl (fun widths row => List.zipWith max widths (row.map (naturalWidth limit)))
    (titles.map (naturalWidth limit))

/-! ### Columns that give way -/

/-- The quotient that lies nearest; of two the even one. -/
def nearestQuotient (dividend divisor : Nat) : Nat :=
  let quotient := dividend / divisor
  let twice := 2 * (dividend % divisor)
  if twice < divisor then quotient
  else if divisor < twice then quotient + 1
  else quotient + quotient % 2

/-- Takes an excess away from the columns of a width, in equal parts and each no more than the
limit. -/
def reduceEqually (width limit : Nat) (excess sharers : Nat) : List Nat → List Nat
  | [] => []
  | head :: tail =>
    if head = width ∧ sharers ≠ 0 then
      let share := min limit (nearestQuotient excess sharers)
      (head - share) :: reduceEqually width limit (excess - share) (sharers - 1) tail
    else head :: reduceEqually width limit excess sharers tail

/-- The widest columns are reduced to the next width below them, or until the excess is gone.
Every round makes one more column join the widest ones, so that a round for every column is
enough. -/
def collapse (limit : Nat) : Nat → List Nat → List Nat
  | 0, widths => widths
  | rounds + 1, widths =>
    let excess := widths.sum - limit
    if excess = 0 then widths
    else
      let widest := widths.foldl max 0
      let second := (widths.filter (· ≠ widest)).foldl max 0
      let reduced :=
        reduceEqually widest (min excess (widest - second)) excess (widths.count widest) widths
      collapse limit rounds reduced

/-! ### Drawing -/

/-- A horizontal line through a table. -/
def rule (start across cross finish : Char) (widths : List Nat) : List Char :=
  start :: List.intercalate [cross] (widths.map fun width => List.replicate width across) ++
    [finish]

/-- The lines of a cell in its width. -/
def cellLines (placement : Placement) (width : Nat) (text : List Char) : List (List Char) :=
  (wrap placement false (width - 2) text).map fun line => ' ' :: line ++ [' ']

/-- The cells of a row side by side, each with its width. The lines of a cell are used up from
the top, and a cell that has none left is blank. -/
def rowLines (bar : Char) (height : Nat) (cells : List (Nat × List (List Char))) :
    List (List Char) :=
  match height with
  | 0 => []
  | height + 1 =>
    let line := cells.map fun (width, lines) => lines.headD (List.replicate width ' ')
    (bar :: List.intercalate [bar] line ++ [bar]) ::
      rowLines bar height (cells.map fun (width, lines) => (width, lines.tail))

/-- A row, from the widths and the placements of its columns. -/
def row (bar : Char) (placed : List (Nat × Placement)) (texts : List (List Char)) :
    List (List Char) :=
  let cells := List.zipWith
    (fun (width, placement) text => (width, cellLines placement width text)) placed texts
  rowLines bar ((cells.map fun (_, lines) => lines.length).foldl max 0) cells

/-- A table of rows within a width, line by line. -/
def table (limit : Nat) (columns : List Column) (rows : List (List (List Char))) :
    List (List Char) :=
  let titles := columns.map (·.title)
  let inner := limit - (columns.length + 1)
  let widths := collapse inner (2 * columns.length) (naturalWidths inner titles rows)
  let placed := widths.zip (columns.map (·.placement))
  rule '┏' '━' '┳' '┓' widths :: row '┃' placed titles ++
    rule '┡' '━' '╇' '┩' widths :: rows.flatMap (row '│' placed) ++
    [rule '└' '─' '┴' '┘' widths]

end Report

end PolyIntake
