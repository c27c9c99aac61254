/-
This file defines a place inside a line: the characters that are still to be
read together with the number of characters in front of them. Whoever refuses
a line says where, so a refusal is a cause with a position. Positions count
characters from zero, and a place past the end of the line is allowed; there
is no character there.
-/

import PolyIntake.Decimal
import PolyIntake.Text.Quoted

namespace PolyIntake

/-! ### Places -/

/-- A place inside a line. -/
structure Cursor where
  rest : List Char
  position : Nat

namespace Cursor

/-- The place of a position in a text. -/
def ofText (text : List Char) (position : Nat) : Cursor :=
  ⟨text.drop position, position⟩

/-- The character at the place, or nothing at the end of the line. -/
def peek (cursor : Cursor) : Option Char := cursor.rest.head?

/-- The place that many characters further. -/
def advance (cursor : Cursor) (count : Nat) : Cursor :=
  ⟨cursor.rest.drop count, cursor.position + count⟩

end Cursor

/-! ### Refusals -/

/-- Why and where a text was refused. -/
structure Refusal (Cause : Type) where
  position : Nat
  cause : Cause

namespace Refusal

/-- The reason of a refusal followed by its position. -/
def message {Cause : Type} (reason : Cause → String) (refusal : Refusal Cause) : String :=
  reason refusal.cause ++ " at position " ++ Decimal.natText refusal.position

/-- The same refusal seen as part of a larger construct. -/
def map {Cause Cause' : Type} (embed : Cause → Cause') (refusal : Refusal Cause) :
    Refusal Cause' :=
  ⟨refusal.position, embed refusal.cause⟩

end Refusal

end PolyIntake
