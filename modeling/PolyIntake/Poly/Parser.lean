/-
This file reads polynomial literals. A literal is a coefficient or a sum of
monomials joined by plus signs, a monomial is a parenthesised literal with an
exponent behind a comma, and both nest without limit.

The parser keeps the finished monomials of every sum that is still open on a
stack instead of calling itself. One turn takes all opening parentheses up to
the next coefficient, reads it, and then closes monomials and sums until
another monomial begins. Every turn takes at least the digits of a
coefficient, so the parser ends on every text.

A whole line has to pass two checks in front of that: only characters that
occur in literals, and parentheses that pair up. They change no verdict, but
they decide what is reported.
-/

import PolyIntake.Integer
import PolyIntake.Poly.Sum

namespace PolyIntake

namespace Parser

/-! ### Faults -/

/-- Why a text is not a polynomial literal. -/
inductive Fault where
  | illegal (char : Char)
  | unbalanced
  | trailing
  | missing
  | noOpening
  | coefficient (fault : Integer.Fault)
  | noComma
  | exponent (fault : Integer.Fault)
  | unexpected (char : Char)

/-- The wording of a fault. -/
def Fault.reason : Fault → String
  | .illegal char => "illegal character " ++ Text.quotedPlace (some char)
  | .unbalanced => "unbalanced parentheses"
  | .trailing => "trailing input after polynomial"
  | .missing => "empty polynomial"
  | .noOpening => "expected '('"
  | .coefficient fault => "bad coefficient: " ++ fault.reason
  | .noComma => "expected ',' before exponent"
  | .exponent fault => "bad exponent: " ++ fault.reason
  | .unexpected char => "unexpected character " ++ Text.quotedPlace (some char) ++
    " after monomial"

/-- Where and why a text is not a polynomial literal. -/
abbrev SyntaxError := Refusal Fault

/-! ### Parts of a literal -/

/-- A polynomial ends in front of a comma or at the end of the line. -/
def endsPoly (char : Option Char) : Bool :=
  char == none || char == some ','

/-- An exponent ends in front of a closing parenthesis. -/
def endsExponent (char : Option Char) : Bool :=
  char == some ')'

/-- Reads a coefficient. -/
def readCoefficient (cursor : Cursor) : Except SyntaxError (Int × Cursor) :=
  (Integer.read .signed64 endsPoly cursor).mapError (·.map .coefficient)

/-- Reads the comma, the exponent and the closing parenthesis behind a coefficient. -/
def closeMonomial (cursor : Cursor) : Except SyntaxError (Int × Cursor) :=
  if cursor.peek == some ',' then
    match Integer.read .unsigned31 endsExponent (cursor.advance 1) with
    | .error refusal => .error (refusal.map .exponent)
    | .ok (exponent, next) => .ok (exponent, next.advance 1)
  else .error ⟨cursor.position, .noComma⟩

/-! ### Turns of the parser -/

/-- What the parser holds between two turns: the sums that are open, innermost first, each
with its finished monomials, latest first. -/
structure State where
  openSums : List (List Monomial)
  cursor : Cursor

/-- The outcome of a turn that was not refused. -/
inductive Turn where
  | finished (poly : Poly) (cursor : Cursor)
  | further (state : State)

/-- Opens one sum for every parenthesis at the cursor. -/
def descend (state : State) : State :=
  let depth := (state.cursor.rest.takeWhile (· == '(')).length
  ⟨List.replicate depth [] ++ state.openSums, state.cursor.advance depth⟩

/-- Attaches a finished polynomial to the innermost open sum as the coefficient of its next
monomial, and goes on upwards with that sum when no other monomial follows. -/
def ascend (openSums : List (List Monomial)) (poly : Poly) (cursor : Cursor) :
    Except SyntaxError Turn :=
  match openSums with
  | [] => .ok (.finished poly cursor)
  | monomials :: outer =>
    match closeMonomial cursor with
    | .error refusal => .error refusal
    | .ok (exponent, next) =>
      match next.peek with
      | some '+' =>
        let opening := next.advance 1
        if opening.peek == some '(' then
          .ok (.further ⟨(⟨exponent, poly⟩ :: monomials) :: outer, opening.advance 1⟩)
        else .error ⟨opening.position, .noOpening⟩
      | none => ascend outer (.ofMonomials (⟨exponent, poly⟩ :: monomials).reverse) next
      | some ',' => ascend outer (.ofMonomials (⟨exponent, poly⟩ :: monomials).reverse) next
      | some char => .error ⟨next.position, .unexpected char⟩

/-- One turn: down to the next coefficient, and up again from there. -/
def turn (state : State) : Except SyntaxError Turn :=
  let ⟨openSums, cursor⟩ := descend state
  match cursor.peek with
  | none => .error ⟨cursor.position, .missing⟩
  | some char =>
    if char.isDigit || char == '-' then
      match readCoefficient cursor with
      | .error refusal => .error refusal
      | .ok (value, next) => ascend openSums (.const value) next
    else .error ⟨cursor.position, .noOpening⟩

/-! ### Progress -/

/-- Closing a monomial takes up characters. -/
theorem length_rest_lt_of_closeMonomial {cursor next : Cursor} {exponent : Int}
    (accepted : closeMonomial cursor = .ok (exponent, next)) :
    next.rest.length < cursor.rest.length := by
  unfold closeMonomial at accepted
  split at accepted
  · split at accepted
    · cases accepted
    case h_2 value behind read =>
      cases accepted
      have progress := Integer.length_rest_lt_of_read read
      simp only [Cursor.advance, List.length_drop] at *
      omega
  · cases accepted

/-- A turn that is not the last leaves less to read than it found behind its coefficient. -/
theorem length_rest_lt_of_ascend {openSums : List (List Monomial)} {poly : Poly}
    {cursor : Cursor} {state : State}
    (accepted : ascend openSums poly cursor = .ok (.further state)) :
    state.cursor.rest.length < cursor.rest.length := by
  fun_induction ascend openSums poly cursor with
  | case1 => cases accepted
  | case2 => cases accepted
  | case3 poly cursor monomials outer exponent next closed plus opening paren =>
    cases accepted
    have progress := length_rest_lt_of_closeMonomial closed
    simp only [opening, Cursor.advance, List.length_drop]
    omega
  | case4 => cases accepted
  | case5 poly cursor monomials outer exponent next closed atEnd inductionHypothesis =>
    have progress := length_rest_lt_of_closeMonomial closed
    have := inductionHypothesis accepted
    omega
  | case6 poly cursor monomials outer exponent next closed comma inductionHypothesis =>
    have progress := length_rest_lt_of_closeMonomial closed
    have := inductionHypothesis accepted
    omega
  | case7 => cases accepted

/-- A turn that is not the last takes up at least a coefficient. -/
theorem length_rest_lt_of_turn {state next : State}
    (accepted : turn state = .ok (.further next)) :
    next.cursor.rest.length < state.cursor.rest.length := by
  have descended : (descend state).cursor.rest.length ≤ state.cursor.rest.length := by
    simp [descend, Cursor.advance]
  unfold turn at accepted
  dsimp only at accepted
  split at accepted
  · cases accepted
  · split at accepted
    · split at accepted
      · cases accepted
      case h_2 value behind read =>
        have ascended := length_rest_lt_of_ascend accepted
        have progress : behind.rest.length < (descend state).cursor.rest.length := by
          unfold readCoefficient at read
          cases coefficient : Integer.read .signed64 endsPoly (descend state).cursor with
          | error refusal => rw [coefficient] at read; cases read
          | ok result =>
            rw [coefficient] at read
            cases read
            exact Integer.length_rest_lt_of_read coefficient
        omega
    · cases accepted

/-! ### The parser -/

/-- Takes turns until the polynomial is finished or refused. -/
def run (state : State) : Except SyntaxError (Poly × Cursor) :=
  match _taken : turn state with
  | .error refusal => .error refusal
  | .ok (.finished poly cursor) => .ok (poly, cursor)
  | .ok (.further next) => run next
termination_by state.cursor.rest.length
decreasing_by exact length_rest_lt_of_turn _taken

/-- Reads the polynomial that starts at a place. It ends at the first character that is not
part of it, which is a comma or the end of the line. -/
def parseAt (cursor : Cursor) : Except SyntaxError (Poly × Cursor) :=
  run ⟨[], cursor⟩

/-! ### Checks on a whole line -/

/-- The characters of which literals are made. -/
def isLegal (char : Char) : Bool :=
  char.isDigit || char == '-' || char == '+' || char == '(' || char == ')' || char == ','

/-- The first character that no literal holds, with its position. The text is what follows
the given position. -/
def illegalFrom (position : Nat) : List Char → Option (Nat × Char)
  | [] => none
  | char :: rest => if isLegal char then illegalFrom (position + 1) rest else some (position, char)

/-- The first character of a line that no literal holds. -/
def illegal? (text : List Char) : Option (Nat × Char) :=
  illegalFrom 0 text

/-- The parentheses close what was opened, given the number that is open already. -/
def balancedFrom (depth : Nat) : List Char → Bool
  | [] => depth == 0
  | '(' :: rest => balancedFrom (depth + 1) rest
  | ')' :: rest =>
    match depth with
    | 0 => false
    | depth + 1 => balancedFrom depth rest
  | _ :: rest => balancedFrom depth rest

/-- Every parenthesis has its partner. -/
def balanced (text : List Char) : Bool :=
  balancedFrom 0 text

end Parser

/-! ### Polynomial lines -/

/-- Reads a whole line as a polynomial literal. -/
def Poly.parse (text : List Char) : Except Parser.SyntaxError Poly :=
  match Parser.illegal? text with
  | some (position, char) => .error ⟨position, .illegal char⟩
  | none =>
    if Parser.balanced text then
      match Parser.parseAt ⟨text, 0⟩ with
      | .error refusal => .error refusal
      | .ok (poly, cursor) =>
        if cursor.rest.isEmpty then .ok poly
        else .error ⟨cursor.position, .trailing⟩
    else .error ⟨0, .unbalanced⟩

end PolyIntake
