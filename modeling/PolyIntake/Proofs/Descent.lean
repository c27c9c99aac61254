/-
This file defines the parser by recursive descent and proves that the parser
with a stack of open sums does what it does. The recursive parser has one
function for a literal and one for the monomials of a sum, and calls itself for
the coefficient of each monomial.

The two are tied together by what becomes of a finished literal: the stack
parser attaches it to the innermost open sum and carries on from there. So a run
of the stack parser, on whatever stack, is one call of the recursive parser
whose result is handed to that stack, and a refusal is the same refusal wherever
inside the nesting it arises.
-/

import PolyIntake.Poly.Parser

namespace PolyIntake

theorem Cursor.advance_advance (cursor : Cursor) (count count' : Nat) :
    (cursor.advance count).advance count' = cursor.advance (count + count') := by
  unfold advance
  rw [List.drop_drop, Nat.add_assoc]

namespace Parser

/-! ### The recursive parser -/

theorem length_rest_lt_of_readCoefficient {cursor next : Cursor} {value : Int}
    (accepted : readCoefficient cursor = .ok (value, next)) :
    next.rest.length < cursor.rest.length := by
  unfold readCoefficient at accepted
  cases coefficient : Integer.read .signed64 endsPoly cursor with
  | error refusal =>
    rw [coefficient] at accepted
    cases accepted
  | ok result =>
    rw [coefficient] at accepted
    cases accepted
    exact Integer.length_rest_lt_of_read coefficient

/-- A polynomial with the place behind it, which lies further on. -/
abbrev Reading (cursor : Cursor) :=
  {result : Poly × Cursor // result.2.rest.length < cursor.rest.length}

namespace Reading

/-- The same reading, seen from a place further back. -/
def weaken {cursor earlier : Cursor} (further : cursor.rest.length ≤ earlier.rest.length)
    (reading : Reading cursor) : Reading earlier :=
  ⟨reading.val, Nat.lt_of_lt_of_le reading.property further⟩

mutual

/-- Reads a literal: a sum behind a parenthesis, and a coefficient otherwise. -/
def ofPoly (cursor : Cursor) : Except SyntaxError (Reading cursor) :=
  match _head : cursor.peek with
  | none => .error ⟨cursor.position, .missing⟩
  | some '(' => (ofSum [] (cursor.advance 1)).map (weaken (by simp [Cursor.advance]))
  | some char =>
    if char.isDigit || char == '-' then
      match read : readCoefficient cursor with
      | .error refusal => .error refusal
      | .ok (value, next) => .ok ⟨(.const value, next), length_rest_lt_of_readCoefficient read⟩
    else .error ⟨cursor.position, .noOpening⟩
termination_by (cursor.rest.length, 0)
decreasing_by
  apply Prod.Lex.left
  cases rest : cursor.rest with
  | nil => simp [Cursor.peek, rest] at _head
  | cons head tail => simp [Cursor.advance, rest]

/-- Reads the remaining monomials of a sum, the first of which has its parenthesis open. The
finished monomials come latest first. -/
def ofSum (finished : List Monomial) (cursor : Cursor) : Except SyntaxError (Reading cursor) :=
  match ofPoly cursor with
  | .error refusal => .error refusal
  | .ok ⟨(coefficient, behind), shorter⟩ =>
    match closed : closeMonomial behind with
    | .error refusal => .error refusal
    | .ok (exponent, next) =>
      have further := Nat.lt_trans (length_rest_lt_of_closeMonomial closed) shorter
      let monomials := ⟨exponent, coefficient⟩ :: finished
      match next.peek with
      | some '+' =>
        if (next.advance 1).peek == some '(' then
          (ofSum monomials (next.advance 2)).map (weaken (by simp [Cursor.advance]; omega))
        else .error ⟨(next.advance 1).position, .noOpening⟩
      | none => .ok ⟨(.ofMonomials monomials.reverse, next), further⟩
      | some ',' => .ok ⟨(.ofMonomials monomials.reverse, next), further⟩
      | some char => .error ⟨next.position, .unexpected char⟩
-- A sum hands its own place on to the coefficient of its first monomial, so the place alone
-- does not shrink at every call.
termination_by (cursor.rest.length, 1)
decreasing_by
  · apply Prod.Lex.right
    omega
  · apply Prod.Lex.left
    simp [Cursor.advance]
    omega

end

end Reading

/-- Reads a literal by recursive descent. -/
def descent (cursor : Cursor) : Except SyntaxError (Poly × Cursor) :=
  (Reading.ofPoly cursor).map (·.val)

/-- Reads the remaining monomials of a sum by recursive descent. -/
def descentSum (finished : List Monomial) (cursor : Cursor) : Except SyntaxError (Poly × Cursor) :=
  (Reading.ofSum finished cursor).map (·.val)

theorem length_rest_lt_of_descent {cursor next : Cursor} {poly : Poly}
    (accepted : descent cursor = .ok (poly, next)) : next.rest.length < cursor.rest.length := by
  unfold descent at accepted
  cases reading : Reading.ofPoly cursor with
  | error refusal =>
    rw [reading] at accepted
    cases accepted
  | ok result =>
    rw [reading] at accepted
    obtain ⟨result, further⟩ := result
    cases accepted
    exact further

/-! ### Its equations, without the proofs that it gets further -/

theorem descent_nil (position : Nat) : descent ⟨[], position⟩ = .error ⟨position, .missing⟩ := by
  unfold descent
  rw [Reading.ofPoly]
  rfl

theorem descent_paren (rest : List Char) (position : Nat) :
    descent ⟨'(' :: rest, position⟩ = descentSum [] ⟨rest, position + 1⟩ := by
  unfold descent descentSum
  rw [Reading.ofPoly]
  change Except.map _ (Except.map _ (Reading.ofSum [] ⟨rest, position + 1⟩)) = _
  cases Reading.ofSum [] ⟨rest, position + 1⟩ <;> rfl

theorem descent_of_ne_paren {char : Char} (notParen : char ≠ '(') (rest : List Char)
    (position : Nat) :
    descent ⟨char :: rest, position⟩ =
      if char.isDigit || char == '-' then
        match readCoefficient ⟨char :: rest, position⟩ with
        | .error refusal => .error refusal
        | .ok (value, next) => .ok (.const value, next)
      else .error ⟨position, .noOpening⟩ := by
  unfold descent
  rw [Reading.ofPoly]
  split
  case h_1 absent => cases absent
  case h_2 paren => exact absurd (Option.some.inj paren) notParen
  case h_3 other _ head =>
    obtain rfl : char = other := Option.some.inj head
    split
    · split
      case h_1 refusal read =>
        conv => rhs; rw [read]
        rfl
      case h_2 value next read =>
        conv => rhs; rw [read]
        rfl
    · rfl

theorem descentSum_eq (finished : List Monomial) (cursor : Cursor) :
    descentSum finished cursor =
      match descent cursor with
      | .error refusal => .error refusal
      | .ok (coefficient, behind) =>
        match closeMonomial behind with
        | .error refusal => .error refusal
        | .ok (exponent, next) =>
          match next.peek with
          | some '+' =>
            if (next.advance 1).peek == some '(' then
              descentSum (⟨exponent, coefficient⟩ :: finished) (next.advance 2)
            else .error ⟨(next.advance 1).position, .noOpening⟩
          | none => .ok (.ofMonomials (⟨exponent, coefficient⟩ :: finished).reverse, next)
          | some ',' => .ok (.ofMonomials (⟨exponent, coefficient⟩ :: finished).reverse, next)
          | some char => .error ⟨next.position, .unexpected char⟩ := by
  unfold descentSum descent
  rw [Reading.ofSum]
  cases Reading.ofPoly cursor with
  | error refusal => rfl
  | ok reading =>
    obtain ⟨⟨coefficient, behind⟩, shorter⟩ := reading
    dsimp only
    change Except.map _ _ = match closeMonomial behind with
      | .error refusal => .error refusal
      | .ok (exponent, next) => _
    split
    case h_1 refusal closed =>
      rw [closed]
      rfl
    case h_2 exponent next closed =>
      simp only [closed]
      split
      · split
        · cases Reading.ofSum (⟨exponent, coefficient⟩ :: finished) (next.advance 2) <;> rfl
        · rfl
      all_goals rfl

/-! ### Runs of the stack parser -/

/-- The rest of a run, behind a turn. -/
def proceed : Except SyntaxError Turn → Except SyntaxError (Poly × Cursor)
  | .error refusal => .error refusal
  | .ok (.finished poly cursor) => .ok (poly, cursor)
  | .ok (.further next) => run next

theorem run_eq (state : State) : run state = proceed (turn state) := by
  rw [run]
  split
  case h_1 taken => rw [taken, proceed]
  case h_2 taken => rw [taken, proceed]
  case h_3 taken => rw [taken, proceed]

/-- What the stack parser does with a finished polynomial. -/
def resume (openSums : List (List Monomial)) (poly : Poly) (cursor : Cursor) :
    Except SyntaxError (Poly × Cursor) :=
  proceed (ascend openSums poly cursor)

theorem resume_nil (poly : Poly) (cursor : Cursor) :
    resume [] poly cursor = .ok (poly, cursor) := by
  unfold resume
  rw [ascend, proceed]

theorem resume_cons (finished : List Monomial) (outer : List (List Monomial)) (coefficient : Poly)
    (behind : Cursor) :
    resume (finished :: outer) coefficient behind =
      match closeMonomial behind with
      | .error refusal => .error refusal
      | .ok (exponent, next) =>
        match next.peek with
        | some '+' =>
          if (next.advance 1).peek == some '(' then
            run ⟨(⟨exponent, coefficient⟩ :: finished) :: outer, next.advance 2⟩
          else .error ⟨(next.advance 1).position, .noOpening⟩
        | none => resume outer (.ofMonomials (⟨exponent, coefficient⟩ :: finished).reverse) next
        | some ',' => resume outer (.ofMonomials (⟨exponent, coefficient⟩ :: finished).reverse) next
        | some char => .error ⟨next.position, .unexpected char⟩ := by
  unfold resume
  rw [ascend]
  cases closeMonomial behind with
  | error refusal => rfl
  | ok closed =>
    obtain ⟨exponent, next⟩ := closed
    dsimp only
    cases next.peek with
    | none => rfl
    | some char =>
      by_cases plus : char = '+'
      · subst plus
        change proceed (if _ then _ else _) = if _ then _ else _
        rw [Cursor.advance_advance]
        split <;> rfl
      · by_cases comma : char = ','
        · subst comma
          rfl
        · simp only [proceed]

theorem run_nil (openSums : List (List Monomial)) (position : Nat) :
    run ⟨openSums, ⟨[], position⟩⟩ = .error ⟨position, .missing⟩ := by
  rw [run_eq]
  rfl

/-- A parenthesis opens a sum. -/
theorem descend_paren (openSums : List (List Monomial)) (rest : List Char) (position : Nat) :
    descend ⟨openSums, ⟨'(' :: rest, position⟩⟩ =
      descend ⟨[] :: openSums, ⟨rest, position + 1⟩⟩ := by
  unfold descend
  rw [List.takeWhile_cons_of_pos (by decide)]
  simp [Cursor.advance, List.replicate_succ']
  omega

theorem descend_of_ne_paren (openSums : List (List Monomial)) {char : Char} (notParen : char ≠ '(')
    (rest : List Char) (position : Nat) :
    descend ⟨openSums, ⟨char :: rest, position⟩⟩ = ⟨openSums, ⟨char :: rest, position⟩⟩ := by
  unfold descend
  rw [List.takeWhile_cons_of_neg (by simpa using notParen)]
  rfl

theorem run_paren (openSums : List (List Monomial)) (rest : List Char) (position : Nat) :
    run ⟨openSums, ⟨'(' :: rest, position⟩⟩ = run ⟨[] :: openSums, ⟨rest, position + 1⟩⟩ := by
  rw [run_eq, run_eq]
  unfold turn
  rw [descend_paren]

theorem run_of_ne_paren (openSums : List (List Monomial)) {char : Char} (notParen : char ≠ '(')
    (rest : List Char) (position : Nat) :
    run ⟨openSums, ⟨char :: rest, position⟩⟩ =
      if char.isDigit || char == '-' then
        match readCoefficient ⟨char :: rest, position⟩ with
        | .error refusal => .error refusal
        | .ok (value, next) => resume openSums (.const value) next
      else .error ⟨position, .noOpening⟩ := by
  rw [run_eq]
  unfold turn
  rw [descend_of_ne_paren openSums notParen]
  dsimp only [Cursor.peek, List.head?_cons]
  split
  · cases readCoefficient ⟨char :: rest, position⟩ <;> rfl
  · rfl

/-! ### The stack parser does what the recursive parser does -/

mutual

/-- A run is one call of the recursive parser whose result goes to the open sums. -/
theorem run_eq_descent (openSums : List (List Monomial)) (cursor : Cursor) :
    run ⟨openSums, cursor⟩ =
      match descent cursor with
      | .error refusal => .error refusal
      | .ok (poly, next) => resume openSums poly next := by
  match cursor with
  | ⟨[], position⟩ => rw [run_nil, descent_nil]
  | ⟨char :: rest, position⟩ =>
    by_cases paren : char = '('
    · rw [paren, run_paren, run_eq_descentSum, descent_paren]
    · rw [run_of_ne_paren openSums paren, descent_of_ne_paren paren]
      split
      · cases readCoefficient ⟨char :: rest, position⟩ <;> rfl
      · rfl
termination_by (cursor.rest.length, 0)
decreasing_by
  apply Prod.Lex.left
  simp

/-- A run with an open sum is one call that finishes the sum. -/
theorem run_eq_descentSum (finished : List Monomial) (openSums : List (List Monomial))
    (cursor : Cursor) :
    run ⟨finished :: openSums, cursor⟩ =
      match descentSum finished cursor with
      | .error refusal => .error refusal
      | .ok (poly, next) => resume openSums poly next := by
  rw [run_eq_descent, descentSum_eq]
  cases literal : descent cursor with
  | error refusal => rfl
  | ok result =>
    obtain ⟨coefficient, behind⟩ := result
    dsimp only
    rw [resume_cons]
    cases closed : closeMonomial behind with
    | error refusal => rfl
    | ok result =>
      obtain ⟨exponent, next⟩ := result
      dsimp only
      split
      · split
        · exact run_eq_descentSum (⟨exponent, coefficient⟩ :: finished) openSums (next.advance 2)
        · rfl
      all_goals rfl
termination_by (cursor.rest.length, 1)
decreasing_by
  · apply Prod.Lex.right
    omega
  · apply Prod.Lex.left
    have shorter := length_rest_lt_of_descent literal
    have further := length_rest_lt_of_closeMonomial closed
    simp only [Cursor.advance, List.length_drop]
    omega

end

/-- The stack parser is the recursive parser. -/
theorem parseAt_eq_descent (cursor : Cursor) : parseAt cursor = descent cursor := by
  unfold parseAt
  rw [run_eq_descent]
  cases descent cursor with
  | error refusal => rfl
  | ok result => exact resume_nil _ _

end Parser

end PolyIntake
