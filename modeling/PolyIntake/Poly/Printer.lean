/-
This file writes polynomials. The written form is the literal that the
calculator reads: a constant is its decimal value, and a sum is its monomials
in stored order, each as a parenthesised coefficient and exponent, joined by
plus signs.

The printer keeps a list of what is still to be written instead of calling
itself, so a deeply nested polynomial needs no call depth. A polynomial with an
overlong number has a literal as well, but it is not written for others to read.
A second form shows how a value is put together, part by part, including the
parts that the literal leaves out.
-/

import PolyIntake.Poly

namespace PolyIntake

namespace Printer

/-! ### The work list -/

/-- Something still to be written: characters as they are, or a polynomial. -/
inductive Piece where
  | verbatim (text : List Char)
  | literal (poly : Poly)

/-- The pieces of a list of monomials. The first is opened by the given text and every later
one by a plus sign and a parenthesis. -/
def pieces (opening : List Char) : List Monomial → List Piece
  | [] => []
  | ⟨exponent, coefficient⟩ :: rest =>
    .verbatim opening :: .literal coefficient ::
      .verbatim (',' :: Decimal.ofInt exponent ++ [')']) :: pieces ['+', '('] rest

/-- The weight of the polynomials that are still to be written. -/
def pending : List Piece → Nat
  | [] => 0
  | .verbatim _ :: rest => pending rest
  | .literal poly :: rest => poly.weight + pending rest

theorem pending_append (first second : List Piece) :
    pending (first ++ second) = pending first + pending second := by
  induction first with
  | nil => simp [pending]
  | cons piece rest inductionHypothesis =>
    cases piece <;> simp only [List.cons_append, pending, inductionHypothesis]
    omega

/-- Taking a sum apart leaves its coefficients and nothing else to be weighed. -/
theorem pending_pieces (opening : List Char) (monomials : List Monomial) :
    pending (pieces opening monomials) = Monomial.totalWeight monomials := by
  induction monomials generalizing opening with
  | nil => rfl
  | cons head tail inductionHypothesis =>
    cases head
    simp [pieces, pending, inductionHypothesis]

/-- Writes all pieces after the parts that are written already, which come latest first. A
turn lowers the weight that is pending, or keeps it and shortens the list. -/
def write (todo : List Piece) (written : List (List Char)) : List Char :=
  match todo with
  | [] => written.reverse.flatten
  | .verbatim text :: todo => write todo (text :: written)
  | .literal poly :: todo =>
    if poly.isConst then write todo (Decimal.ofInt poly.constant :: written)
    else write (pieces ['('] poly.monomials ++ todo) written
termination_by (pending todo, todo.length)
decreasing_by
  · exact Prod.Lex.right _ (by simp)
  · have := poly.three_le_weight
    exact Prod.Lex.left _ _ (by simp only [pending]; omega)
  · exact Prod.Lex.left _ _ (by
      rw [pending_append, pending_pieces]
      simp only [pending, poly.weight_eq]
      omega)

end Printer

namespace Poly

/-- The literal of a polynomial, as characters. -/
def literal (poly : Poly) : List Char :=
  Printer.write [.literal poly] []

/-- The literal of a polynomial, such as `(3,0)+(1,2)`. -/
def text (poly : Poly) : String :=
  String.ofList poly.literal

end Poly

/-! ### Writable polynomials -/

mutual

/-- Every number of the literal is short enough to be written. -/
def Poly.isWritable : Poly → Bool
  | ⟨constant, []⟩ => Decimal.isWritable constant
  | ⟨_, head :: tail⟩ => Monomial.areWritable (head :: tail)

/-- Every number in the literals of some monomials is short enough to be written. -/
def Monomial.areWritable : List Monomial → Bool
  | [] => true
  | ⟨exponent, coefficient⟩ :: rest =>
    Decimal.isWritable exponent && coefficient.isWritable && Monomial.areWritable rest

end

/-- The literal of a polynomial, unless a number in it is overlong. -/
def Poly.written (poly : Poly) : Except Decimal.Overlong String :=
  if poly.isWritable then .ok poly.text else .error .written

/-! ### The structure of a value -/

mutual

/-- How a polynomial is put together: its constant, and its monomials as a tuple. A tuple of
one member keeps a comma behind it. -/
def Poly.structureText : Poly → String
  | ⟨constant, monomials⟩ =>
    "Poly(coeff=" ++ Decimal.text constant ++ ", monos=" ++
      (match monomials with
        | [_] => "(" ++ Monomial.structureTexts monomials ++ ",)"
        | _ => "(" ++ Monomial.structureTexts monomials ++ ")") ++ ")"

/-- The structures of the monomials of a list, separated by commas. -/
def Monomial.structureTexts : List Monomial → String
  | [] => ""
  | [⟨exponent, coefficient⟩] =>
    "Mono(exp=" ++ Decimal.text exponent ++ ", coeff=" ++ coefficient.structureText ++ ")"
  | ⟨exponent, coefficient⟩ :: rest =>
    "Mono(exp=" ++ Decimal.text exponent ++ ", coeff=" ++ coefficient.structureText ++ "), " ++
      Monomial.structureTexts rest

end

end PolyIntake
