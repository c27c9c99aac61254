/-
This file defines sparse polynomials in several variables, one variable for
each level of nesting. A polynomial is a constant or a sum of monomials, and
the coefficient of a monomial is again a polynomial, in the next variable.

A sum is computed through its table: the coefficients by exponent, in
ascending order, each exponent once. Turning a table back into a polynomial
drops the terms that are zero and collapses a lone power zero with a constant
coefficient, so what comes out has one form for each value.
-/

import PolyIntake.Decimal

namespace PolyIntake

/-! ### Polynomials and monomials -/

mutual

/-- A power of the current variable with its coefficient, which is a polynomial in the
variables below it. -/
structure Monomial where
  exponent : Int
  coefficient : Poly

/-- A polynomial. It is a constant when it has no monomials; otherwise it is the sum of its
monomials and the constant plays no part in its value. -/
structure Poly where
  constant : Int
  monomials : List Monomial

end

mutual

/-- Equality of polynomials is decided part by part. -/
def Poly.decEq : (left right : Poly) → Decidable (left = right)
  | ⟨constant, monomials⟩, ⟨constant', monomials'⟩ =>
    if same : constant = constant' then
      match Monomial.decEqList monomials monomials' with
      | isTrue equal => isTrue (by rw [same, equal])
      | isFalse differ => isFalse fun equal => differ (Poly.mk.inj equal).2
    else isFalse fun equal => same (Poly.mk.inj equal).1

/-- Equality of monomials is decided part by part. -/
def Monomial.decEq : (left right : Monomial) → Decidable (left = right)
  | ⟨exponent, coefficient⟩, ⟨exponent', coefficient'⟩ =>
    if same : exponent = exponent' then
      match Poly.decEq coefficient coefficient' with
      | isTrue equal => isTrue (by rw [same, equal])
      | isFalse differ => isFalse fun equal => differ (Monomial.mk.inj equal).2
    else isFalse fun equal => same (Monomial.mk.inj equal).1

/-- Equality of lists of monomials is decided member by member. -/
def Monomial.decEqList : (left right : List Monomial) → Decidable (left = right)
  | [], [] => isTrue rfl
  | [], _ :: _ => isFalse nofun
  | _ :: _, [] => isFalse nofun
  | head :: tail, head' :: tail' =>
    match Monomial.decEq head head' with
    | isFalse differ => isFalse fun equal => differ (List.cons.inj equal).1
    | isTrue same =>
      match Monomial.decEqList tail tail' with
      | isTrue equal => isTrue (by rw [same, equal])
      | isFalse differ => isFalse fun equal => differ (List.cons.inj equal).2

end

instance : DecidableEq Poly := Poly.decEq

instance : DecidableEq Monomial := Monomial.decEq

namespace Poly

/-- The polynomial that is just an integer. -/
def const (value : Int) : Poly := ⟨value, []⟩

/-- The zero polynomial. -/
def zero : Poly := const 0

instance : Inhabited Poly := ⟨zero⟩

/-- A polynomial without monomials is a constant. -/
def isConst (poly : Poly) : Bool := poly.monomials.isEmpty

/-- Only the constant zero counts as zero; a sum of zero terms does not. -/
def isZero (poly : Poly) : Bool := poly.isConst && poly.constant == 0

/-- The exponents of the outermost variable, in stored order. -/
def exponents (poly : Poly) : List Int := poly.monomials.map (·.exponent)

end Poly

/-! ### Tables of terms -/

/-- A table of terms: coefficients by exponent, exponents strictly ascending. -/
abbrev Table := List Monomial

namespace Table

/-- The coefficient stored for an exponent. -/
def find? (table : Table) (exponent : Int) : Option Poly :=
  match table with
  | [] => none
  | head :: tail =>
    if head.exponent = exponent then some head.coefficient
    else if exponent < head.exponent then none
    else find? tail exponent

/-- Stores a term at its place, in the stead of a term with the same exponent. -/
def insert (term : Monomial) : Table → Table
  | [] => [term]
  | head :: tail =>
    if term.exponent < head.exponent then term :: head :: tail
    else if term.exponent = head.exponent then term :: tail
    else head :: insert term tail

/-- The table of a list of terms. Of two terms with one exponent the later is kept. -/
def ofList (terms : List Monomial) : Table :=
  terms.foldl (fun table term => insert term table) []

end Table

namespace Poly

/-- The table of a polynomial. A constant other than zero is its own coefficient of power
zero, and zero has no terms at all. -/
def table (poly : Poly) : Table :=
  if poly.isConst then
    if poly.constant = 0 then [] else [⟨0, poly⟩]
  else Table.ofList poly.monomials

/-- The polynomial of a table. Zero terms are dropped, no terms at all make the zero
polynomial, and a lone constant at power zero is just that constant. -/
def ofTable (table : Table) : Poly :=
  match table.filter (fun term => !term.coefficient.isZero) with
  | [] => zero
  | [term] =>
    if term.exponent = 0 && term.coefficient.isConst then term.coefficient
    else ⟨0, [term]⟩
  | terms => ⟨0, terms⟩

end Poly

/-! ### The size of a polynomial -/

mutual

/-- A measure of a polynomial that leaves room for the bookkeeping of each level. -/
def Poly.weight : Poly → Nat
  | ⟨_, monomials⟩ => Monomial.totalWeight monomials + 3

/-- The summed measure of the coefficients of a list of monomials. -/
def Monomial.totalWeight : List Monomial → Nat
  | [] => 0
  | ⟨_, coefficient⟩ :: rest => coefficient.weight + Monomial.totalWeight rest

end

/-- The measure of a polynomial is that of its monomials and the room of one level. -/
theorem Poly.weight_eq (poly : Poly) :
    poly.weight = Monomial.totalWeight poly.monomials + 3 := by
  cases poly
  simp [Poly.weight]

/-- Every polynomial weighs at least the room of one level. -/
theorem Poly.three_le_weight (poly : Poly) : 3 ≤ poly.weight := by
  rw [Poly.weight_eq]
  omega

@[simp] theorem Monomial.totalWeight_nil : Monomial.totalWeight [] = 0 := rfl

@[simp] theorem Monomial.totalWeight_cons (head : Monomial) (tail : List Monomial) :
    Monomial.totalWeight (head :: tail) =
      head.coefficient.weight + Monomial.totalWeight tail := by
  cases head
  rfl

/-- Storing a term adds no more than the weight of its coefficient. -/
theorem Table.totalWeight_insert_le (term : Monomial) (table : Table) :
    Monomial.totalWeight (Table.insert term table) ≤
      term.coefficient.weight + Monomial.totalWeight table := by
  induction table with
  | nil => simp [Table.insert]
  | cons head tail inductionHypothesis =>
    simp only [Table.insert]
    split
    · simp
    · split <;> simp only [Monomial.totalWeight_cons] <;> omega

/-- Collecting terms into a table never adds weight. -/
theorem Table.totalWeight_foldl_insert_le (terms : List Monomial) (table : Table) :
    Monomial.totalWeight (terms.foldl (fun table term => Table.insert term table) table) ≤
      Monomial.totalWeight terms + Monomial.totalWeight table := by
  induction terms generalizing table with
  | nil => simp
  | cons head tail inductionHypothesis =>
    have step := Table.totalWeight_insert_le head table
    have rest := inductionHypothesis (Table.insert head table)
    rw [List.foldl_cons, Monomial.totalWeight_cons]
    omega

/-- A constant brings at most itself to its table. -/
theorem Poly.totalWeight_table_le_of_isConst {poly : Poly} (constant : poly.isConst = true) :
    Monomial.totalWeight poly.table ≤ poly.weight := by
  unfold Poly.table
  rw [if_pos constant]
  split <;> simp

/-- The table of a sum weighs less than the sum by the room of one level. -/
theorem Poly.totalWeight_table_le_of_not_isConst {poly : Poly}
    (sum : ¬ poly.isConst = true) : Monomial.totalWeight poly.table + 3 ≤ poly.weight := by
  unfold Poly.table
  rw [if_neg sum, Poly.weight_eq]
  exact Nat.add_le_add_right (Table.totalWeight_foldl_insert_le poly.monomials []) 3

end PolyIntake
