/-
This file adds polynomials. Two terms with one exponent clash, and a clash is
settled by adding the two coefficients, one level further down. The pending
levels are kept in a list of frames, so the depth of a polynomial costs memory
and no call depth. Every turn of the machine lowers the weight of what is
still pending, which is why it ends for every pair of polynomials, also for
those with repeated exponents or zero terms.
-/

import PolyIntake.Poly

namespace PolyIntake

namespace Sum

/-! ### Clashes and frames -/

/-- Two coefficients that meet at one exponent. -/
structure Clash where
  exponent : Int
  left : Poly
  right : Poly

/-- One open level of a sum: the table so far, the clashes not yet settled, and the exponent
whose sum is being computed one level down. -/
structure Frame where
  table : Table
  clashes : List Clash
  awaited : Int

/-- Merges two tables. An exponent of both keeps its left coefficient for the time being and
is listed as a clash. -/
def merge : (left right : Table) → Table × List Clash
  | [], right => (right, [])
  | left, [] => (left, [])
  | head :: tail, head' :: tail' =>
    if head.exponent < head'.exponent then
      let (table, clashes) := merge tail (head' :: tail')
      (head :: table, clashes)
    else if head'.exponent < head.exponent then
      let (table, clashes) := merge (head :: tail) tail'
      (head' :: table, clashes)
    else
      let (table, clashes) := merge tail tail'
      (head :: table, ⟨head.exponent, head.coefficient, head'.coefficient⟩ :: clashes)
termination_by left right => left.length + right.length

/-- A configuration of the machine: a sum handed back to the frames that wait for it, or the
innermost frame at work. -/
inductive Config where
  | returning (value : Poly) (frames : List Frame)
  | working (frame : Frame) (frames : List Frame)

/-- Starts on a sum. Two constants are added at once; anything else opens a frame. -/
def start (left right : Poly) (frames : List Frame) : Config :=
  if left.isConst && right.isConst then
    .returning (.const (left.constant + right.constant)) frames
  else
    let (table, clashes) := merge left.table right.table
    .working ⟨table, clashes, 0⟩ frames

/-! ### The weight of what is pending -/

/-- The weight of a list of clashes. -/
def clashWeight : List Clash → Nat
  | [] => 0
  | clash :: rest => clash.left.weight + clash.right.weight + clashWeight rest

/-- The weight of a list of frames; a frame itself weighs two turns. -/
def frameWeight : List Frame → Nat
  | [] => 0
  | frame :: rest => clashWeight frame.clashes + 2 + frameWeight rest

/-- The weight of a configuration. Handing a value back costs one turn. -/
def Config.weight : Config → Nat
  | .returning _ frames => frameWeight frames + 1
  | .working frame frames => clashWeight frame.clashes + 2 + frameWeight frames

/-- The clashes of two tables weigh no more than the tables. -/
theorem clashWeight_merge_le (left right : Table) :
    clashWeight (merge left right).2 ≤
      Monomial.totalWeight left + Monomial.totalWeight right := by
  fun_induction merge left right with
  | case1 => simp [clashWeight]
  | case2 => simp [clashWeight]
  | case3 head tail head' tail' less table clashes merged inductionHypothesis =>
    simp only [merged, Monomial.totalWeight_cons] at *
    omega
  | case4 head tail head' tail' notLess less table clashes merged inductionHypothesis =>
    simp only [merged, Monomial.totalWeight_cons] at *
    omega
  | case5 head tail head' tail' notLess notLess' table clashes merged inductionHypothesis =>
    simp only [merged, Monomial.totalWeight_cons, clashWeight] at *
    omega

/-- Starting on a clash weighs less than the clash did. -/
theorem weight_start_lt (left right : Poly) (frames : List Frame) :
    (start left right frames).weight < left.weight + right.weight + frameWeight frames := by
  have leftBound := left.three_le_weight
  have rightBound := right.three_le_weight
  unfold start
  split
  · simp only [Config.weight]
    omega
  case isFalse sum =>
    have merged := clashWeight_merge_le left.table right.table
    simp only [Config.weight]
    by_cases leftConst : left.isConst = true
    · have rightSum : ¬ right.isConst = true := by simpa [leftConst] using sum
      have leftTable := Poly.totalWeight_table_le_of_isConst leftConst
      have rightTable := Poly.totalWeight_table_le_of_not_isConst rightSum
      omega
    · have leftTable := Poly.totalWeight_table_le_of_not_isConst leftConst
      have rightTable : Monomial.totalWeight right.table ≤ right.weight := by
        by_cases rightConst : right.isConst = true
        · exact Poly.totalWeight_table_le_of_isConst rightConst
        · have := Poly.totalWeight_table_le_of_not_isConst rightConst
          omega
      omega

/-! ### Running the machine -/

/-- Runs the machine to its end. A value that comes back is stored at the exponent that its
frame awaits; a frame without clashes hands back the polynomial of its table. -/
def run : Config → Poly
  | .returning value [] => value
  | .returning value (frame :: frames) =>
    run (.working { frame with table := frame.table.insert ⟨frame.awaited, value⟩ } frames)
  | .working ⟨table, [], _⟩ frames => run (.returning (.ofTable table) frames)
  | .working ⟨table, clash :: clashes, _⟩ frames =>
    run (start clash.left clash.right (⟨table, clashes, clash.exponent⟩ :: frames))
termination_by config => config.weight
decreasing_by
  · simp only [Config.weight, frameWeight]
    omega
  · simp only [Config.weight, clashWeight]
    omega
  · have lighter := weight_start_lt clash.left clash.right
      (⟨table, clashes, clash.exponent⟩ :: frames)
    simp only [Config.weight, clashWeight, frameWeight] at *
    omega

end Sum

/-! ### Sums -/

namespace Poly

/-- The sum of two polynomials. -/
def add (left right : Poly) : Poly :=
  Sum.run (Sum.start left right [])

instance : Add Poly := ⟨add⟩

/-- Enters a term into a table, adding it to a term with the same exponent. -/
def collect (table : Table) (term : Monomial) : Table :=
  match table.find? term.exponent with
  | none => table.insert term
  | some current => table.insert ⟨term.exponent, current + term.coefficient⟩

/-- The sum of a list of monomials, in any order and with any repetitions. -/
def ofMonomials (monomials : List Monomial) : Poly :=
  ofTable (monomials.foldl collect [])

end Poly

end PolyIntake
