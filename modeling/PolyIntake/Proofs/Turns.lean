/-
This file proves what the parser of literals holds between two turns and that it
takes no more turns than there are characters to read.

Between two turns the parser stands behind a nest of sums under way, one inside
the other. Each of them was begun with a parenthesis, and may have finished
monomials with a plus sign behind each; the innermost one has its next monomial
opened. The text that was taken up can be cut into such sums in one way only, and
what the parser holds is the finished monomials of each of them, added up. So
there are as many open sums as parentheses that were opened and not closed.

A turn has a loop on the way down and a loop on the way up. Every pass of either
loop takes up a character at least, so all passes of all turns together are no
more than the characters behind the start, on a text that is refused as on one
that is accepted.
-/

import PolyIntake.Proofs.LexicalChecks

namespace PolyIntake

namespace Grammar

/-! ### Sums under way -/

/-- The text of a sum whose next monomial has its parenthesis open, with the trees of the finished
monomials in the order of the text. -/
inductive IsBegun : List Char → List Monomial → Prop
  | opening : IsBegun ['('] []
  | further {text : List Char} {monomials : List Monomial}
      (finished : IsSum .accepted text monomials) : IsBegun (text ++ ['+', '(']) monomials

/-- The text of sums under way one inside the other. The innermost stands last in the text and
first in the list. -/
inductive IsNest : List Char → List (List Monomial) → Prop
  | nil : IsNest [] []
  | cons {text text' : List Char} {monomials : List Monomial} {outer : List (List Monomial)}
      (around : IsNest text outer) (innermost : IsBegun text' monomials) :
      IsNest (text ++ text') (monomials :: outer)

/-- A literal and an exponent finish the monomial that a sum under way has open. -/
theorem IsBegun.close {text literal numeral : List Char} {monomials : List Monomial} {tree : Poly}
    {exponent : Int} (begun : IsBegun text monomials) (coefficient : IsPoly .accepted literal tree)
    (isExponent : Numerals.accepted.exponent numeral exponent) :
    IsSum .accepted (text ++ literal ++ (',' :: numeral ++ [')']))
      (monomials ++ [⟨exponent, tree⟩]) := by
  have last := IsMonomial.mk coefficient isExponent
  cases begun with
  | opening => simpa using IsSum.single last
  | further finished => simpa using finished.concat last

/-! ### The nest is settled by its text -/

/-- The tree that comes of sums under way around a literal if each is closed with exponent zero. -/
def closedAround : List (List Monomial) → Poly → Poly
  | [], tree => tree
  | monomials :: outer, tree => closedAround outer ⟨0, monomials ++ [⟨0, tree⟩]⟩

/-- What closes as many sums with exponent zero. -/
def closings : Nat → List Char
  | 0 => []
  | depth + 1 => ',' :: '0' :: ')' :: closings depth

theorem IsNest.isPoly_closedAround {text literal : List Char} {sums : List (List Monomial)}
    {tree : Poly} (nest : IsNest text sums) (derived : IsPoly .accepted literal tree) :
    IsPoly .accepted (text ++ literal ++ closings sums.length) (closedAround sums tree) := by
  induction nest generalizing literal tree with
  | nil => simpa [closings, closedAround] using derived
  | cons around innermost inductionHypothesis =>
    have zero : Numerals.accepted.exponent ['0'] 0 := ⟨isNumeral_zero false, by decide⟩
    have closed := inductionHypothesis (.sum (innermost.close derived zero))
    simpa [closings, closedAround] using closed

theorem closedAround_injective {sums sums' : List (List Monomial)} {tree tree' : Poly}
    (sameDepth : sums.length = sums'.length)
    (same : closedAround sums tree = closedAround sums' tree') : sums = sums' ∧ tree = tree' := by
  induction sums generalizing sums' tree tree' with
  | nil =>
    obtain rfl := List.length_eq_zero_iff.mp sameDepth.symm
    exact ⟨rfl, same⟩
  | cons monomials outer inductionHypothesis =>
    cases sums' with
    | nil => cases sameDepth
    | cons monomials' outer' =>
      obtain ⟨rfl, inner⟩ := inductionHypothesis (Nat.succ.inj sameDepth) same
      obtain ⟨rfl, last⟩ := List.append_inj' (Poly.mk.inj inner).2 rfl
      exact ⟨rfl, (Monomial.mk.inj (List.cons.inj last).1).2⟩

theorem IsBegun.count_paren {text : List Char} {monomials : List Monomial}
    (begun : IsBegun text monomials) : text.count '(' = text.count ')' + 1 := by
  cases begun with
  | opening => rfl
  | further finished =>
    have derived := IsPoly.sum (finished.widen accepted_isWithin_integers)
    have paired := Parser.balancedFrom_iff.mp (Parser.balanced_of_isPoly derived)
    have closed := paired.closed
    simp only [List.count_append]
    have opening : ['+', '('].count '(' = 1 := rfl
    have closing : ['+', '('].count ')' = 0 := rfl
    omega

/-- There are as many sums under way as parentheses that are not closed. -/
theorem IsNest.count_paren {text : List Char} {sums : List (List Monomial)}
    (nest : IsNest text sums) : text.count '(' = sums.length + text.count ')' := by
  induction nest with
  | nil => rfl
  | cons around innermost inductionHypothesis =>
    have inner := innermost.count_paren
    rw [List.count_append, List.count_append, List.length_cons]
    omega

/-- Closed with zeros, the text is a literal, and a literal has one tree only. -/
theorem IsNest.unique {text : List Char} {sums sums' : List (List Monomial)}
    (nest : IsNest text sums) (nest' : IsNest text sums') : sums' = sums := by
  have sameDepth : sums'.length = sums.length := by
    have count := nest.count_paren
    have count' := nest'.count_paren
    omega
  have zero : IsPoly .accepted ['0'] (.const 0) := .coefficient ⟨isNumeral_zero true, by decide⟩
  have closed := nest.isPoly_closedAround zero
  have closed' := nest'.isPoly_closedAround zero
  rw [sameDepth] at closed'
  have same := (closed'.widen accepted_isWithin_integers).unique
    (closed.widen accepted_isWithin_integers)
  exact (closedAround_injective sameDepth same).1

end Grammar

namespace Parser

open Grammar

/-! ### The loops, pass by pass -/

/-- A place in the loops of a turn: on the way down in front of a parenthesis or a coefficient, or
on the way up behind a finished polynomial. -/
inductive Moment where
  | descending (state : State)
  | ascending (openSums : List (List Monomial)) (poly : Poly) (cursor : Cursor)

/-- A pass on the way down: a parenthesis opens a sum, and a coefficient turns the way up. -/
def passDown (state : State) : Except SyntaxError Moment :=
  match state.cursor.peek with
  | none => .error ⟨state.cursor.position, .missing⟩
  | some '(' => .ok (.descending ⟨[] :: state.openSums, state.cursor.advance 1⟩)
  | some char =>
    if char.isDigit || char == '-' then
      match readCoefficient state.cursor with
      | .error refusal => .error refusal
      | .ok (value, next) => .ok (.ascending state.openSums (.const value) next)
    else .error ⟨state.cursor.position, .noOpening⟩

/-- A pass on the way up: a monomial is closed, and another one turns the way down. -/
def passUp (monomials : List Monomial) (outer : List (List Monomial)) (poly : Poly)
    (cursor : Cursor) : Except SyntaxError Moment :=
  match closeMonomial cursor with
  | .error refusal => .error refusal
  | .ok (exponent, next) =>
    match next.peek with
    | some '+' =>
      if (next.advance 1).peek == some '(' then
        .ok (.descending ⟨(⟨exponent, poly⟩ :: monomials) :: outer, next.advance 2⟩)
      else .error ⟨(next.advance 1).position, .noOpening⟩
    | none => .ok (.ascending outer (.ofMonomials (⟨exponent, poly⟩ :: monomials).reverse) next)
    | some ',' =>
      .ok (.ascending outer (.ofMonomials (⟨exponent, poly⟩ :: monomials).reverse) next)
    | some char => .error ⟨next.position, .unexpected char⟩

/-- What the loops come to within a number of passes, unless they take more. -/
def outcomeWithin : (passes : Nat) → Moment → Option (Except SyntaxError (Poly × Cursor))
  | 0, _ => none
  | passes + 1, .descending state =>
    match passDown state with
    | .error refusal => some (.error refusal)
    | .ok next => outcomeWithin passes next
  | _ + 1, .ascending [] poly cursor => some (.ok (poly, cursor))
  | passes + 1, .ascending (monomials :: outer) poly cursor =>
    match passUp monomials outer poly cursor with
    | .error refusal => some (.error refusal)
    | .ok next => outcomeWithin passes next

namespace Moment

/-- The place that the parser has reached. -/
def cursor : Moment → Cursor
  | .descending state => state.cursor
  | .ascending _ _ cursor => cursor

/-- What the parser comes to from a moment. -/
def outcome : Moment → Except SyntaxError (Poly × Cursor)
  | .descending state => run state
  | .ascending openSums poly cursor => resume openSums poly cursor

/-- One pass of a loop leads from a moment to the next. -/
inductive Passes : Moment → Moment → Prop
  | down {state : State} {next : Moment} (passed : passDown state = .ok next) :
      Passes (.descending state) next
  | up {monomials : List Monomial} {outer : List (List Monomial)} {poly : Poly} {cursor : Cursor}
      {next : Moment} (passed : passUp monomials outer poly cursor = .ok next) :
      Passes (.ascending (monomials :: outer) poly cursor) next

end Moment

/-! ### What a pass can do -/

theorem of_passDown {state : State} {next : Moment} (passed : passDown state = .ok next) :
    (state.cursor.peek = some '(' ∧
        next = .descending ⟨[] :: state.openSums, state.cursor.advance 1⟩) ∨
      ∃ value behind, readCoefficient state.cursor = .ok (value, behind) ∧
        next = .ascending state.openSums (.const value) behind := by
  unfold passDown at passed
  split at passed
  · cases passed
  case h_2 paren => exact .inl ⟨paren, (Except.ok.inj passed).symm⟩
  case h_3 =>
    split at passed
    · split at passed
      · cases passed
      case h_2 value behind read =>
        exact .inr ⟨value, behind, read, (Except.ok.inj passed).symm⟩
    · cases passed

theorem passUp_eq_ok_iff {monomials : List Monomial} {outer : List (List Monomial)} {poly : Poly}
    {cursor : Cursor} {next : Moment} :
    passUp monomials outer poly cursor = .ok next ↔
      ∃ exponent behind, closeMonomial cursor = .ok (exponent, behind) ∧
        ((behind.peek = some '+' ∧ (behind.advance 1).peek = some '(' ∧
            next = .descending ⟨(⟨exponent, poly⟩ :: monomials) :: outer, behind.advance 2⟩) ∨
          (endsPoly behind.peek = true ∧
            next = .ascending outer (.ofMonomials (⟨exponent, poly⟩ :: monomials).reverse)
              behind)) := by
  unfold passUp
  constructor
  · intro passed
    split at passed
    · cases passed
    case h_2 exponent behind closed =>
      refine ⟨exponent, behind, closed, ?_⟩
      split at passed
      case h_1 plus =>
        split at passed
        case isTrue paren => exact .inl ⟨plus, beq_iff_eq.mp paren, (Except.ok.inj passed).symm⟩
        case isFalse => cases passed
      case h_2 atEnd =>
        exact .inr ⟨endsPoly_iff.mpr (.inl atEnd), (Except.ok.inj passed).symm⟩
      case h_3 comma =>
        exact .inr ⟨endsPoly_iff.mpr (.inr comma), (Except.ok.inj passed).symm⟩
      case h_4 => cases passed
  · rintro ⟨exponent, behind, closed, ⟨plus, paren, rfl⟩ | ⟨ends, rfl⟩⟩
    · simp only [closed, plus]
      exact if_pos (beq_iff_eq.mpr paren)
    · rcases endsPoly_iff.mp ends with atEnd | comma
      · simp only [closed, atEnd]
      · simp only [closed, comma]

/-- A pass takes up characters. -/
theorem Moment.Passes.length_rest_lt {moment next : Moment} (passes : moment.Passes next) :
    next.cursor.rest.length < moment.cursor.rest.length := by
  cases passes with
  | @down state _ passed =>
    rcases of_passDown passed with ⟨paren, rfl⟩ | ⟨value, behind, read, rfl⟩
    · show (state.cursor.advance 1).rest.length < state.cursor.rest.length
      rw [(Cursor.spans_advance paren).rest]
      exact Nat.lt_succ_self _
    · exact length_rest_lt_of_readCoefficient read
  | up passed =>
    obtain ⟨exponent, behind, closed, ⟨_, _, rfl⟩ | ⟨_, rfl⟩⟩ := passUp_eq_ok_iff.mp passed
    · refine Nat.lt_of_le_of_lt ?_ (length_rest_lt_of_closeMonomial closed)
      rw [Moment.cursor, Cursor.advance, List.length_drop]
      exact Nat.sub_le _ _
    · exact length_rest_lt_of_closeMonomial closed

/-! ### The passes make up the turns -/

theorem run_eq_passDown (state : State) :
    run state =
      match passDown state with
      | .error refusal => .error refusal
      | .ok next => next.outcome := by
  obtain ⟨openSums, rest, position⟩ := state
  cases rest with
  | nil => exact run_nil openSums position
  | cons char rest =>
    by_cases paren : char = '('
    · subst paren
      exact run_paren openSums rest position
    · rw [run_of_ne_paren openSums paren]
      simp only [passDown, Cursor.peek, List.head?_cons]
      split
      · cases readCoefficient ⟨char :: rest, position⟩ <;> rfl
      · rfl

theorem resume_eq_passUp (monomials : List Monomial) (outer : List (List Monomial)) (poly : Poly)
    (cursor : Cursor) :
    resume (monomials :: outer) poly cursor =
      match passUp monomials outer poly cursor with
      | .error refusal => .error refusal
      | .ok next => next.outcome := by
  rw [resume_cons]
  unfold passUp
  cases closeMonomial cursor with
  | error refusal => rfl
  | ok closed =>
    obtain ⟨exponent, next⟩ := closed
    dsimp only
    generalize next.peek = follow
    split
    · split <;> rfl
    · rfl
    · rfl
    · simp only

/-- With more passes than characters that are left, the loops come to their end, and to what the
parser comes to. -/
theorem outcomeWithin_eq {moment : Moment} {passes : Nat}
    (enough : moment.cursor.rest.length < passes) :
    outcomeWithin passes moment = some moment.outcome := by
  induction passes generalizing moment with
  | zero => exact absurd enough (Nat.not_lt_zero _)
  | succ passes inductionHypothesis =>
    have further {next : Moment} (step : moment.Passes next) :
        outcomeWithin passes next = some next.outcome :=
      inductionHypothesis (Nat.lt_of_lt_of_le step.length_rest_lt (Nat.le_of_lt_succ enough))
    match moment with
    | .descending state =>
      rw [outcomeWithin, Moment.outcome, run_eq_passDown]
      cases passed : passDown state with
      | error refusal => rfl
      | ok next => exact further (.down passed)
    | .ascending [] poly cursor => rw [outcomeWithin, Moment.outcome, resume_nil]
    | .ascending (monomials :: outer) poly cursor =>
      rw [outcomeWithin, Moment.outcome, resume_eq_passUp]
      cases passed : passUp monomials outer poly cursor with
      | error refusal => rfl
      | ok next => exact further (.up passed)

/-- A turn leads to a moment: the next turn begins, or all sums are closed. -/
def Turn.moment : Turn → Moment
  | .finished poly cursor => .ascending [] poly cursor
  | .further state => .descending state

/-- Several passes lead from a moment to another. -/
abbrev Moment.Leads : Moment → Moment → Prop :=
  Relation.ReflTransGen Moment.Passes

theorem leads_descend (state : State) : Moment.Leads (.descending state)
    (.descending (descend state)) := by
  obtain ⟨openSums, rest, position⟩ := state
  induction rest generalizing openSums position with
  | nil => exact .refl
  | cons char rest inductionHypothesis =>
    by_cases paren : char = '('
    · subst paren
      rw [descend_paren]
      exact .head (.down rfl) (inductionHypothesis _ _)
    · rw [descend_of_ne_paren openSums paren]

theorem leads_ascend {openSums : List (List Monomial)} {poly : Poly} {cursor : Cursor}
    {ended : Turn} (ascended : ascend openSums poly cursor = .ok ended) :
    Moment.Leads (.ascending openSums poly cursor) ended.moment := by
  fun_induction ascend openSums poly cursor with
  | case1 poly cursor =>
    cases ascended
    exact .refl
  | case2 => cases ascended
  | case3 poly cursor monomials outer exponent next closed plus opening paren =>
    cases ascended
    rw [Turn.moment, Cursor.advance_advance]
    exact .single (.up (passUp_eq_ok_iff.mpr ⟨exponent, next, closed,
      .inl ⟨plus, beq_iff_eq.mp paren, rfl⟩⟩))
  | case4 => cases ascended
  | case5 poly cursor monomials outer exponent next closed atEnd inductionHypothesis =>
    exact .head (.up (passUp_eq_ok_iff.mpr ⟨exponent, next, closed,
      .inr ⟨endsPoly_iff.mpr (.inl atEnd), rfl⟩⟩)) (inductionHypothesis ascended)
  | case6 poly cursor monomials outer exponent next closed comma inductionHypothesis =>
    exact .head (.up (passUp_eq_ok_iff.mpr ⟨exponent, next, closed,
      .inr ⟨endsPoly_iff.mpr (.inr comma), rfl⟩⟩)) (inductionHypothesis ascended)
  | case7 => cases ascended

/-- A turn is made up of passes. -/
theorem leads_turn {state : State} {ended : Turn} (taken : turn state = .ok ended) :
    Moment.Leads (.descending state) ended.moment := by
  refine (leads_descend state).trans ?_
  unfold turn at taken
  generalize descend state = bottom at taken ⊢
  obtain ⟨openSums, cursor⟩ := bottom
  dsimp only at taken
  split at taken
  · cases taken
  case h_2 char head =>
    split at taken
    case isTrue starts =>
      split at taken
      · cases taken
      case h_2 value behind read =>
        refine .head (.down ?_) (leads_ascend taken)
        have notParen : char ≠ '(' := by
          rintro rfl
          exact absurd starts (by decide)
        unfold passDown
        dsimp only
        rw [head]
        simp only [starts, read, if_true]
    case isFalse => cases taken

/-! ### What is held between two passes -/

/-- What the parser holds of sums under way: their finished monomials, added up, latest first. -/
def held (sums : List (List Monomial)) : List (List Monomial) :=
  sums.map fun monomials => (Monomial.normalizedAll monomials).reverse

/-- Behind the start stand sums under way, which the parser holds. On the way up a literal stands
behind them, which the parser holds as well. -/
def Holds (start : Cursor) : Moment → Prop
  | .descending state => ∃ text sums, start.Spans text state.cursor ∧ IsNest text sums ∧
      state.openSums = held sums
  | .ascending openSums poly cursor => ∃ text literal sums tree,
      start.Spans (text ++ literal) cursor ∧ IsNest text sums ∧ IsPoly .accepted literal tree ∧
        openSums = held sums ∧ poly = tree.normalized

theorem Holds.passes {start : Cursor} {moment next : Moment} (holds : Holds start moment)
    (passes : moment.Passes next) : Holds start next := by
  cases passes with
  | down passed =>
    obtain ⟨text, sums, spans, nest, openSums⟩ := holds
    rcases of_passDown passed with ⟨paren, rfl⟩ | ⟨value, behind, read, rfl⟩
    · refine ⟨text ++ ['('], [] :: sums, spans.append (Cursor.spans_advance paren),
        .cons nest .opening, congrArg ([] :: ·) openSums⟩
    · obtain ⟨literal, behind, numeral, _⟩ := readCoefficient_eq_ok_iff.mp read
      exact ⟨text, literal, sums, .const value, spans.append behind, nest, .coefficient numeral,
        openSums, rfl⟩
  | up passed =>
    obtain ⟨text, literal, sums, tree, spans, nest, derived, openSums, rfl⟩ := holds
    obtain ⟨exponent, behind, closed, follow⟩ := passUp_eq_ok_iff.mp passed
    obtain ⟨numeral, closing, isExponent⟩ := closeMonomial_eq_ok_iff.mp closed
    cases nest with
    | nil => cases openSums
    | @cons around innermost finished outer nest begun =>
      obtain ⟨rfl, rfl⟩ := List.cons.inj openSums
      have sum := begun.close derived isExponent
      have whole := spans.append closing
      have added : ⟨exponent, tree.normalized⟩ :: (Monomial.normalizedAll finished).reverse =
          (Monomial.normalizedAll (finished ++ [⟨exponent, tree⟩])).reverse := by
        rw [Monomial.normalizedAll_append, List.reverse_append]
        rfl
      rcases follow with ⟨plus, paren, rfl⟩ | ⟨ends, rfl⟩
      · have joint := (Cursor.spans_advance plus).append (Cursor.spans_advance paren)
        rw [Cursor.advance_advance] at joint
        refine ⟨_, _ :: outer, ?_, .cons nest (.further sum), ?_⟩
        · have further := whole.append joint
          simpa using further
        · rw [added]
          rfl
      · refine ⟨around, _, outer, _, ?_, nest, .sum sum, rfl, ?_⟩
        · simpa using whole
        · rw [added, List.reverse_reverse, Poly.normalized_of_ne_nil sum.ne_nil]

theorem Holds.leads {start : Cursor} {moment later : Moment} (holds : Holds start moment)
    (leads : moment.Leads later) : Holds start later := by
  induction leads with
  | refl => exact holds
  | tail _ passes inductionHypothesis => exact inductionHypothesis.passes passes

theorem holds_start (start : Cursor) : Holds start (.descending ⟨[], start⟩) :=
  ⟨[], [], ⟨rfl, rfl⟩, .nil, rfl⟩

/-! ### The heads of the turns -/

/-- The state in front of the next turn when as many turns were taken, unless the parser has ended
by then. -/
def stateAfter (start : State) : (turns : Nat) → Option State
  | 0 => some start
  | turns + 1 => (stateAfter start turns).bind fun state =>
    match turn state with
    | .ok (.further next) => some next
    | _ => none

/-- A state in front of a turn on a line, where the parser started at a position. What it took up
is a nest of sums under way, which is settled by the text, and its open sums hold the finished
monomials of each, added up. They are in the order of the text when each is read from its end. -/
structure IsHead (text : List Char) (start : Nat) (head : State) : Prop where
  ordered : start ≤ head.cursor.position
  inside : head.cursor.position ≤ text.length
  place : head.cursor = .ofText text head.cursor.position
  depth : (text.extract start head.cursor.position).count '(' =
    head.openSums.length + (text.extract start head.cursor.position).count ')'
  holds : ∃ sums, IsNest (text.extract start head.cursor.position) sums ∧
    (∀ sums', IsNest (text.extract start head.cursor.position) sums' → sums' = sums) ∧
      head.openSums.map List.reverse = sums.map Monomial.normalizedAll
  canonical : ∀ monomials ∈ head.openSums, ∀ monomial ∈ monomials,
    monomial.coefficient.IsCanonical

theorem isCanonical_of_mem_held {sums : List (List Monomial)} {monomials : List Monomial}
    (inSums : monomials ∈ held sums) {monomial : Monomial} (inMonomials : monomial ∈ monomials) :
    monomial.coefficient.IsCanonical := by
  obtain ⟨finished, _, rfl⟩ := List.mem_map.mp inSums
  obtain ⟨original, _, rfl⟩ :=
    Monomial.exists_of_mem_normalizedAll (List.mem_reverse.mp inMonomials)
  exact Poly.isCanonical_normalized original.coefficient

theorem isHead_of_holds {text : List Char} {start : Nat} (inside : start ≤ text.length)
    {head : State} (holds : Holds (.ofText text start) (.descending head)) :
    IsHead text start head := by
  obtain ⟨consumed, sums, spans, nest, openSums⟩ := holds
  have position : head.cursor.position = start + consumed.length := spans.position
  obtain ⟨within, part, rest⟩ := extract_of_drop_eq_append_of_le inside spans.rest
  rw [← position] at within part rest
  refine ⟨by omega, within, ?_, ?_, ⟨sums, ?_, ?_, ?_⟩, ?_⟩
  · rw [Cursor.ofText, rest]
  · rw [part, nest.count_paren, openSums, held, List.length_map]
  · exact part ▸ nest
  · rw [part]
    exact fun _ => nest.unique
  · rw [openSums, held, List.map_map]
    exact List.map_congr_left fun _ _ => List.reverse_reverse _
  · rw [openSums]
    exact fun _ inSums _ => isCanonical_of_mem_held inSums

theorem stateAfter_succ {start next : State} {turns : Nat} :
    stateAfter start (turns + 1) = some next ↔
      ∃ state, stateAfter start turns = some state ∧ turn state = .ok (.further next) := by
  rw [stateAfter, Option.bind_eq_some_iff]
  refine exists_congr fun state => and_congr_right fun _ => ?_
  cases turn state with
  | error refusal => simp
  | ok ended => cases ended <;> simp

/-- What comes after a turn comes one turn later. -/
theorem stateAfter_of_turn {start next : State} (taken : turn start = .ok (.further next))
    (turns : Nat) : stateAfter start (turns + 1) = stateAfter next turns := by
  induction turns with
  | zero => exact stateAfter_succ.mpr ⟨start, rfl, taken⟩
  | succ turns inductionHypothesis => rw [stateAfter, inductionHypothesis, stateAfter]

theorem leads_of_stateAfter {start head : State} {turns : Nat}
    (after : stateAfter start turns = some head) :
    Moment.Leads (.descending start) (.descending head) := by
  induction turns generalizing head with
  | zero =>
    cases after
    exact .refl
  | succ turns inductionHypothesis =>
    obtain ⟨state, before, taken⟩ := stateAfter_succ.mp after
    exact (inductionHypothesis before).trans (leads_turn taken)

/-- Every turn takes up characters, so there is less left than that many turns less. -/
theorem length_rest_of_stateAfter {start head : State} {turns : Nat}
    (after : stateAfter start turns = some head) :
    turns + head.cursor.rest.length ≤ start.cursor.rest.length := by
  induction turns generalizing head with
  | zero =>
    cases after
    omega
  | succ turns inductionHypothesis =>
    obtain ⟨state, before, taken⟩ := stateAfter_succ.mp after
    have earlier := inductionHypothesis before
    have progress := length_rest_lt_of_turn taken
    omega

/-- A run ends with a turn that is the last. -/
theorem exists_last (start : State) :
    ∃ turns last, stateAfter start turns = some last ∧
      (∀ next, turn last ≠ .ok (.further next)) ∧ run start = proceed (turn last) := by
  fun_induction run start with
  | case1 state refusal taken =>
    refine ⟨0, state, rfl, ?_, by rw [taken, proceed]⟩
    rw [taken]
    rintro next ⟨⟩
  | case2 state poly cursor taken =>
    refine ⟨0, state, rfl, ?_, by rw [taken, proceed]⟩
    rw [taken]
    rintro next ⟨⟩
  | case3 state next taken inductionHypothesis =>
    obtain ⟨turns, last, after, isLast, outcome⟩ := inductionHypothesis
    exact ⟨turns + 1, last, (stateAfter_of_turn taken turns).trans after, isLast, outcome⟩

/-- Whatever stands on a line and wherever the parser starts: in front of every turn it stands
behind as many open sums as parentheses that are not closed and holds the finished monomials of
each, and every turn leads further into the line. It takes no more turns than there are characters
behind the start and one, and no more passes of both loops of all its turns together, whether the
line is accepted or refused in the end. -/
theorem turns_spec (text : List Char) (start : Nat) (inside : start ≤ text.length) :
    (∀ turns head, stateAfter ⟨[], .ofText text start⟩ turns = some head →
      IsHead text start head ∧ start + turns ≤ head.cursor.position ∧
        ∀ next, turn head = .ok (.further next) → head.cursor.position < next.cursor.position) ∧
    (∃ turns last, stateAfter ⟨[], .ofText text start⟩ turns = some last ∧
      (∀ next, turn last ≠ .ok (.further next)) ∧ turns + 1 ≤ text.length - start + 1 ∧
        parseAt (.ofText text start) = proceed (turn last)) ∧
    outcomeWithin (text.length - start + 1) (.descending ⟨[], .ofText text start⟩) =
      some (parseAt (.ofText text start)) := by
  have left : (Cursor.ofText text start).rest.length = text.length - start := List.length_drop
  have isHead {turns : Nat} {head : State}
      (after : stateAfter ⟨[], .ofText text start⟩ turns = some head) : IsHead text start head :=
    isHead_of_holds inside ((holds_start _).leads (leads_of_stateAfter after))
  have remaining {turns : Nat} {head : State}
      (after : stateAfter ⟨[], .ofText text start⟩ turns = some head) :
      head.cursor.rest.length = text.length - head.cursor.position := by
    rw [(isHead after).place, Cursor.ofText, List.length_drop]
  refine ⟨fun turns head after => ⟨isHead after, ?_, fun next taken => ?_⟩, ?_, ?_⟩
  · have further := length_rest_of_stateAfter after
    have within := (isHead after).inside
    rw [left, remaining after] at further
    omega
  · have progress := length_rest_lt_of_turn taken
    have later := stateAfter_succ.mpr ⟨head, after, taken⟩
    have within := (isHead later).inside
    rw [remaining after, remaining later] at progress
    omega
  · obtain ⟨turns, last, after, isLast, outcome⟩ := exists_last ⟨[], .ofText text start⟩
    have further := length_rest_of_stateAfter after
    rw [left] at further
    exact ⟨turns, last, after, isLast, by omega, outcome⟩
  · refine outcomeWithin_eq ?_
    rw [Moment.cursor, left]
    exact Nat.lt_succ_self _

/-- A line with a character in front and without an end: behind the first turn one monomial of the
inner sum is finished and none of the outer, and the second turn meets no parenthesis. -/
theorem turns_spec_unfinished :
    1 ≤ "x((1,2)+(3,0)+".toList.length ∧
      IsHead "x((1,2)+(3,0)+".toList 1
        ⟨[[⟨2, .const 1⟩], []], .ofText "x((1,2)+(3,0)+".toList 9⟩ ∧
      parseAt (.ofText "x((1,2)+(3,0)+".toList 1) = .error ⟨14, .noOpening⟩ := by
  have inside : 1 ≤ "x((1,2)+(3,0)+".toList.length := by decide
  obtain ⟨heads, _, ends⟩ := turns_spec "x((1,2)+(3,0)+".toList 1 inside
  have second : stateAfter ⟨[], .ofText "x((1,2)+(3,0)+".toList 1⟩ 1 =
      some ⟨[[⟨2, .const 1⟩], []], .ofText "x((1,2)+(3,0)+".toList 9⟩ := rfl
  have refused : outcomeWithin 14 (.descending ⟨[], .ofText "x((1,2)+(3,0)+".toList 1⟩) =
      some (.error ⟨14, .noOpening⟩) := rfl
  exact ⟨inside, (heads 1 _ second).1, Option.some.inj (ends.symm.trans refused)⟩

end Parser

end PolyIntake
