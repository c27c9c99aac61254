/-
This file proves that the two checks in front of the parser change no verdict.
The first looks for a character that no literal holds, the second counts
parentheses, and both are described here without a scan: no character is
illegal, no part of the line from its beginning closes more than it opens, and
as many are closed as are opened.

Whatever the parser takes up, at any position of a line, passes both, since it
is derived by the grammar. So a line that the parser takes up to its end is
accepted, and the checks only decide what is reported about the others: the
first illegal character before all else, and next the parentheses.
-/

import PolyIntake.Proofs.Parsing

namespace PolyIntake

namespace Parser

open Grammar

/-! ### Illegal characters -/

/-- The line is refused for the first of its characters that no literal holds. -/
theorem illegalFrom_append {before : List Char} (legal : ∀ char ∈ before, isLegal char = true)
    {char : Char} (illegal : isLegal char = false) (behind : List Char) (position : Nat) :
    illegalFrom position (before ++ char :: behind) = some (position + before.length, char) := by
  induction before generalizing position with
  | nil =>
    rw [List.nil_append, illegalFrom, illegal]
    rfl
  | cons head tail inductionHypothesis =>
    rw [List.cons_append, illegalFrom, if_pos (legal head List.mem_cons_self),
      inductionHypothesis (fun other member => legal other (List.mem_cons_of_mem _ member)),
      List.length_cons, Nat.add_assoc, Nat.add_comm 1]

/-! ### Parentheses -/

/-- With some parentheses open in front, no part of the text from its beginning closes one that is
not open, and in the end all are closed. -/
structure PairsFrom (depth : Nat) (text : List Char) : Prop where
  opened : ∀ length, (text.take length).count ')' ≤ depth + (text.take length).count '('
  closed : text.count ')' = depth + text.count '('

theorem pairsFrom_nil {depth : Nat} : PairsFrom depth [] ↔ depth = 0 :=
  ⟨fun pairs => pairs.closed.symm, fun none => ⟨fun length => by simp, none.symm⟩⟩

/-- The first character of a text takes the depth to what is open behind it. -/
theorem pairsFrom_cons {depth depth' : Nat} {char : Char} {rest : List Char}
    (step : depth' + [char].count ')' = depth + [char].count '(') :
    PairsFrom depth (char :: rest) ↔ PairsFrom depth' rest := by
  have split (part : List Char) (paren : Char) :
      (char :: part).count paren = [char].count paren + part.count paren := by
    rw [← List.count_append, List.singleton_append]
  constructor
  · rintro ⟨opened, closed⟩
    rw [split rest ')', split rest '('] at closed
    refine ⟨fun length => ?_, by omega⟩
    have longer := opened (length + 1)
    rw [List.take_succ_cons, split _ ')', split _ '('] at longer
    omega
  · rintro ⟨opened, closed⟩
    refine ⟨fun length => ?_, by rw [split rest ')', split rest '(']; omega⟩
    cases length with
    | zero => exact Nat.zero_le _
    | succ length =>
      have shorter := opened length
      rw [List.take_succ_cons, split _ ')', split _ '(']
      omega

theorem not_pairsFrom_closing {rest : List Char} : ¬ PairsFrom 0 (')' :: rest) := by
  intro pairs
  have none : 1 ≤ 0 := pairs.opened 1
  omega

/-- Counting the open parentheses finds out whether they pair up. -/
theorem balancedFrom_iff {depth : Nat} {text : List Char} :
    balancedFrom depth text = true ↔ PairsFrom depth text := by
  fun_induction balancedFrom depth text with
  | case1 depth => rw [pairsFrom_nil, beq_iff_eq]
  | case2 depth rest inductionHypothesis =>
    rw [inductionHypothesis]
    exact (pairsFrom_cons rfl).symm
  | case3 rest => exact iff_of_false Bool.false_ne_true not_pairsFrom_closing
  | case4 rest depth inductionHypothesis =>
    rw [inductionHypothesis]
    exact (pairsFrom_cons rfl).symm
  | case5 depth char rest notOpening notClosing inductionHypothesis =>
    rw [inductionHypothesis]
    refine (pairsFrom_cons ?_).symm
    have opening : char ≠ '(' := notOpening
    have closing : char ≠ ')' := notClosing
    rw [List.count_singleton, List.count_singleton]
    simp [opening, closing]

/-! ### What the parser takes up -/

/-- What the parser takes up would pass both checks. -/
theorem passes_of_parseAt {text : List Char} {start : Nat} {poly : Poly} {next : Cursor}
    (accepted : parseAt (.ofText text start) = .ok (poly, next)) :
    (∀ char ∈ text.extract start next.position, isLegal char = true) ∧
      PairsFrom 0 (text.extract start next.position) := by
  rw [parseAt_eq_descent] at accepted
  obtain ⟨literal, tree, spans, derived, ends, _⟩ := descent_eq_ok_iff.mp accepted
  obtain ⟨_, lies⟩ := liesBetween_of_spans spans derived ends
  obtain ⟨tree', derived'⟩ := lies.derived
  have written := derived'.widen accepted_isWithin_integers
  exact ⟨fun _ member => written.isLegal_of_mem member,
    balancedFrom_iff.mp (balanced_of_isPoly written)⟩

/-- Without the checks, a line is accepted when the parser takes it up to its end. -/
theorem parse_eq_ok_iff_parseAt {text : List Char} {poly : Poly} :
    Poly.parse text = .ok poly ↔
      parseAt (.ofText text 0) = .ok (poly, .ofText text text.length) := by
  rw [Poly.parse_eq_ok_iff, parseAt_eq_descent, descent_eq_ok_iff]
  constructor
  · rintro ⟨tree, derived, value⟩
    refine ⟨text, tree, ⟨?_, (Nat.zero_add _).symm⟩, derived, ?_, value⟩
    · show text = text ++ text.drop text.length
      rw [List.drop_length, List.append_nil]
    · rw [peek_ofText, List.getElem?_length]
      rfl
  · rintro ⟨literal, tree, spans, derived, _, value⟩
    have whole : text = literal ++ text.drop text.length := spans.rest
    rw [List.drop_length, List.append_nil] at whole
    exact ⟨tree, whole ▸ derived, value⟩

/-- The checks in front of the parser decide what is reported and not what is accepted. A line is
accepted with the value that the parser returns at its end, and whatever the parser takes up, at
any position, is made of legal characters and of parentheses that pair up. A line with an illegal
character is refused for the first of them, and a line without one for its parentheses if these do
not pair up, whatever the parser would say. -/
theorem checks_spec (text : List Char) :
    (∀ poly, Poly.parse text = .ok poly ↔
      parseAt (.ofText text 0) = .ok (poly, .ofText text text.length)) ∧
    (∀ start poly next, parseAt (.ofText text start) = .ok (poly, next) →
      (∀ char ∈ text.extract start next.position, isLegal char = true) ∧
        PairsFrom 0 (text.extract start next.position)) ∧
    (∀ before char behind, text = before ++ char :: behind →
      (∀ other ∈ before, isLegal other = true) → isLegal char = false →
        Poly.parse text = .error ⟨before.length, .illegal char⟩) ∧
    ((∀ char ∈ text, isLegal char = true) → ¬ PairsFrom 0 text →
      Poly.parse text = .error ⟨0, .unbalanced⟩) := by
  refine ⟨fun _ => parse_eq_ok_iff_parseAt, fun _ _ _ => passes_of_parseAt, ?_, ?_⟩
  · rintro before char behind rfl legal illegal
    have found : illegal? (before ++ char :: behind) = some (before.length, char) := by
      rw [illegal?, illegalFrom_append legal illegal, Nat.zero_add]
    rw [Poly.parse, found]
  · intro legal notPaired
    have passed : illegal? text = none := illegalFrom_eq_none legal 0
    rw [Poly.parse, passed]
    exact if_neg fun paired => notPaired (balancedFrom_iff.mp paired)

/-- Characters around a literal do not matter to the parser, while a line is refused for a blank
or for its parentheses although the parser would blame the plus sign in front. -/
theorem checks_spec_around :
    (parseAt (.ofText "x1,y".toList 1) = .ok (.const 1, .ofText "x1,y".toList 2) ∧
      (∀ char ∈ "x1,y".toList.extract 1 2, isLegal char = true) ∧
        PairsFrom 0 ("x1,y".toList.extract 1 2)) ∧
    Poly.parse "+1 )".toList = .error ⟨2, .illegal ' '⟩ ∧
      Poly.parse "+(1".toList = .error ⟨0, .unbalanced⟩ := by
  have accepted : parseAt (.ofText "x1,y".toList 1) = .ok (.const 1, .ofText "x1,y".toList 2) := by
    rw [parseAt_eq_descent]
    exact @descent_of_ne_paren '1' (by decide) ",y".toList 1
  refine ⟨⟨accepted, (checks_spec _).2.1 _ _ _ accepted⟩, ?_, ?_⟩
  · exact (checks_spec _).2.2.1 "+1".toList ' ' ")".toList rfl (List.all_eq_true.mp (by decide))
      (by decide)
  · exact (checks_spec _).2.2.2 (List.all_eq_true.mp (by decide)) fun pairs =>
      absurd pairs.closed (by decide)

end Parser

end PolyIntake
