/-
This file proves that the parser of literals sees no more of a line than it has
to. What lies in front of its place it does not see at all: in a line with more
characters in front, everything that it returns or refuses is the same, with its
position moved along. And behind the literal that it takes up it sees one
character and nothing further, so a comma there is as good as the rest of the
line that was there before.

The first half goes through every part of the parser, from the numbers up to the
turns, because each of them reports positions of its own. The second half is a
matter of the grammar: the text that was taken up is the same literal wherever
it stands in front of a comma.
-/

import PolyIntake.Proofs.Parsing

namespace PolyIntake

/-! ### Places in a longer line -/

/-- The same place when there are that many more characters in front of the line. -/
def Cursor.shift (cursor : Cursor) (count : Nat) : Cursor :=
  ⟨cursor.rest, count + cursor.position⟩

/-- The same refusal when there are that many more characters in front of the line. -/
def Refusal.shift {Cause : Type} (refusal : Refusal Cause) (count : Nat) : Refusal Cause :=
  ⟨count + refusal.position, refusal.cause⟩

@[simp] theorem Cursor.shift_rest (cursor : Cursor) (count : Nat) :
    (cursor.shift count).rest = cursor.rest := rfl

@[simp] theorem Cursor.peek_shift (cursor : Cursor) (count : Nat) :
    (cursor.shift count).peek = cursor.peek := rfl

@[simp] theorem Cursor.advance_shift (cursor : Cursor) (count further : Nat) :
    (cursor.shift count).advance further = (cursor.advance further).shift count := by
  unfold advance shift
  rw [Nat.add_assoc]

theorem Cursor.shift_ofText (before text : List Char) (position : Nat) :
    (ofText text position).shift before.length =
      ofText (before ++ text) (before.length + position) := by
  unfold ofText shift
  rw [List.drop_length_add_append]

/-- An outcome with its positions moved along: the refusal's own, and those within a result. -/
def shifted {Cause Result : Type} (count : Nat) (move : Result → Result) :
    Except (Refusal Cause) Result → Except (Refusal Cause) Result
  | .ok result => .ok (move result)
  | .error refusal => .error (refusal.shift count)

/-- A value that was read, with the place behind it moved along. -/
def shiftNext {Value : Type} (count : Nat) (result : Value × Cursor) : Value × Cursor :=
  (result.1, result.2.shift count)

/-- Lines that are the same up to a position are so between any two positions up to there. -/
theorem extract_of_take_eq {text text' : List Char} {stop : Nat}
    (same : text'.take stop = text.take stop) (start : Nat) :
    text'.extract start stop = text.extract start stop := by
  show (text'.drop start).take (stop - start) = (text.drop start).take (stop - start)
  rw [← List.drop_take, ← List.drop_take, same]

/-! ### Numbers -/

namespace Integer

theorem readSign_shift (kind : Kind) (cursor : Cursor) (count : Nat) :
    readSign kind (cursor.shift count) = shiftNext count (readSign kind cursor) := by
  unfold readSign
  rw [Cursor.peek_shift, Cursor.advance_shift]
  split <;> rfl

theorem read_shift (kind : Kind) (terminates : Option Char → Bool) (cursor : Cursor)
    (count : Nat) :
    read kind terminates (cursor.shift count) =
      shifted count (shiftNext count) (read kind terminates cursor) := by
  unfold read
  rw [readSign_shift]
  obtain ⟨negative, body⟩ := readSign kind cursor
  simp only [shiftNext, Cursor.shift_rest, Cursor.advance_shift, Cursor.peek_shift]
  split
  · rfl
  · split
    · rfl
    · split <;> rfl

end Integer

namespace Parser

open Grammar

theorem readCoefficient_shift (cursor : Cursor) (count : Nat) :
    readCoefficient (cursor.shift count) =
      shifted count (shiftNext count) (readCoefficient cursor) := by
  unfold readCoefficient
  rw [Integer.read_shift]
  cases Integer.read .signed64 endsPoly cursor <;> rfl

theorem closeMonomial_shift (cursor : Cursor) (count : Nat) :
    closeMonomial (cursor.shift count) =
      shifted count (shiftNext count) (closeMonomial cursor) := by
  unfold closeMonomial
  rw [Cursor.peek_shift, Cursor.advance_shift, Integer.read_shift]
  split
  · cases Integer.read .unsigned31 endsExponent (cursor.advance 1) with
    | error refusal => rfl
    | ok result =>
      obtain ⟨exponent, next⟩ := result
      dsimp only [shifted, shiftNext]
      rw [Cursor.advance_shift]
  · rfl

/-! ### Turns and runs -/

/-- The same state when there are that many more characters in front of the line. -/
def State.shift (state : State) (count : Nat) : State :=
  ⟨state.openSums, state.cursor.shift count⟩

/-- The same outcome of a turn when there are that many more characters in front of the line. -/
def Turn.shift (count : Nat) : Turn → Turn
  | .finished poly cursor => .finished poly (cursor.shift count)
  | .further state => .further (state.shift count)

theorem descend_shift (state : State) (count : Nat) :
    descend (state.shift count) = (descend state).shift count := by
  unfold descend State.shift
  simp only [Cursor.shift_rest, Cursor.advance_shift]

theorem ascend_shift (openSums : List (List Monomial)) (poly : Poly) (cursor : Cursor)
    (count : Nat) :
    ascend openSums poly (cursor.shift count) =
      shifted count (Turn.shift count) (ascend openSums poly cursor) := by
  induction openSums generalizing poly cursor with
  | nil => rfl
  | cons monomials outer inductionHypothesis =>
    rw [ascend, ascend, closeMonomial_shift]
    cases closeMonomial cursor with
    | error refusal => rfl
    | ok result =>
      obtain ⟨exponent, next⟩ := result
      dsimp only [shifted, shiftNext]
      rw [Cursor.peek_shift, Cursor.advance_shift, Cursor.peek_shift, Cursor.advance_shift]
      split
      · split <;> rfl
      · exact inductionHypothesis _ next
      · exact inductionHypothesis _ next
      · rfl

/-- A turn does not see what lies in front of it. -/
theorem turn_shift (state : State) (count : Nat) :
    turn (state.shift count) = shifted count (Turn.shift count) (turn state) := by
  unfold turn
  rw [descend_shift]
  obtain ⟨openSums, cursor⟩ := descend state
  dsimp only [State.shift]
  rw [Cursor.peek_shift, readCoefficient_shift]
  cases cursor.peek with
  | none => rfl
  | some char =>
    dsimp only
    split
    · cases readCoefficient cursor with
      | error refusal => rfl
      | ok result =>
        obtain ⟨value, next⟩ := result
        exact ascend_shift openSums (.const value) next count
    · rfl

/-- A run does not see what lies in front of it, since none of its turns does. -/
theorem run_shift (state : State) (count : Nat) :
    run (state.shift count) = shifted count (shiftNext count) (run state) := by
  rw [run_eq, turn_shift]
  fun_induction run state with
  | case1 state refusal taken => rw [taken]; rfl
  | case2 state poly cursor taken => rw [taken]; rfl
  | case3 state next taken inductionHypothesis =>
    rw [taken, ← inductionHypothesis, ← turn_shift, ← run_eq]
    rfl

theorem parseAt_shift (cursor : Cursor) (count : Nat) :
    parseAt (cursor.shift count) = shifted count (shiftNext count) (parseAt cursor) :=
  run_shift ⟨[], cursor⟩ count

theorem parseAt_ofText_position {text : List Char} {start : Nat} {poly : Poly} {next : Cursor}
    (accepted : parseAt (.ofText text start) = .ok (poly, next)) :
    next = .ofText text next.position := by
  rw [parseAt_eq_descent] at accepted
  obtain ⟨literal, tree, spans, derived, ends, _⟩ := descent_eq_ok_iff.mp accepted
  exact (liesBetween_of_spans spans derived ends).1

/-! ### A comma behind the literal -/

/-- What was taken up in one line is taken up in every line that has the same characters up to
there and a comma behind them. -/
theorem parseAt_of_comma {text text' : List Char} {start stop : Nat} {poly : Poly}
    (accepted : parseAt (.ofText text start) = .ok (poly, .ofText text stop))
    (same : text'.take stop = text.take stop) (comma : text'[stop]? = some ',') :
    parseAt (.ofText text' start) = .ok (poly, .ofText text' stop) := by
  rw [parseAt_eq_descent] at accepted ⊢
  obtain ⟨literal, tree, spans, derived, ends, value⟩ := descent_eq_ok_iff.mp accepted
  have length : stop = start + literal.length := spans.position
  have ordered : start ≤ stop := by omega
  have part : text.extract start stop = literal :=
    List.append_cancel_right ((drop_eq_extract_append ordered).symm.trans spans.rest)
  refine descent_eq_ok_iff.mpr ⟨literal, tree, ⟨?_, length⟩, derived, ?_, value⟩
  · rw [← part, ← extract_of_take_eq same]
    exact drop_eq_extract_append ordered
  · rw [peek_ofText, comma]
    rfl

/-! ### Locality -/

/-- At a position of a line with more characters in front, the parser does what it does at the
place without them: it returns the same polynomial or gives the same reason, and the place or the
position moves along. And what it takes up in a line it takes up in every line that is the same up
to there and has a comma behind it, whatever follows. -/
theorem parseAt_local (start : Nat) :
    (∀ before text, parseAt (.ofText (before ++ text) (before.length + start)) =
      match parseAt (.ofText text start) with
      | .ok (poly, next) => .ok (poly, .ofText (before ++ text) (before.length + next.position))
      | .error refusal => .error ⟨before.length + refusal.position, refusal.cause⟩) ∧
    ∀ text text' stop poly, parseAt (.ofText text start) = .ok (poly, .ofText text stop) →
      text'.take stop = text.take stop → text'[stop]? = some ',' →
        parseAt (.ofText text' start) = .ok (poly, .ofText text' stop) := by
  refine ⟨fun before text => ?_, fun _ _ _ _ => parseAt_of_comma⟩
  rw [← Cursor.shift_ofText, parseAt_shift]
  cases outcome : parseAt (.ofText text start) with
  | error refusal => rfl
  | ok result =>
    obtain ⟨poly, next⟩ := result
    dsimp only [shifted, shiftNext]
    rw [← Cursor.shift_ofText, ← parseAt_ofText_position outcome]

/-- The literal behind one character that is none of it, in front of the end of the line and then
in front of a comma and characters that belong to no literal. -/
theorem parseAt_local_behind :
    parseAt (.ofText "x(7,3)".toList 1) =
        .ok (⟨0, [⟨3, .const 7⟩]⟩, .ofText "x(7,3)".toList 6) ∧
      "x(7,3),)y".toList.take 6 = "x(7,3)".toList.take 6 ∧
      "x(7,3),)y".toList[6]? = some ',' ∧
      parseAt (.ofText "x(7,3),)y".toList 1) =
        .ok (⟨0, [⟨3, .const 7⟩]⟩, .ofText "x(7,3),)y".toList 6) := by
  have monomial : IsMonomial .accepted "(7,3)".toList ⟨3, .const 7⟩ :=
    @isMonomial_of_digits ['7'] ['3'] (by decide) (by decide) (by decide) (by decide)
  have spans : (Cursor.ofText "x(7,3)".toList 1).Spans "(7,3)".toList
      (.ofText "x(7,3)".toList 6) := ⟨rfl, rfl⟩
  have value : Poly.normalized ⟨0, [⟨3, .const 7⟩]⟩ = ⟨0, [⟨3, .const 7⟩]⟩ := by cbv
  have accepted : parseAt (.ofText "x(7,3)".toList 1) =
      .ok (⟨0, [⟨3, .const 7⟩]⟩, .ofText "x(7,3)".toList 6) := by
    rw [parseAt_eq_descent, descent_of_isPoly (.sum (.single monomial)) spans rfl, value]
  exact ⟨accepted, rfl, rfl, (parseAt_local 1).2 _ _ _ _ accepted rfl rfl⟩

end Parser

end PolyIntake
