/-
This file describes what becomes of an integer literal that is read at some
position of a line, and tells it from the text of the line alone. A literal goes
as far as there are digits. Where one begins, the reader returns its exact
decimal value and the position behind it, unless the value is out of range or
the wrong character comes behind it, and the range is weighed first. Where none
begins, the position of the missing digit is blamed.

The reader leaves a long run of digits unconverted, since no range reaches that
far. A reader that converts every run comes to the same in all cases.
-/

import PolyIntake.Proofs.Numerals

namespace PolyIntake

/-! ### Parts of a line -/

/-- What lies behind one position is what lies before another and what lies behind that. -/
theorem drop_eq_extract_append {text : List Char} {start stop : Nat} (ordered : start ≤ stop) :
    text.drop start = text.extract start stop ++ text.drop stop := by
  have rest : text.drop stop = (text.drop start).drop (stop - start) := by
    rw [List.drop_drop, Nat.add_sub_cancel' ordered]
  rw [rest]
  exact (List.take_append_drop (stop - start) (text.drop start)).symm

theorem add_length_extract {text : List Char} {start stop : Nat} (ordered : start ≤ stop)
    (inside : stop ≤ text.length) : start + (text.extract start stop).length = stop := by
  show start + ((text.drop start).take (stop - start)).length = stop
  rw [List.length_take, List.length_drop]
  omega

/-- A part of a line that begins at a position ends at the position behind its last character. -/
theorem extract_of_drop_eq_append_of_le {text part rest : List Char} {start : Nat}
    (inside : start ≤ text.length) (split : text.drop start = part ++ rest) :
    start + part.length ≤ text.length ∧ text.extract start (start + part.length) = part ∧
      text.drop (start + part.length) = rest := by
  have total : text.length - start = part.length + rest.length := by
    rw [← List.length_drop, split, List.length_append]
  refine ⟨by omega, ?_, ?_⟩
  · show (text.drop start).take (start + part.length - start) = part
    rw [split, Nat.add_sub_cancel_left, List.take_left]
  · rw [← List.drop_drop, split, List.drop_left]

theorem extract_of_drop_eq_append {text part rest : List Char} {start : Nat} (nonempty : part ≠ [])
    (split : text.drop start = part ++ rest) :
    start + part.length ≤ text.length ∧ text.extract start (start + part.length) = part ∧
      text.drop (start + part.length) = rest := by
  have positive : 0 < part.length := List.length_pos_iff.mpr nonempty
  have total : text.length - start = part.length + rest.length := by
    rw [← List.length_drop, split, List.length_append]
  exact extract_of_drop_eq_append_of_le (by omega) split

theorem noDigitNext_drop_iff {text : List Char} {position : Nat} :
    NoDigitNext (text.drop position) ↔ ∀ char ∈ text[position]?, char.isDigit = false := by
  rw [NoDigitNext, List.head?_drop]

namespace Integer

/-! ### Literals at a position -/

/-- From one position of a line to another there is an integer literal of the given value, with
all the digits that there are. -/
structure IsLiteralAt (signed : Bool) (text : List Char) (start stop : Nat)
    (value : Int) : Prop where
  inside : stop ≤ text.length
  numeral : IsNumeral signed (text.extract start stop) value
  longest : ∀ char ∈ text[stop]?, char.isDigit = false

/-- The position at which the digits of a literal have to begin: behind a minus sign, where there
may be one and is one. -/
def digitsStart (signed : Bool) (text : List Char) (start : Nat) : Nat :=
  if signed = true ∧ text[start]? = some '-' then start + 1 else start

variable {signed : Bool} {text : List Char} {start stop : Nat} {value : Int}

theorem IsLiteralAt.start_le (literal : IsLiteralAt signed text start stop value) :
    start ≤ stop := by
  refine Nat.le_of_lt (Nat.lt_of_not_le fun reversed => literal.numeral.ne_nil ?_)
  show (text.drop start).take (stop - start) = []
  rw [Nat.sub_eq_zero_of_le reversed, List.take_zero]

theorem isLiteralAt_of_drop_eq_append {numeral rest : List Char}
    (split : text.drop start = numeral ++ rest) (isNumeral : IsNumeral signed numeral value)
    (noDigit : NoDigitNext rest) :
    IsLiteralAt signed text start (start + numeral.length) value := by
  obtain ⟨inside, part, behind⟩ := extract_of_drop_eq_append isNumeral.ne_nil split
  exact ⟨inside, part.symm ▸ isNumeral, noDigitNext_drop_iff.mp (behind ▸ noDigit)⟩

/-- At every position a literal begins or a digit is missing. -/
theorem exists_isLiteralAt_or_missing (signed : Bool) (text : List Char) (start : Nat) :
    (∃ stop value, IsLiteralAt signed text start stop value) ∨
      ∀ char ∈ text[digitsStart signed text start]?, char.isDigit = false := by
  obtain ⟨digits, rest, split, each, noDigit⟩ :=
    exists_digits_append (text.drop (digitsStart signed text start))
  by_cases empty : digits = []
  · subst empty
    exact Or.inr (noDigitNext_drop_iff.mp (split ▸ noDigit))
  · unfold digitsStart at split
    split at split
    case isTrue minus =>
      obtain ⟨isSigned, atMinus⟩ := minus
      have whole : text.drop start = '-' :: digits ++ rest := by
        rw [List.drop_eq_getElem?_toList_append, atMinus, split]
        rfl
      exact Or.inl ⟨_, _, isLiteralAt_of_drop_eq_append whole
        (.negative isSigned ⟨empty, each⟩) noDigit⟩
    case isFalse =>
      exact Or.inl ⟨_, _, isLiteralAt_of_drop_eq_append split (.plain ⟨empty, each⟩) noDigit⟩

/-! ### The outcomes of reading -/

/-- What reading a literal comes to, by the text from its position on. -/
inductive Reads (kind : Kind) (terminates : Option Char → Bool) (text : List Char) (start : Nat) :
    Except (Refusal Fault) (Int × Cursor) → Prop
  | value {stop : Nat} {value : Int} (literal : IsLiteralAt kind.signed text start stop value)
      (inRange : kind.lowest ≤ value ∧ value ≤ kind.highest)
      (ended : terminates text[stop]? = true) :
      Reads kind terminates text start (.ok (value, .ofText text stop))
  | missingDigit
      (noDigit : ∀ char ∈ text[digitsStart kind.signed text start]?, char.isDigit = false) :
      Reads kind terminates text start
        (.error ⟨digitsStart kind.signed text start, .missingDigit⟩)
  | outOfRange {stop : Nat} {value : Int} (literal : IsLiteralAt kind.signed text start stop value)
      (beyond : value < kind.lowest ∨ kind.highest < value) :
      Reads kind terminates text start (.error ⟨start, .outOfRange (text.extract start stop)⟩)
  | unexpected {stop : Nat} {value : Int} (literal : IsLiteralAt kind.signed text start stop value)
      (inRange : kind.lowest ≤ value ∧ value ≤ kind.highest)
      (notEnded : terminates text[stop]? = false) :
      Reads kind terminates text start (.error ⟨stop, .unexpected text[stop]?⟩)

variable {kind : Kind}

theorem read_of_isLiteralAt (short : kind.IsShort) (terminates : Option Char → Bool)
    (literal : IsLiteralAt kind.signed text start stop value) :
    read kind terminates (.ofText text start) =
      if kind.admits value then
        if terminates text[stop]? then .ok (value, .ofText text stop)
        else .error ⟨stop, .unexpected text[stop]?⟩
      else .error ⟨start, .outOfRange (text.extract start stop)⟩ := by
  have length := add_length_extract literal.start_le literal.inside
  have outcome := read_of_isNumeral short terminates literal.numeral
    (noDigitNext_drop_iff.mpr literal.longest) start
  rwa [← drop_eq_extract_append literal.start_le, List.head?_drop, length] at outcome

theorem read_of_missing {terminates : Option Char → Bool}
    (noDigit : ∀ char ∈ text[digitsStart kind.signed text start]?, char.isDigit = false) :
    read kind terminates (.ofText text start) =
      .error ⟨digitsStart kind.signed text start, .missingDigit⟩ := by
  have body := noDigitNext_drop_iff.mpr noDigit
  rcases readSign_cases kind (text.drop start) start with
    ⟨rest, isSigned, split, sign⟩ | ⟨notMinus, sign⟩
  · have atMinus : text[start]? = some '-' := by rw [← List.head?_drop, split, List.head?_cons]
    have place : digitsStart kind.signed text start = start + 1 := if_pos ⟨isSigned, atMinus⟩
    rw [place, ← List.drop_drop, split] at body
    rw [place]
    exact read_of_noDigitNext sign body
  · have place : digitsStart kind.signed text start = start :=
      if_neg fun ⟨isSigned, atMinus⟩ => notMinus isSigned (by rw [List.head?_drop, atMinus])
    rw [place] at body ⊢
    exact read_of_noDigitNext sign body

/-- Each outcome is described, and no outcome that is described fails to arise. -/
theorem read_eq_iff (short : kind.IsShort) (terminates : Option Char → Bool) (text : List Char)
    (start : Nat) (outcome : Except (Refusal Fault) (Int × Cursor)) :
    read kind terminates (.ofText text start) = outcome ↔
      Reads kind terminates text start outcome := by
  constructor
  · rintro rfl
    rcases exists_isLiteralAt_or_missing kind.signed text start with
      ⟨stop, value, literal⟩ | noDigit
    · rw [read_of_isLiteralAt short terminates literal]
      cases admitted : kind.admits value with
      | false => exact .outOfRange literal (Kind.admits_eq_false_iff.mp admitted)
      | true =>
        cases ended : terminates text[stop]? with
        | false => exact .unexpected literal (Kind.admits_iff.mp admitted) ended
        | true => exact .value literal (Kind.admits_iff.mp admitted) ended
    · rw [read_of_missing noDigit]
      exact .missingDigit noDigit
  · intro reads
    cases reads with
    | value literal inRange ended =>
      rw [read_of_isLiteralAt short terminates literal, if_pos (Kind.admits_iff.mpr inRange),
        if_pos ended]
    | missingDigit noDigit => exact read_of_missing noDigit
    | outOfRange literal beyond =>
      rw [read_of_isLiteralAt short terminates literal, Kind.admits_eq_false_iff.mpr beyond]
      rfl
    | unexpected literal inRange notEnded =>
      rw [read_of_isLiteralAt short terminates literal, if_pos (Kind.admits_iff.mpr inRange),
        notEnded]
      rfl

/-- A refusal blames a position of the line, as long as the literal was looked for in the line. -/
theorem Reads.position_le {terminates : Option Char → Bool} {refusal : Refusal Fault}
    (reads : Reads kind terminates text start (.error refusal)) (inside : start ≤ text.length) :
    refusal.position ≤ text.length := by
  cases reads with
  | missingDigit =>
    show digitsStart kind.signed text start ≤ text.length
    unfold digitsStart
    split
    case isTrue minus =>
      exact (List.getElem?_eq_some_iff.mp minus.2).1
    · exact inside
  | outOfRange => exact inside
  | unexpected literal => exact literal.inside

/-! ### Long runs of digits -/

/-- Reads a literal as the reader does, but converts every run of digits. -/
def readInFull (kind : Kind) (terminates : Option Char → Bool) (cursor : Cursor) :
    Except (Refusal Fault) (Int × Cursor) :=
  let (negative, body) := readSign kind cursor
  let digits := body.rest.takeWhile Char.isDigit
  if digits.isEmpty then .error ⟨body.position, .missingDigit⟩
  else
    let next := body.advance digits.length
    let magnitude : Int := Nat.ofDigitChars 10 digits 0
    let value := if negative then -magnitude else magnitude
    if kind.admits value then
      if terminates next.peek then .ok (value, next)
      else .error ⟨next.position, .unexpected next.peek⟩
    else .error ⟨cursor.position, .outOfRange (if negative then '-' :: digits else digits)⟩

theorem read_eq_readInFull (short : kind.IsShort) (terminates : Option Char → Bool)
    (cursor : Cursor) : read kind terminates cursor = readInFull kind terminates cursor := by
  unfold read readInFull
  dsimp only
  rw [filter_admits_value? short _ (List.all_eq_true.mp List.all_takeWhile) rfl]
  cases kind.admits (if (readSign kind cursor).1
    then -(Nat.ofDigitChars 10 ((readSign kind cursor).2.rest.takeWhile Char.isDigit) 0 : Int)
    else Nat.ofDigitChars 10 ((readSign kind cursor).2.rest.takeWhile Char.isDigit) 0) <;> rfl

/-- At every position of every line, and whatever may stand behind a literal, reading a
coefficient or an exponent has the outcome that the text settles, with the exact decimal value and
the exact bounds of its range. Converting all digits of long runs makes no difference. -/
theorem read_outcomes (terminates : Option Char → Bool) (text : List Char) (start : Nat) :
    (∀ outcome, read .signed64 terminates (.ofText text start) = outcome ↔
      Reads ⟨true, -2 ^ 63, 2 ^ 63 - 1⟩ terminates text start outcome) ∧
    (∀ outcome, read .unsigned31 terminates (.ofText text start) = outcome ↔
      Reads ⟨false, 0, 2 ^ 31 - 1⟩ terminates text start outcome) ∧
    read .signed64 terminates (.ofText text start) =
      readInFull .signed64 terminates (.ofText text start) ∧
    read .unsigned31 terminates (.ofText text start) =
      readInFull .unsigned31 terminates (.ofText text start) :=
  ⟨read_eq_iff isShort_signed64 terminates text start,
    read_eq_iff isShort_unsigned31 terminates text start,
    read_eq_readInFull isShort_signed64 terminates _,
    read_eq_readInFull isShort_unsigned31 terminates _⟩

end Integer

end PolyIntake
