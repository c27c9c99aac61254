/-
This file says which texts are integer literals and what they are worth, and
proves that reading accepts exactly them. A literal is a non-empty run of ASCII
digits, leading zeros included, behind a minus sign where signs are allowed, and
its value is the exact decimal value, however long the run is.

The reader converts no run of more than nineteen significant digits, since no
range reaches that far; it is proved here that this changes nothing. What comes
out is a description of the reader without its inner steps: in front of a literal
and something that is no digit it weighs the range first and the terminator next,
and where no literal begins it reports a missing digit.

An integer that was written in decimal is a literal of that value.
-/

import Mathlib.Algebra.Ring.Int.Defs
import Mathlib.Algebra.Ring.Nat
import PolyIntake.Integer

namespace PolyIntake

/-! ### Literals and their values -/

/-- A non-empty run of ASCII digits. -/
def IsDigits (text : List Char) : Prop :=
  text ≠ [] ∧ ∀ char ∈ text, char.isDigit = true

instance (text : List Char) : Decidable (IsDigits text) :=
  decidable_of_iff (text ≠ [] ∧ text.all Char.isDigit = true) (by rw [List.all_eq_true, IsDigits])

/-- The text goes on with something other than a digit, or is at its end. -/
def NoDigitNext (text : List Char) : Prop :=
  ∀ char ∈ text.head?, char.isDigit = false

/-- A text is an integer literal of the given value. Only a signed literal may begin with a
minus sign. -/
inductive IsNumeral (signed : Bool) : List Char → Int → Prop
  | plain {digits : List Char} (isDigits : IsDigits digits) :
      IsNumeral signed digits (Nat.ofDigitChars 10 digits 0)
  | negative {digits : List Char} (isSigned : signed = true) (isDigits : IsDigits digits) :
      IsNumeral signed ('-' :: digits) (-(Nat.ofDigitChars 10 digits 0 : Int))

theorem noDigitNext_nil : NoDigitNext [] :=
  fun _ member => by cases member

theorem noDigitNext_cons {char : Char} (notDigit : char.isDigit = false) (rest : List Char) :
    NoDigitNext (char :: rest) := by
  rintro other ⟨⟩
  exact notDigit

theorem IsDigits.exists_cons {text : List Char} (isDigits : IsDigits text) :
    ∃ head tail, text = head :: tail ∧ head.isDigit = true := by
  obtain ⟨nonempty, each⟩ := isDigits
  cases text with
  | nil => exact absurd rfl nonempty
  | cons head tail => exact ⟨head, tail, rfl, each head List.mem_cons_self⟩

theorem IsNumeral.ne_nil {signed : Bool} {text : List Char} {value : Int}
    (numeral : IsNumeral signed text value) : text ≠ [] := by
  cases numeral with
  | plain isDigits => exact isDigits.1
  | negative => exact List.cons_ne_nil _ _

/-- A literal is made of digits and minus signs. -/
theorem IsNumeral.isDigit_or_eq_of_mem {signed : Bool} {text : List Char} {value : Int}
    (numeral : IsNumeral signed text value) {char : Char} (member : char ∈ text) :
    char.isDigit = true ∨ char = '-' := by
  cases numeral with
  | plain isDigits => exact Or.inl (isDigits.2 char member)
  | negative _ isDigits =>
    rcases List.mem_cons.mp member with rfl | inDigits
    · exact Or.inr rfl
    · exact Or.inl (isDigits.2 char inDigits)

/-- A literal without a sign is a signed literal as well. -/
theorem IsNumeral.toSigned {signed : Bool} {text : List Char} {value : Int}
    (numeral : IsNumeral signed text value) : IsNumeral true text value := by
  cases numeral with
  | plain isDigits => exact .plain isDigits
  | negative _ isDigits => exact .negative rfl isDigits

theorem isNumeral_zero (signed : Bool) : IsNumeral signed ['0'] 0 :=
  .plain (by decide)

theorem isNumeral_negative_zero : IsNumeral true ['-', '0'] 0 :=
  .negative rfl (by decide)

/-! ### Runs of digits -/

theorem takeWhile_isDigit_append {digits rest : List Char}
    (each : ∀ char ∈ digits, char.isDigit = true) (noDigit : NoDigitNext rest) :
    (digits ++ rest).takeWhile Char.isDigit = digits := by
  rw [List.takeWhile_append_of_pos each]
  cases rest with
  | nil => rw [List.takeWhile_nil, List.append_nil]
  | cons char rest =>
    have notDigit := noDigit char rfl
    rw [List.takeWhile_cons_of_neg (by rw [notDigit]; exact Bool.false_ne_true), List.append_nil]

/-- Every text begins with a run of digits, which may be empty, and goes on with no digit. -/
theorem exists_digits_append (text : List Char) :
    ∃ digits rest, text = digits ++ rest ∧ (∀ char ∈ digits, char.isDigit = true) ∧
      NoDigitNext rest := by
  refine ⟨text.takeWhile Char.isDigit, text.dropWhile Char.isDigit,
    List.takeWhile_append_dropWhile.symm, List.all_eq_true.mp List.all_takeWhile, ?_⟩
  intro char member
  have stopped := List.head?_dropWhile_not Char.isDigit text
  rw [member] at stopped
  simpa using stopped

/-- Two runs of digits that something other than a digit ends are one run. -/
theorem digits_append_inj {digits digits' rest rest' : List Char}
    (each : ∀ char ∈ digits, char.isDigit = true)
    (each' : ∀ char ∈ digits', char.isDigit = true) (noDigit : NoDigitNext rest)
    (noDigit' : NoDigitNext rest') (same : digits ++ rest = digits' ++ rest') :
    digits = digits' ∧ rest = rest' := by
  have runs : digits = digits' := by
    rw [← takeWhile_isDigit_append each noDigit, same, takeWhile_isDigit_append each' noDigit']
  exact ⟨runs, List.append_cancel_left (runs ▸ same)⟩

/-- What a literal is worth and where it ends is settled by the text. -/
theorem IsNumeral.append_inj {signed : Bool} {text text' rest rest' : List Char}
    {value value' : Int} (numeral : IsNumeral signed text value)
    (numeral' : IsNumeral signed text' value') (noDigit : NoDigitNext rest)
    (noDigit' : NoDigitNext rest') (same : text ++ rest = text' ++ rest') :
    text = text' ∧ value = value' ∧ rest = rest' := by
  cases numeral with
  | plain isDigits =>
    cases numeral' with
    | plain isDigits' =>
      obtain ⟨rfl, rests⟩ := digits_append_inj isDigits.2 isDigits'.2 noDigit noDigit' same
      exact ⟨rfl, rfl, rests⟩
    | negative _ _ =>
      obtain ⟨head, tail, rfl, isDigit⟩ := isDigits.exists_cons
      obtain ⟨rfl, _⟩ := List.cons.inj same
      exact absurd isDigit (by decide)
  | negative _ isDigits =>
    cases numeral' with
    | plain isDigits' =>
      obtain ⟨head, tail, rfl, isDigit⟩ := isDigits'.exists_cons
      obtain ⟨rfl, _⟩ := List.cons.inj same
      exact absurd isDigit (by decide)
    | negative _ isDigits' =>
      obtain ⟨rfl, rests⟩ := digits_append_inj isDigits.2 isDigits'.2 noDigit noDigit'
        (List.cons.inj same).2
      exact ⟨rfl, rfl, rests⟩

/-! ### Written integers are literals -/

theorem isDigits_digits (number : Nat) : IsDigits (Decimal.digits number) :=
  ⟨Nat.toDigits_ne_nil, fun _ => Decimal.isDigit_of_mem_digits⟩

theorem isNumeral_ofInt (value : Int) : IsNumeral true (Decimal.ofInt value) value := by
  cases value with
  | ofNat number =>
    have numeral : IsNumeral true (Decimal.digits number) _ := .plain (isDigits_digits number)
    rwa [Decimal.ofDigitChars_digits] at numeral
  | negSucc number =>
    have numeral : IsNumeral true ('-' :: Decimal.digits (number + 1)) _ :=
      .negative rfl (isDigits_digits (number + 1))
    rwa [Decimal.ofDigitChars_digits] at numeral

/-- An integer that is not negative is written without a sign. -/
theorem isNumeral_ofInt_of_nonneg {value : Int} (nonneg : 0 ≤ value) :
    IsNumeral false (Decimal.ofInt value) value := by
  cases value with
  | ofNat number =>
    have numeral : IsNumeral false (Decimal.digits number) _ := .plain (isDigits_digits number)
    rwa [Decimal.ofDigitChars_digits] at numeral
  | negSucc number => exact absurd nonneg (by omega)

/-! ### The range of a literal -/

namespace Integer

theorem Kind.admits_iff {kind : Kind} {value : Int} :
    kind.admits value = true ↔ kind.lowest ≤ value ∧ value ≤ kind.highest := by
  rw [admits, Bool.and_eq_true, decide_eq_true_eq, decide_eq_true_eq]

theorem Kind.admits_eq_false_iff {kind : Kind} {value : Int} :
    kind.admits value = false ↔ value < kind.lowest ∨ kind.highest < value := by
  rw [← Bool.not_eq_true, admits_iff]
  omega

/-- The range of a kind lies within the numbers of as many digits as are converted. -/
def Kind.IsShort (kind : Kind) : Prop :=
  -(10 ^ longestInRange) < kind.lowest ∧ kind.highest < 10 ^ longestInRange

instance (kind : Kind) : Decidable kind.IsShort :=
  inferInstanceAs (Decidable (_ ∧ _))

theorem isShort_signed64 : Kind.signed64.IsShort := by decide

theorem isShort_unsigned31 : Kind.unsigned31.IsShort := by decide

/-- Leading zeros do not count. -/
theorem ofDigitChars_dropWhile_zero (digits : List Char) :
    Nat.ofDigitChars 10 (digits.dropWhile (· == '0')) 0 = Nat.ofDigitChars 10 digits 0 := by
  induction digits with
  | nil => rfl
  | cons head tail inductionHypothesis =>
    rw [List.dropWhile_cons]
    split
    case isTrue isZero =>
      rw [inductionHypothesis, beq_iff_eq.mp isZero, Nat.ofDigitChars_cons]
      rfl
    · rfl

/-- A number of more digits than are converted is out of every range. -/
theorem limit_le_ofDigitChars {digits : List Char}
    (each : ∀ char ∈ digits, char.isDigit = true)
    (long : longestInRange < (digits.dropWhile (· == '0')).length) :
    10 ^ longestInRange ≤ Nat.ofDigitChars 10 digits 0 := by
  rw [← ofDigitChars_dropWhile_zero]
  have someZero := List.head?_dropWhile_not (· == '0') digits
  have suffix := List.dropWhile_suffix (l := digits) (· == '0')
  cases significant : digits.dropWhile (· == '0') with
  | nil =>
    rw [significant] at long
    exact absurd long (Nat.not_lt_zero _)
  | cons head tail =>
    rw [significant] at someZero suffix long
    have isDigit := Char.isDigit_iff_toNat.mp (each head (suffix.subset List.mem_cons_self))
    have notZero : head ≠ '0' := by simpa using someZero
    have positive : 1 ≤ head.toNat - '0'.toNat := by
      have differ : head.toNat ≠ '0'.toNat := fun equal => notZero (Char.toNat_inj.mp equal)
      omega
    rw [Nat.ofDigitChars_cons, Nat.ofDigitChars_eq_ofDigitChars_zero]
    rw [List.length_cons] at long
    calc 10 ^ longestInRange ≤ 10 ^ tail.length := Nat.pow_le_pow_right (by decide) (by omega)
      _ ≤ 10 ^ tail.length * (10 * 0 + (head.toNat - '0'.toNat)) := by
        exact Nat.le_mul_of_pos_right _ (by omega)
      _ ≤ _ := Nat.le_add_right _ _

/-- Rejecting long runs of digits without converting them changes no verdict. -/
theorem filter_admits_value? {kind : Kind} (short : kind.IsShort) (negative : Bool)
    {digits : List Char} (each : ∀ char ∈ digits, char.isDigit = true) {value : Int}
    (worth : value = if negative then -(Nat.ofDigitChars 10 digits 0 : Int)
      else Nat.ofDigitChars 10 digits 0) :
    (value? negative digits).filter kind.admits =
      if kind.admits value then some value else none := by
  unfold value?
  dsimp only
  split
  case isTrue long =>
    have beyond := limit_le_ofDigitChars each long
    have refused : kind.admits value = false := by
      obtain ⟨low, high⟩ := short
      have beyond' : (10 ^ longestInRange : Int) ≤ Nat.ofDigitChars 10 digits 0 := by
        exact_mod_cast beyond
      rw [Kind.admits_eq_false_iff]
      split at worth <;> omega
    rw [refused]
    rfl
  · rw [ofDigitChars_dropWhile_zero, ← worth, Option.filter_some]

/-! ### The reader -/

/-- What the reader does once the sign is read and digits follow. -/
theorem read_of_readSign {kind : Kind} (short : kind.IsShort) (terminates : Option Char → Bool)
    {cursor : Cursor} {negative : Bool} {digits rest : List Char} {position : Nat} {value : Int}
    (sign : readSign kind cursor = (negative, ⟨digits ++ rest, position⟩))
    (isDigits : IsDigits digits) (noDigit : NoDigitNext rest)
    (worth : value = if negative then -(Nat.ofDigitChars 10 digits 0 : Int)
      else Nat.ofDigitChars 10 digits 0) :
    read kind terminates cursor =
      if kind.admits value then
        if terminates rest.head? then .ok (value, ⟨rest, position + digits.length⟩)
        else .error ⟨position + digits.length, .unexpected rest.head?⟩
      else .error ⟨cursor.position, .outOfRange (if negative then '-' :: digits else digits)⟩ := by
  have behind : Cursor.advance ⟨digits ++ rest, position⟩ digits.length =
      ⟨rest, position + digits.length⟩ := by
    rw [Cursor.advance, List.drop_left]
  have someDigit : ¬ digits.isEmpty = true := by simpa using isDigits.1
  unfold read
  rw [sign]
  dsimp only
  rw [takeWhile_isDigit_append isDigits.2 noDigit, if_neg someDigit, behind,
    filter_admits_value? short negative isDigits.2 worth]
  cases kind.admits value with
  | false => rfl
  | true => rfl

/-- In front of a literal and something that is no digit, the reader weighs the range first and
the terminator next. -/
theorem read_of_isNumeral {kind : Kind} (short : kind.IsShort) (terminates : Option Char → Bool)
    {text rest : List Char} {value : Int} (numeral : IsNumeral kind.signed text value)
    (noDigit : NoDigitNext rest) (position : Nat) :
    read kind terminates ⟨text ++ rest, position⟩ =
      if kind.admits value then
        if terminates rest.head? then .ok (value, ⟨rest, position + text.length⟩)
        else .error ⟨position + text.length, .unexpected rest.head?⟩
      else .error ⟨position, .outOfRange text⟩ := by
  cases numeral with
  | plain isDigits =>
    have unsigned : readSign kind ⟨text ++ rest, position⟩ = (false, ⟨text ++ rest, position⟩) := by
      obtain ⟨head, tail, rfl, headDigit⟩ := isDigits.exists_cons
      have notMinus : head ≠ '-' := by
        rintro rfl
        exact absurd headDigit (by decide)
      unfold readSign
      rw [if_neg (by simp [Cursor.peek, notMinus])]
    exact read_of_readSign short terminates unsigned isDigits noDigit rfl
  | @negative digits isSigned isDigits =>
    have minus : readSign kind ⟨'-' :: digits ++ rest, position⟩ =
        (true, ⟨digits ++ rest, position + 1⟩) := by
      unfold readSign
      rw [if_pos (by simp [Cursor.peek, isSigned])]
      rfl
    rw [read_of_readSign short terminates minus isDigits noDigit rfl, List.length_cons,
      Nat.add_assoc, Nat.add_comm 1]
    rfl

/-- No literal begins with these characters. Where a digit is missed there is a minus sign in
front or nothing at all. -/
structure MissesDigit (signed : Bool) (sign rest : List Char) : Prop where
  noDigit : NoDigitNext rest
  sign : (signed = true ∧ sign = ['-']) ∨ (sign = [] ∧ (signed = true → rest.head? ≠ some '-'))

theorem MissesDigit.not_isNumeral {signed : Bool} {sign text after rest : List Char} {char : Char}
    {value : Int} (misses : MissesDigit signed sign (char :: rest))
    (numeral : IsNumeral signed text value) (other : List Char) :
    sign ++ char :: other ≠ text ++ after := by
  have notDigit : char.isDigit = false := misses.noDigit char rfl
  intro same
  rcases misses.sign with ⟨_, rfl⟩ | ⟨rfl, notMinus⟩
  · cases numeral with
    | plain isDigits =>
      obtain ⟨head, tail, rfl, isDigit⟩ := isDigits.exists_cons
      obtain ⟨rfl, _⟩ := List.cons.inj same
      exact absurd isDigit (by decide)
    | negative _ isDigits =>
      obtain ⟨head, tail, rfl, isDigit⟩ := isDigits.exists_cons
      obtain ⟨rfl, _⟩ := List.cons.inj (List.cons.inj same).2
      exact absurd isDigit (by rw [notDigit]; exact Bool.false_ne_true)
  · cases numeral with
    | plain isDigits =>
      obtain ⟨head, tail, rfl, isDigit⟩ := isDigits.exists_cons
      obtain ⟨rfl, _⟩ := List.cons.inj same
      exact absurd isDigit (by rw [notDigit]; exact Bool.false_ne_true)
    | negative isSigned _ =>
      obtain ⟨rfl, _⟩ := List.cons.inj same
      exact notMinus isSigned rfl

/-- Reading a sign takes a minus sign where signs are allowed, and nothing else. -/
theorem readSign_cases (kind : Kind) (text : List Char) (position : Nat) :
    (∃ rest, kind.signed = true ∧ text = '-' :: rest ∧
      readSign kind ⟨text, position⟩ = (true, ⟨rest, position + 1⟩)) ∨
    ((kind.signed = true → text.head? ≠ some '-') ∧
      readSign kind ⟨text, position⟩ = (false, ⟨text, position⟩)) := by
  unfold readSign
  split
  case isTrue minus =>
    obtain ⟨signed, head⟩ := Bool.and_eq_true_iff.mp minus
    cases text with
    | nil => cases head
    | cons char rest =>
      obtain rfl : char = '-' := by simpa [Cursor.peek] using head
      exact Or.inl ⟨rest, signed, rfl, rfl⟩
  case isFalse notMinus =>
    refine Or.inr ⟨fun signed head => notMinus ?_, rfl⟩
    rw [signed, Cursor.peek, head]
    rfl

theorem read_of_noDigitNext {kind : Kind} {terminates : Option Char → Bool}
    {cursor body : Cursor} {negative : Bool} (sign : readSign kind cursor = (negative, body))
    (noDigit : NoDigitNext body.rest) :
    read kind terminates cursor = .error ⟨body.position, .missingDigit⟩ := by
  have run : body.rest.takeWhile Char.isDigit = [] :=
    @takeWhile_isDigit_append [] body.rest (fun _ member => by cases member) noDigit
  unfold read
  rw [sign]
  dsimp only
  rw [run]
  exact if_pos rfl

/-- Where no literal begins, the reader misses a digit. -/
theorem exists_isNumeral_or_read_eq (kind : Kind) (terminates : Option Char → Bool)
    (text : List Char) (position : Nat) :
    (∃ numeral rest value, text = numeral ++ rest ∧ IsNumeral kind.signed numeral value ∧
      NoDigitNext rest) ∨
    ∃ sign rest, text = sign ++ rest ∧ MissesDigit kind.signed sign rest ∧
      read kind terminates ⟨text, position⟩ = .error ⟨position + sign.length, .missingDigit⟩ := by
  rcases readSign_cases kind text position with ⟨body, signed, rfl, sign⟩ | ⟨notMinus, sign⟩
  · obtain ⟨digits, rest, rfl, each, noDigit⟩ := exists_digits_append body
    by_cases empty : digits = []
    · subst empty
      exact Or.inr ⟨['-'], rest, rfl, ⟨noDigit, Or.inl ⟨signed, rfl⟩⟩,
        read_of_noDigitNext sign noDigit⟩
    · exact Or.inl ⟨_, rest, _, rfl, .negative signed ⟨empty, each⟩, noDigit⟩
  · obtain ⟨digits, rest, rfl, each, noDigit⟩ := exists_digits_append text
    by_cases empty : digits = []
    · subst empty
      exact Or.inr ⟨[], rest, rfl, ⟨noDigit, Or.inr ⟨rfl, notMinus⟩⟩,
        read_of_noDigitNext sign noDigit⟩
    · exact Or.inl ⟨_, rest, _, rfl, .plain ⟨empty, each⟩, noDigit⟩

/-- What the reader accepts is a literal in range with a terminator behind it. -/
theorem isNumeral_of_read {kind : Kind} (short : kind.IsShort) {terminates : Option Char → Bool}
    {cursor next : Cursor} {value : Int}
    (accepted : read kind terminates cursor = .ok (value, next)) :
    ∃ text, cursor.rest = text ++ next.rest ∧ next.position = cursor.position + text.length ∧
      IsNumeral kind.signed text value ∧ kind.admits value = true ∧
      terminates next.peek = true := by
  obtain ⟨chars, position⟩ := cursor
  rcases exists_isNumeral_or_read_eq kind terminates chars position with
    ⟨text, rest, worth, rfl, numeral, noDigit⟩ | ⟨_, _, _, _, missing⟩
  · rw [read_of_isNumeral short terminates numeral noDigit] at accepted
    split at accepted
    case isTrue admitted =>
      split at accepted
      case isTrue ended =>
        cases accepted
        exact ⟨text, rfl, rfl, numeral, admitted, ended⟩
      · cases accepted
    · cases accepted
  · rw [missing] at accepted
    cases accepted

end Integer

end PolyIntake
