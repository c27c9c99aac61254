/-
This file shows that the numbers and the moments of the grammar are read as what
they are, wherever a value may end. The reader takes as much as it can, so it
matters what may follow: no digit, no letter and no sign does, and what looks like
more of a number is more of it.

A moment is looked for in front of a number. A number is not taken for one, since
behind the digits that it begins with there is no dash and no colon.
-/

import Mathlib.Data.List.Basic
import PolyIntake.Proofs.TomlReading

namespace PolyIntake

namespace Toml

/-! ### The first character -/

/-- A text begins with a character of a kind, if it has any. -/
def Begins (isOne : Char → Prop) (text : List Char) : Prop :=
  ∀ char ∈ text.head?, isOne char

/-- A text has a first character, which is of a kind. -/
def Starts (isOne : Char → Prop) (text : List Char) : Prop :=
  ∃ char more, text = char :: more ∧ isOne char

section First

variable {isOne isOther : Char → Prop} {char : Char} {text rest : List Char}

theorem begins_nil (isOne : Char → Prop) : Begins isOne [] :=
  fun _ member => nomatch member

theorem begins_cons : Begins isOne (char :: text) ↔ isOne char :=
  ⟨fun begins => begins char rfl, fun isOne _ member => by cases member; exact isOne⟩

theorem Begins.imp (begins : Begins isOne text) (wider : ∀ char, isOne char → isOther char) :
    Begins isOther text :=
  fun char member => wider char (begins char member)

theorem Begins.append (begins : Begins isOne text) (more : Begins isOne rest) :
    Begins isOne (text ++ rest) := by
  cases text with
  | nil => exact more
  | cons char text => exact begins_cons.mpr (begins_cons.mp begins)

theorem starts_cons (isFirst : isOne char) (text : List Char) : Starts isOne (char :: text) :=
  ⟨char, text, rfl, isFirst⟩

theorem Starts.append (starts : Starts isOne text) : Starts isOne (text ++ rest) := by
  obtain ⟨char, more, rfl, isFirst⟩ := starts
  exact starts_cons isFirst _

theorem Starts.imp (starts : Starts isOne text) (wider : ∀ char, isOne char → isOther char) :
    Starts isOther text := by
  obtain ⟨char, more, rfl, isFirst⟩ := starts
  exact starts_cons (wider char isFirst) more

theorem Starts.to_begins (starts : Starts isOne text) : Begins isOne text := by
  obtain ⟨char, more, rfl, isFirst⟩ := starts
  exact begins_cons.mpr isFirst

theorem Starts.begins (starts : Starts isOne text) (rest : List Char) :
    Begins isOne (text ++ rest) :=
  starts.append.to_begins

theorem Starts.length_pos (starts : Starts isOne text) : 0 < text.length := by
  obtain ⟨char, more, rfl, -⟩ := starts
  exact Nat.succ_pos _

/-- A run of characters ends where one of another kind begins. -/
theorem dropWhile_append_of_begins {isOne : Char → Bool} (all : ∀ char ∈ text, isOne char = true)
    (begins : Begins (isOne · = false) rest) : (text ++ rest).dropWhile isOne = rest := by
  rw [List.dropWhile_append_of_pos all]
  cases rest with
  | nil => rfl
  | cons char rest =>
    rw [List.dropWhile_cons, begins_cons.mp begins]
    rfl

theorem takeWhile_append_of_begins {isOne : Char → Bool} (all : ∀ char ∈ text, isOne char = true)
    (begins : Begins (isOne · = false) rest) : (text ++ rest).takeWhile isOne = text := by
  rw [List.takeWhile_append_of_pos all]
  cases rest with
  | nil => exact List.append_nil text
  | cons char rest =>
    rw [List.takeWhile_cons, begins_cons.mp begins]
    exact List.append_nil text

/-- Where no character of a kind comes first, none is passed over. -/
theorem dropWhile_of_begins {isOne : Char → Bool} (begins : Begins (isOne · = false) rest) :
    rest.dropWhile isOne = rest :=
  dropWhile_append_of_begins (List.forall_mem_nil _) begins

end First

/-! ### What may follow -/

/-- The characters that end a value. -/
def marks : List Char :=
  ['\n', '#', ',', ']', '\x7d']

/-- The characters that may stand right behind a value: blanks may stand in front of what ends
it. -/
def endings : List Char :=
  ' ' :: '\t' :: marks

/-- A value may end in front of a text: behind blanks, the text is at its end or goes on with a
mark. -/
def Ends (rest : List Char) : Prop :=
  Begins (· ∈ marks) (skipBlanks rest)

theorem isBlank_iff {char : Char} : isBlank char = true ↔ char = ' ' ∨ char = '\t' := by
  simp only [isBlank, Bool.or_eq_true, decide_eq_true_eq]

/-- Right behind a value stands one of its endings, if anything does. -/
theorem Ends.begins_endings {rest : List Char} (ends : Ends rest) : Begins (· ∈ endings) rest := by
  cases rest with
  | nil => exact begins_nil _
  | cons char rest =>
    refine begins_cons.mpr ?_
    by_cases blank : isBlank char = true
    · obtain rfl | rfl := isBlank_iff.mp blank <;> decide
    · rw [Ends, skipBlanks, List.dropWhile_cons_of_neg blank] at ends
      exact List.mem_cons_of_mem _ (List.mem_cons_of_mem _ (begins_cons.mp ends))

/-- What holds of all endings holds of what follows a value. -/
theorem Ends.begins {rest : List Char} (ends : Ends rest) {isOne : Char → Prop}
    [DecidablePred isOne] (all : endings.all (fun char => decide (isOne char)) = true) :
    Begins isOne rest :=
  ends.begins_endings.imp fun char member => of_decide_eq_true (List.all_eq_true.mp all char member)

/-- No run of digits goes on where neither a digit nor an underscore comes first. -/
theorem stops_of_begins {isDigit : Char → Bool} {rest : List Char}
    (begins : Begins (fun char => isDigit char = false ∧ char ≠ '_') rest) :
    Stops isDigit rest := by
  intro run digits behind isRun
  obtain ⟨digit, more, rfl, isOne⟩ := isRun.exists_cons
  constructor
  · rintro rfl
    rw [(begins_cons.mp begins).1] at isOne
    cases isOne
  · rintro rfl
    exact (begins_cons.mp begins).2 rfl

theorem Ends.stops {rest : List Char} (ends : Ends rest) : Stops Char.isDigit rest :=
  stops_of_begins (ends.begins (by decide))

/-! ### Digits -/

section Digits

variable {isDigit : Char → Bool} {text digits rest : List Char}

theorem moreDigits_of_stops (stops : Stops isDigit rest) :
    moreDigits isDigit rest = ([], rest) := by
  unfold moreDigits
  split
  case h_1 => rfl
  case h_2 char rest => rw [if_neg fun isOne => (stops (.last isOne)).2 rfl]
  case h_3 char rest _ => rw [if_neg fun isOne => (stops (.last isOne)).1 rfl]

theorem moreDigits_cons {digit : Char} (isOne : isDigit digit = true) (plain : digit ≠ '_') :
    moreDigits isDigit (digit :: rest) =
      (digit :: (moreDigits isDigit rest).1, (moreDigits isDigit rest).2) := by
  rw [moreDigits.eq_3 _ _ _ (fun _ _ same _ => plain same), if_pos isOne]

theorem moreDigits_spaced {digit : Char} (isOne : isDigit digit = true) :
    moreDigits isDigit ('_' :: digit :: rest) =
      (digit :: (moreDigits isDigit rest).1, (moreDigits isDigit rest).2) := by
  rw [moreDigits.eq_2, if_pos isOne]

theorem ne_underscore_of_isDigit (plain : isDigit '_' = false) {digit : Char}
    (isOne : isDigit digit = true) : digit ≠ '_' := by
  rintro rfl
  rw [plain] at isOne
  cases isOne

/-- A run of digits is taken as a whole, also behind an underscore. -/
theorem moreDigits_append (run : IsRun isDigit text digits) (plain : isDigit '_' = false)
    (stops : Stops isDigit rest) : moreDigits isDigit (text ++ rest) = (digits, rest) ∧
      moreDigits isDigit ('_' :: (text ++ rest)) = (digits, rest) := by
  have other {digit : Char} (isOne : isDigit digit = true) : digit ≠ '_' :=
    ne_underscore_of_isDigit plain isOne
  induction run with
  | last isOne =>
    rw [List.singleton_append, moreDigits_cons isOne (other isOne), moreDigits_spaced isOne,
      moreDigits_of_stops stops]
    exact ⟨rfl, rfl⟩
  | next isOne _ inductionHypothesis =>
    rw [List.cons_append, moreDigits_cons isOne (other isOne), moreDigits_spaced isOne,
      inductionHypothesis.1]
    exact ⟨rfl, rfl⟩
  | spaced isOne _ inductionHypothesis =>
    rw [List.cons_append, List.cons_append, moreDigits_cons isOne (other isOne),
      moreDigits_spaced isOne, inductionHypothesis.2]
    exact ⟨rfl, rfl⟩

theorem IsRun.starts (run : IsRun isDigit text digits) : Starts (isDigit · = true) text :=
  run.exists_cons

theorem digits?_append (run : IsRun isDigit text digits) (plain : isDigit '_' = false)
    (stops : Stops isDigit rest) : digits? isDigit (text ++ rest) = some (digits, rest) := by
  have whole := (moreDigits_append run plain stops).1
  obtain ⟨digit, more, rfl, isOne⟩ := run.starts
  rw [List.cons_append, moreDigits_cons isOne (ne_underscore_of_isDigit plain isOne)] at whole
  rw [List.cons_append, digits?, if_pos isOne]
  exact congrArg some whole

end Digits

/-! ### Numbers -/

section Numbers

variable {text digits rest : List Char} {negative : Bool}

/-- The digits in front of a point are a run of digits. -/
theorem IsWhole.isRun (isWhole : IsWhole text digits) : IsRun Char.isDigit text digits := by
  cases isWhole with
  | zero => exact .last (by decide)
  | run run => exact run

theorem whole?_append (isWhole : IsWhole text digits) (stops : Stops Char.isDigit rest) :
    whole? (text ++ rest) = some (digits, rest) := by
  cases isWhole with
  | zero => rfl
  | run run noZero =>
    have found := digits?_append run (by decide) stops
    obtain ⟨digit, more, rfl, -⟩ := run.starts
    rw [whole?.eq_2 _ (fun _ same => noZero (by cases same; rfl))]
    exact found

theorem fraction?_append (isFraction : IsFraction text digits) (stops : Stops Char.isDigit rest) :
    fraction? (text ++ rest) = some (digits, rest) := by
  cases isFraction with
  | mk run => exact digits?_append run (by decide) stops

theorem fraction?_eq_none (begins : Begins (· ≠ '.') rest) : fraction? rest = none := by
  unfold fraction?
  split
  case h_1 => exact absurd rfl (begins '.' rfl)
  case h_2 => rfl

theorem exponent?_append {place : Int} (isExponent : IsExponent text place)
    (stops : Stops Char.isDigit rest) : exponent? (text ++ rest) = some (place, rest) := by
  cases isExponent with
  | @mk mark sign text digits negative isMark isSign run =>
    have begins : Begins (fun char => char ≠ '-' ∧ char ≠ '+') (text ++ rest) :=
      (run.starts.begins rest).imp fun _ => not_isSign_of_isDigit
    rw [List.append_assoc, List.cons_append, exponent?, if_pos (by simpa using isMark),
      sign_append isSign begins]
    dsimp only
    rw [digits?_append run (by decide) stops]
    rfl

theorem exponent?_eq_none (begins : Begins (fun char => char ≠ 'e' ∧ char ≠ 'E') rest) :
    exponent? rest = none := by
  unfold exponent?
  split
  case h_1 mark rest =>
    have other := begins mark rfl
    rw [if_neg (by simpa using other)]
  case h_2 => rfl

end Numbers

section Number

variable {text rest : List Char} {value : Value}

/-- A number that names no base has no letter of one behind a leading zero. -/
theorem based?_eq_none {sign whole digits behind : List Char} {negative : Bool}
    (isSign : IsSign sign negative) (isWhole : IsWhole whole digits)
    (begins : whole = ['0'] → Begins (fun char => char ≠ 'x' ∧ char ≠ 'o' ∧ char ≠ 'b') behind) :
    based? (sign ++ (whole ++ behind)) = none := by
  unfold based?
  split
  case h_1 letter rest same =>
    cases isSign with
    | minus => cases same
    | plus => cases same
    | none =>
      cases isWhole with
      | run run noZero =>
        obtain ⟨digit, more, rfl, -⟩ := run.starts
        rw [List.nil_append, List.cons_append] at same
        exact absurd (congrArg some (List.cons.inj same).1) noZero
      | zero =>
        cases same
        obtain ⟨noHex, noOctal, noBinary⟩ := begins rfl letter rfl
        dsimp only
        split
        case h_1 => exact absurd rfl noHex
        case h_2 => exact absurd rfl noOctal
        case h_3 => exact absurd rfl noBinary
        case h_4 => rfl
  case h_2 => rfl

theorem decimal?_append {sign whole digits behind : List Char} {negative : Bool}
    (isSign : IsSign sign negative) (isWhole : IsWhole whole digits)
    (stops : Stops Char.isDigit behind) :
    decimal? (sign ++ (whole ++ behind)) = behindWhole negative digits behind := by
  have begins : Begins (fun char => char ≠ '-' ∧ char ≠ '+') (whole ++ behind) :=
    (isWhole.isRun.starts.begins behind).imp fun _ => not_isSign_of_isDigit
  rw [decimal?_eq (sign_append isSign begins), whole?_append isWhole stops]
  rfl

theorem IsFraction.starts {fraction digits : List Char} {isOne : Char → Prop}
    (isFraction : IsFraction fraction digits) (point : isOne '.') : Starts isOne fraction := by
  cases isFraction
  exact starts_cons point _

theorem IsExponent.starts {exponent : List Char} {place : Int} {isOne : Char → Prop}
    (isExponent : IsExponent exponent place) (small : isOne 'e') (large : isOne 'E') :
    Starts isOne exponent := by
  cases isExponent with
  | mk isMark =>
    refine starts_cons ?_ _
    obtain rfl | rfl := isMark
    · exact small
    · exact large

/-- No digits go on in front of a fraction. -/
theorem IsFraction.stops {fraction digits : List Char} (isFraction : IsFraction fraction digits)
    (rest : List Char) : Stops Char.isDigit (fraction ++ rest) :=
  stops_of_begins ((isFraction.starts (by decide)).begins rest)

/-- No digits go on in front of an exponent. -/
theorem IsExponent.stops {exponent : List Char} {place : Int}
    (isExponent : IsExponent exponent place) (rest : List Char) :
    Stops Char.isDigit (exponent ++ rest) :=
  stops_of_begins ((isExponent.starts (by decide) (by decide)).begins rest)

theorem number_of_decimal? {reading : Reading Value} (unbased : based? text = none)
    (found : decimal? text = some reading) : number text = reading := by
  unfold number
  rw [unbased]
  dsimp only
  rw [found]

theorem based?_append {letter : Char} {base : Nat} {digits : List Char}
    (isBase : (letter, base) ∈ [('x', 16), ('o', 8), ('b', 2)])
    (run : IsRun (isDigitTo base) text digits) (ends : Ends rest) :
    based? ('0' :: letter :: (text ++ rest)) = some (.int (ofDigits base digits), rest) := by
  have noDigit : Begins (fun char => Json.hexDigit? char = none ∧ char ≠ '_') rest :=
    ends.begins (by decide)
  have stops : Stops (isDigitTo base) rest :=
    stops_of_begins (noDigit.imp fun char other => ⟨by rw [isDigitTo, other.1]; rfl, other.2⟩)
  have found := congrArg (Option.map fun pair => (Value.int (ofDigits base pair.1), pair.2))
    (digits?_append run rfl stops)
  simp only [List.mem_cons, Prod.mk.injEq, List.not_mem_nil, or_false] at isBase
  obtain ⟨rfl, rfl⟩ | ⟨rfl, rfl⟩ | ⟨rfl, rfl⟩ := isBase <;> exact found

/-- What is neither a number to a base nor a decimal one is one of the words. -/
theorem number_of_special? {sign : List Char} {negative : Bool} {first : Char}
    (isSign : IsSign sign negative) (isLetter : first = 'i' ∨ first = 'n') :
    number (sign ++ first :: text) = demanded (special? (sign ++ first :: text)) := by
  have begins : Begins (fun char => char ≠ '-' ∧ char ≠ '+') (first :: text) := by
    refine begins_cons.mpr ?_
    obtain rfl | rfl := isLetter <;> decide
  have unbased : based? (sign ++ first :: text) = none := by
    obtain rfl | rfl := isLetter <;> cases isSign <;> rfl
  have undecided : decimal? (sign ++ first :: text) = none := by
    rw [decimal?_eq (sign_append isSign begins)]
    obtain rfl | rfl := isLetter <;> rfl
  rw [number, unbased, undecided]

/-- A number that is not too long is read where no digit or letter goes on behind it. -/
theorem number_append (isNumber : IsNumber readLimit text value) (ends : Ends rest) :
    number (text ++ rest) = .ok (value, rest) := by
  have noFraction : fraction? rest = none := fraction?_eq_none (ends.begins (by decide))
  have noExponent : exponent? rest = none := exponent?_eq_none (ends.begins (by decide))
  have noBase : Begins (fun char => char ≠ 'x' ∧ char ≠ 'o' ∧ char ≠ 'b') rest :=
    ends.begins (by decide)
  cases isNumber with
  | @whole sign whole digits negative isSign isWhole few =>
    rw [List.append_assoc]
    refine number_of_decimal? (based?_eq_none isSign isWhole fun _ => noBase) ?_
    rw [decimal?_append isSign isWhole ends.stops, behindWhole, noFraction]
    dsimp only [Option.getD_none]
    rw [noExponent]
    dsimp only
    rw [if_pos List.isEmpty_nil, if_neg (Nat.not_lt_of_le (few _ rfl))]
  | @based letter base digitsText digits isBase run =>
    rw [number, List.cons_append, List.cons_append, based?_append isBase run ends]
  | @fraction sign whole digits fraction digits' negative isSign isWhole isFraction =>
    rw [List.append_assoc, List.append_assoc]
    refine number_of_decimal?
      (based?_eq_none isSign isWhole fun _ => (isFraction.starts (by decide)).begins rest) ?_
    rw [decimal?_append isSign isWhole (isFraction.stops rest), behindWhole,
      fraction?_append isFraction ends.stops]
    dsimp only [Option.getD_some]
    rw [noExponent]
    dsimp only
    rw [if_neg isFraction.not_isEmpty]
  | @exponent sign whole digits exponent negative place isSign isWhole isExponent =>
    rw [List.append_assoc, List.append_assoc]
    refine number_of_decimal? (based?_eq_none isSign isWhole fun _ =>
      (isExponent.starts (by decide) (by decide)).begins rest) ?_
    rw [decimal?_append isSign isWhole (isExponent.stops rest), behindWhole,
      fraction?_eq_none ((isExponent.starts (by decide) (by decide)).begins rest)]
    dsimp only [Option.getD_none]
    rw [exponent?_append isExponent ends.stops]
    dsimp only
    rw [List.append_nil, List.length_nil, Int.natCast_zero, Int.sub_zero]
  | @both sign whole digits fraction digits' exponent negative place isSign isWhole isFraction
      isExponent =>
    rw [List.append_assoc, List.append_assoc, List.append_assoc]
    refine number_of_decimal? (based?_eq_none isSign isWhole fun _ =>
      (isFraction.starts (by decide)).begins (exponent ++ rest)) ?_
    rw [decimal?_append isSign isWhole (isFraction.stops _), behindWhole,
      fraction?_append isFraction (isExponent.stops rest)]
    dsimp only [Option.getD_some]
    rw [exponent?_append isExponent ends.stops]
  | infinite isSign =>
    rw [List.append_assoc, List.cons_append, number_of_special? isSign (.inl rfl), special?,
      sign_append isSign (begins_cons.mpr (by decide))]
    rfl
  | undefined isSign =>
    rw [List.append_assoc, List.cons_append, number_of_special? isSign (.inr rfl), special?,
      sign_append isSign (begins_cons.mpr (by decide))]
    rfl

end Number

/-! ### Moments -/

section Moments

variable {text rest : List Char}

theorem fixed?_append {count value : Nat} (isFixed : IsFixed count value text)
    (rest : List Char) : fixed? count (text ++ rest) = some (value, rest) := by
  obtain ⟨rfl, isDigit, rfl⟩ := isFixed
  unfold fixed?
  dsimp only
  rw [List.take_left, List.drop_left, if_pos]
  simpa using isDigit

theorem below?_append {limit value : Nat} (isFixed : IsFixed 2 value text) (small : value < limit)
    (rest : List Char) : below? limit (text ++ rest) = some rest := by
  simp only [below?, fixed?_append isFixed, Option.bind_eq_bind, Option.bind_some, if_pos small]

theorem skip?_cons (char : Char) (rest : List Char) : skip? char (char :: rest) = some rest :=
  if_pos rfl

/-- What stands behind the seconds belongs to them only if it is a point with digits. -/
theorem time?_append (isTime : IsTime text)
    (begins : Begins (fun char => char ≠ '.' ∧ char.isDigit = false) rest) :
    time? (text ++ rest) = some rest := by
  cases isTime with
  | @mk _ _ _ hour minute second fraction isHour isMinute isSecond someHour someMinute someSecond
      isFraction =>
    have whole : hour ++ ':' :: minute ++ ':' :: second ++ fraction ++ rest =
        hour ++ (':' :: (minute ++ (':' :: (second ++ (fraction ++ rest))))) := by simp
    rw [whole]
    simp only [time?, below?_append isHour someHour, below?_append isMinute someMinute,
      below?_append isSecond someSecond, skip?_cons, Option.bind_eq_bind, Option.bind_some]
    obtain rfl | isPart := isFraction
    · rw [List.nil_append]
      split
      case h_1 => exact absurd rfl (begins '.' rfl).1
      case h_2 => rfl
    · cases isPart with
      | @mk digits filled isDigit =>
        cases digits with
        | nil => exact absurd rfl filled
        | cons digit digits =>
          obtain ⟨isOne, others⟩ := List.forall_mem_cons.mp isDigit
          change (if digit.isDigit = true then some ((digits ++ rest).dropWhile Char.isDigit)
            else _) = _
          rw [if_pos isOne, List.dropWhile_append_of_pos others,
            dropWhile_of_begins (begins.imp fun _ => And.right)]

theorem offset?_append (isOffset : IsOffset text) (rest : List Char) :
    offset? (text ++ rest) = some rest := by
  cases isOffset with
  | zero isLetter =>
    rw [List.singleton_append, offset?, if_pos (by simpa using isLetter)]
  | @shift sign _ _ hour minute isSign isHour isMinute someHour someMinute =>
    have whole : sign :: hour ++ ':' :: minute ++ rest =
        sign :: (hour ++ (':' :: (minute ++ rest))) := by simp
    rw [whole, offset?, if_neg (by obtain rfl | rfl := isSign <;> decide),
      if_pos (by simpa using isSign)]
    simp only [below?_append isHour someHour, below?_append isMinute someMinute, skip?_cons,
      Option.bind_eq_bind, Option.bind_some]

theorem offset?_eq_none (begins : Begins (· ∉ ['Z', 'z', '+', '-']) rest) :
    offset? rest = none := by
  unfold offset?
  split
  case h_1 char rest =>
    have other := begins char rfl
    simp only [List.mem_cons, List.not_mem_nil, or_false, not_or] at other
    obtain ⟨noLarge, noSmall, noPlus, noMinus⟩ := other
    rw [if_neg (by simp [noLarge, noSmall]), if_neg (by simp [noPlus, noMinus])]
  case h_2 => rfl

/-- A date that exists is read as its parts. -/
theorem date?_append (isDate : IsDate text) (rest : List Char) :
    ∃ year month day, date? (text ++ rest) = some ((year, month, day), rest) ∧
      1 ≤ year ∧ day ≤ daysIn year month := by
  cases isDate with
  | @mk year month day yearText monthText dayText isYear isMonth isDay someYear someMonth someDay =>
    have whole : yearText ++ '-' :: monthText ++ '-' :: dayText ++ rest =
        yearText ++ ('-' :: (monthText ++ ('-' :: (dayText ++ rest)))) := by simp
    have longest : daysIn year month ≤ 31 := by
      unfold daysIn
      repeat' split
      all_goals decide
    refine ⟨year, month, day, ?_, someYear, someDay.2⟩
    rw [whole]
    simp only [date?, fixed?_append isYear, fixed?_append isMonth, fixed?_append isDay, skip?_cons,
      Option.bind_eq_bind, Option.bind_some]
    rw [if_pos]
    simp only [Bool.and_eq_true, decide_eq_true_eq]
    exact ⟨⟨⟨someMonth.1, someMonth.2⟩, someDay.1⟩, Nat.le_trans someDay.2 longest⟩

theorem IsFixed.starts {count value : Nat} (isFixed : IsFixed (count + 1) value text) :
    Starts (Char.isDigit · = true) text := by
  obtain ⟨digit, more, rfl⟩ := List.exists_cons_of_length_eq_add_one isFixed.length
  exact starts_cons (isFixed.isDigit digit List.mem_cons_self) more

theorem IsDate.starts (isDate : IsDate text) : Starts (Char.isDigit · = true) text := by
  cases isDate with
  | mk isYear => exact isYear.starts.append.append

theorem IsTime.starts (isTime : IsTime text) : Starts (Char.isDigit · = true) text := by
  cases isTime with
  | mk isHour => exact isHour.starts.append.append.append

/-- A text that begins with no digit is no time of day. -/
theorem time?_eq_none (begins : Begins (Char.isDigit · = false) rest) : time? rest = none := by
  refine Option.eq_none_iff_forall_ne_some.mpr fun behind found => ?_
  obtain ⟨part, rfl, isTime⟩ := time?_sound found
  obtain ⟨digit, more, rfl, isOne⟩ := isTime.starts
  rw [begins digit rfl] at isOne
  cases isOne

/-- A time of day is no date, since a colon stands where a digit of the year would. -/
theorem date?_time_append (isTime : IsTime text) (rest : List Char) :
    date? (text ++ rest) = none := by
  have noYear : fixed? 4 (text ++ rest) = none := by
    refine Option.eq_none_iff_forall_ne_some.mpr fun pair found => ?_
    obtain ⟨year, behind⟩ := pair
    obtain ⟨part, same, isYear⟩ := fixed?_sound found
    cases isTime with
    | @mk _ _ _ hour _ _ _ isHour =>
      obtain ⟨first, second, rfl⟩ := List.length_eq_two.mp isHour.length
      obtain ⟨first', second', third, fourth, rfl⟩ := List.length_eq_four.mp isYear.length
      simp only [List.cons_append, List.nil_append, List.cons.injEq] at same
      obtain ⟨-, -, rfl, -⟩ := same
      exact absurd (isYear.isDigit ':' (by simp)) (by decide)
  simp only [date?, noYear, Option.bind_eq_bind, Option.bind_none]

/-- Behind a date, nothing is taken that ends a value. -/
theorem timeOfDate_of_ends (ends : Ends rest) : timeOfDate rest = rest := by
  unfold timeOfDate
  split
  case h_1 char behind =>
    split
    case isTrue separates =>
      -- Of the separators only a blank ends a value, and behind it nothing but the end may follow.
      have blank : char = ' ' := by
        have isEnding : char ∈ endings := begins_cons.mp ends.begins_endings
        simp only [Bool.or_eq_true, decide_eq_true_eq] at separates
        obtain (rfl | rfl) | rfl := separates
        · exact absurd isEnding (by decide)
        · exact absurd isEnding (by decide)
        · rfl
      subst blank
      have ends' : Ends behind := ends
      rw [time?_eq_none (ends'.begins (by decide))]
    case isFalse => rfl
  case h_2 => rfl

/-- No fraction of a second begins an offset. -/
theorem IsOffset.starts (isOffset : IsOffset text) :
    Starts (fun char => char ≠ '.' ∧ char.isDigit = false) text := by
  cases isOffset with
  | zero isLetter =>
    refine starts_cons ?_ _
    obtain rfl | rfl := isLetter <;> decide
  | shift isSign =>
    refine starts_cons ?_ _
    obtain rfl | rfl := isSign <;> decide

theorem readMoment_append (isMoment : IsMoment text) (ends : Ends rest) :
    readMoment (text ++ rest) = .moment rest := by
  have behindTime : Begins (fun char => char ≠ '.' ∧ char.isDigit = false) rest :=
    ends.begins (by decide)
  cases isMoment with
  | date isDate =>
    obtain ⟨year, month, day, found, someYear, someDay⟩ := date?_append isDate rest
    rw [readMoment, found]
    dsimp only
    rw [if_pos ⟨someYear, someDay⟩, timeOfDate_of_ends ends]
  | time isTime =>
    rw [readMoment, date?_time_append isTime, time?_append isTime behindTime]
  | @both separator date time offset isDate isSeparator isTime isOffset =>
    have separates : (decide (separator = 'T') || decide (separator = 't') ||
        decide (separator = ' ')) = true := by simpa [or_assoc] using isSeparator
    have whole : date ++ separator :: time ++ offset ++ rest =
        date ++ (separator :: (time ++ (offset ++ rest))) := by simp
    obtain ⟨year, month, day, found, someYear, someDay⟩ :=
      date?_append isDate (separator :: (time ++ (offset ++ rest)))
    rw [whole, readMoment, found]
    dsimp only
    rw [if_pos ⟨someYear, someDay⟩, timeOfDate, if_pos separates]
    obtain rfl | isOffset := isOffset
    · rw [List.nil_append, time?_append isTime behindTime]
      dsimp only
      rw [offset?_eq_none (ends.begins (by decide))]
      rfl
    · rw [time?_append isTime (isOffset.starts.begins rest)]
      dsimp only
      rw [offset?_append isOffset]
      rfl

end Moments

/-! ### Numbers are no moments -/

section NumbersAndMoments

variable {text rest : List Char} {value : Value}

/-- A text begins with no two or four digits that a mark of a time or a date follows. -/
def IsTimeless (text : List Char) : Prop :=
  ∀ ⦃count value : Nat⦄ ⦃digits rest : List Char⦄ ⦃mark : Char⦄, count ∈ [2, 4] →
    IsFixed count value digits → mark = '-' ∨ mark = ':' → text ≠ digits ++ mark :: rest

theorem readMoment_of_isTimeless (timeless : IsTimeless text) : readMoment text = .other := by
  have noDate : date? text = none := by
    refine Option.eq_none_iff_forall_ne_some.mpr fun found date => ?_
    unfold date? at date
    simp only [Option.bind_eq_bind, Option.bind_eq_some_iff] at date
    obtain ⟨⟨_, _⟩, yearFound, _, dash, -⟩ := date
    obtain ⟨year, rfl, isYear⟩ := fixed?_sound yearFound
    obtain rfl := skip?_sound dash
    exact timeless (by decide) isYear (.inl rfl) rfl
  have noTime : time? text = none := by
    refine Option.eq_none_iff_forall_ne_some.mpr fun behind found => ?_
    obtain ⟨part, rfl, isTime⟩ := time?_sound found
    cases isTime with
    | mk isHour =>
      rw [List.append_assoc, List.append_assoc, List.append_assoc] at timeless
      exact timeless (by decide) isHour (.inr rfl) rfl
  rw [readMoment, noDate, noTime]

/-- A text is no time and no date if no mark follows the digits that it begins with. -/
theorem isTimeless_of_begins
    (begins : Begins (fun char => char ≠ '-' ∧ char ≠ ':') (text.dropWhile Char.isDigit)) :
    IsTimeless text := by
  rintro count value digits rest mark - isFixed isMark rfl
  have noDigit : mark.isDigit = false := by
    obtain rfl | rfl := isMark <;> rfl
  rw [dropWhile_append_of_begins isFixed.isDigit (begins_cons.mpr noDigit)] at begins
  obtain ⟨noDash, noColon⟩ := begins_cons.mp begins
  exact isMark.elim noDash noColon

/-- Behind the first digits of a run stands an underscore, or what follows the run. -/
theorem IsRun.begins_dropWhile {digits : List Char} (run : IsRun Char.isDigit text digits)
    {isOne : Char → Prop} (underscore : isOne '_')
    (begins : Begins (fun char => char.isDigit = false ∧ isOne char) rest) :
    Begins isOne ((text ++ rest).dropWhile Char.isDigit) := by
  induction run with
  | last isDigit =>
    rw [List.singleton_append, List.dropWhile_cons_of_pos isDigit,
      dropWhile_of_begins (begins.imp fun _ => And.left)]
    exact begins.imp fun _ => And.right
  | next isDigit _ inductionHypothesis =>
    rw [List.cons_append, List.dropWhile_cons_of_pos isDigit]
    exact inductionHypothesis
  | spaced isDigit =>
    rw [List.cons_append, List.dropWhile_cons_of_pos isDigit, List.cons_append,
      List.dropWhile_cons_of_neg (by decide)]
    exact begins_cons.mpr underscore

theorem isTimeless_of_not_isDigit {char : Char} (noDigit : char.isDigit = false) :
    IsTimeless (char :: text) := by
  intro count value digits rest mark some isFixed _ same
  cases digits with
  | nil =>
    obtain rfl := isFixed.length
    exact absurd some (by decide)
  | cons digit digits =>
    obtain ⟨rfl, -⟩ := List.cons.inj same
    rw [isFixed.isDigit char List.mem_cons_self] at noDigit
    cases noDigit

/-- What numbers look like: a sign and digits, with a fraction, an exponent or nothing behind them;
a zero and the letter of a base; or a sign and a word. -/
theorem IsNumber.shape {limit : Option Nat} (isNumber : IsNumber limit text value) :
    (∃ sign negative whole digits behind, text = sign ++ (whole ++ behind) ∧
      IsSign sign negative ∧ IsWhole whole digits ∧
      Begins (fun char => char = '.' ∨ char = 'e' ∨ char = 'E') behind) ∨
    (∃ letter more, text = '0' :: letter :: more ∧ (letter = 'x' ∨ letter = 'o' ∨ letter = 'b')) ∨
    ∃ sign negative letter more, text = sign ++ letter :: more ∧ IsSign sign negative ∧
      (letter = 'i' ∨ letter = 'n') := by
  cases isNumber with
  | whole isSign isWhole =>
    exact .inl ⟨_, _, _, _, [], by rw [List.append_nil], isSign, isWhole, begins_nil _⟩
  | based isBase =>
    refine .inr (.inl ⟨_, _, rfl, ?_⟩)
    simp only [List.mem_cons, Prod.mk.injEq, List.not_mem_nil, or_false] at isBase
    exact isBase.imp And.left (Or.imp And.left And.left)
  | fraction isSign isWhole isFraction =>
    exact .inl ⟨_, _, _, _, _, List.append_assoc _ _ _, isSign, isWhole,
      (isFraction.starts (by decide)).to_begins⟩
  | exponent isSign isWhole isExponent =>
    exact .inl ⟨_, _, _, _, _, List.append_assoc _ _ _, isSign, isWhole,
      (isExponent.starts (by decide) (by decide)).to_begins⟩
  | @both _ _ _ _ _ exponent _ _ isSign isWhole isFraction =>
    refine .inl ⟨_, _, _, _, _, ?_, isSign, isWhole,
      (isFraction.starts (by decide)).begins exponent⟩
    rw [List.append_assoc, List.append_assoc]
  | infinite isSign => exact .inr (.inr ⟨_, _, 'i', _, rfl, isSign, by decide⟩)
  | undefined isSign => exact .inr (.inr ⟨_, _, 'n', _, rfl, isSign, by decide⟩)

theorem IsNumber.isTimeless {limit : Option Nat} (isNumber : IsNumber limit text value)
    (ends : Ends rest) : IsTimeless (text ++ rest) := by
  obtain ⟨sign, negative, whole, digits, behind, rfl, isSign, isWhole, begins⟩ |
    ⟨letter, more, rfl, isBase⟩ | ⟨sign, negative, letter, more, rfl, isSign, isLetter⟩ :=
      isNumber.shape
  · have others : Begins (fun char => char.isDigit = false ∧ char ≠ '-' ∧ char ≠ ':')
        (behind ++ rest) := by
      refine .append (begins.imp ?_) (ends.begins (by decide))
      rintro char (rfl | rfl | rfl) <;> decide
    rw [List.append_assoc, List.append_assoc]
    cases isSign with
    | none => exact isTimeless_of_begins (isWhole.isRun.begins_dropWhile (by decide) others)
    | minus => exact isTimeless_of_not_isDigit rfl
    | plus => exact isTimeless_of_not_isDigit rfl
  · have other : letter.isDigit = false ∧ letter ≠ '-' ∧ letter ≠ ':' := by
      obtain rfl | rfl | rfl := isBase <;> decide
    refine isTimeless_of_begins ?_
    rw [List.cons_append, List.dropWhile_cons_of_pos (by decide), List.cons_append,
      dropWhile_of_begins (begins_cons.mpr other.1)]
    exact begins_cons.mpr other.2
  · have noDigit : letter.isDigit = false := by
      obtain rfl | rfl := isLetter <;> rfl
    rw [List.append_assoc]
    cases isSign with
    | none => exact isTimeless_of_not_isDigit noDigit
    | minus => exact isTimeless_of_not_isDigit rfl
    | plus => exact isTimeless_of_not_isDigit rfl

end NumbersAndMoments

end Toml

end PolyIntake
