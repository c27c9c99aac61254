/-
This file shows that the numbers, moments and strings of a configuration file are
read as the grammar has them: what is taken from the beginning of a text is a part
of the kind that is read. A number that is refused for having too many digits has
them in the text, and behind them it does not go on.

How far a part goes is otherwise the reader's own choice. A reading that stops
early is sound as well, and what it leaves is for what follows to refuse.
-/

import PolyIntake.Proofs.TomlGrammar

namespace PolyIntake

namespace Toml

/-! ### Parts of a text -/

/-- A text opens with a part of some kind, and the rest follows. -/
def Opens (derived : List Char → Prop) (text rest : List Char) : Prop :=
  ∃ part, text = part ++ rest ∧ derived part

/-- A reading takes a part of some kind with its value from the beginning of a text, or refuses the
text for an integer that is too long and that the text comes to. -/
def Accounts {Part : Type} (derived : List Char → Part → Prop) (overlong : Nat → List Char → Prop)
    (text : List Char) : Reading Part → Prop
  | .ok (part, rest) => Opens (derived · part) text rest
  | .error (.overlong count) => overlong count text
  | .error .malformed => True

/-! ### Numbers -/

/-- Digits are found that go on from one in front of them. -/
theorem moreDigits_sound (isDigit : Char → Bool) (text : List Char) :
    Opens (fun part => ∀ digit, isDigit digit = true →
      IsRun isDigit (digit :: part) (digit :: (moreDigits isDigit text).1)) text
      (moreDigits isDigit text).2 := by
  fun_induction moreDigits isDigit text with
  | case1 => exact ⟨[], rfl, fun digit isOne => .last isOne⟩
  | case2 char rest isOne digits rest' found inductionHypothesis =>
    obtain ⟨part, same, run⟩ := inductionHypothesis
    rw [found] at same run
    exact ⟨'_' :: char :: part, by rw [same]; rfl,
      fun digit isOne' => .spaced isOne' (run char isOne)⟩
  | case3 => exact ⟨[], rfl, fun digit isOne => .last isOne⟩
  | case4 char rest _ isOne digits rest' found inductionHypothesis =>
    obtain ⟨part, same, run⟩ := inductionHypothesis
    rw [found] at same run
    exact ⟨char :: part, by rw [same]; rfl, fun digit isOne' => .next isOne' (run char isOne)⟩
  | case5 => exact ⟨[], rfl, fun digit isOne => .last isOne⟩

/-- A run of digits begins with one. -/
theorem IsRun.exists_cons {isDigit : Char → Bool} {text digits : List Char}
    (run : IsRun isDigit text digits) :
    ∃ digit more, text = digit :: more ∧ isDigit digit = true := by
  cases run with
  | last isOne => exact ⟨_, _, rfl, isOne⟩
  | next isOne => exact ⟨_, _, rfl, isOne⟩
  | spaced isOne => exact ⟨_, _, rfl, isOne⟩

/-- No run of digits goes on at the beginning of a text. -/
def Stops (isDigit : Char → Bool) (text : List Char) : Prop :=
  ∀ ⦃run digits rest : List Char⦄, IsRun isDigit run digits →
    text ≠ run ++ rest ∧ text ≠ '_' :: run ++ rest

/-- Digits are taken as far as they go. -/
theorem stops_moreDigits {isDigit : Char → Bool} (plain : isDigit '_' = false) (text : List Char) :
    Stops isDigit (moreDigits isDigit text).2 := by
  fun_induction moreDigits isDigit text with
  | case1 =>
    intro run digits rest isRun
    obtain ⟨digit, more, rfl, -⟩ := isRun.exists_cons
    exact ⟨List.cons_ne_nil _ _ ∘ Eq.symm, List.cons_ne_nil _ _ ∘ Eq.symm⟩
  | case2 char rest isOne digits rest' found inductionHypothesis =>
    rw [found] at inductionHypothesis
    exact inductionHypothesis
  | case3 char rest noDigit =>
    intro run digits behind isRun
    obtain ⟨digit, more, rfl, isOne⟩ := isRun.exists_cons
    constructor
    · intro same
      obtain ⟨rfl, -⟩ := List.cons.inj same
      rw [plain] at isOne
      cases isOne
    · intro same
      obtain ⟨-, rfl, -⟩ := List.cons.inj same
      exact noDigit isOne
  | case4 char rest _ isOne digits rest' found inductionHypothesis =>
    rw [found] at inductionHypothesis
    exact inductionHypothesis
  | case5 char rest unspaced noDigit =>
    intro run digits behind isRun
    obtain ⟨digit, more, rfl, isOne⟩ := isRun.exists_cons
    constructor
    · intro same
      obtain ⟨rfl, -⟩ := List.cons.inj same
      exact noDigit isOne
    · intro same
      obtain ⟨rfl, rfl⟩ := List.cons.inj same
      exact unspaced _ _ rfl rfl

theorem digits?_sound {isDigit : Char → Bool} {text digits rest : List Char}
    (found : digits? isDigit text = some (digits, rest)) :
    Opens (IsRun isDigit · digits) text rest ∧ (isDigit '_' = false → Stops isDigit rest) := by
  unfold digits? at found
  split at found
  case h_1 => cases found
  case h_2 char rest' =>
    split at found
    case isTrue isOne =>
      cases found
      obtain ⟨part, same, run⟩ := moreDigits_sound isDigit rest'
      exact ⟨⟨char :: part, congrArg _ same, run char isOne⟩,
        fun plain => stops_moreDigits plain rest'⟩
    case isFalse => cases found

theorem sign_sound {text rest : List Char} {negative : Bool}
    (found : sign text = (negative, rest)) : Opens (IsSign · negative) text rest := by
  unfold sign at found
  split at found
  case h_1 =>
    cases found
    exact ⟨['-'], rfl, .minus⟩
  case h_2 =>
    cases found
    exact ⟨['+'], rfl, .plus⟩
  case h_3 =>
    cases found
    exact ⟨[], rfl, .none⟩

/-- A sign is read where no other one stands behind it. -/
theorem sign_append {text rest : List Char} {negative : Bool} (isSign : IsSign text negative)
    (noSign : ∀ char ∈ rest.head?, char ≠ '-' ∧ char ≠ '+') :
    sign (text ++ rest) = (negative, rest) := by
  cases isSign with
  | none =>
    rw [List.nil_append]
    unfold sign
    split
    case h_1 => exact absurd rfl (noSign '-' rfl).1
    case h_2 => exact absurd rfl (noSign '+' rfl).2
    case h_3 => rfl
  | minus => rfl
  | plus => rfl

/-- A digit is no sign. -/
theorem not_isSign_of_isDigit {char : Char} (isDigit : char.isDigit = true) :
    char ≠ '-' ∧ char ≠ '+' := by
  constructor <;> rintro rfl <;> exact absurd isDigit (by decide)

theorem exponent?_sound {text rest : List Char} {exponent : Int}
    (found : exponent? text = some (exponent, rest)) :
    Opens (IsExponent · exponent) text rest := by
  unfold exponent? at found
  split at found
  case h_1 mark text =>
    split at found
    case isTrue isMark =>
      cases signed : sign text with
      | mk negative behind =>
        rw [signed] at found
        obtain ⟨⟨digits, rest⟩, digitsFound, same⟩ := Option.map_eq_some_iff.mp found
        cases same
        obtain ⟨sign, rfl, isSign⟩ := sign_sound signed
        obtain ⟨⟨run, rfl, isRun⟩, -⟩ := digits?_sound digitsFound
        exact ⟨mark :: sign ++ run, by simp, .mk (by simpa using isMark) isSign isRun⟩
    case isFalse => cases found
  case h_2 => cases found

theorem fraction?_sound {text digits rest : List Char}
    (found : fraction? text = some (digits, rest)) :
    Opens (IsFraction · digits) text rest := by
  unfold fraction? at found
  split at found
  case h_1 text =>
    obtain ⟨⟨run, same, isRun⟩, -⟩ := digits?_sound found
    exact ⟨'.' :: run, congrArg _ same, .mk isRun⟩
  case h_2 => cases found

theorem IsFraction.not_isEmpty {text digits : List Char} (isFraction : IsFraction text digits) :
    ¬digits.isEmpty = true := by
  cases isFraction with
  | mk run => cases run <;> simp

/-- A digit is read where one stands. -/
theorem digits?_ne_none {isDigit : Char → Bool} {text digits : List Char}
    (run : IsRun isDigit text digits) (rest : List Char) :
    digits? isDigit (text ++ rest) ≠ none := by
  obtain ⟨digit, more, rfl, isOne⟩ := run.exists_cons
  rw [List.cons_append, digits?, if_pos isOne]
  exact Option.some_ne_none _

theorem fraction?_ne_none {text digits : List Char} (isFraction : IsFraction text digits)
    (rest : List Char) : fraction? (text ++ rest) ≠ none := by
  cases isFraction with
  | mk run => exact digits?_ne_none run rest

theorem exponent?_ne_none {text : List Char} {place : Int} (isExponent : IsExponent text place)
    (rest : List Char) : exponent? (text ++ rest) ≠ none := by
  cases isExponent with
  | @mk mark sign run digits negative isMark isSign isRun =>
    have noSign : ∀ char ∈ (run ++ rest).head?, char ≠ '-' ∧ char ≠ '+' := by
      obtain ⟨digit, more, rfl, isOne⟩ := isRun.exists_cons
      rintro _ ⟨⟩
      exact not_isSign_of_isDigit isOne
    rw [List.append_assoc, List.cons_append, exponent?, if_pos (by simpa using isMark),
      sign_append isSign noSign]
    exact mt Option.map_eq_none_iff.mp (digits?_ne_none isRun rest)

/-- A number does not go on where no digits, no fraction and no exponent are found. -/
theorem not_goesOn {text : List Char} (stops : Stops Char.isDigit text)
    (noFraction : fraction? text = none) (noExponent : exponent? text = none) :
    ¬GoesOn text := by
  rintro (run | run | isFraction | isExponent)
  · exact (stops run).1 rfl
  · exact (stops run).2 rfl
  · exact fraction?_ne_none isFraction _ noFraction
  · exact exponent?_ne_none isExponent _ noExponent

/-- The digits in front of the point of a decimal number. -/
def whole? : List Char → Option (List Char × List Char)
  | '0' :: rest => some (['0'], rest)
  | rest => digits? Char.isDigit rest

theorem whole?_sound {text digits rest : List Char} (found : whole? text = some (digits, rest)) :
    Opens (IsWhole · digits) text rest ∧
      (Decimal.longest < digits.length → Stops Char.isDigit rest) := by
  unfold whole? at found
  split at found
  case h_1 =>
    cases found
    exact ⟨⟨['0'], rfl, .zero⟩, fun long => absurd long (by decide)⟩
  case h_2 other =>
    obtain ⟨⟨part, rfl, run⟩, stops⟩ := digits?_sound found
    refine ⟨⟨part, rfl, .run run ?_⟩, fun _ => stops (by decide)⟩
    intro zero
    obtain ⟨more, rfl⟩ := List.head?_eq_some_iff.mp zero
    exact other _ rfl

/-- What a decimal number comes to behind the digits in front of its point. -/
def behindWhole (negative : Bool) (digits rest : List Char) : Option (Reading Value) :=
  let (fraction, rest) := (fraction? rest).getD ([], rest)
  match exponent? rest with
  | some (exponent, rest) =>
    some (.ok
      (.float (Decimal.float negative (digits ++ fraction) (exponent - fraction.length)), rest))
  | none =>
    if fraction.isEmpty then
      if Decimal.longest < digits.length then some (.error (.overlong digits.length))
      else some (.ok (.int (signed negative (ofDigits 10 digits)), rest))
    else some (.ok (.float (Decimal.float negative (digits ++ fraction) (-fraction.length)), rest))

/-- A decimal number is read sign, digits and the rest. -/
theorem decimal?_eq {text behind : List Char} {negative : Bool}
    (signed : sign text = (negative, behind)) : decimal? text =
    (whole? behind).bind fun (digits, rest) => behindWhole negative digits rest := by
  unfold decimal?
  rw [signed]
  dsimp only
  split
  case h_1 => rfl
  case h_2 other =>
    rw [whole?.eq_2 _ other]
    rfl

theorem decimal?_sound {text : List Char} {reading : Reading Value}
    (found : decimal? text = some reading) :
    Accounts (IsNumber readLimit) OverlongNumber text reading := by
  cases signed : sign text with
  | mk negative behind =>
    obtain ⟨sign, rfl, isSign⟩ := sign_sound signed
    rw [decimal?_eq signed, Option.bind_eq_some_iff] at found
    obtain ⟨⟨digits, rest⟩, wholeFound, found⟩ := found
    obtain ⟨⟨whole, rfl, isWhole⟩, stops⟩ := whole?_sound wholeFound
    dsimp only [behindWhole] at found
    cases fractionFound : fraction? rest with
    | none =>
      rw [fractionFound] at found
      dsimp only [Option.getD_none] at found
      split at found
      case h_1 exponent behind exponentFound =>
        obtain ⟨part, rfl, isExponent⟩ := exponent?_sound exponentFound
        cases found
        refine ⟨sign ++ whole ++ part, by simp, ?_⟩
        rw [List.append_nil, List.length_nil, Int.natCast_zero, Int.sub_zero]
        exact .exponent isSign isWhole isExponent
      case h_2 exponentFound =>
        rw [if_pos List.isEmpty_nil] at found
        split at found
        case isTrue long =>
          cases found
          have complete := not_goesOn (stops long) fractionFound exponentFound
          have overlong := OverlongNumber.mk isSign isWhole rfl long complete
          rwa [List.append_assoc] at overlong
        case isFalse short =>
          cases found
          refine ⟨sign ++ whole, by simp, .whole isSign isWhole ?_⟩
          rintro most ⟨⟩
          exact Nat.le_of_not_lt short
    | some pair =>
      obtain ⟨fraction, behind⟩ := pair
      rw [fractionFound] at found
      obtain ⟨part, rfl, isFraction⟩ := fraction?_sound fractionFound
      dsimp only [Option.getD_some] at found
      split at found
      case h_1 exponent rest exponentFound =>
        obtain ⟨part', rfl, isExponent⟩ := exponent?_sound exponentFound
        cases found
        exact ⟨sign ++ whole ++ part ++ part', by simp,
          .both isSign isWhole isFraction isExponent⟩
      case h_2 =>
        rw [if_neg isFraction.not_isEmpty] at found
        cases found
        exact ⟨sign ++ whole ++ part, by simp, .fraction isSign isWhole isFraction⟩

theorem based?_sound {limit : Option Nat} {text rest : List Char} {value : Value}
    (found : based? text = some (value, rest)) : Opens (IsNumber limit · value) text rest := by
  unfold based? at found
  split at found
  case h_1 letter text =>
    have sound {base : Nat} (isBase : (letter, base) ∈ [('x', 16), ('o', 8), ('b', 2)])
        (found : (digits? (isDigitTo base) text).map
          (fun (digits, rest) => (Value.int (ofDigits base digits), rest)) = some (value, rest)) :
        Opens (IsNumber limit · value) ('0' :: letter :: text) rest := by
      obtain ⟨⟨digits, rest⟩, digitsFound, same⟩ := Option.map_eq_some_iff.mp found
      cases same
      obtain ⟨⟨run, rfl, isRun⟩, -⟩ := digits?_sound digitsFound
      exact ⟨'0' :: letter :: run, rfl, .based isBase isRun⟩
    dsimp only at found
    split at found
    case h_1 => exact sound (by simp) found
    case h_2 => exact sound (by simp) found
    case h_3 => exact sound (by simp) found
    case h_4 => cases found
  case h_2 => cases found

theorem special?_sound {limit : Option Nat} {text rest : List Char} {value : Value}
    (found : special? text = some (value, rest)) : Opens (IsNumber limit · value) text rest := by
  unfold special? at found
  cases signed : sign text with
  | mk negative behind =>
    obtain ⟨sign, rfl, isSign⟩ := sign_sound signed
    rw [signed] at found
    dsimp only at found
    split at found
    case h_1 =>
      cases found
      exact ⟨sign ++ ['i', 'n', 'f'], by simp, .infinite isSign⟩
    case h_2 =>
      cases found
      exact ⟨sign ++ ['n', 'a', 'n'], by simp, .undefined isSign⟩
    case h_3 => cases found

/-- What has to be there by the rules of the format is taken, or nothing is refused but the
text. -/
theorem accounts_demanded {Part : Type} {derived : List Char → Part → Prop}
    {overlong : Nat → List Char → Prop} {text : List Char} {found : Option (Part × List Char)}
    (sound : ∀ part rest, found = some (part, rest) → Opens (derived · part) text rest) :
    Accounts derived overlong text (demanded found) := by
  cases found with
  | none => exact trivial
  | some pair => exact sound pair.1 pair.2 rfl

theorem number_sound (text : List Char) :
    Accounts (IsNumber readLimit) OverlongNumber text (number text) := by
  unfold number
  split
  case h_1 reading found => exact based?_sound found
  case h_2 =>
    split
    case h_1 reading found => exact decimal?_sound found
    case h_2 => exact accounts_demanded fun value rest found => special?_sound found

/-! ### Moments -/

theorem fixed?_sound {count value : Nat} {text rest : List Char}
    (found : fixed? count text = some (value, rest)) : Opens (IsFixed count value) text rest := by
  unfold fixed? at found
  dsimp only at found
  split at found
  case isTrue whole =>
    cases found
    simp only [Bool.and_eq_true, decide_eq_true_eq, List.all_eq_true] at whole
    exact ⟨text.take count, (List.take_append_drop count text).symm, whole.1, whole.2, rfl⟩
  case isFalse => cases found

theorem skip?_sound {char : Char} {text rest : List Char} (found : skip? char text = some rest) :
    text = char :: rest := by
  unfold skip? at found
  split at found
  case h_1 =>
    split at found
    case isTrue same =>
      cases found
      rw [same]
    case isFalse => cases found
  case h_2 => cases found

theorem below?_sound {limit : Nat} {text rest : List Char}
    (found : below? limit text = some rest) :
    ∃ value, value < limit ∧ Opens (IsFixed 2 value) text rest := by
  unfold below? at found
  simp only [Option.bind_eq_bind, Option.bind_eq_some_iff] at found
  obtain ⟨⟨value, behind⟩, fixed, found⟩ := found
  split at found
  case isTrue small =>
    cases found
    exact ⟨value, small, fixed?_sound fixed⟩
  case isFalse => cases found

theorem time?_sound {text rest : List Char} (found : time? text = some rest) :
    Opens IsTime text rest := by
  unfold time? at found
  simp only [Option.bind_eq_bind, Option.bind_eq_some_iff] at found
  obtain ⟨_, hourFound, _, colon, _, minuteFound, _, colon', _, secondFound, found⟩ := found
  obtain ⟨hour, someHour, hourText, rfl, isHour⟩ := below?_sound hourFound
  obtain rfl := skip?_sound colon
  obtain ⟨minute, someMinute, minuteText, rfl, isMinute⟩ := below?_sound minuteFound
  obtain rfl := skip?_sound colon'
  obtain ⟨second, someSecond, secondText, rfl, isSecond⟩ := below?_sound secondFound
  have whole {fraction : List Char} (isFraction : IsOptional IsPartOfSecond fraction) :=
    IsTime.mk isHour isMinute isSecond someHour someMinute someSecond isFraction
  split at found
  case h_1 digit more =>
    split at found
    case isTrue isOne =>
      cases found
      have isDigit : ∀ char ∈ digit :: more.takeWhile Char.isDigit, char.isDigit = true := by
        intro char member
        obtain rfl | member := List.mem_cons.mp member
        · exact isOne
        · exact List.all_eq_true.mp List.all_takeWhile char member
      refine ⟨_, ?_, whole (.inr (.mk (List.cons_ne_nil _ _) isDigit))⟩
      simp [List.takeWhile_append_dropWhile]
    case isFalse =>
      cases found
      exact ⟨_, by simp, whole (.inl rfl)⟩
  case h_2 =>
    cases found
    exact ⟨_, by simp, whole (.inl rfl)⟩

theorem offset?_sound {text rest : List Char} (found : offset? text = some rest) :
    Opens IsOffset text rest := by
  unfold offset? at found
  split at found
  case h_1 char behind =>
    split at found
    case isTrue isLetter =>
      cases found
      exact ⟨[char], rfl, .zero (by simpa using isLetter)⟩
    case isFalse =>
      split at found
      case isTrue isSign =>
        simp only [Option.bind_eq_bind, Option.bind_eq_some_iff] at found
        obtain ⟨_, hourFound, _, colon, minuteFound⟩ := found
        obtain ⟨hour, someHour, hourText, rfl, isHour⟩ := below?_sound hourFound
        obtain rfl := skip?_sound colon
        obtain ⟨minute, someMinute, minuteText, rfl, isMinute⟩ := below?_sound minuteFound
        exact ⟨char :: hourText ++ ':' :: minuteText, by simp,
          .shift (by simpa using isSign) isHour isMinute someHour someMinute⟩
      case isFalse => cases found
  case h_2 => cases found

/-- A written date is one that exists, given that there is such a day in the month. -/
theorem date?_sound {year month day : Nat} {text rest : List Char}
    (found : date? text = some ((year, month, day), rest)) (someYear : 1 ≤ year)
    (someDay : day ≤ daysIn year month) : Opens IsDate text rest := by
  unfold date? at found
  simp only [Option.bind_eq_bind, Option.bind_eq_some_iff] at found
  obtain ⟨⟨_, _⟩, yearFound, _, dash, ⟨_, _⟩, monthFound, _, dash', ⟨_, _⟩, dayFound, found⟩ :=
    found
  obtain ⟨yearText, rfl, isYear⟩ := fixed?_sound yearFound
  obtain rfl := skip?_sound dash
  obtain ⟨monthText, rfl, isMonth⟩ := fixed?_sound monthFound
  obtain rfl := skip?_sound dash'
  obtain ⟨dayText, rfl, isDay⟩ := fixed?_sound dayFound
  split at found
  case isTrue bounds =>
    simp only [Bool.and_eq_true, decide_eq_true_eq] at bounds
    cases found
    exact ⟨_, by simp, .mk isYear isMonth isDay someYear ⟨bounds.1.1.1, bounds.1.1.2⟩
      ⟨bounds.1.2, someDay⟩⟩
  case isFalse => cases found

/-- Behind a date, a time of day and its offset are taken if they are there. -/
theorem timeOfDate_sound {date : List Char} (isDate : IsDate date) (text : List Char) :
    Opens IsMoment (date ++ text) (timeOfDate text) := by
  have alone : Opens IsMoment (date ++ text) text := ⟨date, rfl, .date isDate⟩
  unfold timeOfDate
  split
  case h_1 separator behind =>
    split
    case isTrue isSeparator =>
      have separates : separator = 'T' ∨ separator = 't' ∨ separator = ' ' := by
        simpa [or_assoc] using isSeparator
      split
      case h_1 behind' timeFound =>
        obtain ⟨time, rfl, isTime⟩ := time?_sound timeFound
        cases offsetFound : offset? behind' with
        | none => exact ⟨_, by simp, .both isDate separates isTime (.inl rfl)⟩
        | some rest =>
          obtain ⟨offset, rfl, isOffset⟩ := offset?_sound offsetFound
          exact ⟨_, by simp, .both isDate separates isTime (.inr isOffset)⟩
      case h_2 => exact alone
    case isFalse => exact alone
  case h_2 => exact alone

theorem readMoment_sound {text rest : List Char} (found : readMoment text = .moment rest) :
    Opens IsMoment text rest := by
  unfold readMoment at found
  split at found
  case h_1 year month day behind dateFound =>
    split at found
    case isTrue isDay =>
      cases found
      obtain ⟨date, rfl, isDate⟩ := date?_sound dateFound isDay.1 isDay.2
      exact timeOfDate_sound isDate behind
    case isFalse => cases found
  case h_2 =>
    split at found
    case h_1 rest timeFound =>
      cases found
      obtain ⟨time, same, isTime⟩ := time?_sound timeFound
      exact ⟨time, same, .time isTime⟩
    case h_2 => cases found

/-! ### Strings -/

/-- What a run of characters of one kind leaves is what follows it. -/
theorem drop_length_takeWhile (isOne : Char → Bool) (text : List Char) :
    text.drop (text.takeWhile isOne).length = text.dropWhile isOne := by
  have apart : (text.takeWhile isOne ++ text.dropWhile isOne).drop (text.takeWhile isOne).length =
      text.dropWhile isOne := List.drop_left
  rwa [List.takeWhile_append_dropWhile] at apart

/-- The quotes at the end of a string. -/
def closing (quote : Char) (multiline : Bool) : List Char :=
  List.replicate (if multiline then 3 else 1) quote

/-- A text opens with the inside of a string, behind so many quotes in a row, and its closing
quotes. -/
def Closes (quote : Char) (multiline : Bool) (quotes : Nat) (content text rest : List Char) :
    Prop :=
  ∃ inner, text = inner ++ closing quote multiline ++ rest ∧
    IsQuoted quote multiline quotes inner content

/-- The quotes behind which a text stands do not close a string together with those that the text
begins with. -/
def StaysOpen (quote : Char) : Nat → List Char → Prop
  | 0, _ => True
  | 1, text => ¬[quote, quote] <+: text
  | 2, text => ¬[quote] <+: text
  | _, _ => False

theorem staysOpen_zero (quote : Char) (text : List Char) : StaysOpen quote 0 text :=
  trivial

section Closes

variable {quote : Char} {multiline : Bool} {quotes : Nat} {content text rest : List Char}

theorem Closes.cons_char {char : Char} (closes : Closes quote multiline 0 content text rest)
    (isAllowed : isPlain char = true ∨ multiline = true ∧ char = '\n') (noQuote : char ≠ quote)
    (noMark : quote = '"' → char ≠ '\\') :
    Closes quote multiline quotes (char :: content) (char :: text) rest := by
  obtain ⟨inner, rfl, quoted⟩ := closes
  exact ⟨char :: inner, rfl, .char isAllowed noQuote noMark quoted⟩

theorem Closes.cons_quote (closes : Closes quote true (quotes + 1) content text rest)
    (few : quotes < 2) : Closes quote true quotes (quote :: content) (quote :: text) rest := by
  obtain ⟨inner, rfl, quoted⟩ := closes
  exact ⟨quote :: inner, rfl, .quote rfl few quoted⟩

theorem Closes.cons_escape {escape : List Char} {char : Char}
    (closes : Closes '"' multiline 0 content text rest) (isEscape : IsEscape escape char) :
    Closes '"' multiline quotes (char :: content) ('\\' :: (escape ++ text)) rest := by
  obtain ⟨inner, rfl, quoted⟩ := closes
  exact ⟨'\\' :: escape ++ inner, by simp, .escape rfl isEscape quoted⟩

/-- A quote that does not close the string leaves it open. -/
theorem StaysOpen.behind_quote (stays : StaysOpen quote quotes (quote :: text))
    (apart : ¬[quote, quote] <+: text) : quotes < 2 ∧ StaysOpen quote (quotes + 1) text := by
  have within : ∀ more, more <+: text → quote :: more <+: quote :: text :=
    fun more begins => List.cons_prefix_cons.mpr ⟨rfl, begins⟩
  match quotes, stays with
  | 0, _ => exact ⟨by omega, apart⟩
  | 1, stays => exact ⟨by omega, fun begins => stays (within _ begins)⟩
  | 2, stays => exact absurd (within [] List.nil_prefix) stays

/-- Where three quotes follow, none stand in front of them. -/
theorem StaysOpen.eq_zero (stays : StaysOpen quote quotes (quote :: quote :: quote :: text)) :
    quotes = 0 := by
  match quotes, stays with
  | 0, _ => rfl
  | 1, stays => exact absurd ⟨quote :: text, rfl⟩ stays
  | 2, stays => exact absurd ⟨quote :: quote :: text, rfl⟩ stays

/-- Three quotes in a row close a string, and up to two of those behind them belong to it. -/
theorem closes_extraQuotes {extra : List Char} (found : extraQuotes quote text = (extra, rest)) :
    Closes quote true 0 extra ([quote, quote, quote] ++ text) rest := by
  unfold extraQuotes at found
  have nothing : Closes quote true 0 [] ([quote, quote, quote] ++ text) text := ⟨[], rfl, .nil⟩
  have one : Closes quote true 0 [quote] ([quote, quote, quote] ++ quote :: rest) rest :=
    ⟨[quote], rfl, .quote rfl (by omega) .nil⟩
  split at found
  case h_1 first second behind =>
    split at found
    case isTrue isFirst =>
      subst isFirst
      split at found
      case isTrue isSecond =>
        subst isSecond
        cases found
        exact ⟨[second, second], rfl, .quote rfl (by omega) (.quote rfl (by omega) .nil)⟩
      case isFalse =>
        cases found
        exact one
    case isFalse =>
      cases found
      exact nothing
  case h_2 last =>
    split at found
    case isTrue isLast =>
      subst isLast
      cases found
      exact one
    case isFalse =>
      cases found
      exact nothing
  case h_3 =>
    cases found
    exact nothing

end Closes

/-! ### Text as it stands -/

/-- Plain characters other than the apostrophe stand for themselves. -/
theorem isQuoted_of_plain {content : List Char}
    (plain : ∀ char ∈ content, isPlain char = true ∧ char ≠ '\'') (quotes : Nat) :
    IsQuoted '\'' false quotes content content := by
  induction content generalizing quotes with
  | nil => exact .nil
  | cons char content inductionHypothesis =>
    obtain ⟨first, others⟩ := List.forall_mem_cons.mp plain
    exact .char (.inl first.1) first.2 (fun basic => by cases basic) (inductionHypothesis others 0)

theorem literal?_sound {text content rest : List Char}
    (found : literal? text = some (content, rest)) : Closes '\'' false 0 content text rest := by
  unfold literal? at found
  dsimp only at found
  rw [drop_length_takeWhile] at found
  have apart : text.takeWhile (fun char => decide (char ≠ '\'')) ++
      text.dropWhile (fun char => decide (char ≠ '\'')) = text := List.takeWhile_append_dropWhile
  split at found
  case h_1 last behind dropped =>
    split at found
    case isTrue plain =>
      cases found
      obtain rfl : last = '\'' := by
        have stopped := List.head?_dropWhile_not (fun char => decide (char ≠ '\'')) text
        rw [dropped] at stopped
        simpa using stopped
      rw [dropped] at apart
      refine ⟨_, by rw [List.append_assoc]; exact apart.symm, isQuoted_of_plain ?_ 0⟩
      intro char member
      have other := List.all_eq_true.mp List.all_takeWhile char member
      exact ⟨List.all_eq_true.mp plain char member, by simpa using other⟩
    case isFalse => cases found
  case h_2 => cases found

theorem literalLines?_sound {text content rest : List Char}
    (found : literalLines? text = some (content, rest)) {quotes : Nat}
    (stays : StaysOpen '\'' quotes text) : Closes '\'' true quotes content text rest := by
  fun_induction literalLines? text generalizing content quotes with
  | case1 => cases found
  | case2 text extra rest' extraFound =>
    cases found
    obtain rfl := stays.eq_zero
    exact closes_extraQuotes extraFound
  | case3 char text apart isAllowed inductionHypothesis =>
    obtain ⟨⟨content, rest⟩, more, same⟩ := Option.map_eq_some_iff.mp found
    cases same
    by_cases isQuote : char = '\''
    · subst isQuote
      have few : ¬['\'', '\''] <+: text := fun ⟨_, same⟩ => apart _ rfl same.symm
      obtain ⟨room, stays⟩ := stays.behind_quote few
      exact (inductionHypothesis more stays).cons_quote room
    · have closes : Closes '\'' true 0 content text rest := inductionHypothesis more trivial
      exact closes.cons_char (by simpa using isAllowed) isQuote (fun basic => by cases basic)
  | case4 => cases found

/-! ### Text with escapes -/

theorem numbered?_sound {count : Nat} {letter : Char} {text chars rest : List Char}
    (isLetter : (letter, count) ∈ [('u', 4), ('U', 8)])
    (found : numbered? count text = some (chars, rest)) :
    ∃ char, chars = [char] ∧ Opens (IsEscape · char) (letter :: text) rest := by
  unfold numbered? at found
  dsimp only at found
  split at found
  case isTrue length =>
    obtain ⟨char, point, same⟩ := Option.map_eq_some_iff.mp found
    cases same
    exact ⟨char, rfl, letter :: text.take count, by simp, .number isLetter length point⟩
  case isFalse => cases found

/-- What stands behind a backslash at the end of a line for nothing. -/
def IsContinuation (part rest : List Char) : Prop :=
  ∃ blanks spaces, part = blanks ++ '\n' :: spaces ∧ (∀ char ∈ blanks, isBlank char = true) ∧
    (∀ char ∈ spaces, isSpace char = true) ∧ ∀ char ∈ rest.head?, isSpace char = false

/-- Blanks and line feeds are taken behind a backslash, unless the text ends with the line. -/
theorem continued?_sound {text rest : List Char} (found : continued? text = some rest)
    (filled : rest ≠ []) : ∃ part, text = part ++ rest ∧ IsContinuation part rest := by
  unfold continued? at found
  split at found
  case h_1 =>
    cases found
    exact absurd rfl filled
  case h_2 behind dropped =>
    cases found
    refine ⟨text.takeWhile isBlank ++ '\n' :: behind.takeWhile isSpace, ?_, _, _, rfl,
      List.all_eq_true.mp List.all_takeWhile, List.all_eq_true.mp List.all_takeWhile, ?_⟩
    · rw [List.append_assoc, List.cons_append, List.takeWhile_append_dropWhile, ← dropped,
        List.takeWhile_append_dropWhile]
    · intro char head
      have stopped := List.head?_dropWhile_not isSpace behind
      rw [Option.mem_def.mp head] at stopped
      simpa using stopped
  case h_3 => cases found

/-- Behind a backslash stands a character with an escape, or the end of a line that goes on. -/
theorem escaped?_sound {multiline : Bool} {text chars rest : List Char}
    (found : escaped? multiline text = some (chars, rest)) (filled : rest ≠ []) :
    (∃ char, chars = [char] ∧ Opens (IsEscape · char) text rest) ∨
      multiline = true ∧ chars = [] ∧ ∃ part, text = part ++ rest ∧ IsContinuation part rest := by
  unfold escaped? at found
  split at found
  case h_1 => cases found
  case h_2 letter text =>
    have single {char : Char} (isLetter : (letter, char) ∈ [('b', Char.ofNat 8), ('t', '\t'),
        ('n', '\n'), ('f', Char.ofNat 12), ('r', '\r'), ('"', '"'), ('\\', '\\')])
        (found : some ([char], text) = some (chars, rest)) :
        ∃ char, chars = [char] ∧ Opens (IsEscape · char) (letter :: text) rest := by
      cases found
      exact ⟨char, rfl, [letter], rfl, .letter isLetter⟩
    split at found
    case h_1 => exact .inl (single (by simp) found)
    case h_2 => exact .inl (single (by simp) found)
    case h_3 => exact .inl (single (by simp) found)
    case h_4 => exact .inl (single (by simp) found)
    case h_5 => exact .inl (single (by simp) found)
    case h_6 => exact .inl (single (by simp) found)
    case h_7 => exact .inl (single (by simp) found)
    case h_8 => exact .inl (numbered?_sound (by simp) found)
    case h_9 => exact .inl (numbered?_sound (by simp) found)
    case h_10 =>
      split at found
      case isTrue isSpace =>
        obtain ⟨rest, continued, same⟩ := Option.map_eq_some_iff.mp found
        cases same
        exact .inr ⟨(Bool.and_eq_true_iff.mp isSpace).1, rfl, continued?_sound continued filled⟩
      case isFalse => cases found

theorem Closes.cons_continuation {part content text rest : List Char} {quotes : Nat}
    (closes : Closes '"' true 0 content text rest) (isContinuation : IsContinuation part text) :
    Closes '"' true quotes content ('\\' :: (part ++ text)) rest := by
  obtain ⟨inner, rfl, quoted⟩ := closes
  obtain ⟨blanks, spaces, rfl, isBlanks, isSpaces, complete⟩ := isContinuation
  refine ⟨'\\' :: blanks ++ '\n' :: spaces ++ inner, by simp,
    .continued rfl rfl isBlanks isSpaces ?_ quoted⟩
  cases inner with
  | nil => exact fun char head => by cases head
  | cons first inner => exact complete

/-- The rest of a string with escapes. The induction is on the steps, and every step takes one
character of the content, or none where a line goes on. -/
theorem basicTail?_sound {multiline : Bool} {steps quotes : Nat}
    {read text content rest : List Char}
    (found : basicTail? multiline steps read text = some (content, rest))
    (stays : StaysOpen '"' quotes text) :
    ∃ body, content = read.reverse ++ body ∧ Closes '"' multiline quotes body text rest := by
  fun_induction basicTail? multiline steps read text generalizing quotes with
  | case1 => cases found
  | case2 => cases found
  | case3 steps read text inductionHypothesis =>
    simp only [Option.bind_eq_bind, Option.bind_eq_some_iff] at found
    obtain ⟨⟨chars, behind⟩, escapeFound, found⟩ := found
    have filled : behind ≠ [] := by
      rintro rfl
      cases steps <;> cases found
    obtain ⟨body, rfl, closes⟩ :=
      inductionHypothesis chars behind found (staysOpen_zero '"' _)
    obtain ⟨char, rfl, escape, rfl, isEscape⟩ | ⟨rfl, rfl, part, rfl, isContinuation⟩ :=
      escaped?_sound escapeFound filled
    · exact ⟨char :: body, by simp, closes.cons_escape isEscape⟩
    · exact ⟨body, rfl, closes.cons_continuation isContinuation⟩
  | case4 steps read isMultiline text extra rest extraFound =>
    cases found
    subst isMultiline
    obtain rfl := stays.eq_zero
    exact ⟨extra, rfl, closes_extraQuotes extraFound⟩
  | case5 steps read isMultiline text apart inductionHypothesis =>
    subst isMultiline
    have few : ¬['"', '"'] <+: text := fun ⟨_, same⟩ => apart _ same.symm
    obtain ⟨room, stays⟩ := stays.behind_quote few
    obtain ⟨body, rfl, closes⟩ := inductionHypothesis found stays
    exact ⟨'"' :: body, by simp, closes.cons_quote room⟩
  | case6 steps read text isSingle =>
    cases found
    obtain rfl := Bool.eq_false_iff.mpr isSingle
    exact ⟨[], (List.append_nil _).symm, [], rfl, .nil⟩
  | case7 steps read char text noMark noQuote isAllowed inductionHypothesis =>
    obtain ⟨body, rfl, closes⟩ := inductionHypothesis found (staysOpen_zero '"' _)
    exact ⟨char :: body, by simp,
      closes.cons_char (by simpa using isAllowed) noQuote fun _ => noMark⟩
  | case8 => cases found

/-! ### Both kinds of strings -/

theorem line?_sound {text content rest : List Char} (found : line? text = some (content, rest)) :
    Opens (IsString · content) text rest := by
  have whole {quote : Char} {text : List Char} (isQuote : quote = '\'' ∨ quote = '"')
      (closes : Closes quote false 0 content text rest) :
      Opens (IsString · content) (quote :: text) rest := by
    obtain ⟨inner, rfl, quoted⟩ := closes
    exact ⟨quote :: inner ++ [quote], rfl, .mk isQuote quoted⟩
  unfold line? at found
  split at found
  case h_1 => exact whole (.inl rfl) (literal?_sound found)
  case h_2 =>
    obtain ⟨body, rfl, closes⟩ := basicTail?_sound found (staysOpen_zero '"' _)
    exact whole (.inr rfl) closes
  case h_3 => cases found

/-- A line feed is passed over, and there is none where nothing is. -/
theorem skipFirstBreak_sound (text : List Char) :
    ∃ gap, text = gap ++ skipFirstBreak text ∧
      (gap = ['\n'] ∨ gap = [] ∧ (skipFirstBreak text).head? ≠ some '\n') := by
  unfold skipFirstBreak
  split
  case h_1 => exact ⟨['\n'], rfl, .inl rfl⟩
  case h_2 other =>
    refine ⟨[], rfl, .inr ⟨rfl, fun isFirst => ?_⟩⟩
    obtain ⟨more, rfl⟩ := List.head?_eq_some_iff.mp isFirst
    exact other _ rfl

/-- A string over several lines is what closes behind three quotes and a first line feed. -/
theorem opens_of_closes {quote : Char} {text content rest : List Char}
    (isQuote : quote = '\'' ∨ quote = '"')
    (closes : Closes quote true 0 content (skipFirstBreak text) rest) :
    Opens (IsLongString · content) (quote :: quote :: quote :: text) rest := by
  obtain ⟨gap, apart, isBreak⟩ := skipFirstBreak_sound text
  obtain ⟨inner, same, quoted⟩ := closes
  have isGap : gap = ['\n'] ∨ gap = [] ∧ inner.head? ≠ some '\n' := by
    refine isBreak.imp_right (And.imp_right fun other isFirst => other ?_)
    obtain ⟨more, rfl⟩ := List.head?_eq_some_iff.mp isFirst
    rw [same]
    rfl
  refine ⟨_, ?_, .mk isQuote isGap quoted⟩
  rw [apart, same]
  simp [closing, List.replicate]

theorem string?_sound {limit : Option Nat} {text content rest : List Char}
    (found : string? text = some (content, rest)) :
    Opens (IsScalar limit · (.string (String.ofList content))) text rest := by
  have long (isLong : Opens (IsLongString · content) text rest) :
      Opens (IsScalar limit · (.string (String.ofList content))) text rest := by
    obtain ⟨part, same, isLongString⟩ := isLong
    exact ⟨part, same, .longString isLongString⟩
  unfold string? at found
  split at found
  case h_1 =>
    have closes := literalLines?_sound found (staysOpen_zero '\'' _)
    exact long (opens_of_closes (.inl rfl) closes)
  case h_2 =>
    obtain ⟨body, rfl, closes⟩ := basicTail?_sound found (staysOpen_zero '"' _)
    exact long (opens_of_closes (.inr rfl) closes)
  case h_3 =>
    obtain ⟨part, same, isString⟩ := line?_sound found
    exact ⟨part, same, .string isString⟩

end Toml

end PolyIntake
