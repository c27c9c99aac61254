/-
This file shows which characters a configuration file may have: plain ones and
line feeds, and in particular no control character but the tabulator. It goes
through the grammar part by part. A text with any other character is therefore
no document, whatever else is in it.
-/

import PolyIntake.Proofs.TomlGrammar

namespace PolyIntake

namespace Toml

/-! ### Characters -/

/-- A character that a document may have. -/
def MayStand (char : Char) : Prop :=
  isPlain char = true ∨ char = '\n'

/-- A text of characters that a document may have. -/
def IsWritten (text : List Char) : Prop :=
  ∀ char ∈ text, MayStand char

@[simp]
theorem isWritten_nil : IsWritten [] :=
  fun _ member => nomatch member

@[simp]
theorem isWritten_append {text text' : List Char} :
    IsWritten (text ++ text') ↔ IsWritten text ∧ IsWritten text' :=
  List.forall_mem_append

@[simp]
theorem isWritten_cons {char : Char} {text : List Char} :
    IsWritten (char :: text) ↔ MayStand char ∧ IsWritten text :=
  List.forall_mem_cons

theorem mayStand_of_bounds {char : Char} (low : 0x20 ≤ char.toNat) (high : char.toNat < 0x7F) :
    MayStand char := by
  simp only [MayStand, isPlain, Bool.or_eq_true, Bool.and_eq_true, decide_eq_true_eq]
  omega

theorem mayStand_of_isDigit {char : Char} (isDigit : char.isDigit = true) : MayStand char := by
  simp only [Char.isDigit, ge_iff_le, UInt32.le_iff_toNat_le, Bool.and_eq_true,
    decide_eq_true_eq, Char.toNat_val, Char.reduceToNat] at isDigit
  exact mayStand_of_bounds (by omega) (by omega)

theorem mayStand_of_hexDigit? {char : Char} (isDigit : (Json.hexDigit? char).isSome = true) :
    MayStand char := by
  unfold Json.hexDigit? at isDigit
  split at isDigit
  case isTrue isDecimal => exact mayStand_of_isDigit isDecimal
  case isFalse =>
    simp only [Char.le_def, UInt32.le_iff_toNat_le, Bool.and_eq_true, decide_eq_true_eq,
      Char.toNat_val, Char.reduceToNat] at isDigit
    split at isDigit
    case isTrue bounds => exact mayStand_of_bounds (by omega) (by omega)
    case isFalse =>
      split at isDigit
      case isTrue bounds => exact mayStand_of_bounds (by omega) (by omega)
      case isFalse => cases isDigit

theorem mayStand_of_isBlank {char : Char} (blank : isBlank char = true) : MayStand char := by
  simp only [isBlank, Bool.or_eq_true, decide_eq_true_eq] at blank
  obtain rfl | rfl := blank <;> exact .inl (by decide)

theorem mayStand_of_isSpace {char : Char} (space : isSpace char = true) : MayStand char := by
  simp only [isSpace, Bool.or_eq_true, decide_eq_true_eq] at space
  obtain blank | rfl := space
  · exact mayStand_of_isBlank blank
  · exact .inr rfl

theorem mayStand_of_isAlpha {char : Char} (letter : char.isAlpha = true) : MayStand char := by
  have bounds : ('A'.toNat ≤ char.toNat ∧ char.toNat ≤ 'Z'.toNat) ∨
      ('a'.toNat ≤ char.toNat ∧ char.toNat ≤ 'z'.toNat) := by
    obtain upper | lower := Bool.or_eq_true_iff.mp letter
    · exact .inl (of_decide_eq_true upper)
    · obtain ⟨low, high⟩ := Bool.and_eq_true_iff.mp lower
      exact .inr ⟨of_decide_eq_true low, of_decide_eq_true high⟩
  simp only [Char.reduceToNat] at bounds
  exact mayStand_of_bounds (by omega) (by omega)

theorem mayStand_of_isBare {char : Char} (bare : isBare char = true) : MayStand char := by
  simp only [isBare, Bool.or_eq_true, decide_eq_true_eq] at bare
  obtain (letter | rfl) | rfl := bare
  · obtain letter | digit := Bool.or_eq_true_iff.mp letter
    · exact mayStand_of_isAlpha letter
    · exact mayStand_of_isDigit digit
  · exact .inl (by decide)
  · exact .inl (by decide)

/-! ### Numbers and moments -/

theorem IsRun.isWritten {isDigit : Char → Bool} {text digits : List Char}
    (run : IsRun isDigit text digits) (plain : ∀ char, isDigit char = true → MayStand char) :
    IsWritten text := by
  induction run with
  | last isOne => simp [plain _ isOne]
  | next isOne _ inductionHypothesis => simp [plain _ isOne, inductionHypothesis]
  | spaced isOne _ inductionHypothesis =>
    have underscore : MayStand '_' := .inl (by decide)
    simp [plain _ isOne, underscore, inductionHypothesis]

theorem IsSign.isWritten {text : List Char} {negative : Bool} (isSign : IsSign text negative) :
    IsWritten text := by
  cases isSign <;> simp [MayStand, isPlain]

/-- What may be left out has no other characters than what it is. -/
theorem IsOptional.isWritten {derived : List Char → Prop} {text : List Char}
    (isOptional : IsOptional derived text) (written : ∀ text, derived text → IsWritten text) :
    IsWritten text := by
  obtain rfl | isPart := isOptional
  · simp
  · exact written text isPart

theorem IsWhole.isWritten {text digits : List Char} (isWhole : IsWhole text digits) :
    IsWritten text := by
  cases isWhole with
  | zero => simp [MayStand, isPlain]
  | run run => exact run.isWritten fun _ => mayStand_of_isDigit

theorem IsFraction.isWritten {text digits : List Char} (isFraction : IsFraction text digits) :
    IsWritten text := by
  cases isFraction with
  | mk run =>
    have point : MayStand '.' := .inl (by decide)
    simp [point, run.isWritten fun _ => mayStand_of_isDigit]

theorem IsExponent.isWritten {text : List Char} {place : Int}
    (isExponent : IsExponent text place) : IsWritten text := by
  cases isExponent with
  | @mk mark _ _ _ _ isMark isSign run =>
    have letter : MayStand mark := by
      obtain rfl | rfl := isMark <;> exact .inl (by decide)
    simp [letter, isSign.isWritten, run.isWritten fun _ => mayStand_of_isDigit]

variable {limit : Option Nat}

theorem IsNumber.isWritten {text : List Char} {value : Value}
    (isNumber : IsNumber limit text value) : IsWritten text := by
  cases isNumber with
  | whole isSign isWhole => simp [isSign.isWritten, isWhole.isWritten]
  | @based letter base text digits isBase run =>
    have marks : MayStand '0' ∧ MayStand letter := by
      simp only [List.mem_cons, Prod.mk.injEq, List.not_mem_nil, or_false] at isBase
      obtain ⟨rfl, -⟩ | ⟨rfl, -⟩ | ⟨rfl, -⟩ := isBase <;>
        exact ⟨.inl (by decide), .inl (by decide)⟩
    have digits : IsWritten text := run.isWritten fun char isDigit =>
      mayStand_of_hexDigit? (Option.isSome_of_any isDigit)
    simp [marks, digits]
  | fraction isSign isWhole isFraction =>
    simp [isSign.isWritten, isWhole.isWritten, isFraction.isWritten]
  | exponent isSign isWhole isExponent =>
    simp [isSign.isWritten, isWhole.isWritten, isExponent.isWritten]
  | both isSign isWhole isFraction isExponent =>
    simp [isSign.isWritten, isWhole.isWritten, isFraction.isWritten, isExponent.isWritten]
  | infinite isSign =>
    have letters : IsWritten ['i', 'n', 'f'] := by simp [MayStand, isPlain]
    exact isWritten_append.mpr ⟨isSign.isWritten, letters⟩
  | undefined isSign =>
    have letters : IsWritten ['n', 'a', 'n'] := by simp [MayStand, isPlain]
    exact isWritten_append.mpr ⟨isSign.isWritten, letters⟩

theorem IsFixed.isWritten {count value : Nat} {text : List Char}
    (isFixed : IsFixed count value text) : IsWritten text :=
  fun char member => mayStand_of_isDigit (isFixed.isDigit char member)

theorem IsDate.isWritten {text : List Char} (isDate : IsDate text) : IsWritten text := by
  cases isDate with
  | mk isYear isMonth isDay =>
    have dash : MayStand '-' := .inl (by decide)
    simp [dash, isYear.isWritten, isMonth.isWritten, isDay.isWritten]

theorem IsPartOfSecond.isWritten {text : List Char} (isPart : IsPartOfSecond text) :
    IsWritten text := by
  cases isPart with
  | mk filled isDigit =>
    have point : MayStand '.' := .inl (by decide)
    exact isWritten_cons.mpr ⟨point, fun char member => mayStand_of_isDigit (isDigit char member)⟩

theorem IsTime.isWritten {text : List Char} (isTime : IsTime text) : IsWritten text := by
  cases isTime with
  | mk isHour isMinute isSecond _ _ _ isFraction =>
    have colon : MayStand ':' := .inl (by decide)
    simp [colon, isHour.isWritten, isMinute.isWritten, isSecond.isWritten,
      isFraction.isWritten fun _ => IsPartOfSecond.isWritten]

theorem IsOffset.isWritten {text : List Char} (isOffset : IsOffset text) : IsWritten text := by
  cases isOffset with
  | zero isLetter => obtain rfl | rfl := isLetter <;> simp [MayStand, isPlain]
  | @shift sign _ _ _ _ isSign isHour isMinute =>
    have marks : MayStand sign ∧ MayStand ':' := by
      obtain rfl | rfl := isSign <;> exact ⟨.inl (by decide), .inl (by decide)⟩
    simp [marks, isHour.isWritten, isMinute.isWritten]

theorem IsMoment.isWritten {text : List Char} (isMoment : IsMoment text) : IsWritten text := by
  cases isMoment with
  | date isDate => exact isDate.isWritten
  | time isTime => exact isTime.isWritten
  | @both separator _ _ _ isDate isSeparator isTime isOffset =>
    have mark : MayStand separator := by
      obtain rfl | rfl | rfl := isSeparator <;> exact .inl (by decide)
    simp [mark, isDate.isWritten, isTime.isWritten, isOffset.isWritten fun _ => IsOffset.isWritten]

/-! ### Strings, comments and keys -/

theorem isWritten_of_codePoint? {digits : List Char} {char : Char}
    (point : codePoint? digits = some char) : IsWritten digits := by
  unfold codePoint? at point
  simp only [Option.bind_eq_bind, Option.bind_eq_some_iff] at point
  obtain ⟨values, isValue, -⟩ := point
  induction digits generalizing values with
  | nil => simp
  | cons digit digits inductionHypothesis =>
    simp only [List.mapM_cons, Option.bind_eq_bind, Option.bind_eq_some_iff] at isValue
    obtain ⟨value, isDigit, values, others, -⟩ := isValue
    exact isWritten_cons.mpr ⟨mayStand_of_hexDigit? (Option.isSome_of_eq_some isDigit),
      inductionHypothesis values others⟩

theorem IsEscape.isWritten {text : List Char} {char : Char} (isEscape : IsEscape text char) :
    IsWritten text := by
  cases isEscape with
  | @letter letter char isLetter =>
    simp only [List.mem_cons, Prod.mk.injEq, List.not_mem_nil, or_false] at isLetter
    obtain ⟨rfl, -⟩ | ⟨rfl, -⟩ | ⟨rfl, -⟩ | ⟨rfl, -⟩ | ⟨rfl, -⟩ | ⟨rfl, -⟩ | ⟨rfl, -⟩ :=
      isLetter <;> simp [MayStand, isPlain]
  | @number letter count digits char isLetter length point =>
    have mark : MayStand letter := by
      simp only [List.mem_cons, Prod.mk.injEq, List.not_mem_nil, or_false] at isLetter
      obtain ⟨rfl, -⟩ | ⟨rfl, -⟩ := isLetter <;> exact .inl (by decide)
    exact isWritten_cons.mpr ⟨mark, isWritten_of_codePoint? point⟩

theorem IsBlanks.isWritten {text : List Char} (isBlanks : IsBlanks text) : IsWritten text :=
  fun char member => mayStand_of_isBlank (isBlanks char member)

theorem IsQuoted.isWritten {quote : Char} {multiline : Bool} {quotes : Nat}
    {text content : List Char} (quoted : IsQuoted quote multiline quotes text content)
    (mark : MayStand quote) : IsWritten text := by
  have escapeMark : MayStand '\\' := .inl (by decide)
  have lineFeed : MayStand '\n' := .inr rfl
  induction quoted with
  | nil => simp
  | char isAllowed _ _ _ inductionHypothesis =>
    exact isWritten_cons.mpr ⟨isAllowed.imp id And.right, inductionHypothesis⟩
  | quote _ _ _ inductionHypothesis => simp [mark, inductionHypothesis]
  | escape _ isEscape _ inductionHypothesis =>
    simp [escapeMark, isEscape.isWritten, inductionHypothesis]
  | continued _ _ isBlanks isSpaces _ _ inductionHypothesis =>
    have blanks := IsBlanks.isWritten isBlanks
    have spaces : IsWritten _ := fun char member => mayStand_of_isSpace (isSpaces char member)
    simp [escapeMark, blanks, lineFeed, spaces, inductionHypothesis]

theorem mayStand_quote {quote : Char} (isQuote : quote = '\'' ∨ quote = '"') : MayStand quote := by
  obtain rfl | rfl := isQuote <;> exact .inl (by decide)

theorem IsString.isWritten {text content : List Char} (isString : IsString text content) :
    IsWritten text := by
  cases isString with
  | mk isQuote quoted =>
    simp [mayStand_quote isQuote, quoted.isWritten (mayStand_quote isQuote)]

theorem IsLongString.isWritten {text content : List Char}
    (isLongString : IsLongString text content) : IsWritten text := by
  cases isLongString with
  | @mk _ gap _ _ isQuote isBreak quoted =>
    have lineFeed : MayStand '\n' := .inr rfl
    have written : IsWritten gap := by
      obtain rfl | ⟨rfl, -⟩ := isBreak <;> simp [lineFeed]
    simp [mayStand_quote isQuote, written, quoted.isWritten (mayStand_quote isQuote)]

theorem IsComment.isWritten {text : List Char} (isComment : IsComment text) :
    IsWritten text := by
  cases isComment with
  | mk plain =>
    have mark : MayStand '#' := .inl (by decide)
    exact isWritten_cons.mpr ⟨mark, fun char member => .inl (plain char member)⟩

theorem IsGap.isWritten {text : List Char} (isGap : IsGap text) : IsWritten text := by
  induction isGap with
  | nil => simp
  | space isOne _ inductionHypothesis => simp [mayStand_of_isSpace isOne, inductionHypothesis]
  | comment isComment _ inductionHypothesis =>
    have lineFeed : MayStand '\n' := .inr rfl
    simp [isComment.isWritten, lineFeed, inductionHypothesis]

theorem IsName.isWritten {text : List Char} {name : String} (isName : IsName text name) :
    IsWritten text := by
  cases isName with
  | bare _ isBare => exact fun char member => mayStand_of_isBare (isBare char member)
  | string isString => exact isString.isWritten

theorem IsKey.isWritten {text : List Char} {key : Key} (isKey : IsKey text key) :
    IsWritten text := by
  induction isKey with
  | single isName => exact isName.isWritten
  | dotted isName isBlanks isBlanks' _ inductionHypothesis =>
    have dot : MayStand '.' := .inl (by decide)
    simp [isName.isWritten, isBlanks.isWritten, dot, isBlanks'.isWritten, inductionHypothesis]

/-! ### Values and lines -/

theorem IsScalar.isWritten {text : List Char} {value : Value}
    (isScalar : IsScalar limit text value) : IsWritten text := by
  cases isScalar with
  | true => simp [MayStand, isPlain]
  | false => simp [MayStand, isPlain]
  | number isNumber => exact isNumber.isWritten
  | moment isMoment => exact isMoment.isWritten
  | string isString => exact isString.isWritten
  | longString isLongString => exact isLongString.isWritten

/-- The marks of lists, tables and fields. -/
theorem mayStand_marks : MayStand '[' ∧ MayStand ']' ∧ MayStand '\x7b' ∧ MayStand '\x7d' ∧
    MayStand ',' ∧ MayStand '=' := by
  simp [MayStand, isPlain]

mutual

theorem IsValue.isWritten {text : List Char} {value : Value} :
    IsValue limit text value → IsWritten text
  | .scalar isScalar => isScalar.isWritten
  | .list isGap isMembers => by
    simp [mayStand_marks, isGap.isWritten, isMembers.isWritten]
  | .empty isBlanks => by
    simp [mayStand_marks, isBlanks.isWritten]
  | .record isBlanks isEntries => by
    simp [mayStand_marks, isBlanks.isWritten, isEntries.isWritten]

theorem IsMembers.isWritten {text : List Char} {members : List Value} :
    IsMembers limit text members → IsWritten text
  | .none => isWritten_nil
  | .last isValue isGap => by
    simp [isValue.isWritten, isGap.isWritten]
  | .more isValue isGap isGap' isMembers => by
    simp [mayStand_marks, isValue.isWritten, isGap.isWritten, isGap'.isWritten,
      isMembers.isWritten]

theorem IsEntries.isWritten {table table' : Fields} {closed : List Key} {text : List Char} :
    IsEntries limit table closed text table' → IsWritten text
  | .last isField _ isBlanks => by
    simp [isField.isWritten, isBlanks.isWritten]
  | .more isField _ isBlanks isBlanks' isEntries => by
    simp [mayStand_marks, isField.isWritten, isBlanks.isWritten, isBlanks'.isWritten,
      isEntries.isWritten]

theorem IsField.isWritten {text : List Char} {key : Key} {value : Value} :
    IsField limit text key value → IsWritten text
  | .mk isKey isBlanks isBlanks' isValue => by
    simp [mayStand_marks, isKey.isWritten, isBlanks.isWritten, isBlanks'.isWritten,
      isValue.isWritten]

end

theorem IsStatement.isWritten {document document' : Document} {text : List Char}
    (isStatement : IsStatement limit document text document') : IsWritten text := by
  cases isStatement with
  | field isField => exact isField.isWritten
  | table isBlanks isKey isBlanks' =>
    simp [mayStand_marks, isBlanks.isWritten, isKey.isWritten, isBlanks'.isWritten]
  | member isBlanks isKey isBlanks' =>
    simp [mayStand_marks, isBlanks.isWritten, isKey.isWritten, isBlanks'.isWritten]

theorem IsLine.isWritten {document document' : Document} {text : List Char}
    (isLine : IsLine limit document text document') : IsWritten text := by
  cases isLine with
  | silent isBlanks isComment =>
    simp [isBlanks.isWritten, isComment.isWritten fun _ => IsComment.isWritten]
  | statement isBlanks isStatement isBlanks' isComment =>
    simp [isBlanks.isWritten, isStatement.isWritten, isBlanks'.isWritten,
      isComment.isWritten fun _ => IsComment.isWritten]

theorem IsLines.isWritten {document document' : Document} {text : List Char}
    (isLines : IsLines limit document text document') : IsWritten text := by
  induction isLines with
  | last isLine => exact isLine.isWritten
  | more isLine _ inductionHypothesis =>
    have lineFeed : MayStand '\n' := .inr rfl
    simp [isLine.isWritten, lineFeed, inductionHypothesis]

/-- A document has no other characters than those that it may have. -/
theorem IsDocument.isWritten {text : List Char} (isDocument : IsDocument text) :
    IsWritten text := by
  obtain ⟨_, document, isLines, -⟩ := isDocument
  exact isLines.isWritten

end Toml

end PolyIntake
