/-
This file shows what becomes of an integer with more digits than are read. The
reading comes to it exactly where the grammar does, behind parts that are as they
have to be, and then the text is refused for it, whatever follows.

So a text is read, or it is refused for such an integer, or it is malformed, and
the grammar tells which. A document is never malformed: either all of its integers
are read, or the reading comes to one that is too long.
-/

import PolyIntake.Proofs.TomlAcceptance

namespace PolyIntake

namespace Toml

/-! ### Numbers -/

section Numbers

variable {text digits rest : List Char} {count : Nat} {value : Value}

theorem IsRun.length_le {isDigit : Char → Bool} (run : IsRun isDigit text digits) :
    digits.length ≤ text.length := by
  induction run with
  | last => exact Nat.le_refl 1
  | next _ _ inductionHypothesis => exact Nat.succ_le_succ inductionHypothesis
  | spaced _ _ inductionHypothesis => exact Nat.succ_le_succ (Nat.le_succ_of_le inductionHypothesis)

theorem IsRun.isDigit_or_eq {isDigit : Char → Bool} (run : IsRun isDigit text digits) :
    ∀ char ∈ text, isDigit char = true ∨ char = '_' := by
  induction run with
  | last isOne => simpa using .inl isOne
  | next isOne _ inductionHypothesis => simpa [isOne] using inductionHypothesis
  | spaced isOne _ inductionHypothesis => simpa [isOne] using inductionHypothesis

/-- More than four digits are no date and no time of day. -/
theorem isTimeless_of_long (run : IsRun Char.isDigit text digits) (long : 4 < digits.length)
    (rest : List Char) : IsTimeless (text ++ rest) := by
  intro count value part behind mark some isFixed isMark same
  have few : part.length < text.length := by
    have small : count ≤ 4 := by
      simp only [List.mem_cons, List.not_mem_nil, or_false] at some
      omega
    rw [isFixed.length]
    exact Nat.lt_of_le_of_lt small (Nat.lt_of_lt_of_le long run.length_le)
  have atMark := congrArg (·[part.length]?) same
  rw [List.getElem?_append_left few, List.getElem?_append_right (Nat.le_refl _), Nat.sub_self,
    List.getElem?_cons_zero] at atMark
  have isOne := run.isDigit_or_eq mark (List.mem_of_getElem? atMark)
  obtain rfl | rfl := isMark <;> exact absurd isOne (by decide)

theorem OverlongNumber.starts (overlong : OverlongNumber count text) :
    Starts (isNumberStart · = true) text := by
  cases overlong with
  | mk isSign isWhole =>
    have isNumber : IsNumber none _ _ := .whole isSign isWhole fun _ none => nomatch none
    exact isNumber.starts.append

theorem OverlongNumber.isTimeless (overlong : OverlongNumber count text) : IsTimeless text := by
  cases overlong with
  | @mk sign whole digits rest negative isSign isWhole length long =>
    subst length
    rw [List.append_assoc]
    cases isSign with
    | none =>
      have more : 4 < Decimal.longest := by decide
      exact isTimeless_of_long isWhole.isRun (Nat.lt_trans more long) rest
    | minus => exact isTimeless_of_not_isDigit rfl
    | plus => exact isTimeless_of_not_isDigit rfl

/-- An integer that is too long is refused for that. -/
theorem number_of_overlong (overlong : OverlongNumber count text) :
    number text = .error (.overlong count) := by
  cases overlong with
  | @mk sign whole digits rest negative isSign isWhole length long complete =>
    have stops : Stops Char.isDigit rest := by
      intro run digits behind isRun
      constructor
      · rintro rfl
        exact complete (.digits isRun)
      · rintro rfl
        exact complete (.spaced isRun)
    have noFraction : fraction? rest = none := by
      refine Option.eq_none_iff_forall_ne_some.mpr fun pair found => ?_
      obtain ⟨part, rfl, isFraction⟩ := fraction?_sound found
      exact complete (.fraction isFraction)
    have noExponent : exponent? rest = none := by
      refine Option.eq_none_iff_forall_ne_some.mpr fun pair found => ?_
      obtain ⟨part, rfl, isExponent⟩ := exponent?_sound found
      exact complete (.exponent isExponent)
    have unbased : based? (sign ++ (whole ++ rest)) = none := by
      refine based?_eq_none isSign isWhole fun zero => ?_
      have few := isWhole.isRun.length_le
      rw [zero, length] at few
      exact absurd (Nat.lt_of_lt_of_le long few) (by decide)
    rw [List.append_assoc]
    refine number_of_decimal? unbased ?_
    rw [decimal?_append isSign isWhole stops, behindWhole, noFraction]
    dsimp only [Option.getD_none]
    rw [noExponent]
    dsimp only
    rw [length, if_pos List.isEmpty_nil, if_pos long]

end Numbers

/-! ### Values -/

section Values

variable {steps count : Nat} {text gap rest : List Char}

theorem OverlongValue.starts (overlong : OverlongValue count text) :
    Starts (· ∉ endings) text := by
  cases overlong with
  | number overlong => exact overlong.starts.imp fun _ => not_mem_endings_of_isNumberStart
  | list => exact starts_cons (by decide) _
  | record => exact starts_cons (by decide) _

theorem OverlongMembers.starts (overlong : OverlongMembers count text) :
    Starts (· ∉ endings) text := by
  cases overlong with
  | value overlong => exact overlong.starts
  | more isValue => exact isValue.starts.append.append.append

theorem OverlongField.starts (overlong : OverlongField count text) :
    Starts (isNameStart · = true) text := by
  cases overlong with
  | mk isKey => exact isKey.starts.append.append.append

theorem OverlongEntries.starts {table : Fields} {closed : List Key}
    (overlong : OverlongEntries count table closed text) : Starts (isNameStart · = true) text := by
  cases overlong with
  | field overlong => exact overlong.starts
  | more isField => exact isField.starts.append.append.append

/-- So many steps are enough to come to an integer that is too long in a value. -/
def StopsValues (steps : Nat) : Prop :=
  ∀ ⦃count : Nat⦄ ⦃text : List Char⦄, OverlongValue count text → 2 * text.length ≤ steps →
    value steps text = .error (.overlong count)

/-- So many steps are enough to come to such an integer in a list. -/
def StopsMembers (steps : Nat) : Prop :=
  ∀ ⦃count : Nat⦄ ⦃text : List Char⦄, OverlongMembers count text → 2 * text.length < steps →
    ∀ read : List Value, members steps read text = .error (.overlong count)

/-- So many steps are enough to come to such an integer in a table. -/
def StopsEntries (steps : Nat) : Prop :=
  ∀ ⦃count : Nat⦄ ⦃table : Fields⦄ ⦃closed : List Key⦄ ⦃text : List Char⦄,
    OverlongEntries count table closed text → 2 * text.length < steps →
      entries steps table closed text = .error (.overlong count)

/-- One more step is enough for lists. -/
theorem StopsMembers.succ (one : StopsValues steps) (more : StopsMembers steps) :
    StopsMembers (steps + 1) := by
  intro count text overlong enough read
  cases overlong with
  | value overlong =>
    rw [members]
    simp only [one overlong (by omega)]
  | @more text gap gap' text' value isValue isGap isGap' overlong =>
    simp only [List.length_append, List.length_cons] at enough
    have whole : text ++ gap ++ ',' :: gap' ++ text' = text ++ (gap ++ ',' :: (gap' ++ text')) := by
      simp
    have taken : Toml.value steps (text ++ (gap ++ ',' :: (gap' ++ text'))) = _ :=
      (reading_complete steps).1 isValue (.behind_gap isGap (ends_cons (by decide) _)) (by omega)
    have refused := more overlong (by omega) (value :: read)
    obtain ⟨first, inner, rfl, other⟩ := overlong.starts
    rw [whole, members_more taken isGap isGap' other (by omega) (by omega)]
    exact refused

/-- A field is read as its key and a value up to the integer. -/
theorem StopsValues.field (one : StopsValues steps) (overlong : OverlongField count text)
    (enough : 2 * text.length ≤ steps) :
    ∃ key behind, key? steps text = some (key, '=' :: behind) ∧
      value steps (skipBlanks behind) = .error (.overlong count) := by
  cases overlong with
  | @mk keyText blanks blanks' valueText key isKey isBlanks isBlanks' overlong =>
    simp only [List.length_append, List.length_cons] at enough
    have whole : keyText ++ blanks ++ '=' :: blanks' ++ valueText =
        keyText ++ blanks ++ ('=' :: (blanks' ++ valueText)) := by simp
    have noBlank : Begins (isBlank · = false) valueText :=
      overlong.starts.to_begins.imp fun _ other =>
        (Bool.or_eq_false_iff.mp (not_isSpace_of_not_mem_endings other)).1
    refine ⟨key, blanks' ++ valueText, ?_, ?_⟩
    · rw [whole]
      exact key?_append isKey isBlanks (begins_cons.mpr (by decide)) (by omega)
    · rw [skipBlanks_append isBlanks' noBlank]
      exact one overlong (by omega)

/-- One more step is enough for tables. -/
theorem StopsEntries.succ (one : StopsValues steps) (more : StopsEntries steps) :
    StopsEntries (steps + 1) := by
  intro count table closed text overlong enough
  cases overlong with
  | field overlong =>
    obtain ⟨key, behind, keyFound, refused⟩ := one.field overlong (by omega)
    rw [entries]
    simp only [keyFound, refused]
  | @more _ _ _ text blanks blanks' text' key value isField added isBlanks isBlanks'
      overlong =>
    simp only [List.length_append, List.length_cons] at enough
    have whole : text ++ blanks ++ ',' :: blanks' ++ text' =
        text ++ (blanks ++ ',' :: (blanks' ++ text')) := by simp
    have ends : Ends (blanks ++ ',' :: (blanks' ++ text')) :=
      .behind_gap isBlanks.isGap (ends_cons (by decide) _)
    obtain ⟨behind, keyFound, taken⟩ :=
      (reading_complete steps).1.field isField ends (by omega)
    rw [whole, entries_more keyFound taken added isBlanks isBlanks' overlong.starts]
    exact more overlong (by omega)

/-- One more step is enough for values. -/
theorem StopsValues.succ (list : StopsMembers steps) (table : StopsEntries steps) :
    StopsValues (steps + 1) := by
  intro count text overlong enough
  cases overlong with
  | number overlong =>
    have refused := number_of_overlong overlong
    have timeless := readMoment_of_isTimeless overlong.isTimeless
    obtain ⟨first, inner, rfl, isStart⟩ := overlong.starts
    rw [(value_of_isNumberStart isStart steps inner).2 timeless, refused]
  | @list gap text isGap overlong =>
    simp only [List.cons_append, List.length_append, List.length_cons] at enough
    have refused := list overlong (by omega) []
    obtain ⟨first, inner, rfl, other⟩ := overlong.starts
    have room : gap.length < steps := by
      rw [List.length_cons] at enough
      omega
    rw [List.cons_append, value_list isGap other room, refused]
    rfl
  | @record blanks text isBlanks overlong =>
    simp only [List.cons_append, List.length_append, List.length_cons] at enough
    have refused := table overlong (by omega)
    rw [List.cons_append, value_record isBlanks overlong.starts, refused]
    rfl

/-- Twice as many steps are enough as there are characters. -/
theorem reading_stops (steps : Nat) :
    StopsValues steps ∧ StopsMembers steps ∧ StopsEntries steps := by
  induction steps with
  | zero =>
    refine ⟨fun count text overlong enough => ?_, fun count text _ enough => ?_,
      fun count table closed text _ enough => ?_⟩
    · have filled := overlong.starts.length_pos
      omega
    · exact absurd enough (Nat.not_lt_zero _)
    · exact absurd enough (Nat.not_lt_zero _)
  | succ steps inductionHypothesis =>
    obtain ⟨one, list, table⟩ := inductionHypothesis
    exact ⟨.succ list table, .succ one list, .succ one table⟩

end Values

/-! ### Lines -/

theorem lines_of_overlong {steps count : Nat} {document : Document} {text : List Char}
    (overlong : OverlongLines count document text) (enough : 2 * text.length < steps) :
    lines steps document text = .error (.overlong count) := by
  induction overlong generalizing steps with
  | @field document blanks text isBlanks overlong =>
    simp only [List.length_append] at enough
    obtain ⟨steps, rfl⟩ := Nat.exists_eq_add_one.mpr (Nat.zero_lt_of_lt enough)
    obtain ⟨key, behind, keyFound, refused⟩ :=
      (reading_stops steps).1.field overlong (by omega)
    have said : statement steps document text = .error (.overlong count) := by
      rw [statement_of_starts overlong.starts, field, keyFound]
      change (value steps (skipBlanks behind)).bind _ = _
      rw [refused]
      rfl
    have skipped : skipBlanks (blanks ++ text) = text :=
      skipBlanks_append isBlanks
        (overlong.starts.to_begins.imp fun _ => not_isBlank_of_isNameStart)
    obtain ⟨first, inner, rfl, isStart⟩ := overlong.starts
    unfold lines
    rw [skipped]
    split
    case h_1 none => cases none
    case h_2 same =>
      cases same
      exact absurd isStart (by decide)
    case h_3 => simp only [said]
  | more isLine _ inductionHypothesis =>
    simp only [List.length_append, List.length_cons] at enough
    obtain ⟨steps, rfl⟩ := Nat.exists_eq_add_one.mpr (Nat.zero_lt_of_lt enough)
    rw [line_append isLine (begins_cons.mpr rfl) (by omega)]
    exact inductionHypothesis (by omega)

/-! ### Documents within the limit -/

section Limits

variable {limit : Option Nat} {text rest : List Char}

/-- What is a number within a limit is one. -/
theorem IsNumber.unlimited {value : Value} (isNumber : IsNumber limit text value) :
    IsNumber none text value := by
  cases isNumber with
  | whole isSign isWhole => exact .whole isSign isWhole fun _ none => nomatch none
  | based isBase run => exact .based isBase run
  | fraction isSign isWhole isFraction => exact .fraction isSign isWhole isFraction
  | exponent isSign isWhole isExponent => exact .exponent isSign isWhole isExponent
  | both isSign isWhole isFraction isExponent => exact .both isSign isWhole isFraction isExponent
  | infinite isSign => exact .infinite isSign
  | undefined isSign => exact .undefined isSign

theorem IsScalar.unlimited {value : Value} (isScalar : IsScalar limit text value) :
    IsScalar none text value := by
  cases isScalar with
  | true => exact .true
  | false => exact .false
  | number isNumber => exact .number isNumber.unlimited
  | moment isMoment => exact .moment isMoment
  | string isString => exact .string isString
  | longString isLongString => exact .longString isLongString

mutual

theorem IsValue.unlimited {text : List Char} {value : Value} :
    IsValue limit text value → IsValue none text value
  | .scalar isScalar => .scalar isScalar.unlimited
  | .list isGap isMembers => .list isGap isMembers.unlimited
  | .empty isBlanks => .empty isBlanks
  | .record isBlanks isEntries => .record isBlanks isEntries.unlimited

theorem IsMembers.unlimited {text : List Char} {members : List Value} :
    IsMembers limit text members → IsMembers none text members
  | .none => .none
  | .last isValue isGap => .last isValue.unlimited isGap
  | .more isValue isGap isGap' isMembers =>
    .more isValue.unlimited isGap isGap' isMembers.unlimited

theorem IsEntries.unlimited {table table' : Fields} {closed : List Key} {text : List Char} :
    IsEntries limit table closed text table' → IsEntries none table closed text table'
  | .last isField added isBlanks => .last isField.unlimited added isBlanks
  | .more isField added isBlanks isBlanks' isEntries =>
    .more isField.unlimited added isBlanks isBlanks' isEntries.unlimited

theorem IsField.unlimited {text : List Char} {key : Key} {value : Value} :
    IsField limit text key value → IsField none text key value
  | .mk isKey isBlanks isBlanks' isValue => .mk isKey isBlanks isBlanks' isValue.unlimited

end

theorem IsStatement.unlimited {document document' : Document}
    (isStatement : IsStatement limit document text document') :
    IsStatement none document text document' := by
  cases isStatement with
  | field isField added => exact .field isField.unlimited added
  | table isBlanks isKey isBlanks' declared => exact .table isBlanks isKey isBlanks' declared
  | member isBlanks isKey isBlanks' declared => exact .member isBlanks isKey isBlanks' declared

theorem IsLine.unlimited {document document' : Document}
    (isLine : IsLine limit document text document') : IsLine none document text document' := by
  cases isLine with
  | silent isBlanks isComment => exact .silent isBlanks isComment
  | statement isBlanks isStatement isBlanks' isComment =>
    exact .statement isBlanks isStatement.unlimited isBlanks' isComment

theorem IsLines.unlimited {document document' : Document}
    (isLines : IsLines limit document text document') : IsLines none document text document' := by
  induction isLines with
  | last isLine => exact .last isLine.unlimited
  | more isLine _ inductionHypothesis => exact .more isLine.unlimited inductionHypothesis

/-- What is a document within a limit is one. -/
theorem Describes.unlimited {tables : Fields} (describes : Describes limit text tables) :
    Describes none text tables := by
  obtain ⟨document, isLines, same⟩ := describes
  exact ⟨document, isLines.unlimited, same⟩

/-- A number is within the limit of the reader, or it is too long where it stands. -/
theorem IsNumber.short_or_overlong {value : Value} (isNumber : IsNumber none text value)
    (ends : Ends rest) :
    IsNumber readLimit text value ∨ ∃ count, OverlongNumber count (text ++ rest) := by
  cases isNumber with
  | @whole sign whole digits negative isSign isWhole =>
    by_cases long : Decimal.longest < digits.length
    · have complete : ¬GoesOn rest :=
        not_goesOn ends.stops (fraction?_eq_none (ends.begins (by decide)))
          (exponent?_eq_none (ends.begins (by decide)))
      exact .inr ⟨_, .mk isSign isWhole rfl long complete⟩
    · refine .inl (.whole isSign isWhole ?_)
      rintro most ⟨⟩
      exact Nat.le_of_not_lt long
  | based isBase run => exact .inl (.based isBase run)
  | fraction isSign isWhole isFraction => exact .inl (.fraction isSign isWhole isFraction)
  | exponent isSign isWhole isExponent => exact .inl (.exponent isSign isWhole isExponent)
  | both isSign isWhole isFraction isExponent =>
    exact .inl (.both isSign isWhole isFraction isExponent)
  | infinite isSign => exact .inl (.infinite isSign)
  | undefined isSign => exact .inl (.undefined isSign)

theorem IsScalar.short_or_overlong {value : Value} (isScalar : IsScalar none text value)
    (ends : Ends rest) :
    IsScalar readLimit text value ∨ ∃ count, OverlongNumber count (text ++ rest) := by
  cases isScalar with
  | true => exact .inl .true
  | false => exact .inl .false
  | number isNumber => exact (isNumber.short_or_overlong ends).imp .number id
  | moment isMoment => exact .inl (.moment isMoment)
  | string isString => exact .inl (.string isString)
  | longString isLongString => exact .inl (.longString isLongString)

mutual

/-- A value is within the limit of the reader, or it comes to an integer that is too long. -/
theorem IsValue.short_or_overlong {text : List Char} {value : Value} :
    IsValue none text value → ∀ {rest : List Char}, Ends rest →
      IsValue readLimit text value ∨ ∃ count, OverlongValue count (text ++ rest)
  | .scalar isScalar, rest, ends => by
    obtain short | ⟨count, overlong⟩ := isScalar.short_or_overlong ends
    · exact .inl (.scalar short)
    · exact .inr ⟨count, .number overlong⟩
  | .list isGap isMembers, rest, _ => by
    obtain short | ⟨count, overlong⟩ := isMembers.short_or_overlong rest
    · exact .inl (.list isGap short)
    · have onward := OverlongValue.list isGap overlong
      exact .inr ⟨count, by simpa using onward⟩
  | .empty isBlanks, _, _ => .inl (.empty isBlanks)
  | .record isBlanks isEntries, rest, _ => by
    obtain short | ⟨count, overlong⟩ := isEntries.short_or_overlong rest
    · exact .inl (.record isBlanks short)
    · have onward := OverlongValue.record isBlanks overlong
      exact .inr ⟨count, by simpa using onward⟩

theorem IsMembers.short_or_overlong {text : List Char} {members : List Value} :
    IsMembers none text members → ∀ rest : List Char,
      IsMembers readLimit text members ∨ ∃ count, OverlongMembers count (text ++ ']' :: rest)
  | .none, _ => .inl .none
  | .last isValue isGap, rest => by
    have ends := Ends.behind_gap isGap (ends_cons (by decide : ']' ∈ marks) rest)
    obtain short | ⟨count, overlong⟩ := isValue.short_or_overlong ends
    · exact .inl (.last short isGap)
    · rw [List.append_assoc]
      exact .inr ⟨count, .value overlong⟩
  | @IsMembers.more _ _ gap gap' text' _ _ isValue isGap isGap' isMembers, rest => by
    have ends : Ends (gap ++ ',' :: (gap' ++ (text' ++ ']' :: rest))) :=
      .behind_gap isGap (ends_cons (by decide) _)
    obtain short | ⟨count, overlong⟩ := isValue.short_or_overlong ends
    · obtain shorts | ⟨count, overlong⟩ := isMembers.short_or_overlong rest
      · exact .inl (.more short isGap isGap' shorts)
      · have onward := OverlongMembers.more short isGap isGap' overlong
        exact .inr ⟨count, by simpa using onward⟩
    · exact .inr ⟨count, .value (by simpa using overlong)⟩

theorem IsEntries.short_or_overlong {table table' : Fields} {closed : List Key}
    {text : List Char} :
    IsEntries none table closed text table' → ∀ rest : List Char,
      IsEntries readLimit table closed text table' ∨
        ∃ count, OverlongEntries count table closed (text ++ '\x7d' :: rest)
  | .last isField added isBlanks, rest => by
    have ends := Ends.behind_gap isBlanks.isGap (ends_cons (by decide : '\x7d' ∈ marks) rest)
    obtain short | ⟨count, overlong⟩ := isField.short_or_overlong ends
    · exact .inl (.last short added isBlanks)
    · rw [List.append_assoc]
      exact .inr ⟨count, .field overlong⟩
  | @IsEntries.more _ _ _ _ _ _ blanks blanks' text' _ _ isField added isBlanks isBlanks'
      isEntries, rest => by
    have ends : Ends (blanks ++ ',' :: (blanks' ++ (text' ++ '\x7d' :: rest))) :=
      .behind_gap isBlanks.isGap (ends_cons (by decide) _)
    obtain short | ⟨count, overlong⟩ := isField.short_or_overlong ends
    · obtain shorts | ⟨count, overlong⟩ := isEntries.short_or_overlong rest
      · exact .inl (.more short added isBlanks isBlanks' shorts)
      · have onward := OverlongEntries.more short added isBlanks isBlanks' overlong
        exact .inr ⟨count, by simpa using onward⟩
    · exact .inr ⟨count, .field (by simpa using overlong)⟩

theorem IsField.short_or_overlong {text : List Char} {key : Key} {value : Value} :
    IsField none text key value → ∀ {rest : List Char}, Ends rest →
      IsField readLimit text key value ∨ ∃ count, OverlongField count (text ++ rest)
  | .mk isKey isBlanks isBlanks' isValue, rest, ends => by
    obtain short | ⟨count, overlong⟩ := isValue.short_or_overlong ends
    · exact .inl (.mk isKey isBlanks isBlanks' short)
    · have onward := OverlongField.mk isKey isBlanks isBlanks' overlong
      exact .inr ⟨count, by simpa using onward⟩

end

theorem IsStatement.short_or_overlong {document document' : Document}
    (isStatement : IsStatement none document text document') (ends : Ends rest) :
    IsStatement readLimit document text document' ∨
      ∃ count, OverlongField count (text ++ rest) := by
  cases isStatement with
  | field isField added =>
    obtain short | overlong := isField.short_or_overlong ends
    · exact .inl (.field short added)
    · exact .inr overlong
  | table isBlanks isKey isBlanks' declared =>
    exact .inl (.table isBlanks isKey isBlanks' declared)
  | member isBlanks isKey isBlanks' declared =>
    exact .inl (.member isBlanks isKey isBlanks' declared)

theorem IsLine.short_or_overlong {document document' : Document}
    (isLine : IsLine none document text document') (begins : Begins (· = '\n') rest) :
    IsLine readLimit document text document' ∨
      ∃ count, OverlongLines count document (text ++ rest) := by
  cases isLine with
  | silent isBlanks isComment => exact .inl (.silent isBlanks isComment)
  | @statement blanks inner blanks' comment _ isBlanks isStatement isBlanks' isComment =>
    have ends : Ends (blanks' ++ (comment ++ rest)) :=
      .behind_gap isBlanks'.isGap (ends_of_begins (begins_comment isComment begins))
    obtain short | ⟨count, overlong⟩ := isStatement.short_or_overlong ends
    · exact .inl (.statement isBlanks short isBlanks' isComment)
    · have onward : OverlongLines count document (blanks ++ _) := .field isBlanks overlong
      exact .inr ⟨count, by simpa using onward⟩

theorem IsLines.short_or_overlong {document document' : Document}
    (isLines : IsLines none document text document') :
    IsLines readLimit document text document' ∨ ∃ count, OverlongLines count document text := by
  induction isLines with
  | last isLine =>
    obtain short | ⟨count, overlong⟩ := isLine.short_or_overlong (begins_nil _)
    · exact .inl (.last short)
    · rw [List.append_nil] at overlong
      exact .inr ⟨count, overlong⟩
  | more isLine _ inductionHypothesis =>
    obtain short | overlong := isLine.short_or_overlong (begins_cons.mpr rfl)
    · obtain shorts | ⟨count, overlong⟩ := inductionHypothesis
      · exact .inl (.more short shorts)
      · exact .inr ⟨count, .more short overlong⟩
    · exact .inr overlong

/-- A document is within the limit of the reader, or it comes to an integer that is too long. -/
theorem Describes.short_or_overlong {tables : Fields} (describes : Describes none text tables) :
    Describes readLimit text tables ∨ ∃ count, IsOverlong count text := by
  obtain ⟨document, isLines, same⟩ := describes
  exact isLines.short_or_overlong.imp (fun short => ⟨document, short, same⟩) id

end Limits

/-! ### Refusals -/

/-- A text is refused for an integer that is too long where it comes to one. -/
theorem parse_eq_overlong_iff {text : List Char} {count : Nat} :
    parse text = .error (.overlong count) ↔ IsOverlong count text := by
  refine ⟨(parse_sound text).2 count, fun overlong => ?_⟩
  rw [parse, lines_of_overlong overlong (by omega)]
  rfl

/-- A text is malformed where it is no document and comes to no such integer. -/
theorem parse_eq_malformed_iff {text : List Char} :
    parse text = .error .malformed ↔ ¬IsDocument text ∧ ∀ count, ¬IsOverlong count text := by
  constructor
  · intro malformed
    have noOverlong (count : Nat) (overlong : IsOverlong count text) : False := by
      cases malformed.symm.trans (parse_eq_overlong_iff.mpr overlong)
    refine ⟨?_, noOverlong⟩
    rintro ⟨tables, describes⟩
    obtain short | ⟨count, overlong⟩ := describes.short_or_overlong
    · cases malformed.symm.trans (parse_eq_ok_iff.mpr short)
    · exact noOverlong count overlong
  · rintro ⟨noDocument, noOverlong⟩
    cases result : parse text with
    | ok tables => exact absurd ⟨tables, (parse_eq_ok_iff.mp result).unlimited⟩ noDocument
    | error refusal =>
      cases refusal with
      | malformed => rfl
      | overlong count => exact absurd (parse_eq_overlong_iff.mp result) (noOverlong count)

end Toml

end PolyIntake
