/-
This file proves that documents can be read back. A document in the form of
reports is read as the value that was written, whatever its strings hold and
however large its whole numbers are, if it is made of what documents have words
for and no record of it has a name twice. So no two such values have the same
document.

The proof follows the value from the inside out. What is behind a written value
is a comma, a line break or nothing, none of which can be taken for a part of
it, and each step of the reader takes up a character of what was written.
-/

import Mathlib
import PolyIntake.Json.Parser
import PolyIntake.Json.Printer
import PolyIntake.Proofs.Numerals
import PolyIntake.Proofs.Records

namespace PolyIntake

/-- A number other than zero is written without a leading zero. -/
theorem Decimal.head?_digits_ne_zero {number : Nat} (positive : number ≠ 0) :
    (Decimal.digits number).head? ≠ some '0' := by
  induction number using Nat.strongRecOn with
  | ind number inductionHypothesis =>
    unfold Decimal.digits at inductionHypothesis ⊢
    by_cases small : number < 10
    · rw [Nat.toDigits_of_lt_base small]
      intro zero
      have code := Nat.toNat_digitChar_of_lt_ten small
      rw [Option.some.inj zero] at code
      exact positive (by simpa using code.symm)
    · have shorter : number / 10 < number := by omega
      rw [Nat.toDigits_of_base_le (by omega) (by omega),
        List.head?_append_of_ne_nil _ Nat.toDigits_ne_nil]
      exact inductionHypothesis _ shorter (by omega)

namespace Json

/-! ### Strings -/

theorem unit?_hexadecimal_append {unit : Nat} (small : unit < 0x20) (rest : List Char) :
    unit? (Text.hexadecimal 4 unit ++ rest) = some (unit, rest) := by
  interval_cases unit <;> rfl

/-- A control character is read back from the escape by its code. -/
theorem unitChar?_hexadecimal_append {char : Char} (control : char.toNat < 0x20)
    (rest : List Char) : unitChar? (Text.hexadecimal 4 char.toNat ++ rest) = some (char, rest) := by
  rw [unitChar?, unit?_hexadecimal_append control]
  show (if _ then _ else if _ then _ else _) = _
  rw [if_neg (by simp; omega), if_neg (by simp; omega), Char.ofNat_toNat]

theorem escaped?_of_shortEscape {char : Char} {escaped : List Char}
    (short : shortEscape? char = some escaped) :
    ∃ mark, escaped = ['\\', mark] ∧ ∀ rest, escaped? (mark :: rest) = some (char, rest) := by
  unfold shortEscape? at short
  split_ifs at short with quote backslash lineFeed carriage tab back feed <;>
    cases short <;> refine ⟨_, rfl, fun rest => ?_⟩
  · rw [quote]; rfl
  · rw [backslash]; rfl
  · rw [lineFeed]; rfl
  · rw [carriage]; rfl
  · rw [tab]; rfl
  · rw [← Char.ofNat_toNat char, back]; rfl
  · rw [← Char.ofNat_toNat char, feed]; rfl

theorem ne_of_shortEscape_eq_none {char : Char} (plain : shortEscape? char = none) :
    char ≠ '"' ∧ char ≠ '\\' := by
  constructor
  · rintro rfl
    cases plain
  · rintro rfl
    cases plain

theorem stringTail?_backslash {text rest : List Char} {char : Char}
    (found : escaped? text = some (char, rest)) (steps : Nat) (read : List Char) :
    stringTail? (steps + 1) read ('\\' :: text) = stringTail? steps (char :: read) rest := by
  rw [stringTail?, found]
  rfl

/-- One step reads one character. -/
theorem stringTail?_escape (char : Char) (steps : Nat) (read rest : List Char) :
    stringTail? (steps + 1) read (escape char ++ rest) = stringTail? steps (char :: read) rest := by
  unfold escape
  split
  case h_1 escaped short =>
    obtain ⟨mark, rfl, found⟩ := escaped?_of_shortEscape short
    exact stringTail?_backslash (found rest) steps read
  case h_2 plain =>
    obtain ⟨noQuote, noBackslash⟩ := ne_of_shortEscape_eq_none plain
    split
    case isTrue control =>
      have found : escaped? ('u' :: (Text.hexadecimal 4 char.toNat ++ rest)) = some (char, rest) :=
        unitChar?_hexadecimal_append control rest
      exact stringTail?_backslash found steps read
    case isFalse visible =>
      rw [List.singleton_append, stringTail?, if_neg visible]
      · exact noQuote
      · exact noBackslash

theorem length_le_length_flatMap_escape (text : List Char) :
    text.length ≤ (text.flatMap escape).length := by
  have positive : ∀ char, 1 ≤ (escape char).length := by
    intro char
    unfold escape
    split
    case h_1 escaped short =>
      obtain ⟨mark, rfl, -⟩ := escaped?_of_shortEscape short
      exact Nat.le_add_left 1 1
    case h_2 => split <;> simp [unitEscape]
  induction text with
  | nil => exact Nat.le_refl 0
  | cons char text inductionHypothesis =>
    rw [List.flatMap_cons, List.length_append, List.length_cons, Nat.add_comm]
    exact Nat.add_le_add (positive char) inductionHypothesis

theorem stringTail?_flatMap_escape {text : List Char} {steps : Nat} (enough : text.length < steps)
    (read rest : List Char) :
    stringTail? steps read (text.flatMap escape ++ '"' :: rest) =
      some (String.ofList (read.reverse ++ text), rest) := by
  induction text generalizing steps read with
  | nil =>
    obtain ⟨steps, rfl⟩ := Nat.exists_eq_add_one_of_ne_zero (Nat.ne_of_gt enough)
    rw [List.append_nil]
    rfl
  | cons char text inductionHypothesis =>
    obtain ⟨steps, rfl⟩ := Nat.exists_eq_add_one_of_ne_zero (Nat.ne_zero_of_lt enough)
    rw [List.flatMap_cons, List.append_assoc, stringTail?_escape,
      inductionHypothesis (Nat.lt_of_succ_lt_succ enough), List.reverse_cons, List.append_assoc]
    rfl

/-- A written string is read as what was written, and what is behind it is left. -/
theorem string?_string (text : String) (rest : List Char) :
    string? (string escape text ++ rest) = some (text, rest) := by
  have enough : text.toList.length < (text.toList.flatMap escape ++ '"' :: rest).length + 1 := by
    have spans := length_le_length_flatMap_escape text.toList
    rw [List.length_append]
    omega
  have read := stringTail?_flatMap_escape enough [] rest
  rw [List.reverse_nil, List.nil_append, String.ofList_toList] at read
  rw [string, List.cons_append, List.cons_append, List.append_assoc, List.singleton_append]
  exact read

/-! ### Numbers -/

/-- What is behind a written value: nothing, or a comma or a line break. -/
def FollowsValue (rest : List Char) : Prop :=
  ∀ char ∈ rest.head?, char = ',' ∨ char = '\n'

theorem followsValue_nil : FollowsValue [] :=
  fun _ member => by cases member

theorem followsValue_comma (rest : List Char) : FollowsValue (',' :: rest) := by
  rintro char ⟨⟩
  exact Or.inl rfl

theorem followsValue_newline (level : Nat) (rest : List Char) :
    FollowsValue (newline level ++ rest) := by
  rintro char ⟨⟩
  exact Or.inr rfl

theorem FollowsValue.noDigitNext {rest : List Char} (follows : FollowsValue rest) :
    NoDigitNext rest := by
  intro char member
  rcases follows char member with rfl | rfl <;> rfl

/-- A number goes on neither with a fraction nor with an exponent. -/
theorem FollowsValue.not_part {rest : List Char} (follows : FollowsValue rest) :
    fraction? rest = none ∧ exponent? rest = none := by
  cases rest with
  | nil => exact ⟨rfl, rfl⟩
  | cons char rest => rcases follows char rfl with rfl | rfl <;> exact ⟨rfl, rfl⟩

theorem digits?_append {digits rest : List Char} (isDigits : IsDigits digits)
    (ended : NoDigitNext rest) : digits? (digits ++ rest) = some (digits, rest) := by
  rw [digits?, takeWhile_isDigit_append isDigits.2 ended, List.drop_left]
  exact if_neg (by simp [isDigits.1])

theorem digits_append_ne_zero_cons {number : Nat} (positive : number ≠ 0) (rest rest' : List Char) :
    Decimal.digits number ++ rest ≠ '0' :: rest' := by
  intro same
  have first := congrArg List.head? same
  rw [List.head?_append_of_ne_nil _ (isDigits_digits number).1] at first
  exact Decimal.head?_digits_ne_zero positive first

theorem magnitude?_digits (negative : Bool) (number : Nat) {rest : List Char}
    (follows : FollowsValue rest) :
    magnitude? none negative (Decimal.digits number ++ rest) =
      some (.int (if negative then -(number : Int) else number), rest) := by
  obtain ⟨noFraction, noExponent⟩ := follows.not_part
  by_cases zero : number = 0
  · have value : Nat.ofDigitChars 10 ['0'] 0 = 0 := rfl
    have written : Decimal.digits number ++ rest = '0' :: rest := by
      rw [zero]
      rfl
    rw [written, magnitude?]
    simp [noFraction, noExponent, isWithin, value, zero]
  · have read := digits?_append (isDigits_digits number) follows.noDigitNext
    rw [magnitude?]
    · simp [read, noFraction, noExponent, isWithin, Decimal.ofDigitChars_digits]
    · exact digits_append_ne_zero_cons zero rest

theorem skipWord?_eq_none {word : String} {first char : Char} {more : List Char}
    (spelled : word.toList = first :: more) (other : char ≠ first) (rest : List Char) :
    skipWord? word (char :: rest) = none := by
  rw [skipWord?, spelled]
  simp [List.isPrefixOf, Ne.symm other]

/-- A character that a whole number begins with. -/
def OpensNumber (char : Char) : Prop :=
  char.isDigit = true ∨ char = '-'

theorem OpensNumber.ne {char other : Char} (opens : OpensNumber char)
    (noDigit : other.isDigit = false) (noMinus : other ≠ '-') : char ≠ other := by
  rintro rfl
  rcases opens with isDigit | rfl
  · rw [noDigit] at isDigit
    cases isDigit
  · exact noMinus rfl

theorem exists_cons_ofInt (value : Int) :
    ∃ char rest, Decimal.ofInt value = char :: rest ∧ OpensNumber char := by
  cases value with
  | ofNat number =>
    obtain ⟨char, rest, spelled, isDigit⟩ := (isDigits_digits number).exists_cons
    exact ⟨char, rest, spelled, Or.inl isDigit⟩
  | negSucc number => exact ⟨'-', _, rfl, Or.inr rfl⟩

/-- A whole number is read as what was written, and what is behind it is left. -/
theorem number?_ofInt (value : Int) {rest : List Char} (follows : FollowsValue rest) :
    number? none (Decimal.ofInt value ++ rest) = some (.int value, rest) := by
  cases value with
  | ofNat number =>
    have read := magnitude?_digits false number follows
    obtain ⟨char, more, spelled, isDigit⟩ := (isDigits_digits number).exists_cons
    rw [Decimal.ofInt, spelled, List.cons_append, number?, ← List.cons_append, ← spelled, read]
    · rfl
    · rintro rest' same
      cases same
      cases isDigit
  | negSucc number =>
    have read := magnitude?_digits true (number + 1) follows
    obtain ⟨char, more, spelled, isDigit⟩ := (isDigits_digits (number + 1)).exists_cons
    have noWord : skipWord? "Infinity" (Decimal.digits (number + 1) ++ rest) = none := by
      rw [spelled, List.cons_append]
      exact skipWord?_eq_none rfl (OpensNumber.ne (Or.inl isDigit) rfl (by decide)) _
    rw [Decimal.ofInt, List.cons_append, number?, noWord, read]
    rfl

/-! ### Blanks -/

theorem skipBlanks_append {blanks : List Char} (each : ∀ char ∈ blanks, isBlank char = true)
    (text : List Char) : skipBlanks (blanks ++ text) = skipBlanks text :=
  List.dropWhile_append_of_pos each

theorem isBlank_of_mem_newline {level : Nat} {char : Char} (member : char ∈ newline level) :
    isBlank char = true := by
  rcases List.mem_cons.mp member with rfl | filled
  · rfl
  · rw [List.eq_of_mem_replicate filled]
    rfl

theorem skipBlanks_newline (level : Nat) (text : List Char) :
    skipBlanks (newline level ++ text) = skipBlanks text :=
  skipBlanks_append (fun _ => isBlank_of_mem_newline) text

theorem skipBlanks_cons {char : Char} (visible : isBlank char = false) (rest : List Char) :
    skipBlanks (char :: rest) = char :: rest :=
  List.dropWhile_cons_of_neg (by simp [visible])

section Blanks

variable {blanks : List Char} (each : ∀ char ∈ blanks, isBlank char = true) (limit : Option Nat)
  (steps : Nat)

include each

theorem value?_blanks (text : List Char) :
    value? limit steps (blanks ++ text) = value? limit steps text := by
  cases steps with
  | zero => rfl
  | succ steps => rw [value?, value?, skipBlanks_append each]

theorem members?_blanks (read : List Value) (text : List Char) :
    members? limit steps read (blanks ++ text) = members? limit steps read text := by
  cases steps with
  | zero => rfl
  | succ steps => rw [members?, members?, value?_blanks each]

theorem fields?_blanks (read : Fields) (text : List Char) :
    fields? limit steps read (blanks ++ text) = fields? limit steps read text := by
  cases steps with
  | zero => rfl
  | succ steps => rw [fields?, fields?, skipBlanks_append each]

end Blanks

/-! ### Written lists and records -/

theorem indentedMembers_append (level : Nat) (next : Value) (tail : List Value) (rest : List Char) :
    indentedMembers level (next :: tail) ++ rest =
      ',' :: (newline level ++ (indented level next ++ (indentedMembers level tail ++ rest))) := by
  simp [indentedMembers]

theorem indented_list_append (level : Nat) (head : Value) (tail : List Value) (rest : List Char) :
    indented level (.list (head :: tail)) ++ rest = '[' :: (newline (level + 1) ++
      (indented (level + 1) head ++ (indentedMembers (level + 1) tail ++
        (newline level ++ ']' :: rest)))) := by
  simp [indented]

theorem indentedFields_append (level : Nat) (name : String) (value : Value) (tail : Fields)
    (rest : List Char) :
    indentedFields level ((name, value) :: tail) ++ rest =
      ',' :: (newline level ++ (string escape name ++ (':' :: ' ' ::
        (indented level value ++ (indentedFields level tail ++ rest))))) := by
  simp [indentedFields]

theorem indented_record_append (level : Nat) (name : String) (value : Value) (tail : Fields)
    (rest : List Char) :
    indented level (.record ((name, value) :: tail)) ++ rest = '{' :: (newline (level + 1) ++
      (string escape name ++ (':' :: ' ' :: (indented (level + 1) value ++
        (indentedFields (level + 1) tail ++ (newline level ++ '}' :: rest)))))) := by
  simp [indented]

/-! ### Values -/

/-- A value that documents have words for: neither a fraction nor a moment, and in no record of it a
name twice. -/
inductive IsPlain : Value → Prop
  | null : IsPlain .null
  | bool (value : Bool) : IsPlain (.bool value)
  | int (value : Int) : IsPlain (.int value)
  | string (text : String) : IsPlain (.string text)
  | list {members : List Value} (each : ∀ member ∈ members, IsPlain member) :
      IsPlain (.list members)
  | record {fields : Fields} (distinct : (fields.map Prod.fst).Nodup)
      (each : ∀ field ∈ fields, IsPlain field.2) : IsPlain (.record fields)

/-- The first character of a written value is no blank and ends no list. -/
theorem IsPlain.exists_cons {value : Value} (plain : IsPlain value) (level : Nat) :
    ∃ char rest, indented level value = char :: rest ∧ isBlank char = false ∧ char ≠ ']' := by
  cases plain with
  | null => exact ⟨'n', _, rfl, rfl, by decide⟩
  | bool value =>
    cases value with
    | true => exact ⟨'t', _, rfl, rfl, by decide⟩
    | false => exact ⟨'f', _, rfl, rfl, by decide⟩
  | int value =>
    obtain ⟨char, rest, spelled, opens⟩ := exists_cons_ofInt value
    refine ⟨char, rest, by rw [indented, spelled], ?_, opens.ne rfl (by decide)⟩
    simp [isBlank, opens.ne]
  | string text => exact ⟨'"', _, rfl, rfl, by decide⟩
  | @list members each =>
    cases members with
    | nil => exact ⟨'[', _, rfl, rfl, by decide⟩
    | cons head tail =>
      have written := indented_list_append level head tail []
      rw [List.append_nil] at written
      exact ⟨'[', _, written, rfl, by decide⟩
  | @record fields distinct each =>
    cases fields with
    | nil => exact ⟨'{', _, rfl, rfl, by decide⟩
    | cons field tail =>
      have written := indented_record_append level field.1 field.2 tail []
      rw [List.append_nil] at written
      exact ⟨'{', _, written, rfl, by decide⟩

/-- A value is read back wherever it is written, with as many steps as it has characters. -/
def ReadsBack (value : Value) : Prop :=
  ∀ (steps level : Nat) (rest : List Char), (indented level value).length ≤ steps →
    FollowsValue rest → value? none steps (indented level value ++ rest) = some (value, rest)

theorem value?_of_opensNumber {char : Char} (opens : OpensNumber char) (limit : Option Nat)
    (steps : Nat) (rest : List Char) :
    value? limit (steps + 1) (char :: rest) = number? limit (char :: rest) := by
  have visible : isBlank char = false := by
    simp [isBlank, opens.ne]
  have noWord : ∀ {word : String} {first : Char} {more : List Char}, word.toList = first :: more →
      first.isDigit = false → first ≠ '-' → skipWord? word (char :: rest) = none :=
    fun spelled noDigit noMinus => skipWord?_eq_none spelled (opens.ne noDigit noMinus) rest
  have noNull : skipWord? "null" (char :: rest) = none := noWord rfl rfl (by decide)
  have noTrue : skipWord? "true" (char :: rest) = none := noWord rfl rfl (by decide)
  have noFalse : skipWord? "false" (char :: rest) = none := noWord rfl rfl (by decide)
  have noNaN : skipWord? "NaN" (char :: rest) = none := noWord rfl rfl (by decide)
  have noInfinity : skipWord? "Infinity" (char :: rest) = none := noWord rfl rfl (by decide)
  rw [value?, skipBlanks_cons visible]
  split
  case h_1 same =>
    cases same
    exact absurd rfl (opens.ne rfl (by decide))
  case h_2 same =>
    cases same
    exact absurd rfl (opens.ne rfl (by decide))
  case h_3 same =>
    cases same
    exact absurd rfl (opens.ne rfl (by decide))
  case h_4 =>
    rw [noNull, noTrue, noFalse, noNaN, noInfinity]

theorem readsBack_int (value : Int) : ReadsBack (.int value) := by
  intro steps level rest enough follows
  obtain ⟨char, more, spelled, opens⟩ := exists_cons_ofInt value
  rw [indented, spelled] at enough ⊢
  obtain ⟨steps, rfl⟩ := Nat.exists_eq_add_one_of_ne_zero (Nat.ne_zero_of_lt enough)
  rw [List.cons_append, value?_of_opensNumber opens, ← List.cons_append, ← spelled,
    number?_ofInt value follows]

theorem readsBack_null : ReadsBack .null := by
  intro steps level rest enough follows
  obtain ⟨steps, rfl⟩ := Nat.exists_eq_add_one_of_ne_zero (Nat.ne_zero_of_lt enough)
  rfl

theorem readsBack_bool (value : Bool) : ReadsBack (.bool value) := by
  intro steps level rest enough follows
  cases value with
  | true =>
    obtain ⟨steps, rfl⟩ := Nat.exists_eq_add_one_of_ne_zero (Nat.ne_zero_of_lt enough)
    rfl
  | false =>
    obtain ⟨steps, rfl⟩ := Nat.exists_eq_add_one_of_ne_zero (Nat.ne_zero_of_lt enough)
    rfl

theorem readsBack_string (text : String) : ReadsBack (.string text) := by
  intro steps level rest enough follows
  have written : indented level (.string text) = '"' :: (text.toList.flatMap escape ++ ['"']) := by
    rw [indented, string]
    rfl
  rw [written] at enough ⊢
  obtain ⟨steps, rfl⟩ := Nat.exists_eq_add_one_of_ne_zero (Nat.ne_zero_of_lt enough)
  rw [List.cons_append, value?, skipBlanks_cons rfl]
  exact congrArg (Option.map _) (string?_string text rest)

/-! ### Steps of the reader -/

section Steps

variable {limit : Option Nat} {steps : Nat} {text behind rest : List Char} {value : Value}

theorem members?_of_comma (first : value? limit steps text = some (value, behind))
    (comma : skipBlanks behind = ',' :: rest) (read : List Value) :
    members? limit (steps + 1) read text = members? limit steps (value :: read) rest := by
  simp only [members?, first, comma]

theorem members?_of_bracket (first : value? limit steps text = some (value, behind))
    (bracket : skipBlanks behind = ']' :: rest) (read : List Value) :
    members? limit (steps + 1) read text = some (read.reverse ++ [value], rest) := by
  simp only [members?, first, bracket, List.reverse_cons]

theorem value?_bracket {char : Char} (opens : skipBlanks text = char :: rest) (other : char ≠ ']') :
    value? limit (steps + 1) ('[' :: text) =
      (members? limit steps [] (char :: rest)).map
        fun (members, rest) => (.list members, rest) := by
  simp only [value?, skipBlanks_cons (show isBlank '[' = false from rfl), opens]
  split
  case h_1 same =>
    cases same
    exact absurd rfl other
  case h_2 => rfl

theorem value?_brace {char : Char} (opens : skipBlanks text = char :: rest) (other : char ≠ '}') :
    value? limit (steps + 1) ('{' :: text) =
      (fields? limit steps [] (char :: rest)).map
        fun (fields, rest) => (.record fields, rest) := by
  simp only [value?, skipBlanks_cons (show isBlank '{' = false from rfl), opens]
  split
  case h_1 same =>
    cases same
    exact absurd rfl other
  case h_2 => rfl

end Steps

/-! ### Lists -/

theorem followsValue_indentedMembers (level outer : Nat) (tail : List Value) (rest : List Char) :
    FollowsValue (indentedMembers level tail ++ (newline outer ++ rest)) := by
  cases tail with
  | nil =>
    rw [indentedMembers, List.nil_append]
    exact followsValue_newline outer rest
  | cons next tail =>
    rw [indentedMembers]
    exact followsValue_comma _

/-- The members of a list are read back one after the other, each behind those read so far. -/
theorem members?_indented {head : Value} {tail : List Value}
    (each : ∀ member ∈ head :: tail, ReadsBack member) {steps level : Nat}
    (enough : (indented level head).length + (indentedMembers level tail).length < steps)
    (outer : Nat) (read : List Value) (rest : List Char) :
    members? none steps read (indented level head ++
        (indentedMembers level tail ++ (newline outer ++ ']' :: rest))) =
      some (read.reverse ++ head :: tail, rest) := by
  -- A step of the reader takes up a member and the comma or bracket behind it. The line break in
  -- front of the next member is left, and reading that member skips it.
  induction tail generalizing head steps read with
  | nil =>
    obtain ⟨steps, rfl⟩ := Nat.exists_eq_add_one_of_ne_zero (Nat.ne_zero_of_lt enough)
    have first := each head List.mem_cons_self steps level _ (by omega)
      (followsValue_indentedMembers level outer [] (']' :: rest))
    refine members?_of_bracket first ?_ read
    rw [indentedMembers, List.nil_append, skipBlanks_newline, skipBlanks_cons rfl]
  | cons next tail inductionHypothesis =>
    obtain ⟨steps, rfl⟩ := Nat.exists_eq_add_one_of_ne_zero (Nat.ne_zero_of_lt enough)
    have first := each head List.mem_cons_self steps level _ (by omega)
      (followsValue_indentedMembers level outer (next :: tail) (']' :: rest))
    have shorter : (indented level next).length + (indentedMembers level tail).length < steps := by
      simp only [indentedMembers, List.length_append, List.length_cons] at enough
      omega
    rw [indentedMembers_append] at first ⊢
    rw [members?_of_comma first (skipBlanks_cons rfl _),
      members?_blanks (fun _ => isBlank_of_mem_newline),
      inductionHypothesis (List.forall_mem_cons.mp each).2 shorter, List.reverse_cons,
      List.append_assoc, List.singleton_append]

theorem readsBack_list {members : List Value} (each : ∀ member ∈ members, ReadsBack member)
    (plain : ∀ member ∈ members, IsPlain member) : ReadsBack (.list members) := by
  intro steps level rest enough follows
  cases members with
  | nil =>
    obtain ⟨steps, rfl⟩ := Nat.exists_eq_add_one_of_ne_zero (Nat.ne_zero_of_lt enough)
    rfl
  | cons head tail =>
    have spans : (indented (level + 1) head).length +
        (indentedMembers (level + 1) tail).length + 1 < steps := by
      simp only [indented, List.length_append, List.length_cons, newline] at enough
      omega
    obtain ⟨steps, rfl⟩ := Nat.exists_eq_add_one_of_ne_zero (Nat.ne_zero_of_lt spans)
    have read := members?_indented each (Nat.lt_of_succ_lt_succ spans) level [] rest
    obtain ⟨char, more, opens, visible, other⟩ :=
      (plain head List.mem_cons_self).exists_cons (level + 1)
    rw [opens, List.cons_append] at read
    rw [indented_list_append, opens, List.cons_append, value?_bracket _ other, read]
    · rfl
    · rw [skipBlanks_newline, skipBlanks_cons visible]

/-! ### Records -/

theorem followsValue_indentedFields (level outer : Nat) (tail : Fields) (rest : List Char) :
    FollowsValue (indentedFields level tail ++ (newline outer ++ rest)) := by
  cases tail with
  | nil =>
    rw [indentedFields, List.nil_append]
    exact followsValue_newline outer rest
  | cons next tail =>
    rw [indentedFields]
    exact followsValue_comma _

theorem skipBlanks_string (text : String) (rest : List Char) :
    skipBlanks (string escape text ++ rest) = string escape text ++ rest :=
  skipBlanks_cons rfl _

section Field

variable {name : String} {value : Value} {read : Fields} {steps level : Nat}
  {behind rest : List Char} (reads : ReadsBack value) (absent : name ∉ read.map Prod.fst)
  (enough : (indented level value).length ≤ steps) (follows : FollowsValue behind)

include reads enough follows

theorem value?_indented_behind_blank :
    value? none steps (' ' :: (indented level value ++ behind)) = some (value, behind) := by
  have blank : ∀ char ∈ [' '], isBlank char = true := List.forall_mem_singleton.mpr rfl
  exact (value?_blanks blank none steps _).trans (reads steps level behind enough follows)

include absent

/-- A written field is put behind the fields read so far, if none of them has its name. -/
theorem fields?_field_comma (comma : skipBlanks behind = ',' :: rest) :
    fields? none (steps + 1) read
        (string escape name ++ (':' :: ' ' :: (indented level value ++ behind))) =
      fields? none steps (read ++ [(name, value)]) rest := by
  have colon : isBlank ':' = false := rfl
  have first := value?_indented_behind_blank reads enough follows
  simp only [fields?, skipBlanks_string, string?_string, skipBlanks_cons colon, first, comma,
    Fields.set_of_absent absent]

theorem fields?_field_brace (brace : skipBlanks behind = '}' :: rest) :
    fields? none (steps + 1) read
        (string escape name ++ (':' :: ' ' :: (indented level value ++ behind))) =
      some (read ++ [(name, value)], rest) := by
  have colon : isBlank ':' = false := rfl
  have first := value?_indented_behind_blank reads enough follows
  simp only [fields?, skipBlanks_string, string?_string, skipBlanks_cons colon, first, brace,
    Fields.set_of_absent absent]

end Field

/-- A name that no other field of a record has is not among those in front of it. -/
theorem notMem_of_nodup {read tail : Fields} {name : String} {value : Value}
    (distinct : ((read ++ (name, value) :: tail).map Prod.fst).Nodup) :
    name ∉ read.map Prod.fst := by
  rw [List.map_append, List.nodup_append] at distinct
  exact fun member => distinct.2.2 name member name List.mem_cons_self rfl

/-- The fields of a record are read back one after the other. No name has been there before, so that
each field is put behind those read so far. -/
theorem fields?_indented {name : String} {value : Value} {tail : Fields} (read : Fields)
    (each : ∀ field ∈ (name, value) :: tail, ReadsBack field.2)
    (distinct : ((read ++ (name, value) :: tail).map Prod.fst).Nodup) {steps level : Nat}
    (enough : (indented level value).length + (indentedFields level tail).length < steps)
    (outer : Nat) (rest : List Char) :
    fields? none steps read (string escape name ++ (':' :: ' ' :: (indented level value ++
        (indentedFields level tail ++ (newline outer ++ '}' :: rest))))) =
      some (read ++ (name, value) :: tail, rest) := by
  induction tail generalizing name value steps read with
  | nil =>
    obtain ⟨steps, rfl⟩ := Nat.exists_eq_add_one_of_ne_zero (Nat.ne_zero_of_lt enough)
    have room : (indented level value).length ≤ steps := by omega
    have follows := followsValue_indentedFields level outer [] ('}' :: rest)
    refine fields?_field_brace (List.forall_mem_cons.mp each).1 (notMem_of_nodup distinct) room
      follows ?_
    rw [indentedFields, List.nil_append, skipBlanks_newline, skipBlanks_cons rfl]
  | cons next tail inductionHypothesis =>
    obtain ⟨steps, rfl⟩ := Nat.exists_eq_add_one_of_ne_zero (Nat.ne_zero_of_lt enough)
    obtain ⟨name', value'⟩ := next
    have shorter : (indented level value').length + (indentedFields level tail).length < steps := by
      simp only [indentedFields, List.length_append, List.length_cons] at enough
      omega
    have room : (indented level value).length ≤ steps := by omega
    have follows := followsValue_indentedFields level outer ((name', value') :: tail) ('}' :: rest)
    have absent := notMem_of_nodup distinct
    rw [List.append_cons] at distinct
    have others := inductionHypothesis _ (List.forall_mem_cons.mp each).2 distinct shorter
    rw [← List.append_cons] at others
    rw [indentedFields_append] at follows ⊢
    rw [fields?_field_comma (List.forall_mem_cons.mp each).1 absent room follows
      (skipBlanks_cons rfl _), fields?_blanks (fun _ => isBlank_of_mem_newline), others]

theorem readsBack_record {fields : Fields} (distinct : (fields.map Prod.fst).Nodup)
    (each : ∀ field ∈ fields, ReadsBack field.2) : ReadsBack (.record fields) := by
  intro steps level rest enough follows
  cases fields with
  | nil =>
    obtain ⟨steps, rfl⟩ := Nat.exists_eq_add_one_of_ne_zero (Nat.ne_zero_of_lt enough)
    rfl
  | cons field tail =>
    obtain ⟨name, value⟩ := field
    have spans : (indented (level + 1) value).length +
        (indentedFields (level + 1) tail).length + 1 < steps := by
      simp only [indented, List.length_append, List.length_cons, newline] at enough
      omega
    obtain ⟨steps, rfl⟩ := Nat.exists_eq_add_one_of_ne_zero (Nat.ne_zero_of_lt spans)
    have read := fields?_indented [] each distinct (Nat.lt_of_succ_lt_succ spans) level rest
    have other : '"' ≠ '}' := by decide
    rw [indented_record_append, value?_brace _ other]
    · exact congrArg (Option.map _) read
    · rw [skipBlanks_newline, skipBlanks_string]
      rfl

/-! ### Documents -/

/-- Every plain value is read back. -/
theorem IsPlain.readsBack {value : Value} (plain : IsPlain value) : ReadsBack value := by
  induction plain with
  | null => exact readsBack_null
  | bool value => exact readsBack_bool value
  | int value => exact readsBack_int value
  | string text => exact readsBack_string text
  | list each inductionHypothesis => exact readsBack_list inductionHypothesis each
  | record distinct _ inductionHypothesis => exact readsBack_record distinct inductionHypothesis

/-- A document of a plain value is read as that value. -/
theorem IsPlain.parse?_document {value : Value} (plain : IsPlain value) :
    parse? (document value) = some value := by
  have read := plain.readsBack (2 * (indented 0 value).length + 2) 0 [] (by omega) followsValue_nil
  rw [List.append_nil] at read
  simp only [parse?, parseWithin?, document, String.toList_ofList, read]
  rfl

end Json

end PolyIntake
