/-
This file shows that every document of the grammar without an integer that is too
long is read, as the tables that it describes. Together with the other direction,
the reader accepts these documents and nothing else.

Whatever follows a part has to be such that the part does not go on. Behind a
value a mark follows, and in front of it blanks, line feeds and comments that may
stand there. For a list or a table, which contain values again, the argument is by
induction on the steps of the reading: as many are enough as there are characters.
-/

import PolyIntake.Proofs.TomlQuotes

namespace PolyIntake

namespace Toml

/-! ### Blanks and comments -/

section Gaps

variable {text gap rest : List Char} {steps : Nat}

theorem not_isBlank_of_mem_marks {char : Char} (isMark : char ∈ marks) : isBlank char = false := by
  have noBlanks : marks.all (fun char => !isBlank char) = true := by decide
  simpa using List.all_eq_true.mp noBlanks char isMark

theorem isSpace_iff {char : Char} : isSpace char = true ↔ isBlank char = true ∨ char = '\n' := by
  rw [isSpace, Bool.or_eq_true_iff, decide_eq_true_iff]

theorem skipBlanks_append {blanks : List Char} (isBlanks : IsBlanks blanks)
    (begins : Begins (isBlank · = false) rest) : skipBlanks (blanks ++ rest) = rest :=
  dropWhile_append_of_begins isBlanks begins

/-- A comment is passed over up to the end of its line. -/
theorem skipComment?_append (isComment : IsOptional IsComment text)
    (begins : Begins (· = '\n') rest) : skipComment? (text ++ rest) = some rest := by
  obtain rfl | isComment := isComment
  · refine skipComment?.eq_2 rest fun more same => ?_
    rw [same] at begins
    exact absurd (begins_cons.mp begins) (by decide)
  · cases isComment with
    | @mk inner plain =>
      have inLine : ∀ char ∈ inner, decide (char ≠ '\n') = true := by
        intro char member
        refine decide_eq_true fun isBreak => ?_
        subst isBreak
        exact absurd (plain '\n' member) (by decide)
      have taken : (inner ++ rest).takeWhile (fun char => decide (char ≠ '\n')) = inner :=
        takeWhile_append_of_begins inLine (begins.imp fun char isBreak => by rw [isBreak]; rfl)
      rw [List.cons_append, skipComment?, taken, if_pos (List.all_eq_true.mpr plain),
        List.drop_left]

theorem skipLines?_space {char : Char} (isOne : isSpace char = true) (steps : Nat)
    (text : List Char) : skipLines? steps (char :: text) = skipLines? steps text := by
  cases steps with
  | zero => rfl
  | succ steps =>
    unfold skipLines?
    rw [List.dropWhile_cons_of_pos isOne]

/-- A gap is passed over where something else follows it. -/
theorem skipLines?_append (isGap : IsGap gap)
    (begins : Begins (fun char => isSpace char = false ∧ char ≠ '#') rest)
    (enough : gap.length < steps) : skipLines? steps (gap ++ rest) = some rest := by
  induction isGap generalizing steps with
  | nil =>
    obtain ⟨steps, rfl⟩ := Nat.exists_eq_add_one_of_ne_zero (Nat.ne_zero_of_lt enough)
    rw [List.nil_append]
    unfold skipLines?
    rw [dropWhile_of_begins (begins.imp fun _ => And.left)]
    split
    case h_1 => exact absurd rfl (begins_cons.mp begins).2
    case h_2 => rfl
  | space isOne _ inductionHypothesis =>
    rw [List.length_cons] at enough
    rw [List.cons_append, skipLines?_space isOne]
    exact inductionHypothesis (by omega)
  | @comment comment gap isComment _ inductionHypothesis =>
    obtain ⟨steps, rfl⟩ := Nat.exists_eq_add_one_of_ne_zero (Nat.ne_zero_of_lt enough)
    have atBreak : Begins (· = '\n') ('\n' :: (gap ++ rest)) := begins_cons.mpr rfl
    have behind := skipComment?_append (.inr isComment) atBreak
    cases isComment with
    | @mk inner plain =>
      rw [List.cons_append] at behind
      simp only [List.cons_append, List.length_append, List.length_cons] at enough
      rw [List.append_assoc, List.cons_append]
      unfold skipLines?
      rw [List.cons_append, List.dropWhile_cons_of_neg (by decide)]
      change (skipComment? ('#' :: (inner ++ '\n' :: (gap ++ rest)))).bind _ = _
      rw [behind, Option.bind_some, skipLines?_break]
      exact inductionHypothesis (by omega)

theorem ends_cons {char : Char} (isMark : char ∈ marks) (rest : List Char) :
    Ends (char :: rest) := by
  rw [Ends, skipBlanks, dropWhile_of_begins (begins_cons.mpr (not_isBlank_of_mem_marks isMark))]
  exact begins_cons.mpr isMark

theorem ends_of_begins (begins : Begins (· ∈ marks) rest) : Ends rest := by
  cases rest with
  | nil => exact begins
  | cons char rest => exact ends_cons (begins_cons.mp begins) rest

/-- A value may end behind a gap where it may end at once. -/
theorem Ends.behind_gap (isGap : IsGap gap) (ends : Ends rest) : Ends (gap ++ rest) := by
  induction isGap with
  | nil => exact ends
  | @space char _ isOne _ inductionHypothesis =>
    obtain blank | rfl := isSpace_iff.mp isOne
    · rw [Ends, skipBlanks, List.cons_append, List.dropWhile_cons_of_pos blank]
      exact inductionHypothesis
    · exact ends_cons (by decide) _
  | comment isComment =>
    cases isComment
    exact ends_cons (by decide) _

theorem IsBlanks.isGap {blanks : List Char} (isBlanks : IsBlanks blanks) : IsGap blanks := by
  have isGap := IsGap.nil.spaces_append fun char member =>
    isSpace_iff.mpr (.inl (isBlanks char member))
  rwa [List.append_nil] at isGap

/-- Blanks in front of a text make no difference for what may be blank. -/
theorem Begins.behind_blanks {blanks : List Char} {isOne : Char → Prop} (isBlanks : IsBlanks blanks)
    (space : isOne ' ') (tabulator : isOne '\t') (begins : Begins isOne rest) :
    Begins isOne (blanks ++ rest) := by
  refine .append (fun char isFirst => ?_) begins
  obtain rfl | rfl := isBlank_iff.mp (isBlanks char (List.mem_of_mem_head? isFirst))
  · exact space
  · exact tabulator

end Gaps

/-! ### Keys -/

section Keys

variable {text rest : List Char} {name : String} {key : Key}

theorem name?_append (isName : IsName text name) (begins : Begins (isBare · = false) rest) :
    name? (text ++ rest) = some (name, rest) := by
  cases isName with
  | bare filled isBare =>
    unfold name?
    dsimp only
    rw [takeWhile_append_of_begins isBare begins, if_neg (by simpa using filled), List.drop_left]
  | string isString =>
    have noBare : ((text ++ rest).takeWhile isBare).isEmpty = true := by
      cases isString with
      | mk isQuote => obtain rfl | rfl := isQuote <;> rfl
    unfold name?
    dsimp only
    rw [if_pos noBare, line?_append isString]
    rfl

/-- What a name begins with. -/
def isNameStart (char : Char) : Bool :=
  isBare char || char = '\'' || char = '"'

theorem not_isBlank_of_isNameStart {char : Char} (isStart : isNameStart char = true) :
    isBlank char = false := by
  refine Bool.eq_false_iff.mpr fun blank => ?_
  obtain rfl | rfl := isBlank_iff.mp blank <;> exact absurd isStart (by decide)

theorem IsName.starts (isName : IsName text name) : Starts (isNameStart · = true) text := by
  cases isName with
  | bare filled isBare =>
    cases text with
    | nil => exact absurd rfl filled
    | cons char more =>
      refine starts_cons ?_ more
      rw [isNameStart, isBare char List.mem_cons_self]
      rfl
  | string isString =>
    cases isString with
    | mk isQuote =>
      refine starts_cons ?_ _
      obtain rfl | rfl := isQuote <;> rfl

theorem IsKey.starts (isKey : IsKey text key) : Starts (isNameStart · = true) text := by
  cases isKey with
  | single isName => exact isName.starts
  | dotted isName => exact isName.starts.append.append.append

/-- A key is read with the blanks behind it, given as many steps as it has characters. -/
theorem key?_append {steps : Nat} {blanks : List Char} (isKey : IsKey text key)
    (isBlanks : IsBlanks blanks)
    (begins : Begins (fun char => isBare char = false ∧ isBlank char = false ∧ char ≠ '.') rest)
    (enough : text.length ≤ steps) : key? steps (text ++ blanks ++ rest) = some (key, rest) := by
  obtain ⟨steps, rfl⟩ :=
    Nat.exists_eq_add_one.mpr (Nat.lt_of_lt_of_le isKey.starts.length_pos enough)
  induction isKey generalizing steps with
  | single isName =>
    have noBare : Begins (isBare · = false) (blanks ++ rest) :=
      .behind_blanks isBlanks (by decide) (by decide) (begins.imp fun _ => And.left)
    unfold key?
    rw [List.append_assoc, name?_append isName noBare]
    dsimp only
    rw [skipBlanks_append isBlanks (begins.imp fun _ other => other.2.1)]
    split
    case h_1 => exact absurd rfl (begins_cons.mp begins).2.2
    case h_2 => rfl
  | @dotted text before behind text' name key isName isBefore isBehind isKey
      inductionHypothesis =>
    simp only [List.length_append, List.length_cons] at enough
    have room : text'.length ≤ steps := by omega
    obtain ⟨steps, rfl⟩ :=
      Nat.exists_eq_add_one.mpr (Nat.lt_of_lt_of_le isKey.starts.length_pos room)
    have whole : text ++ before ++ '.' :: behind ++ text' ++ blanks ++ rest =
        text ++ (before ++ '.' :: (behind ++ (text' ++ blanks ++ rest))) := by simp
    have noBare : Begins (isBare · = false)
        (before ++ '.' :: (behind ++ (text' ++ blanks ++ rest))) :=
      .behind_blanks isBefore (by decide) (by decide) (begins_cons.mpr (by decide))
    have noBlank : Begins (isBlank · = false) (text' ++ blanks ++ rest) := by
      rw [List.append_assoc]
      exact (isKey.starts.begins _).imp fun _ => not_isBlank_of_isNameStart
    unfold key?
    rw [whole, name?_append isName noBare]
    dsimp only
    rw [skipBlanks_append isBefore (begins_cons.mpr (by decide))]
    change (key? (steps + 1) (skipBlanks (behind ++ (text' ++ blanks ++ rest)))).map _ = _
    rw [skipBlanks_append isBehind noBlank, inductionHypothesis steps room]
    rfl

end Keys

/-! ### Scalars -/

section Scalars

variable {text rest : List Char} {result : Value}

/-- What a number or a moment begins with. -/
def isNumberStart (char : Char) : Bool :=
  char.isDigit || char = '-' || char = '+' || char = 'i' || char = 'n'

theorem isNumberStart_of_isDigit {char : Char} (isDigit : char.isDigit = true) :
    isNumberStart char = true := by
  rw [isNumberStart, isDigit]
  rfl

theorem IsNumber.starts {limit : Option Nat} (isNumber : IsNumber limit text result) :
    Starts (isNumberStart · = true) text := by
  have behindSign {sign behind : List Char} {negative : Bool} (isSign : IsSign sign negative)
      (starts : Starts (isNumberStart · = true) behind) :
      Starts (isNumberStart · = true) (sign ++ behind) := by
    cases isSign with
    | none => exact starts
    | minus => exact starts_cons (by decide) behind
    | plus => exact starts_cons (by decide) behind
  obtain ⟨sign, negative, whole, digits, behind, rfl, isSign, isWhole, -⟩ |
    ⟨letter, more, rfl, -⟩ | ⟨sign, negative, letter, more, rfl, isSign, isLetter⟩ :=
      isNumber.shape
  · exact behindSign isSign
      (isWhole.isRun.starts.append.imp fun _ => isNumberStart_of_isDigit)
  · exact starts_cons (by decide) (letter :: more)
  · refine behindSign isSign (starts_cons ?_ more)
    obtain rfl | rfl := isLetter <;> rfl

theorem IsMoment.starts (isMoment : IsMoment text) : Starts (isNumberStart · = true) text := by
  refine Starts.imp ?_ fun _ => isNumberStart_of_isDigit
  cases isMoment with
  | date isDate => exact isDate.starts
  | time isTime => exact isTime.starts
  | both isDate => exact isDate.starts.append.append

/-- A text that begins like a number or a moment is read as one. -/
theorem value_of_isNumberStart {char : Char} (isStart : isNumberStart char = true) (steps : Nat)
    (text : List Char) :
    (∀ rest, readMoment (char :: text) = .moment rest →
      value (steps + 1) (char :: text) = .ok (.moment, rest)) ∧
    (readMoment (char :: text) = .other →
      value (steps + 1) (char :: text) = number (char :: text)) := by
  have other {first : Char} (noStart : isNumberStart first = false) (more : List Char) :
      char :: text ≠ first :: more := by
    rintro same
    rw [(List.cons.inj same).1, noStart] at isStart
    cases isStart
  rw [value.eq_6 _ _ (other rfl) (other rfl) (other rfl) (other rfl),
    scalar.eq_3 _ (fun _ => other rfl _) fun _ => other rfl _]
  refine ⟨fun rest found => ?_, fun found => ?_⟩
  · rw [found]
  · rw [found]

/-- Where an opening quote comes first, a string is read. -/
theorem value_of_string {steps : Nat} {quote : Char} {content : List Char}
    (isQuote : quote = '\'' ∨ quote = '"')
    (found : string? (quote :: text) = some (content, rest)) :
    value (steps + 1) (quote :: text) = .ok (.string (String.ofList content), rest) := by
  have ofString : value (steps + 1) (quote :: text) = stringValue (quote :: text) := by
    obtain rfl | rfl := isQuote <;> rfl
  rw [ofString, stringValue, found]
  rfl

/-- A value that contains no others is read where it may end. -/
theorem scalar_append (isScalar : IsScalar readLimit text result) (ends : Ends rest)
    (steps : Nat) : value (steps + 1) (text ++ rest) = .ok (result, rest) := by
  have noQuote : Begins (fun char => char ≠ '\'' ∧ char ≠ '"') rest :=
    ends.begins (by decide)
  cases isScalar with
  | true => rfl
  | false => rfl
  | number isNumber =>
    have timeless := readMoment_of_isTimeless (isNumber.isTimeless ends)
    have found := number_append isNumber ends
    obtain ⟨first, inner, rfl, isStart⟩ := isNumber.starts
    rw [List.cons_append] at timeless found ⊢
    rw [(value_of_isNumberStart isStart steps _).2 timeless, found]
  | moment isMoment =>
    have found := readMoment_append isMoment ends
    obtain ⟨first, inner, rfl, isStart⟩ := isMoment.starts
    rw [List.cons_append] at found ⊢
    exact (value_of_isNumberStart isStart steps _).1 rest found
  | string isString =>
    have found := string?_of_isString isString noQuote
    cases isString with
    | mk isQuote => exact value_of_string isQuote found
  | longString isLongString =>
    have found := string?_of_isLongString isLongString noQuote
    cases isLongString with
    | mk isQuote => exact value_of_string isQuote found

end Scalars

/-! ### Lists and tables -/

section Containers

variable {limit : Option Nat} {steps : Nat} {text gap rest : List Char}

theorem not_mem_endings_of_isNumberStart {char : Char} (isStart : isNumberStart char = true) :
    char ∉ endings := by
  intro isEnding
  have noStarts : endings.all (fun char => !isNumberStart char) = true := by decide
  simpa [isStart] using List.all_eq_true.mp noStarts char isEnding

/-- A value begins with no character that may stand right behind one. -/
theorem IsValue.starts {result : Value} (isValue : IsValue limit text result) :
    Starts (· ∉ endings) text := by
  have ofQuote {quote : Char} (isQuote : quote = '\'' ∨ quote = '"') : quote ∉ endings := by
    obtain rfl | rfl := isQuote <;> decide
  cases isValue with
  | scalar isScalar =>
    cases isScalar with
    | true => exact starts_cons (by decide) _
    | false => exact starts_cons (by decide) _
    | number isNumber => exact isNumber.starts.imp fun _ => not_mem_endings_of_isNumberStart
    | moment isMoment => exact isMoment.starts.imp fun _ => not_mem_endings_of_isNumberStart
    | string isString =>
      cases isString with
      | mk isQuote => exact starts_cons (ofQuote isQuote) _
    | longString isLongString =>
      cases isLongString with
      | mk isQuote => exact starts_cons (ofQuote isQuote) _
  | list => exact starts_cons (by decide) _
  | empty => exact starts_cons (by decide) _
  | record => exact starts_cons (by decide) _

/-- The members of a list begin like a value, unless there are none. -/
theorem IsMembers.starts {others : List Value} (isMembers : IsMembers limit text others) :
    text = [] ∧ others = [] ∨ Starts (· ∉ endings) text := by
  cases isMembers with
  | none => exact .inl ⟨rfl, rfl⟩
  | last isValue => exact .inr isValue.starts.append
  | more isValue => exact .inr isValue.starts.append.append.append

theorem IsField.starts {key : Key} {result : Value} (isField : IsField limit text key result) :
    Starts (isNameStart · = true) text := by
  cases isField with
  | mk isKey => exact isKey.starts.append.append.append

theorem IsEntries.starts {table table' : Fields} {closed : List Key}
    (isEntries : IsEntries limit table closed text table') :
    Starts (isNameStart · = true) text := by
  cases isEntries with
  | last isField => exact isField.starts.append
  | more isField => exact isField.starts.append.append.append

/-- So many steps are enough for every value that is no longer. -/
def ReadsValues (steps : Nat) : Prop :=
  ∀ ⦃text : List Char⦄ ⦃result : Value⦄ ⦃rest : List Char⦄, IsValue readLimit text result →
    Ends rest → text.length ≤ steps → value steps (text ++ rest) = .ok (result, rest)

/-- So many steps are enough for the members of every list that is no longer. -/
def ReadsMembers (steps : Nat) : Prop :=
  ∀ ⦃text : List Char⦄ ⦃others : List Value⦄, IsMembers readLimit text others → text ≠ [] →
    text.length < steps → ∀ (read : List Value) (rest : List Char),
      members steps read (text ++ ']' :: rest) = .ok (read.reverse ++ others, rest)

/-- So many steps are enough for the fields of every table that is no longer. -/
def ReadsEntries (steps : Nat) : Prop :=
  ∀ ⦃table : Fields⦄ ⦃closed : List Key⦄ ⦃text : List Char⦄ ⦃table' : Fields⦄,
    IsEntries readLimit table closed text table' → text.length < steps → ∀ (rest : List Char),
      entries steps table closed (text ++ '\x7d' :: rest) = .ok (table', rest)

/-- A gap in a list is passed over up to a bracket or a comma. -/
theorem skipLines?_mark {mark : Char} (isGap : IsGap gap) (isMark : mark = ']' ∨ mark = ',')
    (enough : gap.length < steps) :
    skipLines? steps (gap ++ mark :: rest) = some (mark :: rest) := by
  refine skipLines?_append isGap (begins_cons.mpr ?_) enough
  obtain rfl | rfl := isMark <;> decide

theorem not_isSpace_of_not_mem_endings {char : Char} (other : char ∉ endings) :
    isSpace char = false := by
  refine Bool.eq_false_iff.mpr fun space => other ?_
  rw [isSpace_iff, isBlank_iff] at space
  obtain (rfl | rfl) | rfl := space <;> decide

/-- A gap in a list is passed over up to the next member. -/
theorem skipLines?_member {first : Char} (isGap : IsGap gap) (other : first ∉ endings)
    (enough : gap.length < steps) :
    skipLines? steps (gap ++ first :: rest) = some (first :: rest) := by
  have noMark : first ≠ '#' := by
    rintro rfl
    exact other (by decide)
  exact skipLines?_append isGap
    (begins_cons.mpr ⟨not_isSpace_of_not_mem_endings other, noMark⟩) enough

/-- A list that is not empty is read as its members. -/
theorem value_list {first : Char} (isGap : IsGap gap) (other : first ∉ endings)
    (enough : gap.length < steps) :
    value (steps + 1) ('[' :: (gap ++ first :: rest)) =
      (members steps [] (first :: rest)).map fun found => (.list found.1, found.2) := by
  have noBracket : first ≠ ']' := by
    rintro rfl
    exact other (by decide)
  rw [value, skipLines?_member isGap other enough]
  split
  case h_1 none => cases none
  case h_2 found =>
    cases found
    exact absurd rfl noBracket
  case h_3 found =>
    cases found
    rfl

/-- Behind a comma the next member of a list is read. -/
theorem members_more {gap' : List Char} {first : Char} {result : Value}
    (taken : value steps text = .ok (result, gap ++ ',' :: (gap' ++ first :: rest)))
    (isGap : IsGap gap) (isGap' : IsGap gap') (other : first ∉ endings)
    (enough : gap.length < steps) (enough' : gap'.length < steps) (read : List Value) :
    members (steps + 1) read text = members steps (result :: read) (first :: rest) := by
  have noBracket : first ≠ ']' := by
    rintro rfl
    exact other (by decide)
  rw [members]
  simp only [taken, skipLines?_mark isGap (.inr rfl) enough]
  rw [skipLines?_member isGap' other enough']
  split
  case h_1 none => cases none
  case h_2 found =>
    cases found
    exact absurd rfl noBracket
  case h_3 found =>
    cases found
    rfl

/-- A table that is not empty is read as its fields. -/
theorem value_record {blanks : List Char} (isBlanks : IsBlanks blanks)
    (starts : Starts (isNameStart · = true) text) :
    value (steps + 1) ('\x7b' :: (blanks ++ text)) =
      (entries steps [] [] text).map fun found => (.record found.1, found.2) := by
  have noBlank : Begins (isBlank · = false) text :=
    starts.to_begins.imp fun _ => not_isBlank_of_isNameStart
  rw [value, skipBlanks_append isBlanks noBlank]
  split
  case h_1 =>
    obtain ⟨first, inner, same, isStart⟩ := starts
    cases same
    exact absurd isStart (by decide)
  case h_2 => rfl

/-- Behind a comma the next field of a table is read. -/
theorem entries_more {table table' : Fields} {closed : List Key} {key : Key} {result : Value}
    {behind blanks blanks' : List Char} (keyFound : key? steps text = some (key, '=' :: behind))
    (taken : value steps (skipBlanks behind) = .ok (result, blanks ++ ',' :: (blanks' ++ rest)))
    (added : addInline table closed key result = some table') (isBlanks : IsBlanks blanks)
    (isBlanks' : IsBlanks blanks') (starts : Starts (isNameStart · = true) rest) :
    entries (steps + 1) table closed text =
      entries steps table' (if isContainer result then key :: closed else closed) rest := by
  have noBlank : Begins (isBlank · = false) rest :=
    starts.to_begins.imp fun _ => not_isBlank_of_isNameStart
  rw [entries]
  simp only [keyFound, taken, added]
  rw [skipBlanks_append isBlanks (begins_cons.mpr (by decide))]
  change entries steps table' _ (skipBlanks (blanks' ++ rest)) = _
  rw [skipBlanks_append isBlanks' noBlank]

/-- One more step is enough for lists whose members are read in the steps before. -/
theorem ReadsMembers.succ (one : ReadsValues steps) (more : ReadsMembers steps) :
    ReadsMembers (steps + 1) := by
  intro text others isMembers filled enough read rest
  cases isMembers with
  | none => exact absurd rfl filled
  | @last text gap value isValue isGap =>
    have filled := isValue.starts.length_pos
    simp only [List.length_append] at enough
    have taken : Toml.value steps (text ++ (gap ++ ']' :: rest)) = _ :=
      one isValue (.behind_gap isGap (ends_cons (by decide) rest)) (by omega)
    have skipped : skipLines? steps (gap ++ ']' :: rest) = _ :=
      skipLines?_mark isGap (.inl rfl) (by omega)
    rw [List.append_assoc, members]
    simp only [taken, skipped, List.reverse_cons]
  | @more text gap gap' text' value others isValue isGap isGap' isMembers =>
    simp only [List.length_append, List.length_cons] at enough
    have whole : text ++ gap ++ ',' :: gap' ++ text' ++ ']' :: rest =
        text ++ (gap ++ ',' :: (gap' ++ (text' ++ ']' :: rest))) := by simp
    have taken : Toml.value steps (text ++ (gap ++ ',' :: (gap' ++ (text' ++ ']' :: rest)))) = _ :=
      one isValue (.behind_gap isGap (ends_cons (by decide) _)) (by omega)
    rw [whole]
    obtain ⟨rfl, rfl⟩ | starts := isMembers.starts
    · have skipped : skipLines? steps (gap ++ ',' :: (gap' ++ ([] ++ ']' :: rest))) = _ :=
        skipLines?_mark isGap (.inr rfl) (by omega)
      have skipped' : skipLines? steps (gap' ++ ']' :: rest) = _ :=
        skipLines?_mark isGap' (.inl rfl) (by omega)
      rw [List.nil_append] at taken skipped
      rw [List.nil_append, members]
      simp only [taken, skipped, skipped', List.reverse_cons]
    · obtain ⟨first, inner, rfl, other⟩ := starts
      have behind := more isMembers (List.cons_ne_nil _ _) (by omega) (value :: read) rest
      rw [List.cons_append] at behind taken ⊢
      rw [members_more taken isGap isGap' other (by omega) (by omega), behind]
      simp

/-- A field is read as its key and its value. -/
theorem ReadsValues.field (one : ReadsValues steps) {key : Key} {result : Value}
    (isField : IsField readLimit text key result) (ends : Ends rest)
    (enough : text.length ≤ steps) :
    ∃ behind, key? steps (text ++ rest) = some (key, '=' :: behind) ∧
      value steps (skipBlanks behind) = .ok (result, rest) := by
  cases isField with
  | @mk keyText blanks blanks' valueText key result isKey isBlanks isBlanks' isValue =>
    simp only [List.length_append, List.length_cons] at enough
    have whole : keyText ++ blanks ++ '=' :: blanks' ++ valueText ++ rest =
        keyText ++ blanks ++ ('=' :: (blanks' ++ (valueText ++ rest))) := by simp
    have noBlank : Begins (isBlank · = false) (valueText ++ rest) :=
      (isValue.starts.begins rest).imp fun _ other =>
        (Bool.or_eq_false_iff.mp (not_isSpace_of_not_mem_endings other)).1
    refine ⟨blanks' ++ (valueText ++ rest), ?_, ?_⟩
    · rw [whole]
      exact key?_append isKey isBlanks (begins_cons.mpr (by decide)) (by omega)
    · rw [skipBlanks_append isBlanks' noBlank]
      exact one isValue ends (by omega)

/-- One more step is enough for tables whose values are read in the steps before. -/
theorem ReadsEntries.succ (one : ReadsValues steps) (more : ReadsEntries steps) :
    ReadsEntries (steps + 1) := by
  intro table closed text table' isEntries enough rest
  cases isEntries with
  | @last _ _ _ text blanks key result isField added isBlanks =>
    simp only [List.length_append] at enough
    have ends : Ends (blanks ++ '\x7d' :: rest) :=
      .behind_gap isBlanks.isGap (ends_cons (by decide) rest)
    obtain ⟨behind, keyFound, taken⟩ := one.field isField ends (by omega)
    rw [List.append_assoc, entries]
    simp only [keyFound, taken, added]
    rw [skipBlanks_append isBlanks (begins_cons.mpr (by decide))]
    rfl
  | @more _ _ _ _ text blanks blanks' text' key result isField added isBlanks isBlanks'
      isEntries =>
    simp only [List.length_append, List.length_cons] at enough
    have whole : text ++ blanks ++ ',' :: blanks' ++ text' ++ '\x7d' :: rest =
        text ++ (blanks ++ ',' :: (blanks' ++ (text' ++ '\x7d' :: rest))) := by simp
    have ends : Ends (blanks ++ ',' :: (blanks' ++ (text' ++ '\x7d' :: rest))) :=
      .behind_gap isBlanks.isGap (ends_cons (by decide) _)
    obtain ⟨behind, keyFound, taken⟩ := one.field isField ends (by omega)
    rw [whole, entries_more keyFound taken added isBlanks isBlanks' isEntries.starts.append]
    exact more isEntries (by omega) rest

/-- One more step is enough for values, if what they contain is read in the steps before. -/
theorem ReadsValues.succ (list : ReadsMembers steps) (table : ReadsEntries steps) :
    ReadsValues (steps + 1) := by
  intro text result rest isValue ends enough
  cases isValue with
  | scalar isScalar => exact scalar_append isScalar ends steps
  | @list gap text others isGap isMembers =>
    simp only [List.cons_append, List.length_append, List.length_cons, List.length_nil] at enough
    have whole : '[' :: gap ++ text ++ [']'] ++ rest = '[' :: (gap ++ (text ++ ']' :: rest)) := by
      simp
    rw [whole]
    obtain ⟨rfl, rfl⟩ | starts := isMembers.starts
    · have skipped : skipLines? steps (gap ++ ']' :: rest) = _ :=
        skipLines?_mark isGap (.inl rfl) (by omega)
      rw [value]
      simp only [List.nil_append, skipped]
    · obtain ⟨first, inner, rfl, other⟩ := starts
      have behind := list isMembers (List.cons_ne_nil _ _) (by omega) [] rest
      rw [List.cons_append] at behind ⊢
      rw [value_list isGap other (by omega), behind]
      rfl
  | @empty blanks isBlanks =>
    have whole : '\x7b' :: blanks ++ ['\x7d'] ++ rest = '\x7b' :: (blanks ++ '\x7d' :: rest) := by
      simp
    rw [whole, value, skipBlanks_append isBlanks (begins_cons.mpr (by decide))]
    rfl
  | @record blanks text fields isBlanks isEntries =>
    simp only [List.cons_append, List.length_append, List.length_cons, List.length_nil] at enough
    have whole : '\x7b' :: blanks ++ text ++ ['\x7d'] ++ rest =
        '\x7b' :: (blanks ++ (text ++ '\x7d' :: rest)) := by simp
    have behind := table isEntries (by omega) rest
    rw [whole, value_record isBlanks isEntries.starts.append, behind]
    rfl

/-- As many steps are enough for every value as it has characters. -/
theorem reading_complete (steps : Nat) :
    ReadsValues steps ∧ ReadsMembers steps ∧ ReadsEntries steps := by
  induction steps with
  | zero =>
    refine ⟨fun text result rest isValue _ enough => ?_, fun text others _ _ enough => ?_,
      fun table closed text table' _ enough => ?_⟩
    · exact absurd isValue.starts.length_pos (Nat.not_lt_of_le enough)
    · exact absurd enough (Nat.not_lt_zero _)
    · exact absurd enough (Nat.not_lt_zero _)
  | succ steps inductionHypothesis =>
    obtain ⟨one, list, table⟩ := inductionHypothesis
    exact ⟨.succ list table, .succ one list, .succ one table⟩

end Containers

/-! ### Lines -/

section Lines

variable {limit : Option Nat} {steps : Nat} {document document' : Document}
  {text rest : List Char}

/-- The key of a head is read up to the closing bracket. -/
theorem key?_head {blanks blanks' keyText : List Char} {key : Key} (isBlanks : IsBlanks blanks)
    (isKey : IsKey keyText key) (isBlanks' : IsBlanks blanks') (enough : keyText.length ≤ steps)
    (rest : List Char) :
    key? steps (skipBlanks (blanks ++ (keyText ++ blanks' ++ ']' :: rest))) =
      some (key, ']' :: rest) := by
  have noBlank : Begins (isBlank · = false) (keyText ++ blanks' ++ ']' :: rest) :=
    (isKey.starts.append.begins _).imp fun _ => not_isBlank_of_isNameStart
  rw [skipBlanks_append isBlanks noBlank]
  exact key?_append isKey isBlanks' (begins_cons.mpr (by decide)) enough

/-- A line that begins with a name is read as a field. -/
theorem statement_of_starts (starts : Starts (isNameStart · = true) text) :
    statement steps document text = field steps document text := by
  obtain ⟨first, inner, rfl, isStart⟩ := starts
  have other {char : Char} (noStart : isNameStart char = false) (more : List Char) :
      first :: inner ≠ char :: more := by
    intro same
    rw [(List.cons.inj same).1, noStart] at isStart
    cases isStart
  exact statement.eq_3 _ _ _ (other rfl) (other rfl)

/-- What a line says is read where the line may end. -/
theorem statement_append (isStatement : IsStatement readLimit document text document')
    (ends : Ends rest) (enough : text.length ≤ steps) :
    statement steps document (text ++ rest) = .ok (document', rest) := by
  cases isStatement with
  | @field _ key result _ isField added =>
    obtain ⟨behind, keyFound, taken⟩ := (reading_complete steps).1.field isField ends enough
    rw [statement_of_starts isField.starts.append, field, keyFound]
    change (value steps (skipBlanks behind)).bind _ = _
    rw [taken]
    change (demanded (document.addValue key result)).bind _ = _
    rw [added]
    rfl
  | @table blanks keyText blanks' key _ isBlanks isKey isBlanks' declared =>
    simp only [List.cons_append, List.length_append, List.length_cons] at enough
    have whole : '[' :: blanks ++ keyText ++ blanks' ++ [']'] ++ rest =
        '[' :: (blanks ++ (keyText ++ blanks' ++ ']' :: rest)) := by simp
    have found : key? steps (skipBlanks (blanks ++ (keyText ++ blanks' ++ ']' :: rest))) = _ :=
      key?_head isBlanks isKey isBlanks' (by omega) rest
    have noBracket : Begins (· ≠ '[') (blanks ++ (keyText ++ blanks' ++ ']' :: rest)) := by
      refine .behind_blanks isBlanks (by decide) (by decide) ?_
      refine (isKey.starts.append.begins _).imp fun char isStart isBracket => ?_
      rw [isBracket] at isStart
      exact absurd isStart (by decide)
    rw [whole, statement, head?.eq_2 _ _ _ fun more same => noBracket '[' (by rw [same]; rfl) rfl,
      found]
    simp only [Option.bind_eq_bind, Option.bind_some, declared, demanded]
  | @member blanks keyText blanks' key _ isBlanks isKey isBlanks' declared =>
    simp only [List.cons_append, List.length_append, List.length_cons] at enough
    have whole : '[' :: '[' :: blanks ++ keyText ++ blanks' ++ [']', ']'] ++ rest =
        '[' :: '[' :: (blanks ++ (keyText ++ blanks' ++ ']' :: ']' :: rest)) := by simp
    have found : key? steps (skipBlanks (blanks ++ (keyText ++ blanks' ++ ']' :: _))) = _ :=
      key?_head isBlanks isKey isBlanks' (by omega) (']' :: rest)
    rw [whole, statement, head?, found]
    simp only [Option.bind_eq_bind, Option.bind_some, declared, demanded]

/-- What is read behind a line: the lines that follow its line feed, if any do. -/
def linesBehind (steps : Nat) (document : Document) : List Char → Except Refusal Document
  | [] => .ok document
  | _ :: rest => lines steps document rest

/-- A line that is not blank is read as what it says, blanks and a comment. -/
theorem lines_of_statement {first : Char} {more behind : List Char} (noBreak : first ≠ '\n')
    (skipped : skipBlanks text = first :: more)
    (said : statement steps document (first :: more) = .ok (document', behind))
    (commentFound : skipComment? (skipBlanks behind) = some rest)
    (begins : Begins (· = '\n') rest) :
    lines (steps + 1) document text = linesBehind steps document' rest := by
  unfold lines
  rw [skipped]
  split
  case h_1 none => cases none
  case h_2 same =>
    cases same
    exact absurd rfl noBreak
  case h_3 =>
    simp only [said, commentFound]
    cases rest with
    | nil => rfl
    | cons char rest =>
      obtain rfl := begins_cons.mp begins
      rfl

/-- What a line says begins with a name or a bracket. -/
theorem IsStatement.starts (isStatement : IsStatement limit document text document') :
    Starts (fun char => isBlank char = false ∧ char ≠ '\n') text := by
  have ofName {char : Char} (isStart : isNameStart char = true) :
      isBlank char = false ∧ char ≠ '\n' := by
    refine ⟨not_isBlank_of_isNameStart isStart, ?_⟩
    rintro rfl
    exact absurd isStart (by decide)
  cases isStatement with
  | field isField => exact isField.starts.imp fun _ => ofName
  | table => exact starts_cons (by decide) _
  | member => exact starts_cons (by decide) _

/-- A comment and the end of its line are marks. -/
theorem begins_comment {comment : List Char} (isComment : IsOptional IsComment comment)
    (begins : Begins (· = '\n') rest) : Begins (· ∈ marks) (comment ++ rest) := by
  obtain rfl | isComment := isComment
  · exact begins.imp fun char isBreak => by rw [isBreak]; decide
  · cases isComment
    exact begins_cons.mpr (by decide)

theorem line_append (isLine : IsLine readLimit document text document')
    (begins : Begins (· = '\n') rest) (enough : text.length ≤ steps) :
    lines (steps + 1) document (text ++ rest) = linesBehind steps document' rest := by
  cases isLine with
  | @silent blanks comment isBlanks isComment =>
    have skipped : skipBlanks (blanks ++ comment ++ rest) = comment ++ rest := by
      rw [List.append_assoc]
      exact skipBlanks_append isBlanks
        ((begins_comment isComment begins).imp fun _ => not_isBlank_of_mem_marks)
    have commentFound := skipComment?_append isComment begins
    obtain rfl | isComment := isComment
    · unfold lines
      rw [skipped, List.nil_append]
      cases rest with
      | nil => rfl
      | cons char rest =>
        obtain rfl := begins_cons.mp begins
        rfl
    · cases isComment
      exact lines_of_statement (by decide) skipped rfl commentFound begins
  | @statement blanks inner blanks' comment _ isBlanks isStatement isBlanks' isComment =>
    simp only [List.length_append] at enough
    have whole : blanks ++ inner ++ blanks' ++ comment ++ rest =
        blanks ++ (inner ++ (blanks' ++ (comment ++ rest))) := by simp
    have marked := begins_comment isComment begins
    have said : Toml.statement steps document (inner ++ (blanks' ++ (comment ++ rest))) = _ :=
      statement_append isStatement (.behind_gap isBlanks'.isGap (ends_of_begins marked)) (by omega)
    have commentFound : skipComment? (skipBlanks (blanks' ++ (comment ++ rest))) = some rest := by
      rw [skipBlanks_append isBlanks' (marked.imp fun _ => not_isBlank_of_mem_marks)]
      exact skipComment?_append isComment begins
    obtain ⟨first, more, rfl, noBlank, noBreak⟩ := isStatement.starts
    rw [whole]
    exact lines_of_statement noBreak (skipBlanks_append isBlanks (begins_cons.mpr noBlank)) said
      commentFound begins

/-- Lines are read to their end. Every line but the last takes a line feed along, which leaves
steps enough for those behind it. -/
theorem lines_complete (isLines : IsLines readLimit document text document')
    (enough : text.length < steps) : lines steps document text = .ok document' := by
  induction isLines generalizing steps with
  | @last document document' text isLine =>
    obtain ⟨steps, rfl⟩ := Nat.exists_eq_add_one.mpr (Nat.zero_lt_of_lt enough)
    have found := line_append isLine (begins_nil _) (Nat.le_of_lt_succ enough)
    rwa [List.append_nil] at found
  | @more document document' document'' text text' isLine _ inductionHypothesis =>
    simp only [List.length_append, List.length_cons] at enough
    obtain ⟨steps, rfl⟩ := Nat.exists_eq_add_one.mpr (Nat.zero_lt_of_lt enough)
    rw [line_append isLine (begins_cons.mpr rfl) (by omega)]
    exact inductionHypothesis (by omega)

end Lines

/-- What is read are the documents without an integer that is too long. -/
theorem parse_eq_ok_iff {text : List Char} {tables : Fields} :
    parse text = .ok tables ↔ Describes readLimit text tables := by
  refine ⟨(parse_sound text).1 tables, ?_⟩
  rintro ⟨document, isLines, rfl⟩
  rw [parse, lines_complete isLines (by omega)]
  rfl

end Toml

end PolyIntake
