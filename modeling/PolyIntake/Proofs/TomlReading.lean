/-
This file shows that what is read as a configuration file is one. Every part of
the file is taken from the text as a part of its kind, and what a line says
changes the document as the grammar says. For a list or a table, which contain
values again, the argument is by induction on the steps of the reading.

A text that is no document is therefore refused, and there are two ways of it:
it is malformed, or the reading comes to an integer that is too long before it
comes to what is wrong. Then everything in front of that integer is as it has to
be.
-/

import PolyIntake.Proofs.TomlLexemes

namespace PolyIntake

namespace Toml

/-! ### Blanks, comments and keys -/

theorem opens_skipBlanks (text : List Char) : Opens IsBlanks text (skipBlanks text) :=
  ⟨text.takeWhile isBlank, List.takeWhile_append_dropWhile.symm,
    List.all_eq_true.mp List.all_takeWhile⟩

/-- A comment goes to the end of its line. -/
theorem skipComment?_mark_sound {text rest : List Char}
    (found : skipComment? ('#' :: text) = some rest) :
    Opens IsComment ('#' :: text) rest ∧ ∀ char ∈ rest.head?, char = '\n' := by
  simp only [skipComment?, drop_length_takeWhile] at found
  split at found
  case isTrue plain =>
    cases found
    refine ⟨⟨'#' :: text.takeWhile fun char => decide (char ≠ '\n'), ?_,
      .mk (List.all_eq_true.mp plain)⟩, ?_⟩
    · rw [List.cons_append, List.takeWhile_append_dropWhile]
    · intro char head
      have stopped := List.head?_dropWhile_not (fun char => decide (char ≠ '\n')) text
      rw [Option.mem_def.mp head] at stopped
      simpa using stopped
  case isFalse => cases found

theorem skipComment?_sound {text rest : List Char} (found : skipComment? text = some rest) :
    Opens (IsOptional IsComment) text rest := by
  cases text with
  | nil =>
    cases found
    exact ⟨[], rfl, .inl rfl⟩
  | cons char text =>
    by_cases mark : char = '#'
    · subst mark
      obtain ⟨⟨comment, same, isComment⟩, -⟩ := skipComment?_mark_sound found
      exact ⟨comment, same, .inr isComment⟩
    · rw [skipComment?.eq_2 _ (by simpa using mark)] at found
      cases found
      exact ⟨[], rfl, .inl rfl⟩

theorem IsGap.spaces_append {spaces text : List Char}
    (isSpaces : ∀ char ∈ spaces, isSpace char = true) (isGap : IsGap text) :
    IsGap (spaces ++ text) := by
  induction spaces with
  | nil => exact isGap
  | cons char spaces inductionHypothesis =>
    obtain ⟨isOne, others⟩ := List.forall_mem_cons.mp isSpaces
    exact .space isOne (inductionHypothesis others)

/-- A line feed at the beginning is passed over. -/
theorem skipLines?_break (steps : Nat) (text : List Char) :
    skipLines? steps ('\n' :: text) = skipLines? steps text := by
  cases steps <;> rfl

/-- Blanks, line feeds and comments are taken where something follows them. Where nothing does, the
last comment may lack its line feed. -/
theorem skipLines?_sound {steps : Nat} {text rest : List Char} {next : Char}
    (found : skipLines? steps text = some (next :: rest)) : Opens IsGap text (next :: rest) := by
  induction steps generalizing text with
  | zero => cases found
  | succ steps inductionHypothesis =>
    have spaces : text.takeWhile isSpace ++ text.dropWhile isSpace = text :=
      List.takeWhile_append_dropWhile
    have isSpaces : ∀ char ∈ text.takeWhile isSpace, isSpace char = true :=
      List.all_eq_true.mp List.all_takeWhile
    unfold skipLines? at found
    split at found
    case h_1 behind dropped =>
      obtain ⟨more, commentFound, found⟩ := Option.bind_eq_some_iff.mp found
      obtain ⟨⟨comment, same, isComment⟩, atBreak⟩ := skipComment?_mark_sound commentFound
      cases more with
      | nil => cases steps <;> cases found
      | cons first more =>
        obtain rfl := atBreak first rfl
        rw [skipLines?_break] at found
        obtain ⟨gap, rfl, isGap⟩ := inductionHypothesis found
        refine ⟨text.takeWhile isSpace ++ (comment ++ '\n' :: gap), ?_,
          (IsGap.comment isComment isGap).spaces_append isSpaces⟩
        conv => lhs; rw [← spaces, dropped, same]
        simp
    case h_2 =>
      rw [Option.some.inj found] at spaces
      refine ⟨text.takeWhile isSpace, spaces.symm, ?_⟩
      have isGap := IsGap.nil.spaces_append isSpaces
      rwa [List.append_nil] at isGap

theorem name?_sound {text rest : List Char} {name : String}
    (found : name? text = some (name, rest)) : Opens (IsName · name) text rest := by
  unfold name? at found
  dsimp only at found
  split at found
  case isTrue =>
    obtain ⟨⟨content, rest⟩, stringFound, same⟩ := Option.map_eq_some_iff.mp found
    cases same
    obtain ⟨part, same, isString⟩ := line?_sound stringFound
    exact ⟨part, same, .string isString⟩
  case isFalse filled =>
    cases found
    refine ⟨text.takeWhile isBare, (List.prefix_iff_eq_append.mp (List.takeWhile_prefix _)).symm,
      .bare (by simpa using filled) (List.all_eq_true.mp List.all_takeWhile)⟩

/-- A key is taken with the blanks behind it. -/
theorem key?_sound {steps : Nat} {text rest : List Char} {key : Key}
    (found : key? steps text = some (key, rest)) :
    ∃ part blanks, text = part ++ blanks ++ rest ∧ IsKey part key ∧ IsBlanks blanks := by
  fun_induction key? steps text generalizing key with
  | case1 => cases found
  | case2 => cases found
  | case3 steps text name behind nameFound more skipped inductionHypothesis =>
    obtain ⟨⟨key, rest⟩, keyFound, same⟩ := Option.map_eq_some_iff.mp found
    cases same
    obtain ⟨part, rfl, isName⟩ := name?_sound nameFound
    obtain ⟨blanks, apart, isBlanks⟩ := opens_skipBlanks behind
    obtain ⟨blanks', apart', isBlanks'⟩ := opens_skipBlanks more
    obtain ⟨part', blanks'', same, isKey, isBlanks''⟩ := inductionHypothesis keyFound
    refine ⟨part ++ blanks ++ '.' :: blanks' ++ part', blanks'', ?_,
      .dotted isName isBlanks isBlanks' isKey, isBlanks''⟩
    rw [apart, skipped, apart', same]
    simp
  | case4 steps text name behind nameFound notDot =>
    cases found
    obtain ⟨part, rfl, isName⟩ := name?_sound nameFound
    obtain ⟨blanks, same, isBlanks⟩ := opens_skipBlanks behind
    exact ⟨part, blanks, by rw [List.append_assoc, ← same], .single isName, isBlanks⟩

/-! ### Readings within larger ones -/

section Accounts

variable {Part Part' : Type} {derived : List Char → Part → Prop}
  {derived' : List Char → Part' → Prop} {overlong : Nat → List Char → Prop} {text : List Char}
  {reading : Reading Part}

/-- A reading behind a front is one of the whole, if its part is a part behind that front. -/
theorem Accounts.behind (accounts : Accounts derived overlong text reading)
    (derived' : List Char → Part → Prop) (overlong' : Nat → List Char → Prop) (front : List Char)
    (wider : ∀ part value, derived part value → derived' (front ++ part) value)
    (onward : ∀ count, overlong count text → overlong' count (front ++ text)) :
    Accounts derived' overlong' (front ++ text) reading := by
  match reading, accounts with
  | .ok (value, rest), ⟨part, same, isPart⟩ =>
    exact ⟨front ++ part, by rw [same, List.append_assoc], wider part value isPart⟩
  | .error (.overlong count), isOverlong => exact onward count isOverlong
  | .error .malformed, _ => trivial

/-- What is made of a reading accounts for what is made of its part. -/
theorem Accounts.map {make : Part → Part'} (accounts : Accounts derived overlong text reading)
    (wider : ∀ part value, derived part value → derived' part (make value)) :
    Accounts derived' overlong text (reading.map fun (value, rest) => (make value, rest)) := by
  match reading, accounts with
  | .ok (value, rest), ⟨part, same, isPart⟩ => exact ⟨part, same, wider part value isPart⟩
  | .error (.overlong count), isOverlong => exact isOverlong
  | .error .malformed, _ => trivial

end Accounts

/-! ### Values -/

theorem scalar_sound (text : List Char) :
    Accounts (IsScalar readLimit) OverlongNumber text (scalar text) := by
  unfold scalar
  split
  case h_1 rest => exact ⟨['t', 'r', 'u', 'e'], rfl, .true⟩
  case h_2 rest => exact ⟨['f', 'a', 'l', 's', 'e'], rfl, .false⟩
  case h_3 =>
    split
    case h_1 rest momentFound =>
      obtain ⟨part, same, isMoment⟩ := readMoment_sound momentFound
      exact ⟨part, same, .moment isMoment⟩
    case h_2 => trivial
    case h_3 =>
      exact (number_sound text).behind _ _ [] (fun part value isNumber => .number isNumber)
        fun count overlong => overlong

theorem stringValue_sound (text : List Char) :
    Accounts (IsScalar readLimit) OverlongNumber text (stringValue text) := by
  refine accounts_demanded fun value rest found => ?_
  obtain ⟨⟨content, rest⟩, stringFound, same⟩ := Option.map_eq_some_iff.mp found
  cases same
  exact string?_sound stringFound

/-- The rest of a list up to its bracket, behind the members that were read. -/
def IsRestOfList (read : List Value) (part : List Char) (members : List Value) : Prop :=
  ∃ inner others, part = inner ++ [']'] ∧ members = read.reverse ++ others ∧
    IsMembers readLimit inner others

/-- The rest of a table up to its brace, behind the fields that were read. -/
def IsRestOfTable (table : Fields) (closed : List Key) (part : List Char) (table' : Fields) :
    Prop :=
  ∃ inner, part = inner ++ ['\x7d'] ∧ IsEntries readLimit table closed inner table'

/-- No value is read from nothing. -/
theorem value_nil (steps : Nat) : value steps [] = .error .malformed := by
  cases steps <;> rfl

theorem members_nil (steps : Nat) (read : List Value) :
    members steps read [] = .error .malformed := by
  cases steps with
  | zero => rfl
  | succ steps => simp only [members, value_nil]

/-- One more step of the reading of a list: a value, and what follows it up to the next. -/
theorem members_succ_sound {steps : Nat}
    (one : ∀ text, Accounts (IsValue readLimit) OverlongValue text (value steps text))
    (more : ∀ read text,
      Accounts (IsRestOfList read) OverlongMembers text (members steps read text))
    (read : List Value) (text : List Char) :
    Accounts (IsRestOfList read) OverlongMembers text (members (steps + 1) read text) := by
  have first := one text
  unfold members
  split
  case h_1 refusal refused =>
    rw [refused] at first
    cases refusal with
    | malformed => trivial
    | overlong count => exact .value first
  case h_2 value rest valueRead =>
    rw [valueRead] at first
    obtain ⟨part, rfl, isValue⟩ := first
    split
    case h_1 rest gapFound =>
      obtain ⟨gap, rfl, isGap⟩ := skipLines?_sound gapFound
      exact ⟨part ++ gap ++ [']'], by simp, part ++ gap, [value], rfl, by simp,
        .last isValue isGap⟩
    case h_2 rest gapFound =>
      obtain ⟨gap, rfl, isGap⟩ := skipLines?_sound gapFound
      split
      case h_1 => trivial
      case h_2 rest gapFound' =>
        obtain ⟨gap', rfl, isGap'⟩ := skipLines?_sound gapFound'
        exact ⟨part ++ gap ++ ',' :: gap' ++ [']'], by simp, part ++ gap ++ ',' :: gap', [value],
          rfl, by simp, by simpa using IsMembers.more isValue isGap isGap' .none⟩
      case h_3 behind _ gapFound' =>
        cases behind with
        | nil =>
          rw [members_nil]
          trivial
        | cons next behind =>
          obtain ⟨gap', rfl, isGap'⟩ := skipLines?_sound gapFound'
          have others := (more (value :: read) (next :: behind)).behind
            (IsRestOfList read) OverlongMembers (part ++ gap ++ ',' :: gap') (by
              rintro _ members ⟨inner, others, rfl, rfl, isMembers⟩
              exact ⟨part ++ gap ++ ',' :: gap' ++ inner, value :: others, by simp, by simp,
                .more isValue isGap isGap' isMembers⟩)
            fun count overlong => .more isValue isGap isGap' overlong
          simpa using others
    case h_3 => trivial

/-- One more step of the reading of a table: a field, and what follows it up to the next. -/
theorem entries_succ_sound {steps : Nat}
    (one : ∀ text, Accounts (IsValue readLimit) OverlongValue text (value steps text))
    (more : ∀ table closed text, Accounts (IsRestOfTable table closed)
      (OverlongEntries · table closed) text (entries steps table closed text))
    (table : Fields) (closed : List Key) (text : List Char) :
    Accounts (IsRestOfTable table closed) (OverlongEntries · table closed) text
      (entries (steps + 1) table closed text) := by
  unfold entries
  split
  case h_1 key behind keyFound =>
    obtain ⟨keyText, blanks, rfl, isKey, isBlanks⟩ := key?_sound keyFound
    obtain ⟨blanks', apart, isBlanks'⟩ := opens_skipBlanks behind
    have first := one (skipBlanks behind)
    split
    case h_1 refusal refused =>
      rw [refused] at first
      cases refusal with
      | malformed => trivial
      | overlong count =>
        have overlong := OverlongField.mk isKey isBlanks isBlanks' first
        rw [List.append_assoc, List.cons_append, ← apart] at overlong
        exact .field overlong
    case h_2 value behind' valueRead =>
      rw [valueRead] at first
      obtain ⟨valueText, same, isValue⟩ := first
      rw [same] at apart
      subst apart
      have isField := IsField.mk isKey isBlanks isBlanks' isValue
      generalize fieldText : keyText ++ blanks ++ '=' :: blanks' ++ valueText = field at isField
      have whole : keyText ++ blanks ++ '=' :: (blanks' ++ (valueText ++ behind')) =
          field ++ behind' := by simp [← fieldText]
      rw [whole]
      split
      case h_1 => trivial
      case h_2 table' added =>
        obtain ⟨gap, apart, isGap⟩ := opens_skipBlanks behind'
        split
        case h_1 rest skipped =>
          rw [apart, skipped]
          exact ⟨field ++ gap ++ ['\x7d'], by simp, _, rfl, .last isField added isGap⟩
        case h_2 rest skipped =>
          obtain ⟨gap', apart', isGap'⟩ := opens_skipBlanks rest
          rw [apart, skipped]
          conv => arg 3; rw [apart']
          have others := (more table' (if isContainer value then key :: closed else closed)
            (skipBlanks rest)).behind (IsRestOfTable table closed)
            (OverlongEntries · table closed) (field ++ gap ++ ',' :: gap') (by
              rintro _ table'' ⟨inner, rfl, isEntries⟩
              exact ⟨field ++ gap ++ ',' :: gap' ++ inner, by simp,
                .more isField added isGap isGap' isEntries⟩)
            fun count overlong => .more isField added isGap isGap' overlong
          simpa using others
        case h_3 => trivial
  case h_2 => trivial

/-- One more step of the reading of a value: what it contains is read with the steps before. -/
theorem value_succ_sound {steps : Nat}
    (list : ∀ text, Accounts (IsRestOfList []) OverlongMembers text (members steps [] text))
    (table : ∀ text,
      Accounts (IsRestOfTable [] []) (OverlongEntries · [] []) text (entries steps [] [] text))
    (text : List Char) :
    Accounts (IsValue readLimit) OverlongValue text (value (steps + 1) text) := by
  have ofScalar {reading : Reading Value}
      (accounts : Accounts (IsScalar readLimit) OverlongNumber text reading) :
      Accounts (IsValue readLimit) OverlongValue text reading :=
    accounts.behind _ _ [] (fun part value isScalar => .scalar isScalar)
      fun count overlong => .number overlong
  unfold value
  split
  case h_1 behind =>
    split
    case h_1 => trivial
    case h_2 rest gapFound =>
      obtain ⟨gap, rfl, isGap⟩ := skipLines?_sound gapFound
      exact ⟨'[' :: gap ++ [']'], by simp, by simpa using IsValue.list isGap .none⟩
    case h_3 rest _ gapFound =>
      cases rest with
      | nil =>
        rw [members_nil]
        trivial
      | cons next rest =>
        obtain ⟨gap, rfl, isGap⟩ := skipLines?_sound gapFound
        refine ((list (next :: rest)).behind (fun part members =>
          IsValue readLimit part (.list members)) OverlongValue ('[' :: gap) ?_
          fun count overlong => .list isGap overlong).map fun part members isValue => isValue
        rintro _ members ⟨inner, others, rfl, rfl, isMembers⟩
        have isValue := IsValue.list isGap isMembers
        simpa using isValue
  case h_2 behind =>
    obtain ⟨blanks, apart, isBlanks⟩ := opens_skipBlanks behind
    split
    case h_1 rest skipped =>
      rw [apart, skipped]
      exact ⟨'\x7b' :: blanks ++ ['\x7d'], by simp, .empty isBlanks⟩
    case h_2 =>
      conv => arg 3; rw [apart]
      refine ((table (skipBlanks behind)).behind (fun part table =>
        IsValue readLimit part (.record table)) OverlongValue ('\x7b' :: blanks) ?_
        fun count overlong => .record isBlanks overlong).map fun part table isValue => isValue
      rintro _ table ⟨inner, rfl, isEntries⟩
      have isValue := IsValue.record isBlanks isEntries
      simpa using isValue
  case h_3 => exact ofScalar (stringValue_sound _)
  case h_4 => exact ofScalar (stringValue_sound _)
  case h_5 => exact ofScalar (scalar_sound _)

/-- Values are read as the grammar has them, and so are the members of lists and the fields of
tables. The induction is on the steps. -/
theorem reading_sound (steps : Nat) :
    (∀ text, Accounts (IsValue readLimit) OverlongValue text (value steps text)) ∧
      (∀ read text, Accounts (IsRestOfList read) OverlongMembers text (members steps read text)) ∧
      ∀ table closed text, Accounts (IsRestOfTable table closed) (OverlongEntries · table closed)
        text (entries steps table closed text) := by
  induction steps with
  | zero => exact ⟨fun _ => trivial, fun _ _ => trivial, fun _ _ _ => trivial⟩
  | succ steps inductionHypothesis =>
    obtain ⟨one, list, table⟩ := inductionHypothesis
    exact ⟨value_succ_sound (list []) (table [] []), members_succ_sound one list,
      entries_succ_sound one table⟩

/-! ### Lines -/

theorem head?_sound {steps : Nat} {document document' : Document} {text rest : List Char}
    (found : head? steps document.settle text = some (document', rest)) :
    Opens (IsStatement readLimit document · document') ('[' :: text) rest := by
  unfold head? at found
  split at found
  case h_1 behind =>
    obtain ⟨blanks, apart, isBlanks⟩ := opens_skipBlanks behind
    simp only [Option.bind_eq_bind, Option.bind_eq_some_iff] at found
    obtain ⟨⟨key, _⟩, keyFound, _, declared, found⟩ := found
    obtain ⟨part, blanks', same, isKey, isBlanks'⟩ := key?_sound keyFound
    dsimp only at found
    split at found
    case h_1 =>
      cases found
      rw [apart, same]
      exact ⟨'[' :: '[' :: blanks ++ part ++ blanks' ++ [']', ']'], by simp,
        .member isBlanks isKey isBlanks' declared⟩
    case h_2 => cases found
  case h_2 =>
    obtain ⟨blanks, apart, isBlanks⟩ := opens_skipBlanks text
    simp only [Option.bind_eq_bind, Option.bind_eq_some_iff] at found
    obtain ⟨⟨key, _⟩, keyFound, _, declared, found⟩ := found
    obtain ⟨part, blanks', same, isKey, isBlanks'⟩ := key?_sound keyFound
    dsimp only at found
    split at found
    case h_1 =>
      cases found
      rw [apart, same]
      exact ⟨'[' :: blanks ++ part ++ blanks' ++ [']'], by simp,
        .table isBlanks isKey isBlanks' declared⟩
    case h_2 => cases found

theorem field_sound (steps : Nat) (document : Document) (text : List Char) :
    Accounts (IsStatement readLimit document) OverlongField text (field steps document text) := by
  unfold field
  cases keyFound : key? steps text with
  | none => trivial
  | some pair =>
    obtain ⟨key, behind⟩ := pair
    obtain ⟨keyText, blanks, rfl, isKey, isBlanks⟩ := key?_sound keyFound
    cases skipped : skip? '=' behind with
    | none =>
      change Accounts _ _ _ ((demanded (skip? '=' behind)).bind _)
      rw [skipped]
      trivial
    | some behind' =>
      obtain rfl := skip?_sound skipped
      obtain ⟨blanks', apart, isBlanks'⟩ := opens_skipBlanks behind'
      have first := (reading_sound steps).1 (skipBlanks behind')
      change Accounts _ _ _ ((value steps (skipBlanks behind')).bind fun found =>
        (demanded (document.addValue key found.1)).bind fun document => .ok (document, found.2))
      cases valueRead : value steps (skipBlanks behind') with
      | error refusal =>
        rw [valueRead] at first
        cases refusal with
        | malformed => trivial
        | overlong count =>
          have overlong := OverlongField.mk isKey isBlanks isBlanks' first
          rw [List.append_assoc, List.cons_append, ← apart] at overlong
          exact overlong
      | ok pair =>
        obtain ⟨value, rest⟩ := pair
        rw [valueRead] at first
        obtain ⟨valueText, same, isValue⟩ := first
        cases added : document.addValue key value with
        | none =>
          change Accounts _ _ _ ((demanded (document.addValue key value)).bind _)
          rw [added]
          trivial
        | some document' =>
          change Accounts _ _ _ ((demanded (document.addValue key value)).bind _)
          rw [added, apart, same]
          exact ⟨keyText ++ blanks ++ '=' :: blanks' ++ valueText, by simp,
            .field (.mk isKey isBlanks isBlanks' isValue) added⟩

/-- What a line says is read, unless it says nothing. -/
theorem statement_sound (steps : Nat) (document : Document) (text : List Char) :
    Accounts (fun part document' => IsStatement readLimit document part document' ∨
      part = [] ∧ document' = document) OverlongField text (statement steps document text) := by
  unfold statement
  split
  case h_1 rest =>
    exact accounts_demanded fun document' behind found => by
      obtain ⟨part, same, isStatement⟩ := head?_sound found
      exact ⟨part, same, .inl isStatement⟩
  case h_2 rest => exact ⟨[], rfl, .inr ⟨rfl, rfl⟩⟩
  case h_3 =>
    exact (field_sound steps document text).behind _ _ []
      (fun part document' isStatement => .inl isStatement) fun count overlong => overlong

/-- What the reading of some lines comes to. -/
def Settles (document : Document) (text : List Char) : Except Refusal Document → Prop
  | .ok document' => IsLines readLimit document text document'
  | .error (.overlong count) => OverlongLines count document text
  | .error .malformed => True

theorem IsBlanks.append {blanks blanks' : List Char} (isBlanks : IsBlanks blanks)
    (isBlanks' : IsBlanks blanks') : IsBlanks (blanks ++ blanks') := by
  intro char member
  obtain member | member := List.mem_append.mp member
  · exact isBlanks char member
  · exact isBlanks' char member

/-- A line is what it says between blanks, and a comment. -/
theorem isLine_of_statement {document document' : Document}
    {blanks part blanks' comment : List Char} (isBlanks : IsBlanks blanks)
    (told : IsStatement readLimit document part document' ∨ part = [] ∧ document' = document)
    (isBlanks' : IsBlanks blanks') (isComment : IsOptional IsComment comment) :
    IsLine readLimit document (blanks ++ part ++ blanks' ++ comment) document' := by
  obtain isStatement | ⟨rfl, rfl⟩ := told
  · exact .statement isBlanks isStatement isBlanks' isComment
  · rw [List.append_nil]
    exact .silent (isBlanks.append isBlanks') isComment

/-- More lines behind one account for all of them. -/
theorem Settles.behind_line {document document' : Document} {line text : List Char}
    {result : Except Refusal Document} (isLine : IsLine readLimit document line document')
    (settles : Settles document' text result) :
    Settles document (line ++ '\n' :: text) result := by
  match result, settles with
  | .ok document'', isLines => exact .more isLine isLines
  | .error (.overlong count), overlong => exact .more isLine overlong
  | .error .malformed, _ => trivial

theorem lines_sound (steps : Nat) (document : Document) (text : List Char) :
    Settles document text (lines steps document text) := by
  induction steps generalizing document text with
  | zero => trivial
  | succ steps inductionHypothesis =>
    obtain ⟨blanks, apart, isBlanks⟩ := opens_skipBlanks text
    unfold lines
    split
    case h_1 skipped =>
      rw [apart, skipped]
      exact .last (.silent isBlanks (.inl rfl))
    case h_2 rest skipped =>
      have isLine : IsLine readLimit document (blanks ++ []) document := .silent isBlanks (.inl rfl)
      have others := (inductionHypothesis document rest).behind_line isLine
      rw [apart, skipped]
      rwa [List.append_nil] at others
    case h_3 =>
      have first := statement_sound steps document (skipBlanks text)
      split
      case h_1 refusal refused =>
        rw [refused] at first
        rw [apart]
        cases refusal with
        | malformed => trivial
        | overlong count => exact .field isBlanks first
      case h_2 document' behind said =>
        rw [said] at first
        obtain ⟨part, same, told⟩ := first
        obtain ⟨blanks', apart', isBlanks'⟩ := opens_skipBlanks behind
        split
        case h_1 commentFound =>
          obtain ⟨comment, same', isComment⟩ := skipComment?_sound commentFound
          rw [apart, same, apart', same']
          have isLine := isLine_of_statement isBlanks told isBlanks' isComment
          simpa [Settles] using IsLines.last isLine
        case h_2 rest commentFound =>
          obtain ⟨comment, same', isComment⟩ := skipComment?_sound commentFound
          rw [apart, same, apart', same']
          have isLine := isLine_of_statement isBlanks told isBlanks' isComment
          have others := (inductionHypothesis document' rest).behind_line isLine
          simpa using others
        case h_3 => trivial

/-- What is read is what a document describes, and a text that is refused for an integer that is too
long comes to one. -/
theorem parse_sound (text : List Char) :
    (∀ tables, parse text = .ok tables → Describes readLimit text tables) ∧
      ∀ count, parse text = .error (.overlong count) → IsOverlong count text := by
  have settles := lines_sound (2 * text.length + 2) {} text
  unfold parse
  cases result : lines (2 * text.length + 2) {} text with
  | ok document =>
    rw [result] at settles
    refine ⟨fun tables accepted => ?_, fun _ refused => nomatch refused⟩
    cases accepted
    exact ⟨document, settles, rfl⟩
  | error refusal =>
    rw [result] at settles
    refine ⟨fun _ accepted => (nomatch accepted), fun count refused => ?_⟩
    cases refused
    exact settles

end Toml

end PolyIntake
