/-
This file shows that the strings of the grammar are read as what they are. Quotes
that stand right behind the closing ones of a string over several lines would
belong to it, so none may follow.

A reader that comes to three quotes in a row takes them for the closing ones, with
up to two more behind them. The derivation of a string counts the quotes that it
stands behind, and so it can tell that nothing but quotes is left at that place.
-/

import PolyIntake.Proofs.TomlNumerals

namespace PolyIntake

namespace Toml

/-! ### Strings -/

section Strings

variable {quote : Char} {multiline : Bool} {quotes : Nat} {text content rest : List Char}

/-- Between apostrophes in one line, every character stands for itself. -/
theorem IsQuoted.plain (quoted : IsQuoted '\'' false quotes text content) :
    content = text ∧ ∀ char ∈ text, isPlain char = true ∧ char ≠ '\'' := by
  induction quoted with
  | nil => exact ⟨rfl, fun _ member => nomatch member⟩
  | char isAllowed noQuote _ _ inductionHypothesis =>
    obtain ⟨rfl, others⟩ := inductionHypothesis
    have plain := isAllowed.resolve_right fun allowed => nomatch allowed.1
    exact ⟨rfl, List.forall_mem_cons.mpr ⟨⟨plain, noQuote⟩, others⟩⟩
  | quote isMultiline => cases isMultiline
  | escape isBasic => exact absurd isBasic (by decide)
  | continued isBasic => exact absurd isBasic (by decide)

theorem literal?_append (quoted : IsQuoted '\'' false quotes text content) (rest : List Char) :
    literal? (text ++ '\'' :: rest) = some (content, rest) := by
  obtain ⟨rfl, plain⟩ := quoted.plain
  have taken : (content ++ '\'' :: rest).takeWhile (fun char => decide (char ≠ '\'')) = content :=
    takeWhile_append_of_begins (fun char member => decide_eq_true (plain char member).2)
      (begins_cons.mpr (by decide))
  unfold literal?
  dsimp only
  rw [taken, List.drop_left]
  dsimp only
  rw [if_pos (List.all_eq_true.mpr fun char member => (plain char member).1)]

/-- Quotes behind the closing ones belong to the string, up to two of them. -/
theorem extraQuotes_replicate {count : Nat} (few : count < 3) (begins : Begins (· ≠ quote) rest) :
    extraQuotes quote (List.replicate count quote ++ rest) =
      (List.replicate count quote, rest) := by
  match count with
  | 0 =>
    rw [List.replicate_zero, List.nil_append]
    unfold extraQuotes
    split
    case h_1 first _ _ => rw [if_neg (begins first rfl)]
    case h_2 last => rw [if_neg (begins last rfl)]
    case h_3 => rfl
  | 1 =>
    cases rest with
    | nil => simp [extraQuotes]
    | cons first rest => simp [extraQuotes, begins first rfl]
  | 2 => simp [extraQuotes]

/-- A string whose quotes go on behind one of them is at its end, but for one more quote. -/
theorem IsQuoted.eq_replicate (quoted : IsQuoted quote true 1 text content)
    (isQuote : quote = '\'' ∨ quote = '"')
    (begins : [quote, quote] <+: text ++ closing quote true ++ rest) :
    ∃ count, count < 2 ∧ text = List.replicate count quote ∧
      content = List.replicate count quote := by
  have noMark : '\\' ≠ quote := by
    obtain rfl | rfl := isQuote <;> decide
  cases quoted with
  | nil => exact ⟨0, by omega, rfl, rfl⟩
  | char _ noQuote => exact absurd (List.cons_prefix_cons.mp begins).1.symm noQuote
  | escape => exact absurd (List.cons_prefix_cons.mp begins).1.symm noMark
  | continued => exact absurd (List.cons_prefix_cons.mp begins).1.symm noMark
  | quote _ _ more =>
    have begins := (List.cons_prefix_cons.mp begins).2
    cases more with
    | nil => exact ⟨1, by omega, rfl, rfl⟩
    | char _ noQuote => exact absurd (List.cons_prefix_cons.mp begins).1.symm noQuote
    | escape => exact absurd (List.cons_prefix_cons.mp begins).1.symm noMark
    | continued => exact absurd (List.cons_prefix_cons.mp begins).1.symm noMark
    | quote _ few => exact absurd few (by omega)

/-- At its last quotes, a string over several lines has none in front of them but those that the
reader takes together with the closing ones. -/
theorem IsQuoted.extraQuotes_eq (quoted : IsQuoted quote true (quotes + 1) text content)
    (isQuote : quote = '\'' ∨ quote = '"')
    (stays : StaysOpen quote quotes (quote :: (text ++ closing quote true ++ rest)))
    (begins : [quote, quote] <+: text ++ closing quote true ++ rest)
    (ends : Begins (· ≠ quote) rest) :
    ∃ behind, text ++ closing quote true ++ rest = quote :: quote :: behind ∧
      extraQuotes quote behind = (quote :: content, rest) := by
  obtain ⟨behind, same⟩ := begins
  have none : quotes = 0 := by
    rw [← same] at stays
    exact stays.eq_zero
  subst none
  obtain ⟨count, few, rfl, rfl⟩ := quoted.eq_replicate isQuote ⟨behind, same⟩
  refine ⟨behind, same.symm, ?_⟩
  have behindQuotes : behind = List.replicate (count + 1) quote ++ rest := by
    have whole : quote :: quote :: behind =
        quote :: quote :: (List.replicate (count + 1) quote ++ rest) := by
      rw [show quote :: quote :: behind = _ from same, closing, if_pos rfl,
        List.replicate_append_replicate]
      simp [List.replicate_succ]
    exact (List.cons.inj (List.cons.inj whole).2).2
  rw [behindQuotes, extraQuotes_replicate (by omega) ends]
  rfl

theorem literalLines?_append (quoted : IsQuoted '\'' true quotes text content)
    (stays : StaysOpen '\'' quotes (text ++ closing '\'' true ++ rest))
    (ends : Begins (· ≠ '\'') rest) :
    literalLines? (text ++ closing '\'' true ++ rest) = some (content, rest) := by
  induction quoted with
  | nil =>
    have none : extraQuotes '\'' rest = ([], rest) :=
      extraQuotes_replicate (show 0 < 3 by omega) ends
    change literalLines? ('\'' :: '\'' :: '\'' :: rest) = _
    rw [literalLines?, none]
  | @char quotes char text content isAllowed noQuote _ _ inductionHypothesis =>
    rw [List.cons_append, List.cons_append, literalLines?.eq_3 _ _ (fun _ same _ => noQuote same),
      if_pos (by simpa using isAllowed), inductionHypothesis (staysOpen_zero _ _)]
    rfl
  | @quote quotes text content _ few more inductionHypothesis =>
    by_cases begins : ['\'', '\''] <+: text ++ closing '\'' true ++ rest
    · obtain ⟨behind, same, extra⟩ := more.extraQuotes_eq (.inl rfl) stays begins ends
      rw [List.cons_append, List.cons_append, same, literalLines?, extra]
    · obtain ⟨-, stays⟩ := stays.behind_quote begins
      have other : ∀ behind, text ++ closing '\'' true ++ rest ≠ '\'' :: '\'' :: behind :=
        fun behind same => begins ⟨behind, same.symm⟩
      rw [List.cons_append, List.cons_append, literalLines?.eq_3 _ _ (fun _ _ same => other _ same),
        if_pos (by decide), inductionHypothesis stays]
      rfl
  | escape isBasic => exact absurd isBasic (by decide)
  | continued isBasic => exact absurd isBasic (by decide)

/-! ### Strings with escapes -/

theorem numbered?_append {count : Nat} {digits : List Char} {char : Char}
    (length : digits.length = count) (point : codePoint? digits = some char) (rest : List Char) :
    numbered? count (digits ++ rest) = some ([char], rest) := by
  subst length
  unfold numbered?
  dsimp only
  rw [List.take_left, List.drop_left, if_pos rfl, point]
  rfl

theorem escaped?_append {escape : List Char} {char : Char} (isEscape : IsEscape escape char)
    (rest : List Char) : escaped? multiline (escape ++ rest) = some ([char], rest) := by
  cases isEscape with
  | letter isLetter =>
    simp only [List.mem_cons, Prod.mk.injEq, List.not_mem_nil, or_false] at isLetter
    obtain ⟨rfl, rfl⟩ | ⟨rfl, rfl⟩ | ⟨rfl, rfl⟩ | ⟨rfl, rfl⟩ | ⟨rfl, rfl⟩ | ⟨rfl, rfl⟩ |
      ⟨rfl, rfl⟩ := isLetter <;> rfl
  | number isLetter length point =>
    simp only [List.mem_cons, Prod.mk.injEq, List.not_mem_nil, or_false] at isLetter
    obtain ⟨rfl, rfl⟩ | ⟨rfl, rfl⟩ := isLetter <;> exact numbered?_append length point rest

/-- A line that goes on is passed over with all blanks and line feeds behind it. -/
theorem escaped?_continued {blanks spaces : List Char}
    (isBlanks : ∀ char ∈ blanks, isBlank char = true)
    (isSpaces : ∀ char ∈ spaces, isSpace char = true)
    (begins : Begins (isSpace · = false) rest) :
    escaped? true (blanks ++ '\n' :: (spaces ++ rest)) = some ([], rest) := by
  have continued : continued? (blanks ++ '\n' :: (spaces ++ rest)) = some rest := by
    unfold continued?
    rw [dropWhile_append_of_begins isBlanks (begins_cons.mpr (by decide))]
    change some ((spaces ++ rest).dropWhile isSpace) = some rest
    rw [dropWhile_append_of_begins isSpaces begins]
  have first : ∃ char more, blanks ++ '\n' :: (spaces ++ rest) = char :: more ∧
      (char = ' ' ∨ char = '\t' ∨ char = '\n') := by
    cases blanks with
    | nil => exact ⟨'\n', _, rfl, .inr (.inr rfl)⟩
    | cons char blanks =>
      exact ⟨char, _, rfl, (isBlank_iff.mp (isBlanks char List.mem_cons_self)).imp_right .inl⟩
  obtain ⟨char, more, same, isFirst⟩ := first
  rw [same] at continued ⊢
  obtain rfl | rfl | rfl := isFirst <;>
    exact congrArg (Option.map fun rest => ([], rest)) continued

section Steps

variable {steps : Nat} {read : List Char}

theorem basicTail?_char {char : Char}
    (isAllowed : isPlain char = true ∨ multiline = true ∧ char = '\n') (noQuote : char ≠ '"')
    (noMark : char ≠ '\\') :
    basicTail? multiline (steps + 1) read (char :: rest) =
      basicTail? multiline steps (char :: read) rest := by
  rw [basicTail?.eq_6 _ _ _ _ _ noMark noQuote, if_pos (by simpa using isAllowed)]

theorem basicTail?_quote (apart : ¬['"', '"'] <+: rest) :
    basicTail? true (steps + 1) read ('"' :: rest) =
      basicTail? true steps ('"' :: read) rest := by
  rw [basicTail?.eq_5 _ _ _ _ fun behind same => apart ⟨behind, same.symm⟩, if_pos rfl]

theorem basicTail?_closing {extra : List Char} (found : extraQuotes '"' text = (extra, rest)) :
    basicTail? true (steps + 1) read ('"' :: '"' :: '"' :: text) =
      some (read.reverse ++ extra, rest) := by
  rw [basicTail?.eq_4, if_pos rfl, found]

theorem basicTail?_escape {chars : List Char}
    (found : escaped? multiline text = some (chars, rest)) :
    basicTail? multiline (steps + 1) read ('\\' :: text) =
      basicTail? multiline steps (chars ++ read) rest := by
  rw [basicTail?.eq_3, found]
  rfl

end Steps

/-- A string with escapes is read up to its closing quotes, given as many steps as it has
characters. -/
theorem basicTail?_append {steps : Nat} {read : List Char}
    (quoted : IsQuoted '"' multiline quotes text content)
    (stays : StaysOpen '"' quotes (text ++ closing '"' multiline ++ rest))
    (ends : multiline = true → Begins (· ≠ '"') rest) (enough : text.length ≤ steps) :
    basicTail? multiline (steps + 1) read (text ++ closing '"' multiline ++ rest) =
      some (read.reverse ++ content, rest) := by
  induction quoted generalizing steps read with
  | nil =>
    cases multiline with
    | false => exact congrArg (fun content => some (content, rest)) (List.append_nil _).symm
    | true =>
      have none : extraQuotes '"' rest = ([], rest) :=
        extraQuotes_replicate (show 0 < 3 by omega) (ends rfl)
      exact basicTail?_closing none
  | @char quotes char text content isAllowed noQuote noMark _ inductionHypothesis =>
    rw [List.length_cons] at enough
    obtain ⟨steps, rfl⟩ := Nat.exists_eq_add_one_of_ne_zero (Nat.ne_zero_of_lt enough)
    rw [List.cons_append, List.cons_append, basicTail?_char isAllowed noQuote (noMark rfl),
      inductionHypothesis (staysOpen_zero _ _) (by omega)]
    simp
  | @quote quotes text content isMultiline few more inductionHypothesis =>
    subst isMultiline
    rw [List.length_cons] at enough
    obtain ⟨steps, rfl⟩ := Nat.exists_eq_add_one_of_ne_zero (Nat.ne_zero_of_lt enough)
    by_cases begins : ['"', '"'] <+: text ++ closing '"' true ++ rest
    · obtain ⟨behind, same, extra⟩ := more.extraQuotes_eq (.inr rfl) stays begins (ends rfl)
      rw [List.cons_append, List.cons_append, same, basicTail?_closing extra]
    · obtain ⟨-, stays⟩ := stays.behind_quote begins
      rw [List.cons_append, List.cons_append, basicTail?_quote begins,
        inductionHypothesis stays (by omega)]
      simp
  | @escape quotes char escape text content _ isEscape _ inductionHypothesis =>
    rw [List.cons_append, List.length_cons, List.length_append] at enough
    obtain ⟨steps, rfl⟩ := Nat.exists_eq_add_one_of_ne_zero (Nat.ne_zero_of_lt enough)
    have whole : '\\' :: escape ++ text ++ closing '"' multiline ++ rest =
        '\\' :: (escape ++ (text ++ closing '"' multiline ++ rest)) := by simp
    rw [whole, basicTail?_escape (escaped?_append isEscape _),
      inductionHypothesis (staysOpen_zero _ _) (by omega)]
    simp
  | @continued quotes blanks spaces text content _ isMultiline isBlanks isSpaces complete _
      inductionHypothesis =>
    subst isMultiline
    simp only [List.cons_append, List.length_append, List.length_cons] at enough
    obtain ⟨steps, rfl⟩ := Nat.exists_eq_add_one_of_ne_zero (Nat.ne_zero_of_lt enough)
    have begins : Begins (isSpace · = false) (text ++ closing '"' true ++ rest) := by
      rw [List.append_assoc]
      exact .append complete (begins_cons.mpr (by decide))
    have whole : '\\' :: blanks ++ '\n' :: spaces ++ text ++ closing '"' true ++ rest =
        '\\' :: (blanks ++ '\n' :: (spaces ++ (text ++ closing '"' true ++ rest))) := by simp
    rw [whole, basicTail?_escape (escaped?_continued isBlanks isSpaces begins),
      inductionHypothesis (staysOpen_zero _ _) (by omega)]
    simp

end Strings

/-! ### Both kinds of strings -/

section BothStrings

variable {text content rest : List Char}

theorem line?_append (isString : IsString text content) (rest : List Char) :
    line? (text ++ rest) = some (content, rest) := by
  cases isString with
  | @mk quote inner content isQuote quoted =>
    have whole : quote :: inner ++ [quote] ++ rest =
        quote :: (inner ++ closing quote false ++ rest) := rfl
    rw [whole]
    obtain rfl | rfl := isQuote
    · rw [List.append_assoc]
      exact literal?_append quoted rest
    · have enough : inner.length ≤ (inner ++ closing '"' false ++ rest).length := by
        rw [List.length_append, List.length_append]
        omega
      have found : basicTail? false _ [] (inner ++ closing '"' false ++ rest) = _ :=
        basicTail?_append quoted (staysOpen_zero '"' _) nofun enough
      exact found

/-- A string within a line begins with one quote, or with two that nothing is between. -/
theorem string?_of_isString (isString : IsString text content)
    (ends : Begins (fun char => char ≠ '\'' ∧ char ≠ '"') rest) :
    string? (text ++ rest) = some (content, rest) := by
  rw [← line?_append isString rest]
  cases isString with
  | @mk quote inner content isQuote quoted =>
    have apart : ∀ behind, inner ++ quote :: rest ≠ quote :: quote :: behind := by
      intro behind same
      cases quoted with
      | nil =>
        rw [List.nil_append, List.cons.injEq] at same
        rw [same.2] at ends
        obtain ⟨noApostrophe, noMark⟩ := begins_cons.mp ends
        exact isQuote.elim noApostrophe noMark
      | char _ noQuote => exact noQuote (List.cons.inj same).1
      | quote isMultiline => cases isMultiline
      | escape isBasic =>
        rw [isBasic] at same
        exact absurd (List.cons.inj same).1 (by decide)
      | continued _ isMultiline => cases isMultiline
    have whole : quote :: inner ++ [quote] ++ rest = quote :: (inner ++ quote :: rest) := by simp
    rw [whole]
    unfold string?
    split
    case h_1 same =>
      obtain ⟨rfl, same⟩ := List.cons.inj same
      exact absurd same (apart _)
    case h_2 same =>
      obtain ⟨rfl, same⟩ := List.cons.inj same
      exact absurd same (apart _)
    case h_3 => rfl

/-- A line feed right behind the opening quotes is passed over, and nothing else is. -/
theorem skipFirstBreak_append {quote : Char} {gap : List Char}
    (isQuote : quote = '\'' ∨ quote = '"')
    (isBreak : gap = ['\n'] ∨ gap = [] ∧ text.head? ≠ some '\n') (rest : List Char) :
    skipFirstBreak (gap ++ (text ++ quote :: rest)) = text ++ quote :: rest := by
  obtain rfl | ⟨rfl, other⟩ := isBreak
  · rfl
  · rw [List.nil_append]
    unfold skipFirstBreak
    split
    case h_1 same =>
      cases text with
      | nil =>
        obtain rfl : quote = '\n' := (List.cons.inj same).1
        exact absurd isQuote (by decide)
      | cons first text => exact absurd (congrArg some (List.cons.inj same).1) other
    case h_2 => rfl

theorem string?_of_isLongString (isLongString : IsLongString text content)
    (ends : Begins (fun char => char ≠ '\'' ∧ char ≠ '"') rest) :
    string? (text ++ rest) = some (content, rest) := by
  cases isLongString with
  | @mk quote gap inner content isQuote isBreak quoted =>
    have skipped : skipFirstBreak (gap ++ (inner ++ closing quote true ++ rest)) =
        inner ++ closing quote true ++ rest := by
      rw [List.append_assoc]
      exact skipFirstBreak_append isQuote isBreak _
    have whole : [quote, quote, quote] ++ gap ++ inner ++ [quote, quote, quote] ++ rest =
        quote :: quote :: quote :: (gap ++ (inner ++ closing quote true ++ rest)) := by
      simp [closing, List.replicate]
    rw [whole]
    obtain rfl | rfl := isQuote
    · rw [string?, skipped]
      exact literalLines?_append quoted (staysOpen_zero _ _) (ends.imp fun _ => And.left)
    · rw [string?, skipped]
      refine basicTail?_append quoted (staysOpen_zero _ _) (fun _ => ends.imp fun _ => And.right) ?_
      rw [List.length_append, List.length_append, List.length_append]
      omega

end BothStrings

end Toml

end PolyIntake
