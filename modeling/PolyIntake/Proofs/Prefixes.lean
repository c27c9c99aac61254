/-
This file tells the beginnings of lines from the texts that no line begins with.
A text is viable when some accepted line begins with it, and dead when no line
does, not even one with numbers out of range.

Reading from the left, a line is at every place in front of one of four things:
a literal, the rest of a monomial and its sum behind an opening parenthesis, the
same behind the comma, or the same behind the closing parenthesis. Once the text
in front of a place is known, each of them is forced on every line that begins
with this text, and whichever is put there can be completed to an accepted line.
So what is viable and what is dead behind a place can be read off the thing that
comes next, whatever the depth of the nesting.
-/

import PolyIntake.Proofs.Grammar

namespace PolyIntake

namespace Grammar

/-! ### Viable and dead texts -/

/-- Numerals of any size: coefficients with a sign, and exponents that have none. -/
def Numerals.unbounded : Numerals :=
  ⟨IsNumeral true, IsNumeral false⟩

theorem unbounded_isWithin_integers : Numerals.unbounded.IsWithin .integers :=
  ⟨id, IsNumeral.toSigned⟩

/-- Some accepted line begins with the text. -/
def IsViable (text : List Char) : Prop :=
  ∃ rest tree, IsPoly .accepted (text ++ rest) tree

/-- No line begins with the text, whatever the size of its numbers. -/
def IsDead (text : List Char) : Prop :=
  ∀ rest tree, ¬ IsPoly .unbounded (text ++ rest) tree

theorem IsViable.of_append {text rest : List Char} (viable : IsViable (text ++ rest)) :
    IsViable text := by
  obtain ⟨behind, tree, derived⟩ := viable
  rw [List.append_assoc] at derived
  exact ⟨rest ++ behind, tree, derived⟩

/-! ### What a line goes on with -/

/-- A class of texts, for each class of numerals. -/
abbrev Piece := Numerals → List Char → Prop

/-- A whole literal. -/
def Literal : Piece := fun numerals text =>
  ∃ tree, IsPoly numerals text tree

/-- What comes behind the parenthesis that opens a monomial, up to the end of its sum. -/
def OpenSum : Piece := fun numerals text =>
  ∃ monomials, IsSum numerals ('(' :: text) monomials

/-- What comes behind a monomial in its sum: nothing, or further monomials. -/
def FurtherMonomials : Piece := fun numerals text =>
  text = [] ∨ ∃ rest, text = '+' :: '(' :: rest ∧ OpenSum numerals rest

/-- What comes behind the comma of a monomial, up to the end of its sum. -/
def Closing : Piece := fun numerals text =>
  ∃ numeral exponent rest, text = numeral ++ ')' :: rest ∧ numerals.exponent numeral exponent ∧
    FurtherMonomials numerals rest

variable {numerals : Numerals}

theorem IsNumeral.exists_cons {signed : Bool} {text : List Char} {value : Int}
    (numeral : IsNumeral signed text value) :
    ∃ head tail, text = head :: tail ∧ (head.isDigit = true ∨ head = '-') := by
  obtain ⟨head, tail, rfl⟩ := List.exists_cons_of_ne_nil numeral.ne_nil
  exact ⟨head, tail, rfl, numeral.isDigit_or_eq_of_mem List.mem_cons_self⟩

/-- A literal begins with a parenthesis, a digit or a minus sign. -/
theorem Literal.exists_cons {text : List Char} (literal : Literal .unbounded text) :
    ∃ head tail, text = head :: tail ∧ (head = '(' ∨ head.isDigit = true ∨ head = '-') := by
  obtain ⟨tree, derived⟩ := literal
  cases derived with
  | coefficient numeral =>
    obtain ⟨head, tail, rfl, start⟩ := IsNumeral.exists_cons numeral
    exact ⟨head, tail, rfl, Or.inr start⟩
  | sum sum =>
    obtain ⟨rest, rfl⟩ := sum.exists_cons
    exact ⟨'(', rest, rfl, Or.inl rfl⟩

theorem Literal.of_openSum {text : List Char} (sum : OpenSum numerals text) :
    Literal numerals ('(' :: text) := by
  obtain ⟨monomials, derived⟩ := sum
  exact ⟨_, .sum derived⟩

/-- A literal that begins with a parenthesis is a sum. -/
theorem Literal.openSum {text : List Char} (literal : Literal .unbounded ('(' :: text)) :
    OpenSum .unbounded text := by
  obtain ⟨tree, derived⟩ := literal
  cases derived with
  | coefficient numeral =>
    obtain ⟨head, tail, same, start⟩ := IsNumeral.exists_cons numeral
    obtain ⟨rfl, _⟩ := List.cons.inj same
    exact absurd start (by decide)
  | sum sum => exact ⟨_, sum⟩

/-- An open sum is a literal, a comma and what closes the monomial. -/
theorem openSum_iff {text : List Char} :
    OpenSum numerals text ↔ ∃ literal tree rest, text = literal ++ ',' :: rest ∧
      IsPoly numerals literal tree ∧ Closing numerals rest := by
  constructor
  · rintro ⟨monomials, derived⟩
    generalize whole : '(' :: text = line at derived
    cases derived with
    | single first =>
      cases first with
      | @mk literal numeral tree exponent coefficient isExponent =>
        refine ⟨literal, tree, numeral ++ [')'], ?_, coefficient, numeral, exponent, [], rfl,
          isExponent, Or.inl rfl⟩
        simpa using whole
    | more first others =>
      cases first with
      | @mk literal numeral tree exponent coefficient isExponent =>
        obtain ⟨rest, rfl⟩ := others.exists_cons
        refine ⟨literal, tree, numeral ++ ')' :: '+' :: '(' :: rest, ?_, coefficient, numeral,
          exponent, '+' :: '(' :: rest, rfl, isExponent, Or.inr ⟨rest, rfl, _, others⟩⟩
        simpa using whole
  · rintro ⟨literal, tree, _, rfl, coefficient, numeral, exponent, _, rfl, isExponent, further⟩
    have first := IsMonomial.mk coefficient isExponent
    rcases further with rfl | ⟨rest, rfl, monomials, others⟩
    · exact ⟨_, by simpa using IsSum.single first⟩
    · exact ⟨_, by simpa using IsSum.more first others⟩

/-! ### The shortest pieces -/

theorem Literal.zero : Literal .accepted ['0'] :=
  ⟨.const 0, .coefficient ⟨isNumeral_zero true, by decide⟩⟩

theorem Closing.zero : Closing .accepted ['0', ')'] :=
  ⟨['0'], 0, [], rfl, ⟨isNumeral_zero false, by decide⟩, Or.inl rfl⟩

theorem OpenSum.zero : OpenSum .accepted ['0', ',', '0', ')'] :=
  openSum_iff.mpr ⟨['0'], _, _, rfl, Literal.zero.choose_spec, Closing.zero⟩

theorem FurtherMonomials.zero : FurtherMonomials .accepted ['+', '(', '0', ',', '0', ')'] :=
  Or.inr ⟨_, rfl, OpenSum.zero⟩

/-! ### What is awaited behind a text -/

/-- Behind a text, a line goes on with a piece and then with a comma or nothing: any accepted
piece can be put there, and every line that begins with the text has one there. -/
structure Awaits (piece : Piece) (before : List Char) : Prop where
  completes : ∃ after, ∀ text, piece .accepted text →
    ∃ tree, IsPoly .accepted (before ++ (text ++ after)) tree
  forced : ∀ rest tree, IsPoly .unbounded (before ++ rest) tree → ∃ text after,
    rest = text ++ after ∧ piece .unbounded text ∧ Parser.endsPoly after.head? = true

namespace Awaits

variable {piece next : Piece} {before : List Char}

theorem isViable {text : List Char} (awaits : Awaits piece before)
    (accepted : piece .accepted text) : IsViable (before ++ text) := by
  obtain ⟨after, completes⟩ := awaits.completes
  obtain ⟨tree, derived⟩ := completes text accepted
  refine ⟨after, tree, ?_⟩
  rwa [List.append_assoc]

/-- Going on with something that no piece begins with is dead. -/
theorem isDead {wrong : List Char} (awaits : Awaits piece before)
    (impossible : ∀ text after rest, piece .unbounded text →
      Parser.endsPoly after.head? = true → wrong ++ rest ≠ text ++ after) :
    IsDead (before ++ wrong) := by
  intro rest tree derived
  rw [List.append_assoc] at derived
  obtain ⟨text, after, split, derived, ends⟩ := awaits.forced _ _ derived
  exact impossible text after rest derived ends split

/-- Reads a part of the awaited piece. It has to be such that the piece is the part and what is
awaited next, and no other piece begins with the part. -/
theorem step {part : List Char} (awaits : Awaits piece before)
    (build : ∀ text, next .accepted text → piece .accepted (part ++ text))
    (settled : ∀ text after rest, piece .unbounded text → Parser.endsPoly after.head? = true →
      part ++ rest = text ++ after → ∃ text', text = part ++ text' ∧ next .unbounded text') :
    Awaits next (before ++ part) := by
  obtain ⟨after, completes⟩ := awaits.completes
  refine ⟨⟨after, fun text accepted => ?_⟩, fun rest tree derived => ?_⟩
  · obtain ⟨tree, derived⟩ := completes _ (build text accepted)
    refine ⟨tree, ?_⟩
    simpa using derived
  · rw [List.append_assoc] at derived
    obtain ⟨text, after, split, derived, ends⟩ := awaits.forced _ _ derived
    obtain ⟨text', rfl, derived'⟩ := settled text after rest derived ends split
    rw [List.append_assoc] at split
    exact ⟨text', after, List.append_cancel_left split, derived', ends⟩

/-! ### Reading a line from the left -/

/-- A line is a literal. -/
theorem nil : Awaits Literal [] := by
  refine ⟨⟨[], fun text literal => ?_⟩, fun rest tree derived => ?_⟩
  · rwa [List.nil_append, List.append_nil]
  · exact ⟨rest, [], (List.append_nil rest).symm, ⟨tree, derived⟩, rfl⟩

theorem openParen (awaits : Awaits Literal before) : Awaits OpenSum (before ++ ['(']) := by
  refine awaits.step (fun _ => Literal.of_openSum) fun text after rest literal _ split => ?_
  obtain ⟨head, tail, rfl, _⟩ := literal.exists_cons
  obtain ⟨rfl, _⟩ := List.cons.inj split
  exact ⟨tail, rfl, literal.openSum⟩

/-- A sum begins with a literal, and a comma comes behind it. -/
theorem literal (awaits : Awaits OpenSum before) : Awaits Literal before := by
  obtain ⟨after, completes⟩ := awaits.completes
  refine ⟨⟨',' :: '0' :: ')' :: after, ?_⟩, fun rest tree derived => ?_⟩
  · rintro text ⟨tree, derived⟩
    obtain ⟨tree', derived'⟩ :=
      completes _ (openSum_iff.mpr ⟨text, tree, _, rfl, derived, Closing.zero⟩)
    refine ⟨tree', ?_⟩
    simpa using derived'
  · obtain ⟨text, after, rfl, sum, _⟩ := awaits.forced _ _ derived
    obtain ⟨literal, tree, behind, rfl, derived, _⟩ := openSum_iff.mp sum
    exact ⟨literal, ',' :: (behind ++ after), by simp, ⟨tree, derived⟩, rfl⟩

theorem closing {literal : List Char} {tree : Poly} (awaits : Awaits OpenSum before)
    (derived : IsPoly .accepted literal tree) : Awaits Closing (before ++ (literal ++ [','])) := by
  refine awaits.step (fun text closing => ?_) fun text after rest sum _ split => ?_
  · exact openSum_iff.mpr ⟨literal, tree, text, by simp, derived, closing⟩
  · obtain ⟨literal', tree', behind, rfl, derived', closing⟩ := openSum_iff.mp sum
    simp only [List.append_assoc, List.cons_append, List.nil_append] at split
    -- Both literals have a comma behind, so neither can be a part of the other.
    have rests := ((derived.widen accepted_isWithin_integers).append_inj
      (derived'.widen unbounded_isWithin_integers) rfl rfl split).2
    obtain rfl : literal = literal' := List.append_cancel_right (rests ▸ split)
    exact ⟨behind, by simp, closing⟩

theorem further {numeral : List Char} {exponent : Int} (awaits : Awaits Closing before)
    (isExponent : Numerals.accepted.exponent numeral exponent) :
    Awaits FurtherMonomials (before ++ (numeral ++ [')'])) := by
  refine awaits.step (fun text further => ?_) fun text after rest closing _ split => ?_
  · exact ⟨numeral, exponent, text, by simp, isExponent, further⟩
  · obtain ⟨numeral', exponent', behind, rfl, isExponent', further⟩ := closing
    simp only [List.append_assoc, List.cons_append, List.nil_append] at split
    obtain ⟨rfl, _, _⟩ := IsNumeral.append_inj isExponent.1 isExponent'
      (noDigitNext_cons (by decide) _) (noDigitNext_cons (by decide) _) split
    exact ⟨behind, by simp, further⟩

theorem openSum (awaits : Awaits FurtherMonomials before) :
    Awaits OpenSum (before ++ ['+', '(']) := by
  refine awaits.step (fun text sum => Or.inr ⟨text, rfl, sum⟩) ?_
  rintro text after rest (rfl | ⟨text', rfl, sum⟩) ends split
  · rw [List.nil_append] at split
    rw [← split] at ends
    exact absurd ends Bool.false_ne_true
  · exact ⟨text', rfl, sum⟩

end Awaits

/-! ### Awaited numerals -/

/-- Behind a text, every line that goes on with the given character has a numeral there and what
may end it, and each numeral in range can be put there. -/
structure AwaitsNumeral (kind : Integer.Kind) (ends : Option Char → Bool) (before : List Char)
    (first : Option Char) : Prop where
  completes : ∀ text value, IsNumeral kind.signed text value → kind.admits value = true →
    IsViable (before ++ text)
  forced : ∀ rest tree, IsPoly .unbounded (before ++ rest) tree → rest.head? = first →
    ∃ text value after, rest = text ++ after ∧ IsNumeral kind.signed text value ∧
      ends after.head? = true

namespace AwaitsNumeral

variable {kind : Integer.Kind} {ends : Option Char → Bool} {before : List Char}

theorem isViable {first : Option Char} (awaits : AwaitsNumeral kind ends before first)
    (zero : kind.admits 0 = true) : IsViable before :=
  (awaits.completes ['0'] 0 (isNumeral_zero _) zero).of_append

/-- In front of the place where a digit is missed, all is well. -/
theorem isViable_sign {first : Option Char} {sign rest : List Char}
    (awaits : AwaitsNumeral kind ends before first) (zero : kind.admits 0 = true)
    (misses : Integer.MissesDigit kind.signed sign rest) : IsViable (before ++ sign) := by
  rcases misses.sign with ⟨signed, rfl⟩ | ⟨rfl, _⟩
  · have viable := awaits.completes ['-', '0'] 0 (signed ▸ isNumeral_negative_zero) zero
    have joint : before ++ ['-', '0'] = before ++ ['-'] ++ ['0'] := by simp
    exact IsViable.of_append (joint ▸ viable)
  · rw [List.append_nil]
    exact awaits.isViable zero

/-- No line has something other than a digit where a digit is missed. -/
theorem isDead_sign {sign rest : List Char} {char : Char}
    (awaits : AwaitsNumeral kind ends before (sign ++ char :: rest).head?)
    (misses : Integer.MissesDigit kind.signed sign (char :: rest)) :
    IsDead (before ++ sign ++ [char]) := by
  intro other tree derived
  rw [List.append_assoc, List.append_assoc] at derived
  obtain ⟨text, value, after, split, numeral, _⟩ :=
    awaits.forced _ tree derived (by cases sign <;> rfl)
  exact misses.not_isNumeral numeral other split

/-- Behind the digits of a numeral, no line has anything but what ends a numeral. -/
theorem isDead_behind {text rest : List Char} {char : Char} {value : Int}
    (awaits : AwaitsNumeral kind ends before (text ++ char :: rest).head?)
    (stops : ∀ rest : List Char, ends rest.head? = true → NoDigitNext rest)
    (numeral : IsNumeral kind.signed text value) (noDigit : NoDigitNext (char :: rest))
    (notEnd : ¬ ends (some char) = true) : IsDead (before ++ text ++ [char]) := by
  intro other tree derived
  rw [List.append_assoc, List.append_assoc] at derived
  obtain ⟨text', value', after, split, numeral', ended⟩ :=
    awaits.forced _ tree derived (by cases text <;> rfl)
  obtain ⟨_, _, rfl⟩ := IsNumeral.append_inj numeral numeral'
    (noDigitNext_cons (noDigit char rfl) other) (stops after ended) split
  exact notEnd ended

end AwaitsNumeral

namespace Awaits

variable {before : List Char} {first : Option Char}

/-- A literal that does not begin with a parenthesis is a coefficient. -/
theorem coefficient (awaits : Awaits Literal before) (notParen : first ≠ some '(') :
    AwaitsNumeral .signed64 Parser.endsPoly before first := by
  refine ⟨fun text value numeral admitted => ?_, fun rest tree derived starts => ?_⟩
  · exact awaits.isViable ⟨.const value, .coefficient ⟨numeral, admitted⟩⟩
  · obtain ⟨text, after, rfl, ⟨tree, derived⟩, ends⟩ := awaits.forced _ _ derived
    cases derived with
    | coefficient numeral => exact ⟨text, _, after, rfl, numeral, ends⟩
    | sum sum =>
      obtain ⟨rest, rfl⟩ := sum.exists_cons
      exact absurd starts.symm notParen

theorem exponent (awaits : Awaits Closing before) :
    AwaitsNumeral .unsigned31 Parser.endsExponent before first := by
  refine ⟨fun text value numeral admitted => ?_, fun rest tree derived _ => ?_⟩
  · have closing : Closing .accepted (text ++ [')']) :=
      ⟨text, value, [], rfl, ⟨numeral, admitted⟩, Or.inl rfl⟩
    have viable := awaits.isViable closing
    rw [← List.append_assoc] at viable
    exact viable.of_append
  · obtain ⟨_, after, rfl, ⟨text, value, rest, rfl, numeral, _⟩, _⟩ := awaits.forced _ _ derived
    exact ⟨text, value, ')' :: (rest ++ after), by simp, numeral, rfl⟩

end Awaits

end Grammar

end PolyIntake
