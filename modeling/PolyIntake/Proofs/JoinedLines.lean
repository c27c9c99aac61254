/-
This file proves that reading a text loses nothing. The lines that the reader
delivers, joined by line feeds, are the text again; only whether the last line
had a line feed of its own is not told by them. Every other character stays
where it is in its line, be it one that ends lines elsewhere.

The rules of the reader say which lines are skipped, and nothing else: the lines
and their numbers are the same whatever the rules are.
-/

import PolyIntake.Proofs.Reading

namespace PolyIntake

namespace Source

/-! ### Joined lines -/

/-- Lines joined by line feeds, with another one behind the last line if that is ended. -/
def joined (ended : Bool) (lines : List (List Char)) : List Char :=
  List.intercalate ['\n'] lines ++ if ended then ['\n'] else []

theorem joined_singleton (ended : Bool) (line : List Char) :
    joined ended [line] = line ++ if ended then ['\n'] else [] := by
  rw [joined, List.intercalate_singleton]

theorem joined_cons_cons (ended : Bool) (line next : List Char) (lines : List (List Char)) :
    joined ended (line :: next :: lines) = line ++ '\n' :: joined ended (next :: lines) := by
  rw [joined, joined, List.intercalate_cons_cons, List.append_assoc, List.append_assoc]
  rfl

/-- The text ends with a line feed. -/
def isEnded (text : List Char) : Bool :=
  text.getLast? = some '\n'

theorem isEnded_of_unbroken {line : List Char} (unbroken : '\n' ∉ line) : isEnded line = false := by
  refine decide_eq_false fun ended => unbroken ?_
  exact List.mem_of_getLast? ended

theorem isEnded_line_feed (line : List Char) : isEnded (line ++ ['\n']) = true := by
  rw [isEnded, List.getLast?_concat]
  rfl

/-- What ends a text is told by what is behind its first line, unless that is nothing. -/
theorem isEnded_append {rest : List Char} (more : rest ≠ []) (line : List Char) :
    isEnded (line ++ '\n' :: rest) = isEnded rest := by
  obtain ⟨char, rest, rfl⟩ := List.exists_cons_of_ne_nil more
  rw [isEnded, isEnded, List.getLast?_append, List.getLast?_cons_cons, List.getLast?_cons,
    Option.some_or]

variable {text : List Char} {lines : List (List Char)}

theorem AreLines.unbroken (areLines : AreLines text lines) : ∀ line ∈ lines, '\n' ∉ line := by
  induction areLines with
  | nil => exact fun _ member => by cases member
  | last _ unbroken => exact List.forall_mem_singleton.mpr unbroken
  | cons unbroken _ inductionHypothesis =>
    exact List.forall_mem_cons.mpr ⟨unbroken, inductionHypothesis⟩

/-- The lines of a text are joined to the text. -/
theorem AreLines.joined_eq (areLines : AreLines text lines) :
    joined (isEnded text) lines = text := by
  induction areLines with
  | nil => rfl
  | last _ unbroken =>
    rw [isEnded_of_unbroken unbroken, joined_singleton]
    exact List.append_nil _
  | @cons line rest lines _ others inductionHypothesis =>
    cases lines with
    | nil =>
      obtain rfl : rest = [] := by
        cases others
        rfl
      rw [isEnded_line_feed, joined_singleton]
      rfl
    | cons next lines =>
      have more : rest ≠ [] := by
        rintro rfl
        exact nomatch areLines_iff.mp others
      rw [isEnded_append more, joined_cons_cons, inductionHypothesis]

/-- The lines of a text have all its characters but the line feeds, in their order. -/
theorem AreLines.flatten_eq (areLines : AreLines text lines) :
    lines.flatten = text.filter (· ≠ '\n') := by
  have kept : ∀ line : List Char, '\n' ∉ line → line.filter (· ≠ '\n') = line := by
    intro line unbroken
    refine List.filter_eq_self.mpr fun char member => decide_eq_true ?_
    rintro rfl
    exact unbroken member
  induction areLines with
  | nil => rfl
  | last _ unbroken => rw [List.flatten_singleton, kept _ unbroken]
  | cons unbroken _ inductionHypothesis =>
    rw [List.flatten_cons, inductionHypothesis, List.filter_append, kept _ unbroken]
    rfl

end Source

namespace InputRules

/-! ### Delivered lines -/

theorem map_text_numberFrom (rules : InputRules) (number : Nat) (lines : List (List Char)) :
    (rules.numberFrom number lines).map NumberedLine.text = lines := by
  induction lines generalizing number with
  | nil => rfl
  | cons text rest inductionHypothesis => rw [numberFrom, List.map_cons, inductionHypothesis]

theorem skipped_iff_of_mem_numberFrom {rules : InputRules} {first : Nat} {lines : List (List Char)}
    {line : NumberedLine} (member : line ∈ rules.numberFrom first lines) :
    line.skipped = true ↔ rules.PassesOver line.text := by
  obtain ⟨index, rfl⟩ := mem_numberFrom_iff.mp member
  exact skips_iff

/-- Reading a text delivers lines that are joined to the text. They are numbered from one on, no
line feed is in them and no other character is missing, and of what is delivered only the marks of
skipped lines depend on the rules. -/
theorem read_spec (name : String) (text : List Char) :
    ∃ lines : List (List Char),
      (∀ rules : InputRules,
        (rules.read (Source.ofText name text).lines).map NumberedLine.text = lines ∧
          (rules.read (Source.ofText name text).lines).map NumberedLine.number =
            List.range' 1 lines.length ∧
          ∀ line ∈ rules.read (Source.ofText name text).lines,
            line.skipped = true ↔ rules.PassesOver line.text) ∧
        (∀ line ∈ lines, '\n' ∉ line) ∧
        Source.joined (Source.isEnded text) lines = text ∧
        lines.flatten = text.filter (· ≠ '\n') := by
  have areLines := Source.areLines_splitLines text
  refine ⟨Source.splitLines text, fun rules => ⟨?_, ?_, ?_⟩, areLines.unbroken, areLines.joined_eq,
    areLines.flatten_eq⟩
  · exact rules.map_text_numberFrom 1 _
  · exact rules.map_number_numberFrom 1 _
  · exact fun line => skipped_iff_of_mem_numberFrom

end InputRules

end PolyIntake
