/-
This file says what the lines of a text are, and proves that the reader delivers
exactly them, numbered from one on.

A text falls into lines at its line feeds and nowhere else. Each line feed ends
the line in front of it, and what is left behind the last one is a line as well
unless it is empty. Every text falls into lines in one way only, and lines that
are joined by line feeds are found again.
-/

import PolyIntake.Source

namespace PolyIntake

/-! ### The lines of a text -/

namespace Source

/-- A text falls into these lines. Only the last of them may lack its line feed, and then it is
not empty. -/
inductive AreLines : List Char → List (List Char) → Prop
  | nil : AreLines [] []
  | last {line : List Char} (nonempty : line ≠ []) (unbroken : '\n' ∉ line) : AreLines line [line]
  | cons {line rest : List Char} {lines : List (List Char)} (unbroken : '\n' ∉ line)
      (others : AreLines rest lines) : AreLines (line ++ '\n' :: rest) (line :: lines)

theorem splitLines_line {line : List Char} (unbroken : '\n' ∉ line) (nonempty : line ≠ []) :
    splitLines line = [line] := by
  induction line with
  | nil => exact absurd rfl nonempty
  | cons char line inductionHypothesis =>
    have notBreak : char ≠ '\n' := (List.ne_of_not_mem_cons unbroken).symm
    rw [splitLines, if_neg notBreak]
    by_cases empty : line = []
    · rw [empty]
      rfl
    · rw [inductionHypothesis (List.not_mem_of_not_mem_cons unbroken) empty]

theorem splitLines_append {line : List Char} (unbroken : '\n' ∉ line) (rest : List Char) :
    splitLines (line ++ '\n' :: rest) = line :: splitLines rest := by
  induction line with
  | nil => rfl
  | cons char line inductionHypothesis =>
    have notBreak : char ≠ '\n' := (List.ne_of_not_mem_cons unbroken).symm
    rw [List.cons_append, splitLines, if_neg notBreak,
      inductionHypothesis (List.not_mem_of_not_mem_cons unbroken)]

/-- Lines that are joined by line feeds are split again. The last one has no line feed, so it must
not be empty. -/
theorem splitLines_intercalate {lines : List (List Char)} (nonempty : lines ≠ [])
    (each : ∀ line ∈ lines, '\n' ∉ line ∧ line ≠ []) :
    splitLines (List.intercalate ['\n'] lines) = lines := by
  induction lines with
  | nil => exact absurd rfl nonempty
  | cons line rest inductionHypothesis =>
    rw [List.forall_mem_cons] at each
    obtain ⟨⟨unbroken, notBlank⟩, others⟩ := each
    cases rest with
    | nil =>
      rw [List.intercalate_singleton]
      exact splitLines_line unbroken notBlank
    | cons line' rest =>
      rw [List.intercalate_cons_cons, List.append_assoc, List.singleton_append,
        splitLines_append unbroken, inductionHypothesis (List.cons_ne_nil _ _) others]

/-- A character in front of a text belongs to its first line. -/
theorem AreLines.cons_char {rest line : List Char} {lines : List (List Char)} {char : Char}
    (areLines : AreLines rest (line :: lines)) (notBreak : char ≠ '\n') :
    AreLines (char :: rest) ((char :: line) :: lines) := by
  cases areLines with
  | last nonempty unbroken =>
    exact .last (List.cons_ne_nil _ _)
      (List.not_mem_cons_of_ne_of_not_mem notBreak.symm unbroken)
  | cons unbroken others =>
    rw [← List.cons_append]
    exact .cons (List.not_mem_cons_of_ne_of_not_mem notBreak.symm unbroken) others

theorem areLines_splitLines (text : List Char) : AreLines text (splitLines text) := by
  induction text with
  | nil => exact .nil
  | cons char rest inductionHypothesis =>
    rw [splitLines]
    split
    case isTrue lineBreak =>
      rw [lineBreak]
      exact .cons List.not_mem_nil inductionHypothesis
    case isFalse notBreak =>
      split
      case h_1 none =>
        rw [none] at inductionHypothesis
        cases inductionHypothesis
        exact .last (List.cons_ne_nil _ _) (by simpa using Ne.symm notBreak)
      case h_2 line lines some =>
        rw [some] at inductionHypothesis
        exact inductionHypothesis.cons_char notBreak

/-- The lines that a text is split into are the lines that it falls into. -/
theorem areLines_iff {text : List Char} {lines : List (List Char)} :
    AreLines text lines ↔ lines = splitLines text := by
  constructor
  · intro areLines
    induction areLines with
    | nil => rfl
    | last nonempty unbroken => rw [splitLines_line unbroken nonempty]
    | cons unbroken _ inductionHypothesis =>
      rw [splitLines_append unbroken, ← inductionHypothesis]
  · rintro rfl
    exact areLines_splitLines text

end Source

/-! ### Numbered lines -/

namespace InputRules

/-- The rules pass over a line that begins with the mark of comments, where there is such a mark,
and over a blank line where so wished. -/
def PassesOver (rules : InputRules) (text : List Char) : Prop :=
  (rules.commentMark ≠ "" ∧ rules.commentMark.toList <+: text) ∨
    (rules.skipBlank = true ∧ text = [])

theorem skips_iff {rules : InputRules} {text : List Char} :
    rules.skips text = true ↔ rules.PassesOver text := by
  simp [skips, PassesOver]

theorem skips_eq_false_iff {rules : InputRules} {text : List Char} :
    rules.skips text = false ↔ ¬ rules.PassesOver text := by
  rw [← skips_iff, Bool.not_eq_true]

theorem map_number_numberFrom (rules : InputRules) (number : Nat) (lines : List (List Char)) :
    (rules.numberFrom number lines).map NumberedLine.number = List.range' number lines.length := by
  induction lines generalizing number with
  | nil => rfl
  | cons text rest inductionHypothesis =>
    rw [numberFrom, List.map_cons, inductionHypothesis, List.length_cons, List.range'_succ]

/-- A numbered line is a line of the source with the number of its place. -/
theorem mem_numberFrom_iff {rules : InputRules} {first : Nat} {lines : List (List Char)}
    {line : NumberedLine} :
    line ∈ rules.numberFrom first lines ↔
      ∃ index : Fin lines.length,
        line = ⟨first + index, lines[index], rules.skips lines[index]⟩ := by
  induction lines generalizing first with
  | nil => simp [numberFrom]
  | cons text rest inductionHypothesis =>
    rw [numberFrom, List.mem_cons, inductionHypothesis]
    constructor
    · rintro (rfl | ⟨index, rfl⟩)
      · exact ⟨0, rfl⟩
      · refine ⟨index.succ, ?_⟩
        rw [Nat.add_assoc, Nat.add_comm 1]
        rfl
    · rintro ⟨index, rfl⟩
      cases index using Fin.cases with
      | zero => exact Or.inl rfl
      | succ index =>
        refine Or.inr ⟨index, ?_⟩
        rw [Nat.add_assoc, Nat.add_comm 1]
        rfl

end InputRules

end PolyIntake
