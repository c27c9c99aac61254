/-
This file proves that a run accounts for every line. What becomes of the lines
is one list of entries, one for each line and in their order; the items, the
refusals and the skipped numbers of a run are what three selections take from
that list. Each selection keeps the order, so the numbers in it ascend, and no
entry is taken twice or left out, so together they number every line once.

Which of the three a line is in, and with what, is told by the line alone, so the
lines of a source have one tally.
-/

import Mathlib.Data.List.Perm.Basic
import PolyIntake.Proofs.Reading
import PolyIntake.Proofs.Recognition

namespace PolyIntake

open Log

/-! ### Entries -/

namespace Entry

/-- The number of the line that an entry is about. -/
def number : Entry → Int
  | .skipped number => number
  | .accepted number _ => number
  | .rejected diagnostic => diagnostic.line

/-- What becomes of a numbered line. -/
def ofLine (line : NumberedLine) : Entry :=
  if line.skipped then .skipped line.number
  else .ofReading line.number (Line.reading line.number line.text)

variable {number : Nat} {text : List Char} {skipped : Bool}

theorem ofLine_of_skipped : ofLine ⟨number, text, true⟩ = .skipped number :=
  rfl

theorem ofLine_of_not_skipped :
    ofLine ⟨number, text, false⟩ = .ofReading number (Line.reading number text) :=
  rfl

theorem number_ofLine (line : NumberedLine) : (ofLine line).number = line.number := by
  unfold ofLine
  split
  · rfl
  · cases read : Line.reading line.number line.text with
    | ok => rfl
    | error diagnostic => exact Line.line_eq_of_reading_eq_error read

theorem ofReading_injective (number : Nat) : Function.Injective (ofReading number) := by
  rintro (diagnostic | line) (diagnostic' | line') same <;> cases same <;> rfl

theorem skipped_eq_ofLine_iff :
    .skipped number = ofLine ⟨number, text, skipped⟩ ↔ skipped = true := by
  cases skipped with
  | true => exact iff_of_true ofLine_of_skipped.symm rfl
  | false =>
    rw [ofLine_of_not_skipped]
    cases Line.reading number text <;> simp [ofReading]

theorem ofReading_eq_ofLine_iff {reading : Except Diagnostic Line} :
    ofReading number reading = ofLine ⟨number, text, skipped⟩ ↔
      skipped = false ∧ Line.reading number text = reading := by
  cases skipped with
  | true =>
    rw [ofLine_of_skipped]
    cases reading <;> simp [ofReading]
  | false =>
    rw [ofLine_of_not_skipped, (ofReading_injective number).eq_iff, eq_comm]
    exact ⟨fun same => ⟨rfl, same⟩, fun both => both.2⟩

end Entry

namespace Session

/-! ### The three selections -/

/-- What is selected from one entry only is selected if that entry is there. -/
theorem mem_filterMap_iff {Part : Type} {select : Entry → Option Part} {part : Part} {entry : Entry}
    (only : ∀ entry', select entry' = some part ↔ entry' = entry) (entries : List Entry) :
    part ∈ entries.filterMap select ↔ entry ∈ entries := by
  simp only [List.mem_filterMap, only, exists_eq_right]

theorem mem_accepted_iff {entries : List Entry} {number : Nat} {line : Line} :
    (number, line) ∈ accepted entries ↔ .accepted number line ∈ entries :=
  mem_filterMap_iff (by rintro ⟨⟩ <;> simp) entries

theorem mem_rejected_iff {entries : List Entry} {diagnostic : Diagnostic} :
    diagnostic ∈ rejected entries ↔ .rejected diagnostic ∈ entries :=
  mem_filterMap_iff (by rintro ⟨⟩ <;> simp) entries

theorem mem_skipped_iff {entries : List Entry} {number : Nat} :
    number ∈ skipped entries ↔ .skipped number ∈ entries :=
  mem_filterMap_iff (by rintro ⟨⟩ <;> simp) entries

/-- The number of an accepted line. -/
def numberOfItem (item : Nat × Line) : Int := item.1

/-- A selection of entries has their numbers in their order. -/
theorem sublist_map_number {Part : Type} {select : Entry → Option Part} {number : Part → Int}
    (same : ∀ entry part, select entry = some part → number part = entry.number)
    (entries : List Entry) :
    ((entries.filterMap select).map number).Sublist (entries.map Entry.number) := by
  induction entries with
  | nil => exact .slnil
  | cons entry rest inductionHypothesis =>
    rw [List.filterMap_cons, List.map_cons]
    cases taken : select entry with
    | none => exact inductionHypothesis.cons _
    | some part =>
      rw [← same entry part taken]
      exact inductionHypothesis.cons_cons _

/-- The three selections take every entry once. -/
theorem perm_map_number (entries : List Entry) :
    ((accepted entries).map numberOfItem ++ (rejected entries).map Diagnostic.line ++
      (skipped entries).map Nat.cast).Perm (entries.map Entry.number) := by
  induction entries with
  | nil => exact .nil
  | cons entry rest inductionHypothesis =>
    cases entry with
    | accepted number line => exact inductionHypothesis.cons _
    | rejected diagnostic =>
      refine .trans ?_ (inductionHypothesis.cons _)
      rw [List.append_assoc, List.append_assoc]
      exact List.perm_middle
    | skipped number =>
      exact List.perm_middle.trans (inductionHypothesis.cons _)

/-! ### The entries of a source -/

/-- What becomes of the lines of a source. -/
def entries (rules : InputRules) (lines : List (List Char)) : List Entry :=
  (rules.read lines).map Entry.ofLine

variable {rules : InputRules} {lines : List (List Char)}

theorem length_entries (rules : InputRules) (lines : List (List Char)) :
    (entries rules lines).length = lines.length := by
  have numbers := congrArg List.length (rules.map_number_numberFrom 1 lines)
  rw [List.length_map, List.length_range'] at numbers
  rw [entries, List.length_map]
  exact numbers

theorem map_number_entries :
    (entries rules lines).map Entry.number = (List.range' 1 lines.length).map Nat.cast := by
  rw [← rules.map_number_numberFrom 1 lines, entries, List.map_map, List.map_map]
  exact List.map_congr_left fun line _ => Entry.number_ofLine line

theorem pairwise_map_number_entries :
    ((entries rules lines).map Entry.number).Pairwise (· < ·) := by
  rw [map_number_entries, List.pairwise_map]
  exact List.Pairwise.imp Int.ofNat_lt.mpr List.pairwise_lt_range'

/-- The entry with the number of a line is what becomes of that line. -/
theorem mem_entries_iff {entry : Entry} {index : Fin lines.length}
    (number : entry.number = (index.val + 1 : Nat)) :
    entry ∈ entries rules lines ↔
      entry = .ofLine ⟨index.val + 1, lines[index], rules.skips lines[index]⟩ := by
  unfold entries InputRules.read
  simp only [List.mem_map, InputRules.mem_numberFrom_iff, Nat.add_comm 1]
  constructor
  · rintro ⟨_, ⟨index', rfl⟩, rfl⟩
    have numbers : ((index'.val + 1 : Nat) : Int) = (index.val + 1 : Nat) :=
      (Entry.number_ofLine _).symm.trans number
    obtain rfl : index' = index := Fin.ext (by omega)
    rfl
  · intro made
    exact ⟨_, ⟨index, rfl⟩, made.symm⟩

/-! ### Tallies -/

/-- These are the items, the diagnostics and the skipped numbers of the lines of a source. -/
structure IsTally (rules : InputRules) (lines : List (List Char)) (items : List (Nat × Line))
    (refused : List Diagnostic) (passed : List Nat) : Prop where
  itemsAscend : (items.map Prod.fst).Pairwise (· < ·)
  refusedAscend : (refused.map Diagnostic.line).Pairwise (· < ·)
  passedAscend : passed.Pairwise (· < ·)
  total : items.length + refused.length + passed.length = lines.length
  /-- Every number from one to the number of lines is in one of the three lists, and once. -/
  partition : (items.map numberOfItem ++ refused.map Diagnostic.line ++
    passed.map Nat.cast).Perm ((List.range' 1 lines.length).map Nat.cast)
  mem_passed_iff : ∀ index : Fin lines.length,
    index.val + 1 ∈ passed ↔ rules.PassesOver lines[index]
  mem_items_iff : ∀ (index : Fin lines.length) (line : Line),
    (index.val + 1, line) ∈ items ↔ ¬ rules.PassesOver lines[index] ∧
      (readLine (index.val + 1 : Nat) lines[index]).Yields (.ok line) []
  mem_refused_iff : ∀ (index : Fin lines.length) (complaint : Complaint),
    ⟨(index.val + 1 : Nat), complaint⟩ ∈ refused ↔ ¬ rules.PassesOver lines[index] ∧
      (readLine (index.val + 1 : Nat) lines[index]).Yields
        (.error ⟨(index.val + 1 : Nat), complaint⟩) [⟨(index.val + 1 : Nat), complaint⟩]

/-- An entry with the number of a line is there for what reading the line yields, unless the line is
passed over. -/
theorem ofReading_mem_entries_iff (index : Fin lines.length) (reading : Except Diagnostic Line)
    (number : (Entry.ofReading (index.val + 1) reading).number = (index.val + 1 : Nat)) :
    .ofReading (index.val + 1) reading ∈ entries rules lines ↔ ¬ rules.PassesOver lines[index] ∧
      (readLine (index.val + 1 : Nat) lines[index]).Yields reading (Line.refusals reading) := by
  rw [mem_entries_iff number, Entry.ofReading_eq_ofLine_iff, InputRules.skips_eq_false_iff,
    readLine_yields_iff]

/-- What is selected from the entries of a source is its tally. -/
theorem isTally_entries (rules : InputRules) (lines : List (List Char)) :
    IsTally rules lines (accepted (entries rules lines)) (rejected (entries rules lines))
      (skipped (entries rules lines)) where
  itemsAscend := by
    have ascending : ((accepted (entries rules lines)).map numberOfItem).Pairwise (· < ·) :=
      pairwise_map_number_entries.sublist
        (sublist_map_number (by rintro ⟨⟩ _ taken <;> cases taken; rfl) _)
    rw [List.pairwise_map] at ascending ⊢
    exact ascending.imp Int.ofNat_lt.mp
  refusedAscend := pairwise_map_number_entries.sublist
    (sublist_map_number (by rintro ⟨⟩ _ taken <;> cases taken; rfl) _)
  passedAscend := by
    have ascending :
        ((skipped (entries rules lines)).map (Nat.cast : Nat → Int)).Pairwise (· < ·) :=
      pairwise_map_number_entries.sublist
        (sublist_map_number (by rintro ⟨⟩ _ taken <;> cases taken; rfl) _)
    rw [List.pairwise_map] at ascending
    exact ascending.imp Int.ofNat_lt.mp
  total := by
    have lengths := (perm_map_number (entries rules lines)).length_eq
    simpa only [List.length_append, List.length_map, length_entries] using lengths
  partition := by
    rw [← map_number_entries]
    exact perm_map_number _
  mem_passed_iff index := by
    rw [mem_skipped_iff, mem_entries_iff rfl, Entry.skipped_eq_ofLine_iff, InputRules.skips_iff]
  mem_items_iff index line :=
    mem_accepted_iff.trans (ofReading_mem_entries_iff index (.ok line) rfl)
  mem_refused_iff index complaint :=
    mem_rejected_iff.trans (ofReading_mem_entries_iff index (.error ⟨_, complaint⟩) rfl)

section Unique

variable {items items' : List (Nat × Line)} {refused refused' : List Diagnostic}
  {passed passed' : List Nat}

/-- A tally counts no other numbers than those of lines. -/
theorem IsTally.exists_index (tally : IsTally rules lines items refused passed) {number : Int}
    (counted : number ∈ items.map numberOfItem ++ refused.map Diagnostic.line ++
      passed.map Nat.cast) :
    ∃ index : Fin lines.length, number = (index.val + 1 : Nat) := by
  obtain ⟨place, inRange, rfl⟩ := List.mem_map.mp (tally.partition.mem_iff.mp counted)
  obtain ⟨lowest, highest⟩ := List.mem_range'_1.mp inRange
  exact ⟨⟨place - 1, by omega⟩, by rw [Nat.sub_add_cancel lowest]⟩

theorem IsTally.exists_index_of_mem_items (tally : IsTally rules lines items refused passed)
    {number : Nat} {line : Line} (member : (number, line) ∈ items) :
    ∃ index : Fin lines.length, number = index.val + 1 := by
  obtain ⟨index, same⟩ := tally.exists_index
    (List.mem_append_left _ (List.mem_append_left _ (List.mem_map_of_mem member)))
  exact ⟨index, Int.ofNat_inj.mp same⟩

theorem IsTally.exists_index_of_mem_refused (tally : IsTally rules lines items refused passed)
    {diagnostic : Diagnostic} (member : diagnostic ∈ refused) :
    ∃ index : Fin lines.length, diagnostic.line = (index.val + 1 : Nat) :=
  tally.exists_index (List.mem_append_left _ (List.mem_append_right _ (List.mem_map_of_mem member)))

theorem IsTally.exists_index_of_mem_passed (tally : IsTally rules lines items refused passed)
    {number : Nat} (member : number ∈ passed) :
    ∃ index : Fin lines.length, number = index.val + 1 := by
  obtain ⟨index, same⟩ := tally.exists_index
    (List.mem_append_right _ (List.mem_map_of_mem member))
  exact ⟨index, Int.ofNat_inj.mp same⟩

/-- An item is what reading its line comes to. -/
theorem IsTally.reading_of_mem_items (tally : IsTally rules lines items refused passed)
    {number : Nat} {line : Line} (member : (number, line) ∈ items) :
    ∃ text ∈ lines, Line.reading number text = .ok line := by
  obtain ⟨index, rfl⟩ := tally.exists_index_of_mem_items member
  obtain ⟨-, yields⟩ := (tally.mem_items_iff index line).mp member
  exact ⟨lines[index], List.getElem_mem _, readLine_yields_iff.mp yields⟩

/-- Lists in the order of their numbers are settled by what is in them. -/
theorem eq_of_ascending {Part Number : Type} [Preorder Number] {number : Part → Number}
    {parts parts' : List Part} (ascends : (parts.map number).Pairwise (· < ·))
    (ascends' : (parts'.map number).Pairwise (· < ·))
    (same : ∀ part, part ∈ parts ↔ part ∈ parts') : parts = parts' :=
  @List.Pairwise.eq_of_mem_iff _ (fun part part' => number part < number part')
    ⟨fun _ _ before after => absurd after before.not_gt⟩ ⟨fun _ => lt_irrefl _⟩ _ _
    (List.pairwise_map.mp ascends) (List.pairwise_map.mp ascends') same

/-- Whatever is in one tally of a source is in every other. -/
theorem IsTally.subset (tally : IsTally rules lines items refused passed)
    (tally' : IsTally rules lines items' refused' passed') :
    items ⊆ items' ∧ refused ⊆ refused' ∧ passed ⊆ passed' := by
  refine ⟨?_, ?_, ?_⟩
  · rintro ⟨number, line⟩ member
    obtain ⟨index, rfl⟩ := tally.exists_index_of_mem_items member
    exact (tally'.mem_items_iff index line).mpr ((tally.mem_items_iff index line).mp member)
  · rintro ⟨number, complaint⟩ member
    obtain ⟨index, rfl⟩ := tally.exists_index_of_mem_refused member
    exact (tally'.mem_refused_iff index _).mpr ((tally.mem_refused_iff index _).mp member)
  · intro number member
    obtain ⟨index, rfl⟩ := tally.exists_index_of_mem_passed member
    exact (tally'.mem_passed_iff index).mpr ((tally.mem_passed_iff index).mp member)

/-- The lines of a source have one tally. -/
theorem IsTally.unique (tally : IsTally rules lines items refused passed)
    (tally' : IsTally rules lines items' refused' passed') :
    items = items' ∧ refused = refused' ∧ passed = passed' := by
  obtain ⟨items, refused, passed⟩ := tally.subset tally'
  obtain ⟨items', refused', passed'⟩ := tally'.subset tally
  refine ⟨eq_of_ascending tally.itemsAscend tally'.itemsAscend fun _ => ⟨@items _, @items' _⟩,
    eq_of_ascending tally.refusedAscend tally'.refusedAscend fun _ => ⟨@refused _, @refused' _⟩,
    @eq_of_ascending _ _ _ id _ _ ?_ ?_ fun _ => ⟨@passed _, @passed' _⟩⟩
  · rw [List.map_id]
    exact tally.passedAscend
  · rw [List.map_id]
    exact tally'.passedAscend

end Unique

end Session

end PolyIntake
