/-
This file describes runs by the entries of the lines that a source delivers.
Handling a line gives its entry and reports what it was refused for, and so on
over all lines, whatever is in scope. What a source does behind its lines only
matters for the value of the run: a source that comes to its end gives the
outcome of the task over all entries, and a source that fails gives what the
task makes of the failure.

For a text this means that a parse lists what becomes of each of its lines.
-/

import PolyIntake.Proofs.Tallies
import PolyIntake.Proofs.Wordings

namespace PolyIntake

open Log

/-! ### Failures of a source -/

/-- The problem that a failure of the source is for an operation. There is none for a failure that
is not part of the job. -/
def Source.Failure.problem? : Failure → Option Problem
  | .device message => some ⟨"READ_ERROR", "Cannot read input: " ++ message, []⟩
  | .undecodable fault => some ⟨"READ_ERROR", "Cannot read input: " ++ fault.message, []⟩
  | .callDepth _ => some ⟨"NESTING_ERROR", "Input nested too deeply", []⟩
  | .other _ => none

namespace Session

/-- What a task makes of a failure: an outcome without data, or the failure itself. -/
def Task.failed (task : Task) (failure : Source.Failure) : Except Source.Failure Outcome :=
  match failure.problem? with
  | some problem => .ok (.failure task.name [] problem)
  | none => .error failure

/-- What a task makes of a source. -/
def Task.result (task : Task) (settings : Settings) (source : Source) :
    Except Source.Failure Outcome :=
  match source.failure with
  | some failure => task.failed failure
  | none => .ok (task.outcome settings.output (entries settings.input source.lines))

/-- A source that fails has a bad outcome, if any. -/
theorem ok_of_result_of_failure {settings : Settings} {task : Task} {source : Source}
    {failure : Source.Failure} {outcome : Outcome}
    (fails : source.failure = some failure) (result : task.result settings source = .ok outcome) :
    outcome.ok = false := by
  rw [Task.result, fails] at result
  dsimp only at result
  unfold Task.failed at result
  split at result <;> cases result
  rfl

/-- A good outcome is about all lines of the source. -/
theorem eq_outcome_of_result {settings : Settings} {task : Task} {source : Source}
    {outcome : Outcome} (result : task.result settings source = .ok outcome)
    (succeeded : outcome.ok = true) :
    outcome = task.outcome settings.output (entries settings.input source.lines) := by
  cases ending : source.failure with
  | some failure =>
    rw [ok_of_result_of_failure ending result] at succeeded
    cases succeeded
  | none =>
    rw [Task.result, ending] at result
    exact (Except.ok.inj result).symm

/-! ### What each step yields -/

theorem rejected_cons (entry : Entry) (rest : List Entry) :
    rejected (entry :: rest) = rejected [entry] ++ rejected rest :=
  List.filterMap_append (l := [entry])

theorem handleLine_yields (line : NumberedLine) :
    (handleLine line).Yields (.ofLine line) (rejected [.ofLine line]) := by
  unfold handleLine Entry.ofLine
  split
  · exact Work.yields_done _
  · have read := readLine_yields line.number line.text
    have reports : Line.refusals (Line.reading line.number line.text) =
        rejected [.ofReading line.number (Line.reading line.number line.text)] := by
      cases Line.reading line.number line.text <;> rfl
    rw [← reports]
    exact (read.within _ _).map _

/-- Handling lines yields their entries and reports the refused ones in the order of the lines. -/
theorem handleLines_yields (lines : List NumberedLine) :
    (handleLines lines).Yields (lines.map .ofLine) (rejected (lines.map .ofLine)) := by
  induction lines with
  | nil => exact Work.yields_done _
  | cons line rest inductionHypothesis =>
    rw [List.map_cons, rejected_cons]
    exact (handleLine_yields line).andThen (inductionHypothesis.map _)

theorem readSource_yields (rules : InputRules) (source : Source) :
    (readSource rules source).Yields
      (match source.failure with
        | some failure => .error failure
        | none => .ok (entries rules source.lines))
      (rejected (entries rules source.lines)) := by
  unfold readSource
  rw [← List.append_nil (rejected (entries rules source.lines))]
  refine ((handleLines_yields _).andThen ?_).within _ _
  cases source.failure with
  | some failure => exact Work.yields_done _
  | none => exact (Work.yields_log ..).map _

theorem cutShort_yields (task : Task) (failure : Source.Failure) :
    (task.cutShort failure).Yields (task.failed failure) [] := by
  unfold Task.cutShort
  cases failure with
  | device message => exact (Work.yields_log ..).map _
  | undecodable fault => exact (Work.yields_log ..).map _
  | callDepth message => exact (Work.yields_log ..).map _
  | other message => exact Work.yields_done _

/-- A run reports the refused lines of its source, whatever the task and however the source ends. -/
theorem run_yields (settings : Settings) (task : Task) (source : Source) :
    (run settings task source).Yields (task.result settings source)
      (rejected (entries settings.input source.lines)) := by
  have read := readSource_yields settings.input source
  unfold run Task.result
  rw [← List.append_nil (rejected (entries settings.input source.lines))]
  cases ending : source.failure with
  | some failure =>
    rw [ending] at read
    exact read.andThen (cutShort_yields task failure)
  | none =>
    rw [ending] at read
    exact read.andThen (Work.yields_done _)

/-! ### Parsing a text -/

/-- An outcome of a parse of so many lines that lists these items, diagnostics and skipped numbers,
each item and each diagnostic by its record. -/
structure Lists (output : OutputRules) (outcome : Outcome) (total : Nat) (items : List (Nat × Line))
    (refused : List Diagnostic) (passed : List Nat) : Prop where
  succeeds : outcome.ok = true ∧ outcome.problem = none
  operation : outcome.operation = "parse"
  data_items : ∃ records, Fields.get? outcome.data "items" = some (.list records) ∧
    List.Forall₂ (fun item record => item.2.IsRecorded item.1 record) items records
  data_rejected : ∃ records, Fields.get? outcome.data "rejected" = some (.list records) ∧
    List.Forall₂ Diagnostic.IsRecorded refused records
  data_counts : Fields.get? outcome.data "counts" = some (.record
    [("total", .int total), ("accepted", .int items.length), ("rejected", .int refused.length),
      ("skipped", .int passed.length)])
  data_skipped : Fields.get? outcome.data "skipped" =
    if output.showSkipped then some (.list (passed.map fun (number : Nat) => .int number)) else none

theorem lists_outcome (output : OutputRules) (rules : InputRules) (lines : List (List Char)) :
    Lists output (Task.parse.outcome output (entries rules lines)) lines.length
      (accepted (entries rules lines)) (rejected (entries rules lines))
      (skipped (entries rules lines)) where
  succeeds := ⟨rfl, rfl⟩
  operation := rfl
  data_items := ⟨_, rfl, forall₂_map Line.isRecorded_itemValue _⟩
  data_rejected := ⟨_, rfl, forall₂_map Diagnostic.isRecorded_fields _⟩
  data_counts := by
    rw [← length_entries rules lines]
    rfl
  data_skipped := by
    unfold Task.outcome
    cases output.showSkipped <;> rfl

/-- A parse of a text succeeds and accounts for each of its lines. The text falls into lines in one
way. A line that the rules pass over is skipped, any other one is an item or refused as reading it
says, and what is reported are the diagnostics that are listed, in their order. -/
theorem run_parse_spec (settings : Settings) (name : String) (text : List Char) (scope : Scope) :
    ∃ lines, (∀ other, Source.AreLines text other ↔ other = lines) ∧
      ∃ items refused passed outcome, IsTally settings.input lines items refused passed ∧
        (run settings .parse (.ofText name text) scope).value = .ok outcome ∧
        Lists settings.output outcome lines.length items refused passed ∧
        reported (run settings .parse (.ofText name text) scope).events = refused := by
  have yields := run_yields settings .parse (.ofText name text)
  refine ⟨Source.splitLines text, fun _ => Source.areLines_iff, _, _, _, _,
    isTally_entries settings.input (Source.splitLines text), yields.gives scope,
    lists_outcome settings.output settings.input _, yields.reports scope⟩

end Session

end PolyIntake
