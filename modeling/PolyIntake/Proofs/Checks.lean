/-
This file proves that a check foretells a parse of the same source. Both report
the same diagnostics, and both come to the same end when the source fails. When
it does not, both count the same, and the check is content exactly when the
parse lists no refused line; otherwise the check names the lines that the parse
lists as refused.
-/

import PolyIntake.Proofs.Runs

namespace PolyIntake

open Log

namespace Session

/-! ### What a check tells -/

/-- A problem that names the lines with these numbers as the refused ones of a run with these
counts. -/
structure Blames (problem : Problem) (counts : Fields) (numbers : List Int) : Prop where
  code : problem.code = "REJECTED_LINES"
  lines : Fields.get? problem.detail "lines" = some (.list (numbers.map .int))
  ascending : numbers.Pairwise (· < ·)
  message : ∃ rejected total : Int, Fields.get? counts "rejected" = some (.int rejected) ∧
    Fields.get? counts "total" = some (.int total) ∧
    problem.message = toString rejected ++ " of " ++ toString total ++ " lines rejected"

/-- What a check comes to, beside what a parse comes to. -/
inductive Foretells : Except Source.Failure Outcome → Except Source.Failure Outcome → Prop
  /-- The same failure passes through. -/
  | escaped (failure : Source.Failure) : Foretells (.error failure) (.error failure)
  /-- The source could not be read, for the same reason. -/
  | unread {checked parsed : Outcome} (problem : Problem)
      (checkedFails : checked.ok = false ∧ checked.problem = some problem)
      (parsedFails : parsed.ok = false ∧ parsed.problem = some problem) :
      Foretells (.ok checked) (.ok parsed)
  /-- The source was read, and the check succeeds unless the parse lists refused lines, each one by
  its number and what it is refused for. -/
  | read {checked parsed : Outcome} (counts : Fields) (refused : List (Int × String))
      (parsedSucceeds : parsed.ok = true)
      (parsedRejected : Fields.get? parsed.data "rejected" = some (.list (refused.map fun refusal =>
        .record [("line", .int refusal.1), ("message", .string refusal.2)])))
      (parsedCounts : Fields.get? parsed.data "counts" = some (.record counts))
      (checkedCounts : Fields.get? checked.data "counts" = some (.record counts))
      (checkedSucceeds : checked.ok = true ↔ refused = [])
      (checkedBlames : refused ≠ [] →
        ∃ problem, checked.problem = some problem ∧
          Blames problem counts (refused.map Prod.fst)) :
      Foretells (.ok checked) (.ok parsed)

/-- A diagnostic as a parse lists it: its number and its wording. -/
def listed (diagnostic : Diagnostic) : Int × String :=
  (diagnostic.line, diagnostic.complaint.text)

theorem blames_rejected (rules : InputRules) (lines : List (List Char)) :
    Blames ⟨"REJECTED_LINES",
        Decimal.natText (rejected (entries rules lines)).length ++ " of " ++
          Decimal.natText (entries rules lines).length ++ " lines rejected",
        [("lines", .list ((rejected (entries rules lines)).map fun diagnostic =>
          numberIn diagnostic.fields))]⟩
      (counts (entries rules lines))
      (((rejected (entries rules lines)).map listed).map Prod.fst) where
  code := rfl
  lines := by
    rw [List.map_map, List.map_map]
    rfl
  ascending := by
    rw [List.map_map]
    exact (isTally_entries rules lines).refusedAscend
  message := ⟨_, _, rfl, rfl, by rw [← Decimal.text_eq, ← Decimal.text_eq]; rfl⟩

/-- Over all lines, the outcome of a check foretells the outcome of a parse. -/
theorem foretells_outcome (output : OutputRules) (rules : InputRules) (lines : List (List Char)) :
    Foretells (.ok (Task.check.outcome output (entries rules lines)))
      (.ok (Task.parse.outcome output (entries rules lines))) := by
  have rejectedRecords : Fields.get? (Task.parse.outcome output (entries rules lines)).data
      "rejected" = some (.list (((rejected (entries rules lines)).map listed).map fun refusal =>
        .record [("line", .int refusal.1), ("message", .string refusal.2)])) := by
    rw [List.map_map]
    rfl
  refine .read (counts (entries rules lines)) ((rejected (entries rules lines)).map listed) rfl
    rejectedRecords rfl ?_ ?_ ?_
  · unfold Task.outcome
    dsimp only
    split <;> rfl
  · rw [List.map_eq_nil_iff]
    unfold Task.outcome
    dsimp only
    split
    case h_1 empty => exact iff_of_true rfl empty
    case h_2 nonempty => exact iff_of_false Bool.false_ne_true nonempty
  · intro nonempty
    rw [Ne, List.map_eq_nil_iff] at nonempty
    unfold Task.outcome
    dsimp only
    split
    case h_1 empty => exact absurd empty nonempty
    case h_2 => exact ⟨_, rfl, blames_rejected rules lines⟩

/-- A failure of the source is the same for both tasks. -/
theorem foretells_failed (failure : Source.Failure) :
    Foretells (Task.check.failed failure) (Task.parse.failed failure) := by
  unfold Task.failed
  cases failure.problem? with
  | some problem => exact .unread problem ⟨rfl, rfl⟩ ⟨rfl, rfl⟩
  | none => exact .escaped failure

/-- A check of any source reports the same diagnostics as a parse of it, and foretells what the
parse comes to. -/
theorem run_check_spec (settings : Settings) (source : Source) (scope : Scope) :
    reported (run settings .check source scope).events =
        reported (run settings .parse source scope).events ∧
      Foretells (run settings .check source scope).value
        (run settings .parse source scope).value := by
  have checked := run_yields settings .check source
  have parsed := run_yields settings .parse source
  refine ⟨?_, ?_⟩
  · rw [checked.reports, parsed.reports]
  · rw [checked.gives, parsed.gives]
    unfold Task.result
    cases source.failure with
    | some failure => exact foretells_failed failure
    | none => exact foretells_outcome settings.output settings.input source.lines

end Session

end PolyIntake
