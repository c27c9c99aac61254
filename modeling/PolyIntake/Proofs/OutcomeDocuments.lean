/-
This file proves that the document of an outcome tells all of it. What a run
returns, with whatever settings, source and reporter, holds nothing but texts,
whole numbers, truth values and lists and records of them, and no record of it
has a name twice; so there is a document, and reading it gives the outcome back
as plain data. The five fields of an outcome make it again, and therefore two
outcomes of runs with one document are one outcome.
-/

import PolyIntake.Proofs.Documents
import PolyIntake.Proofs.Isolation
import PolyIntake.Proofs.Showing

namespace PolyIntake

/-! ### Outcomes as plain data -/

namespace Outcome

open Checked

theorem members_asText (texts : List String) (index : Nat) :
    members Value.asText index (texts.map .string) = .ok texts := by
  induction texts generalizing index with
  | nil => rfl
  | cons text rest inductionHypothesis =>
    rw [List.map_cons, members, inductionHypothesis]
    rfl

theorem problemOfValue_problemValue (problem : Option Problem) :
    problemOfValue (problemValue problem) = .ok problem := by
  cases problem <;> rfl

/-- The fields of an outcome, from which it is made again. -/
theorem exists_ofFields (outcome : Outcome) :
    ∃ fields, outcome.value = .record fields ∧ ofFields fields = .ok outcome := by
  refine ⟨_, rfl, ?_⟩
  have warnings : Value.asList Value.asText (.list (outcome.warnings.map .string)) =
      .ok outcome.warnings := members_asText outcome.warnings 0
  have problem := problemOfValue_problemValue outcome.problem
  show along (along _ (Checked.at _ (Value.asList Value.asText _)))
    (Checked.at _ (problemOfValue _)) = _
  rw [warnings, problem]
  rfl

/-- Outcomes that are the same as plain data are the same. -/
theorem value_injective : Function.Injective Outcome.value := by
  intro outcome outcome' same
  obtain ⟨fields, isValue, made⟩ := exists_ofFields outcome
  obtain ⟨fields', isValue', made'⟩ := exists_ofFields outcome'
  cases isValue.symm.trans (same.trans isValue')
  exact Except.ok.inj (made.symm.trans made')

end Outcome

/-! ### Plain outcomes -/

open Json (IsPlain)

theorem Json.isPlain_list_map {Member : Type} {value : Member → Value}
    (each : ∀ member, IsPlain (value member)) (members : List Member) :
    IsPlain (.list (members.map value)) := by
  refine .list fun part isPart => ?_
  obtain ⟨member, -, rfl⟩ := List.mem_map.mp isPart
  exact each member

/-- An outcome is plain if its data are and what details its problem is. -/
theorem Outcome.isPlain_value {outcome : Outcome} (data : IsPlain (.record outcome.data))
    (detail : ∀ problem, outcome.problem = some problem → IsPlain (.record problem.detail)) :
    IsPlain outcome.value := by
  have isProblem : IsPlain (problemValue outcome.problem) := by
    cases told : outcome.problem with
    | none => exact .null
    | some problem =>
      refine .record (by decide : List.Nodup ["code", "message", "detail"]) ?_
      simp only [List.forall_mem_cons]
      exact ⟨.string _, .string _, detail problem told, by rintro _ ⟨⟩⟩
  refine .record (by decide : List.Nodup ["ok", "op", "data", "warnings", "error"]) ?_
  simp only [List.forall_mem_cons]
  exact ⟨.bool _, .string _, data, Json.isPlain_list_map .string _, isProblem, by rintro _ ⟨⟩⟩

namespace Session

theorem isPlain_itemValue (item : Nat × Line) : IsPlain (itemValue item) := by
  have none : ∀ field ∈ ([] : Fields), IsPlain field.2 := by rintro _ ⟨⟩
  obtain ⟨number, command | poly⟩ := item
  · cases command with
    | plain operation =>
      refine .record (by decide : List.Nodup ["line", "kind", "value"]) ?_
      simp only [Line.fields, Command.argument?, List.append_nil, List.forall_mem_cons]
      exact ⟨.int _, .string _, .string _, none⟩
    | withArgument query argument =>
      refine .record (by decide : List.Nodup ["line", "kind", "value", "arg"]) ?_
      simp only [Line.fields, Command.argument?, List.cons_append, List.nil_append,
        List.forall_mem_cons]
      exact ⟨.int _, .string _, .string _, .int _, none⟩
  · refine .record (by decide : List.Nodup ["line", "kind", "value"]) ?_
    simp only [Line.fields, List.forall_mem_cons]
    exact ⟨.int _, .string _, .string _, none⟩

theorem isPlain_rejectedValue (diagnostic : Diagnostic) : IsPlain (rejectedValue diagnostic) := by
  refine .record (by decide : List.Nodup ["line", "message"]) ?_
  simp only [Diagnostic.fields, List.forall_mem_cons]
  exact ⟨.int _, .string _, by rintro _ ⟨⟩⟩

theorem isPlain_counts (entries : List Entry) : IsPlain (.record (counts entries)) := by
  refine .record (by decide : List.Nodup ["total", "accepted", "rejected", "skipped"]) ?_
  simp only [counts, List.forall_mem_cons]
  exact ⟨.int _, .int _, .int _, .int _, by rintro _ ⟨⟩⟩

theorem isPlain_outcome_parse (output : OutputRules) (entries : List Entry) :
    IsPlain (Task.parse.outcome output entries).value := by
  have items := Json.isPlain_list_map isPlain_itemValue (accepted entries)
  have refused := Json.isPlain_list_map isPlain_rejectedValue (rejected entries)
  have passed := Json.isPlain_list_map (fun (number : Nat) => .int number) (skipped entries)
  have counted := isPlain_counts entries
  refine Outcome.isPlain_value ?_ (by rintro _ ⟨⟩)
  unfold Task.outcome
  cases output.showSkipped with
  | true =>
    refine .record (by decide : List.Nodup ["items", "rejected", "counts", "skipped"]) ?_
    simp only [Outcome.success, if_true, List.cons_append, List.nil_append, List.forall_mem_cons]
    exact ⟨items, refused, counted, passed, by rintro _ ⟨⟩⟩
  | false =>
    refine .record (by decide : List.Nodup ["items", "rejected", "counts"]) ?_
    simp only [Outcome.success, Bool.false_eq_true, if_false, List.append_nil,
      List.forall_mem_cons]
    exact ⟨items, refused, counted, by rintro _ ⟨⟩⟩

theorem isPlain_outcome_check (output : OutputRules) (entries : List Entry) :
    IsPlain (Task.check.outcome output entries).value := by
  have refused := Json.isPlain_list_map (fun diagnostic : Diagnostic => .int diagnostic.line)
    (rejected entries)
  have data : IsPlain (.record [("counts", .record (counts entries))]) :=
    .record (List.nodup_singleton _) (List.forall_mem_singleton.mpr (isPlain_counts entries))
  unfold Task.outcome
  dsimp only
  split
  case h_1 => exact Outcome.isPlain_value data (by rintro _ ⟨⟩)
  case h_2 =>
    refine Outcome.isPlain_value data ?_
    rintro problem ⟨⟩
    exact .record (List.nodup_singleton _) (List.forall_mem_singleton.mpr refused)

/-- What a task makes of a failure has no data and no details. -/
theorem Task.exists_problem_of_failed {task : Task} {failure : Source.Failure} {outcome : Outcome}
    (failed : task.failed failure = .ok outcome) :
    ∃ problem : Problem, problem.detail = [] ∧ outcome = .failure task.name [] problem := by
  unfold Task.failed at failed
  split at failed
  case h_1 problem isProblem =>
    cases failed
    refine ⟨problem, ?_, rfl⟩
    cases failure <;> cases isProblem <;> rfl
  case h_2 => cases failed

theorem isPlain_failure (operation : String) {problem : Problem} (plain : problem.detail = []) :
    IsPlain (Outcome.failure operation [] problem).value := by
  have nothing : IsPlain (.record []) := .record List.nodup_nil (by rintro _ ⟨⟩)
  refine Outcome.isPlain_value nothing ?_
  rintro problem ⟨⟩
  rw [plain]
  exact nothing

/-! ### Returned outcomes -/

/-- Some run returns the outcome, with whatever settings, source and scope, and with a reporter that
may fail. -/
def IsReturned (outcome : Outcome) : Prop :=
  ∃ settings reporter task source scope,
    (runReporting settings reporter task source scope).value = .ok outcome

/-- A returned outcome is that of a task over entries, or what the task makes of a failure. -/
theorem IsReturned.cases {outcome : Outcome} (returned : IsReturned outcome) :
    (∃ task output entries, outcome = Task.outcome task output entries) ∨
      ∃ task failure, Task.failed task failure = .ok outcome := by
  obtain ⟨settings, reporter, task, source, scope, value⟩ := returned
  simp only [runReporting, Log.Work.andThen] at value
  cases read : (readSourceUntil reporter settings.input source scope).value with
  | ok entries =>
    rw [read] at value
    exact .inl ⟨task, settings.output, entries, (Except.ok.inj value).symm⟩
  | error failure =>
    rw [read] at value
    exact .inr ⟨task, failure, ((cutShort_yields task failure).gives _).symm.trans value⟩

theorem IsReturned.isPlain_value {outcome : Outcome} (returned : IsReturned outcome) :
    IsPlain outcome.value := by
  obtain ⟨task, output, entries, rfl⟩ | ⟨task, failure, failed⟩ := returned.cases
  · cases task with
    | parse => exact isPlain_outcome_parse output entries
    | check => exact isPlain_outcome_check output entries
  · obtain ⟨problem, plain, rfl⟩ := Task.exists_problem_of_failed failed
    exact isPlain_failure task.name plain

theorem IsReturned.document_eq {outcome : Outcome} (returned : IsReturned outcome) :
    Report.document outcome = .ok (Json.document outcome.value) := by
  have succeeds : Succeeds (Report.document outcome) := by
    obtain ⟨task, output, entries, rfl⟩ | ⟨task, failure, failed⟩ := returned.cases
    · cases task with
      | parse => exact Report.succeeds_document_parse output entries
      | check => exact Report.succeeds_document_check output entries
    · obtain ⟨problem, plain, rfl⟩ := Task.exists_problem_of_failed failed
      exact Report.succeeds_text_failure task.name plain .document
  obtain ⟨text, shown⟩ := succeeds
  unfold Report.document at shown ⊢
  split at shown
  case isTrue room => rw [if_pos room]
  case isFalse => cases shown

/-- A returned outcome is shown as a document if one is asked for, brief or not. Reading the
document gives the fields of the outcome, from which it can be made again, and no other returned
outcome has the same document. -/
theorem document_spec {outcome : Outcome} (returned : IsReturned outcome) :
    ∃ document fields,
      (∀ quiet, Report.text (Report.formOf true quiet) outcome = .ok document) ∧
      Json.parse? document = some (.record fields) ∧
      fields = [("ok", .bool outcome.ok), ("op", .string outcome.operation),
        ("data", .record outcome.data), ("warnings", .list (outcome.warnings.map .string)),
        ("error", Outcome.problemValue outcome.problem)] ∧
      Outcome.ofFields fields = .ok outcome ∧
      ∀ other quiet, IsReturned other →
        Report.text (Report.formOf true quiet) other = .ok document → other = outcome := by
  have read := returned.isPlain_value.parse?_document
  obtain ⟨fields, isValue, made⟩ := outcome.exists_ofFields
  refine ⟨Json.document outcome.value, fields, fun _ => returned.document_eq, read.trans ?_,
    (Value.record.inj isValue).symm, made, fun other quiet otherReturned same => ?_⟩
  · rw [isValue]
  · -- Both outcomes are what is read from the one document.
    have document : Json.document other.value = Json.document outcome.value :=
      Except.ok.inj (otherReturned.document_eq.symm.trans same)
    have readOther := otherReturned.isPlain_value.parse?_document
    rw [document, read] at readOther
    exact Outcome.value_injective (Option.some.inj readOther).symm

/-- An evaluation at the smallest number of all, a line that is refused, and a literal. -/
def smallestSource : Source :=
  .ofText "" "AT -9223372036854775808\nx\n(1,2)".toList

theorem document_spec_smallest :
    ∃ outcome, (run {} .parse smallestSource {}).value = .ok outcome ∧
      ∃ document fields,
        (∀ quiet, Report.text (Report.formOf true quiet) outcome = .ok document) ∧
        Json.parse? document = some (.record fields) ∧
        fields = [("ok", .bool true), ("op", .string "parse"),
          ("data", .record [
            ("items", .list [
              .record [("line", .int 1), ("kind", .string "command"), ("value", .string "AT"),
                ("arg", .int (-9223372036854775808))],
              .record [("line", .int 3), ("kind", .string "poly"), ("value", .string "(1,2)")]]),
            ("rejected", .list [.record [("line", .int 2),
              ("message", .string "WRONG COMMAND")]]),
            ("counts", .record [("total", .int 3), ("accepted", .int 2), ("rejected", .int 1),
              ("skipped", .int 0)])]),
          ("warnings", .list []), ("error", .null)] ∧
        Outcome.ofFields fields = .ok outcome ∧
        ∀ other quiet, IsReturned other →
          Report.text (Report.formOf true quiet) other = .ok document → other = outcome := by
  have found : entries {} smallestSource.lines =
      [.accepted 1 (.command (.withArgument .valueAt (-9223372036854775808))),
        .rejected ⟨2, .wrongCommand⟩, .accepted 3 (.poly ⟨0, [⟨2, .const 1⟩]⟩)] := by
    cbv
  have result : _ = Except.ok (Task.parse.outcome {} (entries {} _)) :=
    (run_yields {} .parse smallestSource).gives {}
  rw [found] at result
  refine ⟨_, result, ?_⟩
  rw [← runReporting_reliable] at result
  obtain ⟨document, fields, shown, read, isFields, made, unique⟩ :=
    document_spec ⟨_, _, _, _, _, result⟩
  exact ⟨document, fields, shown, read, isFields.trans (by cbv), made, unique⟩

end Session

end PolyIntake
