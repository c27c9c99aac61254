/-
This file defines the outcome of an operation: whether it did its job, the
data that it found, warnings, and the problem that kept it from its job.
Refused lines are data and no problem of the operation that lists them.
-/

import PolyIntake.Value.Checked

namespace PolyIntake

/-- What kept an operation from doing its job. -/
structure Problem where
  code : String
  message : String
  detail : Fields

/-- The outcome of an operation. -/
structure Outcome where
  ok : Bool
  operation : String
  data : Fields
  warnings : List String
  problem : Option Problem

namespace Outcome

/-- An operation that did its job. -/
def success (operation : String) (data : Fields) : Outcome :=
  ⟨true, operation, data, [], none⟩

/-- An operation that did not. -/
def failure (operation : String) (data : Fields) (problem : Problem) : Outcome :=
  ⟨false, operation, data, [], some problem⟩

/-- A problem as plain data. -/
def problemValue : Option Problem → Value
  | none => .null
  | some problem => .record [
    ("code", .string problem.code),
    ("message", .string problem.message),
    ("detail", .record problem.detail)]

/-- An outcome as plain data. -/
def value (outcome : Outcome) : Value :=
  .record [
    ("ok", .bool outcome.ok),
    ("op", .string outcome.operation),
    ("data", .record outcome.data),
    ("warnings", .list (outcome.warnings.map .string)),
    ("error", problemValue outcome.problem)]

/-! ### Checked outcomes -/

/-- A problem from a record. -/
def problemOfFields (fields : Fields) : Checked Problem :=
  Checked.along
    (Checked.along
      (Checked.along (.ok Problem.mk) (Checked.required fields "code" Value.asText))
      (Checked.required fields "message" Value.asText))
    (Checked.optional fields "detail" [] Value.asRecord)

/-- A problem, or nothing. -/
def problemOfValue : Value → Checked (Option Problem)
  | .null => .ok none
  | value => (value.asSection "ServiceError" problemOfFields).map some

/-- An outcome from a record. -/
def ofFields (fields : Fields) : Checked Outcome :=
  Checked.along
    (Checked.along
      (Checked.along
        (Checked.along
          (Checked.along (.ok Outcome.mk) (Checked.required fields "ok" Value.asTruth))
          (Checked.required fields "op" Value.asText))
        (Checked.optional fields "data" [] Value.asRecord))
      (Checked.optional fields "warnings" [] (Value.asList Value.asText)))
    (Checked.optional fields "error" none problemOfValue)

end Outcome

end PolyIntake
