/-
This file spells out what is told about the lines of a run. A complaint has one
of five wordings. A refused line is recorded by its number and the wording of
what it is refused for, and it is shown on the error channel with the same two.
An accepted line is recorded by its number and by what it holds.

Records and shown lines are given here field by field and word by word, so that
a statement about them does not depend on the functions that make them.
-/

import Mathlib.Data.List.Forall2
import PolyIntake.Session

namespace PolyIntake

/-! ### Numbers -/

theorem Decimal.natText_eq (number : Nat) : natText number = toString number := by
  rw [natText, digits]
  rfl

theorem Decimal.text_eq (number : Int) : text number = toString number := by
  cases number with
  | ofNat number => exact natText_eq number
  | negSucc number =>
    have digits : natText (number + 1) = toString (number + 1) := natText_eq _
    rw [natText] at digits
    rw [text, ofInt, String.ofList_cons, digits]
    rfl

/-! ### Complaints -/

/-- The wording of a complaint. -/
inductive Complaint.IsWorded : Complaint → String → Prop where
  | command : IsWorded .wrongCommand "WRONG COMMAND"
  | poly : IsWorded .wrongPoly "WRONG POLY"
  | degreeBy : IsWorded .wrongVariable "DEG BY WRONG VARIABLE"
  | valueAt : IsWorded .wrongValue "AT WRONG VALUE"
  | compose : IsWorded .wrongParameter "COMPOSE WRONG PARAMETER"

theorem Complaint.isWorded_text (complaint : Complaint) : complaint.IsWorded complaint.text := by
  cases complaint <;> constructor

/-! ### Refused lines -/

/-- The record of a refused line. -/
inductive Diagnostic.IsRecorded : Diagnostic → Value → Prop where
  | mk {number : Int} {complaint : Complaint} {wording : String}
      (isWorded : complaint.IsWorded wording) :
      IsRecorded ⟨number, complaint⟩ (.record [("line", .int number), ("message", .string wording)])

theorem Diagnostic.isRecorded_fields (diagnostic : Diagnostic) :
    diagnostic.IsRecorded (.record diagnostic.fields) :=
  .mk diagnostic.complaint.isWorded_text

/-- The record of an accepted line: its number, its kind, what is written or the keyword, and the
argument of a command that has one. -/
inductive Line.IsRecorded (number : Nat) : Line → Value → Prop where
  | poly (value : Poly) : IsRecorded number (.poly value)
      (.record [("line", .int number), ("kind", .string "poly"), ("value", .string value.text)])
  | plain (operation : Operation) : IsRecorded number (.command (.plain operation))
      (.record [("line", .int number), ("kind", .string "command"),
        ("value", .string operation.keyword)])
  | withArgument (query : Query) (argument : Int) :
      IsRecorded number (.command (.withArgument query argument))
        (.record [("line", .int number), ("kind", .string "command"),
          ("value", .string query.keyword), ("arg", .int argument)])

theorem Line.isRecorded_itemValue (item : Nat × Line) :
    item.2.IsRecorded item.1 (Session.itemValue item) := by
  obtain ⟨number, line⟩ := item
  match line with
  | .poly value => exact .poly value
  | .command (.plain operation) => exact .plain operation
  | .command (.withArgument query argument) => exact .withArgument query argument

/-! ### Lists of lines -/

/-- What is told of each one in a list is told of all in their order. -/
theorem forall₂_map {Part Told : Type} {isTold : Part → Told → Prop} {tell : Part → Told}
    (each : ∀ part, isTold part (tell part)) (parts : List Part) :
    List.Forall₂ isTold parts (parts.map tell) :=
  List.forall₂_map_right_iff.mpr (List.forall₂_same.mpr fun part _ => each part)

end PolyIntake
