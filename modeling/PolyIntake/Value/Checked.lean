/-
This file checks plain data against what is expected of it. A check that fails
does not end the others: everything that is wrong with a record is found at
once, each finding with its place, in the order in which the record is
checked.

Truth values are generous: the numbers zero and one and a few words count as
well. A number or a text that could have been meant as a truth value and is
none is told from data of the wrong kind.
-/

import PolyIntake.Value

namespace PolyIntake

/-! ### Findings -/

/-- A step from a value to one of its parts. -/
inductive Step where
  | field (name : String)
  | member (index : Nat)
  deriving DecidableEq

/-- What can be wrong with a value. A section is named for what it describes. -/
inductive Flaw where
  | missing
  | unknownField
  | notTruth
  | unclearTruth
  | notText
  | notPath
  | notList
  | notRecord
  | notSection (title : String)
  | letterMark
  deriving DecidableEq

namespace Flaw

/-- The tag of a flaw. -/
def tag : Flaw → String
  | missing => "missing"
  | unknownField => "extra_forbidden"
  | notTruth => "bool_type"
  | unclearTruth => "bool_parsing"
  | notText => "string_type"
  | notPath => "path_type"
  | notList => "list_type"
  | notRecord => "dict_type"
  | notSection _ => "model_type"
  | letterMark => "value_error"

/-- The wording of a flaw. -/
def message : Flaw → String
  | missing => "Field required"
  | unknownField => "Extra inputs are not permitted"
  | notTruth => "Input should be a valid boolean"
  | unclearTruth => "Input should be a valid boolean, unable to interpret input"
  | notText => "Input should be a valid string"
  | notPath => "Input is not a valid path for <class 'pathlib.Path'>"
  | notList => "Input should be a valid list"
  | notRecord => "Input should be a valid dictionary"
  | notSection title => "Input should be a valid dictionary or instance of " ++ title
  | letterMark => "Value error, comment_prefix must not start with a letter"

end Flaw

/-- Something that is wrong, and where. -/
structure Finding where
  place : List Step
  flaw : Flaw
  deriving DecidableEq

/-- The written form of a step. -/
def Step.text : Step → String
  | .field name => name
  | .member index => Decimal.natText index

/-- The wording of a finding behind its place. -/
def Finding.text (finding : Finding) : String :=
  ".".intercalate (finding.place.map Step.text) ++ ": " ++ finding.flaw.message

/-! ### Checked data -/

/-- What a check gives: the wanted thing, or everything that is wrong. -/
abbrev Checked (Wanted : Type) := Except (List Finding) Wanted

namespace Checked

/-- Data with a single flaw. -/
def flawed {Wanted : Type} (flaw : Flaw) : Checked Wanted :=
  .error [⟨[], flaw⟩]

/-- A check of a part, with its findings placed in the whole. -/
def «at» {Wanted : Type} (step : Step) (checked : Checked Wanted) : Checked Wanted :=
  checked.mapError fun findings =>
    findings.map fun finding => { finding with place := step :: finding.place }

/-- Two checks side by side; what is wrong with the first is named first. -/
def along {Part Whole : Type} (make : Checked (Part → Whole)) (part : Checked Part) :
    Checked Whole :=
  match make, part with
  | .ok make, .ok part => .ok (make part)
  | .error findings, .ok _ => .error findings
  | .ok _, .error findings => .error findings
  | .error findings, .error more => .error (findings ++ more)

/-- A list in which every member passes. -/
def members {Part : Type} (check : Value → Checked Part) (index : Nat) :
    List Value → Checked (List Part)
  | [] => .ok []
  | head :: tail =>
    along (along (.ok List.cons) (Checked.at (.member index) (check head)))
      (members check (index + 1) tail)

/-- A field that may be left out. -/
def optional {Wanted : Type} (fields : Fields) (name : String) (default : Wanted)
    (check : Value → Checked Wanted) : Checked Wanted :=
  match Fields.get? fields name with
  | some value => Checked.at (.field name) (check value)
  | none => .ok default

/-- A field that has to be there. -/
def required {Wanted : Type} (fields : Fields) (name : String)
    (check : Value → Checked Wanted) : Checked Wanted :=
  match Fields.get? fields name with
  | some value => Checked.at (.field name) (check value)
  | none => Checked.at (.field name) (flawed .missing)

/-- A record without fields other than the known ones. -/
def noOthers (fields : Fields) (known : List String) : Checked Unit :=
  match (fields.map (·.1)).filter fun name => !known.contains name with
  | [] => .ok ()
  | unknown => .error (unknown.map fun name => ⟨[.field name], .unknownField⟩)

end Checked

/-! ### Kinds of data -/

namespace Value

/-- The words for a truth value, in small letters. -/
def truthOfWord? (word : String) : Option Bool :=
  if ["1", "on", "t", "true", "y", "yes"].contains word then some true
  else if ["0", "off", "f", "false", "n", "no"].contains word then some false
  else none

/-- The smallest number that is too large for a floating-point number. -/
def floatLimit : Nat := Nat.pow 2 1024 - Nat.pow 2 970

/-- A truth value, or something that stands for one. -/
def asTruth : Value → Checked Bool
  | .bool value => .ok value
  | .int value =>
    if value = 0 then .ok false
    else if value = 1 then .ok true
    else if value.natAbs < floatLimit then Checked.flawed .unclearTruth
    else Checked.flawed .notTruth
  | .float value =>
    if value == 0.0 then .ok false
    else if value == 1.0 then .ok true
    else if value.isFinite && value.floor == value then Checked.flawed .unclearTruth
    else Checked.flawed .notTruth
  | .string text =>
    match truthOfWord? (String.ofList (text.toList.map Char.toLower)) with
    | some value => .ok value
    | none => Checked.flawed .unclearTruth
  | _ => Checked.flawed .notTruth

/-- A text. -/
def asText : Value → Checked String
  | .string text => .ok text
  | _ => Checked.flawed .notText

/-- A path, or nothing. -/
def asPath? : Value → Checked (Option String)
  | .null => .ok none
  | .string text => .ok (some text)
  | _ => Checked.flawed .notPath

/-- A list in which every member passes. -/
def asList {Part : Type} (check : Value → Checked Part) : Value → Checked (List Part)
  | .list parts => Checked.members check 0 parts
  | _ => Checked.flawed .notList

/-- A record with any fields. -/
def asRecord : Value → Checked Fields
  | .record fields => .ok fields
  | _ => Checked.flawed .notRecord

/-- A record that describes something. -/
def asSection {Wanted : Type} (title : String) (check : Fields → Checked Wanted) :
    Value → Checked Wanted
  | .record fields => check fields
  | _ => Checked.flawed (.notSection title)

end Value

end PolyIntake
