/-
This file defines plain data: what settings are read from and what a result
carries. A record keeps its fields in the order in which they were entered,
and storing a field again changes its value and not its place.
-/

import PolyIntake.Decimal

namespace PolyIntake

/-! ### Values -/

/-- Plain data. A date or a time only occurs in configuration files, and no setting takes
one, so that nothing but its presence matters. -/
inductive Value where
  | null
  | bool (value : Bool)
  | int (value : Int)
  | float (value : Float)
  | string (text : String)
  | list (members : List Value)
  | record (fields : List (String × Value))
  | moment
  deriving Inhabited

namespace Value

/-- The kinds of values. -/
inductive Kind where
  | null
  | bool
  | int
  | float
  | string
  | list
  | record
  | moment
  deriving DecidableEq

/-- The kind of a value. -/
def kind : Value → Kind
  | .null => .null
  | .bool _ => .bool
  | .int _ => .int
  | .float _ => .float
  | .string _ => .string
  | .list _ => .list
  | .record _ => .record
  | .moment => .moment

/-- A value that says nothing: nothing itself, what is false, a number that is zero, or
something empty. -/
def isVoid : Value → Bool
  | .null => true
  | .bool value => !value
  | .int value => value == 0
  | .float value => value == 0
  | .string text => text.isEmpty
  | .list members => members.isEmpty
  | .record fields => fields.isEmpty
  | .moment => false

mutual

/-- The levels of a value: one for itself, and those of its deepest part. -/
def levels : Value → Nat
  | .list members => levelsOfMembers members + 1
  | .record fields => levelsOfFields fields + 1
  | _ => 1

/-- The levels of the deepest member of a list. -/
def levelsOfMembers : List Value → Nat
  | [] => 0
  | head :: tail => max head.levels (levelsOfMembers tail)

/-- The levels of the deepest field of a record. -/
def levelsOfFields : List (String × Value) → Nat
  | [] => 0
  | (_, value) :: rest => max value.levels (levelsOfFields rest)

end

end Value

/-- The fields of a record, by name. -/
abbrev Fields := List (String × Value)

namespace Fields

/-- The value of a field. -/
def get? (fields : Fields) (name : String) : Option Value :=
  (fields.find? (fun field => field.1 == name)).map (·.2)

/-- The value of a field that says something. -/
def filled? (fields : Fields) (name : String) : Option Value :=
  (get? fields name).filter fun value => !value.isVoid

/-- A record with a field set: in its old place, or as the last one. -/
def set (fields : Fields) (name : String) (value : Value) : Fields :=
  match fields with
  | [] => [(name, value)]
  | (name', value') :: rest =>
    if name' == name then (name, value) :: rest
    else (name', value') :: set rest name value

/-- A record without a field. -/
def erase (fields : Fields) (name : String) : Fields :=
  fields.filter fun field => field.1 != name

/-- The record of a list of fields. Of two fields with one name the later value counts. -/
def ofList (entries : List (String × Value)) : Fields :=
  entries.foldl (fun fields entry => set fields entry.1 entry.2) []

end Fields

end PolyIntake
