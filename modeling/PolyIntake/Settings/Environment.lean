/-
This file reads settings from environment variables. Their names begin with the
name of the program, in any mixture of small and capital letters. A field of a
section is named by both names with two underscores between them, or the
section is given as a whole by a JSON document, in which such fields go before
those of the document. Texts are left as they are: the check of the settings
tells what they mean.
-/

import PolyIntake.Json.Parser
import PolyIntake.Settings

namespace PolyIntake

namespace Settings

/-! ### Merged records -/

mutual

/-- A record with the fields of another one, which go before its own. Records that both have
under one name are merged. -/
def merge (base : Fields) : (upper : Fields) → Fields
  | [] => base
  | (name, value) :: rest =>
    merge (Fields.set base name (mergeValue (Fields.get? base name) value)) rest

/-- A value with another one in its place, or merged with it if both are records. -/
def mergeValue (base : Option Value) : (upper : Value) → Value
  | .record fields =>
    match base with
    | some (.record base) => .record (merge base fields)
    | _ => .record fields
  | value => value

end

/-! ### Variables -/

/-- The variables of an environment, as pairs of name and value. -/
abbrev Environment := List (String × String)

/-- The value of a variable under its exact name. -/
def valueOf? (environment : Environment) (name : String) : Option String :=
  (environment.find? fun entry => entry.1 == name).map (·.2)

/-- The name of the program in front of its variables. -/
def variablePrefix : String := "polycalc_"

/-- What stands between the names of a section and of its field. -/
def delimiter : String := "__"

/-- The variables under their names in small letters. Of several that agree in this the last
counts. -/
def smallNames (environment : Environment) : Fields :=
  Fields.ofList (environment.map fun entry => (small entry.1, .string entry.2))

/-! ### Sections -/

/-- The pieces of a text between pairs of underscores. -/
def splitAtDelimiter : List Char → List (List Char)
  | [] => [[]]
  | '_' :: '_' :: rest => [] :: splitAtDelimiter rest
  | char :: rest =>
    match splitAtDelimiter rest with
    | [] => [[char]]
    | piece :: more => (char :: piece) :: more

/-- A record with a value behind a path of names. The path makes records where there is
nothing and ends at any other value. -/
def setBehind (value : Value) : List String → Fields → Fields
  | [], fields => fields
  | [name], fields => Fields.set fields name value
  | name :: next :: path, fields =>
    match Fields.get? fields name with
    | none => Fields.set fields name (.record (setBehind value (next :: path) []))
    | some (.record inner) =>
      Fields.set fields name (.record (setBehind value (next :: path) inner))
    | some _ => fields

/-- What the names of variables for fields of a section begin with. -/
def sectionPrefix (name : String) : String := variablePrefix ++ name ++ delimiter

/-- The fields of a section with what a variable says, if it is for one of them. -/
def enterVariable (front : String) (fields : Fields) (entry : String × Value) : Fields :=
  if front.toList.isPrefixOf entry.1.toList then
    let path := splitAtDelimiter (entry.1.toList.drop front.length)
    setBehind entry.2 (path.map String.ofList) fields
  else fields

/-- The fields of a section that have variables of their own. -/
def ownFields (bindings : Fields) (name : String) : Fields :=
  bindings.foldl (enterVariable (sectionPrefix name)) []

/-- A record in which known fields have their proper names, whatever letters they were written
with. -/
def properNames (known : List String) (fields : Fields) : Fields :=
  Fields.ofList (fields.map fun field =>
    ((known.find? fun name => name == small field.1).getD field.1, field.2))

/-- The value of a section: nothing, or what its variables say. A variable for the whole
section has to be a JSON document without overlong numbers. -/
def sectionValue (bindings : Fields) (name : String) (known : List String) :
    Except String (Option Value) :=
  let own := ownFields bindings name
  match Fields.get? bindings (variablePrefix ++ name) with
  | some (.string text) =>
    match Json.parseWithin? (some Decimal.longest) text with
    | none => .error name
    | some .null => .ok none
    | some (.record fields) => .ok (some (.record (properNames known (merge fields own))))
    | some value => .ok (some value)
  | _ => .ok (if own.isEmpty then none else some (.record (properNames known own)))

/-- The fields of the sections. -/
def sectionFields : List (String × List String) :=
  [("input", ["comment_prefix", "skip_blank"]), ("output", ["show_skipped"])]

/-- What the environment says about a field of the settings. An error names the section that
is no document. -/
def environmentField (bindings : Fields) (name : String) : Except String Fields :=
  match sectionFields.lookup name with
  | some known => (sectionValue bindings name known).map fun
    | some value => [(name, value)]
    | none => []
  | none =>
    match Fields.get? bindings (variablePrefix ++ name) with
    | some value => .ok [(name, value)]
    | none => .ok []

/-- What the environment says about the settings. -/
def ofEnvironment (environment : Environment) : Except String Fields :=
  (fieldNames.mapM (environmentField (smallNames environment))).map List.flatten

end Settings

end PolyIntake
