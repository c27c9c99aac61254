/-
This file builds the tables of a configuration file. A key is a path through
nested tables; where it meets a list of tables it goes on in the last one.

What has been written down cannot be changed afterwards. A table that was
declared, or that a dotted key of an earlier section made, cannot be declared
or extended again. A list or a table that was given as a value is closed with
everything in it. A new member of a list of tables opens all paths below it
again.
-/

import PolyIntake.Value

namespace PolyIntake

namespace Toml

/-! ### Nested tables -/

/-- A path through nested tables. -/
abbrev Key := List String

/-- Changes the table behind a key, which is made if it does not exist. The key may go through
the last member of a list where that is allowed; it goes through no other value. -/
def changeAt (throughLists : Bool) (change : Fields → Option Fields) :
    Key → Fields → Option Fields
  | [], table => change table
  | name :: key, table =>
    match Fields.get? table name with
    | none => (changeAt throughLists change key []).map fun inner =>
      Fields.set table name (.record inner)
    | some (.record inner) => (changeAt throughLists change key inner).map fun inner =>
      Fields.set table name (.record inner)
    | some (.list members) =>
      match throughLists, members.getLast? with
      | true, some (.record inner) => (changeAt throughLists change key inner).map fun inner =>
        Fields.set table name (.list (members.dropLast ++ [.record inner]))
      | _, _ => none
    | some _ => none

/-- Adds a field to a table that has none of that name. -/
def addField (name : String) (value : Value) (table : Fields) : Option Fields :=
  match Fields.get? table name with
  | some _ => none
  | none => some (Fields.set table name value)

/-- Adds an empty table to the end of a list, which is made if it does not exist. -/
def addMember (name : String) (table : Fields) : Option Fields :=
  match Fields.get? table name with
  | some (.list members) => some (Fields.set table name (.list (members ++ [.record []])))
  | some _ => none
  | none => some (Fields.set table name (.list [.record []]))

/-- A value that is closed with everything in it once it is written down. -/
def isContainer : Value → Bool
  | .list _ => true
  | .record _ => true
  | _ => false

/-! ### Documents under way -/

/-- A document under way: its tables, the keys that cannot be declared again, those that
become so with the next section, the keys that are closed with all paths below them, and the
section that takes the next field. -/
structure Document where
  tables : Fields := []
  declared : List Key := []
  pending : List Key := []
  closed : List Key := []
  heading : Key := []

namespace Document

/-- A key is closed if a key in front of it is, or the key itself. -/
def isClosed (document : Document) (key : Key) : Bool :=
  document.closed.any fun closed => closed.isPrefixOf key

/-- Begins a new section: the tables that dotted keys made are declared by now. -/
def settle (document : Document) : Document :=
  { document with declared := document.pending ++ document.declared, pending := [] }

/-- Declares a table, which becomes the section. -/
def declareTable (document : Document) (key : Key) : Option Document :=
  if document.declared.contains key || document.isClosed key then none
  else (changeAt true some key document.tables).map fun tables =>
    { document with tables := tables, declared := key :: document.declared, heading := key }

/-- Adds a member to a list of tables, which becomes the section. -/
def declareMember (document : Document) (key : Key) : Option Document :=
  if document.isClosed key then none
  else
    let isBelow (other : Key) : Bool := key.isPrefixOf other
    match key.getLast? with
    | none => none
    | some name =>
      (changeAt true (addMember name) key.dropLast document.tables).map fun tables =>
        { document with
          tables := tables
          declared := key :: document.declared.filter fun other => !isBelow other
          closed := document.closed.filter fun other => !isBelow other
          heading := key }

/-- The proper parts of a key that a section is extended by, as keys of the document. -/
def innerKeys (outer : Key) : Key → List Key
  | [] => []
  | [_] => []
  | name :: next :: key =>
    (outer ++ [name]) :: innerKeys (outer ++ [name]) (next :: key)

/-- Adds a field to the section. The tables that its key goes through must not have been
declared, and are declared with the next section. -/
def addValue (document : Document) (key : Key) (value : Value) : Option Document :=
  let inner := innerKeys document.heading key
  let parent := document.heading ++ key.dropLast
  if inner.any document.declared.contains || document.isClosed parent then none
  else
    match key.getLast? with
    | none => none
    | some name =>
      (changeAt true (addField name value) parent document.tables).map fun tables =>
        { document with
          tables := tables
          pending := inner ++ document.pending
          closed :=
            if isContainer value then (document.heading ++ key) :: document.closed
            else document.closed }

end Document

end Toml

end PolyIntake
