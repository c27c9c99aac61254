/-
This file works on paths as text. A path names its steps from the root, or from
the current folder, with slashes between them. Two paths are written alike when
they differ in slashes and in steps that stay where they are; a step up is only
taken back where a path is resolved, because what is behind it may not exist.

A path is resolved from step to step. Where a link stands, what it says takes
its place; a link that leads back to itself is left as it is, with all steps
behind it.

What stands at a path is looked up by whoever runs the program. A path is
looked up as it is written. The system may fail to tell, and only some of its
failures mean that nothing stands there.
-/

import PolyIntake.Text.Quoted
import PolyIntake.Value

namespace PolyIntake

/-! ### What stands at a path -/

/-- A failure of the system: its number and its wording. -/
structure SystemError where
  code : Nat
  reason : String
  deriving DecidableEq

namespace SystemError

/-- Nothing stands at a path. -/
def missing : SystemError := ⟨2, "No such file or directory"⟩

/-- A folder is no file. -/
def isFolder : SystemError := ⟨21, "Is a directory"⟩

/-- The number of the failure that links lead in a circle. -/
def circular : Nat := 40

/-- The numbers of the failures that mean that nothing stands at a path: no such name, no such
handle, something behind a file, and links that lead in a circle. -/
def absences : List Nat := [missing.code, 9, 20, circular]

/-- The wording of a failure at a path. -/
def message (error : SystemError) (path : String) : String :=
  "[Errno " ++ Decimal.natText error.code ++ "] " ++ error.reason ++ ": " ++ Text.quotedText path

end SystemError

/-- What stands at a path: a folder, a file, or something else that can be read, each with what
reading it gives. The system may fail to tell. -/
inductive Place where
  | failing (error : SystemError)
  | folder
  | file (content : Except SystemError (List UInt8))
  | device (content : Except SystemError (List UInt8))

namespace Place

/-- Nothing stands there. -/
def missing : Place := .failing .missing

/-- A file stands there, whether it can be read or not. -/
def isFile : Place → Except SystemError Bool
  | .failing error => if error.code ∈ SystemError.absences then .ok false else .error error
  | .folder => .ok false
  | .file _ => .ok true
  | .device _ => .ok false

/-- Links lead in a circle there. -/
def isCircular : Place → Bool
  | .failing error => error.code = SystemError.circular
  | _ => false

/-- What reading it gives. -/
def content : Place → Except SystemError (List UInt8)
  | .failing error => .error error
  | .folder => .error .isFolder
  | .file content => content
  | .device content => content

end Place

namespace Path

/-! ### Steps -/

/-- The pieces of a path between its slashes. -/
def pieces : List Char → List (List Char)
  | [] => [[]]
  | char :: rest =>
    if char = '/' then [] :: pieces rest
    else
      match pieces rest with
      | [] => [[char]]
      | piece :: more => (char :: piece) :: more

/-- The steps of a path. Empty steps and those that stay where they are do not count. -/
def steps (path : String) : List String :=
  ((pieces path.toList).map String.ofList).filter fun step => step ≠ "" ∧ step ≠ "."

/-- A path that begins at the root. -/
def isAbsolute (path : String) : Bool :=
  path.toList.head? = some '/'

/-- The root that a path begins with. Exactly two slashes are a root of their own. -/
def root (path : String) : String :=
  match path.toList with
  | '/' :: '/' :: '/' :: _ => "/"
  | '/' :: '/' :: _ => "//"
  | '/' :: _ => "/"
  | _ => ""

/-- A path that no system takes: one with a zero character. -/
def holdsZero (path : String) : Bool :=
  path.toList.contains '\x00'

/-! ### Written paths -/

/-- The path with the given steps. -/
def ofSteps (root : String) (steps : List String) : String :=
  match root, steps with
  | "", [] => "."
  | root, steps => root ++ "/".intercalate steps

/-- The written form of a path: no empty step, and none that stays where it is. -/
def normal (path : String) : String :=
  ofSteps (root path) (steps path)

/-! ### Links -/

/-- The links of a file system: where each one stands, by its steps from the root, and what it
says. -/
abbrev Links := List (List String × String)

/-- Where a path begins that is seen from a folder. -/
def origin (folder : List String) (path : String) : List String :=
  if isAbsolute path then [] else folder

/-- The number of links that are not followed yet. -/
def unfollowed (links : Links) (followed : List (List String)) : Nat :=
  (links.filter fun link => !followed.contains link.1).length

/-- Following one more link leaves fewer. -/
theorem unfollowed_lt {links : Links} {followed : List (List String)} {place : List String}
    {text : String} (isLink : links.lookup place = some text) (unmet : place ∉ followed) :
    unfollowed links (place :: followed) < unfollowed links followed := by
  obtain ⟨before, behind, same, -⟩ := List.lookup_eq_some_iff.mp isLink
  have fewer : links.filter (fun link => !(place :: followed).contains link.1) =
      (links.filter fun link => !followed.contains link.1).filter fun link => link.1 != place := by
    rw [List.filter_filter]
    refine List.filter_congr fun link _ => ?_
    rw [List.contains_cons, Bool.not_or]
    rfl
  have member : (place, text) ∈ links.filter fun link => !followed.contains link.1 := by
    rw [same]
    simp [unmet]
  unfold unfollowed
  rw [fewer]
  exact List.length_filter_lt_length_iff_exists.mpr ⟨_, member, by simp⟩

/-- Where steps lead from a place, each link replaced by what it says. Some links are already being
followed; at one of them the way is lost, and what is left is told. -/
def follow (links : Links) (followed : List (List String)) (here : List String) :
    List String → Except (List String) (List String)
  | [] => .ok here
  | step :: rest =>
    if step = ".." then follow links followed here.dropLast rest
    else
      match _isLink : links.lookup (here ++ [step]) with
      | none => follow links followed (here ++ [step]) rest
      | some text =>
        if _met : here ++ [step] ∈ followed then .error (here ++ step :: rest)
        else
          match follow links ((here ++ [step]) :: followed) (origin here text) (steps text) with
          | .ok there => follow links followed there rest
          | .error left => .error (left ++ rest)
termination_by steps => (unfollowed links followed, steps.length)
decreasing_by
  · exact Prod.Lex.right _ (Nat.lt_succ_self _)
  · exact Prod.Lex.right _ (Nat.lt_succ_self _)
  · exact Prod.Lex.left _ _ (unfollowed_lt _isLink _met)
  · exact Prod.Lex.right _ (Nat.lt_succ_self _)

/-! ### Resolved paths -/

/-- The steps that remain when each step up takes the one before it back. At the root it takes
nothing back. The steps so far are given latest first. -/
def settle (before : List String) : List String → List String
  | [] => before.reverse
  | step :: rest => if step = ".." then settle before.tail rest else settle (step :: before) rest

/-- The steps from the root to a path that is seen from a folder, as they are written. -/
def stepsFrom (folder path : String) : List String :=
  if isAbsolute path then steps path else steps folder ++ steps path

/-- The steps from the root to where a path leads that is seen from a folder. Where the way is lost,
a step up takes back whatever stands before it. -/
def resolve (links : Links) (folder path : String) : List String :=
  match follow links [] [] (stepsFrom folder path) with
  | .ok there => there
  | .error left => settle [] left

/-- The folders at or above the one with the given steps, nearest first. -/
def atOrAbove (folder : List String) : List (List String) :=
  (List.range (folder.length + 1)).reverse.map fun count => folder.take count

end Path

end PolyIntake
