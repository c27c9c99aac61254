/-
This file reads marked-up text, of which only the text is kept. A tag is a word
in brackets that begins with a small letter or one of a few signs. It opens a
style; with a slash in front of the word it closes the style of that name, and
a slash alone closes the style that was opened last. A backslash in front of a
tag makes it plain text, and brackets that hold no tag are plain text as well.
-/

import PolyIntake.Decimal

namespace PolyIntake

namespace Markup

/-! ### Faults -/

/-- A closing tag that closes nothing: there is no open style of its name, or none at all. -/
inductive Fault where
  | unmatched (tag : String) (position : Nat)
  | nothingOpen (position : Nat)
  deriving DecidableEq

/-- The wording of a fault. -/
def Fault.message : Fault → String
  | .unmatched tag position =>
    "closing tag '[" ++ tag ++ "]' at position " ++ Decimal.natText position ++
      " doesn't match any open tag"
  | .nothingOpen position =>
    "closing tag '[/]' at position " ++ Decimal.natText position ++ " has nothing to close"

/-! ### Tags -/

/-- A character that may begin a tag. -/
def beginsTag (char : Char) : Bool :=
  char.isLower || char = '#' || char = '/' || char = '@'

/-- The inside of a tag and what follows it, given what follows its opening bracket. -/
def tag? : List Char → Option (List Char × List Char)
  | [] => none
  | first :: rest =>
    if beginsTag first then
      let more := rest.takeWhile fun char => char ≠ ']' && char ≠ '['
      match rest.drop more.length with
      | ']' :: behind => some (first :: more, behind)
      | _ => none
    else none

/-- A text without the blanks around it. -/
def trimmed (text : List Char) : List Char :=
  let isBlank (char : Char) : Bool := char.isWhitespace || char.toNat = 0x0B || char.toNat = 0x0C
  ((text.dropWhile isBlank).reverse.dropWhile isBlank).reverse

/-- The short names of styles. -/
def shortNames : List (String × String) := [
  ("b", "bold"), ("c", "conceal"), ("d", "dim"), ("i", "italic"), ("o", "overline"),
  ("r", "reverse"), ("s", "strike"), ("u", "underline"), ("uu", "underline2")]

/-- The style that a name stands for, whatever letters it is written with. -/
def styleOf (name : List Char) : String :=
  let small := String.ofList ((trimmed name).map Char.toLower)
  (shortNames.lookup small).getD small

/-- The open styles behind a tag that stands at a position, the latest style first. What a tag
holds behind an equals sign does not matter. -/
def follow (opened : List String) (position : Nat) (tag : List Char) :
    Except Fault (List String) :=
  match tag.takeWhile (· ≠ '=') with
  | '/' :: name =>
    if (trimmed name).isEmpty then
      match opened with
      | [] => .error (.nothingOpen position)
      | _ :: outer => .ok outer
    else if opened.contains (styleOf name) then .ok (opened.erase (styleOf name))
    else .error (.unmatched (String.ofList tag) position)
  | name => .ok (styleOf name :: opened)

/-! ### Reading -/

/-- What is known in front of the rest of a text: the position, the styles that are open, and
the plain text so far, latest character first. -/
structure State where
  position : Nat
  opened : List String
  plain : List Char

/-- Goes on behind plain characters, which may be shown otherwise than they are written. -/
def State.pass (state : State) (written : Nat) (shown : List Char) : State :=
  { state with position := state.position + written, plain := shown.reverse ++ state.plain }

/-- Reads on to the end of a text. Every step takes at least one character. -/
def readFrom : (steps : Nat) → State → List Char → Except Fault (List Char)
  | 0, state, _ => .ok state.plain.reverse
  | _ + 1, state, [] => .ok state.plain.reverse
  | steps + 1, state, char :: rest =>
    let slashes := (char :: rest).takeWhile (· = '\\')
    let count := slashes.length
    match (char :: rest).drop count with
    | '[' :: inner =>
      match tag? inner with
      | none => readFrom steps
        (state.pass (count + 1) (List.replicate (count - 1) '\\' ++ ['['])) inner
      | some (tag, behind) =>
        let size := tag.length + 2
        if count % 2 = 1 then
          readFrom steps
            (state.pass (count + size) (List.replicate (count / 2) '\\' ++ '[' :: tag ++ [']']))
            behind
        else
          match follow state.opened (state.position + count) tag with
          | .error fault => .error fault
          | .ok opened =>
            let passed := state.pass (count + size) (List.replicate (count / 2) '\\')
            readFrom steps { passed with opened := opened } behind
    | next =>
      if count = 0 then readFrom steps (state.pass 1 [char]) rest
      else readFrom steps (state.pass count slashes) next

/-- The plain text of a marked-up text. -/
def plainText (text : List Char) : Except Fault (List Char) :=
  readFrom (text.length + 1) ⟨0, [], []⟩ text

end Markup

end PolyIntake
