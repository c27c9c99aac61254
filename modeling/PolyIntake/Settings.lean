/-
This file defines the settings of a run: how results are shown, what is
logged, which lines the reader skips and whether skipped lines are listed.
Settings are checked before they are used. A section may hold fields that
nobody knows, but the settings themselves may not: a misspelt name shows up.
Flags of a caller may be named in any mixture of small and capital letters.
-/

import PolyIntake.Source
import PolyIntake.Text.Letter
import PolyIntake.Value.Checked

namespace PolyIntake

/-! ### Settings -/

/-- What a result contains beside what it always does. -/
structure OutputRules where
  showSkipped : Bool := false

/-- The settings of a run. The configuration file is the one that was read, if any. -/
structure Settings where
  configPath : Option String := none
  jsonOutput : Bool := false
  quiet : Bool := false
  verbose : Bool := false
  logJson : Bool := false
  input : InputRules := {}
  output : OutputRules := {}

/-! ### Checked settings -/

namespace InputRules

/-- The mark of comments does not begin with a letter, or it would take commands away. -/
def checkMark (value : Value) : Checked String :=
  value.asText.bind fun mark =>
    if mark.toList.head?.any Text.isLetter then Checked.flawed .letterMark else .ok mark

/-- The rules of the reader from a section. -/
def ofFields (fields : Fields) : Checked InputRules :=
  let standard : InputRules := {}
  Checked.along
    (Checked.along (.ok InputRules.mk)
      (Checked.optional fields "comment_prefix" standard.commentMark checkMark))
    (Checked.optional fields "skip_blank" standard.skipBlank Value.asTruth)

end InputRules

/-- The rules of the output from a section. -/
def OutputRules.ofFields (fields : Fields) : Checked OutputRules :=
  let standard : OutputRules := {}
  Checked.along (.ok OutputRules.mk)
    (Checked.optional fields "show_skipped" standard.showSkipped Value.asTruth)

namespace Settings

/-- The fields that settings have. -/
def fieldNames : List String :=
  ["config_path", "json_output", "quiet", "verbose", "log_json", "input", "output"]

/-- Settings from a record. What is wrong with a known field is named in front of the fields
that are unknown. -/
def ofFields (fields : Fields) : Checked Settings :=
  let standard : Settings := {}
  let truth (name : String) (default : Bool) : Checked Bool :=
    Checked.optional fields name default Value.asTruth
  let made : Checked (Unit → Settings) :=
    Checked.along (Checked.along (Checked.along (Checked.along (Checked.along
      (Checked.along (Checked.along
        (.ok fun path json quiet verbose logJson input output (_ : Unit) =>
          (⟨path, json, quiet, verbose, logJson, input, output⟩ : Settings))
      (Checked.optional fields "config_path" standard.configPath Value.asPath?))
      (truth "json_output" standard.jsonOutput))
      (truth "quiet" standard.quiet))
      (truth "verbose" standard.verbose))
      (truth "log_json" standard.logJson))
      (Checked.optional fields "input" standard.input
        (Value.asSection "InputConfig" InputRules.ofFields)))
      (Checked.optional fields "output" standard.output
        (Value.asSection "OutputConfig" OutputRules.ofFields))
  Checked.along made (Checked.noOthers fields fieldNames)

/-! ### Flags -/

/-- The small letter for a character, if that is a letter of ASCII. The Kelvin sign has one as
well as the capital letters. -/
def smallLetter (char : Char) : Char :=
  if char = '\u212A' then 'k' else char.toLower

/-- A text in small letters. -/
def small (text : String) : String :=
  String.ofList (text.toList.map smallLetter)

/-- Flags under the proper names of their fields, in the order of the settings. Of several flags
for one field the first counts. Flags for no field keep their names and come last. -/
def properFlags (flags : Fields) : Fields :=
  (fieldNames.filterMap fun name =>
    (flags.find? fun flag => small flag.1 == name).map fun flag => (name, flag.2)) ++
  flags.filter fun flag => !fieldNames.contains (small flag.1)

/-- Settings from flags alone. -/
def ofFlags (flags : Fields) : Checked Settings :=
  ofFields (properFlags flags)

end Settings

end PolyIntake
