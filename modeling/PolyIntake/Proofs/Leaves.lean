/-
This file describes settings leaf by leaf. A leaf is a setting that has no
parts: the four switches and the fields of the two sections. Every leaf has a
place in a record, either under a name or in the section that stands under one,
and it can be told there by a value that is no record itself.

The main statement is about records that pass the check of settings: the
settings have, for each leaf, what the value at its place comes to, or the
standard where there is no value.
-/

import PolyIntake.Proofs.Records
import PolyIntake.Settings

namespace PolyIntake

/-! ### Passed checks -/

theorem bind_eq_ok_iff {Fault First Second : Type} {first : Except Fault First}
    {next : First → Except Fault Second} {result : Second} :
    first >>= next = .ok result ↔ ∃ value, first = .ok value ∧ next value = .ok result := by
  cases first <;> simp [bind, Except.bind]

theorem map_eq_ok_iff {Fault First Second : Type} {first : Except Fault First}
    {change : First → Second} {result : Second} :
    first.map change = .ok result ↔ ∃ value, first = .ok value ∧ change value = result := by
  cases first <;> simp [Except.map]

theorem mapError_eq_ok_iff {Fault Other Wanted : Type} {first : Except Fault Wanted}
    {reword : Fault → Other} {wanted : Wanted} :
    first.mapError reword = .ok wanted ↔ first = .ok wanted := by
  cases first with
  | error fault => exact iff_of_false (by rintro ⟨⟩) (by rintro ⟨⟩)
  | ok value =>
    exact ⟨fun same => congrArg _ (Except.ok.inj same), fun same => congrArg _ (Except.ok.inj same)⟩

namespace Checked

variable {Part Whole Wanted : Type}

theorem along_eq_ok_iff {make : Checked (Part → Whole)} {part : Checked Part} {whole : Whole} :
    along make part = .ok whole ↔
      ∃ function, make = .ok function ∧ ∃ value, part = .ok value ∧ function value = whole := by
  cases make <;> cases part <;> simp [along]

theorem at_eq_ok_iff {step : Step} {checked : Checked Wanted} {wanted : Wanted} :
    Checked.at step checked = .ok wanted ↔ checked = .ok wanted :=
  mapError_eq_ok_iff

/-- What is wanted comes of what is told, which passes the check, or is the standard where nothing
is told. -/
def Takes (check : Value → Checked Wanted) (standard : Wanted) (told : Option Value)
    (wanted : Wanted) : Prop :=
  match told with
  | some value => check value = .ok wanted
  | none => wanted = standard

theorem optional_eq_ok_iff {fields : Fields} {name : String} {standard : Wanted}
    {check : Value → Checked Wanted} {wanted : Wanted} :
    optional fields name standard check = .ok wanted ↔
      Takes check standard (Fields.get? fields name) wanted := by
  unfold optional Takes
  cases Fields.get? fields name with
  | some value => exact at_eq_ok_iff
  | none => exact ⟨fun same => (Except.ok.inj same).symm, congrArg _ ∘ Eq.symm⟩

end Checked

namespace Settings

open Checked

/-! ### Leaves -/

/-- The settings that have no parts. -/
inductive Leaf where
  | jsonOutput
  | quiet
  | verbose
  | logJson
  | commentMark
  | skipBlank
  | showSkipped
  deriving DecidableEq

namespace Leaf

/-- The field of the settings that a leaf is, or that it is in. -/
def field : Leaf → String
  | jsonOutput => "json_output"
  | quiet => "quiet"
  | verbose => "verbose"
  | logJson => "log_json"
  | commentMark => "input"
  | skipBlank => "input"
  | showSkipped => "output"

/-- The name of a leaf in its section, if it is in one. -/
def part? : Leaf → Option String
  | commentMark => some "comment_prefix"
  | skipBlank => some "skip_blank"
  | showSkipped => some "show_skipped"
  | _ => none

/-- The value at the place of a leaf in the value of its field. -/
def inside? (leaf : Leaf) (value : Value) : Option Value :=
  match leaf.part? with
  | none => some value
  | some part =>
    match value with
    | .record fields => Fields.get? fields part
    | _ => none

/-- The value at the place of a leaf. -/
def find? (leaf : Leaf) (fields : Fields) : Option Value :=
  (Fields.get? fields leaf.field).bind leaf.inside?

/-- The settings have what a leaf comes to when this is told about it. -/
def IsSet (settings : Settings) (told : Option Value) : Leaf → Prop
  | jsonOutput => Takes Value.asTruth false told settings.jsonOutput
  | quiet => Takes Value.asTruth false told settings.quiet
  | verbose => Takes Value.asTruth false told settings.verbose
  | logJson => Takes Value.asTruth false told settings.logJson
  | commentMark => Takes InputRules.checkMark "#" told settings.input.commentMark
  | skipBlank => Takes Value.asTruth true told settings.input.skipBlank
  | showSkipped => Takes Value.asTruth false told settings.output.showSkipped

/-- A value of a field has the kind that the field of a leaf has: a record if it is a section, and
no record if it is the leaf itself. -/
def Fits (leaf : Leaf) (value : Value) : Prop :=
  value.kind = .record ↔ leaf.part?.isSome

variable {leaf : Leaf} {fields : Fields}

theorem find?_of_absent (absent : Fields.get? fields leaf.field = none) :
    leaf.find? fields = none := by
  rw [find?, absent]
  rfl

theorem find?_of_plain (plain : leaf.part? = none) :
    leaf.find? fields = Fields.get? fields leaf.field := by
  have same : leaf.inside? = some := by
    funext value
    simp [inside?, plain]
  simp [find?, same]

theorem find?_of_record {part : String} {inner : Fields} (inSection : leaf.part? = some part)
    (told : Fields.get? fields leaf.field = some (.record inner)) :
    leaf.find? fields = Fields.get? inner part := by
  simp [find?, told, inside?, inSection]

end Leaf

/-! ### Kinds of checked values -/

theorem kind_ne_record_of_asTruth {value : Value} {truth : Bool}
    (passed : value.asTruth = .ok truth) : value.kind ≠ .record := by
  rintro kind
  cases value <;> cases kind
  cases passed

theorem kind_ne_record_of_checkMark {value : Value} {mark : String}
    (passed : InputRules.checkMark value = .ok mark) : value.kind ≠ .record := by
  rintro kind
  cases value <;> cases kind
  cases passed

theorem asSection_eq_ok_iff {Wanted : Type} {title : String} {check : Fields → Checked Wanted}
    {value : Value} {wanted : Wanted} :
    value.asSection title check = .ok wanted ↔
      ∃ fields, value = .record fields ∧ check fields = .ok wanted := by
  cases value <;> simp [Value.asSection, flawed]

/-- A leaf is only ever set by a value that is no record. -/
theorem Leaf.IsSet.kind_ne_record {leaf : Leaf} {settings : Settings} {value : Value}
    (isSet : leaf.IsSet settings (some value)) : value.kind ≠ .record := by
  cases leaf with
  | commentMark => exact kind_ne_record_of_checkMark isSet
  | _ => exact kind_ne_record_of_asTruth isSet

/-! ### Checked settings -/

theorem inputRules_of_ofFields {fields : Fields} {rules : InputRules}
    (passed : InputRules.ofFields fields = .ok rules) :
    Takes InputRules.checkMark "#" (Fields.get? fields "comment_prefix") rules.commentMark ∧
      Takes Value.asTruth true (Fields.get? fields "skip_blank") rules.skipBlank := by
  simp only [InputRules.ofFields, along_eq_ok_iff, optional_eq_ok_iff] at passed
  obtain ⟨_, ⟨_, made, mark, takesMark, rfl⟩, blank, takesBlank, rfl⟩ := passed
  cases made
  exact ⟨takesMark, takesBlank⟩

theorem outputRules_of_ofFields {fields : Fields} {rules : OutputRules}
    (passed : OutputRules.ofFields fields = .ok rules) :
    Takes Value.asTruth false (Fields.get? fields "show_skipped") rules.showSkipped := by
  simp only [OutputRules.ofFields, along_eq_ok_iff, optional_eq_ok_iff] at passed
  obtain ⟨_, made, shown, takesShown, rfl⟩ := passed
  cases made
  exact takesShown

/-- What a section comes to, its fields do, and it is a record if it is there at all. -/
theorem takes_asSection {Wanted : Type} {title : String} {check : Fields → Checked Wanted}
    {standard wanted : Wanted} {told : Option Value}
    (takes : Takes (Value.asSection title check) standard told wanted) :
    (told = none ∧ wanted = standard) ∨
      ∃ fields, told = some (.record fields) ∧ check fields = .ok wanted := by
  cases told with
  | none => exact Or.inl ⟨rfl, takes⟩
  | some value =>
    obtain ⟨fields, rfl, passed⟩ := asSection_eq_ok_iff.mp takes
    exact Or.inr ⟨fields, rfl, passed⟩

/-- The checks that fields have passed which make settings. -/
theorem takes_of_ofFields {fields : Fields} {settings : Settings}
    (passed : ofFields fields = .ok settings) :
    Takes Value.asTruth false (Fields.get? fields "json_output") settings.jsonOutput ∧
      Takes Value.asTruth false (Fields.get? fields "quiet") settings.quiet ∧
      Takes Value.asTruth false (Fields.get? fields "verbose") settings.verbose ∧
      Takes Value.asTruth false (Fields.get? fields "log_json") settings.logJson ∧
      Takes (Value.asSection "InputConfig" InputRules.ofFields) {} (Fields.get? fields "input")
        settings.input ∧
      Takes (Value.asSection "OutputConfig" OutputRules.ofFields) {}
        (Fields.get? fields "output") settings.output := by
  simp only [ofFields, along_eq_ok_iff, optional_eq_ok_iff] at passed
  obtain ⟨_, ⟨_, ⟨_, ⟨_, ⟨_, ⟨_, ⟨_, ⟨_, made, path, -, rfl⟩, json, takesJson, rfl⟩, quiet,
    takesQuiet, rfl⟩, verbose, takesVerbose, rfl⟩, logJson, takesLogJson, rfl⟩, input, takesInput,
    rfl⟩, output, takesOutput, rfl⟩, _, -, rfl⟩ := passed
  cases made
  exact ⟨takesJson, takesQuiet, takesVerbose, takesLogJson, takesInput, takesOutput⟩

/-- A switch has passed its check, and its value is at its place. -/
theorem isSet_of_plain {fields : Fields} {leaf : Leaf} {truth : Bool} (plain : leaf.part? = none)
    (takes : Takes Value.asTruth false (Fields.get? fields leaf.field) truth) :
    Takes Value.asTruth false (leaf.find? fields) truth ∧
      ∀ value, Fields.get? fields leaf.field = some value → leaf.Fits value := by
  refine ⟨?_, fun value told => ?_⟩
  · rw [Leaf.find?_of_plain plain]
    exact takes
  · rw [told] at takes
    exact iff_of_false (kind_ne_record_of_asTruth takes) (by simp [plain])

/-- A leaf in a section is at its place in the record of the section, which has passed its check. -/
theorem isSet_of_part {Wanted : Type} {title : String} {check : Fields → Checked Wanted}
    {standard wanted : Wanted} {fields : Fields} (leaf : Leaf) {part : String}
    (inSection : leaf.part? = some part)
    (takes : Takes (Value.asSection title check) standard (Fields.get? fields leaf.field) wanted) :
    ((leaf.find? fields = none ∧ wanted = standard) ∨
        ∃ inner, leaf.find? fields = Fields.get? inner part ∧ check inner = .ok wanted) ∧
      ∀ value, Fields.get? fields leaf.field = some value → leaf.Fits value := by
  rcases takes_asSection takes with ⟨absent, rfl⟩ | ⟨inner, told, passed⟩
  · exact ⟨Or.inl ⟨Leaf.find?_of_absent absent, rfl⟩, fun value told => by simp [absent] at told⟩
  · refine ⟨Or.inr ⟨inner, Leaf.find?_of_record inSection told, passed⟩, fun value told' => ?_⟩
    obtain rfl := Option.some.inj (told.symm.trans told')
    exact iff_of_true rfl (by simp [inSection])

/-- Settings have for each leaf what the record tells at its place that they are made of, or the
standard, and the record has no field of the wrong kind there. -/
theorem isSet_of_ofFields {fields : Fields} {settings : Settings}
    (passed : ofFields fields = .ok settings) (leaf : Leaf) :
    leaf.IsSet settings (leaf.find? fields) ∧
      ∀ value, Fields.get? fields leaf.field = some value → leaf.Fits value := by
  obtain ⟨json, quiet, verbose, logJson, input, output⟩ := takes_of_ofFields passed
  cases leaf with
  | jsonOutput => exact isSet_of_plain rfl json
  | quiet => exact isSet_of_plain rfl quiet
  | verbose => exact isSet_of_plain rfl verbose
  | logJson => exact isSet_of_plain rfl logJson
  | commentMark =>
    obtain ⟨⟨absent, standard⟩ | ⟨inner, found, checked⟩, fits⟩ :=
      isSet_of_part .commentMark rfl input
    · exact ⟨by simp [Leaf.IsSet, Takes, absent, standard], fits⟩
    · exact ⟨found ▸ (inputRules_of_ofFields checked).1, fits⟩
  | skipBlank =>
    obtain ⟨⟨absent, standard⟩ | ⟨inner, found, checked⟩, fits⟩ :=
      isSet_of_part .skipBlank rfl input
    · exact ⟨by simp [Leaf.IsSet, Takes, absent, standard], fits⟩
    · exact ⟨found ▸ (inputRules_of_ofFields checked).2, fits⟩
  | showSkipped =>
    obtain ⟨⟨absent, standard⟩ | ⟨inner, found, checked⟩, fits⟩ :=
      isSet_of_part .showSkipped rfl output
    · exact ⟨by simp [Leaf.IsSet, Takes, absent, standard], fits⟩
    · exact ⟨found ▸ outputRules_of_ofFields checked, fits⟩

end Settings

end PolyIntake
