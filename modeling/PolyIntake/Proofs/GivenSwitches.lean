/-
This file describes the settings with which a command line is carried out. A
leaf in a section has what the environment tells about it, else what the
configuration file does, else its standard value. The switches are another
matter: those in front of the command are flags whether they are given or not,
so that each has the value that says whether it was given, and neither the
environment nor the configuration file counts. They have the value that the
order of the sources asks for just where they are given, or where the first
source that tells anything tells them to be off.
-/

import PolyIntake.CommandLine
import PolyIntake.Proofs.Precedence

namespace PolyIntake

namespace CommandLine

open Checked Settings

/-! ### Settings of a call -/

/-- The request for the settings of a call. -/
def request (call : Call) (reading : Reading) : Request where
  surroundings := call.surroundings
  named := reading.text? .config
  flags := flags reading

/-- The general switches of a call are read, and the settings load. -/
structure Loads (call : Call) (reading : Reading) (settings : Settings) : Prop where
  reads : read generalSwitches false call.arguments = .ok reading
  loads : (request call reading).alone = .ok settings

variable {call : Call} {reading : Reading} {settings : Settings}

/-- A call whose settings load goes on with them. -/
theorem Loads.withSettings (loaded : Loads call reading settings) (next : Settings → Response) :
    CommandLine.withSettings call reading next = next settings := by
  have loads : load call.surroundings (reading.text? .config) none (flags reading) = .ok settings :=
    loaded.loads
  rw [CommandLine.withSettings, loads]

/-! ### Switches as flags -/

/-- The general switch for a leaf, if there is one. -/
def meaning? : Leaf → Option Meaning
  | .jsonOutput => some .json
  | .quiet => some .quiet
  | .verbose => some .verbose
  | .logJson => some .logJson
  | _ => none

/-- What a switch tells about a leaf if it is given. -/
def given? (reading : Reading) (leaf : Leaf) : Option Value :=
  (meaning? leaf).bind fun meaning => if reading.has meaning then some (.bool true) else none

theorem isUnambiguous_flags (reading : Reading) : IsUnambiguous (flags reading) := by
  have names : (flags reading).map Prod.fst = ["json_output", "quiet", "verbose", "log_json"] := rfl
  refine ⟨by rw [names]; decide, fun name inner found => ?_⟩
  have member := Fields.mem_of_get? found
  simp [flags] at member

/-- Each general switch is a flag, whether it is given or not, and there are no other flags. -/
theorem flag?_flags (reading : Reading) (leaf : Leaf) :
    leaf.flag? (flags reading) =
      (meaning? leaf).map fun meaning => .bool (reading.has meaning) := by
  have small : ∀ flag ∈ flags reading, IsSmall flag.1 := by
    have all : ∀ name ∈ ["json_output", "quiet", "verbose", "log_json"], IsSmall name := by decide
    exact fun flag member => all flag.1 (List.mem_map_of_mem (f := Prod.fst) member)
  rw [Leaf.flag?_of_isSmall small]
  cases leaf <;> rfl

/-- What a call whose settings load tells about a leaf: a switch is told whether it is given, and
about any other leaf the environment and the configuration file tell. -/
theorem isSet_of_loads {told stored : Fields}
    (tells : (request call reading).Tells told stored settings) (leaf : Leaf) :
    leaf.IsSet settings (match meaning? leaf with
      | some meaning => some (.bool (reading.has meaning))
      | none => (leaf.find? told).or (leaf.find? stored)) := by
  have isSet := tells.leaves leaf
  have flagged : leaf.flag? (request call reading).flags = _ := flag?_flags reading leaf
  rw [flagged] at isSet
  cases told : meaning? leaf with
  | none => simpa [told] using isSet
  | some meaning => simpa [told] using isSet

/-- A leaf with a general switch has no value but whether the switch is given. -/
theorem isSet_iff_of_meaning {leaf : Leaf} {meaning : Meaning}
    (isSwitch : meaning? leaf = some meaning)
    (isSet : leaf.IsSet settings (some (.bool (reading.has meaning)))) (value? : Option Value) :
    leaf.IsSet settings value? ↔ Takes Value.asTruth false value? (reading.has meaning) := by
  cases leaf <;> cases isSwitch <;> rw [Leaf.IsSet, ← Except.ok.inj isSet]

/-- A leaf follows the order of the sources just where it has no general switch, or its switch is
given, or the environment and the configuration file tell the switch to be off. -/
theorem isSet_given_iff {told stored : Fields}
    (tells : (request call reading).Tells told stored settings) (leaf : Leaf) :
    leaf.IsSet settings ((given? reading leaf).or ((leaf.find? told).or (leaf.find? stored))) ↔
      ∀ meaning, meaning? leaf = some meaning → reading.has meaning = true ∨
        Takes Value.asTruth false ((leaf.find? told).or (leaf.find? stored)) false := by
  have isSet := isSet_of_loads tells leaf
  cases isSwitch : meaning? leaf with
  | none =>
    rw [isSwitch] at isSet
    have nothing : given? reading leaf = none := by rw [given?, isSwitch]; rfl
    rw [nothing, Option.none_or]
    exact iff_of_true isSet (by rintro _ ⟨⟩)
  | some meaning =>
    rw [isSwitch] at isSet
    rw [isSet_iff_of_meaning isSwitch isSet, given?, isSwitch, Option.bind_some]
    cases given : reading.has meaning with
    | true => exact iff_of_true rfl fun _ same => Or.inl (Option.some.inj same ▸ given)
    | false =>
      constructor
      · exact fun takes _ _ => Or.inr takes
      · intro holds
        rcases holds meaning rfl with on | takes
        · cases given.symm.trans on
        · exact takes

/-- The settings of a call: the switches are as they are given on the command line and the other
leaves are as the environment and the configuration file tell. -/
theorem switches_as_given (distinct : IsDistinct call.surroundings.environment)
    (loaded : Loads call reading settings) :
    ∃ told stored, (request call reading).Tells told stored settings ∧
      (settings.jsonOutput = reading.has .json ∧ settings.quiet = reading.has .quiet ∧
        settings.verbose = reading.has .verbose ∧ settings.logJson = reading.has .logJson) ∧
      (∀ leaf, meaning? leaf = none →
        leaf.IsSet settings ((leaf.find? told).or (leaf.find? stored))) ∧
      ∀ leaf, leaf.IsSet settings
          ((given? reading leaf).or ((leaf.find? told).or (leaf.find? stored))) ↔
        ∀ meaning, meaning? leaf = some meaning → reading.has meaning = true ∨
          Takes Value.asTruth false ((leaf.find? told).or (leaf.find? stored)) false := by
  obtain ⟨told, stored, tells⟩ := Request.exists_tells (request call reading) distinct
    (isUnambiguous_flags reading) loaded.loads
  have isSet := isSet_of_loads tells
  refine ⟨told, stored, tells, ⟨?_, ?_, ?_, ?_⟩, fun leaf other => ?_, isSet_given_iff tells⟩
  · exact (Except.ok.inj (isSet .jsonOutput)).symm
  · exact (Except.ok.inj (isSet .quiet)).symm
  · exact (Except.ok.inj (isSet .verbose)).symm
  · exact (Except.ok.inj (isSet .logJson)).symm
  · have told := isSet leaf
    rwa [other] at told

/-- A call without switches in an environment that tells to be quiet. -/
def quietEnvironment : Call where
  program := "polycalc"
  arguments := ["parse"]
  input := []
  surroundings :=
    { environment := [("POLYCALC_QUIET", "true")], folder := "/", look := fun _ => .missing }
  timestamp := ""

/-- Its settings are not quiet. -/
theorem quietEnvironment_loads : Loads quietEnvironment ⟨[], ["parse"]⟩ {} := by
  have told : ofEnvironment quietEnvironment.surroundings.environment =
      .ok [("quiet", .string "true")] := rfl
  refine ⟨rfl, load_eq_ok_iff.mpr ⟨none, ?_, [], rfl, _, told, ?_⟩⟩
  · cbv
  · cbv

theorem isDistinct_quietEnvironment : IsDistinct quietEnvironment.surroundings.environment :=
  List.nodup_singleton _

/-- Its variable is told about being quiet. -/
theorem find?_quietEnvironment {told stored : Fields} {settings : Settings}
    (tells : (request quietEnvironment ⟨[], ["parse"]⟩).Tells told stored settings) :
    Leaf.find? .quiet told = some (.string "true") := by
  refine tells.bound .quiet _ (.own (.absent ?_) ⟨"POLYCALC_QUIET", ?_, ?_⟩)
  · rintro text ⟨inSection, -⟩
    cases inSection
  · exact List.mem_cons_self
  · decide

theorem switches_as_given_quietEnvironment :
    ∃ told stored, (request quietEnvironment ⟨[], ["parse"]⟩).Tells told stored {} ∧
      Leaf.find? .quiet told = some (.string "true") := by
  obtain ⟨told, stored, tells, -⟩ :=
    switches_as_given isDistinct_quietEnvironment quietEnvironment_loads
  exact ⟨told, stored, tells, find?_quietEnvironment tells⟩

/-- An environment that tells to be quiet is not followed where no switch is given, so that the
settings of a call need not follow the order of the sources. -/
theorem not_follows_environment :
    ¬ ∀ (call : Call) (reading : Reading) (settings : Settings) (told stored : Fields),
      IsDistinct call.surroundings.environment → Loads call reading settings →
        (request call reading).Tells told stored settings →
          ∀ leaf : Leaf, leaf.IsSet settings
            ((given? reading leaf).or ((leaf.find? told).or (leaf.find? stored))) := by
  intro follows
  obtain ⟨told, stored, tells⟩ := Request.exists_tells (request quietEnvironment ⟨[], ["parse"]⟩)
    isDistinct_quietEnvironment (isUnambiguous_flags _) quietEnvironment_loads.loads
  have isSet := follows quietEnvironment ⟨[], ["parse"]⟩ {} told stored isDistinct_quietEnvironment
    quietEnvironment_loads tells .quiet
  rw [find?_quietEnvironment tells] at isSet
  have quiet : Value.asTruth (.string "true") = .ok false := isSet
  have truth : Value.asTruth (.string "true") = .ok true := by decide
  cases quiet.symm.trans truth

end CommandLine

end PolyIntake
