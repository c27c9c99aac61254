/-
This file describes where settings come from. A leaf of loaded settings has what
the first source tells that tells anything about it: the flags of the caller,
the environment, or the configuration file; where none does it has its standard
value. This holds leaf by leaf, so that a section which one source tells in part
keeps what the sources behind it tell about its other leaves.

How settings load does not depend on what was loaded before, even where that
failed: nothing remains handed over from one load to the next.
-/

import Mathlib
import PolyIntake.Proofs.Variables
import PolyIntake.Settings.Loading

namespace PolyIntake

namespace Settings

/-! ### Flags -/

/-- What the flags of a caller tell about a leaf. -/
def Leaf.flag? (leaf : Leaf) (flags : Fields) : Option Value :=
  ((flags.find? fun flag => small flag.1 == leaf.field).map Prod.snd).bind leaf.inside?

theorem isSmall_of_mem_fieldNames {name : String} (isKnown : name ∈ fieldNames) : IsSmall name := by
  have all : ∀ name ∈ fieldNames, IsSmall name := by decide
  exact all name isKnown

variable {flags : Fields}

theorem Leaf.flag?_of_isSmall {flags : Fields} (small : ∀ flag ∈ flags, IsSmall flag.1)
    (leaf : Leaf) : leaf.flag? flags = leaf.find? flags := by
  have same : (flags.find? fun flag => Settings.small flag.1 == leaf.field) =
      flags.find? fun flag => flag.1 == leaf.field := by
    rw [← List.head?_filter, ← List.head?_filter]
    refine congrArg List.head? (List.filter_congr fun flag member => ?_)
    rw [small_of_isSmall (small flag member)]
  rw [Leaf.flag?, same]
  rfl

/-- Flags for no field are found under none of the names of fields. -/
theorem get?_filter_unknown {name : String} (isKnown : name ∈ fieldNames) (flags : Fields) :
    Fields.get? (flags.filter fun flag => !fieldNames.contains (small flag.1)) name = none := by
  refine Fields.get?_eq_none_iff.mpr fun member => ?_
  obtain ⟨flag, kept, rfl⟩ := List.mem_map.mp member
  have unknown := (List.mem_filter.mp kept).2
  rw [small_of_isSmall (isSmall_of_mem_fieldNames isKnown)] at unknown
  simp [isKnown] at unknown

/-- A known flag is found under its proper name, whatever letters it is written with. -/
theorem get?_properFlags {name : String} (isKnown : name ∈ fieldNames) (flags : Fields) :
    Fields.get? (properFlags flags) name =
      (flags.find? fun flag => small flag.1 == name).map Prod.snd := by
  have known := Fields.get?_filterMap fieldNames
    (fun name => (flags.find? fun flag => small flag.1 == name).map Prod.snd) name
  simp only [Option.map_map, Function.comp_def, if_pos isKnown] at known
  rw [properFlags, Fields.get?_append, known, get?_filter_unknown isKnown, Option.or_none]

theorem find?_properFlags (leaf : Leaf) (flags : Fields) :
    leaf.find? (properFlags flags) = leaf.flag? flags := by
  rw [Leaf.find?, get?_properFlags leaf.field_mem]
  rfl

theorem fst_fileFlag (file : Option String) : (fileFlag file).1 = "config_path" := by
  cases file <;> rfl

/-- Under their proper names the flags with the configuration file have each name once. -/
theorem nodup_properFlags (unambiguous : IsUnambiguous flags) (file : Option String) :
    ((properFlags (fileFlag file :: flags)).map Prod.fst).Nodup := by
  have known := Fields.map_fst_filterMap fieldNames fun name =>
    ((fileFlag file :: flags).find? fun flag => small flag.1 == name).map Prod.snd
  simp only [Option.map_map, Function.comp_def] at known
  have unknown : (fileFlag file :: flags).filter (fun flag => !fieldNames.contains (small flag.1)) =
      flags.filter fun flag => !fieldNames.contains (small flag.1) := by
    have isKnown : fieldNames.contains (small (fileFlag file).1) = true := by
      rw [fst_fileFlag]
      decide
    rw [List.filter_cons_of_neg (by rw [isKnown]; decide)]
  rw [properFlags, unknown, List.map_append, known]
  refine List.nodup_append.mpr ⟨List.Nodup.filter _ (by decide), ?_, ?_⟩
  · exact (List.filter_sublist.map Prod.fst).nodup unambiguous.names
  · rintro name member _ other rfl
    have isKnown := (List.mem_filter.mp member).1
    exact Fields.get?_eq_none_iff.mp (get?_filter_unknown isKnown flags) other

/-- What stands under the proper names of the flags is a flag of the caller, or the configuration
file. -/
theorem exists_of_mem_properFlags {name : String} {value : Value}
    (member : (name, value) ∈ properFlags flags) : ∃ written, (written, value) ∈ flags := by
  rcases List.mem_append.mp member with known | unknown
  · obtain ⟨name', -, found⟩ := List.mem_filterMap.mp known
    obtain ⟨flag, isFlag, same⟩ := Option.map_eq_some_iff.mp found
    cases same
    exact ⟨flag.1, List.mem_of_find?_eq_some isFlag⟩
  · exact ⟨name, (List.mem_filter.mp unknown).1⟩

/-- The flags with the configuration file are unambiguous under their proper names. -/
theorem isUnambiguous_properFlags (unambiguous : IsUnambiguous flags) (file : Option String) :
    IsUnambiguous (properFlags (fileFlag file :: flags)) := by
  refine ⟨nodup_properFlags unambiguous file, fun name inner found => ?_⟩
  obtain ⟨written, member⟩ := exists_of_mem_properFlags (Fields.mem_of_get? found)
  rcases List.mem_cons.mp member with isFile | isFlag
  · cases file <;> cases isFile
  · exact unambiguous.parts written inner (Fields.get?_of_mem unambiguous.names isFlag)

/-- The flag for the configuration file tells nothing about a leaf. -/
theorem flag?_fileFlag (leaf : Leaf) (file : Option String) (flags : Fields) :
    leaf.flag? (fileFlag file :: flags) = leaf.flag? flags := by
  have other : (small (fileFlag file).1 == leaf.field) = false := by
    rw [fst_fileFlag]
    cases leaf <;> decide
  rw [Leaf.flag?, List.find?_cons, other]
  rfl

/-! ### Sources of a leaf -/

variable {settings : Settings} {stored told : Fields}

/-- A leaf of settings that are made of three records has what the first of them tells. -/
theorem isSet_of_ofFields_merge (middle : IsUnambiguous told) (first : IsUnambiguous flags)
    (passed : ofFields (merge stored (merge told flags)) = .ok settings) (leaf : Leaf) :
    leaf.IsSet settings
      ((leaf.find? flags).or ((leaf.find? told).or (leaf.find? stored))) := by
  obtain ⟨isSet, fits⟩ := isSet_of_ofFields passed leaf
  have both := middle.merge first
  have fits' := fits_of_fits_merge both fits
  have outer : leaf.find? (merge stored (merge told flags)) =
      overlay (leaf.find? stored) (leaf.find? (merge told flags)) := find?_merge both fits'
  have inner : leaf.find? (merge told flags) =
      overlay (leaf.find? told) (leaf.find? flags) :=
    find?_merge first (fits_of_fits_merge first fits')
  -- A leaf is only set by what is no record, and so merging comes to covering at its place.
  have plain : ∀ value, overlay (leaf.find? stored) (leaf.find? (merge told flags)) = some value →
      value.kind ≠ .record := by
    intro value found
    rw [outer, found] at isSet
    exact isSet.kind_ne_record
  have plain' : ∀ value, overlay (leaf.find? told) (leaf.find? flags) = some value →
      value.kind ≠ .record := by
    intro value found
    have covered := plain (mergeValue (leaf.find? stored) value) (by rw [inner, found]; rfl)
    rwa [kind_mergeValue] at covered
  rw [outer, overlay_of_kind_ne_record plain, inner, overlay_of_kind_ne_record plain',
    Option.or_assoc] at isSet
  exact isSet

/-- Settings are made of what the chosen file holds, the environment and the flags, and of the
name of the file. -/
theorem load_eq (surroundings : Surroundings) (named start : Option String) (flags : Fields) :
    load surroundings named start flags = (do
      let file ← chooseFile surroundings named start
      let stored ← storedFields surroundings file
      let told ← (ofEnvironment surroundings.environment).mapError .invalidVariable
      (ofFields (merge stored (merge told (properFlags (fileFlag file :: flags))))).mapError
        .flawed) := by
  unfold load loadHanding
  cases chooseFile surroundings named start with
  | error error => rfl
  | ok file =>
    change gather surroundings file (fileFlag file :: flags) >>=
      (fun fields => (ofFields fields).mapError .flawed) = _
    simp only [gather, bind_assoc]
    rfl

/-- Settings that load are made of the configuration file, the environment and the flags. -/
theorem load_eq_ok_iff {surroundings : Surroundings} {named start : Option String} :
    load surroundings named start flags = .ok settings ↔
      ∃ file, chooseFile surroundings named start = .ok file ∧
        ∃ stored, storedFields surroundings file = .ok stored ∧
          ∃ told, ofEnvironment surroundings.environment = .ok told ∧
            ofFields (merge stored (merge told (properFlags (fileFlag file :: flags)))) =
              .ok settings := by
  simp only [load_eq, bind_eq_ok_iff, mapError_eq_ok_iff]

/-! ### Loading after other loads -/

/-- Settings that are asked for, with the surroundings in which they are. -/
structure Request where
  surroundings : Surroundings
  named : Option String := none
  start : Option String := none
  flags : Fields := []

namespace Request

/-- Loads the settings that are asked for. -/
def carryOut (request : Request) : Handing (Except LoadError Settings) :=
  loadHanding request.surroundings request.named request.start request.flags

/-- The settings that are asked for, loaded by themselves. -/
def alone (request : Request) : Except LoadError Settings :=
  load request.surroundings request.named request.start request.flags

/-- A load that nothing is handed to comes out as it does by itself, and hands nothing on. -/
theorem run_carryOut (request : Request) : request.carryOut.run none = (request.alone, none) := by
  unfold carryOut alone load loadHanding
  cases chooseFile request.surroundings request.named request.start <;> rfl

/-- Loads one after the other come out as they do by themselves. -/
theorem run_mapM_carryOut (requests : List Request) :
    (requests.mapM carryOut).run none = (requests.map alone, none) := by
  induction requests with
  | nil => rfl
  | cons request rest inductionHypothesis =>
    rw [List.mapM_cons, StateT.run_bind, run_carryOut]
    change StateT.run (do
      let others ← rest.mapM carryOut
      pure (request.alone :: others)) none = _
    rw [StateT.run_bind, inductionHypothesis]
    rfl

/-- What the three sources of a request tell: each leaf of the settings has what the first of them
tells about it. What the environment tells is what its variables do. -/
structure Tells (request : Request) (told stored : Fields) (settings : Settings) : Prop where
  environment : ofEnvironment request.surroundings.environment = .ok told
  bound : ∀ (leaf : Leaf) (value? : Option Value),
    leaf.IsTold request.surroundings.environment value? → leaf.find? told = value?
  file : ∃ file, chooseFile request.surroundings request.named request.start = .ok file ∧
    storedFields request.surroundings file = .ok stored
  leaves : ∀ leaf : Leaf, leaf.IsSet settings
    ((leaf.flag? request.flags).or ((leaf.find? told).or (leaf.find? stored)))

/-- Settings that load have sources that tell them. -/
theorem exists_tells (request : Request) (distinct : IsDistinct request.surroundings.environment)
    (unambiguous : IsUnambiguous request.flags) (loaded : request.alone = .ok settings) :
    ∃ told stored, request.Tells told stored settings := by
  obtain ⟨file, chosen, stored, isStored, told, isTold, passed⟩ := load_eq_ok_iff.mp loaded
  refine ⟨told, stored, isTold, fun leaf value? => find?_of_isTold distinct isTold,
    ⟨file, chosen, isStored⟩, ?_⟩
  intro leaf
  have isSet := isSet_of_ofFields_merge (isUnambiguous_of_ofEnvironment isTold)
    (isUnambiguous_properFlags unambiguous _) passed leaf
  rwa [find?_properFlags, flag?_fileFlag] at isSet

/-- Each leaf of loaded settings has what the flags, the environment or the configuration file
tells about it, the first of them that does, or its standard value, and no load depends on those
before it. -/
theorem loads_precedence (requests : List Request) :
    (requests.mapM carryOut).run none = (requests.map alone, none) ∧
      ∀ request ∈ requests, IsDistinct request.surroundings.environment →
        IsUnambiguous request.flags → ∀ settings, request.alone = .ok settings →
          ∃ told stored, request.Tells told stored settings :=
  ⟨run_mapM_carryOut requests, fun request _ distinct unambiguous _ loaded =>
    exists_tells request distinct unambiguous loaded⟩

/-- A request for settings with a section that the environment tells in part, and the configuration
file too. -/
def partlyTold : Request where
  surroundings :=
    { environment := [("POLYCALC_INPUT__SKIP_BLANK", "on")]
      folder := "/"
      look := fun _ =>
        .file (.ok
          ("[input]\nskip_blank=false\ncomment_prefix=''".toList.map fun c => c.val.toUInt8)) }
  flags := [("quiet", .bool true)]

theorem loads_precedence_partlyTold :
    IsDistinct partlyTold.surroundings.environment ∧ IsUnambiguous partlyTold.flags ∧
      ∃ settings, partlyTold.alone = .ok settings ∧
        settings.input = { commentMark := "", skipBlank := true } ∧
        ∃ told stored, partlyTold.Tells told stored settings := by
  have distinct : IsDistinct partlyTold.surroundings.environment := List.nodup_singleton _
  have unambiguous : IsUnambiguous partlyTold.flags := by
    refine ⟨List.nodup_singleton _, fun name inner found => ?_⟩
    cases List.mem_singleton.mp (Fields.mem_of_get? found)
  have chosen : chooseFile partlyTold.surroundings partlyTold.named partlyTold.start =
      .ok (some "/polycalc.toml") := by cbv
  have stored : storedFields partlyTold.surroundings (some "/polycalc.toml") = .ok
      [("input", .record [("skip_blank", .bool false), ("comment_prefix", .string "")])] := by cbv
  have told : ofEnvironment partlyTold.surroundings.environment =
      .ok [("input", .record [("skip_blank", .string "on")])] := rfl
  have loaded : partlyTold.alone = .ok
      { configPath := some "/polycalc.toml"
        quiet := true
        input := { commentMark := "", skipBlank := true } } :=
    load_eq_ok_iff.mpr ⟨_, chosen, _, stored, _, told, by cbv⟩
  exact ⟨distinct, unambiguous, _, loaded, rfl,
    (loads_precedence [partlyTold]).2 _ List.mem_cons_self distinct unambiguous _ loaded⟩

end Request

end Settings

end PolyIntake
