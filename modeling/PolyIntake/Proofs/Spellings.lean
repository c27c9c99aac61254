/-
This file describes names that may be written with small and capital letters.
A known name is found in a record under any spelling, and of several spellings
the last one counts. Where a field with small letters is merged into a record,
it comes to be the last spelling of its name, and other names keep theirs.
-/

import Mathlib.Data.List.Nodup
import PolyIntake.Proofs.Merging

namespace PolyIntake

namespace Settings

/-! ### Small names -/

/-- A capital letter of ASCII, or the Kelvin sign. -/
def IsCapital (char : Char) : Prop :=
  char = '\u212A' ∨ 'A' ≤ char ∧ char ≤ 'Z'
  deriving Decidable

theorem smallLetter_of_not_isCapital {char : Char} (notCapital : ¬ IsCapital char) :
    smallLetter char = char := by
  obtain ⟨notKelvin, notLetter⟩ := not_or.mp notCapital
  rw [smallLetter, if_neg notKelvin]
  exact dif_neg notLetter

theorem not_isCapital_smallLetter (char : Char) : ¬ IsCapital (smallLetter char) := by
  unfold smallLetter
  split
  case isTrue => decide
  case isFalse notKelvin =>
    change ¬ IsCapital (dite _ _ _)
    split
    case isTrue letter =>
      obtain ⟨least, most⟩ := letter
      have most' : char.val.toNat ≤ 90 := most
      have moved : (char.val + ('a'.val - 'A'.val)).toNat = char.val.toNat + 32 := by
        have step : ('a'.val - 'A'.val).toNat = 32 := rfl
        rw [UInt32.toNat_add]
        omega
      have least' : 65 ≤ char.val.toNat := least
      rintro (kelvin | ⟨-, capital⟩)
      · have value : char.val.toNat + 32 = 0x212A :=
          moved ▸ congrArg (fun char : Char => char.val.toNat) kelvin
        omega
      · have value : (char.val + ('a'.val - 'A'.val)).toNat ≤ 90 := capital
        omega
    case isFalse notLetter => exact not_or.mpr ⟨notKelvin, notLetter⟩

/-- A name without capital letters. -/
def IsSmall (name : String) : Prop :=
  ∀ char ∈ name.toList, ¬ IsCapital char

theorem small_of_isSmall {name : String} (isSmall : IsSmall name) : small name = name := by
  have same : name.toList.map smallLetter = name.toList.map id :=
    List.map_congr_left fun char member => smallLetter_of_not_isCapital (isSmall char member)
  rw [small, same, List.map_id, String.ofList_toList]

theorem isSmall_small (name : String) : IsSmall (small name) := by
  intro char member
  rw [small, String.toList_ofList, List.mem_map] at member
  obtain ⟨letter, -, rfl⟩ := member
  exact not_isCapital_smallLetter letter

instance (name : String) : Decidable (IsSmall name) :=
  decidable_of_iff (small name = name) ⟨fun same => same ▸ isSmall_small name, small_of_isSmall⟩

theorem isSmall_of_append_left {first second : String} (isSmall : IsSmall (first ++ second)) :
    IsSmall first :=
  fun char member =>
    isSmall char (by rw [String.toList_append]; exact List.mem_append_left _ member)

theorem isSmall_of_append_right {first second : String} (isSmall : IsSmall (first ++ second)) :
    IsSmall second :=
  fun char member =>
    isSmall char (by rw [String.toList_append]; exact List.mem_append_right _ member)

/-! ### Spellings in a record -/

/-- The fields of a record whose names are spellings of a name. -/
def spellings (fields : Fields) (part : String) : Fields :=
  fields.filter fun field => small field.1 == part

/-- Of several spellings of a known name the last one is found. -/
theorem get?_properNames {known : List String} {part : String} (isKnown : part ∈ known)
    (isSmall : IsSmall part) (fields : Fields) :
    Fields.get? (properNames known fields) part =
      (spellings fields part).getLast?.map Prod.snd := by
  have spelled : ∀ field : String × Value,
      ((known.find? fun name => name == small field.1).getD field.1 == part) =
        (small field.1 == part) := by
    intro field
    rw [Bool.eq_iff_iff, beq_iff_eq, beq_iff_eq]
    cases found : known.find? fun name => name == small field.1 with
    | some name =>
      have same : name = small field.1 := by simpa using List.find?_some found
      rw [Option.getD_some, same]
    | none =>
      have unknown := List.find?_eq_none.mp found part isKnown
      rw [beq_iff_eq] at unknown
      rw [Option.getD_none]
      refine ⟨fun same => absurd ?_ unknown, fun same => absurd same.symm unknown⟩
      rw [same, small_of_isSmall isSmall]
  rw [properNames, Fields.get?_ofList, Fields.get?, ← List.map_reverse, List.find?_map,
    spellings, ← List.head?_reverse, ← List.filter_reverse, List.head?_filter, Option.map_map]
  simp only [Function.comp_def, spelled]

theorem spellings_set (fields : Fields) (name : String) (value : Value) (part : String) :
    spellings (Fields.set fields name value) part =
      if small name = part then Fields.set (spellings fields part) name value
      else spellings fields part := by
  induction fields with
  | nil => by_cases same : small name = part <;> simp [spellings, Fields.set, same]
  | cons field rest inductionHypothesis =>
    unfold spellings at inductionHypothesis ⊢
    by_cases found : field.1 = name
    · by_cases same : small name = part <;> simp [Fields.set, found, same]
    · by_cases spelled : small field.1 = part <;> by_cases same : small name = part <;>
        simp_all [Fields.set]

variable {fields base upper : Fields} {part : String}

/-- Where no two names agree up to their letters, a name has at most one spelling. -/
theorem length_spellings_le (distinct : (fields.map fun field => small field.1).Nodup)
    (part : String) : (spellings fields part).length ≤ 1 := by
  have counted := List.nodup_iff_count_le_one.mp distinct part
  rwa [List.count, List.countP_map, List.countP_eq_length_filter] at counted

theorem getLast?_spellings (once : (spellings fields part).length ≤ 1) :
    (spellings fields part).getLast? = fields.find? fun field => small field.1 == part := by
  rw [← List.head?_filter]
  change (spellings fields part).getLast? = (spellings fields part).head?
  match spellings fields part, once with
  | [], _ => rfl
  | [spelling], _ => rfl

theorem getLast?_set (once : fields.length ≤ 1) (name : String) (value : Value) :
    (Fields.set fields name value).getLast? = some (name, value) := by
  match fields, once with
  | [], _ => rfl
  | [field], _ => by_cases same : field.1 = name <;> simp [Fields.set, same]

/-- Merging other names into a record keeps the spellings of a name. -/
theorem spellings_merge_of_absent (small : ∀ name ∈ upper.map Prod.fst, IsSmall name)
    (absent : part ∉ upper.map Prod.fst) (base : Fields) :
    spellings (merge base upper) part = spellings base part := by
  induction upper generalizing base with
  | nil => rw [merge]
  | cons field rest inductionHypothesis =>
    rw [List.map_cons, List.forall_mem_cons] at small
    rw [List.map_cons, List.mem_cons, not_or] at absent
    rw [merge, inductionHypothesis small.2 absent.2, spellings_set, small_of_isSmall small.1,
      if_neg (Ne.symm absent.1)]

/-- A name that is merged into a record where it has at most one spelling comes to be its last
spelling. -/
theorem getLast?_spellings_merge (small : ∀ name ∈ upper.map Prod.fst, IsSmall name)
    (distinct : (upper.map Prod.fst).Nodup) (once : (spellings base part).length ≤ 1)
    {text : String} (told : Fields.get? upper part = some (.string text)) :
    (spellings (merge base upper) part).getLast?.map Prod.snd = some (.string text) := by
  induction upper generalizing base with
  | nil => cases told
  | cons field rest inductionHypothesis =>
    rw [List.map_cons, List.forall_mem_cons] at small
    rw [List.map_cons, List.nodup_cons] at distinct
    rw [Fields.get?_cons] at told
    rw [merge]
    split at told
    case isTrue same =>
      obtain ⟨name, value⟩ := field
      cases told
      cases same
      -- Behind this field no other one has its name, so the spellings stay as it leaves them.
      rw [spellings_merge_of_absent small.2 distinct.1, spellings_set, small_of_isSmall small.1,
        if_pos rfl, mergeValue_of_kind_ne_record _ (by rintro ⟨⟩)]
      rw [getLast?_set once, Option.map_some]
    case isFalse other =>
      refine inductionHypothesis small.2 distinct.2 ?_ told
      rwa [spellings_set, small_of_isSmall small.1, if_neg other]

end Settings

end PolyIntake
