/-
This file describes what the variables of an environment tell about the leaves
of the settings. A switch has one variable. A leaf in a section has a variable
of its own, and it may be told by the document that a variable holds for the
whole section; its own variable goes before the document. Names of variables,
and the names in a document, may be written with small and capital letters.

It is said of each leaf what is told about it where no two names agree up to
their letters. Variables that reach for something behind a leaf are left out, as
no leaf has anything there.
-/

import PolyIntake.Proofs.Spellings

namespace PolyIntake

namespace Settings

/-! ### Variables -/

/-- An environment has a variable with a text. The name is the one in small letters. -/
def HasVariable (environment : Environment) (name text : String) : Prop :=
  ∃ written, (written, text) ∈ environment ∧ small written = name

/-- No two variables have the same name in small letters. -/
def IsDistinct (environment : Environment) : Prop :=
  (environment.map fun entry => small entry.1).Nodup

variable {environment : Environment}

/-- What is found under a small name is the text of a variable. -/
theorem exists_of_get?_smallNames {name : String} {value : Value}
    (found : Fields.get? (smallNames environment) name = some value) :
    ∃ text, value = .string text ∧ HasVariable environment name text := by
  rw [smallNames, Fields.get?_ofList] at found
  have member := List.mem_reverse.mp (Fields.mem_of_get? found)
  obtain ⟨⟨written, text⟩, entry, same⟩ := List.mem_map.mp member
  cases same
  exact ⟨text, rfl, written, entry, rfl⟩

/-- Where no two variables have the same small name, each one is found. -/
theorem get?_smallNames_of_hasVariable (distinct : IsDistinct environment) {name text : String}
    (has : HasVariable environment name text) :
    Fields.get? (smallNames environment) name = some (.string text) := by
  obtain ⟨written, entry, rfl⟩ := has
  have names : ((environment.map fun entry => (small entry.1, Value.string entry.2)).reverse.map
      Prod.fst).Nodup := by
    rw [List.map_reverse, List.nodup_reverse, List.map_map]
    exact distinct
  rw [smallNames, Fields.get?_ofList]
  exact Fields.get?_of_mem names (List.mem_reverse.mpr (List.mem_map.mpr ⟨_, entry, rfl⟩))

theorem isSmall_smallNames (environment : Environment) :
    ∀ entry ∈ smallNames environment, IsSmall entry.1 := by
  intro entry member
  have found := Fields.get?_of_mem (Fields.nodup_ofList _) member
  obtain ⟨-, -, written, -, same⟩ := exists_of_get?_smallNames found
  exact same ▸ isSmall_small written

theorem get?_smallNames_of_absent {name : String}
    (absent : ∀ text, ¬ HasVariable environment name text) :
    Fields.get? (smallNames environment) name = none := by
  refine Option.eq_none_iff_forall_ne_some.mpr fun value found => ?_
  obtain ⟨text, -, has⟩ := exists_of_get?_smallNames found
  exact absent text has

/-! ### Paths of names -/

theorem splitAtDelimiter_ne_nil (text : List Char) : splitAtDelimiter text ≠ [] := by
  fun_cases splitAtDelimiter text <;> simp [*]

/-- The first piece of a text is all of it, or the delimiter stands behind it. -/
theorem splitAtDelimiter_eq_cons {text piece : List Char} {more : List (List Char)}
    (pieces : splitAtDelimiter text = piece :: more) :
    (more = [] ∧ text = piece) ∨ (more ≠ [] ∧ ∃ rest, text = piece ++ '_' :: '_' :: rest) := by
  fun_induction splitAtDelimiter text generalizing piece more with
  | case1 =>
    cases pieces
    exact Or.inl ⟨rfl, rfl⟩
  | case2 rest =>
    cases pieces
    exact Or.inr ⟨splitAtDelimiter_ne_nil rest, rest, rfl⟩
  | case3 char rest _ none inductionHypothesis => exact absurd none (splitAtDelimiter_ne_nil rest)
  | case4 char rest _ first more' some inductionHypothesis =>
    cases pieces
    rcases inductionHypothesis some with ⟨last, rfl⟩ | ⟨further, behind, rfl⟩
    · exact Or.inl ⟨last, rfl⟩
    · exact Or.inr ⟨further, behind, rfl⟩

/-! ### Fields behind paths -/

variable {fields : Fields}

/-- A value behind a path is set where the path begins, or the path ends there at something that is
no record and nothing is set. -/
theorem setBehind_cons (value : Value) (first : String) (more : List String) (fields : Fields) :
    (more = [] ∧ setBehind value (first :: more) fields = Fields.set fields first value) ∨
      (more ≠ [] ∧ (setBehind value (first :: more) fields = fields ∨
        (∀ told, Fields.get? fields first = some told → told.kind = .record) ∧
          ∃ inner, setBehind value (first :: more) fields =
            Fields.set fields first (.record inner))) := by
  cases more with
  | nil => exact Or.inl ⟨rfl, rfl⟩
  | cons next path =>
    refine Or.inr ⟨List.cons_ne_nil _ _, ?_⟩
    cases found : Fields.get? fields first with
    | none => exact Or.inr ⟨by simp, _, by rw [setBehind, found]⟩
    | some told =>
      cases told with
      | record inner => exact Or.inr ⟨by rintro _ ⟨⟩; rfl, _, by rw [setBehind, found]⟩
      | _ => exact Or.inl (by rw [setBehind, found])

/-- What becomes of the fields of a section with one more variable: nothing new, the field that the
variable is for, or a record if it reaches for something behind a field. -/
theorem enterVariable_cases (front : String) (fields : Fields) (entry : String × Value) :
    enterVariable front fields entry = fields ∨
      (∃ part, entry.1 = front ++ part ∧
        enterVariable front fields entry = Fields.set fields part entry.2) ∨
      ∃ part rest inner, entry.1 = front ++ part ++ delimiter ++ rest ∧
        (∀ told, Fields.get? fields part = some told → told.kind = .record) ∧
        enterVariable front fields entry = Fields.set fields part (.record inner) := by
  unfold enterVariable
  split
  case isFalse => exact Or.inl rfl
  case isTrue begins =>
    obtain ⟨rest, whole⟩ := List.isPrefixOf_iff_prefix.mp begins
    have dropped : entry.1.toList.drop front.length = rest := by
      rw [← whole, ← String.length_toList, List.drop_left]
    rw [dropped]
    cases pieces : splitAtDelimiter rest with
    | nil => exact absurd pieces (splitAtDelimiter_ne_nil rest)
    | cons first more =>
      rcases setBehind_cons entry.2 (String.ofList first) (more.map String.ofList) fields with
        ⟨last, result⟩ | ⟨further, result | ⟨record, inner, result⟩⟩
      · rcases splitAtDelimiter_eq_cons pieces with ⟨-, same⟩ | ⟨further, -⟩
        · refine Or.inr (Or.inl ⟨String.ofList first, ?_, result⟩)
          rw [← String.toList_inj, String.toList_append, String.toList_ofList, ← same, whole]
        · exact absurd (List.map_eq_nil_iff.mp last) further
      · exact Or.inl result
      · rcases splitAtDelimiter_eq_cons pieces with ⟨last, -⟩ | ⟨-, behind, same⟩
        · exact absurd (by rw [last, List.map_nil]) further
        · refine Or.inr (Or.inr
            ⟨String.ofList first, String.ofList behind, inner, ?_, record, result⟩)
          simp [← String.toList_inj, ← whole, same, delimiter]

theorem enterVariable_own {front part : String}
    (single : splitAtDelimiter part.toList = [part.toList])
    (fields : Fields) (value : Value) :
    enterVariable front fields (front ++ part, value) = Fields.set fields part value := by
  have begins : front.toList.isPrefixOf (front ++ part).toList = true :=
    List.isPrefixOf_iff_prefix.mpr ⟨part.toList, String.toList_append.symm⟩
  have dropped : (front ++ part).toList.drop front.length = part.toList := by
    rw [String.toList_append, ← String.length_toList, List.drop_left]
  rw [enterVariable, if_pos begins, dropped, single]
  simp [setBehind]

/-! ### Fields with variables of their own -/

section OwnFields

variable {front part : String} {entry : String × Value}

/-- A variable for another field leaves a text as it is, even if it reaches for something behind
it. -/
theorem get?_enterVariable_of_text {text : String} (other : entry.1 ≠ front ++ part)
    (told : Fields.get? fields part = some (.string text)) :
    Fields.get? (enterVariable front fields entry) part = some (.string text) := by
  rcases enterVariable_cases front fields entry with
    same | ⟨part', named, entered⟩ | ⟨part', rest, inner, -, record, entered⟩
  · rw [same, told]
  · have different : part' ≠ part := fun same => other (same ▸ named)
    rw [entered, Fields.get?_set_of_ne different, told]
  · have different : part' ≠ part := by
      rintro rfl
      cases record _ told
    rw [entered, Fields.get?_set_of_ne different, told]

/-- A variable that is not for a field and reaches for nothing behind it leaves the field as it
is. -/
theorem get?_enterVariable_of_ne (other : entry.1 ≠ front ++ part)
    (before : ∀ rest, entry.1 ≠ front ++ part ++ delimiter ++ rest) :
    Fields.get? (enterVariable front fields entry) part = Fields.get? fields part := by
  rcases enterVariable_cases front fields entry with
    same | ⟨part', named, entered⟩ | ⟨part', rest, inner, named, -, entered⟩
  · rw [same]
  · have different : part' ≠ part := fun same => other (same ▸ named)
    rw [entered, Fields.get?_set_of_ne different]
  · have different : part' ≠ part := fun same => before rest (same ▸ named)
    rw [entered, Fields.get?_set_of_ne different]

variable {bindings : Fields} {name : String}

/-- A field that has a variable of its own has its text, whatever else is told. -/
theorem get?_ownFields_of_own {text : String} (distinct : (bindings.map Prod.fst).Nodup)
    (single : splitAtDelimiter part.toList = [part.toList])
    (own : (sectionPrefix name ++ part, Value.string text) ∈ bindings) :
    Fields.get? (ownFields bindings name) part = some (.string text) := by
  -- Whatever was entered before it, its own variable sets the field, and none behind it does again.
  obtain ⟨before, behind, rfl⟩ := List.append_of_mem own
  rw [List.map_append, List.nodup_append, List.map_cons, List.nodup_cons] at distinct
  obtain ⟨-, ⟨absent, -⟩, -⟩ := distinct
  rw [ownFields, List.foldl_append, List.foldl_cons, enterVariable_own single]
  refine List.foldlRecOn
    (motive := fun fields : Fields => Fields.get? fields part = some (.string text)) behind _
    (Fields.get?_set_self ..) fun fields told entry member => ?_
  exact get?_enterVariable_of_text
    (fun same => absent (same ▸ List.mem_map.mpr ⟨entry, member, rfl⟩)) told

/-- A field with no variable of its own, and none that reaches behind it, has nothing. -/
theorem get?_ownFields_of_absent
    (absent : ∀ entry ∈ bindings, entry.1 ≠ sectionPrefix name ++ part ∧
      ∀ rest, entry.1 ≠ sectionPrefix name ++ part ++ delimiter ++ rest) :
    Fields.get? (ownFields bindings name) part = none := by
  refine List.foldlRecOn (motive := fun fields : Fields => Fields.get? fields part = none)
    bindings _ (Fields.get?_nil part) fun fields untold entry member => ?_
  rw [get?_enterVariable_of_ne (absent entry member).1 (absent entry member).2, untold]

/-- The fields of a section that have variables of their own have each one name, without capital
letters. -/
theorem names_ownFields (small : ∀ entry ∈ bindings, IsSmall entry.1) (name : String) :
    ((ownFields bindings name).map Prod.fst).Nodup ∧
      ∀ part ∈ (ownFields bindings name).map Prod.fst, IsSmall part := by
  refine List.foldlRecOn (motive := fun fields : Fields => (fields.map Prod.fst).Nodup ∧
    ∀ part ∈ fields.map Prod.fst, IsSmall part) bindings _ ⟨List.nodup_nil, by simp⟩ ?_
  rintro fields ⟨distinct, smallNames⟩ entry member
  have setSmall : ∀ part value, IsSmall part →
      ((Fields.set fields part value).map Prod.fst).Nodup ∧
        ∀ name ∈ (Fields.set fields part value).map Prod.fst, IsSmall name := by
    intro part value isSmall
    refine ⟨Fields.nodup_map_fst_set distinct _ _, fun name named => ?_⟩
    rcases Fields.mem_map_fst_set named with rfl | named
    · exact isSmall
    · exact smallNames name named
  rcases enterVariable_cases (sectionPrefix name) fields entry with
    same | ⟨part, named, entered⟩ | ⟨part, rest, inner, named, -, entered⟩
  · rw [same]
    exact ⟨distinct, smallNames⟩
  · rw [entered]
    exact setSmall part _ (isSmall_of_append_right (named ▸ small entry member))
  · rw [entered]
    have front := isSmall_of_append_left (isSmall_of_append_left (named ▸ small entry member))
    exact setSmall part _ (isSmall_of_append_right front)

end OwnFields

/-! ### Fields from an environment -/

/-- The record of one field, or of none. -/
def fieldOf (name : String) : Option Value → Fields
  | some value => [(name, value)]
  | none => []

/-- A record that is put together of at most one field for each name has for a name what was put
there. -/
theorem get?_flatten_of_mapM {field : String → Except String Fields}
    (single : ∀ name fields, field name = .ok fields → ∃ value?, fields = fieldOf name value?)
    {names : List String} (distinct : names.Nodup) {parts : List Fields}
    (read : names.mapM field = .ok parts) :
    (parts.flatten.map Prod.fst).Nodup ∧ (∀ name ∈ parts.flatten.map Prod.fst, name ∈ names) ∧
      ∀ name ∈ names, field name = .ok (fieldOf name (Fields.get? parts.flatten name)) := by
  induction names generalizing parts with
  | nil =>
    cases read
    simp
  | cons name names inductionHypothesis =>
    rw [List.nodup_cons] at distinct
    rw [List.mapM_cons] at read
    obtain ⟨fields, first, read⟩ := bind_eq_ok_iff.mp read
    obtain ⟨rest, others, read⟩ := bind_eq_ok_iff.mp read
    cases read
    obtain ⟨unlike, within, found⟩ := inductionHypothesis distinct.2 others
    obtain ⟨value?, rfl⟩ := single name fields first
    have absent : name ∉ rest.flatten.map Prod.fst := fun member => distinct.1 (within name member)
    have later : ∀ other ∈ names, Fields.get? (fieldOf name value? :: rest).flatten other =
        Fields.get? rest.flatten other := by
      intro other member
      have different : name ≠ other := fun same => distinct.1 (same ▸ member)
      cases value? with
      | none => rfl
      | some value => exact Fields.get?_cons_of_ne different _
    have here : Fields.get? (fieldOf name value? :: rest).flatten name = value? := by
      cases value? with
      | none => exact Fields.get?_eq_none_iff.mpr absent
      | some value => exact Fields.get?_cons_self ..
    refine ⟨?_, ?_, List.forall_mem_cons.mpr ⟨by rw [here, first], fun other member => ?_⟩⟩
    · cases value? with
      | none => exact unlike
      | some value => exact List.nodup_cons.mpr ⟨absent, unlike⟩
    · intro other member
      cases value? with
      | none => exact List.mem_cons_of_mem _ (within other member)
      | some value => exact List.mem_cons.mpr ((List.mem_cons.mp member).imp_right (within other))
    · rw [later other member]
      exact found other member

theorem fieldOf_injective (name : String) : Function.Injective (fieldOf name) := by
  rintro (_ | value) (_ | value') same
  · rfl
  · cases same
  · cases same
  · cases same
    rfl

/-- What the variables say about a field: about a section by its variables, and about any other
field by the one of its name. -/
def fieldValue (bindings : Fields) (name : String) : Except String (Option Value) :=
  match sectionFields.lookup name with
  | some known => sectionValue bindings name known
  | none => .ok (Fields.get? bindings (variablePrefix ++ name))

theorem environmentField_eq (bindings : Fields) (name : String) :
    environmentField bindings name = (fieldValue bindings name).map (fieldOf name) := by
  unfold environmentField fieldValue
  cases sectionFields.lookup name with
  | some known =>
    refine congrArg (fun change => Except.map change (sectionValue bindings name known)) ?_
    funext value?
    cases value? <;> rfl
  | none => cases Fields.get? bindings (variablePrefix ++ name) <;> rfl

/-- An environment that can be read tells about each field what its variables say. -/
theorem fieldValue_of_ofEnvironment {told : Fields} (read : ofEnvironment environment = .ok told) :
    (told.map Prod.fst).Nodup ∧ (∀ name ∈ told.map Prod.fst, name ∈ fieldNames) ∧
      ∀ name ∈ fieldNames,
        fieldValue (smallNames environment) name = .ok (Fields.get? told name) := by
  obtain ⟨parts, parted, rfl⟩ := map_eq_ok_iff.mp read
  have single : ∀ name fields, environmentField (smallNames environment) name = .ok fields →
      ∃ value?, fields = fieldOf name value? := by
    intro name fields found
    rw [environmentField_eq] at found
    obtain ⟨value?, -, same⟩ := map_eq_ok_iff.mp found
    exact ⟨value?, same.symm⟩
  obtain ⟨distinct, within, found⟩ := get?_flatten_of_mapM single (by decide) parted
  refine ⟨distinct, within, fun name member => ?_⟩
  have told := found name member
  rw [environmentField_eq] at told
  obtain ⟨value?, said, same⟩ := map_eq_ok_iff.mp told
  rw [said, fieldOf_injective name same]

section SectionValue

variable {bindings : Fields} {name : String}

/-- A section without a variable for the whole of it is what the variables for its fields say. -/
theorem sectionValue_of_absent (untold : Fields.get? bindings (variablePrefix ++ name) = none)
    (known : List String) :
    sectionValue bindings name known = .ok (if (ownFields bindings name).isEmpty then none
      else some (.record (properNames known (ownFields bindings name)))) := by
  rw [sectionValue, untold]

/-- The variables for the fields of a section go before its document. -/
theorem sectionValue_of_document {text : String} {document : Fields}
    (told : Fields.get? bindings (variablePrefix ++ name) = some (.string text))
    (read : Json.parseWithin? (some Decimal.longest) text = some (.record document))
    (known : List String) :
    sectionValue bindings name known =
      .ok (some (.record (properNames known (merge document (ownFields bindings name))))) := by
  rw [sectionValue, told]
  dsimp only
  rw [read]

/-- Where the variable of a section holds no record, the variables for its fields count for
nothing. -/
theorem sectionValue_of_plain {text : String} {value : Value}
    (told : Fields.get? bindings (variablePrefix ++ name) = some (.string text))
    (read : Json.parseWithin? (some Decimal.longest) text = some value)
    (plain : value.kind ≠ .record) (known : List String) :
    ∃ value?, sectionValue bindings name known = .ok value? ∧
      ∀ value ∈ value?, value.kind ≠ .record := by
  rw [sectionValue, told]
  dsimp only
  rw [read]
  cases value with
  | null => exact ⟨none, rfl, by simp⟩
  | record => exact absurd rfl plain
  | _ => exact ⟨some _, rfl, by rintro _ ⟨⟩; exact plain⟩

/-- A section that is told to be a record is told one with proper names. -/
theorem exists_of_sectionValue_record {known : List String} {inner : Fields}
    (said : sectionValue bindings name known = .ok (some (.record inner))) :
    ∃ fields, inner = properNames known fields := by
  unfold sectionValue at said
  split at said
  case h_1 text _ =>
    split at said
    case h_1 => cases said
    case h_2 => cases said
    case h_3 fields _ =>
      cases said
      exact ⟨_, rfl⟩
    case h_4 value _ other _ =>
      cases said
      exact absurd rfl (other inner)
  case h_2 =>
    dsimp only at said
    split at said
    case isTrue => cases said
    case isFalse =>
      cases said
      exact ⟨_, rfl⟩

end SectionValue

/-- The environment has no name twice, and its sections have none. -/
theorem isUnambiguous_of_ofEnvironment {told : Fields}
    (read : ofEnvironment environment = .ok told) : IsUnambiguous told := by
  obtain ⟨distinct, within, found⟩ := fieldValue_of_ofEnvironment read
  refine ⟨distinct, fun name inner isRecord => ?_⟩
  have member : name ∈ told.map Prod.fst :=
    List.mem_map.mpr ⟨_, Fields.mem_of_get? isRecord, rfl⟩
  have said := found name (within name member)
  rw [isRecord, fieldValue] at said
  split at said
  case h_1 known _ =>
    obtain ⟨fields, rfl⟩ := exists_of_sectionValue_record said
    exact Fields.nodup_ofList _
  case h_2 =>
    obtain ⟨text, same, -⟩ := exists_of_get?_smallNames (Except.ok.inj said)
    cases same

/-! ### Leaves in an environment -/

namespace Leaf

/-- The name of the variable of a leaf, in small letters. -/
def variableName (leaf : Leaf) : String :=
  match leaf.part? with
  | none => variablePrefix ++ leaf.field
  | some part => sectionPrefix leaf.field ++ part

/-- The environment has a text for the section that a leaf is in. -/
def HasSection (environment : Environment) (leaf : Leaf) (text : String) : Prop :=
  leaf.part?.isSome ∧ HasVariable environment (variablePrefix ++ leaf.field) text

/-- The record that a variable holds for the section of a leaf. It is empty where there is no such
variable, and has no two names that agree up to their letters. -/
inductive HasDocument (environment : Environment) (leaf : Leaf) : Fields → Prop where
  | absent (untold : ∀ text, ¬ leaf.HasSection environment text) : HasDocument environment leaf []
  | present {text : String} {document : Fields} (told : leaf.HasSection environment text)
      (read : Json.parseWithin? (some Decimal.longest) text = some (.record document))
      (distinct : (document.map fun field => small field.1).Nodup) :
      HasDocument environment leaf document

/-- What the environment tells about a leaf: the text of its own variable, else what the record for
its section has under its name. Where a variable holds something else for the section, nothing is
told about its leaves. -/
inductive IsTold (environment : Environment) (leaf : Leaf) : Option Value → Prop where
  | own {document : Fields} {text : String} (has : leaf.HasDocument environment document)
      (told : HasVariable environment leaf.variableName text) :
      IsTold environment leaf (some (.string text))
  | document {document : Fields} (has : leaf.HasDocument environment document)
      (untold : ∀ text, ¬ HasVariable environment leaf.variableName text)
      (before : ∀ rest text,
        ¬ HasVariable environment (leaf.variableName ++ delimiter ++ rest) text) :
      IsTold environment leaf (leaf.part?.bind fun part =>
        (document.find? fun field => small field.1 == part).map Prod.snd)
  | other {text : String} {value : Value} (told : leaf.HasSection environment text)
      (read : Json.parseWithin? (some Decimal.longest) text = some value)
      (plain : value.kind ≠ .record) : IsTold environment leaf none

end Leaf

variable {leaf : Leaf} {told : Fields}

/-- A section is told where its leaves are, and their names are small and single pieces. -/
theorem Leaf.lookup_of_part {part : String} (inSection : leaf.part? = some part) :
    ∃ known, sectionFields.lookup leaf.field = some known ∧ part ∈ known ∧ IsSmall part ∧
      splitAtDelimiter part.toList = [part.toList] := by
  cases leaf <;> cases inSection <;> exact ⟨_, rfl, by decide, by decide, by decide⟩

theorem Leaf.lookup_of_plain (plain : leaf.part? = none) :
    sectionFields.lookup leaf.field = none := by
  cases leaf <;> first | rfl | cases plain

theorem Leaf.field_mem (leaf : Leaf) : leaf.field ∈ fieldNames := by
  cases leaf <;> decide

theorem Leaf.inside?_record {part : String} (inSection : leaf.part? = some part) (inner : Fields) :
    leaf.inside? (.record inner) = Fields.get? inner part := by
  rw [Leaf.inside?, inSection]

/-- The fields of a section with variables of their own are merged into its document. -/
theorem sectionValue_of_hasDocument (distinct : IsDistinct environment) {part : String}
    (inSection : leaf.part? = some part) {document : Fields}
    (has : leaf.HasDocument environment document) (known : List String) :
    ∃ value?, sectionValue (smallNames environment) leaf.field known = .ok value? ∧
      value?.bind leaf.inside? = Fields.get? (properNames known
        (merge document (ownFields (smallNames environment) leaf.field))) part := by
  cases has with
  | absent untold =>
    have nothing : Fields.get? (smallNames environment) (variablePrefix ++ leaf.field) = none :=
      get?_smallNames_of_absent fun text told => untold text ⟨by rw [inSection]; rfl, told⟩
    have names := (names_ownFields (isSmall_smallNames environment) leaf.field).1
    refine ⟨_, sectionValue_of_absent nothing known, ?_⟩
    have alone : merge [] (ownFields (smallNames environment) leaf.field) =
        ownFields (smallNames environment) leaf.field := merge_eq_append names
    rw [alone]
    split
    case isTrue empty =>
      rw [List.isEmpty_iff.mp empty]
      rfl
    case isFalse => exact Leaf.inside?_record inSection _
  | present told read _ =>
    refine ⟨_,
      sectionValue_of_document (get?_smallNames_of_hasVariable distinct told.2) read known, ?_⟩
    exact Leaf.inside?_record inSection _

/-- What the environment tells about a leaf in a section is what the document of the section and
the variable of the leaf make of it. -/
theorem find?_of_hasDocument (distinct : IsDistinct environment)
    (read : ofEnvironment environment = .ok told) {part : String}
    (inSection : leaf.part? = some part) {document : Fields}
    (has : leaf.HasDocument environment document) :
    leaf.find? told = (spellings (merge document (ownFields (smallNames environment) leaf.field))
      part).getLast?.map Prod.snd := by
  obtain ⟨known, isSection, isKnown, isSmall, -⟩ := Leaf.lookup_of_part inSection
  obtain ⟨value?, said, inside⟩ := sectionValue_of_hasDocument distinct inSection has known
  have found := (fieldValue_of_ofEnvironment read).2.2 leaf.field leaf.field_mem
  rw [fieldValue, isSection] at found
  rw [Leaf.find?, ← Except.ok.inj (said.symm.trans found), inside,
    get?_properNames isKnown isSmall]

theorem Leaf.HasDocument.distinct {document : Fields}
    (has : leaf.HasDocument environment document) :
    (document.map fun field => small field.1).Nodup := by
  cases has with
  | absent => exact List.nodup_nil
  | present _ _ distinct => exact distinct

/-- A leaf that is no part of a section is told by the variable of its name. -/
theorem find?_of_plain_of_ofEnvironment (read : ofEnvironment environment = .ok told)
    (plain : leaf.part? = none) :
    leaf.find? told = Fields.get? (smallNames environment) leaf.variableName := by
  have found := (fieldValue_of_ofEnvironment read).2.2 leaf.field leaf.field_mem
  rw [fieldValue, Leaf.lookup_of_plain plain] at found
  rw [Leaf.find?_of_plain plain, Leaf.variableName, plain]
  exact (Except.ok.inj found).symm

/-- The variable of a leaf in a section goes before the document of the section. -/
theorem find?_of_own (distinct : IsDistinct environment)
    (read : ofEnvironment environment = .ok told) {document : Fields}
    (has : leaf.HasDocument environment document) {text : String}
    (own : HasVariable environment leaf.variableName text) :
    leaf.find? told = some (.string text) := by
  have bound := get?_smallNames_of_hasVariable distinct own
  cases inSection : leaf.part? with
  | none => rw [find?_of_plain_of_ofEnvironment read inSection, bound]
  | some part =>
    obtain ⟨-, -, -, -, single⟩ := Leaf.lookup_of_part inSection
    obtain ⟨names, small⟩ := names_ownFields (isSmall_smallNames environment) leaf.field
    rw [Leaf.variableName, inSection] at bound
    rw [find?_of_hasDocument distinct read inSection has]
    exact getLast?_spellings_merge small names (length_spellings_le has.distinct part)
      (get?_ownFields_of_own (Fields.nodup_ofList _) single (Fields.mem_of_get? bound))

/-- A leaf without a variable of its own is told by the document of its section. -/
theorem find?_of_document (distinct : IsDistinct environment)
    (read : ofEnvironment environment = .ok told) {document : Fields}
    (has : leaf.HasDocument environment document)
    (untold : ∀ text, ¬ HasVariable environment leaf.variableName text)
    (before : ∀ rest text,
      ¬ HasVariable environment (leaf.variableName ++ delimiter ++ rest) text) :
    leaf.find? told = leaf.part?.bind fun part =>
      (document.find? fun field => small field.1 == part).map Prod.snd := by
  cases inSection : leaf.part? with
  | none =>
    rw [find?_of_plain_of_ofEnvironment read inSection, get?_smallNames_of_absent untold]
    rfl
  | some part =>
    have small := (names_ownFields (isSmall_smallNames environment) leaf.field).2
    have named : leaf.variableName = sectionPrefix leaf.field ++ part := by
      rw [Leaf.variableName, inSection]
    rw [named] at untold before
    have absent : part ∉ (ownFields (smallNames environment) leaf.field).map Prod.fst := by
      refine Fields.get?_eq_none_iff.mp (get?_ownFields_of_absent fun entry member => ?_)
      have found := Fields.get?_of_mem (Fields.nodup_ofList _) member
      obtain ⟨text, -, told⟩ := exists_of_get?_smallNames found
      exact ⟨fun same => untold text (same ▸ told), fun rest same => before rest text (same ▸ told)⟩
    rw [find?_of_hasDocument distinct read inSection has, spellings_merge_of_absent small absent,
      getLast?_spellings (length_spellings_le has.distinct part)]
    rfl

/-- Where the variable of a section holds no record, nothing is told about its leaves. -/
theorem find?_of_other (distinct : IsDistinct environment)
    (read : ofEnvironment environment = .ok told) {text : String} {value : Value}
    (sectionTold : leaf.HasSection environment text)
    (document : Json.parseWithin? (some Decimal.longest) text = some value)
    (plain : value.kind ≠ .record) : leaf.find? told = none := by
  obtain ⟨part, inSection⟩ := Option.isSome_iff_exists.mp sectionTold.1
  obtain ⟨known, isSection, -⟩ := Leaf.lookup_of_part inSection
  obtain ⟨value?, said, other⟩ := sectionValue_of_plain
    (get?_smallNames_of_hasVariable distinct sectionTold.2) document plain known
  have found := (fieldValue_of_ofEnvironment read).2.2 leaf.field leaf.field_mem
  rw [fieldValue, isSection] at found
  rw [Leaf.find?, ← Except.ok.inj (said.symm.trans found), Option.bind_eq_none_iff]
  intro value isValue
  have kind := other value isValue
  cases value with
  | record => exact absurd rfl kind
  | _ => rw [Leaf.inside?, inSection]

/-- An environment that can be read tells about each leaf what its variables tell. -/
theorem find?_of_isTold (distinct : IsDistinct environment)
    (read : ofEnvironment environment = .ok told) {value? : Option Value}
    (isTold : leaf.IsTold environment value?) : leaf.find? told = value? := by
  cases isTold with
  | own has own => exact find?_of_own distinct read has own
  | document has untold before => exact find?_of_document distinct read has untold before
  | other told document plain => exact find?_of_other distinct read told document plain

end Settings

end PolyIntake
