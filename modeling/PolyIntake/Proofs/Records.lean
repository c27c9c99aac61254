/-
This file describes records by what is found in them under each name. Setting a
field changes what is found under its name and nothing else; a field that is set
again, or set back, leaves no trace of what it had in between. In a record that
is made of a list of fields the last field of each name is found.
-/

import PolyIntake.Value

namespace PolyIntake

namespace Fields

variable {fields : Fields} {name : String} {value : Value}

/-! ### Looking a field up -/

theorem get?_nil (name : String) : get? [] name = none :=
  rfl

theorem get?_cons (field : String × Value) (rest : Fields) (name : String) :
    get? (field :: rest) name = if field.1 = name then some field.2 else get? rest name := by
  unfold get?
  rw [List.find?_cons]
  by_cases same : field.1 = name
  · rw [if_pos same, beq_iff_eq.mpr same]
    rfl
  · rw [if_neg same, beq_eq_false_iff_ne.mpr same]

theorem get?_cons_self (name : String) (value : Value) (rest : Fields) :
    get? ((name, value) :: rest) name = some value := by
  rw [get?_cons, if_pos rfl]

theorem get?_cons_of_ne {field : String × Value} (other : field.1 ≠ name) (rest : Fields) :
    get? (field :: rest) name = get? rest name := by
  rw [get?_cons, if_neg other]

theorem get?_append (first second : Fields) (name : String) :
    get? (first ++ second) name = (get? first name).or (get? second name) := by
  induction first with
  | nil => rfl
  | cons field rest inductionHypothesis =>
    rw [List.cons_append, get?_cons, get?_cons, inductionHypothesis]
    split <;> rfl

theorem get?_eq_none_iff : get? fields name = none ↔ name ∉ fields.map Prod.fst := by
  induction fields with
  | nil => simp [get?_nil]
  | cons field rest inductionHypothesis =>
    rw [get?_cons, List.map_cons, List.mem_cons]
    by_cases same : field.1 = name
    · simp [same]
    · simp [same, inductionHypothesis, Ne.symm same]

theorem mem_of_get? (found : get? fields name = some value) : (name, value) ∈ fields := by
  induction fields with
  | nil => cases found
  | cons field rest inductionHypothesis =>
    rw [get?_cons] at found
    split at found
    case isTrue same =>
      cases found
      rw [← same]
      exact List.mem_cons_self
    case isFalse => exact List.mem_cons_of_mem _ (inductionHypothesis found)

/-- Where a name occurs once, its field is the one that is found. -/
theorem get?_of_mem (distinct : (fields.map Prod.fst).Nodup) (member : (name, value) ∈ fields) :
    get? fields name = some value := by
  induction fields with
  | nil => cases member
  | cons field rest inductionHypothesis =>
    rw [List.map_cons, List.nodup_cons] at distinct
    rcases List.mem_cons.mp member with rfl | later
    · exact get?_cons_self ..
    · have other : field.1 ≠ name := by
        rintro rfl
        exact distinct.1 (List.mem_map.mpr ⟨_, later, rfl⟩)
      rw [get?_cons_of_ne other, inductionHypothesis distinct.2 later]

/-- A record with a value for some of a list of names. -/
theorem get?_filterMap (names : List String) (value? : String → Option Value) (name : String) :
    get? (names.filterMap fun name => (value? name).map fun value => (name, value)) name =
      if name ∈ names then value? name else none := by
  induction names with
  | nil => rfl
  | cons first rest inductionHypothesis =>
    by_cases same : first = name
    · subst same
      cases told : value? first with
      | none => simp [told, inductionHypothesis]
      | some value => simp [told, get?_cons_self]
    · cases told : value? first with
      | none => simp [told, inductionHypothesis, Ne.symm same]
      | some value => simp [told, get?_cons_of_ne, inductionHypothesis, same, Ne.symm same]

/-! ### Setting a field -/

theorem get?_set (fields : Fields) (name : String) (value : Value) (name' : String) :
    get? (set fields name value) name' =
      if name = name' then some value else get? fields name' := by
  induction fields with
  | nil => rw [set, get?_cons]
  | cons field rest inductionHypothesis =>
    rw [set]
    split
    case isTrue found =>
      rw [beq_iff_eq] at found
      rw [get?_cons, get?_cons, found]
      split <;> rfl
    case isFalse other =>
      rw [beq_iff_eq] at other
      rw [get?_cons, get?_cons, inductionHypothesis]
      by_cases same : field.1 = name'
      · rw [if_pos same, if_pos same, if_neg (same ▸ Ne.symm other)]
      · rw [if_neg same, if_neg same]

theorem get?_set_self (fields : Fields) (name : String) (value : Value) :
    get? (set fields name value) name = some value := by
  rw [get?_set, if_pos rfl]

theorem get?_set_of_ne {name' : String} (other : name ≠ name') (fields : Fields) (value : Value) :
    get? (set fields name value) name' = get? fields name' := by
  rw [get?_set, if_neg other]

/-- Of two values that a field is set to one after the other the second counts. -/
theorem set_set (fields : Fields) (name : String) (first second : Value) :
    set (set fields name first) name second = set fields name second := by
  induction fields with
  | nil => simp [set]
  | cons field rest inductionHypothesis =>
    by_cases same : field.1 = name
    · simp [set, same]
    · simp [set, same, inductionHypothesis]

theorem set_of_get? (found : get? fields name = some value) : set fields name value = fields := by
  induction fields with
  | nil => cases found
  | cons field rest inductionHypothesis =>
    rw [get?_cons] at found
    split at found
    case isTrue same =>
      cases found
      simp [set, ← same]
    case isFalse other =>
      simp [set, other, inductionHypothesis found]

theorem set_of_absent (absent : name ∉ fields.map Prod.fst) (value : Value) :
    set fields name value = fields ++ [(name, value)] := by
  induction fields with
  | nil => rfl
  | cons field rest inductionHypothesis =>
    rw [List.map_cons, List.mem_cons, not_or] at absent
    have other : ¬ field.1 == name := by
      rw [beq_iff_eq]
      exact Ne.symm absent.1
    rw [set, if_neg other, inductionHypothesis absent.2, List.cons_append]

/-- Erasing a field that was set takes it back, where there was none of its name before. -/
theorem erase_set (absent : get? fields name = none) (value : Value) :
    erase (set fields name value) name = fields := by
  induction fields with
  | nil => simp [set, erase]
  | cons field rest inductionHypothesis =>
    rw [get?_cons] at absent
    split at absent
    case isTrue => cases absent
    case isFalse other =>
      have erased := inductionHypothesis absent
      unfold erase at erased ⊢
      simp [set, other, erased]

/-! ### Names of fields -/

theorem map_fst_set (fields : Fields) (name : String) (value : Value) :
    (set fields name value).map Prod.fst =
      if name ∈ fields.map Prod.fst then fields.map Prod.fst
      else fields.map Prod.fst ++ [name] := by
  induction fields with
  | nil => simp [set]
  | cons field rest inductionHypothesis =>
    by_cases same : field.1 = name
    · simp [set, same]
    · simp only [set, same, beq_iff_eq, if_false, List.map_cons, inductionHypothesis,
        List.mem_cons, Ne.symm same, false_or]
      split <;> rfl

theorem mem_map_fst_set {name' : String}
    (named : name' ∈ (set fields name value).map Prod.fst) :
    name' = name ∨ name' ∈ fields.map Prod.fst := by
  rw [map_fst_set] at named
  split at named
  case isTrue => exact Or.inr named
  case isFalse =>
    rcases List.mem_append.mp named with old | new
    · exact Or.inr old
    · exact Or.inl (List.mem_singleton.mp new)

/-- Setting a field keeps names distinct. -/
theorem nodup_map_fst_set (distinct : (fields.map Prod.fst).Nodup) (name : String) (value : Value) :
    ((set fields name value).map Prod.fst).Nodup := by
  rw [map_fst_set]
  split
  case isTrue => exact distinct
  case isFalse absent =>
    refine List.nodup_append.mpr ⟨distinct, List.pairwise_singleton _ _, ?_⟩
    rintro _ member _ last rfl
    exact absent (List.mem_singleton.mp last ▸ member)

theorem map_fst_filterMap (names : List String) (value? : String → Option Value) :
    (names.filterMap fun name => (value? name).map fun value => (name, value)).map Prod.fst =
      names.filter fun name => (value? name).isSome := by
  induction names with
  | nil => rfl
  | cons first rest inductionHypothesis =>
    cases told : value? first <;> simp [told, inductionHypothesis]

/-! ### Records of lists -/

theorem get?_foldl_set (entries : List (String × Value)) (fields : Fields) (name : String) :
    get? (entries.foldl (fun fields entry => set fields entry.1 entry.2) fields) name =
      (get? entries.reverse name).or (get? fields name) := by
  induction entries generalizing fields with
  | nil => rfl
  | cons entry rest inductionHypothesis =>
    rw [List.foldl_cons, inductionHypothesis, get?_set, List.reverse_cons, get?_append, get?_cons,
      get?_nil, Option.or_assoc]
    by_cases same : entry.1 = name
    · rw [if_pos same, if_pos same, Option.some_or]
    · rw [if_neg same, if_neg same, Option.none_or]

/-- In the record of a list of fields the last field of a name is found. -/
theorem get?_ofList (entries : List (String × Value)) (name : String) :
    get? (ofList entries) name = get? entries.reverse name := by
  rw [ofList, get?_foldl_set, get?_nil, Option.or_none]

theorem nodup_ofList (entries : List (String × Value)) :
    ((ofList entries).map Prod.fst).Nodup := by
  have folded : ∀ fields : Fields, (fields.map Prod.fst).Nodup →
      ((entries.foldl (fun fields entry => set fields entry.1 entry.2) fields).map
        Prod.fst).Nodup := by
    induction entries with
    | nil => exact fun _ distinct => distinct
    | cons entry rest inductionHypothesis =>
      exact fun fields distinct => inductionHypothesis _ (nodup_map_fst_set distinct _ _)
  exact folded [] List.nodup_nil

end Fields

end PolyIntake
