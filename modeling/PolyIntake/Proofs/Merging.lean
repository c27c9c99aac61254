/-
This file describes merged records. Under a name a merged record has what the
upper record has there, laid over what the lower one has: records are laid over
each other field by field, and any other value covers what is below it. Seen
leaf by leaf, and where sections are records, a value is found in the upper
record if it is there and else in the lower one. A section that is told in part
by the upper record keeps the other leaves of the lower one.
-/

import PolyIntake.Proofs.Leaves
import PolyIntake.Settings.Environment

namespace PolyIntake

namespace Settings

variable {base upper : Fields} {name : String}

/-! ### Values laid over each other -/

/-- What comes of a value, or of none, that is laid over another one. -/
def overlay (lower upper : Option Value) : Option Value :=
  match upper with
  | some value => some (mergeValue lower value)
  | none => lower

theorem mergeValue_of_kind_ne_record (lower : Option Value) {value : Value}
    (plain : value.kind ≠ .record) : mergeValue lower value = value := by
  cases value with
  | record fields => exact absurd rfl plain
  | _ => rw [mergeValue]; simp

theorem mergeValue_record_record (below above : Fields) :
    mergeValue (some (.record below)) (.record above) = .record (merge below above) := by
  rw [mergeValue]

/-- A record over something else covers it. -/
theorem mergeValue_record {lower : Option Value} (other : ∀ below, lower ≠ some (.record below))
    (above : Fields) : mergeValue lower (.record above) = .record above := by
  rw [mergeValue]
  exact other

theorem kind_mergeValue (lower : Option Value) (value : Value) :
    (mergeValue lower value).kind = value.kind := by
  cases value with
  | record above =>
    by_cases both : ∃ below, lower = some (.record below)
    · obtain ⟨below, rfl⟩ := both
      rw [mergeValue_record_record]
      rfl
    · rw [mergeValue_record fun below same => both ⟨below, same⟩]
  | _ => rw [mergeValue_of_kind_ne_record lower (by rintro ⟨⟩)]

theorem overlay_none (upper : Option Value) : overlay none upper = upper := by
  cases upper with
  | none => rfl
  | some value =>
    cases value with
    | record above => exact congrArg some (mergeValue_record (by rintro _ ⟨⟩) above)
    | _ => exact congrArg some (mergeValue_of_kind_ne_record none (by rintro ⟨⟩))

/-- Where no record comes of it, the upper value covers the lower one. -/
theorem overlay_of_kind_ne_record {lower upper : Option Value}
    (plain : ∀ value, overlay lower upper = some value → value.kind ≠ .record) :
    overlay lower upper = upper.or lower := by
  cases upper with
  | none => rfl
  | some value =>
    have kind : value.kind ≠ .record := kind_mergeValue lower value ▸ plain _ rfl
    rw [overlay, mergeValue_of_kind_ne_record lower kind, Option.some_or]

/-! ### Merged records -/

theorem get?_merge_of_absent (absent : name ∉ upper.map Prod.fst) (base : Fields) :
    Fields.get? (merge base upper) name = Fields.get? base name := by
  induction upper generalizing base with
  | nil => rw [merge]
  | cons field rest inductionHypothesis =>
    rw [List.map_cons, List.mem_cons, not_or] at absent
    rw [merge, inductionHypothesis absent.2, Fields.get?_set_of_ne (Ne.symm absent.1)]

/-- Under each name the upper record is laid over the lower one. -/
theorem get?_merge (distinct : (upper.map Prod.fst).Nodup) (base : Fields) (name : String) :
    Fields.get? (merge base upper) name =
      overlay (Fields.get? base name) (Fields.get? upper name) := by
  induction upper generalizing base with
  | nil =>
    rw [merge]
    rfl
  | cons field rest inductionHypothesis =>
    rw [List.map_cons, List.nodup_cons] at distinct
    rw [merge, Fields.get?_cons]
    split
    case isTrue same =>
      rw [← same, get?_merge_of_absent distinct.1, Fields.get?_set_self]
      rfl
    case isFalse other =>
      rw [inductionHypothesis distinct.2, Fields.get?_set_of_ne other]

/-- Fields that are merged into others with none of their names are put behind them. -/
theorem merge_eq_append (distinct : ((base ++ upper).map Prod.fst).Nodup) :
    merge base upper = base ++ upper := by
  induction upper generalizing base with
  | nil => rw [merge, List.append_nil]
  | cons field rest inductionHypothesis =>
    obtain ⟨name, value⟩ := field
    have absent : name ∉ base.map Prod.fst := by
      rw [List.map_append, List.nodup_append] at distinct
      exact fun member => distinct.2.2 name member name List.mem_cons_self rfl
    have placed : Fields.set base name (mergeValue (Fields.get? base name) value) =
        base ++ [(name, value)] := by
      rw [Fields.get?_eq_none_iff.mpr absent, Fields.set_of_absent absent]
      exact congrArg (fun value => base ++ [(name, value)])
        (Option.some.inj (overlay_none (some value)))
    rw [merge, placed, inductionHypothesis (by simpa using distinct), List.append_assoc]
    rfl

theorem nodup_merge (distinct : (base.map Prod.fst).Nodup) (upper : Fields) :
    ((merge base upper).map Prod.fst).Nodup := by
  induction upper generalizing base with
  | nil =>
    rw [merge]
    exact distinct
  | cons field rest inductionHypothesis =>
    rw [merge]
    exact inductionHypothesis (Fields.nodup_map_fst_set distinct _ _)

/-! ### Records in which no name occurs twice -/

/-- No name occurs twice in a record, nor in a section of it. -/
structure IsUnambiguous (fields : Fields) : Prop where
  names : (fields.map Prod.fst).Nodup
  parts : ∀ name inner, Fields.get? fields name = some (.record inner) →
    (inner.map Prod.fst).Nodup

theorem IsUnambiguous.merge (below : IsUnambiguous base) (above : IsUnambiguous upper) :
    IsUnambiguous (Settings.merge base upper) := by
  refine ⟨nodup_merge below.names upper, fun name inner found => ?_⟩
  rw [get?_merge above.names] at found
  cases covering : Fields.get? upper name with
  | none =>
    rw [covering] at found
    exact below.parts name inner found
  | some value =>
    rw [covering] at found
    have merged : mergeValue (Fields.get? base name) value = .record inner := Option.some.inj found
    have kind : value.kind = .record := by
      rw [← kind_mergeValue (Fields.get? base name), merged]
      rfl
    cases value with
    | record cover =>
      by_cases both : ∃ under, Fields.get? base name = some (.record under)
      · obtain ⟨under, told⟩ := both
        rw [told, mergeValue_record_record] at merged
        cases merged
        exact nodup_merge (below.parts name under told) _
      · rw [mergeValue_record fun under told => both ⟨under, told⟩] at merged
        cases merged
        exact above.parts name _ covering
    | _ => cases kind

/-! ### Merged records leaf by leaf -/

/-- The field of a leaf in an upper record has the right kind if it has in the merged record. -/
theorem fits_of_fits_merge {leaf : Leaf} (above : IsUnambiguous upper)
    (fits : ∀ value, Fields.get? (merge base upper) leaf.field = some value → leaf.Fits value) :
    ∀ value, Fields.get? upper leaf.field = some value → leaf.Fits value := by
  intro value told
  have merged := fits (mergeValue (Fields.get? base leaf.field) value)
    (by rw [get?_merge above.names, told]; rfl)
  unfold Leaf.Fits at merged ⊢
  rwa [kind_mergeValue] at merged

/-- At the place of a leaf the upper record is laid over the lower one, unless it tells something
of the wrong kind. -/
theorem find?_merge {leaf : Leaf} (above : IsUnambiguous upper)
    (fits : ∀ value, Fields.get? upper leaf.field = some value → leaf.Fits value) :
    leaf.find? (merge base upper) = overlay (leaf.find? base) (leaf.find? upper) := by
  have merged := get?_merge above.names base leaf.field
  cases inside : leaf.part? with
  | none =>
    rw [Leaf.find?_of_plain inside, Leaf.find?_of_plain inside, Leaf.find?_of_plain inside, merged]
  | some part =>
    cases told : Fields.get? upper leaf.field with
    | none =>
      rw [told] at merged
      rw [Leaf.find?_of_absent told, Leaf.find?, merged]
      rfl
    | some value =>
      have kind : value.kind = .record := (fits value told).mpr (by simp [inside])
      cases value with
      | record cover =>
        rw [Leaf.find?_of_record inside told]
        rw [told] at merged
        by_cases both : ∃ under, Fields.get? base leaf.field = some (.record under)
        · obtain ⟨under, below⟩ := both
          rw [below, overlay, mergeValue_record_record] at merged
          rw [Leaf.find?_of_record inside below, Leaf.find?_of_record inside merged,
            get?_merge (above.parts _ cover told)]
        · -- What is no record below is covered as a whole, and it told nothing about the leaf.
          rw [overlay, mergeValue_record fun under below => both ⟨under, below⟩] at merged
          have nothing : leaf.find? base = none := by
            rw [Leaf.find?, Option.bind_eq_none_iff]
            intro value below
            cases value with
            | record under => exact absurd ⟨under, below⟩ both
            | _ => simp [Leaf.inside?, inside]
          rw [Leaf.find?_of_record inside merged, nothing, overlay_none]
      | _ => cases kind

end Settings

end PolyIntake
