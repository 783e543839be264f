import Mathlib.Data.List.Nodup
import ReportSearch.Catalog.Mapping
import ReportSearch.Query.OfRules

/-!
# Well-formed fields

What holds of every field that a mapping declares, and with it of the choice of a variant: a field
of another type than `string` keeps its values in the root variant already, and a date field has a
date variant and a format.
-/

set_option autoImplicit false

namespace ReportSearch

def FieldType.rootKind : FieldType → VariantKind
  | string => .analyzed
  | keyword => .exact
  | boolean => .boolean
  | integer => .numeric
  | long => .numeric
  | double => .numeric
  | date => .date
  | nestedObject => .object

def NullValue.IsOf : NullValue → FieldType → Prop
  | .boolean _, type => type = .boolean
  | .integer _, type => type = .integer ∨ type = .long
  | .double _, type => type = .double
  | .text _, type => type = .string ∨ type = .keyword

/-- A variant below the root of a field: it has a name, which ends its path. -/
def Variant.IsBelow (field : String) (variant : Variant) : Prop :=
  ∃ name, variant.name = some name ∧ variant.path = field ++ "." ++ name

namespace Field

structure WellFormed (field : Field) : Prop where
  name_ne_empty : field.name ≠ ""
  name_no_blank : ∀ c ∈ field.name.toList, Text.isBlank c = false
  root_name : field.rootVariant.name = none
  root_path : field.rootVariant.path = field.name
  root_kind : field.rootVariant.kind = field.type.rootKind
  others_below : ∀ variant ∈ field.otherVariants, variant.IsBelow field.name
  others_not_object : ∀ variant ∈ field.otherVariants, variant.kind ≠ .object
  date_of_epoch : ∀ variant ∈ field.variants, variant.kind.isEpoch = true → field.type = .date
  paths_nodup : (field.variants.map Variant.path).Nodup
  dateFormats_iff : field.dateFormats ≠ [] ↔ field.type = .date
  object_of_open : field.isOpenEnded = true → field.type = .nestedObject
  nullValue_isOf : ∀ value, field.nullValue = some value → value.IsOf field.type

end Field

/-- The fields have distinct names and are well-formed, and those shown by default are the ones
that the mapping lists. -/
structure Mapping.WellFormed (mapping : Mapping) : Prop where
  names_nodup : (mapping.fields.map Field.name).Nodup
  fields : ∀ field ∈ mapping.fields, field.WellFormed
  isDefaultColumn_iff : ∀ field ∈ mapping.fields,
    field.isDefaultColumn = true ↔ field.name ∈ mapping.defaultColumns
  defaultColumns_declared : ∀ name ∈ mapping.defaultColumns, ∃ field ∈ mapping.fields,
    field.name = name

@[simp] theorem FieldType.isEpoch_rootKind (type : FieldType) : type.rootKind.isEpoch = false := by
  cases type <;> rfl

namespace Field.WellFormed

variable {field : Field}

theorem root_not_epoch (hf : field.WellFormed) : field.rootVariant.kind.isEpoch = false := by
  rw [hf.root_kind, FieldType.isEpoch_rootKind]

/-- A path belongs to one variant of a field. -/
theorem eq_of_path_eq (hf : field.WellFormed) {a b : Variant} (ha : a ∈ field.variants)
    (hb : b ∈ field.variants) (h : a.path = b.path) : a = b :=
  List.inj_on_of_nodup_map hf.paths_nodup ha hb h

theorem epochVariant?_eq_some (hf : field.WellFormed) {variant : Variant}
    (h : field.epochVariant? = some variant) :
    field.type = .date ∧ ∃ unit, variant.kind = .epoch unit := by
  unfold epochVariant? at h
  have hepoch := List.find?_some h
  refine ⟨hf.date_of_epoch variant (List.mem_of_find?_eq_some h) hepoch, ?_⟩
  cases hkind : variant.kind with
  | epoch unit => exact ⟨unit, rfl⟩
  | _ =>
    rw [hkind] at hepoch
    cases hepoch

theorem dateVariant?_eq (hf : field.WellFormed) (ht : field.type = .date) :
    field.dateVariant? = some field.rootVariant := by
  have hk : field.rootVariant.kind = .date := by rw [hf.root_kind, ht]; rfl
  simp [dateVariant?, variants, hk]

theorem verbatimVariant?_eq (hf : field.WellFormed) (hk : field.type.rootKind.isVerbatim = true) :
    field.verbatimVariant? = some field.rootVariant := by
  simp [verbatimVariant?, variants, hf.root_kind, hk]

end Field.WellFormed

end ReportSearch
