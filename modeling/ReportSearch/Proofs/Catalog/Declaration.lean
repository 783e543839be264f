import ReportSearch.Proofs.Attempts
import ReportSearch.Proofs.Catalog.WellFormed
import ReportSearch.Proofs.Json.Keys

/-!
# Declarations of fields

What the parts of a declaration come to when it is accepted: its kind and type, its formats, its
variants, and the field that they make up, in the modern form and in the older one. The one place
where the text of a mapping matters beyond its parts is the distinctness of keys, which keeps the
variants of a field apart.
-/

set_option autoImplicit false

namespace ReportSearch.Mapping

open Attempts Json

theorem isFieldName_iff {name : String} :
    isFieldName name = true ↔ name ≠ "" ∧ ∀ c ∈ name.toList, Text.isBlank c = false := by
  simp [isFieldName, Text.hasBlank]

theorem splitBars_ne_nil (cs : List Char) : DateFormat.splitBars cs ≠ [] := by
  fun_cases DateFormat.splitBars cs <;> simp

theorem dateFormatsOf_eq_ok {spec : Members} {formats : List DateFormat}
    (h : dateFormatsOf spec = .ok formats) : ∃ text, DateFormat.listOfText text = .ok formats := by
  unfold dateFormatsOf at h
  split at h
  · exact ⟨_, mapError_eq_ok_iff.mp h⟩
  · exact ⟨_, mapError_eq_ok_iff.mp h⟩
  · cases h

theorem dateFormatsOf_ne_nil {spec : Members} {formats : List DateFormat}
    (h : dateFormatsOf spec = .ok formats) : formats ≠ [] := by
  obtain ⟨text, htext⟩ := dateFormatsOf_eq_ok h
  have hlen := (mapM_eq_ok_iff.mp htext).length_eq
  intro hnil
  rw [hnil] at hlen
  exact splitBars_ne_nil _ (List.length_eq_zero_iff.mp hlen)

theorem dateKind_cases (isBelowDate : Bool) (formats : List DateFormat) :
    dateKind isBelowDate formats = .date ∨
      (isBelowDate = true ∧ ∃ unit, dateKind isBelowDate formats = .epoch unit) := by
  unfold dateKind
  split
  · rename_i hb
    split
    · exact .inr ⟨hb, .seconds, rfl⟩
    · exact .inr ⟨hb, .millis, rfl⟩
    · exact .inl rfl
  · exact .inl rfl

theorem of_ite_eq {α : Type} {c : Prop} [Decidable c] {x y z : α} {p : Prop} (hx : x = z → p)
    (hy : y = z → p) (h : (if c then x else y) = z) : p := by
  split at h
  · exact hx h
  · exact hy h

/-- A declaration is of the kind of its type, unless it counts units below a date field. -/
theorem classify_eq_ok {isBelowDate : Bool} {declared : String} {spec : Members}
    {kind : VariantKind} {type : FieldType}
    (h : classify isBelowDate declared spec = .ok (kind, type)) :
    kind = type.rootKind ∨ (isBelowDate = true ∧ ∃ unit, kind = .epoch unit) := by
  unfold classify at h
  revert h
  repeat' apply of_ite_eq
  all_goals intro h
  all_goals first
    | (cases h; done)
    | (cases h; exact .inl rfl)
    | skip
  -- What is left is the date, whose formats decide between text and number.
  obtain ⟨formats, _, heq⟩ := map_eq_ok_iff.mp h
  cases heq
  exact dateKind_cases isBelowDate formats

theorem classify_root {declared : String} {spec : Members} {kind : VariantKind} {type : FieldType}
    (h : classify false declared spec = .ok (kind, type)) : kind = type.rootKind := by
  rcases classify_eq_ok h with hk | ⟨hb, _⟩
  · exact hk
  · cases hb

/-- What holds of a variant that is declared below the root of a field. -/
structure Below (field : String) (type : FieldType) (name : String) (variant : Variant) : Prop where
  name_eq : variant.name = some name
  path_eq : variant.path = field ++ "." ++ name
  not_object : variant.kind ≠ .object
  date_of_epoch : variant.kind.isEpoch = true → type = .date

theorem variantOf_eq_ok {field name : String} {type : FieldType} {entry : Json} {variant : Variant}
    (h : variantOf field type name entry = .ok variant) : Below field type name variant := by
  unfold variantOf at h
  split at h
  · cases h
  · rename_i spec _
    split at h
    · cases h
    · rename_i declared _
      split at h
      · cases h
      · rename_i kind found hclass
        split at h
        · cases h
        · rename_i hobject
          cases h
          refine ⟨rfl, rfl, hobject, ?_⟩
          intro hepoch
          change kind.isEpoch = true at hepoch
          rcases classify_eq_ok hclass with hk | ⟨hdate, _⟩
          · rw [hk, FieldType.isEpoch_rootKind] at hepoch
            cases hepoch
          · exact of_decide_eq_true hdate

theorem variantsOf_eq_ok {field : String} {type : FieldType} {entries : Members}
    {variants : List Variant} (h : variantsOf field type entries = .ok variants) :
    List.Forall₂ (fun entry variant => Below field type entry.1 variant) entries variants :=
  (mapM_eq_ok_iff.mp h).imp fun _ _ hv => variantOf_eq_ok hv

theorem ne_append_dot (a b : String) : a ≠ a ++ "." ++ b := by
  intro h
  have hlen := congrArg String.length h
  have hdot : ".".length = 1 := rfl
  simp only [String.length_append] at hlen
  omega

/-- Variants that are declared under distinct names have distinct paths, all of them below the
path of the root. -/
theorem paths_nodup {field : String} {type : FieldType} {entries : Members} {root : Variant}
    {others : List Variant} (hkeys : (entries.map Prod.fst).Nodup) (hroot : root.path = field)
    (h : List.Forall₂ (fun entry variant => Below field type entry.1 variant) entries others) :
    ((root :: others).map Variant.path).Nodup := by
  have hpaths : others.map Variant.path = (entries.map Prod.fst).map (field ++ "." ++ ·) := by
    rw [List.map_map]
    exact map_eq_map h fun _ _ hv => hv.path_eq
  rw [List.map_cons, List.nodup_cons, hpaths, hroot]
  constructor
  · intro hmem
    obtain ⟨name, _, hname⟩ := List.mem_map.mp hmem
    exact ne_append_dot field name hname.symm
  · exact hkeys.map fun a b hab => (String.append_right_inj _).mp hab

theorem declaredFormats_eq_ok {type : FieldType} {spec : Members} {formats : List DateFormat}
    (h : declaredFormats type spec = .ok formats) : formats ≠ [] ↔ type = .date := by
  unfold declaredFormats at h
  split at h
  · rename_i ht
    exact ⟨fun _ => ht, fun _ => dateFormatsOf_ne_nil h⟩
  · rename_i ht
    split at h
    · cases h
    · cases h
      simp [ht]

theorem openness_eq_ok {type : FieldType} {spec : Members} (h : openness type spec = .ok true) :
    type = .nestedObject := by
  unfold openness at h
  split at h
  · assumption
  · cases h

theorem nullValueOf_eq_ok {type : FieldType} {json : Json} {value : NullValue}
    (h : nullValueOf type json = .ok value) : value.IsOf type := by
  unfold nullValueOf at h
  extract_lets fit at h
  generalize hfit : fit = found at h
  unfold fit at hfit
  clear fit
  obtain rfl : found = some value := by
    cases found with
    | none => cases h
    | some null =>
      cases h
      rfl
  cases type with
  | boolean =>
    cases json with
    | bool b => cases hfit; rfl
    | str s =>
      revert hfit
      apply of_ite_eq
      · intro hfit
        cases hfit
        rfl
      · apply of_ite_eq
        · intro hfit
          cases hfit
          rfl
        · intro hfit
          cases hfit
    | _ => cases hfit
  | integer =>
    obtain ⟨_, _, rfl⟩ := Option.map_eq_some_iff.mp hfit
    exact .inl rfl
  | long =>
    obtain ⟨_, _, rfl⟩ := Option.map_eq_some_iff.mp hfit
    exact .inr rfl
  | double =>
    obtain ⟨_, _, rfl⟩ := Option.map_eq_some_iff.mp hfit
    rfl
  | string =>
    obtain ⟨_, _, rfl⟩ := Option.map_eq_some_iff.mp hfit
    exact .inl rfl
  | keyword =>
    obtain ⟨_, _, rfl⟩ := Option.map_eq_some_iff.mp hfit
    exact .inr rfl
  | date => cases hfit
  | nestedObject => cases hfit

theorem declaredNullValue_eq_ok {type : FieldType} {spec : Members} {value : NullValue}
    (h : declaredNullValue type spec = .ok (some value)) : value.IsOf type := by
  unfold declaredNullValue at h
  split at h
  · cases h
  · cases h
  · obtain ⟨found, hfound, heq⟩ := map_eq_ok_iff.mp h
    cases heq
    exact nullValueOf_eq_ok hfound

/-- A field takes its name, type and variants as they are, and the rest from the declaration. -/
theorem assemble_eq_ok {name : String} {type : FieldType} {root : Variant} {others : List Variant}
    {spec : Members} {field : Field} (h : assemble name type root others spec = .ok field) :
    ∃ formats isOpenEnded nullValue, declaredFormats type spec = .ok formats ∧
      openness type spec = .ok isOpenEnded ∧ declaredNullValue type spec = .ok nullValue ∧
      field = ⟨name, type, root, others, formats, isOpenEnded, nullValue, false⟩ := by
  simp only [assemble, bind_eq_ok_iff] at h
  obtain ⟨formats, hformats, isOpenEnded, hopen, nullValue, hnull, h⟩ := h
  cases h
  exact ⟨formats, isOpenEnded, nullValue, hformats, hopen, hnull, rfl⟩

/-- In either form the declaration that a field is put together from is the entry itself or an object
in it. -/
theorem assemble_of_fieldOf {name declared : String} {spec : Members} {field : Field}
    (h : fieldOf name declared spec = .ok field) :
    ∃ (type : FieldType) (root : Variant) (others : List Variant) (own : Members),
      (∀ {Q : Json → Prop}, PassesDown Q → Q (obj spec) → Q (obj own)) ∧
        assemble name type root others own = .ok field := by
  unfold fieldOf at h
  split at h
  · unfold legacyField at h
    split at h
    · rename_i entries hentries
      dsimp only at h
      split at h
      · rename_i rootSpec hroot
        split at h
        · simp only [bind_eq_ok_iff] at h
          obtain ⟨⟨kind, type⟩, -, others, -, h⟩ := h
          refine ⟨type, _, others, rootSpec, ?_, h⟩
          intro Q hdown hspec
          exact hdown.of_lookup_members (hdown.of_lookup_members hspec hentries) hroot
        · cases h
      · cases h
    · cases h
  · simp only [bind_eq_ok_iff] at h
    obtain ⟨⟨kind, type⟩, -, others, -, h⟩ := h
    exact ⟨type, _, others, spec, fun _ hspec => hspec, h⟩

/-- Both forms of a declaration put a field together in one way: a root of the kind of its type, and
below it variants that are declared under distinct names. -/
def Assembled (name : String) (field : Field) : Prop :=
  ∃ (type : FieldType) (analyzer : Option String) (entries : Members) (others : List Variant)
    (spec : Members), (entries.map Prod.fst).Nodup ∧
      List.Forall₂ (fun entry variant => Below name type entry.1 variant) entries others ∧
      assemble name type (Variant.root name type.rootKind analyzer) others spec = .ok field

theorem legacyField_assembled {name : String} {spec : Members} {field : Field}
    (hkeys : (obj spec).KeysDistinct) (h : legacyField name spec = .ok field) :
    Assembled name field := by
  unfold legacyField at h
  split at h
  · rename_i entries hentries
    dsimp only at h
    split at h
    · rename_i rootSpec _
      split at h
      · simp only [bind_eq_ok_iff] at h
        obtain ⟨⟨kind, type⟩, hclass, others, hothers, h⟩ := h
        obtain rfl := classify_root hclass
        have hnodup := (keysDistinct_passesDown.of_lookup_members hkeys hentries).1
        exact ⟨type, _, _, others, rootSpec, hnodup.sublist (List.filter_sublist.map Prod.fst),
          variantsOf_eq_ok hothers, h⟩
      · cases h
    · cases h
  · cases h

theorem otherVariants_eq_ok {name : String} {type : FieldType} {spec : Members}
    {others : List Variant} (hkeys : (obj spec).KeysDistinct)
    (h : otherVariants name type spec = .ok others) :
    ∃ entries : Members, (entries.map Prod.fst).Nodup ∧
      List.Forall₂ (fun entry variant => Below name type entry.1 variant) entries others := by
  unfold otherVariants at h
  split at h
  · cases h
    exact ⟨[], .nil, .nil⟩
  · rename_i entries hentries
    exact ⟨entries, (keysDistinct_passesDown.of_lookup hkeys hentries).1, variantsOf_eq_ok h⟩
  · cases h

theorem fieldOf_assembled {name declared : String} {spec : Members} {field : Field}
    (hkeys : (obj spec).KeysDistinct) (h : fieldOf name declared spec = .ok field) :
    Assembled name field := by
  unfold fieldOf at h
  split at h
  · exact legacyField_assembled hkeys h
  · simp only [bind_eq_ok_iff] at h
    obtain ⟨⟨kind, type⟩, hclass, others, hothers, h⟩ := h
    obtain rfl := classify_root hclass
    obtain ⟨entries, hnodup, hentries⟩ := otherVariants_eq_ok hkeys hothers
    exact ⟨type, _, entries, others, spec, hnodup, hentries, h⟩

namespace Assembled

variable {name : String} {field : Field}

theorem wellFormed (hname : isFieldName name = true) (h : Assembled name field) :
    field.WellFormed := by
  obtain ⟨type, analyzer, entries, others, spec, hkeys, hothers, h⟩ := h
  obtain ⟨formats, isOpenEnded, nullValue, hformats, hopen, hnull, rfl⟩ := assemble_eq_ok h
  have hnames := isFieldName_iff.mp hname
  have hbelow := exists_of_mem_right hothers
  constructor
  case name_ne_empty => exact hnames.1
  case name_no_blank => exact hnames.2
  case root_name => rfl
  case root_path => rfl
  case root_kind => rfl
  case others_below =>
    intro variant hv
    obtain ⟨entry, _, hentry⟩ := hbelow variant hv
    exact ⟨entry.1, hentry.name_eq, hentry.path_eq⟩
  case others_not_object =>
    intro variant hv
    obtain ⟨entry, _, hentry⟩ := hbelow variant hv
    exact hentry.not_object
  case date_of_epoch =>
    intro variant hv hepoch
    rcases List.mem_cons.mp hv with rfl | hv
    · simp [Variant.root] at hepoch
    · obtain ⟨entry, _, hentry⟩ := hbelow variant hv
      exact hentry.date_of_epoch hepoch
  case paths_nodup => exact paths_nodup hkeys rfl hothers
  case dateFormats_iff => exact declaredFormats_eq_ok hformats
  case object_of_open =>
    rintro rfl
    exact openness_eq_ok hopen
  case nullValue_isOf =>
    rintro value rfl
    exact declaredNullValue_eq_ok hnull

theorem not_default (h : Assembled name field) : field.isDefaultColumn = false := by
  obtain ⟨type, analyzer, entries, others, spec, _, _, h⟩ := h
  obtain ⟨formats, isOpenEnded, nullValue, _, _, _, rfl⟩ := assemble_eq_ok h
  rfl

end Assembled

end ReportSearch.Mapping
