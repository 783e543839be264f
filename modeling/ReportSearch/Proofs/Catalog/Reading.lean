import ReportSearch.Proofs.Catalog.Declaration

/-!
# What a mapping declares

A mapping that is read is well-formed: its fields one by one, by induction over the tree of entries,
and as a whole by the checks that follow.
-/

set_option autoImplicit false

namespace ReportSearch

namespace Mapping

open Attempts Json

/-- An entry declares a field of its own and, in the form of an object, those below it. -/
theorem entryFields_eq_ok {name : String} {entry : Json} {fields : List Field}
    (h : entryFields name entry = .ok fields) :
    isFieldName name = true ∧ ∃ spec declared field, entry = .obj spec ∧
      declaredType spec = .ok declared ∧ fieldOf name declared spec = .ok field ∧
      (fields = [field] ∧
          (field.isObject = true → declared ≠ "multi_field" → spec.lookup "properties" = none) ∨
        field.isObject = true ∧ declared ≠ "multi_field" ∧
          ∃ children below, spec.lookup "properties" = some (.obj children) ∧
            entriesFields (name ++ ".") children = .ok below ∧ fields = field :: below) := by
  rw [entryFields.eq_def] at h
  split at h
  · cases h
  · rename_i hname
    refine ⟨by simpa using hname, ?_⟩
    split at h
    · rename_i spec
      split at h
      · cases h
      · rename_i declared hdeclared
        split at h
        · cases h
        · rename_i field hfield
          refine ⟨spec, declared, field, rfl, hdeclared, hfield, ?_⟩
          split at h
          · rename_i htree
            rw [Bool.and_eq_true, bne_iff_ne] at htree
            split at h
            · rename_i hnone
              cases h
              exact .inl ⟨rfl, fun _ _ => hnone⟩
            · rename_i children hchildren
              obtain ⟨below, hbelow, rfl⟩ := map_eq_ok_iff.mp h
              exact .inr ⟨htree.1, htree.2, children, below, hchildren, hbelow, rfl⟩
            · cases h
          · rename_i hleaf
            rw [Bool.and_eq_true, bne_iff_ne] at hleaf
            cases h
            exact .inl ⟨rfl, fun hobject hmodern => absurd ⟨hobject, hmodern⟩ hleaf⟩
    · cases h

theorem entriesFields_cons_eq_ok {path name : String} {entry : Json} {rest : Members}
    {fields : List Field} (h : entriesFields path ((name, entry) :: rest) = .ok fields) :
    ∃ first others, entryFields (path ++ name) entry = .ok first ∧
      entriesFields path rest = .ok others ∧ fields = first ++ others := by
  rw [entriesFields, bind_eq_ok_iff] at h
  obtain ⟨first, hfirst, h⟩ := h
  obtain ⟨others, hothers, h⟩ := bind_eq_ok_iff.mp h
  cases h
  exact ⟨first, others, hfirst, hothers, rfl⟩

section Entries

variable {Q : Json → Prop} {P : Field → Prop}

mutual

/-- What holds of every field that a declaration makes under a proper name holds of all the fields
of an entry, at any depth; the declarations have what the entry passes down to them. -/
theorem forall_entryFields (hdown : PassesDown Q)
    (hP : ∀ {name declared spec field}, isFieldName name = true → Q (obj spec) →
      fieldOf name declared spec = .ok field → P field)
    {name : String} {entry : Json} {fields : List Field} (hentry : Q entry)
    (h : entryFields name entry = .ok fields) : ∀ field ∈ fields, P field := by
  obtain ⟨hname, spec, declared, own, heq, -, hown, h⟩ := entryFields_eq_ok h
  rw [heq] at hentry
  have hfirst : P own := hP hname hentry hown
  rcases h with ⟨rfl, -⟩ | ⟨-, -, children, below, hchildren, hbelow, rfl⟩
  · simpa using hfirst
  · have hinner := hdown.of_lookup hentry hchildren
    have hlt : sizeOf children < sizeOf entry := by
      have hsize := sizeOf_lookup_lt hchildren
      simp only [heq, Json.obj.sizeOf_spec] at hsize ⊢
      omega
    exact List.forall_mem_cons.mpr ⟨hfirst, forall_entriesFields hdown hP hinner hbelow⟩
termination_by sizeOf entry

theorem forall_entriesFields (hdown : PassesDown Q)
    (hP : ∀ {name declared spec field}, isFieldName name = true → Q (obj spec) →
      fieldOf name declared spec = .ok field → P field)
    {path : String} {entries : Members} {fields : List Field} (hentries : Q (obj entries))
    (h : entriesFields path entries = .ok fields) : ∀ field ∈ fields, P field := by
  match entries with
  | [] =>
    rw [entriesFields] at h
    cases h
    simp
  | (name, entry) :: rest =>
    obtain ⟨first, others, hfirst, hothers, rfl⟩ := entriesFields_cons_eq_ok h
    obtain ⟨hentry, hrest⟩ := hdown hentries
    exact List.forall_mem_append.mpr ⟨forall_entryFields hdown hP hentry hfirst,
      forall_entriesFields hdown hP hrest hothers⟩
termination_by sizeOf entries

end

end Entries

theorem of_body {Q : Json → Prop} (hdown : PassesDown Q) {source : Json} {members : Members}
    (hsource : Q source) (h : body source = .ok members) : Q (obj members) := by
  unfold body at h
  split at h
  · rename_i outer
    extract_lets typed at h
    have htyped : ∀ inner, typed inner = .ok members → Q (obj inner) → Q (obj members) := by
      intro inner h hinner
      unfold typed at h
      split at h
      · split at h
        · cases h
          exact (hdown hinner).1
        · cases h
          exact hinner
      · cases h
        exact hinner
    split at h
    · exact htyped _ h hsource
    · rename_i inner hinner
      exact htyped _ h (hdown.of_lookup hsource hinner)
    · cases h
  · cases h

theorem firstRepeated?_eq_none_iff {seen names : List String} :
    firstRepeated? seen names = none ↔ names.Nodup ∧ ∀ name ∈ names, name ∉ seen := by
  induction names generalizing seen with
  | nil => simp [firstRepeated?]
  | cons name rest ih =>
    by_cases hn : name ∈ seen
    · simp [firstRepeated?, hn]
    · simp only [firstRepeated?, List.contains_iff_mem, hn, if_false, ih, List.nodup_cons,
        List.mem_cons, forall_eq_or_imp, not_false_eq_true, true_and, not_or]
      constructor
      · rintro ⟨hrest, hnew⟩
        exact ⟨⟨fun hmem => (hnew name hmem).1 rfl, hrest⟩, fun a ha => (hnew a ha).2⟩
      · rintro ⟨⟨hname, hrest⟩, hnew⟩
        exact ⟨hrest, fun a ha => ⟨fun heq => hname (heq ▸ ha), hnew a ha⟩⟩

/-- What is known of a mapping that was read: its tree of entries, and the checks that it passed. -/
theorem ofJson_eq_ok {source : Json} {mapping : Mapping} (h : ofJson source = .ok mapping) :
    ∃ members properties fields, body source = .ok members ∧
      members.lookup "properties" = some (.obj properties) ∧
      entriesFields "" properties = .ok fields ∧
      firstRepeated? [] (fields.map Field.name) = none ∧
      mapping.defaultColumns.find? (fun name => !(fields.map Field.name).contains name) = none ∧
      mapping.fields = markDefaultColumns mapping.defaultColumns fields := by
  unfold ofJson at h
  obtain ⟨members, hbody, h⟩ := bind_eq_ok_iff.mp h
  split at h
  · rename_i properties hproperties
    split at h
    · cases h
    · obtain ⟨fields, hfields, h⟩ := bind_eq_ok_iff.mp h
      split at h
      · cases h
      · rename_i hrepeated
        obtain ⟨columns, _, h⟩ := bind_eq_ok_iff.mp h
        split at h
        · cases h
        · rename_i hunknown
          cases h
          exact ⟨members, properties, fields, mapError_eq_ok_iff.mp hbody, hproperties, hfields,
            Option.eq_none_iff_forall_ne_some.mpr hrepeated,
            Option.eq_none_iff_forall_ne_some.mpr hunknown, rfl⟩
  · cases h

theorem names_markDefaultColumns (columns : List String) (fields : List Field) :
    (markDefaultColumns columns fields).map Field.name = fields.map Field.name := by
  rw [markDefaultColumns, List.map_map]
  refine List.map_congr_left fun field _ => ?_
  rw [Function.comp_apply]
  split <;> rfl

theorem wellFormed_marked {field : Field} (hf : field.WellFormed) :
    { field with isDefaultColumn := true }.WellFormed where
  name_ne_empty := hf.name_ne_empty
  name_no_blank := hf.name_no_blank
  root_name := hf.root_name
  root_path := hf.root_path
  root_kind := hf.root_kind
  others_below := hf.others_below
  others_not_object := hf.others_not_object
  date_of_epoch := hf.date_of_epoch
  paths_nodup := hf.paths_nodup
  dateFormats_iff := hf.dateFormats_iff
  object_of_open := hf.object_of_open
  nullValue_isOf := hf.nullValue_isOf

section OfJson

variable {source : Json} {mapping : Mapping}

theorem names_nodup (h : ofJson source = .ok mapping) :
    (mapping.fields.map Field.name).Nodup := by
  obtain ⟨members, properties, fields, _, _, _, hrepeated, _, heq⟩ := ofJson_eq_ok h
  rw [heq, names_markDefaultColumns]
  exact (firstRepeated?_eq_none_iff.mp hrepeated).1

theorem forall_fields {Q : Json → Prop} {P : Field → Prop} (hdown : PassesDown Q)
    (hP : ∀ {name declared spec field}, isFieldName name = true → Q (obj spec) →
      fieldOf name declared spec = .ok field → P field)
    (hsource : Q source) (h : ofJson source = .ok mapping) :
    ∀ field ∈ mapping.fields, ∃ own, P own ∧
      field = if mapping.defaultColumns.contains own.name then { own with isDefaultColumn := true }
        else own := by
  obtain ⟨members, properties, fields, hbody, hproperties, hfields, _, _, heq⟩ := ofJson_eq_ok h
  have hmembers := of_body hdown hsource hbody
  have hbelow := hdown.of_lookup hmembers hproperties
  intro field hf
  rw [heq] at hf
  obtain ⟨own, hown, rfl⟩ := List.mem_map.mp hf
  exact ⟨own, forall_entriesFields hdown hP hbelow hfields own hown, rfl⟩

theorem field_wellFormed (hkeys : source.KeysDistinct) (h : ofJson source = .ok mapping) :
    ∀ field ∈ mapping.fields, field.WellFormed := by
  intro field hf
  obtain ⟨own, hwell, rfl⟩ := forall_fields keysDistinct_passesDown
    (fun hname hspec hfield => (fieldOf_assembled hspec hfield).wellFormed hname) hkeys h field hf
  split
  · exact wellFormed_marked hwell
  · exact hwell

theorem isDefaultColumn_iff (hkeys : source.KeysDistinct) (h : ofJson source = .ok mapping) :
    ∀ field ∈ mapping.fields,
      field.isDefaultColumn = true ↔ field.name ∈ mapping.defaultColumns := by
  intro field hf
  obtain ⟨own, hplain, rfl⟩ := forall_fields keysDistinct_passesDown
    (fun _ hspec hfield => (fieldOf_assembled hspec hfield).not_default) hkeys h field hf
  split
  · rename_i hc
    simpa using hc
  · rename_i hc
    rw [hplain]
    simpa using hc

theorem defaultColumns_declared (h : ofJson source = .ok mapping) :
    ∀ name ∈ mapping.defaultColumns, ∃ field ∈ mapping.fields, field.name = name := by
  obtain ⟨members, properties, fields, _, _, _, _, hunknown, heq⟩ := ofJson_eq_ok h
  intro name hname
  have hfound := List.find?_eq_none.mp hunknown name hname
  have hmem : name ∈ mapping.fields.map Field.name := by
    rw [heq, names_markDefaultColumns]
    simpa using hfound
  exact List.mem_map.mp hmem

/-- A mapping that is read from a value with distinct keys is well-formed, and the root of a field
never counts units of time. -/
theorem ofJson_wellFormed (hkeys : source.KeysDistinct) (h : ofJson source = .ok mapping) :
    mapping.WellFormed ∧
      ∀ field ∈ mapping.fields, field.rootVariant.kind.isEpoch = false where
  left :=
    { names_nodup := names_nodup h
      fields := field_wellFormed hkeys h
      isDefaultColumn_iff := isDefaultColumn_iff hkeys h
      defaultColumns_declared := defaultColumns_declared h }
  right := fun field hf => (field_wellFormed hkeys h field hf).root_not_epoch

end OfJson

/-- A mapping with a date in two forms, an older multi-field and a field below an object. -/
def sampleSource : Json :=
  let ofType (type : String) : Json := .obj [("type", .str type)]
  .obj [("_meta", .obj [("default_columns", .arr [.str "seen"])]),
    ("properties", .obj
      [("seen", .obj [("type", .str "date"), ("format", .str "strict_date_optional_time"),
        ("fields", .obj [("epoch", .obj [("type", .str "date"), ("format", .str "epoch_millis")])])]),
      ("note", .obj [("type", .str "multi_field"),
        ("fields", .obj [("size", ofType "long"), ("note", ofType "string")])]),
      ("system", .obj [("properties", .obj
        [("cores", .obj [("type", .str "integer"), ("null_value", .num (.int 1))])])])])]

def sampleDate : Field where
  name := "seen"
  type := .date
  rootVariant := .root "seen" .date none
  otherVariants := [.named "seen" "epoch" (.epoch .millis) none]
  dateFormats := [⟨"strict_date_optional_time", .timestamp⟩]
  isDefaultColumn := true

def sampleText : Field where
  name := "note"
  type := .string
  rootVariant := .root "note" .analyzed none
  otherVariants := [.named "note" "size" .numeric none]

def sample : Mapping where
  fields :=
    [sampleDate, sampleText,
     { name := "system", type := .nestedObject, rootVariant := .root "system" .object none
       otherVariants := [] },
     { name := "system.cores", type := .integer, rootVariant := .root "system.cores" .numeric none
       otherVariants := [], nullValue := some (.integer 1) }]
  defaultColumns := ["seen"]
  versionTag := none

theorem ofJson_sampleSource : ofJson sampleSource = .ok sample := by decide +kernel

theorem keysDistinct_sampleSource : sampleSource.KeysDistinct := by decide

/-- The sample passes every check of reading, so it is well-formed. -/
theorem sample_wellFormed :
    sampleSource.KeysDistinct ∧ ofJson sampleSource = .ok sample ∧ sample.WellFormed ∧
      ∀ field ∈ sample.fields, field.rootVariant.kind.isEpoch = false :=
  ⟨keysDistinct_sampleSource, ofJson_sampleSource,
    ofJson_wellFormed keysDistinct_sampleSource ofJson_sampleSource⟩

end Mapping

end ReportSearch
