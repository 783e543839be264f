import ReportSearch.Proofs.Catalog.Lookup

/-!
# The listing of fields

The fields of a mapping are listed in the order of its tree: an entry first, then the entries below
it, each under the keys that lead to it. A catalog has the same fields in ascending order of their
names, and finds each under its name.
-/

set_option autoImplicit false

namespace ReportSearch

open Attempts

namespace Mapping

/-- Whether a declaration is one of a tree: its type says so, or it has `properties` and no type. -/
def isTree (spec : Members) : Bool :=
  match spec.lookup "type" with
  | some (.str type) => type = "object" || type = "nested"
  | some _ => false
  | none => hasKey spec "properties"

/-- The entries that an entry has below it. -/
def below (entry : Json) : Members :=
  match entry with
  | .obj spec => if isTree spec then ((spec.lookup "properties").bind Json.members?).getD [] else []
  | _ => []

theorem below_obj (spec : Members) :
    below (.obj spec) =
      if isTree spec then ((spec.lookup "properties").bind Json.members?).getD [] else [] := rfl

theorem sizeOf_below_le (entry : Json) : sizeOf (below entry) ≤ sizeOf entry := by
  cases entry with
  | obj spec =>
    rw [below_obj]
    split
    · cases hfound : (spec.lookup "properties").bind Json.members? with
      | none => simp
      | some children =>
        obtain ⟨value, hvalue, hmembers⟩ := Option.bind_eq_some_iff.mp hfound
        have hlt := sizeOf_lookup_lt hvalue
        rw [Json.eq_obj_of_members? hmembers] at hlt
        simp at hlt ⊢
        omega
    · simp
  | _ => simp [below]

/-- The keys that lead to each entry, an entry before those below it. -/
def preorder : Members → List (List String)
  | [] => []
  | (key, entry) :: rest =>
    ([key] :: (preorder (below entry)).map (key :: ·)) ++ preorder rest
termination_by entries => sizeOf entries
decreasing_by
  · have := sizeOf_below_le entry
    simp only [List.cons.sizeOf_spec, Prod.mk.sizeOf_spec]
    omega
  · simp only [List.cons.sizeOf_spec]
    omega

theorem ne_nil_of_mem_preorder {entries : Members} {keys : List String}
    (h : keys ∈ preorder entries) : keys ≠ [] := by
  induction entries with
  | nil => simp [preorder] at h
  | cons entry rest ih =>
    obtain ⟨key, value⟩ := entry
    rw [preorder, List.mem_append, List.mem_cons] at h
    rcases h with (rfl | h) | h
    · simp
    · obtain ⟨inner, -, rfl⟩ := List.mem_map.mp h
      simp
    · exact ih h

theorem name_of_assemble {name : String} {type : FieldType} {root : Variant}
    {others : List Variant} {spec : Members} {field : Field}
    (h : assemble name type root others spec = .ok field) :
    field.name = name ∧ field.type = type := by
  obtain ⟨formats, isOpenEnded, nullValue, -, -, -, rfl⟩ := assemble_eq_ok h
  exact ⟨rfl, rfl⟩

theorem name_of_fieldOf {name declared : String} {spec : Members} {field : Field}
    (h : fieldOf name declared spec = .ok field) : field.name = name := by
  obtain ⟨type, root, others, own, -, h⟩ := assemble_of_fieldOf h
  exact (name_of_assemble h).1

theorem classify_nestedObject_iff {isBelowDate : Bool} {declared : String} {spec : Members}
    {kind : VariantKind} {type : FieldType}
    (h : classify isBelowDate declared spec = .ok (kind, type)) :
    type = .nestedObject ↔ declared = "object" ∨ declared = "nested" := by
  by_cases htree : declared = "object" ∨ declared = "nested"
  · refine iff_of_true ?_ htree
    unfold classify at h
    rcases htree with rfl | rfl
    all_goals
      split at h
      · cases h
      · cases h
        rfl
  · refine iff_of_false ?_ htree
    have hother : (declared = "object" || declared = "nested") = false := by simpa using htree
    unfold classify at h
    simp only [hother, Bool.false_eq_true, if_false] at h
    revert h
    repeat' apply of_ite_eq
    all_goals intro h
    all_goals first
      | (cases h; done)
      | (cases h; exact FieldType.noConfusion)
      | skip
    obtain ⟨formats, -, heq⟩ := map_eq_ok_iff.mp h
    cases heq
    simp

theorem isTree_iff {name declared : String} {spec : Members} {field : Field}
    (hdeclared : declaredType spec = .ok declared) (h : fieldOf name declared spec = .ok field) :
    isTree spec = true ↔ field.isObject = true ∧ declared ≠ "multi_field" := by
  have htree : isTree spec = true ↔ declared = "object" ∨ declared = "nested" := by
    unfold declaredType at hdeclared
    split at hdeclared
    · rename_i type htype
      cases hdeclared
      simp [isTree, htype]
    · cases hdeclared
    · rename_i htype
      split at hdeclared
      · rename_i hkey
        cases hdeclared
        simp [isTree, htype, hkey]
      · cases hdeclared
  rw [htree]
  by_cases hlegacy : declared = "multi_field"
  · simp [hlegacy]
  · unfold fieldOf at h
    rw [if_neg hlegacy] at h
    simp only [bind_eq_ok_iff] at h
    obtain ⟨⟨kind, type⟩, hclass, others, -, h⟩ := h
    rw [← classify_nestedObject_iff hclass, Field.isObject, (name_of_assemble h).2]
    simp [hlegacy]

mutual

theorem names_entryFields {name : String} {entry : Json} {fields : List Field}
    (h : entryFields name entry = .ok fields) :
    fields.map Field.name =
      name :: (preorder (below entry)).map fun keys => name ++ "." ++ ".".intercalate keys := by
  obtain ⟨-, spec, declared, own, heq, hdeclared, hown, h⟩ := entryFields_eq_ok h
  rw [heq]
  have hname := name_of_fieldOf hown
  rcases h with ⟨rfl, hleaf⟩ | ⟨hobject, hmodern, children, inner, hchildren, hinner, rfl⟩
  · have hbelow : below (.obj spec) = [] := by
      rw [below_obj]
      split
      · rename_i htree
        obtain ⟨hobject, hmodern⟩ := (isTree_iff hdeclared hown).mp htree
        rw [hleaf hobject hmodern]
        rfl
      · rfl
    rw [hbelow, preorder, List.map_singleton, hname]
    rfl
  · have hbelow : below (.obj spec) = children := by
      have htree := (isTree_iff hdeclared hown).mpr ⟨hobject, hmodern⟩
      simp [below_obj, htree, hchildren, Json.members?]
    have hlt : sizeOf children < sizeOf entry := by
      have hsize := sizeOf_lookup_lt hchildren
      simp only [heq, Json.obj.sizeOf_spec] at hsize ⊢
      omega
    rw [hbelow, List.map_cons, hname, names_entriesFields hinner]
termination_by sizeOf entry

theorem names_entriesFields {path : String} {entries : Members} {fields : List Field}
    (h : entriesFields path entries = .ok fields) :
    fields.map Field.name = (preorder entries).map fun keys => path ++ ".".intercalate keys := by
  match entries with
  | [] =>
    rw [entriesFields] at h
    cases h
    simp [preorder]
  | (key, entry) :: rest =>
    obtain ⟨first, others, hfirst, hothers, rfl⟩ := entriesFields_cons_eq_ok h
    rw [List.map_append, names_entryFields hfirst, names_entriesFields hothers, preorder,
      List.map_append, List.map_cons, List.map_map, String.intercalate_singleton]
    congr 2
    refine List.map_congr_left fun keys hkeys => ?_
    rw [Function.comp_apply, String.intercalate_cons_of_ne_nil (ne_nil_of_mem_preorder hkeys)]
    simp only [String.append_assoc]
termination_by sizeOf entries

end

/-- The fields of a mapping have the names that its tree of keys spells, in the same order. -/
theorem names_of_ofJson {source : Json} {mapping : Mapping} (h : ofJson source = .ok mapping) :
    ∃ members properties, body source = .ok members ∧
      members.lookup "properties" = some (.obj properties) ∧
      mapping.fields.map Field.name = (preorder properties).map ".".intercalate := by
  obtain ⟨members, properties, fields, hbody, hproperties, hfields, -, -, heq⟩ := ofJson_eq_ok h
  refine ⟨members, properties, hbody, hproperties, ?_⟩
  rw [heq, names_markDefaultColumns, names_entriesFields hfields]
  simp

end Mapping

namespace Catalog

variable {field : Field} {fields : List Field}

theorem pairwise_insertField (h : (fields.map Field.name).Pairwise (· < ·)) :
    ((insertField field fields).map Field.name).Pairwise (· < ·) := by
  induction fields with
  | nil => exact List.pairwise_singleton _ _
  | cons first rest ih =>
    obtain ⟨hfirst, hrest⟩ := List.pairwise_cons.mp h
    unfold insertField
    split
    · rename_i hlt
      refine List.pairwise_cons.mpr ⟨?_, h⟩
      intro name hname
      rcases List.mem_cons.mp hname with rfl | hname
      · exact hlt
      · exact String.lt_trans hlt (hfirst name hname)
    · rename_i hge
      split
      · rename_i heq
        rw [List.map_cons, heq]
        exact h
      · rename_i hne
        refine List.pairwise_cons.mpr ⟨?_, ih hrest⟩
        intro name hname
        rcases mem_names_insertField.mp hname with rfl | hname
        · exact Std.lt_of_le_of_ne hge (Ne.symm hne)
        · exact hfirst name hname

theorem insertField_perm (h : field.name ∉ fields.map Field.name) :
    (insertField field fields).Perm (field :: fields) := by
  induction fields with
  | nil => exact .refl _
  | cons first rest ih =>
    rw [List.map_cons, List.mem_cons, not_or] at h
    unfold insertField
    split
    · exact .refl _
    · rw [if_neg h.1]
      exact ((ih h.2).cons first).trans (.swap field first rest)

theorem pairwise_sortFields (fields : List Field) :
    ((sortFields fields).map Field.name).Pairwise (· < ·) := by
  have go : ∀ (fields sorted : List Field), (sorted.map Field.name).Pairwise (· < ·) →
      ((fields.foldl (fun sorted field => insertField field sorted) sorted).map
        Field.name).Pairwise (· < ·) := by
    intro fields
    induction fields with
    | nil => exact fun sorted h => h
    | cons first rest ih => exact fun sorted h => ih _ (pairwise_insertField h)
  exact go fields [] .nil

theorem sortFields_perm (h : (fields.map Field.name).Nodup) : (sortFields fields).Perm fields := by
  have go : ∀ (fields sorted : List Field), (fields.map Field.name).Nodup →
      (∀ field ∈ fields, field.name ∉ sorted.map Field.name) →
      (fields.foldl (fun sorted field => insertField field sorted) sorted).Perm
        (fields ++ sorted) := by
    intro fields
    induction fields with
    | nil => exact fun sorted _ _ => .refl _
    | cons first rest ih =>
      intro sorted hnodup hnew
      obtain ⟨hfirst, hrest⟩ := List.nodup_cons.mp hnodup
      have hput := insertField_perm (hnew first List.mem_cons_self)
      refine (ih (insertField first sorted) hrest ?_).trans
        ((hput.append_left rest).trans List.perm_middle)
      intro field hfield hmem
      rcases mem_names_insertField.mp hmem with heq | hmem
      · exact hfirst (heq ▸ List.mem_map_of_mem hfield)
      · exact hnew field (List.mem_cons_of_mem first hfield) hmem
  unfold sortFields
  simpa using go fields [] h

theorem lookup?_eq_some_iff {mapping : Mapping} {version : Nat} {name : String}
    (hnodup : (mapping.fields.map Field.name).Nodup) :
    (ofMapping mapping version).lookup? name = some field ↔
      field ∈ mapping.fields ∧ field.name = name := by
  constructor
  · intro h
    exact ⟨mem_of_lookup? h, name_of_lookup? h⟩
  · rintro ⟨hfield, hname⟩
    obtain ⟨found, hfound⟩ : ∃ found, (ofMapping mapping version).lookup? name = some found :=
      exists_lookup? ⟨field, hfield, hname⟩
    have hsame : found = field := List.inj_on_of_nodup_map hnodup (mem_of_lookup? hfound) hfield
      ((name_of_lookup? hfound).trans hname.symm)
    rw [hfound, hsame]

/-- No declared field is lost on the way to the catalog, and none is added: the names of the
mapping are those that its tree of keys spells, a name is found if and only if it is one of them,
and the catalog has as many fields, in strictly ascending order of their names. -/
theorem fields_listed {source : Json} {mapping : Mapping}
    (hread : Mapping.ofJson source = .ok mapping) (version : Nat) :
    (∃ members properties, Mapping.body source = .ok members ∧
      members.lookup "properties" = some (.obj properties) ∧
      mapping.fields.map Field.name = (Mapping.preorder properties).map ".".intercalate) ∧
    (∀ name, (∃ field, (ofMapping mapping version).lookup? name = some field) ↔
      name ∈ mapping.fields.map Field.name) ∧
    (∀ name field, (ofMapping mapping version).lookup? name = some field ↔
      field ∈ mapping.fields ∧ field.name = name) ∧
    (ofMapping mapping version).size = mapping.fields.length ∧
    (ofMapping mapping version).fields.Perm mapping.fields ∧
    (ofMapping mapping version).names.Pairwise (· < ·) := by
  have hnodup := Mapping.names_nodup hread
  have hperm := sortFields_perm hnodup
  have hlookup : ∀ name field, (ofMapping mapping version).lookup? name = some field ↔
      field ∈ mapping.fields ∧ field.name = name := fun _ _ => lookup?_eq_some_iff hnodup
  refine ⟨Mapping.names_of_ofJson hread, ?_, hlookup, hperm.length_eq, hperm,
    pairwise_sortFields mapping.fields⟩
  intro name
  simp only [hlookup, List.mem_map]

/-- The sample declares a field below an object, which its catalog finds by its dotted name. -/
theorem sample_listed :
    Mapping.ofJson Mapping.sampleSource = .ok Mapping.sample ∧
      (∃ members properties, Mapping.body Mapping.sampleSource = .ok members ∧
        members.lookup "properties" = some (.obj properties) ∧
        ["seen", "note", "system", "system.cores"] =
          (Mapping.preorder properties).map ".".intercalate) ∧
      (∀ name, (∃ field, (ofMapping Mapping.sample 1).lookup? name = some field) ↔
        name ∈ ["seen", "note", "system", "system.cores"]) ∧
      (ofMapping Mapping.sample 1).size = 4 ∧
      (ofMapping Mapping.sample 1).names.Pairwise (· < ·) := by
  obtain ⟨hnames, hfound, -, hsize, -, hsorted⟩ := fields_listed Mapping.ofJson_sampleSource 1
  exact ⟨Mapping.ofJson_sampleSource, hnames, hfound, hsize, hsorted⟩

end Catalog

end ReportSearch
