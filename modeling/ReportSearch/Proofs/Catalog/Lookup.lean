import ReportSearch.Catalog.Basic
import ReportSearch.Proofs.Catalog.Reading

/-!
# Looking up fields

A catalog keeps the fields of its mapping by name and nothing else, so what holds of every field of
a mapping holds of every field that is found.
-/

set_option autoImplicit false

namespace ReportSearch

namespace Catalog

theorem mem_of_mem_insertField {field other : Field} {fields : List Field}
    (h : other ∈ insertField field fields) : other = field ∨ other ∈ fields := by
  induction fields with
  | nil => simpa [insertField] using h
  | cons first rest ih =>
    unfold insertField at h
    split at h
    · exact List.mem_cons.mp h
    · split at h
      · rcases List.mem_cons.mp h with rfl | h
        · exact .inl rfl
        · exact .inr (List.mem_cons_of_mem _ h)
      · rcases List.mem_cons.mp h with rfl | h
        · exact .inr List.mem_cons_self
        · rcases ih h with rfl | h
          · exact .inl rfl
          · exact .inr (List.mem_cons_of_mem _ h)

theorem mem_of_mem_sortFields {field : Field} {fields : List Field}
    (h : field ∈ sortFields fields) : field ∈ fields := by
  have go : ∀ (fields sorted : List Field),
      field ∈ fields.foldl (fun sorted field => insertField field sorted) sorted →
        field ∈ fields ∨ field ∈ sorted := by
    intro fields
    induction fields with
    | nil => exact fun sorted h => .inr h
    | cons first rest ih =>
      intro sorted h
      rcases ih _ h with h | h
      · exact .inl (List.mem_cons_of_mem _ h)
      · rcases mem_of_mem_insertField h with rfl | h
        · exact .inl List.mem_cons_self
        · exact .inr h
  simpa using go fields [] h

theorem mem_of_lookup? {mapping : Mapping} {version : Nat} {name : String} {field : Field}
    (h : (ofMapping mapping version).lookup? name = some field) : field ∈ mapping.fields :=
  mem_of_mem_sortFields (List.mem_of_find?_eq_some h)

theorem name_of_lookup? {catalog : Catalog} {name : String} {field : Field}
    (h : catalog.lookup? name = some field) : field.name = name := by
  have hname := List.find?_some h
  exact of_decide_eq_true hname

theorem mem_names_insertField {name : String} {field : Field} {fields : List Field} :
    name ∈ (insertField field fields).map Field.name ↔
      name = field.name ∨ name ∈ fields.map Field.name := by
  induction fields with
  | nil => simp [insertField]
  | cons first rest ih =>
    unfold insertField
    split
    · exact List.mem_cons
    · split
      · rename_i heq
        simp [heq]
      · rw [List.map_cons, List.mem_cons, ih, List.map_cons, List.mem_cons]
        exact or_left_comm

theorem mem_names_sortFields {name : String} {fields : List Field} :
    name ∈ (sortFields fields).map Field.name ↔ name ∈ fields.map Field.name := by
  have go : ∀ (fields sorted : List Field),
      name ∈ (fields.foldl (fun sorted field => insertField field sorted) sorted).map Field.name ↔
        name ∈ fields.map Field.name ∨ name ∈ sorted.map Field.name := by
    intro fields
    induction fields with
    | nil => simp
    | cons first rest ih =>
      intro sorted
      rw [List.foldl_cons, ih, mem_names_insertField, List.map_cons, List.mem_cons, or_assoc]
      exact or_left_comm
  exact (go fields []).trans (or_iff_left List.not_mem_nil)

theorem exists_lookup? {mapping : Mapping} {version : Nat} {name : String}
    (h : ∃ field ∈ mapping.fields, field.name = name) :
    ∃ field, (ofMapping mapping version).lookup? name = some field := by
  have hname : name ∈ (sortFields mapping.fields).map Field.name :=
    mem_names_sortFields.mpr (List.mem_map.mpr h)
  obtain ⟨field, hfield, rfl⟩ := List.mem_map.mp hname
  exact Option.isSome_iff_exists.mp (List.find?_isSome.mpr ⟨field, hfield, decide_eq_true rfl⟩)

theorem lookup?_wellFormed {source : Json} {mapping : Mapping} {version : Nat} {name : String}
    {field : Field} (hkeys : source.KeysDistinct) (hread : Mapping.ofJson source = .ok mapping)
    (h : (ofMapping mapping version).lookup? name = some field) : field.WellFormed :=
  Mapping.field_wellFormed hkeys hread field (mem_of_lookup? h)

end Catalog

end ReportSearch
