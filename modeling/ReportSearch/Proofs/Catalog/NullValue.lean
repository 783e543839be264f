import ReportSearch.Proofs.Catalog.Lookup
import ReportSearch.Proofs.Json.Numbers

/-!
# Null values of fields

A null value is a number, a text or a truth value that the mapping holds, so its number is one that
is represented. It is not held to the 32 bits of a field of type `integer`.
-/

set_option autoImplicit false

namespace ReportSearch

/-- An integer of 64 bits, a finite double, or no number at all. -/
def NullValue.IsRepresented : NullValue → Prop
  | .integer i => Number.isInt64 i = true
  | .double x => x.isFinite = true
  | _ => True

theorem Number.int64?_eq_some_iff {n : Number} {i : Int} :
    n.int64? = some i ↔ n = .int i ∧ isInt64 i = true := by
  cases n with
  | double x => simp [int64?]
  | int j =>
    simp only [int64?, Number.int.injEq]
    split
    · rename_i hj
      rw [Option.some.injEq]
      constructor
      · rintro rfl
        exact ⟨rfl, hj⟩
      · exact fun h => h.1
    · rename_i hj
      constructor
      · intro h
        cases h
      · rintro ⟨rfl, hi⟩
        exact absurd hi hj

namespace Mapping

open Attempts Json

theorem nullValueOf_integer {type : FieldType} {json : Json} {i : Int}
    (h : nullValueOf type json = .ok (.integer i)) : json.int64? = some i := by
  rcases nullValueOf_eq_ok h with rfl | rfl <;> simp only [nullValueOf] at h
  all_goals
    cases hi : json.int64? with
    | none =>
      rw [hi] at h
      cases h
    | some j =>
      rw [hi] at h
      cases h
      rfl

theorem nullValueOf_double {type : FieldType} {json : Json} {x : Double}
    (h : nullValueOf type json = .ok (.double x)) : ∃ n, json = .num n ∧ n.toDouble = x := by
  obtain rfl : type = .double := nullValueOf_eq_ok h
  simp only [nullValueOf] at h
  cases json with
  | num n =>
    cases h
    exact ⟨n, rfl, rfl⟩
  | _ => cases h

theorem nullValueOf_isRepresented {type : FieldType} {json : Json} {value : NullValue}
    (hjson : json.NumbersRepresented) (h : nullValueOf type json = .ok value) :
    value.IsRepresented := by
  cases value with
  | boolean b => trivial
  | text s => trivial
  | integer i =>
    obtain ⟨n, -, hn⟩ := Option.bind_eq_some_iff.mp (nullValueOf_integer h)
    exact (Number.int64?_eq_some_iff.mp hn).2
  | double x =>
    obtain ⟨n, rfl, rfl⟩ := nullValueOf_double h
    exact Number.isFinite_toDouble (hjson n List.mem_cons_self)

theorem declaredNullValue_of_lookup {Q : Json → Prop} (hdown : PassesDown Q) {type : FieldType}
    {spec : Members} {value : NullValue} (hspec : Q (obj spec))
    (h : declaredNullValue type spec = .ok (some value)) :
    ∃ json, Q json ∧ nullValueOf type json = .ok value := by
  unfold declaredNullValue at h
  split at h
  · cases h
  · cases h
  · rename_i json _ hjson
    obtain ⟨found, hfound, heq⟩ := map_eq_ok_iff.mp h
    cases heq
    exact ⟨json, hdown.of_lookup hspec hjson, hfound⟩

theorem assemble_nullValue {Q : Json → Prop} (hdown : PassesDown Q) {name : String}
    {type : FieldType} {root : Variant} {others : List Variant} {spec : Members} {field : Field}
    {value : NullValue} (hspec : Q (obj spec))
    (h : assemble name type root others spec = .ok field) (hvalue : field.nullValue = some value) :
    ∃ json, Q json ∧ nullValueOf field.type json = .ok value := by
  obtain ⟨formats, isOpenEnded, nullValue, _, _, hnull, rfl⟩ := assemble_eq_ok h
  obtain rfl : nullValue = some value := hvalue
  exact declaredNullValue_of_lookup hdown hspec hnull

theorem fieldOf_nullValue {Q : Json → Prop} (hdown : PassesDown Q) {name declared : String}
    {spec : Members} {field : Field} {value : NullValue} (hspec : Q (obj spec))
    (h : fieldOf name declared spec = .ok field) (hvalue : field.nullValue = some value) :
    ∃ json, Q json ∧ nullValueOf field.type json = .ok value := by
  obtain ⟨type, root, others, own, hown, h⟩ := assemble_of_fieldOf h
  exact assemble_nullValue hdown (hown hdown hspec) h hvalue

theorem nullValue_isRepresented {source : Json} {mapping : Mapping}
    (hnumbers : source.NumbersRepresented) (h : ofJson source = .ok mapping) :
    ∀ field ∈ mapping.fields, ∀ value, field.nullValue = some value → value.IsRepresented := by
  intro field hf value hvalue
  obtain ⟨own, hown, rfl⟩ := forall_fields (P := fun field => ∀ value,
    field.nullValue = some value → value.IsRepresented) numbersRepresented_passesDown
    (fun _ hspec hfield value hvalue => by
      obtain ⟨json, hjson, hnull⟩ :=
        fieldOf_nullValue numbersRepresented_passesDown hspec hfield hvalue
      exact nullValueOf_isRepresented hjson hnull) hnumbers h field hf
  refine hown value ?_
  split at hvalue
  · exact hvalue
  · exact hvalue

end Mapping

namespace Catalog

theorem lookup?_nullValue_isRepresented {source : Json} {mapping : Mapping} {version : Nat}
    {name : String} {field : Field} {value : NullValue} (hnumbers : source.NumbersRepresented)
    (hread : Mapping.ofJson source = .ok mapping)
    (h : (ofMapping mapping version).lookup? name = some field)
    (hvalue : field.nullValue = some value) : value.IsRepresented :=
  Mapping.nullValue_isRepresented hnumbers hread field (mem_of_lookup? h) value hvalue

end Catalog

end ReportSearch
