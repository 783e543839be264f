import Mathlib.Data.List.TakeWhile
import ReportSearch.Proofs.Catalog.Listing

/-!
# The two forms of a multi-field

A field with several variants is declared as its root, which has the others under `fields`. In the
older form all of them stand under `fields`, the root among the others under the last part of the
field's name. The two forms declare the same field, and what is wrong with one is wrong with the
other.
-/

set_option autoImplicit false

namespace ReportSearch

open Attempts

namespace Mapping

/-- The last part of a dotted name, which is the whole of a name without dots. -/
def IsLeaf (leaf name : String) : Prop :=
  '.' ∉ leaf.toList ∧ (name = leaf ∨ ∃ path, name = path ++ "." ++ leaf)

theorem leafName_eq {leaf name : String} (h : IsLeaf leaf name) : leafName name = leaf := by
  obtain ⟨hdot, hname⟩ := h
  have hplain : ∀ c ∈ leaf.toList.reverse, (c != '.') = true := by
    intro c hc
    rw [bne_iff_ne]
    rintro rfl
    exact hdot (List.mem_reverse.mp hc)
  have htake : name.toList.reverse.takeWhile (· != '.') = leaf.toList.reverse := by
    rcases hname with rfl | ⟨path, rfl⟩
    · exact List.takeWhile_eq_self_iff.mpr hplain
    · have hreverse : (path ++ "." ++ leaf).toList.reverse =
          leaf.toList.reverse ++ '.' :: path.toList.reverse := by simp
      rw [hreverse, List.takeWhile_append_of_pos hplain]
      simp
  rw [leafName, htake, List.reverse_reverse, String.ofList_toList]

/-- Two declarations that have the same members but for those of one key. -/
def AgreeBeside (key : String) (spec other : Members) : Prop :=
  ∀ k, k ≠ key → other.lookup k = spec.lookup k

theorem agreeBeside_insert (key : String) (value : Json) (before after : Members) :
    AgreeBeside key (before ++ after) (before ++ (key, value) :: after) := by
  intro k hk
  have hne : (k == key) = false := beq_false_of_ne hk
  rw [List.lookup_append, List.lookup_append, List.lookup_cons, hne]

theorem lookup_insert_self {key : String} {before after : Members} (value : Json)
    (h : (before ++ after).lookup key = none) :
    (before ++ (key, value) :: after).lookup key = some value := by
  rw [List.lookup_append, Option.or_eq_none_iff] at h
  rw [List.lookup_append, h.1, List.lookup_cons_self, Option.none_or]

theorem filter_insert {key : String} {before after : Members} (value : Json)
    (h : (before ++ after).lookup key = none) :
    (before ++ (key, value) :: after).filter (·.1 != key) = before ++ after := by
  have hkeep : ∀ member ∈ before ++ after, (member.1 != key) = true := by
    intro member hmember
    rw [bne_comm]
    exact List.lookup_eq_none_iff.mp h member hmember
  have hsplit : (before ++ (key, value) :: after).filter (·.1 != key) =
      (before ++ after).filter (·.1 != key) := by simp
  rw [hsplit, List.filter_eq_self]
  exact hkeep

section Beside

variable {spec other : Members}

theorem analyzerOf_eq (h : AgreeBeside "fields" spec other) : analyzerOf other = analyzerOf spec := by
  rw [analyzerOf, analyzerOf, h "analyzer" (by decide)]

theorem dateFormatsOf_eq (h : AgreeBeside "fields" spec other) :
    dateFormatsOf other = dateFormatsOf spec := by
  rw [dateFormatsOf, dateFormatsOf, h "format" (by decide)]

/-- The members under `fields` have no part in the kind and the type of a declaration. -/
theorem classify_eq (h : AgreeBeside "fields" spec other) (isBelowDate : Bool) (type : String) :
    classify isBelowDate type other = classify isBelowDate type spec := by
  have hindex := h "index" (by decide)
  have hexcluded : isExcluded other = isExcluded spec := by rw [isExcluded, isExcluded, hindex]
  rw [classify, classify, hexcluded, hindex, dateFormatsOf_eq h]

/-- Nor have they a part in what a field takes from its declaration beside its variants. -/
theorem assemble_eq (h : AgreeBeside "fields" spec other) (name : String) (type : FieldType)
    (root : Variant) (others : List Variant) :
    assemble name type root others other = assemble name type root others spec := by
  have hformats : declaredFormats type other = declaredFormats type spec := by
    rw [declaredFormats, declaredFormats, dateFormatsOf_eq h, hasKey, hasKey,
      h "format" (by decide)]
  have hopen : openness type other = openness type spec := by
    rw [openness, openness, hasKey, hasKey, h "dynamic" (by decide), h "properties" (by decide)]
  have hnull : declaredNullValue type other = declaredNullValue type spec := by
    rw [declaredNullValue, declaredNullValue, h "null_value" (by decide)]
  rw [assemble, assemble, hformats, hopen, hnull]

end Beside

/-- The field of a root declaration with other variants, under whichever form they are written. -/
def multiField (name type : String) (spec variants : Members) : Except DeclarationFault Field := do
  let (kind, type) ← classify false type spec
  let others ← variantsOf name type variants
  assemble name type (Variant.root name kind (analyzerOf spec)) others spec

/-- What an entry gives for a field that has none below it. -/
def alone (name : String) (attempt : Except DeclarationFault Field) :
    Except CatalogFault (List Field) :=
  if isFieldName name then (attempt.mapError (CatalogFault.field name)).map fun field => [field]
  else .error (.field name .badName)

theorem entryFields_eq_alone {name declared : String} {spec : Members}
    (hdeclared : declaredType spec = .ok declared)
    (hleaf : ∀ field, fieldOf name declared spec = .ok field → field.isObject = true →
      declared ≠ "multi_field" → spec.lookup "properties" = none) :
    entryFields name (.obj spec) = alone name (fieldOf name declared spec) := by
  rw [entryFields.eq_def, alone]
  cases isFieldName name with
  | false => rfl
  | true =>
    simp only [Bool.not_true, Bool.false_eq_true, if_false, if_true, hdeclared]
    cases hfield : fieldOf name declared spec with
    | error fault => rfl
    | ok field =>
      dsimp only
      split
      · rename_i htree
        rw [Bool.and_eq_true, bne_iff_ne] at htree
        have hnone := hleaf field hfield htree.1 htree.2
        split
        · rfl
        · rename_i children hchildren
          cases hnone.symm.trans hchildren
        · rename_i value hvalue
          cases hnone.symm.trans hvalue
      · rfl

theorem alone_eq_ok {name type : String} {spec variants : Members} {fields : List Field}
    (h : alone name (multiField name type spec variants) = .ok fields) :
    ∃ field, fields = [field] ∧ field.name = name := by
  unfold alone at h
  split at h
  · obtain ⟨field, hfield, rfl⟩ := map_eq_ok_iff.mp h
    refine ⟨field, rfl, ?_⟩
    rw [mapError_eq_ok_iff, multiField] at hfield
    simp only [bind_eq_ok_iff] at hfield
    obtain ⟨⟨kind, found⟩, -, others, -, hfield⟩ := hfield
    exact (name_of_assemble hfield).1
  · cases h

section Forms

variable {name type : String} {spec outer front back : Members}

theorem entryFields_older
    (htype : outer.lookup "type" = some (.str "multi_field"))
    (hfields : outer.lookup "fields" = some (.obj (front ++ (leafName name, .obj spec) :: back)))
    (hnew : (front ++ back).lookup (leafName name) = none)
    (hroot : spec.lookup "type" = some (.str type)) :
    entryFields name (.obj outer) = alone name (multiField name type spec (front ++ back)) := by
  have hdeclared : declaredType outer = .ok "multi_field" := by rw [declaredType, htype]
  have hlegacy : fieldOf name "multi_field" outer = multiField name type spec (front ++ back) := by
    simp only [fieldOf, if_true, legacyField, hfields, Option.bind_some, Json.members?,
      lookup_insert_self _ hnew, filter_insert _ hnew, hroot, Json.text?, multiField]
  rw [entryFields_eq_alone hdeclared fun _ _ _ hne => absurd rfl hne, hlegacy]

theorem entryFields_newer (hbeside : AgreeBeside "fields" spec outer)
    (hroot : spec.lookup "type" = some (.str type)) (hmodern : type ≠ "multi_field")
    (hfields : outer.lookup "fields" = some (.obj (front ++ back)))
    (hchildren : type = "object" ∨ type = "nested" → spec.lookup "properties" = none) :
    entryFields name (.obj outer) = alone name (multiField name type spec (front ++ back)) := by
  have htype : outer.lookup "type" = some (.str type) := (hbeside "type" (by decide)).trans hroot
  have hdeclared : declaredType outer = .ok type := by rw [declaredType, htype]
  have hown : fieldOf name type outer = multiField name type spec (front ++ back) := by
    simp only [fieldOf, if_neg hmodern, otherVariants, hfields, classify_eq hbeside,
      assemble_eq hbeside, analyzerOf_eq hbeside, multiField]
  rw [entryFields_eq_alone hdeclared ?_, hown]
  intro field hfield hobject _
  have htree := (isTree_iff hdeclared hfield).mpr ⟨hobject, hmodern⟩
  rw [hbeside "properties" (by decide)]
  exact hchildren (by simpa [isTree, htype] using htree)

end Forms

/-- Entries that declare the same do so among whatever other entries. -/
theorem entriesFields_congr {path key : String} {entry other : Json} (before after : Members)
    (h : entryFields (path ++ key) entry = entryFields (path ++ key) other) :
    entriesFields path (before ++ (key, entry) :: after) =
      entriesFields path (before ++ (key, other) :: after) := by
  induction before with
  | nil => rw [List.nil_append, List.nil_append, entriesFields, entriesFields, h]
  | cons member rest ih =>
    obtain ⟨k, value⟩ := member
    rw [List.cons_append, List.cons_append, entriesFields, entriesFields, ih]

/-- A root declaration that has the other variants under `fields` and the older form, in which it
stands among them at any place, declare the same one field or fail with the same fault. -/
theorem multiField_forms_agree {name leaf type : String} {before after front back : Members}
    (hleaf : IsLeaf leaf name)
    (htype : (before ++ after).lookup "type" = some (.str type)) (hmodern : type ≠ "multi_field")
    (hfields : (before ++ after).lookup "fields" = none)
    (hchildren : type = "object" ∨ type = "nested" → (before ++ after).lookup "properties" = none)
    (hnew : (front ++ back).lookup leaf = none) :
    let older : Json := .obj [("type", .str "multi_field"),
      ("fields", .obj (front ++ (leaf, .obj (before ++ after)) :: back))]
    let newer : Json := .obj (before ++ ("fields", .obj (front ++ back)) :: after)
    entryFields name older = entryFields name newer ∧
    (∀ fields, entryFields name newer = .ok fields → ∃ field, fields = [field] ∧ field.name = name) ∧
    ∀ (path key : String) (others behind : Members), path ++ key = name →
      entriesFields path (others ++ (key, older) :: behind) =
        entriesFields path (others ++ (key, newer) :: behind) := by
  intro older newer
  obtain rfl := leafName_eq hleaf
  have holder : entryFields name older =
      alone name (multiField name type (before ++ after) (front ++ back)) :=
    entryFields_older rfl rfl hnew htype
  have hnewer : entryFields name newer =
      alone name (multiField name type (before ++ after) (front ++ back)) :=
    entryFields_newer (agreeBeside_insert "fields" _ before after) htype hmodern
      (lookup_insert_self _ hfields) hchildren
  have hsame := holder.trans hnewer.symm
  refine ⟨hsame, ?_, ?_⟩
  · intro fields h
    rw [hnewer] at h
    exact alone_eq_ok h
  · rintro path key others behind rfl
    exact entriesFields_congr others behind hsame

/-- A text below an object, with a variant on either side of the place where its root may stand. -/
def notesRoot : Members := [("type", .str "string"), ("analyzer", .str "words")]

def notesVariants : Members :=
  [("full", .obj [("type", .str "keyword")]), ("size", .obj [("type", .str "long")])]

def notesOlder : Json :=
  .obj [("type", .str "multi_field"),
    ("fields", .obj
      [("full", .obj [("type", .str "keyword")]), ("notes", .obj notesRoot),
        ("size", .obj [("type", .str "long")])])]

def notesNewer : Json :=
  .obj [("type", .str "string"), ("fields", .obj notesVariants), ("analyzer", .str "words")]

def notesField : Field where
  name := "system.notes"
  type := .string
  rootVariant := .root "system.notes" .analyzed (some "words")
  otherVariants :=
    [.named "system.notes" "full" .exact none, .named "system.notes" "size" .numeric none]

theorem notes_forms_agree :
    IsLeaf "notes" "system.notes" ∧ notesRoot.lookup "type" = some (.str "string") ∧
      notesRoot.lookup "fields" = none ∧ notesVariants.lookup "notes" = none ∧
      entryFields "system.notes" notesOlder = .ok [notesField] ∧
      entryFields "system.notes" notesNewer = .ok [notesField] := by
  have hleaf : IsLeaf "notes" "system.notes" := ⟨by decide, Or.inr ⟨"system", rfl⟩⟩
  have hnewer : entryFields "system.notes" notesNewer = .ok [notesField] := by decide +kernel
  have hsame : entryFields "system.notes" notesOlder = entryFields "system.notes" notesNewer :=
    (@multiField_forms_agree "system.notes" "notes" "string"
      [("type", .str "string")] [("analyzer", .str "words")]
      [("full", .obj [("type", .str "keyword")])] [("size", .obj [("type", .str "long")])]
      hleaf rfl (by decide) rfl (fun _ => rfl) rfl).1
  exact ⟨hleaf, rfl, rfl, rfl, hsame.trans hnewer, hnewer⟩

end Mapping

end ReportSearch
