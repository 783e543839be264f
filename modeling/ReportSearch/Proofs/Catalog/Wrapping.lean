import ReportSearch.Proofs.Catalog.Reading

/-!
# What stands around a mapping

The body of a mapping is the object that has `properties`. It may stand under `mappings`, as the
only member of a document type, or under both, and what is read of it is the same each time: the
same mapping, or the same fault.
-/

set_option autoImplicit false

namespace ReportSearch.Mapping

/-- The object in which the body of a mapping is looked for: what stands under `mappings`, or the
source itself if it has no such key. -/
inductive Frames : Json → Members → Prop where
  | bare {outer : Members} (hnone : outer.lookup "mappings" = none) : Frames (.obj outer) outer
  | mappings {outer inner : Members} (hinner : outer.lookup "mappings" = some (.obj inner)) :
      Frames (.obj outer) inner

/-- What a frame holds once the document type is taken off, if there is one. -/
def withoutType (inner : Members) : Members :=
  match inner with
  | [(key, .obj typed)] =>
    if key ≠ "properties" ∧ hasKey typed "properties" then typed else inner
  | _ => inner

/-- A body stands in its frame by itself, or as the only member of a document type. -/
def StandsIn (members inner : Members) : Prop :=
  inner = members ∨ ∃ type, type ≠ "properties" ∧ inner = [(type, .obj members)]

variable {source : Json} {inner members : Members}

theorem body_of_frames (h : Frames source inner) : body source = .ok (withoutType inner) := by
  have hrest : ∀ attempt : Except OutlineFault Members, attempt = .ok inner →
      (attempt >>= fun inner => match inner with
        | [(key, .obj typed)] =>
          if (key != "properties" && hasKey typed "properties") = true then pure typed
          else pure inner
        | _ => pure inner) = .ok (withoutType inner) := by
    rintro _ rfl
    simp only [bind, Except.bind, Bool.and_eq_true, bne_iff_ne]
    unfold withoutType
    split
    · split <;> rfl
    · rfl
  cases h with
  | bare hnone =>
    simp only [body, hnone]
    exact hrest _ rfl
  | mappings hinner =>
    simp only [body, hinner]
    exact hrest _ rfl

theorem exists_frames (h : body source = .ok members) : ∃ inner, Frames source inner := by
  unfold body at h
  split at h
  · extract_lets typed at h
    split at h
    · rename_i hnone
      exact ⟨_, .bare hnone⟩
    · rename_i hinner
      exact ⟨_, .mappings hinner⟩
    · cases h
  · cases h

theorem hasKey_singleton {key other : String} {value : Json} :
    hasKey [(key, value)] other = true ↔ other = key := by
  by_cases h : other = key
  · simp [hasKey, h]
  · simp [hasKey, List.lookup_cons, beq_false_of_ne h, h]

/-- A body is told from a document type by its `properties`, whatever else it holds. -/
theorem withoutType_eq_iff (hproperties : hasKey members "properties" = true) :
    withoutType inner = members ↔ StandsIn members inner := by
  unfold withoutType StandsIn
  split
  · rename_i key typed
    split
    · rename_i htyped
      constructor
      · rintro rfl
        exact Or.inr ⟨key, htyped.1, rfl⟩
      · rintro (rfl | ⟨type, -, heq⟩)
        · exact absurd (hasKey_singleton.mp hproperties).symm htyped.1
        · cases heq
          rfl
    · rename_i hbody
      refine (or_iff_left ?_).symm
      rintro ⟨type, htype, heq⟩
      cases heq
      exact hbody ⟨htype, hproperties⟩
  · rename_i hother
    refine (or_iff_left ?_).symm
    rintro ⟨type, -, htype⟩
    exact hother _ _ htype

/-- The body of a source is an object with `properties` exactly if it stands in the frame of the
source. -/
theorem body_eq_ok_iff (hproperties : hasKey members "properties" = true) :
    body source = .ok members ↔ ∃ inner, Frames source inner ∧ StandsIn members inner := by
  constructor
  · intro h
    obtain ⟨inner, hinner⟩ := exists_frames h
    rw [body_of_frames hinner] at h
    exact ⟨inner, hinner, (withoutType_eq_iff hproperties).mp (Except.ok.inj h)⟩
  · rintro ⟨inner, hinner, hstands⟩
    rw [body_of_frames hinner, (withoutType_eq_iff hproperties).mpr hstands]

theorem ofJson_eq_of_body (hmappings : hasKey members "mappings" = false)
    (hproperties : hasKey members "properties" = true) (h : body source = .ok members) :
    ofJson source = ofJson (.obj members) := by
  have hnone : members.lookup "mappings" = none :=
    Option.isNone_iff_eq_none.mp (Option.isSome_eq_false_iff.mp hmappings)
  have hbare : body (.obj members) = .ok members :=
    (body_eq_ok_iff hproperties).mpr ⟨members, .bare hnone, Or.inl rfl⟩
  rw [ofJson, ofJson, h, hbare]

/-- A body with `properties`, whatever else it holds, is read the same by itself, under `mappings`,
under the name of a document type, and under both. -/
theorem wrappers_transparent {type : String} (hproperties : hasKey members "properties" = true)
    (hmappings : hasKey members "mappings" = false) (htype : type ≠ "mappings")
    (htype' : type ≠ "properties") :
    let bare : Json := .obj members
    let typed : Json := .obj [(type, bare)]
    ofJson (.obj [("mappings", bare)]) = ofJson bare ∧ ofJson typed = ofJson bare ∧
      ofJson (.obj [("mappings", typed)]) = ofJson bare := by
  intro bare typed
  have hlookup : ∀ value : Json, [("mappings", value)].lookup "mappings" = some value :=
    fun value => List.lookup_cons_self
  have hnone : [(type, bare)].lookup "mappings" = none := by
    simp [List.lookup_cons, beq_false_of_ne (Ne.symm htype)]
  have hbody : ∀ {source inner}, Frames source inner → StandsIn members inner →
      ofJson source = ofJson bare := fun hframes hstands =>
    ofJson_eq_of_body hmappings hproperties
      ((body_eq_ok_iff hproperties).mpr ⟨_, hframes, hstands⟩)
  refine ⟨?_, ?_, ?_⟩
  · exact hbody (.mappings (hlookup bare)) (Or.inl rfl)
  · exact hbody (.bare hnone) (Or.inr ⟨type, htype', rfl⟩)
  · exact hbody (.mappings (hlookup typed)) (Or.inr ⟨type, htype', rfl⟩)

/-- A body of which the fields have the names of what may stand around it. -/
def nestedBody : Members :=
  [("_meta", .obj [("default_columns", .arr [.str "mappings"])]),
    ("properties", .obj
      [("mappings", .obj [("type", .str "keyword")]),
        ("properties", .obj [("properties", .obj [("type", .obj [("type", .str "long")])])])])]

def nestedMapping : Mapping where
  fields :=
    [{ name := "mappings", type := .keyword, rootVariant := .root "mappings" .exact none
       otherVariants := [], isDefaultColumn := true },
     { name := "properties", type := .nestedObject, rootVariant := .root "properties" .object none
       otherVariants := [] },
     { name := "properties.type", type := .long
       rootVariant := .root "properties.type" .numeric none, otherVariants := [] }]
  defaultColumns := ["mappings"]
  versionTag := none

/-- The name of its document type is that of its notes. -/
theorem nestedBody_wrapped :
    hasKey nestedBody "properties" = true ∧ hasKey nestedBody "mappings" = false ∧
      ofJson (.obj nestedBody) = .ok nestedMapping ∧
      ofJson (.obj [("mappings", .obj nestedBody)]) = .ok nestedMapping ∧
      ofJson (.obj [("_meta", .obj nestedBody)]) = .ok nestedMapping ∧
      ofJson (.obj [("mappings", .obj [("_meta", .obj nestedBody)])]) = .ok nestedMapping := by
  have hbare : ofJson (.obj nestedBody) = .ok nestedMapping := by decide +kernel
  obtain ⟨hmappings, htyped, hboth⟩ :=
    @wrappers_transparent nestedBody "_meta" rfl rfl (by decide) (by decide)
  exact ⟨rfl, rfl, hbare, hmappings.trans hbare, htyped.trans hbare, hboth.trans hbare⟩

end ReportSearch.Mapping
