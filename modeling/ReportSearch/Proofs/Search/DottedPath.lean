import Mathlib.Data.Nat.Find
import ReportSearch.Proofs.Json.Keys
import ReportSearch.Proofs.Text.Blank
import ReportSearch.Search.Document

/-!
# Values at dotted paths

A path finds its value at the first level where all segments that are left make up one key of the
object that the segments before them lead to, and it finds nothing if there is no such level. In a
document without dots in its keys, a path finds what its segments lead to one by one. It finds the
same where the segments below any level have become one dotted key.
-/

set_option autoImplicit false

namespace ReportSearch

open Text

namespace Json

/-- The segments of a path have no dots, and make up the path with dots between them. -/
structure HasSegments (path : String) (segments : List String) : Prop where
  ne_nil : segments ≠ []
  dotless : ∀ segment ∈ segments, '.' ∉ segment.toList
  joined : ".".intercalate segments = path

/-- The value that keys lead to, each followed in the object that those before it lead to. -/
def follow? : List String → Json → Option Json
  | [], document => some document
  | key :: rest, document => (document.get? key).bind (follow? rest)

/-- The value of the key that the segments behind the first `level` make up, in the object that
these first segments lead to. -/
def atLevel? (segments : List String) (level : Nat) (document : Json) : Option Json :=
  (follow? (segments.take level) document).bind (·.get? (".".intercalate (segments.drop level)))

/-- No object in the document, at any depth, has a key with a dot. -/
inductive IsDotless : Json → Prop where
  | null : IsDotless .null
  | bool (b : Bool) : IsDotless (.bool b)
  | num (n : Number) : IsDotless (.num n)
  | str (text : String) : IsDotless (.str text)
  | arr {items : List Json} (hitems : ∀ item ∈ items, IsDotless item) : IsDotless (.arr items)
  | obj {members : List (String × Json)} (hkeys : ∀ member ∈ members, '.' ∉ member.1.toList)
      (hvalues : ∀ member ∈ members, IsDotless member.2) : IsDotless (.obj members)

/-- The document with the segments of a path behind the first `level` made one dotted key. This key
has the value at the end of the path, in place of the next segment and what it led to. Beside it
stands what is `kept` of that. -/
def flattened? (kept : List (String × Json)) : Nat → List String → Json → Option Json
  | 0, segment :: rest, .obj members => do
    let value ← (members.lookup segment).bind (follow? rest)
    some (.obj (insertMember (".".intercalate (segment :: rest)) value
      (kept ++ members.filter fun member => member.1 ≠ segment)))
  | level + 1, segment :: rest, .obj members => do
    let flat ← (members.lookup segment).bind (flattened? kept level rest)
    some (.obj (insertMember segment flat members))
  | _, _, _ => none

variable {path key : String} {segments rest : List String} {document value : Json}

theorem hasSegments_iff :
    HasSegments path segments ↔ segments = (splitOnChar '.' path.toList).map String.ofList := by
  constructor
  · rintro ⟨hne, hdotless, rfl⟩
    rw [splitOnChar_toList_intercalate rfl hne hdotless, List.map_map]
    simp
  · rintro rfl
    refine ⟨?_, ?_, ?_⟩
    · rw [splitOnChar_eq_splitOn]
      exact mt List.map_eq_nil_iff.mp (List.splitOn_ne_nil '.' path.toList)
    · intro segment hsegment
      obtain ⟨piece, hpiece, rfl⟩ := List.mem_map.mp hsegment
      rw [String.toList_ofList]
      exact notMem_of_mem_splitOnChar piece hpiece
    · apply String.toList_injective
      rw [String.toList_intercalate, List.map_map]
      simpa using intercalate_splitOnChar

theorem joinSegments_map :
    joinSegments (segments.map String.toList) = ".".intercalate segments := by
  rw [joinSegments, ← String.toList_inj, String.toList_ofList, String.toList_intercalate]
  rfl

theorem HasSegments.atPath?_eq (h : HasSegments path segments) :
    atPath? path document = atSegments? (segments.map String.toList) document := by
  rw [atPath?, hasSegments_iff.mp h, List.map_map]
  simp

theorem atSegments?_cons :
    atSegments? ((key :: rest).map String.toList) document =
      (document.get? (".".intercalate (key :: rest))).or
        ((document.get? key).bind (atSegments? (rest.map String.toList))) := by
  rw [← joinSegments_map, List.map_cons, atSegments?, String.ofList_toList]
  cases document.get? (joinSegments (key.toList :: rest.map String.toList)) <;> rfl

theorem atLevel?_zero : atLevel? segments 0 document = document.get? (".".intercalate segments) :=
  rfl

theorem atLevel?_succ (level : Nat) :
    atLevel? (key :: rest) (level + 1) document =
      (document.get? key).bind (atLevel? rest level) := by
  simp only [atLevel?, List.take_succ_cons, List.drop_succ_cons, follow?, Option.bind_assoc]
  rfl

theorem atLevel?_of_get? {inner : Json} (h : document.get? key = some inner) (level : Nat) :
    atLevel? (key :: rest) (level + 1) document = atLevel? rest level inner := by
  rw [atLevel?_succ, h, Option.bind_some]

theorem atSegments?_of_atLevel? {level : Nat} (hlevel : level < segments.length)
    (hfound : atLevel? segments level document = some value)
    (hbefore : ∀ earlier < level, atLevel? segments earlier document = none) :
    atSegments? (segments.map String.toList) document = some value := by
  induction segments generalizing level document with
  | nil => exact absurd hlevel (Nat.not_lt_zero level)
  | cons key rest ih =>
    rw [atSegments?_cons]
    cases level with
    | zero =>
      rw [atLevel?_zero] at hfound
      rw [hfound, Option.some_or]
    | succ level =>
      have hwhole := hbefore 0 (Nat.succ_pos level)
      rw [atLevel?_zero] at hwhole
      rw [atLevel?_succ] at hfound
      obtain ⟨inner, hinner, hfound⟩ := Option.bind_eq_some_iff.mp hfound
      rw [hwhole, Option.none_or, hinner, Option.bind_some]
      apply ih (Nat.lt_of_succ_lt_succ hlevel) hfound
      intro earlier hearlier
      have hnone := hbefore (earlier + 1) (Nat.succ_lt_succ hearlier)
      rwa [atLevel?_of_get? hinner] at hnone

theorem atSegments?_eq_none
    (h : ∀ level < segments.length, atLevel? segments level document = none) :
    atSegments? (segments.map String.toList) document = none := by
  induction segments generalizing document with
  | nil => rfl
  | cons key rest ih =>
    have hwhole := h 0 (Nat.succ_pos rest.length)
    rw [atLevel?_zero] at hwhole
    rw [atSegments?_cons, hwhole, Option.none_or]
    apply Option.bind_eq_none_iff.mpr
    intro inner hinner
    apply ih
    intro level hlevel
    have hnone := h (level + 1) (Nat.succ_lt_succ hlevel)
    rwa [atLevel?_of_get? hinner] at hnone

theorem levels_cases (segments : List String) (document : Json) :
    (∀ level < segments.length, atLevel? segments level document = none) ∨
      ∃ level < segments.length, ∃ value, atLevel? segments level document = some value ∧
        ∀ earlier < level, atLevel? segments earlier document = none := by
  by_cases h : ∃ level, level < segments.length ∧ (atLevel? segments level document).isSome
  · obtain ⟨hlevel, hsome⟩ := Nat.find_spec h
    obtain ⟨value, hvalue⟩ := Option.isSome_iff_exists.mp hsome
    refine .inr ⟨Nat.find h, hlevel, value, hvalue, ?_⟩
    intro earlier hearlier
    have hnot := Nat.find_min h hearlier
    simpa [hearlier.trans hlevel] using hnot
  · refine .inl fun level hlevel => ?_
    simpa using mt (fun hsome => ⟨level, hlevel, hsome⟩) h

theorem HasSegments.atPath?_eq_some_iff (h : HasSegments path segments) :
    atPath? path document = some value ↔
      ∃ level < segments.length, atLevel? segments level document = some value ∧
        ∀ earlier < level, atLevel? segments earlier document = none := by
  rw [h.atPath?_eq]
  constructor
  · intro hfound
    rcases levels_cases segments document with hnone | ⟨level, hlevel, other, hother, hbefore⟩
    · rw [atSegments?_eq_none hnone] at hfound
      cases hfound
    · rw [atSegments?_of_atLevel? hlevel hother hbefore] at hfound
      cases hfound
      exact ⟨level, hlevel, hother, hbefore⟩
  · rintro ⟨level, hlevel, hfound, hbefore⟩
    exact atSegments?_of_atLevel? hlevel hfound hbefore

theorem HasSegments.atPath?_eq_none_iff (h : HasSegments path segments) :
    atPath? path document = none ↔
      ∀ level < segments.length, atLevel? segments level document = none := by
  rw [h.atPath?_eq]
  constructor
  · intro hnone
    rcases levels_cases segments document with hall | ⟨level, hlevel, value, hvalue, hbefore⟩
    · exact hall
    · rw [atSegments?_of_atLevel? hlevel hvalue hbefore] at hnone
      cases hnone
  · exact atSegments?_eq_none

theorem get?_obj (members : List (String × Json)) :
    (obj members).get? key = members.lookup key := rfl

theorem follow?_cons_eq_some (h : follow? (key :: rest) document = some value) :
    ∃ members inner, document = .obj members ∧ members.lookup key = some inner ∧
      follow? rest inner = some value := by
  obtain ⟨inner, hinner, hvalue⟩ := Option.bind_eq_some_iff.mp h
  obtain ⟨members, hmembers, hinner⟩ := Option.bind_eq_some_iff.mp hinner
  exact ⟨members, inner, eq_obj_of_members? hmembers, hinner, hvalue⟩

theorem IsDotless.of_lookup {members : List (String × Json)} (h : IsDotless (.obj members))
    (hvalue : members.lookup key = some value) : '.' ∉ key.toList ∧ value.IsDotless := by
  obtain ⟨before, after, rfl, -⟩ := List.lookup_eq_some_iff.mp hvalue
  have hmem : (key, value) ∈ before ++ (key, value) :: after := by simp
  cases h with
  | obj hkeys hvalues => exact ⟨hkeys _ hmem, hvalues _ hmem⟩

theorem dot_mem_intercalate (first second : String) (rest : List String) :
    '.' ∈ (".".intercalate (first :: second :: rest)).toList := by
  rw [String.intercalate_cons_cons]
  simp

theorem IsDotless.lookup_intercalate {members : List (String × Json)}
    (h : IsDotless (.obj members)) (first second : String) (rest : List String) :
    members.lookup (".".intercalate (first :: second :: rest)) = none := by
  apply Option.eq_none_iff_forall_ne_some.mpr
  intro value hvalue
  exact (h.of_lookup hvalue).1 (dot_mem_intercalate first second rest)

/-- Without dots in the keys, no level but the last has a value. -/
theorem IsDotless.atSegments?_of_follow? (h : document.IsDotless) (hne : segments ≠ [])
    (hvalue : follow? segments document = some value) :
    atSegments? (segments.map String.toList) document = some value := by
  induction segments generalizing document with
  | nil => exact absurd rfl hne
  | cons key rest ih =>
    obtain ⟨members, inner, rfl, hinner, hvalue⟩ := follow?_cons_eq_some hvalue
    rw [atSegments?_cons, get?_obj, get?_obj]
    cases rest with
    | nil =>
      cases hvalue
      exact Option.or_eq_some_iff.mpr (.inl hinner)
    | cons second rest =>
      rw [h.lookup_intercalate, Option.none_or, hinner, Option.bind_some]
      exact ih (h.of_lookup hinner).2 (List.cons_ne_nil second rest) hvalue

theorem IsDotless.atSegments?_flattened? (h : document.IsDotless)
    (hvalue : follow? segments document = some value) {level : Nat}
    (hlevel : level < segments.length) (kept : List (String × Json)) :
    ∃ flat, flattened? kept level segments document = some flat ∧
      atSegments? (segments.map String.toList) flat = some value := by
  induction level generalizing segments document with
  | zero =>
    obtain ⟨key, rest, rfl⟩ := List.exists_cons_of_length_pos hlevel
    obtain ⟨members, inner, rfl, hinner, hvalue⟩ := follow?_cons_eq_some hvalue
    refine ⟨.obj (insertMember (".".intercalate (key :: rest)) value
      (kept ++ members.filter fun member => member.1 ≠ key)), ?_, ?_⟩
    · rw [flattened?, hinner, Option.bind_some, hvalue]
      rfl
    · rw [atSegments?_cons, get?_obj, lookup_insertMember, if_pos rfl, Option.some_or]
  | succ level ih =>
    obtain ⟨key, rest, rfl⟩ := List.exists_cons_of_length_pos (Nat.zero_lt_of_lt hlevel)
    obtain ⟨members, inner, rfl, hinner, hvalue⟩ := follow?_cons_eq_some hvalue
    have hrest : level < rest.length := Nat.lt_of_succ_lt_succ hlevel
    obtain ⟨flat, hflat, hfound⟩ := ih (h.of_lookup hinner).2 hvalue hrest
    refine ⟨.obj (insertMember key flat members), ?_, ?_⟩
    · rw [flattened?, hinner, Option.bind_some, hflat]
      rfl
    · -- above the flattened level the keys are those of the document, and none has a dot
      obtain ⟨second, rest, rfl⟩ := List.exists_cons_of_length_pos (Nat.zero_lt_of_lt hrest)
      have hne : key ≠ ".".intercalate (key :: second :: rest) := by
        intro heq
        apply (h.of_lookup hinner).1
        rw [heq]
        exact dot_mem_intercalate key second rest
      rw [atSegments?_cons, get?_obj, get?_obj, lookup_insertMember, lookup_insertMember,
        if_neg hne, if_pos rfl, h.lookup_intercalate, Option.none_or, Option.bind_some]
      exact hfound

/-- A path finds the value at the first level that has one, and nothing where no level has. So what
its segments lead to in a document without dots in its keys is found there, and also after the
segments below any level have become one dotted key. -/
theorem found_at_first_level (hpath : HasSegments path segments) :
    (∀ document value, atPath? path document = some value ↔
      ∃ level < segments.length, atLevel? segments level document = some value ∧
        ∀ earlier < level, atLevel? segments earlier document = none) ∧
    (∀ document, atPath? path document = none ↔
      ∀ level < segments.length, atLevel? segments level document = none) ∧
    ∀ document value, IsDotless document → follow? segments document = some value →
      atPath? path document = some value ∧
      ∀ level < segments.length, ∀ kept, ∃ flat,
        flattened? kept level segments document = some flat ∧ atPath? path flat = some value := by
  refine ⟨fun _ _ => hpath.atPath?_eq_some_iff, fun _ => hpath.atPath?_eq_none_iff, ?_⟩
  intro document value hdotless hvalue
  constructor
  · rw [hpath.atPath?_eq]
    exact hdotless.atSegments?_of_follow? hpath.ne_nil hvalue
  · intro level hlevel kept
    obtain ⟨flat, hflat, hfound⟩ := hdotless.atSegments?_flattened? hvalue hlevel kept
    exact ⟨flat, hflat, hpath.atPath?_eq.trans hfound⟩

/-- A tree with an empty key on the way to one of its values. -/
def nestedSystem : Json :=
  .obj [("system", .obj [("", .obj [("cores", .ofNat 8), ("threads", .ofNat 16)]),
    ("os", .str "Linux")]), ("note", .null)]

/-- A tree that has the end of a path twice, in objects and as one key. -/
def mixedSystem : Json :=
  .obj [("system", .obj [("", .obj [("cores", .ofNat 8)]), (".cores", .ofNat 4)])]

theorem systemCores_found :
    HasSegments "system..cores" ["system", "", "cores"] ∧
      atPath? "system..cores" mixedSystem = some (.ofNat 4) ∧
      atPath? "system..cores" (.obj [("system.", .null), ("system", .obj [])]) = none ∧
      nestedSystem.IsDotless ∧
      atPath? "system..cores" nestedSystem = some (.ofNat 8) ∧
      ∃ flat, flat = .obj [("system", .obj [("threads", .ofNat 16), ("os", .str "Linux"),
            (".cores", .ofNat 8)]), ("note", .null)] ∧
        flattened? [("threads", .ofNat 16)] 1 ["system", "", "cores"] nestedSystem = some flat ∧
        atPath? "system..cores" flat = some (.ofNat 8) := by
  have hpath : HasSegments "system..cores" ["system", "", "cores"] :=
    ⟨List.cons_ne_nil _ _, by decide, by decide⟩
  have hcounts : IsDotless (.obj [("cores", .ofNat 8), ("threads", .ofNat 16)]) :=
    .obj (by decide) (by simpa using ⟨.num _, .num _⟩)
  have hsystem : IsDotless (.obj [("", .obj [("cores", .ofNat 8), ("threads", .ofNat 16)]),
      ("os", .str "Linux")]) := .obj (by decide) (by simpa using ⟨hcounts, .str _⟩)
  have hdotless : nestedSystem.IsDotless := .obj (by decide) (by simpa using ⟨hsystem, .null⟩)
  obtain ⟨hfound, hnone, hnested⟩ := found_at_first_level hpath
  obtain ⟨hvalue, hflattened⟩ := hnested nestedSystem (.ofNat 8) hdotless rfl
  refine ⟨hpath, (hfound _ _).mpr ⟨1, by decide, rfl, ?_⟩, (hnone _).mpr ?_, hdotless, hvalue, ?_⟩
  · intro earlier hearlier
    obtain rfl := Nat.lt_one_iff.mp hearlier
    rfl
  · decide
  · obtain ⟨flat, hflat, hvalue⟩ := hflattened 1 (by decide) [("threads", .ofNat 16)]
    refine ⟨flat, ?_, hflat, hvalue⟩
    exact (Option.some.inj hflat).symm

end Json

end ReportSearch
