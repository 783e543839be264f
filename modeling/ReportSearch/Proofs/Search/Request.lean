import ReportSearch.Proofs.Json.Printed
import ReportSearch.Search.Request

/-!
# Requests that come back

A request is decoded from the JSON that it is written as. As a value it always comes back; as text
it does exactly when the values of its rules do. A facet may be written in several ways, which all
mean the same.
-/

set_option autoImplicit false

namespace ReportSearch

namespace FacetRequest

/-- The ways to write a facet: by its name, or as an object in which a missing size is left out or
null. -/
inductive IsForm : FacetRequest → Json → Prop
  | name (field : String) : IsForm { field } (.str field)
  | members (facet : FacetRequest) : IsForm facet facet.json
  | nullSize (field : String) : IsForm { field } (.obj [("field", .str field), ("size", .null)])

end FacetRequest

namespace SearchRequest

/-- The request with its facets written as these values. -/
def jsonWith (request : SearchRequest) (facets : List Json) : Json :=
  .obj [("rules", .arr (request.rules.map Rule.json)), ("facets", .arr facets),
    ("columns", .ofStrings request.columns), ("offset", .ofNat request.offset),
    ("limit", (request.limit.map Json.ofNat).getD .null)]

/-- A request of values and sizes as the program can hold them. -/
structure IsRepresented (request : SearchRequest) : Prop where
  keys : ∀ rule ∈ request.rules, rule.value.KeysDistinct
  numbers : ∀ rule ∈ request.rules, rule.value.NumbersRepresented
  sizes : ∀ facet ∈ request.facets, ∀ size ∈ facet.size, size ≤ Number.greatestNat64
  offset : request.offset ≤ Number.greatestNat64
  limit : ∀ limit ∈ request.limit, limit ≤ Number.greatestNat64

/-- The values of the rules come back from text. Three containers are around each of them. -/
def ComesBack (request : SearchRequest) : Prop :=
  ∀ rule ∈ request.rules, rule.value.nesting ≤ Source.deepest - 3 ∧
    ∀ x, Number.double x ∈ rule.value.numbers → (Number.double x).reread? = some (.double x)

/-- The requests differ in the values of their rules at most. -/
structure DiffersInValues (request other : SearchRequest) : Prop where
  rules : List.Forall₂ (fun rule found => found = { rule with value := found.value })
    request.rules other.rules
  rest : other = { request with rules := other.rules }

end SearchRequest

namespace Source

def ruleSource (rule : Rule) (value : Source) : Source :=
  obj false [(some "field", str (some rule.field)), (some "operator", str (some rule.operator)),
    (some "value", value), (some "negate", bool rule.isNegated)] true

def sizeSource (size : Nat) : Source := num (some (.int size))

def optionalSource : Option Nat → Source
  | some size => sizeSource size
  | none => null

/-- A request of which the sources of values and of facets are given. -/
def requestSource (request : SearchRequest) (value : Json → Source) (facets : List Source) :
    Source :=
  obj false [(some "rules", arr false (request.rules.map fun rule =>
      ruleSource rule (value rule.value)) true),
    (some "facets", arr false facets true),
    (some "columns", arr false (request.columns.map fun column => str (some column)) true),
    (some "offset", sizeSource request.offset), (some "limit", optionalSource request.limit)] true

theorem ofPrinted_ofNat {n : Nat} (h : n ≤ Number.greatestNat64) (depth : Nat) :
    ofPrinted depth (.ofNat n) = sizeSource n :=
  congrArg num (Number.reread?_natCast h)

theorem ofPrinted_optional {limit : Option Nat} (h : ∀ n ∈ limit, n ≤ Number.greatestNat64)
    (depth : Nat) :
    ofPrinted depth ((limit.map Json.ofNat).getD .null) = optionalSource limit := by
  cases limit with
  | none => rfl
  | some n => exact ofPrinted_ofNat (h n rfl) depth

theorem ofJson_optional (limit : Option Nat) :
    ofJson ((limit.map Json.ofNat).getD .null) = optionalSource limit := by
  cases limit with
  | none => rfl
  | some n => rfl

theorem ofJson_jsonWith (request : SearchRequest) (facets : List Json) :
    ofJson (request.jsonWith facets) = requestSource request ofJson (facets.map ofJson) := by
  simp [SearchRequest.jsonWith, ofJson, ofMembers, ofItems_eq, requestSource, Json.ofStrings,
    ofJson_optional, Function.comp_def, Rule.json, ruleSource, Json.ofNat, sizeSource]

theorem ofPrinted_form {facet : FacetRequest} {form : Json} (h : facet.IsForm form)
    (hsize : ∀ size ∈ facet.size, size ≤ Number.greatestNat64) :
    ofPrinted 2 form = ofJson form := by
  cases h with
  | name field => rfl
  | nullSize field => rfl
  | members =>
    obtain ⟨field, size⟩ := facet
    cases size with
    | none => rfl
    | some size =>
      have hread := Number.reread?_natCast (hsize size rfl)
      simp [FacetRequest.json, ofPrinted, ofPrintedMembers, hread, ofJson, ofMembers, deepest,
        Json.ofNat]

theorem ofPrinted_jsonWith {request : SearchRequest} (h : request.IsRepresented)
    {facets : List Json} (hfacets : List.Forall₂ FacetRequest.IsForm request.facets facets) :
    ofPrinted 0 (request.jsonWith facets) =
      requestSource request (ofPrinted 3) (facets.map ofJson) := by
  have hforms : facets.map (ofPrinted 2) = facets.map ofJson := by
    refine List.map_congr_left fun form hform => ?_
    obtain ⟨facet, hfacet, hwritten⟩ := Attempts.exists_of_mem_right hfacets form hform
    exact ofPrinted_form hwritten (h.sizes facet hfacet)
  simp [SearchRequest.jsonWith, ofPrinted, ofPrintedMembers, ofPrintedItems_eq, requestSource,
    Json.ofStrings, hforms, ofPrinted_optional h.limit, ofPrinted_ofNat h.offset, deepest,
    Function.comp_def, Rule.json, ruleSource]

theorem decodeRule_ruleSource (rule : Rule) (value : Source) :
    decodeRule (ruleSource rule value) =
      (decodeJson value).map fun found => { rule with value := found } := by
  cases h : decodeJson value <;>
    simp [decodeRule, decodeRecord, ruleSource, fillMember, ruleSlots, slot, decodeString,
      decodeBool, finishRule, h, Except.map, bind, Except.bind, pure, Except.pure]

theorem decodeRule_ruleSource_iff {rule : Rule} {value : Source} :
    decodeRule (ruleSource rule value) = .ok rule ↔ value.json? = some rule.value := by
  rw [decodeRule_ruleSource, Attempts.map_eq_ok_iff]
  unfold decodeJson
  cases value.json? with
  | none => simp
  | some found =>
    constructor
    · rintro ⟨_, hfound, heq⟩
      cases hfound
      exact congrArg (some ∘ Rule.value) heq
    · intro heq
      cases heq
      exact ⟨rule.value, rfl, rfl⟩

theorem decodeNat64_sizeSource {n : Nat} (h : n ≤ Number.greatestNat64) :
    decodeNat64 (sizeSource n) = .ok n := by
  have hfits : (n : Int) ≤ Number.greatestNat64 := Int.ofNat_le.mpr h
  simp [decodeNat64, decodeInt, sizeSource, hfits, Except.map]

theorem decodeOptional_optionalSource {limit : Option Nat}
    (h : ∀ n ∈ limit, n ≤ Number.greatestNat64) :
    decodeOptional decodeNat64 (optionalSource limit) = .ok limit := by
  cases limit with
  | none => rfl
  | some n => exact congrArg (Except.map some) (decodeNat64_sizeSource (h n rfl))

theorem decodeString_columns (columns : List String) :
    (columns.map fun column => str (some column)).mapM decodeString = .ok columns :=
  Attempts.mapM_map_eq_ok fun _ _ => rfl

theorem keysDistinct_form {facet : FacetRequest} {form : Json} (h : facet.IsForm form) :
    form.KeysDistinct := by
  cases h with
  | name field => trivial
  | nullSize field => simp [Json.KeysDistinct, Json.MembersDistinct]
  | members =>
    obtain ⟨field, size⟩ := facet
    cases size <;> simp [FacetRequest.json, Json.KeysDistinct, Json.MembersDistinct, Json.ofNat]

theorem decodeFacet_form {facet : FacetRequest} {form : Json} (h : facet.IsForm form)
    (hsize : ∀ size ∈ facet.size, size ≤ Number.greatestNat64) :
    decodeFacet (ofJson form) = .ok facet := by
  have hvalue : (ofJson form).json?.isNone = false := by
    rw [json?_ofJson (keysDistinct_form h)]
    rfl
  unfold decodeFacet
  rw [hvalue, if_neg Bool.false_ne_true]
  cases h with
  | name field => rfl
  | nullSize field => rfl
  | members =>
    obtain ⟨field, size⟩ := facet
    cases size with
    | none => rfl
    | some size =>
      have hread : decodeNat64 (num (some (.int size))) = .ok size :=
        decodeNat64_sizeSource (hsize size rfl)
      simp [FacetRequest.json, ofJson, ofMembers, Json.ofNat, decodeRecord, fillMember, facetSlots,
        slot, decodeString, decodeOptional, hread, Except.map, bind, Except.bind, pure, Except.pure]

/-- All but the rules is decoded as it is. -/
theorem decodeRequest_requestSource {request : SearchRequest} (h : request.IsRepresented)
    (value : Json → Source) {facets : List Source}
    (hfacets : facets.mapM decodeFacet = .ok request.facets) :
    decodeRequest (requestSource request value facets) =
      ((request.rules.map fun rule => ruleSource rule (value rule.value)).mapM decodeRule).map
        fun rules => { request with rules } := by
  have hcolumns := decodeString_columns request.columns
  have hoffset := decodeNat64_sizeSource h.offset
  have hlimit := decodeOptional_optionalSource h.limit
  unfold requestSource
  generalize request.rules.map (fun rule => ruleSource rule (value rule.value)) = rules
  cases hrules : rules.mapM decodeRule <;>
    simp [decodeRequest, decodeRecord, fillMember, requestSlots, slot, decodeList, finishRequest,
      hrules, hfacets, hcolumns, hoffset, hlimit, Except.map, bind, Except.bind, pure, Except.pure]

theorem decodeRequest_requestSource_iff {request : SearchRequest} (h : request.IsRepresented)
    (value : Json → Source) {facets : List Source}
    (hfacets : facets.mapM decodeFacet = .ok request.facets) :
    decodeRequest (requestSource request value facets) = .ok request ↔
      ∀ rule ∈ request.rules, (value rule.value).json? = some rule.value := by
  rw [decodeRequest_requestSource h value hfacets, Attempts.map_eq_ok_iff]
  have hrules : (request.rules.map fun rule => ruleSource rule (value rule.value)).mapM decodeRule =
      .ok request.rules ↔ ∀ rule ∈ request.rules, (value rule.value).json? = some rule.value := by
    rw [Attempts.mapM_eq_ok_iff, List.forall₂_map_left_iff, List.forall₂_same]
    exact forall₂_congr fun _ _ => decodeRule_ruleSource_iff
  rw [← hrules]
  constructor
  · rintro ⟨rules, hread, heq⟩
    rw [hread, ← congrArg SearchRequest.rules heq]
  · intro hread
    exact ⟨request.rules, hread, rfl⟩

theorem decodeFacets_forms {request : SearchRequest} (h : request.IsRepresented)
    {facets : List Json} (hfacets : List.Forall₂ FacetRequest.IsForm request.facets facets) :
    (facets.map ofJson).mapM decodeFacet = .ok request.facets := by
  rw [Attempts.mapM_eq_ok_iff, List.forall₂_map_left_iff]
  refine ((List.forall₂_and_left _ _).mpr ⟨h.sizes, hfacets⟩).flip.imp fun form facet hform => ?_
  exact decodeFacet_form hform.2 hform.1

end Source

namespace SearchRequest

open Source

theorem forms_json (request : SearchRequest) :
    List.Forall₂ FacetRequest.IsForm request.facets (request.facets.map FacetRequest.json) := by
  rw [List.forall₂_map_right_iff, List.forall₂_same]
  exact fun facet _ => .members facet

variable {request : SearchRequest} {facets : List Json}

/-- A request comes back from the value that it is written as, whatever its rules hold and however
its facets are written. -/
theorem decodeValue?_jsonWith (h : request.IsRepresented)
    (hfacets : List.Forall₂ FacetRequest.IsForm request.facets facets) :
    decodeValue? decodeRequest (request.jsonWith facets) = some request := by
  rw [decodeValue?, Attempts.toOption_eq_some_iff, ofJson_jsonWith,
    decodeRequest_requestSource_iff h ofJson (decodeFacets_forms h hfacets)]
  intro rule hrule
  exact json?_ofJson (h.keys rule hrule)

theorem comesBack_iff (h : request.IsRepresented) :
    request.ComesBack ↔
      ∀ rule ∈ request.rules, (ofPrinted 3 rule.value).json? = some rule.value := by
  refine forall₂_congr fun rule hrule => ?_
  rw [json?_ofPrinted_iff (h.keys rule hrule)]
  refine and_congr_right fun _ => ?_
  constructor
  · intro hdoubles n hn
    cases n with
    | int i => exact Number.reread?_int (h.numbers rule hrule _ hn)
    | double x => exact hdoubles x hn
  · exact fun hall x hx => hall _ hx

/-- What is read of the text of a request is decoded as the request exactly when the values of its
rules come back. -/
theorem decodeRequest_ofText_iff (h : request.IsRepresented)
    (hfacets : List.Forall₂ FacetRequest.IsForm request.facets facets) :
    decodeRequest (ofText (request.jsonWith facets).compact).1 = .ok request ↔
      request.ComesBack := by
  rw [ofText_compact, ofPrinted_jsonWith h hfacets, comesBack_iff h]
  exact decodeRequest_requestSource_iff h (ofPrinted 3) (decodeFacets_forms h hfacets)

theorem decodeText?_jsonWith_iff (h : request.IsRepresented)
    (hfacets : List.Forall₂ FacetRequest.IsForm request.facets facets) :
    decodeText? decodeRequest (request.jsonWith facets).compact = some request ↔
      request.ComesBack := by
  rw [← decodeRequest_ofText_iff h hfacets, decodeText?, ofText_compact]
  exact Attempts.toOption_eq_some_iff

/-- How the facets are written makes no difference to what is decoded from the text. -/
theorem decodeText?_jsonWith (h : request.IsRepresented)
    (hfacets : List.Forall₂ FacetRequest.IsForm request.facets facets) :
    decodeText? decodeRequest (request.jsonWith facets).compact =
      decodeText? decodeRequest request.json.compact := by
  have hread : ∀ written, List.Forall₂ FacetRequest.IsForm request.facets written →
      decodeText? decodeRequest (request.jsonWith written).compact =
        (((request.rules.map fun rule =>
          ruleSource rule (ofPrinted 3 rule.value)).mapM decodeRule).map
            fun rules => { request with rules }).toOption := by
    intro written hwritten
    rw [decodeText?, ofText_compact, ofPrinted_jsonWith h hwritten,
      ← decodeRequest_requestSource h (ofPrinted 3) (decodeFacets_forms h hwritten)]
    rfl
  exact (hread facets hfacets).trans (hread _ request.forms_json).symm

theorem differsInValues_of_decodeText? {found : SearchRequest} (h : request.IsRepresented)
    (hfound : decodeText? decodeRequest request.json.compact = some found) :
    request.DiffersInValues found := by
  have hprinted : ofPrinted 0 request.json = _ := ofPrinted_jsonWith h request.forms_json
  rw [decodeText?, ofText_compact, hprinted] at hfound
  have hread := Attempts.toOption_eq_some_iff.mp hfound
  rw [decodeRequest_requestSource h _ (decodeFacets_forms h request.forms_json),
    Attempts.map_eq_ok_iff] at hread
  obtain ⟨rules, hrules, rfl⟩ := hread
  rw [Attempts.mapM_eq_ok_iff, List.forall₂_map_left_iff] at hrules
  refine ⟨hrules.imp fun rule found hrule => ?_, rfl⟩
  rw [decodeRule_ruleSource, Attempts.map_eq_ok_iff] at hrule
  obtain ⟨value, -, rfl⟩ := hrule
  rfl

end SearchRequest

end ReportSearch
