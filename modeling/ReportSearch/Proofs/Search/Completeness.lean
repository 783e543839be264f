import ReportSearch.Proofs.Catalog.Lookup
import ReportSearch.Proofs.Search.Planning

/-!
# Faults of a request

A request within its limits is planned exactly when each of its rules has a tree, each of its facets
can be counted and each of its columns is declared. Otherwise it is refused with a list that has one
fault for every part that is at fault and nothing else: rules that are not accepted, then rules that
no variant answers, then facets, then columns, each in the order of the request.
-/

set_option autoImplicit false

namespace ReportSearch

open Attempts

namespace Attempts

variable {ε α β : Type}

def fault? : Except ε α → Option ε
  | .error fault => some fault
  | .ok _ => none

theorem fault?_eq_none_iff {attempt : Except ε α} :
    fault? attempt = none ↔ ∃ a, attempt = .ok a := by
  cases attempt <;> simp [fault?]

theorem collect_faults (attempts : List (Except QueryFault α)) :
    (QueryFault.collect attempts).2 = attempts.filterMap fault? := by
  induction attempts with
  | nil => rfl
  | cons attempt rest ih =>
    cases attempt with
    | ok a => exact ih
    | error fault => exact congrArg (fault :: ·) ih

theorem filterMap_fault?_collect {attempts : List (Except QueryFault α)}
    (next : α → Except QueryFault β) :
    ((QueryFault.collect attempts).1.map next).filterMap fault? =
      attempts.filterMap fun attempt => attempt.toOption.bind fun a => fault? (next a) := by
  induction attempts with
  | nil => rfl
  | cons attempt rest ih =>
    cases attempt with
    | ok a =>
      rw [QueryFault.collect, List.map_cons, List.filterMap_cons, List.filterMap_cons, ih]
      rfl
    | error fault => exact ih

end Attempts

namespace Rule

/-- The tree of a rule that is accepted and that some variant of its field answers. -/
def tree (catalog : Catalog) (rule : Rule) : Except QueryFault QueryTree :=
  (check catalog rule).bind QueryTree.ofRule

def refusal? (catalog : Catalog) (rule : Rule) : Option QueryFault := fault? (check catalog rule)

/-- The fault of a rule that is accepted but that no variant answers. -/
def unanswered? (catalog : Catalog) (rule : Rule) : Option QueryFault :=
  (check catalog rule).toOption.bind fun checked => fault? (QueryTree.ofRule checked)

variable {catalog : Catalog} {rule : Rule}

/-- A rule has at most one of the two faults, and one of them when it has no tree. -/
theorem faults_eq (catalog : Catalog) (rule : Rule) :
    (refusal? catalog rule).toList ++ (unanswered? catalog rule).toList =
      (fault? (tree catalog rule)).toList := by
  unfold refusal? unanswered? tree
  cases check catalog rule with
  | error fault => rfl
  | ok checked => rfl

end Rule

namespace Catalog

def facetFault? (catalog : Catalog) (facet : FacetRequest) : Option QueryFault :=
  match catalog.lookup? facet.field with
  | none => some (.unknownField facet.field)
  | some field => if field.isFacetable then none else some (.notFacetable field.name)

def columnFault? (catalog : Catalog) (name : String) : Option QueryFault :=
  match catalog.lookup? name with
  | none => some (.unknownField name)
  | some _ => none

variable (catalog : Catalog)

theorem facetFault?_eq_none_iff {facet : FacetRequest} :
    catalog.facetFault? facet = none ↔
      ∃ field, catalog.lookup? facet.field = some field ∧ field.isFacetable = true := by
  unfold facetFault?
  cases catalog.lookup? facet.field with
  | none => simp
  | some field => simp

theorem columnFault?_eq_none_iff {name : String} :
    catalog.columnFault? name = none ↔ ∃ field, catalog.lookup? name = some field := by
  unfold columnFault?
  cases catalog.lookup? name with
  | none => simp
  | some field => simp

theorem fault?_facetSource (facet : FacetRequest) :
    fault? (catalog.facetSource facet.field) = catalog.facetFault? facet := by
  unfold facetSource facetFault?
  cases catalog.lookup? facet.field with
  | none => rfl
  | some field =>
    cases hvariant : field.verbatimVariant? with
    | none => simp [fault?, Field.isFacetable, hvariant]
    | some variant =>
      simp only [hvariant]
      cases field.isFacetable <;> rfl

/-- A facet is looked up before it is known to be a repetition, so no fault is passed over. -/
theorem facetsFrom_faults (defaultSize maxSize : Nat) (seen : List String)
    (requests : List FacetRequest) :
    (catalog.facetsFrom defaultSize maxSize seen requests).2 =
      requests.filterMap catalog.facetFault? := by
  induction requests generalizing seen with
  | nil => rfl
  | cons request rest ih =>
    rw [List.filterMap_cons, ← fault?_facetSource, facetsFrom]
    cases catalog.facetSource request.field with
    | error fault => exact congrArg (fault :: ·) (ih seen)
    | ok source =>
      dsimp only [fault?]
      split
      · exact ih seen
      · exact ih _

theorem columnsFrom_faults (seen names : List String) :
    (catalog.columnsFrom seen names).2 = names.filterMap catalog.columnFault? := by
  induction names generalizing seen with
  | nil => rfl
  | cons name rest ih =>
    rw [List.filterMap_cons, columnFault?, columnsFrom]
    cases catalog.lookup? name with
    | none => exact congrArg (QueryFault.unknownField name :: ·) (ih seen)
    | some field =>
      dsimp only
      split
      · exact ih seen
      · exact ih _

end Catalog

namespace SearchRequest

/-- The faults of all parts of a request, one for each part that is at fault. -/
def faults (catalog : Catalog) (request : SearchRequest) : List QueryFault :=
  request.rules.filterMap (Rule.refusal? catalog) ++
    request.rules.filterMap (Rule.unanswered? catalog) ++
    request.facets.filterMap catalog.facetFault? ++
    request.columns.filterMap catalog.columnFault?

/-- Whether every part of a request can be resolved. -/
structure IsResolved (catalog : Catalog) (request : SearchRequest) : Prop where
  rules : ∀ rule ∈ request.rules, ∃ tree, rule.tree catalog = .ok tree
  facets : ∀ facet ∈ request.facets, ∃ field,
    catalog.lookup? facet.field = some field ∧ field.isFacetable = true
  columns : ∀ name ∈ request.columns, ∃ field, catalog.lookup? name = some field

variable (catalog : Catalog) (request : SearchRequest)

theorem faults_eq_nil_iff : request.faults catalog = [] ↔ request.IsResolved catalog := by
  have hrule : ∀ rule : Rule, rule.refusal? catalog = none ∧ rule.unanswered? catalog = none ↔
      ∃ tree, rule.tree catalog = .ok tree := by
    intro rule
    rw [← fault?_eq_none_iff, ← Option.toList_eq_nil_iff (o := rule.refusal? catalog),
      ← Option.toList_eq_nil_iff (o := rule.unanswered? catalog), ← List.append_eq_nil_iff,
      Rule.faults_eq, Option.toList_eq_nil_iff]
  simp only [faults, List.append_eq_nil_iff, List.filterMap_eq_nil_iff,
    Catalog.facetFault?_eq_none_iff, Catalog.columnFault?_eq_none_iff]
  constructor
  · rintro ⟨⟨⟨hrefused, hunanswered⟩, hfacets⟩, hcolumns⟩
    refine ⟨fun rule hmem => ?_, hfacets, hcolumns⟩
    exact (hrule rule).mp ⟨hrefused rule hmem, hunanswered rule hmem⟩
  · rintro ⟨hrules, hfacets, hcolumns⟩
    refine ⟨⟨⟨fun rule hmem => ?_, fun rule hmem => ?_⟩, hfacets⟩, hcolumns⟩
    · exact ((hrule rule).mpr (hrules rule hmem)).1
    · exact ((hrule rule).mpr (hrules rule hmem)).2

theorem length_ruleFaults (rules : List Rule) :
    (rules.filterMap (Rule.refusal? catalog)).length +
        (rules.filterMap (Rule.unanswered? catalog)).length =
      rules.countP fun rule => !(rule.tree catalog).isOk := by
  induction rules with
  | nil => rfl
  | cons rule rest ih =>
    have hsum : (rule.refusal? catalog).toList.length + (rule.unanswered? catalog).toList.length =
        if !(rule.tree catalog).isOk then 1 else 0 := by
      rw [← List.length_append, Rule.faults_eq]
      cases rule.tree catalog <;> rfl
    rw [List.countP_cons, ← ih, ← hsum, List.filterMap_cons, List.filterMap_cons]
    cases rule.refusal? catalog <;> cases rule.unanswered? catalog <;>
      simp only [Option.toList, List.length_cons, List.length_nil] <;> omega

theorem length_faults :
    (request.faults catalog).length =
      request.rules.countP (fun rule => !(rule.tree catalog).isOk) +
        request.facets.countP
          (fun facet => !(catalog.lookup? facet.field).any Field.isFacetable) +
        request.columns.countP (fun name => (catalog.lookup? name).isNone) := by
  have hfacet : ∀ facet, (catalog.facetFault? facet).isSome =
      !(catalog.lookup? facet.field).any Field.isFacetable := by
    intro facet
    unfold Catalog.facetFault?
    cases catalog.lookup? facet.field with
    | none => rfl
    | some field => cases h : field.isFacetable <;> simp [h]
  have hcolumn : ∀ name, (catalog.columnFault? name).isSome = (catalog.lookup? name).isNone := by
    intro name
    unfold Catalog.columnFault?
    cases catalog.lookup? name <;> rfl
  rw [faults, List.length_append, List.length_append, List.length_append, length_ruleFaults]
  simp only [List.length_filterMap_eq_countP, hfacet, hcolumn]

end SearchRequest

namespace SearchPlan

theorem queryOf_faults (catalog : Catalog) (rules : List Rule) :
    (queryOf catalog rules).2.2 =
        rules.filterMap (Rule.refusal? catalog) ++ rules.filterMap (Rule.unanswered? catalog) ∧
      ((queryOf catalog rules).2.1 = none ↔ rules.filterMap (Rule.unanswered? catalog) ≠ []) := by
  have hrefused : (Rule.checkAll catalog rules).2 = rules.filterMap (Rule.refusal? catalog) := by
    rw [Rule.checkAll, collect_faults, List.filterMap_map]
    rfl
  have hunanswered : (QueryFault.collect ((Rule.checkAll catalog rules).1.map QueryTree.ofRule)).2 =
      rules.filterMap (Rule.unanswered? catalog) := by
    rw [collect_faults, Rule.checkAll, filterMap_fault?_collect, List.filterMap_map]
    rfl
  unfold queryOf QueryTree.ofRules
  rw [← hrefused, ← hunanswered]
  dsimp only
  cases hfaults : (QueryFault.collect ((Rule.checkAll catalog rules).1.map QueryTree.ofRule)).2 with
  | nil => simp
  | cons fault rest => simp

theorem columns_faults {source : Json} {mapping : Mapping} {version : Nat}
    (hread : Mapping.ofJson source = .ok mapping) (names : List String) :
    ((Catalog.ofMapping mapping version).columns names).2 =
      names.filterMap (Catalog.ofMapping mapping version).columnFault? := by
  rw [Catalog.columns, Catalog.columnsFrom_faults]
  cases names with
  | nil =>
    refine List.filterMap_eq_nil_iff.mpr fun name hname => ?_
    rw [Catalog.columnFault?_eq_none_iff]
    exact Catalog.exists_lookup? (Mapping.defaultColumns_declared hread name hname)
  | cons name rest => rfl

section Faults

variable {source : Json} {mapping : Mapping} {settings : SearchSettings} {request : SearchRequest}

theorem ofRequest_of_sizes (version : Nat) (now : Instant)
    (hread : Mapping.ofJson source = .ok mapping)
    (hsizes : request.sizeFaults = [])
    (hwindow : request.offset + pageSize settings request ≤ SearchRequest.resultWindow) :
    request.faults (Catalog.ofMapping mapping version) ≠ [] ∧
        ofRequest (Catalog.ofMapping mapping version) settings now request =
          .error (.invalidParts (request.faults (Catalog.ofMapping mapping version))) ∨
      request.faults (Catalog.ofMapping mapping version) = [] ∧
        ∃ plan, ofRequest (Catalog.ofMapping mapping version) settings now request = .ok plan := by
  obtain ⟨hrules, hquery⟩ := queryOf_faults (Catalog.ofMapping mapping version) request.rules
  have hfaults : (queryOf (Catalog.ofMapping mapping version) request.rules).2.2 ++
      ((Catalog.ofMapping mapping version).facets settings.defaultFacetSize settings.maxFacetSize
        request.facets).2 ++ ((Catalog.ofMapping mapping version).columns request.columns).2 =
      request.faults (Catalog.ofMapping mapping version) := by
    rw [hrules, Catalog.facets, Catalog.facetsFrom_faults, columns_faults hread]
    rfl
  unfold ofRequest
  simp only [hsizes, hfaults, List.isEmpty_nil, Bool.not_true, Bool.false_eq_true, if_false,
    Nat.not_lt.mpr (pageEnd_le_iff.mpr hwindow)]
  cases htree : (queryOf (Catalog.ofMapping mapping version) request.rules).2.1 with
  | none =>
    refine Or.inl ⟨?_, rfl⟩
    have hunanswered := hquery.mp htree
    simp [SearchRequest.faults, hunanswered]
  | some query =>
    cases hlist : request.faults (Catalog.ofMapping mapping version) with
    | nil => exact Or.inr ⟨rfl, _, rfl⟩
    | cons fault rest => exact Or.inl ⟨List.cons_ne_nil fault rest, rfl⟩

theorem isResolved_of_planned {version : Nat} {now : Instant} {plan : SearchPlan}
    (hread : Mapping.ofJson source = .ok mapping)
    (hplan : ofRequest (Catalog.ofMapping mapping version) settings now request = .ok plan) :
    request.IsResolved (Catalog.ofMapping mapping version) := by
  obtain ⟨hsizes, hwindow, -⟩ := ofRequest_eq_ok hplan
  rcases ofRequest_of_sizes version now hread hsizes hwindow with ⟨-, hrefused⟩ | ⟨hnil, -⟩
  · cases hrefused.symm.trans hplan
  · exact (SearchRequest.faults_eq_nil_iff _ _).mp hnil

/-- Past the limits of its sizes, a request is planned exactly when every part of it is resolved, and
refused with one fault for each of the others if not. -/
theorem ofRequest_complete (version : Nat) (now : Instant)
    (hread : Mapping.ofJson source = .ok mapping)
    (hsizes : request.sizeFaults = [])
    (hwindow : request.offset + pageSize settings request ≤ SearchRequest.resultWindow) :
    let catalog := Catalog.ofMapping mapping version
    let outcome := ofRequest catalog settings now request
    ((∃ plan, outcome = .ok plan) ↔ request.IsResolved catalog) ∧
    ((¬∃ plan, outcome = .ok plan) →
      request.faults catalog ≠ [] ∧
        outcome = .error (.invalidParts (request.faults catalog))) ∧
    (request.faults catalog).length =
      request.rules.countP (fun rule => !(rule.tree catalog).isOk) +
        request.facets.countP
          (fun facet => !(catalog.lookup? facet.field).any Field.isFacetable) +
        request.columns.countP (fun name => (catalog.lookup? name).isNone) := by
  intro catalog outcome
  refine ⟨?_, ?_, SearchRequest.length_faults catalog request⟩
  · rw [← SearchRequest.faults_eq_nil_iff]
    rcases ofRequest_of_sizes version now hread hsizes hwindow with
      ⟨hne, hrefused⟩ | ⟨hnil, hplan⟩
    · refine iff_of_false ?_ hne
      rintro ⟨plan, hplan⟩
      cases hrefused.symm.trans hplan
    · exact iff_of_true hplan hnil
  · intro hnone
    rcases ofRequest_of_sizes version now hread hsizes hwindow with
      hrefused | ⟨-, hplan⟩
    · exact hrefused
    · exact absurd hplan hnone

/-- One part of each kind that is at fault, among others that are not. -/
def mixedRequest : SearchRequest where
  rules :=
    [{ field := "note", operator := "startsWith", value := .str "a" },
     { field := "system.cores", operator := ">=", value := .num (.int 2) },
     { field := "nope", operator := "=", value := .str "x" }]
  facets := [⟨"system.cores", none⟩, ⟨"system", none⟩]
  columns := ["seen", "missing"]

def mixedFaults : List QueryFault :=
  [.unknownField "nope", .unsupportedOperator "note" .startsWith, .notFacetable "system",
    .unknownField "missing"]

theorem faults_mixedRequest :
    mixedRequest.faults (Catalog.ofMapping Mapping.sample 1) = mixedFaults := by decide +kernel

theorem ofRequest_mixedRequest :
    mixedRequest.sizeFaults = [] ∧
      mixedRequest.offset + pageSize {} mixedRequest ≤ SearchRequest.resultWindow ∧
      ofRequest (Catalog.ofMapping Mapping.sample 1) {} ⟨1700000000, 0⟩ mixedRequest =
        .error (.invalidParts mixedFaults) := by
  have hsizes : mixedRequest.sizeFaults = [] := by decide
  have hwindow : mixedRequest.offset + pageSize {} mixedRequest ≤ SearchRequest.resultWindow := by
    decide
  obtain ⟨hplanned, hrefused, -⟩ := ofRequest_complete 1 ⟨1700000000, 0⟩
    Mapping.ofJson_sampleSource hsizes hwindow
  have hmissing : ¬mixedRequest.IsResolved (Catalog.ofMapping Mapping.sample 1) := by
    rw [← SearchRequest.faults_eq_nil_iff, faults_mixedRequest]
    exact List.cons_ne_nil _ _
  have hfaults := (hrefused (mt hplanned.mp hmissing)).2
  rw [faults_mixedRequest] at hfaults
  exact ⟨hsizes, hwindow, hfaults⟩

end Faults

end SearchPlan

end ReportSearch
