import ReportSearch.Proofs.Catalog.Lookup
import ReportSearch.Proofs.Query.Truth
import ReportSearch.Proofs.Rule.Checked
import ReportSearch.Search.Body

/-!
# Planned searches

A request that is planned has sizes within their limits and parts without a fault, and its plan
holds these parts as they were resolved. The query of the body that is sent is then true exactly
when every rule has the verdict it asks for, within the window of time where there is one.
-/

set_option autoImplicit false

namespace ReportSearch

open Attempts

namespace SearchPlan

theorem queryOf_eq_some {catalog : Catalog} {rules : List Rule} {checked : List CheckedRule}
    {query : QueryTree} (h : queryOf catalog rules = (checked, some query, [])) :
    List.Forall₂ (fun rule found => Rule.check catalog rule = .ok found) rules checked ∧
      QueryTree.ofRules checked = .ok query := by
  unfold queryOf Rule.checkAll at h
  dsimp only at h
  split at h
  · rename_i found hfound
    simp only [Prod.mk.injEq, Option.some.injEq] at h
    obtain ⟨rfl, rfl, hfaults⟩ := h
    exact ⟨forall₂_of_collect hfaults, hfound⟩
  · simp at h

variable {catalog : Catalog} {settings : SearchSettings} {now : Instant}
  {request : SearchRequest} {plan : SearchPlan}

/-- All that a request went through on the way to its plan. -/
theorem ofRequest_eq_ok (h : ofRequest catalog settings now request = .ok plan) :
    request.sizeFaults = [] ∧
      request.offset + pageSize settings request ≤ SearchRequest.resultWindow ∧
      ∃ checked query facets columns,
        queryOf catalog request.rules = (checked, some query, []) ∧
        catalog.facets settings.defaultFacetSize settings.maxFacetSize request.facets =
          (facets, []) ∧
        catalog.columns request.columns = (columns, []) ∧
        plan =
          { request :=
              { query, facets, columns
                dateFilter := (dateWindow catalog settings checked now).2
                sortKey := (catalog.lookup? settings.dateField).map fun field =>
                  ⟨field.rootVariant.path, .descending⟩
                offset := request.offset, size := pageSize settings request }
            dateRange := (dateWindow catalog settings checked now).1
            catalogVersion := catalog.version } := by
  unfold ofRequest at h
  simp only at h
  split at h
  · cases h
  · rename_i hsizes
    split at h
    · cases h
    · rename_i hwindow
      split at h
      · cases h
      · rename_i query hquery
        split at h
        · cases h
        · rename_i hfaults
          cases h
          simp only [Bool.not_eq_true', Bool.not_eq_false, List.isEmpty_iff,
            List.append_eq_nil_iff] at hsizes hfaults
          obtain ⟨⟨hrules, hfacets⟩, hcolumns⟩ := hfaults
          refine ⟨hsizes, pageEnd_le_iff.mp (Nat.le_of_not_lt hwindow), _, query, _, _, ?_, ?_, ?_,
            rfl⟩
          · exact Prod.ext rfl (Prod.ext hquery hrules)
          · exact Prod.ext rfl hfacets
          · exact Prod.ext rfl hcolumns

/-- A verdict on a rule, as a verdict on its tree before it is negated. -/
theorem holds_iff_affirmed {truth : Leaf → Bool} {negated : Bool} {tree positive : QueryTree}
    (h : tree = if negated then .not positive else positive) :
    tree.holds truth = true ↔ positive.holds truth = !negated := by
  subst h
  cases negated with
  | false => rfl
  | true => simp

theorem query_holds_iff {rules : List Rule} {checked : List CheckedRule} {query : QueryTree}
    (h : queryOf catalog rules = (checked, some query, [])) (truth : Leaf → Bool) :
    query.holds truth = true ↔ ∀ rule ∈ rules, ∃ tree,
      rule.affirmed catalog = .ok tree ∧ tree.holds truth = !rule.isNegated := by
  obtain ⟨hchecked, hquery⟩ := queryOf_eq_some h
  obtain ⟨trees, htrees, rfl⟩ := QueryTree.ofRules_eq_ok hquery
  rw [QueryTree.holds_conjunction, List.all_eq_true]
  constructor
  · intro hall rule hrule
    obtain ⟨found, hmem, hfound⟩ := exists_of_mem_left hchecked rule hrule
    obtain ⟨tree, hmem, htree⟩ := exists_of_mem_left htrees found hmem
    obtain ⟨positive, hpositive, heq⟩ := Rule.affirmed_of_ofRule hfound htree
    exact ⟨positive, hpositive, (holds_iff_affirmed heq).mp (hall tree hmem)⟩
  · intro hrules tree hmem
    obtain ⟨found, hmem, htree⟩ := exists_of_mem_right htrees tree hmem
    obtain ⟨rule, hrule, hfound⟩ := exists_of_mem_right hchecked found hmem
    obtain ⟨positive, hpositive, heq⟩ := Rule.affirmed_of_ofRule hfound htree
    obtain ⟨tree', htree', hverdict⟩ := hrules rule hrule
    rw [hpositive] at htree'
    cases htree'
    exact (holds_iff_affirmed heq).mpr hverdict

theorem affirmed_of_mem {rules : List Rule} {checked : List CheckedRule} {query : QueryTree}
    (h : queryOf catalog rules = (checked, some query, [])) :
    ∀ rule ∈ rules, ∃ tree, rule.affirmed catalog = .ok tree := by
  obtain ⟨hchecked, hquery⟩ := queryOf_eq_some h
  obtain ⟨trees, htrees, -⟩ := QueryTree.ofRules_eq_ok hquery
  intro rule hrule
  obtain ⟨found, hmem, hfound⟩ := exists_of_mem_left hchecked rule hrule
  obtain ⟨tree, -, htree⟩ := exists_of_mem_left htrees found hmem
  obtain ⟨positive, hpositive, -⟩ := Rule.affirmed_of_ofRule hfound htree
  exact ⟨positive, hpositive⟩

end SearchPlan

namespace BackendRequest

theorem holds_queryClause (request : BackendRequest) (truth : Json → Bool) :
    Clause.holds truth request.queryClause = true ↔
      request.query.holds (fun l => truth l.clause) = true ∧
        ∀ window, request.dateFilter = some window →
          window.holds (fun l => truth l.clause) = true := by
  unfold queryClause
  split
  · rename_i window hwindow
    rw [Clause.holds_must_filter, Bool.and_eq_true, QueryTree.holds_clause,
      QueryTree.holds_clause, hwindow]
    simp
  · rename_i hwindow
    rw [QueryTree.holds_clause, hwindow]
    simp

theorem body_query (request : BackendRequest) :
    request.body.get? "query" = some request.queryClause := rfl

end BackendRequest

namespace SearchPlan

/-- The query that is sent for a planned request is true exactly when every rule is, or is not if it
is negated, and the window of time is. -/
theorem sent_query_holds_iff {catalog : Catalog} {settings : SearchSettings} {now : Instant}
    {request : SearchRequest} {plan : SearchPlan}
    (h : ofRequest catalog settings now request = .ok plan) :
    (∀ (tree : QueryTree) (truth : Json → Bool),
      Clause.holds truth tree.clause = tree.holds fun l => truth l.clause) ∧
    (∀ rule ∈ request.rules, ∃ tree, rule.affirmed catalog = .ok tree) ∧
    ∃ query, plan.request.body.get? "query" = some query ∧
      ∀ truth : Json → Bool, Clause.holds truth query = true ↔
        (∀ rule ∈ request.rules, ∃ tree, rule.affirmed catalog = .ok tree ∧
          tree.holds (fun l => truth l.clause) = !rule.isNegated) ∧
        ∀ window, plan.request.dateFilter = some window →
          window.holds (fun l => truth l.clause) = true := by
  obtain ⟨-, -, checked, query, facets, columns, hquery, -, -, rfl⟩ := ofRequest_eq_ok h
  refine ⟨fun tree truth => QueryTree.holds_clause truth tree, affirmed_of_mem hquery, _,
    BackendRequest.body_query _, ?_⟩
  intro truth
  rw [BackendRequest.holds_queryClause]
  exact and_congr_left' (query_holds_iff hquery fun l => truth l.clause)

/-- A negated rule and a rule of several values, with the time left open. -/
def sampleRequest : SearchRequest where
  rules :=
    [{ field := "system.cores", operator := ">=", value := .num (.int 2), isNegated := true },
     { field := "note", operator := "in", value := .arr [.str "a", .str "b"] }]

theorem ofRequest_sampleRequest :
    ∃ plan, ofRequest (Catalog.ofMapping Mapping.sample 1) { dateField := "seen" }
      ⟨1700000000, 0⟩ sampleRequest = .ok plan := by
  have hok : (ofRequest (Catalog.ofMapping Mapping.sample 1) { dateField := "seen" }
      ⟨1700000000, 0⟩ sampleRequest).isOk = true := by decide +kernel
  exact exists_of_isOk hok

/-- What is sent for the sample is true exactly when its two rules and the window of time are. -/
theorem sampleRequest_sent_query :
    ∃ plan query, ofRequest (Catalog.ofMapping Mapping.sample 1) { dateField := "seen" }
        ⟨1700000000, 0⟩ sampleRequest = .ok plan ∧
      plan.request.body.get? "query" = some query ∧
      ∀ truth : Json → Bool, Clause.holds truth query = true ↔
        (∀ rule ∈ sampleRequest.rules, ∃ tree,
          rule.affirmed (Catalog.ofMapping Mapping.sample 1) = .ok tree ∧
            tree.holds (fun l => truth l.clause) = !rule.isNegated) ∧
        ∀ window, plan.request.dateFilter = some window →
          window.holds (fun l => truth l.clause) = true := by
  obtain ⟨plan, hplan⟩ := ofRequest_sampleRequest
  obtain ⟨-, -, query, hquery, hholds⟩ := sent_query_holds_iff hplan
  exact ⟨plan, query, hplan, hquery, hholds⟩

end SearchPlan

end ReportSearch
