import ReportSearch.Proofs.Catalog.NullValue
import ReportSearch.Proofs.Json.Numerals
import ReportSearch.Search.Session

/-!
# Catalogs that are loaded

What is proved of a mapping supposes that the value it is read from has no key twice and only
numbers that are represented. Every value that is read from a text is of this kind, and so is the
bundled mapping. So all of it holds of every catalog that a registry loads or refreshes to, and of
every catalog of a session, the current one and those that are held.
-/

set_option autoImplicit false

namespace ReportSearch

open Attempts

/-- A mapping of a value as texts give it. -/
def Mapping.IsRead (mapping : Mapping) : Prop :=
  ∃ source : Json, source.KeysDistinct ∧ source.NumbersRepresented ∧
    Mapping.ofJson source = .ok mapping

/-- A catalog of such a mapping, under any version. -/
def Catalog.IsLoaded (catalog : Catalog) : Prop :=
  ∃ (mapping : Mapping) (version : Nat), mapping.IsRead ∧ catalog = ofMapping mapping version

variable {mapping : Mapping} {files : Files}

theorem Catalog.IsLoaded.of_lookup? {catalog : Catalog} (h : catalog.IsLoaded) {name : String}
    {field : Field} (hfield : catalog.lookup? name = some field) :
    field.WellFormed ∧ ∀ value, field.nullValue = some value → value.IsRepresented := by
  obtain ⟨mapping, version, ⟨source, hkeys, hnumbers, hread⟩, rfl⟩ := h
  constructor
  · exact lookup?_wellFormed hkeys hread hfield
  · intro value hvalue
    exact lookup?_nullValue_isRepresented hnumbers hread hfield hvalue

theorem Mapping.isRead_of_ofText {text : String} (h : ofText text = .ok mapping) :
    mapping.IsRead := by
  unfold ofText at h
  split at h
  · rename_i source hparse
    exact ⟨source, Json.keysDistinct_of_parse? hparse, Json.numbersRepresented_of_parse? hparse, h⟩
  · cases h

theorem CatalogSource.isRead_of_read {source : CatalogSource}
    (h : source.read files = .ok mapping) : mapping.IsRead := by
  cases source with
  | bundled => exact ⟨CrashReports.mapping, by decide +kernel, by decide +kernel, h⟩
  | inline text => exact Mapping.isRead_of_ofText h
  | file path =>
    rw [read] at h
    cases htext : files path with
    | some text =>
      rw [htext] at h
      exact Mapping.isRead_of_ofText h
    | none =>
      rw [htext] at h
      cases h

namespace Registry

variable {registry : Registry}

theorem isLoaded_of_load {source : CatalogSource} (h : load files source = .ok registry) :
    registry.current.IsLoaded := by
  obtain ⟨mapping, hread, rfl⟩ := map_eq_ok_iff.mp h
  exact ⟨mapping, 1, CatalogSource.isRead_of_read hread, rfl⟩

theorem isLoaded_afterRefresh (h : registry.current.IsLoaded) (files : Files) :
    (registry.afterRefresh files).current.IsLoaded := by
  unfold afterRefresh
  split
  · rename_i refreshed hrefresh
    obtain ⟨mapping, hread, rfl⟩ := map_eq_ok_iff.mp hrefresh
    exact ⟨mapping, registry.current.version + 1, CatalogSource.isRead_of_read hread, rfl⟩
  · exact h

end Registry

namespace Session

structure AllLoaded (session : Session) : Prop where
  catalog : session.catalog.IsLoaded
  held : ∀ catalog ∈ session.held, catalog.IsLoaded

variable {session : Session}

theorem AllLoaded.after (h : session.AllLoaded) (step : SessionStep) :
    (session.after step).AllLoaded := by
  cases step with
  | refresh => exact ⟨Registry.isLoaded_afterRefresh h.catalog session.files, h.held⟩
  | hold =>
    refine ⟨h.catalog, ?_⟩
    intro catalog hcatalog
    rcases List.mem_append.mp hcatalog with hcatalog | hcatalog
    · exact h.held catalog hcatalog
    · rw [List.mem_singleton.mp hcatalog]
      exact h.catalog
  | _ => exact ⟨h.catalog, h.held⟩

theorem AllLoaded.run (h : session.AllLoaded) (steps : List SessionStep) :
    (session.run steps).AllLoaded := by
  induction steps generalizing session with
  | nil => exact h
  | cons step rest ih => exact ih (h.after step)

theorem allLoaded_of_start {text : Option String} {settings : SearchSettings}
    {backendName : String} {patience : Nat}
    (h : start text settings backendName patience = .ok session) : session.AllLoaded := by
  obtain ⟨registry, hload, rfl⟩ := map_eq_ok_iff.mp h
  have hloaded := Registry.isLoaded_of_load hload
  refine ⟨hloaded, ?_⟩
  intro catalog hcatalog
  rw [List.mem_singleton.mp hcatalog]
  exact hloaded

/-- Whatever becomes of the file, every field that a catalog of the session finds is well-formed,
and its null value is represented. -/
theorem fields_of_start {text : Option String} {settings : SearchSettings} {backendName : String}
    {patience : Nat} (hstart : start text settings backendName patience = .ok session)
    (steps : List SessionStep) :
    ∀ catalog ∈ (session.run steps).catalog :: (session.run steps).held, ∀ name field,
      catalog.lookup? name = some field →
        field.WellFormed ∧ ∀ value, field.nullValue = some value → value.IsRepresented := by
  have hloaded := (allLoaded_of_start hstart).run steps
  intro catalog hcatalog name field hfield
  rcases List.mem_cons.mp hcatalog with rfl | hcatalog
  · exact hloaded.catalog.of_lookup? hfield
  · exact (hloaded.held catalog hcatalog).of_lookup? hfield

end Session

end ReportSearch
