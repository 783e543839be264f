import ReportSearch.Json.Decode

/-!
# Settings of a search

The field that orders the results and bounds them in time, and the sizes of pages and facets.
-/

set_option autoImplicit false

namespace ReportSearch

structure SearchSettings where
  dateField : String := "date_processed"
  /-- How many days are searched when a request sets no lower bound. -/
  defaultDays : Int := 7
  defaultLimit : Nat := 100
  maxLimit : Nat := 1000
  defaultFacetSize : Nat := 50
  maxFacetSize : Nat := 1000
  deriving DecidableEq, Repr

namespace SearchSettings

def json (settings : SearchSettings) : Json :=
  .obj [("date_field", .str settings.dateField), ("default_days", .ofInt settings.defaultDays),
    ("default_limit", .ofNat settings.defaultLimit), ("max_limit", .ofNat settings.maxLimit),
    ("default_facet_size", .ofNat settings.defaultFacetSize),
    ("max_facet_size", .ofNat settings.maxFacetSize)]

end SearchSettings

namespace Source

structure SettingsParts where
  dateField : Option String := none
  defaultDays : Option Int := none
  defaultLimit : Option Nat := none
  maxLimit : Option Nat := none
  defaultFacetSize : Option Nat := none
  maxFacetSize : Option Nat := none

def settingsSlots : List (Slot SettingsParts) :=
  [slot "date_field" (·.dateField) (fun parts x => { parts with dateField := some x }) decodeString,
    slot "default_days" (·.defaultDays) (fun parts x => { parts with defaultDays := some x })
      decodeInt64,
    slot "default_limit" (·.defaultLimit) (fun parts x => { parts with defaultLimit := some x })
      decodeNat64,
    slot "max_limit" (·.maxLimit) (fun parts x => { parts with maxLimit := some x }) decodeNat64,
    slot "default_facet_size" (·.defaultFacetSize)
      (fun parts x => { parts with defaultFacetSize := some x }) decodeNat64,
    slot "max_facet_size" (·.maxFacetSize) (fun parts x => { parts with maxFacetSize := some x })
      decodeNat64]

def finishSettings (parts : SettingsParts) : SearchSettings :=
  let defaults : SearchSettings := {}
  { dateField := parts.dateField.getD defaults.dateField
    defaultDays := parts.defaultDays.getD defaults.defaultDays
    defaultLimit := parts.defaultLimit.getD defaults.defaultLimit
    maxLimit := parts.maxLimit.getD defaults.maxLimit
    defaultFacetSize := parts.defaultFacetSize.getD defaults.defaultFacetSize
    maxFacetSize := parts.maxFacetSize.getD defaults.maxFacetSize }

def decodeSettings : Decoder SearchSettings :=
  decodeRecord settingsSlots 0 {} fun parts => some (finishSettings parts)

end Source

end ReportSearch
