import ReportSearch.Json.Decode

/-!
# Settings of the search index

Where the index of reports is, who asks, and how long to wait.
-/

set_option autoImplicit false

namespace ReportSearch

structure IndexSettings where
  url : String := "http://localhost:9200"
  index : String := "socorro_reports"
  /-- The longest wait for an answer, in seconds. -/
  timeout : Nat := 10
  username : Option String := none
  password : Option String := none
  deriving DecidableEq, Repr

namespace IndexSettings

def json (settings : IndexSettings) : Json :=
  .obj [("url", .str settings.url), ("index", .str settings.index),
    ("timeout_secs", .ofNat settings.timeout), ("username", .ofText? settings.username),
    ("password", .ofText? settings.password)]

end IndexSettings

namespace Source

structure IndexParts where
  url : Option String := none
  index : Option String := none
  timeout : Option Nat := none
  username : Option (Option String) := none
  password : Option (Option String) := none

def indexSlots : List (Slot IndexParts) :=
  [slot "url" (·.url) (fun parts x => { parts with url := some x }) decodeString,
    slot "index" (·.index) (fun parts x => { parts with index := some x }) decodeString,
    slot "timeout_secs" (·.timeout) (fun parts x => { parts with timeout := some x }) decodeNat64,
    slot "username" (·.username) (fun parts x => { parts with username := some x })
      (decodeOptional decodeString),
    slot "password" (·.password) (fun parts x => { parts with password := some x })
      (decodeOptional decodeString)]

def finishIndex (parts : IndexParts) : IndexSettings :=
  let defaults : IndexSettings := {}
  { url := parts.url.getD defaults.url
    index := parts.index.getD defaults.index
    timeout := parts.timeout.getD defaults.timeout
    username := parts.username.getD none
    password := parts.password.getD none }

def decodeIndex : Decoder IndexSettings :=
  decodeRecord indexSlots 0 {} fun parts => some (finishIndex parts)

end Source

end ReportSearch
