import ReportSearch.Config.Setting
import ReportSearch.Config.Toml.Text
import ReportSearch.Json.Value

/-!
# Tables of TOML

While a text is read, each table remembers how it came to be, because that decides what may be added
to it: a table that a longer header implied may get a header of its own once, and a dotted key may
not add to a table that a header opened.
-/

set_option autoImplicit false

namespace ReportSearch.Toml

inductive Standing where
  /-- Opened by a header of its own. -/
  | headed
  /-- Implied by a longer header. -/
  | implied
  /-- Made by a dotted key. -/
  | dotted
  deriving DecidableEq, Repr

inductive Node where
  | value (setting : Setting)
  | table (standing : Standing) (entries : List (String × Node))
  /-- A list of tables, of which the latest is still open. -/
  | tables (earlier : List Setting) (latest : List (String × Node))
  deriving Repr, Inhabited

abbrev Entries := List (String × Node)

/-- Puts a node under a name, in the place of the one that was there. -/
def Entries.put (entries : Entries) (name : String) (node : Node) : Entries :=
  Json.insertMember name node entries

mutual

def Node.setting : Node → Setting
  | .value setting => setting
  | .table _ entries => .table (settingsOf entries)
  | .tables earlier latest => .list (earlier ++ [.table (settingsOf latest)])

def settingsOf : List (String × Node) → List (String × Setting)
  | [] => []
  | (name, node) :: rest => (name, node.setting) :: settingsOf rest

end

namespace Entries

/-- Changes the table that the names of a header lead to. Tables on the way are made where there
are none, and of a list of tables the latest is meant. -/
def within? (change : Entries → Option Entries) : List String → Entries → Option Entries
  | [], entries => change entries
  | name :: path, entries =>
    match entries.lookup name with
    | none => (within? change path []).map fun inner => entries.put name (.table .implied inner)
    | some (.table standing inner) =>
      (within? change path inner).map fun inner => entries.put name (.table standing inner)
    | some (.tables earlier latest) =>
      (within? change path latest).map fun latest => entries.put name (.tables earlier latest)
    | some (.value _) => none

def openTable? (key : Key) : Entries → Option Entries :=
  within? (fun entries =>
    match entries.lookup key.name with
    | none => some (entries.put key.name (.table .headed []))
    | some (.table .implied inner) => some (entries.put key.name (.table .headed inner))
    | _ => none) key.path

def openNext? (key : Key) : Entries → Option Entries :=
  within? (fun entries =>
    match entries.lookup key.name with
    | none => some (entries.put key.name (.tables [] []))
    | some (.tables earlier latest) =>
      some (entries.put key.name (.tables (earlier ++ [.table (settingsOf latest)]) []))
    | _ => none) key.path

/-- Adds a new entry. The table that it goes to has to be the one that the key starts from or
one that a dotted key made; `mayAdd` says so of the table at hand. -/
def addAlong? (name : String) (value : Setting) :
    (mayAdd : Bool) → List String → Entries → Option Entries
  | mayAdd, [], entries =>
    if mayAdd && (entries.lookup name).isNone then some (entries.put name (.value value)) else none
  | _, first :: path, entries =>
    match entries.lookup first with
    | none =>
      (addAlong? name value true path []).map fun inner => entries.put first (.table .dotted inner)
    | some (.table .headed _) => none
    | some (.table standing inner) =>
      (addAlong? name value (standing = .dotted) path inner).map fun inner =>
        entries.put first (.table standing inner)
    | some (.tables earlier latest) =>
      (addAlong? name value false path latest).map fun latest =>
        entries.put first (.tables earlier latest)
    | some (.value _) => none

def add? (key : Key) (value : Setting) (entries : Entries) : Option Entries :=
  addAlong? key.name value true key.path entries

end Entries

end ReportSearch.Toml
