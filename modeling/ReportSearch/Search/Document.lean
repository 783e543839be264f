import ReportSearch.Json.Source
import ReportSearch.Selection

/-!
# Documents and their rows

A stored document is read at dotted paths. Objects may be nested or flattened: at every level the
rest of the path is looked for as one key before its first segment is followed. A row holds what the
columns of a search find in one document, and null for what it does not have.
-/

set_option autoImplicit false

namespace ReportSearch

namespace Json

def joinSegments (segments : List (List Char)) : String :=
  String.ofList (List.intercalate ['.'] segments)

/-- The value at a path of segments. The fewest segments are followed one by one, and the others
make up one key. -/
def atSegments? : List (List Char) → Json → Option Json
  | [], _ => none
  | segment :: rest, document =>
    match document.get? (joinSegments (segment :: rest)) with
    | some value => some value
    | none => (document.get? (String.ofList segment)).bind (atSegments? rest)

def atPath? (path : String) (document : Json) : Option Json :=
  atSegments? (Text.splitOnChar '.' path.toList) document

/-- A tree that is kept as its own text is read; every other value is left as it is. -/
def unfolded : Json → Json
  | str text => (parse? text).getD (str text)
  | value => value

end Json

/-- The values of a document by column; a column that comes again replaces its value. -/
abbrev Row := List (String × Json)

namespace Column

def value (column : Column) (document : Json) : Json :=
  let found := (Json.atPath? column.path document).getD .null
  match column.shape with
  | .object => found.unfolded
  | .scalar => found

def row (columns : List Column) (document : Json) : Row :=
  columns.foldl (fun row column => Json.insertMember column.name (column.value document) row) []

end Column

end ReportSearch
