import ReportSearch.Config.Setting

/-!
# Settings from environment variables

A variable counts when its name, in lower case, starts with `crash_query__`. What follows is a key
in which two underscores stand for a point. The value is a flag, an integer or a double if it reads
as one, and a text otherwise.
-/

set_option autoImplicit false

namespace ReportSearch

open Text

abbrev Environment := List (String × String)

namespace Environment

def namePrefix : List Char := "crash_query__".toList

/-- A letter in lower case; the sign for kelvin is the one letter outside ASCII that becomes an
ASCII letter. Letters that stay outside ASCII are in no key, so they are left as they are. -/
def lowerLetter (c : Char) : Char := if c = '\u212a' then 'k' else c.toLower

def pointed : List Char → List Char
  | '_' :: '_' :: cs => '.' :: pointed cs
  | c :: cs => c :: pointed cs
  | [] => []

def key? (name : String) : Option String :=
  (afterStart? namePrefix (name.toList.map lowerLetter)).map fun rest =>
    String.ofList (pointed rest)

def isNotANumber (text : String) : Bool := lowerAscii (cutSign text.toList).2 = ['n', 'a', 'n']

def settingOf (value : String) : Setting :=
  let word := String.ofList (lowerAscii value.toList)
  if word = "true" then .flag true
  else if word = "false" then .flag false
  else
    match readInt64? value, Double.ofText? value with
    | some i, _ => .integer i
    | none, some x => .real x
    | none, none => if isNotANumber value then .notANumber else .text value

def source (environment : Environment) : List (String × Setting) :=
  environment.filterMap fun (name, value) => (key? name).map fun key => (key, settingOf value)

end Environment

end ReportSearch
