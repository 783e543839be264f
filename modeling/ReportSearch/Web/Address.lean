import ReportSearch.Web.Percent
import ReportSearch.Web.Request

/-!
# Addresses

An address of the web is a scheme, an authority, a path and perhaps a query; a fragment is dropped.
Reading an address brings its path to a normal form: segments of dots are resolved, a backslash
counts as a slash, and characters that may not stand there are percent-encoded. What is
percent-encoded already stays as it is.
-/

set_option autoImplicit false

namespace ReportSearch

open Text

structure Address where
  authority : String
  /-- The segments of the path; there is at least one. -/
  segments : List (List Char)
  query : Option (List Char)
  deriving DecidableEq, Repr

namespace Address

def isControl (c : Char) : Bool := c.toNat < 0x20 || c.toNat ≥ 0x7F

/-- The characters of a path that stand for themselves. -/
def isPathChar (c : Char) : Bool := !isControl c && !" \"#<>?`\x7b\x7d".toList.contains c

def isQueryChar (c : Char) : Bool := !isControl c && !" \"#<>'".toList.contains c

def isSlash (c : Char) : Bool := c = '/' || c = '\\'

/-- An address without the characters that are ignored: control characters and spaces around it,
tabs and line breaks anywhere. -/
def clean (cs : List Char) : List Char :=
  let isOuter := fun c : Char => c.toNat ≤ 0x20
  let inner := ((cs.dropWhile isOuter).reverse.dropWhile isOuter).reverse
  inner.filter fun c => c ≠ '\t' ∧ c ≠ '\n' ∧ c ≠ '\r'

def dotForms : List String := [".", "%2e"]

def doubleDotForms : List String := ["..", ".%2e", "%2e.", "%2e%2e"]

def isDot (segment : List Char) : Bool := dotForms.contains (String.ofList (lowerAscii segment))

def isDoubleDot (segment : List Char) : Bool :=
  doubleDotForms.contains (String.ofList (lowerAscii segment))

/-- Adds the segments of a path to those before it, which are held in reverse. A segment of dots at
the end leaves an empty one. -/
def resolve : List (List Char) → List (List Char) → List (List Char)
  | before, [] => before.reverse
  | before, [last] =>
    if isDoubleDot last then ([] :: before.tail).reverse
    else if isDot last then ([] :: before).reverse
    else (last :: before).reverse
  | before, segment :: rest =>
    if isDoubleDot segment then resolve before.tail rest
    else if isDot segment then resolve before rest
    else resolve (segment :: before) rest

/-- The segments of a path, which begins with a slash or is empty. -/
def segmentsOf (path : List Char) : List (List Char) :=
  let path := path.map fun c => if isSlash c then '/' else c
  (resolve [] (splitOnChar '/' path.tail)).map (Percent.encode isPathChar)

/-- Whether an authority names a host and, after a colon, a number of 16 bits. -/
def isAuthority (cs : List Char) : Bool :=
  let host := WebTarget.hostPart cs
  let name := host.takeWhile (· != ':')
  let number := (host.dropWhile (· != ':')).drop 1
  !name.isEmpty && (Percent.encode isPathChar name = name) && !name.contains '%' &&
    (number.isEmpty ||
      (allDigits number && natOfDigits (number.filterMap digit?) ≤ 65535))
where
  allDigits (cs : List Char) : Bool := cs.all fun c => (digit? c).isSome

/-- What follows the scheme of an address of the web, and its slashes. -/
def afterScheme? (cs : List Char) : Option (List Char) :=
  match cutAt? ':' cs with
  | some (scheme, rest) =>
    if ["http", "https"].contains (String.ofList (lowerAscii scheme)) then
      some (rest.dropWhile isSlash)
    else none
  | none => none

def ofText? (text : String) : Option Address := do
  let rest ← afterScheme? (clean text.toList)
  let isEnd := fun c => isSlash c || c = '?' || c = '#'
  let authority := rest.takeWhile (!isEnd ·)
  if !isAuthority authority then none
  else
    let rest := WebTarget.withoutFragment (rest.dropWhile (!isEnd ·))
    let (path, query) := match cutAt? '?' rest with
      | some (path, query) => (path, some query)
      | none => (rest, none)
    some
      { authority := String.ofList authority
        segments := segmentsOf path
        query := query.map (Percent.encode isQueryChar) }

def target (address : Address) : String :=
  let path := address.segments.flatMap fun segment => '/' :: segment
  String.ofList (path ++ match address.query with
    | some query => '?' :: query
    | none => [])

end Address

end ReportSearch
