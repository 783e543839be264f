import ReportSearch.Text.Blank

/-!
# Web requests

A request has a method, a target and perhaps a media type. The target is most often a path with or
without a query; it may also be a star, a whole address or an authority alone. Requests that do not
keep to the grammar of these parts do not exist.
-/

set_option autoImplicit false

namespace ReportSearch

open Text

structure WebTarget where
  path : String
  query : Option String := none
  deriving DecidableEq, Repr

structure WebRequest where
  method : String
  target : WebTarget
  contentType : Option String
  body : String
  deriving DecidableEq, Repr

namespace WebRequest

def isAsciiAlphanum (c : Char) : Bool :=
  ('a' ≤ c && c ≤ 'z') || ('A' ≤ c && c ≤ 'Z') || ('0' ≤ c && c ≤ '9')

/-- The characters of tokens, such as methods and the parts of media types. -/
def isTokenChar (c : Char) : Bool := isAsciiAlphanum c || "!#$%&'*+-.^_`|~".toList.contains c

end WebRequest

namespace WebTarget

open WebRequest

def isPathChar (c : Char) : Bool :=
  c.toNat ≥ 0x7F || (c.toNat > 0x20 && !"#<>?`".toList.contains c)

def isQueryChar (c : Char) : Bool := c.toNat ≥ 0x7F || (c.toNat > 0x20 && !"\"#<>".toList.contains c)

/-- The characters of an authority, apart from the percent sign. -/
def isAuthorityChar (c : Char) : Bool := isAsciiAlphanum c || "!$&'()*+,-.:;=@[]_~".toList.contains c

def withoutFragment (cs : List Char) : List Char := cs.takeWhile (· != '#')

/-- A path and a query up to the fragment; an empty path is the root. -/
def ofPathAndQuery? (cs : List Char) : Option WebTarget :=
  let cs := withoutFragment cs
  let (path, query) := match cutAt? '?' cs with
    | some (path, query) => (path, some query)
    | none => (cs, none)
  if path.all isPathChar && (query.getD []).all isQueryChar then
    some ⟨if path.isEmpty then "/" else String.ofList path, query.map String.ofList⟩
  else none

/-- Whether an authority names a host, with at most one colon after it. -/
def isHost (cs : List Char) : Bool :=
  cs.all isAuthorityChar && !cs.contains '[' && !cs.contains ']' && cs.count ':' ≤ 1

/-- A bracketed address may have any number of colons, up to eight. -/
def isBracketed (cs : List Char) : Bool :=
  match cs with
  | '[' :: rest =>
    match cutAt? ']' rest with
    | some (inner, after) =>
      inner.all (fun c => (isAuthorityChar c && c != '[') || c = '%') && inner.count ':' ≤ 8 &&
        isHost after
    | none => false
  | _ => false

/-- The part of an authority after the last at sign, which names the host. -/
def hostPart (cs : List Char) : List Char := (cs.reverse.takeWhile (· != '@')).reverse

def isAuthority (cs : List Char) : Bool :=
  let host := hostPart cs
  let user := cs.take (cs.length - host.length)
  user.all (fun c => isAuthorityChar c || c = '%') && (isHost host || isBracketed host) &&
    (!host.isEmpty || user.isEmpty)

def isSchemeChar (c : Char) : Bool := isAsciiAlphanum c || "+-.".toList.contains c

/-- What follows the scheme of a whole address and its two slashes. -/
def afterScheme? (cs : List Char) : Option (List Char) :=
  let scheme := cs.takeWhile isSchemeChar
  if scheme.isEmpty then none else afterStart? [':', '/', '/'] (cs.dropWhile isSchemeChar)

def isAuthorityEnd (c : Char) : Bool := c = '/' || c = '?' || c = '#'

def greatestLength : Nat := 65534

def ofText? (text : String) : Option WebTarget :=
  if greatestLength < text.utf8ByteSize then none
  else
    match text.toList with
    | [] => none
    | ['*'] => some ⟨"*", none⟩
    | '/' :: rest => ofPathAndQuery? ('/' :: rest)
    | cs =>
      match afterScheme? cs with
      | some rest =>
        let authority := rest.takeWhile (!isAuthorityEnd ·)
        if authority.isEmpty || !isAuthority authority then none
        else ofPathAndQuery? (rest.dropWhile (!isAuthorityEnd ·))
      | none => if isAuthority cs then some ⟨"", none⟩ else none

end WebTarget

namespace WebRequest

def isHeaderText (text : String) : Bool :=
  text.toList.all fun c => (c.toNat ≥ 32 && c.toNat ≠ 127) || c = '\t'

def isMethod (text : String) : Bool := !text.isEmpty && text.toList.all isTokenChar

/-- The request of the given parts, if each of them keeps to its grammar. -/
def ofParts? (method target : String) (contentType : Option String) (body : String) :
    Option WebRequest := do
  let target ← WebTarget.ofText? target
  if isMethod method && contentType.all isHeaderText then
    some { method, target, contentType, body }
  else none

end WebRequest

end ReportSearch
