import ReportSearch.Web.Request

/-!
# Media types

A media type is a type and a subtype with a slash between them, and parameters after semicolons.
Case does not matter. What follows the last plus sign of a subtype names a notation that it uses.
-/

set_option autoImplicit false

namespace ReportSearch.MediaType

open Text WebRequest

def isQuotedChar (c : Char) : Bool := c.toNat > 31 && c.toNat ≠ 127

/-- Skips a quoted value after its opening quote, up to the quote that closes it. A quote that
stands first does not close it. -/
def afterQuoted? : List Char → Option (List Char)
  | [] => none
  | c :: rest =>
    if !isQuotedChar c then none
    else match cutAt? '"' rest with
      | some (inner, after) => if inner.all isQuotedChar then some after else none
      | none => none

/-- What follows a value and the semicolon after it; the inner option is empty at the end of the
text. -/
def afterValue? : List Char → Option (Option (List Char))
  | '"' :: rest =>
    match afterQuoted? rest with
    | some after =>
      match after.dropWhile (· = ' ') with
      | [] => some none
      | ';' :: more => some (some more)
      | _ => none
    | none => none
  | cs =>
    match cs.dropWhile isTokenChar with
    | [] => some none
    | ';' :: more => if (cs.takeWhile isTokenChar).isEmpty then none else some (some more)
    | _ => none

/-- Whether a text is a list of parameters. Each takes a character at least, so that the length of
the text bounds their number. -/
def areParameters : Nat → List Char → Bool
  | 0, _ => false
  | fuel + 1, cs =>
    let cs := cs.dropWhile (· = ' ')
    match cs.takeWhile isTokenChar, cs.dropWhile isTokenChar with
    | _ :: _, '=' :: rest =>
      match afterValue? rest with
      | some (some more) => areParameters fuel more
      | some none => true
      | none => false
    | _, _ => false

/-- Whether a subtype is JSON, by itself or by the notation that it uses. -/
def isJsonSubtype (subtype : List Char) : Bool :=
  let suffix := (subtype.reverse.takeWhile (· != '+')).reverse
  let stem := subtype.take (subtype.length - suffix.length - 1)
  if subtype.tail.contains '+' then stem = "json".toList || suffix = "json".toList
  else subtype = "json".toList

def isJson (text : String) : Bool :=
  match cutAt? '/' (lowerAscii text.toList) with
  | none => false
  | some (type, rest) =>
    let subtype := rest.takeWhile (· != ';')
    let parameters := (rest.dropWhile (· != ';')).drop 1
    type = "application".toList && !subtype.isEmpty && subtype.all isTokenChar &&
      isJsonSubtype subtype &&
      (!rest.contains ';' || areParameters (parameters.length + 1) parameters)

end ReportSearch.MediaType
