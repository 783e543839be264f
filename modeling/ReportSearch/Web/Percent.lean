import ReportSearch.Text.Blank

/-!
# Percent encoding

Texts in an address stand for bytes: a percent sign and two hexadecimal digits for any byte, and a
character for its bytes in UTF-8. Forms, which are what follows the question mark, are pairs of a
name and a value.
-/

set_option autoImplicit false

namespace ReportSearch.Percent

open Text

/-- The bytes that a text stands for; a percent sign without two digits stands for itself. -/
def bytes : List Char → List UInt8
  | [] => []
  | '%' :: a :: b :: rest =>
    match hexDigit? a, hexDigit? b with
    | some high, some low => UInt8.ofNat (16 * high + low) :: bytes rest
    | _, _ => String.utf8EncodeChar '%' ++ bytes (a :: b :: rest)
  | c :: rest => String.utf8EncodeChar c ++ bytes rest

/-- The text that a percent-encoded text stands for, if its bytes are UTF-8. -/
def decode? (cs : List Char) : Option String := String.fromUTF8? ⟨(bytes cs).toArray⟩

/-- One half of a pair: plus signs are spaces, and bytes that are no text become the replacement
character. -/
def formText (cs : List Char) : String :=
  (decode? (cs.map fun c => if c = '+' then ' ' else c)).getD "\uFFFD"

/-- A pair is cut at the first equals sign; without one the value is empty. -/
def formPair (cs : List Char) : String × String :=
  match cutAt? '=' cs with
  | some (name, value) => (formText name, formText value)
  | none => (formText cs, "")

def formPairs (query : List Char) : List (String × String) :=
  ((splitOnChar '&' query).filter (!·.isEmpty)).map formPair

def hexUpper (n : Nat) : Char := (Nat.digitChar n).toUpper

def encodeByte (b : UInt8) : List Char := ['%', hexUpper (b.toNat / 16), hexUpper (b.toNat % 16)]

/-- A text in which the characters that are not `kept` are encoded. -/
def encode (kept : Char → Bool) (cs : List Char) : List Char :=
  cs.flatMap fun c => if kept c then [c] else (String.utf8EncodeChar c).flatMap encodeByte

end ReportSearch.Percent
