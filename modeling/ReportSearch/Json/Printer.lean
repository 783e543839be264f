import ReportSearch.Json.Value
import ReportSearch.Number.Shortest

/-!
# JSON text

Two forms: compact, and indented by two spaces a level. In strings the quote, the backslash and the
characters below U+0020 are escaped and everything else is written as it is.
-/

set_option autoImplicit false

namespace ReportSearch.Json

def hexDigits (n : Nat) : List Char :=
  [Nat.digitChar (n / 4096 % 16), Nat.digitChar (n / 256 % 16), Nat.digitChar (n / 16 % 16),
    Nat.digitChar (n % 16)]

def escapeChar (c : Char) : List Char :=
  if c = '"' then ['\\', '"']
  else if c = '\\' then ['\\', '\\']
  else if c = '\n' then ['\\', 'n']
  else if c = '\r' then ['\\', 'r']
  else if c = '\t' then ['\\', 't']
  else if c = '\x08' then ['\\', 'b']
  else if c = '\x0c' then ['\\', 'f']
  else if c.toNat < 32 then '\\' :: 'u' :: hexDigits c.toNat
  else [c]

def quoted (s : String) : List Char :=
  '"' :: (s.toList.flatMap escapeChar ++ ['"'])

def intText (i : Int) : String := toString i

end Json

namespace Number

def text : Number → String
  | int i => Json.intText i
  | double x => x.text

end Number

namespace Json

mutual

def compactChars : Json → List Char
  | null => ['n', 'u', 'l', 'l']
  | bool true => ['t', 'r', 'u', 'e']
  | bool false => ['f', 'a', 'l', 's', 'e']
  | num n => n.text.toList
  | str s => quoted s
  | arr items => '[' :: (compactItems items ++ [']'])
  | obj members => '{' :: (compactMembers members ++ ['}'])

def compactItems : List Json → List Char
  | [] => []
  | [item] => compactChars item
  | item :: rest => compactChars item ++ ',' :: compactItems rest

def compactMembers : List (String × Json) → List Char
  | [] => []
  | [(key, value)] => quoted key ++ ':' :: compactChars value
  | (key, value) :: rest => quoted key ++ ':' :: (compactChars value ++ ',' :: compactMembers rest)

end

def compact (value : Json) : String := String.ofList value.compactChars

def newline (depth : Nat) : List Char := '\n' :: List.replicate (2 * depth) ' '

mutual

def indentedChars (depth : Nat) : Json → List Char
  | arr [] => ['[', ']']
  | obj [] => ['{', '}']
  | arr items => '[' :: (indentedItems (depth + 1) items ++ newline depth ++ [']'])
  | obj members => '{' :: (indentedMembers (depth + 1) members ++ newline depth ++ ['}'])
  | null => ['n', 'u', 'l', 'l']
  | bool true => ['t', 'r', 'u', 'e']
  | bool false => ['f', 'a', 'l', 's', 'e']
  | num n => n.text.toList
  | str s => quoted s

def indentedItems (depth : Nat) : List Json → List Char
  | [] => []
  | [item] => newline depth ++ indentedChars depth item
  | item :: rest => newline depth ++ indentedChars depth item ++ ',' :: indentedItems depth rest

def indentedMembers (depth : Nat) : List (String × Json) → List Char
  | [] => []
  | [(key, value)] => newline depth ++ quoted key ++ ':' :: ' ' :: indentedChars depth value
  | (key, value) :: rest =>
    newline depth ++ quoted key ++
      ':' :: ' ' :: (indentedChars depth value ++ ',' :: indentedMembers depth rest)

end

def indented (value : Json) : String := String.ofList (value.indentedChars 0)

end Json

end ReportSearch
