import ReportSearch.Config.Toml.Scalar
import ReportSearch.Config.Toml.Table

/-!
# TOML texts

A text is a sequence of lines: entries, which go to the table that is open, and headers, which open
another one. A value may be a list over several lines, or a table on one line.
-/

set_option autoImplicit false

namespace ReportSearch.Toml

mutual

/-- Reads one value with `depth` containers around it. The fuel bounds the steps by the length of
the text. -/
def readValue? : Nat → Nat → List Char → Option (Setting × List Char)
  | 0, _, _ => none
  | fuel + 1, depth, cs =>
    match cs with
    | '"' :: _ => (readString? cs).map fun (s, rest) => (.text s, rest)
    | '\'' :: _ => (readString? cs).map fun (s, rest) => (.text s, rest)
    | '[' :: rest =>
      if depth + 1 < depthLimit then do
        let (items, rest) ← readItems? fuel (depth + 1) (skipLines false rest)
        return (.list items, rest)
      else none
    | '\x7b' :: rest =>
      if depth + 1 < depthLimit then
        match skipSpace rest with
        | '\x7d' :: rest => some (.table [], rest)
        | rest => do
          let (entries, rest) ← readEntries? fuel (depth + 1) [] rest
          return (.table (settingsOf entries), rest)
      else none
    | 't' :: 'r' :: 'u' :: 'e' :: rest => some (.flag true, rest)
    | 'f' :: 'a' :: 'l' :: 's' :: 'e' :: rest => some (.flag false, rest)
    | _ => readMoment? cs <|> readNumber? cs

/-- Reads the items of a list up to its end; a comma may follow the last one. -/
def readItems? : Nat → Nat → List Char → Option (List Setting × List Char)
  | 0, _, _ => none
  | _, _, ']' :: rest => some ([], rest)
  | fuel + 1, depth, cs => do
    let (item, rest) ← readValue? fuel depth cs
    match skipLines false rest with
    | ',' :: rest =>
      let (items, rest) ← readItems? fuel depth (skipLines false rest)
      return (item :: items, rest)
    | ']' :: rest => return ([item], rest)
    | _ => none

/-- Reads the entries of a table on one line up to its end; there is at least one. -/
def readEntries? : Nat → Nat → Entries → List Char → Option (Entries × List Char)
  | 0, _, _, _ => none
  | fuel + 1, depth, entries, cs => do
    let (key, rest) ← readKey? cs
    let rest ← Text.afterStart? ['='] rest
    let (value, rest) ← readValue? fuel depth (skipSpace rest)
    let entries ← entries.add? key value
    match skipSpace rest with
    | ',' :: rest => readEntries? fuel depth entries rest
    | '\x7d' :: rest => return (entries, rest)
    | _ => none

end

def readAssignment? (cs : List Char) : Option (Key × Setting × List Char) := do
  let (key, rest) ← readKey? cs
  let rest ← Text.afterStart? ['='] rest
  let (value, rest) ← readValue? (2 * rest.length + 2) 0 (skipSpace rest)
  return (key, value, ← endLine? rest)

/-- Reads a header after its opening brackets, and the end of its line. -/
def readHeader? (closing : List Char) (cs : List Char) : Option (Key × List Char) := do
  let (key, rest) ← readKey? cs
  return (key, ← endLine? (← Text.afterStart? closing rest))

/-- Reads lines into `root`, where `here` leads to the open table. -/
def readLines? : Nat → List String → Entries → List Char → Option Entries
  | 0, _, _, _ => none
  | fuel + 1, here, root, cs =>
    match skipSpace cs with
    | [] => some root
    | '[' :: '[' :: rest => do
      let (key, rest) ← readHeader? [']', ']'] rest
      readLines? fuel (key.path ++ [key.name]) (← root.openNext? key) rest
    | '[' :: rest => do
      let (key, rest) ← readHeader? [']'] rest
      readLines? fuel (key.path ++ [key.name]) (← root.openTable? key) rest
    | '#' :: rest => do readLines? fuel here root (← endLine? ('#' :: rest))
    | cs =>
      match afterBreak? cs with
      | some rest => readLines? fuel here root rest
      | none => do
        let (key, value, rest) ← readAssignment? cs
        readLines? fuel here (← root.within? (Entries.add? key value) here) rest

def afterMark : List Char → List Char
  | '\ufeff' :: cs => cs
  | cs => cs

/-- The entries of a text, if it is well-formed. -/
def parse? (text : String) : Option (List (String × Setting)) :=
  let cs := afterMark text.toList
  (readLines? (cs.length + 1) [] [] cs).map settingsOf

end ReportSearch.Toml
