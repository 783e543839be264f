import ReportSearch.Text.Blank

/-!
# Space, strings and keys of TOML

A string is quoted by double quotes, in which a backslash escapes, or by single ones, in which it
does not. Three quotes open a string of several lines; it ends at the next three, and one or two
more quotes before those belong to it. Keys are bare words or one-line strings, joined by points.
-/

set_option autoImplicit false

namespace ReportSearch.Toml

open Text

/-- Dotted keys and containers within containers have fewer parts than this. -/
def depthLimit : Nat := 80

/-- What may stand in a comment or a string: no control character but the tab. -/
def isPlain (c : Char) : Bool := c = '\t' || (0x20 ≤ c.toNat && c.toNat != 0x7F)

def isSpace (c : Char) : Bool := c = ' ' || c = '\t'

def skipSpace (cs : List Char) : List Char := cs.dropWhile isSpace

def afterBreak? : List Char → Option (List Char)
  | '\n' :: cs => some cs
  | '\r' :: '\n' :: cs => some cs
  | _ => none

def skipComment : List Char → List Char
  | '#' :: cs => cs.dropWhile isPlain
  | cs => cs

/-- What follows a line of which only space and a comment are left. -/
def endLine? (cs : List Char) : Option (List Char) :=
  match skipComment (skipSpace cs) with
  | [] => some []
  | cs => afterBreak? cs

/-- Drops space and line breaks. -/
def skipBreaks : List Char → List Char
  | '\r' :: '\n' :: cs => skipBreaks cs
  | c :: cs => if isSpace c || c = '\n' then skipBreaks cs else c :: cs
  | [] => []

/-- Drops space, line breaks and comments. -/
def skipLines (inComment : Bool) : List Char → List Char
  | '\n' :: cs => skipLines false cs
  | '\r' :: '\n' :: cs => skipLines false cs
  | c :: cs =>
    if inComment then if isPlain c then skipLines true cs else c :: cs
    else if c = '#' then skipLines true cs
    else if isSpace c then skipLines false cs
    else c :: cs
  | [] => []

/-- The character with the number that the first `count` hexadecimal digits denote. -/
def scalar? (count : Nat) (cs : List Char) : Option (Char × List Char) := do
  let digits ← (cs.take count).mapM hexDigit?
  let n := digits.foldl (fun n d => 16 * n + d) 0
  if digits.length = count ∧ n.isValidChar then some (Char.ofNat n, cs.drop count) else none

def escape? : List Char → Option (Char × List Char)
  | 'b' :: cs => some ('\x08', cs)
  | 't' :: cs => some ('\t', cs)
  | 'n' :: cs => some ('\n', cs)
  | 'f' :: cs => some ('\x0c', cs)
  | 'r' :: cs => some ('\r', cs)
  | '"' :: cs => some ('"', cs)
  | '\\' :: cs => some ('\\', cs)
  | 'u' :: cs => scalar? 4 cs
  | 'U' :: cs => scalar? 8 cs
  | _ => none

/-- Reads a string of one line after its opening quote; the characters read are held in reverse. -/
def readShort? (quote : Char) (escapes : Bool) :
    Nat → List Char → List Char → Option (String × List Char)
  | 0, _, _ => none
  | _, _, [] => none
  | fuel + 1, read, c :: cs =>
    if c = quote then some (String.ofList read.reverse, cs)
    else if escapes && c = '\\' then do
      let (e, cs) ← escape? cs
      readShort? quote escapes fuel (e :: read) cs
    else if isPlain c then readShort? quote escapes fuel (c :: read) cs
    else none

/-- Reads a string of several lines after its opening quotes. A backslash at the end of a line
takes the space before the next character with it. -/
def readLong? (quote : Char) (escapes : Bool) :
    Nat → List Char → List Char → Option (String × List Char)
  | 0, _, _ => none
  | _, _, [] => none
  | fuel + 1, read, '\r' :: '\n' :: cs => readLong? quote escapes fuel ('\n' :: read) cs
  | fuel + 1, read, c :: cs =>
    if c = quote then
      let more := (cs.takeWhile (· = quote)).length
      let rest := cs.drop more
      if more < 2 then
        readLong? quote escapes fuel (List.replicate (more + 1) quote ++ read) rest
      else if more < 5 then
        some (String.ofList (List.replicate (more - 2) quote ++ read).reverse, rest)
      else none
    else if escapes && c = '\\' then
      match afterBreak? (skipSpace cs) with
      | some rest => readLong? quote escapes fuel read (skipBreaks rest)
      | none => do
        let (e, cs) ← escape? cs
        readLong? quote escapes fuel (e :: read) cs
    else if isPlain c || c = '\n' then readLong? quote escapes fuel (c :: read) cs
    else none

/-- A line break after the opening quotes does not count. -/
def readLongBody? (quote : Char) (escapes : Bool) (cs : List Char) :
    Option (String × List Char) :=
  readLong? quote escapes (cs.length + 1) [] ((afterBreak? cs).getD cs)

def readQuoted? : List Char → Option (String × List Char)
  | '"' :: cs => readShort? '"' true (cs.length + 1) [] cs
  | '\'' :: cs => readShort? '\'' false (cs.length + 1) [] cs
  | _ => none

def readString? : List Char → Option (String × List Char)
  | '"' :: '"' :: '"' :: cs => readLongBody? '"' true cs
  | '\'' :: '\'' :: '\'' :: cs => readLongBody? '\'' false cs
  | cs => readQuoted? cs

def isBareChar (c : Char) : Bool := c.isAlphanum || c = '_' || c = '-'

def readWord? (cs : List Char) : Option (String × List Char) :=
  match readQuoted? cs with
  | some found => some found
  | none =>
    let word := cs.takeWhile isBareChar
    if word.isEmpty then none else some (String.ofList word, cs.dropWhile isBareChar)

def readWords? : Nat → List Char → Option (List String × List Char)
  | 0, _ => none
  | fuel + 1, cs => do
    let (word, rest) ← readWord? (skipSpace cs)
    match skipSpace rest with
    | '.' :: rest =>
      let (words, rest) ← readWords? fuel rest
      return (word :: words, rest)
    | rest => return ([word], rest)

structure Key where
  path : List String
  name : String
  deriving DecidableEq, Repr

def Key.ofWords? (words : List String) : Option Key :=
  words.getLast?.map fun name => ⟨words.dropLast, name⟩

/-- A key of fewer words than the limit. -/
def readKey? (cs : List Char) : Option (Key × List Char) := do
  let (words, rest) ← readWords? depthLimit cs
  let key ← Key.ofWords? words
  if words.length < depthLimit then return (key, rest) else none

end ReportSearch.Toml
