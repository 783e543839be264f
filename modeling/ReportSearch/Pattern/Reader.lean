import ReportSearch.Pattern.Expression
import ReportSearch.Pattern.Property
import ReportSearch.Text.Blank
import ReportSearch.Text.Letter

/-!
# Reading regular expressions

The grammar of the patterns that rules may hold, as a reader from characters to expressions. Without
the flag `u` a pattern may not ask for bytes that are no text, so some of its forms are refused as
they are read.
-/

set_option autoImplicit false

namespace ReportSearch.Pattern

open Text (isBlank hexDigit?)

/-- The rest of a pattern, the flags in force, and the names of groups that were given. -/
structure Cursor where
  rest : List Char
  /-- Blanks and comments are skipped. -/
  isSpaced : Bool := false
  isUnicode : Bool := true
  names : List (List Char) := []

namespace Cursor

/-- Drops blanks, and comments from a hash sign to the end of its line. -/
def dropSpace (inComment : Bool) : List Char → List Char
  | [] => []
  | c :: cs =>
    if inComment then dropSpace (c != '\n') cs
    else if isBlank c then dropSpace false cs
    else if c = '#' then dropSpace true cs
    else c :: cs

def spaceless (cursor : Cursor) (rest : List Char) : List Char :=
  if cursor.isSpaced then dropSpace false rest else rest

def skip (cursor : Cursor) : Cursor := { cursor with rest := cursor.spaceless cursor.rest }

def goTo (cursor : Cursor) (rest : List Char) : Cursor := { cursor with rest }

/-- Goes to a place and skips what may be skipped there. -/
def past (cursor : Cursor) (rest : List Char) : Cursor := (cursor.goTo rest).skip

end Cursor

/-- What an escape or a plain character stands for. -/
inductive Atom where
  | char (c : Char)
  /-- A character given by two hexadecimal digits, which is a byte without the flag `u`. -/
  | byte (c : Char)
  | set (chars : CharSet)
  | place

def isHex (c : Char) : Bool := (hexDigit? c).isSome

def hexValue (digits : List Char) : Nat :=
  digits.foldl (fun n c => 16 * n + (hexDigit? c).getD 0) 0

/-- The character of a code point, if there is one. -/
def charOfCode? (n : Nat) : Option Char := if n.isValidChar then some (Char.ofNat n) else none

def readHexDigits? : Nat → List Char → Cursor → Option (List Char × Cursor)
  | 0, read, cursor => some (read.reverse, cursor)
  | count + 1, read, cursor =>
    match cursor.rest with
    | c :: rest =>
      if isHex c then readHexDigits? count (c :: read) (cursor.past rest) else none
    | [] => none

def readHexBraced? : Nat → List Char → Cursor → Option (List Char × Cursor)
  | 0, _, _ => none
  | fuel + 1, read, cursor =>
    match cursor.rest with
    | '\x7d' :: rest => some (read.reverse, cursor.past rest)
    | c :: rest => if isHex c then readHexBraced? fuel (c :: read) (cursor.past rest) else none
    | [] => none

def hexLength : Char → Nat
  | 'x' => 2
  | 'u' => 4
  | _ => 8

def readHexEscape? (kind : Char) (cursor : Cursor) : Option (Atom × Cursor) := do
  match cursor.rest with
  | '\x7b' :: rest =>
    let cursor := cursor.past rest
    let (digits, cursor) ← readHexBraced? (cursor.rest.length + 1) [] cursor
    if digits.isEmpty then none
    let c ← charOfCode? (hexValue digits)
    return (.char c, cursor)
  | _ =>
    let (digits, cursor) ← readHexDigits? (hexLength kind) [] cursor
    let c ← charOfCode? (hexValue digits)
    return (if kind = 'x' then .byte c else .char c, cursor)

def readBraced? : Nat → List Char → Cursor → Option (List Char × Cursor)
  | 0, _, _ => none
  | fuel + 1, read, cursor =>
    match cursor.rest with
    | '\x7d' :: rest => some (read.reverse, cursor.goTo rest)
    | c :: rest => readBraced? fuel (c :: read) (cursor.past rest)
    | [] => none

/-- What precedes and follows the first place where `isMark` finds a mark, which it measures. -/
def cutAtMark? (markLength : List Char → Option Nat) (before : List Char) :
    List Char → Option (List Char × List Char)
  | [] => none
  | c :: cs =>
    match markLength (c :: cs) with
    | some n => some (before.reverse, (c :: cs).drop n)
    | none => cutAtMark? markLength (c :: before) cs

def unequalMark : List Char → Option Nat
  | '!' :: '=' :: _ => some 2
  | _ => none

def charMark (mark : Char) : List Char → Option Nat
  | c :: _ => if c = mark then some 1 else none
  | [] => none

/-- Whether a property is known: a name, or a name and a value. -/
def isProperty (name : List Char) : Bool :=
  match (cutAtMark? unequalMark [] name) <|> (cutAtMark? (charMark ':') [] name)
      <|> (cutAtMark? (charMark '=') [] name) with
  | some (property, value) => isPropertyValue property value
  | none => isPropertyName name

/-- One estimate of states for all properties, of which some take a few and some take thousands. -/
def propertySize : Nat := 600

def readProperty? (negated : Bool) (cursor : Cursor) : Option (Atom × Cursor) := do
  let (name, cursor) ← match cursor.rest with
    | '\x7b' :: rest =>
      let cursor := cursor.past rest
      readBraced? (cursor.rest.length + 1) [] cursor
    | '\\' :: _ => none
    | c :: rest => some ([c], cursor.past rest)
    | [] => none
  if cursor.isUnicode && isProperty name then
    return (.set (.named negated propertySize), cursor)
  else none

def specialBoundaryNames : List (List Char) :=
  ["start", "end", "start-half", "end-half"].map String.toList

def isBoundaryNameChar (c : Char) : Bool := c.isAlpha || c = '-'

def readBoundaryName : Nat → List Char → Cursor → List Char × Cursor
  | 0, read, cursor => (read.reverse, cursor)
  | fuel + 1, read, cursor =>
    match cursor.rest with
    | c :: rest =>
      if isBoundaryNameChar c then readBoundaryName fuel (c :: read) (cursor.past rest)
      else (read.reverse, cursor)
    | [] => (read.reverse, cursor)

/-- A word boundary, which may be followed by its kind in braces. Braces that begin otherwise are
left for a repetition. -/
def readBoundary? (cursor : Cursor) : Option (Atom × Cursor) :=
  match cursor.rest with
  | '\x7b' :: rest =>
    let inside := cursor.past rest
    match inside.rest with
    | [] => none
    | c :: _ =>
      if isBoundaryNameChar c then
        let (name, after) := readBoundaryName inside.rest.length [] inside
        match after.rest with
        | '\x7d' :: rest =>
          if specialBoundaryNames.contains name then some (.place, after.goTo rest) else none
        | _ => none
      else some (.place, cursor)
  | _ => some (.place, cursor)

def isDecimalDigit (c : Char) : Bool := '0' ≤ c && c ≤ '9'

/-- ASCII characters other than letters, digits and angle brackets stand for themselves. -/
def isEscapable (c : Char) : Bool :=
  c.toNat < 128 && !c.isAlphanum && c != '<' && c != '>'

/-- Estimates of states for digits, blanks and word characters, under the flag `u` or not. -/
def shorthandSize : Char → Nat
  | 'd' | 'D' => 150
  | 's' | 'S' => 12
  | _ => 2200

def readEscape? (cursor : Cursor) : Option (Atom × Cursor) :=
  match cursor.rest with
  | [] => none
  | c :: rest =>
    if isDecimalDigit c then none
    else if ['x', 'u', 'U'].contains c then
      let cursor := cursor.past rest
      if cursor.rest.isEmpty then none else readHexEscape? c cursor
    else if c = 'p' || c = 'P' then readProperty? (c = 'P') (cursor.past rest)
    else if ['d', 's', 'w', 'D', 'S', 'W'].contains c then
      if c.isUpper && !cursor.isUnicode then none
      else some (.set (.named c.isUpper (shorthandSize c)), cursor.goTo rest)
    else if isEscapable c then some (.char c, cursor.goTo rest)
    else if ['a', 'f', 't', 'n', 'r', 'v'].contains c then some (.char c, cursor.goTo rest)
    else if c = 'b' then readBoundary? (cursor.goTo rest)
    else if ['A', 'z', 'B', '<', '>'].contains c then some (.place, cursor.goTo rest)
    else none

def readSetAtom? (cursor : Cursor) : Option (Atom × Cursor) :=
  match cursor.rest with
  | [] => none
  | '\\' :: rest => readEscape? (cursor.goTo rest)
  | c :: rest => some (.char c, cursor.goTo rest)

def setChar? (isUnicode : Bool) (c : Char) : Option Char :=
  if isUnicode || c.toNat < 128 then some c else none

/-- A single character, as an end of a range has to be. -/
def Atom.char? (isUnicode : Bool) : Atom → Option Char
  | .char c => setChar? isUnicode c
  | .byte c => setChar? isUnicode c
  | _ => none

def Atom.charSet? (isUnicode : Bool) : Atom → Option CharSet
  | .set chars => some chars
  | .place => none
  | atom => (atom.char? isUnicode).map .char

/-- A member of a bracketed set: a range, or what one atom stands for. A hyphen before a closing
bracket or another hyphen makes no range. -/
def readSetMember? (cursor : Cursor) : Option (CharSet × Cursor) := do
  let (atom, cursor) ← readSetAtom? cursor
  let cursor := cursor.skip
  match cursor.rest with
  | [] => none
  | '-' :: rest =>
    match cursor.spaceless rest with
    | [] => none
    | ']' :: _ => return (← atom.charSet? cursor.isUnicode, cursor)
    | '-' :: _ => return (← atom.charSet? cursor.isUnicode, cursor)
    | _ =>
      let (other, cursor) ← readSetAtom? (cursor.past rest)
      let first ← atom.char? cursor.isUnicode
      let last ← other.char? cursor.isUnicode
      if first ≤ last then some (.range first last, cursor) else none
  | _ => return (← atom.charSet? cursor.isUnicode, cursor)

def classNames : List (List Char) :=
  ["alnum", "alpha", "ascii", "blank", "cntrl", "digit", "graph", "lower", "print", "punct",
    "space", "upper", "word", "xdigit"].map String.toList

/-- A named class between `[:` and `:]`, after its opening bracket. -/
def readNamedClass? (cursor : Cursor) (rest : List Char) : Option (CharSet × Cursor) :=
  match rest with
  | ':' :: rest =>
    let (negated, rest) := match rest with
      | '^' :: rest => (true, rest)
      | rest => (false, rest)
    match rest.dropWhile (· != ':') with
    | ':' :: ']' :: after =>
      if classNames.contains (rest.takeWhile (· != ':')) then
        some (.named negated 4, cursor.goTo after)
      else none
    | _ => none
  | _ => none

/-- The union of the parts since the last operator, combined with what stood before it. -/
def closeSet (pending : Option (SetOperator × CharSet)) (parts : List CharSet) : CharSet :=
  match pending with
  | none => CharSet.ofParts parts.reverse
  | some (op, left) => .combined op left (CharSet.ofParts parts.reverse)

/-- Hyphens that open a set stand for themselves. -/
def readLeadingHyphens : Nat → List CharSet → Cursor → List CharSet × Cursor
  | 0, parts, cursor => (parts, cursor)
  | fuel + 1, parts, cursor =>
    match cursor.rest with
    | '-' :: rest => readLeadingHyphens fuel (.char '-' :: parts) (cursor.past rest)
    | _ => (parts, cursor)

/-- The start of a bracketed set after its bracket: its negation, and characters that are plain only
here. -/
def openSet? (cursor : Cursor) : Option (Bool × List CharSet × Cursor) := do
  let (negated, cursor) := match cursor.rest with
    | '^' :: rest => (true, cursor.past rest)
    | _ => (false, cursor)
  let (parts, cursor) := readLeadingHyphens cursor.rest.length [] cursor
  match parts, cursor.rest with
  | _, [] => none
  | [], ']' :: rest =>
    let cursor := cursor.past rest
    if cursor.rest.isEmpty then none else return (negated, [.char ']'], cursor)
  | parts, _ => return (negated, parts, cursor)

/-- A set without the flag `u` may not hold bytes that are no text. -/
def boundSet? (cursor : Cursor) (negated : Bool) (inner : CharSet) : Option CharSet :=
  let found := CharSet.bracketed negated inner
  if cursor.isUnicode || !found.hasHighBytes then some found else none

mutual

def readSet? : Nat → Cursor → Option (CharSet × Cursor)
  | 0, _ => none
  | fuel + 1, cursor => do
    let (negated, parts, cursor) ← openSet? cursor.skip
    let (inner, cursor) ← readSetParts? fuel none parts cursor
    return (← boundSet? cursor negated inner, cursor)

/-- The parts of a bracketed set up to its closing bracket. Those since the last operator are held
in reverse. -/
def readSetParts? : Nat → Option (SetOperator × CharSet) → List CharSet → Cursor →
    Option (CharSet × Cursor)
  | 0, _, _, _ => none
  | fuel + 1, pending, parts, cursor =>
    let cursor := cursor.skip
    let operate (op : SetOperator) (rest : List Char) : Option (CharSet × Cursor) :=
      readSetParts? fuel (some (op, closeSet pending parts)) [] (cursor.goTo rest)
    match cursor.rest with
    | [] => none
    | ']' :: rest => some (closeSet pending parts, cursor.goTo rest)
    | '&' :: '&' :: rest => operate .intersection rest
    | '-' :: '-' :: rest => operate .difference rest
    | '~' :: '~' :: rest => operate .symmetricDifference rest
    | '[' :: rest =>
      match readNamedClass? cursor rest with
      | some (named, cursor) => readSetParts? fuel pending (named :: parts) cursor
      | none =>
        match readSet? fuel (cursor.goTo rest) with
        | some (inner, cursor) => readSetParts? fuel pending (inner :: parts) cursor
        | none => none
    | _ =>
      match readSetMember? cursor with
      | some (member, cursor) => readSetParts? fuel pending (member :: parts) cursor
      | none => none

end

def readDigits : Nat → List Nat → Cursor → List Nat × Cursor
  | 0, read, cursor => (read.reverse, cursor)
  | fuel + 1, read, cursor =>
    match cursor.rest with
    | c :: rest =>
      match Text.digit? c with
      | some d => readDigits fuel (d :: read) (cursor.past rest)
      | none => (read.reverse, cursor)
    | [] => (read.reverse, cursor)

def readCount? (cursor : Cursor) : Option (Nat × Cursor) :=
  let cursor := cursor.goTo (cursor.rest.dropWhile isBlank)
  let (digits, cursor) := readDigits cursor.rest.length [] cursor
  let cursor := cursor.goTo (cursor.spaceless (cursor.rest.dropWhile isBlank))
  let n := Text.natOfDigits digits
  if digits.isEmpty || 0x100000000 ≤ n then none else some (n, cursor)

/-- The counts of a repetition, after its opening brace and up to its closing one. -/
def readCounts? (cursor : Cursor) : Option ((Nat × Option Nat) × Cursor) := do
  let (least, cursor) ← readCount? cursor.skip
  match cursor.rest with
  | '\x7d' :: rest => return ((least, some least), cursor.past rest)
  | ',' :: rest =>
    let cursor := cursor.past rest
    match cursor.rest with
    | '\x7d' :: rest => return ((least, none), cursor.past rest)
    | _ =>
      let (most, cursor) ← readCount? cursor
      match cursor.rest with
      | '\x7d' :: rest => if least ≤ most then some ((least, some most), cursor.past rest) else none
      | _ => none
  | _ => none

/-- A question mark after a repetition makes it take as little as it can. -/
def skipLazyMark (cursor : Cursor) : Cursor :=
  match cursor.rest with
  | '?' :: rest => cursor.goTo rest
  | _ => cursor

/-- Repeats the last part, if there is one that can be repeated. -/
def repeatLast? (least : Nat) (most : Option Nat) : List Expression → Option (List Expression)
  | [] => none
  | .empty :: _ => none
  | .flags :: _ => none
  | part :: before => some (.repeated least most part :: before)

/-- The flags in front of a colon or a closing parenthesis. -/
structure Flags where
  /-- The letters, each with whether it is switched on. -/
  letters : List (Char × Bool) := []
  isNegating : Bool := false
  endsInHyphen : Bool := false

def flagLetters : List Char := ['i', 'm', 's', 'U', 'u', 'R', 'x']

/-- Flags, and the character that ends them. -/
def readFlags? (flags : Flags) : List Char → Option (Flags × Char × List Char)
  | [] => none
  | c :: rest =>
    if c = ':' || c = ')' then if flags.endsInHyphen then none else some (flags, c, rest)
    else if c = '-' then
      if flags.isNegating then none
      else readFlags? { flags with isNegating := true, endsInHyphen := true } rest
    else if flagLetters.contains c && (flags.letters.lookup c).isNone then
      readFlags? { flags with
        letters := (c, !flags.isNegating) :: flags.letters, endsInHyphen := false } rest
    else none

def Flags.isEmpty (flags : Flags) : Bool := flags.letters.isEmpty && !flags.isNegating

def Flags.apply (flags : Flags) (cursor : Cursor) : Cursor :=
  { cursor with
    isSpaced := (flags.letters.lookup 'x').getD cursor.isSpaced
    isUnicode := (flags.letters.lookup 'u').getD cursor.isUnicode }

def isNameChar (isFirst : Bool) (c : Char) : Bool :=
  if isFirst then c = '_' || Text.isAlphabetic c
  else c = '_' || c = '.' || c = '[' || c = ']' || Text.isAlphanumeric c

def isGroupName : List Char → Bool
  | [] => false
  | c :: cs => isNameChar true c && cs.all (isNameChar false)

def readGroupName? (cursor : Cursor) (rest : List Char) : Option Cursor :=
  let name := rest.takeWhile (· != '>')
  match rest.dropWhile (· != '>') with
  | _ :: after =>
    if isGroupName name && !cursor.names.contains name then
      some { cursor with rest := after, names := name :: cursor.names }
    else none
  | [] => none

inductive Opening where
  /-- A group; the cursor stands at its start. -/
  | group (cursor : Cursor)
  /-- Flags for the rest of the group around them. -/
  | flags (cursor : Cursor)

def readOpening? (cursor : Cursor) : Option Opening :=
  let cursor := cursor.skip
  match cursor.rest with
  | '?' :: '=' :: _ => none
  | '?' :: '!' :: _ => none
  | '?' :: '<' :: '=' :: _ => none
  | '?' :: '<' :: '!' :: _ => none
  | '?' :: 'P' :: '<' :: rest => (readGroupName? cursor rest).map .group
  | '?' :: '<' :: rest => (readGroupName? cursor rest).map .group
  | '?' :: rest =>
    match readFlags? {} rest with
    | some (flags, ')', rest) =>
      if flags.isEmpty then none else some (.flags (flags.apply (cursor.goTo rest)))
    | some (flags, _, rest) => some (.group (flags.apply (cursor.goTo rest)))
    | none => none
  | _ => some (.group cursor)

/-- An atom outside of brackets. Without the flag `u` it may not be a byte that is no text. -/
def Atom.expression? (isUnicode : Bool) : Atom → Option Expression
  | .char c => some (.char c)
  | .byte c => if isUnicode || c.toNat < 128 then some (.char c) else none
  | .set chars => some (.set chars)
  | .place => some .place

mutual

def readAlternatives? : Nat → List Expression → Cursor → Option (Expression × Cursor)
  | 0, _, _ => none
  | fuel + 1, before, cursor => do
    let (part, cursor) ← readSequence? fuel [] cursor
    match cursor.rest with
    | '|' :: rest => readAlternatives? fuel (part :: before) (cursor.goTo rest)
    | _ => return (Expression.ofAlternatives (part :: before).reverse, cursor)

/-- A sequence up to a bar or the end of its group; the parts read are held in reverse. -/
def readSequence? : Nat → List Expression → Cursor → Option (Expression × Cursor)
  | 0, _, _ => none
  | fuel + 1, parts, cursor =>
    let cursor := cursor.skip
    match cursor.rest with
    | [] => some (Expression.ofParts parts.reverse, cursor)
    | '|' :: _ => some (Expression.ofParts parts.reverse, cursor)
    | ')' :: _ => some (Expression.ofParts parts.reverse, cursor)
    | '(' :: rest =>
      match readOpening? (cursor.goTo rest) with
      | none => none
      | some (.flags cursor) => readSequence? fuel (.flags :: parts) cursor
      | some (.group inside) =>
        match readAlternatives? fuel [] inside with
        | some (part, after) =>
          match after.rest with
          | ')' :: rest =>
            readSequence? fuel (.group part :: parts)
              { cursor with rest, names := after.names }
          | _ => none
        | none => none
    | '[' :: rest =>
      match readSet? fuel (cursor.goTo rest) with
      | some (chars, cursor) => readSequence? fuel (.set chars :: parts) cursor
      | none => none
    | '?' :: rest =>
      match repeatLast? 0 (some 1) parts with
      | some parts => readSequence? fuel parts (skipLazyMark (cursor.goTo rest))
      | none => none
    | '*' :: rest =>
      match repeatLast? 0 none parts with
      | some parts => readSequence? fuel parts (skipLazyMark (cursor.goTo rest))
      | none => none
    | '+' :: rest =>
      match repeatLast? 1 none parts with
      | some parts => readSequence? fuel parts (skipLazyMark (cursor.goTo rest))
      | none => none
    | '\x7b' :: rest =>
      match readCounts? (cursor.goTo rest) with
      | some ((least, most), cursor) =>
        match repeatLast? least most parts with
        | some parts => readSequence? fuel parts (skipLazyMark cursor)
        | none => none
      | none => none
    | '\\' :: rest =>
      match readEscape? (cursor.goTo rest) with
      | some (atom, cursor) =>
        match atom.expression? cursor.isUnicode with
        | some part => readSequence? fuel (part :: parts) cursor
        | none => none
      | none => none
    | '.' :: rest =>
      if cursor.isUnicode then readSequence? fuel (.any :: parts) (cursor.goTo rest) else none
    | '^' :: rest => readSequence? fuel (.place :: parts) (cursor.goTo rest)
    | '$' :: rest => readSequence? fuel (.place :: parts) (cursor.goTo rest)
    | c :: rest => readSequence? fuel (.char c :: parts) (cursor.goTo rest)

end

/-- The expression that a whole pattern denotes. -/
def read? (pattern : List Char) : Option Expression :=
  match readAlternatives? (4 * pattern.length + 4) [] { rest := pattern } with
  | some (found, cursor) => if cursor.rest.isEmpty then some found else none
  | none => none

/-- Whether a pattern is a regular expression within the limits. -/
def isExpression (pattern : List Char) : Bool :=
  match read? pattern with
  | some found => found.depth ≤ Expression.deepest && found.size ≤ Expression.greatestSize
  | none => false

end ReportSearch.Pattern
