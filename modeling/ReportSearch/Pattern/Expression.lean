/-!
# Regular expressions

The tree of a regular expression, how deep it nests, and an estimate of the size of the automaton
that it becomes. A pattern that nests deeper than `Expression.deepest` or whose automaton is larger
than `Expression.greatestSize` is not accepted.

The limits are those of the engine that runs the patterns; the size is not. The engine builds the
automaton and counts its states. Here a character counts as its bytes, and a class with a name as a
fixed number whatever characters it holds (`propertySize`, `shorthandSize`). Of the patterns with a
size near the limit some are therefore accepted here and not there, or the other way around.
-/

set_option autoImplicit false

namespace ReportSearch.Pattern

inductive SetOperator where
  | intersection
  | difference
  | symmetricDifference
  deriving DecidableEq, Repr

inductive CharSet where
  | empty
  | char (c : Char)
  | range (first last : Char)
  /-- A class with a name of its own, and an estimate of the states that it takes. -/
  | named (negated : Bool) (size : Nat)
  | bracketed (negated : Bool) (inner : CharSet)
  | union (parts : List CharSet)
  | combined (op : SetOperator) (left right : CharSet)
  deriving Repr, Inhabited

inductive Expression where
  | empty
  /-- Flags for what follows them. -/
  | flags
  | char (c : Char)
  | any
  /-- A place in the text, such as its start. -/
  | place
  | set (chars : CharSet)
  | repeated (least : Nat) (most : Option Nat) (part : Expression)
  | group (part : Expression)
  | alternatives (parts : List Expression)
  | sequence (parts : List Expression)
  deriving Repr, Inhabited

namespace CharSet

def ofParts : List CharSet → CharSet
  | [] => empty
  | [part] => part
  | parts => union parts

mutual

def depth : CharSet → Nat
  | bracketed _ inner => inner.depth + 1
  | union parts => depths parts + 1
  | combined _ left right => max left.depth right.depth + 1
  | _ => 0

def depths : List CharSet → Nat
  | [] => 0
  | part :: rest => max part.depth (depths rest)

end

mutual

/-- Whether a set of bytes holds one that is no ASCII character; either all of them or none are
in it. -/
def hasHighBytes : CharSet → Bool
  | named negated _ => negated
  | bracketed negated inner => negated != inner.hasHighBytes
  | union parts => anyHasHighBytes parts
  | combined .intersection left right => left.hasHighBytes && right.hasHighBytes
  | combined .difference left right => left.hasHighBytes && !right.hasHighBytes
  | combined .symmetricDifference left right => left.hasHighBytes != right.hasHighBytes
  | _ => false

def anyHasHighBytes : List CharSet → Bool
  | [] => false
  | part :: rest => part.hasHighBytes || anyHasHighBytes rest

end

mutual

/-- An estimate of the states that a set takes. -/
def size : CharSet → Nat
  | empty => 1
  | char c => c.utf8Size
  | range first last => first.utf8Size + last.utf8Size
  | named _ size => size
  | bracketed negated inner => inner.size + (if negated then 10 else 0)
  | union parts => sizes parts
  | combined _ left right => left.size + right.size

def sizes : List CharSet → Nat
  | [] => 0
  | part :: rest => part.size + sizes rest

end

end CharSet

namespace Expression

def ofParts : List Expression → Expression
  | [] => empty
  | [part] => part
  | parts => sequence parts

def ofAlternatives : List Expression → Expression
  | [part] => part
  | parts => alternatives parts

mutual

def depth : Expression → Nat
  | set chars => chars.depth
  | repeated _ _ part => part.depth + 1
  | group part => part.depth + 1
  | alternatives parts => depths parts + 1
  | sequence parts => depths parts + 1
  | _ => 0

def depths : List Expression → Nat
  | [] => 0
  | part :: rest => max part.depth (depths rest)

end

mutual

/-- An estimate of the states of the automaton. What the parts of a pattern share is counted for
each of them. -/
def size : Expression → Nat
  | char c => c.utf8Size
  | any => 12
  | set chars => chars.size
  | repeated least none part => max 1 least * part.size + 2
  | repeated least (some most) part => most * part.size + (most - least) + 1
  | group part => part.size + 2
  | alternatives parts => sizes parts + 2
  | sequence parts => sizes parts
  | _ => 1

def sizes : List Expression → Nat
  | [] => 0
  | part :: rest => part.size + sizes rest

end

def deepest : Nat := 250

/-- The states of 32 bytes, about the size of one, that ten mebibytes hold. -/
def greatestSize : Nat := 10 * 0x100000 / 32

end Expression

end ReportSearch.Pattern
