/-!
# Blank characters

The characters of the Unicode property `White_Space`, and trimming by it. Core's
`Char.isWhitespace` knows four of them.
-/

set_option autoImplicit false

namespace ReportSearch.Text

/-- The 25 characters with the property `White_Space`. -/
def isBlank (c : Char) : Bool :=
  let n := c.toNat
  (0x09 ≤ n && n ≤ 0x0D) || n = 0x20 || n = 0x85 || n = 0xA0 || n = 0x1680 ||
    (0x2000 ≤ n && n ≤ 0x200A) || n = 0x2028 || n = 0x2029 || n = 0x202F || n = 0x205F ||
    n = 0x3000

def trimStart (cs : List Char) : List Char := cs.dropWhile isBlank

def trimEnd (cs : List Char) : List Char := (cs.reverse.dropWhile isBlank).reverse

def trimChars (cs : List Char) : List Char := trimEnd (trimStart cs)

def trim (s : String) : String := String.ofList (trimChars s.toList)

def hasBlank (s : String) : Bool := s.toList.any isBlank

/-- What follows `start` in `cs`, if `cs` begins with it. -/
def afterStart? : (start cs : List Char) → Option (List Char)
  | [], cs => some cs
  | _ :: _, [] => none
  | a :: start, c :: cs => if a = c then afterStart? start cs else none

/-- What precedes `ending` in `cs`, if `cs` finishes with it. -/
def beforeEnd? (ending cs : List Char) : Option (List Char) :=
  (afterStart? ending.reverse cs.reverse).map List.reverse

/-- The parts before and after the first occurrence of a character. -/
def cutAt? (c : Char) (cs : List Char) : Option (List Char × List Char) :=
  match cs.dropWhile (· != c) with
  | [] => none
  | _ :: after => some (cs.takeWhile (· != c), after)

/-- The pieces between the occurrences of a character, one more than there are occurrences. -/
def splitOnChar (c : Char) : List Char → List (List Char)
  | [] => [[]]
  | d :: ds =>
    if d = c then [] :: splitOnChar c ds
    else match splitOnChar c ds with
      | [] => [[d]]
      | piece :: pieces => (d :: piece) :: pieces

def lowerAscii (cs : List Char) : List Char := cs.map Char.toLower

def digit? (c : Char) : Option Nat :=
  if '0' ≤ c ∧ c ≤ '9' then some (c.toNat - 48) else none

def hexDigit? (c : Char) : Option Nat :=
  if '0' ≤ c ∧ c ≤ '9' then some (c.toNat - 48)
  else if 'a' ≤ c ∧ c ≤ 'f' then some (c.toNat - 87)
  else if 'A' ≤ c ∧ c ≤ 'F' then some (c.toNat - 55)
  else none

def natOfDigits (digits : List Nat) : Nat := digits.foldl (fun n d => 10 * n + d) 0

/-- The leading decimal digits, and what follows them. -/
def spanDigits (cs : List Char) : List Nat × List Char :=
  (cs.takeWhile (digit? · |>.isSome) |>.filterMap digit?, cs.dropWhile (digit? · |>.isSome))

end ReportSearch.Text
