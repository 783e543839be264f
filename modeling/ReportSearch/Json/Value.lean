import ReportSearch.Number.Double

/-!
# JSON values

Objects keep the order of their keys. An object that was read has no key twice: a repeated key keeps
its first place and takes its last value (`insertMember`).
-/

set_option autoImplicit false

namespace ReportSearch

/-- Numbers keep their kind: integers of 64 bits, signed or unsigned, or doubles. -/
inductive Number where
  | int (value : Int)
  | double (value : Double)
  deriving DecidableEq, Repr, Inhabited

namespace Number

def leastInt64 : Int := -0x8000000000000000
def greatestInt64 : Int := 0x7fffffffffffffff
def greatestNat64 : Nat := 0xffffffffffffffff

def isInt64 (i : Int) : Bool := leastInt64 ≤ i && i ≤ greatestInt64

def int64? : Number → Option Int
  | int i => if isInt64 i then some i else none
  | double _ => none

def nat64? : Number → Option Nat
  | int i => if 0 ≤ i ∧ i ≤ greatestNat64 then some i.toNat else none
  | double _ => none

def toDouble : Number → Double
  | int i => Double.ofInt i
  | double x => x

end Number

inductive Json where
  | null
  | bool (value : Bool)
  | num (value : Number)
  | str (value : String)
  | arr (items : List Json)
  | obj (members : List (String × Json))
  deriving Repr, Inhabited

namespace Json

/-- Puts a member into an object: a known key keeps its place. -/
def insertMember {α : Type} (key : String) (value : α) :
    List (String × α) → List (String × α)
  | [] => [(key, value)]
  | (k, v) :: rest =>
    if k = key then (k, value) :: rest else (k, v) :: insertMember key value rest

theorem keys_insertMember {α : Type} (key : String) (value : α) (members : List (String × α)) :
    (insertMember key value members).map Prod.fst =
      if key ∈ members.map Prod.fst then members.map Prod.fst
      else members.map Prod.fst ++ [key] := by
  induction members with
  | nil => simp [insertMember]
  | cons member rest ih =>
    obtain ⟨k, v⟩ := member
    by_cases hk : k = key
    · simp [insertMember, hk]
    · have hk' : key ≠ k := Ne.symm hk
      simp only [insertMember, if_neg hk, List.map_cons, ih, List.mem_cons, hk', false_or]
      split <;> simp

theorem nodup_keys_insertMember {α : Type} {members : List (String × α)} (key : String) (value : α)
    (h : (members.map Prod.fst).Nodup) : ((insertMember key value members).map Prod.fst).Nodup := by
  rw [keys_insertMember]
  split
  · exact h
  · rename_i hk
    refine List.nodup_append.mpr ⟨h, by simp, ?_⟩
    intro a ha b hb heq
    obtain rfl := List.mem_singleton.mp hb
    exact hk (heq ▸ ha)

def ofInt (i : Int) : Json := num (.int i)

def ofNat (n : Nat) : Json := num (.int n)

def ofDouble (x : Double) : Json := num (.double x)

def ofStrings (texts : List String) : Json := arr (texts.map str)

def ofText? : Option String → Json
  | some s => str s
  | none => null

def members? : Json → Option (List (String × Json))
  | obj members => some members
  | _ => none

def items? : Json → Option (List Json)
  | arr items => some items
  | _ => none

def text? : Json → Option String
  | str s => some s
  | _ => none

def bool? : Json → Option Bool
  | bool b => some b
  | _ => none

def number? : Json → Option Number
  | num n => some n
  | _ => none

def get? (value : Json) (key : String) : Option Json :=
  value.members?.bind (·.lookup key)

def int64? (value : Json) : Option Int := value.number?.bind Number.int64?

def nat64? (value : Json) : Option Nat := value.number?.bind Number.nat64?

end Json

end ReportSearch
