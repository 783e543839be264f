import ReportSearch.Proofs.Json.Keys
import ReportSearch.Proofs.Number.Double

/-!
# Numbers of JSON values

A number is represented if it is an integer of 64 bits, signed or unsigned, or a finite double. A
value whose numbers are all represented has only such values inside.
-/

set_option autoImplicit false

namespace ReportSearch

namespace Number

def IsRepresented : Number → Prop
  | int i => leastInt64 ≤ i ∧ i ≤ greatestNat64
  | double x => x.isFinite = true

instance : DecidablePred IsRepresented
  | int _ => inferInstanceAs (Decidable (_ ∧ _))
  | double _ => inferInstanceAs (Decidable (_ = _))

theorem isFinite_toDouble {n : Number} (h : n.IsRepresented) : n.toDouble.isFinite = true := by
  cases n with
  | double x => exact h
  | int i =>
    obtain ⟨hleast, hgreatest⟩ := h
    refine Double.isFinite_ofInt ?_
    by_cases hzero : i.natAbs = 0
    · rw [hzero]
      decide
    · have hlog : i.natAbs.log2 < 64 := by
        rw [Nat.log2_lt hzero]
        simp only [leastInt64, greatestNat64] at hleast hgreatest
        omega
      omega

end Number

namespace Json

mutual

def numbers : Json → List Number
  | .num n => [n]
  | .arr items => numbersOfItems items
  | .obj members => numbersOfMembers members
  | _ => []

def numbersOfItems : List Json → List Number
  | [] => []
  | item :: rest => numbers item ++ numbersOfItems rest

def numbersOfMembers : List (String × Json) → List Number
  | [] => []
  | (_, value) :: rest => numbers value ++ numbersOfMembers rest

end

theorem forall_numbersOfItems {P : Number → Prop} {items : List Json} :
    (∀ n ∈ numbersOfItems items, P n) ↔ ∀ item ∈ items, ∀ n ∈ item.numbers, P n := by
  induction items with
  | nil => simp [numbersOfItems]
  | cons item rest ih => rw [numbersOfItems, List.forall_mem_append, ih, List.forall_mem_cons]

theorem forall_numbersOfMembers {P : Number → Prop} {members : List (String × Json)} :
    (∀ n ∈ numbersOfMembers members, P n) ↔ ∀ member ∈ members, ∀ n ∈ member.2.numbers, P n := by
  induction members with
  | nil => simp [numbersOfMembers]
  | cons member rest ih =>
    obtain ⟨key, value⟩ := member
    rw [numbersOfMembers, List.forall_mem_append, ih, List.forall_mem_cons]

def NumbersRepresented (value : Json) : Prop := ∀ n ∈ value.numbers, n.IsRepresented

instance (value : Json) : Decidable value.NumbersRepresented :=
  inferInstanceAs (Decidable (∀ n ∈ value.numbers, n.IsRepresented))

theorem numbersRepresented_passesDown : PassesDown NumbersRepresented := by
  intro key value rest h
  unfold NumbersRepresented at h ⊢
  rw [numbers, numbersOfMembers, List.forall_mem_append] at h
  exact h

end Json

end ReportSearch
