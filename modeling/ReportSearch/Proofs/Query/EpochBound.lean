import ReportSearch.Proofs.Catalog.Lookup
import ReportSearch.Proofs.Query.Binding
import ReportSearch.Proofs.Time.Instant

/-!
# Bounds of dates as numbers

A date range on a field that counts its dates in seconds or milliseconds compares numbers. The bound
is the number of an instant with a part of the unit dropped, and the operator stays as it is, so the
numbers are ordered like the instants except next to the bound: where a part was dropped, an instant
that has the number of the bound is taken for the bound itself; and where the bound lies within a
leap second, the first numbers of the second after it are taken to come before the bound.
-/

set_option autoImplicit false

namespace ReportSearch

namespace Scalar

def integer? : Scalar → Option Int
  | integer i => some i
  | _ => none

end Scalar

namespace Bounds

/-- Whether a number is within bounds; a bound that is no integer admits none. -/
def admits (bounds : Bounds) (n : Int) : Bool :=
  bounds.gt.all (fun bound => bound.integer?.any (· < n)) &&
    bounds.gte.all (fun bound => bound.integer?.any (· ≤ n)) &&
    bounds.lt.all (fun bound => bound.integer?.any (n < ·)) &&
    bounds.lte.all (fun bound => bound.integer?.any (n ≤ ·))

theorem admits_gt (bound n : Int) :
    admits { gt := some (.integer bound) } n = decide (bound < n) := by
  simp [admits, Scalar.integer?]

theorem admits_gte (bound n : Int) :
    admits { gte := some (.integer bound) } n = decide (bound ≤ n) := by
  simp [admits, Scalar.integer?]

theorem admits_lt (bound n : Int) :
    admits { lt := some (.integer bound) } n = decide (n < bound) := by
  simp [admits, Scalar.integer?]

theorem admits_lte (bound n : Int) :
    admits { lte := some (.integer bound) } n = decide (n ≤ bound) := by
  simp [admits, Scalar.integer?]

end Bounds

namespace EpochUnit

/-- The first number that stands for an instant after the second of a bound, leap or not. -/
def turn (unit : EpochUnit) (bound : Instant) : Int := (bound.seconds + 1) * unit.perSecond

variable {unit : EpochUnit} {t : Instant}

/-- A whole instant passes the bound when its number does, but for those of a leap second. -/
theorem number_lt_iff_lt (ht : unit.IsWhole t) (bound : Instant) :
    (unit.number bound < unit.number t ↔ bound.lt t = true) ↔
      ¬(unit.turn bound ≤ unit.number t ∧ unit.number t ≤ unit.number bound) := by
  obtain ⟨hlt, hmod⟩ := ht
  simp only [Instant.nanosPerSecond] at hlt
  rw [Instant.lt_iff]
  cases unit with
  | seconds =>
    simp only [number, turn, perSecond, nanos] at hmod ⊢
    omega
  | millis =>
    simp only [number, turn, perSecond, nanos, Instant.millis] at hmod ⊢
    omega

/-- A whole instant reaches the bound when its number does, but for the one whose number lost a part
of the bound, and for those of a leap second. -/
theorem number_le_iff_le (ht : unit.IsWhole t) (bound : Instant) :
    (unit.number bound ≤ unit.number t ↔ bound.le t = true) ↔
      ¬(unit.number t = unit.number bound ∧ unit.number t < unit.turn bound ∧
          ¬unit.IsWhole bound ∨
        unit.turn bound ≤ unit.number t ∧ unit.number t < unit.number bound) := by
  obtain ⟨hlt, hmod⟩ := ht
  simp only [Instant.nanosPerSecond] at hlt
  rw [Instant.le_iff]
  cases unit with
  | seconds =>
    simp only [IsWhole, Instant.nanosPerSecond, number, turn, perSecond, nanos] at hmod ⊢
    omega
  | millis =>
    simp only [IsWhole, Instant.nanosPerSecond, number, turn, perSecond, nanos,
      Instant.millis] at hmod ⊢
    omega

end EpochUnit

namespace Operator

/-- Whether an instant stands in the relation of a range operator to another. -/
def relates : Operator → Instant → Instant → Bool
  | greaterThan, t, bound => bound.lt t
  | greaterThanOrEqual, t, bound => bound.le t
  | lessThan, t, bound => t.lt bound
  | lessThanOrEqual, t, bound => t.le bound
  | _, _, _ => false

/-- The numbers on the wrong side of a bound: all that a leap second comes between, and where the
bound has to be reached and not passed, its own number if a part was dropped. -/
def Misplaces (op : Operator) (unit : EpochUnit) (bound : Instant) (n : Int) : Prop :=
  match op with
  | greaterThan | lessThanOrEqual => unit.turn bound ≤ n ∧ n ≤ unit.number bound
  | _ => n = unit.number bound ∧ n < unit.turn bound ∧ ¬unit.IsWhole bound ∨
      unit.turn bound ≤ n ∧ n < unit.number bound

variable {op : Operator} {unit : EpochUnit} {t bound : Instant} {n : Int}

/-- The two operators that bound from above are the opposites of two that bound from below. -/
theorem admits_eq_relates_iff (hop : op.isRange = true) (ht : unit.IsWhole t) :
    ((QueryTree.boundsFor op (.integer (unit.number bound))).admits (unit.number t) =
      op.relates t bound) ↔ ¬op.Misplaces unit bound (unit.number t) := by
  have hlt := EpochUnit.number_lt_iff_lt ht bound
  have hle := EpochUnit.number_le_iff_le ht bound
  rw [Bool.eq_iff_iff]
  cases op with
  | greaterThan =>
    rw [QueryTree.boundsFor, Bounds.admits_gt, decide_eq_true_iff]
    exact hlt
  | greaterThanOrEqual =>
    rw [QueryTree.boundsFor, Bounds.admits_gte, decide_eq_true_iff]
    exact hle
  | lessThan =>
    rw [QueryTree.boundsFor, Bounds.admits_lt, decide_eq_true_iff, relates, ← Int.not_le,
      ← Instant.not_le_iff, not_iff_not]
    exact hle
  | lessThanOrEqual =>
    simp only [QueryTree.boundsFor]
    rw [Bounds.admits_lte, decide_eq_true_iff, relates, ← Int.not_lt, ← Instant.not_lt_iff,
      not_iff_not]
    exact hlt
  | _ => cases hop

end Operator

namespace Field

theorem storedDate_epoch {field : Field} {variant : Variant} {unit : EpochUnit}
    (h : variant.kind = .epoch unit) (t : Instant) :
    field.storedDate variant t = .integer (unit.number t) := by
  simp [storedDate, h]

theorem rangeOperand?_date {field : Field} {variant : Variant} {unit : EpochUnit}
    (hepoch : field.epochVariant? = some variant) (hkind : variant.kind = .epoch unit)
    (t : Instant) :
    field.rangeOperand? (.date t) = some (variant, .integer (unit.number t)) := by
  simp [rangeOperand?, hepoch, storedDate_epoch hkind]

end Field

namespace Rule

/-- The bound of a date range agrees with the order of instants on every whole instant whose number
it does not misplace, and on no other. -/
theorem epoch_bound_iff {source : Json} {mapping : Mapping} {version : Nat} {rule : Rule}
    {checked : CheckedRule} {variant : Variant} (hkeys : source.KeysDistinct)
    (hread : Mapping.ofJson source = .ok mapping)
    (hchecked : check (Catalog.ofMapping mapping version) rule = .ok checked)
    (hop : checked.operator.isRange = true)
    (hepoch : checked.field.epochVariant? = some variant) (hnegated : rule.isNegated = false) :
    ∃ unit bound bounds, variant.kind = .epoch unit ∧ checked.operand = .single (.date bound) ∧
      QueryTree.ofRule checked = .ok (QueryTree.leafOn checked.field variant (.range bounds)) ∧
      ∀ t, unit.IsWhole t →
        (bounds.admits (unit.number t) = checked.operator.relates t bound ↔
          ¬checked.operator.Misplaces unit bound (unit.number t)) := by
  obtain ⟨hfield, -, -, hoperand, hsame⟩ := check_eq_ok hchecked
  have hwell := Catalog.lookup?_wellFormed hkeys hread hfield
  obtain ⟨hdate, unit, hkind⟩ := hwell.epochVariant?_eq_some hepoch
  obtain ⟨value, hvalue, hsuits⟩ := (Operand.ofValue_suits hwell hoperand).of_isRange hop
  obtain ⟨bound, rfl⟩ := hsuits.eq_date hdate
  refine ⟨unit, bound, QueryTree.boundsFor checked.operator (.integer (unit.number bound)), hkind,
    hvalue, ?_, fun t ht => Operator.admits_eq_relates_iff hop ht⟩
  unfold QueryTree.ofRule
  rw [QueryTree.positive?_of_isRange hop hvalue, Field.rangeOperand?_date hepoch hkind, hsame,
    hnegated]
  rfl

/-- A bound half a millisecond after a whole instant. -/
def partRule : Rule where
  field := "seen"
  operator := ">="
  value := .str "2024-03-01T00:00:00.0005Z"

def partBound : Instant := ⟨1709251200, 500000⟩

def checkedPartRule : CheckedRule where
  field := Mapping.sampleDate
  operator := .greaterThanOrEqual
  operand := .single (.date partBound)
  isNegated := false

theorem check_partRule :
    check (Catalog.ofMapping Mapping.sample 1) partRule = .ok checkedPartRule := by
  decide +kernel

/-- The whole instant before the bound is let in, though it is earlier. -/
theorem partRule_admits_earlier :
    ∃ variant bounds,
      QueryTree.ofRule checkedPartRule =
        .ok (QueryTree.leafOn Mapping.sampleDate variant (.range bounds)) ∧
      bounds.admits (EpochUnit.millis.number ⟨1709251200, 0⟩) = true ∧
      Operator.greaterThanOrEqual.relates ⟨1709251200, 0⟩ partBound = false := by
  obtain ⟨unit, bound, bounds, hkind, hoperand, htree, hbounds⟩ :=
    epoch_bound_iff Mapping.keysDistinct_sampleSource Mapping.ofJson_sampleSource check_partRule
      rfl rfl rfl
  cases hkind
  cases hoperand
  have hearlier : Operator.greaterThanOrEqual.relates ⟨1709251200, 0⟩ partBound = false := rfl
  refine ⟨_, bounds, htree, ?_, hearlier⟩
  have hdiffer := hbounds ⟨1709251200, 0⟩ (by decide)
  have hplaced : checkedPartRule.operator.Misplaces .millis partBound
      (EpochUnit.millis.number ⟨1709251200, 0⟩) := Or.inl ⟨rfl, by decide, by decide⟩
  by_contra hfalse
  exact hdiffer.mp ((eq_false_of_ne_true hfalse).trans hearlier.symm) hplaced

end Rule

end ReportSearch
