import ReportSearch.Catalog.Field

/-!
# Instants and their numbers

The order of instants, the instants that are represented, and the instants that a number of seconds
or milliseconds stands for: these are whole, and their number is exact.
-/

set_option autoImplicit false

namespace ReportSearch

namespace Instant

theorem lt_iff {a b : Instant} :
    a.lt b = true ↔ a.seconds < b.seconds ∨ a.seconds = b.seconds ∧ a.nanos < b.nanos := by
  simp [lt]

theorem not_lt_iff {a b : Instant} : ¬a.lt b = true ↔ b.le a = true := by simp [le]

theorem not_le_iff {a b : Instant} : ¬a.le b = true ↔ b.lt a = true := by simp [le]

theorem le_iff {a b : Instant} :
    a.le b = true ↔ a.seconds < b.seconds ∨ a.seconds = b.seconds ∧ a.nanos ≤ b.nanos := by
  rw [← not_lt_iff, lt_iff]
  omega

structure IsRepresented (t : Instant) : Prop where
  least_le : leastSeconds ≤ t.seconds
  le_greatest : t.seconds ≤ greatestSeconds
  nanos_lt : t.nanos < 2 * nanosPerSecond
  leap : t.nanos < nanosPerSecond ∨ t.seconds % 60 = 59

theorem ofStamp?_eq_some_iff {seconds : Int} {nanos : Nat} {t : Instant} :
    ofStamp? seconds nanos = some t ↔ t = ⟨seconds, nanos⟩ ∧ t.IsRepresented := by
  unfold ofStamp?
  split
  · rename_i h
    obtain ⟨hleast, hgreatest, hnanos, hleap⟩ := h
    rw [Option.some.injEq]
    constructor
    · rintro rfl
      exact ⟨rfl, hleast, hgreatest, hnanos, hleap⟩
    · rintro ⟨rfl, -⟩
      rfl
  · rename_i h
    constructor
    · intro hnone
      cases hnone
    · rintro ⟨rfl, ht⟩
      exact absurd ⟨ht.least_le, ht.le_greatest, ht.nanos_lt, ht.leap⟩ h

end Instant

namespace EpochUnit

def perSecond : EpochUnit → Int
  | seconds => 1
  | millis => 1000

/-- Nanoseconds of one unit. -/
def nanos : EpochUnit → Nat
  | seconds => 1000000000
  | millis => 1000000

/-- A whole number of units, so that this number stands for the instant and for no other. -/
def IsWhole (unit : EpochUnit) (t : Instant) : Prop :=
  t.nanos < Instant.nanosPerSecond ∧ t.nanos % unit.nanos = 0

instance (unit : EpochUnit) (t : Instant) : Decidable (unit.IsWhole t) :=
  inferInstanceAs (Decidable (_ ∧ _))

def instant? : EpochUnit → Int → Option Instant
  | seconds, n => Instant.ofStamp? n 0
  | millis, n => Instant.ofMillis? n

theorem isWhole_of_instant? {unit : EpochUnit} {n : Int} {t : Instant}
    (h : unit.instant? n = some t) : unit.IsWhole t := by
  cases unit with
  | seconds =>
    obtain ⟨rfl, -⟩ := Instant.ofStamp?_eq_some_iff.mp h
    exact ⟨(by decide : 0 < Instant.nanosPerSecond), rfl⟩
  | millis =>
    obtain ⟨rfl, -⟩ := Instant.ofStamp?_eq_some_iff.mp h
    simp only [IsWhole, Instant.nanosPerSecond, nanos]
    omega

/-- The whole instants are those that their own numbers stand for. -/
theorem instant?_number_iff {unit : EpochUnit} {t : Instant} (ht : t.IsRepresented) :
    unit.instant? (unit.number t) = some t ↔ unit.IsWhole t := by
  obtain ⟨s, n⟩ := t
  have hrange : n < 2 * 1000000000 := ht.nanos_lt
  cases unit with
  | seconds =>
    simp only [instant?, number, Instant.ofStamp?_eq_some_iff, IsWhole, nanos,
      Instant.nanosPerSecond, Instant.mk.injEq, true_and, ht, and_true]
    omega
  | millis =>
    simp only [instant?, number, Instant.ofMillis?, Instant.millis, Instant.ofStamp?_eq_some_iff,
      IsWhole, nanos, Instant.nanosPerSecond, Instant.mk.injEq, ht, and_true]
    omega

end EpochUnit

end ReportSearch
