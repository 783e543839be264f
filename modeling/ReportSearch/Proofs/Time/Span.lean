import ReportSearch.Proofs.Time.Instant

/-!
# Spans of time

Instants are in linear order, so that a set of them has at most one earliest and one latest. A span
of days leads from an instant that is represented to another one, or out of the range.
-/

set_option autoImplicit false

namespace ReportSearch

namespace Instant

variable {a b c t u : Instant} {P : Instant → Prop}

theorem le_refl (t : Instant) : t.le t = true := by
  rw [le_iff]
  omega

theorem le_trans (hab : a.le b = true) (hbc : b.le c = true) : a.le c = true := by
  rw [le_iff] at *
  omega

theorem le_antisymm (hab : a.le b = true) (hba : b.le a = true) : a = b := by
  obtain ⟨s, n⟩ := a
  obtain ⟨s', n'⟩ := b
  rw [le_iff] at *
  simp only [Instant.mk.injEq] at *
  omega

theorem le_of_lt (h : a.lt b = true) : a.le b = true := by
  rw [lt_iff] at h
  rw [le_iff]
  omega

def IsEarliest (P : Instant → Prop) (t : Instant) : Prop := P t ∧ ∀ u, P u → t.le u = true

def IsLatest (P : Instant → Prop) (t : Instant) : Prop := P t ∧ ∀ u, P u → u.le t = true

theorem IsEarliest.unique (ht : IsEarliest P t) (hu : IsEarliest P u) : t = u :=
  le_antisymm (ht.2 u hu.1) (hu.2 t ht.1)

theorem IsLatest.unique (ht : IsLatest P t) (hu : IsLatest P u) : t = u :=
  le_antisymm (hu.2 t ht.1) (ht.2 u hu.1)

theorem min_cases (a b : Instant) :
    (min a b = a ∨ min a b = b) ∧ (min a b).le a = true ∧ (min a b).le b = true := by
  unfold min
  split
  · rename_i h
    exact ⟨Or.inr rfl, le_of_lt h, le_refl b⟩
  · rename_i h
    exact ⟨Or.inl rfl, le_refl a, not_lt_iff.mp h⟩

theorem max_cases (a b : Instant) :
    (max a b = a ∨ max a b = b) ∧ a.le (max a b) = true ∧ b.le (max a b) = true := by
  unfold max
  split
  · rename_i h
    exact ⟨Or.inl rfl, le_refl a, le_of_lt h⟩
  · rename_i h
    exact ⟨Or.inr rfl, not_lt_iff.mp h, le_refl b⟩

/-- Choosing one of two instants by an order, time after time, ends with the last in that order. -/
theorem foldl_choice {R : Instant → Instant → Prop} {choose : Instant → Instant → Instant}
    (hrefl : ∀ t, R t t) (htrans : ∀ {a b c}, R a b → R b c → R a c)
    (hchoose : ∀ a b, (choose a b = a ∨ choose a b = b) ∧ R a (choose a b) ∧ R b (choose a b))
    (t : Instant) (ts : List Instant) :
    ts.foldl choose t ∈ t :: ts ∧ ∀ u ∈ t :: ts, R u (ts.foldl choose t) := by
  induction ts generalizing t with
  | nil => simpa using hrefl t
  | cons first rest ih =>
    obtain ⟨hone, hleft, hright⟩ := hchoose t first
    obtain ⟨hmem, hlast⟩ := ih (choose t first)
    rw [List.foldl_cons]
    have hchosen := hlast (choose t first) List.mem_cons_self
    constructor
    · rcases List.mem_cons.mp hmem with h | h
      · rw [h]
        rcases hone with h | h <;> rw [h]
        · exact List.mem_cons_self
        · exact List.mem_cons_of_mem _ List.mem_cons_self
      · exact List.mem_cons_of_mem _ (List.mem_cons_of_mem _ h)
    · intro u hu
      rcases List.mem_cons.mp hu with rfl | hu
      · exact htrans hleft hchosen
      · rcases List.mem_cons.mp hu with rfl | hu
        · exact htrans hright hchosen
        · exact hlast u (List.mem_cons_of_mem _ hu)

theorem earliest_le (ht : t.IsRepresented) : earliest.le t = true := by
  have hleast := ht.least_le
  rw [le_iff]
  simp only [earliest]
  omega

/-- The instant so many days of equal length before, represented or not. A leap second is left for
the second after it when time runs back, and for the second that it prolongs when time runs on. -/
def minusDays (t : Instant) (days : Int) : Instant :=
  if t.nanos < nanosPerSecond ∨ days = 0 then ⟨t.seconds - days * secondsPerDay, t.nanos⟩
  else if 0 < days then ⟨t.seconds + 1 - days * secondsPerDay, t.nanos - nanosPerSecond⟩
  else ⟨t.seconds - days * secondsPerDay, t.nanos - nanosPerSecond⟩

theorem minusDays_seconds (t : Instant) (days : Int) :
    (t.minusDays days).seconds = t.seconds - days * secondsPerDay ∨
      0 < days ∧ (t.minusDays days).seconds = t.seconds + 1 - days * secondsPerDay := by
  unfold minusDays
  split
  · exact Or.inl rfl
  · split
    · rename_i hdays
      exact Or.inr ⟨hdays, rfl⟩
    · exact Or.inl rfl

theorem minusDays_zero (t : Instant) : t.minusDays 0 = t := by
  simp [minusDays]

theorem minusDays_le {days : Int} (hdays : 0 ≤ days) : (t.minusDays days).le t = true := by
  by_cases hzero : days = 0
  · rw [hzero, minusDays_zero]
    exact le_refl t
  · rw [le_iff]
    have hseconds := minusDays_seconds t days
    simp only [secondsPerDay] at hseconds
    omega

/-- The limit on the length of a span adds nothing: so long a span leads out of the range. -/
theorem daysBefore?_eq_some_iff {days : Int} (ht : t.IsRepresented) :
    t.daysBefore? days = some u ↔ u = t.minusDays days ∧ u.IsRepresented := by
  unfold daysBefore?
  dsimp only
  split
  · rename_i hlong
    constructor
    · intro h
      cases h
    · rintro ⟨rfl, hu⟩
      have hseconds := minusDays_seconds t days
      have := ht.least_le
      have := ht.le_greatest
      have := hu.least_le
      have := hu.le_greatest
      have hfirst : leastSeconds = -8334601228800 := by decide
      have hlast : greatestSeconds = 8210266876799 := by decide
      simp only [longestSpan] at hlong
      omega
  · split
    · rename_i hnanos
      rw [ofStamp?_eq_some_iff, minusDays, if_pos (Or.inl hnanos)]
    · rename_i hnanos
      split
      · rename_i hdays
        rw [hdays, minusDays_zero, Option.some.injEq, eq_comm]
        exact ⟨fun h => ⟨h, h ▸ ht⟩, fun h => h.1⟩
      · rename_i hdays
        rw [minusDays, if_neg (not_or.mpr ⟨hnanos, hdays⟩)]
        split
        · exact ofStamp?_eq_some_iff
        · exact ofStamp?_eq_some_iff

/-- Clamped to the earliest instant where the days lead out of the range. -/
def IsDaysBefore (t : Instant) (days : Int) (u : Instant) : Prop :=
  (t.minusDays days).IsRepresented ∧ u = t.minusDays days ∨
    ¬(t.minusDays days).IsRepresented ∧ u = earliest

theorem isDaysBefore_getD (ht : t.IsRepresented) (days : Int) :
    t.IsDaysBefore days ((t.daysBefore? days).getD earliest) := by
  cases h : t.daysBefore? days with
  | some u =>
    obtain ⟨rfl, hu⟩ := (daysBefore?_eq_some_iff ht).mp h
    exact Or.inl ⟨hu, rfl⟩
  | none =>
    refine Or.inr ⟨?_, rfl⟩
    intro hu
    rw [(daysBefore?_eq_some_iff ht).mpr ⟨rfl, hu⟩] at h
    cases h

theorem IsDaysBefore.le {days : Int} (h : t.IsDaysBefore days u) (ht : t.IsRepresented)
    (hdays : 0 ≤ days) : u.le t = true := by
  rcases h with ⟨-, rfl⟩ | ⟨-, rfl⟩
  · exact minusDays_le hdays
  · exact earliest_le ht

end Instant

end ReportSearch
