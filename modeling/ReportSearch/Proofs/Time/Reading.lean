import ReportSearch.Catalog.DateFormat
import ReportSearch.Proofs.Attempts
import ReportSearch.Proofs.Time.Calendar
import ReportSearch.Proofs.Time.Instant
import ReportSearch.Proofs.Time.Parts

/-!
# Instants that are read

The year of a date that is read is one that is represented, the time of day ends before the day
does, and only the last second of a minute is a leap one. So every format reads instants that are
represented, and their numbers of seconds and of milliseconds fit 64 bits.
-/

set_option autoImplicit false

namespace ReportSearch

namespace Date

/-- The day of a date is one of those that are represented. -/
def IsRepresented (date : Date) : Prop :=
  leastDayNumber ≤ date.dayNumber ∧ date.dayNumber ≤ greatestDayNumber

theorem ofYearMonthDay?_isRepresented {year : Int} {month day : Nat} {date : Date}
    (h : ofYearMonthDay? year month day = some date) : date.IsRepresented := by
  unfold ofYearMonthDay? at h
  split at h
  · rename_i hdate
    obtain ⟨hyear, hone, hmonth, hday, hlength⟩ := hdate
    cases h
    have hvalid : IsValid ⟨year, month, day⟩ := ⟨hone, hmonth, hday, hlength⟩
    exact hvalid.isYear_iff.mp hyear
  · cases h

/-- A day of a year that is represented comes before the first day of the year after it. -/
theorem ofYearDay?_isRepresented {year : Int} {dayOfYear : Nat} {date : Date}
    (h : ofYearDay? year dayOfYear = some date) : date.IsRepresented := by
  unfold ofYearDay? at h
  split at h
  · rename_i hdate
    obtain ⟨hyear, hone, hlength⟩ := hdate
    obtain ⟨hfrom, hto⟩ := isYear_iff.mp hyear
    have hnext := firstDay_succ year
    cases h
    rw [IsRepresented, dayNumber_ofDayNumber]
    change leastDayNumber ≤ firstDay year + _ ∧ firstDay year + _ ≤ greatestDayNumber
    omega
  · cases h

end Date

theorem EpochUnit.isInt64_number {t : Instant} (ht : t.IsRepresented) (unit : EpochUnit) :
    Number.isInt64 (unit.number t) = true := by
  obtain ⟨hleast, hgreatest, hnanos, -⟩ := ht
  have hfirst : Instant.leastSeconds = -8334601228800 := by decide
  have hlast : Instant.greatestSeconds = 8210266876799 := by decide
  simp only [Instant.nanosPerSecond] at hnanos
  rw [Number.isInt64, Bool.and_eq_true, decide_eq_true_iff, decide_eq_true_iff]
  simp only [Number.leastInt64, Number.greatestInt64]
  cases unit with
  | seconds =>
    simp only [number]
    omega
  | millis =>
    simp only [number, Instant.millis]
    omega

/-- A time of a day that is represented: it ends before the day does, and a leap second ends a
minute. -/
theorem Instant.ofDateTime_isRepresented {date : Date} {second nanos : Nat}
    (hdate : date.IsRepresented) (hsecond : second < 86400) (hnanos : nanos < 2 * nanosPerSecond)
    (hleap : nanos < nanosPerSecond ∨ second % 60 = 59) :
    (ofDateTime date second nanos).IsRepresented := by
  obtain ⟨hleast, hgreatest⟩ := hdate
  refine ⟨?_, ?_, hnanos, ?_⟩
  · simp only [leastSeconds, ofDateTime, secondsPerDay]
    omega
  · simp only [greatestSeconds, ofDateTime, secondsPerDay]
    omega
  · simp only [ofDateTime, secondsPerDay]
    omega

namespace DateParts

variable {p : DateParts}

theorem resolveTime?_bounds {second nanos : Nat} (hp : p.IsBounded)
    (h : p.resolveTime? = some (second, nanos)) :
    second < 86400 ∧ nanos < 2 * Instant.nanosPerSecond ∧
      (nanos < Instant.nanosPerSecond ∨ second % 60 = 59) := by
  unfold resolveTime? at h
  obtain ⟨half, hhalf, h⟩ := Option.bind_eq_some_iff.mp h
  obtain ⟨hour, hhour, h⟩ := Option.bind_eq_some_iff.mp h
  obtain ⟨minute, hminute, h⟩ := Option.bind_eq_some_iff.mp h
  have := hp.half half hhalf
  have := hp.hourOfHalf hour hhour
  have := hp.minute minute hminute
  simp only [Instant.nanosPerSecond] at h ⊢
  split at h
  · cases h
    omega
  · cases h
  · rename_i s hs
    have := hp.second s hs
    have hn : p.nanos.getD 0 < 10 ^ 9 := by
      cases hpart : p.nanos with
      | none => decide
      | some n => exact hp.nanos n hpart
    split at h
    · cases h
      omega
    · cases h
      omega

theorem resolveDate?_isRepresented {date : Date} (h : p.resolveDate? = some date) :
    date.IsRepresented := by
  unfold resolveDate? at h
  obtain ⟨year, -, h⟩ := Option.bind_eq_some_iff.mp h
  split at h
  · obtain ⟨found, hfound, h⟩ := Option.bind_eq_some_iff.mp h
    split at h
    · cases h
      exact Date.ofYearMonthDay?_isRepresented hfound
    · cases h
  · obtain ⟨found, hfound, h⟩ := Option.bind_eq_some_iff.mp h
    split at h
    · cases h
      exact Date.ofYearDay?_isRepresented hfound
    · cases h
  · cases h

theorem resolveLocal?_isRepresented {t : Instant} (hp : p.IsBounded)
    (h : p.resolveLocal? = some t) : t.IsRepresented := by
  unfold resolveLocal? at h
  obtain ⟨date, hdate, h⟩ := Option.bind_eq_some_iff.mp h
  obtain ⟨⟨second, nanos⟩, htime, h⟩ := Option.bind_eq_some_iff.mp h
  obtain ⟨hsecond, hnanos, hleap⟩ := resolveTime?_bounds hp htime
  cases h
  exact Instant.ofDateTime_isRepresented (resolveDate?_isRepresented hdate) hsecond hnanos hleap

theorem resolveMidnight?_isRepresented {t : Instant} (h : p.resolveMidnight? = some t) :
    t.IsRepresented := by
  obtain ⟨date, hdate, rfl⟩ := Option.map_eq_some_iff.mp h
  exact Instant.ofDateTime_isRepresented (resolveDate?_isRepresented hdate) (by decide) (by decide)
    (Or.inl (by decide))

/-- An offset moves an instant by whole minutes, which leaves a leap second at the end of one. -/
theorem resolveInstant?_isRepresented {t : Instant} (hp : p.IsBounded)
    (h : p.resolveInstant? = some t) : t.IsRepresented := by
  unfold resolveInstant? at h
  obtain ⟨offset, hoffset, h⟩ := Option.bind_eq_some_iff.mp h
  obtain ⟨there, hthere, h⟩ := Option.bind_eq_some_iff.mp h
  have hminutes := hp.offset offset hoffset
  obtain ⟨-, -, hnanos, hleap⟩ := resolveLocal?_isRepresented hp hthere
  split at h
  · dsimp only at h
    split at h
    · rename_i hrange
      cases h
      refine ⟨hrange.1, hrange.2, hnanos, ?_⟩
      dsimp only
      omega
    · cases h
  · cases h

end DateParts

theorem Instant.readTwoDigits?_isBounded {part : Layout.Part} {p q : DateParts}
    {cs rest : List Char} (hp : p.IsBounded)
    (h : readTwoDigits? part p cs = some (q, rest)) : q.IsBounded := by
  obtain ⟨n, hn, hr⟩ := Layout.bind_set_eq_some _ h
  refine DateParts.setNumber_isBounded hp ?_ hr
  rintro rfl
  obtain ⟨count, hmost, -, hlt, -⟩ := Layout.readNumber?_eq_some hn
  exact Nat.lt_of_lt_of_le hlt (Nat.pow_le_pow_right (by decide) (by omega))

theorem Instant.readStrictOffset?_mod {n : Int} {cs rest : List Char}
    (h : readStrictOffset? cs = some (n, rest)) : n % 60 = 0 := by
  unfold readStrictOffset? at h
  split at h
  · cases h
    rfl
  · cases h
    rfl
  · obtain ⟨⟨offset, after⟩, hoffset, h⟩ := Option.bind_eq_some_iff.mp h
    dsimp only at h
    split at h
    · cases h
      exact Layout.readOffset?_mod hoffset
    · cases h

theorem Instant.ofTimestamp?_isRepresented {cs : List Char} {t : Instant}
    (h : ofTimestamp? cs = some t) : t.IsRepresented := by
  unfold ofTimestamp? at h
  obtain ⟨⟨year, cs⟩, -, h⟩ := Option.bind_eq_some_iff.mp h
  obtain ⟨p, hp, h⟩ := Option.bind_eq_some_iff.mp h
  replace hp := DateParts.setYear_isBounded DateParts.isBounded_empty hp
  obtain ⟨cs, -, h⟩ := Option.bind_eq_some_iff.mp h
  obtain ⟨⟨p, cs⟩, hmonth, h⟩ := Option.bind_eq_some_iff.mp h
  replace hp := readTwoDigits?_isBounded hp hmonth
  obtain ⟨cs, -, h⟩ := Option.bind_eq_some_iff.mp h
  obtain ⟨⟨p, cs⟩, hday, h⟩ := Option.bind_eq_some_iff.mp h
  replace hp := readTwoDigits?_isBounded hp hday
  dsimp -zeta only at h
  extract_lets rest at h
  obtain ⟨cs, h⟩ : ∃ cs, rest cs = some t := by
    split at h
    · exact ⟨_, h⟩
    · exact ⟨_, h⟩
    · exact ⟨_, h⟩
    · cases h
  obtain ⟨⟨p, cs⟩, hhour, h⟩ := Option.bind_eq_some_iff.mp h
  replace hp := readTwoDigits?_isBounded hp hhour
  obtain ⟨cs, -, h⟩ := Option.bind_eq_some_iff.mp h
  obtain ⟨⟨p, cs⟩, hminute, h⟩ := Option.bind_eq_some_iff.mp h
  replace hp := readTwoDigits?_isBounded hp hminute
  obtain ⟨cs, -, h⟩ := Option.bind_eq_some_iff.mp h
  obtain ⟨⟨p, cs⟩, hsecond, h⟩ := Option.bind_eq_some_iff.mp h
  replace hp := readTwoDigits?_isBounded hp hsecond
  obtain ⟨⟨p, cs⟩, hfraction, h⟩ := Option.bind_eq_some_iff.mp h
  replace hp := Layout.readField?_isBounded hp hfraction
  obtain ⟨⟨offset, cs⟩, hread, h⟩ := Option.bind_eq_some_iff.mp h
  obtain ⟨p, hoffset, h⟩ := Option.bind_eq_some_iff.mp h
  replace hp := DateParts.setOffset_isBounded hp (readStrictOffset?_mod hread) hoffset
  split at h
  · exact DateParts.resolveInstant?_isRepresented hp h
  · cases h

namespace DateFormat

open Attempts

theorem bind_resolveLocal?_isRepresented {items : List Layout.Item} {cs : List Char} {t : Instant}
    (h : (Layout.read? items cs).bind DateParts.resolveLocal? = some t) : t.IsRepresented := by
  obtain ⟨p, hp, h⟩ := Option.bind_eq_some_iff.mp h
  exact DateParts.resolveLocal?_isRepresented (Layout.read?_isBounded hp) h

theorem bind_resolveMidnight?_isRepresented {items : List Layout.Item} {cs : List Char} {t : Instant}
    (h : (Layout.read? items cs).bind DateParts.resolveMidnight? = some t) : t.IsRepresented := by
  obtain ⟨p, -, h⟩ := Option.bind_eq_some_iff.mp h
  exact DateParts.resolveMidnight?_isRepresented h

theorem readAtOffset?_isRepresented {items : List Layout.Item} {cs : List Char} {t : Instant}
    (h : readAtOffset? items cs = some t) : t.IsRepresented := by
  obtain ⟨p, hp, h⟩ := Option.bind_eq_some_iff.mp h
  exact DateParts.resolveInstant?_isRepresented (Layout.read?_isBounded hp) h

theorem readTimestamp?_isRepresented {cs : List Char} {t : Instant} (h : readTimestamp? cs = some t) :
    t.IsRepresented := by
  rcases orElse_eq_some h with h | h
  · exact Instant.ofTimestamp?_isRepresented h
  · rcases orElse_eq_some h with h | h
    · exact bind_resolveLocal?_isRepresented h
    · rcases orElse_eq_some h with h | h
      · exact bind_resolveLocal?_isRepresented h
      · exact bind_resolveMidnight?_isRepresented h

theorem readLayout?_isRepresented {template : List Char} {hasTime hasOffset : Bool} {cs : List Char}
    {t : Instant} (h : readLayout? template hasTime hasOffset cs = some t) : t.IsRepresented := by
  unfold readLayout? at h
  dsimp only at h
  split at h
  · rcases orElse_eq_some h with h | h
    · exact readAtOffset?_isRepresented h
    · obtain ⟨start, -, h⟩ := Option.bind_eq_some_iff.mp h
      rcases orElse_eq_some h with h | h
      · exact readAtOffset?_isRepresented h
      · exact readAtOffset?_isRepresented h
  · split at h
    · exact bind_resolveLocal?_isRepresented h
    · exact bind_resolveMidnight?_isRepresented h

theorem read?_isRepresented {format : DateFormat} {text : String} {t : Instant}
    (h : format.read? text = some t) : t.IsRepresented := by
  unfold read? at h
  dsimp only at h
  split at h
  · obtain ⟨n, -, h⟩ := Option.bind_eq_some_iff.mp h
    exact (Instant.ofStamp?_eq_some_iff.mp h).2
  · obtain ⟨n, -, h⟩ := Option.bind_eq_some_iff.mp h
    exact (Instant.ofStamp?_eq_some_iff.mp h).2
  · exact readTimestamp?_isRepresented h
  · exact readLayout?_isRepresented h

end DateFormat

end ReportSearch
