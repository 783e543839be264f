import ReportSearch.Proofs.Text.Digits
import ReportSearch.Proofs.Time.Calendar
import ReportSearch.Proofs.Time.Instant
import ReportSearch.Time.Reading

/-!
# Timestamps that are read back

A timestamp of a year of four digits is read as the instant that it was written for, with its leap
second and its fraction. Other years are written with a sign, which no timestamp begins with.
-/

set_option autoImplicit false

namespace ReportSearch

open Text

namespace Layout

variable {least most width n : Nat} {rest : List Char}

theorem isDigit_of_mem_padded {c : Char} (h : c ∈ padded width n) : c.isDigit = true := by
  rw [padded, Nat.toString_eq_ofList_toDigits, String.toList_ofList, List.mem_append] at h
  rcases h with h | h
  · rw [List.eq_of_mem_replicate h]
    rfl
  · exact isDigit_of_mem_toDigits h

theorem isBlank_of_mem_padded : ∀ c ∈ padded width n, isBlank c = false :=
  fun _ hc => isBlank_of_isDigit (isDigit_of_mem_padded hc)

theorem isBlank_of_mem_fractionText {nanos : Nat} : ∀ c ∈ fractionText nanos, isBlank c = false := by
  have hpoint : isBlank '.' = false := rfl
  unfold fractionText
  split
  · exact List.forall_mem_nil _
  · split
    · exact List.forall_mem_cons.mpr ⟨hpoint, isBlank_of_mem_padded⟩
    · split
      · exact List.forall_mem_cons.mpr ⟨hpoint, isBlank_of_mem_padded⟩
      · exact List.forall_mem_cons.mpr ⟨hpoint, isBlank_of_mem_padded⟩

theorem length_padded (hwidth : 0 < width) (hn : n < 10 ^ width) :
    (padded width n).length = width := by
  have hdigits := (Nat.length_toDigits_le_iff (by decide) hwidth).mpr hn
  rw [padded, Nat.toString_eq_ofList_toDigits, String.toList_ofList, List.length_append,
    List.length_replicate]
  omega

theorem ofDigitChars_padded (width n : Nat) : Nat.ofDigitChars 10 (padded width n) 0 = n := by
  rw [padded, Nat.toString_eq_ofList_toDigits, String.toList_ofList, Nat.ofDigitChars_append,
    Nat.ofDigitChars_replicate_zero, Nat.mul_zero, Nat.ofDigitChars_ten_toDigits]

/-- A padded number is read as a whole, where it is as wide as can be or no digit follows. -/
theorem readNumber?_padded (hwidth : 0 < width) (hn : n < 10 ^ width) (hleast : least ≤ width)
    (hmost : width ≤ most) (hrest : width < most → ∀ c ∈ rest.head?, c.isDigit = false) :
    readNumber? least most (padded width n ++ rest) = some (n, rest) := by
  have hlength := length_padded hwidth hn
  have hhead : ∀ c ∈ (rest.take (most - width)).head?, c.isDigit = false := by
    intro c hc
    cases hmore : most - width with
    | zero =>
      rw [hmore] at hc
      cases hc
    | succ more =>
      rw [hmore, List.head?_take] at hc
      exact hrest (by omega) c (by simpa using hc)
  have hspan : spanDigits ((padded width n ++ rest).take most) =
      ((padded width n).map fun c => c.toNat - 48, rest.take (most - width)) := by
    rw [List.take_append, hlength, List.take_of_length_le (by omega)]
    exact spanDigits_append (fun c hc => isDigit_of_mem_padded hc) hhead
  rw [readNumber?, hspan]
  simp only [List.length_map, hlength, natOfDigits_map, ofDigitChars_padded]
  rw [if_neg (by omega), List.drop_append_of_le_length (by omega), List.drop_of_length_le (by omega)]
  rfl

theorem readFraction?_padded (hwidth : 0 < width) (hmost : width ≤ 9) (hn : n < 10 ^ width)
    (hrest : ∀ c ∈ rest.head?, c.isDigit = false) :
    readFraction? (padded width n ++ rest) = some (n * 10 ^ (9 - width), rest) := by
  have hlength := length_padded hwidth hn
  have hspan : spanDigits ([] ++ rest) = ([], rest) :=
    spanDigits_append (List.forall_mem_nil _) hrest
  rw [readFraction?, readNumber?_padded hwidth hn hwidth hmost fun _ => hrest]
  simpa [hlength] using congrArg Prod.snd hspan

theorem readFraction?_fractionText {nanos : Nat} (hpos : 0 < nanos) (hlt : nanos < 10 ^ 9)
    (hrest : ∀ c ∈ rest.head?, c.isDigit = false) :
    ∃ digits, fractionText nanos = '.' :: digits ∧
      readFraction? (digits ++ rest) = some (nanos, rest) := by
  unfold fractionText
  rw [if_neg (by omega)]
  split
  · refine ⟨_, rfl, ?_⟩
    rw [readFraction?_padded (by decide) (by decide) (by omega) hrest]
    simp
    omega
  · split
    · refine ⟨_, rfl, ?_⟩
      rw [readFraction?_padded (by decide) (by decide) (by omega) hrest]
      simp
      omega
    · refine ⟨_, rfl, ?_⟩
      rw [readFraction?_padded (by decide) (by decide) hlt hrest]
      simp

end Layout

namespace DateParts

variable {p : DateParts} {n : Nat}

theorem setNumber_month (hp : p.month = none) (hone : 1 ≤ n) (hn : n ≤ 12) :
    p.setNumber .month n = some { p with month := some n } := by
  simp [setNumber, setMonth, agreeWithin, agree, hp, hone, hn]

theorem setNumber_day (hp : p.day = none) (hone : 1 ≤ n) (hn : n ≤ 31) :
    p.setNumber .day n = some { p with day := some n } := by
  simp [setNumber, agreeWithin, agree, hp, hone, hn]

theorem setNumber_hour (hhalf : p.half = none) (hhour : p.hourOfHalf = none) (hn : n < 24) :
    p.setNumber .hour n = some { p with half := some (n / 12), hourOfHalf := some (n % 12) } := by
  simp [setNumber, setHour, setHalf, setHourOfHalf, agree, hhalf, hhour, hn]

theorem setNumber_minute (hp : p.minute = none) (hn : n ≤ 59) :
    p.setNumber .minute n = some { p with minute := some n } := by
  simp [setNumber, agreeWithin, agree, hp, hn]

theorem setNumber_second (hp : p.second = none) (hn : n ≤ 60) :
    p.setNumber .second n = some { p with second := some n } := by
  simp [setNumber, agreeWithin, agree, hp, hn]

end DateParts

namespace Instant

theorem hour_lt (t : Instant) : t.hour < 24 := by
  simp only [hour, secondOfDay, secondsPerDay]
  omega

theorem minute_lt (t : Instant) : t.minute < 60 := by
  simp only [minute]
  omega

theorem second_le {t : Instant} (ht : t.IsRepresented) : t.second ≤ 60 := by
  obtain ⟨-, -, hnanos, hleap⟩ := ht
  simp only [second, secondOfDay, secondsPerDay, nanosPerSecond] at *
  omega

theorem fraction_lt (t : Instant) : t.fraction < 10 ^ 9 := Nat.mod_lt _ (by decide)

/-- What a timestamp of the instant gives; a whole second has no fraction. -/
def parts (t : Instant) : DateParts where
  year := some t.date.year
  month := some t.date.month
  day := some t.date.day
  half := some (t.hour / 12)
  hourOfHalf := some (t.hour % 12)
  minute := some t.minute
  second := some t.second
  nanos := if t.fraction = 0 then none else some t.fraction
  offset := some 0

theorem date_isValid (t : Instant) : t.date.IsValid := Date.ofDayNumber_isValid _

theorem isYear_date {t : Instant} (ht : t.IsRepresented) : Date.isYear t.date.year = true := by
  rw [t.date_isValid.isYear_iff, date, Date.dayNumber_ofDayNumber]
  have hleast := ht.least_le
  have hgreatest := ht.le_greatest
  simp only [leastSeconds, greatestSeconds, secondsPerDay] at *
  omega

theorem resolveDate?_parts {t : Instant} (ht : t.IsRepresented) :
    t.parts.resolveDate? = some t.date := by
  obtain ⟨hone, hmonth, hday, hlength⟩ := t.date_isValid
  have hfound : Date.ofYearMonthDay? t.date.year t.date.month t.date.day = some t.date := by
    rw [Date.ofYearMonthDay?, if_pos ⟨isYear_date ht, hone, hmonth, hday, hlength⟩]
  simp [DateParts.resolveDate?, DateParts.resolveYear?, parts, hfound, DateParts.matchesPart]

/-- A leap second is read as the sixtieth of its minute. -/
theorem resolveTime?_parts {t : Instant} (ht : t.IsRepresented) :
    t.parts.resolveTime? = some (t.secondOfDay, t.nanos) := by
  have hnanos : t.parts.nanos.getD 0 = t.fraction := by
    simp only [parts]
    split
    · rename_i h
      exact h.symm
    · rfl
  have hbase : (t.hour / 12 * 12 + t.hour % 12) * 3600 + t.minute * 60 + t.secondOfDay % 60 =
      t.secondOfDay := by
    simp only [hour, minute]
    omega
  obtain ⟨-, -, hlt, hminute⟩ := ht
  have hresolved : t.parts.resolveTime? = some
      (if t.second = 60 then
        ((t.hour / 12 * 12 + t.hour % 12) * 3600 + t.minute * 60 + 59, nanosPerSecond + t.fraction)
      else ((t.hour / 12 * 12 + t.hour % 12) * 3600 + t.minute * 60 + t.second, t.fraction)) := by
    rw [← hnanos]
    rfl
  rw [hresolved]
  have hinner : t.secondOfDay % 60 < 60 := Nat.mod_lt _ (by decide)
  by_cases hleap : t.nanos < nanosPerSecond
  · have hsame : t.second = t.secondOfDay % 60 := by
      rw [second, Nat.div_eq_of_lt hleap, Nat.add_zero]
    have hwhole : t.fraction = t.nanos := Nat.mod_eq_of_lt hleap
    rw [if_neg (by omega), hsame, hbase, hwhole]
  · have hend : t.secondOfDay % 60 = 59 := by
      have hlast := hminute.resolve_left hleap
      simp only [secondOfDay, secondsPerDay]
      omega
    simp only [nanosPerSecond] at hlt hleap ⊢
    have hsixty : t.second = 60 := by
      simp only [second, nanosPerSecond]
      omega
    have hrest : 1000000000 + t.fraction = t.nanos := by
      simp only [fraction, nanosPerSecond]
      omega
    rw [if_pos hsixty, hrest, ← hbase, hend]

theorem ofDateTime_date (t : Instant) : ofDateTime t.date t.secondOfDay t.nanos = t := by
  obtain ⟨seconds, nanos⟩ := t
  simp only [ofDateTime, date, Date.dayNumber_ofDayNumber, secondOfDay, secondsPerDay]
  congr
  omega

theorem resolveInstant?_of_resolveLocal? {p : DateParts} {t : Instant} (ht : t.IsRepresented)
    (hoffset : p.offset = some 0) (hthere : p.resolveLocal? = some t) :
    p.resolveInstant? = some t := by
  simp [DateParts.resolveInstant?, hoffset, hthere, ht.least_le, ht.le_greatest]

theorem resolveInstant?_parts {t : Instant} (ht : t.IsRepresented) :
    t.parts.resolveInstant? = some t := by
  refine resolveInstant?_of_resolveLocal? ht rfl ?_
  simp only [DateParts.resolveLocal?, resolveDate?_parts ht, resolveTime?_parts ht,
    Option.bind_eq_bind, Option.bind_some, Option.pure_def, ofDateTime_date]

theorem readTwoDigits?_padded {part : Layout.Part} {p q : DateParts} {n : Nat} (rest : List Char)
    (hn : n < 100) (hset : p.setNumber part n = some q) :
    readTwoDigits? part p (Layout.padded 2 n ++ rest) = some (q, rest) := by
  have hread : Layout.readNumber? 2 2 (Layout.padded 2 n ++ rest) = some (n, rest) :=
    Layout.readNumber?_padded (by decide) (by omega) (Nat.le_refl 2) (Nat.le_refl 2)
      (fun h => absurd h (Nat.lt_irrefl 2))
  simp [readTwoDigits?, hread, hset]

theorem readField?_fractionText {p : DateParts} {nanos : Nat} {rest : List Char}
    (hp : p.nanos = none) (hlt : nanos < 10 ^ 9)
    (hrest : ∀ c ∈ rest.head?, c.isDigit = false ∧ c ≠ '.') :
    Layout.readField? .fraction p (Layout.fractionText nanos ++ rest) =
      some ({ p with nanos := if nanos = 0 then none else some nanos }, rest) := by
  by_cases hzero : nanos = 0
  · have hsame : { p with nanos := none } = p := by rw [← hp]
    have hpoint : ∀ cs, rest ≠ '.' :: cs := by
      rintro cs rfl
      exact (hrest '.' rfl).2 rfl
    rw [hzero, if_pos rfl, hsame, Layout.fractionText, if_pos rfl, List.nil_append,
      Layout.readField?]
    exact hpoint
  · obtain ⟨digits, htext, hread⟩ :=
      Layout.readFraction?_fractionText (by omega) hlt fun c hc => (hrest c hc).1
    rw [htext]
    simp [Layout.readField?, hread, DateParts.setNanos, DateParts.agree, hp, hzero]

theorem toList_offsetText {t : Instant} (hyear : 0 ≤ t.date.year) (hlast : t.date.year ≤ 9999) :
    t.offsetText.toList =
      Layout.padded 4 t.date.year.toNat ++ ('-' :: (Layout.padded 2 t.date.month ++
        ('-' :: (Layout.padded 2 t.date.day ++ ('T' :: (Layout.padded 2 t.hour ++
        (':' :: (Layout.padded 2 t.minute ++ (':' :: (Layout.padded 2 t.second ++
        (Layout.fractionText t.fraction ++ ['+', '0', '0', ':', '0', '0']))))))))))) := by
  simp [offsetText, Layout.renderItems, stampLayout, Layout.renderItem, Layout.renderField,
    Layout.yearText, hyear, hlast]

theorem ofTimestamp?_offsetText {t : Instant} (ht : t.IsRepresented) (hyear : 0 ≤ t.date.year)
    (hlast : t.date.year ≤ 9999) : ofTimestamp? t.offsetText.toList = some t := by
  obtain ⟨hone, hmonth, hday, hlength⟩ := t.date_isValid
  have hhour := t.hour_lt
  have hminute := t.minute_lt
  have hsecond := second_le ht
  have hdays := Date.monthLength_le t.date.year t.date.month
  have hfour : ∀ rest, Layout.readNumber? 4 4 (Layout.padded 4 t.date.year.toNat ++ rest) =
      some (t.date.year.toNat, rest) := fun rest =>
    Layout.readNumber?_padded (by decide) (by omega) (Nat.le_refl 4) (Nat.le_refl 4)
      fun h => absurd h (Nat.lt_irrefl 4)
  have hyearPart : DateParts.setYear {} t.date.year.toNat =
      some { year := some t.date.year } := by
    simp only [DateParts.setYear, DateParts.agree, Int.toNat_of_nonneg hyear]
    rw [if_pos (by omega)]
    rfl
  have hoffset : readStrictOffset? ['+', '0', '0', ':', '0', '0'] = some (0, []) := by decide
  have hplus : ∀ c ∈ ['+', '0', '0', ':', '0', '0'].head?, c.isDigit = false ∧ c ≠ '.' := by
    intro c hc
    cases hc
    decide
  rw [toList_offsetText hyear hlast]
  unfold ofTimestamp?
  -- Each part is read where it was written, and put into a place that is still empty.
  refine Option.bind_eq_some_iff.mpr ⟨_, hfour _, ?_⟩
  refine Option.bind_eq_some_iff.mpr ⟨_, hyearPart, ?_⟩
  refine Option.bind_eq_some_iff.mpr ⟨_, rfl, ?_⟩
  refine Option.bind_eq_some_iff.mpr ⟨_, readTwoDigits?_padded _ (by omega)
    (DateParts.setNumber_month rfl hone hmonth), ?_⟩
  refine Option.bind_eq_some_iff.mpr ⟨_, rfl, ?_⟩
  refine Option.bind_eq_some_iff.mpr ⟨_, readTwoDigits?_padded _ (by omega)
    (DateParts.setNumber_day rfl hday (by omega)), ?_⟩
  refine Option.bind_eq_some_iff.mpr ⟨_, rfl, ?_⟩
  refine Option.bind_eq_some_iff.mpr ⟨_, readTwoDigits?_padded _ (by omega)
    (DateParts.setNumber_hour rfl rfl hhour), ?_⟩
  refine Option.bind_eq_some_iff.mpr ⟨_, rfl, ?_⟩
  refine Option.bind_eq_some_iff.mpr ⟨_, readTwoDigits?_padded _ (by omega)
    (DateParts.setNumber_minute rfl (by omega)), ?_⟩
  refine Option.bind_eq_some_iff.mpr ⟨_, rfl, ?_⟩
  refine Option.bind_eq_some_iff.mpr ⟨_, readTwoDigits?_padded _ (by omega)
    (DateParts.setNumber_second rfl hsecond), ?_⟩
  refine Option.bind_eq_some_iff.mpr ⟨_, readField?_fractionText rfl t.fraction_lt hplus, ?_⟩
  refine Option.bind_eq_some_iff.mpr ⟨_, hoffset, ?_⟩
  refine Option.bind_eq_some_iff.mpr ⟨t.parts, rfl, ?_⟩
  exact resolveInstant?_parts ht

theorem trim_offsetText {t : Instant} (hyear : 0 ≤ t.date.year) (hlast : t.date.year ≤ 9999) :
    trim t.offsetText = t.offsetText := by
  apply trim_of_not_blank
  rw [toList_offsetText hyear hlast]
  simp only [List.forall_mem_append, List.forall_mem_cons]
  exact ⟨Layout.isBlank_of_mem_padded, rfl, Layout.isBlank_of_mem_padded, rfl,
    Layout.isBlank_of_mem_padded, rfl, Layout.isBlank_of_mem_padded, rfl,
    Layout.isBlank_of_mem_padded, rfl, Layout.isBlank_of_mem_padded,
    Layout.isBlank_of_mem_fractionText, rfl, rfl, rfl, rfl, rfl, rfl, List.forall_mem_nil _⟩

/-- No timestamp is a number: its year ends with a hyphen. -/
theorem readInt64?_offsetText {t : Instant} (hyear : 0 ≤ t.date.year) (hlast : t.date.year ≤ 9999) :
    readInt64? t.offsetText = none := by
  obtain ⟨rest, htext⟩ : ∃ rest, t.offsetText.toList =
      Layout.padded 4 t.date.year.toNat ++ ('-' :: rest) := ⟨_, toList_offsetText hyear hlast⟩
  have hlength : (Layout.padded 4 t.date.year.toNat).length = 4 :=
    Layout.length_padded (by decide) (by omega)
  have hne : Layout.padded 4 t.date.year.toNat ≠ [] := by
    intro hnil
    rw [hnil] at hlength
    cases hlength
  rw [readInt64?, htext, readInt?_append (fun _ hc => Layout.isDigit_of_mem_padded hc) hne
    ⟨'-', rfl, rfl⟩]
  rfl

end Instant

end ReportSearch
