import Mathlib.Algebra.Group.Nat.Defs
import ReportSearch.Time.Reading

/-!
# Parts that a text gives

The parts of a time of day are within their bounds, and an offset is a number of whole minutes,
whatever the layout is: each reader of a part hands on a number that fits the place it is put into.
-/

set_option autoImplicit false

namespace ReportSearch

namespace Text

theorem digit?_lt {c : Char} {d : Nat} (h : digit? c = some d) : d < 10 := by
  unfold digit? at h
  split at h
  · rename_i hc
    have hle : c.toNat ≤ 57 := hc.2
    cases h
    omega
  · cases h

theorem foldl_digits_lt {digits : List Nat} (hdigits : ∀ d ∈ digits, d < 10) (n : Nat) :
    digits.foldl (fun n d => 10 * n + d) n < (n + 1) * 10 ^ digits.length := by
  induction digits generalizing n with
  | nil => simp
  | cons d digits ih =>
    have hd : d < 10 := hdigits d List.mem_cons_self
    have hrest := ih (fun e he => hdigits e (List.mem_cons_of_mem d he)) (10 * n + d)
    calc (d :: digits).foldl (fun n d => 10 * n + d) n
        < (10 * n + d + 1) * 10 ^ digits.length := hrest
      _ ≤ ((n + 1) * 10) * 10 ^ digits.length := Nat.mul_le_mul_right _ (by omega)
      _ = (n + 1) * 10 ^ (d :: digits).length := by
        rw [List.length_cons, Nat.pow_succ, Nat.mul_assoc, Nat.mul_comm 10]

theorem natOfDigits_lt {digits : List Nat} (hdigits : ∀ d ∈ digits, d < 10) :
    natOfDigits digits < 10 ^ digits.length := by
  have h := foldl_digits_lt hdigits 0
  rwa [Nat.zero_add, Nat.one_mul] at h

theorem spanDigits_lt (cs : List Char) : ∀ d ∈ (spanDigits cs).1, d < 10 := by
  intro d hd
  obtain ⟨c, -, hc⟩ := List.mem_filterMap.mp hd
  exact digit?_lt hc

theorem length_spanDigits_le (cs : List Char) : (spanDigits cs).1.length ≤ cs.length := by
  calc (spanDigits cs).1.length
      ≤ (cs.takeWhile (digit? · |>.isSome)).length := List.length_filterMap_le _ _
    _ ≤ cs.length := (List.takeWhile_sublist _).length_le

end Text

namespace Layout

open Text

/-- A number that is read is bounded by its digits, which are what is read. -/
theorem readNumber?_eq_some {least most n : Nat} {cs rest : List Char}
    (h : readNumber? least most cs = some (n, rest)) :
    ∃ count ≤ most, count ≤ cs.length ∧ n < 10 ^ count ∧ rest = cs.drop count := by
  unfold readNumber? at h
  dsimp only at h
  split at h
  · cases h
  · cases h
    have hlength := length_spanDigits_le (cs.take most)
    rw [List.length_take] at hlength
    exact ⟨_, by omega, by omega, natOfDigits_lt (spanDigits_lt _), rfl⟩

theorem readFraction?_lt {n : Nat} {cs rest : List Char}
    (h : readFraction? cs = some (n, rest)) : n < 10 ^ 9 := by
  unfold readFraction? at h
  obtain ⟨⟨digits, after⟩, hnumber, h⟩ := Option.bind_eq_some_iff.mp h
  cases h
  obtain ⟨count, hmost, hlength, hlt, rfl⟩ := readNumber?_eq_some hnumber
  have hcount : cs.length - (cs.drop count).length = count := by
    rw [List.length_drop]
    omega
  rw [hcount]
  calc digits * 10 ^ (9 - count)
      < 10 ^ count * 10 ^ (9 - count) := Nat.mul_lt_mul_of_pos_right hlt (Nat.pow_pos (by decide))
    _ = 10 ^ 9 := by rw [← Nat.pow_add, Nat.add_sub_cancel' hmost]

end Layout

namespace DateParts

/-- The parts of a time of day that are there are within their bounds, and so is an offset. -/
structure IsBounded (p : DateParts) : Prop where
  half : ∀ n, p.half = some n → n < 2
  hourOfHalf : ∀ n, p.hourOfHalf = some n → n < 12
  minute : ∀ n, p.minute = some n → n < 60
  second : ∀ n, p.second = some n → n ≤ 60
  nanos : ∀ n, p.nanos = some n → n < 10 ^ 9
  offset : ∀ n, p.offset = some n → n % 60 = 0

theorem isBounded_empty : IsBounded {} := by
  constructor <;> intro n h <;> cases h

theorem agree_eq_some {α : Type} [DecidableEq α] {held x : Option α} {value : α}
    (h : agree held value = some x) : x = some value := by
  unfold agree at h
  split at h
  · cases h
    rfl
  · split at h
    · rename_i hknown
      cases h
      rw [hknown]
    · cases h

theorem agreeWithin_eq_some {held x : Option Nat} {least greatest value : Nat}
    (h : agreeWithin least greatest held value = some x) : x = some value ∧ value ≤ greatest := by
  unfold agreeWithin at h
  split at h
  · rename_i hvalue
    exact ⟨agree_eq_some h, hvalue.2⟩
  · cases h

variable {p q : DateParts} {n : Nat}

/-- A part that is no part of the time of day leaves the bounds alone. -/
theorem IsBounded.of_eq (hp : p.IsBounded) (hhalf : q.half = p.half)
    (hhour : q.hourOfHalf = p.hourOfHalf) (hminute : q.minute = p.minute)
    (hsecond : q.second = p.second) (hnanos : q.nanos = p.nanos) (hoffset : q.offset = p.offset) :
    q.IsBounded where
  half := hhalf ▸ hp.half
  hourOfHalf := hhour ▸ hp.hourOfHalf
  minute := hminute ▸ hp.minute
  second := hsecond ▸ hp.second
  nanos := hnanos ▸ hp.nanos
  offset := hoffset ▸ hp.offset

theorem setYear_isBounded {year : Int} (hp : p.IsBounded) (h : p.setYear year = some q) :
    q.IsBounded := by
  unfold setYear at h
  split at h
  · obtain ⟨x, -, rfl⟩ := Option.map_eq_some_iff.mp h
    exact hp.of_eq rfl rfl rfl rfl rfl rfl
  · cases h

theorem setMonth_isBounded (hp : p.IsBounded) (h : p.setMonth n = some q) : q.IsBounded := by
  obtain ⟨x, -, rfl⟩ := Option.map_eq_some_iff.mp h
  exact hp.of_eq rfl rfl rfl rfl rfl rfl

theorem setWeekday_isBounded (hp : p.IsBounded) (h : p.setWeekday n = some q) : q.IsBounded := by
  obtain ⟨x, -, rfl⟩ := Option.map_eq_some_iff.mp h
  exact hp.of_eq rfl rfl rfl rfl rfl rfl

theorem setOffset_isBounded {offset : Int} (hp : p.IsBounded) (hoffset : offset % 60 = 0)
    (h : p.setOffset offset = some q) : q.IsBounded := by
  obtain ⟨x, hx, rfl⟩ := Option.map_eq_some_iff.mp h
  refine { hp with offset := ?_ }
  rintro m hm
  cases agree_eq_some hx
  cases hm
  exact hoffset

theorem setHalf_isBounded (hp : p.IsBounded) (hn : n < 2) (h : p.setHalf n = some q) :
    q.IsBounded := by
  obtain ⟨x, hx, rfl⟩ := Option.map_eq_some_iff.mp h
  refine { hp with half := ?_ }
  rintro m hm
  cases agree_eq_some hx
  cases hm
  exact hn

theorem setHourOfHalf_isBounded (hp : p.IsBounded) (hn : n < 12)
    (h : p.setHourOfHalf n = some q) : q.IsBounded := by
  obtain ⟨x, hx, rfl⟩ := Option.map_eq_some_iff.mp h
  refine { hp with hourOfHalf := ?_ }
  rintro m hm
  cases agree_eq_some hx
  cases hm
  exact hn

theorem setNanos_isBounded (hp : p.IsBounded) (hn : n < 10 ^ 9) (h : p.setNanos n = some q) :
    q.IsBounded := by
  obtain ⟨x, hx, rfl⟩ := Option.map_eq_some_iff.mp h
  refine { hp with nanos := ?_ }
  rintro m hm
  cases agree_eq_some hx
  cases hm
  exact hn

theorem setHour_isBounded (hp : p.IsBounded) (h : p.setHour n = some q) : q.IsBounded := by
  unfold setHour at h
  split at h
  · obtain ⟨r, hr, h⟩ := Option.bind_eq_some_iff.mp h
    exact setHourOfHalf_isBounded (setHalf_isBounded hp (by omega) hr) (by omega) h
  · cases h

theorem setDialHour_isBounded (hp : p.IsBounded) (h : p.setDialHour n = some q) :
    q.IsBounded := by
  unfold setDialHour at h
  split at h
  · exact setHourOfHalf_isBounded hp (by omega) h
  · cases h

/-- A number is checked against the bounds of its part, but for the digits of a fraction. -/
theorem setNumber_isBounded {part : Layout.Part} (hp : p.IsBounded)
    (hn : part = .nanos → n < 10 ^ 9) (h : p.setNumber part n = some q) : q.IsBounded := by
  unfold setNumber at h
  split at h
  · obtain ⟨x, -, rfl⟩ := Option.map_eq_some_iff.mp h
    exact hp.of_eq rfl rfl rfl rfl rfl rfl
  · exact setMonth_isBounded hp h
  · obtain ⟨x, -, rfl⟩ := Option.map_eq_some_iff.mp h
    exact hp.of_eq rfl rfl rfl rfl rfl rfl
  · obtain ⟨x, -, rfl⟩ := Option.map_eq_some_iff.mp h
    exact hp.of_eq rfl rfl rfl rfl rfl rfl
  · exact setHour_isBounded hp h
  · exact setDialHour_isBounded hp h
  · obtain ⟨x, hx, rfl⟩ := Option.map_eq_some_iff.mp h
    refine { hp with minute := ?_ }
    rintro m hm
    obtain ⟨rfl, hle⟩ := agreeWithin_eq_some hx
    cases hm
    omega
  · obtain ⟨x, hx, rfl⟩ := Option.map_eq_some_iff.mp h
    refine { hp with second := ?_ }
    rintro m hm
    obtain ⟨rfl, hle⟩ := agreeWithin_eq_some hx
    cases hm
    exact hle
  · exact setNanos_isBounded hp (hn rfl) h
  · cases h

end DateParts

namespace Layout

open DateParts

variable {p q : DateParts} {cs rest : List Char}

theorem readHalfOfDay?_lt {n : Nat} (h : readHalfOfDay? cs = some (n, rest)) : n < 2 := by
  unfold readHalfOfDay? at h
  split at h
  · split at h
    · split at h
      · cases h
        decide
      · split at h
        · cases h
          decide
        · cases h
    · cases h
  · cases h

theorem bind_set_eq_some {α : Type} {found : Option (α × List Char)} (set : α → Option DateParts)
    (h : (do let (n, after) ← found; return (← set n, after)) = some (q, rest)) :
    ∃ n, found = some (n, rest) ∧ set n = some q := by
  obtain ⟨⟨n, after⟩, hfound, h⟩ := Option.bind_eq_some_iff.mp h
  obtain ⟨r, hr, h⟩ := Option.bind_eq_some_iff.mp h
  cases h
  exact ⟨n, hfound, hr⟩

/-- An offset is read in hours and minutes. -/
theorem readOffset?_mod {separator : List Char → Option (List Char)} {n : Int}
    (h : readOffset? separator cs = some (n, rest)) : n % 60 = 0 := by
  unfold readOffset? at h
  obtain ⟨⟨west, cs⟩, -, h⟩ := Option.bind_eq_some_iff.mp h
  obtain ⟨⟨hours, cs⟩, -, h⟩ := Option.bind_eq_some_iff.mp h
  obtain ⟨cs, -, h⟩ := Option.bind_eq_some_iff.mp h
  obtain ⟨⟨minutes, cs⟩, -, h⟩ := Option.bind_eq_some_iff.mp h
  dsimp only at h
  split at h
  · cases h
    split <;> omega
  · cases h

theorem readField?_isBounded {part : Part} (hp : p.IsBounded)
    (h : readField? part p cs = some (q, rest)) : q.IsBounded := by
  unfold readField? at h
  split at h
  · obtain ⟨n, -, hr⟩ := bind_set_eq_some _ h
    exact setYear_isBounded hp hr
  · obtain ⟨n, -, hr⟩ := bind_set_eq_some (fun n => p.setMonth (n + 1)) h
    exact setMonth_isBounded hp hr
  · obtain ⟨n, -, hr⟩ := bind_set_eq_some (fun n => p.setMonth (n + 1)) h
    exact setMonth_isBounded hp hr
  · obtain ⟨n, -, hr⟩ := bind_set_eq_some _ h
    exact setWeekday_isBounded hp hr
  · obtain ⟨n, -, hr⟩ := bind_set_eq_some _ h
    exact setWeekday_isBounded hp hr
  · obtain ⟨n, hn, hr⟩ := bind_set_eq_some _ h
    exact setHalf_isBounded hp (readHalfOfDay?_lt hn) hr
  · split at h
    · obtain ⟨n, hn, hr⟩ := bind_set_eq_some _ h
      exact setNanos_isBounded hp (readFraction?_lt hn) hr
    · cases h
      exact hp
  · obtain ⟨n, hn, hr⟩ := bind_set_eq_some _ h
    exact setOffset_isBounded hp (readOffset?_mod hn) hr
  · obtain ⟨n, hn, hr⟩ := bind_set_eq_some _ h
    exact setOffset_isBounded hp (readOffset?_mod hn) hr
  · obtain ⟨n, hn, hr⟩ := bind_set_eq_some _ h
    refine setNumber_isBounded hp ?_ hr
    rintro rfl
    obtain ⟨count, hmost, -, hlt, -⟩ := readNumber?_eq_some hn
    exact Nat.lt_of_lt_of_le hlt (Nat.pow_le_pow_right (by decide) hmost)

theorem readItem?_isBounded {item : Item} (hp : p.IsBounded)
    (h : readItem? item p cs = some (q, rest)) : q.IsBounded := by
  unfold readItem? at h
  split at h
  · obtain ⟨after, -, h⟩ := Option.map_eq_some_iff.mp h
    cases h
    exact hp
  · cases h
    exact hp
  · exact readField?_isBounded hp h
  · cases h

theorem readItems?_isBounded {items : List Item} (hp : p.IsBounded)
    (h : readItems? items p cs = some (q, rest)) : q.IsBounded := by
  induction items generalizing p cs with
  | nil =>
    cases h
    exact hp
  | cons item items ih =>
    obtain ⟨⟨r, after⟩, hitem, h⟩ := Option.bind_eq_some_iff.mp h
    exact ih (readItem?_isBounded hp hitem) h

theorem read?_isBounded {items : List Item} (h : read? items cs = some p) : p.IsBounded := by
  unfold read? at h
  split at h
  · rename_i hitems
    cases h
    exact readItems?_isBounded isBounded_empty hitems
  · cases h

end Layout

end ReportSearch
