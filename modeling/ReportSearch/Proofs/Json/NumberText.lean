import ReportSearch.Json.Printer
import ReportSearch.Proofs.Json.Numbers
import ReportSearch.Proofs.Text.Digits

/-!
# Numbers in JSON text

The text of a number is one numeral of the grammar, whatever the number is and whatever follows the
text, unless a numeral could go on with it. An integer is read back from its text. A double need not
be: its digits are scaled by powers of ten that are rounded themselves.
-/

set_option autoImplicit false

namespace ReportSearch

namespace Numeral

open Text

/-- No numeral can go on with the text. -/
def CannotGoOn (rest : List Char) : Prop :=
  ∀ c ∈ rest.head?, c.isDigit = false ∧ c ≠ '.' ∧ c ≠ 'e' ∧ c ≠ 'E'

theorem cannotGoOn_nil : CannotGoOn [] := by
  intro c hc
  cases hc

theorem cannotGoOn_cons {c : Char} (hc : c.isDigit = false ∧ c ≠ '.' ∧ c ≠ 'e' ∧ c ≠ 'E')
    (rest : List Char) : CannotGoOn (c :: rest) := by
  intro d hd
  cases hd
  exact hc

def digitsOf (cs : List Char) : List Nat := cs.map fun c => c.toNat - 48

/-- Digits that may stand before the point: a zero in front of them stands alone. -/
structure IsWhole (cs : List Char) : Prop where
  digits : ∀ c ∈ cs, c.isDigit = true
  ne_nil : cs ≠ []
  eq_zero : cs.head? = some '0' → cs = ['0']

theorem IsWhole.take {cs : List Char} (h : IsWhole cs) (n : Nat) : IsWhole (cs.take (n + 1)) := by
  refine ⟨fun c hc => h.digits c (List.mem_of_mem_take hc), ?_, ?_⟩
  · intro hnil
    rcases List.take_eq_nil_iff.mp hnil with hn | hcs
    · omega
    · exact h.ne_nil hcs
  · intro hhead
    rw [List.head?_take, if_neg (Nat.succ_ne_zero n)] at hhead
    rw [h.eq_zero hhead, List.take_succ_cons, List.take_nil]

/-- A number other than zero has no zero in front. -/
theorem eq_zero_of_head?_toDigits {n : Nat} (h : (Nat.toDigits 10 n).head? = some '0') : n = 0 := by
  induction n using Nat.strongRecOn with
  | ind n ih =>
    rw [Nat.toDigits_eq_if (by decide)] at h
    split at h
    · exact Nat.digitChar_eq_zero.mp (Option.some.inj h)
    · rename_i hn
      have hhead : (Nat.toDigits 10 (n / 10)).head? = some '0' := by
        obtain ⟨c, tail, hcons⟩ := List.exists_cons_of_ne_nil (@Nat.toDigits_ne_nil (n / 10) 10)
        rw [hcons] at h ⊢
        exact h
      have hzero := ih (n / 10) (by omega) hhead
      omega

theorem isWhole_toDigits (n : Nat) : IsWhole (Nat.toDigits 10 n) := by
  refine ⟨fun c hc => isDigit_of_mem_toDigits hc, Nat.toDigits_ne_nil, ?_⟩
  intro hhead
  rw [eq_zero_of_head?_toDigits hhead]
  rfl

theorem readWhole?_append {cs rest : List Char} (hcs : IsWhole cs)
    (hrest : ∀ c ∈ rest.head?, c.isDigit = false) :
    readWhole? (cs ++ rest) = some (digitsOf cs, rest) := by
  unfold readWhole?
  rw [spanDigits_append hcs.digits hrest]
  obtain ⟨c, tail, rfl⟩ := List.exists_cons_of_ne_nil hcs.ne_nil
  split
  · rename_i heq
    cases (congrArg Prod.fst heq : digitsOf (c :: tail) = [])
  · rename_i heq
    -- Two digits with a zero in front are no whole part.
    obtain ⟨hzero, htail⟩ := List.cons.inj (congrArg Prod.fst heq : digitsOf (c :: tail) = _)
    obtain ⟨hfrom, hto⟩ := isDigit_iff.mp (hcs.digits c List.mem_cons_self)
    have hc : c = '0' := by
      apply Char.ext
      apply UInt32.toNat_inj.mp
      have hleast : 48 ≤ c.toNat := hfrom
      have hnat : c.toNat = 48 := by
        dsimp only at hzero
        omega
      exact hnat
    subst hc
    rw [(List.cons.inj (hcs.eq_zero rfl)).2] at htail
    cases htail
  · rename_i heq
    cases heq
    rfl

theorem readFraction?_append {cs rest : List Char} (hcs : ∀ c ∈ cs, c.isDigit = true)
    (hne : cs ≠ []) (hrest : ∀ c ∈ rest.head?, c.isDigit = false) :
    readFraction? ('.' :: (cs ++ rest)) = some (digitsOf cs, rest) := by
  rw [readFraction?, spanDigits_append hcs hrest]
  obtain ⟨c, tail, rfl⟩ := List.exists_cons_of_ne_nil hne
  rfl

theorem readFraction?_of_ne {rest : List Char} (hrest : '.' ∉ rest.head?) :
    readFraction? rest = some ([], rest) := by
  unfold readFraction?
  split
  · exact absurd rfl hrest
  · rfl

theorem readExponentDigits?_append (negative : Bool) {cs rest : List Char}
    (hcs : ∀ c ∈ cs, c.isDigit = true) (hne : cs ≠ [])
    (hrest : ∀ c ∈ rest.head?, c.isDigit = false) :
    readExponentDigits? negative (cs ++ rest) = some (some (negative, digitsOf cs), rest) := by
  unfold readExponentDigits?
  rw [spanDigits_append hcs hrest]
  obtain ⟨c, tail, rfl⟩ := List.exists_cons_of_ne_nil hne
  rfl

theorem readExponent?_of_ne {rest : List Char} (he : 'e' ∉ rest.head?) (hE : 'E' ∉ rest.head?) :
    readExponent? rest = some (none, rest) := by
  unfold readExponent?
  split
  · exact absurd rfl he
  · exact absurd rfl he
  · exact absurd rfl he
  · exact absurd rfl hE
  · exact absurd rfl hE
  · exact absurd rfl hE
  · rfl

/-- The characters of a numeral, part by part; an exponent always has a sign. -/
structure Spelling where
  negative : Bool := false
  whole : List Char
  fraction : List Char := []
  exponent : Option (Bool × List Char) := none

namespace Spelling

def signChars (negative : Bool) : List Char := if negative then ['-'] else []

def fractionChars (fraction : List Char) : List Char :=
  if fraction.isEmpty then [] else '.' :: fraction

def exponentChars : Option (Bool × List Char) → List Char
  | none => []
  | some (negative, digits) => 'e' :: (if negative then '-' else '+') :: digits

def chars (t : Spelling) : List Char :=
  signChars t.negative ++ (t.whole ++ (fractionChars t.fraction ++ exponentChars t.exponent))

def numeral (t : Spelling) : Numeral where
  negative := t.negative
  whole := digitsOf t.whole
  fraction := digitsOf t.fraction
  exponent := t.exponent.map fun (negative, digits) => (negative, digitsOf digits)

structure IsSound (t : Spelling) : Prop where
  whole : IsWhole t.whole
  fraction : ∀ c ∈ t.fraction, c.isDigit = true
  exponent : ∀ negative digits, t.exponent = some (negative, digits) →
    digits ≠ [] ∧ ∀ c ∈ digits, c.isDigit = true

def IsFloating (t : Spelling) : Prop := t.fraction ≠ [] ∨ t.exponent ≠ none

theorem isSound_of_none {negative : Bool} {whole fraction : List Char} (hwhole : IsWhole whole)
    (hfraction : ∀ c ∈ fraction, c.isDigit = true) :
    IsSound ⟨negative, whole, fraction, none⟩ := by
  refine ⟨hwhole, hfraction, ?_⟩
  intro _ _ h
  cases h

theorem readExponent?_chars {exponent : Option (Bool × List Char)} {rest : List Char}
    (h : ∀ negative digits, exponent = some (negative, digits) →
      digits ≠ [] ∧ ∀ c ∈ digits, c.isDigit = true) (hrest : CannotGoOn rest) :
    readExponent? (exponentChars exponent ++ rest) =
      some (exponent.map fun (negative, digits) => (negative, digitsOf digits), rest) := by
  cases exponent with
  | none =>
    have he : 'e' ∉ rest.head? := fun hmem => (hrest _ hmem).2.2.1 rfl
    have hE : 'E' ∉ rest.head? := fun hmem => (hrest _ hmem).2.2.2 rfl
    exact readExponent?_of_ne he hE
  | some found =>
    obtain ⟨negative, digits⟩ := found
    obtain ⟨hne, hdigits⟩ := h negative digits rfl
    have hread := readExponentDigits?_append negative hdigits hne fun c hc => (hrest c hc).1
    cases negative
    · exact hread
    · exact hread

theorem readFraction?_chars {fraction rest : List Char} (h : ∀ c ∈ fraction, c.isDigit = true)
    (hrest : ∀ c ∈ rest.head?, c.isDigit = false ∧ c ≠ '.') :
    readFraction? (fractionChars fraction ++ rest) = some (digitsOf fraction, rest) := by
  cases fraction with
  | nil => exact readFraction?_of_ne fun hpoint => (hrest _ hpoint).2 rfl
  | cons c tail => exact readFraction?_append h (List.cons_ne_nil c tail) fun d hd => (hrest d hd).1

theorem head?_fractionChars (fraction : List Char) {rest : List Char}
    (hrest : ∀ c ∈ rest.head?, c.isDigit = false) :
    ∀ c ∈ (fractionChars fraction ++ rest).head?, c.isDigit = false := by
  cases fraction with
  | nil => exact hrest
  | cons d tail =>
    intro c hc
    cases hc
    rfl

theorem head?_exponentChars (exponent : Option (Bool × List Char)) {rest : List Char}
    (hrest : CannotGoOn rest) :
    ∀ c ∈ (exponentChars exponent ++ rest).head?, c.isDigit = false ∧ c ≠ '.' := by
  cases exponent with
  | none => exact fun c hc => ⟨(hrest c hc).1, (hrest c hc).2.1⟩
  | some found =>
    intro c hc
    cases hc
    decide

theorem read?_chars {t : Spelling} (h : t.IsSound) {rest : List Char} (hrest : CannotGoOn rest) :
    read? (t.chars ++ rest) = some (t.numeral, rest) := by
  have hafter := head?_exponentChars t.exponent hrest
  have hwhole := readWhole?_append h.whole
    (head?_fractionChars t.fraction fun c hc => (hafter c hc).1)
  have hfraction := readFraction?_chars h.fraction hafter
  have hexponent := readExponent?_chars h.exponent hrest
  obtain ⟨c, tail, hcons⟩ := List.exists_cons_of_ne_nil h.whole.ne_nil
  have hdigit := h.whole.digits c (hcons ▸ List.mem_cons_self)
  unfold read? chars
  simp only [List.append_assoc]
  cases hnegative : t.negative with
  | true =>
    simp [signChars, hwhole, hfraction, hexponent, numeral, hnegative]
  | false =>
    rw [hcons] at hwhole ⊢
    split
    · rename_i heq
      cases heq
      cases hdigit
    · rw [List.cons_append] at hwhole
      simp [signChars, hwhole, hfraction, hexponent, numeral, hnegative, hcons]

end Spelling

end Numeral

namespace Double

open Numeral Text

theorem pos_of_onGrid {i : Interval} {power : Int} {digits : Nat}
    (h : i.onGrid power = some digits) : 0 < digits := by
  unfold Interval.onGrid at h
  extract_lets scale unit floor lower upper at h
  have hlower : ∀ a, lower = some a → 0 < a := by
    intro a ha
    unfold lower at ha
    split at ha
    · rename_i hfloor
      cases ha
      exact of_decide_eq_true (Bool.and_eq_true_iff.mp hfloor).1
    · cases ha
  have hupper : ∀ b, upper = some b → 0 < b := by
    intro b hb
    unfold upper at hb
    split at hb
    · cases hb
      exact Nat.succ_pos floor
    · cases hb
  cases ha : lower with
  | none =>
    rw [ha] at h
    exact hupper digits h
  | some a =>
    have hapos := hlower a ha
    cases hb : upper with
    | none =>
      rw [ha, hb] at h
      cases h
      exact hapos
    | some b =>
      have hbpos := hupper b hb
      rw [ha, hb] at h
      cases h
      split
      · exact hapos
      · split
        · exact hbpos
        · split
          · exact hapos
          · exact hbpos

theorem pos_of_searchGrid {i : Interval} (fuel : Nat) {power : Int} {found : Decimal}
    (h : searchGrid i fuel power = some found) : 0 < found.digits := by
  induction fuel generalizing power with
  | zero => cases h
  | succ fuel ih =>
    unfold searchGrid at h
    split at h
    · rename_i digits hdigits
      cases h
      exact pos_of_onGrid hdigits
    · exact ih h

/-- No digits but a zero are found only with the power zero. -/
theorem power_shortest {x : Double} (h : x.shortest.digits = 0) : x.shortest.power = 0 := by
  unfold shortest at h ⊢
  cases hfound : searchGrid x.interval 40 x.coarsestPower with
  | none => rfl
  | some found =>
    rw [hfound] at h
    exact absurd h (Nat.pos_iff_ne_zero.mp (pos_of_searchGrid 40 hfound))

theorem isDigit_of_mem_zeros {n : Nat} {c : Char} (h : c ∈ zeros n) : c.isDigit = true := by
  rw [List.eq_of_mem_replicate h]
  rfl

/-- More zeros behind leave the digits what they are, but for a zero alone. -/
theorem isWhole_append_zeros {digits : List Char} {n : Nat} (h : IsWhole digits)
    (hzero : digits = ['0'] → n = 0) : IsWhole (digits ++ zeros n) := by
  refine ⟨?_, mt (fun hnil => (List.append_eq_nil_iff.mp hnil).1) h.ne_nil, ?_⟩
  · intro c hc
    rcases List.mem_append.mp hc with hc | hc
    · exact h.digits c hc
    · exact isDigit_of_mem_zeros hc
  · intro hhead
    obtain ⟨c, tail, hcons⟩ := List.exists_cons_of_ne_nil h.ne_nil
    have hfirst : digits.head? = some '0' := by
      rw [hcons] at hhead ⊢
      exact hhead
    have hone := h.eq_zero hfirst
    rw [hone, hzero hone]
    rfl

theorem exists_positional {digits : List Char} {exponent : Int} (hdigits : IsWhole digits)
    (hzero : digits = ['0'] → exponent = 0) (negative : Bool) :
    ∃ t : Spelling, t.IsSound ∧ t.IsFloating ∧
      t.chars = Spelling.signChars negative ++ positional digits exponent := by
  unfold positional
  extract_lets whole
  split
  · refine ⟨⟨negative, ['0'], zeros ((-exponent).toNat - 1) ++ digits, none⟩,
      Spelling.isSound_of_none (isWhole_toDigits 0) ?_,
      Or.inl (List.append_ne_nil_of_right_ne_nil _ hdigits.ne_nil), ?_⟩
    · intro c hc
      rcases List.mem_append.mp hc with hc | hc
      · exact isDigit_of_mem_zeros hc
      · exact hdigits.digits c hc
    · simp [Spelling.chars, Spelling.fractionChars, Spelling.exponentChars, hdigits.ne_nil]
  · split
    · rename_i hneg hle
      refine ⟨⟨negative, digits ++ zeros (whole - digits.length), ['0'], none⟩,
        Spelling.isSound_of_none (isWhole_append_zeros hdigits ?_)
          (List.forall_mem_singleton.mpr rfl), Or.inl (List.cons_ne_nil _ _), ?_⟩
      · intro hone
        simp [whole, hone, hzero hone]
      · simp [Spelling.chars, Spelling.fractionChars, Spelling.exponentChars]
    · rename_i hneg hlt
      have hdrop : digits.drop whole ≠ [] := mt List.drop_eq_nil_iff.mp hlt
      refine ⟨⟨negative, digits.take whole, digits.drop whole, none⟩,
        Spelling.isSound_of_none (hdigits.take _) ?_, Or.inl hdrop, ?_⟩
      · exact fun c hc => hdigits.digits c (List.mem_of_mem_drop hc)
      · simp [Spelling.chars, Spelling.fractionChars, Spelling.exponentChars, hdrop]

theorem exists_scientific {digits : List Char} (exponent : Int) (hdigits : IsWhole digits)
    (negative : Bool) :
    ∃ t : Spelling, t.IsSound ∧ t.IsFloating ∧
      t.chars = Spelling.signChars negative ++ scientific digits exponent := by
  have hexponent : (toString exponent.natAbs).toList = Nat.toDigits 10 exponent.natAbs :=
    toList_repr exponent.natAbs
  refine ⟨⟨negative, digits.take 1, digits.drop 1,
    some (decide (exponent < 0), Nat.toDigits 10 exponent.natAbs)⟩, ⟨hdigits.take 0, ?_, ?_⟩,
    Or.inr (Option.some_ne_none _), ?_⟩
  · exact fun c hc => hdigits.digits c (List.mem_of_mem_drop hc)
  · intro _ _ h
    cases h
    exact ⟨Nat.toDigits_ne_nil, fun c hc => isDigit_of_mem_toDigits hc⟩
  · simp only [Spelling.chars, Spelling.fractionChars, Spelling.exponentChars, scientific,
      hexponent, decide_eq_true_eq, List.append_assoc]

theorem exists_text (x : Double) :
    ∃ t : Spelling, t.IsSound ∧ t.IsFloating ∧ t.chars = x.text.toList := by
  unfold text
  extract_lets sign found digits exponent body
  split
  · refine ⟨⟨x.negative, ['0'], ['0'], none⟩,
      Spelling.isSound_of_none (isWhole_toDigits 0) (List.forall_mem_singleton.mpr rfl),
      Or.inl (List.cons_ne_nil _ _), ?_⟩
    rw [String.toList_ofList]
    rfl
  · have hdigits : digits = Nat.toDigits 10 found.digits := toList_repr found.digits
    have hwhole : IsWhole digits := hdigits ▸ isWhole_toDigits found.digits
    rw [String.toList_ofList]
    unfold body
    split
    · refine exists_positional hwhole ?_ x.negative
      intro hzero
      have hnone : found.digits = 0 := by
        apply eq_zero_of_head?_toDigits
        rw [← hdigits, hzero]
        rfl
      unfold exponent
      rw [power_shortest hnone, hzero]
      rfl
    · exact exists_scientific exponent hwhole x.negative

end Double

namespace Number

open Numeral Text

/-- An integer is a numeral of nothing but digits, with a minus below zero. -/
def integerSpelling (i : Int) : Spelling where
  negative := decide (i < 0)
  whole := Nat.toDigits 10 i.natAbs

theorem isSound_integerSpelling (i : Int) : (integerSpelling i).IsSound := by
  refine Spelling.isSound_of_none (isWhole_toDigits _) ?_
  intro c hc
  cases hc

theorem chars_integerSpelling (i : Int) : (integerSpelling i).chars = (int i).text.toList := by
  have htext : (int i).text.toList = (toString i).toList := rfl
  rw [htext, toList_toString]
  by_cases hi : 0 ≤ i
  · have hnegative : decide (i < 0) = false := decide_eq_false (Int.not_lt.mpr hi)
    have habs : i.natAbs = i.toNat := by omega
    simp [integerSpelling, Spelling.chars, Spelling.signChars, Spelling.fractionChars,
      Spelling.exponentChars, hi, hnegative, habs]
  · have hnegative : decide (i < 0) = true := decide_eq_true (Int.not_le.mp hi)
    have habs : i.natAbs = (-i).toNat := by omega
    simp [integerSpelling, Spelling.chars, Spelling.signChars, Spelling.fractionChars,
      Spelling.exponentChars, hi, hnegative, habs]

/-- The text of every number is a numeral. -/
theorem exists_text (n : Number) : ∃ t : Spelling, t.IsSound ∧ t.chars = n.text.toList := by
  cases n with
  | int i => exact ⟨integerSpelling i, isSound_integerSpelling i, chars_integerSpelling i⟩
  | double x =>
    obtain ⟨t, hsound, -, hchars⟩ := x.exists_text
    exact ⟨t, hsound, hchars⟩

/-- The number that the text of a number is read as. -/
def reread? (n : Number) : Option Number :=
  (Numeral.read? n.text.toList).bind fun (numeral, _) => numeral.value?

theorem reread?_eq_value? {n : Number} {t : Spelling} (hsound : t.IsSound)
    (hchars : t.chars = n.text.toList) : n.reread? = t.numeral.value? := by
  have hread := Spelling.read?_chars hsound cannotGoOn_nil
  rw [List.append_nil, hchars] at hread
  rw [reread?, hread, Option.bind_some]

/-- The text of a number is read as one numeral, up to what cannot go on with it. -/
theorem read?_text (n : Number) :
    ∃ numeral : Numeral, numeral.value? = n.reread? ∧
      ∀ rest, CannotGoOn rest → Numeral.read? (n.text.toList ++ rest) = some (numeral, rest) := by
  obtain ⟨t, hsound, hchars⟩ := n.exists_text
  refine ⟨t.numeral, (reread?_eq_value? hsound hchars).symm, fun rest hrest => ?_⟩
  rw [← hchars]
  exact Spelling.read?_chars hsound hrest

theorem reread?_int {i : Int} (h : (int i).IsRepresented) : (int i).reread? = some (int i) := by
  obtain ⟨hleast, hgreatest⟩ := h
  have hwhole : natOfDigits (digitsOf (Nat.toDigits 10 i.natAbs)) = i.natAbs := by
    rw [digitsOf, natOfDigits_map, Nat.ofDigitChars_ten_toDigits]
  rw [reread?_eq_value? (isSound_integerSpelling i) (chars_integerSpelling i)]
  unfold leastInt64 at hleast
  unfold greatestNat64 at hgreatest
  have hfits : i.natAbs ≤ Number.greatestNat64 := by
    unfold greatestNat64
    omega
  unfold Numeral.value?
  simp only [Spelling.numeral, integerSpelling, hwhole]
  by_cases hi : i < 0
  · have hvalue : -(i.natAbs : Int) = i := by omega
    have hbelow : ¬(i.natAbs = 0 ∨ i.natAbs > 0x8000000000000000) := by omega
    rw [hvalue, if_neg hbelow]
    simp [digitsOf, hfits, hi]
  · have hvalue : (i.natAbs : Int) = i := by omega
    rw [hvalue]
    simp [digitsOf, hfits, hi]

theorem reread?_natCast {n : Nat} (h : n ≤ greatestNat64) : (int n).reread? = some (int n) := by
  apply reread?_int
  have hleast : leastInt64 ≤ 0 := by decide
  have hgreatest : (n : Int) ≤ greatestNat64 := Int.ofNat_le.mpr h
  exact ⟨by omega, hgreatest⟩

/-- Whatever the text of a double is read as, it is a double. -/
theorem reread?_double {x : Double} {n : Number} (h : (double x).reread? = some n) :
    ∃ y, n = double y := by
  obtain ⟨t, hsound, hfloating, hchars⟩ := x.exists_text
  have hbranch : (t.numeral.fraction.isEmpty && t.numeral.exponent.isNone) = false := by
    rcases hfloating with hfraction | hexponent
    · simp [Spelling.numeral, digitsOf, hfraction]
    · simp [Spelling.numeral, Option.isSome_iff_ne_none.mpr hexponent]
  have hvalue : (double x).reread? = t.numeral.value? := reread?_eq_value? hsound hchars
  rw [hvalue, Numeral.value?, hbranch, Bool.false_and,
    if_neg Bool.false_ne_true] at h
  obtain ⟨y, -, rfl⟩ := Option.map_eq_some_iff.mp h
  exact ⟨y, rfl⟩

theorem head?_text (n : Number) :
    ∃ c cs, n.text.toList = c :: cs ∧ (c.isDigit = true ∨ c = '-') := by
  obtain ⟨t, hsound, hchars⟩ := n.exists_text
  obtain ⟨c, cs, hcons⟩ := List.exists_cons_of_ne_nil hsound.whole.ne_nil
  have hdigit := hsound.whole.digits c (hcons ▸ List.mem_cons_self)
  rw [← hchars, Spelling.chars, hcons]
  cases t.negative with
  | true => exact ⟨'-', _, rfl, Or.inr rfl⟩
  | false => exact ⟨c, _, rfl, Or.inl hdigit⟩

end Number

end ReportSearch
