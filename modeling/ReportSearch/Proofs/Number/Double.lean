import Mathlib.Algebra.Order.Ring.Nat
import ReportSearch.Number.Double

/-!
# Finite doubles

Rounding a ratio gives a finite double as long as its numerator has few binary places more than its
denominator. A quotient by a double that is not below one has few places more than the dividend.
This does not say which double it is.
-/

set_option autoImplicit false

namespace ReportSearch

theorem roundDivEven_le {num den bound : Nat} (h : num ≤ bound * den) :
    roundDivEven num den ≤ bound := by
  have hsplit := Nat.div_add_mod num den
  unfold roundDivEven
  dsimp only
  by_cases hrem : num % den = 0
  · have hle : num / den ≤ bound := Nat.div_le_of_le_mul (by rwa [Nat.mul_comm])
    split
    · exact hle
    · rename_i hden
      -- Only a denominator of zero comes here, and then the quotient is zero as well.
      have hzero : num / den = 0 := by
        rw [hrem] at hden
        rw [Nat.le_zero.mp (Nat.le_of_not_lt hden), Nat.div_zero]
      rw [hrem, hzero]
      simp
  · have hlt : num / den < bound := by
      have hmul : num / den * den < bound * den := by
        rw [Nat.mul_comm (num / den)]
        omega
      exact Nat.lt_of_mul_lt_mul_right hmul
    split
    · omega
    · split <;> omega

namespace Double

theorem exponentFor_bounds (num den : Nat) :
    (num.log2 : Int) ≤ den.log2 + 53 + exponentFor num den ∧
      (exponentFor num den = leastExponent ∨
        exponentFor num den + 52 + den.log2 ≤ num.log2) := by
  unfold exponentFor
  extract_lets guess below e
  have he : e = guess ∨ e = guess - 1 := by
    unfold e
    split
    · exact Or.inr rfl
    · exact Or.inl rfl
  unfold guess at he
  omega

/-- The significand of a ratio over its exponent; not over 54 places where the exponent is no less
than the binary places of the two sides ask for. -/
theorem scaled_le {num den : Nat} {e : Int} (hden : 0 < den)
    (h : (num.log2 : Int) ≤ den.log2 + 53 + e) :
    (if e < 0 then roundDivEven (num * Nat.pow 2 (-e).toNat) den
      else roundDivEven num (den * Nat.pow 2 e.toNat)) ≤ 4 * hidden := by
  have hhidden : 4 * hidden = 2 ^ 54 := by decide
  have hnum : num ≤ 2 ^ (num.log2 + 1) := Nat.lt_log2_self.le
  have hlow : 2 ^ den.log2 ≤ den := Nat.log2_self_le (Nat.pos_iff_ne_zero.mp hden)
  rw [hhidden]
  split
  · apply roundDivEven_le
    calc num * 2 ^ (-e).toNat
        ≤ 2 ^ (num.log2 + 1) * 2 ^ (-e).toNat := Nat.mul_le_mul_right _ hnum
      _ = 2 ^ (num.log2 + 1 + (-e).toNat) := (Nat.pow_add ..).symm
      _ ≤ 2 ^ (54 + den.log2) := Nat.pow_le_pow_right (by decide) (by omega)
      _ = 2 ^ 54 * 2 ^ den.log2 := Nat.pow_add ..
      _ ≤ 2 ^ 54 * den := Nat.mul_le_mul_left _ hlow
  · apply roundDivEven_le
    calc num ≤ 2 ^ (num.log2 + 1) := hnum
      _ ≤ 2 ^ (54 + den.log2 + e.toNat) := Nat.pow_le_pow_right (by decide) (by omega)
      _ = 2 ^ 54 * (2 ^ den.log2 * 2 ^ e.toNat) := by
        rw [Nat.pow_add, Nat.pow_add, Nat.mul_assoc]
      _ ≤ 2 ^ 54 * (den * 2 ^ e.toNat) := Nat.mul_le_mul_left _ (Nat.mul_le_mul_right _ hlow)

/-- How many places a ratio may have before its point, so that its rank stays below infinity. -/
theorem rank_ofRatio_le (negative : Bool) {num den places : Nat} (hden : 0 < den)
    (h : num.log2 ≤ den.log2 + places) :
    (ofRatio negative num den).rank ≤ (places + 1026) * hidden := by
  unfold ofRatio
  split
  · exact Nat.zero_le _
  · extract_lets e q
    obtain ⟨hleast, hgreatest⟩ := exponentFor_bounds num den
    have hq : q ≤ 4 * hidden := scaled_le hden hleast
    have hplace : (e - leastExponent).toNat ≤ places + 1022 := by
      unfold leastExponent at hgreatest ⊢
      omega
    calc min ((e - leastExponent).toNat * hidden + q) infiniteRank
        ≤ (e - leastExponent).toNat * hidden + q := Nat.min_le_left _ _
      _ ≤ (places + 1022) * hidden + 4 * hidden :=
        Nat.add_le_add (Nat.mul_le_mul_right _ hplace) hq
      _ = (places + 1026) * hidden := (Nat.add_mul ..).symm

theorem isFinite_of_rank_le {x : Double} {places : Nat} (hplaces : places < 1021)
    (h : x.rank ≤ (places + 1026) * hidden) : x.isFinite = true := by
  refine decide_eq_true (Nat.lt_of_le_of_lt h ?_)
  exact Nat.mul_lt_mul_of_pos_right (by omega) (by decide)

theorem isFinite_ofInt {i : Int} (h : i.natAbs.log2 < 1021) : (ofInt i).isFinite = true :=
  isFinite_of_rank_le h (rank_ofRatio_le _ Nat.one_pos (Nat.le_add_left _ _))

/-- The absolute value is at most two to the power of a number of places. -/
def IsWithin (x : Double) (places : Nat) : Prop := x.ratio.1 ≤ Nat.pow 2 places * x.ratio.2

theorem ratio_pos (x : Double) : 0 < x.ratio.2 := by
  unfold ratio
  dsimp only
  split
  · exact Nat.two_pow_pos _
  · exact Nat.one_pos

theorem significand_le (x : Double) : x.significand ≤ 2 ^ 53 := by
  have hhidden : hidden = 2 ^ 52 := by decide
  have hmod : x.rank % hidden < hidden := Nat.mod_lt _ (by decide)
  unfold significand
  split <;> omega

theorem exponent_le {x : Double} {places : Nat} (h : x.rank ≤ (places + 1026) * hidden) :
    x.exponent ≤ places - 49 := by
  have hquotient : x.rank / hidden ≤ places + 1026 :=
    Nat.div_le_of_le_mul (by rwa [Nat.mul_comm])
  unfold exponent leastExponent
  split <;> omega

theorem isWithin_of_rank_le {x : Double} {places : Nat}
    (h : x.rank ≤ (places + 1026) * hidden) : x.IsWithin (places + 4) := by
  have hsignificand := x.significand_le
  have hexponent := exponent_le h
  unfold IsWithin ratio
  dsimp only
  split
  · calc x.significand ≤ 2 ^ 53 := hsignificand
      _ ≤ 2 ^ (places + 4 + (-x.exponent).toNat) := Nat.pow_le_pow_right (by decide) (by omega)
      _ = 2 ^ (places + 4) * 2 ^ (-x.exponent).toNat := Nat.pow_add ..
  · calc x.significand * 2 ^ x.exponent.toNat
        ≤ 2 ^ 53 * 2 ^ x.exponent.toNat := Nat.mul_le_mul_right _ hsignificand
      _ = 2 ^ (53 + x.exponent.toNat) := (Nat.pow_add ..).symm
      _ ≤ 2 ^ (places + 4) := Nat.pow_le_pow_right (by decide) (by omega)
      _ = 2 ^ (places + 4) * 1 := (Nat.mul_one _).symm

theorem log2_le_of_le_mul {n m places : Nat} (h : n ≤ 2 ^ places * m) :
    n.log2 ≤ m.log2 + places := by
  by_cases hn : n = 0
  · rw [hn]
    exact Nat.zero_le _
  · have hlt : n < 2 ^ (m.log2 + places + 1) := by
      calc n ≤ 2 ^ places * m := h
        _ < 2 ^ places * 2 ^ (m.log2 + 1) :=
          Nat.mul_lt_mul_of_pos_left Nat.lt_log2_self (Nat.two_pow_pos _)
        _ = 2 ^ (m.log2 + places + 1) := by
          rw [← Nat.pow_add]
          congr 1
          omega
    exact Nat.le_of_lt_succ ((Nat.log2_lt hn).mpr hlt)

theorem rank_div_le {x y : Double} {places : Nat} (hx : x.IsWithin places)
    (hy : y.ratio.2 ≤ y.ratio.1) : (x.div y).rank ≤ (places + 1026) * hidden := by
  have hden : 0 < x.ratio.2 * y.ratio.1 :=
    Nat.mul_pos x.ratio_pos (Nat.lt_of_lt_of_le y.ratio_pos hy)
  refine rank_ofRatio_le _ hden (log2_le_of_le_mul ?_)
  calc x.ratio.1 * y.ratio.2
      ≤ 2 ^ places * x.ratio.2 * y.ratio.1 := Nat.mul_le_mul hx hy
    _ = 2 ^ places * (x.ratio.2 * y.ratio.1) := Nat.mul_assoc ..

end Double

end ReportSearch
