import SqlFilter.Numeral.Binary64

/-!
# Whole numbers in floating point

Whole numbers of at most 53 bits are numbers of the format, so that sums and multiples that stay
among them are exact.

* `roundQuotient_mul_pow`: 53 significant bits are not rounded;
* `Magnitude.whole` is a whole number as a magnitude; `Magnitude.add_whole`,
  `Magnitude.scale_whole` and `Magnitude.ofDecimal_whole` are exact arithmetic with such magnitudes,
  and `Magnitude.nearestWhole_whole` reads them back.
-/

namespace SqlFilter

/-! ## Rounding -/

theorem halfEven_mul {den : Nat} (h : 0 < den) (q : Nat) : halfEven (q * den) den = q := by
  unfold halfEven
  rw [Nat.mul_mod_left, Nat.mul_div_cancel q h]
  exact if_pos h

/-- A number of at most 53 significant bits is not rounded. -/
theorem roundQuotient_mul_pow {m : Nat} (h : m < Nat.pow 2 53) (k : Nat) :
    roundQuotient (m * Nat.pow 2 k) 1 = m * Nat.pow 2 k := by
  unfold roundQuotient
  rw [Nat.div_one]
  generalize hn : m * Nat.pow 2 k = n
  dsimp only
  by_cases hsmall : n < Nat.pow 2 53
  · have hexact := halfEven_mul Nat.one_pos n
    rw [Nat.mul_one] at hexact
    rw [if_pos hsmall, hexact]
  · rw [if_neg hsmall, Nat.one_mul]
    have hne : n ≠ 0 := by
      rintro rfl
      exact hsmall (by decide)
    -- the bits of `n` behind the first 53 are among the last `k`, which are all zero
    have hbits : n.log2 - 52 ≤ k := by
      have hlt : n < 2 ^ (53 + k) := by
        rw [← hn, Nat.pow_add]
        exact Nat.mul_lt_mul_of_pos_right h (Nat.two_pow_pos k)
      have := (Nat.log2_lt hne).2 hlt
      omega
    obtain ⟨q, hq⟩ : Nat.pow 2 (n.log2 - 52) ∣ n :=
      Nat.dvd_trans (Nat.pow_dvd_pow 2 hbits) ⟨m, by rw [← hn, Nat.mul_comm]; rfl⟩
    have hpos : 0 < Nat.pow 2 (n.log2 - 52) := Nat.two_pow_pos _
    generalize Nat.pow 2 (n.log2 - 52) = step at hq hpos ⊢
    rw [hq, Nat.mul_comm step q, halfEven_mul hpos]

namespace Magnitude

/-- A whole number as a magnitude. -/
def whole (n : Nat) : Magnitude := finite (n * one)

variable {m n : Nat}

theorem ofUnits_mul_one (h : n < Nat.pow 2 53) : ofUnits (n * one) 1 = whole n := by
  have hround : roundQuotient (n * one) 1 = n * one := by
    unfold one
    -- the power is not to be evaluated
    generalize 1074 = k
    exact roundQuotient_mul_pow h k
  have hlimit : n * one < limit := by
    have hpow : ∀ k, 53 < k → n < Nat.pow 2 k :=
      fun k hk => Nat.lt_trans h (Nat.pow_lt_pow_right (by decide) hk)
    have hbound := hpow 1024 (by decide)
    rw [limit_eq]
    generalize Nat.pow 2 1024 = bound at hbound ⊢
    exact Nat.mul_lt_mul_of_pos_right hbound one_pos
  unfold ofUnits
  rw [hround]
  exact if_pos hlimit

/-- Whole numbers are added exactly. -/
theorem add_whole (h : m + n < Nat.pow 2 53) : (whole m).add (whole n) = whole (m + n) := by
  rw [whole, whole, add, ← Nat.add_mul, ofUnits_mul_one h]

/-- Whole multiples of whole numbers are exact. -/
theorem scale_whole {k : Nat} (h : n * k < Nat.pow 2 53) : (whole n).scale k = whole (n * k) := by
  rw [whole, scale, Nat.mul_right_comm, ofUnits_mul_one h]

/-- Whole numbers are read exactly, with either sign. -/
theorem ofDecimal_whole (h : n < Nat.pow 2 53) (negative : Bool) :
    ofDecimal ⟨negative, n, 0⟩ = whole n := by
  have hdigits : (Numeral.digits n).length ≤ 16 :=
    (Nat.length_toDigits_le_iff (by decide) (by decide)).2 (Nat.lt_trans h (by decide))
  unfold ofDecimal
  dsimp only
  split
  · rename_i hzero
    rw [hzero, whole, Nat.zero_mul]
  split
  · omega
  split
  · omega
  · rw [show Nat.pow 10 0 = 1 from rfl, Nat.mul_one, ofUnits_mul_one h]

/-- The whole number nearest to a whole number is that number. -/
theorem nearestWhole_whole (n : Nat) : nearestWhole (n * one) = n := by
  have hone := one_pos
  have hsum : 2 * (n * one) + one = one + n * (2 * one) := by
    rw [Nat.add_comm, Nat.mul_left_comm]
  rw [nearestWhole, hsum, Nat.add_mul_div_right _ _ (by omega), Nat.div_eq_of_lt (by omega),
    Nat.zero_add]

end Magnitude
end SqlFilter
