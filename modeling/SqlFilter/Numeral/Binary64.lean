import SqlFilter.Numeral.Decimal

/-!
# Binary floating point with 64 bits

Every finite number of the format is a whole multiple of `2 ^ -1074`, so its magnitude is kept as
that multiple, a natural number, and all arithmetic is exact arithmetic followed by one rounding.

* `Magnitude` is a magnitude in such units, or infinity;
* `roundQuotient` rounds a quotient to the nearest number of the format, a tie going to the even
  neighbour;
* `Magnitude.add`, `Magnitude.scale` and `Magnitude.ofDecimal` are a sum, a whole multiple and a
  decimal numeral, each exact and then rounded;
* `Magnitude.nearestWhole` is the nearest whole number, a half going up;
* `Binary64` holds the 64 bits of a number, `Binary64.ofUnits` lays them out.
-/

namespace SqlFilter

/-! ## Rounding -/

/-- The quotient rounded to a whole number, a tie going to the even one. -/
def halfEven (num den : Nat) : Nat :=
  let whole := num / den
  let twice := 2 * (num % den)
  if twice < den then whole
  else if den < twice then whole + 1
  else if whole % 2 = 0 then whole else whole + 1

/-- The quotient rounded to a whole number of at most 53 significant bits, a tie going to the even
neighbour. -/
def roundQuotient (num den : Nat) : Nat :=
  let whole := num / den
  if whole < Nat.pow 2 53 then halfEven num den
  else
    let step := Nat.pow 2 (whole.log2 - 52)
    halfEven num (den * step) * step

/-! ## Magnitudes -/

/-- The magnitude of a number: a multiple of `2 ^ -1074`, or infinity. -/
inductive Magnitude where
  /-- The magnitude `units * 2 ^ -1074`. -/
  | finite (units : Nat)
  /-- A magnitude past the greatest finite one. -/
  | infinite
  deriving Repr, DecidableEq

namespace Magnitude

/-- The number of units in one. -/
def one : Nat := Nat.pow 2 1074

/-- The least number of units that is past all finite magnitudes, `2 ^ 1024`. -/
def limit : Nat := Nat.pow 2 2098

/-- The magnitude nearest to a quotient of units. -/
def ofUnits (num den : Nat) : Magnitude :=
  let units := roundQuotient num den
  if units < limit then finite units else infinite

/-- The sum of two magnitudes. -/
def add : Magnitude → Magnitude → Magnitude
  | finite a, finite b => ofUnits (a + b) 1
  | _, _ => infinite

/-- A magnitude times a positive whole number. -/
def scale (n : Nat) : Magnitude → Magnitude
  | finite a => ofUnits (a * n) 1
  | infinite => infinite

/-- The magnitude nearest to a decimal.  A value of `10 ^ 310` or more is past the greatest
magnitude and one below `10 ^ -330` is nearer to zero than to any other, so that powers of ten
outside this range need not be formed. -/
def ofDecimal (d : Decimal) : Magnitude :=
  let order := d.exponent + (Numeral.digits d.mantissa).length
  if d.mantissa = 0 then finite 0
  else if 310 < order then infinite
  else if order < -330 then finite 0
  else
    match d.exponent with
    | .ofNat e => ofUnits (d.mantissa * Nat.pow 10 e * one) 1
    | .negSucc e => ofUnits (d.mantissa * one) (Nat.pow 10 (e + 1))

/-- The whole number nearest to a finite magnitude, a half going up. -/
def nearestWhole (units : Nat) : Nat := (2 * units + one) / (2 * one)

end Magnitude

/-! ## The 64 bits -/

/-- A binary floating-point number, as its 64 bits: sign, eleven exponent bits, 52 fraction
bits. -/
structure Binary64 where
  /-- The bits, the sign in front. -/
  bits : UInt64
  deriving Repr, DecidableEq

namespace Binary64

/-- Exponent and fraction bits of a finite magnitude.  Below `2 ^ 52` units the exponent field is
zero; from there it counts the bits beyond 52, and the leading bit is left out of the fraction. -/
def magnitudeBits (units : Nat) : Nat :=
  if units < Nat.pow 2 52 then units
  else
    let shift := units.log2 - 52
    (shift + 1) * Nat.pow 2 52 + (units / Nat.pow 2 shift - Nat.pow 2 52)

/-- The number with a sign and a finite magnitude. -/
def ofUnits (negative : Bool) (units : Nat) : Binary64 :=
  ⟨UInt64.ofNat ((if negative then Nat.pow 2 63 else 0) + magnitudeBits units)⟩

/-- Whether the number is neither infinite nor undefined. -/
def isFinite (x : Binary64) : Bool := x.bits.toNat / Nat.pow 2 52 % 2048 ≠ 2047

/-- The number nearest to a decimal, if it is finite. -/
def ofDecimal? (d : Decimal) : Option Binary64 :=
  match Magnitude.ofDecimal d with
  | .finite units => some (ofUnits d.negative units)
  | .infinite => none

/-- Reads a decimal numeral as the nearest number, if that is finite. -/
def read? (t : Text) : Option Binary64 := (Decimal.read? t).bind ofDecimal?

end Binary64

/-! ## Finite numbers -/

theorem halfEven_le (num den : Nat) : halfEven num den ≤ num / den + 1 := by
  unfold halfEven
  dsimp only
  split
  · omega
  split
  · omega
  split <;> omega

/-- Rounding does not double a number. -/
theorem roundQuotient_le (num den : Nat) : roundQuotient num den ≤ 2 * (num / den) + 1 := by
  unfold roundQuotient
  dsimp only
  split
  · have := halfEven_le num den
    omega
  · rename_i hlarge
    have hne : num / den ≠ 0 := by
      intro h
      rw [h] at hlarge
      exact hlarge (by decide)
    -- the step between neighbours is not greater than the number
    have hstep : Nat.pow 2 ((num / den).log2 - 52) ≤ num / den :=
      Nat.le_trans (Nat.pow_le_pow_right (by decide) (Nat.sub_le ..)) (Nat.log2_self_le hne)
    generalize Nat.pow 2 ((num / den).log2 - 52) = step at hstep ⊢
    have hround := Nat.mul_le_mul_right step (halfEven_le num (den * step))
    have hdown : num / den / step * step ≤ num / den := Nat.div_mul_le_self ..
    rw [← Nat.div_div_eq_div_mul, Nat.add_mul, Nat.one_mul] at hround
    omega

namespace Magnitude

theorem limit_pos : 0 < limit := by
  unfold limit
  -- the power is not to be evaluated
  generalize 2098 = n
  exact Nat.two_pow_pos n

/-- No number past `2 ^ 1024` is finite. -/
theorem limit_eq : limit = Nat.pow 2 1024 * one := by decide +kernel

theorem one_pos : 0 < one := by decide +kernel

theorem lt_limit_of_ofUnits {num den units : Nat} (h : ofUnits num den = finite units) :
    units < limit := by
  unfold ofUnits at h
  dsimp only at h
  split at h
  · rename_i hlt
    cases h
    exact hlt
  · cases h

theorem exists_ofUnits_eq {num den : Nat} (h : 2 * (num / den) + 1 < limit) :
    ∃ units, ofUnits num den = finite units := by
  have hlt := Nat.lt_of_le_of_lt (roundQuotient_le num den) h
  unfold ofUnits
  dsimp only
  rw [if_pos hlt]
  exact ⟨_, rfl⟩

/-- Whole numbers of 64 bits are finite. -/
theorem exists_ofDecimal_eq {n : Nat} (h : n ≤ Nat.pow 2 64) :
    ∃ units, ofDecimal ⟨false, n, 0⟩ = finite units := by
  have hdigits : (Numeral.digits n).length ≤ 20 :=
    (Nat.length_toDigits_le_iff (by decide) (by decide)).2 (Nat.lt_of_le_of_lt h (by decide))
  unfold ofDecimal
  dsimp only
  split
  · exact ⟨0, rfl⟩
  split
  · omega
  split
  · omega
  · refine exists_ofUnits_eq ?_
    have hone := one_pos
    have hfew : 2 * n + 2 ≤ Nat.pow 2 1024 :=
      Nat.le_trans (Nat.add_le_add_right (Nat.mul_le_mul_left 2 h) 2) (by decide +kernel)
    have hunits := Nat.mul_le_mul_right one hfew
    rw [← limit_eq, Nat.add_mul, Nat.mul_assoc] at hunits
    rw [show Nat.pow 10 0 = 1 from rfl, Nat.mul_one, Nat.div_one]
    generalize n * one = units at hunits ⊢
    omega

theorem lt_limit_of_ofDecimal {d : Decimal} {units : Nat} (h : ofDecimal d = finite units) :
    units < limit := by
  unfold ofDecimal at h
  dsimp only at h
  split at h
  · cases h
    exact limit_pos
  split at h
  · cases h
  split at h
  · cases h
    exact limit_pos
  split at h <;> exact lt_limit_of_ofUnits h

end Magnitude

namespace Binary64

/-- The exponent field of a finite magnitude is not full. -/
theorem magnitudeBits_lt {units : Nat} (h : units < Magnitude.limit) :
    magnitudeBits units < 2047 * Nat.pow 2 52 := by
  unfold magnitudeBits
  simp only [Nat.pow_eq]
  split
  · omega
  · rename_i hlarge
    have hne : units ≠ 0 := by omega
    have hlow : 52 ≤ units.log2 := (Nat.le_log2 hne).2 (by omega)
    have hhigh : units.log2 < 2098 := by
      unfold Magnitude.limit at h
      generalize 2098 = n at h ⊢
      exact (Nat.log2_lt hne).2 h
    -- the leading bit and 52 more are left of the magnitude
    have hleft : units / 2 ^ (units.log2 - 52) < 2 ^ 53 := by
      refine Nat.div_lt_of_lt_mul ?_
      rw [← Nat.pow_add]
      have := Nat.lt_log2_self (n := units)
      rwa [show units.log2 - 52 + 53 = units.log2 + 1 by omega]
    omega

theorem isFinite_ofUnits (negative : Bool) {units : Nat} (h : units < Magnitude.limit) :
    (ofUnits negative units).isFinite = true := by
  have hbits := magnitudeBits_lt h
  have hsign : (if negative then Nat.pow 2 63 else 0) = 2 ^ 63 ∨
      (if negative then Nat.pow 2 63 else 0) = 0 := by
    cases negative
    · exact .inr rfl
    · exact .inl rfl
  unfold isFinite ofUnits
  simp only [decide_eq_true_eq, UInt64.toNat_ofNat', Nat.pow_eq] at hbits hsign ⊢
  omega

/-- A number that is read is finite. -/
theorem isFinite_of_read? {t : Text} {x : Binary64} (h : read? t = some x) : x.isFinite = true := by
  obtain ⟨d, -, hd⟩ := Option.bind_eq_some_iff.1 h
  unfold ofDecimal? at hd
  split at hd
  · rename_i units hunits
    cases hd
    exact isFinite_ofUnits d.negative (Magnitude.lt_limit_of_ofDecimal hunits)
  · cases hd

/-- What stands behind the sign decides whether a text is read, and it is read if it is a numeral of
a finite magnitude. -/
theorem exists_read?_iff {t : Text} : (∃ x, read? t = some x) ↔
    ∃ d units, Decimal.unsigned? (Numeral.cutSign t).2 = some d ∧
      Magnitude.ofDecimal d = .finite units := by
  have hread : read? t = (Decimal.unsigned? (Numeral.cutSign t).2).bind fun d =>
      ofDecimal? ⟨(Numeral.cutSign t).1, d.mantissa, d.exponent⟩ := Option.bind_map ..
  -- the sign does not count for the magnitude
  have hsign : ∀ (negative : Bool) (d : Decimal),
      Magnitude.ofDecimal ⟨negative, d.mantissa, d.exponent⟩ = Magnitude.ofDecimal d :=
    fun _ _ => rfl
  simp only [hread, Option.bind_eq_some_iff, ofDecimal?, hsign]
  constructor
  · rintro ⟨x, d, hd, hx⟩
    cases hunits : Magnitude.ofDecimal d with
    | finite units => exact ⟨d, units, hd, hunits⟩
    | infinite =>
        rw [hunits] at hx
        cases hx
  · rintro ⟨d, units, hd, hunits⟩
    refine ⟨ofUnits (Numeral.cutSign t).1 units, d, hd, ?_⟩
    rw [hunits]

end Binary64
end SqlFilter
