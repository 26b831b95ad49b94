import SqlFilter.Numeral.Binary64

/-!
# Numerals in rounded steps

A decimal numeral can be turned into a floating-point number with little arithmetic: the leading
digits that 64 bits hold, its *significand*, become the nearest floating-point number, and that is
multiplied or divided by a power of ten.  Every step rounds, so the result may be a neighbour of
the number that is nearest to the numeral.

* `Decimal.gather` appends digits to a significand while it fits;
* `Decimal.significant?` reads a numeral with the digits of its significand alone; it is
  `Decimal.unsigned?` where all digits fit (`significant?_eq_unsigned?`);
* `Magnitude.grow` and `Magnitude.shrink` scale a magnitude up and down by a power of ten;
* `Binary64.ofScaled?` is the number that the steps lead to.
-/

namespace SqlFilter

/-! ## Significands -/

namespace Decimal

/-- The least whole number that is too great for 64 bits without a sign, `2 ^ 64`. -/
def significandLimit : Nat := Nat.pow 2 64

/-- Appends digits to a significand until one of them would not fit: the significand and the digits
that are left over. -/
def gather (significand : Nat) : Text → Nat × Text
  | [] => (significand, [])
  | c :: rest =>
    let longer := 10 * significand + (c.toNat - '0'.toNat)
    if longer < significandLimit then gather longer rest else (significand, c :: rest)

/-- Reads a numeral without a sign as its significand and an exponent.  A digit in front of the
point that does not fit counts in the exponent alone, and one behind the point counts nowhere. -/
def significant? (t : Text) : Option Decimal := do
  let (whole, part, rest) ← parts? t
  let exponent ← exponent? rest
  let (leading, uncounted) := gather 0 whole
  let (significand, unread) := gather leading part
  return ⟨false, significand, exponent + uncounted.length - (part.length - unread.length : Nat)⟩

/-! ### Small laws -/

/-- Appending digits does not make a number smaller. -/
theorem le_ofDigitChars (t : Text) (n : Nat) : n ≤ Nat.ofDigitChars 10 t n := by
  rw [Nat.ofDigitChars_eq_ofDigitChars_zero]
  exact Nat.le_trans (Nat.le_mul_of_pos_left _ (Nat.pow_pos (by decide))) (Nat.le_add_right _ _)

/-- Digits that form a number below the limit are all gathered. -/
theorem gather_eq_ofDigitChars {n : Nat} {t : Text}
    (h : Nat.ofDigitChars 10 t n < significandLimit) :
    gather n t = (Nat.ofDigitChars 10 t n, []) := by
  induction t generalizing n with
  | nil => rfl
  | cons c rest ih =>
    rw [Nat.ofDigitChars_cons] at h ⊢
    simp only [gather]
    rw [if_pos (Nat.lt_of_le_of_lt (le_ofDigitChars rest _) h)]
    exact ih h

/-- Where all digits of a numeral fit, its significand and exponent are exact. -/
theorem significant?_eq_unsigned? {t whole part rest : Text}
    (ht : parts? t = some (whole, part, rest))
    (h : Numeral.ofDigits (whole ++ part) < significandLimit) :
    significant? t = unsigned? t := by
  rw [Numeral.ofDigits, Nat.ofDigitChars_append] at h
  have hwhole := Nat.lt_of_le_of_lt (le_ofDigitChars part _) h
  simp [significant?, unsigned?, ht, gather_eq_ofDigitChars hwhole, gather_eq_ofDigitChars h,
    Numeral.ofDigits, Nat.ofDigitChars_append]

end Decimal

/-! ## Scaled magnitudes -/

namespace Magnitude

/-- The units of the number nearest to a power of ten. -/
def tenUnits (n : Nat) : Nat := roundQuotient (Nat.pow 10 n * one) 1

/-- The greatest power of ten that is finite. -/
def topPower : Nat := 308

/-- A magnitude times a power of ten, rounded.  A power past the greatest one is not formed. -/
def grow (units n : Nat) : Magnitude :=
  if n ≤ topPower then ofUnits (units * tenUnits n) one
  else if units = 0 then finite 0
  else infinite

/-- A magnitude divided by a power of ten, rounded.  A power past the greatest one is divided by in
several steps. -/
def shrink (units n : Nat) : Nat :=
  if n ≤ topPower then roundQuotient (units * one) (tenUnits n)
  else if units = 0 then 0
  else shrink (roundQuotient (units * one) (tenUnits topPower)) (n - topPower)
termination_by n
decreasing_by simp only [topPower] at *; omega

/-- The magnitude of a decimal in steps: the number nearest to its mantissa, scaled by its power of
ten. -/
def ofScaled (d : Decimal) : Magnitude :=
  let units := roundQuotient (d.mantissa * one) 1
  match d.exponent with
  | .ofNat e => grow units e
  | .negSucc e => finite (shrink units (e + 1))

end Magnitude

/-- The number that a decimal leads to in steps, if it is finite. -/
def Binary64.ofScaled? (d : Decimal) : Option Binary64 :=
  match Magnitude.ofScaled d with
  | .finite units => some (ofUnits d.negative units)
  | .infinite => none

end SqlFilter
