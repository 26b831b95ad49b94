import SqlFilter.Text.Basic

/-!
# Digits

Whole numbers in decimal digits.

* `Numeral.digits` and `Numeral.signedDigits` write a number, `Numeral.padded` with leading zeros;
* `Numeral.ofDigits` reads a run of digits;
* `Numeral.int64?` reads a whole number that fits 64 bits: an optional sign, then digits only.

A digit is one of the ten ASCII digits throughout.
-/

namespace SqlFilter.Numeral

/-- The number that a run of digits stands for. -/
def ofDigits (t : Text) : Nat := Nat.ofDigitChars 10 t 0

/-- The digits of a number, without leading zeros. -/
def digits (n : Nat) : Text := Nat.toDigits 10 n

/-- The digits of a number behind a minus sign where it is negative. -/
def signedDigits (i : Int) : Text :=
  if i < 0 then '-' :: digits i.natAbs else digits i.natAbs

/-- The digits of a number, with zeros in front up to the given width. -/
def padded (width : Nat) (n : Nat) : Text :=
  List.replicate (width - (digits n).length) '0' ++ digits n

/-- Whether a text is a plus or minus sign followed by something, and that something: the first
part says whether the sign is a minus. -/
def cutSign : Text → Bool × Text
  | '-' :: rest => (true, rest)
  | '+' :: rest => (false, rest)
  | t => (false, t)

/-- A magnitude with a sign. -/
def withSign (negative : Bool) (n : Nat) : Int := if negative then -(n : Int) else n

/-- The least whole number that is too great for 64 bits with a sign, `2 ^ 63`. -/
def int64Limit : Nat := Nat.pow 2 63

/-- Whether a whole number fits 64 bits with a sign. -/
def fitsInt64 (i : Int) : Bool := -(int64Limit : Int) ≤ i && i < (int64Limit : Int)

/-- Reads a whole number that fits 64 bits. -/
def int64? (t : Text) : Option Int :=
  let (negative, body) := cutSign t
  if body ≠ [] ∧ body.all Char.isDigit then
    let i := withSign negative (ofDigits body)
    if fitsInt64 i then some i else none
  else none

/-! ## Small laws -/

/-- What is cut off in front of a text is one sign or nothing. -/
theorem exists_sign (t : Text) :
    ∃ sign, t = sign ++ (cutSign t).2 ∧ (sign = [] ∨ sign = ['-'] ∨ sign = ['+']) ∧
      ((cutSign t).1 = true ↔ sign = ['-']) := by
  unfold cutSign
  split
  · exact ⟨['-'], rfl, .inr (.inl rfl), by simp⟩
  · exact ⟨['+'], rfl, .inr (.inr rfl), by simp⟩
  · exact ⟨[], rfl, .inl rfl, by simp⟩

/-- Whether a text begins without a sign. -/
def IsUnsigned (t : Text) : Prop := ∀ c ∈ t.head?, c ≠ '+' ∧ c ≠ '-'

theorem cutSign_of_isUnsigned {t : Text} (h : IsUnsigned t) : cutSign t = (false, t) := by
  unfold cutSign
  split
  · exact absurd rfl (h '-' rfl).2
  · exact absurd rfl (h '+' rfl).1
  · rfl

/-- A digit is no sign. -/
theorem isUnsigned_of_isDigit {t : Text} (h : ∀ c ∈ t.head?, c.isDigit = true) :
    IsUnsigned t := by
  intro c hc
  constructor
  · rintro rfl
    cases h _ hc
  · rintro rfl
    cases h _ hc

/-- Reading the digits of a number gives it back. -/
theorem ofDigits_digits (n : Nat) : ofDigits (digits n) = n := Nat.ofDigitChars_ten_toDigits

/-- Leading zeros do not count. -/
theorem ofDigits_padded (width n : Nat) : ofDigits (padded width n) = n := by
  rw [padded, ofDigits, Nat.ofDigitChars_append, Nat.ofDigitChars_replicate_zero, Nat.mul_zero]
  exact ofDigits_digits n

/-- What is written consists of digits. -/
theorem isDigit_of_mem_digits {n : Nat} {c : Char} (h : c ∈ digits n) : c.isDigit = true :=
  Nat.isDigit_of_mem_toDigits (by decide) (by decide) h

/-- There is always a digit. -/
theorem digits_ne_nil (n : Nat) : digits n ≠ [] := Nat.toDigits_ne_nil

/-- A number with fewer digits than the width is written in that width. -/
theorem length_padded {width n : Nat} (hwidth : 0 < width) (hn : n < Nat.pow 10 width) :
    (padded width n).length = width := by
  have hlength : (digits n).length ≤ width := (Nat.length_toDigits_le_iff (by decide) hwidth).2 hn
  rw [padded, List.length_append, List.length_replicate]
  omega

theorem isDigit_of_mem_padded {width n : Nat} {c : Char} (h : c ∈ padded width n) :
    c.isDigit = true := by
  rcases List.mem_append.1 h with h | h
  · rw [List.eq_of_mem_replicate h]
    decide
  · exact isDigit_of_mem_digits h

theorem padded_ne_nil (width n : Nat) : padded width n ≠ [] := by
  intro h
  exact digits_ne_nil n (List.append_eq_nil_iff.1 h).2

/-- A number with leading zeros begins with a digit. -/
theorem exists_padded (width n : Nat) :
    ∃ c rest, padded width n = c :: rest ∧ c.isDigit = true := by
  obtain ⟨c, rest, h⟩ := List.exists_cons_of_ne_nil (padded_ne_nil width n)
  exact ⟨c, rest, h, isDigit_of_mem_padded (h ▸ List.mem_cons_self)⟩

end SqlFilter.Numeral
