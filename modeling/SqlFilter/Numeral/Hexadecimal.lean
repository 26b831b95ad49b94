import SqlFilter.Text.Basic

/-!
# Hexadecimal numbers

* `Numeral.hexDigit?` is the value of a hexadecimal digit of either case;
* `Numeral.hexNumber?` reads a number of a fixed count of such digits;
* `Numeral.character?` is the character with a given code point.

Quoted texts name characters by numbers of this kind.
-/

namespace SqlFilter.Numeral

/-- The value of a hexadecimal digit. -/
def hexDigit? (c : Char) : Option Nat :=
  if '0' ≤ c ∧ c ≤ '9' then some (c.toNat - '0'.toNat)
  else if 'a' ≤ c ∧ c ≤ 'f' then some (c.toNat - 'a'.toNat + 10)
  else if 'A' ≤ c ∧ c ≤ 'F' then some (c.toNat - 'A'.toNat + 10)
  else none

/-- Reads `width` more digits of a number that is `value` so far. -/
def hexDigitsFrom? : Nat → Nat → Text → Option (Nat × Text)
  | 0, value, t => some (value, t)
  | _ + 1, _, [] => none
  | width + 1, value, c :: rest =>
    match hexDigit? c with
    | none => none
    | some digit => hexDigitsFrom? width (16 * value + digit) rest

/-- Reads a number of exactly `width` digits, together with the text that follows. -/
def hexNumber? (width : Nat) (t : Text) : Option (Nat × Text) := hexDigitsFrom? width 0 t

/-- The character with a given code point, if there is one. -/
def character? (code : Nat) : Option Char :=
  if code.isValidChar then some (Char.ofNat code) else none

end SqlFilter.Numeral
