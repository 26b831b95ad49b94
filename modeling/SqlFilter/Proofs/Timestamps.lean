import SqlFilter.Proofs.Fitting
import SqlFilter.Proofs.InstantText
import SqlFilter.Proofs.Wildcards

/-!
# Written times

An instant can be written as the date and time of a clock of universal time, with the letter Z or
without it, as those of a clock elsewhere with its offset, and, at midnight, as a date.  Each of
these literals is classified as a date and converted to that instant.

* `ClockTime.printWith` is date and time with a given fraction of the second, of up to nine digits;
* `Time.printOffset` is an offset in hours and minutes;
* `Instant.readStrict?_printWith`, `Instant.readLocal?_printWith` and `Instant.readDate?_print` are
  what the three readers find in these texts;
* `Argument.Denotes` says of a raw literal which instant it stands for.

The main statement is `Argument.timestamps_read_back`.
-/

namespace SqlFilter

/-! ## Texts -/

/-- Date and time in writing, with a given fraction of the second. -/
def ClockTime.printWith (c : ClockTime) (fraction : Text) : Text :=
  c.date.print ++ 'T' :: Numeral.padded 2 c.hour ++ ':' :: Numeral.padded 2 c.minute ++
    ':' :: Numeral.padded 2 c.second ++ fraction

/-- An offset from universal time in writing. -/
def Time.printOffset (negative : Bool) (hours minutes : Nat) : Text :=
  (if negative then '-' else '+') :: Numeral.padded 2 hours ++ ':' :: Numeral.padded 2 minutes

/-- Whether a year is written with four digits. -/
def IsShortYear (year : Int) : Prop := 0 ≤ year ∧ year ≤ 9999

instance (year : Int) : Decidable (IsShortYear year) :=
  inferInstanceAs (Decidable (0 ≤ year ∧ year ≤ 9999))

theorem IsShortYear.firstYear_le {year : Int} (h : IsShortYear year) : firstYear ≤ year := by
  unfold IsShortYear at h
  unfold firstYear
  omega

theorem IsShortYear.le_lastYear {year : Int} (h : IsShortYear year) : year ≤ lastYear := by
  unfold IsShortYear at h
  unfold lastYear
  omega

theorem IsShortYear.natAbs_lt {year : Int} (h : IsShortYear year) : year.natAbs < 10000 := by
  unfold IsShortYear at h
  omega

/-! ## Readers of parts -/

namespace Time
open Numeral

variable {width n : Nat} {rest : Text}

/-- A number of fixed width is read back, whatever follows. -/
theorem fixedDigits_padded (hwidth : 0 < width) (hn : n < Nat.pow 10 width) :
    fixedDigits width (padded width n ++ rest) = some (n, rest) := by
  have hlength := length_padded hwidth hn
  have hdigits : (padded width n).all Char.isDigit = true :=
    List.all_eq_true.2 fun c hc => isDigit_of_mem_padded hc
  simp only [fixedDigits, List.take_left' hlength, List.drop_left' hlength, hlength, hdigits,
    ofDigits_padded, and_self, if_true]

theorem fixedDigits_two (hn : n < 100) : fixedDigits 2 (padded 2 n ++ rest) = some (n, rest) :=
  fixedDigits_padded (by decide) hn

/-- A year of four digits is written as a number. -/
theorem printYear_of_isShortYear {year : Int} (h : IsShortYear year) :
    printYear year = padded 4 year.natAbs := if_pos h

/-- A year of four digits is read back as a number. -/
theorem fixedDigits_printYear {year : Int} (h : IsShortYear year) :
    fixedDigits 4 (printYear year ++ rest) = some (year.natAbs, rest) := by
  rw [printYear_of_isShortYear h]
  exact fixedDigits_padded (by decide) h.natAbs_lt

/-- A written offset is read back. -/
theorem offset_printOffset {negative : Bool} {hours minutes : Nat} (hhours : hours ≤ 23)
    (hminutes : minutes ≤ 59) :
    offset (expect ':') (printOffset negative hours minutes) =
      some (withSign negative (hours * 60 + minutes), []) := by
  have hsign : ∀ rest : Text, offsetSign ((if negative then '-' else '+') :: rest) =
      some (negative, rest) := by
    intro rest
    cases negative <;> rfl
  have hhour : ∀ rest : Text, fixedDigits 2 (padded 2 hours ++ rest) = some (hours, rest) :=
    fun _ => fixedDigits_two (by omega)
  have hminute : fixedDigits 2 (padded 2 minutes) = some (minutes, []) := by
    rw [← List.append_nil (padded 2 minutes)]
    exact fixedDigits_two (by omega)
  have hread : signedOffset (expect ':') (printOffset negative hours minutes) =
      some (withSign negative (hours * 60 + minutes), []) := by
    simp only [signedOffset, printOffset, List.cons_append, hsign, hhour, expect_cons, hminute,
      Option.bind_eq_bind, Option.bind_some, if_pos (And.intro hhours hminutes)]
    rfl
  -- neither sign is the letter Z
  rw [← hread]
  cases negative <;> rfl

/-- Without a sign or the letter Z there is no offset. -/
theorem offset_nil : offset (expect ':') [] = none := rfl

end Time

/-! ## Readers of whole texts -/

namespace Instant
open Time Numeral

variable {c : ClockTime} {d : Date} {written suffix : Text}

/-- What the strict reader finds in a date and time depends on the offset that follows. -/
theorem readStrict?_printWith (hvalid : c.isValid = true) (hyear : IsShortYear c.date.year)
    (hwritten : IsFraction c.nanos written) (hdigit : ∀ ch ∈ suffix.head?, ch.isDigit = false)
    (hpoint : ∀ ch ∈ suffix.head?, ch ≠ '.') :
    readStrict? (c.printWith written ++ suffix) =
      (offset (expect ':') suffix).bind fun (shift, rest) =>
        if rest = [] then c.toInstant? shift else none := by
  obtain ⟨hdate, -, -, hhour, hminute, hsecond⟩ := ClockTime.isValid_iff.1 hvalid
  obtain ⟨hmonth, hday⟩ := Date.le_of_isValid hdate
  have hcast : (c.date.year.natAbs : Int) = c.date.year := Int.natAbs_of_nonneg hyear.1
  simp only [readStrict?, ClockTime.printWith, Date.print, List.append_assoc, List.cons_append,
    fixedDigits_printYear hyear, expect_cons, expectOneOf_T,
    fixedDigits_two (show c.date.month < 100 by omega),
    fixedDigits_two (show c.date.day < 100 by omega), fixedDigits_two (show c.hour < 100 by omega),
    fixedDigits_two (show c.minute < 100 by omega), fixedDigits_two (show c.second < 100 by omega),
    fraction_of_isFraction hwritten hdigit hpoint, Option.bind_eq_bind, Option.bind_some, hcast]

/-- What the reader of local times finds in a date and time. -/
theorem readLocal?_printWith (hvalid : c.isValid = true) (hwritten : IsFraction c.nanos written) :
    readLocal? (c.printWith written) = c.toInstant? 0 := by
  obtain ⟨hdate, -, -, hhour, hminute, hsecond⟩ := ClockTime.isValid_iff.1 hvalid
  obtain ⟨hmonth, hday⟩ := Date.le_of_isValid hdate
  have hfraction : fraction written = some (c.nanos, []) := by
    rw [← List.append_nil written]
    exact fraction_of_isFraction hwritten (by simp) (by simp)
  simp only [readLocal?, ClockTime.printWith, Date.print, List.append_assoc, List.cons_append,
    freeYear_printYear_hyphen, expect_cons, freeNumber_padded (show c.date.month < 100 by omega),
    freeNumber_padded (show c.date.day < 100 by omega),
    freeNumber_padded (show c.hour < 100 by omega),
    freeNumber_padded (show c.minute < 100 by omega),
    freeNumber_padded (show c.second < 100 by omega), hfraction, Option.bind_eq_bind,
    Option.bind_some, if_true]

/-- The strict reader finds no time behind a date. -/
theorem readStrict?_print (hvalid : d.isValid = true) (hyear : IsShortYear d.year) :
    readStrict? d.print = none := by
  obtain ⟨hmonth, hday⟩ := Date.le_of_isValid hvalid
  rw [← List.append_nil d.print]
  simp only [readStrict?, Date.print, List.append_assoc, List.cons_append,
    fixedDigits_printYear hyear, expect_cons, fixedDigits_two (show d.month < 100 by omega),
    fixedDigits_two (show d.day < 100 by omega), Option.bind_eq_bind, Option.bind_some]
  rfl

/-- The reader of local times finds no time behind a date. -/
theorem readLocal?_print (hvalid : d.isValid = true) : readLocal? d.print = none := by
  obtain ⟨hmonth, hday⟩ := Date.le_of_isValid hvalid
  rw [← List.append_nil d.print]
  simp only [readLocal?, Date.print, List.append_assoc, List.cons_append,
    freeYear_printYear_hyphen, expect_cons, freeNumber_padded (show d.month < 100 by omega),
    freeNumber_padded (show d.day < 100 by omega), Option.bind_eq_bind, Option.bind_some]
  rfl

/-- The reader of dates takes a date for its midnight. -/
theorem readDate?_print (hvalid : d.isValid = true) :
    readDate? d.print = ClockTime.toInstant? ⟨d, 0, 0, 0, 0⟩ 0 := by
  obtain ⟨hmonth, hday⟩ := Date.le_of_isValid hvalid
  rw [← List.append_nil d.print]
  simp only [readDate?, Date.print, List.append_assoc, List.cons_append,
    freeYear_printYear_hyphen, expect_cons, freeNumber_padded (show d.month < 100 by omega),
    freeNumber_padded (show d.day < 100 by omega), Option.bind_eq_bind, Option.bind_some, if_true]

end Instant

namespace Argument
open Time Instant

/-- The raw literal is classified as a date and converted to the instant. -/
def Denotes (raw : Text) (t : Instant) : Prop :=
  (infer raw).kind = .dateTime ∧ (infer raw).toInstant = .ok t

/-- A date in writing with anything behind it. -/
theorem isDate_print {d : Date} (hvalid : d.isValid = true) (hyear : IsShortYear d.year)
    (rest : Text) : IsDate (d.print ++ rest) rest := by
  obtain ⟨hmonth, hday⟩ := Date.le_of_isValid hvalid
  have hfour := hyear.natAbs_lt
  refine ⟨Numeral.padded 4 d.year.natAbs, Numeral.padded 2 d.month, Numeral.padded 2 d.day,
    ⟨?_, ?_, ?_⟩, ?_, ?_⟩
  · exact Numeral.length_padded (by decide) hfour
  · exact Numeral.length_padded (by decide) (show d.month < 100 by omega)
  · exact Numeral.length_padded (by decide) (show d.day < 100 by omega)
  · intro c hc
    simp only [List.mem_append] at hc
    rcases hc with (hc | hc) | hc <;> exact Numeral.isDigit_of_mem_padded hc
  · simp [Date.print, printYear_of_isShortYear hyear]

/-- A text with the shape of a date denotes the instant that is read. -/
theorem denotes_of_read? {raw : Text} {t : Instant} (hshape : looksLikeDateTime raw = true)
    (hread : Instant.read? raw = some t) : Denotes raw t := by
  rw [Denotes, infer_of_looksLikeDateTime hshape]
  exact ⟨rfl, converted_eq_ok_iff.2 hread⟩

variable {c : ClockTime} {written suffix : Text} {t : Instant}

theorem looksLikeDateTime_printWith (hvalid : c.isValid = true) (hyear : IsShortYear c.date.year) :
    looksLikeDateTime (c.printWith written ++ suffix) = true := by
  apply looksLikeDateTime_of_isDated
  refine ⟨Numeral.padded 2 c.hour ++ ':' :: Numeral.padded 2 c.minute ++
    ':' :: Numeral.padded 2 c.second ++ written ++ suffix, ?_⟩
  have h := isDate_print (ClockTime.isValid_iff.1 hvalid).1 hyear
    ('T' :: (Numeral.padded 2 c.hour ++ ':' :: Numeral.padded 2 c.minute ++
      ':' :: Numeral.padded 2 c.second ++ written ++ suffix))
  simpa [ClockTime.printWith] using h

/-- Date and time of a clock, followed by what it is ahead of universal time, denote the instant
that the clock tells. -/
theorem denotes_printWith {offsetMinutes : Int} (hvalid : c.isValid = true)
    (hyear : IsShortYear c.date.year) (hwritten : IsFraction c.nanos written)
    (hdigit : ∀ ch ∈ suffix.head?, ch.isDigit = false) (hpoint : ∀ ch ∈ suffix.head?, ch ≠ '.')
    (hoffset : offset (expect ':') suffix = some (offsetMinutes, []))
    (ht : c.toInstant? offsetMinutes = some t) : Denotes (c.printWith written ++ suffix) t := by
  apply denotes_of_read? (looksLikeDateTime_printWith hvalid hyear)
  have hstrict : readStrict? (c.printWith written ++ suffix) = some t := by
    rw [readStrict?_printWith hvalid hyear hwritten hdigit hpoint, hoffset, ← ht]
    rfl
  rw [Instant.read?, hstrict]
  rfl

/-- Date and time of a clock of universal time denote the instant that it tells. -/
theorem denotes_printWith_local (hvalid : c.isValid = true) (hyear : IsShortYear c.date.year)
    (hwritten : IsFraction c.nanos written) (ht : c.toInstant? 0 = some t) :
    Denotes (c.printWith written) t := by
  rw [← List.append_nil (c.printWith written)]
  apply denotes_of_read? (looksLikeDateTime_printWith hvalid hyear)
  rw [Instant.read?, readStrict?_printWith hvalid hyear hwritten (by simp) (by simp), offset_nil,
    List.append_nil, readLocal?_printWith hvalid hwritten, ht]
  rfl

/-- A date denotes the instant that a clock of universal time tells at its midnight. -/
theorem denotes_print {d : Date} (hvalid : d.isValid = true) (hyear : IsShortYear d.year)
    (ht : ClockTime.toInstant? ⟨d, 0, 0, 0, 0⟩ 0 = some t) : Denotes d.print t := by
  have hshape := isDate_print hvalid hyear []
  rw [List.append_nil] at hshape
  apply denotes_of_read? (looksLikeDateTime_iff.2 ⟨[], hshape, by simp⟩)
  rw [Instant.read?, readStrict?_print hvalid hyear, readLocal?_print hvalid,
    readDate?_print hvalid, ht]
  rfl

/-- **Written times denote their instants.**  An instant in a year of four digits is denoted by its
date and time, however many digits its fraction is written with, with the letter Z or without it; by
the date and time of a clock elsewhere with its offset, if the year has four digits there too; and
by its date if it is midnight. -/
theorem timestamps_read_back (t : Instant) (written : Text)
    (hyear : IsShortYear t.clockTime.date.year) (hwritten : IsFraction t.clockTime.nanos written) :
    Denotes (t.clockTime.printWith written ++ ['Z']) t ∧
      Denotes (t.clockTime.printWith written) t ∧
      (∀ (negative : Bool) (hours minutes : Nat) (clock : ClockTime), hours ≤ 23 → minutes ≤ 59 →
        clock = t.localTime (Numeral.withSign negative (hours * 60 + minutes)) →
        IsShortYear clock.date.year →
          Denotes (clock.printWith written ++ printOffset negative hours minutes) t) ∧
      (t.clockTime = ⟨t.clockTime.date, 0, 0, 0, 0⟩ → Denotes t.clockTime.date.print t) := by
  have hvalid := t.isValid_clockTime
  have htells := t.toInstant?_clockTime
  refine ⟨?_, ?_, ?_, ?_⟩
  · apply denotes_printWith hvalid hyear hwritten _ _ rfl htells
    · rintro _ ⟨⟩
      rfl
    · rintro _ ⟨⟩
      decide
  · exact denotes_printWith_local hvalid hyear hwritten htells
  · rintro negative hours minutes _ hhours hminutes rfl hlocal
    have hclock := t.isValid_localTime (Numeral.withSign negative (hours * 60 + minutes))
      hlocal.firstYear_le hlocal.le_lastYear
    apply denotes_printWith hclock hlocal hwritten _ _ (offset_printOffset hhours hminutes)
      (t.toInstant?_localTime _ hclock)
    · rintro _ ⟨⟩
      cases negative <;> rfl
    · rintro _ ⟨⟩
      cases negative <;> decide
  · intro hmidnight
    rw [hmidnight] at htells
    exact denotes_print (ClockTime.isValid_iff.1 hvalid).1 hyear htells

/-- Half a second before the end of a leap day. -/
def leapEvening : Instant := ⟨1709251199, 500000000, by decide⟩

/-- The midnight at the end of a leap day. -/
def leapMidnight : Instant := ⟨1709251200, 0, by decide⟩

/-- The evening of a leap day in four ways; half an hour further east it is the next day. -/
theorem timestamps_read_back_leap_day :
    Denotes "2024-02-29T23:59:59.50Z".toList leapEvening ∧
      Denotes "2024-02-29T23:59:59.50".toList leapEvening ∧
      Denotes "2024-03-01T00:29:59.50+00:30".toList leapEvening ∧
      Denotes "2024-03-01".toList leapMidnight := by
  have hhalf : IsFraction leapEvening.clockTime.nanos ".50".toList :=
    .inr ⟨2, 50, by decide, by decide, by decide, by decide +kernel, by decide +kernel⟩
  obtain ⟨huniversal, hlocal, helsewhere, -⟩ :=
    timestamps_read_back leapEvening ".50".toList (by decide +kernel) hhalf
  obtain ⟨-, -, -, hmidnight⟩ :=
    timestamps_read_back leapMidnight [] (by decide +kernel) (.inl ⟨by decide +kernel, rfl⟩)
  have hevening : leapEvening.clockTime.printWith ".50".toList =
      "2024-02-29T23:59:59.50".toList := by decide +kernel
  have heast : (leapEvening.localTime 30).printWith ".50".toList ++ printOffset false 0 30 =
      "2024-03-01T00:29:59.50+00:30".toList := by decide +kernel
  have hdate : leapMidnight.clockTime.date.print = "2024-03-01".toList := by decide +kernel
  rw [hevening] at huniversal hlocal
  have hnext := helsewhere false 0 30 (leapEvening.localTime 30) (by decide) (by decide) rfl
    (by decide +kernel)
  rw [heast] at hnext
  have hbare := hmidnight (by decide +kernel)
  rw [hdate] at hbare
  exact ⟨huniversal, hlocal, hnext, hbare⟩

end Argument
end SqlFilter
