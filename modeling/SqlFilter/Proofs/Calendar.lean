import SqlFilter.Time.Calendar

/-!
# Days and dates

Each day has a date of the calendar, and that date has the number of the day.

* `Date.toDay_ofDay`: the number of a day's date is the day;
* `Date.isValid_ofDay`: the calendar has the date of every day;
* `Date.year_ofDay_lt` and `Date.le_year_ofDay`: the days before a year, and those from its first
  day on, are told by their dates.
-/

namespace SqlFilter

/-! ## Spans laid end to end -/

/-- A day of spans laid end to end is in one of them, behind the spans before it. -/
theorem locate_spec :
    ∀ {lengths : List Nat} {n : Nat}, n < lengths.foldl (· + ·) 0 →
      (∃ length, lengths[(locate lengths n).1]? = some length ∧ (locate lengths n).2 < length) ∧
        (lengths.take (locate lengths n).1).foldl (· + ·) 0 + (locate lengths n).2 = n := by
  simp only [← List.sum_eq_foldl_nat]
  intro lengths
  induction lengths with
  | nil =>
      intro n h
      exact absurd h (Nat.not_lt_zero n)
  | cons length rest ih =>
      intro n h
      rw [List.sum_cons] at h
      by_cases hn : n < length
      · simp [locate, hn]
      · have hrest : n - length < rest.sum := by omega
        obtain ⟨hplace, hsum⟩ := ih hrest
        simp only [locate, if_neg hn]
        refine ⟨by simpa using hplace, ?_⟩
        rw [List.take_succ_cons, List.sum_cons]
        omega

theorem sum_monthLengths (leap : Bool) :
    (monthLengths leap).foldl (· + ·) 0 = 365 + if leap then 1 else 0 := by
  cases leap <;> rfl

theorem length_monthLengths (leap : Bool) : (monthLengths leap).length = 12 := rfl

theorem le_of_mem_monthLengths {leap : Bool} {length : Nat} (h : length ∈ monthLengths leap) :
    length ≤ 31 := by
  revert h
  revert length
  cases leap <;> decide

/-! ## Years -/

theorem isLeapYear_iff {year : Int} :
    isLeapYear year = true ↔ year % 4 = 0 ∧ (year % 100 ≠ 0 ∨ year % 400 = 0) := by
  simp [isLeapYear]

/-- A year has 365 days, and a leap year one more. -/
theorem daysBeforeYear_succ (year : Int) :
    daysBeforeYear (year + 1) = daysBeforeYear year + 365 + if isLeapYear year then 1 else 0 := by
  simp only [daysBeforeYear, Int.add_sub_cancel]
  by_cases h : isLeapYear year = true
  · rw [if_pos h]
    rw [isLeapYear_iff] at h
    omega
  · rw [if_neg h]
    rw [isLeapYear_iff] at h
    omega

theorem daysBeforeYear_mono {year year' : Int} (h : year ≤ year') :
    daysBeforeYear year ≤ daysBeforeYear year' := by
  simp only [daysBeforeYear]
  omega

/-- No year has more than 366 days, and only a leap year has so many. -/
theorem Date.yearOfDay_snd_lt (n : Int) :
    (yearOfDay n).2 < 366 ∧ (isLeapYear (yearOfDay n).1 = false → (yearOfDay n).2 < 365) := by
  simp only [yearOfDay]
  generalize n / 146097 = cycle
  have hr : (n % 146097).toNat < 146097 := by omega
  generalize (n % 146097).toNat = r at hr ⊢
  obtain ⟨century, hcentury⟩ : ∃ century, century = min (r / 36524) 3 := ⟨_, rfl⟩
  rw [← hcentury]
  obtain ⟨inCentury, hin⟩ : ∃ inCentury, inCentury = r - century * 36524 := ⟨_, rfl⟩
  rw [← hin]
  obtain ⟨group, hgroup⟩ : ∃ group, group = inCentury / 1461 := ⟨_, rfl⟩
  rw [← hgroup]
  obtain ⟨inGroup, hing⟩ : ∃ inGroup, inGroup = inCentury - group * 1461 := ⟨_, rfl⟩
  rw [← hing]
  obtain ⟨single, hsingle⟩ : ∃ single, single = min (inGroup / 365) 3 := ⟨_, rfl⟩
  rw [← hsingle]
  -- only the last year of a group can have the extra day, and that of the last group of a century
  -- only if the century is the last one
  have hc : century ≤ 3 ∧ inCentury ≤ 36524 ∧ (century < 3 → inCentury < 36524) := by omega
  have hg : group ≤ 24 ∧ inGroup < 1461 ∧ (group = 24 → century < 3 → inGroup < 1460) := by omega
  refine ⟨by omega, ?_⟩
  intro hleap
  rw [Bool.eq_false_iff, ne_eq, isLeapYear_iff] at hleap
  omega

/-- The day within its year is a day of one of the months. -/
theorem Date.yearOfDay_snd_lt_sum (n : Int) :
    (yearOfDay n).2 < (monthLengths (isLeapYear (yearOfDay n).1)).foldl (· + ·) 0 := by
  obtain ⟨hlt, hcommon⟩ := yearOfDay_snd_lt n
  rw [sum_monthLengths]
  cases hleap : isLeapYear (yearOfDay n).1 with
  | true => exact hlt
  | false => exact hcommon hleap

/-! ## Dates -/

namespace Date

/-- There are twelve months, of 31 days at most. -/
theorem le_of_isValid {d : Date} (h : d.isValid = true) : d.month ≤ 12 ∧ d.day ≤ 31 := by
  unfold isValid at h
  rw [Bool.and_eq_true] at h
  cases hlength : (monthLengths (isLeapYear d.year))[d.month - 1]? with
  | none => simp [hlength] at h
  | some length =>
      obtain ⟨hplace, hget⟩ := List.getElem?_eq_some_iff.1 hlength
      rw [length_monthLengths] at hplace
      have hle : length ≤ 31 := le_of_mem_monthLengths (hget ▸ List.getElem_mem _)
      have hday : d.day ≤ length := by simpa [hlength] using h.2
      omega

/-- The parts of the date of a day. -/
theorem ofDay_eq (n : Int) :
    ofDay n =
      ⟨(yearOfDay (n + epochDay)).1,
        (locate (monthLengths (isLeapYear (yearOfDay (n + epochDay)).1))
          (yearOfDay (n + epochDay)).2).1 + 1,
        (locate (monthLengths (isLeapYear (yearOfDay (n + epochDay)).1))
          (yearOfDay (n + epochDay)).2).2 + 1⟩ := by
  -- with the two searches opaque, nothing tries to compute them
  obtain ⟨found, hfound⟩ : ∃ found, yearOfDay (n + epochDay) = found := ⟨_, rfl⟩
  rewrite [ofDay, hfound]
  generalize locate = search
  rfl

/-- The date of a day is numbered by that day. -/
theorem toDay_ofDay (n : Int) : (ofDay n).toDay = n := by
  have hyear := daysBeforeYear_yearOfDay (n + epochDay)
  have hsum := (locate_spec (yearOfDay_snd_lt_sum (n + epochDay))).2
  simp only [ofDay_eq, toDay, Nat.add_sub_cancel, hsum]
  omega

/-- The calendar has a date if the month is long enough. -/
theorem isValid_of_lt {year : Int} {place length day : Nat}
    (hlength : (monthLengths (isLeapYear year))[place]? = some length) (hlt : day < length) :
    isValid ⟨year, place + 1, day + 1⟩ = true := by
  simp [isValid, hlength, Nat.succ_le_of_lt hlt]

/-- The calendar has the date of every day. -/
theorem isValid_ofDay (n : Int) : (ofDay n).isValid = true := by
  obtain ⟨length, hlength, hlt⟩ := (locate_spec (yearOfDay_snd_lt_sum (n + epochDay))).1
  rw [ofDay_eq]
  exact isValid_of_lt hlength hlt

/-- The day of a date is in the year of the date. -/
theorem daysBeforeYear_year_ofDay (n : Int) :
    daysBeforeYear (ofDay n).year ≤ n + epochDay ∧
      n + epochDay < daysBeforeYear ((ofDay n).year + 1) := by
  have hyear := daysBeforeYear_yearOfDay (n + epochDay)
  obtain ⟨hlt, hcommon⟩ := yearOfDay_snd_lt (n + epochDay)
  rw [ofDay_eq]
  dsimp only
  rw [daysBeforeYear_succ]
  refine ⟨by omega, ?_⟩
  split
  · omega
  · rename_i hleap
    have hshort := hcommon (Bool.eq_false_iff.2 hleap)
    omega

/-- A date is not before a year if its day is not before the first day of the year. -/
theorem le_year_ofDay {year n : Int} (h : daysBeforeYear year ≤ n + epochDay) :
    year ≤ (ofDay n).year := by
  refine Int.not_lt.1 ?_
  intro hlt
  have hmono := daysBeforeYear_mono (show (ofDay n).year + 1 ≤ year by omega)
  have hday := (daysBeforeYear_year_ofDay n).2
  omega

/-- A date is before a year if its day is before the first day of the year. -/
theorem year_ofDay_lt {year n : Int} (h : n + epochDay < daysBeforeYear year) :
    (ofDay n).year < year := by
  refine Int.not_le.1 ?_
  intro hle
  have hmono := daysBeforeYear_mono (show year ≤ (ofDay n).year by omega)
  have hday := (daysBeforeYear_year_ofDay n).1
  omega

end Date

end SqlFilter
