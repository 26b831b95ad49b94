import SqlFilter.Expression.Argument

/-!
# Wildcards of raw literals

A star at either end of a raw literal becomes a wildcard, with one exception: behind a date and the
letter T anything belongs to the literal, a star at the end too.

* `Argument.IsDate` says that a text is a date in digits with a given rest behind it, and
  `Argument.IsDated` that the rest begins with the letter T;
* `Argument.star_not_mem_of_looksLikeSpan` and `Argument.star_not_mem_of_looksLikeNumber`: spans and
  numbers hold no star at all;
* `Argument.looksLikeDateTime_iff` describes what is taken for a date.

The main statement is `Argument.infer_stars`; `Argument.star_behind_time` is the exception.
-/

namespace SqlFilter.Argument

/-- The text is a date, with four digits for the year and two each for the month and the day, and
`rest` behind it. -/
def IsDate (raw rest : Text) : Prop :=
  ∃ year month day : Text, (year.length = 4 ∧ month.length = 2 ∧ day.length = 2) ∧
    (∀ c ∈ year ++ month ++ day, c.isDigit = true) ∧
    raw = year ++ '-' :: month ++ '-' :: day ++ rest

/-- The text is a date with the letter T and any text behind it. -/
def IsDated (raw : Text) : Prop := ∃ rest, IsDate raw ('T' :: rest)

variable {raw : Text}

/-! ## Shapes -/

/-- A text with the shape of a span is a sign, the letter P and characters of spans. -/
theorem exists_of_looksLikeSpan (h : looksLikeSpan raw = true) :
    ∃ sign body, raw = sign ++ 'P' :: body ∧ (sign = [] ∨ sign = ['-'] ∨ sign = ['+']) ∧
      ∀ c ∈ body, isSpanChar c = true := by
  obtain ⟨sign, hraw, hsign, -⟩ := Numeral.exists_sign raw
  unfold looksLikeSpan at h
  split at h
  · rename_i body hbody
    rw [Bool.and_eq_true, List.all_eq_true] at h
    rw [hbody] at hraw
    exact ⟨sign, body, hraw, hsign, h.2⟩
  · cases h

/-- There is no star in a text with the shape of a span. -/
theorem star_not_mem_of_looksLikeSpan (h : looksLikeSpan raw = true) : '*' ∉ raw := by
  obtain ⟨sign, body, rfl, hsign, hbody⟩ := exists_of_looksLikeSpan h
  intro hstar
  rcases List.mem_append.1 hstar with hstar | hstar
  · rcases hsign with rfl | rfl | rfl <;> revert hstar <;> decide
  · rcases List.mem_cons.1 hstar with hstar | hstar
    · cases hstar
    · exact absurd (hbody _ hstar) (by decide)

/-- There is no star in a text with the shape of a number. -/
theorem star_not_mem_of_looksLikeNumber (h : looksLikeNumber raw = true) : '*' ∉ raw := by
  obtain ⟨sign, hraw, hsign, -⟩ := Numeral.exists_sign raw
  unfold looksLikeNumber at h
  split at h
  · cases h
  · rename_i first rest hbody
    rw [Bool.and_eq_true, Option.isSome_iff_exists] at h
    obtain ⟨x, hread⟩ := h.2
    obtain ⟨d, hd, -⟩ := Option.bind_eq_some_iff.1 hread
    rw [hbody] at hraw
    intro hstar
    rw [hraw] at hstar
    rcases List.mem_append.1 hstar with hstar | hstar
    · exact absurd (Decimal.isNumeralChar_of_mem_sign hsign hstar) (by decide)
    · exact absurd (Decimal.isNumeralChar_of_read? hd _ hstar) (by decide)

/-- The shape of a date is that of a date with nothing or the letter T behind it. -/
theorem looksLikeDateTime_iff :
    looksLikeDateTime raw = true ↔ ∃ rest, IsDate raw rest ∧ ∀ c ∈ rest.head?, c = 'T' := by
  constructor
  · intro h
    unfold looksLikeDateTime at h
    split at h
    · rename_i y₁ y₂ y₃ y₄ m₁ m₂ d₁ d₂ rest
      rw [Bool.and_eq_true, List.all_eq_true] at h
      refine ⟨rest, ⟨[y₁, y₂, y₃, y₄], [m₁, m₂], [d₁, d₂], ⟨rfl, rfl, rfl⟩, h.1, rfl⟩, ?_⟩
      intro c hc
      cases rest with
      | nil => cases hc
      | cons first more =>
          cases hc
          simpa using h.2
    · cases h
  · rintro ⟨rest, ⟨year, month, day, ⟨hyear, hmonth, hday⟩, hdigits, rfl⟩, hrest⟩
    match year, month, day, hyear, hmonth, hday with
    | [y₁, y₂, y₃, y₄], [m₁, m₂], [d₁, d₂], _, _, _ =>
      have hall := List.all_eq_true.2 hdigits
      simp only [List.cons_append, List.nil_append, looksLikeDateTime] at hall ⊢
      rw [hall]
      cases rest with
      | nil => rfl
      | cons first more => simpa using hrest first rfl

/-- A date begins with a digit. -/
theorem IsDate.head? {rest : Text} (h : IsDate raw rest) :
    ∃ c, raw.head? = some c ∧ c.isDigit = true := by
  obtain ⟨year, month, day, ⟨hyear, -, -⟩, hdigits, rfl⟩ := h
  cases year with
  | nil => cases hyear
  | cons y year => exact ⟨y, rfl, hdigits y (by simp)⟩

/-- A date with nothing behind it ends with a digit. -/
theorem IsDate.getLast? (h : IsDate raw []) : ∃ c, raw.getLast? = some c ∧ c.isDigit = true := by
  obtain ⟨year, month, day, ⟨-, -, hday⟩, hdigits, rfl⟩ := h
  match day, hday with
  | [d₁, d₂], _ =>
    have hlast : year ++ '-' :: month ++ '-' :: [d₁, d₂] ++ [] =
        (year ++ '-' :: month ++ ['-', d₁]) ++ [d₂] := by simp
    rw [hlast, List.getLast?_concat]
    exact ⟨d₂, rfl, hdigits d₂ (by simp)⟩

/-- A dated text has the shape of a date, and a text with that shape that ends with a star is
dated. -/
theorem looksLikeDateTime_of_isDated (h : IsDated raw) : looksLikeDateTime raw = true := by
  obtain ⟨rest, hrest⟩ := h
  refine looksLikeDateTime_iff.2 ⟨_, hrest, ?_⟩
  intro c hc
  cases hc
  rfl

theorem isDated_of_star (h : looksLikeDateTime raw = true) (hstar : raw.getLast? = some '*') :
    IsDated raw := by
  obtain ⟨rest, hdate, hrest⟩ := looksLikeDateTime_iff.1 h
  cases rest with
  | nil =>
      obtain ⟨c, hc, hdigit⟩ := hdate.getLast?
      rw [hstar] at hc
      cases hc
      cases hdigit
  | cons first more =>
      rw [hrest first rfl] at hdate
      exact ⟨more, hdate⟩

/-! ## Stars at the ends -/

/-- A star is cut off the front if there is one, and nothing else is. -/
theorem cutLeadingStar_spec (t : Text) :
    ((cutLeadingStar t).1 = true ↔ t.head? = some '*') ∧
      t = (if (cutLeadingStar t).1 then ['*'] else []) ++ (cutLeadingStar t).2 := by
  unfold cutLeadingStar
  split
  · simp
  · rename_i hother
    refine ⟨?_, rfl⟩
    cases t with
    | nil => simp
    | cons c rest =>
        have hc : c ≠ '*' := by
          rintro rfl
          exact hother rest rfl
        simpa using hc

/-- A star is cut off the end if there is one, and nothing else is. -/
theorem cutTrailingStar_spec (t : Text) :
    ((cutTrailingStar t).1 = true ↔ t.getLast? = some '*') ∧
      t = (cutTrailingStar t).2 ++ (if (cutTrailingStar t).1 then ['*'] else []) := by
  unfold cutTrailingStar
  split
  · rename_i hlast
    obtain ⟨front, rfl⟩ := List.getLast?_eq_some_iff.1 hlast
    simp
  · rename_i hother
    have hlast : t.getLast? ≠ some '*' := fun h => hother h
    simp [hlast]

/-- What is left of a text without a star in front ends with a star if the text does and is not a
lone star. -/
theorem getLast?_cutLeadingStar (t : Text) :
    (cutLeadingStar t).2.getLast? = some '*' ↔ t.getLast? = some '*' ∧ t ≠ ['*'] := by
  unfold cutLeadingStar
  split
  · rename_i rest
    cases rest with
    | nil => simp
    | cons c rest => simp [List.getLast?_cons_cons]
  · rename_i hother
    have hlone : t ≠ ['*'] := fun h => hother [] h
    simp [hlone]

/-! ## Classification -/

/-- Whether a text has one of the shapes that are told apart from plain text. -/
def HasShape (raw : Text) : Prop :=
  looksLikeSpan raw = true ∨ looksLikeDateTime raw = true ∨ looksLikeNumber raw = true

/-- A literal with a shape is taken as it is. -/
theorem infer_of_hasShape (h : HasShape raw) :
    (infer raw).literal = raw ∧ (infer raw).leading = false ∧ (infer raw).trailing = false := by
  unfold infer
  split
  · exact ⟨rfl, rfl, rfl⟩
  split
  · exact ⟨rfl, rfl, rfl⟩
  split
  · exact ⟨rfl, rfl, rfl⟩
  · rename_i hspan hdate hnumber
    rcases h with h | h | h
    · exact absurd h hspan
    · exact absurd h hdate
    · exact absurd h hnumber

/-- A literal without a shape is text between its stars. -/
theorem infer_of_not_hasShape (h : ¬ HasShape raw) :
    infer raw =
      { literal := (cutTrailingStar (cutLeadingStar raw).2).2, kind := .text
        leading := (cutLeadingStar raw).1
        trailing := (cutTrailingStar (cutLeadingStar raw).2).1 } := by
  obtain ⟨hspan, hdate, hnumber⟩ : ¬ looksLikeSpan raw = true ∧ ¬ looksLikeDateTime raw = true ∧
      ¬ looksLikeNumber raw = true := by
    rw [HasShape, not_or, not_or] at h
    exact h
  rw [infer, if_neg hspan, if_neg hdate, if_neg hnumber]

/-- A text with a shape does not begin with a star. -/
theorem head?_ne_of_hasShape (h : HasShape raw) : raw.head? ≠ some '*' := by
  intro hstar
  have hmem : '*' ∈ raw := List.mem_of_mem_head? hstar
  rcases h with h | h | h
  · exact star_not_mem_of_looksLikeSpan h hmem
  · obtain ⟨rest, hdate, -⟩ := looksLikeDateTime_iff.1 h
    obtain ⟨c, hc, hdigit⟩ := hdate.head?
    rw [hstar] at hc
    cases hc
    cases hdigit
  · exact star_not_mem_of_looksLikeNumber h hmem

/-- Only a dated text with a shape can end with a star. -/
theorem isDated_of_hasShape (h : HasShape raw) (hstar : raw.getLast? = some '*') :
    IsDated raw := by
  have hmem : '*' ∈ raw := List.mem_of_getLast? hstar
  rcases h with h | h | h
  · exact absurd hmem (star_not_mem_of_looksLikeSpan h)
  · exact isDated_of_star h hstar
  · exact absurd hmem (star_not_mem_of_looksLikeNumber h)

/-- A text with the shape of a date has not that of a span. -/
theorem not_looksLikeSpan_of_looksLikeDateTime (h : looksLikeDateTime raw = true) :
    ¬ looksLikeSpan raw = true := by
  intro hspan
  obtain ⟨rest, hdate, -⟩ := looksLikeDateTime_iff.1 h
  obtain ⟨c, hc, hdigit⟩ := hdate.head?
  -- a span begins with a sign or with the letter P
  obtain ⟨sign, body, rfl, hsign, -⟩ := exists_of_looksLikeSpan hspan
  rcases hsign with rfl | rfl | rfl <;> cases hc <;> cases hdigit

/-- A text with the shape of a date is taken for one, as it is. -/
theorem infer_of_looksLikeDateTime (h : looksLikeDateTime raw = true) :
    infer raw = { literal := raw, kind := .dateTime } := by
  rw [infer, if_neg (not_looksLikeSpan_of_looksLikeDateTime h), if_pos h]

theorem infer_of_isDated (h : IsDated raw) : infer raw = { literal := raw, kind := .dateTime } :=
  infer_of_looksLikeDateTime (looksLikeDateTime_of_isDated h)

/-- A literal that has been classified is written with its stars as it was before. -/
theorem print_infer (raw : Text) : (infer raw).print = raw := by
  by_cases h : HasShape raw
  · obtain ⟨hliteral, hleading, htrailing⟩ := infer_of_hasShape h
    simp [print, hliteral, hleading, htrailing]
  · have hfront := (cutLeadingStar_spec raw).2
    have hend := (cutTrailingStar_spec (cutLeadingStar raw).2).2
    rw [infer_of_not_hasShape h, print, List.append_assoc, ← hend, ← hfront]

theorem leading_infer (raw : Text) : (infer raw).leading = true ↔ raw.head? = some '*' := by
  by_cases h : HasShape raw
  · simp [(infer_of_hasShape h).2.1, head?_ne_of_hasShape h]
  · rw [infer_of_not_hasShape h]
    exact (cutLeadingStar_spec raw).1

theorem trailing_infer (raw : Text) :
    (infer raw).trailing = true ↔ raw.getLast? = some '*' ∧ raw ≠ ['*'] ∧ ¬ IsDated raw := by
  by_cases h : HasShape raw
  · rw [(infer_of_hasShape h).2.2]
    constructor
    · intro hfalse
      cases hfalse
    · rintro ⟨hstar, -, hdated⟩
      exact absurd (isDated_of_hasShape h hstar) hdated
  · have hdated : ¬ IsDated raw :=
      fun hdated => h (.inr (.inl (looksLikeDateTime_of_isDated hdated)))
    rw [infer_of_not_hasShape h, ← and_assoc, ← getLast?_cutLeadingStar]
    simpa [hdated] using (cutTrailingStar_spec (cutLeadingStar raw).2).1

/-- **Stars become wildcards.**  A star in front of a raw literal always does, and one at the end
does unless it is the one in front or the literal is dated.  Nothing else is taken off the literal.
A dated literal is a date as it stands. -/
theorem infer_stars (raw : Text) :
    ((infer raw).leading = true ↔ raw.head? = some '*') ∧
      ((infer raw).trailing = true ↔
        raw.getLast? = some '*' ∧ raw ≠ ['*'] ∧ ¬ IsDated raw) ∧
      raw = (if (infer raw).leading then ['*'] else []) ++ (infer raw).literal ++
        (if (infer raw).trailing then ['*'] else []) ∧
      (IsDated raw → infer raw = { literal := raw, kind := .dateTime }) :=
  ⟨leading_infer raw, trailing_infer raw, (print_infer raw).symm, infer_of_isDated⟩

/-- A star behind the letter T of a date is no wildcard. -/
theorem star_behind_time :
    "2022-09-16T*".toList.getLast? = some '*' ∧ "2022-09-16T*".toList ≠ ['*'] ∧
      infer "2022-09-16T*".toList =
        { literal := "2022-09-16T*".toList, kind := .dateTime, trailing := false } ∧
      ¬ ∀ raw, (infer raw).trailing = true ↔ raw.getLast? = some '*' ∧ raw ≠ ['*'] := by
  refine ⟨by decide, by decide, by decide, ?_⟩
  intro h
  exact absurd ((h "2022-09-16T*".toList).2 ⟨by decide, by decide⟩) (by decide)

end SqlFilter.Argument
