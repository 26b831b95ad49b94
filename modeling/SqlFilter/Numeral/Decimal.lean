import SqlFilter.Numeral.Digits

/-!
# Decimal numerals

A decimal numeral is a sign, a run of digits with at most one point and at least one digit, and an
exponent: `5`, `-.5`, `5.`, `1.5e-7`.  `Decimal` keeps what it says exactly, as a whole number
times a power of ten.

* `Decimal.unsigned?` reads a numeral without a sign, `Decimal.read?` one with or without;
* `Decimal.parts?` finds the digits in front of the point and behind it, `Decimal.exponent?` the
  exponent.

The words for infinity and for no number are no numerals here: every character of a numeral is a
digit, a point, a sign or the mark of an exponent (`Decimal.isNumeralChar_of_read?`).
-/

namespace SqlFilter

/-- The number `± mantissa * 10 ^ exponent`. -/
structure Decimal where
  /-- Whether the numeral has a minus sign; zero may have one too. -/
  negative : Bool
  /-- All digits of the numeral as one whole number. -/
  mantissa : Nat
  /-- The power of ten that the whole number is scaled by. -/
  exponent : Int
  deriving Repr, DecidableEq

namespace Decimal

/-- Reads digits with at most one point and at least one digit: the digits in front of the point,
those behind it, and the text that follows. -/
def parts? (t : Text) : Option (Text × Text × Text) :=
  let (whole, rest) := Text.run Char.isDigit t
  let (part, rest) :=
    match rest with
    | '.' :: more => Text.run Char.isDigit more
    | _ => ([], rest)
  if whole = [] ∧ part = [] then none else some (whole, part, rest)

/-- Reads the exponent that a text consists of; the empty text is the exponent zero. -/
def exponent? : Text → Option Int
  | [] => some 0
  | mark :: rest =>
    if mark = 'e' ∨ mark = 'E' then
      let (negative, body) := Numeral.cutSign rest
      if body ≠ [] ∧ body.all Char.isDigit then
        some (Numeral.withSign negative (Numeral.ofDigits body))
      else none
    else none

/-- Reads a numeral without a sign. -/
def unsigned? (t : Text) : Option Decimal := do
  let (whole, part, rest) ← parts? t
  let exponent ← exponent? rest
  return ⟨false, Numeral.ofDigits (whole ++ part), exponent - part.length⟩

/-- Reads a numeral with an optional sign. -/
def read? (t : Text) : Option Decimal :=
  let (negative, body) := Numeral.cutSign t
  (unsigned? body).map fun d => ⟨negative, d.mantissa, d.exponent⟩

/-! ## Characters of numerals -/

/-- Whether a character can stand in a numeral. -/
def isNumeralChar (c : Char) : Bool := c.isDigit || ".eE-+".toList.contains c

theorem isNumeralChar_of_isDigit {c : Char} (h : c.isDigit = true) : isNumeralChar c = true := by
  rw [isNumeralChar, h, Bool.true_or]

theorem isNumeralChar_of_mem_sign {sign : Text}
    (h : sign = [] ∨ sign = ['-'] ∨ sign = ['+']) {c : Char} (hc : c ∈ sign) :
    isNumeralChar c = true := by
  rcases h with rfl | rfl | rfl
  · cases hc
  · rw [List.mem_singleton.1 hc]
    decide
  · rw [List.mem_singleton.1 hc]
    decide

/-- The parts of a numeral are runs of digits.  A point stands between them unless the second one is
empty. -/
theorem parts?_eq_some {t whole part rest : Text} (h : parts? t = some (whole, part, rest)) :
    (∀ c ∈ whole ++ part, c.isDigit = true) ∧
      ∃ point, t = whole ++ point ++ part ++ rest ∧ (point = [] ∧ part = [] ∨ point = ['.']) := by
  have hrun : ∀ s : Text, ∀ c ∈ s.takeWhile Char.isDigit, c.isDigit = true :=
    fun s => List.all_eq_true.1 List.all_takeWhile
  have ht : t.takeWhile Char.isDigit ++ t.dropWhile Char.isDigit = t :=
    List.takeWhile_append_dropWhile
  unfold parts? Text.run at h
  generalize t.dropWhile Char.isDigit = behind at h ht
  dsimp only at h
  split at h
  · rename_i more
    have hmore : more.takeWhile Char.isDigit ++ more.dropWhile Char.isDigit = more :=
      List.takeWhile_append_dropWhile
    simp only [Option.ite_none_left_eq_some, Option.some.injEq, Prod.mk.injEq] at h
    obtain ⟨-, rfl, rfl, rfl⟩ := h
    refine ⟨?_, ['.'], ?_, .inr rfl⟩
    · intro c hc
      rcases List.mem_append.1 hc with hc | hc
      · exact hrun t c hc
      · exact hrun more c hc
    · rw [List.append_assoc, hmore, List.append_assoc, List.singleton_append, ht]
  · simp only [Option.ite_none_left_eq_some, Option.some.injEq, Prod.mk.injEq] at h
    obtain ⟨-, rfl, rfl, rfl⟩ := h
    refine ⟨?_, [], ?_, .inl ⟨rfl, rfl⟩⟩
    · intro c hc
      rw [List.append_nil] at hc
      exact hrun t c hc
    · rw [List.append_nil, List.append_nil, ht]

/-- A numeral has a digit. -/
theorem ne_nil_of_parts? {t whole part rest : Text} (h : parts? t = some (whole, part, rest)) :
    whole ++ part ≠ [] := by
  unfold parts? at h
  simp only [Option.ite_none_left_eq_some, Option.some.injEq, Prod.mk.injEq] at h
  obtain ⟨hsome, rfl, rfl, -⟩ := h
  rwa [ne_eq, List.append_eq_nil_iff]

/-- A numeral without a sign begins with a digit or a point. -/
theorem exists_head_of_unsigned? {t : Text} {d : Decimal} (h : unsigned? t = some d) :
    ∃ c more, t = c :: more ∧ (c.isDigit = true ∨ c = '.') := by
  obtain ⟨⟨whole, part, rest⟩, hparts, -⟩ := Option.bind_eq_some_iff.1 h
  obtain ⟨hdigits, point, rfl, hpoint⟩ := parts?_eq_some hparts
  have hne := ne_nil_of_parts? hparts
  cases whole with
  | cons c more => exact ⟨c, _, rfl, .inl (hdigits c (by simp))⟩
  | nil =>
      rcases hpoint with ⟨-, rfl⟩ | rfl
      · exact absurd rfl hne
      · exact ⟨'.', _, rfl, .inr rfl⟩

/-- A numeral that is a run of digits stands for the number of the digits. -/
theorem unsigned?_of_isDigit {t : Text} (ht : ∀ c ∈ t, c.isDigit = true) (hne : t ≠ []) :
    unsigned? t = some ⟨false, Numeral.ofDigits t, 0⟩ := by
  simp [unsigned?, parts?, exponent?, Text.run_self ht, hne]

/-- Behind the digits of a numeral there is no hyphen. -/
theorem unsigned?_hyphen {t : Text} (ht : ∀ c ∈ t, c.isDigit = true) (rest : Text) :
    unsigned? (t ++ '-' :: rest) = none := by
  have hrun : Text.run Char.isDigit (t ++ '-' :: rest) = (t, '-' :: rest) := by
    refine Text.run_append ht ?_
    rintro _ ⟨⟩
    rfl
  simp [unsigned?, parts?, exponent?, hrun]

/-- An exponent consists of a mark, a sign and digits. -/
theorem isNumeralChar_of_exponent? {t : Text} {n : Int} (h : exponent? t = some n) :
    ∀ c ∈ t, isNumeralChar c = true := by
  cases t with
  | nil => simp
  | cons mark rest =>
      obtain ⟨sign, hsign, hone, -⟩ := Numeral.exists_sign rest
      unfold exponent? at h
      simp only [Option.ite_none_right_eq_some] at h
      obtain ⟨hmark, ⟨-, hdigits⟩, -⟩ := h
      have hmarkChar : isNumeralChar mark = true := by
        rcases hmark with rfl | rfl <;> decide
      intro c hc
      rw [hsign] at hc
      rcases List.mem_cons.1 hc with rfl | hc
      · exact hmarkChar
      · rcases List.mem_append.1 hc with hc | hc
        · exact isNumeralChar_of_mem_sign hone hc
        · exact isNumeralChar_of_isDigit (List.all_eq_true.1 hdigits c hc)

/-- Every character of a numeral is one that can stand in numerals. -/
theorem isNumeralChar_of_read? {t : Text} {d : Decimal} (h : read? t = some d) :
    ∀ c ∈ t, isNumeralChar c = true := by
  obtain ⟨sign, hsign, hone, -⟩ := Numeral.exists_sign t
  unfold read? at h
  generalize Numeral.cutSign t = cut at h hsign
  obtain ⟨_, hbody, -⟩ := Option.map_eq_some_iff.1 h
  obtain ⟨⟨whole, part, rest⟩, hparts, hrest⟩ := Option.bind_eq_some_iff.1 hbody
  obtain ⟨n, hexponent, -⟩ := Option.bind_eq_some_iff.1 hrest
  obtain ⟨hdigits, point, ht, hpoint⟩ := parts?_eq_some hparts
  intro c hc
  rw [hsign, ht] at hc
  simp only [List.mem_append] at hc hdigits
  rcases hc with hc | ((hc | hc) | hc) | hc
  · exact isNumeralChar_of_mem_sign hone hc
  · exact isNumeralChar_of_isDigit (hdigits c (.inl hc))
  · rcases hpoint with ⟨rfl, -⟩ | rfl
    · cases hc
    · rw [List.mem_singleton.1 hc]
      decide
  · exact isNumeralChar_of_isDigit (hdigits c (.inr hc))
  · exact isNumeralChar_of_exponent? hexponent c hc

end Decimal
end SqlFilter
