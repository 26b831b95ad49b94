import SqlFilter.Text.Basic

/-!
# Blank characters

A character is blank when it has the Unicode property White_Space.  Labels, table names and the
lenient date-time forms all ignore blanks by this one rule.

* `Text.isBlank` decides the property from its 25 characters in ten ranges;
* `Text.trimStart`, `Text.trimEnd` and `Text.trim` take blanks off the ends;
* `Text.allBlank` says that nothing is left after that.
-/

namespace SqlFilter.Text

/-- The characters with the property White_Space, as ascending closed ranges. -/
def blankRanges : List (Nat × Nat) :=
  [(0x09, 0x0D), (0x20, 0x20), (0x85, 0x85), (0xA0, 0xA0), (0x1680, 0x1680), (0x2000, 0x200A),
   (0x2028, 0x2029), (0x202F, 0x202F), (0x205F, 0x205F), (0x3000, 0x3000)]

/-- Whether a code point lies in one of the closed ranges. -/
def inRanges (ranges : List (Nat × Nat)) (n : Nat) : Bool :=
  ranges.any fun (lo, hi) => lo ≤ n && n ≤ hi

/-- Whether a character is blank. -/
def isBlank (c : Char) : Bool := inRanges blankRanges c.toNat

/-- The text without the blanks at its start. -/
def trimStart (t : Text) : Text := t.dropWhile isBlank

/-- The text without the blanks at its end. -/
def trimEnd (t : Text) : Text := (t.reverse.dropWhile isBlank).reverse

/-- The text without the blanks at either end. -/
def trim (t : Text) : Text := trimEnd (trimStart t)

/-- Whether a text is empty or made of blanks only. -/
def allBlank (t : Text) : Bool := t.all isBlank

/-! ## Small laws -/

/-- No digit is blank. -/
theorem isBlank_of_isDigit {c : Char} (h : c.isDigit = true) : isBlank c = false := by
  have hrange : 48 ≤ c.toNat ∧ c.toNat ≤ 57 := by
    simpa [Char.isDigit, UInt32.le_iff_toNat_le] using h
  simp [isBlank, inRanges, blankRanges]
  omega

/-- Nothing is dropped in front of a character that is not blank. -/
theorem trimStart_cons {c : Char} (h : isBlank c = false) (rest : Text) :
    trimStart (c :: rest) = c :: rest := by
  rw [trimStart, List.dropWhile_cons_of_neg]
  rw [h]
  decide

/-- Dropping a class of characters leaves nothing exactly when all characters are of the class. -/
theorem dropWhile_eq_nil (p : Char → Bool) (t : Text) :
    t.dropWhile p = [] ↔ ∀ c ∈ t, p c = true := by
  induction t with
  | nil => simp
  | cons c rest ih =>
    by_cases h : p c = true
    · simp [h, ih]
    · simp [h]

/-- A text is trimmed to nothing exactly when all of it is blank. -/
theorem trim_eq_nil_iff (t : Text) : trim t = [] ↔ allBlank t = true := by
  simp only [trim, trimEnd, trimStart, allBlank, List.reverse_eq_nil_iff, List.all_eq_true]
  rw [dropWhile_eq_nil]
  constructor
  · intro h
    have hd : t.dropWhile isBlank = [] := by
      cases hr : t.dropWhile isBlank with
      | nil => rfl
      | cons c rest =>
        have h1 : isBlank c = true := h c (by simp [hr])
        have h2 := List.head?_dropWhile_not isBlank t
        simp [hr, h1] at h2
    exact (dropWhile_eq_nil isBlank t).1 hd
  · intro h c hc
    exact h c ((List.dropWhile_sublist _).subset (List.mem_reverse.1 hc))

end SqlFilter.Text
