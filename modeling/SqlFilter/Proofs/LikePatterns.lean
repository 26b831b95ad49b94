import Mathlib.Data.List.Infix
import SqlFilter.Expression.Argument

/-!
# Patterns of texts

Patterns as engines match them: a percent sign stands for any text, an underscore for any one
character, every other character for itself, and nothing takes these meanings away.

* `Like.Matches` says which values a pattern matches;
* `Like.around` is a text between percent signs, `Text.Within` where the text may then stand, and
  `Argument.AsksFor` which values an argument asks for by its wildcards.

`Like.matches_around` says what a text between percent signs matches, and
`Like.matches_around_exact_iff` when that is nothing but the values with the text itself in them.
-/

namespace SqlFilter

/-! ## Patterns -/

namespace Like

/-- Whether a pattern matches a value. -/
def Matches : Text → Text → Prop
  | [], s => s = []
  | c :: pattern, s =>
    if c = '%' then ∃ rest, rest <:+ s ∧ Matches pattern rest
    else ∃ d rest, s = d :: rest ∧ (c = '_' ∨ c = d) ∧ Matches pattern rest

instance decidableMatches : ∀ pattern s, Decidable (Matches pattern s)
  | [], s => inferInstanceAs (Decidable (s = []))
  | c :: pattern, s =>
    if hc : c = '%' then
      have := decidableMatches pattern
      decidable_of_iff (∃ rest ∈ s.tails, Matches pattern rest) (by
        simp [Matches, hc])
    else
      match s with
      | [] => isFalse (by simp [Matches, hc])
      | d :: rest =>
        have := decidableMatches pattern rest
        decidable_of_iff ((c = '_' ∨ c = d) ∧ Matches pattern rest) (by
          simp [Matches, hc])

/-- Whether a text has no characters with a meaning in patterns. -/
def IsPlain (t : Text) : Prop := '%' ∉ t ∧ '_' ∉ t

theorem matches_percent {pattern s : Text} :
    Matches ('%' :: pattern) s ↔ ∃ rest, rest <:+ s ∧ Matches pattern rest := by
  rw [Matches, if_pos rfl]

theorem matches_cons {c : Char} (hc : c ≠ '%') {pattern s : Text} :
    Matches (c :: pattern) s ↔
      ∃ d rest, s = d :: rest ∧ (c = '_' ∨ c = d) ∧ Matches pattern rest := by
  rw [Matches, if_neg hc]

/-- Two patterns in a row match two values in a row. -/
theorem matches_append {p q s : Text} :
    Matches (p ++ q) s ↔ ∃ a b, s = a ++ b ∧ Matches p a ∧ Matches q b := by
  induction p generalizing s with
  | nil => simp [Matches]
  | cons c p ih =>
      rw [List.cons_append]
      by_cases hc : c = '%'
      · subst hc
        simp only [matches_percent, ih]
        constructor
        · rintro ⟨_, ⟨skipped, rfl⟩, a, b, rfl, ha, hb⟩
          exact ⟨skipped ++ a, b, by simp, ⟨a, List.suffix_append .., ha⟩, hb⟩
        · rintro ⟨_, b, rfl, ⟨a, ⟨skipped, rfl⟩, ha⟩, hb⟩
          exact ⟨a ++ b, ⟨skipped, by simp⟩, a, b, rfl, ha, hb⟩
      · simp only [matches_cons hc, ih]
        constructor
        · rintro ⟨d, _, rfl, hd, a, b, rfl, ha, hb⟩
          exact ⟨d :: a, b, rfl, ⟨d, a, rfl, hd, ha⟩, hb⟩
        · rintro ⟨_, b, rfl, ⟨d, a, rfl, hd, ha⟩, hb⟩
          exact ⟨d, a ++ b, rfl, hd, a, b, rfl, ha, hb⟩

/-- A percent sign alone matches everything. -/
theorem matches_any (s : Text) : Matches ['%'] s :=
  matches_percent.2 ⟨[], List.nil_suffix, rfl⟩

/-- Every text matches itself. -/
theorem matches_self (t : Text) : Matches t t := by
  induction t with
  | nil => rfl
  | cons c t ih =>
      by_cases hc : c = '%'
      · subst hc
        exact matches_percent.2 ⟨t, List.suffix_cons .., ih⟩
      · exact (matches_cons hc).2 ⟨c, t, rfl, .inr rfl, ih⟩

/-- A plain text matches nothing else. -/
theorem matches_iff_of_isPlain {t : Text} (h : IsPlain t) {s : Text} : Matches t s ↔ s = t := by
  constructor
  · intro hs
    induction t generalizing s with
    | nil => exact hs
    | cons c t ih =>
        obtain ⟨hpercent, hunderscore⟩ := h
        rw [List.mem_cons, not_or] at hpercent hunderscore
        obtain ⟨d, rest, rfl, hd, hrest⟩ := (matches_cons (Ne.symm hpercent.1)).1 hs
        rw [ih ⟨hpercent.2, hunderscore.2⟩ hrest, hd.resolve_left (Ne.symm hunderscore.1)]
  · rintro rfl
    exact matches_self s

/-- A value that a pattern matches, without percent signs and underscores. -/
def sample : Text → Text
  | [] => []
  | c :: pattern => if c = '%' then sample pattern else (if c = '_' then '-' else c) :: sample pattern

theorem isPlain_sample (pattern : Text) : IsPlain (sample pattern) := by
  induction pattern with
  | nil => exact ⟨List.not_mem_nil, List.not_mem_nil⟩
  | cons c pattern ih =>
      obtain ⟨hpercent, hunderscore⟩ := ih
      unfold IsPlain sample
      by_cases hc : c = '%'
      · rw [if_pos hc]
        exact ⟨hpercent, hunderscore⟩
      · rw [if_neg hc]
        by_cases hc' : c = '_'
        · simp [hc', hpercent, hunderscore]
        · simp [hc', hpercent, hunderscore, Ne.symm hc, Ne.symm hc']

theorem matches_sample (pattern : Text) : Matches pattern (sample pattern) := by
  induction pattern with
  | nil => rfl
  | cons c pattern ih =>
      unfold sample
      by_cases hc : c = '%'
      · rw [if_pos hc, hc]
        exact matches_percent.2 ⟨_, List.suffix_refl _, ih⟩
      · rw [if_neg hc]
        refine (matches_cons hc).2 ⟨_, _, rfl, ?_, ih⟩
        by_cases hc' : c = '_'
        · exact .inl hc'
        · exact .inr (by rw [if_neg hc'])

end Like

/-! ## Wildcards around a text -/

/-- Whether `part` is all of `t`, or its end, or its beginning, or any part of it, as there may be
more text before it and behind it. -/
def Text.Within (leading trailing : Bool) (part t : Text) : Prop :=
  match leading, trailing with
  | false, false => t = part
  | true, false => part <:+ t
  | false, true => part <+: t
  | true, true => part <:+: t

/-- Whether a value is one that an argument asks for. -/
def Argument.AsksFor (a : Argument) (s : Text) : Prop :=
  Text.Within a.leading a.trailing a.literal s

/-- A text with a percent sign on each side where there may be more text. -/
def Like.around (leading trailing : Bool) (t : Text) : Text :=
  (if leading then ['%'] else []) ++ t ++ if trailing then ['%'] else []

namespace Like

variable {leading trailing : Bool} {t s : Text}

/-- There is nothing before a part, or behind it, unless there may be. -/
theorem within_iff {part : Text} :
    Text.Within leading trailing part s ↔
      ∃ before behind, s = before ++ part ++ behind ∧ (leading = false → before = []) ∧
        (trailing = false → behind = []) := by
  cases leading <;> cases trailing
  · simp [Text.Within]
  · simp [Text.Within, List.IsPrefix, eq_comm]
  · simp [Text.Within, List.IsSuffix, eq_comm]
  · simp [Text.Within, List.IsInfix, eq_comm]

/-- Every character of a part is one of the whole. -/
theorem subset_of_within (h : Text.Within leading trailing t s) : t ⊆ s := by
  obtain ⟨before, behind, rfl, -⟩ := within_iff.1 h
  intro c hc
  exact List.mem_append_left _ (List.mem_append_right _ hc)

/-- The percent sign of a side matches anything, and where there is none nothing may be. -/
theorem matches_side {flag : Bool} :
    Matches (if flag then ['%'] else []) s ↔ (flag = false → s = []) := by
  cases flag
  · simp [Matches]
  · simp [matches_any]

/-- A pattern with percent signs around it matches where the pattern matches a part. -/
theorem matches_around :
    Matches (around leading trailing t) s ↔
      ∃ part, Text.Within leading trailing part s ∧ Matches t part := by
  simp only [around, matches_append, matches_side, within_iff]
  constructor
  · rintro ⟨_, behind, rfl, ⟨before, part, rfl, hbefore, hpart⟩, hbehind⟩
    exact ⟨part, ⟨before, behind, rfl, hbefore, hbehind⟩, hpart⟩
  · rintro ⟨part, ⟨before, behind, rfl, hbefore, hbehind⟩, hpart⟩
    exact ⟨before ++ part, behind, rfl, ⟨before, part, rfl, hbefore, hpart⟩, hbehind⟩

/-- A pattern with percent signs around it matches the values that have the text itself as a part. -/
theorem matches_around_of_within (h : Text.Within leading trailing t s) :
    Matches (around leading trailing t) s :=
  matches_around.2 ⟨t, h, matches_self t⟩

/-- It matches no others exactly if the text is plain. -/
theorem matches_around_exact_iff :
    (∀ s, Matches (around leading trailing t) s ↔ Text.Within leading trailing t s) ↔
      IsPlain t := by
  constructor
  · intro h
    -- the sample is matched, so it has all characters of the text, and it is plain
    have hsample : Text.Within leading trailing (sample t) (sample t) :=
      within_iff.2 ⟨[], [], by simp, fun _ => rfl, fun _ => rfl⟩
    have hsubset := subset_of_within
      ((h (sample t)).1 (matches_around.2 ⟨sample t, hsample, matches_sample t⟩))
    obtain ⟨hpercent, hunderscore⟩ := isPlain_sample t
    exact ⟨fun hmem => hpercent (hsubset hmem), fun hmem => hunderscore (hsubset hmem)⟩
  · intro hplain s
    rw [matches_around]
    constructor
    · rintro ⟨part, hpart, hmatches⟩
      rwa [(matches_iff_of_isPlain hplain).1 hmatches] at hpart
    · intro h
      exact ⟨t, h, matches_self t⟩

end Like

end SqlFilter
