/-!
# Text

Every text of this library is a list of characters, so that each rule on text is a recursion on a
list.  This module has the operations that the other modules share:

* `Text.splitOn` cuts a text at every occurrence of a character;
* `Text.cutFirst` and `Text.cutLast` cut it at the first and at the last occurrence;
* `Text.strip?` takes a given beginning off a text;
* `Text.run` cuts a text after its longest beginning of characters of one class;
* `Text.asciiLower` makes the letters from A to Z small, the rule by which names of dialects, field
  types and switches are compared.
-/

namespace SqlFilter

/-- A text is the list of its characters. -/
abbrev Text := List Char

/-- Two texts compare as equal only if they are equal. -/
instance lawfulBEqText : LawfulBEq Text := inferInstance

namespace Text

/-! ## Cutting -/

/-- The pieces of a text between the occurrences of `sep`; there is always at least one piece. -/
def splitOn (sep : Char) : Text → List Text
  | [] => [[]]
  | c :: rest =>
    if c = sep then [] :: splitOn sep rest
    else
      match splitOn sep rest with
      | [] => [[c]]
      | piece :: pieces => (c :: piece) :: pieces

/-- The parts before and after the first occurrence of `sep`. -/
def cutFirst (sep : Char) : Text → Option (Text × Text)
  | [] => none
  | c :: rest =>
    if c = sep then some ([], rest)
    else (cutFirst sep rest).map fun (before, after) => (c :: before, after)

/-- The parts before and after the last occurrence of `sep`. -/
def cutLast (sep : Char) : Text → Option (Text × Text)
  | [] => none
  | c :: rest =>
    match cutLast sep rest with
    | some (before, after) => some (c :: before, after)
    | none => if c = sep then some ([], rest) else none

/-- What follows `start` in a text that begins with it. -/
def strip? : Text → Text → Option Text
  | [], t => some t
  | _ :: _, [] => none
  | s :: start, c :: rest => if s = c then strip? start rest else none

/-- A text cut into its longest beginning of characters of one class and the rest. -/
def run (inClass : Char → Bool) (t : Text) : Text × Text :=
  (t.takeWhile inClass, t.dropWhile inClass)

/-! ## Letter case -/

/-- The text with the letters from A to Z made small and all else kept. -/
def asciiLower (t : Text) : Text := t.map Char.toLower

/-! ## Joining -/

/-- The texts in a row, with `sep` between neighbours. -/
def joinWith (sep : Text) : List Text → Text
  | [] => []
  | [t] => t
  | t :: next :: rest => t ++ sep ++ joinWith sep (next :: rest)

/-! ## Small laws -/

theorem splitOn_ne_nil (sep : Char) (t : Text) : splitOn sep t ≠ [] := by
  cases t with
  | nil => simp [splitOn]
  | cons c rest =>
    unfold splitOn
    split
    · simp
    · split <;> simp

/-- Joining the pieces with the separator gives the text back. -/
theorem joinWith_splitOn (sep : Char) (t : Text) : joinWith [sep] (splitOn sep t) = t := by
  induction t with
  | nil => rfl
  | cons c rest ih =>
    unfold splitOn
    split
    · rename_i h
      cases hs : splitOn sep rest with
      | nil => exact absurd hs (splitOn_ne_nil sep rest)
      | cons p ps => rw [hs] at ih; simp [joinWith, ih, h]
    · cases hs : splitOn sep rest with
      | nil => exact absurd hs (splitOn_ne_nil sep rest)
      | cons p ps =>
        rw [hs] at ih
        cases ps with
        | nil => simp only [joinWith] at ih ⊢; rw [ih]
        | cons q qs => simp only [joinWith, List.cons_append] at ih ⊢; rw [ih]

/-- No piece holds the separator. -/
theorem not_mem_of_mem_splitOn (sep : Char) (t : Text) : ∀ p ∈ splitOn sep t, sep ∉ p := by
  induction t with
  | nil => simp [splitOn]
  | cons c rest ih =>
    unfold splitOn
    split
    · intro p hp
      rcases List.mem_cons.1 hp with rfl | hp
      · simp
      · exact ih p hp
    · rename_i h
      cases hs : splitOn sep rest with
      | nil => simp; exact fun e => h e.symm
      | cons q qs =>
        rw [hs] at ih
        intro p hp
        rcases List.mem_cons.1 hp with rfl | hp
        · have := ih q (by simp)
          simp [this]
          exact fun e => h e.symm
        · exact ih p (by simp [hp])

/-- A text without the separator is one piece. -/
theorem splitOn_of_not_mem {sep : Char} {t : Text} (h : sep ∉ t) : splitOn sep t = [t] := by
  induction t with
  | nil => rfl
  | cons c rest ih =>
      rw [List.mem_cons, not_or] at h
      rw [splitOn, if_neg fun e => h.1 e.symm, ih h.2]

/-- A separator stands between the pieces before it and those behind it. -/
theorem splitOn_append (sep : Char) (before after : Text) :
    splitOn sep (before ++ sep :: after) = splitOn sep before ++ splitOn sep after := by
  induction before with
  | nil => simp [splitOn]
  | cons c before ih =>
      rw [List.cons_append, splitOn, splitOn, ih]
      by_cases hc : c = sep
      · rw [if_pos hc, if_pos hc, List.cons_append]
      · rw [if_neg hc, if_neg hc]
        cases hs : splitOn sep before with
        | nil => exact absurd hs (splitOn_ne_nil sep before)
        | cons piece pieces => rfl

/-- Texts without the separator are the pieces of what they are joined to. -/
theorem splitOn_joinWith {sep : Char} {pieces : List Text} (hne : pieces ≠ [])
    (h : ∀ p ∈ pieces, sep ∉ p) : splitOn sep (joinWith [sep] pieces) = pieces := by
  induction pieces with
  | nil => exact absurd rfl hne
  | cons piece pieces ih =>
      have hpiece : splitOn sep piece = [piece] := splitOn_of_not_mem (h piece List.mem_cons_self)
      cases pieces with
      | nil => exact hpiece
      | cons next pieces =>
          have hrest : splitOn sep (joinWith [sep] (next :: pieces)) = next :: pieces :=
            ih (by simp) fun p hp => h p (List.mem_cons_of_mem piece hp)
          rw [joinWith, List.append_assoc, List.singleton_append, splitOn_append, hpiece, hrest,
            List.singleton_append]

/-- What texts are joined to has all of their characters. -/
theorem mem_joinWith_of_mem {sep : Text} {x : Char} {parts : List Text} {part : Text}
    (hpart : part ∈ parts) (hx : x ∈ part) : x ∈ joinWith sep parts := by
  induction parts with
  | nil => cases hpart
  | cons first parts ih =>
      cases parts with
      | nil =>
          rw [List.mem_singleton] at hpart
          rw [joinWith, ← hpart]
          exact hx
      | cons next parts =>
          rw [joinWith, List.mem_append, List.mem_append]
          rcases List.mem_cons.1 hpart with rfl | hpart
          · exact .inl (.inl hx)
          · exact .inr (ih hpart)

/-- The pieces of a text have no characters but its own. -/
theorem mem_of_mem_splitOn {sep x : Char} :
    ∀ (t part : Text), part ∈ splitOn sep t → x ∈ part → x ∈ t := by
  intro t part hpart hx
  have hjoined : x ∈ joinWith [sep] (splitOn sep t) := mem_joinWith_of_mem hpart hx
  rwa [joinWith_splitOn] at hjoined

/-- A cut at the first separator leaves none before it, and nothing but the separator is lost. -/
theorem cutFirst_eq_some {sep : Char} {t before after : Text}
    (h : cutFirst sep t = some (before, after)) :
    t = before ++ sep :: after ∧ sep ∉ before := by
  induction t generalizing before with
  | nil => simp [cutFirst] at h
  | cons c rest ih =>
    unfold cutFirst at h
    split at h
    · rename_i hc
      cases h
      simp [hc]
    · rename_i hc
      obtain ⟨⟨b, a⟩, hr, h⟩ := Option.map_eq_some_iff.1 h
      cases h
      obtain ⟨h1, h2⟩ := ih hr
      exact ⟨by rw [h1]; rfl, by simp [h2]; exact fun e => hc e.symm⟩

/-- A text without the separator before a separator is cut off there. -/
theorem cutFirst_append {sep : Char} {before : Text} (h : sep ∉ before) (after : Text) :
    cutFirst sep (before ++ sep :: after) = some (before, after) := by
  induction before with
  | nil => simp [cutFirst]
  | cons c before ih =>
      have hc : c ≠ sep := fun hc => h (by simp [hc])
      rw [List.cons_append, cutFirst, if_neg hc, ih fun hmem => h (by simp [hmem])]
      rfl

/-- A text without the separator is not cut, and no other text is left whole. -/
theorem cutFirst_eq_none_iff {sep : Char} {t : Text} : cutFirst sep t = none ↔ sep ∉ t := by
  induction t with
  | nil => simp [cutFirst]
  | cons c rest ih =>
      unfold cutFirst
      split
      · rename_i hc
        simp [hc]
      · rename_i hc
        rw [Option.map_eq_none_iff, ih, List.mem_cons, not_or]
        exact ⟨fun h => ⟨fun e => hc e.symm, h⟩, fun h => h.2⟩

/-- A text with the separator can be cut at its last occurrence. -/
theorem cutLast_ne_none {sep : Char} {t : Text} (h : sep ∈ t) : cutLast sep t ≠ none := by
  induction t with
  | nil => simp at h
  | cons c rest ih =>
    unfold cutLast
    split
    · simp
    · rename_i hr
      rcases List.mem_cons.1 h with rfl | h
      · simp
      · exact absurd hr (ih h)

/-- A cut at the last separator leaves none behind it, and nothing but the separator is lost. -/
theorem cutLast_eq_some {sep : Char} {t before after : Text}
    (h : cutLast sep t = some (before, after)) : t = before ++ sep :: after ∧ sep ∉ after := by
  induction t generalizing before with
  | nil => simp [cutLast] at h
  | cons c rest ih =>
    unfold cutLast at h
    split at h
    · rename_i b a hr
      simp only [Option.some.injEq, Prod.mk.injEq] at h
      obtain ⟨rfl, rfl⟩ := h
      obtain ⟨h1, h2⟩ := ih hr
      exact ⟨by rw [h1]; rfl, h2⟩
    · rename_i hr
      split at h
      · rename_i hc
        simp only [Option.some.injEq, Prod.mk.injEq] at h
        obtain ⟨rfl, rfl⟩ := h
        refine ⟨by rw [hc]; rfl, fun hmem => ?_⟩
        exact absurd hr (cutLast_ne_none hmem)
      · simp at h

/-- A text without the separator is not cut. -/
theorem cutLast_of_not_mem {sep : Char} {t : Text} (h : sep ∉ t) : cutLast sep t = none := by
  cases hcut : cutLast sep t with
  | none => rfl
  | some cut =>
      have hmem : sep ∈ t := by
        rw [(cutLast_eq_some hcut).1]
        simp
      exact absurd hmem h

/-- A text without the separator behind a separator is cut off there. -/
theorem cutLast_append {sep : Char} {after : Text} (h : sep ∉ after) (before : Text) :
    cutLast sep (before ++ sep :: after) = some (before, after) := by
  induction before with
  | nil => simp [cutLast, cutLast_of_not_mem h]
  | cons c before ih => rw [List.cons_append, cutLast, ih]

/-- A text that begins with `start` is `start` followed by what is left. -/
theorem strip?_eq_some_iff {start t rest : Text} :
    strip? start t = some rest ↔ t = start ++ rest := by
  induction start generalizing t with
  | nil => simp [strip?, eq_comm]
  | cons s start ih =>
    cases t with
    | nil => simp [strip?]
    | cons c t =>
      unfold strip?
      split
      · rename_i h; simp [ih, h]
      · rename_i h; simp; intro e; exact absurd e.symm h

/-- A run of a class of characters goes as far as the class. -/
theorem run_append {inClass : Char → Bool} {t rest : Text} (ht : ∀ c ∈ t, inClass c = true)
    (hrest : ∀ c ∈ rest.head?, inClass c = false) : run inClass (t ++ rest) = (t, rest) := by
  rw [run, List.takeWhile_append_of_pos ht, List.dropWhile_append_of_pos ht]
  cases rest with
  | nil => simp
  | cons c rest =>
      have hc : ¬ inClass c = true := by
        rw [hrest c rfl]
        decide
      rw [List.takeWhile_cons_of_neg hc, List.dropWhile_cons_of_neg hc, List.append_nil]

/-- A run of a class of characters takes all of a text of that class. -/
theorem run_self {inClass : Char → Bool} {t : Text} (ht : ∀ c ∈ t, inClass c = true) :
    run inClass t = (t, []) := by
  have hrun := run_append ht (show ∀ c ∈ ([] : Text).head?, inClass c = false by simp)
  rwa [List.append_nil] at hrun

end Text
end SqlFilter
