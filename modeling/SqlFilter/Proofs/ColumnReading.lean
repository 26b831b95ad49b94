import SqlFilter.Dialect.Preset

/-!
# Reading column references

A column reference is read from left to right: an opening delimiter, then the name up to the first
closing delimiter that is not doubled, and so on behind each point.  What is written for a column is
read as the parts of its qualifier and the name of the column, whatever characters these hold, and
the reader stops exactly where the reference ends.

* `Text.readDoubled?` reads up to a closing character that is not doubled;
* `Delimiter.readName?` reads a delimited name, and `Delimiter.readReference?` a reference;
* `Profile.segments` are the parts of a qualifier.

Reading a name and writing it are inverse to each other (`Delimiter.readName?_eq_some_iff`), and so
are reading and writing a reference.  The main statement is `Profile.column_read_back`.
-/

namespace SqlFilter

/-! ## Doubled characters -/

/-- Reads up to the first `close` that is not doubled: what stands before it, where a doubled one
counts once, and what is left behind it. -/
def Text.readDoubled? (close : Char) : Text → Option (Text × Text)
  | [] => none
  | c :: rest =>
    if c = close then
      match rest with
      | [] => some ([], [])
      | d :: more =>
        if d = close then
          (readDoubled? close more).map fun (name, left) => (close :: name, left)
        else some ([], d :: more)
    else (readDoubled? close rest).map fun (name, left) => (c :: name, left)

namespace Text

variable {close : Char}

/-- A name with its closing characters doubled is read back. -/
theorem readDoubled?_double {rest : Text} (hrest : rest.head? ≠ some close) (name : Text) :
    readDoubled? close (Delimiter.double close name ++ close :: rest) = some (name, rest) := by
  induction name with
  | nil =>
      cases rest with
      | nil => simp [Delimiter.double, readDoubled?]
      | cons d rest =>
          have hd : d ≠ close := by simpa using hrest
          simp [Delimiter.double, readDoubled?, hd]
  | cons c name ih =>
      by_cases hc : c = close
      · subst hc
        simp [Delimiter.double, readDoubled?, ih]
      · rw [Delimiter.double, if_neg hc, List.cons_append]
        unfold readDoubled?
        rw [if_neg hc, ih]
        rfl

/-- Only a name with its closing characters doubled is read, and no closing character is left. -/
theorem eq_double_of_readDoubled? {t name rest : Text}
    (h : readDoubled? close t = some (name, rest)) :
    t = Delimiter.double close name ++ close :: rest ∧ rest.head? ≠ some close := by
  fun_induction readDoubled? close t generalizing name with
  | case1 => cases h
  | case2 =>
      cases h
      simp [Delimiter.double]
  | case3 more ih =>
      obtain ⟨⟨name, left⟩, hread, h⟩ := Option.map_eq_some_iff.1 h
      cases h
      obtain ⟨rfl, hrest⟩ := ih hread
      simp [Delimiter.double, hrest]
  | case4 d more hd =>
      cases h
      simp [Delimiter.double, hd]
  | case5 c rest hc ih =>
      obtain ⟨⟨name, left⟩, hread, h⟩ := Option.map_eq_some_iff.1 h
      cases h
      obtain ⟨rfl, hrest⟩ := ih hread
      simp [Delimiter.double, hc, hrest]

end Text

/-! ## Names -/

namespace Delimiter

/-- Reads a delimited name: the name, and what is left behind it. -/
def readName? (d : Delimiter) (t : Text) : Option (Text × Text) :=
  match d.pair?, t with
  | some (opening, closing), c :: rest =>
    if c = opening then Text.readDoubled? closing rest else none
  | _, _ => none

variable {d : Delimiter} {opening closing : Char}

/-- A name is read exactly where it is written, if its closing delimiter is not doubled by what
follows. -/
theorem readName?_eq_some_iff (hpair : d.pair? = some (opening, closing)) {t name rest : Text} :
    d.readName? t = some (name, rest) ↔ t = d.quote name ++ rest ∧ rest.head? ≠ some closing := by
  have hquote : d.quote name ++ rest = opening :: (double closing name ++ closing :: rest) := by
    simp [quote, hpair]
  rw [hquote]
  unfold readName?
  rw [hpair]
  constructor
  · intro h
    cases t with
    | nil => cases h
    | cons c t =>
        by_cases hc : c = opening
        · obtain ⟨ht, hrest⟩ := Text.eq_double_of_readDoubled? (by simpa [hc] using h)
          exact ⟨by rw [hc, ht], hrest⟩
        · simp [hc] at h
  · rintro ⟨rfl, hrest⟩
    simp [Text.readDoubled?_double hrest]

/-- A name takes at least its two delimiters. -/
theorem length_lt_of_readName? {t name rest : Text} (h : d.readName? t = some (name, rest)) :
    rest.length < t.length := by
  cases hpair : d.pair? with
  | none => simp [readName?, hpair] at h
  | some pair =>
      obtain ⟨rfl, -⟩ := (readName?_eq_some_iff hpair).1 h
      simp only [quote, hpair, List.length_append, List.length_cons]
      omega

/-! ## References -/

/-- Reads a column reference: the names between its points, and what is left behind the last one. -/
def readReference? (d : Delimiter) (t : Text) : Option (List Text × Text) :=
  match _ : d.readName? t with
  | none => none
  | some (name, '.' :: rest) =>
    (readReference? d rest).map fun (names, left) => (name :: names, left)
  | some (name, rest) => some ([name], rest)
termination_by t.length
decreasing_by
  have hlength := length_lt_of_readName? (by assumption)
  rw [List.length_cons] at hlength
  omega

/-- A name without a point behind it is the last one. -/
theorem readReference?_last {t name rest : Text} (h : d.readName? t = some (name, rest))
    (hpoint : rest.head? ≠ some '.') : d.readReference? t = some ([name], rest) := by
  rw [readReference?.eq_def]
  split
  · rename_i hread
    rw [h] at hread
    cases hread
  · rename_i hread
    rw [h] at hread
    cases hread
    exact absurd rfl hpoint
  · rename_i hread
    rw [h] at hread
    cases hread
    rfl

/-- A name with a point behind it is followed by the other names. -/
theorem readReference?_more {t name rest : Text} (h : d.readName? t = some (name, '.' :: rest)) :
    d.readReference? t =
      (d.readReference? rest).map fun (names, left) => (name :: names, left) := by
  rw [readReference?.eq_def]
  split
  · rename_i hread
    rw [h] at hread
    cases hread
  · rename_i hread
    rw [h] at hread
    cases hread
    rfl
  · rename_i hno hread
    rw [h] at hread
    cases hread
    exact absurd rfl (hno rest)

/-- A reference in writing, with a point behind each part in front of its last name. -/
def writeReference (d : Delimiter) (parts : List Text) (name : Text) : Text :=
  parts.flatMap (fun part => d.quote part ++ ['.']) ++ d.quote name

theorem writeReference_cons (part : Text) (parts : List Text) (name : Text) :
    d.writeReference (part :: parts) name = d.quote part ++ '.' :: d.writeReference parts name := by
  simp [writeReference]

theorem closing_ne_point (hpair : d.pair? = some (opening, closing)) : closing ≠ '.' := by
  cases d <;> cases hpair <;> decide

/-- A reference is read back where it is written, if what follows goes on neither with its last name
nor with a point. -/
theorem readReference?_writeReference (hpair : d.pair? = some (opening, closing)) {rest : Text}
    (hclosing : rest.head? ≠ some closing) (hpoint : rest.head? ≠ some '.') (parts : List Text)
    (name : Text) :
    d.readReference? (d.writeReference parts name ++ rest) = some (parts ++ [name], rest) := by
  induction parts with
  | nil =>
      have hread : d.readName? (d.quote name ++ rest) = some (name, rest) :=
        (readName?_eq_some_iff hpair).2 ⟨rfl, hclosing⟩
      exact readReference?_last hread hpoint
  | cons part parts ih =>
      have hread : d.readName? (d.quote part ++ '.' :: (d.writeReference parts name ++ rest)) =
          some (part, '.' :: (d.writeReference parts name ++ rest)) := by
        refine (readName?_eq_some_iff hpair).2 ⟨rfl, ?_⟩
        simpa using Ne.symm (closing_ne_point hpair)
      rw [writeReference_cons, List.append_assoc, List.cons_append, readReference?_more hread, ih]
      rfl

/-- Only a reference in writing is read as one. -/
theorem eq_writeReference_of_readReference? (hpair : d.pair? = some (opening, closing))
    {t rest : Text} {names : List Text} (h : d.readReference? t = some (names, rest)) :
    ∃ parts name, names = parts ++ [name] ∧ t = d.writeReference parts name ++ rest := by
  fun_induction readReference? d t generalizing names with
  | case1 => cases h
  | case2 t name more hread ih =>
      obtain ⟨⟨others, left⟩, hothers, h⟩ := Option.map_eq_some_iff.1 h
      cases h
      obtain ⟨parts, last, rfl, rfl⟩ := ih hothers
      obtain ⟨rfl, -⟩ := (readName?_eq_some_iff hpair).1 hread
      exact ⟨name :: parts, last, rfl, by simp [writeReference_cons]⟩
  | case3 t name more hno hread =>
      cases h
      exact ⟨[], name, rfl, ((readName?_eq_some_iff hpair).1 hread).1⟩

end Delimiter

/-! ## Columns -/

namespace Profile

/-- The parts of a qualifier. -/
def segments : Option Text → List Text
  | none => []
  | some qualifier => Text.splitOn '.' qualifier

theorem column_eq (p : Profile) (qualifier : Option Text) (name : Text) :
    p.column qualifier name = p.delimiter.writeReference (segments qualifier) name := by
  cases qualifier <;> rfl

/-- **Column references are read back in any context.**  Whatever is written behind the reference of
a column, unless it begins with the closing delimiter or a point, a reader of references finds the
parts of the qualifier and then the name of the column, with all their characters, and leaves
exactly what is written behind them.  It finds them in no other text. -/
theorem column_read_back (p : Profile) {opening closing : Char}
    (hpair : p.delimiter.pair? = some (opening, closing)) (qualifier : Option Text) (name : Text)
    {rest : Text} (hclosing : rest.head? ≠ some closing) (hpoint : rest.head? ≠ some '.') :
    p.delimiter.readReference? (p.column qualifier name ++ rest) =
        some (segments qualifier ++ [name], rest) ∧
      ∀ t, p.delimiter.readReference? t = some (segments qualifier ++ [name], rest) →
        t = p.column qualifier name ++ rest := by
  rw [column_eq]
  refine ⟨Delimiter.readReference?_writeReference hpair hclosing hpoint _ name, ?_⟩
  intro t ht
  obtain ⟨parts, last, hnames, rfl⟩ := Delimiter.eq_writeReference_of_readReference? hpair ht
  obtain ⟨rfl, hlast⟩ := List.append_inj' hnames rfl
  cases hlast
  rfl

/-- Brackets and points in names, an empty part, and a test behind the reference. -/
theorem column_read_back_brackets :
    Dialect.mssql.profile.delimiter.pair? = some ('[', ']') ∧
      Dialect.mssql.profile.column (some "a].".toList) "].[x]".toList =
        "[a]]].[].[]].[x]]]".toList ∧
      Delimiter.bracket.readReference? "[a]]].[].[]].[x]]] LIKE @1".toList =
        some (["a]".toList, [], "].[x]".toList], " LIKE @1".toList) := by
  have hpair : Dialect.mssql.profile.delimiter.pair? = some ('[', ']') := rfl
  have hclosing : " LIKE @1".toList.head? ≠ some ']' := by decide
  have hpoint : " LIKE @1".toList.head? ≠ some '.' := by decide
  exact ⟨hpair, rfl, (column_read_back _ hpair (some "a].".toList) "].[x]".toList
    hclosing hpoint).1⟩

end Profile
end SqlFilter
