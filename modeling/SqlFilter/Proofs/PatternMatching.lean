import SqlFilter.Proofs.ColumnReading
import SqlFilter.Proofs.LikePatterns
import SqlFilter.Proofs.Translation

/-!
# What a filter on a text matches

An equality filter on a text field is a pattern match.  Its operand is evaluated here the way an
engine does it, and the pattern that results is matched against the values of the column.

* `Operand.eval?` is the value of an operand: literals and bound values, joined by `CONCAT` or by
  `||`;
* `Operand.eval?_pattern` says what the operand of a pattern match evaluates to.

The main statement is `Builder.equal_matches`.  The literal of an argument is bound as it is, so
that percent signs and underscores in it are wildcards too (`Builder.equal_matches_more`).
-/

namespace SqlFilter

/-! ## Operands -/

namespace Operand

/-- Reads a term of an operand: a literal, or a placeholder that `value` gives a value. -/
def readTerm? (value : Text → Option Text) : Text → Option (Text × Text)
  | [] => none
  | c :: rest =>
    if c = '\'' then Text.readDoubled? '\'' rest
    else if PlaceholderStyle.isMark c then
      let (digits, left) := Text.run Char.isDigit rest
      (value (c :: digits)).map fun v => (v, left)
    else none

/-- A term is not empty. -/
theorem length_lt_of_readTerm? {value : Text → Option Text} {t v rest : Text}
    (h : readTerm? value t = some (v, rest)) : rest.length < t.length := by
  cases t with
  | nil => cases h
  | cons c t =>
      rw [readTerm?] at h
      split at h
      · obtain ⟨rfl, -⟩ := Text.eq_double_of_readDoubled? h
        simp only [List.length_append, List.length_cons]
        omega
      · split at h
        · obtain ⟨w, -, hw⟩ := Option.map_eq_some_iff.1 h
          cases hw
          exact Nat.lt_succ_of_le (List.dropWhile_suffix _).length_le
        · cases h

/-- Reads terms with `separator` between them: their values joined, and what is left. -/
def readTerms? (value : Text → Option Text) (separator t : Text) : Option (Text × Text) :=
  match _ : readTerm? value t with
  | none => none
  | some (v, rest) =>
    match _ : Text.strip? separator rest with
    | none => some (v, rest)
    | some more => (readTerms? value separator more).map fun (w, left) => (v ++ w, left)
termination_by t.length
decreasing_by
  have hterm := length_lt_of_readTerm? (by assumption)
  have hrest := congrArg List.length (Text.strip?_eq_some_iff.1 (by assumption))
  rw [List.length_append] at hrest
  omega

/-- The value of an operand: the arguments of `CONCAT`, or terms with `||` between them. -/
def eval? (value : Text → Option Text) (t : Text) : Option Text :=
  match Text.strip? "CONCAT(".toList t with
  | some arguments =>
    match readTerms? value [','] arguments with
    | some (v, [')']) => some v
    | _ => none
  | none =>
    match readTerms? value " || ".toList t with
    | some (v, []) => some v
    | _ => none

section Reading

variable {value : Text → Option Text} {separator t v rest : Text}

/-- A term without a separator behind it is the last one. -/
theorem readTerms?_last (h : readTerm? value t = some (v, rest))
    (hrest : Text.strip? separator rest = none) :
    readTerms? value separator t = some (v, rest) := by
  rw [readTerms?.eq_def]
  split
  · rename_i hread
    rw [h] at hread
    cases hread
  · rename_i hread
    rw [h] at hread
    cases hread
    split
    · rfl
    · rename_i hmore
      rw [hrest] at hmore
      cases hmore

/-- A term with a separator behind it is followed by the other terms. -/
theorem readTerms?_more {more : Text} (h : readTerm? value t = some (v, separator ++ more)) :
    readTerms? value separator t =
      (readTerms? value separator more).map fun (w, left) => (v ++ w, left) := by
  have hstrip : Text.strip? separator (separator ++ more) = some more :=
    Text.strip?_eq_some_iff.2 rfl
  rw [readTerms?.eq_def]
  split
  · rename_i hread
    rw [h] at hread
    cases hread
  · rename_i hread
    rw [h] at hread
    cases hread
    split
    · rename_i hmore
      rw [hstrip] at hmore
      cases hmore
    · rename_i hmore
      rw [hstrip] at hmore
      cases hmore
      rfl

/-- Whether a term ends in front of a text, because that does not go on with its digits or its
quotation mark. -/
def EndsAt (rest : Text) : Prop := ∀ c ∈ rest.head?, c ≠ '\'' ∧ c.isDigit = false

/-- Whether a text is a term with the value `v`. -/
def IsTerm (value : Text → Option Text) (x v : Text) : Prop :=
  ∀ rest, EndsAt rest → readTerm? value (x ++ rest) = some (v, rest)

theorem endsAt_nil : EndsAt [] := by
  simp [EndsAt]

theorem endsAt_cons {c : Char} (hquote : c ≠ '\'') (hdigit : c.isDigit = false) :
    EndsAt (c :: rest) := by
  intro d hd
  cases hd
  exact ⟨hquote, hdigit⟩

theorem isTerm_anyText : IsTerm value Concatenation.anyText ['%'] := by
  intro rest hrest
  have hhead : rest.head? ≠ some '\'' := fun h => (hrest '\'' h).1 rfl
  exact Text.readDoubled?_double hhead ['%']

theorem isTerm_placeholder {s : PlaceholderStyle} {number : Nat}
    (h : value (s.placeholder number) = some v) : IsTerm value (s.placeholder number) v := by
  intro rest hrest
  obtain ⟨mark, digits, hs, hmark, hdigits⟩ := s.placeholder_eq number
  have hquote : mark ≠ '\'' := by
    rintro rfl
    cases hmark
  have hrun : Text.run Char.isDigit (digits ++ rest) = (digits, rest) :=
    Text.run_append hdigits fun c hc => (hrest c hc).2
  rw [hs] at h ⊢
  rw [List.cons_append, readTerm?, if_neg hquote, if_pos hmark, hrun]
  simp only [h, Option.map_some]

/-- Terms with separators between them are read one after another. -/
theorem readTerms?_joinWith (hseparator : ∀ t, EndsAt (separator ++ t)) (hrest : EndsAt rest)
    (hend : Text.strip? separator rest = none) {xs vs : List Text}
    (h : List.Forall₂ (IsTerm value) xs vs) (hxs : xs ≠ []) :
    readTerms? value separator (Text.joinWith separator xs ++ rest) =
      some (vs.flatten, rest) := by
  induction h with
  | nil => exact absurd rfl hxs
  | cons hx hothers ih =>
      -- the last term is followed by `rest`, every other one by a separator
      cases hothers with
      | nil =>
          rw [Text.joinWith, List.flatten_singleton]
          exact readTerms?_last (hx rest hrest) hend
      | cons hy hothers =>
          rw [Text.joinWith, List.append_assoc, List.append_assoc,
            readTerms?_more (hx _ (hseparator _)), ih (List.cons_ne_nil _ _)]
          rfl

/-- Terms with the operator between them evaluate to their values in a row, if they do not look like
a call. -/
theorem eval?_terms {xs vs : List Text} (h : List.Forall₂ (IsTerm value) xs vs) (hxs : xs ≠ [])
    (hcall : Text.strip? "CONCAT(".toList (Text.joinWith " || ".toList xs) = none) :
    eval? value (Text.joinWith " || ".toList xs) = some vs.flatten := by
  have hseparator : ∀ t, EndsAt (" || ".toList ++ t) :=
    fun t => endsAt_cons (by decide) (by decide)
  have hread := readTerms?_joinWith hseparator endsAt_nil rfl h hxs
  rw [List.append_nil] at hread
  rw [eval?, hcall]
  simp only [hread]

/-- A call evaluates to the values of its arguments in a row. -/
theorem eval?_call {xs vs : List Text} (h : List.Forall₂ (IsTerm value) xs vs) (hxs : xs ≠ []) :
    eval? value ("CONCAT(".toList ++ (Text.joinWith [','] xs ++ [')'])) = some vs.flatten := by
  have hseparator : ∀ t, EndsAt ([','] ++ t) := fun t => endsAt_cons (by decide) (by decide)
  have hend : EndsAt [')'] := endsAt_cons (by decide) (by decide)
  have hread := readTerms?_joinWith hseparator hend rfl h hxs
  rw [eval?, Text.strip?_eq_some_iff.2 rfl]
  simp only [hread]

end Reading

/-! ## Operands of pattern matches -/

/-- The terms that are joined around an operand. -/
def aroundTerms (leading trailing : Bool) (any operand : Text) : List Text :=
  (if leading then [any] else []) ++ operand :: if trailing then [any] else []

section Around

variable {leading trailing : Bool}

theorem aroundTerms_ne_nil {any operand : Text} :
    aroundTerms leading trailing any operand ≠ [] := by
  simp [aroundTerms]

theorem flatten_aroundTerms (t : Text) :
    (aroundTerms leading trailing ['%'] t).flatten = Like.around leading trailing t := by
  cases leading <;> cases trailing <;> simp [aroundTerms, Like.around]

theorem isTerm_aroundTerms {value : Text → Option Text} {operand v : Text}
    (h : IsTerm value operand v) :
    List.Forall₂ (IsTerm value) (aroundTerms leading trailing Concatenation.anyText operand)
      (aroundTerms leading trailing ['%'] v) := by
  cases leading <;> cases trailing <;> simp [aroundTerms, h, isTerm_anyText]

/-- With the operator, and where nothing is joined, the terms stand by themselves. -/
theorem pattern_eq_joinWith {c : Concatenation}
    (h : c = .operator ∨ leading = false ∧ trailing = false) (operand : Text) :
    c.pattern operand leading trailing = Text.joinWith " || ".toList
      (aroundTerms leading trailing Concatenation.anyText operand) := by
  rcases h with rfl | ⟨rfl, rfl⟩
  · cases leading <;> cases trailing <;>
      simp [Concatenation.pattern, aroundTerms, Text.joinWith]
  · rfl

/-- With the function, the terms are its arguments. -/
theorem pattern_eq_arguments (h : ¬ (leading = false ∧ trailing = false)) (operand : Text) :
    Concatenation.function.pattern operand leading trailing =
      "CONCAT(".toList ++ (Text.joinWith [',']
        (aroundTerms leading trailing Concatenation.anyText operand) ++ [')']) := by
  cases leading with
  | false =>
      cases trailing with
      | false => exact absurd ⟨rfl, rfl⟩ h
      | true => simp [Concatenation.pattern, aroundTerms, Text.joinWith]
  | true => cases trailing <;> simp [Concatenation.pattern, aroundTerms, Text.joinWith]

/-- Terms that stand by themselves do not look like a call. -/
theorem strip?_aroundTerms (s : PlaceholderStyle) (number : Nat) :
    Text.strip? "CONCAT(".toList (Text.joinWith " || ".toList
      (aroundTerms leading trailing Concatenation.anyText (s.placeholder number))) = none := by
  obtain ⟨mark, digits, hs, hmark, -⟩ := s.placeholder_eq number
  have hC : 'C' ≠ mark := by
    rintro rfl
    cases hmark
  rw [hs]
  cases leading <;> cases trailing <;>
    simp [aroundTerms, Text.joinWith, Text.strip?, Concatenation.anyText, hC]

/-- **The value of a pattern.**  An operand in which a placeholder stands between percent signs
evaluates to its value between percent signs, in either way of joining texts. -/
theorem eval?_pattern {value : Text → Option Text} {s : PlaceholderStyle} {number : Nat} {v : Text}
    (h : value (s.placeholder number) = some v) (c : Concatenation) (leading trailing : Bool) :
    eval? value (c.pattern (s.placeholder number) leading trailing) =
      some (Like.around leading trailing v) := by
  have hterms : List.Forall₂ (IsTerm value)
      (aroundTerms leading trailing Concatenation.anyText (s.placeholder number))
      (aroundTerms leading trailing ['%'] v) := isTerm_aroundTerms (isTerm_placeholder h)
  rw [← flatten_aroundTerms]
  by_cases halone : c = .operator ∨ leading = false ∧ trailing = false
  · rw [pattern_eq_joinWith halone]
    exact eval?_terms hterms aroundTerms_ne_nil (strip?_aroundTerms s number)
  · rw [not_or] at halone
    cases c with
    | function =>
        rw [pattern_eq_arguments halone.2]
        exact eval?_call hterms aroundTerms_ne_nil
    | operator => exact absurd rfl halone.1

end Around

end Operand

/-! ## Filters on texts -/

/-- The text that the placeholder of a predicate with a single value stands for. -/
def Predicate.only? (p : Predicate) (s : PlaceholderStyle) (placeholder : Text) : Option Text :=
  match p.params with
  | [.text t] => if placeholder = s.placeholder 1 then some t else none
  | _ => none

namespace Builder

variable {b : Builder} {selector : Text} {f : Field}

/-- The predicate of an equality filter on a text field. -/
theorem build_equal (hf : b.catalog.resolve? selector = some f) (htype : f.type = .text)
    (now : Instant) (a : Argument) :
    b.build now (.constraint ⟨selector, some (.equal, a)⟩) =
      .ok ⟨"(".toList ++ b.column f ++ " LIKE ".toList ++
        b.profile.concatenation.pattern (b.profile.placeholders.placeholder 1) a.leading a.trailing
          ++ ")".toList, [.text a.literal]⟩ := by
  have hbind : b.bind now ⟨selector, some (.equal, a)⟩ = .ok [.text a.literal] := by
    simp only [bind, hf, htype]
    rfl
  have htest : Constraint.test ⟨selector, some (.equal, a)⟩ f.type =
      .compared .like a.leading a.trailing := by
    rw [htype]
    rfl
  rw [build_constraint_of_bind hf hbind, htest, Test.print]
  simp only [List.append_assoc, List.cons_append]
  rfl

/-- **What an equality filter on a text field matches.**  Its predicate compares the column with an
operand that evaluates to a pattern.  The pattern matches a value if all of it, or its end, its
beginning or any part of it, as the wildcards of the argument say, is matched by the literal as a
pattern of its own.  So every value that the argument asks for is matched, and no other value is,
whatever the values are, exactly if the literal has no percent sign and no underscore. -/
theorem equal_matches (hf : b.catalog.resolve? selector = some f) (htype : f.type = .text)
    (now : Instant) (a : Argument) :
    ∃ p operand pattern,
      b.build now (.constraint ⟨selector, some (.equal, a)⟩) = .ok p ∧
      p.sql = "(".toList ++ b.column f ++ " LIKE ".toList ++ operand ++ ")".toList ∧
      Operand.eval? (p.only? b.profile.placeholders) operand = some pattern ∧
      (∀ s, Like.Matches pattern s ↔
        ∃ part, Text.Within a.leading a.trailing part s ∧ Like.Matches a.literal part) ∧
      (∀ s, a.AsksFor s → Like.Matches pattern s) ∧
      ((∀ s, Like.Matches pattern s ↔ a.AsksFor s) ↔ '%' ∉ a.literal ∧ '_' ∉ a.literal) := by
  refine ⟨_, _, Like.around a.leading a.trailing a.literal, build_equal hf htype now a, rfl,
    Operand.eval?_pattern ?_ _ _ _, ?_, ?_, ?_⟩
  · exact if_pos rfl
  · intro s
    exact Like.matches_around
  · intro s hs
    exact Like.matches_around_of_within hs
  · exact Like.matches_around_exact_iff

/-- A lamp anywhere in the title. -/
theorem equal_matches_lamp :
    ∃ f, (shop Dialect.sqlite.profile).catalog.resolve? ['t'] = some f ∧ f.type = .text ∧
      ∃ p operand pattern,
        (shop Dialect.sqlite.profile).build Instant.epoch (.constraint
          ⟨['t'], some (.equal, ⟨"lamp".toList, .text, true, true⟩)⟩) = .ok p ∧
        p.sql = "(".toList ++ (shop Dialect.sqlite.profile).column f ++ " LIKE ".toList ++
          operand ++ ")".toList ∧
        Operand.eval? (p.only? .questionMark) operand = some pattern ∧
        ∀ s, Like.Matches pattern s ↔ "lamp".toList <:+: s := by
  have hf : (shop Dialect.sqlite.profile).catalog.resolve? ['t'] = some
      { column := "ti\"t]le".toList, aliasName := ['T'], type := .text,
        qualifier := some "shop.items".toList } := rfl
  obtain ⟨p, operand, pattern, hp, hsql, heval, -, -, hexact⟩ :=
    equal_matches hf rfl Instant.epoch ⟨"lamp".toList, .text, true, true⟩
  exact ⟨_, hf, rfl, p, operand, pattern, hp, hsql, heval, hexact.2 (by decide)⟩

/-- A literal with a percent sign matches a value that is not asked for. -/
theorem equal_matches_more :
    (shop Dialect.mssql.profile).build Instant.epoch (.constraint
        ⟨['t'], some (.equal, ⟨"50%".toList, .text, false, false⟩)⟩) =
      .ok ⟨"([shop].[items].[ti\"t]]le] LIKE @1)".toList, [.text "50%".toList]⟩ ∧
    Operand.eval? (Predicate.only? ⟨"([shop].[items].[ti\"t]]le] LIKE @1)".toList,
      [.text "50%".toList]⟩ .atSign) "@1".toList = some "50%".toList ∧
    ¬ (Like.Matches "50%".toList "50 lamps".toList ↔
      Argument.AsksFor ⟨"50%".toList, .text, false, false⟩ "50 lamps".toList) := by
  have hvalue : Predicate.only? ⟨"([shop].[items].[ti\"t]]le] LIKE @1)".toList,
      [.text "50%".toList]⟩ .atSign (PlaceholderStyle.atSign.placeholder 1) =
        some "50%".toList := rfl
  refine ⟨rfl, Operand.eval?_pattern hvalue .function false false, ?_⟩
  intro h
  have hmatches : Like.Matches "50%".toList "50 lamps".toList := by decide
  have hequal : "50 lamps".toList = "50%".toList := h.1 hmatches
  exact absurd hequal (by decide)

end Builder
end SqlFilter
