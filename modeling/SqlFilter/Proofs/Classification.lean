import SqlFilter.Proofs.Recognition
import SqlFilter.Proofs.Rejection

/-!
# Classification of raw literals

Classifying a raw literal loses nothing of it, and it does not matter which shape is tried first.

* `Argument.shapes` are the shapes in the order in which they are tried, and `Argument.inferIn`
  classifies with the shapes tried in another order;
* `Argument.eq_of_mem_shapes`: no text has two of the shapes;
* `Error.Quotes` says that an error quotes a text for its argument, in its own wording and in that
  of its cause.

The main statement is `Argument.infer_lossless`.
-/

namespace SqlFilter

/-! ## Quotations -/

namespace Error

/-- The argument that an error is about. -/
def argument? : Error → Option Text
  | invalidArgumentType _ argument _ => some argument
  | argumentConversion _ argument _ => some argument
  | _ => none

/-- The failed conversion behind an error. -/
def cause? : Error → Option ConversionError
  | argumentConversion _ _ cause => some cause
  | _ => none

/-- An error quotes a text as its argument wherever it quotes one. -/
structure Quotes (x : Error) (t : Text) : Prop where
  /-- The text is the argument. -/
  argument : x.argument? = some t
  /-- It stands in the wording of the error. -/
  message : quoted t <:+: x.message
  /-- It is what could not be converted, and stands in the wording of that. -/
  cause : ∀ cause, x.cause? = some cause → cause.literal = t ∧ quoted t <:+: cause.message

theorem quoted_infix_message (cause : ConversionError) :
    quoted cause.literal <:+: cause.message := by
  unfold ConversionError.message
  exact ⟨[], " is not a valid ".toList ++ cause.target, by simp [quoted]⟩

theorem quotes_invalidArgumentType (selector t : Text) (type : FieldType) :
    Quotes (.invalidArgumentType selector t type) t where
  argument := rfl
  message := by
    unfold Error.message
    simp only [List.append_assoc]
    exact ⟨_, _, List.append_assoc _ _ _⟩
  cause _ h := by cases h

theorem quotes_argumentConversion (selector : Text) (cause : ConversionError) :
    Quotes (.argumentConversion selector cause.literal cause) cause.literal where
  argument := rfl
  message := by
    unfold Error.message
    simp only [List.append_assoc]
    exact ⟨_, _, List.append_assoc _ _ _⟩
  cause _ h := by
    cases h
    exact ⟨rfl, quoted_infix_message cause⟩

end Error

/-- The error of a constraint with a known selector is what negotiation refuses its argument for. -/
theorem Builder.negotiate_of_fault? {b : Builder} {now : Instant} {c : Constraint} {f : Field}
    {comparison : Comparison} {a : Argument} {x : Error}
    (hf : b.catalog.resolve? c.selector = some f) (hc : c.comparison = some (comparison, a))
    (hx : b.fault? now c = some x) : negotiate now c.selector f.type a = .error x := by
  cases hn : negotiate now c.selector f.type a with
  | ok n =>
      rw [fault?, bind_compared hf hc, hn] at hx
      cases hx
  | error y =>
      rw [fault?_of_negotiate hf hc hn, Option.some.injEq] at hx
      rw [hx]

namespace Argument

variable {raw : Text}

/-! ## Failed conversions -/

/-- A failed conversion is about the literal. -/
theorem literal_of_converted {α : Type} {literal target : Text} {o : Option α}
    {cause : ConversionError} (h : converted literal target o = .error cause) :
    cause.literal = literal := by
  cases o with
  | none =>
      cases h
      rfl
  | some v => cases h

theorem literal_of_toOffsetInstant {now : Instant} {a : Argument} {cause : ConversionError}
    (h : a.toOffsetInstant now = .error cause) : cause.literal = a.literal := by
  cases hspan : a.toSpan with
  | ok span =>
      rw [toOffsetInstant_of_ok hspan] at h
      exact literal_of_converted h
  | error failed =>
      unfold toOffsetInstant at h
      rw [hspan] at h
      cases h
      exact literal_of_converted hspan

/-- A conversion fails whatever its value is used for. -/
theorem eq_error_of_map {α β : Type} {r : Except ConversionError α} {f : α → β}
    {cause : ConversionError} (h : r.map f = .error cause) : r = .error cause := by
  cases r with
  | ok v => cases h
  | error failed =>
      cases h
      rfl

/-- No argument that is plain text is converted, and a conversion that failed was that of the
literal. -/
theorem of_negotiate_argumentConversion {now : Instant} {selector s t : Text} {type : FieldType}
    {a : Argument} {cause : ConversionError}
    (h : negotiate now selector type a = .error (.argumentConversion s t cause)) :
    a.kind ≠ .text ∧ cause.literal = a.literal := by
  unfold negotiate at h
  split at h
  case h_1 => cases h
  case h_6 => cases h
  -- what is left are the four conversions
  all_goals
    rename_i hkind
    dsimp only at h
    split at h
    case h_1 => cases h
    rename_i hfailed
    cases h
    have hconversion := eq_error_of_map hfailed
    refine ⟨by simp [hkind], ?_⟩
  · exact literal_of_converted hconversion
  · exact literal_of_converted hconversion
  · exact literal_of_converted hconversion
  · exact literal_of_toOffsetInstant hconversion

/-- What is not taken for plain text is taken as it is. -/
theorem literal_infer (h : (infer raw).kind ≠ .text) : (infer raw).literal = raw := by
  by_cases hshape : HasShape raw
  · exact (infer_of_hasShape hshape).1
  · rw [infer_of_not_hasShape hshape] at h
    exact absurd rfl h

/-- The error of a constraint that is about an argument is about that of the constraint, and quotes
the raw literal if the argument is one. -/
theorem quotes_of_fault? {b : Builder} {now : Instant} {c : Constraint} {x : Error}
    (hx : b.fault? now c = some x) (hargument : x.argument? ≠ none) :
    ∃ comparison a, c.comparison = some (comparison, a) ∧ ∀ raw, a = infer raw → x.Quotes raw := by
  cases hf : b.catalog.resolve? c.selector with
  | none =>
      rw [Builder.fault?_of_unknown hf] at hx
      cases hx
      exact absurd rfl hargument
  | some f =>
      obtain ⟨comparison, a, hc, hcause⟩ := Builder.fault?_of_known hf hx
      refine ⟨comparison, a, hc, ?_⟩
      rintro raw rfl
      rw [print_infer] at hcause
      rcases hcause with rfl | ⟨cause, rfl⟩
      · exact Error.quotes_invalidArgumentType c.selector raw f.type
      · obtain ⟨hkind, hliteral⟩ :=
          of_negotiate_argumentConversion (Builder.negotiate_of_fault? hf hc hx)
        rw [literal_infer hkind] at hliteral
        rw [← hliteral]
        exact Error.quotes_argumentConversion c.selector cause

/-! ## Shapes in any order -/

/-- The shapes that are told apart from plain text, in the order in which they are tried. -/
def shapes : List ((Text → Bool) × ValueKind) :=
  [(looksLikeSpan, .span), (looksLikeDateTime, .dateTime), (looksLikeNumber, .number)]

/-- Classifies a raw literal with the shapes tried in the given order. -/
def inferIn (order : List ((Text → Bool) × ValueKind)) (raw : Text) : Argument :=
  match order.find? fun shape => shape.1 raw with
  | some shape => { literal := raw, kind := shape.2 }
  | none =>
    { literal := (cutTrailingStar (cutLeadingStar raw).2).2, kind := .text
      leading := (cutLeadingStar raw).1
      trailing := (cutTrailingStar (cutLeadingStar raw).2).1 }

theorem inferIn_shapes (raw : Text) : inferIn shapes raw = infer raw := by
  unfold inferIn shapes infer
  cases hspan : looksLikeSpan raw with
  | true => simp [hspan]
  | false =>
      cases hdate : looksLikeDateTime raw with
      | true => simp [hspan, hdate]
      | false => cases hnumber : looksLikeNumber raw <;> simp [hspan, hdate, hnumber]

theorem not_looksLikeSpan_of_looksLikeNumber (h : looksLikeNumber raw = true) :
    ¬ looksLikeSpan raw = true := by
  obtain ⟨x, hx⟩ := looksLikeNumber_iff.1 h
  exact not_looksLikeSpan_of_read? hx

theorem not_looksLikeDateTime_of_looksLikeNumber (h : looksLikeNumber raw = true) :
    ¬ looksLikeDateTime raw = true := by
  obtain ⟨x, hx⟩ := looksLikeNumber_iff.1 h
  exact not_looksLikeDateTime_of_read? hx

/-- A text has at most one of the shapes. -/
theorem eq_of_mem_shapes {shape shape' : (Text → Bool) × ValueKind} (h : shape ∈ shapes)
    (h' : shape' ∈ shapes) (hraw : shape.1 raw = true) (hraw' : shape'.1 raw = true) :
    shape = shape' := by
  simp only [shapes, List.mem_cons, List.not_mem_nil, or_false] at h h'
  rcases h with rfl | rfl | rfl <;> rcases h' with rfl | rfl | rfl
  · rfl
  · exact absurd hraw (not_looksLikeSpan_of_looksLikeDateTime hraw')
  · exact absurd hraw (not_looksLikeSpan_of_looksLikeNumber hraw')
  · exact absurd hraw' (not_looksLikeSpan_of_looksLikeDateTime hraw)
  · rfl
  · exact absurd hraw (not_looksLikeDateTime_of_looksLikeNumber hraw')
  · exact absurd hraw' (not_looksLikeSpan_of_looksLikeNumber hraw)
  · exact absurd hraw' (not_looksLikeDateTime_of_looksLikeNumber hraw)
  · rfl

/-- What is found among things of which at most one is looked for does not depend on their
order. -/
theorem find?_perm {α : Type} {p : α → Bool} {l l' : List α} (hperm : l.Perm l')
    (hone : ∀ x ∈ l', ∀ y ∈ l', p x = true → p y = true → x = y) : l.find? p = l'.find? p := by
  cases hfound : l.find? p with
  | none =>
      rw [List.find?_eq_none] at hfound
      refine (List.find?_eq_none.2 fun x hx => ?_).symm
      exact hfound x (hperm.mem_iff.2 hx)
  | some x =>
      have hx : x ∈ l' := hperm.mem_iff.1 (List.mem_of_find?_eq_some hfound)
      have hpx : p x = true := List.find?_some hfound
      cases hfound' : l'.find? p with
      | none => exact absurd hpx (List.find?_eq_none.1 hfound' x hx)
      | some y =>
          rw [hone x hx y (List.mem_of_find?_eq_some hfound') hpx (List.find?_some hfound')]

theorem inferIn_perm {order : List ((Text → Bool) × ValueKind)} (h : order.Perm shapes)
    (raw : Text) : inferIn order raw = infer raw := by
  rw [← inferIn_shapes, inferIn, inferIn,
    find?_perm h fun s hs s' hs' => eq_of_mem_shapes hs hs']

/-- **Classification loses nothing.**  A raw literal that has been classified is written as it was,
and so every error about it that quotes an argument quotes the raw literal, wherever the constraint
stands in the filter.  A text has at most one of the three shapes, and therefore the order in which
they are tried does not matter. -/
theorem infer_lossless :
    (∀ raw : Text, (infer raw).print = raw) ∧
      (∀ (b : Builder) (now : Instant) (e : Expression) (xs : List Error),
        b.build now e = .error (.rejected xs) → ∀ x ∈ xs, x.argument? ≠ none →
          ∃ c ∈ e.constraints, b.errorsAlone now c = [x] ∧
            ∃ comparison a, c.comparison = some (comparison, a) ∧
              ∀ raw, a = infer raw → x.Quotes raw) ∧
      (∀ raw : Text, ¬(looksLikeSpan raw = true ∧ looksLikeDateTime raw = true) ∧
        ¬(looksLikeSpan raw = true ∧ looksLikeNumber raw = true) ∧
        ¬(looksLikeDateTime raw = true ∧ looksLikeNumber raw = true)) ∧
      ∀ order : List ((Text → Bool) × ValueKind), order.Perm shapes →
        ∀ raw : Text, inferIn order raw = infer raw := by
  refine ⟨print_infer, ?_, ?_, fun order horder raw => inferIn_perm horder raw⟩
  · intro b now e xs hbuild x hx hargument
    obtain ⟨-, hxs⟩ := (b.build_eq_error_iff now e _).1 hbuild
    cases hxs
    obtain ⟨c, hc, hfault⟩ := List.mem_filterMap.1 hx
    have halone : b.errorsAlone now c = [x] := by
      rw [Builder.errorsAlone_eq, hfault]
      rfl
    exact ⟨c, hc, halone, quotes_of_fault? hfault hargument⟩
  · intro raw
    refine ⟨?_, ?_, ?_⟩
    · rintro ⟨hspan, hdate⟩
      exact not_looksLikeSpan_of_looksLikeDateTime hdate hspan
    · rintro ⟨hspan, hnumber⟩
      exact not_looksLikeSpan_of_looksLikeNumber hnumber hspan
    · rintro ⟨hdate, hnumber⟩
      exact not_looksLikeDateTime_of_looksLikeNumber hnumber hdate

/-- A price that is text is quoted with its star, one that is no whole number as it is, and with the
shapes tried from the last to the first the one with a star is text too. -/
theorem infer_lossless_price :
    let b := Builder.shop Dialect.sqlite.profile
    let e : Text → Expression := fun raw =>
      .group (.constraint ⟨['t'], none⟩) [(.and, .constraint ⟨['P'], some (.less, infer raw)⟩)]
    let type : Error := .invalidArgumentType ['P'] "*1e3".toList .integer
    let value : Error := .argumentConversion ['P'] "1e3".toList ⟨"1e3".toList, "integer".toList⟩
    b.build Instant.epoch (e "*1e3".toList) = .error (.rejected [type]) ∧
      type.Quotes "*1e3".toList ∧
      b.build Instant.epoch (e "1e3".toList) = .error (.rejected [value]) ∧
      value.Quotes "1e3".toList ∧
      shapes.reverse.Perm shapes ∧ inferIn shapes.reverse "*1e3".toList = infer "*1e3".toList := by
  intro b e type value
  have hstar : infer "*1e3".toList =
      { literal := "1e3".toList, kind := .text, leading := true } := by decide +kernel
  have hnumber : infer "1e3".toList = { literal := "1e3".toList, kind := .number } := by
    decide +kernel
  have htype : b.build Instant.epoch (e "*1e3".toList) = .error (.rejected [type]) := by
    simp only [e, hstar]
    rfl
  have hvalue : b.build Instant.epoch (e "1e3".toList) = .error (.rejected [value]) := by
    simp only [e, hnumber]
    rfl
  obtain ⟨-, hquotes, -, hperm⟩ := infer_lossless
  have hof : ∀ (raw : Text) (x : Error), b.build Instant.epoch (e raw) = .error (.rejected [x]) →
      x.argument? ≠ none → x.Quotes raw := by
    intro raw x hbuild hx
    obtain ⟨c, hc, -, comparison, a, hca, hraw⟩ := hquotes b _ _ _ hbuild x (by simp) hx
    simp only [e, Expression.constraints, Expression.restConstraints, List.append_nil,
      List.singleton_append, List.mem_cons, List.not_mem_nil, or_false] at hc
    rcases hc with rfl | rfl
    · cases hca
    · cases hca
      exact hraw raw rfl
  exact ⟨htype, hof _ _ htype (by simp [type, Error.argument?]), hvalue,
    hof _ _ hvalue (by simp [value, Error.argument?]), List.reverse_perm _,
    hperm _ (List.reverse_perm _) _⟩

end Argument
end SqlFilter
