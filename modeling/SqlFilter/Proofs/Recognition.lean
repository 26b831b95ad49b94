import SqlFilter.Proofs.SpanGrammar
import SqlFilter.Proofs.Wildcards

/-!
# Recognised literals

A raw literal is classified by its shape before anything is converted.  No literal that can be
converted is lost by that.

* `Argument.looksLikeSpan_print`: every written span has the shape of a span;
* `Argument.looksLikeNumber_iff`: the texts with the shape of a number are the numerals with a
  finite value, and none of them has another shape;
* `Argument.exists_read?_of_int64?`: a whole number of 64 bits is a numeral with a finite value.

The main statements are `Argument.spans_recognised` and `Argument.numbers_recognised`.
-/

namespace SqlFilter

/-! ## Spans -/

namespace Span

theorem exists_isDigit_mem_number (c : Component) : ∃ ch ∈ c.number, ch.isDigit = true := by
  obtain ⟨ch, hch⟩ := List.exists_mem_of_ne_nil _ c.ne_nil
  refine ⟨ch, ?_, c.isDigit ch hch⟩
  unfold Component.number
  cases hpart : c.part with
  | none => simpa [hpart] using hch
  | some part =>
      rw [hpart] at hch
      rcases List.mem_append.1 hch with hch | hch
      · exact List.mem_append_left _ hch
      · exact List.mem_append_right _ (List.mem_cons_of_mem _ hch)

theorem exists_isDigit_mem_printAll {cs : List Component} (h : cs ≠ []) :
    ∃ ch ∈ printAll cs, ch.isDigit = true := by
  obtain ⟨c, hc⟩ := List.exists_mem_of_ne_nil cs h
  obtain ⟨ch, hch, hdigit⟩ := exists_isDigit_mem_number c
  exact ⟨ch, List.mem_flatMap.2 ⟨c, hc, List.mem_append_left _ hch⟩, hdigit⟩

/-- There is a digit behind the letter P. -/
theorem Written.exists_isDigit_mem_body (w : Written) : ∃ ch ∈ w.body, ch.isDigit = true := by
  unfold body
  rcases w.some_component with h | h
  · obtain ⟨ch, hch, hdigit⟩ := exists_isDigit_mem_printAll h
    exact ⟨ch, List.mem_append_left _ hch, hdigit⟩
  · obtain ⟨ch, hch, hdigit⟩ := exists_isDigit_mem_printAll h
    rw [if_neg h]
    exact ⟨ch, List.mem_append_right _ (List.mem_cons_of_mem _ hch), hdigit⟩

end Span

namespace Argument
open SqlFilter.Span

/-- Components whose units are units of spans have no characters but those of spans. -/
theorem isSpanChar_of_mem_printAll {cs : List Component} {units : List Char}
    (hcs : (cs.map Component.unit).Sublist units) (hunits : ∀ u ∈ units, isSpanChar u = true)
    {ch : Char} (h : ch ∈ printAll cs) : isSpanChar ch = true := by
  rcases mem_printAll h with h | h
  · unfold isNumberChar at h
    rw [isSpanChar, h, Bool.true_or]
  · exact hunits ch (hcs.subset h)

/-- A written span has the shape of a span. -/
theorem looksLikeSpan_print (w : Written) : looksLikeSpan w.print = true := by
  have hchars : ∀ ch ∈ w.body, isSpanChar ch = true := by
    intro ch hch
    unfold Written.body at hch
    rcases List.mem_append.1 hch with hch | hch
    · exact isSpanChar_of_mem_printAll w.date_units (List.all_eq_true.1 rfl) hch
    · by_cases htime : w.time = []
      · rw [if_pos htime] at hch
        cases hch
      · rw [if_neg htime] at hch
        rcases List.mem_cons.1 hch with rfl | hch
        · rfl
        · exact isSpanChar_of_mem_printAll w.time_units (List.all_eq_true.1 rfl) hch
  simp only [looksLikeSpan, w.cutSign_print, Bool.and_eq_true, List.any_eq_true, List.all_eq_true]
  exact ⟨w.exists_isDigit_mem_body, hchars⟩

theorem infer_of_looksLikeSpan {raw : Text} (h : looksLikeSpan raw = true) :
    infer raw = { literal := raw, kind := .span } := by
  rw [infer, if_pos h]

/-- **Spans are recognised.**  A raw literal that can be converted to a span is classified as one, as
it stands.  So it can be compared with every date field, and is bound as the time that lies the span
behind the reference time, if that is in range. -/
theorem spans_recognised {raw : Text} {span : Span}
    (h : toSpan { literal := raw, kind := .span } = .ok span) :
    infer raw = { literal := raw, kind := .span, leading := false, trailing := false } ∧
      ∀ (b : Builder) (now : Instant) (selector : Text) (comparison : Comparison) (f : Field)
        (t : Instant), b.catalog.resolve? selector = some f → f.type = .dateTime →
        now.plus? span = some t →
          ∃ sql, b.build now (.constraint ⟨selector, some (comparison, infer raw)⟩) =
            .ok ⟨sql, [.instant t]⟩ := by
  obtain ⟨w, rfl⟩ := exists_print_eq (toSpan_eq_ok_iff.1 h)
  have hinfer := infer_of_looksLikeSpan (looksLikeSpan_print w)
  refine ⟨hinfer, ?_⟩
  intro b now selector comparison f t hf htype hsum
  rw [hinfer]
  have hbound : BoundAs now { literal := w.print, kind := .span } f.type (.instant t) := by
    rw [htype]
    exact .offset rfl h hsum
  exact ⟨_, Builder.build_constraint_of_bind hf (Builder.bind_of_boundAs hf rfl hbound)⟩

/-- A week before the start of 1970 is found for a literal that says so. -/
theorem spans_recognised_week :
    let raw := "-P1W".toList
    let before : Instant := ⟨-604800, 0, by decide⟩
    toSpan { literal := raw, kind := .span } = .ok ⟨-604800000⟩ ∧
      Builder.diary.catalog.resolve? ['D'] =
        some { column := "day".toList, aliasName := ['d'], type := .dateTime } ∧
      Instant.epoch.plus? ⟨-604800000⟩ = some before ∧
      (infer raw).kind = .span ∧
      ∃ sql, Builder.diary.build Instant.epoch
          (.constraint ⟨['D'], some (.greater, infer raw)⟩) = .ok ⟨sql, [.instant before]⟩ := by
  intro raw before
  have hspan : toSpan { literal := raw, kind := .span } = .ok ⟨-604800000⟩ := by decide +kernel
  have hfield : Builder.diary.catalog.resolve? ['D'] =
      some { column := "day".toList, aliasName := ['d'], type := .dateTime } := by rfl
  have hsum : Instant.epoch.plus? ⟨-604800000⟩ = some before := by decide +kernel
  obtain ⟨hinfer, hbuild⟩ := spans_recognised hspan
  refine ⟨hspan, hfield, hsum, ?_, hbuild _ _ _ _ _ _ hfield rfl hsum⟩
  rw [hinfer]

/-! ## Numbers -/

variable {raw : Text}

/-- The texts with the shape of a number are those that are read as one. -/
theorem looksLikeNumber_iff : looksLikeNumber raw = true ↔ ∃ x, Binary64.read? raw = some x := by
  -- behind the sign there is a digit or a point, so that no other sign is taken for one
  have hsign : ∀ {c : Char} {rest : Text}, c.isDigit = true ∨ c = '.' →
      (Numeral.cutSign (c :: rest)).2 = c :: rest := by
    intro c rest hc
    refine congrArg Prod.snd (Numeral.cutSign_of_isUnsigned ?_)
    rintro _ ⟨⟩
    rcases hc with hc | rfl
    · have hdigit : ∀ ch ∈ (c :: rest).head?, ch.isDigit = true := by simpa using hc
      exact Numeral.isUnsigned_of_isDigit hdigit c rfl
    · decide
  rw [Binary64.exists_read?_iff]
  unfold looksLikeNumber
  constructor
  · intro h
    split at h
    · cases h
    · rename_i c rest hbody
      simp only [Bool.and_eq_true, Bool.or_eq_true, decide_eq_true_eq,
        Option.isSome_iff_exists, Binary64.exists_read?_iff] at h
      rw [hsign h.1] at h
      rw [hbody]
      exact h.2
  · rintro ⟨d, units, hd, hunits⟩
    obtain ⟨c, rest, hbody, hc⟩ := Decimal.exists_head_of_unsigned? hd
    rw [hbody] at hd ⊢
    simp only [Bool.and_eq_true, Bool.or_eq_true, decide_eq_true_eq, Option.isSome_iff_exists,
      Binary64.exists_read?_iff, hsign hc]
    exact ⟨hc, d, units, hd, hunits⟩

/-- A numeral has no letter P. -/
theorem not_looksLikeSpan_of_read? {x : Binary64} (h : Binary64.read? raw = some x) :
    ¬ looksLikeSpan raw = true := by
  intro hspan
  obtain ⟨d, hd, -⟩ := Option.bind_eq_some_iff.1 h
  obtain ⟨sign, body, rfl, -, -⟩ := exists_of_looksLikeSpan hspan
  have hletter := Decimal.isNumeralChar_of_read? hd 'P' (by simp)
  cases hletter

/-- A numeral has no hyphen behind its first digits. -/
theorem not_looksLikeDateTime_of_read? {x : Binary64} (h : Binary64.read? raw = some x) :
    ¬ looksLikeDateTime raw = true := by
  intro hdate
  obtain ⟨rest, hraw, -⟩ := looksLikeDateTime_iff.1 hdate
  obtain ⟨c, hc, hdigit⟩ := hraw.head?
  have hunsigned : Numeral.IsUnsigned raw := by
    refine Numeral.isUnsigned_of_isDigit ?_
    simpa [hc] using hdigit
  obtain ⟨d, units, hd, -⟩ := Binary64.exists_read?_iff.1 ⟨x, h⟩
  rw [Numeral.cutSign_of_isUnsigned hunsigned] at hd
  obtain ⟨year, month, day, -, hdigits, rfl⟩ := hraw
  simp only [List.append_assoc, List.cons_append] at hd
  rw [Decimal.unsigned?_hyphen fun ch hch => hdigits ch (by simp [hch])] at hd
  cases hd

theorem infer_of_looksLikeNumber (h : looksLikeNumber raw = true) :
    infer raw = { literal := raw, kind := .number } := by
  obtain ⟨x, hx⟩ := looksLikeNumber_iff.1 h
  rw [infer, if_neg (not_looksLikeSpan_of_read? hx), if_neg (not_looksLikeDateTime_of_read? hx),
    if_pos h]

theorem kind_infer_eq_number_iff : (infer raw).kind = .number ↔ looksLikeNumber raw = true := by
  constructor
  · intro h
    unfold infer at h
    split at h
    · cases h
    split at h
    · cases h
    split at h
    · assumption
    · cases h
  · intro h
    rw [infer_of_looksLikeNumber h]

/-- A whole number of 64 bits has a magnitude of 64 bits. -/
theorem le_of_fitsInt64 {negative : Bool} {n : Nat}
    (h : Numeral.fitsInt64 (Numeral.withSign negative n) = true) : n ≤ Nat.pow 2 64 := by
  have hlimit : Numeral.int64Limit ≤ Nat.pow 2 64 := by decide
  simp only [Numeral.fitsInt64, Numeral.withSign, Bool.and_eq_true] at h
  cases negative <;> simp at h <;> omega

/-- A whole number of 64 bits is a numeral with a finite value. -/
theorem exists_read?_of_int64? {i : Int} (h : Numeral.int64? raw = some i) :
    ∃ x, Binary64.read? raw = some x := by
  unfold Numeral.int64? at h
  simp only [Option.ite_none_right_eq_some] at h
  obtain ⟨⟨hne, hdigits⟩, hfits, -⟩ := h
  obtain ⟨units, hunits⟩ := Magnitude.exists_ofDecimal_eq (le_of_fitsInt64 hfits)
  rw [Binary64.exists_read?_iff]
  exact ⟨_, units, Decimal.unsigned?_of_isDigit (List.all_eq_true.1 hdigits) hne, hunits⟩

theorem exists_toFloat_iff {a : Argument} :
    (∃ x, a.toFloat = .ok x) ↔ looksLikeNumber a.literal = true := by
  rw [looksLikeNumber_iff]
  exact exists_congr fun x => converted_eq_ok_iff

/-- What is classified as a number is bound to a field of floating-point numbers, and nothing else
is. -/
theorem exists_boundAs_float_iff {now : Instant} :
    (∃ v, (infer raw).BoundAs now .float v) ↔ (infer raw).kind = .number := by
  constructor
  · rintro ⟨v, hv⟩
    cases hv with
    | floating kind value => exact kind
  · intro hkind
    have hnumber := kind_infer_eq_number_iff.1 hkind
    have hinfer := infer_of_looksLikeNumber hnumber
    obtain ⟨x, hx⟩ := exists_toFloat_iff (a := infer raw).2 (by rwa [hinfer])
    exact ⟨_, .floating hkind hx⟩

/-- **Numbers are recognised.**  A raw literal is classified as a number exactly if it can be
converted to a finite floating-point number, and whole numbers of 64 bits are among these.  So the
comparison of a raw literal with a field of floating-point numbers never fails in the conversion: it
is accepted for a number and refused for its type otherwise.  What is accepted for a field of whole
numbers is accepted for such a field too. -/
theorem numbers_recognised (raw : Text) :
    ((infer raw).kind = .number ↔ ∃ x, toFloat { literal := raw, kind := .number } = .ok x) ∧
      (∀ i, toInt { literal := raw, kind := .number } = .ok i → (infer raw).kind = .number) ∧
      ∀ (b : Builder) (now : Instant) (selector : Text) (comparison : Comparison) (f : Field),
        b.catalog.resolve? selector = some f → f.type = .float →
          ((infer raw).kind = .number →
            ∃ p, b.build now (.constraint ⟨selector, some (comparison, infer raw)⟩) = .ok p) ∧
          ((infer raw).kind ≠ .number →
            b.build now (.constraint ⟨selector, some (comparison, infer raw)⟩) =
              .error (.rejected [.invalidArgumentType selector raw .float])) ∧
          ∀ (b' : Builder) (now' : Instant) (selector' : Text) (comparison' : Comparison)
            (f' : Field), b'.catalog.resolve? selector' = some f' → f'.type = .integer →
            (∃ p, b'.build now' (.constraint ⟨selector', some (comparison', infer raw)⟩) = .ok p) →
              ∃ p, b.build now (.constraint ⟨selector, some (comparison, infer raw)⟩) = .ok p := by
  refine ⟨?_, ?_, ?_⟩
  · rw [kind_infer_eq_number_iff, exists_toFloat_iff]
  · intro i hi
    rw [kind_infer_eq_number_iff, looksLikeNumber_iff]
    exact exists_read?_of_int64? (converted_eq_ok_iff.1 hi)
  · intro b now selector comparison f hf htype
    have haccepted : (infer raw).kind = .number →
        ∃ p, b.build now (.constraint ⟨selector, some (comparison, infer raw)⟩) = .ok p := by
      intro hkind
      rw [Builder.exists_build_constraint_iff hf rfl, htype]
      exact exists_boundAs_float_iff.2 hkind
    refine ⟨haccepted, ?_, ?_⟩
    · intro hkind
      have hsuits : (infer raw).kind.suits f.type = false := by
        rw [htype]
        cases h : (infer raw).kind with
        | number => exact absurd h hkind
        | _ => rfl
      have hrefused : negotiate now selector f.type (infer raw) =
          .error (.invalidArgumentType selector raw .float) := by
        rw [negotiate_of_not_suits hsuits, print_infer, htype]
      exact (b.build_constraint_eq_error_iff now _ _).2
        ⟨_, Builder.fault?_of_negotiate hf rfl hrefused, rfl⟩
    · intro b' now' selector' comparison' f' hf' htype' hwhole
      rw [Builder.exists_build_constraint_iff hf' rfl, htype'] at hwhole
      obtain ⟨v, hv⟩ := hwhole
      cases hv with
      | whole kind value => exact haccepted kind

/-- A plus and a zero in front do not keep a whole number from being one, also for a mood, and a
word is refused. -/
theorem numbers_recognised_seven :
    let mood : Field := { column := "mood".toList, aliasName := ['m'], type := .float }
    let price : Field := { column := "price".toList, aliasName := ['p'], type := .integer }
    let raw := "+07".toList
    toInt { literal := raw, kind := .number } = .ok 7 ∧ (infer raw).kind = .number ∧
      Builder.diary.catalog.resolve? ['m'] = some mood ∧
      (Builder.shop Dialect.sqlite.profile).catalog.resolve? ['P'] = some price ∧
      (∃ p, (Builder.shop Dialect.sqlite.profile).build Instant.epoch
        (.constraint ⟨['P'], some (.less, infer raw)⟩) = .ok p) ∧
      (∃ p, Builder.diary.build Instant.epoch
        (.constraint ⟨['m'], some (.equal, infer raw)⟩) = .ok p) ∧
      (infer "*high".toList).kind ≠ .number ∧
      Builder.diary.build Instant.epoch (.constraint ⟨['m'], some (.less, infer "*high".toList)⟩) =
        .error (.rejected [.invalidArgumentType ['m'] "*high".toList .float]) := by
  intro mood price raw
  have hmood : Builder.diary.catalog.resolve? ['m'] = some mood := rfl
  have hprice : (Builder.shop Dialect.sqlite.profile).catalog.resolve? ['P'] = some price := rfl
  have hseven : toInt { literal := raw, kind := .number } = .ok 7 := by decide +kernel
  have hword : (infer "*high".toList).kind ≠ .number := by decide +kernel
  obtain ⟨-, hkind, hfloat⟩ := numbers_recognised raw
  obtain ⟨-, -, hfloat'⟩ := numbers_recognised "*high".toList
  obtain ⟨-, -, hboth⟩ := hfloat Builder.diary Instant.epoch ['m'] .equal mood hmood rfl
  obtain ⟨-, hrefused, -⟩ := hfloat' Builder.diary Instant.epoch ['m'] .less mood hmood rfl
  have hwhole : ∃ p, (Builder.shop Dialect.sqlite.profile).build Instant.epoch
      (.constraint ⟨['P'], some (.less, infer raw)⟩) = .ok p :=
    (Builder.exists_build_constraint_iff hprice rfl).2
      ⟨.int 7, .whole (hkind 7 hseven) (by decide +kernel)⟩
  exact ⟨hseven, hkind 7 hseven, hmood, hprice, hwhole, hboth _ _ _ _ _ hprice rfl hwhole, hword,
    hrefused hword⟩

end Argument
end SqlFilter
