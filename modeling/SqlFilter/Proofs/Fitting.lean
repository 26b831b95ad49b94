import Mathlib.Data.List.Forall2
import SqlFilter.Proofs.Translation

/-!
# Values fit their fields

The type of a field decides as what an argument is bound.  A text field takes every argument as the
text of its literal; a field of another type takes arguments of the kinds that suit it, converted,
and refuses all others.

* `Argument.BoundAs` is the value that an argument is bound as, with one rule for each way of
  converting it;
* `ValueKind.suits` says which kinds suit a type;
* `Builder.Binds` is that value for a constraint, whose selector decides the type.

The main statement is `Builder.values_fit`.
-/

namespace SqlFilter

/-! ## Arguments that fit -/

/-- The value that an argument is bound as to a field of some type, where spans are counted from
`now`. -/
inductive Argument.BoundAs (now : Instant) (a : Argument) : FieldType → SqlValue → Prop where
  /-- A text field takes the literal of any argument. -/
  | literal : BoundAs now a .text (.text a.literal)
  /-- A number is converted to a whole number. -/
  | whole {n : Int} (kind : a.kind = .number) (value : a.toInt = .ok n) :
    BoundAs now a .integer (.int n)
  /-- A number is converted to a floating-point number. -/
  | floating {x : Binary64} (kind : a.kind = .number) (value : a.toFloat = .ok x) :
    BoundAs now a .float (.float x)
  /-- A date is converted to an instant. -/
  | date {t : Instant} (kind : a.kind = .dateTime) (value : a.toInstant = .ok t) :
    BoundAs now a .dateTime (.instant t)
  /-- A span is counted from `now`. -/
  | offset {span : Span} {t : Instant} (kind : a.kind = .span) (value : a.toSpan = .ok span)
    (sum : now.plus? span = some t) : BoundAs now a .dateTime (.instant t)

/-- Whether arguments of a kind are taken by fields of a type, if they can be converted. -/
def ValueKind.suits : ValueKind → FieldType → Bool
  | _, .text => true
  | .number, .integer => true
  | .number, .float => true
  | .dateTime, .dateTime => true
  | .span, .dateTime => true
  | _, _ => false

namespace Argument

variable {now : Instant} {a : Argument} {selector : Text} {type : FieldType}

theorem BoundAs.suits {v : SqlValue} (h : a.BoundAs now type v) : a.kind.suits type = true := by
  cases h with
  | literal => cases a.kind <;> rfl
  | whole kind value => rw [kind]; rfl
  | floating kind value => rw [kind]; rfl
  | date kind value => rw [kind]; rfl
  | offset kind value sum => rw [kind]; rfl

theorem BoundAs.ne_span {v : SqlValue} (h : a.BoundAs now type v) : type ≠ .span := by
  cases h <;> decide

theorem converted_eq_ok_iff {α : Type} {literal target : Text} {o : Option α} {v : α} :
    converted literal target o = .ok v ↔ o = some v := by
  cases o <;> simp [converted]

theorem isFinite_of_toFloat {x : Binary64} (h : a.toFloat = .ok x) : x.isFinite = true := by
  have hread : Binary64.read? a.literal = some x := by
    unfold toFloat at h
    exact converted_eq_ok_iff.1 h
  exact Binary64.isFinite_of_read? hread

/-- A floating-point number that is bound is finite. -/
theorem BoundAs.isFinite {x : Binary64} (h : a.BoundAs now type (.float x)) :
    x.isFinite = true := by
  cases h with
  | floating kind value => exact isFinite_of_toFloat value

theorem toOffsetInstant_of_ok {span : Span} (h : a.toSpan = .ok span) :
    a.toOffsetInstant now = converted a.literal "duration".toList (now.plus? span) := by
  unfold toOffsetInstant
  rw [h]
  exact pure_bind span _

/-- A span can be counted from `now` if it can be converted and the sum is in range. -/
theorem toOffsetInstant_eq_ok_iff {t : Instant} :
    a.toOffsetInstant now = .ok t ↔ ∃ span, a.toSpan = .ok span ∧ now.plus? span = some t := by
  constructor
  · intro h
    cases hspan : a.toSpan with
    | error cause =>
        unfold toOffsetInstant at h
        rw [hspan] at h
        cases h
    | ok span =>
        rw [toOffsetInstant_of_ok hspan] at h
        exact ⟨span, rfl, converted_eq_ok_iff.1 h⟩
  · rintro ⟨span, hspan, hsum⟩
    rw [toOffsetInstant_of_ok hspan]
    exact converted_eq_ok_iff.2 hsum

/-! ## Negotiation -/

/-- What negotiation comes to: a value, a failed conversion of an argument that suits the type, or
the refusal of one that does not. -/
theorem negotiate_outcome (now : Instant) (selector : Text) (type : FieldType) (a : Argument) :
    (∃ n, negotiate now selector type a = .ok n ∧ a.BoundAs now type n.value) ∨
      (a.kind.suits type = true ∧ ∃ cause,
        negotiate now selector type a = .error (.argumentConversion selector a.print cause)) ∨
      a.kind.suits type = false ∧
        negotiate now selector type a = .error (.invalidArgumentType selector a.print type) := by
  unfold negotiate
  cases type with
  | text => exact .inl ⟨_, rfl, .literal⟩
  | integer =>
      cases hkind : a.kind with
      | number =>
          cases hvalue : a.toInt with
          | ok n => exact .inl ⟨_, rfl, .whole hkind hvalue⟩
          | error cause => exact .inr (.inl ⟨rfl, cause, rfl⟩)
      | _ => exact .inr (.inr ⟨rfl, rfl⟩)
  | float =>
      cases hkind : a.kind with
      | number =>
          cases hvalue : a.toFloat with
          | ok x => exact .inl ⟨_, rfl, .floating hkind hvalue⟩
          | error cause => exact .inr (.inl ⟨rfl, cause, rfl⟩)
      | _ => exact .inr (.inr ⟨rfl, rfl⟩)
  | dateTime =>
      cases hkind : a.kind with
      | dateTime =>
          cases hvalue : a.toInstant with
          | ok t => exact .inl ⟨_, rfl, .date hkind hvalue⟩
          | error cause => exact .inr (.inl ⟨rfl, cause, rfl⟩)
      | span =>
          cases hvalue : a.toOffsetInstant now with
          | ok t =>
              obtain ⟨span, hspan, hsum⟩ := toOffsetInstant_eq_ok_iff.1 hvalue
              exact .inl ⟨_, rfl, .offset hkind hspan hsum⟩
          | error cause => exact .inr (.inl ⟨rfl, cause, rfl⟩)
      | _ => exact .inr (.inr ⟨rfl, rfl⟩)
  | span => cases a.kind <;> exact .inr (.inr ⟨rfl, rfl⟩)

theorem boundAs_of_negotiate {n : Negotiated} (h : negotiate now selector type a = .ok n) :
    a.BoundAs now type n.value := by
  rcases negotiate_outcome now selector type a with
    ⟨m, hm, hbound⟩ | ⟨-, cause, herror⟩ | ⟨-, herror⟩
  · rw [h] at hm
    cases hm
    exact hbound
  · rw [h] at herror
    cases herror
  · rw [h] at herror
    cases herror

theorem negotiate_of_boundAs (selector : Text) {v : SqlValue} (h : a.BoundAs now type v) :
    ∃ n, negotiate now selector type a = .ok n ∧ n.value = v := by
  unfold negotiate
  cases h with
  | literal => exact ⟨_, rfl, rfl⟩
  | whole kind value =>
      rw [kind, value]
      exact ⟨_, rfl, rfl⟩
  | floating kind value =>
      rw [kind, value]
      exact ⟨_, rfl, rfl⟩
  | date kind value =>
      rw [kind, value]
      exact ⟨_, rfl, rfl⟩
  | offset kind value sum =>
      rw [kind, toOffsetInstant_eq_ok_iff.2 ⟨_, value, sum⟩]
      exact ⟨_, rfl, rfl⟩

/-- An argument that suits the type and has no value was not converted. -/
theorem negotiate_of_not_boundAs (selector : Text) (h : ∀ v, ¬a.BoundAs now type v)
    (hsuits : a.kind.suits type = true) :
    ∃ cause, negotiate now selector type a =
      .error (.argumentConversion selector a.print cause) := by
  rcases negotiate_outcome now selector type a with ⟨n, -, hbound⟩ | ⟨-, hcause⟩ | ⟨hno, -⟩
  · exact absurd hbound (h n.value)
  · exact hcause
  · rw [hsuits] at hno
    cases hno

/-- An argument that does not suit the type is refused. -/
theorem negotiate_of_not_suits (hsuits : a.kind.suits type = false) :
    negotiate now selector type a = .error (.invalidArgumentType selector a.print type) := by
  rcases negotiate_outcome now selector type a with ⟨n, -, hbound⟩ | ⟨hyes, -⟩ | ⟨-, herror⟩
  · rw [hbound.suits] at hsuits
    cases hsuits
  · rw [hsuits] at hyes
    cases hyes
  · exact herror

end Argument

/-! ## Constraints that fit -/

namespace Builder

variable {b : Builder} {now : Instant} {c : Constraint} {f : Field} {comparison : Comparison}
  {a : Argument}

/-- The value that a constraint with an argument binds. -/
def Binds (b : Builder) (now : Instant) (c : Constraint) (v : SqlValue) : Prop :=
  ∃ comparison a f, c.comparison = some (comparison, a) ∧
    b.catalog.resolve? c.selector = some f ∧ a.BoundAs now f.type v

/-- A constraint with an argument binds what negotiation makes of it. -/
theorem bind_compared (hf : b.catalog.resolve? c.selector = some f)
    (hc : c.comparison = some (comparison, a)) :
    b.bind now c = (negotiate now c.selector f.type a).map fun n => [n.value] := by
  simp only [bind, hf, hc]

theorem bind_of_boundAs (hf : b.catalog.resolve? c.selector = some f)
    (hc : c.comparison = some (comparison, a)) {v : SqlValue} (hv : a.BoundAs now f.type v) :
    b.bind now c = .ok [v] := by
  obtain ⟨n, hn, rfl⟩ := Argument.negotiate_of_boundAs c.selector hv
  rw [bind_compared hf hc, hn]
  rfl

theorem fault?_of_negotiate (hf : b.catalog.resolve? c.selector = some f)
    (hc : c.comparison = some (comparison, a)) {x : Error}
    (hx : negotiate now c.selector f.type a = .error x) : b.fault? now c = some x := by
  rw [fault?, bind_compared hf hc, hx]
  rfl

/-- A constraint has no error exactly when its selector is known and its argument, if it has one,
has a value. -/
theorem fault?_eq_none_iff_fits : b.fault? now c = none ↔
    ∃ f, b.catalog.resolve? c.selector = some f ∧
      ∀ comparison a, c.comparison = some (comparison, a) → ∃ v, a.BoundAs now f.type v := by
  rw [fault?_eq_none_iff]
  constructor
  · rintro ⟨vs, hvs⟩
    cases hf : b.catalog.resolve? c.selector with
    | none => simp [bind, hf] at hvs
    | some f =>
        refine ⟨f, rfl, ?_⟩
        intro comparison a hc
        rw [bind_compared hf hc] at hvs
        cases hn : negotiate now c.selector f.type a with
        | error x =>
            rw [hn] at hvs
            cases hvs
        | ok n => exact ⟨n.value, Argument.boundAs_of_negotiate hn⟩
  · rintro ⟨f, hf, hfits⟩
    cases hc : c.comparison with
    | none => exact ⟨[], by simp only [bind, hf, hc]⟩
    | some ca =>
        obtain ⟨v, hv⟩ := hfits ca.1 ca.2 hc
        exact ⟨[v], bind_of_boundAs hf hc hv⟩

/-- A constraint with a known selector is accepted if its argument has a value. -/
theorem exists_build_constraint_iff (hf : b.catalog.resolve? c.selector = some f)
    (hc : c.comparison = some (comparison, a)) :
    (∃ p, b.build now (.constraint c) = .ok p) ↔ ∃ v, a.BoundAs now f.type v := by
  constructor
  · rintro ⟨p, hp⟩
    have hfault := ((b.build_constraint_eq_ok_iff now c p).1 hp).1
    obtain ⟨g, hg, hfits⟩ := fault?_eq_none_iff_fits.1 hfault
    rw [hf] at hg
    cases hg
    exact hfits comparison a hc
  · rintro ⟨v, hv⟩
    exact ⟨_, build_constraint_of_bind hf (bind_of_boundAs hf hc hv)⟩

/-- Constraints without errors bind one value each, unary ones apart. -/
theorem forall₂_values : ∀ cs : List Constraint, (∀ c ∈ cs, b.fault? now c = none) →
    List.Forall₂ (b.Binds now) (cs.filter fun c => !c.isUnary) (cs.flatMap (b.values now)) := by
  intro cs
  induction cs with
  | nil =>
      intro _
      exact .nil
  | cons c cs ih =>
      intro hok
      obtain ⟨hc, hcs⟩ := List.forall_mem_cons.1 hok
      obtain ⟨f, hf, hfits⟩ := fault?_eq_none_iff_fits.1 hc
      rw [List.flatMap_cons]
      cases hca : c.comparison with
      | none =>
          have hunary : c.isUnary = true := by simp [Constraint.isUnary, hca]
          have hvalues : b.values now c = [] := values_of_bind (by simp only [bind, hf, hca])
          rw [List.filter_cons_of_neg (by simp [hunary]), hvalues]
          exact ih hcs
      | some ca =>
          have hunary : c.isUnary = false := by simp [Constraint.isUnary, hca]
          obtain ⟨v, hv⟩ := hfits ca.1 ca.2 hca
          have hvalues : b.values now c = [v] := values_of_bind (bind_of_boundAs hf hca hv)
          rw [List.filter_cons_of_pos (by simp [hunary]), hvalues]
          exact .cons ⟨ca.1, ca.2, f, hca, hf, hv⟩ (ih hcs)

/-- **Values fit their fields.**  An accepted filter has one value for each of its constraints that
is not unary, in their order, and each is what its argument is bound as to the field of its
selector; no field of spans is among them and no infinite number.  A filter is accepted whenever its
selectors are known and its arguments have values.  An argument without a value was not converted if
its kind suits the field, and is of the wrong type otherwise. -/
theorem values_fit (b : Builder) (now : Instant) (e : Expression) :
    (∀ p, b.build now e = .ok p →
        p.params.length = (e.constraints.filter fun c => !c.isUnary).length ∧
        ∀ (k : Nat) (c : Constraint), (e.constraints.filter fun c => !c.isUnary)[k]? = some c →
          ∃ comparison a f v, c.comparison = some (comparison, a) ∧
            b.catalog.resolve? c.selector = some f ∧ p.params[k]? = some v ∧
            a.BoundAs now f.type v ∧ f.type ≠ .span ∧ ∀ x, v = .float x → x.isFinite = true) ∧
      ((∃ p, b.build now e = .ok p) ↔ ∀ c ∈ e.constraints,
        ∃ f, b.catalog.resolve? c.selector = some f ∧
          ∀ comparison a, c.comparison = some (comparison, a) → ∃ v, a.BoundAs now f.type v) ∧
      ∀ c comparison a f, c.comparison = some (comparison, a) →
        b.catalog.resolve? c.selector = some f →
          (∀ v, a.BoundAs now f.type v →
            ∃ sql, b.build now (.constraint c) = .ok ⟨sql, [v]⟩) ∧
          ((∀ v, ¬a.BoundAs now f.type v) → a.kind.suits f.type = true →
            ∃ cause, b.build now (.constraint c) =
              .error (.rejected [.argumentConversion c.selector a.print cause])) ∧
          (a.kind.suits f.type = false →
            b.build now (.constraint c) =
              .error (.rejected [.invalidArgumentType c.selector a.print f.type])) := by
  refine ⟨?_, ?_, ?_⟩
  · intro p hp
    obtain ⟨hok, rfl⟩ := (b.build_eq_ok_iff now e p).1 hp
    obtain ⟨hlength, hbinds⟩ := List.forall₂_iff_get.1 (forall₂_values e.constraints hok)
    refine ⟨hlength.symm, ?_⟩
    intro k c hc
    obtain ⟨hk, rfl⟩ := List.getElem?_eq_some_iff.1 hc
    obtain ⟨comparison, a, f, hca, hf, hv⟩ := hbinds k hk (hlength ▸ hk)
    refine ⟨comparison, a, f, _, hca, hf, List.getElem?_eq_getElem _, hv, hv.ne_span, ?_⟩
    intro x hx
    rw [List.get_eq_getElem, hx] at hv
    exact hv.isFinite
  · constructor
    · rintro ⟨p, hp⟩ c hc
      exact fault?_eq_none_iff_fits.1 (((b.build_eq_ok_iff now e p).1 hp).1 c hc)
    · intro hfits
      exact ⟨_, (b.build_eq_ok_iff now e _).2
        ⟨fun c hc => fault?_eq_none_iff_fits.2 (hfits c hc), rfl⟩⟩
  · intro c comparison a f hc hf
    refine ⟨?_, ?_, ?_⟩
    · intro v hv
      have hbind := bind_of_boundAs hf hc hv
      have hok := fault?_eq_none_iff.2 ⟨[v], hbind⟩
      rw [← values_of_bind hbind]
      exact ⟨_, (b.build_constraint_eq_ok_iff now c _).2 ⟨hok, rfl⟩⟩
    · intro hnone hsuits
      obtain ⟨cause, hcause⟩ := Argument.negotiate_of_not_boundAs c.selector hnone hsuits
      exact ⟨cause, (b.build_constraint_eq_error_iff now c _).2
        ⟨_, fault?_of_negotiate hf hc hcause, rfl⟩⟩
    · intro hsuits
      exact (b.build_constraint_eq_error_iff now c _).2
        ⟨_, fault?_of_negotiate hf hc (Argument.negotiate_of_not_suits hsuits), rfl⟩

end Builder

/-- A builder for the pages of a diary. -/
def Builder.diary : Builder where
  catalog := Catalog.ofList
    [{ column := "title".toList, aliasName := ['t'], type := .text },
     { column := "mood".toList, aliasName := ['m'], type := .float },
     { column := "day".toList, aliasName := ['d'], type := .dateTime }]

/-- The pages with a number for a title, a good mood and a date of the first day. -/
def Expression.pages : Expression :=
  .group (.constraint ⟨['t'], some (.equal, ⟨"42".toList, .number, false, false⟩)⟩)
    [(.and, .constraint ⟨['d'], none⟩),
     (.and, .constraint ⟨['M'], some (.greater, ⟨"0.5".toList, .number, false, false⟩)⟩),
     (.or, .constraint ⟨['d'], some (.less, ⟨"P1D".toList, .span, false, false⟩)⟩)]

theorem Expression.constraints_pages : pages.constraints =
    [⟨['t'], some (.equal, ⟨"42".toList, .number, false, false⟩)⟩, ⟨['d'], none⟩,
      ⟨['M'], some (.greater, ⟨"0.5".toList, .number, false, false⟩)⟩,
      ⟨['d'], some (.less, ⟨"P1D".toList, .span, false, false⟩)⟩] := rfl

/-- The filter for pages is accepted with three values, and a mood is not compared with a text. -/
theorem Builder.values_fit_pages :
    (∃ p, diary.build Instant.epoch Expression.pages = .ok p ∧ p.params.length = 3 ∧
        p.params[0]? = some (.text "42".toList) ∧
        ∃ x, p.params[1]? = some (.float x) ∧ x.isFinite = true) ∧
      diary.build Instant.epoch
          (.constraint ⟨['m'], some (.less, ⟨"high".toList, .text, false, true⟩)⟩) =
        .error (.rejected [.invalidArgumentType ['m'] "high*".toList .float]) := by
  have hmood : Argument.BoundAs Instant.epoch ⟨"0.5".toList, .number, false, false⟩ .float
      (.float ⟨0x3fe0000000000000⟩) := .floating rfl (by decide +kernel)
  have hspan : Argument.toSpan ⟨"P1D".toList, .span, false, false⟩ = .ok ⟨86400000⟩ := by
    decide +kernel
  have hday : Argument.BoundAs Instant.epoch ⟨"P1D".toList, .span, false, false⟩ .dateTime
      (.instant ⟨86400, 0, by decide⟩) := .offset rfl hspan (by decide +kernel)
  obtain ⟨hvalues, haccepted, halone⟩ := values_fit diary Instant.epoch Expression.pages
  obtain ⟨p, hp⟩ := haccepted.2 <| by
    intro c hc
    rw [Expression.constraints_pages] at hc
    simp only [List.mem_cons, List.not_mem_nil, or_false] at hc
    rcases hc with rfl | rfl | rfl | rfl
    · refine ⟨_, rfl, ?_⟩
      rintro _ _ ⟨⟩
      exact ⟨_, .literal⟩
    · refine ⟨_, rfl, ?_⟩
      rintro _ _ ⟨⟩
    · refine ⟨_, rfl, ?_⟩
      rintro _ _ ⟨⟩
      exact ⟨_, hmood⟩
    · refine ⟨_, rfl, ?_⟩
      rintro _ _ ⟨⟩
      exact ⟨_, hday⟩
  obtain ⟨hlength, hat⟩ := hvalues p hp
  obtain ⟨-, -, hrefused⟩ := halone
    ⟨['m'], some (.less, ⟨"high".toList, .text, false, true⟩)⟩ _ _ _ rfl rfl
  refine ⟨⟨p, hp, hlength, ?_, ?_⟩, hrefused rfl⟩
  · obtain ⟨_, _, _, _, hca, hf, hv, hbound, -⟩ := hat 0 _ rfl
    cases hca
    cases hf
    cases hbound
    exact hv
  · obtain ⟨_, _, _, _, hca, hf, hv, hbound, -, hfinite⟩ := hat 1 _ rfl
    cases hca
    cases hf
    cases hbound with
    | floating kind value => exact ⟨_, hv, hfinite _ rfl⟩

end SqlFilter
