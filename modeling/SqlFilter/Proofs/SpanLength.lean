import SqlFilter.Proofs.SpanGrammar

/-!
# Lengths of spans

A span has less than `2 ^ 63` milliseconds, but a literal of just that many is read too, as a span
that is one millisecond shorter.

* `Span.Written.total_unique`: the length of a written span belongs to its text;
* `Argument.toSpan_length` says which lengths are read exactly, which one is cut and which are
  refused;
* `Argument.toSpan_cut` is a literal whose length is cut.
-/

namespace SqlFilter

/-- Texts of written spans tell sign and length. -/
theorem Span.Written.total_unique {w w' : Written} (h : w.print = w'.print) :
    w.negative = w'.negative ∧ w.total = w'.total := by
  have hsign := w.cutSign_print
  rw [h, w'.cutSign_print, Prod.mk.injEq, List.cons.injEq] at hsign
  obtain ⟨hnegative, -, hbody⟩ := hsign
  have hparts := w.parts?_body
  rw [← hbody, w'.parts?_body, Option.some.injEq, Prod.mk.injEq] at hparts
  obtain ⟨hdate, htime⟩ := hparts
  -- the sums of equal parts are equal
  have hdates := sumComponents?_printAll covers_dateUnits w.date_units (.finite 0)
  have htimes := sumComponents?_printAll covers_timeUnits w.time_units (.finite 0)
  rw [← hdate, sumComponents?_printAll covers_dateUnits w'.date_units, Option.some.injEq] at hdates
  rw [← htime, sumComponents?_printAll covers_timeUnits w'.time_units, Option.some.injEq] at htimes
  exact ⟨hnegative.symm, by rw [total, total, hdates, htimes]⟩

/-- Of one sign, lengths are as different as their numbers. -/
theorem Numeral.withSign_inj {negative : Bool} {m n : Nat} :
    withSign negative m = withSign negative n ↔ m = n := by
  unfold withSign
  cases negative
  · simp only [Bool.false_eq_true, if_false]
    omega
  · simp only [if_true]
    omega

namespace Argument
open SqlFilter.Span

variable {a : Argument} {w : Written} {ms : Nat}

/-- A literal is converted as it is read. -/
theorem toSpan_eq (a : Argument) :
    a.toSpan =
      match Span.read? a.literal with
      | some span => .ok span
      | none => .error ⟨a.literal, "duration".toList⟩ := by
  unfold toSpan converted
  cases Span.read? a.literal <;> rfl

/-- What a written span is converted to. -/
theorem toSpan_of_print (hw : w.print = a.literal) :
    a.toSpan =
      match milliseconds? w.total with
      | some ms =>
        if ms ≤ Numeral.int64Limit then
          .ok ⟨Numeral.withSign w.negative (min ms (Numeral.int64Limit - 1))⟩
        else .error ⟨a.literal, "duration".toList⟩
      | none => .error ⟨a.literal, "duration".toList⟩ := by
  rw [toSpan_eq, ← hw, read?_print, ofSeconds?_eq]
  cases milliseconds? w.total with
  | none => rfl
  | some ms =>
      rw [Option.bind_some]
      dsimp only
      by_cases h : ms ≤ Numeral.int64Limit
      · rw [if_pos h, if_pos h]
      · rw [if_neg h, if_neg h]

/-- **Lengths of spans.**  What is converted to a span is written as one, and a written span has one
length, in milliseconds.  If the length is less than `2 ^ 63`, then it is that of the span, with the
sign of the literal; a length of just `2 ^ 63` is cut by one, and this is the only one that the span
does not have; what is longer is refused. -/
theorem toSpan_length (a : Argument) :
    (∀ span, a.toSpan = .ok span → ∃ w : Written, w.print = a.literal ∧
      ∃ ms, milliseconds? w.total = some ms ∧
        (span.milliseconds = Numeral.withSign w.negative ms ↔ ms ≠ Numeral.int64Limit)) ∧
      (∀ w w' : Written, w.print = a.literal → w'.print = a.literal →
        w.negative = w'.negative ∧ w.total = w'.total) ∧
      ∀ w : Written, w.print = a.literal →
        (∀ ms, milliseconds? w.total = some ms →
          (ms < Numeral.int64Limit → a.toSpan = .ok ⟨Numeral.withSign w.negative ms⟩) ∧
          (ms = Numeral.int64Limit →
            a.toSpan = .ok ⟨Numeral.withSign w.negative (Numeral.int64Limit - 1)⟩) ∧
          (Numeral.int64Limit < ms → a.toSpan = .error ⟨a.literal, "duration".toList⟩)) ∧
        (milliseconds? w.total = none → a.toSpan = .error ⟨a.literal, "duration".toList⟩) := by
  refine ⟨?_, fun w w' hw hw' => Written.total_unique (hw.trans hw'.symm), ?_⟩
  · intro span hspan
    obtain ⟨w, hw⟩ := exists_print_eq (toSpan_eq_ok_iff.1 hspan)
    refine ⟨w, hw, ?_⟩
    rw [toSpan_of_print hw] at hspan
    cases hms : milliseconds? w.total with
    | none =>
        rw [hms] at hspan
        cases hspan
    | some ms =>
        rw [hms] at hspan
        refine ⟨ms, rfl, ?_⟩
        dsimp only at hspan
        split at hspan
        · rename_i hle
          cases hspan
          rw [Numeral.withSign_inj]
          have hpos : 0 < Numeral.int64Limit := by decide
          omega
        · cases hspan
  · intro w hw
    rw [toSpan_of_print hw]
    refine ⟨?_, ?_⟩
    · intro ms hms
      rw [hms]
      dsimp only
      refine ⟨?_, ?_, ?_⟩
      · intro hlt
        rw [if_pos (Nat.le_of_lt hlt), Nat.min_eq_left (by omega)]
      · rintro rfl
        rw [if_pos (Nat.le_refl _), Nat.min_eq_right (Nat.sub_le ..)]
      · intro hgt
        rw [if_neg (Nat.not_le_of_lt hgt)]
    · intro hms
      rw [hms]

end Argument

/-- A whole number of seconds in writing. -/
def Span.Written.ofSeconds (sign seconds : Text)
    (hsign : sign = [] ∨ sign = ['-'] ∨ sign = ['+'])
    (hdigit : ∀ c ∈ seconds ++ [], c.isDigit = true) (hne : seconds ++ [] ≠ []) : Written where
  sign
  date := []
  time := [⟨seconds, none, 'S', hdigit, hne⟩]
  isSign := hsign
  date_units := List.nil_sublist _
  time_units := List.singleton_sublist.2 (.tail _ (.tail _ (.head _)))
  some_component := .inr (List.cons_ne_nil _ _)

/-- The number of seconds next to `2 ^ 63` milliseconds, going back. -/
def Span.Written.brink : Written :=
  .ofSeconds ['-'] "9223372036854775".toList (.inr (.inl rfl)) (List.all_eq_true.1 rfl) (by decide)

/-- A number of seconds with more than `2 ^ 63` milliseconds. -/
def Span.Written.beyond : Written :=
  .ofSeconds ['+'] "9223372036854778".toList (.inr (.inr rfl)) (List.all_eq_true.1 rfl) (by decide)

/-- A day and an hour and a half have their length, a number of seconds next to the limit is cut by
a millisecond, and one beyond it is refused. -/
theorem Argument.toSpan_length_brink :
    let day : Argument := { literal := "P1DT1.5H".toList, kind := .span }
    let brink : Argument := { literal := "-PT9223372036854775S".toList, kind := .span }
    let beyond : Argument := { literal := "+PT9223372036854778S".toList, kind := .span }
    Span.milliseconds? Span.Written.workshop.total = some 91800000 ∧
      day.toSpan = .ok ⟨91800000⟩ ∧
      Span.milliseconds? Span.Written.brink.total = some Numeral.int64Limit ∧
      brink.toSpan = .ok ⟨-9223372036854775807⟩ ∧
      Span.milliseconds? Span.Written.beyond.total = some 9223372036854777856 ∧
      beyond.toSpan = .error ⟨beyond.literal, "duration".toList⟩ := by
  intro day brink beyond
  have hday : Span.milliseconds? Span.Written.workshop.total = some 91800000 := by decide +kernel
  have hbrink : Span.milliseconds? Span.Written.brink.total = some Numeral.int64Limit := by
    decide +kernel
  have hbeyond : Span.milliseconds? Span.Written.beyond.total = some 9223372036854777856 := by
    decide +kernel
  refine ⟨hday, ?_, hbrink, ?_, hbeyond, ?_⟩
  · exact (((toSpan_length day).2.2 Span.Written.workshop (by decide)).1 _ hday).1 (by decide)
  · exact (((toSpan_length brink).2.2 Span.Written.brink (by decide)).1 _ hbrink).2.1 rfl
  · exact (((toSpan_length beyond).2.2 Span.Written.beyond (by decide)).1 _ hbeyond).2.2 (by decide)

/-- Not every span has the length of its literal: this one has `2 ^ 63` milliseconds, too many for a
span, and is converted nevertheless, to one less. -/
theorem Argument.toSpan_cut :
    let w : Span.Written := .ofSeconds [] "9223372036854775".toList (.inl rfl)
      (List.all_eq_true.1 rfl) (by decide)
    let a : Argument := { literal := "PT9223372036854775S".toList, kind := .span }
    w.print = a.literal ∧ Span.milliseconds? w.total = some 9223372036854775808 ∧
      a.toSpan = .ok ⟨9223372036854775807⟩ := by
  intro w a
  have hprint : w.print = a.literal := by decide
  have hms : Span.milliseconds? w.total = some 9223372036854775808 := by decide +kernel
  refine ⟨hprint, hms, ?_⟩
  rw [toSpan_of_print hprint, hms]
  rfl

end SqlFilter
