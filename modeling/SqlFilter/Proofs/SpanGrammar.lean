import SqlFilter.Expression.Argument
import SqlFilter.Proofs.Fitting

/-!
# The grammar of spans

Which texts are read as spans, and how long these are.

* `Span.Component` is a number with the letter of a unit behind it, `Span.Written` a whole span: a
  sign or none, and components of the date and of the time whose units come in falling order and at
  most once each;
* `Span.Written.print` is the text of a written span and `Span.Written.milliseconds?` its length;
* `Span.read?_eq_some_iff`: the texts of written spans are read, and no others.

The main statement is `Argument.toSpan_iff_written`.
-/

namespace SqlFilter.Span

/-! ## Components -/

/-- A number with the letter of a unit behind it.  The number is digits, perhaps with a point among
them or at either end. -/
structure Component where
  /-- The digits in front of the point. -/
  whole : Text
  /-- The digits behind the point, if there is one. -/
  part : Option Text
  /-- The letter of the unit. -/
  unit : Char
  /-- All of them are digits. -/
  isDigit : ∀ c ∈ whole ++ part.getD [], c.isDigit = true
  /-- There is at least one digit. -/
  ne_nil : whole ++ part.getD [] ≠ []

namespace Component

/-- The number of a component in writing. -/
def number (c : Component) : Text :=
  match c.part with
  | none => c.whole
  | some part => c.whole ++ '.' :: part

/-- A component in writing. -/
def print (c : Component) : Text := c.number ++ [c.unit]

/-- What the number of a component says: all its digits, and as many tenths as there are digits
behind the point. -/
def decimal (c : Component) : Decimal :=
  ⟨false, Numeral.ofDigits (c.whole ++ c.part.getD []), -((c.part.getD []).length : Int)⟩

/-- The length of a component in seconds, where `units` says how long each unit is. -/
def seconds (units : List (Char × Nat)) (c : Component) : Magnitude :=
  (Magnitude.ofDecimal c.decimal).scale ((units.lookup c.unit).getD 0)

end Component

/-- Components in writing, one behind the other. -/
def printAll (cs : List Component) : Text := cs.flatMap Component.print

/-- The sum of a number of seconds and the lengths of components. -/
def addAll (units : List (Char × Nat)) (total : Magnitude) (cs : List Component) : Magnitude :=
  cs.foldl (fun total c => total.add (c.seconds units)) total

/-! ## Whole spans -/

/-- A span in writing. -/
structure Written where
  /-- The sign in front. -/
  sign : Text
  /-- The components behind the letter P. -/
  date : List Component
  /-- The components behind the letter T. -/
  time : List Component
  /-- There is one sign or none. -/
  isSign : sign = [] ∨ sign = ['-'] ∨ sign = ['+']
  /-- The units of the date part are some of years, months, weeks and days, in this order. -/
  date_units : (date.map Component.unit).Sublist ['Y', 'M', 'W', 'D']
  /-- The units of the time part are some of hours, minutes and seconds, in this order. -/
  time_units : (time.map Component.unit).Sublist ['H', 'M', 'S']
  /-- There is at least one component. -/
  some_component : date ≠ [] ∨ time ≠ []

namespace Written

/-- What stands behind the letter P: the time part is announced by the letter T if there is one. -/
def body (w : Written) : Text :=
  printAll w.date ++ if w.time = [] then [] else 'T' :: printAll w.time

/-- A written span as a text. -/
def print (w : Written) : Text := w.sign ++ 'P' :: w.body

/-- Whether the sign is a minus. -/
def negative (w : Written) : Bool := w.sign = ['-']

/-- The length without its sign, in seconds: the sum of the date part and that of the time part. -/
def total (w : Written) : Magnitude :=
  (addAll dateUnits (.finite 0) w.date).add (addAll timeUnits (.finite 0) w.time)

end Written

/-- A number of seconds in milliseconds, rounded to a whole number, if it is finite. -/
def milliseconds? (seconds : Magnitude) : Option Nat :=
  match seconds.scale 1000 with
  | .finite units => some (Magnitude.nearestWhole units)
  | .infinite => none

/-! ## Reading components -/

namespace Component

theorem isNumberChar_of_mem_number {c : Component} {ch : Char} (h : ch ∈ c.number) :
    isNumberChar ch = true := by
  have hdigit : ∀ ch ∈ c.whole ++ c.part.getD [], isNumberChar ch = true := by
    intro ch hch
    rw [isNumberChar, c.isDigit ch hch, Bool.true_or]
  unfold number at h
  cases hpart : c.part with
  | none =>
      rw [hpart] at h
      exact hdigit ch (List.mem_append_left _ h)
  | some part =>
      rw [hpart] at h hdigit
      rcases List.mem_append.1 h with h | h
      · exact hdigit ch (List.mem_append_left _ h)
      · rcases List.mem_cons.1 h with rfl | h
        · rfl
        · exact hdigit ch (List.mem_append_right _ h)

/-- The number of a component is read as what it says. -/
theorem unsigned?_number (c : Component) : Decimal.unsigned? c.number = some c.decimal := by
  obtain ⟨whole, part, unit, hdigit, hne⟩ := c
  cases part with
  | none =>
      simp only [Option.getD_none, List.append_nil] at hdigit hne
      simp [number, decimal, Decimal.unsigned?_of_isDigit hdigit hne]
  | some part =>
      have hwhole : Text.run Char.isDigit (whole ++ '.' :: part) = (whole, '.' :: part) := by
        refine Text.run_append (fun ch hch => hdigit ch (List.mem_append_left _ hch)) ?_
        rintro _ ⟨⟩
        rfl
      have hpart : Text.run Char.isDigit part = (part, []) :=
        Text.run_self fun ch hch => hdigit ch (List.mem_append_right _ hch)
      have hsome : ¬ (whole = [] ∧ part = []) := by
        rwa [← List.append_eq_nil_iff]
      simp [Decimal.unsigned?, Decimal.parts?, Decimal.exponent?, number, decimal, hwhole, hpart,
        hsome]

/-- Digits and points that are read as a number are the number of a component. -/
theorem exists_of_unsigned? {number : Text} {d : Decimal} (unit : Char)
    (hnumber : ∀ ch ∈ number, isNumberChar ch = true) (h : Decimal.unsigned? number = some d) :
    ∃ c : Component, c.number = number ∧ c.decimal = d ∧ c.unit = unit := by
  unfold Decimal.unsigned? at h
  simp only [Option.bind_eq_bind, Option.bind_eq_some_iff] at h
  obtain ⟨⟨whole, part, rest⟩, hparts, exponent, hexponent, hd⟩ := h
  obtain ⟨hdigit, point, rfl, hpoint⟩ := Decimal.parts?_eq_some hparts
  have hne := Decimal.ne_nil_of_parts? hparts
  -- an exponent would begin with a letter
  have hrest : rest = [] := by
    cases rest with
    | nil => rfl
    | cons mark more =>
        simp only [Decimal.exponent?, Option.ite_none_right_eq_some] at hexponent
        have hmark := hnumber mark (by simp)
        rcases hexponent.1 with rfl | rfl <;> cases hmark
  subst hrest
  cases hexponent
  cases hd
  rcases hpoint with ⟨rfl, rfl⟩ | rfl
  · exact ⟨⟨whole, none, unit, hdigit, hne⟩, by simp [Component.number], by simp [decimal], rfl⟩
  · exact ⟨⟨whole, some part, unit, hdigit, hne⟩, by simp [Component.number], by simp [decimal],
      rfl⟩

end Component

/-- A component is read up to its unit. -/
theorem component?_print {c : Component} (hunit : isNumberChar c.unit = false) (rest : Text) :
    component? (c.print ++ rest) = some (Magnitude.ofDecimal c.decimal, c.unit, rest) := by
  have hrun : Text.run isNumberChar (c.number ++ c.unit :: rest) = (c.number, c.unit :: rest) := by
    refine Text.run_append (fun ch hch => Component.isNumberChar_of_mem_number hch) ?_
    rintro _ ⟨⟩
    exact hunit
  rw [Component.print, List.append_assoc, List.singleton_append, component?, hrun]
  simp only [Component.unsigned?_number, Option.map_some]

/-- What is read as a component is one. -/
theorem exists_of_component? {t rest : Text} {value : Magnitude} {unit : Char}
    (h : component? t = some (value, unit, rest)) :
    ∃ c : Component,
      c.unit = unit ∧ c.print ++ rest = t ∧ Magnitude.ofDecimal c.decimal = value := by
  unfold component? at h
  split at h
  · cases h
  · rename_i number letter after hrun
    obtain ⟨d, hd, hread⟩ := Option.map_eq_some_iff.1 h
    cases hread
    rw [Text.run, Prod.mk.injEq] at hrun
    obtain ⟨hnumber, hafter⟩ := hrun
    have hchars : ∀ ch ∈ number, isNumberChar ch = true := by
      rw [← hnumber]
      exact List.all_eq_true.1 List.all_takeWhile
    obtain ⟨c, hc, hdecimal, rfl⟩ := Component.exists_of_unsigned? unit hchars hd
    refine ⟨c, rfl, ?_, by rw [hdecimal]⟩
    rw [Component.print, List.append_assoc, List.singleton_append, hc, ← hnumber, ← hafter]
    exact List.takeWhile_append_dropWhile

/-! ## Reading a part -/

section Parts

variable {table units : List (Char × Nat)} {total sum value : Magnitude} {t rest : Text}
  {letter unit : Char} {seconds : Nat}

theorem sumComponents?_take (h : component? t = some (value, letter, rest)) :
    sumComponents? ((letter, seconds) :: units) total t =
      sumComponents? units (total.add (value.scale seconds)) rest := by
  cases t with
  | nil => cases h
  | cons c more =>
      rw [sumComponents?, h]
      exact if_pos rfl

theorem sumComponents?_skip (h : component? t = some (value, unit, rest)) (hunit : unit ≠ letter) :
    sumComponents? ((letter, seconds) :: units) total t = sumComponents? units total t := by
  cases t with
  | nil => cases h
  | cons c more =>
      rw [sumComponents?, h]
      exact if_neg hunit

/-- The units have the lengths that `table` gives them, and their letters cannot stand in
numbers. -/
def Covers (table units : List (Char × Nat)) : Prop :=
  ∀ u ∈ units, (table.lookup u.1).getD 0 = u.2 ∧ isNumberChar u.1 = false

/-- Components whose units come in the order of the units are added up.  The induction is on the
units, as the reader goes through them. -/
theorem sumComponents?_printAll (hcovers : Covers table units) {cs : List Component}
    (hunits : (cs.map Component.unit).Sublist (units.map Prod.fst)) (total : Magnitude) :
    sumComponents? units total (printAll cs) = some (addAll table total cs) := by
  induction units generalizing cs total with
  | nil =>
      rw [List.map_nil, List.sublist_nil, List.map_eq_nil_iff] at hunits
      subst hunits
      rfl
  | cons u units ih =>
      obtain ⟨letter, seconds⟩ := u
      obtain ⟨⟨hseconds, hletter⟩, hrest⟩ := List.forall_mem_cons.1 hcovers
      cases cs with
      | nil => rfl
      | cons c cs =>
          have hread : isNumberChar c.unit = false →
              component? (printAll (c :: cs)) =
                some (Magnitude.ofDecimal c.decimal, c.unit, printAll cs) :=
            fun hunit => component?_print hunit (printAll cs)
          rw [List.map_cons, List.map_cons] at hunits
          by_cases hunit : c.unit = letter
          · subst hunit
            rw [sumComponents?_take (hread hletter), ih hrest (List.cons_sublist_cons.1 hunits)]
            simp [addAll, Component.seconds, hseconds]
          · -- the unit is further down
            have htail : ((c :: cs).map Component.unit).Sublist (units.map Prod.fst) :=
              hunits.of_cons_of_ne hunit
            obtain ⟨u, hu, hc⟩ := List.mem_map.1 (htail.subset List.mem_cons_self)
            have hchar : isNumberChar c.unit = false := hc ▸ (hrest u hu).2
            rw [sumComponents?_skip (hread hchar) hunit]
            exact ih hrest htail total

/-- What is added up are components whose units come in the order of the units. -/
theorem exists_of_sumComponents? (hcovers : Covers table units)
    (h : sumComponents? units total t = some sum) :
    ∃ cs : List Component, (cs.map Component.unit).Sublist (units.map Prod.fst) ∧
      printAll cs = t ∧ addAll table total cs = sum := by
  induction units generalizing t total with
  | nil =>
      cases t with
      | nil =>
          cases h
          exact ⟨[], List.nil_sublist _, rfl, rfl⟩
      | cons c more => cases h
  | cons u units ih =>
      obtain ⟨letter, seconds⟩ := u
      obtain ⟨⟨hseconds, -⟩, hrest⟩ := List.forall_mem_cons.1 hcovers
      cases hread : component? t with
      | none =>
          cases t with
          | nil =>
              cases h
              exact ⟨[], List.nil_sublist _, rfl, rfl⟩
          | cons c more =>
              rw [sumComponents?, hread] at h
              cases h
      | some read =>
          obtain ⟨value, unit, rest⟩ := read
          by_cases hunit : unit = letter
          · subst hunit
            rw [sumComponents?_take hread] at h
            obtain ⟨c, rfl, rfl, rfl⟩ := exists_of_component? hread
            obtain ⟨cs, hunits, rfl, rfl⟩ := ih hrest h
            refine ⟨c :: cs, hunits.cons_cons c.unit, rfl, ?_⟩
            simp [addAll, Component.seconds, hseconds]
          · rw [sumComponents?_skip hread hunit] at h
            obtain ⟨cs, hunits, htext, hsum⟩ := ih hrest h
            exact ⟨cs, hunits.cons letter, htext, hsum⟩

end Parts

theorem covers_dateUnits : Covers dateUnits dateUnits := by
  intro u hu
  revert u
  decide

theorem covers_timeUnits : Covers timeUnits timeUnits := by
  intro u hu
  revert u
  decide

/-! ## Reading whole spans -/

variable {t date time : Text} {span : Span}

/-- Both parts are there, one of them at least is not empty, and the letter T announces the second
one if it is not. -/
theorem parts?_eq_some_iff :
    parts? t = some (date, time) ↔
      t = date ++ (if time = [] then [] else 'T' :: time) ∧ 'T' ∉ date ∧
        (date ≠ [] ∨ time ≠ []) := by
  unfold parts?
  constructor
  · intro h
    split at h
    · cases h
    · rename_i before after hafter hcut
      cases h
      obtain ⟨ht, hmem⟩ := Text.cutFirst_eq_some hcut
      rw [if_neg hafter]
      exact ⟨ht, hmem, .inr hafter⟩
    · rename_i hcut
      rw [Option.ite_none_left_eq_some] at h
      obtain ⟨hne, h⟩ := h
      cases h
      exact ⟨by simp, Text.cutFirst_eq_none_iff.1 hcut, .inl hne⟩
  · rintro ⟨rfl, hmem, hsome⟩
    by_cases htime : time = []
    · subst htime
      have hdate : date ≠ [] := by simpa using hsome
      rw [if_pos rfl, List.append_nil, Text.cutFirst_eq_none_iff.2 hmem]
      exact if_neg hdate
    · rw [if_neg htime, Text.cutFirst_append hmem]
      split
      · rename_i h
        cases h
        exact absurd rfl htime
      · rename_i h
        cases h
        rfl
      · rename_i h
        cases h

theorem printAll_eq_nil_iff {cs : List Component} : printAll cs = [] ↔ cs = [] := by
  cases cs with
  | nil => simp [printAll]
  | cons c cs => simp [printAll, Component.print]

/-- There is no character in components but digits, points and their units. -/
theorem mem_printAll {cs : List Component} {ch : Char} (h : ch ∈ printAll cs) :
    isNumberChar ch = true ∨ ch ∈ cs.map Component.unit := by
  obtain ⟨c, hc, hch⟩ := List.mem_flatMap.1 h
  rcases List.mem_append.1 hch with hch | hch
  · exact .inl (Component.isNumberChar_of_mem_number hch)
  · rw [List.mem_singleton.1 hch]
    exact .inr (List.mem_map_of_mem hc)

namespace Written

theorem parts?_body (w : Written) : parts? w.body = some (printAll w.date, printAll w.time) := by
  rw [parts?_eq_some_iff]
  refine ⟨?_, ?_, ?_⟩
  · simp only [body, printAll_eq_nil_iff]
  · intro h
    rcases mem_printAll h with h | h
    · cases h
    · have hunit := w.date_units.subset h
      simp at hunit
  · simpa only [ne_eq, printAll_eq_nil_iff] using w.some_component

/-- The sign is cut off a written span. -/
theorem cutSign_print (w : Written) : Numeral.cutSign w.print = (w.negative, 'P' :: w.body) := by
  unfold print negative
  rcases w.isSign with h | h | h <;> rw [h] <;> rfl

end Written

/-- Parts that can be added up are those of a written span, with any sign. -/
theorem exists_written {sign : Text} {dateSeconds timeSeconds : Magnitude}
    (hsign : sign = [] ∨ sign = ['-'] ∨ sign = ['+']) (hparts : parts? t = some (date, time))
    (hdate : sumComponents? dateUnits (.finite 0) date = some dateSeconds)
    (htime : sumComponents? timeUnits (.finite 0) time = some timeSeconds) :
    ∃ w : Written, w.sign = sign ∧ w.body = t ∧ w.total = dateSeconds.add timeSeconds := by
  obtain ⟨dates, hdates, rfl, rfl⟩ := exists_of_sumComponents? covers_dateUnits hdate
  obtain ⟨times, htimes, rfl, rfl⟩ := exists_of_sumComponents? covers_timeUnits htime
  obtain ⟨rfl, -, hsome⟩ := parts?_eq_some_iff.1 hparts
  simp only [ne_eq, printAll_eq_nil_iff] at hsome
  refine ⟨⟨sign, dates, times, hsign, hdates, htimes, hsome⟩, rfl, ?_, rfl⟩
  simp only [Written.body, printAll_eq_nil_iff]

/-- A written span is read as the sum of its components. -/
theorem read?_print (w : Written) : read? w.print = ofSeconds? w.negative w.total := by
  have hdate := sumComponents?_printAll covers_dateUnits w.date_units (.finite 0)
  have htime := sumComponents?_printAll covers_timeUnits w.time_units (.finite 0)
  simp only [read?, w.cutSign_print, Time.expect_cons, w.parts?_body, hdate, htime,
    Option.bind_eq_bind, Option.bind_some, Written.total]

/-- What is read is a written span. -/
theorem exists_print_eq (h : read? t = some span) : ∃ w : Written, w.print = t := by
  simp only [read?, Option.bind_eq_bind, Option.bind_eq_some_iff] at h
  obtain ⟨body, hbody, ⟨date, time⟩, hparts, dateSeconds, hdate, timeSeconds, htime, -⟩ := h
  obtain ⟨sign, ht, hsign, -⟩ := Numeral.exists_sign t
  obtain ⟨w, rfl, rfl, -⟩ := exists_written hsign hparts hdate htime
  refine ⟨w, ?_⟩
  rw [ht, Time.expect_eq_some_iff.1 hbody]
  rfl

/-! ## Lengths -/

/-- A span has a sign and less than `2 ^ 63` milliseconds; a length of just that many is cut. -/
theorem ofSeconds?_eq (negative : Bool) (seconds : Magnitude) :
    ofSeconds? negative seconds =
      (milliseconds? seconds).bind fun ms =>
        if ms ≤ Numeral.int64Limit then
          some ⟨Numeral.withSign negative (min ms (Numeral.int64Limit - 1))⟩
        else none := by
  unfold ofSeconds? milliseconds?
  generalize seconds.scale 1000 = length
  cases length with
  | finite units => rw [Option.bind_some]
  | infinite => rfl

theorem exists_ofSeconds?_iff {negative : Bool} {seconds : Magnitude} :
    (∃ span, ofSeconds? negative seconds = some span) ↔
      ∃ ms, milliseconds? seconds = some ms ∧ ms ≤ Numeral.int64Limit := by
  rw [ofSeconds?_eq]
  cases milliseconds? seconds with
  | none => simp
  | some ms => simp

theorem ofSeconds?_of_lt {negative : Bool} {seconds : Magnitude} {ms : Nat}
    (h : milliseconds? seconds = some ms) (hms : ms < Numeral.int64Limit) :
    ofSeconds? negative seconds = some ⟨Numeral.withSign negative ms⟩ := by
  have hmin : min ms (Numeral.int64Limit - 1) = ms := by omega
  rw [ofSeconds?_eq, h, Option.bind_some, if_pos (Nat.le_of_lt hms), hmin]

/-! ## Signs -/

/-- The span of the same length in the other direction. -/
def negate (span : Span) : Span := ⟨-span.milliseconds⟩

theorem ofSeconds?_negative (seconds : Magnitude) :
    ofSeconds? true seconds = (ofSeconds? false seconds).map negate := by
  rw [ofSeconds?_eq, ofSeconds?_eq]
  cases milliseconds? seconds with
  | none => rfl
  | some ms =>
      by_cases hms : ms ≤ Numeral.int64Limit
      · simp [hms, negate, Numeral.withSign]
      · simp [hms]

theorem read?_plus (h : Numeral.IsUnsigned t) : read? ('+' :: t) = read? t := by
  have hplus : Numeral.cutSign ('+' :: t) = (false, t) := rfl
  simp only [read?, hplus, Numeral.cutSign_of_isUnsigned h]

theorem read?_minus (h : Numeral.IsUnsigned t) : read? ('-' :: t) = (read? t).map negate := by
  have hminus : Numeral.cutSign ('-' :: t) = (true, t) := rfl
  simp only [read?, hminus, Numeral.cutSign_of_isUnsigned h, ofSeconds?_negative,
    Option.bind_eq_bind, Option.map_bind, Function.comp_def]

end SqlFilter.Span

namespace SqlFilter.Argument
open SqlFilter.Span

variable {a : Argument}

theorem toSpan_eq_ok_iff {span : Span} : a.toSpan = .ok span ↔ Span.read? a.literal = some span :=
  converted_eq_ok_iff

/-- What a conversion gives is what is read. -/
theorem toOption_toSpan (a : Argument) : a.toSpan.toOption = Span.read? a.literal := by
  unfold toSpan converted
  cases Span.read? a.literal <;> rfl

/-- **The grammar of spans.**  A literal is converted to a span only if it is a written span, and
then exactly if its length in milliseconds is finite and not greater than `2 ^ 63`; what is less is
the length of the span, with the sign of the literal.  In front of a literal without a sign, a plus
changes nothing and a minus turns the span around. -/
theorem toSpan_iff_written (a : Argument) :
    (∀ span, a.toSpan = .ok span → ∃ w : Written, w.print = a.literal) ∧
      (∀ w : Written, w.print = a.literal →
        ((∃ span, a.toSpan = .ok span) ↔
          ∃ ms, milliseconds? w.total = some ms ∧ ms ≤ Numeral.int64Limit) ∧
        ∀ ms, milliseconds? w.total = some ms → ms < Numeral.int64Limit →
          a.toSpan = .ok ⟨Numeral.withSign w.negative ms⟩) ∧
      (Numeral.IsUnsigned a.literal →
        { a with literal := '+' :: a.literal }.toSpan.toOption = a.toSpan.toOption ∧
        { a with literal := '-' :: a.literal }.toSpan.toOption =
          a.toSpan.toOption.map Span.negate) := by
  refine ⟨?_, ?_, ?_⟩
  · intro span h
    exact exists_print_eq (toSpan_eq_ok_iff.1 h)
  · intro w hw
    simp only [toSpan_eq_ok_iff, ← hw, read?_print]
    refine ⟨exists_ofSeconds?_iff, ?_⟩
    intro ms hms hlt
    exact ofSeconds?_of_lt hms hlt
  · intro h
    simp only [toOption_toSpan]
    exact ⟨read?_plus h, read?_minus h⟩

end SqlFilter.Argument

namespace SqlFilter

/-- A day and an hour and a half. -/
def Span.Written.workshop : Span.Written where
  sign := []
  date := [⟨['1'], none, 'D', List.all_eq_true.1 rfl, by decide⟩]
  time := [⟨['1'], some ['5'], 'H', List.all_eq_true.1 rfl, by decide⟩]
  isSign := .inl rfl
  date_units := by decide
  time_units := by decide
  some_component := .inl (by decide)

/-- A day and an hour and a half are converted to milliseconds, with either sign in front too. -/
theorem Argument.toSpan_iff_written_workshop :
    let a : Argument := { literal := "P1DT1.5H".toList, kind := .span }
    Span.Written.workshop.print = a.literal ∧ Numeral.IsUnsigned a.literal ∧
      (∃ w : Span.Written, w.print = a.literal) ∧ a.toSpan = .ok ⟨91800000⟩ ∧
      { a with literal := '+' :: a.literal }.toSpan.toOption = some ⟨91800000⟩ ∧
      { a with literal := '-' :: a.literal }.toSpan.toOption = some ⟨-91800000⟩ := by
  intro a
  obtain ⟨hwritten, hlength, hsign⟩ := toSpan_iff_written a
  have hprint : Span.Written.workshop.print = a.literal := by decide
  have hms : Span.milliseconds? Span.Written.workshop.total = some 91800000 := by decide +kernel
  have hspan : a.toSpan = .ok ⟨91800000⟩ := (hlength _ hprint).2 _ hms (by decide)
  have hunsigned : Numeral.IsUnsigned a.literal := by
    rintro c ⟨⟩
    decide
  obtain ⟨hplus, hminus⟩ := hsign hunsigned
  rw [hspan] at hplus hminus
  exact ⟨hprint, hunsigned, hwritten _ hspan, hspan, hplus, hminus⟩

end SqlFilter
