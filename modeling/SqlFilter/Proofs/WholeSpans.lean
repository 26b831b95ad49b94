import SqlFilter.Proofs.SpanLength
import SqlFilter.Proofs.WholeNumbers

/-!
# Spans in whole numbers

A span whose components are whole numbers is read without any rounding, as long as it has at most
`2 ^ 53` milliseconds.

* `Span.Component.IsWhole` says that the number of a component has no point, and
  `Span.Component.count` is that number;
* `Span.lengthAll` is the exact sum of components, `Span.Written.length` that of a whole span in
  milliseconds;
* `Span.addAll_whole`: the sum in floating point is exact, step by step.

The main statement is `Argument.toSpan_whole`.
-/

namespace SqlFilter.Span

/-! ## Exact lengths -/

/-- The units of the date part with their lengths in milliseconds. -/
def dateLengths : List (Char × Nat) :=
  [('Y', 365 * 86400000), ('M', 30 * 86400000), ('W', 7 * 86400000), ('D', 86400000)]

/-- The units of the time part with their lengths in milliseconds. -/
def timeLengths : List (Char × Nat) := [('H', 3600000), ('M', 60000), ('S', 1000)]

namespace Component

/-- Whether the number of a component is whole: digits and no point. -/
def IsWhole (c : Component) : Prop := c.part = none

/-- The number of a component that is whole. -/
def count (c : Component) : Nat := Numeral.ofDigits c.whole

/-- The length of a component that is whole, where `lengths` says how long each unit is. -/
def length (lengths : List (Char × Nat)) (c : Component) : Nat :=
  c.count * (lengths.lookup c.unit).getD 0

end Component

/-- The length of components that are whole. -/
def lengthAll (lengths : List (Char × Nat)) (cs : List Component) : Nat :=
  cs.foldr (fun c sum => c.length lengths + sum) 0

/-- The length of a span in whole numbers, in milliseconds and without its sign. -/
def Written.length (w : Written) : Nat :=
  lengthAll dateLengths w.date + lengthAll timeLengths w.time

/-! ## Seconds and milliseconds -/

/-- Units with their lengths in milliseconds, if `units` has them in seconds. -/
def inMilliseconds (units : List (Char × Nat)) : List (Char × Nat) :=
  units.map fun u => (u.1, u.2 * 1000)

theorem lookup_inMilliseconds (units : List (Char × Nat)) (unit : Char) :
    ((inMilliseconds units).lookup unit).getD 0 = (units.lookup unit).getD 0 * 1000 := by
  induction units with
  | nil => exact (Nat.zero_mul 1000).symm
  | cons u units ih =>
      rw [inMilliseconds, List.map_cons, List.lookup_cons, List.lookup_cons]
      cases unit == u.1 with
      | true => rfl
      | false => exact ih

theorem lengthAll_inMilliseconds (units : List (Char × Nat)) (cs : List Component) :
    lengthAll (inMilliseconds units) cs = lengthAll units cs * 1000 := by
  induction cs with
  | nil => exact (Nat.zero_mul 1000).symm
  | cons c cs ih =>
      show c.length (inMilliseconds units) + lengthAll (inMilliseconds units) cs =
        (c.length units + lengthAll units cs) * 1000
      rw [ih, Component.length, Component.length, lookup_inMilliseconds, ← Nat.mul_assoc,
        ← Nat.add_mul]

/-- A span has a thousand times as many milliseconds as seconds. -/
theorem Written.length_eq (w : Written) :
    w.length = (lengthAll dateUnits w.date + lengthAll timeUnits w.time) * 1000 := by
  have hdate : dateLengths = inMilliseconds dateUnits := rfl
  have htime : timeLengths = inMilliseconds timeUnits := rfl
  rw [Written.length, hdate, htime, lengthAll_inMilliseconds, lengthAll_inMilliseconds,
    ← Nat.add_mul]

/-! ## Exact sums -/

section Sums

variable {units : List (Char × Nat)}

/-- The length of a component that is whole is exact: neither its number nor the multiple is
rounded. -/
theorem seconds_whole {c : Component} (hwhole : c.IsWhole)
    (hunit : 0 < (units.lookup c.unit).getD 0) (hlength : c.length units < Nat.pow 2 53) :
    c.seconds units = .whole (c.length units) := by
  have hcount : c.count < Nat.pow 2 53 :=
    Nat.lt_of_le_of_lt (Nat.le_mul_of_pos_right _ hunit) hlength
  have hdecimal : c.decimal = ⟨false, c.count, 0⟩ := by
    unfold Component.IsWhole at hwhole
    simp [Component.decimal, Component.count, hwhole]
  rw [Component.seconds, hdecimal, Magnitude.ofDecimal_whole hcount,
    Magnitude.scale_whole hlength, Component.length]

/-- Components that are whole are added up exactly.  The induction is on the components, as they are
added one by one; that the whole sum has at most 53 bits bounds all sums on the way. -/
theorem addAll_whole {cs : List Component} (hwhole : ∀ c ∈ cs, c.IsWhole)
    (hunits : ∀ c ∈ cs, 0 < (units.lookup c.unit).getD 0) {total : Nat}
    (hsum : total + lengthAll units cs < Nat.pow 2 53) :
    addAll units (.whole total) cs = .whole (total + lengthAll units cs) := by
  induction cs generalizing total with
  | nil => rfl
  | cons c cs ih =>
      obtain ⟨hc, hcs⟩ := List.forall_mem_cons.1 hwhole
      obtain ⟨hunit, hrest⟩ := List.forall_mem_cons.1 hunits
      have hcons : lengthAll units (c :: cs) = c.length units + lengthAll units cs := rfl
      rw [hcons] at hsum ⊢
      have hseconds := seconds_whole hc hunit (by omega)
      have hstep : addAll units (.whole total) (c :: cs) =
          addAll units (.whole (total + c.length units)) cs := by
        rw [addAll, List.foldl_cons, hseconds, Magnitude.add_whole (by omega), addAll]
      rw [hstep, ih hcs hrest (by omega), Nat.add_assoc]

end Sums

/-- No unit of a table is without length if no entry is. -/
theorem lookup_pos {units : List (Char × Nat)} (hpos : ∀ u ∈ units, 0 < u.2) {unit : Char}
    (h : unit ∈ units.map Prod.fst) : 0 < (units.lookup unit).getD 0 := by
  induction units with
  | nil => cases h
  | cons u units ih =>
      obtain ⟨hu, hunits⟩ := List.forall_mem_cons.1 hpos
      rw [List.lookup_cons]
      cases heq : unit == u.1 with
      | true => exact hu
      | false =>
          rw [List.map_cons, List.mem_cons] at h
          exact ih hunits (h.resolve_left (ne_of_beq_false heq))

theorem dateUnits_pos : ∀ u ∈ dateUnits, 0 < u.2 := by simp [dateUnits]

theorem timeUnits_pos : ∀ u ∈ timeUnits, 0 < u.2 := by simp [timeUnits]

theorem milliseconds?_whole {n : Nat} (h : n * 1000 < Nat.pow 2 53) :
    milliseconds? (.whole n) = some (n * 1000) := by
  rw [milliseconds?, Magnitude.scale_whole h]
  exact congrArg some (Magnitude.nearestWhole_whole _)

namespace Written

variable {w : Written}

/-- The sum of a span in whole numbers is exact. -/
theorem total_whole (hwhole : ∀ c ∈ w.date ++ w.time, c.IsWhole)
    (hsum : lengthAll dateUnits w.date + lengthAll timeUnits w.time < Nat.pow 2 53) :
    w.total = .whole (lengthAll dateUnits w.date + lengthAll timeUnits w.time) := by
  obtain ⟨hdates, htimes⟩ := List.forall_mem_append.1 hwhole
  have hdate : addAll dateUnits (.whole 0) w.date = .whole (0 + lengthAll dateUnits w.date) :=
    addAll_whole hdates
      (fun _ hc => lookup_pos dateUnits_pos (w.date_units.subset (List.mem_map_of_mem hc)))
      (by omega)
  have htime : addAll timeUnits (.whole 0) w.time = .whole (0 + lengthAll timeUnits w.time) :=
    addAll_whole htimes
      (fun _ hc => lookup_pos timeUnits_pos (w.time_units.subset (List.mem_map_of_mem hc)))
      (by omega)
  have hzero : Magnitude.finite 0 = .whole 0 := by rw [Magnitude.whole, Nat.zero_mul]
  rw [total, hzero, hdate, htime, Nat.zero_add, Nat.zero_add, Magnitude.add_whole hsum]

/-- A span in whole numbers of at most `2 ^ 53` milliseconds has its exact length. -/
theorem milliseconds?_total (hwhole : ∀ c ∈ w.date ++ w.time, c.IsWhole)
    (hlength : w.length ≤ Nat.pow 2 53) : milliseconds? w.total = some w.length := by
  -- a thousand does not divide the bound, so that it is not reached
  have hbound : Nat.pow 2 53 = 9007199254740992 := rfl
  rw [length_eq] at hlength ⊢
  rw [total_whole hwhole (by omega), milliseconds?_whole (by omega)]

theorem negative_iff : w.negative = true ↔ w.print.head? = some '-' := by
  unfold negative print
  rcases w.isSign with h | h | h <;> simp [h]

end Written
end SqlFilter.Span

namespace SqlFilter.Argument
open SqlFilter.Span

/-- **Spans in whole numbers are exact.**  A written span whose numbers are all whole is converted
to exactly the sum of its components, each its number times the length of its unit, if that is not
more than `2 ^ 53` milliseconds; a minus in front turns it around. -/
theorem toSpan_whole (a : Argument) (w : Written) (hw : w.print = a.literal)
    (hwhole : ∀ c ∈ w.date ++ w.time, c.IsWhole) (hlength : w.length ≤ Nat.pow 2 53) :
    a.toSpan = .ok ⟨if a.literal.head? = some '-' then -(w.length : Int) else w.length⟩ := by
  have hms : milliseconds? w.total = some w.length := Written.milliseconds?_total hwhole hlength
  have hlt : w.length < Numeral.int64Limit := Nat.lt_of_le_of_lt hlength (by decide)
  rw [toSpan_of_print hw, hms]
  dsimp only
  rw [if_pos (Nat.le_of_lt hlt), Nat.min_eq_left (by omega), Numeral.withSign, ← hw]
  simp only [Written.negative_iff]

end SqlFilter.Argument

namespace SqlFilter

theorem Span.Written.isSign_minus :
    (['-'] : Text) = [] ∨ (['-'] : Text) = ['-'] ∨ (['-'] : Text) = ['+'] := .inr (.inl rfl)

/-- A span into the past that is less than a second short of `2 ^ 53` milliseconds, with zeros in
front of its years and with no minutes. -/
def Span.Written.edge : Written where
  sign := ['-']
  date := [⟨"00285616".toList, none, 'Y', List.all_eq_true.1 rfl, by decide⟩,
    ⟨"151".toList, none, 'D', List.all_eq_true.1 rfl, by decide⟩]
  time := [⟨"8".toList, none, 'H', List.all_eq_true.1 rfl, by decide⟩,
    ⟨"000".toList, none, 'M', List.all_eq_true.1 rfl, by decide⟩,
    ⟨"3540".toList, none, 'S', List.all_eq_true.1 rfl, by decide⟩]
  isSign := isSign_minus
  date_units := by decide
  time_units := by decide
  some_component := .inl (by decide)

/-- The span at the edge is converted to each of its milliseconds. -/
theorem Argument.toSpan_whole_edge :
    let a : Argument := { literal := "-P00285616Y151DT8H000M3540S".toList, kind := .span }
    Span.Written.edge.print = a.literal ∧
      (∀ c ∈ Span.Written.edge.date ++ Span.Written.edge.time, c.IsWhole) ∧
      Span.Written.edge.length = 9007199254740000 ∧
      Span.Written.edge.length ≤ Nat.pow 2 53 ∧ a.toSpan = .ok ⟨-9007199254740000⟩ := by
  intro a
  have hprint : Span.Written.edge.print = a.literal := by decide
  have hwhole : ∀ c ∈ Span.Written.edge.date ++ Span.Written.edge.time, c.IsWhole := by
    simp [Span.Written.edge, Span.Component.IsWhole]
  have hlength : Span.Written.edge.length = 9007199254740000 := by decide
  have hbound : Span.Written.edge.length ≤ Nat.pow 2 53 := by
    rw [hlength]
    decide
  refine ⟨hprint, hwhole, hlength, hbound, ?_⟩
  rw [toSpan_whole a _ hprint hwhole hbound, hlength]
  rfl

end SqlFilter
