import SqlFilter.Proofs.Composition
import SqlFilter.Proofs.Outside
import SqlFilter.Proofs.Pieces

/-!
# Placeholders in order

The placeholders of a predicate are found by reading its text from left to right and passing over
delimited names.  They are as many as the values, the `k`-th carries the number `k` if placeholders
carry numbers, and it stands in the text of the `k`-th constraint that is not unary, which binds the
`k`-th value.

* `Profile.placeholdersIn` finds the placeholders of a text with their positions;
* `Piece.Located` says that the placeholders that are found in a row of pieces are numbered in
  order and stand in the texts of the values;
* `Piece.Scans` says that a row of pieces is read in this way whatever comes after it.

The main statement is `Builder.placeholders_in_order`.
-/

namespace SqlFilter

/-! ## Finding placeholders -/

/-- The placeholders of a text with their positions, where the text begins at the position `start`.
The number of a placeholder goes on as long as there are digits. -/
def Text.placeholdersFrom (start : Nat) : Text → List (Nat × Text)
  | [] => []
  | c :: rest =>
    let digits := rest.takeWhile Char.isDigit
    if c = '?' then (start, [c]) :: placeholdersFrom (start + 1) rest
    else if (c = '$' || c = '@') && !digits.isEmpty then
      (start, c :: digits) :: placeholdersFrom (start + 1) rest
    else placeholdersFrom (start + 1) rest

/-- The placeholders of a text outside of delimited names, with their positions. -/
def Profile.placeholdersIn (p : Profile) (t : Text) : List (Nat × Text) :=
  Text.placeholdersFrom 0 (p.delimiter.blank .outside t)

namespace Text

theorem placeholdersFrom_of_not_isMark {x : Text}
    (hx : ∀ c ∈ x, PlaceholderStyle.isMark c = false) (y : Text) (start : Nat) :
    placeholdersFrom start (x ++ y) = placeholdersFrom (start + x.length) y := by
  induction x generalizing start with
  | nil => simp
  | cons c x ih =>
      have hc := hx c (List.mem_cons_self ..)
      simp only [PlaceholderStyle.isMark, Bool.or_eq_false_iff, decide_eq_false_iff_not] at hc
      rw [List.cons_append, placeholdersFrom, if_neg hc.2, if_neg (by simp [hc.1]),
        ih (fun c hc => hx c (List.mem_cons_of_mem _ hc)), List.length_cons]
      congr 1
      omega

theorem isMark_of_isDigit {c : Char} (h : c.isDigit = true) : PlaceholderStyle.isMark c = false := by
  cases hc : PlaceholderStyle.isMark c with
  | false => rfl
  | true =>
      simp only [PlaceholderStyle.isMark, Bool.or_eq_true, decide_eq_true_eq] at hc
      rcases hc with (rfl | rfl) | rfl <;> exact absurd h (by decide)

/-- What does not go on with the digits of a number. -/
def NoDigit (t : Text) : Prop := ∀ c ∈ t.head?, c.isDigit = false

theorem NoDigit.append {x y : Text} (hx : x.NoDigit) (hy : y.NoDigit) : (x ++ y).NoDigit := by
  cases x with
  | nil => exact hy
  | cons c x => exact hx

/-- A placeholder is found as a whole where no digit follows it. -/
theorem placeholdersFrom_placeholder (s : PlaceholderStyle) (number start : Nat) {y : Text}
    (hy : y.NoDigit) :
    placeholdersFrom start (s.placeholder number ++ y) =
      (start, s.placeholder number) ::
        placeholdersFrom (start + (s.placeholder number).length) y := by
  have hdigits : (Numeral.digits number ++ y).takeWhile Char.isDigit = Numeral.digits number := by
    rw [List.takeWhile_append_of_pos fun c hc => Numeral.isDigit_of_mem_digits hc]
    cases y with
    | nil => simp
    | cons c y => rw [List.takeWhile_cons_of_neg (by simp [hy c rfl]), List.append_nil]
  have hmore : ∀ i, placeholdersFrom i (Numeral.digits number ++ y) =
      placeholdersFrom (i + (Numeral.digits number).length) y :=
    placeholdersFrom_of_not_isMark
      (fun c hc => isMark_of_isDigit (Numeral.isDigit_of_mem_digits hc)) y
  have hsome : (Numeral.digits number).isEmpty = false := by
    simpa using Numeral.digits_ne_nil number
  cases s with
  | questionMark => rfl
  | dollar =>
      have hlength : start + ('$' :: Numeral.digits number).length =
          start + 1 + (Numeral.digits number).length := by rw [List.length_cons]; omega
      rw [PlaceholderStyle.placeholder, hlength, ← hmore, List.cons_append, placeholdersFrom]
      simp only [hdigits, hsome]
      rfl
  | atSign =>
      have hlength : start + ('@' :: Numeral.digits number).length =
          start + 1 + (Numeral.digits number).length := by rw [List.length_cons]; omega
      rw [PlaceholderStyle.placeholder, hlength, ← hmore, List.cons_append, placeholdersFrom]
      simp only [hdigits, hsome]
      rfl

/-- A placeholder between texts without marks is the only one. -/
theorem placeholdersFrom_between (s : PlaceholderStyle) (number start : Nat) {x z y : Text}
    (hx : ∀ c ∈ x, PlaceholderStyle.isMark c = false)
    (hz : ∀ c ∈ z, PlaceholderStyle.isMark c = false) (hdigit : z.NoDigit) (hy : y.NoDigit) :
    placeholdersFrom start (x ++ s.placeholder number ++ z ++ y) =
      (start + x.length, s.placeholder number) ::
        placeholdersFrom (start + (x ++ s.placeholder number ++ z).length) y := by
  rw [List.append_assoc, List.append_assoc, placeholdersFrom_of_not_isMark hx,
    placeholdersFrom_placeholder s number _ (hdigit.append hy),
    placeholdersFrom_of_not_isMark hz, List.length_append, List.length_append]
  simp only [Nat.add_assoc]

end Text

/-! ## Rows of pieces -/

namespace Piece

section Scan

variable {α : Type} (s : PlaceholderStyle) (text : Nat → α → Text) (slots : α → Nat)

/-- `found` are the placeholders of a row of pieces that begins at the position `start` with the
number `n`. -/
structure Located (start n : Nat) (ps : List (Piece α)) (found : List (Nat × Text)) : Prop where
  /-- They are numbered in order. -/
  numbers : found.map Prod.snd = (List.range' n (widthAll slots ps)).map s.placeholder
  /-- Each stands in the text of a value that has one placeholder, behind as many placeholders as
  the pieces before have. -/
  places : ∀ k x, found[k]? = some x →
    ∃ before a after, ps = before ++ value a :: after ∧ slots a = 1 ∧
      widthAll slots before = k ∧
      start + (printAll text slots n before).length ≤ x.1 ∧
      x.1 + x.2.length ≤ start + (printAll text slots n before).length + (text (n + k) a).length

/-- A reader finds the placeholders of a row of pieces, and then goes on with what comes after. -/
def Scans (n : Nat) (ps : List (Piece α)) : Prop :=
  ∀ (start : Nat) (y : Text), y.NoDigit → ∃ found,
    Text.placeholdersFrom start (printAll text slots n ps ++ y) =
      found ++ Text.placeholdersFrom (start + (printAll text slots n ps).length) y ∧
    Located s text slots start n ps found

variable {s text slots}

theorem Located.length {start n : Nat} {ps : List (Piece α)} {found : List (Nat × Text)}
    (h : Located s text slots start n ps found) : found.length = widthAll slots ps := by
  simpa using congrArg List.length h.numbers

/-- The `k`-th placeholder with its position, and the value that it belongs to. -/
theorem Located.exists_place {start n k : Nat} {ps : List (Piece α)} {found : List (Nat × Text)}
    (h : Located s text slots start n ps found) (hk : k < widthAll slots ps) :
    ∃ position before a after, found[k]? = some (position, s.placeholder (n + k)) ∧
      ps = before ++ value a :: after ∧ slots a = 1 ∧ widthAll slots before = k ∧
      start + (printAll text slots n before).length ≤ position ∧
      position + (s.placeholder (n + k)).length ≤
        start + (printAll text slots n before).length + (text (n + k) a).length := by
  rw [← h.length] at hk
  obtain ⟨before, a, after, hps, ha, hbefore, hplace⟩ :=
    h.places k _ (List.getElem?_eq_getElem hk)
  have hmark : found[k].2 = s.placeholder (n + k) := by
    have hnumber := congrArg (fun l => l[k]?) h.numbers
    have hrange : (List.range' n (widthAll slots ps))[k]? = some (n + k) := by
      rw [List.getElem?_range' (by rwa [← h.length]), Nat.one_mul]
    simp only [List.getElem?_map, List.getElem?_eq_getElem hk, hrange, Option.map_some,
      Option.some.injEq] at hnumber
    exact hnumber
  rw [← hmark]
  exact ⟨found[k].1, before, a, after, List.getElem?_eq_getElem hk, hps, ha, hbefore, hplace⟩

theorem Located.append {start n : Nat} {ps qs : List (Piece α)} {found found' : List (Nat × Text)}
    (h : Located s text slots start n ps found)
    (h' : Located s text slots (start + (printAll text slots n ps).length) (n + widthAll slots ps)
      qs found') :
    Located s text slots start n (ps ++ qs) (found ++ found') where
  numbers := by
    rw [List.map_append, h.numbers, h'.numbers, ← List.map_append, widthAll_append,
      List.range'_append_1]
  places k x hx := by
    by_cases hk : k < found.length
    · rw [List.getElem?_append_left hk] at hx
      obtain ⟨before, a, after, rfl, ha, hbefore, hplace⟩ := h.places k x hx
      exact ⟨before, a, after ++ qs, by simp, ha, hbefore, hplace⟩
    · -- the second row counts on from the placeholders of the first
      rw [List.getElem?_append_right (Nat.le_of_not_lt hk), h.length] at hx
      rw [h.length] at hk
      obtain ⟨before, a, after, rfl, ha, hbefore, hplace⟩ := h'.places _ x hx
      have hnumber : n + widthAll slots ps + (k - widthAll slots ps) = n + k := by omega
      refine ⟨ps ++ before, a, after, by simp, ha, ?_, ?_⟩
      · rw [widthAll_append, hbefore]
        omega
      · rw [hnumber] at hplace
        rw [printAll_append, List.length_append]
        omega

theorem width_of_value?_eq_none {x : Piece α} (hx : x.value? = none) : x.width slots = 0 := by
  cases x with
  | value a => exact absurd hx (by simp [value?])
  | _ => rfl

theorem isFixed_of_value?_eq_none {x : Piece α} (hx : x.value? = none) (n : Nat) :
    (x.print text n).IsFixed := by
  cases x with
  | enter => exact .enter
  | leave => exact .leave
  | join joiner => exact .keyword joiner
  | value a => exact absurd hx (by simp [value?])

theorem Scans.nil (n : Nat) : Scans s text slots n [] := by
  intro start y _
  exact ⟨[], rfl, ⟨rfl, fun k x hx => absurd hx (by simp)⟩⟩

/-- A parenthesis or a joiner is passed over. -/
theorem Scans.cons {n : Nat} {ps : List (Piece α)} (h : Scans s text slots n ps) {x : Piece α}
    (hx : x.value? = none) : Scans s text slots n (x :: ps) := by
  have hwidth : x.width slots = 0 := width_of_value?_eq_none hx
  have hmark : ∀ c ∈ x.print text n, PlaceholderStyle.isMark c = false :=
    (isFixed_of_value?_eq_none hx n).avoids PlaceholderStyle.isMark_fixed
  intro start y hy
  obtain ⟨found, hfound, hlocated⟩ := h (start + (x.print text n).length) y hy
  have hempty : Located s text slots start n [x] [] :=
    ⟨by simp [widthAll, hwidth], fun k x hx => absurd hx (by simp)⟩
  have hprint : printAll text slots n [x] = x.print text n := by simp [printAll]
  have hall : widthAll slots [x] = 0 := by simp [widthAll, hwidth]
  refine ⟨found, ?_, hempty.append (by rwa [hprint, hall])⟩
  rw [printAll, hwidth, Nat.add_zero, List.append_assoc,
    Text.placeholdersFrom_of_not_isMark hmark, hfound, List.length_append, Nat.add_assoc]

/-- Two rows, one after the other, where the second does not begin with a digit. -/
theorem Scans.append {n : Nat} {ps qs : List (Piece α)} (h : Scans s text slots n ps)
    (h' : Scans s text slots (n + widthAll slots ps) qs)
    (hqs : ∀ n y, Text.NoDigit y → (printAll text slots n qs ++ y).NoDigit) :
    Scans s text slots n (ps ++ qs) := by
  intro start y hy
  obtain ⟨found, hfound, hlocated⟩ := h start _ (hqs (n + widthAll slots ps) y hy)
  obtain ⟨found', hfound', hlocated'⟩ := h' (start + (printAll text slots n ps).length) y hy
  refine ⟨found ++ found', ?_, hlocated.append hlocated'⟩
  rw [printAll_append, List.append_assoc, hfound, hfound', List.append_assoc, List.length_append,
    Nat.add_assoc]

/-- A value with one placeholder or none is read, if these are the placeholders of its text. -/
theorem Scans.value {n : Nat} {a : α} (hslots : slots a ≤ 1)
    (h : ∀ (start : Nat) (y : Text), y.NoDigit → ∃ found,
      Text.placeholdersFrom start (text n a ++ y) =
        found ++ Text.placeholdersFrom (start + (text n a).length) y ∧
      found.map Prod.snd = (List.range' n (slots a)).map s.placeholder ∧
      ∀ x ∈ found, start ≤ x.1 ∧ x.1 + x.2.length ≤ start + (text n a).length) :
    Scans s text slots n [.value a] := by
  intro start y hy
  obtain ⟨found, hfound, hnumbers, hplaces⟩ := h start y hy
  have hprint : printAll text slots n [.value a] = text n a := by simp [printAll, print]
  refine ⟨found, by rw [hprint, hfound], by simpa [widthAll, width] using hnumbers, ?_⟩
  intro k x hx
  have hlength : found.length = slots a := by simpa using congrArg List.length hnumbers
  obtain ⟨hk, -⟩ := List.getElem?_eq_some_iff.1 hx
  have hk : k = 0 := by omega
  subst hk
  exact ⟨[], a, [], rfl, by omega, rfl, hplaces x (List.mem_of_getElem? hx)⟩

end Scan

end Piece

namespace Tree

variable {α : Type} {s : PlaceholderStyle} {text : Nat → α → Text} {slots : α → Nat}

/-- Behind an operand there is a joiner or what comes after the whole row. -/
theorem noDigit_restPieces (rest : List (Joiner × Tree α)) (n : Nat) (y : Text) (hy : y.NoDigit) :
    (Piece.printAll text slots n (restPieces rest) ++ y).NoDigit := by
  cases rest with
  | nil => exact hy
  | cons operand rest =>
      obtain ⟨j, t⟩ := operand
      have hj : ∀ x : Text, (j.keyword ++ x).NoDigit := by
        intro x c hc
        cases j <;> cases hc <;> decide
      rw [restPieces, List.cons_append, Piece.printAll, List.append_assoc]
      exact hj _

mutual

/-- A tree is read if its values are. -/
theorem scans_pieces :
    ∀ (t : Tree α) (n : Nat), (∀ a ∈ t.leaves, ∀ n, Piece.Scans s text slots n [.value a]) →
      Piece.Scans s text slots n t.pieces
  | leaf a, n, h => h a (mem_leaf a) n
  | group first rest, n, h => by
      obtain ⟨hfirst, hrest⟩ := of_forall_group h
      have hopen : Piece.Scans s text slots n (.enter :: first.pieces) :=
        (scans_pieces first n hfirst).cons rfl
      have hinside := hopen.append (scans_restPieces rest _ hrest) (noDigit_restPieces rest)
      refine hinside.append ((Piece.Scans.nil _).cons rfl) ?_
      intro n y _ c hc
      cases hc
      decide

theorem scans_restPieces :
    ∀ (rest : List (Joiner × Tree α)) (n : Nat),
      (∀ a ∈ restLeaves rest, ∀ n, Piece.Scans s text slots n [.value a]) →
      Piece.Scans s text slots n (restPieces rest)
  | [], n, _ => .nil n
  | (joiner, operand) :: rest, n, h => by
      obtain ⟨hoperand, hrest⟩ := of_forall_rest h
      have hjoin : Piece.Scans s text slots n (.join joiner :: operand.pieces) :=
        (scans_pieces operand n hoperand).cons rfl
      exact hjoin.append (scans_restPieces rest _ hrest) (noDigit_restPieces rest)

end

end Tree

/-! ## The placeholder of a test -/

/-- A test with a text without marks before it has at most one placeholder. -/
theorem Test.placeholdersFrom_print (p : Profile) {x : Text}
    (hx : ∀ c ∈ x, PlaceholderStyle.isMark c = false) (n start : Nat) {y : Text} (hy : y.NoDigit)
    (t : Test) : ∃ found,
      Text.placeholdersFrom start (x ++ t.print p n ++ y) =
        found ++ Text.placeholdersFrom (start + (x ++ t.print p n).length) y ∧
      found.map Prod.snd = (List.range' n t.width).map p.placeholders.placeholder ∧
      ∀ z ∈ found, start ≤ z.1 ∧ z.1 + z.2.length ≤ start + (x ++ t.print p n).length := by
  cases t with
  | present =>
      have hmark : ∀ c ∈ x ++ presence, PlaceholderStyle.isMark c = false := by
        intro c hc
        rcases List.mem_append.1 hc with hc | hc
        · exact hx c hc
        · exact Text.IsFixed.presence.avoids PlaceholderStyle.isMark_fixed c hc
      refine ⟨[], ?_, rfl, by simp⟩
      rw [print, Text.placeholdersFrom_of_not_isMark hmark, List.nil_append]
  | compared o l t =>
      let before := x ++ (o.print ++ p.concatenation.opening l t)
      have hsplit : x ++ (compared o l t).print p n =
          before ++ p.placeholders.placeholder n ++ p.concatenation.closing l t := by
        rw [print_compared]
        simp only [before, List.append_assoc]
      have hbefore : ∀ c ∈ before, PlaceholderStyle.isMark c = false := by
        intro c hc
        rcases List.mem_append.1 hc with hc | hc
        · exact hx c hc
        · exact ((Text.IsFixed.operator o).append (.opening _ l t)).avoids
            PlaceholderStyle.isMark_fixed c hc
      rw [hsplit]
      refine ⟨[(start + before.length, p.placeholders.placeholder n)], ?_, rfl, ?_⟩
      · exact Text.placeholdersFrom_between p.placeholders n start hbefore
          ((Text.IsFixed.closing _ l t).avoids PlaceholderStyle.isMark_fixed)
          (p.concatenation.isDigit_head?_closing l t) hy
      · intro z hz
        rw [List.mem_singleton.1 hz]
        simp only [List.length_append]
        omega

/-! ## Predicates -/

namespace Builder

variable {b : Builder} {now : Instant} {e : Expression}

/-- A constraint that binds its values is read with as many placeholders. -/
theorem scans_text (hnames : b.ClearNames PlaceholderStyle.isMark e) {c : Constraint}
    (hc : c ∈ e.constraints) (hok : b.fault? now c = none) (n : Nat) :
    Piece.Scans b.profile.placeholders (fun n c => b.profile.delimiter.blank .outside (b.text n c))
      (b.width now) n [.value c] := by
  obtain ⟨k, hk, hwidth⟩ := exists_condition hok
  obtain ⟨seen, hseen, hsees⟩ := sees_text hnames (by decide) (by decide) hc hk
  have hone : b.width now c ≤ 1 := by
    rw [hwidth]
    exact k.test.width_le_one
  refine Piece.Scans.value hone ?_
  intro start y hy
  rw [(hsees n).blank, hwidth]
  exact Test.placeholdersFrom_print b.profile hseen n start hy k.test

/-- Constraints without errors bind as many values as there are that are not unary. -/
theorem length_values {cs : List Constraint} (hok : ∀ c ∈ cs, b.fault? now c = none) :
    (cs.flatMap (b.values now)).length = (cs.filter fun c => !c.isUnary).length := by
  induction cs with
  | nil => rfl
  | cons c cs ih =>
      have hc : (b.values now c).length = if c.isUnary then 0 else 1 :=
        width_eq (hok c (List.mem_cons_self ..))
      have hcs := ih fun c hc => hok c (List.mem_cons_of_mem _ hc)
      rw [List.flatMap_cons, List.length_append, hc, hcs]
      cases hunary : c.isUnary with
      | true => rw [List.filter_cons_of_neg (by simp [hunary])]; simp
      | false => rw [List.filter_cons_of_pos (by simp [hunary])]; simp [Nat.add_comm]

/-- A constraint with a value, behind as many values as there are constraints before it that are
not unary. -/
theorem values_of_split {cs ds : List Constraint} {c : Constraint} {v : SqlValue}
    (hok : ∀ d ∈ cs ++ c :: ds, b.fault? now d = none) (hone : b.width now c = 1)
    (hv : ((cs ++ c :: ds).flatMap (b.values now))[(cs.flatMap (b.values now)).length]? = some v) :
    b.values now c = [v] ∧
      ((cs ++ c :: ds).filter fun c => !c.isUnary)[(cs.flatMap (b.values now)).length]? =
        some c := by
  have hunary : c.isUnary = false := by
    have hc := width_eq (hok c (by simp))
    rw [hone] at hc
    cases hunary : c.isUnary with
    | false => rfl
    | true => simp [hunary] at hc
  refine ⟨?_, ?_⟩
  · obtain ⟨w, hw⟩ := List.length_eq_one_iff.1 hone
    rw [List.flatMap_append, List.flatMap_cons, hw, List.getElem?_append_right (Nat.le_refl _),
      Nat.sub_self] at hv
    rw [hw, Option.some.inj hv]
  · rw [length_values fun d hd => hok d (List.mem_append_left _ hd), List.filter_append,
      List.filter_cons_of_pos (by simp [hunary]), List.getElem?_append_right (Nat.le_refl _),
      Nat.sub_self]
    rfl

/-- The reader finds the placeholders of a predicate in its pieces. -/
theorem located_placeholders (hnames : b.ClearNames PlaceholderStyle.isMark e)
    (hok : ∀ c ∈ e.constraints, b.fault? now c = none) :
    Piece.Located b.profile.placeholders
      (fun n c => b.profile.delimiter.blank .outside (b.text n c)) (b.width now) 0 1
      e.tree.grouped.pieces
      (b.profile.placeholdersIn (e.tree.grouped.write b.text (b.width now) 1)) := by
  have hsees : b.profile.delimiter.Sees (e.tree.grouped.write b.text (b.width now) 1)
      (e.tree.grouped.write (fun n c => b.profile.delimiter.blank .outside (b.text n c))
        (b.width now) 1) := Tree.sees_write _ 1 fun c _ n => b.sees_blank n c
  have hleaf : ∀ c ∈ e.tree.grouped.leaves, ∀ n,
      Piece.Scans b.profile.placeholders
        (fun n c => b.profile.delimiter.blank .outside (b.text n c)) (b.width now) n [.value c] := by
    intro c hc n
    rw [Expression.leaves_tree_grouped] at hc
    exact scans_text hnames hc (hok c hc) n
  have hend : Text.NoDigit [] := by
    intro c hc
    cases hc
  obtain ⟨found, hfound, hlocated⟩ := Tree.scans_pieces _ 1 hleaf 0 [] hend
  rw [Tree.printAll_pieces, List.append_nil, Text.placeholdersFrom, List.append_nil] at hfound
  rwa [Profile.placeholdersIn, hsees.blank, hfound]

/-- The text of pieces in a row, where each constraint has the text that it has alone. -/
def printOwn (b : Builder) (now : Instant) (ps : List (Piece Constraint)) : Text :=
  Piece.printAll (b.ownText now) (fun c => (b.alone now c).params.length) 1 ps

/-- **Placeholders in order.**  A reader of a predicate finds as many placeholders as there are
values, numbered from one on.  The `k`-th stands in the text of the `k`-th constraint that is not
unary, and this constraint binds the `k`-th value.  (Here `k` counts from zero.) -/
theorem placeholders_in_order {p : Predicate} (hnames : b.ClearNames PlaceholderStyle.isMark e)
    (h : b.build now e = .ok p) :
    (b.profile.placeholdersIn p.sql).map Prod.snd =
        (List.range' 1 p.params.length).map b.profile.placeholders.placeholder ∧
      p.sql = b.printOwn now e.tree.grouped.pieces ∧
      ∀ k v, p.params[k]? = some v →
        ∃ before c after position,
          e.tree.grouped.pieces = before ++ .value c :: after ∧
          ((Piece.values before).filter fun c => !c.isUnary).length = k ∧
          (e.constraints.filter fun c => !c.isUnary)[k]? = some c ∧
          (b.alone now c).params = [v] ∧
          (b.profile.placeholdersIn p.sql)[k]? =
            some (position, b.profile.placeholders.placeholder (k + 1)) ∧
          (b.printOwn now before).length ≤ position ∧
          position + (b.profile.placeholders.placeholder (k + 1)).length ≤
            (b.printOwn now before).length + (b.ownText now (k + 1) c).length := by
  obtain ⟨hok, rfl⟩ := (b.build_eq_ok_iff now e p).1 h
  have hlocated := located_placeholders hnames hok
  have hvalues : Piece.values e.tree.grouped.pieces = e.constraints := by
    rw [Tree.values_pieces, Expression.leaves_tree_grouped]
  have hwidth : ∀ ps, Piece.widthAll (b.width now) ps =
      ((Piece.values ps).flatMap (b.values now)).length := Piece.widthAll_eq_length (b.values now)
  have hnumbers := hlocated.numbers
  rw [hwidth, hvalues] at hnumbers
  refine ⟨hnumbers, by rw [printOwn, Tree.printAll_pieces, write_ownText hok], ?_⟩
  intro k v hv
  have hk : k < Piece.widthAll (b.width now) e.tree.grouped.pieces := by
    rw [hwidth, hvalues]
    exact (List.getElem?_eq_some_iff.1 hv).1
  -- the constraint of the `k`-th placeholder, with as many values before it as placeholders
  obtain ⟨position, before, c, after, hx, hpieces, hone, hbefore, hstart, hstop⟩ :=
    hlocated.exists_place hk
  rw [hwidth] at hbefore
  have hsplit : e.constraints = Piece.values before ++ c :: Piece.values after := by
    rw [← hvalues, hpieces, Piece.values_append, Piece.values_value]
  rw [hsplit] at hok hv ⊢
  have hokBefore : ∀ d ∈ Piece.values before, b.fault? now d = none := by
    intro d hd
    exact hok d (List.mem_append_left _ hd)
  have hokc : b.fault? now c = none := hok c (by simp)
  -- what a reader sees of a text is as long as the text
  have hlength : (b.printOwn now before).length =
      (Piece.printAll (fun n c => b.profile.delimiter.blank .outside (b.text n c)) (b.width now) 1
        before).length := by
    refine Piece.length_printAll_congr before 1 ?_ ?_
    · intro d hd
      rw [alone_eq (hokBefore d hd), width]
    · intro d hd n
      rw [Delimiter.length_blank, ownText_eq (hokBefore d hd)]
  rw [← hbefore] at hv
  obtain ⟨hparams, hfilter⟩ := values_of_split hok hone hv
  rw [hbefore] at hfilter
  rw [Nat.add_comm 1 k] at hx hstop
  rw [Nat.zero_add, ← hlength] at hstart hstop
  rw [Delimiter.length_blank, ← ownText_eq hokc] at hstop
  refine ⟨before, c, after, position, hpieces, ?_, hfilter, ?_, hx, hstart, hstop⟩
  · rw [← length_values hokBefore, hbefore]
  · rw [alone_eq hokc, hparams]

end Builder

/-- The filter for lamps has two placeholders, also where names are bare. -/
theorem Builder.placeholders_in_order_lamps :
    ∃ p, (shop ⟨.bare, .dollar, .function⟩).build Instant.epoch Expression.lamps = .ok p ∧
      (Profile.placeholdersIn ⟨.bare, .dollar, .function⟩ p.sql).map Prod.snd =
        ["$1".toList, "$2".toList] := by
  have hnames : (shop ⟨.bare, .dollar, .function⟩).ClearNames PlaceholderStyle.isMark
      Expression.lamps := clearNames_lamps _ (by decide)
  exact ⟨_, rfl, (placeholders_in_order hnames rfl).1⟩

end SqlFilter
