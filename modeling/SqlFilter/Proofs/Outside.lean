import SqlFilter.Proofs.Translation

/-!
# Text outside of names

A reader of a predicate passes over delimited names, from an opening delimiter to the first closing
delimiter that is not doubled.  `Delimiter.blank` is a text as such a reader sees it, with a space
in the place of each character that belongs to a name.

The reader goes through the text once and keeps its `Delimiter.Place`.  It passes over each name in
a column reference, and what else a predicate is made of has no delimiters and stays as it is.
-/

namespace SqlFilter

namespace Delimiter

/-- Where a reader stands. -/
inductive Place where
  /-- Outside of names. -/
  | outside
  /-- Inside a name. -/
  | inside
  /-- Behind a closing delimiter that may turn out to be doubled. -/
  | closed
  deriving Repr, DecidableEq

/-- Where the reader stands after one more character. -/
def next (d : Delimiter) (place : Place) (c : Char) : Place :=
  match d.pair? with
  | none => .outside
  | some (opening, closing) =>
    match place with
    | .outside => if c = opening then .inside else .outside
    | .inside => if c = closing then .closed else .inside
    | .closed => if c = closing || c = opening then .inside else .outside

/-- Where the reader stands after a text. -/
def after (d : Delimiter) (place : Place) (t : Text) : Place := t.foldl d.next place

/-- The text with a space for each character of a delimited name and of its delimiters. -/
def blank (d : Delimiter) : Place → Text → Text
  | _, [] => []
  | place, c :: rest =>
    (if d.next place c = .outside then c else ' ') :: blank d (d.next place c) rest

/-- Whether a character can begin or end a name. -/
def isDelimiter (c : Char) : Bool := c = '"' || c = '[' || c = ']' || c = '`'

variable (d : Delimiter)

theorem after_append (place : Place) (x y : Text) :
    d.after place (x ++ y) = d.after (d.after place x) y := List.foldl_append

theorem blank_append (place : Place) (x y : Text) :
    d.blank place (x ++ y) = d.blank place x ++ d.blank (d.after place x) y := by
  induction x generalizing place with
  | nil => rfl
  | cons c x ih => rw [List.cons_append, blank, ih, blank]; rfl

theorem blank_eq_nil_iff {place : Place} {x : Text} : d.blank place x = [] ↔ x = [] := by
  cases x <;> simp [blank]

theorem length_blank (place : Place) (x : Text) : (d.blank place x).length = x.length := by
  induction x generalizing place with
  | nil => rfl
  | cons c x ih => rw [blank, List.length_cons, ih, List.length_cons]

/-! ## Text without delimiters -/

theorem isDelimiter_of_pair? {opening closing : Char} (h : d.pair? = some (opening, closing)) :
    isDelimiter opening = true ∧ isDelimiter closing = true := by
  cases d <;> cases h <;> decide

theorem next_of_not_isDelimiter {c : Char} (hc : isDelimiter c = false) {place : Place}
    (hplace : place ≠ .inside) : d.next place c = .outside := by
  unfold next
  cases hpair : d.pair? with
  | none => rfl
  | some pair =>
      obtain ⟨opening, closing⟩ := pair
      obtain ⟨hopening, hclosing⟩ := d.isDelimiter_of_pair? hpair
      have ho : c ≠ opening := by
        rintro rfl
        rw [hopening] at hc
        exact absurd hc (by decide)
      have hcl : c ≠ closing := by
        rintro rfl
        rw [hclosing] at hc
        exact absurd hc (by decide)
      cases place with
      | outside => simp [ho]
      | inside => exact absurd rfl hplace
      | closed => simp [ho, hcl]

/-- Outside of names, a text without delimiters is seen as it is, and the reader stays outside. -/
theorem blank_of_not_isDelimiter {x : Text} (hx : ∀ c ∈ x, isDelimiter c = false) {place : Place}
    (hplace : place ≠ .inside) :
    d.blank place x = x ∧ (x ≠ [] → d.after place x = .outside) := by
  induction x generalizing place with
  | nil => exact ⟨rfl, fun h => absurd rfl h⟩
  | cons c x ih =>
      have hnext := d.next_of_not_isDelimiter (hx c (List.mem_cons_self ..)) hplace
      have houtside : Place.outside ≠ .inside := by decide
      obtain ⟨hblank, hafter⟩ := ih (fun c hc => hx c (List.mem_cons_of_mem _ hc)) houtside
      refine ⟨by rw [blank, hnext, if_pos rfl, hblank], ?_⟩
      intro _
      show d.after (d.next place c) x = .outside
      rw [hnext]
      cases x with
      | nil => rfl
      | cons c' x => exact hafter (by simp)

/-! ## Names -/

theorem blank_double {opening closing : Char} (hpair : d.pair? = some (opening, closing))
    (name : Text) :
    d.after .inside (double closing name) = .inside ∧
      ∀ c ∈ d.blank .inside (double closing name), c = ' ' := by
  have hclose : d.next .inside closing = .closed := by simp [next, hpair]
  have hagain : d.next .closed closing = .inside := by simp [next, hpair]
  induction name with
  | nil => exact ⟨rfl, by simp [double, blank]⟩
  | cons c name ih =>
      by_cases hc : c = closing
      · subst hc
        refine ⟨?_, ?_⟩
        · simp only [double, if_true, after, List.foldl_cons, hclose, hagain]
          exact ih.1
        · simp only [double, if_true, blank, hclose, hagain]
          simpa using ih.2
      · have hnext : d.next .inside c = .inside := by simp [next, hpair, hc]
        refine ⟨?_, ?_⟩
        · simp only [double, if_neg hc, after, List.foldl_cons, hnext]
          exact ih.1
        · simp only [double, if_neg hc, blank, hnext]
          simpa using ih.2

theorem blank_bare (t : Text) : bare.blank .outside t = t ∧ bare.after .outside t = .outside := by
  induction t with
  | nil => exact ⟨rfl, rfl⟩
  | cons c t ih =>
      refine ⟨?_, ih.2⟩
      rw [blank, show bare.next .outside c = .outside from rfl, if_pos rfl, ih.1]

/-- A delimited name is seen as spaces, and a bare one as it is. -/
theorem blank_quote (name : Text) :
    d.after .outside (d.quote name) ≠ .inside ∧
      ∀ c ∈ d.blank .outside (d.quote name), c = ' ' ∨ d = bare ∧ c ∈ name := by
  cases hpair : d.pair? with
  | none =>
      have hd : d = bare := by cases d <;> first | rfl | cases hpair
      subst hd
      obtain ⟨hblank, hafter⟩ := blank_bare name
      show bare.after .outside name ≠ .inside ∧
        ∀ c ∈ bare.blank .outside name, c = ' ' ∨ bare = bare ∧ c ∈ name
      refine ⟨?_, ?_⟩
      · rw [hafter]
        decide
      · intro c hc
        rw [hblank] at hc
        exact .inr ⟨rfl, hc⟩
  | some pair =>
      obtain ⟨opening, closing⟩ := pair
      have hopen : d.next .outside opening = .inside := by simp [next, hpair]
      have hclose : d.next .inside closing = .closed := by simp [next, hpair]
      obtain ⟨hafter, hblank⟩ := d.blank_double hpair name
      have hquote : d.quote name = opening :: (double closing name ++ [closing]) := by
        simp only [quote, hpair, List.cons_append]
      rw [hquote]
      refine ⟨?_, ?_⟩
      · show d.after (d.next .outside opening) _ ≠ .inside
        rw [hopen, after_append, hafter]
        show d.next .inside closing ≠ .inside
        rw [hclose]
        decide
      · intro c hc
        simp only [blank, hopen, blank_append, hafter, hclose, List.mem_cons, List.mem_append,
          List.not_mem_nil, or_false] at hc
        rcases hc with hc | hc | hc
        · exact .inl (by simpa using hc)
        · exact .inl (hblank c hc)
        · exact .inl (by simpa using hc)

end Delimiter

/-! ## Column references -/

/-- Of a column reference, the reader sees spaces and points, and the names if they are bare. -/
theorem Condition.blank_reference (p : Profile) (column : Text) (t : Test) :
    ∀ qualifier : List Text,
      p.delimiter.after .outside ((Condition.mk qualifier column t).reference p) ≠ .inside ∧
        ∀ c ∈ p.delimiter.blank .outside ((Condition.mk qualifier column t).reference p),
          c = ' ' ∨ c = '.' ∨
            p.delimiter = .bare ∧ ∃ name ∈ qualifier ++ [column], c ∈ name := by
  intro qualifier
  induction qualifier with
  | nil =>
      rw [reference_nil]
      obtain ⟨hafter, hblank⟩ := p.delimiter.blank_quote column
      refine ⟨hafter, ?_⟩
      intro c hc
      rcases hblank c hc with hc | ⟨hbare, hc⟩
      · exact .inl hc
      · exact .inr (.inr ⟨hbare, column, by simp, hc⟩)
  | cons part qualifier ih =>
      rw [reference_cons]
      obtain ⟨hpart, hblank⟩ := p.delimiter.blank_quote part
      obtain ⟨hafter, hrest⟩ := ih
      -- a name ends outside of names or behind its delimiter, and the point settles which
      have hpoint : p.delimiter.next _ '.' = .outside :=
        p.delimiter.next_of_not_isDelimiter (by decide) hpart
      refine ⟨?_, ?_⟩
      · rw [Delimiter.after_append]
        show p.delimiter.after (p.delimiter.next _ '.') _ ≠ .inside
        rw [hpoint]
        exact hafter
      · intro c hc
        rw [Delimiter.blank_append, Delimiter.blank, hpoint, if_pos rfl] at hc
        rcases List.mem_append.1 hc with hc | hc
        · rcases hblank c hc with hc | ⟨hbare, hc⟩
          · exact .inl hc
          · exact .inr (.inr ⟨hbare, part, by simp, hc⟩)
        · rcases List.mem_cons.1 hc with hc | hc
          · exact .inr (.inl hc)
          · rcases hrest c hc with hc | hc | ⟨hbare, name, hname, hc⟩
            · exact .inl hc
            · exact .inr (.inl hc)
            · exact .inr (.inr ⟨hbare, name, List.mem_cons_of_mem _ hname, hc⟩)

/-! ## Tests -/

namespace Delimiter

theorem isDelimiter_of_isMark_or_isDigit (c : Char)
    (h : PlaceholderStyle.isMark c = true ∨ c.isDigit = true) : isDelimiter c = false := by
  cases hc : isDelimiter c with
  | false => rfl
  | true =>
      simp only [isDelimiter, Bool.or_eq_true, decide_eq_true_eq] at hc
      rcases hc with ((rfl | rfl) | rfl) | rfl <;> exact absurd h (by decide)

theorem isDelimiter_fixed : Text.fixed.any isDelimiter = false := by decide

/-- A test has no delimiters. -/
theorem isDelimiter_test (p : Profile) (number : Nat) (t : Test) :
    ∀ c ∈ t.print p number, isDelimiter c = false := by
  cases t with
  | present => exact Text.IsFixed.presence.avoids isDelimiter_fixed
  | compared o l t =>
      rw [Test.print_compared]
      have hbefore := (Text.IsFixed.operator o).append (Text.IsFixed.opening p.concatenation l t)
      have hafter := Text.IsFixed.closing p.concatenation l t
      intro c hc
      rcases List.mem_append.1 hc with hc | hc
      · rcases List.mem_append.1 hc with hc | hc
        · exact hbefore.avoids isDelimiter_fixed c hc
        · exact p.placeholders.avoids_placeholder isDelimiter_of_isMark_or_isDigit number c hc
      · exact hafter.avoids isDelimiter_fixed c hc

end Delimiter

/-! ## Whole texts -/

/-- From outside of names, a reader sees `y` in the place of `x` and is outside again behind it. -/
structure Delimiter.Sees (d : Delimiter) (x y : Text) : Prop where
  /-- What is seen. -/
  blank : d.blank .outside x = y
  /-- Where the reader comes out. -/
  after : d.after .outside x = .outside

namespace Delimiter.Sees

variable {d : Delimiter}

theorem append {x y x' y' : Text} (h : d.Sees x y) (h' : d.Sees x' y') :
    d.Sees (x ++ x') (y ++ y') where
  blank := by rw [blank_append, h.blank, h.after, h'.blank]
  after := by rw [after_append, h.after, h'.after]

/-- A text without delimiters is seen as it is. -/
theorem of_not_isDelimiter {x : Text} (hx : ∀ c ∈ x, isDelimiter c = false) : d.Sees x x := by
  have houtside : Place.outside ≠ .inside := by decide
  obtain ⟨hblank, hafter⟩ := d.blank_of_not_isDelimiter hx houtside
  cases x with
  | nil => exact ⟨rfl, rfl⟩
  | cons c x => exact ⟨hblank, hafter (by simp)⟩

theorem of_isFixed {x : Text} (hx : x.IsFixed) : d.Sees x x :=
  of_not_isDelimiter (hx.avoids isDelimiter_fixed)

end Delimiter.Sees

/-- Of a condition, the reader sees its test as it is. -/
theorem Condition.sees_print (p : Profile) (number : Nat) (k : Condition) :
    p.delimiter.Sees (k.print p number)
      (p.delimiter.blank .outside (k.reference p) ++ k.test.print p number) := by
  obtain ⟨qualifier, column, t⟩ := k
  obtain ⟨hafter, -⟩ := blank_reference p column t qualifier
  obtain ⟨hblank, houtside⟩ :=
    p.delimiter.blank_of_not_isDelimiter (Delimiter.isDelimiter_test p number t) hafter
  obtain ⟨x, hx⟩ := t.print_eq_cons p number
  constructor
  · rw [print, Delimiter.blank_append, hblank]
  · rw [print, Delimiter.after_append]
    exact houtside (by rw [hx]; simp)

/-! ## Clear names -/

namespace Builder

/-- If names are bare, no column, qualifier or table that a filter names has characters of the
given class. -/
def ClearNames (b : Builder) (inClass : Char → Bool) (e : Expression) : Prop :=
  b.profile.delimiter = .bare → ∀ c ∈ e.constraints, ∀ f,
    b.catalog.resolve? c.selector = some f →
      ∀ name ∈ f.column :: (f.qualifier.or b.table).toList, ∀ x ∈ name, inClass x = false

/-- What is seen of a constraint: of its column reference only characters outside of a class that
names are clear of, and its test. -/
theorem sees_text {b : Builder} {inClass : Char → Bool} {e : Expression} {c : Constraint}
    {k : Condition} (hnames : b.ClearNames inClass e) (hspace : inClass ' ' = false)
    (hpoint : inClass '.' = false) (hc : c ∈ e.constraints) (hk : b.condition? c = some k) :
    ∃ seen : Text, (∀ x ∈ seen, inClass x = false) ∧
      ∀ n, b.profile.delimiter.Sees (b.text n c) (seen ++ k.test.print b.profile n) := by
  refine ⟨b.profile.delimiter.blank .outside (k.reference b.profile), ?_, ?_⟩
  · intro x hx
    obtain ⟨f, hf, rfl⟩ := Option.map_eq_some_iff.1 hk
    rcases (Condition.blank_reference b.profile f.column (c.test f.type) _).2 x hx with
      rfl | rfl | ⟨hbare, name, hname, hx⟩
    · exact hspace
    · exact hpoint
    · have hclear := hnames hbare c hc f hf
      rcases List.mem_append.1 hname with hname | hname
      · unfold qualifier at hname
        cases hq : f.qualifier.or b.table with
        | none =>
            rw [hq] at hname
            exact absurd hname (List.not_mem_nil)
        | some q =>
            rw [hq] at hname hclear
            exact hclear q (by simp) x (Text.mem_of_mem_splitOn q name hname hx)
      · rw [List.mem_singleton.1 hname] at hx
        exact hclear f.column (List.mem_cons_self ..) x hx
  · intro n
    rw [text, hk]
    exact Condition.sees_print b.profile n k

/-- What is seen of a constraint ends outside of names. -/
theorem sees_blank (b : Builder) (n : Nat) (c : Constraint) :
    b.profile.delimiter.Sees (b.text n c) (b.profile.delimiter.blank .outside (b.text n c)) := by
  unfold text
  cases b.condition? c with
  | none => exact ⟨rfl, rfl⟩
  | some k => exact ⟨rfl, (Condition.sees_print b.profile n k).after⟩

/-- The names in the filter for lamps have no characters of a class that those of the shop do not
have. -/
theorem clearNames_lamps (p : Profile) {inClass : Char → Bool}
    (h : ∀ name ∈ ["ti\"t]le".toList, "shop.items".toList, "price".toList, "stock".toList],
      name.any inClass = false) : (shop p).ClearNames inClass Expression.lamps := by
  have hclear : ∀ name ∈ ["ti\"t]le".toList, "shop.items".toList, "price".toList,
      "stock".toList], ∀ x ∈ name, inClass x = false := by
    intro name hname x hx
    simpa using List.any_eq_false.1 (h name hname) x hx
  intro _ c hc f hf
  rw [Expression.constraints_lamps] at hc
  simp only [List.mem_cons, List.not_mem_nil, or_false] at hc
  rcases hc with rfl | rfl | rfl <;> cases hf <;>
    exact List.forall_mem_cons.2 ⟨hclear _ (by decide),
      List.forall_mem_cons.2 ⟨hclear _ (by decide), by simp⟩⟩

end Builder

namespace Tree

variable {α : Type} {d : Delimiter} {text text' : Nat → α → Text} {width : α → Nat}

mutual

/-- The text of a tree is seen value by value. -/
theorem sees_write :
    ∀ (t : Tree α) (n : Nat), (∀ a ∈ t.leaves, ∀ n, d.Sees (text n a) (text' n a)) →
      d.Sees (t.write text width n) (t.write text' width n)
  | leaf a, n, h => h a (mem_leaf a) n
  | group first rest, n, h => by
      obtain ⟨hfirst, hrest⟩ := of_forall_group h
      have hopen : d.Sees ['('] ['('] := .of_isFixed .enter
      have hclose : d.Sees [')'] [')'] := .of_isFixed .leave
      have hinside := hopen.append (sees_write first n hfirst)
      have hall := hinside.append (sees_restWrite rest (n + slots width first) hrest)
      exact hall.append hclose

theorem sees_restWrite :
    ∀ (rest : List (Joiner × Tree α)) (n : Nat),
      (∀ a ∈ restLeaves rest, ∀ n, d.Sees (text n a) (text' n a)) →
      d.Sees (restWrite text width n rest) (restWrite text' width n rest)
  | [], _, _ => ⟨rfl, rfl⟩
  | (joiner, operand) :: rest, n, h => by
      obtain ⟨hoperand, hrest⟩ := of_forall_rest h
      have hjoin :=
        (Delimiter.Sees.of_isFixed (.keyword joiner)).append (sees_write operand n hoperand)
      exact hjoin.append (sees_restWrite rest _ hrest)

end

end Tree

end SqlFilter
