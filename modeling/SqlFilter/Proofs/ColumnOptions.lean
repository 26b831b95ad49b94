import Mathlib.Data.List.Basic
import SqlFilter.Catalog.Label
import SqlFilter.Proofs.Steps

/-!
# Column options of labels

A label may have several column options, and those that count need not be one.  The column is that
of the last option, but the qualifier is that of the last option that has one.

* `Label.targets` are the column options of a label in order, `Label.columnOf` and
  `Label.qualifierOf?` the parts of an option;
* `Label.ofTargets` is the label that an alias and column options come to
  (`Label.parse_eq_ofTargets`);
* `Label.FromLast` says that column and qualifier are both those of the last option.

The main statement is `Label.fromLast_iff`; `Label.qualifier_left_over` is a label whose column and
qualifier come from two options.
-/

namespace SqlFilter.Label

/-! ## Options -/

/-- The column option that a piece of a label is. -/
def target? (piece : Text) : Option Text := Text.strip? "db:".toList (Text.trim piece)

/-- The column options of a label, in order. -/
def targets (value : Text) : List Text := (Text.splitOn ',' value).tail.filterMap target?

/-- The column that an option names. -/
def columnOf (target : Text) : Text :=
  match Text.cutLast '.' target with
  | some (_, column) => column
  | none => target

/-- The qualifier that an option names, if it has a dot. -/
def qualifierOf? (target : Text) : Option Text := (Text.cutLast '.' target).map (·.1)

/-- The label that an alias and column options come to. -/
def ofTargets (aliasName : Text) (targets : List Text) : Label where
  aliasName
  column := targets.getLast?.map columnOf
  qualifier := targets.reverse.findSome? qualifierOf?

/-- The last of the given options is what a label has for a column reference: without options it has
neither column nor qualifier, and else the column has no dot and together they make up the
option. -/
def FromLast (a : Label) (targets : List Text) : Prop :=
  match targets.getLast? with
  | none => a.column = none ∧ a.qualifier = none
  | some target => ∃ column, a.column = some column ∧ '.' ∉ column ∧
      Text.joinWith ['.'] (a.qualifier.toList ++ [column]) = target

/-! ## Parts of an option -/

/-- An option without a dot names a column and no qualifier. -/
theorem parts_of_not_mem {target : Text} (h : '.' ∉ target) :
    columnOf target = target ∧ qualifierOf? target = none := by
  simp [columnOf, qualifierOf?, Text.cutLast_of_not_mem h]

/-- An option with a dot is a qualifier and a column, with the last dot between them. -/
theorem parts_of_mem {target : Text} (h : '.' ∈ target) :
    '.' ∉ columnOf target ∧
      ∃ qualifier, qualifierOf? target = some qualifier ∧
        qualifier ++ '.' :: columnOf target = target := by
  cases hcut : Text.cutLast '.' target with
  | none => exact absurd hcut (Text.cutLast_ne_none h)
  | some cut =>
      obtain ⟨htarget, hcolumn⟩ := Text.cutLast_eq_some hcut
      simp [columnOf, qualifierOf?, hcut, hcolumn, ← htarget]

theorem not_mem_columnOf (target : Text) : '.' ∉ columnOf target := by
  by_cases h : '.' ∈ target
  · exact (parts_of_mem h).1
  · rwa [(parts_of_not_mem h).1]

theorem qualifierOf?_eq_none_iff {target : Text} : qualifierOf? target = none ↔ '.' ∉ target := by
  constructor
  · intro hnone hmem
    obtain ⟨-, qualifier, hsome, -⟩ := parts_of_mem hmem
    rw [hnone] at hsome
    cases hsome
  · intro h
    exact (parts_of_not_mem h).2

/-! ## Reading labels -/

/-- An option replaces the column, and the qualifier if it has one itself. -/
theorem withTarget_eq {a b : Label} {target : Text} (h : a.withTarget target = .ok b) :
    b = { a with column := some (columnOf target)
                 qualifier := (qualifierOf? target).or a.qualifier } := by
  unfold withTarget at h
  unfold columnOf qualifierOf?
  split at h
  · rename_i qualifier column hcut
    split at h
    · cases h
    · cases h
      rw [hcut]
      rfl
  · rename_i hcut
    split at h
    · cases h
    · cases h
      rw [hcut]
      rfl

/-- A piece that is taken in is an option. -/
theorem exists_target_of_withPiece {a b : Label} {piece : Text} (h : a.withPiece piece = .ok b) :
    ∃ target, target? piece = some target ∧ a.withTarget target = .ok b := by
  unfold withPiece at h
  split at h
  · cases h
  · rename_i target htarget
    exact ⟨target, htarget, h⟩

/-- A piece adds the option that it is. -/
theorem withPiece_ofTargets {aliasName piece : Text} (targets : List Text) {b : Label}
    (h : (ofTargets aliasName targets).withPiece piece = .ok b) :
    b = ofTargets aliasName (targets ++ (target? piece).toList) := by
  obtain ⟨target, htarget, hb⟩ := exists_target_of_withPiece h
  rw [withTarget_eq hb, htarget, Option.toList_some]
  unfold ofTargets
  rw [List.getLast?_concat, findSome?_reverse_concat, Option.map_some]

/-- A label is its alias with its column options. -/
theorem parse_eq_ofTargets {field value : Text} {a : Label}
    (h : parse field value = .ok (some a)) :
    a = ofTargets (Text.trim ((Text.splitOn ',' value).headD [])) (targets value) := by
  rw [parse, mapError_eq_ok_iff, read] at h
  unfold targets
  cases hsplit : Text.splitOn ',' value with
  | nil => exact absurd hsplit (Text.splitOn_ne_nil ',' value)
  | cons first pieces =>
      rw [hsplit] at h
      dsimp only at h
      split at h
      · cases h
      split at h
      · cases h
      cases hfold : pieces.foldlM withPiece { aliasName := Text.trim first } with
      | error fault =>
          rw [hfold] at h
          cases h
      | ok b =>
          rw [hfold] at h
          cases h
          rw [List.headD_cons, List.tail_cons, List.filterMap_eq_flatMap_toList]
          exact foldlM_summary (fun ys x b => withPiece_ofTargets ys) pieces [] a hfold

/-! ## One option or two -/

/-- There is no qualifier exactly if no option has a dot. -/
theorem qualifier_ofTargets_eq_none_iff (aliasName : Text) (targets : List Text) :
    (ofTargets aliasName targets).qualifier = none ↔ ∀ t ∈ targets, '.' ∉ t := by
  simp [ofTargets, List.findSome?_eq_none_iff, qualifierOf?_eq_none_iff]

/-- Column and qualifier are those of the last option unless that has no dot and another one has. -/
theorem fromLast_ofTargets_iff (aliasName : Text) (targets : List Text) :
    (ofTargets aliasName targets).FromLast targets ↔
      ∀ target ∈ targets.getLast?, '.' ∉ target → ∀ t ∈ targets, '.' ∉ t := by
  rcases List.eq_nil_or_concat' targets with rfl | ⟨front, target, htargets⟩
  · simp [FromLast, ofTargets]
  rw [← qualifier_ofTargets_eq_none_iff aliasName]
  have hlast : targets.getLast? = some target := by rw [htargets, List.getLast?_concat]
  have hcolumn : (ofTargets aliasName targets).column = some (columnOf target) := by
    rw [ofTargets, hlast, Option.map_some]
  have hqualifier : (ofTargets aliasName targets).qualifier =
      (qualifierOf? target).or (front.reverse.findSome? qualifierOf?) := by
    rw [ofTargets, htargets, findSome?_reverse_concat]
  simp only [FromLast, hlast, hcolumn, Option.some.injEq, Option.mem_def, forall_eq']
  by_cases hdot : '.' ∈ target
  · -- whatever the options before it say, the last one has both parts
    obtain ⟨hcolumnDot, qualifier, hsome, hjoined⟩ := parts_of_mem hdot
    rw [hsome, Option.some_or] at hqualifier
    refine iff_of_true ⟨columnOf target, rfl, hcolumnDot, ?_⟩ fun hnot => absurd hdot hnot
    rw [hqualifier]
    simpa [Text.joinWith] using hjoined
  · -- the column is the whole option, so that any qualifier is left over from another one
    obtain ⟨hwhole, -⟩ := parts_of_not_mem hdot
    rw [hwhole]
    constructor
    · rintro ⟨column, rfl, -, hjoined⟩ -
      cases hfound : (ofTargets aliasName targets).qualifier with
      | none => rfl
      | some qualifier =>
          rw [hfound] at hjoined
          refine absurd ?_ hdot
          rw [← hjoined]
          simp [Text.joinWith]
    · intro hnone
      refine ⟨target, rfl, hdot, ?_⟩
      rw [hnone hdot]
      rfl

/-- **Column and qualifier may come from two options.**  The column of a label is that of its last
column option, and the qualifier that of the last one that has a qualifier.  So both are those of
the last option unless that has no dot and another one has. -/
theorem fromLast_iff {field value : Text} {a : Label} (h : parse field value = .ok (some a)) :
    a.column = (targets value).getLast?.map columnOf ∧
      a.qualifier = (targets value).reverse.findSome? qualifierOf? ∧
      (a.FromLast (targets value) ↔
        ∀ target ∈ (targets value).getLast?, '.' ∉ target → ∀ t ∈ targets value, '.' ∉ t) := by
  rw [parse_eq_ofTargets h]
  exact ⟨rfl, rfl, fromLast_ofTargets_iff _ _⟩

/-- Of these two options the last one counts, for the column and for the qualifier. -/
theorem fromLast_iff_orders :
    parse "created".toList "cre, db:id ,db:sales.orders.created_at".toList =
        .ok (some { aliasName := "cre".toList, column := some "created_at".toList
                    qualifier := some "sales.orders".toList }) ∧
      targets "cre, db:id ,db:sales.orders.created_at".toList =
        ["id".toList, "sales.orders.created_at".toList] ∧
      FromLast { aliasName := "cre".toList, column := some "created_at".toList
                 qualifier := some "sales.orders".toList }
        (targets "cre, db:id ,db:sales.orders.created_at".toList) := by
  have hparse : parse "created".toList "cre, db:id ,db:sales.orders.created_at".toList =
      .ok (some { aliasName := "cre".toList, column := some "created_at".toList
                  qualifier := some "sales.orders".toList }) := rfl
  exact ⟨hparse, by decide, (fromLast_iff hparse).2.2.2 (by decide)⟩

/-- Of these two options the last one gives the column, and the qualifier is left over from the
first. -/
theorem qualifier_left_over :
    parse "f".toList "a,db:t.c,db:d".toList =
        .ok (some { aliasName := ['a'], column := some ['d'], qualifier := some ['t'] }) ∧
      targets "a,db:t.c,db:d".toList = ["t.c".toList, "d".toList] ∧
      ¬ FromLast { aliasName := ['a'], column := some ['d'], qualifier := some ['t'] }
        (targets "a,db:t.c,db:d".toList) := by
  refine ⟨rfl, by decide, ?_⟩
  rintro ⟨column, hcolumn, -, hjoined⟩
  cases hcolumn
  exact absurd hjoined (by decide)

end SqlFilter.Label
