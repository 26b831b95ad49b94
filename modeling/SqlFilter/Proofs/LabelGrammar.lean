import SqlFilter.Proofs.ColumnOptions
import SqlFilter.Proofs.ColumnReading
import SqlFilter.Proofs.Derivation

/-!
# The grammar of labels

Which labels are accepted, said by the pieces between their commas.  The first piece is the alias,
and every other one a column option: `db:` with a text behind it none of whose parts between dots is
empty.

* `Label.aliasPiece` and `Label.optionPieces` are the pieces without the blanks around them;
* `Label.IsOption` says that a piece is a column option.

The main statement is `Label.parse_grammar`.
-/

namespace SqlFilter

/-- A column reference has a dot between its identifiers. -/
theorem Profile.column_eq_joinWith (p : Profile) (qualifier : Option Text) (name : Text) :
    p.column qualifier name =
      Text.joinWith ['.'] ((segments qualifier ++ [name]).map p.identifier) := by
  rw [column_eq]
  induction segments qualifier with
  | nil => rfl
  | cons part parts ih =>
      rw [Delimiter.writeReference_cons, ih]
      cases parts <;> simp [Text.joinWith, identifier]

/-- The identifiers of a column reference: where they are delimited a reader finds them, and else
they stand between the dots. -/
def Profile.namesOf? (p : Profile) (reference : Text) : Option (List Text) :=
  match p.delimiter.pair? with
  | none => some (Text.splitOn '.' reference)
  | some _ => (p.delimiter.readReference? reference).map Prod.fst

/-- The identifiers of a column are found in its reference. -/
theorem Profile.namesOf?_column (p : Profile) {qualifier : Option Text} {column : Text}
    (h : ∀ name ∈ segments qualifier ++ [column], '.' ∉ name) :
    p.namesOf? (p.column qualifier column) = some (segments qualifier ++ [column]) := by
  unfold namesOf?
  cases hpair : p.delimiter.pair? with
  | none =>
      have hidentifier : ∀ name, p.identifier name = name := by
        intro name
        rw [identifier, Delimiter.quote, hpair]
      rw [column_eq_joinWith, funext hidentifier, List.map_id',
        Text.splitOn_joinWith (by simp) h]
  | some pair =>
      have hread : p.delimiter.readReference? (p.column qualifier column ++ []) =
          some (segments qualifier ++ [column], []) := by
        rw [column_eq]
        exact Delimiter.readReference?_writeReference hpair (by simp) (by simp) _ column
      rw [List.append_nil] at hread
      simp only [hread, Option.map_some]

namespace Label

/-- The first piece of a label. -/
def aliasPiece (value : Text) : Text := Text.trim ((Text.splitOn ',' value).headD [])

/-- The pieces of a label behind the first one. -/
def optionPieces (value : Text) : List Text := (Text.splitOn ',' value).tail.map Text.trim

/-- A column option: none of the parts between the dots is empty. -/
def IsOption (piece : Text) : Prop :=
  ∃ target, piece = "db:".toList ++ target ∧ [] ∉ Text.splitOn '.' target

theorem isOption_iff {piece : Text} :
    IsOption piece ↔
      ∃ target, target ∈ Text.strip? "db:".toList piece ∧ [] ∉ Text.splitOn '.' target := by
  simp only [Option.mem_def, Text.strip?_eq_some_iff, IsOption]

instance decidableIsOption (piece : Text) : Decidable (IsOption piece) :=
  decidable_of_iff' _ isOption_iff

variable {field value target : Text} {a : Label}

/-! ## One option -/

/-- The parts of an option are those of its qualifier and its column. -/
theorem splitOn_target (target : Text) :
    Text.splitOn '.' target =
      Profile.segments (qualifierOf? target) ++ [columnOf target] := by
  by_cases h : '.' ∈ target
  · obtain ⟨hcolumn, qualifier, hqualifier, htarget⟩ := parts_of_mem h
    have hsplit := Text.splitOn_append '.' qualifier (columnOf target)
    rw [htarget, Text.splitOn_of_not_mem hcolumn] at hsplit
    rw [hsplit, hqualifier]
    rfl
  · obtain ⟨hcolumn, hqualifier⟩ := parts_of_not_mem h
    rw [hcolumn, hqualifier, Text.splitOn_of_not_mem h]
    rfl

/-- An option is taken in exactly if none of its parts is empty. -/
theorem exists_withTarget_iff (a : Label) (target : Text) :
    (∃ b, a.withTarget target = .ok b) ↔ [] ∉ Text.splitOn '.' target := by
  rw [splitOn_target]
  unfold withTarget columnOf qualifierOf?
  cases Text.cutLast '.' target with
  | none =>
      dsimp only
      rw [exists_guarded_iff]
      simp [Profile.segments, eq_comm]
  | some cut =>
      dsimp only
      rw [exists_guarded_iff]
      simp [Profile.segments, eq_comm, and_comm]

/-- A piece is taken in exactly if it is an option without the blanks around it. -/
theorem exists_withPiece_iff (a : Label) (piece : Text) :
    (∃ b, a.withPiece piece = .ok b) ↔ IsOption (Text.trim piece) := by
  rw [isOption_iff]
  unfold withPiece
  cases Text.strip? "db:".toList (Text.trim piece) with
  | none => simp
  | some target => simp [exists_withTarget_iff]

/-! ## Whole labels -/

/-- The cases of a label by its first piece. -/
theorem read_eq (value : Text) :
    read value =
      if aliasPiece value = ['-'] then .ok none
      else if aliasPiece value = [] then .error .emptyAlias
      else ((Text.splitOn ',' value).tail.foldlM withPiece
        { aliasName := aliasPiece value }).map some := by
  obtain ⟨first, pieces, hsplit⟩ := List.exists_cons_of_ne_nil (Text.splitOn_ne_nil ',' value)
  simp only [read, aliasPiece, hsplit, List.headD_cons, List.tail_cons]

/-- A label keeps its field out exactly if its first piece says so. -/
theorem parse_eq_none_iff_aliasPiece : parse field value = .ok none ↔ aliasPiece value = ['-'] := by
  rw [parse_eq_none_iff, keepsOut, decide_eq_true_iff, aliasPiece]

/-- A label is accepted exactly if it has an alias and only options behind it. -/
theorem exists_parse_iff :
    (∃ a, parse field value = .ok (some a)) ↔
      aliasPiece value ≠ ['-'] ∧ aliasPiece value ≠ [] ∧
        ∀ piece ∈ optionPieces value, IsOption piece := by
  simp only [parse, mapError_eq_ok_iff, read_eq]
  by_cases hdash : aliasPiece value = ['-']
  · simp [hdash]
  · by_cases hempty : aliasPiece value = []
    · simp [hempty]
    · have hpieces := exists_foldlM_eq_ok_iff exists_withPiece_iff (Text.splitOn ',' value).tail
        { aliasName := aliasPiece value }
      simp only [if_neg hdash, if_neg hempty, optionPieces, List.forall_mem_map, ← hpieces]
      cases (Text.splitOn ',' value).tail.foldlM withPiece
        { aliasName := aliasPiece value } <;> simp [Except.map, hdash, hempty]

/-- What is wrong with a label is always said of the label and of its field. -/
theorem exists_message_of_parse {x : Error} (h : parse field value = .error x) :
    ∃ message, x = .invalidLabel field value message := by
  obtain ⟨fault, -, hx⟩ := mapError_eq_error_iff.1 h
  exact ⟨fault.message, hx⟩

/-- A label is malformed exactly if its field is not kept out and it has no alias or a piece behind
that is no option. -/
theorem exists_parse_error_iff :
    (∃ message, parse field value = .error (.invalidLabel field value message)) ↔
      aliasPiece value ≠ ['-'] ∧
        (aliasPiece value = [] ∨ ∃ piece ∈ optionPieces value, ¬ IsOption piece) := by
  constructor
  · rintro ⟨message, hparse⟩
    have hdash : aliasPiece value ≠ ['-'] := by
      rw [ne_eq, ← parse_eq_none_iff_aliasPiece, hparse]
      simp
    have hnot : ¬ ∃ a, parse field value = .ok (some a) := by simp [hparse]
    refine ⟨hdash, or_iff_not_imp_left.2 fun hempty => ?_⟩
    by_contra hall
    have hoptions : ∀ piece ∈ optionPieces value, IsOption piece := by simpa using hall
    exact hnot (exists_parse_iff.2 ⟨hdash, hempty, hoptions⟩)
  · rintro ⟨hdash, hfault⟩
    cases hparse : parse field value with
    | error x =>
        obtain ⟨message, rfl⟩ := exists_message_of_parse hparse
        exact ⟨message, rfl⟩
    | ok found =>
        exfalso
        cases found with
        | none => exact hdash (parse_eq_none_iff_aliasPiece.1 hparse)
        | some a =>
            obtain ⟨-, halias, hoptions⟩ := exists_parse_iff.1 ⟨a, hparse⟩
            rcases hfault with hempty | ⟨piece, hpiece, hoption⟩
            · exact halias hempty
            · exact hoption (hoptions piece hpiece)

/-! ## Column references of labels -/

/-- None of the column options of an accepted label has an empty part. -/
theorem not_mem_splitOn_of_mem_targets (h : ∀ piece ∈ optionPieces value, IsOption piece)
    (htarget : target ∈ targets value) : [] ∉ Text.splitOn '.' target := by
  obtain ⟨piece, hpiece, hread⟩ := List.mem_filterMap.1 htarget
  obtain ⟨target', hoption, hparts⟩ := h _ (List.mem_map_of_mem hpiece)
  rw [target?, Text.strip?_eq_some_iff.2 hoption] at hread
  cases hread
  exact hparts

/-- No identifier of the column reference of a label is empty. -/
theorem not_mem_segments (h : parse field value = .ok (some a)) {column : Text}
    (hcolumn : a.column = some column) : [] ∉ Profile.segments a.qualifier ++ [column] := by
  obtain ⟨-, -, hoptions⟩ := exists_parse_iff.1 ⟨a, h⟩
  have hparts : ∀ t ∈ targets value,
      [] ∉ Profile.segments (qualifierOf? t) ∧ columnOf t ≠ [] := by
    intro t ht
    have hnot := not_mem_splitOn_of_mem_targets hoptions ht
    rw [splitOn_target, List.mem_append, List.mem_singleton, not_or] at hnot
    exact ⟨hnot.1, Ne.symm hnot.2⟩
  rw [parse_eq_ofTargets h] at hcolumn ⊢
  rw [List.mem_append, List.mem_singleton, not_or]
  refine ⟨?_, ?_⟩
  · cases hqualifier : (targets value).reverse.findSome? qualifierOf? with
    | none => simp [ofTargets, hqualifier, Profile.segments]
    | some qualifier =>
        obtain ⟨t, ht, hsome⟩ := List.exists_of_findSome?_eq_some hqualifier
        have hsegments := (hparts t (List.mem_reverse.1 ht)).1
        rw [hsome] at hsegments
        simpa [ofTargets, hqualifier] using hsegments
  · obtain ⟨t, hlast, rfl⟩ := Option.map_eq_some_iff.1 hcolumn
    exact Ne.symm (hparts t (List.mem_of_getLast? hlast)).2

/-- No identifier of the column reference of a label has a dot. -/
theorem point_not_mem (h : parse field value = .ok (some a)) {column name : Text}
    (hcolumn : a.column = some column) (hname : name ∈ Profile.segments a.qualifier ++ [column]) :
    '.' ∉ name := by
  rcases List.mem_append.1 hname with hname | hname
  · cases hqualifier : a.qualifier with
    | none => simp [hqualifier, Profile.segments] at hname
    | some qualifier =>
        rw [hqualifier] at hname
        exact Text.not_mem_of_mem_splitOn '.' qualifier name hname
  · rw [List.mem_singleton] at hname
    rw [parse_eq_ofTargets h] at hcolumn
    obtain ⟨t, -, rfl⟩ := Option.map_eq_some_iff.1 hcolumn
    rw [hname]
    exact not_mem_columnOf t

/-- **The grammar of labels.**  A label keeps its field out exactly if its first piece is a hyphen.
Any other label is malformed exactly if its first piece is empty or a later one is no column option,
and otherwise it is accepted with the first piece as its alias.  No identifier of the column
reference that an accepted label names is empty or has a dot, so that every dialect writes just
these identifiers with dots between them, and they are found again in the reference. -/
theorem parse_grammar (field value : Text) :
    (parse field value = .ok none ↔ aliasPiece value = ['-']) ∧
      ((∃ message, parse field value = .error (.invalidLabel field value message)) ↔
        aliasPiece value ≠ ['-'] ∧
          (aliasPiece value = [] ∨ ∃ piece ∈ optionPieces value, ¬ IsOption piece)) ∧
      (∀ x, parse field value = .error x → ∃ message, x = .invalidLabel field value message) ∧
      ((∃ a, parse field value = .ok (some a)) ↔
        aliasPiece value ≠ ['-'] ∧ aliasPiece value ≠ [] ∧
          ∀ piece ∈ optionPieces value, IsOption piece) ∧
      ∀ a, parse field value = .ok (some a) →
        a.aliasName = aliasPiece value ∧
        ∀ column, a.column = some column →
          (∀ name ∈ Profile.segments a.qualifier ++ [column], name ≠ [] ∧ '.' ∉ name) ∧
          ∀ p : Profile,
            p.column a.qualifier column =
              Text.joinWith ['.'] ((Profile.segments a.qualifier ++ [column]).map p.identifier) ∧
            p.namesOf? (p.column a.qualifier column) =
              some (Profile.segments a.qualifier ++ [column]) := by
  refine ⟨parse_eq_none_iff_aliasPiece, exists_parse_error_iff, fun x => exists_message_of_parse,
    exists_parse_iff, ?_⟩
  intro a ha
  refine ⟨by rw [parse_eq_ofTargets ha]; rfl, ?_⟩
  intro column hcolumn
  have hpoint : ∀ name ∈ Profile.segments a.qualifier ++ [column], '.' ∉ name :=
    fun name => point_not_mem ha hcolumn
  refine ⟨?_, ?_⟩
  · intro name hname
    refine ⟨?_, hpoint name hname⟩
    rintro rfl
    exact not_mem_segments ha hcolumn hname
  · intro p
    exact ⟨p.column_eq_joinWith a.qualifier column, p.namesOf?_column hpoint⟩

/-- A label with a column in a table of a schema, one whose second option has an empty part, and one
that keeps its field out whatever stands behind the hyphen. -/
theorem parse_grammar_orders :
    (∀ p : Profile,
      p.namesOf? (p.column (some "sales.orders".toList) "created_at".toList) =
        some ["sales".toList, "orders".toList, "created_at".toList]) ∧
      (∃ message, parse "created".toList "cre,db:a,db:b..c".toList =
        .error (.invalidLabel "created".toList "cre,db:a,db:b..c".toList message)) ∧
      parse "created".toList " - ,db:".toList = .ok none := by
  have hparse : parse "created".toList " cre, db:sales.orders.created_at ".toList =
      .ok (some { aliasName := "cre".toList, column := some "created_at".toList
                  qualifier := some "sales.orders".toList }) := rfl
  refine ⟨?_, ?_, ?_⟩
  · intro p
    exact (((parse_grammar _ _).2.2.2.2 _ hparse).2 _ rfl).2 p |>.2
  · exact (parse_grammar _ _).2.1.2 ⟨by decide, .inr ⟨"db:b..c".toList, by decide, by decide⟩⟩
  · exact (parse_grammar _ _).1.2 (by decide)

end Label
end SqlFilter
