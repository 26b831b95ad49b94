import Mathlib.Data.List.ReduceOption
import SqlFilter.Proofs.Registration
import SqlFilter.Proofs.Steps
import SqlFilter.Record.Basic

/-!
# Records as registration tables

A record whose catalog can be made stands for a registration table: one row a field, with the name,
the type, whether it may be empty, and the label unless the field is skipped.  The record and the
table lead to the same catalog.

* `FieldOptions.summary` says what options come to, however they are spread over attributes;
* `RecordField.DeclaredAs` relates a field to a row of the table;
* `Label.keepsOut` says that a label keeps a field out of catalogs.

The main statement is `Record.catalog_eq_ofDeclarations`.
-/

namespace SqlFilter

/-! ## What attributes say -/

namespace FieldOption

/-- The label that an option gives. -/
def label? : FieldOption → Option Text
  | label value => some value
  | _ => none

/-- The name of the field type that an option gives. -/
def kind? : FieldOption → Option Text
  | kind name => some name
  | _ => none

end FieldOption

/-- The options that an attribute gives, none if it has another name or is malformed. -/
def Attribute.said (a : Attribute) : List FieldOption :=
  if a.name = FieldOptions.attributeName then a.options.toOption.getD [] else []

namespace FieldOptions

/-- What options come to together: the first label, whether one of them is `skip`, and the last
kind. -/
def summary (options : List FieldOption) : FieldOptions where
  label := options.findSome? FieldOption.label?
  skip := options.contains .skip
  kind := options.reverse.findSome? FieldOption.kind?

theorem summary_take (options : List FieldOption) (x : FieldOption) (o : FieldOptions)
    (h : (summary options).take x = .ok o) : o = summary (options ++ [x]) := by
  cases x with
  | label value =>
      rw [take] at h
      split at h
      · cases h
      · rename_i hlabel
        cases h
        have hnone : options.findSome? FieldOption.label? = none := by simpa [summary] using hlabel
        simp [summary, List.findSome?_append, List.findSome?_cons, hnone, FieldOption.label?,
          FieldOption.kind?]
  | skip =>
      cases h
      simp [summary, List.findSome?_append, List.findSome?_cons, FieldOption.label?,
        FieldOption.kind?]
  | kind name =>
      cases h
      simp [summary, List.findSome?_append, List.findSome?_cons, FieldOption.label?,
        FieldOption.kind?]

theorem summary_takeAttribute (options : List FieldOption) (a : Attribute) (o : FieldOptions)
    (h : (summary options).takeAttribute a = .ok o) : o = summary (options ++ a.said) := by
  unfold takeAttribute at h
  unfold Attribute.said
  split at h
  · rename_i hname
    obtain ⟨items, hitems, hfold⟩ := bind_eq_ok_iff.1 h
    rw [if_pos hname, hitems, foldlM_summary summary_take items options o hfold,
      List.flatMap_singleton']
    rfl
  · rename_i hname
    cases h
    rw [if_neg hname, List.append_nil]

/-- However options are spread over attributes, they come to the same. -/
theorem eq_summary_of_ofAttributes {attributes : List Attribute} {o : FieldOptions}
    (h : ofAttributes attributes = .ok o) : o = summary (attributes.flatMap Attribute.said) :=
  foldlM_summary summary_takeAttribute attributes [] o h

end FieldOptions

/-! ## Fields and rows -/

/-- Whether a label, or that there is none, keeps a field out of catalogs. -/
def Label.keepsOut : Option Text → Bool
  | none => true
  | some value => Text.trim ((Text.splitOn ',' value).headD []) = ['-']

namespace RecordField

/-- All that the attributes of a field say. -/
def options (f : RecordField) : FieldOptions :=
  FieldOptions.summary (f.attributes.flatMap Attribute.said)

/-- The label of a field that is not skipped. -/
def label? (f : RecordField) : Option Text := if f.options.skip then none else f.options.label

/-- The field type that the attributes of a field name, and else that its type shows. -/
def type? (f : RecordField) : Option FieldType :=
  match f.options.kind with
  | some name => FieldType.ofName? name
  | none => f.type.infer.type

/-- Why a field has no field type: its kind is none, or it has no kind and its type shows none. -/
def missingType (f : RecordField) : RecordFault :=
  match f.options.kind with
  | some name => .invalid (.unknownToken .fieldType name)
  | none => .unknownType f.columnName

/-- A row of a registration table stands for a field of a record.  If the label keeps the field out,
then the row may have any type. -/
structure DeclaredAs (f : RecordField) (d : Declaration) : Prop where
  /-- The row has the name of the field. -/
  name : d.name = f.columnName
  /-- The row may be empty if the field may. -/
  nullable : d.nullable = f.type.infer.nullable
  /-- The row has the label of the field. -/
  label : d.label = f.label?
  /-- The row has the type of the field, if it matters. -/
  type : Label.keepsOut d.label = false → f.type? = some d.type

end RecordField

/-! ## Labels that keep a field out -/

theorem Label.read_eq_none_iff {value : Text} :
    read value = .ok none ↔ keepsOut (some value) = true := by
  obtain ⟨first, pieces, hsplit⟩ := List.exists_cons_of_ne_nil (Text.splitOn_ne_nil ',' value)
  simp only [read, keepsOut, hsplit, List.headD_cons, decide_eq_true_eq]
  by_cases hdash : Text.trim first = ['-']
  · simp [hdash]
  · by_cases hempty : Text.trim first = []
    · simp [hempty]
    · simp only [if_neg hempty, hdash, iff_false]
      intro h
      cases hread : pieces.foldlM withPiece { aliasName := Text.trim first } with
      | error fault => simp [hread, Except.map] at h
      | ok label => simp [hread, Except.map] at h

theorem Label.parse_eq_none_iff {field value : Text} :
    parse field value = .ok none ↔ keepsOut (some value) = true := by
  rw [parse, mapError_eq_ok_iff, read_eq_none_iff]

/-- A label that describes a field does not keep it out. -/
theorem Label.keepsOut_of_parse {field value : Text} {label : Label}
    (h : parse field value = .ok (some label)) : keepsOut (some value) = false := by
  rw [Bool.eq_false_iff, ne_eq, ← parse_eq_none_iff, h]
  simp

/-- A row registers no field exactly if its label keeps it out. -/
theorem Declaration.field?_eq_none_iff {d : Declaration} :
    d.field? = .ok none ↔ Label.keepsOut d.label = true := by
  unfold field?
  cases hlabel : d.label with
  | none => simp [Label.keepsOut]
  | some value =>
      rw [← Label.read_eq_none_iff]
      cases hread : Label.read value with
      | error fault => simp [Label.parse, hread, Except.mapError, Except.map]
      | ok label => cases label <;> simp [Label.parse, hread, Except.mapError, Except.map]

/-! ## What a field registers -/

namespace RecordField

variable {f : RecordField} {d : Declaration} {found : Option Field}

/-- A field that is accepted stands for what its options come to. -/
theorem register?_of_field? (h : f.field? = .ok found) : f.register? f.options = .ok found := by
  obtain ⟨o, ho, hregister⟩ := bind_eq_ok_iff.1 h
  rw [mapError_eq_ok_iff] at ho
  rwa [FieldOptions.eq_summary_of_ofAttributes ho] at hregister

/-- The field type of a field is there, or it is said why it is missing. -/
theorem fieldType_eq (f : RecordField) :
    f.fieldType f.options.kind = f.type?.elim (.error f.missingType) .ok := by
  unfold fieldType type? missingType
  cases f.options.kind with
  | none => cases f.type.infer.type <;> rfl
  | some name =>
      dsimp only [FieldType.named]
      cases FieldType.ofName? name <;> rfl

theorem fieldType_eq_ok {type : FieldType} (h : f.fieldType f.options.kind = .ok type) :
    f.type? = some type := by
  rw [fieldType_eq] at h
  cases htype : f.type? with
  | none => simp [htype] at h
  | some t => simpa [htype] using h

/-- The two ways in which a field is accepted: it has no label, or its label is read, and if that
describes a field then the type is known. -/
theorem field?_cases (h : f.field? = .ok found) :
    (f.label? = none ∧ found = none) ∨
      ∃ value, f.label? = some value ∧
        ((Label.parse f.columnName value = .ok none ∧ found = none) ∨
          ∃ label type, Label.parse f.columnName value = .ok (some label) ∧
            f.type? = some type ∧
              found = some (label.toField f.columnName type f.type.infer.nullable)) := by
  have hregister := register?_of_field? h
  unfold register? at hregister
  unfold label?
  cases hskip : f.options.skip with
  | true =>
      simp only [hskip, if_true] at hregister
      cases hregister
      simp
  | false =>
      simp only [hskip, Bool.false_eq_true, if_false] at hregister ⊢
      cases hlabel : f.options.label with
      | none =>
          simp only [hlabel] at hregister
          cases hkind : f.options.kind with
          | none =>
              simp only [hkind, Option.isSome_none, Bool.false_eq_true, if_false,
                pure_eq_ok_iff] at hregister
              exact .inl ⟨rfl, hregister.symm⟩
          | some name =>
              simp only [hkind, Option.isSome_some, if_true] at hregister
              cases hregister
      | some value =>
          simp only [hlabel] at hregister
          obtain ⟨read, hread, hregister⟩ := bind_eq_ok_iff.1 hregister
          rw [mapError_eq_ok_iff] at hread
          refine .inr ⟨value, rfl, ?_⟩
          cases read with
          | none => exact .inl ⟨hread, (pure_eq_ok_iff.1 hregister).symm⟩
          | some label =>
              obtain ⟨type, htype, hregister⟩ := bind_eq_ok_iff.1 hregister
              exact .inr ⟨label, type, hread, fieldType_eq_ok htype,
                (pure_eq_ok_iff.1 hregister).symm⟩

/-- Every field that is accepted stands for a row. -/
theorem exists_declaredAs (h : f.field? = .ok found) : ∃ d, f.DeclaredAs d := by
  refine ⟨⟨f.columnName, f.type?.getD .text, f.type.infer.nullable, f.label?⟩, rfl, rfl, rfl, ?_⟩
  intro hlabel
  rcases field?_cases h with ⟨hnone, -⟩ | ⟨value, hvalue, ⟨hread, -⟩ | ⟨-, type, -, htype, -⟩⟩
  · rw [hnone] at hlabel
    cases hlabel
  · rw [hvalue, Label.parse_eq_none_iff.1 hread] at hlabel
    cases hlabel
  · rw [htype, Option.getD_some]

/-- A row registers what the field for which it stands registers. -/
theorem DeclaredAs.field? (hd : f.DeclaredAs d) (h : f.field? = .ok found) :
    d.field? = .ok found := by
  unfold Declaration.field?
  rcases field?_cases h with ⟨hnone, rfl⟩ | ⟨value, hvalue, hread⟩
  · rw [hd.label, hnone]
  · rw [hd.label, hvalue]
    simp only [hd.name]
    rcases hread with ⟨hread, rfl⟩ | ⟨label, type, hread, htype, rfl⟩
    · rw [hread]
      rfl
    · have hkept : Label.keepsOut d.label = false := by
        rw [hd.label, hvalue, Label.keepsOut_of_parse hread]
      have hdtype : type = d.type := Option.some.inj (htype.symm.trans (hd.type hkept))
      rw [hread, hdtype, hd.nullable]
      rfl

end RecordField

/-! ## Records -/

/-- A record registers what its fields register, in their order and under different keys. -/
theorem Record.exists_of_foldlM_addField :
    ∀ (fields : List RecordField) {before after : List Field},
      fields.foldlM addField before = .ok after → (before.map Field.key).Nodup →
        ∃ found, List.Forall₂ (fun f x => f.field? = .ok x) fields found ∧
          after = before ++ found.reduceOption ∧ (after.map Field.key).Nodup := by
  intro fields
  induction fields with
  | nil =>
      intro before after h hnodup
      rw [List.foldlM_nil, pure_eq_ok_iff] at h
      subst h
      exact ⟨[], .nil, by simp [List.reduceOption_nil], hnodup⟩
  | cons f fields ih =>
      intro before after h hnodup
      rw [List.foldlM_cons, bind_eq_ok_iff] at h
      obtain ⟨between, hadd, hrest⟩ := h
      obtain ⟨x, hx, hadd⟩ := bind_eq_ok_iff.1 hadd
      cases x with
      | none =>
          rw [pure_eq_ok_iff] at hadd
          subst hadd
          obtain ⟨found, hfound, hafter, hkeys⟩ := ih hrest hnodup
          exact ⟨none :: found, .cons hx hfound, hafter, hkeys⟩
      | some field =>
          by_cases htaken : field.key ∈ before.map Field.key
          · simp only [if_pos htaken] at hadd
            cases hadd
          · simp only [if_neg htaken, pure_eq_ok_iff] at hadd
            subst hadd
            have hnew : ((before ++ [field]).map Field.key).Nodup := by
              rw [List.map_append, List.map_singleton, ← List.concat_eq_append]
              exact hnodup.concat htaken
            obtain ⟨found, hfound, hafter, hkeys⟩ := ih hrest hnew
            refine ⟨some field :: found, .cons hx hfound, ?_, hkeys⟩
            rw [hafter, List.append_assoc]
            rfl

/-- The rows of a table are read and then registered, without those that register no field. -/
theorem Catalog.ofDeclarations_eq_map (rows : List Declaration) :
    ofDeclarations rows =
      (rows.mapM Declaration.field?).map fun found => ofList found.reduceOption := by
  unfold ofDeclarations ofList
  generalize empty = c
  induction rows generalizing c with
  | nil => rfl
  | cons d rows ih =>
      rw [List.foldlM_cons, List.mapM_cons]
      cases d.field? with
      | error x => rfl
      | ok found =>
          cases found with
          | none =>
              refine (ih c).trans ?_
              cases rows.mapM Declaration.field? <;> rfl
          | some f =>
              refine (ih (c.insert f)).trans ?_
              cases rows.mapM Declaration.field? <;> rfl

/-- A table registers what its rows register, in their order. -/
theorem Catalog.ofDeclarations_eq {rows : List Declaration} {found : List (Option Field)}
    (h : List.Forall₂ (fun d x => d.field? = .ok x) rows found) :
    ofDeclarations rows = .ok (ofList found.reduceOption) := by
  rw [ofDeclarations_eq_map, mapM_eq_ok_iff.2 h]
  rfl

/-- The rows whose labels do not keep them out are those that register a field. -/
theorem Declaration.forall₂_filter {rows : List Declaration} {found : List (Option Field)}
    (h : List.Forall₂ (fun d x => d.field? = .ok x) rows found) :
    List.Forall₂ (fun d f => d.field? = .ok (some f))
      (rows.filter fun d => !Label.keepsOut d.label) found.reduceOption := by
  induction h with
  | nil => exact .nil
  | cons hx _ ih =>
      rename_i d x _ _ _
      cases x with
      | none =>
          have hout : Label.keepsOut d.label = true := field?_eq_none_iff.1 hx
          simpa [hout, List.reduceOption_cons_of_none] using ih
      | some field =>
          have hkept : Label.keepsOut d.label = false := by
            rw [Bool.eq_false_iff, ne_eq, ← field?_eq_none_iff, hx]
            simp
          simpa [hkept, List.reduceOption_cons_of_some] using ⟨hx, ih⟩

/-- What a record registers when its catalog can be made. -/
theorem Record.catalog_eq_ok {r : Record} {c : Catalog} (h : r.catalog = .ok c) :
    ∃ found, List.Forall₂ (fun f x => f.field? = .ok x) r.fields found ∧
      (found.reduceOption.map Field.key).Nodup ∧ c = Catalog.ofList found.reduceOption := by
  have hregistered : ∃ fields, r.fields.foldlM addField [] = .ok fields ∧
      Catalog.ofList fields = c := by
    unfold catalog registered at h
    cases hshape : r.shape with
    | named =>
        cases hfold : r.fields.foldlM addField [] with
        | error fault => simp [hshape, hfold, Except.map] at h
        | ok fields => exact ⟨fields, rfl, by simpa [hshape, hfold, Except.map] using h⟩
    | _ => simp [hshape, Except.map] at h
  obtain ⟨fields, hfold, rfl⟩ := hregistered
  obtain ⟨found, hfound, rfl, hkeys⟩ := exists_of_foldlM_addField r.fields hfold List.nodup_nil
  exact ⟨found, hfound, hkeys, rfl⟩

/-- Fields that are accepted stand for the rows of a table. -/
theorem RecordField.exists_rows {fields : List RecordField} {found : List (Option Field)}
    (h : List.Forall₂ (fun f x => f.field? = .ok x) fields found) :
    ∃ rows, List.Forall₂ DeclaredAs fields rows := by
  induction h with
  | nil => exact ⟨[], .nil⟩
  | cons hx _ ih =>
      obtain ⟨d, hd⟩ := exists_declaredAs hx
      obtain ⟨rows, hrows⟩ := ih
      exact ⟨d :: rows, .cons hd hrows⟩

/-- Rows register what the fields for which they stand register. -/
theorem RecordField.forall₂_field? {fields : List RecordField} {rows : List Declaration}
    (hrows : List.Forall₂ DeclaredAs fields rows) :
    ∀ {found : List (Option Field)},
      List.Forall₂ (fun f x => f.field? = .ok x) fields found →
        List.Forall₂ (fun d x => d.field? = .ok x) rows found := by
  induction hrows with
  | nil =>
      intro found h
      cases h
      exact .nil
  | cons hd _ ih =>
      intro found h
      cases h with
      | cons hx hrest => exact .cons (hd.field? hx) (ih hrest)

/-- As many rows are kept as fields. -/
theorem RecordField.length_filter_rows {fields : List RecordField} {rows : List Declaration}
    (hrows : List.Forall₂ DeclaredAs fields rows) :
    (rows.filter fun d => !Label.keepsOut d.label).length =
      fields.countP fun f => !Label.keepsOut f.label? := by
  induction hrows with
  | nil => rfl
  | cons hd _ ih =>
      rw [← List.countP_eq_length_filter] at ih ⊢
      rw [List.countP_cons, List.countP_cons, ih, hd.label]

/-- **A record and its table lead to the same catalog.**  If a catalog can be made of a record, then
there is a table whose rows stand for the fields in their order, and every such table leads to the
same entries in the same order.  Each row whose label does not keep it out has one entry, with the
field that it registers alone, so no entry takes the place of another. -/
theorem Record.catalog_eq_ofDeclarations {r : Record} {c : Catalog} (h : r.catalog = .ok c) :
    (∃ rows, List.Forall₂ RecordField.DeclaredAs r.fields rows) ∧
      (∀ rows, List.Forall₂ RecordField.DeclaredAs r.fields rows →
        Catalog.ofDeclarations rows = .ok c ∧
          List.Forall₂ (fun d f => d.field? = .ok (some f))
            (rows.filter fun d => !Label.keepsOut d.label) c.toList) ∧
      c.size = r.fields.countP fun f => !Label.keepsOut f.label? := by
  obtain ⟨found, hfound, hkeys, rfl⟩ := catalog_eq_ok h
  have htables : ∀ rows, List.Forall₂ RecordField.DeclaredAs r.fields rows →
      Catalog.ofDeclarations rows = .ok (Catalog.ofList found.reduceOption) ∧
        List.Forall₂ (fun d f => d.field? = .ok (some f))
          (rows.filter fun d => !Label.keepsOut d.label)
          (Catalog.ofList found.reduceOption).toList := by
    intro rows hrows
    have hregister := RecordField.forall₂_field? hrows hfound
    rw [Catalog.toList_ofList hkeys]
    exact ⟨Catalog.ofDeclarations_eq hregister, Declaration.forall₂_filter hregister⟩
  refine ⟨RecordField.exists_rows hfound, htables, ?_⟩
  obtain ⟨rows, hrows⟩ := RecordField.exists_rows hfound
  rw [← RecordField.length_filter_rows hrows, (htables rows hrows).2.length_eq, Catalog.size,
    Catalog.toList, List.length_map]

/-- An order: a raw name, a column in another table, a type that only the attribute names, and three
fields that are kept out. -/
def Record.order : Record where
  shape := .named
  name := "Order".toList
  fields :=
    [{ name := "r#type".toList, type := .path "i64".toList [],
       attributes := [⟨"fiql".toList, .items [.literal (.text "ty".toList)] false⟩] },
     { name := "created".toList,
       type := .path "Option".toList [.type (.path "chrono::DateTime".toList [])],
       attributes := [⟨"fiql".toList,
         .items [.literal (.text "cre,db:orders.created_at".toList)] true⟩] },
     { name := "fee".toList, type := .path "Money".toList [],
       attributes := [⟨"serde".toList, .bare⟩,
         ⟨"fiql".toList, .items [.word "kind".toList (some (.text "Float".toList))] false⟩,
         ⟨"fiql".toList, .items [.literal (.text "fee".toList)] false⟩] },
     { name := "secret".toList, type := .path "Money".toList [],
       attributes := [⟨"fiql".toList, .items [.literal (.text "-".toList)] false⟩] },
     { name := "note".toList, type := .path "String".toList [],
       attributes := [⟨"fiql".toList,
         .items [.literal (.text "TY".toList), .word "skip".toList none] false⟩] },
     { name := "internal".toList, type := .path "Money".toList [] }]

/-- The table of the order. -/
def Declaration.order : List Declaration :=
  [{ name := "type".toList, type := .integer, label := some "ty".toList },
   { name := "created".toList, type := .dateTime, nullable := true,
     label := some "cre,db:orders.created_at".toList },
   { name := "fee".toList, type := .float, label := some "fee".toList },
   { name := "secret".toList, type := .text, label := some "-".toList },
   { name := "note".toList, type := .span },
   { name := "internal".toList, type := .text }]

/-- The fields of the order. -/
def Field.order : List Field :=
  [{ column := "type".toList, aliasName := "ty".toList, type := .integer },
   { column := "created_at".toList, aliasName := "cre".toList, type := .dateTime, nullable := true,
     qualifier := some "orders".toList },
   { column := "fee".toList, aliasName := "fee".toList, type := .float }]

/-- The order and its table lead to the same catalog of three fields. -/
theorem Record.catalog_eq_ofDeclarations_order :
    Record.order.catalog = .ok (Catalog.ofList Field.order) ∧
      List.Forall₂ RecordField.DeclaredAs Record.order.fields Declaration.order ∧
      Catalog.ofDeclarations Declaration.order = .ok (Catalog.ofList Field.order) ∧
      (Catalog.ofList Field.order).size = 3 := by
  have hcatalog : Record.order.catalog = .ok (Catalog.ofList Field.order) := rfl
  have hrows : List.Forall₂ RecordField.DeclaredAs Record.order.fields Declaration.order := by
    repeat' constructor
    all_goals decide
  obtain ⟨-, htables, hsize⟩ := catalog_eq_ofDeclarations hcatalog
  exact ⟨hcatalog, hrows, (htables _ hrows).1, hsize⟩

end SqlFilter
