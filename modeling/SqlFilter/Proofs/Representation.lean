import SqlFilter.Proofs.Derivation

/-!
# How catalogs are made

Every way to make a catalog registers fields one after another.

* `Declaration.Parses` and `Declaration.Registers` say what a row of a registration table needs and
  what it contributes;
* `Catalog.ofDeclarations_eq_error_iff` says how a table fails.

The main statement is `Catalog.made_by_registration`.
-/

namespace SqlFilter

/-- Calls register their fields. -/
theorem Catalog.built_eq (calls : List Registration) :
    built calls = ofList (calls.map Registration.toField) := by
  rw [ofList, List.foldl_map]
  rfl

/-! ## Rows -/

namespace Declaration

/-- If a row has a label, then it can be read. -/
def Parses (d : Declaration) : Prop :=
  ∀ value ∈ d.label, ∃ label, Label.parse d.name value = .ok label

/-- A row registers the field that its label describes. -/
def Registers (d : Declaration) (f : Field) : Prop :=
  ∃ value label, d.label = some value ∧ Label.parse d.name value = .ok (some label) ∧
    f = label.toField d.name d.type d.nullable

variable {d : Declaration}

theorem exists_field?_iff : (∃ found, d.field? = .ok found) ↔ d.Parses := by
  unfold field? Parses
  cases d.label with
  | none => simp
  | some value =>
      cases hparse : Label.parse d.name value with
      | error x => simp [hparse, Except.map]
      | ok label => simp [hparse, Except.map]

theorem registers_of_field? {f : Field} (h : d.field? = .ok (some f)) : d.Registers f := by
  unfold field? at h
  cases hlabel : d.label with
  | none =>
      rw [hlabel] at h
      cases h
  | some value =>
      simp only [hlabel] at h
      cases hparse : Label.parse d.name value with
      | error x =>
          rw [hparse] at h
          cases h
      | ok label =>
          rw [hparse] at h
          cases label with
          | none => cases h
          | some label =>
              cases h
              exact ⟨value, label, hlabel, hparse, rfl⟩

theorem field?_eq_error_iff {x : Error} :
    d.field? = .error x ↔ ∃ value ∈ d.label, Label.parse d.name value = .error x := by
  unfold field?
  cases d.label with
  | none => simp
  | some value =>
      cases hparse : Label.parse d.name value with
      | error y => simp [hparse, Except.map]
      | ok label => simp [hparse, Except.map]

end Declaration

namespace Catalog

variable {rows : List Declaration}

/-- A table has a catalog if all of its rows can be read. -/
theorem exists_ofDeclarations_iff :
    (∃ c, ofDeclarations rows = .ok c) ↔ ∀ d ∈ rows, d.Parses := by
  simp only [← Declaration.exists_field?_iff, ← exists_mapM_eq_ok_iff, ofDeclarations_eq_map]
  cases rows.mapM Declaration.field? <;> simp [Except.map]

/-- The catalog of a table collects the fields of the rows that are not kept out. -/
theorem exists_of_ofDeclarations {c : Catalog} (h : ofDeclarations rows = .ok c) :
    ∃ fields, List.Forall₂ Declaration.Registers
        (rows.filter fun d => !Label.keepsOut d.label) fields ∧ c = ofList fields := by
  rw [ofDeclarations_eq_map] at h
  cases hfound : rows.mapM Declaration.field? with
  | error x =>
      rw [hfound] at h
      cases h
  | ok found =>
      rw [hfound] at h
      cases h
      have hkept := Declaration.forall₂_filter (mapM_eq_ok_iff.1 hfound)
      exact ⟨found.reduceOption, hkept.imp fun _ _ => Declaration.registers_of_field?, rfl⟩

/-- The first row whose label cannot be read is the failure of a table. -/
theorem ofDeclarations_eq_error_iff {x : Error} :
    ofDeclarations rows = .error x ↔
      ∃ before d after, rows = before ++ d :: after ∧ (∀ r ∈ before, r.Parses) ∧
        ∃ value ∈ d.label, Label.parse d.name value = .error x := by
  simp only [← Declaration.exists_field?_iff, ← Declaration.field?_eq_error_iff,
    ← mapM_eq_error_iff, ofDeclarations_eq_map]
  cases rows.mapM Declaration.field? <;> simp [Except.map]

/-- **Catalogs are made by registration.**  A catalog of fields has each key once, with its own
field under it; the keys stand in the order in which they were first registered, and the fields are
listed in that order, each the last one under its key; an alias in letters of any case has that
field.  Calls lead to the catalog of their fields.  A registration table has a catalog exactly if
all labels can be read, and then it is that of the fields of the rows that are not kept out, in
their order; otherwise the failure is that of the first row whose label cannot be read. -/
theorem made_by_registration :
    (∀ fields, (ofList fields).Holds fields ∧
      (ofList fields).size = (fields.map Field.key).eraseDups.length ∧
      (∀ a, (ofList fields).resolve? a = last? fields (Text.lowercase a)) ∧
      (ofList fields).toList = (fields.map Field.key).eraseDups.filterMap (last? fields)) ∧
    (∀ calls, built calls = ofList (calls.map Registration.toField)) ∧
    ∀ rows,
      ((∃ c, ofDeclarations rows = .ok c) ↔ ∀ d ∈ rows, d.Parses) ∧
      (∀ c, ofDeclarations rows = .ok c →
        ∃ fields, List.Forall₂ Declaration.Registers
          (rows.filter fun d => !Label.keepsOut d.label) fields ∧ c = ofList fields) ∧
      ∀ x, ofDeclarations rows = .error x ↔
        ∃ before d after, rows = before ++ d :: after ∧ (∀ r ∈ before, r.Parses) ∧
          ∃ value ∈ d.label, Label.parse d.name value = .error x := by
  refine ⟨?_, built_eq, ?_⟩
  · intro fields
    have h := holds_ofList fields
    exact ⟨h, h.size_eq, h.resolve?_eq, h.toList_eq⟩
  · intro rows
    refine ⟨exists_ofDeclarations_iff, ?_, ?_⟩
    · intro c hc
      exact exists_of_ofDeclarations hc
    · intro x
      exact ofDeclarations_eq_error_iff

/-- A table in which one alias is taken twice, and the same table with a bad row in the middle. -/
theorem made_by_registration_twice :
    (∃ fields, List.Forall₂ Declaration.Registers
        [⟨"id".toList, .integer, false, some "Id".toList⟩,
          ⟨"name".toList, .text, false, some "name, db:people.title".toList⟩,
          ⟨"number".toList, .float, true, some "ID".toList⟩] fields ∧
      ⟨[("id".toList, ⟨"number".toList, "ID".toList, .float, true, none⟩),
        ("name".toList,
          ⟨"title".toList, "name".toList, .text, false, some "people".toList⟩)]⟩ =
        ofList fields) ∧
    ofDeclarations [⟨"id".toList, .integer, false, some "Id".toList⟩,
        ⟨"name".toList, .text, false, some "name,title".toList⟩,
        ⟨"number".toList, .float, true, some []⟩] =
      .error (.invalidLabel "name".toList "name,title".toList
        "unknown option `title`".toList) := by
  refine ⟨?_, ?_⟩
  · exact (made_by_registration.2.2
      [⟨"id".toList, .integer, false, some "Id".toList⟩,
        ⟨"secret".toList, .text, false, none⟩,
        ⟨"name".toList, .text, false, some "name, db:people.title".toList⟩,
        ⟨"note".toList, .text, true, some " - ".toList⟩,
        ⟨"number".toList, .float, true, some "ID".toList⟩]).2.1 _ rfl
  · refine ((made_by_registration.2.2 _).2.2 _).2
      ⟨[⟨"id".toList, .integer, false, some "Id".toList⟩], _, _, rfl, ?_, _, rfl, rfl⟩
    intro r hr
    cases List.mem_singleton.1 hr
    intro value hvalue
    cases hvalue
    exact ⟨_, rfl⟩

end Catalog
end SqlFilter
