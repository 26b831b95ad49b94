import Mathlib.Data.List.Induction
import SqlFilter.Adapter
import SqlFilter.Proofs.Steps

/-!
# Environments one after another

Valid settings stay valid whatever environments are applied, and they reach the adapter as they are.

* `Settings.withEnvironments` applies several environments, one after another;
* `Settings.override?` is what an environment changes, and `Settings.lastSet` what is made of one
  setting by the last of several environments that changes it;
* `Settings.Valid` says that all table names are well formed; `Settings.validate` accepts such
  settings and no others (`Settings.validate_eq_ok_iff`).

The main statement is `Settings.environments_applied`.
-/

namespace SqlFilter

/-! ## Table names -/

/-- A table name is well formed if no part of it is trimmed to nothing. -/
theorem isTableName_iff {table : Text} :
    isTableName table = true ↔ ∀ part ∈ Text.splitOn '.' table, Text.trim part ≠ [] := by
  simp [isTableName, Text.trim_eq_nil_iff]

/-- A well-formed table name is not blank. -/
theorem allBlank_of_isTableName {table : Text} (h : isTableName table = true) :
    Text.allBlank table = false := by
  obtain ⟨part, parts, hsplit⟩ := List.exists_cons_of_ne_nil (Text.splitOn_ne_nil '.' table)
  have hpart : part ∈ Text.splitOn '.' table := by
    rw [hsplit]
    exact List.mem_cons_self
  have hblank : Text.allBlank part = false := by
    simpa using List.all_eq_true.1 h part hpart
  -- a character of a part is a character of the whole
  obtain ⟨c, hc, hcblank⟩ := List.all_eq_false.1 hblank
  exact List.all_eq_false.2 ⟨c, Text.mem_of_mem_splitOn table part hpart hc, hcblank⟩

theorem checkTable_eq_ok_iff {place : Text} {table : Option Text} :
    checkTable place table = .ok () ↔ ∀ t ∈ table, isTableName t = true := by
  cases table with
  | none => simp [checkTable]
  | some t => simp [checkTable]

namespace Settings

/-! ## Valid settings -/

/-- Every table name in the settings is well formed. -/
structure Valid (s : Settings) : Prop where
  /-- The table of the adapter is. -/
  adapter : ∀ table ∈ s.adapter.table, isTableName table = true
  /-- The tables that environments set are. -/
  environments : ∀ e ∈ s.environments, ∀ table ∈ e.2.table?, isTableName table = true

theorem validate_eq_ok_iff {s : Settings} : s.validate = .ok () ↔ s.Valid := by
  rw [validate, bind_eq_ok_iff]
  constructor
  · rintro ⟨_, hadapter, henvironments⟩
    refine ⟨checkTable_eq_ok_iff.1 hadapter, ?_⟩
    intro e he
    exact checkTable_eq_ok_iff.1 (forM_eq_ok_iff.1 henvironments e he)
  · rintro ⟨hadapter, henvironments⟩
    refine ⟨(), checkTable_eq_ok_iff.2 hadapter, forM_eq_ok_iff.2 ?_⟩
    intro e he
    exact checkTable_eq_ok_iff.2 (henvironments e he)

/-! ## One environment -/

/-- What the environment of a name changes. -/
def override? (s : Settings) (name : Text) : Option AdapterOverride :=
  (s.environments.lookup name).bind (·.adapter)

/-- An environment overrides the settings that it changes and is used up. -/
theorem withEnvironment_eq (s : Settings) (name : Text) :
    s.withEnvironment name =
      { adapter :=
          { dialect := ((s.override? name).bind (·.dialect)).getD s.adapter.dialect
            table := ((s.override? name).bind (·.table)).or s.adapter.table }
        environments := s.environments.filter fun e => e.1 ≠ name } := by
  unfold withEnvironment override?
  cases (s.environments.lookup name).bind (·.adapter) <;> rfl

/-- A table that an environment sets is one of the tables in the settings. -/
theorem exists_environment_of_override? {s : Settings} {name table : Text}
    (h : (s.override? name).bind (·.table) = some table) :
    ∃ e ∈ s.environments, e.2.table? = some table := by
  rw [override?, Option.bind_assoc, Option.bind_eq_some_iff] at h
  obtain ⟨e, hlookup, htable⟩ := h
  obtain ⟨before, behind, henvironments, -⟩ := List.lookup_eq_some_iff.1 hlookup
  refine ⟨(name, e), ?_, htable⟩
  rw [henvironments]
  exact List.mem_append_right before List.mem_cons_self

/-- Applying an environment keeps settings valid. -/
theorem Valid.withEnvironment {s : Settings} (h : s.Valid) (name : Text) :
    (s.withEnvironment name).Valid := by
  rw [withEnvironment_eq]
  refine ⟨?_, ?_⟩
  · intro table htable
    rcases Option.or_eq_some_iff.1 htable with hset | ⟨-, hadapter⟩
    · obtain ⟨e, he, hetable⟩ := exists_environment_of_override? hset
      exact h.environments e he table hetable
    · exact h.adapter table hadapter
  · intro e he
    exact h.environments e (List.mem_filter.1 he).1

/-! ## Several environments -/

/-- The settings after the environments of several names, one after another. -/
def withEnvironments (s : Settings) (names : List Text) : Settings :=
  names.foldl withEnvironment s

/-- What is made of a setting by the last of several environments that changes it.  A name that
occurs again counts in its first place only. -/
def lastSet {α : Type} (s : Settings) (setting : AdapterOverride → Option α)
    (names : List Text) : Option α :=
  names.eraseDups.reverse.findSome? fun name => (s.override? name).bind setting

variable (s : Settings) (names : List Text)

theorem withEnvironments_concat (name : Text) :
    s.withEnvironments (names ++ [name]) = (s.withEnvironments names).withEnvironment name := by
  rw [withEnvironments, List.foldl_append]
  rfl

theorem valid_withEnvironments {s : Settings} (h : s.Valid) (names : List Text) :
    (s.withEnvironments names).Valid := by
  induction names using List.reverseRecOn with
  | nil => exact h
  | append_singleton names name ih =>
      rw [withEnvironments_concat]
      exact ih.withEnvironment name

/-- The environments that have been applied are gone, and the others are left. -/
theorem environments_withEnvironments :
    (s.withEnvironments names).environments = s.environments.filter fun e => e.1 ∉ names := by
  induction names using List.reverseRecOn with
  | nil =>
      rw [List.filter_eq_self.2 fun e _ => by simp]
      rfl
  | append_singleton names name ih =>
      rw [withEnvironments_concat, withEnvironment_eq, ih, List.filter_filter]
      simp [not_or, and_comm]

/-- An environment that has been applied changes nothing any more. -/
theorem override?_withEnvironments (name : Text) :
    (s.withEnvironments names).override? name =
      if name ∈ names then none else s.override? name := by
  have hlookup := Keyed.lookup_filter (fun n => decide (n ∉ names)) name s.environments
  rw [override?, environments_withEnvironments, hlookup, override?]
  by_cases h : name ∈ names
  · simp [h]
  · simp [h]

/-- One more name counts if it is new. -/
theorem lastSet_concat {α : Type} (setting : AdapterOverride → Option α) (name : Text) :
    s.lastSet setting (names ++ [name]) =
      (((s.withEnvironments names).override? name).bind setting).or (s.lastSet setting names) := by
  rw [override?_withEnvironments, lastSet, lastSet, eraseDups_concat]
  by_cases h : name ∈ names
  · rw [if_pos h, if_pos h, Option.bind_none, Option.none_or]
  · rw [if_neg h, if_neg h, findSome?_reverse_concat]

/-- The dialect is that of the last environment that sets one. -/
theorem dialect_withEnvironments :
    (s.withEnvironments names).adapter.dialect =
      (s.lastSet (·.dialect) names).getD s.adapter.dialect := by
  induction names using List.reverseRecOn with
  | nil => rfl
  | append_singleton names name ih =>
      rw [withEnvironments_concat, withEnvironment_eq, lastSet_concat, Option.getD_or, ih]

/-- The table is that of the last environment that sets one. -/
theorem table_withEnvironments :
    (s.withEnvironments names).adapter.table =
      (s.lastSet (·.table) names).or s.adapter.table := by
  induction names using List.reverseRecOn with
  | nil => rfl
  | append_singleton names name ih =>
      rw [withEnvironments_concat, withEnvironment_eq, lastSet_concat, Option.or_assoc, ih]

/-- An environment that has been applied can be applied again without effect. -/
theorem withEnvironment_of_mem {name : Text} (h : name ∈ names) :
    (s.withEnvironments names).withEnvironment name = s.withEnvironments names := by
  have hnone : (s.withEnvironments names).override? name = none := by
    rw [override?_withEnvironments, if_pos h]
  have hgone : (s.withEnvironments names).environments.filter (fun e => e.1 ≠ name) =
      (s.withEnvironments names).environments := by
    refine List.filter_eq_self.2 ?_
    intro e he
    rw [environments_withEnvironments, List.mem_filter, decide_eq_true_eq] at he
    refine decide_eq_true ?_
    rintro rfl
    exact he.2 h
  rw [withEnvironment_eq, hnone, hgone]
  rfl

end Settings

/-! ## The adapter of settings -/

/-- An adapter takes over a well-formed table name as it is. -/
theorem Adapter.ofSettings_eq (catalog : Catalog) {settings : AdapterSettings}
    (h : ∀ table ∈ settings.table, isTableName table = true) :
    ofSettings catalog settings =
      { catalog, dialect := some settings.dialect, profile := settings.dialect.profile
        table := settings.table } := by
  unfold ofSettings
  cases htable : settings.table with
  | none => rfl
  | some table =>
      have hblank := allBlank_of_isTableName (h table htable)
      simp [new, withDialect, withTable, hblank]

/-- **Environments are applied one after another.**  Valid settings stay valid.  The dialect and the
table are each taken from the last of the names, each counted where it first occurs, whose
environment sets it, and are what they were if there is none.  The environments of these names are
gone and all others left, so that none of the names can have an effect again.  The adapter has just
this dialect and this table, no part of which is blank. -/
theorem Settings.environments_applied {s : Settings} (h : s.validate = .ok ()) (names : List Text)
    (catalog : Catalog) :
    (s.withEnvironments names).validate = .ok () ∧
      (s.withEnvironments names).adapter.dialect =
        (s.lastSet (·.dialect) names).getD s.adapter.dialect ∧
      (s.withEnvironments names).adapter.table =
        (s.lastSet (·.table) names).or s.adapter.table ∧
      ((s.withEnvironments names).environments =
        s.environments.filter fun e => e.1 ∉ names) ∧
      (∀ name ∈ names,
        (s.withEnvironments names).withEnvironment name = s.withEnvironments names) ∧
      Adapter.ofSettings catalog (s.withEnvironments names).adapter =
        { catalog
          dialect := some (s.withEnvironments names).adapter.dialect
          profile := (s.withEnvironments names).adapter.dialect.profile
          table := (s.withEnvironments names).adapter.table } ∧
      ∀ table ∈ (s.withEnvironments names).adapter.table,
        ∀ part ∈ Text.splitOn '.' table, Text.trim part ≠ [] := by
  have hvalid : (s.withEnvironments names).Valid :=
    valid_withEnvironments (validate_eq_ok_iff.1 h) names
  refine ⟨validate_eq_ok_iff.2 hvalid, s.dialect_withEnvironments names,
    s.table_withEnvironments names, s.environments_withEnvironments names, ?_,
    Adapter.ofSettings_eq catalog hvalid.adapter, ?_⟩
  · intro name hname
    exact s.withEnvironment_of_mem names hname
  · intro table htable
    exact isTableName_iff.1 (hvalid.adapter table htable)

/-- Settings with an environment for tests, which changes the dialect, one for the archive, which
changes both, and one that changes nothing. -/
def Settings.depot : Settings where
  adapter := { dialect := .postgres, table := some "orders".toList }
  environments :=
    [("test".toList, ⟨some { dialect := some .sqlite }⟩),
     ("archive".toList, ⟨some { dialect := some .mssql, table := some "old.orders".toList }⟩),
     ("plain".toList, ⟨none⟩)]

/-- The archive sets the table and the tests set the dialect, although the archive comes again after
them. -/
theorem Settings.environments_applied_depot :
    depot.validate = .ok () ∧
      (depot.withEnvironments ["archive".toList, "test".toList, "archive".toList]).validate =
        .ok () ∧
      (depot.withEnvironments ["archive".toList, "test".toList, "archive".toList]).adapter =
        { dialect := .sqlite, table := some "old.orders".toList } ∧
      (depot.withEnvironments ["archive".toList, "test".toList, "archive".toList]).environments =
        [("plain".toList, ⟨none⟩)] ∧
      Adapter.ofSettings Catalog.empty
          (depot.withEnvironments ["archive".toList, "test".toList, "archive".toList]).adapter =
        { catalog := Catalog.empty, dialect := some .sqlite, profile := Dialect.sqlite.profile
          table := some "old.orders".toList } := by
  have hvalidate : depot.validate = .ok () := rfl
  obtain ⟨hvalid, hdialect, htable, henvironments, -, hadapter, -⟩ :=
    environments_applied hvalidate ["archive".toList, "test".toList, "archive".toList] Catalog.empty
  have hlastDialect : depot.lastSet (·.dialect)
      ["archive".toList, "test".toList, "archive".toList] = some .sqlite := by decide
  have hlastTable : depot.lastSet (·.table)
      ["archive".toList, "test".toList, "archive".toList] = some "old.orders".toList := by decide
  rw [hlastDialect, Option.getD_some] at hdialect
  rw [hlastTable, Option.some_or] at htable
  refine ⟨hvalidate, hvalid, ?_, henvironments.trans (by decide), ?_⟩
  · rw [← hdialect, ← htable]
  · rw [hadapter, hdialect, htable]

end SqlFilter
