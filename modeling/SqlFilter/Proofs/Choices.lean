import Mathlib.Data.List.Induction
import SqlFilter.Adapter
import SqlFilter.Proofs.Steps

/-!
# Choices of an adapter

An adapter starts with the standard dialect and no table, and after that its choices can be changed
any number of times and in any order.

* `Adapter.Change` is a change of one choice, `Adapter.change` makes it and `Adapter.after` makes
  several, one after another;
* `Adapter.Coherent` says that the dialect and the profile of an adapter belong together and that
  its table is not blank; every change keeps this (`Adapter.Coherent.change`).

The main statement is `Adapter.last_choices`: each choice is the one made last, and nothing else
about the changes matters.
-/

namespace SqlFilter.Adapter

/-- A change of one choice. -/
inductive Change where
  /-- Another dialect. -/
  | dialect (d : Dialect)
  /-- Another profile. -/
  | profile (p : Profile)
  /-- Another table. -/
  | table (t : Text)
  deriving Repr, DecidableEq

namespace Change

/-- The profile that a change asks for. -/
def profile? : Change → Option Profile
  | dialect d => some d.profile
  | profile p => some p
  | table _ => none

/-- The table that a change asks for. -/
def table? : Change → Option Text
  | table t => some t
  | _ => none

end Change

/-- The adapter with a change made. -/
def change (a : Adapter) : Change → Adapter
  | .dialect d => a.withDialect d
  | .profile p => a.withProfile p
  | .table t => a.withTable t

/-- The adapter of a catalog after several changes. -/
def after (catalog : Catalog) (changes : List Change) : Adapter :=
  changes.foldl change (new catalog)

/-- The dialect of an adapter is the one with its profile, and its table is not blank. -/
structure Coherent (a : Adapter) : Prop where
  /-- The dialect is the one with the profile, if there is one. -/
  dialect : a.dialect = Dialect.withProfile? a.profile
  /-- The table, if there is one, is not blank. -/
  table : ∀ t ∈ a.table, Text.allBlank t = false

/-! ## One change -/

variable {a b : Adapter}

theorem catalog_change (a : Adapter) (c : Change) : (a.change c).catalog = a.catalog := by
  cases c <;> rfl

/-- A change that asks for no profile keeps the one that is there. -/
theorem profile_change (a : Adapter) (c : Change) :
    (a.change c).profile = c.profile?.getD a.profile := by
  cases c <;> rfl

/-- A change that asks for no table keeps the one that is there, and a blank one takes it away. -/
theorem table_change (a : Adapter) (c : Change) :
    (a.change c).table =
      c.table?.elim a.table fun t => if Text.allBlank t then none else some t := by
  cases c <;> rfl

theorem coherent_new (catalog : Catalog) : (new catalog).Coherent where
  dialect := (Dialect.withProfile?_profile Dialect.standard).symm
  table := by
    intro t ht
    cases ht

/-- Every change keeps an adapter coherent. -/
theorem Coherent.change (h : a.Coherent) (c : Change) : (a.change c).Coherent where
  dialect := by
    cases c with
    | dialect d => exact (Dialect.withProfile?_profile d).symm
    | profile p => rfl
    | table t => exact h.dialect
  table := by
    cases c with
    | dialect d => exact h.table
    | profile p => exact h.table
    | table t =>
        intro t' ht'
        rw [table_change] at ht'
        simp only [Change.table?, Option.elim_some, Option.mem_def, Option.ite_none_left_eq_some,
          Option.some.injEq] at ht'
        obtain ⟨hblank, rfl⟩ := ht'
        simpa using hblank

/-- A coherent adapter is known from its catalog, its profile and its table. -/
theorem Coherent.eq (ha : a.Coherent) (hb : b.Coherent) (hcatalog : a.catalog = b.catalog)
    (hprofile : a.profile = b.profile) (htable : a.table = b.table) : a = b := by
  have hdialect : a.dialect = b.dialect := by rw [ha.dialect, hb.dialect, hprofile]
  cases a
  cases b
  simp_all

/-! ## Several changes -/

theorem after_concat (catalog : Catalog) (changes : List Change) (c : Change) :
    after catalog (changes ++ [c]) = (after catalog changes).change c := by
  rw [after, List.foldl_append]
  rfl

theorem coherent_after (catalog : Catalog) (changes : List Change) :
    (after catalog changes).Coherent := by
  induction changes using List.reverseRecOn with
  | nil => exact coherent_new catalog
  | append_singleton changes c ih =>
      rw [after_concat]
      exact ih.change c

theorem catalog_after (catalog : Catalog) (changes : List Change) :
    (after catalog changes).catalog = catalog := by
  induction changes using List.reverseRecOn with
  | nil => rfl
  | append_singleton changes c ih => rw [after_concat, catalog_change, ih]

/-- The profile is the one that was asked for last. -/
theorem profile_after (catalog : Catalog) (changes : List Change) :
    (after catalog changes).profile =
      (changes.reverse.findSome? Change.profile?).getD Profile.standard := by
  induction changes using List.reverseRecOn with
  | nil => rfl
  | append_singleton changes c ih =>
      rw [after_concat, profile_change, ih, findSome?_reverse_concat]
      cases c.profile? <;> rfl

/-- The table is the one that was asked for last, unless that is blank. -/
theorem table_after (catalog : Catalog) (changes : List Change) :
    (after catalog changes).table =
      (changes.reverse.findSome? Change.table?).filter fun t => Text.trim t ≠ [] := by
  induction changes using List.reverseRecOn with
  | nil => rfl
  | append_singleton changes c ih =>
      rw [after_concat, table_change, ih, findSome?_reverse_concat]
      cases c.table? with
      | none => rfl
      | some t =>
          have htrim : Text.trim t = [] ↔ Text.allBlank t = true := Text.trim_eq_nil_iff t
          by_cases hblank : Text.allBlank t = true
          · simp [Option.filter, htrim, hblank]
          · simp [Option.filter, htrim, hblank]

/-- Adapters with one catalog, one profile and one table build the same. -/
theorem builder_congr (hcatalog : b.catalog = a.catalog) (hprofile : b.profile = a.profile)
    (htable : b.table = a.table) : b.builder = a.builder := by
  rw [builder, builder, hcatalog, hprofile, htable]

/-- Changes of the profile and changes of the table may be mixed in any way. -/
theorem after_congr (catalog : Catalog) {changes changes' : List Change}
    (hprofile : changes'.filterMap Change.profile? = changes.filterMap Change.profile?)
    (htable : changes'.filterMap Change.table? = changes.filterMap Change.table?) :
    after catalog changes' = after catalog changes := by
  refine (coherent_after catalog changes').eq (coherent_after catalog changes) ?_ ?_ ?_
  · rw [catalog_after, catalog_after]
  · rw [profile_after, profile_after, findSome?_reverse_congr hprofile]
  · rw [table_after, table_after, findSome?_reverse_congr htable]

/-- **The choices made last count.**  After any changes the profile is the one that was asked for
last, the dialect is the one with that profile, if there is one, and the table is the one that was
asked for last, unless that is blank.  Changes that ask for the same profiles in their order and for
the same tables in their order come to the same adapter, and an adapter with the same catalog,
profile and table builds the same. -/
theorem last_choices (catalog : Catalog) (changes : List Change) :
    (after catalog changes).catalog = catalog ∧
      (after catalog changes).profile =
        (changes.reverse.findSome? Change.profile?).getD Profile.standard ∧
      (∀ d, (after catalog changes).dialect = some d ↔
        d.profile = (after catalog changes).profile) ∧
      ((after catalog changes).dialect = none ↔
        ∀ d : Dialect, d.profile ≠ (after catalog changes).profile) ∧
      (after catalog changes).table =
        ((changes.reverse.findSome? Change.table?).filter fun t => Text.trim t ≠ []) ∧
      (∀ t ∈ (after catalog changes).table, Text.trim t ≠ []) ∧
      (∀ changes' : List Change,
        changes'.filterMap Change.profile? = changes.filterMap Change.profile? →
          changes'.filterMap Change.table? = changes.filterMap Change.table? →
            after catalog changes' = after catalog changes) ∧
      ∀ b : Adapter, b.catalog = (after catalog changes).catalog →
        b.profile = (after catalog changes).profile → b.table = (after catalog changes).table →
          (∀ now e, b.buildPredicate now e = (after catalog changes).buildPredicate now e) ∧
            ∀ sort, b.buildOrder sort = (after catalog changes).buildOrder sort := by
  have hcoherent := coherent_after catalog changes
  refine ⟨catalog_after catalog changes, profile_after catalog changes, ?_, ?_,
    table_after catalog changes, ?_, ?_, ?_⟩
  · intro d
    rw [hcoherent.dialect, Dialect.withProfile?_eq_some_iff]
  · rw [hcoherent.dialect, Dialect.withProfile?_eq_none_iff]
  · intro t ht htrim
    have hblank := hcoherent.table t ht
    rw [(Text.trim_eq_nil_iff t).1 htrim] at hblank
    cases hblank
  · intro changes' hprofile htable
    exact after_congr catalog hprofile htable
  · intro b hcatalog hprofile htable
    have hbuilder := builder_congr hcatalog hprofile htable
    refine ⟨?_, ?_⟩
    · intro now e
      rw [buildPredicate, buildPredicate, hbuilder]
    · intro sort
      rw [buildOrder, buildOrder, hbuilder]

/-- A profile that belongs to a dialect brings the dialect with it, and a blank table takes away the
one before. -/
example (catalog : Catalog) :
    after catalog [.dialect .mssql, .table "people".toList,
        .profile ⟨.doubleQuote, .dollar, .function⟩, .table " \t".toList] =
      { catalog, dialect := some .postgres, profile := Dialect.postgres.profile, table := none } :=
  rfl

end SqlFilter.Adapter
