import SqlFilter.Proofs.Registration
import SqlFilter.Proofs.Spelling

/-!
# Only resolved columns matter

Of a catalog only those fields matter that the selectors of a filter or the aliases of a sort text
are resolved to, and of these only the column, the type and the qualifier.

* `Field.target` is what matters of a field, and `Catalog.target?` what matters of a catalog for an
  alias;
* `Text.sortAliases` are the aliases of a sort text;
* `Builder.SameOutputs` says that two builders come to the same, whatever they are asked.

The main statement is `Builder.only_columns_matter`.
-/

namespace SqlFilter

/-! ## Targets -/

/-- What clauses depend on of a field. -/
structure Target where
  /-- The name of the column. -/
  column : Text
  /-- The type of the values. -/
  type : FieldType
  /-- The table, or schema and table, that the column is in. -/
  qualifier : Option Text
  deriving Repr, DecidableEq

/-- What clauses depend on of this field. -/
def Field.target (f : Field) : Target := ⟨f.column, f.type, f.qualifier⟩

/-- What a catalog keeps of a field, as far as clauses depend on it. -/
def Field.registration (f : Field) : Text × Target := (f.key, f.target)

namespace Catalog

/-- What clauses depend on of the field of an alias. -/
def target? (c : Catalog) (a : Text) : Option Target := (c.resolve? a).map Field.target

/-- Two catalogs agree on an alias if it has no field in either, or the same in both as far as
clauses depend on it. -/
theorem target?_eq_iff {c c' : Catalog} {a : Text} :
    c.target? a = c'.target? a ↔
      (c.resolve? a = none ∧ c'.resolve? a = none) ∨
        ∃ f f', c.resolve? a = some f ∧ c'.resolve? a = some f' ∧ f.target = f'.target := by
  unfold target?
  cases c.resolve? a <;> cases c'.resolve? a <;> simp

/-- A field under another key does not matter for an alias. -/
theorem target?_insert {c : Catalog} {f : Field} {a : Text} (h : Text.lowercase a ≠ f.key) :
    (c.insert f).target? a = c.target? a := by
  rw [target?, resolve?_insert, if_neg h, target?]

/-- What matters of registered fields depends on what matters of each of them. -/
theorem target?_ofList (fields : List Field) (a : Text) :
    (ofList fields).target? a =
      ((fields.map Field.registration).reverse.find? fun r =>
        r.1 = Text.lowercase a).map (·.2) := by
  rw [target?, resolve?_ofList, ← List.map_reverse, List.find?_map, Option.map_map]
  rfl

end Catalog

/-! ## Aliases of sort texts -/

/-- What a token of a sort text says: the direction of its sign and the alias behind it. -/
def Text.sortToken? : Text → Option (Direction × Text)
  | [] => none
  | sign :: aliasName =>
    if aliasName = [] then none
    else (Direction.ofSign? sign).map fun direction => (direction, aliasName)

/-- The aliases of a sort text. -/
def Text.sortAliases (sort : Text) : List Text :=
  ((splitOn ';' sort).filterMap sortToken?).map (·.2)

/-- A token is read without the catalog, and then its alias is looked up. -/
theorem Catalog.sortTerm?_eq (c : Catalog) (token : Text) :
    c.sortTerm? token = (Text.sortToken? token).bind fun (direction, aliasName) =>
      (c.resolve? aliasName).map fun field => ⟨field, direction⟩ := by
  unfold sortTerm? Text.sortToken?
  cases token with
  | nil => rfl
  | cons sign aliasName =>
      by_cases h : aliasName = []
      · simp [h]
      · simp only [if_neg h]
        cases Direction.ofSign? sign with
        | none => rfl
        | some direction =>
            simp only [Option.map_some, Option.bind_some]
            cases c.resolve? aliasName <;> rfl

/-! ## Two catalogs -/

namespace Builder

/-- Two builders that come to the same for every filter and every sort text. -/
def SameOutputs (b b' : Builder) : Prop :=
  (∀ now e, b.build now e = b'.build now e) ∧ ∀ sort, b.buildOrder sort = b'.buildOrder sort

variable {p : Profile} {table : Option Text} {c c' : Catalog} {now : Instant}

/-- Two builders of one profile whose constraints bind the same and ask for the same conditions come
to the same. -/
theorem build_congr {b b' : Builder} {e : Expression} (hprofile : b.profile = b'.profile)
    (hbind : ∀ k ∈ e.constraints, b.bind now k = b'.bind now k)
    (hcondition : ∀ k ∈ e.constraints, b.condition? k = b'.condition? k) :
    b.build now e = b'.build now e := by
  have hwidth : ∀ k ∈ e.constraints, b.width now k = b'.width now k := by
    intro k hk
    rw [width, width, values, values, hbind k hk]
  have htext : ∀ k ∈ e.constraints, ∀ n, b.text n k = b'.text n k := by
    intro k hk n
    rw [text, text, hcondition k hk, hprofile]
  have hwrite : e.tree.grouped.write b.text (b.width now) 1 =
      e.tree.grouped.write b'.text (b'.width now) 1 := by
    apply Tree.write_congr
    · rwa [Expression.leaves_tree_grouped]
    · rwa [Expression.leaves_tree_grouped]
  rw [build_eq, build_eq, faults_congr hbind, values_congr hbind, hwrite]

/-- The condition of a constraint depends on what matters of its field. -/
theorem condition?_congr {k : Constraint} (h : c.target? k.selector = c'.target? k.selector) :
    condition? ⟨c, p, table⟩ k = condition? ⟨c', p, table⟩ k := by
  unfold condition?
  rcases Catalog.target?_eq_iff.1 h with ⟨hf, hf'⟩ | ⟨f, f', hf, hf', htarget⟩
  · simp [hf, hf']
  · obtain ⟨hcolumn, htype, hqualifier⟩ := Target.mk.inj htarget
    simp [hf, hf', qualifier, hcolumn, htype, hqualifier]

/-- A filter comes to the same where the catalogs agree on its selectors. -/
theorem build_eq_of_targets {e : Expression}
    (h : ∀ k ∈ e.constraints, c.target? k.selector = c'.target? k.selector) :
    build ⟨c, p, table⟩ now e = build ⟨c', p, table⟩ now e := by
  refine build_congr rfl ?_ fun k hk => condition?_congr (h k hk)
  intro k hk
  apply bind_congr
  have htypes := congrArg (Option.map Target.type) (h k hk)
  simp only [Catalog.target?, Option.map_map] at htypes
  exact htypes

/-- A token becomes the same item where the catalogs agree on its alias. -/
theorem orderItem_congr {token : Text}
    (h : ∀ parts, Text.sortToken? token = some parts → c.target? parts.2 = c'.target? parts.2) :
    orderItem ⟨c, p, table⟩ token = orderItem ⟨c', p, table⟩ token := by
  rw [orderItem_eq, orderItem_eq, Catalog.sortTerm, Catalog.sortTerm, Catalog.sortTerm?_eq,
    Catalog.sortTerm?_eq]
  cases hparts : Text.sortToken? token with
  | none => rfl
  | some parts =>
      rcases Catalog.target?_eq_iff.1 (h parts hparts) with
        ⟨hf, hf'⟩ | ⟨f, f', hf, hf', htarget⟩
      · simp [hf, hf', Except.map]
      · obtain ⟨hcolumn, -, hqualifier⟩ := Target.mk.inj htarget
        simp [hf, hf', Except.map, printTerm, column, hcolumn, hqualifier]

/-- A sort text comes to the same where the catalogs agree on its aliases. -/
theorem buildOrder_eq_of_targets {sort : Text}
    (h : ∀ a ∈ Text.sortAliases sort, c.target? a = c'.target? a) :
    buildOrder ⟨c, p, table⟩ sort = buildOrder ⟨c', p, table⟩ sort := by
  have hitems : (Text.splitOn ';' sort).mapM (orderItem ⟨c, p, table⟩) =
      (Text.splitOn ';' sort).mapM (orderItem ⟨c', p, table⟩) := by
    apply mapM_congr
    intro token htoken
    apply orderItem_congr
    intro parts hparts
    exact h parts.2 (List.mem_map_of_mem (List.mem_filterMap.2 ⟨token, htoken, hparts⟩))
  rw [buildOrder, buildOrder, hitems]

/-- Builders whose catalogs agree on every alias come to the same. -/
theorem sameOutputs_of_targets (h : ∀ a, c.target? a = c'.target? a) :
    SameOutputs ⟨c, p, table⟩ ⟨c', p, table⟩ :=
  ⟨fun _ _ => build_eq_of_targets fun k _ => h k.selector,
    fun _ => buildOrder_eq_of_targets fun a _ => h a⟩

/-- **Only resolved columns matter.**  In one profile and with one table, a filter comes to the same
under two catalogs in which each of its selectors has no field, or fields of the same column, type
and qualifier, and so does a sort text with its aliases.  Neither the spelling of declared aliases
nor whether fields may be empty has an influence, nor has a field under another key, nor the order
of fields with different keys. -/
theorem only_columns_matter (p : Profile) (table : Option Text) :
    (∀ (c c' : Catalog) (now : Instant) (e : Expression),
        (∀ k ∈ e.constraints, c.target? k.selector = c'.target? k.selector) →
          build ⟨c, p, table⟩ now e = build ⟨c', p, table⟩ now e) ∧
      (∀ (c c' : Catalog) (sort : Text),
        (∀ a ∈ Text.sortAliases sort, c.target? a = c'.target? a) →
          buildOrder ⟨c, p, table⟩ sort = buildOrder ⟨c', p, table⟩ sort) ∧
      (∀ fields fields' : List Field,
        fields.map Field.registration = fields'.map Field.registration →
          SameOutputs ⟨Catalog.ofList fields, p, table⟩ ⟨Catalog.ofList fields', p, table⟩) ∧
      (∀ (c : Catalog) (f : Field) (now : Instant) (e : Expression),
        (∀ k ∈ e.constraints, Text.lowercase k.selector ≠ f.key) →
          build ⟨c.insert f, p, table⟩ now e = build ⟨c, p, table⟩ now e) ∧
      (∀ (c : Catalog) (f : Field) (sort : Text),
        (∀ a ∈ Text.sortAliases sort, Text.lowercase a ≠ f.key) →
          buildOrder ⟨c.insert f, p, table⟩ sort = buildOrder ⟨c, p, table⟩ sort) ∧
      ∀ fields fields' : List Field, fields.Perm fields' → (fields.map Field.key).Nodup →
        SameOutputs ⟨Catalog.ofList fields, p, table⟩ ⟨Catalog.ofList fields', p, table⟩ := by
  refine ⟨?_, ?_, ?_, ?_, ?_, ?_⟩
  · intro c c' now e h
    exact build_eq_of_targets h
  · intro c c' sort h
    exact buildOrder_eq_of_targets h
  · intro fields fields' h
    apply sameOutputs_of_targets
    intro a
    rw [Catalog.target?_ofList, Catalog.target?_ofList, h]
  · intro c f now e h
    exact build_eq_of_targets fun k hk => Catalog.target?_insert (h k hk)
  · intro c f sort h
    exact buildOrder_eq_of_targets fun a ha => Catalog.target?_insert (h a ha)
  · intro fields fields' hperm h
    apply sameOutputs_of_targets
    intro a
    rw [Catalog.target?, Catalog.target?, Catalog.resolve?_ofList_perm hperm h]

end Builder

/-- A builder for a shop of the given fields. -/
def Builder.shopOf (fields : List Field) : Builder :=
  ⟨Catalog.ofList fields, Dialect.sqlite.profile, some "stock".toList⟩

/-- The goods of `Builder.shop`, the aliases in other letters and the price as one that may be
missing. -/
def Field.goods : List Field :=
  [{ column := "ti\"t]le".toList, aliasName := ['t'], type := .text,
     qualifier := some "shop.items".toList },
   { column := "price".toList, aliasName := ['P'], type := .integer, nullable := true }]

/-- A field for which the filter for lamps has no use. -/
def Field.colour : Field := { column := "colour".toList, aliasName := ['C'], type := .text }

/-- The filter for lamps and a sort text come to the same in the shop, with the aliases in other
letters, with a colour, and with the fields in another order. -/
theorem Builder.only_columns_matter_goods :
    ((shopOf Field.goods).build Instant.epoch Expression.lamps =
        (shop Dialect.sqlite.profile).build Instant.epoch Expression.lamps ∧
      (shopOf Field.goods).buildOrder "-p;+T".toList =
        (shop Dialect.sqlite.profile).buildOrder "-p;+T".toList) ∧
      SameOutputs (shopOf Field.goods) (shop Dialect.sqlite.profile) ∧
      ((shopOf (Field.goods ++ [Field.colour])).build Instant.epoch Expression.lamps =
          (shopOf Field.goods).build Instant.epoch Expression.lamps ∧
        (shopOf (Field.goods ++ [Field.colour])).buildOrder "-p;+T".toList =
          (shopOf Field.goods).buildOrder "-p;+T".toList) ∧
      SameOutputs (shopOf Field.goods.reverse) (shopOf Field.goods) := by
  obtain ⟨hbuild, hsort, hfields, hinsert, hinsertSort, hperm⟩ :=
    only_columns_matter Dialect.sqlite.profile (some "stock".toList)
  have hselectors : ∀ k ∈ Expression.lamps.constraints,
      (Catalog.ofList Field.goods).target? k.selector =
        (shop Dialect.sqlite.profile).catalog.target? k.selector := by
    rw [Expression.constraints_lamps]
    decide
  have hothers : ∀ k ∈ Expression.lamps.constraints,
      Text.lowercase k.selector ≠ Field.colour.key := by
    rw [Expression.constraints_lamps]
    decide
  exact ⟨⟨hbuild _ _ _ _ hselectors, hsort _ _ _ (by decide)⟩, hfields _ _ (by decide),
    ⟨hinsert _ _ _ _ hothers, hinsertSort _ _ _ (by decide)⟩,
    hperm _ _ (List.reverse_perm _) (by decide)⟩

end SqlFilter
