import Mathlib.Data.List.Induction
import Mathlib.Data.List.Nodup
import SqlFilter.Catalog.Basic
import SqlFilter.Proofs.Steps

/-!
# Registration

What a catalog holds after fields have been registered in it one after another.

* `Catalog.Holds` says which keys a catalog has and in what order, and which of the fields is found
  under each; `Catalog.Holds.insert` is one registration, `Catalog.holds_ofList` any number of them;
* `Catalog.resolve?_ofList`: of all fields that an alias can mean, the last one is found;
* `Catalog.entries_ofList`: fields with different keys stay in the order in which they were
  registered, and none takes the place of another;
* `Catalog.resolve?_ofList_perm`: with different keys the order of registration does not matter.
-/

namespace SqlFilter

/-! ## Named values -/

namespace Keyed

variable {α : Type}

/-- A value under a new name comes last. -/
theorem put_of_not_mem {name : Text} {list : List (Text × α)}
    (h : name ∉ list.map (·.1)) (value : α) : put name value list = list ++ [(name, value)] := by
  induction list with
  | nil => rfl
  | cons pair rest ih =>
      obtain ⟨n, v⟩ := pair
      rw [List.map_cons, List.mem_cons, not_or] at h
      obtain ⟨hn, hrest⟩ := h
      rw [put, if_neg (Ne.symm hn), ih hrest, List.cons_append]

/-- What is in a list after a value has been put was put or was there before. -/
theorem mem_put {name : Text} {value : α} {list : List (Text × α)} {pair : Text × α}
    (h : pair ∈ put name value list) : pair = (name, value) ∨ pair ∈ list := by
  induction list with
  | nil => exact .inl (List.mem_singleton.1 h)
  | cons first rest ih =>
      obtain ⟨n, v⟩ := first
      rw [put] at h
      by_cases hn : n = name
      · rw [if_pos hn, hn] at h
        rcases List.mem_cons.1 h with h | h
        · exact .inl h
        · exact .inr (List.mem_cons_of_mem _ h)
      · rw [if_neg hn] at h
        rcases List.mem_cons.1 h with h | h
        · exact .inr (h ▸ List.mem_cons_self)
        · exact (ih h).imp_right (List.mem_cons_of_mem _)

/-- Putting a value leaves the names different. -/
theorem nodup_put {list : List (Text × α)} (h : (list.map (·.1)).Nodup) (name : Text) (value : α) :
    ((put name value list).map (·.1)).Nodup := by
  rw [keys_put]
  by_cases hmem : name ∈ list.map (·.1)
  · rw [if_pos hmem]
    exact h
  · rw [if_neg hmem, ← List.concat_eq_append]
    exact h.concat hmem

/-- Under different names the values of a list are those that are found, name by name. -/
theorem values_eq_filterMap_lookup {list : List (Text × α)} (h : (list.map (·.1)).Nodup) :
    list.map (·.2) = (list.map (·.1)).filterMap fun name => list.lookup name := by
  induction list with
  | nil => rfl
  | cons first rest ih =>
      obtain ⟨n, v⟩ := first
      rw [List.map_cons, List.nodup_cons] at h
      -- no other name is the first one, so the first pair hides none of the others
      have hrest : (rest.map (·.1)).filterMap (fun name => ((n, v) :: rest).lookup name) =
          (rest.map (·.1)).filterMap fun name => rest.lookup name := by
        refine List.filterMap_congr ?_
        intro name hname
        have hne : (name == n) = false := beq_false_of_ne fun he => h.1 (he ▸ hname)
        rw [List.lookup_cons, hne]
      have hfirst : ((n, v) :: rest).lookup n = some v := List.lookup_cons_self
      rw [List.map_cons, List.map_cons, List.filterMap_cons, hfirst, hrest, ih h.2]

end Keyed

/-! ## Catalogs after registration -/

namespace Catalog

theorem ofList_concat (fields : List Field) (f : Field) :
    ofList (fields ++ [f]) = (ofList fields).insert f := by
  rw [ofList, List.foldl_append]
  rfl

/-- The field that counts for a key: the last one that was registered under it. -/
def last? (fields : List Field) (key : Text) : Option Field :=
  fields.reverse.find? fun f => f.key = key

/-- A catalog in which fields have been registered in the given order. -/
structure Holds (c : Catalog) (fields : List Field) : Prop where
  /-- No key occurs twice. -/
  nodup : c.keys.Nodup
  /-- Every field is under its own key. -/
  key : ∀ entry ∈ c.entries, entry.1 = entry.2.key
  /-- The keys stand in the order in which they were first registered. -/
  keys : c.keys = (fields.map Field.key).eraseDups
  /-- Under every key there is the last field that was registered under it. -/
  lookup : ∀ key, c.entries.lookup key = last? fields key

theorem holds_empty : Holds empty [] where
  nodup := List.nodup_nil
  key := by simp [empty]
  keys := rfl
  lookup key := rfl

/-- One more field: its key keeps its place or comes last, and all other keys keep their fields. -/
theorem Holds.insert {c : Catalog} {fields : List Field} (h : c.Holds fields) (f : Field) :
    (c.insert f).Holds (fields ++ [f]) where
  nodup := Keyed.nodup_put h.nodup f.key f
  key := by
    intro entry hentry
    rcases Keyed.mem_put hentry with rfl | hentry
    · rfl
    · exact h.key entry hentry
  keys := by
    have hput : (c.insert f).keys = if f.key ∈ c.keys then c.keys else c.keys ++ [f.key] :=
      Keyed.keys_put f.key f c.entries
    rw [hput, h.keys, List.map_append, List.map_singleton, eraseDups_concat]
    simp only [List.mem_eraseDups]
  lookup := by
    intro key
    have hput : (c.insert f).entries.lookup key =
        if key = f.key then some f else c.entries.lookup key :=
      Keyed.lookup_put f.key key f c.entries
    rw [hput, h.lookup, last?, last?, List.reverse_append, List.reverse_singleton,
      List.singleton_append, List.find?_cons]
    by_cases hkey : key = f.key
    · simp [hkey]
    · simp [hkey, Ne.symm hkey]

theorem holds_ofList (fields : List Field) : (ofList fields).Holds fields := by
  induction fields using List.reverseRecOn with
  | nil => exact holds_empty
  | append_singleton fields f ih =>
      rw [ofList_concat]
      exact ih.insert f

section

variable {c : Catalog} {fields : List Field}

/-- There are as many fields as different keys. -/
theorem Holds.size_eq (h : c.Holds fields) :
    c.size = (fields.map Field.key).eraseDups.length := by
  rw [← h.keys, Catalog.keys, List.length_map]
  rfl

/-- An alias has the last field that was registered under its key. -/
theorem Holds.resolve?_eq (h : c.Holds fields) (a : Text) :
    c.resolve? a = last? fields (Text.lowercase a) :=
  h.lookup (Text.lowercase a)

/-- The fields are listed key by key. -/
theorem Holds.toList_eq (h : c.Holds fields) :
    c.toList = (fields.map Field.key).eraseDups.filterMap (last? fields) := by
  have hvalues : c.toList = c.keys.filterMap fun key => c.entries.lookup key :=
    Keyed.values_eq_filterMap_lookup h.nodup
  rw [hvalues, funext h.lookup, h.keys]

end

/-! ## Finding a field -/

/-- A field that has been registered is found under its aliases, and under others what was found
before. -/
theorem resolve?_insert (c : Catalog) (f : Field) (a : Text) :
    (c.insert f).resolve? a = if Text.lowercase a = f.key then some f else c.resolve? a :=
  Keyed.lookup_put f.key (Text.lowercase a) f c.entries

/-- The field of an alias is the last one that was registered under it. -/
theorem resolve?_ofList (fields : List Field) (a : Text) :
    (ofList fields).resolve? a = fields.reverse.find? fun f => f.key = Text.lowercase a :=
  (holds_ofList fields).resolve?_eq a

/-- Among fields with different keys, an alias has the one field with its key. -/
theorem resolve?_ofList_eq_some_iff {fields : List Field} (h : (fields.map Field.key).Nodup)
    (a : Text) (f : Field) :
    (ofList fields).resolve? a = some f ↔ f ∈ fields ∧ f.key = Text.lowercase a := by
  rw [resolve?_ofList]
  constructor
  · intro hf
    have hkey : f.key = Text.lowercase a := by simpa using List.find?_some hf
    exact ⟨List.mem_reverse.1 (List.mem_of_find?_eq_some hf), hkey⟩
  · rintro ⟨hf, hkey⟩
    cases hfound : fields.reverse.find? fun f => f.key = Text.lowercase a with
    | none =>
        have hnot := List.find?_eq_none.1 hfound f (List.mem_reverse.2 hf)
        exact absurd (decide_eq_true hkey) hnot
    | some g =>
        have hg : g ∈ fields := List.mem_reverse.1 (List.mem_of_find?_eq_some hfound)
        have hgkey : g.key = Text.lowercase a := by simpa using List.find?_some hfound
        rw [List.inj_on_of_nodup_map h hg hf (hgkey.trans hkey.symm)]

/-- Fields with different keys may be registered in any order. -/
theorem resolve?_ofList_perm {fields fields' : List Field} (hperm : fields.Perm fields')
    (h : (fields.map Field.key).Nodup) (a : Text) :
    (ofList fields).resolve? a = (ofList fields').resolve? a := by
  have h' : (fields'.map Field.key).Nodup := (hperm.map Field.key).nodup_iff.1 h
  apply Option.ext
  intro f
  rw [resolve?_ofList_eq_some_iff h, resolve?_ofList_eq_some_iff h', hperm.mem_iff]

/-! ## The order of fields -/

/-- Fields with new and different keys come behind those that are there, in their order. -/
theorem entries_foldl_insert :
    ∀ (fields : List Field) (c : Catalog), (c.keys ++ fields.map Field.key).Nodup →
      (fields.foldl insert c).entries = c.entries ++ fields.map fun f => (f.key, f) := by
  intro fields
  induction fields with
  | nil =>
      intro c _
      rw [List.foldl_nil, List.map_nil, List.append_nil]
  | cons f fields ih =>
      intro c h
      rw [List.map_cons, ← List.singleton_append, ← List.append_assoc] at h
      have hnew : f.key ∉ c.entries.map (·.1) := by
        have hkeys := (List.nodup_append.1 h).1
        rw [List.nodup_append] at hkeys
        intro hmem
        exact hkeys.2.2 f.key hmem f.key (List.mem_singleton_self _) rfl
      have hentries : (c.insert f).entries = c.entries ++ [(f.key, f)] :=
        Keyed.put_of_not_mem hnew f
      have hkeys : (c.insert f).keys = c.keys ++ [f.key] := by
        rw [keys, hentries, List.map_append]
        rfl
      rw [List.foldl_cons, ih (c.insert f) (by rw [hkeys]; exact h), hentries, List.map_cons,
        List.append_assoc, List.singleton_append]

/-- A catalog of fields with different keys has one entry for each, in their order. -/
theorem entries_ofList {fields : List Field} (h : (fields.map Field.key).Nodup) :
    (ofList fields).entries = fields.map fun f => (f.key, f) :=
  entries_foldl_insert fields empty h

theorem toList_ofList {fields : List Field} (h : (fields.map Field.key).Nodup) :
    (ofList fields).toList = fields := by
  rw [toList, entries_ofList h, List.map_map]
  exact List.map_id fields

end Catalog
end SqlFilter
