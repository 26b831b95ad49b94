import SqlFilter.Proofs.Derivation

/-!
# Clean attributes

Which attributes of a field can be read, said by how they are written and how many labels they give.

* `AttributeItem.IsOption` and `Attribute.IsWellFormed` say how items and attributes are written;
* `FieldOptions.Clean` says that all attributes that count are well formed and give at most one
  label among them.

The main statement is `FieldOptions.exists_ofAttributes_iff`.
-/

namespace SqlFilter

/-! ## Attributes -/

/-- An item is a label, the word `skip` alone, or a kind with its name. -/
def AttributeItem.IsOption : AttributeItem → Prop
  | .literal l => ∃ s, l = .text s
  | .word w value =>
    w = "skip".toList ∧ value = none ∨ w = "kind".toList ∧ ∃ name, value = some (.text name)

/-- An attribute has parentheses, only options in them, and no comma alone. -/
def Attribute.IsWellFormed (a : Attribute) : Prop :=
  match a.form with
  | .items items comma => (∀ i ∈ items, i.IsOption) ∧ (items = [] → comma = false)
  | _ => False

namespace FieldOptions

/-- The labels among options. -/
def labels (options : List FieldOption) : List Text := options.filterMap FieldOption.label?

/-- There is no second label among options. -/
def AtMostOneLabel (options : List FieldOption) : Prop := (labels options).length ≤ 1

/-- All attributes that count are well formed, and together they give one label or none. -/
structure Clean (attributes : List Attribute) : Prop where
  /-- Each of them is well formed. -/
  wellFormed : ∀ a ∈ attributes, a.name = attributeName → a.IsWellFormed
  /-- There is at most one label. -/
  oneLabel : AtMostOneLabel (attributes.flatMap Attribute.said)

end FieldOptions

namespace FieldOption

variable {item : AttributeItem} {o : FieldOption}

/-- What is read as an option is one. -/
theorem isOption_of_ofItem (h : ofItem item = .ok o) : item.IsOption := by
  cases item with
  | literal l =>
      cases l with
      | text s => exact ⟨s, rfl⟩
      | number => cases h
  | word w value =>
      unfold ofItem at h
      dsimp only at h
      by_cases hskip : w = "skip".toList
      · rw [if_pos hskip] at h
        cases value with
        | none => exact .inl ⟨hskip, rfl⟩
        | some l => cases h
      · rw [if_neg hskip] at h
        by_cases hkind : w = "kind".toList
        · rw [if_pos hkind] at h
          cases value with
          | none => cases h
          | some l =>
              cases l with
              | text name => exact .inr ⟨hkind, name, rfl⟩
              | number => cases h
        · rw [if_neg hkind] at h
          split at h <;> cases h

/-- Every option is read. -/
theorem exists_ofItem (h : item.IsOption) : ∃ o, ofItem item = .ok o := by
  cases item with
  | literal l =>
      obtain ⟨s, rfl⟩ := h
      exact ⟨_, rfl⟩
  | word w value =>
      rcases h with ⟨rfl, rfl⟩ | ⟨rfl, name, rfl⟩
      · exact ⟨.skip, rfl⟩
      · exact ⟨.kind name, rfl⟩

end FieldOption

/-- The options of an attribute can be read exactly if it is well formed. -/
theorem Attribute.exists_options_iff {a : Attribute} :
    (∃ os, a.options = .ok os) ↔ a.IsWellFormed := by
  have hitem : ∀ item, (∃ o, FieldOption.ofItem item = .ok o) ↔ item.IsOption := fun item =>
    ⟨fun ⟨_, h⟩ => FieldOption.isOption_of_ofItem h, FieldOption.exists_ofItem⟩
  unfold options IsWellFormed
  cases a.form with
  | bare => simp
  | assigned => simp
  | items items comma =>
      cases items with
      | nil => cases comma <;> simp [pure_eq_ok_iff]
      | cons i items =>
          dsimp only
          simp only [exists_mapM_eq_ok_iff, hitem, reduceCtorEq, false_implies, and_true]

namespace FieldOptions

theorem labels_append (given more : List FieldOption) :
    labels (given ++ more) = labels given ++ labels more := List.filterMap_append ..

theorem atMostOneLabel_of_append (given more : List FieldOption)
    (h : AtMostOneLabel (given ++ more)) : AtMostOneLabel given := by
  rw [AtMostOneLabel, labels_append, List.length_append] at h
  rw [AtMostOneLabel]
  omega

/-- An option is taken in exactly if it does not make a second label. -/
theorem exists_take_iff {given : List FieldOption} (h : AtMostOneLabel given) (x : FieldOption) :
    (∃ o, (summary given).take x = .ok o) ↔ AtMostOneLabel (given ++ [x]) := by
  rw [AtMostOneLabel, labels_append, List.length_append]
  cases x with
  | label value =>
      have hlabel : (summary given).label = (labels given).head? := List.head?_filterMap.symm
      unfold take
      dsimp only
      rw [exists_guarded_iff, hlabel]
      cases hgiven : labels given with
      | nil => simp [labels, FieldOption.label?]
      | cons first rest => simp [labels, FieldOption.label?]
  | skip => exact iff_of_true ⟨_, rfl⟩ h
  | kind name => exact iff_of_true ⟨_, rfl⟩ h

/-- Options are taken in exactly if they do not make a second label. -/
theorem exists_foldlM_take_iff {given : List FieldOption} (h : AtMostOneLabel given)
    (more : List FieldOption) :
    (∃ o, more.foldlM take (summary given) = .ok o) ↔ AtMostOneLabel (given ++ more) := by
  have hstep : ∀ ys x, AtMostOneLabel ys →
      ((∃ o, (summary ys).take x = .ok o) ↔ True ∧ AtMostOneLabel (ys ++ [x])) := by
    intro ys x hys
    rw [true_and]
    exact exists_take_iff hys x
  have hfold := exists_foldlM_summary_iff summary_take hstep atMostOneLabel_of_append more given h
  simpa using hfold

/-- An attribute is taken in exactly if it is well formed, in case it counts, and does not make a
second label. -/
theorem exists_takeAttribute_iff {given : List FieldOption} (h : AtMostOneLabel given)
    (a : Attribute) :
    (∃ o, (summary given).takeAttribute a = .ok o) ↔
      (a.name = attributeName → a.IsWellFormed) ∧ AtMostOneLabel (given ++ a.said) := by
  unfold takeAttribute Attribute.said
  by_cases hname : a.name = attributeName
  · rw [if_pos hname, if_pos hname, ← Attribute.exists_options_iff]
    simp only [hname, forall_const, bind_eq_ok_iff]
    cases hoptions : a.options with
    | error fault => simp
    | ok os => simpa [Except.toOption] using exists_foldlM_take_iff h os
  · rw [if_neg hname, if_neg hname, List.append_nil]
    simp [hname, h]

/-- **The options of a field can be read exactly if its attributes are clean.** -/
theorem exists_ofAttributes_iff {attributes : List Attribute} :
    (∃ o, ofAttributes attributes = .ok o) ↔ Clean attributes := by
  have hfold := exists_foldlM_summary_iff summary_takeAttribute
    (fun ys a hys => exists_takeAttribute_iff hys a) atMostOneLabel_of_append attributes []
    (Nat.zero_le 1)
  exact hfold.trans ⟨fun h => ⟨h.1, h.2⟩, fun h => ⟨h.wellFormed, h.oneLabel⟩⟩

end FieldOptions

end SqlFilter
