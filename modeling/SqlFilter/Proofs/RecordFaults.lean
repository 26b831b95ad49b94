import SqlFilter.Proofs.Attributes
import SqlFilter.Proofs.LabelGrammar

/-!
# Faults of records

What is wrong with a record from which no catalog can be made.  The checks of a field stand in an
order, each with the condition under which it applies; the fault of a record is the first one of the
first field that has any.

* `RecordField.faults` lists what is wrong with a field when some aliases are taken, first things
  first, and `RecordField.registers?` is what the field registers if nothing is;
* `RecordField.KeptOut` says that a field does not take part at all;
* `Record.Accepted` says that nothing is wrong with fields behind each other.

`Record.addField_eq` is one step, and the main statement is `Record.registered_first_fault`.
-/

namespace SqlFilter

/-! ## What is wrong with a field -/

namespace RecordField

/-- What is wrong with the attributes of a field. -/
def attributeFault? (f : RecordField) : Option RecordFault :=
  match FieldOptions.ofAttributes f.attributes with
  | .error fault => some (.malformed fault)
  | .ok _ => none

/-- A field that is not skipped has a kind, but no label. -/
def kindFault? (f : RecordField) : Option RecordFault :=
  if f.options.skip = false ∧ f.options.label = none ∧ f.options.kind.isSome then
    some .kindWithoutLabel
  else none

/-- What is wrong with the label of a field that is not skipped. -/
def labelFault? (f : RecordField) : Option RecordFault :=
  f.label?.bind fun value =>
    match Label.parse f.columnName value with
    | .error error => some (.invalid error)
    | .ok _ => none

/-- A field whose label does not keep it out has no field type. -/
def typeFault? (f : RecordField) : Option RecordFault :=
  if Label.keepsOut f.label? = false ∧ f.type? = none then some f.missingType else none

/-- What is wrong with a field whatever stands before it, first things first. -/
def ownFaults (f : RecordField) : List RecordFault :=
  [f.attributeFault?, f.kindFault?, f.labelFault?, f.typeFault?].reduceOption

/-- The alias of a field whose label does not keep it out. -/
def aliasName? (f : RecordField) : Option Text :=
  if Label.keepsOut f.label? then none else f.label?.map Label.aliasPiece

/-- The lower-cased alias of a field whose label does not keep it out. -/
def key? (f : RecordField) : Option Text := f.aliasName?.map Text.lowercase

/-- The alias of a field is among those that are taken. -/
def clash? (f : RecordField) (taken : List Text) : Option RecordFault :=
  f.aliasName?.bind fun a => if Text.lowercase a ∈ taken then some (.duplicateAlias a) else none

/-- What is wrong with a field when some aliases are taken, first things first. -/
def faults (f : RecordField) (taken : List Text) : List RecordFault :=
  f.ownFaults ++ (f.clash? taken).toList

/-- What a field without faults registers, if anything. -/
def registers? (f : RecordField) : Option Field := do
  let value ← f.label?
  let label ← (Label.parse f.columnName value).toOption.join
  let type ← f.type?
  return label.toField f.columnName type f.type.infer.nullable

/-- A field is skipped, says nothing, or has a label that keeps it out. -/
def KeptOut (f : RecordField) : Prop :=
  f.options.skip = true ∨ (f.options.label = none ∧ f.options.kind = none) ∨
    ∃ value, f.options.label = some value ∧ Label.aliasPiece value = ['-']

variable {f : RecordField} {taken : List Text}

/-! ### The checks -/

theorem attributeFault?_eq_none_iff :
    f.attributeFault? = none ↔ FieldOptions.Clean f.attributes := by
  rw [← FieldOptions.exists_ofAttributes_iff, attributeFault?]
  cases FieldOptions.ofAttributes f.attributes <;> simp

/-- There is nothing wrong with a label if it is accepted or keeps the field out. -/
theorem labelFault?_eq_none_iff :
    f.labelFault? = none ↔ ∀ value ∈ f.label?, Label.aliasPiece value = ['-'] ∨
      Label.aliasPiece value ≠ [] ∧ ∀ piece ∈ Label.optionPieces value, Label.IsOption piece := by
  unfold labelFault?
  cases f.label? with
  | none => simp
  | some value =>
      have hparse : (∃ found, Label.parse f.columnName value = .ok found) ↔
          Label.aliasPiece value = ['-'] ∨ Label.aliasPiece value ≠ [] ∧
            ∀ piece ∈ Label.optionPieces value, Label.IsOption piece := by
        rw [Option.exists, Label.parse_eq_none_iff_aliasPiece, Label.exists_parse_iff]
        tauto
      simp only [Option.bind_some, Option.mem_def, Option.some.injEq, forall_eq', ← hparse]
      cases Label.parse f.columnName value <;> simp

theorem head?_ownFaults :
    f.ownFaults.head? =
      f.attributeFault?.or (f.kindFault?.or (f.labelFault?.or f.typeFault?)) := by
  rw [ownFaults, List.reduceOption, List.head?_filterMap]
  cases f.attributeFault? <;> cases f.kindFault? <;> cases f.labelFault? <;>
    cases f.typeFault? <;> rfl

theorem head?_faults : (f.faults taken).head? = f.ownFaults.head?.or (f.clash? taken) := by
  rw [faults, List.head?_append, Option.head?_toList]

theorem registers?_of_parse {value : Text} {found : Option Label} (hlabel : f.label? = some value)
    (hparse : Label.parse f.columnName value = .ok found) :
    f.registers? = found.bind fun label =>
      f.type?.map fun type => label.toField f.columnName type f.type.infer.nullable := by
  unfold registers?
  rw [hlabel]
  dsimp only [Option.bind_eq_bind, Option.bind_some]
  rw [hparse]
  cases found with
  | none => rfl
  | some label => cases f.type? <;> rfl

/-- Without a label only a kind is a fault. -/
theorem register?_of_label?_eq_none (h : f.label? = none) :
    f.register? f.options = f.kindFault?.elim (.ok none) .error := by
  unfold label? at h
  unfold register? kindFault?
  cases hskip : f.options.skip with
  | true => rfl
  | false =>
      have hlabel : f.options.label = none := by simpa [hskip] using h
      rw [hlabel]
      cases f.options.kind <;> rfl

/-- With a label a kind is no fault, and the label is read before the field type. -/
theorem register?_of_label?_eq_some {value : Text} (h : f.label? = some value) :
    f.kindFault? = none ∧ f.register? f.options =
      ((Label.parse f.columnName value).mapError RecordFault.invalid).bind fun found =>
        found.elim (.ok none) fun label =>
          f.type?.elim (.error f.missingType) fun type =>
            .ok (some (label.toField f.columnName type f.type.infer.nullable)) := by
  unfold label? at h
  unfold register? kindFault?
  cases hskip : f.options.skip with
  | true => simp [hskip] at h
  | false =>
      have hlabel : f.options.label = some value := by simpa [hskip] using h
      rw [hlabel]
      refine ⟨by simp, ?_⟩
      cases hparse : Label.parse f.columnName value with
      | error x => simp [hparse, Except.mapError, Except.bind, bind]
      | ok found =>
          cases found with
          | none => simp [hparse, Except.mapError, Except.bind, bind, pure, Except.pure]
          | some label =>
              dsimp only
              rw [hparse, fieldType_eq]
              cases f.type? <;> rfl

/-- Options that can be read are checked, and the first fault is the failure. -/
theorem register?_eq (f : RecordField) :
    f.register? f.options =
      (f.kindFault?.or (f.labelFault?.or f.typeFault?)).elim (.ok f.registers?) .error := by
  cases hlabel : f.label? with
  | none =>
      have hentry : f.registers? = none := by simp [registers?, hlabel]
      have hrest : f.labelFault?.or f.typeFault? = none := by
        simp [labelFault?, typeFault?, hlabel, Label.keepsOut]
      rw [hrest, Option.or_none, hentry]
      exact register?_of_label?_eq_none hlabel
  | some value =>
      obtain ⟨hkind, hregister⟩ := register?_of_label?_eq_some hlabel
      rw [hkind, Option.none_or, hregister]
      cases hparse : Label.parse f.columnName value with
      | error x => simp [labelFault?, hlabel, hparse, Except.mapError, Except.bind]
      | ok found =>
          have hfault : f.labelFault? = none := by simp [labelFault?, hlabel, hparse]
          rw [hfault, Option.none_or, registers?_of_parse hlabel hparse]
          unfold typeFault?
          rw [hlabel]
          cases found with
          | none =>
              rw [Label.parse_eq_none_iff.1 hparse]
              rfl
          | some label =>
              rw [Label.keepsOut_of_parse hparse]
              cases f.type? <;> rfl

/-- A field is checked, and the first fault is the failure. -/
theorem field?_eq (f : RecordField) :
    f.field? = f.ownFaults.head?.elim (.ok f.registers?) .error := by
  rw [head?_ownFaults]
  unfold field? attributeFault?
  cases hoptions : FieldOptions.ofAttributes f.attributes with
  | error fault => rfl
  | ok o =>
      have ho : o = f.options := FieldOptions.eq_summary_of_ofAttributes hoptions
      rw [ho]
      exact f.register?_eq

/-- A field without faults registers its alias. -/
theorem aliasName_registers? (h : f.ownFaults = []) :
    f.registers?.map Field.aliasName = f.aliasName? := by
  have hnone : f.ownFaults.head? = none := by rw [h, List.head?_nil]
  rw [head?_ownFaults, Option.or_eq_none_iff, Option.or_eq_none_iff, Option.or_eq_none_iff] at hnone
  obtain ⟨-, -, hlabelFault, htypeFault⟩ := hnone
  unfold aliasName?
  cases hlabel : f.label? with
  | none => simp [registers?, hlabel, Label.keepsOut]
  | some value =>
      cases hparse : Label.parse f.columnName value with
      | error x => simp [labelFault?, hlabel, hparse] at hlabelFault
      | ok found =>
          rw [registers?_of_parse hlabel hparse]
          cases found with
          | none =>
              rw [Label.parse_eq_none_iff.1 hparse]
              rfl
          | some label =>
              have hkept := Label.keepsOut_of_parse hparse
              have hname : label.aliasName = Label.aliasPiece value := by
                rw [Label.parse_eq_ofTargets hparse]
                rfl
              cases htype : f.type? with
              | none => simp [typeFault?, hlabel, hkept, htype] at htypeFault
              | some type => simp [hkept, Label.toField, hname]


theorem key_registers? (h : f.ownFaults = []) : f.registers?.map Field.key = f.key? := by
  rw [key?, ← aliasName_registers? h, Option.map_map]
  rfl

/-- A field without other faults clashes with those that are registered under its key. -/
theorem clash?_eq (h : f.ownFaults = []) (taken : List Text) :
    f.clash? taken = f.registers?.bind fun field =>
      if field.key ∈ taken then some (.duplicateAlias field.aliasName) else none := by
  rw [clash?, ← aliasName_registers? h, Option.bind_map]
  rfl

/-! ### Fields that are kept out -/

/-- The label of a field that is kept out, if it has one, keeps it out. -/
theorem KeptOut.label (h : f.KeptOut) :
    f.label? = none ∨ ∃ value, f.label? = some value ∧ Label.aliasPiece value = ['-'] := by
  unfold label?
  rcases h with hskip | ⟨hlabel, -⟩ | ⟨value, hlabel, hdash⟩
  · exact .inl (if_pos hskip)
  · exact .inl (by rw [hlabel, ite_self])
  · cases f.options.skip with
    | true => exact .inl rfl
    | false => exact .inr ⟨value, hlabel, hdash⟩

theorem KeptOut.keepsOut (h : f.KeptOut) : Label.keepsOut f.label? = true := by
  rcases h.label with hlabel | ⟨value, hlabel, hdash⟩
  · rw [hlabel]
    rfl
  · rw [hlabel]
    exact decide_eq_true hdash

theorem KeptOut.key?_eq (h : f.KeptOut) : f.key? = none := by
  rw [key?, aliasName?, if_pos h.keepsOut]
  rfl

theorem KeptOut.registers?_eq (h : f.KeptOut) : f.registers? = none := by
  rcases h.label with hlabel | ⟨value, hlabel, hdash⟩
  · simp [registers?, hlabel]
  · exact registers?_of_parse hlabel (Label.parse_eq_none_iff_aliasPiece.2 hdash)

/-- Nothing but its attributes can be wrong with a field that is kept out. -/
theorem KeptOut.faults_eq (h : f.KeptOut) (taken : List Text) :
    f.faults taken = f.attributeFault?.toList := by
  have hkind : f.kindFault? = none := by
    refine if_neg ?_
    rintro ⟨hskip, hlabel, hkind⟩
    rcases h with hskip' | ⟨-, hkind'⟩ | ⟨value, hlabel', -⟩
    · simp [hskip] at hskip'
    · simp [hkind'] at hkind
    · simp [hlabel] at hlabel'
  have hlabel : f.labelFault? = none := by
    rw [labelFault?_eq_none_iff]
    intro value hvalue
    rcases h.label with hnone | ⟨value', hlabel, hdash⟩
    · simp [hnone] at hvalue
    · rw [hlabel] at hvalue
      cases hvalue
      exact .inl hdash
  have htype : f.typeFault? = none := by simp [typeFault?, h.keepsOut]
  have hclash : f.clash? taken = none := by simp [clash?, aliasName?, h.keepsOut]
  rw [faults, ownFaults, hkind, hlabel, htype, hclash]
  cases f.attributeFault? <;> rfl

end RecordField

/-! ## What is wrong with a record -/

namespace Record

/-- Nothing is wrong with any field behind those that stand before it. -/
def Accepted (fields : List RecordField) : Prop :=
  ∀ before f after, fields = before ++ f :: after →
    f.faults (before.filterMap RecordField.key?) = []

variable {fields : List RecordField} {f : RecordField}

theorem accepted_nil : Accepted [] := by
  intro before f after h
  simp at h

theorem accepted_concat_iff :
    Accepted (fields ++ [f]) ↔
      Accepted fields ∧ f.faults (fields.filterMap RecordField.key?) = [] := by
  constructor
  · intro h
    refine ⟨?_, h fields f [] rfl⟩
    intro before g after hfields
    exact h before g (after ++ [f]) (by rw [hfields, List.append_assoc, List.cons_append])
  · rintro ⟨hfields, hf⟩ before g after h
    rcases List.eq_nil_or_concat after with rfl | ⟨after, last, rfl⟩
    · obtain ⟨rfl, hg⟩ := List.append_inj' h rfl
      cases hg
      exact hf
    · rw [List.concat_eq_append, ← List.cons_append, ← List.append_assoc] at h
      exact hfields before g after (List.append_inj' h rfl).1

/-- Fields with which nothing is wrong register their keys. -/
theorem Accepted.map_key (h : Accepted fields) :
    (fields.filterMap RecordField.registers?).map Field.key =
      fields.filterMap RecordField.key? := by
  rw [List.map_filterMap]
  refine List.filterMap_congr ?_
  intro f hf
  obtain ⟨before, after, hsplit⟩ := List.append_of_mem hf
  exact RecordField.key_registers? (List.append_eq_nil_iff.1 (h before f after hsplit)).1

/-- A field is taken in, or its first fault behind the fields before it is the failure. -/
theorem addField_eq (h : Accepted fields) (f : RecordField) :
    addField (fields.filterMap RecordField.registers?) f =
      (f.faults (fields.filterMap RecordField.key?)).head?.elim
        (.ok ((fields ++ [f]).filterMap RecordField.registers?)) .error := by
  rw [RecordField.head?_faults, List.filterMap_append]
  unfold addField
  rw [RecordField.field?_eq, h.map_key]
  cases hown : f.ownFaults with
  | cons fault rest => rfl
  | nil =>
      rw [RecordField.clash?_eq hown]
      generalize fields.filterMap RecordField.key? = taken
      cases hentry : f.registers? with
      | none => simp [hentry, bind, Except.bind, pure, Except.pure]
      | some field =>
          by_cases htaken : field.key ∈ taken
          · simp [htaken, bind, Except.bind, throw, throwThe, MonadExceptOf.throw]
          · simp [htaken, hentry, bind, Except.bind, pure, Except.pure]

/-- Fields are taken in exactly if nothing is wrong with them. -/
theorem foldlM_addField_eq_ok_iff {reached : List Field} :
    fields.foldlM addField [] = .ok reached ↔
      Accepted fields ∧ reached = fields.filterMap RecordField.registers? := by
  induction fields using List.reverseRecOn generalizing reached with
  | nil =>
      rw [List.foldlM_nil, pure_eq_ok_iff, List.filterMap_nil, and_iff_right accepted_nil, eq_comm]
  | append_singleton fields f ih =>
      rw [List.foldlM_append, bind_eq_ok_iff, accepted_concat_iff]
      simp only [List.foldlM_cons, List.foldlM_nil, bind_pure]
      constructor
      · rintro ⟨between, hbetween, hadd⟩
        obtain ⟨hfields, rfl⟩ := ih.1 hbetween
        rw [addField_eq hfields] at hadd
        cases hfaults : f.faults (fields.filterMap RecordField.key?) with
        | cons fault rest =>
            rw [hfaults] at hadd
            cases hadd
        | nil =>
            rw [hfaults] at hadd
            cases hadd
            exact ⟨⟨hfields, rfl⟩, rfl⟩
      · rintro ⟨⟨hfields, hf⟩, rfl⟩
        refine ⟨_, ih.2 ⟨hfields, rfl⟩, ?_⟩
        rw [addField_eq hfields, hf]
        rfl

/-- A field that is kept out by clean attributes leaves what is registered as it is. -/
theorem addField_of_keptOut (h : f.KeptOut) (hclean : f.attributeFault? = none)
    (registered : List Field) : addField registered f = .ok registered := by
  have hfaults : f.faults [] = [] := by rw [h.faults_eq, hclean, Option.toList_none]
  have hown : f.ownFaults = [] := (List.append_eq_nil_iff.1 hfaults).1
  unfold addField
  rw [RecordField.field?_eq, hown, h.registers?_eq]
  rfl

/-- A record fails with the first fault of the first field that has one. -/
theorem foldlM_addField_eq_error_iff {fault : RecordFault} :
    fields.foldlM addField [] = .error fault ↔
      ∃ before f after, fields = before ++ f :: after ∧ Accepted before ∧
        (f.faults (before.filterMap RecordField.key?)).head? = some fault := by
  have hstep : ∀ before f, Accepted before →
      (addField (before.filterMap RecordField.registers?) f = .error fault ↔
        (f.faults (before.filterMap RecordField.key?)).head? = some fault) := by
    intro before f hbefore
    rw [addField_eq hbefore]
    cases (f.faults (before.filterMap RecordField.key?)).head? <;> simp
  rw [foldlM_eq_error_iff]
  constructor
  · rintro ⟨before, f, after, reached, hfields, hreached, hf⟩
    obtain ⟨hbefore, rfl⟩ := foldlM_addField_eq_ok_iff.1 hreached
    exact ⟨before, f, after, hfields, hbefore, (hstep before f hbefore).1 hf⟩
  · rintro ⟨before, f, after, hfields, hbefore, hf⟩
    exact ⟨before, f, after, _, hfields, foldlM_addField_eq_ok_iff.2 ⟨hbefore, rfl⟩,
      (hstep before f hbefore).2 hf⟩

/-- Fields are not taken in exactly if something is wrong with one of them. -/
theorem exists_foldlM_addField_eq_error_iff :
    (∃ fault, fields.foldlM addField [] = .error fault) ↔
      ∃ before f after, fields = before ++ f :: after ∧
        f.faults (before.filterMap RecordField.key?) ≠ [] := by
  have hok : (∃ reached, fields.foldlM addField [] = .ok reached) ↔ Accepted fields := by
    simp [foldlM_addField_eq_ok_iff]
  have hnot : (∃ fault, fields.foldlM addField [] = .error fault) ↔ ¬ Accepted fields := by
    rw [← hok]
    cases fields.foldlM addField [] <;> simp
  rw [hnot, Accepted]
  push Not
  rfl

/-- **Which fault of a record is found.**  A record with named fields fails exactly if something is
wrong with one of its fields, and the failure is the first fault of the first such field; else it
registers what its fields register, in their order.  Attributes are faultless exactly if they are
clean, and a label exactly if it keeps its field out or has an alias and only column options behind
it.  Nothing but its attributes can be wrong with a field that is kept out, and with clean ones it
may as well not be there. -/
theorem registered_first_fault {r : Record} (h : r.shape = .named) :
    (∀ fault, r.registered = .error fault ↔
      ∃ before f after, r.fields = before ++ f :: after ∧ Accepted before ∧
        (f.faults (before.filterMap RecordField.key?)).head? = some fault) ∧
    ((∃ fault, r.registered = .error fault) ↔
      ∃ before f after, r.fields = before ++ f :: after ∧
        f.faults (before.filterMap RecordField.key?) ≠ []) ∧
    (∀ found, r.registered = .ok found ↔
      Accepted r.fields ∧ found = r.fields.filterMap RecordField.registers?) ∧
    (∀ f ∈ r.fields,
      (f.attributeFault? = none ↔ FieldOptions.Clean f.attributes) ∧
      (f.labelFault? = none ↔ ∀ value ∈ f.label?, Label.aliasPiece value = ['-'] ∨
        Label.aliasPiece value ≠ [] ∧
          ∀ piece ∈ Label.optionPieces value, Label.IsOption piece)) ∧
    ∀ before f after, r.fields = before ++ f :: after → f.KeptOut →
      (∀ taken, f.faults taken = f.attributeFault?.toList) ∧ f.registers? = none ∧ f.key? = none ∧
        (f.attributeFault? = none →
          ({ r with fields := before ++ after } : Record).registered = r.registered) := by
  have hregistered : r.registered = r.fields.foldlM addField [] := by rw [registered, h]
  rw [hregistered]
  refine ⟨fun fault => foldlM_addField_eq_error_iff, exists_foldlM_addField_eq_error_iff,
    fun found => foldlM_addField_eq_ok_iff, ?_, ?_⟩
  · intro f _
    exact ⟨RecordField.attributeFault?_eq_none_iff, RecordField.labelFault?_eq_none_iff⟩
  · intro before f after hfields hout
    refine ⟨hout.faults_eq, hout.registers?_eq, hout.key?_eq, ?_⟩
    intro hclean
    have hadd : ∀ found, addField found f = .ok found := addField_of_keptOut hout hclean
    rw [registered, h, hfields]
    simp only [List.foldlM_append, List.foldlM_cons, hadd]
    rfl

/-- A ledger: a field that is kept out, two whose aliases differ in letter case alone, and one with
a kind without a label. -/
def ledger : Record where
  shape := .named
  name := "Ledger".toList
  fields :=
    [{ name := "total".toList, type := .path "Money".toList [],
       attributes := [⟨"fiql".toList, .items [.literal (.text " - ,db:".toList)] false⟩] },
     { name := "number".toList, type := .path "u64".toList [],
       attributes := [⟨"fiql".toList, .items [.literal (.text "No".toList)] false⟩] },
     { name := "note".toList, type := .path "String".toList [],
       attributes := [⟨"fiql".toList, .items [.literal (.text "no,db:remarks".toList)] false⟩] },
     { name := "rate".toList, type := .path "f64".toList [],
       attributes := [⟨"fiql".toList,
         .items [.word "kind".toList (some (.text "float".toList))] false⟩] }]

/-- The ledger fails with the alias that is taken, with and without the field that is kept out. -/
theorem registered_first_fault_ledger :
    ledger.registered = .error (.duplicateAlias "no".toList) ∧
      ({ ledger with fields := ledger.fields.tail } : Record).registered = ledger.registered := by
  obtain ⟨hfault, -, -, -, hout⟩ := registered_first_fault (r := ledger) rfl
  have hbefore : Accepted (ledger.fields.take 2) := (foldlM_addField_eq_ok_iff.1 rfl).1
  refine ⟨(hfault _).2 ⟨_, _, _, (List.take_append_drop 2 ledger.fields).symm, hbefore, rfl⟩, ?_⟩
  exact (hout [] _ _ rfl (.inr (.inr ⟨" - ,db:".toList, rfl, by decide⟩))).2.2.2 rfl

end Record
end SqlFilter
