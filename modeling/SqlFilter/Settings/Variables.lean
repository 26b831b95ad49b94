import SqlFilter.Text.Basic

/-!
# Variables of the environment

The environment is a list of entries, each a name, an equals sign and a value in one text.

* `Variables.entry` is the entry of a variable;
* `Variables.valueOf` looks a name up: the value is what follows the name and an equals sign in the
  first entry that begins so.

The name that is looked up may hold an equals sign itself; then it finds a part of the value of a
variable with a shorter name.  Names without that sign find the variable of their name
(`valueOf_eq_lookup`).
-/

namespace SqlFilter.Variables

/-- The entry of a variable. -/
def entry (name value : Text) : Text := name ++ '=' :: value

/-- The value that a name stands for among the given variables. -/
def valueOf (set : List (Text × Text)) (name : Text) : Option Text :=
  set.findSome? fun v => Text.strip? (name ++ ['=']) (entry v.1 v.2)

/-! ## Small laws -/

/-- An entry begins with no other name than its own, if none holds the sign. -/
theorem strip?_entry (value : Text) {name other : Text} (hname : '=' ∉ name)
    (hother : '=' ∉ other) :
    Text.strip? (name ++ ['=']) (entry other value) =
      if name = other then some value else none := by
  induction name generalizing other with
  | nil =>
    cases other with
    | nil => simp [entry, Text.strip?]
    | cons d rest =>
      have hd : '=' ≠ d := fun e => hother (e ▸ List.mem_cons_self)
      simp [entry, Text.strip?, hd]
  | cons c name ih =>
    have hc : c ≠ '=' := fun e => hname (e ▸ List.mem_cons_self)
    cases other with
    | nil => simp [entry, Text.strip?, hc]
    | cons d rest =>
      have hrest := @ih rest (fun h => hname (List.mem_cons_of_mem c h))
        fun h => hother (List.mem_cons_of_mem d h)
      by_cases h : c = d
      · simpa [entry, Text.strip?, h] using hrest
      · simp [entry, Text.strip?, h]

/-- Where no name holds the sign, looking up compares names. -/
theorem valueOf_eq_lookup {set : List (Text × Text)} {name : Text} (hname : '=' ∉ name)
    (hset : ∀ v ∈ set, '=' ∉ v.1) : valueOf set name = set.lookup name := by
  induction set with
  | nil => rfl
  | cons v set ih =>
    obtain ⟨other, value⟩ := v
    have hfirst := strip?_entry value hname (hset (other, value) List.mem_cons_self)
    have hrest := ih fun w hw => hset w (List.mem_cons_of_mem _ hw)
    rw [valueOf] at hrest
    rw [valueOf, List.findSome?_cons, hfirst, List.lookup_cons, hrest]
    by_cases h : name = other
    · simp [h]
    · simp [h, beq_eq_false_iff_ne.2 h]

end SqlFilter.Variables
