import SqlFilter.Text.Basic

/-!
# Lists of named values

A list of pairs holds values under names, in the order in which the names were first used.
`Keyed.put` puts a value under a name; `List.lookup` finds it.

Main statements: `lookup_put` says what is found after a value has been put, `keys_put` that the
order of the names stays, and `lookup_filter` what is found after names have been taken out.
-/

namespace SqlFilter.Keyed

variable {α : Type}

/-- The list with a value put under a name: in the place of the name if it is there, and else at the
end. -/
def put (name : Text) (value : α) : List (Text × α) → List (Text × α)
  | [] => [(name, value)]
  | (n, v) :: rest => if n = name then (n, value) :: rest else (n, v) :: put name value rest

/-! ## Small laws -/

/-- The value that has been put is found, and under other names what was there before. -/
theorem lookup_put (name other : Text) (value : α) (list : List (Text × α)) :
    (put name value list).lookup other =
      if other = name then some value else list.lookup other := by
  induction list with
  | nil =>
    by_cases h : other = name
    · simp [put, h]
    · have hne : (other == name) = false := by simpa using h
      simp [put, List.lookup_cons, h, hne]
  | cons pair rest ih =>
    obtain ⟨n, v⟩ := pair
    unfold put
    by_cases hn : n = name
    · subst hn
      by_cases h : other = n
      · simp [h]
      · have hne : (other == n) = false := by simpa using h
        simp [List.lookup_cons, h, hne]
    · rw [if_neg hn]
      by_cases h : other = n
      · subst h
        simp [hn]
      · have hne : (other == n) = false := by simpa using h
        simp only [List.lookup_cons, hne]
        exact ih

/-- A name that is there keeps its place, and a new one comes last. -/
theorem keys_put (name : Text) (value : α) (list : List (Text × α)) :
    (put name value list).map (·.1) =
      if name ∈ list.map (·.1) then list.map (·.1) else list.map (·.1) ++ [name] := by
  induction list with
  | nil => simp [put]
  | cons pair rest ih =>
    obtain ⟨n, v⟩ := pair
    unfold put
    by_cases hn : n = name
    · simp [hn]
    · have hne : ¬ name = n := fun h => hn h.symm
      rw [if_neg hn, List.map_cons, ih]
      by_cases hm : name ∈ rest.map (·.1)
      · rw [if_pos hm, List.map_cons, if_pos (List.mem_cons_of_mem n hm)]
      · have hm' : name ∉ n :: rest.map (·.1) := List.not_mem_cons_of_ne_of_not_mem hne hm
        rw [if_neg hm, List.map_cons, if_neg hm']
        rfl

/-- A name that is kept has the value that it had, and one that is not kept has none. -/
theorem lookup_filter (keep : Text → Bool) (name : Text) (list : List (Text × α)) :
    (list.filter fun pair => keep pair.1).lookup name =
      if keep name then list.lookup name else none := by
  induction list with
  | nil => simp
  | cons pair rest ih =>
    obtain ⟨n, v⟩ := pair
    by_cases hname : name = n
    · subst hname
      by_cases hkeep : keep name = true
      · simp [hkeep]
      · simp [hkeep, ih]
    · have hne : (name == n) = false := by simpa using hname
      by_cases hkeep : keep n = true
      · simp [hkeep, List.lookup_cons, hne, ih]
      · simp [hkeep, List.lookup_cons, hne, ih]

end SqlFilter.Keyed
