import SqlFilter.Text.Basic

/-!
# References to variables

A text may refer to a variable of the environment as `$` followed by the variable's name in braces.
The name is everything up to the first closing brace and is not empty; what does not have this form
is ordinary text.

* `Reference.read?` reads a reference at the front of a text;
* `Reference.expand` puts the values of variables in the place of the references to them, from left
  to right.  A value is not searched for references, and a reference to a variable that is not set
  stays as it is.
-/

namespace SqlFilter.Reference

/-- Reads a reference at the front of a text: the name and the text behind the closing brace. -/
def read? : Text → Option (Text × Text)
  | '$' :: '\x7b' :: rest =>
    match Text.cutFirst '\x7d' rest with
    | some (c :: name, after) => some (c :: name, after)
    | _ => none
  | _ => none

/-- A reference to a variable in writing. -/
def print (name : Text) : Text := '$' :: '\x7b' :: name ++ ['\x7d']

/-! ## Small laws -/

/-- A reference that is read is one in writing, with a name in which there is no closing brace. -/
theorem eq_print_of_read? {t name after : Text} (h : read? t = some (name, after)) :
    t = print name ++ after ∧ name ≠ [] ∧ '\x7d' ∉ name := by
  unfold read? at h
  split at h
  · split at h
    · rename_i hcut
      cases h
      obtain ⟨h1, h2⟩ := Text.cutFirst_eq_some hcut
      exact ⟨by simp [print, h1], by simp, h2⟩
    · simp at h
  · simp at h

theorem length_of_read? {t name after : Text} (h : read? t = some (name, after)) :
    after.length < t.length := by
  rw [(eq_print_of_read? h).1]
  simp [print]
  omega

/-! ## Expansion -/

/-- The text with the values of variables in the place of the references to them. -/
def expand (valueOf : Text → Option Text) (t : Text) : Text :=
  match t with
  | [] => []
  | c :: rest =>
    match _ : read? (c :: rest) with
    | some (name, after) => (valueOf name).getD (print name) ++ expand valueOf after
    | none => c :: expand valueOf rest
termination_by t.length
decreasing_by
  · exact length_of_read? (by assumption)
  · simp

end SqlFilter.Reference
