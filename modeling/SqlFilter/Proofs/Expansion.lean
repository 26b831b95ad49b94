import Mathlib.Data.List.Basic
import SqlFilter.Settings.Reference
import SqlFilter.Settings.Variables

/-!
# Expansion of references

What becomes of a text when its references to variables are expanded, said without a scanner: the
text is cut at its references from left to right, each is replaced by the value of its variable or
stays as it is, and all else is kept.

* `Reference.Opens` says that a reference stands at the front of a text, and `Reference.Outside`
  that none begins in a part of a text;
* `Reference.Cut` cuts a text at its references, each with the ordinary text in front of it.

The main statement is `Reference.expand_references`.
-/

namespace SqlFilter.Reference

/-! ## References in a text -/

/-- A name is not empty and has no closing brace. -/
def IsName (name : Text) : Prop := name ≠ [] ∧ '\x7d' ∉ name

instance decidableIsName (name : Text) : Decidable (IsName name) :=
  inferInstanceAs (Decidable (_ ∧ _))

/-- A reference stands at the front of a text. -/
def Opens (t : Text) : Prop := ∃ name after, IsName name ∧ t = print name ++ after

/-- No reference begins in `plain` where `rest` follows it. -/
def Outside (plain rest : Text) : Prop :=
  ∀ front back, plain = front ++ back → back ≠ [] → ¬ Opens (back ++ rest)

/-- A text cut at its references from left to right: the references by their names, each with the
text between the one before it and itself, and the text behind the last one. -/
inductive Cut : Text → List (Text × Text) → Text → Prop where
  /-- A text in which no reference begins. -/
  | last {tail : Text} (hplain : Outside tail []) : Cut tail [] tail
  /-- A text with its first reference behind `plain`. -/
  | next {plain name after tail : Text} {refs : List (Text × Text)}
      (hplain : Outside plain (print name ++ after)) (hname : IsName name)
      (hafter : Cut after refs tail) :
      Cut (plain ++ (print name ++ after)) ((plain, name) :: refs) tail

variable {t plain rest name after tail : Text} {refs : List (Text × Text)} {c : Char}
  {valueOf : Text → Option Text}

/-! ## Reading one reference -/

/-- References are read where they are written. -/
theorem read?_eq_some_iff :
    read? t = some (name, after) ↔ IsName name ∧ t = print name ++ after := by
  constructor
  · intro h
    obtain ⟨ht, hname⟩ := eq_print_of_read? h
    exact ⟨hname, ht⟩
  · rintro ⟨⟨hne, hbrace⟩, rfl⟩
    obtain ⟨c, more, rfl⟩ := List.exists_cons_of_ne_nil hne
    have hcut := Text.cutFirst_append hbrace after
    simp only [print, List.cons_append, List.append_assoc, List.nil_append] at hcut ⊢
    rw [read?, hcut]

theorem opens_iff : Opens t ↔ (read? t).isSome = true := by
  simp only [Option.isSome_iff_exists, Prod.exists, read?_eq_some_iff, Opens]

theorem not_opens_iff : ¬ Opens t ↔ read? t = none := by
  rw [opens_iff, Bool.not_eq_true, Option.isSome_eq_false_iff, Option.isNone_iff_eq_none]

instance decidableOpens (t : Text) : Decidable (Opens t) := decidable_of_iff' _ opens_iff

theorem opens_print (hname : IsName name) : Opens (print name ++ after) :=
  ⟨name, after, hname, rfl⟩

theorem expand_of_read? (h : read? t = some (name, after)) :
    expand valueOf t = (valueOf name).getD (print name) ++ expand valueOf after := by
  cases t with
  | nil => cases h
  | cons c t =>
      rw [expand]
      split
      · rename_i hread
        rw [h] at hread
        cases hread
        rfl
      · rename_i hread
        rw [h] at hread
        cases hread

theorem expand_of_not_opens (h : ¬ Opens (c :: t)) :
    expand valueOf (c :: t) = c :: expand valueOf t := by
  rw [expand]
  split
  · rename_i hread
    rw [not_opens_iff.1 h] at hread
    cases hread
  · rfl

/-! ## Ordinary text -/

theorem outside_nil (rest : Text) : Outside [] rest := by
  intro front back h hback
  exact absurd (List.append_eq_nil_iff.1 h.symm).2 hback

theorem outside_cons_iff :
    Outside (c :: plain) rest ↔ ¬ Opens (c :: plain ++ rest) ∧ Outside plain rest := by
  constructor
  · intro h
    refine ⟨h [] (c :: plain) rfl (by simp), ?_⟩
    intro front back hplain hback
    exact h (c :: front) back (by rw [hplain, List.cons_append]) hback
  · rintro ⟨hopens, hrest⟩ front back hplain hback
    cases front with
    | nil =>
        rw [List.nil_append] at hplain
        rwa [← hplain]
    | cons d front =>
        rw [List.cons_append, List.cons.injEq] at hplain
        exact hrest front back hplain.2 hback

instance decidableOutside (rest : Text) : ∀ plain, Decidable (Outside plain rest)
  | [] => isTrue (outside_nil rest)
  | c :: plain =>
    have := decidableOutside rest plain
    decidable_of_iff (¬ Opens (c :: plain ++ rest) ∧ Outside plain rest) outside_cons_iff.symm

/-- Ordinary text is kept. -/
theorem expand_append (h : Outside plain rest) :
    expand valueOf (plain ++ rest) = plain ++ expand valueOf rest := by
  induction plain with
  | nil => rfl
  | cons c plain ih =>
      obtain ⟨hopens, hplain⟩ := outside_cons_iff.1 h
      have hkept : expand valueOf (c :: plain ++ rest) = c :: expand valueOf (plain ++ rest) :=
        expand_of_not_opens hopens
      rw [hkept, ih hplain, List.cons_append]

theorem expand_of_outside (h : Outside plain []) : expand valueOf plain = plain := by
  have hkept : expand valueOf (plain ++ []) = plain ++ expand valueOf [] := expand_append h
  rwa [List.append_nil, expand, List.append_nil] at hkept

/-- A reference has a closing brace. -/
theorem not_opens_of_not_mem (h : '\x7d' ∉ t) : ¬ Opens t := by
  rintro ⟨name, after, -, rfl⟩
  simp [print] at h

/-- A reference ends before a text that has no closing brace. -/
theorem Opens.of_append (hrest : '\x7d' ∉ rest) (h : Opens (t ++ rest)) : Opens t := by
  obtain ⟨name, after, hname, hprint⟩ := h
  have hclosed : t ++ rest = ('$' :: '\x7b' :: name) ++ '\x7d' :: after := by
    rw [hprint, print, List.append_assoc]
    rfl
  rcases List.append_eq_append_iff.1 hclosed with ⟨more, -, hmore⟩ | ⟨more, ht, hmore⟩
  · exact absurd (by rw [hmore]; simp) hrest
  · cases more with
    | nil => exact absurd (by rw [← List.nil_append rest, ← hmore]; simp) hrest
    | cons brace more =>
        injection hmore with hbrace _
        refine ⟨name, more, hname, ?_⟩
        rw [ht, ← hbrace, print, List.append_assoc]
        rfl

/-- Two braces with nothing between them are no reference. -/
theorem not_opens_braces (rest : Text) : ¬ Opens ("$\x7b\x7d".toList ++ rest) := by
  rintro ⟨name, after, ⟨hne, hbrace⟩, h⟩
  obtain ⟨c, more, rfl⟩ := List.exists_cons_of_ne_nil hne
  -- the first character of the name would be the closing brace
  injection h with _ h
  injection h with _ h
  injection h with hc _
  exact hbrace (hc ▸ List.mem_cons_self)

/-- Two braces with nothing between them are kept wherever no reference begins before them. -/
theorem expand_braces (h : Outside plain ("$\x7b\x7d".toList ++ rest)) :
    expand valueOf (plain ++ ("$\x7b\x7d".toList ++ rest)) =
      plain ++ ("$\x7b\x7d".toList ++ expand valueOf rest) := by
  -- no reference begins at the opening brace or at the closing one either
  have hsign : ∀ d more, d ≠ '$' → ¬ Opens (d :: more) := by
    rintro d more hd ⟨name, after, -, hprint⟩
    injection hprint with hsign _
    exact hd hsign
  have hbraces : Outside "$\x7b\x7d".toList rest :=
    outside_cons_iff.2 ⟨not_opens_braces rest, outside_cons_iff.2 ⟨hsign _ _ (by decide),
      outside_cons_iff.2 ⟨hsign _ _ (by decide), outside_nil rest⟩⟩⟩
  rw [expand_append h, expand_append hbraces]

/-- Without a closing brace behind it no reference begins in a text, and none ends in what is
behind it. -/
theorem expand_append_of_not_mem (h : '\x7d' ∉ rest) (t : Text) :
    expand valueOf (t ++ rest) = expand valueOf t ++ rest := by
  fun_induction expand valueOf t with
  | case1 =>
      rw [List.nil_append]
      refine expand_of_outside ?_
      rintro front back rfl - hopens
      refine not_opens_of_not_mem ?_ hopens
      rw [List.append_nil]
      intro hback
      exact h (List.mem_append_right front hback)
  | case2 c t name after hread ih =>
      obtain ⟨hname, ht⟩ := read?_eq_some_iff.1 hread
      have hlonger : read? (c :: t ++ rest) = some (name, after ++ rest) :=
        read?_eq_some_iff.2 ⟨hname, by rw [ht, List.append_assoc]⟩
      rw [expand_of_read? hlonger, ih, List.append_assoc]
  | case3 c t hread ih =>
      have hopens : ¬ Opens (c :: t ++ rest) := fun hopens =>
        not_opens_iff.2 hread (hopens.of_append h)
      have hkept : expand valueOf (c :: t ++ rest) = c :: expand valueOf (t ++ rest) :=
        expand_of_not_opens hopens
      rw [hkept, ih, List.cons_append]

/-! ## Cuts -/

/-- The first reference of a text is found in one place only. -/
theorem outside_unique {plain' name' after' : Text} (h : Outside plain (print name ++ after))
    (h' : Outside plain' (print name' ++ after')) (hname : IsName name) (hname' : IsName name')
    (ht : plain ++ (print name ++ after) = plain' ++ (print name' ++ after')) :
    plain = plain' ∧ name = name' ∧ after = after' := by
  have hplain : plain = plain' := by
    rcases List.append_eq_append_iff.1 ht with ⟨back, hplain', hback⟩ | ⟨back, hplain, hback⟩
    · by_cases hnil : back = []
      · rw [hplain', hnil, List.append_nil]
      · exact absurd (hback ▸ opens_print hname) (h' plain back hplain' hnil)
    · by_cases hnil : back = []
      · rw [hplain, hnil, List.append_nil]
      · exact absurd (hback ▸ opens_print hname') (h plain' back hplain hnil)
  subst hplain
  have hread : read? (print name ++ after) = some (name, after) :=
    read?_eq_some_iff.2 ⟨hname, rfl⟩
  rw [List.append_cancel_left ht, read?_eq_some_iff.2 ⟨hname', rfl⟩] at hread
  cases hread
  exact ⟨rfl, rfl, rfl⟩

theorem exists_cut (t : Text) : ∃ refs tail, Cut t refs tail := by
  fun_induction expand (fun _ => none) t with
  | case1 => exact ⟨[], [], .last (outside_nil [])⟩
  | case2 c t name after hread ih =>
      obtain ⟨refs, tail, hcut⟩ := ih
      obtain ⟨hname, ht⟩ := read?_eq_some_iff.1 hread
      refine ⟨([], name) :: refs, tail, ?_⟩
      rw [ht]
      exact .next (outside_nil _) hname hcut
  | case3 c t hread ih =>
      obtain ⟨refs, tail, hcut⟩ := ih
      have hopens : ¬ Opens (c :: t) := not_opens_iff.2 hread
      cases hcut with
      | last hplain =>
          refine ⟨[], c :: t, .last (outside_cons_iff.2 ⟨?_, hplain⟩)⟩
          rwa [List.append_nil]
      | @next plain name after _ refs hplain hname hafter =>
          exact ⟨(c :: plain, name) :: refs, tail,
            .next (outside_cons_iff.2 ⟨hopens, hplain⟩) hname hafter⟩

/-- A text is cut in one way. -/
theorem Cut.unique (h : Cut t refs tail) {refs' : List (Text × Text)} {tail' : Text}
    (h' : Cut t refs' tail') : refs = refs' ∧ tail = tail' := by
  induction h generalizing refs' with
  | last hplain =>
      cases h' with
      | last => exact ⟨rfl, rfl⟩
      | @next plain name after _ refs' _ hname =>
          refine absurd ?_ (hplain plain _ rfl (by simp [print]))
          rw [List.append_nil]
          exact opens_print hname
  | @next plain name after tail refs hplain hname _ ih =>
      generalize ht : plain ++ (print name ++ after) = t at h'
      cases h' with
      | last hplain' =>
          refine absurd ?_ (hplain' plain _ ht.symm (by simp [print]))
          rw [List.append_nil]
          exact opens_print hname
      | next hplain' hname' hafter' =>
          obtain ⟨rfl, rfl, rfl⟩ := outside_unique hplain hplain' hname hname' ht
          obtain ⟨rfl, rfl⟩ := ih hafter'
          exact ⟨rfl, rfl⟩

/-- Nothing is lost by cutting a text. -/
theorem Cut.text_eq (h : Cut t refs tail) :
    refs.flatMap (fun r => r.1 ++ print r.2) ++ tail = t := by
  induction h with
  | last => rfl
  | next _ _ _ ih => rw [List.flatMap_cons, List.append_assoc, ih, List.append_assoc]

/-- References are replaced and all else is kept. -/
theorem Cut.expand_eq (h : Cut t refs tail) (valueOf : Text → Option Text) :
    expand valueOf t =
      refs.flatMap (fun r => r.1 ++ (valueOf r.2).getD (print r.2)) ++ tail := by
  induction h with
  | last hplain => exact expand_of_outside hplain
  | next hplain hname _ ih =>
      rw [expand_append hplain, expand_of_read? (read?_eq_some_iff.2 ⟨hname, rfl⟩), ih,
        List.flatMap_cons]
      simp only [List.append_assoc]

/-- **Expansion replaces the references from left to right.**  Every text is cut at its references
in exactly one way, and nothing is lost by that.  Its expansion has the values of the variables that
are set in the place of the references to them, and all else as it is; so it is the text itself if
none of them is set.  Two braces with nothing between them are kept wherever no reference begins
before them, and so is a reference that is not closed, with all that is behind it. -/
theorem expand_references (valueOf : Text → Option Text) (t : Text) :
    (∃! cut : List (Text × Text) × Text, Cut t cut.1 cut.2) ∧
      (∀ refs tail, Cut t refs tail →
        refs.flatMap (fun r => r.1 ++ print r.2) ++ tail = t ∧
        expand valueOf t =
          refs.flatMap (fun r => r.1 ++ (valueOf r.2).getD (print r.2)) ++ tail ∧
        ((∀ r ∈ refs, valueOf r.2 = none) → expand valueOf t = t)) ∧
      (∀ rest, Outside t ("$\x7b\x7d".toList ++ rest) →
        expand valueOf (t ++ ("$\x7b\x7d".toList ++ rest)) =
          t ++ ("$\x7b\x7d".toList ++ expand valueOf rest)) ∧
      ∀ rest, '\x7d' ∉ rest →
        expand valueOf (t ++ ("$\x7b".toList ++ rest)) =
          expand valueOf t ++ ("$\x7b".toList ++ rest) := by
  refine ⟨?_, ?_, fun rest h => expand_braces h, ?_⟩
  · obtain ⟨refs, tail, hcut⟩ := exists_cut t
    refine ⟨(refs, tail), hcut, ?_⟩
    rintro ⟨refs', tail'⟩ hcut'
    obtain ⟨rfl, rfl⟩ := hcut.unique hcut'
    rfl
  · intro refs tail hcut
    refine ⟨hcut.text_eq, hcut.expand_eq valueOf, ?_⟩
    intro hunset
    have hkept : ∀ r ∈ refs, r.1 ++ (valueOf r.2).getD (print r.2) = r.1 ++ print r.2 := by
      intro r hr
      rw [hunset r hr, Option.getD_none]
    rw [hcut.expand_eq, List.flatMap_congr hkept, hcut.text_eq]
  · intro rest h
    refine expand_append_of_not_mem ?_ t
    simpa using h

/-- Empty braces, a reference whose name holds the signs that open another one, a variable whose
value looks like a reference, and a reference that is not closed. -/
theorem expand_references_mixed :
    let valueOf := Variables.valueOf [("A".toList, "no".toList), ("B".toList, "$\x7bA\x7d".toList)]
    let t := "x$\x7b\x7d$\x7b$\x7bA\x7d=$\x7bB\x7d".toList
    let refs := [("x$\x7b\x7d".toList, "$\x7bA".toList), ("=".toList, "B".toList)]
    Cut t refs [] ∧ expand valueOf t = "x$\x7b\x7d$\x7b$\x7bA\x7d=$\x7bA\x7d".toList ∧
      (∀ r ∈ refs, Variables.valueOf [] r.2 = none) ∧ expand (Variables.valueOf []) t = t ∧
      Outside "x".toList ("$\x7b\x7d".toList ++ "$\x7bA\x7d".toList) ∧
      expand valueOf ("x".toList ++ ("$\x7b\x7d".toList ++ "$\x7bA\x7d".toList)) =
        "x$\x7b\x7dno".toList ∧
      '\x7d' ∉ "A".toList ∧
      expand valueOf (t ++ ("$\x7b".toList ++ "A".toList)) =
        "x$\x7b\x7d$\x7b$\x7bA\x7d=$\x7bA\x7d$\x7bA".toList := by
  intro valueOf t refs
  have hlast : Cut [] [] [] := .last (by decide)
  have hsecond : Cut ("=".toList ++ (print "B".toList ++ [])) [("=".toList, "B".toList)] [] :=
    .next (by decide) (by decide) hlast
  have hfirst : Cut ("x$\x7b\x7d".toList ++ (print "$\x7bA".toList ++
      ("=".toList ++ (print "B".toList ++ [])))) refs [] := .next (by decide) (by decide) hsecond
  have hcut : Cut t refs [] := hfirst
  have hshort : Cut ([] ++ (print "A".toList ++ [])) [([], "A".toList)] [] :=
    .next (by decide) (by decide) hlast
  have hunset : ∀ r ∈ refs, Variables.valueOf [] r.2 = none := fun _ _ => rfl
  obtain ⟨-, hset, -, hopen⟩ := expand_references valueOf t
  have hvalue : expand valueOf t = "x$\x7b\x7d$\x7b$\x7bA\x7d=$\x7bA\x7d".toList :=
    (hset refs [] hcut).2.1
  have houtside : Outside "x".toList ("$\x7b\x7d".toList ++ "$\x7bA\x7d".toList) := by decide
  refine ⟨hcut, hvalue, hunset, ((expand_references _ t).2.1 refs [] hcut).2.2 hunset, houtside,
    ?_, by decide, ?_⟩
  · rw [(expand_references valueOf _).2.2.1 _ houtside]
    exact congrArg _ (congrArg _ ((expand_references valueOf _).2.1 _ _ hshort).2.1)
  · rw [hopen "A".toList (by decide), hvalue]
    rfl

end SqlFilter.Reference
