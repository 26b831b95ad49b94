import Mathlib.Data.List.Forall2

/-!
# One step after another

Laws of lists that are worked off step by step.

* `bind_eq_ok_iff` and `forM_eq_ok_iff`: steps succeed together if each of them does, and
  `bind_eq_error_iff`: they fail with the first that fails;
* `exists_foldlM_eq_ok_iff`: steps succeed one after another if each element allows it, and
  `foldlM_eq_error_iff`: they fail with the first that fails on what was reached before;
* `foldlM_summary`: what steps come to if each adds what its element says, and
  `exists_foldlM_summary_iff`: when they succeed, if what is said together must fit;
* `mapM_eq_ok_iff` and `mapM_eq_error_iff`: what is made of a list is made of each element, and the
  first element that fails decides how it fails;
* `eraseDups_concat`: an element that comes last counts only if it is new;
* `findSome?_reverse_concat` and `findSome?_reverse_congr`: of several elements that can decide on
  something, the last one that does so counts, and the others may stand anywhere.
-/

namespace SqlFilter

variable {ε α β : Type}

/-! ## Steps that can fail -/

/-- A computation in two steps succeeds if both do. -/
theorem bind_eq_ok_iff {x : Except ε α} {f : α → Except ε β} {b : β} :
    (x >>= f) = .ok b ↔ ∃ a, x = .ok a ∧ f a = .ok b := by
  cases x with
  | error e => simp [bind, Except.bind]
  | ok a => simp [bind, Except.bind]

/-- A computation in two steps fails with the first step, or with the second if the first
succeeds. -/
theorem bind_eq_error_iff {x : Except ε α} {f : α → Except ε β} {e : ε} :
    (x >>= f) = .error e ↔ x = .error e ∨ ∃ a, x = .ok a ∧ f a = .error e := by
  cases x with
  | error e => simp [bind, Except.bind]
  | ok a => simp [bind, Except.bind]

theorem pure_eq_ok_iff {a b : α} : (pure a : Except ε α) = .ok b ↔ a = b := by
  simp [pure, Except.pure]

/-- What is refused under a condition is accepted without it. -/
theorem exists_guarded_iff {refused : Prop} [Decidable refused] {e : ε} {a : α} :
    (∃ b, (if refused then .error e else .ok a : Except ε α) = .ok b) ↔ ¬ refused := by
  by_cases h : refused
  · simp [h]
  · simp [h]

theorem mapError_eq_ok_iff {ε' : Type} {x : Except ε α} {f : ε → ε'} {a : α} :
    x.mapError f = .ok a ↔ x = .ok a := by
  cases x with
  | error e =>
      constructor
      · intro h
        cases h
      · intro h
        cases h
  | ok b =>
      constructor
      · intro h
        cases h
        rfl
      · intro h
        cases h
        rfl

theorem mapError_eq_error_iff {ε' : Type} {x : Except ε α} {f : ε → ε'} {e' : ε'} :
    x.mapError f = .error e' ↔ ∃ e, x = .error e ∧ e' = f e := by
  cases x with
  | error e => simp [Except.mapError, eq_comm]
  | ok a => simp [Except.mapError]

/-- If an element decides alone whether its step succeeds, then all steps succeed together if each of
them does. -/
theorem exists_foldlM_eq_ok_iff {step : β → α → Except ε β} {accepts : α → Prop}
    (hstep : ∀ b x, (∃ b', step b x = .ok b') ↔ accepts x) (xs : List α) (b : β) :
    (∃ b', xs.foldlM step b = .ok b') ↔ ∀ x ∈ xs, accepts x := by
  induction xs generalizing b with
  | nil => simp [pure_eq_ok_iff]
  | cons x xs ih =>
      rw [List.forall_mem_cons, ← hstep b x, List.foldlM_cons]
      simp only [bind_eq_ok_iff]
      constructor
      · rintro ⟨b', next, hx, hxs⟩
        exact ⟨⟨next, hx⟩, (ih next).1 ⟨b', hxs⟩⟩
      · rintro ⟨⟨next, hx⟩, hxs⟩
        obtain ⟨b', hb'⟩ := (ih next).2 hxs
        exact ⟨b', next, hx, hb'⟩

/-- If each step extends what is summed up by what the element says, then all steps together extend
it by all that is said. -/
theorem foldlM_summary {γ : Type} {step : β → α → Except ε β} {summary : List γ → β}
    {said : α → List γ}
    (hstep : ∀ ys x b, step (summary ys) x = .ok b → b = summary (ys ++ said x)) :
    ∀ (xs : List α) (ys : List γ) (b : β), xs.foldlM step (summary ys) = .ok b →
      b = summary (ys ++ xs.flatMap said) := by
  intro xs
  induction xs with
  | nil =>
      intro ys b h
      rw [List.foldlM_nil] at h
      cases h
      rw [List.flatMap_nil, List.append_nil]
  | cons x xs ih =>
      intro ys b h
      rw [List.foldlM_cons, bind_eq_ok_iff] at h
      obtain ⟨b', hx, hxs⟩ := h
      rw [hstep ys x b' hx] at hxs
      rw [ih _ _ hxs, List.flatMap_cons, List.append_assoc]

/-- If each step extends what is summed up by what its element says, and succeeds if it accepts the
element and what is said then still fits, then all steps succeed together if all elements are
accepted and all that they say fits. -/
theorem exists_foldlM_summary_iff {γ : Type} {step : β → α → Except ε β} {summary : List γ → β}
    {said : α → List γ} {accepts : α → Prop} {fits : List γ → Prop}
    (hsaid : ∀ ys x b, step (summary ys) x = .ok b → b = summary (ys ++ said x))
    (hstep : ∀ ys x, fits ys →
      ((∃ b, step (summary ys) x = .ok b) ↔ accepts x ∧ fits (ys ++ said x)))
    (hfits : ∀ ys zs, fits (ys ++ zs) → fits ys) (xs : List α) :
    ∀ ys, fits ys → ((∃ b, xs.foldlM step (summary ys) = .ok b) ↔
      (∀ x ∈ xs, accepts x) ∧ fits (ys ++ xs.flatMap said)) := by
  induction xs with
  | nil =>
      intro ys hys
      simpa [pure_eq_ok_iff] using hys
  | cons x xs ih =>
      intro ys hys
      rw [List.foldlM_cons, List.forall_mem_cons, List.flatMap_cons, ← List.append_assoc]
      simp only [bind_eq_ok_iff]
      constructor
      · rintro ⟨b, next, hx, hxs⟩
        obtain ⟨haccepts, hnext⟩ := (hstep ys x hys).1 ⟨next, hx⟩
        rw [hsaid ys x next hx] at hxs
        obtain ⟨hall, hlast⟩ := (ih _ hnext).1 ⟨b, hxs⟩
        exact ⟨⟨haccepts, hall⟩, hlast⟩
      · rintro ⟨⟨haccepts, hall⟩, hlast⟩
        have hnext : fits (ys ++ said x) := hfits _ _ hlast
        obtain ⟨next, hx⟩ := (hstep ys x hys).2 ⟨haccepts, hnext⟩
        obtain ⟨b, hxs⟩ := (ih _ hnext).2 ⟨hall, hlast⟩
        rw [← hsaid ys x next hx] at hxs
        exact ⟨b, next, hx, hxs⟩

/-- Steps fail with the first one that fails on what the steps before it have come to. -/
theorem foldlM_eq_error_iff {step : β → α → Except ε β} {e : ε} {xs : List α} {b : β} :
    xs.foldlM step b = .error e ↔ ∃ before x after reached, xs = before ++ x :: after ∧
      before.foldlM step b = .ok reached ∧ step reached x = .error e := by
  induction xs generalizing b with
  | nil => simp [pure, Except.pure]
  | cons x xs ih =>
      rw [List.foldlM_cons, bind_eq_error_iff]
      constructor
      · rintro (hx | ⟨next, hx, hxs⟩)
        · exact ⟨[], x, xs, b, rfl, rfl, hx⟩
        · obtain ⟨before, y, after, reached, rfl, hbefore, hy⟩ := ih.1 hxs
          refine ⟨x :: before, y, after, reached, rfl, ?_, hy⟩
          rw [List.foldlM_cons, bind_eq_ok_iff]
          exact ⟨next, hx, hbefore⟩
      · rintro ⟨before, y, after, reached, hxs, hbefore, hy⟩
        cases before with
        | nil =>
            cases hxs
            cases hbefore
            exact .inl hy
        | cons first before =>
            cases hxs
            rw [List.foldlM_cons, bind_eq_ok_iff] at hbefore
            obtain ⟨next, hx, hbefore⟩ := hbefore
            exact .inr ⟨next, hx, ih.2 ⟨before, y, after, reached, rfl, hbefore, hy⟩⟩

/-- Something can be done for all elements of a list if it can be done for each. -/
theorem forM_eq_ok_iff {step : α → Except ε Unit} {xs : List α} :
    xs.forM step = .ok () ↔ ∀ x ∈ xs, step x = .ok () := by
  induction xs with
  | nil => simp [pure, Except.pure]
  | cons x xs ih =>
      rw [List.forM, bind_eq_ok_iff, List.forall_mem_cons, ← ih]
      constructor
      · rintro ⟨_, hx, hxs⟩
        exact ⟨hx, hxs⟩
      · rintro ⟨hx, hxs⟩
        exact ⟨(), hx, hxs⟩

/-! ## All or the first failure -/

section

variable {γ : Type} {f : α → Except ε β}

/-- What is made of each result can be made of all of them in the end. -/
theorem mapM_map_eq (f : α → Except ε β) (g : β → γ) (l : List α) :
    l.mapM (fun a => (f a).map g) = (l.mapM f).map (List.map g) := by
  induction l with
  | nil => rfl
  | cons a l ih =>
      rw [List.mapM_cons, List.mapM_cons, ih]
      cases f a with
      | error x => rfl
      | ok b => cases l.mapM f <;> rfl

/-- Functions that agree on the elements of a list come to the same on it. -/
theorem mapM_congr {f g : α → Except ε β} {l : List α} (h : ∀ a ∈ l, f a = g a) :
    l.mapM f = l.mapM g := by
  induction l with
  | nil => rfl
  | cons a l ih =>
      have hrest : l.mapM f = l.mapM g := ih fun x hx => h x (List.mem_cons_of_mem a hx)
      rw [List.mapM_cons, List.mapM_cons, h a (List.mem_cons_self ..), hrest]

/-- The results together are the results of each. -/
theorem mapM_eq_ok_iff {l : List α} {bs : List β} :
    l.mapM f = .ok bs ↔ List.Forall₂ (fun a b => f a = .ok b) l bs := by
  induction l generalizing bs with
  | nil => cases bs <;> simp [pure_eq_ok_iff]
  | cons a l ih =>
      rw [List.mapM_cons, bind_eq_ok_iff]
      constructor
      · rintro ⟨b, hb, h⟩
        obtain ⟨rest, hrest, h⟩ := bind_eq_ok_iff.1 h
        cases pure_eq_ok_iff.1 h
        exact .cons hb (ih.1 hrest)
      · intro h
        cases h with
        | cons hb hrest => exact ⟨_, hb, bind_eq_ok_iff.2 ⟨_, ih.2 hrest, rfl⟩⟩

/-- All succeed together if each of them does. -/
theorem exists_mapM_eq_ok_iff {l : List α} :
    (∃ bs, l.mapM f = .ok bs) ↔ ∀ a ∈ l, ∃ b, f a = .ok b := by
  induction l with
  | nil => simp [pure_eq_ok_iff]
  | cons a l ih =>
      rw [List.forall_mem_cons, ← ih, List.mapM_cons]
      simp only [bind_eq_ok_iff, pure_eq_ok_iff]
      constructor
      · rintro ⟨-, b, hb, bs, hbs, -⟩
        exact ⟨⟨b, hb⟩, bs, hbs⟩
      · rintro ⟨⟨b, hb⟩, bs, hbs⟩
        exact ⟨_, b, hb, bs, hbs, rfl⟩

/-- A failure is that of the first element that fails, whatever follows it. -/
theorem mapM_eq_error_iff {l : List α} {x : ε} :
    l.mapM f = .error x ↔ ∃ before a after, l = before ++ a :: after ∧
      (∀ c ∈ before, ∃ b, f c = .ok b) ∧ f a = .error x := by
  induction l with
  | nil => simp [pure, Except.pure]
  | cons a l ih =>
      have hcons : (a :: l).mapM f = .error x ↔
          f a = .error x ∨ (∃ b, f a = .ok b) ∧ l.mapM f = .error x := by
        rw [List.mapM_cons]
        simp [bind_eq_error_iff, pure, Except.pure]
      rw [hcons, ih]
      constructor
      · rintro (ha | ⟨ha, before, c, after, rfl, hbefore, hc⟩)
        · exact ⟨[], a, l, rfl, by simp, ha⟩
        · exact ⟨a :: before, c, after, rfl, List.forall_mem_cons.2 ⟨ha, hbefore⟩, hc⟩
      · rintro ⟨before, c, after, hl, hbefore, hc⟩
        cases before with
        | nil =>
            cases hl
            exact .inl hc
        | cons first before =>
            cases hl
            obtain ⟨ha, hrest⟩ := List.forall_mem_cons.1 hbefore
            exact .inr ⟨ha, before, c, after, rfl, hrest, hc⟩

end

/-! ## Each one once -/

/-- An element at the end of a list counts if it is new. -/
theorem eraseDups_concat [BEq α] [LawfulBEq α] (xs : List α) (x : α) :
    (xs ++ [x]).eraseDups = if x ∈ xs then xs.eraseDups else xs.eraseDups ++ [x] := by
  rw [List.eraseDups_append]
  by_cases h : x ∈ xs
  · have hnew : [x].removeAll xs = [] := by simp [List.removeAll, h]
    rw [hnew, List.eraseDups_nil, List.append_nil, if_pos h]
  · have hnew : [x].removeAll xs = [x] := by simp [List.removeAll, h]
    have hone : [x].eraseDups = [x] := by simp [List.eraseDups_cons]
    rw [hnew, hone, if_neg h]

/-! ## The last word -/

/-- The last element that decides is the one at the end, if it decides, and else one before it. -/
theorem findSome?_reverse_concat (decides : α → Option β) (xs : List α) (x : α) :
    (xs ++ [x]).reverse.findSome? decides = (decides x).or (xs.reverse.findSome? decides) := by
  rw [List.reverse_append, List.reverse_singleton, List.singleton_append, List.findSome?_cons]
  cases decides x <;> rfl

/-- Elements that do not decide may stand anywhere. -/
theorem findSome?_reverse_congr {decides : α → Option β} {xs ys : List α}
    (h : ys.filterMap decides = xs.filterMap decides) :
    ys.reverse.findSome? decides = xs.reverse.findSome? decides := by
  rw [← List.head?_filterMap, ← List.head?_filterMap, List.filterMap_reverse,
    List.filterMap_reverse, h]

end SqlFilter
