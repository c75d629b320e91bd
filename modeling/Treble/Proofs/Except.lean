import Mathlib.Data.List.Forall2

/-!
# Results that may be errors

A list is traversed from the front, and the first error ends the traversal. So it gives a result for each
element, or the error of the first element that has one.

## Main results

* `mapError_eq_ok_iff`, `mapError_eq_error_iff` — a result whose error is renamed
* `mapM_eq_ok_iff`, `mapM_eq_error_iff` — the results of a traversal, and its error
-/

namespace Treble

variable {ε α β : Type} {f : α → Except ε β} {list : List α}

theorem eq_ok_of_toOption {result : Except ε β} {b : β} (h : result.toOption = some b) :
    result = .ok b := by
  cases result with
  | error error => cases h
  | ok c => exact congrArg Except.ok (Option.some.inj h)

/-- A renamed error is the name of an error. -/
theorem mapError_eq_error_iff {δ : Type} {result : Except ε α} {f : ε → δ} {error : δ} :
    result.mapError f = .error error ↔ ∃ cause, result = .error cause ∧ error = f cause := by
  cases result with
  | error cause =>
    have hmap : (Except.error cause : Except ε α).mapError f = .error (f cause) := rfl
    simp [hmap, eq_comm]
  | ok value =>
    have hmap : (Except.ok value : Except ε α).mapError f = .ok value := rfl
    simp [hmap]

theorem mapError_eq_ok_iff {δ : Type} {result : Except ε α} {f : ε → δ} {value : α} :
    result.mapError f = .ok value ↔ result = .ok value := by
  cases result with
  | error cause =>
    have hmap : (Except.error cause : Except ε α).mapError f = .error (f cause) := rfl
    simp [hmap]
  | ok found =>
    have hmap : (Except.ok found : Except ε α).mapError f = .ok found := rfl
    simp [hmap]

/-! ### Traversals -/

/-- A traversal that meets no error gives all results. -/
theorem mapM_eq_ok (h : ∀ a ∈ list, ∃ b, f a = .ok b) :
    list.mapM f = .ok (list.filterMap fun a => (f a).toOption) := by
  induction list with
  | nil => rfl
  | cons a rest ih =>
    obtain ⟨b, hb⟩ := h a (List.mem_cons_self ..)
    have hrest := ih fun c hc => h c (List.mem_cons_of_mem _ hc)
    simp [List.mapM_cons, hb, hrest, Except.toOption, bind, Except.bind, pure, Except.pure]

/-- A traversal that meets an error ends with the first one. -/
theorem exists_mapM_eq_error (h : ¬ ∀ a ∈ list, ∃ b, f a = .ok b) :
    ∃ before a after error, list = before ++ a :: after ∧ (∀ c ∈ before, ∃ b, f c = .ok b) ∧
      f a = .error error ∧ list.mapM f = .error error := by
  induction list with
  | nil => exact absurd (fun _ ha => absurd ha List.not_mem_nil) h
  | cons a rest ih =>
    cases ha : f a with
    | error error =>
      refine ⟨[], a, rest, error, rfl, fun _ hc => absurd hc List.not_mem_nil, ha, ?_⟩
      simp [List.mapM_cons, ha, bind, Except.bind]
    | ok b =>
      -- The first element gives no error, so that one of the others does.
      have hrest : ¬ ∀ c ∈ rest, ∃ b, f c = .ok b := by
        intro hall
        refine h fun c hc => ?_
        rcases List.mem_cons.mp hc with rfl | hc
        · exact ⟨b, ha⟩
        · exact hall c hc
      obtain ⟨before, c, after, error, rfl, hbefore, hc, hmap⟩ := ih hrest
      refine ⟨a :: before, c, after, error, rfl, ?_, hc, ?_⟩
      · intro d hd
        rcases List.mem_cons.mp hd with rfl | hd
        · exact ⟨b, ha⟩
        · exact hbefore d hd
      · simp [List.mapM_cons, ha, hmap, bind, Except.bind]

/-- The first error of a traversal is its error. -/
theorem mapM_eq_error {before after : List α} {a : α} {error : ε}
    (hbefore : ∀ c ∈ before, ∃ b, f c = .ok b) (ha : f a = .error error) :
    (before ++ a :: after).mapM f = .error error := by
  induction before with
  | nil => simp [List.mapM_cons, ha, bind, Except.bind]
  | cons c rest ih =>
    obtain ⟨b, hb⟩ := hbefore c (List.mem_cons_self ..)
    have hrest := ih fun d hd => hbefore d (List.mem_cons_of_mem _ hd)
    simp [List.mapM_cons, hb, hrest, bind, Except.bind]

/-- A traversal goes by what is made of the elements of the list. -/
theorem mapM_congr {g : α → Except ε β} (h : ∀ a ∈ list, g a = f a) : list.mapM g = list.mapM f := by
  induction list with
  | nil => rfl
  | cons a rest ih =>
    have hrest := ih fun b hb => h b (List.mem_cons_of_mem _ hb)
    rw [List.mapM_cons, List.mapM_cons, h a (List.mem_cons_self ..), hrest]


/-- A traversal gives results iff no element gives an error. -/
theorem exists_mapM_eq_ok_iff :
    (∃ results, list.mapM f = .ok results) ↔ ∀ a ∈ list, ∃ b, f a = .ok b := by
  constructor
  · rintro ⟨results, h⟩
    by_contra hnot
    obtain ⟨-, -, -, error, -, -, -, hmap⟩ := exists_mapM_eq_error hnot
    rw [h] at hmap
    cases hmap
  · exact fun h => ⟨_, mapM_eq_ok h⟩

/-- A traversal gives results iff each element gives its own, in the same order. -/
theorem mapM_eq_ok_iff {results : List β} :
    list.mapM f = .ok results ↔ List.Forall₂ (fun a b => f a = .ok b) list results := by
  constructor
  · intro h
    induction list generalizing results with
    | nil =>
      cases h
      exact .nil
    | cons a rest ih =>
      rw [List.mapM_cons] at h
      cases ha : f a with
      | error error =>
        rw [ha] at h
        cases h
      | ok b =>
        cases hrest : rest.mapM f with
        | error error =>
          rw [ha, hrest] at h
          cases h
        | ok bs =>
          rw [ha, hrest] at h
          cases h
          exact .cons ha (ih hrest)
  · intro h
    induction h with
    | nil => rfl
    | cons ha _ ih =>
      rw [List.mapM_cons, ha, ih]
      rfl

/-- A traversal ends with an error iff this is the one of the first element that gives no result. -/
theorem mapM_eq_error_iff {error : ε} :
    list.mapM f = .error error ↔ ∃ before a after, list = before ++ a :: after ∧
      (∀ c ∈ before, ∃ b, f c = .ok b) ∧ f a = .error error := by
  constructor
  · intro h
    have hnot : ¬ ∀ a ∈ list, ∃ b, f a = .ok b := by
      rw [← exists_mapM_eq_ok_iff, h]
      simp
    obtain ⟨before, a, after, found, hlist, hbefore, ha, hmap⟩ := exists_mapM_eq_error hnot
    rw [hmap] at h
    cases h
    exact ⟨before, a, after, hlist, hbefore, ha⟩
  · rintro ⟨before, a, after, rfl, hbefore, ha⟩
    exact mapM_eq_error hbefore ha

end Treble
