import Mathlib.Data.Set.Basic
import Mathlib.Order.Bounds.Defs
import Treble.Version

/-!
# The best of some tokens

Of several version tokens the greatest version counts. The tokens that spell none do not, and neither
do the order of the tokens and how often one occurs.

## Main results

* `Version.max?_congr` — the maximum of some versions hangs on which versions there are
* `Version.best_eq_some_iff` — the best of some tokens is the greatest version that one of them
  spells
* `Version.best_congr` — the best hangs on which tokens there are
* `Version.exists_le_best` — with more tokens the best is no smaller
* `Version.best_append` — the best of two lists is the greater one of their bests
-/

namespace Treble.Version

/-- The maximum of some versions is the greatest of them. -/
theorem max?_eq_some_iff {versions : List Version} {version : Version} :
    versions.max? = some version ↔ IsGreatest {v | v ∈ versions} version :=
  List.max?_eq_some_iff

/-- The maximum of some versions hangs on which versions there are. -/
theorem max?_congr {versions others : List Version} (h : ∀ v, v ∈ versions ↔ v ∈ others) :
    versions.max? = others.max? := by
  apply Option.ext
  intro version
  simp only [max?_eq_some_iff, h]

/-- The best of some tokens is the greatest version that one of them spells. -/
theorem best_eq_some_iff {tokens : List String} {version : Version} :
    best tokens = some version ↔
      IsGreatest {v | ∃ token ∈ tokens, parse token = some v} version := by
  simp only [best, max?_eq_some_iff, List.mem_filterMap]

/-- There is no best of some tokens if none of them spells a version. -/
theorem best_eq_none_iff {tokens : List String} :
    best tokens = none ↔ {v | ∃ token ∈ tokens, parse token = some v} = ∅ := by
  rw [best, List.max?_eq_none_iff, List.eq_nil_iff_forall_not_mem, Set.eq_empty_iff_forall_notMem]
  simp only [List.mem_filterMap]
  exact Iff.rfl

/-- The best of some tokens hangs on which tokens there are. -/
theorem best_congr {tokens others : List String} (h : ∀ token, token ∈ tokens ↔ token ∈ others) :
    best tokens = best others :=
  max?_congr fun version => by simp only [List.mem_filterMap, h]

/-- With more tokens the best is no smaller. -/
theorem exists_le_best {tokens others : List String} {version : Version}
    (h : ∀ token ∈ tokens, token ∈ others) (hbest : best tokens = some version) :
    ∃ greater, best others = some greater ∧ version ≤ greater := by
  obtain ⟨token, htoken, hversion⟩ := (best_eq_some_iff.mp hbest).1
  cases hothers : best others with
  | none =>
    have hempty := best_eq_none_iff.mp hothers
    have hmem : version ∈ {v | ∃ token ∈ others, parse token = some v} :=
      ⟨token, h token htoken, hversion⟩
    exact absurd hmem (hempty ▸ Set.notMem_empty version)
  | some greater =>
    have greatest := (best_eq_some_iff.mp hothers).2
    exact ⟨greater, rfl, greatest ⟨token, h token htoken, hversion⟩⟩

theorem max?_append (left right : List Version) :
    (left ++ right).max? = max left.max? right.max? := by
  induction left with
  | nil => simp
  | cons first rest ih =>
    rw [List.cons_append, List.max?_cons, List.max?_cons, ih]
    cases rest.max? with
    | none => cases right.max? <;> rfl
    | some version =>
      cases right.max? with
      | none => rfl
      | some other =>
        have hassoc : max first (max version other) = max (max first version) other :=
          (Std.Associative.assoc first version other).symm
        exact congrArg some hassoc

/-- The best of two lists of tokens is the greater one of their bests. -/
theorem best_append (tokens others : List String) :
    best (tokens ++ others) = max (best tokens) (best others) := by
  rw [best, List.filterMap_append, max?_append, best, best]

end Treble.Version
