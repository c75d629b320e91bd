import Mathlib.Order.MinMax
import Mathlib.Order.Nat
import Treble.Detection.Compliance

/-!
# The compliance of some passthrough HALs

Each HAL is rated for itself, and some HALs comply as the worst of them does. For the eight HALs that must
not stay are HALs of the platform and none of those that may always stay, so that the two questions asked of
a set of HALs never contradict each other.

## Main definitions

* `Detection.Compliance.rank` — the order of the classes, from full compliance down
* `Detection.IsExempt` — the HALs that never count
* `Detection.rating` — the class of a device that has a single HAL
* `Text.NameSet.filter` — the names of a set that are kept

## Main results

* `Detection.compliance_le_iff` — the class of some HALs is their worst rating
* `Detection.compliance_union`, `Detection.compliance_mono` — of two sets the worse class holds, and more
  HALs have a worse class
* `Detection.compliance_eq_none_iff` — when there is no compliance
* `Detection.compliance_filter` — HALs that never count may be left out
-/

namespace Treble

namespace Text.NameSet

/-- The names of a set that are kept. -/
def filter (set : NameSet) (keep : String → Bool) : NameSet :=
  ⟨set.toList.filter keep, set.ascending.filter keep⟩

@[simp] theorem mem_filter {set : NameSet} {keep : String → Bool} {name : String} :
    name ∈ set.filter keep ↔ name ∈ set ∧ keep name = true := List.mem_filter

end Text.NameSet

namespace Detection

open Text (NameSet)

namespace Compliance

/-- How far a class is from full compliance. -/
def rank : Compliance → Nat
  | .full => 0
  | .upgrade => 1
  | .none => 2

theorem rank_injective : Function.Injective rank := by
  intro left right same
  cases left <;> cases right <;> first | rfl | cases same

/-- Full compliance is the least class and no compliance the greatest, so that the worse of two classes is
the greater one. -/
instance : LinearOrder Compliance := LinearOrder.lift' rank rank_injective

theorem le_full_iff {of : Compliance} : of ≤ .full ↔ of = .full := by
  cases of <;> decide

theorem le_upgrade_iff {of : Compliance} : of ≤ .upgrade ↔ of ≠ .none := by
  cases of <;> decide

theorem full_le (of : Compliance) : .full ≤ of := by
  cases of <;> decide

theorem le_none (of : Compliance) : of ≤ .none := by
  cases of <;> decide

end Compliance

variable {hals others : NameSet} {name : String} {limit : Compliance}

/-! ### Single HALs -/

/-- A HAL that never counts: it is no HAL of the platform, or one of those that may always stay. -/
def IsExempt (name : String) : Prop :=
  ¬ "android.".toList <+: name.toList ∨ name ∈ allowedPassthroughs

instance (name : String) : Decidable (IsExempt name) := inferInstanceAs (Decidable (_ ∨ _))

/-- The class of a device whose only passthrough HAL is this one. -/
def rating (name : String) : Compliance :=
  if name ∈ requiredBinderized then .none else if IsExempt name then .full else .upgrade

/-- HALs that must not stay count. -/
theorem not_isExempt_of_mem (required : name ∈ requiredBinderized) : ¬ IsExempt name := by
  have apart : ∀ name ∈ requiredBinderized, ¬ IsExempt name := by decide
  exact apart name required

theorem isDisallowed_iff : isDisallowed name = true ↔ ¬ IsExempt name := by
  simp [isDisallowed, isPlatformHal, IsExempt]

theorem isForbidden_iff : isForbidden name = true ↔ name ∈ requiredBinderized := by
  have platform : ∀ name ∈ requiredBinderized, isPlatformHal name = true := by decide
  rw [isForbidden, Bool.and_eq_true, List.contains_iff_mem, and_iff_right_of_imp (platform name)]

theorem rating_le_full_iff : rating name ≤ .full ↔ IsExempt name := by
  unfold rating
  split_ifs with required exempt
  · exact iff_of_false (by decide) (not_isExempt_of_mem required)
  · exact iff_of_true le_rfl exempt
  · exact iff_of_false (by decide) exempt

theorem rating_le_upgrade_iff : rating name ≤ .upgrade ↔ name ∉ requiredBinderized := by
  unfold rating
  split_ifs with required exempt
  · exact iff_of_false (by decide) (not_not.mpr required)
  · exact iff_of_true (by decide) required
  · exact iff_of_true le_rfl required

/-! ### Sets of HALs -/

theorem any_isDisallowed_iff :
    hals.toList.any isDisallowed = true ↔ ∃ name ∈ hals, ¬ IsExempt name := by
  simp only [List.any_eq_true, isDisallowed_iff, NameSet.mem_iff]

theorem any_isForbidden_iff :
    hals.toList.any isForbidden = true ↔ ∃ name ∈ hals, name ∈ requiredBinderized := by
  simp only [List.any_eq_true, isForbidden_iff, NameSet.mem_iff]

/-- A device fully complies iff none of its HALs counts. -/
theorem compliance_eq_full_iff : compliance hals = .full ↔ ∀ name ∈ hals, IsExempt name := by
  have counts : (∀ name ∈ hals, IsExempt name) ↔ ¬ hals.toList.any isDisallowed = true := by
    rw [any_isDisallowed_iff]
    push Not
    rfl
  rw [counts, compliance]
  cases hals.toList.any isDisallowed <;> cases hals.toList.any isForbidden <;> decide

/-- There is no compliance iff there is a HAL that must not stay. -/
theorem compliance_eq_none_iff :
    compliance hals = .none ↔ ∃ name ∈ hals, name ∈ requiredBinderized := by
  rw [← any_isForbidden_iff, compliance]
  -- A HAL that must not stay would be found by the first question already.
  have forbidden : hals.toList.any isForbidden = true → hals.toList.any isDisallowed = true := by
    rw [any_isForbidden_iff, any_isDisallowed_iff]
    rintro ⟨name, mem, required⟩
    exact ⟨name, mem, not_isExempt_of_mem required⟩
  revert forbidden
  cases hals.toList.any isDisallowed <;> cases hals.toList.any isForbidden <;> decide

/-- The class of some HALs is their worst rating. -/
theorem compliance_le_iff : compliance hals ≤ limit ↔ ∀ name ∈ hals, rating name ≤ limit := by
  cases limit with
  | full =>
    rw [Compliance.le_full_iff, compliance_eq_full_iff]
    simp only [rating_le_full_iff]
  | upgrade =>
    rw [Compliance.le_upgrade_iff, ne_eq, compliance_eq_none_iff]
    simp only [rating_le_upgrade_iff]
    push Not
    rfl
  | none => simp only [Compliance.le_none, implies_true]

/-- Of two sets the worse class holds. -/
theorem compliance_union (hals others : NameSet) :
    compliance (hals ∪ others) = max (compliance hals) (compliance others) := by
  refine eq_of_forall_ge_iff fun limit => ?_
  simp only [max_le_iff, compliance_le_iff, NameSet.mem_union, or_imp, forall_and]

/-- More HALs have a worse class, or the same. -/
theorem compliance_mono (more : ∀ name ∈ hals, name ∈ others) :
    compliance hals ≤ compliance others :=
  compliance_le_iff.mpr fun name mem => compliance_le_iff.mp le_rfl name (more name mem)

/-- HALs that never count may be left out. -/
theorem compliance_filter {keep : String → Bool} (exempt : ∀ name, keep name = false → IsExempt name) :
    compliance (hals.filter keep) = compliance hals := by
  refine eq_of_forall_ge_iff fun limit => ?_
  rw [compliance_le_iff, compliance_le_iff]
  refine forall_congr' fun name => ?_
  rw [NameSet.mem_filter]
  cases kept : keep name with
  | true => simp
  | false =>
    -- What is left out is rated best.
    have best : rating name ≤ limit :=
      (rating_le_full_iff.mpr (exempt name kept)).trans (Compliance.full_le limit)
    simp [best]

end Detection

end Treble
