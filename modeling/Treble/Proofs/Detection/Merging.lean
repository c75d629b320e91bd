import Mathlib.Data.List.Basic
import Treble.Proofs.Detection.Manifests

/-!
# Merging manifests

What some manifests say together can be put together from what the first ones say and what the others
do: of versions and levels the first one holds, and the passthrough HALs are united. If there is but
one version and one level, the order of the manifests does not matter.

## Main definitions

* `Detection.ManifestSummary.merge` — two summaries in one
* `Detection.factsAt` — the facts of the manifests at some paths that give facts
* `Detection.ManifestSummary.IsMergeOf` — what some manifests say together
* `Detection.ManifestSummary.Merges` — how the manifests at two lists of paths are merged
* `Detection.AgreeUpToOrder` — two lists of manifests say the same in some order

## Main results

* `Detection.ManifestSummary.ofFacts_append`, `Detection.ManifestSummary.ofFiles_append` — merging is a
  homomorphism
* `Detection.ManifestSummary.merges` — the error of the first manifest that gives no facts, or the
  merged facts
* `Detection.AgreeUpToOrder.ofFacts_eq` — where the order does not matter
-/

namespace Treble.Detection

open Vintf (ManifestFacts)
open Text (NameSet)

/-- The facts of the manifests at some paths, in order, without those that give none. -/
def factsAt (files : FileSystem) (paths : List String) : List ManifestFacts :=
  paths.filterMap fun path => (ManifestFacts.ofFile files path).toOption

namespace ManifestSummary

/-- Two summaries in one. Of versions and levels that of the first one holds. -/
def merge (front back : ManifestSummary) : ManifestSummary :=
  { sepolicyVersion := front.sepolicyVersion.or back.sepolicyVersion
    targetLevel := front.targetLevel.or back.targetLevel
    passthroughHals := front.passthroughHals ∪ back.passthroughHals }

variable {files : FileSystem} {front back paths : List String} {hal : String}

@[simp] theorem merge_empty (summary : ManifestSummary) : summary.merge {} = summary := by
  simp [merge]

theorem merge_assoc (first second third : ManifestSummary) :
    (first.merge second).merge third = first.merge (second.merge third) := by
  simp [merge, Option.or_assoc, NameSet.union_assoc]

/-! ### The facts of manifests -/

theorem add_eq_merge (summary : ManifestSummary) (facts : ManifestFacts) :
    summary.add facts = summary.merge (ofFacts [facts]) := by
  simp [ofFacts, add, merge]

theorem foldl_add (manifests : List ManifestFacts) (summary : ManifestSummary) :
    manifests.foldl add summary = summary.merge (ofFacts manifests) := by
  induction manifests generalizing summary with
  | nil => exact (merge_empty summary).symm
  | cons facts rest ih =>
    have hrest : ofFacts (facts :: rest) = (ofFacts [facts]).merge (ofFacts rest) := ih _
    rw [List.foldl_cons, ih, add_eq_merge, merge_assoc, hrest]

/-- Of facts, merging is a homomorphism. -/
theorem ofFacts_append (manifests others : List ManifestFacts) :
    ofFacts (manifests ++ others) = (ofFacts manifests).merge (ofFacts others) := by
  rw [ofFacts, List.foldl_append, foldl_add others]
  rfl

theorem ofFacts_cons (facts : ManifestFacts) (rest : List ManifestFacts) :
    ofFacts (facts :: rest) = (ofFacts [facts]).merge (ofFacts rest) :=
  ofFacts_append [facts] rest

/-- The level of merged manifests is the first one that there is. -/
theorem targetLevel_ofFacts (manifests : List ManifestFacts) :
    (ofFacts manifests).targetLevel = manifests.findSome? levelOf := by
  induction manifests with
  | nil => rfl
  | cons facts rest ih =>
    have hmerge : (ofFacts (facts :: rest)).targetLevel =
        (levelOf facts).or (ofFacts rest).targetLevel := by
      rw [ofFacts_cons, merge]
      simp [ofFacts, add]
    rw [hmerge, ih, List.findSome?_cons]
    cases levelOf facts <;> rfl

/-- The passthrough HALs of merged manifests are those of all of them. -/
theorem mem_passthroughHals_ofFacts {manifests : List ManifestFacts} :
    hal ∈ (ofFacts manifests).passthroughHals ↔
      ∃ facts ∈ manifests, hal ∈ facts.passthroughHals := by
  induction manifests with
  | nil => simp [ofFacts]
  | cons facts rest ih =>
    have hmerge : (ofFacts (facts :: rest)).passthroughHals =
        facts.passthroughHals ∪ (ofFacts rest).passthroughHals := by
      rw [ofFacts_cons, merge]
      simp [ofFacts, add]
    rw [hmerge, NameSet.mem_union, ih, List.exists_mem_cons_iff]

/-- What some manifests say together: the first policy version that one of them names, the first level
that is a number, and the passthrough HALs of all of them. -/
structure IsMergeOf (summary : ManifestSummary) (manifests : List ManifestFacts) : Prop where
  sepolicyVersion : summary.sepolicyVersion = manifests.findSome? (·.sepolicyVersion)
  targetLevel : summary.targetLevel = manifests.findSome? levelOf
  passthroughHals : ∀ hal, hal ∈ summary.passthroughHals ↔
    ∃ facts ∈ manifests, hal ∈ facts.passthroughHals

theorem isMergeOf_ofFacts (manifests : List ManifestFacts) :
    (ofFacts manifests).IsMergeOf manifests :=
  ⟨sepolicyVersion_ofFacts manifests, targetLevel_ofFacts manifests,
    fun _ => mem_passthroughHals_ofFacts⟩

/-! ### The manifests at some paths -/

/-- Of the manifests at some paths, merging is a homomorphism. -/
theorem ofFiles_append (files : FileSystem) (front back : List String) :
    ofFiles files (front ++ back) =
      (ofFiles files front).bind fun summary => (ofFiles files back).map summary.merge := by
  rw [ofFiles, ofFiles, ofFiles, List.mapM_append]
  cases front.mapM (ManifestFacts.ofFile files) with
  | error error => rfl
  | ok first =>
    cases back.mapM (ManifestFacts.ofFile files) with
    | error error => rfl
    | ok second => exact congrArg Except.ok (ofFacts_append first second)

theorem ofFiles_eq_ok (scan : ∀ path ∈ paths, ∃ facts, ManifestFacts.ofFile files path = .ok facts) :
    ofFiles files paths = .ok (ofFacts (factsAt files paths)) := by
  rw [ofFiles, mapM_eq_ok scan]
  rfl

theorem ofFiles_eq_error {before after : List String} {path : String} {error : Vintf.Error}
    (scan : ∀ other ∈ before, ∃ facts, ManifestFacts.ofFile files other = .ok facts)
    (fails : ManifestFacts.ofFile files path = .error error) :
    ofFiles files (before ++ path :: after) = .error error := by
  rw [ofFiles, mapM_eq_error scan fails]
  rfl

/-- How the manifests at two lists of paths are merged. -/
structure Merges (files : FileSystem) (front back : List String) : Prop where
  /-- The manifests of both lists say what is merged of what those of each say. -/
  append : ofFiles files (front ++ back) =
    (ofFiles files front).bind fun summary => (ofFiles files back).map summary.merge
  /-- If some manifest gives no facts, the error is that of the first such one. -/
  error : ∀ before path after error, front ++ back = before ++ path :: after →
    (∀ other ∈ before, ∃ facts, ManifestFacts.ofFile files other = .ok facts) →
    ManifestFacts.ofFile files path = .error error → ofFiles files (front ++ back) = .error error
  /-- If all of them do, the facts are merged. -/
  facts : (∀ path ∈ front ++ back, ∃ facts, ManifestFacts.ofFile files path = .ok facts) →
    ∃ summary, ofFiles files (front ++ back) = .ok summary ∧
      summary.sepolicyVersion = ((factsAt files front).findSome? (·.sepolicyVersion)).or
        ((factsAt files back).findSome? (·.sepolicyVersion)) ∧
      summary.targetLevel = (factsAt files (front ++ back)).findSome? levelOf ∧
      ∀ hal, hal ∈ summary.passthroughHals ↔
        ∃ facts ∈ factsAt files (front ++ back), hal ∈ facts.passthroughHals

theorem merges (files : FileSystem) (front back : List String) : Merges files front back where
  append := ofFiles_append files front back
  error before path after error split scan fails := by
    rw [split, ofFiles_eq_error scan fails]
  facts scan := by
    refine ⟨_, ofFiles_eq_ok scan, ?_, targetLevel_ofFacts _, fun hal => ?_⟩
    · rw [sepolicyVersion_ofFacts, factsAt, List.filterMap_append, List.findSome?_append]
      rfl
    · exact mem_passthroughHals_ofFacts

end ManifestSummary

/-- What the manifests of a device say together is merged from those that are located and give facts. -/
theorem Device.isMergeOf_merged (device : Device) :
    device.merged.IsMergeOf (factsAt device.root.files device.manifests.files) :=
  ManifestSummary.isMergeOf_ofFacts _

/-! ### Where the order does not matter -/

/-- Two lists of manifests say the same in some order. -/
structure AgreeUpToOrder (manifests others : List ManifestFacts) : Prop where
  versions : (others.filterMap (·.sepolicyVersion)).Perm (manifests.filterMap (·.sepolicyVersion))
  levels : (others.filterMap levelOf).Perm (manifests.filterMap levelOf)
  passthroughHals : ∀ hal, (∃ facts ∈ others, hal ∈ facts.passthroughHals) ↔
    ∃ facts ∈ manifests, hal ∈ facts.passthroughHals

/-- What there is one of at most is the first one in any order. -/
theorem findSome?_eq_of_perm {α β : Type} {f : α → Option β} {list other : List α}
    (perm : (other.filterMap f).Perm (list.filterMap f)) (one : (list.filterMap f).length ≤ 1) :
    other.findSome? f = list.findSome? f := by
  rw [← List.head?_filterMap, ← List.head?_filterMap]
  cases h : list.filterMap f with
  | nil =>
    rw [h] at perm
    rw [List.perm_nil.mp perm]
  | cons b rest =>
    -- Nothing stands behind the first one, so there is only one order.
    rw [h] at perm one
    obtain rfl := List.length_eq_zero_iff.mp (Nat.le_zero.mp (Nat.le_of_succ_le_succ one))
    rw [List.perm_singleton.mp perm]

/-- If there is at most one version and at most one level, manifests that say the same in another order
are merged to the same. -/
theorem AgreeUpToOrder.ofFacts_eq {manifests others : List ManifestFacts}
    (agree : AgreeUpToOrder manifests others)
    (oneVersion : (manifests.filterMap (·.sepolicyVersion)).length ≤ 1)
    (oneLevel : (manifests.filterMap levelOf).length ≤ 1) :
    ManifestSummary.ofFacts others = ManifestSummary.ofFacts manifests := by
  have hversion : (ManifestSummary.ofFacts others).sepolicyVersion =
      (ManifestSummary.ofFacts manifests).sepolicyVersion := by
    rw [ManifestSummary.sepolicyVersion_ofFacts, ManifestSummary.sepolicyVersion_ofFacts,
      findSome?_eq_of_perm agree.versions oneVersion]
  have hlevel : (ManifestSummary.ofFacts others).targetLevel =
      (ManifestSummary.ofFacts manifests).targetLevel := by
    rw [ManifestSummary.targetLevel_ofFacts, ManifestSummary.targetLevel_ofFacts,
      findSome?_eq_of_perm agree.levels oneLevel]
  have hhals : (ManifestSummary.ofFacts others).passthroughHals =
      (ManifestSummary.ofFacts manifests).passthroughHals := by
    apply NameSet.ext
    intro hal
    rw [ManifestSummary.mem_passthroughHals_ofFacts, ManifestSummary.mem_passthroughHals_ofFacts,
      agree.passthroughHals]
  -- A summary is what it says of the three.
  cases hothers : ManifestSummary.ofFacts others
  cases hmanifests : ManifestSummary.ofFacts manifests
  simp_all

end Treble.Detection
