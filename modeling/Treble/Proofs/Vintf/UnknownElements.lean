import Treble.Proofs.Vintf.ManifestInsertion
import Treble.Proofs.Vintf.MatrixInsertion

/-!
# Elements of unknown names

An element of a name that no scan knows can be inserted anywhere in a manifest or a matrix. It changes
nothing if it holds no element that is looked for at any depth. If it does, that element counts as if
it stood in the document itself: both scans are shallow and do not ask for the path from the root.

## Main definitions

* `Vintf.MatrixScan.knownNames` — the names of the elements that the scan of a matrix looks for
* `Vintf.ManifestFacts.Absorbs` — what an element adds to the facts of a manifest
* `Vintf.MatrixFacts.Absorbs` — what an element adds to the facts of a matrix

## Main results

* `Vintf.absorbs_insertion` — what an element of an unknown name adds to the facts, in a manifest and
  in a matrix
* `Vintf.not_skipped` — elements of unknown names that change the facts
-/

namespace Treble.Vintf

open Xml (Content Place Insertion)

/-- The names of the elements that the scan of a matrix looks for. -/
def MatrixScan.knownNames : List String := ["vendor-ndk", "version"]

/-- The facts of a manifest behind an insertion. -/
structure ManifestFacts.Absorbs (insertion : Insertion) : Prop where
  /-- An element without HALs and versions of the policy is skipped. -/
  skipped : insertion.children.Lacks "hal" →
    (∀ e ∈ insertion.children.elements (some insertion.name), ¬ e.IsPolicyVersion) →
    parse (String.ofList insertion.result.spelling) =
      parse (String.ofList insertion.original.spelling)
  /-- Any other one adds what it says as a manifest of its own, unless one of its HALs comes to stand
  in another HAL, or one of its versions in another version of the policy. -/
  adds : ("hal" ∈ insertion.path → insertion.children.Lacks "hal") →
    (ManifestScan.InPolicyVersion insertion.path →
      ∀ e ∈ insertion.children.elements (some insertion.name), ¬ e.IsPolicyVersion) →
    ∃ facts own, parse (String.ofList insertion.original.spelling) = .ok facts ∧
      parse (String.ofList insertion.inserted.spelling) = .ok own ∧
      parse (String.ofList insertion.result.spelling) = .ok (facts.adding own)

/-- The facts of a matrix behind an insertion. -/
structure MatrixFacts.Absorbs (insertion : Insertion) : Prop where
  /-- Behind the first `vendor-ndk` element, every element is skipped. -/
  behind : insertion.place.Passes "vendor-ndk" →
    parse (String.ofList insertion.result.spelling) =
      parse (String.ofList insertion.original.spelling)
  /-- So is one without `vendor-ndk` elements, if it has no versions or stands in no such element. In
  a version it must not have texts or split one. -/
  skipped : insertion.children.Lacks "vendor-ndk" →
    insertion.children.Lacks "version" ∨ "vendor-ndk" ∉ insertion.path →
    ¬ MatrixScan.InVersion insertion.path ∨
      insertion.children.Blank ∧ ¬ insertion.place.Splits →
    parse (String.ofList insertion.result.spelling) =
      parse (String.ofList insertion.original.spelling)
  /-- In front of all `vendor-ndk` elements, one that has such an element says all that counts. -/
  first : ¬ insertion.place.Passes "vendor-ndk" → "vendor-ndk" ∉ insertion.path →
    ¬ insertion.children.Lacks "vendor-ndk" →
    parse (String.ofList insertion.result.spelling) =
      parse (String.ofList insertion.inserted.spelling)
  /-- Within the first `vendor-ndk` element, but in no version, one without such elements adds what it
  says in a `vendor-ndk` element of its own. -/
  adds : ¬ insertion.place.Passes "vendor-ndk" → "vendor-ndk" ∈ insertion.path →
    ¬ MatrixScan.InVersion insertion.path → insertion.children.Lacks "vendor-ndk" →
    ∃ facts own, parse (String.ofList insertion.original.spelling) = .ok facts ∧
      parse (String.ofList insertion.block.spelling) = .ok own ∧
      parse (String.ofList insertion.result.spelling) = .ok (facts.adding own)

/-- An element of an unknown name is skipped if it has no element that is looked for. If it has one,
that is taken for an element of the document itself. -/
theorem absorbs_insertion (insertion : Insertion) :
    (insertion.name ∉ ManifestScan.knownNames →
      (∀ parent ∈ insertion.parent, parent ∉ ManifestScan.textNames) →
      ManifestFacts.Absorbs insertion) ∧
    (insertion.name ∉ MatrixScan.knownNames → MatrixFacts.Absorbs insertion) := by
  constructor
  · intro unknown plain
    constructor
    case skipped =>
      intro noHals noVersions
      obtain ⟨facts, horiginal, _, hresult⟩ := ManifestFacts.parse_result insertion unknown plain
        (fun _ => noHals) (fun _ => noVersions)
      obtain ⟨hversion, hhals⟩ := ManifestScan.facts_ofElement unknown noHals noVersions
      rw [horiginal, hresult, facts.adding_of_empty hversion hhals]
    case adds =>
      intro hals versions
      obtain ⟨facts, h⟩ := ManifestFacts.parse_result insertion unknown plain hals versions
      exact ⟨facts, _, h⟩
  · intro unknown
    have noBlock : insertion.name ≠ "vendor-ndk" := (ne_of_mem_of_not_mem (by decide) unknown).symm
    have noVersion : insertion.name ≠ "version" := (ne_of_mem_of_not_mem (by decide) unknown).symm
    constructor
    case behind => exact MatrixFacts.parse_result_behind
    case skipped =>
      intro lacks versions texts
      refine MatrixFacts.parse_result_inert ⟨noBlock, lacks, trivial⟩ ?_ ?_
      · exact versions.imp_left fun h => ⟨noVersion, h, trivial⟩
      · exact texts.imp_right fun h => ⟨⟨h.1, trivial⟩, h.2⟩
    case first =>
      intro notBehind outside holds
      exact MatrixFacts.parse_result_first notBehind outside fun lacks => holds lacks.2.1
    case adds =>
      intro notBehind within quiet lacks
      exact MatrixFacts.parse_result_within notBehind within quiet ⟨noBlock, lacks, trivial⟩

/-- An element of a name with a version in it. -/
def versionIn (name : String) : Content :=
  .element name [] (.element "version" [] (.text "30.0" .done) .done) .done

/-- An element `x` of a content, inserted in an element `y` of a tree. -/
def deepInsertion (root : String) (children : Content) (isName : Xml.IsName root)
    (well : children.WellFormed) : Insertion where
  root := root
  rootAttributes := []
  place := .within "y" [] (.front .done) .done
  name := "x"
  attributes := []
  children := children
  wellRoot := ⟨isName, by simp, ⟨by decide, by simp, trivial, trivial⟩, trivial⟩
  wellInserted := ⟨by decide, by simp, well, trivial⟩

/-- A policy in an element of an unknown name. -/
def deepPolicy : Insertion := deepInsertion "manifest" (versionIn "sepolicy") (by decide) (by decide)

/-- A `vendor-ndk` element in an element of an unknown name. -/
def deepBlock : Insertion := deepInsertion "matrix" (versionIn "vendor-ndk") (by decide) (by decide)

/-- What an element of an unknown name adds is what it would say on its own. -/
theorem absorbs_insertion_deep :
    (∃ facts own : ManifestFacts,
      ManifestFacts.parse (String.ofList deepPolicy.inserted.spelling) = .ok own ∧
      own.sepolicyVersion = some ⟨30, 0⟩ ∧
      ManifestFacts.parse (String.ofList deepPolicy.result.spelling) = .ok (facts.adding own)) ∧
    MatrixFacts.parse (String.ofList deepBlock.result.spelling) =
      MatrixFacts.parse (String.ofList deepBlock.inserted.spelling) := by
  constructor
  · have absorbs := (absorbs_insertion deepPolicy).1 (by decide) (by decide)
    obtain ⟨facts, own, _, hown, hresult⟩ := absorbs.adds
      (fun within => absurd within (by decide)) (fun within => absurd within (by decide))
    have hspelled := ManifestFacts.parse_spelling deepPolicy.wellInserted
    obtain rfl := Except.ok.inj (hown.symm.trans hspelled)
    exact ⟨facts, _, hown, by decide, hresult⟩
  · have absorbs := (absorbs_insertion deepBlock).2 (by decide)
    exact absorbs.first (fun behind => behind.elim) (by decide) (by decide)

/-- An element of an unknown name is not skipped with all that it holds. -/
theorem not_skipped :
    (deepPolicy.name ∉ ManifestScan.knownNames ∧
      (∀ parent ∈ deepPolicy.parent, parent ∉ ManifestScan.textNames) ∧
      String.ofList deepPolicy.original.spelling = "<manifest><y></y></manifest>" ∧
      ManifestFacts.parse (String.ofList deepPolicy.result.spelling) ≠
        ManifestFacts.parse (String.ofList deepPolicy.original.spelling)) ∧
    (deepBlock.name ∉ MatrixScan.knownNames ∧
      (∀ parent ∈ deepBlock.parent, parent ∉ ManifestScan.textNames) ∧
      String.ofList deepBlock.original.spelling = "<matrix><y></y></matrix>" ∧
      MatrixFacts.parse (String.ofList deepBlock.result.spelling) ≠
        MatrixFacts.parse (String.ofList deepBlock.original.spelling)) := by
  refine ⟨⟨by decide, by decide, by decide, ?_⟩, ⟨by decide, by decide, by decide, ?_⟩⟩
  · have horiginal := ManifestFacts.parse_spelling deepPolicy.wellRoot
    have hresult := ManifestFacts.parse_spelling deepPolicy.wellFormed_result
    intro hsame
    exact absurd (Except.ok.inj (hresult.symm.trans (hsame.trans horiginal))) (by decide)
  · have horiginal := MatrixFacts.parse_spelling deepBlock.wellRoot
    have hresult := MatrixFacts.parse_spelling deepBlock.wellFormed_result
    intro hsame
    exact absurd (Except.ok.inj (hresult.symm.trans (hsame.trans horiginal))) (by decide)

end Treble.Vintf
