import Treble.Proofs.Vintf.Framework
import Treble.Proofs.Vintf.MatrixInsertion

/-!
# A policy version in a matrix

A policy version is put into a matrix as a text, in front of the last end tag, without a look at the
elements. In the canonical spelling of a tree the last end tag is that of the root, whatever elements
are in it, so that the text that comes out spells the tree with one more child of the root. This child
says nothing of what is read from a matrix.

## Main definitions

* `Vintf.sepolicyElement` — a policy version as an element
* `Vintf.matrixTree`, `Vintf.matrixText` — a tree with the root of a matrix, and its spelling

## Main results

* `Vintf.injectSepolicy_matrixText` — a policy version in the spelling of a tree
* `Vintf.parse_append_sepolicyElement` — a policy version leaves the facts of a matrix as they are
* `Vintf.injectSepolicy_refines` — the splice is the insertion of an element
-/

namespace Treble

open Text Xml

namespace Vintf

/-! ### The splice in a tree -/

/-- What a policy version says as an element: the version of the kernel's part is zero. -/
def sepolicyContent (version : Version) : Content :=
  .element "kernel-sepolicy-version" [] (.text "0" .done)
    (.element "sepolicy-version" [] (.text version.text .done) .done)

/-- A policy version as an element. -/
def sepolicyElement (version : Version) : Content :=
  .element "sepolicy" [] (sepolicyContent version) .done

theorem wellFormed_sepolicyElement (version : Version) : (sepolicyElement version).WellFormed :=
  ⟨by decide, by simp, ⟨by decide, by simp, ⟨rfl, trivial⟩, by decide, by simp, ⟨rfl, trivial⟩,
    trivial⟩, trivial⟩

theorem escapedChar_of_isDigit {c : Char} (h : c.isDigit = true) : escapedChar c = [c] := by
  unfold escapedChar
  split_ifs with hamp hlt hgt hquote hapos
  · subst hamp; cases h
  · subst hlt; cases h
  · subst hgt; cases h
  · subst hquote; cases h
  · subst hapos; cases h
  · rfl

/-- Nothing in a version in decimal is escaped. -/
theorem escaped_text (version : Version) : escaped version.text.toList = version.text.toList := by
  have hchars : ∀ c ∈ version.text.toList, escapedChar c = [c] := by
    intro c hc
    simp only [Version.text, String.toList_append, List.mem_append] at hc
    rcases hc with (hmajor | hdot) | hminor
    · exact escapedChar_of_isDigit (Decimal.isDigit_of_mem_text hmajor)
    · obtain rfl : c = '.' := by simpa using hdot
      decide
    · exact escapedChar_of_isDigit (Decimal.isDigit_of_mem_text hminor)
  rw [escaped, List.flatMap_congr hchars, List.flatMap_singleton']

/-- The block is the canonical spelling of the element. -/
theorem spelling_sepolicyElement (version : Version) :
    (sepolicyElement version).spelling = (sepolicyBlock version).toList := by
  -- Only the version is not known, so that what is in front of it and behind it is compared as texts.
  have hfront :
      "<sepolicy><kernel-sepolicy-version>0</kernel-sepolicy-version><sepolicy-version>".toList =
        (Tag.canonical "sepolicy" []).startSpelling ++
          ((Tag.canonical "kernel-sepolicy-version" []).startSpelling ++ (escaped "0".toList ++
            (endSpelling "kernel-sepolicy-version" ++
              (Tag.canonical "sepolicy-version" []).startSpelling))) := by decide
  have hback : "</sepolicy-version></sepolicy>".toList =
      endSpelling "sepolicy-version" ++ endSpelling "sepolicy" := by decide
  have hblock : sepolicyBlock version =
      "<sepolicy><kernel-sepolicy-version>0</kernel-sepolicy-version><sepolicy-version>" ++
        version.text ++ "</sepolicy-version></sepolicy>" := rfl
  rw [hblock, String.toList_append, String.toList_append, hfront, hback]
  simp only [sepolicyElement, sepolicyContent, Content.spelling, escaped_text, List.append_assoc,
    List.append_nil]

/-- A tree with the root that a matrix has. -/
def matrixTree (attributes : List (String × String)) (children : Content) : Content :=
  .element "compatibility-matrix" attributes children .done

/-- The canonical spelling of such a tree. -/
def matrixText (attributes : List (String × String)) (children : Content) : String :=
  String.ofList (matrixTree attributes children).spelling

variable {attributes : List (String × String)} {children : Content}

/-- The end tag in front of which a version goes is that of the root. -/
theorem toList_closingTag : closingTag.toList = endSpelling "compatibility-matrix" := by decide

/-- The spelling of a tree ends in the end tag of its root. -/
theorem lastCut_matrixText (attributes : List (String × String)) (children : Content) :
    LastCut closingTag.toList (matrixText attributes children).toList
      ((Tag.canonical "compatibility-matrix" attributes).startSpelling ++ children.spelling) [] := by
  have hend := LastCut.of_end closingTag.toList
    ((Tag.canonical "compatibility-matrix" attributes).startSpelling ++ children.spelling)
  rw [toList_closingTag] at hend ⊢
  simpa [matrixText, matrixTree, Content.spelling] using hend

/-- In the spelling of a tree, a policy version is the last child of the root. -/
theorem injectSepolicy_matrixText (attributes : List (String × String)) (children : Content)
    (version : Version) : injectSepolicy (matrixText attributes children) version =
      some (matrixText attributes (children.append (sepolicyElement version))) := by
  have hcut := cutLast_eq_some_iff.mpr (lastCut_matrixText attributes children)
  rw [injectSepolicy, hcut, Option.map_some, Option.some.injEq, ← String.toList_inj]
  simp [matrixText, matrixTree, Content.spelling, spelling_sepolicyElement, toList_closingTag]

/-- A policy version as an insertion behind the other children of the root. -/
def sepolicyInsertion (well : (matrixTree attributes children).WellFormed) (version : Version) :
    Insertion where
  root := "compatibility-matrix"
  rootAttributes := attributes
  place := .atEnd children
  name := "sepolicy"
  attributes := []
  children := sepolicyContent version
  wellRoot := by rwa [Place.content_atEnd]
  wellInserted := wellFormed_sepolicyElement version

/-- A policy version says nothing of what is read from a matrix. -/
theorem parse_append_sepolicyElement (well : (matrixTree attributes children).WellFormed)
    (version : Version) :
    MatrixFacts.parse (matrixText attributes (children.append (sepolicyElement version))) =
      MatrixFacts.parse (matrixText attributes children) := by
  have horiginal : (sepolicyInsertion well version).original = matrixTree attributes children :=
    congrArg (matrixTree attributes) (Place.content_atEnd children)
  have hresult : (sepolicyInsertion well version).result =
      matrixTree attributes (children.append (sepolicyElement version)) :=
    congrArg (matrixTree attributes) (Place.inserting_atEnd ..)
  have hpath : (sepolicyInsertion well version).path = ["compatibility-matrix"] :=
    Place.path_atEnd children _
  have noBlock : (sepolicyInsertion well version).inserted.Lacks "vendor-ndk" := by
    simp [Insertion.inserted, sepolicyInsertion, sepolicyContent, Content.Lacks]
  rw [matrixText, matrixText, ← horiginal, ← hresult]
  -- The root is neither a vendor NDK nor a version, so that nothing is being collected in it.
  refine MatrixFacts.parse_result_inert noBlock (.inr ?_) (.inl ?_) <;> rw [hpath] <;> decide

/-- A matrix takes a policy version iff it has an end tag, and then the version stands in front of the
last one. What comes out of the spelling of a tree spells the tree with the version as the last child
of its root, and all that is read from the matrix is as before. -/
theorem injectSepolicy_refines :
    (∀ (matrix : String) (version : Version),
      ((injectSepolicy matrix version).isSome ↔ closingTag.toList <:+: matrix.toList) ∧
      ∀ result, injectSepolicy matrix version = some result →
        ∃ place, SplicedBefore closingTag.toList (sepolicyBlock version).toList matrix.toList
          result.toList place) ∧
    ∀ (attributes : List (String × String)) (children : Content) (version : Version),
      (matrixTree attributes children).WellFormed →
      injectSepolicy (matrixText attributes children) version =
          some (matrixText attributes (children.append (sepolicyElement version))) ∧
        MatrixFacts.parse (matrixText attributes (children.append (sepolicyElement version))) =
          MatrixFacts.parse (matrixText attributes children) := by
  constructor
  · intro matrix version
    refine ⟨isSome_injectSepolicy_iff matrix version, fun result h => ?_⟩
    exact splicedBefore_injectSepolicy h
  · intro attributes children version well
    exact ⟨injectSepolicy_matrixText attributes children version,
      parse_append_sepolicyElement well version⟩

/-- A matrix that has its end tag in a text, and another matrix in it. -/
def nestedMatrix : Content :=
  .text closingTag (.element "compatibility-matrix" []
    (.element "vendor-ndk" [] (.element "version" [] (.text "33" .done) .done) .done) .done)

/-- The end tags in front of that of the root are passed over. -/
theorem injectSepolicy_refines_nested :
    ∃ result, injectSepolicy (matrixText [] nestedMatrix) ⟨30, 0⟩ = some result ∧
      MatrixFacts.parse result = .ok { vendorNdkVersion := some ⟨33, 0⟩ } ∧
      ∃ place, SplicedBefore closingTag.toList (sepolicyBlock ⟨30, 0⟩).toList
        (matrixText [] nestedMatrix).toList result.toList place := by
  have well : (matrixTree [] nestedMatrix).WellFormed := by decide
  obtain ⟨spliced, inserted⟩ := injectSepolicy_refines
  obtain ⟨hresult, hparse⟩ := inserted [] nestedMatrix ⟨30, 0⟩ well
  refine ⟨_, hresult, ?_, (spliced _ _).2 _ hresult⟩
  rw [hparse, matrixText, matrixTree, MatrixFacts.parse_spelling well]
  decide

end Vintf

end Treble
