import Treble.Proofs.Text.Cutting
import Treble.Vintf.Framework

/-!
# Framework matrices take every policy version

A policy version goes in front of the last end tag of a matrix. Each bundled matrix has such a tag,
so each of them can be put to the engine, whatever the version.

## Main definitions

* `Vintf.SplicedBefore` — a block stands in front of the last occurrence of a tag

## Main results

* `Vintf.splicedBefore_injectSepolicy` — a policy version in the text of a matrix
* `Vintf.FrameworkMatrix.splicedBefore_withSepolicy` — the text of a matrix with a policy version in it
* `Vintf.FrameworkMatrix.exists_withSepolicy` — a bundled matrix takes every version
-/

namespace Treble.Vintf

open Text

/-- A matrix takes a version iff it has an end tag. -/
theorem isSome_injectSepolicy_iff (matrix : String) (version : Version) :
    (injectSepolicy matrix version).isSome ↔ closingTag.toList <:+: matrix.toList := by
  rw [injectSepolicy, Option.isSome_map, Option.isSome_iff_ne_none, ne_eq, cutLast_eq_none_iff,
    not_not]

/-! ### The splice in a text -/

/-- A block stands in front of the last occurrence of a tag. All else is kept, so that the text comes
back when the block is taken out. -/
structure SplicedBefore (tag block text result : List Char) (place : Nat) : Prop where
  occurs : ∃ after, text.drop place = tag ++ after
  last : ∀ front back, text = front ++ tag ++ back → front.length ≤ place
  inserted : result = text.take place ++ block ++ text.drop place
  restored : result.take place ++ result.drop (place + block.length) = text

theorem splicedBefore_of_lastCut {tag text before after : List Char}
    (cut : LastCut tag text before after) (block : List Char) :
    SplicedBefore tag block text (before ++ block ++ tag ++ after) before.length := by
  have htext : text = before ++ (tag ++ after) := by rw [cut.split, List.append_assoc]
  have hresult : before ++ block ++ tag ++ after = (before ++ block) ++ (tag ++ after) := by
    rw [List.append_assoc]
  refine ⟨⟨after, ?_⟩, cut.last, ?_, ?_⟩
  · rw [htext, List.drop_left]
  · rw [htext, List.take_left, List.drop_left, hresult]
  · rw [hresult, ← List.length_append, List.drop_left, List.append_assoc, List.take_left, htext]

/-- A policy version stands in front of the last end tag of a matrix. -/
theorem splicedBefore_injectSepolicy {matrix result : String} {version : Version}
    (h : injectSepolicy matrix version = some result) :
    ∃ place, SplicedBefore closingTag.toList (sepolicyBlock version).toList matrix.toList
      result.toList place := by
  obtain ⟨⟨before, after⟩, hcut, rfl⟩ := Option.map_eq_some_iff.mp h
  have spliced := splicedBefore_of_lastCut (cutLast_eq_some_iff.mp hcut) (sepolicyBlock version).toList
  exact ⟨before.length, by simpa using spliced⟩

/-- The block of a version is an element for the kernel's part, which has no version, and one with the
two numbers in decimal. -/
theorem sepolicyBlock_eq (version : Version) : sepolicyBlock version =
    "<sepolicy><kernel-sepolicy-version>0</kernel-sepolicy-version><sepolicy-version>" ++
      toString version.major.toNat ++ "." ++ toString version.minor.toNat ++
      "</sepolicy-version></sepolicy>" := by
  have htext :
      version.text = toString version.major.toNat ++ "." ++ toString version.minor.toNat := rfl
  have hparts (front back : String) : front ++ version.text ++ back =
      front ++ toString version.major.toNat ++ "." ++ toString version.minor.toNat ++ back := by
    rw [htext, ← String.append_assoc, ← String.append_assoc]
  exact hparts _ _

/-! ### The bundled matrices -/

namespace FrameworkMatrix

theorem withSepolicy_eq_ok_iff {matrix : FrameworkMatrix} {version : Version} {text : String} :
    matrix.withSepolicy version = .ok text ↔ injectSepolicy matrix.content version = some text := by
  unfold withSepolicy
  cases injectSepolicy matrix.content version <;> simp

/-- In a matrix with a policy version all else is as it was, and the version stands in front of the last
end tag. -/
theorem splicedBefore_withSepolicy {matrix : FrameworkMatrix} {version : Version} {text : String}
    (h : matrix.withSepolicy version = .ok text) :
    ∃ place, SplicedBefore "</compatibility-matrix>".toList
      ("<sepolicy><kernel-sepolicy-version>0</kernel-sepolicy-version><sepolicy-version>" ++
        toString version.major.toNat ++ "." ++ toString version.minor.toNat ++
        "</sepolicy-version></sepolicy>").toList
      matrix.content.toList text.toList place := by
  rw [← sepolicyBlock_eq]
  exact splicedBefore_injectSepolicy (withSepolicy_eq_ok_iff.mp h)

/-- A matrix that is written out of its requirements ends in an end tag and a line feed. -/
theorem exists_content_ofHals (level : Nat) (label : String) (hals : List HalRequirement) :
    ∃ front, (ofHals level label hals).content = front ++ closingTag ++ "\n" :=
  ⟨_, rfl⟩

theorem closingTag_infix_content (level : Nat) (label : String) (hals : List HalRequirement) :
    closingTag.toList <:+: (ofHals level label hals).content.toList := by
  obtain ⟨front, hfront⟩ := exists_content_ofHals level label hals
  refine ⟨front.toList, "\n".toList, ?_⟩
  rw [hfront, String.toList_append, String.toList_append]

/-- Each bundled matrix is written out of its requirements. -/
theorem exists_ofHals {matrix : FrameworkMatrix} (member : matrix ∈ bundled) :
    ∃ level label hals, matrix = ofHals level label hals := by
  -- The matrices are told apart by their data only, none of which is looked at.
  simp only [bundled, List.mem_cons, List.not_mem_nil, or_false] at member
  rcases member with rfl | rfl | rfl | rfl | rfl | rfl | rfl | rfl <;> exact ⟨_, _, _, rfl⟩

/-- A bundled matrix takes every version. -/
theorem exists_withSepolicy {matrix : FrameworkMatrix} (member : matrix ∈ bundled)
    (version : Version) : ∃ text, matrix.withSepolicy version = .ok text := by
  obtain ⟨level, label, hals, rfl⟩ := exists_ofHals member
  have hsome := (isSome_injectSepolicy_iff _ version).mpr
    (closingTag_infix_content level label hals)
  obtain ⟨text, htext⟩ := Option.isSome_iff_exists.mp hsome
  exact ⟨text, by rw [withSepolicy, htext]⟩

end FrameworkMatrix

end Treble.Vintf
