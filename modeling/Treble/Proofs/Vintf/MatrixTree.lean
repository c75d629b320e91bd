import Treble.Proofs.Version.Best
import Treble.Proofs.Vintf.MatrixScan

/-!
# The facts of canonical matrices

A matrix is read tag by tag, but it means a tree, of which one element counts: the first `vendor-ndk`
element. In front of it a scan collects nothing, and at its end the scan is over. If there is no other
one in it, and no element in its versions, the facts are told by those versions.

## Main definitions

* `Xml.Content.firstBlock?` — the first `vendor-ndk` element of a tree
* `Xml.Content.blockVersions` — the versions that are spelled in it
* `Vintf.MatrixFacts.Describe` — the facts are those that the first block of a matrix tells

## Main results

* `Vintf.MatrixScan.after_start` — a scan comes to what the first block alone leads to
* `Vintf.MatrixScan.after_of_plain` — within a block the texts of its versions are collected
* `Vintf.MatrixFacts.parse_firstBlock` — a canonical matrix is read as what its first block tells
-/

namespace Treble

namespace Xml

/-- The elements of a well-formed content have well-formed contents. -/
theorem Content.wellFormed_of_mem_elements {content : Content} {parent : Option String} {e : Element}
    (well : content.WellFormed) (he : e ∈ content.elements parent) : e.children.WellFormed := by
  induction content generalizing parent with
  | done => exact absurd he List.not_mem_nil
  | text content following ih => exact ih well.2 he
  | element name attributes children following ihChildren ihFollowing =>
    obtain ⟨_, _, hchildren, hfollowing⟩ := well
    rw [elements, List.mem_cons, List.mem_append] at he
    rcases he with rfl | he | he
    · exact hchildren
    · exact ihChildren hchildren he
    · exact ihFollowing hfollowing he

/-- An element has nothing but texts in it. -/
def Element.IsPlain (e : Element) : Prop := e.descendants = []

instance (e : Element) : Decidable e.IsPlain :=
  decidable_of_iff (e.descendants.isEmpty = true) List.isEmpty_iff

namespace Content

/-- The first `vendor-ndk` element, in the order of the start tags. -/
def firstBlock? (content : Content) : Option Element :=
  (content.elements none).find? (·.name = "vendor-ndk")

/-- The versions that are spelled by the version elements in the first `vendor-ndk` element. -/
def blockVersions (content : Content) : Set Version :=
  {v | ∃ block ∈ content.firstBlock?, ∃ e ∈ block.descendants,
    e.name = "version" ∧ Version.parse e.children.ownText = some v}

/-- What the texts of the version elements say, given what the content belongs to. -/
def versionTexts (parent : Option String) (content : Content) : List String :=
  ((content.elements parent).filter (·.name = "version")).map (·.children.ownText)

theorem versionTexts_element (parent : Option String) (name : String)
    (attributes : List (String × String)) (children following : Content) :
    (Content.element name attributes children following).versionTexts parent =
      (if name = "version" then [children.ownText] else []) ++
        (children.versionTexts (some name) ++ following.versionTexts parent) := by
  rw [versionTexts, elements, List.filter_cons]
  split_ifs <;> simp_all [versionTexts]

/-- What the texts of the version elements in the first `vendor-ndk` element say. -/
def blockTexts (content : Content) : List String :=
  content.firstBlock?.toList.flatMap fun block => block.children.versionTexts (some block.name)

theorem mem_blockTexts_iff {content : Content} {text : String} :
    text ∈ content.blockTexts ↔ ∃ block ∈ content.firstBlock?, ∃ e ∈ block.descendants,
      e.name = "version" ∧ e.children.ownText = text := by
  simp only [blockTexts, versionTexts, Element.descendants, List.mem_flatMap, Option.mem_toList,
    Option.mem_def, List.mem_map, List.mem_filter, decide_eq_true_eq, and_assoc]

/-- The versions of the first block are spelled by the texts in it. -/
theorem spelled_blockTexts (content : Content) :
    {v | ∃ text ∈ content.blockTexts, Version.parse text = some v} = content.blockVersions := by
  ext v
  constructor
  · rintro ⟨text, htext, hv⟩
    obtain ⟨block, hblock, e, he, version, rfl⟩ := mem_blockTexts_iff.mp htext
    exact ⟨block, hblock, e, he, version, hv⟩
  · rintro ⟨block, hblock, e, he, version, hv⟩
    exact ⟨_, mem_blockTexts_iff.mpr ⟨block, hblock, e, he, version, rfl⟩, hv⟩

end Content

end Xml

namespace Vintf

open Xml (Content)

/-- The facts are those that the first `vendor-ndk` element of a matrix tells: there is a version if
one is spelled in it, and then it is the greatest one. -/
structure MatrixFacts.Describe (facts : MatrixFacts) (content : Content) : Prop where
  greatest : ∀ v, facts.vendorNdkVersion = some v ↔ IsGreatest content.blockVersions v
  without : facts.vendorNdkVersion = none ↔ content.blockVersions = ∅

namespace MatrixScan

variable {scan : MatrixScan}

/-! ### The way to the first block -/

/-- What the first `vendor-ndk` element among some elements leads to, if there is one. -/
def ofBlock : Option Xml.Element → MatrixScan
  | none => {}
  | some block => ((enter {} "vendor-ndk").after block.children).step (.closing "vendor-ndk")

theorem done_ofBlock (block : Xml.Element) : (ofBlock (some block)).done = true :=
  done_step_closing (inVendorNdk_after rfl block.children)

/-- A content leads a scan that has seen nothing yet to what the first block in it leads to. -/
theorem after_start (content : Content) (parent : Option String) :
    after {} content = ofBlock ((content.elements parent).find? (·.name = "vendor-ndk")) := by
  induction content generalizing parent with
  | done => rfl
  | text content following ih => rw [after_text, step_text_of_ne rfl, ih parent, Content.elements]
  | element name attributes children following ihChildren ihFollowing =>
    rw [after_element, Content.elements, List.find?_cons, List.find?_append, step_canonical rfl]
    by_cases hname : name = "vendor-ndk"
    · subst hname
      -- The scan is over at the end of the block, so that what follows the block is passed over.
      have hover : (((enter {} "vendor-ndk").after children).step (.closing "vendor-ndk")).done =
          true := done_step_closing (inVendorNdk_after rfl children)
      rw [after_of_done hover]
      rfl
    · have henter : enter {} name = {} := by simp [enter, hname]
      rw [henter, ihChildren (some name)]
      simp only [hname, decide_false]
      cases (children.elements (some name)).find? (·.name = "vendor-ndk") with
      | none =>
        have hleave : step {} (.closing name) = {} := by simp [step, leave]
        rw [ofBlock, hleave, Option.none_or, ihFollowing parent]
      | some block =>
        -- The block stands among the children, and the scan is over before the end of this element.
        have hover := done_ofBlock block
        rw [step_of_done hover, after_of_done hover, Option.some_or]

/-! ### Within the block -/

/-- A block is open, and outside of versions the texts of some have been collected. -/
def within (versions : List String) : MatrixScan := { inVendorNdk := true, versions := versions }

/-- A version in a block is open, and a text has been collected of it. -/
def reading (versions : List String) (text : String) : MatrixScan :=
  { inVendorNdk := true, inVersion := true, versionText := text, versions := versions }

/-- In a version its texts are collected. -/
theorem after_reading {content : Content} {parent : Option String} (versions : List String)
    (text : String) (texts : content.elements parent = []) :
    (reading versions text).after content = reading versions (text ++ content.ownText) := by
  induction content generalizing text with
  | done => rw [after_done, Content.ownText, String.append_empty]
  | text content following ih =>
    have htext : (reading versions text).step (.text content) =
        reading versions (text ++ Text.trim content) := rfl
    rw [after_text, htext, ih _ texts, Content.ownText, String.append_assoc]
  | element => exact absurd texts (List.cons_ne_nil _ _)

/-- In a block the texts of its versions are collected, if these are plain and there is no other
block. -/
theorem after_within {content : Content} {parent : Option String} (versions : List String)
    (noBlock : ∀ e ∈ content.elements parent, e.name ≠ "vendor-ndk")
    (plain : ∀ e ∈ content.elements parent, e.name = "version" → e.IsPlain) :
    (within versions).after content =
      within ((content.versionTexts parent).reverse ++ versions) := by
  induction content generalizing versions parent with
  | done => rfl
  | text content following ih =>
    rw [after_text, step_text_of_ne rfl, ih versions noBlock plain]
    rfl
  | element name attributes children following ihChildren ihFollowing =>
    rw [Content.elements, List.forall_mem_cons, List.forall_mem_append] at noBlock plain
    obtain ⟨hblock, noBlockChildren, noBlockFollowing⟩ := noBlock
    obtain ⟨hplain, plainChildren, plainFollowing⟩ := plain
    rw [after_element, step_canonical rfl, Content.versionTexts_element]
    by_cases hname : name = "version"
    · subst hname
      -- A plain version holds texts only, so that the next end tag is its own.
      have hnone : children.elements (some "version") = [] := hplain rfl
      have henter : (within versions).enter "version" = reading versions "" := rfl
      have hleave : (reading versions children.ownText).step (.closing "version") =
          within (children.ownText :: versions) := rfl
      rw [henter, after_reading versions "" hnone, String.empty_append, hleave,
        ihFollowing _ noBlockFollowing plainFollowing, if_pos rfl]
      simp [Content.versionTexts, hnone]
    · have henter : (within versions).enter name = within versions := by
        simp [enter, hname, show name ≠ "vendor-ndk" from hblock]
      have hleave : ∀ texts, (within texts).step (.closing name) = within texts := by
        intro texts
        simp [step, leave, within, show name ≠ "vendor-ndk" from hblock]
      rw [henter, ihChildren versions noBlockChildren plainChildren, hleave,
        ihFollowing _ noBlockFollowing plainFollowing, if_neg hname]
      simp

/-- The facts of what the first block leads to are those of the texts in it, if these are plain and
there is no other block. -/
theorem facts_ofBlock {content : Content}
    (noBlock : ∀ block ∈ content.firstBlock?, ∀ e ∈ block.descendants, e.name ≠ "vendor-ndk")
    (plain : ∀ block ∈ content.firstBlock?, ∀ e ∈ block.descendants,
      e.name = "version" → e.IsPlain) :
    (ofBlock content.firstBlock?).facts = ⟨Version.best content.blockTexts⟩ := by
  rw [Content.blockTexts]
  cases hfirst : content.firstBlock? with
  | none => rfl
  | some block =>
    rw [hfirst] at noBlock plain
    have hwithin : enter {} "vendor-ndk" = within [] := rfl
    rw [ofBlock, facts_step_closing, hwithin,
      after_within [] (noBlock block rfl) (plain block rfl), facts]
    congr 1
    -- A scan keeps the versions in reverse order, on which the best of them does not depend.
    apply Version.best_congr
    intro text
    simp [within]

end MatrixScan

namespace MatrixFacts

/-- The facts of a canonical matrix are those of what its first block leads to. -/
theorem parse_spelling_eq {name : String} {attributes : List (String × String)} {children : Content}
    (well : (Content.element name attributes children .done).WellFormed) :
    parse (String.ofList (Content.element name attributes children .done).spelling) =
      .ok (MatrixScan.ofBlock (Content.element name attributes children .done).firstBlock?).facts := by
  rw [parse_spelling well, MatrixScan.after_start _ none, Content.firstBlock?]

/-- A canonical matrix is read as what its first block tells, if there is no other block in that one
and its versions are plain. What stands outside of the block has no influence: the facts are those of
the block as a document of its own. -/
theorem parse_firstBlock {name : String} {attributes : List (String × String)} {children : Content}
    (well : (Content.element name attributes children .done).WellFormed)
    (noBlock : ∀ block ∈ (Content.element name attributes children .done).firstBlock?,
      ∀ inner ∈ block.descendants, inner.name ≠ "vendor-ndk")
    (plain : ∀ block ∈ (Content.element name attributes children .done).firstBlock?,
      ∀ inner ∈ block.descendants, inner.name = "version" → inner.IsPlain) :
    ∃ facts,
      parse (String.ofList (Content.element name attributes children .done).spelling) = .ok facts ∧
      facts.Describe (Content.element name attributes children .done) ∧
      ∀ block ∈ (Content.element name attributes children .done).firstBlock?,
        parse (String.ofList (Content.element "vendor-ndk" [] block.children .done).spelling) =
          .ok facts := by
  have hspelled := (Content.element name attributes children .done).spelled_blockTexts
  refine ⟨_, parse_spelling_eq well, ?_, ?_⟩
  · rw [MatrixScan.facts_ofBlock noBlock plain]
    constructor
    case greatest =>
      intro v
      rw [← hspelled]
      exact Version.best_eq_some_iff
    case without =>
      rw [← hspelled]
      exact Version.best_eq_none_iff
  · intro block hblock
    have hmem := List.mem_of_find?_eq_some (Option.mem_def.mp hblock)
    rw [parse_vendorNdk (Content.wellFormed_of_mem_elements well hmem), Option.mem_def.mp hblock,
      MatrixScan.ofBlock, MatrixScan.facts_step_closing]

/-- A matrix whose first block stands in a version, with versions around it and another block behind
it. -/
def deepMatrix : Content :=
  .element "compatibility-matrix" []
    (.element "version" []
      (.text "99.0"
        (.element "vendor-ndk" []
          (.element "version" [] (.text " 28 " .done)
            (.element "library" [] (.element "version" [] (.text "30.0" .done) .done) .done))
          (.element "version" [] (.text "98.0" .done) .done)))
      (.element "vendor-ndk" [] (.element "version" [] (.text "33" .done) .done) .done)) .done

/-- The greatest version in the first block is read, though it stands deeper than the other one. -/
theorem parse_firstBlock_deepMatrix : deepMatrix.WellFormed ∧
    (∀ block ∈ deepMatrix.firstBlock?, ∀ inner ∈ block.descendants, inner.name ≠ "vendor-ndk") ∧
    (∀ block ∈ deepMatrix.firstBlock?, ∀ inner ∈ block.descendants,
      inner.name = "version" → inner.IsPlain) ∧
    ∃ facts, parse (String.ofList deepMatrix.spelling) = .ok facts ∧
      facts.vendorNdkVersion = some ⟨30, 0⟩ := by
  have well : deepMatrix.WellFormed := by decide
  have noBlock : ∀ block ∈ deepMatrix.firstBlock?, ∀ inner ∈ block.descendants,
      inner.name ≠ "vendor-ndk" := by decide
  have plain : ∀ block ∈ deepMatrix.firstBlock?, ∀ inner ∈ block.descendants,
      inner.name = "version" → inner.IsPlain := by decide
  obtain ⟨facts, hfacts, described, -⟩ := parse_firstBlock well noBlock plain
  have hmem : ∃ block ∈ deepMatrix.firstBlock?, ∃ e ∈ block.descendants,
      e.name = "version" ∧ Version.parse e.children.ownText = some ⟨30, 0⟩ := by decide
  have hbound : ∀ block ∈ deepMatrix.firstBlock?, ∀ e ∈ block.descendants, e.name = "version" →
      ∀ v ∈ Version.parse e.children.ownText, v ≤ ⟨30, 0⟩ := by decide
  have hgreatest : IsGreatest deepMatrix.blockVersions ⟨30, 0⟩ :=
    ⟨hmem, fun v ⟨block, hblock, e, he, version, hv⟩ => hbound block hblock e he version v hv⟩
  exact ⟨well, noBlock, plain, facts, hfacts, (described.greatest _).mpr hgreatest⟩

end MatrixFacts

end Vintf

end Treble
