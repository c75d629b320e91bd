import Mathlib.Data.List.Basic
import Treble.Vintf.Matrix
import Treble.Xml.Tree.Element
import Treble.Xml.Tree.Reading

/-!
# Scans of canonical matrices

The scan of a matrix keeps two flags in place of the open elements: whether a `vendor-ndk` element has
begun, and whether a version in it is being read. As long as no such element has ended, the flags say
where the scan is. When one ends, the scan is over.

## Main definitions

* `Vintf.MatrixScan.after` — the scan behind a content
* `Vintf.MatrixScan.InVersion` — a version in a `vendor-ndk` element is open
* `Vintf.MatrixScan.Settled` — what the flags say of the open elements

## Main results

* `Vintf.MatrixScan.Settled.after` — no content without a `vendor-ndk` element changes that
* `Vintf.MatrixScan.done_after` — a content with such an element ends the scan
* `Vintf.MatrixFacts.parse_spelling` — the facts of the canonical spelling of a tree
-/

namespace Treble.Vintf

open Xml (Content)

namespace MatrixScan

variable {scan : MatrixScan} {name : String} {opened : List String}

/-- The scan behind a content. -/
def after (scan : MatrixScan) (content : Content) : MatrixScan := content.events.foldl step scan

/-! ### Single steps -/

/-- A scan that is over stays as it is. -/
theorem step_of_done (done : scan.done = true) (event : Xml.Event) : scan.step event = scan :=
  if_pos done

theorem step_opening (going : scan.done = false) (tag : Xml.Tag) :
    scan.step (.opening tag) = scan.enter tag.name := by
  simp [step, going]

theorem step_canonical (going : scan.done = false) (name : String)
    (attributes : List (String × String)) :
    scan.step (.opening (.canonical name attributes)) = scan.enter name :=
  step_opening going _

theorem step_closing (going : scan.done = false) (name : String) :
    scan.step (.closing name) = scan.leave name := by
  simp [step, going]

theorem step_text (going : scan.done = false) (text : String) :
    scan.step (.text text) = scan.addText (Text.trim text) := by
  simp [step, going]

/-- Outside versions a text is passed over. -/
theorem step_text_of_ne (outside : scan.inVersion = false) (text : String) :
    scan.step (.text text) = scan := by
  simp [step, addText, outside]

theorem inVendorNdk_enter (begun : scan.inVendorNdk = true) (name : String) :
    (scan.enter name).inVendorNdk = true := by
  unfold enter
  split_ifs <;> simp [begun]

theorem inVendorNdk_leave (begun : scan.inVendorNdk = true) (name : String) :
    (scan.leave name).inVendorNdk = true := by
  unfold leave
  split_ifs <;> simp [begun]

/-- That a `vendor-ndk` element has begun is never forgotten. -/
theorem inVendorNdk_step (begun : scan.inVendorNdk = true) (event : Xml.Event) :
    (scan.step event).inVendorNdk = true := by
  cases done : scan.done with
  | true => rwa [step_of_done done]
  | false =>
    cases event with
    | opening tag => rw [step_opening done, inVendorNdk_enter begun]
    | empty tag =>
      simp only [step, done, Bool.false_eq_true, if_false]
      exact inVendorNdk_leave (inVendorNdk_enter begun _) _
    | closing name => rw [step_closing done, inVendorNdk_leave begun]
    | text text =>
      rw [step_text done, addText]
      split_ifs <;> exact begun

/-! ### The scan behind a content -/

@[simp] theorem after_done (scan : MatrixScan) : scan.after .done = scan := rfl

theorem after_text (scan : MatrixScan) (text : String) (following : Content) :
    scan.after (.text text following) = (scan.step (.text text)).after following := by
  have htrim : Text.trim (String.ofList (Text.strip Text.isMarkupBlank text.toList)) =
      Text.trim text := by
    rw [Text.trim_strip, String.ofList_toList]
  rw [after, Content.events]
  split
  · next hempty =>
    have hnone : scan.step (.text text) = scan := by
      subst hempty
      simp [step, addText, Text.trim]
    rw [hnone, after]
  · rw [List.foldl_cons, after]
    simp only [step, htrim]

theorem after_element (scan : MatrixScan) (name : String) (attributes : List (String × String))
    (children following : Content) :
    scan.after (.element name attributes children following) =
      (((scan.step (.opening (.canonical name attributes))).after children).step
        (.closing name)).after following := by
  rw [after, Content.events, List.foldl_cons, List.foldl_append, List.foldl_cons]
  rfl

theorem after_element_following (scan : MatrixScan) (name : String)
    (attributes : List (String × String)) (children following : Content) :
    scan.after (.element name attributes children following) =
      (scan.after (.element name attributes children .done)).after following := by
  rw [after_element, after_element, after_done]

theorem foldl_of_done (done : scan.done = true) (events : List Xml.Event) :
    events.foldl step scan = scan := by
  induction events with
  | nil => rfl
  | cons event rest ih => rw [List.foldl_cons, step_of_done done, ih]

theorem after_of_done (done : scan.done = true) (content : Content) : scan.after content = scan :=
  foldl_of_done done content.events

theorem inVendorNdk_after (begun : scan.inVendorNdk = true) (content : Content) :
    (scan.after content).inVendorNdk = true := by
  rw [after]
  generalize content.events = events
  induction events generalizing scan with
  | nil => exact begun
  | cons event rest ih => exact ih (inVendorNdk_step begun event)

/-- The end of a `vendor-ndk` element is the end of the scan. -/
theorem done_step_closing (begun : scan.inVendorNdk = true) :
    (scan.step (.closing "vendor-ndk")).done = true := by
  cases done : scan.done with
  | true => rwa [step_of_done done]
  | false => simp [step_closing done, leave, begun]

/-- The end of a `vendor-ndk` element finishes no version. -/
theorem facts_step_closing (scan : MatrixScan) :
    (scan.step (.closing "vendor-ndk")).facts = scan.facts := by
  cases done : scan.done with
  | true => rw [step_of_done done]
  | false =>
    rw [step_closing done, leave]
    split_ifs with hversion
    · exact absurd hversion.2 (by decide)
    · rfl
    · rfl

/-- A content with a `vendor-ndk` element in it ends the scan. -/
theorem done_after {content : Content} (holds : ¬ content.Lacks "vendor-ndk") :
    (scan.after content).done = true := by
  induction content generalizing scan with
  | done => exact absurd trivial holds
  | text content following ih =>
    rw [after_text]
    exact ih holds
  | element name attributes children following ihChildren ihFollowing =>
    rw [after_element]
    by_cases hfollowing : following.Lacks "vendor-ndk"
    · by_cases hchildren : children.Lacks "vendor-ndk"
      · have hname : name = "vendor-ndk" := by
          by_contra hname
          exact holds ⟨hname, hchildren, hfollowing⟩
        subst hname
        cases done : scan.done with
        | true => rwa [step_of_done done, after_of_done done, step_of_done done, after_of_done done]
        | false =>
          have begun : (scan.step (.opening (.canonical "vendor-ndk" attributes))).inVendorNdk =
              true := by
            rw [step_canonical done]
            rfl
          have hend := done_step_closing (inVendorNdk_after begun children)
          rwa [after_of_done hend]
      · have hend : ((scan.step (.opening (.canonical name attributes))).after children).done =
            true := ihChildren hchildren
        rwa [step_of_done hend, after_of_done hend]
    · exact ihFollowing hfollowing

/-! ### What the flags say -/

/-- Among the open elements, the innermost first, is a version within a `vendor-ndk` element. -/
def InVersion (opened : List String) : Prop := ["version", "vendor-ndk"].Sublist opened

instance (opened : List String) : Decidable (InVersion opened) :=
  inferInstanceAs (Decidable (List.Sublist _ _))

/-- No version of a block is open where no block is. -/
theorem not_inVersion (outside : "vendor-ndk" ∉ opened) : ¬ InVersion opened :=
  fun inVersion => outside (inVersion.subset (by simp))

/-- The scan is not over, and its flags and texts are such as they can be with some elements open. -/
structure Settled (opened : List String) (scan : MatrixScan) : Prop where
  going : scan.done = false
  inVendorNdk : scan.inVendorNdk = true ↔ "vendor-ndk" ∈ opened
  inVersion : scan.inVersion = true → InVersion opened
  versionText : scan.inVersion = false → scan.versionText = ""
  versions : scan.inVendorNdk = false → scan.versions = []

theorem settled_start : Settled [] {} := ⟨rfl, by simp, by simp, fun _ => rfl, fun _ => rfl⟩

namespace Settled

theorem inVersion_eq_false (settled : Settled opened scan) (quiet : ¬ InVersion opened) :
    scan.inVersion = false := by
  rw [Bool.eq_false_iff]
  exact mt settled.inVersion quiet

theorem inVendorNdk_eq_false (settled : Settled opened scan) (outside : "vendor-ndk" ∉ opened) :
    scan.inVendorNdk = false := by
  rw [Bool.eq_false_iff]
  exact mt settled.inVendorNdk.mp outside

theorem inVendorNdk_of_inVersion (settled : Settled opened scan) (h : scan.inVersion = true) :
    scan.inVendorNdk = true :=
  settled.inVendorNdk.mpr ((settled.inVersion h).subset (by simp))

theorem enter (settled : Settled opened scan) (name : String) :
    Settled (name :: opened) (scan.enter name) := by
  unfold MatrixScan.enter
  split_ifs with hblock hversion
  · subst hblock
    exact ⟨settled.going, by simp, fun h => (settled.inVersion h).cons _, settled.versionText,
      by simp⟩
  · obtain ⟨rfl, begun⟩ := hversion
    have hmem := settled.inVendorNdk.mp begun
    refine ⟨settled.going, ?_, ?_, by simp, settled.versions⟩
    · simpa using settled.inVendorNdk
    · intro _
      exact (List.singleton_sublist.mpr hmem).cons_cons _
  · refine ⟨settled.going, ?_, fun h => (settled.inVersion h).cons _, settled.versionText,
      settled.versions⟩
    rw [settled.inVendorNdk, List.mem_cons, or_iff_right (Ne.symm hblock)]

theorem leave (settled : Settled (name :: opened) scan) (hblock : name ≠ "vendor-ndk") :
    Settled opened (scan.leave name) := by
  have inVendorNdk : scan.inVendorNdk = true ↔ "vendor-ndk" ∈ opened := by
    rw [settled.inVendorNdk, List.mem_cons, or_iff_right (Ne.symm hblock)]
  unfold MatrixScan.leave
  split_ifs with hversion hend
  · refine ⟨settled.going, inVendorNdk, by simp, fun _ => rfl, ?_⟩
    intro notBegun
    have begun := settled.inVendorNdk_of_inVersion hversion.1
    exact absurd begun (by simpa using notBegun)
  · exact absurd hend.2 hblock
  · refine ⟨settled.going, inVendorNdk, ?_, settled.versionText, settled.versions⟩
    -- The version that is open is another element than the one that ends.
    intro h
    have hname : "version" ≠ name := fun heq => hversion ⟨h, heq.symm⟩
    cases settled.inVersion h with
    | cons _ hopened => exact hopened
    | cons_cons => exact absurd rfl hname

theorem addText (settled : Settled opened scan) (text : String) :
    Settled opened (scan.addText text) := by
  unfold MatrixScan.addText
  split_ifs with h
  · refine ⟨settled.going, settled.inVendorNdk, settled.inVersion, ?_, settled.versions⟩
    intro outside
    exact absurd h (by simpa using outside)
  · exact settled

/-- A content without a `vendor-ndk` element leaves a scan settled. -/
theorem after (settled : Settled opened scan) {content : Content}
    (lacks : content.Lacks "vendor-ndk") : Settled opened (scan.after content) := by
  induction content generalizing scan opened with
  | done => exact settled
  | text content following ih =>
    rw [after_text, step_text settled.going]
    exact ih (settled.addText _) lacks
  | element name attributes children following ihChildren ihFollowing =>
    obtain ⟨hname, hchildren, hfollowing⟩ := lacks
    have hend := ihChildren (settled.enter name) hchildren
    rw [after_element, step_canonical settled.going, step_closing hend.going]
    exact ihFollowing (hend.leave hname) hfollowing

end Settled

@[simp] theorem addText_empty (scan : MatrixScan) : scan.addText "" = scan := by
  unfold addText
  split_ifs
  · rw [String.append_empty]
  · rfl

/-- A content is passed over if there is no `vendor-ndk` element in it, no version either unless none
has begun, and no text in a version. -/
theorem after_of_inert {content : Content} (texts : scan.inVersion = false ∨ content.Blank)
    (noBlock : content.Lacks "vendor-ndk")
    (versions : scan.inVendorNdk = false ∧ scan.inVersion = false ∨ content.Lacks "version") :
    scan.after content = scan := by
  cases done : scan.done with
  | true => exact after_of_done done content
  | false =>
    induction content with
    | done => rfl
    | text content following ih =>
      have htext : scan.step (.text content) = scan := by
        rcases texts with outside | blank
        · exact step_text_of_ne outside content
        · rw [step_text done, blank.1, addText_empty]
      rw [after_text, htext]
      exact ih (texts.imp_right And.right) noBlock versions
    | element name attributes children following ihChildren ihFollowing =>
      obtain ⟨hname, hchildren, hfollowing⟩ := noBlock
      have henter : scan.enter name = scan := by
        rw [enter, if_neg hname, if_neg]
        rintro ⟨rfl, begun⟩
        rcases versions with outside | lacks
        · exact Bool.false_ne_true (outside.1.symm.trans begun)
        · exact lacks.1 rfl
      have hleave : scan.leave name = scan := by
        rw [leave, if_neg, if_neg (fun h => hname h.2)]
        rintro ⟨inVersion, rfl⟩
        rcases versions with outside | lacks
        · exact Bool.false_ne_true (outside.2.symm.trans inVersion)
        · exact lacks.1 rfl
      have hinner : scan.after children = scan :=
        ihChildren (texts.imp_right And.left) hchildren (versions.imp_right fun h => h.2.1)
      rw [after_element, step_canonical done, henter, hinner, step_closing done, hleave]
      exact ihFollowing (texts.imp_right And.right) hfollowing (versions.imp_right fun h => h.2.2)

end MatrixScan

/-- The canonical spelling of a tree is read without a fault, and its facts are those of the scan
behind the tree. -/
theorem MatrixFacts.parse_spelling {name : String} {attributes : List (String × String)}
    {children : Content} (well : (Content.element name attributes children .done).WellFormed) :
    parse (String.ofList (Content.element name attributes children .done).spelling) =
      .ok (MatrixScan.after {} (.element name attributes children .done)).facts := by
  rw [parse, ofDocument, Xml.read_spelling well]
  rfl

/-- The facts of a document that is one `vendor-ndk` element are those of the scan behind its
children. -/
theorem MatrixFacts.parse_vendorNdk {children : Content} (well : children.WellFormed) :
    parse (String.ofList (Content.element "vendor-ndk" [] children .done).spelling) =
      .ok ((MatrixScan.enter {} "vendor-ndk").after children).facts := by
  have wellRoot : (Content.element "vendor-ndk" [] children .done).WellFormed :=
    ⟨by decide, by simp, well, trivial⟩
  rw [parse_spelling wellRoot, MatrixScan.after_element, MatrixScan.step_canonical rfl,
    MatrixScan.after_done, MatrixScan.facts_step_closing]

end Treble.Vintf
