import Treble.Proofs.Version.Best
import Treble.Proofs.Vintf.MatrixScan
import Treble.Xml.Tree.Place

/-!
# Elements inserted into matrices

The facts of a matrix are those of its first `vendor-ndk` element, wherever that stands. So an element
that is inserted behind it is passed over with everything in it; one in front of it is too, unless it
has a `vendor-ndk` element itself, which is then the first; and one within it adds its versions.

## Main definitions

* `Vintf.MatrixFacts.adding` — the facts of a matrix with those of one of its elements
* `Vintf.MatrixScan.Gains` — a scan has collected more versions than another one
* `Xml.Insertion.block` — the element that is inserted, in a `vendor-ndk` element of its own

## Main results

* `Vintf.MatrixScan.exists_reached` — a scan comes by the place where an element is inserted
* `Vintf.MatrixFacts.parse_result_behind`, `Vintf.MatrixFacts.parse_result_inert`,
  `Vintf.MatrixFacts.parse_result_first`, `Vintf.MatrixFacts.parse_result_within` — the facts of a
  matrix with an element inserted
-/

namespace Treble

/-- The element that is inserted, in a `vendor-ndk` element of its own. -/
def Xml.Insertion.block (insertion : Xml.Insertion) : Xml.Content :=
  .element "vendor-ndk" [] insertion.inserted .done

namespace Vintf

open Xml (Content Place Insertion)

/-- The facts of a matrix with those of one of its elements. -/
def MatrixFacts.adding (facts own : MatrixFacts) : MatrixFacts :=
  { vendorNdkVersion := max facts.vendorNdkVersion own.vendorNdkVersion }

namespace MatrixScan

variable {scan other : MatrixScan} {name : String} {opened : List String}

/-! ### More versions that are collected -/

/-- The second scan is where the first one is, but has collected some more texts of versions. -/
structure Gains (texts : List String) (scan other : MatrixScan) : Prop where
  inVendorNdk : other.inVendorNdk = scan.inVendorNdk
  inVersion : other.inVersion = scan.inVersion
  versionText : other.versionText = scan.versionText
  done : other.done = scan.done
  versions : ∀ text, text ∈ other.versions ↔ text ∈ scan.versions ∨ text ∈ texts

namespace Gains

variable {texts : List String}

theorem enter (gains : Gains texts scan other) (name : String) :
    Gains texts (scan.enter name) (other.enter name) := by
  unfold MatrixScan.enter
  rw [gains.inVendorNdk]
  split_ifs
  · exact ⟨rfl, gains.inVersion, gains.versionText, gains.done, gains.versions⟩
  · exact ⟨rfl, rfl, gains.versionText, gains.done, gains.versions⟩
  · exact gains

theorem leave (gains : Gains texts scan other) (name : String) :
    Gains texts (scan.leave name) (other.leave name) := by
  unfold MatrixScan.leave
  rw [gains.inVendorNdk, gains.inVersion]
  split_ifs
  · refine ⟨rfl, rfl, rfl, gains.done, fun text => ?_⟩
    rw [List.mem_cons, List.mem_cons, gains.versionText, gains.versions, or_assoc]
  · exact ⟨rfl, rfl, gains.versionText, rfl, gains.versions⟩
  · exact gains

theorem addText (gains : Gains texts scan other) (text : String) :
    Gains texts (scan.addText text) (other.addText text) := by
  unfold MatrixScan.addText
  rw [gains.inVersion, gains.versionText]
  split_ifs
  · exact ⟨gains.inVendorNdk, rfl, rfl, gains.done, gains.versions⟩
  · exact gains

theorem step (gains : Gains texts scan other) (event : Xml.Event) :
    Gains texts (scan.step event) (other.step event) := by
  unfold MatrixScan.step
  rw [gains.done]
  split_ifs
  · exact gains
  · cases event with
    | opening tag => exact gains.enter tag.name
    | empty tag => exact (gains.enter tag.name).leave tag.name
    | closing name => exact gains.leave name
    | text text => exact gains.addText (Text.trim text)

theorem foldl (gains : Gains texts scan other) (events : List Xml.Event) :
    Gains texts (events.foldl MatrixScan.step scan) (events.foldl MatrixScan.step other) := by
  induction events generalizing scan other with
  | nil => exact gains
  | cons event rest ih => exact ih (gains.step event)

/-- The facts of the second scan are those of the first one with what was collected more. -/
theorem facts_eq {own : MatrixScan} (gains : Gains own.versions scan other) :
    other.facts = scan.facts.adding own.facts := by
  have hversions : Version.best other.versions = Version.best (scan.versions ++ own.versions) := by
    apply Version.best_congr
    intro text
    rw [gains.versions, List.mem_append]
  rw [facts, facts, facts, MatrixFacts.adding, hversions, Version.best_append]

end Gains

/-! ### The place where an element is inserted -/

/-- Where a scan has come to when it is at a place: it is over if a `vendor-ndk` element lies in front
of the place, and knows the elements around the place if not. -/
structure Reached (place : Place) (opened : List String) (reached : MatrixScan) : Prop where
  behind : place.Passes "vendor-ndk" → reached.done = true
  settled : ¬ place.Passes "vendor-ndk" → Settled (place.path opened) reached

/-- A scan comes by a place on its way, unless that splits the text of a version, and whatever element
is inserted there is scanned from there on. -/
theorem exists_reached {place : Place} (settled : Settled opened scan)
    (quiet : place.Passes "vendor-ndk" ∨ ¬ InVersion (place.path opened) ∨ ¬ place.Splits) :
    ∃ reached rest, Reached place opened reached ∧
      scan.after place.content = List.foldl step reached rest ∧
      ∀ name attributes children, scan.after (place.inserting name attributes children) =
        List.foldl step (reached.after (.element name attributes children .done)) rest := by
  -- The induction is on the place. Behind the first `vendor-ndk` element nothing is looked at, so that
  -- there the scan stays where it is.
  induction place generalizing scan opened with
  | front following =>
    refine ⟨scan, following.events, ⟨False.elim, fun _ => settled⟩, rfl, ?_⟩
    intro name attributes children
    exact after_element_following ..
  | amid left right following =>
    have outside : scan.inVersion = false := by
      apply settled.inVersion_eq_false
      exact (quiet.resolve_left id).resolve_right fun whole => whole trivial
    refine ⟨scan, (Content.text right following).events, ⟨False.elim, fun _ => settled⟩, ?_, ?_⟩
    · rw [← after, after_text, Place.content, after_text, step_text_of_ne outside,
        step_text_of_ne outside]
    · intro name attributes children
      rw [Place.inserting, after_text, step_text_of_ne outside, after_element_following]
      rfl
  | behindText text place ih =>
    obtain ⟨reached, rest, hreached, hcontent, hinserting⟩ :=
      ih (settled.addText (Text.trim text)) quiet
    rw [← step_text settled.going] at hcontent
    simp only [← step_text settled.going] at hinserting
    refine ⟨reached, rest, ⟨hreached.behind, hreached.settled⟩, ?_, ?_⟩
    · rw [Place.content, after_text, hcontent]
    · intro name attributes children
      rw [Place.inserting, after_text, hinserting]
  | behindElement other others content place ih =>
    by_cases lacks : (Content.element other others content .done).Lacks "vendor-ndk"
    · have hpasses : (Place.behindElement other others content place).Passes "vendor-ndk" ↔
          place.Passes "vendor-ndk" := by
        simp [Place.Passes, lacks.1, lacks.2.1]
      rw [hpasses] at quiet
      obtain ⟨reached, rest, hreached, hcontent, hinserting⟩ := ih (settled.after lacks) quiet
      refine ⟨reached, rest, ⟨?_, ?_⟩, ?_, ?_⟩
      · rw [hpasses]
        exact hreached.behind
      · rw [hpasses]
        exact hreached.settled
      · rw [Place.content, after_element_following, hcontent]
      · intro name attributes children
        rw [Place.inserting, after_element_following, hinserting]
    · have hover : (scan.after (.element other others content .done)).done = true := done_after lacks
      have passes : (Place.behindElement other others content place).Passes "vendor-ndk" := by
        by_contra hpasses
        obtain ⟨hother, hrest⟩ := not_or.mp hpasses
        exact lacks ⟨hother, not_not.mp (not_or.mp hrest).1, trivial⟩
      refine ⟨_, [], ⟨fun _ => hover, absurd passes⟩, ?_, ?_⟩
      · rw [Place.content, after_element_following, after_of_done hover]
        rfl
      · intro name attributes children
        rw [Place.inserting, after_element_following, after_of_done hover, after_of_done hover]
        rfl
  | within other others place following ih =>
    obtain ⟨reached, rest, hreached, hcontent, hinserting⟩ := ih (settled.enter other) quiet
    refine ⟨reached, rest ++ .closing other :: following.events,
      ⟨hreached.behind, hreached.settled⟩, ?_, ?_⟩
    · rw [Place.content, after_element, step_canonical settled.going, hcontent, List.foldl_append]
      rfl
    · intro name attributes children
      rw [Place.inserting, after_element, step_canonical settled.going, hinserting,
        List.foldl_append]
      rfl

/-- Where a scan of a whole tree has come to when it is at the place of an insertion. -/
theorem exists_reached_insertion (insertion : Insertion)
    (quiet : insertion.place.Passes "vendor-ndk" ∨ ¬ InVersion insertion.path ∨
      ¬ insertion.place.Splits) :
    ∃ reached rest, Reached insertion.place [insertion.root] reached ∧
      after {} insertion.original = List.foldl step reached rest ∧
      after {} insertion.result = List.foldl step (reached.after insertion.inserted) rest := by
  obtain ⟨reached, rest, hreached, hcontent, hinserting⟩ :=
    exists_reached (settled_start.enter insertion.root) quiet
  refine ⟨reached, rest ++ [.closing insertion.root], hreached, ?_, ?_⟩
  · rw [Insertion.original, after_element, step_canonical rfl, hcontent, List.foldl_append]
    rfl
  · rw [Insertion.result, after_element, step_canonical rfl, hinserting, List.foldl_append]
    rfl

/-- Where no `vendor-ndk` element has begun, a scan is as it was at the start. -/
theorem Settled.eq_start (settled : Settled opened scan) (outside : "vendor-ndk" ∉ opened) :
    scan = {} := by
  have notBegun := settled.inVendorNdk_eq_false outside
  have noVersion := settled.inVersion_eq_false (not_inVersion outside)
  have htext := settled.versionText noVersion
  have hversions := settled.versions notBegun
  have hgoing := settled.going
  cases scan
  simp_all

/-- An element within a `vendor-ndk` element adds the versions that it has in one of its own. -/
theorem gains_of_settled {content : Content} (settled : Settled opened scan)
    (within : "vendor-ndk" ∈ opened) (quiet : ¬ InVersion opened)
    (noBlock : content.Lacks "vendor-ndk") :
    Gains ((enter {} "vendor-ndk").after content).versions scan (scan.after content) := by
  have begun := settled.inVendorNdk.mpr within
  have noVersion := settled.inVersion_eq_false quiet
  -- The scan differs from one that has just begun with a block in nothing but finished versions.
  have hstart : Gains scan.versions (enter {} "vendor-ndk") scan :=
    ⟨begun, noVersion, settled.versionText noVersion, settled.going, by simp [enter]⟩
  have hend := hstart.foldl content.events
  have hown := (settled_start.enter "vendor-ndk").after noBlock
  have hquiet := hown.inVersion_eq_false (by decide)
  refine ⟨?_, ?_, ?_, ?_, fun text => ?_⟩
  · rw [after, hend.inVendorNdk, begun]
    exact hown.inVendorNdk.mpr (by simp)
  · rw [after, hend.inVersion, noVersion]
    exact hquiet
  · rw [after, hend.versionText, settled.versionText noVersion]
    exact hown.versionText hquiet
  · rw [after, hend.done, settled.going]
    exact hown.going
  · rw [after, hend.versions, or_comm]
    rfl

end MatrixScan

namespace MatrixFacts

open MatrixScan (InVersion)

variable {insertion : Insertion}

theorem parse_original : parse (String.ofList insertion.original.spelling) =
    .ok (MatrixScan.after {} insertion.original).facts :=
  parse_spelling insertion.wellRoot

theorem parse_inserted : parse (String.ofList insertion.inserted.spelling) =
    .ok (MatrixScan.after {} insertion.inserted).facts :=
  parse_spelling insertion.wellInserted

theorem parse_result : parse (String.ofList insertion.result.spelling) =
    .ok (MatrixScan.after {} insertion.result).facts :=
  parse_spelling insertion.wellFormed_result

theorem parse_block : parse (String.ofList insertion.block.spelling) =
    .ok ((MatrixScan.enter {} "vendor-ndk").after insertion.inserted).facts :=
  parse_vendorNdk insertion.wellInserted

/-- Behind the first `vendor-ndk` element, an element changes nothing. -/
theorem parse_result_behind (behind : insertion.place.Passes "vendor-ndk") :
    parse (String.ofList insertion.result.spelling) =
      parse (String.ofList insertion.original.spelling) := by
  obtain ⟨reached, rest, hreached, horiginal, hresult⟩ :=
    MatrixScan.exists_reached_insertion insertion (.inl behind)
  rw [parse_result, parse_original, horiginal, hresult,
    MatrixScan.after_of_done (hreached.behind behind)]

/-- An element without `vendor-ndk` elements and versions changes nothing, save in a version: there it
may have no texts, and may not split one. -/
theorem parse_result_inert (noBlock : insertion.inserted.Lacks "vendor-ndk")
    (noVersion : insertion.inserted.Lacks "version" ∨ "vendor-ndk" ∉ insertion.path)
    (texts : ¬ InVersion insertion.path ∨ insertion.inserted.Blank ∧ ¬ insertion.place.Splits) :
    parse (String.ofList insertion.result.spelling) =
      parse (String.ofList insertion.original.spelling) := by
  by_cases behind : insertion.place.Passes "vendor-ndk"
  · exact parse_result_behind behind
  obtain ⟨reached, rest, hreached, horiginal, hresult⟩ :=
    MatrixScan.exists_reached_insertion insertion (.inr (texts.imp_right And.right))
  have settled := hreached.settled behind
  have htexts : reached.inVersion = false ∨ insertion.inserted.Blank :=
    texts.imp settled.inVersion_eq_false And.left
  have hversions : reached.inVendorNdk = false ∧ reached.inVersion = false ∨
      insertion.inserted.Lacks "version" := by
    rw [or_comm]
    refine noVersion.imp_right fun outside => ⟨settled.inVendorNdk_eq_false outside, ?_⟩
    exact settled.inVersion_eq_false (MatrixScan.not_inVersion outside)
  rw [parse_result, parse_original, horiginal, hresult,
    MatrixScan.after_of_inert htexts noBlock hversions]

/-- In front of all `vendor-ndk` elements, an element with one is all that counts. -/
theorem parse_result_first (notBehind : ¬ insertion.place.Passes "vendor-ndk")
    (outside : "vendor-ndk" ∉ insertion.path)
    (holds : ¬ insertion.inserted.Lacks "vendor-ndk") :
    parse (String.ofList insertion.result.spelling) =
      parse (String.ofList insertion.inserted.spelling) := by
  have quiet := MatrixScan.not_inVersion outside
  obtain ⟨reached, rest, hreached, _, hresult⟩ :=
    MatrixScan.exists_reached_insertion insertion (.inr (.inl quiet))
  obtain rfl := (hreached.settled notBehind).eq_start outside
  rw [parse_result, parse_inserted, hresult, MatrixScan.foldl_of_done (MatrixScan.done_after holds)]

/-- Within the first `vendor-ndk` element, an element adds the versions that it has. -/
theorem parse_result_within (notBehind : ¬ insertion.place.Passes "vendor-ndk")
    (within : "vendor-ndk" ∈ insertion.path) (quiet : ¬ InVersion insertion.path)
    (noBlock : insertion.inserted.Lacks "vendor-ndk") :
    ∃ facts own, parse (String.ofList insertion.original.spelling) = .ok facts ∧
      parse (String.ofList insertion.block.spelling) = .ok own ∧
      parse (String.ofList insertion.result.spelling) = .ok (facts.adding own) := by
  obtain ⟨reached, rest, hreached, horiginal, hresult⟩ :=
    MatrixScan.exists_reached_insertion insertion (.inr (.inl quiet))
  have gains := MatrixScan.gains_of_settled (hreached.settled notBehind) within quiet noBlock
  refine ⟨_, _, parse_original, parse_block, ?_⟩
  rw [parse_result, horiginal, hresult]
  exact congrArg Except.ok (gains.foldl rest).facts_eq

end MatrixFacts

end Vintf

end Treble
