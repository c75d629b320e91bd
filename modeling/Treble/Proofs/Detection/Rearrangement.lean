import Treble.Proofs.Detection.Inputs
import Treble.Proofs.Detection.Merging
import Treble.Proofs.Vintf.Encodings
import Treble.Proofs.Vintf.HalRemoval

/-!
# Manifests in another order

Manifests may change places, and their HALs may go from one manifest to another. If there is at most one
policy version and at most one level in all of them, they are merged to the same, and so the verdict is
the same. Only HALs that come to stand in another HAL are lost.

## Main definitions

* `Vintf.ShedsAll` — the manifests at some paths and what is left of them without some of their HALs
* `Detection.Device.Rearranges` — the manifests of another device have the same parts
* `Detection.Device.NamesOnce` — at most one manifest names a version, and at most one a level
* `Detection.Device.withFragment` — a device with two manifests

## Main results

* `Detection.Device.Rearranges.agree` — manifests with the same parts say the same in some order
* `Detection.Device.detect_rearranged` — the same parts have the same result
* `Detection.Device.detect_lostHal` — but not if HALs come to stand in a root that is one itself
-/

namespace Treble

namespace Vintf

open Xml (Content Event)

/-- The manifests at some paths, what is left of each when HALs are taken out, and all these HALs. -/
inductive ShedsAll (allowed : List String → Content → Prop) (files : FileSystem) :
    List String → List (List Event) → List Content → Prop
  | nil : ShedsAll allowed files [] [] []
  | cons {path document : String} {paths : List String} {rest : List Event}
      {rests : List (List Event)} {hals others : List Content}
      (reads : readDocument files path = .ok document) (noFault : (Xml.read document).fault = none)
      (sheds : Sheds allowed [] (Xml.expand (Xml.read document).events) rest hals)
      (more : ShedsAll allowed files paths rests others) :
      ShedsAll allowed files (path :: paths) (rest :: rests) (hals ++ others)

/-- What is said by what is left of a manifest, if that can be scanned. -/
def restFacts (rest : List Event) : Option ManifestFacts :=
  (ManifestFacts.ofReading ⟨rest, none⟩).toOption

theorem passthroughsOf_append (hals others : List Content) :
    passthroughsOf (hals ++ others) = passthroughsOf hals ∪ passthroughsOf others := by
  apply Text.NameSet.ext
  intro name
  simp only [mem_passthroughsOf, List.mem_append, Text.NameSet.mem_union, or_and_right, exists_or]

/-- The facts of a manifest are those of what is left of it and the HALs that are taken out. -/
theorem toOption_ofFile {files : FileSystem} {path document : String} {rest : List Event}
    {hals : List Content} (reads : readDocument files path = .ok document)
    (noFault : (Xml.read document).fault = none)
    (sheds : Sheds OutsideHals [] (Xml.expand (Xml.read document).events) rest hals) :
    (ManifestFacts.ofFile files path).toOption =
      (restFacts rest).map (·.adding (.ofHals (passthroughsOf hals))) := by
  have hreading : Xml.read document = ⟨(Xml.read document).events, none⟩ := by rw [← noFault]
  rw [ManifestFacts.ofFile, reads, Except.bind, ManifestFacts.ofDocument, hreading,
    ManifestFacts.ofReading_eq_of_sheds sheds, restFacts]
  cases ManifestFacts.ofReading ⟨rest, none⟩ <;> rfl

/-- Of versions and levels, HALs say nothing. -/
theorem ManifestFacts.sepolicyVersion_adding_ofHals (facts : ManifestFacts) (names : Text.NameSet) :
    (facts.adding (.ofHals names)).sepolicyVersion = facts.sepolicyVersion :=
  Option.max_none_right

end Vintf

namespace Detection

open FileSystem (AgreeAt)
open Vintf (DeviceRoot ManifestFacts MatrixFacts Sheds ShedsAll OutsideHals ChildOfRoot restFacts
  passthroughsOf Spells BeginsWithMark)
open Xml (Content Event Tag)

theorem levelOf_adding_ofHals (facts : ManifestFacts) (names : Text.NameSet) :
    levelOf (facts.adding (.ofHals names)) = levelOf facts := rfl

section ShedsAll

variable {files : FileSystem} {paths : List String} {rests : List (List Event)} {hals : List Content}

theorem exists_eq_ok_iff {ε β : Type} {result : Except ε β} :
    (∃ b, result = .ok b) ↔ result.toOption.isSome := by
  cases result <;> simp [Except.toOption]

/-- If all manifests give facts, so do the rests of them, and the other way round. -/
theorem scan_iff_of_shedsAll (sheds : ShedsAll OutsideHals files paths rests hals) :
    (∀ path ∈ paths, ∃ facts, ManifestFacts.ofFile files path = .ok facts) ↔
      ∀ rest ∈ rests, (restFacts rest).isSome := by
  induction sheds with
  | nil => simp
  | cons reads noFault sheds more ih =>
    have hfacts := Vintf.toOption_ofFile reads noFault sheds
    rw [List.forall_mem_cons, List.forall_mem_cons, ih]
    apply and_congr_left
    intro _
    rw [exists_eq_ok_iff, hfacts, Option.isSome_map]

/-- What HALs say nothing of is the same in all manifests and in their rests. -/
theorem filterMap_factsAt {α : Type} {key : ManifestFacts → Option α}
    (h : ∀ facts names, key (facts.adding (.ofHals names)) = key facts)
    (sheds : ShedsAll OutsideHals files paths rests hals) :
    (factsAt files paths).filterMap key = (rests.filterMap restFacts).filterMap key := by
  induction sheds with
  | nil => rfl
  | @cons path document paths rest rests hals others reads noFault sheds more ih =>
    have hfacts := Vintf.toOption_ofFile reads noFault sheds
    rw [factsAt, List.filterMap_cons, List.filterMap_cons, hfacts]
    cases restFacts rest with
    | none => exact ih
    | some facts =>
      rw [Option.map_some, List.filterMap_cons, List.filterMap_cons, h]
      cases key facts with
      | none => exact ih
      | some value => exact congrArg (value :: ·) ih

/-- The passthrough HALs of all manifests are those of the rests and those that are taken out. -/
theorem mem_passthroughHals_factsAt {name : String}
    (sheds : ShedsAll OutsideHals files paths rests hals)
    (scan : ∀ rest ∈ rests, (restFacts rest).isSome) :
    (∃ facts ∈ factsAt files paths, name ∈ facts.passthroughHals) ↔
      (∃ facts ∈ rests.filterMap restFacts, name ∈ facts.passthroughHals) ∨
        name ∈ passthroughsOf hals := by
  induction sheds with
  | nil => simp [factsAt, passthroughsOf]
  | @cons path document paths rest rests hals others reads noFault sheds more ih =>
    obtain ⟨hrest, hrests⟩ := List.forall_mem_cons.mp scan
    obtain ⟨facts, hsome⟩ := Option.isSome_iff_exists.mp hrest
    have hfacts := Vintf.toOption_ofFile reads noFault sheds
    rw [hsome, Option.map_some] at hfacts
    have hcons : factsAt files (path :: paths) =
        facts.adding (.ofHals (passthroughsOf hals)) :: factsAt files paths := by
      rw [factsAt, List.filterMap_cons, hfacts]
      rfl
    have hmem : name ∈ (facts.adding (.ofHals (passthroughsOf hals))).passthroughHals ↔
        name ∈ facts.passthroughHals ∨ name ∈ passthroughsOf hals := Text.NameSet.mem_union
    rw [hcons, List.filterMap_cons, hsome, List.exists_mem_cons_iff, List.exists_mem_cons_iff, hmem,
      ih hrests, Vintf.passthroughsOf_append, Text.NameSet.mem_union, or_or_or_comm]

end ShedsAll

namespace Device

/-- The manifests of another device have the same parts: of both, the same is left when HALs are taken
out, and the same HALs are taken out, in any order. All else that is read is the same. -/
structure Rearranges (allowed : List String → Content → Prop) (device other : Device) : Prop where
  properties : other.properties = device.properties
  path : other.root.path = device.root.path
  /-- The manifest of a vendor from before Treble is at a place of its own. -/
  legacy : other.manifests.legacy = device.manifests.legacy
  matrix : other.root.files (device.root.locate DeviceRoot.matrixPlace) =
    device.root.files (device.root.locate DeviceRoot.matrixPlace)
  policyDirectory : other.root.files device.root.policyDirectory =
    device.root.files device.root.policyDirectory
  policies : ∀ name, other.root.files (FileSystem.join device.root.policyDirectory name) =
    device.root.files (FileSystem.join device.root.policyDirectory name)
  manifests : ∃ rests hals otherRests otherHals,
    ShedsAll allowed device.root.files device.manifests.files rests hals ∧
    ShedsAll allowed other.root.files other.manifests.files otherRests otherHals ∧
    otherRests.Perm rests ∧ otherHals.Perm hals

/-- At most one manifest names a policy version, and at most one names a level. -/
structure NamesOnce (device : Device) : Prop where
  version : ((factsAt device.root.files device.manifests.files).filterMap
    (·.sepolicyVersion)).length ≤ 1
  level : ((factsAt device.root.files device.manifests.files).filterMap levelOf).length ≤ 1

namespace Rearranges

variable {device other : Device}

/-- Manifests with the same parts say the same in some order, and all of them give facts if all of the
others do. -/
theorem agree (same : device.Rearranges OutsideHals other) (scan : device.ManifestsScan) :
    other.ManifestsScan ∧ AgreeUpToOrder (factsAt device.root.files device.manifests.files)
      (factsAt other.root.files other.manifests.files) := by
  obtain ⟨rests, hals, otherRests, otherHals, sheds, otherSheds, hrests, hhals⟩ := same.manifests
  have hscan := (scan_iff_of_shedsAll sheds).mp scan
  have hother : ∀ rest ∈ otherRests, (restFacts rest).isSome := fun rest hrest =>
    hscan rest (hrests.mem_iff.mp hrest)
  -- What is left says the same in another order. HALs add neither versions nor levels to it.
  have hbases : (otherRests.filterMap restFacts).Perm (rests.filterMap restFacts) :=
    hrests.filterMap restFacts
  refine ⟨(scan_iff_of_shedsAll otherSheds).mpr hother, ?_, ?_, fun name => ?_⟩
  · rw [filterMap_factsAt ManifestFacts.sepolicyVersion_adding_ofHals sheds,
      filterMap_factsAt ManifestFacts.sepolicyVersion_adding_ofHals otherSheds]
    exact hbases.filterMap _
  · rw [filterMap_factsAt levelOf_adding_ofHals sheds,
      filterMap_factsAt levelOf_adding_ofHals otherSheds]
    exact hbases.filterMap _
  · rw [mem_passthroughHals_factsAt sheds hscan, mem_passthroughHals_factsAt otherSheds hother,
      Vintf.passthroughsOf_eq_of_perm hhals]
    simp only [hbases.mem_iff]

/-- The version is resolved to the same. -/
theorem resolve_eq {allowed : List String → Content → Prop} (same : device.Rearranges allowed other)
    (evidence : Evidence) : resolve other.root evidence = resolve device.root evidence := by
  have hroot : other.root = device.root.withFiles other.root.files := by
    rw [DeviceRoot.withFiles, ← same.path]
  have matrix : AgreeAt id device.root.files other.root.files
      (device.root.locate DeviceRoot.matrixPlace) := .of_eq same.matrix
  have policies : (device.root.withFiles other.root.files).policies = device.root.policies :=
    DeviceRoot.policies_withFiles (congrArg _ (FileSystem.names_of_eq same.policyDirectory))
      fun name _ _ => .of_eq (same.policies name)
  rw [hroot]
  -- The version of the manifests is part of the evidence, so only the matrix and the policy are read.
  apply resolve_congr
  · exact congrArg Vintf.Candidate.path? (DeviceRoot.candidate_withFiles matrix)
  · intro path hpath
    obtain ⟨_, opens, rfl⟩ := DeviceRoot.readable?_eq_some_iff.mp hpath
    have hread : (device.root.withFiles other.root.files).files.read
        (device.root.locate DeviceRoot.matrixPlace) =
          device.root.files.read (device.root.locate DeviceRoot.matrixPlace) :=
      matrix.read_eq (.inl opens)
    rw [MatrixFacts.ofFile, MatrixFacts.ofFile, Vintf.readDocument, Vintf.readDocument, hread]
  · exact DeviceRoot.sepolicyVersion_withFiles (.of_eq (same.policies _))
      (.of_eq (same.policies _)) policies

/-- Devices whose manifests have the same parts have the same result, if at most one version and at most
one level are named. -/
theorem detect_eq {σ : Type} (same : device.Rearranges OutsideHals other)
    (scan : device.ManifestsScan) (once : device.NamesOnce) (engine : Engine σ) (state : σ) :
    other.detect engine state = device.detect engine state := by
  obtain ⟨otherScan, agree⟩ := same.agree scan
  refine detectBy_congr ?_ ?_ same.legacy ?_ same.resolve_eq MatrixCheck.run engine state
  · rw [claims, claims, same.properties]
  · rw [manifestSummary_eq_ok scan, manifestSummary_eq_ok otherScan]
    exact congrArg Except.ok (agree.ofFacts_eq once.version once.level)
  · intro summary
    rw [matrixCheck, matrixCheck, vendorSku, vendorSku, hardwareSku, hardwareSku, same.properties,
      same.path]

end Rearranges

/-! ### Two manifests -/

/-- A manifest in canonical spelling. -/
structure SpelledManifest where
  root : String
  attributes : List (String × String) := []
  children : Content
  well : (Content.element root attributes children .done).WellFormed

namespace SpelledManifest

variable (manifest : SpelledManifest)

def tree : Content := .element manifest.root manifest.attributes manifest.children .done

def text : String := String.ofList manifest.tree.spelling

/-- What the manifest says. -/
def facts : ManifestFacts :=
  ((Vintf.ManifestScan.start manifest.root manifest.attributes).after manifest.tree).facts

theorem not_beginsWithMark_text : ¬ BeginsWithMark manifest.text := by
  simp [BeginsWithMark, text, tree, Content.spelling, Tag.startSpelling]

theorem ofFile_eq {manifest : SpelledManifest} {files : FileSystem} {path : String}
    (reads : Vintf.readDocument files path = .ok manifest.text) :
    ManifestFacts.ofFile files path = .ok manifest.facts := by
  rw [ManifestFacts.ofFile, reads]
  exact ManifestFacts.ofDocument_spelling path manifest.well

end SpelledManifest

def vendorPath : String := "vendor/etc/vintf/manifest.xml"

def fragmentPath : String := "vendor/etc/vintf/manifest/a.xml"

/-- A device that claims Treble, with a vendor manifest and a fragment of it. -/
def withFragment (vendor fragment : SpelledManifest) : Device :=
  { properties := fun name =>
      if name = Property.vndkLite then some "false"
      else if name = Property.vndkVersion then some "30"
      else none
    root :=
      { path := ""
        files := fun path =>
          if path = vendorPath then .ok (.file (.ok (Text.Utf8.encode vendor.text.toList)))
          else if path = fragmentPath then
            .ok (.file (.ok (Text.Utf8.encode fragment.text.toList)))
          else if path = "vendor/etc/vintf/manifest" then
            .ok (.directory (.ok ⟨["a.xml"], List.pairwise_singleton _ _⟩))
          else .error .notFound } }

section WithFragment

variable {vendor fragment other more : SpelledManifest}

theorem locate_withFragment (place : String) :
    (withFragment vendor fragment).root.locate place = place := by
  simp [DeviceRoot.locate, FileSystem.join, withFragment]

theorem manifests_withFragment :
    (withFragment vendor fragment).manifests = ⟨[vendorPath, fragmentPath], false⟩ := by
  have vendorFound : (withFragment vendor fragment).root.vendorManifest none = some vendorPath := by
    rw [DeviceRoot.vendorManifest, DeviceRoot.readable?, DeviceRoot.candidate, locate_withFragment]
    rfl
  have noOdm : (withFragment vendor fragment).root.odmManifest none = none := by
    rw [DeviceRoot.odmManifest, DeviceRoot.candidate, DeviceRoot.candidate, locate_withFragment,
      locate_withFragment]
    rfl
  have fragments : (withFragment vendor fragment).root.vendorFragments = [fragmentPath] := by
    rw [DeviceRoot.vendorFragments, FileSystem.filesIn, locate_withFragment]
    rfl
  have noFragments : (withFragment vendor fragment).root.odmFragments = [] := by
    rw [DeviceRoot.odmFragments, FileSystem.filesIn, locate_withFragment]
    rfl
  have modern : (withFragment vendor fragment).root.modernManifests none none =
      [vendorPath, fragmentPath] := by
    rw [DeviceRoot.modernManifests, vendorFound, noOdm, fragments, noFragments]
    rfl
  change (withFragment vendor fragment).root.manifests none none = _
  rw [DeviceRoot.manifests, modern]

theorem readDocument_vendor :
    Vintf.readDocument (withFragment vendor fragment).root.files vendorPath = .ok vendor.text := by
  have spells : Spells (withFragment vendor fragment).root.files vendorPath vendor.text :=
    ⟨_, .plain, rfl⟩
  exact spells.readDocument_eq vendor.not_beginsWithMark_text

theorem readDocument_fragment :
    Vintf.readDocument (withFragment vendor fragment).root.files fragmentPath =
      .ok fragment.text := by
  have spells : Spells (withFragment vendor fragment).root.files fragmentPath fragment.text :=
    ⟨_, .plain, rfl⟩
  exact spells.readDocument_eq fragment.not_beginsWithMark_text

theorem manifestsScan_withFragment : (withFragment vendor fragment).ManifestsScan := by
  intro path hpath
  rw [manifests_withFragment, List.mem_pair] at hpath
  rcases hpath with rfl | rfl
  · exact ⟨_, SpelledManifest.ofFile_eq readDocument_vendor⟩
  · exact ⟨_, SpelledManifest.ofFile_eq readDocument_fragment⟩

theorem factsAt_withFragment :
    factsAt (withFragment vendor fragment).root.files (withFragment vendor fragment).manifests.files =
      [vendor.facts, fragment.facts] := by
  have hvendor := SpelledManifest.ofFile_eq (@readDocument_vendor vendor fragment)
  have hfragment := SpelledManifest.ofFile_eq (@readDocument_fragment vendor fragment)
  rw [manifests_withFragment]
  simp only [factsAt, List.filterMap_cons, List.filterMap_nil, hvendor, hfragment, Except.toOption]

/-- The two manifests have these parts. -/
theorem shedsAll_withFragment {allowed : List String → Content → Prop} {rest moreRest : List Event}
    {hals moreHals : List Content}
    (sheds : Sheds allowed [] (Xml.expand vendor.tree.events) rest hals)
    (more : Sheds allowed [] (Xml.expand fragment.tree.events) moreRest moreHals) :
    ShedsAll allowed (withFragment vendor fragment).root.files
      (withFragment vendor fragment).manifests.files [rest, moreRest] (hals ++ (moreHals ++ [])) := by
  have hvendor : Xml.read vendor.text = ⟨vendor.tree.events, none⟩ := Xml.read_spelling vendor.well
  have hfragment : Xml.read fragment.text = ⟨fragment.tree.events, none⟩ :=
    Xml.read_spelling fragment.well
  rw [manifests_withFragment]
  refine .cons readDocument_vendor (by rw [hvendor]) (by rwa [hvendor]) ?_
  exact .cons readDocument_fragment (by rw [hfragment]) (by rwa [hfragment]) .nil

/-- Away from the manifests, two such devices have the same files. -/
theorem files_withFragment_of_ne {place : String} (notVendor : place ≠ vendorPath)
    (notFragment : place ≠ fragmentPath) :
    (withFragment other more).root.files ((withFragment vendor fragment).root.locate place) =
      (withFragment vendor fragment).root.files
        ((withFragment vendor fragment).root.locate place) := by
  rw [locate_withFragment]
  simp only [withFragment, if_neg notVendor, if_neg notFragment]

theorem rearranges_withFragment {allowed : List String → Content → Prop}
    {rest moreRest otherRest otherMoreRest : List Event}
    {hals moreHals otherHals otherMoreHals : List Content}
    (vendorSheds : Sheds allowed [] (Xml.expand vendor.tree.events) rest hals)
    (fragmentSheds : Sheds allowed [] (Xml.expand fragment.tree.events) moreRest moreHals)
    (otherSheds : Sheds allowed [] (Xml.expand other.tree.events) otherRest otherHals)
    (moreSheds : Sheds allowed [] (Xml.expand more.tree.events) otherMoreRest otherMoreHals)
    (sameRests : [otherRest, otherMoreRest].Perm [rest, moreRest])
    (sameHals : (otherHals ++ (otherMoreHals ++ [])).Perm (hals ++ (moreHals ++ []))) :
    (withFragment vendor fragment).Rearranges allowed (withFragment other more) where
  properties := rfl
  path := rfl
  legacy := by rw [manifests_withFragment, manifests_withFragment]
  matrix := files_withFragment_of_ne (by decide) (by decide)
  policyDirectory := files_withFragment_of_ne (by decide) (by decide)
  policies name := by
    have apart : Vintf.Apart "vendor/etc/selinux/" "vendor/etc/vintf/manifest" := by decide
    rw [DeviceRoot.join_policyDirectory]
    exact files_withFragment_of_ne (apart.append_ne name ".xml") (apart.append_ne name "/a.xml")
  manifests := ⟨_, _, _, _, shedsAll_withFragment vendorSheds fragmentSheds,
    shedsAll_withFragment otherSheds moreSheds, sameRests, sameHals⟩

/-- What the two manifests say together. -/
theorem merged_withFragment : (withFragment vendor fragment).merged =
    .ofFacts [vendor.facts, fragment.facts] :=
  congrArg ManifestSummary.ofFacts factsAt_withFragment

theorem namesOnce_withFragment
    (version : ([vendor.facts, fragment.facts].filterMap (·.sepolicyVersion)).length ≤ 1)
    (level : ([vendor.facts, fragment.facts].filterMap levelOf).length ≤ 1) :
    (withFragment vendor fragment).NamesOnce :=
  ⟨by rwa [factsAt_withFragment], by rwa [factsAt_withFragment]⟩

end WithFragment

/-- The fields of a passthrough HAL. -/
def wifiFields : Content :=
  .element "name" [] (.text "android.hardware.wifi" .done)
    (.element "transport" [] (.text "passthrough" .done) .done)

/-- A policy of a version. -/
def policy : Content :=
  .element "sepolicy" [] (.element "version" [] (.text "27.0" .done) .done) .done

/-- A manifest that names a level. -/
def leveled (children : Content) (well : children.WellFormed) : SpelledManifest :=
  ⟨"manifest", [("target-level", "4")], children, by decide, by decide, well, trivial⟩

/-- The vendor manifest names a level and a HAL, its fragment the version. -/
def together : Device :=
  withFragment (leveled (.element "hal" [] wifiFields .done) (by decide))
    ⟨"manifest", [], policy, by decide⟩

/-- The vendor manifest names a HAL and the version, its fragment the level. -/
def separate : Device :=
  withFragment ⟨"manifest", [], .element "hal" [] wifiFields policy, by decide⟩
    (leveled .done trivial)

/-- The same HAL is taken out of one of the manifests each, and they change places. -/
theorem rearranges_separate : together.Rearranges OutsideHals separate := by
  have free : OutsideHals ["manifest"] wifiFields := ⟨by decide, by decide, by decide⟩
  refine rearranges_withFragment (Vintf.sheds_firstChild free _ .done) (Vintf.sheds_spelling _)
    (Vintf.sheds_firstChild free [] policy) (Vintf.sheds_spelling _) ?_ ?_
  · exact .swap ..
  · exact .refl _

/-- Merging is a homomorphism, in which the first version and the first level hold and the passthrough
HALs are united. So manifests may be put in another order, and HALs without a policy in them may go
from one place to another, of the same manifest or another one, where neither place is in a HAL: if at
most one manifest names a version and at most one a level, the result is the same. -/
theorem detect_rearranged {σ : Type} (device other : Device) (engine : Engine σ) (state : σ) :
    (∀ front back, ManifestSummary.Merges device.root.files front back) ∧
      (device.Rearranges OutsideHals other → device.ManifestsScan → device.NamesOnce →
        other.ManifestsScan ∧ other.detect engine state = device.detect engine state) := by
  constructor
  · exact ManifestSummary.merges device.root.files
  · intro same scan once
    exact ⟨(same.agree scan).1, same.detect_eq scan once engine state⟩

/-- A level and a HAL may be in the same manifest or not. -/
theorem detect_rearranged_separate :
    together.Rearranges OutsideHals separate ∧ together.ManifestsScan ∧ together.NamesOnce ∧
      separate.detect Engine.absent () = together.detect Engine.absent () := by
  have scan : together.ManifestsScan := manifestsScan_withFragment
  have once : together.NamesOnce := namesOnce_withFragment (by decide +kernel) (by decide +kernel)
  have same := (detect_rearranged together separate Engine.absent ()).2 rearranges_separate scan once
  exact ⟨rearranges_separate, scan, once, same.2⟩

/-- The vendor manifest is a passthrough HAL with an empty one in front of its fields. -/
def lostHal : Device :=
  withFragment ⟨"hal", [], .element "hal" [] .done wifiFields, by decide⟩
    ⟨"manifest", [], .done, by decide⟩

/-- The empty HAL is in the fragment. -/
def keptHal : Device :=
  withFragment ⟨"hal", [], wifiFields, by decide⟩
    ⟨"manifest", [], .element "hal" [] .done .done, by decide⟩

theorem rearranges_keptHal : lostHal.Rearranges ChildOfRoot keptHal := by
  have free : ChildOfRoot ["hal"] .done := ⟨rfl, trivial, trivial⟩
  have otherFree : ChildOfRoot ["manifest"] .done := ⟨rfl, trivial, trivial⟩
  refine rearranges_withFragment (Vintf.sheds_firstChild free [] wifiFields)
    (Vintf.sheds_spelling _) (Vintf.sheds_spelling _)
    (Vintf.sheds_firstChild otherFree [] .done) ?_ ?_
  · exact .refl _
  · exact .refl _

theorem merged_lostHal : lostHal.merged = {} := by
  rw [lostHal, merged_withFragment]
  decide +kernel

theorem merged_keptHal : keptHal.merged =
    { passthroughHals := .insert ∅ "android.hardware.wifi" } := by
  rw [keptHal, merged_withFragment]
  decide +kernel

/-- A root may be a HAL itself. With a HAL as a child, it is lost, and the device is found to comply. -/
theorem detect_lostHal :
    lostHal.Rearranges ChildOfRoot keptHal ∧ lostHal.ManifestsScan ∧ keptHal.ManifestsScan ∧
      lostHal.NamesOnce ∧
      (lostHal.detect Engine.absent ()).1 = .ok (.treble (lostHal.factsWith ⟨30, 0⟩)) ∧
      (keptHal.detect Engine.absent ()).1 =
        .error (contradictedByHals (.insert ∅ "android.hardware.wifi")) := by
  have lostScan : lostHal.ManifestsScan := manifestsScan_withFragment
  have keptScan : keptHal.ManifestsScan := manifestsScan_withFragment
  have once : lostHal.NamesOnce := namesOnce_withFragment (by decide +kernel) (by decide +kernel)
  have present : lostHal.vndkProperty = some ⟨30, 0⟩ := by decide
  have lost : Detected lostHal Engine.absent () (.ok (.treble (lostHal.factsWith ⟨30, 0⟩))) := by
    refine .treble ⟨by decide, lostScan⟩ (undecided_absent _).passesMatrices ?_ (.byProperty present)
    rw [merged_lostHal]
    decide
  have kept : Detected keptHal Engine.absent ()
      (.error (contradictedByHals keptHal.merged.passthroughHals)) := by
    refine .halsContradict ⟨by decide, keptScan⟩ (undecided_absent _).passesMatrices ?_ ?_
    · rw [merged_keptHal]
      decide
    · exact .inl (by decide)
  rw [merged_keptHal] at kept
  exact ⟨rearranges_keptHal, lostScan, keptScan, once, lost.fst_detect_eq, kept.fst_detect_eq⟩

end Device

end Detection

end Treble
