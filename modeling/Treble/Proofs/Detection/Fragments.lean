import Treble.Proofs.Detection.Compliance
import Treble.Proofs.Detection.Rearrangement

/-!
# Further fragments

A device that is given further fragments of its manifests keeps all manifests that it had. Fragments are
only looked for where the vendor manifest was found, so that none of them takes the place of the manifest
of a vendor from before Treble. Since the HALs of all manifests are united, a further fragment can only
worsen the class of the device, and it does not matter which manifest a HAL is in.

## Main definitions

* `Detection.Device.AddsFragments` — another device has more fragments, and is the same otherwise
* `Detection.Device.Declares` — some manifest of a device names a passthrough HAL

## Main results

* `Detection.Device.AddsFragments.mem_manifests` — the manifests that were located still are
* `Detection.Device.mem_merged_iff` — the HALs of the merged manifests
* `Detection.Device.compliance_composes` — how the class of some HALs is put together
-/

namespace Treble.Detection

open FileSystem (AgreeAt)
open Text (NameSet)
open Vintf (Apart DeviceRoot ManifestFacts ManifestKind)

namespace Device

variable {device other : Device} {path hal : String}

/-- The directories that hold fragments of manifests. -/
def fragmentPlaces : List String := [DeviceRoot.vendorFragmentPlace, DeviceRoot.odmFragmentPlace]

theorem join_fragmentPlace {place : String} (mem : place ∈ fragmentPlaces) (root : DeviceRoot)
    (name : String) :
    FileSystem.join (root.locate place) name = root.locate (place ++ "/" ++ name) := by
  have last : ∀ place ∈ fragmentPlaces, place.toList.getLast? = some 't' := by decide
  exact FileSystem.join_join (last place mem) (by decide) _ _

/-- What begins like a document that is no fragment is neither a directory of fragments nor in one. -/
theorem ne_fragment {start place : String} {vendor odm : Bool}
    (begins : start ∈ DeviceRoot.matrixPlace :: DeviceRoot.manifestStarts vendor odm)
    (mem : place ∈ fragmentPlaces) (rest : String) :
    start ++ rest ≠ place ∧ ∀ name, start ++ rest ≠ place ++ "/" ++ name := by
  have apart : ∀ vendor odm, ∀ start ∈ DeviceRoot.matrixPlace :: DeviceRoot.manifestStarts vendor odm,
      ∀ place ∈ fragmentPlaces,
        ¬ start.toList <+: place.toList ∧ Apart start (place ++ "/") := by decide
  obtain ⟨notPrefix, below⟩ := apart vendor odm start begins place mem
  refine ⟨?_, below.append_ne rest⟩
  rintro rfl
  rw [String.toList_append] at notPrefix
  exact notPrefix (List.prefix_append ..)

/-- A fragment is not a directory of fragments, nor does it stand in another one. -/
theorem ne_of_fragment {own place : String} (ownMem : own ∈ fragmentPlaces)
    (mem : place ∈ fragmentPlaces) (name : String) :
    own ++ "/" ++ name ≠ place ∧
      (own ≠ place → ∀ other, own ++ "/" ++ name ≠ place ++ "/" ++ other) := by
  have apart : ∀ own ∈ fragmentPlaces, ∀ place ∈ fragmentPlaces,
      ¬ (own ++ "/").toList <+: place.toList ∧
        (own ≠ place → Apart (own ++ "/") (place ++ "/")) := by decide
  obtain ⟨notPrefix, below⟩ := apart own ownMem place mem
  refine ⟨?_, fun ne => (below ne).append_ne name⟩
  rintro rfl
  rw [String.toList_append (s := own ++ "/")] at notPrefix
  exact notPrefix (List.prefix_append ..)

/-! ### Two devices of which one has more fragments -/

/-- Another device has more fragments: there are further names in the directories that hold them, and
nothing but these directories and what stands at the further names has changed. -/
structure AddsFragments (device other : Device) : Prop where
  properties : other.properties = device.properties
  path : other.root.path = device.root.path
  names : ∀ place ∈ fragmentPlaces, ∀ name ∈ device.root.files.names (device.root.locate place),
    name ∈ other.root.files.names (device.root.locate place)
  kept : ∀ path,
    (∀ place ∈ fragmentPlaces, path ≠ device.root.locate place ∧
      ∀ name ∉ device.root.files.names (device.root.locate place),
        path ≠ FileSystem.join (device.root.locate place) name) →
    other.root.files path = device.root.files path

namespace AddsFragments

theorem sameVendorSku (adds : device.AddsFragments other) : other.vendorSku = device.vendorSku := by
  rw [vendorSku, adds.properties, vendorSku]

theorem sameHardwareSku (adds : device.AddsFragments other) :
    other.hardwareSku = device.hardwareSku := by
  rw [hardwareSku, adds.properties, hardwareSku]

theorem locate_eq (adds : device.AddsFragments other) (place : String) :
    other.root.locate place = device.root.locate place := by
  rw [DeviceRoot.locate, adds.path, DeviceRoot.locate]

/-- What begins like a document that is no fragment is as it was. -/
theorem files_eq_of_start (adds : device.AddsFragments other) {start : String} {vendor odm : Bool}
    (begins : start ∈ DeviceRoot.matrixPlace :: DeviceRoot.manifestStarts vendor odm)
    (rest : String) :
    other.root.files (device.root.locate (start ++ rest)) =
      device.root.files (device.root.locate (start ++ rest)) := by
  refine adds.kept _ fun place mem => ?_
  obtain ⟨notDirectory, notBelow⟩ := ne_fragment begins mem rest
  refine ⟨mt DeviceRoot.locate_inj.mp notDirectory, fun name _ => ?_⟩
  rw [join_fragmentPlace mem]
  exact mt DeviceRoot.locate_inj.mp (notBelow name)

/-- A fragment that the device had is as it was. -/
theorem files_join_eq (adds : device.AddsFragments other) {own name : String}
    (ownMem : own ∈ fragmentPlaces)
    (listed : name ∈ device.root.files.names (device.root.locate own)) :
    other.root.files (FileSystem.join (device.root.locate own) name) =
      device.root.files (FileSystem.join (device.root.locate own) name) := by
  refine adds.kept _ fun place mem => ⟨?_, fun further unlisted => ?_⟩
  · rw [join_fragmentPlace ownMem]
    exact mt DeviceRoot.locate_inj.mp (ne_of_fragment ownMem mem name).1
  · by_cases same : own = place
    · -- In its own directory a fragment is known by its name.
      subst same
      exact mt FileSystem.join_inj.mp (ne_of_mem_of_not_mem listed unlisted)
    · rw [join_fragmentPlace ownMem, join_fragmentPlace mem]
      exact mt DeviceRoot.locate_inj.mp ((ne_of_fragment ownMem mem name).2 same further)

/-- The documents of the device are as they were. -/
theorem files_eq (adds : device.AddsFragments other)
    (document : device.root.IsDocument device.vendorSku device.hardwareSku path) :
    other.root.files path = device.root.files path := by
  cases document with
  | manifest mem =>
    obtain ⟨start, hstart, rest, rfl⟩ := DeviceRoot.exists_start_of_mem mem
    exact adds.files_eq_of_start (List.mem_cons_of_mem _ hstart) rest
  | vendorFragment mem => exact adds.files_join_eq (List.mem_cons_self ..) mem
  | odmFragment mem =>
    exact adds.files_join_eq (List.mem_cons_of_mem _ (List.mem_singleton_self _)) mem
  | matrix =>
    have mem : DeviceRoot.matrixPlace ∈ DeviceRoot.matrixPlace :: DeviceRoot.manifestStarts true true :=
      List.mem_cons_self ..
    have kept := adds.files_eq_of_start mem ""
    rwa [String.append_empty] at kept

theorem ofFile_eq (adds : device.AddsFragments other)
    (document : device.root.IsDocument device.vendorSku device.hardwareSku path) :
    ManifestFacts.ofFile other.root.files path = ManifestFacts.ofFile device.root.files path := by
  simp only [ManifestFacts.ofFile, Vintf.readDocument, FileSystem.read, adds.files_eq document]

/-! ### Their manifests -/

theorem finds_iff (adds : device.AddsFragments other) {place : String}
    (mem : place ∈ DeviceRoot.manifestPlaces device.vendorSku device.hardwareSku) :
    other.root.Finds place ↔ device.root.Finds place := by
  have agree : AgreeAt id _ _ _ := .of_eq (adds.files_eq (.manifest mem))
  rw [DeviceRoot.Finds, DeviceRoot.Finds, adds.locate_eq, agree.leadsTo, agree.opens]

theorem finds_vendor_iff (adds : device.AddsFragments other) :
    other.root.Finds (DeviceRoot.vendorPlace device.vendorSku) ↔
      device.root.Finds (DeviceRoot.vendorPlace device.vendorSku) :=
  adds.finds_iff (by simp [DeviceRoot.manifestPlaces])

/-- Of manifests that are no fragments, there are the same. -/
theorem hasManifest_odm_iff (adds : device.AddsFragments other) :
    other.root.HasManifest device.vendorSku device.hardwareSku .odm path ↔
      device.root.HasManifest device.vendorSku device.hardwareSku .odm path := by
  have preferred : DeviceRoot.odmPlace device.hardwareSku ∈
      DeviceRoot.manifestPlaces device.vendorSku device.hardwareSku := by
    simp [DeviceRoot.manifestPlaces]
  have fallback : DeviceRoot.odmFallbackPlace device.hardwareSku ∈
      DeviceRoot.manifestPlaces device.vendorSku device.hardwareSku := by
    simp [DeviceRoot.manifestPlaces]
  have agree : AgreeAt id _ _ _ := .of_eq (adds.files_eq (.manifest preferred))
  simp only [DeviceRoot.hasManifest_odm_iff, adds.finds_iff preferred, adds.finds_iff fallback,
    adds.locate_eq, agree.leadsTo]

/-- A manifest of some kind still is one. -/
theorem hasManifest (adds : device.AddsFragments other) {kind : ManifestKind}
    (manifest : device.root.HasManifest device.vendorSku device.hardwareSku kind path) :
    other.root.HasManifest device.vendorSku device.hardwareSku kind path := by
  cases kind with
  | vendor =>
    rw [DeviceRoot.hasManifest_vendor_iff] at manifest ⊢
    exact ⟨adds.finds_vendor_iff.mpr manifest.1, manifest.2.trans (adds.locate_eq _).symm⟩
  | vendorFragment =>
    rw [DeviceRoot.hasManifest_vendorFragment_iff] at manifest ⊢
    obtain ⟨finds, ⟨name, listed, rfl⟩, isFile, opens⟩ := manifest
    have mem : DeviceRoot.vendorFragmentPlace ∈ fragmentPlaces := List.mem_cons_self ..
    have agree : AgreeAt id _ _ _ := .of_eq (adds.files_join_eq mem listed)
    refine ⟨adds.finds_vendor_iff.mpr finds, ⟨name, ?_, ?_⟩, agree.isFile.trans isFile,
      agree.opens.trans opens⟩
    · rw [adds.locate_eq]
      exact adds.names _ mem name listed
    · rw [adds.locate_eq]
  | odm => exact adds.hasManifest_odm_iff.mpr manifest
  | odmFragment =>
    rw [DeviceRoot.hasManifest_odmFragment_iff] at manifest ⊢
    obtain ⟨finds, ⟨name, listed, rfl⟩, isFile⟩ := manifest
    have mem : DeviceRoot.odmFragmentPlace ∈ fragmentPlaces :=
      List.mem_cons_of_mem _ (List.mem_singleton_self _)
    have agree : AgreeAt id _ _ _ := .of_eq (adds.files_join_eq mem listed)
    refine ⟨adds.finds_vendor_iff.mpr finds, ⟨name, ?_, ?_⟩, agree.isFile.trans isFile⟩
    · rw [adds.locate_eq]
      exact adds.names _ mem name listed
    · rw [adds.locate_eq]

/-- Where there is a manifest now, there was one before: fragments are nothing without the vendor
manifest. -/
theorem exists_hasManifest (adds : device.AddsFragments other) {kind : ManifestKind}
    (manifest : other.root.HasManifest device.vendorSku device.hardwareSku kind path) :
    ∃ kind path, device.root.HasManifest device.vendorSku device.hardwareSku kind path := by
  have vendor (finds : other.root.Finds (DeviceRoot.vendorPlace device.vendorSku)) :
      ∃ kind path, device.root.HasManifest device.vendorSku device.hardwareSku kind path :=
    ⟨.vendor, _, DeviceRoot.hasManifest_vendor_iff.mpr ⟨adds.finds_vendor_iff.mp finds, rfl⟩⟩
  cases kind with
  | vendor => exact vendor (DeviceRoot.hasManifest_vendor_iff.mp manifest).1
  | vendorFragment => exact vendor (DeviceRoot.hasManifest_vendorFragment_iff.mp manifest).1
  | odm => exact ⟨.odm, path, adds.hasManifest_odm_iff.mp manifest⟩
  | odmFragment => exact vendor (DeviceRoot.hasManifest_odmFragment_iff.mp manifest).1

/-- The manifests that were located still are, the one from before Treble among them. -/
theorem mem_manifests (adds : device.AddsFragments other) (mem : path ∈ device.manifests.files) :
    path ∈ other.manifests.files := by
  rw [manifests, DeviceRoot.mem_manifests_iff] at mem
  rw [manifests, adds.sameVendorSku, adds.sameHardwareSku, DeviceRoot.mem_manifests_iff]
  rcases mem with ⟨kind, manifest⟩ | ⟨none, finds, rfl⟩
  · exact .inl ⟨kind, adds.hasManifest manifest⟩
  · refine .inr ⟨fun kind path manifest => ?_, ?_, (adds.locate_eq _).symm⟩
    · obtain ⟨kind, path, manifest⟩ := adds.exists_hasManifest manifest
      exact none kind path manifest
    · exact (adds.finds_iff (by simp [DeviceRoot.manifestPlaces])).mpr finds

/-- And they have the same facts. -/
theorem ofFile_eq_of_mem (adds : device.AddsFragments other) (mem : path ∈ device.manifests.files) :
    ManifestFacts.ofFile other.root.files path = ManifestFacts.ofFile device.root.files path :=
  adds.ofFile_eq (DeviceRoot.located_of_mem mem).isDocument

end AddsFragments

/-! ### The HALs of all manifests -/

/-- Some manifest of the device names a passthrough HAL. -/
def Declares (device : Device) (hal : String) : Prop :=
  ∃ path ∈ device.manifests.files, ∃ facts,
    ManifestFacts.ofFile device.root.files path = .ok facts ∧ hal ∈ facts.passthroughHals

/-- The HALs of the merged manifests are those that some manifest names. -/
theorem mem_merged_iff : hal ∈ device.merged.passthroughHals ↔ device.Declares hal := by
  have merged : device.merged = .ofFacts (factsAt device.root.files device.manifests.files) := rfl
  have ofFile (path : String) (facts : ManifestFacts) :
      (ManifestFacts.ofFile device.root.files path).toOption = some facts ↔
        ManifestFacts.ofFile device.root.files path = .ok facts :=
    ⟨eq_ok_of_toOption, fun h => by rw [h]; rfl⟩
  rw [merged, ManifestSummary.mem_passthroughHals_ofFacts, Declares]
  simp only [factsAt, List.mem_filterMap, ofFile, ← exists_and_right, ← exists_and_left, and_assoc]
  exact exists_comm

/-- There is a summary iff all manifests give facts. -/
theorem manifestSummary_eq_ok_iff {summary : ManifestSummary} :
    device.manifestSummary = .ok summary ↔ device.ManifestsScan ∧ device.merged = summary := by
  by_cases scan : device.ManifestsScan
  · simp only [manifestSummary_eq_ok scan, Except.ok.injEq, scan, true_and]
  · obtain ⟨_, _, _, error, _, _, _, fails⟩ := exists_manifestSummary_eq_error scan
    simp [fails, scan]

/-- The HALs that a summary has are those that some manifest names. -/
theorem mem_manifestSummary_iff {summary : ManifestSummary}
    (gives : device.manifestSummary = .ok summary) :
    hal ∈ summary.passthroughHals ↔ device.Declares hal := by
  rw [← (manifestSummary_eq_ok_iff.mp gives).2, mem_merged_iff]

namespace AddsFragments

theorem declares (adds : device.AddsFragments other) (declares : device.Declares hal) :
    other.Declares hal := by
  obtain ⟨path, mem, facts, gives, hmem⟩ := declares
  exact ⟨path, adds.mem_manifests mem, facts, (adds.ofFile_eq_of_mem mem).trans gives, hmem⟩

/-- If all manifests give facts with the further fragments, they did without them. -/
theorem manifestsScan (adds : device.AddsFragments other) (scan : other.ManifestsScan) :
    device.ManifestsScan := by
  intro path mem
  rw [← adds.ofFile_eq_of_mem mem]
  exact scan path (adds.mem_manifests mem)

end AddsFragments

/-- Classes of HALs are put together: of two sets the worse class holds, there is no compliance iff there
is a HAL that must not stay, and HALs that never count may be left out. So further fragments can only
worsen the class of a device, and it does not matter which manifest a HAL is in. -/
theorem compliance_composes :
    (Compliance.full < .upgrade ∧ Compliance.upgrade < .none) ∧
    (∀ hals others, compliance (hals ∪ others) = max (compliance hals) (compliance others)) ∧
    (∀ hals, compliance hals = .none ↔ ∃ name ∈ hals, name ∈ requiredBinderized) ∧
    (∀ (hals : NameSet) (keep : String → Bool), (∀ name, keep name = false → IsExempt name) →
      compliance (hals.filter keep) = compliance hals) ∧
    (∀ device other : Device, device.AddsFragments other →
      ∀ more, other.manifestSummary = .ok more →
        ∃ summary, device.manifestSummary = .ok summary ∧
          compliance summary.passthroughHals ≤ compliance more.passthroughHals) ∧
    ∀ (device other : Device) (summary otherSummary : ManifestSummary),
      device.manifestSummary = .ok summary → other.manifestSummary = .ok otherSummary →
      (∀ hal, other.Declares hal ↔ device.Declares hal) →
        compliance otherSummary.passthroughHals = compliance summary.passthroughHals := by
  refine ⟨by decide, compliance_union, fun hals => compliance_eq_none_iff,
    fun hals keep exempt => compliance_filter exempt, ?_, ?_⟩
  · intro device other adds more gives
    obtain ⟨scan, -⟩ := manifestSummary_eq_ok_iff.mp gives
    have before := manifestSummary_eq_ok (adds.manifestsScan scan)
    refine ⟨device.merged, before, compliance_mono fun hal mem => ?_⟩
    rw [mem_manifestSummary_iff before] at mem
    exact (mem_manifestSummary_iff gives).mpr (adds.declares mem)
  · intro device other summary otherSummary gives givesOther same
    have hals : otherSummary.passthroughHals = summary.passthroughHals := by
      apply NameSet.ext
      intro hal
      rw [mem_manifestSummary_iff gives, mem_manifestSummary_iff givesOther, same]
    rw [hals]

theorem wellFormed_plain : (Xml.Content.element "manifest" [] policy .done).WellFormed := by decide

/-- A vendor manifest without HALs. -/
def plainManifest : SpelledManifest := ⟨"manifest", [], policy, wellFormed_plain⟩

/-- A manifest with a HAL that must not stay. -/
def wifiManifest : SpelledManifest :=
  ⟨"manifest", [], .element "hal" [] wifiFields .done, by decide⟩

/-- A device with the vendor manifest and no directory of fragments. -/
def unfragmented : Device :=
  { withFragment plainManifest wifiManifest with
    root :=
      { path := ""
        files := fun path =>
          if path = vendorPath then .ok (.file (.ok (Text.Utf8.encode plainManifest.text.toList)))
          else .error .notFound } }

theorem addsFragments_unfragmented :
    unfragmented.AddsFragments (withFragment plainManifest wifiManifest) where
  properties := rfl
  path := rfl
  names place mem name listed := by
    have apart : ∀ place ∈ fragmentPlaces, unfragmented.root.locate place ≠ vendorPath := by decide
    have absent : unfragmented.root.files (unfragmented.root.locate place) = .error .notFound :=
      if_neg (apart place mem)
    rw [FileSystem.names, absent] at listed
    cases listed
  kept path apart := by
    obtain ⟨notDirectory, notBelow⟩ := apart DeviceRoot.vendorFragmentPlace (List.mem_cons_self ..)
    have notFragment : path ≠ fragmentPath := notBelow "a.xml" (by decide)
    have notListed : path ≠ "vendor/etc/vintf/manifest" := notDirectory
    simp only [withFragment, unfragmented, if_neg notFragment, if_neg notListed]

/-- With the fragment the device no longer complies. A HAL that may always stay does not count, and a
HAL may be in the vendor manifest or in a fragment of it. -/
theorem compliance_composes_wifi :
    (∃ more summary, (withFragment plainManifest wifiManifest).manifestSummary = .ok more ∧
      unfragmented.manifestSummary = .ok summary ∧
      compliance summary.passthroughHals ≤ compliance more.passthroughHals ∧
      compliance more.passthroughHals = .none) ∧
    compliance ((NameSet.ofList ["android.hardware.renderscript", "android.hardware.light"]).filter
      (· != "android.hardware.renderscript")) = .upgrade ∧
    ∃ summary other, together.manifestSummary = .ok summary ∧ separate.manifestSummary = .ok other ∧
      compliance other.passthroughHals = compliance summary.passthroughHals := by
  obtain ⟨-, -, -, leftOut, fragments, anyManifest⟩ := compliance_composes
  refine ⟨?_, ?_, ?_⟩
  · have gives := manifestSummary_eq_ok (@manifestsScan_withFragment plainManifest wifiManifest)
    obtain ⟨summary, before, worse⟩ := fragments _ _ addsFragments_unfragmented _ gives
    refine ⟨_, summary, gives, before, worse, ?_⟩
    rw [merged_withFragment]
    decide +kernel
  · have exempt : IsExempt "android.hardware.renderscript" := by decide
    rw [leftOut _ _ fun name dropped => by
      rw [bne_eq_false_iff_eq] at dropped
      exact dropped ▸ exempt]
    decide +kernel
  · have gives : together.manifestSummary = .ok together.merged :=
      manifestSummary_eq_ok manifestsScan_withFragment
    have givesOther : separate.manifestSummary = .ok separate.merged :=
      manifestSummary_eq_ok manifestsScan_withFragment
    have hals : separate.merged.passthroughHals = together.merged.passthroughHals := by
      rw [separate, together, merged_withFragment, merged_withFragment]
      decide +kernel
    refine ⟨_, _, gives, givesOther, anyManifest _ _ _ _ gives givesOther fun hal => ?_⟩
    rw [← mem_merged_iff, ← mem_merged_iff, hals]

end Device

end Treble.Detection
