import Mathlib.Data.List.Nodup
import Treble.Proofs.Vintf.Places

/-!
# Which manifests are located

A device with Treble has manifests of four kinds. Each kind has conditions of its own, and what is
found of one kind bears on others: without the vendor manifest there are no fragments, and an ODM
manifest that does not open keeps the one in the other directory from being looked for. The located
manifests are those of the four kinds, kind by kind, and the one from before Treble if there are none.

## Main definitions

* `FileSystem.Lists` — a path leads to an entry of a directory
* `Vintf.ManifestKind` — the kinds of manifests
* `Vintf.DeviceRoot.Selects` — the place of the manifest that a variant selects
* `Vintf.DeviceRoot.HasManifest` — a path leads to a manifest of a kind
* `Vintf.DeviceRoot.Locates` — a set of manifests is the right one

## Main results

* `Vintf.DeviceRoot.manifests_congr` — an empty product variant is the same as none
* `Vintf.DeviceRoot.HasManifest.kind_unique` — no path leads to manifests of two kinds
* `Vintf.DeviceRoot.locates_manifests` — the right manifests are located
-/

namespace Treble

namespace FileSystem

variable {files : FileSystem} {path directory : String}

/-- A path leads to an entry of a directory. One that cannot be listed shows no entries. -/
def Lists (files : FileSystem) (directory path : String) : Prop :=
  ∃ name ∈ files.names directory, path = join directory name

theorem mem_filesIn_iff_lists :
    path ∈ files.filesIn directory ↔ files.Lists directory path ∧ files.isFile path = true := by
  simp only [mem_filesIn_iff, Lists, eq_comm]

/-- The names in a directory are given in ascending order. -/
theorem pairwise_names (files : FileSystem) (directory : String) :
    (files.names directory).Pairwise (· < ·) := by
  unfold names
  split
  · next names _ => exact names.ascending
  · exact .nil

/-- So are the names of those regular files in it that have some property. -/
theorem exists_filter_filesIn_eq (files : FileSystem) (directory : String) (p : String → Bool) :
    ∃ names : List String, names.Pairwise (· < ·) ∧
      (files.filesIn directory).filter p = names.map (join directory) := by
  refine ⟨((files.names directory).filter (files.isFile ∘ join directory)).filter
    (p ∘ join directory), ?_, ?_⟩
  · exact ((files.pairwise_names directory).filter _).filter _
  · rw [filesIn, List.filter_map, List.filter_map]

theorem nodup_map_join {names : List String} (ascending : names.Pairwise (· < ·)) :
    (names.map (join directory)).Nodup := by
  apply List.Nodup.map
  · exact fun _ _ h => join_inj.mp h
  · refine ascending.imp ?_
    rintro name _ h rfl
    exact String.lt_irrefl name h

end FileSystem

namespace Vintf

/-- The kinds of manifests of a device with Treble, in merge order. -/
inductive ManifestKind where
  | vendor
  | vendorFragment
  | odm
  | odmFragment
deriving DecidableEq, Repr

namespace DeviceRoot

variable {device : DeviceRoot} {vendorSku hardwareSku otherVendor otherHardware : Option String}
  {path : String} {kind other : ManifestKind}

/-! ### Empty variants -/

/-- A variant that is empty is none. -/
theorem manifestName_getD (sku : Option String) :
    manifestName (some (sku.getD "")) = manifestName sku := by
  cases sku <;> rfl

theorem manifestName_congr {sku other : Option String} (h : other.getD "" = sku.getD "") :
    manifestName other = manifestName sku := by
  rw [← manifestName_getD, h, manifestName_getD]

/-- Variants that are the same, where an empty one is none, select the same manifests. -/
theorem manifests_congr (device : DeviceRoot) (vendor : otherVendor.getD "" = vendorSku.getD "")
    (hardware : otherHardware.getD "" = hardwareSku.getD "") :
    device.manifests otherVendor otherHardware = device.manifests vendorSku hardwareSku := by
  have hvendor : vendorPlace otherVendor = vendorPlace vendorSku :=
    congrArg ("vendor/etc/vintf/" ++ ·) (manifestName_congr vendor)
  have hodm : odmPlace otherHardware = odmPlace hardwareSku :=
    congrArg ("odm/etc/vintf/" ++ ·) (manifestName_congr hardware)
  have hfallback : odmFallbackPlace otherHardware = odmFallbackPlace hardwareSku :=
    congrArg ("odm/etc/" ++ ·) (manifestName_congr hardware)
  simp only [manifests, modernManifests, vendorManifest, odmManifest, hvendor, hodm, hfallback]

/-! ### The manifests of each kind -/

/-- Something stands at a place, and it opens. -/
def Finds (device : DeviceRoot) (place : String) : Prop :=
  device.files.leadsTo (device.locate place) = true ∧ device.files.opens (device.locate place) = true

/-- A place in a directory is that of the manifest which a variant selects. A variant that is empty is the
same as none. -/
inductive Selects (directory : String) : Option String → String → Prop
  | plain {sku : Option String} (none : sku.getD "" = "") :
      Selects directory sku (directory ++ "manifest.xml")
  | variant {sku : String} (named : sku ≠ "") :
      Selects directory (some sku) (directory ++ ("manifest_" ++ sku ++ ".xml"))

/-- A path leads to a manifest of a kind. -/
def HasManifest (device : DeviceRoot) (vendorSku hardwareSku : Option String) :
    ManifestKind → String → Prop
  | .vendor, path =>
    ∃ place, Selects "vendor/etc/vintf/" vendorSku place ∧ device.Finds place ∧
      path = device.locate place
  | .vendorFragment, path =>
    (∃ place, Selects "vendor/etc/vintf/" vendorSku place ∧ device.Finds place) ∧
      device.files.Lists (device.locate "vendor/etc/vintf/manifest") path ∧
      device.files.isFile path = true ∧ device.files.opens path = true
  | .odm, path =>
    ∃ first second, Selects "odm/etc/vintf/" hardwareSku first ∧
      Selects "odm/etc/" hardwareSku second ∧
      (device.Finds first ∧ path = device.locate first ∨
        device.Finds second ∧ device.files.leadsTo (device.locate first) = false ∧
          path = device.locate second)
  | .odmFragment, path =>
    (∃ place, Selects "vendor/etc/vintf/" vendorSku place ∧ device.Finds place) ∧
      device.files.Lists (device.locate "odm/etc/vintf/manifest") path ∧
      device.files.isFile path = true

theorem selects_iff {directory place : String} {sku : Option String} :
    Selects directory sku place ↔ place = directory ++ manifestName sku := by
  constructor
  · rintro (none | named)
    · rw [← manifestName_getD, none]
      rfl
    · rw [manifestName, if_neg named]
  · rintro rfl
    cases sku with
    | none => exact .plain rfl
    | some sku =>
      by_cases empty : sku = ""
      · subst empty
        exact .plain rfl
      · rw [manifestName, if_neg empty]
        exact .variant empty

theorem selects_vendor_iff {sku : Option String} {place : String} :
    Selects "vendor/etc/vintf/" sku place ↔ place = vendorPlace sku := selects_iff

theorem selects_odm_iff {sku : Option String} {place : String} :
    Selects "odm/etc/vintf/" sku place ↔ place = odmPlace sku := selects_iff

theorem selects_odmFallback_iff {sku : Option String} {place : String} :
    Selects "odm/etc/" sku place ↔ place = odmFallbackPlace sku := selects_iff

theorem hasManifest_vendor_iff : device.HasManifest vendorSku hardwareSku .vendor path ↔
    device.Finds (vendorPlace vendorSku) ∧ path = device.locate (vendorPlace vendorSku) := by
  simp only [HasManifest, selects_vendor_iff, exists_eq_left]

theorem hasManifest_vendorFragment_iff :
    device.HasManifest vendorSku hardwareSku .vendorFragment path ↔
      device.Finds (vendorPlace vendorSku) ∧
        device.files.Lists (device.locate vendorFragmentPlace) path ∧
        device.files.isFile path = true ∧ device.files.opens path = true := by
  simp only [HasManifest, selects_vendor_iff, exists_eq_left]
  rfl

theorem hasManifest_odm_iff : device.HasManifest vendorSku hardwareSku .odm path ↔
    device.Finds (odmPlace hardwareSku) ∧ path = device.locate (odmPlace hardwareSku) ∨
      device.Finds (odmFallbackPlace hardwareSku) ∧
        device.files.leadsTo (device.locate (odmPlace hardwareSku)) = false ∧
        path = device.locate (odmFallbackPlace hardwareSku) := by
  simp only [HasManifest, selects_odm_iff, selects_odmFallback_iff, exists_eq_left, exists_and_left]

theorem hasManifest_odmFragment_iff :
    device.HasManifest vendorSku hardwareSku .odmFragment path ↔
      device.Finds (vendorPlace vendorSku) ∧
        device.files.Lists (device.locate odmFragmentPlace) path ∧
        device.files.isFile path = true := by
  simp only [HasManifest, selects_vendor_iff, exists_eq_left]
  rfl

/-- The manifests of a kind that a lookup comes to. -/
def lookup (device : DeviceRoot) (vendorSku hardwareSku : Option String) :
    ManifestKind → List String
  | .vendor => (device.vendorManifest vendorSku).toList
  | .vendorFragment =>
    if device.vendorManifest vendorSku = none then [] else device.vendorFragments
  | .odm => (device.odmManifest hardwareSku).toList
  | .odmFragment => if device.vendorManifest vendorSku = none then [] else device.odmFragments

theorem readable?_ne_none_iff {place : String} :
    ¬ device.readable? place = none ↔ device.Finds place := by
  rw [← ne_eq, Option.ne_none_iff_exists']
  simp only [readable?_eq_some_iff, Finds, exists_and_left, exists_eq', and_true]

theorem candidate_eq_missing_iff {place : String} :
    device.candidate place = .missing ↔ device.files.leadsTo (device.locate place) = false := by
  unfold candidate
  split_ifs with leads <;> simp [leads]

/-- The ODM manifest is the one in the first directory, or the one in the second if there is none in the
first. -/
theorem odmManifest_eq_some_iff :
    device.odmManifest hardwareSku = some path ↔
      device.HasManifest vendorSku hardwareSku .odm path := by
  have hfirst := @readable?_eq_some_iff device (odmPlace hardwareSku) path
  have hsecond := @readable?_eq_some_iff device (odmFallbackPlace hardwareSku) path
  rw [readable?] at hfirst hsecond
  rw [odmManifest, hasManifest_odm_iff, Finds, Finds, and_assoc, @eq_comm _ path, ← hfirst,
    and_left_comm, and_assoc, @eq_comm _ path, ← hsecond, ← candidate_eq_missing_iff]
  cases device.candidate (odmPlace hardwareSku) <;> simp [Candidate.orElse, Candidate.path?]

/-- A lookup comes to the manifests of the kind. -/
theorem mem_lookup_iff : path ∈ device.lookup vendorSku hardwareSku kind ↔
    device.HasManifest vendorSku hardwareSku kind path := by
  cases kind with
  | vendor =>
    rw [lookup, Option.mem_toList, vendorManifest, readable?_eq_some_iff,
      hasManifest_vendor_iff, Finds, and_assoc, @eq_comm _ path]
  | vendorFragment =>
    have hmem : path ∈ device.vendorFragments ↔
        device.files.Lists (device.locate vendorFragmentPlace) path ∧
          device.files.isFile path = true ∧ device.files.opens path = true := by
      rw [vendorFragments, List.mem_filter, FileSystem.mem_filesIn_iff_lists, and_assoc]
    rw [lookup, hasManifest_vendorFragment_iff, ← hmem, ← readable?_ne_none_iff, ← vendorManifest]
    split_ifs with none <;> simp [none]
  | odm => rw [lookup, Option.mem_toList, odmManifest_eq_some_iff]
  | odmFragment =>
    rw [lookup, hasManifest_odmFragment_iff, ← FileSystem.mem_filesIn_iff_lists, ← readable?_ne_none_iff,
      ← vendorManifest]
    split_ifs with none <;> simp [none, odmFragments]

/-- Fragments are looked up in the order of their names. -/
theorem exists_lookup_vendorFragment_eq :
    ∃ names : List String, names.Pairwise (· < ·) ∧
      device.lookup vendorSku hardwareSku .vendorFragment =
        names.map (FileSystem.join (device.locate vendorFragmentPlace)) := by
  rw [lookup]
  split_ifs
  · exact ⟨[], .nil, rfl⟩
  · exact FileSystem.exists_filter_filesIn_eq ..

theorem exists_lookup_odmFragment_eq :
    ∃ names : List String, names.Pairwise (· < ·) ∧
      device.lookup vendorSku hardwareSku .odmFragment =
        names.map (FileSystem.join (device.locate odmFragmentPlace)) := by
  rw [lookup]
  split_ifs
  · exact ⟨[], .nil, rfl⟩
  · rw [odmFragments, ← List.filter_true (device.files.filesIn _)]
    exact FileSystem.exists_filter_filesIn_eq ..

theorem nodup_lookup : (device.lookup vendorSku hardwareSku kind).Nodup := by
  cases kind with
  | vendor =>
    rw [lookup]
    cases device.vendorManifest vendorSku <;> simp
  | odm =>
    rw [lookup]
    cases device.odmManifest hardwareSku <;> simp
  | vendorFragment =>
    obtain ⟨names, ascending, heq⟩ := exists_lookup_vendorFragment_eq
    rw [heq]
    exact FileSystem.nodup_map_join ascending
  | odmFragment =>
    obtain ⟨names, ascending, heq⟩ := exists_lookup_odmFragment_eq
    rw [heq]
    exact FileSystem.nodup_map_join ascending

/-! ### No path of two kinds -/

/-- How the places of the manifests of a kind begin, given for vendor and ODM whether a variant is
named. -/
def kindStarts (vendor odm : Bool) : ManifestKind → List String
  | .vendor => ["vendor/etc/vintf/" ++ nameStart vendor]
  | .vendorFragment => ["vendor/etc/vintf/manifest/"]
  | .odm => ["odm/etc/vintf/" ++ nameStart odm, "odm/etc/" ++ nameStart odm]
  | .odmFragment => ["odm/etc/vintf/manifest/"]

theorem exists_append_manifestName (directory : String) (sku : Option String) :
    ∃ rest, directory ++ manifestName sku = directory ++ nameStart (isVariant sku) ++ rest := by
  obtain ⟨rest, hrest⟩ := exists_manifestName sku
  exact ⟨rest, by rw [hrest, String.append_assoc]⟩

theorem HasManifest.exists_start (manifest : device.HasManifest vendorSku hardwareSku kind path) :
    ∃ start ∈ kindStarts (isVariant vendorSku) (isVariant hardwareSku) kind,
      ∃ rest, path = device.locate (start ++ rest) := by
  cases kind with
  | vendor =>
    obtain ⟨_, hpath⟩ := hasManifest_vendor_iff.mp manifest
    obtain ⟨rest, hrest⟩ := exists_append_manifestName "vendor/etc/vintf/" vendorSku
    exact ⟨_, List.mem_singleton_self _, rest, hpath.trans (congrArg _ hrest)⟩
  | vendorFragment =>
    obtain ⟨_, ⟨name, _, rfl⟩, _⟩ := manifest
    exact ⟨_, List.mem_singleton_self _, name, join_vendorFragment device name⟩
  | odm =>
    obtain ⟨_, hpath⟩ | ⟨_, _, hpath⟩ := hasManifest_odm_iff.mp manifest
    · obtain ⟨rest, hrest⟩ := exists_append_manifestName "odm/etc/vintf/" hardwareSku
      exact ⟨_, List.mem_cons_self .., rest, hpath.trans (congrArg _ hrest)⟩
    · obtain ⟨rest, hrest⟩ := exists_append_manifestName "odm/etc/" hardwareSku
      exact ⟨_, List.mem_cons_of_mem _ (List.mem_singleton_self _), rest,
        hpath.trans (congrArg _ hrest)⟩
  | odmFragment =>
    obtain ⟨_, ⟨name, _, rfl⟩, _⟩ := manifest
    exact ⟨_, List.mem_singleton_self _, name, join_odmFragment device name⟩

theorem apart_of_ne {vendor odm : Bool} (h : kind ≠ other) :
    ∀ left ∈ kindStarts vendor odm kind, ∀ right ∈ kindStarts vendor odm other,
      Apart left right := by
  revert h
  cases kind <;> cases other <;> cases vendor <;> cases odm <;> decide

/-- No path leads to manifests of two kinds. -/
theorem HasManifest.kind_unique (manifest : device.HasManifest vendorSku hardwareSku kind path)
    (second : device.HasManifest vendorSku hardwareSku other path) : kind = other := by
  by_contra hne
  -- Places of two kinds begin in ways that are apart, wherever they go on.
  obtain ⟨left, hleft, rest, rfl⟩ := manifest.exists_start
  obtain ⟨right, hright, others, hpath⟩ := second.exists_start
  exact locate_ne (apart_of_ne hne left hleft right hright) rest others hpath

/-! ### The located manifests -/

/-- The manifests of a device with Treble are those of the kinds, one kind after the other. -/
theorem modernManifests_eq_flatMap (device : DeviceRoot) (vendorSku hardwareSku : Option String) :
    device.modernManifests vendorSku hardwareSku =
      [.vendor, .vendorFragment, .odm, .odmFragment].flatMap
        (device.lookup vendorSku hardwareSku) := by
  unfold modernManifests
  cases hvendor : device.vendorManifest vendorSku <;> simp [List.flatMap, lookup, hvendor]

theorem mem_modernManifests_iff : path ∈ device.modernManifests vendorSku hardwareSku ↔
    ∃ kind, device.HasManifest vendorSku hardwareSku kind path := by
  rw [modernManifests_eq_flatMap, List.mem_flatMap]
  constructor
  · rintro ⟨kind, _, hmem⟩
    exact ⟨kind, mem_lookup_iff.mp hmem⟩
  · rintro ⟨kind, manifest⟩
    exact ⟨kind, by cases kind <;> decide, mem_lookup_iff.mpr manifest⟩

theorem modernManifests_eq_nil_iff : device.modernManifests vendorSku hardwareSku = [] ↔
    ∀ kind path, ¬ device.HasManifest vendorSku hardwareSku kind path := by
  rw [List.eq_nil_iff_forall_not_mem]
  simp only [mem_modernManifests_iff, not_exists]
  exact forall_comm

theorem nodup_modernManifests : (device.modernManifests vendorSku hardwareSku).Nodup := by
  rw [modernManifests_eq_flatMap, List.nodup_flatMap]
  refine ⟨fun _ _ => nodup_lookup, ?_⟩
  have hkinds : [ManifestKind.vendor, .vendorFragment, .odm, .odmFragment].Nodup := by decide
  refine hkinds.imp fun hne path hleft hright => hne ?_
  exact (mem_lookup_iff.mp hleft).kind_unique (mem_lookup_iff.mp hright)

/-- Nothing is found but the manifest of a vendor from before Treble. -/
theorem manifests_eq_legacy (none : ∀ kind path, ¬ device.HasManifest vendorSku hardwareSku kind path)
    (finds : device.Finds legacyPlace) :
    device.manifests vendorSku hardwareSku =
      { files := [device.locate legacyPlace], legacy := true } := by
  have hlegacy : device.legacyManifest = some (device.locate legacyPlace) :=
    readable?_eq_some_iff.mpr ⟨finds.1, finds.2, rfl⟩
  rw [manifests, modernManifests_eq_nil_iff.mpr none, hlegacy]

/-- Something else is found, or not even that manifest is. -/
theorem manifests_eq_modern
    (h : ¬ ((∀ kind path, ¬ device.HasManifest vendorSku hardwareSku kind path) ∧
      device.Finds legacyPlace)) :
    device.manifests vendorSku hardwareSku =
      { files := device.modernManifests vendorSku hardwareSku, legacy := false } := by
  rw [← modernManifests_eq_nil_iff, ← readable?_ne_none_iff, ← legacyManifest] at h
  unfold manifests
  cases hmodern : device.modernManifests vendorSku hardwareSku with
  | cons first rest => rfl
  | nil =>
    cases hlegacy : device.legacyManifest with
    | none => rfl
    | some path => exact absurd ⟨hmodern, by simp [hlegacy]⟩ h

/-- The located manifests are those of the four kinds, or the one from before Treble where there are none
of these. -/
theorem mem_manifests_iff : path ∈ (device.manifests vendorSku hardwareSku).files ↔
    (∃ kind, device.HasManifest vendorSku hardwareSku kind path) ∨
    (∀ kind other, ¬ device.HasManifest vendorSku hardwareSku kind other) ∧
      device.Finds legacyPlace ∧ path = device.locate legacyPlace := by
  by_cases fallsBack : (∀ kind path, ¬ device.HasManifest vendorSku hardwareSku kind path) ∧
      device.Finds legacyPlace
  · obtain ⟨none, finds⟩ := fallsBack
    rw [manifests_eq_legacy none finds, List.mem_singleton,
      or_iff_right (fun ⟨kind, manifest⟩ => none kind path manifest)]
    exact ⟨fun hpath => ⟨none, finds, hpath⟩, fun h => h.2.2⟩
  · rw [manifests_eq_modern fallsBack, mem_modernManifests_iff, or_iff_left]
    exact fun h => fallsBack ⟨h.1, h.2.1⟩

/-- A set of manifests is the right one for a device. -/
structure Locates (device : DeviceRoot) (vendorSku hardwareSku : Option String)
    (set : ManifestSet) : Prop where
  /-- It has the manifests of the four kinds. If there are none, it has the one from before Treble, if
  that is there and opens. -/
  mem_iff : ∀ path, path ∈ set.files ↔
    (∃ kind, device.HasManifest vendorSku hardwareSku kind path) ∨
    (∀ kind other, ¬ device.HasManifest vendorSku hardwareSku kind other) ∧
      device.Finds "vendor/manifest.xml" ∧ path = device.locate "vendor/manifest.xml"
  legacy_iff : set.legacy = true ↔
    (∀ kind other, ¬ device.HasManifest vendorSku hardwareSku kind other) ∧
      device.Finds "vendor/manifest.xml"
  nodup : set.files.Nodup
  /-- The manifests of a kind stand together, and fragments are in the order of their names. -/
  order : set.legacy = false → ∃ part : ManifestKind → List String,
    set.files = [.vendor, .vendorFragment, .odm, .odmFragment].flatMap part ∧
      (∀ kind path, path ∈ part kind ↔ device.HasManifest vendorSku hardwareSku kind path) ∧
      (∃ names : List String, names.Pairwise (· < ·) ∧ part .vendorFragment =
        names.map (FileSystem.join (device.locate "vendor/etc/vintf/manifest"))) ∧
      ∃ names : List String, names.Pairwise (· < ·) ∧ part .odmFragment =
        names.map (FileSystem.join (device.locate "odm/etc/vintf/manifest"))
  /-- A variant that is empty counts as none. -/
  variants : ∀ otherVendor otherHardware : Option String,
    otherVendor.getD "" = vendorSku.getD "" → otherHardware.getD "" = hardwareSku.getD "" →
      device.manifests otherVendor otherHardware = set

/-- The right manifests are located, whatever the files of the device are. -/
theorem locates_manifests (device : DeviceRoot) (vendorSku hardwareSku : Option String) :
    device.Locates vendorSku hardwareSku (device.manifests vendorSku hardwareSku) := by
  by_cases fallsBack : (∀ kind path, ¬ device.HasManifest vendorSku hardwareSku kind path) ∧
      device.Finds legacyPlace
  · have heq := manifests_eq_legacy fallsBack.1 fallsBack.2
    constructor
    case mem_iff => exact fun _ => mem_manifests_iff
    case legacy_iff => exact iff_of_true (by rw [heq]) fallsBack
    case nodup => simp [heq]
    case order => simp [heq]
    case variants => exact fun _ _ => device.manifests_congr
  · have heq := manifests_eq_modern fallsBack
    constructor
    case mem_iff => exact fun _ => mem_manifests_iff
    case legacy_iff => exact iff_of_false (by simp [heq]) fallsBack
    case nodup =>
      rw [heq]
      exact nodup_modernManifests
    case order =>
      intro _
      refine ⟨device.lookup vendorSku hardwareSku, ?_, fun _ _ => mem_lookup_iff,
        exists_lookup_vendorFragment_eq, exists_lookup_odmFragment_eq⟩
      rw [heq, modernManifests_eq_flatMap]
    case variants => exact fun _ _ => device.manifests_congr

/-- A device with manifests for two variants, a fragment that does not open on either side, a directory
among the fragments, and a manifest from before Treble. -/
def variantDevice : DeviceRoot where
  path := "/"
  files path := (entries.lookup path).elim (.error .notFound) .ok
where
  entries : List (String × FileSystem.Entry) :=
    [("/vendor/etc/vintf/manifest_a.xml", .file (.ok [])),
      ("/vendor/etc/vintf/manifest", .directory (.ok (.ofList ["b.xml", "sub", "c.xml", "a.xml"]))),
      ("/vendor/etc/vintf/manifest/a.xml", .file (.ok [])),
      ("/vendor/etc/vintf/manifest/b.xml", .file (.error .permissionDenied)),
      ("/vendor/etc/vintf/manifest/c.xml", .file (.ok [])),
      ("/vendor/etc/vintf/manifest/sub", .directory (.ok ∅)),
      ("/odm/etc/manifest_b.xml", .file (.ok [])),
      ("/odm/etc/vintf/manifest", .directory (.ok (.ofList ["d.xml"]))),
      ("/odm/etc/vintf/manifest/d.xml", .file (.error .permissionDenied)),
      ("/vendor/manifest.xml", .file (.ok []))]

/-- With its own variants the device has manifests of all kinds; with others, of which one may be empty,
it falls back to the manifest from before Treble. -/
theorem locates_manifests_variantDevice :
    variantDevice.Locates (some "a") (some "b")
      { files := ["/vendor/etc/vintf/manifest_a.xml", "/vendor/etc/vintf/manifest/a.xml",
          "/vendor/etc/vintf/manifest/c.xml", "/odm/etc/manifest_b.xml",
          "/odm/etc/vintf/manifest/d.xml"]
        legacy := false } ∧
    (∀ kind, ¬ variantDevice.HasManifest (some "a") (some "b") kind
      "/vendor/etc/vintf/manifest/b.xml") ∧
    variantDevice.Locates (some "c") none { files := ["/vendor/manifest.xml"], legacy := true } ∧
    variantDevice.manifests (some "c") (some "") =
      { files := ["/vendor/manifest.xml"], legacy := true } := by
  have own := variantDevice.locates_manifests (some "a") (some "b")
  have others := variantDevice.locates_manifests (some "c") none
  have modern : variantDevice.manifests (some "a") (some "b") =
      { files := ["/vendor/etc/vintf/manifest_a.xml", "/vendor/etc/vintf/manifest/a.xml",
          "/vendor/etc/vintf/manifest/c.xml", "/odm/etc/manifest_b.xml",
          "/odm/etc/vintf/manifest/d.xml"]
        legacy := false } := by decide +kernel
  have legacy : variantDevice.manifests (some "c") none =
      { files := ["/vendor/manifest.xml"], legacy := true } := by decide +kernel
  rw [modern] at own
  rw [legacy] at others
  refine ⟨own, fun kind manifest => ?_, others, ?_⟩
  · have located := (own.mem_iff _).mpr (.inl ⟨kind, manifest⟩)
    exact absurd located (by decide)
  · exact others.variants (some "c") (some "") rfl rfl

end DeviceRoot

end Vintf

end Treble
