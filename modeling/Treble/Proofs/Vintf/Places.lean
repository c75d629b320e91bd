import Mathlib.Data.List.Infix
import Treble.Proofs.Vintf.Files

/-!
# Where the files of a device stand

All files that detection may read stand below the root of the device. Manifests, fragments, the matrix
of the vendor and the files of the policy are at places that begin differently, whatever the product
variants and the names of the fragments are, so that no path leads to files of two kinds.

## Main definitions

* `Vintf.Apart` — places with these beginnings are never the same
* `Vintf.DeviceRoot.manifestPlaces` — the places of the manifests
* `Vintf.DeviceRoot.IsDocument` — the paths of the manifests, their fragments and the matrix
* `Vintf.DeviceRoot.Located` — the paths that looking for manifests can come to
* `Vintf.DeviceRoot.documentStarts` — how the places of the documents begin

## Main results

* `Vintf.DeviceRoot.located_of_mem` — where the manifests of a device stand
* `Vintf.DeviceRoot.IsDocument.exists_start` — the place of a document begins in one of these ways
* `Vintf.DeviceRoot.IsDocument.ne_join_policyDirectory` — no document is a file of the policy
-/

namespace Treble

namespace FileSystem

/-- A path as it stands in front of a name below it. -/
def base (path : String) : String :=
  if path.toList.getLast?.all (· = '/') then path else path ++ "/"

theorem join_eq_append (path name : String) : join path name = base path ++ name := by
  unfold join base
  split <;> simp_all

theorem join_inj {path left right : String} : join path left = join path right ↔ left = right := by
  rw [join_eq_append, join_eq_append, String.append_right_inj]

/-- Below a place that does not end in a slash, a name is set off by one. -/
theorem join_join {place : String} {last : Char} (hlast : place.toList.getLast? = some last)
    (noSlash : last ≠ '/') (path name : String) :
    join (join path place) name = join path (place ++ "/" ++ name) := by
  have hend : (base path ++ place).toList.getLast? = some last := by
    rw [String.toList_append, List.getLast?_append, hlast, Option.some_or]
  have hbase : base (base path ++ place) = base path ++ (place ++ "/") := by
    rw [base, hend, if_neg (by simpa using noSlash), String.append_assoc]
  rw [join_eq_append, join_eq_append, join_eq_append, hbase, String.append_assoc]

end FileSystem

namespace Vintf

/-- Texts with these beginnings are never the same. -/
def Apart (left right : String) : Prop :=
  ¬ left.toList <+: right.toList ∧ ¬ right.toList <+: left.toList

instance (left right : String) : Decidable (Apart left right) :=
  inferInstanceAs (Decidable (_ ∧ _))

theorem Apart.append_ne {left right : String} (apart : Apart left right) (x y : String) :
    left ++ x ≠ right ++ y := by
  intro h
  have hleft : left.toList <+: (right ++ y).toList := by
    rw [← h, String.toList_append]
    exact List.prefix_append ..
  have hright : right.toList <+: (right ++ y).toList := by
    rw [String.toList_append]
    exact List.prefix_append ..
  exact (List.prefix_or_prefix_of_prefix hleft hright).elim apart.1 apart.2

namespace DeviceRoot

variable {device : DeviceRoot} {vendorSku hardwareSku : Option String} {path : String}

theorem locate_inj {left right : String} :
    device.locate left = device.locate right ↔ left = right :=
  FileSystem.join_inj

theorem locate_ne {left right : String} (apart : Apart left right) (x y : String) :
    device.locate (left ++ x) ≠ device.locate (right ++ y) :=
  mt locate_inj.mp (apart.append_ne x y)

/-- The places of the manifests that are no fragments. -/
def manifestPlaces (vendorSku hardwareSku : Option String) : List String :=
  [vendorPlace vendorSku, odmPlace hardwareSku, odmFallbackPlace hardwareSku, legacyPlace]

/-- The paths at which manifests, fragments of manifests and the matrix of the vendor stand. -/
inductive IsDocument (device : DeviceRoot) (vendorSku hardwareSku : Option String) : String → Prop
  | manifest {place : String} (mem : place ∈ manifestPlaces vendorSku hardwareSku) :
      IsDocument device vendorSku hardwareSku (device.locate place)
  | vendorFragment {name : String}
      (mem : name ∈ device.files.names (device.locate vendorFragmentPlace)) :
      IsDocument device vendorSku hardwareSku
        (FileSystem.join (device.locate vendorFragmentPlace) name)
  | odmFragment {name : String}
      (mem : name ∈ device.files.names (device.locate odmFragmentPlace)) :
      IsDocument device vendorSku hardwareSku
        (FileSystem.join (device.locate odmFragmentPlace) name)
  | matrix : IsDocument device vendorSku hardwareSku (device.locate matrixPlace)

/-! ### Where manifests are found -/

/-- The paths that looking for manifests can come to. Only ODM fragments need not open. -/
inductive Located (device : DeviceRoot) (vendorSku hardwareSku : Option String) : String → Prop
  | manifest {place : String} (mem : place ∈ manifestPlaces vendorSku hardwareSku)
      (opens : device.files.opens (device.locate place) = true) :
      Located device vendorSku hardwareSku (device.locate place)
  | vendorFragment {path : String} (mem : path ∈ device.vendorFragments) :
      Located device vendorSku hardwareSku path
  | odmFragment {path : String} (mem : path ∈ device.odmFragments) :
      Located device vendorSku hardwareSku path

theorem candidate_eq_found {place : String} (h : device.candidate place = .found path) :
    device.locate place = path ∧ device.files.opens (device.locate place) = true := by
  unfold candidate at h
  split_ifs at h with hleads hopens
  exact ⟨Candidate.found.inj h, hopens⟩

/-- What is found at a place that is looked at is located. -/
theorem Located.of_readable? {place : String} (mem : place ∈ manifestPlaces vendorSku hardwareSku)
    (h : device.readable? place = some path) : device.Located vendorSku hardwareSku path := by
  obtain ⟨_, hopens, rfl⟩ := readable?_eq_some_iff.mp h
  exact .manifest mem hopens

theorem Located.of_odmManifest (h : device.odmManifest hardwareSku = some path) :
    device.Located vendorSku hardwareSku path := by
  have hplaces : ∃ place ∈ manifestPlaces vendorSku hardwareSku,
      device.candidate place = .found path := by
    unfold odmManifest at h
    cases hodm : device.candidate (odmPlace hardwareSku) with
    | found other =>
      rw [hodm] at h
      obtain rfl := Option.some.inj h
      exact ⟨_, by simp [manifestPlaces], hodm⟩
    | unreadable => simp [hodm, Candidate.orElse, Candidate.path?] at h
    | missing =>
      cases hfallback : device.candidate (odmFallbackPlace hardwareSku) with
      | found other =>
        rw [hodm, hfallback] at h
        obtain rfl := Option.some.inj h
        exact ⟨_, by simp [manifestPlaces], hfallback⟩
      | _ => simp [hodm, hfallback, Candidate.orElse, Candidate.path?] at h
  obtain ⟨place, mem, hplace⟩ := hplaces
  obtain ⟨rfl, hopens⟩ := candidate_eq_found hplace
  exact .manifest mem hopens

theorem located_of_mem_modern (h : path ∈ device.modernManifests vendorSku hardwareSku) :
    device.Located vendorSku hardwareSku path := by
  unfold modernManifests at h
  cases hvendor : device.vendorManifest vendorSku with
  | none =>
    rw [hvendor, Option.mem_toList] at h
    exact .of_odmManifest h
  | some vendor =>
    simp only [hvendor, List.mem_append, List.mem_cons, Option.mem_toList] at h
    obtain ((rfl | hfragment) | hodm) | hfragment := h
    · exact .of_readable? (by simp [manifestPlaces]) hvendor
    · exact .vendorFragment hfragment
    · exact .of_odmManifest hodm
    · exact .odmFragment hfragment

/-- The manifests of a device are at such paths. -/
theorem located_of_mem (h : path ∈ (device.manifests vendorSku hardwareSku).files) :
    device.Located vendorSku hardwareSku path := by
  unfold manifests at h
  split at h
  · next hlegacy =>
    obtain rfl := List.mem_singleton.mp h
    exact .of_readable? (by simp [manifestPlaces]) hlegacy
  · exact located_of_mem_modern h

theorem Located.isDocument (located : device.Located vendorSku hardwareSku path) :
    device.IsDocument vendorSku hardwareSku path := by
  cases located with
  | manifest mem => exact .manifest mem
  | vendorFragment mem =>
    obtain ⟨⟨name, hname, rfl⟩, _⟩ := FileSystem.mem_filesIn_iff.mp (List.mem_filter.mp mem).1
    exact .vendorFragment hname
  | odmFragment mem =>
    obtain ⟨⟨name, hname, rfl⟩, _⟩ := FileSystem.mem_filesIn_iff.mp mem
    exact .odmFragment hname

/-- A manifest that is located opens, or is an ODM fragment. -/
theorem Located.opens_or (located : device.Located vendorSku hardwareSku path) :
    device.files.opens path = true ∨ path ∈ device.odmFragments := by
  cases located with
  | manifest _ opens => exact .inl opens
  | vendorFragment mem => exact .inl (List.mem_filter.mp mem).2
  | odmFragment mem => exact .inr mem

/-! ### How places begin -/

theorem join_vendorFragment (device : DeviceRoot) (name : String) :
    FileSystem.join (device.locate vendorFragmentPlace) name =
      device.locate ("vendor/etc/vintf/manifest/" ++ name) :=
  FileSystem.join_join (by decide : vendorFragmentPlace.toList.getLast? = some 't') (by decide) _ _

theorem join_odmFragment (device : DeviceRoot) (name : String) :
    FileSystem.join (device.locate odmFragmentPlace) name =
      device.locate ("odm/etc/vintf/manifest/" ++ name) :=
  FileSystem.join_join (by decide : odmFragmentPlace.toList.getLast? = some 't') (by decide) _ _

theorem join_policyDirectory (device : DeviceRoot) (name : String) :
    FileSystem.join device.policyDirectory name = device.locate ("vendor/etc/selinux/" ++ name) :=
  FileSystem.join_join (by decide : "vendor/etc/selinux".toList.getLast? = some 'x') (by decide) _ _

/-- Whether a product variant is named. -/
def isVariant (sku : Option String) : Bool := sku.getD "" != ""

/-- How the name of a manifest begins, with a variant or without one. -/
def nameStart : Bool → String
  | true => "manifest_"
  | false => "manifest."

theorem exists_manifestName (sku : Option String) :
    ∃ rest, manifestName sku = nameStart (isVariant sku) ++ rest := by
  rcases sku with _ | sku
  · exact ⟨"xml", rfl⟩
  · by_cases empty : sku = ""
    · subst empty
      exact ⟨"xml", rfl⟩
    · have variant : isVariant (some sku) = true := by simp [isVariant, empty]
      refine ⟨sku ++ ".xml", ?_⟩
      rw [manifestName, if_neg empty, variant, nameStart, String.append_assoc]

/-- How the places of manifests that are no fragments begin, given for vendor and ODM whether a
variant is named. -/
def manifestStarts (vendor odm : Bool) : List String :=
  ["vendor/etc/vintf/" ++ nameStart vendor, "odm/etc/vintf/" ++ nameStart odm,
    "odm/etc/" ++ nameStart odm, legacyPlace]

/-- How the places of documents begin. -/
def documentStarts (vendor odm : Bool) : List String :=
  manifestStarts vendor odm ++
    ["vendor/etc/vintf/manifest/", "odm/etc/vintf/manifest/", matrixPlace]

theorem exists_start_of_mem {place : String} (h : place ∈ manifestPlaces vendorSku hardwareSku) :
    ∃ start ∈ manifestStarts (isVariant vendorSku) (isVariant hardwareSku),
      ∃ rest, place = start ++ rest := by
  obtain ⟨vendor, hvendor⟩ := exists_manifestName vendorSku
  obtain ⟨odm, hodm⟩ := exists_manifestName hardwareSku
  simp only [manifestPlaces, List.mem_cons, List.not_mem_nil, or_false] at h
  rcases h with rfl | rfl | rfl | rfl
  · refine ⟨"vendor/etc/vintf/" ++ nameStart (isVariant vendorSku),
      by simp [manifestStarts], vendor, ?_⟩
    exact (congrArg ("vendor/etc/vintf/" ++ ·) hvendor).trans String.append_assoc.symm
  · refine ⟨"odm/etc/vintf/" ++ nameStart (isVariant hardwareSku),
      by simp [manifestStarts], odm, ?_⟩
    exact (congrArg ("odm/etc/vintf/" ++ ·) hodm).trans String.append_assoc.symm
  · refine ⟨"odm/etc/" ++ nameStart (isVariant hardwareSku),
      by simp [manifestStarts], odm, ?_⟩
    exact (congrArg ("odm/etc/" ++ ·) hodm).trans String.append_assoc.symm
  · exact ⟨legacyPlace, by simp [manifestStarts], "", String.append_empty.symm⟩

/-- The place of a document begins in one of a few ways. -/
theorem IsDocument.exists_start (document : device.IsDocument vendorSku hardwareSku path) :
    ∃ start ∈ documentStarts (isVariant vendorSku) (isVariant hardwareSku),
      ∃ rest, path = device.locate (start ++ rest) := by
  cases document with
  | manifest mem =>
    obtain ⟨start, hstart, rest, rfl⟩ := exists_start_of_mem mem
    exact ⟨start, List.mem_append_left _ hstart, rest, rfl⟩
  | @vendorFragment name =>
    exact ⟨"vendor/etc/vintf/manifest/", by simp [documentStarts], name, join_vendorFragment ..⟩
  | @odmFragment name =>
    exact ⟨"odm/etc/vintf/manifest/", by simp [documentStarts], name, join_odmFragment ..⟩
  | matrix =>
    exact ⟨matrixPlace, by simp [documentStarts], "", by rw [String.append_empty]⟩

/-- No document is a file of the policy. -/
theorem IsDocument.ne_join_policyDirectory
    (document : device.IsDocument vendorSku hardwareSku path) (name : String) :
    path ≠ FileSystem.join device.policyDirectory name := by
  have apart : ∀ vendor odm, ∀ start ∈ documentStarts vendor odm,
      Apart start "vendor/etc/selinux/" := by decide
  obtain ⟨start, hstart, rest, rfl⟩ := document.exists_start
  rw [join_policyDirectory]
  exact locate_ne (apart _ _ start hstart) rest name

end DeviceRoot

end Vintf

end Treble
