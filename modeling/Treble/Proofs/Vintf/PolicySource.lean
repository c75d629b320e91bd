import Treble.Proofs.Text.Cutting
import Treble.Proofs.Version.Grammar
import Treble.Proofs.Vintf.Agreement
import Treble.Proofs.Vintf.PolicyVersion

/-!
# Where the version of a policy comes from

A version file that is there is the only source: what its first line says is the answer, and so is an
error in reading it. All that is behind the first line, and every other file, is as good as not there.
Without a version file the answer is the greatest version of the policy files, unless this is zero. It
hangs on the versions that the words of the files name, and not on what the files are called, in which
order they come or which word is in which file.

## Main definitions

* `Vintf.IsFirstLine` — the bytes in front of the first line feed
* `Vintf.SameDeclaration` — two readings of a version file with the same first line
* `Vintf.IsPolicyFile` — the names of policy files
* `Vintf.DeviceRoot.IsPolicy`, `Vintf.DeviceRoot.Names` — the policy files and the versions that they
  name
* `Vintf.DeviceRoot.namedVersions` — these versions as a list
* `Vintf.DeviceRoot.FollowsDeclaration`, `Vintf.DeviceRoot.FollowsPolicies` — what the version of a
  policy hangs on

## Main results

* `Vintf.DeviceRoot.mem_policies_iff` — which files are looked at
* `Vintf.DeviceRoot.isGreatest_policyVersion_iff` — the greatest of the greatest versions is the greatest
* `Vintf.DeviceRoot.scannedVersion_eq_some_iff`, `Vintf.DeviceRoot.scannedVersion_eq_none_iff` — what
  the policy files come to
* `Vintf.DeviceRoot.sepolicyVersion_source` — the version file counts alone, and else the policy files
-/

namespace Treble.Vintf

open Text
open FileSystem (Cause join)

/-! ### The first line -/

/-- What stands in front of the first line feed. -/
def IsFirstLine (line bytes : List UInt8) : Prop :=
  0x0A ∉ line ∧ (bytes = line ∨ ∃ rest, bytes = line ++ 0x0A :: rest)

/-- Two readings of a version file that have the same first line or the same cause. -/
inductive SameDeclaration : Except Cause (List UInt8) → Except Cause (List UInt8) → Prop
  | line {line bytes other : List UInt8} (first : IsFirstLine line bytes)
      (first' : IsFirstLine line other) : SameDeclaration (.ok bytes) (.ok other)
  | cause (cause : Cause) : SameDeclaration (.error cause) (.error cause)

/-- Every file has a first line. -/
theorem exists_isFirstLine (bytes : List UInt8) : ∃ line, IsFirstLine line bytes := by
  by_cases feed : 0x0A ∈ bytes
  · obtain ⟨line, rest, hbytes, free⟩ := List.eq_append_cons_of_mem feed
    exact ⟨line, free, .inr ⟨rest, hbytes⟩⟩
  · exact ⟨bytes, feed, .inl rfl⟩

theorem IsFirstLine.takeWhile_eq {line bytes : List UInt8} (first : IsFirstLine line bytes) :
    bytes.takeWhile (· != 0x0A) = line := by
  obtain ⟨free, hbytes⟩ := first
  have inLine : ∀ b ∈ line, (b != 0x0A) = true := by
    intro b hb
    rw [bne_iff_ne]
    rintro rfl
    exact free hb
  rcases hbytes with rfl | ⟨rest, rfl⟩
  · rw [← List.append_nil bytes, List.takeWhile_append_of_pos inLine, List.takeWhile_nil]
  · rw [List.takeWhile_append_of_pos inLine, List.takeWhile_cons_of_neg (by simp), List.append_nil]

/-- A version file declares what its first line spells, with the line feed or without. -/
theorem IsFirstLine.declaredVersion_eq {line bytes ending : List UInt8}
    (first : IsFirstLine line bytes) (hending : ending = [] ∨ ending = [0x0A]) :
    declaredVersion bytes = Version.parse (String.ofList (Utf8.lossy (line ++ ending))) := by
  rw [declaredVersion, first.takeWhile_eq]
  rcases hending with rfl | rfl
  · rw [List.append_nil]
  · rw [Utf8.lossy_append_cons (by decide)]
    exact (Version.parse_append_blank (List.all_eq_true.mp rfl)).symm

/-- What is declared hangs on the first line. -/
theorem SameDeclaration.map_declaredVersion_eq {reading other : Except Cause (List UInt8)}
    (same : SameDeclaration reading other) :
    other.map declaredVersion = reading.map declaredVersion := by
  cases same with
  | line first first' =>
    have hline := first.declaredVersion_eq (.inl rfl)
    have hline' := first'.declaredVersion_eq (.inl rfl)
    exact congrArg Except.ok (hline'.trans hline.symm)
  | cause cause => rfl

/-! ### Policy files -/

/-- A policy file is called after something with the ending `.cil`. -/
def IsPolicyFile (name : String) : Prop := ∃ stem, stem ≠ "" ∧ name = stem ++ ".cil"

theorem isPolicyName_iff {name : String} : isPolicyName name = true ↔ IsPolicyFile name := by
  constructor
  · intro h
    unfold isPolicyName at h
    split at h
    · next stem ending hcut =>
      rw [Bool.and_eq_true, beq_iff_eq] at h
      obtain ⟨nonempty, rfl⟩ := h
      refine ⟨String.ofList stem, ?_, ?_⟩
      · rintro hstem
        have hnil : stem = [] := by simpa using hstem
        simp [hnil] at nonempty
      · have hsplit := (cutLast_eq_some_iff.mp hcut).split
        rw [List.append_assoc] at hsplit
        calc name = String.ofList name.toList := String.ofList_toList.symm
          _ = String.ofList stem ++ ".cil" := by rw [hsplit, String.ofList_append]; rfl
    · cases h
  · rintro ⟨stem, nonempty, rfl⟩
    have hcut : cutLast ['.'] (stem ++ ".cil").toList = some (stem.toList, "cil".toList) := by
      have free : '.' ∉ "cil".toList := by decide
      have last := LastCut.of_notMem stem.toList free
      rw [List.append_assoc] at last
      rw [String.toList_append]
      exact cutLast_eq_some_iff.mpr last
    have hstem : stem.toList.isEmpty = false := by
      simpa using nonempty
    rw [isPolicyName, hcut]
    simp [hstem]

namespace DeviceRoot

variable {device other : DeviceRoot} {bytes : List UInt8} {version : Version}

/-- The bytes of a policy file: a regular file that opens, directly in the directory of the policy. -/
def IsPolicy (device : DeviceRoot) (bytes : List UInt8) : Prop :=
  ∃ name ∈ device.files.names device.policyDirectory, IsPolicyFile name ∧
    device.files (join device.policyDirectory name) = .ok (.file (.ok bytes))

/-- A word in one of the policy files names a version. -/
def Names (device : DeviceRoot) (version : Version) : Prop :=
  ∃ bytes, device.IsPolicy bytes ∧
    ∃ word, IsWordOf (Utf8.lossy bytes) word ∧ NamesVersion word version

/-- The files that are looked at are the policy files. -/
theorem mem_policies_iff : bytes ∈ device.policies ↔ device.IsPolicy bytes := by
  simp only [policies, List.mem_filterMap, List.mem_filter, isPolicyName_iff, IsPolicy, and_assoc]
  refine exists_congr fun name => and_congr_right fun _ => and_congr_right fun _ => ?_
  -- Of the four things that can stand at a path, one is a file that opens.
  rcases hentry : device.files (join device.policyDirectory name) with
    cause | (cause | content) | names
  all_goals simp [FileSystem.isFile, FileSystem.read, FileSystem.Entry.isFile, hentry, Except.bind,
    FileSystem.Entry.content, Except.toOption]

/-- The versions that the words of the policy files name, file by file. -/
def namedVersions (device : DeviceRoot) : List Version :=
  device.policies.flatMap fun bytes => (bytes.splitOn 0x0A).flatMap fun line =>
    (versionedAttribute.search (Utf8.lossy line)).filterMap attributeVersion?

theorem mem_namedVersions_iff : version ∈ device.namedVersions ↔ device.Names version := by
  rw [namedVersions, List.mem_flatMap]
  simp only [mem_versions_iff, mem_policies_iff]
  exact Iff.rfl

/-! ### The greatest version -/

/-- Where a word of a policy file names a version, the version of the file is no smaller. -/
theorem exists_le_policyVersion {word : List Char} (hword : IsWordOf (Utf8.lossy bytes) word)
    (names : NamesVersion word version) :
    ∃ greatest, policyVersion bytes = some greatest ∧ version ≤ greatest := by
  -- A file without a version has no word that names one.
  cases hversion : policyVersion bytes with
  | none => exact absurd names (policyVersion_eq_none_iff.mp hversion word hword version)
  | some greatest =>
    have upper := (policyVersion_eq_some_iff.mp hversion).2
    exact ⟨greatest, rfl, upper ⟨word, hword, names⟩⟩

/-- The version of a policy file is named in it. -/
theorem names_of_policyVersion (policy : device.IsPolicy bytes)
    (hversion : policyVersion bytes = some version) : device.Names version :=
  ⟨bytes, policy, (policyVersion_eq_some_iff.mp hversion).1⟩

/-- The greatest of the versions of the policy files is the greatest that is named in any of them. -/
theorem isGreatest_policyVersion_iff :
    IsGreatest {v | ∃ bytes, device.IsPolicy bytes ∧ policyVersion bytes = some v} version ↔
      IsGreatest {v | device.Names v} version := by
  constructor
  · rintro ⟨⟨bytes, policy, hversion⟩, upper⟩
    refine ⟨names_of_policyVersion policy hversion, ?_⟩
    rintro v ⟨other, policy', word, hword, names⟩
    obtain ⟨greatest, hgreatest, hle⟩ := exists_le_policyVersion hword names
    exact Std.le_trans hle (upper ⟨other, policy', hgreatest⟩)
  · rintro ⟨⟨bytes, policy, word, hword, names⟩, upper⟩
    -- The file in which the greatest version is named cannot have a greater one.
    obtain ⟨greatest, hgreatest, hle⟩ := exists_le_policyVersion hword names
    obtain rfl := Std.le_antisymm hle (upper (names_of_policyVersion policy hgreatest))
    exact ⟨⟨bytes, policy, hgreatest⟩, fun v ⟨_, policy', h⟩ => upper (names_of_policyVersion policy' h)⟩

theorem max?_policies_eq_some_iff :
    (device.policies.filterMap policyVersion).max? = some version ↔
      IsGreatest {v | device.Names v} version := by
  rw [Version.max?_eq_some_iff, ← isGreatest_policyVersion_iff]
  simp only [List.mem_filterMap, mem_policies_iff]

theorem max?_policies_eq_none_iff :
    (device.policies.filterMap policyVersion).max? = none ↔ ∀ version, ¬ device.Names version := by
  rw [List.max?_eq_none_iff, List.filterMap_eq_nil_iff]
  constructor
  · rintro unnamed version ⟨bytes, policy, word, hword, names⟩
    have hnone := unnamed bytes (mem_policies_iff.mpr policy)
    exact policyVersion_eq_none_iff.mp hnone word hword version names
  · intro unnamed bytes hbytes
    rw [policyVersion_eq_none_iff]
    exact fun word hword version names =>
      unnamed version ⟨bytes, mem_policies_iff.mp hbytes, word, hword, names⟩

/-- What the policy files come to is the greatest version in them, if this is not zero. -/
theorem scannedVersion_eq_some_iff :
    device.scannedVersion = some version ↔
      version ≠ ⟨0, 0⟩ ∧ IsGreatest {v | device.Names v} version := by
  rw [scannedVersion, Option.filter_eq_some_iff, max?_policies_eq_some_iff, decide_eq_true_iff,
    Version.zero_lt_iff, and_comm]

/-- They come to nothing if no version but zero is named. -/
theorem scannedVersion_eq_none_iff :
    device.scannedVersion = none ↔ ∀ version, device.Names version → version = ⟨0, 0⟩ := by
  constructor
  · intro h v names
    cases hmax : (device.policies.filterMap policyVersion).max? with
    | none => exact absurd names (max?_policies_eq_none_iff.mp hmax v)
    | some greatest =>
      have hgreatest := max?_policies_eq_some_iff.mp hmax
      -- The greatest version is zero, so that no other one is named.
      have zero : greatest = ⟨0, 0⟩ := by
        by_contra nonzero
        rw [scannedVersion_eq_some_iff.mpr ⟨nonzero, hgreatest⟩] at h
        cases h
      exact Std.le_antisymm (zero ▸ hgreatest.2 names) (Version.zero_le v)
  · intro zero
    rw [Option.eq_none_iff_forall_ne_some]
    intro version hversion
    obtain ⟨nonzero, named, -⟩ := scannedVersion_eq_some_iff.mp hversion
    exact nonzero (zero version named)

/-- What the policy files come to hangs on which versions they name. -/
theorem scannedVersion_congr (same : ∀ version, other.Names version ↔ device.Names version) :
    other.scannedVersion = device.scannedVersion := by
  ext version
  rw [scannedVersion_eq_some_iff, scannedVersion_eq_some_iff]
  simp only [same]

/-! ### The source -/

/-- The version of a policy hangs on the version file alone: on why it cannot be read, or on its first
line. -/
structure FollowsDeclaration (device : DeviceRoot) : Prop where
  unread : ∀ cause, device.files.read device.versionFile = .error cause →
    device.sepolicyVersion = .error (.read device.versionFile cause.message none)
  /-- The line feed may be taken for a part of the line. -/
  firstLine : ∀ bytes, device.files.read device.versionFile = .ok bytes →
    ∃ line, IsFirstLine line bytes ∧ ∀ ending, ending = [] ∨ ending = [0x0A] →
      device.sepolicyVersion = .ok (Version.parse (String.ofList (Utf8.lossy (line ++ ending))))
  /-- All other files may change, and what is behind the first line. -/
  alone : ∀ files : FileSystem, files.leadsTo device.versionFile = true →
    SameDeclaration (device.files.read device.versionFile) (files.read device.versionFile) →
      (device.withFiles files).sepolicyVersion = device.sepolicyVersion

/-- The version of a policy is the greatest version of the policy files, if this is not zero. -/
structure FollowsPolicies (device : DeviceRoot) : Prop where
  noError : ∃ found, device.sepolicyVersion = .ok found
  greatest : ∀ version, device.sepolicyVersion = .ok (some version) ↔ version ≠ ⟨0, 0⟩ ∧
    IsGreatest {v | ∃ bytes, device.IsPolicy bytes ∧ policyVersion bytes = some v} version
  without : device.sepolicyVersion = .ok none ↔
    ∀ bytes, device.IsPolicy bytes → policyVersion bytes = none ∨ policyVersion bytes = some ⟨0, 0⟩
  /-- Another device may have the same versions under other names, in another order and in other files.
  -/
  rearranged : ∀ other : DeviceRoot, other.files.leadsTo other.versionFile = false →
    (∀ version, other.Names version ↔ device.Names version) →
      other.sepolicyVersion = device.sepolicyVersion

theorem sepolicyVersion_of_leadsTo (leads : device.files.leadsTo device.versionFile = true) :
    device.sepolicyVersion = ((device.files.read device.versionFile).map declaredVersion).mapError
      fun cause => .read device.versionFile cause.message none := by
  rw [sepolicyVersion, if_pos leads]
  cases device.files.read device.versionFile <;> rfl

theorem sepolicyVersion_of_not_leadsTo (missing : device.files.leadsTo device.versionFile = false) :
    device.sepolicyVersion = .ok device.scannedVersion := by
  rw [sepolicyVersion, if_neg (by simp [missing])]

theorem followsDeclaration (leads : device.files.leadsTo device.versionFile = true) :
    device.FollowsDeclaration where
  unread cause hread := by
    rw [sepolicyVersion_of_leadsTo leads, hread]
    rfl
  firstLine bytes hread := by
    obtain ⟨line, first⟩ := exists_isFirstLine bytes
    refine ⟨line, first, fun ending hending => ?_⟩
    rw [sepolicyVersion_of_leadsTo leads, hread, ← first.declaredVersion_eq hending]
    rfl
  alone files leads' same := by
    -- The version file stands at the same path, since the root of the device is the same.
    have hother : (device.withFiles files).sepolicyVersion =
        ((files.read device.versionFile).map declaredVersion).mapError
          fun cause => .read device.versionFile cause.message none :=
      sepolicyVersion_of_leadsTo leads'
    rw [hother, sepolicyVersion_of_leadsTo leads, same.map_declaredVersion_eq]

theorem followsPolicies (missing : device.files.leadsTo device.versionFile = false) :
    device.FollowsPolicies where
  noError := ⟨_, sepolicyVersion_of_not_leadsTo missing⟩
  greatest version := by
    rw [sepolicyVersion_of_not_leadsTo missing, Except.ok.injEq, scannedVersion_eq_some_iff,
      isGreatest_policyVersion_iff]
  without := by
    rw [sepolicyVersion_of_not_leadsTo missing, Except.ok.injEq, scannedVersion_eq_none_iff]
    constructor
    · intro zero bytes policy
      cases hversion : policyVersion bytes with
      | none => exact .inl rfl
      | some version =>
        have named : device.Names version := names_of_policyVersion policy hversion
        exact .inr (congrArg some (zero version named))
    · rintro zero version ⟨bytes, policy, word, hword, names⟩
      obtain ⟨greatest, hgreatest, hle⟩ := exists_le_policyVersion hword names
      rcases zero bytes policy with hnone | hzero
      · rw [hnone] at hgreatest
        cases hgreatest
      · obtain rfl := Option.some.inj (hgreatest.symm.trans hzero)
        exact Std.le_antisymm hle (Version.zero_le version)
  rearranged other missing' same := by
    rw [sepolicyVersion_of_not_leadsTo missing, sepolicyVersion_of_not_leadsTo missing',
      scannedVersion_congr same]

/-- A version file that is there is the only source of the version, be it that its first line spells
none or that it cannot be read. Where there is none, the version is the greatest one of the policy
files, and none where this is zero or nothing is found; that is never an error, and what the files are
called, in which order they come and which of them names what makes no difference. -/
theorem sepolicyVersion_source (device : DeviceRoot) :
    (device.files.leadsTo device.versionFile = true → device.FollowsDeclaration) ∧
    (device.files.leadsTo device.versionFile = false → device.FollowsPolicies) :=
  ⟨followsDeclaration, followsPolicies⟩

/-- A device with these files in the directory of the policy, and no others. -/
def ofPolicyFiles (files : List (String × String)) : DeviceRoot where
  path := "/"
  files path :=
    if path = "/vendor/etc/selinux" then .ok (.directory (.ok (.ofList (files.map (·.1)))))
    else
      match files.find? fun file => path = "/vendor/etc/selinux/" ++ file.1 with
      | some file => .ok (.file (.ok (Utf8.encode file.2.toList)))
      | none => .error .notFound

/-- A version file whose first line spells no version, with a second line and a policy file that would.
-/
def overridden : DeviceRoot :=
  ofPolicyFiles [("plat_sepolicy_vers.txt", "10000.0.1\n30.0\n"), ("vendor.cil", "(init_27_0)\n")]

/-- Policy files, one with zero in it, and two files that are none by their names. -/
def gathered : DeviceRoot :=
  ofPolicyFiles [("b.cil", "(init_26_0 init_0_0)"), (".cil", "init_50_0"), ("a.cil", "\nsepolicy_27_1"),
    ("notes.txt", "init_40_0")]

/-- The same versions in one file. -/
def gatheredInOne : DeviceRoot := ofPolicyFiles [("all.cil", "sepolicy_27_1 init_0_0\ninit_26_0")]

theorem sepolicyVersion_source_ofPolicyFiles :
    overridden.sepolicyVersion = .ok none ∧
    IsGreatest {v | ∃ bytes, gathered.IsPolicy bytes ∧ policyVersion bytes = some v} ⟨27, 1⟩ ∧
    gatheredInOne.sepolicyVersion = gathered.sepolicyVersion := by
  have declared := (sepolicyVersion_source overridden).1 (by decide +kernel)
  have scanned := (sepolicyVersion_source gathered).2 (by decide +kernel)
  refine ⟨?_, ?_, ?_⟩
  · obtain ⟨line, first, hline⟩ := declared.firstLine (Utf8.encode "10000.0.1\n30.0\n".toList) rfl
    have unspelled : Version.parse (String.ofList (Utf8.lossy (line ++ []))) = none := by
      rw [← first.takeWhile_eq]
      decide +kernel
    rw [hline [] (.inl rfl), unspelled]
  · have found : gathered.scannedVersion = some ⟨27, 1⟩ := by decide +kernel
    have answer : gathered.sepolicyVersion = .ok gathered.scannedVersion :=
      sepolicyVersion_of_not_leadsTo (by decide +kernel)
    exact ((scanned.greatest ⟨27, 1⟩).mp (found ▸ answer)).2
  · refine scanned.rearranged gatheredInOne (by decide +kernel) fun version => ?_
    have perm : gatheredInOne.namedVersions.Perm gathered.namedVersions := by decide +kernel
    rw [← mem_namedVersions_iff, ← mem_namedVersions_iff, perm.mem_iff]

end DeviceRoot

end Treble.Vintf
