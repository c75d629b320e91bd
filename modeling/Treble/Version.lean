import Treble.Text.Blank
import Treble.Text.Decimal

/-!
# Versions

The `major.minor` tokens of VINTF manifests, compatibility matrices, SELinux policy files and the
property `ro.vndk.version`. Versions are ordered by their major number and then by their minor
one. A token made of zeros only says that there is no version.

## Main definitions

* `Version` — two 32-bit numbers
* `Version.parse` — the version that a token spells
* `Version.best` — the greatest version of a list of tokens

## Main results

* `Version.le_iff_key_le` — the order is that of the numbers with the major one in the upper
  half and the minor one in the lower half
* `Version.isLinearOrder` — the order is linear
-/

namespace Treble

/-- A version: a major and a minor number. -/
structure Version where
  major : UInt32
  minor : UInt32
deriving DecidableEq, Repr, Inhabited

namespace Version

/-- Versions compare by their major numbers first and by their minor ones second. -/
instance : LE Version :=
  ⟨fun v w => v.major < w.major ∨ v.major = w.major ∧ v.minor ≤ w.minor⟩

instance : LT Version :=
  ⟨fun v w => v.major < w.major ∨ v.major = w.major ∧ v.minor < w.minor⟩

theorem le_iff {v w : Version} :
    v ≤ w ↔ v.major < w.major ∨ v.major = w.major ∧ v.minor ≤ w.minor := Iff.rfl

theorem lt_iff {v w : Version} :
    v < w ↔ v.major < w.major ∨ v.major = w.major ∧ v.minor < w.minor := Iff.rfl

instance (v w : Version) : Decidable (v ≤ w) := decidable_of_iff' _ le_iff

instance (v w : Version) : Decidable (v < w) := decidable_of_iff' _ lt_iff

instance : Max Version := maxOfLe

/-- Both numbers in one. -/
def key (v : Version) : Nat := v.major.toNat * 0x100000000 + v.minor.toNat

theorem key_inj {v w : Version} : v.key = w.key ↔ v = w := by
  obtain ⟨a, b⟩ := v
  obtain ⟨c, d⟩ := w
  have hb := b.toNat_lt
  have hd := d.toNat_lt
  simp only [key, Version.mk.injEq, ← UInt32.toNat_inj]
  omega

theorem le_iff_key_le {v w : Version} : v ≤ w ↔ v.key ≤ w.key := by
  have hv := v.minor.toNat_lt
  have hw := w.minor.toNat_lt
  simp only [le_iff, key, UInt32.lt_iff_toNat_lt, UInt32.le_iff_toNat_le, ← UInt32.toNat_inj]
  omega

theorem lt_iff_key_lt {v w : Version} : v < w ↔ v.key < w.key := by
  have hv := v.minor.toNat_lt
  have hw := w.minor.toNat_lt
  simp only [lt_iff, key, UInt32.lt_iff_toNat_lt, ← UInt32.toNat_inj]
  omega

/-- No version is smaller than 0.0. -/
theorem zero_le (v : Version) : ⟨0, 0⟩ ≤ v := le_iff_key_le.mpr (Nat.zero_le _)

theorem zero_lt_iff {v : Version} : ⟨0, 0⟩ < v ↔ v ≠ ⟨0, 0⟩ := by
  have zero : key ⟨0, 0⟩ = 0 := rfl
  rw [lt_iff_key_lt, ne_eq, ← key_inj, zero]
  exact Nat.pos_iff_ne_zero

instance isLinearOrder : Std.IsLinearOrder Version where
  le_refl _ := le_iff_key_le.mpr (Nat.le_refl _)
  le_trans _ _ _ h h' :=
    le_iff_key_le.mpr (Nat.le_trans (le_iff_key_le.mp h) (le_iff_key_le.mp h'))
  le_antisymm _ _ h h' :=
    key_inj.mp (Nat.le_antisymm (le_iff_key_le.mp h) (le_iff_key_le.mp h'))
  le_total _ _ := (Nat.le_total _ _).imp le_iff_key_le.mpr le_iff_key_le.mpr

instance : Std.LawfulOrderMax Version where
  max_eq_or v w := by
    simp only [max]
    split <;> simp
  max_le_iff u v w := by
    simp only [max]
    split
    · next h => exact ⟨fun h' => ⟨Std.IsPreorder.le_trans _ _ _ h h', h'⟩, And.right⟩
    · next h =>
      have h' : v ≤ u := (Std.IsLinearPreorder.le_total u v).resolve_left h
      exact ⟨fun hw => ⟨hw, Std.IsPreorder.le_trans _ _ _ h' hw⟩, And.left⟩

/-- The version with its numbers in decimal and a dot between them. -/
def text (v : Version) : String :=
  Text.Decimal.text v.major.toNat ++ "." ++ Text.Decimal.text v.minor.toNat

instance : ToString Version := ⟨text⟩

/-- The version that the parts between the dots spell. A token has one or two parts; if all of
them are a single zero there is no version. The first part must be a number of 32 bits. A second
part that is not one counts as zero. -/
def ofParts? (parts : List (List Char)) : Option Version :=
  if parts.all (· == ['0']) then none
  else
    match parts with
    | [major] => (Text.Decimal.word32? major).map fun a => ⟨a, 0⟩
    | [major, minor] =>
      (Text.Decimal.word32? major).map fun a => ⟨a, (Text.Decimal.word32? minor).getD 0⟩
    | _ => none

/-- The parts of a token: what stands between its dots, without white space around it. -/
def parts (token : List Char) : List (List Char) :=
  (token.splitOn '.').map (Text.strip Text.isBlank)

/-- The version that a token spells. -/
def parse (token : String) : Option Version := ofParts? (parts token.toList)

/-- The greatest version among those that the tokens spell. -/
def best (tokens : List String) : Option Version := (tokens.filterMap parse).max?

end Version

end Treble
