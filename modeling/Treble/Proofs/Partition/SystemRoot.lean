import Mathlib.Data.List.Perm.Basic
import Treble.Partition

/-!
# When the system partition is the root

Two properties settle the question, and then the mount table is not asked for. Otherwise it is asked for
once, and three kinds of entries matter in it: two that show the system partition mounted as the root, and
that of a system partition mounted on its own. The search ends at the first one of the former and looks out
for the latter on its way, but the order of the entries does not matter, nor how often they are there.

## Main definitions

* `Mount.Entry.IsRoot`, `Mount.Entry.IsSystemRoot`, `Mount.Entry.IsSystem` — the three kinds of entries
* `Partition.SettledByProperties` — a property settles the question
* `Partition.ShowsRoot` — what a mount table comes to
* `Partition.Restates` — a mount table with the same entries of these kinds

## Main results

* `Partition.searchMounts_iff` — what the search of a mount table comes to
* `Partition.Restates.showsRoot_iff` — tables with the same entries of these kinds come to the same
* `Partition.isSystemAsRoot_answer` — the answer, and how often the mount table is asked for
-/

namespace Treble

namespace Mount.Entry

variable {entry : Entry}

/-- The root device is mounted at the root. -/
def IsRoot (entry : Entry) : Prop := entry.device = "/dev/root" ∧ entry.mountpoint = "/"

/-- Something other than a temporary file system is mounted where the system partition holds the root. -/
def IsSystemRoot (entry : Entry) : Prop :=
  entry.mountpoint = "/system_root" ∧ entry.fsType ≠ "tmpfs"

/-- A device, with a file system that is not a temporary one, is mounted as a system partition on its
own. -/
def IsSystem (entry : Entry) : Prop :=
  entry.mountpoint = "/system" ∧ entry.fsType ≠ "tmpfs" ∧ entry.device ≠ "none"

/-- The entry is of one of the three kinds. -/
def Matters (entry : Entry) : Prop := entry.IsRoot ∨ entry.IsSystemRoot ∨ entry.IsSystem

instance (entry : Entry) : Decidable entry.IsRoot := inferInstanceAs (Decidable (_ ∧ _))

instance (entry : Entry) : Decidable entry.IsSystemRoot := inferInstanceAs (Decidable (_ ∧ _))

instance (entry : Entry) : Decidable entry.IsSystem := inferInstanceAs (Decidable (_ ∧ _))

instance (entry : Entry) : Decidable entry.Matters := inferInstanceAs (Decidable (_ ∨ _))

theorem showsSystemRoot_iff :
    entry.showsSystemRoot = true ↔ entry.IsRoot ∨ entry.IsSystemRoot := by
  simp [showsSystemRoot, IsRoot, IsSystemRoot]

theorem isSystemPartition_iff : entry.isSystemPartition = true ↔ entry.IsSystem := by
  simp [isSystemPartition, IsSystem, and_assoc]

end Mount.Entry

namespace Partition

open Mount (Entry)

variable {mounts other : List Entry} {properties : PropertyStore}

/-! ### Mount tables -/

/-- A mount table shows the system partition mounted as the root: there is an entry of one of the first
two kinds, or none of the third. -/
def ShowsRoot (mounts : List Entry) : Prop :=
  (∃ entry ∈ mounts, entry.IsRoot) ∨ (∃ entry ∈ mounts, entry.IsSystemRoot) ∨
    ¬ ∃ entry ∈ mounts, entry.IsSystem

instance (mounts : List Entry) : Decidable (ShowsRoot mounts) :=
  inferInstanceAs (Decidable (_ ∨ _))

/-- The search finds an entry that shows the root, or meets no system partition, neither before nor in the
rest of the table. -/
theorem searchMounts_iff (separate : Bool) (mounts : List Entry) :
    searchMounts separate mounts = true ↔
      (∃ entry ∈ mounts, entry.IsRoot ∨ entry.IsSystemRoot) ∨
        separate = false ∧ ¬ ∃ entry ∈ mounts, entry.IsSystem := by
  induction mounts generalizing separate with
  | nil => simp [searchMounts]
  | cons entry rest ih =>
    rw [searchMounts, List.exists_mem_cons_iff, List.exists_mem_cons_iff,
      ← Mount.Entry.showsSystemRoot_iff, ← Mount.Entry.isSystemPartition_iff]
    split_ifs with shows
    · simp [shows]
    · rw [ih, Bool.or_eq_false_iff, ← Bool.not_eq_true entry.isSystemPartition]
      simp only [shows, Bool.false_eq_true, false_or, not_or, and_assoc]

theorem showsSystemAsRoot_iff : showsSystemAsRoot mounts = true ↔ ShowsRoot mounts := by
  rw [showsSystemAsRoot, searchMounts_iff, ShowsRoot]
  simp only [and_or_left, exists_or, true_and, or_assoc]

/-- A mount table with the same entries as another one, in any order and any of them more than once, and
with others that do not matter. -/
inductive Restates (mounts : List Entry) : List Entry → Prop
  | refl : Restates mounts mounts
  | perm {other more : List Entry} (restates : Restates mounts other) (perm : other.Perm more) :
      Restates mounts more
  | again {entry : Entry} {other : List Entry} (restates : Restates mounts other)
      (mem : entry ∈ other) : Restates mounts (entry :: other)
  | aside {entry : Entry} {other : List Entry} (restates : Restates mounts other)
      (aside : ¬ entry.Matters) : Restates mounts (entry :: other)

namespace Restates

/-- The entries that matter are the same. -/
theorem mem_iff {entry : Entry} (restates : Restates mounts other) (matters : entry.Matters) :
    entry ∈ other ↔ entry ∈ mounts := by
  induction restates with
  | refl => rfl
  | perm _ perm ih => rw [← perm.mem_iff, ih]
  | again _ mem ih =>
    rw [List.mem_cons, or_iff_right_of_imp, ih]
    rintro rfl
    exact mem
  | aside _ aside ih =>
    rw [List.mem_cons, or_iff_right, ih]
    rintro rfl
    exact aside matters

theorem exists_iff {p : Entry → Prop} (restates : Restates mounts other)
    (matters : ∀ entry, p entry → entry.Matters) :
    (∃ entry ∈ other, p entry) ↔ ∃ entry ∈ mounts, p entry := by
  refine exists_congr fun entry => and_congr_left fun h => ?_
  exact restates.mem_iff (matters entry h)

/-- So the table comes to the same. -/
theorem showsRoot_iff (restates : Restates mounts other) : ShowsRoot other ↔ ShowsRoot mounts := by
  rw [ShowsRoot, ShowsRoot, restates.exists_iff fun _ => .inl,
    restates.exists_iff fun _ h => .inr (.inl h), restates.exists_iff fun _ h => .inr (.inr h)]

theorem showsSystemAsRoot_eq (restates : Restates mounts other) :
    showsSystemAsRoot other = showsSystemAsRoot mounts := by
  rw [Bool.eq_iff_iff, showsSystemAsRoot_iff, showsSystemAsRoot_iff, restates.showsRoot_iff]

end Restates

/-! ### Properties -/

/-- One of two properties says that the system partition is mounted as the root. -/
def SettledByProperties (properties : PropertyStore) : Prop :=
  ∃ name ∈ [Property.dynamicPartitions, Property.systemRootImage],
    ∃ value, properties name = some value ∧ Property.parseFlag value = some true

theorem claimsSystemAsRoot_iff :
    claimsSystemAsRoot properties = true ↔ SettledByProperties properties := by
  simp only [claimsSystemAsRoot, Bool.or_eq_true, PropertyStore.isTrue_iff, SettledByProperties,
    List.exists_mem_cons_iff, List.not_mem_nil, false_and, exists_false, or_false]

/-- With dynamic partitions, the question is settled. -/
theorem settled_of_isDynamic (dynamic : isDynamic? properties = some true) :
    SettledByProperties properties := by
  obtain ⟨value, present, isTrue⟩ := Option.map_eq_some_iff.mp dynamic
  exact ⟨_, List.mem_cons_self .., value, present, beq_iff_eq.mp isTrue⟩

/-! ### The answer -/

section Source

variable {σ : Type} {source : σ → Except Error (List Entry) × σ} {state : σ}

theorem isSystemAsRoot_of_settled (settled : SettledByProperties properties) :
    isSystemAsRoot properties source state = (.ok true, state) := by
  rw [isSystemAsRoot, if_pos (claimsSystemAsRoot_iff.mpr settled)]

/-- If the properties leave the question open, the source is asked once, and its answer decides. -/
theorem isSystemAsRoot_of_open (undecided : ¬ SettledByProperties properties) :
    isSystemAsRoot properties source state =
      ((source state).1.map showsSystemAsRoot, (source state).2) := by
  rw [isSystemAsRoot, if_neg (mt claimsSystemAsRoot_iff.mp undecided)]
  obtain ⟨result, next⟩ := source state
  cases result <;> rfl

end Source

/-- If one of two properties is true, which dynamic partitions make one of them, the answer is yes and the
source of the mount table is not asked: its state is what it was. Otherwise it is asked once. Its error is
the error, and of a mount table the answer is yes iff it shows the root. It stays the same for every table
with the same entries that matter. -/
theorem isSystemAsRoot_answer {σ : Type} (properties : PropertyStore)
    (source : σ → Except Error (List Entry) × σ) (state : σ) :
    (SettledByProperties properties →
      isSystemAsRoot properties source state = (.ok true, state)) ∧
    (isDynamic? properties = some true →
      isSystemAsRoot properties source state = (.ok true, state)) ∧
    (¬ SettledByProperties properties →
      (isSystemAsRoot properties source state).2 = (source state).2 ∧
      (∀ error, (source state).1 = .error error →
        (isSystemAsRoot properties source state).1 = .error error) ∧
      ∀ mounts, (source state).1 = .ok mounts →
        ∃ answer, (isSystemAsRoot properties source state).1 = .ok answer ∧
          (answer = true ↔ ShowsRoot mounts) ∧
          ∀ other, Restates mounts other → ∀ again : σ → Except Error (List Entry) × σ,
            (again state).1 = .ok other → (isSystemAsRoot properties again state).1 = .ok answer) := by
  refine ⟨isSystemAsRoot_of_settled, ?_, fun undecided => ⟨?_, ?_, ?_⟩⟩
  · exact fun dynamic => isSystemAsRoot_of_settled (settled_of_isDynamic dynamic)
  · rw [isSystemAsRoot_of_open undecided]
  · intro error fails
    rw [isSystemAsRoot_of_open undecided, fails]
    rfl
  · intro mounts gives
    refine ⟨showsSystemAsRoot mounts, ?_, showsSystemAsRoot_iff, ?_⟩
    · rw [isSystemAsRoot_of_open undecided, gives]
      rfl
    · intro other restates again givesOther
      rw [isSystemAsRoot_of_open undecided, givesOther, ← restates.showsSystemAsRoot_eq]
      rfl

/-- A source that has one answer and counts how often it is asked. -/
def counted (answer : Except Error (List Entry)) (calls : Nat) : Except Error (List Entry) × Nat :=
  (answer, calls + 1)

/-- An entry with no options. -/
def entryOf (device mountpoint fsType : String) : Entry :=
  { device, mountpoint, fsType, options := [], dump := 0, pass := 0 }

/-- A table with a system partition of its own, and behind it the root device at the root. -/
def mixedTable : List Entry :=
  [entryOf "/dev/sda1" "/system" "ext4", entryOf "/dev/root" "/" "ext4"]

/-- The same entries the other way round, with one that does not matter in front. -/
def restatedTable : List Entry :=
  [entryOf "none" "/system" "tmpfs", entryOf "/dev/root" "/" "ext4",
    entryOf "/dev/sda1" "/system" "ext4"]

/-- The root device decides, wherever it stands. -/
theorem isSystemAsRoot_answer_mixedTable :
    isSystemAsRoot (fun _ => some "yes") (counted (.ok mixedTable)) 0 = (.ok true, 0) ∧
    Restates mixedTable restatedTable ∧
    isSystemAsRoot .empty (counted (.ok restatedTable)) 0 = (.ok true, 1) := by
  have settled : SettledByProperties fun _ => some "yes" :=
    ⟨_, List.mem_cons_self .., "yes", rfl, by decide⟩
  have undecided : ¬ SettledByProperties .empty := by
    rintro ⟨_, _, value, present, _⟩
    cases present
  have restates : Restates mixedTable restatedTable :=
    .aside (.perm .refl (.swap ..)) (by decide)
  obtain ⟨answer, -, shows, same⟩ :=
    ((isSystemAsRoot_answer .empty (counted (.ok mixedTable)) 0).2.2 undecided).2.2 _ rfl
  obtain rfl : answer = true := shows.mpr (by decide)
  have asked := ((isSystemAsRoot_answer .empty (counted (.ok restatedTable)) 0).2.2 undecided).1
  exact ⟨(isSystemAsRoot_answer _ _ _).1 settled, restates,
    Prod.ext (same _ restates _ rfl) asked⟩

end Partition

end Treble
