/-!
# Sets of names

A finite set of names is the list of its members in ascending order. Names are compared character
by character, which is also the order of their bytes.

## Main definitions

* `NameSet` — a strictly ascending list of names
* `NameSet.insert`, `NameSet.union`, `NameSet.ofList` — the operations on sets

## Main results

* `NameSet.mem_insert`, `NameSet.mem_union`, `NameSet.mem_ofList` — the members of each result
* `NameSet.ext` — sets with the same members are equal
-/

namespace Treble.Text

/-- A finite set of names, in ascending order. -/
structure NameSet where
  toList : List String
  ascending : toList.Pairwise (· < ·)
deriving DecidableEq

namespace NameSet

instance : Membership String NameSet := ⟨fun set name => name ∈ set.toList⟩

instance (name : String) (set : NameSet) : Decidable (name ∈ set) :=
  inferInstanceAs (Decidable (name ∈ set.toList))

theorem mem_iff {name : String} {set : NameSet} : name ∈ set ↔ name ∈ set.toList := Iff.rfl

/-- The set without members. -/
def empty : NameSet := ⟨[], .nil⟩

instance : EmptyCollection NameSet := ⟨empty⟩

instance : Inhabited NameSet := ⟨empty⟩

@[simp] theorem not_mem_empty (name : String) : ¬ name ∈ (∅ : NameSet) := List.not_mem_nil

/-- Whether a set has no members. -/
def isEmpty (set : NameSet) : Bool := set.toList.isEmpty

/-- Puts a name in its place in an ascending list. -/
def place (name : String) : List String → List String
  | [] => [name]
  | first :: rest =>
    if name < first then name :: first :: rest
    else if name = first then first :: rest
    else first :: place name rest

theorem mem_place {name other : String} {names : List String} :
    other ∈ place name names ↔ other = name ∨ other ∈ names := by
  induction names with
  | nil => simp [place]
  | cons first rest ih =>
    rw [place]
    split
    · simp
    · split
      · next h => subst h; simp
      · simp [ih, or_left_comm]

theorem pairwise_place {name : String} {names : List String} (h : names.Pairwise (· < ·)) :
    (place name names).Pairwise (· < ·) := by
  induction names with
  | nil => simp [place]
  | cons first rest ih =>
    rw [List.pairwise_cons] at h
    rw [place]
    split
    · next hlt =>
      refine List.pairwise_cons.mpr ⟨fun other hother => ?_, List.pairwise_cons.mpr h⟩
      rcases List.mem_cons.mp hother with rfl | hmem
      · exact hlt
      · exact String.lt_trans hlt (h.1 other hmem)
    · next hlt =>
      split
      · exact List.pairwise_cons.mpr h
      · next hne =>
        refine List.pairwise_cons.mpr ⟨fun other hother => ?_, ih h.2⟩
        rcases mem_place.mp hother with rfl | hmem
        · exact Std.lt_of_le_of_ne (String.not_lt.mp hlt) (Ne.symm hne)
        · exact h.1 other hmem

/-- A set with one more member. -/
def insert (set : NameSet) (name : String) : NameSet :=
  ⟨place name set.toList, pairwise_place set.ascending⟩

/-- The members of either set. -/
def union (left right : NameSet) : NameSet := right.toList.foldl insert left

instance : Union NameSet := ⟨union⟩

/-- The set of the names in a list. -/
def ofList (names : List String) : NameSet := names.foldl insert ∅

@[simp] theorem mem_insert {set : NameSet} {name other : String} :
    other ∈ set.insert name ↔ other = name ∨ other ∈ set := mem_place

theorem mem_foldl_insert {set : NameSet} {names : List String} {other : String} :
    other ∈ names.foldl insert set ↔ other ∈ names ∨ other ∈ set := by
  induction names generalizing set with
  | nil => simp
  | cons name names ih => simp [ih, or_assoc, or_left_comm]

@[simp] theorem mem_union {left right : NameSet} {name : String} :
    name ∈ left ∪ right ↔ name ∈ left ∨ name ∈ right :=
  mem_foldl_insert.trans Or.comm

@[simp] theorem mem_ofList {names : List String} {name : String} :
    name ∈ ofList names ↔ name ∈ names := by
  simp [ofList, mem_foldl_insert]

/-- Sets with the same members are equal. -/
theorem ext {left right : NameSet} (h : ∀ name, name ∈ left ↔ name ∈ right) : left = right := by
  obtain ⟨xs, hx⟩ := left
  obtain ⟨ys, hy⟩ := right
  simp only [mem_iff] at h
  congr 1
  induction xs generalizing ys with
  | nil =>
    cases ys with
    | nil => rfl
    | cons y ys => simpa using h y
  | cons x xs ih =>
    cases ys with
    | nil => simpa using h x
    | cons y ys =>
      -- Each of the two first names is in the other list, and neither can stand behind the other.
      have hxy : x = y := by
        rcases List.mem_cons.mp ((h x).mp (List.mem_cons_self ..)) with hx' | hx'
        · exact hx'
        · rcases List.mem_cons.mp ((h y).mpr (List.mem_cons_self ..)) with hy' | hy'
          · exact hy'.symm
          · exact absurd (String.lt_trans (List.rel_of_pairwise_cons hx hy')
              (List.rel_of_pairwise_cons hy hx')) (String.lt_irrefl _)
      subst hxy
      congr 1
      refine ih hx.of_cons ys hy.of_cons fun name => ?_
      have hn := h name
      simp only [List.mem_cons] at hn
      constructor
      · intro hm
        rcases hn.mp (Or.inr hm) with rfl | hm'
        · exact absurd (List.rel_of_pairwise_cons hx hm) (String.lt_irrefl _)
        · exact hm'
      · intro hm
        rcases hn.mpr (Or.inr hm) with rfl | hm'
        · exact absurd (List.rel_of_pairwise_cons hy hm) (String.lt_irrefl _)
        · exact hm'

@[simp] theorem union_empty (set : NameSet) : set ∪ ∅ = set := rfl

@[simp] theorem empty_union (set : NameSet) : ∅ ∪ set = set :=
  ext fun name => by simp

theorem union_assoc (first second third : NameSet) :
    first ∪ second ∪ third = first ∪ (second ∪ third) :=
  ext fun name => by simp [or_assoc]

end NameSet

end Treble.Text
