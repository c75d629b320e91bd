import Treble.Proofs.Text.Numerals
import Treble.Proofs.Text.Stripping
import Treble.Version

/-!
# The grammar of version tokens

A token is divided at its dots, and white space around what stands between them does not count. One or
two parts spell a version unless all of them are a single zero: the first one must be a numeral of
32 bits, and the second one counts as zero if it is none. Nothing else is a version, and every number is
taken at its value, however many digits it has.

## Main definitions

* `Version.HasParts` — the parts of a token
* `Version.MinorOf` — the minor number that a second part, or none, stands for
* `Version.SpelledBy` — parts spell a version

## Main results

* `Version.hasParts_iff` — a token has the parts that it is divided into and no others
* `Version.ofParts?_eq_some_iff` — the version of some parts is the one that they spell
* `Version.parse_grammar` — the version of a token is the one that its parts spell
-/

namespace Treble.Version

open Text Text.Decimal

/-! ### Parts -/

/-- A token has these parts: they stand between its dots, each in white space or not. -/
inductive HasParts : List Char → List (List Char) → Prop
  /-- What has no dot is one part. -/
  | last {piece part : List Char} (noDot : '.' ∉ piece) (stripped : IsStripped isBlank part)
      (padded : IsPadded isBlank part piece) : HasParts piece [part]
  /-- What stands in front of the first dot is one part, and the others are those of what follows. -/
  | dot {piece part rest : List Char} {parts : List (List Char)} (noDot : '.' ∉ piece)
      (stripped : IsStripped isBlank part) (padded : IsPadded isBlank part piece)
      (others : HasParts rest parts) : HasParts (piece ++ '.' :: rest) (part :: parts)

theorem parts_of_notMem {piece : List Char} (noDot : '.' ∉ piece) :
    parts piece = [strip isBlank piece] := by
  rw [parts, List.splitOn_eq_singleton noDot, List.map_singleton]

theorem parts_append_dot {piece : List Char} (noDot : '.' ∉ piece) (rest : List Char) :
    parts (piece ++ '.' :: rest) = strip isBlank piece :: parts rest := by
  rw [parts, List.splitOn_append_cons_self_of_not_mem noDot, List.map_cons, parts]

theorem hasParts_parts (token : List Char) : HasParts token (parts token) := by
  -- The induction is on the length, so that what follows the first dot has its parts.
  induction hlength : token.length using Nat.strongRecOn generalizing token with
  | ind length ih =>
    subst hlength
    by_cases dot : '.' ∈ token
    · obtain ⟨piece, rest, rfl, noDot⟩ := List.eq_append_cons_of_mem dot
      rw [parts_append_dot noDot]
      exact .dot noDot (isStripped_strip ..) (isPadded_strip ..) (ih _ (by simp; omega) rest rfl)
    · rw [parts_of_notMem dot]
      exact .last dot (isStripped_strip ..) (isPadded_strip ..)

/-- A token has the parts that it is divided into and no others. -/
theorem hasParts_iff {token : List Char} {divided : List (List Char)} :
    HasParts token divided ↔ parts token = divided := by
  constructor
  · intro h
    induction h with
    | last noDot stripped padded =>
      rw [parts_of_notMem noDot, strip_eq_iff.mpr ⟨stripped, padded⟩]
    | dot noDot stripped padded others ih =>
      rw [parts_append_dot noDot, strip_eq_iff.mpr ⟨stripped, padded⟩, ih]
  · rintro rfl
    exact hasParts_parts token

/-- White space behind a token is no matter of its parts. -/
theorem HasParts.append_blank {token tail : List Char} {divided : List (List Char)}
    (h : HasParts token divided) (htail : ∀ c ∈ tail, isBlank c = true) :
    HasParts (token ++ tail) divided := by
  induction h with
  | last noDot stripped padded =>
    have noDot' := (IsPadded.append (.refl isBlank _) htail).notMem (by decide) noDot
    exact .last noDot' stripped (padded.append htail)
  | dot noDot stripped padded _ ih =>
    rw [List.append_assoc, List.cons_append]
    exact .dot noDot stripped padded ih

/-- White space behind a token changes nothing. -/
theorem parse_append_blank {token tail : List Char} (htail : ∀ c ∈ tail, isBlank c = true) :
    parse (String.ofList (token ++ tail)) = parse (String.ofList token) := by
  have hparts := (hasParts_parts token).append_blank htail
  rw [parse, parse, String.toList_ofList, String.toList_ofList, hasParts_iff.mp hparts]

/-! ### What parts spell -/

/-- The minor number that a second part stands for: the one that it denotes, and zero if it denotes none
of 32 bits or if there is no second part. -/
def MinorOf : Option (List Char) → UInt32 → Prop
  | none, minor => minor = 0
  | some part, minor =>
    Denotes part minor.toNat ∨ minor = 0 ∧ ∀ n, Denotes part n → UInt32.size ≤ n

/-- Parts spell a version. -/
structure SpelledBy (parts : List (List Char)) (version : Version) : Prop where
  /-- There are one or two parts. -/
  count : parts.length = 1 ∨ parts.length = 2
  /-- Not all of them are a single zero. -/
  nonzero : ∃ part ∈ parts, part ≠ ['0']
  /-- The first one denotes the major number. -/
  major : ∃ part, parts.head? = some part ∧ Denotes part version.major.toNat
  minor : MinorOf parts[1]? version.minor

theorem minorOf_some_iff {part : List Char} {minor : UInt32} :
    MinorOf (some part) minor ↔ (word32? part).getD 0 = minor := by
  rw [MinorOf, ← word32?_eq_some_iff_denotes, ← word32?_eq_none_iff]
  cases word32? part with
  | none => simp [eq_comm]
  | some n => simp

theorem spelledBy_singleton_iff {part : List Char} {version : Version} :
    SpelledBy [part] version ↔
      part ≠ ['0'] ∧ Denotes part version.major.toNat ∧ version.minor = 0 := by
  constructor
  · rintro ⟨-, nonzero, ⟨_, hfirst, major⟩, minor⟩
    obtain rfl := Option.some.inj hfirst
    exact ⟨by simpa using nonzero, major, minor⟩
  · rintro ⟨nonzero, major, minor⟩
    exact ⟨.inl rfl, ⟨part, List.mem_singleton_self _, nonzero⟩, ⟨part, rfl, major⟩, minor⟩

theorem spelledBy_pair_iff {first second : List Char} {version : Version} :
    SpelledBy [first, second] version ↔
      ¬ (first = ['0'] ∧ second = ['0']) ∧ Denotes first version.major.toNat ∧
        MinorOf (some second) version.minor := by
  have hnonzero : (∃ part ∈ [first, second], part ≠ ['0']) ↔
      ¬ (first = ['0'] ∧ second = ['0']) := by
    simp only [List.mem_cons, List.not_mem_nil, or_false, exists_eq_or_imp, exists_eq_left,
      not_and_or, Ne]
  constructor
  · rintro ⟨-, nonzero, ⟨_, hfirst, major⟩, minor⟩
    obtain rfl := Option.some.inj hfirst
    exact ⟨hnonzero.mp nonzero, major, minor⟩
  · rintro ⟨nonzero, major, minor⟩
    exact ⟨.inr rfl, hnonzero.mpr nonzero, ⟨first, rfl, major⟩, minor⟩

theorem ofParts?_singleton_eq_some_iff {part : List Char} {version : Version} :
    ofParts? [part] = some version ↔
      part ≠ ['0'] ∧ word32? part = some version.major ∧ version.minor = 0 := by
  obtain ⟨major, minor⟩ := version
  rw [ofParts?, Option.ite_none_left_eq_some, Option.map_eq_some_iff]
  simp only [List.all_cons, List.all_nil, Bool.and_true, beq_iff_eq, Version.mk.injEq]
  constructor
  · rintro ⟨nonzero, a, ha, rfl, rfl⟩
    exact ⟨nonzero, ha, rfl⟩
  · rintro ⟨nonzero, ha, rfl⟩
    exact ⟨nonzero, major, ha, rfl, rfl⟩

theorem ofParts?_pair_eq_some_iff {first second : List Char} {version : Version} :
    ofParts? [first, second] = some version ↔
      ¬ (first = ['0'] ∧ second = ['0']) ∧ word32? first = some version.major ∧
        (word32? second).getD 0 = version.minor := by
  obtain ⟨major, minor⟩ := version
  rw [ofParts?, Option.ite_none_left_eq_some, Option.map_eq_some_iff]
  simp only [List.all_cons, List.all_nil, Bool.and_true, Bool.and_eq_true, beq_iff_eq,
    Version.mk.injEq]
  constructor
  · rintro ⟨nonzero, a, ha, rfl, hminor⟩
    exact ⟨nonzero, ha, hminor⟩
  · rintro ⟨nonzero, ha, hminor⟩
    exact ⟨nonzero, major, ha, rfl, hminor⟩

/-- The version of some parts is the one that they spell. -/
theorem ofParts?_eq_some_iff {parts : List (List Char)} {version : Version} :
    ofParts? parts = some version ↔ SpelledBy parts version := by
  match parts with
  | [] =>
    constructor
    · intro h
      cases h
    · intro spelled
      exact absurd spelled.count (by decide)
  | [part] =>
    rw [spelledBy_singleton_iff, ofParts?_singleton_eq_some_iff, word32?_eq_some_iff_denotes]
  | [first, second] =>
    rw [spelledBy_pair_iff, ofParts?_pair_eq_some_iff, word32?_eq_some_iff_denotes,
      minorOf_some_iff]
  | first :: second :: third :: rest =>
    constructor
    · intro h
      simp [ofParts?] at h
    · intro spelled
      simpa using spelled.count

/-! ### Tokens -/

/-- The version of a token is the one that its parts spell, and there is none if they spell none. -/
theorem parse_grammar (token : String) :
    (∃! divided, HasParts token.toList divided) ∧
    ∀ divided, HasParts token.toList divided →
      (∀ version, parse token = some version ↔ SpelledBy divided version) ∧
      (parse token = none ↔ ∀ version, ¬ SpelledBy divided version) := by
  constructor
  · refine ⟨parts token.toList, hasParts_parts _, fun divided h => (hasParts_iff.mp h).symm⟩
  · intro divided h
    have hparse : parse token = ofParts? divided := by rw [parse, hasParts_iff.mp h]
    rw [hparse, Option.eq_none_iff_forall_ne_some]
    exact ⟨fun version => ofParts?_eq_some_iff,
      forall_congr' fun version => not_congr ofParts?_eq_some_iff⟩

/-- A token with white space around its parts, zeros in front of the first one and a second one that is
too large. -/
def looseToken : String := "\u00A0007 .\t4294967296\n"

theorem parse_grammar_looseToken :
    HasParts looseToken.toList ["007".toList, "4294967296".toList] ∧
    parse looseToken = some ⟨7, 0⟩ := by
  have divided : HasParts looseToken.toList ["007".toList, "4294967296".toList] :=
    hasParts_iff.mpr (by decide)
  have spelled : SpelledBy ["007".toList, "4294967296".toList] ⟨7, 0⟩ :=
    { count := .inr rfl
      nonzero := ⟨"007".toList, by decide, by decide⟩
      major := ⟨"007".toList, rfl, by decide⟩
      minor := .inr ⟨rfl, word32?_eq_none_iff.mp (by decide)⟩ }
  exact ⟨divided, (((parse_grammar looseToken).2 _ divided).1 ⟨7, 0⟩).mpr spelled⟩

end Treble.Version
