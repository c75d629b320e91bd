import Treble.Text.Encoding

/-!
# Encodings read back

A text that is written in one of the two encodings is read back as it was. In UTF-8 the bounds that
a first byte sets for the second one are met by the bytes of every character, and in UTF-16 the
halves of a pair give back the ten bits that each of them holds.

## Main results

* `Utf8.lossy_encode`, `Utf8.strict?_encode` — the bytes of a text are read as that text
* `Utf16.lossy_encode` — so are its little-endian units
-/

namespace Treble.Text

namespace Utf8

theorem toNat_byte {n : Nat} (h : n < 0x100) : (UInt8.ofNat n).toNat = n := by
  rw [UInt8.toNat_ofNat']
  exact Nat.mod_eq_of_lt h

/-- A byte in the middle of a character. -/
theorem decodeFrom_more {p : Pending} {more : Nat} {b : UInt8} {rest : List UInt8}
    (hmore : p.more = more + 1) (h : p.accepts b = true) :
    decodeFrom (some p) (b :: rest) =
      decodeFrom (some ⟨more, 0x80, 0xBF, p.extend b⟩) rest := by
  rw [decodeFrom, if_pos h, hmore]

/-- The last byte of a character. -/
theorem decodeFrom_last {p : Pending} {b : UInt8} {rest : List UInt8}
    (hmore : p.more = 0) (h : p.accepts b = true) :
    decodeFrom (some p) (b :: rest) = some (Char.ofNat (p.extend b)) :: decodeFrom none rest := by
  rw [decodeFrom, if_pos h, hmore]

/-- The first byte of a character of several. -/
theorem decodeFrom_lead {p : Pending} {b : UInt8} {rest : List UInt8} (h : ¬ b < 0x80)
    (hp : Pending.ofLead? b = some p) :
    decodeFrom none (b :: rest) = decodeFrom (some p) rest := by
  rw [decodeFrom, if_neg h, hp]

theorem ofLead?_byte {n : Nat} (hn : n < 0x100) :
    Pending.ofLead? (.ofNat n) =
      if n < 0xC2 then none
      else if n < 0xE0 then some ⟨0, 0x80, 0xBF, n % 0x20⟩
      else if n = 0xE0 then some ⟨1, 0xA0, 0xBF, 0⟩
      else if n = 0xED then some ⟨1, 0x80, 0x9F, 0xD⟩
      else if n < 0xF0 then some ⟨1, 0x80, 0xBF, n % 0x10⟩
      else if n = 0xF0 then some ⟨2, 0x90, 0xBF, 0⟩
      else if n < 0xF4 then some ⟨2, 0x80, 0xBF, n % 8⟩
      else if n = 0xF4 then some ⟨2, 0x80, 0x8F, 4⟩
      else none := by
  simp only [Pending.ofLead?, UInt8.lt_iff_toNat_lt, ← UInt8.toNat_inj, toNat_byte hn]
  rfl

theorem not_lt_of_le {n : Nat} (hn : n < 0x100) (h : 0x80 ≤ n) : ¬ UInt8.ofNat n < 0x80 := by
  rw [UInt8.lt_iff_toNat_lt, toNat_byte hn]
  exact Nat.not_lt.mpr h

theorem accepts_byte {p : Pending} {n : Nat} (hn : n < 0x100) (hlow : p.low.toNat ≤ n)
    (hhigh : n ≤ p.high.toNat) : p.accepts (.ofNat n) = true := by
  rw [Pending.accepts, Bool.and_eq_true, decide_eq_true_eq, decide_eq_true_eq,
    UInt8.le_iff_toNat_le, UInt8.le_iff_toNat_le, toNat_byte hn]
  exact ⟨hlow, hhigh⟩

theorem extend_byte {p : Pending} {n : Nat} (hn : n < 0x40) :
    p.extend (.ofNat (0x80 + n)) = p.bits * 0x40 + n := by
  rw [Pending.extend, toNat_byte (by omega)]
  congr 1
  omega

/-- What the first of three bytes begins: a character whose second byte continues it. -/
theorem ofLead?_three {n : Nat} (hlow : 0x800 ≤ n) (hhigh : n < 0x10000)
    (hvalid : n < 0xD800 ∨ 0xDFFF < n) :
    ∃ p, Pending.ofLead? (.ofNat (0xE0 + n / 0x1000)) = some p ∧ p.more = 1 ∧
      p.bits = n / 0x1000 ∧ p.accepts (.ofNat (0x80 + n / 0x40 % 0x40)) = true := by
  have accepts {p : Pending} := accepts_byte (p := p) (n := 0x80 + n / 0x40 % 0x40) (by omega)
  rw [ofLead?_byte (by omega), if_neg (by omega), if_neg (by omega)]
  -- Two first bytes bound the second one: E0 so that the spelling is the shortest, ED so that the
  -- character is no surrogate.
  split
  · exact ⟨_, rfl, rfl, by dsimp only; omega,
      accepts (by show 0xA0 ≤ _; omega) (by show _ ≤ 0xBF; omega)⟩
  split
  · exact ⟨_, rfl, rfl, by dsimp only; omega,
      accepts (by show 0x80 ≤ _; omega) (by show _ ≤ 0x9F; omega)⟩
  rw [if_pos (by omega)]
  exact ⟨_, rfl, rfl, by dsimp only; omega,
    accepts (by show 0x80 ≤ _; omega) (by show _ ≤ 0xBF; omega)⟩

/-- What the first of four bytes begins: a character whose second byte continues it. -/
theorem ofLead?_four {n : Nat} (hlow : 0x10000 ≤ n) (hhigh : n < 0x110000) :
    ∃ p, Pending.ofLead? (.ofNat (0xF0 + n / 0x40000)) = some p ∧ p.more = 2 ∧
      p.bits = n / 0x40000 ∧ p.accepts (.ofNat (0x80 + n / 0x1000 % 0x40)) = true := by
  have accepts {p : Pending} := accepts_byte (p := p) (n := 0x80 + n / 0x1000 % 0x40) (by omega)
  rw [ofLead?_byte (by omega), if_neg (by omega), if_neg (by omega), if_neg (by omega),
    if_neg (by omega), if_neg (by omega)]
  -- Here F0 bounds the second byte for the shortest spelling, and F4 for the last character.
  split
  · exact ⟨_, rfl, rfl, by dsimp only; omega,
      accepts (by show 0x90 ≤ _; omega) (by show _ ≤ 0xBF; omega)⟩
  split
  · exact ⟨_, rfl, rfl, by dsimp only; omega,
      accepts (by show 0x80 ≤ _; omega) (by show _ ≤ 0xBF; omega)⟩
  rw [if_pos (by omega)]
  exact ⟨_, rfl, rfl, by dsimp only; omega,
    accepts (by show 0x80 ≤ _; omega) (by show _ ≤ 0x8F; omega)⟩

theorem accepts_tail {more bits n : Nat} (hn : n < 0x40) :
    (⟨more, 0x80, 0xBF, bits⟩ : Pending).accepts (.ofNat (0x80 + n)) = true :=
  accepts_byte (by omega) (Nat.le_add_right ..) (by show _ ≤ 0xBF; omega)

/-- The bytes of a character are read as that character. -/
theorem decodeFrom_encodeChar (c : Char) (rest : List UInt8) :
    decodeFrom none (encodeChar c ++ rest) = some c :: decodeFrom none rest := by
  have hrange : c.toNat < 0xD800 ∨ 0xDFFF < c.toNat ∧ c.toNat < 0x110000 := c.valid
  have hc : ∀ n, n = c.toNat → some (Char.ofNat n) :: decodeFrom none rest =
      some c :: decodeFrom none rest := by
    rintro _ rfl
    rw [Char.ofNat_toNat]
  rw [encodeChar]
  -- From here on only the number of the character counts: one byte, or a first byte that tells how
  -- many follow and bounds the second one.
  generalize c.toNat = n at hrange hc
  split
  · next h =>
    have hlt : UInt8.ofNat n < 0x80 := by
      rw [UInt8.lt_iff_toNat_lt, toNat_byte (by omega)]
      exact h
    rw [List.singleton_append, decodeFrom, if_pos hlt, toNat_byte (by omega)]
    exact hc _ rfl
  split
  · next h =>
    have hlead := ofLead?_byte (n := 0xC0 + n / 0x40) (by omega)
    rw [if_neg (by omega), if_pos (by omega)] at hlead
    simp only [List.cons_append, List.nil_append]
    rw [decodeFrom_lead (not_lt_of_le (by omega) (by omega)) hlead,
      decodeFrom_last rfl (accepts_tail (by omega)), extend_byte (by omega)]
    exact hc _ (by dsimp only; omega)
  split
  · next h =>
    obtain ⟨p, hlead, hmore, hbits, haccepts⟩ :=
      ofLead?_three (n := n) (by omega) (by omega) (by omega)
    simp only [List.cons_append, List.nil_append]
    rw [decodeFrom_lead (not_lt_of_le (by omega) (by omega)) hlead,
      decodeFrom_more hmore haccepts, extend_byte (by omega), hbits,
      decodeFrom_last rfl (accepts_tail (by omega)), extend_byte (by omega)]
    exact hc _ (by dsimp only; omega)
  · next h =>
    obtain ⟨p, hlead, hmore, hbits, haccepts⟩ := ofLead?_four (n := n) (by omega) (by omega)
    simp only [List.cons_append, List.nil_append]
    rw [decodeFrom_lead (not_lt_of_le (by omega) (by omega)) hlead,
      decodeFrom_more hmore haccepts, extend_byte (by omega), hbits,
      decodeFrom_more rfl (accepts_tail (by omega)), extend_byte (by omega),
      decodeFrom_last rfl (accepts_tail (by omega)), extend_byte (by omega)]
    exact hc _ (by dsimp only; omega)

theorem decode_encode (text : List Char) : decode (encode text) = text.map some := by
  induction text with
  | nil => rfl
  | cons c rest ih =>
    rw [decode, encode, List.flatMap_cons, decodeFrom_encodeChar, List.map_cons]
    exact congrArg _ ih

/-- The bytes of a text are read as that text. -/
@[simp] theorem lossy_encode (text : List Char) : lossy (encode text) = text := by
  rw [lossy, decode_encode, List.map_map]
  exact List.map_id text

@[simp] theorem strict?_encode (text : List Char) : strict? (encode text) = some text := by
  rw [strict?, decode_encode]
  induction text with
  | nil => rfl
  | cons c rest ih => simp [List.mapM_cons, ih]

end Utf8

namespace Utf16

theorem units_bytesOf {unit : Nat} (h : unit < 0x10000) (rest : List UInt8) :
    units (bytesOf unit ++ rest) = unit :: units rest := by
  have hlow : (UInt8.ofNat (unit % 0x100)).toNat = unit % 0x100 := by
    rw [UInt8.toNat_ofNat']
    omega
  have hhigh : (UInt8.ofNat (unit / 0x100)).toNat = unit / 0x100 := by
    rw [UInt8.toNat_ofNat']
    omega
  simp only [bytesOf, List.cons_append, List.nil_append, units, hlow, hhigh]
  congr 1
  omega

/-- The bytes of units are read as those units. -/
theorem units_flatMap_bytesOf {text : List Nat} (h : ∀ unit ∈ text, unit < 0x10000) :
    units (text.flatMap bytesOf) = text := by
  induction text with
  | nil => rfl
  | cons unit rest ih =>
    rw [List.flatMap_cons, units_bytesOf (h unit (List.mem_cons_self ..)),
      ih fun u hu => h u (List.mem_cons_of_mem _ hu)]

theorem lt_of_mem_unitsOf {c : Char} {unit : Nat} (h : unit ∈ unitsOf c) : unit < 0x10000 := by
  have hrange : c.toNat < 0xD800 ∨ 0xDFFF < c.toNat ∧ c.toNat < 0x110000 := c.valid
  rw [unitsOf] at h
  split at h
  · rw [List.mem_singleton.mp h]
    assumption
  · rcases List.mem_cons.mp h with rfl | h
    · omega
    · rw [List.mem_singleton.mp h]
      omega

theorem decode_cons {unit : Nat} {rest : List Nat} (hhigh : isHighSurrogate unit = false)
    (hlow : isLowSurrogate unit = false) :
    decode (unit :: rest) = Char.ofNat unit :: decode rest := by
  cases rest with
  | nil => simp [decode, hhigh, hlow]
  | cons next rest => simp [decode, hhigh, hlow]

/-- The units of a character are read as that character. -/
theorem decode_unitsOf (c : Char) (rest : List Nat) :
    decode (unitsOf c ++ rest) = c :: decode rest := by
  have hrange : c.toNat < 0xD800 ∨ 0xDFFF < c.toNat ∧ c.toNat < 0x110000 := c.valid
  have hc : ∀ n, n = c.toNat → Char.ofNat n :: decode rest = c :: decode rest := by
    rintro _ rfl
    rw [Char.ofNat_toNat]
  rw [unitsOf]
  generalize c.toNat = n at hrange hc
  -- A unit of its own is no half of a pair, since no character has the number of one.
  split
  · rw [List.singleton_append, decode_cons]
    · exact hc _ rfl
    · rw [isHighSurrogate]
      grind
    · rw [isLowSurrogate]
      grind
  · have hhigh : isHighSurrogate (0xD7C0 + n / 0x400) = true := by
      rw [isHighSurrogate, Bool.and_eq_true, decide_eq_true_eq, decide_eq_true_eq]
      omega
    have hlow : isLowSurrogate (0xDC00 + n % 0x400) = true := by
      rw [isLowSurrogate, Bool.and_eq_true, decide_eq_true_eq, decide_eq_true_eq]
      omega
    rw [List.cons_append, List.singleton_append, decode, if_pos hhigh, if_pos hlow, pair]
    exact hc _ (by omega)

theorem decode_flatMap_unitsOf (text : List Char) : decode (text.flatMap unitsOf) = text := by
  induction text with
  | nil => rfl
  | cons c rest ih => rw [List.flatMap_cons, decode_unitsOf, ih]

/-- The little-endian bytes of a text are read as that text. -/
@[simp] theorem lossy_encode (text : List Char) : lossy (encode text) = text := by
  have h : ∀ unit ∈ text.flatMap unitsOf, unit < 0x10000 := fun unit hunit => by
    obtain ⟨c, _, hc⟩ := List.mem_flatMap.mp hunit
    exact lt_of_mem_unitsOf hc
  rw [lossy, encode, units_flatMap_bytesOf h, decode_flatMap_unitsOf]

end Utf16

end Treble.Text
