import Mathlib.Algebra.Group.Nat.Defs
import Mathlib.Data.List.Basic
import Mathlib.Tactic.SplitIfs
import Treble.Text.Encoding.RoundTrip

/-!
# ASCII in broken text

Bytes that are no text cannot hide a byte below 0x80: it ends whatever character has begun in front of
it, and is read as its own character. Nor can they imitate one, since all that longer sequences spell
lies above. So decoding can be cut at such a byte.

## Main definitions

* `Utf8.Pending.Sound` — what has begun can only become a character from U+0080 on

## Main results

* `Utf8.lossy_append_cons` — an ASCII byte is read apart from what stands around it
* `Utf8.exists_of_lossy_eq` — an ASCII character comes from its byte
* `Utf8.lossy_append`, `Utf8.lossy_append_of_head?` — when bytes are read apart from what is next to
  them
* `Utf8.exists_of_lossy_eq_append` — when the bytes can be cut where their text is
-/

namespace Treble.Text.Utf8

/-- What has begun can only become a character from U+0080 on: the next byte is none of ASCII, and all
numbers that the bytes to come can make are those of such characters. -/
structure Pending.Sound (p : Pending) : Prop where
  low : 0x80 ≤ p.low.toNat
  high : p.high.toNat ≤ 0xBF
  number : ∀ n, (p.bits * 0x40 + p.low.toNat % 0x40) * 0x40 ^ p.more ≤ n →
    n < (p.bits * 0x40 + p.high.toNat % 0x40 + 1) * 0x40 ^ p.more → 0x80 ≤ n ∧ n.isValidChar

namespace Pending.Sound

variable {p : Pending} {b : UInt8}

/-- What a first byte begins. -/
theorem of_ofLead? (h : ofLead? b = some p) : p.Sound := by
  have hb := b.toNat_lt
  simp only [ofLead?, UInt8.lt_iff_toNat_lt, ← UInt8.toNat_inj] at h
  -- One case for each row of the table of first bytes.
  split_ifs at h
  all_goals
    obtain rfl := Option.some.inj h
    refine ⟨by simp, by simp, fun n hleast hgreatest => ?_⟩
    simp only [UInt8.reduceToNat, Nat.isValidChar] at *
    omega

/-- The bits of a byte that may come next lie between those of the bounds. -/
theorem le_extend (sound : p.Sound) (accepts : p.accepts b = true) :
    p.bits * 0x40 + p.low.toNat % 0x40 ≤ p.extend b ∧
      p.extend b ≤ p.bits * 0x40 + p.high.toNat % 0x40 := by
  have hlow := sound.low
  have hhigh := sound.high
  rw [Pending.accepts, Bool.and_eq_true, decide_eq_true_eq, decide_eq_true_eq,
    UInt8.le_iff_toNat_le, UInt8.le_iff_toNat_le] at accepts
  rw [Pending.extend]
  omega

/-- The last byte makes a character from U+0080 on. -/
theorem le_toNat_extend (sound : p.Sound) (accepts : p.accepts b = true) (last : p.more = 0) :
    0x80 ≤ (Char.ofNat (p.extend b)).toNat := by
  obtain ⟨hleast, hgreatest⟩ := sound.le_extend accepts
  have hnumber := sound.number (p.extend b)
  rw [last, Nat.pow_zero, Nat.mul_one, Nat.mul_one] at hnumber
  obtain ⟨h, valid⟩ := hnumber hleast (Nat.lt_succ_of_le hgreatest)
  rw [Char.ofNat, dif_pos valid]
  exact h

/-- With each byte before the last one fewer numbers are left. -/
theorem extend (sound : p.Sound) (accepts : p.accepts b = true) {more : Nat}
    (hmore : p.more = more + 1) : Sound ⟨more, 0x80, 0xBF, p.extend b⟩ := by
  obtain ⟨hleast, hgreatest⟩ := sound.le_extend accepts
  have hnumber := sound.number
  rw [hmore, Nat.pow_succ'] at hnumber
  refine ⟨by simp, by simp, fun n hn hn' => hnumber n ?_ ?_⟩
  · refine Nat.le_trans ?_ hn
    rw [← Nat.mul_assoc]
    exact Nat.mul_le_mul_right _ (Nat.le_add_right_of_le (Nat.mul_le_mul_right _ hleast))
  · refine Nat.lt_of_lt_of_le hn' ?_
    rw [← Nat.mul_assoc]
    refine Nat.mul_le_mul_right _ ?_
    have hbound : (p.extend b + 1) * 0x40 ≤ (p.bits * 0x40 + p.high.toNat % 0x40 + 1) * 0x40 :=
      Nat.mul_le_mul_right _ (Nat.add_le_add_right hgreatest 1)
    simp only [UInt8.reduceToNat]
    omega

/-- A byte of ASCII does not continue what has begun. -/
theorem not_accepts (sound : p.Sound) (hb : b < 0x80) : p.accepts b = false := by
  have hlow := sound.low
  rw [UInt8.lt_iff_toNat_lt] at hb
  rw [Pending.accepts, Bool.and_eq_false_iff, decide_eq_false_iff_not, UInt8.le_iff_toNat_le]
  left
  exact Nat.not_le.mpr (Nat.lt_of_lt_of_le hb hlow)

end Pending.Sound

/-! ### Cutting at a byte -/

variable {pending : Option Pending} {b : UInt8}

theorem Pending.sound_none : ∀ p ∈ (none : Option Pending), p.Sound :=
  fun p h => absurd h (Option.not_mem_none p)

theorem Pending.sound_some {p : Pending} (sound : p.Sound) : ∀ q ∈ some p, q.Sound :=
  fun _ h => Option.some.inj h ▸ sound

/-- What has begun breaks off in front of a byte of ASCII, which is read as its character. -/
theorem decodeFrom_append_cons (sound : ∀ p ∈ pending, p.Sound) (hb : b < 0x80)
    (bytes rest : List UInt8) :
    decodeFrom pending (bytes ++ b :: rest) =
      decodeFrom pending bytes ++ some (Char.ofNat b.toNat) :: decodeFrom none rest := by
  fun_induction decodeFrom pending bytes with
  | case1 => simp [decodeFrom, hb]
  | case2 p => simp [decodeFrom, (sound p rfl).not_accepts hb, hb]
  | case3 first bytes hfirst ih => simp [decodeFrom, hfirst, ih]
  | case4 first bytes hfirst p hp ih =>
    simp [decodeFrom, hfirst, hp, ih (Pending.sound_some (.of_ofLead? hp))]
  | case5 first bytes hfirst hp ih => simp [decodeFrom, hfirst, hp, ih]
  | case6 p first bytes haccepts hmore ih => simp [decodeFrom, haccepts, hmore, ih]
  | case7 p first bytes haccepts more hmore ih =>
    simp [decodeFrom, haccepts, hmore, ih (Pending.sound_some ((sound p rfl).extend haccepts hmore))]
  | case8 p first bytes haccepts hfirst ih => simp [decodeFrom, haccepts, hfirst, ih]
  | case9 p first bytes haccepts hfirst q hq ih =>
    simp [decodeFrom, haccepts, hfirst, hq, ih (Pending.sound_some (.of_ofLead? hq))]
  | case10 p first bytes haccepts hfirst hq ih => simp [decodeFrom, haccepts, hfirst, hq, ih]

theorem decode_append_cons (hb : b < 0x80) (bytes rest : List UInt8) :
    decode (bytes ++ b :: rest) = decode bytes ++ some (Char.ofNat b.toNat) :: decode rest :=
  decodeFrom_append_cons Pending.sound_none hb bytes rest

/-- An ASCII byte is read as its character, and apart from what stands around it. -/
theorem lossy_append_cons (hb : b < 0x80) (bytes rest : List UInt8) :
    lossy (bytes ++ b :: rest) = lossy bytes ++ Char.ofNat b.toNat :: lossy rest := by
  rw [lossy, decode_append_cons hb, List.map_append]
  rfl

/-- Bytes that are not of ASCII spell no character of ASCII. -/
theorem le_of_mem_decodeFrom (sound : ∀ p ∈ pending, p.Sound) {bytes : List UInt8}
    (high : ∀ b ∈ bytes, ¬ b < 0x80) {c : Char} (h : some c ∈ decodeFrom pending bytes) :
    0x80 ≤ c.toNat := by
  fun_induction decodeFrom pending bytes with
  | case1 => simp at h
  | case2 => simp at h
  | case3 first bytes hfirst => exact absurd hfirst (high first (by simp))
  | case4 first bytes hfirst p hp ih =>
    exact ih (Pending.sound_some (.of_ofLead? hp)) (by simp_all) h
  | case5 first bytes hfirst hp ih => exact ih Pending.sound_none (by simp_all) (by simpa using h)
  | case6 p first bytes haccepts hmore ih =>
    rcases List.mem_cons.mp h with h | h
    · rw [Option.some.inj h]
      exact (sound p rfl).le_toNat_extend haccepts hmore
    · exact ih Pending.sound_none (by simp_all) h
  | case7 p first bytes haccepts more hmore ih =>
    exact ih (Pending.sound_some ((sound p rfl).extend haccepts hmore)) (by simp_all) h
  | case8 p first bytes haccepts hfirst => exact absurd hfirst (high first (by simp))
  | case9 p first bytes haccepts hfirst q hq ih =>
    exact ih (Pending.sound_some (.of_ofLead? hq)) (by simp_all) (by simpa using h)
  | case10 p first bytes haccepts hfirst hq ih =>
    exact ih Pending.sound_none (by simp_all) (by simpa using h)

/-- The byte of an ASCII character. -/
theorem ofNat_toNat_ofNat (hb : b < 0x80) : UInt8.ofNat (Char.ofNat b.toNat).toNat = b := by
  have hlt : b.toNat < 0x80 := UInt8.lt_iff_toNat_lt.mp hb
  have hvalid : b.toNat.isValidChar := .inl (Nat.lt_trans hlt (by decide))
  have hchar : (Char.ofNat b.toNat).toNat = b.toNat := by
    rw [Char.ofNat, dif_pos hvalid]
    rfl
  rw [hchar, UInt8.ofNat_toNat]

/-- An ASCII character comes from its byte, and what stands around it from the bytes around that one. -/
theorem exists_of_decode_eq {c : Char} (hc : c.toNat < 0x80) {bytes : List UInt8}
    {front back : List (Option Char)} (h : decode bytes = front ++ some c :: back) :
    ∃ before after, bytes = before ++ .ofNat c.toNat :: after ∧ decode before = front ∧
      decode after = back := by
  have hmem {start : List UInt8} (high : ∀ b ∈ start, ¬ b < 0x80) : some c ∉ decode start :=
    fun hmem => absurd hc (Nat.not_lt.mpr (le_of_mem_decodeFrom Pending.sound_none high hmem))
  -- The first byte of ASCII is read as the first character of it, which is this one or in front of it.
  cases hfind : bytes.find? fun b => decide (b < 0x80) with
  | none =>
    refine absurd ?_ (hmem fun b hb => by simpa using List.find?_eq_none.mp hfind b hb)
    simp [h]
  | some b =>
    obtain ⟨hb, start, rest, rfl, hstart⟩ := List.find?_eq_some_iff_append.mp hfind
    have hb : b < 0x80 := of_decide_eq_true hb
    rw [decode_append_cons hb] at h
    rcases List.append_eq_append_iff.mp h with ⟨between, rfl, hback⟩ | ⟨between, hfront, hback⟩
    · cases between with
      | nil =>
        obtain ⟨hchar, rfl⟩ := List.cons.inj hback
        rw [← Option.some.inj hchar, ofNat_toNat_ofNat hb]
        exact ⟨start, rest, rfl, by simp, rfl⟩
      | cons first between =>
        obtain ⟨rfl, hrest⟩ := List.cons.inj hback
        obtain ⟨before, after, rfl, rfl, hafter⟩ := exists_of_decode_eq hc hrest
        refine ⟨start ++ b :: before, after, by simp, ?_, hafter⟩
        rw [decode_append_cons hb]
    · cases between with
      | nil =>
        obtain ⟨hchar, rfl⟩ := List.cons.inj hback
        rw [Option.some.inj hchar, ofNat_toNat_ofNat hb]
        exact ⟨start, rest, rfl, by simpa using hfront, rfl⟩
      | cons first between =>
        obtain ⟨rfl, -⟩ := List.cons.inj hback
        refine absurd ?_ (hmem fun b hb => by simpa using hstart b hb)
        rw [hfront]
        simp
termination_by bytes.length

/-- An ASCII character of a text comes from its byte, and what stands around it from the bytes around
that one. -/
theorem exists_of_lossy_eq {c : Char} (hc : c.toNat < 0x80) {bytes : List UInt8}
    {front back : List Char} (h : lossy bytes = front ++ c :: back) :
    ∃ before after, bytes = before ++ .ofNat c.toNat :: after ∧ lossy before = front ∧
      lossy after = back := by
  obtain ⟨start, tail, hsplit, rfl, htail⟩ := List.map_eq_append_iff.mp h
  obtain ⟨found, rest, rfl, hfound, rfl⟩ := List.map_eq_cons_iff.mp htail
  -- What is shown for a gap is no character of ASCII.
  have hsome : found = some c := by
    cases found with
    | none => exact absurd (hfound ▸ hc) (by decide)
    | some d => exact congrArg some hfound
  obtain ⟨before, after, hbytes, rfl, rfl⟩ := exists_of_decode_eq hc (hsome ▸ hsplit)
  exact ⟨before, after, hbytes, rfl, rfl⟩

/-! ### Parts of a text -/

/-- Bytes that end with a character, and not with a gap, are read apart from what follows them. -/
theorem decodeFrom_append {bytes : List UInt8}
    (complete : none ∉ (decodeFrom pending bytes).getLast?) (rest : List UInt8) :
    decodeFrom pending (bytes ++ rest) = decodeFrom pending bytes ++ decodeFrom none rest := by
  have tail {x : Option Char} {l : List (Option Char)} (h : none ∉ (x :: l).getLast?) :
      none ∉ l.getLast? := fun hmem => h (List.mem_getLast?_cons hmem)
  fun_induction decodeFrom pending bytes with
  | case1 => rfl
  | case2 p => exact absurd rfl complete
  | case3 first bytes hfirst ih => simp [decodeFrom, hfirst, ih (tail complete)]
  | case4 first bytes hfirst p hp ih => simp [decodeFrom, hfirst, hp, ih complete]
  | case5 first bytes hfirst hp ih => simp [decodeFrom, hfirst, hp, ih (tail complete)]
  | case6 p first bytes haccepts hmore ih =>
    simp [decodeFrom, haccepts, hmore, ih (tail complete)]
  | case7 p first bytes haccepts more hmore ih => simp [decodeFrom, haccepts, hmore, ih complete]
  | case8 p first bytes haccepts hfirst ih =>
    simp [decodeFrom, haccepts, hfirst, ih (tail (tail complete))]
  | case9 p first bytes haccepts hfirst q hq ih =>
    simp [decodeFrom, haccepts, hfirst, hq, ih (tail complete)]
  | case10 p first bytes haccepts hfirst hq ih =>
    simp [decodeFrom, haccepts, hfirst, hq, ih (tail (tail complete))]

/-- Bytes whose text does not end with the replacement character are read apart from what follows
them. -/
theorem lossy_append {bytes : List UInt8} (complete : replacement ∉ (lossy bytes).getLast?)
    (rest : List UInt8) : lossy (bytes ++ rest) = lossy bytes ++ lossy rest := by
  have hcomplete : none ∉ (decode bytes).getLast? := by
    intro hmem
    apply complete
    rw [lossy, List.getLast?_map, Option.mem_def.mp hmem]
    rfl
  rw [lossy, decode, decodeFrom_append hcomplete, List.map_append]
  rfl

theorem decodeFrom_eq_nil {bytes : List UInt8} (h : decodeFrom pending bytes = []) :
    pending = none ∧ bytes = [] := by
  fun_induction decodeFrom pending bytes <;> simp_all

/-- Only no bytes at all have no text. -/
theorem eq_nil_of_lossy_eq_nil {bytes : List UInt8} (h : lossy bytes = []) : bytes = [] :=
  (decodeFrom_eq_nil (List.map_eq_nil_iff.mp h)).2

/-- An ASCII character in front of a text comes from the first byte. -/
theorem exists_of_lossy_eq_cons {c : Char} (hc : c.toNat < 0x80) {bytes : List UInt8}
    {back : List Char} (h : lossy bytes = c :: back) :
    ∃ after, bytes = .ofNat c.toNat :: after ∧ lossy after = back := by
  have hsplit : lossy bytes = [] ++ c :: back := h
  obtain ⟨before, after, rfl, hbefore, hafter⟩ := exists_of_lossy_eq hc hsplit
  obtain rfl := eq_nil_of_lossy_eq_nil hbefore
  exact ⟨after, rfl, hafter⟩

theorem encodeChar_of_lt {c : Char} (hc : c.toNat < 0x80) : encodeChar c = [.ofNat c.toNat] := by
  simp only [encodeChar, if_pos hc]

/-- The bytes of a text are read as that text in front of any others. -/
theorem lossy_encode_append (text : List Char) (rest : List UInt8) :
    lossy (encode text ++ rest) = text ++ lossy rest := by
  induction text with
  | nil => rfl
  | cons c text ih =>
    rw [encode, List.flatMap_cons, List.append_assoc, lossy, decode, decodeFrom_encodeChar]
    exact congrArg (c :: ·) ih

/-- The byte of an ASCII character is read as that character between any others. -/
theorem lossy_append_ofNat {c : Char} (hc : c.toNat < 0x80) (bytes rest : List UInt8) :
    lossy (bytes ++ .ofNat c.toNat :: rest) = lossy bytes ++ c :: lossy rest := by
  have hbyte : (UInt8.ofNat c.toNat).toNat = c.toNat := toNat_byte (Nat.lt_trans hc (by decide))
  have hlt : UInt8.ofNat c.toNat < 0x80 := by
    rw [UInt8.lt_iff_toNat_lt, hbyte]
    exact hc
  rw [lossy_append_cons hlt, hbyte, Char.ofNat_toNat]

/-- Bytes whose text begins with an ASCII character are read apart from what stands in front of them. -/
theorem lossy_append_of_head? {bytes rest : List UInt8}
    (ascii : ∀ c ∈ (lossy rest).head?, c.toNat < 0x80) :
    lossy (bytes ++ rest) = lossy bytes ++ lossy rest := by
  cases hrest : lossy rest with
  | nil => rw [eq_nil_of_lossy_eq_nil hrest, List.append_nil, List.append_nil]
  | cons c back =>
    have hc : c.toNat < 0x80 := ascii c (by rw [hrest]; rfl)
    obtain ⟨after, rfl, rfl⟩ := exists_of_lossy_eq_cons hc hrest
    exact lossy_append_ofNat hc bytes after

/-- Where an ASCII character stands on one side of a place in a text, the bytes can be cut there. -/
theorem exists_of_lossy_eq_append {bytes : List UInt8} {front back : List Char}
    (ascii : (∀ c ∈ front.getLast?, c.toNat < 0x80) ∨ ∀ c ∈ back.head?, c.toNat < 0x80)
    (h : lossy bytes = front ++ back) :
    ∃ before after, bytes = before ++ after ∧ lossy before = front ∧ lossy after = back := by
  rcases ascii with ascii | ascii
  · rcases List.eq_nil_or_concat front with rfl | ⟨start, c, rfl⟩
    · exact ⟨[], bytes, rfl, rfl, h⟩
    · rw [List.concat_eq_append] at h ascii ⊢
      have hc : c.toNat < 0x80 := ascii c (List.getLast?_concat ..)
      rw [List.append_assoc, List.singleton_append] at h
      obtain ⟨before, after, rfl, rfl, rfl⟩ := exists_of_lossy_eq hc h
      exact ⟨before ++ [.ofNat c.toNat], after, by simp, lossy_append_ofNat hc before [], rfl⟩
  · cases back with
    | nil => exact ⟨bytes, [], (List.append_nil _).symm, by rw [h, List.append_nil], rfl⟩
    | cons c back =>
      have hc : c.toNat < 0x80 := ascii c rfl
      obtain ⟨before, after, rfl, rfl, rfl⟩ := exists_of_lossy_eq hc h
      exact ⟨before, _, rfl, rfl, lossy_append_ofNat hc [] after⟩

/-- An ASCII text in front of what is read comes from its bytes. -/
theorem encode_prefix_of_prefix_lossy {text : List Char} (ascii : ∀ c ∈ text, c.toNat < 0x80)
    {bytes : List UInt8} (h : text <+: lossy bytes) : encode text <+: bytes := by
  induction text generalizing bytes with
  | nil => exact List.nil_prefix
  | cons c text ih =>
    obtain ⟨hc, htext⟩ := List.forall_mem_cons.mp ascii
    obtain ⟨back, hback⟩ := h
    obtain ⟨after, rfl, hafter⟩ := exists_of_lossy_eq_cons hc hback.symm
    rw [encode, List.flatMap_cons, encodeChar_of_lt hc, List.singleton_append,
      List.cons_prefix_cons]
    exact ⟨rfl, ih htext ⟨back, hafter.symm⟩⟩

/-- An ASCII text within what is read comes from its bytes. -/
theorem encode_infix_of_infix_lossy {text : List Char} (ascii : ∀ c ∈ text, c.toNat < 0x80)
    {bytes : List UInt8} (h : text <:+: lossy bytes) : encode text <:+: bytes := by
  cases text with
  | nil => exact List.nil_infix
  | cons c text =>
    obtain ⟨hc, htext⟩ := List.forall_mem_cons.mp ascii
    obtain ⟨front, back, hsplit⟩ := h
    rw [List.append_assoc, List.cons_append] at hsplit
    obtain ⟨before, after, rfl, -, hafter⟩ := exists_of_lossy_eq hc hsplit.symm
    obtain ⟨more, rfl⟩ := encode_prefix_of_prefix_lossy htext ⟨back, hafter.symm⟩
    refine ⟨before, more, ?_⟩
    rw [encode, List.flatMap_cons, encodeChar_of_lt hc]
    simp [encode]

end Treble.Text.Utf8
