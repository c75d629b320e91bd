/-!
# Encodings

A text is decoded from bytes as UTF-8 or as little-endian UTF-16. Bytes that are no text do not
stop the decoding: each piece of them becomes one gap, and a gap is either shown as the
replacement character or refused.

In UTF-8 a piece is the longest run of bytes that begins a character and cannot be continued, or a
single byte that begins none. In UTF-16 it is a surrogate without its other half.

## Main definitions

* `Utf8.decode` — the characters and gaps of a byte sequence
* `Utf8.lossy` — the text with a replacement character for each gap
* `Utf8.strict?` — the text, if there is no gap
* `Utf8.size` — the number of bytes of a text
* `Utf16.lossy` — the text of a sequence of little-endian units
* `Utf8.encode`, `Utf16.encode` — the bytes of a text
-/

namespace Treble.Text

/-- What stands for a piece that is no text. -/
def replacement : Char := '\uFFFD'

namespace Utf8

/-- A character that has begun: how many bytes are still to come, between which bounds the next
one lies, and the bits read so far. -/
structure Pending where
  /-- Bytes still to come after the next one. -/
  more : Nat
  low : UInt8
  high : UInt8
  bits : Nat
deriving DecidableEq, Repr

/-- What a first byte from 0x80 on begins. The bounds on the second byte keep out overlong forms,
surrogates and values above U+10FFFF. -/
def Pending.ofLead? (b : UInt8) : Option Pending :=
  if b < 0xC2 then none
  else if b < 0xE0 then some ⟨0, 0x80, 0xBF, b.toNat % 0x20⟩
  else if b = 0xE0 then some ⟨1, 0xA0, 0xBF, 0⟩
  else if b = 0xED then some ⟨1, 0x80, 0x9F, 0xD⟩
  else if b < 0xF0 then some ⟨1, 0x80, 0xBF, b.toNat % 0x10⟩
  else if b = 0xF0 then some ⟨2, 0x90, 0xBF, 0⟩
  else if b < 0xF4 then some ⟨2, 0x80, 0xBF, b.toNat % 8⟩
  else if b = 0xF4 then some ⟨2, 0x80, 0x8F, 4⟩
  else none

/-- Whether a byte may come next. -/
def Pending.accepts (p : Pending) (b : UInt8) : Bool := p.low ≤ b && b ≤ p.high

/-- The bits with the lower six of a further byte. -/
def Pending.extend (p : Pending) (b : UInt8) : Nat := p.bits * 0x40 + b.toNat % 0x40

/-- The characters and gaps of the bytes that follow a character that has begun, if one has. -/
def decodeFrom : Option Pending → List UInt8 → List (Option Char)
  | none, [] => []
  | some _, [] => [none]
  | none, b :: rest =>
    if b < 0x80 then some (Char.ofNat b.toNat) :: decodeFrom none rest
    else
      match Pending.ofLead? b with
      | some p => decodeFrom (some p) rest
      | none => none :: decodeFrom none rest
  | some p, b :: rest =>
    if p.accepts b then
      match p.more with
      | 0 => some (Char.ofNat (p.extend b)) :: decodeFrom none rest
      | more + 1 => decodeFrom (some ⟨more, 0x80, 0xBF, p.extend b⟩) rest
    -- The character breaks off here, and the byte is read as the first one of what follows.
    else if b < 0x80 then none :: some (Char.ofNat b.toNat) :: decodeFrom none rest
    else
      match Pending.ofLead? b with
      | some q => none :: decodeFrom (some q) rest
      | none => none :: none :: decodeFrom none rest

/-- The characters and gaps of a byte sequence. -/
def decode (bytes : List UInt8) : List (Option Char) := decodeFrom none bytes

/-- The text of a byte sequence, with a replacement character for each gap. -/
def lossy (bytes : List UInt8) : List Char := (decode bytes).map fun c => c.getD replacement

/-- The text of a byte sequence that is one. -/
def strict? (bytes : List UInt8) : Option (List Char) := (decode bytes).mapM id

/-- The bytes of a character: its bits in pieces of six, the first byte telling how many. -/
def encodeChar (c : Char) : List UInt8 :=
  let n := c.toNat
  if n < 0x80 then [.ofNat n]
  else if n < 0x800 then [.ofNat (0xC0 + n / 0x40), .ofNat (0x80 + n % 0x40)]
  else if n < 0x10000 then
    [.ofNat (0xE0 + n / 0x1000), .ofNat (0x80 + n / 0x40 % 0x40), .ofNat (0x80 + n % 0x40)]
  else
    [.ofNat (0xF0 + n / 0x40000), .ofNat (0x80 + n / 0x1000 % 0x40),
      .ofNat (0x80 + n / 0x40 % 0x40), .ofNat (0x80 + n % 0x40)]

/-- The bytes of a text. -/
def encode (text : List Char) : List UInt8 := text.flatMap encodeChar

/-- The number of bytes of a text. -/
def size : List Char → Nat
  | [] => 0
  | c :: rest => c.utf8Size + size rest

@[simp] theorem size_nil : size [] = 0 := rfl

@[simp] theorem size_cons (c : Char) (text : List Char) :
    size (c :: text) = c.utf8Size + size text := rfl

@[simp] theorem size_append (left right : List Char) :
    size (left ++ right) = size left + size right := by
  induction left with
  | nil => simp
  | cons c rest ih => simp [ih, Nat.add_assoc]

end Utf8

namespace Utf16

/-- The units of a little-endian byte sequence. A byte without a partner is dropped. -/
def units : List UInt8 → List Nat
  | low :: high :: rest => (high.toNat * 256 + low.toNat) :: units rest
  | _ => []

/-- The first half of a pair. -/
def isHighSurrogate (unit : Nat) : Bool := 0xD800 ≤ unit && unit < 0xDC00

/-- The second half of a pair. -/
def isLowSurrogate (unit : Nat) : Bool := 0xDC00 ≤ unit && unit < 0xE000

/-- The character that two halves make. Each half has ten bits of it. -/
def pair (high low : Nat) : Char :=
  Char.ofNat (0x10000 + high % 0x400 * 0x400 + low % 0x400)

/-- The text of a sequence of units, with a replacement character for each half without a
partner. -/
def decode : List Nat → List Char
  | [] => []
  | [unit] =>
    if isHighSurrogate unit || isLowSurrogate unit then [replacement] else [Char.ofNat unit]
  | unit :: next :: rest =>
    if isHighSurrogate unit then
      if isLowSurrogate next then pair unit next :: decode rest
      else replacement :: decode (next :: rest)
    else if isLowSurrogate unit then replacement :: decode (next :: rest)
    else Char.ofNat unit :: decode (next :: rest)

/-- The units of a character: one, or a pair. The first half holds the upper bits less those of
the first code point that needs two. -/
def unitsOf (c : Char) : List Nat :=
  if c.toNat < 0x10000 then [c.toNat]
  else [0xD7C0 + c.toNat / 0x400, 0xDC00 + c.toNat % 0x400]

/-- The bytes of a unit, the lower half first. -/
def bytesOf (unit : Nat) : List UInt8 := [.ofNat (unit % 0x100), .ofNat (unit / 0x100)]

/-- The little-endian bytes of a text. -/
def encode (text : List Char) : List UInt8 := (text.flatMap unitsOf).flatMap bytesOf

/-- The text of little-endian bytes. -/
def lossy (bytes : List UInt8) : List Char := decode (units bytes)

end Utf16

end Treble.Text
