import Treble.Text.Encoding
import Treble.Xml.Fault

/-!
# References

In texts and attribute values an ampersand begins a reference, which ends at the next semicolon:
one of five named entities, or the number of a character in decimal or hexadecimal.

## Main definitions

* `Xml.characterOf` — the character of a number
* `Xml.entityValue` — what the named entities stand for
* `Xml.resolve` — a text with its references replaced
-/

namespace Treble.Xml

open Text

/-- The value of a digit in a base up to sixteen. -/
def digitValue? (base : Nat) (c : Char) : Option Nat :=
  let value :=
    if c.isDigit then some (c.toNat - '0'.toNat)
    else if 'a' ≤ c ∧ c ≤ 'f' then some (c.toNat - 'a'.toNat + 10)
    else if 'A' ≤ c ∧ c ≤ 'F' then some (c.toNat - 'A'.toNat + 10)
    else none
  value.filter (· < base)

/-- One digit more. A character that is no digit is noticed before the number grows too large for
32 bits. -/
def pushDigit (base : Nat) (number : Nat) (c : Char) : Except CharacterFault Nat :=
  match digitValue? base c with
  | none => .error .digit
  | some digit =>
    let next := number * base + digit
    if next < UInt32.size then .ok next else .error .tooLarge

/-- The number that digits spell. -/
def numberOf (base : Nat) : List Char → Except CharacterFault Nat
  | [] => .error .empty
  | '+' :: _ => .error .sign
  | '-' :: _ => .error .sign
  | text => text.foldlM (pushDigit base) 0

/-- The character of a number, which must be a scalar value other than zero. -/
def characterOfCode (code : Nat) : Except CharacterFault Char :=
  if code = 0 then .error .zero
  else if code.isValidChar then .ok (Char.ofNat code)
  else .error (.noScalar code)

/-- The character of a number in decimal, or in hexadecimal behind a small x. -/
def characterOf (text : List Char) : Except CharacterFault Char :=
  (match text with
    | 'x' :: rest => numberOf 16 rest
    | text => numberOf 10 text).bind characterOfCode

/-- What the named entities stand for. -/
def entityValue (name : List Char) : Option Char :=
  match String.ofList name with
  | "lt" => some '<'
  | "gt" => some '>'
  | "amp" => some '&'
  | "apos" => some '\''
  | "quot" => some '"'
  | _ => none

/-- The character for what stands between an ampersand, which ends at a position, and a
semicolon. -/
def referenced (position : Nat) (name : List Char) : Except ReferenceFault Char :=
  match name with
  | '#' :: number => (characterOf number).mapError .character
  | name =>
    match entityValue name with
    | some c => .ok c
    | none => .error (.unknown position (position + Utf8.size name) (String.ofList name))

/-- The characters that end the name of a reference. -/
def endsReference (c : Char) : Bool := c == '&' || c == ';'

/-- The rest of a text of some size with its references replaced. -/
def resolveRest (size : Nat) : List Char → Except ReferenceFault (List Char)
  | [] => .ok []
  | c :: rest =>
    if c = '&' then
      match _h : rest.dropWhile fun c => !endsReference c with
      | ';' :: after =>
        (referenced (size - Utf8.size rest) (rest.takeWhile fun c => !endsReference c)).bind
          fun c => (resolveRest size after).map (c :: ·)
      | _ => .error (.unterminated (size - Utf8.size (c :: rest)) size)
    else (resolveRest size rest).map (c :: ·)
termination_by text => text.length
decreasing_by
  · have hle := (List.dropWhile_sublist (l := rest) fun c => !endsReference c).length_le
    rw [_h] at hle
    simp only [List.length_cons] at hle ⊢
    omega
  · simp

/-- A text with its references replaced. -/
def resolve (text : List Char) : Except ReferenceFault (List Char) :=
  resolveRest (Utf8.size text) text

end Treble.Xml
