import Treble.Proofs.Vintf.Agreement
import Treble.Text.Encoding.RoundTrip

/-!
# Documents in several encodings

A document may be written in UTF-8, with or without a byte order mark, or in little-endian UTF-16 with
one. It is the same document: no text in UTF-8 begins with the mark of the other encoding, and it only
begins with its own mark if the text itself does.

## Main definitions

* `Vintf.BeginsWithMark` — the texts that are taken for others
* `Vintf.IsEncoding` — the three ways to write a document
* `Vintf.Spells`, `Vintf.Reencoded` — files with a document, written in one way or in two

## Main results

* `Vintf.IsEncoding.decode_eq` — a document is decoded to what was written
* `Vintf.Spells.readDocument_eq` — and read as that
* `Vintf.DeviceRoot.agreeOn_of_reencoded` — file systems with the same documents agree
-/

namespace Treble

namespace Text.Utf8

/-- A first byte that begins no character is no text. -/
theorem encode_ne_cons {byte : UInt8} (high : ¬ byte < 0x80) (noLead : Pending.ofLead? byte = none)
    (text : List Char) (rest : List UInt8) : encode text ≠ byte :: rest := by
  intro h
  have hdecode := decode_encode text
  rw [h, decode, decodeFrom, if_neg high, noLead] at hdecode
  cases text <;> cases hdecode

/-- The mark is the spelling of a character. -/
theorem head?_of_encode_eq {text : List Char} {rest : List UInt8}
    (h : encode text = 0xEF :: 0xBB :: 0xBF :: rest) : text.head? = some '\uFEFF' := by
  have hdecode := decode_encode text
  have hmark : decode (0xEF :: 0xBB :: 0xBF :: rest) = some '\uFEFF' :: decodeFrom none rest := rfl
  rw [h, hmark] at hdecode
  cases text with
  | nil => cases hdecode
  | cons c text => rw [List.head?_cons, ← (List.cons.inj hdecode).1]

end Text.Utf8

namespace Vintf

open Text
open FileSystem (AgreeAt SameReasonAt)

/-- A text that begins with a byte order mark. In UTF-8 it could not be told from the mark and the
rest of the text. -/
def BeginsWithMark (document : String) : Prop := document.toList.head? = some '\uFEFF'

instance (document : String) : Decidable (BeginsWithMark document) :=
  inferInstanceAs (Decidable (_ = _))

/-- The ways to write a document. -/
inductive IsEncoding (document : String) : List UInt8 → Prop
  /-- In UTF-8. -/
  | plain : IsEncoding document (Utf8.encode document.toList)
  /-- In UTF-8, with a mark. -/
  | marked : IsEncoding document (0xEF :: 0xBB :: 0xBF :: Utf8.encode document.toList)
  /-- In little-endian UTF-16, with a mark. -/
  | wide : IsEncoding document (0xFF :: 0xFE :: Utf16.encode document.toList)

variable {document : String} {bytes : List UInt8}

/-- A text in UTF-8 without a mark is not taken for one with a mark. -/
theorem decode_encode (unmarked : ¬ BeginsWithMark document) :
    decode (Utf8.encode document.toList) = document := by
  have hlossy : String.ofList (Utf8.lossy (Utf8.encode document.toList)) = document := by
    rw [Utf8.lossy_encode, String.ofList_toList]
  unfold decode
  split
  · next h => exact absurd h (Utf8.encode_ne_cons (by decide) rfl _ _)
  · next h => exact absurd (Utf8.head?_of_encode_eq h) unmarked
  · exact hlossy

/-- However a document is written, it is decoded to what was written. -/
theorem IsEncoding.decode_eq (encoding : IsEncoding document bytes)
    (unmarked : ¬ BeginsWithMark document) : decode bytes = document := by
  cases encoding with
  | plain => exact decode_encode unmarked
  | marked => rw [decode, Utf8.lossy_encode, String.ofList_toList]
  | wide => rw [decode, Utf16.lossy_encode, String.ofList_toList]

/-- At a path stands a file with some document in one of the encodings. -/
def Spells (files : FileSystem) (path document : String) : Prop :=
  ∃ bytes, IsEncoding document bytes ∧ files path = .ok (.file (.ok bytes))

/-- At a path stands the same document in both file systems. -/
def Reencoded (files other : FileSystem) (path : String) : Prop :=
  ∃ document, ¬ BeginsWithMark document ∧ Spells files path document ∧ Spells other path document

section Files

variable {files other : FileSystem} {path : String}

theorem Spells.read_eq (spells : Spells files path document) (unmarked : ¬ BeginsWithMark document) :
    (files.read path).map decode = .ok document := by
  obtain ⟨bytes, encoding, hfile⟩ := spells
  rw [FileSystem.read, hfile]
  exact congrArg Except.ok (encoding.decode_eq unmarked)

/-- A file with a document in one of the encodings is read as that document. -/
theorem Spells.readDocument_eq (spells : Spells files path document)
    (unmarked : ¬ BeginsWithMark document) : readDocument files path = .ok document := by
  rw [readDocument_eq_map, spells.read_eq unmarked]
  rfl

theorem Reencoded.readDocument_eq (reencoded : Reencoded files other path) :
    readDocument other path = readDocument files path := by
  obtain ⟨document, unmarked, spells, spellsOther⟩ := reencoded
  rw [spells.readDocument_eq unmarked, spellsOther.readDocument_eq unmarked]

theorem Reencoded.agreeAt (reencoded : Reencoded files other path) :
    AgreeAt decode files other path := by
  obtain ⟨document, unmarked, spells, spellsOther⟩ := reencoded
  have hread := (spellsOther.read_eq unmarked).trans (spells.read_eq unmarked).symm
  obtain ⟨bytes, _, hfile⟩ := spells
  obtain ⟨bytes', _, hother⟩ := spellsOther
  refine ⟨?_, ?_, ?_, fun _ => hread⟩
  · rw [FileSystem.leadsTo, FileSystem.leadsTo, hfile, hother]
    rfl
  · rw [FileSystem.isFile, FileSystem.isFile, hfile, hother]
    rfl
  · rw [FileSystem.opens, FileSystem.opens, hfile, hother]
    rfl

/-- What is written in two ways opens in both. -/
theorem Reencoded.opens (reencoded : Reencoded files other path) : files.opens path = true := by
  obtain ⟨_, _, ⟨bytes, _, hfile⟩, _⟩ := reencoded
  simp only [FileSystem.opens, hfile]
  rfl

theorem Reencoded.sameReasonAt (reencoded : Reencoded files other path) :
    SameReasonAt files other path := by
  intro _ closed
  rw [reencoded.opens] at closed
  cases closed

/-- There are no names below a file. -/
theorem Reencoded.names_eq (reencoded : Reencoded files other path) :
    other.names path = files.names path := by
  obtain ⟨_, _, ⟨_, _, hfile⟩, ⟨_, _, hother⟩⟩ := reencoded
  simp only [FileSystem.names, hfile, hother]

end Files

/-- A file system with the same documents as that of a device, and else the same files, agrees with it on
all that is looked up. -/
theorem DeviceRoot.agreeOn_of_reencoded {device : DeviceRoot} {files : FileSystem}
    {vendorSku hardwareSku : Option String}
    (h : ∀ path, files path = device.files path ∨
      device.IsDocument vendorSku hardwareSku path ∧ Reencoded device.files files path) :
    device.AgreeOn files vendorSku hardwareSku := by
  apply AgreeOn.of_documents
  · intro path _
    rcases h path with same | ⟨_, reencoded⟩
    · exact ⟨.of_eq same, .of_eq same⟩
    · exact ⟨reencoded.agreeAt, reencoded.sameReasonAt⟩
  · intro place _
    rcases h (device.locate place) with same | ⟨_, reencoded⟩
    · exact FileSystem.names_of_eq same
    · exact reencoded.names_eq
  · intro name
    exact (h _).resolve_right fun reencoded => reencoded.1.ne_join_policyDirectory name rfl

end Vintf

end Treble
