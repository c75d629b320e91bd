import Treble.FileSystem
import Treble.Vintf.Error

/-!
# VINTF documents

Manifests and matrices are text files in UTF-8, with or without a byte order mark, or in
little-endian UTF-16 with one. Bytes that are no text read as replacement characters.

## Main definitions

* `Vintf.decode` — the text of the bytes of a document
* `Vintf.readDocument` — the text of the document at a path
-/

namespace Treble.Vintf

open Text

/-- The text of the bytes of a document. The mark in front of them tells the encoding. -/
def decode : List UInt8 → String
  | 0xFF :: 0xFE :: units => String.ofList (Utf16.lossy units)
  | 0xEF :: 0xBB :: 0xBF :: bytes => String.ofList (Utf8.lossy bytes)
  | bytes => String.ofList (Utf8.lossy bytes)

/-- What to do about a document that cannot be read. -/
def readHint : String := "Check if the file exists and you have read permissions."

/-- The text of the document at a path. -/
def readDocument (files : FileSystem) (path : String) : Except Error String :=
  match files.read path with
  | .ok bytes => .ok (decode bytes)
  | .error cause => .error ((Error.read path cause.message none).withHint readHint)

end Treble.Vintf
