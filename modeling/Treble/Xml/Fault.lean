import Treble.Text.Decimal

/-!
# Faults of XML documents

Why a document, or a part of it, cannot be read. Positions are counted in bytes: those of a
reference from the start of the text or attribute value it stands in, those of an attribute from
the start of its tag.

## Main definitions

* `Xml.CharacterFault` — a reference to a character is no number of one
* `Xml.ReferenceFault` — a reference stands for nothing
* `Xml.AttributeFault` — an attribute breaks off or lacks a part
* `Xml.Fault` — all faults
* `Xml.Fault.message` — a fault in words
-/

namespace Treble.Xml

open Text

/-- Why the number in a character reference stands for no character. -/
inductive CharacterFault where
  | sign
  | empty
  | digit
  | tooLarge
  | zero
  /-- The number is that of a surrogate or lies beyond the last code point. -/
  | noScalar (code : Nat)
deriving DecidableEq, Repr

/-- Why a reference stands for nothing. -/
inductive ReferenceFault where
  /-- There is no semicolon before the next ampersand or the end. -/
  | unterminated (start stop : Nat)
  /-- There is no entity of this name. -/
  | unknown (start stop : Nat) (name : String)
  | character (fault : CharacterFault)
deriving DecidableEq, Repr

/-- What an attribute lacks. -/
inductive AttributeFault where
  | equals (position : Nat)
  | value (position : Nat)
  | openingQuote (position : Nat)
  | closingQuote (position : Nat) (quote : Char)
deriving DecidableEq, Repr

/-- Why a document cannot be read on. -/
inductive Fault where
  /-- What begins like a declaration is none. -/
  | unknownMarkup
  | instructionOpen
  | commentOpen
  | doctypeOpen
  | cdataOpen
  | tagOpen
  | doctypeWithoutName
  /-- An end tag meets no open element. -/
  | closesNothing (found : String)
  /-- An end tag meets an open element of another name. -/
  | closesOther (expected found : String)
  | reference (fault : ReferenceFault)
  | attribute (fault : AttributeFault)
deriving DecidableEq, Repr

/-- A fault of a character number in words. -/
def CharacterFault.message : CharacterFault → String
  | .sign => "unexpected number sign"
  | .empty => "cannot parse integer from empty string"
  | .digit => "invalid digit found in string"
  | .tooLarge => "number too large to fit in target type"
  | .zero => "0x0 character is not permitted in XML"
  | .noScalar code => "`" ++ Decimal.text code ++ "` is not a valid codepoint"

/-- A range of bytes. -/
def rangeText (start stop : Nat) : String := Decimal.text start ++ ".." ++ Decimal.text stop

/-- A fault of a reference in words. -/
def ReferenceFault.message : ReferenceFault → String
  | .unterminated start stop =>
    "Error while escaping character at range " ++ rangeText start stop ++
      ": Cannot find ';' after '&'"
  | .unknown start stop name =>
    "at " ++ rangeText start stop ++ ": unrecognized entity `" ++ name ++ "`"
  | .character fault => "invalid character reference: " ++ fault.message

/-- What an attribute lacks, in words. -/
def AttributeFault.message : AttributeFault → String
  | .equals position =>
    "position " ++ Decimal.text position ++
      ": attribute key must be directly followed by `=` or space"
  | .value position =>
    "position " ++ Decimal.text position ++ ": `=` must be followed by an attribute value"
  | .openingQuote position =>
    "position " ++ Decimal.text position ++ ": attribute value must be enclosed in `\"` or `'`"
  | .closingQuote position quote =>
    "position " ++ Decimal.text position ++ ": missing closing quote `" ++
      String.singleton quote ++ "` in attribute value"

/-- A fault in words. -/
def Fault.message : Fault → String
  | .unknownMarkup => "syntax error: unknown or missed symbol in markup"
  | .instructionOpen =>
    "syntax error: processing instruction or xml declaration not closed: " ++
      "`?>` not found before end of input"
  | .commentOpen => "syntax error: comment not closed: `-->` not found before end of input"
  | .doctypeOpen => "syntax error: DOCTYPE not closed: `>` not found before end of input"
  | .cdataOpen => "syntax error: CDATA not closed: `]]>` not found before end of input"
  | .tagOpen => "syntax error: tag not closed: `>` not found before end of input"
  | .doctypeWithoutName =>
    "ill-formed document: `<!DOCTYPE>` declaration does not contain a name of a document type"
  | .closesNothing found =>
    "ill-formed document: close tag `</" ++ found ++ ">` does not match any open tag"
  | .closesOther expected found =>
    "ill-formed document: expected `</" ++ expected ++ ">`, but `</" ++ found ++ ">` was found"
  | .reference fault => fault.message
  | .attribute fault => "error while parsing attribute: " ++ fault.message

end Treble.Xml
