import Treble.Xml.Attribute
import Treble.Xml.Reference
import Treble.Xml.Token

/-!
# Events of XML documents

Reading a document gives a sequence of events: elements begin and end, and texts stand in them. An
end tag must name the element that was opened last. Elements that are still open where a document
ends are no fault.

## Main definitions

* `Xml.Tag` — the name of an element and the text of its attributes
* `Xml.Event` — what a reader of a document is told
* `Xml.Reading` — the events of a document up to its end or to the first fault
* `Xml.Reading.ofText` — the reading of a text in which some elements are open
* `Xml.read` — the reading of a text
-/

namespace Treble.Xml

open Text

/-- A start tag: the name of the element, and the attributes as they are written. -/
structure Tag where
  name : String
  /-- What follows the name. -/
  attributes : List Char
deriving DecidableEq

namespace Tag

/-- The tag of some content. The name ends at the first blank and may be empty. -/
def ofContent (content : List Char) : Tag :=
  { name := String.ofList (content.takeWhile fun c => !isMarkupBlank c)
    attributes := content.dropWhile fun c => !isMarkupBlank c }

/-- The value of the first attribute of a name, with its references replaced. -/
def attribute? (tag : Tag) (name : String) : Except Fault (Option String) :=
  let size := Utf8.size tag.name.toList + Utf8.size tag.attributes
  match Attribute.find? size name.toList tag.attributes with
  | .error fault => .error (.attribute fault)
  | .ok none => .ok none
  | .ok (some value) =>
    match resolve value with
    | .error fault => .error (.reference fault)
    | .ok value => .ok (some (String.ofList value))

end Tag

/-- What a reader of a document is told. -/
inductive Event where
  /-- An element begins. -/
  | opening (tag : Tag)
  /-- An element begins and ends. -/
  | empty (tag : Tag)
  /-- The element that was opened last ends. -/
  | closing (name : String)
  /-- A text stands in the element that was opened last. -/
  | text (content : String)
deriving DecidableEq

/-- The name in an end tag: its content without the blanks at the end, unless it is all blank. -/
def closingName (content : List Char) : String :=
  String.ofList (if content.all isMarkupBlank then content else stripEnd isMarkupBlank content)

/-- The events of a document, and the fault behind the last of them if there is one. -/
structure Reading where
  events : List Event
  fault : Option Fault
deriving DecidableEq

namespace Reading

/-- One event in front. -/
def push (event : Event) (following : Reading) : Reading :=
  { following with events := event :: following.events }

/-- The events of tokens, given the names of the open elements, the innermost first. -/
def ofTokens (fault : Option Fault) : List String → List Token → Reading
  | _, [] => ⟨[], fault⟩
  | opened, .aside :: rest => ofTokens fault opened rest
  | opened, .cdata content :: rest =>
    push (.text (String.ofList content)) (ofTokens fault opened rest)
  | opened, .text content :: rest =>
    match resolve content with
    | .error fault => ⟨[], some (.reference fault)⟩
    | .ok content => push (.text (String.ofList content)) (ofTokens fault opened rest)
  | opened, .opening content :: rest =>
    let tag := Tag.ofContent content
    push (.opening tag) (ofTokens fault (tag.name :: opened) rest)
  | opened, .empty content :: rest =>
    push (.empty (Tag.ofContent content)) (ofTokens fault opened rest)
  | opened, .closing content :: rest =>
    let found := closingName content
    match opened with
    | [] => ⟨[], some (.closesNothing found)⟩
    | expected :: opened =>
      if found = expected then push (.closing found) (ofTokens fault opened rest)
      else ⟨[], some (.closesOther expected found)⟩

/-- The reading of a text, given the names of the open elements. -/
def ofText (opened : List String) (text : List Char) : Reading :=
  let tokens := Tokens.ofText text
  ofTokens tokens.fault opened tokens.tokens

end Reading

/-- The mark that may stand in front of a document. -/
def byteOrderMark : Char := '\uFEFF'

/-- A document without the mark in front. -/
def dropMark : List Char → List Char
  | [] => []
  | c :: rest => if c = byteOrderMark then rest else c :: rest

/-- The reading of a document. -/
def read (document : String) : Reading := Reading.ofText [] (dropMark document.toList)

end Treble.Xml
