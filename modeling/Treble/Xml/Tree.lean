import Treble.Xml.Event

/-!
# Element trees

A tree is what is left of a document when the way it is spelled is set aside: texts and elements,
in order and nested in each other. Every tree has one canonical spelling, with a start tag and an
end tag for each element, double quotes around attribute values, and the five named entities for
the characters that could be taken for markup.

The content of an element is a list of texts and elements. It is one inductive type, in which a
text and an element carry the content that follows them, so that one induction reaches every part.

## Main definitions

* `Xml.Content` — the content of an element
* `Xml.Content.spelling` — the canonical spelling
* `Xml.Content.WellFormed` — contents that can be told from their spelling
* `Xml.Content.events` — what a reader of the canonical spelling is told
* `Xml.Content.Tells` — what readers of other spellings are told

## Main results

* `Xml.Content.tells_events` — the canonical spelling tells of the content
-/

namespace Treble.Xml

open Text

/-- A sequence of texts and elements. -/
inductive Content where
  | done
  | text (content : String) (following : Content)
  | element (name : String) (attributes : List (String × String)) (children following : Content)

/-- A character in canonical spelling. -/
def escapedChar (c : Char) : List Char :=
  if c = '&' then "&amp;".toList
  else if c = '<' then "&lt;".toList
  else if c = '>' then "&gt;".toList
  else if c = '"' then "&quot;".toList
  else if c = '\'' then "&apos;".toList
  else [c]

/-- A text in canonical spelling. -/
def escaped (text : List Char) : List Char := text.flatMap escapedChar

/-- An attribute in canonical spelling, with a blank in front. -/
def attributeSpelling (entry : String × String) : List Char :=
  ' ' :: entry.1.toList ++ '=' :: '"' :: escaped entry.2.toList ++ ['"']

/-- The tag of an element with its attributes in canonical spelling. -/
def Tag.canonical (name : String) (attributes : List (String × String)) : Tag :=
  { name := name, attributes := attributes.flatMap attributeSpelling }

/-- A start tag. -/
def Tag.startSpelling (tag : Tag) : List Char := '<' :: tag.name.toList ++ tag.attributes ++ ['>']

/-- The end tag of an element. -/
def endSpelling (name : String) : List Char := '<' :: '/' :: name.toList ++ ['>']

/-- The characters that a name may hold: neither blanks nor quotes nor marks of markup. -/
def isNameChar (c : Char) : Bool :=
  !(isMarkupBlank c || c == '"' || c == '\'' || c == '/' || c == '<' || c == '>' || c == '=')

/-- The names of elements and attributes in canonical spelling. -/
def IsName (name : String) : Prop :=
  name.toList.all isNameChar = true ∧ ∃ first, name.toList.head? = some first ∧
    first ≠ '!' ∧ first ≠ '?'

theorem isName_iff {name : String} : IsName name ↔ name.toList.all isNameChar = true ∧
    (name.toList.head?.any fun first => first != '!' && first != '?') = true := by
  simp [IsName, Option.any_eq_true]

instance (name : String) : Decidable (IsName name) := decidable_of_iff' _ isName_iff

namespace Content

/-- The canonical spelling. -/
def spelling : Content → List Char
  | .done => []
  | .text content following => escaped content.toList ++ following.spelling
  | .element name attributes children following =>
    (Tag.canonical name attributes).startSpelling ++
      (children.spelling ++ (endSpelling name ++ following.spelling))

/-- Whether a text comes first. -/
def beginsWithText : Content → Bool
  | .text .. => true
  | _ => false

/-- Contents that can be told from their spelling: names are names, and no text follows a text. -/
def WellFormed : Content → Prop
  | .done => True
  | .text _ following => following.beginsWithText = false ∧ following.WellFormed
  | .element name attributes children following =>
    IsName name ∧ (∀ entry ∈ attributes, IsName entry.1) ∧ children.WellFormed ∧
      following.WellFormed

/-- Whether contents are well-formed can be told part by part. -/
def decidableWellFormed : (content : Content) → Decidable content.WellFormed
  | .done => inferInstanceAs (Decidable True)
  | .text _ following =>
    have := following.decidableWellFormed
    inferInstanceAs (Decidable (_ = _ ∧ following.WellFormed))
  | .element _ _ children following =>
    have := children.decidableWellFormed
    have := following.decidableWellFormed
    inferInstanceAs
      (Decidable (IsName _ ∧ (∀ _ ∈ _, IsName _) ∧ children.WellFormed ∧ following.WellFormed))

instance (content : Content) : Decidable content.WellFormed := content.decidableWellFormed

/-- What a reader of the canonical spelling is told. A text without characters is not seen. -/
def events : Content → List Event
  | .done => []
  | .text content following =>
    if content = "" then following.events
    else .text (String.ofList (strip isMarkupBlank content.toList)) :: following.events
  | .element name attributes children following =>
    .opening (Tag.canonical name attributes) ::
      (children.events ++ .closing name :: following.events)

/-- A reader is told of a content, in whatever way its attributes and the white space around its texts
are written. Texts of white space may be left out. -/
inductive Tells : Content → List Event → Prop
  | done : Tells .done []
  | text {content told : String} {following : Content} {events : List Event}
      (same : trim told = trim content) (rest : following.Tells events) :
      Tells (.text content following) (.text told :: events)
  | blank {content : String} {following : Content} {events : List Event}
      (nothing : trim content = "") (rest : following.Tells events) :
      Tells (.text content following) events
  | element {tag : Tag} {attributes : List (String × String)} {children following : Content}
      {inner events : List Event} (within : children.Tells inner) (rest : following.Tells events) :
      Tells (.element tag.name attributes children following)
        (.opening tag :: (inner ++ .closing tag.name :: events))

/-- A reader of the canonical spelling is told of the content. -/
theorem tells_events (content : Content) : content.Tells content.events := by
  induction content with
  | done => exact .done
  | text content following ih =>
    rw [events]
    split
    · next hempty =>
      subst hempty
      exact .blank rfl ih
    · exact .text (by rw [trim_strip, String.ofList_toList]) ih
  | element name attributes children following ihChildren ihFollowing =>
    exact @Tells.element (.canonical name attributes) _ _ _ _ _ ihChildren ihFollowing

end Content

end Treble.Xml
