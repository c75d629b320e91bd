import Treble.Xml.Tree

/-!
# The elements of a tree

What an element tree says can be told without the order of its tags: it has elements at various
depths, each standing in another one, and each with texts of its own. The white space around a text
does not belong to what the text says.

## Main definitions

* `Xml.Element` — an element, with the name of the one that it stands in
* `Xml.Content.elements` — the elements of a tree, at any depth
* `Xml.Content.ownText` — what the texts in a content itself say
* `Xml.Content.textOf` — what the texts of the elements of a name say
* `Xml.Content.Lacks` — no element of a name occurs
* `Xml.Content.Blank` — no text says anything
-/

namespace Treble.Xml

open Text

/-- An element: the name of the element that it stands in, its own name, and its content. -/
structure Element where
  parent : Option String
  name : String
  children : Content

namespace Content

/-- The elements at any depth, given the name of the element that the content belongs to. -/
def elements (parent : Option String) : Content → List Element
  | .done => []
  | .text _ following => following.elements parent
  | .element name _ children following =>
    ⟨parent, name, children⟩ :: (children.elements (some name) ++ following.elements parent)

/-- The texts in the content itself, not deeper, each without the white space around it, in one. -/
def ownText : Content → String
  | .done => ""
  | .text content following => trim content ++ following.ownText
  | .element _ _ _ following => following.ownText

/-- The own texts of the elements of a name in the content itself, not deeper, in one. -/
def textOf (key : String) : Content → String
  | .done => ""
  | .text _ following => following.textOf key
  | .element name _ children following =>
    (if name = key then children.ownText else "") ++ following.textOf key

/-- No element at any depth has a name. -/
def Lacks (name : String) : Content → Prop
  | .done => True
  | .text _ following => following.Lacks name
  | .element other _ children following =>
    other ≠ name ∧ children.Lacks name ∧ following.Lacks name

/-- All texts at any depth are white space. -/
def Blank : Content → Prop
  | .done => True
  | .text content following => trim content = "" ∧ following.Blank
  | .element _ _ children following => children.Blank ∧ following.Blank

theorem lacks_iff {name : String} {content : Content} (parent : Option String) :
    content.Lacks name ↔ ∀ inner ∈ content.elements parent, inner.name ≠ name := by
  induction content generalizing parent with
  | done => simp [Lacks, elements]
  | text _ _ ih => exact ih parent
  | element other _ children following ihChildren ihFollowing =>
    rw [Lacks, ihChildren (some other), ihFollowing parent, elements]
    simp [or_imp, forall_and]

instance (name : String) (content : Content) : Decidable (content.Lacks name) :=
  decidable_of_iff' _ (lacks_iff none)

end Content

/-- The elements in an element, at any depth. -/
def Element.descendants (e : Element) : List Element := e.children.elements (some e.name)

theorem Element.lacks_children_iff {e : Element} {name : String} :
    e.children.Lacks name ↔ ∀ inner ∈ e.descendants, inner.name ≠ name :=
  Content.lacks_iff (some e.name)

end Treble.Xml
