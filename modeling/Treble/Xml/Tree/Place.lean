import Treble.Xml.Tree.Element

/-!
# Places in a tree

An element can be inserted into a tree between two parts of a content, or amid a text, which is then
split in two. A place says where: it is a path into the tree, with all that lies around it.

## Main definitions

* `Xml.Place` — a place in a content
* `Xml.Place.content`, `Xml.Place.inserting` — the content without and with an element at the place
* `Xml.Place.path` — the names of the elements around the place
* `Xml.Place.Passes` — an element of a name lies wholly in front of the place
* `Xml.Place.Splits` — the place is amid a text
* `Xml.Content.append` — a content with another one behind it
* `Xml.Place.atEnd` — the place behind all parts of a content
* `Xml.Insertion` — an element that is inserted below the root of a tree

## Main results

* `Xml.Place.wellFormed_inserting` — what is inserted leaves a content well-formed
* `Xml.Place.inserting_atEnd` — what is inserted behind all parts of a content is its last child
-/

namespace Treble.Xml

/-- A place in a content. -/
inductive Place where
  /-- In front of a content, which may be empty. -/
  | front (following : Content)
  /-- Between the two halves of a text. -/
  | amid (left right : String) (following : Content)
  /-- Behind a text. -/
  | behindText (content : String) (place : Place)
  /-- Behind an element. -/
  | behindElement (name : String) (attributes : List (String × String)) (children : Content)
      (place : Place)
  /-- In an element. -/
  | within (name : String) (attributes : List (String × String)) (place : Place)
      (following : Content)

namespace Place

/-- The content that the place is in. -/
def content : Place → Content
  | .front following => following
  | .amid left right following => .text (left ++ right) following
  | .behindText content place => .text content place.content
  | .behindElement name attributes children place =>
    .element name attributes children place.content
  | .within name attributes place following => .element name attributes place.content following

/-- The content with an element at the place. -/
def inserting (name : String) (attributes : List (String × String)) (children : Content) :
    Place → Content
  | .front following => .element name attributes children following
  | .amid left right following =>
    .text left (.element name attributes children (.text right following))
  | .behindText content place => .text content (place.inserting name attributes children)
  | .behindElement other others content place =>
    .element other others content (place.inserting name attributes children)
  | .within other others place following =>
    .element other others (place.inserting name attributes children) following

/-- The names of the elements around the place, the innermost first, given those around the
content. -/
def path (outer : List String) : Place → List String
  | .front _ | .amid .. => outer
  | .behindText _ place | .behindElement _ _ _ place => place.path outer
  | .within name _ place _ => place.path (name :: outer)

/-- An element of a name, at whatever depth, lies wholly in front of the place. -/
def Passes (key : String) : Place → Prop
  | .front _ | .amid .. => False
  | .behindText _ place | .within _ _ place _ => place.Passes key
  | .behindElement name _ children place =>
    name = key ∨ ¬ children.Lacks key ∨ place.Passes key

/-- The place is amid a text. -/
def Splits : Place → Prop
  | .front _ => False
  | .amid .. => True
  | .behindText _ place | .behindElement _ _ _ place | .within _ _ place _ => place.Splits

variable {place : Place} {name : String} {attributes : List (String × String)} {children : Content}

theorem beginsWithText_inserting (h : place.content.beginsWithText = false) :
    (place.inserting name attributes children).beginsWithText = false := by
  cases place with
  | front | behindElement | within => rfl
  | amid | behindText => cases h

theorem wellFormed_inserting (well : place.content.WellFormed)
    (inserted : (Content.element name attributes children .done).WellFormed) :
    (place.inserting name attributes children).WellFormed := by
  obtain ⟨hname, hattributes, hchildren, _⟩ := inserted
  induction place with
  | front following => exact ⟨hname, hattributes, hchildren, well⟩
  | amid left right following => exact ⟨rfl, hname, hattributes, hchildren, well⟩
  | behindText content place ih => exact ⟨beginsWithText_inserting well.1, ih well.2⟩
  | behindElement other others content place ih =>
    exact ⟨well.1, well.2.1, well.2.2.1, ih well.2.2.2⟩
  | within other others place following ih =>
    exact ⟨well.1, well.2.1, ih well.2.2.1, well.2.2.2⟩

end Place

/-! ### The end of a content -/

/-- A content with another one behind it. -/
def Content.append : Content → Content → Content
  | .done, last => last
  | .text content following, last => .text content (following.append last)
  | .element name attributes children following, last =>
    .element name attributes children (following.append last)

@[simp] theorem Content.spelling_append (content last : Content) :
    (content.append last).spelling = content.spelling ++ last.spelling := by
  induction content with
  | done => rfl
  | text _ _ ih => simp [append, spelling, ih]
  | element _ _ _ _ _ ih => simp [append, spelling, ih]

namespace Place

/-- The place behind all parts of a content. -/
def atEnd : Content → Place
  | .done => .front .done
  | .text content following => .behindText content (atEnd following)
  | .element name attributes children following =>
    .behindElement name attributes children (atEnd following)

@[simp] theorem content_atEnd (content : Content) : (atEnd content).content = content := by
  induction content with
  | done => rfl
  | text _ _ ih => rw [atEnd, Place.content, ih]
  | element _ _ _ _ _ ih => rw [atEnd, Place.content, ih]

/-- An element that is inserted behind all parts of a content is its last child. -/
theorem inserting_atEnd (name : String) (attributes : List (String × String))
    (children content : Content) : (atEnd content).inserting name attributes children =
      content.append (.element name attributes children .done) := by
  induction content with
  | done => rfl
  | text _ _ ih => rw [atEnd, inserting, ih, Content.append]
  | element _ _ _ _ _ ih => rw [atEnd, inserting, ih, Content.append]

@[simp] theorem path_atEnd (content : Content) (outer : List String) :
    (atEnd content).path outer = outer := by
  induction content with
  | done => rfl
  | text _ _ ih => rw [atEnd, path, ih]
  | element _ _ _ _ _ ih => rw [atEnd, path, ih]

end Place

/-- An element that is inserted below the root of a tree, at any depth. -/
structure Insertion where
  root : String
  rootAttributes : List (String × String)
  place : Place
  /-- The name of the element that is inserted. -/
  name : String
  attributes : List (String × String)
  children : Content
  wellRoot : (Content.element root rootAttributes place.content .done).WellFormed
  wellInserted : (Content.element name attributes children .done).WellFormed

namespace Insertion

variable (insertion : Insertion)

/-- The tree without the element. -/
def original : Content :=
  .element insertion.root insertion.rootAttributes insertion.place.content .done

/-- The element as a tree of its own. -/
def inserted : Content :=
  .element insertion.name insertion.attributes insertion.children .done

/-- The tree with the element. -/
def result : Content :=
  .element insertion.root insertion.rootAttributes
    (insertion.place.inserting insertion.name insertion.attributes insertion.children) .done

/-- The names of the elements that the element is inserted in, the innermost first. -/
def path : List String := insertion.place.path [insertion.root]

/-- The name of the element that the element becomes a child of. -/
def parent : Option String := insertion.path.head?

theorem wellFormed_result : insertion.result.WellFormed :=
  ⟨insertion.wellRoot.1, insertion.wellRoot.2.1,
    Place.wellFormed_inserting insertion.wellRoot.2.2.1 insertion.wellInserted, trivial⟩

end Insertion

end Treble.Xml
