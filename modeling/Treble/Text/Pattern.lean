import Treble.Text.Word

/-!
# Patterns

A pattern is matched from a place in a text on. There may be several ways to do so, of which some are
preferred to others: an alternative to those behind it, and a longer run of characters to a shorter
one. A search goes through a text. At the first place where there is a way, the one that is preferred
to all others counts, and the search goes on behind it.

## Main definitions

* `Pattern` — what is looked for
* `Pattern.Place` — a place in a text, with what has been matched in front of it
* `Pattern.ways` — the ways to match a pattern from a place on
* `Pattern.search` — what the groups of a pattern match in a text
-/

namespace Treble.Text

/-- What is looked for. -/
inductive Pattern where
  /-- A text as it stands. -/
  | literal (text : List Char)
  /-- Some characters of a class, preferably many. -/
  | run (inClass : Char → Bool)
  /-- A pattern of which it is kept what it has matched. -/
  | group (pattern : Pattern)
  /-- One of two patterns, preferably the first one. -/
  | either (first second : Pattern)
  /-- One pattern and behind it another one. -/
  | both (first second : Pattern)
  /-- The edge of a word: a word character on one side and none on the other one. -/
  | edge

namespace Pattern

instance : Append Pattern := ⟨.both⟩

/-- A place in a text. -/
structure Place where
  /-- The character in front, if there is one. -/
  previous : Option Char
  /-- The text from there on. -/
  ahead : List Char
  /-- What the groups have matched in front of the place, in the order in which they end. -/
  groups : List (List Char) := []
deriving DecidableEq

/-- The place behind a number of characters. -/
def Place.pass (place : Place) (count : Nat) : Place :=
  { place with
    previous := (place.ahead.take count).getLast?.or place.previous
    ahead := place.ahead.drop count }

/-- The characters between a place and one behind it. -/
def Place.upTo (place behind : Place) : List Char :=
  place.ahead.take (place.ahead.length - behind.ahead.length)

/-- Whether there is a word character on one side of a place only. -/
def Place.atEdge (place : Place) : Bool :=
  place.previous.any isWord != place.ahead.head?.any isWord

/-- The ways to match a pattern from a place on: the places behind the match, in order of
preference. -/
def ways : Pattern → Place → List Place
  | literal text, place =>
    if text.isPrefixOf place.ahead then [place.pass text.length] else []
  | run inClass, place =>
    let longest := (place.ahead.takeWhile inClass).length
    (List.range longest).reverse.map fun count => place.pass (count + 1)
  | group pattern, place =>
    (pattern.ways place).map fun behind =>
      { behind with groups := behind.groups ++ [place.upTo behind] }
  | either first second, place => first.ways place ++ second.ways place
  | both first second, place => (first.ways place).flatMap second.ways
  | edge, place => if place.atEdge then [place] else []

/-- What the groups match in a text behind a character, where some characters more are passed over. A
match takes some characters, which are passed over when it has been found. -/
def searchFrom (pattern : Pattern) : Option Char → Nat → List Char → List (List (List Char))
  | _, _, [] => []
  | _, passed + 1, c :: rest => pattern.searchFrom (some c) passed rest
  | previous, 0, c :: rest =>
    match (pattern.ways { previous, ahead := c :: rest }).head? with
    | none => pattern.searchFrom (some c) 0 rest
    | some behind =>
      behind.groups :: pattern.searchFrom (some c) (rest.length - behind.ahead.length) rest

/-- What the groups of a pattern match in a text, match by match. -/
def search (pattern : Pattern) (text : List Char) : List (List (List Char)) :=
  pattern.searchFrom none 0 text

end Pattern

end Treble.Text
