import Treble.Text.Blank
import Treble.Text.Cut
import Treble.Xml.Fault

/-!
# Tokens of XML

A document is a sequence of texts and markup. What stands behind a less-than sign decides which
kind of markup it is and so how its end is found.

## Main definitions

* `Xml.Token` — a text run or a piece of markup
* `Xml.Token.ofMarkup` — the markup behind a less-than sign, and what follows it
* `Xml.Tokens` — the tokens of a document up to its end or to the first fault
* `Xml.Tokens.ofText` — the tokens of a text

## Main results

* `Xml.eq_of_cutTag` — a tag and what follows it make up the text
* `Xml.Token.length_le_of_ofMarkup` — what follows markup is no longer than the text
-/

namespace Treble.Xml

open Text

/-- A text run or a piece of markup. -/
inductive Token where
  /-- A text run, without the blanks at its ends. -/
  | text (content : List Char)
  /-- A section whose content is text as it stands. -/
  | cdata (content : List Char)
  /-- A comment, an instruction or a document type: it says nothing about elements. -/
  | aside
  /-- A start tag. -/
  | opening (content : List Char)
  /-- The tag of an empty element, without its final slash. -/
  | empty (content : List Char)
  /-- An end tag, without its first slash. -/
  | closing (content : List Char)
deriving DecidableEq

/-- The content of a tag and what follows it. A tag ends at the first greater-than sign outside
quotes. -/
def cutTag : Option Char → List Char → Option (List Char × List Char)
  | _, [] => none
  | some quote, c :: rest =>
    (cutTag (if c = quote then none else some quote) rest).map fun (content, after) =>
      (c :: content, after)
  | none, c :: rest =>
    if c = '>' then some ([], rest)
    else
      (cutTag (if c = '"' ∨ c = '\'' then some c else none) rest).map fun (content, after) =>
        (c :: content, after)

/-- The content of a document type and what follows it. It ends at the greater-than sign that has
no less-than sign of its own. -/
def cutBalanced : Nat → List Char → Option (List Char × List Char)
  | _, [] => none
  | depth, c :: rest =>
    if c = '>' then
      match depth with
      | 0 => some ([], rest)
      | depth + 1 =>
        (cutBalanced depth rest).map fun (content, after) => (c :: content, after)
    else
      (cutBalanced (if c = '<' then depth + 1 else depth) rest).map fun (content, after) =>
        (c :: content, after)

namespace Token

/-- The token of a tag that is no end tag. -/
def ofTag (content : List Char) : Token :=
  if content.getLast? = some '/' then .empty content.dropLast else .opening content

/-- A document type: the word in any case and then something other than blanks. -/
def ofDoctype (content : List Char) : Except Fault Token :=
  if (content.take 7).map Char.toUpper = "DOCTYPE".toList then
    if (content.drop 7).all isMarkupBlank then .error .doctypeWithoutName else .ok .aside
  else .error .doctypeOpen

/-- A comment behind its first four characters. -/
def ofComment (text : List Char) : Except Fault (Token × List Char) :=
  match cut "-->".toList text with
  | some (_, after) => .ok (.aside, after)
  | none => .error .commentOpen

/-- A character data section behind its first three characters. -/
def ofSection (text : List Char) : Except Fault (Token × List Char) :=
  if "CDATA[".toList.isPrefixOf text then
    match cut "]]>".toList (text.drop 6) with
    | some (content, after) => .ok (.cdata content, after)
    | none => .error .cdataOpen
  else .error .cdataOpen

/-- What begins like a declaration, behind the exclamation mark. -/
def ofDeclaration (text : List Char) : Except Fault (Token × List Char) :=
  match text with
  | '-' :: '-' :: rest => ofComment rest
  -- One hyphen promises a comment, which this is not, wherever it would end.
  | '-' :: _ => .error .commentOpen
  | '[' :: rest => ofSection rest
  | c :: rest =>
    if c = 'D' ∨ c = 'd' then
      match cutBalanced 0 (c :: rest) with
      | some (content, after) => (ofDoctype content).map (·, after)
      | none => .error .doctypeOpen
    else .error .unknownMarkup
  | [] => .error .unknownMarkup

/-- An instruction behind the question mark. -/
def ofInstruction (text : List Char) : Except Fault (Token × List Char) :=
  if text.head? = some '>' then .error .instructionOpen
  else
    match cut "?>".toList text with
    | some (_, after) => .ok (.aside, after)
    | none => .error .instructionOpen

/-- The markup behind a less-than sign, and what follows it. -/
def ofMarkup (text : List Char) : Except Fault (Token × List Char) :=
  match text with
  | '!' :: rest => ofDeclaration rest
  | '?' :: rest => ofInstruction rest
  | '/' :: rest =>
    match cutTag none rest with
    | some (content, after) => .ok (.closing content, after)
    | none => .error .tagOpen
  | text =>
    match cutTag none text with
    | some (content, after) => .ok (ofTag content, after)
    | none => .error .tagOpen

theorem ofDeclaration_of_letter {c : Char} (hc : c = 'D' ∨ c = 'd') (rest : List Char) :
    ofDeclaration (c :: rest) =
      match cutBalanced 0 (c :: rest) with
      | some (content, after) => (ofDoctype content).map (·, after)
      | none => .error .doctypeOpen := by
  rcases hc with rfl | rfl <;> rfl

theorem ofMarkup_of_tag {c : Char} (hbang : c ≠ '!') (hquestion : c ≠ '?') (hslash : c ≠ '/')
    (rest : List Char) :
    ofMarkup (c :: rest) =
      match cutTag none (c :: rest) with
      | some (content, after) => .ok (ofTag content, after)
      | none => .error .tagOpen := by
  unfold ofMarkup
  split
  · next heq => exact absurd (List.cons.inj heq).1 hbang
  · next heq => exact absurd (List.cons.inj heq).1 hquestion
  · next heq => exact absurd (List.cons.inj heq).1 hslash
  · rfl

end Token

/-- Nothing but the greater-than sign is lost when a tag is cut off. -/
theorem eq_of_cutTag {quote : Option Char} {text content after : List Char}
    (h : cutTag quote text = some (content, after)) : text = content ++ '>' :: after := by
  induction text generalizing quote content with
  | nil => simp [cutTag] at h
  | cons c rest ih =>
    cases quote with
    | some quote =>
      obtain ⟨shorter, hcut, rfl⟩ := exists_of_map_cons h
      simp [ih hcut]
    | none =>
      rw [cutTag] at h
      split at h
      · simp_all
      · obtain ⟨shorter, hcut, rfl⟩ := exists_of_map_cons h
        simp [ih hcut]

/-- Nothing but the greater-than sign is lost when a document type is cut off. -/
theorem eq_of_cutBalanced {depth : Nat} {text content after : List Char}
    (h : cutBalanced depth text = some (content, after)) : text = content ++ '>' :: after := by
  induction text generalizing depth content with
  | nil => simp [cutBalanced] at h
  | cons c rest ih =>
    unfold cutBalanced at h
    split at h
    · cases depth with
      | zero => simp_all
      | succ depth =>
        obtain ⟨shorter, hcut, rfl⟩ := exists_of_map_cons h
        simp [ih hcut]
    · obtain ⟨shorter, hcut, rfl⟩ := exists_of_map_cons h
      simp [ih hcut]

theorem length_lt_of_cutTag {quote : Option Char} {text content after : List Char}
    (h : cutTag quote text = some (content, after)) : after.length < text.length := by
  rw [eq_of_cutTag h]
  simp
  omega

theorem length_lt_of_cutBalanced {depth : Nat} {text content after : List Char}
    (h : cutBalanced depth text = some (content, after)) : after.length < text.length := by
  rw [eq_of_cutBalanced h]
  simp
  omega

theorem length_le_of_cut {separator text before after : List Char}
    (h : cut separator text = some (before, after)) : after.length ≤ text.length := by
  rw [eq_of_cut h]
  simp
  omega

namespace Token

theorem length_le_of_ofComment {text after : List Char} {token : Token}
    (h : ofComment text = .ok (token, after)) : after.length ≤ text.length := by
  unfold ofComment at h
  split at h
  · next hcut =>
    cases h
    exact length_le_of_cut hcut
  · cases h

theorem length_le_of_ofSection {text after : List Char} {token : Token}
    (h : ofSection text = .ok (token, after)) : after.length ≤ text.length := by
  unfold ofSection at h
  split at h
  · split at h
    · next hcut =>
      cases h
      exact Nat.le_trans (length_le_of_cut hcut) (by simp)
    · cases h
  · cases h

theorem length_le_of_ofDeclaration {text after : List Char} {token : Token}
    (h : ofDeclaration text = .ok (token, after)) : after.length ≤ text.length := by
  unfold ofDeclaration at h
  split at h
  · have := length_le_of_ofComment h
    simp only [List.length_cons]
    omega
  · cases h
  · have := length_le_of_ofSection h
    simp only [List.length_cons]
    omega
  · split at h
    · split at h
      · next hcut =>
        have := length_lt_of_cutBalanced hcut
        unfold Except.map at h
        split at h
        · cases h
        · cases h
          omega
      · cases h
    · cases h
  · cases h

theorem length_le_of_ofInstruction {text after : List Char} {token : Token}
    (h : ofInstruction text = .ok (token, after)) : after.length ≤ text.length := by
  unfold ofInstruction at h
  split at h
  · cases h
  · split at h
    · next hcut =>
      cases h
      exact length_le_of_cut hcut
    · cases h

/-- What follows a piece of markup is no longer than the text it was taken from. -/
theorem length_le_of_ofMarkup {text after : List Char} {token : Token}
    (h : ofMarkup text = .ok (token, after)) : after.length ≤ text.length := by
  unfold ofMarkup at h
  split at h
  · have := length_le_of_ofDeclaration h
    simp only [List.length_cons]
    omega
  · have := length_le_of_ofInstruction h
    simp only [List.length_cons]
    omega
  · split at h
    · next hcut =>
      have := length_lt_of_cutTag hcut
      cases h
      simp only [List.length_cons]
      omega
    · cases h
  · split at h
    · next hcut =>
      have := length_lt_of_cutTag hcut
      cases h
      omega
    · cases h

end Token

/-- The tokens of a document, and the fault behind the last of them if there is one. -/
structure Tokens where
  tokens : List Token
  fault : Option Fault
deriving DecidableEq

namespace Tokens

/-- One token in front. -/
def push (token : Token) (following : Tokens) : Tokens :=
  { following with tokens := token :: following.tokens }

/-- The tokens of a text. -/
def ofText (text : List Char) : Tokens :=
  match text with
  | [] => ⟨[], none⟩
  | c :: rest =>
    if c = '<' then
      match _h : Token.ofMarkup rest with
      | .error fault => ⟨[], some fault⟩
      | .ok (token, after) => push token (ofText after)
    else
      push (.text (strip isMarkupBlank (c :: rest.takeWhile (· != '<'))))
        (ofText (rest.dropWhile (· != '<')))
termination_by text.length
decreasing_by
  · have := Token.length_le_of_ofMarkup _h
    simp only [List.length_cons]
    omega
  · have := (List.dropWhile_sublist (· != '<') (l := rest)).length_le
    simp only [List.length_cons]
    omega

end Tokens

end Treble.Xml
