import Treble.Xml.Tree

/-!
# Reading canonical spellings

The canonical spelling of an element is read without a fault, and what the reader is told is the
element itself: each tag, text and attribute value comes back as it went in, except that texts lose
the blanks at their ends.

## Main results

* `Xml.resolve_escaped` — references undo what escaping does
* `Xml.Tag.attribute?_canonical` — an attribute of a start tag is found by its name
* `Xml.Content.ofText_spelling` — the spelling of a content in front of any other text
* `Xml.read_spelling` — the spelling of a whole document
-/

namespace Treble.Xml

open Text

theorem resolveRest_cons_of_ne {size : Nat} {c : Char} {rest : List Char} (h : c ≠ '&') :
    resolveRest size (c :: rest) = (resolveRest size rest).map (c :: ·) := by
  rw [resolveRest, if_neg h]

theorem resolveRest_reference {size : Nat} {rest : List Char} {c : Char} (name : List Char)
    (hname : name.all (fun c => !endsReference c) = true)
    (hvalue : referenced (size - Utf8.size (name ++ ';' :: rest)) name = .ok c) :
    resolveRest size ('&' :: (name ++ ';' :: rest)) = (resolveRest size rest).map (c :: ·) := by
  have hall : ∀ x ∈ name, (!endsReference x) = true := List.all_eq_true.mp hname
  have hdrop : (name ++ ';' :: rest).dropWhile (fun c => !endsReference c) = ';' :: rest := by
    rw [List.dropWhile_append_of_pos hall]
    rfl
  have htake : (name ++ ';' :: rest).takeWhile (fun c => !endsReference c) = name := by
    rw [List.takeWhile_append_of_pos hall]
    simp [endsReference]
  rw [resolveRest, if_pos rfl]
  split
  · next after h =>
    rw [hdrop] at h
    cases h
    rw [htake, hvalue]
    rfl
  · next h => exact absurd hdrop (h _)

theorem resolveRest_escapedChar {size : Nat} {c : Char} {rest : List Char} :
    resolveRest size (escapedChar c ++ rest) = (resolveRest size rest).map (c :: ·) := by
  unfold escapedChar
  split
  · next h => subst h; exact resolveRest_reference "amp".toList (by decide) (by rfl)
  split
  · next h => subst h; exact resolveRest_reference "lt".toList (by decide) (by rfl)
  split
  · next h => subst h; exact resolveRest_reference "gt".toList (by decide) (by rfl)
  split
  · next h => subst h; exact resolveRest_reference "quot".toList (by decide) (by rfl)
  split
  · next h => subst h; exact resolveRest_reference "apos".toList (by decide) (by rfl)
  · next h _ _ _ _ => exact resolveRest_cons_of_ne h

theorem resolveRest_escaped {size : Nat} (text : List Char) :
    resolveRest size (escaped text) = .ok text := by
  induction text with
  | nil => rw [escaped, List.flatMap_nil, resolveRest]
  | cons c rest ih =>
    rw [escaped, List.flatMap_cons, resolveRest_escapedChar]
    simp only [escaped] at ih
    rw [ih]
    rfl

/-- The canonical spelling of a text reads as that text. -/
@[simp] theorem resolve_escaped (text : List Char) : resolve (escaped text) = .ok text :=
  resolveRest_escaped text

/-! ### Characters of a spelling -/

/-- The characters that could be taken for markup. -/
def isMark (c : Char) : Bool := c == '<' || c == '>' || c == '"' || c == '\''

theorem all_not_isMark_escapedChar (c : Char) :
    (escapedChar c).all (fun d => !isMark d) = true := by
  unfold escapedChar
  split
  · rfl
  split
  · rfl
  split
  · rfl
  split
  · rfl
  split
  · rfl
  · simp_all [isMark]

theorem not_isMark_of_mem_escapedChar {c d : Char} (h : d ∈ escapedChar c) :
    isMark d = false := by
  simpa using List.all_eq_true.mp (all_not_isMark_escapedChar c) d h

/-- Nothing in an escaped text can be taken for markup. -/
theorem not_isMark_of_mem_escaped {text : List Char} {d : Char} (h : d ∈ escaped text) :
    isMark d = false := by
  obtain ⟨c, _, hd⟩ := List.mem_flatMap.mp h
  exact not_isMark_of_mem_escapedChar hd

theorem escapedChar_of_isMarkupBlank {c : Char} (h : isMarkupBlank c = true) :
    escapedChar c = [c] := by
  simp only [isMarkupBlank, Bool.or_eq_true, beq_iff_eq] at h
  rcases h with ((rfl | rfl) | rfl) | rfl <;> rfl

theorem head?_escapedChar {c : Char} (h : isMarkupBlank c = false) :
    ∃ d rest, escapedChar c = d :: rest ∧ isMarkupBlank d = false := by
  unfold escapedChar
  split
  · exact ⟨_, _, rfl, rfl⟩
  split
  · exact ⟨_, _, rfl, rfl⟩
  split
  · exact ⟨_, _, rfl, rfl⟩
  split
  · exact ⟨_, _, rfl, rfl⟩
  split
  · exact ⟨_, _, rfl, rfl⟩
  · exact ⟨_, _, rfl, h⟩

theorem head?_reverse_escapedChar {c : Char} (h : isMarkupBlank c = false) :
    ∃ d rest, (escapedChar c).reverse = d :: rest ∧ isMarkupBlank d = false := by
  unfold escapedChar
  split
  · exact ⟨_, _, rfl, rfl⟩
  split
  · exact ⟨_, _, rfl, rfl⟩
  split
  · exact ⟨_, _, rfl, rfl⟩
  split
  · exact ⟨_, _, rfl, rfl⟩
  split
  · exact ⟨_, _, rfl, rfl⟩
  · exact ⟨_, _, rfl, h⟩

/-- Characters of a class are dropped before or after each character is replaced by a text, if the
replacement keeps the class. -/
theorem dropWhile_flatMap {inClass : Char → Bool} (image : Char → List Char)
    (hin : ∀ c, inClass c = true → image c = [c])
    (hout : ∀ c, inClass c = false → ∃ d rest, image c = d :: rest ∧ inClass d = false)
    (text : List Char) :
    (text.flatMap image).dropWhile inClass = (text.dropWhile inClass).flatMap image := by
  induction text with
  | nil => rfl
  | cons c rest ih =>
    cases hc : inClass c with
    | true => simp [hin c hc, hc, ih]
    | false =>
      obtain ⟨d, tail, himage, hd⟩ := hout c hc
      simp [himage, hc, hd]

/-- The blanks at the ends of a text are dropped before or after it is escaped. -/
theorem strip_escaped (text : List Char) :
    strip isMarkupBlank (escaped text) = escaped (strip isMarkupBlank text) := by
  -- The blanks at the end are those at the front of the text backwards, of which each character is
  -- replaced by its spelling backwards.
  have hdrop := dropWhile_flatMap escapedChar
    (fun _ => escapedChar_of_isMarkupBlank) fun _ => head?_escapedChar
  have hreverse := dropWhile_flatMap (List.reverse ∘ escapedChar)
    (fun _ h => by rw [Function.comp, escapedChar_of_isMarkupBlank h]; rfl)
    fun _ => head?_reverse_escapedChar
  have hback : ∀ cs : List Char,
      (cs.flatMap (List.reverse ∘ escapedChar)).reverse = cs.reverse.flatMap escapedChar := by
    intro cs
    rw [List.reverse_flatMap]
    congr 1
    funext c
    simp
  simp only [strip, stripEnd, escaped, hdrop]
  rw [List.reverse_flatMap, hreverse, hback]

theorem escaped_ne_nil {text : List Char} (h : text ≠ []) : escaped text ≠ [] := by
  cases text with
  | nil => exact absurd rfl h
  | cons c rest =>
    have hc : escapedChar c ≠ [] := by
      unfold escapedChar
      repeat' split
      all_goals simp
    simp [escaped, hc]

/-! ### Tags -/

/-- A text in a tag without quotes or a greater-than sign belongs to the tag. -/
theorem cutTag_append {text rest : List Char} (h : ∀ c ∈ text, isMark c = false) :
    cutTag none (text ++ rest) =
      (cutTag none rest).map fun (content, after) => (text ++ content, after) := by
  induction text with
  | nil => simp
  | cons c text ih =>
    have hc := h c (List.mem_cons_self ..)
    simp only [isMark, Bool.or_eq_false_iff, beq_eq_false_iff_ne] at hc
    obtain ⟨⟨⟨-, hgt⟩, hdouble⟩, hsingle⟩ := hc
    rw [List.cons_append, cutTag, if_neg hgt, if_neg (by simp [hdouble, hsingle]),
      ih fun d hd => h d (List.mem_cons_of_mem _ hd)]
    cases cutTag none rest <;> rfl

/-- A quoted text in a tag belongs to the tag. -/
theorem cutTag_quoted {text rest : List Char} (h : ∀ c ∈ text, c ≠ '"') :
    cutTag (some '"') (text ++ '"' :: rest) =
      (cutTag none rest).map fun (content, after) => (text ++ '"' :: content, after) := by
  induction text with
  | nil =>
    rw [List.nil_append, cutTag, if_pos rfl]
    rfl
  | cons c text ih =>
    rw [List.cons_append, cutTag, if_neg (h c (List.mem_cons_self ..)),
      ih fun d hd => h d (List.mem_cons_of_mem _ hd)]
    cases cutTag none rest <;> rfl

theorem not_isMark_of_isNameChar {c : Char} (h : isNameChar c = true) : isMark c = false := by
  simp only [isNameChar, Bool.not_eq_true', Bool.or_eq_false_iff] at h
  simp [isMark, h]

theorem not_isMark_of_isName {name : String} (h : IsName name) :
    ∀ c ∈ name.toList, isMark c = false := fun c hc =>
  not_isMark_of_isNameChar (List.all_eq_true.mp h.1 c hc)

theorem not_isMarkupBlank_of_isName {name : String} (h : IsName name) :
    ∀ c ∈ name.toList, isMarkupBlank c = false := by
  intro c hc
  have := List.all_eq_true.mp h.1 c hc
  simp only [isNameChar, Bool.not_eq_true', Bool.or_eq_false_iff] at this
  simp [this]

theorem cutTag_attributeSpelling {entry : String × String} {rest : List Char}
    (h : IsName entry.1) :
    cutTag none (attributeSpelling entry ++ rest) =
      (cutTag none rest).map fun (content, after) =>
        (attributeSpelling entry ++ content, after) := by
  have hname : ∀ c ∈ ' ' :: entry.1.toList ++ ['='], isMark c = false := by
    intro c hc
    simp only [List.cons_append, List.mem_cons, List.mem_append, List.not_mem_nil, or_false] at hc
    rcases hc with rfl | hc | rfl
    · rfl
    · exact not_isMark_of_isName h c hc
    · rfl
  have hvalue : ∀ c ∈ escaped entry.2.toList, c ≠ '"' := by
    rintro c hc rfl
    exact absurd (not_isMark_of_mem_escaped hc) (by decide)
  have hsplit : attributeSpelling entry ++ rest =
      (' ' :: entry.1.toList ++ ['=']) ++ ('"' :: (escaped entry.2.toList ++ '"' :: rest)) := by
    simp [attributeSpelling]
  -- From the quote on only another quote ends the value, and the value has none.
  have hquote : cutTag none ('"' :: (escaped entry.2.toList ++ '"' :: rest)) =
      (cutTag (some '"') (escaped entry.2.toList ++ '"' :: rest)).map
        fun (content, after) => ('"' :: content, after) := by
    rw [cutTag, if_neg (by decide), if_pos (by decide)]
  rw [hsplit, cutTag_append hname, hquote, cutTag_quoted hvalue]
  cases cutTag none rest <;> simp [attributeSpelling]

theorem cutTag_attributes {attributes : List (String × String)} {rest : List Char}
    (h : ∀ entry ∈ attributes, IsName entry.1) :
    cutTag none (attributes.flatMap attributeSpelling ++ '>' :: rest) =
      some (attributes.flatMap attributeSpelling, rest) := by
  induction attributes with
  | nil => simp [cutTag]
  | cons entry attributes ih =>
    rw [List.flatMap_cons, List.append_assoc,
      cutTag_attributeSpelling (h entry (List.mem_cons_self ..)),
      ih fun e he => h e (List.mem_cons_of_mem _ he)]
    rfl

/-- A start tag ends where its spelling does. -/
theorem cutTag_canonical {name : String} {attributes : List (String × String)}
    (rest : List Char) (hname : IsName name) (h : ∀ entry ∈ attributes, IsName entry.1) :
    cutTag none (name.toList ++ (attributes.flatMap attributeSpelling ++ '>' :: rest)) =
      some (name.toList ++ attributes.flatMap attributeSpelling, rest) := by
  rw [cutTag_append (not_isMark_of_isName hname), cutTag_attributes h]
  rfl

theorem getLast?_attributes (entry : String × String) (attributes : List (String × String)) :
    ((entry :: attributes).flatMap attributeSpelling).getLast? = some '"' := by
  induction attributes generalizing entry with
  | nil => rw [List.flatMap_singleton, attributeSpelling, List.getLast?_concat]
  | cons next attributes ih => rw [List.flatMap_cons, List.getLast?_append, ih next]; rfl

/-- The last character of a start tag is no slash. -/
theorem getLast?_canonical_ne {name : String} (attributes : List (String × String))
    (hname : IsName name) :
    (name.toList ++ attributes.flatMap attributeSpelling).getLast? ≠ some '/' := by
  intro hlast
  cases attributes with
  | nil =>
    rw [List.flatMap_nil, List.append_nil] at hlast
    exact absurd (List.all_eq_true.mp hname.1 _ (List.mem_of_getLast? hlast)) (by decide)
  | cons entry attributes =>
    rw [List.getLast?_append, getLast?_attributes] at hlast
    simp at hlast

theorem ofMarkup_canonical {name : String} {attributes : List (String × String)}
    {rest : List Char} (hname : IsName name) (h : ∀ entry ∈ attributes, IsName entry.1) :
    Token.ofMarkup (name.toList ++ (attributes.flatMap attributeSpelling ++ '>' :: rest)) =
      .ok (.opening (name.toList ++ attributes.flatMap attributeSpelling), rest) := by
  have hcut := cutTag_canonical rest hname h
  have hlast := getLast?_canonical_ne attributes hname
  obtain ⟨hall, first, hfirst, hbang, hquestion⟩ := hname
  -- The first character of the name decides that this is a start tag, the last one that it is no
  -- empty element.
  have hslash : first ≠ '/' := by
    rintro rfl
    exact absurd (List.all_eq_true.mp hall _ (List.mem_of_head? hfirst)) (by decide)
  obtain ⟨tail, htail⟩ := List.head?_eq_some_iff.mp hfirst
  rw [htail] at hcut hlast ⊢
  rw [List.cons_append] at hcut ⊢
  rw [Token.ofMarkup_of_tag hbang hquestion hslash, hcut]
  simp only [Token.ofTag, if_neg hlast]

/-! ### Attributes -/

theorem cut_quote {value rest : List Char} (h : ∀ c ∈ value, c ≠ '"') :
    cut ['"'] (value ++ '"' :: rest) = some (value, rest) := by
  induction value with
  | nil => simp [cut, List.isPrefixOf]
  | cons c value ih =>
    have hc : ('"' == c) = false := beq_eq_false_iff_ne.mpr (h c (List.mem_cons_self ..)).symm
    rw [List.cons_append, cut, ih fun d hd => h d (List.mem_cons_of_mem _ hd)]
    simp [List.isPrefixOf, hc]

theorem not_endsName_of_isNameChar {c : Char} (h : isNameChar c = true) :
    (!Attribute.endsName c) = true := by
  simp only [isNameChar, Bool.not_eq_true', Bool.or_eq_false_iff] at h
  simp [Attribute.endsName, h]

/-- An attribute in canonical spelling is read as its name and the spelling of its value. -/
theorem next?_attributeSpelling (size : Nat) {entry : String × String} (rest : List Char)
    (h : IsName entry.1) :
    Attribute.next? size (attributeSpelling entry ++ rest) =
      .ok (some (⟨entry.1.toList, escaped entry.2.toList⟩, rest)) := by
  obtain ⟨hall, first, hfirst, -⟩ := h
  obtain ⟨tail, htail⟩ := List.head?_eq_some_iff.mp hfirst
  have hends : ∀ c ∈ tail, (!Attribute.endsName c) = true := fun c hc =>
    not_endsName_of_isNameChar
      (List.all_eq_true.mp hall c (htail ▸ List.mem_cons_of_mem _ hc))
  have hblank : isMarkupBlank first = false := by
    have := List.all_eq_true.mp hall first (htail ▸ List.mem_cons_self ..)
    simp only [isNameChar, Bool.not_eq_true', Bool.or_eq_false_iff] at this
    simp [this]
  have hvalue : ∀ c ∈ escaped entry.2.toList, c ≠ '"' := by
    rintro c hc rfl
    exact absurd (not_isMark_of_mem_escaped hc) (by decide)
  have hsplit : attributeSpelling entry ++ rest =
      ' ' :: first :: (tail ++ '=' :: '"' :: (escaped entry.2.toList ++ '"' :: rest)) := by
    simp [attributeSpelling, htail]
  -- The reader skips the blank, takes the name up to the equals sign, and takes the value between the
  -- quotes.
  have hdrop : ∀ following : List Char,
      (' ' :: first :: following).dropWhile isMarkupBlank = first :: following := by
    intro following
    rw [List.dropWhile_cons_of_pos (by rfl), List.dropWhile_cons_of_neg (by simp [hblank])]
  have hafter : ∀ after : List Char,
      (tail ++ '=' :: after).dropWhile (fun c => !Attribute.endsName c) = '=' :: after ∧
        (tail ++ '=' :: after).takeWhile (fun c => !Attribute.endsName c) = tail := by
    intro after
    rw [List.dropWhile_append_of_pos hends, List.takeWhile_append_of_pos hends]
    exact ⟨rfl, by simp [Attribute.endsName]⟩
  have hequals : ∀ after : List Char, Attribute.afterEquals size ('=' :: after) = .ok after :=
    fun _ => rfl
  have hquoted : Attribute.valueOf size ('"' :: (escaped entry.2.toList ++ '"' :: rest)) =
      .ok (escaped entry.2.toList, rest) := by
    rw [Attribute.valueOf, List.dropWhile_cons_of_neg (by decide)]
    simp only [true_or, if_true, cut_quote hvalue]
  rw [hsplit, Attribute.next?, hdrop]
  simp only [(hafter _).1, (hafter _).2, hequals, hquoted, Except.bind, Except.map, htail]

theorem find?_attributes {size : Nat} {name : String} {attributes : List (String × String)}
    (h : ∀ entry ∈ attributes, IsName entry.1) :
    Attribute.find? size name.toList (attributes.flatMap attributeSpelling) =
      .ok ((attributes.lookup name).map fun value => escaped value.toList) := by
  induction attributes with
  | nil =>
    rw [Attribute.find?]
    split
    · next heq => simp [Attribute.next?] at heq
    · rfl
    · next heq => simp [Attribute.next?] at heq
  | cons entry attributes ih =>
    have hnext := next?_attributeSpelling size (attributes.flatMap attributeSpelling)
      (h entry (List.mem_cons_self ..))
    rw [List.flatMap_cons, Attribute.find?]
    split
    · next heq => rw [hnext] at heq; cases heq
    · next heq => rw [hnext] at heq; cases heq
    · next found rest heq =>
      rw [hnext] at heq
      cases heq
      obtain ⟨key, value⟩ := entry
      -- The first attribute of a name counts, as in the list.
      by_cases hkey : name = key
      · subst hkey
        simp
      · have hne : (name == key) = false := beq_eq_false_iff_ne.mpr hkey
        have hlist : key.toList ≠ name.toList := fun he => hkey (String.toList_inj.mp he).symm
        rw [if_neg hlist, ih fun e he => h e (List.mem_cons_of_mem _ he), List.lookup_cons, hne]

/-- An attribute of a start tag in canonical spelling is found by its name. -/
theorem Tag.attribute?_canonical {name key : String} {attributes : List (String × String)}
    (h : ∀ entry ∈ attributes, IsName entry.1) :
    (Tag.canonical name attributes).attribute? key = .ok (attributes.lookup key) := by
  simp only [Tag.attribute?, Tag.canonical, find?_attributes h]
  cases attributes.lookup key <;> simp

/-! ### Tokens -/

theorem ofText_markup {text rest : List Char} {token : Token}
    (h : Token.ofMarkup text = .ok (token, rest)) :
    Tokens.ofText ('<' :: text) = Tokens.push token (Tokens.ofText rest) := by
  rw [Tokens.ofText, if_pos rfl]
  split
  · next heq => rw [h] at heq; cases heq
  · next heq => rw [h] at heq; cases heq; rfl

/-- A start tag is the first token of a text that begins with it. -/
theorem ofText_startSpelling {name : String} {attributes : List (String × String)}
    {rest : List Char} (hname : IsName name) (h : ∀ entry ∈ attributes, IsName entry.1) :
    Tokens.ofText ((Tag.canonical name attributes).startSpelling ++ rest) =
      Tokens.push (.opening (name.toList ++ attributes.flatMap attributeSpelling))
        (Tokens.ofText rest) := by
  have hsplit : (Tag.canonical name attributes).startSpelling ++ rest =
      '<' :: (name.toList ++ (attributes.flatMap attributeSpelling ++ '>' :: rest)) := by
    simp [Tag.startSpelling, Tag.canonical]
  rw [hsplit, ofText_markup (ofMarkup_canonical hname h)]

/-- An end tag is the first token of a text that begins with it. -/
theorem ofText_endSpelling {name : String} {rest : List Char} (hname : IsName name) :
    Tokens.ofText (endSpelling name ++ rest) =
      Tokens.push (.closing name.toList) (Tokens.ofText rest) := by
  have hcut : cutTag none (name.toList ++ '>' :: rest) = some (name.toList, rest) := by
    rw [cutTag_append (not_isMark_of_isName hname), cutTag, if_pos rfl]
    simp
  have hsplit : endSpelling name ++ rest = '<' :: '/' :: (name.toList ++ '>' :: rest) := by
    simp [endSpelling]
  rw [hsplit]
  refine ofText_markup ?_
  simp only [Token.ofMarkup, hcut]

/-- What a text run in front of markup, or at the end, begins with. -/
def EndsText (text : List Char) : Prop := text = [] ∨ text.head? = some '<'

/-- A text run is the first token of a text that begins with it. -/
theorem ofText_run {text rest : List Char} (hne : text ≠ [])
    (htext : ∀ c ∈ text, c ≠ '<') (hrest : EndsText rest) :
    Tokens.ofText (text ++ rest) =
      Tokens.push (.text (strip isMarkupBlank text)) (Tokens.ofText rest) := by
  cases text with
  | nil => exact absurd rfl hne
  | cons c text =>
    have hall : ∀ d ∈ text, (d != '<') = true := fun d hd =>
      bne_iff_ne.mpr (htext d (List.mem_cons_of_mem _ hd))
    -- The run ends with the text, since markup or nothing comes next.
    have hstop : rest.takeWhile (· != '<') = [] ∧ rest.dropWhile (· != '<') = rest := by
      rcases hrest with rfl | hrest
      · exact ⟨rfl, rfl⟩
      · obtain ⟨tail, rfl⟩ := List.head?_eq_some_iff.mp hrest
        exact ⟨rfl, rfl⟩
    rw [List.cons_append, Tokens.ofText, if_neg (htext c (List.mem_cons_self ..)),
      List.takeWhile_append_of_pos hall, List.dropWhile_append_of_pos hall, hstop.1, hstop.2,
      List.append_nil]

/-! ### Events -/

/-- Several events in front. -/
def Reading.pushAll (events : List Event) (following : Reading) : Reading :=
  { following with events := events ++ following.events }

@[simp] theorem Reading.pushAll_nil (following : Reading) :
    Reading.pushAll [] following = following := rfl

@[simp] theorem Reading.pushAll_cons (event : Event) (events : List Event) (following : Reading) :
    Reading.pushAll (event :: events) following =
      Reading.push event (Reading.pushAll events following) := rfl

theorem Reading.pushAll_append (left right : List Event) (following : Reading) :
    Reading.pushAll (left ++ right) following =
      Reading.pushAll left (Reading.pushAll right following) := by
  simp [Reading.pushAll]

/-- The name of an element is what its start tag begins with. -/
theorem ofContent_canonical {name : String} {attributes : List (String × String)}
    (hname : IsName name) :
    Tag.ofContent (name.toList ++ attributes.flatMap attributeSpelling) =
      Tag.canonical name attributes := by
  have hall : ∀ c ∈ name.toList, (!isMarkupBlank c) = true := fun c hc => by
    rw [not_isMarkupBlank_of_isName hname c hc]
    rfl
  have hstop : (attributes.flatMap attributeSpelling).takeWhile (fun c => !isMarkupBlank c) = [] ∧
      (attributes.flatMap attributeSpelling).dropWhile (fun c => !isMarkupBlank c) =
        attributes.flatMap attributeSpelling := by
    cases attributes <;> exact ⟨rfl, rfl⟩
  rw [Tag.ofContent, List.takeWhile_append_of_pos hall, List.dropWhile_append_of_pos hall,
    hstop.1, hstop.2, List.append_nil, String.ofList_toList, Tag.canonical]

/-- The name in an end tag is the name of the element. -/
theorem closingName_toList {name : String} (hname : IsName name) :
    closingName name.toList = name := by
  have hblank := not_isMarkupBlank_of_isName hname
  obtain ⟨-, first, hfirst, -⟩ := hname
  have hmem := List.mem_of_head? hfirst
  have hall : name.toList.all isMarkupBlank = false := by
    rw [List.all_eq_false]
    exact ⟨first, hmem, by simp [hblank first hmem]⟩
  have hstrip : stripEnd isMarkupBlank name.toList = name.toList := by
    rw [stripEnd]
    cases hreverse : name.toList.reverse with
    | nil => simp_all
    | cons c rest =>
      have hc : isMarkupBlank c = false :=
        hblank c (List.mem_reverse.mp (hreverse ▸ List.mem_cons_self ..))
      rw [List.dropWhile_cons_of_neg (by simp [hc]), ← hreverse, List.reverse_reverse]
  simp [closingName, hall, hstrip]

theorem Reading.ofText_startSpelling {name : String} {attributes : List (String × String)}
    {opened : List String} {rest : List Char} (hname : IsName name)
    (h : ∀ entry ∈ attributes, IsName entry.1) :
    Reading.ofText opened ((Tag.canonical name attributes).startSpelling ++ rest) =
      Reading.push (.opening (Tag.canonical name attributes))
        (Reading.ofText (name :: opened) rest) := by
  simp only [Reading.ofText, Xml.ofText_startSpelling hname h, Tokens.push, Reading.ofTokens,
    ofContent_canonical hname]
  rfl

theorem Reading.ofText_endSpelling {name : String} {opened : List String} {rest : List Char}
    (hname : IsName name) :
    Reading.ofText (name :: opened) (endSpelling name ++ rest) =
      Reading.push (.closing name) (Reading.ofText opened rest) := by
  simp only [Reading.ofText, Xml.ofText_endSpelling hname, Tokens.push, Reading.ofTokens,
    closingName_toList hname, if_true]

theorem Reading.ofText_escaped {content : List Char} {opened : List String} {rest : List Char}
    (hne : content ≠ []) (hrest : EndsText rest) :
    Reading.ofText opened (escaped content ++ rest) =
      Reading.push (.text (String.ofList (strip isMarkupBlank content)))
        (Reading.ofText opened rest) := by
  have htext : ∀ c ∈ escaped content, c ≠ '<' := by
    rintro c hc rfl
    exact absurd (not_isMark_of_mem_escaped hc) (by decide)
  simp only [Reading.ofText, ofText_run (escaped_ne_nil hne) htext hrest, Tokens.push,
    Reading.ofTokens, strip_escaped, resolve_escaped]

/-- A text run ends where anything but a text follows. -/
theorem Content.endsText_spelling {content : Content} {rest : List Char}
    (h : content.beginsWithText = false) (hrest : EndsText rest) :
    EndsText (content.spelling ++ rest) := by
  cases content with
  | done => exact hrest
  | text => cases h
  | element => exact .inr rfl

theorem endsText_endSpelling (name : String) (rest : List Char) :
    EndsText (endSpelling name ++ rest) := .inr rfl

/-- What is read from a text that begins with the canonical spelling of a content. -/
theorem Content.ofText_spelling {content : Content} (opened : List String) {rest : List Char}
    (h : content.WellFormed) (hrest : EndsText rest) :
    Reading.ofText opened (content.spelling ++ rest) =
      Reading.pushAll content.events (Reading.ofText opened rest) := by
  -- The induction is on the content. What follows is free in it, since the children of an element are
  -- followed by its end tag, and so is the list of opened elements, which grows by the element there.
  induction content generalizing opened rest with
  | done => rfl
  | text content following ih =>
    obtain ⟨hfollowing, hwell⟩ := h
    rw [spelling, List.append_assoc]
    -- An empty text leaves nothing to read, and no event either.
    by_cases hempty : content = ""
    · subst hempty
      simpa [events, escaped] using ih opened hwell hrest
    · rw [Reading.ofText_escaped (fun hnil => hempty (String.toList_eq_nil_iff.mp hnil))
        (endsText_spelling hfollowing hrest), ih opened hwell hrest, events, if_neg hempty]
      rfl
  | element name attributes children following ihChildren ihFollowing =>
    obtain ⟨hname, hattributes, hchildren, hfollowing⟩ := h
    rw [spelling, List.append_assoc, List.append_assoc, List.append_assoc,
      Reading.ofText_startSpelling hname hattributes,
      ihChildren _ hchildren (endsText_endSpelling _ _), Reading.ofText_endSpelling hname,
      ihFollowing _ hfollowing hrest]
    simp [events, Reading.pushAll_append]

/-- The canonical spelling of an element is read without a fault as the events of the element. -/
theorem read_spelling {name : String} {attributes : List (String × String)} {children : Content}
    (h : (Content.element name attributes children .done).WellFormed) :
    read (String.ofList (Content.element name attributes children .done).spelling) =
      ⟨(Content.element name attributes children .done).events, none⟩ := by
  have hmark : dropMark (Content.element name attributes children .done).spelling =
      (Content.element name attributes children .done).spelling := rfl
  have hread := Content.ofText_spelling [] h (.inl (Eq.refl []))
  have hnil : Reading.ofText [] [] = ⟨[], none⟩ := by
    rw [Reading.ofText, Tokens.ofText]
    rfl
  rw [List.append_nil, hnil] at hread
  rw [read, String.toList_ofList, hmark, hread]
  simp [Reading.pushAll]

end Treble.Xml
