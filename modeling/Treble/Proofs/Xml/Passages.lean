import Treble.Proofs.Xml.Lexemes

/-!
# Passages of documents

A document can be cut between two of its tokens. What stands in front of the cut is read in the same
way whatever follows it, unless it ends with a text run that goes on there. So a reader is told of it
first, whatever the reader is told of then.

## Main definitions

* `Xml.Passage` — a part of a text that is read as some tokens in front of what follows it
* `Xml.Token.Tells` — what a reader is told of a token
* `Xml.Begins` — a document begins with a part that is read as some tokens

## Main results

* `Xml.Passage.replace` — what follows a passage may be replaced
* `Xml.Reading.readsOn` — the reading of what follows some tokens goes on with some elements open
* `Xml.Begins.events_prefix` — the events of a part are the first ones of the document
* `Xml.exists_begins` — a document can be cut behind any of its tokens
-/

namespace Treble.Xml

/-! ### Passages -/

/-- A part of a text that is read as some tokens in front of what follows it. -/
inductive Passage : List Char → List Token → List Char → Prop
  | done {rest : List Char} : Passage [] [] rest
  | token {piece passage rest : List Char} {token : Token} {tokens : List Token}
      (first : Lexeme piece token (passage ++ rest)) (following : Passage passage tokens rest) :
      Passage (piece ++ passage) (token :: tokens) rest

/-- Nothing that follows a part can belong to the last of its tokens. -/
def Parted (tokens : List Token) (other : List Char) : Prop :=
  EndsText other ∨ ∀ token ∈ tokens.getLast?, token.IsMarkup

namespace Passage

variable {passage rest other : List Char} {tokens : List Token}

/-- A passage without characters has no tokens. -/
theorem eq_nil (read : Passage passage tokens rest) (h : passage = []) : tokens = [] := by
  cases read with
  | done => rfl
  | token first => exact absurd (List.append_eq_nil_iff.mp h).1 first.ne_nil

/-- Reading takes a passage off the front of a text. -/
theorem ofText_append (read : Passage passage tokens rest) :
    Tokens.ofText (passage ++ rest) =
      ⟨tokens ++ (Tokens.ofText rest).tokens, (Tokens.ofText rest).fault⟩ := by
  induction read with
  | done => rfl
  | token first following ih =>
    rw [List.append_assoc, first.ofText_append, ih]
    rfl

/-- A text run in front of a passage ends there, whatever follows the passage. -/
theorem endsText_replace (read : Passage passage tokens rest) (ends : EndsText (passage ++ rest))
    (parted : tokens = [] → EndsText other) : EndsText (passage ++ other) := by
  cases read with
  | done => exact parted rfl
  | token first following =>
    obtain ⟨c, piece, rfl⟩ := List.exists_cons_of_ne_nil first.ne_nil
    exact ends.imp (fun h => absurd h (List.cons_ne_nil _ _)) id

/-- What follows a passage may be replaced. -/
theorem replace (read : Passage passage tokens rest) (parted : Parted tokens other) :
    Passage passage tokens other := by
  induction read with
  | done => exact .done
  | @token piece passage rest token tokens first following ih =>
    -- Only the last token borders on what is replaced; any other one ends in front of the next one.
    cases tokens with
    | nil =>
      cases following
      refine .token (first.replace ?_) .done
      exact parted.imp (fun ends _ => ends) fun markup => markup token rfl
    | cons next tokens =>
      have hlast : (token :: next :: tokens).getLast? = (next :: tokens).getLast? :=
        List.getLast?_cons_cons
      rw [Parted, hlast] at parted
      refine .token (first.replace (.inl fun ends => ?_)) (ih parted)
      exact following.endsText_replace ends fun h => absurd h (List.cons_ne_nil _ _)

/-- A passage ends with a greater-than sign unless a text run ends in front of what follows it. -/
theorem endsText_of_getLast? (read : Passage passage tokens rest) {c : Char}
    (hlast : passage.getLast? = some c) (hc : c ≠ '>') : EndsText rest := by
  induction read with
  | done => cases hlast
  | @token piece passage rest token tokens first following ih =>
    cases hpassage : passage.getLast? with
    | none =>
      obtain rfl := List.getLast?_eq_none_iff.mp hpassage
      rw [List.append_nil] at hlast
      exact first.endsText_of_ne fun h => hc (Option.some.inj (hlast.symm.trans h))
    | some d =>
      rw [List.getLast?_append, hpassage, Option.some_or] at hlast
      exact ih (hpassage.trans hlast)

/-- What follows a passage may be replaced if a text run that would end in front of it ends in front of
the other text too. -/
theorem replace_of_imp (read : Passage passage tokens rest) (h : EndsText rest → EndsText other) :
    Passage passage tokens other := by
  induction read with
  | done => exact .done
  | @token piece passage rest token tokens first following ih =>
    refine .token (first.replace (.inl fun ends => ?_)) (ih h)
    refine following.endsText_replace ends fun hnone => ?_
    subst hnone
    cases following
    exact h ends

end Passage

/-- Any number of the tokens of a text are those of a passage at its front. -/
theorem exists_passage {text : List Char} {tokens : List Token}
    (first : tokens <+: (Tokens.ofText text).tokens) :
    ∃ passage rest, text = passage ++ rest ∧ Passage passage tokens rest := by
  induction tokens generalizing text with
  | nil => exact ⟨[], text, rfl, .done⟩
  | cons token tokens ih =>
    obtain ⟨more, hmore⟩ := first
    obtain ⟨piece, behind, rfl, lexeme, hbehind⟩ := exists_lexeme hmore.symm
    obtain ⟨passage, rest, rfl, read⟩ := ih ⟨more, hbehind.symm⟩
    exact ⟨piece ++ passage, rest, (List.append_assoc ..).symm, .token lexeme read⟩

/-! ### Readings -/

/-- What a reader is told of a token, if it is told of it. -/
inductive Token.Tells : Token → Event → Prop
  | cdata (content : List Char) : Tells (.cdata content) (.text (String.ofList content))
  | text {content resolved : List Char} (resolves : resolve content = .ok resolved) :
      Tells (.text content) (.text (String.ofList resolved))
  | opening (content : List Char) : Tells (.opening content) (.opening (Tag.ofContent content))
  | empty (content : List Char) : Tells (.empty content) (.empty (Tag.ofContent content))
  | closing (content : List Char) : Tells (.closing content) (.closing (closingName content))

namespace Reading

/-- A reader is told of a token at most once. -/
theorem events_singleton (opened : List String) (token : Token) :
    (ofTokens none opened [token]).events = [] ∨
      ∃ event, (ofTokens none opened [token]).events = [event] ∧ token.Tells event := by
  cases token with
  | aside => exact .inl rfl
  | cdata content => exact .inr ⟨_, rfl, .cdata content⟩
  | text content =>
    cases hcontent : resolve content with
    | error fault =>
      left
      simp only [ofTokens, hcontent]
    | ok resolved =>
      refine .inr ⟨_, ?_, .text hcontent⟩
      simp only [ofTokens, hcontent]
      rfl
  | opening content => exact .inr ⟨_, rfl, .opening content⟩
  | empty content => exact .inr ⟨_, rfl, .empty content⟩
  | closing content =>
    cases opened with
    | nil => exact .inl rfl
    | cons expected opened =>
      by_cases hfound : closingName content = expected
      · refine .inr ⟨_, ?_, .closing content⟩
        simp only [ofTokens, if_pos hfound]
        rfl
      · left
        simp only [ofTokens, if_neg hfound]

/-- How a reading goes on behind some tokens: it is over with a fault in them, or what follows them is
read with some elements open. -/
def ReadsOn (opened : List String) (tokens : List Token) : Prop :=
  (∃ fault, ∀ other more, ofTokens other opened (tokens ++ more) =
    ⟨(ofTokens none opened tokens).events, some fault⟩) ∨
  ∃ inner, ∀ other more, ofTokens other opened (tokens ++ more) =
    pushAll (ofTokens none opened tokens).events (ofTokens other inner more)

theorem ReadsOn.push {opened inner : List String} {token : Token} {tokens : List Token} {event : Event}
    (told : ∀ other more, ofTokens other opened (token :: more) = push event (ofTokens other inner more))
    (following : ReadsOn inner tokens) : ReadsOn opened (token :: tokens) := by
  obtain ⟨fault, h⟩ | ⟨last, h⟩ := following
  · refine .inl ⟨fault, fun other more => ?_⟩
    rw [List.cons_append, told, told, h]
    rfl
  · refine .inr ⟨last, fun other more => ?_⟩
    rw [List.cons_append, told, told, h]
    rfl

/-- Behind any tokens a reading is over or goes on with some elements open. -/
theorem readsOn (opened : List String) (tokens : List Token) : ReadsOn opened tokens := by
  induction tokens generalizing opened with
  | nil => exact .inr ⟨opened, fun _ _ => rfl⟩
  | cons token tokens ih =>
    cases token with
    | aside => exact ih opened
    | cdata content => exact .push (fun _ _ => rfl) (ih opened)
    | text content =>
      cases hcontent : resolve content with
      | error fault =>
        have hover : ∀ other more, ofTokens other opened (.text content :: more) =
            ⟨[], some (.reference fault)⟩ := by
          intro other more
          rw [ofTokens, hcontent]
        exact .inl ⟨_, fun other more => by rw [List.cons_append, hover, hover]⟩
      | ok resolved =>
        have told : ∀ other more, ofTokens other opened (.text content :: more) =
            push (.text (String.ofList resolved)) (ofTokens other opened more) := by
          intro other more
          rw [ofTokens, hcontent]
        exact .push told (ih opened)
    | opening content => exact .push (fun _ _ => rfl) (ih _)
    | empty content => exact .push (fun _ _ => rfl) (ih opened)
    | closing content =>
      cases opened with
      | nil => exact .inl ⟨_, fun _ _ => rfl⟩
      | cons expected opened =>
        by_cases hfound : closingName content = expected
        · have told : ∀ other more, ofTokens other (expected :: opened) (.closing content :: more) =
              push (.closing (closingName content)) (ofTokens other opened more) := by
            intro other more
            simp only [ofTokens, if_pos hfound]
          exact .push told (ih opened)
        · have hover : ∀ other more, ofTokens other (expected :: opened) (.closing content :: more) =
              ⟨[], some (.closesOther expected (closingName content))⟩ := by
            intro other more
            simp only [ofTokens, if_neg hfound]
          exact .inl ⟨_, fun other more => by rw [List.cons_append, hover, hover]⟩

/-- A reader is told of some tokens first, whatever follows them. -/
theorem events_ofTokens_prefix (fault : Option Fault) (opened : List String)
    (tokens more : List Token) :
    (ofTokens none opened tokens).events <+: (ofTokens fault opened (tokens ++ more)).events := by
  obtain ⟨_, h⟩ | ⟨_, h⟩ := readsOn opened tokens
  · exact ⟨[], by rw [h, List.append_nil]⟩
  · rw [h]
    exact List.prefix_append ..

/-- What a reader is told of tokens does not hang on the fault behind them. -/
theorem events_ofTokens (fault : Option Fault) (opened : List String) (tokens : List Token) :
    (ofTokens fault opened tokens).events = (ofTokens none opened tokens).events := by
  rw [← List.append_nil tokens]
  obtain ⟨_, h⟩ | ⟨_, h⟩ := readsOn opened tokens
  · rw [h, h]
  · rw [h, h]
    rfl

/-- Where there is no fault there is none in some tokens at the front. -/
theorem fault_ofTokens_eq_none {fault : Option Fault} {opened : List String}
    {tokens more : List Token} (h : (ofTokens fault opened (tokens ++ more)).fault = none) :
    (ofTokens none opened tokens).fault = none := by
  obtain ⟨_, hover⟩ | ⟨inner, hgoing⟩ := readsOn opened tokens
  · rw [hover] at h
    exact absurd h (Option.some_ne_none _)
  · have hself := hgoing none []
    rw [List.append_nil] at hself
    rw [hself]
    rfl

/-- The piece at the front of a text is read as its token. -/
theorem ofText_append_of_lexeme {piece rest : List Char} {token : Token}
    (lexeme : Lexeme piece token rest) (opened : List String) :
    ofText opened (piece ++ rest) =
      ofTokens (Tokens.ofText rest).fault opened (token :: (Tokens.ofText rest).tokens) := by
  rw [ofText, lexeme.ofText_append]
  rfl

/-- Behind a passage the reading of a text is over, or goes on with some elements open. Which of the two
hangs on the tokens alone. -/
theorem ofText_append_of_passage (opened : List String) (tokens : List Token) :
    (∃ fault, ∀ passage rest, Passage passage tokens rest →
      ofText opened (passage ++ rest) = ⟨(ofTokens none opened tokens).events, some fault⟩) ∨
    ∃ inner, ∀ passage rest, Passage passage tokens rest →
      ofText opened (passage ++ rest) =
        pushAll (ofTokens none opened tokens).events (ofText inner rest) := by
  obtain ⟨fault, h⟩ | ⟨inner, h⟩ := readsOn opened tokens
  · refine .inl ⟨fault, fun passage rest read => ?_⟩
    rw [ofText, read.ofText_append, h]
  · refine .inr ⟨inner, fun passage rest read => ?_⟩
    rw [ofText, read.ofText_append, h, ofText]

end Reading

/-! ### Documents -/

/-- A document begins with a part that is read as some tokens. -/
def Begins (document part : String) (tokens : List Token) : Prop :=
  ∃ rest : String, document = part ++ rest ∧ Passage (dropMark part.toList) tokens rest.toList

theorem dropMark_append {text : List Char} (h : text ≠ []) (rest : List Char) :
    dropMark (text ++ rest) = dropMark text ++ rest := by
  obtain ⟨c, text, rfl⟩ := List.exists_cons_of_ne_nil h
  simp only [List.cons_append, dropMark]
  split
  · rfl
  · rfl

namespace Begins

variable {document part : String} {tokens : List Token}

/-- A document is read as the tokens of a part that it begins with, and others. -/
theorem tokens_prefix (begins : Begins document part tokens) :
    tokens <+: (Tokens.ofText (dropMark document.toList)).tokens := by
  obtain ⟨rest, rfl, read⟩ := begins
  -- Where the part is empty, a mark in front of the document does not belong to it.
  by_cases hpart : part.toList = []
  · rw [hpart] at read
    rw [read.eq_nil rfl]
    exact List.nil_prefix
  · rw [String.toList_append, dropMark_append hpart, read.ofText_append]
    exact List.prefix_append ..

/-- A part is read as its tokens. -/
theorem read_part (begins : Begins document part tokens) :
    read part = Reading.ofTokens none [] tokens := by
  obtain ⟨rest, rfl, passage⟩ := begins
  -- The part is the passage in front of the end of a text, where a text run ends too.
  have hpart := (passage.replace (.inl (.inl rfl))).ofText_append
  have hnil : Tokens.ofText [] = ⟨[], none⟩ := by rw [Tokens.ofText]
  rw [List.append_nil, hnil, List.append_nil] at hpart
  rw [read, Reading.ofText, hpart]

/-- A reader is told of a part first. -/
theorem events_prefix (begins : Begins document part tokens) :
    (read part).events <+: (read document).events := by
  obtain ⟨more, hmore⟩ := begins.tokens_prefix
  rw [begins.read_part, read, Reading.ofText, ← hmore]
  exact Reading.events_ofTokens_prefix ..

/-- Where there is no fault in a document there is none in a part that it begins with. -/
theorem fault_eq_none (begins : Begins document part tokens)
    (faultless : (read document).fault = none) : (read part).fault = none := by
  obtain ⟨more, hmore⟩ := begins.tokens_prefix
  rw [read, Reading.ofText, ← hmore] at faultless
  rw [begins.read_part]
  exact Reading.fault_ofTokens_eq_none faultless

/-- Behind a part that ends with markup something else may follow. -/
theorem append (begins : Begins document part tokens)
    (markup : ∀ token ∈ tokens.getLast?, token.IsMarkup) (following : String) :
    Begins (part ++ following) part tokens := by
  obtain ⟨rest, -, passage⟩ := begins
  exact ⟨following, rfl, passage.replace (.inr markup)⟩

end Begins

/-- The mark in front of a text, if there is one, is in front of all parts that the text begins with. -/
theorem exists_mark (text : List Char) :
    ∃ mark, text = mark ++ dropMark text ∧
      ∀ passage, passage <+: dropMark text → dropMark (mark ++ passage) = passage := by
  cases text with
  | nil =>
    refine ⟨[], rfl, fun passage h => ?_⟩
    rw [List.prefix_nil.mp h]
    rfl
  | cons c rest =>
    by_cases hc : c = byteOrderMark
    · have hdrop : ∀ behind, dropMark (c :: behind) = behind := fun _ => if_pos hc
      exact ⟨[c], by rw [hdrop, List.singleton_append], fun passage _ => hdrop passage⟩
    · have hdrop : ∀ behind, dropMark (c :: behind) = c :: behind := fun _ => if_neg hc
      refine ⟨[], (hdrop rest).symm, fun passage h => ?_⟩
      cases passage with
      | nil => rfl
      | cons d passage =>
        rw [hdrop] at h
        obtain ⟨rfl, -⟩ := List.cons_prefix_cons.mp h
        exact hdrop passage

/-- A document can be cut behind any of its tokens. -/
theorem exists_begins {document : String} {tokens : List Token}
    (first : tokens <+: (Tokens.ofText (dropMark document.toList)).tokens) :
    ∃ part, Begins document part tokens := by
  obtain ⟨passage, rest, hsplit, read⟩ := exists_passage first
  obtain ⟨mark, hmark, hdrop⟩ := exists_mark document.toList
  have hpassage : dropMark (mark ++ passage) = passage :=
    hdrop passage (hsplit ▸ List.prefix_append ..)
  refine ⟨String.ofList (mark ++ passage), String.ofList rest, ?_, ?_⟩
  · rw [← String.ofList_append, List.append_assoc, ← hsplit, ← hmark, String.ofList_toList]
  · rwa [String.toList_ofList, String.toList_ofList, hpassage]

end Treble.Xml
