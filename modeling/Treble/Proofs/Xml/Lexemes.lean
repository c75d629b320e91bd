import Treble.Proofs.Text.Cutting
import Treble.Xml.Tree.Reading

/-!
# Pieces of texts that are tokens

A reader takes a token off the front of a text. Where the token is markup, what it takes hangs on the
piece that it takes alone: it never looks behind the piece. A text run goes up to the next markup, so
that it is a piece of its own only in front of markup or at the end.

## Main definitions

* `Xml.Takes` — a piece of a text is read as a token, whatever follows it
* `Xml.Lexeme` — a piece of a text is read as a token in front of what follows it

## Main results

* `Xml.takes_ofMarkup` — markup is read without a look at what follows it
* `Xml.Lexeme.replace` — what follows a piece may be replaced
* `Xml.exists_lexeme` — where there is a first token, it has a piece
-/

namespace Treble.Xml

open Text

/-! ### Cutting -/

/-- What follows a tag has no say in where it ends. -/
theorem cutTag_replace {quote : Option Char} {text content after : List Char}
    (h : cutTag quote text = some (content, after)) (rest : List Char) :
    cutTag quote (content ++ '>' :: rest) = some (content, rest) := by
  induction text generalizing quote content with
  | nil => simp [cutTag] at h
  | cons c text ih =>
    cases quote with
    | some quote =>
      obtain ⟨shorter, hcut, rfl⟩ := exists_of_map_cons h
      rw [List.cons_append, cutTag, ih hcut]
      rfl
    | none =>
      rw [cutTag] at h
      split at h
      · simp_all [cutTag]
      · next hc =>
        obtain ⟨shorter, hcut, rfl⟩ := exists_of_map_cons h
        rw [List.cons_append, cutTag, if_neg hc, ih hcut]
        rfl

/-- What follows a document type has no say in where it ends. -/
theorem cutBalanced_replace {depth : Nat} {text content after : List Char}
    (h : cutBalanced depth text = some (content, after)) (rest : List Char) :
    cutBalanced depth (content ++ '>' :: rest) = some (content, rest) := by
  induction text generalizing depth content with
  | nil => simp [cutBalanced] at h
  | cons c text ih =>
    unfold cutBalanced at h
    split at h
    · next hc =>
      subst hc
      cases depth with
      | zero => simp_all [cutBalanced]
      | succ depth =>
        obtain ⟨shorter, hcut, rfl⟩ := exists_of_map_cons h
        simp only [List.cons_append, cutBalanced, if_true, ih hcut, Option.map_some]
    · next hc =>
      obtain ⟨shorter, hcut, rfl⟩ := exists_of_map_cons h
      simp only [List.cons_append, cutBalanced.eq_def _ (c :: _), if_neg hc, ih hcut, Option.map_some]

/-! ### Markup -/

/-- A piece of a text is read as a token, whatever follows it. -/
def Takes (read : List Char → Except Fault (Token × List Char)) (token : Token)
    (piece : List Char) : Prop :=
  ∀ rest, read (piece ++ rest) = .ok (token, rest)

section Markup

variable {text after : List Char} {token : Token}

theorem takes_ofComment (h : Token.ofComment text = .ok (token, after)) :
    ∃ piece, text = piece ++ after ∧ Takes Token.ofComment token piece := by
  unfold Token.ofComment at h
  split at h
  · next before _ hcut =>
    cases h
    refine ⟨_, eq_of_cut hcut, fun rest => ?_⟩
    rw [Token.ofComment, cut_replace hcut]
  · cases h

theorem takes_ofSection (h : Token.ofSection text = .ok (token, after)) :
    ∃ piece, text = piece ++ after ∧ Takes Token.ofSection token piece := by
  unfold Token.ofSection at h
  split at h
  · next hprefix =>
    obtain ⟨inner, rfl⟩ := List.isPrefixOf_iff_prefix.mp hprefix
    have hdrop : ∀ inner : List Char, ("CDATA[".toList ++ inner).drop 6 = inner := fun _ => rfl
    rw [hdrop] at h
    split at h
    · next content _ hcut =>
      cases h
      refine ⟨"CDATA[".toList ++ (content ++ "]]>".toList), ?_, fun rest => ?_⟩
      · rw [eq_of_cut hcut, List.append_assoc, List.append_assoc, List.append_assoc]
      · rw [List.append_assoc, Token.ofSection, hdrop, cut_replace hcut,
          if_pos (List.isPrefixOf_iff_prefix.mpr (List.prefix_append ..))]
    · cases h
  · cases h

theorem takes_ofDoctype {c : Char} {content : List Char} (hc : c = 'D' ∨ c = 'd')
    (hcut : cutBalanced 0 (c :: text) = some (content, after))
    (hdoctype : Token.ofDoctype content = .ok token) :
    ∃ piece, c :: text = piece ++ after ∧ Takes Token.ofDeclaration token piece := by
  have hsplit := eq_of_cutBalanced hcut
  cases content with
  | nil =>
    obtain rfl := (List.cons.inj hsplit).1
    exact absurd hc (by decide)
  | cons first content =>
    obtain rfl := (List.cons.inj hsplit).1
    refine ⟨c :: (content ++ ['>']), ?_, fun rest => ?_⟩
    · rw [hsplit]
      simp
    · have hpiece : c :: (content ++ ['>']) ++ rest = c :: (content ++ '>' :: rest) := by simp
      have hreplaced := cutBalanced_replace hcut rest
      rw [List.cons_append] at hreplaced
      simp only [hpiece, Token.ofDeclaration_of_letter hc, hreplaced, hdoctype]
      rfl

theorem takes_ofDeclaration (h : Token.ofDeclaration text = .ok (token, after)) :
    ∃ piece, text = piece ++ after ∧ Takes Token.ofDeclaration token piece := by
  unfold Token.ofDeclaration at h
  split at h
  · obtain ⟨piece, rfl, takes⟩ := takes_ofComment h
    exact ⟨'-' :: '-' :: piece, rfl, takes⟩
  · cases h
  · obtain ⟨piece, rfl, takes⟩ := takes_ofSection h
    exact ⟨'[' :: piece, rfl, takes⟩
  · next c rest _ _ _ =>
    split at h
    · next hc =>
      split at h
      · next content _ hcut =>
        cases hdoctype : Token.ofDoctype content with
        | error fault =>
          rw [hdoctype] at h
          cases h
        | ok found =>
          rw [hdoctype] at h
          cases h
          exact takes_ofDoctype hc hcut hdoctype
      · cases h
    · cases h
  · cases h

theorem takes_ofInstruction (h : Token.ofInstruction text = .ok (token, after)) :
    ∃ piece, text = piece ++ after ∧ Takes Token.ofInstruction token piece := by
  unfold Token.ofInstruction at h
  split at h
  · cases h
  · next hclosed =>
    split at h
    · next before _ hcut =>
      cases h
      refine ⟨before ++ "?>".toList, eq_of_cut hcut, fun rest => ?_⟩
      have hhead : (before ++ "?>".toList ++ rest).head? = text.head? := by
        rw [eq_of_cut hcut]
        cases before <;> rfl
      rw [Token.ofInstruction, if_neg (hhead ▸ hclosed), cut_replace hcut]
    · cases h

theorem takes_ofTag {content : List Char} (hbang : ∀ rest, text ≠ '!' :: rest)
    (hquestion : ∀ rest, text ≠ '?' :: rest) (hslash : ∀ rest, text ≠ '/' :: rest)
    (hcut : cutTag none text = some (content, after)) :
    ∃ piece, text = piece ++ after ∧ Takes Token.ofMarkup (Token.ofTag content) piece := by
  -- The piece is not empty, so that its first character decides for any text that begins with it.
  obtain ⟨c, tail, hpiece⟩ : ∃ c tail, content ++ ['>'] = c :: tail := by
    cases content <;> exact ⟨_, _, rfl⟩
  have hsplit : ∀ rest, content ++ '>' :: rest = c :: (tail ++ rest) := by
    intro rest
    rw [← List.cons_append, ← hpiece, List.append_assoc]
    rfl
  have htext : text = c :: (tail ++ after) := (eq_of_cutTag hcut).trans (hsplit after)
  have hc : c ≠ '!' ∧ c ≠ '?' ∧ c ≠ '/' := by
    refine ⟨?_, ?_, ?_⟩
    · rintro rfl
      exact hbang _ htext
    · rintro rfl
      exact hquestion _ htext
    · rintro rfl
      exact hslash _ htext
  refine ⟨c :: tail, htext, fun rest => ?_⟩
  rw [List.cons_append, Token.ofMarkup_of_tag hc.1 hc.2.1 hc.2.2, ← hsplit, cutTag_replace hcut]

/-- Markup is read without a look at what follows it. -/
theorem takes_ofMarkup (h : Token.ofMarkup text = .ok (token, after)) :
    ∃ piece, text = piece ++ after ∧ Takes Token.ofMarkup token piece := by
  unfold Token.ofMarkup at h
  split at h
  · obtain ⟨piece, rfl, takes⟩ := takes_ofDeclaration h
    exact ⟨'!' :: piece, rfl, takes⟩
  · obtain ⟨piece, rfl, takes⟩ := takes_ofInstruction h
    exact ⟨'?' :: piece, rfl, takes⟩
  · split at h
    · next content _ hcut =>
      cases h
      refine ⟨'/' :: (content ++ ['>']), ?_, fun rest => ?_⟩
      · rw [eq_of_cutTag hcut]
        simp
      · have hsplit : '/' :: (content ++ ['>']) ++ rest = '/' :: (content ++ '>' :: rest) := by simp
        rw [hsplit]
        simp only [Token.ofMarkup, cutTag_replace hcut]
    · cases h
  · next hbang hquestion hslash =>
    split at h
    · next hcut =>
      cases h
      exact takes_ofTag hbang hquestion hslash hcut
    · cases h

/-! ### The end of markup -/

theorem exists_of_ofComment (h : Token.ofComment text = .ok (token, after)) :
    ∃ content, text = content ++ '>' :: after := by
  unfold Token.ofComment at h
  split at h
  · next before _ hcut =>
    cases h
    exact ⟨before ++ "--".toList, by simpa using eq_of_cut hcut⟩
  · cases h

theorem exists_of_ofSection (h : Token.ofSection text = .ok (token, after)) :
    ∃ content, text = content ++ '>' :: after := by
  unfold Token.ofSection at h
  split at h
  · split at h
    · next content _ hcut =>
      cases h
      have hsplit := List.take_append_drop 6 text
      rw [eq_of_cut hcut] at hsplit
      refine ⟨text.take 6 ++ (content ++ "]]".toList), hsplit.symm.trans ?_⟩
      simp
    · cases h
  · cases h

theorem exists_of_ofDeclaration (h : Token.ofDeclaration text = .ok (token, after)) :
    ∃ content, text = content ++ '>' :: after := by
  unfold Token.ofDeclaration at h
  split at h
  · obtain ⟨content, rfl⟩ := exists_of_ofComment h
    exact ⟨'-' :: '-' :: content, rfl⟩
  · cases h
  · obtain ⟨content, rfl⟩ := exists_of_ofSection h
    exact ⟨'[' :: content, rfl⟩
  · split at h
    · split at h
      · next content _ hcut =>
        unfold Except.map at h
        split at h
        · cases h
        · cases h
          exact ⟨content, eq_of_cutBalanced hcut⟩
      · cases h
    · cases h
  · cases h

theorem exists_of_ofInstruction (h : Token.ofInstruction text = .ok (token, after)) :
    ∃ content, text = content ++ '>' :: after := by
  unfold Token.ofInstruction at h
  split at h
  · cases h
  · split at h
    · next before _ hcut =>
      cases h
      exact ⟨before ++ ['?'], by simpa using eq_of_cut hcut⟩
    · cases h

/-- Markup ends with a greater-than sign. -/
theorem exists_of_ofMarkup (h : Token.ofMarkup text = .ok (token, after)) :
    ∃ content, text = content ++ '>' :: after := by
  unfold Token.ofMarkup at h
  split at h
  · obtain ⟨content, rfl⟩ := exists_of_ofDeclaration h
    exact ⟨'!' :: content, rfl⟩
  · obtain ⟨content, rfl⟩ := exists_of_ofInstruction h
    exact ⟨'?' :: content, rfl⟩
  · split at h
    · next content _ hcut =>
      cases h
      exact ⟨'/' :: content, congrArg _ (eq_of_cutTag hcut)⟩
    · cases h
  · split at h
    · next content _ hcut =>
      cases h
      exact ⟨content, eq_of_cutTag hcut⟩
    · cases h

end Markup

/-! ### Lexemes -/

/-- A piece of a text is read as a token in front of what follows it. -/
inductive Lexeme : List Char → Token → List Char → Prop
  /-- What markup ends with is told by the reader. -/
  | markup (piece : List Char) {rest : List Char} {token : Token}
      (reads : Token.ofMarkup (piece ++ rest) = .ok (token, rest)) : Lexeme ('<' :: piece) token rest
  /-- A text run goes up to the next markup. -/
  | run (text : List Char) {rest : List Char} (some : text ≠ []) (plain : ∀ c ∈ text, c ≠ '<')
      (ends : EndsText rest) : Lexeme text (.text (strip isMarkupBlank text)) rest

/-- A token is markup. -/
def Token.IsMarkup (token : Token) : Prop := ∀ content, token ≠ .text content

namespace Lexeme

variable {piece rest other : List Char} {token : Token}

/-- A piece holds something. -/
theorem ne_nil (lexeme : Lexeme piece token rest) : piece ≠ [] := by
  cases lexeme with
  | markup => exact List.cons_ne_nil _ _
  | run _ some => exact some

/-- Reading takes a piece off the front of a text. -/
theorem ofText_append (lexeme : Lexeme piece token rest) :
    Tokens.ofText (piece ++ rest) = Tokens.push token (Tokens.ofText rest) := by
  cases lexeme with
  | markup _ reads => exact ofText_markup reads
  | run _ some plain ends => exact ofText_run some plain ends

/-- What follows a piece may be replaced, but a text run must end there as before. -/
theorem replace (lexeme : Lexeme piece token rest)
    (ends : (EndsText rest → EndsText other) ∨ token.IsMarkup) : Lexeme piece token other := by
  cases lexeme with
  | markup _ reads =>
    -- The piece is the one that is taken whatever follows it: both stand in front of the same rest.
    obtain ⟨found, hfound, takes⟩ := takes_ofMarkup reads
    obtain rfl := List.append_cancel_right hfound
    exact .markup _ (takes other)
  | run _ some plain before =>
    rcases ends with ends | markup
    · exact .run _ some plain (ends before)
    · exact absurd rfl (markup _)

/-- A piece ends with a greater-than sign unless it is a text run, which ends in front of markup. -/
theorem endsText_of_ne (lexeme : Lexeme piece token rest) (h : piece.getLast? ≠ some '>') :
    EndsText rest := by
  cases lexeme with
  | markup piece reads =>
    obtain ⟨content, hcontent⟩ := exists_of_ofMarkup reads
    have hpiece : piece = content ++ ['>'] := by
      apply List.append_cancel_right
      rw [hcontent, List.append_assoc, List.singleton_append]
    refine absurd ?_ h
    rw [hpiece, ← List.cons_append, List.getLast?_concat]
  | run _ _ _ ends => exact ends

end Lexeme

/-- A comment is a piece of its own, whatever stands in it but for its end. -/
theorem Lexeme.comment {content : List Char} (free : ¬ "-->".toList <:+: content)
    (rest : List Char) : Lexeme ("<!--".toList ++ content ++ "-->".toList) .aside rest := by
  have hcut : cut "-->".toList (content ++ "-->".toList ++ rest) = some (content, rest) :=
    cut_append (show '>' ∉ "--".toList by decide) free rest
  have hreads : Token.ofMarkup ("!--".toList ++ (content ++ "-->".toList) ++ rest) =
      .ok (.aside, rest) := by
    have hcomment : Token.ofMarkup ("!--".toList ++ (content ++ "-->".toList) ++ rest) =
        Token.ofComment (content ++ "-->".toList ++ rest) := rfl
    rw [hcomment, Token.ofComment, hcut]
  exact .markup _ hreads

/-- A section of character data is a piece of its own, whatever stands in it but for its end. -/
theorem Lexeme.cdata {content : List Char} (free : ¬ "]]>".toList <:+: content)
    (rest : List Char) :
    Lexeme ("<![CDATA[".toList ++ content ++ "]]>".toList) (.cdata content) rest := by
  have hcut : cut "]]>".toList (content ++ "]]>".toList ++ rest) = some (content, rest) :=
    cut_append (show '>' ∉ "]]".toList by decide) free rest
  have hreads : Token.ofMarkup ("![CDATA[".toList ++ (content ++ "]]>".toList) ++ rest) =
      .ok (.cdata content, rest) := by
    have hsection : Token.ofMarkup ("![CDATA[".toList ++ (content ++ "]]>".toList) ++ rest) =
        Token.ofSection ("CDATA[".toList ++ (content ++ "]]>".toList ++ rest)) := rfl
    rw [hsection, Token.ofSection, if_pos (List.isPrefixOf_iff_prefix.mpr (List.prefix_append ..))]
    have hdrop : ("CDATA[".toList ++ (content ++ "]]>".toList ++ rest)).drop 6 =
        content ++ "]]>".toList ++ rest := rfl
    rw [hdrop, hcut]
  exact .markup _ hreads

/-- Up to the first markup there is none. -/
theorem plain_takeWhile {text : List Char} : ∀ c ∈ text.takeWhile (· != '<'), c ≠ '<' :=
  fun c hc => bne_iff_ne.mp (List.all_eq_true.mp List.all_takeWhile c hc)

/-- What follows is the first markup, or nothing. -/
theorem endsText_dropWhile (text : List Char) : EndsText (text.dropWhile (· != '<')) := by
  cases hrest : text.dropWhile (· != '<') with
  | nil => exact .inl rfl
  | cons c rest =>
    have hc := List.head?_dropWhile_not (· != '<') text
    rw [hrest] at hc
    exact .inr (congrArg some (by simpa using hc))

/-- The first token of a text has a piece in front of what follows it. -/
theorem exists_lexeme {text : List Char} {token : Token} {tokens : List Token}
    (h : (Tokens.ofText text).tokens = token :: tokens) :
    ∃ piece rest, text = piece ++ rest ∧ Lexeme piece token rest ∧
      (Tokens.ofText rest).tokens = tokens := by
  cases text with
  | nil =>
    rw [Tokens.ofText] at h
    exact absurd h.symm (List.cons_ne_nil _ _)
  | cons c text =>
    rw [Tokens.ofText] at h
    by_cases hc : c = '<'
    · rw [if_pos hc] at h
      split at h
      · exact absurd h.symm (List.cons_ne_nil _ _)
      · next reads =>
        obtain ⟨rfl, htokens⟩ := List.cons.inj h
        obtain ⟨piece, rfl, takes⟩ := takes_ofMarkup reads
        exact ⟨'<' :: piece, _, by rw [hc, List.cons_append], .markup _ (takes _), htokens⟩
    · rw [if_neg hc] at h
      obtain ⟨rfl, htokens⟩ := List.cons.inj h
      refine ⟨c :: text.takeWhile (· != '<'), text.dropWhile (· != '<'), ?_, ?_, htokens⟩
      · rw [List.cons_append, List.takeWhile_append_dropWhile]
      · exact .run _ (List.cons_ne_nil _ _) (List.forall_mem_cons.mpr ⟨hc, plain_takeWhile⟩)
          (endsText_dropWhile text)

end Treble.Xml
