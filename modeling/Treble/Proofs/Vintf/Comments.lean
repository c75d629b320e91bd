import Mathlib.Data.List.Basic
import Treble.Proofs.Text.Ascii
import Treble.Proofs.Vintf.Files
import Treble.Proofs.Vintf.Respelling

/-!
# Comments in files

A file can be cut between two of its tokens: one side of the cut is markup, so that there is a byte of
ASCII beside it, and the bytes on either side are decoded apart. So a comment that is put there is read
as one and nothing else, even if the bytes in it are no text, and what is read of the file is the same
as before.

## Main definitions

* `Vintf.IsCut` — a file is cut between two of its tokens, behind its first byte
* `Vintf.comment` — the bytes of a comment

## Main results

* `Vintf.IsCut.toList_decode` — the bytes on either side of a cut are decoded apart
* `Vintf.exists_isCut` — a file can be cut behind any of its tokens
* `Vintf.ofFile_comment` — with a comment at a cut, a manifest and a matrix have the same facts
-/

namespace Treble.Vintf

open Text
open Xml (EndsText Passage Reading Tokens)

/-! ### Cuts -/

/-- A file is cut behind its first byte, between two of its tokens: what stands in front of the cut is
read as some tokens. -/
structure IsCut (front back : List UInt8) : Prop where
  nonempty : front ≠ []
  between : ∃ tokens, Passage (Xml.dropMark (decode front).toList) tokens (Utf8.lossy back)

variable {front back : List UInt8} {tokens : List Xml.Token}

theorem getLast?_dropMark {text : List Char} {c : Char} (h : text.getLast? = some c)
    (hc : c ≠ Xml.byteOrderMark) : (Xml.dropMark text).getLast? = some c := by
  cases text with
  | nil => cases h
  | cons d text =>
    rw [Xml.dropMark]
    split
    · next hd =>
      cases text with
      | nil => exact absurd (hd.symm.trans (Option.some.inj h)) hc.symm
      | cons e text => rwa [List.getLast?_cons_cons] at h
    · exact h

/-- The bytes on either side of a boundary between tokens are read apart. -/
theorem lossy_append_of_passage
    (read : Passage (Xml.dropMark (Utf8.lossy front)) tokens (Utf8.lossy back)) :
    Utf8.lossy (front ++ back) = Utf8.lossy front ++ Utf8.lossy back := by
  by_cases hgap : replacement ∈ (Utf8.lossy front).getLast?
  · -- What stands in front could go on behind the boundary, but a text run ends there.
    have hlast := getLast?_dropMark hgap (by decide)
    refine Utf8.lossy_append_of_head? fun c hc => ?_
    rcases read.endsText_of_getLast? hlast (by decide) with h | h
    · rw [h] at hc
      cases hc
    · rw [h] at hc
      cases hc
      decide
  · exact Utf8.lossy_append hgap back

theorem decode_marked (bytes : List UInt8) :
    decode (0xEF :: 0xBB :: 0xBF :: bytes) = String.ofList (Utf8.lossy bytes) := rfl

theorem decode_unmarked {bytes : List UInt8} (unwide : ¬ [0xFF, 0xFE] <+: bytes)
    (unmarked : ¬ [0xEF, 0xBB, 0xBF] <+: bytes) :
    decode bytes = String.ofList (Utf8.lossy bytes) := by
  unfold decode
  split
  · exact absurd ⟨_, rfl⟩ unwide
  · exact absurd ⟨_, rfl⟩ unmarked
  · rfl

/-- A mark is not cut: its first bytes would be no text, and so would be what follows them. -/
theorem IsCut.unmarked (cut : IsCut front back) (unwide : ¬ [0xFF, 0xFE] <+: front)
    (unmarked : ¬ [0xEF, 0xBB, 0xBF] <+: front) : ¬ [0xEF, 0xBB, 0xBF] <+: front ++ back := by
  rintro ⟨rest, hrest⟩
  obtain ⟨tokens, read⟩ := cut.between
  rw [decode_unmarked unwide unmarked, String.toList_ofList] at read
  have hgap (b : UInt8) (hb : b = 0xBB ∨ b = 0xBF) (after : List UInt8) :
      ¬ EndsText (Utf8.lossy (b :: after)) := by
    have hlossy : Utf8.lossy (b :: after) = replacement :: Utf8.lossy after := by
      rcases hb with rfl | rfl <;> rfl
    rw [hlossy]
    rintro (h | h)
    · cases h
    · exact absurd (Option.some.inj h) (by decide)
  rcases front with _ | ⟨a, _ | ⟨b, _ | ⟨c, front⟩⟩⟩
  · exact cut.nonempty rfl
  · simp only [List.cons_append, List.nil_append, List.cons.injEq] at hrest
    obtain ⟨rfl, rfl⟩ := hrest
    exact hgap _ (.inl rfl) _ (read.endsText_of_getLast? (c := replacement) rfl (by decide))
  · simp only [List.cons_append, List.nil_append, List.cons.injEq] at hrest
    obtain ⟨rfl, rfl, rfl⟩ := hrest
    exact hgap _ (.inr rfl) _ (read.endsText_of_getLast? (c := replacement) rfl (by decide))
  · simp only [List.cons_append, List.nil_append, List.cons.injEq] at hrest
    obtain ⟨rfl, rfl, rfl, -⟩ := hrest
    exact unmarked ⟨front, rfl⟩

/-- The bytes on either side of a cut are decoded apart. -/
theorem IsCut.toList_decode (cut : IsCut front back) (unwide : ¬ [0xFF, 0xFE] <+: front ++ back) :
    (decode (front ++ back)).toList = (decode front).toList ++ Utf8.lossy back := by
  have hfront : ¬ [0xFF, 0xFE] <+: front := fun h => unwide (h.trans (List.prefix_append ..))
  obtain ⟨tokens, read⟩ := cut.between
  by_cases hmark : [0xEF, 0xBB, 0xBF] <+: front
  · obtain ⟨rest, rfl⟩ := hmark
    simp only [List.cons_append, List.nil_append, decode_marked, String.toList_ofList] at read ⊢
    exact lossy_append_of_passage read
  · rw [decode_unmarked hfront hmark, String.toList_ofList] at read ⊢
    rw [decode_unmarked unwide (cut.unmarked hfront hmark), String.toList_ofList]
    exact lossy_append_of_passage read

/-- A part of the text of a file whose end can be told from the bytes comes from a part of the file. -/
theorem exists_decode_eq {bytes : List UInt8} (unwide : ¬ [0xFF, 0xFE] <+: bytes)
    {text rest : List Char}
    (ascii : (∀ c ∈ text.getLast?, c.toNat < 0x80) ∨ ∀ c ∈ rest.head?, c.toNat < 0x80)
    (h : (decode bytes).toList = text ++ rest) :
    ∃ front back, bytes = front ++ back ∧ (decode front).toList = text ∧
      Utf8.lossy back = rest := by
  by_cases hmark : [0xEF, 0xBB, 0xBF] <+: bytes
  · obtain ⟨behind, rfl⟩ := hmark
    simp only [List.cons_append, List.nil_append, decode_marked, String.toList_ofList] at h
    obtain ⟨front, back, rfl, rfl, rfl⟩ := Utf8.exists_of_lossy_eq_append ascii h
    exact ⟨0xEF :: 0xBB :: 0xBF :: front, back, rfl, by rw [decode_marked, String.toList_ofList],
      rfl⟩
  · rw [decode_unmarked unwide hmark, String.toList_ofList] at h
    obtain ⟨front, back, rfl, rfl, rfl⟩ := Utf8.exists_of_lossy_eq_append ascii h
    refine ⟨front, back, rfl, ?_, rfl⟩
    rw [decode_unmarked (fun h => unwide (h.trans (List.prefix_append ..)))
      (fun h => hmark (h.trans (List.prefix_append ..))), String.toList_ofList]

/-- A file can be cut behind any of its tokens. -/
theorem exists_isCut {bytes : List UInt8} (unwide : ¬ [0xFF, 0xFE] <+: bytes) (some : tokens ≠ [])
    (first : tokens <+: (Tokens.ofText (Xml.dropMark (decode bytes).toList)).tokens) :
    ∃ front back, bytes = front ++ back ∧ IsCut front back ∧
      Passage (Xml.dropMark (decode front).toList) tokens (Utf8.lossy back) := by
  obtain ⟨passage, rest, hsplit, read⟩ := Xml.exists_passage first
  obtain ⟨mark, hmark, hdrop⟩ := Xml.exists_mark (decode bytes).toList
  have hpassage : Xml.dropMark (mark ++ passage) = passage :=
    hdrop passage (hsplit ▸ List.prefix_append ..)
  have hne : passage ≠ [] := fun h => some (read.eq_nil h)
  -- The last token is markup, or a text run in front of markup or of the end.
  have ascii : (∀ c ∈ (mark ++ passage).getLast?, c.toNat < 0x80) ∨
      ∀ c ∈ rest.head?, c.toNat < 0x80 := by
    obtain ⟨c, hc⟩ := Option.isSome_iff_exists.mp (List.getLast?_isSome.mpr hne)
    have hlast : (mark ++ passage).getLast? = Option.some c := by
      rw [List.getLast?_append, hc, Option.some_or]
    by_cases hgreater : c = '>'
    · left
      rw [hlast, hgreater]
      rintro _ ⟨⟩
      decide
    · right
      rcases read.endsText_of_getLast? hc hgreater with rfl | hrest
      · rintro _ ⟨⟩
      · rw [hrest]
        rintro _ ⟨⟩
        decide
  rw [hsplit, ← List.append_assoc] at hmark
  obtain ⟨front, back, rfl, hfront, rfl⟩ := exists_decode_eq unwide ascii hmark
  have hread : Passage (Xml.dropMark (decode front).toList) tokens (Utf8.lossy back) := by
    rwa [hfront, hpassage]
  refine ⟨front, back, rfl, ⟨?_, tokens, hread⟩, hread⟩
  rintro rfl
  exact some (hread.eq_nil rfl)

/-! ### Comments -/

/-- The bytes of a comment. -/
def comment (inside : List UInt8) : List UInt8 :=
  Utf8.encode "<!--".toList ++ (inside ++ Utf8.encode "-->".toList)

/-- A comment is decoded apart from what stands around it, whatever bytes it holds. -/
theorem lossy_comment_append (inside back : List UInt8) :
    Utf8.lossy (comment inside ++ back) =
      ("<!--".toList ++ Utf8.lossy inside ++ "-->".toList) ++ Utf8.lossy back := by
  have hend : Utf8.lossy (Utf8.encode "-->".toList ++ back) = "-->".toList ++ Utf8.lossy back :=
    Utf8.lossy_encode_append ..
  have hinside : Utf8.lossy (inside ++ (Utf8.encode "-->".toList ++ back)) =
      Utf8.lossy inside ++ ("-->".toList ++ Utf8.lossy back) := by
    rw [Utf8.lossy_append_of_head?, hend]
    rw [hend]
    rintro c ⟨⟩
    decide
  rw [comment, List.append_assoc, List.append_assoc, Utf8.lossy_encode_append, hinside]
  simp only [List.append_assoc]

variable {inside : List UInt8}

/-- A comment is a piece of its own if its end is not within it. -/
theorem lexeme_comment (free : ¬ Utf8.encode "-->".toList <:+: inside) (rest : List Char) :
    Xml.Lexeme ("<!--".toList ++ Utf8.lossy inside ++ "-->".toList) .aside rest :=
  .comment (fun h => free (Utf8.encode_infix_of_infix_lossy (by simp) h)) rest

/-- In front of a comment a file can be cut as in front of what follows the comment. -/
theorem IsCut.insert (cut : IsCut front back) (inside : List UInt8) :
    IsCut front (comment inside ++ back) where
  nonempty := cut.nonempty
  between := by
    obtain ⟨tokens, read⟩ := cut.between
    rw [lossy_comment_append]
    exact ⟨tokens, read.replace (.inl (.inr rfl))⟩

/-- With a comment in it a file has no other mark than before. -/
theorem IsCut.not_wide (cut : IsCut front back) (unwide : ¬ [0xFF, 0xFE] <+: front ++ back) :
    ¬ [0xFF, 0xFE] <+: front ++ (comment inside ++ back) := by
  rcases front with _ | ⟨a, _ | ⟨b, front⟩⟩
  · exact absurd rfl cut.nonempty
  · rintro ⟨rest, hrest⟩
    cases hrest
  · rintro ⟨rest, hrest⟩
    cases hrest
    exact unwide ⟨front ++ back, rfl⟩

/-! ### What is read -/

/-- A piece behind a passage of which a reader is not told may be there or not. -/
theorem ofText_append_aside {passage piece rest : List Char}
    (read : Passage passage tokens rest) (aside : Xml.Lexeme piece .aside rest)
    (ends : EndsText (piece ++ rest)) :
    Reading.ofText [] (passage ++ (piece ++ rest)) = Reading.ofText [] (passage ++ rest) := by
  have read' : Passage passage tokens (piece ++ rest) := read.replace (.inl ends)
  obtain ⟨fault, hread⟩ | ⟨inner, hread⟩ := Reading.ofText_append_of_passage [] tokens
  · rw [hread _ _ read, hread _ _ read']
  · rw [hread _ _ read, hread _ _ read', Reading.ofText_append_of_lexeme aside, Reading.ofTokens,
      Reading.ofText]

/-- A mark in front of a document that is read may be taken for a text of it. -/
theorem IgnoresSpelling.ofText_eq_ok {α : Type} {result : Reading → Except Xml.Fault α}
    (ignores : IgnoresSpelling result)
    (faulty : ∀ fault, result ⟨[], some fault⟩ = .error fault) {text : List Char} {facts : α}
    (h : result (Reading.ofText [] (Xml.dropMark text)) = .ok facts) :
    result (Reading.ofText [] text) = .ok facts := by
  have hsplit : text = text.takeWhile (· != '<') ++ text.dropWhile (· != '<') :=
    List.takeWhile_append_dropWhile.symm
  have hplain : ∀ c ∈ text.takeWhile (· != '<'), c ≠ '<' := Xml.plain_takeWhile
  have hends := Xml.endsText_dropWhile text
  generalize text.takeWhile (· != '<') = run at hsplit hplain
  generalize text.dropWhile (· != '<') = after at hsplit hends
  subst hsplit
  by_cases spells : ∃ chars, Xml.Spells run chars
  · by_cases hrun : run = []
    · -- Markup is no mark.
      subst hrun
      rcases hends with rfl | hends
      · exact h
      · obtain ⟨rest, rfl⟩ := List.head?_eq_some_iff.mp hends
        exact h
    · obtain ⟨chars, spells⟩ := spells
      have writes : Xml.Writes run chars := .run hrun hplain spells
      obtain ⟨told, hread⟩ := Xml.ofText_append_of_writes writes hends
      rw [hread, ignores.outside, ← h]
      obtain hdrop | ⟨told, hdrop⟩ := Xml.ofText_dropMark_append writes hends
      · rw [hdrop]
      · rw [hdrop, ignores.outside]
  · obtain ⟨fault, hread⟩ :=
      Xml.ofText_dropMark_of_not_spells hplain hends (not_exists.mp spells)
    rw [hread, faulty] at h
    cases h

/-- With a comment at a cut of a file that is read, such a result is the same. -/
theorem IgnoresSpelling.read_comment {α : Type} {result : Reading → Except Xml.Fault α}
    (ignores : IgnoresSpelling result)
    (faulty : ∀ fault, result ⟨[], some fault⟩ = .error fault) (cut : IsCut front back)
    (unwide : ¬ [0xFF, 0xFE] <+: front ++ back) (free : ¬ Utf8.encode "-->".toList <:+: inside)
    {facts : α} (h : result (Xml.read (decode (front ++ back))) = .ok facts) :
    result (Xml.read (decode (front ++ (comment inside ++ back)))) = .ok facts := by
  obtain ⟨tokens, read⟩ := cut.between
  have aside := lexeme_comment free (Utf8.lossy back)
  have hread := ofText_append_aside read aside (.inr rfl)
  rw [Xml.read, cut.toList_decode unwide] at h
  rw [Xml.read, (cut.insert inside).toList_decode (cut.not_wide unwide), lossy_comment_append]
  by_cases hfront : (decode front).toList = []
  · -- In front of the comment nothing is left but a mark, so that another one behind it is a text now.
    rw [hfront] at h hread ⊢
    exact hread ▸ ignores.ofText_eq_ok faulty h
  · rw [Xml.dropMark_append hfront] at h ⊢
    rwa [hread]

/-! ### Files -/

/-- With a comment between two tokens of a file, whatever bytes are in it, a manifest that is read has
the same facts as before, and so has a matrix. -/
theorem ofFile_comment {files commented : FileSystem} {path : String} (cut : IsCut front back)
    (original : files.read path = .ok (front ++ back))
    (inserted : commented.read path = .ok (front ++ (comment inside ++ back)))
    (unwide : ¬ [0xFF, 0xFE] <+: front ++ back)
    (free : ¬ Utf8.encode "-->".toList <:+: inside) :
    (∀ facts, ManifestFacts.ofFile files path = .ok facts →
      ManifestFacts.ofFile commented path = .ok facts) ∧
    ∀ facts, MatrixFacts.ofFile files path = .ok facts →
      MatrixFacts.ofFile commented path = .ok facts := by
  constructor
  · intro facts h
    obtain ⟨bytes, hbytes, hfacts⟩ := ManifestFacts.ofFile_eq_ok_iff.mp h
    obtain rfl := Except.ok.inj (original.symm.trans hbytes)
    exact ManifestFacts.ofFile_eq_ok_iff.mpr ⟨_, inserted,
      ManifestFacts.ignoresSpelling.read_comment (fun _ => rfl) cut unwide free hfacts⟩
  · intro facts h
    obtain ⟨bytes, hbytes, hfacts⟩ := MatrixFacts.ofFile_eq_ok_iff.mp h
    obtain rfl := Except.ok.inj (original.symm.trans hbytes)
    exact MatrixFacts.ofFile_eq_ok_iff.mpr ⟨_, inserted,
      MatrixFacts.ignoresSpelling.read_comment (fun _ => rfl) cut unwide free hfacts⟩

/-- The only file there is. -/
def onlyFile (bytes : List UInt8) : FileSystem := fun _ => .ok (.file (.ok bytes))

/-- A file up to the text of a version, and the rest of it. -/
def versionFront : List UInt8 := Utf8.encode "<manifest><sepolicy><version>27.0".toList

def versionBack : List UInt8 := Utf8.encode "</version></sepolicy></manifest>".toList

/-- Bytes that are no text, between others that could be taken for the end of a comment. -/
def awkwardBytes : List UInt8 := [0x3E, 0x2D, 0x3E, 0xE2, 0x82, 0x2D]

theorem ofFile_comment_awkwardBytes :
    ManifestFacts.ofFile (onlyFile (versionFront ++ versionBack)) "manifest.xml" =
        .ok ⟨some ⟨27, 0⟩, ∅, none⟩ ∧
      ManifestFacts.ofFile (onlyFile (versionFront ++ (comment awkwardBytes ++ versionBack)))
        "manifest.xml" = .ok ⟨some ⟨27, 0⟩, ∅, none⟩ := by
  have hfront : Xml.dropMark (decode versionFront).toList =
      "<manifest><sepolicy><version>27.0".toList := by decide +kernel
  have hback : Utf8.lossy versionBack = "</version></sepolicy></manifest>".toList :=
    Utf8.lossy_encode _
  have cut : IsCut versionFront versionBack := by
    refine ⟨by decide +kernel, [.opening "manifest".toList, .opening "sepolicy".toList,
      .opening "version".toList, .text "27.0".toList], ?_⟩
    rw [hfront, hback]
    exact .token (.markup "manifest>".toList (by rfl))
      (.token (.markup "sepolicy>".toList (by rfl))
        (.token (.markup "version>".toList (by rfl))
          (.token (.run "27.0".toList (by decide) (by simp) (.inr rfl)) .done)))
  have facts : ManifestFacts.ofFile (onlyFile (versionFront ++ versionBack)) "manifest.xml" =
      .ok ⟨some ⟨27, 0⟩, ∅, none⟩ := by decide +kernel
  exact ⟨facts, (ofFile_comment cut rfl rfl (by decide +kernel) (by decide +kernel)).1 _ facts⟩

end Treble.Vintf
