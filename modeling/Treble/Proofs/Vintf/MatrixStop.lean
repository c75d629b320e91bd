import Treble.Proofs.Vintf.MatrixScan
import Treble.Proofs.Vintf.Outcomes
import Treble.Proofs.Xml.Passages

/-!
# Where the scan of a matrix stops

The scan of a matrix is over behind the tag at which a `vendor-ndk` element ends. What follows that tag
is not looked at: whatever stands there, and be it no XML, the facts are the same.

## Main definitions

* `Vintf.MatrixScan.behind` — the scan behind some tokens
* `Vintf.MatrixScan.StopsBehind` — the part of a document up to the tag that ends the scan

## Main results

* `Vintf.MatrixScan.endsBlock_of_done` — a scan is ended by the tag that ends a `vendor-ndk` element
* `Vintf.MatrixScan.exists_stopsBehind` — a scan that is over has been ended by a tag
* `Vintf.MatrixFacts.parse_append` — what follows that tag is not looked at
-/

namespace Treble.Vintf

namespace MatrixScan

variable {scan : MatrixScan} {name document seen : String} {tokens : List Xml.Token}

/-- The scan behind some tokens at the front of a document. -/
def behind (tokens : List Xml.Token) : MatrixScan :=
  (Xml.Reading.ofTokens none [] tokens).events.foldl step {}

/-- An event is the end of a `vendor-ndk` element. -/
def IsEndOfBlock (event : Xml.Event) : Prop :=
  event = .closing "vendor-ndk" ∨ ∃ tag, event = .empty tag ∧ tag.name = "vendor-ndk"

/-- A token is the tag at which a `vendor-ndk` element ends. -/
def EndsBlock (token : Xml.Token) : Prop := ∃ event, token.Tells event ∧ IsEndOfBlock event

/-- The scan of a document stops behind a part that the document begins with: the part ends with the tag
at which a `vendor-ndk` element ends, and with this tag, and not before, the scan is over. -/
def StopsBehind (document seen : String) : Prop :=
  ∃ tokens tag, Xml.Begins document seen (tokens ++ [tag]) ∧ EndsBlock tag ∧
    (behind tokens).done = false ∧ (behind (tokens ++ [tag])).done = true

/-! ### The tag that ends a scan -/

theorem eq_of_done_leave (going : scan.done = false) (stopped : (scan.leave name).done = true) :
    name = "vendor-ndk" := by
  unfold leave at stopped
  split_ifs at stopped with hversion hblock
  · exact absurd (going.symm.trans stopped) Bool.false_ne_true
  · exact hblock.2
  · exact absurd (going.symm.trans stopped) Bool.false_ne_true

theorem done_enter (scan : MatrixScan) (name : String) : (scan.enter name).done = scan.done := by
  unfold enter
  split_ifs <;> rfl

theorem done_addText (scan : MatrixScan) (text : String) :
    (scan.addText text).done = scan.done := by
  unfold addText
  split_ifs <;> rfl

/-- Only the end of a `vendor-ndk` element ends a scan. -/
theorem isEndOfBlock_of_done {event : Xml.Event} (going : scan.done = false)
    (stopped : (scan.step event).done = true) : IsEndOfBlock event := by
  cases event with
  | opening tag =>
    rw [step_opening going, done_enter, going] at stopped
    exact absurd stopped Bool.false_ne_true
  | empty tag =>
    simp only [step, going, Bool.false_eq_true, if_false] at stopped
    exact .inr ⟨tag, rfl, eq_of_done_leave ((done_enter ..).trans going) stopped⟩
  | closing name =>
    rw [step_closing going] at stopped
    exact .inl (congrArg _ (eq_of_done_leave going stopped))
  | text text =>
    rw [step_text going, done_addText, going] at stopped
    exact absurd stopped Bool.false_ne_true

/-- A token more is a step more at most. -/
theorem behind_concat (tokens : List Xml.Token) (tag : Xml.Token) :
    behind (tokens ++ [tag]) = behind tokens ∨
      ∃ event, tag.Tells event ∧ behind (tokens ++ [tag]) = (behind tokens).step event := by
  obtain ⟨_, hread⟩ | ⟨inner, hread⟩ := Xml.Reading.readsOn [] tokens
  · left
    rw [behind, hread, behind]
  · have hlast : behind (tokens ++ [tag]) =
        (Xml.Reading.ofTokens none inner [tag]).events.foldl step (behind tokens) := by
      rw [behind, hread]
      exact List.foldl_append
    obtain hnone | ⟨event, hevent, tells⟩ := Xml.Reading.events_singleton inner tag
    · left
      rw [hlast, hnone]
      rfl
    · refine .inr ⟨event, tells, ?_⟩
      rw [hlast, hevent]
      rfl

/-- The token with which a scan is over is the tag at which a `vendor-ndk` element ends. -/
theorem endsBlock_of_done {tag : Xml.Token} (going : (behind tokens).done = false)
    (stopped : (behind (tokens ++ [tag])).done = true) : EndsBlock tag := by
  obtain hsame | ⟨event, tells, hstep⟩ := behind_concat tokens tag
  · rw [hsame, going] at stopped
    exact absurd stopped Bool.false_ne_true
  · rw [hstep] at stopped
    exact ⟨event, tells, isEndOfBlock_of_done going stopped⟩

/-- A scan that is over is over with one of the tokens, and not before. -/
theorem exists_split (stopped : (behind tokens).done = true) :
    ∃ front tag rest, tokens = front ++ tag :: rest ∧ (behind front).done = false ∧
      (behind (front ++ [tag])).done = true := by
  -- By induction on the last token: either the scan is over before it, or it is the one.
  induction tokens using List.reverseRecOn with
  | nil => exact absurd stopped Bool.false_ne_true
  | append_singleton tokens last ih =>
    cases hbefore : (behind tokens).done with
    | true =>
      obtain ⟨front, tag, rest, rfl, going, ended⟩ := ih hbefore
      exact ⟨front, tag, rest ++ [last], by simp, going, ended⟩
    | false => exact ⟨tokens, last, [], rfl, hbefore, stopped⟩

/-- A scan that is over stops behind some part of the document. -/
theorem exists_stopsBehind
    (stopped : ((Xml.read document).events.foldl step {}).done = true) :
    ∃ seen, StopsBehind document seen := by
  rw [Xml.read, Xml.Reading.ofText, Xml.Reading.events_ofTokens] at stopped
  obtain ⟨front, tag, rest, hsplit, going, ended⟩ := exists_split stopped
  have hfirst : front ++ [tag] <+: (Xml.Tokens.ofText (Xml.dropMark document.toList)).tokens := by
    rw [hsplit]
    exact ⟨rest, by simp⟩
  obtain ⟨seen, begins⟩ := Xml.exists_begins hfirst
  exact ⟨seen, front, tag, begins, endsBlock_of_done going ended, going, ended⟩

/-! ### What follows it -/

theorem EndsBlock.isMarkup {tag : Xml.Token} (ends : EndsBlock tag) : tag.IsMarkup := by
  rintro content rfl
  obtain ⟨event, tells, ended⟩ := ends
  cases tells
  obtain h | ⟨_, h, _⟩ := ended <;> cases h

/-- Behind the tag with which a scan is over nothing is looked at. -/
theorem foldl_of_begins (begins : Xml.Begins document seen tokens)
    (stopped : (behind tokens).done = true) :
    (Xml.read document).events.foldl step {} = behind tokens := by
  obtain ⟨more, hmore⟩ := begins.events_prefix
  rw [← hmore, List.foldl_append, begins.read_part]
  exact foldl_of_done stopped more

end MatrixScan

namespace MatrixFacts

open MatrixScan (StopsBehind)

/-- If the scan of a document is over before the end, it stops behind the tag at which a `vendor-ndk`
element ends, and with anything else behind that tag the facts are the same. -/
theorem parse_append {document : String}
    (stopped : ((Xml.read document).events.foldl MatrixScan.step {}).done = true) :
    (∃ seen, StopsBehind document seen) ∧
      ∀ seen, StopsBehind document seen →
        ∃ facts, parse document = .ok facts ∧ ∀ following, parse (seen ++ following) = .ok facts := by
  refine ⟨MatrixScan.exists_stopsBehind stopped, ?_⟩
  rintro seen ⟨tokens, tag, begins, ends, -, ended⟩
  refine ⟨(MatrixScan.behind (tokens ++ [tag])).facts, ?_, fun following => ?_⟩
  · rw [parse_eq_ok_iff, ofReading_eq_ok_iff]
    exact ⟨.inr stopped, congrArg _ (MatrixScan.foldl_of_begins begins ended)⟩
  · -- The part ends with a tag, which is read without a look at what follows it.
    have again : Xml.Begins (seen ++ following) seen (tokens ++ [tag]) := by
      refine begins.append (fun token htoken => ?_) following
      rw [List.getLast?_concat] at htoken
      cases htoken
      exact ends.isMarkup
    have hscan := MatrixScan.foldl_of_begins again ended
    rw [parse_eq_ok_iff, ofReading_eq_ok_iff, hscan]
    exact ⟨.inr ended, rfl⟩

/-- A matrix with an element behind its block that is still open where the root ends. -/
def garbledMatrix : String := "<m><vendor-ndk><version>30</version></vendor-ndk><oops></m>"

/-- The matrix up to the end of its block. -/
def soundPart : String := "<m><vendor-ndk><version>30</version></vendor-ndk>"

/-- A matrix is read though it is no XML behind its block, and whatever stands there. -/
theorem parse_append_garbledMatrix :
    ((Xml.read garbledMatrix).events.foldl MatrixScan.step {}).done = true ∧
      StopsBehind garbledMatrix soundPart ∧
      ∃ facts, parse garbledMatrix = .ok facts ∧
        ∀ following, parse (soundPart ++ following) = .ok facts := by
  have stopped : ((Xml.read garbledMatrix).events.foldl MatrixScan.step {}).done = true := by decide +kernel
  have stops : StopsBehind garbledMatrix soundPart := by
    refine ⟨[.opening "m".toList, .opening "vendor-ndk".toList, .opening "version".toList,
      .text "30".toList, .closing "version".toList], .closing "vendor-ndk".toList,
      ⟨"<oops></m>", by decide, ?_⟩, ?_, by decide +kernel, by decide +kernel⟩
    · exact .token (.markup "m>".toList (by rfl))
        (.token (.markup "vendor-ndk>".toList (by rfl))
          (.token (.markup "version>".toList (by rfl))
            (.token (.run "30".toList (by decide) (by simp) (.inr rfl))
              (.token (.markup "/version>".toList (by rfl))
                (.token (.markup "/vendor-ndk>".toList (by rfl)) .done)))))
    · exact ⟨_, .closing _, .inl (by decide)⟩
  exact ⟨stopped, stops, (parse_append stopped).2 soundPart stops⟩

end MatrixFacts

end Treble.Vintf
