import Treble.Proofs.Version.Best
import Treble.Proofs.Vintf.ManifestHals
import Treble.Proofs.Vintf.Outcomes
import Treble.Proofs.Xml.Passages

/-!
# Manifests that break off

A scan of a manifest never takes back what it has collected: the end of an element, a HAL in another
one and a second root add to the facts or leave them as they are. Elements that are still open at the
end are no fault. So a manifest that breaks off between two of its tokens is read, and it says nothing
that the whole manifest does not say.

## Main definitions

* `Vintf.ManifestScan.Grows` — a scan has kept all that another one has collected
* `Vintf.ManifestFacts.Below` — some facts say nothing that others do not say

## Main results

* `Vintf.ManifestScan.grows_step`, `Vintf.ManifestScan.grows_foldlM` — a step keeps what has been
  collected, and so does a scan
* `Vintf.ManifestFacts.parse_part` — the facts of a manifest that breaks off
-/

namespace Treble.Vintf

/-- Some facts say nothing that others do not say: the HALs are among theirs, the version is not
greater, and the level is the same. -/
structure ManifestFacts.Below (facts whole : ManifestFacts) : Prop where
  passthroughHals : ∀ hal ∈ facts.passthroughHals, hal ∈ whole.passthroughHals
  sepolicyVersion : ∀ version, facts.sepolicyVersion = some version →
    ∃ greater, whole.sepolicyVersion = some greater ∧ version ≤ greater
  targetLevel : ∀ level, facts.targetLevel = some level → whole.targetLevel = some level

namespace ManifestScan

variable {scan next final : ManifestScan} {event : Xml.Event}

/-- The second scan has kept all that the first one has collected. -/
structure Grows (scan next : ManifestScan) : Prop where
  passthroughHals : ∀ hal ∈ scan.passthroughHals, hal ∈ next.passthroughHals
  versions : ∀ text ∈ scan.versions, text ∈ next.versions
  targetLevel : ∀ level, scan.targetLevel = some level → next.targetLevel = some level

theorem Grows.refl (scan : ManifestScan) : Grows scan scan :=
  ⟨fun _ => id, fun _ => id, fun _ => id⟩

theorem Grows.trans (first : Grows scan next) (second : Grows next final) : Grows scan final where
  passthroughHals hal h := second.passthroughHals hal (first.passthroughHals hal h)
  versions text h := second.versions text (first.versions text h)
  targetLevel level h := second.targetLevel level (first.targetLevel level h)

/-! ### What a step keeps -/

theorem grows_leave (scan : ManifestScan) : Grows scan scan.leave := by
  cases hopened : scan.opened with
  | nil =>
    rw [leave_of_nil hopened]
    exact .refl scan
  | cons name outer =>
    refine ⟨fun hal h => ?_, fun text h => ?_, fun level h => ?_⟩
    · rw [passthroughHals_leave hopened]
      split
      · exact mem_collect_iff.mpr (.inl h)
      · exact h
    · rw [versions_leave hopened]
      split
      · exact List.mem_cons_of_mem _ h
      · exact h
    · rwa [targetLevel_leave hopened]

theorem grows_addText (scan : ManifestScan) (text : String) : Grows scan (scan.addText text) := by
  refine ⟨fun hal h => ?_, fun text h => ?_, fun level h => ?_⟩
  · rwa [passthroughHals_addText]
  · rwa [versions_addText]
  · rwa [targetLevel_addText]

/-- A level that is known is not read again. -/
theorem grows_enterInner {tag : Xml.Tag} {level : Option String}
    (h : scan.levelAfter tag = .ok level) :
    Grows scan ((scan.enterInner tag.name).atLevel level) := by
  refine ⟨fun _ => id, fun _ => id, fun known hknown => ?_⟩
  -- A second root does not set the level, whatever its attributes are.
  have hkept : scan.levelAfter tag = .ok scan.targetLevel :=
    if_neg fun root => Option.some_ne_none known (hknown.symm.trans root.2.2)
  rw [hkept] at h
  exact (Except.ok.inj h).symm.trans hknown

/-- A step keeps what has been collected. -/
theorem grows_step (h : scan.step event = .ok next) : Grows scan next := by
  obtain ⟨tag, level, rfl, hlevel, rfl⟩ | ⟨tag, level, rfl, hlevel, rfl⟩ | ⟨name, rfl, rfl⟩ |
    ⟨text, rfl, rfl⟩ := step_cases h
  · exact grows_enterInner hlevel
  · exact (grows_enterInner hlevel).trans (grows_leave _)
  · exact grows_leave scan
  · exact grows_addText scan _

/-- A scan keeps what has been collected. -/
theorem grows_foldlM {events : List Xml.Event} (h : events.foldlM step scan = .ok final) :
    Grows scan final :=
  foldlM_keeps (fun grows hstep => grows.trans (grows_step hstep)) (.refl scan) h

/-- The facts of a scan are below those of one that has kept all that it has collected. -/
theorem Grows.below (grows : Grows scan next) : scan.facts.Below next.facts where
  passthroughHals := grows.passthroughHals
  sepolicyVersion _ := Version.exists_le_best grows.versions
  targetLevel := grows.targetLevel

end ManifestScan

namespace ManifestFacts

/-- A manifest that breaks off between two of its tokens is read, and its facts are below those of the
whole. -/
theorem parse_part {document part : String} {tokens : List Xml.Token} {whole : ManifestFacts}
    (accepted : parse document = .ok whole) (begins : Xml.Begins document part tokens) :
    ∃ facts, parse part = .ok facts ∧ facts.Below whole := by
  rw [parse_eq_ok_iff, ofReading_eq_ok_iff] at accepted
  obtain ⟨faultless, final, hfinal, rfl⟩ := accepted
  obtain ⟨more, hmore⟩ := begins.events_prefix
  -- The scan of the whole goes through the state that the scan of the part ends in.
  rw [← hmore, ManifestScan.foldlM_append_eq_ok_iff] at hfinal
  obtain ⟨reached, hreached, hrest⟩ := hfinal
  refine ⟨reached.facts, ?_, (ManifestScan.grows_foldlM hrest).below⟩
  rw [parse_eq_ok_iff, ofReading_eq_ok_iff]
  exact ⟨begins.fault_eq_none faultless, reached, hreached, rfl⟩

/-- A manifest with two versions of the policy. -/
def twoVersions : String :=
  "<manifest target-level=\"4\"><sepolicy><version>30</version><version>31</version></sepolicy>" ++
    "</manifest>"

/-- The manifest up to the text of the second version, with three elements left open. -/
def oneVersion : String :=
  "<manifest target-level=\"4\"><sepolicy><version>30</version><version>31"

/-- A manifest that breaks off in a version says nothing of that version. -/
theorem parse_part_oneVersion :
    parse twoVersions = .ok ⟨some ⟨31, 0⟩, ∅, some "4"⟩ ∧
      Xml.Begins twoVersions oneVersion
        [.opening "manifest target-level=\"4\"".toList, .opening "sepolicy".toList,
          .opening "version".toList, .text "30".toList, .closing "version".toList,
          .opening "version".toList, .text "31".toList] ∧
      ∃ facts, parse oneVersion = .ok facts ∧ facts.Below ⟨some ⟨31, 0⟩, ∅, some "4"⟩ := by
  have accepted : parse twoVersions = .ok ⟨some ⟨31, 0⟩, ∅, some "4"⟩ := by decide +kernel
  have begins : Xml.Begins twoVersions oneVersion
      [.opening "manifest target-level=\"4\"".toList, .opening "sepolicy".toList,
        .opening "version".toList, .text "30".toList, .closing "version".toList,
        .opening "version".toList, .text "31".toList] := by
    refine ⟨"</version></sepolicy></manifest>", by decide, ?_⟩
    exact .token (.markup "manifest target-level=\"4\">".toList (by rfl))
      (.token (.markup "sepolicy>".toList (by rfl))
        (.token (.markup "version>".toList (by rfl))
          (.token (.run "30".toList (by decide) (by simp) (.inr rfl))
            (.token (.markup "/version>".toList (by rfl))
              (.token (.markup "version>".toList (by rfl))
                (.token (.run "31".toList (by decide) (by simp) (.inr rfl)) .done))))))
  exact ⟨accepted, begins, parse_part accepted begins⟩

end ManifestFacts

end Treble.Vintf
