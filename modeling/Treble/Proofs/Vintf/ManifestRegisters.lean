import Mathlib.Data.List.Infix
import Treble.Proofs.Vintf.ManifestScan
import Treble.Proofs.Xml.OpenElements

/-!
# What a scan of a manifest holds

A scan collects the text of a version while a version of the policy is open, and the fields of a HAL
while a HAL is. Elsewhere it holds nothing of either, so that no element can leave anything to one
that is opened behind it.

## Main definitions

* `Vintf.ManifestScan.InPolicyVersion` — a version of the policy is open
* `Vintf.ManifestScan.Settled` — nothing is held of elements that are not open

## Main results

* `Vintf.ManifestScan.opened_foldlM` — the names that a scan holds behind some events
* `Vintf.ManifestScan.Settled.after`, `Vintf.ManifestScan.Settled.foldlM` — no content and no events
  change that
-/

namespace Treble.Vintf.ManifestScan

open Xml (Content Event)

/-- Among the open elements, the innermost first, is a version of the policy: it stands directly in a
`sepolicy` element. -/
def InPolicyVersion (opened : List String) : Prop := ["version", "sepolicy"] <:+: opened

instance (opened : List String) : Decidable (InPolicyVersion opened) :=
  inferInstanceAs (Decidable (_ <:+: _))

variable {scan next final : ManifestScan} {name : String} {outer : List String} {event : Event}
  {events : List Event}

/-- What the names of the open elements are is told by the events alone. -/
theorem opened_step (h : scan.step event = .ok next) :
    next.opened = event.openedAfter scan.opened := by
  obtain ⟨tag, level, rfl, -, rfl⟩ | ⟨tag, level, rfl, -, rfl⟩ | ⟨name, rfl, rfl⟩ | ⟨text, rfl, rfl⟩ :=
    step_cases h
  · rfl
  · exact opened_leave rfl
  · cases hopened : scan.opened with
    | nil => rw [leave_of_nil hopened, hopened]; rfl
    | cons name outer => exact opened_leave hopened
  · exact opened_addText _

theorem opened_foldlM (h : events.foldlM step scan = .ok final) :
    final.opened = events.foldl Event.openedAfter scan.opened := by
  induction events generalizing scan with
  | nil =>
    cases h
    rfl
  | cons event events ih =>
    obtain ⟨next, hnext, hfinal⟩ := foldlM_cons_eq_ok_iff.mp h
    rw [ih hfinal, opened_step hnext]
    rfl

theorem inPolicyVersion_cons_iff :
    InPolicyVersion (name :: outer) ↔
      name = "version" ∧ outer.head? = some "sepolicy" ∨ InPolicyVersion outer := by
  rw [InPolicyVersion, List.infix_cons_iff, List.cons_prefix_cons, @eq_comm _ "version"]
  apply or_congr_left
  apply and_congr_right
  intro _
  cases outer with
  | nil => simp
  | cons parent outer => simp [List.cons_prefix_cons, @eq_comm _ "sepolicy"]

theorem not_version_of_not_inPolicyVersion (h : ¬ InPolicyVersion scan.opened) (outer : List String) :
    scan.opened ≠ "version" :: "sepolicy" :: outer := by
  intro hopened
  rw [hopened] at h
  exact h (inPolicyVersion_cons_iff.mpr (.inl ⟨rfl, rfl⟩))

/-- Nothing is held of HALs and versions of the policy that are not open. -/
structure Settled (scan : ManifestScan) : Prop where
  hal : "hal" ∉ scan.opened → scan.hal = none
  versionText : ¬ InPolicyVersion scan.opened → scan.versionText = ""

namespace Settled

theorem addText (settled : scan.Settled) (text : String) : (scan.addText text).Settled where
  hal outside := by
    rw [opened_addText] at outside
    rw [hal_addText_of_ne (fun h => outside (List.mem_of_mem_tail (List.mem_of_head? h))),
      settled.hal outside]
  versionText outside := by
    rw [opened_addText] at outside
    rw [versionText_addText_of_ne (not_version_of_not_inPolicyVersion outside),
      settled.versionText outside]

theorem enterInner (settled : scan.Settled) (name : String) : (scan.enterInner name).Settled where
  hal outside := by
    rw [opened_enterInner, List.mem_cons, not_or] at outside
    rw [ManifestScan.enterInner, if_neg (Ne.symm outside.1), settled.hal outside.2]
  versionText outside := by
    rw [opened_enterInner, inPolicyVersion_cons_iff, not_or] at outside
    exact settled.versionText outside.2

theorem leave (settled : scan.Settled) (h : scan.opened = name :: outer) : scan.leave.Settled where
  hal outside := by
    rw [opened_leave h] at outside
    rw [hal_leave h]
    split
    · rfl
    · next hname =>
      refine settled.hal ?_
      rw [h, List.mem_cons, not_or]
      exact ⟨Ne.symm hname, outside⟩
  versionText outside := by
    rw [opened_leave h] at outside
    rw [versionText_leave h]
    split
    · rfl
    · next hversion =>
      refine settled.versionText ?_
      rw [h, inPolicyVersion_cons_iff, not_or]
      exact ⟨hversion, outside⟩

theorem atLevel (settled : scan.Settled) (level : Option String) : (scan.atLevel level).Settled :=
  ⟨settled.hal, settled.versionText⟩

/-- A step leaves a scan settled. -/
theorem step (settled : scan.Settled) (h : scan.step event = .ok next) : next.Settled := by
  obtain ⟨tag, level, rfl, -, rfl⟩ | ⟨tag, level, rfl, -, rfl⟩ | ⟨name, rfl, rfl⟩ | ⟨text, rfl, rfl⟩ :=
    step_cases h
  · exact (settled.enterInner tag.name).atLevel level
  · exact ((settled.enterInner tag.name).atLevel level).leave rfl
  · cases hopened : scan.opened with
    | nil => rwa [leave_of_nil hopened]
    | cons name outer => exact settled.leave hopened
  · exact settled.addText _

/-- Events leave a scan settled. -/
theorem foldlM (settled : scan.Settled) (h : events.foldlM ManifestScan.step scan = .ok final) :
    final.Settled :=
  foldlM_keeps Settled.step settled h

/-- A content leaves a scan settled. -/
theorem after (settled : scan.Settled) (content : Content) : (scan.after content).Settled := by
  induction content generalizing scan with
  | done => exact settled
  | text content following ih => exact ih (settled.addText _)
  | element name attributes children following ihChildren ihFollowing =>
    have hend := ihChildren (settled.enterInner name)
    exact ihFollowing (hend.leave opened_after_enterInner)

/-- Nothing is held in front of a root. -/
theorem start (name : String) (attributes : List (String × String)) :
    (ManifestScan.start name attributes).Settled :=
  ⟨fun _ => rfl, fun _ => rfl⟩

end Settled

end Treble.Vintf.ManifestScan
