import Treble.Proofs.Vintf.Files
import Treble.Proofs.Vintf.ManifestScan

/-!
# Outcomes of scans

The scan of a manifest fails at a fault of the document, or before it at the start tag of a root named
`manifest`, of whose attributes the level cannot be read. The scan of a matrix fails at a fault of the
document only, and not if it is over before the fault. So whatever is no matrix is no manifest.

## Main definitions

* `Vintf.ManifestScan.FailsAt` — the level of a root cannot be read
* `Vintf.ManifestScan.FailsAtRoot` — the scan of a document fails at a root

## Main results

* `Vintf.ManifestScan.step_eq_error_iff`, `Vintf.ManifestScan.foldlM_eq_error_iff` — where a scan fails
* `Vintf.ManifestFacts.ofReading_eq_ok_iff`, `Vintf.ManifestFacts.ofReading_eq_error_iff`,
  `Vintf.MatrixFacts.ofReading_eq_ok_iff`, `Vintf.MatrixFacts.ofReading_eq_error_iff` — when a
  document gives facts, and why it does not
* `Vintf.parse_faults_agree` — a document that is no matrix is no manifest, for the same reason
-/

namespace Treble.Vintf

namespace ManifestScan

variable {scan : ManifestScan} {tag : Xml.Tag} {event : Xml.Event} {fault : Xml.Fault}

/-! ### Where a scan fails -/

/-- An event is the start tag of a root named `manifest`, of whose attributes the level cannot be
read. -/
def FailsAt (scan : ManifestScan) (event : Xml.Event) (fault : Xml.Fault) : Prop :=
  ∃ tag : Xml.Tag, (event = .opening tag ∨ event = .empty tag) ∧ tag.name = "manifest" ∧
    scan.opened = [] ∧ scan.targetLevel = none ∧ tag.attribute? "target-level" = .error fault

theorem levelAfter_eq_error_iff :
    scan.levelAfter tag = .error fault ↔
      tag.name = "manifest" ∧ scan.opened = [] ∧ scan.targetLevel = none ∧
        tag.attribute? "target-level" = .error fault := by
  rw [levelAfter]
  by_cases root : tag.name = "manifest" ∧ scan.opened = [] ∧ scan.targetLevel = none
  · rw [if_pos root]
    simp [root]
  · rw [if_neg root]
    constructor
    · intro h
      cases h
    · rintro ⟨name, outermost, noLevel, _⟩
      exact absurd ⟨name, outermost, noLevel⟩ root

theorem enter_eq_error_iff :
    scan.enter tag = .error fault ↔ scan.levelAfter tag = .error fault := by
  rw [enter]
  cases scan.levelAfter tag <;> simp [Except.map]

/-- A step fails at a root only. -/
theorem step_eq_error_iff : scan.step event = .error fault ↔ scan.FailsAt event fault := by
  cases event with
  | opening tag => simp [step, FailsAt, enter_eq_error_iff, levelAfter_eq_error_iff]
  | empty tag =>
    have hleave : (scan.enter tag).map leave = .error fault ↔ scan.enter tag = .error fault := by
      cases scan.enter tag <;> simp [Except.map]
    simp [step, FailsAt, hleave, enter_eq_error_iff, levelAfter_eq_error_iff]
  | closing name => simp [step, FailsAt]
  | text content => simp [step, FailsAt]

/-- A scan fails at the first event at which a step does. -/
theorem foldlM_eq_error_iff {events : List Xml.Event} :
    events.foldlM step scan = .error fault ↔
      ∃ before event rest reached, events = before ++ event :: rest ∧
        before.foldlM step scan = .ok reached ∧ reached.FailsAt event fault := by
  constructor
  · intro h
    induction events generalizing scan with
    | nil => cases h
    | cons event events ih =>
      cases hstep : scan.step event with
      | error cause =>
        rw [List.foldlM_cons, hstep] at h
        cases h
        exact ⟨[], event, events, scan, rfl, rfl, step_eq_error_iff.mp hstep⟩
      | ok next =>
        rw [foldlM_cons_of_ok hstep] at h
        obtain ⟨before, failing, rest, reached, rfl, hreached, fails⟩ := ih h
        exact ⟨event :: before, failing, rest, reached, rfl,
          (foldlM_cons_of_ok hstep before).trans hreached, fails⟩
  · rintro ⟨before, event, rest, reached, rfl, hreached, fails⟩
    rw [foldlM_append_of_ok hreached, List.foldlM_cons, step_eq_error_iff.mpr fails]
    rfl

/-- The scan of a document fails at the start tag of a root named `manifest`. -/
def FailsAtRoot (document : String) (fault : Xml.Fault) : Prop :=
  ∃ before event rest reached, (Xml.read document).events = before ++ event :: rest ∧
    before.foldlM step {} = .ok reached ∧ reached.FailsAt event fault

end ManifestScan

/-! ### When a document gives facts -/

namespace ManifestFacts

variable {reading : Xml.Reading} {facts : ManifestFacts} {fault : Xml.Fault}

/-- A manifest gives the facts of the scan behind all of it, which has no fault then. -/
theorem ofReading_eq_ok_iff :
    ofReading reading = .ok facts ↔ reading.fault = none ∧
      ∃ scan, reading.events.foldlM ManifestScan.step {} = .ok scan ∧ scan.facts = facts := by
  rw [ofReading]
  cases reading.events.foldlM ManifestScan.step {} with
  | error cause => simp [Except.bind]
  | ok scan => cases reading.fault <;> simp [Except.bind]

/-- A manifest gives no facts if the scan fails or there is a fault behind its events. -/
theorem ofReading_eq_error_iff :
    ofReading reading = .error fault ↔
      reading.events.foldlM ManifestScan.step {} = .error fault ∨
      reading.fault = some fault ∧
        ∃ scan, reading.events.foldlM ManifestScan.step {} = .ok scan := by
  rw [ofReading]
  cases reading.events.foldlM ManifestScan.step {} with
  | error cause => simp [Except.bind]
  | ok scan => cases reading.fault <;> simp [Except.bind]

theorem parse_eq_ok_iff {document : String} :
    parse document = .ok facts ↔ ofReading (Xml.read document) = .ok facts :=
  mapError_eq_ok_iff

theorem parse_eq_error_iff {document : String} {error : Error} :
    parse document = .error error ↔
      ∃ fault, ofReading (Xml.read document) = .error fault ∧
        error = .xml "<inline manifest>" fault.message none :=
  mapError_eq_error_iff

end ManifestFacts

namespace MatrixFacts

variable {reading : Xml.Reading} {facts : MatrixFacts} {fault : Xml.Fault}

/-- A matrix gives the facts of its scan, if there is no fault or the scan is over before it. -/
theorem ofReading_eq_ok_iff :
    ofReading reading = .ok facts ↔
      (reading.fault = none ∨ (reading.events.foldl MatrixScan.step {}).done = true) ∧
        (reading.events.foldl MatrixScan.step {}).facts = facts := by
  rw [ofReading]
  cases reading.fault <;> cases (reading.events.foldl MatrixScan.step {}).done <;> simp

/-- A matrix gives no facts if there is a fault and the scan is not over before it. -/
theorem ofReading_eq_error_iff :
    ofReading reading = .error fault ↔
      reading.fault = some fault ∧ (reading.events.foldl MatrixScan.step {}).done = false := by
  rw [ofReading]
  cases reading.fault <;> cases (reading.events.foldl MatrixScan.step {}).done <;> simp

theorem parse_eq_ok_iff {document : String} :
    parse document = .ok facts ↔ ofReading (Xml.read document) = .ok facts :=
  mapError_eq_ok_iff

theorem parse_eq_error_iff {document : String} {error : Error} :
    parse document = .error error ↔
      ∃ fault, ofReading (Xml.read document) = .error fault ∧
        error = .xml "<inline matrix>" fault.message none :=
  mapError_eq_error_iff

end MatrixFacts

/-! ### What is at fault for both -/

/-- Where a matrix gives no facts for a fault, a manifest gives none for the same fault, unless its scan
has failed at a root before. -/
theorem ofReading_eq_error_of_matrix {document : String} {fault : Xml.Fault}
    (h : MatrixFacts.ofReading (Xml.read document) = .error fault) :
    ManifestFacts.ofReading (Xml.read document) = .error fault ∨
      ∃ earlier, ManifestScan.FailsAtRoot document earlier ∧
        ManifestFacts.ofReading (Xml.read document) = .error earlier := by
  obtain ⟨hfault, -⟩ := MatrixFacts.ofReading_eq_error_iff.mp h
  cases hscan : (Xml.read document).events.foldlM ManifestScan.step {} with
  | error earlier =>
    refine .inr ⟨earlier, ManifestScan.foldlM_eq_error_iff.mp hscan, ?_⟩
    exact ManifestFacts.ofReading_eq_error_iff.mpr (.inl hscan)
  | ok scan => exact .inl (ManifestFacts.ofReading_eq_error_iff.mpr (.inr ⟨hfault, scan, hscan⟩))

/-- A document that is no matrix is no manifest either, and for the same reason unless the scan of the
manifest has failed at the attributes of a root before. So whatever is a manifest is a matrix. -/
theorem parse_faults_agree (document : String) :
    (∀ error, MatrixFacts.parse document = .error error →
      ∃ fault : Xml.Fault, error = .xml "<inline matrix>" fault.message none ∧
        (ManifestFacts.parse document = .error (.xml "<inline manifest>" fault.message none) ∨
          ∃ earlier, ManifestScan.FailsAtRoot document earlier ∧
            ManifestFacts.parse document =
              .error (.xml "<inline manifest>" earlier.message none))) ∧
    ∀ facts, ManifestFacts.parse document = .ok facts →
      ∃ others, MatrixFacts.parse document = .ok others := by
  constructor
  · intro error h
    obtain ⟨fault, hfault, rfl⟩ := MatrixFacts.parse_eq_error_iff.mp h
    refine ⟨fault, rfl, ?_⟩
    obtain same | ⟨earlier, fails, other⟩ := ofReading_eq_error_of_matrix hfault
    · exact .inl (ManifestFacts.parse_eq_error_iff.mpr ⟨fault, same, rfl⟩)
    · exact .inr ⟨earlier, fails, ManifestFacts.parse_eq_error_iff.mpr ⟨earlier, other, rfl⟩⟩
  · intro facts h
    rw [ManifestFacts.parse_eq_ok_iff] at h
    cases hmatrix : MatrixFacts.ofReading (Xml.read document) with
    | ok others => exact ⟨others, MatrixFacts.parse_eq_ok_iff.mpr hmatrix⟩
    | error fault =>
      -- A fault of the matrix would be one of the manifest.
      obtain same | ⟨_, _, other⟩ := ofReading_eq_error_of_matrix hmatrix
      · exact absurd (h.symm.trans same) (by simp)
      · exact absurd (h.symm.trans other) (by simp)

/-- A root that has no value for the level and is ended by another tag. -/
def brokenRoot : String := "<manifest target-level></other>"

/-- A root with a level, of which a matrix knows nothing. -/
def soundRoot : String := "<manifest target-level=\"4\"></manifest>"

/-- At the broken root the scan of the matrix fails at the end tag, the scan of the manifest at the start
tag already. The sound root is read as a manifest, and so as a matrix. -/
theorem parse_faults_agree_brokenRoot :
    (MatrixFacts.parse brokenRoot =
        .error (.xml "<inline matrix>" (Xml.Fault.closesOther "manifest" "other").message none) ∧
      ∃ earlier, ManifestScan.FailsAtRoot brokenRoot earlier ∧
        ManifestFacts.parse brokenRoot =
          .error (.xml "<inline manifest>" earlier.message none)) ∧
    ManifestFacts.parse soundRoot = .ok ⟨none, ∅, some "4"⟩ ∧
      ∃ others, MatrixFacts.parse soundRoot = .ok others := by
  have matrix : MatrixFacts.ofReading (Xml.read brokenRoot) =
      .error (.closesOther "manifest" "other") := by decide +kernel
  have manifest : ManifestFacts.ofReading (Xml.read brokenRoot) =
      .error (.attribute (.equals 21)) := by decide +kernel
  have sound : ManifestFacts.parse soundRoot = .ok ⟨none, ∅, some "4"⟩ := by decide +kernel
  have hmatrix := MatrixFacts.parse_eq_error_iff.mpr ⟨_, matrix, rfl⟩
  have hmanifest := ManifestFacts.parse_eq_error_iff.mpr ⟨_, manifest, rfl⟩
  refine ⟨?_, sound, (parse_faults_agree soundRoot).2 _ sound⟩
  obtain ⟨fault, hfault, same | earlier⟩ := (parse_faults_agree brokenRoot).1 _ hmatrix
  · have hmessages : (Xml.Fault.attribute (.equals 21)).message ≠
        (Xml.Fault.closesOther "manifest" "other").message := by decide
    have hfirst : (Xml.Fault.closesOther "manifest" "other").message = fault.message := by
      simpa using hfault
    have hsecond : (Xml.Fault.attribute (.equals 21)).message = fault.message := by
      simpa using hmanifest.symm.trans same
    exact absurd (hsecond.trans hfirst.symm) hmessages
  · exact ⟨hmatrix, earlier⟩

end Treble.Vintf
