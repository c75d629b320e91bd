import Mathlib.Data.List.Forall2
import Treble.Engine.Script
import Treble.Proofs.Detection.MatrixCheck

/-!
# What the engine is asked

The check puts the bundled matrices to the engine in their order, each with the policy version in it,
until a reply settles the question. So the requests that it makes, like its verdict, are told by the
replies up to the first one that is no mismatch.

## Main definitions

* `Detection.MatrixCheck.Asks` — a request asks about a matrix with a version in it
* `Detection.MatrixCheck.FailsAll` — no reply is a match, but none forbids a verdict either
* `Detection.MatrixCheck.Replays` — what the check asks, and what it makes of the replies

## Main results

* `Detection.MatrixCheck.run_recorded` — the requests that the check makes
* `Detection.MatrixCheck.replays` — the check asks and answers as the replies tell
-/

namespace Treble.Detection.MatrixCheck

open Vintf (FrameworkMatrix SplicedBefore)

variable {σ : Type} {check : MatrixCheck} {engine : Engine σ} {version : Version} {state : σ}

/-! ### The requests -/

theorem isNewer_iff :
    check.isNewer = true ↔ ∃ level, check.targetLevel = some level ∧ 7 < level.toInt := by
  unfold isNewer
  cases check.targetLevel with
  | none => simp
  | some level =>
    rw [decide_eq_true_iff]
    simp [FrameworkMatrix.maxLevel]

/-- A request asks about a matrix with a version in it: in front of the last end tag of the matrix stands
the version, in decimal, and all else is kept. The rest of the request says which device is meant. -/
structure Asks (check : MatrixCheck) (version : Version) (matrix : FrameworkMatrix)
    (request : Engine.Request) : Prop where
  matrix : ∃ place, SplicedBefore "</compatibility-matrix>".toList
    ("<sepolicy><kernel-sepolicy-version>0</kernel-sepolicy-version><sepolicy-version>" ++
      toString version.major.toNat ++ "." ++ toString version.minor.toNat ++
      "</sepolicy-version></sepolicy>").toList
    matrix.content.toList request.matrix.toList place
  root : request.root = check.root
  vendorSku : request.vendorSku = check.vendorSku
  hardwareSku : request.hardwareSku = check.hardwareSku

/-- Over matrices that take the version there is a request for each of them, in their order. -/
theorem forall₂_asks (matrices : List FrameworkMatrix)
    (h : ∀ matrix ∈ matrices, ∃ text, matrix.withSepolicy version = .ok text) :
    List.Forall₂ (check.Asks version) matrices (check.requestsFor version matrices) := by
  induction matrices with
  | nil => exact .nil
  | cons matrix rest ih =>
    obtain ⟨text, htext⟩ := h matrix (List.mem_cons_self ..)
    have hrest := ih fun other hother => h other (List.mem_cons_of_mem _ hother)
    have asks : check.Asks version matrix (check.request text) :=
      ⟨FrameworkMatrix.splicedBefore_withSepolicy htext, rfl, rfl, rfl⟩
    rw [requestsFor_cons htext]
    exact .cons asks hrest

/-- Over matrices that take the version, the requests up to the decisive reply are made, and keeping a
record of them changes nothing else. -/
theorem runOver_recorded (matrices : List FrameworkMatrix)
    (h : ∀ matrix ∈ matrices, ∃ text, matrix.withSepolicy version = .ok text) (state : σ)
    (calls : List Engine.Request) :
    check.runOver engine.recorded version matrices (state, calls) =
      ((check.runOver engine version matrices state).1,
        (check.runOver engine version matrices state).2,
        calls ++ engine.asked (check.requestsFor version matrices) state) := by
  induction matrices generalizing state calls with
  | nil => simp [runOver, requestsFor, Engine.asked]
  | cons matrix rest ih =>
    obtain ⟨text, htext⟩ := h matrix (List.mem_cons_self ..)
    have hrest := ih fun other hother => h other (List.mem_cons_of_mem _ hother)
    rw [requestsFor_cons htext]
    rcases hreply : engine.check (check.request text) state with ⟨error | outcome, next⟩
    · have hdecisive : Engine.isDecisive (engine.check (check.request text) state).1 = true := by
        rw [hreply]
        rfl
      simp only [runOver, htext, Engine.recorded, hreply]
      rw [Engine.asked_cons_of_isDecisive hdecisive]
    · cases hsettled : check.settledBy outcome with
      | none =>
        -- After a mismatch the next request is made, with one more call on record.
        obtain rfl := settledBy_eq_none_iff.mp hsettled
        have hnext := hrest next (calls ++ [check.request text])
        rw [Engine.asked_cons_of_mismatch hreply]
        simp only [runOver, htext, Engine.recorded, hreply, hsettled] at hnext ⊢
        rw [hnext, List.append_assoc]
        rfl
      | some verdict =>
        have hne : outcome ≠ .mismatch := by
          intro heq
          rw [settledBy_eq_none_iff.mpr heq] at hsettled
          cases hsettled
        have hdecisive : Engine.isDecisive (engine.check (check.request text) state).1 = true := by
          rw [hreply]
          exact Engine.isDecisive_ok_iff.mpr hne
        simp only [runOver, htext, Engine.recorded, hreply, hsettled]
        rw [Engine.asked_cons_of_isDecisive hdecisive]

/-- The check makes the requests up to the decisive reply. -/
theorem run_recorded (check : MatrixCheck) (engine : Engine σ) (version : Version) (state : σ)
    (calls : List Engine.Request) :
    check.run engine.recorded version (state, calls) =
      ((check.run engine version state).1, (check.run engine version state).2,
        calls ++ engine.asked (check.requests version) state) := by
  apply runOver_recorded
  intro matrix bundled
  exact FrameworkMatrix.exists_withSepolicy bundled version

/-! ### The verdict -/

/-- The decisive reply that no matrix is met: there is none, or the engine could not put the manifest of
the device together. -/
def FailsAll (reply : Option (Except Engine.Error Engine.Outcome)) : Prop :=
  reply = none ∨ reply = some (.ok .deviceManifestInvalid)

theorem rejection_eq_indeterminate_iff : check.rejection = .indeterminate ↔ check.isNewer = true := by
  unfold rejection
  cases check.isNewer <;> simp

theorem rejection_eq_incompatible_iff : check.rejection = .incompatible ↔ check.isNewer = false := by
  unfold rejection
  cases check.isNewer <;> simp

/-- The check decides nothing iff the decisive reply forbids a verdict, or the device fails all matrices
and aims at a newer level than these. -/
theorem fst_run_eq_indeterminate_iff :
    (check.run engine version state).1 = .ok .indeterminate ↔
      engine.decisiveReply (check.requests version) state = some (.ok .unavailable) ∨
      engine.decisiveReply (check.requests version) state = some (.ok .builtinMatrixInvalid) ∨
      check.isNewer = true ∧ FailsAll (engine.decisiveReply (check.requests version) state) := by
  rw [fst_run]
  have hmismatch := Engine.decisiveReply_ne_mismatch engine (check.requests version) state
  generalize engine.decisiveReply (check.requests version) state = reply at hmismatch ⊢
  rcases reply with _ | _ | outcome
  · simp [verdictOn, FailsAll, rejection_eq_indeterminate_iff]
  · simp [verdictOn, FailsAll]
  · cases outcome with
    | mismatch => exact absurd rfl hmismatch
    | _ => simp [verdictOn, FailsAll, settledBy, rejection_eq_indeterminate_iff]

/-- The check rejects a device iff it fails all matrices and aims at no newer level than these. -/
theorem fst_run_eq_incompatible_iff :
    (check.run engine version state).1 = .ok .incompatible ↔
      check.isNewer = false ∧ FailsAll (engine.decisiveReply (check.requests version) state) := by
  rw [fst_run]
  have hmismatch := Engine.decisiveReply_ne_mismatch engine (check.requests version) state
  generalize engine.decisiveReply (check.requests version) state = reply at hmismatch ⊢
  rcases reply with _ | _ | outcome
  · simp [verdictOn, FailsAll, rejection_eq_incompatible_iff]
  · simp [verdictOn, FailsAll]
  · cases outcome with
    | mismatch => exact absurd rfl hmismatch
    | _ => simp [verdictOn, FailsAll, settledBy, rejection_eq_incompatible_iff]

/-! ### The check as a whole -/

/-- What the check asks of an engine, and what it makes of the replies. -/
structure Replays (check : MatrixCheck) (engine : Engine σ) (version : Version) (state : σ) :
    Prop where
  /-- The matrices are tried in this order. -/
  order : FrameworkMatrix.bundled.map FrameworkMatrix.name =
    ["compatibility_matrix.legacy.xml", "compatibility_matrix.1.xml", "compatibility_matrix.2.xml",
      "compatibility_matrix.3.xml", "compatibility_matrix.4.xml", "compatibility_matrix.5.xml",
      "compatibility_matrix.6.xml", "compatibility_matrix.7.xml"]
  /-- Each of them takes the version, so that none is at fault. -/
  noFault : ∀ matrix ∈ FrameworkMatrix.bundled, ∀ error, matrix.withSepolicy version ≠ .error error
  /-- For each there is a request, which asks about it with the version in it. -/
  requests : List.Forall₂ (check.Asks version) FrameworkMatrix.bundled (check.requests version)
  /-- The requests up to the one with the decisive reply are made. -/
  calls : ∀ calls, (check.run engine.recorded version (state, calls)).2.2 =
    calls ++ (check.requests version).take
      ((engine.replies (check.requests version) state).findIdx Engine.isDecisive + 1)
  compatible : (check.run engine version state).1 = .ok .compatible ↔
    engine.decisiveReply (check.requests version) state = some (.ok .compatible)
  error : ∀ error, (check.run engine version state).1 = .error error ↔
    engine.decisiveReply (check.requests version) state = some (.error error)
  indeterminate : (check.run engine version state).1 = .ok .indeterminate ↔
    engine.decisiveReply (check.requests version) state = some (.ok .unavailable) ∨
    engine.decisiveReply (check.requests version) state = some (.ok .builtinMatrixInvalid) ∨
    (∃ level, check.targetLevel = some level ∧ 7 < level.toInt) ∧
      FailsAll (engine.decisiveReply (check.requests version) state)
  incompatible : (check.run engine version state).1 = .ok .incompatible ↔
    ¬ (∃ level, check.targetLevel = some level ∧ 7 < level.toInt) ∧
      FailsAll (engine.decisiveReply (check.requests version) state)
  /-- An engine that gives the same replies up to the decisive one has no influence by later ones. -/
  laterReplies : ∀ {τ : Type} (other : Engine τ) (otherState : τ),
    engine.heard (check.requests version) state <+:
        other.replies (check.requests version) otherState →
      (check.run other version otherState).1 = (check.run engine version state).1 ∧
      ∀ calls, (check.run other.recorded version (otherState, calls)).2.2 =
        (check.run engine.recorded version (state, calls)).2.2

/-- The check asks and answers as the replies tell, whatever they are. -/
theorem replays (check : MatrixCheck) (engine : Engine σ) (version : Version) (state : σ) :
    check.Replays engine version state := by
  constructor
  case order => rfl
  case noFault =>
    intro matrix bundled error
    obtain ⟨text, htext⟩ := FrameworkMatrix.exists_withSepolicy bundled version
    simp [htext]
  case requests =>
    apply forall₂_asks
    intro matrix bundled
    exact FrameworkMatrix.exists_withSepolicy bundled version
  case calls =>
    intro calls
    rw [run_recorded]
    rfl
  case compatible => exact fst_run_eq_compatible_iff
  case error => exact fun _ => fst_run_eq_error_iff
  case indeterminate =>
    rw [← isNewer_iff]
    exact fst_run_eq_indeterminate_iff
  case incompatible =>
    rw [← isNewer_iff, Bool.not_eq_true]
    exact fst_run_eq_incompatible_iff
  case laterReplies =>
    intro τ other otherState same
    obtain ⟨hreply, hasked⟩ := Engine.eq_of_heard same
    refine ⟨by rw [fst_run, fst_run, hreply], fun calls => ?_⟩
    rw [run_recorded, run_recorded, hasked]

/-- A device that aims at a level above the bundled ones. -/
def newerCheck : MatrixCheck :=
  { root := "/", vendorSku := "a", hardwareSku := "", targetLevel := some 8 }

/-- The third matrix accepts the device, so that three calls are made. Where no matrix accepts it, all
eight are asked about, and the device is found to be newer than these. -/
theorem replays_newerCheck :
    (newerCheck.run Engine.scripted ⟨30, 0⟩ [.status 0, .status 0, .status 1, .unavailable]).1 =
        .ok .compatible ∧
      (newerCheck.run Engine.scripted.recorded ⟨30, 0⟩
          ([.status 0, .status 0, .status 1, .unavailable], [])).2.2 =
        (newerCheck.requests ⟨30, 0⟩).take 3 ∧
    (newerCheck.run Engine.scripted ⟨30, 0⟩ []).1 = .ok .indeterminate ∧
      (newerCheck.run Engine.scripted.recorded ⟨30, 0⟩ ([], [])).2.2 =
        newerCheck.requests ⟨30, 0⟩ ∧
    (newerCheck.run Engine.scripted ⟨30, 0⟩ [.status 0, .failure .poisoned]).1 =
        .error .poisoned ∧
    List.Forall₂ (fun matrix request => request.vendorSku = "a" ∧ ∃ place,
        SplicedBefore "</compatibility-matrix>".toList
          ("<sepolicy><kernel-sepolicy-version>0</kernel-sepolicy-version>" ++
            "<sepolicy-version>30.0</sepolicy-version></sepolicy>").toList
          matrix.content.toList request.matrix.toList place)
      FrameworkMatrix.bundled (newerCheck.requests ⟨30, 0⟩) := by
  have accepted := newerCheck.replays Engine.scripted ⟨30, 0⟩
    [.status 0, .status 0, .status 1, .unavailable]
  have rejected := newerCheck.replays Engine.scripted ⟨30, 0⟩ []
  have failed := newerCheck.replays Engine.scripted ⟨30, 0⟩ [.status 0, .failure .poisoned]
  have asked := rejected.requests
  have length := length_requests newerCheck ⟨30, 0⟩
  rw [accepted.compatible, accepted.calls, rejected.indeterminate, rejected.calls, failed.error]
  generalize newerCheck.requests ⟨30, 0⟩ = requests at asked length ⊢
  have block :
      "<sepolicy><kernel-sepolicy-version>0</kernel-sepolicy-version><sepolicy-version>" ++
          toString (30 : UInt32).toNat ++ "." ++ toString (0 : UInt32).toNat ++
          "</sepolicy-version></sepolicy>" =
        "<sepolicy><kernel-sepolicy-version>0</kernel-sepolicy-version>" ++
          "<sepolicy-version>30.0</sepolicy-version></sepolicy>" := by decide
  have spliced := asked.imp fun matrix request asks =>
    And.intro asks.vendorSku (block ▸ asks.matrix)
  -- What the engine replies does not hang on the requests, of which only the number counts.
  match requests, length with
  | [_, _, _, _, _, _, _, _], _ =>
    exact ⟨rfl, rfl, .inr (.inr ⟨⟨8, rfl, by decide⟩, .inl rfl⟩), rfl, rfl, spliced⟩

end Treble.Detection.MatrixCheck
