import Treble.Detection.MatrixCheck
import Treble.Proofs.Engine.Replies
import Treble.Proofs.Vintf.Framework

/-!
# What the check against the framework matrices comes to

The check asks the engine about one bundled matrix after the other. Every bundled matrix takes the
policy version, so there is a request for each of them, and what the check comes to hangs on the
first reply that is no mismatch and on nothing else.

## Main definitions

* `Detection.MatrixCheck.requests` — the requests for the bundled matrices
* `Detection.MatrixCheck.verdictOn` — what a decisive reply, or none, means

## Main results

* `Detection.MatrixCheck.fst_run` — the check comes to what the decisive reply means
* `Detection.MatrixCheck.fst_run_eq_error_iff`, `fst_run_eq_compatible_iff` — when the engine is at
  fault, and when it accepts the device
-/

namespace Treble.Detection.MatrixCheck

open Vintf (FrameworkMatrix)

variable {σ : Type} {check : MatrixCheck} {engine : Engine σ} {version : Version} {state : σ}

/-- The requests for the matrices of a list that take a version. -/
def requestsFor (check : MatrixCheck) (version : Version) (matrices : List FrameworkMatrix) :
    List Engine.Request :=
  matrices.filterMap fun matrix => (matrix.withSepolicy version).toOption.map check.request

/-- The requests for the bundled matrices, each with the version in it. -/
def requests (check : MatrixCheck) (version : Version) : List Engine.Request :=
  check.requestsFor version FrameworkMatrix.bundled

/-- What the check comes to with a decisive reply, or with none. -/
def verdictOn (check : MatrixCheck) :
    Option (Except Engine.Error Engine.Outcome) → Except Engine.Error MatrixVerdict
  | none => .ok check.rejection
  | some (.error error) => .error error
  | some (.ok outcome) => .ok ((check.settledBy outcome).getD check.rejection)

theorem settledBy_eq_none_iff {outcome : Engine.Outcome} :
    check.settledBy outcome = none ↔ outcome = .mismatch := by
  cases outcome <;> simp [settledBy]

theorem rejection_ne_compatible : check.rejection ≠ .compatible := by
  unfold rejection
  split <;> simp

theorem requestsFor_cons {matrix : FrameworkMatrix} {text : String}
    (htext : matrix.withSepolicy version = .ok text) (rest : List FrameworkMatrix) :
    check.requestsFor version (matrix :: rest) =
      check.request text :: check.requestsFor version rest := by
  simp [requestsFor, htext, Except.toOption]

theorem length_requestsFor (matrices : List FrameworkMatrix)
    (h : ∀ matrix ∈ matrices, ∃ text, matrix.withSepolicy version = .ok text) :
    (check.requestsFor version matrices).length = matrices.length := by
  induction matrices with
  | nil => rfl
  | cons matrix rest ih =>
    obtain ⟨text, htext⟩ := h matrix (List.mem_cons_self ..)
    rw [requestsFor_cons htext, List.length_cons, List.length_cons,
      ih fun other hother => h other (List.mem_cons_of_mem _ hother)]

/-- There is one request for each of the eight bundled matrices. -/
theorem length_requests (check : MatrixCheck) (version : Version) :
    (check.requests version).length = 8 := by
  apply length_requestsFor
  intro matrix bundled
  exact FrameworkMatrix.exists_withSepolicy bundled version

/-- Over matrices that take the version, the check comes to what the decisive reply means. -/
theorem fst_runOver (matrices : List FrameworkMatrix)
    (h : ∀ matrix ∈ matrices, ∃ text, matrix.withSepolicy version = .ok text) (state : σ) :
    (check.runOver engine version matrices state).1 =
      check.verdictOn (engine.decisiveReply (check.requestsFor version matrices) state) := by
  induction matrices generalizing state with
  | nil => rfl
  | cons matrix rest ih =>
    obtain ⟨text, htext⟩ := h matrix (List.mem_cons_self ..)
    have hrest := ih fun other hother => h other (List.mem_cons_of_mem _ hother)
    rw [requestsFor_cons htext]
    simp only [runOver, htext]
    -- An error ends the check, and so does every outcome but a mismatch. After a mismatch the engine
    -- is in another state, which is why the state is free in the induction.
    rcases hreply : engine.check (check.request text) state with ⟨error | outcome, next⟩
    · rw [Engine.decisiveReply_cons_of_isDecisive (by simp [hreply]), hreply]
      rfl
    · cases hsettled : check.settledBy outcome with
      | none =>
        obtain rfl := settledBy_eq_none_iff.mp hsettled
        rw [Engine.decisiveReply_cons_of_mismatch hreply]
        exact hrest next
      | some verdict =>
        have hne : outcome ≠ .mismatch := by
          intro heq
          rw [settledBy_eq_none_iff.mpr heq] at hsettled
          cases hsettled
        have hdecisive : Engine.isDecisive (engine.check (check.request text) state).1 = true := by
          rw [hreply]
          exact Engine.isDecisive_ok_iff.mpr hne
        rw [Engine.decisiveReply_cons_of_isDecisive hdecisive, hreply]
        simp [verdictOn, hsettled]

/-- The check comes to what the decisive reply means. -/
theorem fst_run (check : MatrixCheck) (engine : Engine σ) (version : Version) (state : σ) :
    (check.run engine version state).1 =
      check.verdictOn (engine.decisiveReply (check.requests version) state) := by
  apply fst_runOver
  intro matrix bundled
  exact FrameworkMatrix.exists_withSepolicy bundled version

/-- The check fails iff the decisive reply is an error, and with that error. -/
theorem fst_run_eq_error_iff {error : Engine.Error} :
    (check.run engine version state).1 = .error error ↔
      engine.decisiveReply (check.requests version) state = some (.error error) := by
  rw [fst_run]
  rcases engine.decisiveReply (check.requests version) state with _ | _ | _ <;> simp [verdictOn]

/-- The check finds the device compatible iff the decisive reply is that it meets the matrix. -/
theorem fst_run_eq_compatible_iff :
    (check.run engine version state).1 = .ok .compatible ↔
      engine.decisiveReply (check.requests version) state = some (.ok .compatible) := by
  rw [fst_run]
  rcases engine.decisiveReply (check.requests version) state with _ | _ | outcome
  · simp [verdictOn, rejection_ne_compatible]
  · simp [verdictOn]
  · cases outcome <;> simp [verdictOn, settledBy, rejection_ne_compatible]

/-- If every first reply is the same decisive one, the check comes to what that reply means. -/
theorem fst_run_of_decisive {reply : Except Engine.Error Engine.Outcome}
    (h : ∀ request, (engine.check request state).1 = reply) (decisive : Engine.isDecisive reply) :
    (check.run engine version state).1 = check.verdictOn (some reply) := by
  rw [fst_run]
  -- There are requests, so that the first reply is given.
  have hlength := length_requests check version
  cases hrequests : check.requests version with
  | nil =>
    rw [hrequests] at hlength
    cases hlength
  | cons request rest =>
    rw [Engine.decisiveReply_cons_of_isDecisive (by rw [h, decisive]), h]

/-- Without an engine the check decides nothing. -/
theorem fst_run_absent (check : MatrixCheck) (version : Version) :
    (check.run Engine.absent version ()).1 = .ok .indeterminate := by
  rw [fst_run_of_decisive (fun _ => rfl) rfl]
  rfl

end Treble.Detection.MatrixCheck
