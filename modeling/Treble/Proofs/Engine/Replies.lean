import Treble.Engine.Basic

/-!
# Replies of an engine

An engine that is asked one thing after another gives one reply after another, each from the state
that the last one left. Of the replies to the framework matrices the first one that is no mismatch
settles the question, and who asks until it is settled hears no reply behind that one.

## Main definitions

* `Engine.replies` — the replies to requests that are made one after the other
* `Engine.decisiveReply` — the first reply that is no mismatch
* `Engine.heard`, `Engine.asked` — the replies up to that one, and the requests that they answer

## Main results

* `Engine.eq_of_heard` — engines that give the same replies up to the decisive one are asked the same
-/

namespace Treble.Engine

variable {σ : Type}

/-- The replies to requests that are made one after the other. -/
def replies (engine : Engine σ) : List Request → σ → List (Except Error Outcome)
  | [], _ => []
  | request :: rest, state =>
    (engine.check request state).1 :: engine.replies rest (engine.check request state).2

/-- Whether a reply is anything but that the device does not meet the matrix. -/
def isDecisive : Except Error Outcome → Bool
  | .ok .mismatch => false
  | _ => true

/-- The first reply to requests in turn that is no mismatch, if there is one. -/
def decisiveReply (engine : Engine σ) (requests : List Request) (state : σ) :
    Option (Except Error Outcome) :=
  (engine.replies requests state).find? isDecisive

@[simp] theorem isDecisive_mismatch : isDecisive (.ok .mismatch) = false := rfl

@[simp] theorem isDecisive_error (error : Error) : isDecisive (.error error) = true := rfl

theorem isDecisive_ok_iff {outcome : Outcome} :
    isDecisive (.ok outcome) = true ↔ outcome ≠ .mismatch := by
  cases outcome <;> simp [isDecisive]

@[simp] theorem decisiveReply_nil (engine : Engine σ) (state : σ) :
    engine.decisiveReply [] state = none := rfl

/-- A decisive reply to the first request is the one. -/
theorem decisiveReply_cons_of_isDecisive {engine : Engine σ} {request : Request} {state : σ}
    (decisive : isDecisive (engine.check request state).1 = true) (rest : List Request) :
    engine.decisiveReply (request :: rest) state = some (engine.check request state).1 := by
  rw [decisiveReply, replies, List.find?_cons_of_pos decisive]

/-- After a mismatch the remaining requests tell. -/
theorem decisiveReply_cons_of_mismatch {engine : Engine σ} {request : Request} {state next : σ}
    (mismatch : engine.check request state = (.ok .mismatch, next)) (rest : List Request) :
    engine.decisiveReply (request :: rest) state = engine.decisiveReply rest next := by
  simp only [decisiveReply, replies, mismatch]
  rw [List.find?_cons_of_neg]
  simp

/-- A mismatch decides nothing. -/
theorem decisiveReply_ne_mismatch (engine : Engine σ) (requests : List Request) (state : σ) :
    engine.decisiveReply requests state ≠ some (.ok .mismatch) := by
  intro h
  have hdecisive := List.find?_some h
  simp at hdecisive

/-! ### Asking until a reply is decisive -/

/-- The replies up to the first one that is no mismatch, or all if there is none. -/
def heard (engine : Engine σ) (requests : List Request) (state : σ) :
    List (Except Error Outcome) :=
  (engine.replies requests state).take ((engine.replies requests state).findIdx isDecisive + 1)

/-- The requests up to the one with the first reply that is no mismatch, or all if there is none. -/
def asked (engine : Engine σ) (requests : List Request) (state : σ) : List Request :=
  requests.take ((engine.replies requests state).findIdx isDecisive + 1)

@[simp] theorem length_replies (engine : Engine σ) (requests : List Request) (state : σ) :
    (engine.replies requests state).length = requests.length := by
  induction requests generalizing state with
  | nil => rfl
  | cons request rest ih => rw [replies, List.length_cons, List.length_cons, ih]

theorem asked_cons_of_isDecisive {engine : Engine σ} {request : Request} {state : σ}
    (decisive : isDecisive (engine.check request state).1 = true) (rest : List Request) :
    engine.asked (request :: rest) state = [request] := by
  simp [asked, replies, List.findIdx_cons, decisive]

theorem asked_cons_of_mismatch {engine : Engine σ} {request : Request} {state next : σ}
    (mismatch : engine.check request state = (.ok .mismatch, next)) (rest : List Request) :
    engine.asked (request :: rest) state = request :: engine.asked rest next := by
  simp [asked, replies, List.findIdx_cons, mismatch]

/-- Of a list that begins like another one up to the first element of a kind, that is the first one
of the kind too. -/
theorem find?_eq_of_prefix {α : Type} {p : α → Bool} {list other : List α}
    (same : list.take (list.findIdx p + 1) <+: other) (length : other.length = list.length) :
    other.findIdx p = list.findIdx p ∧ other.find? p = list.find? p := by
  induction list generalizing other with
  | nil =>
    obtain rfl := List.length_eq_zero_iff.mp length
    exact ⟨rfl, rfl⟩
  | cons a rest ih =>
    cases hp : p a with
    | true =>
      -- The first element is of the kind, and the other list begins with it.
      rw [List.findIdx_cons, hp, cond_true, List.take_succ_cons, List.take_zero] at same
      obtain ⟨behind, rfl⟩ := same
      simp [List.findIdx_cons, hp]
    | false =>
      rw [List.findIdx_cons, hp, cond_false, List.take_succ_cons] at same
      obtain ⟨behind, rfl⟩ := same
      have hrest := ih (List.prefix_append _ behind) (by simpa using length)
      simpa [List.findIdx_cons, hp] using hrest

/-- Engines that give the same replies up to the decisive one have the same decisive reply, and the
same is asked of them. -/
theorem eq_of_heard {τ : Type} {engine : Engine σ} {other : Engine τ} {requests : List Request}
    {state : σ} {otherState : τ}
    (same : engine.heard requests state <+: other.replies requests otherState) :
    other.decisiveReply requests otherState = engine.decisiveReply requests state ∧
      other.asked requests otherState = engine.asked requests state := by
  have hlength : (other.replies requests otherState).length =
      (engine.replies requests state).length := by
    rw [length_replies, length_replies]
  obtain ⟨hindex, hfirst⟩ := find?_eq_of_prefix same hlength
  exact ⟨hfirst, by rw [asked, asked, hindex]⟩

end Treble.Engine
