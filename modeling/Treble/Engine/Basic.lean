import Treble.Engine.Outcome

/-!
# Compatibility engines

An engine compares a device with a framework matrix. It may remember what it was asked, so a call
gives the engine's next state along with the answer.

## Main definitions

* `Engine.Request` — the arguments of a call
* `Engine` — the answers of an engine with states of some type
* `Engine.recorded` — an engine that also keeps a record of its calls
-/

namespace Treble

/-- The arguments of a call: the matrix, and where and what the device is. -/
structure Engine.Request where
  matrix : String
  root : String
  vendorSku : String
  hardwareSku : String
deriving DecidableEq

/-- An engine: its answer to each request in each state, and its next state. -/
structure Engine (σ : Type) where
  check : Engine.Request → σ → Except Engine.Error Engine.Outcome × σ

namespace Engine

/-- The engine with a record of the calls that were made of it, the first one first. -/
def recorded {σ : Type} (engine : Engine σ) : Engine (σ × List Request) where
  check request state :=
    let answer := engine.check request state.1
    (answer.1, answer.2, state.2 ++ [request])

/-- The engine that is never there. -/
def absent : Engine Unit where
  check _ state := (.ok .unavailable, state)

end Engine

end Treble
