import Treble.Engine.Basic

/-!
# The native engine

The engine proper is a function that a shared library exports. The library is bound at the first
call that finds it and stays bound; until then every call looks for it again. The function takes texts
that end at their first NUL, so no argument may hold one.

Calls are made one after the other, and each of them runs to its end, so the lock around the handle
leaves no trace here.

## Main definitions

* `Engine.Library` — what a library offers
* `Engine.Native` — the handle of an engine, and the state of its library
* `Engine.Native.bind` — the engine with its handle set, if there is anything to set it to
* `Engine.Request.nulArgument?` — the first argument that holds a NUL
* `Engine.native` — the engine of a library
-/

namespace Treble.Engine

/-- A function that answers a request by a status code. The library that exports it may have a state
of its own. -/
abbrev EntryPoint (τ : Type) := Request → τ → Int32 × τ

/-- What looking for a library and its function comes to. -/
inductive Library (τ : Type) where
  /-- There is no such library. -/
  | missing
  /-- The library does not export the function. -/
  | withoutFunction
  /-- The library exports the function. -/
  | exporting (entryPoint : EntryPoint τ)

/-- The function that a library exports. -/
def Library.entryPoint? {τ : Type} : Library τ → Option (EntryPoint τ)
  | .exporting entryPoint => some entryPoint
  | _ => none

/-- The arguments of a call with their names. -/
def Request.arguments (request : Request) : List (String × String) :=
  [("matrix", request.matrix), ("device root", request.root),
    ("vendor SKU", request.vendorSku), ("hardware SKU", request.hardwareSku)]

/-- The name of the first argument that holds a NUL. -/
def Request.nulArgument? (request : Request) : Option String :=
  (request.arguments.find? fun argument => argument.2.toList.contains '\x00').map Prod.fst

/-- An engine between two calls: the function to which it is bound, if it is, and the state of the
library. -/
structure Native (τ : Type) where
  handle : Option (EntryPoint τ)
  memory : τ

namespace Native

variable {τ : Type}

/-- An engine that has not been called. -/
def unbound (memory : τ) : Native τ := { handle := none, memory := memory }

/-- Whether an engine is bound. -/
def isBound (engine : Native τ) : Bool := engine.handle.isSome

/-- An engine with its handle set. A handle that is set is kept, and the library is not looked for
again. -/
def bind (library : Library τ) (engine : Native τ) : Native τ :=
  match engine.handle with
  | some _ => engine
  | none =>
    match library with
    | .missing => engine
    | .withoutFunction => engine
    | .exporting entryPoint => { engine with handle := some entryPoint }

/-- The answer of an engine whose handle has been asked for, with the engine afterwards. The function
is not called with an argument that it would cut off. -/
def call (request : Request) (engine : Native τ) : Except Error Outcome × Native τ :=
  match engine.handle with
  | none => (.ok .unavailable, engine)
  | some entryPoint =>
    match request.nulArgument? with
    | some name => (.error (.invalidArgument (name ++ " contains a NUL byte")), engine)
    | none =>
      let (status, memory) := entryPoint request engine.memory
      (Outcome.ofStatus status, { engine with memory := memory })

end Native

/-- The engine of a library, which is bound before the arguments are looked at. -/
def native {τ : Type} (library : Library τ) : Engine (Native τ) where
  check request engine := (engine.bind library).call request

end Treble.Engine
