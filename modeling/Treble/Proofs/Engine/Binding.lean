import Mathlib.Tactic.Common
import Treble.Engine.Native

/-!
# Binding a library

An engine binds its library at the first call that finds it and keeps the handle, whatever comes of that
call and of later ones, and whatever becomes of the library. A library that cannot be loaded, or that
does not export the function, is never bound, and every call is answered by saying so, even one that
could not be passed on. A bound engine names the first argument with a NUL and does not call the
function; otherwise it gives the meaning of the status code. Nothing else of the earlier calls is left
than what the function itself makes of them.

## Main definitions

* `Engine.Native.trace` — the replies to calls in turn, each with the engine that it leaves
* `Engine.Request.IsWhole`, `Engine.Request.CutIn` — no argument of a request holds a NUL, or it is
  the one with this name that holds one first
* `Engine.Means` — what a status code means
* `Engine.Request.answer` — the answer of a bound engine, given what the function would return
* `Engine.memoryAfter` — the state of a library after its function was called with some requests

## Main results

* `Engine.Native.handle_check`, `Engine.Native.handle_of_mem_trace` — what a call, and what all calls do
  to the handle
* `Engine.Native.trace_of_bound` — a bound engine does not look for its library again
* `Engine.Native.getElem?_trace_of_bound` — the calls of a bound engine
* `Engine.native_memoryless` — whether the library is bound, and what is answered, in all calls
-/

namespace Treble.Engine

variable {τ : Type} {request : Request}

/-! ### Arguments -/

namespace Request

/-- A text that is not cut off at a NUL. -/
def NulFree (text : String) : Prop := '\x00' ∉ text.toList

instance (text : String) : Decidable (NulFree text) := inferInstanceAs (Decidable (¬ _))

/-- No argument holds a NUL. -/
structure IsWhole (request : Request) : Prop where
  matrix : NulFree request.matrix
  root : NulFree request.root
  vendorSku : NulFree request.vendorSku
  hardwareSku : NulFree request.hardwareSku

/-- The argument of a name holds a NUL, and none in front of it does. -/
inductive CutIn (request : Request) : String → Prop
  | matrix (cut : ¬ NulFree request.matrix) : CutIn request "matrix"
  | root (matrix : NulFree request.matrix) (cut : ¬ NulFree request.root) :
      CutIn request "device root"
  | vendorSku (matrix : NulFree request.matrix) (root : NulFree request.root)
      (cut : ¬ NulFree request.vendorSku) : CutIn request "vendor SKU"
  | hardwareSku (matrix : NulFree request.matrix) (root : NulFree request.root)
      (vendorSku : NulFree request.vendorSku) (cut : ¬ NulFree request.hardwareSku) :
      CutIn request "hardware SKU"

instance (request : Request) : Decidable request.IsWhole :=
  decidable_of_iff (NulFree request.matrix ∧ NulFree request.root ∧ NulFree request.vendorSku ∧
      NulFree request.hardwareSku)
    ⟨fun h => ⟨h.1, h.2.1, h.2.2.1, h.2.2.2⟩,
      fun h => ⟨h.matrix, h.root, h.vendorSku, h.hardwareSku⟩⟩

/-- Whether an argument holds a NUL is asked in the order in which they are passed. -/
theorem nulArgument?_eq (request : Request) : request.nulArgument? =
    if ¬ NulFree request.matrix then some "matrix"
    else if ¬ NulFree request.root then some "device root"
    else if ¬ NulFree request.vendorSku then some "vendor SKU"
    else if ¬ NulFree request.hardwareSku then some "hardware SKU"
    else none := by
  simp only [nulArgument?, arguments, List.find?_cons, List.contains_eq_mem, NulFree, not_not]
  split_ifs <;> simp [*]

theorem nulArgument?_of_isWhole (whole : request.IsWhole) : request.nulArgument? = none := by
  simp [nulArgument?_eq, whole.matrix, whole.root, whole.vendorSku, whole.hardwareSku]

theorem CutIn.nulArgument?_eq {name : String} (cut : request.CutIn name) :
    request.nulArgument? = some name := by
  cases cut <;> simp [Request.nulArgument?_eq, *]

theorem exists_cutIn (notWhole : ¬ request.IsWhole) : ∃ name, request.CutIn name := by
  by_cases matrix : NulFree request.matrix
  · by_cases root : NulFree request.root
    · by_cases vendorSku : NulFree request.vendorSku
      · exact ⟨_, .hardwareSku matrix root vendorSku fun free =>
          notWhole ⟨matrix, root, vendorSku, free⟩⟩
      · exact ⟨_, .vendorSku matrix root vendorSku⟩
    · exact ⟨_, .root matrix root⟩
  · exact ⟨_, .matrix matrix⟩

end Request

/-! ### Answers -/

/-- What a status code means. Four codes stand for an outcome, and every other one for an error that
tells it. -/
inductive Means : Int32 → Except Error Outcome → Prop
  | mismatch : Means 0 (.ok .mismatch)
  | compatible : Means 1 (.ok .compatible)
  | builtinMatrixInvalid : Means (-1) (.ok .builtinMatrixInvalid)
  | deviceManifestInvalid : Means (-2) (.ok .deviceManifestInvalid)
  | unexpected {status} (unknown : status ∉ [0, 1, -1, -2]) :
      Means status (.error (.unexpectedStatus status))

theorem means_ofStatus (status : Int32) : Means status (Outcome.ofStatus status) := by
  unfold Outcome.ofStatus
  split_ifs with mismatch compatible builtin device
  · exact mismatch ▸ .mismatch
  · exact compatible ▸ .compatible
  · exact builtin ▸ .builtinMatrixInvalid
  · exact device ▸ .deviceManifestInvalid
  · exact .unexpected (by simp [mismatch, compatible, builtin, device])

/-- No status code means that there is no engine. -/
theorem Means.ne_unavailable {status : Int32} {answer : Except Error Outcome}
    (means : Means status answer) : answer ≠ .ok .unavailable := by
  cases means <;> simp

namespace Request

/-- The answer of a bound engine to a request for which the function would return a status code. -/
def answer (request : Request) (status : Int32) : Except Error Outcome :=
  match request.nulArgument? with
  | some name => .error (.invalidArgument (name ++ " contains a NUL byte"))
  | none => Outcome.ofStatus status

theorem CutIn.answer_eq {name : String} (cut : request.CutIn name) (status : Int32) :
    request.answer status = .error (.invalidArgument (name ++ " contains a NUL byte")) := by
  rw [answer, cut.nulArgument?_eq]

theorem IsWhole.answer_eq (whole : request.IsWhole) (status : Int32) :
    request.answer status = Outcome.ofStatus status := by
  rw [answer, nulArgument?_of_isWhole whole]

theorem IsWhole.means_answer (whole : request.IsWhole) (status : Int32) :
    Means status (request.answer status) := by
  rw [whole.answer_eq]
  exact means_ofStatus status

theorem answer_ne_unavailable (request : Request) (status : Int32) :
    request.answer status ≠ .ok .unavailable := by
  by_cases whole : request.IsWhole
  · exact (whole.means_answer status).ne_unavailable
  · obtain ⟨name, cut⟩ := exists_cutIn whole
    rw [cut.answer_eq]
    simp

end Request

/-- The state of a library after its function was called with some requests. -/
def memoryAfter (entryPoint : EntryPoint τ) (requests : List Request) (memory : τ) : τ :=
  requests.foldl (fun memory request => (entryPoint request memory).2) memory

theorem memoryAfter_append (entryPoint : EntryPoint τ) (requests more : List Request) (memory : τ) :
    memoryAfter entryPoint (requests ++ more) memory =
      memoryAfter entryPoint more (memoryAfter entryPoint requests memory) :=
  List.foldl_append

namespace Native

/-- The replies to calls in turn, each with the engine that it leaves. With each call comes what looking
for the library comes to when it is made. -/
def trace : List (Library τ × Request) → Native τ → List (Except Error Outcome × Native τ)
  | [], _ => []
  | (library, request) :: rest, engine =>
    let called := (native library).check request engine
    called :: trace rest called.2

variable {library : Library τ} {entryPoint : EntryPoint τ} {engine : Native τ}

/-! ### One call -/

theorem check_native (library : Library τ) (request : Request) (engine : Native τ) :
    (native library).check request engine = (engine.bind library).call request := rfl

theorem bind_of_none (absent : library.entryPoint? = none) (engine : Native τ) :
    engine.bind library = engine := by
  unfold bind
  cases engine.handle with
  | some _ => rfl
  | none =>
    cases library with
    | missing => rfl
    | withoutFunction => rfl
    | exporting entryPoint => cases absent

/-- A handle that is set is kept, and else the function of the library is taken, if there is one. -/
theorem handle_bind (library : Library τ) (engine : Native τ) :
    (engine.bind library).handle = engine.handle.or library.entryPoint? := by
  unfold bind
  cases hhandle : engine.handle with
  | some _ => simp [hhandle]
  | none => cases library <;> simp [hhandle, Library.entryPoint?]

theorem handle_call (request : Request) (engine : Native τ) :
    (engine.call request).2.handle = engine.handle := by
  unfold call
  split
  · rfl
  · split <;> simp_all

/-- A call sets the handle if it is not set yet and the library offers a function. Nothing that comes of
the call takes it back. -/
theorem handle_check (library : Library τ) (request : Request) (engine : Native τ) :
    ((native library).check request engine).2.handle = engine.handle.or library.entryPoint? := by
  rw [check_native, handle_call, handle_bind]

theorem check_of_unbound (absent : library.entryPoint? = none) (request : Request) (memory : τ) :
    (native library).check request (unbound memory) = (.ok .unavailable, unbound memory) := by
  rw [check_native, bind_of_none absent]
  rfl

/-- A call of a bound engine. The function is called iff no argument holds a NUL. -/
theorem check_of_bound (library : Library τ) (entryPoint : EntryPoint τ) (request : Request)
    (memory : τ) :
    (native library).check request ⟨some entryPoint, memory⟩ =
      (request.answer (entryPoint request memory).1,
        ⟨some entryPoint, memoryAfter entryPoint ([request].filter (·.IsWhole)) memory⟩) := by
  by_cases whole : request.IsWhole
  · rw [whole.answer_eq]
    simp [check_native, bind, call, Request.nulArgument?_of_isWhole whole, whole, memoryAfter]
  · obtain ⟨name, cut⟩ := Request.exists_cutIn whole
    rw [cut.answer_eq]
    simp [check_native, bind, call, cut.nulArgument?_eq, whole, memoryAfter]

/-- The first call that finds the function is that of an engine which is bound already. -/
theorem check_of_entryPoint (present : library.entryPoint? = some entryPoint) (request : Request)
    (memory : τ) :
    (native library).check request (unbound memory) =
      (native library).check request ⟨some entryPoint, memory⟩ := by
  cases library with
  | missing => cases present
  | withoutFunction => cases present
  | exporting =>
    cases present
    rfl

/-! ### Calls in turn -/

/-- An engine that is not bound, or bound to the function of the library, has what the library offers for
its handle after each call. -/
theorem handle_of_mem_trace {requests : List Request}
    (held : engine.handle = none ∨ engine.handle = library.entryPoint?)
    {reply : Except Error Outcome × Native τ}
    (member : reply ∈ trace (requests.map (library, ·)) engine) :
    reply.2.handle = library.entryPoint? := by
  induction requests generalizing engine with
  | nil => cases member
  | cons request rest ih =>
    have next : ((native library).check request engine).2.handle = library.entryPoint? := by
      rw [handle_check]
      rcases held with held | held <;> simp [held]
    simp only [List.map_cons, trace] at member
    rcases List.mem_cons.mp member with rfl | later
    · exact next
    · exact ih (.inr next) later

theorem trace_unbound (absent : library.entryPoint? = none) (requests : List Request) (memory : τ) :
    trace (requests.map (library, ·)) (unbound memory) =
      requests.map fun _ => (.ok .unavailable, unbound memory) := by
  induction requests with
  | nil => rfl
  | cons request rest ih =>
    simp only [List.map_cons, trace]
    rw [check_of_unbound absent, ih]

/-- A bound engine does not look for its library again, so that it is all one what it would find. -/
theorem trace_of_bound (bound : engine.handle = some entryPoint) (library : Library τ)
    (calls : List (Library τ × Request)) :
    trace calls engine = trace (calls.map fun call => (library, call.2)) engine := by
  induction calls generalizing engine with
  | nil => rfl
  | cons call rest ih =>
    obtain ⟨found, request⟩ := call
    obtain ⟨handle, memory⟩ := engine
    obtain rfl : handle = some entryPoint := bound
    have next : ((native library).check request ⟨some entryPoint, memory⟩).2.handle =
        some entryPoint := by
      rw [handle_check]
      rfl
    have same : (native found).check request ⟨some entryPoint, memory⟩ =
        (native library).check request ⟨some entryPoint, memory⟩ := by
      rw [check_of_bound, check_of_bound]
    simp only [List.map_cons, trace]
    rw [same, ih next]

/-- The calls of a bound engine. Of the requests in front of one those without a NUL have reached the
function, in their order. -/
theorem getElem?_trace_of_bound (library : Library τ) (entryPoint : EntryPoint τ)
    (requests : List Request) (memory : τ) (n : Nat) :
    (trace (requests.map (library, ·)) ⟨some entryPoint, memory⟩)[n]? =
      requests[n]?.map fun request =>
        (request.answer (entryPoint request
            (memoryAfter entryPoint ((requests.take n).filter (·.IsWhole)) memory)).1,
          ⟨some entryPoint,
            memoryAfter entryPoint ((requests.take (n + 1)).filter (·.IsWhole)) memory⟩) := by
  induction requests generalizing memory n with
  | nil => rfl
  | cons request rest ih =>
    simp only [List.map_cons, trace]
    rw [check_of_bound]
    cases n with
    | zero => simp [memoryAfter]
    | succ n =>
      rw [List.getElem?_cons_succ, ih, List.getElem?_cons_succ]
      simp only [← memoryAfter_append, ← List.filter_append, List.singleton_append,
        List.take_succ_cons]

theorem trace_of_entryPoint (present : library.entryPoint? = some entryPoint)
    (requests : List Request) (memory : τ) :
    trace (requests.map (library, ·)) (unbound memory) =
      trace (requests.map (library, ·)) ⟨some entryPoint, memory⟩ := by
  cases requests with
  | nil => rfl
  | cons request rest => simp only [List.map_cons, trace, check_of_entryPoint present]

/-- From the first call on it is all one what becomes of the library. -/
theorem trace_append (present : library.entryPoint? = some entryPoint) (first : Request)
    (rest : List Request) (later : List (Library τ × Request)) (memory : τ) :
    trace ((first :: rest).map (library, ·) ++ later) (unbound memory) =
      trace ((first :: rest ++ later.map Prod.snd).map (library, ·)) (unbound memory) := by
  have bound : ((native library).check first (unbound memory)).2.handle = some entryPoint := by
    rw [handle_check, present]
    rfl
  have hcalls : (rest.map (library, ·) ++ later).map (fun call => (library, call.2)) =
      (rest ++ later.map Prod.snd).map (library, ·) := by
    simp [Function.comp_def]
  simp only [List.map_cons, List.cons_append, trace]
  rw [trace_of_bound bound library, hcalls]

end Native

open Native (trace unbound)

/-- All calls of an engine, from the first one on. After each of them the engine is bound iff the library
offers a function, and then to this one. A library that offers no function is never bound, and
every call says so. One that offers a function is bound by the first call and stays bound, even if it
is not found any more or offers another function later. No call of a bound engine is answered by saying
that there is no engine: a request that would be cut off is answered by naming the argument, and the
function is not called; every other one by the meaning of the status code. So the answers hang on the
requests alone, each on its own, if the status codes do. -/
theorem native_memoryless (library : Library τ) (memory : τ) (requests : List Request) :
    (∀ reply ∈ trace (requests.map (library, ·)) (unbound memory),
      reply.2.handle = library.entryPoint? ∧
        reply.2.isBound = library.entryPoint?.isSome) ∧
    (library.entryPoint? = none →
      trace (requests.map (library, ·)) (unbound memory) =
        requests.map fun _ => (.ok .unavailable, unbound memory)) ∧
    ∀ entryPoint, library.entryPoint? = some entryPoint →
      (∀ n : Nat, (trace (requests.map (library, ·)) (unbound memory))[n]? =
        requests[n]?.map fun request =>
          (request.answer (entryPoint request
              (memoryAfter entryPoint ((requests.take n).filter (·.IsWhole)) memory)).1,
            { handle := some entryPoint
              memory := memoryAfter entryPoint ((requests.take (n + 1)).filter (·.IsWhole))
                memory })) ∧
      (requests ≠ [] → ∀ later : List (Library τ × Request),
        trace (requests.map (library, ·) ++ later) (unbound memory) =
          trace ((requests ++ later.map Prod.snd).map (library, ·)) (unbound memory)) ∧
      (∀ status : Request → Int32,
        (∀ request memory, (entryPoint request memory).1 = status request) →
          (trace (requests.map (library, ·)) (unbound memory)).map Prod.fst =
            requests.map fun request => request.answer (status request)) ∧
      ∀ (request : Request) (status : Int32), request.answer status ≠ .ok .unavailable ∧
        (∀ name, request.CutIn name →
          request.answer status = .error (.invalidArgument (name ++ " contains a NUL byte"))) ∧
        (request.IsWhole → Means status (request.answer status)) := by
  refine ⟨fun reply member => ?_, fun absent => Native.trace_unbound absent requests memory,
    fun entryPoint present => ?_⟩
  · have held := Native.handle_of_mem_trace (.inl rfl) member
    exact ⟨held, congrArg Option.isSome held⟩
  have calls := Native.getElem?_trace_of_bound library entryPoint requests memory
  rw [← Native.trace_of_entryPoint present] at calls
  refine ⟨calls, ?_, ?_, ?_⟩
  · intro nonempty later
    obtain ⟨first, rest, rfl⟩ := List.exists_cons_of_ne_nil nonempty
    exact Native.trace_append present first rest later memory
  · intro status alone
    apply List.ext_getElem?
    intro n
    rw [List.getElem?_map, calls, List.getElem?_map, Option.map_map]
    simp only [Function.comp_def, alone]
  · intro request status
    exact ⟨request.answer_ne_unavailable status, fun _ cut => cut.answer_eq status,
      fun whole => whole.means_answer status⟩

/-- A request that can be passed on. -/
def wholeRequest : Request := { matrix := "<m/>", root := "/", vendorSku := "", hardwareSku := "" }

/-- A request with a NUL in both variants of the product. -/
def cutRequest : Request := { wholeRequest with vendorSku := "a\x00b", hardwareSku := "\x00" }

/-- A function that finds every device compatible and keeps a record of its calls. -/
def recordingPoint : EntryPoint (List Request) := fun request calls => (1, calls ++ [request])

/-- The first request binds the engine, though it is not passed on; the second one reaches the function,
even if the library is gone by then, and is answered as it would be alone. -/
theorem native_memoryless_cutRequest :
    (Library.missing : Library (List Request)).entryPoint? = none ∧ cutRequest.CutIn "vendor SKU" ∧
    wholeRequest.IsWhole ∧
    trace [(.missing, cutRequest)] (unbound ([] : List Request)) =
      [(.ok .unavailable, unbound [])] ∧
    trace [(.exporting recordingPoint, cutRequest), (.missing, wholeRequest)] (unbound []) =
      [(.error (.invalidArgument "vendor SKU contains a NUL byte"), ⟨some recordingPoint, []⟩),
        (.ok .compatible, ⟨some recordingPoint, [wholeRequest]⟩)] ∧
    (trace ([cutRequest, wholeRequest].map (.exporting recordingPoint, ·)) (unbound [])).map Prod.fst =
      [cutRequest.answer 1, wholeRequest.answer 1] := by
  have cut : cutRequest.CutIn "vendor SKU" := .vendorSku (by decide) (by decide) (by decide)
  have whole : wholeRequest.IsWhole := by decide
  obtain ⟨-, absent, -⟩ :=
    native_memoryless (.missing : Library (List Request)) [] [cutRequest]
  have present : (Library.exporting recordingPoint).entryPoint? = some recordingPoint := rfl
  obtain ⟨-, -, bound⟩ := native_memoryless (.exporting recordingPoint) [] [cutRequest]
  obtain ⟨-, later, -⟩ := bound recordingPoint present
  obtain ⟨-, -, both⟩ := native_memoryless (.exporting recordingPoint) [] [cutRequest, wholeRequest]
  obtain ⟨calls, -, alone, answers⟩ := both recordingPoint present
  refine ⟨rfl, cut, whole, absent rfl, (later (by simp) [(.missing, wholeRequest)]).trans ?_,
    alone (fun _ => 1) fun _ _ => rfl⟩
  apply List.ext_getElem?
  intro n
  refine (calls n).trans ?_
  match n with
  | 0 => exact congrArg (fun reply => some (reply, _)) ((answers cutRequest 1).2.1 _ cut)
  | 1 => exact congrArg (fun reply => some (reply, _)) (whole.answer_eq 1)
  | _ + 2 => rfl

end Treble.Engine
