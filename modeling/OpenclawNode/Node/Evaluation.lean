import OpenclawNode.Base.Future
import OpenclawNode.Node.ActiveInvocations
import OpenclawNode.Node.CommandRuntime

/-! The evaluation of one invocation: its gates, its admission and its handler, poll by poll. -/
namespace OpenclawNode.Node

open BigEndian (Bytes)
open BoundedWriter (Serialization toWriter)
open Future (AsyncFn Polled)
open Json (object string)
open Transition (System)

def failure (code message : String) : InvocationResult := .failure code message

structure LimitWriter where
  written : Nat
  maximum : Nat
  deriving DecidableEq, Repr

def LimitWriter.write (w : LimitWriter) (bytes : Bytes) : Option LimitWriter :=
  let next := w.written + bytes.length
  if w.maximum < next then none else some { w with written := next }

def serializedJsonWithinLimit (value : Serialization) (maximum : Nat) : Bool :=
  match toWriter LimitWriter.write ⟨0, maximum⟩ value with
  | .done _ => true
  | _ => false

/-- The failure that a handler error becomes, unless it is too large. -/
def handlerFailure (error : HandlerError) (fallbackCode fallbackMessage : String)
    (maxOutputBytes : Nat) : InvocationResult :=
  let code := if error.code = "" then fallbackCode else error.code
  let message := if error.message = "" then fallbackMessage else error.message
  let payload := object [("code", string code), ("message", string message)]
  if serializedJsonWithinLimit payload maxOutputBytes then .failure code message
  else failure "OUTPUT_TOO_LARGE" "command error exceeds the runtime limit"

/-- What an evaluation reads of the world around it: the clock, the invocation's token, the token of
its input overflow, whether its session is retired, and what only policies and handlers see. -/
structure EvaluationWorld (ω : Type) where
  now : Nanos
  cancelled : Bool
  inputOverflow : Bool
  sessionRetired : Bool
  beyond : ω

variable {H P ω ν : Type}

def EvaluationWorld.cancel (w : EvaluationWorld ω) : EvaluationWorld ω := { w with cancelled := true }

namespace CommandRuntime

variable (runtime : CommandRuntime H P)

def resolveSessionHandler (advertised : Finset String) (invocation : NodeInvocation) :
    Except InvocationResult (RegisteredHandler H) :=
  if invocation.command ∉ advertised then
    .error (failure "COMMAND_NOT_ADVERTISED" "command is outside the active connection manifest")
  else
    (runtime.handlers.lookup invocation.command).elim
      (.error (failure "COMMAND_NOT_FOUND" "no handler registered for command")) .ok

/-- The time that is left, `some none` where there is no limit and `none` where it has passed. -/
def resolveTimeout (invocation : NodeInvocation) (now : Nanos) : Option (Option Nanos) :=
  if invocation.timeoutMs = some 0 then some none
  else
    let total := invocation.timeoutMs.elim runtime.defaultTimeout fun milliseconds =>
      min (fromMillis milliseconds.toNat) runtime.maxTimeout - runtime.resultGrace
    let elapsed := (invocation.receivedAt.map (now - ·)).getD 0
    if elapsed < total then some (some (total - elapsed)) else none

def inputWithinLimit (formatDouble : Json.Double → String) (invocation : NodeInvocation) : Bool :=
  invocation.receivedParamsBytes.all (· ≤ runtime.maxInputBytes) &&
    serializedJsonWithinLimit (invocation.params.serialize formatDouble) runtime.maxInputBytes

end CommandRuntime

def handlerEntryRejection (w : EvaluationWorld ω) :
    Option InvocationResult × EvaluationWorld ω :=
  if w.cancelled then
    (some (failure "INVOCATION_CANCELLED"
      "command invocation was cancelled before handler execution"), w)
  else if w.sessionRetired then
    (some (failure "SESSION_RETIRED" "command invocation belongs to a retired session"), w.cancel)
  else (none, w)

/-- What the policies and the handlers of a runtime do. -/
structure RuntimeClosures (H P ω ν : Type) where
  admission : P → AsyncFn (EvaluationWorld ω) NodeInvocation (Except HandlerError Unit) ν
  handler : H → AsyncFn (EvaluationWorld ω) NodeInvocation (Except HandlerError Json.Value) ν

/-- Where the evaluation of an invocation stands between two polls. -/
inductive EvaluationPhase (c : RuntimeClosures H P ω ν)
  | tracked
  | admitting (registration : RegisteredHandler H) (policy : P)
      (future : (c.admission policy).State) (started : Nanos) (timeout expires : Option Nanos)
  | executing (registration : RegisteredHandler H)
      (future : (c.handler registration.handler).State) (expires : Option Nanos)
  | stopping (result : InvocationResult)
  | done (result : InvocationResult)
  | aborted

/-- What an evaluation did, with the world at that instant. -/
inductive EvaluationEvent (H P ω : Type)
  | resolved (now : Nanos) (timeout : Option Nanos)
  | policyCalled (policy : P) (w : EvaluationWorld ω)
  | admitted (w : EvaluationWorld ω)
  | handlerCalled (handler : H) (w : EvaluationWorld ω)

/-- A time limit that has run out. -/
def expired (expires : Option Nanos) (w : EvaluationWorld ω) : Bool := expires.any (· ≤ w.now)

section

variable (c : RuntimeClosures H P ω ν) (runtime : CommandRuntime H P)
  (formatDouble : Json.Double → String)

/-- What a poll of the handler's future means: a result, or none yet. -/
def handlerOutcome (expires : Option Nanos) (w : EvaluationWorld ω) :
    Polled (Except HandlerError Json.Value) → Option InvocationResult × EvaluationWorld ω
  | .pending =>
    if expired expires w then
      (some (failure "HANDLER_TIMEOUT" "command handler exceeded its deadline"), w.cancel)
    else (none, w)
  | .panicked => (some (failure "HANDLER_PANIC" "command handler panicked"), w.cancel)
  | .ready (.error error) =>
    (some (handlerFailure error "HANDLER_ERROR" "command handler failed" runtime.maxOutputBytes), w)
  | .ready (.ok result) =>
    if serializedJsonWithinLimit (result.serialize formatDouble) runtime.maxOutputBytes then
      (some (.success result), w)
    else
      (some (failure "OUTPUT_TOO_LARGE" "command result exceeds the runtime limit"), w)

/-- A handler has its result. The progress of a duplex one is stopped first. -/
def EvaluationPhase.answered (registration : RegisteredHandler H) (result : InvocationResult) :
    EvaluationPhase c :=
  if registration.duplex then .stopping result else .done result

/-- One poll of a handler that was called. -/
inductive ExecutePoll (registration : RegisteredHandler H)
    (future : (c.handler registration.handler).State) (expires : Option Nanos)
    (w : EvaluationWorld ω) : List ν → EvaluationPhase c → EvaluationWorld ω → Prop
  | overflow : registration.duplex = true → w.inputOverflow = true →
      ExecutePoll registration future expires w []
        (.answered c registration (failure "INPUT_BUFFER_OVERFLOW"
          "duplex command input exceeded the pending-byte limit")) w.cancel
  | pending {notes future' w' w''} (outcome : Polled (Except HandlerError Json.Value)) :
      (registration.duplex = true → w.inputOverflow = false) →
      (c.handler registration.handler).Poll future w notes outcome future' w' →
      handlerOutcome runtime formatDouble expires w' outcome = (none, w'') →
      ExecutePoll registration future expires w notes (.executing registration future' expires) w''
  | result {notes future' w' w''} (outcome : Polled (Except HandlerError Json.Value))
      (result : InvocationResult) : (registration.duplex = true → w.inputOverflow = false) →
      (c.handler registration.handler).Poll future w notes outcome future' w' →
      handlerOutcome runtime formatDouble expires w' outcome = (some result, w'') →
      ExecutePoll registration future expires w notes (.answered c registration result) w''

/-- An admitted invocation enters its handler. -/
inductive EntryPoll (invocation : NodeInvocation) (registration : RegisteredHandler H)
    (timeout : Option Nanos) (w : EvaluationWorld ω) :
    List (EvaluationEvent H P ω) → List ν → EvaluationPhase c → EvaluationWorld ω → Prop
  | overflow : w.inputOverflow = true →
      EntryPoll invocation registration timeout w [] [] (.done (failure "INPUT_BUFFER_OVERFLOW"
        "duplex command input exceeded the pending-byte limit")) w.cancel
  | rejected {w'} (result : InvocationResult) : w.inputOverflow = false →
      handlerEntryRejection w = (some result, w') →
      EntryPoll invocation registration timeout w [] [] (.done result) w'
  | panicked {w' w'' notes} : w.inputOverflow = false → handlerEntryRejection w = (none, w') →
      (c.handler registration.handler).Call invocation w' notes none w'' →
      EntryPoll invocation registration timeout w [.handlerCalled registration.handler w'] notes
        (.done (failure "HANDLER_PANIC" "command handler panicked")) w''.cancel
  | called {w' w'' w''' notes notes' phase future} : w.inputOverflow = false →
      handlerEntryRejection w = (none, w') →
      (c.handler registration.handler).Call invocation w' notes (some future) w'' →
      ExecutePoll c runtime formatDouble registration future (timeout.map (w''.now + ·)) w'' notes'
        phase w''' →
      EntryPoll invocation registration timeout w [.handlerCalled registration.handler w']
        (notes ++ notes') phase w'''

/-- What a poll of the policy's future means: none yet, a refusal, or the time that is left. -/
def admissionOutcome (started : Nanos) (timeout expires : Option Nanos) (w : EvaluationWorld ω) :
    Polled (Except HandlerError Unit) → Option (Except InvocationResult (Option Nanos))
  | .pending =>
    if expired expires w then
      some (.error (failure "HANDLER_TIMEOUT" "command admission exceeded its deadline"))
    else none
  | .panicked => some (.error (failure "ADMISSION_PANIC" "command admission policy panicked"))
  | .ready (.error error) =>
    some (.error (handlerFailure error "ADMISSION_DENIED" "command denied by admission policy"
      runtime.maxOutputBytes))
  | .ready (.ok ()) =>
    match timeout with
    | none => some (.ok none)
    | some remaining =>
      let remaining := remaining - (w.now - started)
      if remaining = 0 then
        some (.error (failure "HANDLER_TIMEOUT" "command handler deadline already elapsed"))
      else some (.ok (some remaining))

/-- One poll of an admission that was called. A refusal cancels the invocation. -/
inductive AdmissionPoll (invocation : NodeInvocation) (registration : RegisteredHandler H)
    (policy : P) (future : (c.admission policy).State) (started : Nanos)
    (timeout expires : Option Nanos) (w : EvaluationWorld ω) :
    List (EvaluationEvent H P ω) → List ν → EvaluationPhase c → EvaluationWorld ω → Prop
  | cancelled : w.cancelled = true →
      AdmissionPoll invocation registration policy future started timeout expires w [] []
        (.done (failure "INVOCATION_CANCELLED"
          "command invocation was cancelled during admission")) w.cancel
  | pending {notes future' w'} (outcome : Polled (Except HandlerError Unit)) :
      w.cancelled = false →
      (c.admission policy).Poll future w notes outcome future' w' →
      admissionOutcome runtime started timeout expires w' outcome = none →
      AdmissionPoll invocation registration policy future started timeout expires w [] notes
        (.admitting registration policy future' started timeout expires) w'
  | refused {notes future' w'} (outcome : Polled (Except HandlerError Unit))
      (result : InvocationResult) : w.cancelled = false →
      (c.admission policy).Poll future w notes outcome future' w' →
      admissionOutcome runtime started timeout expires w' outcome = some (.error result) →
      AdmissionPoll invocation registration policy future started timeout expires w [] notes
        (.done result) w'.cancel
  | admitted {notes notes' future' w' w'' events phase remaining}
      (outcome : Polled (Except HandlerError Unit)) : w.cancelled = false →
      (c.admission policy).Poll future w notes outcome future' w' →
      admissionOutcome runtime started timeout expires w' outcome = some (.ok remaining) →
      EntryPoll c runtime formatDouble invocation registration remaining w' events notes' phase
        w'' →
      AdmissionPoll invocation registration policy future started timeout expires w
        (.admitted w' :: events) (notes ++ notes') phase w''

/-- One poll of an evaluation. -/
inductive EvaluationPoll (advertised : Finset String) (invocation : NodeInvocation) :
    EvaluationPhase c → EvaluationWorld ω → List (EvaluationEvent H P ω) → List ν →
    EvaluationPhase c → EvaluationWorld ω → Prop
  | unresolved {w} (result : InvocationResult) :
      runtime.resolveSessionHandler advertised invocation = .error result →
      EvaluationPoll advertised invocation .tracked w [] [] (.done result) w
  | tooLarge {w registration} :
      runtime.resolveSessionHandler advertised invocation = .ok registration →
      runtime.inputWithinLimit formatDouble invocation = false →
      EvaluationPoll advertised invocation .tracked w [] []
        (.done (failure "INPUT_TOO_LARGE" "command parameters exceed the runtime limit")) w
  | elapsed {w registration} :
      runtime.resolveSessionHandler advertised invocation = .ok registration →
      runtime.inputWithinLimit formatDouble invocation = true →
      runtime.resolveTimeout invocation w.now = none →
      EvaluationPoll advertised invocation .tracked w [] []
        (.done (failure "HANDLER_TIMEOUT" "command handler deadline already elapsed")) w.cancel
  | unguarded {w w' registration timeout events notes phase} :
      runtime.resolveSessionHandler advertised invocation = .ok registration →
      runtime.inputWithinLimit formatDouble invocation = true →
      runtime.resolveTimeout invocation w.now = some timeout →
      runtime.admissionPolicy = none →
      EntryPoll c runtime formatDouble invocation registration timeout w events notes phase w' →
      EvaluationPoll advertised invocation .tracked w (.resolved w.now timeout :: events) notes
        phase w'
  | policyPanicked {w w' registration timeout policy notes} :
      runtime.resolveSessionHandler advertised invocation = .ok registration →
      runtime.inputWithinLimit formatDouble invocation = true →
      runtime.resolveTimeout invocation w.now = some timeout →
      runtime.admissionPolicy = some policy →
      (c.admission policy).Call invocation w notes none w' →
      EvaluationPoll advertised invocation .tracked w
        [.resolved w.now timeout, .policyCalled policy w] notes
        (.done (failure "ADMISSION_PANIC" "command admission policy panicked")) w'.cancel
  | guarded {w w' w'' registration timeout policy future events notes notes' phase} :
      runtime.resolveSessionHandler advertised invocation = .ok registration →
      runtime.inputWithinLimit formatDouble invocation = true →
      runtime.resolveTimeout invocation w.now = some timeout →
      runtime.admissionPolicy = some policy →
      (c.admission policy).Call invocation w notes (some future) w' →
      AdmissionPoll c runtime formatDouble invocation registration policy future w.now timeout
        (timeout.map (w'.now + ·)) w' events notes' phase w'' →
      EvaluationPoll advertised invocation .tracked w
        (.resolved w.now timeout :: .policyCalled policy w :: events) (notes ++ notes') phase w''
  | admitting {w w' registration policy future started timeout expires events notes phase} :
      AdmissionPoll c runtime formatDouble invocation registration policy future started timeout
        expires w events notes phase w' →
      EvaluationPoll advertised invocation
        (.admitting registration policy future started timeout expires) w events notes phase w'
  | executing {w w' registration future expires notes phase} :
      ExecutePoll c runtime formatDouble registration future expires w notes phase w' →
      EvaluationPoll advertised invocation (.executing registration future expires) w [] notes phase
        w'
  | stopped {w} (result : InvocationResult) :
      EvaluationPoll advertised invocation (.stopping result) w [] [] (.done result) w

/-- How an invocation event is taken: by the loop of `run`, or by one `dispatch`. -/
inductive Consumer
  | run
  | dispatch
  deriving DecidableEq, Repr

/-- Where an invocation stands once it is taken, given whether a permit and a place for an overload
result are free. One that finds neither ends its consumer and gets no result. -/
def CommandRuntime.consume (consumer : Consumer) (permit place : Bool) (active : ActiveInvocations)
    (invocation : NodeInvocation) : EvaluationPhase c :=
  let duplex := (runtime.handlers.lookup invocation.command).any (·.duplex)
  if consumer = .dispatch ∧ duplex then
    .done (failure "DUPLEX_REQUIRES_RUN" "duplex commands require CommandRuntime::run")
  else if permit then
    let (cancellation, active) := active.newToken
    match (active.track invocation.id invocation.nodeId cancellation duplex).1 with
    | none => .done (failure "DUPLICATE_INVOCATION" "invocation id is already executing")
    | some _ => .tracked
  else if place then
    .done (failure "OVERLOADED" "command runtime is at its concurrency limit")
  else .aborted

end

/-- The evaluation of one invocation, its world and what it did so far. -/
structure EvaluationRun (c : RuntimeClosures H P ω ν) where
  phase : EvaluationPhase c
  world : EvaluationWorld ω
  events : List (EvaluationEvent H P ω)

inductive EvaluationAction (ν : Type)
  | poll (notes : List ν)
  | environment
  | abort

/-- The environment may change anything in the world between two polls, and drop the evaluation. -/
inductive EvaluationStep (c : RuntimeClosures H P ω ν) (runtime : CommandRuntime H P)
    (formatDouble : Json.Double → String) (advertised : Finset String)
    (invocation : NodeInvocation) :
    EvaluationRun c → EvaluationAction ν → EvaluationRun c → Prop
  | poll {s phase world events notes} :
      EvaluationPoll c runtime formatDouble advertised invocation s.phase s.world events notes phase
        world →
      EvaluationStep c runtime formatDouble advertised invocation s (.poll notes)
        ⟨phase, world, s.events ++ events⟩
  | environment {s} (world : EvaluationWorld ω) :
      EvaluationStep c runtime formatDouble advertised invocation s .environment
        { s with world := world }
  | abort {s} : EvaluationStep c runtime formatDouble advertised invocation s .abort
        { s with phase := .aborted }

/-- The evaluation of one invocation that `run` or `dispatch` has taken. -/
def evaluationSystem (c : RuntimeClosures H P ω ν) (runtime : CommandRuntime H P)
    (formatDouble : Json.Double → String) (advertised : Finset String) (active : ActiveInvocations)
    (invocation : NodeInvocation) : System (EvaluationRun c) (EvaluationAction ν) where
  Initial s := ∃ consumer permit place,
    s.phase = runtime.consume c consumer permit place active invocation ∧ s.events = []
  Step := EvaluationStep c runtime formatDouble advertised invocation

end OpenclawNode.Node
