import OpenclawNode.Node.HandlerGates
import OpenclawNode.Node.InvocationEvents

/-! Every result of an evaluation is bounded and can be sent. -/
namespace OpenclawNode.Node

open BoundedWriter (Serialization)
open Future (AsyncFn Polled)
open Json (Value object string)

variable {H P ω ν : Type} {c : RuntimeClosures H P ω ν} {runtime : CommandRuntime H P}
  {formatDouble : Json.Double → String} {advertised : Finset String} {active : ActiveInvocations}
  {invocation : NodeInvocation} {registration : RegisteredHandler H} {policy : P}
  {start : Nanos} {timeout expires : Option Nanos} {w w' : EvaluationWorld ω}
  {events : List (EvaluationEvent H P ω)} {notes : List ν} {phase phase' : EvaluationPhase c}
  {result : InvocationResult}

/-- What `complete_invocation` requests, or the error it ends with before any request. -/
def completeInvocation (activated : Bool) (invocation : NodeInvocation)
    (result : InvocationResult) : Except ClientError (String × Value) :=
  if activated then do
    let params ← invocationResultParams invocation result
    return ("node.invoke.result", params)
  else .error .notActivated

/-- The codes and messages that the runtime itself gives. -/
def runtimeFailures : List (String × String) :=
  [("DUPLEX_REQUIRES_RUN", "duplex commands require CommandRuntime::run"),
    ("DUPLICATE_INVOCATION", "invocation id is already executing"),
    ("OVERLOADED", "command runtime is at its concurrency limit"),
    ("COMMAND_NOT_ADVERTISED", "command is outside the active connection manifest"),
    ("COMMAND_NOT_FOUND", "no handler registered for command"),
    ("INPUT_TOO_LARGE", "command parameters exceed the runtime limit"),
    ("HANDLER_TIMEOUT", "command handler deadline already elapsed"),
    ("HANDLER_TIMEOUT", "command admission exceeded its deadline"),
    ("HANDLER_TIMEOUT", "command handler exceeded its deadline"),
    ("INVOCATION_CANCELLED", "command invocation was cancelled during admission"),
    ("INVOCATION_CANCELLED", "command invocation was cancelled before handler execution"),
    ("SESSION_RETIRED", "command invocation belongs to a retired session"),
    ("INPUT_BUFFER_OVERFLOW", "duplex command input exceeded the pending-byte limit"),
    ("ADMISSION_PANIC", "command admission policy panicked"),
    ("HANDLER_PANIC", "command handler panicked"),
    ("OUTPUT_TOO_LARGE", "command error exceeds the runtime limit"),
    ("OUTPUT_TOO_LARGE", "command result exceeds the runtime limit")]

def errorObject (code message : String) : Serialization :=
  object [("code", string code), ("message", string message)]

/-- The result can be sent: a payload and the text of an error that is not the runtime's own fit in
the output limit, and an error has a code and a message. -/
def Deliverable (runtime : CommandRuntime H P) (formatDouble : Json.Double → String) :
    InvocationResult → Prop
  | .success payload => (payload.serialize formatDouble).output.length ≤ runtime.maxOutputBytes
  | .failure code message => code ≠ "" ∧ message ≠ "" ∧
    ((code, message) ∈ runtimeFailures ∨
      (errorObject code message).output.length ≤ runtime.maxOutputBytes)

/-- Every failure of the runtime itself has a code and a message. -/
theorem deliverable_failure {code message : String} (h : (code, message) ∈ runtimeFailures) :
    Deliverable runtime formatDouble (failure code message) := by
  have hall : ∀ own ∈ runtimeFailures, own.1 ≠ "" ∧ own.2 ≠ "" := by decide
  exact ⟨(hall _ h).1, (hall _ h).2, .inl h⟩

/-- The error of a policy or a handler, with its defaults, fits in the limit or is replaced. -/
theorem deliverable_handlerFailure {error : HandlerError} {fallbackCode fallbackMessage : String}
    (hcode : fallbackCode ≠ "") (hmessage : fallbackMessage ≠ "") :
    Deliverable runtime formatDouble
      (handlerFailure error fallbackCode fallbackMessage runtime.maxOutputBytes) := by
  have hcode' : (if error.code = "" then fallbackCode else error.code) ≠ "" := by
    split
    · exact hcode
    · assumption
  have hmessage' : (if error.message = "" then fallbackMessage else error.message) ≠ "" := by
    split
    · exact hmessage
    · assumption
  unfold handlerFailure
  generalize (if error.code = "" then fallbackCode else error.code) = code at hcode' ⊢
  generalize (if error.message = "" then fallbackMessage else error.message) = message
    at hmessage' ⊢
  by_cases hfits : serializedJsonWithinLimit
    (object [("code", string code), ("message", string message)]) runtime.maxOutputBytes = true
  · rw [if_pos hfits]
    exact ⟨hcode', hmessage', .inr (serializedJsonWithinLimit_iff.mp hfits).2⟩
  · rw [if_neg hfits]
    exact deliverable_failure (by decide)

theorem deliverable_resolve
    (h : runtime.resolveSessionHandler advertised invocation = .error result) :
    Deliverable runtime formatDouble result := by
  rw [CommandRuntime.resolveSessionHandler] at h
  split at h
  · cases h
    exact deliverable_failure (by decide)
  · cases hl : runtime.handlers.lookup invocation.command with
    | none =>
      rw [hl] at h
      cases h
      exact deliverable_failure (by decide)
    | some registration =>
      rw [hl] at h
      cases h

theorem deliverable_handlerOutcome {outcome : Polled (Except HandlerError Value)}
    (h : handlerOutcome runtime formatDouble expires w outcome = (some result, w')) :
    Deliverable runtime formatDouble result := by
  cases outcome with
  | pending =>
    rw [handlerOutcome] at h
    split at h
    · cases h
      exact deliverable_failure (by decide)
    · cases h
  | panicked =>
    cases h
    exact deliverable_failure (by decide)
  | ready value =>
    cases value with
    | error error =>
      cases h
      exact deliverable_handlerFailure (by decide) (by decide)
    | ok payload =>
      rw [handlerOutcome] at h
      split at h
      · next hfits =>
        cases h
        exact (serializedJsonWithinLimit_iff.mp hfits).2
      · cases h
        exact deliverable_failure (by decide)

theorem deliverable_admissionOutcome {outcome : Polled (Except HandlerError Unit)}
    (h : admissionOutcome runtime start timeout expires w outcome = some (.error result)) :
    Deliverable runtime formatDouble result := by
  cases outcome with
  | pending =>
    rw [admissionOutcome] at h
    split at h
    · cases h
      exact deliverable_failure (by decide)
    · cases h
  | panicked =>
    cases h
    exact deliverable_failure (by decide)
  | ready value =>
    cases value with
    | error error =>
      cases h
      exact deliverable_handlerFailure (by decide) (by decide)
    | ok _ =>
      cases timeout with
      | none => cases h
      | some limit =>
        rw [admissionOutcome] at h
        split at h
        · cases h
          exact deliverable_failure (by decide)
        · cases h

theorem deliverable_entryRejection (h : handlerEntryRejection w = (some result, w')) :
    Deliverable runtime formatDouble result := by
  rw [handlerEntryRejection] at h
  split at h
  · cases h
    exact deliverable_failure (by decide)
  · split at h
    · cases h
      exact deliverable_failure (by decide)
    · cases h

/-- An evaluation that has its result has one that can be sent. -/
def EvaluationPhase.Delivers (runtime : CommandRuntime H P) (formatDouble : Json.Double → String) :
    EvaluationPhase c → Prop
  | .stopping result | .done result => Deliverable runtime formatDouble result
  | _ => True

theorem delivers_failure {code message : String} (h : (code, message) ∈ runtimeFailures) :
    EvaluationPhase.Delivers runtime formatDouble
      (.done (failure code message) : EvaluationPhase c) :=
  @deliverable_failure _ _ runtime formatDouble _ _ h

theorem delivers_answered (h : Deliverable runtime formatDouble result) :
    (EvaluationPhase.answered c registration result).Delivers runtime formatDouble := by
  rw [EvaluationPhase.answered]
  split <;> exact h

theorem ExecutePoll.delivers {future : (c.handler registration.handler).State}
    (h : ExecutePoll c runtime formatDouble registration future expires w notes phase w') :
    phase.Delivers runtime formatDouble := by
  cases h with
  | overflow _ _ => exact delivers_answered (deliverable_failure (by decide))
  | pending _ _ _ _ => trivial
  | result _ _ _ _ ho => exact delivers_answered (deliverable_handlerOutcome ho)

theorem EntryPoll.delivers
    (h : EntryPoll c runtime formatDouble invocation registration timeout w events notes phase w') :
    phase.Delivers runtime formatDouble := by
  cases h with
  | overflow _ => exact delivers_failure (by decide)
  | rejected _ _ hr => exact deliverable_entryRejection hr
  | panicked _ _ _ => exact delivers_failure (by decide)
  | called _ _ _ hx => exact hx.delivers

theorem AdmissionPoll.delivers {future : (c.admission policy).State}
    (h : AdmissionPoll c runtime formatDouble invocation registration policy future start timeout
      expires w events notes phase w') :
    phase.Delivers runtime formatDouble := by
  cases h with
  | cancelled _ => exact delivers_failure (by decide)
  | pending _ _ _ _ => trivial
  | refused _ _ _ _ ho => exact deliverable_admissionOutcome ho
  | admitted _ _ _ _ hentry => exact hentry.delivers

theorem EvaluationPoll.delivers
    (h : EvaluationPoll c runtime formatDouble advertised invocation phase w events notes phase' w')
    (hd : phase.Delivers runtime formatDouble) : phase'.Delivers runtime formatDouble := by
  cases h with
  | unresolved _ hr => exact deliverable_resolve hr
  | tooLarge _ _ => exact delivers_failure (by decide)
  | elapsed _ _ _ => exact delivers_failure (by decide)
  | unguarded _ _ _ _ hentry => exact hentry.delivers
  | policyPanicked _ _ _ _ _ => exact delivers_failure (by decide)
  | guarded _ _ _ _ _ hadmission => exact hadmission.delivers
  | admitting hadmission => exact hadmission.delivers
  | executing hx => exact hx.delivers
  | stopped _ => exact hd

/-- A result that is given without an evaluation is one of the runtime's own. -/
theorem consume_delivers (consumer : Consumer) (permit place : Bool) :
    (runtime.consume c consumer permit place active invocation).Delivers runtime formatDouble := by
  rw [CommandRuntime.consume]
  dsimp only
  split
  · exact delivers_failure (by decide)
  · split
    · split
      · exact delivers_failure (by decide)
      · trivial
    · split
      · exact delivers_failure (by decide)
      · trivial

theorem delivers_reachable {s : EvaluationRun c}
    (hs : (evaluationSystem c runtime formatDouble advertised active invocation).Reachable s) :
    s.phase.Delivers runtime formatDouble := by
  refine hs.invariant (P := fun s => s.phase.Delivers runtime formatDouble) ?_ ?_
  · rintro s ⟨consumer, permit, place, hphase, _⟩
    rw [hphase]
    exact consume_delivers consumer permit place
  · intro s a s' hstep hd
    cases hstep with
    | poll hp => exact hp.delivers hd
    | environment _ => exact hd
    | abort => trivial

/-- A result that can be sent makes a request on an activated session. -/
theorem Deliverable.completes (h : Deliverable runtime formatDouble result)
    (invocation : NodeInvocation) : ∃ params,
      invocationResultParams invocation result = .ok params ∧
      completeInvocation true invocation result = .ok ("node.invoke.result", params) := by
  cases result with
  | success payload => exact ⟨_, rfl, rfl⟩
  | failure code message =>
    obtain ⟨hcode, hmessage, _⟩ := h
    have hparams : invocationResultParams invocation (.failure code message) = .ok (.object [
        ("error", .object [("code", .string code), ("message", .string message)]),
        ("id", .string invocation.id), ("nodeId", .string invocation.nodeId),
        ("ok", .bool false)]) := by
      rw [invocationResultParams, requireNonEmptyResultField, requireNonEmptyResultField,
        if_neg hcode, if_neg hmessage]
      rfl
    refine ⟨_, hparams, ?_⟩
    rw [completeInvocation, if_pos rfl, hparams]
    rfl

/-- In every run of an evaluation, whatever its policy and its handler do, the result is bounded and
non-empty where it has to be, and sending it gets as far as its request. -/
theorem result_deliverable (c : RuntimeClosures H P ω ν) (runtime : CommandRuntime H P)
    (formatDouble : Json.Double → String) (advertised : Finset String) (active : ActiveInvocations)
    (invocation : NodeInvocation) (s : EvaluationRun c) (result : InvocationResult)
    (hs : (evaluationSystem c runtime formatDouble advertised active invocation).Reachable s)
    (hresult : s.phase = .done result) :
    Deliverable runtime formatDouble result ∧ ∃ params,
      invocationResultParams invocation result = .ok params ∧
      completeInvocation true invocation result = .ok ("node.invoke.result", params) := by
  have hd := delivers_reachable hs
  rw [hresult] at hd
  have hdeliverable : Deliverable runtime formatDouble result := hd
  exact ⟨hdeliverable, hdeliverable.completes invocation⟩

theorem result_deliverable_echo :
    Deliverable echoRuntime (fun _ => "") (.success .null) ∧ ∃ params,
      invocationResultParams echoInvocation (.success .null) = .ok params ∧
      completeInvocation true echoInvocation (.success .null) =
        .ok ("node.invoke.result", params) :=
  result_deliverable echoClosures echoRuntime (fun _ => "") {"echo"} .empty echoInvocation _ _
    echo_reachable rfl

end OpenclawNode.Node
