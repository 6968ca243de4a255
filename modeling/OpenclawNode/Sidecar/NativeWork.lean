import OpenclawNode.Node.HandlerGates
import OpenclawNode.Node.InvocationEvents
import OpenclawNode.Sidecar.Configuration
import OpenclawNode.Sidecar.Preflight

/-! The admission policy and the handlers of a bridge: native work behind a channel's liveness. -/
namespace OpenclawNode.Sidecar

open Future (AsyncFn Polled)
open Node (EvaluationWorld HandlerError NodeInvocation RuntimeClosures)
open Text (trim)

structure SidecarAdapterError where
  code : String
  message : String
  deriving DecidableEq, Repr

def adapterFailure (error : SidecarAdapterError) : HandlerError where
  code := if trim error.code = "" then "SIDECAR_ADAPTER" else error.code
  message :=
    if trim error.message = "" then "sidecar capability adapter failed" else error.message

/-- The world of a bridge's evaluations: whether the channel it is bound to is retired. -/
abbrev SidecarWorld := EvaluationWorld Bool

/-- The native capabilities, `admit` and `invoke`. They may read and change all of the world, retire
the channel, panic or never become ready. -/
structure SidecarCapabilityAdapter where
  admission : AsyncFn SidecarWorld SidecarInvocation
    (Except SidecarAdapterError SidecarAdmissionDecision) Empty
  invoke : AsyncFn SidecarWorld SidecarInvocation
    (Except SidecarAdapterError SidecarInvocationResult) Empty

/-- A call into the adapter. -/
inductive NativeCall
  | admission (invocation : SidecarInvocation)
  | invoke (invocation : SidecarInvocation)

/-- Where a future of the bridge stands: not polled yet, waiting for the adapter, or returned. -/
inductive SidecarFuture (State : Type)
  | fresh (invocation : NodeInvocation)
  | waiting (invocation : NodeInvocation) (future : State)
  | returned

section

variable {β α : Type} (native : AsyncFn SidecarWorld SidecarInvocation β Empty)
  (call : SidecarInvocation → NativeCall)
  (withinLimit : NodeInvocation → Bool)
  (conclude : NodeInvocation → β → Except HandlerError α)

/-- The biased `select!` between the retirement of the channel and the adapter's future. -/
inductive SelectPoll (invocation : NodeInvocation) (future : native.State) (w : SidecarWorld) :
    Polled (Except HandlerError α) → SidecarFuture native.State → SidecarWorld → Prop
  | retired : w.beyond = true →
      SelectPoll invocation future w (.ready (.error channelRetired)) .returned w.cancel
  | pending {future' w'} : w.beyond = false → native.Poll future w [] .pending future' w' →
      SelectPoll invocation future w .pending (.waiting invocation future') w'
  | panicked {future' w'} : w.beyond = false → native.Poll future w [] .panicked future' w' →
      SelectPoll invocation future w .panicked .returned w'
  | ready {future' w'} (value : β) : w.beyond = false →
      native.Poll future w [] (.ready value) future' w' →
      SelectPoll invocation future w (.ready (conclude invocation value)) .returned w'

/-- One poll of an evaluation behind the channel's liveness. -/
inductive SidecarPoll : SidecarFuture native.State → SidecarWorld → List NativeCall →
    Polled (Except HandlerError α) → SidecarFuture native.State → SidecarWorld → Prop
  | retired {invocation w} : w.beyond = true →
      SidecarPoll (.fresh invocation) w [] (.ready (.error channelRetired)) .returned w.cancel
  | nonportable {invocation w} : w.beyond = false → nodeInvocationIsPortable invocation = false →
      SidecarPoll (.fresh invocation) w [] (.ready (.error nonportableJson)) .returned w
  | tooLarge {invocation w} : w.beyond = false → nodeInvocationIsPortable invocation = true →
      withinLimit invocation = false →
      SidecarPoll (.fresh invocation) w [] (.ready (.error messageTooLarge)) .returned w
  | panicked {invocation w w'} : w.beyond = false → nodeInvocationIsPortable invocation = true →
      withinLimit invocation = true →
      native.Call (.ofNode invocation) w [] none w' →
      SidecarPoll (.fresh invocation) w [call (.ofNode invocation)] .panicked .returned w'
  | called {invocation w w' w'' future outcome future'} : w.beyond = false →
      nodeInvocationIsPortable invocation = true → withinLimit invocation = true →
      native.Call (.ofNode invocation) w [] (some future) w' →
      SelectPoll native conclude invocation future w' outcome future' w'' →
      SidecarPoll (.fresh invocation) w [call (.ofNode invocation)] outcome future' w''
  | waiting {invocation w w' future outcome future'} :
      SelectPoll native conclude invocation future w outcome future' w' →
      SidecarPoll (.waiting invocation future) w [] outcome future' w'

/-- An asynchronous function of the bridge: calling it only makes its future. -/
def sidecarFn : AsyncFn SidecarWorld NodeInvocation (Except HandlerError α) NativeCall where
  State := SidecarFuture native.State
  Call invocation w notes future w' := notes = [] ∧ future = some (.fresh invocation) ∧ w' = w
  Poll := SidecarPoll native call withinLimit conclude

end

section

variable (formatDouble : Json.Double → String) (adapter : SidecarCapabilityAdapter)
  (maxPayloadBytes : Nat)

/-- What the adapter's answer to an admission becomes. -/
def concludeAdmission (invocation : NodeInvocation)
    (result : Except SidecarAdapterError SidecarAdmissionDecision) : Except HandlerError Unit :=
  let decision := match result with
    | .ok decision => decision
    | .error error => .deny (adapterFailure error).code (adapterFailure error).message
  if (SidecarRuntimeMessageRef.admissionDecision invocation.id decision).withinLimit formatDouble
      maxPayloadBytes then
    match decision with
    | .allow => .ok ()
    | .deny code message => .error ⟨code, message⟩
  else .error messageTooLarge

/-- What the adapter's answer to an invocation becomes. -/
def concludeInvocation (invocation : NodeInvocation)
    (result : Except SidecarAdapterError SidecarInvocationResult) :
    Except HandlerError Json.Value :=
  let outcome := match result with
    | .ok outcome => outcome
    | .error error => .failure (adapterFailure error).code (adapterFailure error).message
  if invocationResultIsPortable outcome then
    if (SidecarRuntimeMessageRef.result invocation.id outcome).withinLimit formatDouble
        maxPayloadBytes then
      outcome.toHandlerResult
    else .error messageTooLarge
  else .error nonportableJson

def evaluateSidecarAdmission :
    AsyncFn SidecarWorld NodeInvocation (Except HandlerError Unit) NativeCall :=
  sidecarFn adapter.admission .admission
    (fun invocation => (SidecarRuntimeMessageRef.admissionRequest (.ofNode invocation)).withinLimit
      formatDouble maxPayloadBytes)
    (concludeAdmission formatDouble maxPayloadBytes)

def evaluateSidecarInvocation :
    AsyncFn SidecarWorld NodeInvocation (Except HandlerError Json.Value) NativeCall :=
  sidecarFn adapter.invoke .invoke
    (fun invocation => (SidecarRuntimeMessageRef.invoke (.ofNode invocation)).withinLimit
      formatDouble maxPayloadBytes)
    (concludeInvocation formatDouble maxPayloadBytes)

/-- What the policy and the handlers of a bridge's runtime do with an adapter. -/
def sidecarClosures : RuntimeClosures SidecarBinding SidecarBinding Bool NativeCall where
  admission binding := evaluateSidecarAdmission formatDouble adapter binding.maxPayloadBytes
  handler binding := evaluateSidecarInvocation formatDouble adapter binding.maxPayloadBytes

end
end OpenclawNode.Sidecar
