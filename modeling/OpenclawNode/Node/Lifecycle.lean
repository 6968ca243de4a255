import Mathlib.Data.List.Infix
import OpenclawNode.Base.Transition
import OpenclawNode.Base.FixedWidth
import OpenclawNode.Node.ConnectDetails
import OpenclawNode.Node.Invocation

/-! The connection, reconnect, runtime and shutdown driver of a node. -/
namespace OpenclawNode.Node

open Transition (System)

inductive ClientError
  | invalidUrl (reason : String)
  | insecureRemoteGateway
  | transport (reason : String)
  | tls (reason : String)
  | connectTimeout
  | challengeTimeout
  | invalidChallenge (reason : String)
  | connectParams (reason : String)
  | identity (reason : String)
  | gateway (method code message : String) (details : Option Json.Value) (retryable : Option Bool)
      (retryAfterMs : Option UInt64)
  | requestTimeout (method : String)
  | writeTimeout (operation : String)
  | closed (reason : String)
  | invalidFrame (reason : String)
  | eventLagged (count : UInt64)
  | notActivated

inductive ClientErrorClass
  | configuration
  | transport
  | protocol
  | identity
  | gateway
  | requestTimeout
  | eventLagged
  | activation
  deriving DecidableEq, Repr

def tlsPinMismatchError : String := "Gateway TLS certificate fingerprint mismatch"

/-- Whether a TLS failure is one that no retry can mend. -/
def isTlsConfigurationError (reason : String) : Bool :=
  decide (tlsPinMismatchError.toList <:+: reason.toList) ||
    decide ("Gateway TLS fingerprint requires a wss:// URL".toList <:+: reason.toList)

def ClientErrorClass.of : ClientError → ClientErrorClass
  | .invalidUrl _ => .configuration
  | .insecureRemoteGateway => .configuration
  | .tls reason => if isTlsConfigurationError reason then .configuration else .transport
  | .transport _ => .transport
  | .connectTimeout => .transport
  | .challengeTimeout => .transport
  | .writeTimeout _ => .transport
  | .closed _ => .transport
  | .invalidChallenge _ => .protocol
  | .invalidFrame _ => .protocol
  | .connectParams _ => .identity
  | .identity _ => .identity
  | .gateway .. => .gateway
  | .requestTimeout _ => .requestTimeout
  | .eventLagged _ => .eventLagged
  | .notActivated => .activation

inductive RuntimeErrorClass
  | deliverySaturated
  | resultTask
  deriving DecidableEq, Repr

inductive LifecycleDisconnectReason
  | client (error : ClientErrorClass)
  | runtime (error : RuntimeErrorClass)
  | runtimeEnded
  | shutdown
  deriving DecidableEq, Repr

/-- Why reconnecting is given up. -/
inductive ReconnectPause
  | devicePairing (request : DevicePairingRequest)
  | authentication (detailCode : String)
  | protocol (detailCode : Option String)
  | configuration
  | localIdentity
  deriving DecidableEq, Repr

inductive ReconnectAction
  | keepSession
  | retryAfter (delay : Nanos)
  | retryWithStoredDeviceTokenAfter (delay : Nanos)
  | pause (reason : ReconnectPause)
  deriving DecidableEq, Repr

inductive LifecycleEvent
  | connecting (attempt : UInt64)
  | connected (attempt : UInt64) (protocol : Option UInt64) (serverVersion : Option String)
  | ready (attempt : UInt64)
  | disconnected (attempt : UInt64) (reason : LifecycleDisconnectReason)
  | backingOff (attempt : UInt64) (delay : Nanos) (reason : LifecycleDisconnectReason)
  | paused (attempt : UInt64) (reason : ReconnectPause)
  | stopped (attempt : UInt64) (drained : Bool)
  deriving DecidableEq, Repr

/-- What `CommandRuntime::run` returns. -/
inductive RuntimeResult
  | ended
  | client (error : ClientError)
  | deliverySaturated
  | resultTask

/-- What the lifecycle reads of a session it connected. -/
structure ConnectedSession where
  protocol : Option UInt64
  serverVersion : Option String
  issuedDeviceToken : Option String

inductive LifecycleError
  | paused (reason : ReconnectPause)
  deriving DecidableEq, Repr

/-- Where the driver awaits. -/
inductive LifecyclePhase
  | starting
  | connecting
  | running
  | draining
  | backingOff (delay : Nanos)
  | returned (result : Except LifecycleError Unit)
  deriving DecidableEq, Repr

/-- A lifecycle over a reconnect policy, with what it emitted, how often it connected, and for each
poll of the shutdown future whether that had already completed. -/
structure LifecycleRun (Policy : Type) where
  reconnect : Policy
  attempt : UInt64
  phase : LifecyclePhase
  events : List LifecycleEvent
  issuedTokens : List (UInt64 × String)
  connects : List UInt64
  shutdownDone : Bool
  polls : List Bool

/-- A reconnect policy: how it is reset and what it makes of a failure. -/
structure ReconnectRules (Policy : Type) where
  connected : Policy → Policy
  afterFailure : Policy → ClientError → ReconnectAction × Policy

/-- How long the driver waits after a failed result task or a retired session. -/
structure LifecycleDelays where
  runtimeRestartDelay : Nanos
  retiredSessionRetryDelay : Nanos

namespace LifecycleRun

variable {Policy : Type} (rules : ReconnectRules Policy) (delays : LifecycleDelays)

def emit (s : LifecycleRun Policy) (event : LifecycleEvent) : LifecycleRun Policy :=
  { s with events := s.events ++ [event] }

def finish (s : LifecycleRun Policy) (result : Except LifecycleError Unit) : LifecycleRun Policy :=
  { s with phase := .returned result }

/-- A poll of the shutdown future, which is ready or not. -/
def pollShutdown (s : LifecycleRun Policy) (ready : Bool) : LifecycleRun Policy :=
  { s with polls := s.polls ++ [s.shutdownDone], shutdownDone := s.shutdownDone || ready }

/-- The other branch of a `select!` won, with or without a look at the shutdown future first. -/
def won (s : LifecycleRun Policy) (polled : Bool) : LifecycleRun Policy :=
  if polled then s.pollShutdown false else s

/-- `saturating_add(1)` on the attempt. -/
def nextAttempt (attempt : UInt64) : UInt64 := (FixedWidth.checkedSucc attempt).getD attempt

/-- The head of the loop: the next attempt is announced and the connection factory invoked. -/
def begin (s : LifecycleRun Policy) : LifecycleRun Policy :=
  let attempt := nextAttempt s.attempt
  { s.emit (.connecting attempt) with
    attempt := attempt
    phase := .connecting
    connects := s.connects ++ [attempt] }

def stop (s : LifecycleRun Policy) (drained : Bool) : LifecycleRun Policy :=
  (s.emit (.stopped s.attempt drained)).finish (.ok ())

def backoff (s : LifecycleRun Policy) (delay : Nanos) (reason : LifecycleDisconnectReason) :
    LifecycleRun Policy :=
  { s.emit (.backingOff s.attempt delay reason) with phase := .backingOff delay }

def handleClientFailure (s : LifecycleRun Policy) (error : ClientError) : LifecycleRun Policy :=
  let reason := LifecycleDisconnectReason.client (.of error)
  let s := s.emit (.disconnected s.attempt reason)
  let (action, reconnect) := rules.afterFailure s.reconnect error
  let s := { s with reconnect := reconnect }
  match action with
  | .retryAfter delay => s.backoff delay reason
  | .retryWithStoredDeviceTokenAfter delay => s.backoff delay reason
  | .pause pause => (s.emit (.paused s.attempt pause)).finish (.error (.paused pause))
  | .keepSession => s.backoff delays.retiredSessionRetryDelay reason

def handleRuntimeFailure (s : LifecycleRun Policy) (error : RuntimeErrorClass) :
    LifecycleRun Policy :=
  let reason := LifecycleDisconnectReason.runtime error
  (s.emit (.disconnected s.attempt reason)).backoff delays.runtimeRestartDelay reason

/-- A session is connected, announced, and its issued token handed on. -/
def onConnected (s : LifecycleRun Policy) (session : ConnectedSession) : LifecycleRun Policy :=
  let s := { s with reconnect := rules.connected s.reconnect }
  let s := s.emit (.connected s.attempt session.protocol session.serverVersion)
  let s := { s with
    issuedTokens := s.issuedTokens ++ session.issuedDeviceToken.toList.map (s.attempt, ·) }
  { s.emit (.ready s.attempt) with phase := .running }

def onRuntimeResult (s : LifecycleRun Policy) : RuntimeResult → LifecycleRun Policy
  | .client error => s.handleClientFailure rules delays error
  | .deliverySaturated => s.handleRuntimeFailure delays .deliverySaturated
  | .resultTask => s.handleRuntimeFailure delays .resultTask
  | .ended => { s.emit (.disconnected s.attempt .runtimeEnded) with phase := .starting }

end LifecycleRun

/-- What the driver is woken by. -/
inductive LifecycleAction
  | begin
  | pending
  | shutdown
  | connected (session : ConnectedSession)
  | connectFailed (error : ClientError)
  | runtime (result : RuntimeResult)
  | drained (inTime : Bool)
  | delayElapsed

/-- A wait in which the shutdown future is polled. -/
def LifecyclePhase.polls : LifecyclePhase → Prop
  | .connecting => True
  | .running => True
  | .backingOff _ => True
  | _ => False

/-- The driver's steps. The branches of its `select!`s are polled in either order. -/
inductive LifecycleStep {Policy : Type} (rules : ReconnectRules Policy) (delays : LifecycleDelays) :
    LifecycleRun Policy → LifecycleAction → LifecycleRun Policy → Prop
  | begin {s} : s.phase = .starting → LifecycleStep rules delays s .begin s.begin
  | pending {s} : s.phase.polls → LifecycleStep rules delays s .pending (s.pollShutdown false)
  | connectShutdown {s} : s.phase = .connecting →
      LifecycleStep rules delays s .shutdown ((s.pollShutdown true).stop true)
  | connected {s} (polled : Bool) (session : ConnectedSession) : s.phase = .connecting →
      LifecycleStep rules delays s (.connected session) ((s.won polled).onConnected rules session)
  | connectFailed {s} (polled : Bool) (error : ClientError) : s.phase = .connecting →
      LifecycleStep rules delays s (.connectFailed error)
        ((s.won polled).handleClientFailure rules delays error)
  | runShutdown {s} : s.phase = .running →
      LifecycleStep rules delays s .shutdown
        { (s.pollShutdown true).emit (.disconnected s.attempt .shutdown) with phase := .draining }
  | runtime {s} (polled : Bool) (result : RuntimeResult) : s.phase = .running →
      LifecycleStep rules delays s (.runtime result)
        ((s.won polled).onRuntimeResult rules delays result)
  | drained {s} (inTime : Bool) : s.phase = .draining →
      LifecycleStep rules delays s (.drained inTime) (s.stop inTime)
  | backoffShutdown {s delay} : s.phase = .backingOff delay →
      LifecycleStep rules delays s .shutdown ((s.pollShutdown true).stop true)
  | delayElapsed {s delay} (polled : Bool) : s.phase = .backingOff delay →
      LifecycleStep rules delays s .delayElapsed { s.won polled with phase := .starting }

def lifecycleSystem {Policy : Type} (rules : ReconnectRules Policy) (delays : LifecycleDelays) :
    System (LifecycleRun Policy) LifecycleAction where
  Initial s := ∃ policy, s = ⟨policy, 0, .starting, [], [], [], false, []⟩
  Step := LifecycleStep rules delays

/-- Whether the host is ready, after each event it is shown. -/
def hostReady (ready : Bool) : LifecycleEvent → Bool
  | .connecting _ => false
  | .connected .. => ready
  | .ready _ => true
  | .disconnected .. => false
  | .backingOff .. => ready
  | .paused .. => false
  | .stopped .. => false

end OpenclawNode.Node
