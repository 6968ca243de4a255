import OpenclawNode.Base.Json

/-! Invocations, their results and handler errors. -/
namespace OpenclawNode.Node

/-- Points in time and durations in nanoseconds. -/
abbrev Nanos := Nat

def fromMillis (ms : Nat) : Nanos := ms * 1000000

/-- A Gateway-authorized node command invocation. -/
structure NodeInvocation where
  id : String
  nodeId : String
  command : String
  params : Json.Value
  timeoutMs : Option UInt64
  idempotencyKey : Option String
  sessionKey : Option String
  receivedParamsBytes : Option Nat
  receivedAt : Option Nanos

inductive InvocationResult
  | success (payload : Json.Value)
  | failure (code message : String)

structure HandlerError where
  code : String
  message : String
  deriving DecidableEq, Repr

inductive NodeSessionEvent
  | invocation (invocation : NodeInvocation)
  | invocationInput (invokeId nodeId : String) (seq : UInt64) (payloadJson : String)
  | invocationCancelled (invokeId nodeId : String)

end OpenclawNode.Node
