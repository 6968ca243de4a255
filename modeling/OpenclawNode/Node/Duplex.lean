import OpenclawNode.Gateway.FrameOrder

/-! The progress and the result of one duplex invocation, on the session that carries them. -/
namespace OpenclawNode.Node

open Gateway (Caller Request SessionActor SessionRun SessionStep WireRequest)
open Transition (System)

def progressChunkBytes : Nat := 16 * 1024

/-- How many characters fit in so many bytes. -/
def utf8PrefixLen : List Char → Nat → Nat
  | [], _ => 0
  | c :: cs, maximum =>
    if c.utf8Size ≤ maximum then utf8PrefixLen cs (maximum - c.utf8Size) + 1 else 0

/-- The pieces in which a text is sent; the fuel bounds their number. -/
def progressChunks : Nat → List Char → List String
  | 0, _ => []
  | _ + 1, [] => []
  | fuel + 1, remaining =>
    let split := utf8PrefixLen remaining progressChunkBytes
    String.ofList (remaining.take split) :: progressChunks fuel (remaining.drop split)

def progressParams (invocation : NodeInvocation) (seq : UInt64) (chunk : String) : Json.Value :=
  .object [("chunk", .string chunk), ("invokeId", .string invocation.id),
    ("nodeId", .string invocation.nodeId), ("seq", .number (.posInt seq))]

/-- The sequence number and the chunk of a progress frame of this invocation. -/
def progressOf (invocation : NodeInvocation) (method : String) (params : Json.Value) :
    Option (UInt64 × String) :=
  match params with
  | .object [("chunk", .string chunk), ("invokeId", .string invokeId), ("nodeId", _),
      ("seq", .number (.posInt seq))] =>
    if method = "node.invoke.progress" ∧ invokeId = invocation.id then some (seq, chunk) else none
  | _ => none

/-- Whether this is the result of this invocation. -/
def isResult (invocation : NodeInvocation) (method : String) (params : Json.Value) : Bool :=
  match params with
  | .object members =>
    decide (method = "node.invoke.result") &&
      match (members.find? (·.1 = "id")).map Prod.snd with
      | some (.string id) => decide (id = invocation.id)
      | _ => false
  | _ => false

/-- Where one `write` or `heartbeat` stands: before its first check, waiting for the state, in a
request, or at its end. -/
inductive SenderPhase
  | ready
  | locking
  | requesting (caller : Nat)
  | done
  deriving DecidableEq, Repr

/-- One call of `write` or `heartbeat`, with what it has left to send. -/
structure ProgressSender where
  chunks : List String
  phase : SenderPhase

/-- A duplex invocation and its session. The last two fields record the callers of its progress and
of its result. -/
structure DuplexRun where
  session : SessionRun
  senders : Nat → Option ProgressSender
  seq : UInt64
  locked : Bool
  stopped : Bool
  cancelled : Bool
  begun : List Nat
  result : Option Nat

namespace DuplexRun

def setSender (w : DuplexRun) (k : Nat) (sender : ProgressSender) : DuplexRun :=
  { w with senders := Function.update w.senders k (some sender) }

/-- The invocation is no longer active. -/
def Ended (w : DuplexRun) : Prop := w.stopped = true ∨ w.cancelled = true

/-- The progress frames of the invocation on the wire, in order. -/
def frames (invocation : NodeInvocation) (w : DuplexRun) : List (UInt64 × String) :=
  w.session.wire.filterMap fun frame => progressOf invocation frame.method frame.params

end DuplexRun

inductive DuplexAction
  | session (a : SessionActor)
  | request (i : Nat)
  | write (k : Nat) (text : String)
  | heartbeat (k : Nat)
  | check (k : Nat)
  | begin (k i : Nat)
  | refuse (k : Nat)
  | succeed (k : Nat)
  | fail (k : Nat)
  | drop (k : Nat)
  | stop
  | cancel
  | complete (i : Nat)

/-- The steps of a duplex invocation on a session that admits `n` requests. Its senders may be run
by any task and dropped at any await, and other requests go on beside them. -/
inductive DuplexStep (invocation : NodeInvocation) (n : Nat) (writeTimeout requestTimeout : Nanos) :
    DuplexRun → DuplexAction → DuplexRun → Prop
  | session {w a s'} : SessionStep n writeTimeout w.session a s' →
      (∀ i, w.session.callers i = none → s'.callers i = none) →
      DuplexStep invocation n writeTimeout requestTimeout w (.session a) { w with session := s' }
  | request {w i} (c : Caller) (s' : SessionRun) :
      SessionStep n writeTimeout w.session (.caller i) s' → w.session.callers i = none →
      s' = w.session.setCaller i c → progressOf invocation c.method c.params = none →
      isResult invocation c.method c.params = false →
      DuplexStep invocation n writeTimeout requestTimeout w (.request i) { w with session := s' }
  | write {w k} (text : String) : w.senders k = none →
      DuplexStep invocation n writeTimeout requestTimeout w (.write k text)
        (w.setSender k ⟨progressChunks text.toList.length text.toList, .ready⟩)
  | heartbeat {w k} : w.senders k = none →
      DuplexStep invocation n writeTimeout requestTimeout w (.heartbeat k)
        (w.setSender k ⟨[""], .ready⟩)
  | check {w k chunk rest} : w.senders k = some ⟨chunk :: rest, .ready⟩ → ¬ w.Ended →
      DuplexStep invocation n writeTimeout requestTimeout w (.check k)
        (w.setSender k ⟨chunk :: rest, .locking⟩)
  | checkEnded {w k chunk rest} : w.senders k = some ⟨chunk :: rest, .ready⟩ → w.Ended →
      DuplexStep invocation n writeTimeout requestTimeout w (.refuse k)
        (w.setSender k ⟨chunk :: rest, .done⟩)
  | begin {w k chunk rest i} : w.senders k = some ⟨chunk :: rest, .locking⟩ → w.locked = false →
      ¬ w.Ended → w.session.callers i = none →
      DuplexStep invocation n writeTimeout requestTimeout w (.begin k i)
        { w.setSender k ⟨chunk :: rest, .requesting i⟩ with
          locked := true
          session := w.session.setCaller i (.fresh "node.invoke.progress"
            (progressParams invocation w.seq chunk) (w.session.now + requestTimeout) false)
          begun := w.begun ++ [i] }
  | beginEnded {w k chunk rest} : w.senders k = some ⟨chunk :: rest, .locking⟩ →
      w.locked = false → w.Ended →
      DuplexStep invocation n writeTimeout requestTimeout w (.refuse k)
        (w.setSender k ⟨chunk :: rest, .done⟩)
  | succeed {w k chunk rest i c payload} :
      w.senders k = some ⟨chunk :: rest, .requesting i⟩ → w.session.callers i = some c →
      c.phase = .done → c.observed = [.ok payload] →
      DuplexStep invocation n writeTimeout requestTimeout w (.succeed k)
        { w.setSender k ⟨rest, .ready⟩ with locked := false, seq := w.seq + 1 }
  | fail {w k chunks i c error} : w.senders k = some ⟨chunks, .requesting i⟩ →
      w.session.callers i = some c → c.phase = .done → c.observed = [.error error] →
      DuplexStep invocation n writeTimeout requestTimeout w (.fail k)
        { w.setSender k ⟨chunks, .done⟩ with locked := false }
  | dropWaiting {w k chunks phase} : w.senders k = some ⟨chunks, phase⟩ →
      phase = .ready ∨ phase = .locking →
      DuplexStep invocation n writeTimeout requestTimeout w (.drop k)
        (w.setSender k ⟨chunks, .done⟩)
  -- The request's own guard is dropped first, and cancels it.
  | dropRequesting {w k chunks i c} : w.senders k = some ⟨chunks, .requesting i⟩ →
      w.session.callers i = some c → c.phase = .done → c.observed = [] →
      DuplexStep invocation n writeTimeout requestTimeout w (.drop k)
        { w.setSender k ⟨chunks, .done⟩ with locked := false }
  | stop {w} : DuplexStep invocation n writeTimeout requestTimeout w .stop
        { w with stopped := true }
  | cancel {w} : DuplexStep invocation n writeTimeout requestTimeout w .cancel
        { w with cancelled := true }
  | complete {w i} (params : Json.Value) : w.result = none → w.Ended →
      w.session.callers i = none → isResult invocation "node.invoke.result" params = true →
      DuplexStep invocation n writeTimeout requestTimeout w (.complete i)
        { w with
          session := w.session.setCaller i (.fresh "node.invoke.result" params
            (w.session.now + requestTimeout) false)
          result := some i }

/-- An invocation that has just started on a session that carries nothing of it. -/
def DuplexRun.Initial (n : Nat) (writeTimeout : Nanos) (w : DuplexRun) : Prop :=
  (Gateway.sessionSystem n writeTimeout).Initial w.session ∧
    w = ⟨w.session, fun _ => none, 0, false, false, false, [], none⟩

def duplexSystem (invocation : NodeInvocation) (n : Nat) (writeTimeout requestTimeout : Nanos) :
    System DuplexRun DuplexAction where
  Initial w := w.Initial n writeTimeout
  Step := DuplexStep invocation (max n 1) writeTimeout requestTimeout

end OpenclawNode.Node
