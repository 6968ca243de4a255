import Mathlib.Data.Finset.Card
import OpenclawNode.Base.Transition
import OpenclawNode.Gateway.Session
import OpenclawNode.Legacy.Reconnect

/-! A session of the first client. Its cancellations have a channel of their own. -/
namespace OpenclawNode.Legacy

open Gateway (GatewayErrorShape WireRequest)
open Json (Value)
open Node (Nanos)
open Transition (System)

/-- What a request comes to. -/
abbrev Reply := Except ClientError Value

/-- The request that opened the session. -/
def connectId : String := "rust-node-connect-1"

def requestId (n : UInt64) : String := "rust-node-" ++ Nat.repr n.toNat

def responseResult (method : String) (ok : Bool) (payload : Value)
    (error : Option GatewayErrorShape) : Reply :=
  if ok then .ok payload
  else
    let error := error.getD ⟨"UNKNOWN", "Gateway rejected the request", none, none, none⟩
    let code := if error.code = "" then "UNKNOWN" else error.code
    let message := if error.message = "" then "Gateway rejected the request" else error.message
    .error (.gateway method code message error.details error.retryable error.retryAfterMs)

inductive SessionCloseCause
  | closed (reason : String)
  | invalidFrame (reason : String)
  | transport (reason : String)
  deriving DecidableEq, Repr

def SessionCloseCause.toClientError : SessionCloseCause → ClientError
  | .closed reason => .closed reason
  | .invalidFrame reason => .invalidFrame reason
  | .transport reason => .transport reason

def SessionCloseCause.pendingRequestError (method : String) : SessionCloseCause → ClientError
  | .closed reason => .closed (reason ++ "; request " ++ method ++ " did not complete")
  | .invalidFrame reason => .invalidFrame (reason ++ "; request " ++ method ++ " did not complete")
  | .transport reason => .transport (reason ++ "; request " ++ method ++ " did not complete")

/-- A request on its way, with the caller whose reply it carries. -/
structure Request where
  id : String
  method : String
  params : Value
  caller : Nat

inductive SessionCommand
  | request (r : Request)
  | close

/-- The receiving end of a oneshot reply. -/
inductive ReplySlot
  | waiting
  | value (reply : Reply)
  | closed

/-- Where a `request` future stands. Its deadline is set when the request is in the channel. -/
inductive CallerPhase
  | waitingPermit
  | sending
  | waitingReply (deadline : Nanos)
  | cancelling
  | done
  deriving DecidableEq, Repr

/-- One call of `request`, with everything it has returned. -/
structure Caller where
  method : String
  params : Value
  id : Option String
  phase : CallerPhase
  reply : ReplySlot
  observed : List Reply

def Caller.fresh (method : String) (params : Value) : Caller where
  method := method
  params := params
  id := none
  phase := .waitingPermit
  reply := .waiting
  observed := []

/-- The future returns. -/
def Caller.finish (c : Caller) (reply : Reply) : Caller :=
  { c with phase := .done, observed := c.observed ++ [reply] }

/-- The other end sends a value, or is dropped without one. -/
def Caller.answered (c : Caller) : Option Reply → Caller
  | some reply => { c with reply := .value reply }
  | none => { c with reply := .closed }

/-- What the socket yields, and how the pong that answers a ping fails. -/
inductive Inbound
  | event
  | response (id : String) (ok : Bool) (payload : Value) (error : Option GatewayErrorShape)
  | undecodable (error : String)
  | ping (failure : Option String)
  | close (reason : String)
  | ignored
  | failed (error : String)
  | ended

/-- Where the session task stands. -/
inductive SessionPhase
  | selecting
  | writing (r : Request)
  | failing (cause : SessionCloseCause)
  | announced
  | ended

/-- The request that is being written. -/
def SessionPhase.written : SessionPhase → List Request
  | .writing r => [r]
  | _ => []

/-- Both channels have lost their receivers. -/
def SessionPhase.isEnded : SessionPhase → Bool
  | .ended => true
  | _ => false

/-- A session with its callers. The wire holds what was handed to the socket. The last two fields
record the ids handed out, and those of the cancellations taken before their requests. -/
structure SessionRun where
  now : Nanos
  inFlight : Nat
  nextRequestId : UInt64
  callers : Nat → Option Caller
  holders : Finset Nat
  commands : List SessionCommand
  cancellations : List String
  phase : SessionPhase
  pending : List Request
  closed : Option SessionCloseCause
  wire : List WireRequest
  assigned : List String
  overtaken : List String

def queuedRequests (commands : List SessionCommand) : List Request :=
  commands.filterMap fun command =>
    match command with
    | .request r => some r
    | .close => none

namespace SessionRun

def setCaller (s : SessionRun) (i : Nat) (c : Caller) : SessionRun :=
  { s with callers := Function.update s.callers i (some c) }

/-- Drop requests: each sends its answer, if it has one. -/
def settle (s : SessionRun) (rs : List Request) (answer : Request → Option Reply) : SessionRun :=
  { s with
    callers := fun i =>
      match rs.find? (·.caller = i) with
      | some r => (s.callers i).map (·.answered (answer r))
      | none => s.callers i }

def closedError (s : SessionRun) : ClientError :=
  match s.closed with
  | none => .closed "session task ended"
  | some cause => cause.toClientError

/-- A permit was acquired: take the next id. -/
def acquire (s : SessionRun) (i : Nat) (c : Caller) : SessionRun :=
  { s.setCaller i { c with id := some (requestId s.nextRequestId), phase := .sending } with
    inFlight := s.inFlight - 1
    holders := insert i s.holders
    nextRequestId := s.nextRequestId + 1
    assigned := s.assigned ++ [requestId s.nextRequestId] }

/-- The command is in the channel, and the wait for the reply begins. -/
def enqueue (requestTimeout : Nanos) (s : SessionRun) (i : Nat) (c : Caller) (id : String) :
    SessionRun :=
  { s.setCaller i { c with phase := .waitingReply (s.now + requestTimeout) } with
    commands := s.commands ++ [.request ⟨id, c.method, c.params, i⟩] }

/-- The call ends, and its permit is given back. -/
def release (s : SessionRun) (i : Nat) (c : Caller) : SessionRun :=
  { s.setCaller i c with inFlight := s.inFlight + 1, holders := s.holders.erase i }

/-- The caller timed out: it hands in a cancellation, which a session that has ended loses. -/
def cancel (s : SessionRun) (i : Nat) (c : Caller) (id : String) : SessionRun :=
  { s.release i (c.finish (.error (.requestTimeout c.method))) with
    cancellations := if s.phase.isEnded then s.cancellations else s.cancellations ++ [id] }

def takeCancellation (s : SessionRun) (id : String) (rest : List String) : SessionRun :=
  { s.settle (s.pending.filter (·.id = id)) fun _ => none with
    cancellations := rest
    pending := s.pending.filter (¬ ·.id = id)
    overtaken :=
      if (queuedRequests s.commands).any (·.id = id) then s.overtaken ++ [id] else s.overtaken }

/-- A request leaves the channel and is handed to the socket. -/
def takeRequest (s : SessionRun) (r : Request) (rest : List SessionCommand) : SessionRun :=
  { s with
    commands := rest
    phase := .writing r
    wire := s.wire ++ [⟨r.id, r.method, r.params⟩] }

/-- Inserting into the map drops what was under the same id. -/
def insertPending (s : SessionRun) (r : Request) : SessionRun :=
  { s.settle (s.pending.filter (·.id = r.id)) fun _ => none with
    pending := s.pending.filter (¬ ·.id = r.id) ++ [r]
    phase := .selecting }

/-- The session goes on after a write that failed. -/
def failWrite (s : SessionRun) (r : Request) (error : String) : SessionRun :=
  { s.settle [r] fun _ => some (.error (.transport error)) with phase := .selecting }

def onResponse (s : SessionRun) (id : String) (ok : Bool) (payload : Value)
    (error : Option GatewayErrorShape) : SessionRun :=
  { s.settle (s.pending.filter (·.id = id)) fun r =>
      some (responseResult r.method ok payload error) with
    pending := s.pending.filter (¬ ·.id = id) }

def onMessage (s : SessionRun) : Inbound → SessionRun
  | .event => s
  | .response id ok payload error => s.onResponse id ok payload error
  | .undecodable error => { s with phase := .failing (.invalidFrame error) }
  | .ping none => s
  | .ping (some error) => { s with phase := .failing (.transport error) }
  | .close reason => { s with phase := .failing (.closed reason) }
  | .ignored => s
  | .failed error => { s with phase := .failing (.transport error) }
  | .ended => { s with phase := .failing (.closed "Gateway ended the WebSocket stream") }

/-- The receivers are dropped with everything still queued. -/
def dropQueue (s : SessionRun) : SessionRun :=
  { s.settle (queuedRequests s.commands) fun _ => none with commands := [], phase := .ended }

end SessionRun

/-- Who takes a step. -/
inductive SessionActor
  | caller (i : Nat)
  | handle
  | session
  | clock
  deriving DecidableEq, Repr

/-- The steps of a session that admits `n` requests. A future is dropped at any of its awaits, and
every branch of the session's `select!` is taken whenever it is ready. -/
inductive SessionStep (n : Nat) (requestTimeout : Nanos) :
    SessionRun → SessionActor → SessionRun → Prop
  | call {s i} (method : String) (params : Value) : s.callers i = none → method ≠ "" →
      SessionStep n requestTimeout s (.caller i) (s.setCaller i (.fresh method params))
  | callEmpty {s i} (params : Value) : s.callers i = none →
      SessionStep n requestTimeout s (.caller i)
        (s.setCaller i ((Caller.fresh "" params).finish
          (.error (.invalidFrame "request method must not be empty"))))
  | acquire {s i c} : s.callers i = some c → c.phase = .waitingPermit → 0 < s.inFlight →
      SessionStep n requestTimeout s (.caller i) (s.acquire i c)
  | permitDropped {s i c} : s.callers i = some c → c.phase = .waitingPermit →
      SessionStep n requestTimeout s (.caller i) (s.setCaller i { c with phase := .done })
  | enqueue {s i c id} : s.callers i = some c → c.phase = .sending → c.id = some id →
      s.commands.length < n → s.phase ≠ .ended →
      SessionStep n requestTimeout s (.caller i) (s.enqueue requestTimeout i c id)
  | sendDropped {s i c} : s.callers i = some c → c.phase = .sending →
      SessionStep n requestTimeout s (.caller i) (s.release i { c with phase := .done })
  | sendClosed {s i c} : s.callers i = some c → c.phase = .sending → s.phase = .ended →
      SessionStep n requestTimeout s (.caller i)
        (s.release i (c.finish (.error s.closedError)))
  | receive {s i c deadline reply} : s.callers i = some c → c.phase = .waitingReply deadline →
      c.reply = .value reply →
      SessionStep n requestTimeout s (.caller i) (s.release i (c.finish reply))
  | receiveClosed {s i c deadline} : s.callers i = some c → c.phase = .waitingReply deadline →
      c.reply = .closed →
      SessionStep n requestTimeout s (.caller i)
        (s.release i (c.finish (.error s.closedError)))
  | elapse {s i c deadline} : s.callers i = some c → c.phase = .waitingReply deadline →
      c.reply = .waiting → deadline ≤ s.now →
      SessionStep n requestTimeout s (.caller i) (s.setCaller i { c with phase := .cancelling })
  -- Nothing is awaited between the timeout and the cancellation.
  | cancel {s i c id} : s.callers i = some c → c.phase = .cancelling → c.id = some id →
      SessionStep n requestTimeout s (.caller i) (s.cancel i c id)
  | replyDropped {s i c deadline} : s.callers i = some c → c.phase = .waitingReply deadline →
      SessionStep n requestTimeout s (.caller i) (s.release i { c with phase := .done })
  | sendClose {s} : s.commands.length < n → s.phase ≠ .ended →
      SessionStep n requestTimeout s .handle { s with commands := s.commands ++ [.close] }
  | takeCancellation {s id rest} : s.phase = .selecting → s.cancellations = id :: rest →
      SessionStep n requestTimeout s .session (s.takeCancellation id rest)
  | takeRequest {s r rest} : s.phase = .selecting → s.commands = .request r :: rest →
      SessionStep n requestTimeout s .session (s.takeRequest r rest)
  | written {s r} : s.phase = .writing r →
      SessionStep n requestTimeout s .session (s.insertPending r)
  | failWrite {s r} (error : String) : s.phase = .writing r →
      SessionStep n requestTimeout s .session (s.failWrite r error)
  | takeClose {s rest} : s.phase = .selecting → s.commands = .close :: rest →
      SessionStep n requestTimeout s .session
        { s with commands := rest, phase := .failing (.closed "closed by client") }
  -- The last handle is dropped.
  | abandoned {s} : s.phase = .selecting → s.commands = [] →
      (∀ i c, s.callers i = some c → c.phase = .done) →
      SessionStep n requestTimeout s .session
        { s with phase := .failing (.closed "closed by client") }
  | message {s} (message : Inbound) : s.phase = .selecting →
      SessionStep n requestTimeout s .session (s.onMessage message)
  | failPending {s cause before r after} : s.phase = .failing cause →
      s.pending = before ++ r :: after →
      SessionStep n requestTimeout s .session
        ({ s with pending := before ++ after }.settle [r] fun r =>
          some (.error (cause.pendingRequestError r.method)))
  | announce {s cause} : s.phase = .failing cause → s.pending = [] →
      SessionStep n requestTimeout s .session
        { s with closed := some cause, phase := .announced }
  | dropQueue {s} : s.phase = .announced →
      SessionStep n requestTimeout s .session s.dropQueue
  | tick {s} (later : Nanos) : s.now ≤ later →
      SessionStep n requestTimeout s .clock { s with now := later }

/-- A session opened with a limit on the requests in flight. -/
def sessionSystem (maxInFlight : Nat) (requestTimeout : Nanos) :
    System SessionRun SessionActor where
  Initial s := ∃ now params, s = {
    now := now, inFlight := max maxInFlight 1, nextRequestId := 1, callers := fun _ => none,
    holders := ∅, commands := [], cancellations := [], phase := .selecting, pending := [],
    closed := none, wire := [⟨connectId, "connect", params⟩], assigned := [], overtaken := [] }
  Step := SessionStep (max maxInFlight 1) requestTimeout

end OpenclawNode.Legacy
