import OpenclawNode.Base.Transition
import OpenclawNode.Gateway.EventHub
import OpenclawNode.Node.Invocation

/-! A Gateway session: its callers, the command queue and the session task. -/
namespace OpenclawNode.Gateway

open Transition (System)
open Node (Nanos)

/-- What a request comes to. -/
abbrev Reply := Except ClientError Json.Value

/-- The request that opened the session. -/
def connectId : String := "rust-gateway-connect-1"

def requestId (n : UInt64) : String := "rust-gateway-" ++ Nat.repr n.toNat

structure GatewayErrorShape where
  code : String
  message : String
  details : Option Json.Value
  retryable : Option Bool
  retryAfterMs : Option UInt64

def responseResult (method : String) (ok : Bool) (payload : Json.Value)
    (error : Option GatewayErrorShape) : Reply :=
  if ok then .ok payload
  else
    let error := error.getD ⟨"UNKNOWN", "Gateway rejected the request", none, none, none⟩
    let code := if error.code = "" then "UNKNOWN" else error.code
    let message := if error.message = "" then "Gateway rejected the request" else error.message
    .error (.gateway method code message error.details error.retryable error.retryAfterMs)

inductive SessionCloseCause
  | closed (reason : String)
  | invalidFrame (reason : String)
  | transport (reason : String)
  | writeTimeout (operation : String)
  deriving DecidableEq, Repr

def SessionCloseCause.toClientError : SessionCloseCause → ClientError
  | .closed reason => .closed reason
  | .invalidFrame reason => .invalidFrame reason
  | .transport reason => .transport reason
  | .writeTimeout operation => .writeTimeout operation

def SessionCloseCause.pendingRequestError (method : String) : SessionCloseCause → ClientError
  | .closed reason => .closed (reason ++ "; request " ++ method ++ " did not complete")
  | .invalidFrame reason => .invalidFrame (reason ++ "; request " ++ method ++ " did not complete")
  | .transport reason => .transport (reason ++ "; request " ++ method ++ " did not complete")
  | .writeTimeout operation =>
    .writeTimeout (operation ++ "; request " ++ method ++ " did not complete")

/-- A request on its way, with its permit and the handles it shares with its caller. The permits
are numbered to tell them apart. -/
structure Request where
  id : String
  method : String
  params : Json.Value
  deadline : Nanos
  guarded : Bool
  caller : Nat
  permit : Nat

inductive SessionCommand
  | request (r : Request)
  | cancelRequest (id : String)

/-- The receiving end of a oneshot reply. -/
inductive ReplySlot
  | waiting
  | value (reply : Reply)
  | closed

/-- Where a `request_inner` future stands. -/
inductive CallerPhase
  | waitingPermit
  | sending
  | waitingReply
  | cancelling
  | cancelled
  | done
  deriving DecidableEq, Repr

/-- One call of `request`, with everything it has returned. -/
structure Caller where
  method : String
  params : Json.Value
  deadline : Nanos
  guarded : Bool
  id : Option String
  phase : CallerPhase
  reply : ReplySlot
  cancelled : Bool
  observed : List Reply

def Caller.fresh (method : String) (params : Json.Value) (deadline : Nanos) (guarded : Bool) :
    Caller where
  method := method
  params := params
  deadline := deadline
  guarded := guarded
  id := none
  phase := .waitingPermit
  reply := .waiting
  cancelled := false
  observed := []

/-- The future returns. -/
def Caller.finish (c : Caller) (reply : Reply) : Caller :=
  { c with phase := .done, observed := c.observed ++ [reply] }

/-- The other end sends a value, or is dropped without one. -/
def Caller.answered (c : Caller) : Option Reply → Caller
  | some reply => { c with reply := .value reply }
  | none => { c with reply := .closed }

/-- How a write to the socket fails. -/
inductive WriteFailure
  | transport (error : String)
  | timedOut
  deriving DecidableEq, Repr

/-- What the socket yields, and how the pong that answers a ping is written. -/
inductive Inbound
  | event (raw : String)
  | response (id : String) (ok : Bool) (payload : Json.Value) (error : Option GatewayErrorShape)
  | undecodable (error : String)
  | ping (pong : Option WriteFailure)
  | close (reason : String)
  | ignored
  | failed (error : String)
  | ended

/-- Where the session task stands. A write carries when it expires and whether the request's
deadline is what expires first. -/
inductive SessionPhase
  | top
  | selecting
  | readying (r : Request) (expires : Nanos) (deadlineWins : Bool)
  | flushing (r : Request) (expires : Nanos) (deadlineWins : Bool)
  | failing (cause : SessionCloseCause)
  | announced
  | ended

/-- The request that is being written. -/
def SessionPhase.writing : SessionPhase → List Request
  | .readying r _ _ => [r]
  | .flushing r _ _ => [r]
  | _ => []

/-- The request that waits for the socket and is not on the wire yet. -/
def SessionPhase.unsent : SessionPhase → List Request
  | .readying r _ _ => [r]
  | _ => []

structure WireRequest where
  id : String
  method : String
  params : Json.Value

/-- Why a request was not written. -/
inductive Refusal
  | cancelled
  | deadline
  | guard
  deriving DecidableEq, Repr

/-- A response that was read, and whether its request was pending then. -/
structure Arrival where
  id : String
  ok : Bool
  payload : Json.Value
  error : Option GatewayErrorShape
  pending : Bool

def Arrival.result (a : Arrival) (method : String) : Reply :=
  responseResult method a.ok a.payload a.error

/-- A session with its callers. The last three fields record the ids handed out, the requests not
written and the responses read. -/
structure SessionRun where
  now : Nanos
  permits : List Nat
  nextRequestId : UInt64
  callers : Nat → Option Caller
  sending : List Request
  queue : List SessionCommand
  phase : SessionPhase
  pending : List Request
  closed : Option SessionCloseCause
  wire : List WireRequest
  assigned : List String
  refused : List (String × Refusal)
  arrivals : List Arrival

def queuedRequests (queue : List SessionCommand) : List Request :=
  queue.filterMap fun command =>
    match command with
    | .request r => some r
    | .cancelRequest _ => none

namespace SessionRun

def setCaller (s : SessionRun) (i : Nat) (c : Caller) : SessionRun :=
  { s with callers := Function.update s.callers i (some c) }

/-- Drop requests: each sends its answer, if it has one, and returns its permit. -/
def settle (s : SessionRun) (rs : List Request) (answer : Request → Option Reply) : SessionRun :=
  { s with
    permits := s.permits ++ rs.map (·.permit)
    callers := fun i =>
      match rs.find? (·.caller = i) with
      | some r => (s.callers i).map (·.answered (answer r))
      | none => s.callers i }

def closedError (s : SessionRun) : ClientError :=
  match s.closed with
  | none => .closed "session task ended"
  | some cause => cause.toClientError

def isCancelled (s : SessionRun) (r : Request) : Bool := (s.callers r.caller).any (·.cancelled)

/-- A permit was acquired: take the next id and build the request. -/
def acquire (s : SessionRun) (i : Nat) (c : Caller) (permit : Nat) (rest : List Nat) :
    SessionRun :=
  let id := requestId s.nextRequestId
  { s.setCaller i { c with id := some id, phase := .sending } with
    permits := rest
    nextRequestId := s.nextRequestId + 1
    assigned := s.assigned ++ [id]
    sending := s.sending ++ [⟨id, c.method, c.params, c.deadline, c.guarded, i, permit⟩] }

/-- Requests whose flag is seen at the top of the loop are dropped without an answer. -/
def purge (s : SessionRun) (seen : Request → Bool) : SessionRun :=
  { s.settle (s.pending.filter seen) fun _ => none with
    pending := s.pending.filter (!seen ·)
    phase := .selecting }

def expire (s : SessionRun) : SessionRun :=
  { s.settle (s.pending.filter (·.deadline ≤ s.now)) fun r =>
      some (.error (.requestTimeout r.method)) with
    pending := s.pending.filter (¬ ·.deadline ≤ s.now)
    phase := .top }

/-- A request leaves the queue. The clock is read once for the deadline and again for the time that
remains. -/
def onRequest (writeTimeout : Nanos) (s : SessionRun) (r : Request) (later : Nanos) : SessionRun :=
  if s.isCancelled r then
    { s.settle [r] fun _ => none with
      phase := .top, refused := s.refused ++ [(r.id, .cancelled)] }
  else if r.deadline ≤ s.now then
    { s.settle [r] fun _ => some (.error (.requestTimeout r.method)) with
      phase := .top, refused := s.refused ++ [(r.id, .deadline)] }
  else
    let remaining := r.deadline - later
    { s with
      now := later
      phase := .readying r (later + min writeTimeout remaining) (remaining ≤ writeTimeout) }

def onCancelRequest (s : SessionRun) (id : String) : SessionRun :=
  { s.settle (s.pending.filter (·.id = id)) fun _ => none with
    pending := s.pending.filter (¬ ·.id = id)
    phase := .top }

/-- The guard accepted and the frame was handed to the socket. -/
def start (s : SessionRun) (r : Request) (expires : Nanos) (deadlineWins : Bool) : SessionRun :=
  { s with
    phase := .flushing r expires deadlineWins
    wire := s.wire ++ [⟨r.id, r.method, r.params⟩] }

def rejectByGuard (s : SessionRun) (r : Request) (reason : String) : SessionRun :=
  { s.settle [r] fun _ => some (.error (.dispatchRejected reason)) with
    phase := .top, refused := s.refused ++ [(r.id, .guard)] }

/-- Inserting into the map drops what was under the same id. -/
def insertPending (s : SessionRun) (r : Request) : SessionRun :=
  { s.settle (s.pending.filter (·.id = r.id)) fun _ => none with
    pending := s.pending.filter (¬ ·.id = r.id) ++ [r]
    phase := .top }

def failWrite (s : SessionRun) (r : Request) (deadlineWins : Bool) : WriteFailure → SessionRun
  | .timedOut =>
    { s.settle [r] fun _ => some (.error (if deadlineWins then .requestTimeout r.method
        else .writeTimeout r.method)) with
      phase := .failing (.writeTimeout r.method) }
  | .transport error =>
    { s.settle [r] fun _ => some (.error (.transport error)) with
      phase := .failing (.transport ("Gateway connection failed: " ++ error)) }

def onResponse (s : SessionRun) (id : String) (ok : Bool) (payload : Json.Value)
    (error : Option GatewayErrorShape) : SessionRun :=
  { s.settle (s.pending.filter (·.id = id)) fun r =>
      some (responseResult r.method ok payload error) with
    pending := s.pending.filter (¬ ·.id = id)
    phase := .top
    arrivals := s.arrivals ++ [⟨id, ok, payload, error, s.pending.any (·.id = id)⟩] }

def onMessage (s : SessionRun) : Inbound → SessionRun
  | .event _ => { s with phase := .top }
  | .response id ok payload error => s.onResponse id ok payload error
  | .undecodable error => { s with phase := .failing (.invalidFrame error) }
  | .ping none => { s with phase := .top }
  | .ping (some .timedOut) => { s with phase := .failing (.writeTimeout "pong") }
  | .ping (some (.transport error)) =>
    { s with phase := .failing (.transport ("Gateway connection failed: " ++ error)) }
  | .close reason => { s with phase := .failing (.closed reason) }
  | .ignored => { s with phase := .top }
  | .failed error => { s with phase := .failing (.transport error) }
  | .ended => { s with phase := .failing (.closed "Gateway ended the WebSocket stream") }

/-- The receiver is dropped with everything still queued. -/
def dropQueue (s : SessionRun) : SessionRun :=
  { s.settle (queuedRequests s.queue) fun _ => none with queue := [], phase := .ended }

end SessionRun

/-- Who takes a step. -/
inductive SessionActor
  | caller (i : Nat)
  | session
  | clock
  deriving DecidableEq, Repr

/-- The steps of a session that admits `n` requests. A future is dropped at any of its awaits, and
every branch of the session's `select!` is taken whenever it is ready. -/
inductive SessionStep (n : Nat) (writeTimeout : Nanos) :
    SessionRun → SessionActor → SessionRun → Prop
  | call {s i} (method : String) (params : Json.Value) (deadline : Nanos) (guarded : Bool) :
      s.callers i = none → method ≠ "" →
      SessionStep n writeTimeout s (.caller i)
        (s.setCaller i (.fresh method params deadline guarded))
  | callEmpty {s i} (params : Json.Value) (deadline : Nanos) (guarded : Bool) :
      s.callers i = none →
      SessionStep n writeTimeout s (.caller i)
        (s.setCaller i ((Caller.fresh "" params deadline guarded).finish
          (.error (.invalidFrame "request method must not be empty"))))
  | acquire {s i c permit rest} : s.callers i = some c → c.phase = .waitingPermit →
      s.permits = permit :: rest →
      SessionStep n writeTimeout s (.caller i) (s.acquire i c permit rest)
  | permitTimeout {s i c} : s.callers i = some c → c.phase = .waitingPermit →
      c.deadline ≤ s.now →
      SessionStep n writeTimeout s (.caller i)
        (s.setCaller i (c.finish (.error (.requestTimeout c.method))))
  | permitDropped {s i c} : s.callers i = some c → c.phase = .waitingPermit →
      SessionStep n writeTimeout s (.caller i) (s.setCaller i { c with phase := .done })
  | enqueue {s i c r before after} : s.callers i = some c → c.phase = .sending →
      s.sending = before ++ r :: after → r.caller = i → s.queue.length < n → s.phase ≠ .ended →
      SessionStep n writeTimeout s (.caller i)
        { s.setCaller i { c with phase := .waitingReply } with
          sending := before ++ after, queue := s.queue ++ [.request r] }
  | sendTimeout {s i c r before after} : s.callers i = some c → c.phase = .sending →
      s.sending = before ++ r :: after → r.caller = i → c.deadline ≤ s.now →
      SessionStep n writeTimeout s (.caller i)
        (({ s with sending := before ++ after }.settle [r] fun _ => none).setCaller i
          (c.finish (.error (.requestTimeout c.method))))
  | sendDropped {s i c r before after} : s.callers i = some c → c.phase = .sending →
      s.sending = before ++ r :: after → r.caller = i →
      SessionStep n writeTimeout s (.caller i)
        (({ s with sending := before ++ after }.settle [r] fun _ => none).setCaller i
          { c with phase := .done })
  | sendClosed {s i c r before after} : s.callers i = some c → c.phase = .sending →
      s.sending = before ++ r :: after → r.caller = i → s.phase = .ended →
      SessionStep n writeTimeout s (.caller i)
        (({ s with sending := before ++ after }.settle [r] fun _ => none).setCaller i
          (c.finish (.error s.closedError)))
  | receive {s i c reply} : s.callers i = some c → c.phase = .waitingReply →
      c.reply = .value reply →
      SessionStep n writeTimeout s (.caller i) (s.setCaller i (c.finish reply))
  | receiveClosed {s i c} : s.callers i = some c → c.phase = .waitingReply → c.reply = .closed →
      SessionStep n writeTimeout s (.caller i) (s.setCaller i (c.finish (.error s.closedError)))
  | replyTimeout {s i c} : s.callers i = some c → c.phase = .waitingReply → c.reply = .waiting →
      c.deadline ≤ s.now →
      SessionStep n writeTimeout s (.caller i)
        (s.setCaller i
          { c.finish (.error (.requestTimeout c.method)) with phase := .cancelling })
  | replyDropped {s i c} : s.callers i = some c → c.phase = .waitingReply →
      SessionStep n writeTimeout s (.caller i) (s.setCaller i { c with phase := .cancelling })
  | setCancelled {s i c} : s.callers i = some c → c.phase = .cancelling →
      SessionStep n writeTimeout s (.caller i)
        (s.setCaller i { c with phase := .cancelled, cancelled := true })
  | offerCancel {s i c id} : s.callers i = some c → c.phase = .cancelled → c.id = some id →
      s.queue.length < n → s.phase ≠ .ended →
      SessionStep n writeTimeout s (.caller i)
        { s.setCaller i { c with phase := .done } with
          queue := s.queue ++ [.cancelRequest id] }
  -- A free place in the queue may be reserved for a caller that waits to send.
  | loseCancel {s i c} : s.callers i = some c → c.phase = .cancelled →
      n ≤ s.queue.length ∨ s.sending ≠ [] ∨ s.phase = .ended →
      SessionStep n writeTimeout s (.caller i) (s.setCaller i { c with phase := .done })
  -- A flag that is set while the loop looks may be missed until it looks again.
  | purge {s} (seen : Request → Bool) : s.phase = .top →
      (∀ r ∈ s.pending, seen r = true → s.isCancelled r = true) →
      SessionStep n writeTimeout s .session (s.purge seen)
  | closeByClient {s} : s.phase = .selecting →
      SessionStep n writeTimeout s .session
        { s with phase := .failing (.closed "closed by client") }
  | expire {s} : s.phase = .selecting → (∃ r ∈ s.pending, r.deadline ≤ s.now) →
      SessionStep n writeTimeout s .session s.expire
  | request {s r rest} (later : Nanos) : s.phase = .selecting → s.queue = .request r :: rest →
      s.now ≤ later →
      SessionStep n writeTimeout s .session
        ({ s with queue := rest }.onRequest writeTimeout r later)
  | cancelRequest {s id rest} : s.phase = .selecting → s.queue = .cancelRequest id :: rest →
      SessionStep n writeTimeout s .session ({ s with queue := rest }.onCancelRequest id)
  | message {s} (message : Inbound) : s.phase = .selecting →
      SessionStep n writeTimeout s .session (s.onMessage message)
  | start {s r expires deadlineWins} : s.phase = .readying r expires deadlineWins →
      SessionStep n writeTimeout s .session (s.start r expires deadlineWins)
  | rejectByGuard {s r expires deadlineWins} (reason : String) :
      s.phase = .readying r expires deadlineWins → r.guarded = true →
      SessionStep n writeTimeout s .session (s.rejectByGuard r reason)
  | written {s r expires deadlineWins} : s.phase = .flushing r expires deadlineWins →
      SessionStep n writeTimeout s .session (s.insertPending r)
  | failWrite {s r expires deadlineWins} (failure : WriteFailure) :
      s.phase = .readying r expires deadlineWins ∨ s.phase = .flushing r expires deadlineWins →
      (failure = .timedOut → expires ≤ s.now) →
      SessionStep n writeTimeout s .session (s.failWrite r deadlineWins failure)
  | failPending {s cause r rest} : s.phase = .failing cause → s.pending = r :: rest →
      SessionStep n writeTimeout s .session
        ({ s with pending := rest }.settle [r] fun r =>
          some (.error (cause.pendingRequestError r.method)))
  | announce {s cause} : s.phase = .failing cause → s.pending = [] →
      SessionStep n writeTimeout s .session { s with closed := some cause, phase := .announced }
  | dropQueue {s} : s.phase = .announced →
      SessionStep n writeTimeout s .session s.dropQueue
  | tick {s} (later : Nanos) : s.now ≤ later →
      SessionStep n writeTimeout s .clock { s with now := later }

/-- A session opened with a limit on the requests in flight. -/
def sessionSystem (maxInFlight : Nat) (writeTimeout : Nanos) : System SessionRun SessionActor where
  Initial s := ∃ now params, s = {
    now := now, permits := List.range (max maxInFlight 1), nextRequestId := 1,
    callers := fun _ => none, sending := [], queue := [], phase := .top, pending := [],
    closed := none, wire := [⟨connectId, "connect", params⟩], assigned := [], refused := [],
    arrivals := [] }
  Step := SessionStep (max maxInFlight 1) writeTimeout

end OpenclawNode.Gateway
