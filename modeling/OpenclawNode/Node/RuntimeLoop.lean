import Mathlib.Algebra.Order.Group.Multiset
import OpenclawNode.Node.ActiveInvocations
import OpenclawNode.Node.CommandRuntime
import OpenclawNode.Node.Lifecycle

/-! The loop of a command runtime: its handler tasks, its overload queue and worker, its teardown. -/
namespace OpenclawNode.Node

open Transition (System)

inductive RuntimeError
  | client (error : ClientError)
  | deliverySaturated
  | resultTask (reason : String)

/-- What the session's events decode to: a node event, an error, or nothing for this loop. -/
inductive IncomingEvent
  | node (event : NodeSessionEvent)
  | invalid (error : ClientError)
  | ignored

def IncomingEvent.invocation : IncomingEvent → Option NodeInvocation
  | .node (.invocation invocation) => some invocation
  | _ => none

def routeInvocationControl (active : ActiveInvocations) : NodeSessionEvent → ActiveInvocations
  | .invocationInput invokeId nodeId seq payloadJson =>
    let (disposition, active) := active.input invokeId nodeId seq payloadJson
    if disposition = .overflow then active.cancel invokeId else active
  | .invocationCancelled invokeId _ => active.cancel invokeId
  | .invocation _ => active

/-- How a handler task ends: its result was delivered, delivering it failed, or it panicked or was
aborted. The first two hand the task's permit to the loop, the last returns it. -/
inductive TaskOutcome
  | completed
  | failed (error : ClientError)
  | gone (reason : String)

inductive TaskPhase
  | evaluating
  | completing
  | ended (outcome : TaskOutcome)

/-- A handler task of the loop, for the invocation that was taken at this place. -/
structure HandlerTask where
  event : Nat
  guarded : Option ActiveInvocation
  phase : TaskPhase

/-- The task owns its invocation: it has neither delivered nor lost it. -/
def HandlerTask.live (t : HandlerTask) : Bool :=
  match t.phase with
  | .ended _ => false
  | _ => true

/-- The task, or its output that nobody has taken yet, holds a permit. -/
def HandlerTask.holdsPermit (t : HandlerTask) : Bool :=
  match t.phase with
  | .ended (.gone _) => false
  | _ => true

/-- The result of the task was not asked to be sent. -/
def HandlerTask.unsent (t : HandlerTask) : Bool :=
  match t.phase with
  | .evaluating => true
  | _ => false

inductive OverloadWorker
  | idle
  | holding (event : Nat)
  | completing (event : Nat)
  | ended (outcome : TaskOutcome)

def OverloadWorker.held : OverloadWorker → List Nat
  | .holding event | .completing event => [event]
  | _ => []

def OverloadWorker.unsent : OverloadWorker → List Nat
  | .holding event => [event]
  | _ => []

/-- Where the future of `next_node_event` waits. It takes an event only in the poll that returns
it, so that there is none to lose when it is dropped. -/
inductive NextNodeEvent
  | unpolled
  | locking
  | receiving

inductive RuntimePhase
  | looping
  | stopping (error : RuntimeError)
  | returned (error : RuntimeError)

/-- One `run` of a runtime on a session. The invocations it takes are numbered. `others` permits
are held elsewhere, `kept` by the arm of the loop that is left. The last fields record what the
session offered, what was taken of it, asked to be sent, delivered and given up, the tokens that the
tasks were tracked with, and those that were cancelled together. -/
structure RuntimeRun where
  phase : RuntimePhase
  next : NextNodeEvent
  incoming : List IncomingEvent
  active : ActiveInvocations
  tasks : List HandlerTask
  queue : List Nat
  worker : OverloadWorker
  free : Nat
  others : Nat
  kept : Nat
  offered : List IncomingEvent
  received : List IncomingEvent
  invocations : List NodeInvocation
  requests : List Nat
  completed : List Nat
  dropped : List Nat
  tracked : List (Nat × Token)
  stopped : List Token

namespace RuntimeRun

/-- The number of the next invocation. -/
def taken (w : RuntimeRun) : Nat := w.invocations.length

/-- The next event of the session is taken. -/
def receive (w : RuntimeRun) (event : IncomingEvent) (rest : List IncomingEvent) : RuntimeRun :=
  { w with
    next := .unpolled
    incoming := rest
    received := w.received ++ [event]
    invocations := w.invocations ++ event.invocation.toList }

/-- `stop_handler_tasks` begins: everything that is tracked is cancelled. -/
def stop (w : RuntimeRun) (error : RuntimeError) : RuntimeRun :=
  { w with
    phase := .stopping error
    next := .unpolled
    active := w.active.cancelAll
    stopped := w.active.inner.entries.map fun entry => entry.2.cancellation }

def dropGuard (w : RuntimeRun) : Option ActiveInvocation → RuntimeRun
  | none => w
  | some g => { w with active := w.active.dropGuard g }

/-- `spawn_handler_task`: the invocation is tracked before its task runs. -/
def spawnHandlerTask {H P : Type} (runtime : CommandRuntime H P) (w : RuntimeRun)
    (invocation : NodeInvocation) (event : Nat) : RuntimeRun :=
  let (cancellation, active) := w.active.newToken
  let duplex := (runtime.handlers.lookup invocation.command).any (·.duplex)
  let (guarded, active) := active.track invocation.id invocation.nodeId cancellation duplex
  { w with
    active
    tasks := w.tasks ++ [⟨event, guarded, .evaluating⟩]
    tracked := w.tracked ++ (guarded.map fun g => (event, g.cancellation)).toList }

end RuntimeRun

/-- What the rest of the program may do on the session's scope. -/
inductive ScopeCall (m : ActiveInvocations) : ActiveInvocations → Prop
  | newToken : ScopeCall m m.newToken.2
  | track (id nodeId : String) (cancellation : Token) (duplex : Bool) :
      cancellation < m.tokens.length → ScopeCall m (m.track id nodeId cancellation duplex).2
  | cancel (id : String) : ScopeCall m (m.cancel id)
  | input (id nodeId : String) (seq : UInt64) (payload : String) :
      ScopeCall m (m.input id nodeId seq payload).2
  | dropGuard (g : ActiveInvocation) : ScopeCall m (m.dropGuard g)
  | cancelAll : ScopeCall m m.cancelAll
  | cancelToken (token : Token) : ScopeCall m (m.cancelToken token)
  -- Input receivers take what is queued for them.
  | buffers (buffers : List InputBuffer) : ScopeCall m { m with buffers }

inductive RuntimeAction
  | publish (event : IncomingEvent)
  | poll
  | outside
  | event
  | closed (error : ClientError)
  | task (event : Nat)
  | worker
  | join
  | finish

section

variable {H P : Type} (runtime : CommandRuntime H P)

/-- The loop takes the next event of the session. -/
inductive LoopEvent (w : RuntimeRun) : RuntimeRun → Prop
  | ignored {rest} : w.incoming = .ignored :: rest → LoopEvent w (w.receive .ignored rest)
  | invalid {rest} (error : ClientError) : w.incoming = .invalid error :: rest →
      LoopEvent w ((w.receive (.invalid error) rest).stop (.client error))
  | control {rest} (event : NodeSessionEvent) : w.incoming = .node event :: rest →
      (IncomingEvent.node event).invocation = none →
      LoopEvent w { w.receive (.node event) rest with
        active := routeInvocationControl w.active event }
  | spawn {rest} (invocation : NodeInvocation) (free : Nat) :
      w.incoming = .node (.invocation invocation) :: rest → w.free = free + 1 →
      LoopEvent w (({ w.receive (.node (.invocation invocation)) rest with free }
        : RuntimeRun).spawnHandlerTask runtime invocation w.taken)
  | overload {rest} (invocation : NodeInvocation) :
      w.incoming = .node (.invocation invocation) :: rest → w.free = 0 →
      (∀ outcome, w.worker ≠ .ended outcome) → w.queue.length < runtime.deliveryCapacity →
      LoopEvent w { w.receive (.node (.invocation invocation)) rest with
        queue := w.queue ++ [w.taken] }
  | saturated {rest} (invocation : NodeInvocation) :
      w.incoming = .node (.invocation invocation) :: rest → w.free = 0 →
      (∀ outcome, w.worker ≠ .ended outcome) → runtime.deliveryCapacity ≤ w.queue.length →
      LoopEvent w (({ w.receive (.node (.invocation invocation)) rest with
        dropped := w.dropped ++ [w.taken] } : RuntimeRun).stop .deliverySaturated)
  | undeliverable {rest outcome} (invocation : NodeInvocation) (error : RuntimeError) :
      w.incoming = .node (.invocation invocation) :: rest → w.free = 0 →
      w.worker = .ended outcome →
      LoopEvent w (({ w.receive (.node (.invocation invocation)) rest with
        dropped := w.dropped ++ [w.taken] } : RuntimeRun).stop error)

/-- What a handler task does next. One that is aborted ends at an await. -/
inductive TaskStep (w : RuntimeRun) (before after : List HandlerTask) (t : HandlerTask) :
    RuntimeRun → Prop
  | request : t.phase = .evaluating →
      TaskStep w before after t { w with
        tasks := before ++ { t with phase := .completing } :: after
        requests := w.requests ++ [t.event] }
  -- The result is refused before a request is made of it.
  | refused (error : ClientError) : t.phase = .evaluating →
      TaskStep w before after t
        (({ w with
          tasks := before ++ { t with phase := .ended (.failed error) } :: after
          dropped := w.dropped ++ [t.event] } : RuntimeRun).dropGuard t.guarded)
  | completed : t.phase = .completing →
      TaskStep w before after t
        (({ w with
          tasks := before ++ { t with phase := .ended .completed } :: after
          completed := w.completed ++ [t.event] } : RuntimeRun).dropGuard
            (t.guarded.map fun g => { g with cancelOnDrop := false }))
  | failed (error : ClientError) : t.phase = .completing →
      TaskStep w before after t
        (({ w with
          tasks := before ++ { t with phase := .ended (.failed error) } :: after
          dropped := w.dropped ++ [t.event] } : RuntimeRun).dropGuard t.guarded)
  | gone (reason : String) : t.phase = .evaluating ∨ t.phase = .completing →
      TaskStep w before after t
        (({ w with
          tasks := before ++ { t with phase := .ended (.gone reason) } :: after
          free := w.free + 1
          dropped := w.dropped ++ [t.event] } : RuntimeRun).dropGuard t.guarded)

/-- What the overload worker does next. When it ends its queue is dropped. -/
inductive WorkerStep (w : RuntimeRun) : RuntimeRun → Prop
  | recv {event rest} : w.worker = .idle → w.queue = event :: rest →
      WorkerStep w { w with worker := .holding event, queue := rest }
  | request {event} : w.worker = .holding event →
      WorkerStep w { w with worker := .completing event, requests := w.requests ++ [event] }
  | completed {event} : w.worker = .completing event →
      WorkerStep w { w with worker := .idle, completed := w.completed ++ [event] }
  | ended (outcome : TaskOutcome) : (∀ outcome, w.worker ≠ .ended outcome) →
      WorkerStep w { w with
        worker := .ended outcome, queue := [], dropped := w.dropped ++ w.worker.held ++ w.queue }

/-- What the loop makes of the output of a task: nothing, or the error that it stops with and the
permits it keeps until it returns. -/
def TaskOutcome.joined : TaskOutcome → Nat × Option (RuntimeError × Nat)
  | .completed => (1, none)
  | .failed error => (0, some (.client error, 1))
  | .gone reason => (0, some (.resultTask reason, 0))

/-- The steps of `run` and of the tasks it spawned. -/
inductive RuntimeStep : RuntimeRun → RuntimeAction → RuntimeRun → Prop
  | publish {w} (event : IncomingEvent) :
      RuntimeStep w (.publish event) { w with
        incoming := w.incoming ++ [event], offered := w.offered ++ [event] }
  -- The session's events are locked by another task, or there is none to receive.
  | poll {w} (next : NextNodeEvent) : w.phase = .looping → (next = .receiving → w.incoming = []) →
      RuntimeStep w .poll { w with next }
  | outsideTakes {w} (free : Nat) : w.free = free + 1 →
      RuntimeStep w .outside { w with free, others := w.others + 1 }
  | outsideReturns {w} (others : Nat) : w.others = others + 1 →
      RuntimeStep w .outside { w with free := w.free + 1, others }
  | outsideCalls {w active} : ScopeCall w.active active →
      RuntimeStep w .outside { w with active }
  | event {w w'} : w.phase = .looping → LoopEvent runtime w w' → RuntimeStep w .event w'
  | closed {w} (error : ClientError) : w.phase = .looping →
      RuntimeStep w (.closed error) (w.stop (.client error))
  | task {w w' t} (before after : List HandlerTask) : w.tasks = before ++ t :: after →
      TaskStep w before after t w' → RuntimeStep w (.task t.event) w'
  | worker {w w'} : WorkerStep w w' → RuntimeStep w .worker w'
  | join {w t outcome released} (before after : List HandlerTask) : w.phase = .looping →
      w.tasks = before ++ t :: after → t.phase = .ended outcome →
      outcome.joined = (released, none) →
      RuntimeStep w .join { w with
        next := .unpolled, tasks := before ++ after, free := w.free + released }
  | joinFailed {w t outcome released error kept} (before after : List HandlerTask) :
      w.phase = .looping → w.tasks = before ++ t :: after → t.phase = .ended outcome →
      outcome.joined = (released, some (error, kept)) →
      RuntimeStep w .join
        (({ w with tasks := before ++ after, kept := w.kept + kept } : RuntimeRun).stop error)
  | workerEnded {w outcome} (error : RuntimeError) : w.phase = .looping →
      w.worker = .ended outcome → RuntimeStep w .worker (w.stop error)
  | joinStopped {w t outcome error} (before after : List HandlerTask) :
      w.phase = .stopping error → w.tasks = before ++ t :: after → t.phase = .ended outcome →
      RuntimeStep w .join { w with
        tasks := before ++ after, free := w.free + (if t.holdsPermit then 1 else 0) }
  | finish {w outcome error} : w.phase = .stopping error → w.tasks = [] →
      w.worker = .ended outcome →
      RuntimeStep w .finish { w with
        phase := .returned error, free := w.free + w.kept, kept := 0 }

/-- A run that has just begun, on a session and with permits that others use as well. -/
def RuntimeRun.Initial (w : RuntimeRun) : Prop :=
  w.free + w.others = runtime.permits ∧
    (∀ id e, w.active.inner.lookup id = some e → e.cancellation < w.active.tokens.length) ∧
    w = ⟨.looping, .unpolled, w.incoming, w.active, [], [], .idle, w.free, w.others, 0, w.incoming,
      [], [], [], [], [], [], []⟩

def runtimeSystem : System RuntimeRun RuntimeAction where
  Initial := RuntimeRun.Initial runtime
  Step := RuntimeStep runtime

end
end OpenclawNode.Node
