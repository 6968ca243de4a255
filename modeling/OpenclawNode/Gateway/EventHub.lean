import OpenclawNode.Base.Json
import OpenclawNode.Base.Transition

/-! Retained events and the independent subscribers that consume them. -/
namespace OpenclawNode.Gateway

open Text (utf8)
open Transition (System)

/-- The errors of a Gateway session that its callers and subscribers see. -/
inductive ClientError
  | gateway (method code message : String) (details : Option Json.Value) (retryable : Option Bool)
      (retryAfterMs : Option UInt64)
  | requestTimeout (method : String)
  | dispatchRejected (reason : String)
  | writeTimeout (operation : String)
  | transport (reason : String)
  | closed (reason : String)
  | invalidFrame (reason : String)
  | eventLagged (count : UInt64)

structure RetainedEvent where
  index : UInt64
  raw : String
  deriving DecidableEq, Repr

structure EventHubState where
  frames : List RetainedEvent
  nextIndex : UInt64
  retainedBytes : Nat
  closed : Bool
  deriving DecidableEq, Repr

/-- The bytes of a raw frame. -/
def rawLen (raw : String) : Nat := (utf8 raw).length

structure EventHub where
  state : EventHubState
  capacity : Nat
  maxBytes : Nat
  capacity_pos : 1 ≤ capacity
  maxBytes_pos : 1 ≤ maxBytes

/-- Evict from the front while the new frame does not fit. -/
def evictFrames (capacity maxBytes added : Nat) :
    List RetainedEvent → Nat → List RetainedEvent × Nat
  | [], retainedBytes => ([], retainedBytes)
  | evicted :: frames, retainedBytes =>
    if capacity ≤ (evicted :: frames).length ∨ maxBytes < retainedBytes + added then
      evictFrames capacity maxBytes added frames (retainedBytes - rawLen evicted.raw)
    else (evicted :: frames, retainedBytes)

namespace EventHub

def new (capacity maxBytes : Nat) : EventHub where
  state := { frames := [], nextIndex := 0, retainedBytes := 0, closed := false }
  capacity := max capacity 1
  maxBytes := max maxBytes 1
  capacity_pos := le_max_right _ _
  maxBytes_pos := le_max_right _ _

/-- An oversized frame takes an index and is not retained. -/
def publish (hub : EventHub) (raw : String) : EventHub :=
  let index := hub.state.nextIndex
  if hub.maxBytes < rawLen raw then
    { hub with state := { hub.state with nextIndex := index + 1 } }
  else
    let (frames, retainedBytes) :=
      evictFrames hub.capacity hub.maxBytes (rawLen raw) hub.state.frames hub.state.retainedBytes
    { hub with
      state := { hub.state with
        frames := frames ++ [⟨index, raw⟩]
        nextIndex := index + 1
        retainedBytes := retainedBytes + rawLen raw } }

def close (hub : EventHub) : EventHub :=
  { hub with state := { hub.state with closed := true } }

end EventHub

/-- How a `recv` can end: with a frame to parse, behind by some events, or at the end. -/
inductive EventOutcome
  | event (raw : String)
  | lagged (count : UInt64)
  | closed
  deriving DecidableEq, Repr

/-- What the subscriber is given for an outcome. -/
def EventOutcome.result {Event : Type} (parseRetainedEvent : String → Except String Event)
    (closedEventError : ClientError) : EventOutcome → Except ClientError Event
  | .event raw => (parseRetainedEvent raw).mapError .invalidFrame
  | .lagged count => .error (.eventLagged count)
  | .closed => .error closedEventError

/-- One look of `recv` at the retained events: how it ends, if it need not wait, and the cursor it
leaves. -/
def EventHub.recv (hub : EventHub) (cursor : UInt64) : Option EventOutcome × UInt64 :=
  match hub.state.frames.find? (fun frame => cursor ≤ frame.index) with
  | some frame =>
    if cursor < frame.index then (some (.lagged (frame.index - cursor)), frame.index)
    else (some (.event frame.raw), cursor + 1)
  | none =>
    if cursor < hub.state.nextIndex then
      (some (.lagged (hub.state.nextIndex - cursor)), hub.state.nextIndex)
    else if hub.state.closed then (some .closed, cursor)
    else (none, cursor)

/-- A subscriber, with where it started and what it has received under which cursor. -/
structure EventSubscription where
  start : UInt64
  cursor : UInt64
  received : List (UInt64 × EventOutcome)

/-- A hub with everything that was ever published, and its subscribers. -/
structure HubRun where
  hub : EventHub
  published : List String
  subscription : Nat → Option EventSubscription

inductive HubAction
  | publish (raw : String)
  | close
  | initialSubscription (i : Nat)
  | subscribe (i : Nat)
  | recv (i : Nat) (outcome : EventOutcome)
  | wait (i : Nat)

def HubRun.set (w : HubRun) (i : Nat) (sub : EventSubscription) : HubRun :=
  { w with subscription := Function.update w.subscription i (some sub) }

/-- The session publishes and closes; each subscriber receives on its own. -/
inductive HubStep : HubRun → HubAction → HubRun → Prop
  | publish {w} (raw : String) : HubStep w (.publish raw)
      { w with hub := w.hub.publish raw, published := w.published ++ [raw] }
  | close {w} : HubStep w .close { w with hub := w.hub.close }
  | initialSubscription {w i} : w.subscription i = none →
      HubStep w (.initialSubscription i) (w.set i ⟨0, 0, []⟩)
  | subscribe {w i} : w.subscription i = none →
      HubStep w (.subscribe i)
        (w.set i ⟨w.hub.state.nextIndex, w.hub.state.nextIndex, []⟩)
  | recv {w i sub outcome cursor} : w.subscription i = some sub →
      w.hub.recv sub.cursor = (some outcome, cursor) →
      HubStep w (.recv i outcome)
        (w.set i ⟨sub.start, cursor, sub.received ++ [(sub.cursor, outcome)]⟩)
  | wait {w i sub cursor} : w.subscription i = some sub →
      w.hub.recv sub.cursor = (none, cursor) →
      HubStep w (.wait i) (w.set i ⟨sub.start, cursor, sub.received⟩)

def hubSystem (capacity maxBytes : Nat) : System HubRun HubAction where
  Initial w := w.hub = EventHub.new capacity maxBytes ∧ w.published = [] ∧
    w.subscription = fun _ => none
  Step := HubStep

end OpenclawNode.Gateway
