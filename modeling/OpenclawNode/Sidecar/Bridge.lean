import OpenclawNode.Node.Lifecycle
import OpenclawNode.Sidecar.Configuration

/-! What an activated bridge reports to the supervisor about the lifecycle it observes. -/
namespace OpenclawNode.Sidecar

open Node (ClientErrorClass LifecycleDisconnectReason LifecycleEvent ReconnectPause)

def disconnectReason : LifecycleDisconnectReason → SidecarRuntimeReason
  | .client .configuration => .configuration
  | .client .transport => .transport
  | .client .protocol => .protocol
  | .client .identity => .identity
  | .client .gateway => .gateway
  | .client .requestTimeout => .requestTimeout
  | .client .eventLagged => .eventLagged
  | .client .activation => .activation
  | .runtime .deliverySaturated => .deliverySaturated
  | .runtime .resultTask => .resultTask
  | .runtimeEnded => .runtimeEnded
  | .shutdown => .shutdown

def pauseReason : ReconnectPause → SidecarRuntimeReason
  | .devicePairing _ => .pairing
  | .authentication _ => .authentication
  | .protocol _ => .protocol
  | .configuration => .configuration
  | .localIdentity => .identity

/-- The state, the attempt and the reason that a lifecycle event is reported with. -/
def observedLifecycle : LifecycleEvent →
    SidecarRuntimeState × UInt64 × Option SidecarRuntimeReason
  | .connecting attempt => (.connecting, attempt, none)
  | .connected attempt _ _ => (.connecting, attempt, none)
  | .ready attempt => (.ready, attempt, none)
  | .disconnected attempt reason =>
    (if reason = .shutdown then .draining else .connecting, attempt, some (disconnectReason reason))
  | .backingOff attempt _ reason => (.backingOff, attempt, some (disconnectReason reason))
  | .paused attempt reason => (.paused, attempt, some (pauseReason reason))
  | .stopped attempt _ => (.stopped, attempt, some .shutdown)

namespace SidecarRuntimeBridge

/-- Apply one lifecycle event to the status projected to the supervisor. -/
def observeLifecycle (b : SidecarRuntimeBridge) (event : LifecycleEvent) : SidecarRuntimeBridge :=
  let (state, attempt, reason) := observedLifecycle event
  { b with
    status := {
      state
      manifestGeneration := b.manifest.manifestGeneration
      runtimeVersion := b.status.runtimeVersion
      attempt := min attempt maxPortableJsonInteger
      reason } }

end SidecarRuntimeBridge
end OpenclawNode.Sidecar
