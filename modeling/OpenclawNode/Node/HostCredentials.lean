import OpenclawNode.Node.ConnectOptions
import OpenclawNode.Node.Lifecycle

/-! The credentials of a headless host: the configured ones, and a device token that the Gateway
issued and may reject again. -/
namespace OpenclawNode.Node

open Transition (System)

def authDeviceTokenMismatchDetailCode : String := "AUTH_DEVICE_TOKEN_MISMATCH"

/-- Whether the failure invalidates the issued device token used for this attempt. -/
def ConnectErrorDetails.invalidatesDeviceToken (d : ConnectErrorDetails) : Bool :=
  d.code == some authDeviceTokenMismatchDetailCode

def ConnectAuth.ofDeviceToken (value : String) : ConnectAuth := ⟨none, none, some value, none⟩

def invalidatesAdoptedDeviceToken : ClientError → Bool
  | .gateway method _ _ details _ _ =>
    method == "connect" && (ConnectErrorDetails.fromValue details).invalidatesDeviceToken
  | _ => false

structure HostCredentials where
  configuredAuth : ConnectAuth
  issuedDeviceToken : Option String

/-- Where the future that the connection factory returned awaits: it has not been polled, or it
connects with the adopted token or with the configured credentials. -/
inductive HostConnect
  | created
  | adopted (token : String)
  | configured
  deriving DecidableEq, Repr

/-- What happened to credentials in which call of the factory. -/
inductive CredentialEvent
  | presented (call : Nat) (auth : ConnectAuth)
  | rejected (call : Nat) (token : String)
  | issued (call : Nat) (token : String)
  deriving DecidableEq, Repr

/-- A host: its lifecycle, the device token it shares with the factory and the token handler, the
future of the factory that is awaited, and the history of its credentials. -/
structure HostRun (Policy : Type) where
  lifecycle : LifecycleRun Policy
  issuedDeviceToken : Option String
  connect : Option HostConnect
  history : List CredentialEvent

namespace HostRun

variable {Policy : Type} (credentials : HostCredentials)

def call (h : HostRun Policy) : Nat := h.lifecycle.connects.length

def present (h : HostRun Policy) (auth : ConnectAuth) (connect : HostConnect) : HostRun Policy :=
  { h with connect := some connect, history := h.history ++ [.presented h.call auth] }

/-- The first poll of the factory's future reads the adopted token. -/
def connectPolled (h : HostRun Policy) : HostRun Policy :=
  match h.issuedDeviceToken with
  | some deviceToken => h.present (.ofDeviceToken deviceToken) (.adopted deviceToken)
  | none => h.present credentials.configuredAuth .configured

/-- A rejected token is forgotten, and the configured credentials are tried. -/
def deviceTokenRejected (h : HostRun Policy) (token : String) : HostRun Policy :=
  let h := { h with
    issuedDeviceToken := none
    history := h.history ++ [CredentialEvent.rejected h.call token] }
  h.present credentials.configuredAuth .configured

/-- The session is connected, and the token it issued adopted. -/
def attemptConnected (h : HostRun Policy) (lifecycle : LifecycleRun Policy)
    (session : ConnectedSession) : HostRun Policy where
  lifecycle := lifecycle
  issuedDeviceToken := session.issuedDeviceToken.or h.issuedDeviceToken
  connect := none
  history := h.history ++ session.issuedDeviceToken.toList.map (.issued h.call)

def ready (h : HostRun Policy) : Bool := h.lifecycle.events.foldl hostReady false

end HostRun

/-- What wakes the driver of the lifecycle besides its connection factory. -/
def LifecycleAction.outside : LifecycleAction → Bool
  | .begin | .connected _ | .connectFailed _ => false
  | .pending | .shutdown | .runtime _ | .drained _ | .delayElapsed => true

inductive HostAction
  | begin
  | connectPolled
  | deviceTokenRejected (error : ClientError)
  | attemptConnected (session : ConnectedSession)
  | attemptFailed (error : ClientError)
  | driver (action : LifecycleAction)

/-- An attempt is under way. -/
def HostConnect.attempting : HostConnect → Prop
  | .created => False
  | .adopted _ | .configured => True

/-- A failure that the factory passes on: any but the rejection of an adopted token. -/
def HostConnect.passesOn (error : ClientError) : HostConnect → Prop
  | .created => False
  | .adopted _ => invalidatesAdoptedDeviceToken error = false
  | .configured => True

inductive HostStep {Policy : Type} (rules : ReconnectRules Policy) (delays : LifecycleDelays)
    (credentials : HostCredentials) : HostRun Policy → HostAction → HostRun Policy → Prop
  | begin {h l} : LifecycleStep rules delays h.lifecycle .begin l →
      HostStep rules delays credentials h .begin { h with lifecycle := l, connect := some .created }
  | connectPolled {h} : h.connect = some .created →
      HostStep rules delays credentials h .connectPolled (h.connectPolled credentials)
  | deviceTokenRejected {h token} (error : ClientError) : h.connect = some (.adopted token) →
      invalidatesAdoptedDeviceToken error = true →
      HostStep rules delays credentials h (.deviceTokenRejected error)
        (h.deviceTokenRejected credentials token)
  | attemptConnected {h l connect} (session : ConnectedSession) : h.connect = some connect →
      connect.attempting → LifecycleStep rules delays h.lifecycle (.connected session) l →
      HostStep rules delays credentials h (.attemptConnected session) (h.attemptConnected l session)
  | attemptFailed {h l connect} (error : ClientError) : h.connect = some connect →
      connect.passesOn error → LifecycleStep rules delays h.lifecycle (.connectFailed error) l →
      HostStep rules delays credentials h (.attemptFailed error)
        { h with lifecycle := l, connect := none }
  | driver {h a l} : a.outside = true → LifecycleStep rules delays h.lifecycle a l →
      HostStep rules delays credentials h (.driver a)
        { h with lifecycle := l, connect := if l.phase = .connecting then h.connect else none }

def hostSystem {Policy : Type} (rules : ReconnectRules Policy) (delays : LifecycleDelays)
    (credentials : HostCredentials) : System (HostRun Policy) HostAction where
  Initial h := (lifecycleSystem rules delays).Initial h.lifecycle ∧
    h.issuedDeviceToken = credentials.issuedDeviceToken ∧ h.connect = none ∧ h.history = []
  Step := HostStep rules delays credentials

namespace CredentialEvent

def call : CredentialEvent → Nat
  | .presented call _ | .rejected call _ | .issued call _ => call

def presentedIn (call : Nat) : CredentialEvent → Bool
  | .presented call' _ => call' == call
  | _ => false

def token? : CredentialEvent → Option String
  | .issued _ token => some token
  | _ => none

def isRejected : CredentialEvent → Bool
  | .rejected .. => true
  | _ => false

/-- The token in force after an event. -/
def adopt (token : Option String) : CredentialEvent → Option String
  | .presented .. => token
  | .rejected .. => none
  | .issued _ token => some token

end CredentialEvent

namespace HostCredentials

variable (credentials : HostCredentials)

/-- The token that was issued last and not rejected since. -/
def adoptedToken (past : List CredentialEvent) : Option String :=
  past.foldl CredentialEvent.adopt credentials.issuedDeviceToken

/-- The credentials to present after such a history. -/
def authAfter (past : List CredentialEvent) : ConnectAuth :=
  match credentials.adoptedToken past with
  | some token => .ofDeviceToken token
  | none => credentials.configuredAuth

/-- Which event may come after a history: the first attempt of a call, or one after a rejection in
the same call, and never with credentials but those in force. -/
def MayFollow (past : List CredentialEvent) : CredentialEvent → Prop
  | .presented call auth => auth = credentials.authAfter past ∧
    ((∀ event ∈ past, event.call < call) ∨
      ∃ token, past.getLast? = some (.rejected call token))
  | .rejected call token => credentials.adoptedToken past = some token ∧
    past.getLast? = some (.presented call (.ofDeviceToken token))
  | .issued call _ => past.getLast? = some (.presented call (credentials.authAfter past))

/-- Every event of a history may follow what came before it. -/
def Grounded (history : List CredentialEvent) : Prop :=
  ∀ past event rest, history = past ++ event :: rest → credentials.MayFollow past event

end HostCredentials
end OpenclawNode.Node
