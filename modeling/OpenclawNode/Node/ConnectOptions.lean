import OpenclawNode.Node.ConnectDetails
import OpenclawNode.Node.Identity

/-! The options of a node connect: the dialect they are rewritten for, the device proof they get and
the envelope they are sent as. -/
namespace OpenclawNode.Node

open Json (Value asString asU64)

/-- Node wire dialect selected for one Gateway session. -/
inductive NodeProtocolVersion
  | v3
  | v4
  deriving DecidableEq, Repr

def minimumNodeProtocolVersion : UInt32 := 3

def protocolVersion : UInt32 := 4

def NodeProtocolVersion.number : NodeProtocolVersion → UInt32
  | .v3 => minimumNodeProtocolVersion
  | .v4 => protocolVersion

/-- Fresh Gateway challenge plus the exact node protocol envelope to sign. -/
structure ConnectChallenge where
  nonce : String
  issuedAtMs : UInt64
  protocol : NodeProtocolVersion
  deriving DecidableEq, Repr

structure ConnectAuth where
  token : Option String
  bootstrapToken : Option String
  deviceToken : Option String
  password : Option String
  deriving DecidableEq, Repr

def ConnectAuth.signatureToken (auth : ConnectAuth) : Option String :=
  (auth.token.or auth.deviceToken).or auth.bootstrapToken

/-- Every client of this library has one id and one mode. -/
structure ClientInfo where
  id : String
  displayName : Option String
  version : String
  platform : String
  deviceFamily : Option String
  mode : String
  instanceId : Option String
  id_eq : id = "node-host"
  mode_eq : mode = "node"

/-- Every set of options has one role and asks for no scopes. -/
structure NodeConnectOptions where
  minProtocol : UInt32
  maxProtocol : UInt32
  client : ClientInfo
  advertisedCaps : List String
  advertisedCommands : List String
  advertisedPermissions : List (String × Bool)
  declaredCaps : List String
  declaredCommands : List String
  declaredPermissions : List (String × Bool)
  activated : Bool
  pathEnv : Option String
  role : String
  scopes : List String
  device : Option DeviceProof
  identity : Option NodeIdentity
  auth : Option ConnectAuth
  locale : Option String
  userAgent : Option String
  role_eq : role = "node"
  scopes_eq : scopes = []

namespace NodeConnectOptions

def new (version platform : String) : NodeConnectOptions where
  minProtocol := minimumNodeProtocolVersion
  maxProtocol := protocolVersion
  client := ⟨"node-host", none, version, platform, none, "node", none, rfl, rfl⟩
  advertisedCaps := []
  advertisedCommands := []
  advertisedPermissions := []
  declaredCaps := []
  declaredCommands := []
  declaredPermissions := []
  activated := false
  pathEnv := none
  role := "node"
  scopes := []
  device := none
  identity := none
  auth := none
  locale := none
  userAgent := none
  role_eq := rfl
  scopes_eq := rfl

def command (options : NodeConnectOptions) (value : String) : NodeConnectOptions :=
  { options with declaredCommands := options.declaredCommands ++ [value] }

/-- Advertise the declared node surface on this connection. -/
def activate (options : NodeConnectOptions) : NodeConnectOptions :=
  { options with activated := true }

def withDevice (options : NodeConnectOptions) (value : DeviceProof) : NodeConnectOptions :=
  { options with device := some value, identity := none }

/-- Use a library-managed identity for the final connect signature. -/
def withIdentity (options : NodeConnectOptions) (value : NodeIdentity) : NodeConnectOptions :=
  { options with identity := some value, device := none }

def signatureToken (options : NodeConnectOptions) : Option String :=
  options.auth.bind ConnectAuth.signatureToken

end NodeConnectOptions

def legacyNodePlatform (platform : String) : String :=
  if platform = "macos" then "darwin" else if platform = "windows" then "win32" else platform

namespace NodeConnectOptions

def forProtocol (options : NodeConnectOptions) (protocol : NodeProtocolVersion) :
    NodeConnectOptions :=
  let options := { options with minProtocol := protocol.number, maxProtocol := protocol.number }
  if protocol = .v3 then
    { options with
      client := { options.client with
        platform := legacyNodePlatform options.client.platform
        deviceFamily := none } }
  else options

def identityMetadata (options : NodeConnectOptions) (protocol : NodeProtocolVersion) :
    String × Option String :=
  if protocol = .v3 then (legacyNodePlatform options.client.platform, none)
  else (options.client.platform, options.client.deviceFamily)

variable (keys : KeyOperations)

/-- Prepare the canonical payload for an embedding-owned key. -/
def externalSigningRequest (options : NodeConnectOptions) (publicKey : Vector UInt8 32)
    (challenge : ConnectChallenge) : Except IdentityError DeviceSigningRequest :=
  let (platform, deviceFamily) := options.identityMetadata challenge.protocol
  DeviceSigningRequest.newAt keys publicKey challenge.nonce platform deviceFamily
    options.signatureToken challenge.issuedAtMs

/-- The declared surface is advertised on an activated connection only. -/
def advertise (options : NodeConnectOptions) : NodeConnectOptions :=
  if options.activated then
    { options with
      advertisedCaps := options.declaredCaps
      advertisedCommands := options.declaredCommands
      advertisedPermissions := options.declaredPermissions }
  else options

def finalizeIdentity (options : NodeConnectOptions) (nonce : String) (issuedAtMs : UInt64) :
    Except IdentityError NodeConnectOptions :=
  let options := options.advertise
  match options.identity with
  | none => .ok options
  | some identity => do
    let proof ← identity.signConnectAt keys nonce options.client.platform
      options.client.deviceFamily options.signatureToken issuedAtMs
    return { options with identity := none, device := some proof }

end NodeConnectOptions

/-- A member that is left out when there is nothing to write. -/
def optionalMember (name : String) : Option Value → List (String × Value)
  | none => []
  | some value => [(name, value)]

/-- A list that is left out when it is empty. -/
def nonEmptyMember (name : String) (values : List String) : List (String × Value) :=
  if values = [] then [] else [(name, .array (values.map .string))]

def u64Value (n : UInt64) : Value := .number (.posInt n)

/-! The envelope, with the members of each object in the order of their names. -/

def DeviceProof.toValue (proof : DeviceProof) : Value :=
  .object [("id", .string proof.id), ("nonce", .string proof.nonce),
    ("publicKey", .string proof.publicKey), ("signature", .string proof.signature),
    ("signedAt", u64Value proof.signedAt)]

def ConnectAuth.toValue (auth : ConnectAuth) : Value :=
  .object (optionalMember "bootstrapToken" (auth.bootstrapToken.map .string) ++
    optionalMember "deviceToken" (auth.deviceToken.map .string) ++
    optionalMember "password" (auth.password.map .string) ++
    optionalMember "token" (auth.token.map .string))

def ClientInfo.toValue (client : ClientInfo) : Value :=
  .object (optionalMember "deviceFamily" (client.deviceFamily.map .string) ++
    optionalMember "displayName" (client.displayName.map .string) ++
    [("id", .string client.id)] ++
    optionalMember "instanceId" (client.instanceId.map .string) ++
    [("mode", .string client.mode), ("platform", .string client.platform),
      ("version", .string client.version)])

def NodeConnectOptions.toValue (options : NodeConnectOptions) : Value :=
  .object (optionalMember "auth" (options.auth.map ConnectAuth.toValue) ++
    nonEmptyMember "caps" options.advertisedCaps ++
    [("client", options.client.toValue)] ++
    nonEmptyMember "commands" options.advertisedCommands ++
    optionalMember "device" (options.device.map DeviceProof.toValue) ++
    optionalMember "locale" (options.locale.map .string) ++
    [("maxProtocol", u64Value options.maxProtocol.toUInt64),
      ("minProtocol", u64Value options.minProtocol.toUInt64)] ++
    optionalMember "pathEnv" (options.pathEnv.map .string) ++
    (if options.advertisedPermissions = [] then []
      else [("permissions",
        .object (options.advertisedPermissions.map fun p => (p.1, .bool p.2)))]) ++
    [("role", .string options.role), ("scopes", .array (options.scopes.map .string))] ++
    optionalMember "userAgent" (options.userAgent.map .string))

end OpenclawNode.Node
