import OpenclawNode.Base.Text

/-! The signed part of a connect: what a device signs of a challenge, and the proof it gives. -/
namespace OpenclawNode.Node

open BigEndian (Bytes)
open Text (trim utf8)

inductive IdentityError
  | random (reason : String)
  | invalidPublicKey
  | invalidSignature
  deriving DecidableEq, Repr

/-- The key operations of the cryptography libraries. -/
structure KeyOperations where
  isVerifyingKey : Vector UInt8 32 → Bool
  verifyingKey : Vector UInt8 32 → Vector UInt8 32
  sign : Vector UInt8 32 → Bytes → Vector UInt8 64
  verify : Vector UInt8 32 → Bytes → Vector UInt8 64 → Bool
  sha256 : Vector UInt8 32 → Vector UInt8 32
  base64 : List UInt8 → String

structure DeviceProof where
  id : String
  publicKey : String
  signature : String
  signedAt : UInt64
  nonce : String
  deriving DecidableEq, Repr

structure DeviceSigningRequest where
  deviceId : String
  publicKey : Vector UInt8 32
  signedAt : UInt64
  nonce : String
  payload : String
  deriving DecidableEq, Repr

/-- A byte as two hexadecimal digits. -/
def hexByte (b : UInt8) : List Char :=
  [Nat.digitChar (b.toNat / 16), Nat.digitChar (b.toNat % 16)]

def normalizeMetadata (value : String) : String := (trim value).map Char.toLower

variable (keys : KeyOperations)

def deviceIdFromPublicKey (publicKey : Vector UInt8 32) : String :=
  String.ofList ((keys.sha256 publicKey).toList.flatMap hexByte)

/-- The fields of a signed payload whose text others supply. -/
def suppliedFields (nonce platform : String) (deviceFamily signatureToken : Option String) :
    List String :=
  [signatureToken.getD "", nonce, normalizeMetadata platform,
    normalizeMetadata (deviceFamily.getD "")]

def DeviceSigningRequest.newAt (publicKey : Vector UInt8 32) (nonce platform : String)
    (deviceFamily signatureToken : Option String) (signedAt : UInt64) :
    Except IdentityError DeviceSigningRequest :=
  if keys.isVerifyingKey publicKey then
    let deviceId := deviceIdFromPublicKey keys publicKey
    let payload := "|".intercalate (["v3", deviceId, "node-host", "node", "node", "",
      Nat.repr signedAt.toNat] ++ suppliedFields nonce platform deviceFamily signatureToken)
    .ok ⟨deviceId, publicKey, signedAt, nonce, payload⟩
  else .error .invalidPublicKey

/-- Complete the device proof with a raw signature of the payload. -/
def DeviceSigningRequest.finish (request : DeviceSigningRequest) (signature : Vector UInt8 64) :
    Except IdentityError DeviceProof :=
  if keys.isVerifyingKey request.publicKey then
    if keys.verify request.publicKey (utf8 request.payload) signature then
      .ok {
        id := request.deviceId
        publicKey := keys.base64 request.publicKey.toList
        signature := keys.base64 signature.toList
        signedAt := request.signedAt
        nonce := request.nonce }
    else .error .invalidSignature
  else .error .invalidPublicKey

/-- A key the library manages. -/
structure NodeIdentity where
  secret : Vector UInt8 32
  deriving DecidableEq, Repr

/-- What an identity signs for a connect. -/
def NodeIdentity.connectRequest (identity : NodeIdentity) (nonce platform : String)
    (deviceFamily signatureToken : Option String) (signedAt : UInt64) :
    Except IdentityError DeviceSigningRequest :=
  DeviceSigningRequest.newAt keys (keys.verifyingKey identity.secret) nonce platform deviceFamily
    signatureToken signedAt

def NodeIdentity.signConnectAt (identity : NodeIdentity) (nonce platform : String)
    (deviceFamily signatureToken : Option String) (signedAt : UInt64) :
    Except IdentityError DeviceProof := do
  let request ← identity.connectRequest keys nonce platform deviceFamily signatureToken signedAt
  request.finish keys (keys.sign identity.secret (utf8 request.payload))

end OpenclawNode.Node
