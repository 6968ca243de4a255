import OpenclawNode.Base.Except
import OpenclawNode.Node.ConnectOptions
import OpenclawNode.Node.SignedPayload

/-! The payload that is signed is the payload a Gateway makes of the envelope it gets. -/
namespace OpenclawNode.Node

open Json (Value asString asU64)

/-- The payload a Gateway makes of a connect's envelope, to verify its signature over. -/
def gatewayPayload (connect : Value) : Option String := do
  let client := detail (some connect) "client"
  let device := detail (some connect) "device"
  let auth := detail (some connect) "auth"
  let clientId ← (detail client "id").bind asString
  let clientMode ← (detail client "mode").bind asString
  let role ← (detail (some connect) "role").bind asString
  let scopes ← ((detail (some connect) "scopes").bind asArray).bind (·.mapM asString)
  let platform ← (detail client "platform").bind asString
  let deviceFamily := (detail client "deviceFamily").bind asString
  let deviceId ← (detail device "id").bind asString
  let signedAt ← (detail device "signedAt").bind asU64
  let nonce ← (detail device "nonce").bind asString
  let token := (((detail auth "token").bind asString).or
    ((detail auth "deviceToken").bind asString)).or ((detail auth "bootstrapToken").bind asString)
  return "|".intercalate ["v3", deviceId, clientId, clientMode, role, ",".intercalate scopes,
    Nat.repr signedAt.toNat, token.getD "", nonce, normalizeMetadata platform,
    normalizeMetadata (deviceFamily.getD "")]

variable {keys : KeyOperations} {options sent : NodeConnectOptions} {proof : DeviceProof}
  {challenge : ConnectChallenge} {publicKey : Vector UInt8 32} {signature : Vector UInt8 64}
  {request : DeviceSigningRequest}

/-- A member by its name. -/
def lookup (name : String) (members : List (String × Value)) : Option Value :=
  (members.find? (·.1 = name)).map Prod.snd

@[simp] theorem detail_object (name : String) (members : List (String × Value)) :
    detail (some (.object members)) name = lookup name members := rfl

@[simp] theorem detail_none (name : String) : detail none name = none := rfl

@[simp] theorem lookup_nil (name : String) : lookup name [] = none := rfl

@[simp] theorem lookup_cons (name : String) (member : String × Value)
    (members : List (String × Value)) : lookup name (member :: members) =
      if member.1 = name then some member.2 else lookup name members := by
  by_cases h : member.1 = name <;> simp [lookup, h]

@[simp] theorem lookup_append (name : String) (members members' : List (String × Value)) :
    lookup name (members ++ members') = (lookup name members).or (lookup name members') := by
  rw [lookup, List.find?_append, Option.map_or]
  rfl

@[simp] theorem lookup_optionalMember (name other : String) (value : Option Value) :
    lookup name (optionalMember other value) = if other = name then value else none := by
  cases value with
  | none => simp [optionalMember]
  | some value => simp [optionalMember]

@[simp] theorem lookup_nonEmptyMember (name other : String) (values : List String)
    (h : other ≠ name) : lookup name (nonEmptyMember other values) = none := by
  rw [nonEmptyMember]
  split
  · rfl
  · simp [h]

/-- The token a Gateway reads of an envelope's credentials is the one that was signed. -/
theorem signatureToken_detail (auth : Option ConnectAuth) :
    (((detail (auth.map ConnectAuth.toValue) "token").bind asString).or
      ((detail (auth.map ConnectAuth.toValue) "deviceToken").bind asString)).or
      ((detail (auth.map ConnectAuth.toValue) "bootstrapToken").bind asString) =
    auth.bind ConnectAuth.signatureToken := by
  cases auth with
  | none => rfl
  | some auth =>
    obtain ⟨token, bootstrapToken, deviceToken, password⟩ := auth
    cases token <;> cases bootstrapToken <;> cases deviceToken <;>
      simp [ConnectAuth.toValue, ConnectAuth.signatureToken, asString]

theorem lookup_permissions (name : String) (permissions : List (String × Bool))
    (h : "permissions" ≠ name) : lookup name (if permissions = [] then [] else
      [("permissions", .object (permissions.map fun p => (p.1, .bool p.2)))]) = none := by
  split
  · rfl
  · simp [h]

namespace NodeConnectOptions

theorem detail_client (options : NodeConnectOptions) :
    detail (some options.toValue) "client" = some options.client.toValue := by
  cases h : options.auth <;> simp [toValue, h]

theorem detail_device (options : NodeConnectOptions) :
    detail (some options.toValue) "device" = options.device.map DeviceProof.toValue := by
  simp [toValue, lookup_permissions]

theorem detail_auth (options : NodeConnectOptions) :
    detail (some options.toValue) "auth" = options.auth.map ConnectAuth.toValue := by
  simp [toValue, lookup_permissions]

theorem detail_role (options : NodeConnectOptions) :
    detail (some options.toValue) "role" = some (.string "node") := by
  simp [toValue, lookup_permissions, options.role_eq]

theorem detail_scopes (options : NodeConnectOptions) :
    detail (some options.toValue) "scopes" = some (.array []) := by
  simp [toValue, lookup_permissions, options.scopes_eq]

end NodeConnectOptions

theorem detail_clientInfo (client : ClientInfo) :
    detail (some client.toValue) "id" = some (.string "node-host") ∧
      detail (some client.toValue) "mode" = some (.string "node") ∧
      detail (some client.toValue) "platform" = some (.string client.platform) ∧
      (detail (some client.toValue) "deviceFamily").bind asString = client.deviceFamily := by
  have hid := client.id_eq
  have hmode := client.mode_eq
  cases h : client.deviceFamily <;> simp [ClientInfo.toValue, h, hid, hmode, asString]

/-- What a Gateway makes of an envelope with a device proof. -/
theorem gatewayPayload_toValue (hdevice : sent.device = some proof) :
    gatewayPayload sent.toValue = some ("|".intercalate (leadingFields proof.id proof.signedAt ++
      suppliedFields proof.nonce sent.client.platform sent.client.deviceFamily
        sent.signatureToken)) := by
  obtain ⟨hid, hmode, hplatform, hfamily⟩ := detail_clientInfo sent.client
  have hproof : detail (some proof.toValue) "id" = some (.string proof.id) ∧
      detail (some proof.toValue) "signedAt" = some (u64Value proof.signedAt) ∧
      detail (some proof.toValue) "nonce" = some (.string proof.nonce) := ⟨rfl, rfl, rfl⟩
  simp only [gatewayPayload, sent.detail_client, sent.detail_device, sent.detail_auth,
    sent.detail_role, sent.detail_scopes, hdevice, Option.map_some, hid, hmode, hplatform, hfamily,
    hproof, signatureToken_detail]
  rfl

theorem legacyNodePlatform_idem (platform : String) :
    legacyNodePlatform (legacyNodePlatform platform) = legacyNodePlatform platform := by
  by_cases hmac : platform = "macos"
  · subst hmac
    decide
  · by_cases hwindows : platform = "windows"
    · subst hwindows
      decide
    · simp [legacyNodePlatform, hmac, hwindows]

theorem finish_eq_ok (h : request.finish keys signature = .ok proof) :
    proof.id = request.deviceId ∧ proof.signedAt = request.signedAt ∧
      proof.nonce = request.nonce := by
  rw [DeviceSigningRequest.finish] at h
  split at h
  · split at h
    · cases h
      exact ⟨rfl, rfl, rfl⟩
    · cases h
  · cases h

namespace NodeConnectOptions

/-- The rewriting for a dialect leaves what an external request is made of. -/
theorem forProtocol_metadata (options : NodeConnectOptions) (protocol : NodeProtocolVersion) :
    ((options.forProtocol protocol).client.platform,
      (options.forProtocol protocol).client.deviceFamily) = options.identityMetadata protocol := by
  cases protocol <;> rfl

@[simp] theorem signatureToken_forProtocol (options : NodeConnectOptions)
    (protocol : NodeProtocolVersion) :
    (options.forProtocol protocol).signatureToken = options.signatureToken := by
  cases protocol <;> rfl

@[simp] theorem identity_forProtocol (options : NodeConnectOptions)
    (protocol : NodeProtocolVersion) :
    (options.forProtocol protocol).identity = options.identity := by
  cases protocol <;> rfl

@[simp] theorem device_forProtocol (options : NodeConnectOptions)
    (protocol : NodeProtocolVersion) :
    (options.forProtocol protocol).device = options.device := by
  cases protocol <;> rfl

theorem client_forProtocol_congr {other : NodeConnectOptions} (h : options.client = other.client)
    (protocol : NodeProtocolVersion) :
    (options.forProtocol protocol).client = (other.forProtocol protocol).client := by
  cases protocol
  · rw [forProtocol, forProtocol, if_pos rfl, if_pos rfl]
    simp only [h]
  · exact h

theorem advertise_frame (options : NodeConnectOptions) :
    options.advertise.client = options.client ∧ options.advertise.auth = options.auth ∧
      options.advertise.device = options.device ∧
      options.advertise.identity = options.identity := by
  rw [advertise]
  split <;> exact ⟨rfl, rfl, rfl, rfl⟩

/-- What an identity signs of prepared options is what an embedding would sign of the untouched
ones. -/
theorem connectRequest_eq (identity : NodeIdentity) :
    identity.connectRequest keys challenge.nonce
      (options.forProtocol challenge.protocol).client.platform
      (options.forProtocol challenge.protocol).client.deviceFamily
      (options.forProtocol challenge.protocol).signatureToken challenge.issuedAtMs =
    options.externalSigningRequest keys (keys.verifyingKey identity.secret) challenge := by
  have hmetadata := options.forProtocol_metadata challenge.protocol
  rw [externalSigningRequest, ← hmetadata, signatureToken_forProtocol]
  rfl

/-- Options that are sent carry the proof they had, or the one their identity gives. -/
theorem finalizeIdentity_eq_ok {nonce : String} {issuedAtMs : UInt64}
    (h : options.finalizeIdentity keys nonce issuedAtMs = .ok sent) :
    sent.client = options.client ∧ sent.signatureToken = options.signatureToken ∧
      (options.identity = none ∧ sent.device = options.device ∨
        ∃ identity proof, options.identity = some identity ∧ sent.device = some proof ∧
          identity.signConnectAt keys nonce options.client.platform options.client.deviceFamily
            options.signatureToken issuedAtMs = .ok proof) := by
  obtain ⟨hclient, hauth, hdevice, hidentity⟩ := options.advertise_frame
  rw [finalizeIdentity] at h
  cases hi : options.identity with
  | none =>
    rw [hi] at hidentity
    simp only [hidentity, Except.ok.injEq] at h
    subst h
    exact ⟨hclient, congrArg (Option.bind · _) hauth, .inl ⟨rfl, hdevice⟩⟩
  | some identity =>
    rw [hi] at hidentity
    simp only [hidentity, signatureToken, hclient, hauth] at h
    obtain ⟨proof, hproof, hsent⟩ := Except.bind_eq_ok.mp h
    cases hsent
    exact ⟨rfl, rfl, .inr ⟨identity, proof, rfl, rfl, hproof⟩⟩

end NodeConnectOptions

/-- A Gateway makes the payload of a request of the envelope that carries its proof. -/
theorem gatewayPayload_of_proof
    (hrequest : options.externalSigningRequest keys publicKey challenge = .ok request)
    (hproof : request.finish keys signature = .ok proof)
    (hclient : sent.client = (options.forProtocol challenge.protocol).client)
    (htoken : sent.signatureToken = options.signatureToken) (hdevice : sent.device = some proof) :
    gatewayPayload sent.toValue = some request.payload := by
  have hmetadata := options.forProtocol_metadata challenge.protocol
  rw [NodeConnectOptions.externalSigningRequest, ← hmetadata] at hrequest
  obtain ⟨_, htime, hnonce, hpayload⟩ := newAt_eq_ok hrequest
  obtain ⟨hid, hsignedAt, hproofNonce⟩ := finish_eq_ok hproof
  rw [gatewayPayload_toValue hdevice, hpayload, hid, hsignedAt, htime, hproofNonce, hnonce, hclient,
    htoken]

/-- What is signed for a connect is one string: the payload an embedding is asked to sign, the one
the library signs itself, and the one a Gateway makes of the envelope either proof is sent in. -/
theorem signing_paths_agree (keys : KeyOperations) (options : NodeConnectOptions)
    (challenge : ConnectChallenge) :
    (∀ identity : NodeIdentity,
      let prepared := (options.withIdentity identity).forProtocol challenge.protocol
      identity.connectRequest keys challenge.nonce prepared.client.platform
        prepared.client.deviceFamily prepared.signatureToken challenge.issuedAtMs =
      options.externalSigningRequest keys (keys.verifyingKey identity.secret) challenge) ∧
    (∀ (identity : NodeIdentity) (sent : NodeConnectOptions),
      ((options.withIdentity identity).forProtocol challenge.protocol).finalizeIdentity keys
        challenge.nonce challenge.issuedAtMs = .ok sent →
      ∃ request, options.externalSigningRequest keys (keys.verifyingKey identity.secret) challenge =
        .ok request ∧ gatewayPayload sent.toValue = some request.payload) ∧
    (∀ (publicKey : Vector UInt8 32) (signature : Vector UInt8 64) (request : DeviceSigningRequest)
      (proof : DeviceProof) (sent : NodeConnectOptions),
      options.externalSigningRequest keys publicKey challenge = .ok request →
      request.finish keys signature = .ok proof →
      ((options.withDevice proof).forProtocol challenge.protocol).finalizeIdentity keys
        challenge.nonce challenge.issuedAtMs = .ok sent →
      gatewayPayload sent.toValue = some request.payload) ∧
    ∀ platform, legacyNodePlatform (legacyNodePlatform platform) = legacyNodePlatform platform := by
  refine ⟨fun identity => ?_, fun identity sent hsent => ?_,
    fun publicKey signature request proof sent hrequest hproof hsent => ?_,
    legacyNodePlatform_idem⟩
  · exact @NodeConnectOptions.connectRequest_eq _ (options.withIdentity identity) _ identity
  · obtain ⟨hclient, htoken, ⟨hnone, _⟩ | ⟨identity', proof, hidentity, hdevice, hsign⟩⟩ :=
      NodeConnectOptions.finalizeIdentity_eq_ok hsent
    · rw [NodeConnectOptions.identity_forProtocol] at hnone
      cases hnone
    · rw [NodeConnectOptions.identity_forProtocol] at hidentity
      cases hidentity
      obtain ⟨request, hrequest, hproof⟩ := Except.bind_eq_ok.mp hsign
      rw [NodeConnectOptions.connectRequest_eq] at hrequest
      rw [NodeConnectOptions.signatureToken_forProtocol] at htoken
      exact ⟨request, hrequest, gatewayPayload_of_proof hrequest hproof hclient htoken hdevice⟩
  · obtain ⟨hclient, htoken, ⟨_, hdevice⟩ | ⟨identity, _, hidentity, _⟩⟩ :=
      NodeConnectOptions.finalizeIdentity_eq_ok hsent
    · rw [NodeConnectOptions.device_forProtocol] at hdevice
      rw [NodeConnectOptions.signatureToken_forProtocol] at htoken
      have hsame : (options.withDevice proof).client = options.client := rfl
      exact gatewayPayload_of_proof hrequest hproof
        (hclient.trans (NodeConnectOptions.client_forProtocol_congr hsame _)) htoken hdevice
    · rw [NodeConnectOptions.identity_forProtocol] at hidentity
      cases hidentity

theorem signing_paths_agree_darwin :
    ∃ (sent : NodeConnectOptions) (request : DeviceSigningRequest),
      (NodeConnectOptions.new "1.0" "macos").externalSigningRequest vectorKeys
        (vectorKeys.verifyingKey (Vector.replicate 32 7)) ⟨"second", 1, .v3⟩ = .ok request ∧
      gatewayPayload sent.toValue = some request.payload :=
  ⟨_, (signing_paths_agree vectorKeys (NodeConnectOptions.new "1.0" "macos")
    ⟨"second", 1, .v3⟩).2.1 ⟨Vector.replicate 32 7⟩ _ rfl⟩

end OpenclawNode.Node
