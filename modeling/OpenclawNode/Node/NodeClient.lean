import OpenclawNode.Base.Except
import OpenclawNode.Gateway.Connect
import OpenclawNode.Node.ConnectOptions
import OpenclawNode.Node.Lifecycle
import OpenclawNode.Node.SigningAgreement

/-! Connecting a node, with what its session keeps of the options that were sent. -/
namespace OpenclawNode.Node

open Json (Value asU64)
open Gateway (ConnectAttempt ConnectError Connection Opened connectOnce connectWithProtocolFallback
  getMember isExpectedProtocolMismatch)

def IdentityError.toText : IdentityError → String
  | .random reason => "operating-system randomness failed: " ++ reason
  | .invalidPublicKey => "external Ed25519 public key is invalid"
  | .invalidSignature => "external Ed25519 signature does not match the canonical connect payload"

/-- The errors of a node client. A node client only issues unguarded requests, so that none is
rejected by a guard. -/
def mapGatewayError : ConnectError → Option ClientError
  | .tls reason => some (.tls reason)
  | .connectTimeout => some .connectTimeout
  | .challengeTimeout => some .challengeTimeout
  | .invalidChallenge reason => some (.invalidChallenge reason)
  | .connectParams reason => some (.connectParams reason)
  | .session (.gateway method code message details retryable retryAfterMs) =>
    some (.gateway method code message details retryable retryAfterMs)
  | .session (.requestTimeout method) => some (.requestTimeout method)
  | .session (.dispatchRejected _) => none
  | .session (.writeTimeout operation) => some (.writeTimeout operation)
  | .session (.transport reason) => some (.transport reason)
  | .session (.closed reason) => some (.closed reason)
  | .session (.invalidFrame reason) => some (.invalidFrame reason)
  | .session (.eventLagged count) => some (.eventLagged count)

/-- What a connection advertised, shared between the callback and the caller of the connect. -/
structure ConnectionSurface where
  activated : Bool
  advertisedCommands : Finset String
  protocol : NodeProtocolVersion

structure NodeSession where
  hello : Value
  activated : Bool
  advertisedCommands : Finset String
  protocol : NodeProtocolVersion

def attemptProtocol : ConnectAttempt → NodeProtocolVersion
  | .current => .v4
  | .protocolFallback _ => .v3

variable {β : Type} (keys : KeyOperations)
  (makeOptions : ConnectChallenge → β → Except String NodeConnectOptions × β)

/-- The options as they are sent: rewritten for the dialect, with their surface and proof. -/
def prepareOptions (challenge : ConnectChallenge) (options : NodeConnectOptions) :
    Except String NodeConnectOptions :=
  ((options.forProtocol challenge.protocol).finalizeIdentity keys challenge.nonce
    challenge.issuedAtMs).mapError IdentityError.toText

/-- The parameter callback, with the state of the embedding's own and the shared surface. -/
def makeConnectParams (challenge : Gateway.ConnectChallenge) (attempt : ConnectAttempt)
    (s : β × ConnectionSurface) : Except String Value × β × ConnectionSurface :=
  let challenge := ⟨challenge.nonce, challenge.issuedAtMs, attemptProtocol attempt⟩
  match makeOptions challenge s.1 with
  | (.error error, callback) => (.error error, callback, s.2)
  | (.ok options, callback) =>
    match prepareOptions keys challenge options with
    | .error error => (.error error, callback, s.2)
    | .ok options =>
      (.ok options.toValue, callback,
        ⟨options.activated, options.advertisedCommands.toFinset, challenge.protocol⟩)

def helloProtocol (hello : Value) : Option UInt64 := (getMember "protocol" hello).bind asU64

/-- The connections that are opened, and the session or the error. -/
def NodeClient.connect (toLowercase : String → String) (gateway : List Opened → Connection)
    (callback : β) : List Opened × Except (Option ClientError) NodeSession :=
  match connectWithProtocolFallback toLowercase gateway minimumNodeProtocolVersion
    (makeConnectParams keys makeOptions) (callback, ⟨false, ∅, .v4⟩) with
  | (connections, .error error, _) => (connections, .error (mapGatewayError error))
  | (connections, .ok hello, _, surface) =>
    if helloProtocol hello ≠ some surface.protocol.number.toUInt64 then
      (connections, .error (some (.invalidFrame
        "Gateway hello protocol did not match the node connect envelope")))
    else
      (connections, .ok {
        hello := hello
        activated := surface.activated
        advertisedCommands := surface.advertisedCommands
        protocol := surface.protocol })

variable {keys} {makeOptions} {challenge : Gateway.ConnectChallenge} {attempt : ConnectAttempt}
  {callback callback' : β} {surface surface' : ConnectionSurface} {params : Value}

/-- Params that are made come with the surface of the options they are made of. -/
theorem makeConnectParams_eq_ok
    (h : makeConnectParams keys makeOptions challenge attempt (callback, surface) =
      (.ok params, callback', surface')) :
    ∃ given sent, makeOptions ⟨challenge.nonce, challenge.issuedAtMs, attemptProtocol attempt⟩
        callback = (.ok given, callback') ∧
      prepareOptions keys ⟨challenge.nonce, challenge.issuedAtMs, attemptProtocol attempt⟩ given =
        .ok sent ∧
      params = sent.toValue ∧
      surface' = ⟨sent.activated, sent.advertisedCommands.toFinset, attemptProtocol attempt⟩ := by
  rw [makeConnectParams] at h
  split at h
  · cases h
  · next given callback₁ hgiven =>
    split at h
    · cases h
    · next sent hsent =>
      cases h
      exact ⟨given, sent, hgiven, hsent, rfl, rfl⟩

/-- A session belongs to a connection: its hello is what was accepted on it, and the session keeps
what was sent on it. The options were given for the connection's own challenge and dialect. -/
structure NodeSession.Of (keys : KeyOperations)
    (makeOptions : ConnectChallenge → β → Except String NodeConnectOptions × β) (callback : β)
    (opened : Opened) (session : NodeSession) (challenge : ConnectChallenge)
    (given sent : NodeConnectOptions) : Prop where
  accepted : opened.result = .ok session.hello
  challenged : opened.challenge = some ⟨challenge.nonce, challenge.issuedAtMs⟩
  made : (makeOptions challenge callback).1 = .ok given
  prepared : prepareOptions keys challenge given = .ok sent
  params : opened.params = some sent.toValue
  activated : session.activated = sent.activated
  advertisedCommands : session.advertisedCommands = sent.advertisedCommands.toFinset
  protocol : session.protocol = challenge.protocol
  hello : helloProtocol session.hello = some challenge.protocol.number.toUInt64

/-- What is sent for a managed identity carries its proof over the challenge and the dialect. -/
theorem prepareOptions_proof {challenge : ConnectChallenge} {given sent : NodeConnectOptions}
    {identity : NodeIdentity} (h : prepareOptions keys challenge given = .ok sent)
    (hidentity : given.identity = some identity) :
    ∃ request proof, given.externalSigningRequest keys (keys.verifyingKey identity.secret)
        challenge = .ok request ∧
      request.finish keys (keys.sign identity.secret (Text.utf8 request.payload)) = .ok proof ∧
      sent.device = some proof ∧ proof.nonce = challenge.nonce ∧
      proof.signedAt = challenge.issuedAtMs := by
  have hfinal := Except.mapError_eq_ok.mp h
  obtain ⟨_, _, ⟨hnone, _⟩ | ⟨identity', proof, hidentity', hdevice, hsign⟩⟩ :=
    NodeConnectOptions.finalizeIdentity_eq_ok hfinal
  · rw [NodeConnectOptions.identity_forProtocol, hidentity] at hnone
    cases hnone
  · rw [NodeConnectOptions.identity_forProtocol, hidentity] at hidentity'
    cases hidentity'
    obtain ⟨request, hrequest, hproof⟩ := Except.bind_eq_ok.mp hsign
    rw [NodeConnectOptions.connectRequest_eq] at hrequest
    obtain ⟨_, htime, hnonce, _⟩ := newAt_eq_ok hrequest
    obtain ⟨_, hsignedAt, hproofNonce⟩ := finish_eq_ok hproof
    exact ⟨request, proof, hrequest, hproof, hdevice, hproofNonce.trans hnonce,
      hsignedAt.trans htime⟩

/-- The connection that gives a hello of the dialect published last gives a session of its own. -/
theorem NodeSession.of_connectOnce {connection : Connection} {opened : Opened} {hello : Value}
    (h : connectOnce connection (makeConnectParams keys makeOptions · attempt)
      (callback, surface) = (opened, callback', surface'))
    (hresult : opened.result = .ok hello)
    (hprotocol : helloProtocol hello = some surface'.protocol.number.toUInt64) :
    ∃ challenge given sent, challenge.protocol = attemptProtocol attempt ∧
      NodeSession.Of keys makeOptions callback opened
        ⟨hello, surface'.activated, surface'.advertisedCommands, surface'.protocol⟩ challenge given
        sent := by
  obtain ⟨challenge, params, hchallenge, hparams, hmade⟩ := Gateway.connectOnce_hello h hresult
  obtain ⟨given, sent, hgiven, hsent, rfl, rfl⟩ := makeConnectParams_eq_ok hmade
  exact ⟨⟨challenge.nonce, challenge.issuedAtMs, attemptProtocol attempt⟩, given, sent, rfl, {
    accepted := hresult
    challenged := hchallenge
    made := by rw [hgiven]
    prepared := hsent
    params := hparams
    activated := rfl
    advertisedCommands := rfl
    protocol := rfl
    hello := hprotocol }⟩

variable {toLowercase : String → String} {gateway : List Opened → Connection}

/-- What a connect returns, in terms of the fallback it runs. -/
theorem NodeClient.connect_cases (keys : KeyOperations)
    (makeOptions : ConnectChallenge → β → Except String NodeConnectOptions × β)
    (toLowercase : String → String) (gateway : List Opened → Connection) (callback : β) :
    ∃ connections result callback' surface,
      connectWithProtocolFallback toLowercase gateway minimumNodeProtocolVersion
        (makeConnectParams keys makeOptions) (callback, ⟨false, ∅, .v4⟩) =
          (connections, result, callback', surface) ∧
      (connect keys makeOptions toLowercase gateway callback).1 = connections ∧
      ∀ session, (connect keys makeOptions toLowercase gateway callback).2 = .ok session →
        result = .ok session.hello ∧
        helloProtocol session.hello = some surface.protocol.number.toUInt64 ∧
        session = ⟨session.hello, surface.activated, surface.advertisedCommands,
          surface.protocol⟩ := by
  rw [connect]
  split
  · next connections error s hrun =>
    exact ⟨connections, _, s.1, s.2, hrun, rfl, fun session h => by cases h⟩
  · next connections hello callback' surface hrun =>
    split
    · exact ⟨connections, _, callback', surface, hrun, rfl, fun session h => by cases h⟩
    · next hprotocol =>
      refine ⟨connections, _, callback', surface, hrun, rfl, fun session h => ?_⟩
      cases h
      exact ⟨rfl, not_not.mp hprotocol, rfl⟩

/-- A connect opens at most two connections, the second one after a rejection that names the legacy
dialect and a protocol mismatch. A session is that of the last connection: it keeps what was sent on
it, and a managed identity's proof on it is over its own challenge and dialect. -/
theorem NodeClient.connect_consistent (keys : KeyOperations)
    (makeOptions : ConnectChallenge → β → Except String NodeConnectOptions × β)
    (toLowercase : String → String) (gateway : List Opened → Connection) (callback : β) :
    (connect keys makeOptions toLowercase gateway callback).1.length ≤ 2 ∧
    (∀ first second,
      (connect keys makeOptions toLowercase gateway callback).1 = [first, second] →
      first.params.isSome ∧ ∃ code message details retryable retryAfterMs,
        first.result = .error (.session
          (.gateway "connect" code message (some details) retryable retryAfterMs)) ∧
        (getMember "expectedProtocol" details).bind asU64 =
          some minimumNodeProtocolVersion.toUInt64 ∧
        ((getMember "code" details).bind Json.asString = some "PROTOCOL_MISMATCH" ∨
          "protocol mismatch".toList <:+: (toLowercase (Text.trim message)).toList)) ∧
    ∀ session, (connect keys makeOptions toLowercase gateway callback).2 = .ok session →
      ∃ before opened challenge given sent,
        ((connect keys makeOptions toLowercase gateway callback).1 = [opened] ∧
            before = callback ∧ challenge.protocol = .v4 ∨
          ∃ first challenge₁,
            (connect keys makeOptions toLowercase gateway callback).1 = [first, opened] ∧
            first.challenge = some challenge₁ ∧
            before = (makeOptions ⟨challenge₁.nonce, challenge₁.issuedAtMs, .v4⟩
              callback).2 ∧ challenge.protocol = .v3) ∧
        NodeSession.Of keys makeOptions before opened session challenge given sent ∧
        ∀ identity, given.identity = some identity → ∃ request proof,
          given.externalSigningRequest keys (keys.verifyingKey identity.secret) challenge =
            .ok request ∧
          request.finish keys (keys.sign identity.secret (Text.utf8 request.payload)) = .ok proof ∧
          sent.device = some proof ∧ proof.nonce = challenge.nonce ∧
          proof.signedAt = challenge.issuedAtMs := by
  obtain ⟨connections, result, callback', surface, hrun, hconnections, hsession⟩ :=
    connect_cases keys makeOptions toLowercase gateway callback
  rw [hconnections]
  obtain ⟨first, rfl, rfl, hfirst⟩ | ⟨first, second, error, ⟨callback₁, surface₁⟩, rfl, rfl, herror,
    hmismatch, hfirst, hsecond⟩ := Gateway.connectWithProtocolFallback_cases hrun
  · refine ⟨Nat.le_succ 1, fun _ _ h => by simp at h, fun session hs => ?_⟩
    obtain ⟨hresult, hprotocol, hkept⟩ := hsession session hs
    obtain ⟨challenge, given, sent, hdialect, hof⟩ :=
      NodeSession.of_connectOnce hfirst hresult hprotocol
    rw [← hkept] at hof
    exact ⟨callback, first, challenge, given, sent, .inl ⟨rfl, rfl, hdialect⟩, hof,
      fun identity hidentity => prepareOptions_proof hof.prepared hidentity⟩
  · obtain ⟨code, message, details, retryable, retryAfterMs, rfl, hexpected, hmarker⟩ :=
      Gateway.isExpectedProtocolMismatch_iff.mp hmismatch
    obtain ⟨challenge₁, params₁, hchallenge₁, hparams₁, hmade₁⟩ :=
      Gateway.connectOnce_rejection hfirst herror
    refine ⟨Nat.le_refl 2, fun _ _ h => ?_, fun session hs => ?_⟩
    · obtain ⟨rfl, _⟩ := List.cons.inj h
      exact ⟨by rw [hparams₁]; rfl, code, message, details, retryable, retryAfterMs, herror,
        hexpected, hmarker⟩
    · obtain ⟨hresult, hprotocol, hkept⟩ := hsession session hs
      obtain ⟨challenge, given, sent, hdialect, hof⟩ :=
        NodeSession.of_connectOnce hsecond hresult hprotocol
      rw [← hkept] at hof
      obtain ⟨_, _, hgiven₁, _⟩ := makeConnectParams_eq_ok hmade₁
      refine ⟨callback₁, second, challenge, given, sent,
        .inr ⟨first, challenge₁, rfl, hchallenge₁, ?_, hdialect⟩, hof,
        fun identity hidentity => prepareOptions_proof hof.prepared hidentity⟩
      rw [show (⟨challenge₁.nonce, challenge₁.issuedAtMs, .v4⟩ : ConnectChallenge) =
        ⟨challenge₁.nonce, challenge₁.issuedAtMs, attemptProtocol .current⟩ from rfl, hgiven₁]

/-- A connection that challenges with a nonce and answers every connect alike. -/
def answering (nonce : String) (reply : Gateway.ConnectFrame) : Connection where
  refusal := none
  greeting := [.event "connect.challenge"
    (.object [("nonce", .string nonce), ("ts", u64Value 1)])]
  written _ := none
  replies _ := [reply]

/-- A Gateway of the legacy dialect. -/
def legacyGateway : List Opened → Connection
  | [] => answering "first" (.response Gateway.connectId false .null
      (some ⟨"INVALID_REQUEST", "protocol mismatch",
        some (.object [("code", .string "PROTOCOL_MISMATCH"), ("expectedProtocol", u64Value 3)]),
        none, none⟩))
  | _ => answering "second" (.response Gateway.connectId true
      (.object [("protocol", u64Value 3)]) none)

/-- An embedding that leaves its proof to the library. -/
def managedOptions (_ : ConnectChallenge) (_ : Unit) : Except String NodeConnectOptions × Unit :=
  (.ok ((NodeConnectOptions.new "1.0" "macos").withIdentity ⟨Vector.replicate 32 7⟩), ())

theorem NodeClient.connect_consistent_legacy :
    ∃ session opened challenge given sent,
      (connect vectorKeys managedOptions String.toLower legacyGateway ()).2 = .ok session ∧
      NodeSession.Of vectorKeys managedOptions () opened session challenge given sent := by
  obtain ⟨_, opened, challenge, given, sent, _, hof, _⟩ :=
    (connect_consistent vectorKeys managedOptions String.toLower legacyGateway ()).2.2 _ rfl
  exact ⟨_, opened, challenge, given, sent, rfl, hof⟩

/-- An embedding that gives one proof for every challenge. -/
def staleOptions (_ : ConnectChallenge) (_ : Unit) : Except String NodeConnectOptions × Unit :=
  (.ok ((NodeConnectOptions.new "1.0" "linux").withDevice
    ⟨"id", "key", "signature", 0, "stale"⟩), ())

/-- A proof that an embedding supplies is sent as it is, whatever the challenge. -/
theorem NodeClient.not_connect_consistent :
    ¬ ∀ (keys : KeyOperations)
      (makeOptions : ConnectChallenge → Unit → Except String NodeConnectOptions × Unit)
      (toLowercase : String → String) (gateway : List Opened → Connection) (session : NodeSession)
      (opened : Opened) (challenge : Gateway.ConnectChallenge) (params device : Value),
      (connect keys makeOptions toLowercase gateway ()).2 = .ok session →
      (connect keys makeOptions toLowercase gateway ()).1.getLast? = some opened →
      opened.challenge = some challenge → opened.params = some params →
      detail (some params) "device" = some device →
      detail (some device) "nonce" = some (.string challenge.nonce) := by
  intro h
  have hnonce := h vectorKeys staleOptions String.toLower
    (fun _ => answering "fresh" (.response Gateway.connectId true
      (.object [("protocol", u64Value 4)]) none)) _ _ _ _ _ rfl rfl rfl rfl rfl
  exact absurd (Value.string.inj (Option.some.inj hnonce)) (by decide)

end OpenclawNode.Node
