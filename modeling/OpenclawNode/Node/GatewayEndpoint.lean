import OpenclawNode.Base.Addresses
import OpenclawNode.Node.HostConfig
import OpenclawNode.Node.ReconnectRuns

/-! Which Gateways a transport may be opened to, and what becomes of a refusal. -/
namespace OpenclawNode.Node

open Addresses (Block Within)

inductive Host
  | domain (name : String)
  | ipv4 (address : Vector UInt8 4)
  | ipv6 (address : Vector UInt16 8)
  deriving DecidableEq, Repr

structure Url where
  scheme : String
  host : Option Host
  deriving DecidableEq, Repr

inductive TlsTrust
  | systemRoots
  | pinned (fingerprint : Vector UInt8 32)
  deriving DecidableEq, Repr

/-- The errors of a Gateway client before its socket opens. -/
inductive EndpointError
  | invalidUrl (reason : String)
  | insecureRemoteGateway
  | invalidHeader (reason : String)
  | tls (reason : String)
  deriving DecidableEq, Repr

/-- The URL parser, and what the HTTP library makes of the same text and of a header. -/
structure UrlLibrary where
  parse : String → Except String Url
  intoClientRequest : String → Except String (Option String)
  header : String → String → Except String Unit

/-- A configuration keeps the scheme of its request. -/
structure GatewayClientConfig where
  requestScheme : Option String
  tlsTrust : TlsTrust
  deriving DecidableEq, Repr

def isPrivate (address : Vector UInt8 4) : Bool :=
  address.get 0 == 10 ||
    (address.get 0 == 172 &&
      decide ((16 : UInt8) ≤ address.get 1 ∧ address.get 1 ≤ (31 : UInt8))) ||
    (address.get 0 == 192 && address.get 1 == 168)

def isLinkLocal (address : Vector UInt8 4) : Bool := address.get 0 == 169 && address.get 1 == 254

/-- The address that `::ffff:0:0/96` maps. -/
def toIpv4Mapped (address : Vector UInt16 8) : Option (Vector UInt8 4) :=
  if address[0] = 0 ∧ address[1] = 0 ∧ address[2] = 0 ∧ address[3] = 0 ∧ address[4] = 0 ∧
      address[5] = 0xffff then
    some #v[(address[6] / 256).toUInt8, address[6].toUInt8, (address[7] / 256).toUInt8,
      address[7].toUInt8]
  else none

def isTrustedPlaintextIpv4 (address : Vector UInt8 4) : Bool :=
  (IpAddr.v4 address).isLoopback || isPrivate address || isLinkLocal address ||
    (address.get 0 == 100 && decide ((64 : UInt8) ≤ address.get 1 ∧ address.get 1 ≤ (127 : UInt8)))

def isTrustedPlaintextAddress : IpAddr → Bool
  | .v4 address => isTrustedPlaintextIpv4 address
  | .v6 address =>
    match toIpv4Mapped address with
    | some mapped => isTrustedPlaintextIpv4 mapped
    | none => (IpAddr.v6 address).isLoopback || address[0] &&& 0xfe00 == 0xfc00 ||
        address[0] &&& 0xffc0 == 0xfe80

def isTrustedPlaintextHost (url : Url) : Bool :=
  match url.host with
  | some (.ipv4 address) => isTrustedPlaintextAddress (.v4 address)
  | some (.ipv6 address) => isTrustedPlaintextAddress (.v6 address)
  | some (.domain name) =>
    let host := name.map Char.toLower
    host == "localhost" || decide (".local".toList <:+ host.toList) ||
      decide (".ts.net".toList <:+ host.toList)
  | none => false

def validateGatewayUrl (library : UrlLibrary) (value : String) : Except EndpointError Unit := do
  let url ← (library.parse value).mapError .invalidUrl
  if url.scheme = "wss" then .ok ()
  else if url.scheme = "ws" then
    if isTrustedPlaintextHost url then .ok () else .error .insecureRemoteGateway
  else .error (.invalidUrl s!"unsupported scheme {url.scheme}; expected ws or wss")

def GatewayClientConfig.new (library : UrlLibrary) (gatewayUrl : String) :
    Except EndpointError GatewayClientConfig := do
  validateGatewayUrl library gatewayUrl
  let requestScheme ← (library.intoClientRequest gatewayUrl).mapError .invalidUrl
  .ok ⟨requestScheme, .systemRoots⟩

/-- What `connect_once` checks before it opens the socket. The transport error of
`pinned_tls_config`, that the TLS provider has none of the default protocol versions, is left out:
the provider is a fixed one that has them. -/
def GatewayClientConfig.connector (config : GatewayClientConfig) :
    Except EndpointError TlsTrust :=
  if config.tlsTrust ≠ .systemRoots ∧ config.requestScheme ≠ some "wss" then
    .error (.tls "Gateway TLS fingerprint requires a wss:// URL")
  else .ok config.tlsTrust

/-- Headers are added one at a time, up to the first that is refused. -/
def addHeaders (library : UrlLibrary) : List (String × String) → Except EndpointError Unit
  | [] => .ok ()
  | (name, value) :: headers => do
    (library.header name value).mapError .invalidHeader
    addHeaders library headers

/-- What a node client does before its socket opens, and the trust that it opens it with. -/
def openTransport (library : UrlLibrary) (gatewayUrl : String) (tlsTrust : TlsTrust)
    (headers : List (String × String)) : Except EndpointError TlsTrust := do
  let config ← GatewayClientConfig.new library gatewayUrl
  addHeaders library headers
  { config with tlsTrust }.connector

def mapEndpointError : EndpointError → ClientError
  | .invalidUrl reason => .invalidUrl reason
  | .invalidHeader reason => .invalidUrl reason
  | .insecureRemoteGateway => .insecureRemoteGateway
  | .tls reason => .tls reason

section blocks

/-- The four octets as one number. -/
def ipv4Number (address : Vector UInt8 4) : Nat :=
  (((address.get 0).toNat * 256 + (address.get 1).toNat) * 256 + (address.get 2).toNat) * 256 +
    (address.get 3).toNat

def ipv6Number (address : Vector UInt16 8) : Nat :=
  ((((((address[0].toNat * 65536 + address[1].toNat) * 65536 + address[2].toNat) * 65536 +
    address[3].toNat) * 65536 + address[4].toNat) * 65536 + address[5].toNat) * 65536 +
    address[6].toNat) * 65536 + address[7].toNat

/-- Every address as one of 128 bits, the addresses of 32 bits under `::ffff:0:0/96`. -/
def IpAddr.number : IpAddr → Nat
  | .v4 address => 0xffff * 2 ^ 32 + ipv4Number address
  | .v6 address => ipv6Number address

/-- Loopback, the three private blocks, the link-local one, and the shared one of carriers. -/
def trustedIpv4Blocks : List (Block 32) := [
  ⟨127 * 2 ^ 24, 8, by decide, by decide⟩,
  ⟨10 * 2 ^ 24, 8, by decide, by decide⟩,
  ⟨172 * 2 ^ 24 + 16 * 2 ^ 16, 12, by decide, by decide⟩,
  ⟨192 * 2 ^ 24 + 168 * 2 ^ 16, 16, by decide, by decide⟩,
  ⟨169 * 2 ^ 24 + 254 * 2 ^ 16, 16, by decide, by decide⟩,
  ⟨100 * 2 ^ 24 + 64 * 2 ^ 16, 10, by decide, by decide⟩]

/-- Loopback, the unique local block and the link-local one. -/
def trustedIpv6Blocks : List (Block 128) := [
  ⟨1, 128, by decide, by decide⟩,
  ⟨0xfc00 * 2 ^ 112, 7, by decide, by decide⟩,
  ⟨0xfe80 * 2 ^ 112, 10, by decide, by decide⟩]

def trustedBlocks : List (Block 128) :=
  trustedIpv4Blocks.map (·.under 96 0xffff) ++ trustedIpv6Blocks

theorem ipv4Number_lt (address : Vector UInt8 4) : ipv4Number address < 2 ^ 32 := by
  have h0 := (address.get 0).toNat_lt
  have h1 := (address.get 1).toNat_lt
  have h2 := (address.get 2).toNat_lt
  have h3 := (address.get 3).toNat_lt
  unfold ipv4Number
  omega

theorem isLoopback_v4 (address : Vector UInt8 4) :
    (IpAddr.v4 address).isLoopback = (address.get 0 == 127) := rfl

theorem isTrustedPlaintextIpv4_iff (address : Vector UInt8 4) :
    isTrustedPlaintextIpv4 address = true ↔
      ∃ block ∈ trustedIpv4Blocks, block.Contains (ipv4Number address) := by
  have h0 := (address.get 0).toNat_lt
  have h1 := (address.get 1).toNat_lt
  have h2 := (address.get 2).toNat_lt
  have h3 := (address.get 3).toNat_lt
  simp only [trustedIpv4Blocks, List.mem_cons, List.not_mem_nil, or_false, exists_eq_or_imp,
    exists_eq_left, Block.contains_iff_div, isTrustedPlaintextIpv4, isLoopback_v4, isPrivate,
    isLinkLocal, Bool.or_eq_true, Bool.and_eq_true, beq_iff_eq, decide_eq_true_iff,
    ← UInt8.toNat_inj, UInt8.le_iff_toNat_le, ipv4Number]
  simp only [UInt8.reduceToNat, Nat.reducePow, Nat.reduceMul, Nat.reduceAdd, Nat.reduceSub,
    Nat.reduceDiv]
  omega

theorem exists_under_iff {q a : Nat} (ha : a < 2 ^ 32) :
    (∃ block ∈ trustedIpv4Blocks.map (·.under 96 0xffff), block.Contains (q * 2 ^ 32 + a)) ↔
      q = 0xffff ∧ ∃ block ∈ trustedIpv4Blocks, block.Contains a := by
  have hnetwork : ∀ block ∈ trustedIpv4Blocks, block.network < 2 ^ 32 := by
    simp [trustedIpv4Blocks]
  constructor
  · rintro ⟨_, hmem, hcontains⟩
    obtain ⟨block, hblock, rfl⟩ := List.mem_map.mp hmem
    obtain ⟨hq, hb⟩ := (Block.under_contains ha (hnetwork block hblock)).mp hcontains
    exact ⟨hq, block, hblock, hb⟩
  · rintro ⟨hq, block, hblock, hb⟩
    exact ⟨_, List.mem_map_of_mem hblock,
      (Block.under_contains ha (hnetwork block hblock)).mpr ⟨hq, hb⟩⟩

theorem ipv6Number_of_mapped {address : Vector UInt16 8} {mapped : Vector UInt8 4}
    (h : toIpv4Mapped address = some mapped) :
    ipv6Number address = 0xffff * 2 ^ 32 + ipv4Number mapped := by
  unfold toIpv4Mapped at h
  split at h
  · next hprefix =>
    obtain ⟨h0, h1, h2, h3, h4, h5⟩ := hprefix
    cases h
    have h6 := address[6].toNat_lt
    have h7 := address[7].toNat_lt
    simp only [ipv6Number, ipv4Number, h0, h1, h2, h3, h4, h5]
    simp [Vector.get]
    omega
  · cases h

theorem ipv6Number_of_not_mapped {address : Vector UInt16 8} (h : toIpv4Mapped address = none) :
    ipv6Number address / 2 ^ 32 ≠ 0xffff := by
  unfold toIpv4Mapped at h
  split at h
  · cases h
  · next hprefix =>
    intro hnumber
    refine hprefix ?_
    have h0 := address[0].toNat_lt
    have h1 := address[1].toNat_lt
    have h2 := address[2].toNat_lt
    have h3 := address[3].toNat_lt
    have h4 := address[4].toNat_lt
    have h5 := address[5].toNat_lt
    have h6 := address[6].toNat_lt
    have h7 := address[7].toNat_lt
    simp only [← UInt16.toNat_inj, ipv6Number] at hnumber ⊢
    simp
    omega

/-- A test of the first bits of a segment, as a quotient. -/
theorem masked_segment {segment mask value : UInt16} {h : Nat} (hh : h ≤ 16)
    (hmask : mask.toNat = 2 ^ 16 - 2 ^ h) :
    segment &&& mask = value ↔ segment.toNat / 2 ^ h * 2 ^ h = value.toNat := by
  rw [← UInt16.toNat_inj, UInt16.toNat_and, hmask, Addresses.and_mask hh segment.toNat_lt]

theorem isLoopback_v6_iff (address : Vector UInt16 8) :
    (IpAddr.v6 address).isLoopback = true ↔ ipv6Number address = 1 := by
  unfold IpAddr.isLoopback
  rw [beq_iff_eq]
  constructor
  · rintro rfl
    rfl
  · intro h
    have h7 := address[7].toNat_lt
    unfold ipv6Number at h
    refine Vector.ext fun i hi => UInt16.toNat_inj.mp ?_
    interval_cases i <;> simp <;> omega

theorem exists_ipv6_iff (address : Vector UInt16 8) :
    (∃ block ∈ trustedIpv6Blocks, block.Contains (ipv6Number address)) ↔
      (IpAddr.v6 address).isLoopback = true ∨ address[0] &&& 0xfe00 = 0xfc00 ∨
        address[0] &&& 0xffc0 = 0xfe80 := by
  have h0 := address[0].toNat_lt
  have h1 := address[1].toNat_lt
  have h2 := address[2].toNat_lt
  have h3 := address[3].toNat_lt
  have h4 := address[4].toNat_lt
  have h5 := address[5].toNat_lt
  have h6 := address[6].toNat_lt
  have h7 := address[7].toNat_lt
  rw [isLoopback_v6_iff, masked_segment (h := 9) (by decide) rfl,
    masked_segment (h := 6) (by decide) rfl]
  simp only [trustedIpv6Blocks, List.mem_cons, List.not_mem_nil, or_false, exists_eq_or_imp,
    exists_eq_left, Block.contains_iff_div, ipv6Number]
  simp only [UInt16.reduceToNat, Nat.reducePow, Nat.reduceMul, Nat.reduceSub,
    Nat.reduceDiv]
  omega

/-- No block of the longer addresses reaches into those that map an address of 32 bits. -/
theorem not_exists_ipv6 {n : Nat} (h : n / 2 ^ 32 = 0xffff) :
    ¬ ∃ block ∈ trustedIpv6Blocks, block.Contains n := by
  simp only [trustedIpv6Blocks, List.mem_cons, List.not_mem_nil, or_false, exists_eq_or_imp,
    exists_eq_left, Block.contains_iff_div]
  simp only [Nat.reducePow, Nat.reduceMul, Nat.reduceSub, Nat.reduceDiv] at h ⊢
  omega

/-- An address is trusted when it lies in one of nine blocks, an address of 32 bits and the one
that maps it in the same of them. -/
theorem isTrustedPlaintextAddress_iff (address : IpAddr) :
    isTrustedPlaintextAddress address = true ↔
      ∃ block ∈ trustedBlocks, block.Contains address.number := by
  unfold trustedBlocks
  simp only [List.mem_append, or_and_right, exists_or]
  cases address with
  | v4 address =>
    have hlt := ipv4Number_lt address
    rw [IpAddr.number, exists_under_iff hlt, or_iff_left (not_exists_ipv6 (by omega)),
      isTrustedPlaintextAddress, isTrustedPlaintextIpv4_iff]
    exact (and_iff_right rfl).symm
  | v6 address =>
    rw [isTrustedPlaintextAddress]
    cases hmapped : toIpv4Mapped address with
    | some mapped =>
      have hlt := ipv4Number_lt mapped
      rw [IpAddr.number, ipv6Number_of_mapped hmapped, exists_under_iff hlt,
        or_iff_left (not_exists_ipv6 (by omega)), isTrustedPlaintextIpv4_iff]
      exact (and_iff_right rfl).symm
    | none =>
      have hsplit : ipv6Number address =
          ipv6Number address / 2 ^ 32 * 2 ^ 32 + ipv6Number address % 2 ^ 32 := by omega
      have hunder : ¬ ∃ block ∈ trustedIpv4Blocks.map (·.under 96 0xffff),
          block.Contains (ipv6Number address) := by
        rw [hsplit, exists_under_iff (Nat.mod_lt _ (Nat.two_pow_pos 32))]
        exact fun h => ipv6Number_of_not_mapped hmapped h.1
      rw [IpAddr.number, or_iff_right hunder, exists_ipv6_iff]
      simp [or_assoc]

end blocks

/-- A host that plaintext may be spoken to: one of a trusted block, or by its name this machine
or one of the two zones. -/
def Host.Trusted : Host → Prop
  | .ipv4 address => ∃ block ∈ trustedBlocks, block.Contains (IpAddr.v4 address).number
  | .ipv6 address => ∃ block ∈ trustedBlocks, block.Contains (IpAddr.v6 address).number
  | .domain name =>
    let host := name.map Char.toLower
    host = "localhost" ∨ Within '.' ["local".toList] host.toList ∨
      Within '.' ["ts".toList, "net".toList] host.toList

theorem isTrustedPlaintextHost_iff (url : Url) :
    isTrustedPlaintextHost url = true ↔ ∃ host, url.host = some host ∧ host.Trusted := by
  unfold isTrustedPlaintextHost
  cases url.host with
  | none => simp
  | some host =>
    cases host with
    | ipv4 address => simp [Host.Trusted, isTrustedPlaintextAddress_iff]
    | ipv6 address => simp [Host.Trusted, isTrustedPlaintextAddress_iff]
    | domain name =>
      have hlocal : ".local".toList <:+ (name.map Char.toLower).toList ↔
          Within '.' ["local".toList] (name.map Char.toLower).toList := by
        rw [show ".local".toList = '.' :: ['.'].intercalate ["local".toList] by decide]
        exact Addresses.suffix_iff_within (by simp) (by simp)
      have hnet : ".ts.net".toList <:+ (name.map Char.toLower).toList ↔
          Within '.' ["ts".toList, "net".toList] (name.map Char.toLower).toList := by
        rw [show ".ts.net".toList = '.' :: ['.'].intercalate ["ts".toList, "net".toList] by decide]
        exact Addresses.suffix_iff_within (by simp) (by simp)
      simp only [Option.some.injEq, exists_eq_left', Host.Trusted, ← hlocal, ← hnet,
        Bool.or_eq_true, beq_iff_eq, decide_eq_true_iff, or_assoc]

/-- A URL that a Gateway may be reached at: over TLS, or in plaintext at a trusted host. -/
def Url.Allowed (url : Url) : Prop :=
  url.scheme = "wss" ∨ url.scheme = "ws" ∧ ∃ host, url.host = some host ∧ host.Trusted

variable {library : UrlLibrary} {gatewayUrl : String} {tlsTrust opened : TlsTrust}
  {headers : List (String × String)} {error : EndpointError}

theorem validateGatewayUrl_ok_iff :
    validateGatewayUrl library gatewayUrl = .ok () ↔
      ∃ url, library.parse gatewayUrl = .ok url ∧ url.Allowed := by
  unfold validateGatewayUrl
  cases library.parse gatewayUrl with
  | error reason => simp [Except.mapError, bind, Except.bind]
  | ok url =>
    simp only [Except.mapError, bind, Except.bind, Except.ok.injEq, exists_eq_left', Url.Allowed,
      ← isTrustedPlaintextHost_iff]
    by_cases hwss : url.scheme = "wss"
    · simp [hwss]
    · by_cases hws : url.scheme = "ws"
      · cases isTrustedPlaintextHost url <;> simp [hws]
      · simp [hwss, hws]

theorem validateGatewayUrl_error (h : validateGatewayUrl library gatewayUrl = .error error) :
    classifyPause (mapEndpointError error) = some .configuration := by
  unfold validateGatewayUrl at h
  cases hparse : library.parse gatewayUrl with
  | error reason =>
    rw [hparse] at h
    cases h
    rfl
  | ok url =>
    rw [hparse] at h
    simp only [Except.mapError, bind, Except.bind] at h
    split at h
    · cases h
    · split at h
      · split at h
        · cases h
        · cases h
          rfl
      · cases h
        rfl

theorem addHeaders_ok_iff :
    addHeaders library headers = .ok () ↔
      ∀ header ∈ headers, library.header header.1 header.2 = .ok () := by
  induction headers with
  | nil => simp [addHeaders]
  | cons header headers ih =>
    rw [addHeaders, List.forall_mem_cons, ← ih]
    cases library.header header.1 header.2 <;> simp [Except.mapError, bind, Except.bind]

theorem addHeaders_error (h : addHeaders library headers = .error error) :
    classifyPause (mapEndpointError error) = some .configuration := by
  induction headers with
  | nil => cases h
  | cons header headers ih =>
    rw [addHeaders] at h
    cases hheader : library.header header.1 header.2 with
    | error reason =>
      rw [hheader] at h
      cases h
      rfl
    | ok =>
      rw [hheader] at h
      exact ih h

theorem connector_error {config : GatewayClientConfig} (h : config.connector = .error error) :
    classifyPause (mapEndpointError error) = some .configuration := by
  unfold GatewayClientConfig.connector at h
  split at h
  · cases h
    decide
  · cases h

/-- A transport is opened exactly at an allowed URL, with headers that the HTTP library takes, and
with a pinned certificate only over TLS. It has the trust that was asked for. -/
theorem openTransport_ok_iff :
    openTransport library gatewayUrl tlsTrust headers = .ok opened ↔
      (∃ url, library.parse gatewayUrl = .ok url ∧ url.Allowed) ∧
        (∃ scheme, library.intoClientRequest gatewayUrl = .ok scheme ∧
          (tlsTrust ≠ .systemRoots → scheme = some "wss")) ∧
        (∀ header ∈ headers, library.header header.1 header.2 = .ok ()) ∧ opened = tlsTrust := by
  rw [← validateGatewayUrl_ok_iff, ← addHeaders_ok_iff]
  unfold openTransport GatewayClientConfig.new
  cases validateGatewayUrl library gatewayUrl with
  | error _ => simp [bind, Except.bind]
  | ok =>
    cases library.intoClientRequest gatewayUrl with
    | error _ => simp [Except.mapError, bind, Except.bind]
    | ok scheme =>
      cases addHeaders library headers with
      | error _ => simp [Except.mapError, bind, Except.bind]
      | ok =>
        simp only [Except.mapError, bind, Except.bind, GatewayClientConfig.connector]
        split
        · simp_all
        · simp_all [eq_comm]

/-- Whatever refuses a transport, reconnecting is given up. -/
theorem openTransport_error (h : openTransport library gatewayUrl tlsTrust headers = .error error) :
    classifyPause (mapEndpointError error) = some .configuration := by
  unfold openTransport GatewayClientConfig.new at h
  cases hurl : validateGatewayUrl library gatewayUrl with
  | error e =>
    rw [hurl] at h
    cases h
    exact validateGatewayUrl_error hurl
  | ok =>
    rw [hurl] at h
    cases hrequest : library.intoClientRequest gatewayUrl with
    | error reason =>
      rw [hrequest] at h
      cases h
      rfl
    | ok scheme =>
      rw [hrequest] at h
      cases hheaders : addHeaders library headers with
      | error e =>
        rw [hheaders] at h
        cases h
        exact addHeaders_error hheaders
      | ok =>
        rw [hheaders] at h
        exact connector_error h

/-- A policy that is told of a refusal stops there, and is left as it was. -/
theorem afterFailure_openTransport (p : ReconnectPolicy) (storedToken : StoredDeviceTokenRetry)
    (h : openTransport library gatewayUrl tlsTrust headers = .error error) :
    p.afterFailureWithDeviceToken (mapEndpointError error) storedToken =
      (.pause .configuration, p) := by
  have hsession : isSessionRequestError (mapEndpointError error) = false := by
    cases error <;> rfl
  have hstored : gatewayRequestsDeviceTokenRetry (mapEndpointError error) = false := by
    cases error <;> rfl
  unfold ReconnectPolicy.afterFailureWithDeviceToken ReconnectPolicy.requestsStoredToken
  simp [hsession, hstored, openTransport_error h]

/-- A transport is opened to an allowed Gateway only, and with the trust that was asked for. A
refused one pauses reconnecting, whatever the policy has seen. -/
theorem gateway_endpoint_policy (library : UrlLibrary) (gatewayUrl : String) (tlsTrust : TlsTrust)
    (headers : List (String × String)) :
    (∀ opened, openTransport library gatewayUrl tlsTrust headers = .ok opened ↔
      (∃ url, library.parse gatewayUrl = .ok url ∧ url.Allowed) ∧
        (∃ scheme, library.intoClientRequest gatewayUrl = .ok scheme ∧
          (tlsTrust ≠ .systemRoots → scheme = some "wss")) ∧
        (∀ header ∈ headers, library.header header.1 header.2 = .ok ()) ∧ opened = tlsTrust) ∧
      ∀ error, openTransport library gatewayUrl tlsTrust headers = .error error →
        ∀ (p : ReconnectPolicy) (storedToken : StoredDeviceTokenRetry),
          p.afterFailureWithDeviceToken (mapEndpointError error) storedToken =
            (.pause .configuration, p) :=
  ⟨fun _ => openTransport_ok_iff,
    fun _ h p storedToken => afterFailure_openTransport p storedToken h⟩

/-- A library that reads every text as one of a public address. -/
def publicLibrary : UrlLibrary where
  parse _ := .ok ⟨"ws", some (.ipv6 #v[0, 0, 0, 0, 0, 0xffff, 0x0808, 0x0808])⟩
  intoClientRequest _ := .ok (some "ws")
  header _ _ := .ok ()

theorem public_endpoint_paused :
    openTransport publicLibrary "ws://[::ffff:8.8.8.8]" .systemRoots [] =
        .error .insecureRemoteGateway ∧
      defaultPolicy.afterFailureWithDeviceToken (mapEndpointError .insecureRemoteGateway)
        .unavailable = (.pause .configuration, defaultPolicy) := by
  have hrefused : openTransport publicLibrary "ws://[::ffff:8.8.8.8]" .systemRoots [] =
      .error .insecureRemoteGateway := by decide
  exact ⟨hrefused, (gateway_endpoint_policy publicLibrary "ws://[::ffff:8.8.8.8]" .systemRoots
    []).2 _ hrefused defaultPolicy .unavailable⟩

end OpenclawNode.Node
