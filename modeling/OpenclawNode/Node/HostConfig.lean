import Mathlib.Data.List.AList
import OpenclawNode.Base.Decode
import OpenclawNode.Base.Except
import OpenclawNode.Base.JsonRoundTrip
import OpenclawNode.Base.SplitWords
import OpenclawNode.Node.CommandRuntime
import OpenclawNode.Node.HostCredentials

/-! The configuration file of a headless host, and the runtime that it builds. -/
namespace OpenclawNode.Node

open BigEndian (Bytes)
open Except (ensure)
open Json (Value asString asU64 nullable readText required structFields)
open Text (fromUtf8 fromUtf8_eq_some trim utf8)

inductive IpAddr
  | v4 (octets : Vector UInt8 4)
  | v6 (segments : Vector UInt16 8)
  deriving DecidableEq, Repr

def IpAddr.isLoopback : IpAddr → Bool
  | .v4 octets => octets[0] == 127
  | .v6 segments => segments == #v[0, 0, 0, 0, 0, 0, 0, 1]

structure SocketAddr where
  ip : IpAddr
  port : UInt16
  deriving DecidableEq, Repr

inductive AuthKind
  | token
  | bootstrapToken
  | deviceToken
  | password
  deriving DecidableEq, Repr

structure HostConfig where
  gatewayUrl : String
  displayName : String
  instanceId : Option String
  healthListen : SocketAddr
  statusCommand : String
  authKind : AuthKind
  authEnv : String
  identitySecretEnv : String
  maxConcurrency : UInt64
  maxInputBytes : UInt64
  maxOutputBytes : UInt64
  defaultTimeoutMs : UInt64
  maxTimeoutMs : UInt64
  deriving DecidableEq, Repr

inductive HostError
  | configRead (reason : String)
  | configParse (reason : String)
  | config (reason : String)
  | missingSecret (name : String)
  | emptySecret (name : String)
  | identitySecret (reason : String)
  | healthBind (reason : String)
  | healthServe (reason : String)
  | runtimeBuild (error : RuntimeBuildError)
  | reconnectPaused (reason : String)
  deriving DecidableEq, Repr

def defaultHealthListen : SocketAddr := ⟨.v4 (#v[127, 0, 0, 1]), 0⟩

def maxConfigFileBytes : Nat := 64 * 1024

/-- `Semaphore::MAX_PERMITS`, on a platform of 64 bits. -/
def maxPermits : Nat := (2 ^ 64 - 1) / 8

/-- A unit variant is its name, or an object that maps its name to null. -/
def asUnitVariant : Value → Option String
  | .string name => some name
  | .object [(name, .null)] => some name
  | _ => none

def asAuthKind (v : Value) : Option AuthKind :=
  match asUnitVariant v with
  | some "token" => some .token
  | some "bootstrapToken" => some .bootstrapToken
  | some "deviceToken" => some .deviceToken
  | some "password" => some .password
  | _ => none

/-- A field with a default that may be left out. -/
def defaulted {α : Type} (decode : Value → Option α) (default : α) : Option Value → Option α
  | none => some default
  | some v => decode v

def hostConfigFields : List String :=
  ["gatewayUrl", "displayName", "instanceId", "healthListen", "statusCommand", "authKind",
    "authEnv", "identitySecretEnv", "maxConcurrency", "maxInputBytes", "maxOutputBytes",
    "defaultTimeoutMs", "maxTimeoutMs"]

namespace HostConfig

/-- The decoder, given how socket addresses are parsed. -/
def fromValue (parseAddr : String → Option SocketAddr) (v : Value) : Option HostConfig := do
  let field ← structFields hostConfigFields v
  let gatewayUrl ← required asString (field "gatewayUrl")
  let displayName ← defaulted asString "Rust node host" (field "displayName")
  let instanceId ← nullable asString (field "instanceId")
  let healthListen ← defaulted (fun v => (asString v).bind parseAddr) defaultHealthListen
    (field "healthListen")
  let statusCommand ← defaulted asString "rust-node.status" (field "statusCommand")
  let authKind ← defaulted asAuthKind .token (field "authKind")
  let authEnv ← defaulted asString "OPENCLAW_NODE_TOKEN" (field "authEnv")
  let identitySecretEnv ← defaulted asString "OPENCLAW_NODE_IDENTITY" (field "identitySecretEnv")
  let maxConcurrency ← defaulted asU64 4 (field "maxConcurrency")
  let maxInputBytes ← defaulted asU64 65536 (field "maxInputBytes")
  let maxOutputBytes ← defaulted asU64 65536 (field "maxOutputBytes")
  let defaultTimeoutMs ← defaulted asU64 30000 (field "defaultTimeoutMs")
  let maxTimeoutMs ← defaulted asU64 120000 (field "maxTimeoutMs")
  return { gatewayUrl, displayName, instanceId, healthListen, statusCommand, authKind, authEnv,
           identitySecretEnv, maxConcurrency, maxInputBytes, maxOutputBytes, defaultTimeoutMs,
           maxTimeoutMs }

/-- A text that is not empty and is its own trimming. -/
def isPlain (value : String) : Prop := trim value ≠ "" ∧ trim value = value

instance (value : String) : Decidable (isPlain value) := by
  unfold isPlain
  infer_instance

def eqIgnoreAsciiCase (s t : String) : Prop := s.map Char.toLower = t.map Char.toLower

instance (s t : String) : Decidable (eqIgnoreAsciiCase s t) := by
  unfold eqIgnoreAsciiCase
  infer_instance

def validate (c : HostConfig) : Except HostError Unit := do
  ensure (isPlain c.gatewayUrl)
    (.config "gatewayUrl must be non-empty and have no surrounding whitespace")
  ensure c.healthListen.ip.isLoopback (.config "healthListen must use a loopback address")
  ensure (isPlain c.statusCommand ∧ ¬ isReserved (trim c.statusCommand))
    (.config ("statusCommand must have no surrounding whitespace and be outside the reserved " ++
      "system namespace"))
  ensure (isPlain c.authEnv)
    (.config "authEnv must be non-empty and have no surrounding whitespace")
  ensure (isPlain c.identitySecretEnv)
    (.config "identitySecretEnv must be non-empty and have no surrounding whitespace")
  ensure (¬ eqIgnoreAsciiCase c.authEnv c.identitySecretEnv)
    (.config "authEnv and identitySecretEnv must name different variables")
  ensure (c.maxConcurrency ≠ 0 ∧ c.maxConcurrency.toNat ≤ maxPermits ∧ c.maxInputBytes ≠ 0 ∧
      c.maxOutputBytes ≠ 0 ∧ c.defaultTimeoutMs ≠ 0 ∧ c.maxTimeoutMs ≠ 0 ∧
      c.defaultTimeoutMs ≤ c.maxTimeoutMs)
    (.config ("runtime bounds must be positive and defaultTimeoutMs must not exceed " ++
      "maxTimeoutMs"))

/-- Load a configuration file, given its metadata, its contents and what the JSON parser makes of
them. -/
def load (metadata : Except String (Bool × Nat)) (read : Except String Bytes)
    (fromSlice : Bytes → Except String HostConfig) : Except HostError HostConfig := do
  let (isFile, len) ← metadata.mapError .configRead
  ensure (isFile = true ∧ len ≤ maxConfigFileBytes)
    (.configRead "configuration path must be a regular file no larger than 64 KiB")
  let bytes ← read.mapError .configRead
  let config ← (fromSlice bytes).mapError .configParse
  config.validate
  return config

/-- The runtime with the status command as its only handler. -/
def buildRuntime {H P : Type} (c : HostConfig) (status : H) :
    Except RuntimeBuildError (CommandRuntime H P) :=
  let builder : CommandRuntimeBuilder H P := {}
  let builder := builder.withMaxConcurrency c.maxConcurrency.toNat
  let builder := builder.withMaxInputBytes c.maxInputBytes.toNat
  let builder := builder.withMaxOutputBytes c.maxOutputBytes.toNat
  let builder := builder.withDefaultTimeout (fromMillis c.defaultTimeoutMs.toNat)
  let builder := builder.withMaxTimeout (fromMillis c.maxTimeoutMs.toNat)
  (builder.command c.statusCommand status).build

end HostConfig

def ConnectAuth.ofKind (kind : AuthKind) (value : String) : ConnectAuth :=
  match kind with
  | .token => ⟨some value, none, none, none⟩
  | .bootstrapToken => ⟨none, some value, none, none⟩
  | .deviceToken => ⟨none, none, some value, none⟩
  | .password => ⟨none, none, none, some value⟩

/-- The secret key in a variable, given the decoder of unpadded base64url. -/
def decodeIdentity (decode : String → Option Bytes) (value : String) :
    Except HostError (Vector UInt8 32) :=
  match decode (trim value) with
  | none => .error (.identitySecret "secret must be unpadded base64url")
  | some bytes =>
    if h : bytes.length = 32 then .ok ⟨bytes.toArray, by rw [List.size_toArray, h]⟩
    else .error (.identitySecret "identity secret must decode to 32 bytes")

/-- Identity and credentials from the variables that a configuration names. -/
def HostCredentials.load (env : String → Option String) (decode : String → Option Bytes)
    (config : HostConfig) : Except HostError (NodeIdentity × HostCredentials) := do
  let identityValue ← (env config.identitySecretEnv).elim
    (.error (.missingSecret config.identitySecretEnv)) .ok
  let secret ← decodeIdentity decode identityValue
  let authValue ← (env config.authEnv).elim (.error (.missingSecret config.authEnv)) .ok
  ensure (authValue ≠ "") (.emptySecret config.authEnv)
  return (⟨secret⟩, ⟨.ofKind config.authKind authValue, none⟩)

theorem HostConfig.validate_eq_ok {c : HostConfig} (h : c.validate = .ok ()) :
    isPlain c.gatewayUrl ∧ c.healthListen.ip.isLoopback = true ∧
    isPlain c.statusCommand ∧ ¬ isReserved c.statusCommand ∧
    isPlain c.authEnv ∧ isPlain c.identitySecretEnv ∧
    ¬ eqIgnoreAsciiCase c.authEnv c.identitySecretEnv ∧
    c.maxConcurrency ≠ 0 ∧ c.maxConcurrency.toNat ≤ maxPermits ∧ c.maxInputBytes ≠ 0 ∧
    c.maxOutputBytes ≠ 0 ∧ c.defaultTimeoutMs ≠ 0 ∧ c.maxTimeoutMs ≠ 0 ∧
    c.defaultTimeoutMs ≤ c.maxTimeoutMs := by
  simp only [HostConfig.validate, Except.bind_eq_ok, Except.ensure_eq_ok] at h
  obtain ⟨-, hurl, -, hlisten, -, ⟨hplain, hreserved⟩, -, hauth, -, hidentity, -, hnames,
    hbounds⟩ := h
  rw [hplain.2] at hreserved
  exact ⟨hurl, hlisten, hplain, hreserved, hauth, hidentity, hnames, hbounds⟩

theorem one_le_toNat {n : UInt64} (h : n ≠ 0) : 1 ≤ n.toNat := by
  rw [Nat.one_le_iff_ne_zero]
  exact fun h0 => h (UInt64.toNat_inj.mp h0)

/-- A valid configuration builds a runtime with its own bounds. -/
theorem HostConfig.buildRuntime_of_valid {H P : Type} {c : HostConfig} (status : H)
    (h : c.validate = .ok ()) : ∃ runtime : CommandRuntime H P,
      c.buildRuntime status = .ok runtime ∧ runtime.handlers.keys = [c.statusCommand] ∧
      runtime.capabilities = ∅ ∧ runtime.admissionPolicy = none ∧
      runtime.permits = c.maxConcurrency.toNat ∧ runtime.deliveryCapacity = runtime.permits ∧
      runtime.maxInputBytes = c.maxInputBytes.toNat ∧
      runtime.maxOutputBytes = c.maxOutputBytes.toNat ∧
      runtime.defaultTimeout = fromMillis c.defaultTimeoutMs.toNat ∧
      runtime.maxTimeout = fromMillis c.maxTimeoutMs.toNat := by
  obtain ⟨-, -, hplain, hreserved, -, -, -, hconcurrency, -, hinput, houtput, htimeout, hmax,
    hle⟩ := validate_eq_ok h
  have hplain₁ : c.statusCommand ≠ "" := hplain.2 ▸ hplain.1
  have hhandlers : CommandRuntimeBuilder.collectHandlers
      [⟨c.statusCommand, status, false⟩] (∅ : AList fun _ : String => RegisteredHandler H) =
        .ok (AList.insert c.statusCommand ⟨status, false⟩ ∅) := by
    simp [CommandRuntimeBuilder.collectHandlers, hplain.2, hplain₁, hreserved]
  have hnonzero : ∀ n : UInt64, n ≠ 0 → max (max n.toNat 1) 1 = n.toNat := by
    intro n hn
    rw [max_eq_left (one_le_toNat hn), max_eq_left (one_le_toNat hn)]
  have hmillis : ∀ n : UInt64, n ≠ 0 → nonzeroDuration (nonzeroDuration (fromMillis n.toNat)) =
      fromMillis n.toNat := by
    intro n hn
    rw [nonzeroDuration_fromMillis (one_le_toNat hn), nonzeroDuration_fromMillis (one_le_toNat hn)]
  refine ⟨_, by
    simp only [buildRuntime, CommandRuntimeBuilder.build, CommandRuntimeBuilder.command,
      CommandRuntimeBuilder.register, CommandRuntimeBuilder.withMaxConcurrency,
      CommandRuntimeBuilder.withMaxInputBytes, CommandRuntimeBuilder.withMaxOutputBytes,
      CommandRuntimeBuilder.withDefaultTimeout, CommandRuntimeBuilder.withMaxTimeout,
      CommandRuntimeBuilder.collectCapabilities, List.nil_append, hhandlers]
    rfl, ?_⟩
  refine ⟨by simp, rfl, rfl, hnonzero _ hconcurrency, rfl, hnonzero _ hinput, hnonzero _ houtput,
    ?_, hmillis _ hmax⟩
  change min (nonzeroDuration (nonzeroDuration _)) (nonzeroDuration (nonzeroDuration _)) = _
  rw [hmillis _ htimeout, hmillis _ hmax]
  exact min_eq_left (Nat.mul_le_mul_right _ (UInt64.le_iff_toNat_le.mp hle))

/-- Every configuration that loads comes from a regular file of at most 64 KiB, keeps its health
endpoint on the loopback interface and its two secrets apart, and builds a runtime that serves its
status command under exactly its bounds. -/
theorem loaded_host_config {H P : Type} (status : H) (metadata : Except String (Bool × Nat))
    (read : Except String Bytes) (fromSlice : Bytes → Except String HostConfig)
    (config : HostConfig) (h : HostConfig.load metadata read fromSlice = .ok config) :
    (∃ len ≤ 65536, metadata = .ok (true, len)) ∧
    config.healthListen.ip.isLoopback = true ∧ config.authEnv ≠ config.identitySecretEnv ∧
    ∃ runtime : CommandRuntime H P, config.buildRuntime status = .ok runtime ∧
      runtime.handlers.keys = [config.statusCommand] ∧ ¬ isReserved config.statusCommand ∧
      runtime.capabilities = ∅ ∧ runtime.admissionPolicy = none ∧
      runtime.permits = config.maxConcurrency.toNat ∧ runtime.permits ≤ (2 ^ 64 - 1) / 8 ∧
      runtime.deliveryCapacity = runtime.permits ∧
      runtime.maxInputBytes = config.maxInputBytes.toNat ∧
      runtime.maxOutputBytes = config.maxOutputBytes.toNat ∧
      runtime.defaultTimeout = fromMillis config.defaultTimeoutMs.toNat ∧
      runtime.maxTimeout = fromMillis config.maxTimeoutMs.toNat ∧
      0 < runtime.defaultTimeout ∧ runtime.defaultTimeout ≤ runtime.maxTimeout := by
  simp only [HostConfig.load, Except.bind_eq_ok, Except.mapError_eq_ok, Except.ensure_eq_ok, pure,
    Except.pure, Except.ok.injEq] at h
  obtain ⟨⟨isFile, len⟩, hmetadata, -, ⟨hfile, hlen⟩, bytes, -, c, -, ⟨⟩, hvalid, rfl⟩ := h
  obtain ⟨-, hlisten, -, hreserved, -, -, hnames, -, hpermits, -, -, htimeout, -, hle⟩ :=
    HostConfig.validate_eq_ok hvalid
  obtain ⟨runtime, hbuild, hkeys, hcapabilities, hpolicy, hconcurrency, hdelivery, hinput, houtput,
    hdefault, hmax⟩ := HostConfig.buildRuntime_of_valid (P := P) status hvalid
  refine ⟨⟨len, hlen, ?_⟩, hlisten, fun heq => hnames (by rw [heq]; rfl), runtime, hbuild, hkeys,
    hreserved, hcapabilities, hpolicy, hconcurrency, hconcurrency ▸ hpermits, hdelivery, hinput,
    houtput, hdefault, hmax, ?_, ?_⟩
  · rw [hmetadata, show isFile = true from hfile]
  · rw [hdefault]
    exact Nat.mul_pos (one_le_toNat htimeout) (by decide)
  · rw [hdefault, hmax]
    exact Nat.mul_le_mul_right _ (UInt64.le_iff_toNat_le.mp hle)

/-- The smallest configuration, and its text of 37 bytes. -/
def localConfig : Value := .object [("gatewayUrl", .string "ws://127.0.0.1:18789")]

def localConfigText : String := String.ofList (localConfig.text fun _ => "")

theorem readText_localConfig : readText (fun _ => none) localConfigText = some localConfig := by
  have hforall : localConfig.Forall Json.Number.Exact (fun _ => True) := by
    simp [localConfig, Value.Forall, Json.ForallMembers]
  have hdepth : localConfig.depth ≤ Json.recursionLimit := by
    simp [localConfig, Value.depth, Json.depthMembers, Json.recursionLimit]
  rw [localConfigText, Json.readText_text hforall, if_pos hdepth]

def localHostConfig : HostConfig where
  gatewayUrl := "ws://127.0.0.1:18789"
  displayName := "Rust node host"
  instanceId := none
  healthListen := defaultHealthListen
  statusCommand := "rust-node.status"
  authKind := .token
  authEnv := "OPENCLAW_NODE_TOKEN"
  identitySecretEnv := "OPENCLAW_NODE_IDENTITY"
  maxConcurrency := 4
  maxInputBytes := 65536
  maxOutputBytes := 65536
  defaultTimeoutMs := 30000
  maxTimeoutMs := 120000

/-- Every default passes its own check. -/
theorem default_host_config : HostConfig.fromValue (fun _ => none) localConfig =
    some localHostConfig ∧ localHostConfig.validate = .ok () := ⟨rfl, by decide +kernel⟩

/-- The reader of a file that leaves its address to the default. -/
def hostConfigFromSlice (bytes : Bytes) : Except String HostConfig :=
  ((fromUtf8 bytes).bind fun text => (readText (fun _ => none) text).bind
    (HostConfig.fromValue fun _ => none)).elim (.error "invalid configuration") .ok

theorem local_host_config_builds : ∃ runtime : CommandRuntime Unit Unit,
    HostConfig.load (.ok (true, 37)) (.ok (utf8 localConfigText)) hostConfigFromSlice =
      .ok localHostConfig ∧
    localHostConfig.buildRuntime () = .ok runtime ∧
    runtime.handlers.keys = ["rust-node.status"] := by
  have hread : hostConfigFromSlice (utf8 localConfigText) = .ok localHostConfig := by
    rw [hostConfigFromSlice, fromUtf8_eq_some.mpr rfl, Option.bind_some, readText_localConfig,
      Option.bind_some, default_host_config.1]
    rfl
  have hload : HostConfig.load (.ok (true, 37)) (.ok (utf8 localConfigText))
      hostConfigFromSlice = .ok localHostConfig := by
    simp [HostConfig.load, Except.mapError, Except.ensure, maxConfigFileBytes, hread,
      default_host_config.2, bind, Except.bind, pure, Except.pure]
  obtain ⟨-, -, -, runtime, hbuild, hkeys, -⟩ :=
    loaded_host_config () _ _ hostConfigFromSlice localHostConfig hload
  exact ⟨runtime, hload, hbuild, hkeys⟩

end OpenclawNode.Node
