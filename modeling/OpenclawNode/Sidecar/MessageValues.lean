import OpenclawNode.Base.JsonRoundTrip
import OpenclawNode.Sidecar.MessagePortability

/-! The values that the runtime messages are written from. -/
namespace OpenclawNode.Sidecar

open BoundedWriter (Serialization)
open Json (Value)

/-- An integer as a value. -/
def intValue (n : UInt64) : Value := .number (.posInt n)

def optionalValue {α : Type} (value : α → Value) : Option α → Value
  | none => .null
  | some a => value a

def SidecarCommandRegistration.toValue (c : SidecarCommandRegistration) : Value :=
  .object [("name", .string c.name)]

def SidecarRuntimeConfiguration.toValue (c : SidecarRuntimeConfiguration) : Value :=
  .object [
    ("manifestGeneration", intValue c.manifestGeneration),
    ("capabilities", .array (c.capabilities.map .string)),
    ("commands", .array (c.commands.map (·.toValue))),
    ("maxConcurrency", intValue c.maxConcurrency.toUInt64),
    ("maxInputBytes", intValue c.maxInputBytes.toUInt64),
    ("maxOutputBytes", intValue c.maxOutputBytes.toUInt64),
    ("defaultTimeoutMs", intValue c.defaultTimeoutMs.toUInt64),
    ("maxTimeoutMs", intValue c.maxTimeoutMs.toUInt64),
    ("resultGraceMs", intValue c.resultGraceMs.toUInt64)]

def SidecarRuntimeManifest.toValue (m : SidecarRuntimeManifest) : Value :=
  .object [
    ("manifestGeneration", intValue m.manifestGeneration),
    ("capabilities", .array (m.capabilities.map .string)),
    ("commands", .array (m.commands.map .string))]

def SidecarInvocation.toValue (i : SidecarInvocation) : Value :=
  .object [
    ("id", .string i.id),
    ("nodeId", .string i.nodeId),
    ("command", .string i.command),
    ("params", i.params),
    ("timeoutMs", optionalValue intValue i.timeoutMs),
    ("idempotencyKey", optionalValue .string i.idempotencyKey),
    ("sessionKey", optionalValue .string i.sessionKey)]

def SidecarAdmissionDecision.toValue : SidecarAdmissionDecision → Value
  | .allow => .object [("outcome", .string "allow")]
  | .deny code message =>
    .object [("outcome", .string "deny"), ("code", .string code), ("message", .string message)]

def SidecarInvocationResult.toValue : SidecarInvocationResult → Value
  | .success payload => .object [("outcome", .string "success"), ("payload", payload)]
  | .failure code message =>
    .object [("outcome", .string "failure"), ("code", .string code), ("message", .string message)]

def SidecarRuntimeStatus.toValue (s : SidecarRuntimeStatus) : Value :=
  .object [
    ("state", .string s.state.name),
    ("manifestGeneration", intValue s.manifestGeneration),
    ("runtimeVersion", .string s.runtimeVersion),
    ("attempt", intValue s.attempt),
    ("reason", optionalValue (.string ·.name) s.reason)]

/-- The value whose text a message is written as. -/
def SidecarRuntimeMessage.toValue : SidecarRuntimeMessage → Value
  | .configure configuration =>
    .object [("type", .string "configure"), ("configuration", configuration.toValue)]
  | .configured manifest =>
    .object [("type", .string "configured"), ("manifest", manifest.toValue)]
  | .admissionRequest invocation =>
    .object [("type", .string "admission-request"), ("invocation", invocation.toValue)]
  | .admissionDecision invocationId decision =>
    .object [("type", .string "admission-decision"), ("invocationId", .string invocationId),
      ("decision", decision.toValue)]
  | .invoke invocation =>
    .object [("type", .string "invoke"), ("invocation", invocation.toValue)]
  | .result invocationId outcome =>
    .object [("type", .string "result"), ("invocationId", .string invocationId),
      ("result", outcome.toValue)]
  | .cancel invocationId =>
    .object [("type", .string "cancel"), ("invocationId", .string invocationId)]
  | .status current =>
    .object [("type", .string "status"), ("status", current.toValue)]

section

variable (formatDouble : Json.Double → String)

theorem serializeAll_map {α : Type} (f : α → Value) (as : List α) :
    Json.serializeAll formatDouble (as.map f) = as.map fun a => (f a).serialize formatDouble := by
  induction as with
  | nil => rfl
  | cons a as ih => rw [List.map_cons, Json.serializeAll, ih, List.map_cons]

theorem serializePortableU64_eq {n : UInt64} (h : n.toNat ≤ 2 ^ 53 - 1) :
    serializePortableU64 n = (intValue n).serialize formatDouble := by
  rw [serializePortableU64, if_neg (UInt64.not_lt.mpr (le_maxPortable_iff.mpr h))]
  rfl

theorem serialize_optionalValue {α : Type} (write : α → Serialization) (value : α → Value)
    (h : ∀ a, write a = (value a).serialize formatDouble) (found : Option α) :
    Json.optional write found = (optionalValue value found).serialize formatDouble := by
  cases found with
  | none => rfl
  | some a => exact h a

theorem serializePortableOptionalU64_eq {found : Option UInt64}
    (h : ∀ n ∈ found.toList, n.toNat ≤ 2 ^ 53 - 1) :
    serializePortableOptionalU64 found =
      (optionalValue intValue found).serialize formatDouble := by
  have hportable : ¬ found.any (maxPortableJsonInteger < ·) = true := by
    cases found with
    | none => exact nofun
    | some n =>
      have hn := le_maxPortable_iff.mpr (h n (by simp))
      simpa using hn
  rw [serializePortableOptionalU64, if_neg hportable]
  exact serialize_optionalValue formatDouble (Json.nat ·.toNat) intValue (fun _ => rfl) found

theorem SidecarRuntimeConfiguration.serialize_eq {c : SidecarRuntimeConfiguration}
    (h : c.manifestGeneration.toNat ≤ 2 ^ 53 - 1) :
    c.serialize = c.toValue.serialize formatDouble := by
  rw [serialize, toValue, serializePortableU64_eq formatDouble h]
  simp only [Value.serialize, Json.serializeMembers, serializeAll_map]
  rfl

theorem SidecarRuntimeManifest.serialize_eq {m : SidecarRuntimeManifest}
    (h : m.manifestGeneration.toNat ≤ 2 ^ 53 - 1) :
    m.serialize = m.toValue.serialize formatDouble := by
  rw [serialize, toValue, serializePortableU64_eq formatDouble h]
  simp only [Value.serialize, Json.serializeMembers, serializeAll_map]

theorem SidecarInvocation.serialize_eq {i : SidecarInvocation}
    (ht : ∀ n ∈ i.timeoutMs.toList, n.toNat ≤ 2 ^ 53 - 1)
    (hp : i.params.Forall PortableNumber fun _ => True) :
    i.serialize formatDouble = i.toValue.serialize formatDouble := by
  rw [serialize, toValue, serializePortableOptionalU64_eq formatDouble ht,
    serializePortableValue, if_pos ((portableJsonValue_iff _).mpr hp),
    serialize_optionalValue formatDouble Json.string .string fun _ => rfl,
    serialize_optionalValue formatDouble Json.string .string fun _ => rfl]
  rfl

theorem SidecarAdmissionDecision.serialize_eq (d : SidecarAdmissionDecision) :
    d.serialize = d.toValue.serialize formatDouble := by
  cases d <;> rfl

theorem SidecarInvocationResult.serialize_eq {r : SidecarInvocationResult}
    (h : invocationResultIsPortable r = true) :
    r.serialize formatDouble = r.toValue.serialize formatDouble := by
  cases r with
  | success payload =>
    rw [serialize, serializePortableValue, if_pos (show portableJsonValue payload = true from h)]
    rfl
  | failure code message => rfl

theorem SidecarRuntimeStatus.serialize_eq {s : SidecarRuntimeStatus}
    (hg : s.manifestGeneration.toNat ≤ 2 ^ 53 - 1) (ha : s.attempt.toNat ≤ 2 ^ 53 - 1) :
    s.serialize = s.toValue.serialize formatDouble := by
  rw [serialize, toValue, serializePortableU64_eq formatDouble hg,
    serializePortableU64_eq formatDouble ha,
    serialize_optionalValue formatDouble
      (fun reason : SidecarRuntimeReason => Json.string reason.name)
      (fun reason => .string reason.name) fun _ => rfl]
  rfl

theorem SidecarRuntimeMessage.serialize_eq {m : SidecarRuntimeMessage} (h : m.Portable) :
    m.serialize formatDouble = m.toValue.serialize formatDouble := by
  obtain ⟨hi, hv⟩ := h
  cases m with
  | configure c =>
    rw [serialize, SidecarRuntimeConfiguration.serialize_eq formatDouble
      (hi _ List.mem_cons_self)]
    rfl
  | configured m =>
    rw [serialize, SidecarRuntimeManifest.serialize_eq formatDouble
      (hi _ List.mem_cons_self)]
    rfl
  | admissionRequest i =>
    rw [serialize, SidecarInvocation.serialize_eq formatDouble hi (hv _ List.mem_cons_self)]
    rfl
  | admissionDecision id d =>
    rw [serialize, d.serialize_eq formatDouble]
    rfl
  | invoke i =>
    rw [serialize, SidecarInvocation.serialize_eq formatDouble hi (hv _ List.mem_cons_self)]
    rfl
  | result id r =>
    have hr : invocationResultIsPortable r = true := by
      cases r with
      | success payload => exact (portableJsonValue_iff payload).mpr (hv _ List.mem_cons_self)
      | failure code message => rfl
    rw [serialize, SidecarInvocationResult.serialize_eq formatDouble hr]
    rfl
  | cancel id => rfl
  | status s =>
    rw [serialize, SidecarRuntimeStatus.serialize_eq formatDouble
      (hi _ List.mem_cons_self) (hi _ (List.mem_cons_of_mem _ List.mem_cons_self))]
    rfl

end

theorem exact_optionalValue {α : Type} {value : α → Value} {number : Json.Number → Prop}
    {names : List String → Prop} (h : ∀ a, (value a).Forall number names) (found : Option α) :
    (optionalValue value found).Forall number names := by
  cases found with
  | none => trivial
  | some a => exact h a

theorem depth_optionalValue {α : Type} {value : α → Value} (h : ∀ a, (value a).depth = 0)
    (found : Option α) : (optionalValue value found).depth = 0 := by
  cases found with
  | none => rfl
  | some a => exact h a

/-- Every number in the value is an integer as it is kept. -/
def Exact (v : Value) : Prop := v.Forall Json.Number.Exact fun _ => True

theorem exact_intValue (n : UInt64) : Exact (intValue n) := trivial

theorem exact_string (s : String) : Exact (.string s) := trivial

theorem exact_strings (names : List String) : Exact (.array (names.map .string)) :=
  Json.forallAll_map _ exact_string names

theorem SidecarCommandRegistration.exact_toValue (c : SidecarCommandRegistration) :
    Exact c.toValue := ⟨trivial, trivial, trivial⟩

theorem SidecarRuntimeConfiguration.exact_toValue (c : SidecarRuntimeConfiguration) :
    Exact c.toValue := by
  have hcommands : Exact (.array (c.commands.map (·.toValue))) :=
    Json.forallAll_map _ SidecarCommandRegistration.exact_toValue c.commands
  exact ⟨trivial, trivial, exact_strings _, hcommands, trivial, trivial, trivial, trivial, trivial,
    trivial, trivial⟩

theorem SidecarRuntimeManifest.exact_toValue (m : SidecarRuntimeManifest) : Exact m.toValue :=
  ⟨trivial, trivial, exact_strings _, exact_strings _, trivial⟩

theorem SidecarInvocation.exact_toValue {i : SidecarInvocation} (h : Exact i.params) :
    Exact i.toValue :=
  ⟨trivial, trivial, trivial, trivial, h, exact_optionalValue exact_intValue _,
    exact_optionalValue exact_string _, exact_optionalValue exact_string _, trivial⟩

theorem SidecarRuntimeStatus.exact_toValue (s : SidecarRuntimeStatus) : Exact s.toValue := by
  have hname : ∀ reason : SidecarRuntimeReason, Exact (.string reason.name) := fun _ => trivial
  exact ⟨trivial, trivial, trivial, trivial, trivial, exact_optionalValue hname _, trivial⟩

theorem depth_strings (names : List String) :
    (Value.array (names.map .string)).depth ≤ 1 :=
  Nat.succ_le_succ (Json.depthAll_map_le Value.string (fun _ => le_rfl) names)

theorem SidecarRuntimeConfiguration.depth_toValue (c : SidecarRuntimeConfiguration) :
    c.toValue.depth ≤ 3 := by
  have hnames := depth_strings c.capabilities
  have hcommand : ∀ command : SidecarCommandRegistration, command.toValue.depth ≤ 1 :=
    fun _ => le_rfl
  have hcommands : (Value.array (c.commands.map (·.toValue))).depth ≤ 2 :=
    Nat.succ_le_succ (Json.depthAll_map_le _ hcommand c.commands)
  simp only [toValue, intValue, Value.depth, Json.depthMembers] at *
  omega

theorem SidecarRuntimeManifest.depth_toValue (m : SidecarRuntimeManifest) :
    m.toValue.depth ≤ 2 := by
  have hcapabilities := depth_strings m.capabilities
  have hcommands := depth_strings m.commands
  simp only [toValue, intValue, Value.depth, Json.depthMembers] at *
  omega

theorem SidecarInvocation.depth_toValue (i : SidecarInvocation) :
    i.toValue.depth = i.params.depth + 1 := by
  have hint := depth_optionalValue (fun n => (rfl : (intValue n).depth = 0)) i.timeoutMs
  have hstring := depth_optionalValue fun s => (rfl : (Value.string s).depth = 0)
  simp only [toValue, Value.depth, Json.depthMembers, hint, hstring]
  omega

theorem SidecarRuntimeStatus.depth_toValue (s : SidecarRuntimeStatus) : s.toValue.depth = 1 := by
  have hreason := depth_optionalValue
    (fun reason : SidecarRuntimeReason => (rfl : (Value.string reason.name).depth = 0)) s.reason
  simp only [toValue, intValue, Value.depth, Json.depthMembers, hreason]
  omega

namespace SidecarRuntimeMessage

variable {m : SidecarRuntimeMessage}

/-- A message without doubles is written from a value without doubles. -/
theorem exact_toValue (h : ∀ v ∈ m.values, Exact v) : Exact m.toValue := by
  cases m with
  | configure c => exact ⟨trivial, trivial, c.exact_toValue, trivial⟩
  | configured m => exact ⟨trivial, trivial, m.exact_toValue, trivial⟩
  | admissionRequest i =>
    exact ⟨trivial, trivial, SidecarInvocation.exact_toValue (h _ List.mem_cons_self), trivial⟩
  | admissionDecision id d =>
    cases d with
    | allow => exact ⟨trivial, trivial, trivial, ⟨trivial, trivial, trivial⟩, trivial⟩
    | deny code message =>
      exact ⟨trivial, trivial, trivial, ⟨trivial, trivial, trivial, trivial, trivial⟩, trivial⟩
  | invoke i =>
    exact ⟨trivial, trivial, SidecarInvocation.exact_toValue (h _ List.mem_cons_self), trivial⟩
  | result id r =>
    cases r with
    | success payload =>
      exact ⟨trivial, trivial, trivial, ⟨trivial, trivial, h payload List.mem_cons_self, trivial⟩,
        trivial⟩
    | failure code message =>
      exact ⟨trivial, trivial, trivial, ⟨trivial, trivial, trivial, trivial, trivial⟩, trivial⟩
  | cancel id => exact ⟨trivial, trivial, trivial, trivial⟩
  | status s => exact ⟨trivial, trivial, s.exact_toValue, trivial⟩

/-- The parameters and the payload are two levels below the message. -/
theorem depth_toValue {d : Nat} (hd : 2 ≤ d) (h : ∀ v ∈ m.values, v.depth ≤ d) :
    m.toValue.depth ≤ d + 2 := by
  cases m with
  | configure c =>
    have hc := c.depth_toValue
    simp only [toValue, Value.depth, Json.depthMembers]
    omega
  | configured m =>
    have hm := m.depth_toValue
    simp only [toValue, Value.depth, Json.depthMembers]
    omega
  | admissionRequest i =>
    have hi := h _ List.mem_cons_self
    simp only [toValue, Value.depth, Json.depthMembers, i.depth_toValue]
    omega
  | admissionDecision id decision =>
    cases decision <;>
      simp [toValue, SidecarAdmissionDecision.toValue, Value.depth, Json.depthMembers]
  | invoke i =>
    have hi := h _ List.mem_cons_self
    simp only [toValue, Value.depth, Json.depthMembers, i.depth_toValue]
    omega
  | result id r =>
    cases r with
    | success payload =>
      have hp := h payload List.mem_cons_self
      simp only [toValue, SidecarInvocationResult.toValue, Value.depth, Json.depthMembers]
      omega
    | failure code message =>
      simp [toValue, SidecarInvocationResult.toValue, Value.depth, Json.depthMembers]
  | cancel id => simp [toValue, Value.depth, Json.depthMembers]
  | status s =>
    simp only [toValue, Value.depth, Json.depthMembers, s.depth_toValue]
    omega

theorem add_two_le_depth {v : Value} (hv : v ∈ m.values) : v.depth + 2 ≤ m.toValue.depth := by
  cases m with
  | admissionRequest i =>
    cases List.mem_singleton.mp hv
    simp only [toValue, Value.depth, Json.depthMembers, i.depth_toValue]
    omega
  | invoke i =>
    cases List.mem_singleton.mp hv
    simp only [toValue, Value.depth, Json.depthMembers, i.depth_toValue]
    omega
  | result id r =>
    cases r with
    | success payload =>
      cases List.mem_singleton.mp hv
      simp only [toValue, SidecarInvocationResult.toValue, Value.depth, Json.depthMembers]
      omega
    | failure code message => cases hv
  | configure _ | configured _ | admissionDecision _ _ | cancel _ | status _ => cases hv

end SidecarRuntimeMessage

end OpenclawNode.Sidecar
