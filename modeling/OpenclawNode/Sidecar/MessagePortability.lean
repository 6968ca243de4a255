import OpenclawNode.Base.JsonTree
import OpenclawNode.Sidecar.MessageDecoding
import OpenclawNode.Sidecar.StatusBudget

/-! Which runtime messages are written, and that whatever is read as one can be written again. -/
namespace OpenclawNode.Sidecar

open Json (Value orNull required_eq_some)

/-- Between -(2^53-1) and 2^53-1, unless it is no integer. -/
def PortableNumber : Json.Number → Prop
  | .posInt n => n.toNat ≤ 2 ^ 53 - 1
  | .negInt n => -(2 ^ 53 - 1) ≤ n.toInt
  | .float d => d.value.den = 1 → |d.value| ≤ 2 ^ 53 - 1

namespace SidecarRuntimeMessage

/-- The integers of a message that have a codec of their own. -/
def integers : SidecarRuntimeMessage → List UInt64
  | .configure configuration => [configuration.manifestGeneration]
  | .configured manifest => [manifest.manifestGeneration]
  | .admissionRequest invocation => invocation.timeoutMs.toList
  | .invoke invocation => invocation.timeoutMs.toList
  | .status current => [current.manifestGeneration, current.attempt]
  | .admissionDecision _ _ => []
  | .result _ _ => []
  | .cancel _ => []

/-- The parameters or the payload. -/
def values : SidecarRuntimeMessage → List Value
  | .admissionRequest invocation => [invocation.params]
  | .invoke invocation => [invocation.params]
  | .result _ (.success payload) => [payload]
  | _ => []

def Portable (m : SidecarRuntimeMessage) : Prop :=
  (∀ n ∈ m.integers, n.toNat ≤ 2 ^ 53 - 1) ∧
    ∀ v ∈ m.values, v.Forall PortableNumber fun _ => True

end SidecarRuntimeMessage

theorem le_maxPortable_iff {n : UInt64} :
    n ≤ maxPortableJsonInteger ↔ n.toNat ≤ 2 ^ 53 - 1 := by
  rw [UInt64.le_iff_toNat_le]
  rfl

theorem portableNumber_iff {n : Json.Number} : portableNumber n = true ↔ PortableNumber n := by
  cases n with
  | posInt n =>
    rw [portableNumber, decide_eq_true_iff]
    exact le_maxPortable_iff
  | negInt n =>
    rw [portableNumber, decide_eq_true_iff, Int64.le_iff_toInt_le]
    rfl
  | float d =>
    have hbound : (2 : ℚ) ^ 53 - 1 = 9007199254740991 := by norm_num
    simp only [portableNumber, PortableNumber, hbound, Bool.or_eq_true,
      decide_eq_true_iff, ne_eq]
    tauto

mutual

theorem portableJsonValue_iff : ∀ v : Value,
    portableJsonValue v = true ↔ v.Forall PortableNumber fun _ => True
  | .null => iff_of_true rfl trivial
  | .bool _ => iff_of_true rfl trivial
  | .number _ => portableNumber_iff
  | .string _ => iff_of_true rfl trivial
  | .array values => portableAll_iff values
  | .object members => by
    rw [portableJsonValue, Value.Forall, true_and]
    exact portableMembers_iff members

theorem portableAll_iff : ∀ values : List Value,
    portableAll values = true ↔ Json.ForallAll PortableNumber (fun _ => True) values
  | [] => iff_of_true rfl trivial
  | value :: values => by
    rw [portableAll, Json.ForallAll, Bool.and_eq_true, portableJsonValue_iff value,
      portableAll_iff values]

theorem portableMembers_iff : ∀ members : List (String × Value),
    portableMembers members = true ↔ Json.ForallMembers PortableNumber (fun _ => True) members
  | [] => iff_of_true rfl trivial
  | (_, value) :: members => by
    rw [portableMembers, Json.ForallMembers, Bool.and_eq_true, portableJsonValue_iff value,
      portableMembers_iff members]

end

section

variable {formatDouble : Json.Double → String}

theorem failed_serializePortableValue_iff {v : Value} :
    (serializePortableValue formatDouble v).failed = false ↔
      v.Forall PortableNumber fun _ => True := by
  rw [failed_serializePortableValue, Bool.not_eq_false', portableJsonValue_iff]

theorem failed_invocation {i : SidecarInvocation} :
    (i.serialize formatDouble).failed = false ↔
      (∀ n ∈ i.timeoutMs.toList, n.toNat ≤ 2 ^ 53 - 1) ∧
        i.params.Forall PortableNumber fun _ => True := by
  have hparams : (serializePortableValue formatDouble i.params).failed = false ↔ _ :=
    failed_serializePortableValue_iff
  have htimeout : (serializePortableOptionalU64 i.timeoutMs).failed = false ↔
      ∀ n ∈ i.timeoutMs.toList, n.toNat ≤ 2 ^ 53 - 1 := by
    rw [failed_serializePortableOptionalU64, Bool.not_eq_false']
    cases i.timeoutMs with
    | none => simp
    | some n =>
      rw [Option.all_some, decide_eq_true_iff, le_maxPortable_iff]
      simp
  rw [← hparams, ← htimeout]
  simp [SidecarInvocation.serialize, Json.failed_object, failed_optional_string, and_comm]

/-- A message is written exactly when everything in it is portable. -/
theorem SidecarRuntimeMessage.failed_serialize_iff (m : SidecarRuntimeMessage) :
    (m.serialize formatDouble).failed = false ↔ m.Portable := by
  cases m with
  | configure c =>
    have hc := failed_configuration (c := c)
    rw [le_maxPortable_iff] at hc
    simpa [serialize, Json.failed_object, Portable, integers, values] using hc
  | configured m =>
    have hm : (serializePortableU64 m.manifestGeneration).failed = false ↔ _ :=
      failed_serializePortableU64
    rw [le_maxPortable_iff] at hm
    simpa [serialize, SidecarRuntimeManifest.serialize, Json.failed_object, Json.failed_array,
      Function.comp_def, Portable, integers, values] using hm
  | admissionRequest i =>
    have hi : (i.serialize formatDouble).failed = false ↔ _ := failed_invocation
    simpa [serialize, Json.failed_object, Portable, integers, values] using hi
  | invoke i =>
    have hi : (i.serialize formatDouble).failed = false ↔ _ := failed_invocation
    simpa [serialize, Json.failed_object, Portable, integers, values] using hi
  | admissionDecision id d =>
    simp [serialize, Json.failed_object, failed_serialize_decision, Portable, integers, values]
  | result id r =>
    have hr : (r.serialize formatDouble).failed = _ := failed_serialize_result r
    cases r with
    | success payload =>
      have hp := portableJsonValue_iff payload
      simpa [serialize, Json.failed_object, hr, invocationResultIsPortable, Portable, integers,
        values] using hp
    | failure code message =>
      simp [serialize, Json.failed_object, hr, invocationResultIsPortable, Portable, integers,
        values]
  | cancel id => simp [serialize, Json.failed_object, Portable, integers, values]
  | status s =>
    have hs := failed_status s
    rw [le_maxPortable_iff, le_maxPortable_iff] at hs
    simpa [serialize, Json.failed_object, Portable, integers, values] using hs

end

theorem portable_of_asPortableU64 {v : Value} {n : UInt64} (h : asPortableU64 v = some n) :
    n.toNat ≤ 2 ^ 53 - 1 := by
  obtain ⟨m, -, hm⟩ := Option.bind_eq_some_iff.mp h
  split at hm
  · next hle =>
    cases hm
    exact le_maxPortable_iff.mp hle
  · cases hm

theorem portable_of_asPortableValue {v w : Value} (h : asPortableValue v = some w) :
    w.Forall PortableNumber fun _ => True := by
  unfold asPortableValue at h
  split at h
  · next hp =>
    cases h
    exact (portableJsonValue_iff _).mp hp
  · cases h

theorem portable_of_orNull {v : Value} {found : Option UInt64}
    (h : orNull asPortableU64 v = some found) : ∀ n ∈ found.toList, n.toNat ≤ 2 ^ 53 - 1 := by
  unfold orNull at h
  split at h
  · cases h
    simp
  · obtain ⟨n, hn, rfl⟩ := Option.map_eq_some_iff.mp h
    simpa using portable_of_asPortableU64 hn

theorem SidecarRuntimeConfiguration.decoded_portable {v : Value} {c : SidecarRuntimeConfiguration}
    (h : fromContent v = some c) : c.manifestGeneration.toNat ≤ 2 ^ 53 - 1 := by
  simp only [fromContent, Option.bind_eq_bind, Option.bind_eq_some_iff, required_eq_some] at h
  obtain ⟨_, -, n, ⟨_, -, hn⟩, _, -, _, -, _, -, _, -, _, -, _, -, _, -, _, -, hc⟩ := h
  cases hc
  exact portable_of_asPortableU64 hn

theorem SidecarRuntimeManifest.decoded_portable {v : Value} {m : SidecarRuntimeManifest}
    (h : fromContent v = some m) : m.manifestGeneration.toNat ≤ 2 ^ 53 - 1 := by
  simp only [fromContent, Option.bind_eq_bind, Option.bind_eq_some_iff, required_eq_some] at h
  obtain ⟨_, -, n, ⟨_, -, hn⟩, _, -, _, -, hm⟩ := h
  cases hm
  exact portable_of_asPortableU64 hn

theorem SidecarInvocation.decoded_portable {v : Value} {i : SidecarInvocation}
    (h : fromContent v = some i) : (∀ n ∈ i.timeoutMs.toList, n.toNat ≤ 2 ^ 53 - 1) ∧
      i.params.Forall PortableNumber fun _ => True := by
  simp only [fromContent, Option.bind_eq_bind, Option.bind_eq_some_iff, required_eq_some] at h
  obtain ⟨_, -, _, -, _, -, _, -, params, ⟨_, -, hparams⟩, timeoutMs, ⟨_, -, htimeout⟩, _, -, _, -,
    hi⟩ := h
  cases hi
  exact ⟨portable_of_orNull htimeout, portable_of_asPortableValue hparams⟩

theorem SidecarRuntimeStatus.decoded_portable {v : Value} {s : SidecarRuntimeStatus}
    (h : fromContent v = some s) :
    s.manifestGeneration.toNat ≤ 2 ^ 53 - 1 ∧ s.attempt.toNat ≤ 2 ^ 53 - 1 := by
  simp only [fromContent, Option.bind_eq_bind, Option.bind_eq_some_iff, required_eq_some] at h
  obtain ⟨_, -, _, -, n, ⟨_, -, hn⟩, _, -, attempt, ⟨_, -, hattempt⟩, _, -, hs⟩ := h
  cases hs
  exact ⟨portable_of_asPortableU64 hn, portable_of_asPortableU64 hattempt⟩

theorem SidecarInvocationResult.decoded_portable {v payload : Value}
    (h : fromContent v = some (.success payload)) :
    payload.Forall PortableNumber fun _ => True := by
  simp only [fromContent, Option.bind_eq_bind, Option.bind_eq_some_iff, Prod.exists] at h
  obtain ⟨_, _, -, _, -, h⟩ := h
  split at h
  · simp only [Option.bind_eq_some_iff, required_eq_some] at h
    obtain ⟨_, -, found, ⟨_, -, hfound⟩, hr⟩ := h
    cases hr
    exact portable_of_asPortableValue hfound
  · simp only [Option.bind_eq_some_iff] at h
    obtain ⟨_, -, _, -, _, -, hr⟩ := h
    cases hr

/-- Whatever is read as a message is portable. -/
theorem SidecarRuntimeMessage.decoded_portable {v : Value} {m : SidecarRuntimeMessage}
    (h : fromContent v = some m) : m.Portable := by
  simp only [fromContent, Option.bind_eq_bind, Option.bind_eq_some_iff, Prod.exists] at h
  obtain ⟨_, _, -, _, -, _, -, h⟩ := h
  unfold fromFields at h
  split at h <;> simp only [Option.bind_eq_bind, Option.bind_eq_some_iff, required_eq_some,
    reduceCtorEq] at h
  · obtain ⟨c, ⟨_, -, hc⟩, hm⟩ := h
    cases hm
    simpa [Portable, integers, values] using SidecarRuntimeConfiguration.decoded_portable hc
  · obtain ⟨manifest, ⟨_, -, hmanifest⟩, hm⟩ := h
    cases hm
    simpa [Portable, integers, values] using SidecarRuntimeManifest.decoded_portable hmanifest
  · obtain ⟨i, ⟨_, -, hi⟩, hm⟩ := h
    cases hm
    simpa [Portable, integers, values] using SidecarInvocation.decoded_portable hi
  · obtain ⟨_, -, _, -, hm⟩ := h
    cases hm
    simp [Portable, integers, values]
  · obtain ⟨i, ⟨_, -, hi⟩, hm⟩ := h
    cases hm
    simpa [Portable, integers, values] using SidecarInvocation.decoded_portable hi
  · obtain ⟨_, -, r, ⟨_, -, hr⟩, hm⟩ := h
    cases hm
    cases r with
    | success payload =>
      simpa [Portable, integers, values] using SidecarInvocationResult.decoded_portable hr
    | failure code message => simp [Portable, integers, values]
  · obtain ⟨_, -, hm⟩ := h
    cases hm
    simp [Portable, integers, values]
  · obtain ⟨s, ⟨_, -, hs⟩, hm⟩ := h
    cases hm
    simpa [Portable, integers, values] using SidecarRuntimeStatus.decoded_portable hs

end OpenclawNode.Sidecar
