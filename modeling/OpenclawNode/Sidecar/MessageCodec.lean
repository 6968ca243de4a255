import OpenclawNode.Sidecar.MessageValues
import OpenclawNode.Sidecar.StrictDecoding

/-! What is written of a runtime message is read back as the message. -/
namespace OpenclawNode.Sidecar

open Json (Value asList asString asU16 asU32 asU64 asUnitVariant asVariant exactFields nullable
  orNull required splitTag)
open Text (utf8)

section

variable {members : List (String × Value)}

/-- Fields that are all there in their order. -/
theorem exactFields_object (names : List String) (h : members.map Prod.fst = names)
    (hn : names.Nodup) :
    exactFields names (.object members) =
      some fun name => (members.find? (·.1 = name)).map Prod.snd := by
  rw [exactFields, if_pos ⟨fun m hm => h ▸ List.mem_map_of_mem hm, h ▸ hn⟩]

theorem splitTag_object {tag : String} {value : Value} (h : tag ∉ members.map Prod.fst) :
    splitTag tag (.object ((tag, value) :: members)) = some (value, .object members) := by
  have hne : ∀ m ∈ members, m.1 ≠ tag := fun m hm he => h (he ▸ List.mem_map_of_mem hm)
  have hnone : members.filter (·.1 = tag) = [] :=
    List.filter_eq_nil_iff.mpr fun m hm => by simpa using hne m hm
  have hall : members.filter (·.1 ≠ tag) = members :=
    List.filter_eq_self.mpr fun m hm => by simpa using hne m hm
  rw [splitTag, List.filter_cons_of_pos (by simp), hnone, List.filter_cons_of_neg (by simp), hall]

end

theorem asList_map {α : Type} {decode : Value → Option α} {value : α → Value}
    (h : ∀ a, decode (value a) = some a) (as : List α) :
    asList decode (.array (as.map value)) = some as := by
  induction as with
  | nil => rfl
  | cons a as ih =>
    have hrest : (as.map value).mapM decode = some as := ih
    rw [asList, List.map_cons, List.mapM_cons, h, hrest]
    rfl

theorem asList_strings (names : List String) :
    asList asString (.array (names.map .string)) = some names := by
  have hstring : ∀ s : String, asString (.string s) = some s := fun _ => rfl
  exact asList_map hstring names

theorem asPortableU64_intValue {n : UInt64} (h : n.toNat ≤ 2 ^ 53 - 1) :
    asPortableU64 (intValue n) = some n := by
  rw [asPortableU64, intValue, asU64, Option.bind_some, if_pos (le_maxPortable_iff.mpr h)]

theorem asU16_intValue (n : UInt16) : asU16 (intValue n.toUInt64) = some n := by
  rw [asU16, intValue, asU64, Option.bind_some, UInt16.toNat_toUInt64, if_pos n.toNat_lt,
    UInt16.toUInt16_toUInt64]

theorem asU32_intValue (n : UInt32) : asU32 (intValue n.toUInt64) = some n := by
  rw [asU32, intValue, asU64, Option.bind_some, UInt32.toNat_toUInt64, if_pos n.toNat_lt,
    UInt32.toUInt32_toUInt64]

theorem orNull_optionalValue {found : Option UInt64}
    (h : ∀ n ∈ found.toList, n.toNat ≤ 2 ^ 53 - 1) :
    orNull asPortableU64 (optionalValue intValue found) = some found := by
  cases found with
  | none => rfl
  | some n =>
    show (asPortableU64 (intValue n)).map some = some (some n)
    rw [asPortableU64_intValue (h n (by simp))]
    rfl

theorem nullable_optionalValue (found : Option String) :
    nullable asString (some (optionalValue .string found)) = some found := by
  cases found <;> rfl

theorem asPortableValue_eq {v : Value} (hc : v.Canonical)
    (hp : v.Forall PortableNumber fun _ => True) : asPortableValue v = some v := by
  rw [asPortableValue, v.normal_eq hc, if_pos ((portableJsonValue_iff v).mpr hp)]

theorem SidecarRuntimeState.ofName_name (state : SidecarRuntimeState) :
    ofName state.name = some state := by
  cases state <;> decide

theorem SidecarRuntimeReason.ofName_name (reason : SidecarRuntimeReason) :
    ofName reason.name = some reason := by
  cases reason <;> decide

theorem SidecarCommandRegistration.fromContent_toValue (c : SidecarCommandRegistration) :
    fromContent c.toValue = some c := by
  rw [fromContent, toValue, exactFields_object fields rfl (by decide)]
  rfl

theorem SidecarRuntimeConfiguration.fromContent_toValue {c : SidecarRuntimeConfiguration}
    (h : c.manifestGeneration.toNat ≤ 2 ^ 53 - 1) : fromContent c.toValue = some c := by
  rw [fromContent, toValue, exactFields_object fields rfl (by decide)]
  simp [required, asPortableU64_intValue h, asList_strings, asU16_intValue, asU32_intValue,
    asList_map SidecarCommandRegistration.fromContent_toValue]

theorem SidecarRuntimeManifest.fromContent_toValue {m : SidecarRuntimeManifest}
    (h : m.manifestGeneration.toNat ≤ 2 ^ 53 - 1) : fromContent m.toValue = some m := by
  rw [fromContent, toValue, exactFields_object fields rfl (by decide)]
  simp [required, asPortableU64_intValue h, asList_strings]

theorem SidecarInvocation.fromContent_toValue {i : SidecarInvocation}
    (ht : ∀ n ∈ i.timeoutMs.toList, n.toNat ≤ 2 ^ 53 - 1) (hc : i.params.Canonical)
    (hp : i.params.Forall PortableNumber fun _ => True) : fromContent i.toValue = some i := by
  rw [fromContent, toValue, exactFields_object fields rfl (by decide)]
  simp [required, asString, asPortableValue_eq hc hp, orNull_optionalValue ht,
    nullable_optionalValue]

theorem SidecarAdmissionDecision.fromContent_toValue (d : SidecarAdmissionDecision) :
    fromContent d.toValue = some d := by
  cases d with
  | allow =>
    rw [fromContent, toValue, splitTag_object (by simp)]
    rfl
  | deny code message =>
    rw [fromContent, toValue, splitTag_object (by simp)]
    have hfields : exactFields denyFields
        (.object [("code", .string code), ("message", .string message)]) = _ :=
      exactFields_object denyFields rfl (by decide)
    simp [asVariant, variants, hfields, required, asString]

theorem SidecarInvocationResult.fromContent_success {payload : Value} (hc : payload.Canonical)
    (hp : payload.Forall PortableNumber fun _ => True) :
    fromContent (toValue (.success payload)) = some (.success payload) := by
  rw [fromContent, toValue, splitTag_object (by simp)]
  have hfields : exactFields successFields (.object [("payload", payload)]) = _ :=
    exactFields_object successFields rfl (by decide)
  simp [asVariant, variants, hfields, required, asPortableValue_eq hc hp]

theorem SidecarInvocationResult.fromContent_failure (code message : String) :
    fromContent (toValue (.failure code message)) = some (.failure code message) := by
  rw [fromContent, toValue, splitTag_object (by simp)]
  have hfields : exactFields failureFields
      (.object [("code", .string code), ("message", .string message)]) = _ :=
    exactFields_object failureFields rfl (by decide)
  simp [asVariant, variants, hfields, required, asString]

theorem SidecarRuntimeStatus.fromContent_toValue {s : SidecarRuntimeStatus}
    (hg : s.manifestGeneration.toNat ≤ 2 ^ 53 - 1) (ha : s.attempt.toNat ≤ 2 ^ 53 - 1) :
    fromContent s.toValue = some s := by
  have hstate : asUnitVariant SidecarRuntimeState.ofName (.string s.state.name) = some s.state :=
    SidecarRuntimeState.ofName_name s.state
  have hreason : nullable (asUnitVariant SidecarRuntimeReason.ofName)
      (some (optionalValue (.string ·.name) s.reason)) = some s.reason := by
    cases s.reason with
    | none => rfl
    | some reason => exact congrArg (Option.map some) (SidecarRuntimeReason.ofName_name reason)
  rw [fromContent, toValue, exactFields_object fields rfl (by decide)]
  simp [required, hstate, asPortableU64_intValue hg, asPortableU64_intValue ha, asString, hreason]

namespace SidecarRuntimeMessage

variable {m : SidecarRuntimeMessage}

/-- The content of a message after its tag. -/
theorem fromContent_tagged {kind : String} {members : List (String × Value)}
    (hfields : members.map Prod.fst = fields kind) (hn : (fields kind).Nodup)
    (htype : "type" ∉ fields kind) :
    fromContent (.object (("type", .string kind) :: members)) =
      fromFields kind fun name => (members.find? (·.1 = name)).map Prod.snd := by
  rw [fromContent, splitTag_object (hfields ▸ htype)]
  show ((exactFields (fields kind) (.object members)).bind fun field => fromFields kind field) = _
  rw [exactFields_object _ hfields hn]
  rfl

/-- The value that a portable message is written from is decoded to the message. -/
theorem fromContent_toValue (hp : m.Portable) (hc : ∀ v ∈ m.values, v.Canonical) :
    fromContent m.toValue = some m := by
  obtain ⟨hi, hv⟩ := hp
  cases m with
  | configure c =>
    have hcontent := SidecarRuntimeConfiguration.fromContent_toValue (hi _ List.mem_cons_self)
    rw [toValue, fromContent_tagged rfl (by decide) (by decide)]
    simp [fromFields, required, hcontent]
  | configured m =>
    have hcontent := SidecarRuntimeManifest.fromContent_toValue (hi _ List.mem_cons_self)
    rw [toValue, fromContent_tagged rfl (by decide) (by decide)]
    simp [fromFields, required, hcontent]
  | admissionRequest i =>
    have hcontent := SidecarInvocation.fromContent_toValue hi (hc _ List.mem_cons_self)
      (hv _ List.mem_cons_self)
    rw [toValue, fromContent_tagged rfl (by decide) (by decide)]
    simp [fromFields, required, hcontent]
  | admissionDecision id d =>
    rw [toValue, fromContent_tagged rfl (by decide) (by decide)]
    simp [fromFields, required, asString, d.fromContent_toValue]
  | invoke i =>
    have hcontent := SidecarInvocation.fromContent_toValue hi (hc _ List.mem_cons_self)
      (hv _ List.mem_cons_self)
    rw [toValue, fromContent_tagged rfl (by decide) (by decide)]
    simp [fromFields, required, hcontent]
  | result id r =>
    have hcontent : SidecarInvocationResult.fromContent r.toValue = some r := by
      cases r with
      | success payload =>
        exact SidecarInvocationResult.fromContent_success (hc _ List.mem_cons_self)
          (hv _ List.mem_cons_self)
      | failure code message => exact SidecarInvocationResult.fromContent_failure code message
    rw [toValue, fromContent_tagged rfl (by decide) (by decide)]
    simp [fromFields, required, asString, hcontent]
  | cancel id =>
    rw [toValue, fromContent_tagged rfl (by decide) (by decide)]
    simp [fromFields, required, asString]
  | status s =>
    have hcontent := SidecarRuntimeStatus.fromContent_toValue (hi _ List.mem_cons_self)
      (hi _ (List.mem_cons_of_mem _ List.mem_cons_self))
    rw [toValue, fromContent_tagged rfl (by decide) (by decide)]
    simp [fromFields, required, hcontent]

end SidecarRuntimeMessage

/-- Integers that are kept as such and no doubles. -/
theorem exact_of_canonical {v : Value} (hc : v.Canonical) (hf : v.FloatFree) : Exact v := by
  refine Value.Forall.both ?_ (fun _ _ _ => trivial) v hc hf
  rintro (n | n | d) hn hd
  · trivial
  · exact hn
  · exact hd

/-- How deep the parameters and the payload may nest for the message to be read: the message has
two levels of its own. -/
def maxValueDepth : Nat := Json.recursionLimit - 2

theorem depth_toValue_le_iff {m : SidecarRuntimeMessage} :
    m.toValue.depth ≤ Json.recursionLimit ↔ ∀ v ∈ m.values, v.depth ≤ maxValueDepth := by
  constructor
  · intro h v hv
    exact Nat.le_sub_of_add_le ((SidecarRuntimeMessage.add_two_le_depth hv).trans h)
  · exact fun h => SidecarRuntimeMessage.depth_toValue (by decide) h

/-- The text that a portable message without doubles is written as, and what is read of it. -/
theorem written_text_read {formatDouble : Json.Double → String}
    {readDouble : List Char → Option Json.Double} {m : SidecarRuntimeMessage} (hp : m.Portable)
    (hc : ∀ v ∈ m.values, v.Canonical ∧ v.FloatFree) :
    ∃ text, (m.serialize formatDouble).output = utf8 text ∧
      SidecarRuntimeMessage.fromStr readDouble text =
        if ∀ v ∈ m.values, v.depth ≤ maxValueDepth then some m else none := by
  have hexact : Exact m.toValue := SidecarRuntimeMessage.exact_toValue fun v hm =>
    exact_of_canonical (hc v hm).1 (hc v hm).2
  refine ⟨String.ofList (m.toValue.text formatDouble), ?_, ?_⟩
  · rw [SidecarRuntimeMessage.serialize_eq formatDouble hp]
    exact (Value.prints m.toValue).output
  · rw [SidecarRuntimeMessage.fromStr, Json.readText_text hexact]
    split
    · next hd =>
      rw [if_pos (depth_toValue_le_iff.mp hd), Option.bind_some]
      exact SidecarRuntimeMessage.fromContent_toValue hp fun v hm => (hc v hm).1
    · next hd =>
      rw [if_neg (depth_toValue_le_iff.not.mp hd), Option.bind_none]

/-- A message is written exactly when it is portable. What is written of a message without doubles
is read back as the message, where it does not nest deeper than is read. Whatever is read as a
message is portable, so it is written again. -/
theorem runtime_codec (formatDouble : Json.Double → String)
    (readDouble : List Char → Option Json.Double) :
    (∀ m : SidecarRuntimeMessage, (m.serialize formatDouble).failed = false ↔ m.Portable) ∧
    (∀ m : SidecarRuntimeMessage, (m.serialize formatDouble).failed = false →
      (∀ v ∈ m.values, v.Canonical ∧ v.FloatFree) →
      ∃ text, (m.serialize formatDouble).output = utf8 text ∧
        SidecarRuntimeMessage.fromStr readDouble text =
          if ∀ v ∈ m.values, v.depth ≤ maxValueDepth then some m else none) ∧
    (∀ text m, SidecarRuntimeMessage.fromStr readDouble text = some m →
      m.Portable ∧ (m.serialize formatDouble).failed = false) := by
  refine ⟨fun m => m.failed_serialize_iff, fun m hw hc => ?_, fun text m h => ?_⟩
  · exact written_text_read (m.failed_serialize_iff.mp hw) hc
  · obtain ⟨v, -, hv⟩ := Option.bind_eq_some_iff.mp h
    have hportable := SidecarRuntimeMessage.decoded_portable hv
    exact ⟨hportable, m.failed_serialize_iff.mpr hportable⟩

def noDoubleText (_ : Json.Double) : String := ""

def nestedInvocation : SidecarRuntimeMessage := .invoke {
  id := "invoke-1"
  nodeId := "node-1"
  command := "device.info"
  params := .object [("depths", .array [.number (.negInt (-2)), .number (.posInt 3)]),
    ("name", .string "say \"hi\"\n")]
  timeoutMs := some 5000
  idempotencyKey := none
  sessionKey := some "main" }

/-- An invocation whose parameters nest is read back. -/
theorem nested_invocation_read : ∃ text,
    (nestedInvocation.serialize noDoubleText).output = utf8 text ∧
    SidecarRuntimeMessage.fromStr noDoubles text = some nestedInvocation := by
  obtain ⟨-, hround, -⟩ := runtime_codec noDoubleText noDoubles
  have hnames : ["depths", "name"].Pairwise (· < ·) := by decide
  have hnegative : (-2 : Int64) < 0 := by decide
  have hparams : ∀ v ∈ nestedInvocation.values, v.Canonical ∧ v.FloatFree := by
    intro v hv
    rw [List.mem_singleton.mp hv]
    exact ⟨⟨hnames, ⟨hnegative, trivial, trivial⟩, trivial, trivial⟩,
      ⟨trivial, ⟨trivial, trivial, trivial⟩, trivial, trivial⟩⟩
  have hread := hround nestedInvocation (by decide) hparams
  rw [if_pos (by decide)] at hread
  exact hread

def nestedArrays : Nat → Value
  | 0 => .array []
  | n + 1 => .array [nestedArrays n]

/-- A payload one level deeper than is read. -/
def deepResult : SidecarRuntimeMessage := .result "invoke-1" (.success (nestedArrays maxValueDepth))

theorem forall_nestedArrays {number : Json.Number → Prop} {names : List String → Prop} (n : Nat) :
    (nestedArrays n).Forall number names := by
  induction n with
  | zero => trivial
  | succ n ih => exact ⟨ih, trivial⟩

theorem depth_nestedArrays (n : Nat) : (nestedArrays n).depth = n + 1 := by
  induction n with
  | zero => rfl
  | succ n ih => rw [nestedArrays, Value.depth, Json.depthAll, ih, Json.depthAll, Nat.max_zero]

/-- A message is written that is not read back. -/
theorem deep_result_refused : (∀ v ∈ deepResult.values, v.Canonical ∧ v.FloatFree) ∧
    (deepResult.serialize noDoubleText).failed = false ∧
    ∀ text, (deepResult.serialize noDoubleText).output = utf8 text →
      SidecarRuntimeMessage.fromStr noDoubles text = none := by
  have hmem : nestedArrays maxValueDepth ∈ deepResult.values := List.mem_cons_self
  have hvalues : ∀ v ∈ deepResult.values, v = nestedArrays maxValueDepth := fun v hv =>
    List.mem_singleton.mp hv
  have hcanonical : ∀ v ∈ deepResult.values, v.Canonical ∧ v.FloatFree := by
    intro v hv
    rw [hvalues v hv]
    exact ⟨forall_nestedArrays _, forall_nestedArrays _⟩
  have hportable : deepResult.Portable := by
    refine ⟨nofun, fun v hv => ?_⟩
    rw [hvalues v hv]
    exact forall_nestedArrays _
  refine ⟨hcanonical, deepResult.failed_serialize_iff.mpr hportable, fun text htext => ?_⟩
  obtain ⟨written, hwritten, hread⟩ := written_text_read hportable hcanonical
  have hdeep : ¬ ∀ v ∈ deepResult.values, v.depth ≤ maxValueDepth := by
    intro h
    have hle := h _ hmem
    rw [depth_nestedArrays] at hle
    exact absurd hle (Nat.not_succ_le_self _)
  rw [← Text.utf8_injective (hwritten.symm.trans htext), hread, if_neg hdeep]

end OpenclawNode.Sidecar
