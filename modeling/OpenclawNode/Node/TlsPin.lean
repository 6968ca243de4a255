import OpenclawNode.Base.Hex
import OpenclawNode.Node.GatewayEndpoint

/-! The certificate that a Gateway is pinned to, from its configured text to the verdict on what
the Gateway presents. -/
namespace OpenclawNode.Node

open BigEndian (Bytes)
open Text (trim utf8)

def isAsciiHexdigit (code : UInt8) : Bool := (Hex.value code).isSome

/-- `u8::from_str_radix` in base 16. A sign may stand before the digits. -/
def fromStrRadix16 (text : Bytes) : Option UInt8 :=
  let digits := if text.head? = some 43 then text.tail else text
  if digits = [] then none
  else digits.foldlM (fun n code => do
    let d ← Hex.value code
    if n.toNat * 16 + d.toNat < 256 then some (n * 16 + d) else none) 0

/-- The byte that the two digits at an index of the text are of. -/
def fingerprintByte (value : Bytes) (index : Fin 32) : Option UInt8 :=
  fromStrRadix16 ((value.drop (index * 2)).take 2)

def parseTlsFingerprint (raw : String) : Except String (Vector UInt8 32) :=
  let value := utf8 (trim raw)
  if value.length ≠ 64 ∨ value.all isAsciiHexdigit = false then
    .error "Gateway TLS fingerprint must be 64 hexadecimal characters."
  else if h : ∀ index, (fingerprintByte value index).isSome then
    .ok (Vector.ofFn fun index => (fingerprintByte value index).get (h index))
  else .error "Gateway TLS fingerprint is invalid."

def tlsTrust : Option String → Except String TlsTrust
  | none => .ok .systemRoots
  | some fingerprint => (parseTlsFingerprint fingerprint).map .pinned

variable (sha256 : Bytes → Vector UInt8 32)

def pinnedFingerprintMatches (expected : Vector UInt8 32) (certificate : Bytes) : Bool :=
  expected == sha256 certificate

/-- The verdict on the certificate at the end of a chain. Nothing else of the chain counts. -/
def verifyServerCert (expected : Vector UInt8 32) (certificate : Bytes) : Except String Unit :=
  if pinnedFingerprintMatches sha256 expected certificate then .ok ()
  else .error tlsPinMismatchError

/-- An error of the WebSocket library: its kind, and its text. -/
inductive TransportErrorKind
  | tls
  | io (invalidData : Bool)
  | other
  deriving DecidableEq, Repr

def classifyConnectError (kind : TransportErrorKind) (text : String) (secureEndpoint : Bool) :
    ClientError :=
  if kind = .tls ∨ (secureEndpoint = true ∧ kind = .io true) ∨
      tlsPinMismatchError.toList <:+: text.toList then
    .tls text
  else .transport text

variable {sha256} {value : Bytes} {raw : String} {fingerprint : Vector UInt8 32}

theorem fingerprintByte_eq {index : Fin 32} {high low h l : UInt8}
    (hhigh : value[2 * index.val]? = some high) (hlow : value[2 * index.val + 1]? = some low)
    (hh : Hex.value high = some h) (hl : Hex.value low = some l) :
    fingerprintByte value index = some (h * 16 + l) := by
  have hslice : (value.drop (index.val * 2)).take 2 = [high, low] := by
    obtain ⟨hlt, hlow⟩ := List.getElem?_eq_some_iff.mp hlow
    obtain ⟨hlt', hhigh⟩ := List.getElem?_eq_some_iff.mp hhigh
    rw [mul_comm, List.drop_eq_getElem_cons hlt', List.drop_eq_getElem_cons hlt, hhigh, hlow]
    rfl
  have hsign : high ≠ 43 := by
    rintro rfl
    cases hh
  have hhlt := UInt8.lt_iff_toNat_lt.mp (Hex.value_lt hh)
  have hllt := UInt8.lt_iff_toNat_lt.mp (Hex.value_lt hl)
  simp at hhlt hllt
  unfold fingerprintByte fromStrRadix16
  rw [hslice]
  have hfirst : h.toNat < 256 := by omega
  have hsecond : h.toNat * 16 + l.toNat < 256 := by omega
  simp [hsign, hh, hl, hfirst, hsecond]

theorem byte_of_digits {h l : UInt8} (hh : h < 16) (hl : l < 16) :
    (h * 16 + l) / 16 = h ∧ (h * 16 + l) % 16 = l := by
  have hhlt := UInt8.lt_iff_toNat_lt.mp hh
  have hllt := UInt8.lt_iff_toNat_lt.mp hl
  simp only [← UInt8.toNat_inj]
  simp at hhlt hllt ⊢
  omega

/-- The text that a fingerprint is configured by, up to the case of its digits. -/
def Spells (raw : String) (fingerprint : Vector UInt8 32) : Prop :=
  (utf8 (trim raw)).map Hex.toAsciiLowercase = Hex.encode fingerprint.toList

theorem spells_iff : Spells raw fingerprint ↔ (utf8 (trim raw)).length = 64 ∧
    ∀ index : Fin 32, ∃ high low, (utf8 (trim raw))[2 * index.val]? = some high ∧
      (utf8 (trim raw))[2 * index.val + 1]? = some low ∧
      Hex.value high = some (fingerprint[index] / 16) ∧
      Hex.value low = some (fingerprint[index] % 16) := by
  unfold Spells
  rw [Hex.eq_encode_iff]
  simp only [List.length_map, Vector.length_toList, List.getElem?_map, Option.map_eq_some_iff]
  refine and_congr_right fun _ => ⟨fun h index => ?_, fun h i hi => ?_⟩
  · obtain ⟨⟨high, hhigh, heh⟩, low, hlow, hel⟩ := h index.val index.isLt
    exact ⟨high, low, hhigh, hlow, (Hex.value_eq_some_iff (Hex.div_lt _)).mpr heh,
      (Hex.value_eq_some_iff (Hex.mod_lt _)).mpr hel⟩
  · obtain ⟨high, low, hhigh, hlow, hh, hl⟩ := h ⟨i, hi⟩
    exact ⟨⟨high, hhigh, (Hex.value_eq_some_iff (Hex.div_lt _)).mp hh⟩, low, hlow,
      (Hex.value_eq_some_iff (Hex.mod_lt _)).mp hl⟩

theorem Spells.unique {fingerprint' : Vector UInt8 32} (h : Spells raw fingerprint)
    (h' : Spells raw fingerprint') : fingerprint = fingerprint' :=
  Vector.toList_inj.mp (Hex.encode_injective (h.symm.trans h'))

/-- A text is parsed when it spells a fingerprint, and else refused for what it is. -/
theorem parseTlsFingerprint_cases (raw : String) :
    (∃ fingerprint, parseTlsFingerprint raw = .ok fingerprint ∧ Spells raw fingerprint) ∨
      parseTlsFingerprint raw =
          .error "Gateway TLS fingerprint must be 64 hexadecimal characters." ∧
        ∀ fingerprint, ¬ Spells raw fingerprint := by
  by_cases hguard : (utf8 (trim raw)).length ≠ 64 ∨
      (utf8 (trim raw)).all isAsciiHexdigit = false
  · right
    refine ⟨if_pos hguard, fun fingerprint hspells => ?_⟩
    obtain ⟨hlength, hdigits⟩ := spells_iff.mp hspells
    rcases hguard with hne | hall
    · exact hne hlength
    · obtain ⟨code, hmem, hcode⟩ := List.all_eq_false.mp hall
      obtain ⟨j, hj, rfl⟩ := List.mem_iff_getElem.mp hmem
      obtain ⟨high, low, hhigh, hlow, hh, hl⟩ := hdigits ⟨j / 2, by omega⟩
      refine hcode ?_
      rcases Nat.mod_two_eq_zero_or_one j with heven | hodd
      · rw [show 2 * (j / 2) = j by omega, List.getElem?_eq_getElem hj] at hhigh
        cases hhigh
        simp [isAsciiHexdigit, hh]
      · rw [show 2 * (j / 2) + 1 = j by omega, List.getElem?_eq_getElem hj] at hlow
        cases hlow
        simp [isAsciiHexdigit, hl]
  · left
    obtain ⟨hlength, hall⟩ := not_or.mp hguard
    have hlength := not_not.mp hlength
    have hcode : ∀ j, j < 64 → ∃ code n, (utf8 (trim raw))[j]? = some code ∧
        Hex.value code = some n := by
      intro j hj
      have hlt : j < (utf8 (trim raw)).length := hlength ▸ hj
      obtain ⟨n, hn⟩ := Option.isSome_iff_exists.mp
        (List.all_eq_true.mp (eq_true_of_ne_false hall) _ (List.getElem_mem hlt))
      exact ⟨_, n, List.getElem?_eq_getElem hlt, hn⟩
    choose high h hhigh hh using fun index : Fin 32 => hcode (2 * index.val) (by omega)
    choose low l hlow hl using fun index : Fin 32 => hcode (2 * index.val + 1) (by omega)
    have hbyte : ∀ index, fingerprintByte (utf8 (trim raw)) index = some (h index * 16 + l index) :=
      fun index => fingerprintByte_eq (hhigh index) (hlow index) (hh index) (hl index)
    refine ⟨Vector.ofFn fun index => h index * 16 + l index, ?_,
      spells_iff.mpr ⟨hlength, fun index => ?_⟩⟩
    · unfold parseTlsFingerprint
      rw [if_neg hguard, dif_pos fun index => by rw [hbyte]; rfl]
      simp [hbyte]
    · obtain ⟨hdiv, hmod⟩ := byte_of_digits (Hex.value_lt (hh index)) (Hex.value_lt (hl index))
      refine ⟨high index, low index, hhigh index, hlow index, ?_, ?_⟩
      · simp [hdiv, hh]
      · simp [hmod, hl]

theorem tlsTrust_ok_iff :
    tlsTrust (some raw) = .ok (.pinned fingerprint) ↔ Spells raw fingerprint := by
  rcases parseTlsFingerprint_cases raw with ⟨parsed, hparse, hspells⟩ | ⟨hparse, hnone⟩
  · rw [tlsTrust, hparse]
    constructor
    · intro h
      cases h
      exact hspells
    · intro h
      rw [hspells.unique h]
      rfl
  · rw [tlsTrust, hparse]
    exact ⟨fun h => (by cases h), fun h => absurd h (hnone fingerprint)⟩

theorem verifyServerCert_ok_iff {expected : Vector UInt8 32} {certificate : Bytes} :
    verifyServerCert sha256 expected certificate = .ok () ↔ expected = sha256 certificate := by
  unfold verifyServerCert pinnedFingerprintMatches
  split
  · next h => exact ⟨fun _ => eq_of_beq h, fun _ => rfl⟩
  · next h => exact ⟨fun h' => (by cases h'), fun h' => absurd (beq_iff_eq.mpr h') h⟩

/-- A connect that fails over the pinned certificate pauses reconnecting. -/
theorem classifyPause_pin_mismatch {kind : TransportErrorKind} {text : String} {secure : Bool}
    (h : tlsPinMismatchError.toList <:+: text.toList) :
    classifyPause (classifyConnectError kind text secure) = some .configuration := by
  rw [classifyConnectError, if_pos (.inr (.inr h)), classifyPause, if_pos]
  simp [isTlsConfigurationError, h]

/-- A configured fingerprint is a pin or an error, and never the system roots. It is a pin exactly
when it spells one, and then the only certificates that pass are those whose digest it spells. What
fails for another certificate pauses reconnecting. -/
theorem configured_pin_enforced (sha256 : Bytes → Vector UInt8 32) (raw : String) :
    (∀ trust, tlsTrust (some raw) = .ok trust ↔
        ∃ fingerprint, trust = .pinned fingerprint ∧ Spells raw fingerprint) ∧
      (∀ reason, tlsTrust (some raw) = .error reason ↔
        reason = "Gateway TLS fingerprint must be 64 hexadecimal characters." ∧
          ∀ fingerprint, ¬ Spells raw fingerprint) ∧
      ∀ expected, tlsTrust (some raw) = .ok (.pinned expected) →
        ∀ certificate,
          (verifyServerCert sha256 expected certificate = .ok () ↔
            Spells raw (sha256 certificate)) ∧
          ∀ reason, verifyServerCert sha256 expected certificate = .error reason →
            ∀ kind text secure, reason.toList <:+: text.toList →
              classifyPause (classifyConnectError kind text secure) = some .configuration := by
  refine ⟨fun trust => ?_, fun reason => ?_, fun expected hok certificate => ⟨?_, ?_⟩⟩
  · cases trust with
    | systemRoots =>
      refine ⟨fun h => ?_, fun ⟨_, h, _⟩ => (by cases h)⟩
      rw [tlsTrust] at h
      rcases parseTlsFingerprint_cases raw with ⟨_, hparse, _⟩ | ⟨hparse, _⟩ <;>
        · rw [hparse] at h
          cases h
    | pinned fingerprint =>
      rw [tlsTrust_ok_iff]
      refine ⟨fun h => ⟨fingerprint, rfl, h⟩, ?_⟩
      rintro ⟨_, heq, h⟩
      cases heq
      exact h
  · rcases parseTlsFingerprint_cases raw with ⟨parsed, hparse, hspells⟩ | ⟨hparse, hnone⟩
    · rw [tlsTrust, hparse]
      exact ⟨fun h => (by cases h), fun h => absurd hspells (h.2 parsed)⟩
    · rw [tlsTrust, hparse]
      refine ⟨fun h => ?_, fun h => by rw [h.1]; rfl⟩
      cases h
      exact ⟨rfl, hnone⟩
  · have hspells := tlsTrust_ok_iff.mp hok
    rw [verifyServerCert_ok_iff]
    exact ⟨fun h => h ▸ hspells, fun h => hspells.unique h⟩
  · intro reason hreason kind text secure htext
    unfold verifyServerCert at hreason
    split at hreason
    · cases hreason
    · cases hreason
      exact classifyPause_pin_mismatch htext

/-- A digest that is one byte over and over, the first of the certificate. -/
def firstByteDigest (certificate : Bytes) : Vector UInt8 32 :=
  Vector.replicate 32 (certificate.headD 0)

/-- A fingerprint of one byte, over and over, in upper case and between blanks. -/
def repeatedPin : String :=
  " ABABABABABABABABABABABABABABABABABABABABABABABABABABABABABABABAB\n"

theorem repeated_pin_enforced :
    tlsTrust (some repeatedPin) = .ok (.pinned (Vector.replicate 32 0xab)) ∧
      verifyServerCert firstByteDigest (Vector.replicate 32 0xab) [0xab, 1] = .ok () := by
  have htrust : tlsTrust (some repeatedPin) = .ok (.pinned (Vector.replicate 32 0xab)) :=
    tlsTrust_ok_iff.mpr (by unfold Spells; decide +kernel)
  exact ⟨htrust,
    ((configured_pin_enforced firstByteDigest repeatedPin).2.2 _ htrust [0xab, 1]).1.mpr
      (tlsTrust_ok_iff.mp htrust)⟩

end OpenclawNode.Node
