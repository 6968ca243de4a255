import OpenclawNode.Base.Delimited
import OpenclawNode.Node.Identity

/-! What the text of a signed payload tells of the fields it was joined from. -/
namespace OpenclawNode.Node

variable {keys : KeyOperations} {publicKey publicKey' : Vector UInt8 32}
  {nonce nonce' platform platform' : String}
  {deviceFamily deviceFamily' signatureToken signatureToken' : Option String}
  {signedAt signedAt' : UInt64} {request request' : DeviceSigningRequest}

theorem digitChar_ne_bar {n : Nat} (h : n < 16) : Nat.digitChar n ≠ '|' := by
  have hall : ∀ k : Fin 16, Nat.digitChar k.val ≠ '|' := by decide
  exact hall ⟨n, h⟩

theorem bar_notMem_hexByte (b : UInt8) : '|' ∉ hexByte b := by
  have hb := b.toNat_lt
  intro h
  obtain h | h := List.mem_pair.mp h
  · exact digitChar_ne_bar (by omega) h.symm
  · exact digitChar_ne_bar (by omega) h.symm

theorem bar_notMem_deviceId (keys : KeyOperations) (publicKey : Vector UInt8 32) :
    '|' ∉ (deviceIdFromPublicKey keys publicKey).toList := by
  rw [deviceIdFromPublicKey, String.toList_ofList, List.mem_flatMap]
  rintro ⟨b, _, hb⟩
  exact bar_notMem_hexByte b hb

theorem bar_notMem_repr (n : Nat) : '|' ∉ (Nat.repr n).toList := by
  rw [Nat.toList_repr]
  intro h
  exact absurd (Nat.isDigit_of_mem_toDigits (by omega) (by omega) h) (by decide)

theorem repr_injective {m n : Nat} (h : Nat.repr m = Nat.repr n) : m = n := by
  have hdigits := congrArg String.toList h
  rw [Nat.toList_repr, Nat.toList_repr] at hdigits
  have hm := Nat.ofDigitChars_ten_toDigits (n := m)
  rw [hdigits, Nat.ofDigitChars_ten_toDigits] at hm
  exact hm.symm

/-- The fields in front of the supplied ones. -/
def leadingFields (deviceId : String) (signedAt : UInt64) : List String :=
  ["v3", deviceId, "node-host", "node", "node", "", Nat.repr signedAt.toNat]

theorem bar_notMem_leadingFields {field : List Char}
    (h : field ∈ (leadingFields (deviceIdFromPublicKey keys publicKey) signedAt).map
      String.toList) : '|' ∉ field := by
  rw [leadingFields] at h
  simp only [List.map_cons, List.map_nil, List.mem_cons, List.not_mem_nil, or_false] at h
  obtain rfl | rfl | rfl | rfl | rfl | rfl | rfl := h
  · decide
  · exact bar_notMem_deviceId keys publicKey
  · decide
  · decide
  · decide
  · decide
  · exact bar_notMem_repr _

/-- A request that is built holds the device id, the time, the nonce and the joined fields. -/
theorem newAt_eq_ok (h : DeviceSigningRequest.newAt keys publicKey nonce platform deviceFamily
    signatureToken signedAt = .ok request) :
    request.deviceId = deviceIdFromPublicKey keys publicKey ∧ request.signedAt = signedAt ∧
      request.nonce = nonce ∧
      request.payload = "|".intercalate (leadingFields request.deviceId signedAt ++
        suppliedFields nonce platform deviceFamily signatureToken) := by
  rw [DeviceSigningRequest.newAt] at h
  split at h
  · cases h
    exact ⟨rfl, rfl, rfl, rfl⟩
  · cases h

/-- One payload text has one device id and one time, and joins one text of supplied fields. -/
theorem supplied_eq_of_payload_eq
    (h : DeviceSigningRequest.newAt keys publicKey nonce platform deviceFamily signatureToken
      signedAt = .ok request)
    (h' : DeviceSigningRequest.newAt keys publicKey' nonce' platform' deviceFamily' signatureToken'
      signedAt' = .ok request')
    (hpayload : request.payload = request'.payload) :
    request.deviceId = request'.deviceId ∧ signedAt = signedAt' ∧
      ['|'].intercalate ((suppliedFields nonce platform deviceFamily signatureToken).map
        String.toList) =
      ['|'].intercalate ((suppliedFields nonce' platform' deviceFamily' signatureToken').map
        String.toList) := by
  obtain ⟨hid, _, _, htext⟩ := newAt_eq_ok h
  obtain ⟨hid', _, _, htext'⟩ := newAt_eq_ok h'
  rw [htext, htext'] at hpayload
  have hchars := congrArg String.toList hpayload
  rw [String.toList_intercalate, String.toList_intercalate, List.map_append, List.map_append]
    at hchars
  have hfree : ∀ f ∈ (leadingFields request.deviceId signedAt).map String.toList, '|' ∉ f := by
    rw [hid]
    exact fun f => bar_notMem_leadingFields
  have hfree' : ∀ f ∈ (leadingFields request'.deviceId signedAt').map String.toList, '|' ∉ f := by
    rw [hid']
    exact fun f => bar_notMem_leadingFields
  have hlength : ((leadingFields request.deviceId signedAt).map String.toList).length =
      ((leadingFields request'.deviceId signedAt').map String.toList).length := rfl
  obtain ⟨hleading, hsupplied⟩ := Delimited.front_eq hlength hfree hfree' (List.cons_ne_nil _ _)
    (List.cons_ne_nil _ _) hchars
  have hfields := List.map_injective_iff.mpr (fun _ _ => String.toList_inj.mp) hleading
  simp only [leadingFields, List.cons.injEq, true_and, and_true] at hfields
  exact ⟨hfields.1, UInt64.toNat_inj.mp (repr_injective hfields.2), hsupplied⟩

/-- How many separators each supplied field holds. -/
def barCounts (nonce platform : String) (deviceFamily signatureToken : Option String) : List Nat :=
  (suppliedFields nonce platform deviceFamily signatureToken).map (·.toList.count '|')

/-- Two requests with one payload text are for one device and one time. They are for one token,
nonce, platform and family as well when at most one of these four differs in how many separators it
holds. -/
theorem fields_eq_of_payload_eq
    (h : DeviceSigningRequest.newAt keys publicKey nonce platform deviceFamily signatureToken
      signedAt = .ok request)
    (h' : DeviceSigningRequest.newAt keys publicKey' nonce' platform' deviceFamily' signatureToken'
      signedAt' = .ok request')
    (hpayload : request.payload = request'.payload) :
    request.deviceId = request'.deviceId ∧ signedAt = signedAt' ∧
      ((∃ i : Nat, ∀ j, j ≠ i → (barCounts nonce platform deviceFamily signatureToken)[j]? =
          (barCounts nonce' platform' deviceFamily' signatureToken')[j]?) →
        signatureToken.getD "" = signatureToken'.getD "" ∧ nonce = nonce' ∧
          normalizeMetadata platform = normalizeMetadata platform' ∧
          normalizeMetadata (deviceFamily.getD "") =
            normalizeMetadata (deviceFamily'.getD "")) := by
  obtain ⟨hid, htime, hsupplied⟩ := supplied_eq_of_payload_eq h h' hpayload
  refine ⟨hid, htime, ?_⟩
  rintro ⟨i, hi⟩
  have hcount : ∀ j, j ≠ i →
      (((suppliedFields nonce platform deviceFamily signatureToken).map String.toList).map
        (List.count '|'))[j]? =
      (((suppliedFields nonce' platform' deviceFamily' signatureToken').map String.toList).map
        (List.count '|'))[j]? := by
    intro j hj
    rw [List.map_map, List.map_map]
    exact hi j hj
  have hne : (suppliedFields nonce platform deviceFamily signatureToken).map String.toList ≠ [] :=
    List.cons_ne_nil _ _
  have hlength : ((suppliedFields nonce platform deviceFamily signatureToken).map
      String.toList).length =
      ((suppliedFields nonce' platform' deviceFamily' signatureToken').map String.toList).length :=
    rfl
  have hfields := List.map_injective_iff.mpr (fun _ _ => String.toList_inj.mp)
    (Delimited.fields_eq_of_all_but_one hlength hne hcount hsupplied)
  simpa only [suppliedFields, List.cons.injEq, and_true] using hfields

/-- The URL-safe alphabet. -/
def base64Alphabet : List Char :=
  "ABCDEFGHIJKLMNOPQRSTUVWXYZabcdefghijklmnopqrstuvwxyz0123456789-_".toList

/-- The digits of bytes in base 64, without padding. -/
def base64Digits : List UInt8 → List Nat
  | a :: b :: c :: rest =>
    let n := a.toNat * 65536 + b.toNat * 256 + c.toNat
    [n / 262144, n / 4096 % 64, n / 64 % 64, n % 64] ++ base64Digits rest
  | [a, b] =>
    let n := a.toNat * 1024 + b.toNat * 4
    [n / 4096, n / 64 % 64, n % 64]
  | [a] => [a.toNat / 4, a.toNat % 4 * 16]
  | [] => []

/-- Ed25519 and SHA-256 on a few test inputs: the secret of 32 sevens, two messages that are signed
with it, its public key, and the public key of 32 zeros. -/
def vectorKeys : KeyOperations where
  isVerifyingKey _ := true
  verifyingKey _ :=
    (#v[234, 74, 108, 99, 226, 156, 82, 10, 190, 245, 80, 123, 19, 46, 197, 249, 149, 71, 118, 174,
      190, 190, 123, 146, 66, 30, 234, 105, 20, 70, 210, 44])
  sign _ message :=
    if message = Text.utf8 ("v3|fe812c12f3ab4ce6ac5db69ac352f906cb1b11ef43fb33e252ef7ff552263889" ++
        "|node-host|node|node||1||first|macos|") then
      (#v[19, 163, 74, 210, 195, 134, 140, 78, 8, 237, 88, 41, 200, 248, 163, 8, 141, 9, 11, 250,
        177, 55, 238, 110, 226, 198, 147, 253, 255, 163, 223, 41, 28, 134, 54, 194, 181, 253, 173,
        14, 44, 153, 2, 146, 79, 149, 154, 168, 131, 150, 117, 16, 76, 164, 240, 115, 108, 22, 141,
        4, 6, 165, 26, 2])
    else
      (#v[90, 103, 240, 17, 254, 188, 144, 8, 244, 189, 204, 230, 208, 103, 69, 115, 95, 136, 7,
        221, 206, 33, 32, 188, 143, 225, 96, 167, 227, 231, 213, 89, 140, 114, 225, 250, 242, 200,
        32, 81, 203, 77, 212, 110, 115, 213, 198, 188, 0, 124, 153, 181, 28, 254, 121, 248, 146,
        29, 83, 0, 25, 79, 10, 1])
  verify _ _ _ := true
  sha256 publicKey :=
    if publicKey = Vector.replicate 32 0 then
      (#v[102, 104, 122, 173, 248, 98, 189, 119, 108, 143, 193, 139, 142, 159, 142, 32, 8, 151, 20,
        133, 110, 226, 51, 179, 144, 42, 89, 29, 13, 95, 41, 37])
    else
      (#v[254, 129, 44, 18, 243, 171, 76, 230, 172, 93, 182, 154, 195, 82, 249, 6, 203, 27, 17, 239,
        67, 251, 51, 226, 82, 239, 127, 245, 82, 38, 56, 137])
  base64 bytes := String.ofList ((base64Digits bytes).map (base64Alphabet.getD · 'A'))

theorem fields_eq_of_payload_eq_linux :
    normalizeMetadata " Linux" = normalizeMetadata "linux" :=
  have hcounts : barCounts "n" " Linux" none (some "t") = barCounts "n" "linux" none (some "t") :=
    by decide +kernel
  have h := @fields_eq_of_payload_eq vectorKeys (Vector.replicate 32 0) (Vector.replicate 32 0)
    "n" "n" " Linux" "linux" none none (some "t") (some "t") 0 0 _ _ rfl rfl (by decide +kernel)
  (h.2.2 ⟨0, fun _ _ => by rw [hcounts]⟩).2.2.1

/-- A bar in the token of one request and in the nonce of the other gives one text for both. -/
theorem not_fields_eq_of_payload_eq :
    ¬ ∀ (keys : KeyOperations) (publicKey publicKey' : Vector UInt8 32)
      (nonce nonce' platform platform' : String)
      (deviceFamily deviceFamily' signatureToken signatureToken' : Option String)
      (signedAt signedAt' : UInt64) (request request' : DeviceSigningRequest),
      DeviceSigningRequest.newAt keys publicKey nonce platform deviceFamily signatureToken
        signedAt = .ok request →
      DeviceSigningRequest.newAt keys publicKey' nonce' platform' deviceFamily' signatureToken'
        signedAt' = .ok request' →
      request.payload = request'.payload →
      request.deviceId = request'.deviceId ∧ signedAt = signedAt' ∧
        signatureToken.getD "" = signatureToken'.getD "" ∧ nonce = nonce' ∧
        normalizeMetadata platform = normalizeMetadata platform' ∧
        normalizeMetadata (deviceFamily.getD "") = normalizeMetadata (deviceFamily'.getD "") := by
  intro h
  have hnonce := (h vectorKeys (Vector.replicate 32 0) (Vector.replicate 32 0) "m" "n|m" "linux"
    "linux" none none (some "t|n") (some "t") 0 0 _ _ rfl rfl (by decide +kernel)).2.2.2.1
  exact absurd hnonce (by decide)

end OpenclawNode.Node
