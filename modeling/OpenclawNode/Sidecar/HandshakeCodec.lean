import OpenclawNode.Base.Within
import OpenclawNode.Base.SplitWords
import OpenclawNode.Gateway.FrameDecoding
import OpenclawNode.Sidecar.Handshake
import OpenclawNode.Sidecar.MessageCodec

/-! How the handshake messages are read, and what a peer of another version may add to them. -/
namespace OpenclawNode.Sidecar

open BigEndian (Bytes)
open BoundedWriter (Codec)
open Gateway (looseFields looseFields_object)
open Json (MembersWithin Value asString asU16 asU32 asU64 asUnitVariant find_of_filter
  readText required splitTag)
open Text (fromUtf8 fromUtf8_eq_some utf8)

def SidecarPeerRole.all : List SidecarPeerRole := [.supervisor, .runtime]

def SidecarPeerRole.ofName (name : String) : Option SidecarPeerRole := all.find? (·.name = name)

namespace SidecarPeerIdentity

def fields : List String := ["role", "name", "version", "artifactIdentity"]

def fromContent (v : Value) : Option SidecarPeerIdentity := do
  let field ← looseFields fields v
  let role ← required (asUnitVariant SidecarPeerRole.ofName) (field "role")
  let name ← required asString (field "name")
  let version ← required asString (field "version")
  let artifactIdentity ← required asString (field "artifactIdentity")
  return { role, name, version, artifactIdentity }

def toValue (peer : SidecarPeerIdentity) : Value :=
  .object [("role", .string peer.role.name), ("name", .string peer.name),
    ("version", .string peer.version), ("artifactIdentity", .string peer.artifactIdentity)]

end SidecarPeerIdentity

namespace SidecarLimits

def fields : List String := ["maxFrameBytes", "maxInFlight", "bootstrapTimeoutMs"]

def fromContent (v : Value) : Option SidecarLimits := do
  let field ← looseFields fields v
  let maxFrameBytes ← required asU32 (field "maxFrameBytes")
  let maxInFlight ← required asU16 (field "maxInFlight")
  let bootstrapTimeoutMs ← required asU32 (field "bootstrapTimeoutMs")
  return { maxFrameBytes, maxInFlight, bootstrapTimeoutMs }

def toValue (limits : SidecarLimits) : Value :=
  .object [("maxFrameBytes", intValue limits.maxFrameBytes.toUInt64),
    ("maxInFlight", intValue limits.maxInFlight.toUInt64),
    ("bootstrapTimeoutMs", intValue limits.bootstrapTimeoutMs.toUInt64)]

end SidecarLimits

namespace SidecarProtocolOffer

def fields : List String := ["protocolMajor", "protocolMinor", "peer", "featureBits", "limits"]

def fromContent (v : Value) : Option SidecarProtocolOffer := do
  let field ← looseFields fields v
  let protocolMajor ← required asU16 (field "protocolMajor")
  let protocolMinor ← required asU16 (field "protocolMinor")
  let peer ← required SidecarPeerIdentity.fromContent (field "peer")
  let featureBits ← required asU64 (field "featureBits")
  let limits ← required SidecarLimits.fromContent (field "limits")
  return { protocolMajor, protocolMinor, peer, featureBits, limits }

def toValue (offer : SidecarProtocolOffer) : Value :=
  .object [("protocolMajor", intValue offer.protocolMajor.toUInt64),
    ("protocolMinor", intValue offer.protocolMinor.toUInt64), ("peer", offer.peer.toValue),
    ("featureBits", intValue offer.featureBits), ("limits", offer.limits.toValue)]

end SidecarProtocolOffer

namespace SidecarProtocolSelection

def fields : List String := ["protocolMajor", "protocolMinor", "featureBits", "limits"]

def fromContent (v : Value) : Option SidecarProtocolSelection := do
  let field ← looseFields fields v
  let protocolMajor ← required asU16 (field "protocolMajor")
  let protocolMinor ← required asU16 (field "protocolMinor")
  let featureBits ← required asU64 (field "featureBits")
  let limits ← required SidecarLimits.fromContent (field "limits")
  return { protocolMajor, protocolMinor, featureBits, limits }

def toValue (selection : SidecarProtocolSelection) : Value :=
  .object [("protocolMajor", intValue selection.protocolMajor.toUInt64),
    ("protocolMinor", intValue selection.protocolMinor.toUInt64),
    ("featureBits", intValue selection.featureBits), ("limits", selection.limits.toValue)]

end SidecarProtocolSelection

namespace SidecarHandshakeMessage

/-- The fields of each variant beside the tag. -/
def fields : SidecarHandshakeMessage → List String
  | .offer _ => ["offer"]
  | .accept _ _ => ["offer", "selection"]

/-- The type of a message is read from the text itself, so only by its name. -/
def fromContent (v : Value) : Option SidecarHandshakeMessage := do
  let (tag, content) ← splitTag "type" v
  let variant ← asString tag
  if variant = "offer" then
    let field ← looseFields ["offer"] content
    let offer ← required SidecarProtocolOffer.fromContent (field "offer")
    return .offer offer
  else if variant = "accept" then
    let field ← looseFields ["offer", "selection"] content
    let offer ← required SidecarProtocolOffer.fromContent (field "offer")
    let selection ← required SidecarProtocolSelection.fromContent (field "selection")
    return .accept offer selection
  else none

def toValue : SidecarHandshakeMessage → Value
  | .offer localOffer => .object [("type", .string "offer"), ("offer", localOffer.toValue)]
  | .accept localOffer selection =>
    .object [("type", .string "accept"), ("offer", localOffer.toValue),
      ("selection", selection.toValue)]

/-- Read a message from a text. How doubles are read is a parameter. -/
def fromStr (readDouble : List Char → Option Json.Double) (text : String) :
    Option SidecarHandshakeMessage :=
  (readText readDouble text).bind fromContent

/-- How the messages are written to a frame and read from its payload. The whole payload is read
before a variant is chosen, so that bytes that are no text are refused wherever they are. -/
def codec (readDouble : List Char → Option Json.Double) : Codec SidecarHandshakeMessage where
  serialize := serialize
  deserialize bytes := (fromUtf8 bytes).bind (fromStr readDouble)

end SidecarHandshakeMessage

section

variable {members others : List (String × Value)}

/-- The fields of a struct that are all there among other members. -/
theorem looseFields_within {names : List String} (h : MembersWithin members others)
    (hn : members.map Prod.fst = names) : ∃ field,
    looseFields names (.object others) = some field ∧
    ∀ m ∈ members, ∃ other, field m.1 = some other ∧ m.2.Within other := by
  refine ⟨_, looseFields_object.mpr ⟨?_, rfl⟩, ?_⟩
  · intro name hname
    obtain ⟨⟨_, value⟩, hm, rfl⟩ := List.mem_map.mp (hn ▸ hname)
    obtain ⟨other, hother, -⟩ := h.mem hm
    rw [hother]
    exact le_rfl
  · intro m hm
    obtain ⟨other, hother, hvalue⟩ := h.mem hm
    exact ⟨other, by rw [find_of_filter hother]; rfl, hvalue⟩

/-- The tag and what is left beside it. -/
theorem splitTag_within {tag name : String}
    (h : MembersWithin ((tag, .string name) :: members) others)
    (htag : tag ∉ members.map Prod.fst) : ∃ content,
    splitTag tag (.object others) = some (.string name, .object content) ∧
      MembersWithin members content := by
  obtain ⟨⟨other, hother, rfl⟩, hrest⟩ := h
  refine ⟨others.filter (·.1 ≠ tag), by rw [splitTag, hother], hrest.congr ?_⟩
  intro field hfield
  rw [List.filter_filter]
  refine List.filter_congr fun m _ => ?_
  have hne : m.1 = field → m.1 ≠ tag := fun he ht => htag (ht ▸ he ▸ hfield)
  by_cases he : m.1 = field
  · simpa [he] using hne he
  · simp [he]

end

theorem posInt_eq_intValue (n : UInt64) : Value.number (.posInt n) = intValue n := rfl

theorem asU64_intValue (n : UInt64) : asU64 (intValue n) = some n := rfl

theorem SidecarPeerRole.ofName_name (role : SidecarPeerRole) : ofName role.name = some role := by
  cases role <;> decide

section

variable {v : Value}

theorem SidecarPeerIdentity.fromContent_within {peer : SidecarPeerIdentity}
    (h : peer.toValue.Within v) : fromContent v = some peer := by
  obtain ⟨others, rfl, hmembers⟩ := h
  obtain ⟨field, hfield, hall⟩ := @looseFields_within _ _ fields hmembers rfl
  simp only [List.forall_mem_cons] at hall
  obtain ⟨⟨_, hrole, rfl⟩, ⟨_, hname, rfl⟩, ⟨_, hversion, rfl⟩,
    ⟨_, hartifact, rfl⟩, -⟩ := hall
  have hnamed : asUnitVariant SidecarPeerRole.ofName (.string peer.role.name) = some peer.role :=
    SidecarPeerRole.ofName_name peer.role
  simp [fromContent, hfield, hrole, hname, hversion, hartifact, required, hnamed, asString]

theorem SidecarLimits.fromContent_within {limits : SidecarLimits}
    (h : limits.toValue.Within v) : fromContent v = some limits := by
  obtain ⟨others, rfl, hmembers⟩ := h
  obtain ⟨field, hfield, hall⟩ := @looseFields_within _ _ fields hmembers rfl
  simp only [List.forall_mem_cons] at hall
  obtain ⟨⟨_, hframe, rfl⟩, ⟨_, hflight, rfl⟩, ⟨_, htimeout, rfl⟩, -⟩ := hall
  simp [fromContent, hfield, hframe, hflight, htimeout, required, posInt_eq_intValue,
    asU32_intValue, asU16_intValue]

theorem SidecarProtocolOffer.fromContent_within {offer : SidecarProtocolOffer}
    (h : offer.toValue.Within v) : fromContent v = some offer := by
  obtain ⟨others, rfl, hmembers⟩ := h
  obtain ⟨field, hfield, hall⟩ := @looseFields_within _ _ fields hmembers rfl
  simp only [List.forall_mem_cons] at hall
  obtain ⟨⟨_, hmajor, rfl⟩, ⟨_, hminor, rfl⟩, ⟨_, hpeer, hidentity⟩, ⟨_, hbits, rfl⟩,
    ⟨_, hlimits, hbounds⟩, -⟩ := hall
  simp [fromContent, hfield, hmajor, hminor, hpeer, hbits, hlimits, required, posInt_eq_intValue,
    asU16_intValue, asU64_intValue,
    SidecarPeerIdentity.fromContent_within hidentity, SidecarLimits.fromContent_within hbounds]

theorem SidecarProtocolSelection.fromContent_within {selection : SidecarProtocolSelection}
    (h : selection.toValue.Within v) : fromContent v = some selection := by
  obtain ⟨others, rfl, hmembers⟩ := h
  obtain ⟨field, hfield, hall⟩ := @looseFields_within _ _ fields hmembers rfl
  simp only [List.forall_mem_cons] at hall
  obtain ⟨⟨_, hmajor, rfl⟩, ⟨_, hminor, rfl⟩, ⟨_, hbits, rfl⟩,
    ⟨_, hlimits, hbounds⟩, -⟩ := hall
  simp [fromContent, hfield, hmajor, hminor, hbits, hlimits, required, posInt_eq_intValue,
    asU16_intValue, asU64_intValue, SidecarLimits.fromContent_within hbounds]

namespace SidecarHandshakeMessage

variable {message : SidecarHandshakeMessage}

/-- Whatever has all of the value that a message is written from is read as the message. -/
theorem fromContent_within (h : message.toValue.Within v) : fromContent v = some message := by
  cases message with
  | offer localOffer =>
    obtain ⟨others, rfl, hmembers⟩ := h
    obtain ⟨content, hsplit, hcontent⟩ := splitTag_within hmembers (by simp)
    obtain ⟨field, hfield, hall⟩ := @looseFields_within _ _ ["offer"] hcontent rfl
    simp only [List.forall_mem_cons] at hall
    obtain ⟨⟨_, hoffer, hwithin⟩, -⟩ := hall
    simp [fromContent, hsplit, asString, hfield, hoffer, required,
      SidecarProtocolOffer.fromContent_within hwithin]
  | accept localOffer selection =>
    obtain ⟨others, rfl, hmembers⟩ := h
    obtain ⟨content, hsplit, hcontent⟩ := splitTag_within hmembers (by simp)
    obtain ⟨field, hfield, hall⟩ := @looseFields_within _ _ ["offer", "selection"] hcontent rfl
    simp only [List.forall_mem_cons] at hall
    obtain ⟨⟨_, hoffer, hwithin⟩, ⟨_, hselection, hselected⟩, -⟩ := hall
    simp [fromContent, hsplit, asString, hfield, hoffer, hselection, required,
      SidecarProtocolOffer.fromContent_within hwithin,
      SidecarProtocolSelection.fromContent_within hselected]

theorem serialize_eq (formatDouble : Json.Double → String) (message : SidecarHandshakeMessage) :
    message.serialize = message.toValue.serialize formatDouble := by
  cases message <;> rfl

theorem exact_toValue (message : SidecarHandshakeMessage) :
    message.toValue.Forall Json.Number.Exact List.Nodup := by
  cases message <;> simp [toValue, SidecarProtocolOffer.toValue, SidecarPeerIdentity.toValue,
    SidecarLimits.toValue, SidecarProtocolSelection.toValue, intValue, Value.Forall,
    Json.ForallMembers, Json.Number.Exact]

theorem depth_toValue (message : SidecarHandshakeMessage) :
    message.toValue.depth ≤ Json.recursionLimit := by
  cases message <;> simp [toValue, SidecarProtocolOffer.toValue, SidecarPeerIdentity.toValue,
    SidecarLimits.toValue, SidecarProtocolSelection.toValue, intValue, Value.depth,
    Json.depthMembers, Json.recursionLimit]

/-- Every message is written, and what is written of it is read back. -/
theorem written_read (readDouble : List Char → Option Json.Double)
    (message : SidecarHandshakeMessage) :
    message.serialize.failed = false ∧
      (codec readDouble).deserialize message.serialize.output = some message := by
  have hprints : Json.Prints message.serialize (message.toValue.text noDoubleText) :=
    serialize_eq noDoubleText message ▸ Value.prints message.toValue
  refine ⟨hprints.failed, ?_⟩
  have htext := fromUtf8_eq_some.mpr hprints.output.symm
  show (fromUtf8 message.serialize.output).bind (fromStr readDouble) = some message
  rw [htext, Option.bind_some, fromStr, Json.readText_text message.exact_toValue,
    if_pos message.depth_toValue, Option.bind_some]
  exact fromContent_within (Value.Within.refl _ message.exact_toValue)

end SidecarHandshakeMessage

end

section

variable {members : List (String × Value)} {field : String → Option Value} {names : List String}

/-- A field that must be there comes once. -/
theorem length_of_required {α : Type} {decode : Value → Option α} {name : String} {a : α}
    (h : looseFields names (.object members) = some field) (hname : name ∈ names)
    (hr : required decode (field name) = some a) : (members.filter (·.1 = name)).length = 1 := by
  obtain ⟨hone, rfl⟩ := looseFields_object.mp h
  obtain ⟨value, hvalue, -⟩ := Json.required_eq_some.mp hr
  obtain ⟨m, hm, -⟩ := Option.map_eq_some_iff.mp hvalue
  have hnamed := List.find?_some hm
  have hmem : m ∈ members.filter (·.1 = name) :=
    List.mem_filter.mpr ⟨List.mem_of_find?_eq_some hm, hnamed⟩
  have hpos := List.length_pos_of_mem hmem
  have hle := hone name hname
  omega

theorem splitTag_object_eq_some {tag : String} {value content : Value}
    (h : splitTag tag (.object members) = some (value, content)) :
    (members.filter (·.1 = tag)).length = 1 ∧
      content = .object (members.filter (·.1 ≠ tag)) := by
  rw [splitTag] at h
  split at h
  · next hfound =>
    cases h
    exact ⟨by rw [hfound]; rfl, rfl⟩
  · cases h

/-- No member of a message that is read comes twice. -/
theorem SidecarHandshakeMessage.fields_once {message : SidecarHandshakeMessage}
    (h : fromContent (.object members) = some message) :
    ∀ name ∈ "type" :: message.fields, (members.filter (·.1 = name)).length = 1 := by
  obtain ⟨⟨tag, content⟩, hsplit, h⟩ := Option.bind_eq_some_iff.mp h
  obtain ⟨htag, rfl⟩ := splitTag_object_eq_some hsplit
  obtain ⟨variant, -, h⟩ := Option.bind_eq_some_iff.mp h
  have hbeside : ∀ name ≠ "type", ((members.filter (·.1 ≠ "type")).filter
      (·.1 = name)).length = (members.filter (·.1 = name)).length := fun name hname => by
    rw [(Gateway.find_beside_tag hname).2]
  split at h
  · obtain ⟨field, hfield, h⟩ := Option.bind_eq_some_iff.mp h
    obtain ⟨localOffer, hoffer, h⟩ := Option.bind_eq_some_iff.mp h
    cases h
    intro name hname
    rcases List.mem_cons.mp hname with rfl | hname
    · exact htag
    · obtain rfl := List.mem_singleton.mp hname
      rw [← hbeside "offer" (by decide)]
      exact length_of_required hfield (by simp) hoffer
  · split at h
    · obtain ⟨field, hfield, h⟩ := Option.bind_eq_some_iff.mp h
      obtain ⟨localOffer, hoffer, h⟩ := Option.bind_eq_some_iff.mp h
      obtain ⟨selection, hselection, h⟩ := Option.bind_eq_some_iff.mp h
      cases h
      intro name hname
      simp only [SidecarHandshakeMessage.fields, List.mem_cons, List.not_mem_nil, or_false] at hname
      rcases hname with rfl | rfl | rfl
      · exact htag
      · rw [← hbeside "offer" (by decide)]
        exact length_of_required hfield (by simp) hoffer
      · rw [← hbeside "selection" (by decide)]
        exact length_of_required hfield (by simp) hselection
    · cases h

end

/-- The handshake messages as they are on the wire: each is written and read back as it was. A
peer may send its members in any order and add others of new names at every level, and the message
is read as without them. A message that is read has each of its own members once. -/
theorem handshake_codec (readDouble : List Char → Option Json.Double) :
    (∀ message : SidecarHandshakeMessage, message.serialize.failed = false ∧
      (SidecarHandshakeMessage.codec readDouble).deserialize message.serialize.output =
        some message) ∧
    (∀ (message : SidecarHandshakeMessage) (text : String) (v : Value),
      readText readDouble text = some v → message.toValue.Within v →
      (SidecarHandshakeMessage.codec readDouble).deserialize (utf8 text) = some message) ∧
    (∀ (message : SidecarHandshakeMessage) (text : String) (members : List (String × Value)),
      readText readDouble text = some (.object members) →
      (SidecarHandshakeMessage.codec readDouble).deserialize (utf8 text) = some message →
      ∀ name ∈ "type" :: message.fields, (members.filter (·.1 = name)).length = 1) := by
  have hdeserialize : ∀ text, (SidecarHandshakeMessage.codec readDouble).deserialize (utf8 text) =
      (readText readDouble text).bind SidecarHandshakeMessage.fromContent := by
    intro text
    show (fromUtf8 (utf8 text)).bind (SidecarHandshakeMessage.fromStr readDouble) = _
    rw [fromUtf8_eq_some.mpr rfl, Option.bind_some, SidecarHandshakeMessage.fromStr]
  refine ⟨SidecarHandshakeMessage.written_read readDouble, ?_, ?_⟩
  · intro message text v hread hwithin
    rw [hdeserialize, hread, Option.bind_some]
    exact SidecarHandshakeMessage.fromContent_within hwithin
  · intro message text members hread hmessage
    rw [hdeserialize, hread, Option.bind_some] at hmessage
    exact SidecarHandshakeMessage.fields_once hmessage

end OpenclawNode.Sidecar
