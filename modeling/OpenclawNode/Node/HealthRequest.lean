import Mathlib.Data.List.TakeWhile
import OpenclawNode.Base.Json
import OpenclawNode.Base.ReadUntil
import OpenclawNode.Base.Utf8Boundary
import OpenclawNode.Base.SplitWords

/-! The local health endpoint: reading a request line and answering it. -/
namespace OpenclawNode.Node

open BigEndian (Bytes)
open Chunks (ReadError readUntil)
open Json (Value)
open Text (fromUtf8 fromUtf8_eq_some utf8)

def newline : UInt8 := 10

def healthRequestBytes : Nat := 4096

structure HealthResponse where
  status : String
  body : Value

def methodNotAllowed : HealthResponse :=
  ⟨"405 Method Not Allowed", .object [("error", .string "method not allowed")]⟩

def isAsciiWhitespace (c : Char) : Bool :=
  c == ' ' || c == '\t' || c == '\n' || c == '\x0c' || c == '\r'

/-- `split_ascii_whitespace`. -/
def splitAsciiWhitespace (line : List Char) : List (List Char) :=
  (line.splitOnP isAsciiWhitespace).filter (· ≠ [])

/-- A line without the carriage return in front of its end. -/
def stripReturn (line : List Char) : List Char :=
  if line.getLast? = some '\r' then line.dropLast else line

/-- `lines().next()`, and nothing of an empty text. -/
def firstLine (request : List Char) : List Char :=
  if '\n' ∈ request then stripReturn (request.takeWhile (· ≠ '\n')) else request

def healthResponse (ready : Bool) (method path : String) : HealthResponse :=
  match method, path with
  | "GET", "/healthz" => ⟨"200 OK", .object [("status", .string "ok")]⟩
  | "GET", "/readyz" =>
    if ready then ⟨"200 OK", .object [("ready", .bool true)]⟩
    else ⟨"503 Service Unavailable", .object [("ready", .bool false)]⟩
  | "GET", _ => ⟨"404 Not Found", .object [("error", .string "not found")]⟩
  | _, _ => methodNotAllowed

/-- The response to a first line. -/
def answerLine (ready : Bool) (line : List Char) : HealthResponse :=
  let parts := splitAsciiWhitespace line
  healthResponse ready (String.ofList (parts[0]?.getD [])) (String.ofList (parts[1]?.getD []))

/-- The response to what was read. Text that is not UTF-8 has no first line. -/
def answerRequest (ready : Bool) (request : Bytes) : HealthResponse :=
  answerLine ready (((fromUtf8 request).map fun text => firstLine text.toList).getD [])

inductive HealthError (ε : Type*)
  | timedOut
  | read (error : ReadError ε)
  deriving DecidableEq, Repr

/-- Bytes are read until a line has ended or the buffer is full. -/
def readRequestLine {ε : Type*} (pieces : List (Except ε Bytes)) :
    Option (Except (ReadError ε) Bytes) :=
  readUntil newline healthRequestBytes [] pieces

/-- The response to the pieces that arrive within two seconds. -/
def serveHealthRequest {ε : Type*} (ready : Bool) (pieces : List (Except ε Bytes)) :
    Except (HealthError ε) HealthResponse :=
  match readRequestLine pieces with
  | none => .error .timedOut
  | some (.error error) => .error (.read error)
  | some (.ok request) => .ok (answerRequest ready request)

namespace HealthResponse

variable (formatDouble : Json.Double → String)

def bodyBytes (r : HealthResponse) : Bytes := (r.body.serialize formatDouble).output

def headers (r : HealthResponse) : String :=
  "HTTP/1.1 " ++ r.status ++ "\r\nContent-Type: application/json\r\nContent-Length: " ++
    Nat.repr (r.bodyBytes formatDouble).length ++ "\r\nConnection: close\r\n\r\n"

/-- The bytes that are written to the socket. -/
def bytes (r : HealthResponse) : Bytes := utf8 (r.headers formatDouble) ++ r.bodyBytes formatDouble

end HealthResponse

/-- The response to a stream, from its first line alone. -/
def answerStream (ready : Bool) (stream : Bytes) : HealthResponse :=
  answerLine ready (((fromUtf8 (stream.takeWhile (· ≠ newline))).map fun text =>
    stripReturn text.toList).getD [])

/-- No character but the newline has its byte. -/
theorem mem_utf8EncodeChar {c : Char} (h : newline ∈ String.utf8EncodeChar c) : c = '\n' := by
  have hbyte : ∀ k : Nat, 128 ≤ k → k < 256 → UInt8.ofNat k ≠ newline := by
    intro k hk hlt heq
    have hnat := congrArg UInt8.toNat heq
    rw [UInt8.toNat_ofNat', Nat.mod_eq_of_lt hlt] at hnat
    change k = 10 at hnat
    omega
  have hc : c.val.toNat < 0x110000 := by
    have hvalid := c.valid
    rw [UInt32.isValidChar, Nat.isValidChar] at hvalid
    omega
  generalize hv : c.val.toNat = v at hc
  rw [String.utf8EncodeChar] at h
  simp only [hv] at h
  split at h
  · next hlt =>
    have hnat := congrArg UInt8.toNat (List.mem_singleton.mp h)
    rw [UInt8.toNat_ofNat', Nat.mod_eq_of_lt (by omega)] at hnat
    have hv : c.val.toNat = 10 := hv.trans hnat.symm
    exact Char.ext (UInt32.toNat_inj.mp hv)
  · exfalso
    split at h
    · simp only [List.mem_cons, List.not_mem_nil, or_false] at h
      rcases h with h | h
      · exact hbyte _ (by omega) (by omega) h.symm
      · exact hbyte _ (by omega) (by omega) h.symm
    · split at h
      · simp only [List.mem_cons, List.not_mem_nil, or_false] at h
        rcases h with h | h | h
        · exact hbyte _ (by omega) (by omega) h.symm
        · exact hbyte _ (by omega) (by omega) h.symm
        · exact hbyte _ (by omega) (by omega) h.symm
      · simp only [List.mem_cons, List.not_mem_nil, or_false] at h
        rcases h with h | h | h | h
        · exact hbyte _ (by omega) (by omega) h.symm
        · exact hbyte _ (by omega) (by omega) h.symm
        · exact hbyte _ (by omega) (by omega) h.symm
        · exact hbyte _ (by omega) (by omega) h.symm

theorem mem_encode {cs : List Char} : newline ∈ Utf8.encode cs ↔ '\n' ∈ cs := by
  rw [Utf8.encode, List.mem_flatMap]
  constructor
  · rintro ⟨c, hc, hb⟩
    exact mem_utf8EncodeChar hb ▸ hc
  · exact fun h => ⟨'\n', h, by decide⟩

/-- A line ends at the same place in the text and in its bytes. -/
theorem takeWhile_encode (cs : List Char) : (Utf8.encode cs).takeWhile (· ≠ newline) =
    Utf8.encode (cs.takeWhile (· ≠ '\n')) := by
  induction cs with
  | nil => rfl
  | cons c cs ih =>
    rw [Utf8.encode_cons]
    by_cases hc : c = '\n'
    · subst hc
      rfl
    · have hall : ∀ b ∈ String.utf8EncodeChar c, decide (b ≠ newline) = true := by
        intro b hb
        refine decide_eq_true fun heq => hc ?_
        exact mem_utf8EncodeChar (heq ▸ hb)
      rw [List.takeWhile_append_of_pos hall, ih]
      simp [hc, Utf8.encode_cons]

/-- Text with a line that has ended is answered for that line. -/
theorem answerRequest_of_text {ready : Bool} {request : Bytes} {text : String}
    (ht : fromUtf8 request = some text) (hn : newline ∈ request) (tail : Bytes) :
    answerRequest ready request = answerStream ready (request ++ tail) := by
  have hbytes : Utf8.encode text.toList = request := by
    rw [Utf8.encode, ← Text.utf8_ofList, String.ofList_toList]
    exact fromUtf8_eq_some.mp ht
  have hline : (request ++ tail).takeWhile (· ≠ newline) =
      Utf8.encode (text.toList.takeWhile (· ≠ '\n')) := by
    rw [← takeWhile_encode, hbytes, List.takeWhile_append, if_neg]
    intro hlength
    have hself := (List.takeWhile_prefix (· ≠ newline)).eq_of_length hlength
    rw [← hself] at hn
    have hne := List.mem_takeWhile_imp hn
    exact absurd rfl (of_decide_eq_true hne)
  have hdecoded : fromUtf8 ((request ++ tail).takeWhile (· ≠ newline)) =
      some (String.ofList (text.toList.takeWhile (· ≠ '\n'))) := by
    rw [fromUtf8_eq_some, hline, Text.utf8_ofList]
    rfl
  have hmem : '\n' ∈ text.toList := mem_encode.mp (hbytes ▸ hn)
  rw [answerRequest, answerStream, ht, hdecoded, Option.map_some, Option.map_some,
    Option.getD_some, Option.getD_some, firstLine, if_pos hmem, String.toList_ofList]

theorem answerRequest_of_invalid {ready : Bool} {request : Bytes}
    (ht : fromUtf8 request = none) : answerRequest ready request = methodNotAllowed := by
  rw [answerRequest, ht]
  rfl

/-- However the stream is cut, a request line that ends within the buffer is answered from the
stream up to its end, if only what fits of the stream up to the end of the piece in which it ends is
text. Without one the stream is too long, or it is answered when it ends and given up when it stalls
or fails. -/
theorem health_request_by_stream {ε : Type*} (ready : Bool) (chunks : List Bytes)
    (rest : List (Except ε Bytes)) (hc : ∀ chunk ∈ chunks, chunk ≠ []) :
    (newline ∈ chunks.flatten.take 4096 → ∃ before chunk after,
      chunks = before ++ chunk :: after ∧ newline ∉ before.flatten ∧ newline ∈ chunk ∧
      serveHealthRequest ready (chunks.map .ok ++ rest) = .ok (
        if (fromUtf8 ((before.flatten ++ chunk).take 4096)).isSome then
          answerStream ready chunks.flatten
        else methodNotAllowed)) ∧
    (newline ∉ chunks.flatten.take 4096 → 4096 ≤ chunks.flatten.length →
      serveHealthRequest ready (chunks.map .ok ++ rest) = .error (.read .tooLong)) ∧
    (newline ∉ chunks.flatten → chunks.flatten.length < 4096 →
      serveHealthRequest ready (chunks.map .ok ++ .ok [] :: rest) =
        .ok (answerRequest ready chunks.flatten) ∧
      serveHealthRequest (ε := ε) ready (chunks.map .ok) = .error .timedOut ∧
      ∀ error, serveHealthRequest ready (chunks.map .ok ++ .error error :: rest) =
        .error (.read (.failed error))) := by
  have hb : newline ∉ ([] : Bytes) := List.not_mem_nil
  refine ⟨?_, ?_, ?_⟩
  · intro hm
    obtain ⟨before, chunk, after, hcut, hbefore, hmem, hread⟩ :=
      @Chunks.readUntil_of_mem _ ε _ newline healthRequestBytes [] chunks rest hc hb hm
    rw [List.nil_append] at hmem hread
    have hchunk : newline ∈ chunk :=
      (List.mem_append.mp (List.mem_of_mem_take hmem)).resolve_left hbefore
    refine ⟨before, chunk, after, hcut, hbefore, hchunk, ?_⟩
    rw [serveHealthRequest, readRequestLine, hread]
    change Except.ok (answerRequest ready ((before.flatten ++ chunk).take healthRequestBytes)) = _
    cases ht : fromUtf8 ((before.flatten ++ chunk).take healthRequestBytes) with
    | none =>
      rw [answerRequest_of_invalid ht, show (4096 : Nat) = healthRequestBytes from rfl, ht]
      rfl
    | some text =>
      have hstream : (before.flatten ++ chunk).take healthRequestBytes ++
          ((before.flatten ++ chunk).drop healthRequestBytes ++ after.flatten) =
            chunks.flatten := by
        rw [← List.append_assoc, List.take_append_drop, hcut, List.flatten_append,
          List.flatten_cons, List.append_assoc]
      rw [answerRequest_of_text ht hmem, hstream, show (4096 : Nat) = healthRequestBytes from rfl,
        ht]
      rfl
  · intro hm hlong
    rw [serveHealthRequest, readRequestLine,
      Chunks.readUntil_of_not_mem hc (Nat.zero_le _) hm, List.nil_append,
      if_pos (show healthRequestBytes ≤ _ from hlong)]
  · intro hm hshort
    have hm : newline ∉ ([] ++ chunks.flatten).take healthRequestBytes :=
      fun h => hm (List.mem_of_mem_take h)
    have hread : ∀ rest : List (Except ε Bytes), readRequestLine (chunks.map .ok ++ rest) =
        readUntil newline healthRequestBytes chunks.flatten rest := by
      intro rest
      rw [readRequestLine, Chunks.readUntil_of_not_mem hc (Nat.zero_le _) hm, List.nil_append,
        if_neg (show ¬ healthRequestBytes ≤ _ from Nat.not_le.mpr hshort)]
    refine ⟨?_, ?_, fun error => ?_⟩
    · rw [serveHealthRequest, hread, readUntil,
        if_pos (show _ < healthRequestBytes from hshort)]
    · rw [serveHealthRequest, ← List.append_nil (chunks.map _), hread, readUntil,
        if_pos (show _ < healthRequestBytes from hshort)]
    · rw [serveHealthRequest, hread, readUntil,
        if_pos (show _ < healthRequestBytes from hshort)]

theorem health_request_in_two_pieces : ∃ before chunk after,
    [utf8 "GET /re", utf8 "adyz\n\n"] = before ++ chunk :: after ∧ newline ∉ before.flatten ∧
    newline ∈ chunk ∧
    serveHealthRequest (ε := String) true [.ok (utf8 "GET /re"), .ok (utf8 "adyz\n\n")] =
      .ok (if (fromUtf8 ((before.flatten ++ chunk).take 4096)).isSome then
        answerStream true (utf8 "GET /re" ++ utf8 "adyz\n\n") else methodNotAllowed) := by
  have hline := (health_request_by_stream (ε := String) true [utf8 "GET /re", utf8 "adyz\n\n"] []
    (by decide +kernel)).1 (by decide +kernel)
  simpa only [List.map_cons, List.map_nil, List.flatten_cons, List.flatten_nil,
    List.append_nil] using hline

-- A header that is cut inside a character costs the request its line.
example : ((serveHealthRequest (ε := String) true
      [.ok (utf8 "GET /readyz\nX: " ++ [0xc3]), .ok [0xa9, newline]]).map (·.status),
    (serveHealthRequest (ε := String) true
      [.ok (utf8 "GET /readyz\nX: é\n")]).map (·.status)) =
    (.ok "405 Method Not Allowed", .ok "200 OK") := by
  decide +kernel

end OpenclawNode.Node
