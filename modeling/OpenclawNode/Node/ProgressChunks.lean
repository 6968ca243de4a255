import OpenclawNode.Base.Utf8Boundary
import OpenclawNode.Node.Duplex
import OpenclawNode.Node.Lifecycle

/-! The loop that sends a text as progress, chunk by chunk. -/
namespace OpenclawNode.Node

open BigEndian (Bytes)
open Text (utf8)
open Utf8 (encode size isCharBoundary lastBoundary)

/-- The length of the greatest prefix of whole characters that fits, from the text's bytes. -/
def utf8PrefixBytes (value : Bytes) (maximum : Nat) : Nat :=
  if value.length ≤ maximum then value.length else lastBoundary value maximum

/-- Split a text at a byte; there is none when the byte is inside a character. -/
def splitAt : List Char → Nat → Option (List Char × List Char)
  | cs, 0 => some ([], cs)
  | [], _ + 1 => none
  | c :: cs, n + 1 =>
    if c.utf8Size ≤ n + 1 then
      (splitAt cs (n + 1 - c.utf8Size)).map fun (chunk, rest) => (c :: chunk, rest)
    else none

/-- The state that an invocation's progress is sent under, with the requests made so far. -/
structure ProgressState where
  seq : UInt64
  stopped : Bool
  cancelled : Bool
  requests : List Json.Value

/-- One progress request. The answers are those of the session. -/
def ProgressState.send (invocation : NodeInvocation)
    (respond : Json.Value → Except ClientError Json.Value) (chunk : String) (s : ProgressState) :
    Except ClientError Unit × ProgressState :=
  if s.stopped || s.cancelled then (.error (.closed "invocation is no longer active"), s)
  else
    let params := progressParams invocation s.seq chunk
    let s := { s with requests := s.requests ++ [params] }
    match respond params with
    | .error error => (.error error, s)
    | .ok _ => (.ok (), { s with seq := s.seq + 1 })

/-- The loop of `write`, as many times round as the fuel allows. A split inside a character would
panic. -/
def writeLoop (invocation : NodeInvocation)
    (respond : Json.Value → Except ClientError Json.Value) :
    Nat → List Char → ProgressState → Option (Except ClientError Unit × ProgressState)
  | 0, _, _ => none
  | fuel + 1, remaining, s =>
    if remaining = [] then some (.ok (), s)
    else
      match splitAt remaining (utf8PrefixBytes (encode remaining) progressChunkBytes) with
      | none => none
      | some (chunk, rest) =>
        match s.send invocation respond (String.ofList chunk) with
        | (.error error, s) => some (.error error, s)
        | (.ok _, s) => writeLoop invocation respond fuel rest s

def ProgressState.write (invocation : NodeInvocation)
    (respond : Json.Value → Except ClientError Json.Value) (fuel : Nat) (text : String)
    (s : ProgressState) : Option (Except ClientError Unit × ProgressState) :=
  if text = "" then some (.ok (), s) else writeLoop invocation respond fuel text.toList s

variable {cs : List Char} {k n maximum fuel : Nat} {s : ProgressState} {invocation : NodeInvocation}
  {respond : Json.Value → Except ClientError Json.Value}

/-- Behind whole characters a text splits where they end. -/
theorem splitAt_size (k : Nat) (cs : List Char) :
    splitAt cs (size (cs.take k)) = some (cs.take k, cs.drop k) := by
  induction cs generalizing k with
  | nil => rw [List.take_nil, List.drop_nil]; rfl
  | cons c cs ih =>
    cases k with
    | zero => rfl
    | succ k =>
      have hpos := c.utf8Size_pos
      rw [List.take_succ_cons, List.drop_succ_cons, Utf8.size_cons]
      obtain ⟨m, hm⟩ : ∃ m, c.utf8Size + size (cs.take k) = m + 1 :=
        ⟨c.utf8Size + size (cs.take k) - 1, by omega⟩
      rw [hm, splitAt, if_pos (by omega), ← hm, Nat.add_sub_cancel_left, ih]
      rfl

/-- The characters that fit take no more bytes than there are, and one more would not fit. -/
theorem size_take_utf8PrefixLen (cs : List Char) (maximum : Nat) :
    size (cs.take (utf8PrefixLen cs maximum)) ≤ maximum ∧
      (utf8PrefixLen cs maximum < cs.length →
        maximum < size (cs.take (utf8PrefixLen cs maximum + 1))) := by
  induction cs generalizing maximum with
  | nil => exact ⟨Nat.zero_le _, fun h => absurd h (Nat.not_lt_zero _)⟩
  | cons c cs ih =>
    rw [utf8PrefixLen]
    split
    · obtain ⟨hle, hnext⟩ := ih (maximum - c.utf8Size)
      rw [List.take_succ_cons, List.take_succ_cons, Utf8.size_cons, Utf8.size_cons]
      refine ⟨by omega, fun h => ?_⟩
      have := hnext (Nat.lt_of_succ_lt_succ h)
      omega
    · refine ⟨Nat.zero_le _, fun _ => ?_⟩
      rw [List.take_succ_cons, Utf8.size_cons]
      omega

theorem utf8PrefixLen_le (cs : List Char) (maximum : Nat) :
    utf8PrefixLen cs maximum ≤ cs.length := by
  induction cs generalizing maximum with
  | nil => exact Nat.le_refl 0
  | cons c cs ih =>
    rw [utf8PrefixLen]
    split
    · exact Nat.succ_le_succ (ih _)
    · exact Nat.zero_le _

theorem size_take_mono {j k : Nat} (h : j ≤ k) (cs : List Char) :
    size (cs.take j) ≤ size (cs.take k) := by
  obtain ⟨d, rfl⟩ := Nat.exists_eq_add_of_le h
  rw [List.take_add, Utf8.size_append]
  exact Nat.le_add_right _ _

/-- The backward scan stops behind the characters that fit. -/
theorem utf8PrefixBytes_encode (cs : List Char) (maximum : Nat) :
    utf8PrefixBytes (encode cs) maximum = size (cs.take (utf8PrefixLen cs maximum)) := by
  obtain ⟨hfits, hnext⟩ := size_take_utf8PrefixLen cs maximum
  have hlen := utf8PrefixLen_le cs maximum
  rw [utf8PrefixBytes, Utf8.length_encode]
  split
  · next hall =>
    -- Everything fits, so that there is no character left behind the ones counted.
    have hk : utf8PrefixLen cs maximum = cs.length := by
      refine Nat.le_antisymm hlen (Nat.not_lt.mp fun hlt => ?_)
      have hmono := size_take_mono (by omega : utf8PrefixLen cs maximum + 1 ≤ cs.length) cs
      rw [List.take_length] at hmono
      have := hnext hlt
      omega
    rw [hk, List.take_length]
  · obtain ⟨k, hk, he⟩ := Utf8.isCharBoundary_iff.mp
      (Utf8.isCharBoundary_lastBoundary (encode cs) maximum)
    have hle := Utf8.lastBoundary_le (encode cs) maximum
    have hge := Utf8.le_lastBoundary (Utf8.isCharBoundary_iff.mpr ⟨_, hlen, rfl⟩) hfits
    rw [he] at hle hge ⊢
    refine Nat.le_antisymm (Nat.not_lt.mp fun hlt => ?_) hge
    -- A greater boundary would hold one more character, which does not fit.
    have hkk : utf8PrefixLen cs maximum < k := by
      refine Nat.not_le.mp fun hle => ?_
      have := size_take_mono hle cs
      omega
    have := size_take_mono (by omega : utf8PrefixLen cs maximum + 1 ≤ k) cs
    have := hnext (Nat.lt_of_lt_of_le hkk hk)
    omega

/-- A chunk holds at least one character, and less than all that is left only when it is nearly
full. -/
theorem chunk_bounds (hne : cs ≠ []) :
    0 < utf8PrefixLen cs progressChunkBytes ∧
      size (cs.take (utf8PrefixLen cs progressChunkBytes)) ≤ progressChunkBytes ∧
      (cs.drop (utf8PrefixLen cs progressChunkBytes) ≠ [] →
        progressChunkBytes < size (cs.take (utf8PrefixLen cs progressChunkBytes)) + 4) := by
  obtain ⟨hfits, hnext⟩ := size_take_utf8PrefixLen cs progressChunkBytes
  refine ⟨?_, hfits, fun hdrop => ?_⟩
  · cases cs with
    | nil => exact absurd rfl hne
    | cons c cs =>
      have hc := c.utf8Size_le_four
      have hroom : c.utf8Size ≤ progressChunkBytes := by
        rw [progressChunkBytes]
        omega
      rw [utf8PrefixLen, if_pos hroom]
      exact Nat.succ_pos _
  · have hlt : utf8PrefixLen cs progressChunkBytes < cs.length := by
      rw [Ne, List.drop_eq_nil_iff] at hdrop
      omega
    have hnext := hnext hlt
    rw [← List.take_concat_get' cs _ hlt, Utf8.size_append, Utf8.size_cons, Utf8.size_nil] at hnext
    have := (cs[utf8PrefixLen cs progressChunkBytes]).utf8Size_le_four
    omega

theorem progressChunks_cons (hne : cs ≠ []) :
    progressChunks (fuel + 1) cs =
      String.ofList (cs.take (utf8PrefixLen cs progressChunkBytes)) ::
        progressChunks fuel (cs.drop (utf8PrefixLen cs progressChunkBytes)) := by
  cases cs with
  | nil => exact absurd rfl hne
  | cons c cs => rfl

theorem progressChunks_nil : progressChunks fuel [] = [] := by
  cases fuel <;> rfl

/-- The chunks of a text are its own pieces, in order. -/
theorem flatMap_progressChunks (h : cs.length ≤ fuel) :
    (progressChunks fuel cs).flatMap String.toList = cs := by
  induction fuel generalizing cs with
  | zero =>
    obtain rfl := List.length_eq_zero_iff.mp (Nat.le_zero.mp h)
    rfl
  | succ fuel ih =>
    by_cases hne : cs = []
    · rw [hne, progressChunks_nil]
      rfl
    · have hpos := (chunk_bounds hne).1
      have hdrop : (cs.drop (utf8PrefixLen cs progressChunkBytes)).length ≤ fuel := by
        rw [List.length_drop]
        omega
      rw [progressChunks_cons hne, List.flatMap_cons, String.toList_ofList, ih hdrop,
        List.take_append_drop]

theorem utf8_ofList_length (cs : List Char) : (utf8 (String.ofList cs)).length = size cs :=
  Text.length_utf8_ofList cs

theorem progressChunks_bounds {chunk : String} (h : chunk ∈ progressChunks fuel cs) :
    chunk ≠ "" ∧ (utf8 chunk).length ≤ progressChunkBytes := by
  induction fuel generalizing cs with
  | zero => cases h
  | succ fuel ih =>
    by_cases hne : cs = []
    · rw [hne, progressChunks_nil] at h
      cases h
    · rw [progressChunks_cons hne] at h
      obtain rfl | h := List.mem_cons.mp h
      · obtain ⟨hpos, hfits, _⟩ := chunk_bounds hne
        rw [utf8_ofList_length]
        refine ⟨fun he => ?_, hfits⟩
        have htake := congrArg String.toList he
        rw [String.toList_ofList] at htake
        have hnil : cs.take (utf8PrefixLen cs progressChunkBytes) = [] := htake
        rw [List.take_eq_nil_iff] at hnil
        obtain hzero | hnil := hnil
        · omega
        · exact hne hnil
      · exact ih h

/-- Every chunk but the last is nearly full. -/
theorem progressChunks_dropLast {chunk : String} (h : chunk ∈ (progressChunks fuel cs).dropLast) :
    progressChunkBytes < (utf8 chunk).length + 4 := by
  induction fuel generalizing cs with
  | zero => cases h
  | succ fuel ih =>
    by_cases hne : cs = []
    · rw [hne, progressChunks_nil] at h
      cases h
    · rw [progressChunks_cons hne] at h
      cases hrest : progressChunks fuel (cs.drop (utf8PrefixLen cs progressChunkBytes)) with
      | nil =>
        rw [hrest] at h
        cases h
      | cons next rest =>
        rw [hrest, List.dropLast_cons_cons] at h
        obtain rfl | h := List.mem_cons.mp h
        · rw [utf8_ofList_length]
          refine (chunk_bounds hne).2.2 fun hnil => ?_
          rw [hnil, progressChunks_nil] at hrest
          cases hrest
        · rw [← hrest] at h
          exact ih h

/-- What is left of the state when every chunk was sent and answered. -/
def ProgressState.sent (invocation : NodeInvocation) (s : ProgressState) (chunks : List String) :
    ProgressState :=
  { s with
    seq := s.seq + UInt64.ofNat chunks.length
    requests := s.requests ++
      chunks.mapIdx fun i chunk => progressParams invocation (s.seq + UInt64.ofNat i) chunk }

theorem ProgressState.sent_nil : s.sent invocation [] = s := by
  have hseq : s.seq + UInt64.ofNat 0 = s.seq := by simp
  simp only [sent, List.length_nil, hseq, List.mapIdx_nil, List.append_nil]

/-- The numbers go on where the first chunk's ended. -/
theorem ProgressState.sent_cons (chunk : String) (chunks : List String) :
    ({ s with
        seq := s.seq + 1
        requests := s.requests ++ [progressParams invocation s.seq chunk] } : ProgressState).sent
      invocation chunks = s.sent invocation (chunk :: chunks) := by
  have hnext : ∀ i : Nat, s.seq + 1 + UInt64.ofNat i = s.seq + UInt64.ofNat (i + 1) := by
    intro i
    rw [UInt64.ofNat_add, UInt64.add_assoc, UInt64.add_comm 1]
    rfl
  have hzero : s.seq + UInt64.ofNat 0 = s.seq := by simp
  simp only [sent, List.length_cons, hnext, List.mapIdx_cons, hzero, List.append_assoc,
    List.cons_append, List.nil_append]

/-- The loop ends when everything was sent, with the chunks in order and one request for each. -/
theorem writeLoop_eq (hstopped : s.stopped = false) (hcancelled : s.cancelled = false)
    (hrespond : ∀ params, ∃ answer, respond params = .ok answer) {rounds : Nat}
    (h : cs.length ≤ fuel) (hrounds : cs.length < rounds) :
    writeLoop invocation respond rounds cs s =
      some (.ok (), s.sent invocation (progressChunks fuel cs)) := by
  induction fuel generalizing cs s rounds with
  | zero =>
    obtain rfl := List.length_eq_zero_iff.mp (Nat.le_zero.mp h)
    obtain ⟨rounds, rfl⟩ := Nat.exists_eq_succ_of_ne_zero (Nat.ne_of_gt hrounds)
    rw [progressChunks_nil, ProgressState.sent_nil]
    rfl
  | succ fuel ih =>
    obtain ⟨rounds, rfl⟩ := Nat.exists_eq_succ_of_ne_zero
      (Nat.ne_of_gt (Nat.lt_of_le_of_lt (Nat.zero_le _) hrounds))
    by_cases hne : cs = []
    · rw [hne, progressChunks_nil, ProgressState.sent_nil]
      rfl
    · have hpos := (chunk_bounds hne).1
      have hlen := utf8PrefixLen_le cs progressChunkBytes
      have hdrop := List.length_drop (i := utf8PrefixLen cs progressChunkBytes) (l := cs)
      obtain ⟨answer, hanswer⟩ := hrespond (progressParams invocation s.seq
        (String.ofList (cs.take (utf8PrefixLen cs progressChunkBytes))))
      have hsend : s.send invocation respond
          (String.ofList (cs.take (utf8PrefixLen cs progressChunkBytes))) = (.ok (), { s with
            seq := s.seq + 1
            requests := s.requests ++ [progressParams invocation s.seq
              (String.ofList (cs.take (utf8PrefixLen cs progressChunkBytes)))] }) := by
        rw [ProgressState.send, hstopped, hcancelled, if_neg (by decide)]
        simp only [hanswer]
      rw [writeLoop, if_neg hne, utf8PrefixBytes_encode, splitAt_size, progressChunks_cons hne]
      simp only [hsend]
      rw [← ProgressState.sent_cons]
      exact ih (s := ⟨s.seq + 1, s.stopped, s.cancelled, _⟩) hstopped hcancelled (by omega)
        (by omega)

theorem utf8_chars (text : String) : encode text.toList = utf8 text := by
  rw [encode, ← Text.utf8_ofList, String.ofList_toList]

theorem sum_chunks (chunks : List String) :
    (chunks.map fun chunk => (utf8 chunk).length).sum = size (chunks.flatMap String.toList) := by
  induction chunks with
  | nil => rfl
  | cons chunk chunks ih =>
    rw [List.map_cons, List.sum_cons, List.flatMap_cons, Utf8.size_append, ih, ← utf8_chars,
      Utf8.length_encode]

/-- A text whose sends all succeed is written, in chunks of whole characters that fit in a request
and put together are the text. All but the last are nearly full, and each has the next number. -/
theorem write_chunks (invocation : NodeInvocation)
    (respond : Json.Value → Except ClientError Json.Value) (text : String) (s : ProgressState)
    (hstopped : s.stopped = false) (hcancelled : s.cancelled = false)
    (hrespond : ∀ params, ∃ answer, respond params = .ok answer) :
    ∃ chunks : List String,
      (∀ fuel, (utf8 text).length < fuel → s.write invocation respond fuel text =
        some (.ok (), { s with
          seq := s.seq + UInt64.ofNat chunks.length
          requests := s.requests ++
            chunks.mapIdx fun i chunk =>
              progressParams invocation (s.seq + UInt64.ofNat i) chunk })) ∧
      (∀ chunk ∈ chunks, chunk ≠ "" ∧ (utf8 chunk).length ≤ 16384) ∧
      String.join chunks = text ∧
      (∀ i, i ≤ chunks.length →
        isCharBoundary (utf8 text) (((chunks.take i).map (fun chunk => (utf8 chunk).length)).sum) =
          true) ∧
      ∀ chunk ∈ chunks.dropLast, 16380 < (utf8 chunk).length := by
  have hchars := flatMap_progressChunks (Nat.le_refl text.toList.length)
  refine ⟨progressChunks text.toList.length text.toList, fun fuel hfuel => ?_,
    fun chunk => progressChunks_bounds, ?_, fun i _ => ?_, fun chunk h => ?_⟩
  · have hlength := Text.length_le_utf8 text
    have hloop : writeLoop invocation respond fuel text.toList s = _ :=
      writeLoop_eq hstopped hcancelled hrespond (Nat.le_refl text.toList.length)
        (Nat.lt_of_le_of_lt hlength hfuel)
    rw [ProgressState.write]
    split
    · next hempty =>
      rw [hempty]
      exact (congrArg (fun s => some (Except.ok (), s)) ProgressState.sent_nil).symm
    · exact hloop
  · apply String.toList_inj.mp
    rw [String.toList_join, hchars]
  · -- The bytes of the chunks in front are those of the characters in front.
    generalize progressChunks text.toList.length text.toList = chunks at hchars ⊢
    rw [← utf8_chars, ← hchars, Utf8.isCharBoundary_iff, sum_chunks]
    have hsplit : chunks.flatMap String.toList =
        (chunks.take i).flatMap String.toList ++ (chunks.drop i).flatMap String.toList := by
      rw [← List.flatMap_append, List.take_append_drop]
    rw [hsplit]
    refine ⟨((chunks.take i).flatMap String.toList).length, ?_, ?_⟩
    · rw [List.length_append]
      exact Nat.le_add_right _ _
    · rw [List.take_left]
  · have := progressChunks_dropLast h
    rw [progressChunkBytes] at this
    omega

/-- One byte more than a chunk holds. The last byte that fits is inside a character. -/
def accented : List Char := 'a' :: List.replicate 8192 'é'

theorem size_take_accented (k : Nat) : size (accented.take (k + 1)) = 1 + min k 8192 * 2 := by
  rw [accented, List.take_succ_cons, List.take_replicate, Utf8.size_cons, Utf8.size_replicate]
  rfl

theorem accented_boundary : isCharBoundary (utf8 (String.ofList accented)) 16384 = false := by
  rw [Text.utf8_ofList, Bool.eq_false_iff]
  intro h
  obtain ⟨k, -, hk⟩ := Utf8.isCharBoundary_iff.mp h
  cases k with
  | zero => cases hk
  | succ k =>
    rw [size_take_accented] at hk
    omega

/-- A text of two chunks is cut in front of the character that does not fit. -/
theorem write_chunks_accented : ∃ (chunks : List String) (s : ProgressState),
    ProgressState.write ⟨"i", "n", "c", .null, none, none, none, none, none⟩ .ok 16386
      (String.ofList accented) ⟨0, false, false, []⟩ = some (.ok (), s) ∧
    s.requests.length = chunks.length ∧ 1 < chunks.length ∧
    String.join chunks = String.ofList accented ∧
    ∀ i, i ≤ chunks.length →
      ((chunks.take i).map (fun chunk => (utf8 chunk).length)).sum ≠ 16384 := by
  obtain ⟨chunks, hwrite, hbounds, hjoin, hcuts, -⟩ := write_chunks
    ⟨"i", "n", "c", .null, none, none, none, none, none⟩ .ok (String.ofList accented)
    ⟨0, false, false, []⟩ rfl rfl fun params => ⟨params, rfl⟩
  have hsize : size accented = 16385 := by
    rw [accented, Utf8.size_cons, Utf8.size_replicate]
    rfl
  have htotal : (chunks.map fun chunk => (utf8 chunk).length).sum = 16385 := by
    rw [sum_chunks, ← String.toList_join, hjoin, String.toList_ofList, hsize]
  have hbytes : (utf8 (String.ofList accented)).length < 16386 := by
    rw [utf8_ofList_length, hsize]
    omega
  refine ⟨chunks, _, hwrite 16386 hbytes, by simp, ?_, hjoin, fun i hi hsum => ?_⟩
  · match chunks with
    | [] => cases htotal
    | [chunk] =>
      have hfits := (hbounds chunk (List.mem_singleton_self chunk)).2
      rw [List.map_singleton, List.sum_singleton] at htotal
      omega
    | _ :: _ :: _ => simp
  · have hcut := hcuts i hi
    rw [hsum, accented_boundary] at hcut
    cases hcut

end OpenclawNode.Node
