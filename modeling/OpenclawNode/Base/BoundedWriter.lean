import OpenclawNode.Base.BigEndian

/-! Serializers as sequences of writes, and writers that refuse what does not fit. -/
namespace BoundedWriter

open BigEndian (Bytes)

/-- The writes a serializer makes, in order, and whether it fails after the last of them. -/
structure Serialization where
  chunks : List Bytes
  failed : Bool
  deriving DecidableEq, Repr

namespace Serialization

/-- All bytes written, however they were split. -/
def output (s : Serialization) : Bytes := s.chunks.flatten

def ofBytes (bytes : Bytes) : Serialization := ⟨[bytes], false⟩

/-- A failure that is raised before anything more is written. -/
def fail : Serialization := ⟨[], true⟩

/-- One serializer after the other; a failure of the first stops the second. -/
def append (s t : Serialization) : Serialization :=
  if s.failed then s else ⟨s.chunks ++ t.chunks, t.failed⟩

instance : Append Serialization := ⟨append⟩

theorem append_def (s t : Serialization) :
    s ++ t = if s.failed then s else ⟨s.chunks ++ t.chunks, t.failed⟩ := rfl

@[simp] theorem failed_append (s t : Serialization) :
    (s ++ t).failed = (s.failed || t.failed) := by
  rw [append_def]
  split <;> simp_all

theorem output_append {s : Serialization} (t : Serialization) (hs : s.failed = false) :
    (s ++ t).output = s.output ++ t.output := by
  simp [append_def, hs, output]

@[simp] theorem output_ofBytes (bytes : Bytes) : (ofBytes bytes).output = bytes := by
  simp [ofBytes, output]

@[simp] theorem failed_ofBytes (bytes : Bytes) : (ofBytes bytes).failed = false := rfl

@[simp] theorem failed_fail : fail.failed = true := rfl

end Serialization

/-- How the values of a type are written and read back. -/
structure Codec (α : Type*) where
  serialize : α → Serialization
  deserialize : Bytes → Option α

/-- The value is read back as it was when writing it does not fail. -/
def Codec.Exact {α : Type*} (codec : Codec α) (a : α) : Prop :=
  (codec.serialize a).failed = false → codec.deserialize (codec.serialize a).output = some a

theorem Codec.Exact.of_eq {α : Type*} {codec codec' : Codec α} {a : α} (h : codec.Exact a)
    (hs : codec'.serialize a = codec.serialize a) (hd : codec'.deserialize = codec.deserialize) :
    codec'.Exact a := by
  intro hf
  rw [hs] at hf
  rw [hd, hs]
  exact h hf

/-- How a serializer that drives a writer ends. -/
inductive Outcome (W : Type*)
  | done (writer : W)
  | refused
  | failed
  deriving DecidableEq

variable {W : Type*}

/-- `Write::write_all`: an empty buffer makes no call. -/
def writeAll (write : W → Bytes → Option W) (w : W) (bytes : Bytes) : Option W :=
  if bytes = [] then some w else write w bytes

def feed (write : W → Bytes → Option W) (w : W) (chunks : List Bytes) : Option W :=
  chunks.foldlM (writeAll write) w

/-- Run a serializer against a writer. The first refused write ends the run. -/
def toWriter (write : W → Bytes → Option W) (w : W) (s : Serialization) : Outcome W :=
  match feed write w s.chunks with
  | none => .refused
  | some w' => if s.failed then .failed else .done w'

/-- A writer that takes a write exactly when it fits the room that is left. -/
structure Bounded (write : W → Bytes → Option W) where
  room : W → Nat
  extend : W → Bytes → W
  write_fits : ∀ w bytes, bytes.length ≤ room w → write w bytes = some (extend w bytes)
  write_full : ∀ w bytes, room w < bytes.length → write w bytes = none
  room_extend : ∀ w bytes, bytes.length ≤ room w → room (extend w bytes) = room w - bytes.length
  extend_nil : ∀ w, extend w [] = w
  extend_extend : ∀ w a b, extend (extend w a) b = extend w (a ++ b)

namespace Bounded

variable {write : W → Bytes → Option W} (B : Bounded write)

theorem writeAll_eq (w : W) (bytes : Bytes) :
    writeAll write w bytes =
      if bytes.length ≤ B.room w then some (B.extend w bytes) else none := by
  unfold writeAll
  split
  · next h => simp [h, B.extend_nil]
  · split
    · next h => exact B.write_fits w bytes h
    · next h => exact B.write_full w bytes (by omega)

/-- The verdict on a sequence of writes depends on their total length alone. -/
theorem feed_eq (w : W) (chunks : List Bytes) :
    feed write w chunks =
      if chunks.flatten.length ≤ B.room w then some (B.extend w chunks.flatten) else none := by
  induction chunks generalizing w with
  | nil => simp [feed, B.extend_nil]
  | cons chunk chunks ih =>
    have hstep : feed write w (chunk :: chunks) =
        (writeAll write w chunk).bind (fun w' => feed write w' chunks) := rfl
    rw [hstep, B.writeAll_eq]
    by_cases hc : chunk.length ≤ B.room w
    · have hr := B.room_extend w chunk hc
      simp only [if_pos hc, Option.bind_some, ih, hr, B.extend_extend, List.flatten_cons,
        List.length_append]
      by_cases ht : chunks.flatten.length ≤ B.room w - chunk.length
      · rw [if_pos ht, if_pos (by omega)]
      · rw [if_neg ht, if_neg (by omega)]
    · have hlong : ¬ (chunk :: chunks).flatten.length ≤ B.room w := by
        simp only [List.flatten_cons, List.length_append]
        omega
      rw [if_neg hc, if_neg hlong]
      rfl

theorem toWriter_eq (w : W) (s : Serialization) :
    toWriter write w s =
      if s.output.length ≤ B.room w then
        if s.failed then .failed else .done (B.extend w s.output)
      else .refused := by
  unfold toWriter Serialization.output
  rw [B.feed_eq]
  by_cases h : s.chunks.flatten.length ≤ B.room w
  · rw [if_pos h, if_pos h]
  · rw [if_neg h, if_neg h]

/-- Two serializers that write the same bytes and agree on failing get the same verdict,
however each splits its output. -/
theorem toWriter_congr (B : Bounded write) {s t : Serialization} (ho : s.output = t.output)
    (hf : s.failed = t.failed) (w : W) : toWriter write w s = toWriter write w t := by
  rw [B.toWriter_eq, B.toWriter_eq, ho, hf]

end Bounded
end BoundedWriter
