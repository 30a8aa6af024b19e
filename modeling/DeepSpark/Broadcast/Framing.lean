import DeepSpark.Lib.Bytes

/-!
The frame of a message in a chunk of `ShmRingBuffer`
(`distributed/device_communicators/shm_broadcast.py`).

Owns the assignments `MessageQueue.enqueue` makes to a chunk, the reads
`MessageQueue.dequeue` makes of it, and the two facts that connect them: a
message that does not overflow fits, and is read back as it was written.
Pickling is left to `pickle`: a message is the list of buffers it returns.
-/

namespace DeepSpark

open Lib Bytes

/-- `all_buffers` of `enqueue`: the pickle and the buffers kept out of it. -/
structure Pickled where
  main : Bytes
  outOfBand : List Bytes
deriving DecidableEq, Repr

namespace Pickled

def allBuffers (message : Pickled) : List Bytes := message.main :: message.outOfBand

/-- `total_bytes`: 2 bytes of count, 4 of the main size, and the other buffers with theirs. -/
def totalBytes (message : Pickled) : Nat :=
  6 + (message.outOfBand.map fun buffer => buffer.length + 4).sum

def overflows (maxChunkBytes : Nat) (message : Pickled) : Bool :=
  decide (maxChunkBytes ≤ message.totalBytes + message.main.length)

end Pickled

/-- `to_bytes_big`: raises for a value that does not fit. -/
def toBytesBig (value size : Nat) : Option Bytes :=
  if value < 256 ^ size then some (bigEndian size value) else none

/-- `buf[offset:offset + len(bytes)] = bytes`: raises past the end of the chunk. -/
def assignSlice (chunk : Bytes) (offset : Nat) (bytes : Bytes) : Option Bytes :=
  if offset + bytes.length ≤ chunk.length then
    some (chunk.take offset ++ bytes ++ chunk.drop (offset + bytes.length))
  else none

/-- An assignment to a slice of a chunk; none for a value that cannot be computed. -/
abbrev SliceWrite := Nat × Option Bytes

/-- The assignments for the buffers, from `offset` on. -/
def bufferWrites : Nat → List Bytes → List SliceWrite
  | _, [] => []
  | offset, buffer :: rest =>
    (offset, toBytesBig buffer.length 4) :: (offset + 4, some buffer) ::
      bufferWrites (offset + 4 + buffer.length) rest

/-- The assignments of `enqueue` to the chunk it has acquired. -/
def chunkWrites (maxChunkBytes : Nat) (message : Pickled) : List SliceWrite :=
  if message.overflows maxChunkBytes then [(0, some [1])]
  else
    (0, some [0]) :: (1, toBytesBig message.allBuffers.length 2) :: bufferWrites 3 message.allBuffers

/-- What the assignments leave in a chunk, unless one of them raises. -/
def applyWrites (chunk : Bytes) : List SliceWrite → Option Bytes
  | [] => some chunk
  | (offset, bytes) :: rest => do
      let written ← assignSlice chunk offset (← bytes)
      applyWrites written rest

/-- `buf[start:stop]`. -/
def readSlice (chunk : Bytes) (start stop : Nat) : Bytes := (chunk.take stop).drop start

/-- The buffer loop of `dequeue`. -/
def readBuffers (chunk : Bytes) : Nat → Nat → List Bytes
  | 0, _ => []
  | count + 1, offset =>
    let length := fromBigEndian (readSlice chunk offset (offset + 4))
    readSlice chunk (offset + 4) (offset + 4 + length) ::
      readBuffers chunk count (offset + 4 + length)

/-- What `dequeue` finds in a chunk. -/
inductive ChunkContent where
  | overflow
  | buffers (allBuffers : List Bytes)
deriving DecidableEq, Repr

/-- The reads of `dequeue`: none for the index error of an empty chunk. -/
def readChunk (chunk : Bytes) : Option ChunkContent :=
  match chunk with
  | [] => none
  | first :: _ =>
    if first = 1 then some .overflow
    else
      some (.buffers (readBuffers chunk (fromBigEndian (readSlice chunk 1 3)) 3))

/-- What a reader must find in the chunk of a message. -/
def Pickled.content (maxChunkBytes : Nat) (message : Pickled) : ChunkContent :=
  if message.overflows maxChunkBytes then .overflow else .buffers message.allBuffers

/-! ## The frame -/

def bufferFrame (buffer : Bytes) : Bytes := bigEndian 4 buffer.length ++ buffer

/-- The bytes of a message that does not overflow. -/
def frame (buffers : List Bytes) : Bytes :=
  0 :: bigEndian 2 buffers.length ++ buffers.flatMap bufferFrame

theorem frame_length (message : Pickled) :
    (frame message.allBuffers).length = message.totalBytes + message.main.length + 1 := by
  have rest (buffers : List Bytes) : (buffers.flatMap bufferFrame).length =
      (buffers.map fun buffer => buffer.length + 4).sum := by
    induction buffers with
    | nil => rfl
    | cons buffer buffers ih =>
      rw [List.flatMap_cons, List.length_append, ih, List.map_cons, List.sum_cons,
        bufferFrame, List.length_append, bigEndian_length]
      omega
  rw [frame, List.cons_append, List.length_cons, List.length_append, rest, bigEndian_length,
    Pickled.totalBytes, Pickled.allBuffers, List.map_cons, List.sum_cons]
  omega

variable {maxChunkBytes : Nat} {message : Pickled}

/-- The size test counts one byte less than the frame has, and asks for one byte more. -/
theorem frame_fits (inline : message.overflows maxChunkBytes = false) :
    (frame message.allBuffers).length ≤ maxChunkBytes := by
  rw [Pickled.overflows, decide_eq_false_iff_not] at inline
  rw [frame_length]
  omega

private theorem assignSlice_append (done old bytes : Bytes) (fits : bytes.length ≤ old.length) :
    assignSlice (done ++ old) done.length bytes = some (done ++ bytes ++ old.drop bytes.length) := by
  rw [assignSlice, if_pos (by rw [List.length_append]; omega), List.take_left, List.drop_append]
  simp

variable {buffers : List Bytes}

private theorem applyWrites_buffers (done old : Bytes)
    (small : ∀ buffer ∈ buffers, buffer.length < 2 ^ 32)
    (fits : (buffers.flatMap bufferFrame).length ≤ old.length) :
    applyWrites (done ++ old) (bufferWrites done.length buffers) =
      some (done ++ buffers.flatMap bufferFrame ++ old.drop (buffers.flatMap bufferFrame).length) := by
  induction buffers generalizing done old with
  | nil => simp [bufferWrites, applyWrites]
  | cons buffer rest ih =>
    have isSmall : buffer.length < 256 ^ 4 := small buffer List.mem_cons_self
    rw [List.flatMap_cons, List.length_append, bufferFrame, List.length_append,
      bigEndian_length] at fits
    have wroteLength := assignSlice_append done old (bigEndian 4 buffer.length)
      (by rw [bigEndian_length]; omega)
    have wroteBuffer := assignSlice_append (done ++ bigEndian 4 buffer.length) (old.drop 4)
      buffer (by rw [List.length_drop]; omega)
    have wroteRest := ih (done ++ bigEndian 4 buffer.length ++ buffer)
      ((old.drop 4).drop buffer.length)
      (fun other member => small other (List.mem_cons_of_mem _ member))
      (by rw [List.length_drop, List.length_drop]; omega)
    rw [bigEndian_length] at wroteLength
    rw [List.length_append, bigEndian_length] at wroteBuffer
    rw [List.length_append, List.length_append, bigEndian_length] at wroteRest
    rw [bufferWrites, applyWrites, toBytesBig, if_pos isSmall]
    simp only [Option.bind_eq_bind, Option.bind_some, wroteLength, applyWrites, wroteBuffer,
      wroteRest]
    simp [bufferFrame, List.append_assoc, Nat.add_assoc, Nat.add_comm, Nat.add_left_comm]

variable {chunk : Bytes}

/-- `enqueue` leaves the frame at the front of the chunk. -/
theorem applyWrites_frame
    (sized : chunk.length = maxChunkBytes) (inline : message.overflows maxChunkBytes = false)
    (few : message.allBuffers.length < 2 ^ 16)
    (small : ∀ buffer ∈ message.allBuffers, buffer.length < 2 ^ 32) :
    applyWrites chunk (chunkWrites maxChunkBytes message) =
      some (frame message.allBuffers ++ chunk.drop (frame message.allBuffers).length) := by
  have fits := frame_fits inline
  have size : (frame message.allBuffers).length =
      1 + 2 + (message.allBuffers.flatMap bufferFrame).length := by
    rw [frame, List.cons_append, List.length_cons, List.length_append, bigEndian_length]
    omega
  have isFew : message.allBuffers.length < 256 ^ 2 := few
  have wroteKind := assignSlice_append [] chunk [0] (by rw [List.length_singleton]; omega)
  have wroteCount := assignSlice_append [0] (chunk.drop 1)
    (bigEndian 2 message.allBuffers.length)
    (by rw [bigEndian_length, List.length_drop]; omega)
  have wroteBuffers := applyWrites_buffers ([0] ++ bigEndian 2 message.allBuffers.length)
    ((chunk.drop 1).drop 2) small (by rw [List.length_drop, List.length_drop]; omega)
  rw [List.nil_append, List.nil_append, List.length_nil, List.length_singleton] at wroteKind
  rw [List.length_singleton, bigEndian_length] at wroteCount
  rw [List.length_append, List.length_singleton, bigEndian_length] at wroteBuffers
  rw [chunkWrites, if_neg (by simp [inline]), toBytesBig, if_pos isFew]
  simp only [applyWrites, Option.bind_eq_bind, Option.bind_some, wroteKind, wroteCount, wroteBuffers]
  rw [size, Nat.add_assoc, List.drop_drop, List.drop_drop]
  rfl

private theorem readSlice_middle (before bytes after : Bytes) {start stop : Nat}
    (isStart : before.length = start) (isStop : start + bytes.length = stop) :
    readSlice (before ++ bytes ++ after) start stop = bytes := by
  subst isStart isStop
  rw [readSlice, ← List.length_append, List.take_left, List.drop_left]

private theorem readBuffers_frame (before after : Bytes)
    (small : ∀ buffer ∈ buffers, buffer.length < 2 ^ 32) :
    readBuffers (before ++ buffers.flatMap bufferFrame ++ after) buffers.length before.length =
      buffers := by
  induction buffers generalizing before with
  | nil => rfl
  | cons buffer rest ih =>
    have isSmall : buffer.length < 256 ^ 4 := small buffer List.mem_cons_self
    have split : before ++ (buffer :: rest).flatMap bufferFrame ++ after =
        before ++ bigEndian 4 buffer.length ++ (buffer ++ rest.flatMap bufferFrame ++ after) := by
      simp [bufferFrame, List.append_assoc]
    have splitBuffer : before ++ (buffer :: rest).flatMap bufferFrame ++ after =
        (before ++ bigEndian 4 buffer.length) ++ buffer ++ (rest.flatMap bufferFrame ++ after) := by
      simp [bufferFrame, List.append_assoc]
    have splitRest : before ++ (buffer :: rest).flatMap bufferFrame ++ after =
        (before ++ bigEndian 4 buffer.length ++ buffer) ++ rest.flatMap bufferFrame ++ after := by
      simp [bufferFrame, List.append_assoc]
    have readLength := readSlice_middle before (bigEndian 4 buffer.length)
      (buffer ++ rest.flatMap bufferFrame ++ after)
      rfl (congrArg (before.length + ·) (bigEndian_length 4 buffer.length))
    have readBuffer := readSlice_middle (before ++ bigEndian 4 buffer.length) buffer
      (rest.flatMap bufferFrame ++ after)
      ((List.length_append).trans
        (congrArg (before.length + ·) (bigEndian_length 4 buffer.length))) rfl
    have readRest := ih (before ++ bigEndian 4 buffer.length ++ buffer)
      (fun other member => small other (List.mem_cons_of_mem _ member))
    rw [← split] at readLength
    rw [← splitBuffer] at readBuffer
    rw [← splitRest, List.length_append, List.length_append, bigEndian_length] at readRest
    rw [List.length_cons, readBuffers, readLength, fromBigEndian_bigEndian isSmall, readBuffer,
      readRest]

theorem readChunk_frame (after : Bytes) (few : buffers.length < 2 ^ 16)
    (small : ∀ buffer ∈ buffers, buffer.length < 2 ^ 32) :
    readChunk (frame buffers ++ after) = some (.buffers buffers) := by
  have isFew : buffers.length < 256 ^ 2 := few
  have split : frame buffers ++ after =
      [0] ++ bigEndian 2 buffers.length ++ (buffers.flatMap bufferFrame ++ after) := by
    simp [frame, List.append_assoc]
  have splitBuffers : frame buffers ++ after =
      ([0] ++ bigEndian 2 buffers.length) ++ buffers.flatMap bufferFrame ++ after := by
    simp [frame, List.append_assoc]
  have readCount : readSlice ([0] ++ bigEndian 2 buffers.length ++
      (buffers.flatMap bufferFrame ++ after)) 1 3 = bigEndian 2 buffers.length :=
    readSlice_middle _ _ _ rfl (congrArg (1 + ·) (bigEndian_length 2 buffers.length))
  have readAll := readBuffers_frame ([0] ++ bigEndian 2 buffers.length) after small
  rw [← split] at readCount
  rw [← splitBuffers, List.length_append, bigEndian_length] at readAll
  have unfolded : readChunk (frame buffers ++ after) = some (.buffers
      (readBuffers (frame buffers ++ after)
        (fromBigEndian (readSlice (frame buffers ++ after) 1 3)) 3)) := by
    conv_lhs => rw [split]
    rw [split]
    rfl
  rw [unfolded, readCount, fromBigEndian_bigEndian isFew]
  exact congrArg (fun all => some (ChunkContent.buffers all)) readAll

/-! ## Assignments that do not raise -/

theorem assignSlice_length {written bytes : Bytes} {offset : Nat}
    (ran : assignSlice chunk offset bytes = some written) : written.length = chunk.length := by
  rw [assignSlice] at ran
  split at ran
  · cases ran
    rw [List.length_append, List.length_append, List.length_take, List.length_drop]
    omega
  · cases ran

private theorem small_of_applyWrites {final : Bytes} {offset : Nat}
    (ran : applyWrites chunk (bufferWrites offset buffers) = some final) :
    ∀ buffer ∈ buffers, buffer.length < 2 ^ 32 := by
  induction buffers generalizing chunk offset with
  | nil => simp
  | cons buffer rest ih =>
    rw [bufferWrites, applyWrites] at ran
    simp only [Option.bind_eq_bind, Option.bind_eq_some_iff, toBytesBig] at ran
    obtain ⟨bytes, isBytes, written, _, ranRest⟩ := ran
    split at isBytes
    next isSmall =>
      simp only [applyWrites, Option.bind_eq_bind, Option.bind_some, Option.bind_eq_some_iff] at ranRest
      obtain ⟨_, _, ranLater⟩ := ranRest
      intro other member
      rcases List.mem_cons.mp member with rfl | isLater
      · exact isSmall
      · exact ih ranLater other isLater
    next => cases isBytes

theorem readChunk_written {final : Bytes} (sized : chunk.length = maxChunkBytes)
    (ran : applyWrites chunk (chunkWrites maxChunkBytes message) = some final) :
    readChunk final = some (message.content maxChunkBytes) := by
  rw [Pickled.content]
  cases inline : message.overflows maxChunkBytes with
  | true =>
    rw [chunkWrites, if_pos inline] at ran
    simp only [applyWrites, Option.bind_eq_bind, Option.bind_some, Option.bind_eq_some_iff] at ran
    obtain ⟨written, wrote, same⟩ := ran
    cases same
    rw [assignSlice] at wrote
    split at wrote
    · cases wrote
      rfl
    · cases wrote
  | false =>
    have ranWrites := ran
    rw [chunkWrites, if_neg (by simp [inline])] at ranWrites
    simp only [applyWrites, Option.bind_eq_bind, Option.bind_some, Option.bind_eq_some_iff,
      toBytesBig] at ranWrites
    obtain ⟨_, _, count, isCount, _, _, ranBuffers⟩ := ranWrites
    split at isCount
    next isFew =>
      have small := small_of_applyWrites ranBuffers
      rw [applyWrites_frame sized inline isFew small] at ran
      cases ran
      exact readChunk_frame _ isFew small
    next => cases isCount

end DeepSpark
