import DeepSpark.Broadcast.Framing

/-!
`MessageQueue` over a `ShmRingBuffer`, one memory access at a time.

Owns the shared memory, the program counters of the writer (`acquire_write`,
`enqueue`) and of the local readers (`acquire_read`, `dequeue`), and the steps
of both. Every read or write of a flag is a step of its own, and so is every
slice assignment to a chunk; the memory is sequentially consistent. Waiting,
the notify sockets and remote readers are left out: a party that waits repeats
its check or gives up.
-/

namespace DeepSpark

open Lib Function

/-- The sizes of a ring buffer. Shared memory of no chunks cannot be created. -/
structure RingConfig where
  maxChunkBytes : Nat
  maxChunks : Nat
  positive : 0 < maxChunks

inductive WriterPhase where
  | idle
  /-- In `check`: `sum` has added up the flags of the readers below `next`. -/
  | checking (message : Pickled) (next readCount : Nat)
  /-- The check passed. -/
  | unmarking (message : Pickled)
  /-- In the body of `acquire_write`. -/
  | writing (message : Pickled) (pending : List SliceWrite)
  /-- Resetting the flags of the readers from `next` on. -/
  | resetting (message : Pickled) (next : Nat)
  | marking (message : Pickled)
  /-- Before `send_multipart` of a message that overflowed. -/
  | sending (message : Pickled)

inductive ReaderPhase where
  | idle
  | checking
  /-- In `check`, after reading the own flag. -/
  | checkedFlag (readFlag : Bool)
  /-- In the body of `acquire_read`. -/
  | reading
  /-- The chunk has been read, the own flag not yet set. -/
  | finishing (content : ChunkContent)
  /-- In `recv` on the overflow socket. -/
  | receiving
deriving DecidableEq

/-- The shared memory, the two sides, and the history of what they did. -/
structure QueueState (n : Nat) where
  writtenFlag : Nat → Bool
  readFlag : Nat → Fin n → Bool
  chunk : Nat → Bytes
  writer : WriterPhase
  writerIdx : Nat
  reader : Fin n → ReaderPhase
  readerIdx : Fin n → Nat
  /-- The overflow messages on their way to each reader. -/
  channel : Fin n → List Pickled
  enqueued : List Pickled
  /-- The chunks each reader has marked as read. -/
  numRead : Fin n → Nat
  /-- What the calls of `dequeue` returned. -/
  delivered : Fin n → List (List Bytes)

namespace QueueState

variable {n : Nat} (config : RingConfig)

/-- `ShmRingBuffer.__init__` zeroes the flags. -/
def init : QueueState n where
  writtenFlag _ := false
  readFlag _ _ := false
  chunk _ := List.replicate config.maxChunkBytes 0
  writer := .idle
  writerIdx := 0
  reader _ := .idle
  readerIdx _ := 0
  channel _ := []
  enqueued := []
  numRead _ := 0
  delivered _ := []

def setReader (state : QueueState n) (r : Fin n) (phase : ReaderPhase) : QueueState n :=
  { state with reader := Function.update state.reader r phase }

def setReadFlag (state : QueueState n) (chunkIdx : Nat) (r : Fin n) (flag : Bool) : QueueState n :=
  { state with
    readFlag := Function.update state.readFlag chunkIdx
      (Function.update (state.readFlag chunkIdx) r flag) }

inductive WriterStep (state : QueueState n) : QueueState n → Prop
  | enqueue (message : Pickled) (isIdle : state.writer = .idle) :
      WriterStep state { state with writer := .checking message 0 0 }
  | readFlag {message : Pickled} {next readCount : Nat} (isBelow : next < n)
      (isChecking : state.writer = .checking message next readCount) :
      WriterStep state { state with
        writer := .checking message (next + 1)
          (readCount + (state.readFlag state.writerIdx ⟨next, isBelow⟩).toNat) }
  /-- `not (written_flag and read_count != n_reader)`. -/
  | pass {message : Pickled} {readCount : Nat}
      (isChecking : state.writer = .checking message n readCount)
      (passes : ¬ (state.writtenFlag state.writerIdx = true ∧ readCount ≠ n)) :
      WriterStep state { state with writer := .unmarking message }
  | retry {message : Pickled} {readCount : Nat}
      (isChecking : state.writer = .checking message n readCount)
      (fails : state.writtenFlag state.writerIdx = true ∧ readCount ≠ n) :
      WriterStep state { state with writer := .checking message 0 0 }
  /-- `TimeoutError`. -/
  | giveUp {message : Pickled} {readCount : Nat}
      (isChecking : state.writer = .checking message n readCount)
      (fails : state.writtenFlag state.writerIdx = true ∧ readCount ≠ n) :
      WriterStep state { state with writer := .idle }
  | unmark {message : Pickled} (isUnmarking : state.writer = .unmarking message) :
      WriterStep state { state with
        writtenFlag := Function.update state.writtenFlag state.writerIdx false
        writer := .writing message (chunkWrites config.maxChunkBytes message) }
  | write {message : Pickled} {offset : Nat} {bytes chunk : Bytes} {pending : List SliceWrite}
      (isWriting : state.writer = .writing message ((offset, some bytes) :: pending))
      (wrote : assignSlice (state.chunk state.writerIdx) offset bytes = some chunk) :
      WriterStep state { state with
        chunk := Function.update state.chunk state.writerIdx chunk
        writer := .writing message pending }
  /-- An exception in the body leaves the chunk unmarked. -/
  | abort {message : Pickled} {pending : List SliceWrite}
      (isWriting : state.writer = .writing message pending) :
      WriterStep state { state with writer := .idle }
  | wrote {message : Pickled} (isWriting : state.writer = .writing message []) :
      WriterStep state { state with writer := .resetting message 0 }
  | reset {message : Pickled} {next : Nat} (isBelow : next < n)
      (isResetting : state.writer = .resetting message next) :
      WriterStep state { state.setReadFlag state.writerIdx ⟨next, isBelow⟩ false with
        writer := .resetting message (next + 1) }
  | wereReset {message : Pickled} (isResetting : state.writer = .resetting message n) :
      WriterStep state { state with writer := .marking message }
  | mark {message : Pickled} (isMarking : state.writer = .marking message) :
      WriterStep state { state with
        writtenFlag := Function.update state.writtenFlag state.writerIdx true
        writerIdx := (state.writerIdx + 1) % config.maxChunks
        enqueued := state.enqueued ++ [message]
        writer := if message.overflows config.maxChunkBytes then .sending message else .idle }
  | send {message : Pickled} (isSending : state.writer = .sending message) :
      WriterStep state { state with
        channel := fun r => state.channel r ++ [message], writer := .idle }

def afterReading : ChunkContent → ReaderPhase
  | .overflow => .receiving
  | .buffers _ => .idle

/-- What `dequeue` returns without the overflow socket. -/
def received : ChunkContent → List (List Bytes)
  | .overflow => []
  | .buffers allBuffers => [allBuffers]

inductive ReaderStep (r : Fin n) (state : QueueState n) : QueueState n → Prop
  | dequeue (isIdle : state.reader r = .idle) : ReaderStep r state (state.setReader r .checking)
  | readFlag (isChecking : state.reader r = .checking) :
      ReaderStep r state
        (state.setReader r (.checkedFlag (state.readFlag (state.readerIdx r) r)))
  /-- `not (not written_flag or read_flag)`. -/
  | pass (isChecked : state.reader r = .checkedFlag false)
      (isWritten : state.writtenFlag (state.readerIdx r) = true) :
      ReaderStep r state (state.setReader r .reading)
  | retry {readFlag : Bool} (isChecked : state.reader r = .checkedFlag readFlag)
      (fails : readFlag = true ∨ state.writtenFlag (state.readerIdx r) = false) :
      ReaderStep r state (state.setReader r .checking)
  /-- `TimeoutError`, or `RuntimeError` of a shutdown. -/
  | giveUp {readFlag : Bool} (isChecked : state.reader r = .checkedFlag readFlag)
      (fails : readFlag = true ∨ state.writtenFlag (state.readerIdx r) = false) :
      ReaderStep r state (state.setReader r .idle)
  | readChunk {content : ChunkContent} (isReading : state.reader r = .reading)
      (found : DeepSpark.readChunk (state.chunk (state.readerIdx r)) = some content) :
      ReaderStep r state (state.setReader r (.finishing content))
  /-- An exception in the body leaves the chunk unread. -/
  | abort (isReading : state.reader r = .reading) : ReaderStep r state (state.setReader r .idle)
  | finish {content : ChunkContent} (isFinishing : state.reader r = .finishing content) :
      ReaderStep r state { (state.setReader r (afterReading content)).setReadFlag
          (state.readerIdx r) r true with
        readerIdx := Function.update state.readerIdx r ((state.readerIdx r + 1) % config.maxChunks)
        numRead := Function.update state.numRead r (state.numRead r + 1)
        delivered := Function.update state.delivered r (state.delivered r ++ received content) }
  | receive {message : Pickled} {rest : List Pickled} (isReceiving : state.reader r = .receiving)
      (arrived : state.channel r = message :: rest) :
      ReaderStep r state { state.setReader r .idle with
        channel := Function.update state.channel r rest
        delivered := Function.update state.delivered r (state.delivered r ++ [message.allBuffers]) }

/-- `TimeoutError` of `recv`: the marker in the ring has been consumed. -/
inductive ReceiveTimeout (r : Fin n) (state : QueueState n) : QueueState n → Prop
  | giveUp (isReceiving : state.reader r = .receiving) :
      ReceiveTimeout r state (state.setReader r .idle)

/-- One step of the system in which no `recv` times out. -/
inductive TimelyStep (state next : QueueState n) : Prop
  | writer (step : WriterStep config state next)
  | reader (r : Fin n) (step : ReaderStep config r state next)

inductive Step (state next : QueueState n) : Prop
  | timely (step : TimelyStep config state next)
  | timeout (r : Fin n) (step : ReceiveTimeout r state next)

inductive Reaches (step : QueueState n → QueueState n → Prop) (initial : QueueState n) :
    QueueState n → Prop
  | start : Reaches step initial initial
  | step {state next : QueueState n} (reached : Reaches step initial state)
      (taken : step state next) : Reaches step initial next

/-! ## The ring invariant -/

/-- The chunk of message `j` holds it, with the flags of the readers that have read it. -/
structure Holds (state : QueueState n) (j : Nat) : Prop where
  written : state.writtenFlag (j % config.maxChunks) = true
  content : DeepSpark.readChunk (state.chunk (j % config.maxChunks)) =
    state.enqueued[j]?.map (Pickled.content config.maxChunkBytes)
  flags : ∀ r, state.readFlag (j % config.maxChunks) r = decide (j < state.numRead r)

def WriterKnows (state : QueueState n) : Prop :=
  match state.writer with
  | .idle => True
  | .checking _ next readCount => readCount ≤ next ∧ next ≤ n ∧
      (readCount = next → ∀ r : Fin n, r.val < next → state.readFlag state.writerIdx r = true)
  | .unmarking _ => ∀ r, state.enqueued.length < state.numRead r + config.maxChunks
  | .writing message pending => state.writtenFlag state.writerIdx = false ∧
      ∀ final, applyWrites (state.chunk state.writerIdx) pending = some final →
        DeepSpark.readChunk final = some (message.content config.maxChunkBytes)
  | .resetting message next => state.writtenFlag state.writerIdx = false ∧ next ≤ n ∧
      DeepSpark.readChunk (state.chunk state.writerIdx) =
        some (message.content config.maxChunkBytes) ∧
      ∀ r : Fin n, r.val < next → state.readFlag state.writerIdx r = false
  | .marking message => state.writtenFlag state.writerIdx = false ∧
      DeepSpark.readChunk (state.chunk state.writerIdx) =
        some (message.content config.maxChunkBytes) ∧
      ∀ r : Fin n, state.readFlag state.writerIdx r = false
  | .sending _ => True

def ReaderKnows (state : QueueState n) (r : Fin n) : Prop :=
  match state.reader r with
  | .idle | .checking | .checkedFlag true | .receiving => True
  | .checkedFlag false => state.numRead r < state.enqueued.length ∨
      state.writtenFlag (state.readerIdx r) = false
  | .reading => state.numRead r < state.enqueued.length
  | .finishing content => state.enqueued[state.numRead r]?.map
      (Pickled.content config.maxChunkBytes) = some content

/-- The last `maxChunks` messages are in the ring, but for one whose chunk the
writer has unmarked after every reader had read it. -/
structure RingInvariant (state : QueueState n) : Prop where
  writerAt : state.writerIdx = state.enqueued.length % config.maxChunks
  readerAt : ∀ r, state.readerIdx r = state.numRead r % config.maxChunks
  sized : ∀ chunkIdx, (state.chunk chunkIdx).length = config.maxChunkBytes
  notAhead : ∀ r, state.numRead r ≤ state.enqueued.length
  notBehind : ∀ r, state.enqueued.length ≤ state.numRead r + config.maxChunks
  window : ∀ j, j < state.enqueued.length → state.enqueued.length < j + config.maxChunks →
    state.Holds config j
  oldest : state.writtenFlag state.writerIdx = true → config.maxChunks ≤ state.enqueued.length ∧
    state.Holds config (state.enqueued.length - config.maxChunks)
  consumed : state.writtenFlag state.writerIdx = false →
    ∀ r, state.enqueued.length < state.numRead r + config.maxChunks
  unused : ∀ chunkIdx, state.enqueued.length ≤ chunkIdx → chunkIdx < config.maxChunks →
    state.writtenFlag chunkIdx = false
  writerKnows : state.WriterKnows config
  readerKnows : ∀ r, state.ReaderKnows config r

theorem init_invariant : (init config : QueueState n).RingInvariant config := by
  constructor <;> simp [init, WriterKnows, ReaderKnows, config.positive]

variable {config}

theorem sameChunk {m early late : Nat} (ordered : early ≤ late) (near : late < early + m)
    (same : early % m = late % m) : early = late := by
  have divides : m ∣ late - early := (Nat.modEq_iff_dvd' ordered).mp same
  have := Nat.eq_zero_of_dvd_of_lt divides (by omega)
  omega

variable {r : Fin n}

section

variable {state : QueueState n} (invariant : state.RingInvariant config)

include invariant

theorem RingInvariant.holdsNext (isBehind : state.numRead r < state.enqueued.length) :
    state.Holds config (state.numRead r) := by
  have notBehind := invariant.notBehind r
  by_cases isInside : state.enqueued.length < state.numRead r + config.maxChunks
  · exact invariant.window _ isBehind isInside
  · have isOldest : state.enqueued.length - config.maxChunks = state.numRead r := by omega
    cases isWritten : state.writtenFlag state.writerIdx with
    | true => exact isOldest ▸ (invariant.oldest isWritten).2
    | false => exact absurd (invariant.consumed isWritten r) isInside

/-- A reader inside `acquire_read` is not on the chunk the writer has unmarked. -/
theorem RingInvariant.apart (isBehind : state.numRead r < state.enqueued.length)
    (unmarked : state.writtenFlag state.writerIdx = false) :
    state.readerIdx r ≠ state.writerIdx := by
  intro same
  rw [invariant.readerAt, invariant.writerAt] at same
  have := sameChunk (Nat.le_of_lt isBehind) (invariant.consumed unmarked r) same
  omega

/-! ## Steps of the writer -/

/-- The ring does not depend on the phases, the channels or what was delivered. -/
private theorem RingInvariant.withPhases (writer : WriterPhase) (reader : Fin n → ReaderPhase)
    (channel : Fin n → List Pickled) (delivered : Fin n → List (List Bytes))
    (writerKnows : ({ state with writer, reader, channel, delivered } : QueueState n).WriterKnows config)
    (readerKnows : ∀ r, ({ state with writer, reader, channel, delivered } : QueueState n).ReaderKnows config r) :
    ({ state with writer, reader, channel, delivered } : QueueState n).RingInvariant config where
  writerAt := invariant.writerAt
  readerAt := invariant.readerAt
  sized := invariant.sized
  notAhead := invariant.notAhead
  notBehind := invariant.notBehind
  window j isOld near := ⟨(invariant.window j isOld near).written,
    (invariant.window j isOld near).content, (invariant.window j isOld near).flags⟩
  oldest isWritten := ⟨(invariant.oldest isWritten).1, (invariant.oldest isWritten).2.written,
    (invariant.oldest isWritten).2.content, (invariant.oldest isWritten).2.flags⟩
  consumed := invariant.consumed
  unused := invariant.unused
  writerKnows := writerKnows
  readerKnows := readerKnows

private theorem RingInvariant.setWriter
    (phase : WriterPhase) (knows : ({ state with writer := phase } : QueueState n).WriterKnows config) :
    ({ state with writer := phase } : QueueState n).RingInvariant config :=
  invariant.withPhases phase state.reader state.channel state.delivered knows invariant.readerKnows

end

variable {message : Pickled}

private theorem RingInvariant.unmark {state : QueueState n} (invariant : state.RingInvariant config)
    (isUnmarking : state.writer = .unmarking message) :
    ({ state with
      writtenFlag := update state.writtenFlag state.writerIdx false
      writer := .writing message (chunkWrites config.maxChunkBytes message) } :
      QueueState n).RingInvariant config := by
  have consumed := invariant.writerKnows
  rw [WriterKnows, isUnmarking] at consumed
  constructor
  case writerAt => exact invariant.writerAt
  case readerAt => exact invariant.readerAt
  case sized => exact invariant.sized
  case notAhead => exact invariant.notAhead
  case notBehind => exact invariant.notBehind
  case window =>
    intro j isOld near
    have differ : j % config.maxChunks ≠ state.writerIdx := by
      intro same
      rw [invariant.writerAt] at same
      have := sameChunk (Nat.le_of_lt isOld) near same
      omega
    have holds := invariant.window j isOld near
    exact ⟨(update_of_ne differ false state.writtenFlag).trans holds.written, holds.content,
      holds.flags⟩
  case oldest =>
    intro isWritten
    have isUnmarked := update_self state.writerIdx false state.writtenFlag
    exact absurd (isUnmarked.symm.trans isWritten) Bool.false_ne_true
  case consumed => exact fun _ => consumed
  case unused =>
    intro chunkIdx notUsed isChunk
    dsimp only at notUsed ⊢
    by_cases same : chunkIdx = state.writerIdx
    · rw [same, update_self]
    · rw [update_of_ne same]
      exact invariant.unused chunkIdx notUsed isChunk
  case writerKnows =>
    exact ⟨update_self .., fun final ran => readChunk_written (invariant.sized _) ran⟩
  case readerKnows =>
    intro r
    have knows := invariant.readerKnows r
    unfold ReaderKnows at knows ⊢
    dsimp only
    split at knows
    case h_5 =>
      refine knows.imp_right fun isUnwritten => ?_
      by_cases same : state.readerIdx r = state.writerIdx
      · rw [same, update_self]
      · rw [update_of_ne same]
        exact isUnwritten
    all_goals exact knows

/-- While its chunk is unmarked, the writer may change the chunk and its reader flags. -/
private theorem RingInvariant.scribble {state : QueueState n} (invariant : state.RingInvariant config)
    (unmarked : state.writtenFlag state.writerIdx = false) {bytes : Bytes}
    (sized : bytes.length = config.maxChunkBytes) (flags : Fin n → Bool) (phase : WriterPhase)
    (knows : ({ state with
      chunk := update state.chunk state.writerIdx bytes
      readFlag := update state.readFlag state.writerIdx flags
      writer := phase } : QueueState n).WriterKnows config) :
    ({ state with
      chunk := update state.chunk state.writerIdx bytes
      readFlag := update state.readFlag state.writerIdx flags
      writer := phase } : QueueState n).RingInvariant config := by
  constructor
  case writerAt => exact invariant.writerAt
  case readerAt => exact invariant.readerAt
  case sized =>
    intro chunkIdx
    dsimp only
    by_cases same : chunkIdx = state.writerIdx
    · rw [same, update_self, sized]
    · rw [update_of_ne same]
      exact invariant.sized chunkIdx
  case notAhead => exact invariant.notAhead
  case notBehind => exact invariant.notBehind
  case window =>
    intro j isOld near
    have differ : j % config.maxChunks ≠ state.writerIdx := by
      intro same
      rw [invariant.writerAt] at same
      exact absurd (sameChunk (Nat.le_of_lt isOld) near same) (Nat.ne_of_lt isOld)
    have holds := invariant.window j isOld near
    constructor
    · exact holds.written
    · dsimp only
      rw [update_of_ne differ]
      exact holds.content
    · dsimp only
      rw [update_of_ne differ]
      exact holds.flags
  case oldest => exact fun isWritten => absurd (unmarked.symm.trans isWritten) Bool.false_ne_true
  case consumed => exact invariant.consumed
  case unused => exact invariant.unused
  case writerKnows => exact knows
  case readerKnows => exact invariant.readerKnows

private theorem RingInvariant.write {state : QueueState n} (invariant : state.RingInvariant config)
    {offset : Nat} {bytes chunk : Bytes} {pending : List SliceWrite}
    (isWriting : state.writer = .writing message ((offset, some bytes) :: pending))
    (wrote : assignSlice (state.chunk state.writerIdx) offset bytes = some chunk) :
    ({ state with
      chunk := update state.chunk state.writerIdx chunk
      writer := .writing message pending } : QueueState n).RingInvariant config := by
  have knows := invariant.writerKnows
  rw [WriterKnows, isWriting] at knows
  obtain ⟨unmarked, readsMessage⟩ := knows
  have result := invariant.scribble unmarked
    ((assignSlice_length wrote).trans (invariant.sized _)) (state.readFlag state.writerIdx)
    (.writing message pending) ⟨unmarked, fun final ran => by
      dsimp only at ran
      rw [update_self] at ran
      refine readsMessage final ?_
      rw [applyWrites]
      simp only [Option.bind_eq_bind, Option.bind_some, wrote, ran]⟩
  rw [update_eq_self] at result
  exact result

private theorem RingInvariant.reset {state : QueueState n} (invariant : state.RingInvariant config)
    {next : Nat} (isBelow : next < n)
    (isResetting : state.writer = .resetting message next) :
    ({ state.setReadFlag state.writerIdx ⟨next, isBelow⟩ false with
      writer := .resetting message (next + 1) } : QueueState n).RingInvariant config := by
  have knows := invariant.writerKnows
  rw [WriterKnows, isResetting] at knows
  obtain ⟨unmarked, -, content, wereReset⟩ := knows
  have result := invariant.scribble unmarked (invariant.sized state.writerIdx)
    (update (state.readFlag state.writerIdx) ⟨next, isBelow⟩ false)
    (.resetting message (next + 1)) ⟨unmarked, isBelow, by
      dsimp only
      rw [update_self]
      exact content, fun r isEarlier => by
      dsimp only
      rw [update_self]
      by_cases same : r = ⟨next, isBelow⟩
      · rw [same, update_self]
      · rw [update_of_ne same]
        refine wereReset r (Nat.lt_of_le_of_ne (Nat.le_of_lt_succ isEarlier) fun isNext => ?_)
        exact same (Fin.ext isNext)⟩
  rw [update_eq_self state.writerIdx state.chunk] at result
  exact result

private theorem RingInvariant.mark {state : QueueState n} (invariant : state.RingInvariant config)
    (isMarking : state.writer = .marking message) (phase : WriterPhase)
    (isAfter : phase = .idle ∨ phase = .sending message) :
    ({ state with
      writtenFlag := update state.writtenFlag state.writerIdx true
      writerIdx := (state.writerIdx + 1) % config.maxChunks
      enqueued := state.enqueued ++ [message]
      writer := phase } : QueueState n).RingInvariant config := by
  have knows := invariant.writerKnows
  rw [WriterKnows, isMarking] at knows
  obtain ⟨unmarked, content, wereReset⟩ := knows
  have consumed := invariant.consumed unmarked
  have positive := config.positive
  have count : (state.enqueued ++ [message]).length = state.enqueued.length + 1 := by
    rw [List.length_append, List.length_singleton]
  have nextIdx : (state.writerIdx + 1) % config.maxChunks =
      (state.enqueued.length + 1) % config.maxChunks := by
    rw [invariant.writerAt, Nat.mod_add_mod]
  -- the chunks of the messages that stay in the ring, the new one included
  have holds (j : Nat) (isOld : j < state.enqueued.length + 1)
      (near : state.enqueued.length < j + config.maxChunks) :
      ({ state with
        writtenFlag := update state.writtenFlag state.writerIdx true
        writerIdx := (state.writerIdx + 1) % config.maxChunks
        enqueued := state.enqueued ++ [message]
        writer := phase } : QueueState n).Holds config j := by
    by_cases isNew : j = state.enqueued.length
    · subst isNew
      constructor
      · dsimp only
        rw [← invariant.writerAt, update_self]
      · dsimp only
        rw [← invariant.writerAt, content, List.getElem?_concat_length, Option.map_some]
      · intro r
        rw [← invariant.writerAt, wereReset r]
        exact (decide_eq_false (Nat.not_lt.mpr (invariant.notAhead r))).symm
    · have wasOld : j < state.enqueued.length := by omega
      have differ : j % config.maxChunks ≠ state.writerIdx := by
        intro same
        rw [invariant.writerAt] at same
        exact isNew (sameChunk (Nat.le_of_lt wasOld) near same)
      have was := invariant.window j wasOld near
      constructor
      · exact (update_of_ne differ true state.writtenFlag).trans was.written
      · refine was.content.trans ?_
        rw [List.getElem?_append_left wasOld]
      · exact was.flags
  constructor
  case writerAt => exact nextIdx.trans (by rw [← count])
  case readerAt => exact invariant.readerAt
  case sized => exact invariant.sized
  case notAhead =>
    intro r
    exact Nat.le_trans (invariant.notAhead r) (by dsimp only; omega)
  case notBehind =>
    intro r
    have := consumed r
    dsimp only
    omega
  case window =>
    intro j isOld near
    dsimp only at isOld near
    exact holds j (by omega) (by omega)
  case oldest =>
    intro isWritten
    dsimp only at isWritten ⊢
    rw [nextIdx] at isWritten
    have isFull : config.maxChunks ≤ state.enqueued.length + 1 := by
      by_contra notFull
      have isNext : (state.enqueued.length + 1) % config.maxChunks = state.enqueued.length + 1 :=
        Nat.mod_eq_of_lt (by omega)
      have isLast : state.writerIdx = state.enqueued.length :=
        invariant.writerAt.trans (Nat.mod_eq_of_lt (by omega))
      rw [isNext, update_of_ne (by omega),
        invariant.unused _ (by omega) (by omega)] at isWritten
      cases isWritten
    rw [count]
    exact ⟨isFull, holds _ (by omega) (by omega)⟩
  case consumed =>
    intro isUnmarked r
    rw [count]
    by_cases isFull : config.maxChunks ≤ state.enqueued.length + 1
    · have written := (holds (state.enqueued.length + 1 - config.maxChunks) (by omega)
        (by omega)).written
      have sameIdx : (state.enqueued.length + 1 - config.maxChunks) % config.maxChunks =
          (state.enqueued.length + 1) % config.maxChunks := (Nat.mod_eq_sub_mod isFull).symm
      rw [sameIdx, ← nextIdx] at written
      exact absurd (isUnmarked.symm.trans written) Bool.false_ne_true
    · omega
  case unused =>
    intro chunkIdx notUsed isChunk
    dsimp only at notUsed ⊢
    rw [count] at notUsed
    have isLast : state.writerIdx = state.enqueued.length :=
      invariant.writerAt.trans (Nat.mod_eq_of_lt (by omega))
    rw [update_of_ne (by omega)]
    exact invariant.unused chunkIdx (by omega) isChunk
  case writerKnows => rcases isAfter with rfl | rfl <;> exact trivial
  case readerKnows =>
    intro r
    have knows := invariant.readerKnows r
    unfold ReaderKnows at knows ⊢
    dsimp only
    split at knows
    case h_5 =>
      rw [count]
      rcases knows with isBehind | isUnwritten
      · exact .inl (by omega)
      · by_cases same : state.readerIdx r = state.writerIdx
        · left
          have atSame := same
          rw [invariant.readerAt, invariant.writerAt] at atSame
          have := sameChunk (invariant.notAhead r) (consumed r) atSame
          omega
        · exact .inr ((update_of_ne same true state.writtenFlag).trans isUnwritten)
    case h_6 =>
      rw [count]
      omega
    case h_7 =>
      rw [List.getElem?_append_left]
      · exact knows
      · obtain ⟨found, isFound, -⟩ := Option.map_eq_some_iff.mp knows
        exact (List.getElem?_eq_some_iff.mp isFound).1
    all_goals exact trivial

theorem RingInvariant.writerStep {state next : QueueState n} (invariant : state.RingInvariant config)
    (step : WriterStep config state next) : next.RingInvariant config := by
  have knows := invariant.writerKnows
  unfold WriterKnows at knows
  cases step with
  | enqueue message isIdle =>
    exact invariant.setWriter _ ⟨Nat.le_refl _, Nat.zero_le _, fun _ r isBelow => by omega⟩
  | readFlag isBelow isChecking =>
    rw [isChecking] at knows
    obtain ⟨countLe, -, allRead⟩ := knows
    have flagLe := Bool.toNat_le (state.readFlag state.writerIdx ⟨_, isBelow⟩)
    refine invariant.setWriter _ ⟨by omega, isBelow, fun isAll r isEarlier => ?_⟩
    have flagRead : (state.readFlag state.writerIdx ⟨_, isBelow⟩).toNat = 1 := by omega
    rcases Nat.lt_succ_iff_lt_or_eq.mp isEarlier with isOld | isNew
    · exact allRead (by omega) r isOld
    · have same : r = ⟨_, isBelow⟩ := Fin.ext isNew
      rw [same]
      exact Bool.toNat_eq_one.mp flagRead
  | pass isChecking passes =>
    rw [isChecking] at knows
    obtain ⟨-, -, allRead⟩ := knows
    refine invariant.setWriter _ fun r => ?_
    -- either the chunk is unmarked, or every reader has read it
    cases isWritten : state.writtenFlag state.writerIdx with
    | false => exact invariant.consumed isWritten r
    | true =>
      obtain ⟨isFull, holds⟩ := invariant.oldest isWritten
      have isAll : _ = n := by_contra fun differ => passes ⟨isWritten, differ⟩
      have flag := allRead isAll r r.isLt
      have sameIdx : (state.enqueued.length - config.maxChunks) % config.maxChunks =
          state.writerIdx := by
        rw [invariant.writerAt]
        exact (Nat.mod_eq_sub_mod isFull).symm
      have wasRead := (holds.flags r).symm.trans (sameIdx ▸ flag)
      rw [decide_eq_true_iff] at wasRead
      dsimp only
      omega
  | retry isChecking fails =>
    exact invariant.setWriter _ ⟨Nat.le_refl _, Nat.zero_le _, fun _ r isBelow => by omega⟩
  | giveUp isChecking fails => exact invariant.setWriter _ trivial
  | unmark isUnmarking => exact invariant.unmark isUnmarking
  | write isWriting wrote => exact invariant.write isWriting wrote
  | abort isWriting => exact invariant.setWriter _ trivial
  | wrote isWriting =>
    rw [isWriting] at knows
    exact invariant.setWriter _
      ⟨knows.1, Nat.zero_le _, knows.2 _ rfl, fun r isBelow => by omega⟩
  | reset isBelow isResetting => exact invariant.reset isBelow isResetting
  | wereReset isResetting =>
    rw [isResetting] at knows
    exact invariant.setWriter _ ⟨knows.1, knows.2.2.1, fun r => knows.2.2.2 r r.isLt⟩
  | mark isMarking =>
    refine invariant.mark isMarking _ ?_
    split
    · exact .inr rfl
    · exact .inl rfl
  | send isSending =>
    exact invariant.withPhases .idle state.reader _ state.delivered trivial invariant.readerKnows

/-! ## Steps of the readers -/

private theorem RingInvariant.setReader {state : QueueState n} (invariant : state.RingInvariant config)
    (r : Fin n) (phase : ReaderPhase) (knows : (state.setReader r phase).ReaderKnows config r) :
    (state.setReader r phase).RingInvariant config := by
  have readerKnows (other : Fin n) : (state.setReader r phase).ReaderKnows config other := by
    by_cases same : other = r
    · exact same ▸ knows
    · have was := invariant.readerKnows other
      have unchanged : (state.setReader r phase).reader other = state.reader other :=
        update_of_ne same _ _
      unfold ReaderKnows at was ⊢
      rw [unchanged]
      exact was
  exact invariant.withPhases _ _ _ _ invariant.writerKnows readerKnows

/-- The queue after a reader has finished with a chunk. -/
abbrev finished (state : QueueState n) (config : RingConfig) (r : Fin n) (content : ChunkContent) : QueueState n :=
  { (state.setReader r (afterReading content)).setReadFlag (state.readerIdx r) r true with
    readerIdx := update state.readerIdx r ((state.readerIdx r + 1) % config.maxChunks)
    numRead := update state.numRead r (state.numRead r + 1)
    delivered := update state.delivered r (state.delivered r ++ received content) }

private theorem RingInvariant.finish {state : QueueState n} (invariant : state.RingInvariant config)
    {content : ChunkContent} (isFinishing : state.reader r = .finishing content) :
    (state.finished config r content).RingInvariant config := by
  have isBehind : state.numRead r < state.enqueued.length := by
    have knows := invariant.readerKnows r
    rw [ReaderKnows, isFinishing] at knows
    obtain ⟨found, isFound, -⟩ := Option.map_eq_some_iff.mp knows
    exact (List.getElem?_eq_some_iff.mp isFound).1
  have notBehind := invariant.notBehind r
  -- the flag of a reader in a chunk, after the step
  have flagAfter (chunkIdx : Nat) (other : Fin n) :
      update state.readFlag (state.readerIdx r)
        (update (state.readFlag (state.readerIdx r)) r true) chunkIdx other =
        if chunkIdx = state.readerIdx r ∧ other = r then true else state.readFlag chunkIdx other := by
    by_cases sameChunk : chunkIdx = state.readerIdx r
    · rw [sameChunk, update_self]
      by_cases sameReader : other = r
      · rw [sameReader, update_self, if_pos ⟨rfl, rfl⟩]
      · rw [update_of_ne sameReader, if_neg (fun both => sameReader both.2)]
    · rw [update_of_ne sameChunk, if_neg (fun both => sameChunk both.1)]
  have holds (j : Nat) (isOld : j < state.enqueued.length)
      (near : state.enqueued.length ≤ j + config.maxChunks) (was : state.Holds config j) :
      (state.finished config r content).Holds config j := by
    refine ⟨was.written, was.content, fun other => (flagAfter _ other).trans ?_⟩
    by_cases sameReader : other = r
    · simp only [sameReader, update_self]
      by_cases isNext : j = state.numRead r
      · rw [invariant.readerAt, isNext, if_pos ⟨rfl, trivial⟩]
        exact (decide_eq_true (Nat.lt_succ_self _)).symm
      · have differ : j % config.maxChunks ≠ state.readerIdx r := by
          intro same
          rw [invariant.readerAt] at same
          rcases Nat.lt_or_gt_of_ne isNext with isBelow | isAbove
          · exact isNext (sameChunk (Nat.le_of_lt isBelow) (by omega) same)
          · exact isNext (sameChunk (Nat.le_of_lt isAbove) (by omega) same.symm).symm
        rw [if_neg (fun both => differ both.1), was.flags r]
        exact decide_eq_decide.mpr (by omega)
    · simp only [update_of_ne sameReader]
      rw [if_neg (fun both => sameReader both.2)]
      exact was.flags other
  have numReadAfter (other : Fin n) :
      state.numRead other ≤ update state.numRead r (state.numRead r + 1) other ∧
        update state.numRead r (state.numRead r + 1) other ≤ state.enqueued.length := by
    by_cases same : other = r
    · rw [same, update_self]
      omega
    · rw [update_of_ne same]
      exact ⟨Nat.le_refl _, invariant.notAhead other⟩
  constructor
  case writerAt => exact invariant.writerAt
  case readerAt =>
    intro other
    dsimp only
    by_cases same : other = r
    · rw [same, update_self, update_self, invariant.readerAt, Nat.mod_add_mod]
    · rw [update_of_ne same, update_of_ne same, invariant.readerAt]
  case sized => exact invariant.sized
  case notAhead => exact fun other => (numReadAfter other).2
  case notBehind =>
    exact fun other => Nat.le_trans (invariant.notBehind other)
      (Nat.add_le_add_right (numReadAfter other).1 _)
  case window =>
    exact fun j isOld near => holds j isOld (Nat.le_of_lt near) (invariant.window j isOld near)
  case oldest =>
    intro isWritten
    obtain ⟨isFull, was⟩ := invariant.oldest isWritten
    exact ⟨isFull, holds (state.enqueued.length - config.maxChunks) (by omega) (by omega) was⟩
  case consumed =>
    exact fun unmarked other => Nat.lt_of_lt_of_le (invariant.consumed unmarked other)
      (Nat.add_le_add_right (numReadAfter other).1 _)
  case unused => exact invariant.unused
  case writerKnows =>
    have was := invariant.writerKnows
    -- the chunk the writer has unmarked is not the one this reader marks as read
    have flagKept (unmarked : state.writtenFlag state.writerIdx = false) (other : Fin n) :
        update state.readFlag (state.readerIdx r)
          (update (state.readFlag (state.readerIdx r)) r true) state.writerIdx other =
          state.readFlag state.writerIdx other := by
      rw [flagAfter, if_neg]
      exact fun both => invariant.apart isBehind unmarked both.1.symm
    show match state.writer with
      | .idle => True
      | .checking _ next readCount => _
      | .unmarking _ => _
      | .writing message pending => _
      | .resetting message next => _
      | .marking message => _
      | .sending _ => True
    unfold WriterKnows at was
    split at was
    case h_1 => exact trivial
    case h_2 =>
      refine ⟨was.1, was.2.1, fun isAll other isBelow => (flagAfter _ other).trans ?_⟩
      split
      · rfl
      · exact was.2.2 isAll other isBelow
    case h_3 =>
      exact fun other => Nat.lt_of_lt_of_le (was other)
        (Nat.add_le_add_right (numReadAfter other).1 _)
    case h_4 => exact was
    case h_5 =>
      exact ⟨was.1, was.2.1, was.2.2.1, fun other isBelow =>
        (flagKept was.1 other).trans (was.2.2.2 other isBelow)⟩
    case h_6 =>
      exact ⟨was.1, was.2.1, fun other => (flagKept was.1 other).trans (was.2.2 other)⟩
    case h_7 => exact trivial
  case readerKnows =>
    intro other
    by_cases same : other = r
    · subst same
      have phase : update state.reader other (afterReading content) other =
          afterReading content := update_self ..
      show match update state.reader other (afterReading content) other with
        | .idle | .checking | .checkedFlag true | .receiving => True
        | .checkedFlag false => _
        | .reading => _
        | .finishing content => _
      rw [phase]
      cases content <;> exact trivial
    · have was := invariant.readerKnows other
      show match update state.reader r (afterReading content) other with
        | .idle | .checking | .checkedFlag true | .receiving => True
        | .checkedFlag false =>
          update state.numRead r (state.numRead r + 1) other < state.enqueued.length ∨
            state.writtenFlag (update state.readerIdx r
              ((state.readerIdx r + 1) % config.maxChunks) other) = false
        | .reading =>
          update state.numRead r (state.numRead r + 1) other < state.enqueued.length
        | .finishing content =>
          state.enqueued[update state.numRead r (state.numRead r + 1) other]?.map
            (Pickled.content config.maxChunkBytes) = some content
      rw [update_of_ne same, update_of_ne same, update_of_ne same]
      exact was

theorem RingInvariant.readerStep {state next : QueueState n} (invariant : state.RingInvariant config)
    (step : ReaderStep config r state next) : next.RingInvariant config := by
  have knows := invariant.readerKnows r
  unfold ReaderKnows at knows
  have moved (phase : ReaderPhase) : (state.setReader r phase).reader r = phase :=
    update_self ..
  cases step with
  | dequeue isIdle =>
    apply invariant.setReader
    rw [ReaderKnows, moved]
    exact trivial
  | readFlag isChecking =>
    apply invariant.setReader
    rw [ReaderKnows, moved]
    cases isFlag : state.readFlag (state.readerIdx r) r with
    | true => exact trivial
    | false =>
      -- an unset flag: a new message, or a chunk that is not written
      show state.numRead r < state.enqueued.length ∨
        state.writtenFlag (state.readerIdx r) = false
      by_cases isBehind : state.numRead r < state.enqueued.length
      · exact .inl isBehind
      · right
        have isLast : state.numRead r = state.enqueued.length :=
          Nat.le_antisymm (invariant.notAhead r) (Nat.le_of_not_lt isBehind)
        have sameIdx : state.readerIdx r = state.writerIdx := by
          rw [invariant.readerAt, invariant.writerAt, isLast]
        by_contra isWritten
        rw [Bool.not_eq_false, sameIdx] at isWritten
        obtain ⟨isFull, holds⟩ := invariant.oldest isWritten
        have oldIdx : (state.enqueued.length - config.maxChunks) % config.maxChunks =
            state.readerIdx r := by
          rw [sameIdx, invariant.writerAt]
          exact (Nat.mod_eq_sub_mod isFull).symm
        have wasRead := (holds.flags r).symm.trans (oldIdx ▸ isFlag)
        rw [decide_eq_false_iff_not] at wasRead
        have := config.positive
        omega
  | pass isChecked isWritten =>
    rw [isChecked] at knows
    apply invariant.setReader
    rw [ReaderKnows, moved]
    exact knows.resolve_right (by rw [isWritten]; exact Bool.noConfusion)
  | retry isChecked fails =>
    apply invariant.setReader
    rw [ReaderKnows, moved]
    exact trivial
  | giveUp isChecked fails =>
    apply invariant.setReader
    rw [ReaderKnows, moved]
    exact trivial
  | readChunk isReading found =>
    rw [isReading] at knows
    apply invariant.setReader
    rw [ReaderKnows, moved]
    have holds := invariant.holdsNext knows
    rw [invariant.readerAt, holds.content] at found
    exact found
  | abort isReading =>
    apply invariant.setReader
    rw [ReaderKnows, moved]
    exact trivial
  | finish isFinishing => exact invariant.finish isFinishing
  | receive isReceiving arrived =>
    have idle := invariant.setReader r .idle (by
      rw [ReaderKnows, moved]
      exact trivial)
    exact idle.withPhases _ _ _ _ idle.writerKnows idle.readerKnows

theorem RingInvariant.timelyStep {state next : QueueState n} (invariant : state.RingInvariant config)
    (step : TimelyStep config state next) : next.RingInvariant config := by
  cases step with
  | writer step => exact invariant.writerStep step
  | reader r step => exact invariant.readerStep step

theorem RingInvariant.step {state next : QueueState n} (invariant : state.RingInvariant config)
    (step : Step config state next) : next.RingInvariant config := by
  cases step with
  | timely step => exact invariant.timelyStep step
  | timeout r step =>
    cases step with
    | giveUp isReceiving =>
      apply invariant.setReader
      have idle : (state.setReader r .idle).reader r = .idle := update_self ..
      rw [ReaderKnows, idle]
      exact trivial

theorem reaches_invariant {state : QueueState n} (reached : Reaches (Step config) (init config) state) :
    state.RingInvariant config := by
  induction reached with
  | start => exact init_invariant config
  | step _ taken ih => exact ih.step taken

end QueueState

end DeepSpark
