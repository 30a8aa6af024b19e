import DeepSpark.Broadcast.Failures

/-!
Messages of `MessageQueue` that refer to the chunk they were read from.

Owns the references to out-of-band buffers that `dequeue` hands to `pickle`, and when the
writer leaves the chunk alone until the next `dequeue`: when it is less than a ring ahead of
the message in use.
-/

namespace DeepSpark

open Lib Function Relation Pickled

/-- The slices of the buffer loop of `dequeue`. -/
def bufferRanges (chunk : Bytes) : Nat → Nat → List (Nat × Nat)
  | 0, _ => []
  | count + 1, offset =>
    let length := Bytes.fromBigEndian (readSlice chunk offset (offset + 4))
    (offset + 4, offset + 4 + length) :: bufferRanges chunk count (offset + 4 + length)

/-- The buffers that the message refers to: `all_buffers[1:]`. The pickle is read by `loads`. -/
def outOfBandRanges (chunk : Bytes) : List (Nat × Nat) :=
  (bufferRanges chunk (Bytes.fromBigEndian (readSlice chunk 1 3)) 3).tail

def readRanges (chunk : Bytes) (ranges : List (Nat × Nat)) : List Bytes :=
  ranges.map fun (start, stop) => readSlice chunk start stop

theorem readBuffers_eq (chunk : Bytes) (count offset : Nat) :
    readBuffers chunk count offset = readRanges chunk (bufferRanges chunk count offset) := by
  induction count generalizing offset with
  | zero => rfl
  | succ count ih =>
    rw [readBuffers, bufferRanges, ih]
    rfl

theorem readChunk_buffers {chunk : Bytes} {allBuffers : List Bytes}
    (found : readChunk chunk = some (.buffers allBuffers)) :
    allBuffers = readBuffers chunk (Bytes.fromBigEndian (readSlice chunk 1 3)) 3 := by
  unfold readChunk at found
  split at found
  next => exact nomatch found
  next =>
    split at found
    next => exact nomatch found
    next =>
      cases found
      rfl

theorem readRanges_outOfBand {chunk : Bytes} {allBuffers : List Bytes}
    (found : readChunk chunk = some (.buffers allBuffers)) :
    readRanges chunk (outOfBandRanges chunk) = allBuffers.tail := by
  rw [readChunk_buffers found, readBuffers_eq]
  exact List.map_tail

/-- A message in use: the chunk, where its buffers are, and what they were. -/
structure HeldBuffers where
  chunkIdx : Nat
  ranges : List (Nat × Nat)
  bytes : List Bytes

/-- A queue, with the message each reader has dequeued last from a chunk and uses until its
next `dequeue`. -/
structure UseState (n : Nat) where
  queue : QueueState n
  held : Fin n → Option HeldBuffers

namespace UseState

open QueueState

variable {n : Nat} (config : RingConfig)

def nextHeld (queue next : QueueState n) (held : Fin n → Option HeldBuffers) (r : Fin n) : Option HeldBuffers :=
  match queue.reader r, next.reader r with
  | .finishing (.buffers allBuffers), .idle => some {
      chunkIdx := queue.readerIdx r
      ranges := outOfBandRanges (queue.chunk (queue.readerIdx r))
      bytes := allBuffers.tail }
  | .idle, .checking => none
  | _, _ => held r

structure UseStep (state next : UseState n) : Prop where
  step : Step config state.queue next.queue
  held : next.held = nextHeld state.queue next.queue state.held

/-- The writer assigns to a chunk only while it is less than a ring ahead of every message in
use. -/
structure SafeStep (state next : UseState n) : Prop where
  step : UseStep config state next
  safe : ∀ message write pending, state.queue.writer = .writing message (write :: pending) →
    next.queue.writer = .writing message pending → ∀ r held, state.held r = some held →
      held.bytes ≠ [] → state.queue.enqueued.length + 1 < state.queue.numRead r + config.maxChunks

def start : UseState n := ⟨.init config, fun _ => none⟩

structure HeldLast (state : UseState n) : Prop where
  idle : ∀ r held, state.held r = some held → state.queue.reader r = .idle
  positive : ∀ r held, state.held r = some held → 0 < state.queue.numRead r
  chunkIdx : ∀ r held, state.held r = some held →
    held.chunkIdx = (state.queue.numRead r - 1) % config.maxChunks

def Unchanged (state : UseState n) : Prop :=
  ∀ r held, state.held r = some held → readRanges (state.queue.chunk held.chunkIdx) held.ranges = held.bytes

def HeldRanges (state : UseState n) : Prop :=
  ∀ r held, state.held r = some held → held.bytes = [] → held.ranges = []

variable {config} {queue : QueueState n} {r : Fin n}

variable {next : QueueState n}

theorem nextHeld_of_same {held : Fin n → Option HeldBuffers}
    (same : next.reader r = queue.reader r) : nextHeld queue next held r = held r := by
  unfold nextHeld
  rw [same]
  split <;> simp_all

theorem writerStep_frame (step : WriterStep config queue next) :
    next.reader = queue.reader ∧ next.numRead = queue.numRead := by
  cases step <;> exact ⟨rfl, rfl⟩

theorem readerStep_other {other : Fin n} (differ : r ≠ other)
    (step : ReaderStep config other queue next) :
    next.reader r = queue.reader r ∧ next.numRead r = queue.numRead r := by
  cases step <;> simp [setReader, setReadFlag, update_of_ne differ]

theorem timeout_frame {other : Fin n} (step : ReceiveTimeout other queue next) :
    queue.reader other = .receiving ∧
      ∀ r, r ≠ other → next.reader r = queue.reader r ∧ next.numRead r = queue.numRead r := by
  cases step with
  | giveUp isReceiving => exact ⟨isReceiving, fun r differ => ⟨update_of_ne differ _ _, rfl⟩⟩

theorem readerStep_held {held : Fin n → Option HeldBuffers}
    (idle : ∀ buffers, held r = some buffers → queue.reader r = .idle)
    (step : ReaderStep config r queue next) {buffers : HeldBuffers} (isHeld : nextHeld queue next held r = some buffers) :
    ∃ allBuffers, queue.reader r = .finishing (.buffers allBuffers) ∧ next.reader r = .idle ∧
      next.numRead r = queue.numRead r + 1 ∧ next.chunk = queue.chunk ∧
      buffers = ⟨queue.readerIdx r, outOfBandRanges (queue.chunk (queue.readerIdx r)), allBuffers.tail⟩ := by
  have moved (phase : ReaderPhase) : (queue.setReader r phase).reader r = phase := update_self ..
  unfold nextHeld at isHeld
  cases step with
  | dequeue isIdle =>
    rw [isIdle, moved] at isHeld
    exact nomatch isHeld
  | readFlag isChecking =>
    rw [isChecking] at isHeld idle
    exact nomatch idle buffers isHeld
  | pass isChecked isWritten =>
    rw [isChecked] at isHeld idle
    exact nomatch idle buffers isHeld
  | retry isChecked fails =>
    rw [isChecked] at isHeld idle
    exact nomatch idle buffers isHeld
  | giveUp isChecked fails =>
    rw [isChecked] at isHeld idle
    exact nomatch idle buffers isHeld
  | readChunk isReading found =>
    rw [isReading] at isHeld idle
    exact nomatch idle buffers isHeld
  | abort isReading =>
    rw [isReading] at isHeld idle
    exact nomatch idle buffers isHeld
  | receive isReceiving arrived =>
    rw [isReceiving] at isHeld idle
    exact nomatch idle buffers isHeld
  | finish isFinishing =>
    rename_i content
    have after : update queue.reader r (afterReading content) r = afterReading content :=
      update_self ..
    cases content with
    | overflow =>
      rw [isFinishing] at isHeld idle
      exact nomatch idle buffers isHeld
    | buffers allBuffers =>
      change (match queue.reader r, update queue.reader r (afterReading (.buffers allBuffers)) r with
        | .finishing (.buffers allBuffers), .idle => _
        | .idle, .checking => none
        | _, _ => held r) = some buffers at isHeld
      rw [isFinishing, after] at isHeld
      refine ⟨allBuffers, isFinishing, after, update_self .., rfl, ?_⟩
      exact (Option.some.inj isHeld).symm

/-- A message in use was in use before and its reader has done nothing since, or has just
been dequeued. -/
theorem UseStep.cases {state next : UseState n} (heldLast : state.HeldLast config)
    (taken : UseStep config state next) {held : HeldBuffers} (isHeld : next.held r = some held) :
    (state.held r = some held ∧ next.queue.reader r = .idle ∧ next.queue.numRead r = state.queue.numRead r) ∨
    (∃ allBuffers, state.queue.reader r = .finishing (.buffers allBuffers) ∧ next.queue.reader r = .idle ∧
      next.queue.numRead r = state.queue.numRead r + 1 ∧ next.queue.chunk = state.queue.chunk ∧
      held = ⟨state.queue.readerIdx r, outOfBandRanges (state.queue.chunk (state.queue.readerIdx r)),
        allBuffers.tail⟩) := by
  rw [taken.held] at isHeld
  have ifSame (same : next.queue.reader r = state.queue.reader r)
      (sameCount : next.queue.numRead r = state.queue.numRead r) :
      state.held r = some held ∧ next.queue.reader r = .idle ∧
        next.queue.numRead r = state.queue.numRead r := by
    rw [nextHeld_of_same same] at isHeld
    exact ⟨isHeld, same.trans (heldLast.idle r held isHeld), sameCount⟩
  rcases taken.step with (writes | ⟨other, reads⟩) | ⟨other, timesOut⟩
  · have frame := writerStep_frame writes
    exact .inl (ifSame (congrFun frame.1 r) (congrFun frame.2 r))
  · by_cases same : r = other
    · subst same
      exact .inr (readerStep_held (heldLast.idle r) reads isHeld)
    · have frame := readerStep_other same reads
      exact .inl (ifSame frame.1 frame.2)
  · obtain ⟨isReceiving, others⟩ := timeout_frame timesOut
    by_cases same : r = other
    · subst same
      unfold nextHeld at isHeld
      rw [isReceiving] at isHeld
      exact nomatch (heldLast.idle r held isHeld).symm.trans isReceiving
    · exact .inl (ifSame (others r same).1 (others r same).2)

theorem HeldLast.step {state next : UseState n} (heldLast : state.HeldLast config)
    (invariant : state.queue.RingInvariant config) (taken : UseStep config state next) : next.HeldLast config := by
  refine ⟨fun r held isHeld => ?_, fun r held isHeld => ?_, fun r held isHeld => ?_⟩
  · rcases taken.cases heldLast isHeld with ⟨_, isIdle, _⟩ | ⟨_, _, isIdle, _⟩
    · exact isIdle
    · exact isIdle
  · rcases taken.cases heldLast isHeld with ⟨before, _, count⟩ | ⟨_, _, _, count, _⟩
    · rw [count]
      exact heldLast.positive r held before
    · omega
  · rcases taken.cases heldLast isHeld with ⟨before, _, count⟩ | ⟨_, _, _, count, _, rfl⟩
    · rw [count]
      exact heldLast.chunkIdx r held before
    · rw [count, Nat.add_sub_cancel]
      exact invariant.readerAt r

variable {message : Pickled}

theorem HeldLast.overwrites_iff {state : UseState n} (heldLast : state.HeldLast config)
    (invariant : state.queue.RingInvariant config) {pending : List SliceWrite}
    (isWriting : state.queue.writer = .writing message pending) {held : HeldBuffers}
    (isHeld : state.held r = some held) : held.chunkIdx = state.queue.writerIdx ↔
      state.queue.numRead r + config.maxChunks ≤ state.queue.enqueued.length + 1 := by
  have positive := heldLast.positive r held isHeld
  have notAhead := invariant.notAhead r
  have knows := invariant.writerKnows
  rw [WriterKnows, isWriting] at knows
  have consumed := invariant.consumed knows.1 r
  rw [heldLast.chunkIdx r held isHeld, invariant.writerAt]
  constructor
  · intro same
    by_contra notFull
    have isSame := sameChunk (by omega : state.queue.numRead r - 1 ≤ state.queue.enqueued.length) (by omega) same
    omega
  · intro isFull
    have isLength : state.queue.enqueued.length = state.queue.numRead r - 1 + config.maxChunks := by omega
    rw [isLength, Nat.add_mod_right]

theorem chunk_of_step (step : Step config queue next) {chunkIdx : Nat}
    (changed : next.chunk chunkIdx ≠ queue.chunk chunkIdx) :
    chunkIdx = queue.writerIdx ∧ ∃ message write pending, queue.writer = .writing message (write :: pending) ∧
      next.writer = .writing message pending := by
  rcases step with (writes | ⟨other, reads⟩) | ⟨other, timesOut⟩
  · cases writes
    case write isWriting wrote =>
      refine ⟨?_, _, _, _, isWriting, rfl⟩
      by_contra differs
      exact changed (update_of_ne differs _ _)
    all_goals exact absurd rfl changed
  · cases reads <;> exact absurd rfl changed
  · cases timesOut
    exact absurd rfl changed

theorem finishing_found (invariant : queue.RingInvariant config)
    {allBuffers : List Bytes} (isFinishing : queue.reader r = .finishing (.buffers allBuffers)) :
    readChunk (queue.chunk (queue.readerIdx r)) = some (.buffers allBuffers) := by
  have knows := invariant.readerKnows r
  rw [ReaderKnows, isFinishing] at knows
  obtain ⟨message, isMessage, _⟩ := Option.map_eq_some_iff.mp knows
  have isBehind := (List.getElem?_eq_some_iff.mp isMessage).1
  have found := (invariant.holdsNext isBehind).content
  rw [knows, ← invariant.readerAt] at found
  exact found

theorem HeldRanges.step {state next : UseState n} (ranges : state.HeldRanges) (heldLast : state.HeldLast config)
    (invariant : state.queue.RingInvariant config) (taken : UseStep config state next) : next.HeldRanges := by
  intro r held isHeld noBytes
  rcases taken.cases heldLast isHeld with ⟨before, _⟩ | ⟨allBuffers, isFinishing, _, _, _, rfl⟩
  · exact ranges r held before noBytes
  · have isTail := readRanges_outOfBand (finishing_found invariant isFinishing)
    exact List.map_eq_nil_iff.mp (isTail.trans noBytes)

theorem Unchanged.step {state next : UseState n} (unchanged : state.Unchanged) (heldLast : state.HeldLast config)
    (invariant : state.queue.RingInvariant config) (ranges : state.HeldRanges) (taken : SafeStep config state next) :
    next.Unchanged := by
  intro r held isHeld
  rcases taken.step.cases heldLast isHeld with
    ⟨before, _⟩ | ⟨allBuffers, isFinishing, _, _, sameChunks, rfl⟩
  · by_cases same : next.queue.chunk held.chunkIdx = state.queue.chunk held.chunkIdx
    · rw [same]
      exact unchanged r held before
    · obtain ⟨isWriterIdx, message, write, pending, isWriting, isNext⟩ := chunk_of_step taken.step.step same
      by_cases noBytes : held.bytes = []
      · rw [ranges r held before noBytes, noBytes]
        rfl
      · have isFull := (heldLast.overwrites_iff invariant isWriting before).mp isWriterIdx
        have isSafe := taken.safe message write pending isWriting isNext r held before noBytes
        omega
  · dsimp only
    rw [sameChunks]
    exact readRanges_outOfBand (finishing_found invariant isFinishing)

theorem reaches_heldLast {state : UseState n} (reached : ReflTransGen (UseStep config) (start config) state) :
    state.queue.RingInvariant config ∧ state.HeldLast config ∧ state.HeldRanges := by
  induction reached with
  | refl =>
    exact ⟨init_invariant config, ⟨(fun _ _ isHeld => nomatch isHeld), (fun _ _ isHeld => nomatch isHeld),
      (fun _ _ isHeld => nomatch isHeld)⟩, fun _ _ isHeld => nomatch isHeld⟩
  | tail _ taken ih =>
    obtain ⟨invariant, heldLast, ranges⟩ := ih
    exact ⟨invariant.step taken.step, heldLast.step invariant taken, ranges.step heldLast invariant taken⟩

/-- As long as the writer assigns to a chunk only while it is less than a ring ahead of every
message in use, the bytes in use stay what they were; and where it is not, it is on the chunk
of that message. -/
theorem dequeued_unchanged (config : RingConfig) (state : UseState n) :
    (ReflTransGen (SafeStep config) (start config) state → state.Unchanged) ∧
    (ReflTransGen (UseStep config) (start config) state → ∀ message pending,
      state.queue.writer = .writing message pending → ∀ r held, state.held r = some held →
        (held.chunkIdx = state.queue.writerIdx ↔
          ¬state.queue.enqueued.length + 1 < state.queue.numRead r + config.maxChunks)) := by
  constructor
  · intro reached
    induction reached with
    | refl => exact fun _ _ isHeld => nomatch isHeld
    | tail before taken inductionHypothesis =>
      have used := ReflTransGen.mono (fun _ _ safe => SafeStep.step safe) _ _ before
      obtain ⟨invariant, heldLast, ranges⟩ := reaches_heldLast used
      exact inductionHypothesis.step heldLast invariant ranges taken
  · intro reached message pending isWriting r held isHeld
    obtain ⟨invariant, heldLast, _⟩ := reaches_heldLast reached
    rw [heldLast.overwrites_iff invariant isWriting isHeld, Nat.not_lt]

/-! ## A message that is overwritten -/

def layout : Nat → List Nat → List (Nat × Nat)
  | _, [] => []
  | offset, length :: rest => (offset + 4, offset + 4 + length) :: layout (offset + 4 + length) rest

theorem bufferRanges_eq_layout (chunk : Bytes) (count offset : Nat)
    (fits : offset + ((readBuffers chunk count offset).map fun buffer => buffer.length + 4).sum < chunk.length) :
    bufferRanges chunk count offset = layout offset ((readBuffers chunk count offset).map List.length) := by
  induction count generalizing offset with
  | zero => rfl
  | succ count ih =>
    rw [readBuffers] at fits ⊢
    rw [List.map_cons, List.sum_cons] at fits
    have isLength : (readSlice chunk (offset + 4) (offset + 4 + Bytes.fromBigEndian
        (readSlice chunk offset (offset + 4)))).length =
        min (offset + 4 + Bytes.fromBigEndian (readSlice chunk offset (offset + 4))) chunk.length -
          (offset + 4) := by
      rw [readSlice, List.length_drop, List.length_take]
    have isWhole : (readSlice chunk (offset + 4) (offset + 4 + Bytes.fromBigEndian
        (readSlice chunk offset (offset + 4)))).length =
        Bytes.fromBigEndian (readSlice chunk offset (offset + 4)) := by omega
    rw [bufferRanges, List.map_cons, layout, isWhole]
    rw [ih _ (by omega)]

theorem outOfBandRanges_eq_layout {chunk : Bytes} {allBuffers : List Bytes}
    (found : readChunk chunk = some (.buffers allBuffers))
    (fits : 3 + (allBuffers.map fun buffer => buffer.length + 4).sum < chunk.length) :
    outOfBandRanges chunk = (layout 3 (allBuffers.map List.length)).tail := by
  have isRead := readChunk_buffers found
  rw [isRead] at fits
  rw [outOfBandRanges, bufferRanges_eq_layout chunk _ 3 fits, ← isRead]

theorem isFree (invariant : queue.RingInvariant config)
    (notBehind : ∀ r, queue.enqueued.length < queue.numRead r + config.maxChunks) :
    queue.writtenFlag queue.writerIdx = true → ∀ r, queue.readFlag queue.writerIdx r = true := by
  intro isWritten r
  obtain ⟨isFull, holds⟩ := invariant.oldest isWritten
  have sameIdx : (queue.enqueued.length - config.maxChunks) % config.maxChunks = queue.writerIdx := by
    rw [invariant.writerAt]
    exact (Nat.mod_eq_sub_mod isFull).symm
  have isRead := holds.flags r
  rw [sameIdx] at isRead
  rw [isRead, decide_eq_true_iff]
  have below := notBehind r
  omega

theorem writer_reaches (state : UseState n)
    (reached : Reaches (WriterStep config) state.queue queue) :
    ReflTransGen (UseStep config) state ⟨queue, state.held⟩ := by
  induction reached with
  | start => exact .refl
  | step _ taken ih =>
    refine ih.tail ⟨.timely (.writer taken), ?_⟩
    have same := (writerStep_frame taken).1
    exact funext fun r => (nextHeld_of_same (congrFun same r)).symm

theorem repeats_reaches (state : UseState n)
    (reached : ReflTransGen (UseStep config) (start config) state) (isIdle : state.queue.writer = .idle)
    (encodable : QueueState.Encodable config message) (count : Nat)
    (notBehind : ∀ r, state.queue.enqueued.length + count ≤ state.queue.numRead r + config.maxChunks) :
    ∃ queue, ReflTransGen (UseStep config) state ⟨queue, state.held⟩ ∧ queue.writer = .idle ∧
      queue.enqueued = state.queue.enqueued ++ List.replicate count message ∧
      queue.reader = state.queue.reader ∧ queue.numRead = state.queue.numRead := by
  induction count with
  | zero => exact ⟨state.queue, .refl, isIdle, (List.append_nil _).symm, rfl, rfl⟩
  | succ count ih =>
    obtain ⟨queue, steps, queueIdle, isEnqueued, sameReader, sameRead⟩ :=
      ih fun r => Nat.le_trans (by omega) (notBehind r)
    obtain ⟨invariant, _⟩ := reaches_heldLast (reached.trans steps)
    have room : ∀ r, queue.enqueued.length < queue.numRead r + config.maxChunks := by
      intro r
      have isBelow := notBehind r
      rw [isEnqueued, List.length_append, List.length_replicate, sameRead]
      omega
    obtain ⟨last, writes, lastIdle, lastEnqueued, _, lastReader, lastRead⟩ :=
      RingInvariant.completes invariant queueIdle encodable (isFree invariant room)
    refine ⟨last, steps.trans (writer_reaches ⟨queue, state.held⟩ writes), lastIdle, ?_,
      lastReader.trans sameReader, lastRead.trans sameRead⟩
    rw [lastEnqueued, isEnqueued, List.append_assoc, List.replicate_succ']

theorem useStep_of_reader (held : Fin n → Option HeldBuffers)
    (step : ReaderStep config r queue next) : UseStep config ⟨queue, held⟩ ⟨next, nextHeld queue next held⟩ :=
  ⟨.timely (.reader r step), rfl⟩

theorem reader_reaches (held : Fin n → Option HeldBuffers)
    (reached : Reaches (ReaderStep config r) queue next) :
    ∃ nextHeld, ReflTransGen (UseStep config) ⟨queue, held⟩ ⟨next, nextHeld⟩ := by
  induction reached with
  | start => exact ⟨held, .refl⟩
  | step _ taken ih =>
    obtain ⟨before, steps⟩ := ih
    exact ⟨_, steps.tail (useStep_of_reader before taken)⟩

theorem finishing_reaches (invariant : queue.RingInvariant config) (isIdle : queue.reader r = .idle)
    (isNext : queue.enqueued[queue.numRead r]? = some message) :
    Reaches (ReaderStep config r) queue (queue.setReader r (.finishing (message.content config.maxChunkBytes))) := by
  have isBehind := (List.getElem?_eq_some_iff.mp isNext).1
  have holds := invariant.holdsNext isBehind
  have sameIdx := invariant.readerAt r
  have notRead : queue.readFlag (queue.readerIdx r) r = false := by
    rw [sameIdx, holds.flags, decide_eq_false_iff_not]
    exact Nat.lt_irrefl _
  have isWritten : queue.writtenFlag (queue.readerIdx r) = true := by
    rw [sameIdx]
    exact holds.written
  have found : readChunk (queue.chunk (queue.readerIdx r)) = some (message.content config.maxChunkBytes) := by
    rw [sameIdx, holds.content, isNext]
    rfl
  have moved (phase : ReaderPhase) : (queue.setReader r phase).reader r = phase := update_self ..
  have again (phase next : ReaderPhase) : (queue.setReader r phase).setReader r next = queue.setReader r next := by
    simp [setReader]
  have checking : Reaches (ReaderStep config r) queue (queue.setReader r .checking) :=
    Reaches.start.step (.dequeue isIdle)
  have checked := checking.step (.readFlag (moved _))
  rw [again, show (queue.setReader r .checking).readFlag ((queue.setReader r .checking).readerIdx r) r = false
    from notRead] at checked
  have reading := checked.step (.pass (moved _) isWritten)
  rw [again] at reading
  have finishing := reading.step (.readChunk (moved _) found)
  rwa [again] at finishing

theorem dequeue_reaches (state : UseState n)
    (reached : ReflTransGen (UseStep config) (start config) state)
    (isIdle : state.queue.reader r = .idle)
    (isNext : state.queue.enqueued[state.queue.numRead r]? = some message)
    (inline : message.overflows config.maxChunkBytes = false) :
    ∃ queue held, ReflTransGen (UseStep config) state ⟨queue, held⟩ ∧
      queue.writer = state.queue.writer ∧ queue.enqueued = state.queue.enqueued ∧
      queue.numRead r = state.queue.numRead r + 1 ∧
      held r = some ⟨state.queue.readerIdx r, outOfBandRanges (state.queue.chunk (state.queue.readerIdx r)),
        message.outOfBand⟩ := by
  obtain ⟨invariant, _⟩ := reaches_heldLast reached
  have isContent : message.content config.maxChunkBytes = .buffers message.allBuffers := by
    rw [content, inline]
    rfl
  have finishing := finishing_reaches invariant isIdle isNext
  rw [isContent] at finishing
  obtain ⟨held, steps⟩ := reader_reaches state.held finishing
  have isFinishing : (state.queue.setReader r (.finishing (.buffers message.allBuffers))).reader r =
      .finishing (.buffers message.allBuffers) := update_self ..
  refine ⟨_, _, steps.tail (useStep_of_reader held (.finish isFinishing)), rfl, rfl, update_self .., ?_⟩
  unfold nextHeld
  rw [isFinishing]
  simp [setReader, setReadFlag, afterReading, allBuffers]

/-- A message with one out-of-band buffer of equal bytes. -/
def filledMessage (size : Nat) (byte : UInt8) : Pickled := ⟨[], [List.replicate size byte]⟩

theorem filledMessage_totalBytes (size : Nat) (byte : UInt8) :
    (filledMessage size byte).totalBytes + (filledMessage size byte).main.length = 10 + size := by
  simp [filledMessage, totalBytes]
  omega

variable {size : Nat}

theorem filledMessage_inline (byte : UInt8) (fits : 10 + size < config.maxChunkBytes) :
    (filledMessage size byte).overflows config.maxChunkBytes = false := by
  rw [overflows, filledMessage_totalBytes, decide_eq_false_iff_not]
  omega

theorem filledMessage_encodable (byte : UInt8) (fits : 10 + size < config.maxChunkBytes)
    (isShort : size < 2 ^ 32) : QueueState.Encodable config (filledMessage size byte) := by
  rw [QueueState.Encodable, filledMessage_inline byte fits, if_neg Bool.false_ne_true]
  simpa [filledMessage, allBuffers] using isShort

theorem filledMessage_inj {first second : UInt8} (positive : 0 < size)
    (same : (filledMessage size first).outOfBand = (filledMessage size second).outOfBand) : first = second := by
  have sameBuffer : List.replicate size first = List.replicate size second := List.singleton_inj.mp same
  have sameHead := congrArg List.head? sameBuffer
  simpa [List.head?_replicate, Nat.ne_of_gt positive] using sameHead

theorem filledMessage_ranges {chunk : Bytes} {byte : UInt8}
    (found : readChunk chunk = some (.buffers (filledMessage size byte).allBuffers)) (fits : 11 + size < chunk.length) :
    outOfBandRanges chunk = (layout 3 [0, size]).tail := by
  have isLayout := outOfBandRanges_eq_layout found (by
    simp [filledMessage, allBuffers]
    omega)
  simpa [filledMessage, allBuffers] using isLayout

theorem filledMessage_found {byte : UInt8} {j : Nat}
    (fits : 10 + size < config.maxChunkBytes) (holds : queue.Holds config j)
    (isMessage : queue.enqueued[j]? = some (filledMessage size byte)) :
    readChunk (queue.chunk (j % config.maxChunks)) = some (.buffers (filledMessage size byte).allBuffers) := by
  rw [holds.content, isMessage, Option.map_some, content, filledMessage_inline byte fits]
  rfl

theorem first_dequeued {size : Nat} (byte : UInt8) (fits : 11 + size < config.maxChunkBytes)
    (isShort : size < 2 ^ 32) :
    ∃ (state : UseState 1) (chunk : Bytes), ReflTransGen (UseStep config) (start config) state ∧
      state.queue.writer = .idle ∧ state.queue.enqueued = [filledMessage size byte] ∧ state.queue.numRead 0 = 1 ∧
      outOfBandRanges chunk = (layout 3 [0, size]).tail ∧
      state.held 0 = some ⟨0, outOfBandRanges chunk, (filledMessage size byte).outOfBand⟩ := by
  have inline : 10 + size < config.maxChunkBytes := by omega
  have positive := config.positive
  obtain ⟨queue, steps, isIdle, isEnqueued, sameReader, sameRead⟩ := repeats_reaches
    (start config : UseState 1) .refl rfl (filledMessage_encodable byte inline isShort) 1 fun r => by
      show 0 + 1 ≤ 0 + config.maxChunks
      omega
  have isFirst : queue.enqueued = [filledMessage size byte] := isEnqueued
  have noneRead : queue.numRead 0 = 0 := congrFun sameRead 0
  have isNext : queue.enqueued[queue.numRead 0]? = some (filledMessage size byte) := by
    rw [isFirst, noneRead]
    rfl
  obtain ⟨used, held, usedSteps, sameWriter, sameEnqueued, oneRead, isHeld⟩ := dequeue_reaches
    ⟨queue, (start config).held⟩ steps (congrFun sameReader 0) isNext (filledMessage_inline byte inline)
  obtain ⟨invariant, _⟩ := reaches_heldLast steps
  have found := filledMessage_found inline (invariant.holdsNext (r := 0) (by simp [isFirst, noneRead])) isNext
  have atStart : queue.readerIdx 0 = 0 := by
    rw [invariant.readerAt, noneRead, Nat.zero_mod]
  rw [noneRead, Nat.zero_mod] at found
  rw [atStart] at isHeld
  have ranges := filledMessage_ranges found (by rw [invariant.sized]; exact fits)
  exact ⟨⟨used, held⟩, queue.chunk 0, steps.trans usedSteps, sameWriter.trans isIdle, sameEnqueued.trans isFirst,
    oneRead.trans (congrArg (· + 1) noneRead), ranges, isHeld⟩

/-- A reader that uses a message while a ring of others is enqueued finds the last of them. -/
theorem lap_overwrites {config : RingConfig} {size : Nat} {first second : UInt8} (positive : 0 < size)
    (fits : 11 + size < config.maxChunkBytes) (isShort : size < 2 ^ 32) (several : 2 ≤ config.maxChunks)
    (differ : first ≠ second) :
    ∃ state : UseState 1, ReflTransGen (UseStep config) (start config) state ∧ ¬state.Unchanged := by
  have inline : 10 + size < config.maxChunkBytes := by omega
  obtain ⟨used, chunk, usedSteps, isIdle, isFirst, oneRead, isLayout, isHeld⟩ := first_dequeued first fits isShort
  obtain ⟨last, lastSteps, _, lastEnqueued, _, lastRead⟩ := repeats_reaches used usedSteps isIdle
    (filledMessage_encodable second inline isShort) config.maxChunks fun r => by
      rw [Subsingleton.elim r 0, isFirst, oneRead]
      simp
  have reached := usedSteps.trans lastSteps
  obtain ⟨invariant, _⟩ := reaches_heldLast reached
  have isLast : last.enqueued = filledMessage size first :: List.replicate config.maxChunks (filledMessage size second) := by
    rw [lastEnqueued, isFirst]
    rfl
  have isSecond : last.enqueued[config.maxChunks]? = some (filledMessage size second) := by
    obtain ⟨below, isBelow⟩ : ∃ below, config.maxChunks = below + 1 := ⟨config.maxChunks - 1, by omega⟩
    rw [isLast, isBelow, List.getElem?_cons_succ]
    simp
  -- a ring later the writer is on the first chunk again
  have found := filledMessage_found inline
    (invariant.window _ (by simp [isLast]) (by simp [isLast]; omega)) isSecond
  rw [Nat.mod_self] at found
  refine ⟨_, reached, fun unchanged => differ ?_⟩
  have kept := unchanged 0 _ isHeld
  rw [isLayout, ← filledMessage_ranges found (by rw [invariant.sized]; exact fits), readRanges_outOfBand found] at kept
  exact (filledMessage_inj positive kept).symm

theorem enqueued_of_step (step : Step config queue next) :
    queue.enqueued.length ≤ next.enqueued.length := by
  rcases step with (writes | ⟨other, reads⟩) | ⟨other, timesOut⟩
  · cases writes <;> simp [setReadFlag]
  · cases reads <;> simp [setReader, setReadFlag]
  · cases timesOut
    simp [setReader]

theorem safe_of_firstRound {state : UseState n} (reached : ReflTransGen (UseStep config) (start config) state)
    (isFirstRound : state.queue.enqueued.length < config.maxChunks) :
    ReflTransGen (SafeStep config) (start config) state := by
  induction reached with
  | refl => exact .refl
  | tail before taken ih =>
    have grows := enqueued_of_step taken.step
    obtain ⟨_, heldLast, _⟩ := reaches_heldLast before
    refine (ih (by omega)).tail ⟨taken, fun _ _ _ _ _ r held isHeld _ => ?_⟩
    have positive := heldLast.positive r held isHeld
    omega

/-! ## A ring of ten chunks of 24 MiB -/

/-- The defaults of `MessageQueue`. -/
def defaultRing : RingConfig := ⟨24 * 2 ^ 20, 10, by decide⟩

/-- A buffer of 1 MiB that is in use is what was enqueued. -/
theorem mebibyte_unchanged : ∃ (state : UseState 1) (held : HeldBuffers),
    ReflTransGen (SafeStep defaultRing) (start defaultRing) state ∧ state.held 0 = some held ∧
      readRanges (state.queue.chunk held.chunkIdx) held.ranges = (filledMessage (2 ^ 20) 7).outOfBand := by
  obtain ⟨state, chunk, reached, _, isFirst, _, _, isHeld⟩ :=
    @first_dequeued defaultRing (2 ^ 20) 7 (by decide) (by decide)
  have safe := safe_of_firstRound reached (by
    rw [isFirst]
    decide)
  exact ⟨state, _, safe, isHeld, (dequeued_unchanged defaultRing state).1 safe 0 _ isHeld⟩

/-- The reader of one buffer of 1 MiB finds another after ten more messages. -/
theorem mebibyte_overwritten : ¬ ∀ state : UseState 1,
    ReflTransGen (UseStep defaultRing) (start defaultRing) state → state.Unchanged := by
  intro claimed
  obtain ⟨state, reached, changed⟩ := @lap_overwrites defaultRing (2 ^ 20) 7 8 (by decide)
    (by decide) (by decide) (by decide) (by decide)
  exact changed (claimed state reached)

end UseState

end DeepSpark
