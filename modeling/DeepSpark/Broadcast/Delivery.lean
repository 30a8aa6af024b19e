import DeepSpark.Broadcast.Queue

/-!
What a `MessageQueue` guarantees, and what it does not.

Owns the relation between the messages enqueued, the overflow channels and what
each reader has been given, as long as no `recv` times out; mutual exclusion on
the chunks in every run; and the run in which a timed out `recv` loses a
message.
-/

namespace DeepSpark

open Lib Function

def WriterPhase.unsent : WriterPhase → List Pickled
  | .sending message => [message]
  | .idle | .checking .. | .unmarking _ | .writing .. | .resetting .. | .marking _ => []

namespace QueueState

variable {n : Nat} {config : RingConfig}

def unsent (state : QueueState n) : List Pickled := state.writer.unsent

def settled (state : QueueState n) (r : Fin n) : Nat :=
  if state.reader r = .receiving then state.numRead r - 1 else state.numRead r

/-- Each reader was given the messages it is done with; the overflow messages
among the others are on their way to it. -/
structure Delivers (config : RingConfig) (state : QueueState n) : Prop where
  returned : ∀ r, state.delivered r = (state.enqueued.take (state.settled r)).map Pickled.allBuffers
  inFlight : ∀ r, state.channel r ++ state.unsent =
    (state.enqueued.drop (state.settled r)).filter (Pickled.overflows config.maxChunkBytes)
  awaiting : ∀ r, state.reader r = .receiving → 0 < state.numRead r ∧
    ∃ message, state.enqueued[state.numRead r - 1]? = some message ∧
      message.overflows config.maxChunkBytes = true

theorem init_delivers : (init config : QueueState n).Delivers config := by
  constructor <;> simp [init, settled, unsent, WriterPhase.unsent]

private theorem Delivers.frame {state next : QueueState n} (delivers : state.Delivers config)
    (enqueued : next.enqueued = state.enqueued) (numRead : next.numRead = state.numRead)
    (channel : next.channel = state.channel) (delivered : next.delivered = state.delivered)
    (sameUnsent : next.unsent = state.unsent)
    (receiving : ∀ r, next.reader r = .receiving ↔ state.reader r = .receiving) :
    next.Delivers config := by
  have sameSettled (r : Fin n) : next.settled r = state.settled r := by
    rw [settled, settled, numRead]
    simp only [receiving r]
  constructor
  · intro r
    rw [delivered, enqueued, sameSettled r]
    exact delivers.returned r
  · intro r
    rw [channel, sameUnsent, enqueued, sameSettled r]
    exact delivers.inFlight r
  · intro r isReceiving
    rw [enqueued, numRead]
    exact delivers.awaiting r ((receiving r).mp isReceiving)

theorem Delivers.writerStep {state next : QueueState n} (delivers : state.Delivers config)
    (invariant : state.RingInvariant config) (step : WriterStep config state next) :
    next.Delivers config := by
  have settledLe (r : Fin n) : state.settled r ≤ state.enqueued.length := by
    have := invariant.notAhead r
    rw [settled]
    split <;> omega
  cases step
  case mark message isMarking =>
    have before : state.unsent = [] := congrArg WriterPhase.unsent isMarking
    constructor
    · intro r
      refine (delivers.returned r).trans ?_
      exact congrArg (List.map Pickled.allBuffers)
        (List.take_append_of_le_length (settledLe r)).symm
    · intro r
      have was := delivers.inFlight r
      rw [before, List.append_nil] at was
      show state.channel r ++ _ = ((state.enqueued ++ [message]).drop (state.settled r)).filter _
      rw [List.drop_append_of_le_length (settledLe r), List.filter_append, ← was, unsent]
      cases isOverflow : message.overflows config.maxChunkBytes with
      | true => simp [isOverflow, WriterPhase.unsent]
      | false => simp [isOverflow, WriterPhase.unsent]
    · intro r isReceiving
      obtain ⟨isPositive, awaited, isAwaited, isOverflow⟩ := delivers.awaiting r isReceiving
      refine ⟨isPositive, awaited, ?_, isOverflow⟩
      rw [List.getElem?_append_left (List.getElem?_eq_some_iff.mp isAwaited).1, isAwaited]
  case send message isSending =>
    have before : state.unsent = [message] := congrArg WriterPhase.unsent isSending
    refine ⟨delivers.returned, fun r => ?_, delivers.awaiting⟩
    have was := delivers.inFlight r
    rw [before] at was
    show (state.channel r ++ [message]) ++ [] = _
    rw [List.append_nil]
    exact was
  all_goals
    have quiet : state.unsent = [] := by simp [unsent, WriterPhase.unsent, *]
    exact delivers.frame rfl rfl rfl rfl quiet.symm fun _ => .rfl

variable {r : Fin n} {state : QueueState n}

private theorem Delivers.movesReader (delivers : state.Delivers config)
    {before : ReaderPhase} (isBefore : state.reader r = before) (notReceiving : before ≠ .receiving)
    {after : ReaderPhase} (stillNot : after ≠ .receiving) : (state.setReader r after).Delivers config := by
  refine delivers.frame rfl rfl rfl rfl rfl fun other => ?_
  show update state.reader r after other = _ ↔ _
  by_cases same : other = r
  · rw [same, update_self, isBefore]
    exact iff_of_false stillNot notReceiving
  · rw [update_of_ne same]

private theorem settled_other {state next : QueueState n} {other : Fin n} (differ : other ≠ r)
    {phase : ReaderPhase} {count : Nat} (reader : next.reader = update state.reader r phase)
    (numRead : next.numRead = update state.numRead r count) :
    next.settled other = state.settled other := by
  rw [settled, settled, reader, numRead, update_of_ne differ, update_of_ne differ]

private theorem Delivers.finish (delivers : state.Delivers config)
    (invariant : state.RingInvariant config) {content : ChunkContent}
    (isFinishing : state.reader r = .finishing content) :
    (state.finished config r content).Delivers config := by
  generalize nextEq : state.finished config r content = next
  have reader : next.reader = update state.reader r (afterReading content) := by rw [← nextEq]; rfl
  have numRead : next.numRead = update state.numRead r (state.numRead r + 1) := by rw [← nextEq]
  have delivered : next.delivered =
      update state.delivered r (state.delivered r ++ received content) := by rw [← nextEq]
  have enqueued : next.enqueued = state.enqueued := by rw [← nextEq]; rfl
  have channel : next.channel = state.channel := by rw [← nextEq]; rfl
  have sameUnsent : next.unsent = state.unsent := by rw [← nextEq]; rfl
  -- the message the reader has found in its chunk
  have knows := invariant.readerKnows r
  rw [ReaderKnows, isFinishing] at knows
  obtain ⟨message, isNext, isContent⟩ := Option.map_eq_some_iff.mp knows
  obtain ⟨isBehind, isElement⟩ := List.getElem?_eq_some_iff.mp isNext
  have wasSettled : state.settled r = state.numRead r := by
    rw [settled, isFinishing, if_neg (by intro same; cases same)]
  have readerAfter : next.reader r = afterReading content := by rw [reader, update_self]
  have numReadAfter : next.numRead r = state.numRead r + 1 := by rw [numRead, update_self]
  have others (other : Fin n) (differ : other ≠ r) :
      next.settled other = state.settled other := settled_other differ reader numRead
  have isOther (other : Fin n) (differ : other ≠ r) : next.reader other = state.reader other := by
    rw [reader, update_of_ne differ]
  cases content with
  | buffers allBuffers =>
    have isInline : message.overflows config.maxChunkBytes = false := by
      rw [Pickled.content] at isContent
      split at isContent
      · cases isContent
      next notOverflow => exact Bool.eq_false_iff.mpr notOverflow
    have isMessage : message.allBuffers = allBuffers := by
      rw [Pickled.content, isInline] at isContent
      exact ChunkContent.buffers.inj isContent
    have isSettled : next.settled r = state.numRead r + 1 := by
      rw [settled, readerAfter, numReadAfter, if_neg (by intro same; cases same)]
    constructor
    · intro other
      by_cases same : other = r
      · rw [same, delivered, update_self, delivers.returned r, isSettled, wasSettled, enqueued,
          List.take_add_one, List.map_append, isNext]
        exact congrArg (_ ++ [·]) isMessage.symm
      · rw [delivered, update_of_ne same, enqueued, others other same]
        exact delivers.returned other
    · intro other
      by_cases same : other = r
      · have was := delivers.inFlight r
        rw [wasSettled, List.drop_eq_getElem_cons isBehind, isElement,
          List.filter_cons_of_neg (by simp [isInline])] at was
        rw [same, channel, sameUnsent, enqueued, isSettled]
        exact was
      · rw [channel, sameUnsent, enqueued, others other same]
        exact delivers.inFlight other
    · intro other isReceiving
      by_cases same : other = r
      · rw [same, readerAfter] at isReceiving
        cases isReceiving
      · rw [isOther other same] at isReceiving
        rw [enqueued, numRead, update_of_ne same]
        exact delivers.awaiting other isReceiving
  | overflow =>
    have isOverflow : message.overflows config.maxChunkBytes = true := by
      rw [Pickled.content] at isContent
      split at isContent
      next isOverflow => exact isOverflow
      next => cases isContent
    have isSettled : next.settled r = state.settled r := by
      rw [wasSettled, settled, readerAfter, numReadAfter]
      rfl
    have sameSettled (other : Fin n) : next.settled other = state.settled other := by
      by_cases same : other = r
      · rw [same, isSettled]
      · exact others other same
    constructor
    · intro other
      have unchanged : next.delivered other = state.delivered other := by
        by_cases same : other = r
        · rw [delivered, same, update_self]
          exact List.append_nil _
        · rw [delivered, update_of_ne same]
      rw [unchanged, enqueued, sameSettled other]
      exact delivers.returned other
    · intro other
      rw [channel, sameUnsent, enqueued, sameSettled other]
      exact delivers.inFlight other
    · intro other isReceiving
      by_cases same : other = r
      · rw [same, numReadAfter, enqueued]
        exact ⟨Nat.succ_pos _, message, isNext, isOverflow⟩
      · rw [isOther other same] at isReceiving
        rw [enqueued, numRead, update_of_ne same]
        exact delivers.awaiting other isReceiving

private theorem Delivers.receive (delivers : state.Delivers config)
    {message : Pickled} {rest : List Pickled} (isReceiving : state.reader r = .receiving)
    (arrived : state.channel r = message :: rest) :
    ({ state.setReader r .idle with
      channel := update state.channel r rest
      delivered := update state.delivered r (state.delivered r ++ [message.allBuffers]) } :
      QueueState n).Delivers config := by
  generalize nextEq : ({ state.setReader r .idle with
      channel := update state.channel r rest
      delivered := update state.delivered r (state.delivered r ++ [message.allBuffers]) } :
      QueueState n) = next
  have reader : next.reader = update state.reader r .idle := by rw [← nextEq]; rfl
  have numRead : next.numRead = state.numRead := by rw [← nextEq]; rfl
  have delivered : next.delivered =
      update state.delivered r (state.delivered r ++ [message.allBuffers]) := by rw [← nextEq]
  have enqueued : next.enqueued = state.enqueued := by rw [← nextEq]; rfl
  have channel : next.channel = update state.channel r rest := by rw [← nextEq]
  have sameUnsent : next.unsent = state.unsent := by rw [← nextEq]; rfl
  obtain ⟨isPositive, awaited, isAwaited, isOverflow⟩ := delivers.awaiting r isReceiving
  obtain ⟨isBehind, isElement⟩ := List.getElem?_eq_some_iff.mp isAwaited
  have wasSettled : state.settled r = state.numRead r - 1 := by
    rw [settled, isReceiving, if_pos rfl]
  have isSettled : next.settled r = state.numRead r := by
    rw [settled, reader, update_self, numRead, if_neg nofun]
  have others (other : Fin n) (differ : other ≠ r) : next.settled other = state.settled other := by
    rw [settled, settled, reader, numRead, update_of_ne differ]
  -- the head of the channel is the message whose marker the reader has consumed
  have was := delivers.inFlight r
  rw [wasSettled, List.drop_eq_getElem_cons isBehind, isElement,
    List.filter_cons_of_pos isOverflow, arrived, List.cons_append, List.cons.injEq] at was
  obtain ⟨sameMessage, later⟩ := was
  have next_eq : state.numRead r - 1 + 1 = state.numRead r := by omega
  constructor
  · intro other
    by_cases same : other = r
    · rw [same, delivered, update_self, delivers.returned r, isSettled, wasSettled, enqueued]
      conv_rhs => rw [← next_eq]
      rw [List.take_add_one, List.map_append, isAwaited, sameMessage]
      rfl
    · rw [delivered, update_of_ne same, enqueued, others other same]
      exact delivers.returned other
  · intro other
    by_cases same : other = r
    · rw [same, channel, update_self, sameUnsent, enqueued, isSettled]
      rw [next_eq] at later
      exact later
    · rw [channel, update_of_ne same, sameUnsent, enqueued, others other same]
      exact delivers.inFlight other
  · intro other stillReceiving
    by_cases same : other = r
    · rw [same, reader, update_self] at stillReceiving
      cases stillReceiving
    · rw [reader, update_of_ne same] at stillReceiving
      rw [enqueued, numRead]
      exact delivers.awaiting other stillReceiving

theorem Delivers.readerStep {state next : QueueState n} (delivers : state.Delivers config)
    (invariant : state.RingInvariant config) (step : ReaderStep config r state next) :
    next.Delivers config := by
  cases step with
  | dequeue isIdle => exact delivers.movesReader isIdle nofun nofun
  | readFlag isChecking => exact delivers.movesReader isChecking nofun nofun
  | pass isChecked isWritten => exact delivers.movesReader isChecked nofun nofun
  | retry isChecked fails => exact delivers.movesReader isChecked nofun nofun
  | giveUp isChecked fails => exact delivers.movesReader isChecked nofun nofun
  | readChunk isReading found => exact delivers.movesReader isReading nofun nofun
  | abort isReading => exact delivers.movesReader isReading nofun nofun
  | finish isFinishing => exact delivers.finish invariant isFinishing
  | receive isReceiving arrived => exact delivers.receive isReceiving arrived

theorem reaches_delivers (reached : Reaches (TimelyStep config) (init config) state) :
    state.RingInvariant config ∧ state.Delivers config := by
  induction reached with
  | start => exact ⟨init_invariant config, init_delivers⟩
  | step _ taken ih =>
    obtain ⟨invariant, delivers⟩ := ih
    refine ⟨invariant.timelyStep taken, ?_⟩
    cases taken with
    | writer step => exact delivers.writerStep invariant step
    | reader r step => exact delivers.readerStep invariant step

/-! ## What the queue guarantees -/

/-- The writer is between unmarking its chunk and marking it as written. -/
def Writes (state : QueueState n) : Prop :=
  match state.writer with
  | .writing .. | .resetting .. | .marking _ => True
  | .idle | .checking .. | .unmarking _ | .sending _ => False

/-- The reader is inside `acquire_read`, and has not marked its chunk as read. -/
def Reads (state : QueueState n) (r : Fin n) : Prop :=
  match state.reader r with
  | .reading | .finishing _ => True
  | .idle | .checking | .checkedFlag _ | .receiving => False

theorem RingInvariant.unmarked (invariant : state.RingInvariant config)
    (writes : state.Writes) : state.writtenFlag state.writerIdx = false := by
  have knows := invariant.writerKnows
  unfold WriterKnows at knows
  unfold Writes at writes
  split at writes <;> simp_all

theorem RingInvariant.isBehind (invariant : state.RingInvariant config)
    (reads : state.Reads r) : state.numRead r < state.enqueued.length := by
  have knows := invariant.readerKnows r
  unfold ReaderKnows at knows
  unfold Reads at reads
  split at reads
  next isReading =>
    rw [isReading] at knows
    exact knows
  next isFinishing =>
    rw [isFinishing] at knows
    obtain ⟨found, isFound, -⟩ := Option.map_eq_some_iff.mp knows
    exact (List.getElem?_eq_some_iff.mp isFound).1
  all_goals exact reads.elim

theorem RingInvariant.chunkKept {state next : QueueState n} (invariant : state.RingInvariant config)
    (step : Step config state next) (reads : state.Reads r) :
    next.chunk (state.readerIdx r) = state.chunk (state.readerIdx r) := by
  cases step with
  | timeout _ step =>
    cases step
    rfl
  | timely step =>
    cases step with
    | reader _ step => cases step <;> rfl
    | writer step =>
      cases step
      case write isWriting wrote =>
        have writes : state.Writes := by
          rw [Writes, isWriting]
          exact trivial
        exact update_of_ne
          (invariant.apart (invariant.isBehind reads) (invariant.unmarked writes)) _ _
      all_goals rfl

/-- Every reader is given every message once and in order, in every run in which
no wait for an overflow message times out; the chunks are never shared, in any
run; and the framing is lossless and fits. -/
theorem messageQueue_delivers (config : RingConfig) (n : Nat) :
    (∀ state : QueueState n, Reaches (TimelyStep config) (init config) state → ∀ r,
      state.delivered r <+: state.enqueued.map Pickled.allBuffers) ∧
    (∀ state : QueueState n, Reaches (Step config) (init config) state → ∀ r, state.Reads r →
      (state.Writes → state.readerIdx r ≠ state.writerIdx) ∧
      ∀ next, Step config state next →
        next.chunk (state.readerIdx r) = state.chunk (state.readerIdx r)) ∧
    ∀ message : Pickled, message.overflows config.maxChunkBytes = false →
      message.allBuffers.length < 65536 → (∀ buffer ∈ message.allBuffers, buffer.length < 2 ^ 32) →
      (frame message.allBuffers).length ≤ config.maxChunkBytes ∧
      ∀ chunk : Bytes, chunk.length = config.maxChunkBytes →
        applyWrites chunk (chunkWrites config.maxChunkBytes message) =
          some (frame message.allBuffers ++ chunk.drop (frame message.allBuffers).length) ∧
        readChunk (frame message.allBuffers ++ chunk.drop (frame message.allBuffers).length) =
          some (.buffers message.allBuffers) := by
  refine ⟨fun state reached r => ?_, fun state reached r reads => ⟨fun writes => ?_, ?_⟩, ?_⟩
  · rw [(reaches_delivers reached).2.returned r, List.map_take]
    exact List.take_prefix _ _
  · have invariant := reaches_invariant reached
    exact invariant.apart (invariant.isBehind reads) (invariant.unmarked writes)
  · exact fun next step => (reaches_invariant reached).chunkKept step reads
  · intro message inline few small
    exact ⟨frame_fits inline, fun chunk sized =>
      ⟨applyWrites_frame sized inline few small, readChunk_frame _ few small⟩⟩

/-! ## A message lost by a timeout -/

/-- `pickle.dumps(300)`. -/
def longMessage : Pickled := ⟨[128, 5, 77, 44, 1, 46], []⟩

/-- `pickle.dumps(None)`. -/
def shortMessage : Pickled := ⟨[128, 5, 78, 46], []⟩

def smallRing : RingConfig := ⟨12, 2, by decide⟩

private theorem Reaches.writer {initial state next : QueueState n}
    (reached : Reaches (Step config) initial state) (step : WriterStep config state next) :
    Reaches (Step config) initial next := reached.step (.timely (.writer step))

private theorem Reaches.reader {initial state next : QueueState n}
    (reached : Reaches (Step config) initial state) (r : Fin n)
    (step : ReaderStep config r state next) : Reaches (Step config) initial next :=
  reached.step (.timely (.reader r step))

/-- The short message passing through the ring. -/
theorem messageQueue_delivers_short :
    (∃ state : QueueState 1, state.delivered 0 = [shortMessage.allBuffers] ∧
      state.delivered 0 <+: state.enqueued.map Pickled.allBuffers) ∧
    (∃ state : QueueState 1, state.readerIdx 0 = 0 ∧
      (state.Writes → state.readerIdx 0 ≠ state.writerIdx)) ∧
    (frame shortMessage.allBuffers).length ≤ 12 := by
  have writes {state next : QueueState 1} (reached : Reaches (TimelyStep smallRing) (init smallRing) state)
      (step : WriterStep smallRing state next) : Reaches (TimelyStep smallRing) (init smallRing) next :=
    reached.step (.writer step)
  have reads {state next : QueueState 1} (reached : Reaches (TimelyStep smallRing) (init smallRing) state)
      (step : ReaderStep smallRing 0 state next) : Reaches (TimelyStep smallRing) (init smallRing) next :=
    reached.step (.reader 0 step)
  have acquired := writes (writes (writes (writes .start (.enqueue shortMessage rfl))
    (.readFlag (by decide) rfl)) (.pass rfl fun both => Bool.false_ne_true both.1)) (.unmark rfl)
  have written := writes (writes (writes (writes (writes (writes (writes (writes acquired
    (.write rfl rfl)) (.write rfl rfl)) (.write rfl rfl)) (.write rfl rfl)) (.wrote rfl))
    (.reset (by decide) rfl)) (.wereReset rfl)) (.mark rfl)
  have isReading := reads (reads (reads written (.dequeue rfl)) (.readFlag rfl)) (.pass rfl rfl)
  have delivered := reads (reads isReading (.readChunk rfl rfl)) (.finish rfl)
  have guarantees := messageQueue_delivers smallRing 1
  have untimed {state : QueueState 1} (reached : Reaches (TimelyStep smallRing) (init smallRing) state) :
      Reaches (Step smallRing) (init smallRing) state := by
    induction reached with
    | start => exact .start
    | step _ taken inductionHypothesis => exact inductionHypothesis.step (.timely taken)
  exact ⟨⟨_, rfl, guarantees.1 _ delivered 0⟩,
    ⟨_, rfl, (guarantees.2.1 _ (untimed isReading) 0 trivial).1⟩,
    (guarantees.2.2 shortMessage (by decide) (by decide) (by decide)).1⟩

/-- A reader whose `recv` times out before the long message arrives is given
the short one as its first message. -/
theorem timeout_loses_message :
    ¬ ∀ state : QueueState 1, Reaches (Step smallRing) (init smallRing) state → ∀ r,
      state.delivered r <+: state.enqueued.map Pickled.allBuffers := by
  intro claimed
  have marked : Reaches (Step smallRing) (init smallRing : QueueState 1) _ :=
    ((((((((Reaches.start.writer (.enqueue longMessage rfl)).writer (.readFlag (by decide) rfl)).writer
      (.pass rfl fun both => Bool.false_ne_true both.1)).writer (.unmark rfl)).writer
      (.write rfl rfl)).writer (.wrote rfl)).writer (.reset (by decide) rfl)).writer
      (.wereReset rfl)).writer (.mark rfl)
  -- the reader consumes the marker and gives up before the message is sent
  have timedOut : Reaches (Step smallRing) (init smallRing : QueueState 1) _ :=
    (((((marked.reader 0 (.dequeue rfl)).reader 0 (.readFlag rfl)).reader 0 (.pass rfl rfl)).reader 0
      (.readChunk rfl rfl)).reader 0 (.finish rfl)).step (.timeout 0 (.giveUp rfl))
  have acquired : Reaches (Step smallRing) (init smallRing : QueueState 1) _ :=
    ((((timedOut.writer (.send rfl)).writer (.enqueue shortMessage rfl)).writer
      (.readFlag (by decide) rfl)).writer (.pass rfl fun both => Bool.false_ne_true both.1)).writer
      (.unmark rfl)
  have written : Reaches (Step smallRing) (init smallRing : QueueState 1) _ :=
    (((((((acquired.writer (.write rfl rfl)).writer (.write rfl rfl)).writer (.write rfl rfl)).writer
      (.write rfl rfl)).writer (.wrote rfl)).writer (.reset (by decide) rfl)).writer
      (.wereReset rfl)).writer (.mark rfl)
  have delivered : Reaches (Step smallRing) (init smallRing : QueueState 1) _ :=
    ((((written.reader 0 (.dequeue rfl)).reader 0 (.readFlag rfl)).reader 0 (.pass rfl rfl)).reader 0
      (.readChunk rfl rfl)).reader 0 (.finish rfl)
  have isPrefix : [shortMessage.allBuffers] <+: [longMessage.allBuffers, shortMessage.allBuffers] := claimed _ delivered 0
  exact absurd isPrefix (by decide)

end QueueState

end DeepSpark
