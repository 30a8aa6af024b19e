import DeepSpark.Broadcast.Delivery

/-!
Queue operations of `MessageQueue` that fail.

Owns the calls of `enqueue` and `dequeue` that raise, the enqueue that a writer completes
after one, and what the readers get after a failed dequeue. Only a failure on the overflow
socket loses a message.
-/

namespace DeepSpark

open Lib Function

namespace QueueState

variable {n : Nat} {config : RingConfig}

/-- `enqueue` raises: the timeout of `acquire_write`, or an exception while the chunk is
filled. -/
inductive FailedEnqueue (state : QueueState n) : QueueState n → Prop
  | timeout {message : Pickled} {readCount : Nat}
      (isChecking : state.writer = .checking message n readCount)
      (fails : state.writtenFlag state.writerIdx = true ∧ readCount ≠ n) :
      FailedEnqueue state { state with writer := .idle }
  | exception {message : Pickled} {pending : List SliceWrite}
      (isWriting : state.writer = .writing message pending) :
      FailedEnqueue state { state with writer := .idle }

/-- The pickle of an overflow message is taken off the socket and cannot be decoded. -/
inductive DecodeFailure (r : Fin n) (state : QueueState n) : QueueState n → Prop
  | fail {message : Pickled} {rest : List Pickled} (isReceiving : state.reader r = .receiving)
      (arrived : state.channel r = message :: rest) :
      DecodeFailure r state { state.setReader r .idle with
        channel := Function.update state.channel r rest }

/-- `dequeue` raises inside `acquire_read`: the timeout, or an exception while the chunk is
read and decoded. -/
inductive FailedRead (r : Fin n) (state : QueueState n) : QueueState n → Prop
  | timeout {readFlag : Bool} (isChecked : state.reader r = .checkedFlag readFlag)
      (fails : readFlag = true ∨ state.writtenFlag (state.readerIdx r) = false) :
      FailedRead r state (state.setReader r .idle)
  | exception (isReading : state.reader r = .reading) : FailedRead r state (state.setReader r .idle)

inductive FailedDequeue (r : Fin n) (state next : QueueState n) : Prop
  | inRing (failed : FailedRead r state next)
  | timeout (failed : ReceiveTimeout r state next)
  | decoding (failed : DecodeFailure r state next)

/-- One step of the system, with every way to fail. -/
inductive FaultyStep (config : RingConfig) (state next : QueueState n) : Prop
  | step (step : Step config state next)
  | decoding (r : Fin n) (failed : DecodeFailure r state next)

/-- In the runs of such steps from a state, the next message that a dequeue returns to a
reader is the one after those it was given before. -/
def NextReturns (step : QueueState n → QueueState n → Prop) (state : QueueState n) (r : Fin n) : Prop :=
  ∀ last, Reaches step state last → ∀ returned, last.delivered r = state.delivered r ++ [returned] →
    (last.enqueued[(state.delivered r).length]?).map Pickled.allBuffers = some returned

def Encodable (config : RingConfig) (message : Pickled) : Prop :=
  if message.overflows config.maxChunkBytes then 0 < config.maxChunkBytes
  else message.allBuffers.length < 2 ^ 16 ∧ ∀ buffer ∈ message.allBuffers, buffer.length < 2 ^ 32

/-- The writer alone completes an `enqueue` of the message. -/
def Completes (config : RingConfig) (state : QueueState n) (message : Pickled) : Prop :=
  ∃ last, Reaches (WriterStep config) state last ∧ last.writer = .idle ∧
    last.enqueued = state.enqueued ++ [message] ∧ last.delivered = state.delivered ∧
    last.reader = state.reader ∧ last.numRead = state.numRead

/-- Failed calls in a state lose nothing: each reader was given whole messages in the order
of the completed calls of `enqueue`; a failed `enqueue` adds no message and leaves a queue in
which every message can be enqueued, after an exception at once and after a timeout when the
readers have read their chunk; and a failed `dequeue` leaves the reader the same next
message. -/
structure LosesNothing (config : RingConfig) (step : QueueState n → QueueState n → Prop)
    (failedDequeue : Fin n → QueueState n → QueueState n → Prop) (state : QueueState n) : Prop where
  whole : ∀ r, state.delivered r <+: state.enqueued.map Pickled.allBuffers
  enqueue : ∀ next, FailedEnqueue state next →
    next.enqueued = state.enqueued ∧ next.delivered = state.delivered ∧
      (next.writtenFlag next.writerIdx = true → ∃ message readCount,
        state.writer = .checking message n readCount) ∧
      ∀ message, Encodable config message →
        (next.writtenFlag next.writerIdx = true → ∀ r, next.readFlag next.writerIdx r = true) →
        Completes config next message
  dequeue : ∀ r next, failedDequeue r state next → next.delivered r = state.delivered r ∧
    NextReturns step state r ∧ NextReturns step next r

/-! ## The next enqueue -/

theorem applyWrites_encodable {message : Pickled} {chunk : Bytes} (encodable : Encodable config message)
    (sized : chunk.length = config.maxChunkBytes) :
    ∃ final, applyWrites chunk (chunkWrites config.maxChunkBytes message) = some final := by
  unfold Encodable at encodable
  split at encodable
  next isOverflow =>
    rw [chunkWrites, if_pos isOverflow]
    have fits : 0 + [(1 : UInt8)].length ≤ chunk.length := by
      rw [List.length_singleton]
      omega
    refine ⟨chunk.take 0 ++ [1] ++ chunk.drop (0 + [(1 : UInt8)].length), ?_⟩
    simp only [applyWrites, assignSlice, Option.bind_eq_bind, Option.bind_some]
    rw [if_pos fits]
    rfl
  next isInline =>
    exact ⟨_, applyWrites_frame sized (Bool.eq_false_iff.mpr isInline) encodable.1 encodable.2⟩

theorem Reaches.trans {step : QueueState n → QueueState n → Prop} {first middle last : QueueState n}
    (before : Reaches step first middle) (after : Reaches step middle last) : Reaches step first last := by
  induction after with
  | start => exact before
  | step _ taken ih => exact ih.step taken

theorem checks_reaches {state : QueueState n} {message : Pickled}
    (isChecking : state.writer = .checking message 0 0) (count : Nat) (below : count ≤ n) :
    ∃ readCount, Reaches (WriterStep config) state { state with writer := .checking message count readCount } ∧
      ((∀ r, state.readFlag state.writerIdx r = true) → readCount = count) := by
  induction count with
  | zero =>
    refine ⟨0, ?_, fun _ => rfl⟩
    rw [← isChecking]
    exact .start
  | succ count ih =>
    obtain ⟨readCount, reached, isCount⟩ := ih (by omega)
    refine ⟨_, reached.step (.readFlag below rfl), fun allRead => ?_⟩
    rw [allRead, isCount allRead]
    rfl

theorem writes_reaches {state : QueueState n} {message : Pickled} {pending : List SliceWrite}
    (isWriting : state.writer = .writing message pending) {final : Bytes}
    (ran : applyWrites (state.chunk state.writerIdx) pending = some final) :
    ∃ chunk, Reaches (WriterStep config) state { state with chunk, writer := .writing message [] } := by
  induction pending generalizing state with
  | nil =>
    refine ⟨state.chunk, ?_⟩
    rw [← isWriting]
    exact .start
  | cons write pending ih =>
    obtain ⟨offset, bytes⟩ := write
    cases bytes with
    | none => exact nomatch ran
    | some bytes =>
      simp only [applyWrites, Option.bind_eq_bind, Option.bind_some, Option.bind_eq_some_iff] at ran
      obtain ⟨written, wrote, ranRest⟩ := ran
      have unwritten : update state.chunk state.writerIdx written state.writerIdx = written :=
        update_self ..
      have step : WriterStep config state { state with
          chunk := update state.chunk state.writerIdx written
          writer := .writing message pending } := .write isWriting wrote
      obtain ⟨chunk, reached⟩ := @ih { state with
          chunk := update state.chunk state.writerIdx written
          writer := .writing message pending } rfl
        ((congrArg (applyWrites · pending) unwritten).trans ranRest)
      exact ⟨chunk, (Reaches.start.step step).trans reached⟩

theorem resets_reaches {state : QueueState n} {message : Pickled}
    (isResetting : state.writer = .resetting message 0) (count : Nat) (below : count ≤ n) :
    ∃ readFlag, Reaches (WriterStep config) state { state with readFlag, writer := .resetting message count } := by
  induction count with
  | zero =>
    refine ⟨state.readFlag, ?_⟩
    rw [← isResetting]
    exact .start
  | succ count ih =>
    obtain ⟨readFlag, reached⟩ := ih (by omega)
    exact ⟨_, reached.step (.reset below rfl)⟩

/-- An idle writer completes an `enqueue` as soon as the readers have read its chunk. -/
theorem RingInvariant.completes {state : QueueState n} (invariant : state.RingInvariant config)
    (isIdle : state.writer = .idle) {message : Pickled} (encodable : Encodable config message)
    (isFree : state.writtenFlag state.writerIdx = true → ∀ r, state.readFlag state.writerIdx r = true) :
    Completes config state message := by
  have called : Reaches (WriterStep config) state { state with writer := .checking message 0 0 } :=
    Reaches.start.step (.enqueue message isIdle)
  obtain ⟨readCount, checked, isCount⟩ := @checks_reaches n config
    { state with writer := .checking message 0 0 } message rfl n (Nat.le_refl n)
  have passes : ¬(state.writtenFlag state.writerIdx = true ∧ readCount ≠ n) :=
    fun ⟨isWritten, differs⟩ => differs (isCount (isFree isWritten))
  have acquired := ((called.trans checked).step (.pass rfl passes)).step (.unmark rfl)
  obtain ⟨final, ran⟩ := applyWrites_encodable encodable (invariant.sized state.writerIdx)
  obtain ⟨chunk, written⟩ := @writes_reaches n config { state with
    writtenFlag := update state.writtenFlag state.writerIdx false
    writer := .writing message (chunkWrites config.maxChunkBytes message) } message _ rfl final ran
  have filled := (acquired.trans written).step (.wrote rfl)
  obtain ⟨readFlag, reset⟩ := @resets_reaches n config { state with
    writtenFlag := update state.writtenFlag state.writerIdx false
    chunk
    writer := .resetting message 0 } message rfl n (Nat.le_refl n)
  have marked := ((filled.trans reset).step (.wereReset rfl)).step (.mark rfl)
  cases isOverflow : message.overflows config.maxChunkBytes with
  | false =>
    rw [isOverflow] at marked
    exact ⟨_, marked, rfl, rfl, rfl, rfl, rfl⟩
  | true =>
    rw [isOverflow] at marked
    exact ⟨_, marked.step (.send rfl), rfl, rfl, rfl, rfl, rfl⟩

/-! ## Failures that lose nothing -/

theorem Delivers.nextReturns {state : QueueState n}
    (reached : Reaches (TimelyStep config) (init config) state) (r : Fin n) :
    NextReturns (TimelyStep config) state r := by
  intro last later returned isReturned
  have delivers := (reaches_delivers (reached.trans later)).2
  rw [delivers.returned r] at isReturned
  have isNext := congrArg (·[(state.delivered r).length]?) isReturned
  rw [List.getElem?_concat_length, List.getElem?_map, Option.map_eq_some_iff] at isNext
  obtain ⟨message, isMessage, rfl⟩ := isNext
  rw [List.getElem?_take] at isMessage
  split at isMessage
  next => rw [isMessage, Option.map_some]
  next => exact nomatch isMessage

/-- In every run in which no `recv` fails, failed calls lose nothing. -/
theorem failures_lose_nothing (config : RingConfig) (state : QueueState n)
    (reached : Reaches (TimelyStep config) (init config) state) :
    LosesNothing config (TimelyStep config) FailedRead state := by
  obtain ⟨invariant, delivers⟩ := reaches_delivers reached
  constructor
  · intro r
    rw [delivers.returned r, List.map_take]
    exact List.take_prefix _ _
  · intro next failed
    have step : WriterStep config state next := by
      cases failed with
      | timeout isChecking fails => exact .giveUp isChecking fails
      | exception isWriting => exact .abort isWriting
    have kept := invariant.writerStep step
    cases failed with
    | timeout isChecking fails =>
      exact ⟨rfl, rfl, fun _ => ⟨_, _, isChecking⟩, fun message encodable => kept.completes rfl encodable⟩
    | exception isWriting =>
      have knows := invariant.writerKnows
      rw [WriterKnows, isWriting] at knows
      refine ⟨rfl, rfl, fun isWritten => ?_, fun message encodable => kept.completes rfl encodable⟩
      exact absurd (knows.1.symm.trans isWritten) Bool.false_ne_true
  · intro r next failed
    have step : ReaderStep config r state next ∧ next.delivered r = state.delivered r := by
      cases failed with
      | timeout isChecked fails => exact ⟨.giveUp isChecked fails, rfl⟩
      | exception isReading => exact ⟨.abort isReading, rfl⟩
    exact ⟨step.2, Delivers.nextReturns reached r,
      Delivers.nextReturns (reached.step (.reader r step.1)) r⟩

/-- An exception while the short message is filled in leaves a queue that takes it again. -/
theorem exception_loses_nothing : ∃ state next : QueueState 1,
    state.writer = .writing shortMessage (chunkWrites 12 shortMessage) ∧ FailedEnqueue state next ∧
      next.enqueued = [] ∧ Completes smallRing next shortMessage := by
  have acquired : Reaches (TimelyStep smallRing) (init smallRing : QueueState 1) _ :=
    (((Reaches.start.step (.writer (.enqueue shortMessage rfl))).step
      (.writer (.readFlag (by decide) rfl))).step
      (.writer (.pass rfl fun both => Bool.false_ne_true both.1))).step (.writer (.unmark rfl))
  have failed := (failures_lose_nothing smallRing _ acquired).enqueue _ (.exception rfl)
  exact ⟨_, _, rfl, .exception rfl, failed.1,
    failed.2.2.2 shortMessage ⟨by decide, by decide⟩ fun isWritten => absurd isWritten Bool.false_ne_true⟩

/-- A reader that cannot decode the long message from the overflow socket is given the short
one next. -/
theorem decode_failure_loses_message :
    ¬ ∀ state : QueueState 1, Reaches (FaultyStep smallRing) (init smallRing) state →
      LosesNothing smallRing (FaultyStep smallRing) FailedDequeue state := by
  intro claimed
  have writes {initial state next : QueueState 1} (reached : Reaches (FaultyStep smallRing) initial state)
      (step : WriterStep smallRing state next) : Reaches (FaultyStep smallRing) initial next :=
    reached.step (.step (.timely (.writer step)))
  have reads {initial state next : QueueState 1} (reached : Reaches (FaultyStep smallRing) initial state)
      (step : ReaderStep smallRing 0 state next) : Reaches (FaultyStep smallRing) initial next :=
    reached.step (.step (.timely (.reader 0 step)))
  have fromHere {state : QueueState 1} (_ : NextReturns (FaultyStep smallRing) state 0) :
      Reaches (FaultyStep smallRing) state state := .start
  have called : Reaches (FaultyStep smallRing) (init smallRing : QueueState 1) _ :=
    writes .start (.enqueue longMessage rfl)
  have acquired := writes (writes (writes called (.readFlag (by decide) rfl))
    (.pass rfl fun both => Bool.false_ne_true both.1)) (.unmark rfl)
  have sent := writes (writes (writes (writes (writes (writes acquired
    (.write rfl rfl)) (.wrote rfl)) (.reset (by decide) rfl)) (.wereReset rfl)) (.mark rfl)) (.send rfl)
  have receiving := reads (reads (reads (reads (reads sent (.dequeue rfl)) (.readFlag rfl)) (.pass rfl rfl))
    (.readChunk rfl rfl)) (.finish rfl)
  have kept := ((claimed _ receiving).dequeue 0 _ (.decoding (.fail rfl rfl))).2.2
  have acquiredShort := writes (writes (writes (writes (fromHere kept) (.enqueue shortMessage rfl))
    (.readFlag (by decide) rfl)) (.pass rfl fun both => Bool.false_ne_true both.1)) (.unmark rfl)
  have writtenShort := writes (writes (writes (writes (writes (writes (writes (writes acquiredShort
    (.write rfl rfl)) (.write rfl rfl)) (.write rfl rfl)) (.write rfl rfl)) (.wrote rfl))
    (.reset (by decide) rfl)) (.wereReset rfl)) (.mark rfl)
  have delivered := reads (reads (reads (reads (reads writtenShort (.dequeue rfl)) (.readFlag rfl)) (.pass rfl rfl))
    (.readChunk rfl rfl)) (.finish rfl)
  have isLong : some longMessage.allBuffers = some shortMessage.allBuffers := kept _ delivered _ rfl
  exact absurd isLong (by decide)

end QueueState

end DeepSpark
