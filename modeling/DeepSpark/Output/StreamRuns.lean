import DeepSpark.Output.Stream

/-!
Runs of a request that streams its output.

Owns when an output of the engine, or an abort, leaves the logprobs in order, what holds in
every state of a run, and that the deltas add up to the result exactly in the runs where
each step leaves the logprobs in order. The tokens and the text always add up.
-/

namespace DeepSpark

open DeltaStream List

namespace DeltaStream

variable {D L R K : Type} (decodeNext : D → List TokenId → Text × D) (entryOf : List L → R → L)

def numTokens (self : DeltaStream D L R K) : Nat := self.requestState.detokenizer.numOutputTokens

def numSent (self : DeltaStream D L R K) : Nat :=
  if 1 < self.requestState.streamInterval then self.requestState.sentTokensOffset else self.numTokens

/-- Without new tokens, no output is made of a request that has tokens, but one of tokens
held back; and with new ones, no output from before the first token waits for the consumer. -/
def CleanStep (self : DeltaStream D L R K) (newTokenIds : List TokenId) (finishes : Bool) : Prop :=
  self.requestState.logprobs.isSome →
    (newTokenIds = [] → self.numTokens = 0 ∨
      1 < self.requestState.streamInterval ∧
        (finishes → self.requestState.sentTokensOffset < self.numTokens)) ∧
    (newTokenIds ≠ [] → self.numTokens = 0 → self.collector.output = none)

def CleanEvent {wantsLogprobs : Bool} (self : DeltaStream D L R K) : StreamEvent R K wantsLogprobs → Prop
  | .engine output => self.finished = false → self.CleanStep output.newTokenIds output.finishReason.isSome
  | .abort => self.finished = false → self.CleanStep [] true
  | .get => True

def CleanRun {wantsLogprobs : Bool} (self : DeltaStream D L R K) : List (StreamEvent R K wantsLogprobs) → Prop
  | [] => True
  | event :: rest => self.CleanEvent event ∧
      ∀ next, self.step decodeNext entryOf event = some next → CleanRun next rest

/-! ## Every state of a run -/

/-- What holds in every state: of the text and the tokens the consumer gets what was sent,
and of the logprobs at least as many entries. -/
structure Consistent (stream : DeltaStream D L R K) : Prop where
  sound : stream.Sound
  text : stream.got CompletionOutput.text = stream.requestState.detokenizer.outputText.take
    stream.requestState.detokenizer.lastOutputTextOffset
  inside : stream.requestState.detokenizer.lastOutputTextOffset ≤
    stream.requestState.detokenizer.outputText.length
  heldBack : stream.finished = false → stream.requestState.detokenizer.lastOutputTextOffset ≤
    stream.requestState.detokenizer.outputText.length - stream.requestState.detokenizer.stopBufferLength
  textSent : stream.finished = true → stream.requestState.detokenizer.lastOutputTextOffset =
    stream.requestState.detokenizer.outputText.length
  tokenIds : stream.got CompletionOutput.tokenIds =
    stream.requestState.detokenizer.outputTokenIds.take stream.numSent
  sentInside : stream.numSent ≤ stream.numTokens
  tokensSent : stream.finished = true → stream.numSent = stream.numTokens
  recent : 1 < stream.requestState.streamInterval → stream.finished = false →
    (stream.requestState.sentTokensOffset = 0 → stream.numTokens = 0) ∧
      stream.numTokens < stream.requestState.sentTokensOffset + stream.requestState.streamInterval
  rows : stream.requestState.logprobs.isSome → stream.rows.length = stream.numTokens
  entries : stream.requestState.logprobs.isSome → stream.numTokens ≤ stream.processorLogprobs.length
  early : stream.requestState.logprobs.isSome → stream.numTokens = 0 →
    stream.processorLogprobs = [] ∧ (stream.collector.output ≠ none → Shares stream.collector.output)
  surplus : stream.requestState.logprobs.isSome → (stream.got CompletionOutput.tokenIds).length ≤
    (stream.got (completionEntries stream.processorLogprobs)).length

structure InOrder (stream : DeltaStream D L R K) : Prop where
  processor : stream.processorLogprobs = appendLogprobs entryOf [] stream.rows
  entries : stream.got (completionEntries stream.processorLogprobs) =
    stream.processorLogprobs.take stream.numSent
  shares : Shares stream.collector.output → stream.numTokens = 0

structure Steps (first received last : DeltaStream D L R K) (newTokenIds : List TokenId) (newRows : List R)
    (stopString : Option Text) (finishes : Bool) : Prop where
  isRunning : first.finished = false
  receives : Receives entryOf first received newTokenIds newRows stopString
  stopFinishes : stopString ≠ none → finishes = true
  emits : (HoldsBack received.requestState finishes ∧ last = received.skip finishes) ∨
    (¬HoldsBack received.requestState finishes ∧ Emits received last newTokenIds finishes)

section Step

variable {entryOf} {first received last : DeltaStream D L R K} {newTokenIds : List TokenId} {newRows : List R}
  {stopString : Option Text} {finishes : Bool}
  (receives : Receives entryOf first received newTokenIds newRows stopString)

theorem length_outputTokenIds (stream : DeltaStream D L R K) :
    stream.requestState.detokenizer.outputTokenIds.length = stream.numTokens :=
  length_drop

include receives in
theorem Receives.outputTokenIds (sound : first.Sound) :
    received.requestState.detokenizer.outputTokenIds =
      first.requestState.detokenizer.outputTokenIds ++ newTokenIds := by
  rw [BaseIncrementalDetokenizer.outputTokenIds, receives.updates.tokenIds, receives.updates.promptLen,
    drop_append_of_le_length sound.counted]
  rfl

include receives in
theorem Receives.numTokens (sound : first.Sound) :
    received.numTokens = first.numTokens + newTokenIds.length := by
  rw [← length_outputTokenIds, receives.outputTokenIds sound, length_append, length_outputTokenIds]

section

include receives

theorem Receives.stopBufferLength :
    received.requestState.detokenizer.stopBufferLength = first.requestState.detokenizer.stopBufferLength := by
  rw [BaseIncrementalDetokenizer.stopBufferLength, receives.updates.stop,
    receives.updates.includeStopStrInOutput]
  rfl

theorem Receives.streamInterval :
    received.requestState.streamInterval = first.requestState.streamInterval := by
  rw [receives.requestState]

theorem Receives.sentTokensOffset :
    received.requestState.sentTokensOffset = first.requestState.sentTokensOffset := by
  rw [receives.requestState]

theorem Receives.isSome :
    received.requestState.logprobs.isSome = first.requestState.logprobs.isSome := by
  rw [receives.requestState, Option.isSome_map]

theorem Receives.processorLogprobs (wants : first.requestState.logprobs.isSome) :
    received.processorLogprobs = appendLogprobs entryOf first.processorLogprobs newRows := by
  obtain ⟨entries, isHeld⟩ := Option.isSome_iff_exists.mp wants
  rw [DeltaStream.processorLogprobs, receives.requestState, DeltaStream.processorLogprobs, isHeld]
  rfl

theorem Receives.got {α : Type}
    (part : CompletionOutput L → List α) : received.got part = first.got part := by
  rw [DeltaStream.got, DeltaStream.got, receives.collector, receives.delivered]

end

include receives in
theorem Receives.sound (sound : first.Sound) : received.Sound := by
  refine ⟨⟨?_, ?_, ?_, ?_⟩, ?_, ?_⟩
  · rw [receives.requestState]
    exact sound.shaped.isDelta
  · rw [receives.collector]
    exact sound.shaped.aggregates
  · rw [receives.collector, receives.requestState, Option.isSome_map]
    exact sound.shaped.pending
  · rw [receives.delivered]
    exact sound.shaped.delivered
  · rw [receives.updates.stop]
    exact sound.nonempty
  · rw [receives.updates.promptLen, receives.updates.tokenIds, length_append]
    exact Nat.le_add_right_of_le sound.counted

section

variable (emits : Emits received last newTokenIds finishes)

include emits

theorem Emits.outputTokenIds :
    last.requestState.detokenizer.outputTokenIds = received.requestState.detokenizer.outputTokenIds := by
  rw [emits.detokenizer]
  rfl

theorem Emits.numTokens :
    last.numTokens = received.numTokens := by
  rw [← length_outputTokenIds, emits.outputTokenIds, length_outputTokenIds]

theorem Emits.numSent :
    last.numSent = last.numTokens := by
  rw [DeltaStream.numSent, emits.streamInterval, emits.sentTokensOffset]
  split
  next => exact emits.numTokens.symm
  next => rfl

end

theorem Emits.sound (sound : received.Sound) (emits : Emits received last newTokenIds finishes) : last.Sound := by
  refine ⟨emits.shaped, ?_, ?_⟩
  · rw [emits.detokenizer]
    exact sound.nonempty
  · rw [emits.detokenizer]
    exact sound.counted

include receives in
theorem Receives.text (consistent : first.Consistent) (isRunning : first.finished = false) :
    received.got CompletionOutput.text = received.requestState.detokenizer.outputText.take
        received.requestState.detokenizer.lastOutputTextOffset ∧
      received.requestState.detokenizer.lastOutputTextOffset ≤
        received.requestState.detokenizer.outputText.length ∧
      (stopString = none → received.requestState.detokenizer.lastOutputTextOffset ≤
        received.requestState.detokenizer.outputText.length -
          received.requestState.detokenizer.stopBufferLength) := by
  obtain ⟨inside, isKept⟩ := receives.updates.kept _ (consistent.heldBack isRunning)
  rw [receives.got, receives.updates.lastOutputTextOffset, isKept, receives.stopBufferLength]
  refine ⟨consistent.text, inside, fun goesOn => ?_⟩
  have longer := (receives.updates.goesOn goesOn).length_le
  have held := consistent.heldBack isRunning
  omega

include receives in
theorem Receives.tokenIds (consistent : first.Consistent) :
    received.got CompletionOutput.tokenIds =
      received.requestState.detokenizer.outputTokenIds.take first.numSent := by
  have inside := consistent.sentInside
  rw [← length_outputTokenIds] at inside
  rw [receives.got, receives.outputTokenIds consistent.sound, take_append_of_le_length inside]
  exact consistent.tokenIds

include receives in
theorem sentTokens_eq (consistent : first.Consistent) :
    sentTokens received.requestState newTokenIds =
      received.requestState.detokenizer.outputTokenIds.drop first.numSent := by
  unfold sentTokens DeltaStream.numSent
  rw [receives.streamInterval, receives.sentTokensOffset]
  split
  next => rfl
  next =>
    rw [receives.outputTokenIds consistent.sound, ← length_outputTokenIds, drop_left]

include receives in
theorem Emits.tokenIds_eq (consistent : first.Consistent)
    (emits : Emits received last newTokenIds finishes) :
    last.got CompletionOutput.tokenIds = last.requestState.detokenizer.outputTokenIds := by
  rw [emits.tokenIds, receives.tokenIds consistent, sentTokens_eq receives consistent,
    take_append_drop, emits.outputTokenIds]

/-! ### The logprobs -/

theorem pendingPart_of_not_shares {pending : Option (RequestOutput L K)} (notShared : ¬Shares pending)
    (before after : List L) :
    pendingPart pending (completionEntries before) = pendingPart pending (completionEntries after) := by
  cases pending with
  | none => rfl
  | some output =>
    refine congrArg List.flatten (map_congr_left fun completion isMember => ?_)
    have notHere : completion.logprobs ≠ some .shared :=
      fun isShared => notShared ⟨output, rfl, completion, isMember, isShared⟩
    rw [completionEntries, completionEntries]
    cases isHeld : completion.logprobs with
    | none => rfl
    | some held =>
      cases held with
      | own entries => rfl
      | shared => exact absurd isHeld notHere

theorem pendingPart_of_shares {stream : DeltaStream D L R K} (shaped : stream.Shaped)
    (isShared : Shares stream.collector.output) (entries : List L) :
    pendingPart stream.collector.output (completionEntries entries) = entries := by
  obtain ⟨output, isPending, completion, isMember, isShared⟩ := isShared
  obtain ⟨held, isOnly, _, _⟩ := shaped.pending output isPending
  rw [isOnly, mem_singleton] at isMember
  rw [isPending, pendingPart_singleton isOnly, ← isMember, completionEntries, isShared]
  rfl

include receives in
/-- Only entries in the list of the `LogprobsProcessor` change what waits in the
collector. -/
theorem Receives.entries (shaped : first.Shaped) (wants : first.requestState.logprobs.isSome) :
    (¬Shares first.collector.output → received.got (completionEntries received.processorLogprobs) =
      first.got (completionEntries first.processorLogprobs)) ∧
    (Shares first.collector.output → (received.got (completionEntries received.processorLogprobs)).length =
      (first.got (completionEntries first.processorLogprobs)).length + newRows.length) := by
  have sameDelivered := delivered_part shaped received.processorLogprobs first.processorLogprobs
  rw [receives.got, DeltaStream.got, DeltaStream.got, sameDelivered]
  refine ⟨fun notShared => ?_, fun isShared => ?_⟩
  · rw [pendingPart_of_not_shares notShared]
  · rw [pendingPart_of_shares shaped isShared, pendingPart_of_shares shaped isShared,
      receives.processorLogprobs wants, length_append, length_append, length_appendLogprobs]
    omega

theorem length_lastItems (items : List L) (count : Nat) (inside : count ≤ items.length) :
    count ≤ (lastItems items count).length := by
  unfold lastItems
  split
  · omega
  · rw [length_drop]
    omega

variable (consistent : first.Consistent)

include consistent

include receives in
theorem Receives.numTokens_le (wants : first.requestState.logprobs.isSome) :
    received.numTokens ≤ received.processorLogprobs.length := by
  have enough := consistent.entries wants
  have count := receives.oneForEach wants
  rw [receives.numTokens consistent.sound, receives.processorLogprobs wants, length_appendLogprobs]
  omega

include receives in
/-- An output has an entry for each of its tokens. Made of no tokens it has all entries. -/
theorem Emits.length_entries (wants : first.requestState.logprobs.isSome)
    (emits : Emits received last newTokenIds finishes) :
    (received.got (completionEntries received.processorLogprobs)).length +
        (received.numTokens - first.numSent) ≤
      (last.got (completionEntries last.processorLogprobs)).length ∧
    (received.numTokens = first.numSent →
      (last.got (completionEntries last.processorLogprobs)).length =
        (received.got (completionEntries received.processorLogprobs)).length +
          received.processorLogprobs.length) := by
  have enough := receives.numTokens_le consistent wants
  have isCount : (sentTokens received.requestState newTokenIds).length = received.numTokens - first.numSent := by
    rw [sentTokens_eq receives consistent, length_drop, length_outputTokenIds]
  rw [emits.entries, length_append, isCount]
  cases isEmpty : received.processorLogprobs.isEmpty with
  | true =>
    rw [List.isEmpty_iff] at isEmpty
    rw [isEmpty, length_nil] at enough
    rw [if_pos rfl, isEmpty, length_nil]
    omega
  | false =>
    rw [if_neg Bool.false_ne_true]
    refine ⟨?_, fun none => ?_⟩
    · have atLeast := length_lastItems received.processorLogprobs (received.numTokens - first.numSent) (by omega)
      omega
    · rw [none, Nat.sub_self, lastItems, if_pos rfl]

/-- The entries that the consumer gets never fall behind the tokens, and are more for good
after a step that leaves the logprobs in disorder. -/
theorem Steps.surplus (wants : first.requestState.logprobs.isSome)
    (steps : Steps entryOf first received last newTokenIds newRows stopString finishes) :
    (first.got (completionEntries first.processorLogprobs)).length +
        (last.got CompletionOutput.tokenIds).length ≤
      (last.got (completionEntries last.processorLogprobs)).length +
        (first.got CompletionOutput.tokenIds).length ∧
    (¬first.CleanStep newTokenIds finishes →
      (first.got (completionEntries first.processorLogprobs)).length +
          (last.got CompletionOutput.tokenIds).length <
        (last.got (completionEntries last.processorLogprobs)).length +
          (first.got CompletionOutput.tokenIds).length) := by
  have receives := steps.receives
  have counts := receives.numTokens consistent.sound
  obtain ⟨ifNotShared, ifShared⟩ := receives.entries consistent.sound.shaped wants
  have oneForEach := receives.oneForEach wants
  have inside := consistent.sentInside
  have firstTokens : (first.got CompletionOutput.tokenIds).length = first.numSent := by
    rw [consistent.tokenIds, length_take, length_outputTokenIds, Nat.min_eq_left inside]
  have notFewer : (first.got (completionEntries first.processorLogprobs)).length ≤
      (received.got (completionEntries received.processorLogprobs)).length := by
    by_cases isShared : Shares first.collector.output
    · rw [ifShared isShared]
      exact Nat.le_add_right _ _
    · rw [ifNotShared isShared]
  have enough := receives.numTokens_le consistent wants
  rcases steps.emits with ⟨holdsBack, isSkipped⟩ | ⟨sends, emits⟩
  · obtain ⟨isLong, notFinished, isStarted, tooFew⟩ := holdsBack
    rw [receives.streamInterval] at isLong
    rw [receives.sentTokensOffset] at isStarted
    have sentSome : first.numSent = first.requestState.sentTokensOffset := if_pos isLong
    have lastTokens : (last.got CompletionOutput.tokenIds).length = first.numSent := by
      rw [isSkipped, ← firstTokens, ← receives.got]
      rfl
    have lastEntries : (last.got (completionEntries last.processorLogprobs)).length =
        (received.got (completionEntries received.processorLogprobs)).length := by
      rw [isSkipped]
      rfl
    refine ⟨by omega, fun notClean => ?_⟩
    refine absurd (fun _ => ⟨fun _ => Or.inr ⟨isLong, fun finishes => ?_⟩, fun _ isFirst => ?_⟩) notClean
    · rw [notFinished] at finishes
      exact nomatch finishes
    · omega
  · have lastTokens : (last.got CompletionOutput.tokenIds).length = received.numTokens := by
      rw [emits.tokenIds_eq receives consistent, length_outputTokenIds, emits.numTokens]
    obtain ⟨atLeast, allEntries⟩ := emits.length_entries receives consistent wants
    refine ⟨by omega, fun notClean => ?_⟩
    by_cases hasTokens : newTokenIds = []
    · -- an output of no tokens, of a request that has some
      have noTokens : received.numTokens = first.numSent ∧ first.numTokens ≠ 0 := by
        have notEither : ¬(_ ∨ _) :=
          fun either => notClean fun _ => ⟨fun _ => either, fun has => absurd hasTokens has⟩
        rw [not_or, not_and] at notEither
        rw [hasTokens, length_nil, Nat.add_zero] at counts
        refine ⟨?_, notEither.1⟩
        rw [counts]
        unfold DeltaStream.numSent at inside ⊢
        split
        next isLong =>
          have isSent := notEither.2 isLong
          rw [if_pos isLong] at inside
          rw [Classical.not_imp] at isSent
          omega
        next => rfl
      rw [hasTokens, length_nil] at counts
      omega
    · -- an output with the list of the `LogprobsProcessor` waits
      have positive := length_pos_iff.mpr hasTokens
      have isFirst : first.numTokens = 0 ∧ first.collector.output ≠ none := by
        by_contra notFirst
        rw [not_and, not_ne_iff] at notFirst
        exact notClean fun _ => ⟨fun isEmpty => absurd isEmpty hasTokens, fun _ => notFirst⟩
      have isShared := (consistent.early wants isFirst.1).2 isFirst.2
      have isMore := ifShared isShared
      omega

theorem Steps.text (steps : Steps entryOf first received last newTokenIds newRows stopString finishes) :
    last.got CompletionOutput.text = last.requestState.detokenizer.outputText.take
        last.requestState.detokenizer.lastOutputTextOffset ∧
      last.requestState.detokenizer.lastOutputTextOffset ≤ last.requestState.detokenizer.outputText.length ∧
      (last.finished = false → last.requestState.detokenizer.lastOutputTextOffset ≤
        last.requestState.detokenizer.outputText.length -
          last.requestState.detokenizer.stopBufferLength) ∧
      (last.finished = true → last.requestState.detokenizer.lastOutputTextOffset =
        last.requestState.detokenizer.outputText.length) ∧
      first.got CompletionOutput.text <+: last.got CompletionOutput.text := by
  obtain ⟨text, inside, heldBack⟩ := steps.receives.text consistent steps.isRunning
  have sameText := steps.receives.got CompletionOutput.text
  have noStop (goesOn : finishes = false) : stopString = none := by
    by_contra isStop
    rw [steps.stopFinishes isStop] at goesOn
    exact nomatch goesOn
  rcases steps.emits with ⟨⟨_, notFinished, _⟩, isSkipped⟩ | ⟨_, emits⟩
  · rw [isSkipped, notFinished]
    refine ⟨text, inside, fun _ => heldBack (noStop notFinished), (fun isFinished => nomatch isFinished), ?_⟩
    rw [← sameText]
    exact prefix_refl _
  · have isSent := emits.text (text.trans (nil_append _).symm)
    rw [nil_append] at isSent
    have sameOutput : last.requestState.detokenizer.outputText =
        received.requestState.detokenizer.outputText := by rw [emits.detokenizer]
    have sameBuffer : last.requestState.detokenizer.stopBufferLength =
        received.requestState.detokenizer.stopBufferLength := by
      rw [emits.detokenizer]
      rfl
    have offset := emits.lastOutputTextOffset
    rw [sameOutput, sameBuffer, emits.finished]
    refine ⟨isSent, ?_, fun goesOn => ?_, fun isFinished => ?_, ?_⟩
    · rw [offset]
      split <;> omega
    · have held := heldBack (noStop goesOn)
      rw [offset, goesOn, if_neg Bool.false_ne_true]
      omega
    · rw [offset, isFinished, if_pos rfl]
      omega
    · rw [← sameText, text, isSent, offset]
      exact take_prefix_take_left (Nat.le_max_left _ _)

omit consistent in
theorem Steps.isSome (steps : Steps entryOf first received last newTokenIds newRows stopString finishes) :
    last.requestState.logprobs.isSome = first.requestState.logprobs.isSome := by
  rcases steps.emits with ⟨_, isSkipped⟩ | ⟨_, emits⟩
  · rw [isSkipped]
    exact steps.receives.isSome
  · exact emits.isSome.trans steps.receives.isSome

theorem Steps.isConsistent (steps : Steps entryOf first received last newTokenIds newRows stopString finishes) :
    last.Consistent := by
  have receives := steps.receives
  have counts := receives.numTokens consistent.sound
  have sound := receives.sound consistent.sound
  obtain ⟨text, inside, heldBack, textSent, _⟩ := steps.text consistent
  have surplus (wants : last.requestState.logprobs.isSome) : (last.got CompletionOutput.tokenIds).length ≤
      (last.got (completionEntries last.processorLogprobs)).length := by
    rw [steps.isSome] at wants
    have more := (steps.surplus consistent wants).1
    have before := consistent.surplus wants
    omega
  have rows (wants : first.requestState.logprobs.isSome) : received.rows.length = received.numTokens := by
    rw [receives.rows, length_append, consistent.rows wants, receives.oneForEach wants, counts]
  have entries (wants : first.requestState.logprobs.isSome) := receives.numTokens_le consistent wants
  have early (wants : first.requestState.logprobs.isSome) (isZero : received.numTokens = 0) :
      received.processorLogprobs = [] ∧
        (received.collector.output ≠ none → Shares received.collector.output) := by
    have zeroBefore : first.numTokens = 0 := by omega
    obtain ⟨noEntries, shares⟩ := consistent.early wants zeroBefore
    have noRows : newRows = [] := by
      rw [← length_eq_zero_iff, receives.oneForEach wants]
      omega
    rw [receives.processorLogprobs wants, noRows, noEntries, receives.collector]
    exact ⟨rfl, shares⟩
  rcases steps.emits with ⟨⟨isLong, notFinished, isStarted, tooFew⟩, rfl⟩ | ⟨_, emits⟩
  · have sameSent : (received.skip finishes).numSent = first.numSent := by
      show received.numSent = _
      rw [DeltaStream.numSent, receives.streamInterval, receives.sentTokensOffset, DeltaStream.numSent]
      rw [receives.streamInterval] at isLong
      rw [if_pos isLong, if_pos isLong]
    have shaped := sound.shaped
    refine ⟨⟨⟨shaped.isDelta, shaped.aggregates, shaped.pending, shaped.delivered⟩, sound.nonempty, sound.counted⟩,
      text, inside, heldBack, textSent, ?_, ?_,
      fun isFinished => ?_, fun _ _ => ⟨fun isZero => absurd isZero isStarted, tooFew⟩, ?_, ?_, ?_, surplus⟩
    · have isSent := receives.tokenIds consistent
      rw [sameSent]
      exact isSent
    · have insideBefore := consistent.sentInside
      rw [sameSent]
      show _ ≤ received.numTokens
      omega
    · rw [skip, notFinished] at isFinished
      exact nomatch isFinished
    · exact fun wants => rows (receives.isSome ▸ wants)
    · exact fun wants => entries (receives.isSome ▸ wants)
    · exact fun wants => early (receives.isSome ▸ wants)
  · have sameCount := emits.numTokens
    have allSent := emits.numSent
    refine ⟨emits.sound sound, text, inside, heldBack, textSent, ?_, Nat.le_of_eq allSent, fun _ => allSent, ?_,
      ?_, ?_, ?_, surplus⟩
    · rw [emits.tokenIds_eq receives consistent, allSent, ← length_outputTokenIds, take_length]
    · intro isLong _
      have isSent : last.requestState.sentTokensOffset = last.numTokens := by
        rw [← allSent, DeltaStream.numSent, if_pos isLong]
      rw [isSent]
      exact ⟨id, by omega⟩
    · intro wants
      rw [emits.rows, sameCount]
      exact rows (steps.isSome ▸ wants)
    · intro wants
      rw [sameCount]
      exact Nat.le_trans (entries (steps.isSome ▸ wants)) emits.grows
    · intro wants isZero
      rw [sameCount] at isZero
      rw [steps.isSome] at wants
      obtain ⟨noEntries, shares⟩ := early wants isZero
      refine ⟨emits.bounded noEntries, fun _ => emits.shares.mpr ?_⟩
      by_cases isEmpty : received.collector.output = none
      · refine Or.inr ⟨isEmpty, ?_⟩
        obtain ⟨held, isHeld⟩ := Option.isSome_iff_exists.mp (receives.isSome.trans wants)
        rw [processorLogprobs, isHeld] at noEntries
        rw [isHeld]
        exact congrArg some noEntries
      · exact Or.inl (shares isEmpty)

theorem Steps.inOrder (steps : Steps entryOf first received last newTokenIds newRows stopString finishes)
    (wants : first.requestState.logprobs.isSome) (clean : first.CleanStep newTokenIds finishes)
    (inOrder : first.InOrder entryOf) : last.InOrder entryOf := by
  have receives := steps.receives
  have counts := receives.numTokens consistent.sound
  have oneForEach := receives.oneForEach wants
  obtain ⟨ifEmpty, ifSome⟩ := clean wants
  have sentInside := consistent.sentInside
  -- where the list of the `LogprobsProcessor` waits, there are no tokens yet, and no new ones
  have noneWaits (isShared : Shares first.collector.output) : received.numTokens = 0 ∧ newRows = [] := by
    have isZero := inOrder.shares isShared
    have noTokens : newTokenIds = [] := by
      by_contra hasTokens
      obtain ⟨output, isPending, _⟩ := isShared
      have notPending := ifSome hasTokens isZero
      rw [isPending] at notPending
      exact nomatch notPending
    rw [noTokens, length_nil] at counts oneForEach
    exact ⟨by omega, eq_nil_of_length_eq_zero oneForEach⟩
  have processor : received.processorLogprobs = appendLogprobs entryOf [] received.rows := by
    rw [receives.processorLogprobs wants, inOrder.processor, receives.rows, appendLogprobs_append]
  have length : received.processorLogprobs.length = received.numTokens := by
    rw [processor, length_appendLogprobs, receives.rows, length_append, consistent.rows wants, oneForEach,
      counts, length_nil, Nat.zero_add]
  have firstLength : first.processorLogprobs.length = first.numTokens := by
    rw [inOrder.processor, length_appendLogprobs, consistent.rows wants, length_nil, Nat.zero_add]
  have entries : received.got (completionEntries received.processorLogprobs) =
      received.processorLogprobs.take first.numSent := by
    have before : received.got (completionEntries received.processorLogprobs) =
        first.processorLogprobs.take first.numSent := by
      by_cases isShared : Shares first.collector.output
      · have unchanged : received.processorLogprobs = first.processorLogprobs := by
          rw [receives.processorLogprobs wants, (noneWaits isShared).2]
          rfl
        rw [unchanged, receives.got]
        exact inOrder.entries
      · rw [(receives.entries consistent.sound.shaped wants).1 isShared]
        exact inOrder.entries
    obtain ⟨more, isMore⟩ := prefix_appendLogprobs entryOf first.processorLogprobs newRows
    rw [before, receives.processorLogprobs wants, ← isMore, take_append_of_le_length (by omega)]
  rcases steps.emits with ⟨⟨isLong, _⟩, rfl⟩ | ⟨sends, emits⟩
  · have sameSent : (received.skip finishes).numSent = first.numSent := by
      show received.numSent = _
      rw [DeltaStream.numSent, receives.streamInterval, receives.sentTokensOffset, DeltaStream.numSent]
      rw [receives.streamInterval] at isLong
      rw [if_pos isLong, if_pos isLong]
    refine ⟨processor, ?_, fun isShared => ?_⟩
    · rw [sameSent]
      exact entries
    · change Shares received.collector.output at isShared
      rw [receives.collector] at isShared
      exact (noneWaits isShared).1
  · by_cases isEmpty : received.processorLogprobs = []
    · have lastEmpty := emits.bounded isEmpty
      rw [isEmpty, length_nil] at length
      refine ⟨?_, ?_, fun _ => emits.numTokens.trans length.symm⟩
      · rw [lastEmpty, emits.rows, ← processor, isEmpty]
      · rw [emits.entries, entries, isEmpty, lastEmpty, take_nil, take_nil]
        rfl
    · have notZero : received.numTokens ≠ 0 := by
        rw [← length]
        exact fun isZero => isEmpty (eq_nil_of_length_eq_zero isZero)
      have notShared : ¬Shares received.collector.output := by
        rw [receives.collector]
        exact fun isShared => notZero (noneWaits isShared).1
      have sendsSome : first.numSent < received.numTokens := by
        by_contra notMore
        have noTokens : newTokenIds = [] := eq_nil_of_length_eq_zero (by omega)
        rw [noTokens, length_nil, Nat.add_zero] at counts
        rcases ifEmpty noTokens with isZero | ⟨isLong, ifFinishes⟩
        · exact notZero (counts.trans isZero)
        · have isSent : first.numSent = first.requestState.sentTokensOffset := if_pos isLong
          have notFinished : finishes = false := by
            by_contra isFinished
            have heldSome := ifFinishes (Bool.not_eq_false _ |>.mp isFinished)
            omega
          refine sends ⟨receives.streamInterval ▸ isLong, notFinished, ?_, ?_⟩
          · rw [receives.sentTokensOffset]
            omega
          · rw [receives.sentTokensOffset, receives.streamInterval]
            change received.numTokens < _
            omega
      have unchanged := emits.unchanged notShared
      have isCount : (sentTokens received.requestState newTokenIds).length =
          received.numTokens - first.numSent := by
        rw [sentTokens_eq receives consistent, length_drop, length_outputTokenIds]
      refine ⟨?_, ?_, fun isShared => ?_⟩
      · rw [unchanged, emits.rows]
        exact processor
      · have isSuffix : received.processorLogprobs.length - (received.numTokens - first.numSent) =
            first.numSent := by omega
        rw [emits.entries, entries, if_neg (by rwa [List.isEmpty_iff]), isCount, lastItems,
          if_neg (Nat.sub_ne_zero_of_lt sendsSome), isSuffix, take_append_drop, unchanged,
          emits.numSent, emits.numTokens, ← length, take_length]
      · rcases emits.shares.mp isShared with isBefore | ⟨_, noEntries⟩
        · exact absurd isBefore notShared
        · refine absurd ?_ isEmpty
          rw [DeltaStream.processorLogprobs, noEntries]
          rfl

end Step

/-! ## Runs -/

variable {decodeNext}

theorem receives_nothing (first : DeltaStream D L R K) : Receives entryOf first first [] [] none := by
  refine ⟨rfl, rfl, (append_nil _).symm, fun _ => rfl, ?_, ?_⟩
  · cases isHeld : first.requestState.logprobs with
    | none =>
      rw [Option.map_none, ← isHeld]
    | some entries =>
      have same : appendLogprobs entryOf entries [] = entries := rfl
      rw [Option.map_some, same, ← isHeld]
  · refine ⟨rfl, rfl, rfl, (append_nil _).symm, rfl, fun _ => prefix_refl _,
      (fun _ isSome => nomatch isSome), fun sent isHeld => ⟨?_, rfl⟩⟩
    omega

/-- The consumer's `get` moves what waits to what it got. -/
theorem get_got {first : DeltaStream D L R K} {α : Type} (part : CompletionOutput L → List α)
    (sameRead : ∀ completion, part (readCompletion first.processorLogprobs completion) = part completion) :
    first.get.got part = first.got part := by
  have isGot : first.get.got part = ((first.delivered ++ (first.collector.output.map fun output =>
      output.outputs.map (readCompletion first.processorLogprobs)).getD []).map part).flatten ++ [] := rfl
  rw [isGot, append_nil, map_append, flatten_append, DeltaStream.got]
  refine congrArg (_ ++ ·) ?_
  cases first.collector.output with
  | none => rfl
  | some output =>
    show ((output.outputs.map _).map part).flatten = (output.outputs.map part).flatten
    rw [map_map]
    exact congrArg List.flatten (map_congr_left fun completion _ => sameRead completion)

theorem get_entries (first : DeltaStream D L R K) :
    first.get.got (completionEntries first.get.processorLogprobs) =
      first.got (completionEntries first.processorLogprobs) := by
  refine get_got _ fun completion => ?_
  rw [completionEntries, completionEntries, readCompletion]
  cases completion.logprobs <;> rfl

theorem get_isConsistent {first : DeltaStream D L R K} (consistent : first.Consistent) : first.get.Consistent := by
  have tokenIds := @get_got D L R K first _ CompletionOutput.tokenIds fun _ => rfl
  have text := @get_got D L R K first _ CompletionOutput.text fun _ => rfl
  have entries := get_entries first
  refine ⟨⟨⟨consistent.sound.shaped.isDelta, consistent.sound.shaped.aggregates, (fun _ isSome => nomatch isSome), ?_⟩,
    consistent.sound.nonempty, consistent.sound.counted⟩, text.trans consistent.text, consistent.inside,
    consistent.heldBack, consistent.textSent, tokenIds.trans consistent.tokenIds, consistent.sentInside,
    consistent.tokensSent, consistent.recent, consistent.rows, consistent.entries, ?_, ?_⟩
  · intro completion isMember
    have isGot : first.get.delivered = first.delivered ++ (first.collector.output.map fun output =>
        output.outputs.map (readCompletion first.processorLogprobs)).getD [] := rfl
    rw [isGot, mem_append] at isMember
    rcases isMember with isBefore | isNew
    · exact consistent.sound.shaped.delivered completion isBefore
    · cases isPending : first.collector.output with
      | none =>
        rw [isPending] at isNew
        exact absurd isNew not_mem_nil
      | some output =>
        rw [isPending] at isNew
        obtain ⟨held, _, rfl⟩ := mem_map.mp isNew
        rw [readCompletion]
        cases held.logprobs <;> simp
  · exact fun wants isZero => ⟨(consistent.early wants isZero).1, fun isSome => absurd rfl isSome⟩
  · intro wants
    rw [tokenIds, entries]
    exact consistent.surplus wants

/-- A step of a stream: the consumer's `get`, nothing after the end, or an output. -/
theorem step_cases {first : DeltaStream D L R K} (consistent : first.Consistent) {wantsLogprobs : Bool}
    (isWanted : first.requestState.logprobs.isSome = wantsLogprobs) (event : StreamEvent R K wantsLogprobs) :
    ∃ last, first.step decodeNext entryOf event = some last ∧
      (event = .get ∧ last = first.get ∨
        event ≠ .get ∧ first.finished = true ∧ last = first ∨
        ∃ received newTokenIds newRows stopString finishes,
          Steps entryOf first received last newTokenIds newRows stopString finishes ∧
            (first.CleanEvent event ↔ first.CleanStep newTokenIds finishes)) := by
  cases event with
  | get => exact ⟨_, rfl, Or.inl ⟨rfl, rfl⟩⟩
  | abort =>
    cases isRunning : first.finished with
    | true =>
      refine ⟨first, ?_, Or.inr (Or.inl ⟨by simp, rfl, rfl⟩)⟩
      rw [step, abort, isRunning, if_pos rfl]
    | false =>
      have isStep : first.step decodeNext entryOf (.abort : StreamEvent R K wantsLogprobs) =
          first.emit [] (some .abort) none none := by
        rw [step, abort, isRunning, if_neg Bool.false_ne_true]
      have isClean : first.CleanEvent (.abort : StreamEvent R K wantsLogprobs) ↔ first.CleanStep [] true :=
        ⟨fun clean => clean isRunning, fun clean _ => clean⟩
      rw [isStep]
      rcases emit_spec consistent.sound.shaped [] (some .abort) none none with
        ⟨holdsBack, isSkipped⟩ | ⟨sends, last, isEmitted, emits⟩
      · exact ⟨_, isSkipped, Or.inr (Or.inr ⟨first, [], [], none, true,
          ⟨isRunning, receives_nothing entryOf first, fun isSome => absurd rfl isSome,
            Or.inl ⟨holdsBack, rfl⟩⟩, isClean⟩)⟩
      · exact ⟨last, isEmitted, Or.inr (Or.inr ⟨first, [], [], none, true,
          ⟨isRunning, receives_nothing entryOf first, fun isSome => absurd rfl isSome,
            Or.inr ⟨sends, emits⟩⟩, isClean⟩)⟩
  | engine output =>
    cases isRunning : first.finished with
    | true =>
      refine ⟨first, ?_, Or.inr (Or.inl ⟨by simp, rfl, rfl⟩)⟩
      rw [step, processOutput, isRunning, if_pos rfl]
    | false =>
      obtain ⟨received, stopString, finishReason, stopReason, isStep, receives, goesOn, stops⟩ :=
        processOutput_spec decodeNext entryOf consistent.sound isRunning isWanted output
      have stopFinishes (isStop : stopString ≠ none) : finishReason.isSome = true := by
        rw [stops isStop]
        rfl
      have isClean : first.CleanEvent (.engine output) ↔
          first.CleanStep output.newTokenIds finishReason.isSome := by
        by_cases noStop : stopString = none
        · rw [goesOn noStop]
          exact ⟨fun clean => clean isRunning, fun clean _ => clean⟩
        · obtain ⟨found, isFound⟩ := Option.ne_none_iff_exists'.mp noStop
          have hasTokens := (receives.updates.stops found isFound).2
          have same : first.CleanStep output.newTokenIds output.finishReason.isSome ↔
              first.CleanStep output.newTokenIds finishReason.isSome := by
            unfold CleanStep
            simp [hasTokens]
          rw [← same]
          exact ⟨fun clean => clean isRunning, fun clean _ => clean⟩
      rw [step, isStep]
      rcases emit_spec (receives.sound consistent.sound).shaped output.newTokenIds finishReason stopReason
        output.kvTransferParams with ⟨holdsBack, isSkipped⟩ | ⟨sends, last, isEmitted, emits⟩
      · exact ⟨_, isSkipped, Or.inr (Or.inr ⟨received, _, _, stopString, _,
          ⟨isRunning, receives, stopFinishes, Or.inl ⟨holdsBack, rfl⟩⟩, isClean⟩)⟩
      · exact ⟨last, isEmitted, Or.inr (Or.inr ⟨received, _, _, stopString, _,
          ⟨isRunning, receives, stopFinishes, Or.inr ⟨sends, emits⟩⟩, isClean⟩)⟩

variable (decodeNext)

structure RunsTo {wantsLogprobs : Bool} (first last : DeltaStream D L R K)
    (events : List (StreamEvent R K wantsLogprobs)) : Prop where
  consistent : last.Consistent
  isSome : last.requestState.logprobs.isSome = first.requestState.logprobs.isSome
  text : first.got CompletionOutput.text <+: last.got CompletionOutput.text
  inOrder : first.requestState.logprobs.isSome → first.CleanRun decodeNext entryOf events →
    first.InOrder entryOf → last.InOrder entryOf
  surplus : first.requestState.logprobs.isSome →
    (first.got (completionEntries first.processorLogprobs)).length +
        (last.got CompletionOutput.tokenIds).length ≤
      (last.got (completionEntries last.processorLogprobs)).length +
        (first.got CompletionOutput.tokenIds).length
  disorder : first.requestState.logprobs.isSome → ¬first.CleanRun decodeNext entryOf events →
    (first.got (completionEntries first.processorLogprobs)).length +
        (last.got CompletionOutput.tokenIds).length <
      (last.got (completionEntries last.processorLogprobs)).length +
        (first.got CompletionOutput.tokenIds).length

variable {decodeNext} {entryOf}

theorem RunsTo.nil {wantsLogprobs : Bool} {first : DeltaStream D L R K} (consistent : first.Consistent) :
    RunsTo decodeNext entryOf first first ([] : List (StreamEvent R K wantsLogprobs)) :=
  ⟨consistent, rfl, prefix_refl _, fun _ _ inOrder => inOrder, fun _ => Nat.le_refl _,
    fun _ notClean => absurd trivial notClean⟩

theorem cleanRun_cons {wantsLogprobs : Bool} {first next : DeltaStream D L R K} {event : StreamEvent R K wantsLogprobs}
    (isStep : first.step decodeNext entryOf event = some next) (rest : List (StreamEvent R K wantsLogprobs)) :
    first.CleanRun decodeNext entryOf (event :: rest) ↔
      first.CleanEvent event ∧ next.CleanRun decodeNext entryOf rest := by
  rw [CleanRun]
  refine and_congr_right fun _ => ⟨fun all => all next isStep, fun clean other isOther => ?_⟩
  rw [isStep] at isOther
  cases isOther
  exact clean

theorem runsTo_step {first : DeltaStream D L R K} (consistent : first.Consistent) {wantsLogprobs : Bool}
    (isWanted : first.requestState.logprobs.isSome = wantsLogprobs) (event : StreamEvent R K wantsLogprobs) :
    ∃ last, first.step decodeNext entryOf event = some last ∧
      RunsTo decodeNext entryOf first last [event] := by
  obtain ⟨last, isStep, which⟩ := @step_cases D L R K decodeNext entryOf first consistent _ isWanted event
  have isOne : first.CleanRun decodeNext entryOf [event] ↔ first.CleanEvent event := by
    rw [cleanRun_cons isStep]
    exact and_iff_left trivial
  refine ⟨last, isStep, ?_⟩
  rcases which with ⟨rfl, rfl⟩ | ⟨notGet, isFinished, rfl⟩ |
    ⟨received, newTokenIds, newRows, stopString, finishes, steps, isClean⟩
  · have tokenIds := @get_got D L R K first _ CompletionOutput.tokenIds fun _ => rfl
    have text := @get_got D L R K first _ CompletionOutput.text fun _ => rfl
    have entries := get_entries first
    refine ⟨get_isConsistent consistent, rfl, ?_, fun _ _ inOrder => ⟨inOrder.processor, ?_, ?_⟩, fun _ => ?_,
      fun _ notClean => absurd (isOne.mpr trivial) notClean⟩
    · exact text ▸ prefix_refl _
    · rw [entries]
      exact inOrder.entries
    · rintro ⟨output, isPending, _⟩
      exact nomatch isPending
    · rw [entries, tokenIds]
  · have isClean : last.CleanEvent event := by
      cases event with
      | get => exact trivial
      | abort => exact fun isRunning => absurd (isFinished.symm.trans isRunning) (by simp)
      | engine output => exact fun isRunning => absurd (isFinished.symm.trans isRunning) (by simp)
    exact ⟨consistent, rfl, prefix_refl _, fun _ _ inOrder => inOrder, fun _ => Nat.le_refl _,
      fun _ notClean => absurd (isOne.mpr isClean) notClean⟩
  · refine ⟨steps.isConsistent consistent, steps.isSome, (steps.text consistent).2.2.2.2, ?_, ?_, ?_⟩
    · intro wants clean inOrder
      exact steps.inOrder consistent wants (isClean.mp (isOne.mp clean)) inOrder
    · exact fun wants => (steps.surplus consistent wants).1
    · exact fun wants notClean => (steps.surplus consistent wants).2 fun clean =>
        notClean (isOne.mpr (isClean.mpr clean))

theorem run_spec {first : DeltaStream D L R K} (consistent : first.Consistent) {wantsLogprobs : Bool}
    (isWanted : first.requestState.logprobs.isSome = wantsLogprobs)
    (events : List (StreamEvent R K wantsLogprobs)) :
    ∃ last, first.run decodeNext entryOf events = some last ∧
      RunsTo decodeNext entryOf first last events := by
  induction events generalizing first with
  | nil => exact ⟨first, rfl, RunsTo.nil consistent⟩
  | cons event rest ih =>
    obtain ⟨next, isStep, here⟩ := runsTo_step consistent isWanted event
    obtain ⟨last, isRun, later⟩ := ih here.consistent (here.isSome.trans isWanted)
    refine ⟨last, ?_, ?_⟩
    · rw [run, isStep, Option.bind_some, isRun]
    · have split := cleanRun_cons isStep rest
      refine ⟨later.consistent, later.isSome.trans here.isSome, here.text.trans later.text, ?_, ?_, ?_⟩
      · intro wants clean inOrder
        obtain ⟨isClean, cleanRest⟩ := split.mp clean
        have cleanHere : first.CleanRun decodeNext entryOf [event] :=
          (cleanRun_cons isStep []).mpr ⟨isClean, trivial⟩
        exact later.inOrder (here.isSome ▸ wants) cleanRest (here.inOrder wants cleanHere inOrder)
      · intro wants
        have before := here.surplus wants
        have after := later.surplus (here.isSome ▸ wants)
        omega
      · intro wants notClean
        have before := here.surplus wants
        have after := later.surplus (here.isSome ▸ wants)
        rw [split, not_and_or] at notClean
        rcases notClean with notHere | notLater
        · have isMore := here.disorder wants fun clean => notHere ((cleanRun_cons isStep []).mp clean).1
          omega
        · have isMore := later.disorder (here.isSome ▸ wants) notLater
          omega

/-! ## The result -/

def new (detokenizer : BaseIncrementalDetokenizer D) (requestIndex streamInterval : Nat) (wantsLogprobs : Bool) :
    DeltaStream D L R K where
  requestState := {
    requestIndex
    outputKind := .delta
    detokenizer
    logprobs := if wantsLogprobs then some [] else none
    streamInterval }
  collector := { aggregate := true }

variable (decodeNext) (entryOf)

/-- What the consumer got is all of the result: the tokens, the text, an entry of logprobs
for each token, and never any text that was cut off later. -/
def AddsUp {wantsLogprobs : Bool} (first final : DeltaStream D L R K)
    (events : List (StreamEvent R K wantsLogprobs)) : Prop :=
  final.deliveredTokenIds = final.requestState.detokenizer.outputTokenIds ∧
  final.deliveredText = final.requestState.detokenizer.outputText ∧
  (wantsLogprobs → final.deliveredLogprobs = appendLogprobs entryOf [] final.rows ∧
    final.rows.length = final.deliveredTokenIds.length) ∧
  ∀ before after, before ++ after = events → ∀ middle, first.run decodeNext entryOf before = some middle →
    middle.deliveredText <+: final.requestState.detokenizer.outputText

theorem new_isConsistent {detokenizer : BaseIncrementalDetokenizer D} (nonempty : [] ∉ detokenizer.stop)
    (isNew : detokenizer.tokenIds.length = detokenizer.promptLen) (noText : detokenizer.outputText = [])
    (noneSent : detokenizer.lastOutputTextOffset = 0) (requestIndex streamInterval : Nat) (wantsLogprobs : Bool) :
    (new detokenizer requestIndex streamInterval wantsLogprobs : DeltaStream D L R K).Consistent := by
  have noTokens : (new detokenizer requestIndex streamInterval wantsLogprobs : DeltaStream D L R K).numTokens = 0 := by
    show detokenizer.tokenIds.length - detokenizer.promptLen = 0
    omega
  have noSent : (new detokenizer requestIndex streamInterval wantsLogprobs : DeltaStream D L R K).numSent = 0 := by
    rw [numSent, noTokens]
    exact ite_self 0
  have noEntries : (new detokenizer requestIndex streamInterval wantsLogprobs : DeltaStream D L R K).processorLogprobs =
      [] := by
    cases wantsLogprobs <;> rfl
  refine ⟨⟨⟨rfl, rfl, (fun _ isSome => nomatch isSome), fun _ isMember => absurd isMember not_mem_nil⟩, nonempty,
    Nat.le_of_eq isNew.symm⟩, ?_, ?_, fun _ => ?_, (fun isFinished => nomatch isFinished), ?_, ?_,
    (fun isFinished => nomatch isFinished), fun isLong _ => ⟨fun _ => noTokens, ?_⟩, fun _ => noTokens.symm,
    fun _ => ?_, fun _ _ => ⟨noEntries, fun isSome => absurd rfl isSome⟩, fun _ => Nat.zero_le _⟩
  · show [] = detokenizer.outputText.take _
    rw [noText, take_nil]
  · change detokenizer.lastOutputTextOffset ≤ _
    omega
  · change detokenizer.lastOutputTextOffset ≤ _
    omega
  · rw [noSent, take_zero]
    rfl
  · rw [noSent]
    exact Nat.zero_le _
  · rw [noTokens]
    exact Nat.lt_of_lt_of_le (Nat.zero_lt_of_lt isLong) (Nat.le_add_left _ _)
  · rw [noTokens]
    exact Nat.zero_le _

theorem run_append {wantsLogprobs : Bool} (first : DeltaStream D L R K)
    (before after : List (StreamEvent R K wantsLogprobs)) : first.run decodeNext entryOf (before ++ after) =
      (first.run decodeNext entryOf before).bind (run decodeNext entryOf · after) := by
  induction before generalizing first with
  | nil => rfl
  | cons event rest ih =>
    rw [cons_append, run, run]
    cases first.step decodeNext entryOf event with
    | none => rfl
    | some next =>
      rw [Option.bind_some, Option.bind_some]
      exact ih next

theorem cleanRun_of_not_wanted {first : DeltaStream D L R K} (consistent : first.Consistent)
    (notWanted : first.requestState.logprobs.isSome = false) (events : List (StreamEvent R K false)) :
    first.CleanRun decodeNext entryOf events := by
  induction events generalizing first with
  | nil => exact trivial
  | cons event rest ih =>
    obtain ⟨next, isStep, runs⟩ := @runsTo_step D L R K decodeNext entryOf first consistent _ notWanted
      event
    have isClean (newTokenIds : List TokenId) (finishes : Bool) : first.CleanStep newTokenIds finishes :=
      fun wants => absurd (notWanted.symm.trans wants) Bool.false_ne_true
    rw [cleanRun_cons isStep]
    refine ⟨?_, ih runs.consistent (runs.isSome.trans notWanted)⟩
    cases event with
    | get => exact trivial
    | abort => exact fun _ => isClean _ _
    | engine output => exact fun _ => isClean _ _

theorem got_of_drained {stream : DeltaStream D L R K} (isDrained : stream.collector.output = none) {α : Type}
    (part : CompletionOutput L → List α) : stream.got part = (stream.delivered.map part).flatten := by
  rw [got, isDrained]
  exact append_nil _

end DeltaStream

/-- Two outputs of one token each, the second one the last, read one by one. -/
def readOneByOne : List (StreamEvent Nat Unit true) :=
  [.engine ⟨[1], some [10], none, none, none, by simp, by simp, by simp⟩, .get,
    .engine ⟨[2], some [20], some .length, none, none, by simp, by simp, by simp⟩, .get]

end DeepSpark
