import DeepSpark.Output.RequestOutputs

/-!
A request that streams its output.

Owns the steps of a request with one collector: outputs of the engine, an abort, and the
consumer's `get`, in any order; and what the outputs add up to that the consumer gets.
-/

namespace DeepSpark

open Lib

variable {D L R K : Type}

inductive StreamEvent (R K : Type) (wantsLogprobs : Bool) where
  | engine (output : EngineCoreOutput R K wantsLogprobs)
  | abort
  | get

/-- A request, its collector and what the consumer got. `rows` are the rows of logprobs that
the engine sent. -/
structure DeltaStream (D L R K : Type) where
  requestState : OutputProcessor.RequestState D L
  collector : RequestOutputCollector L K
  finished : Bool := false
  delivered : List (CompletionOutput L) := []
  rows : List R := []

variable {completion : CompletionOutput L}

namespace DeltaStream

variable (decodeNext : D → List TokenId → Text × D) (entryOf : List L → R → L) (self : DeltaStream D L R K)

def processorLogprobs : List L := self.requestState.logprobs.getD []

/-- `make_request_output`, and `put` where it makes one. -/
def emit (newTokenIds : List TokenId) (finishReason : Option FinishReason) (stopReason : Option StopReason)
    (kvTransferParams : Option K) : Option (DeltaStream D L R K) :=
  let (made, requestState) := self.requestState.makeRequestOutput newTokenIds finishReason stopReason kvTransferParams
  let self := { self with requestState, finished := finishReason.isSome }
  match made with
  | none => some self
  | some output =>
    (self.collector.put self.processorLogprobs output).map fun (collector, logprobs) =>
      { self with collector
                  requestState := { requestState with
                    logprobs := requestState.logprobs.map fun _ => logprobs } }

def processOutput {wantsLogprobs : Bool} (output : EngineCoreOutput R K wantsLogprobs) : Option (DeltaStream D L R K) :=
  if self.finished then some self
  else
    let (stopString, detokenizer) := self.requestState.detokenizer.update decodeNext output.newTokenIds
      (output.finishReason = some .stop)
    let (finishReason, stopReason) :=
      match stopString with
      | some (first :: rest) => (some .stop, some (.stopString (first :: rest)))
      | _ => (output.finishReason, output.stopReason)
    ({ self.requestState with detokenizer }.updateLogprobs entryOf output.newLogprobs).bind fun requestState =>
      { self with requestState, rows := self.rows ++ output.newLogprobs.getD [] }.emit output.newTokenIds
        finishReason stopReason output.kvTransferParams

/-- `abort_requests` for the request. -/
def abort : Option (DeltaStream D L R K) :=
  if self.finished then some self else self.emit [] (some .abort) none none

def readCompletion (processorLogprobs : List L) (completion : CompletionOutput L) : CompletionOutput L :=
  { completion with
    logprobs := completion.logprobs.map fun logprobs => .own (logprobs.entries processorLogprobs) }

/-- The consumer takes the output of the collector, where there is one. -/
def get : DeltaStream D L R K :=
  let (output, collector) := self.collector.get
  let got := (output.map fun output => output.outputs.map (readCompletion self.processorLogprobs)).getD []
  { self with collector, delivered := self.delivered ++ got }

def step {wantsLogprobs : Bool} : StreamEvent R K wantsLogprobs → Option (DeltaStream D L R K)
  | .engine output => self.processOutput decodeNext entryOf output
  | .abort => self.abort
  | .get => some self.get

def run {wantsLogprobs : Bool} (self : DeltaStream D L R K) :
    List (StreamEvent R K wantsLogprobs) → Option (DeltaStream D L R K)
  | [] => some self
  | event :: rest => (self.step decodeNext entryOf event).bind fun next => run next rest

/-! ## What the consumer got -/

def deliveredTokenIds : List TokenId := (self.delivered.map CompletionOutput.tokenIds).flatten

def deliveredText : Text := (self.delivered.map CompletionOutput.text).flatten

def completionEntries (processorLogprobs : List L) (completion : CompletionOutput L) : List L :=
  (completion.logprobs.map (·.entries processorLogprobs)).getD []

def deliveredLogprobs : List L := (self.delivered.map (completionEntries self.processorLogprobs)).flatten

def pendingPart {α : Type} (pending : Option (RequestOutput L K)) (part : CompletionOutput L → List α) : List α :=
  (pending.map fun output => (output.outputs.map part).flatten).getD []

def got {α : Type} (part : CompletionOutput L → List α) : List α :=
  (self.delivered.map part).flatten ++ pendingPart self.collector.output part

/-- An output in the collector has the list of the `LogprobsProcessor`. -/
def Shares (pending : Option (RequestOutput L K)) : Prop :=
  ∃ output ∈ pending, ∃ completion ∈ output.outputs, completion.logprobs = some .shared

/-- All outputs are deltas of the one request; the consumer reads a list of logprobs when
it gets it. -/
structure Shaped (stream : DeltaStream D L R K) : Prop where
  isDelta : stream.requestState.outputKind = .delta
  aggregates : stream.collector.aggregate = true
  pending : ∀ output ∈ stream.collector.output, ∃ completion, output.outputs = [completion] ∧
    completion.index = stream.requestState.requestIndex ∧
    completion.logprobs.isSome = stream.requestState.logprobs.isSome
  delivered : ∀ completion ∈ stream.delivered, completion.logprobs ≠ some .shared

variable {self}

/-! ## Merging -/

structure Merges (processorLogprobs : List L) (completion nextCompletion merged : CompletionOutput L)
    (logprobs : List L) : Prop where
  index : merged.index = completion.index
  tokenIds : merged.tokenIds = completion.tokenIds ++ nextCompletion.tokenIds
  text : merged.text = completion.text ++ nextCompletion.text
  isSome : merged.logprobs.isSome = completion.logprobs.isSome
  shares : merged.logprobs = some .shared ↔ completion.logprobs = some .shared
  entries : completionEntries logprobs merged =
    completionEntries processorLogprobs completion ++ completionEntries processorLogprobs nextCompletion
  unchanged : completion.logprobs ≠ some .shared → logprobs = processorLogprobs
  grows : processorLogprobs.length ≤ logprobs.length
  bounded : completionEntries processorLogprobs nextCompletion = [] → logprobs = processorLogprobs

theorem merge_spec (processorLogprobs : List L) {nextCompletion : CompletionOutput L}
    (alike : completion.logprobs.isSome = nextCompletion.logprobs.isSome) :
    ∃ merged logprobs, completion.merge processorLogprobs nextCompletion = some (merged, logprobs) ∧
      Merges processorLogprobs completion nextCompletion merged logprobs := by
  have isNext : (nextCompletion.logprobs.map (·.entries processorLogprobs)).getD [] =
      completionEntries processorLogprobs nextCompletion := rfl
  unfold CompletionOutput.merge
  dsimp only
  rw [isNext]
  by_cases isEmpty : completionEntries processorLogprobs nextCompletion = []
  · rw [isEmpty, List.isEmpty_nil, if_pos rfl]
    refine ⟨_, _, rfl, rfl, rfl, rfl, rfl, Iff.rfl, ?_, fun _ => rfl, Nat.le_refl _, fun _ => rfl⟩
    rw [isEmpty, List.append_nil]
    rfl
  · rw [if_neg (by rwa [List.isEmpty_iff])]
    cases isOwn : completion.logprobs with
    | none =>
      rw [isOwn, Option.isSome_none] at alike
      have noEntries : completionEntries processorLogprobs nextCompletion = [] := by
        rw [completionEntries, Option.isSome_eq_false_iff.mp alike.symm |> Option.isNone_iff_eq_none.mp]
        rfl
      exact absurd noEntries isEmpty
    | some held =>
      cases held with
      | own entries =>
        refine ⟨_, _, rfl, rfl, rfl, rfl, ?_, ?_, ?_, fun _ => rfl, Nat.le_refl _, fun _ => rfl⟩
        · rw [isOwn]
          rfl
        · simp [isOwn]
        · simp only [completionEntries, isOwn, Option.map_some, Option.getD_some, SampleLogprobs.entries]
      | shared =>
        refine ⟨_, _, rfl, rfl, rfl, rfl, ?_, ?_, ?_, fun notShared => absurd isOwn notShared, ?_,
          fun noEntries => absurd noEntries isEmpty⟩
        · rw [isOwn]
        · simp [isOwn]
        · simp only [completionEntries, isOwn, Option.map_some, Option.getD_some, SampleLogprobs.entries]
        · rw [List.length_append]
          exact Nat.le_add_right _ _

structure Puts (first last : RequestOutputCollector L K) (processorLogprobs logprobs : List L)
    (completion : CompletionOutput L) : Prop where
  aggregate : last.aggregate = first.aggregate
  output : ∃ output, last.output = some output ∧ ∃ held, output.outputs = [held] ∧
    held.index = completion.index ∧ held.logprobs.isSome = completion.logprobs.isSome
  tokenIds : pendingPart last.output CompletionOutput.tokenIds =
    pendingPart first.output CompletionOutput.tokenIds ++ completion.tokenIds
  text : pendingPart last.output CompletionOutput.text =
    pendingPart first.output CompletionOutput.text ++ completion.text
  entries : pendingPart last.output (completionEntries logprobs) =
    pendingPart first.output (completionEntries processorLogprobs) ++
      completionEntries processorLogprobs completion
  shares : Shares last.output ↔
    Shares first.output ∨ first.output = none ∧ completion.logprobs = some .shared
  unchanged : ¬Shares first.output → logprobs = processorLogprobs
  grows : processorLogprobs.length ≤ logprobs.length
  bounded : completionEntries processorLogprobs completion = [] → logprobs = processorLogprobs

variable {output : RequestOutput L K}

theorem pendingPart_singleton {α : Type}
    (isOnly : output.outputs = [completion]) (part : CompletionOutput L → List α) :
    pendingPart (some output) part = part completion := by
  simp [pendingPart, isOnly]

theorem shares_singleton (isOnly : output.outputs = [completion]) :
    Shares (some output) ↔ completion.logprobs = some .shared := by
  simp [Shares, isOnly]

theorem put_spec {first : RequestOutputCollector L K} (processorLogprobs : List L)
    (aggregates : first.aggregate = true)
    (isOnly : output.outputs = [completion])
    (pending : ∀ output ∈ first.output, ∃ earlier, output.outputs = [earlier] ∧
      earlier.index = completion.index ∧ earlier.logprobs.isSome = completion.logprobs.isSome) :
    ∃ last logprobs, first.put processorLogprobs output = some (last, logprobs) ∧
      Puts first last processorLogprobs logprobs completion := by
  rw [RequestOutputCollector.put]
  cases isPending : first.output with
  | none =>
    refine ⟨_, _, rfl, rfl, ⟨output, rfl, completion, isOnly, rfl, rfl⟩, ?_, ?_, ?_, ?_, fun _ => rfl,
      Nat.le_refl _, fun _ => rfl⟩
    · rw [isPending, pendingPart_singleton isOnly]
      rfl
    · rw [isPending, pendingPart_singleton isOnly]
      rfl
    · rw [isPending, pendingPart_singleton isOnly]
      rfl
    · rw [isPending, shares_singleton isOnly]
      simp [Shares]
  | some held =>
    obtain ⟨earlier, isHeld, sameIndex, alike⟩ := pending held isPending
    obtain ⟨merged, logprobs, isMerged, merges⟩ := merge_spec processorLogprobs alike
    have isAdded : held.add processorLogprobs output first.aggregate = some ({
        outputs := [merged]
        finished := held.finished || output.finished
        kvTransferParams := output.kvTransferParams }, logprobs) := by
      simp [RequestOutput.add, isOnly, isHeld, addCompletion, sameIndex, aggregates, isMerged]
    dsimp only
    rw [isAdded]
    refine ⟨_, _, rfl, rfl, ⟨_, rfl, merged, rfl, merges.index.trans sameIndex,
      merges.isSome.trans alike⟩, ?_, ?_, ?_, ?_, fun notShared => ?_, merges.grows, merges.bounded⟩
    · rw [isPending, pendingPart_singleton isHeld, pendingPart_singleton rfl, merges.tokenIds]
    · rw [isPending, pendingPart_singleton isHeld, pendingPart_singleton rfl, merges.text]
    · rw [isPending, pendingPart_singleton isHeld, pendingPart_singleton rfl, merges.entries]
    · rw [isPending, shares_singleton isHeld, shares_singleton rfl, merges.shares]
      simp
    · rw [isPending, shares_singleton isHeld] at notShared
      exact merges.unchanged notShared

/-! ## Making an output -/

def sentTokens (requestState : OutputProcessor.RequestState D L) (newTokenIds : List TokenId) : List TokenId :=
  if 1 < requestState.streamInterval then
    requestState.detokenizer.outputTokenIds.drop requestState.sentTokensOffset
  else newTokenIds

def HoldsBack (requestState : OutputProcessor.RequestState D L) (finished : Bool) : Prop :=
  1 < requestState.streamInterval ∧ finished = false ∧ requestState.sentTokensOffset ≠ 0 ∧
    requestState.detokenizer.numOutputTokens < requestState.sentTokensOffset + requestState.streamInterval

/-- What is sent, and what changes, with an output of a request of deltas. -/
structure Makes (first last : OutputProcessor.RequestState D L) (newTokenIds : List TokenId) (finished : Bool)
    (completion : CompletionOutput L) : Prop where
  requestState : last = { first with
    detokenizer := last.detokenizer
    sentTokensOffset := last.sentTokensOffset }
  sentTokensOffset : last.sentTokensOffset =
    if 1 < first.streamInterval then first.detokenizer.numOutputTokens else first.sentTokensOffset
  detokenizer : last.detokenizer = { first.detokenizer with
    lastOutputTextOffset := last.detokenizer.lastOutputTextOffset }
  lastOutputTextOffset : last.detokenizer.lastOutputTextOffset = max first.detokenizer.lastOutputTextOffset
    (first.detokenizer.outputText.length - if finished then 0 else first.detokenizer.stopBufferLength)
  index : completion.index = first.requestIndex
  tokenIds : completion.tokenIds = sentTokens first newTokenIds
  text : first.detokenizer.outputText.take first.detokenizer.lastOutputTextOffset ++ completion.text =
    first.detokenizer.outputText.take last.detokenizer.lastOutputTextOffset
  logprobs : completion.logprobs = first.logprobs.map fun entries =>
    if entries.isEmpty then .shared else .own (lastItems entries (sentTokens first newTokenIds).length)

theorem newCompletionOutput_delta (first : OutputProcessor.RequestState D L) (isDelta : first.outputKind = .delta)
    (tokenIds : List TokenId) (finishReason : Option FinishReason) (stopReason : Option StopReason) :
    ∃ completion detokenizer, first.newCompletionOutput tokenIds finishReason stopReason =
        (completion, { first with detokenizer }) ∧
      first.detokenizer.getNextOutputText finishReason.isSome true = (completion.text, detokenizer) ∧
      completion.index = first.requestIndex ∧ completion.tokenIds = tokenIds ∧
      completion.logprobs = first.logprobs.map fun entries =>
        if entries.isEmpty then .shared else .own (lastItems entries tokenIds.length) := by
  rw [OutputProcessor.RequestState.newCompletionOutput]
  simp only [isDelta, decide_true, Bool.not_true, Bool.false_eq_true, if_false, Bool.true_and]
  refine ⟨_, _, rfl, rfl, rfl, rfl, ?_⟩
  refine congrArg (Option.map · first.logprobs) (funext fun entries => ?_)
  cases entries <;> rfl

theorem makeRequestOutput_delta (first : OutputProcessor.RequestState D L) (isDelta : first.outputKind = .delta)
    (newTokenIds : List TokenId) (finishReason : Option FinishReason) (stopReason : Option StopReason)
    (kvTransferParams : Option K) :
    (HoldsBack first finishReason.isSome ∧
      first.makeRequestOutput newTokenIds finishReason stopReason kvTransferParams = (none, first)) ∨
    (¬HoldsBack first finishReason.isSome ∧ ∃ output completion last,
      first.makeRequestOutput newTokenIds finishReason stopReason kvTransferParams = (some output, last) ∧
        output.outputs = [completion] ∧ Makes first last newTokenIds finishReason.isSome completion) := by
  have notFinalOnly : (!finishReason.isSome && decide (first.outputKind = .finalOnly)) = false := by
    rw [isDelta]
    simp
  rw [OutputProcessor.RequestState.makeRequestOutput]
  dsimp only
  rw [notFinalOnly, if_neg Bool.false_ne_true]
  by_cases holdsBack : HoldsBack first finishReason.isSome
  · refine Or.inl ⟨holdsBack, ?_⟩
    obtain ⟨isLong, notFinished, isStarted, tooFew⟩ := holdsBack
    rw [if_pos]
    refine ⟨isLong, ?_⟩
    rw [notFinished]
    simp [isStarted, tooFew]
  · refine Or.inr ⟨holdsBack, ?_⟩
    rw [if_neg]
    · by_cases isLong : 1 < first.streamInterval
      · have fromOffset : decide (1 < first.streamInterval ∧ first.outputKind = .delta) = true :=
          decide_eq_true ⟨isLong, isDelta⟩
        rw [fromOffset, if_pos rfl, if_pos rfl]
        obtain ⟨completion, detokenizer, isMade, isText, index, tokenIds, logprobs⟩ :=
          newCompletionOutput_delta { first with sentTokensOffset := first.detokenizer.numOutputTokens } isDelta
            (first.detokenizer.outputTokenIds.drop first.sentTokensOffset) finishReason stopReason
        have isSent : sentTokens first newTokenIds =
            first.detokenizer.outputTokenIds.drop first.sentTokensOffset := if_pos isLong
        obtain ⟨sameDetokenizer, offset, text⟩ := BaseIncrementalDetokenizer.getNextOutputText_delta _ isText
        rw [isMade]
        refine ⟨_, completion, _, rfl, rfl, rfl, (if_pos isLong).symm, sameDetokenizer, offset, index, ?_, text, ?_⟩
        · rw [isSent, tokenIds]
        · rw [isSent, logprobs]
      · have notFromOffset : decide (1 < first.streamInterval ∧ first.outputKind = .delta) = false :=
          decide_eq_false fun both => isLong both.1
        rw [notFromOffset, if_neg Bool.false_ne_true, if_neg Bool.false_ne_true]
        obtain ⟨completion, detokenizer, isMade, isText, index, tokenIds, logprobs⟩ :=
          newCompletionOutput_delta first isDelta newTokenIds finishReason stopReason
        have isSent : sentTokens first newTokenIds = newTokenIds := if_neg isLong
        obtain ⟨sameDetokenizer, offset, text⟩ := BaseIncrementalDetokenizer.getNextOutputText_delta _ isText
        rw [isMade]
        refine ⟨_, completion, _, rfl, rfl, rfl, (if_neg isLong).symm, sameDetokenizer, offset, index, ?_, text, ?_⟩
        · rw [isSent, tokenIds]
        · rw [isSent, logprobs]
    · rintro ⟨isLong, holds⟩
      refine holdsBack ⟨isLong, ?_⟩
      simpa using holds

/-! ## Sending an output -/

variable {first : DeltaStream D L R K}

theorem delivered_part (shaped : first.Shaped)
    (before after : List L) : first.delivered.map (completionEntries before) =
      first.delivered.map (completionEntries after) := by
  refine List.map_congr_left fun completion isMember => ?_
  have notShared := shaped.delivered completion isMember
  rw [completionEntries, completionEntries]
  cases isHeld : completion.logprobs with
  | none => rfl
  | some held =>
    cases held with
    | own entries => rfl
    | shared => exact absurd isHeld notShared

theorem not_shares_of_none (shaped : first.Shaped)
    (notWanted : first.requestState.logprobs = none) : ¬Shares first.collector.output := by
  rintro ⟨output, isPending, completion, isMember, isShared⟩
  obtain ⟨held, isOnly, _, alike⟩ := shaped.pending output isPending
  rw [isOnly, List.mem_singleton] at isMember
  rw [← isMember, isShared, notWanted] at alike
  exact nomatch alike

/-- What a stream has more after an output was made and put in the collector. -/
structure Emits (first last : DeltaStream D L R K) (newTokenIds : List TokenId) (finishes : Bool) : Prop where
  shaped : last.Shaped
  finished : last.finished = finishes
  rows : last.rows = first.rows
  streamInterval : last.requestState.streamInterval = first.requestState.streamInterval
  isSome : last.requestState.logprobs.isSome = first.requestState.logprobs.isSome
  sentTokensOffset : last.requestState.sentTokensOffset = if 1 < first.requestState.streamInterval then
    first.requestState.detokenizer.numOutputTokens else first.requestState.sentTokensOffset
  detokenizer : last.requestState.detokenizer = { first.requestState.detokenizer with
    lastOutputTextOffset := last.requestState.detokenizer.lastOutputTextOffset }
  lastOutputTextOffset : last.requestState.detokenizer.lastOutputTextOffset =
    max first.requestState.detokenizer.lastOutputTextOffset (first.requestState.detokenizer.outputText.length -
      if finishes then 0 else first.requestState.detokenizer.stopBufferLength)
  tokenIds : last.got CompletionOutput.tokenIds =
    first.got CompletionOutput.tokenIds ++ sentTokens first.requestState newTokenIds
  text : ∀ {sent : Text}, first.got CompletionOutput.text = sent ++ first.requestState.detokenizer.outputText.take
      first.requestState.detokenizer.lastOutputTextOffset →
    last.got CompletionOutput.text = sent ++ first.requestState.detokenizer.outputText.take
      last.requestState.detokenizer.lastOutputTextOffset
  entries : last.got (completionEntries last.processorLogprobs) =
    first.got (completionEntries first.processorLogprobs) ++ if first.processorLogprobs.isEmpty then [] else
      lastItems first.processorLogprobs (sentTokens first.requestState newTokenIds).length
  shares : Shares last.collector.output ↔ Shares first.collector.output ∨
    first.collector.output = none ∧ first.requestState.logprobs = some []
  unchanged : ¬Shares first.collector.output → last.processorLogprobs = first.processorLogprobs
  grows : first.processorLogprobs.length ≤ last.processorLogprobs.length
  bounded : first.processorLogprobs = [] → last.processorLogprobs = []

def skip (first : DeltaStream D L R K) (finished : Bool) : DeltaStream D L R K := { first with finished }

theorem emit_spec (shaped : first.Shaped) (newTokenIds : List TokenId)
    (finishReason : Option FinishReason) (stopReason : Option StopReason) (kvTransferParams : Option K) :
    (HoldsBack first.requestState finishReason.isSome ∧
      first.emit newTokenIds finishReason stopReason kvTransferParams = some (first.skip finishReason.isSome)) ∨
    (¬HoldsBack first.requestState finishReason.isSome ∧ ∃ last,
      first.emit newTokenIds finishReason stopReason kvTransferParams = some last ∧
        Emits first last newTokenIds finishReason.isSome) := by
  rw [emit]
  rcases makeRequestOutput_delta first.requestState shaped.isDelta newTokenIds finishReason stopReason
    kvTransferParams with ⟨holdsBack, isNone⟩ | ⟨sends, output, completion, requestState, isMade, isOnly, makes⟩
  · rw [isNone]
    exact Or.inl ⟨holdsBack, rfl⟩
  · refine Or.inr ⟨sends, ?_⟩
    rw [isMade]
    dsimp only
    have sameLogprobs : requestState.logprobs = first.requestState.logprobs := by rw [makes.requestState]
    have sameKind : requestState.outputKind = first.requestState.outputKind := by rw [makes.requestState]
    have sameIndex : requestState.requestIndex = first.requestState.requestIndex := by rw [makes.requestState]
    have sameInterval : requestState.streamInterval = first.requestState.streamInterval := by
      rw [makes.requestState]
    have isProcessor : processorLogprobs { first with requestState, finished := finishReason.isSome } =
        first.processorLogprobs := by rw [processorLogprobs, processorLogprobs, sameLogprobs]
    have madeSome : completion.logprobs.isSome = first.requestState.logprobs.isSome := by
      rw [makes.logprobs, Option.isSome_map]
    obtain ⟨collector, logprobs, isPut, puts⟩ := put_spec first.processorLogprobs shaped.aggregates isOnly
      fun output isPending => by
        obtain ⟨held, isHeld, heldIndex, alike⟩ := shaped.pending output isPending
        exact ⟨held, isHeld, heldIndex.trans makes.index.symm, alike.trans madeSome.symm⟩
    rw [isProcessor, isPut]
    have lastProcessor : (requestState.logprobs.map fun _ => logprobs).getD [] = logprobs := by
      rw [sameLogprobs]
      cases isWanted : first.requestState.logprobs with
      | none =>
        have same := puts.unchanged (not_shares_of_none shaped isWanted)
        rw [same, processorLogprobs, isWanted]
        rfl
      | some entries => rfl
    have isEntries : completionEntries first.processorLogprobs completion =
        if first.processorLogprobs.isEmpty then [] else
          lastItems first.processorLogprobs (sentTokens first.requestState newTokenIds).length := by
      rw [completionEntries, makes.logprobs, processorLogprobs]
      cases first.requestState.logprobs with
      | none => rfl
      | some entries => cases entries <;> rfl
    have holdsShared : completion.logprobs = some .shared ↔ first.requestState.logprobs = some [] := by
      rw [makes.logprobs]
      cases first.requestState.logprobs with
      | none => simp
      | some entries => cases entries <;> simp
    obtain ⟨putOutput, isHeld, held, isHeldOnly, heldIndex, heldSome⟩ := puts.output
    refine ⟨_, rfl, ?_⟩
    exact {
      shaped := {
        isDelta := sameKind.trans shaped.isDelta
        aggregates := puts.aggregate.trans shaped.aggregates
        pending := by
          intro pendingOutput isPending
          have isSame : putOutput = pendingOutput := Option.some.inj (isHeld.symm.trans isPending)
          refine ⟨held, isSame ▸ isHeldOnly, heldIndex.trans (makes.index.trans sameIndex.symm), ?_⟩
          rw [heldSome, madeSome, Option.isSome_map, sameLogprobs]
        delivered := shaped.delivered }
      finished := rfl
      rows := rfl
      streamInterval := sameInterval
      isSome := by rw [Option.isSome_map, sameLogprobs]
      sentTokensOffset := makes.sentTokensOffset
      detokenizer := makes.detokenizer
      lastOutputTextOffset := makes.lastOutputTextOffset
      tokenIds := by
        show (first.delivered.map _).flatten ++ pendingPart collector.output _ = _
        rw [puts.tokenIds, makes.tokenIds, ← List.append_assoc]
        rfl
      text := by
        intro sent isBefore
        show (first.delivered.map _).flatten ++ pendingPart collector.output _ = _
        rw [puts.text, ← List.append_assoc]
        change got first _ ++ _ = _
        rw [isBefore, List.append_assoc, makes.text]
      entries := by
        show (first.delivered.map (completionEntries _)).flatten ++ pendingPart collector.output (completionEntries
          ((requestState.logprobs.map fun _ => logprobs).getD [])) = _
        rw [lastProcessor, puts.entries, isEntries, ← List.append_assoc,
          delivered_part shaped _ first.processorLogprobs]
        rfl
      shares := by rw [← holdsShared]; exact puts.shares
      unchanged := fun notShared => lastProcessor.trans (puts.unchanged notShared)
      grows := by
        show _ ≤ ((requestState.logprobs.map fun _ => logprobs).getD []).length
        rw [lastProcessor]
        exact puts.grows
      bounded := by
        intro isEmpty
        have noEntries : completionEntries first.processorLogprobs completion = [] := by
          rw [isEntries, isEmpty]
          rfl
        exact (lastProcessor.trans (puts.bounded noEntries)).trans isEmpty }

/-! ## Receiving an output of the engine -/

theorem length_appendLogprobs (logprobs : List L) (rows : List R) :
    (appendLogprobs entryOf logprobs rows).length = logprobs.length + rows.length := by
  induction rows generalizing logprobs with
  | nil => rfl
  | cons row rest ih =>
    rw [appendLogprobs, List.foldl_cons]
    change (appendLogprobs entryOf _ rest).length = _
    rw [ih, List.length_append, List.length_singleton, List.length_cons]
    omega

theorem appendLogprobs_append (logprobs : List L) (rows more : List R) :
    appendLogprobs entryOf logprobs (rows ++ more) =
      appendLogprobs entryOf (appendLogprobs entryOf logprobs rows) more :=
  List.foldl_append

theorem prefix_appendLogprobs (logprobs : List L) (rows : List R) :
    logprobs <+: appendLogprobs entryOf logprobs rows := by
  induction rows generalizing logprobs with
  | nil => exact List.prefix_refl _
  | cons row rest ih =>
    exact (List.prefix_append _ _).trans (ih (logprobs ++ [entryOf logprobs row]))

/-- What a stream takes in of an output of the engine, before it makes its own. -/
structure Receives (first last : DeltaStream D L R K) (newTokenIds : List TokenId) (newRows : List R)
    (stopString : Option Text) : Prop where
  collector : last.collector = first.collector
  delivered : last.delivered = first.delivered
  rows : last.rows = first.rows ++ newRows
  oneForEach : first.requestState.logprobs.isSome → newRows.length = newTokenIds.length
  requestState : last.requestState = { first.requestState with
    detokenizer := last.requestState.detokenizer
    logprobs := first.requestState.logprobs.map (appendLogprobs entryOf · newRows) }
  updates : BaseIncrementalDetokenizer.Updates newTokenIds first.requestState.detokenizer
    last.requestState.detokenizer stopString

structure Sound (stream : DeltaStream D L R K) : Prop where
  shaped : stream.Shaped
  nonempty : [] ∉ stream.requestState.detokenizer.stop
  counted : stream.requestState.detokenizer.promptLen ≤ stream.requestState.detokenizer.tokenIds.length

theorem processOutput_spec (sound : first.Sound) (isRunning : first.finished = false)
    {wantsLogprobs : Bool} (isWanted : first.requestState.logprobs.isSome = wantsLogprobs)
    (output : EngineCoreOutput R K wantsLogprobs) :
    ∃ received stopString finishReason stopReason,
      first.processOutput decodeNext entryOf output =
          received.emit output.newTokenIds finishReason stopReason output.kvTransferParams ∧
        Receives entryOf first received output.newTokenIds (output.newLogprobs.getD []) stopString ∧
        (stopString = none → finishReason = output.finishReason) ∧
        (stopString ≠ none → finishReason = some .stop) := by
  have updates := BaseIncrementalDetokenizer.update_updates decodeNext sound.nonempty sound.counted
    output.newTokenIds (output.finishReason = some .stop)
  have oneForEach : first.requestState.logprobs.isSome →
      (output.newLogprobs.getD []).length = output.newTokenIds.length := by
    intro isSome
    cases isLogprobs : output.newLogprobs with
    | none =>
      have noTokens : output.newTokenIds = [] := by
        by_contra hasTokens
        have isGiven := output.notMissing (isWanted.symm.trans isSome) hasTokens
        rw [isLogprobs] at isGiven
        exact nomatch isGiven
      rw [noTokens]
      rfl
    | some rows => exact output.oneForEach rows isLogprobs
  have isUpdated : ({ first.requestState with detokenizer := (first.requestState.detokenizer.update decodeNext
      output.newTokenIds (output.finishReason = some .stop)).2 } : OutputProcessor.RequestState D L).updateLogprobs
        entryOf output.newLogprobs = some { first.requestState with
          detokenizer := (first.requestState.detokenizer.update decodeNext output.newTokenIds
            (output.finishReason = some .stop)).2
          logprobs := first.requestState.logprobs.map (appendLogprobs entryOf · (output.newLogprobs.getD [])) } := by
    cases isLogprobs : output.newLogprobs with
    | none =>
      cases isHeld : first.requestState.logprobs with
      | none =>
        simp only [isHeld]
        rfl
      | some entries =>
        simp only [isHeld]
        rfl
    | some rows =>
      have wants := output.onRequest (by rw [isLogprobs]; rfl)
      rw [wants, Option.isSome_iff_exists] at isWanted
      obtain ⟨entries, isHeld⟩ := isWanted
      simp only [isHeld]
      rfl
  rw [processOutput, isRunning, if_neg Bool.false_ne_true]
  dsimp only
  rw [isUpdated, Option.bind_some]
  refine ⟨_, _, _, _, rfl, ⟨rfl, rfl, rfl, oneForEach, rfl, updates⟩, ?_, ?_⟩
  · intro noStop
    rw [noStop]
  · intro isStop
    obtain ⟨stopString, isFound⟩ := Option.ne_none_iff_exists'.mp isStop
    have nonempty := (updates.stops stopString isFound).1
    rw [isFound]
    cases stopString with
    | nil => exact absurd rfl nonempty
    | cons character rest => rfl

end DeltaStream

end DeepSpark
