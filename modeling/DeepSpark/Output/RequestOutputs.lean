import DeepSpark.Output.StopStrings

/-!
`RequestState` and the part of `OutputProcessor` that is about one request, and
`RequestOutputCollector`, of `v1/engine/output_processor.py`; `LogprobsProcessor`'s list of
`v1/engine/logprobs.py`; `CompletionOutput` and `RequestOutput` of `outputs.py`.

Owns the outputs of a generation request without parent request and streaming input, how
they are made from the outputs of the engine, and how the collector merges them.
-/

namespace DeepSpark

inductive FinishReason where
  | stop
  | length
  | abort
  | error
  | repetition
deriving DecidableEq

/-- `stop_reason: int | str`. -/
inductive StopReason where
  | tokenId (id : TokenId)
  | stopString (text : Text)
deriving DecidableEq

inductive RequestOutputKind where
  | cumulative
  | delta
  | finalOnly
deriving DecidableEq

/-- The `logprobs` of an output: a list of its own, or the list of the `LogprobsProcessor`
itself. -/
inductive SampleLogprobs (L : Type) where
  | own (entries : List L)
  | shared
deriving DecidableEq

def SampleLogprobs.entries {L : Type} (processorLogprobs : List L) : SampleLogprobs L → List L
  | .own entries => entries
  | .shared => processorLogprobs

structure CompletionOutput (L : Type) where
  index : Nat
  text : Text
  tokenIds : List TokenId
  logprobs : Option (SampleLogprobs L)
  finishReason : Option FinishReason
  stopReason : Option StopReason
deriving DecidableEq

structure RequestOutput (L K : Type) where
  outputs : List (CompletionOutput L)
  finished : Bool
  kvTransferParams : Option K

/-- `EngineCoreOutput`. The engine sends a row of logprobs for each new token where the
request asks for them. -/
structure EngineCoreOutput (R K : Type) (wantsLogprobs : Bool) where
  newTokenIds : List TokenId
  newLogprobs : Option (List R)
  finishReason : Option FinishReason
  stopReason : Option StopReason
  kvTransferParams : Option K
  oneForEach : ∀ rows ∈ newLogprobs, rows.length = newTokenIds.length
  onRequest : newLogprobs.isSome → wantsLogprobs
  notMissing : wantsLogprobs → newTokenIds ≠ [] → newLogprobs.isSome

section Outputs

variable {D L R K : Type}

/-! ## Merging outputs -/

/-- The merge of two completions of one index in `RequestOutput.add`, with the list of the
`LogprobsProcessor` before and after it. None for the failed assertion. -/
def CompletionOutput.merge (processorLogprobs : List L)
    (completion nextCompletion : CompletionOutput L) : Option (CompletionOutput L × List L) :=
  let merged := { completion with
    text := completion.text ++ nextCompletion.text
    tokenIds := completion.tokenIds ++ nextCompletion.tokenIds
    finishReason := nextCompletion.finishReason
    stopReason := nextCompletion.stopReason }
  let nextEntries := (nextCompletion.logprobs.map (·.entries processorLogprobs)).getD []
  if nextEntries.isEmpty then some (merged, processorLogprobs)
  else
    match completion.logprobs with
    | none => none
    | some (.own entries) => some ({ merged with logprobs := some (.own (entries ++ nextEntries)) }, processorLogprobs)
    | some .shared => some (merged, processorLogprobs ++ nextEntries)

def addCompletion (aggregate : Bool) (processorLogprobs : List L)
    (nextCompletion : CompletionOutput L) :
    List (CompletionOutput L) → Option (List (CompletionOutput L) × List L)
  | [] => some ([nextCompletion], processorLogprobs)
  | completion :: rest =>
    if completion.index = nextCompletion.index then
      if aggregate then
        (completion.merge processorLogprobs nextCompletion).map fun (merged, logprobs) =>
          (merged :: rest, logprobs)
      else some (nextCompletion :: rest, processorLogprobs)
    else
      (addCompletion aggregate processorLogprobs nextCompletion rest).map fun (outputs, logprobs) =>
        (completion :: outputs, logprobs)

def RequestOutput.add (processorLogprobs : List L) (output nextOutput : RequestOutput L K)
    (aggregate : Bool) : Option (RequestOutput L K × List L) := do
  let (outputs, logprobs) ← nextOutput.outputs.foldlM
    (fun (outputs, logprobs) nextCompletion => addCompletion aggregate logprobs nextCompletion outputs)
    (output.outputs, processorLogprobs)
  return ({
    outputs
    finished := output.finished || nextOutput.finished
    kvTransferParams := nextOutput.kvTransferParams }, logprobs)

structure RequestOutputCollector (L K : Type) where
  aggregate : Bool
  output : Option (RequestOutput L K) := none

namespace RequestOutputCollector

def put (processorLogprobs : List L) (self : RequestOutputCollector L K)
    (output : RequestOutput L K) : Option (RequestOutputCollector L K × List L) :=
  match self.output with
  | none => some ({ self with output := some output }, processorLogprobs)
  | some pending =>
    (pending.add processorLogprobs output self.aggregate).map fun (merged, logprobs) =>
      ({ self with output := some merged }, logprobs)

def get (self : RequestOutputCollector L K) : Option (RequestOutput L K) × RequestOutputCollector L K :=
  (self.output, { self with output := none })

end RequestOutputCollector

/-! ## Making outputs -/

structure OutputProcessor.RequestState (D L : Type) where
  requestIndex : Nat
  outputKind : RequestOutputKind
  detokenizer : BaseIncrementalDetokenizer D
  logprobs : Option (List L)
  streamInterval : Nat
  sentTokensOffset : Nat := 0

/-- `items[-count:]`. -/
def lastItems (items : List L) (count : Nat) : List L :=
  if count = 0 then items else items.drop (items.length - count)

/-- `_update_sample_logprobs`: the entry of a row is made with the entries before it. -/
def appendLogprobs (entryOf : List L → R → L) (logprobs : List L) (rows : List R) : List L :=
  rows.foldl (fun logprobs row => logprobs ++ [entryOf logprobs row]) logprobs

namespace OutputProcessor.RequestState

variable (self : OutputProcessor.RequestState D L)

def newCompletionOutput (tokenIds : List TokenId) (finishReason : Option FinishReason)
    (stopReason : Option StopReason) : CompletionOutput L × OutputProcessor.RequestState D L :=
  let finished := finishReason.isSome
  let delta := decide (self.outputKind = .delta)
  let (text, detokenizer) := self.detokenizer.getNextOutputText finished delta
  let tokenIds := if !delta then detokenizer.outputTokenIds else tokenIds
  let logprobs := self.logprobs.map fun entries =>
    if delta && !entries.isEmpty then .own (lastItems entries tokenIds.length) else .shared
  ({
    index := self.requestIndex
    text
    tokenIds
    logprobs
    finishReason
    stopReason := if finished then stopReason else none }, { self with detokenizer })

def makeRequestOutput (newTokenIds : List TokenId) (finishReason : Option FinishReason)
    (stopReason : Option StopReason) (kvTransferParams : Option K) :
    Option (RequestOutput L K) × OutputProcessor.RequestState D L :=
  let finished := finishReason.isSome
  if !finished && self.outputKind = .finalOnly then (none, self)
  else if 1 < self.streamInterval ∧ ¬(finished ∨ self.sentTokensOffset = 0 ∨
      self.sentTokensOffset + self.streamInterval ≤ self.detokenizer.numOutputTokens) then (none, self)
  else
    let sendsFromOffset := decide (1 < self.streamInterval ∧ self.outputKind = .delta)
    let newTokenIds :=
      if sendsFromOffset then self.detokenizer.outputTokenIds.drop self.sentTokensOffset else newTokenIds
    let sent := if sendsFromOffset then
        { self with sentTokensOffset := self.detokenizer.numOutputTokens }
      else self
    let (output, requestState) := sent.newCompletionOutput newTokenIds finishReason stopReason
    (some { outputs := [output], finished, kvTransferParams }, requestState)

/-- `LogprobsProcessor.update_from_output`. None for the failed assertion. -/
def updateLogprobs (entryOf : List L → R → L) (newLogprobs : Option (List R)) : Option (OutputProcessor.RequestState D L) :=
  match newLogprobs, self.logprobs with
  | none, _ => some self
  | some _, none => none
  | some rows, some logprobs => some { self with logprobs := some (appendLogprobs entryOf logprobs rows) }

end OutputProcessor.RequestState

end Outputs

end DeepSpark
