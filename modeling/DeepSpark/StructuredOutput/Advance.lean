import DeepSpark.Lib.Occurrences
import DeepSpark.Scheduler.Answers

/-!
When the grammar of a request advances (`v1/structured_output/__init__.py`).

Owns the end of the reasoning as `should_advance` sees it, the tokens that are fed to the
grammar, and the part of `update_from_output` that feeds them. A reasoning parser is its end
token; the grammar is what it is fed.
-/

namespace DeepSpark

open Lib

/-- The first part of `structured_output_key`. -/
inductive StructuredOutputOptions where
  | json
  | jsonObject
  | regex
  | grammar
  | choice
  | structuralTag
deriving DecidableEq, Repr

/-- What `StructuredOutputManager` reads from the configuration: the end token of the
reasoning parser, if there is one. -/
structure StructuredOutputManager where
  endTokenId : Option TokenId
  enableInReasoning : Bool
  hasSpeculativeConfig : Bool

structure StructuredOutputRequest where
  requestType : StructuredOutputOptions
  reasoningEnded : Option Bool := none
  reasoningEndTokenIndex : Option Int := none
deriving DecidableEq

def isReasoningEndStreaming (endTokenId : TokenId) (deltaIds : List TokenId) : Bool := endTokenId ∈ deltaIds

/-- Where `should_advance` starts to look for the end of the reasoning. -/
def deltaStart (request : Request) : Nat :=
  let deltaFrom := request.numComputedTokens - request.numOutputPlaceholders
  if deltaFrom ≥ 0 then deltaFrom.toNat else (max (request.allTokenIds.length + deltaFrom) 0).toNat

def findReasoningEndIndex (endTokenId : TokenId) (allTokenIds : List TokenId) (start : Nat) : Int :=
  match (allTokenIds.drop start).findIdx? (fun token => isReasoningEndStreaming endTokenId [token]) with
  | some offset => start + offset
  | none => allTokenIds.length - 1

namespace StructuredOutputManager

variable (manager : StructuredOutputManager)

/-- `should_fill_bitmask`, which looks at the prompt once. -/
def shouldFillBitmask (endsForPrompt : Bool) (structured : StructuredOutputRequest) : Bool × StructuredOutputRequest :=
  if manager.endTokenId.isNone || manager.enableInReasoning then (true, structured)
  else
    let reasoningEnded := structured.reasoningEnded.getD endsForPrompt
    (reasoningEnded, { structured with reasoningEnded := some reasoningEnded })

def shouldAdvance (request : Request) (structured : StructuredOutputRequest) : Bool × StructuredOutputRequest :=
  if !request.useStructuredOutput then (false, structured)
  else
    match manager.endTokenId with
    | none => (true, structured)
    | some endTokenId =>
      if manager.enableInReasoning then (true, structured)
      else if structured.reasoningEnded = some true then (true, structured)
      else
        let start := deltaStart request
        if isReasoningEndStreaming endTokenId (request.allTokenIds.drop start) then
          if manager.hasSpeculativeConfig && structured.requestType = .structuralTag then
            (true, { structured with
              reasoningEnded := some true
              reasoningEndTokenIndex := some (findReasoningEndIndex endTokenId request.allTokenIds start) })
          else (false, { structured with reasoningEnded := some true })
        else (false, structured)

end StructuredOutputManager

def trimReasoningForAdvance (structured : StructuredOutputRequest) (request : Request) (newTokenIds : List TokenId) :
    List TokenId :=
  match structured.reasoningEndTokenIndex with
  | none => newTokenIds
  | some endIdx =>
    let firstIdx : Int := request.allTokenIds.length - newTokenIds.length
    let numReasoning := endIdx + 1 - firstIdx
    if numReasoning ≤ 0 then newTokenIds else newTokenIds.drop numReasoning.toNat

/-- The tokens `update_from_output` passes to `grammar.accept_tokens`: none for no call. -/
def StructuredOutputManager.advanceTokenIds (manager : StructuredOutputManager) (request : Request)
    (structured : StructuredOutputRequest) (newTokenIds : List TokenId) : List TokenId × StructuredOutputRequest :=
  if newTokenIds.isEmpty then ([], structured)
  else
    let (advances, structured) := manager.shouldAdvance request structured
    if advances then (trimReasoningForAdvance structured request newTokenIds, structured) else ([], structured)

/-- One request of a scheduler: its structured output, the tokens of each of its outputs, and
the token lists its grammar was given. -/
structure GrammarRun (K : Type) where
  scheduler : Scheduler K
  structured : StructuredOutputRequest
  outputs : List (List TokenId) := []
  accepted : List (List TokenId) := []

namespace GrammarRun

variable {K : Type} (env : Collaborators K) (config : SchedulerConfig) (manager : StructuredOutputManager)
  (endsForPrompt : Bool) (id : ReqId)

/-- `update_from_output` after `_update_request_with_output`. A request whose tokens the
grammar rejects is terminated. -/
def afterOutput (state : GrammarRun K) (next : Scheduler K) (newTokenIds : List TokenId) (rejects : Bool) :
    GrammarRun K :=
  let (advanceTokenIds, structured) := manager.advanceTokenIds (next.request id) state.structured newTokenIds
  { scheduler :=
      if !advanceTokenIds.isEmpty && rejects then
        next.modifyRequest id fun request => { request with status := .finishedError, resumable := false }
      else next
    structured
    outputs := state.outputs ++ [newTokenIds]
    accepted := if advanceTokenIds.isEmpty then state.accepted else state.accepted ++ [advanceTokenIds] }

/-- An output of the request that `update_from_output` does not skip. The bitmask of its step
has been filled. -/
inductive OutputStep (state : GrammarRun K) (newTokenIds : List TokenId) : GrammarRun K → Prop
  | output {scheduled : SchedulerOutput} {modelOutput : ModelRunnerOutput} {stopped : Bool} {next : Scheduler K}
      (rejects : Bool) (unfinished : (state.scheduler.request id).isFinished = false)
      (isFilled : (manager.shouldFillBitmask endsForPrompt state.structured).2 = state.structured)
      (nonempty : modelOutput.sampledTokenIds id ≠ [])
      (ran : (state.scheduler.beforeOutput env config scheduled modelOutput id).updateRequestWithOutput env config id
        (modelOutput.sampledTokenIds id) = .ok (newTokenIds, stopped, next)) :
      OutputStep state newTokenIds (state.afterOutput manager id next newTokenIds rejects)

def askDraftTokens (state : GrammarRun K) : GrammarRun K :=
  { state with structured := (manager.shouldAdvance (state.scheduler.request id) state.structured).2 }

/-- A bitmask is filled, or the scheduler does something that leaves the tokens of the request
alone. -/
inductive QuietStep (state : GrammarRun K) : GrammarRun K → Prop
  | fillBitmask :
      QuietStep state { state with structured := (manager.shouldFillBitmask endsForPrompt state.structured).2 }
  | other {next : Scheduler K} (sameTokens : (next.request id).allTokenIds = (state.scheduler.request id).allTokenIds)
      (sameUse : (next.request id).useStructuredOutput = (state.scheduler.request id).useStructuredOutput) :
      QuietStep state { state with scheduler := next }

inductive Step (state next : GrammarRun K) : Prop
  | output (newTokenIds : List TokenId) (step : OutputStep env config manager endsForPrompt id state newTokenIds next)
  | draftTokens (asks : next = state.askDraftTokens manager id)
  | quiet (step : QuietStep manager endsForPrompt id state next)

def start (scheduler : Scheduler K) (requestType : StructuredOutputOptions) (reasoningEnded : Option Bool) :
    GrammarRun K where
  scheduler
  structured := { requestType, reasoningEnded }

end GrammarRun

end DeepSpark
