import DeepSpark.StructuredOutput.Grammar

/-!
Filling the bitmask of a batch (`v1/structured_output/__init__.py`).

Owns `_fill_bitmasks` and both ways of `grammar_bitmask`: the serial one, which advances each
grammar along its draft tokens and rolls it back, and the parallel one, whose tasks run in an
order of the executor's. An index outside the buffer raises.
-/

namespace DeepSpark

open Lib

structure GrammarRequest (σ : Type) where
  grammar : σ
  structured : StructuredOutputRequest
  endsForPrompt : Bool := false

/-- What `grammar_bitmask` reads of the configuration. -/
structure BitmaskConfig where
  maxNumSeqs : Nat
  numSpeculativeTokens : Nat
  isDiffusion : Bool

/-- `max_batch_size * (1 + max_num_spec_tokens)`. -/
def BitmaskConfig.numRows (config : BitmaskConfig) : Nat := config.maxNumSeqs * (1 + config.numSpeculativeTokens)

structure FillEntry (σ : Type) where
  grammar : σ
  index : Nat
  applyBitmask : Bool

structure DraftState (σ : Type) (width rows : Nat) where
  bitmask : Vector (BitmaskRow width) rows
  cumulativeIndex : Nat
  grammar : σ
  applyBitmask : Bool
  stateAdvancements : Nat := 0
  postReasoningEndInWindow : Bool := false

structure BatchState (σ : Type) (width rows : Nat) where
  bitmask : Vector (BitmaskRow width) rows
  cumulativeIndex : Nat := 0
  requests : ReqId → GrammarRequest σ

/-- `bitmask_tensor[:cumulative_index]`. -/
def BatchState.returned {σ : Type} {width rows : Nat} (state : BatchState σ width rows) : List (BitmaskRow width) :=
  if state.cumulativeIndex < rows then state.bitmask.toList.take state.cumulativeIndex else state.bitmask.toList

/-- What a call leaves: `_grammar_bitmask`, and the requests. -/
structure BitmaskState (σ : Type) (width : Nat) (config : BitmaskConfig) where
  grammarBitmask : Option (Vector (BitmaskRow width) config.numRows) := none
  requests : ReqId → GrammarRequest σ

def fillBitmaskParallelThreshold : Nat := 128

def fillBitmaskParallelBatchSize : Nat := 16

namespace StructuredOutputGrammar

variable {σ : Type} {width rows : Nat} (grammar : StructuredOutputGrammar σ width)

def writtenRow (applyBitmask : Bool) (state : σ) : BitmaskRow width :=
  if applyBitmask && !grammar.isTerminated state then grammar.fillBitmask state else BitmaskRow.full width

def fillEntry (bitmask : Vector (BitmaskRow width) rows) (entry : FillEntry σ) :
    Except PyError (Vector (BitmaskRow width) rows) :=
  if inRange : entry.index < rows then
    .ok (bitmask.set entry.index (grammar.writtenRow entry.applyBitmask entry.grammar) inRange)
  else .error (.indexError "index out of range")

def fillBitmasks (bitmask : Vector (BitmaskRow width) rows) (batch : List (FillEntry σ)) :
    Except PyError (Vector (BitmaskRow width) rows) :=
  batch.foldlM grammar.fillEntry bitmask

end StructuredOutputGrammar

namespace StructuredOutputManager

variable {σ : Type} {width rows : Nat} (manager : StructuredOutputManager) (grammar : StructuredOutputGrammar σ width)

/-! ## Serial filling -/

/-- The branches on a draft token: `apply_bitmask`, `advance_grammar` and
`post_reasoning_end_in_window` after them. -/
def draftGate (detectReasoningEnd : Bool) (state : DraftState σ width rows) (token : TokenId) : Bool × Bool × Bool :=
  if token = -1 then (false, false, state.postReasoningEndInWindow)
  else if detectReasoningEnd && !state.applyBitmask then
    if manager.endTokenId.any fun endTokenId => isReasoningEndStreaming endTokenId [token] then (true, false, true)
    else (state.applyBitmask, state.applyBitmask, state.postReasoningEndInWindow)
  else (state.applyBitmask, state.applyBitmask, state.postReasoningEndInWindow)

def advanceGrammar (state : DraftState σ width rows) (token : TokenId) (advances postReasoningEndInWindow : Bool) :
    Except PyError (σ × Nat) :=
  if advances && !grammar.isTerminated state.grammar then
    let (accepted, advanced) := grammar.acceptTokens state.grammar [token]
    if accepted then .ok (advanced, state.stateAdvancements + 1)
    else if postReasoningEndInWindow then .ok (advanced, state.stateAdvancements)
    else .error (.assertionError "(token, req_id, scheduled_spec_decode_tokens)")
  else .ok (state.grammar, state.stateAdvancements)

def stepDraft (detectReasoningEnd : Bool) (state : DraftState σ width rows) (token : TokenId) :
    Except PyError (DraftState σ width rows) := do
  let bitmask ← grammar.fillBitmasks state.bitmask [⟨state.grammar, state.cumulativeIndex, state.applyBitmask⟩]
  let (applyBitmask, advances, postReasoningEndInWindow) := manager.draftGate detectReasoningEnd state token
  let (advanced, stateAdvancements) ← advanceGrammar grammar state token advances postReasoningEndInWindow
  return { bitmask, cumulativeIndex := state.cumulativeIndex + 1, grammar := advanced, applyBitmask, stateAdvancements,
           postReasoningEndInWindow }

def fillBonus (isDiffusion shouldFill : Bool) (reqTokens : List TokenId) (state : DraftState σ width rows) :
    Except PyError (DraftState σ width rows) :=
  if isDiffusion && !reqTokens.isEmpty then .ok state
  else do
    let bitmask ← grammar.fillBitmasks state.bitmask
      [⟨state.grammar, state.cumulativeIndex, shouldFill || state.applyBitmask⟩]
    return { state with bitmask, cumulativeIndex := state.cumulativeIndex + 1 }

def fillRequest (isDiffusion : Bool) (scheduledSpecDecodeTokens : ReqId → List TokenId) (state : BatchState σ width rows)
    (reqId : ReqId) : Except PyError (BatchState σ width rows) := do
  let request := state.requests reqId
  let (applyBitmask, structured) := manager.shouldFillBitmask request.endsForPrompt request.structured
  let detectReasoningEnd := !applyBitmask && manager.endTokenId.isSome && !manager.enableInReasoning
  let reqTokens := scheduledSpecDecodeTokens reqId
  let begins : DraftState σ width rows :=
    { bitmask := state.bitmask, cumulativeIndex := state.cumulativeIndex, grammar := request.grammar, applyBitmask }
  let drafted ← reqTokens.foldlM (manager.stepDraft grammar detectReasoningEnd) begins
  let shouldFill := (manager.shouldFillBitmask request.endsForPrompt structured).1
  let filled ← fillBonus grammar isDiffusion shouldFill reqTokens drafted
  let restored :=
    if filled.stateAdvancements > 0 then grammar.rollback filled.grammar filled.stateAdvancements else filled.grammar
  return { bitmask := filled.bitmask
           cumulativeIndex := filled.cumulativeIndex
           requests := Function.update state.requests reqId { request with grammar := restored, structured } }

/-- `grammar_bitmask` after the buffer is allocated, without the executor. -/
def fillSerially (isDiffusion : Bool) (scheduledSpecDecodeTokens : ReqId → List TokenId)
    (structuredOutputRequestIds : List ReqId) (state : BatchState σ width rows) :
    Except PyError (BatchState σ width rows) :=
  structuredOutputRequestIds.foldlM (manager.fillRequest grammar isDiffusion scheduledSpecDecodeTokens) state

/-! ## Parallel filling -/

structure Submission (σ : Type) where
  promises : List (List (FillEntry σ)) := []
  batch : List (FillEntry σ) := []
  cumulativeIndex : Nat := 0
  requests : ReqId → GrammarRequest σ

def submitRequest (state : Submission σ) (reqId : ReqId) : Submission σ :=
  let request := state.requests reqId
  let (applyBitmask, structured) := manager.shouldFillBitmask request.endsForPrompt request.structured
  let batch := state.batch ++ [⟨request.grammar, state.cumulativeIndex, applyBitmask⟩]
  let isFull := batch.length == fillBitmaskParallelBatchSize
  { promises := if isFull then state.promises ++ [batch] else state.promises
    batch := if isFull then [] else batch
    cumulativeIndex := state.cumulativeIndex + 1
    requests := Function.update state.requests reqId { request with structured } }

def Submission.tasks (state : Submission σ) : List (List (FillEntry σ)) :=
  if state.batch.isEmpty then state.promises else state.promises ++ [state.batch]

/-- `grammar_bitmask` with the executor: the order in which it runs the entries of the tasks. -/
def fillInParallel (executor : List (List (FillEntry σ)) → List (FillEntry σ)) (structuredOutputRequestIds : List ReqId)
    (state : BatchState σ width rows) : Except PyError (BatchState σ width rows) := do
  let submitted := structuredOutputRequestIds.foldl manager.submitRequest { requests := state.requests }
  let bitmask ← grammar.fillBitmasks state.bitmask (executor submitted.tasks)
  return { bitmask, cumulativeIndex := submitted.cumulativeIndex, requests := submitted.requests }

section

variable (config : BitmaskConfig) (executor : List (List (FillEntry σ)) → List (FillEntry σ))
  (structuredOutputRequestIds : List ReqId) (scheduledSpecDecodeTokens : ReqId → List TokenId)

def fillRows (state : BatchState σ width rows) : Except PyError (BatchState σ width rows) :=
  if structuredOutputRequestIds.length > fillBitmaskParallelThreshold && config.numSpeculativeTokens == 0 then
    manager.fillInParallel grammar executor structuredOutputRequestIds state
  else
    manager.fillSerially grammar config.isDiffusion scheduledSpecDecodeTokens structuredOutputRequestIds state

def grammarBitmask (backend : StructuredOutputBackend σ width) (state : BitmaskState σ width config) :
    Except PyError (Option (List (BitmaskRow width)) × BitmaskState σ width config) :=
  if structuredOutputRequestIds.isEmpty then .ok (none, state)
  else do
    let begins : BatchState σ width config.numRows :=
      { bitmask := state.grammarBitmask.getD (backend.allocateTokenBitmask config.numRows), requests := state.requests }
    let filled ← manager.fillRows backend.toStructuredOutputGrammar config executor structuredOutputRequestIds
      scheduledSpecDecodeTokens begins
    return (some filled.returned, { grammarBitmask := some filled.bitmask, requests := filled.requests })

end

end StructuredOutputManager

end DeepSpark
