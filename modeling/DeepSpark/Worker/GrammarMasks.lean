import DeepSpark.Lib.Launch
import DeepSpark.StructuredOutput.Grammar

/-!
Applying the bitmask of a batch to its logits (`v1/structured_output/utils.py`,
`v1/worker/gpu/structured_outputs.py`).

Owns both `apply_grammar_bitmask` functions: the one that sorts the rows of the bitmask into the
order of the batch, over the xgrammar kernel, and the one that maps them to rows of logits, with
its kernel.
-/

namespace DeepSpark

open Lib

structure GrammarOutput (width : Nat) where
  structuredOutputRequestIds : List ReqId
  grammarBitmask : List (BitmaskRow width)

/-- `values[index]`. -/
def pyItem {α : Type} (values : List α) (index : Nat) : Except PyError α :=
  match values[index]? with
  | some value => .ok value
  | none => .error (.indexError "index out of range")

/-- `values[index] = value`. -/
def pySetItem {α : Type} (values : List α) (index : Nat) (value : α) : Except PyError (List α) :=
  if index < values.length then .ok (values.set index value) else .error (.indexError "index out of range")

/-! ## Sorting the rows -/

structure BatchIndices where
  batchIndex : Nat := 0
  cumulativeOffset : Nat := 0
  structOutReqBatchIndices : PyDict ReqId Nat := .empty

structure SortedRows (width : Nat) where
  sortedBitmask : List (BitmaskRow width)
  outIndices : List Nat := []
  cumulativeIndex : Nat := 0

section

variable {α : Type} {width : Nat} (specTokens : ReqId → List TokenId) (output : GrammarOutput width)

def BatchIndices.visit (state : BatchIndices) (reqId : ReqId) : BatchIndices :=
  let logitIndex := state.batchIndex + state.cumulativeOffset
  { batchIndex := state.batchIndex + 1
    cumulativeOffset := state.cumulativeOffset + (specTokens reqId).length
    structOutReqBatchIndices :=
      if reqId ∈ output.structuredOutputRequestIds then state.structOutReqBatchIndices.set reqId logitIndex
      else state.structOutReqBatchIndices }

def SortedRows.place (logitIdx : Nat) (state : SortedRows width) (i : Nat) : Except PyError (SortedRows width) := do
  let bitmaskIndex := logitIdx + i
  let row ← pyItem output.grammarBitmask (state.cumulativeIndex + i)
  let sortedBitmask ← pySetItem state.sortedBitmask bitmaskIndex row
  return { state with sortedBitmask, outIndices := state.outIndices ++ [bitmaskIndex] }

def SortedRows.placeAll (logitIdx : Option Nat) (numSpecTokens : Nat) (state : SortedRows width) :
    Except PyError (SortedRows width) :=
  match logitIdx with
  | some logitIdx => (List.range (1 + numSpecTokens)).foldlM (SortedRows.place output logitIdx) state
  | none => .ok state

def SortedRows.visit (indices : PyDict ReqId Nat) (state : SortedRows width) (reqId : ReqId) :
    Except PyError (SortedRows width) := do
  let numSpecTokens := (specTokens reqId).length
  let placed ← state.placeAll output (indices.get? reqId) numSpecTokens
  return { placed with cumulativeIndex := placed.cumulativeIndex + (1 + numSpecTokens) }

def sortBitmask (reqIds : List ReqId) (numLogits : Nat) : Except PyError (SortedRows width) :=
  let indices := (reqIds.foldl (BatchIndices.visit specTokens output) {}).structOutReqBatchIndices
  output.structuredOutputRequestIds.foldlM (SortedRows.visit specTokens output indices)
    { sortedBitmask := List.replicate numLogits (BitmaskRow.full width) }

/-- `apply_grammar_bitmask` of `v1/structured_output/utils.py`; the kernel takes the logits, the
bitmask and the rows to mask, which are all of them where none are given. -/
def applyGrammarBitmask
    (applyTokenBitmaskInplace : List (List α) → List (BitmaskRow width) → Option (List Nat) → List (List α))
    (reqIds : List ReqId) (logits : List (List α)) : Except PyError (List (List α)) := do
  let sorted ← sortBitmask specTokens output reqIds logits.length
  let skipOutIndices := sorted.outIndices.length == logits.length
  return applyTokenBitmaskInplace logits sorted.sortedBitmask (if skipOutIndices then none else some sorted.outIndices)

end

/-! ## Mapping the rows -/

def cuNumLogits (draftTokens : PyDict ReqId (List TokenId)) (numBonusTokens : Nat) (reqIds : List ReqId) : List Nat :=
  if draftTokens.entries.isEmpty then List.range (reqIds.length + 1)
  else
    let numLogits := reqIds.map fun reqId => ((draftTokens.get? reqId).getD []).length + numBonusTokens
    (List.range (reqIds.length + 1)).map fun count => (numLogits.take count).sum

section

variable {width : Nat}

/-- `req_id_to_idx[req_id]`. -/
def reqIdToIdx (reqIds : List ReqId) (reqId : ReqId) : Except PyError Nat :=
  match reqIds.idxOf? reqId with
  | some reqIdx => .ok reqIdx
  | none => .error (.keyError "grammar_req_id")

def extendMapping (reqIds : List ReqId) (cuNumLogits : List Nat) (mapping : List Nat) (grammarReqId : ReqId) :
    Except PyError (List Nat) := do
  let reqIdx ← reqIdToIdx reqIds grammarReqId
  let logitsStartIdx ← pyItem cuNumLogits reqIdx
  let logitsEndIdx ← pyItem cuNumLogits (reqIdx + 1)
  return mapping ++ List.range' logitsStartIdx (logitsEndIdx - logitsStartIdx)

/-- `StructuredOutputsWorker.apply_grammar_bitmask` up to its launch: the mapping, if there is
anything to mask. -/
def mapGrammarBitmask (reqIds : List ReqId) (cuNumLogits : List Nat) (output : GrammarOutput width) :
    Except PyError (Option (List Nat)) :=
  if output.structuredOutputRequestIds.isEmpty then .ok none
  else do
    let mapping ← output.structuredOutputRequestIds.foldlM (extendMapping reqIds cuNumLogits) []
    pyAssert (output.grammarBitmask.length == mapping.length) ""
    return some mapping

end

/-- The arguments of `_apply_grammar_bitmask_kernel`. -/
structure GrammarMaskArgs (width : Nat) where
  logitsStride : Nat
  logitsIndices : List Nat
  bitmask : List (BitmaskRow width)
  vocabSize : Nat

namespace GrammarMaskArgs

variable {α : Type} {width : Nat} (args : GrammarMaskArgs width)

def blockSize : Nat := 8192

def grid : List (Nat × Nat) :=
  List.product (List.range args.bitmask.length) (List.range (cdiv args.vocabSize blockSize))

/-- A bit of the unpacked block, of the word `bitmask_offset` that holds it. -/
def unpacked (bitmaskIdx blockId lane : Nat) : Bool :=
  let bitmaskOffset := (blockId * blockSize) / 32 + lane / 32
  let packedBitmask := ((args.bitmask.getD bitmaskIdx (BitmaskRow.full width))[bitmaskOffset]?).getD 0
  packedBitmask.getLsbD (lane % 32)

/-- `_apply_grammar_bitmask_kernel`. -/
def stores (negInf : α) (program : Nat × Nat) : List (Store Nat α) :=
  let (bitmaskIdx, blockId) := program
  let logitsIdx := args.logitsIndices.getD bitmaskIdx 0
  (List.range blockSize).filterMap fun lane =>
    let token := blockId * blockSize + lane
    if !args.unpacked bitmaskIdx blockId lane && decide (token < args.vocabSize) then
      some ⟨logitsIdx * args.logitsStride + token, negInf⟩
    else none

end GrammarMaskArgs

end DeepSpark
