import DeepSpark.Lib.Atomics
import DeepSpark.Worker.SamplerRows

/-!
The penalties of the sampler (`v1/worker/gpu/sample/penalties.py`).

Owns the penalties and the statistics of the slots, `_bincount_kernel`, `_penalties_kernel`, the
counts `_post_update_kernel` keeps (`v1/worker/gpu/input_batch.py`), and the requests a step adds.
Both tables are addressed by row stride, and token ids are not negative.
-/

namespace DeepSpark

open Lib

structure PenaltyParams (P : Type) where
  repetitionPenalty : P
  frequencyPenalty : P
  presencePenalty : P
deriving DecidableEq

section

variable {P : Type} [DecidableEq P] [One P] [Zero P]

def PenaltyParams.usePenalty (params : PenaltyParams P) : Bool :=
  params.repetitionPenalty != 1 || params.frequencyPenalty != 0 || params.presencePenalty != 0

structure PenaltiesState (P : Type) where
  repetitionPenalty : Buffer Nat P
  frequencyPenalty : Buffer Nat P
  presencePenalty : Buffer Nat P
  usePenalty : Buffer Nat Bool
  promptBinMask : Buffer Nat (BitVec 32)
  outputBinCounts : Buffer Nat Nat
  newPenaltiesReqs : List Nat := []

namespace PenaltiesState

def addRequest (state : PenaltiesState P) (reqIdx : Nat) (params : PenaltyParams P) : PenaltiesState P :=
  { state with
    repetitionPenalty := Function.update state.repetitionPenalty reqIdx params.repetitionPenalty
    frequencyPenalty := Function.update state.frequencyPenalty reqIdx params.frequencyPenalty
    presencePenalty := Function.update state.presencePenalty reqIdx params.presencePenalty
    usePenalty := Function.update state.usePenalty reqIdx params.usePenalty
    newPenaltiesReqs :=
      if params.usePenalty then state.newPenaltiesReqs ++ [reqIdx] else state.newPenaltiesReqs }

end PenaltiesState

end

/-! ## Counting the tokens of new requests -/

/-- The arguments of `_bincount_kernel`. -/
structure BincountArgs where
  expandedIdxMapping : List Nat
  allTokenIds : Buffer Nat Int
  allTokenIdsStride : Nat
  promptLen : Buffer Nat Nat
  prefillLen : Buffer Nat Nat
  vocabSize : Nat

namespace BincountArgs

variable (args : BincountArgs)

def blockSize : Nat := 1024

def promptBinMaskStride : Nat := cdiv args.vocabSize 32

def reqStateIdx (tokenIdx : Nat) : Nat := args.expandedIdxMapping.getD tokenIdx 0

/-- `tl.load(all_token_ids_ptr + req_state_idx * all_token_ids_stride + position)`. -/
def tokenAt (reqStateIdx position : Nat) : Nat :=
  (args.allTokenIds (reqStateIdx * args.allTokenIdsStride + position)).toNat

/-- `_bincount_kernel`: its `atomic_or` on `prompt_bin_mask`. -/
def promptUpdates (program : Nat × Nat) : List (Update Nat (BitVec 32)) :=
  let (tokenIdx, blockIdx) := program
  let reqStateIdx := args.reqStateIdx tokenIdx
  let promptLen := args.promptLen reqStateIdx
  if blockIdx * blockSize ≥ args.prefillLen reqStateIdx then []
  else if blockIdx * blockSize < promptLen then
    (List.range blockSize).filterMap fun lane =>
      let block := blockIdx * blockSize + lane
      let promptToken := args.tokenAt reqStateIdx block
      if block < promptLen then
        some ⟨reqStateIdx * args.promptBinMaskStride + promptToken / 32, 1#32 <<< (promptToken % 32)⟩
      else none
  else []

/-- `_bincount_kernel`: its `atomic_add` on `output_bin_counts`. -/
def outputUpdates (program : Nat × Nat) : List (Update Nat Nat) :=
  let (tokenIdx, blockIdx) := program
  let reqStateIdx := args.reqStateIdx tokenIdx
  let promptLen := args.promptLen reqStateIdx
  let prefillLen := args.prefillLen reqStateIdx
  if blockIdx * blockSize ≥ prefillLen then []
  else if (blockIdx + 1) * blockSize ≥ promptLen then
    (List.range blockSize).filterMap fun lane =>
      let block := blockIdx * blockSize + lane
      if block < prefillLen ∧ block ≥ promptLen then
        some ⟨reqStateIdx * args.vocabSize + args.tokenAt reqStateIdx block, 1⟩
      else none
  else []

/-- The grid: `max_prefill_len` is over the new requests. -/
def grid : List (Nat × Nat) :=
  let maxPrefillLen := (args.expandedIdxMapping.map args.prefillLen).foldr max 0
  List.product (List.range args.expandedIdxMapping.length) (List.range (cdiv maxPrefillLen blockSize))

end BincountArgs

/-- `tensor.index_fill_(0, rows, value)`. -/
def indexFill {α : Type} (stride : Nat) (rows : List Nat) (value : α) (buffer : Buffer Nat α) : Buffer Nat α :=
  fun address => if address / stride ∈ rows then value else buffer address

/-- `bincount`: both statistics of the new requests are cleared and counted. -/
structure Bincounted {P : Type} (args : BincountArgs) (before after : PenaltiesState P) : Prop where
  promptBinMask : Combined (· ||| ·) args.grid args.promptUpdates
    (indexFill args.promptBinMaskStride args.expandedIdxMapping 0 before.promptBinMask) after.promptBinMask
  outputBinCounts : Combined (· + ·) args.grid args.outputUpdates
    (indexFill args.vocabSize args.expandedIdxMapping 0 before.outputBinCounts) after.outputBinCounts
  others : after = { before with promptBinMask := after.promptBinMask, outputBinCounts := after.outputBinCounts }

inductive PenaltiesState.AppliedStagedWrites {P : Type} (vocabSize maxModelLen : Nat) (states : DeviceStates)
    (promptLens : Buffer Nat Nat) (before : PenaltiesState P) : PenaltiesState P → Prop
  | none (isEmpty : before.newPenaltiesReqs = []) : AppliedStagedWrites vocabSize maxModelLen states promptLens before before
  | counted (notEmpty : before.newPenaltiesReqs ≠ []) {counted : PenaltiesState P}
      (bincounted : Bincounted ⟨before.newPenaltiesReqs, states.allTokenIds, maxModelLen, promptLens, states.prefillLen,
        vocabSize⟩ before counted) :
      AppliedStagedWrites vocabSize maxModelLen states promptLens before { counted with newPenaltiesReqs := [] }

theorem exists_bincounted {P : Type} (args : BincountArgs) (before : PenaltiesState P) :
    ∃ after, Bincounted args before after := by
  obtain ⟨mask, isMask⟩ := exists_combined (· ||| ·) args.grid args.promptUpdates
    (indexFill args.promptBinMaskStride args.expandedIdxMapping 0 before.promptBinMask)
  obtain ⟨counts, isCounts⟩ := exists_combined (· + ·) args.grid args.outputUpdates
    (indexFill args.vocabSize args.expandedIdxMapping 0 before.outputBinCounts)
  exact ⟨{ before with promptBinMask := mask, outputBinCounts := counts }, isMask, isCounts, rfl⟩

theorem PenaltiesState.exists_applied {P : Type} (vocabSize maxModelLen : Nat) (states : DeviceStates)
    (promptLens : Buffer Nat Nat) (before : PenaltiesState P) :
    ∃ after, before.AppliedStagedWrites vocabSize maxModelLen states promptLens after := by
  by_cases isEmpty : before.newPenaltiesReqs = []
  · exact ⟨_, .none isEmpty⟩
  · obtain ⟨counted, bincounted⟩ := exists_bincounted ⟨before.newPenaltiesReqs, states.allTokenIds, maxModelLen, promptLens,
      states.prefillLen, vocabSize⟩ before
    exact ⟨_, .counted isEmpty bincounted⟩

/-! ## Applying the penalties -/

/-- The arguments of `_penalties_kernel`. -/
structure PenaltiesArgs (P : Type) where
  logitsStride : Nat
  expandedIdxMapping : Buffer Nat Nat
  tokenIds : Buffer Nat Int
  expandedLocalPos : Buffer Nat Nat
  state : PenaltiesState P
  vocabSize : Nat

namespace PenaltiesArgs

variable {P : Type} (args : PenaltiesArgs P)

def blockSize : Nat := 8192

def reqStateIdx (tokenIdx : Nat) : Nat := args.expandedIdxMapping tokenIdx

/-- `output_bin_counts` after the loop over the previous positions. -/
def outputBinCount (tokenIdx token : Nat) : Nat :=
  let pos := args.expandedLocalPos tokenIdx
  let startIdx := tokenIdx - pos
  (List.range pos).foldl (fun count prevPos =>
    count + if (token : Int) = args.tokenIds (startIdx + prevPos + 1) then 1 else 0)
    (args.state.outputBinCounts (args.reqStateIdx tokenIdx * args.vocabSize + token))

/-- `prompt_bin_mask`, unpacked. -/
def promptBit (tokenIdx token : Nat) : Bool :=
  (args.state.promptBinMask (args.reqStateIdx tokenIdx * cdiv args.vocabSize 32 + token / 32)).getLsbD (token % 32)

variable [DecidableEq P] [One P] [Zero P]

def usePenalty (tokenIdx : Nat) : Bool :=
  PenaltyParams.usePenalty
    ⟨args.state.repetitionPenalty (args.reqStateIdx tokenIdx), args.state.frequencyPenalty (args.reqStateIdx tokenIdx),
      args.state.presencePenalty (args.reqStateIdx tokenIdx)⟩

variable [Mul P] [Div P] [Sub P] [NatCast P] [LT P] [DecidableLT P]

def penalized (params : PenaltyParams P) (promptBit : Bool) (outputBinCount : Nat) (logit : P) : P :=
  let outputBinMask := decide (outputBinCount > 0)
  let scaled :=
    if params.repetitionPenalty != 1 then
      let scale := if promptBit || outputBinMask then params.repetitionPenalty else 1
      logit * if 0 < logit then 1 / scale else scale
    else logit
  scaled - params.frequencyPenalty * (outputBinCount : P) - params.presencePenalty * ((outputBinMask.toNat : Nat) : P)

/-- `_penalties_kernel`: a row is left alone where its request has no penalty. -/
def stores (logits : Buffer Nat P) (program : Nat × Nat) : List (Store Nat P) :=
  let (tokenIdx, blockIdx) := program
  if args.usePenalty tokenIdx then
    (List.range blockSize).filterMap fun lane =>
      let token := blockIdx * blockSize + lane
      let address := tokenIdx * args.logitsStride + token
      let params : PenaltyParams P := ⟨args.state.repetitionPenalty (args.reqStateIdx tokenIdx),
        args.state.frequencyPenalty (args.reqStateIdx tokenIdx), args.state.presencePenalty (args.reqStateIdx tokenIdx)⟩
      if token < args.vocabSize then
        some ⟨address,
          penalized params (args.promptBit tokenIdx token) (args.outputBinCount tokenIdx token) (logits address)⟩
      else none
  else []

end PenaltiesArgs

/-- `PenaltiesState.apply_penalties`: the kernel is launched if a request of the batch uses
penalties. -/
def PenaltiesState.launches {P : Type} (state : PenaltiesState P) (layout : BatchLayout) : Bool :=
  (List.range layout.numReqs).any fun row => state.usePenalty (layout.idxMapping row)

/-! ## The runner -/

/-- What the last rank of a runner keeps for its sampler. -/
structure PenaltyRunner (P : Type) where
  states : DeviceStates
  promptLens : Buffer Nat Nat
  penalties : PenaltiesState P

structure NewRequest (P : Type) where
  reqIdx : Nat
  promptLen : Nat
  prefillTokenIds : List Int
  numComputedTokens : Nat
  samplingParams : Option (PenaltyParams P)

section

variable {P : Type} [DecidableEq P] [One P] [Zero P]

def PenaltyRunner.addRequest (maxModelLen : Nat) (runner : PenaltyRunner P) (request : NewRequest P) :
    Except PyError (PenaltyRunner P) := do
  let promptLens ← addPromptLen runner.promptLens request.reqIdx (request.promptLen, request.prefillTokenIds.length)
  return { states := runner.states.addRequest maxModelLen request.reqIdx request.prefillTokenIds request.numComputedTokens
           promptLens
           penalties :=
             match request.samplingParams with
             | some params => runner.penalties.addRequest request.reqIdx params
             | none => runner.penalties }

/-- `add_requests`: all requests of a step enter before the staged writes are applied. -/
inductive PenaltyRunner.Added (vocabSize maxModelLen : Nat) (before : PenaltyRunner P) (requests : List (NewRequest P)) :
    PenaltyRunner P → Prop
  | added {entered : PenaltyRunner P} (ran : requests.foldlM (PenaltyRunner.addRequest maxModelLen) before = .ok entered)
      {penalties : PenaltiesState P}
      (applied : entered.penalties.AppliedStagedWrites vocabSize maxModelLen entered.states entered.promptLens penalties) :
      Added vocabSize maxModelLen before requests { entered with penalties := penalties }

end

/-- `_post_update_kernel`: its increments of `output_bin_counts`. The load and the store of a count
are one update, as a slot has one program. -/
def BatchLayout.countUpdates (layout : BatchLayout) (vocabSize : Nat) (result : SamplerResult) (numSampled : Nat → Nat)
    (reqId : Nat) : List (Update Nat Nat) :=
  (List.range (numSampled reqId)).map fun i =>
    ⟨layout.idxMapping reqId * vocabSize + (result.sampledTokens reqId i).toNat, 1⟩

/-- A step of the runner: the batch is assembled, sampled and applied, and the sampled tokens of
every slot are counted. -/
structure PenaltyStep {P : Type} (vocabSize maxModelLen numSpeculativeSteps : Nat) (layout : BatchLayout)
    (before : PenaltyRunner P) (buffers : InputBuffers) (result : SamplerResult) (after : PenaltyRunner P) : Prop where
  step : RunnerStep maxModelLen numSpeculativeSteps layout before.states buffers result after.states
  promptLens : after.promptLens = before.promptLens
  counts : Combined (· + ·) (List.range layout.numReqs)
    (layout.countUpdates vocabSize result (layout.numSampled before.states buffers.seqLens result))
    before.penalties.outputBinCounts after.penalties.outputBinCounts
  others : after.penalties = { before.penalties with outputBinCounts := after.penalties.outputBinCounts }

theorem RunnerStep.exists_penaltyStep {P : Type} {maxModelLen numSpeculativeSteps : Nat} {layout : BatchLayout}
    {runner : PenaltyRunner P} {buffers : InputBuffers} {result : SamplerResult} {states : DeviceStates}
    (step : RunnerStep maxModelLen numSpeculativeSteps layout runner.states buffers result states) (vocabSize : Nat) :
    ∃ after : PenaltyRunner P,
      PenaltyStep vocabSize maxModelLen numSpeculativeSteps layout runner buffers result after := by
  obtain ⟨counts, isCounts⟩ := exists_combined (· + ·) (List.range layout.numReqs)
    (layout.countUpdates vocabSize result (layout.numSampled runner.states buffers.seqLens result))
    runner.penalties.outputBinCounts
  exact ⟨⟨states, runner.promptLens, { runner.penalties with outputBinCounts := counts }⟩, step, rfl, isCounts, rfl⟩

end DeepSpark
