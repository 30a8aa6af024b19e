import DeepSpark.Worker.Gumbel

/-!
`rejection_sample` of `v1/worker/gpu/spec_decode/rejection_sampler_utils.py`.

Owns its four kernels, the buffers they share, and the run of their launches: the
block statistics, the acceptance loop, the resampling of the rejected or bonus row,
and the insertion of the resampled token. Every launch may perform the stores of its
programs in any order, and a fresh buffer holds anything.
-/

namespace DeepSpark

open Lib

def vocabBlockSize : Nat := 8192

def resampleBlockSize : Nat := 1024

/-- The arguments of `rejection_sample`. -/
structure RejectionInputs (α : Type) where
  numReqs : Nat
  numLogits : Nat
  vocabSize : Nat
  targetLogits : Nat → Nat → α
  draftLogits : Option (Nat → Nat → Nat → α)
  draftSampled : Nat → Int
  cuNumLogits : Nat → Nat
  pos : Nat → Int
  idxMapping : Nat → Nat
  expandedIdxMapping : Nat → Nat
  expandedLocalPos : Nat → Nat
  temperature : Nat → α
  seed : Nat → Int
  numSpeculativeSteps : Nat
  syntheticConditionalRates : Option (Nat → α)

variable {α : Type} [DeviceFloat α]

/-! ## Scalars and blocks -/

def computeBlockMaxAndSumexp (fns : DeviceFns α) (lanes : Nat → α) (size : Nat) : α × α :=
  let blockMax := lanes (argmaxBelow lanes size)
  (blockMax,
    if ⊥ < blockMax then ((List.range size).map fun lane => fns.exp (lanes lane - blockMax)).sum
    else 0)

def computeGlobalLse (fns : DeviceFns α) (localMax localSumexp : Nat → α)
    (vocabNumBlocks padded : Nat) : α :=
  let maxes := fun block => if block < vocabNumBlocks then localMax block else ⊥
  let sumexps := fun block => if block < vocabNumBlocks then localSumexp block else 0
  let globalMax := maxes (argmaxBelow maxes padded)
  globalMax + fns.log
    ((List.range padded).map fun block => sumexps block * fns.exp (maxes block - globalMax)).sum

/-- `target_log_prob > tl.log(u) + draft_log_prob`. -/
def acceptsDraft (fns : DeviceFns α) (u targetLogProb draftLogProb : α) : Bool :=
  decide (fns.log u + draftLogProb < targetLogProb)

def residualLogit (fns : DeviceFns α) (targetLogProb draftLogProb : α) : α :=
  let ratio := fns.exp (draftLogProb - targetLogProb)
  if ratio < 1 then targetLogProb + fns.log (1 - ratio) else ⊥

/-! ## The buffers -/

/-- The statistics of the blocks of the target and draft rows, by logit row and
block. -/
structure BlockStats (α : Type) where
  targetLocalArgmax : Buffer (Nat × Nat) Nat
  targetLocalMax : Buffer (Nat × Nat) α
  targetLocalSumexp : Buffer (Nat × Nat) α
  draftLocalMax : Buffer (Nat × Nat) α
  draftLocalSumexp : Buffer (Nat × Nat) α

/-- What one program of `_compute_block_stats_kernel` stores at its own row and
block. -/
structure BlockStatsStores (α : Type) where
  targetLocalArgmax : Option Nat := none
  targetLocalMax : Option α := none
  targetLocalSumexp : Option α := none
  draftLocalMax : Option α := none
  draftLocalSumexp : Option α := none

/-- What `_rejection_kernel` leaves for the resampling, by request. -/
structure Rejections (α : Type) where
  sampled : Buffer (Nat × Nat) Int
  rejectedSteps : Buffer Nat Nat
  targetRejectedLogsumexp : Buffer Nat α
  draftRejectedLogsumexp : Buffer Nat α

structure Resampled (α : Type) where
  localArgmax : Buffer (Nat × Nat) Nat
  localMax : Buffer (Nat × Nat) α

namespace RejectionInputs

variable (fns : DeviceFns α) (inputs : RejectionInputs α)

def vocabNumBlocks : Nat := cdiv inputs.vocabSize vocabBlockSize

def resampleNumBlocks : Nat := cdiv inputs.vocabSize resampleBlockSize

/-! ## The kernels -/

def computeBlockStatsKernel (program : Nat × Nat) : BlockStatsStores α :=
  let logitIdx := program.1
  let blockIdx := program.2
  let draftStepIdx := inputs.expandedLocalPos logitIdx
  if draftStepIdx ≥ inputs.numSpeculativeSteps then {}
  else
    let reqStateIdx := inputs.expandedIdxMapping logitIdx
    let targetLanes := tile (inputs.targetLogits logitIdx) inputs.vocabSize vocabBlockSize blockIdx
    if inputs.temperature reqStateIdx = 0 then
      let idx := argmaxBelow targetLanes vocabBlockSize
      { targetLocalArgmax := blockIdx * vocabBlockSize + idx
        targetLocalMax := targetLanes idx }
    else
      let (targetMax, targetSumexp) := computeBlockMaxAndSumexp fns targetLanes vocabBlockSize
      match inputs.draftLogits with
      | none =>
        { targetLocalMax := targetMax
          targetLocalSumexp := targetSumexp }
      | some draftLogits =>
        let (draftMax, draftSumexp) := computeBlockMaxAndSumexp fns
          (tile (draftLogits reqStateIdx draftStepIdx) inputs.vocabSize vocabBlockSize blockIdx)
          vocabBlockSize
        { targetLocalMax := targetMax
          targetLocalSumexp := targetSumexp
          draftLocalMax := draftMax
          draftLocalSumexp := draftSumexp }

/-- The local variables of `_rejection_kernel`, with its stores to `sampled`. -/
structure RejectionState (α : Type) where
  rejectedStep : Nat
  targetLse : α
  draftLse : α
  accepted : Bool
  stores : List (Store (Nat × Nat) Int)

/-- `target_local_argmax` of the block with the first largest maximum. -/
def targetArgmax (stats : BlockStats α) (logitIdx : Nat) : Nat :=
  let targetLocalMax := fun block =>
    if block < inputs.vocabNumBlocks then stats.targetLocalMax (logitIdx, block) else ⊥
  stats.targetLocalArgmax
    (logitIdx, argmaxBelow targetLocalMax (nextPowerOf2 inputs.vocabNumBlocks))

/-- The body of the loop of `_rejection_kernel` under `if accepted`. -/
def rejectionStep (stats : BlockStats α) (reqIdx i : Nat) (state : RejectionState α) :
    RejectionState α :=
  let reqStateIdx := inputs.idxMapping reqIdx
  let seed := inputs.seed reqStateIdx
  let temp := inputs.temperature reqStateIdx
  let logitIdx := inputs.cuNumLogits reqIdx + i
  let draftSampled := inputs.draftSampled (logitIdx + 1)
  let u := fns.rand64 seed (inputs.pos logitIdx)
  if temp = 0 then
    let targetArgmax : Int := inputs.targetArgmax stats logitIdx
    let accepted := match inputs.syntheticConditionalRates with
      | some rates => decide (u < rates i)
      | none => decide (targetArgmax = draftSampled)
    { state with
      rejectedStep := state.rejectedStep + accepted.toNat
      accepted
      stores := state.stores ++
        [⟨(reqIdx, i), if accepted then draftSampled else targetArgmax⟩] }
  else
    let padded := nextPowerOf2 inputs.vocabNumBlocks
    let targetLse := computeGlobalLse fns (fun block => stats.targetLocalMax (logitIdx, block))
      (fun block => stats.targetLocalSumexp (logitIdx, block)) inputs.vocabNumBlocks padded
    let targetLogProb := inputs.targetLogits logitIdx draftSampled.toNat - targetLse
    let (draftLse, draftLogProb) := match inputs.draftLogits with
      | some draftLogits =>
        let draftLse := computeGlobalLse fns (fun block => stats.draftLocalMax (logitIdx, block))
          (fun block => stats.draftLocalSumexp (logitIdx, block)) inputs.vocabNumBlocks padded
        (draftLse, draftLogits reqStateIdx i draftSampled.toNat - draftLse)
      | none => (state.draftLse, 0)
    let accepted := match inputs.syntheticConditionalRates with
      | some rates => decide (u < rates i)
      | none => acceptsDraft fns u targetLogProb draftLogProb
    { rejectedStep := state.rejectedStep + accepted.toNat
      targetLse
      draftLse
      accepted
      stores := state.stores ++ [⟨(reqIdx, i), draftSampled⟩] }

/-- The loop of `_rejection_kernel`, from an index on. -/
def rejectionLoop (stats : BlockStats α) (reqIdx : Nat) :
    Nat → Nat → RejectionState α → RejectionState α
  | _, 0, state => state
  | i, count + 1, state =>
    rejectionLoop stats reqIdx (i + 1) count
      (if state.accepted then inputs.rejectionStep fns stats reqIdx i state else state)

/-- `_rejection_kernel` for one request: the local variables at its end. -/
def rejectionKernel (stats : BlockStats α) (reqIdx : Nat) : RejectionState α :=
  let numTokens := inputs.cuNumLogits (reqIdx + 1) - inputs.cuNumLogits reqIdx
  inputs.rejectionLoop fns stats reqIdx 0 (numTokens - 1) ⟨0, 0, 0, true, []⟩

/-- The residual logits of one block of lanes of the rejected or bonus row. -/
def residualLane (rejections : Rejections α) (reqIdx blockIdx lane : Nat) : α :=
  let resampleIdx := rejections.rejectedSteps reqIdx
  let resampleTokenIdx := inputs.cuNumLogits reqIdx + resampleIdx
  let reqStateIdx := inputs.expandedIdxMapping resampleTokenIdx
  let block := blockIdx * resampleBlockSize + lane
  let targetLogit := tile (inputs.targetLogits resampleTokenIdx) inputs.vocabSize resampleBlockSize
    blockIdx lane
  if resampleTokenIdx + 1 = inputs.cuNumLogits (reqIdx + 1) then targetLogit
  else
    match inputs.draftLogits with
    | some draftLogits =>
      let draftLogit := tile (draftLogits reqStateIdx resampleIdx) inputs.vocabSize
        resampleBlockSize blockIdx lane
      residualLogit fns (targetLogit - rejections.targetRejectedLogsumexp reqIdx)
        (draftLogit - rejections.draftRejectedLogsumexp reqIdx)
    | none =>
      if (block : Int) ≠ inputs.draftSampled (resampleTokenIdx + 1) then targetLogit else ⊥

/-- What `gumbel_block_argmax` reads here: the logits are processed already. -/
def gumbelArgs : GumbelArgs α where
  expandedIdxMapping := inputs.expandedIdxMapping
  temperature := inputs.temperature
  seeds := inputs.seed
  pos := inputs.pos
  processedLogits := none
  vocabSize := inputs.vocabSize
  applyTemperature := false

/-- A greedy request whose draft was rejected has its token in `sampled` already. -/
def skipsResampling (rejections : Rejections α) (reqIdx : Nat) : Bool :=
  let resampleTokenIdx := inputs.cuNumLogits reqIdx + rejections.rejectedSteps reqIdx
  decide (inputs.temperature (inputs.expandedIdxMapping resampleTokenIdx) = 0) &&
    decide (resampleTokenIdx + 1 ≠ inputs.cuNumLogits (reqIdx + 1))

/-- `_resample_kernel`: the value and the token of one block. -/
def resampleKernel (rejections : Rejections α) (program : Nat × Nat) : Option (α × Nat) :=
  if inputs.skipsResampling rejections program.1 then none
  else
    let resampleTokenIdx := inputs.cuNumLogits program.1 + rejections.rejectedSteps program.1
    let (value, idx) := inputs.gumbelArgs.blockArgmax fns
      (inputs.residualLane fns rejections program.1 program.2) resampleTokenIdx program.2
      resampleBlockSize
    some (value, program.2 * resampleBlockSize + idx)

def insertResampledKernel (rejections : Rejections α) (resampled : Resampled α) (reqIdx : Nat) :
    List (Store (Nat × Nat) Int) :=
  if inputs.skipsResampling rejections reqIdx then []
  else
    let resampledLocalMax := fun block =>
      if block < inputs.resampleNumBlocks then resampled.localMax (reqIdx, block) else ⊥
    let best := argmaxBelow resampledLocalMax (nextPowerOf2 inputs.resampleNumBlocks)
    [⟨(reqIdx, rejections.rejectedSteps reqIdx), resampled.localArgmax (reqIdx, best)⟩]

/-! ## The run -/

def reqGrid : List Nat := List.range inputs.numReqs

def statsGrid : List (Nat × Nat) := List.range inputs.numLogits ×ˢ List.range inputs.vocabNumBlocks

def resampleGrid : List (Nat × Nat) :=
  List.range inputs.numReqs ×ˢ List.range inputs.resampleNumBlocks

structure StatsLaunched (before after : BlockStats α) : Prop where
  targetLocalArgmax : Launched inputs.statsGrid
    (ownStore fun program => (inputs.computeBlockStatsKernel fns program).targetLocalArgmax)
    before.targetLocalArgmax after.targetLocalArgmax
  targetLocalMax : Launched inputs.statsGrid
    (ownStore fun program => (inputs.computeBlockStatsKernel fns program).targetLocalMax)
    before.targetLocalMax after.targetLocalMax
  targetLocalSumexp : Launched inputs.statsGrid
    (ownStore fun program => (inputs.computeBlockStatsKernel fns program).targetLocalSumexp)
    before.targetLocalSumexp after.targetLocalSumexp
  draftLocalMax : Launched inputs.statsGrid
    (ownStore fun program => (inputs.computeBlockStatsKernel fns program).draftLocalMax)
    before.draftLocalMax after.draftLocalMax
  draftLocalSumexp : Launched inputs.statsGrid
    (ownStore fun program => (inputs.computeBlockStatsKernel fns program).draftLocalSumexp)
    before.draftLocalSumexp after.draftLocalSumexp

structure RejectionLaunched (stats : BlockStats α) (before after : Rejections α) : Prop where
  sampled : Launched inputs.reqGrid
    (fun reqIdx => (inputs.rejectionKernel fns stats reqIdx).stores) before.sampled after.sampled
  rejectedSteps : Launched inputs.reqGrid
    (ownStore fun reqIdx => (inputs.rejectionKernel fns stats reqIdx).rejectedStep)
    before.rejectedSteps after.rejectedSteps
  targetRejectedLogsumexp : Launched inputs.reqGrid
    (ownStore fun reqIdx => (inputs.rejectionKernel fns stats reqIdx).targetLse)
    before.targetRejectedLogsumexp after.targetRejectedLogsumexp
  draftRejectedLogsumexp : Launched inputs.reqGrid
    (ownStore fun reqIdx => (inputs.rejectionKernel fns stats reqIdx).draftLse)
    before.draftRejectedLogsumexp after.draftRejectedLogsumexp

structure ResampleLaunched (rejections : Rejections α) (before after : Resampled α) : Prop where
  localArgmax : Launched inputs.resampleGrid
    (ownStore fun program => (inputs.resampleKernel fns rejections program).map Prod.snd)
    before.localArgmax after.localArgmax
  localMax : Launched inputs.resampleGrid
    (ownStore fun program => (inputs.resampleKernel fns rejections program).map Prod.fst)
    before.localMax after.localMax

/-- A run of `rejection_sample`: fresh buffers with any contents, `sampled` zeroed, the
four launches, and the tensors it returns. -/
structure RejectionSampled (sampled : Buffer (Nat × Nat) Int) (numSampled : Buffer Nat Nat) : Prop where
  run : ∃ (freshStats stats : BlockStats α) (freshRejections rejections : Rejections α)
      (freshResampled resampled : Resampled α),
    inputs.StatsLaunched fns freshStats stats ∧
    freshRejections.sampled = (fun _ => 0) ∧
    inputs.RejectionLaunched fns stats freshRejections rejections ∧
    inputs.ResampleLaunched fns rejections freshResampled resampled ∧
    Launched inputs.reqGrid (inputs.insertResampledKernel rejections resampled)
      rejections.sampled sampled ∧
    Launched inputs.reqGrid (ownStore fun reqIdx => some (rejections.rejectedSteps reqIdx + 1))
      rejections.rejectedSteps numSampled

theorem exists_rejectionSampled :
    ∃ sampled numSampled, inputs.RejectionSampled fns sampled numSampled := by
  obtain ⟨stats, statsLaunched⟩ : ∃ stats, inputs.StatsLaunched fns
      ⟨fun _ => 0, fun _ => 0, fun _ => 0, fun _ => 0, fun _ => 0⟩ stats :=
    ⟨⟨_, _, _, _, _⟩, launched_launch _ _ _, launched_launch _ _ _, launched_launch _ _ _,
      launched_launch _ _ _, launched_launch _ _ _⟩
  obtain ⟨rejections, rejectionLaunched⟩ : ∃ rejections, inputs.RejectionLaunched fns stats
      ⟨fun _ => 0, fun _ => 0, fun _ => 0, fun _ => 0⟩ rejections :=
    ⟨⟨_, _, _, _⟩, launched_launch _ _ _, launched_launch _ _ _, launched_launch _ _ _,
      launched_launch _ _ _⟩
  obtain ⟨resampled, resampleLaunched⟩ : ∃ resampled, inputs.ResampleLaunched fns rejections
      ⟨fun _ => 0, fun _ => 0⟩ resampled :=
    ⟨⟨_, _⟩, launched_launch _ _ _, launched_launch _ _ _⟩
  exact ⟨_, _, _, stats, _, rejections, _, resampled, statsLaunched, rfl, rejectionLaunched,
    resampleLaunched, launched_launch _ _ _, launched_launch _ _ _⟩

end RejectionInputs

end DeepSpark
