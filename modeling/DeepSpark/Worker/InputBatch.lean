import DeepSpark.Worker.BlockTables

/-!
The device side of a step: the kernels of `v1/worker/gpu/input_batch.py` over the
per-slot arrays of `v1/worker/gpu/states.py`.

Owns the arrays, `add_request` on them, the stores of the kernels that assemble a batch
and of those that apply its results, and the run of one step in runner order.
-/

namespace DeepSpark

open Lib

/-- The device arrays of `RequestState`, by slot; `all_token_ids` is addressed by row
stride. -/
structure DeviceStates where
  allTokenIds : Buffer Nat Int
  prefillLen : Buffer Nat Nat
  totalLen : Buffer Nat Nat
  numComputedTokens : Buffer Nat Nat
  lastSampledTokens : Buffer Nat Int
  draftTokens : Nat → Nat → Int
  nextPrefillTokens : Buffer Nat Int

def DeviceStates.addRequest (states : DeviceStates) (maxModelLen reqIdx : Nat) (allTokenIds : List Int)
    (numComputedTokens : Nat) : DeviceStates where
  allTokenIds := states.allTokenIds.write
    ((List.range allTokenIds.length).map fun i => ⟨reqIdx * maxModelLen + i, allTokenIds.getD i 0⟩)
  prefillLen := Function.update states.prefillLen reqIdx allTokenIds.length
  totalLen := Function.update states.totalLen reqIdx allTokenIds.length
  numComputedTokens := Function.update states.numComputedTokens reqIdx numComputedTokens
  lastSampledTokens :=
    if 0 < numComputedTokens ∧ numComputedTokens ≤ allTokenIds.length then
      Function.update states.lastSampledTokens reqIdx (allTokenIds.getD (numComputedTokens - 1) 0)
    else states.lastSampledTokens
  draftTokens := Function.update states.draftTokens reqIdx fun _ => 0
  nextPrefillTokens := states.nextPrefillTokens

structure InputBuffers where
  inputIds : Buffer Nat Int
  positions : Buffer Nat Nat
  seqLens : Buffer Nat Nat
  logitsIndices : Buffer Nat Nat

/-- What the sampler returns, by row: the tokens and their number. -/
structure SamplerResult where
  sampledTokens : Nat → Nat → Int
  numSampled : Nat → Nat

structure BatchLayout where
  maxNumReqs : Nat
  maxModelLen : Nat
  numSpeculativeSteps : Nat
  numReqs : Nat
  idxMapping : Nat → Nat
  queryStartLoc : Nat → Nat
  cuNumLogits : Nat → Nat

namespace BatchLayout

variable (layout : BatchLayout)

def queryLen (batchIdx : Nat) : Nat :=
  layout.queryStartLoc (batchIdx + 1) - layout.queryStartLoc batchIdx

def numLogits (batchIdx : Nat) : Nat :=
  layout.cuNumLogits (batchIdx + 1) - layout.cuNumLogits batchIdx

/-! ## Assembling the batch -/

/-- `_prepare_prefill_inputs_kernel`: its stores to `input_ids`. -/
def prefillInputStores (states : DeviceStates) (batchIdx : Nat) : List (Store Nat Int) :=
  let reqStateIdx := layout.idxMapping batchIdx
  let numComputed := states.numComputedTokens reqStateIdx
  if numComputed ≥ states.prefillLen reqStateIdx then []
  else
    (blockLoop 0 (layout.queryLen batchIdx) 1024).map fun block =>
      ⟨layout.queryStartLoc batchIdx + block,
        states.allTokenIds (reqStateIdx * layout.maxModelLen + numComputed + block)⟩

/-- `_prepare_prefill_inputs_kernel`: its store to `next_prefill_tokens`. -/
def nextPrefillStores (states : DeviceStates) (batchIdx : Nat) : List (Store Nat Int) :=
  let reqStateIdx := layout.idxMapping batchIdx
  let numComputed := states.numComputedTokens reqStateIdx
  if numComputed ≥ states.prefillLen reqStateIdx then []
  else
    let nextPos := numComputed + layout.queryLen batchIdx
    if nextPos < states.prefillLen reqStateIdx then
      [⟨reqStateIdx, states.allTokenIds (reqStateIdx * layout.maxModelLen + nextPos)⟩]
    else []

/-- `_prepare_pos_seq_lens_kernel`: its stores to `pos`. -/
def positionStores (states : DeviceStates) (reqId : Nat) : List (Store Nat Nat) :=
  if reqId = layout.numReqs then []
  else
    (blockLoop 0 (layout.queryLen reqId) 1024).map fun block =>
      ⟨layout.queryStartLoc reqId + block, states.numComputedTokens (layout.idxMapping reqId) + block⟩

def seqLenStores (states : DeviceStates) (reqId : Nat) : List (Store Nat Nat) :=
  if reqId = layout.numReqs then
    (blockLoop layout.numReqs layout.maxNumReqs 1024).map fun block => ⟨block, 0⟩
  else [⟨reqId, states.numComputedTokens (layout.idxMapping reqId) + layout.queryLen reqId⟩]

/-- `BLOCK_SIZE` of `_combine_sampled_and_draft_tokens_kernel`. -/
def combineBlockSize : Nat := nextPowerOf2 (layout.numSpeculativeSteps + 1)

/-- `_combine_sampled_and_draft_tokens_kernel`: its stores to `logits_indices`. -/
def logitsIndexStores (batchIdx : Nat) : List (Store Nat Nat) :=
  let queryEnd := layout.queryStartLoc (batchIdx + 1)
  let logitsStart := queryEnd - layout.numLogits batchIdx
  (List.range layout.combineBlockSize).filterMap fun block =>
    if block < layout.numLogits batchIdx then
      some ⟨layout.cuNumLogits batchIdx + block, logitsStart + block⟩
    else none

/-- `_combine_sampled_and_draft_tokens_kernel` with one new token a step: its stores to
`input_ids`. -/
def combineStores (states : DeviceStates) (seqLens : Buffer Nat Nat) (batchIdx : Nat) :
    List (Store Nat Int) :=
  let reqStateIdx := layout.idxMapping batchIdx
  let numLogits := layout.numLogits batchIdx
  let numDraftTokens := numLogits - 1
  let queryEnd := layout.queryStartLoc (batchIdx + 1)
  if seqLens batchIdx ≤ states.prefillLen reqStateIdx then []
  else
    ⟨queryEnd - numLogits, states.lastSampledTokens reqStateIdx⟩ ::
      (List.range layout.combineBlockSize).filterMap fun block =>
        if block < numDraftTokens then
          some ⟨queryEnd - numDraftTokens + block, states.draftTokens reqStateIdx block⟩
        else none

structure Assembled (states : DeviceStates) (before after : InputBuffers) (nextPrefillTokens : Buffer Nat Int) :
    Prop where
  inputIds : ∃ prefilled,
    Launched (List.range layout.numReqs) (layout.prefillInputStores states) before.inputIds prefilled ∧
    Launched (List.range layout.numReqs) (layout.combineStores states after.seqLens) prefilled after.inputIds
  nextPrefillTokens : Launched (List.range layout.numReqs) (layout.nextPrefillStores states)
    states.nextPrefillTokens nextPrefillTokens
  positions : Launched (List.range (layout.numReqs + 1)) (layout.positionStores states)
    before.positions after.positions
  seqLens : Launched (List.range (layout.numReqs + 1)) (layout.seqLenStores states)
    before.seqLens after.seqLens
  logitsIndices : Launched (List.range layout.numReqs) layout.logitsIndexStores
    before.logitsIndices after.logitsIndices

/-! ## Applying the results -/

/-- `_get_num_sampled_and_rejected_kernel`: the number of sampled tokens of a row. -/
def numSampled (states : DeviceStates) (seqLens : Buffer Nat Nat) (result : SamplerResult) (batchIdx : Nat) :
    Nat :=
  if seqLens batchIdx < states.prefillLen (layout.idxMapping batchIdx) then 0
  else result.numSampled batchIdx

/-- `_get_num_sampled_and_rejected_kernel`: the number of rejected tokens of a row. -/
def numRejected (states : DeviceStates) (seqLens : Buffer Nat Nat) (result : SamplerResult) (batchIdx : Nat) :
    Nat :=
  if seqLens batchIdx < states.prefillLen (layout.idxMapping batchIdx) then 0
  else layout.numLogits batchIdx - layout.numSampled states seqLens result batchIdx

/-- `_post_update_kernel`: its stores to `last_sampled_tokens`. -/
def lastSampledStores (result : SamplerResult) (numSampled : Nat → Nat) (reqId : Nat) :
    List (Store Nat Int) :=
  if numSampled reqId > 0 then
    [⟨layout.idxMapping reqId, result.sampledTokens reqId (numSampled reqId - 1)⟩]
  else []

def totalLenStores (states : DeviceStates) (numSampled : Nat → Nat) (reqId : Nat) : List (Store Nat Nat) :=
  if numSampled reqId > 0 then
    [⟨layout.idxMapping reqId, states.totalLen (layout.idxMapping reqId) + numSampled reqId⟩]
  else []

/-- `_post_update_kernel`: its stores to `all_token_ids`. -/
def tokenIdStores (states : DeviceStates) (result : SamplerResult) (numSampled : Nat → Nat) (reqId : Nat) :
    List (Store Nat Int) :=
  let reqStateIdx := layout.idxMapping reqId
  (List.range (numSampled reqId)).map fun i =>
    ⟨reqStateIdx * layout.maxModelLen + states.totalLen reqStateIdx + i, result.sampledTokens reqId i⟩

/-- `_post_update_kernel`: its stores to `num_computed_tokens`. -/
def numComputedStores (states : DeviceStates) (numRejected : Nat → Nat) (reqId : Nat) : List (Store Nat Nat) :=
  let computedDelta := layout.queryLen reqId - numRejected reqId
  if computedDelta ≠ 0 then
    [⟨layout.idxMapping reqId, states.numComputedTokens (layout.idxMapping reqId) + computedDelta⟩]
  else []

structure PostUpdated (states : DeviceStates) (seqLens : Buffer Nat Nat) (result : SamplerResult)
    (nextPrefillTokens : Buffer Nat Int) (after : DeviceStates) : Prop where
  allTokenIds : Launched (List.range layout.numReqs)
    (layout.tokenIdStores states result (layout.numSampled states seqLens result))
    states.allTokenIds after.allTokenIds
  prefillLen : after.prefillLen = states.prefillLen
  totalLen : Launched (List.range layout.numReqs)
    (layout.totalLenStores states (layout.numSampled states seqLens result)) states.totalLen after.totalLen
  numComputedTokens : Launched (List.range layout.numReqs)
    (layout.numComputedStores states (layout.numRejected states seqLens result))
    states.numComputedTokens after.numComputedTokens
  lastSampledTokens : Launched (List.range layout.numReqs)
    (layout.lastSampledStores result (layout.numSampled states seqLens result))
    states.lastSampledTokens after.lastSampledTokens
  draftTokens : after.draftTokens = states.draftTokens
  nextPrefillTokens : after.nextPrefillTokens = nextPrefillTokens

/-- One step of the runner: the batch is assembled, sampled and applied. -/
structure Stepped (states : DeviceStates) (before buffers : InputBuffers) (result : SamplerResult)
    (after : DeviceStates) : Prop where
  run : ∃ nextPrefillTokens, layout.Assembled states before buffers nextPrefillTokens ∧
    layout.PostUpdated states buffers.seqLens result nextPrefillTokens after

theorem exists_assembled (states : DeviceStates) (before : InputBuffers) :
    ∃ buffers nextPrefillTokens, layout.Assembled states before buffers nextPrefillTokens := by
  obtain ⟨prefilled, isPrefilled⟩ : ∃ prefilled, Launched (List.range layout.numReqs)
      (layout.prefillInputStores states) before.inputIds prefilled := ⟨_, launched_launch _ _ _⟩
  obtain ⟨nextTokens, areNext⟩ : ∃ nextTokens, Launched (List.range layout.numReqs)
      (layout.nextPrefillStores states) states.nextPrefillTokens nextTokens := ⟨_, launched_launch _ _ _⟩
  obtain ⟨positions, arePositions⟩ : ∃ positions, Launched (List.range (layout.numReqs + 1))
      (layout.positionStores states) before.positions positions := ⟨_, launched_launch _ _ _⟩
  obtain ⟨seqLens, areSeqLens⟩ : ∃ seqLens, Launched (List.range (layout.numReqs + 1))
      (layout.seqLenStores states) before.seqLens seqLens := ⟨_, launched_launch _ _ _⟩
  obtain ⟨logitsIndices, areIndices⟩ : ∃ logitsIndices, Launched (List.range layout.numReqs)
      layout.logitsIndexStores before.logitsIndices logitsIndices := ⟨_, launched_launch _ _ _⟩
  obtain ⟨inputIds, areInputs⟩ : ∃ inputIds, Launched (List.range layout.numReqs)
      (layout.combineStores states seqLens) prefilled inputIds := ⟨_, launched_launch _ _ _⟩
  exact ⟨⟨inputIds, positions, seqLens, logitsIndices⟩, nextTokens,
    ⟨prefilled, isPrefilled, areInputs⟩, areNext, arePositions, areSeqLens, areIndices⟩

theorem exists_postUpdated (states : DeviceStates) (seqLens : Buffer Nat Nat) (result : SamplerResult)
    (nextPrefillTokens : Buffer Nat Int) :
    ∃ after, layout.PostUpdated states seqLens result nextPrefillTokens after := by
  obtain ⟨tokenIds, areTokenIds⟩ : ∃ tokenIds, Launched (List.range layout.numReqs)
      (layout.tokenIdStores states result (layout.numSampled states seqLens result)) states.allTokenIds tokenIds :=
    ⟨_, launched_launch _ _ _⟩
  obtain ⟨totalLen, areTotals⟩ : ∃ totalLen, Launched (List.range layout.numReqs)
      (layout.totalLenStores states (layout.numSampled states seqLens result)) states.totalLen totalLen :=
    ⟨_, launched_launch _ _ _⟩
  obtain ⟨numComputed, areComputed⟩ : ∃ numComputed, Launched (List.range layout.numReqs)
      (layout.numComputedStores states (layout.numRejected states seqLens result))
      states.numComputedTokens numComputed := ⟨_, launched_launch _ _ _⟩
  obtain ⟨lastSampled, areLast⟩ : ∃ lastSampled, Launched (List.range layout.numReqs)
      (layout.lastSampledStores result (layout.numSampled states seqLens result))
      states.lastSampledTokens lastSampled := ⟨_, launched_launch _ _ _⟩
  exact ⟨⟨tokenIds, states.prefillLen, totalLen, numComputed, lastSampled, states.draftTokens, nextPrefillTokens⟩,
    areTokenIds, rfl, areTotals, areComputed, areLast, rfl, rfl⟩

theorem exists_stepped (states : DeviceStates) (before : InputBuffers) (result : SamplerResult) :
    ∃ buffers after, layout.Stepped states before buffers result after := by
  obtain ⟨buffers, nextTokens, assembled⟩ := layout.exists_assembled states before
  obtain ⟨after, updated⟩ := layout.exists_postUpdated states buffers.seqLens result nextTokens
  exact ⟨buffers, after, ⟨nextTokens, assembled, updated⟩⟩

/-! ## The rows of a batch -/

/-- A batch as the runner lays it out: its requests have slots of their own, and the rows
that are sampled are among their tokens. -/
structure WellFormed : Prop where
  distinct : ∀ row < layout.numReqs, ∀ other < layout.numReqs,
    layout.idxMapping row = layout.idxMapping other → row = other
  tokens : BlockTables.TokenRanges layout.queryStartLoc layout.numReqs
  logits : BlockTables.TokenRanges layout.cuNumLogits layout.numReqs
  sampled : ∀ row < layout.numReqs, 1 ≤ layout.numLogits row ∧ layout.numLogits row ≤ layout.queryLen row

def Fits (states : DeviceStates) (numSampled : Nat → Nat) : Prop :=
  ∀ row < layout.numReqs,
    states.totalLen (layout.idxMapping row) + numSampled row ≤ layout.maxModelLen

def ownsToken (row token : Nat) : Prop :=
  row < layout.numReqs ∧ layout.queryStartLoc row ≤ token ∧ token < layout.queryStartLoc (row + 1)

def ownsLogit (row index : Nat) : Prop :=
  row < layout.numReqs ∧ layout.cuNumLogits row ≤ index ∧ index < layout.cuNumLogits (row + 1)

def ownsSlot (row slot : Nat) : Prop :=
  row < layout.numReqs ∧ layout.idxMapping row = slot

def ownsTokenId (row address : Nat) : Prop :=
  row < layout.numReqs ∧ ∃ column < layout.maxModelLen, layout.idxMapping row * layout.maxModelLen + column = address

variable {layout} {states : DeviceStates} {before buffers : InputBuffers} {result : SamplerResult}
  {nextPrefillTokens : Buffer Nat Int} {after : DeviceStates} {row : Nat}

theorem WellFormed.queryEnd (wellFormed : layout.WellFormed) (inBatch : row < layout.numReqs) :
    layout.queryStartLoc (row + 1) = layout.queryStartLoc row + layout.queryLen row := by
  have mono := wellFormed.tokens.mono row inBatch
  rw [queryLen]
  omega

theorem WellFormed.logitsEnd (wellFormed : layout.WellFormed) (inBatch : row < layout.numReqs) :
    layout.cuNumLogits (row + 1) = layout.cuNumLogits row + layout.numLogits row := by
  have mono := wellFormed.logits.mono row inBatch
  rw [numLogits]
  omega

theorem WellFormed.tokenUnique (wellFormed : layout.WellFormed) {other token : Nat}
    (own : layout.ownsToken row token) (otherOwn : layout.ownsToken other token) : row = other :=
  wellFormed.tokens.unique own.1 otherOwn.1 own.2.1 own.2.2 otherOwn.2.1 otherOwn.2.2

theorem WellFormed.ownedPositions (wellFormed : layout.WellFormed) :
    Owned (List.range (layout.numReqs + 1)) (layout.positionStores states) layout.ownsToken where
  stored := by
    intro program inGrid store member
    rw [positionStores] at member
    split at member
    next => cases member
    next notLast =>
      have inBatch : program < layout.numReqs := by
        have below := List.mem_range.mp inGrid
        omega
      obtain ⟨block, inLoop, rfl⟩ := List.mem_map.mp member
      have queryEnd := wellFormed.queryEnd inBatch
      obtain ⟨-, below⟩ := (mem_blockLoop (by omega)).mp inLoop
      refine ⟨inBatch, Nat.le_add_right _ _, ?_⟩
      rw [queryEnd]
      exact Nat.add_lt_add_left below _
  unique _ _ _ _ _ := wellFormed.tokenUnique

theorem Assembled.position (assembled : layout.Assembled states before buffers nextPrefillTokens)
    (wellFormed : layout.WellFormed) (inBatch : row < layout.numReqs) {offset : Nat}
    (below : offset < layout.queryLen row) :
    buffers.positions (layout.queryStartLoc row + offset) =
      states.numComputedTokens (layout.idxMapping row) + offset := by
  have member : (⟨layout.queryStartLoc row + offset, states.numComputedTokens (layout.idxMapping row) + offset⟩ :
      Store Nat Nat) ∈ layout.positionStores states row := by
    rw [positionStores, if_neg inBatch.ne]
    exact List.mem_map.mpr ⟨offset, (mem_blockLoop (by omega)).mpr ⟨Nat.zero_le _, below⟩, rfl⟩
  apply assembled.positions.holds wellFormed.ownedPositions (List.mem_range.mpr (by omega)) member
  intro other stored same
  rw [positionStores, if_neg inBatch.ne] at stored
  obtain ⟨block, -, rfl⟩ := List.mem_map.mp stored
  rw [Nat.add_left_cancel same]

theorem ownedSeqLens : Owned (List.range (layout.numReqs + 1)) (layout.seqLenStores states)
    (fun row address => min address layout.numReqs = row) where
  stored := by
    intro program inGrid store member
    rw [seqLenStores] at member
    split at member
    next isLast =>
      obtain ⟨block, inLoop, rfl⟩ := List.mem_map.mp member
      obtain ⟨above, -⟩ := (mem_blockLoop (by omega)).mp inLoop
      rw [isLast]
      exact min_eq_right above
    next notLast =>
      rw [List.mem_singleton.mp member]
      exact min_eq_left (Nat.lt_succ_iff.mp (List.mem_range.mp inGrid))
  unique := by
    rintro program - other - address own otherOwn
    exact own.symm.trans otherOwn

theorem Assembled.seqLen (assembled : layout.Assembled states before buffers nextPrefillTokens)
    (inBatch : row < layout.numReqs) :
    buffers.seqLens row = states.numComputedTokens (layout.idxMapping row) + layout.queryLen row := by
  have member : (⟨row, states.numComputedTokens (layout.idxMapping row) + layout.queryLen row⟩ : Store Nat Nat) ∈
      layout.seqLenStores states row := by
    rw [seqLenStores, if_neg inBatch.ne]
    exact List.mem_singleton_self _
  apply assembled.seqLens.holds ownedSeqLens (List.mem_range.mpr (by omega)) member
  intro other stored same
  rw [seqLenStores, if_neg inBatch.ne] at stored
  rw [List.mem_singleton.mp stored]

theorem WellFormed.ownedLogits (wellFormed : layout.WellFormed) :
    Owned (List.range layout.numReqs) layout.logitsIndexStores layout.ownsLogit where
  stored := by
    intro program inGrid store member
    have inBatch := List.mem_range.mp inGrid
    obtain ⟨block, -, found⟩ := List.mem_filterMap.mp member
    have logitsEnd := wellFormed.logitsEnd inBatch
    split at found
    next below =>
      cases found
      refine ⟨inBatch, Nat.le_add_right _ _, ?_⟩
      rw [logitsEnd]
      exact Nat.add_lt_add_left below _
    next => cases found
  unique := by
    rintro program - other - index ⟨inBatch, above, below⟩ ⟨otherInBatch, otherAbove, otherBelow⟩
    exact wellFormed.logits.unique inBatch otherInBatch above below otherAbove otherBelow

theorem Assembled.logitsIndex (assembled : layout.Assembled states before buffers nextPrefillTokens)
    (wellFormed : layout.WellFormed) (inBatch : row < layout.numReqs)
    (bounded : layout.numLogits row ≤ layout.numSpeculativeSteps + 1) {block : Nat}
    (below : block < layout.numLogits row) :
    buffers.logitsIndices (layout.cuNumLogits row + block) =
      layout.queryStartLoc (row + 1) - layout.numLogits row + block := by
  have inBlock : block < layout.combineBlockSize :=
    lt_of_lt_of_le (below.trans_le bounded) (le_nextPowerOf2 _)
  have member : (⟨layout.cuNumLogits row + block, layout.queryStartLoc (row + 1) - layout.numLogits row + block⟩ :
      Store Nat Nat) ∈ layout.logitsIndexStores row := by
    apply List.mem_filterMap.mpr
    exact ⟨block, List.mem_range.mpr inBlock, if_pos below⟩
  apply assembled.logitsIndices.holds wellFormed.ownedLogits (List.mem_range.mpr inBatch) member
  intro other stored same
  obtain ⟨otherBlock, -, found⟩ := List.mem_filterMap.mp stored
  split at found
  next =>
    cases found
    rw [Nat.add_left_cancel same]
  next => cases found

theorem mem_prefillInputStores {store : Store Nat Int} :
    store ∈ layout.prefillInputStores states row ↔
      states.numComputedTokens (layout.idxMapping row) < states.prefillLen (layout.idxMapping row) ∧
        ∃ block < layout.queryLen row, store =
          ⟨layout.queryStartLoc row + block, states.allTokenIds (layout.idxMapping row * layout.maxModelLen +
            states.numComputedTokens (layout.idxMapping row) + block)⟩ := by
  rw [prefillInputStores]
  split
  next complete =>
    constructor
    · intro member
      cases member
    · rintro ⟨below, -⟩
      omega
  next incomplete =>
    simp only [List.mem_map, mem_blockLoop (show 0 < 1024 by omega), Nat.zero_le, true_and]
    constructor
    · rintro ⟨block, below, rfl⟩
      exact ⟨by omega, block, below, rfl⟩
    · rintro ⟨-, block, below, rfl⟩
      exact ⟨block, below, rfl⟩

theorem WellFormed.ownedPrefill (wellFormed : layout.WellFormed) :
    Owned (List.range layout.numReqs) (layout.prefillInputStores states) layout.ownsToken where
  stored := by
    intro program inGrid store member
    have inBatch := List.mem_range.mp inGrid
    obtain ⟨-, block, below, rfl⟩ := mem_prefillInputStores.mp member
    refine ⟨inBatch, Nat.le_add_right _ _, ?_⟩
    rw [wellFormed.queryEnd inBatch]
    exact Nat.add_lt_add_left below _
  unique _ _ _ _ _ := wellFormed.tokenUnique

/-- A row after its prefill takes the last sampled token and the draft tokens. -/
theorem mem_combineStores {seqLens : Buffer Nat Nat} {store : Store Nat Int} :
    store ∈ layout.combineStores states seqLens row ↔
      states.prefillLen (layout.idxMapping row) < seqLens row ∧
        (store = ⟨layout.queryStartLoc (row + 1) - layout.numLogits row,
            states.lastSampledTokens (layout.idxMapping row)⟩ ∨
          ∃ block < layout.numLogits row - 1, block < layout.combineBlockSize ∧ store =
            ⟨layout.queryStartLoc (row + 1) - (layout.numLogits row - 1) + block,
              states.draftTokens (layout.idxMapping row) block⟩) := by
  rw [combineStores]
  split
  next inPrefill =>
    constructor
    · intro member
      cases member
    · rintro ⟨below, -⟩
      omega
  next afterPrefill =>
    rw [List.mem_cons, List.mem_filterMap]
    constructor
    · rintro (rfl | ⟨block, inBlock, found⟩)
      · exact ⟨by omega, Or.inl rfl⟩
      · split at found
        next below =>
          cases found
          exact ⟨by omega, Or.inr ⟨block, below, List.mem_range.mp inBlock, rfl⟩⟩
        next => cases found
    · rintro ⟨-, rfl | ⟨block, below, inBlock, rfl⟩⟩
      · exact Or.inl rfl
      · exact Or.inr ⟨block, List.mem_range.mpr inBlock, if_pos below⟩

theorem WellFormed.ownedCombine (wellFormed : layout.WellFormed) {seqLens : Buffer Nat Nat} :
    Owned (List.range layout.numReqs) (layout.combineStores states seqLens) layout.ownsToken where
  stored := by
    intro program inGrid store member
    have inBatch := List.mem_range.mp inGrid
    have queryEnd := wellFormed.queryEnd inBatch
    obtain ⟨positive, within⟩ := wellFormed.sampled program inBatch
    obtain ⟨-, rfl | ⟨block, below, -, rfl⟩⟩ := mem_combineStores.mp member
    · show layout.ownsToken program (layout.queryStartLoc (program + 1) - layout.numLogits program)
      exact ⟨inBatch, by omega, by omega⟩
    · show layout.ownsToken program
        (layout.queryStartLoc (program + 1) - (layout.numLogits program - 1) + block)
      exact ⟨inBatch, by omega, by omega⟩
  unique _ _ _ _ _ := wellFormed.tokenUnique

section

variable (assembled : layout.Assembled states before buffers nextPrefillTokens)
  (wellFormed : layout.WellFormed) (inBatch : row < layout.numReqs)

include assembled wellFormed inBatch

theorem Assembled.prefillInput
    (within : states.numComputedTokens (layout.idxMapping row) + layout.queryLen row ≤
      states.prefillLen (layout.idxMapping row)) {offset : Nat} (below : offset < layout.queryLen row) :
    buffers.inputIds (layout.queryStartLoc row + offset) = states.allTokenIds
      (layout.idxMapping row * layout.maxModelLen + states.numComputedTokens (layout.idxMapping row) + offset) := by
  obtain ⟨prefilled, isPrefilled, combined⟩ := assembled.inputIds
  have own : layout.ownsToken row (layout.queryStartLoc row + offset) := by
    have queryEnd := wellFormed.queryEnd inBatch
    exact ⟨inBatch, by omega, by omega⟩
  have kept := combined.keeps wellFormed.ownedCombine (List.mem_range.mpr inBatch) own fun store member => by
    have afterPrefill := (mem_combineStores.mp member).1
    rw [assembled.seqLen inBatch] at afterPrefill
    omega
  rw [kept]
  have incomplete : states.numComputedTokens (layout.idxMapping row) <
      states.prefillLen (layout.idxMapping row) := by
    omega
  have member := mem_prefillInputStores.mpr ⟨incomplete, offset, below, rfl⟩
  apply isPrefilled.holds wellFormed.ownedPrefill (List.mem_range.mpr inBatch) member
  intro other stored same
  obtain ⟨-, block, -, rfl⟩ := mem_prefillInputStores.mp stored
  rw [show block = offset from Nat.add_left_cancel same]

theorem Assembled.lastInput (afterPrefill : states.prefillLen (layout.idxMapping row) <
      states.numComputedTokens (layout.idxMapping row) + layout.queryLen row) :
    buffers.inputIds (layout.queryStartLoc (row + 1) - layout.numLogits row) =
      states.lastSampledTokens (layout.idxMapping row) := by
  obtain ⟨prefilled, -, combined⟩ := assembled.inputIds
  rw [← assembled.seqLen inBatch] at afterPrefill
  have member := mem_combineStores.mpr ⟨afterPrefill, Or.inl rfl⟩
  apply combined.holds wellFormed.ownedCombine (List.mem_range.mpr inBatch) member
  intro other stored same
  obtain ⟨-, rfl | ⟨block, -, -, rfl⟩⟩ := mem_combineStores.mp stored
  · rfl
  · have queryEnd := wellFormed.queryEnd inBatch
    obtain ⟨positive, within⟩ := wellFormed.sampled row inBatch
    have sameToken : layout.queryStartLoc (row + 1) - (layout.numLogits row - 1) + block =
      layout.queryStartLoc (row + 1) - layout.numLogits row := same
    omega

theorem Assembled.draftInput (bounded : layout.numLogits row ≤ layout.numSpeculativeSteps + 1)
    (afterPrefill : states.prefillLen (layout.idxMapping row) <
      states.numComputedTokens (layout.idxMapping row) + layout.queryLen row) {block : Nat}
    (below : block < layout.numLogits row - 1) :
    buffers.inputIds (layout.queryStartLoc (row + 1) - (layout.numLogits row - 1) + block) =
      states.draftTokens (layout.idxMapping row) block := by
  obtain ⟨prefilled, -, combined⟩ := assembled.inputIds
  rw [← assembled.seqLen inBatch] at afterPrefill
  have inBlock : block < layout.combineBlockSize :=
    lt_of_lt_of_le (by omega : block < layout.numSpeculativeSteps + 1) (le_nextPowerOf2 _)
  have member := mem_combineStores.mpr ⟨afterPrefill, Or.inr ⟨block, below, inBlock, rfl⟩⟩
  apply combined.holds wellFormed.ownedCombine (List.mem_range.mpr inBatch) member
  intro other stored same
  have queryEnd := wellFormed.queryEnd inBatch
  obtain ⟨positive, within⟩ := wellFormed.sampled row inBatch
  obtain ⟨-, rfl | ⟨otherBlock, -, -, rfl⟩⟩ := mem_combineStores.mp stored
  · have sameToken : layout.queryStartLoc (row + 1) - layout.numLogits row =
      layout.queryStartLoc (row + 1) - (layout.numLogits row - 1) + block := same
    omega
  · rw [show otherBlock = block from Nat.add_left_cancel same]

end

/-! ## The slots after a step -/

theorem WellFormed.slotUnique (wellFormed : layout.WellFormed) {other slot : Nat}
    (own : layout.ownsSlot row slot) (otherOwn : layout.ownsSlot other slot) : row = other :=
  wellFormed.distinct row own.1 other otherOwn.1 (own.2.trans otherOwn.2.symm)

/-- A launch that stores at most one value of each row, in the slot of the row. -/
theorem WellFormed.slotStore {α : Type} (wellFormed : layout.WellFormed) {stores : Nat → List (Store Nat α)}
    {old new : Buffer Nat α} (launched : Launched (List.range layout.numReqs) stores old new)
    {value : Nat → Option α}
    (isStore : ∀ row, stores row = ((value row).map (Store.mk (layout.idxMapping row))).toList)
    (inBatch : row < layout.numReqs) :
    new (layout.idxMapping row) = (value row).getD (old (layout.idxMapping row)) := by
  have owned : Owned (List.range layout.numReqs) stores layout.ownsSlot := by
    refine ⟨?_, fun _ _ _ _ _ => wellFormed.slotUnique⟩
    intro program inGrid store member
    rw [isStore, Option.mem_toList, Option.map_eq_some_iff] at member
    obtain ⟨content, -, rfl⟩ := member
    exact ⟨List.mem_range.mp inGrid, rfl⟩
  cases isValue : value row with
  | none =>
    apply launched.keeps owned (List.mem_range.mpr inBatch) ⟨inBatch, rfl⟩
    intro store member
    rw [isStore, isValue] at member
    cases member
  | some content =>
    have member : (⟨layout.idxMapping row, content⟩ : Store Nat α) ∈ stores row := by
      rw [isStore, isValue]
      exact List.mem_singleton_self _
    apply launched.holds owned (List.mem_range.mpr inBatch) member
    intro other stored _
    rw [isStore, isValue] at stored
    rw [List.mem_singleton.mp stored]

theorem foreignSlot {α : Type} {stores : Nat → List (Store Nat α)} {old new : Buffer Nat α}
    (launched : Launched (List.range layout.numReqs) stores old new) {value : Nat → Option α}
    (isStore : ∀ row, stores row = ((value row).map (Store.mk (layout.idxMapping row))).toList) {slot : Nat}
    (foreign : ∀ row < layout.numReqs, layout.idxMapping row ≠ slot) : new slot = old slot := by
  apply launched.untouched
  intro program inGrid store member same
  rw [isStore, Option.mem_toList, Option.map_eq_some_iff] at member
  obtain ⟨content, -, rfl⟩ := member
  exact foreign program (List.mem_range.mp inGrid) same

variable {numSampled : Nat → Nat}

theorem lastSampledStores_eq (row : Nat) :
    layout.lastSampledStores result numSampled row =
      ((if numSampled row > 0 then some (result.sampledTokens row (numSampled row - 1)) else none).map
        (Store.mk (layout.idxMapping row))).toList := by
  rw [lastSampledStores]
  split <;> rfl

theorem totalLenStores_eq (row : Nat) :
    layout.totalLenStores states numSampled row =
      ((if numSampled row > 0 then some (states.totalLen (layout.idxMapping row) + numSampled row) else none).map
        (Store.mk (layout.idxMapping row))).toList := by
  rw [totalLenStores]
  split <;> rfl

theorem numComputedStores_eq {numRejected : Nat → Nat} (row : Nat) :
    layout.numComputedStores states numRejected row =
      ((if layout.queryLen row - numRejected row ≠ 0 then
          some (states.numComputedTokens (layout.idxMapping row) + (layout.queryLen row - numRejected row))
        else none).map (Store.mk (layout.idxMapping row))).toList := by
  rw [numComputedStores]
  split <;> rfl

section

variable {seqLens : Buffer Nat Nat} (updated : layout.PostUpdated states seqLens result nextPrefillTokens after)
  (wellFormed : layout.WellFormed) (inBatch : row < layout.numReqs)

include updated wellFormed inBatch

theorem PostUpdated.lastSampled (positive : 0 < layout.numSampled states seqLens result row) :
    after.lastSampledTokens (layout.idxMapping row) =
      result.sampledTokens row (layout.numSampled states seqLens result row - 1) := by
  rw [wellFormed.slotStore updated.lastSampledTokens lastSampledStores_eq inBatch, if_pos positive]
  rfl

theorem PostUpdated.total : after.totalLen (layout.idxMapping row) =
    states.totalLen (layout.idxMapping row) + layout.numSampled states seqLens result row := by
  rw [wellFormed.slotStore updated.totalLen totalLenStores_eq inBatch]
  split
  next => rfl
  next none => rw [Nat.eq_zero_of_not_pos none]; rfl

theorem PostUpdated.numComputed : after.numComputedTokens (layout.idxMapping row) =
    states.numComputedTokens (layout.idxMapping row) +
      (layout.queryLen row - layout.numRejected states seqLens result row) := by
  rw [wellFormed.slotStore updated.numComputedTokens numComputedStores_eq inBatch]
  split
  next => rfl
  next none => rw [not_not.mp none]; rfl

end

theorem WellFormed.ownedTokenIds (wellFormed : layout.WellFormed)
    (fits : layout.Fits states numSampled) :
    Owned (List.range layout.numReqs) (layout.tokenIdStores states result numSampled) layout.ownsTokenId where
  stored := by
    intro program inGrid store member
    have inBatch := List.mem_range.mp inGrid
    obtain ⟨i, inRange, rfl⟩ := List.mem_map.mp member
    have below := List.mem_range.mp inRange
    have room := fits program inBatch
    exact ⟨inBatch, states.totalLen (layout.idxMapping program) + i, by omega, (Nat.add_assoc _ _ _).symm⟩
  unique := by
    rintro program - other - address ⟨inBatch, column, inRow, isAddress⟩
      ⟨otherInBatch, otherColumn, otherInRow, rfl⟩
    exact wellFormed.distinct program inBatch other otherInBatch (flat_inj inRow otherInRow isAddress).1

theorem PostUpdated.appended {seqLens : Buffer Nat Nat}
    (updated : layout.PostUpdated states seqLens result nextPrefillTokens after)
    (wellFormed : layout.WellFormed) (fits : layout.Fits states (layout.numSampled states seqLens result))
    (inBatch : row < layout.numReqs) {i : Nat} (below : i < layout.numSampled states seqLens result row) :
    after.allTokenIds (layout.idxMapping row * layout.maxModelLen +
      (states.totalLen (layout.idxMapping row) + i)) = result.sampledTokens row i := by
  have member : (⟨layout.idxMapping row * layout.maxModelLen + states.totalLen (layout.idxMapping row) + i,
      result.sampledTokens row i⟩ : Store Nat Int) ∈
      layout.tokenIdStores states result (layout.numSampled states seqLens result) row :=
    List.mem_map.mpr ⟨i, List.mem_range.mpr below, rfl⟩
  rw [← Nat.add_assoc]
  apply updated.allTokenIds.holds (wellFormed.ownedTokenIds fits) (List.mem_range.mpr inBatch) member
  intro other stored same
  obtain ⟨j, -, rfl⟩ := List.mem_map.mp stored
  rw [show j = i from Nat.add_left_cancel same]

theorem PostUpdated.kept {seqLens : Buffer Nat Nat}
    (updated : layout.PostUpdated states seqLens result nextPrefillTokens after)
    (fits : layout.Fits states (layout.numSampled states seqLens result)) (slot : Nat) {column : Nat}
    (inRow : column < layout.maxModelLen)
    (old : ∀ row < layout.numReqs, layout.idxMapping row = slot → column < states.totalLen slot) :
    after.allTokenIds (slot * layout.maxModelLen + column) =
      states.allTokenIds (slot * layout.maxModelLen + column) := by
  apply updated.allTokenIds.untouched
  intro program inGrid store member same
  have inBatch := List.mem_range.mp inGrid
  obtain ⟨i, inRange, rfl⟩ := List.mem_map.mp member
  have below := List.mem_range.mp inRange
  have room := fits program inBatch
  have sameAddress : layout.idxMapping program * layout.maxModelLen +
      (states.totalLen (layout.idxMapping program) + i) = slot * layout.maxModelLen + column := by
    rw [← Nat.add_assoc]
    exact same
  obtain ⟨isSlot, isColumn⟩ := flat_inj (by omega) inRow sameAddress
  have isOld := old program inBatch isSlot
  rw [← isSlot] at isOld
  omega

section

variable {seqLens : Buffer Nat Nat} (updated : layout.PostUpdated states seqLens result nextPrefillTokens after)
  {slot : Nat} (foreign : ∀ row < layout.numReqs, layout.idxMapping row ≠ slot)

include updated foreign

theorem PostUpdated.foreign_total : after.totalLen slot = states.totalLen slot :=
  foreignSlot updated.totalLen totalLenStores_eq foreign

theorem PostUpdated.foreign_numComputed : after.numComputedTokens slot = states.numComputedTokens slot :=
  foreignSlot updated.numComputedTokens numComputedStores_eq foreign

theorem PostUpdated.foreign_lastSampled : after.lastSampledTokens slot = states.lastSampledTokens slot :=
  foreignSlot updated.lastSampledTokens lastSampledStores_eq foreign

end

end BatchLayout

end DeepSpark
