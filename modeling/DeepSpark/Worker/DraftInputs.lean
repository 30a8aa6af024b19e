import DeepSpark.Lib.PyError
import DeepSpark.Worker.BlockTables

/-!
The draft inputs of the parallel-drafting speculators: `_prepare_dspark_inputs_kernel`
of `v1/worker/gpu/spec_decode/dspark/speculator.py` and `_prepare_dflash_inputs_kernel`
of `v1/worker/gpu/spec_decode/dflash/speculator.py`.

Owns the stores of both kernels, which differ in the query tokens they sample and in
the commit mask, their launches, `set_attn` of the two speculators, and what the
buffers hold after a launch.
-/

namespace DeepSpark

open Lib

/-- What the kernels read: the target batch, the results of its sampling, the input
table of the draft group, and the scalars. -/
structure DraftInputs where
  numReqs : Nat
  targetPositions : Nat → Nat
  targetQueryStartLoc : Nat → Nat
  maxTargetQueryLen : Nat
  idxMapping : Nat → Nat
  lastSampled : Nat → Int
  nextPrefillTokens : Nat → Int
  numSampled : Nat → Nat
  numRejected : Nat → Nat
  blockTable : Buffer Nat Nat
  blockTableStride : Nat
  parallelDraftingTokenId : Int
  blockSize : Nat
  numQueryPerReq : Nat
  numSpeculativeSteps : Nat
  maxNumReqs : Nat
  maxNumTokens : Nat

structure DraftStores where
  inputIds : List (Store Nat Int)
  queryPositions : List (Store Nat Nat)
  queryStartLoc : List (Store Nat Nat)
  seqLens : List (Store Nat Nat)
  querySlotMapping : List (Store Nat Int)
  contextPositions : List (Store Nat Nat)
  contextSlotMapping : List (Store Nat Int)
  contextCommitMask : List (Store Nat Bool)
  sampleIndices : List (Store Nat Nat)
  samplePos : List (Store Nat Nat)
  sampleIdxMapping : List (Store Nat Nat)

structure DraftBuffers where
  inputIds : Buffer Nat Int
  queryPositions : Buffer Nat Nat
  queryStartLoc : Buffer Nat Nat
  seqLens : Buffer Nat Nat
  querySlotMapping : Buffer Nat Int
  contextPositions : Buffer Nat Nat
  contextSlotMapping : Buffer Nat Int
  contextCommitMask : Buffer Nat Bool
  sampleIndices : Buffer Nat Nat
  samplePos : Buffer Nat Nat
  sampleIdxMapping : Buffer Nat Nat

namespace DraftInputs

variable (inputs : DraftInputs)

def numCtx (reqIdx : Nat) : Nat :=
  inputs.targetQueryStartLoc (reqIdx + 1) - inputs.targetQueryStartLoc reqIdx

/-- `last_valid_pos`: the position of the last token of a request that was not
rejected. -/
def lastValidPos (reqIdx : Nat) : Nat :=
  inputs.targetPositions (inputs.targetQueryStartLoc (reqIdx + 1) - inputs.numRejected reqIdx - 1)

/-- The slot the kernels give to a position of a request: the column of the block is
clamped to the width of the table. -/
def slot (reqIdx position : Nat) : Int :=
  let blockNum := min (position / inputs.blockSize) (inputs.blockTableStride - 1)
  let blockId := inputs.blockTable (reqIdx * inputs.blockTableStride + blockNum)
  ((blockId * inputs.blockSize + position % inputs.blockSize : Nat) : Int)

/-- `BLOCK_SIZE` of the launch. -/
def tileSize : Nat :=
  min 256 (nextPowerOf2 (max 1 (inputs.maxTargetQueryLen + inputs.numQueryPerReq)))

def contextLanes (reqIdx blockIdx : Nat) : List Nat :=
  (List.range inputs.tileSize).filterMap fun lane =>
    let j := blockIdx * inputs.tileSize + lane
    if j < inputs.numCtx reqIdx then some j else none

def queryLanes (reqIdx blockIdx : Nat) : List Nat :=
  (List.range inputs.tileSize).filterMap fun lane =>
    let j := blockIdx * inputs.tileSize + lane
    if inputs.numCtx reqIdx ≤ j ∧ j < inputs.numCtx reqIdx + inputs.numQueryPerReq then
      some (j - inputs.numCtx reqIdx) else none

/-- The padding stores of the first program of the last request. -/
def padding {α : Type} (program : Nat × Nat) (start stop : Nat) (value : α) : List (Store Nat α) :=
  if program.2 = 0 ∧ program.1 + 1 = inputs.numReqs then
    (blockLoop start stop inputs.tileSize).map fun block => ⟨block, value⟩
  else []

/-- The body of both kernels; the query tokens from `firstSample` on are sampled. -/
def prepareInputsKernel (firstSample : Nat) (program : Nat × Nat) : DraftStores :=
  let reqIdx := program.1
  let reqStateIdx := inputs.idxMapping reqIdx
  let ctxStart := inputs.targetQueryStartLoc reqIdx
  let numCommittedCtx := inputs.numCtx reqIdx - inputs.numRejected reqIdx
  let anchorToken := if inputs.numSampled reqIdx > 0 then inputs.lastSampled reqStateIdx
    else inputs.nextPrefillTokens reqStateIdx
  let lastValidPos := inputs.lastValidPos reqIdx
  let queryBase := reqIdx * inputs.numQueryPerReq
  let contextLanes := inputs.contextLanes reqIdx program.2
  let queryLanes := inputs.queryLanes reqIdx program.2
  let sampleLanes := queryLanes.filter fun queryOff => decide (firstSample ≤ queryOff)
  let sampleIdx := fun queryOff => reqIdx * inputs.numSpeculativeSteps + (queryOff - firstSample)
  let queryPos := fun queryOff => lastValidPos + 1 + queryOff
  let padStart := inputs.numReqs * inputs.numSpeculativeSteps
  let padEnd := inputs.maxNumReqs * inputs.numSpeculativeSteps
  { inputIds := queryLanes.map fun queryOff => ⟨queryBase + queryOff,
      if queryOff = 0 then anchorToken else inputs.parallelDraftingTokenId⟩
    queryPositions := queryLanes.map fun queryOff => ⟨queryBase + queryOff, queryPos queryOff⟩
    queryStartLoc := (if program.2 = 0 then [⟨reqIdx, queryBase⟩] else []) ++
      inputs.padding program inputs.numReqs (inputs.maxNumReqs + 1)
        (inputs.numReqs * inputs.numQueryPerReq)
    seqLens := (if program.2 = 0 then [⟨reqIdx, lastValidPos + 1 + inputs.numQueryPerReq⟩] else []) ++
      inputs.padding program inputs.numReqs inputs.maxNumReqs 0
    querySlotMapping :=
      (queryLanes.map fun queryOff => ⟨queryBase + queryOff, inputs.slot reqIdx (queryPos queryOff)⟩) ++
        inputs.padding program (inputs.numReqs * inputs.numQueryPerReq) inputs.maxNumTokens padSlotId
    contextPositions := contextLanes.map fun j => ⟨ctxStart + j, inputs.targetPositions (ctxStart + j)⟩
    contextSlotMapping := contextLanes.map fun j =>
      ⟨ctxStart + j, inputs.slot reqIdx (inputs.targetPositions (ctxStart + j))⟩
    contextCommitMask := contextLanes.map fun j => ⟨ctxStart + j, decide (j < numCommittedCtx)⟩
    sampleIndices := (sampleLanes.map fun queryOff => ⟨sampleIdx queryOff, queryBase + queryOff⟩) ++
      inputs.padding program padStart padEnd 0
    samplePos := (sampleLanes.map fun queryOff => ⟨sampleIdx queryOff, queryPos queryOff⟩) ++
      inputs.padding program padStart padEnd 0
    sampleIdxMapping := (sampleLanes.map fun queryOff => ⟨sampleIdx queryOff, reqStateIdx⟩) ++
      inputs.padding program padStart padEnd 0 }

/-- `_prepare_dspark_inputs_kernel`: every query token is sampled. -/
def prepareDsparkInputsKernel (program : Nat × Nat) : DraftStores :=
  inputs.prepareInputsKernel 0 program

/-- `_prepare_dflash_inputs_kernel`: the bonus token is not sampled, and no context is
masked. -/
def prepareDflashInputsKernel (program : Nat × Nat) : DraftStores :=
  { inputs.prepareInputsKernel 1 program with contextCommitMask := [] }

def grid : List (Nat × Nat) :=
  List.range inputs.numReqs ×ˢ
    List.range (cdiv (inputs.maxTargetQueryLen + inputs.numQueryPerReq) inputs.tileSize)

structure Prepared (kernel : Nat × Nat → DraftStores) (before after : DraftBuffers) : Prop where
  inputIds : Launched inputs.grid (fun program => (kernel program).inputIds)
    before.inputIds after.inputIds
  queryPositions : Launched inputs.grid (fun program => (kernel program).queryPositions)
    before.queryPositions after.queryPositions
  queryStartLoc : Launched inputs.grid (fun program => (kernel program).queryStartLoc)
    before.queryStartLoc after.queryStartLoc
  seqLens : Launched inputs.grid (fun program => (kernel program).seqLens)
    before.seqLens after.seqLens
  querySlotMapping : Launched inputs.grid (fun program => (kernel program).querySlotMapping)
    before.querySlotMapping after.querySlotMapping
  contextPositions : Launched inputs.grid (fun program => (kernel program).contextPositions)
    before.contextPositions after.contextPositions
  contextSlotMapping : Launched inputs.grid (fun program => (kernel program).contextSlotMapping)
    before.contextSlotMapping after.contextSlotMapping
  contextCommitMask : Launched inputs.grid (fun program => (kernel program).contextCommitMask)
    before.contextCommitMask after.contextCommitMask
  sampleIndices : Launched inputs.grid (fun program => (kernel program).sampleIndices)
    before.sampleIndices after.sampleIndices
  samplePos : Launched inputs.grid (fun program => (kernel program).samplePos)
    before.samplePos after.samplePos
  sampleIdxMapping : Launched inputs.grid (fun program => (kernel program).sampleIdxMapping)
    before.sampleIdxMapping after.sampleIdxMapping

theorem exists_prepared (kernel : Nat × Nat → DraftStores) (before : DraftBuffers) :
    ∃ after, inputs.Prepared kernel before after :=
  ⟨⟨_, _, _, _, _, _, _, _, _, _, _⟩, launched_launch _ _ _, launched_launch _ _ _,
    launched_launch _ _ _, launched_launch _ _ _, launched_launch _ _ _, launched_launch _ _ _,
    launched_launch _ _ _, launched_launch _ _ _, launched_launch _ _ _, launched_launch _ _ _,
    launched_launch _ _ _⟩

/-- How the model runner builds the target batch: the token ranges of the requests follow
each other, and fit the grid. -/
structure WellFormed (inputs : DraftInputs) : Prop where
  ranges : BlockTables.TokenRanges inputs.targetQueryStartLoc inputs.numReqs
  queryLen : ∀ r < inputs.numReqs, inputs.numCtx r ≤ inputs.maxTargetQueryLen

variable {inputs : DraftInputs}

theorem tileSize_pos : 0 < inputs.tileSize := by
  rw [tileSize, Nat.lt_min]
  exact ⟨by omega, Nat.pos_of_ne_zero (by simp [nextPowerOf2])⟩

theorem mem_contextLanes {reqIdx blockIdx j : Nat} :
    j ∈ inputs.contextLanes reqIdx blockIdx ↔
      j < inputs.numCtx reqIdx ∧ j / inputs.tileSize = blockIdx := by
  have positive := inputs.tileSize_pos
  simp only [contextLanes, List.mem_filterMap, List.mem_range, Option.ite_none_right_eq_some,
    Option.some.injEq]
  constructor
  · rintro ⟨lane, below, inContext, rfl⟩
    refine ⟨inContext, ?_⟩
    rw [Nat.mul_comm, Nat.mul_add_div positive, Nat.div_eq_of_lt below, Nat.add_zero]
  · rintro ⟨inContext, rfl⟩
    exact ⟨j % inputs.tileSize, Nat.mod_lt _ positive, by rwa [Nat.div_add_mod'], Nat.div_add_mod' _ _⟩

theorem mem_queryLanes {reqIdx blockIdx queryOff : Nat} :
    queryOff ∈ inputs.queryLanes reqIdx blockIdx ↔ queryOff < inputs.numQueryPerReq ∧
      (inputs.numCtx reqIdx + queryOff) / inputs.tileSize = blockIdx := by
  have positive := inputs.tileSize_pos
  simp only [queryLanes, List.mem_filterMap, List.mem_range, Option.ite_none_right_eq_some,
    Option.some.injEq]
  constructor
  · rintro ⟨lane, below, ⟨aboveContext, inQuery⟩, rfl⟩
    refine ⟨by omega, ?_⟩
    rw [Nat.add_sub_cancel' aboveContext, Nat.mul_comm, Nat.mul_add_div positive,
      Nat.div_eq_of_lt below, Nat.add_zero]
  · rintro ⟨inQuery, rfl⟩
    refine ⟨(inputs.numCtx reqIdx + queryOff) % inputs.tileSize, Nat.mod_lt _ positive, ?_, ?_⟩
    · rw [Nat.div_add_mod']
      omega
    · rw [Nat.div_add_mod', Nat.add_sub_cancel_left]

theorem mem_padding {α : Type} {program : Nat × Nat} {start stop : Nat} {value : α}
    {store : Store Nat α} : store ∈ inputs.padding program start stop value ↔
      (program.2 = 0 ∧ program.1 + 1 = inputs.numReqs) ∧ start ≤ store.address ∧
        store.address < stop ∧ store.value = value := by
  rw [padding]
  split
  next isLast =>
    simp only [List.mem_map, mem_blockLoop tileSize_pos]
    constructor
    · rintro ⟨block, ⟨above, below⟩, rfl⟩
      exact ⟨isLast, above, below, rfl⟩
    · rintro ⟨-, above, below, rfl⟩
      exact ⟨store.address, ⟨above, below⟩, rfl⟩
  next notLast => simp [notLast]

theorem mem_grid (wellFormed : inputs.WellFormed) {r lane : Nat} (inBatch : r < inputs.numReqs)
    (inSpan : lane < inputs.numCtx r + inputs.numQueryPerReq) :
    (r, lane / inputs.tileSize) ∈ inputs.grid := by
  have queryLen := wellFormed.queryLen r inBatch
  apply List.mem_product.mpr ⟨List.mem_range.mpr inBatch, List.mem_range.mpr _⟩
  apply (lt_cdiv_iff tileSize_pos).mpr
  exact (Nat.div_mul_le_self lane inputs.tileSize).trans_lt (by omega)

theorem mem_grid_zero {r : Nat} (inBatch : r < inputs.numReqs) (someQuery : 0 < inputs.numQueryPerReq) :
    (r, 0) ∈ inputs.grid := by
  apply List.mem_product.mpr ⟨List.mem_range.mpr inBatch, List.mem_range.mpr _⟩
  apply (lt_cdiv_iff tileSize_pos).mpr
  omega

section

variable {α : Type} {value : Nat → Nat → α} {width firstQuery stop : Nat} {pad : α}
  {lanes : Nat × Nat → List Nat} {before after : Buffer Nat α}

variable (value firstQuery) in
/-- A buffer with `width` entries for each request, written by its query lanes from
`firstQuery` on and padded behind the last request, holds the values of the lanes. -/
theorem lane_stored (wellFormed : inputs.WellFormed)
    (launched : Launched inputs.grid (fun program => (lanes program).map
      (fun queryOff => (⟨program.1 * width + (queryOff - firstQuery), value program.1 queryOff⟩ : Store Nat α)) ++
        inputs.padding program (inputs.numReqs * width) stop pad) before after)
    (isLane : ∀ program queryOff, queryOff ∈ lanes program ↔ firstQuery ≤ queryOff ∧
      queryOff ∈ inputs.queryLanes program.1 program.2)
    (isWidth : inputs.numQueryPerReq = firstQuery + width) {r i : Nat} (inBatch : r < inputs.numReqs)
    (inWidth : i < width) : after (r * width + i) = value r (firstQuery + i) := by
  set block := (inputs.numCtx r + (firstQuery + i)) / inputs.tileSize with isBlock
  have inGrid : (r, block) ∈ inputs.grid := mem_grid wellFormed inBatch (by omega)
  have stored : (⟨r * width + i, value r (firstQuery + i)⟩ : Store Nat α) ∈ (lanes (r, block)).map
      (fun queryOff => ⟨r * width + (queryOff - firstQuery), value r queryOff⟩) ++
        inputs.padding (r, block) (inputs.numReqs * width) stop pad := by
    apply List.mem_append_left
    apply List.mem_map.mpr
    refine ⟨firstQuery + i, (isLane _ _).mpr ⟨Nat.le_add_right _ _, mem_queryLanes.mpr ⟨by omega, rfl⟩⟩, ?_⟩
    rw [Nat.add_sub_cancel_left]
  apply Launched.agreed launched inGrid stored
  intro other otherInGrid store member address
  rcases List.mem_append.mp member with ofLane | ofPadding
  · obtain ⟨queryOff, inLanes, rfl⟩ := List.mem_map.mp ofLane
    obtain ⟨above, inQuery⟩ := (isLane _ _).mp inLanes
    have below := (mem_queryLanes.mp inQuery).1
    obtain ⟨sameRow, sameOffset⟩ := flat_inj (by omega) inWidth address
    rw [sameRow, show queryOff = firstQuery + i by omega]
  · obtain ⟨-, above, -, -⟩ := mem_padding.mp ofPadding
    have scaled : (r + 1) * width ≤ inputs.numReqs * width := Nat.mul_le_mul_right width inBatch
    rw [Nat.add_mul, Nat.one_mul] at scaled
    have atLeast : inputs.numReqs * width ≤ r * width + i := above.trans_eq address
    omega

variable (value firstQuery) in
theorem padding_stored (someReq : 0 < inputs.numReqs) (someQuery : 0 < inputs.numQueryPerReq)
    (launched : Launched inputs.grid (fun program => (lanes program).map
      (fun queryOff => (⟨program.1 * width + (queryOff - firstQuery), value program.1 queryOff⟩ : Store Nat α)) ++
        inputs.padding program (inputs.numReqs * width) stop pad) before after)
    (isLane : ∀ program queryOff, queryOff ∈ lanes program ↔ firstQuery ≤ queryOff ∧
      queryOff ∈ inputs.queryLanes program.1 program.2)
    (isWidth : inputs.numQueryPerReq = firstQuery + width) {address : Nat}
    (above : inputs.numReqs * width ≤ address) (below : address < stop) : after address = pad := by
  have inGrid : (inputs.numReqs - 1, 0) ∈ inputs.grid := mem_grid_zero (by omega) someQuery
  have stored : (⟨address, pad⟩ : Store Nat α) ∈ (lanes (inputs.numReqs - 1, 0)).map
      (fun queryOff => ⟨(inputs.numReqs - 1) * width + (queryOff - firstQuery),
        value (inputs.numReqs - 1) queryOff⟩) ++
      inputs.padding (inputs.numReqs - 1, 0) (inputs.numReqs * width) stop pad := by
    apply List.mem_append_right
    exact mem_padding.mpr ⟨⟨rfl, Nat.sub_add_cancel someReq⟩, above, below, rfl⟩
  apply Launched.agreed launched inGrid stored
  intro other otherInGrid store member isAddress
  rcases List.mem_append.mp member with ofLane | ofPadding
  · obtain ⟨queryOff, inLanes, rfl⟩ := List.mem_map.mp ofLane
    obtain ⟨atLeast, inQuery⟩ := (isLane _ _).mp inLanes
    have inWidth := (mem_queryLanes.mp inQuery).1
    have otherInBatch : other.1 < inputs.numReqs :=
      List.mem_range.mp (List.mem_product.mp otherInGrid).1
    have scaled : (other.1 + 1) * width ≤ inputs.numReqs * width :=
      Nat.mul_le_mul_right width otherInBatch
    rw [Nat.add_mul, Nat.one_mul] at scaled
    have same : other.1 * width + (queryOff - firstQuery) = address := isAddress
    omega
  · exact (mem_padding.mp ofPadding).2.2.2

end

/-- After a launch, the context slots are those of the positions of the batch. -/
theorem Prepared.contextSlot (firstSample : Nat) {kernel : Nat × Nat → DraftStores}
    (isKernel : ∀ program, (kernel program).contextSlotMapping =
      (inputs.prepareInputsKernel firstSample program).contextSlotMapping)
    {before after : DraftBuffers} (prepared : inputs.Prepared kernel before after)
    (wellFormed : inputs.WellFormed) {r j : Nat} (inBatch : r < inputs.numReqs)
    (inContext : j < inputs.numCtx r) :
    after.contextSlotMapping (inputs.targetQueryStartLoc r + j) =
      inputs.slot r (inputs.targetPositions (inputs.targetQueryStartLoc r + j)) := by
  have launched := prepared.contextSlotMapping
  simp only [isKernel] at launched
  have inGrid : (r, j / inputs.tileSize) ∈ inputs.grid := mem_grid wellFormed inBatch (by omega)
  have stored : (⟨inputs.targetQueryStartLoc r + j,
      inputs.slot r (inputs.targetPositions (inputs.targetQueryStartLoc r + j))⟩ : Store Nat Int) ∈
      (inputs.prepareInputsKernel firstSample (r, j / inputs.tileSize)).contextSlotMapping :=
    List.mem_map.mpr ⟨j, mem_contextLanes.mpr ⟨inContext, rfl⟩, rfl⟩
  apply launched.agreed inGrid stored
  intro other otherInGrid store member address
  have otherInBatch : other.1 < inputs.numReqs := List.mem_range.mp (List.mem_product.mp otherInGrid).1
  obtain ⟨lane, inLanes, rfl⟩ := List.mem_map.mp member
  obtain ⟨inOther, -⟩ := mem_contextLanes.mp inLanes
  have same : inputs.targetQueryStartLoc other.1 + lane = inputs.targetQueryStartLoc r + j := address
  unfold numCtx at inContext inOther
  have sameReq : other.1 = r := wellFormed.ranges.unique otherInBatch inBatch
    (Nat.le_add_right _ lane) (by omega) (by omega) (by omega)
  rw [same, sameReq]

end DraftInputs

/-! ## `set_attn` -/

/-- What `set_attn` of `DSparkSpeculator` keeps. -/
structure DraftGroups where
  draftKvCacheGroupIds : List Nat
  draftBlockSize : Nat
deriving DecidableEq, Repr

def draftGroups (config : TablesConfig) (attnGroups : Nat → Bool) : List Nat :=
  (List.range config.numKvCacheGroups).filter attnGroups

def dsparkSetAttn (config : TablesConfig) (attnGroups : Nat → Bool) : Except PyError DraftGroups :=
  match draftGroups config attnGroups with
  | [] => .error (.runtimeError "DSpark did not find any draft attention KV groups.")
  | first :: rest =>
    let draftBlockSizes := ((first :: rest).map fun gid => (config.group gid).blockSize).dedup
    if draftBlockSizes.length ≠ 1 then
      .error (.runtimeError ("DSpark requires all draft attention KV groups to use the same block size; got " ++
        s!"{draftBlockSizes.mergeSort}."))
    else .ok ⟨first :: rest, (config.group first).blockSize⟩

end DeepSpark
