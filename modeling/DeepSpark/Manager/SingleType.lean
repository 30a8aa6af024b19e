import DeepSpark.Coordinator.Lookup

/-!
The managers of one KV cache group: `v1/core/single_type_kv_cache_manager.py`.

Owns the blocks each request holds in a group and every operation on them, as explicit
state passing over the block pool. The classes are told apart by the kind of their spec
and a flag for cross attention. The block ids kept for zeroing are left out: no operation
here reads them.
-/

namespace DeepSpark

open Lib

/-- `cdiv` of Python integers. -/
def ceilDiv (numerator : Int) (denominator : Nat) : Int := -(-numerator / denominator)

structure ManagerConfig where
  spec : KVCacheSpec
  isCrossAttention : Bool := false
  kvCacheGroupId : Nat
  schedulerBlockSize : Nat
  enableCaching : Bool
  useEagle : Bool := false
  dcpWorldSize : Nat := 1
  pcpWorldSize : Nat := 1
  maxAdmissionBlocksPerRequest : Option Nat := none

/-- `self.block_size`: under context parallelism one local block covers more tokens. -/
def ManagerConfig.blockSize (config : ManagerConfig) : Nat :=
  if 1 < config.dcpWorldSize * config.pcpWorldSize ∧ config.spec.dcpReplicated = false then
    config.spec.blockSize * (config.dcpWorldSize * config.pcpWorldSize)
  else config.spec.blockSize

/-- The attributes of a manager. The last three belong to `MambaManager`. -/
structure SingleTypeKVCacheManager where
  reqToBlocks : ReqId → List BlockId := fun _ => []
  numCachedBlock : ReqId → Option Nat := fun _ => none
  cachedBlocksThisStep : List BlockHashWithGroupId := []
  lastStateBlockIdx : ReqId → Option Nat := fun _ => none
  allocatedBlockReqs : List ReqId := []

namespace SingleTypeKVCacheManager

def setBlocks (self : SingleTypeKVCacheManager) (requestId : ReqId) (blocks : List BlockId) :
    SingleTypeKVCacheManager :=
  { self with reqToBlocks := Function.update self.reqToBlocks requestId blocks }

def setNumCached (self : SingleTypeKVCacheManager) (requestId : ReqId) (numCached : Option Nat) :
    SingleTypeKVCacheManager :=
  { self with numCachedBlock := Function.update self.numCachedBlock requestId numCached }

section

variable (config : ManagerConfig) (pool : BlockPool) (self : SingleTypeKVCacheManager)
  (requestId : ReqId)

/-! ## Counting -/

def getNumEvictableBlocks (blocks : List BlockId) : Nat :=
  blocks.countP fun block => (pool.blocks block).refCnt = 0 && !(pool.blocks block).isNull

def baseNumBlocksToAllocate (numTokens : Int) (newComputedBlocks : List BlockId)
    (totalComputedTokens : Int) (applyAdmissionCap : Bool) : Except PyError Int :=
  let numRequiredBlocks := ceilDiv numTokens config.blockSize
  let numRequiredBlocks :=
    match applyAdmissionCap, config.maxAdmissionBlocksPerRequest with
    | true, some cap => min numRequiredBlocks cap
    | _, _ => numRequiredBlocks
  let numReqBlocks := (self.reqToBlocks requestId).length
  if (self.numCachedBlock requestId).isSome then do
    pyAssert newComputedBlocks.isEmpty ""
    .ok (max (numRequiredBlocks - numReqBlocks) 0)
  else
    let numSkippedTokens := config.spec.kind.getNumSkippedTokens totalComputedTokens
    let numLocalComputedBlocks : Int := (newComputedBlocks.length + numReqBlocks : Nat)
    let numSkippedBlocks := numSkippedTokens / config.blockSize
    let numNewBlocks := max (numRequiredBlocks - max numSkippedBlocks numLocalComputedBlocks) 0
    let numSkippedNewComputedBlocks := max 0 (numSkippedBlocks - numReqBlocks)
    .ok (numNewBlocks + getNumEvictableBlocks pool
      (newComputedBlocks.drop numSkippedNewComputedBlocks.toNat))

/-- Whether a Mamba prefix hit ends in a block that was cached in this step. -/
def hitsBlockOfThisStep (newComputedBlocks : List BlockId) : Bool :=
  match newComputedBlocks.getLast?.bind fun block => (pool.blocks block).blockHash with
  | some blockHash => self.cachedBlocksThisStep.contains blockHash
  | none => false

def getNumBlocksToAllocate (numTokens : Int) (newComputedBlocks : List BlockId)
    (totalComputedTokens numTokensMainModel : Int) (applyAdmissionCap : Bool) : Except PyError Int :=
  match config.spec.kind with
  | .mamba mode numSpeculativeBlocks =>
    if self.hitsBlockOfThisStep pool newComputedBlocks then .ok (pool.numGpuBlocks + 1)
    else
      match mode with
      | .align =>
        let numRequiredBlocks := ceilDiv numTokensMainModel config.blockSize + numSpeculativeBlocks
        let numNewBlocks :=
          numRequiredBlocks - newComputedBlocks.length - (self.reqToBlocks requestId).length
        let numNewBlocks : Int :=
          if numNewBlocks > 0 then
            if requestId ∈ self.allocatedBlockReqs then 1 else 1 + numSpeculativeBlocks
          else numNewBlocks
        .ok (numNewBlocks + getNumEvictableBlocks pool newComputedBlocks)
      | _ => self.baseNumBlocksToAllocate config pool requestId
          (numTokens + (config.spec.blockSize * numSpeculativeBlocks : Nat)) newComputedBlocks
          totalComputedTokens applyAdmissionCap
  | _ => self.baseNumBlocksToAllocate config pool requestId numTokens newComputedBlocks
      totalComputedTokens applyAdmissionCap

/-! ## Allocating -/

def allocateNewComputedBlocks (newComputedBlocks : List BlockId)
    (numLocalComputedTokens : Int) (numExternalComputedTokens : Nat) :
    Except PyError (BlockPool × SingleTypeKVCacheManager) :=
  if config.isCrossAttention then do
    pyAssert newComputedBlocks.isEmpty ""
    .ok (pool, self)
  else if (self.numCachedBlock requestId).isSome then do
    pyAssert newComputedBlocks.isEmpty ""
    .ok (pool, self)
  else do
    pyAssert (self.reqToBlocks requestId).isEmpty ""
    let numTotalComputedTokens := numLocalComputedTokens + numExternalComputedTokens
    let numSkippedTokens := config.spec.kind.getNumSkippedTokens numTotalComputedTokens
    let numSkippedBlocks := (numSkippedTokens / config.blockSize).toNat
    let newComputedBlocks := newComputedBlocks.drop numSkippedBlocks
    let numExternalComputedTokens : Int :=
      if 0 < numSkippedBlocks then
        min (numTotalComputedTokens - numSkippedTokens) numExternalComputedTokens
      else numExternalComputedTokens
    let pool ←
      (if config.enableCaching then pool.touch newComputedBlocks
      else do
        pyAssert newComputedBlocks.isEmpty
          "Computed blocks should be empty when prefix caching is disabled"
        .ok pool)
    let reqBlocks := List.replicate numSkippedBlocks pool.nullBlock ++ newComputedBlocks
    let self := (self.setBlocks requestId reqBlocks).setNumCached requestId (some reqBlocks.length)
    if 0 < numExternalComputedTokens then do
      let (allocatedBlocks, pool) ← pool.getNewBlocks
        (ceilDiv numTotalComputedTokens config.blockSize - reqBlocks.length)
      .ok (pool, self.setBlocks requestId (reqBlocks ++ allocatedBlocks))
    else .ok (pool, self)

def baseNewBlocks (numTokens : Int) :
    Except PyError (List BlockId × BlockPool × SingleTypeKVCacheManager) :=
  let reqBlocks := self.reqToBlocks requestId
  let numNewBlocks := ceilDiv numTokens config.blockSize - reqBlocks.length
  if numNewBlocks ≤ 0 then .ok ([], pool, self)
  else do
    let (newBlocks, pool) ← pool.getNewBlocks numNewBlocks
    .ok (newBlocks, pool, self.setBlocks requestId (reqBlocks ++ newBlocks))

/-- The loop that reuses the speculative blocks of the previous step: a block in front of
the running state moves to the end of the list. -/
def reuseSpeculativeBlocks (nullBlock : BlockId) (numSkippedBlocks : Int) :
    List Nat → List BlockId → List BlockId
  | [], reqBlocks => reqBlocks
  | blockIdx :: rest, reqBlocks =>
    if (blockIdx : Int) < numSkippedBlocks then
      reuseSpeculativeBlocks nullBlock numSkippedBlocks rest
        ((reqBlocks ++ [reqBlocks.getD blockIdx nullBlock]).set blockIdx nullBlock)
    else reqBlocks

/-- `MambaManager.allocate_new_blocks` in mode `align`. A request that was allocated
before has more than `num_speculative_blocks` blocks. -/
def alignNewBlocks (numSpeculativeBlocks : Nat) (numTokensMainModel : Int) :
    Except PyError (List BlockId × BlockPool × SingleTypeKVCacheManager) :=
  let reqBlocks := self.reqToBlocks requestId
  let numRequiredBlocks := ceilDiv numTokensMainModel config.blockSize + numSpeculativeBlocks
  if numRequiredBlocks ≤ reqBlocks.length then .ok ([], pool, self)
  else do
    let prevBlockLen := reqBlocks.length
    let blocksAllocated := requestId ∈ self.allocatedBlockReqs
    let lastStateBlockIdx :=
      if blocksAllocated then some (prevBlockLen - 1 - numSpeculativeBlocks)
      else if 0 < prevBlockLen then some (prevBlockLen - 1)
      else self.lastStateBlockIdx requestId
    let numSkippedBlocks := numRequiredBlocks - numSpeculativeBlocks - 1
    let reqBlocks := reqBlocks ++
      List.replicate (numSkippedBlocks - prevBlockLen).toNat pool.nullBlock
    let reqBlocks :=
      if blocksAllocated then
        reuseSpeculativeBlocks pool.nullBlock numSkippedBlocks
          (List.range' (prevBlockLen - numSpeculativeBlocks) numSpeculativeBlocks) reqBlocks
      else reqBlocks
    let numNewBlocks := numRequiredBlocks - reqBlocks.length
    pyAssert (numNewBlocks ≤ if blocksAllocated then 1 else numSpeculativeBlocks + 1) ""
    let (newBlocks, pool) ← pool.getNewBlocks numNewBlocks
    let reqBlocks := reqBlocks ++ newBlocks
    .ok (reqBlocks.drop prevBlockLen, pool,
      { self.setBlocks requestId reqBlocks with
        lastStateBlockIdx := Function.update self.lastStateBlockIdx requestId lastStateBlockIdx
        allocatedBlockReqs := self.allocatedBlockReqs.insert requestId })

def allocateNewBlocks (numTokens numTokensMainModel : Int) :
    Except PyError (List BlockId × BlockPool × SingleTypeKVCacheManager) :=
  match config.spec.kind with
  | .mamba .align numSpeculativeBlocks =>
    self.alignNewBlocks config pool requestId numSpeculativeBlocks numTokensMainModel
  | .mamba _ numSpeculativeBlocks =>
    self.baseNewBlocks config pool requestId
      (numTokens + (config.blockSize * numSpeculativeBlocks : Nat))
  | _ => self.baseNewBlocks config pool requestId numTokens

/-! ## Caching -/

/-- `SlidingWindowManager.reachable_block_mask`: the blocks a hit at an aligned length
can end in. The other managers cache every block. -/
def reachableBlockMask (startBlock endBlock : Nat) (retentionInterval : Option Nat)
    (numPromptTokens : Nat) : Except PyError (Option (List Bool)) :=
  match config.spec.kind with
  | .slidingWindow slidingWindow => do
      let alignmentTokens := config.schedulerBlockSize
      let blockSize := config.spec.blockSize
      pyAssert (alignmentTokens % blockSize = 0) ""
      let need := contiguousBlocksForHit slidingWindow blockSize config.useEagle
      let shift := if config.useEagle then 1 else 0
      let segmentTokens :=
        match retentionInterval with
        | none => some alignmentTokens
        | some 0 => none
        | some interval => some interval
      if segmentTokens.any fun tokens => decide (tokens / blockSize ≤ need) then .ok none
      else
        let inTail (i : Nat) : Bool := segmentTokens.any fun tokens =>
          let perSegment := tokens / blockSize
          decide (shift ≤ i ∧ perSegment - need ≤ (i - shift) % perSegment)
        let latest := ((numPromptTokens : Int) - 1) / alignmentTokens * alignmentTokens
        let promptEndBlock := latest / blockSize + shift
        let inReplayTail (i : Nat) : Bool :=
          retentionInterval.isSome && decide (promptEndBlock - need ≤ i ∧ (i : Int) < promptEndBlock)
        .ok (some ((List.range' startBlock (endBlock - startBlock)).map fun i =>
          inTail i || inReplayTail i))
  | _ => .ok none

def baseCacheBlocks (request : Request) (numTokens : Int) (retentionInterval : Option Nat) :
    Except PyError (BlockPool × SingleTypeKVCacheManager) :=
  let numCachedBlocks := (self.numCachedBlock request.requestId).getD 0
  let numFullBlocks := (numTokens / config.blockSize).toNat
  if numFullBlocks ≤ numCachedBlocks then .ok (pool, self)
  else do
    let blockMask ← reachableBlockMask config numCachedBlocks numFullBlocks retentionInterval
      request.numPromptTokens
    let pool ← pool.cacheFullBlocks request (self.reqToBlocks request.requestId) numCachedBlocks
      numFullBlocks config.blockSize config.kvCacheGroupId blockMask
    .ok (pool, self.setNumCached request.requestId (some numFullBlocks))

def recordCachedBlocks (pool : BlockPool) : List BlockId → Except PyError (List BlockHashWithGroupId)
  | [] => .ok []
  | block :: rest =>
    if (pool.blocks block).isNull then recordCachedBlocks pool rest
    else
      match (pool.blocks block).blockHash with
      | none => .error (.assertionError "")
      | some blockHash => do
          let hashes ← recordCachedBlocks pool rest
          .ok (blockHash :: hashes)

def cacheBlocks (request : Request) (numTokens : Int) (retentionInterval : Option Nat) :
    Except PyError (BlockPool × SingleTypeKVCacheManager) :=
  if config.isCrossAttention then
    .error (.valueError "Should not be called as prefix caching is disabled.")
  else
    match config.spec.kind with
    | .mamba _ _ => do
        let before := (self.numCachedBlock request.requestId).getD 0
        let (pool, self) ← self.baseCacheBlocks config pool request numTokens retentionInterval
        let after := (self.numCachedBlock request.requestId).getD 0
        let hashes ← recordCachedBlocks pool
          (((self.reqToBlocks request.requestId).take after).drop before)
        .ok (pool, { self with cachedBlocksThisStep := self.cachedBlocksThisStep ++ hashes })
    | _ => self.baseCacheBlocks config pool request numTokens retentionInterval

/-! ## Releasing -/

/-- The loop of `remove_skipped_blocks`, downwards from below an index: the list with null
blocks, and the removed blocks that are cached and that are not. -/
def skipBlocks : Nat → List BlockId → List BlockId × List BlockId × List BlockId
  | 0, blocks => (blocks, [], [])
  | i + 1, blocks =>
    match blocks[i]? with
    | none => (blocks, [], [])
    | some block =>
      if block = pool.nullBlock then (blocks, [], [])
      else
        let (rest, removedCached, removedUncached) := skipBlocks i (blocks.set i pool.nullBlock)
        if (pool.blocks block).blockHash.isNone then
          (rest, removedCached, block :: removedUncached)
        else (rest, block :: removedCached, removedUncached)

def baseRemoveSkippedBlocks (totalComputedTokens : Int) :
    Except PyError (BlockPool × SingleTypeKVCacheManager) :=
  let numSkippedTokens := config.spec.kind.getNumSkippedTokens totalComputedTokens
  if numSkippedTokens ≤ 0 then .ok (pool, self)
  else do
    let reqBlocks := self.reqToBlocks requestId
    let numSkippedBlocks := min (numSkippedTokens / config.blockSize).toNat reqBlocks.length
    let (blocks, removedCached, removedUncached) := skipBlocks pool numSkippedBlocks reqBlocks
    let pool ← pool.freeBlocks removedCached false
    let pool ← pool.freeBlocks removedUncached true
    .ok (pool, self.setBlocks requestId blocks)

/-- The block of the state two steps ago, in mode `align`. -/
def removeLastState (numComputedTokens : Int) : Except PyError (BlockPool × SingleTypeKVCacheManager) :=
  match self.lastStateBlockIdx requestId with
  | none => .ok (pool, self)
  | some lastStateBlockIdx =>
    if (lastStateBlockIdx : Int) < ceilDiv numComputedTokens config.blockSize - 1 then
      let blocks := self.reqToBlocks requestId
      match blocks[lastStateBlockIdx]? with
      | none => .error (.indexError "list index out of range")
      | some block =>
        if block = pool.nullBlock then .ok (pool, self)
        else do
          let pool ← pool.freeBlocks [block] false
          .ok (pool, self.setBlocks requestId (blocks.set lastStateBlockIdx pool.nullBlock))
    else .ok (pool, self)

def removeSkippedBlocks (totalComputedTokens : Int) :
    Except PyError (BlockPool × SingleTypeKVCacheManager) :=
  match config.spec.kind with
  | .mamba mode numSpeculativeBlocks => do
      let numComputedTokens := max 0 (totalComputedTokens - numSpeculativeBlocks)
      let (pool, self) ← self.baseRemoveSkippedBlocks config pool requestId numComputedTokens
      if mode = .align then self.removeLastState config pool requestId numComputedTokens
      else .ok (pool, self)
  | _ => self.baseRemoveSkippedBlocks config pool requestId totalComputedTokens

/-- What `free` forgets of a request. -/
def forget : SingleTypeKVCacheManager :=
  { (self.setBlocks requestId []).setNumCached requestId none with
    lastStateBlockIdx := Function.update self.lastStateBlockIdx requestId none
    allocatedBlockReqs := self.allocatedBlockReqs.filter (· ≠ requestId) }

/-- `free`: a sliding-window manager puts the blocks that are not cached in front of the
free queue. -/
def free : Except PyError (BlockPool × SingleTypeKVCacheManager) := do
  let reqBlocks := (self.reqToBlocks requestId).reverse
  let pool ←
    (match config.spec.kind with
    | .slidingWindow _ => do
        let cached := reqBlocks.filter fun block => (pool.blocks block).blockHash.isSome
        let uncached := reqBlocks.filter fun block => (pool.blocks block).blockHash.isNone
        let pool ← pool.freeBlocks cached false
        pool.freeBlocks uncached true
    | _ => pool.freeBlocks reqBlocks false)
  .ok (pool, self.forget requestId)

end

def newStepStarts (self : SingleTypeKVCacheManager) : SingleTypeKVCacheManager :=
  { self with cachedBlocksThisStep := [] }

end SingleTypeKVCacheManager

end DeepSpark
