import DeepSpark.BlockPool.HashMap
import DeepSpark.Request.ExtraKeys

/-!
`BlockPool` of `v1/core/block_pool.py`.

Owns the pool state (per-block metadata, free queue, prefix-cache map, event
queue) and every operation on it, as explicit state passing with the source's
exceptions. Blocks are passed by id. The metrics collector is left out: no
operation reads it.
-/

namespace DeepSpark

open Lib

/-- `KVCacheBlock` without its links, which are kept in the free queue. -/
structure KVCacheBlock where
  refCnt : Int := 0
  blockHash : Option BlockHashWithGroupId := none
  isNull : Bool := false
deriving DecidableEq, Repr

/-- `ExternalBlockHash`: raw bytes, or an integer for older consumers. -/
inductive ExternalBlockHash where
  | bytes (value : BlockHash)
  | int (value : Nat)
deriving DecidableEq, Repr

/-- The events of `distributed/kv_events.py`. The medium is always the GPU. -/
inductive KVCacheEvent where
  | blockStored (blockHashes : List ExternalBlockHash)
      (parentBlockHash : Option ExternalBlockHash) (tokenIds : List TokenId) (blockSize : Nat)
      (loraRequest : Option LoRARequest) (extraKeys : Option (List (Option (List ExtraKey))))
      (groupIdx : Nat)
  | blockRemoved (blockHashes : List ExternalBlockHash) (groupIdx : Nat)
  | allBlocksCleared
deriving DecidableEq, Repr

/-- `BlockPool`. `useIntBlockHashes` is `VLLM_KV_EVENTS_USE_INT_BLOCK_HASHES`. -/
structure BlockPool where
  numGpuBlocks : Nat
  enableCaching : Bool
  hashBlockSize : Nat
  enableKvCacheEvents : Bool
  useIntBlockHashes : Bool
  blocks : BlockId → KVCacheBlock
  freeBlockQueue : FreeKVCacheBlockQueue
  cachedBlockHashToBlock : BlockHashToBlockMap
  nullBlock : BlockId
  kvEventQueue : List KVCacheEvent

namespace BlockPool

def modifyBlock (pool : BlockPool) (block : BlockId) (change : KVCacheBlock → KVCacheBlock) :
    BlockPool :=
  { pool with blocks := Function.update pool.blocks block (change (pool.blocks block)) }

/-- `block.ref_cnt += change`. -/
def addRef (pool : BlockPool) (block : BlockId) (change : Int) : BlockPool :=
  pool.modifyBlock block fun metadata => { metadata with refCnt := metadata.refCnt + change }

def maybeConvertBlockHash (pool : BlockPool) (hashBytes : BlockHash) : ExternalBlockHash :=
  if pool.useIntBlockHashes then .int (Bytes.fromBigEndian hashBytes % 2 ^ 64)
  else .bytes hashBytes

/-- `self.kv_event_queue.append(event)` when events are enabled. -/
def pushEvent (pool : BlockPool) (event : KVCacheEvent) : BlockPool :=
  { pool with
    kvEventQueue :=
      if pool.enableKvCacheEvents then pool.kvEventQueue ++ [event] else pool.kvEventQueue }

/-- `BlockPool.__init__`: block 0 becomes the null block. -/
def init (numGpuBlocks : Nat) (enableCaching : Bool) (hashBlockSize : Nat)
    (enableKvCacheEvents useIntBlockHashes : Bool) : Except PyError BlockPool := do
  pyAssert (numGpuBlocks > 0) ""
  let (nullBlock, queue) ← (FreeKVCacheBlockQueue.init (List.range numGpuBlocks)).popleft
  let pool : BlockPool :=
    { numGpuBlocks, enableCaching, hashBlockSize, enableKvCacheEvents, useIntBlockHashes
      blocks := fun _ => {}
      freeBlockQueue := queue
      cachedBlockHashToBlock := .empty
      nullBlock
      kvEventQueue := [] }
  .ok (pool.modifyBlock nullBlock fun block => { block with isNull := true })

def getNumFreeBlocks (pool : BlockPool) : Int := pool.freeBlockQueue.numFreeBlocks

/-- `get_cached_block`: the first block cached for every group, or none on a
miss of any group. -/
def getCachedBlock (pool : BlockPool) (blockHash : BlockHash) :
    List Nat → Except PyError (Option (List BlockId))
  | [] => .ok (some [])
  | groupId :: rest => do
      let key ← makeBlockHashWithGroupId blockHash groupId
      match ← pool.cachedBlockHashToBlock.getOneBlock key with
      | none => .ok none
      | some block =>
        match ← getCachedBlock pool blockHash rest with
        | none => .ok none
        | some cachedBlocks => .ok (some (block :: cachedBlocks))

/-! ## Caching full blocks -/

/-- A block `cache_full_blocks` leaves alone: null, or masked out. -/
def skips (pool : BlockPool) (block : BlockId) (masked : Option Bool) : Bool :=
  (pool.blocks block).isNull || masked == some false

def setBlockHash (pool : BlockPool) (block : BlockId) (key : BlockHashWithGroupId) : BlockPool :=
  { pool.modifyBlock block fun metadata => { metadata with blockHash := some key } with
    cachedBlockHashToBlock := pool.cachedBlockHashToBlock.insert key block }

/-- The loop of `cache_full_blocks` over `new_full_blocks`, from index `i` on;
returns the hashes that were stored. -/
def cacheLoop (newBlockHashes : List BlockHash) (blockMask : Option (List Bool))
    (kvCacheGroupId : Nat) (pool : BlockPool) :
    Nat → List BlockId → Except PyError (List BlockHash × BlockPool)
  | _, [] => .ok ([], pool)
  | i, block :: rest =>
    if pool.skips block (blockMask.bind fun mask => mask[i]?) then
      cacheLoop newBlockHashes blockMask kvCacheGroupId pool (i + 1) rest
    else do
      pyAssert (pool.blocks block).blockHash.isNone ""
      match newBlockHashes[i]? with
      | none => .error (.indexError "list index out of range")
      | some blockHash =>
        let key ← makeBlockHashWithGroupId blockHash kvCacheGroupId
        let (newHashes, pool) ← cacheLoop newBlockHashes blockMask kvCacheGroupId
          (pool.setBlockHash block key) (i + 1) rest
        .ok (blockHash :: newHashes, pool)

/-- The extra keys of a `BlockStored` event, one entry per stored block. -/
def eventExtraKeys (pool : BlockPool) (request : Request) (blocks : List BlockId)
    (blockMask : Option (List Bool)) (blockSize numCachedBlocks : Nat) :
    List Nat → Int → Except PyError (List (Option (List ExtraKey)))
  | [], _ => .ok []
  | i :: rest, currMmIdx =>
    match blocks[i]? with
    | none => .error (.indexError "list index out of range")
    | some block =>
      if pool.skips block (blockMask.bind fun mask => mask[i - numCachedBlocks]?) then
        eventExtraKeys pool request blocks blockMask blockSize numCachedBlocks rest currMmIdx
      else do
        let (extraKeys, nextMmIdx) ← generateBlockHashExtraKeys request
          (i * blockSize) (i * blockSize + blockSize) currMmIdx
        let others ← eventExtraKeys pool request blocks blockMask blockSize numCachedBlocks
          rest nextMmIdx
        .ok (extraKeys :: others)

def storedEvent (pool : BlockPool) (request : Request) (blocks : List BlockId)
    (blockMask : Option (List Bool)) (blockHashes : BlockHashList) (newHashes : List BlockHash)
    (numCachedBlocks numFullBlocks blockSize kvCacheGroupId : Nat) :
    Except PyError KVCacheEvent := do
  let parentBlockHash ←
    if numCachedBlocks = 0 then .ok none
    else do
      let parent ← blockHashes.getItem (numCachedBlocks - 1)
      .ok (some (pool.maybeConvertBlockHash parent))
  let extraKeysList ← pool.eventExtraKeys request blocks blockMask blockSize numCachedBlocks
    (List.range' numCachedBlocks (numFullBlocks - numCachedBlocks)) 0
  let tokenIds := (request.allTokenIds.take (numFullBlocks * blockSize)).drop
    (numCachedBlocks * blockSize)
  .ok (.blockStored (newHashes.map pool.maybeConvertBlockHash) parentBlockHash tokenIds blockSize
    request.loraRequest (if extraKeysList.isEmpty then none else some extraKeysList)
    kvCacheGroupId)

def cacheFullBlocks (pool : BlockPool) (request : Request) (blocks : List BlockId)
    (numCachedBlocks numFullBlocks blockSize kvCacheGroupId : Nat)
    (blockMask : Option (List Bool)) : Except PyError BlockPool :=
  if numCachedBlocks ≥ numFullBlocks then .ok pool
  else do
    let newFullBlocks := (blocks.take numFullBlocks).drop numCachedBlocks
    pyAssert (request.blockHashes.length ≥ numFullBlocks) ""
    pyAssert (blockMask.all fun mask => mask.length = newFullBlocks.length) ""
    let blockHashes ← BlockHashList.atBlockSize request.blockHashes pool.hashBlockSize blockSize
    let (newHashes, cached) ← cacheLoop (blockHashes.sliceFrom numCachedBlocks) blockMask
      kvCacheGroupId pool 0 newFullBlocks
    if pool.enableKvCacheEvents then do
      let event ← cached.storedEvent request blocks blockMask blockHashes newHashes
        numCachedBlocks numFullBlocks blockSize kvCacheGroupId
      .ok { cached with kvEventQueue := cached.kvEventQueue ++ [event] }
    else .ok cached

/-! ## Allocation, sharing, release -/

def resetHash (pool : BlockPool) (block : BlockId) : BlockPool :=
  pool.modifyBlock block fun metadata => { metadata with blockHash := none }

def maybeEvictCachedBlock (pool : BlockPool) (block : BlockId) : Bool × BlockPool :=
  match (pool.blocks block).blockHash with
  | none => (false, pool)
  | some blockHash =>
    let popped := pool.cachedBlockHashToBlock.pop blockHash block
    let pool := { pool with cachedBlockHashToBlock := popped.2 }
    if popped.1 then
      (true, (pool.resetHash block).pushEvent (.blockRemoved
        [pool.maybeConvertBlockHash (getBlockHash blockHash)] (getGroupId blockHash)))
    else (false, pool)

/-- One round of the loop of `get_new_blocks`. -/
def claimBlock (pool : BlockPool) (block : BlockId) : Except PyError BlockPool := do
  let pool := if pool.enableCaching then (pool.maybeEvictCachedBlock block).2 else pool
  pyAssert ((pool.blocks block).refCnt = 0) ""
  .ok (pool.addRef block 1)

def getNewBlocks (pool : BlockPool) (numBlocks : Int) :
    Except PyError (List BlockId × BlockPool) :=
  if numBlocks > pool.getNumFreeBlocks then
    .error (.valueError s!"Cannot get {numBlocks} free blocks from the pool")
  else do
    let (ret, queue) ← pool.freeBlockQueue.popleftN numBlocks
    let pool ← ret.foldlM claimBlock { pool with freeBlockQueue := queue }
    .ok (ret, pool)

/-- One round of the loop of `touch`. -/
def touchBlock (pool : BlockPool) (block : BlockId) : Except PyError BlockPool := do
  let queue ←
    if (pool.blocks block).refCnt = 0 ∧ (pool.blocks block).isNull = false then
      pool.freeBlockQueue.remove block
    else .ok pool.freeBlockQueue
  .ok { pool.addRef block 1 with freeBlockQueue := queue }

def touch (pool : BlockPool) (blocks : List BlockId) : Except PyError BlockPool :=
  blocks.foldlM touchBlock pool

/-- The first loop of `free_blocks`. -/
def releaseBlocks (pool : BlockPool) (blocks : List BlockId) : BlockPool :=
  blocks.foldl (fun pool block => pool.addRef block (-1)) pool

def freeBlocks (pool : BlockPool) (orderedBlocks : List BlockId) (prepend : Bool) :
    Except PyError BlockPool := do
  let released := pool.releaseBlocks orderedBlocks
  let freedBlocks := orderedBlocks.filter fun block =>
    (released.blocks block).refCnt = 0 && !(released.blocks block).isNull
  let queue ←
    if prepend then released.freeBlockQueue.prependN freedBlocks
    else released.freeBlockQueue.appendN freedBlocks
  .ok { released with freeBlockQueue := queue }

/-- `evict_blocks`; a set of ids is given in its iteration order. -/
def evictBlocks (pool : BlockPool) (blockIds : List BlockId) : Except PyError BlockPool :=
  blockIds.foldlM (fun pool blockId => do
    let total := pool.numGpuBlocks
    pyAssert (blockId < pool.numGpuBlocks)
      (s!"Invalid block_id {blockId} >= {total}. This indicates a bug in the KV connector - " ++
        "workers should only report block IDs that were allocated by the scheduler.")
    .ok (pool.maybeEvictCachedBlock blockId).2) pool

def resetPrefixCache (pool : BlockPool) : Bool × BlockPool :=
  if (pool.numGpuBlocks : Int) - pool.getNumFreeBlocks ≠ 1 then (false, pool)
  else
    (true, pushEvent { pool with
      cachedBlockHashToBlock := .empty
      blocks := fun block => { pool.blocks block with blockHash := none } } .allBlocksCleared)

end BlockPool

end DeepSpark
