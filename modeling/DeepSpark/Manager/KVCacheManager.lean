import DeepSpark.Coordinator.Hybrid
import DeepSpark.Manager.SingleType
import DeepSpark.Scheduler.State

/-!
`KVCacheManager` of `v1/core/kv_cache_manager.py` with the coordinators of
`v1/core/kv_cache_coordinator.py`.

Owns the loops over the managers of the groups, the three ways to look up cached blocks,
and the functions the scheduler calls. Managers are addressed by the index of their group.
-/

namespace DeepSpark

open Lib

/-- The coordinator `get_kv_cache_coordinator` chooses. The unitary one has the block size
of its group, scaled by context parallelism. -/
inductive KVCacheCoordinator where
  | noPrefixCache
  | unitary (blockSize : Nat) (dropEagleBlock : Bool)
  | hybrid (coordinator : HybridKVCacheCoordinator)

structure KVCacheManagerConfig where
  numGroups : Nat
  group : Nat → ManagerConfig
  coordinator : KVCacheCoordinator
  maxModelLen : Nat
  enableCaching : Bool
  watermarkBlocks : Nat := 0
  retentionInterval : Option Nat := none

/-- A KV cache manager: the block pool, the managers of the groups, and the hint that the
last search of the hybrid coordinator left. -/
structure KVCacheManager where
  pool : BlockPool
  managers : Nat → SingleTypeKVCacheManager := fun _ => {}
  numUncachedCommonPrefixTokens : Int := 0

namespace KVCacheManager

def setManager (self : KVCacheManager) (i : Nat) (pool : BlockPool) (manager : SingleTypeKVCacheManager) :
    KVCacheManager :=
  { self with pool := pool, managers := Function.update self.managers i manager }

def collect {α : Type} (body : Nat → BlockPool → SingleTypeKVCacheManager →
      Except PyError (α × BlockPool × SingleTypeKVCacheManager)) :
    List Nat → KVCacheManager → Except PyError (List α × KVCacheManager)
  | [], self => .ok ([], self)
  | i :: rest, self => do
      let (value, pool, manager) ← body i self.pool (self.managers i)
      let (values, self) ← collect body rest (self.setManager i pool manager)
      .ok (value :: values, self)

/-- `for manager in self.single_type_managers`. -/
def forManagers (body : Nat → BlockPool → SingleTypeKVCacheManager →
      Except PyError (BlockPool × SingleTypeKVCacheManager))
    (groups : List Nat) (self : KVCacheManager) : Except PyError KVCacheManager :=
  groups.foldlM (fun self i => do
    let (pool, manager) ← body i self.pool (self.managers i)
    .ok (self.setManager i pool manager)) self

variable (config : KVCacheManagerConfig) (self : KVCacheManager)

abbrev groups (config : KVCacheManagerConfig) : List Nat := List.range config.numGroups

/-! ## The coordinator -/

def numBlocksToAllocate (requestId : ReqId) (numTokens : Int) (newComputedBlocks : Nat → List BlockId)
    (numEncoderTokens : Nat) (totalComputedTokens numTokensMainModel : Int) (applyAdmissionCap : Bool) :
    Except PyError Int :=
  (groups config).foldlM (fun total i => do
    let count ←
      (if (config.group i).isCrossAttention then
        (self.managers i).getNumBlocksToAllocate (config.group i) self.pool requestId numEncoderTokens
          [] 0 numEncoderTokens applyAdmissionCap
      else
        (self.managers i).getNumBlocksToAllocate (config.group i) self.pool requestId numTokens
          (newComputedBlocks i) totalComputedTokens numTokensMainModel applyAdmissionCap)
    .ok (total + count)) 0

def allocateNewComputedBlocks (requestId : ReqId) (newComputedBlocks : Nat → List BlockId)
    (numLocalComputedTokens : Int) (numExternalComputedTokens : Nat) : Except PyError KVCacheManager :=
  self.forManagers (fun i pool manager =>
    manager.allocateNewComputedBlocks (config.group i) pool requestId (newComputedBlocks i)
      numLocalComputedTokens numExternalComputedTokens) (groups config)

def allocateNewBlocks (requestId : ReqId) (numTokens numTokensMainModel : Int) (numEncoderTokens : Nat) :
    Except PyError (List (List BlockId) × KVCacheManager) :=
  collect (fun i pool manager =>
    manager.allocateNewBlocks (config.group i) pool requestId
      (if (config.group i).isCrossAttention then numEncoderTokens else numTokens)
      numTokensMainModel) (groups config) self

/-- `cache_blocks` of the coordinator. A hybrid one caches whole scheduler blocks, and for an EAGLE group the
look-ahead block behind them. -/
def coordinatorCacheBlocks (request : Request) (numComputedTokens : Int) : Except PyError KVCacheManager :=
  match config.coordinator with
  | .hybrid coordinator =>
    if coordinator.disablePrefixCacheForDsv4Dcp then .ok self
    else
      let alignedNumComputedTokens :=
        numComputedTokens / coordinator.schedulerBlockSize * coordinator.schedulerBlockSize
      self.forManagers (fun i pool manager =>
        let numTokensToCache :=
          if (config.group i).useEagle = true ∧ alignedNumComputedTokens > 0 then
            min numComputedTokens (alignedNumComputedTokens + (config.group i).blockSize)
          else alignedNumComputedTokens
        manager.cacheBlocks (config.group i) pool request numTokensToCache config.retentionInterval)
        (groups config)
  | _ =>
    self.forManagers (fun i pool manager =>
      manager.cacheBlocks (config.group i) pool request numComputedTokens config.retentionInterval)
      (groups config)

def removeSkippedBlocks (requestId : ReqId) (totalComputedTokens : Int) : Except PyError KVCacheManager :=
  self.forManagers (fun i pool manager =>
    manager.removeSkippedBlocks (config.group i) pool requestId totalComputedTokens) (groups config)

def findLongestCacheHit (blockHashes : List BlockHash) (maxCacheHitLength : Nat) :
    Except PyError (HybridKVCacheCoordinator.CacheHit × KVCacheManager) :=
  match config.coordinator with
  | .noPrefixCache => .ok (⟨List.replicate config.numGroups [], 0, self.numUncachedCommonPrefixTokens⟩, self)
  | .unitary blockSize dropEagleBlock => do
      let spec := { (config.group 0).spec with blockSize := blockSize }
      let rows ← spec.findLongestCacheHit (.fine blockHashes) [0] self.pool maxCacheHitLength
        dropEagleBlock blockSize
      .ok (⟨[HybridKVCacheCoordinator.groupBlocks self.pool.nullBlock 0 rows], rows.length * blockSize,
        self.numUncachedCommonPrefixTokens⟩, self)
  | .hybrid coordinator => do
      let hit ← coordinator.findLongestCacheHit self.pool blockHashes maxCacheHitLength
      .ok (hit, { self with numUncachedCommonPrefixTokens := hit.numUncachedCommonPrefixTokens })

def findLongestCacheHitPerGroup (coordinator : HybridKVCacheCoordinator) (blockHashes : List BlockHash)
    (maxCacheHitLength : Nat) : Except PyError (List (List BlockId) × Nat) := do
  let rows ← coordinator.attentionGroups.mapM fun group => do
    let hashes ← BlockHashList.atBlockSize blockHashes coordinator.hashBlockSize group.spec.blockSize
    group.spec.findLongestCacheHit hashes group.groupIds self.pool maxCacheHitLength group.useEagle
      coordinator.schedulerBlockSize
  let hitLengths := (coordinator.attentionGroups.zip rows).map fun entry =>
    entry.2.length * entry.1.spec.blockSize
  .ok ((List.range coordinator.numGroups).map
    (HybridKVCacheCoordinator.hitBlocksOf self.pool.nullBlock coordinator.attentionGroups (rows.map some)),
    hitLengths.foldl max 0)

/-! ## The manager -/

def getComputedBlocks (request : Request) : Except PyError (ComputedBlocks × KVCacheManager) :=
  if !config.enableCaching || request.skipReadingPrefixCache then
    .ok (⟨List.replicate config.numGroups [], 0, self.numUncachedCommonPrefixTokens⟩, self)
  else do
    let (hit, self) ← self.findLongestCacheHit config request.blockHashes (request.numTokens - 1)
    .ok (⟨hit.blocks, hit.hitLength, self.numUncachedCommonPrefixTokens⟩, self)

/-- The lookup of `schedule`: with a connector and Mamba layers every group of a hybrid
coordinator is searched on its own. -/
def lookUp (perGroup : Bool) (request : Request) : Except PyError (ComputedBlocks × KVCacheManager) :=
  match config.coordinator with
  | .hybrid coordinator =>
    if perGroup then do
      let (blocks, longest) ← self.findLongestCacheHitPerGroup coordinator request.blockHashes
        (request.numTokens - 1)
      .ok (⟨blocks, longest, self.numUncachedCommonPrefixTokens⟩, self)
    else self.getComputedBlocks config request
  | _ => self.getComputedBlocks config request

def getBlocks (requestId : ReqId) : List (List BlockId) :=
  (groups config).map fun i => (self.managers i).reqToBlocks requestId

/-- `allocate_slots` once the blocks are known to be free: the new blocks of every group. -/
def allocateChecked (request : Request) (args : AllocateArgs) :
    Except PyError (List (List BlockId) × KVCacheManager) := do
  let numLocalComputedTokens := request.numComputedTokens + args.numNewComputedTokens
  let totalComputedTokens :=
    min (numLocalComputedTokens + args.numExternalComputedTokens) (config.maxModelLen : Int)
  let numTokensMainModel := totalComputedTokens + args.numNewTokens
  let numTokensNeedSlot := min (numTokensMainModel + args.numLookaheadTokens) (config.maxModelLen : Int)
  let self ←
    (if args.newComputedBlocks.any (fun blocks => !blocks.isEmpty) || 0 < args.numExternalComputedTokens then
      self.allocateNewComputedBlocks config request.requestId (args.newComputedBlocks.getD · [])
        numLocalComputedTokens args.numExternalComputedTokens
    else .ok self)
  let (newBlocks, self) ← self.allocateNewBlocks config request.requestId numTokensNeedSlot
    numTokensMainModel args.numEncoderTokens
  if !config.enableCaching || args.delayCacheBlocks then .ok (newBlocks, self)
  else do
    let numTokensToCache := min (totalComputedTokens + args.numNewTokens) (request.numTokens : Int)
    let self ← self.coordinatorCacheBlocks config request numTokensToCache
    .ok (newBlocks, self)

def watermarkBlocks (request : Request) (args : AllocateArgs) : Nat :=
  if args.hasScheduledReqs ∧ (request.status = .waiting ∨ request.status = .preempted) then
    config.watermarkBlocks
  else 0

/-- `allocate_slots`: no blocks if there are not enough free ones. The first test asks for
the whole request, the second for the tokens at hand. -/
def allocateSlots (request : Request) (args : AllocateArgs) :
    Except PyError (Option (List (List BlockId)) × KVCacheManager) := do
  if args.numNewTokens = 0 ∧ args.numExternalComputedTokens = 0 then
    .error (.valueError
      "num_new_tokens must be greater than 0 when there are no external computed tokens")
  else
    let numLocalComputedTokens := request.numComputedTokens + args.numNewComputedTokens
    let totalComputedTokens :=
      min (numLocalComputedTokens + args.numExternalComputedTokens) (config.maxModelLen : Int)
    let watermarkBlocks : Int := watermarkBlocks config request args
    let fullNumTokens : Int := min request.numTokens config.maxModelLen
    let fullRequired ←
      (if args.fullSequenceMustFit then
        self.numBlocksToAllocate config request.requestId fullNumTokens (args.newComputedBlocks.getD · [])
          args.numEncoderTokens totalComputedTokens fullNumTokens true
      else .ok 0)
    if args.fullSequenceMustFit && decide (fullRequired + watermarkBlocks > self.pool.getNumFreeBlocks) then
      .ok (none, self)
    else do
      let numTokensMainModel := totalComputedTokens + args.numNewTokens
      let numTokensNeedSlot :=
        min (numTokensMainModel + args.numLookaheadTokens) (config.maxModelLen : Int)
      let self ← self.removeSkippedBlocks config request.requestId totalComputedTokens
      let numBlocks ← self.numBlocksToAllocate config request.requestId numTokensNeedSlot
        (args.newComputedBlocks.getD · []) args.numEncoderTokens
        (numLocalComputedTokens + args.numExternalComputedTokens) numTokensMainModel false
      if numBlocks + watermarkBlocks > self.pool.getNumFreeBlocks - args.reservedBlocks then .ok (none, self)
      else do
        let (newBlocks, self) ← self.allocateChecked config request args
        .ok (some newBlocks, self)

def free (requestId : ReqId) : Except PyError KVCacheManager :=
  self.forManagers (fun i pool manager => manager.free (config.group i) pool requestId) (groups config)

def cacheBlocks (request : Request) (numComputedTokens : Int) : Except PyError KVCacheManager :=
  if config.enableCaching then self.coordinatorCacheBlocks config request numComputedTokens else .ok self

def evictBlocks (blockIds : List BlockId) : Except PyError KVCacheManager := do
  let pool ← self.pool.evictBlocks blockIds
  .ok { self with pool }

def resetPrefixCache : Bool × KVCacheManager :=
  let (successful, pool) := self.pool.resetPrefixCache
  (successful, { self with pool })

def newStepStarts : KVCacheManager :=
  { self with managers := fun i => (self.managers i).newStepStarts }

end KVCacheManager

end DeepSpark
