import DeepSpark.Coordinator.Lookup

/-!
`HybridKVCacheCoordinator` of `v1/core/kv_cache_coordinator.py`: grouping of KV
cache groups by spec and the fixed-point search for a common cache hit.

Owns the constructor's checks, `verify_and_split_kv_cache_groups` and
`find_longest_cache_hit`. Block lists of one spec group are kept as one list of
rows, as in the lookups, and split by group at the end.
-/

namespace DeepSpark

open Lib

structure KVCacheGroupSpec where
  kvCacheSpec : KVCacheSpec
  isEagleGroup : Bool := false
deriving DecidableEq, Repr

/-- `SpecGroup`: groups that share one spec. The manager class follows from the
kind of the spec. -/
structure SpecGroup where
  spec : KVCacheSpec
  groupIds : List Nat
  useEagle : Bool
deriving DecidableEq, Repr

/-- What the constructor reads. `isDeepseekV4Hybrid` is the value of
`is_deepseek_v4_hybrid_kv_cache_config`. -/
structure HybridConfig where
  kvCacheGroups : List KVCacheGroupSpec
  useEagle : Bool
  enableCaching : Bool
  dcpWorldSize : Nat
  pcpWorldSize : Nat
  schedulerBlockSize : Nat
  hashBlockSize : Nat
  isDeepseekV4Hybrid : Bool
deriving DecidableEq, Repr

structure HybridKVCacheCoordinator where
  numGroups : Nat
  attentionGroups : List SpecGroup
  schedulerBlockSize : Nat
  hashBlockSize : Nat
  disablePrefixCacheForDsv4Dcp : Bool
deriving DecidableEq, Repr

namespace HybridConfig

variable (config : HybridConfig)

/-- `self.eagle_group_ids`, as a test of an index: the flagged groups, or all of
them when EAGLE is in use and none is flagged. -/
def isEagleGroupId (groupId : Nat) : Bool :=
  if config.useEagle && !(config.kvCacheGroups.any fun group => group.isEagleGroup) then true
  else (config.kvCacheGroups[groupId]?.map fun group => group.isEagleGroup).getD false

def disablePrefixCacheForDsv4Dcp : Bool :=
  config.enableCaching && config.dcpWorldSize > 1 && config.pcpWorldSize == 1 &&
    (config.isDeepseekV4Hybrid ||
      config.kvCacheGroups.any fun group => group.kvCacheSpec.dcpReplicated)

/-- One round of the grouping loop: join the group with the same spec, or open
a new one. -/
def addGroup (spec : KVCacheSpec) (groupId : Nat) (useEagle : Bool) :
    List SpecGroup → List SpecGroup
  | [] => [⟨spec, [groupId], useEagle⟩]
  | group :: rest =>
    if group.spec = spec then
      { group with
        groupIds := group.groupIds ++ [groupId]
        useEagle := group.useEagle || useEagle } :: rest
    else group :: addGroup spec groupId useEagle rest

/-- The grouping loop over `enumerate(kv_cache_groups)`, from an index on. -/
def splitGroups : Nat → List KVCacheGroupSpec → List SpecGroup → List SpecGroup
  | _, [], groups => groups
  | groupId, group :: rest, groups =>
    splitGroups (groupId + 1) rest
      (addGroup group.kvCacheSpec groupId (config.isEagleGroupId groupId) groups)

def fullAttentionFirst (groups : List SpecGroup) : List SpecGroup :=
  (groups.filter fun group => group.spec.isFullAttention) ++
    groups.filter fun group => !group.spec.isFullAttention

def attentionGroups : List SpecGroup :=
  fullAttentionFirst (config.splitGroups 0 config.kvCacheGroups [])

end HybridConfig

namespace HybridKVCacheCoordinator

/-- `HybridKVCacheCoordinator.__init__` with the checks of its base class. -/
def init (config : HybridConfig) : Except PyError HybridKVCacheCoordinator := do
  pyAssert (config.schedulerBlockSize % config.hashBlockSize == 0 &&
    config.kvCacheGroups.all fun group =>
      config.schedulerBlockSize % group.kvCacheSpec.blockSize == 0) ""
  pyAssert (config.disablePrefixCacheForDsv4Dcp || config.kvCacheGroups.all fun group =>
    group.kvCacheSpec.blockSize % config.hashBlockSize == 0)
    "block_size must be divisible by hash_block_size"
  pyAssert (config.dcpWorldSize == 1 || config.disablePrefixCacheForDsv4Dcp)
    "DCP not support hybrid attn now."
  pyAssert (config.pcpWorldSize == 1) "PCP not support hybrid attn now."
  pyAssert (config.attentionGroups.length > 1)
    "HybridKVCacheCoordinator requires at least two attention groups."
  .ok { numGroups := config.kvCacheGroups.length
        attentionGroups := config.attentionGroups
        schedulerBlockSize := config.schedulerBlockSize
        hashBlockSize := config.hashBlockSize
        disablePrefixCacheForDsv4Dcp := config.disablePrefixCacheForDsv4Dcp }

/-- The variables of the search that survive from group to group. Rows are
kept by index of the attention group. -/
structure SearchState where
  currHitLength : Nat
  longestHitLength : Nat
  eagleVerified : List Nat
  hitRows : List (Option (List HitRow))
deriving DecidableEq, Repr

section

variable (coordinator : HybridKVCacheCoordinator) (pool : BlockPool)
  (blockHashes : List BlockHash) (maxCacheHitLength : Nat)

/-- The body of the `for` loop over the attention groups. -/
def visitGroup (state : SearchState) (group : SpecGroup) (idx : Nat) :
    Except PyError SearchState := do
  let currHitLength := state.currHitLength
  let blockSize := group.spec.blockSize
  if group.spec.isFullAttention ∧ (state.hitRows[idx]?.join).isSome then
    .ok { state with currHitLength := currHitLength / blockSize * blockSize }
  else
    let dropEagleBlock := group.useEagle && !state.eagleVerified.contains idx
    let maxLength :=
      if dropEagleBlock then min (currHitLength + blockSize) maxCacheHitLength else currHitLength
    let hashes ← BlockHashList.atBlockSize blockHashes coordinator.hashBlockSize blockSize
    let rows ← group.spec.findLongestCacheHit hashes group.groupIds pool maxLength dropEagleBlock
      coordinator.schedulerBlockSize
    let newHitLength := rows.length * blockSize
    let eagleVerified :=
      if dropEagleBlock then idx :: state.eagleVerified
      else if newHitLength < currHitLength then []
      else state.eagleVerified
    .ok { currHitLength := newHitLength
          longestHitLength := max state.longestHitLength newHitLength
          eagleVerified
          hitRows := state.hitRows.set idx (some rows) }

/-- One pass of the `while` loop, from an index on. -/
def visitGroups : Nat → List SpecGroup → SearchState → Except PyError SearchState
  | _, [], state => .ok state
  | idx, group :: rest, state => do
      let state ← coordinator.visitGroup pool blockHashes maxCacheHitLength state group idx
      visitGroups (idx + 1) rest state

/-- The variables before the `while` loop. -/
def initialState : SearchState where
  currHitLength := maxCacheHitLength
  longestHitLength := 0
  eagleVerified := []
  hitRows := List.replicate coordinator.attentionGroups.length none

def isSimpleHybrid : Bool :=
  coordinator.attentionGroups.length == 2 &&
    (coordinator.attentionGroups.head?.map fun group => group.spec.isFullAttention).getD false

/-- The `while` loop. The hit length shrinks in every round but the last, so a
fuel above it is enough. -/
def searchLoop : Nat → Nat → SearchState → Except PyError (Nat × SearchState)
  | 0, _, _ => .error (.runtimeError "hit length did not converge")
  | fuel + 1, hitLength, state => do
      let state ← coordinator.visitGroups pool blockHashes maxCacheHitLength 0
        coordinator.attentionGroups { state with currHitLength := hitLength }
      if state.currHitLength ≥ hitLength then .ok (hitLength, state)
      else if coordinator.isSimpleHybrid then .ok (state.currHitLength, state)
      else searchLoop fuel state.currHitLength state

/-- `del blks[num_blocks:]` on the first group if it is full attention. -/
def truncateFirst (hitLength : Nat) (groups : List SpecGroup)
    (hitRows : List (Option (List HitRow))) : List (Option (List HitRow)) :=
  match groups, hitRows with
  | group :: _, some rows :: rest =>
    if group.spec.isFullAttention then
      some (rows.take (hitLength / group.spec.blockSize)) :: rest
    else some rows :: rest
  | _, hitRows => hitRows

def groupBlocks (nullBlock : BlockId) (position : Nat) (rows : List HitRow) : List BlockId :=
  rows.map fun row => (row.bind fun blocks => blocks[position]?).getD nullBlock

def hitBlocksOf (nullBlock : BlockId) (groups : List SpecGroup)
    (hitRows : List (Option (List HitRow))) (groupId : Nat) : List BlockId :=
  match (groups.zip hitRows).find? fun entry => entry.1.groupIds.contains groupId with
  | some (group, some rows) => groupBlocks nullBlock (group.groupIds.idxOf groupId) rows
  | _ => []

/-- What `find_longest_cache_hit` returns, and the attribute it sets. -/
structure CacheHit where
  blocks : List (List BlockId)
  hitLength : Nat
  numUncachedCommonPrefixTokens : Int
deriving DecidableEq, Repr

def findLongestCacheHit : Except PyError CacheHit :=
  if coordinator.disablePrefixCacheForDsv4Dcp then
    .ok ⟨List.replicate coordinator.numGroups [], 0, 0⟩
  else do
    let (hitLength, state) ← coordinator.searchLoop pool blockHashes maxCacheHitLength
      (maxCacheHitLength + 1) maxCacheHitLength (coordinator.initialState maxCacheHitLength)
    let hitRows := truncateFirst hitLength coordinator.attentionGroups state.hitRows
    .ok { blocks := (List.range coordinator.numGroups).map
            (hitBlocksOf pool.nullBlock coordinator.attentionGroups hitRows)
          hitLength
          numUncachedCommonPrefixTokens := (state.longestHitLength : Int) - hitLength }

end

end HybridKVCacheCoordinator

end DeepSpark
