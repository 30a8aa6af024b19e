import DeepSpark.Coordinator.WindowHits
import DeepSpark.Manager.SingleType

/-!
Which full blocks of a sliding-window group enter the prefix cache, and the hits they leave.

Owns what `cache_blocks` stores over a run of calls, and the comparison of a pool that stores the blocks
`reachable_block_mask` selects with one that stores every full block.
-/

namespace DeepSpark

open Lib SingleTypeKVCacheManager BlockPool BlockHashList

/-! ## What a call stores -/

def BlockPool.Has (pool : BlockPool) (key : BlockHashWithGroupId) : Prop :=
  ∃ block, block ∈ pool.cachedBlockHashToBlock.stored key

def BlockHashList.key (blockHashes : BlockHashList) (groupId index : Nat) :
    Except PyError BlockHashWithGroupId := do
  makeBlockHashWithGroupId (← blockHashes.getItem index) groupId

theorem BlockHashList.getItem_of_sliceFrom {blockHashes : BlockHashList} {start offset : Nat}
    {blockHash : BlockHash} (read : (blockHashes.sliceFrom start)[offset]? = some blockHash) :
    blockHashes.getItem (start + offset) = .ok blockHash := by
  cases blockHashes with
  | fine hashes =>
    rw [sliceFrom, List.getElem?_drop] at read
    simp [getItem, read]
  | coarse hashes =>
    simp only [sliceFrom, List.getElem?_map, Option.map_eq_some_iff] at read
    obtain ⟨index, isIndex, value⟩ := read
    obtain ⟨_, read⟩ := List.getElem?_eq_some_iff.mp isIndex
    rw [List.getElem_range', Nat.one_mul] at read
    rw [getItem, ← value, read]

variable {groupId index : Nat}

theorem cachedAt_iff_has {blockHashes : BlockHashList} {pool : BlockPool}
    (wellFormed : pool.cachedBlockHashToBlock.WellFormed) :
    Cached blockHashes [groupId] pool index ↔
      ∃ key, blockHashes.key groupId index = .ok key ∧ pool.Has key := by
  rw [Cached, cachedAt, key]
  cases blockHashes.getItem index with
  | error error => simp [bind, Except.bind]
  | ok blockHash =>
    simp only [bind, Except.bind, getCachedBlock]
    cases makeBlockHashWithGroupId blockHash groupId with
    | error error => simp
    | ok key =>
      simp only [BlockHashToBlockMap.getOneBlock_of_wellFormed wellFormed, Except.ok.injEq,
        exists_eq_left', Has]
      cases pool.cachedBlockHashToBlock.stored key with
      | nil => simp
      | cons block rest => simp

variable {blockMask : Option (List Bool)} {numFullBlocks : Nat}

namespace BlockPool

variable {pool cached : BlockPool}

theorem setBlockHash_has (block : BlockId) (key other : BlockHashWithGroupId) :
    (pool.setBlockHash block key).Has other ↔ pool.Has other ∨ other = key := by
  simp only [Has, setBlockHash, BlockHashToBlockMap.mem_stored_insert, exists_or]
  simp

theorem cacheLoop_has {newBlockHashes newHashes : List BlockHash} (value : Nat → Except PyError BlockHash)
    (reads : ∀ i blockHash, newBlockHashes[i]? = some blockHash → value i = .ok blockHash)
    {i : Nat} {blocks : List BlockId}
    (ran : cacheLoop newBlockHashes blockMask groupId pool i blocks = .ok (newHashes, cached))
    (key : BlockHashWithGroupId) :
    cached.Has key ↔ pool.Has key ∨ ∃ offset block, blocks[offset]? = some block ∧
      pool.skips block (blockMask.bind fun mask => mask[i + offset]?) = false ∧
      (value (i + offset) >>= fun blockHash => makeBlockHashWithGroupId blockHash groupId) = .ok key := by
  induction blocks generalizing pool i newHashes with
  | nil =>
    cases ran
    simp
  | cons block rest ih =>
    have shift : ∀ offset, i + (offset + 1) = i + 1 + offset := fun offset => by omega
    rw [cacheLoop] at ran
    split at ran
    next skipped =>
      rw [ih ran]
      refine or_congr_right ⟨?_, ?_⟩
      · rintro ⟨offset, other, isBlock, kept, made⟩
        exact ⟨offset + 1, other, isBlock, by rwa [shift], by rwa [shift]⟩
      · rintro ⟨offset, other, isBlock, kept, made⟩
        cases offset with
        | zero =>
          cases isBlock
          exact absurd skipped (Bool.not_eq_true _ ▸ kept)
        | succ offset =>
          rw [shift] at kept made
          exact ⟨offset, other, isBlock, kept, made⟩
    next kept =>
      obtain ⟨_, -, ran⟩ := bind_eq_ok.mp ran
      split at ran
      next => cases ran
      next blockHash read =>
        obtain ⟨blockKey, made, ran⟩ := bind_eq_ok.mp ran
        obtain ⟨⟨otherHashes, final⟩, ranRest, ran⟩ := bind_eq_ok.mp ran
        cases ran
        have sameSkips : ∀ other masked, (pool.setBlockHash block blockKey).skips other masked =
            pool.skips other masked := fun other masked => by
          rw [skips, skips, (setBlockHash_sameCounts pool block blockKey).isNull]
        have isValue : (value i >>= fun blockHash => makeBlockHashWithGroupId blockHash groupId) =
            .ok blockKey := by
          rw [reads i blockHash read]
          exact made
        rw [ih ranRest, setBlockHash_has, or_assoc]
        refine or_congr_right ⟨?_, ?_⟩
        · rintro (rfl | ⟨offset, other, isBlock, otherKept, otherMade⟩)
          · exact ⟨0, block, rfl, Bool.not_eq_true _ ▸ kept, isValue⟩
          · exact ⟨offset + 1, other, isBlock, by rwa [shift, ← sameSkips], by rwa [shift]⟩
        · rintro ⟨offset, other, isBlock, otherKept, otherMade⟩
          cases offset with
          | zero =>
            left
            rw [Nat.add_zero, isValue] at otherMade
            exact (Except.ok.inj otherMade).symm
          | succ offset =>
            right
            rw [shift] at otherKept otherMade
            exact ⟨offset, other, isBlock, (sameSkips _ _).trans otherKept, otherMade⟩

theorem cacheFullBlocks_has {request : Request} {blocks : List BlockId}
    {numCachedBlocks blockSize : Nat}
    {blockHashes : BlockHashList}
    (isView : atBlockSize request.blockHashes pool.hashBlockSize blockSize = .ok blockHashes)
    (ran : pool.cacheFullBlocks request blocks numCachedBlocks numFullBlocks blockSize groupId blockMask =
      .ok cached)
    (key : BlockHashWithGroupId) :
    cached.Has key ↔ pool.Has key ∨ ∃ index block, numCachedBlocks ≤ index ∧ index < numFullBlocks ∧
      blocks[index]? = some block ∧
      pool.skips block (blockMask.bind fun mask => mask[index - numCachedBlocks]?) = false ∧
      blockHashes.key groupId index = .ok key := by
  unfold cacheFullBlocks at ran
  split at ran
  next nothing =>
    cases ran
    rw [or_iff_left]
    rintro ⟨index, block, above, below, -⟩
    omega
  next =>
    obtain ⟨-, -, ran⟩ := bind_eq_ok.mp ran
    obtain ⟨-, -, ran⟩ := bind_eq_ok.mp ran
    obtain ⟨_, view, ran⟩ := bind_eq_ok.mp ran
    cases isView.symm.trans view
    obtain ⟨⟨newHashes, stored⟩, looped, ran⟩ := bind_eq_ok.mp ran
    have same : cached.Has key ↔ stored.Has key := by
      dsimp only at ran
      split at ran
      next =>
        obtain ⟨event, -, ran⟩ := bind_eq_ok.mp ran
        cases ran
        rfl
      next =>
        cases ran
        rfl
    rw [same, cacheLoop_has (fun i => blockHashes.getItem (numCachedBlocks + i))
      (fun i blockHash read => getItem_of_sliceFrom read) looped]
    refine or_congr_right ⟨?_, ?_⟩
    · rintro ⟨offset, block, isBlock, kept, made⟩
      rw [List.getElem?_drop, List.getElem?_take] at isBlock
      rw [Nat.zero_add] at kept made
      split at isBlock
      next below =>
        refine ⟨numCachedBlocks + offset, block, Nat.le_add_right _ _, below, isBlock, ?_, made⟩
        rwa [Nat.add_sub_cancel_left]
      next => cases isBlock
    · rintro ⟨index, block, above, below, isBlock, kept, made⟩
      refine ⟨index - numCachedBlocks, block, ?_, ?_, ?_⟩
      · rw [List.getElem?_drop, List.getElem?_take, Nat.add_sub_of_le above, if_pos below, isBlock]
      · rwa [Nat.zero_add]
      · rwa [Nat.zero_add, Nat.add_sub_of_le above]

end BlockPool

namespace SingleTypeKVCacheManager

variable {config : ManagerConfig} {pool cached : BlockPool} {self after : SingleTypeKVCacheManager}
  {request : Request} {numTokens : Int} {retentionInterval : Option Nat}

theorem baseCacheBlocks_pool
    (ran : self.baseCacheBlocks config pool request numTokens retentionInterval = .ok (cached, after)) :
    after.reqToBlocks = self.reqToBlocks ∧
      ∃ first last blockMask, pool.cacheFullBlocks request (self.reqToBlocks request.requestId) first last
        config.blockSize config.kvCacheGroupId blockMask = .ok cached := by
  rw [baseCacheBlocks] at ran
  split at ran
  next =>
    cases ran
    exact ⟨rfl, 0, 0, none, rfl⟩
  next =>
    obtain ⟨blockMask, -, ran⟩ := bind_eq_ok.mp ran
    obtain ⟨stored, ranPool, ran⟩ := bind_eq_ok.mp ran
    cases ran
    exact ⟨rfl, _, _, blockMask, ranPool⟩

theorem cacheBlocks_pool
    (ran : self.cacheBlocks config pool request numTokens retentionInterval = .ok (cached, after)) :
    after.reqToBlocks = self.reqToBlocks ∧
      ∃ first last blockMask, pool.cacheFullBlocks request (self.reqToBlocks request.requestId) first last
        config.blockSize config.kvCacheGroupId blockMask = .ok cached := by
  rw [cacheBlocks] at ran
  split at ran
  next => cases ran
  next =>
    split at ran
    next =>
      obtain ⟨⟨stored, manager⟩, ranBase, ran⟩ := bind_eq_ok.mp ran
      obtain ⟨hashes, -, ran⟩ := bind_eq_ok.mp ran
      cases ran
      obtain ⟨same, stores⟩ := baseCacheBlocks_pool ranBase
      exact ⟨same, stores⟩
    next => exact baseCacheBlocks_pool ran

end SingleTypeKVCacheManager

theorem BlockPool.cacheFullBlocks_others {pool cached : BlockPool} {request : Request} {blocks : List BlockId}
    {numCachedBlocks blockSize : Nat}
    (ran : pool.cacheFullBlocks request blocks numCachedBlocks numFullBlocks blockSize groupId blockMask =
      .ok cached)
    {key : BlockHashWithGroupId} (other : getGroupId key ≠ groupId) : cached.Has key ↔ pool.Has key := by
  cases view : atBlockSize request.blockHashes pool.hashBlockSize blockSize with
  | ok blockHashes =>
    rw [cacheFullBlocks_has view ran, or_iff_left]
    rintro ⟨index, block, -, -, -, -, isKey⟩
    obtain ⟨blockHash, -, made⟩ := bind_eq_ok.mp isKey
    exact other (getGroupId_make made)
  | error error =>
    unfold cacheFullBlocks at ran
    split at ran
    next =>
      cases ran
      rfl
    next =>
      obtain ⟨-, -, ran⟩ := bind_eq_ok.mp ran
      obtain ⟨-, -, ran⟩ := bind_eq_ok.mp ran
      rw [view] at ran
      cases ran

/-! ## The blocks that are selected -/

/-- A sliding-window group whose hits are aligned to `perSegment` of its blocks. -/
structure WindowGroup where
  config : ManagerConfig
  slidingWindow : Nat
  perSegment : Nat
  isWindow : config.spec.kind = .slidingWindow slidingWindow
  isLocal : config.blockSize = config.spec.blockSize
  notCross : config.isCrossAttention = false
  aligned : config.schedulerBlockSize = perSegment * config.spec.blockSize
  groupId_lt : config.kvCacheGroupId < 2 ^ 32
  window_ge : 2 ≤ slidingWindow
  blockSize_pos : 0 < config.spec.blockSize
  perSegment_pos : 0 < perSegment

variable {numPromptTokens : Nat}

namespace WindowGroup

variable (group : WindowGroup)

def search (maxLength : Nat) (dropEagleBlock : Bool) : WindowSearch where
  slidingWindow := group.slidingWindow
  blockSize := group.config.spec.blockSize
  perSegment := group.perSegment
  maxLength := maxLength
  dropEagleBlock := dropEagleBlock
  window_ge := group.window_ge
  blockSize_pos := group.blockSize_pos
  perSegment_pos := group.perSegment_pos

def windowBlocks : Nat := contiguousBlocksForHit group.slidingWindow group.config.spec.blockSize false

def shift : Nat := if group.config.useEagle then 1 else 0

/-- `reachable_block_mask` leaves a block in. -/
def Keeps (retentionInterval : Option Nat) (numPromptTokens index : Nat) : Prop :=
  ∃ blockMask, reachableBlockMask group.config index (index + 1) retentionInterval
    numPromptTokens = .ok blockMask ∧ (blockMask.bind fun mask => mask[0]?) ≠ some false

/-- `per_segment`, the blocks from one retained tail to the next. -/
def segmentBlocks : Option Nat → Option Nat
  | none => some group.perSegment
  | some 0 => none
  | some interval => some (interval / group.config.spec.blockSize)

/-- The block is in the tail of a segment, or in that of the replay boundary. -/
def Selects (retentionInterval : Option Nat) (numPromptTokens index : Nat) : Prop :=
  (∃ segment ∈ group.segmentBlocks retentionInterval, segment ≤ group.windowBlocks + group.shift ∨
    group.shift ≤ index ∧ segment - (group.windowBlocks + group.shift) ≤ (index - group.shift) % segment) ∨
  (retentionInterval.isSome ∧
    (numPromptTokens - 1) / group.config.schedulerBlockSize * group.perSegment ≤ index + group.windowBlocks ∧
    index < (numPromptTokens - 1) / group.config.schedulerBlockSize * group.perSegment + group.shift)

variable {group}

theorem needed_eq : contiguousBlocksForHit group.slidingWindow group.config.spec.blockSize group.config.useEagle =
    group.windowBlocks + group.shift := by
  rw [windowBlocks, shift, contiguousBlocksForHit, contiguousBlocksForHit, if_neg Bool.false_ne_true,
    Nat.add_zero]

theorem schedulerBlockSize_pos : 0 < group.config.schedulerBlockSize := by
  rw [group.aligned]
  exact Nat.mul_pos group.perSegment_pos group.blockSize_pos

theorem replayEnd_eq (positive : 0 < numPromptTokens) :
    ((numPromptTokens : Int) - 1) / group.config.schedulerBlockSize * group.config.schedulerBlockSize /
        group.config.spec.blockSize =
      ((numPromptTokens - 1) / group.config.schedulerBlockSize * group.perSegment : Nat) := by
  have isNat : (numPromptTokens : Int) - 1 = (numPromptTokens - 1 : Nat) := by omega
  rw [isNat]
  norm_cast
  conv_lhs => rw [group.aligned, ← Nat.mul_assoc, Nat.mul_div_cancel _ group.blockSize_pos, ← group.aligned]

def segmentTokens (schedulerBlockSize : Nat) : Option Nat → Option Nat
  | none => some schedulerBlockSize
  | some 0 => none
  | some interval => some interval

theorem segmentBlocks_eq (retentionInterval : Option Nat) : group.segmentBlocks retentionInterval =
    (segmentTokens group.config.schedulerBlockSize retentionInterval).map (· / group.config.spec.blockSize) := by
  match retentionInterval with
  | none => simp [segmentBlocks, segmentTokens, group.aligned, Nat.mul_div_cancel _ group.blockSize_pos]
  | some 0 => rfl
  | some (interval + 1) => rfl

theorem reachableBlockMask_selects {startBlock endBlock : Nat}
    {retentionInterval : Option Nat} (positive : 0 < numPromptTokens)
    (ran : reachableBlockMask group.config startBlock endBlock retentionInterval
      numPromptTokens = .ok blockMask)
    (above : startBlock ≤ index) (below : index < endBlock) :
    (blockMask.bind fun mask => mask[index - startBlock]?) ≠ some false ↔
      group.Selects retentionInterval numPromptTokens index := by
  rw [reachableBlockMask, group.isWindow] at ran
  obtain ⟨_, -, ran⟩ := bind_eq_ok.mp ran
  dsimp only at ran
  rw [needed_eq, replayEnd_eq positive] at ran
  change (if (segmentTokens group.config.schedulerBlockSize retentionInterval).any _ then _ else
    Except.ok (some (List.map (fun i =>
      (segmentTokens group.config.schedulerBlockSize retentionInterval).any _ || _) _))) = _ at ran
  rw [Selects, segmentBlocks_eq]
  generalize segmentTokens group.config.schedulerBlockSize retentionInterval = tokens at ran
  split at ran
  next dense =>
    cases ran
    obtain ⟨interval, isTokens, short⟩ := (Option.any_eq_true ..).mp dense
    cases isTokens
    simp only [Option.bind_none, ne_eq, reduceCtorEq, not_false_eq_true, true_iff]
    exact Or.inl ⟨_, rfl, Or.inl (of_decide_eq_true short)⟩
  next sparse =>
    cases ran
    have isIndex : (List.range' startBlock (endBlock - startBlock))[index - startBlock]? = some index := by
      rw [List.getElem?_range' (by omega), Nat.one_mul, Nat.add_sub_of_le above]
    have isShift : (if group.config.useEagle = true then 1 else 0) = group.shift := rfl
    rw [Option.bind_some, List.getElem?_map, isIndex, Option.map_some, isShift, ne_eq, Option.some.injEq,
      Bool.not_eq_false, Bool.or_eq_true]
    refine or_congr ?_ ?_
    · cases tokens with
      | none => simp
      | some interval =>
        have long : ¬interval / group.config.spec.blockSize ≤ group.windowBlocks + group.shift := by
          simpa using sparse
        simp [long]
    · rw [Bool.and_eq_true, decide_eq_true_iff]
      generalize (numPromptTokens - 1) / group.config.schedulerBlockSize * group.perSegment = replayEnd
      refine and_congr_right fun _ => and_congr ?_ ?_
      · push_cast
        omega
      · norm_cast

theorem reachableBlockMask_ok (startBlock endBlock numPromptTokens : Nat) (retentionInterval : Option Nat) :
    ∃ blockMask, reachableBlockMask group.config startBlock endBlock retentionInterval
      numPromptTokens = .ok blockMask := by
  have divides : group.config.schedulerBlockSize % group.config.spec.blockSize = 0 := by
    rw [group.aligned, Nat.mul_mod_left]
  rw [reachableBlockMask, group.isWindow]
  simp only [divides, decide_true, pyAssert, if_true, bind, Except.bind]
  exact ⟨_, (apply_ite Except.ok _ _ _).symm⟩

theorem keeps_iff {retentionInterval : Option Nat} (positive : 0 < numPromptTokens) :
    group.Keeps retentionInterval numPromptTokens index ↔ group.Selects retentionInterval numPromptTokens index := by
  obtain ⟨blockMask, ran⟩ := group.reachableBlockMask_ok index (index + 1) numPromptTokens retentionInterval
  have selects := reachableBlockMask_selects positive ran le_rfl (Nat.lt_succ_self index)
  rw [Nat.sub_self] at selects
  rw [← selects]
  constructor
  · rintro ⟨others, ranOthers, keeps⟩
    cases ran.symm.trans ranOthers
    exact keeps
  · exact fun keeps => ⟨blockMask, ran, keeps⟩

/-! ## Runs of calls -/

/-- The request holds a block at every index below a bound. -/
def Held (pool : BlockPool) (blocks : List BlockId) (bound : Nat) : Prop :=
  ∀ index < bound, ∃ block, blocks[index]? = some block ∧ (pool.blocks block).isNull = false

/-- From `start` on, the group has cached the blocks of a request below a count that are left in. -/
structure CachedUpTo (group : WindowGroup) (request : Request) (retentionInterval : Option Nat)
    (blockHashes : BlockHashList) (blocks : List BlockId) (start pool : BlockPool)
    (manager : SingleTypeKVCacheManager) (count : Nat) : Prop where
  numCached : (manager.numCachedBlock request.requestId).getD 0 = count
  reqBlocks : manager.reqToBlocks request.requestId = blocks
  same : SameCounts start pool
  sound : ∃ free, pool.Sound free
  has : ∀ index key, blockHashes.key group.config.kvCacheGroupId index = .ok key →
    (pool.Has key ↔ start.Has key ∨ ∃ position < count,
      group.Keeps retentionInterval request.numPromptTokens position ∧
        blockHashes.key group.config.kvCacheGroupId position = .ok key)

section

variable {request : Request} {retentionInterval : Option Nat} {blockHashes : BlockHashList}
  {blocks : List BlockId} {start pool cached : BlockPool} {manager after : SingleTypeKVCacheManager} {count : Nat}

theorem CachedUpTo.init {free : List BlockId} (sound : start.Sound free)
    (fresh : (manager.numCachedBlock request.requestId).getD 0 = 0) :
    group.CachedUpTo request retentionInterval blockHashes (manager.reqToBlocks request.requestId) start start
      manager 0 where
  numCached := fresh
  reqBlocks := rfl
  same := .refl start
  sound := ⟨free, sound⟩
  has index key isKey := by simp

theorem CachedUpTo.cacheBlocks {numTokens : Int}
    (state : group.CachedUpTo request retentionInterval blockHashes blocks start pool manager count)
    (view : atBlockSize request.blockHashes start.hashBlockSize group.config.spec.blockSize =
      .ok blockHashes)
    (prompt : 0 < request.numPromptTokens) (inRange : ∀ block ∈ blocks, block < start.numGpuBlocks)
    (held : Held start blocks (numTokens / group.config.spec.blockSize).toNat)
    (ran : manager.cacheBlocks group.config pool request numTokens retentionInterval = .ok (cached, after)) :
    group.CachedUpTo request retentionInterval blockHashes blocks start cached after
      (max count (numTokens / group.config.spec.blockSize).toNat) := by
  rw [SingleTypeKVCacheManager.cacheBlocks, group.notCross, if_neg Bool.false_ne_true, group.isWindow] at ran
  change manager.baseCacheBlocks group.config pool request numTokens retentionInterval = _ at ran
  rw [baseCacheBlocks, state.numCached, group.isLocal, state.reqBlocks] at ran
  generalize (numTokens / group.config.spec.blockSize).toNat = full at held ran
  split at ran
  next nothing =>
    cases ran
    rwa [max_eq_left nothing]
  next new =>
    rw [max_eq_right (by omega)]
    obtain ⟨blockMask, ranMask, ran⟩ := bind_eq_ok.mp ran
    obtain ⟨stored, ranPool, ran⟩ := bind_eq_ok.mp ran
    cases ran
    obtain ⟨free, sound⟩ := state.sound
    have isView := view
    rw [← state.same.hashBlockSize] at isView
    obtain ⟨cachedSound, same⟩ := cacheFullBlocks_sound sound
      (fun block member => state.same.numGpuBlocks ▸ inRange block member) ranPool
    refine ⟨?_, state.reqBlocks, state.same.trans same, ⟨free, cachedSound⟩, fun index key isKey => ?_⟩
    · simp [setNumCached]
    · rw [cacheFullBlocks_has isView ranPool, state.has index key isKey, or_assoc]
      refine or_congr_right ⟨?_, ?_⟩
      · rintro (⟨position, below, keeps, isPosition⟩ | ⟨position, block, above, below, -, kept, isPosition⟩)
        · exact ⟨position, by omega, keeps, isPosition⟩
        · refine ⟨position, below, (keeps_iff prompt).mpr ?_, isPosition⟩
          rw [← reachableBlockMask_selects prompt ranMask above below]
          intro masked
          rw [skips, masked] at kept
          simp at kept
      · rintro ⟨position, below, keeps, isPosition⟩
        by_cases before : position < count
        · exact Or.inl ⟨position, before, keeps, isPosition⟩
        · obtain ⟨block, isBlock, notNull⟩ := held position below
          have selects := (keeps_iff prompt).mp keeps
          rw [← reachableBlockMask_selects prompt ranMask (not_lt.mp before) below] at selects
          refine Or.inr ⟨position, block, not_lt.mp before, below, isBlock, ?_, isPosition⟩
          rw [skips, state.same.isNull, notNull, Bool.false_or]
          simpa using selects

theorem CachedUpTo.others {config : ManagerConfig} {other otherAfter : SingleTypeKVCacheManager} {numTokens : Int}
    {otherInterval : Option Nat}
    (state : group.CachedUpTo request retentionInterval blockHashes blocks start pool manager count)
    (different : config.kvCacheGroupId ≠ group.config.kvCacheGroupId)
    (inRange : ∀ block ∈ other.reqToBlocks request.requestId, block < start.numGpuBlocks)
    (ran : other.cacheBlocks config pool request numTokens otherInterval = .ok (cached, otherAfter)) :
    group.CachedUpTo request retentionInterval blockHashes blocks start cached manager count := by
  obtain ⟨-, first, last, blockMask, ranPool⟩ := cacheBlocks_pool ran
  obtain ⟨free, sound⟩ := state.sound
  obtain ⟨cachedSound, same⟩ := cacheFullBlocks_sound sound
    (fun block member => state.same.numGpuBlocks ▸ inRange block member) ranPool
  refine ⟨state.numCached, state.reqBlocks, state.same.trans same, ⟨free, cachedSound⟩,
    fun index key isKey => ?_⟩
  obtain ⟨blockHash, -, made⟩ := bind_eq_ok.mp isKey
  rw [cacheFullBlocks_others ranPool (by rw [getGroupId_make made]; exact different.symm)]
  exact state.has index key isKey

end

variable (group) in
/-- Consecutive calls of `cache_blocks`, with the tokens of each. -/
def cacheCalls (request : Request) (retentionInterval : Option Nat) (calls : List Int)
    (state : BlockPool × SingleTypeKVCacheManager) : Except PyError (BlockPool × SingleTypeKVCacheManager) :=
  calls.foldlM (fun state numTokens =>
    state.2.cacheBlocks group.config state.1 request numTokens retentionInterval) state

theorem CachedUpTo.cacheCalls {request : Request} {retentionInterval : Option Nat} {blockHashes : BlockHashList}
    {blocks : List BlockId} {start pool cached : BlockPool} {manager after : SingleTypeKVCacheManager} {count : Nat}
    (state : group.CachedUpTo request retentionInterval blockHashes blocks start pool manager count)
    (view : atBlockSize request.blockHashes start.hashBlockSize group.config.spec.blockSize =
      .ok blockHashes)
    (prompt : 0 < request.numPromptTokens) (inRange : ∀ block ∈ blocks, block < start.numGpuBlocks)
    (heldBefore : Held start blocks count) {calls : List Int}
    (held : ∀ numTokens ∈ calls, Held start blocks (numTokens / group.config.spec.blockSize).toNat)
    (ran : group.cacheCalls request retentionInterval calls (pool, manager) = .ok (cached, after)) :
    ∃ count, group.CachedUpTo request retentionInterval blockHashes blocks start cached after count ∧
      Held start blocks count := by
  induction calls generalizing pool manager count with
  | nil =>
    cases ran
    exact ⟨count, state, heldBefore⟩
  | cons numTokens rest ih =>
    rw [WindowGroup.cacheCalls, List.foldlM_cons] at ran
    obtain ⟨⟨nextPool, next⟩, ranFirst, ranRest⟩ := bind_eq_ok.mp ran
    have heldFirst := held numTokens List.mem_cons_self
    refine ih (state.cacheBlocks view prompt inRange heldFirst ranFirst) ?_
      (fun other member => held other (List.mem_cons_of_mem _ member)) ranRest
    intro index below
    rcases lt_max_iff.mp below with before | inside
    · exact heldBefore index before
    · exact heldFirst index inside

/-! ## Dense and sparse pools -/

/-- The two pools have the same blocks below a bound among those that are selected, and the second has those of
the first. -/
structure Thinned (group : WindowGroup) (numPromptTokens bound : Nat) (sparse dense : Nat → Prop) : Prop where
  subset : ∀ index, sparse index → dense index
  kept : ∀ index < bound, group.Selects none numPromptTokens index → dense index → sparse index

/-- The blocks in front of a boundary, and the look-ahead block behind it, are in the tail of its segment. -/
theorem selects_tail {count : Nat} (aligned : group.perSegment ∣ count) (positive : 0 < count)
    (above : count ≤ index + group.windowBlocks) (below : index < count + group.shift) :
    group.Selects none numPromptTokens index := by
  refine Or.inl ⟨group.perSegment, rfl, or_iff_not_imp_left.mpr fun long => ?_⟩
  have atLeast : group.perSegment ≤ count := Nat.le_of_dvd positive aligned
  refine ⟨by omega, ?_⟩
  -- The last segment in front of the boundary starts at a multiple of its length.
  obtain ⟨before, isBefore⟩ : group.perSegment ∣ count - group.perSegment := Nat.dvd_sub aligned dvd_rfl
  have isRest : index - group.shift =
      index - group.shift - (count - group.perSegment) + group.perSegment * before := by omega
  rw [isRest, Nat.add_mul_mod_self_left, Nat.mod_eq_of_lt (by omega)]
  omega

theorem lookAhead_le_shift {dropEagleBlock : Bool} (maxLength : Nat)
    (drops : dropEagleBlock = group.config.useEagle ∨ dropEagleBlock = false) :
    (group.search maxLength dropEagleBlock).lookAhead ≤ group.shift := by
  rcases drops with same | same
  · subst same
    exact le_rfl
  · subst same
    exact Nat.zero_le _

theorem Thinned.longest {sparse dense : Nat → Prop} {dropEagleBlock : Bool} {maxLength count : Nat}
    (thinned : group.Thinned numPromptTokens (group.search maxLength dropEagleBlock).maxNumBlocks sparse dense)
    (drops : dropEagleBlock = group.config.useEagle ∨ dropEagleBlock = false) :
    (group.search maxLength dropEagleBlock).Longest dense count →
      (group.search maxLength dropEagleBlock).Longest sparse count := by
  have same : ∀ count, count = 0 ∨ (group.search maxLength dropEagleBlock).Supports dense count ↔
      count = 0 ∨ (group.search maxLength dropEagleBlock).Supports sparse count := by
    intro count
    rcases Nat.eq_zero_or_pos count with isZero | positive
    · simp [isZero]
    · refine or_congr_right ⟨fun supports => ?_,
        fun supports => supports.congr fun index _ => thinned.subset index⟩
      have inside := supports.inside
      refine { supports with window := fun index above below => ?_, eagle := fun isDrop => ?_ }
      · refine thinned.kept index (by exact lt_of_lt_of_le (by omega) inside) ?_ (supports.window index above below)
        exact selects_tail supports.aligned positive (Nat.sub_le_iff_le_add.mp above) (Nat.lt_add_right _ below)
      · have isOne : (group.search maxLength dropEagleBlock).lookAhead = 1 := if_pos isDrop
        refine thinned.kept count (by exact lt_of_lt_of_le (by omega) inside) ?_ (supports.eagle isDrop)
        have behind := lookAhead_le_shift maxLength drops
        exact selects_tail supports.aligned positive (Nat.le_add_right _ _) (by omega)
  intro longest
  rw [WindowSearch.Longest] at longest ⊢
  simpa only [same] using longest

/-- A pool that caches every full block is thinned by the mask to one that caches those left in. -/
theorem CachedUpTo.thinned {request : Request} {blockHashes : BlockHashList} {blocks : List BlockId}
    {start sparse dense : BlockPool} {manager : SingleTypeKVCacheManager} {bound : Nat}
    (state : group.CachedUpTo request none blockHashes blocks start sparse manager numFullBlocks)
    (prompt : 0 < request.numPromptTokens) (wellFormed : dense.cachedBlockHashToBlock.WellFormed)
    (has : ∀ key, dense.Has key ↔ start.Has key ∨ ∃ position < numFullBlocks,
      blockHashes.key group.config.kvCacheGroupId position = .ok key)
    (hashed : bound ≤ blockHashes.length)
    (apart : ∀ position < numFullBlocks, ∀ index, numFullBlocks ≤ index → index < blockHashes.length →
      blockHashes.getItem position ≠ blockHashes.getItem index) :
    group.Thinned request.numPromptTokens bound
      (Cached blockHashes [group.config.kvCacheGroupId] sparse)
      (Cached blockHashes [group.config.kvCacheGroupId] dense) := by
  obtain ⟨free, sound⟩ := state.sound
  constructor
  · intro index
    rw [cachedAt_iff_has sound.map, cachedAt_iff_has wellFormed]
    rintro ⟨key, isKey, stored⟩
    refine ⟨key, isKey, (has key).mpr ?_⟩
    refine ((state.has index key isKey).mp stored).imp_right ?_
    rintro ⟨position, below, -, isPosition⟩
    exact ⟨position, below, isPosition⟩
  · intro index inBound selects
    rw [cachedAt_iff_has sound.map, cachedAt_iff_has wellFormed]
    rintro ⟨key, isKey, stored⟩
    refine ⟨key, isKey, (state.has index key isKey).mpr ?_⟩
    refine ((has key).mp stored).imp_right ?_
    rintro ⟨position, below, isPosition⟩
    have isFull : index < numFullBlocks := by
      by_contra notFull
      obtain ⟨blockHash, isItem, made⟩ := bind_eq_ok.mp isKey
      obtain ⟨otherHash, isOther, otherMade⟩ := bind_eq_ok.mp isPosition
      have same := (makeBlockHashWithGroupId_injective made otherMade).1
      exact apart position below index (not_lt.mp notFull) (inBound.trans_le hashed)
        (isOther.trans (same ▸ isItem.symm))
    exact ⟨index, isFull, (keeps_iff prompt).mpr selects, isKey⟩

/-- With dense retention the lookups of the group return hits of the same length as if every full block were
cached, however the calls of `cache_blocks` divide the blocks. -/
theorem findLongestCacheHit_sparse (group : WindowGroup) (request : Request) {start sparse dense : BlockPool}
    {manager final : SingleTypeKVCacheManager} {blockHashes : BlockHashList} {calls : List Int} {numFullBlocks : Nat}
    (reachable : start.Reachable)
    (view : atBlockSize request.blockHashes start.hashBlockSize group.config.spec.blockSize =
      .ok blockHashes)
    (prompt : 0 < request.numPromptTokens)
    (inRange : ∀ block ∈ manager.reqToBlocks request.requestId, block < start.numGpuBlocks)
    (held : ∀ numTokens ∈ calls, Held start (manager.reqToBlocks request.requestId)
      (numTokens / group.config.spec.blockSize).toNat)
    (fresh : (manager.numCachedBlock request.requestId).getD 0 = 0)
    (ranSparse : group.cacheCalls request none calls (start, manager) = .ok (sparse, final))
    (isFull : (final.numCachedBlock request.requestId).getD 0 = numFullBlocks)
    (ranDense : start.cacheFullBlocks request (manager.reqToBlocks request.requestId) 0 numFullBlocks
      group.config.spec.blockSize group.config.kvCacheGroupId none = .ok dense)
    (apart : ∀ position < numFullBlocks, ∀ index, numFullBlocks ≤ index → index < blockHashes.length →
      blockHashes.getItem position ≠ blockHashes.getItem index)
    (maxLength : Nat) (hashed : maxLength / group.config.spec.blockSize ≤ blockHashes.length)
    {dropEagleBlock : Bool} (drops : dropEagleBlock = group.config.useEagle ∨ dropEagleBlock = false) :
    ∃ rows others,
      (group.search maxLength dropEagleBlock).findLongestCacheHit blockHashes [group.config.kvCacheGroupId] sparse =
        .ok rows ∧
      (group.search maxLength dropEagleBlock).findLongestCacheHit blockHashes [group.config.kvCacheGroupId] dense =
        .ok others ∧
      rows.length = others.length := by
  obtain ⟨free, sound⟩ := reachable.sound
  obtain ⟨count, state, heldAll⟩ := (CachedUpTo.init sound fresh).cacheCalls view prompt inRange
    (fun index below => absurd below (Nat.not_lt_zero index)) held ranSparse
  have isCount : count = numFullBlocks := state.numCached.symm.trans isFull
  subst isCount
  obtain ⟨denseSound, -⟩ := cacheFullBlocks_sound sound inRange ranDense
  obtain ⟨sparseFree, sparseSound⟩ := state.sound
  have denseHas : ∀ key, dense.Has key ↔ start.Has key ∨ ∃ position < count,
      blockHashes.key group.config.kvCacheGroupId position = .ok key := by
    intro key
    rw [cacheFullBlocks_has view ranDense]
    refine or_congr_right ⟨?_, ?_⟩
    · rintro ⟨position, block, -, below, -, -, isKey⟩
      exact ⟨position, below, isKey⟩
    · rintro ⟨position, below, isKey⟩
      obtain ⟨block, isBlock, notNull⟩ := heldAll position below
      exact ⟨position, block, Nat.zero_le _, below, isBlock, by simp [skips, notNull], isKey⟩
  have thinned := state.thinned prompt denseSound.map denseHas hashed apart
  have groups : ∀ groupId ∈ [group.config.kvCacheGroupId], groupId < 2 ^ 32 := by
    simpa using group.groupId_lt
  obtain ⟨rows, longest, ran, isLongest, isLength⟩ :=
    (group.search maxLength dropEagleBlock).findLongestCacheHit_length
      (WindowSearch.readable_of_sound sparseSound groups hashed)
  obtain ⟨others, otherLongest, otherRan, isOtherLongest, isOtherLength⟩ :=
    (group.search maxLength dropEagleBlock).findLongestCacheHit_length
      (WindowSearch.readable_of_sound denseSound groups hashed)
  have same : longest = otherLongest := isLongest.unique (thinned.longest drops isOtherLongest)
  exact ⟨rows, others, ran, otherRan, by rw [isLength, isOtherLength, same]⟩

/-- Three blocks of one token, in a group whose hits are aligned to two blocks. -/
private def threeBlocks : Request where
  requestId := 0
  samplingParams := { maxTokens := 1 }
  maxTokens := 1
  promptTokenIds := [5, 6, 7]
  numPromptTokens := 3
  allTokenIds := [5, 6, 7]
  blockHashes := [[7], [8], [9]]

private def pairGroup : WindowGroup where
  config :=
    { spec := { kind := .slidingWindow 2, blockSize := 1 }
      kvCacheGroupId := 0
      schedulerBlockSize := 2
      enableCaching := true }
  slidingWindow := 2
  perSegment := 2
  isWindow := rfl
  isLocal := rfl
  notCross := rfl
  aligned := rfl
  groupId_lt := Nat.two_pow_pos 32
  window_ge := le_rfl
  blockSize_pos := Nat.one_pos
  perSegment_pos := Nat.two_pos

private def holdsThree : SingleTypeKVCacheManager where
  reqToBlocks := fun _ => [1, 2, 3]

private theorem threeBlocks_cached : ∃ start sparse dense final, start.Reachable ∧ start.numGpuBlocks = 4 ∧
    start.hashBlockSize = 1 ∧ Held start [1, 2, 3] 3 ∧
    pairGroup.cacheCalls threeBlocks none [1, 3] (start, holdsThree) = .ok (sparse, final) ∧
    final.numCachedBlock 0 = some 3 ∧
    start.cacheFullBlocks threeBlocks [1, 2, 3] 0 3 1 0 none = .ok dense := by
  have reachable : Reachable _ :=
    ⟨4, true, 1, false, false, _, rfl, .single (.getNewBlocks 3 rfl)⟩
  refine ⟨_, _, _, _, reachable, rfl, rfl, ?_, rfl, rfl, rfl⟩
  intro index below
  interval_cases index
  · exact ⟨1, rfl, rfl⟩
  · exact ⟨2, rfl, rfl⟩
  · exact ⟨3, rfl, rfl⟩

theorem findLongestCacheHit_sparse_pairs : ∃ start sparse dense final rows others, start.Reachable ∧
    pairGroup.cacheCalls threeBlocks none [1, 3] (start, holdsThree) = .ok (sparse, final) ∧
    start.cacheFullBlocks threeBlocks [1, 2, 3] 0 3 1 0 none = .ok dense ∧
    (pairGroup.search 3 false).findLongestCacheHit (.fine threeBlocks.blockHashes) [0] sparse = .ok rows ∧
    (pairGroup.search 3 false).findLongestCacheHit (.fine threeBlocks.blockHashes) [0] dense = .ok others ∧
    rows.length = others.length := by
  obtain ⟨start, sparse, dense, final, reachable, size, hashSize, heldAll, ranSparse, isFull, ranDense⟩ :=
    threeBlocks_cached
  have inRange : ∀ block ∈ holdsThree.reqToBlocks 0, block < start.numGpuBlocks := by
    rw [size]
    decide
  have held : ∀ numTokens ∈ ([1, 3] : List Int), Held start [1, 2, 3] (numTokens / (1 : Nat)).toNat := by
    intro numTokens member index below
    refine heldAll index (below.trans_le ?_)
    simp only [List.mem_cons, List.not_mem_nil, or_false] at member
    rcases member with rfl | rfl <;> decide
  have view : atBlockSize threeBlocks.blockHashes start.hashBlockSize 1 =
      .ok (.fine threeBlocks.blockHashes) := by
    rw [hashSize]
    rfl
  have apart : ∀ position < 3, ∀ index, 3 ≤ index → index < 3 →
      (fine threeBlocks.blockHashes).getItem position ≠
        (fine threeBlocks.blockHashes).getItem index :=
    fun position _ index above below => absurd above (not_le.mpr below)
  obtain ⟨rows, others, ran, otherRan, same⟩ := findLongestCacheHit_sparse pairGroup threeBlocks reachable view
    (Nat.succ_pos 2) inRange held rfl ranSparse (congrArg (Option.getD · 0) isFull) ranDense apart 3 le_rfl
    (Or.inr rfl)
  exact ⟨start, sparse, dense, final, rows, others, reachable, ranSparse, ranDense, ran, otherRan, same⟩

end WindowGroup

end DeepSpark
