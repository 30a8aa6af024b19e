import DeepSpark.Manager.KVCacheManager

/-!
Who holds the blocks of the pool.

Owns the moves of blocks between the list of a request and the pool: what one operation
adds to the reference counts, and one lemma of the same shape for each operation of the
managers of `v1/core/single_type_kv_cache_manager.py`.
-/

namespace DeepSpark

open Lib Function List

/-! ## Counting references -/

namespace BlockPool

variable {pool next mid : BlockPool} {before middle after blocks freed : List BlockId} {block : BlockId}

/-- One reference more for each entry of a list. -/
structure Adds (pool next : BlockPool) (blocks : List BlockId) : Prop where
  numGpuBlocks : next.numGpuBlocks = pool.numGpuBlocks
  nullBlock : next.nullBlock = pool.nullBlock
  refCnt : ∀ block, (next.blocks block).refCnt = (pool.blocks block).refCnt + blocks.count block

theorem addRef_adds (pool : BlockPool) (block : BlockId) : Adds pool (pool.addRef block 1) [block] := by
  refine ⟨rfl, rfl, fun other => ?_⟩
  rw [addRef_refCnt, List.count_singleton]
  by_cases same : other = block
  · simp [same]
  · simp [same, Ne.symm same]

theorem claimBlock_adds (ran : pool.claimBlock block = .ok next) : Adds pool next [block] := by
  obtain ⟨-, -, ran⟩ := bind_eq_ok.mp ran
  cases ran
  split
  next =>
    have same := maybeEvictCachedBlock_sameCounts pool block
    have added := addRef_adds (pool.maybeEvictCachedBlock block).2 block
    exact ⟨same.numGpuBlocks, same.nullBlock, fun other => by rw [added.refCnt, same.refCnt]⟩
  next => exact addRef_adds pool block

theorem touchBlock_adds (ran : pool.touchBlock block = .ok next) : Adds pool next [block] := by
  rw [touchBlock] at ran
  split at ran
  all_goals
    obtain ⟨queue, -, ran⟩ := bind_eq_ok.mp ran
    cases ran
    exact ⟨rfl, rfl, (addRef_adds pool block).refCnt⟩

theorem Adds.foldlM {body : BlockPool → BlockId → Except PyError BlockPool}
    (one : ∀ {pool next block}, body pool block = .ok next → Adds pool next [block])
    (ran : blocks.foldlM body pool = .ok next) : Adds pool next blocks := by
  induction blocks generalizing pool with
  | nil =>
    cases ran
    exact ⟨rfl, rfl, fun block => by simp⟩
  | cons block rest ih =>
    obtain ⟨mid, first, ran⟩ := bind_eq_ok.mp ran
    have first := one first
    have others := ih ran
    refine ⟨others.numGpuBlocks.trans first.numGpuBlocks, others.nullBlock.trans first.nullBlock, fun other => ?_⟩
    rw [others.refCnt, first.refCnt, add_assoc, ← Nat.cast_add, ← count_append]
    rfl

/-! ## Moves -/

structure Holding (pool : BlockPool) (blocks : List BlockId) : Prop where
  sound : ∃ free, pool.Sound free
  inRange : ∀ block ∈ blocks, block < pool.numGpuBlocks
  once : ∀ block ≠ pool.nullBlock, blocks.count block ≤ 1
  counted : ∀ block ≠ pool.nullBlock, blocks.count block ≤ (pool.blocks block).refCnt

/-- The blocks of one holder change, and with them the counts: what all the others
hold stays the same. -/
structure Moves (pool next : BlockPool) (before after : List BlockId) : Prop where
  holding : Holding next after
  numGpuBlocks : next.numGpuBlocks = pool.numGpuBlocks
  nullBlock : next.nullBlock = pool.nullBlock
  others : ∀ block ≠ pool.nullBlock,
    (next.blocks block).refCnt - after.count block = (pool.blocks block).refCnt - before.count block

theorem Moves.refl (holding : Holding pool before) : Moves pool pool before before :=
  ⟨holding, rfl, rfl, fun _ _ => rfl⟩

theorem Moves.trans (first : Moves pool mid before middle) (second : Moves mid next middle after) :
    Moves pool next before after :=
  ⟨second.holding, second.numGpuBlocks.trans first.numGpuBlocks, second.nullBlock.trans first.nullBlock,
    fun block notNull => (second.others block (first.nullBlock ▸ notNull)).trans (first.others block notNull)⟩

theorem Sound.notNull {free : List BlockId} (sound : pool.Sound free) (notNull : block ≠ pool.nullBlock) :
    (pool.blocks block).isNull = false := by
  rw [← Bool.not_eq_true, sound.isNull_iff]
  exact notNull

/-- The holder's new list has to be a list of blocks that it counts for. -/
theorem Holding.moves (holding : Holding pool before) (sound : ∃ free, next.Sound free)
    (numGpuBlocks : next.numGpuBlocks = pool.numGpuBlocks) (nullBlock : next.nullBlock = pool.nullBlock)
    (others : ∀ block ≠ pool.nullBlock,
      (next.blocks block).refCnt - after.count block = (pool.blocks block).refCnt - before.count block)
    (inRange : ∀ block ∈ after, block < pool.numGpuBlocks)
    (once : ∀ block ≠ pool.nullBlock, after.count block ≤ 1) : Moves pool next before after := by
  refine ⟨⟨sound, numGpuBlocks.symm ▸ inRange, nullBlock.symm ▸ once, nullBlock.symm ▸ fun block notNull => ?_⟩,
    numGpuBlocks, nullBlock, others⟩
  have same := others block notNull
  have counted := holding.counted block notNull
  omega

/-- A list with the same blocks, up to null blocks. -/
theorem Holding.rearrange (holding : Holding pool before)
    (same : ∀ block ≠ pool.nullBlock, after.count block = before.count block) : Moves pool pool before after := by
  obtain ⟨free, sound⟩ := holding.sound
  refine holding.moves ⟨free, sound⟩ rfl rfl (fun block notNull => by rw [same block notNull])
    (fun block member => ?_) (fun block notNull => same block notNull ▸ holding.once block notNull)
  by_cases isNull : block = pool.nullBlock
  · exact isNull ▸ sound.nullInRange
  · exact holding.inRange block (count_pos_iff.mp (same block isNull ▸ count_pos_iff.mpr member))

theorem getNewBlocks_moves (holding : Holding pool before) {numBlocks : Int} (nonneg : 0 ≤ numBlocks)
    (ran : pool.getNewBlocks numBlocks = .ok (blocks, next)) :
    Moves pool next before (before ++ blocks) ∧
      ∀ block ∈ blocks, block ≠ pool.nullBlock ∧ (pool.blocks block).refCnt = 0 := by
  obtain ⟨free, sound⟩ := holding.sound
  obtain ⟨count, rfl⟩ := Int.eq_ofNat_of_zero_le nonneg
  have enough : count ≤ free.length := by
    by_contra tooMany
    rw [getNewBlocks_tooMany sound (Nat.lt_of_not_le tooMany)] at ran
    cases ran
  obtain ⟨allocated, ran', nextSound⟩ := getNewBlocks_sound sound enough
  cases ran.symm.trans ran'
  have isFree : ∀ block ∈ free.take count, block < pool.numGpuBlocks ∧ (pool.blocks block).isNull = false ∧
      (pool.blocks block).refCnt = 0 := fun block member =>
    (Sound.mem_free_iff sound block).mp (mem_of_mem_take member)
  have adds : Adds pool next (free.take count) := by
    unfold getNewBlocks at ran
    split at ran
    next => cases ran
    next =>
      obtain ⟨⟨ret, queue⟩, -, ran⟩ := bind_eq_ok.mp ran
      obtain ⟨claimed, claims, ran⟩ := bind_eq_ok.mp ran
      cases ran
      have added := Adds.foldlM claimBlock_adds claims
      exact ⟨added.numGpuBlocks, added.nullBlock, added.refCnt⟩
  refine ⟨holding.moves ⟨_, nextSound⟩ adds.numGpuBlocks adds.nullBlock (fun block _ => ?_) (fun block member => ?_)
    (fun block notNull => ?_), fun block member => ⟨?_, (isFree block member).2.2⟩⟩
  · rw [adds.refCnt, count_append]
    push_cast
    ring
  · exact (mem_append.mp member).elim (holding.inRange block) fun isNew => (isFree block isNew).1
  · rw [count_append]
    by_cases isNew : block ∈ free.take count
    · have once := nodup_iff_count_le_one.mp (sound.queue.nodup.sublist (take_sublist count free)) block
      have counted := holding.counted block notNull
      rw [(isFree block isNew).2.2] at counted
      omega
    · rw [count_eq_zero_of_not_mem isNew]
      exact holding.once block notNull
  · rintro rfl
    exact Bool.noConfusion (((sound.isNull_iff _).mpr rfl).symm.trans (isFree _ member).2.1)

/-- `free_blocks` takes blocks back from their holder, and never raises on them. -/
theorem freeBlocks_moves (holding : Holding pool before) (prepend : Bool)
    (split : ∀ block ≠ pool.nullBlock, before.count block = after.count block + freed.count block) :
    ∃ next, pool.freeBlocks freed prepend = .ok next ∧ Moves pool next before after := by
  obtain ⟨free, sound⟩ := holding.sound
  have inRange : ∀ block, 0 < after.count block + freed.count block → block < pool.numGpuBlocks := by
    intro block positive
    by_cases isNull : block = pool.nullBlock
    · exact isNull ▸ sound.nullInRange
    · exact holding.inRange block (count_pos_iff.mp (split block isNull ▸ positive))
  have bounded : ∀ block ≠ pool.nullBlock, freed.count block ≤ 1 ∧ freed.count block ≤ (pool.blocks block).refCnt := by
    intro block notNull
    have once := holding.once block notNull
    have counted := holding.counted block notNull
    have parts := split block notNull
    omega
  have releasable : pool.Releasable freed := by
    refine ⟨fun block member => inRange block (Nat.add_pos_right _ (count_pos_iff.mpr member)),
      nodup_iff_count_le_one.mpr fun block => ?_, fun block member notNull => ?_⟩
    · by_cases isNull : block = pool.nullBlock
      · rw [count_eq_zero_of_not_mem (by simp [isNull, (sound.isNull_iff _).mpr rfl])]
        exact Nat.zero_le 1
      · exact (filter_sublist.count_le block).trans (bounded block isNull).1
    · have isBlock : block ≠ pool.nullBlock := by
        rintro rfl
        exact Bool.noConfusion (((sound.isNull_iff _).mpr rfl).symm.trans notNull)
      have positive := count_pos_iff.mpr member
      have counted := (bounded block isBlock).2
      omega
  obtain ⟨next, ran, same, free', nextSound⟩ := freeBlocks_sound sound releasable prepend
  have refCnt : ∀ block, (next.blocks block).refCnt = (pool.blocks block).refCnt - freed.count block := by
    rw [freeBlocks] at ran
    split at ran
    all_goals
      obtain ⟨queue, -, isNext⟩ := bind_eq_ok.mp ran
      cases isNext
      exact releaseBlocks_refCnt pool freed
  refine ⟨next, ran, holding.moves ⟨free', nextSound⟩ same.numGpuBlocks same.nullBlock (fun block notNull => ?_)
    (fun block member => inRange block (Nat.add_pos_left (count_pos_iff.mpr member) _)) (fun block notNull => ?_)⟩
  · rw [refCnt, split block notNull]
    push_cast
    ring
  · have once := holding.once block notNull
    have parts := split block notNull
    omega

/-- What a lookup of the prefix cache returns. -/
structure Hits (pool : BlockPool) (blocks : List BlockId) : Prop where
  inRange : ∀ block ∈ blocks, block < pool.numGpuBlocks
  once : ∀ block ≠ pool.nullBlock, blocks.count block ≤ 1

theorem hits_nil (pool : BlockPool) : pool.Hits [] := ⟨by simp, by simp⟩

/-- A null block takes the place of an entry. -/
theorem count_set {index : Nat} {null : BlockId} (read : blocks[index]? = some block) {other : BlockId}
    (notNull : other ≠ null) : blocks.count other = (blocks.set index null).count other + [block].count other := by
  obtain ⟨inside, isBlock⟩ := List.getElem?_eq_some_iff.mp read
  have positive : block = other → 0 < blocks.count other := by
    rintro rfl
    exact count_pos_iff.mpr (isBlock ▸ getElem_mem inside)
  rw [List.count_set inside, List.count_singleton, isBlock]
  by_cases same : block = other
  · have := positive same
    simp [same, Ne.symm notNull]
    omega
  · simp [same, Ne.symm notNull]

end BlockPool

/-! ## The operations of a group -/

namespace SingleTypeKVCacheManager

open BlockPool

variable {config : ManagerConfig} {pool next : BlockPool} {self after : SingleTypeKVCacheManager}
  {requestId : ReqId} {blocks : List BlockId}

structure Shifts (requestId : ReqId) (pool : BlockPool) (before : SingleTypeKVCacheManager) (next : BlockPool)
    (after : SingleTypeKVCacheManager) : Prop where
  others : ∀ other ≠ requestId, after.reqToBlocks other = before.reqToBlocks other
  moves : Moves pool next (before.reqToBlocks requestId) (after.reqToBlocks requestId)

theorem Shifts.set (moves : Moves pool next (self.reqToBlocks requestId) blocks)
    (isAfter : after.reqToBlocks = update self.reqToBlocks requestId blocks) :
    Shifts requestId pool self next after := by
  refine ⟨fun other differ => by rw [isAfter, update_of_ne differ], ?_⟩
  rw [isAfter, update_self]
  exact moves

section

variable (holding : Holding pool (self.reqToBlocks requestId))

include holding

theorem Shifts.refl : Shifts requestId pool self pool self := ⟨fun _ _ => rfl, .refl holding⟩

theorem allocateNewComputedBlocks_shifts {numLocalComputedTokens : Int} (hits : pool.Hits blocks)
    (ran : self.allocateNewComputedBlocks config pool requestId blocks numLocalComputedTokens 0 = .ok (next, after)) :
    Shifts requestId pool self next after := by
  unfold allocateNewComputedBlocks at ran
  split at ran
  next =>
    obtain ⟨-, -, ran⟩ := bind_eq_ok.mp ran
    cases ran
    exact .refl holding
  next =>
    split at ran
    next =>
      obtain ⟨-, -, ran⟩ := bind_eq_ok.mp ran
      cases ran
      exact .refl holding
    next =>
      obtain ⟨_, isEmpty, ran⟩ := bind_eq_ok.mp ran
      have isNew : self.reqToBlocks requestId = [] := isEmpty_iff.mp (pyAssert_eq_ok.mp isEmpty)
      obtain ⟨touched, touches, ran⟩ := bind_eq_ok.mp ran
      have sublist := drop_sublist (config.spec.kind.getNumSkippedTokens (numLocalComputedTokens + (0 : Nat)) /
        config.blockSize).toNat blocks
      have inRange := fun block member => hits.inRange block (sublist.subset member)
      obtain ⟨adds, sound⟩ : Adds pool touched _ ∧ ∃ free, touched.Sound free := by
        split at touches
        next =>
          obtain ⟨free, sound⟩ := holding.sound
          obtain ⟨_, touches', -, touchedSound⟩ := touch_sound sound inRange
          cases touches.symm.trans touches'
          exact ⟨Adds.foldlM touchBlock_adds touches, touchedSound⟩
        next =>
          obtain ⟨_, noHits, touches⟩ := bind_eq_ok.mp touches
          cases touches
          rw [isEmpty_iff.mp (pyAssert_eq_ok.mp noHits)]
          exact ⟨⟨rfl, rfl, fun _ => by simp⟩, holding.sound⟩
      rw [if_neg (by split <;> simp)] at ran
      cases ran
      rw [isNew] at holding
      refine .set (isNew ▸ holding.moves sound adds.numGpuBlocks adds.nullBlock (fun block notNull => ?_)
        (fun block member => ?_) fun block notNull => ?_) rfl
      · rw [adds.refCnt, count_append, count_replicate, adds.nullBlock]
        simp [Ne.symm notNull]
      · rcases mem_append.mp member with isNull | isHit
        · obtain ⟨free, sound⟩ := holding.sound
          rw [eq_of_mem_replicate isNull, adds.nullBlock]
          exact sound.nullInRange
        · exact inRange block isHit
      · rw [count_append, count_replicate, adds.nullBlock]
        simpa [Ne.symm notNull] using (sublist.count_le block).trans (hits.once block notNull)

theorem baseNewBlocks_shifts {numTokens : Int}
    (ran : self.baseNewBlocks config pool requestId numTokens = .ok (blocks, next, after)) :
    Shifts requestId pool self next after := by
  unfold baseNewBlocks at ran
  dsimp only at ran
  split at ran
  next =>
    cases ran
    exact .refl holding
  next more =>
    obtain ⟨⟨newBlocks, allocated⟩, got, ran⟩ := bind_eq_ok.mp ran
    cases ran
    exact .set (getNewBlocks_moves holding (Int.le_of_lt (Int.not_le.mp more)) got).1 rfl

omit holding in
/-- The reuse moves blocks within the list, and by at most as many places as there are left. -/
theorem reuseSpeculativeBlocks_spec (null : BlockId) (numSkippedBlocks : Int) (start count : Nat) (blocks : List BlockId) :
    (∀ block ≠ null, (reuseSpeculativeBlocks null numSkippedBlocks (List.range' start count) blocks).count block =
      blocks.count block) ∧
    (reuseSpeculativeBlocks null numSkippedBlocks (List.range' start count) blocks).length ≤
      blocks.length + min count (numSkippedBlocks - start).toNat := by
  induction count generalizing start blocks with
  | zero => exact ⟨fun _ _ => rfl, Nat.le_add_right _ _⟩
  | succ count ih =>
    rw [range'_succ, reuseSpeculativeBlocks]
    split
    next below =>
      obtain ⟨counts, length⟩ := ih (start + 1) ((blocks ++ [blocks.getD start null]).set start null)
      refine ⟨fun block notNull => (counts block notNull).trans ?_, length.trans ?_⟩
      · rcases Nat.lt_or_ge start blocks.length with inside | beyond
        · have isRead : (blocks ++ [blocks.getD start null])[start]? = some (blocks.getD start null) := by
            rw [getElem?_append_left inside, getD_eq_getElem?_getD, getElem?_eq_getElem inside]
            rfl
          have moved := count_set isRead notNull
          rw [count_append] at moved
          omega
        · have isNull : blocks.getD start null = null := by
            rw [getD_eq_getElem?_getD, getElem?_eq_none beyond]
            rfl
          rcases beyond.lt_or_eq with outside | isEnd
          · rw [isNull, set_eq_of_length_le (by simpa using outside)]
            simp [Ne.symm notNull]
          · rw [isNull, ← isEnd, set_append_right _ _ le_rfl, Nat.sub_self]
            simp [Ne.symm notNull]
      · simp only [length_set, length_append, length_singleton]
        omega
    next => exact ⟨fun _ _ => rfl, Nat.le_add_right _ _⟩

theorem alignNewBlocks_shifts {numSpeculativeBlocks : Nat} {numTokensMainModel : Int}
    (ran : self.alignNewBlocks config pool requestId numSpeculativeBlocks numTokensMainModel = .ok (blocks, next, after)) :
    Shifts requestId pool self next after := by
  unfold alignNewBlocks at ran
  dsimp only at ran
  split at ran
  next =>
    cases ran
    exact .refl holding
  next more =>
    obtain ⟨_, -, ran⟩ := bind_eq_ok.mp ran
    obtain ⟨⟨newBlocks, allocated⟩, got, ran⟩ := bind_eq_ok.mp ran
    cases ran
    set numSkippedBlocks := ceilDiv numTokensMainModel config.blockSize + numSpeculativeBlocks - numSpeculativeBlocks - 1
      with isSkipped
    set prevBlockLen := (self.reqToBlocks requestId).length with isPrev
    set padded := self.reqToBlocks requestId ++ List.replicate (numSkippedBlocks - prevBlockLen).toNat pool.nullBlock
      with isPadded
    set reused := if requestId ∈ self.allocatedBlockReqs then _ else padded with isReused
    obtain ⟨counts, room⟩ := reuseSpeculativeBlocks_spec pool.nullBlock numSkippedBlocks
      (prevBlockLen - numSpeculativeBlocks) numSpeculativeBlocks padded
    have same : ∀ block ≠ pool.nullBlock, reused.count block = (self.reqToBlocks requestId).count block := by
      intro block notNull
      have padding : padded.count block = (self.reqToBlocks requestId).count block := by
        rw [isPadded, count_append, count_replicate]
        simp [Ne.symm notNull]
      rw [isReused]
      split
      next => exact (counts block notNull).trans padding
      next => exact padding
    have length : padded.length = prevBlockLen + (numSkippedBlocks - prevBlockLen).toNat := by
      rw [isPadded, length_append, length_replicate]
    have fits : reused.length ≤ padded.length +
        min numSpeculativeBlocks (numSkippedBlocks - (prevBlockLen - numSpeculativeBlocks : Nat)).toNat := by
      rw [isReused]
      split
      next => exact room
      next => exact Nat.le_add_right _ _
    have moves := holding.rearrange same
    exact .set (moves.trans (getNewBlocks_moves moves.holding (by omega) got).1) rfl

theorem allocateNewBlocks_shifts {numTokens numTokensMainModel : Int}
    (ran : self.allocateNewBlocks config pool requestId numTokens numTokensMainModel = .ok (blocks, next, after)) :
    Shifts requestId pool self next after := by
  unfold allocateNewBlocks at ran
  split at ran
  · exact alignNewBlocks_shifts holding ran
  · exact baseNewBlocks_shifts holding ran
  · exact baseNewBlocks_shifts holding ran

theorem baseCacheBlocks_shifts {request : Request} (isRequest : request.requestId = requestId) {numTokens : Int}
    {retentionInterval : Option Nat}
    (ran : self.baseCacheBlocks config pool request numTokens retentionInterval = .ok (next, after)) :
    Shifts requestId pool self next after := by
  unfold baseCacheBlocks at ran
  dsimp only at ran
  split at ran
  next =>
    cases ran
    exact .refl holding
  next =>
    obtain ⟨_, -, ran⟩ := bind_eq_ok.mp ran
    obtain ⟨cached, caches, ran⟩ := bind_eq_ok.mp ran
    cases ran
    obtain ⟨free, sound⟩ := holding.sound
    obtain ⟨nextSound, same⟩ := cacheFullBlocks_sound sound (isRequest ▸ holding.inRange) caches
    have others : ∀ block ≠ pool.nullBlock, (next.blocks block).refCnt - (self.reqToBlocks requestId).count block =
        (pool.blocks block).refCnt - (self.reqToBlocks requestId).count block := fun block _ => by rw [same.refCnt]
    exact ⟨fun _ _ => rfl, holding.moves ⟨free, nextSound⟩ same.numGpuBlocks same.nullBlock others holding.inRange
      holding.once⟩

theorem cacheBlocks_shifts {request : Request} (isRequest : request.requestId = requestId) {numTokens : Int}
    {retentionInterval : Option Nat}
    (ran : self.cacheBlocks config pool request numTokens retentionInterval = .ok (next, after)) :
    Shifts requestId pool self next after := by
  unfold cacheBlocks at ran
  split at ran
  next => cases ran
  next =>
    split at ran
    next =>
      obtain ⟨⟨cachedPool, cached⟩, caches, ran⟩ := bind_eq_ok.mp ran
      obtain ⟨hashes, -, ran⟩ := bind_eq_ok.mp ran
      cases ran
      have shifts := baseCacheBlocks_shifts holding isRequest caches
      exact ⟨shifts.others, shifts.moves⟩
    next => exact baseCacheBlocks_shifts holding isRequest ran

omit holding in
/-- The removed blocks are those the list lost. -/
theorem skipBlocks_count (count : Nat) (blocks : List BlockId) {block : BlockId} (notNull : block ≠ pool.nullBlock) :
    blocks.count block = (skipBlocks pool count blocks).1.count block +
      (skipBlocks pool count blocks).2.1.count block + (skipBlocks pool count blocks).2.2.count block := by
  induction count generalizing blocks with
  | zero => rfl
  | succ i ih =>
    rw [skipBlocks]
    split
    next => rfl
    next removed read =>
      split
      next => rfl
      next =>
        have moved := count_set read notNull
        have rest := ih (blocks.set i pool.nullBlock)
        rw [List.count_singleton] at moved
        generalize skipBlocks pool i (blocks.set i pool.nullBlock) = skipped at rest ⊢
        obtain ⟨kept, cached, uncached⟩ := skipped
        dsimp only at rest ⊢
        split
        all_goals
          simp only [count_cons]
          omega

theorem baseRemoveSkippedBlocks_shifts {totalComputedTokens : Int}
    (ran : self.baseRemoveSkippedBlocks config pool requestId totalComputedTokens = .ok (next, after)) :
    Shifts requestId pool self next after := by
  unfold baseRemoveSkippedBlocks at ran
  dsimp only at ran
  split at ran
  next =>
    cases ran
    exact .refl holding
  next =>
    obtain ⟨freedOnce, first, ran⟩ := bind_eq_ok.mp ran
    obtain ⟨freedTwice, second, ran⟩ := bind_eq_ok.mp ran
    cases ran
    set skipped := skipBlocks pool _ (self.reqToBlocks requestId) with isSkipped
    have parts : ∀ block ≠ pool.nullBlock, (self.reqToBlocks requestId).count block =
        (skipped.1 ++ skipped.2.2).count block + skipped.2.1.count block := fun block notNull => by
      rw [skipBlocks_count _ _ notNull, ← isSkipped, count_append]
      omega
    obtain ⟨_, first', moves⟩ := freeBlocks_moves holding false parts
    cases first.symm.trans first'
    obtain ⟨_, second', moves'⟩ := freeBlocks_moves moves.holding true fun block _ => count_append
    cases second.symm.trans second'
    exact .set (moves.trans moves') rfl

theorem removeLastState_shifts {numComputedTokens : Int}
    (ran : self.removeLastState config pool requestId numComputedTokens = .ok (next, after)) :
    Shifts requestId pool self next after := by
  unfold removeLastState at ran
  split at ran
  next =>
    cases ran
    exact .refl holding
  next index =>
    split at ran
    next =>
      dsimp only at ran
      split at ran
      next => cases ran
      next block read =>
        split at ran
        next =>
          cases ran
          exact .refl holding
        next =>
          obtain ⟨freed, frees, ran⟩ := bind_eq_ok.mp ran
          cases ran
          obtain ⟨_, frees', moves⟩ := freeBlocks_moves holding false fun _ notNull => count_set read notNull
          cases frees.symm.trans frees'
          exact .set moves (by rw [← moves.nullBlock]; rfl)
    next =>
      cases ran
      exact .refl holding

theorem removeSkippedBlocks_shifts {totalComputedTokens : Int}
    (ran : self.removeSkippedBlocks config pool requestId totalComputedTokens = .ok (next, after)) :
    Shifts requestId pool self next after := by
  unfold removeSkippedBlocks at ran
  split at ran
  next =>
    obtain ⟨⟨skippedPool, skipped⟩, first, ran⟩ := bind_eq_ok.mp ran
    have shifts := baseRemoveSkippedBlocks_shifts holding first
    dsimp only at ran
    split at ran
    next =>
      have last := removeLastState_shifts shifts.moves.holding ran
      exact ⟨fun other differ => (last.others other differ).trans (shifts.others other differ),
        shifts.moves.trans last.moves⟩
    next =>
      cases ran
      exact shifts
  next => exact baseRemoveSkippedBlocks_shifts holding ran

/-- `free` never raises, and leaves nothing. -/
theorem free_shifts : ∃ next after, self.free config pool requestId = .ok (next, after) ∧
    after.reqToBlocks requestId = [] ∧ Shifts requestId pool self next after := by
  have nothing : (self.forget requestId).reqToBlocks requestId = [] := update_self ..
  have isReverse : ∀ block, (self.reqToBlocks requestId).count block = (self.reqToBlocks requestId).reverse.count block :=
    fun block => count_reverse.symm
  have allBack : ∀ (freed : List BlockId) (block : BlockId), freed.count block = [].count block + freed.count block :=
    fun _ _ => (Nat.zero_add _).symm
  unfold free
  dsimp only
  split
  next =>
    have parts : ∀ block ≠ pool.nullBlock, (self.reqToBlocks requestId).count block =
        (((self.reqToBlocks requestId).reverse.filter fun block => (pool.blocks block).blockHash.isNone)).count block +
        (((self.reqToBlocks requestId).reverse.filter fun block => (pool.blocks block).blockHash.isSome)).count block := by
      intro block _
      rw [isReverse, ← (filter_append_perm (fun block => (pool.blocks block).blockHash.isNone) _).count_eq,
        count_append]
      simp only [Option.not_isNone]
    obtain ⟨mid, first, moves⟩ := freeBlocks_moves holding false parts
    obtain ⟨next, second, moves'⟩ := freeBlocks_moves moves.holding true fun block _ => allBack _ block
    exact ⟨next, self.forget requestId, by rw [first]; exact congrArg (· >>= _) second, nothing,
      .set (moves.trans moves') rfl⟩
  next =>
    obtain ⟨next, frees, moves⟩ := freeBlocks_moves holding false fun block _ =>
      (isReverse block).trans (allBack _ block)
    exact ⟨next, self.forget requestId, by rw [frees]; rfl, nothing, .set moves rfl⟩

end

end SingleTypeKVCacheManager

end DeepSpark
