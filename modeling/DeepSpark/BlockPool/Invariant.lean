import DeepSpark.BlockPool.Pool

/-!
The representation invariant of the block pool.

Owns the invariant `Sound` that ties reference counts, free queue and
prefix-cache map together, one preservation lemma per pool operation, the runs
of the pool and the safety of every reachable pool: the queue's internal
exceptions and the reference-count assertion cannot fire.
-/

namespace DeepSpark

open Lib Function BlockHashToBlockMap FreeKVCacheBlockQueue

variable {pool' : BlockPool} {block : BlockId}

namespace BlockPool

/-- Counts, queue and map agree. The blocks of `pending` were popped from the
queue and are not claimed yet; between operations there are none. -/
structure SoundWith (pool : BlockPool) (pending free : List BlockId) : Prop where
  queue : pool.freeBlockQueue.Holds free
  nodup : (pending ++ free).Nodup
  mem_iff : ∀ block, block ∈ pending ++ free ↔ block < pool.numGpuBlocks ∧
    (pool.blocks block).isNull = false ∧ (pool.blocks block).refCnt = 0
  refCnt_nonneg : ∀ block, (pool.blocks block).isNull = false → 0 ≤ (pool.blocks block).refCnt
  isNull_iff : ∀ block, (pool.blocks block).isNull = true ↔ block = pool.nullBlock
  nullInRange : pool.nullBlock < pool.numGpuBlocks
  map : pool.cachedBlockHashToBlock.WellFormed
  hash_iff : ∀ block key, (pool.blocks block).blockHash = some key ↔
    block ∈ pool.cachedBlockHashToBlock.stored key
  hashInRange : ∀ block key, (pool.blocks block).blockHash = some key →
    block < pool.numGpuBlocks ∧ (pool.blocks block).isNull = false

abbrev Sound (pool : BlockPool) (free : List BlockId) : Prop := pool.SoundWith [] free

variable {pool : BlockPool} {pending free : List BlockId}

theorem Sound.mem_free_iff (sound : pool.Sound free) (block : BlockId) :
    block ∈ free ↔ block < pool.numGpuBlocks ∧ (pool.blocks block).isNull = false ∧
      (pool.blocks block).refCnt = 0 :=
  sound.mem_iff block

theorem Sound.numFree (sound : pool.Sound free) : pool.getNumFreeBlocks = free.length :=
  sound.queue.count

/-! ## Frames -/

structure SameCounts (pool pool' : BlockPool) : Prop where
  numGpuBlocks : pool'.numGpuBlocks = pool.numGpuBlocks
  enableCaching : pool'.enableCaching = pool.enableCaching
  hashBlockSize : pool'.hashBlockSize = pool.hashBlockSize
  nullBlock : pool'.nullBlock = pool.nullBlock
  queue : pool'.freeBlockQueue = pool.freeBlockQueue
  refCnt : ∀ block, (pool'.blocks block).refCnt = (pool.blocks block).refCnt
  isNull : ∀ block, (pool'.blocks block).isNull = (pool.blocks block).isNull

theorem SameCounts.refl (pool : BlockPool) : SameCounts pool pool :=
  ⟨rfl, rfl, rfl, rfl, rfl, fun _ => rfl, fun _ => rfl⟩

theorem SameCounts.trans {first second third : BlockPool} (left : SameCounts first second)
    (right : SameCounts second third) : SameCounts first third :=
  ⟨right.1.trans left.1, right.2.trans left.2, right.3.trans left.3, right.4.trans left.4,
    right.5.trans left.5, fun block => (right.6 block).trans (left.6 block),
    fun block => (right.7 block).trans (left.7 block)⟩

theorem SoundWith.of_sameCounts (sound : pool.SoundWith pending free)
    (same : SameCounts pool pool') (map : pool'.cachedBlockHashToBlock.WellFormed)
    (hash_iff : ∀ block key, (pool'.blocks block).blockHash = some key ↔
      block ∈ pool'.cachedBlockHashToBlock.stored key)
    (hashInRange : ∀ block key, (pool'.blocks block).blockHash = some key →
      block < pool.numGpuBlocks ∧ (pool.blocks block).isNull = false) :
    pool'.SoundWith pending free where
  queue := by rw [same.queue]; exact sound.queue
  nodup := sound.nodup
  mem_iff := fun block => by
    rw [same.numGpuBlocks, same.refCnt, same.isNull]
    exact sound.mem_iff block
  refCnt_nonneg := fun block => by
    rw [same.refCnt, same.isNull]
    exact sound.refCnt_nonneg block
  isNull_iff := fun block => by
    rw [same.isNull, same.nullBlock]
    exact sound.isNull_iff block
  nullInRange := by rw [same.numGpuBlocks, same.nullBlock]; exact sound.nullInRange
  map := map
  hash_iff := hash_iff
  hashInRange := fun block key hashed => by
    rw [same.numGpuBlocks, same.isNull]
    exact hashInRange block key hashed

theorem modifyBlock_of_ne (pool : BlockPool) {other : BlockId}
    (change : KVCacheBlock → KVCacheBlock) (different : other ≠ block) :
    (pool.modifyBlock block change).blocks other = pool.blocks other :=
  update_of_ne different _ _

theorem modifyBlock_self (pool : BlockPool) (block : BlockId)
    (change : KVCacheBlock → KVCacheBlock) :
    (pool.modifyBlock block change).blocks block = change (pool.blocks block) :=
  update_self _ _ _

structure SameHashes (pool pool' : BlockPool) : Prop where
  numGpuBlocks : pool'.numGpuBlocks = pool.numGpuBlocks
  enableCaching : pool'.enableCaching = pool.enableCaching
  hashBlockSize : pool'.hashBlockSize = pool.hashBlockSize
  nullBlock : pool'.nullBlock = pool.nullBlock
  map : pool'.cachedBlockHashToBlock = pool.cachedBlockHashToBlock
  blockHash : ∀ block, (pool'.blocks block).blockHash = (pool.blocks block).blockHash
  isNull : ∀ block, (pool'.blocks block).isNull = (pool.blocks block).isNull

theorem SameHashes.refl (pool : BlockPool) : SameHashes pool pool :=
  ⟨rfl, rfl, rfl, rfl, rfl, fun _ => rfl, fun _ => rfl⟩

theorem SameHashes.trans {first second third : BlockPool} (left : SameHashes first second)
    (right : SameHashes second third) : SameHashes first third :=
  ⟨right.1.trans left.1, right.2.trans left.2, right.3.trans left.3, right.4.trans left.4,
    right.5.trans left.5, fun block => (right.6 block).trans (left.6 block),
    fun block => (right.7 block).trans (left.7 block)⟩

theorem SoundWith.of_sameHashes {pending' free' : List BlockId}
    (sound : pool.SoundWith pending free) (same : SameHashes pool pool')
    (queue : pool'.freeBlockQueue.Holds free') (nodup : (pending' ++ free').Nodup)
    (mem_iff : ∀ block, block ∈ pending' ++ free' ↔ block < pool.numGpuBlocks ∧
      (pool.blocks block).isNull = false ∧ (pool'.blocks block).refCnt = 0)
    (refCnt_nonneg : ∀ block, (pool.blocks block).isNull = false →
      0 ≤ (pool'.blocks block).refCnt) :
    pool'.SoundWith pending' free' where
  queue := queue
  nodup := nodup
  mem_iff := fun block => by
    rw [same.numGpuBlocks, same.isNull]
    exact mem_iff block
  refCnt_nonneg := fun block => by
    rw [same.isNull]
    exact refCnt_nonneg block
  isNull_iff := fun block => by
    rw [same.isNull, same.nullBlock]
    exact sound.isNull_iff block
  nullInRange := by rw [same.numGpuBlocks, same.nullBlock]; exact sound.nullInRange
  map := by rw [same.map]; exact sound.map
  hash_iff := fun block key => by
    rw [same.blockHash, same.map]
    exact sound.hash_iff block key
  hashInRange := fun block key => by
    rw [same.blockHash, same.numGpuBlocks, same.isNull]
    exact sound.hashInRange block key

theorem addRef_sameHashes (pool : BlockPool) (block : BlockId) (change : Int) :
    SameHashes pool (pool.addRef block change) := by
  refine ⟨rfl, rfl, rfl, rfl, rfl, fun other => ?_, fun other => ?_⟩
  all_goals
    by_cases same : other = block
    · subst same
      rw [addRef, modifyBlock_self]
    · rw [addRef, modifyBlock_of_ne _ _ same]

theorem addRef_refCnt (pool : BlockPool) (block other : BlockId) (change : Int) :
    ((pool.addRef block change).blocks other).refCnt =
      (pool.blocks other).refCnt + if other = block then change else 0 := by
  by_cases same : other = block
  · subst same
    rw [addRef, modifyBlock_self, if_pos rfl]
  · rw [addRef, modifyBlock_of_ne _ _ same, if_neg same, add_zero]

/-! ## Eviction from the prefix cache -/

theorem resetHash_sameCounts (pool : BlockPool) (block : BlockId) :
    SameCounts pool (pool.resetHash block) := by
  refine ⟨rfl, rfl, rfl, rfl, rfl, fun other => ?_, fun other => ?_⟩
  all_goals
    by_cases same : other = block
    · subst same
      rw [resetHash, modifyBlock_self]
    · rw [resetHash, modifyBlock_of_ne _ _ same]

theorem maybeEvictCachedBlock_sameCounts (pool : BlockPool) (block : BlockId) :
    SameCounts pool (pool.maybeEvictCachedBlock block).2 := by
  unfold maybeEvictCachedBlock
  split
  next => exact .refl pool
  next blockHash hashed =>
    simp only
    split
    next =>
      have same := resetHash_sameCounts pool block
      exact ⟨rfl, rfl, rfl, rfl, rfl, same.refCnt, same.isNull⟩
    next => exact ⟨rfl, rfl, rfl, rfl, rfl, fun _ => rfl, fun _ => rfl⟩

theorem maybeEvictCachedBlock_eq (sound : pool.SoundWith pending free) (block : BlockId) :
    (∀ other, ((pool.maybeEvictCachedBlock block).2.blocks other).blockHash =
      if other = block then none else (pool.blocks other).blockHash) ∧
    (pool.maybeEvictCachedBlock block).2.cachedBlockHashToBlock.WellFormed ∧
    ∀ other key, other ∈ (pool.maybeEvictCachedBlock block).2.cachedBlockHashToBlock.stored key ↔
      other ∈ pool.cachedBlockHashToBlock.stored key ∧ other ≠ block := by
  cases hashed : (pool.blocks block).blockHash with
  | none =>
    have same : (pool.maybeEvictCachedBlock block).2 = pool := by
      simp [maybeEvictCachedBlock, hashed]
    rw [same]
    refine ⟨fun other => ?_, sound.map, fun other key => ?_⟩
    · split
      next isBlock => rw [isBlock, hashed]
      next => rfl
    · refine ⟨fun member => ⟨member, ?_⟩, And.left⟩
      rintro rfl
      rw [← sound.hash_iff, hashed] at member
      cases member
  | some blockHash =>
    have found : (pool.cachedBlockHashToBlock.pop blockHash block).1 = true :=
      pop_found.mpr ((sound.hash_iff _ _).mp hashed)
    simp only [maybeEvictCachedBlock, hashed, found, if_true]
    refine ⟨fun other => ?_, pop_wellFormed sound.map _ _,
      fun other key => ?_⟩
    · change ((pool.resetHash block).blocks other).blockHash = _
      rw [resetHash]
      split
      next isBlock => rw [isBlock, modifyBlock_self]
      next different => rw [modifyBlock_of_ne _ _ different]
    · change other ∈ (pool.cachedBlockHashToBlock.pop blockHash block).2.stored key ↔ _
      rw [mem_stored_pop sound.map]
      refine and_congr_right fun member => ?_
      constructor
      · rintro notSame rfl
        rw [← sound.hash_iff, hashed] at member
        exact notSame ⟨(Option.some.inj member).symm, rfl⟩
      · exact fun different both => different both.2

theorem maybeEvictCachedBlock_sound (sound : pool.SoundWith pending free) (block : BlockId) :
    (pool.maybeEvictCachedBlock block).2.SoundWith pending free := by
  obtain ⟨hashes, map, stored⟩ := maybeEvictCachedBlock_eq sound block
  refine sound.of_sameCounts (maybeEvictCachedBlock_sameCounts pool block) map ?_ ?_
  · intro other key
    rw [hashes, stored]
    split
    next isBlock => simp [isBlock]
    next different => simp [sound.hash_iff, different]
  · intro other key hashed
    rw [hashes] at hashed
    split at hashed
    next => cases hashed
    next => exact sound.hashInRange other key hashed

/-! ## Allocation -/

theorem claimBlock_sound (sound : pool.SoundWith (block :: pending) free) :
    ∃ claimed, pool.claimBlock block = .ok claimed ∧ claimed.SoundWith pending free := by
  set evicted := if pool.enableCaching then (pool.maybeEvictCachedBlock block).2 else pool
    with evictedDef
  have evictedSound : evicted.SoundWith (block :: pending) free := by
    rw [evictedDef]
    split
    next => exact maybeEvictCachedBlock_sound sound block
    next => exact sound
  have blockFacts := (evictedSound.mem_iff block).mp (by simp)
  refine ⟨evicted.addRef block 1, ?_, ?_⟩
  · simp only [claimBlock, ← evictedDef, blockFacts.2.2, decide_true, pyAssert_true, bind,
      Except.bind]
  · have nodup := List.nodup_cons.mp evictedSound.nodup
    refine evictedSound.of_sameHashes (addRef_sameHashes _ _ _) evictedSound.queue nodup.2 ?_ ?_
    · intro other
      rw [addRef_refCnt]
      by_cases same : other = block
      · subst same
        rw [if_pos rfl, blockFacts.2.2]
        simp only [zero_add, one_ne_zero, and_false, iff_false]
        exact nodup.1
      · rw [if_neg same, add_zero, ← evictedSound.mem_iff other]
        simp [same]
    · intro other notNull
      have nonneg := evictedSound.refCnt_nonneg other notNull
      rw [addRef_refCnt]
      split <;> omega

private theorem claimBlocks_sound (sound : pool.SoundWith pending free) :
    ∃ claimed, pending.foldlM claimBlock pool = .ok claimed ∧ claimed.Sound free := by
  induction pending generalizing pool with
  | nil => exact ⟨pool, rfl, sound⟩
  | cons block rest ih =>
    obtain ⟨claimed, ran, claimedSound⟩ := claimBlock_sound sound
    obtain ⟨final, ranRest, finalSound⟩ := ih claimedSound
    refine ⟨final, ?_, finalSound⟩
    simp only [List.foldlM_cons, ran, bind, Except.bind]
    exact ranRest

theorem getNewBlocks_sound (sound : pool.Sound free) {count : Nat} (enough : count ≤ free.length) :
    ∃ allocated, pool.getNewBlocks count = .ok (free.take count, allocated) ∧
      allocated.Sound (free.drop count) := by
  obtain ⟨queue, popped, holds⟩ := popleftN_holds sound.queue enough
  have pendingSound : ({ pool with freeBlockQueue := queue } : BlockPool).SoundWith
      (free.take count) (free.drop count) := by
    refine sound.of_sameHashes ⟨rfl, rfl, rfl, rfl, rfl, fun _ => rfl, fun _ => rfl⟩ holds ?_ ?_
      sound.refCnt_nonneg
    · rw [List.take_append_drop]
      exact sound.nodup
    · rw [List.take_append_drop]
      exact sound.mem_iff
  obtain ⟨allocated, claimed, allocatedSound⟩ := claimBlocks_sound pendingSound
  refine ⟨allocated, ?_, allocatedSound⟩
  have notMore : ¬ (count : Int) > pool.getNumFreeBlocks := by
    rw [Sound.numFree sound]
    omega
  simp only [getNewBlocks, if_neg notMore, popped, claimed, bind, Except.bind]

theorem getNewBlocks_tooMany (sound : pool.Sound free) {count : Nat} (tooMany : free.length < count) :
    pool.getNewBlocks count =
      .error (.valueError s!"Cannot get {(count : Int)} free blocks from the pool") := by
  have more : (count : Int) > pool.getNumFreeBlocks := by
    rw [Sound.numFree sound]
    omega
  rw [getNewBlocks, if_pos more]

/-! ## Sharing and release -/

theorem touchBlock_sound (sound : pool.Sound free) (inRange : block < pool.numGpuBlocks) :
    ∃ touched, pool.touchBlock block = .ok touched ∧ SameHashes pool touched ∧
      ∃ free', touched.Sound free' := by
  by_cases isFree : (pool.blocks block).refCnt = 0 ∧ (pool.blocks block).isNull = false
  · have member : block ∈ free := (Sound.mem_free_iff sound block).mpr ⟨inRange, isFree.2, isFree.1⟩
    obtain ⟨queue, removed, holds⟩ := remove_holds sound.queue member
    have same : SameHashes pool { pool.addRef block 1 with freeBlockQueue := queue } := by
      have counted := addRef_sameHashes pool block 1
      exact ⟨rfl, rfl, rfl, rfl, rfl, counted.blockHash, counted.isNull⟩
    refine ⟨{ pool.addRef block 1 with freeBlockQueue := queue }, ?_, same, free.erase block, ?_⟩
    · simp only [touchBlock, if_pos isFree, removed, bind, Except.bind]
    · refine sound.of_sameHashes same holds (sound.nodup.erase block) ?_ ?_
      · intro other
        rw [List.nil_append, sound.queue.nodup.mem_erase_iff, Sound.mem_free_iff sound]
        rw [addRef_refCnt]
        by_cases isBlock : other = block
        · simp [isBlock, isFree.1]
        · simp [isBlock]
      · intro other notNull
        have nonneg := sound.refCnt_nonneg other notNull
        rw [addRef_refCnt]
        split <;> omega
  · have same := addRef_sameHashes pool block 1
    refine ⟨pool.addRef block 1, ?_, same, free, ?_⟩
    · simp only [touchBlock, if_neg isFree, bind, Except.bind]
      rfl
    · refine sound.of_sameHashes same sound.queue sound.nodup ?_ ?_
      · intro other
        rw [addRef_refCnt, List.nil_append, Sound.mem_free_iff sound]
        by_cases isBlock : other = block
        · subst isBlock
          rw [if_pos rfl]
          refine and_congr_right fun _ => and_congr_right fun notNull => ?_
          have nonneg := sound.refCnt_nonneg other notNull
          have notZero : (pool.blocks other).refCnt ≠ 0 := fun isZero => isFree ⟨isZero, notNull⟩
          omega
        · rw [if_neg isBlock, add_zero]
      · intro other notNull
        have nonneg := sound.refCnt_nonneg other notNull
        rw [addRef_refCnt]
        split <;> omega

theorem touch_sound (sound : pool.Sound free) {blocks : List BlockId}
    (inRange : ∀ block ∈ blocks, block < pool.numGpuBlocks) :
    ∃ touched, pool.touch blocks = .ok touched ∧ SameHashes pool touched ∧
      ∃ free', touched.Sound free' := by
  induction blocks generalizing pool free with
  | nil => exact ⟨pool, rfl, .refl pool, free, sound⟩
  | cons block rest ih =>
    obtain ⟨next, ran, same, free', nextSound⟩ := touchBlock_sound sound (inRange block (by simp))
    obtain ⟨touched, ranRest, sameRest, final⟩ := ih nextSound
      (fun other member => by
        rw [same.numGpuBlocks]
        exact inRange other (by simp [member]))
    refine ⟨touched, ?_, same.trans sameRest, final⟩
    rw [touch, List.foldlM_cons, ran]
    exact ranRest

theorem releaseBlocks_sameHashes (pool : BlockPool) (blocks : List BlockId) :
    SameHashes pool (pool.releaseBlocks blocks) := by
  induction blocks generalizing pool with
  | nil => exact .refl pool
  | cons block rest ih =>
    exact (addRef_sameHashes pool block (-1)).trans (ih _)

theorem releaseBlocks_queue (pool : BlockPool) (blocks : List BlockId) :
    (pool.releaseBlocks blocks).freeBlockQueue = pool.freeBlockQueue := by
  induction blocks generalizing pool with
  | nil => rfl
  | cons block rest ih => exact ih (pool.addRef block (-1))

theorem releaseBlocks_refCnt (pool : BlockPool) (blocks : List BlockId) (other : BlockId) :
    ((pool.releaseBlocks blocks).blocks other).refCnt =
      (pool.blocks other).refCnt - blocks.count other := by
  induction blocks generalizing pool with
  | nil => simp [releaseBlocks]
  | cons block rest ih =>
    have step := ih (pool.addRef block (-1))
    rw [addRef_refCnt] at step
    change ((releaseBlocks (pool.addRef block (-1)) rest).blocks other).refCnt = _
    rw [step, List.count_cons]
    by_cases same : other = block
    · subst same
      simp
      omega
    · simp [same, Ne.symm same]

/-- What `free_blocks` is called with: blocks of the pool, the non-null ones
distinct and in use. -/
structure Releasable (pool : BlockPool) (blocks : List BlockId) : Prop where
  inRange : ∀ block ∈ blocks, block < pool.numGpuBlocks
  distinct : (blocks.filter fun block => !(pool.blocks block).isNull).Nodup
  inUse : ∀ block ∈ blocks, (pool.blocks block).isNull = false → 1 ≤ (pool.blocks block).refCnt

theorem Releasable.count_le_one {blocks : List BlockId} (releasable : pool.Releasable blocks)
    (notNull : (pool.blocks block).isNull = false) : blocks.count block ≤ 1 := by
  have counted := List.nodup_iff_count_le_one.mp releasable.distinct block
  rwa [List.count_filter (by simp [notNull])] at counted

theorem freeBlocks_sound (sound : pool.Sound free) {blocks : List BlockId}
    (releasable : pool.Releasable blocks) (prepend : Bool) :
    ∃ released, pool.freeBlocks blocks prepend = .ok released ∧ SameHashes pool released ∧
      ∃ free', released.Sound free' := by
  set released := pool.releaseBlocks blocks with releasedDef
  have same : SameHashes pool released := releaseBlocks_sameHashes pool blocks
  have refCnt : ∀ other, (released.blocks other).refCnt =
      (pool.blocks other).refCnt - blocks.count other := releaseBlocks_refCnt pool blocks
  have holds : released.freeBlockQueue.Holds free := by
    rw [releasedDef, releaseBlocks_queue]
    exact sound.queue
  set freed := blocks.filter fun block =>
    (released.blocks block).refCnt = 0 && !(released.blocks block).isNull with freedDef
  have mem_freed : ∀ block, block ∈ freed ↔ block ∈ blocks ∧
      (released.blocks block).refCnt = 0 ∧ (pool.blocks block).isNull = false := by
    intro block
    rw [freedDef, List.mem_filter, same.isNull]
    simp
  have freedNodup : freed.Nodup := by
    rw [List.nodup_iff_count_le_one]
    intro block
    by_cases member : block ∈ freed
    · have notNull := ((mem_freed block).mp member).2.2
      exact (List.Sublist.count_le block List.filter_sublist).trans
        (releasable.count_le_one notNull)
    · rw [List.count_eq_zero_of_not_mem member]
      omega
  have apart : ∀ block ∈ freed, block ∉ free := by
    intro block member inFree
    obtain ⟨inBlocks, -, notNull⟩ := (mem_freed block).mp member
    have inUse := releasable.inUse block inBlocks notNull
    have unused := ((Sound.mem_free_iff sound block).mp inFree).2.2
    omega
  have mem_iff : ∀ block, (block ∈ free ∨ block ∈ freed) ↔ block < pool.numGpuBlocks ∧
      (pool.blocks block).isNull = false ∧ (released.blocks block).refCnt = 0 := by
    intro block
    rw [Sound.mem_free_iff sound, mem_freed, refCnt]
    constructor
    · rintro (⟨inRange, notNull, unused⟩ | ⟨inBlocks, unused, notNull⟩)
      · have absent : block ∉ blocks := by
          intro inBlocks
          have inUse := releasable.inUse block inBlocks notNull
          omega
        rw [List.count_eq_zero_of_not_mem absent, unused]
        exact ⟨inRange, notNull, rfl⟩
      · exact ⟨releasable.inRange block inBlocks, notNull, unused⟩
    · rintro ⟨inRange, notNull, unused⟩
      by_cases inBlocks : block ∈ blocks
      · exact Or.inr ⟨inBlocks, unused, notNull⟩
      · rw [List.count_eq_zero_of_not_mem inBlocks] at unused
        exact Or.inl ⟨inRange, notNull, by simpa using unused⟩
  have nonneg : ∀ block, (pool.blocks block).isNull = false →
      0 ≤ (released.blocks block).refCnt := by
    intro block notNull
    have before := sound.refCnt_nonneg block notNull
    have once := releasable.count_le_one notNull
    rw [refCnt]
    by_cases inBlocks : block ∈ blocks
    · have inUse := releasable.inUse block inBlocks notNull
      omega
    · rw [List.count_eq_zero_of_not_mem inBlocks]
      simpa using before
  have rest : ∀ (queue : FreeKVCacheBlockQueue) (free' : List BlockId), queue.Holds free' →
      (∀ block, block ∈ free' ↔ block ∈ free ∨ block ∈ freed) →
      ({ released with freeBlockQueue := queue } : BlockPool).Sound free' := by
    intro queue free' queueHolds members
    refine sound.of_sameHashes ⟨same.1, same.2, same.3, same.4, same.5, same.6, same.7⟩
      queueHolds queueHolds.nodup ?_ nonneg
    intro block
    rw [List.nil_append, members]
    exact mem_iff block
  cases prepend with
  | true =>
    obtain ⟨queue, prepended, queueHolds⟩ := prependN_holds holds
      (List.nodup_append.mpr ⟨freedNodup, sound.queue.nodup, fun left leftMember right rightMember
        equal => apart left leftMember (equal ▸ rightMember)⟩)
    refine ⟨{ released with freeBlockQueue := queue }, ?_,
      ⟨same.1, same.2, same.3, same.4, same.5, same.6, same.7⟩, freed ++ free,
      rest queue _ queueHolds (by simp [or_comm])⟩
    simp only [freeBlocks, ← releasedDef, ← freedDef, if_true, prepended, bind, Except.bind]
  | false =>
    obtain ⟨queue, appended, queueHolds⟩ := appendN_holds holds
      (List.nodup_append.mpr ⟨sound.queue.nodup, freedNodup, fun left leftMember right rightMember
        equal => apart right rightMember (equal ▸ leftMember)⟩)
    refine ⟨{ released with freeBlockQueue := queue }, ?_,
      ⟨same.1, same.2, same.3, same.4, same.5, same.6, same.7⟩, free ++ freed,
      rest queue _ queueHolds (by simp)⟩
    simp only [freeBlocks, ← releasedDef, ← freedDef, Bool.false_eq_true, if_false, appended,
      bind, Except.bind]

/-! ## Caching -/

theorem setBlockHash_sameCounts (pool : BlockPool) (block : BlockId) (key : BlockHashWithGroupId) :
    SameCounts pool (pool.setBlockHash block key) := by
  refine ⟨rfl, rfl, rfl, rfl, rfl, fun other => ?_, fun other => ?_⟩
  all_goals
    by_cases same : other = block
    · subst same
      simp [setBlockHash, modifyBlock_self]
    · simp [setBlockHash, modifyBlock_of_ne _ _ same]

theorem setBlockHash_blockHash (pool : BlockPool) (block other : BlockId)
    (key : BlockHashWithGroupId) :
    ((pool.setBlockHash block key).blocks other).blockHash =
      if other = block then some key else (pool.blocks other).blockHash := by
  by_cases same : other = block
  · subst same
    simp [setBlockHash, modifyBlock_self]
  · simp [setBlockHash, modifyBlock_of_ne _ _ same, same]

theorem setBlockHash_sound (sound : pool.SoundWith pending free)
    (key : BlockHashWithGroupId) (inRange : block < pool.numGpuBlocks)
    (notNull : (pool.blocks block).isNull = false)
    (unhashed : (pool.blocks block).blockHash = none) :
    (pool.setBlockHash block key).SoundWith pending free := by
  refine sound.of_sameCounts (setBlockHash_sameCounts pool block key)
    (insert_wellFormed sound.map key block) ?_ ?_
  · intro other otherKey
    rw [setBlockHash_blockHash]
    change _ ↔ other ∈ (pool.cachedBlockHashToBlock.insert key block).stored otherKey
    rw [mem_stored_insert, ← sound.hash_iff]
    by_cases same : other = block
    · subst same
      rw [if_pos rfl, unhashed]
      simp [eq_comm]
    · simp [same]
  · intro other otherKey hashed
    rw [setBlockHash_blockHash] at hashed
    by_cases same : other = block
    · subst same
      exact ⟨inRange, notNull⟩
    · rw [if_neg same] at hashed
      exact sound.hashInRange other otherKey hashed

section

variable (sound : pool.Sound free)

include sound

theorem cacheLoop_sound {newBlockHashes : List BlockHash}
    {blockMask : Option (List Bool)} {groupId i : Nat} {blocks : List BlockId}
    (inRange : ∀ block ∈ blocks, block < pool.numGpuBlocks) {newHashes : List BlockHash}
    {cached : BlockPool}
    (ran : cacheLoop newBlockHashes blockMask groupId pool i blocks = .ok (newHashes, cached)) :
    cached.Sound free ∧ SameCounts pool cached := by
  induction blocks generalizing pool i newHashes with
  | nil =>
    cases ran
    exact ⟨sound, .refl _⟩
  | cons block rest ih =>
    rw [cacheLoop] at ran
    split at ran
    next => exact ih sound (fun other member => inRange other (by simp [member])) ran
    next kept =>
      have notNull : (pool.blocks block).isNull = false := by
        simp only [skips, Bool.or_eq_true, not_or, Bool.not_eq_true] at kept
        exact kept.1
      obtain ⟨_, checked, ran⟩ := bind_eq_ok.mp ran
      have unhashed := Option.isNone_iff_eq_none.mp (pyAssert_eq_ok.mp checked)
      split at ran
      next => cases ran
      next blockHash read =>
        obtain ⟨key, -, ran⟩ := bind_eq_ok.mp ran
        obtain ⟨⟨otherHashes, final⟩, ranRest, ran⟩ := bind_eq_ok.mp ran
        cases ran
        have stored := setBlockHash_sound sound key (inRange block (by simp)) notNull unhashed
        have same := setBlockHash_sameCounts pool block key
        obtain ⟨finalSound, sameRest⟩ := ih stored
          (fun other member => by
            rw [same.numGpuBlocks]
            exact inRange other (by simp [member])) ranRest
        exact ⟨finalSound, same.trans sameRest⟩

theorem pushEvents_sound (events : List KVCacheEvent) :
    ({ pool with kvEventQueue := events } : BlockPool).Sound free :=
  sound.of_sameCounts ⟨rfl, rfl, rfl, rfl, rfl, fun _ => rfl, fun _ => rfl⟩ sound.map sound.hash_iff
    sound.hashInRange

theorem cacheFullBlocks_sound {request : Request} {blocks : List BlockId}
    {numCachedBlocks numFullBlocks blockSize groupId : Nat} {blockMask : Option (List Bool)}
    (inRange : ∀ block ∈ blocks, block < pool.numGpuBlocks) {cached : BlockPool}
    (ran : pool.cacheFullBlocks request blocks numCachedBlocks numFullBlocks blockSize groupId
      blockMask = .ok cached) :
    cached.Sound free ∧ SameCounts pool cached := by
  unfold cacheFullBlocks at ran
  split at ran
  next =>
    cases ran
    exact ⟨sound, .refl pool⟩
  next =>
    obtain ⟨-, -, ran⟩ := bind_eq_ok.mp ran
    obtain ⟨-, -, ran⟩ := bind_eq_ok.mp ran
    obtain ⟨blockHashes, -, ran⟩ := bind_eq_ok.mp ran
    obtain ⟨⟨newHashes, stored⟩, looped, ran⟩ := bind_eq_ok.mp ran
    have newInRange : ∀ block ∈ (blocks.take numFullBlocks).drop numCachedBlocks,
        block < pool.numGpuBlocks := fun block member =>
      inRange block (List.mem_of_mem_take (List.mem_of_mem_drop member))
    obtain ⟨storedSound, same⟩ := cacheLoop_sound sound newInRange looped
    dsimp only at ran
    split at ran
    next =>
      obtain ⟨event, -, ran⟩ := bind_eq_ok.mp ran
      cases ran
      exact ⟨pushEvents_sound storedSound _,
        ⟨same.1, same.2, same.3, same.4, same.5, same.6, same.7⟩⟩
    next =>
      cases ran
      exact ⟨storedSound, same⟩

theorem evictBlocks_sound {blockIds : List BlockId}
    {evicted : BlockPool} (ran : pool.evictBlocks blockIds = .ok evicted) :
    evicted.Sound free ∧ SameCounts pool evicted := by
  induction blockIds generalizing pool with
  | nil =>
    cases ran
    exact ⟨sound, .refl _⟩
  | cons block rest ih =>
    rw [evictBlocks, List.foldlM_cons] at ran
    obtain ⟨next, ranFirst, ranRest⟩ := bind_eq_ok.mp ran
    obtain ⟨-, -, ranFirst⟩ := bind_eq_ok.mp ranFirst
    cases ranFirst
    obtain ⟨finalSound, same⟩ :=
      ih (maybeEvictCachedBlock_sound sound block) ranRest
    exact ⟨finalSound, (maybeEvictCachedBlock_sameCounts pool block).trans same⟩

theorem resetPrefixCache_sound :
    pool.resetPrefixCache.2.Sound free ∧ SameCounts pool pool.resetPrefixCache.2 := by
  unfold resetPrefixCache
  split
  next => exact ⟨sound, .refl pool⟩
  next =>
    have same : SameCounts pool (pushEvent { pool with
        cachedBlockHashToBlock := .empty
        blocks := fun block => { pool.blocks block with blockHash := none } } .allBlocksCleared) :=
      ⟨rfl, rfl, rfl, rfl, rfl, fun _ => rfl, fun _ => rfl⟩
    refine ⟨sound.of_sameCounts same empty_wellFormed ?_ ?_, same⟩
    · intro block key
      simp [pushEvent, stored, empty]
    · intro block key hashed
      simp [pushEvent] at hashed

end

/-! ## Whole runs -/

theorem init_sound {numGpuBlocks hashBlockSize : Nat}
    {enableCaching enableKvCacheEvents useIntBlockHashes : Bool} (positive : 0 < numGpuBlocks) :
    ∃ pool, init numGpuBlocks enableCaching hashBlockSize enableKvCacheEvents useIntBlockHashes =
        .ok pool ∧ pool.Sound (List.range' 1 (numGpuBlocks - 1)) := by
  obtain ⟨more, rfl⟩ : ∃ more, numGpuBlocks = more + 1 := ⟨numGpuBlocks - 1, by omega⟩
  have blocks : List.range (more + 1) = 0 :: List.range' 1 more := by
    rw [List.range_eq_range', List.range'_succ]
  have holds : (FreeKVCacheBlockQueue.init (0 :: List.range' 1 more)).Holds
      (0 :: List.range' 1 more) := by
    rw [← blocks]
    exact init_holds List.nodup_range
  obtain ⟨queue, popped, queueHolds⟩ := popleft_holds holds
  have nullBlock : ∀ block : BlockId, (update (fun _ : BlockId => ({} : KVCacheBlock)) 0
      { ({} : KVCacheBlock) with isNull := true }) block =
        if block = 0 then { ({} : KVCacheBlock) with isNull := true } else {} := by
    intro block
    by_cases isNull : block = 0
    · simp [isNull]
    · simp [isNull]
  refine ⟨_, by
    rw [init, blocks]
    simp only [popped, bind, Except.bind]
    rfl, ?_⟩
  refine ⟨queueHolds, queueHolds.nodup, ?_, ?_, ?_, positive,
    empty_wellFormed, ?_, ?_⟩
  · intro block
    simp only [modifyBlock, nullBlock, List.nil_append, List.mem_range'_1]
    by_cases isNull : block = 0
    · simp [isNull]
    · have atLeastOne : 1 ≤ block := Nat.one_le_iff_ne_zero.mpr isNull
      simp only [isNull, if_false, and_true, Nat.add_sub_cancel]
      rw [Nat.add_comm 1 more]
      exact ⟨And.right, fun below => ⟨atLeastOne, below⟩⟩
  · intro block notNull
    simp only [modifyBlock, nullBlock]
    split <;> simp
  · intro block
    simp only [modifyBlock, nullBlock]
    by_cases isNull : block = 0
    · simp [isNull]
    · simp [isNull]
  · intro block key
    simp only [modifyBlock, nullBlock, stored, empty]
    split <;> simp
  · intro block key hashed
    simp only [modifyBlock, nullBlock] at hashed
    split at hashed <;> cases hashed

inductive Step (pool : BlockPool) : BlockPool → Prop where
  | getNewBlocks {allocated : BlockPool} {blocks : List BlockId} (numBlocks : Nat)
      (ran : pool.getNewBlocks numBlocks = .ok (blocks, allocated)) : Step pool allocated
  | touch {touched : BlockPool} (blocks : List BlockId)
      (inRange : ∀ block ∈ blocks, block < pool.numGpuBlocks)
      (ran : pool.touch blocks = .ok touched) : Step pool touched
  | cacheFullBlocks {cached : BlockPool} (request : Request) (blocks : List BlockId)
      (numCachedBlocks numFullBlocks blockSize groupId : Nat) (blockMask : Option (List Bool))
      (inRange : ∀ block ∈ blocks, block < pool.numGpuBlocks)
      (ran : pool.cacheFullBlocks request blocks numCachedBlocks numFullBlocks blockSize groupId
        blockMask = .ok cached) : Step pool cached
  | freeBlocks {released : BlockPool} (blocks : List BlockId) (prepend : Bool)
      (releasable : pool.Releasable blocks)
      (ran : pool.freeBlocks blocks prepend = .ok released) : Step pool released
  | evictBlocks {evicted : BlockPool} (blockIds : List BlockId)
      (ran : pool.evictBlocks blockIds = .ok evicted) : Step pool evicted
  | resetPrefixCache : Step pool pool.resetPrefixCache.2

theorem Step.sound (step : Step pool pool') (sound : pool.Sound free) :
    ∃ free', pool'.Sound free' := by
  cases step with
  | getNewBlocks numBlocks ran =>
    by_cases enough : numBlocks ≤ free.length
    · obtain ⟨allocated, ran', allocatedSound⟩ := getNewBlocks_sound sound enough
      rw [ran] at ran'
      cases ran'
      exact ⟨_, allocatedSound⟩
    · rw [getNewBlocks_tooMany sound (by omega)] at ran
      cases ran
  | touch blocks inRange ran =>
    obtain ⟨touched, ran', -, free', touchedSound⟩ := touch_sound sound inRange
    rw [ran] at ran'
    cases ran'
    exact ⟨free', touchedSound⟩
  | cacheFullBlocks request blocks numCachedBlocks numFullBlocks blockSize groupId blockMask
      inRange ran => exact ⟨free, (cacheFullBlocks_sound sound inRange ran).1⟩
  | freeBlocks blocks prepend releasable ran =>
    obtain ⟨released, ran', -, free', releasedSound⟩ := freeBlocks_sound sound releasable prepend
    rw [ran] at ran'
    cases ran'
    exact ⟨free', releasedSound⟩
  | evictBlocks blockIds ran => exact ⟨free, (evictBlocks_sound sound ran).1⟩
  | resetPrefixCache => exact ⟨free, (resetPrefixCache_sound sound).1⟩

/-- A pool reached from its constructor by any sequence of operations. -/
def Reachable (pool : BlockPool) : Prop :=
  ∃ numGpuBlocks enableCaching hashBlockSize enableKvCacheEvents useIntBlockHashes start,
    init numGpuBlocks enableCaching hashBlockSize enableKvCacheEvents useIntBlockHashes =
      .ok start ∧ Relation.ReflTransGen Step start pool

theorem Reachable.sound (reachable : pool.Reachable) : ∃ free, pool.Sound free := by
  obtain ⟨numGpuBlocks, enableCaching, hashBlockSize, enableKvCacheEvents, useIntBlockHashes, start,
    started, run⟩ := reachable
  induction run with
  | refl =>
    have positive : 0 < numGpuBlocks := by
      obtain ⟨_, checked, -⟩ := bind_eq_ok.mp started
      simpa using pyAssert_eq_ok.mp checked
    obtain ⟨pool, started', sound⟩ := init_sound positive
    rw [started] at started'
    cases started'
    exact ⟨_, sound⟩
  | tail _ step ih =>
    obtain ⟨free, sound⟩ := ih
    exact step.sound sound

/-- In every reachable pool: the free queue holds each non-null block once if
its count is 0 and not at all otherwise, and its counter is its length; a block
has a hash exactly if the map holds it under that hash, and no key is empty; the
null block is neither queued nor cached. No allocation, touch or release can
raise an internal exception: `get_new_blocks` raises only for want of blocks. -/
theorem reachable_representation (reachable : pool.Reachable) :
    ∃ free : List BlockId,
      pool.freeBlockQueue.links.Represents free ∧
      pool.freeBlockQueue.numFreeBlocks = free.length ∧
      (∀ block < pool.numGpuBlocks, block ≠ pool.nullBlock →
        free.count block = if (pool.blocks block).refCnt = 0 then 1 else 0) ∧
      (∀ block key, (pool.blocks block).blockHash = some key ↔
        block ∈ pool.cachedBlockHashToBlock.stored key) ∧
      (∀ key, pool.cachedBlockHashToBlock.cache key ≠ some (.many [])) ∧
      pool.nullBlock ∉ free ∧ (pool.blocks pool.nullBlock).blockHash = none ∧
      (∀ key, pool.nullBlock ∉ pool.cachedBlockHashToBlock.stored key) ∧
      (∀ numBlocks : Nat, (∃ blocks allocated,
          pool.getNewBlocks numBlocks = .ok (blocks, allocated)) ∨
        (free.length < numBlocks ∧ pool.getNewBlocks numBlocks =
          .error (.valueError s!"Cannot get {(numBlocks : Int)} free blocks from the pool"))) ∧
      (∀ blocks : List BlockId, (∀ block ∈ blocks, block < pool.numGpuBlocks) →
        ∃ touched, pool.touch blocks = .ok touched) ∧
      (∀ (blocks : List BlockId) (prepend : Bool), pool.Releasable blocks →
        ∃ released, pool.freeBlocks blocks prepend = .ok released) := by
  obtain ⟨free, sound⟩ := reachable.sound
  have nullUnhashed : (pool.blocks pool.nullBlock).blockHash = none := by
    by_contra hashed
    obtain ⟨key, isKey⟩ := Option.ne_none_iff_exists'.mp hashed
    have notNull := (sound.hashInRange _ _ isKey).2
    rw [(sound.isNull_iff _).mpr rfl] at notNull
    cases notNull
  refine ⟨free, sound.queue.represents, sound.queue.count, ?_, sound.hash_iff, sound.map.nonempty,
    ?_, nullUnhashed, ?_, ?_, ?_, ?_⟩
  · intro block inRange notNullBlock
    have notNull : (pool.blocks block).isNull = false := by
      rw [← Bool.not_eq_true, sound.isNull_iff]
      exact notNullBlock
    split
    next unused =>
      exact List.count_eq_one_of_mem sound.queue.nodup
        ((Sound.mem_free_iff sound block).mpr ⟨inRange, notNull, unused⟩)
    next used =>
      refine List.count_eq_zero_of_not_mem fun member => used ?_
      exact ((Sound.mem_free_iff sound block).mp member).2.2
  · intro member
    have notNull := ((Sound.mem_free_iff sound _).mp member).2.1
    rw [(sound.isNull_iff _).mpr rfl] at notNull
    cases notNull
  · intro key member
    rw [← sound.hash_iff, nullUnhashed] at member
    cases member
  · intro numBlocks
    by_cases enough : numBlocks ≤ free.length
    · obtain ⟨allocated, ran, -⟩ := getNewBlocks_sound sound enough
      exact Or.inl ⟨_, _, ran⟩
    · exact Or.inr ⟨by omega, getNewBlocks_tooMany sound (by omega)⟩
  · intro blocks inRange
    obtain ⟨touched, ran, -⟩ := touch_sound sound inRange
    exact ⟨touched, ran⟩
  · intro blocks prepend releasable
    obtain ⟨released, ran, -⟩ := freeBlocks_sound sound releasable prepend
    exact ⟨released, ran⟩

/-- A pool of three blocks after one allocation. -/
theorem reachable_representation_afterAllocation :
    ∃ start blocks pool free,
      init 3 true 1 false false = .ok start ∧ start.getNewBlocks 1 = .ok (blocks, pool) ∧
        pool.freeBlockQueue.links.Represents free ∧
        pool.freeBlockQueue.numFreeBlocks = free.length := by
  obtain ⟨start, started, sound⟩ := init_sound (by decide : 0 < 3)
  obtain ⟨pool, allocated, -⟩ := getNewBlocks_sound sound (by decide : 1 ≤ _)
  have reachable : pool.Reachable :=
    ⟨3, true, 1, false, false, start, started, .single (.getNewBlocks 1 allocated)⟩
  obtain ⟨free, represents, counted, -⟩ := reachable_representation reachable
  exact ⟨start, _, pool, free, started, allocated, represents, counted⟩

end BlockPool

end DeepSpark
