import DeepSpark.Coordinator.Consistency
import DeepSpark.Manager.Accounts

/-!
What a lookup of the prefix cache returns.

Owns the rows a lookup may keep, for every manager class and over the search of the
hybrid coordinator, and that the blocks of each group are ones an allocation may take.
-/

namespace DeepSpark

open Lib BlockPool HybridKVCacheCoordinator List

/-- No two of the first hashes agree. -/
def BlockHashList.Apart (hashes : BlockHashList) (count : Nat) : Prop :=
  ∀ i < count, ∀ j < count, ∀ blockHash, hashes.getItem i = .ok blockHash → hashes.getItem j = .ok blockHash → i = j

/-- Rows within a bound, each read from the pool under the hash at its index. -/
structure Found (hashes : BlockHashList) (groupIds : List Nat) (pool : BlockPool) (bound : Nat) (rows : List HitRow) :
    Prop where
  length : rows.length ≤ bound
  cached : ∀ index row, rows[index]? = some (some row) → cachedAt hashes groupIds pool index = .ok (some row)

variable {hashes : BlockHashList} {groupIds : List Nat} {pool : BlockPool} {bound : Nat} {rows : List HitRow}

namespace Found

variable (found : Found hashes groupIds pool bound rows)

include found

theorem take (count : Nat) : Found hashes groupIds pool bound (rows.take count) where
  length := (length_take_le' _ _).trans found.length
  cached index row read := by
    rw [getElem?_take] at read
    split at read
    · exact found.cached index row read
    · cases read

theorem dropLast : Found hashes groupIds pool bound rows.dropLast := by
  rw [dropLast_eq_take]
  exact found.take _

theorem popUnaligned (blockSize alignmentTokens : Nat) :
    Found hashes groupIds pool bound (popUnaligned blockSize alignmentTokens rows.length rows) := by
  obtain ⟨count, -, popped, -⟩ := popUnaligned_eq_take blockSize alignmentTokens (le_refl rows.length)
  rw [popped]
  exact found.take count

/-- An entry of a group is the null block, or hashed under the hash at its index. -/
theorem entry {free : List BlockId} (sound : pool.Sound free) {position index : Nat} {block : BlockId}
    (read : (groupBlocks pool.nullBlock position rows)[index]? = some block)
    (notNull : block ≠ pool.nullBlock) : index < bound ∧ ∃ blockHash groupId key,
      hashes.getItem index = .ok blockHash ∧ makeBlockHashWithGroupId blockHash groupId = .ok key ∧
        (pool.blocks block).blockHash = some key := by
  rw [groupBlocks, getElem?_map] at read
  obtain ⟨row, isRow, isBlock⟩ := Option.map_eq_some_iff.mp read
  cases kept : row.bind fun blocks => blocks[position]? with
  | none =>
    rw [kept] at isBlock
    exact absurd isBlock.symm notNull
  | some other =>
    rw [kept] at isBlock
    cases isBlock
    obtain ⟨blocks, rfl, atPosition⟩ := Option.bind_eq_some_iff.mp kept
    obtain ⟨blockHash, isItem, looked⟩ := bind_eq_ok.mp (found.cached index blocks isRow)
    obtain ⟨groupId, -, key, made, isStored⟩ := getElem?_of_forall₂
      (.flip (getCachedBlock_stored sound.map looked)) atPosition
    exact ⟨(List.getElem?_eq_some_iff.mp isRow).1.trans_le found.length, blockHash, groupId, key, isItem, made,
      (sound.hash_iff _ key).mpr isStored⟩

theorem hits {free : List BlockId} (sound : pool.Sound free) (apart : hashes.Apart bound) (position : Nat) :
    pool.Hits (groupBlocks pool.nullBlock position rows) where
  inRange block member := by
    obtain ⟨index, read⟩ := mem_iff_getElem?.mp member
    by_cases isNull : block = pool.nullBlock
    · exact isNull ▸ sound.nullInRange
    · obtain ⟨-, _, _, key, -, -, hashed⟩ := found.entry sound read isNull
      exact (sound.hashInRange block key hashed).1
  once block notNull := by
    by_contra twice
    have duplicate := duplicate_iff_two_le_count.mpr (Nat.lt_of_not_le twice)
    obtain ⟨i, j, before, atFirst, atSecond⟩ := duplicate_iff_exists_distinct_get.mp duplicate
    obtain ⟨firstBelow, first, _, key, isFirst, firstMade, hashed⟩ :=
      found.entry sound (List.getElem?_eq_some_iff.mpr ⟨i.isLt, atFirst.symm⟩) notNull
    obtain ⟨secondBelow, second, _, other, isSecond, secondMade, hashedAgain⟩ :=
      found.entry sound (List.getElem?_eq_some_iff.mpr ⟨j.isLt, atSecond.symm⟩) notNull
    -- a block has one key, and equal keys come from equal hashes
    obtain rfl := Option.some.inj (hashed.symm.trans hashedAgain)
    obtain ⟨rfl, -⟩ := makeBlockHashWithGroupId_injective firstMade secondMade
    exact absurd (apart i firstBelow j secondBelow first isFirst isSecond) (Nat.ne_of_lt before)

end Found

/-! ## The managers -/

/-- Null rows may stand in front of rows that were found. -/
theorem found_behind {start : Nat} (within : start + rows.length ≤ bound) (cached : ∀ offset row,
      rows[offset]? = some (some row) → cachedAt hashes groupIds pool (start + offset) = .ok (some row)) :
    Found hashes groupIds pool bound (List.replicate start none ++ rows) where
  length := by
    rw [length_append, length_replicate]
    exact within
  cached index row read := by
    rw [getElem?_append, length_replicate] at read
    split at read
    next inFront =>
      rw [getElem?_replicate, if_pos inFront] at read
      cases read
    next behind =>
      have atOffset := cached _ row read
      rwa [Nat.add_sub_cancel' (not_lt.mp behind)] at atOffset

theorem scanPrefix_found {count start : Nat} (within : start + count ≤ bound)
    (ran : scanPrefix hashes groupIds pool count start = .ok rows) :
    Found hashes groupIds pool bound (List.replicate start none ++ rows) := by
  obtain ⟨short, hits⟩ := scanPrefix_hits ran
  refine found_behind (by omega) fun offset row read => ?_
  obtain ⟨same, isSame, cached⟩ := hits offset (List.getElem?_eq_some_iff.mp read).1
  cases read.symm.trans isSame
  exact cached

theorem scanWindow_found {blockSize needed alignmentTokens index run finalRun : Nat} {dropEagleBlock matchFound : Bool}
    {final : List HitRow} (found : Found hashes groupIds pool bound rows)
    (ran : scanWindow hashes groupIds pool blockSize needed dropEagleBlock alignmentTokens index rows run =
      .ok (matchFound, final, finalRun)) : Found hashes groupIds pool bound final := by
  induction index generalizing rows run with
  | zero =>
    cases ran
    exact found
  | succ index ih =>
    rw [scanWindow] at ran
    obtain ⟨looked, read, ran⟩ := bind_eq_ok.mp ran
    cases looked with
    | none => exact ih found ran
    | some row =>
      have extended : Found hashes groupIds pool bound (rows.set index (some row)) := by
        refine ⟨length_set.trans_le found.length, fun other otherRow isRead => ?_⟩
        rw [getElem?_set] at isRead
        split at isRead
        next same =>
          split at isRead
          · cases isRead
            exact same ▸ read
          · cases isRead
        next => exact found.cached other otherRow isRead
      dsimp only at ran
      generalize (if dropEagleBlock = true then index else index + 1) = postPopBlocks at ran
      split at ran
      next => exact ih found ran
      next =>
        split at ran
        next =>
          cases ran
          exact extended.take _
        next => exact ih extended ran

theorem KVCacheSpec.findLongestCacheHit_found {spec : KVCacheSpec} {maxLength alignmentTokens : Nat}
    {dropEagleBlock : Bool} (ran : spec.findLongestCacheHit hashes groupIds pool maxLength dropEagleBlock
      alignmentTokens = .ok rows) : Found hashes groupIds pool (maxLength / spec.blockSize) rows := by
  unfold KVCacheSpec.findLongestCacheHit at ran
  split at ran
  next =>
    obtain ⟨scanned, scan, ran⟩ := bind_eq_ok.mp ran
    cases ran
    have found : Found hashes groupIds pool (maxLength / spec.blockSize) scanned :=
      scanPrefix_found (by omega) scan
    apply Found.popUnaligned
    split
    · exact found.dropLast
    · exact found
  next =>
    obtain ⟨⟨matchFound, scanned, run⟩, scan, ran⟩ := bind_eq_ok.mp ran
    have blank : Found hashes groupIds pool (maxLength / spec.blockSize)
        (List.replicate (maxLength / spec.blockSize) none ++ []) := found_behind le_rfl (by simp)
    rw [append_nil] at blank
    have found := scanWindow_found blank scan
    dsimp only at ran
    split at ran
    next =>
      split at ran
      all_goals cases ran
      · exact found.dropLast.popUnaligned _ _
      · exact found
    next =>
      have popped := (found.take run).popUnaligned spec.blockSize alignmentTokens
      split at ran
      all_goals cases ran
      · exact popped.dropLast.popUnaligned _ _
      · exact popped
  next chunk _ =>
    obtain ⟨_, -, ran⟩ := bind_eq_ok.mp ran
    obtain ⟨_, -, ran⟩ := bind_eq_ok.mp ran
    obtain ⟨rest, scan, ran⟩ := bind_eq_ok.mp ran
    cases ran
    have startsInside : maxLength / chunk * chunk / spec.blockSize ≤ maxLength / spec.blockSize :=
      Nat.div_le_div_right (Nat.div_mul_le_self _ _)
    exact scanPrefix_found (by omega) scan
  next =>
    rcases scanState_eq ran with rfl | ⟨index, below, row, rfl, cached, -⟩
    · exact ⟨Nat.zero_le _, by simp⟩
    · refine found_behind below fun offset other read => ?_
      cases offset with
      | zero =>
        cases read
        exact cached
      | succ offset => cases read

/-! ## The hybrid coordinator -/

namespace HybridKVCacheCoordinator

section

variable (coordinator : HybridKVCacheCoordinator) (pool : BlockPool) (blockHashes : List BlockHash) (bound : Nat)

/-- Every list of rows was found for a group, within the bound. -/
def AllFound (hitRows : List (Option (List HitRow))) : Prop :=
  ∀ rows, some rows ∈ hitRows → ∃ group ∈ coordinator.attentionGroups, ∃ hashes,
    BlockHashList.atBlockSize blockHashes coordinator.hashBlockSize group.spec.blockSize = .ok hashes ∧
      Found hashes group.groupIds pool (bound / group.spec.blockSize) rows

/-- The hashes a lookup reads are apart, at the block size of every group. -/
def HashesApart : Prop :=
  ∀ group ∈ coordinator.attentionGroups, ∀ hashes,
    BlockHashList.atBlockSize blockHashes coordinator.hashBlockSize group.spec.blockSize = .ok hashes →
      hashes.Apart (bound / group.spec.blockSize)

end

variable {coordinator : HybridKVCacheCoordinator} {blockHashes : List BlockHash}

theorem visitGroup_found {state next : SearchState} {group : SpecGroup} {idx : Nat}
    (member : group ∈ coordinator.attentionGroups) (bounded : state.currHitLength ≤ bound)
    (found : coordinator.AllFound pool blockHashes bound state.hitRows)
    (ran : coordinator.visitGroup pool blockHashes bound state group idx = .ok next) :
    next.currHitLength ≤ bound ∧ coordinator.AllFound pool blockHashes bound next.hitRows := by
  unfold visitGroup at ran
  split at ran
  next =>
    cases ran
    exact ⟨(Nat.div_mul_le_self _ _).trans bounded, found⟩
  next =>
    generalize (group.useEagle && !state.eagleVerified.contains idx) = drop at ran
    obtain ⟨hashes, view, ran⟩ := bind_eq_ok.mp ran
    obtain ⟨rows, looked, ran⟩ := bind_eq_ok.mp ran
    cases ran
    have within : (if drop = true then min (state.currHitLength + group.spec.blockSize) bound
        else state.currHitLength) ≤ bound := by
      split
      · exact Nat.min_le_right _ _
      · exact bounded
    obtain ⟨short, cached⟩ := KVCacheSpec.findLongestCacheHit_found looked
    have shortBound := short.trans (Nat.div_le_div_right within)
    refine ⟨(Nat.mul_le_mul_right _ shortBound).trans (Nat.div_mul_le_self _ _), fun other isOther => ?_⟩
    rcases mem_or_eq_of_mem_set isOther with old | isNew
    · exact found other old
    · cases isNew
      exact ⟨group, member, hashes, view, shortBound, cached⟩

theorem visitGroups_found {rest : List SpecGroup} (members : ∀ group ∈ rest, group ∈ coordinator.attentionGroups)
    {idx : Nat} {state final : SearchState}
    (ran : coordinator.visitGroups pool blockHashes bound idx rest state = .ok final)
    (bounded : state.currHitLength ≤ bound) (found : coordinator.AllFound pool blockHashes bound state.hitRows) :
    final.currHitLength ≤ bound ∧ coordinator.AllFound pool blockHashes bound final.hitRows := by
  induction rest generalizing idx state with
  | nil =>
    cases ran
    exact ⟨bounded, found⟩
  | cons group rest ih =>
    obtain ⟨next, visit, ran⟩ := bind_eq_ok.mp ran
    obtain ⟨nextBounded, nextFound⟩ := visitGroup_found (members group mem_cons_self) bounded found visit
    exact ih (fun other member => members other (mem_cons_of_mem _ member)) ran nextBounded nextFound

theorem searchLoop_found {fuel hitLength result : Nat} {state final : SearchState} (bounded : hitLength ≤ bound)
    (found : coordinator.AllFound pool blockHashes bound state.hitRows)
    (ran : coordinator.searchLoop pool blockHashes bound fuel hitLength state = .ok (result, final)) :
    coordinator.AllFound pool blockHashes bound final.hitRows := by
  induction fuel generalizing hitLength state with
  | zero => cases ran
  | succ fuel ih =>
    rw [searchLoop] at ran
    obtain ⟨next, pass, ran⟩ := bind_eq_ok.mp ran
    obtain ⟨nextBounded, nextFound⟩ := visitGroups_found (fun _ member => member) pass bounded found
    split at ran
    next =>
      cases ran
      exact nextFound
    next =>
      split at ran
      next =>
        cases ran
        exact nextFound
      next => exact ih nextBounded nextFound ran

theorem AllFound.truncateFirst {hitRows : List (Option (List HitRow))}
    (found : coordinator.AllFound pool blockHashes bound hitRows) (hitLength : Nat) (groups : List SpecGroup) :
    coordinator.AllFound pool blockHashes bound (truncateFirst hitLength groups hitRows) := by
  unfold HybridKVCacheCoordinator.truncateFirst
  split
  next group _ rows rest =>
    split
    next =>
      intro other member
      rcases mem_cons.mp member with isFirst | later
      · cases isFirst
        obtain ⟨source, isSource, hashes, view, isFound⟩ := found rows mem_cons_self
        exact ⟨source, isSource, hashes, view, isFound.take _⟩
      · exact found other (mem_cons_of_mem _ later)
    next => exact found
  next => exact found

theorem AllFound.hits {hitRows : List (Option (List HitRow))} {free : List BlockId}
    (found : coordinator.AllFound pool blockHashes bound hitRows) (sound : pool.Sound free)
    (apart : coordinator.HashesApart blockHashes bound) (groups : List SpecGroup) (groupId : Nat) :
    pool.Hits (hitBlocksOf pool.nullBlock groups hitRows groupId) := by
  unfold hitBlocksOf
  split
  next group rows isFirst =>
    obtain ⟨source, isSource, hashes, view, isFound⟩ :=
      found rows (of_mem_zip (mem_of_find?_eq_some isFirst)).2
    exact isFound.hits sound (apart source isSource hashes view) _
  next => exact hits_nil pool

theorem findLongestCacheHit_hits {free : List BlockId} (sound : pool.Sound free)
    (apart : coordinator.HashesApart blockHashes bound) {hit : CacheHit}
    (ran : coordinator.findLongestCacheHit pool blockHashes bound = .ok hit) :
    ∀ blocks ∈ hit.blocks, pool.Hits blocks := by
  unfold findLongestCacheHit at ran
  split at ran
  next =>
    cases ran
    exact fun blocks member => eq_of_mem_replicate member ▸ hits_nil pool
  next =>
    obtain ⟨⟨hitLength, state⟩, searched, ran⟩ := bind_eq_ok.mp ran
    cases ran
    have found := searchLoop_found le_rfl (fun rows member => by cases eq_of_mem_replicate member) searched
    intro blocks member
    obtain ⟨groupId, -, rfl⟩ := mem_map.mp member
    exact (found.truncateFirst _ _).hits sound apart _ groupId

end HybridKVCacheCoordinator

/-! ## The manager -/

namespace KVCacheManager

variable {config : KVCacheManagerConfig} {self next : KVCacheManager}

theorem findLongestCacheHitPerGroup_hits {coordinator : HybridKVCacheCoordinator} {blockHashes : List BlockHash}
    {free : List BlockId} (sound : self.pool.Sound free) (apart : coordinator.HashesApart blockHashes bound)
    {found : List (List BlockId) × Nat}
    (ran : self.findLongestCacheHitPerGroup coordinator blockHashes bound = .ok found) :
    ∀ blocks ∈ found.1, self.pool.Hits blocks := by
  obtain ⟨groupRows, looked, ran⟩ := bind_eq_ok.mp ran
  cases ran
  have allFound : coordinator.AllFound self.pool blockHashes bound (groupRows.map some) := by
    intro rows member
    obtain ⟨_, isRows, same⟩ := mem_map.mp member
    cases same
    obtain ⟨index, read⟩ := mem_iff_getElem?.mp isRows
    obtain ⟨group, isGroup, ranGroup⟩ := getElem?_of_forall₂ (.flip (mapM_eq_ok looked)) read
    obtain ⟨hashes, view, ranGroup⟩ := bind_eq_ok.mp ranGroup
    exact ⟨group, mem_of_getElem? isGroup, hashes, view, KVCacheSpec.findLongestCacheHit_found ranGroup⟩
  intro blocks member
  obtain ⟨groupId, -, rfl⟩ := mem_map.mp member
  exact allFound.hits sound apart _ groupId

/-- The hashes of a request that a lookup reads are apart. -/
def HashesApart (config : KVCacheManagerConfig) (request : Request) : Prop :=
  match config.coordinator with
  | .noPrefixCache => True
  | .unitary blockSize _ => (BlockHashList.fine request.blockHashes).Apart ((request.numTokens - 1) / blockSize)
  | .hybrid coordinator => coordinator.HashesApart request.blockHashes (request.numTokens - 1)

theorem getComputedBlocks_hits {request : Request} {free : List BlockId} (sound : self.pool.Sound free)
    (apart : HashesApart config request) {computed : ComputedBlocks}
    (ran : self.getComputedBlocks config request = .ok (computed, next)) :
    ∀ blocks ∈ computed.blocks, self.pool.Hits blocks := by
  have nothing : ∀ blocks ∈ List.replicate config.numGroups [], self.pool.Hits blocks :=
    fun blocks member => eq_of_mem_replicate member ▸ hits_nil self.pool
  unfold getComputedBlocks at ran
  split at ran
  next =>
    cases ran
    exact nothing
  next =>
    obtain ⟨⟨hit, after⟩, looked, ran⟩ := bind_eq_ok.mp ran
    cases ran
    unfold findLongestCacheHit at looked
    unfold HashesApart at apart
    cases isKind : config.coordinator with
    | noPrefixCache =>
      rw [isKind] at looked
      cases looked
      exact nothing
    | unitary blockSize dropEagleBlock =>
      rw [isKind] at looked apart
      obtain ⟨rows, scanned, looked⟩ := bind_eq_ok.mp looked
      cases looked
      intro blocks member
      rw [mem_singleton.mp member]
      exact (KVCacheSpec.findLongestCacheHit_found scanned).hits sound apart 0
    | hybrid coordinator =>
      rw [isKind] at looked apart
      obtain ⟨_, searched, looked⟩ := bind_eq_ok.mp looked
      cases looked
      exact coordinator.findLongestCacheHit_hits sound apart searched

/-- In every reachable manager a lookup returns hits, so that an allocation may take its blocks. -/
theorem lookUp_hits (reachable : Reachable config self) {perGroup : Bool} {request : Request}
    (apart : HashesApart config request) {computed : ComputedBlocks}
    (ran : self.lookUp config perGroup request = .ok (computed, next)) (i : Nat) :
    next.pool.Hits (computed.blocks.getD i []) := by
  obtain ⟨requests, accounts⟩ := reachable.accounts
  obtain ⟨free, sound⟩ := accounts.sound
  have allHits : ∀ blocks ∈ computed.blocks, self.pool.Hits blocks := by
    unfold lookUp at ran
    split at ran
    next coordinator isHybrid =>
      split at ran
      next =>
        obtain ⟨found, searched, ran⟩ := bind_eq_ok.mp ran
        cases ran
        rw [HashesApart, isHybrid] at apart
        exact findLongestCacheHitPerGroup_hits sound apart searched
      next => exact getComputedBlocks_hits sound apart ran
    next => exact getComputedBlocks_hits sound apart ran
  rw [(lookUp_frame ran).1, getD_eq_getElem?_getD]
  cases read : computed.blocks[i]? with
  | none => exact hits_nil self.pool
  | some blocks => exact allHits blocks (mem_of_getElem? read)

end KVCacheManager

end DeepSpark
