import DeepSpark.Manager.KVCacheManager
import DeepSpark.Manager.SparseCaching

/-!
Replays of a prompt that was cached under sparse retention.

Owns the runs of `HybridKVCacheCoordinator.cache_blocks` over one prompt, the blocks of a sliding-window group they
reach, and when the replay boundary keeps the hit of dense retention.
-/

namespace DeepSpark

open Lib Function BlockHashList

namespace KVCacheManager

/-- Consecutive calls of `cache_blocks` of the coordinator, with `num_computed_tokens` of each. -/
def coordinatorCalls (config : KVCacheManagerConfig) (request : Request) (calls : List Nat) (self : KVCacheManager) :
    Except PyError KVCacheManager :=
  calls.foldlM (fun self (numComputedTokens : Nat) => self.coordinatorCacheBlocks config request numComputedTokens) self

end KVCacheManager

/-- A group of a hybrid coordinator, with the index of its manager. -/
structure HybridGroup where
  config : KVCacheManagerConfig
  coordinator : HybridKVCacheCoordinator
  index : Nat
  group : WindowGroup
  isHybrid : config.coordinator = .hybrid coordinator
  isGroup : config.group index = group.config
  index_lt : index < config.numGroups
  sameBlockSize : coordinator.schedulerBlockSize = group.config.schedulerBlockSize
  distinct : ∀ i < config.numGroups, i ≠ index → (config.group i).kvCacheGroupId ≠ group.config.kvCacheGroupId

variable {numPromptTokens : Nat}

namespace HybridGroup

open WindowGroup

variable (member : HybridGroup)

def retaining (retentionInterval : Option Nat) : KVCacheManagerConfig :=
  { member.config with retentionInterval }

def fullBlocks (numComputedTokens : Nat) : Nat :=
  numComputedTokens / member.group.config.schedulerBlockSize * member.group.perSegment +
    if member.group.config.useEagle = true ∧ member.group.config.schedulerBlockSize ≤ numComputedTokens ∧
        numComputedTokens / member.group.config.schedulerBlockSize * member.group.config.schedulerBlockSize +
          member.group.config.spec.blockSize ≤ numComputedTokens
      then 1 else 0

variable {member}

theorem aligned_eq (numComputedTokens : Nat) :
    numComputedTokens / member.group.config.schedulerBlockSize * member.group.config.schedulerBlockSize =
      numComputedTokens / member.group.config.schedulerBlockSize * member.group.perSegment *
        member.group.config.spec.blockSize := by
  rw [member.group.aligned, Nat.mul_assoc]

theorem aligned_le (numComputedTokens : Nat) :
    numComputedTokens / member.group.config.schedulerBlockSize * member.group.perSegment *
      member.group.config.spec.blockSize ≤ numComputedTokens := by
  rw [← aligned_eq]
  exact Nat.div_mul_le_self _ _

/-- The tokens that are handed to the manager of the group cover these blocks. -/
theorem tokens_fullBlocks (numComputedTokens : Nat) :
    ((if member.group.config.useEagle = true ∧ (numComputedTokens : Int) /
          member.coordinator.schedulerBlockSize * member.coordinator.schedulerBlockSize > 0 then
        min (numComputedTokens : Int) ((numComputedTokens : Int) / member.coordinator.schedulerBlockSize *
          member.coordinator.schedulerBlockSize + member.group.config.blockSize)
      else (numComputedTokens : Int) / member.coordinator.schedulerBlockSize *
        member.coordinator.schedulerBlockSize) / member.group.config.spec.blockSize).toNat =
      member.fullBlocks numComputedTokens := by
  have isAligned : (numComputedTokens : Int) / member.group.config.schedulerBlockSize *
      member.group.config.schedulerBlockSize = (numComputedTokens / member.group.config.schedulerBlockSize *
        member.group.perSegment * member.group.config.spec.blockSize : Nat) := by
    rw [← aligned_eq]
    norm_cast
  have positive : (0 : Int) < (numComputedTokens / member.group.config.schedulerBlockSize *
      member.group.perSegment * member.group.config.spec.blockSize : Nat) ↔
        member.group.config.schedulerBlockSize ≤ numComputedTokens := by
    rw [← aligned_eq, Nat.cast_pos, Nat.mul_pos_iff_of_pos_right schedulerBlockSize_pos,
      Nat.div_pos_iff]
    exact and_iff_right schedulerBlockSize_pos
  have inside := member.aligned_le numComputedTokens
  have blockSize := member.group.blockSize_pos
  rw [member.sameBlockSize, member.group.isLocal, isAligned, fullBlocks, aligned_eq]
  simp only [gt_iff_lt, positive]
  generalize numComputedTokens / member.group.config.schedulerBlockSize * member.group.perSegment = full at inside
  split
  next eagle =>
    rw [← Nat.cast_add, ← Nat.cast_min, ← Int.natCast_ediv, Int.toNat_natCast]
    split
    next fits => rw [min_eq_right fits.2.2, Nat.add_div_right _ blockSize, Nat.mul_div_cancel _ blockSize]
    next exceeds =>
      have short : numComputedTokens < full * member.group.config.spec.blockSize + member.group.config.spec.blockSize :=
        not_le.mp fun fits => exceeds ⟨eagle.1, eagle.2, fits⟩
      rw [min_eq_left short.le, Nat.add_zero]
      exact Nat.div_eq_of_lt_le inside (by rwa [Nat.succ_mul])
  next plain =>
    rw [if_neg fun fits => plain ⟨fits.1, fits.2.1⟩, Nat.add_zero, ← Int.natCast_ediv, Int.toNat_natCast,
      Nat.mul_div_cancel _ blockSize]

theorem fullBlocks_mono {fewer more : Nat} (le : fewer ≤ more) :
    member.fullBlocks fewer ≤ member.fullBlocks more := by
  have segments : fewer / member.group.config.schedulerBlockSize ≤ more / member.group.config.schedulerBlockSize :=
    Nat.div_le_div_right le
  rw [fullBlocks, fullBlocks]
  rcases segments.eq_or_lt with same | more_segments
  · rw [same]
    refine Nat.add_le_add_left ?_ _
    split
    next fits => rw [if_pos ⟨fits.1, fits.2.1.trans le, fits.2.2.trans le⟩]
    next => exact Nat.zero_le _
  · have next_segment := Nat.mul_le_mul_right member.group.perSegment more_segments
    rw [Nat.succ_mul] at next_segment
    have perSegment := member.group.perSegment_pos
    split <;> omega

theorem fullBlocks_le (numComputedTokens : Nat) :
    member.fullBlocks numComputedTokens ≤ numComputedTokens / member.group.config.spec.blockSize := by
  have inside := member.aligned_le numComputedTokens
  rw [Nat.le_div_iff_mul_le member.group.blockSize_pos, fullBlocks, Nat.add_mul]
  split
  next fits =>
    rw [Nat.one_mul, ← aligned_eq]
    exact fits.2.2
  next => omega

/-! ## Runs over a prompt -/

structure PromptCached (member : HybridGroup) (request : Request) (retentionInterval : Option Nat)
    (blockHashes : BlockHashList) (first current : KVCacheManager) (count : Nat) : Prop where
  cached : member.group.CachedUpTo request retentionInterval blockHashes
    ((first.managers member.index).reqToBlocks request.requestId) first.pool current.pool
    (current.managers member.index) count
  reqToBlocks : ∀ i, (current.managers i).reqToBlocks request.requestId =
    (first.managers i).reqToBlocks request.requestId

section

variable {request : Request} {retentionInterval : Option Nat} {blockHashes : BlockHashList}
  {first self after : KVCacheManager} {count : Nat}

section

variable (view : atBlockSize request.blockHashes first.pool.hashBlockSize
    member.group.config.spec.blockSize = .ok blockHashes)
  (prompt : 0 < request.numPromptTokens)
  (inRange : ∀ i < member.config.numGroups, ∀ block ∈ (first.managers i).reqToBlocks request.requestId,
    block < first.pool.numGpuBlocks)

include view prompt inRange

theorem PromptCached.forManagers
    {numTokens : Nat → Int} {full : Nat}
    (isFull : (numTokens member.index / member.group.config.spec.blockSize).toNat = full)
    (held : Held first.pool ((first.managers member.index).reqToBlocks request.requestId) full)
    {indices : List Nat} (areGroups : ∀ i ∈ indices, i < member.config.numGroups)
    (state : member.PromptCached request retentionInterval blockHashes first self count)
    (ran : self.forManagers (fun i pool manager =>
      manager.cacheBlocks (member.config.group i) pool request (numTokens i) retentionInterval) indices = .ok after) :
    member.PromptCached request retentionInterval blockHashes first after
      (max count (if member.index ∈ indices then full else 0)) := by
  induction indices generalizing self count with
  | nil =>
    cases ran
    rwa [if_neg List.not_mem_nil, Nat.max_zero]
  | cons i rest ih =>
    rw [KVCacheManager.forManagers, List.foldlM_cons] at ran
    obtain ⟨next, ranFirst, ranRest⟩ := bind_eq_ok.mp ran
    obtain ⟨⟨pool, manager⟩, ranManager, ranFirst⟩ := bind_eq_ok.mp ranFirst
    cases ranFirst
    have restAreGroups : ∀ other ∈ rest, other < member.config.numGroups := fun other inRest =>
      areGroups other (List.mem_cons_of_mem i inRest)
    have unchanged : manager.reqToBlocks request.requestId = (first.managers i).reqToBlocks request.requestId := by
      rw [(SingleTypeKVCacheManager.cacheBlocks_pool ranManager).1]
      exact state.reqToBlocks i
    have reqToBlocks : ∀ other, ((self.setManager i pool manager).managers other).reqToBlocks request.requestId =
        (first.managers other).reqToBlocks request.requestId := by
      intro other
      change (update self.managers i manager other).reqToBlocks _ = _
      by_cases isFirst : other = i
      · rw [isFirst, update_self, unchanged]
      · rw [update_of_ne isFirst, state.reqToBlocks]
    by_cases isMember : i = member.index
    · subst isMember
      rw [member.isGroup] at ranManager
      have cached := state.cached.cacheBlocks view prompt (inRange _ member.index_lt) (isFull ▸ held) ranManager
      rw [isFull] at cached
      have nextState : member.PromptCached request retentionInterval blockHashes first
          (self.setManager member.index pool manager) (max count full) :=
        ⟨by simpa [KVCacheManager.setManager] using cached, reqToBlocks⟩
      have final := ih restAreGroups nextState ranRest
      rw [if_pos List.mem_cons_self]
      refine (congrArg _ ?_).mp final
      split <;> omega
    · have others := state.cached.others (member.distinct i (areGroups i List.mem_cons_self) isMember)
        (by rw [state.reqToBlocks]; exact inRange i (areGroups i List.mem_cons_self)) ranManager
      have nextState : member.PromptCached request retentionInterval blockHashes first
          (self.setManager i pool manager) count :=
        ⟨by simpa [KVCacheManager.setManager, update_of_ne (Ne.symm isMember)] using others, reqToBlocks⟩
      have final := ih restAreGroups nextState ranRest
      simpa only [List.mem_cons, Ne.symm isMember, false_or] using final

theorem PromptCached.call
    (enabled : member.coordinator.disablePrefixCacheForDsv4Dcp = false) {numComputedTokens : Nat}
    (held : Held first.pool ((first.managers member.index).reqToBlocks request.requestId)
      (member.fullBlocks numComputedTokens))
    (state : member.PromptCached request retentionInterval blockHashes first self count)
    (ran : self.coordinatorCacheBlocks (member.retaining retentionInterval) request numComputedTokens = .ok after) :
    member.PromptCached request retentionInterval blockHashes first after
      (max count (member.fullBlocks numComputedTokens)) := by
  rw [KVCacheManager.coordinatorCacheBlocks, show (member.retaining retentionInterval).coordinator =
    .hybrid member.coordinator from member.isHybrid] at ran
  dsimp only at ran
  rw [enabled, if_neg Bool.false_ne_true] at ran
  have isMember : member.index ∈ List.range member.config.numGroups := List.mem_range.mpr member.index_lt
  have isGroup : (member.retaining retentionInterval).group member.index = member.group.config := member.isGroup
  have final := PromptCached.forManagers view prompt inRange
    (by rw [isGroup]; exact member.tokens_fullBlocks numComputedTokens) held
    (fun i inGroups => List.mem_range.mp inGroups) state ran
  rwa [if_pos isMember] at final

theorem PromptCached.calls
    (enabled : member.coordinator.disablePrefixCacheForDsv4Dcp = false) {numTokens : Nat}
    (held : Held first.pool ((first.managers member.index).reqToBlocks request.requestId)
      (member.fullBlocks numTokens))
    {calls : List Nat} (upTo : ∀ numComputedTokens ∈ calls, numComputedTokens ≤ numTokens)
    (state : member.PromptCached request retentionInterval blockHashes first self count)
    (inside : count ≤ member.fullBlocks numTokens)
    (ran : self.coordinatorCalls (member.retaining retentionInterval) request calls = .ok after) :
    ∃ final, member.PromptCached request retentionInterval blockHashes first after final ∧
      final ≤ member.fullBlocks numTokens ∧ count ≤ final ∧
        (numTokens ∈ calls → member.fullBlocks numTokens ≤ final) := by
  induction calls generalizing self count with
  | nil =>
    cases ran
    exact ⟨count, state, inside, le_rfl, fun member => absurd member List.not_mem_nil⟩
  | cons numComputedTokens rest ih =>
    rw [KVCacheManager.coordinatorCalls, List.foldlM_cons] at ran
    obtain ⟨next, ranFirst, ranRest⟩ := bind_eq_ok.mp ran
    have below := member.fullBlocks_mono (upTo numComputedTokens List.mem_cons_self)
    have nextState := state.call view prompt inRange enabled
      (fun index inFull => held index (inFull.trans_le below)) ranFirst
    obtain ⟨final, finalState, finalInside, more, complete⟩ := ih
      (fun other inRest => upTo other (List.mem_cons_of_mem _ inRest)) nextState (max_le inside below) ranRest
    refine ⟨final, finalState, finalInside, (le_max_left _ _).trans more, fun isCall => ?_⟩
    rcases List.mem_cons.mp isCall with rfl | inRest
    · exact (le_max_right _ _).trans more
    · exact complete inRest

end

end

/-! ## Replays -/

variable (member) in
/-- The last boundary, in segments, at which a replay of a prompt can stop: with EAGLE the look-ahead block
behind it has to lie in front of the last token. -/
def replaySegments (numPromptTokens : Nat) : Nat :=
  if member.group.config.useEagle = true ∧ numPromptTokens - 1 <
      (numPromptTokens - 1) / member.group.config.schedulerBlockSize * member.group.config.schedulerBlockSize +
        member.group.config.spec.blockSize then
    (numPromptTokens - 1) / member.group.config.schedulerBlockSize - 1
  else (numPromptTokens - 1) / member.group.config.schedulerBlockSize

theorem blockSize_le : member.group.config.spec.blockSize ≤ member.group.config.schedulerBlockSize := by
  rw [member.group.aligned]
  exact Nat.le_mul_of_pos_left _ member.group.perSegment_pos

theorem replaySegments_fits (positive : 0 < member.replaySegments numPromptTokens) :
    (member.replaySegments numPromptTokens * member.group.perSegment + member.group.shift) *
      member.group.config.spec.blockSize ≤ numPromptTokens - 1 := by
  have inside := Nat.div_mul_le_self (numPromptTokens - 1) member.group.config.schedulerBlockSize
  have blockSize := member.blockSize_le
  rw [Nat.add_mul, Nat.mul_assoc, ← member.group.aligned]
  rw [replaySegments] at positive ⊢
  split at positive
  next noRoom =>
    rw [if_pos noRoom, shift, if_pos noRoom.1, Nat.one_mul]
    have oneLess : ((numPromptTokens - 1) / member.group.config.schedulerBlockSize - 1) *
        member.group.config.schedulerBlockSize + member.group.config.schedulerBlockSize =
          (numPromptTokens - 1) / member.group.config.schedulerBlockSize * member.group.config.schedulerBlockSize := by
      rw [← Nat.succ_mul, Nat.succ_eq_add_one, Nat.sub_add_cancel (by omega)]
    omega
  next room =>
    rw [if_neg room, shift]
    split
    next eagle =>
      rw [Nat.one_mul]
      exact not_lt.mp fun short => room ⟨eagle, short⟩
    next => omega

theorem le_replaySegments {count : Nat} (aligned : member.group.perSegment ∣ count)
    (fits : (count + member.group.shift) * member.group.config.spec.blockSize ≤ numPromptTokens - 1) :
    count ≤ member.replaySegments numPromptTokens * member.group.perSegment := by
  obtain ⟨segments, rfl⟩ := aligned
  rw [Nat.mul_comm]
  refine Nat.mul_le_mul_right _ ?_
  rw [Nat.add_mul, Nat.mul_comm member.group.perSegment, Nat.mul_assoc, ← member.group.aligned] at fits
  have atMost : segments ≤ (numPromptTokens - 1) / member.group.config.schedulerBlockSize :=
    (Nat.le_div_iff_mul_le schedulerBlockSize_pos).mpr (by omega)
  rw [replaySegments]
  split
  next noRoom =>
    rw [shift, if_pos noRoom.1, Nat.one_mul] at fits
    have notLast : segments ≠ (numPromptTokens - 1) / member.group.config.schedulerBlockSize := by
      rintro rfl
      omega
    omega
  next => exact atMost

theorem replaySegments_cached (positive : 0 < member.replaySegments numPromptTokens) :
    member.replaySegments numPromptTokens * member.group.perSegment + member.group.shift ≤
      member.fullBlocks numPromptTokens := by
  refine le_trans ?_ (fullBlocks_mono (Nat.sub_le numPromptTokens 1))
  rw [fullBlocks]
  rw [replaySegments] at positive ⊢
  split at positive
  next noRoom =>
    have oneLess : ((numPromptTokens - 1) / member.group.config.schedulerBlockSize - 1) * member.group.perSegment +
        member.group.perSegment = (numPromptTokens - 1) / member.group.config.schedulerBlockSize *
          member.group.perSegment := by
      rw [← Nat.succ_mul, Nat.succ_eq_add_one, Nat.sub_add_cancel (by omega)]
    have perSegment := member.group.perSegment_pos
    rw [if_pos noRoom, shift, if_pos noRoom.1]
    omega
  next room =>
    rw [if_neg room, shift]
    refine Nat.add_le_add_left ?_ _
    split
    next eagle =>
      have atLeast := (Nat.div_pos_iff.mp positive).2
      rw [if_pos ⟨eagle, atLeast, not_lt.mp fun short => room ⟨eagle, short⟩⟩]
    next => exact Nat.zero_le _

def Replayed (member : HybridGroup) (retentionInterval : Option Nat) (numPromptTokens index : Nat) : Prop :=
  index < member.fullBlocks numPromptTokens ∧ member.group.Selects retentionInterval numPromptTokens index

theorem longest_dense (numPromptTokens : Nat) :
    (member.group.search (numPromptTokens - 1) member.group.config.useEagle).Longest
      (member.Replayed none numPromptTokens) (member.replaySegments numPromptTokens * member.group.perSegment) := by
  constructor
  · rcases Nat.eq_zero_or_pos (member.replaySegments numPromptTokens) with isZero | positive
    · left
      rw [isZero, Nat.zero_mul]
    · right
      have cached := member.replaySegments_cached positive
      have boundary := Nat.mul_pos positive member.group.perSegment_pos
      have aligned : member.group.perSegment ∣ member.replaySegments numPromptTokens * member.group.perSegment :=
        Nat.dvd_mul_left _ _
      refine ⟨aligned, replaySegments_fits positive, fun index above below => ⟨by omega, ?_⟩,
        fun eagle => ⟨?_, ?_⟩⟩
      · exact selects_tail aligned boundary (Nat.sub_le_iff_le_add.mp above) (Nat.lt_add_right _ below)
      · have isOne : member.group.shift = 1 := if_pos eagle
        omega
      · have isOne : member.group.shift = 1 := if_pos eagle
        exact selects_tail aligned boundary (Nat.le_add_right _ _) (by omega)
  · rintro count (rfl | supports)
    · exact Nat.zero_le _
    · exact le_replaySegments supports.aligned supports.fits

/-- Under a retention interval it does so if the blocks that the boundary needs are left in. -/
theorem longest_sparse {retentionInterval : Option Nat} {longest : Nat}
    (isLongest : (member.group.search (numPromptTokens - 1) member.group.config.useEagle).Longest
      (member.Replayed retentionInterval numPromptTokens) longest) :
    longest ≤ member.replaySegments numPromptTokens * member.group.perSegment ∧
      member.group.perSegment ∣ longest ∧
      (longest = member.replaySegments numPromptTokens * member.group.perSegment ↔
        member.replaySegments numPromptTokens = 0 ∨ ∀ index,
          member.replaySegments numPromptTokens * member.group.perSegment ≤ index + member.group.windowBlocks →
          index < member.replaySegments numPromptTokens * member.group.perSegment + member.group.shift →
            member.group.Selects retentionInterval numPromptTokens index) := by
  have inside : longest ≤ member.replaySegments numPromptTokens * member.group.perSegment := by
    rcases isLongest.1 with isZero | supports
    · exact isZero ▸ Nat.zero_le _
    · exact le_replaySegments supports.aligned supports.fits
  refine ⟨inside, ?_, fun isBoundary => ?_, fun selects => ?_⟩
  · rcases isLongest.1 with isZero | supports
    · exact isZero ▸ Nat.dvd_zero _
    · exact supports.aligned
  · refine or_iff_not_imp_left.mpr fun notZero index above below => ?_
    have boundary := Nat.mul_pos (Nat.pos_of_ne_zero notZero) member.group.perSegment_pos
    rw [← isBoundary] at above below boundary
    have supports := isLongest.1.resolve_left boundary.ne'
    by_cases inFront : index < longest
    · exact (supports.window index (Nat.sub_le_iff_le_add.mpr above) inFront).2
    · have eagle : member.group.config.useEagle = true := by
        by_contra plain
        rw [shift, if_neg plain] at below
        exact inFront below
      have isOne : member.group.shift = 1 := if_pos eagle
      have isLast : index = longest := by omega
      exact isLast ▸ (supports.eagle eagle).2
  · rcases Nat.eq_zero_or_pos (member.replaySegments numPromptTokens) with isZero | positive
    · rw [isZero, Nat.zero_mul] at inside ⊢
      exact Nat.le_zero.mp inside
    · have kept := selects.resolve_left positive.ne'
      have cached := member.replaySegments_cached positive
      refine le_antisymm inside (isLongest.2 (Or.inr ⟨Nat.dvd_mul_left _ _, replaySegments_fits positive, ?_, ?_⟩))
      · intro index above below
        exact ⟨by omega, kept index (Nat.sub_le_iff_le_add.mp above) (Nat.lt_add_right _ below)⟩
      · intro eagle
        have isOne : member.group.shift = 1 := if_pos eagle
        exact ⟨by omega, kept _ (Nat.le_add_right _ _) (by omega)⟩

/-- After a run over the whole prompt, of whose blocks none was cached before, the lookup reads these blocks. -/
theorem PromptCached.cached_iff {request : Request} {retentionInterval : Option Nat} {blockHashes : BlockHashList}
    {first current : KVCacheManager} {free : List BlockId}
    (state : member.PromptCached request retentionInterval blockHashes first current
      (member.fullBlocks request.numPromptTokens))
    (prompt : 0 < request.numPromptTokens) (sound : first.pool.Sound free)
    (notCached : ∀ index < request.numPromptTokens / member.group.config.spec.blockSize,
      ¬Cached blockHashes [member.group.config.kvCacheGroupId] first.pool index)
    (hashed : request.numPromptTokens / member.group.config.spec.blockSize ≤ blockHashes.length)
    (apart : ∀ position < request.numPromptTokens / member.group.config.spec.blockSize,
      ∀ index < request.numPromptTokens / member.group.config.spec.blockSize,
        blockHashes.getItem position = blockHashes.getItem index → position = index)
    {index : Nat} (below : index < request.numPromptTokens / member.group.config.spec.blockSize) :
    Cached blockHashes [member.group.config.kvCacheGroupId] current.pool index ↔
      member.Replayed retentionInterval request.numPromptTokens index := by
  obtain ⟨currentFree, currentSound⟩ := state.cached.sound
  have inside := member.fullBlocks_le request.numPromptTokens
  rw [cachedAt_iff_has currentSound.map, Replayed, ← keeps_iff prompt]
  constructor
  · rintro ⟨key, isKey, stored⟩
    rcases (state.cached.has index key isKey).mp stored with before | ⟨position, inFull, keeps, isPosition⟩
    · exact absurd ((cachedAt_iff_has sound.map).mpr ⟨key, isKey, before⟩) (notCached index below)
    · obtain ⟨blockHash, isItem, made⟩ := bind_eq_ok.mp isKey
      obtain ⟨otherHash, isOther, otherMade⟩ := bind_eq_ok.mp isPosition
      have same := (makeBlockHashWithGroupId_injective made otherMade).1
      have isIndex : position = index :=
        apart position (inFull.trans_le inside) index below (isOther.trans (same ▸ isItem.symm))
      exact isIndex ▸ ⟨inFull, keeps⟩
  · rintro ⟨inFull, keeps⟩
    obtain ⟨blockHash, isItem⟩ := getItem_of_lt (below.trans_le hashed)
    have made := makeBlockHashWithGroupId_eq_ok.mpr
      ⟨member.group.groupId_lt, rfl (a := blockHash ++ Bytes.bigEndian 4 member.group.config.kvCacheGroupId)⟩
    have isKey : blockHashes.key member.group.config.kvCacheGroupId index =
        .ok (blockHash ++ Bytes.bigEndian 4 member.group.config.kvCacheGroupId) := by
      rw [key, isItem]
      exact made
    exact ⟨_, isKey, (state.cached.has index _ isKey).mpr (Or.inr ⟨index, inFull, keeps, isKey⟩)⟩

/-- Sparse retention keeps the hit of a replay: the last boundary leaves room for the look-ahead block, or there is
no boundary in front of it, or its blocks are left in, or the lookup loses its one segment anyway. -/
def KeepsReplay (member : HybridGroup) (retentionInterval numPromptTokens : Nat) : Prop :=
  member.coordinator.disablePrefixCacheForDsv4Dcp = true ∨ member.group.config.useEagle = false ∨
  (numPromptTokens - 1) / member.group.config.schedulerBlockSize * member.group.config.schedulerBlockSize +
    member.group.config.spec.blockSize ≤ numPromptTokens - 1 ∨
  (numPromptTokens - 1) / member.group.config.schedulerBlockSize ≤ 1 ∨
  (∀ index, ((numPromptTokens - 1) / member.group.config.schedulerBlockSize - 1) * member.group.perSegment ≤
      index + member.group.windowBlocks →
    index ≤ ((numPromptTokens - 1) / member.group.config.schedulerBlockSize - 1) * member.group.perSegment →
      member.group.Keeps (some retentionInterval) numPromptTokens index) ∨
  ((numPromptTokens - 1) / member.group.config.schedulerBlockSize = 2 ∧ member.group.perSegment ≠ 1 ∧
    member.group.perSegment < member.group.windowBlocks)

theorem keepsReplay_iff {retentionInterval longest : Nat} (prompt : 0 < numPromptTokens)
    (enabled : member.coordinator.disablePrefixCacheForDsv4Dcp = false)
    (isLongest : (member.group.search (numPromptTokens - 1) member.group.config.useEagle).Longest
      (member.Replayed (some retentionInterval) numPromptTokens) longest) :
    (member.group.search (numPromptTokens - 1) member.group.config.useEagle).returned longest =
        (member.group.search (numPromptTokens - 1) member.group.config.useEagle).returned
          (member.replaySegments numPromptTokens * member.group.perSegment) ↔
      member.KeepsReplay retentionInterval numPromptTokens := by
  obtain ⟨inside, aligned, atBoundary⟩ := longest_sparse isLongest
  have whole : member.group.perSegment ∣ member.replaySegments numPromptTokens * member.group.perSegment :=
    Nat.dvd_mul_left _ _
  have sameLength : (member.group.search (numPromptTokens - 1) member.group.config.useEagle).returned longest =
      (member.group.search (numPromptTokens - 1) member.group.config.useEagle).returned
        (member.replaySegments numPromptTokens * member.group.perSegment) ↔
      longest = member.replaySegments numPromptTokens * member.group.perSegment ∨
        member.group.config.useEagle = true ∧ member.group.perSegment ≠ 1 ∧
          member.replaySegments numPromptTokens * member.group.perSegment = member.group.perSegment ∧
          member.replaySegments numPromptTokens * member.group.perSegment < member.group.windowBlocks :=
    WindowSearch.returned_eq_iff aligned whole inside
  rw [sameLength, atBoundary]
  by_cases noRoom : member.group.config.useEagle = true ∧ numPromptTokens - 1 <
      (numPromptTokens - 1) / member.group.config.schedulerBlockSize * member.group.config.schedulerBlockSize +
        member.group.config.spec.blockSize
  · have isOne : member.group.shift = 1 := if_pos noRoom.1
    have notPlain : member.group.config.useEagle ≠ false := by simp [noRoom.1]
    rw [replaySegments, if_pos noRoom, isOne, KeepsReplay]
    simp only [keeps_iff prompt, Nat.lt_succ_iff]
    constructor
    · rintro ((few | kept) | ⟨-, large, isSegment, short⟩)
      · exact Or.inr (Or.inr (Or.inr (Or.inl (by omega))))
      · exact Or.inr (Or.inr (Or.inr (Or.inr (Or.inl kept))))
      · have isTwo := Nat.eq_of_mul_eq_mul_right member.group.perSegment_pos (isSegment.trans (Nat.one_mul _).symm)
        exact Or.inr (Or.inr (Or.inr (Or.inr (Or.inr ⟨by omega, large, isSegment ▸ short⟩))))
    · rintro (disabled | plain | room | few | kept | ⟨isTwo, large, short⟩)
      · exact absurd (enabled.symm.trans disabled) Bool.false_ne_true
      · exact absurd plain notPlain
      · exact absurd noRoom.2 (not_lt.mpr room)
      · exact Or.inl (Or.inl (by omega))
      · exact Or.inl (Or.inr kept)
      · right
        rw [isTwo, Nat.one_mul]
        exact ⟨noRoom.1, large, rfl, short⟩
  · rw [replaySegments, if_neg noRoom]
    -- The tail of the replay boundary is the one that the hit needs.
    refine iff_of_true (Or.inl (Or.inr fun index above below => Or.inr ⟨rfl, above, below⟩)) ?_
    rw [KeepsReplay]
    by_cases eagle : member.group.config.useEagle = true
    · exact Or.inr (Or.inr (Or.inl (not_lt.mp fun short => noRoom ⟨eagle, short⟩)))
    · exact Or.inr (Or.inl (Bool.not_eq_true _ ▸ eagle))

theorem coordinatorCalls_disabled {request : Request} {retentionInterval : Option Nat} {calls : List Nat}
    {self after : KVCacheManager} (disabled : member.coordinator.disablePrefixCacheForDsv4Dcp = true)
    (ran : self.coordinatorCalls (member.retaining retentionInterval) request calls = .ok after) : after = self := by
  induction calls with
  | nil =>
    cases ran
    rfl
  | cons numComputedTokens rest ih =>
    rw [KVCacheManager.coordinatorCalls, List.foldlM_cons] at ran
    obtain ⟨next, ranFirst, ranRest⟩ := bind_eq_ok.mp ran
    rw [KVCacheManager.coordinatorCacheBlocks, show (member.retaining retentionInterval).coordinator =
      .hybrid member.coordinator from member.isHybrid] at ranFirst
    dsimp only at ranFirst
    rw [disabled, if_pos rfl] at ranFirst
    cases ranFirst
    exact ih ranRest

/-- A replay of a prompt that was cached under a retention interval hits as much as under dense retention exactly
if the interval keeps it. -/
theorem replay_sameLength (member : HybridGroup) (request : Request) {first sparse dense : KVCacheManager}
    {blockHashes : BlockHashList} {retentionInterval : Nat} {calls otherCalls : List Nat}
    (reachable : first.pool.Reachable)
    (view : atBlockSize request.blockHashes first.pool.hashBlockSize
      member.group.config.spec.blockSize = .ok blockHashes)
    (prompt : 0 < request.numPromptTokens)
    (inRange : ∀ i < member.config.numGroups, ∀ block ∈ (first.managers i).reqToBlocks request.requestId,
      block < first.pool.numGpuBlocks)
    (held : Held first.pool ((first.managers member.index).reqToBlocks request.requestId)
      (request.numPromptTokens / member.group.config.spec.blockSize))
    (fresh : ((first.managers member.index).numCachedBlock request.requestId).getD 0 = 0)
    (notCached : ∀ index < request.numPromptTokens / member.group.config.spec.blockSize,
      ¬Cached blockHashes [member.group.config.kvCacheGroupId] first.pool index)
    (hashed : request.numPromptTokens / member.group.config.spec.blockSize ≤ blockHashes.length)
    (apart : ∀ position < request.numPromptTokens / member.group.config.spec.blockSize,
      ∀ index < request.numPromptTokens / member.group.config.spec.blockSize,
        blockHashes.getItem position = blockHashes.getItem index → position = index)
    (upTo : ∀ numComputedTokens ∈ calls, numComputedTokens ≤ request.numPromptTokens)
    (whole : request.numPromptTokens ∈ calls)
    (otherUpTo : ∀ numComputedTokens ∈ otherCalls, numComputedTokens ≤ request.numPromptTokens)
    (otherWhole : request.numPromptTokens ∈ otherCalls)
    (ranSparse : first.coordinatorCalls (member.retaining (some retentionInterval)) request calls = .ok sparse)
    (ranDense : first.coordinatorCalls (member.retaining none) request otherCalls = .ok dense) :
    ∃ rows others,
      (member.group.search (request.numPromptTokens - 1) member.group.config.useEagle).findLongestCacheHit
        blockHashes [member.group.config.kvCacheGroupId] sparse.pool = .ok rows ∧
      (member.group.search (request.numPromptTokens - 1) member.group.config.useEagle).findLongestCacheHit
        blockHashes [member.group.config.kvCacheGroupId] dense.pool = .ok others ∧
      (rows.length = others.length ↔ member.KeepsReplay retentionInterval request.numPromptTokens) := by
  obtain ⟨free, sound⟩ := reachable.sound
  have fewer : (request.numPromptTokens - 1) / member.group.config.spec.blockSize ≤
      request.numPromptTokens / member.group.config.spec.blockSize := Nat.div_le_div_right (Nat.sub_le _ _)
  have groups : ∀ groupId ∈ [member.group.config.kvCacheGroupId], groupId < 2 ^ 32 := by
    simpa using member.group.groupId_lt
  cases enabled : member.coordinator.disablePrefixCacheForDsv4Dcp with
  | true =>
    obtain ⟨rows, -, ran, -⟩ := (member.group.search (request.numPromptTokens - 1)
      member.group.config.useEagle).findLongestCacheHit_length
        (WindowSearch.readable_of_sound sound groups (fewer.trans hashed))
    rw [coordinatorCalls_disabled enabled ranSparse, coordinatorCalls_disabled enabled ranDense]
    exact ⟨rows, rows, ran, ran, iff_of_true rfl (Or.inl enabled)⟩
  | false =>
    have heldFull : Held first.pool ((first.managers member.index).reqToBlocks request.requestId)
        (member.fullBlocks request.numPromptTokens) :=
      fun index below => held index (below.trans_le (member.fullBlocks_le _))
    have start : ∀ retained, member.PromptCached request retained blockHashes first first 0 := fun retained =>
      ⟨.init sound fresh, fun _ => rfl⟩
    obtain ⟨count, sparseState, inside, -, complete⟩ := (start (some retentionInterval)).calls view prompt inRange
      enabled heldFull upTo (Nat.zero_le _) ranSparse
    have isFull := le_antisymm inside (complete whole)
    obtain ⟨otherCount, denseState, otherInside, -, otherComplete⟩ := (start none).calls view prompt inRange
      enabled heldFull otherUpTo (Nat.zero_le _) ranDense
    have otherIsFull := le_antisymm otherInside (otherComplete otherWhole)
    rw [isFull] at sparseState
    rw [otherIsFull] at denseState
    obtain ⟨sparseFree, sparseSound⟩ := sparseState.cached.sound
    obtain ⟨denseFree, denseSound⟩ := denseState.cached.sound
    obtain ⟨rows, longest, ran, isLongest, isLength⟩ := (member.group.search (request.numPromptTokens - 1)
      member.group.config.useEagle).findLongestCacheHit_length
        (WindowSearch.readable_of_sound sparseSound groups (fewer.trans hashed))
    obtain ⟨others, otherLongest, otherRan, isOtherLongest, isOtherLength⟩ :=
      (member.group.search (request.numPromptTokens - 1) member.group.config.useEagle).findLongestCacheHit_length
        (WindowSearch.readable_of_sound denseSound groups (fewer.trans hashed))
    refine ⟨rows, others, ran, otherRan, ?_⟩
    have replayed := isLongest.congr fun index below =>
      sparseState.cached_iff prompt sound notCached hashed apart (lt_of_lt_of_le below fewer)
    have otherReplayed := isOtherLongest.congr fun index below =>
      denseState.cached_iff prompt sound notCached hashed apart (lt_of_lt_of_le below fewer)
    rw [isLength, isOtherLength, otherReplayed.unique (member.longest_dense _)]
    exact keepsReplay_iff prompt enabled replayed

private def promptOfTokens (count : Nat) : Request where
  requestId := 0
  samplingParams := { maxTokens := 1 }
  maxTokens := 1
  promptTokenIds := [5, 6, 7, 8, 9].take count
  numPromptTokens := count
  allTokenIds := [5, 6, 7, 8, 9].take count
  blockHashes := [[7], [8], [9], [10], [11]].take count

private def groupConfig (i : Nat) : ManagerConfig where
  spec := { kind := if i = 1 then .slidingWindow 2 else .fullAttention, blockSize := 1 }
  kvCacheGroupId := i
  schedulerBlockSize := 2
  enableCaching := true
  useEagle := true

private theorem groupWindow_ge : 2 ≤ 2 := le_rfl

private def twoGroups : HybridGroup where
  config :=
    { numGroups := 2
      group := groupConfig
      coordinator := .hybrid ⟨2, [⟨(groupConfig 0).spec, [0], true⟩,
        ⟨(groupConfig 1).spec, [1], true⟩], 2, 1, false⟩
      maxModelLen := 8
      enableCaching := true }
  coordinator := ⟨2, [⟨(groupConfig 0).spec, [0], true⟩,
    ⟨(groupConfig 1).spec, [1], true⟩], 2, 1, false⟩
  index := 1
  group :=
    { config := groupConfig 1
      slidingWindow := 2
      perSegment := 2
      isWindow := rfl
      isLocal := rfl
      notCross := rfl
      aligned := rfl
      groupId_lt := Nat.one_lt_two_pow (Nat.succ_ne_zero 31)
      window_ge := groupWindow_ge
      blockSize_pos := Nat.one_pos
      perSegment_pos := Nat.two_pos }
  isHybrid := rfl
  isGroup := rfl
  index_lt := Nat.one_lt_two
  sameBlockSize := rfl
  distinct := fun _ _ different => different

private def holdsFive (pool : BlockPool) : KVCacheManager where
  pool := pool
  managers := fun i => { reqToBlocks := fun _ => if i = 1 then [6, 7, 8, 9, 10] else [1, 2, 3, 4, 5] }

private theorem exists_cachedPrompts : ∃ pool : BlockPool, pool.Reachable ∧ pool.numGpuBlocks = 11 ∧
    pool.hashBlockSize = 1 ∧ Held pool [6, 7, 8, 9, 10] 4 ∧
    (∀ index < 4, ¬Cached (.fine (promptOfTokens 4).blockHashes) [1] pool index) ∧
    (∃ sparse dense,
      (holdsFive pool).coordinatorCalls (twoGroups.retaining (some 0)) (promptOfTokens 4) [4] = .ok sparse ∧
      (holdsFive pool).coordinatorCalls (twoGroups.retaining none) (promptOfTokens 4) [4] = .ok dense) ∧
    ∃ sparse dense others,
      (holdsFive pool).coordinatorCalls (twoGroups.retaining (some 0)) (promptOfTokens 5) [5] = .ok sparse ∧
      (holdsFive pool).coordinatorCalls (twoGroups.retaining none) (promptOfTokens 5) [5] = .ok dense ∧
      (twoGroups.group.search 4 true).findLongestCacheHit (.fine (promptOfTokens 5).blockHashes) [1] sparse.pool =
        .ok [] ∧
      (twoGroups.group.search 4 true).findLongestCacheHit (.fine (promptOfTokens 5).blockHashes) [1] dense.pool =
        .ok others ∧ others.length = 2 := by
  have reachable : BlockPool.Reachable _ :=
    ⟨11, true, 1, false, false, _, rfl, .single (.getNewBlocks 10 rfl)⟩
  refine ⟨_, reachable, rfl, rfl, ?_, ?_, ⟨_, _, rfl, rfl⟩, ⟨_, _, _, rfl, rfl, rfl, rfl, rfl⟩⟩
  · intro index below
    interval_cases index
    · exact ⟨6, rfl, rfl⟩
    · exact ⟨7, rfl, rfl⟩
    · exact ⟨8, rfl, rfl⟩
    · exact ⟨9, rfl, rfl⟩
  · rintro index below ⟨row, found⟩
    interval_cases index <;> cases found

/-- The look-ahead block of the replay boundary fits. -/
theorem replay_sameLength_room : ∃ pool sparse dense rows others, pool.Reachable ∧
    (holdsFive pool).coordinatorCalls (twoGroups.retaining (some 0)) (promptOfTokens 4) [4] = .ok sparse ∧
    (holdsFive pool).coordinatorCalls (twoGroups.retaining none) (promptOfTokens 4) [4] = .ok dense ∧
    (twoGroups.group.search 3 true).findLongestCacheHit (.fine (promptOfTokens 4).blockHashes) [1] sparse.pool =
      .ok rows ∧
    (twoGroups.group.search 3 true).findLongestCacheHit (.fine (promptOfTokens 4).blockHashes) [1] dense.pool =
      .ok others ∧ rows.length = others.length := by
  obtain ⟨pool, reachable, size, hashSize, held, notCached, ⟨sparse, dense, ranSparse, ranDense⟩, -⟩ :=
    exists_cachedPrompts
  have view : atBlockSize (promptOfTokens 4).blockHashes pool.hashBlockSize 1 =
      .ok (.fine (promptOfTokens 4).blockHashes) := by
    rw [hashSize]
    rfl
  have inRange : ∀ i < 2, ∀ block ∈ ((holdsFive pool).managers i).reqToBlocks 0, block < pool.numGpuBlocks := by
    rw [size]
    intro i below
    interval_cases i
    · change ∀ block ∈ [1, 2, 3, 4, 5], block < 11
      simp
    · change ∀ block ∈ [6, 7, 8, 9, 10], block < 11
      simp
  have apart : ∀ position < 4, ∀ index < 4,
      (fine (promptOfTokens 4).blockHashes).getItem position =
        (fine (promptOfTokens 4).blockHashes).getItem index → position = index := by
    intro position below index inside same
    interval_cases position <;> interval_cases index <;> first | rfl | cases same
  have upTo : ∀ numComputedTokens ∈ [4], numComputedTokens ≤ 4 := by simp
  obtain ⟨rows, others, ran, otherRan, same⟩ := replay_sameLength twoGroups (promptOfTokens 4) reachable view
    (Nat.succ_pos 3) inRange held rfl notCached le_rfl apart upTo List.mem_cons_self upTo List.mem_cons_self
    ranSparse ranDense
  exact ⟨pool, sparse, dense, rows, others, reachable, ranSparse, ranDense, ran, otherRan,
    same.mpr (.inr (.inr (.inl le_rfl)))⟩

/-- With EAGLE the replay boundary leaves no room for the look-ahead block, and the boundary in front of it is
not retained. -/
theorem replay_sameLength_noRoom : ∃ pool sparse dense rows others, pool.Reachable ∧
    (holdsFive pool).coordinatorCalls (twoGroups.retaining (some 0)) (promptOfTokens 5) [5] = .ok sparse ∧
    (holdsFive pool).coordinatorCalls (twoGroups.retaining none) (promptOfTokens 5) [5] = .ok dense ∧
    (twoGroups.group.search 4 true).findLongestCacheHit (.fine (promptOfTokens 5).blockHashes) [1] sparse.pool =
      .ok rows ∧
    (twoGroups.group.search 4 true).findLongestCacheHit (.fine (promptOfTokens 5).blockHashes) [1] dense.pool =
      .ok others ∧ rows.length = 0 ∧ others.length = 2 := by
  obtain ⟨pool, reachable, -, -, -, -, -, sparse, dense, others, ranSparse, ranDense, ran, otherRan, two⟩ :=
    exists_cachedPrompts
  exact ⟨pool, sparse, dense, [], others, reachable, ranSparse, ranDense, ran, otherRan, rfl, two⟩

end HybridGroup

end DeepSpark
