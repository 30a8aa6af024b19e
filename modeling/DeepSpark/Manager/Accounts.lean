import DeepSpark.Manager.Ownership

/-!
The account of a KV cache manager over whole runs.

Owns the calls the scheduler makes, the account that every one of them keeps, and what
follows for a reachable manager: the reference counts are the holders, no block leaks,
and a call for one request takes nothing from another.
-/

namespace DeepSpark

open Lib Finset

namespace KVCacheManager

open BlockPool SingleTypeKVCacheManager

variable {config : KVCacheManagerConfig} {self mid next : KVCacheManager} {requests : Finset ReqId}
  {requestId : ReqId}

/-- The blocks of a request in a group. -/
def blocksAt (self : KVCacheManager) (slot : Nat × ReqId) : List BlockId :=
  (self.managers slot.1).reqToBlocks slot.2

theorem blocksAt_setManager (self : KVCacheManager) (i : Nat) (pool : BlockPool) (manager : SingleTypeKVCacheManager)
    (slot : Nat × ReqId) : (self.setManager i pool manager).blocksAt slot =
      if slot.1 = i then manager.reqToBlocks slot.2 else self.blocksAt slot := by
  rw [blocksAt, setManager]
  dsimp only
  rw [Function.update_apply]
  split
  all_goals rfl

/-- Every block is counted once for each place that holds it. -/
structure Accounts (config : KVCacheManagerConfig) (requests : Finset ReqId) (kv : KVCacheManager) : Prop where
  sound : ∃ free, kv.pool.Sound free
  inRange : ∀ slot, ∀ block ∈ kv.blocksAt slot, block < kv.pool.numGpuBlocks
  once : ∀ slot, ∀ block ≠ kv.pool.nullBlock, (kv.blocksAt slot).count block ≤ 1
  known : ∀ slot ∉ range config.numGroups ×ˢ requests, kv.blocksAt slot = []
  refCnt : ∀ block ≠ kv.pool.nullBlock, (kv.pool.blocks block).refCnt =
    (∑ slot ∈ range config.numGroups ×ˢ requests, (kv.blocksAt slot).count block : Nat)

/-- What a call for one request leaves: the account, and the blocks of the others. -/
structure Handles (config : KVCacheManagerConfig) (requests : Finset ReqId) (requestId : ReqId)
    (before after : KVCacheManager) : Prop where
  accounts : Accounts config requests after
  others : ∀ slot, slot.2 ≠ requestId → after.blocksAt slot = before.blocksAt slot
  numGpuBlocks : after.pool.numGpuBlocks = before.pool.numGpuBlocks
  nullBlock : after.pool.nullBlock = before.pool.nullBlock

theorem Handles.refl (accounts : Accounts config requests self) : Handles config requests requestId self self :=
  ⟨accounts, fun _ _ => rfl, rfl, rfl⟩

theorem Handles.trans (first : Handles config requests requestId self mid)
    (second : Handles config requests requestId mid next) : Handles config requests requestId self next :=
  ⟨second.accounts, fun slot isOther => (second.others slot isOther).trans (first.others slot isOther),
    second.numGpuBlocks.trans first.numGpuBlocks, second.nullBlock.trans first.nullBlock⟩

section

variable (accounts : Accounts config requests self)

include accounts

theorem Accounts.holding (slot : Nat × ReqId) : self.pool.Holding (self.blocksAt slot) := by
  refine ⟨accounts.sound, accounts.inRange slot, accounts.once slot, fun block notNull => ?_⟩
  rw [accounts.refCnt block notNull, Nat.cast_le]
  by_cases isKnown : slot ∈ range config.numGroups ×ˢ requests
  · exact single_le_sum (f := fun slot => (self.blocksAt slot).count block) (fun _ _ => Nat.zero_le _) isKnown
  · rw [accounts.known slot isKnown]
    exact Nat.zero_le _

/-- A new request holds nothing. -/
theorem Accounts.enrol (requestId : ReqId) : Accounts config (insert requestId requests) self := by
  have larger : range config.numGroups ×ˢ requests ⊆ range config.numGroups ×ˢ insert requestId requests :=
    product_subset_product_right (subset_insert _ _)
  refine ⟨accounts.sound, accounts.inRange, accounts.once, fun slot isNew => accounts.known slot (isNew ∘ @larger slot),
    fun block notNull => ?_⟩
  rw [accounts.refCnt block notNull, sum_subset larger fun slot _ isNew => ?_]
  rw [accounts.known slot isNew, List.count_nil]

/-- An operation of one group on one request. -/
theorem Accounts.shift {i : Nat} {pool : BlockPool} {manager : SingleTypeKVCacheManager} (inGroups : i < config.numGroups)
    (isKnown : requestId ∈ requests) (shifts : Shifts requestId self.pool (self.managers i) pool manager) :
    Handles config requests requestId self (self.setManager i pool manager) := by
  have isAt : (self.setManager i pool manager).blocksAt (i, requestId) = manager.reqToBlocks requestId :=
    (blocksAt_setManager ..).trans (if_pos rfl)
  have elsewhere : ∀ slot ≠ (i, requestId), (self.setManager i pool manager).blocksAt slot = self.blocksAt slot := by
    rintro ⟨j, other⟩ differ
    rw [blocksAt_setManager]
    split
    next same =>
      cases same
      exact shifts.others other fun same => differ (congrArg _ same)
    next => rfl
  have moves := shifts.moves
  have isSlot : (i, requestId) ∈ range config.numGroups ×ˢ requests :=
    mem_product.mpr ⟨mem_range.mpr inGroups, isKnown⟩
  refine ⟨⟨moves.holding.sound, fun slot => ?_, fun slot => ?_, fun slot unknown => ?_, fun block notNull => ?_⟩,
    fun slot isOther => elsewhere slot fun same => isOther (congrArg Prod.snd same), moves.numGpuBlocks, moves.nullBlock⟩
  · by_cases same : slot = (i, requestId)
    · rw [same, isAt]
      exact moves.holding.inRange
    · rw [elsewhere slot same]
      exact moves.numGpuBlocks.symm ▸ accounts.inRange slot
  · by_cases same : slot = (i, requestId)
    · rw [same, isAt]
      exact moves.holding.once
    · rw [elsewhere slot same]
      exact moves.nullBlock.symm ▸ accounts.once slot
  · rw [elsewhere slot fun same => unknown (same ▸ isSlot)]
    exact accounts.known slot unknown
  · have notNull : block ≠ self.pool.nullBlock := moves.nullBlock ▸ notNull
    have others := moves.others block notNull
    have counted := accounts.refCnt block notNull
    rw [← add_sum_erase _ _ isSlot] at counted ⊢
    rw [isAt, sum_congr rfl fun slot isOther => by rw [elsewhere slot (ne_of_mem_erase isOther)]]
    change (pool.blocks block).refCnt = _
    change _ = ((((self.managers i).reqToBlocks requestId).count block + _ : Nat) : Int) at counted
    omega

/-- A loop over the groups. -/
theorem Accounts.forManagers (isKnown : requestId ∈ requests) {body : Nat → BlockPool → SingleTypeKVCacheManager →
      Except PyError (BlockPool × SingleTypeKVCacheManager)} {groups : List Nat}
    (inGroups : ∀ i ∈ groups, i < config.numGroups)
    (shifts : ∀ i pool manager next after, pool.numGpuBlocks = self.pool.numGpuBlocks →
      pool.nullBlock = self.pool.nullBlock → pool.Holding (manager.reqToBlocks requestId) →
      body i pool manager = .ok (next, after) → Shifts requestId pool manager next after)
    (ran : self.forManagers body groups = .ok next) : Handles config requests requestId self next := by
  induction groups generalizing self with
  | nil =>
    cases ran
    exact .refl accounts
  | cons i rest ih =>
    obtain ⟨mid, first, ran⟩ := bind_eq_ok.mp ran
    obtain ⟨⟨pool, manager⟩, ranFirst, first⟩ := bind_eq_ok.mp first
    cases first
    have handles := accounts.shift (inGroups i List.mem_cons_self) isKnown
      (shifts i _ _ _ _ rfl rfl (accounts.holding (i, requestId)) ranFirst)
    refine handles.trans (ih handles.accounts (fun j member => inGroups j (List.mem_cons_of_mem _ member))
      (fun j pool manager next after numGpuBlocks nullBlock => shifts j pool manager next after
        (numGpuBlocks.trans handles.numGpuBlocks) (nullBlock.trans handles.nullBlock)) ran)

/-! ## The calls -/

variable {request : Request}

theorem coordinatorCacheBlocks_handles {numTokens : Int} (isKnown : request.requestId ∈ requests)
    (ran : self.coordinatorCacheBlocks config request numTokens = .ok next) :
    Handles config requests request.requestId self next := by
  have inGroups : ∀ i ∈ groups config, i < config.numGroups := fun _ => List.mem_range.mp
  unfold coordinatorCacheBlocks at ran
  split at ran
  next =>
    split at ran
    next =>
      cases ran
      exact .refl accounts
    next => exact accounts.forManagers isKnown inGroups (fun _ _ _ _ _ _ _ holding => cacheBlocks_shifts holding rfl) ran
  next => exact accounts.forManagers isKnown inGroups (fun _ _ _ _ _ _ _ holding => cacheBlocks_shifts holding rfl) ran

theorem removeSkippedBlocks_handles {totalComputedTokens : Int} (isKnown : requestId ∈ requests)
    (ran : self.removeSkippedBlocks config requestId totalComputedTokens = .ok next) :
    Handles config requests requestId self next :=
  accounts.forManagers isKnown (fun _ => List.mem_range.mp)
    (fun _ _ _ _ _ _ _ holding => removeSkippedBlocks_shifts holding) ran

theorem allocateNewComputedBlocks_handles {newComputedBlocks : Nat → List BlockId} {numLocalComputedTokens : Int}
    (hits : ∀ i, self.pool.Hits (newComputedBlocks i)) (isKnown : requestId ∈ requests)
    (ran : self.allocateNewComputedBlocks config requestId newComputedBlocks numLocalComputedTokens 0 = .ok next) :
    Handles config requests requestId self next := by
  refine accounts.forManagers isKnown (fun _ => List.mem_range.mp)
    (fun i _ _ _ _ numGpuBlocks nullBlock holding => allocateNewComputedBlocks_shifts holding ?_) ran
  exact ⟨numGpuBlocks.symm ▸ (hits i).inRange, nullBlock.symm ▸ (hits i).once⟩

omit accounts in
theorem collect_forManagers {α : Type} {body : Nat → BlockPool → SingleTypeKVCacheManager →
      Except PyError (α × BlockPool × SingleTypeKVCacheManager)} {groups : List Nat} {values : List α}
    (ran : collect body groups self = .ok (values, next)) :
    self.forManagers (fun i pool manager => body i pool manager >>= fun answer => .ok answer.2) groups = .ok next := by
  induction groups generalizing self values with
  | nil =>
    cases ran
    rfl
  | cons i rest ih =>
    obtain ⟨⟨value, pool, manager⟩, ranFirst, ran⟩ := bind_eq_ok.mp ran
    obtain ⟨⟨others, final⟩, ran, isNext⟩ := bind_eq_ok.mp ran
    cases isNext
    have later := ih ran
    rw [KVCacheManager.forManagers, List.foldlM_cons, ranFirst]
    exact later

theorem allocateNewBlocks_handles {numTokens numTokensMainModel : Int} {numEncoderTokens : Nat}
    {blocks : List (List BlockId)} (isKnown : requestId ∈ requests)
    (ran : self.allocateNewBlocks config requestId numTokens numTokensMainModel numEncoderTokens = .ok (blocks, next)) :
    Handles config requests requestId self next := by
  refine accounts.forManagers isKnown (fun _ => List.mem_range.mp) (fun i pool manager next after _ _ holding ran => ?_)
    (collect_forManagers ran)
  obtain ⟨answer, allocated, isAnswer⟩ := bind_eq_ok.mp ran
  obtain ⟨newBlocks, _⟩ := answer
  cases isAnswer
  exact allocateNewBlocks_shifts holding allocated

theorem allocateChecked_handles {args : AllocateArgs} {blocks : List (List BlockId)}
    (noConnector : args.numExternalComputedTokens = 0)
    (hits : ∀ i, self.pool.Hits (args.newComputedBlocks.getD i [])) (isKnown : request.requestId ∈ requests)
    (ran : self.allocateChecked config request args = .ok (blocks, next)) :
    Handles config requests request.requestId self next := by
  unfold allocateChecked at ran
  obtain ⟨withHits, computed, ran⟩ := bind_eq_ok.mp ran
  obtain ⟨⟨newBlocks, allocated⟩, allocates, ran⟩ := bind_eq_ok.mp ran
  have first : Handles config requests request.requestId self withHits := by
    split at computed
    next =>
      rw [noConnector] at computed
      exact allocateNewComputedBlocks_handles accounts hits isKnown computed
    next =>
      cases computed
      exact .refl accounts
  have second := first.trans (allocateNewBlocks_handles first.accounts isKnown allocates)
  dsimp only at ran
  split at ran
  next =>
    cases ran
    exact second
  next =>
    obtain ⟨cached, caches, ran⟩ := bind_eq_ok.mp ran
    cases ran
    exact second.trans (coordinatorCacheBlocks_handles second.accounts isKnown caches)

/-- Whether it returns blocks or none, `allocate_slots` moves only the blocks of its request. -/
theorem allocateSlots_handles {args : AllocateArgs} {blocks : Option (List (List BlockId))}
    (noConnector : args.numExternalComputedTokens = 0)
    (hits : ∀ i, self.pool.Hits (args.newComputedBlocks.getD i [])) (isKnown : request.requestId ∈ requests)
    (ran : self.allocateSlots config request args = .ok (blocks, next)) :
    Handles config requests request.requestId self next := by
  unfold allocateSlots at ran
  split at ran
  next => cases ran
  next =>
    obtain ⟨_, -, ran⟩ := bind_eq_ok.mp ran
    split at ran
    next =>
      cases ran
      exact .refl accounts
    next =>
      obtain ⟨skipped, skips, ran⟩ := bind_eq_ok.mp ran
      have first := removeSkippedBlocks_handles accounts isKnown skips
      obtain ⟨_, -, ran⟩ := bind_eq_ok.mp ran
      split at ran
      next =>
        cases ran
        exact first
      next =>
        obtain ⟨⟨newBlocks, allocated⟩, allocates, ran⟩ := bind_eq_ok.mp ran
        cases ran
        have hits : ∀ i, skipped.pool.Hits (args.newComputedBlocks.getD i []) := fun i =>
          ⟨first.numGpuBlocks.symm ▸ (hits i).inRange, first.nullBlock.symm ▸ (hits i).once⟩
        exact first.trans (allocateChecked_handles first.accounts noConnector hits isKnown allocates)

/-- `free` never raises, and leaves the request nothing. -/
theorem free_handles (isKnown : requestId ∈ requests) : ∃ next, self.free config requestId = .ok next ∧
    Handles config requests requestId self next ∧ ∀ i < config.numGroups, next.blocksAt (i, requestId) = [] := by
  suffices freed : ∀ indices : List Nat, (∀ i ∈ indices, i < config.numGroups) → ∃ next,
      self.forManagers (fun i pool manager => manager.free (config.group i) pool requestId) indices = .ok next ∧
        Handles config requests requestId self next ∧
        ∀ i, i ∈ indices ∨ self.blocksAt (i, requestId) = [] → next.blocksAt (i, requestId) = [] by
    obtain ⟨next, ran, handles, nothing⟩ := freed (groups config) fun _ => List.mem_range.mp
    exact ⟨next, ran, handles, fun i inside => nothing i (.inl (List.mem_range.mpr inside))⟩
  intro indices inGroups
  induction indices generalizing self with
  | nil => exact ⟨self, rfl, .refl accounts, fun i nothing => nothing.resolve_left List.not_mem_nil⟩
  | cons i rest ih =>
    obtain ⟨pool, manager, ranFirst, isFreed, shifts⟩ :=
      @free_shifts (config.group i) _ _ _ (accounts.holding (i, requestId))
    have handles := accounts.shift (inGroups i List.mem_cons_self) isKnown shifts
    obtain ⟨next, ran, later, nothing⟩ := ih handles.accounts fun j member => inGroups j (List.mem_cons_of_mem _ member)
    refine ⟨next, ?_, handles.trans later, fun j member => nothing j ?_⟩
    · rw [KVCacheManager.forManagers, List.foldlM_cons, ranFirst]
      exact ran
    · rw [blocksAt_setManager]
      split
      next => exact .inr isFreed
      next differ => exact member.imp_left fun inside => (List.mem_cons.mp inside).resolve_left differ

theorem cacheBlocks_handles {numComputedTokens : Int} (isKnown : request.requestId ∈ requests)
    (ran : self.cacheBlocks config request numComputedTokens = .ok next) :
    Handles config requests request.requestId self next := by
  unfold cacheBlocks at ran
  split at ran
  next => exact coordinatorCacheBlocks_handles accounts isKnown ran
  next =>
    cases ran
    exact .refl accounts

/-- A call that leaves the managers what they hold and the pool its counts. -/
theorem Accounts.frame (sound : ∃ free, next.pool.Sound free) (same : SameCounts self.pool next.pool)
    (blocks : next.blocksAt = self.blocksAt) : Accounts config requests next :=
  ⟨sound, blocks ▸ same.numGpuBlocks.symm ▸ accounts.inRange, blocks ▸ same.nullBlock.symm ▸ accounts.once,
    blocks ▸ accounts.known, fun block notNull => by
      rw [same.refCnt, accounts.refCnt block (same.nullBlock ▸ notNull), blocks]⟩

end

theorem getComputedBlocks_frame {request : Request} {computed : ComputedBlocks}
    (ran : self.getComputedBlocks config request = .ok (computed, next)) :
    next.pool = self.pool ∧ next.managers = self.managers := by
  unfold getComputedBlocks findLongestCacheHit at ran
  split at ran
  next =>
    cases ran
    exact ⟨rfl, rfl⟩
  next =>
    obtain ⟨⟨hit, found⟩, looked, ran⟩ := bind_eq_ok.mp ran
    cases ran
    split at looked
    next =>
      cases looked
      exact ⟨rfl, rfl⟩
    all_goals
      obtain ⟨_, -, looked⟩ := bind_eq_ok.mp looked
      cases looked
      exact ⟨rfl, rfl⟩

theorem lookUp_frame {perGroup : Bool} {request : Request} {computed : ComputedBlocks}
    (ran : self.lookUp config perGroup request = .ok (computed, next)) :
    next.pool = self.pool ∧ next.managers = self.managers := by
  unfold lookUp at ran
  split at ran
  next =>
    split at ran
    next =>
      obtain ⟨_, -, ran⟩ := bind_eq_ok.mp ran
      cases ran
      exact ⟨rfl, rfl⟩
    next => exact getComputedBlocks_frame ran
  next => exact getComputedBlocks_frame ran

/-! ## Whole runs -/

/-- A call of the scheduler that completed, with the request whose blocks it may move.
The computed blocks come from a lookup, and no connector loads tokens. -/
inductive Step (config : KVCacheManagerConfig) (self : KVCacheManager) : Option ReqId → KVCacheManager → Prop where
  | lookUp {next : KVCacheManager} (perGroup : Bool) (request : Request) (computed : ComputedBlocks)
      (ran : self.lookUp config perGroup request = .ok (computed, next)) : Step config self none next
  | allocateSlots {next : KVCacheManager} (request : Request) (args : AllocateArgs)
      (blocks : Option (List (List BlockId))) (noConnector : args.numExternalComputedTokens = 0)
      (hits : ∀ i, self.pool.Hits (args.newComputedBlocks.getD i []))
      (ran : self.allocateSlots config request args = .ok (blocks, next)) : Step config self request.requestId next
  | cacheBlocks {next : KVCacheManager} (request : Request) (numComputedTokens : Int)
      (ran : self.cacheBlocks config request numComputedTokens = .ok next) : Step config self request.requestId next
  | removeSkippedBlocks {next : KVCacheManager} (requestId : ReqId) (totalComputedTokens : Int)
      (ran : self.removeSkippedBlocks config requestId totalComputedTokens = .ok next) : Step config self requestId next
  | free {next : KVCacheManager} (requestId : ReqId) (ran : self.free config requestId = .ok next) :
      Step config self requestId next
  | evictBlocks {next : KVCacheManager} (blockIds : List BlockId) (ran : self.evictBlocks blockIds = .ok next) :
      Step config self none next
  | resetPrefixCache : Step config self none self.resetPrefixCache.2
  | newStepStarts : Step config self none self.newStepStarts

/-- One call keeps the account, and the blocks of all other requests. -/
theorem Step.accounts {changed : Option ReqId} (step : Step config self changed next)
    (accounts : Accounts config requests self) : ∃ requests, Accounts config requests next ∧
      ∀ slot, changed ≠ some slot.2 → next.blocksAt slot = self.blocksAt slot := by
  have done {requestId : ReqId} (handles : Handles config (insert requestId requests) requestId self next) :
      ∃ requests, Accounts config requests next ∧
        ∀ slot, some requestId ≠ some slot.2 → next.blocksAt slot = self.blocksAt slot :=
    ⟨_, handles.accounts, fun slot isOther => handles.others slot fun same => isOther (congrArg some same.symm)⟩
  have enrolled := accounts.enrol
  obtain ⟨free, sound⟩ := accounts.sound
  cases step with
  | lookUp _ _ _ ran =>
    obtain ⟨pool, managers⟩ := lookUp_frame ran
    have blocks : next.blocksAt = self.blocksAt := by
      funext slot
      rw [blocksAt, managers, blocksAt]
    exact ⟨requests, accounts.frame (pool ▸ accounts.sound) (pool ▸ .refl _) blocks, fun slot _ => congrFun blocks slot⟩
  | allocateSlots request _ _ noConnector hits ran =>
    exact done (allocateSlots_handles (enrolled _) noConnector hits (mem_insert_self _ _) ran)
  | cacheBlocks request _ ran => exact done (cacheBlocks_handles (enrolled _) (mem_insert_self _ _) ran)
  | removeSkippedBlocks _ _ ran => exact done (removeSkippedBlocks_handles (enrolled _) (mem_insert_self _ _) ran)
  | free requestId ran =>
    obtain ⟨_, ran', handles, -⟩ := free_handles (enrolled requestId) (mem_insert_self _ _)
    cases ran.symm.trans ran'
    exact done handles
  | evictBlocks _ ran =>
    obtain ⟨pool, evicted, ran⟩ := bind_eq_ok.mp ran
    cases ran
    obtain ⟨nextSound, same⟩ := evictBlocks_sound sound evicted
    exact ⟨requests, accounts.frame ⟨free, nextSound⟩ same rfl, fun _ _ => rfl⟩
  | resetPrefixCache =>
    obtain ⟨nextSound, same⟩ := resetPrefixCache_sound sound
    exact ⟨requests, accounts.frame ⟨free, nextSound⟩ same rfl, fun _ _ => rfl⟩
  | newStepStarts => exact ⟨requests, accounts.frame accounts.sound (.refl _) rfl, fun _ _ => rfl⟩

/-- A manager reached from its constructor by any sequence of calls, for any requests. -/
def Reachable (config : KVCacheManagerConfig) (self : KVCacheManager) : Prop :=
  ∃ numGpuBlocks enableCaching hashBlockSize enableKvCacheEvents useIntBlockHashes pool,
    BlockPool.init numGpuBlocks enableCaching hashBlockSize enableKvCacheEvents useIntBlockHashes = .ok pool ∧
      Relation.ReflTransGen (fun before after => ∃ changed, Step config before changed after) { pool } self

theorem Reachable.accounts (reachable : Reachable config self) : ∃ requests, Accounts config requests self := by
  obtain ⟨numGpuBlocks, enableCaching, hashBlockSize, enableKvCacheEvents, useIntBlockHashes, start, started, run⟩ :=
    reachable
  induction run with
  | refl =>
    obtain ⟨_, checked, built⟩ := bind_eq_ok.mp started
    obtain ⟨_, started', sound⟩ :=
      @init_sound numGpuBlocks hashBlockSize enableCaching enableKvCacheEvents useIntBlockHashes
        (by simpa using pyAssert_eq_ok.mp checked)
    cases started.symm.trans started'
    refine ⟨∅, ⟨_, sound⟩, fun _ _ member => (List.not_mem_nil member).elim, fun _ _ _ => Nat.zero_le 1,
      fun _ _ => rfl, fun block _ => ?_⟩
    obtain ⟨_, _, built⟩ := bind_eq_ok.mp built
    cases built
    dsimp only [modifyBlock]
    rw [Function.update_apply]
    split
    all_goals simp
  | tail _ step ih =>
    obtain ⟨requests, accounts⟩ := ih
    obtain ⟨changed, step⟩ := step
    obtain ⟨more, accounts, -⟩ := step.accounts accounts
    exact ⟨more, accounts⟩

theorem Accounts.refCnt_eq_zero (accounts : Accounts config requests self) {block : BlockId}
    (notNull : block ≠ self.pool.nullBlock) :
    (self.pool.blocks block).refCnt = 0 ↔ ∀ slot, block ∉ self.blocksAt slot := by
  rw [accounts.refCnt block notNull, Int.natCast_eq_zero, sum_eq_zero_iff]
  refine ⟨fun nobody slot member => ?_, fun nobody slot _ => List.count_eq_zero_of_not_mem (nobody slot)⟩
  by_cases isKnown : slot ∈ range config.numGroups ×ˢ requests
  · exact List.count_eq_zero.mp (nobody slot isKnown) member
  · rw [accounts.known slot isKnown] at member
    exact List.not_mem_nil member

theorem Accounts.mem_free_iff (accounts : Accounts config requests self) {free : List BlockId} (sound : self.pool.Sound free)
    {block : BlockId} (inRange : block < self.pool.numGpuBlocks) (notNull : block ≠ self.pool.nullBlock) :
    block ∈ free ↔ ∀ slot, block ∉ self.blocksAt slot := by
  rw [Sound.mem_free_iff sound, ← accounts.refCnt_eq_zero notNull]
  exact ⟨fun isFree => isFree.2.2, fun unheld => ⟨inRange, sound.notNull notNull, unheld⟩⟩

/-- In every reachable manager the reference count of a block is the number of places it
is held at, over all groups and requests, and the free queue has the blocks nobody holds. -/
theorem refCnt_eq_holders (reachable : Reachable config self) :
    ∃ (requests : Finset ReqId) (free : List BlockId),
      self.pool.freeBlockQueue.links.Represents free ∧ free.Nodup ∧
      (∀ block ∈ free, block < self.pool.numGpuBlocks ∧ block ≠ self.pool.nullBlock) ∧
      (∀ i requestId, config.numGroups ≤ i ∨ requestId ∉ requests → self.blocksAt (i, requestId) = []) ∧
      (∀ slot, (∀ block ∈ self.blocksAt slot, block < self.pool.numGpuBlocks) ∧
        ∀ block ≠ self.pool.nullBlock, (self.blocksAt slot).count block ≤ 1) ∧
      ∀ block < self.pool.numGpuBlocks, block ≠ self.pool.nullBlock →
        (self.pool.blocks block).refCnt =
          (∑ i ∈ range config.numGroups, ∑ requestId ∈ requests,
            (self.blocksAt (i, requestId)).count block : Nat) ∧
        (block ∈ free ↔ ∀ slot, block ∉ self.blocksAt slot) := by
  obtain ⟨requests, accounts⟩ := reachable.accounts
  obtain ⟨free, sound⟩ := accounts.sound
  refine ⟨requests, free, sound.queue.represents, sound.queue.nodup, fun block isFree => ?_,
    fun i requestId isNew => accounts.known _ ?_, fun slot => ⟨accounts.inRange slot, accounts.once slot⟩,
    fun block inRange notNull => ⟨?_, ?_⟩⟩
  · obtain ⟨inRange, notNull, -⟩ := (sound.mem_free_iff block).mp isFree
    exact ⟨inRange, fun isNull => Bool.false_ne_true (notNull.symm.trans ((sound.isNull_iff block).mpr isNull))⟩
  · rw [mem_product, mem_range]
    rintro ⟨inside, isKnown⟩
    exact isNew.elim (Nat.not_le_of_lt inside) fun unknown => unknown isKnown
  · rw [accounts.refCnt block notNull, sum_product]
  · exact accounts.mem_free_iff sound inRange notNull

private def twoTokens (requestId : ReqId) (last : TokenId) : Request where
  requestId
  samplingParams := { maxTokens := 1 }
  maxTokens := 1
  promptTokenIds := [5, last]
  numPromptTokens := 2
  allTokenIds := [5, last]
  blockHashes := [[5], [5, .ofNat last.toNat]]

private def oneGroup : KVCacheManagerConfig where
  numGroups := 1
  group _ := { spec := ⟨.fullAttention, 1, false, 0⟩, kvCacheGroupId := 0, schedulerBlockSize := 1, enableCaching := true }
  coordinator := .unitary 1 false
  maxModelLen := 4
  enableCaching := true

/-- Two requests of two blocks, the first of which they share. -/
private theorem exists_allocated : ∃ self, Reachable oneGroup self ∧ self.pool.numGpuBlocks = 8 ∧
    self.pool.nullBlock = 0 ∧ self.blocksAt (0, 7) = [1, 2] ∧ self.blocksAt (0, 8) = [1, 3] ∧
    self.resetPrefixCache.1 = false ∧ ∃ next, self.free oneGroup 7 = .ok next ∧ next.pool.nullBlock = 0 := by
  have nothing (pool : BlockPool) (i : Nat) : pool.Hits (([] : List (List BlockId)).getD i []) :=
    ⟨fun _ member => (List.not_mem_nil member).elim, fun _ _ => Nat.zero_le 1⟩
  have first (pool : BlockPool) (inRange : 1 < pool.numGpuBlocks) : ∀ i, pool.Hits ([[1]].getD i [])
    | 0 => ⟨by simpa using inRange, fun _ _ => List.count_le_length⟩
    | i + 1 => nothing pool i
  have reachable : Reachable oneGroup _ := ⟨8, true, 1, false, false, _, rfl,
    .tail (.tail (.single ⟨some 7, .allocateSlots (twoTokens 7 6) { numNewTokens := 2 } _ rfl (nothing _) rfl⟩)
      ⟨none, .lookUp false (twoTokens 8 9) ⟨[[1]], 1, 0⟩ rfl⟩)
      ⟨some 8, .allocateSlots (twoTokens 8 9)
        { numNewTokens := 1, numNewComputedTokens := 1, newComputedBlocks := [[1]] } _ rfl (first _ (by decide)) rfl⟩⟩
  exact ⟨_, reachable, rfl, rfl, rfl, rfl, rfl, _, rfl, rfl⟩

theorem refCnt_eq_holders_allocated : ∃ self, Reachable oneGroup self ∧
    1 ∈ self.blocksAt (0, 7) ∧ 1 ∈ self.blocksAt (0, 8) ∧ ∃ free : List BlockId,
      self.pool.freeBlockQueue.links.Represents free ∧ 1 ∉ free := by
  obtain ⟨self, reachable, size, isNull, blocks, others, -⟩ := exists_allocated
  obtain ⟨_, free, represents, -, -, -, -, counted⟩ := refCnt_eq_holders reachable
  refine ⟨self, reachable, blocks ▸ by decide, others ▸ by decide, free, represents, fun queued => ?_⟩
  have nobody := (counted 1 (by rw [size]; decide) (by rw [isNull]; decide)).2.mp queued (0, 7)
  rw [blocks] at nobody
  exact nobody (by decide)

/-- `reset_prefix_cache` succeeds exactly if no request holds a block, and then every block but
the null block is in the free queue. -/
theorem resetPrefixCache_succeeds_iff (reachable : Reachable config self) :
    (self.resetPrefixCache.1 = true ↔ ∀ slot, ∀ block ∈ self.blocksAt slot, block = self.pool.nullBlock) ∧
      (self.resetPrefixCache.1 = true → self.pool.getNumFreeBlocks = self.pool.numGpuBlocks - 1) := by
  obtain ⟨requests, accounts⟩ := reachable.accounts
  obtain ⟨free, sound⟩ := accounts.sound
  have succeeds : self.resetPrefixCache.1 = true ↔ (self.pool.numGpuBlocks : Int) - free.length = 1 := by
    rw [← sound.numFree]
    change self.pool.resetPrefixCache.1 = true ↔ _
    unfold BlockPool.resetPrefixCache
    split
    next fails => exact ⟨fun never => Bool.noConfusion never, fun succeeds => absurd succeeds fails⟩
    next succeeds => exact ⟨fun _ => not_not.mp succeeds, fun _ => rfl⟩
  have others : ((range self.pool.numGpuBlocks).erase self.pool.nullBlock).card + 1 = self.pool.numGpuBlocks := by
    rw [card_erase_add_one (mem_range.mpr sound.nullInRange), card_range]
  have count : free.toFinset.card = free.length := List.toFinset_card_of_nodup sound.queue.nodup
  have isFree : free.toFinset ⊆ (range self.pool.numGpuBlocks).erase self.pool.nullBlock := by
    intro block member
    obtain ⟨inRange, notNull, -⟩ := (Sound.mem_free_iff sound block).mp (List.mem_toFinset.mp member)
    refine mem_erase.mpr ⟨?_, mem_range.mpr inRange⟩
    rintro rfl
    exact Bool.noConfusion (((sound.isNull_iff _).mpr rfl).symm.trans notNull)
  refine ⟨succeeds.trans ⟨fun all slot block member => ?_, fun nobody => ?_⟩, fun done => ?_⟩
  · by_contra notNull
    have inRange := accounts.inRange slot block member
    have same := eq_of_subset_of_card_le isFree (by omega)
    have queued : block ∈ free := by
      rw [← List.mem_toFinset, same]
      exact mem_erase.mpr ⟨notNull, mem_range.mpr inRange⟩
    exact (accounts.mem_free_iff sound inRange notNull).mp queued slot member
  · have same : free.toFinset = (range self.pool.numGpuBlocks).erase self.pool.nullBlock := by
      refine isFree.antisymm fun block member => ?_
      obtain ⟨notNull, inRange⟩ := mem_erase.mp member
      exact List.mem_toFinset.mpr ((accounts.mem_free_iff sound (mem_range.mp inRange) notNull).mpr
        fun slot held => notNull (nobody slot block held))
    rw [same] at count
    omega
  · have := succeeds.mp done
    rw [sound.numFree]
    omega

theorem resetPrefixCache_succeeds_iff_allocated : ∃ self, Reachable oneGroup self ∧
    ∃ slot, ∃ block ∈ self.blocksAt slot, block ≠ self.pool.nullBlock := by
  obtain ⟨self, reachable, -, -, -, -, fails, -⟩ := exists_allocated
  refine ⟨self, reachable, ?_⟩
  by_contra nobody
  push Not at nobody
  rw [(resetPrefixCache_succeeds_iff reachable).1.mpr nobody] at fails
  cases fails

/-- `free` never raises in a reachable manager: the request holds nothing afterwards, all others
what they held, and a block that only the request held is unreferenced. -/
theorem free_returns (reachable : Reachable config self) (requestId : ReqId) :
    ∃ next, self.free config requestId = .ok next ∧ (∀ i, next.blocksAt (i, requestId) = []) ∧
      (∀ slot, slot.2 ≠ requestId → next.blocksAt slot = self.blocksAt slot) ∧
      ∀ block ≠ self.pool.nullBlock, (next.pool.blocks block).refCnt = 0 ↔
        ∀ slot, slot.2 ≠ requestId → block ∉ self.blocksAt slot := by
  obtain ⟨requests, accounts⟩ := reachable.accounts
  obtain ⟨next, ran, handles, nothing⟩ := free_handles (accounts.enrol requestId) (mem_insert_self _ _)
  have nothing : ∀ i, next.blocksAt (i, requestId) = [] := by
    intro i
    by_cases inside : i < config.numGroups
    · exact nothing i inside
    · refine handles.accounts.known _ fun isKnown => inside ?_
      exact mem_range.mp (mem_product.mp isKnown).1
  refine ⟨next, ran, nothing, handles.others, fun block notNull => ?_⟩
  rw [handles.accounts.refCnt_eq_zero (handles.nullBlock.symm ▸ notNull)]
  refine ⟨fun nobody slot isOther => handles.others slot isOther ▸ nobody slot, fun nobody slot => ?_⟩
  by_cases isOther : slot.2 = requestId
  · obtain ⟨i, _⟩ := slot
    cases isOther
    rw [nothing i]
    exact List.not_mem_nil
  · rw [handles.others slot isOther]
    exact nobody slot isOther

theorem free_returns_allocated : ∃ self next, Reachable oneGroup self ∧ self.free oneGroup 7 = .ok next ∧
    next.blocksAt (0, 7) = [] := by
  obtain ⟨self, reachable, -⟩ := exists_allocated
  obtain ⟨next, ran, nothing, -⟩ := free_returns reachable 7
  exact ⟨self, next, reachable, ran, nothing 0⟩

/-- Whatever call is made for a request, the others keep their blocks, and none of these
gets into the free queue or loses its last reference. -/
theorem step_keepsOthers (reachable : Reachable config self) {changed : Option ReqId}
    (step : Step config self changed next) {slot : Nat × ReqId} (isOther : changed ≠ some slot.2) :
    next.blocksAt slot = self.blocksAt slot ∧
      ∃ free, next.pool.freeBlockQueue.links.Represents free ∧
        ∀ block ∈ self.blocksAt slot, block ≠ next.pool.nullBlock →
          block ∉ free ∧ 0 < (next.pool.blocks block).refCnt := by
  obtain ⟨_, accounts⟩ := reachable.accounts
  obtain ⟨more, accounts, others⟩ := step.accounts accounts
  obtain ⟨free, sound⟩ := accounts.sound
  refine ⟨others slot isOther, free, sound.queue.represents, fun block member notNull => ?_⟩
  rw [← others slot isOther] at member
  have inRange := accounts.inRange slot block member
  refine ⟨fun queued => (accounts.mem_free_iff sound inRange notNull).mp queued slot member, ?_⟩
  refine lt_of_le_of_ne (sound.refCnt_nonneg block (sound.notNull notNull)) fun unheld => ?_
  exact (accounts.refCnt_eq_zero notNull).mp unheld.symm slot member

theorem step_keepsOthers_free : ∃ self next, Reachable oneGroup self ∧ self.free oneGroup 7 = .ok next ∧
    next.blocksAt (0, 8) = [1, 3] ∧ 0 < (next.pool.blocks 1).refCnt := by
  obtain ⟨self, reachable, -, -, -, blocks, -, next, ran, isNull⟩ := exists_allocated
  obtain ⟨same, _, -, held⟩ := @step_keepsOthers _ _ _ reachable _ (.free 7 ran) (0, 8) (by decide)
  exact ⟨self, next, reachable, ran, same.trans blocks, (held 1 (blocks ▸ by decide) (isNull ▸ by decide)).2⟩

end KVCacheManager

end DeepSpark
