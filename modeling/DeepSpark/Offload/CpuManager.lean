import DeepSpark.Lib.IdPool
import DeepSpark.Offload.Policies

/-!
`CPUOffloadingManager` of `v1/kv_offload/cpu/manager.py`.

Owns the manager's state and every call of its interface, and for each call
what it does to the blocks, to the free list and to the event queue. The
request context is not read by any of them; `get_stats` is left out. The texts
of the assertions are given without the key they print.
-/

namespace DeepSpark

open Lib Function List

structure OffloadingEvent (κ : Type) where
  keys : List κ
  medium : String
  removed : Bool
deriving DecidableEq, Repr

structure PrepareStoreOutput (κ : Type) where
  keysToStore : List κ
  storeSpec : List Nat
  evictedKeys : List κ
deriving DecidableEq, Repr

structure CPUOffloadingManager (κ F : Type) where
  numBlocks : Nat
  numAllocatedBlocks : Nat
  freeList : List Nat
  events : Option (List (OffloadingEvent κ))
  policy : CachePolicy κ F
  storeThreshold : Int
  maxTrackerSize : Int
  storesSkippedInCurrentBatch : Nat
  counts : Option (PyDict κ Int)

namespace CPUOffloadingManager

variable {κ F : Type} [DecidableEq κ]

def medium : String := "CPU"

def init [PyFloat F] (numBlocks : Nat) (cachePolicy : CachePolicyName) (enableEvents : Bool)
    (storeThreshold maxTrackerSize : Int) : CPUOffloadingManager κ F :=
  { numBlocks
    numAllocatedBlocks := 0
    freeList := []
    events := if enableEvents then some [] else none
    policy := .init numBlocks cachePolicy
    storeThreshold, maxTrackerSize
    storesSkippedInCurrentBatch := 0
    counts := if 2 ≤ storeThreshold then some .empty else none }

/-! ## Block pool -/

def getNumFreeBlocks (manager : CPUOffloadingManager κ F) : Int :=
  manager.freeList.length + manager.numBlocks - manager.numAllocatedBlocks

def popFreeList : Nat → List Nat → Except PyError (List BlockStatus × List Nat)
  | 0, freeList => .ok ([], freeList)
  | count + 1, freeList =>
    match freeList.getLast? with
    | none => .error (.indexError "pop from empty list")
    | some blockId => do
        let (blocks, rest) ← popFreeList count freeList.dropLast
        .ok ({ blockId } :: blocks, rest)

/-- `_allocate_blocks`, which reads only the length of its keys. -/
def allocateBlocks (manager : CPUOffloadingManager κ F) (numKeys : Nat) :
    Except PyError (List BlockStatus × CPUOffloadingManager κ F) := do
  let numFresh : Int := min (numKeys : Int) (manager.numBlocks - manager.numAllocatedBlocks)
  let numReused : Int := numKeys - numFresh
  pyAssert (numReused ≤ manager.freeList.length) ""
  let fresh : List BlockStatus :=
    (List.range' manager.numAllocatedBlocks numFresh.toNat).map fun blockId => { blockId }
  let (reused, freeList) ← popFreeList numReused.toNat manager.freeList
  .ok (fresh ++ reused,
    { manager with
      numAllocatedBlocks := manager.numAllocatedBlocks + numFresh.toNat, freeList })

def freeBlock (manager : CPUOffloadingManager κ F) (block : BlockStatus) : CPUOffloadingManager κ F :=
  { manager with freeList := manager.freeList ++ [block.blockId] }

/-- `self.events.append(event)` for a non-empty list of keys, when events are enabled. -/
def pushEvent (manager : CPUOffloadingManager κ F) (keys : List κ) (removed : Bool) :
    CPUOffloadingManager κ F :=
  if keys = [] then manager
  else { manager with events := manager.events.map (· ++ [⟨keys, medium, removed⟩]) }

/-! ## The interface -/

/-- The reuse counter of `lookup`. -/
def countLookup (manager : CPUOffloadingManager κ F) (key : κ) :
    Except PyError (CPUOffloadingManager κ F) :=
  match manager.counts with
  | none => .ok manager
  | some counts =>
    match counts.get? key with
    | some count =>
      .ok { manager with counts := some ((counts.moveToEnd key).set key (count + 1)) }
    | none =>
      if manager.maxTrackerSize ≤ counts.entries.length then
        if counts.entries = [] then .error (.keyError "dictionary is empty")
        else .ok { manager with counts := some ((counts.popOldest 1).set key 1) }
      else .ok { manager with counts := some (counts.set key 1) }

/-- `lookup`: none while the store of the key is in flight. -/
def lookup (manager : CPUOffloadingManager κ F) (key : κ) :
    Except PyError (Option Bool × CPUOffloadingManager κ F) := do
  let manager ← manager.countLookup key
  match manager.policy.get key with
  | none => .ok (some false, manager)
  | some block => .ok (if block.isReady then some true else none, manager)

/-- `prepare_load`: the ids of the blocks, each with one more reference. -/
def prepareLoad (manager : CPUOffloadingManager κ F) :
    List κ → Except PyError (List Nat × CPUOffloadingManager κ F)
  | [] => .ok ([], manager)
  | key :: keys =>
    match manager.policy.get key with
    | none => .error (.assertionError "Block not found in cache")
    | some block => do
        pyAssert block.isReady "Block is not ready for reading"
        let manager :=
          { manager with policy := manager.policy.setRefCnt key (block.refCnt + 1) }
        let (blockIds, manager) ← prepareLoad manager keys
        .ok (block.blockId :: blockIds, manager)

def touch [PyFloat F] (manager : CPUOffloadingManager κ F) (keys : List κ) :
    CPUOffloadingManager κ F :=
  { manager with policy := manager.policy.touch keys }

def completeLoad (manager : CPUOffloadingManager κ F) :
    List κ → Except PyError (CPUOffloadingManager κ F)
  | [] => .ok manager
  | key :: keys =>
    match manager.policy.get key with
    | none => .error (.assertionError "Block not found")
    | some block => do
        pyAssert (0 < block.refCnt) "Block ref_cnt is already 0"
        completeLoad { manager with policy := manager.policy.setRefCnt key (block.refCnt - 1) } keys

/-- The filter by `store_threshold` of `prepare_store`. -/
def reusedKeys (manager : CPUOffloadingManager κ F) (keys : List κ) :
    List κ × CPUOffloadingManager κ F :=
  match manager.counts with
  | none => (keys, manager)
  | some counts =>
    let kept := keys.filter fun key => manager.storeThreshold ≤ (counts.get? key).getD 0
    (kept,
      { manager with
        storesSkippedInCurrentBatch :=
          manager.storesSkippedInCurrentBatch + (keys.length - kept.length) })

/-- The eviction of `prepare_store`, with the evicted keys; none if there are too few candidates. -/
def evictBlocks [PyFloat F] (manager : CPUOffloadingManager κ F) (numBlocksToEvict : Int)
    (isProtected : List κ) : Option (List κ × CPUOffloadingManager κ F) :=
  if 0 < numBlocksToEvict then
    match manager.policy.evict numBlocksToEvict.toNat isProtected with
    | none => none
    | some (evicted, policy) =>
      some (evicted.map Prod.fst,
        (evicted.map Prod.snd).foldl freeBlock { manager with policy })
  else some ([], manager)

/-- The insertion loop of `prepare_store`. -/
def insertBlocks (policy : CachePolicy κ F) (entries : List (κ × BlockStatus)) : CachePolicy κ F :=
  entries.foldl (fun policy entry => policy.insert entry.1 entry.2) policy

def prepareStore [PyFloat F] (manager : CPUOffloadingManager κ F) (keys : List κ) :
    Except PyError (Option (PrepareStoreOutput κ) × CPUOffloadingManager κ F) := do
  let (keys, manager) := manager.reusedKeys keys
  let keysToStore := keys.filter fun key => (manager.policy.get key).isNone
  if keysToStore = [] then .ok (some ⟨[], [], []⟩, manager)
  else
    match manager.evictBlocks (keysToStore.length - manager.getNumFreeBlocks) keys with
    | none => .ok (none, manager)
    | some (toEvict, manager) => do
        let manager := manager.pushEvent toEvict true
        let (blocks, manager) ← manager.allocateBlocks keysToStore.length
        pyAssert (blocks.length = keysToStore.length)
          "Block pool did not allocate the expected number of blocks"
        .ok (some ⟨keysToStore, blocks.map BlockStatus.blockId, toEvict⟩,
          { manager with policy := insertBlocks manager.policy (keysToStore.zip blocks) })

/-- The loop of a successful `complete_store`, with the keys it made loadable. -/
def markStored (manager : CPUOffloadingManager κ F) : List κ → List κ × CPUOffloadingManager κ F
  | [] => ([], manager)
  | key :: keys =>
    match manager.policy.get key with
    | none => markStored manager keys
    | some block =>
      if block.isReady then markStored manager keys
      else
        let (storedKeys, manager) :=
          markStored { manager with policy := manager.policy.setRefCnt key 0 } keys
        (key :: storedKeys, manager)

/-- The loop of a failed `complete_store`. -/
def dropUnstored (manager : CPUOffloadingManager κ F) :
    List κ → Except PyError (CPUOffloadingManager κ F)
  | [] => .ok manager
  | key :: keys =>
    match manager.policy.get key with
    | none => dropUnstored manager keys
    | some block =>
      if block.isReady then dropUnstored manager keys
      else do
        let policy ← manager.policy.remove key
        dropUnstored (freeBlock { manager with policy } block) keys

def completeStore (manager : CPUOffloadingManager κ F) (keys : List κ) (success : Bool) :
    Except PyError (CPUOffloadingManager κ F) :=
  if success then
    let (storedKeys, manager) := manager.markStored keys
    .ok (manager.pushEvent storedKeys false)
  else manager.dropUnstored keys

def resetCache [PyFloat F] (manager : CPUOffloadingManager κ F) : CPUOffloadingManager κ F :=
  { manager with policy := manager.policy.clear, freeList := [], numAllocatedBlocks := 0 }

def takeEvents (manager : CPUOffloadingManager κ F) :
    List (OffloadingEvent κ) × CPUOffloadingManager κ F :=
  (manager.events.getD [], { manager with events := manager.events.map fun _ => [] })

/-! ## References -/

def moved (get : κ → Option BlockStatus) (change : κ → Int) (key : κ) : Option BlockStatus :=
  (get key).map fun block => { block with refCnt := block.refCnt + change key }

private theorem moved_update {get : κ → Option BlockStatus} {key : κ} {block : BlockStatus}
    (isHeld : get key = some block) (step : Int) (change : κ → Int) :
    moved (update get key (some { block with refCnt := block.refCnt + step })) change =
      moved get fun other => change other + if other = key then step else 0 := by
  funext other
  unfold moved
  by_cases same : other = key
  · rw [same, update_self, isHeld]
    simp [Int.add_assoc, Int.add_comm step]
  · rw [update_of_ne same]
    simp [same]

variable {keys : List κ}

theorem prepareLoad_spec (manager : CPUOffloadingManager κ F)
    (wellFormed : manager.policy.WellFormed)
    (ready : ∀ key ∈ keys, ∃ block, manager.policy.get key = some block ∧ 0 ≤ block.refCnt ∧
      block.refCnt + keys.count key < 2 ^ 31) :
    ∃ blockIds policy, manager.prepareLoad keys = .ok (blockIds, { manager with policy }) ∧
      blockIds.map some = keys.map (fun key => (manager.policy.get key).map BlockStatus.blockId) ∧
      policy.WellFormed ∧ policy.get = moved manager.policy.get fun key => keys.count key := by
  induction keys generalizing manager with
  | nil =>
    refine ⟨[], manager.policy, rfl, rfl, wellFormed, ?_⟩
    funext key
    unfold moved
    cases manager.policy.get key <;> simp
  | cons key keys ih =>
    obtain ⟨block, isHeld, isReady, room⟩ := ready key mem_cons_self
    rw [count_cons_self] at room
    obtain ⟨stillWellFormed, getNext⟩ := CachePolicy.setRefCnt_spec wellFormed isHeld
      (show -2 ^ 31 ≤ block.refCnt + 1 by omega) (show block.refCnt + 1 < 2 ^ 31 by omega)
    obtain ⟨blockIds, policy, ran, ids, policyWellFormed, getAfter⟩ := ih
      { manager with policy := manager.policy.setRefCnt key (block.refCnt + 1) }
      stillWellFormed (by
        intro other member
        rw [getNext]
        obtain ⟨found, isFound, foundReady, foundRoom⟩ :=
          ready other (mem_cons_of_mem key member)
        by_cases same : other = key
        · subst same
          rw [update_self]
          exact ⟨_, rfl, show 0 ≤ block.refCnt + 1 by omega, show _ + 1 + _ < _ by push_cast at room; omega⟩
        · rw [update_of_ne same]
          rw [count_cons_of_ne (Ne.symm same)] at foundRoom
          exact ⟨found, isFound, foundReady, foundRoom⟩)
    refine ⟨block.blockId :: blockIds, policy, ?_, ?_, policyWellFormed, ?_⟩
    · rw [prepareLoad, isHeld]
      simp only [BlockStatus.isReady, isReady, decide_true, pyAssert_true]
      rw [ran]
      rfl
    · rw [map_cons, map_cons, ids, isHeld]
      congr 1
      apply map_congr_left
      intro other _
      rw [getNext]
      by_cases same : other = key
      · rw [same, update_self, isHeld]
        rfl
      · rw [update_of_ne same]
    · rw [getAfter]
      rw [getNext, moved_update isHeld]
      congr 1
      funext other
      rw [count_cons]
      by_cases same : other = key
      · simp [same]
      · simp [same, Ne.symm same]

theorem completeLoad_spec (manager : CPUOffloadingManager κ F) (keys : List κ)
    (wellFormed : manager.policy.WellFormed)
    (isHeld : ∀ key ∈ keys, ∃ block, manager.policy.get key = some block ∧
      keys.count key ≤ block.refCnt ∧ block.refCnt < 2 ^ 31) :
    ∃ policy, manager.completeLoad keys = .ok { manager with policy } ∧ policy.WellFormed ∧
      policy.get = moved manager.policy.get fun key => -keys.count key := by
  induction keys generalizing manager with
  | nil =>
    refine ⟨manager.policy, rfl, wellFormed, ?_⟩
    funext key
    unfold moved
    cases manager.policy.get key <;> simp
  | cons key keys ih =>
    obtain ⟨block, read, referenced, small⟩ := isHeld key mem_cons_self
    rw [count_cons_self] at referenced
    have positive : 0 < block.refCnt := by push_cast at referenced; omega
    obtain ⟨stillWellFormed, getNext⟩ := CachePolicy.setRefCnt_spec wellFormed read
      (show -2 ^ 31 ≤ block.refCnt - 1 by omega) (show block.refCnt - 1 < 2 ^ 31 by omega)
    obtain ⟨policy, ran, policyWellFormed, getAfter⟩ := ih
      { manager with policy := manager.policy.setRefCnt key (block.refCnt - 1) }
      stillWellFormed (by
        intro other member
        rw [getNext]
        obtain ⟨found, isFound, foundReferenced, foundSmall⟩ :=
          isHeld other (mem_cons_of_mem key member)
        by_cases same : other = key
        · subst same
          rw [update_self]
          exact ⟨_, rfl, show _ ≤ block.refCnt - 1 by push_cast at referenced; omega,
            show block.refCnt - 1 < _ by omega⟩
        · rw [update_of_ne same]
          rw [count_cons_of_ne (Ne.symm same)] at foundReferenced
          exact ⟨found, isFound, foundReferenced, foundSmall⟩)
    refine ⟨policy, ?_, policyWellFormed, ?_⟩
    · rw [completeLoad, read]
      simp only [positive, decide_true, pyAssert_true]
      exact ran
    · rw [getAfter]
      rw [getNext, Int.sub_eq_add_neg, moved_update read]
      congr 1
      funext other
      rw [count_cons]
      by_cases same : other = key
      · simp [same]
        omega
      · simp [same, Ne.symm same]

/-! ## Block ids -/

def owner (get : κ → Option BlockStatus) (key : κ) : Option Nat := (get key).map BlockStatus.blockId

private theorem owner_update_some (get : κ → Option BlockStatus) (key : κ) (block : BlockStatus) :
    owner (update get key (some block)) =
      update (owner get) key (some block.blockId) := by
  funext other
  by_cases same : other = key
  · rw [owner, same, update_self, update_self]
    rfl
  · rw [owner, update_of_ne same, update_of_ne same]
    rfl

private theorem owner_update_none (get : κ → Option BlockStatus) (key : κ) :
    owner (update get key none) = update (owner get) key none := by
  funext other
  by_cases same : other = key
  · rw [owner, same, update_self, update_self]
    rfl
  · rw [owner, update_of_ne same, update_of_ne same]
    rfl

omit [DecidableEq κ] in
theorem owner_moved (get : κ → Option BlockStatus) (change : κ → Int) :
    owner (moved get change) = owner get := by
  funext key
  unfold owner moved
  cases get key <;> rfl

structure Accounted (manager : CPUOffloadingManager κ F) : Prop where
  wellFormed : manager.policy.WellFormed
  marked : manager.numAllocatedBlocks ≤ manager.numBlocks
  ids : IdPool manager.numAllocatedBlocks manager.freeList (owner manager.policy.get)

private theorem popFreeList_spec {count : Nat} {freeList : List Nat} (enough : count ≤ freeList.length) :
    ∃ blocks rest, popFreeList count freeList = .ok (blocks, rest) ∧ blocks.length = count ∧
      (∀ block ∈ blocks, block.refCnt = -1) ∧
      freeList.Perm (blocks.map BlockStatus.blockId ++ rest) := by
  induction count generalizing freeList with
  | zero => exact ⟨[], freeList, rfl, rfl, by simp, .refl _⟩
  | succ count ih =>
    have nonempty : freeList ≠ [] := by
      rintro rfl
      simp at enough
    have split := dropLast_append_getLast nonempty
    obtain ⟨blocks, rest, ran, length, unready, permutation⟩ :=
      ih (show count ≤ freeList.dropLast.length by
        rw [length_dropLast]
        omega)
    refine ⟨{ blockId := freeList.getLast nonempty } :: blocks, rest, ?_, ?_, ?_, ?_⟩
    · rw [popFreeList, getLast?_eq_some_getLast nonempty]
      simp only [ran]
      rfl
    · rw [length_cons, length]
    · simpa using unready
    · conv_lhs => rw [← split]
      rw [map_cons, cons_append]
      exact (perm_append_singleton _ _).trans (permutation.cons _)

variable {allocated : Nat}

omit [DecidableEq κ] in
private theorem grow_range {spare : List Nat} {owns : κ → Option Nat}
    (pool : IdPool allocated spare owns) (count : Nat) :
    IdPool (allocated + count) (List.range' allocated count ++ spare) owns := by
  induction count with
  | zero => exact pool
  | succ count ih =>
    refine ih.grow.perm ?_
    rw [range'_concat, Nat.one_mul, append_assoc]
    exact perm_middle.symm

variable {manager : CPUOffloadingManager κ F}

/-- Allocation succeeds when there is room, and takes the ids out of the spare ones. -/
theorem allocateBlocks_spec (accounted : manager.Accounted)
    {numKeys : Nat} (room : (numKeys : Int) ≤ manager.getNumFreeBlocks) :
    ∃ blocks numAllocatedBlocks freeList,
      manager.allocateBlocks numKeys = .ok (blocks, { manager with numAllocatedBlocks, freeList }) ∧
      blocks.length = numKeys ∧ (∀ block ∈ blocks, block.refCnt = -1) ∧
      numAllocatedBlocks ≤ manager.numBlocks ∧
      IdPool numAllocatedBlocks (blocks.map BlockStatus.blockId ++ freeList)
        (owner manager.policy.get) := by
  obtain ⟨numFresh, isFresh⟩ : ∃ numFresh : Nat,
      min (numKeys : Int) (manager.numBlocks - manager.numAllocatedBlocks) = numFresh := by
    have := accounted.marked
    exact ⟨(min (numKeys : Int) (manager.numBlocks - manager.numAllocatedBlocks)).toNat, by omega⟩
  rw [getNumFreeBlocks] at room
  obtain ⟨reused, freeList, popped, reusedLength, reusedUnready, permutation⟩ :=
    popFreeList_spec (show numKeys - numFresh ≤ manager.freeList.length by omega)
  refine ⟨(List.range' manager.numAllocatedBlocks numFresh).map
      (fun blockId => ({ blockId } : BlockStatus)) ++ reused,
    manager.numAllocatedBlocks + numFresh, freeList, ?_, ?_, ?_, ?_, ?_⟩
  · have asserted : decide ((numKeys : Int) - numFresh ≤ manager.freeList.length) = true := by
      rw [decide_eq_true_iff]
      omega
    have reusedCount : ((numKeys : Int) - numFresh).toNat = numKeys - numFresh := by omega
    rw [allocateBlocks]
    simp only [isFresh, asserted, pyAssert_true, reusedCount, popped, Int.toNat_natCast]
    rfl
  · rw [length_append, length_map, length_range', reusedLength]
    omega
  · intro block member
    rcases mem_append.mp member with isFresh | isReused
    · obtain ⟨_, _, rfl⟩ := mem_map.mp isFresh
      rfl
    · exact reusedUnready block isReused
  · have := accounted.marked
    omega
  · refine (grow_range accounted.ids numFresh).perm ?_
    rw [map_append, map_map, append_assoc]
    have sameIds : (List.range' manager.numAllocatedBlocks numFresh).map
        (BlockStatus.blockId ∘ fun blockId => ({ blockId } : BlockStatus)) =
        List.range' manager.numAllocatedBlocks numFresh := by
      conv_rhs => rw [← map_id (List.range' manager.numAllocatedBlocks numFresh)]
      rfl
    rw [sameIds]
    exact permutation.append_left _

theorem insertBlocks_spec {freeList : List Nat}
    {blocks : List BlockStatus} {policy : CachePolicy κ F} (wellFormed : policy.WellFormed)
    (sameLength : blocks.length = keys.length) (nodup : keys.Nodup)
    (areNew : ∀ key ∈ keys, policy.get key = none)
    (ids : IdPool allocated (blocks.map BlockStatus.blockId ++ freeList) (owner policy.get)) :
    (insertBlocks policy (keys.zip blocks)).WellFormed ∧
      IdPool allocated freeList (owner (insertBlocks policy (keys.zip blocks)).get) ∧
      (∀ key, key ∉ keys → (insertBlocks policy (keys.zip blocks)).get key = policy.get key) ∧
      ∀ entry ∈ keys.zip blocks,
        (insertBlocks policy (keys.zip blocks)).get entry.1 = some entry.2 := by
  induction keys generalizing blocks policy with
  | nil =>
    obtain rfl := eq_nil_of_length_eq_zero sameLength
    exact ⟨wellFormed, ids, fun _ _ => rfl, by simp⟩
  | cons key keys ih =>
    obtain ⟨block, blocks, rfl⟩ := exists_cons_of_length_eq_add_one sameLength
    have notLater := nodup_cons.mp nodup
    obtain ⟨stillWellFormed, getNext⟩ :=
      CachePolicy.insert_spec wellFormed (areNew key mem_cons_self) block
    have placed : IdPool allocated (blocks.map BlockStatus.blockId ++ freeList)
        (owner (policy.insert key block).get) := by
      rw [getNext, owner_update_some]
      refine ids.place ?_
      rw [owner, areNew key mem_cons_self]
      rfl
    have stillNew : ∀ other ∈ keys, (policy.insert key block).get other = none := by
      intro other member
      have differ : other ≠ key := by
        rintro rfl
        exact notLater.1 member
      rw [getNext, update_of_ne differ]
      exact areNew other (mem_cons_of_mem key member)
    obtain ⟨afterWellFormed, afterIds, afterOther, afterEntry⟩ := ih
      stillWellFormed (Nat.succ.inj sameLength) notLater.2 stillNew placed
    refine ⟨afterWellFormed, afterIds, fun other isOther => ?_, fun entry member => ?_⟩
    · rw [mem_cons, not_or] at isOther
      rw [← update_of_ne isOther.1 (some block) policy.get, ← getNext]
      exact afterOther other isOther.2
    · rcases mem_cons.mp member with isHead | inRest
      · rw [isHead]
        refine (afterOther key notLater.1).trans ?_
        rw [getNext, update_self]
      · exact afterEntry entry inRest

/-! ## `prepare_store` -/

private theorem displace_all {spare : List Nat} {get getAfter : κ → Option BlockStatus}
    {evicted : List (κ × BlockStatus)} (pool : IdPool allocated spare (owner get))
    (nodup : (evicted.map Prod.fst).Nodup) (wasHeld : ∀ entry ∈ evicted, get entry.1 = some entry.2)
    (getAfter_eq : ∀ key, getAfter key = if key ∈ evicted.map Prod.fst then none else get key) :
    IdPool allocated (spare ++ evicted.map fun entry => entry.2.blockId) (owner getAfter) := by
  induction evicted generalizing spare get with
  | nil =>
    have same : getAfter = get := funext fun key => by simpa using getAfter_eq key
    simpa [same] using pool
  | cons entry rest ih =>
    obtain ⟨key, block⟩ := entry
    rw [map_cons, nodup_cons] at nodup
    have owns : owner get key = some block.blockId := by
      rw [owner, wasHeld (key, block) mem_cons_self]
      rfl
    have next : IdPool allocated (spare ++ [block.blockId]) (owner (update get key none)) := by
      rw [owner_update_none]
      exact (pool.displace owns).perm (perm_append_singleton _ _).symm
    have result := ih next nodup.2
      (by
        intro other member
        have differ : other.1 ≠ key := by
          intro same
          exact nodup.1 (mem_map.mpr ⟨other, member, same⟩)
        rw [update_of_ne differ]
        exact wasHeld other (mem_cons_of_mem _ member))
      (by
        intro other
        rw [getAfter_eq other, update_apply]
        by_cases isHead : other = key
        · simp [isHead]
        · simp only [map_cons, mem_cons, isHead, false_or, if_false])
    simpa [append_assoc] using result

/-- What a call of `prepare_store` that can place its blocks did. -/
structure Placed (manager after : CPUOffloadingManager κ F) (keys : List κ)
    (output : PrepareStoreOutput κ) : Prop where
  accounted : after.Accounted
  numBlocks : after.numBlocks = manager.numBlocks
  nodup : output.keysToStore.Nodup
  requested : ∀ key ∈ output.keysToStore, key ∈ keys
  wasAbsent : ∀ key ∈ output.keysToStore, manager.policy.get key = none
  sameLength : output.storeSpec.length = output.keysToStore.length
  wasIdle : ∀ key ∈ output.evictedKeys, ∃ block,
    manager.policy.get key = some block ∧ block.refCnt = 0
  getOther : ∀ key, key ∉ output.keysToStore → after.policy.get key =
    if key ∈ output.evictedKeys then none else manager.policy.get key
  getStored : ∀ entry ∈ output.keysToStore.zip output.storeSpec,
    after.policy.get entry.1 = some { blockId := entry.2 }
  events : after.events = (manager.pushEvent output.evictedKeys true).events

private theorem reusedKeys_spec (manager : CPUOffloadingManager κ F) (keys : List κ) :
    (manager.reusedKeys keys).1.Sublist keys ∧
      ∃ storesSkippedInCurrentBatch,
        (manager.reusedKeys keys).2 = { manager with storesSkippedInCurrentBatch } := by
  unfold reusedKeys
  split
  · exact ⟨.refl _, _, rfl⟩
  · exact ⟨filter_sublist, _, rfl⟩

private theorem evictBlocks_spec [PyFloat F]
    (accounted : manager.Accounted) {numKeys : Nat} {isProtected evicted : List κ}
    {after : CPUOffloadingManager κ F}
    (ran : manager.evictBlocks (numKeys - manager.getNumFreeBlocks) isProtected =
      some (evicted, after)) :
    after.Accounted ∧ (numKeys : Int) ≤ after.getNumFreeBlocks ∧
      (∃ policy freeList, after = { manager with policy, freeList }) ∧
      (∀ key ∈ evicted, ∃ block, manager.policy.get key = some block ∧ block.refCnt = 0) ∧
      ∀ key, after.policy.get key = if key ∈ evicted then none else manager.policy.get key := by
  unfold evictBlocks at ran
  split at ran
  next isNeeded =>
    split at ran
    · cases ran
    next victims policy chosen =>
      cases ran
      obtain ⟨wellFormed, count, evicts⟩ := CachePolicy.evict_spec accounted.wellFormed chosen
      have freed (blocks : List BlockStatus) (start : CPUOffloadingManager κ F) :
          blocks.foldl freeBlock start =
            { start with freeList := start.freeList ++ blocks.map BlockStatus.blockId } := by
        induction blocks generalizing start with
        | nil => simp
        | cons block rest ih => simp [ih, freeBlock]
      rw [freed]
      have ids := displace_all accounted.ids evicts.nodup evicts.wasHeld evicts.getAfter_eq
      refine ⟨⟨wellFormed, accounted.marked, ?_⟩, ?_, ⟨policy, _, rfl⟩, ?_, evicts.getAfter_eq⟩
      · rw [map_map]
        exact ids
      · have victimsLength : ((victims.map Prod.snd).map BlockStatus.blockId).length = victims.length := by
          simp
        rw [getNumFreeBlocks] at isNeeded count ⊢
        rw [length_append, victimsLength]
        push_cast
        omega
      · intro key member
        obtain ⟨entry, isVictim, rfl⟩ := mem_map.mp member
        exact ⟨entry.2, evicts.wasHeld entry isVictim, evicts.wasIdle entry isVictim⟩
  next notNeeded =>
    cases ran
    exact ⟨accounted, by omega, ⟨_, _, rfl⟩, by simp, by simp⟩

omit [DecidableEq κ] in
private theorem pushEvent_eq (manager : CPUOffloadingManager κ F) (keys : List κ) (removed : Bool) :
    manager.pushEvent keys removed =
      { manager with events := (manager.pushEvent keys removed).events } := by
  unfold pushEvent
  split <;> rfl

/-- `prepare_store` never fails; without room for its keys it changes no block. -/
theorem prepareStore_spec [PyFloat F]
    (accounted : manager.Accounted) (nodup : keys.Nodup) :
    ∃ output after, manager.prepareStore keys = .ok (output, after) ∧
      match output with
      | none => ∃ storesSkippedInCurrentBatch, after = { manager with storesSkippedInCurrentBatch }
      | some output => Placed manager after keys output := by
  obtain ⟨isSublist, skipped, counted⟩ := reusedKeys_spec manager keys
  generalize reusedEq : manager.reusedKeys keys = reused at isSublist counted
  obtain ⟨kept, _⟩ := reused
  subst counted
  unfold prepareStore
  rw [reusedEq]
  dsimp only
  generalize toStoreEq :
    kept.filter (fun key => (manager.policy.get key).isNone) = keysToStore
  have toStoreMem : ∀ key ∈ keysToStore, key ∈ keys ∧ manager.policy.get key = none := by
    intro key member
    rw [← toStoreEq, mem_filter, Option.isNone_iff_eq_none] at member
    exact ⟨isSublist.subset member.1, member.2⟩
  have toStoreNodup : keysToStore.Nodup :=
    toStoreEq ▸ (nodup.sublist isSublist).sublist filter_sublist
  split
  next nothing =>
    refine ⟨_, _, rfl, ⟨accounted.wellFormed, accounted.marked, accounted.ids⟩, rfl, nodup_nil,
      by simp, by simp, rfl, by simp, by simp, by simp, rfl⟩
  next =>
    split
    next tooFew => exact ⟨none, _, rfl, skipped, rfl⟩
    next toEvict evictedManager evicted =>
      have counted : ({ manager with storesSkippedInCurrentBatch := skipped } :
          CPUOffloadingManager κ F).Accounted :=
        ⟨accounted.wellFormed, accounted.marked, accounted.ids⟩
      obtain ⟨evictedAccounted, room, ⟨policy, freeList, rfl⟩, wasIdle, getEvicted⟩ :=
        evictBlocks_spec counted evicted
      rw [pushEvent_eq]
      generalize eventsEq : (pushEvent _ toEvict true).events = events
      have pushed : ({ manager with
          storesSkippedInCurrentBatch := skipped, policy, freeList, events } :
          CPUOffloadingManager κ F).Accounted :=
        ⟨evictedAccounted.wellFormed, evictedAccounted.marked, evictedAccounted.ids⟩
      obtain ⟨blocks, numAllocatedBlocks, freeListAfter, allocated, blocksLength, unready, marked,
        ids⟩ := allocateBlocks_spec pushed room
      -- the keys to store are still absent: an eviction only takes keys away
      have areNew : ∀ key ∈ keysToStore, policy.get key = none := by
        intro key member
        have read := getEvicted key
        rw [read, (toStoreMem key member).2, ite_self]
      obtain ⟨placedWellFormed, placedIds, placedOther, placedEntry⟩ :=
        insertBlocks_spec evictedAccounted.wellFormed blocksLength toStoreNodup areNew ids
      refine ⟨some ⟨keysToStore, blocks.map BlockStatus.blockId, toEvict⟩,
        { manager with
          storesSkippedInCurrentBatch := skipped, events, numAllocatedBlocks
          freeList := freeListAfter, policy := insertBlocks policy (keysToStore.zip blocks) }, ?_, ?_⟩
      · rw [allocated]
        simp only [bind, Except.bind, blocksLength, decide_true, pyAssert_true]
      · constructor
        case accounted => exact ⟨placedWellFormed, marked, placedIds⟩
        case numBlocks => rfl
        case nodup => exact toStoreNodup
        case requested => exact fun key member => (toStoreMem key member).1
        case wasAbsent => exact fun key member => (toStoreMem key member).2
        case sameLength => rw [length_map, blocksLength]
        case wasIdle => exact wasIdle
        case getOther => exact fun key notStored => (placedOther key notStored).trans (getEvicted key)
        case getStored =>
          intro entry member
          rw [zip_map_right, mem_map] at member
          obtain ⟨⟨key, blockId, refCnt⟩, isEntry, rfl⟩ := member
          obtain rfl : refCnt = -1 := unready ⟨blockId, refCnt⟩ (of_mem_zip isEntry).2
          exact placedEntry _ isEntry
        case events =>
          rw [← eventsEq]
          unfold pushEvent
          split <;> rfl

theorem markStored_spec (manager : CPUOffloadingManager κ F) (nodup : keys.Nodup)
    (wellFormed : manager.policy.WellFormed)
    (unready : ∀ key ∈ keys, ∃ block, manager.policy.get key = some block ∧ block.refCnt = -1) :
    ∃ policy, manager.markStored keys = (keys, { manager with policy }) ∧ policy.WellFormed ∧
      policy.get = fun key => if key ∈ keys then
        (manager.policy.get key).map fun block => { block with refCnt := 0 }
      else manager.policy.get key := by
  induction keys generalizing manager with
  | nil => exact ⟨manager.policy, rfl, wellFormed, by simp⟩
  | cons key keys ih =>
    have notLater := nodup_cons.mp nodup
    obtain ⟨block, isHeld, isUnready⟩ := unready key mem_cons_self
    obtain ⟨stillWellFormed, getNext⟩ := CachePolicy.setRefCnt_spec wellFormed isHeld
      (show -2 ^ 31 ≤ (0 : Int) by omega) (show (0 : Int) < 2 ^ 31 by omega)
    have stillUnready : ∀ other ∈ keys, ∃ found,
        (manager.policy.setRefCnt key 0).get other = some found ∧ found.refCnt = -1 := by
      intro other member
      have differ : other ≠ key := by
        rintro rfl
        exact notLater.1 member
      rw [getNext, update_of_ne differ]
      exact unready other (mem_cons_of_mem key member)
    obtain ⟨policy, ran, policyWellFormed, getAfter⟩ := ih
      { manager with policy := manager.policy.setRefCnt key 0 } notLater.2 stillWellFormed
      stillUnready
    refine ⟨policy, ?_, policyWellFormed, ?_⟩
    · rw [markStored, isHeld]
      simp [BlockStatus.isReady, isUnready, ran]
    · rw [getAfter]
      funext other
      show (if other ∈ keys then ((manager.policy.setRefCnt key 0).get other).map _
        else (manager.policy.setRefCnt key 0).get other) = _
      rw [getNext, update_apply]
      by_cases isHead : other = key
      · subst isHead
        simp [notLater.1, isHeld]
      · simp [isHead]

theorem dropUnstored_spec (nodup : keys.Nodup) (accounted : manager.Accounted)
    (unready : ∀ key ∈ keys, ∃ block, manager.policy.get key = some block ∧ block.refCnt = -1) :
    ∃ policy freeList, manager.dropUnstored keys = .ok { manager with policy, freeList } ∧
      ({ manager with policy, freeList } : CPUOffloadingManager κ F).Accounted ∧
      policy.get = fun key => if key ∈ keys then none else manager.policy.get key := by
  induction keys generalizing manager with
  | nil => exact ⟨manager.policy, manager.freeList, rfl, accounted, by simp⟩
  | cons key keys ih =>
    have notLater := nodup_cons.mp nodup
    obtain ⟨block, isHeld, isUnready⟩ := unready key mem_cons_self
    obtain ⟨removed, ranRemove, removedWellFormed, getNext⟩ :=
      CachePolicy.remove_spec accounted.wellFormed isHeld
    have owns : owner manager.policy.get key = some block.blockId := by
      rw [owner, isHeld]
      rfl
    have nextAccounted : (freeBlock { manager with policy := removed } block).Accounted := by
      refine ⟨removedWellFormed, accounted.marked, ?_⟩
      show IdPool manager.numAllocatedBlocks (manager.freeList ++ [block.blockId]) (owner removed.get)
      rw [getNext, owner_update_none]
      exact (accounted.ids.displace owns).perm (perm_append_singleton _ _).symm
    have stillUnready : ∀ other ∈ keys, ∃ found,
        (freeBlock { manager with policy := removed } block).policy.get other = some found ∧
          found.refCnt = -1 := by
      intro other member
      have differ : other ≠ key := by
        rintro rfl
        exact notLater.1 member
      show ∃ found, removed.get other = some found ∧ _
      rw [getNext, update_of_ne differ]
      exact unready other (mem_cons_of_mem key member)
    obtain ⟨policy, freeList, ran, afterAccounted, getAfter⟩ :=
      ih notLater.2 nextAccounted stillUnready
    refine ⟨policy, freeList, ?_, afterAccounted, ?_⟩
    · rw [dropUnstored, isHeld]
      simp only [BlockStatus.isReady, isUnready, ranRemove]
      exact ran
    · rw [getAfter]
      funext other
      show (if other ∈ keys then none else removed.get other) = _
      rw [getNext, update_apply]
      by_cases isHead : other = key
      · simp [isHead]
      · simp [isHead]

theorem lookup_spec {after : CPUOffloadingManager κ F} {key : κ} {found : Option Bool}
    (ran : manager.lookup key = .ok (found, after)) :
    (∃ counts, after = { manager with counts }) ∧
      (found = some true ↔ ∃ block, manager.policy.get key = some block ∧ 0 ≤ block.refCnt) := by
  obtain ⟨counted, ranCount, ranRead⟩ := bind_eq_ok.mp ran
  have same : ∃ counts, counted = { manager with counts } := by
    unfold countLookup at ranCount
    split at ranCount
    · cases ranCount
      exact ⟨_, rfl⟩
    split at ranCount
    · cases ranCount
      exact ⟨_, rfl⟩
    split at ranCount
    · split at ranCount
      · cases ranCount
      · cases ranCount
        exact ⟨_, rfl⟩
    · cases ranCount
      exact ⟨_, rfl⟩
  obtain ⟨counts, rfl⟩ := same
  cases read : manager.policy.get key with
  | none =>
    rw [read] at ranRead
    cases ranRead
    exact ⟨⟨counts, rfl⟩, by simp⟩
  | some block =>
    rw [read] at ranRead
    cases ranRead
    exact ⟨⟨counts, rfl⟩, by simp [BlockStatus.isReady]⟩

/-- The only exception of `lookup` is that of an empty counter at its bound. -/
theorem lookup_raises {key : κ} {failure : PyError}
    (ran : manager.lookup key = .error failure) : failure = .keyError "dictionary is empty" := by
  rw [lookup] at ran
  cases counted : manager.countLookup key with
  | ok after =>
    rw [counted] at ran
    simp only [bind, Except.bind] at ran
    split at ran <;> cases ran
  | error raised =>
    rw [counted] at ran
    cases ran
    unfold countLookup at counted
    split at counted
    · cases counted
    split at counted
    · cases counted
    split at counted
    · split at counted
      · cases counted
        rfl
      · cases counted
    · cases counted

end CPUOffloadingManager

end DeepSpark
