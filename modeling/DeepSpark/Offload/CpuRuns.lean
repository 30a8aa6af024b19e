import DeepSpark.Offload.CpuManager

/-!
Runs of `CPUOffloadingManager`.

Owns the state of a run (the manager, the transfers it has handed out and not
yet got back, the events taken from it), the calls its callers may make, and
the invariant that ties the reference counts of the blocks to the open
transfers.
-/

namespace DeepSpark

open Lib

variable {κ F : Type} [DecidableEq κ]

/-- The blocks of one transfer: the keys, and the block id handed out for each. -/
abbrev Transfer (κ : Type) := List (κ × Nat)

def transferKeys (transfers : List (Transfer κ)) : List κ := transfers.flatten.map Prod.fst

inductive OffloadMark (κ : Type) where
  | stored (keys : List κ)
  | removed (keys : List κ)
  | cleared

def StoredSinceRemoval : List (OffloadMark κ) → κ → Prop
  | [], _ => False
  | .stored keys :: older, key => key ∈ keys ∨ StoredSinceRemoval older key
  | .removed keys :: older, key => key ∉ keys ∧ StoredSinceRemoval older key
  | .cleared :: _, _ => False

def replay (events : List (OffloadingEvent κ)) : List κ :=
  events.foldl (fun held event =>
    if event.removed then held.filter (· ∉ event.keys) else held ++ event.keys) []

/-! ## What the transfers say about the blocks -/

/-- The key can be loaded: `lookup` answers true. -/
def Ready (get : κ → Option BlockStatus) (key : κ) : Prop :=
  ∃ block, get key = some block ∧ 0 ≤ block.refCnt

/-- The reference count of a block is the number of its open loads, or -1 from
the start of its store to the end; the open transfers hold the ids they were
given, and what can be loaded was stored. -/
structure Follows (get : κ → Option BlockStatus) (openLoads openStores : List (Transfer κ))
    (history : List (OffloadMark κ)) : Prop where
  storesNodup : (transferKeys openStores).Nodup
  storing : ∀ key, key ∈ transferKeys openStores ↔ ∃ block, get key = some block ∧ block.refCnt = -1
  loading : ∀ key block, get key = some block → block.refCnt ≠ -1 →
    block.refCnt = (transferKeys openLoads).count key
  loadable : ∀ key ∈ transferKeys openLoads, Ready get key
  small : ∀ key block, get key = some block → block.refCnt < 2 ^ 31
  handedOut : ∀ transfer ∈ openLoads ++ openStores, ∀ entry ∈ transfer,
    CPUOffloadingManager.owner get entry.1 = some entry.2
  stored : ∀ key, Ready get key → StoredSinceRemoval history key

open CPUOffloadingManager

variable {transfer : Transfer κ}

omit [DecidableEq κ] in
private theorem mem_transferKeys {transfers : List (Transfer κ)}
    (isOpen : transfer ∈ transfers) {entry : κ × Nat} (isEntry : entry ∈ transfer) :
    entry.1 ∈ transferKeys transfers :=
  List.mem_map.mpr ⟨entry, List.mem_flatten.mpr ⟨transfer, isOpen, isEntry⟩, rfl⟩

private theorem transferKeys_erase {transfers : List (Transfer κ)} (isOpen : transfer ∈ transfers) :
    (transferKeys transfers).Perm
      (transfer.map Prod.fst ++ transferKeys (transfers.erase transfer)) := by
  rw [transferKeys, transferKeys, ← List.map_append]
  exact ((List.perm_cons_erase isOpen).flatten).map Prod.fst

omit [DecidableEq κ] in
private theorem transferKeys_cons (transfer : Transfer κ) (transfers : List (Transfer κ)) :
    transferKeys (transfer :: transfers) = transfer.map Prod.fst ++ transferKeys transfers := by
  simp [transferKeys]

omit [DecidableEq κ] in
private theorem moved_eq_some {get : κ → Option BlockStatus} {change : κ → Int} {key : κ}
    {block : BlockStatus} :
    moved get change key = some block ↔
      ∃ old, get key = some old ∧ block = { old with refCnt := old.refCnt + change key } := by
  rw [moved, Option.map_eq_some_iff]
  simp only [eq_comm]

section

variable {get : κ → Option BlockStatus} {openLoads openStores : List (Transfer κ)}
  {history : List (OffloadMark κ)}

theorem follows_nothing (history : List (OffloadMark κ)) :
    Follows (fun _ : κ => none) [] [] history := by
  constructor <;> simp [transferKeys, Ready]

/-- A change of the references of loadable blocks, with the loads that explain it. -/
theorem Follows.moved (follows : Follows get openLoads openStores history) (change : κ → Int)
    (loads : List (Transfer κ)) (onlyReady : ∀ key, change key ≠ 0 → Ready get key)
    (counted : ∀ key, Ready get key →
      ((transferKeys openLoads).count key + change key : Int) = (transferKeys loads).count key)
    (room : ∀ key, change key ≠ 0 → ((transferKeys loads).count key : Int) < 2 ^ 31)
    (handedOut : ∀ transfer ∈ loads, ∀ entry ∈ transfer, owner get entry.1 = some entry.2)
    (loadable : ∀ key ∈ transferKeys loads, Ready get key) :
    Follows (moved get change) loads openStores history ∧
      ∀ key, Ready (CPUOffloadingManager.moved get change) key ↔ Ready get key := by
  -- the count of a block after the change
  have after (key : κ) (old : BlockStatus) (isHeld : get key = some old) :
      (old.refCnt = -1 ∧ change key = 0) ∨
        (old.refCnt ≠ -1 ∧ old.refCnt + change key = (transferKeys loads).count key ∧
          old.refCnt + change key < 2 ^ 31) := by
    by_cases isStoring : old.refCnt = -1
    · left
      refine ⟨isStoring, ?_⟩
      by_contra isChanged
      obtain ⟨found, isFound, isReady⟩ := onlyReady key isChanged
      rw [isHeld] at isFound
      cases isFound
      omega
    · right
      have oldCount := follows.loading key old isHeld isStoring
      have newCount := counted key ⟨old, isHeld, by omega⟩
      refine ⟨isStoring, by omega, ?_⟩
      by_cases isChanged : change key = 0
      · have := follows.small key old isHeld
        omega
      · have := room key isChanged
        omega
  have sameReady (key : κ) : Ready (CPUOffloadingManager.moved get change) key ↔ Ready get key := by
    constructor
    · rintro ⟨block, read, isReady⟩
      obtain ⟨old, isHeld, rfl⟩ := moved_eq_some.mp read
      rcases after key old isHeld with ⟨isStoring, unchanged⟩ | ⟨wasReady, -, -⟩
      · dsimp only at isReady
        omega
      · have := follows.loading key old isHeld wasReady
        exact ⟨old, isHeld, by omega⟩
    · rintro ⟨old, isHeld, isReady⟩
      refine ⟨_, moved_eq_some.mpr ⟨old, isHeld, rfl⟩, ?_⟩
      rcases after key old isHeld with ⟨isStoring, -⟩ | ⟨-, isCounted, -⟩
      · omega
      · exact isCounted ▸ Int.natCast_nonneg _
  refine ⟨?_, sameReady⟩
  constructor
  case storesNodup => exact follows.storesNodup
  case storing =>
    intro key
    rw [follows.storing key]
    constructor
    · rintro ⟨old, isHeld, isStoring⟩
      refine ⟨_, moved_eq_some.mpr ⟨old, isHeld, rfl⟩, ?_⟩
      rcases after key old isHeld with ⟨-, unchanged⟩ | ⟨notStoring, -⟩
      · dsimp only
        omega
      · exact absurd isStoring notStoring
    · rintro ⟨block, read, isStoring⟩
      obtain ⟨old, isHeld, rfl⟩ := moved_eq_some.mp read
      rcases after key old isHeld with ⟨wasStoring, -⟩ | ⟨-, isCounted, -⟩
      · exact ⟨old, isHeld, wasStoring⟩
      · dsimp only at isStoring
        omega
  case loading =>
    intro key block read isReady
    obtain ⟨old, isHeld, rfl⟩ := moved_eq_some.mp read
    rcases after key old isHeld with ⟨isStoring, unchanged⟩ | ⟨-, isCounted, -⟩
    · dsimp only at isReady
      omega
    · exact isCounted
  case loadable => exact fun key member => (sameReady key).mpr (loadable key member)
  case small =>
    intro key block read
    obtain ⟨old, isHeld, rfl⟩ := moved_eq_some.mp read
    rcases after key old isHeld with ⟨isStoring, unchanged⟩ | ⟨-, -, isSmall⟩
    · dsimp only
      omega
    · exact isSmall
  case handedOut =>
    intro transfer member entry isEntry
    rw [owner_moved]
    rcases List.mem_append.mp member with isLoad | isStore
    · exact handedOut transfer isLoad entry isEntry
    · exact follows.handedOut transfer (List.mem_append_right _ isStore) entry isEntry
  case stored => exact fun key ready => follows.stored key ((sameReady key).mp ready)

theorem Follows.placed {getAfter : κ → Option BlockStatus} {evicted : List κ}
    (follows : Follows get openLoads openStores history) (transfer : Transfer κ) (nodup : (transfer.map Prod.fst).Nodup)
    (wasAbsent : ∀ key ∈ transfer.map Prod.fst, get key = none)
    (wasIdle : ∀ key ∈ evicted, ∃ block, get key = some block ∧ block.refCnt = 0)
    (getOther : ∀ key, key ∉ transfer.map Prod.fst →
      getAfter key = if key ∈ evicted then none else get key)
    (getStored : ∀ entry ∈ transfer, getAfter entry.1 = some { blockId := entry.2 }) :
    Follows getAfter openLoads (transfer :: openStores) (.removed evicted :: history) ∧
      (∀ key, Ready getAfter key ↔ Ready get key ∧ key ∉ evicted) ∧
      ∀ key ∈ evicted, key ∉ transferKeys openLoads ∧ key ∉ transferKeys openStores := by
  have isStored (key : κ) (member : key ∈ transfer.map Prod.fst) :
      ∃ blockId, getAfter key = some { blockId } := by
    obtain ⟨entry, isEntry, rfl⟩ := List.mem_map.mp member
    exact ⟨entry.2, getStored entry isEntry⟩
  have kept (key : κ) (block : BlockStatus) (read : getAfter key = some block) :
      (key ∈ transfer.map Prod.fst ∧ block.refCnt = -1) ∨
        (key ∉ evicted ∧ get key = some block) := by
    by_cases isNew : key ∈ transfer.map Prod.fst
    · obtain ⟨blockId, readNew⟩ := isStored key isNew
      rw [readNew] at read
      cases read
      exact .inl ⟨isNew, rfl⟩
    · rw [getOther key isNew] at read
      split at read
      · cases read
      next notEvicted => exact .inr ⟨notEvicted, read⟩
  have stays (key : κ) (block : BlockStatus) (isHeld : get key = some block)
      (notEvicted : key ∉ evicted) : getAfter key = some block := by
    have notNew : key ∉ transfer.map Prod.fst := by
      intro isNew
      rw [wasAbsent key isNew] at isHeld
      cases isHeld
    rw [getOther key notNew, if_neg notEvicted, isHeld]
  -- a block in a transfer is not idle, so it is not evicted
  have inUse (key : κ) (block : BlockStatus) (isHeld : get key = some block)
      (busy : block.refCnt ≠ 0) : key ∉ evicted := by
    intro isEvicted
    obtain ⟨found, isFound, isIdle⟩ := wasIdle key isEvicted
    rw [isHeld] at isFound
    cases isFound
    exact busy isIdle
  have loadInUse (key : κ) (member : key ∈ transferKeys openLoads) : key ∉ evicted := by
    obtain ⟨block, isHeld, isReady⟩ := follows.loadable key member
    have isCounted := follows.loading key block isHeld (by omega)
    have := List.count_pos_iff.mpr member
    exact inUse key block isHeld (by omega)
  have storeInUse (key : κ) (member : key ∈ transferKeys openStores) :
      ∃ block, get key = some block ∧ block.refCnt = -1 ∧ key ∉ evicted := by
    obtain ⟨block, isHeld, isStoring⟩ := (follows.storing key).mp member
    exact ⟨block, isHeld, isStoring, inUse key block isHeld (by omega)⟩
  have ready (key : κ) : Ready getAfter key ↔ Ready get key ∧ key ∉ evicted := by
    constructor
    · rintro ⟨block, read, isReady⟩
      rcases kept key block read with ⟨-, isStoring⟩ | ⟨notEvicted, isHeld⟩
      · omega
      · exact ⟨⟨block, isHeld, isReady⟩, notEvicted⟩
    · rintro ⟨⟨block, isHeld, isReady⟩, notEvicted⟩
      exact ⟨block, stays key block isHeld notEvicted, isReady⟩
  refine ⟨?_, ready, fun key isEvicted => ⟨fun isLoad => loadInUse key isLoad isEvicted,
    fun isStore => by
      obtain ⟨_, _, _, notEvicted⟩ := storeInUse key isStore
      exact notEvicted isEvicted⟩⟩
  constructor
  case storesNodup =>
    rw [transferKeys_cons, List.nodup_append]
    refine ⟨nodup, follows.storesNodup, ?_⟩
    intro key isNew other isOld same
    obtain ⟨block, isHeld, -⟩ := storeInUse other isOld
    rw [← same, wasAbsent key isNew] at isHeld
    cases isHeld
  case storing =>
    intro key
    rw [transferKeys_cons, List.mem_append]
    constructor
    · rintro (isNew | isOld)
      · obtain ⟨blockId, readNew⟩ := isStored key isNew
        exact ⟨_, readNew, rfl⟩
      · obtain ⟨block, isHeld, isStoring, notEvicted⟩ := storeInUse key isOld
        exact ⟨block, stays key block isHeld notEvicted, isStoring⟩
    · rintro ⟨block, read, isStoring⟩
      rcases kept key block read with ⟨isNew, -⟩ | ⟨-, isHeld⟩
      · exact .inl isNew
      · exact .inr ((follows.storing key).mpr ⟨block, isHeld, isStoring⟩)
  case loading =>
    intro key block read isReady
    rcases kept key block read with ⟨-, isStoring⟩ | ⟨-, isHeld⟩
    · exact absurd isStoring isReady
    · exact follows.loading key block isHeld isReady
  case loadable =>
    exact fun key member => (ready key).mpr ⟨follows.loadable key member, loadInUse key member⟩
  case small =>
    intro key block read
    rcases kept key block read with ⟨-, isStoring⟩ | ⟨-, isHeld⟩
    · omega
    · exact follows.small key block isHeld
  case handedOut =>
    intro other member entry isEntry
    have old (isHandedOut : owner get entry.1 = some entry.2) (notEvicted : entry.1 ∉ evicted) :
        owner getAfter entry.1 = some entry.2 := by
      obtain ⟨block, isHeld, sameId⟩ := Option.map_eq_some_iff.mp isHandedOut
      rw [owner, stays entry.1 block isHeld notEvicted]
      exact congrArg some sameId
    rcases List.mem_append.mp member with isLoad | isStore
    · exact old (follows.handedOut other (List.mem_append_left _ isLoad) entry isEntry)
        (loadInUse entry.1 (mem_transferKeys isLoad isEntry))
    · rcases List.mem_cons.mp isStore with rfl | isOld
      · rw [owner, getStored entry isEntry]
        rfl
      · refine old (follows.handedOut other (List.mem_append_right _ isOld) entry isEntry) ?_
        obtain ⟨_, _, _, notEvicted⟩ := storeInUse entry.1 (mem_transferKeys isOld isEntry)
        exact notEvicted
  case stored =>
    intro key isReady
    obtain ⟨wasReady, notEvicted⟩ := (ready key).mp isReady
    exact ⟨notEvicted, follows.stored key wasReady⟩

theorem Follows.store (follows : Follows get openLoads openStores history)
    (isOpen : transfer ∈ openStores) :
    (transfer.map Prod.fst).Nodup ∧
      ∀ key ∈ transfer.map Prod.fst, (∃ block, get key = some block ∧ block.refCnt = -1) ∧
        key ∉ transferKeys openLoads ∧ key ∉ transferKeys (openStores.erase transfer) := by
  have split := transferKeys_erase isOpen
  have splitNodup := List.nodup_append.mp (split.nodup_iff.mp follows.storesNodup)
  refine ⟨splitNodup.1, fun key member => ?_⟩
  obtain ⟨block, isHeld, isStoring⟩ :=
    (follows.storing key).mp (split.mem_iff.mpr (List.mem_append_left _ member))
  refine ⟨⟨block, isHeld, isStoring⟩, fun isLoad => ?_, fun isOther => ?_⟩
  · obtain ⟨found, isFound, isReady⟩ := follows.loadable key isLoad
    rw [isHeld] at isFound
    cases isFound
    omega
  · exact splitNodup.2.2 key member key isOther rfl

/-- The end of a store: its blocks become loadable with no reference, or are gone. -/
theorem Follows.completed {getAfter : κ → Option BlockStatus}
    (follows : Follows get openLoads openStores history)
    (isOpen : transfer ∈ openStores) (success : Bool)
    (getAfter_eq : ∀ key, getAfter key = if key ∈ transfer.map Prod.fst then
      if success then (get key).map fun block => { block with refCnt := 0 } else none
      else get key) :
    Follows getAfter openLoads (openStores.erase transfer)
        ((if success then .stored (transfer.map Prod.fst) else .removed (transfer.map Prod.fst)) ::
          history) ∧
      ∀ key, Ready getAfter key ↔
        Ready get key ∨ success = true ∧ key ∈ transfer.map Prod.fst := by
  have split := transferKeys_erase isOpen
  obtain ⟨nodup, inFlight⟩ := follows.store isOpen
  have readOld (key : κ) (notMember : key ∉ transfer.map Prod.fst) : getAfter key = get key := by
    rw [getAfter_eq key, if_neg notMember]
  have readNew (key : κ) (member : key ∈ transfer.map Prod.fst) (block : BlockStatus)
      (read : getAfter key = some block) :
      success = true ∧ block.refCnt = 0 ∧ owner get key = some block.blockId := by
    rw [getAfter_eq key, if_pos member] at read
    cases success with
    | false => cases read
    | true =>
      obtain ⟨old, isHeld, rfl⟩ := Option.map_eq_some_iff.mp read
      exact ⟨rfl, rfl, by rw [owner, isHeld]; rfl⟩
  have ready (key : κ) : Ready getAfter key ↔
      Ready get key ∨ success = true ∧ key ∈ transfer.map Prod.fst := by
    by_cases member : key ∈ transfer.map Prod.fst
    · obtain ⟨⟨block, isHeld, isStoring⟩, -⟩ := inFlight key member
      cases success <;> simp_all [Ready]
    · simp only [Ready, readOld key member, member, and_false, or_false]
  refine ⟨?_, ready⟩
  constructor
  case storesNodup =>
    exact (List.nodup_append.mp (split.nodup_iff.mp follows.storesNodup)).2.1
  case storing =>
    intro key
    by_cases member : key ∈ transfer.map Prod.fst
    · constructor
      · exact fun isOther => absurd isOther (inFlight key member).2.2
      · rintro ⟨block, read, isStoring⟩
        have := (readNew key member block read).2.1
        omega
    · rw [readOld key member, ← follows.storing key, split.mem_iff, List.mem_append]
      simp only [member, false_or]
  case loading =>
    intro key block read isReady
    by_cases member : key ∈ transfer.map Prod.fst
    · rw [(readNew key member block read).2.1, List.count_eq_zero.mpr (inFlight key member).2.1]
      rfl
    · exact follows.loading key block (readOld key member ▸ read) isReady
  case loadable => exact fun key member => (ready key).mpr (.inl (follows.loadable key member))
  case small =>
    intro key block read
    by_cases member : key ∈ transfer.map Prod.fst
    · have := (readNew key member block read).2.1
      omega
    · exact follows.small key block (readOld key member ▸ read)
  case handedOut =>
    intro other member entry isEntry
    have notMember : entry.1 ∉ transfer.map Prod.fst := by
      intro isCompleted
      rcases List.mem_append.mp member with isLoad | isStore
      · exact (inFlight entry.1 isCompleted).2.1 (mem_transferKeys isLoad isEntry)
      · exact (inFlight entry.1 isCompleted).2.2 (mem_transferKeys isStore isEntry)
    rw [owner, readOld entry.1 notMember]
    rcases List.mem_append.mp member with isLoad | isStore
    · exact follows.handedOut other (List.mem_append_left _ isLoad) entry isEntry
    · exact follows.handedOut other
        (List.mem_append_right _ (List.mem_of_mem_erase isStore)) entry isEntry
  case stored =>
    intro key isReady
    rcases (ready key).mp isReady with wasReady | ⟨rfl, member⟩
    · have notMember : key ∉ transfer.map Prod.fst := by
        intro member
        obtain ⟨⟨block, isHeld, isStoring⟩, -⟩ := inFlight key member
        obtain ⟨found, isFound, foundReady⟩ := wasReady
        rw [isHeld] at isFound
        cases isFound
        omega
      cases success with
      | true => exact .inr (follows.stored key wasReady)
      | false => exact ⟨notMember, follows.stored key wasReady⟩
    · exact .inl member

end

/-! ## Runs -/

structure OffloadRun (κ F : Type) where
  manager : CPUOffloadingManager κ F
  openLoads : List (Transfer κ)
  openStores : List (Transfer κ)
  history : List (OffloadMark κ)
  taken : List (OffloadingEvent κ)

inductive OffloadCall (κ : Type) where
  | lookup (key : κ)
  | touch (keys : List κ)
  | prepareLoad (keys : List κ)
  | completeLoad (transfer : Transfer κ)
  | prepareStore (keys : List κ)
  | completeStore (transfer : Transfer κ) (success : Bool)
  | resetCache
  | takeEvents
deriving DecidableEq

namespace OffloadRun

def init [PyFloat F] (numBlocks : Nat) (cachePolicy : CachePolicyName) (enableEvents : Bool)
    (storeThreshold maxTrackerSize : Int) : OffloadRun κ F :=
  { manager := .init numBlocks cachePolicy enableEvents storeThreshold maxTrackerSize
    openLoads := [], openStores := [], history := [], taken := [] }

/-- One call. A store without room opens no transfer, and a reset abandons all of them. -/
def perform [PyFloat F] (run : OffloadRun κ F) : OffloadCall κ → Except PyError (OffloadRun κ F)
  | .lookup key => do
      let (_, manager) ← run.manager.lookup key
      .ok { run with manager }
  | .touch keys => .ok { run with manager := run.manager.touch keys }
  | .prepareLoad keys => do
      let (blockIds, manager) ← run.manager.prepareLoad keys
      .ok { run with manager, openLoads := keys.zip blockIds :: run.openLoads }
  | .completeLoad transfer => do
      let manager ← run.manager.completeLoad (transfer.map Prod.fst)
      .ok { run with manager, openLoads := run.openLoads.erase transfer }
  | .prepareStore keys => do
      match ← run.manager.prepareStore keys with
      | (none, manager) => .ok { run with manager }
      | (some output, manager) =>
        .ok { run with
          manager
          openStores := output.keysToStore.zip output.storeSpec :: run.openStores
          history := .removed output.evictedKeys :: run.history }
  | .completeStore transfer success => do
      let manager ← run.manager.completeStore (transfer.map Prod.fst) success
      .ok { run with
        manager
        openStores := run.openStores.erase transfer
        history :=
          (if success then .stored (transfer.map Prod.fst) else .removed (transfer.map Prod.fst)) ::
            run.history }
  | .resetCache =>
    .ok { run with
      manager := run.manager.resetCache
      openLoads := [], openStores := [], history := .cleared :: run.history }
  | .takeEvents =>
    .ok { run with
      manager := run.manager.takeEvents.2, taken := run.taken ++ run.manager.takeEvents.1 }

/-- The calls of the interface as it documents them: loads are prepared for
stored blocks, completions are those of open transfers, and the keys to store
are distinct. A `c_int32` counts the loads of a block. -/
def Permitted (run : OffloadRun κ F) : OffloadCall κ → Prop
  | .prepareLoad keys => ∀ key ∈ keys, Ready run.manager.policy.get key ∧
      ((transferKeys run.openLoads).count key + keys.count key : Int) < 2 ^ 31
  | .completeLoad transfer => transfer ∈ run.openLoads
  | .prepareStore keys => keys.Nodup
  | .completeStore transfer _ => transfer ∈ run.openStores
  | _ => True

def QuietReset (run : OffloadRun κ F) : OffloadCall κ → Prop
  | .resetCache => ∀ key, ¬ Ready run.manager.policy.get key
  | _ => True

inductive Reaches [PyFloat F] (condition : OffloadRun κ F → OffloadCall κ → Prop)
    (initial : OffloadRun κ F) : OffloadRun κ F → Prop
  | start : Reaches condition initial initial
  | call {run next : OffloadRun κ F} (reached : Reaches condition initial run)
      (call : OffloadCall κ) (meets : condition run call) (performed : run.perform call = .ok next) :
      Reaches condition initial next

def eventLog (run : OffloadRun κ F) : List (OffloadingEvent κ) :=
  run.taken ++ run.manager.events.getD []

/-- A consumer that replays the events holds the loadable keys. -/
def Replays (run : OffloadRun κ F) : Prop :=
  run.manager.events.isSome ∧ ∀ key, key ∈ replay run.eventLog ↔ Ready run.manager.policy.get key

structure Sound (run : OffloadRun κ F) : Prop where
  accounted : run.manager.Accounted
  follows : Follows run.manager.policy.get run.openLoads run.openStores run.history

/-- What a permitted call keeps: it does not fail, the bookkeeping stays sound,
and the events follow it unless it empties a cache that holds something. -/
structure Keeps [PyFloat F] (run : OffloadRun κ F) (call : OffloadCall κ) (next : OffloadRun κ F) :
    Prop where
  performed : run.perform call = .ok next
  sound : next.Sound
  replays : run.QuietReset call → run.Replays → next.Replays

theorem init_sound [PyFloat F] (numBlocks : Nat) (cachePolicy : CachePolicyName) (enableEvents : Bool)
    (storeThreshold maxTrackerSize : Int) :
    (init numBlocks cachePolicy enableEvents storeThreshold maxTrackerSize :
      OffloadRun κ F).Sound := by
  obtain ⟨wellFormed, getInit⟩ : (CachePolicy.init numBlocks cachePolicy : CachePolicy κ F).WellFormed ∧ _ :=
    CachePolicy.init_spec numBlocks cachePolicy
  constructor
  · refine ⟨wellFormed, Nat.zero_le _, ?_⟩
    show IdPool 0 [] (owner (CachePolicy.init numBlocks cachePolicy).get)
    rw [getInit]
    exact IdPool.empty
  · show Follows (CachePolicy.init numBlocks cachePolicy).get [] [] []
    rw [getInit]
    exact follows_nothing []

theorem init_replays [PyFloat F] (numBlocks : Nat) (cachePolicy : CachePolicyName)
    (storeThreshold maxTrackerSize : Int) :
    (init numBlocks cachePolicy true storeThreshold maxTrackerSize : OffloadRun κ F).Replays := by
  refine ⟨rfl, fun key => ?_⟩
  show key ∈ ([] : List κ) ↔ Ready (CachePolicy.init numBlocks cachePolicy : CachePolicy κ F).get key
  rw [(CachePolicy.init_spec numBlocks cachePolicy).2]
  simp [Ready]

theorem lookup_keeps [PyFloat F] {run next : OffloadRun κ F} (sound : run.Sound) {key : κ}
    (performed : run.perform (.lookup key) = .ok next) : Keeps run (.lookup key) next := by
  obtain ⟨⟨found, after⟩, ran, same⟩ := bind_eq_ok.mp performed
  cases same
  obtain ⟨⟨counts, rfl⟩, -⟩ := lookup_spec ran
  exact ⟨performed,
    ⟨⟨sound.accounted.wellFormed, sound.accounted.marked, sound.accounted.ids⟩, sound.follows⟩,
    fun _ replays => replays⟩

variable {run : OffloadRun κ F}

theorem touch_keeps [PyFloat F] (sound : run.Sound) (keys : List κ) :
    ∃ next, Keeps run (.touch keys) next := by
  obtain ⟨wellFormed, same⟩ := CachePolicy.touch_spec sound.accounted.wellFormed keys
  refine ⟨_, rfl, ⟨⟨wellFormed, sound.accounted.marked, ?_⟩, ?_⟩, fun _ replays => ⟨replays.1, ?_⟩⟩
  · show IdPool _ _ (owner (run.manager.policy.touch keys).get)
    rw [same]
    exact sound.accounted.ids
  · show Follows (run.manager.policy.touch keys).get _ _ _
    rw [same]
    exact sound.follows
  · show ∀ key, key ∈ replay run.eventLog ↔ Ready (run.manager.policy.touch keys).get key
    rw [same]
    exact replays.2

private theorem zip_of_map_eq {α β γ : Type} {f : α → γ} {g : β → γ} {xs : List α} {ys : List β}
    (same : xs.map f = ys.map g) : ∀ entry ∈ xs.zip ys, f entry.1 = g entry.2 := by
  induction xs generalizing ys with
  | nil => simp
  | cons x xs ih =>
    cases ys with
    | nil => simp
    | cons y ys =>
      rw [List.map_cons, List.map_cons, List.cons_eq_cons] at same
      intro entry member
      rcases List.mem_cons.mp member with rfl | isLater
      · exact same.1
      · exact ih same.2 entry isLater

private theorem Sound.movedAccounted (sound : run.Sound)
    {policy : CachePolicy κ F} (wellFormed : policy.WellFormed) {change : κ → Int}
    (getAfter : policy.get = moved run.manager.policy.get change) :
    ({ run.manager with policy } : CPUOffloadingManager κ F).Accounted := by
  refine ⟨wellFormed, sound.accounted.marked, ?_⟩
  rw [getAfter, owner_moved]
  exact sound.accounted.ids

theorem prepareLoad_keeps [PyFloat F] (sound : run.Sound) {keys : List κ}
    (permitted : run.Permitted (.prepareLoad keys)) : ∃ next, Keeps run (.prepareLoad keys) next := by
  have ready : ∀ key ∈ keys, ∃ block, run.manager.policy.get key = some block ∧
      0 ≤ block.refCnt ∧ block.refCnt + keys.count key < 2 ^ 31 := by
    intro key member
    obtain ⟨⟨block, isHeld, isReady⟩, room⟩ := permitted key member
    have := sound.follows.loading key block isHeld (by omega)
    exact ⟨block, isHeld, isReady, by omega⟩
  obtain ⟨blockIds, policy, ran, ids, wellFormed, getAfter⟩ :=
    prepareLoad_spec run.manager sound.accounted.wellFormed ready
  have sameLength : keys.length = blockIds.length := by
    simpa using (congrArg List.length ids).symm
  have opened : transferKeys (keys.zip blockIds :: run.openLoads) =
      keys ++ transferKeys run.openLoads := by
    rw [transferKeys_cons, List.map_fst_zip (Nat.le_of_eq sameLength)]
  have requested (key : κ) (isChanged : (keys.count key : Int) ≠ 0) : key ∈ keys :=
    List.count_pos_iff.mp (by omega)
  obtain ⟨follows, sameReady⟩ := sound.follows.moved (fun key => keys.count key)
    (keys.zip blockIds :: run.openLoads)
    (fun key isChanged => (permitted key (requested key isChanged)).1)
    (fun key _ => by
      rw [opened, List.count_append]
      omega)
    (fun key isChanged => by
      have room := (permitted key (requested key isChanged)).2
      rw [opened, List.count_append]
      omega)
    (fun transfer member entry isEntry => by
      rcases List.mem_cons.mp member with rfl | isOld
      · exact zip_of_map_eq ids.symm entry isEntry
      · exact sound.follows.handedOut transfer (List.mem_append_left _ isOld) entry isEntry)
    (fun key member => by
      rw [opened, List.mem_append] at member
      rcases member with isNew | isOld
      · exact (permitted key isNew).1
      · exact sound.follows.loadable key isOld)
  rw [← getAfter] at follows sameReady
  refine ⟨{ run with manager := { run.manager with policy }, openLoads := keys.zip blockIds :: run.openLoads }, ?_,
    ⟨sound.movedAccounted wellFormed getAfter, follows⟩,
    fun _ replays => ⟨replays.1, fun key => (replays.2 key).trans (sameReady key).symm⟩⟩
  simp [perform, ran, bind, Except.bind]

theorem completeLoad_keeps [PyFloat F] (sound : run.Sound)
    (permitted : run.Permitted (.completeLoad transfer)) :
    ∃ next, Keeps run (.completeLoad transfer) next := by
  have split := transferKeys_erase permitted
  have counts (key : κ) : (transferKeys run.openLoads).count key =
      (transfer.map Prod.fst).count key + (transferKeys (run.openLoads.erase transfer)).count key := by
    rw [split.count_eq, List.count_append]
  have loaded (key : κ) (member : key ∈ transfer.map Prod.fst) :
      ∃ block, run.manager.policy.get key = some block ∧ 0 ≤ block.refCnt ∧
        block.refCnt = (transferKeys run.openLoads).count key := by
    obtain ⟨block, isHeld, isReady⟩ :=
      sound.follows.loadable key (split.mem_iff.mpr (List.mem_append_left _ member))
    exact ⟨block, isHeld, isReady, sound.follows.loading key block isHeld (by omega)⟩
  obtain ⟨policy, ran, wellFormed, getAfter⟩ :=
    completeLoad_spec run.manager (transfer.map Prod.fst) sound.accounted.wellFormed (by
      intro key member
      obtain ⟨block, isHeld, -, isCounted⟩ := loaded key member
      have := counts key
      exact ⟨block, isHeld, by omega, sound.follows.small key block isHeld⟩)
  have completed (key : κ) (isChanged : (-(transfer.map Prod.fst).count key : Int) ≠ 0) :
      key ∈ transfer.map Prod.fst := List.count_pos_iff.mp (by omega)
  obtain ⟨follows, sameReady⟩ := sound.follows.moved (fun key => -(transfer.map Prod.fst).count key)
    (run.openLoads.erase transfer)
    (fun key isChanged => by
      obtain ⟨block, isHeld, isReady, -⟩ := loaded key (completed key isChanged)
      exact ⟨block, isHeld, isReady⟩)
    (fun key _ => by
      have := counts key
      omega)
    (fun key isChanged => by
      obtain ⟨block, isHeld, -, isCounted⟩ := loaded key (completed key isChanged)
      have := sound.follows.small key block isHeld
      have := counts key
      omega)
    (fun other member => sound.follows.handedOut other
      (List.mem_append_left _ (List.mem_of_mem_erase member)))
    (fun key member =>
      sound.follows.loadable key (split.mem_iff.mpr (List.mem_append_right _ member)))
  rw [← getAfter] at follows sameReady
  refine ⟨{ run with manager := { run.manager with policy }, openLoads := run.openLoads.erase transfer }, ?_,
    ⟨sound.movedAccounted wellFormed getAfter, follows⟩,
    fun _ replays => ⟨replays.1, fun key => (replays.2 key).trans (sameReady key).symm⟩⟩
  simp [perform, ran, bind, Except.bind]

private theorem replay_append (log : List (OffloadingEvent κ)) (event : OffloadingEvent κ) (key : κ) :
    key ∈ replay (log ++ [event]) ↔
      if event.removed then key ∈ replay log ∧ key ∉ event.keys
      else key ∈ replay log ∨ key ∈ event.keys := by
  rw [replay, List.foldl_append]
  simp only [List.foldl_cons, List.foldl_nil]
  split
  · simp [replay]
  · rw [List.mem_append]
    rfl

private theorem replays_push {run next : OffloadRun κ F} (replays : run.Replays) (keys : List κ)
    (removed : Bool) (sameTaken : next.taken = run.taken)
    (pushed : next.manager.events = (run.manager.pushEvent keys removed).events)
    (ready : ∀ key, Ready next.manager.policy.get key ↔
      if removed then Ready run.manager.policy.get key ∧ key ∉ keys
      else Ready run.manager.policy.get key ∨ key ∈ keys) : next.Replays := by
  obtain ⟨enabled, held⟩ := replays
  obtain ⟨events, isEvents⟩ := Option.isSome_iff_exists.mp enabled
  unfold pushEvent at pushed
  split at pushed
  next nothing =>
    subst nothing
    refine ⟨by rw [pushed]; exact enabled, fun key => ?_⟩
    rw [eventLog, sameTaken, pushed, ready key]
    have := held key
    cases removed <;> simpa [eventLog] using this
  next =>
    rw [isEvents] at pushed
    refine ⟨by rw [pushed]; rfl, fun key => ?_⟩
    have log : next.eventLog = run.eventLog ++ [⟨keys, medium, removed⟩] := by
      rw [eventLog, eventLog, sameTaken, pushed, isEvents]
      exact (List.append_assoc _ _ _).symm
    rw [log, replay_append, ready key, held key]

theorem prepareStore_keeps [PyFloat F] (sound : run.Sound) {keys : List κ}
    (permitted : run.Permitted (.prepareStore keys)) : ∃ next, Keeps run (.prepareStore keys) next := by
  obtain ⟨output, manager, ran, effect⟩ := prepareStore_spec sound.accounted permitted
  cases output with
  | none =>
    obtain ⟨skipped, rfl⟩ := effect
    refine ⟨{ run with manager := { run.manager with storesSkippedInCurrentBatch := skipped } },
      ?_, ⟨⟨?_, ?_, ?_⟩, sound.follows⟩, fun _ replays => replays⟩
    · simp [perform, ran, bind, Except.bind]
    · exact sound.accounted.wellFormed
    · exact sound.accounted.marked
    · exact sound.accounted.ids
  | some output =>
    have opened : (output.keysToStore.zip output.storeSpec).map Prod.fst = output.keysToStore :=
      List.map_fst_zip (Nat.le_of_eq effect.sameLength.symm)
    obtain ⟨follows, ready, -⟩ := sound.follows.placed (output.keysToStore.zip output.storeSpec)
      (by rw [opened]; exact effect.nodup) (by rw [opened]; exact effect.wasAbsent) effect.wasIdle
      (by rw [opened]; exact effect.getOther) effect.getStored
    refine ⟨{ run with
      manager
      openStores := output.keysToStore.zip output.storeSpec :: run.openStores
      history := .removed output.evictedKeys :: run.history }, ?_, ⟨effect.accounted, follows⟩, ?_⟩
    · simp [perform, ran, bind, Except.bind]
    · exact fun _ replays =>
        replays_push replays output.evictedKeys true rfl effect.events (by simpa using ready)

theorem completeStore_keeps [PyFloat F] (sound : run.Sound)
    (success : Bool)
    (permitted : run.Permitted (.completeStore transfer success)) :
    ∃ next, Keeps run (.completeStore transfer success) next := by
  obtain ⟨nodup, inFlight⟩ := sound.follows.store permitted
  have unready := fun key member => (inFlight key member).1
  cases success with
  | true =>
    obtain ⟨policy, ran, wellFormed, getAfter⟩ :=
      markStored_spec run.manager nodup sound.accounted.wellFormed unready
    obtain ⟨follows, ready⟩ := sound.follows.completed permitted true (congrFun getAfter)
    have sameOwner : owner policy.get = owner run.manager.policy.get := by
      funext key
      rw [getAfter, owner, owner]
      split
      · rw [Option.map_map]
        rfl
      · rfl
    have samePolicy : ({ run.manager with policy }.pushEvent (transfer.map Prod.fst) false).policy =
        policy := by
      unfold pushEvent
      split <;> rfl
    refine ⟨{ run with
      manager := { run.manager with policy }.pushEvent (transfer.map Prod.fst) false
      openStores := run.openStores.erase transfer
      history := .stored (transfer.map Prod.fst) :: run.history }, ?_, ⟨?_, ?_⟩, fun _ replays => ?_⟩
    · simp [perform, completeStore, ran, bind, Except.bind]
    · have accounted : ({ run.manager with policy } : CPUOffloadingManager κ F).Accounted := by
        refine ⟨wellFormed, sound.accounted.marked, ?_⟩
        rw [sameOwner]
        exact sound.accounted.ids
      unfold pushEvent
      split
      · exact accounted
      · exact ⟨accounted.wellFormed, accounted.marked, accounted.ids⟩
    · dsimp only
      rw [samePolicy]
      exact follows
    · refine replays_push replays (transfer.map Prod.fst) false rfl ?_ fun key => ?_
      · show (pushEvent { run.manager with policy } (transfer.map Prod.fst) false).events = _
        unfold pushEvent
        split <;> rfl
      · dsimp only
        rw [samePolicy, ready key]
        simp
  | false =>
    obtain ⟨policy, freeList, ran, accounted, getAfter⟩ :=
      dropUnstored_spec nodup sound.accounted unready
    obtain ⟨follows, ready⟩ := sound.follows.completed permitted false (congrFun getAfter)
    refine ⟨{ run with
      manager := { run.manager with policy, freeList }
      openStores := run.openStores.erase transfer
      history := .removed (transfer.map Prod.fst) :: run.history }, ?_, ⟨accounted, follows⟩,
      fun _ replays => ⟨replays.1, fun key => ?_⟩⟩
    · simp [perform, completeStore, ran, bind, Except.bind]
    · refine (replays.2 key).trans ?_
      rw [ready key]
      simp

theorem resetCache_keeps [PyFloat F] (run : OffloadRun κ F) :
    ∃ next, Keeps run .resetCache next := by
  obtain ⟨wellFormed, nothing⟩ := run.manager.policy.clear_spec
  refine ⟨_, rfl, ⟨⟨wellFormed, Nat.zero_le _, ?_⟩, ?_⟩, fun isQuiet replays => ⟨replays.1, fun key => ?_⟩⟩
  · show IdPool 0 [] (owner run.manager.policy.clear.get)
    rw [nothing]
    exact IdPool.empty
  · show Follows run.manager.policy.clear.get [] [] (.cleared :: run.history)
    rw [nothing]
    exact follows_nothing _
  · refine (replays.2 key).trans ?_
    show _ ↔ Ready run.manager.policy.clear.get key
    rw [nothing]
    exact iff_of_false (isQuiet key) (by simp [Ready])

theorem takeEvents_keeps [PyFloat F] (sound : run.Sound) :
    ∃ next, Keeps run .takeEvents next := by
  refine ⟨_, rfl,
    ⟨⟨sound.accounted.wellFormed, sound.accounted.marked, sound.accounted.ids⟩, sound.follows⟩,
    fun _ replays => ?_⟩
  obtain ⟨events, isEvents⟩ := Option.isSome_iff_exists.mp replays.1
  refine ⟨by simp [takeEvents, isEvents], fun key => ?_⟩
  have sameLog : ({ run with
      manager := run.manager.takeEvents.2, taken := run.taken ++ run.manager.takeEvents.1 } :
      OffloadRun κ F).eventLog = run.eventLog := by
    simp [eventLog, takeEvents, isEvents]
  rw [sameLog]
  exact replays.2 key

/-- Every permitted call but a look-up succeeds, and all of them keep the bookkeeping. -/
theorem call_keeps [PyFloat F] (sound : run.Sound) {call : OffloadCall κ}
    (permitted : run.Permitted call) :
    (∃ next, Keeps run call next) ∨
      run.perform call = .error (.keyError "dictionary is empty") := by
  cases call with
  | lookup key =>
    cases ran : run.perform (.lookup key) with
    | ok next => exact .inl ⟨next, lookup_keeps sound ran⟩
    | error failure =>
      right
      rw [perform] at ran
      cases looked : run.manager.lookup key with
      | ok result =>
        rw [looked] at ran
        cases ran
      | error raised =>
        rw [looked, lookup_raises looked] at ran
        cases ran
        rfl
  | touch keys => exact .inl (touch_keeps sound keys)
  | prepareLoad keys => exact .inl (prepareLoad_keeps sound permitted)
  | completeLoad transfer => exact .inl (completeLoad_keeps sound permitted)
  | prepareStore keys => exact .inl (prepareStore_keeps sound permitted)
  | completeStore transfer success => exact .inl (completeStore_keeps sound success permitted)
  | resetCache => exact .inl (resetCache_keeps run)
  | takeEvents => exact .inl (takeEvents_keeps sound)

theorem reaches_sound [PyFloat F] {condition : OffloadRun κ F → OffloadCall κ → Prop}
    (permits : ∀ run call, condition run call → run.Permitted call) {initial run : OffloadRun κ F}
    (sound : initial.Sound) (reached : Reaches condition initial run) : run.Sound := by
  induction reached with
  | start => exact sound
  | call _ _ meets performed wasSound =>
    rcases call_keeps wasSound (permits _ _ meets) with ⟨next, keeps⟩ | failed
    · rw [keeps.performed] at performed
      cases performed
      exact keeps.sound
    · rw [failed] at performed
      cases performed

theorem reaches_replays [PyFloat F] {initial run : OffloadRun κ F} (sound : initial.Sound)
    (replays : initial.Replays)
    (reached : Reaches (fun run call => run.Permitted call ∧ run.QuietReset call) initial run) :
    run.Replays := by
  induction reached with
  | start => exact replays
  | call before _ meets performed wasReplays =>
    have wasSound := reaches_sound (fun _ _ meets => meets.1) sound before
    rcases call_keeps wasSound meets.1 with ⟨next, keeps⟩ | failed
    · rw [keeps.performed] at performed
      cases performed
      exact keeps.replays meets.2 wasReplays
    · rw [failed] at performed
      cases performed

/-! ## What a run guarantees -/

/-- The guarantees of the CPU cache, whatever its policy. -/
structure Bookkept [PyFloat F] (run : OffloadRun κ F) : Prop where
  oneBlock : run.manager.policy.WellFormed
  idsBelow : ∀ key id, owner run.manager.policy.get key = some id → id < run.manager.numBlocks
  idsDistinct : ∀ left right id, owner run.manager.policy.get left = some id →
    owner run.manager.policy.get right = some id → left = right
  freeNodup : run.manager.freeList.Nodup
  freeBelow : ∀ id ∈ run.manager.freeList, id < run.manager.numBlocks
  /-- Free, tracked and never allocated ids partition the ids of the cache. -/
  partition : ∀ id, id < run.manager.numBlocks →
    (id ∈ run.manager.freeList ∧ id < run.manager.numAllocatedBlocks ∧
      ∀ key, owner run.manager.policy.get key ≠ some id) ∨
    (id ∉ run.manager.freeList ∧ id < run.manager.numAllocatedBlocks ∧
      ∃ key, owner run.manager.policy.get key = some id) ∨
    (id ∉ run.manager.freeList ∧ run.manager.numAllocatedBlocks ≤ id ∧
      ∀ key, owner run.manager.policy.get key ≠ some id)
  held : ∀ transfer ∈ run.openLoads ++ run.openStores, ∀ entry ∈ transfer,
    owner run.manager.policy.get entry.1 = some entry.2
  notReused : ∀ keys output manager, run.Permitted (.prepareStore keys) →
    run.manager.prepareStore keys = .ok (some output, manager) →
    ∀ transfer ∈ run.openLoads ++ run.openStores, ∀ entry ∈ transfer,
      entry.1 ∉ output.evictedKeys ∧ entry.2 ∉ output.storeSpec
  honest : ∀ key manager, run.manager.lookup key = .ok (some true, manager) →
    StoredSinceRemoval run.history key
  noAssertion : ∀ call message, run.Permitted call →
    run.perform call ≠ .error (.assertionError message)

private theorem Sound.notReused [PyFloat F] (sound : run.Sound) {keys : List κ}
    {output : PrepareStoreOutput κ} {manager : CPUOffloadingManager κ F} (nodup : keys.Nodup)
    (ran : run.manager.prepareStore keys = .ok (some output, manager))
    (isOpen : transfer ∈ run.openLoads ++ run.openStores) {entry : κ × Nat} (isEntry : entry ∈ transfer) :
    entry.1 ∉ output.evictedKeys ∧ entry.2 ∉ output.storeSpec := by
  obtain ⟨given, after, ranAgain, effect⟩ := prepareStore_spec sound.accounted nodup
  rw [ran] at ranAgain
  cases ranAgain
  have opened : (output.keysToStore.zip output.storeSpec).map Prod.fst = output.keysToStore :=
    List.map_fst_zip (Nat.le_of_eq effect.sameLength.symm)
  obtain ⟨follows, -, unused⟩ := sound.follows.placed (output.keysToStore.zip output.storeSpec)
    (by rw [opened]; exact effect.nodup) (by rw [opened]; exact effect.wasAbsent) effect.wasIdle
    (by rw [opened]; exact effect.getOther) effect.getStored
  constructor
  · intro isEvicted
    rcases List.mem_append.mp isOpen with isLoad | isStore
    · exact (unused entry.1 isEvicted).1 (mem_transferKeys isLoad isEntry)
    · exact (unused entry.1 isEvicted).2 (mem_transferKeys isStore isEntry)
  · intro isGiven
    -- the id would belong to the new key and to the one of the open transfer
    obtain ⟨index, isBelow, isIndex⟩ := List.mem_iff_getElem.mp isGiven
    have keyBelow : index < output.keysToStore.length := effect.sameLength ▸ isBelow
    have isNew : (output.keysToStore[index], entry.2) ∈ output.keysToStore.zip output.storeSpec := by
      rw [← isIndex, ← List.getElem_zip (h := by rw [List.length_zip]; omega)]
      exact List.getElem_mem _
    have newOwner := follows.handedOut _ (List.mem_append_right _ List.mem_cons_self) _ isNew
    have stillOpen : transfer ∈ run.openLoads ++
        (output.keysToStore.zip output.storeSpec :: run.openStores) := by
      rcases List.mem_append.mp isOpen with isLoad | isStore
      · exact List.mem_append_left _ isLoad
      · exact List.mem_append_right _ (List.mem_cons_of_mem _ isStore)
    have sameKey := effect.accounted.ids.unique _ _ _ newOwner
      (follows.handedOut transfer stillOpen entry isEntry)
    have wasOwner := sound.follows.handedOut transfer isOpen entry isEntry
    rw [owner, ← sameKey, effect.wasAbsent _ (List.getElem_mem keyBelow)] at wasOwner
    cases wasOwner

theorem Sound.bookkept [PyFloat F] (sound : run.Sound) : run.Bookkept := by
  have ids := sound.accounted.ids
  have marked := sound.accounted.marked
  constructor
  case oneBlock => exact sound.accounted.wellFormed
  case idsBelow => exact fun key id owns => Nat.lt_of_lt_of_le (ids.ownedBelow key id owns) marked
  case idsDistinct => exact ids.unique
  case freeNodup => exact ids.nodup
  case freeBelow => exact fun id isFree => Nat.lt_of_lt_of_le (ids.spareBelow id isFree) marked
  case partition =>
    intro id _
    by_cases isAllocated : id < run.manager.numAllocatedBlocks
    · rcases ids.covered id isAllocated with isFree | ⟨key, owns⟩
      · exact .inl ⟨isFree, isAllocated, fun key owns => ids.notSpare key id owns isFree⟩
      · exact .inr (.inl ⟨ids.notSpare key id owns, isAllocated, key, owns⟩)
    · refine .inr (.inr ⟨fun isFree => isAllocated (ids.spareBelow id isFree), by omega,
        fun key owns => isAllocated (ids.ownedBelow key id owns)⟩)
  case held => exact sound.follows.handedOut
  case notReused =>
    exact fun keys output manager permitted ran transfer isOpen entry isEntry =>
      sound.notReused permitted ran isOpen isEntry
  case honest =>
    intro key manager looked
    exact sound.follows.stored key ((lookup_spec looked).2.mp rfl)
  case noAssertion =>
    intro call message permitted failed
    rcases call_keeps sound permitted with ⟨next, keeps⟩ | isKeyError
    · rw [keeps.performed] at failed
      cases failed
    · rw [isKeyError] at failed
      cases failed

/-- The CPU cache is sound under both policies in every run of permitted calls,
and its events follow it as long as no reset empties it. -/
theorem cpu_cache_sound [PyFloat F] (numBlocks : Nat) (cachePolicy : CachePolicyName)
    (storeThreshold maxTrackerSize : Int) :
    (∀ (enableEvents : Bool) (run : OffloadRun κ F),
      Reaches Permitted (init numBlocks cachePolicy enableEvents storeThreshold maxTrackerSize) run →
        run.Bookkept) ∧
    ∀ run : OffloadRun κ F,
      Reaches (fun run call => run.Permitted call ∧ run.QuietReset call)
        (init numBlocks cachePolicy true storeThreshold maxTrackerSize) run → run.Replays := by
  constructor
  · intro enableEvents run reached
    exact (reaches_sound (fun _ _ permitted => permitted) (init_sound ..) reached).bookkept
  · exact fun run reached => reaches_replays (init_sound ..) (init_replays ..) reached

/-! ## A reset that the events do not show -/

/-- Exact arithmetic for the tests of this module, which use LRU. -/
instance : PyFloat Rat where
  ofNat count := count
  add := (· + ·)
  sub := (· - ·)
  quotient top bottom := top / bottom
  max := max
  min := min
  toInt value := value.floor

/-- The claimed guarantee fails: after storing one block and resetting the cache,
the events still hold the block. -/
theorem reset_leaves_events :
    ¬ ∀ run : OffloadRun Nat Rat,
      Reaches Permitted (init 1 .lru true 1 64000) run → run.Bookkept ∧ run.Replays := by
  intro claimed
  have stored : Reaches (F := Rat) Permitted (init 1 .lru true 1 64000) _ :=
    (Reaches.start.call (.prepareStore [7]) (List.nodup_singleton 7) rfl).call
      (.completeStore [(7, 0)] true) List.mem_cons_self rfl
  have stale : (7 : Nat) ∈ replay [⟨[7], "CPU", false⟩] := by decide
  have replays := (claimed _ (stored.call .resetCache trivial rfl)).2
  obtain ⟨block, isHeld, -⟩ := (replays.2 7).mp stale
  cases isHeld

private theorem Reaches.mono [PyFloat F] {condition weaker : OffloadRun κ F → OffloadCall κ → Prop}
    (implies : ∀ run call, condition run call → weaker run call) {initial run : OffloadRun κ F}
    (reached : Reaches condition initial run) : Reaches weaker initial run := by
  induction reached with
  | start => exact .start
  | call _ call meets performed ih =>
    exact ih.call call (implies _ _ meets) performed

/-- A block stored, touched and being loaded under ARC. -/
theorem cpu_cache_sound_arc :
    ∃ run : OffloadRun Nat Rat, run.openLoads = [[(7, 0)]] ∧ run.Bookkept ∧ run.Replays := by
  have stored : Reaches (F := Rat) (fun run call => run.Permitted call ∧ run.QuietReset call)
      (init 1 .arc true 1 64000) _ :=
    ((Reaches.start.call (.prepareStore [7]) ⟨List.nodup_singleton 7, trivial⟩ rfl).call
      (.completeStore [(7, 0)] true) ⟨List.mem_cons_self, trivial⟩ rfl).call
      (.touch [7]) ⟨trivial, trivial⟩ rfl
  have loaded := stored.call (.prepareLoad [7]) ⟨by
    intro key isKey
    obtain rfl := List.mem_singleton.mp isKey
    exact ⟨⟨_, rfl, by decide⟩, by decide⟩, trivial⟩ rfl
  have guarantees := cpu_cache_sound (κ := Nat) (F := Rat) 1 .arc 1 64000
  exact ⟨_, rfl, guarantees.1 true _ (loaded.mono fun _ _ meets => meets.1),
    guarantees.2 _ loaded⟩

end OffloadRun

end DeepSpark
