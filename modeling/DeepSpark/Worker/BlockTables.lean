import DeepSpark.Lib.Launch

/-!
`BlockTables` of `v1/worker/gpu/block_table.py`.

Owns the layout of the KV cache groups, the staged writes of
`v1/worker/gpu/buffer_utils.py`, the operations of the block tables with their
kernels, and the mirror invariant: the persistent tables hold, in kernel blocks, the
block ids that were appended. Tables are addressed as the kernels do, by row stride.
-/

namespace DeepSpark

open Lib Function

def padSlotId : Int := -1

/-- One KV cache group: the block size of its manager, that of its attention kernels,
its context parallel size, and the blocks reserved for a request. -/
structure KvGroup where
  blockSize : Nat
  kernelBlockSize : Nat
  groupCpSize : Nat
  maxNumBlocks : Nat
  blockSize_pos : 0 < blockSize
  kernelBlockSize_pos : 0 < kernelBlockSize
  maxNumBlocks_pos : 0 < maxNumBlocks
  divides : kernelBlockSize ∣ blockSize

namespace KvGroup

variable (group : KvGroup)

def blocksPerKvBlock : Nat := group.blockSize / group.kernelBlockSize

def stride : Nat := group.maxNumBlocks * group.blocksPerKvBlock

theorem blocksPerKvBlock_pos : 0 < group.blocksPerKvBlock :=
  Nat.div_pos (Nat.le_of_dvd group.blockSize_pos group.divides) group.kernelBlockSize_pos

theorem blocksPerKvBlock_mul : group.blocksPerKvBlock * group.kernelBlockSize = group.blockSize :=
  Nat.div_mul_cancel group.divides

def kernelBlockIds (blockIds : List Nat) : List Nat :=
  if 1 < group.blocksPerKvBlock then
    blockIds.flatMap fun b => (List.range group.blocksPerKvBlock).map fun k => b * group.blocksPerKvBlock + k
  else blockIds

theorem length_kernelBlockIds (blockIds : List Nat) :
    (group.kernelBlockIds blockIds).length = blockIds.length * group.blocksPerKvBlock := by
  rw [kernelBlockIds]
  split
  next => simp [List.length_flatMap, List.map_const']
  next notSplit =>
    rw [show group.blocksPerKvBlock = 1 from le_antisymm (not_lt.mp notSplit) group.blocksPerKvBlock_pos,
      Nat.mul_one]

theorem kernelBlockIds_append (front back : List Nat) :
    group.kernelBlockIds (front ++ back) = group.kernelBlockIds front ++ group.kernelBlockIds back := by
  rw [kernelBlockIds, kernelBlockIds, kernelBlockIds]
  split
  next => exact List.flatMap_append
  next => rfl

theorem getElem?_kernelBlockIds (blockIds : List Nat) (i : Nat) :
    (group.kernelBlockIds blockIds)[i]? = (blockIds[i / group.blocksPerKvBlock]?).map fun b =>
      b * group.blocksPerKvBlock + i % group.blocksPerKvBlock := by
  have positive := group.blocksPerKvBlock_pos
  rw [kernelBlockIds]
  split
  next =>
    induction blockIds generalizing i with
    | nil => rfl
    | cons b rest ih =>
      rw [List.flatMap_cons]
      by_cases inFirst : i < group.blocksPerKvBlock
      · rw [List.getElem?_append_left (by simpa using inFirst), Nat.div_eq_of_lt inFirst,
          Nat.mod_eq_of_lt inFirst]
        simp [inFirst]
      · have atLeast : group.blocksPerKvBlock ≤ i := not_lt.mp inFirst
        rw [List.getElem?_append_right (by simpa using atLeast), List.length_map, List.length_range,
          ih, Nat.div_eq_sub_div positive atLeast, List.getElem?_cons_succ,
          Nat.mod_eq_sub_mod atLeast]
  next notSplit =>
    rw [show group.blocksPerKvBlock = 1 from le_antisymm (not_lt.mp notSplit) positive]
    simp [Nat.mod_one]

end KvGroup

structure TablesConfig where
  numKvCacheGroups : Nat
  group : Nat → KvGroup
  maxNumReqs : Nat
  maxNumBatchedTokens : Nat
  cpSize : Nat
  cpRank : Nat
  cpInterleave : Nat
  maxNumReqs_pos : 0 < maxNumReqs

/-! ## Staged writes -/

structure StagedWrite where
  index : Nat
  start : Nat
  contents : List Nat
deriving DecidableEq, Repr

structure StagedWriteTensor where
  gpu : Buffer Nat Nat
  staged : List StagedWrite

def StagedWriteTensor.stageWrite (tensor : StagedWriteTensor) (index start : Nat) (x : List Nat) :
    StagedWriteTensor :=
  if x.isEmpty then tensor else { tensor with staged := tensor.staged ++ [⟨index, start, x⟩] }

/-- `_apply_write_kernel` for one staged write. -/
def StagedWrite.stores (stride : Nat) (write : StagedWrite) : List (Store Nat Nat) :=
  (blockLoop 0 write.contents.length 1024).map fun block =>
    ⟨write.index * stride + write.start + block, write.contents.getD block 0⟩

structure StagedWriteTensor.Applied (stride : Nat) (before after : StagedWriteTensor) : Prop where
  gpu : Launched before.staged (StagedWrite.stores stride) before.gpu after.gpu
  staged : after.staged = []

/-! ## The block tables -/

/-- The persistent tables by group, and the number of kernel blocks of each row, by
group and row, on the host and on the device. -/
structure BlockTables where
  blockTables : Nat → StagedWriteTensor
  numBlocks : Nat → Nat → Nat
  numBlocksGpu : Nat → Nat → Nat

variable {tables : BlockTables} {i numReqs : Nat}

namespace BlockTables

variable (config : TablesConfig)

def appendBlockIds (tables : BlockTables) (reqIndex : Nat) (newBlockIds : Nat → List Nat)
    (overwrite : Bool) : BlockTables :=
  let start := fun i => if overwrite then 0 else tables.numBlocks i reqIndex
  let blockIds := fun i => (config.group i).kernelBlockIds (newBlockIds i)
  { tables with
    blockTables := fun i =>
      if i < config.numKvCacheGroups then (tables.blockTables i).stageWrite reqIndex (start i) (blockIds i)
      else tables.blockTables i
    numBlocks := fun i => if i < config.numKvCacheGroups then
      Function.update (tables.numBlocks i) reqIndex (start i + (blockIds i).length)
      else tables.numBlocks i }

structure AppliedStagedWrites (before after : BlockTables) : Prop where
  blockTables : ∀ i < config.numKvCacheGroups,
    (before.blockTables i).Applied (config.group i).stride (after.blockTables i)
  numBlocks : after.numBlocks = before.numBlocks
  numBlocksGpu : after.numBlocksGpu = before.numBlocks

structure Append where
  reqIndex : Nat
  newBlockIds : Nat → List Nat
  overwrite : Bool

def appendAll (tables : BlockTables) (appends : List Append) : BlockTables :=
  appends.foldl (fun tables append =>
    tables.appendBlockIds config append.reqIndex append.newBlockIds append.overwrite) tables

def Append.given (append : Append) (blockIds : List Nat) (i : Nat) : List Nat :=
  if append.overwrite then append.newBlockIds i else blockIds ++ append.newBlockIds i

/-- `_gather_block_tables_kernel`: what one program stores into the input table of its
group, for a batch padded to more rows. -/
def gatherStores (tables : BlockTables) (idxMapping : Nat → Nat) (numReqs i batchIdx : Nat) :
    List (Store Nat Nat) :=
  let stride := (config.group i).stride
  if batchIdx ≥ numReqs then
    (blockLoop 0 stride 1024).map fun offset => ⟨batchIdx * stride + offset, 0⟩
  else
    let reqIdx := idxMapping batchIdx
    (blockLoop 0 (tables.numBlocksGpu i reqIdx) 1024).map fun offset =>
      ⟨batchIdx * stride + offset, (tables.blockTables i).gpu (reqIdx * stride + offset)⟩

def Gathered (tables : BlockTables) (idxMapping : Nat → Nat) (numReqs numReqsPadded i : Nat)
    (before after : Buffer Nat Nat) : Prop :=
  Launched (List.range numReqsPadded) (tables.gatherStores config idxMapping numReqs i) before after

def computedSlot (tables : BlockTables) (i reqStateIdx position : Nat) : Int :=
  let blockSize := (config.group i).kernelBlockSize
  let groupCpSize := (config.group i).groupCpSize
  let blockIndex := position / (blockSize * groupCpSize)
  let blockOffset := position % (blockSize * groupCpSize)
  let blockNumber := (tables.blockTables i).gpu (reqStateIdx * (config.group i).stride + blockIndex)
  if config.cpSize = 1 then ((blockNumber * blockSize + blockOffset : Nat) : Int)
  else if groupCpSize = 1 then ((blockNumber * blockSize + blockOffset : Nat) : Int)
  else
    let isLocal := blockOffset / config.cpInterleave % config.cpSize = config.cpRank
    let rounds := blockOffset / (config.cpInterleave * config.cpSize)
    let remainder := blockOffset % config.cpInterleave
    let localOffset := rounds * config.cpInterleave + remainder
    if isLocal then ((blockNumber * blockSize + localOffset : Nat) : Int) else padSlotId

/-- `_compute_slot_mappings_kernel`: what one program stores into the slot mapping of
its group. The last program pads. -/
def slotMappingStores (tables : BlockTables) (idxMapping queryStartLoc pos : Nat → Nat) (numReqs i batchIdx : Nat) :
    List (Store Nat Int) :=
  if batchIdx = numReqs then
    (blockLoop (queryStartLoc batchIdx) config.maxNumBatchedTokens 1024).map fun offset =>
      ⟨offset, padSlotId⟩
  else
    (blockLoop (queryStartLoc batchIdx) (queryStartLoc (batchIdx + 1)) 1024).map fun offset =>
      ⟨offset, tables.computedSlot config i (idxMapping batchIdx) (pos offset)⟩

def SlotsComputed (tables : BlockTables) (idxMapping queryStartLoc pos : Nat → Nat) (numReqs i : Nat)
    (before after : Buffer Nat Int) : Prop :=
  Launched (List.range (numReqs + 1))
    (tables.slotMappingStores config idxMapping queryStartLoc pos numReqs i) before after

/-! ## The mirror of the appended blocks -/

def Append.start (tables : BlockTables) (append : Append) (i : Nat) : Nat :=
  if append.overwrite then 0 else tables.numBlocks i append.reqIndex

def Append.write (tables : BlockTables) (append : Append) (i : Nat) : StagedWrite :=
  ⟨append.reqIndex, append.start tables i, (config.group i).kernelBlockIds (append.newBlockIds i)⟩

/-- The tables hold the block ids their rows were given, and nothing is staged. -/
structure Mirrors (tables : BlockTables) (blockIds : Nat → Nat → List Nat) : Prop where
  staged : ∀ i < config.numKvCacheGroups, (tables.blockTables i).staged = []
  fits : ∀ i < config.numKvCacheGroups, ∀ row < config.maxNumReqs,
    ((config.group i).kernelBlockIds (blockIds i row)).length ≤ (config.group i).stride
  numBlocks : ∀ i < config.numKvCacheGroups, ∀ row < config.maxNumReqs,
    tables.numBlocks i row = ((config.group i).kernelBlockIds (blockIds i row)).length
  numBlocksGpu : tables.numBlocksGpu = tables.numBlocks
  entry : ∀ i < config.numKvCacheGroups, ∀ row < config.maxNumReqs, ∀ k b,
    ((config.group i).kernelBlockIds (blockIds i row))[k]? = some b →
      (tables.blockTables i).gpu (row * (config.group i).stride + k) = b

def givenAll (blockIds : Nat → Nat → List Nat) (appends : List Append) : Nat → Nat → List Nat :=
  fun i row => match appends.find? fun append => append.reqIndex = row with
    | some append => append.given (blockIds i row) i
    | none => blockIds i row

/-- One step: distinct rows are appended to, within the width of the tables, and the
staged writes are applied. -/
structure Step (blockIds : Nat → Nat → List Nat) (appends : List Append) (before after : BlockTables) :
    Prop where
  distinct : (appends.map Append.reqIndex).Nodup
  inRange : ∀ append ∈ appends, append.reqIndex < config.maxNumReqs
  fits : ∀ append ∈ appends, ∀ i < config.numKvCacheGroups,
    ((config.group i).kernelBlockIds (append.given (blockIds i append.reqIndex) i)).length ≤
      (config.group i).stride
  applied : AppliedStagedWrites config (before.appendAll config appends) after

variable {config}

theorem appendAll_eq {tables : BlockTables} {appends : List Append}
    (distinct : (appends.map Append.reqIndex).Nodup) {i : Nat} (inGroups : i < config.numKvCacheGroups) :
    ((tables.appendAll config appends).blockTables i).gpu = (tables.blockTables i).gpu ∧
      (∀ write, write ∈ ((tables.appendAll config appends).blockTables i).staged ↔
        write ∈ (tables.blockTables i).staged ∨ ∃ append ∈ appends, write = append.write config tables i ∧
          write.contents ≠ []) ∧
      (∀ append ∈ appends, (tables.appendAll config appends).numBlocks i append.reqIndex =
        append.start tables i + ((config.group i).kernelBlockIds (append.newBlockIds i)).length) ∧
      ∀ row, (∀ append ∈ appends, append.reqIndex ≠ row) →
        (tables.appendAll config appends).numBlocks i row = tables.numBlocks i row := by
  induction appends generalizing tables with
  | nil => simp [appendAll]
  | cons append rest ih =>
    rw [List.map_cons, List.nodup_cons] at distinct
    obtain ⟨isNew, restDistinct⟩ := distinct
    set next := tables.appendBlockIds config append.reqIndex append.newBlockIds append.overwrite with isNext
    obtain ⟨gpu, staged, counted, others⟩ := @ih next restDistinct
    have all : tables.appendAll config (append :: rest) = next.appendAll config rest := rfl
    have table : next.blockTables i = (tables.blockTables i).stageWrite append.reqIndex
        (append.start tables i) ((config.group i).kernelBlockIds (append.newBlockIds i)) :=
      if_pos inGroups
    have numBlocks : next.numBlocks i = update (tables.numBlocks i) append.reqIndex
        (append.start tables i + ((config.group i).kernelBlockIds (append.newBlockIds i)).length) :=
      if_pos inGroups
    have differs : ∀ other ∈ rest, other.reqIndex ≠ append.reqIndex := fun other member same =>
      isNew (List.mem_map.mpr ⟨other, member, same⟩)
    have start : ∀ other ∈ rest, other.start next i = other.start tables i := by
      intro other member
      rw [Append.start, Append.start, numBlocks, update_of_ne (differs other member)]
    have write : ∀ other ∈ rest, other.write config next i = other.write config tables i := by
      intro other member
      rw [Append.write, Append.write, start other member]
    rw [all]
    refine ⟨?_, ?_, ?_, ?_⟩
    · rw [gpu, table, StagedWriteTensor.stageWrite]
      split <;> rfl
    · intro found
      rw [staged, table, StagedWriteTensor.stageWrite]
      have inRest : (∃ other ∈ rest, found = other.write config next i ∧ found.contents ≠ []) ↔
          ∃ other ∈ rest, found = other.write config tables i ∧ found.contents ≠ [] := by
        constructor
        · rintro ⟨other, member, rfl, notEmpty⟩
          exact ⟨other, member, write other member, notEmpty⟩
        · rintro ⟨other, member, rfl, notEmpty⟩
          exact ⟨other, member, (write other member).symm, notEmpty⟩
      rw [inRest]
      simp only [List.mem_cons, exists_eq_or_imp]
      split
      next isEmpty =>
        have noContents : (append.write config tables i).contents = [] := List.isEmpty_iff.mp isEmpty
        constructor
        · rintro (old | new)
          · exact Or.inl old
          · exact Or.inr (Or.inr new)
        · rintro (old | ⟨rfl, notEmpty⟩ | new)
          · exact Or.inl old
          · exact absurd noContents notEmpty
          · exact Or.inr new
      next notEmpty =>
        have contents : (append.write config tables i).contents ≠ [] :=
          fun isEmpty => notEmpty (List.isEmpty_iff.mpr isEmpty)
        simp only [List.mem_append, List.mem_singleton]
        constructor
        · rintro ((old | rfl) | new)
          · exact Or.inl old
          · exact Or.inr (Or.inl ⟨rfl, contents⟩)
          · exact Or.inr (Or.inr new)
        · rintro (old | ⟨rfl, -⟩ | new)
          · exact Or.inl (Or.inl old)
          · exact Or.inl (Or.inr rfl)
          · exact Or.inr new
    · intro other member
      rcases List.mem_cons.mp member with rfl | inRest
      · rw [others _ differs, numBlocks, update_self]
      · rw [counted other inRest, start other inRest]
    · intro row untouched
      rw [others row fun other member => untouched other (List.mem_cons_of_mem _ member), numBlocks,
        update_of_ne (untouched append List.mem_cons_self).symm]

theorem find?_append {appends : List Append} (distinct : (appends.map Append.reqIndex).Nodup)
    {append : Append} (member : append ∈ appends) :
    appends.find? (fun other => other.reqIndex = append.reqIndex) = some append := by
  cases found : appends.find? fun other => other.reqIndex = append.reqIndex with
  | none =>
    have none := List.find?_eq_none.mp found append member
    simp at none
  | some other =>
    have same : other.reqIndex = append.reqIndex := by simpa using List.find?_some found
    rw [List.inj_on_of_nodup_map distinct (List.mem_of_find?_eq_some found) member same]

theorem mem_stores {stride : Nat} {write : StagedWrite} {store : Store Nat Nat} :
    store ∈ write.stores stride ↔ ∃ k b, write.contents[k]? = some b ∧
      store = ⟨write.index * stride + write.start + k, b⟩ := by
  simp only [StagedWrite.stores, List.mem_map, mem_blockLoop (show 0 < 1024 by omega), Nat.zero_le,
    true_and]
  constructor
  · rintro ⟨k, below, rfl⟩
    exact ⟨k, write.contents[k], List.getElem?_eq_getElem below, by
      rw [List.getD_eq_getElem _ _ below]⟩
  · rintro ⟨k, b, isEntry, rfl⟩
    obtain ⟨below, isB⟩ := List.getElem?_eq_some_iff.mp isEntry
    exact ⟨k, below, by rw [List.getD_eq_getElem _ _ below, isB]⟩

theorem Step.mirrors {blockIds : Nat → Nat → List Nat} {appends : List Append} {before after : BlockTables}
    (step : Step config blockIds appends before after) (mirrors : Mirrors config before blockIds) :
    Mirrors config after (givenAll blockIds appends) := by
  have spec := fun {i} => @appendAll_eq config before appends step.distinct i
  have given : ∀ append ∈ appends, ∀ i,
      givenAll blockIds appends i append.reqIndex = append.given (blockIds i append.reqIndex) i := by
    intro append member i
    rw [givenAll, find?_append step.distinct member]
  have kept : ∀ row, (∀ append ∈ appends, append.reqIndex ≠ row) → ∀ i,
      givenAll blockIds appends i row = blockIds i row := by
    intro row untouched i
    have none : appends.find? (fun append => append.reqIndex = row) = none := by
      apply List.find?_eq_none.mpr
      intro append member
      simpa using untouched append member
    rw [givenAll, none]
  -- what a row was given is what was kept of it and what was appended
  have split : ∀ append ∈ appends, ∀ i < config.numKvCacheGroups, ∃ front : List Nat,
      (config.group i).kernelBlockIds (append.given (blockIds i append.reqIndex) i) =
        front ++ (config.group i).kernelBlockIds (append.newBlockIds i) ∧
      front.length = append.start before i ∧
      ∀ (k b : Nat), front[k]? = some b →
        ((config.group i).kernelBlockIds (blockIds i append.reqIndex))[k]? = some b := by
    intro append member i inGroups
    rw [Append.given, Append.start]
    split
    next => exact ⟨[], rfl, rfl, nofun⟩
    next =>
      exact ⟨_, KvGroup.kernelBlockIds_append _ _ _,
        (mirrors.numBlocks i inGroups _ (step.inRange append member)).symm, fun _ _ isEntry => isEntry⟩
  have rowOf : ∀ row, (∃ append ∈ appends, append.reqIndex = row) ∨
      ∀ append ∈ appends, append.reqIndex ≠ row := by
    intro row
    by_cases touched : ∃ append ∈ appends, append.reqIndex = row
    · exact Or.inl touched
    · exact Or.inr fun append member same => touched ⟨append, member, same⟩
  refine ⟨fun i inGroups => (step.applied.blockTables i inGroups).staged, ?_, ?_,
    step.applied.numBlocksGpu.trans step.applied.numBlocks.symm, ?_⟩
  · intro i inGroups row inRows
    rcases rowOf row with ⟨append, member, rfl⟩ | untouched
    · rw [given append member]
      exact step.fits append member i inGroups
    · rw [kept row untouched]
      exact mirrors.fits i inGroups row inRows
  · intro i inGroups row inRows
    obtain ⟨-, -, counted, others⟩ := spec inGroups
    rw [step.applied.numBlocks]
    rcases rowOf row with ⟨append, member, rfl⟩ | untouched
    · obtain ⟨front, isGiven, isStart, -⟩ := split append member i inGroups
      rw [counted append member, given append member, isGiven, List.length_append, isStart]
    · rw [others row untouched, kept row untouched]
      exact mirrors.numBlocks i inGroups row inRows
  · intro i inGroups row inRows k b isEntry
    obtain ⟨gpu, staged, -, -⟩ := spec inGroups
    have launched := (step.applied.blockTables i inGroups).gpu
    rw [gpu] at launched
    have isStaged : ∀ write, write ∈ ((before.appendAll config appends).blockTables i).staged ↔
        ∃ append ∈ appends, write = append.write config before i ∧ write.contents ≠ [] := by
      intro write
      rw [staged, mirrors.staged i inGroups]
      simp
    have givenFits : ((config.group i).kernelBlockIds (givenAll blockIds appends i row)).length ≤
        (config.group i).stride := by
      rcases rowOf row with ⟨append, member, rfl⟩ | untouched
      · rw [given append member]
        exact step.fits append member i inGroups
      · rw [kept row untouched]
        exact mirrors.fits i inGroups row inRows
    have inRow : k < (config.group i).stride :=
      (List.getElem?_eq_some_iff.mp isEntry).1.trans_le givenFits
    -- a store to this address comes from the append to this row, at its own offset
    have atAddress : ∀ write ∈ ((before.appendAll config appends).blockTables i).staged,
        ∀ store ∈ write.stores (config.group i).stride,
        store.address = row * (config.group i).stride + k →
        ∃ append ∈ appends, append.reqIndex = row ∧ append.start before i ≤ k ∧
          ((config.group i).kernelBlockIds (append.newBlockIds i))[k - append.start before i]? =
            some store.value := by
      intro write inStaged store member address
      obtain ⟨append, inAppends, rfl, -⟩ := (isStaged write).mp inStaged
      obtain ⟨offset, value, isValue, rfl⟩ := mem_stores.mp member
      obtain ⟨front, isGiven, isStart, -⟩ := split append inAppends i inGroups
      have fits := step.fits append inAppends i inGroups
      rw [isGiven, List.length_append, isStart] at fits
      have below : offset < ((config.group i).kernelBlockIds (append.newBlockIds i)).length :=
        (List.getElem?_eq_some_iff.mp isValue).1
      have sameAddress : append.reqIndex * (config.group i).stride + (append.start before i + offset) =
          row * (config.group i).stride + k := by
        rw [← Nat.add_assoc]
        exact address
      obtain ⟨sameRow, isOffset⟩ := flat_inj (by omega) inRow sameAddress
      refine ⟨append, inAppends, sameRow, by omega, ?_⟩
      rw [show k - append.start before i = offset by omega]
      exact isValue
    rcases rowOf row with ⟨append, member, rfl⟩ | untouched
    · obtain ⟨front, isGiven, isStart, isFront⟩ := split append member i inGroups
      rw [given append member, isGiven] at isEntry
      by_cases inFront : k < append.start before i
      · rw [List.getElem?_append_left (by omega)] at isEntry
        rw [launched.untouched fun write inStaged store stored address => by
          obtain ⟨other, inAppends, same, above, -⟩ := atAddress write inStaged store stored address
          rw [List.inj_on_of_nodup_map step.distinct inAppends member same] at above
          omega]
        exact mirrors.entry i inGroups _ inRows k b (isFront k b isEntry)
      · rw [List.getElem?_append_right (by omega), isStart] at isEntry
        have contents : (append.write config before i).contents ≠ [] := by
          intro isEmpty
          have noEntry : ((config.group i).kernelBlockIds (append.newBlockIds i)) = [] := isEmpty
          rw [noEntry] at isEntry
          cases isEntry
        have stored : (⟨append.reqIndex * (config.group i).stride + k, b⟩ : Store Nat Nat) ∈
            (append.write config before i).stores (config.group i).stride := by
          apply mem_stores.mpr
          refine ⟨k - append.start before i, b, isEntry, ?_⟩
          show _ = Store.mk (append.reqIndex * _ + append.start before i + _) b
          rw [Nat.add_assoc, Nat.add_sub_cancel' (not_lt.mp inFront)]
        apply launched.agreed ((isStaged _).mpr ⟨append, member, rfl, contents⟩) stored
        intro write inStaged store otherStored address
        obtain ⟨other, inAppends, same, -, isValue⟩ := atAddress write inStaged store otherStored address
        rw [List.inj_on_of_nodup_map step.distinct inAppends member same, isEntry] at isValue
        exact (Option.some.inj isValue).symm
    · rw [launched.untouched fun write inStaged store stored address => by
        obtain ⟨append, inAppends, same, -, -⟩ := atAddress write inStaged store stored address
        exact untouched append inAppends same]
      rw [kept row untouched] at isEntry
      exact mirrors.entry i inGroups row inRows k b isEntry

/-! ## Reading the tables -/

/-- The input table of a batch row holds the counted part of its persistent row. -/
theorem Gathered.entry {idxMapping : Nat → Nat} {numReqsPadded : Nat}
    {before after : Buffer Nat Nat}
    (gathered : tables.Gathered config idxMapping numReqs numReqsPadded i before after)
    (padded : numReqs ≤ numReqsPadded)
    (fits : ∀ r < numReqs, tables.numBlocksGpu i (idxMapping r) ≤ (config.group i).stride) {r k : Nat}
    (inBatch : r < numReqs) (counted : k < tables.numBlocksGpu i (idxMapping r)) :
    after (r * (config.group i).stride + k) =
      (tables.blockTables i).gpu (idxMapping r * (config.group i).stride + k) := by
  have inRow : k < (config.group i).stride := counted.trans_le (fits r inBatch)
  -- a program stores to its own row
  have own : ∀ batchIdx, ∀ store ∈ tables.gatherStores config idxMapping numReqs i batchIdx,
      ∃ offset < (config.group i).stride, store.address = batchIdx * (config.group i).stride + offset ∧
        (batchIdx < numReqs → store.value =
          (tables.blockTables i).gpu (idxMapping batchIdx * (config.group i).stride + offset)) := by
    intro batchIdx store member
    rw [gatherStores] at member
    split at member
    next isPadding =>
      obtain ⟨offset, inLoop, rfl⟩ := List.mem_map.mp member
      obtain ⟨-, below⟩ := (mem_blockLoop (by omega)).mp inLoop
      exact ⟨offset, below, rfl, fun inBatch => absurd inBatch (not_lt.mpr isPadding)⟩
    next inBatch =>
      obtain ⟨offset, inLoop, rfl⟩ := List.mem_map.mp member
      obtain ⟨-, below⟩ := (mem_blockLoop (by omega)).mp inLoop
      exact ⟨offset, below.trans_le (fits batchIdx (not_le.mp inBatch)), rfl, fun _ => rfl⟩
  have stored : (⟨r * (config.group i).stride + k,
      (tables.blockTables i).gpu (idxMapping r * (config.group i).stride + k)⟩ : Store Nat Nat) ∈
      tables.gatherStores config idxMapping numReqs i r := by
    rw [gatherStores]
    rw [if_neg (not_le.mpr inBatch)]
    exact List.mem_map.mpr ⟨k, (mem_blockLoop (by omega)).mpr ⟨Nat.zero_le _, counted⟩, rfl⟩
  apply Launched.agreed gathered (List.mem_range.mpr (inBatch.trans_le padded)) stored
  intro other _ store member address
  obtain ⟨offset, below, isAddress, isValue⟩ := own other store member
  obtain ⟨rfl, rfl⟩ := flat_inj below inRow (isAddress.symm.trans address)
  exact isValue inBatch

/-- How a batch is laid out: the token ranges of its requests follow each other. -/
structure TokenRanges (queryStartLoc : Nat → Nat) (numReqs : Nat) : Prop where
  mono : ∀ r < numReqs, queryStartLoc r ≤ queryStartLoc (r + 1)

theorem TokenRanges.le {queryStartLoc : Nat → Nat}
    (ranges : TokenRanges queryStartLoc numReqs) {first second : Nat} (le : first ≤ second)
    (inBatch : second ≤ numReqs) : queryStartLoc first ≤ queryStartLoc second := by
  induction second with
  | zero => rw [Nat.le_zero.mp le]
  | succ second ih =>
    rcases Nat.le_succ_iff.mp le with below | same
    · exact (ih below (by omega)).trans (ranges.mono second (by omega))
    · rw [same]

theorem TokenRanges.unique {queryStartLoc : Nat → Nat} {numReqs : Nat}
    (ranges : TokenRanges queryStartLoc numReqs) {first second token : Nat} (inFirst : first < numReqs)
    (inSecond : second < numReqs) (aboveFirst : queryStartLoc first ≤ token)
    (belowFirst : token < queryStartLoc (first + 1)) (aboveSecond : queryStartLoc second ≤ token)
    (belowSecond : token < queryStartLoc (second + 1)) : first = second := by
  rcases lt_trichotomy first second with below | same | above
  · have le := ranges.le (show first + 1 ≤ second by omega) (by omega)
    omega
  · exact same
  · have le := ranges.le (show second + 1 ≤ first by omega) (by omega)
    omega

theorem SlotsComputed.slot {idxMapping queryStartLoc pos : Nat → Nat}
    {before after : Buffer Nat Int}
    (computed : tables.SlotsComputed config idxMapping queryStartLoc pos numReqs i before after)
    (ranges : TokenRanges queryStartLoc numReqs) {r token : Nat} (inBatch : r < numReqs)
    (above : queryStartLoc r ≤ token) (below : token < queryStartLoc (r + 1)) :
    after token = tables.computedSlot config i (idxMapping r) (pos token) := by
  have stored : (⟨token, tables.computedSlot config i (idxMapping r) (pos token)⟩ : Store Nat Int) ∈
      tables.slotMappingStores config idxMapping queryStartLoc pos numReqs i r := by
    rw [slotMappingStores, if_neg inBatch.ne]
    exact List.mem_map.mpr ⟨token, (mem_blockLoop (by omega)).mpr ⟨above, below⟩, rfl⟩
  apply Launched.agreed computed (List.mem_range.mpr (by omega)) stored
  intro other inGrid store member address
  have otherLe : other ≤ numReqs := Nat.lt_succ_iff.mp (List.mem_range.mp inGrid)
  rw [slotMappingStores] at member
  split at member
  next isLast =>
    obtain ⟨offset, inLoop, rfl⟩ := List.mem_map.mp member
    obtain ⟨atLeast, -⟩ := (mem_blockLoop (by omega)).mp inLoop
    have isToken : offset = token := address
    have le := ranges.le (show r + 1 ≤ numReqs by omega) le_rfl
    rw [isLast] at atLeast
    omega
  next notLast =>
    obtain ⟨offset, inLoop, rfl⟩ := List.mem_map.mp member
    obtain ⟨aboveOther, belowOther⟩ := (mem_blockLoop (by omega)).mp inLoop
    have isToken : offset = token := address
    rw [isToken] at aboveOther belowOther ⊢
    rw [ranges.unique (by omega) inBatch aboveOther belowOther above below]

/-- Attention finds a position at its offset in the block the row was given for it. -/
theorem Mirrors.computedSlot_eq {blockIds : Nat → Nat → List Nat}
    (mirrors : Mirrors config tables blockIds) {row position b : Nat}
    (inGroups : i < config.numKvCacheGroups) (inRows : row < config.maxNumReqs)
    (isReplicated : (config.group i).groupCpSize = 1)
    (allocated : (blockIds i row)[position / (config.group i).blockSize]? = some b) :
    tables.computedSlot config i row position =
      ((b * (config.group i).blockSize + position % (config.group i).blockSize : Nat) : Int) := by
  set group := config.group i with isGroup
  have isEntry : (group.kernelBlockIds (blockIds i row))[position / group.kernelBlockSize]? =
      some (b * group.blocksPerKvBlock + position / group.kernelBlockSize % group.blocksPerKvBlock) := by
    rw [group.getElem?_kernelBlockIds, Nat.div_div_eq_div_mul, Nat.mul_comm group.kernelBlockSize,
      group.blocksPerKvBlock_mul, allocated]
    rfl
  have holds := mirrors.entry i inGroups row inRows _ _ isEntry
  -- the part of the block and the offset in the part make the offset in the block
  have offset : position / group.kernelBlockSize % group.blocksPerKvBlock * group.kernelBlockSize +
      position % group.kernelBlockSize = position % group.blockSize := by
    rw [← group.blocksPerKvBlock_mul, Nat.mul_comm group.blocksPerKvBlock, Nat.mod_mul, Nat.mul_comm,
      Nat.add_comm]
  have slot : (b * group.blocksPerKvBlock + position / group.kernelBlockSize % group.blocksPerKvBlock) *
      group.kernelBlockSize + position % group.kernelBlockSize =
        b * group.blockSize + position % group.blockSize := by
    rw [Nat.add_mul, Nat.mul_assoc, group.blocksPerKvBlock_mul, Nat.add_assoc, offset]
  rw [computedSlot]
  rw [← isGroup, isReplicated, Nat.mul_one, holds, slot, if_pos rfl, ite_self]

end BlockTables

end DeepSpark
