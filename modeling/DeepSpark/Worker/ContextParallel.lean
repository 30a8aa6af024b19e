import DeepSpark.Lib.RoundRobin
import DeepSpark.Worker.BlockTables

/-!
Decode context parallelism: `v1/worker/gpu/cp_utils.py` and the slots of a sharded group.

Owns the kernel of the local sequence lengths, the slots a rank gives to the positions of
a sequence, and that both follow one deal of the positions: the `k`-th position of a rank
is stored at local offset `k`.
-/

namespace DeepSpark

open Lib

/-! ## The local sequence lengths -/

def dcpLocalSeqLen (dcpSize dcpRank cpInterleave seqLen : Nat) : Nat :=
  let rounds := seqLen / (dcpSize * cpInterleave)
  let remainder := seqLen % (dcpSize * cpInterleave)
  let remainder := max (remainder - dcpRank * cpInterleave) 0
  let remainder := min remainder cpInterleave
  rounds * cpInterleave + remainder

/-- `_dcp_local_seq_lens_kernel`: what one program stores. -/
def dcpLocalSeqLensStores (seqLens : Nat → Nat) (dcpSize dcpRank cpInterleave numReqs maxNumReqs pid : Nat) :
    List (Store Nat Nat) :=
  (List.range 128).filterMap fun lane =>
    let block := pid * 128 + lane
    if block < maxNumReqs then
      some ⟨block, if block < numReqs then dcpLocalSeqLen dcpSize dcpRank cpInterleave (seqLens block) else 0⟩
    else none

def PreparedDcpLocalSeqLens (seqLens : Nat → Nat) (dcpSize dcpRank cpInterleave numReqs maxNumReqs : Nat)
    (before after : Buffer Nat Nat) : Prop :=
  if dcpSize = 1 then after = before
  else Launched (List.range (cdiv maxNumReqs 128))
    (dcpLocalSeqLensStores seqLens dcpSize dcpRank cpInterleave numReqs maxNumReqs) before after

theorem dcpLocalSeqLen_eq (dcpSize dcpRank cpInterleave seqLen : Nat) :
    dcpLocalSeqLen dcpSize dcpRank cpInterleave seqLen = dealtBefore dcpSize cpInterleave dcpRank seqLen := by
  rw [dcpLocalSeqLen, dealtBefore, Nat.max_zero]

theorem dcpLocalSeqLensStores_content {seqLens : Nat → Nat} {dcpSize dcpRank cpInterleave numReqs maxNumReqs pid : Nat}
    {store : Store Nat Nat}
    (member : store ∈ dcpLocalSeqLensStores seqLens dcpSize dcpRank cpInterleave numReqs maxNumReqs pid) :
    store.value = if store.address < numReqs then
      dcpLocalSeqLen dcpSize dcpRank cpInterleave (seqLens store.address) else 0 := by
  obtain ⟨lane, -, found⟩ := List.mem_filterMap.mp member
  dsimp only at found
  split at found
  next =>
    cases found
    rfl
  next => cases found

/-- After the kernel a request has its local length, and the rows behind the batch have none. -/
theorem launched_dcpLocalSeqLens {seqLens : Nat → Nat} {dcpSize dcpRank cpInterleave numReqs maxNumReqs : Nat}
    {before after : Buffer Nat Nat} (launched : Launched (List.range (cdiv maxNumReqs 128))
      (dcpLocalSeqLensStores seqLens dcpSize dcpRank cpInterleave numReqs maxNumReqs) before after)
    {row : Nat} (inRoom : row < maxNumReqs) :
    after row = if row < numReqs then dcpLocalSeqLen dcpSize dcpRank cpInterleave (seqLens row) else 0 := by
  have inGrid : row / 128 ∈ List.range (cdiv maxNumReqs 128) := by
    rw [List.mem_range, lt_cdiv_iff (by omega)]
    omega
  have isRow : row / 128 * 128 + row % 128 = row := Nat.div_add_mod' row 128
  have member : (⟨row, if row < numReqs then dcpLocalSeqLen dcpSize dcpRank cpInterleave (seqLens row) else 0⟩ :
      Store Nat Nat) ∈ dcpLocalSeqLensStores seqLens dcpSize dcpRank cpInterleave numReqs maxNumReqs (row / 128) := by
    apply List.mem_filterMap.mpr
    refine ⟨row % 128, List.mem_range.mpr (Nat.mod_lt _ (by omega)), ?_⟩
    rw [isRow, if_pos inRoom]
  apply launched.reads _ inGrid member
  exact Agrees.of_content (fun row => if row < numReqs then
    dcpLocalSeqLen dcpSize dcpRank cpInterleave (seqLens row) else 0)
    fun _ _ _ stored => dcpLocalSeqLensStores_content stored

/-! ## The slots of a rank -/

def TablesConfig.onRank (config : TablesConfig) (rank : Nat) : TablesConfig := { config with cpRank := rank }

theorem natCast_ne_padSlotId (slot : Nat) : ((slot : Nat) : Int) ≠ padSlotId := by
  rw [padSlotId]
  omega

theorem existsUnique_rank (config : TablesConfig) {i : Nat} (positive : 0 < config.cpSize)
    (sharded : (config.group i).groupCpSize = config.cpSize) (tables : Nat → BlockTables) (reqStateIdx position : Nat) :
    ∃! rank, rank < config.cpSize ∧
      (tables rank).computedSlot (config.onRank rank) i reqStateIdx position ≠ padSlotId := by
  by_cases single : config.cpSize = 1
  · refine ⟨0, ⟨by omega, ?_⟩, fun rank isRank => by omega⟩
    rw [BlockTables.computedSlot, if_pos (show (config.onRank 0).cpSize = 1 from single)]
    exact natCast_ne_padSlotId _
  · have ranked : ∀ rank, (tables rank).computedSlot (config.onRank rank) i reqStateIdx position ≠ padSlotId ↔
        position % ((config.group i).kernelBlockSize * config.cpSize) / config.cpInterleave % config.cpSize = rank := by
      intro rank
      have ofRank : ((config.onRank rank).group i).groupCpSize = (config.onRank rank).cpSize := sharded
      have several : ¬ (config.onRank rank).cpSize = 1 := single
      rw [BlockTables.computedSlot, ofRank, if_neg several, if_neg several]
      extract_lets
      split
      next isLocal => exact iff_of_true (natCast_ne_padSlotId _) isLocal
      next notLocal => exact iff_of_false (fun notPad => notPad rfl) notLocal
    refine ⟨position % ((config.group i).kernelBlockSize * config.cpSize) / config.cpInterleave % config.cpSize,
      ⟨Nat.mod_lt _ positive, (ranked _).mpr rfl⟩, fun rank isRank => ((ranked rank).mp isRank.2).symm⟩

namespace BlockTables

variable (config : TablesConfig) (tables : BlockTables) (i row : Nat)

def entry (index : Nat) : Nat := (tables.blockTables i).gpu (row * (config.group i).stride + index)

def rankSlot (rank position : Nat) : Int := tables.computedSlot (config.onRank rank) i row position

def localPositions (rank length : Nat) : List Nat :=
  (List.range length).filter fun position => decide (tables.rankSlot config i row rank position ≠ padSlotId)

variable {config tables i row}

/-- In a replicated group every rank gives every position its place in its block. -/
theorem rankSlot_replicated (isReplicated : (config.group i).groupCpSize = 1) (rank position : Nat) :
    tables.rankSlot config i row rank position =
      ((tables.entry config i row (position / (config.group i).kernelBlockSize) *
        (config.group i).kernelBlockSize + position % (config.group i).kernelBlockSize : Nat) : Int) := by
  have isGroup : ((config.onRank rank).group i).groupCpSize = 1 := isReplicated
  rw [rankSlot, computedSlot, isGroup]
  simp only [Nat.mul_one, if_true, ite_self]
  rfl

structure Sharded (config : TablesConfig) (i : Nat) : Prop where
  isSharded : (config.group i).groupCpSize = config.cpSize
  someRank : 0 < config.cpSize
  divides : config.cpInterleave ∣ (config.group i).kernelBlockSize

theorem Sharded.someRun (sharded : Sharded config i) : 0 < config.cpInterleave :=
  Nat.pos_of_dvd_of_pos sharded.divides (config.group i).kernelBlockSize_pos

theorem Sharded.rankSlot_virtual (sharded : Sharded config i) (rank position : Nat) :
    tables.rankSlot config i row rank position =
      let blockSize := (config.group i).kernelBlockSize
      let offset := position % (blockSize * config.cpSize)
      let blockNumber := tables.entry config i row (position / (blockSize * config.cpSize))
      if config.cpSize = 1 then ((blockNumber * blockSize + offset : Nat) : Int)
      else if dealtTo config.cpSize config.cpInterleave offset = rank then
        ((blockNumber * blockSize + (offset / (config.cpInterleave * config.cpSize) * config.cpInterleave +
          offset % config.cpInterleave) : Nat) : Int)
      else padSlotId := by
  have isGroup : ((config.onRank rank).group i).groupCpSize = config.cpSize := sharded.isSharded
  rw [rankSlot, computedSlot, isGroup]
  by_cases single : config.cpSize = 1
  · exact (if_pos single).trans (if_pos single).symm
  · exact (if_neg single).trans ((if_neg single).trans (if_neg single).symm)

/-- A rank stores the positions dealt to it, the one with `k` before it at local offset `k`
of the blocks of the row, in the block that covers the position. -/
theorem Sharded.rankSlot_eq (sharded : Sharded config i) {rank position : Nat} (isRank : rank < config.cpSize) :
    (dealtTo config.cpSize config.cpInterleave position = rank →
      dealtBefore config.cpSize config.cpInterleave rank position / (config.group i).kernelBlockSize =
          position / ((config.group i).kernelBlockSize * config.cpSize) ∧
        tables.rankSlot config i row rank position =
          ((tables.entry config i row (position / ((config.group i).kernelBlockSize * config.cpSize)) *
              (config.group i).kernelBlockSize +
            dealtBefore config.cpSize config.cpInterleave rank position % (config.group i).kernelBlockSize : Nat) :
            Int)) ∧
      (dealtTo config.cpSize config.cpInterleave position ≠ rank →
        tables.rankSlot config i row rank position = padSlotId) := by
  rw [sharded.rankSlot_virtual]
  dsimp only
  rw [dealtTo_block sharded.someRank (config.group i).kernelBlockSize_pos sharded.divides]
  constructor
  · intro own
    obtain ⟨isIndex, isOffset⟩ := dealtBefore_block isRank (config.group i).kernelBlockSize_pos sharded.divides own
    rw [if_pos own, isIndex, isOffset]
    refine ⟨rfl, ?_⟩
    split
    next single => rw [single, Nat.mul_one, Nat.mul_one, Nat.div_add_mod']
    next => rfl
  · intro foreign
    have notSingle : config.cpSize ≠ 1 := by
      intro single
      have below : dealtTo config.cpSize config.cpInterleave position < config.cpSize := dealtTo_lt sharded.someRank
      omega
    rw [if_neg notSingle, if_neg foreign]

theorem Sharded.isLocal_iff (sharded : Sharded config i) {rank position : Nat} (isRank : rank < config.cpSize) :
    tables.rankSlot config i row rank position ≠ padSlotId ↔
      dealtTo config.cpSize config.cpInterleave position = rank := by
  obtain ⟨ofOwn, ofForeign⟩ := @Sharded.rankSlot_eq config tables i row sharded rank position isRank
  constructor
  · intro isLocal
    by_contra foreign
    exact isLocal (ofForeign foreign)
  · intro own
    rw [(ofOwn own).2]
    exact natCast_ne_padSlotId _

theorem Sharded.length_localPositions (sharded : Sharded config i) {rank : Nat} (isRank : rank < config.cpSize)
    (length : Nat) : (tables.localPositions config i row rank length).length =
      dealtBefore config.cpSize config.cpInterleave rank length := by
  rw [localPositions, ← countP_dealtTo isRank sharded.someRun, List.countP_eq_length_filter]
  congr 1
  apply List.filter_congr
  intro position _
  simp only [sharded.isLocal_iff isRank]

/-- How the ranks of a context parallel group share the positions below `length` of a row. -/
structure SharesPositions (config : TablesConfig) (tables : BlockTables) (i row length : Nat) : Prop where
  /-- One rank stores a position. -/
  oneRank : ∀ position < length, ∃! rank, rank < config.cpSize ∧
    tables.rankSlot config i row rank position ≠ padSlotId
  /-- A rank stores a position inside the block that covers it. -/
  inBlock : ∀ rank < config.cpSize, ∀ position < length,
    tables.rankSlot config i row rank position ≠ padSlotId →
      let blockSize := (config.group i).kernelBlockSize
      let block := tables.entry config i row (position / (blockSize * config.cpSize))
      ((block * blockSize : Nat) : Int) ≤ tables.rankSlot config i row rank position ∧
        tables.rankSlot config i row rank position < ((block * blockSize + blockSize : Nat) : Int)
  /-- The slots of a rank are distinct. -/
  distinct : ∀ rank < config.cpSize, ∀ position < length, ∀ other < length,
    tables.rankSlot config i row rank position ≠ padSlotId →
      tables.rankSlot config i row rank position = tables.rankSlot config i row rank other → position = other
  /-- The kernel of the local lengths counts the positions of a rank. -/
  counted : ∀ rank < config.cpSize, ∀ seqLens numReqs maxNumReqs before after,
    Launched (List.range (cdiv maxNumReqs 128))
      (dcpLocalSeqLensStores seqLens config.cpSize rank config.cpInterleave numReqs maxNumReqs) before after →
      ∀ batchIdx < numReqs, batchIdx < maxNumReqs → seqLens batchIdx = length →
        after batchIdx = (tables.localPositions config i row rank length).length
  /-- With several ranks the buffer that is prepared holds these counts. -/
  prepared : config.cpSize ≠ 1 → ∀ rank < config.cpSize, ∀ seqLens numReqs maxNumReqs before after,
    PreparedDcpLocalSeqLens seqLens config.cpSize rank config.cpInterleave numReqs maxNumReqs before after →
      ∀ batchIdx < numReqs, batchIdx < maxNumReqs → seqLens batchIdx = length →
        after batchIdx = (tables.localPositions config i row rank length).length
  /-- The positions of a rank fill its local offsets in order, block by block. -/
  inOrder : ∀ rank < config.cpSize, ∀ position < length,
    tables.rankSlot config i row rank position ≠ padSlotId →
      let offset := (tables.localPositions config i row rank position).length
      offset / (config.group i).kernelBlockSize =
          position / ((config.group i).kernelBlockSize * config.cpSize) ∧
        tables.rankSlot config i row rank position =
          ((tables.entry config i row (offset / (config.group i).kernelBlockSize) *
            (config.group i).kernelBlockSize + offset % (config.group i).kernelBlockSize : Nat) : Int)

theorem Sharded.counted (sharded : Sharded config i) {rank numReqs maxNumReqs : Nat} (isRank : rank < config.cpSize)
    {seqLens : Nat → Nat} {before after : Buffer Nat Nat}
    (launched : Launched (List.range (cdiv maxNumReqs 128))
      (dcpLocalSeqLensStores seqLens config.cpSize rank config.cpInterleave numReqs maxNumReqs) before after)
    {batchIdx : Nat} (inBatch : batchIdx < numReqs) (inRoom : batchIdx < maxNumReqs) :
    after batchIdx = (tables.localPositions config i row rank (seqLens batchIdx)).length := by
  rw [launched_dcpLocalSeqLens launched inRoom, if_pos inBatch, dcpLocalSeqLen_eq, sharded.length_localPositions isRank]

theorem Sharded.shares (sharded : Sharded config i) {length : Nat}
    (injective : ∀ first second, first * ((config.group i).kernelBlockSize * config.cpSize) < length →
      second * ((config.group i).kernelBlockSize * config.cpSize) < length →
      tables.entry config i row first = tables.entry config i row second → first = second) :
    SharesPositions config tables i row length where
  oneRank position _ := existsUnique_rank config sharded.someRank sharded.isSharded (fun _ => tables) row position
  inBlock := by
    intro rank isRank position _ isLocal
    have inBlock := Nat.mod_lt (dealtBefore config.cpSize config.cpInterleave rank position)
      (config.group i).kernelBlockSize_pos
    rw [((sharded.rankSlot_eq isRank).1 ((sharded.isLocal_iff isRank).mp isLocal)).2]
    exact ⟨Int.ofNat_le.mpr (Nat.le_add_right _ _), Int.ofNat_lt.mpr (Nat.add_lt_add_left inBlock _)⟩
  distinct := by
    intro rank isRank position inRow other otherInRow isLocal same
    have own := (sharded.isLocal_iff isRank).mp isLocal
    have otherOwn := (sharded.isLocal_iff isRank).mp (same ▸ isLocal)
    obtain ⟨isIndex, isSlot⟩ := (@Sharded.rankSlot_eq config tables i row sharded rank position isRank).1 own
    obtain ⟨isOtherIndex, isOtherSlot⟩ := (@Sharded.rankSlot_eq config tables i row sharded rank other isRank).1 otherOwn
    rw [isSlot, isOtherSlot, Int.natCast_inj] at same
    have positive := (config.group i).kernelBlockSize_pos
    obtain ⟨sameBlock, sameOffset⟩ := flat_inj (Nat.mod_lt _ positive) (Nat.mod_lt _ positive) same
    have sameIndex := injective _ _ ((Nat.div_mul_le_self _ _).trans_lt inRow)
      ((Nat.div_mul_le_self _ _).trans_lt otherInRow) sameBlock
    rw [← isIndex, ← isOtherIndex] at sameIndex
    apply dealtBefore_inj isRank sharded.someRun own otherOwn
    rw [← Nat.div_add_mod' (dealtBefore _ _ _ position) (config.group i).kernelBlockSize, sameIndex, sameOffset,
      Nat.div_add_mod']
  counted := by
    intro rank isRank seqLens numReqs maxNumReqs before after launched batchIdx inBatch inRoom isLength
    exact isLength ▸ sharded.counted isRank launched inBatch inRoom
  prepared := by
    intro several rank isRank seqLens numReqs maxNumReqs before after prepared batchIdx inBatch inRoom isLength
    rw [PreparedDcpLocalSeqLens, if_neg several] at prepared
    exact isLength ▸ sharded.counted isRank prepared inBatch inRoom
  inOrder := by
    intro rank isRank position _ isLocal
    obtain ⟨isIndex, isSlot⟩ := (sharded.rankSlot_eq isRank).1 ((sharded.isLocal_iff isRank).mp isLocal)
    dsimp only
    rw [sharded.length_localPositions isRank, isIndex, isSlot]
    exact ⟨rfl, rfl⟩

/-- In a sharded group the ranks share the positions as the local lengths count them, in a
replicated group every rank stores every position. -/
theorem contextParallel_slots (someRank : 0 < config.cpSize)
    (divides : config.cpInterleave ∣ (config.group i).kernelBlockSize) (length : Nat)
    (injective : ∀ first second, first * ((config.group i).kernelBlockSize * (config.group i).groupCpSize) < length →
      second * ((config.group i).kernelBlockSize * (config.group i).groupCpSize) < length →
      tables.entry config i row first = tables.entry config i row second → first = second) :
    ((config.group i).groupCpSize = config.cpSize → SharesPositions config tables i row length) ∧
      ((config.group i).groupCpSize = 1 → ∀ rank position, tables.rankSlot config i row rank position =
        ((tables.entry config i row (position / (config.group i).kernelBlockSize) *
          (config.group i).kernelBlockSize + position % (config.group i).kernelBlockSize : Nat) : Int)) := by
  refine ⟨fun isSharded => ?_, rankSlot_replicated⟩
  exact Sharded.shares ⟨isSharded, someRank, divides⟩ fun first second isFirst isSecond =>
    injective first second (isSharded ▸ isFirst) (isSharded ▸ isSecond)

/-- A sharded group of blocks of four tokens over two ranks in runs of two, and a replicated
one. -/
private def twoRanks : TablesConfig where
  numKvCacheGroups := 2
  group i := ⟨4, 4, if i = 0 then 2 else 1, 4, by decide, by decide, by decide, by decide⟩
  maxNumReqs := 1
  maxNumBatchedTokens := 64
  cpSize := 2
  cpRank := 0
  cpInterleave := 2
  maxNumReqs_pos := by decide

private def countingTables : BlockTables := ⟨fun _ => ⟨fun address => address + 3, []⟩, fun _ _ => 4, fun _ _ => 4⟩

theorem contextParallel_slots_twoRanks :
    SharesPositions twoRanks countingTables 0 0 21 ∧ ∀ rank position,
      countingTables.rankSlot twoRanks 1 0 rank position =
        ((countingTables.entry twoRanks 1 0 (position / 4) * 4 + position % 4 : Nat) : Int) := by
  have injective : ∀ i first second, countingTables.entry twoRanks i 0 first = countingTables.entry twoRanks i 0 second →
      first = second := by
    intro i first second same
    exact Nat.add_left_cancel (Nat.add_right_cancel same)
  exact ⟨(contextParallel_slots (by decide) (by decide) 21 fun first second _ _ => injective 0 first second).1 rfl,
    (contextParallel_slots (by decide) (by decide) 21 fun first second _ _ => injective 1 first second).2 rfl⟩

end BlockTables

end DeepSpark
