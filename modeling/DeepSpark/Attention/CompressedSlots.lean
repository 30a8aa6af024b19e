import DeepSpark.Lib.RoundRobin
import DeepSpark.Worker.BlockTables

/-!
The slots of compressed entries: `v1/attention/backends/mla/compressor_utils.py`.

Owns the slot mapping of a batch, the local lengths of `get_dcp_local_seq_lens`, and that the steps of
a sequence give the entries of each rank the local offsets in order, as many as the lengths count.
-/

namespace DeepSpark

open Lib

/-! ## The local lengths -/

def dcpLocalLen (dcpSize cpKvCacheInterleaveSize : Nat) (seqLen : Int) (rankOffset : Nat) : Int :=
  let base := (seqLen.fdiv cpKvCacheInterleaveSize).fdiv dcpSize * cpKvCacheInterleaveSize
  let remainder := seqLen - base * dcpSize
  let remainder := min (max (remainder - rankOffset * cpKvCacheInterleaveSize) 0) cpKvCacheInterleaveSize
  base + remainder

/-- `get_dcp_local_seq_lens`: a row for each request, of the ranks that are asked for. -/
def getDcpLocalSeqLens (seqLens : List Int) (dcpSize : Nat) (dcpRank : Option Nat) (cpKvCacheInterleaveSize : Nat) :
    List (List Int) :=
  let rankOffsets := match dcpRank with
    | none => List.range dcpSize
    | some rank => [rank]
  seqLens.map fun seqLen => rankOffsets.map (dcpLocalLen dcpSize cpKvCacheInterleaveSize seqLen)

theorem dcpLocalLen_eq {dcpSize run : Nat} (someRun : 0 < run) (seqLen rank : Nat) :
    dcpLocalLen dcpSize run seqLen rank = dealtBefore dcpSize run rank seqLen := by
  have isQuotient : ((seqLen : Int).fdiv run).fdiv dcpSize = (seqLen / (dcpSize * run) : Nat) := by
    rw [Int.fdiv_eq_ediv_of_nonneg _ (Int.natCast_nonneg run), Int.fdiv_eq_ediv_of_nonneg _ (Int.natCast_nonneg _),
      ← Int.natCast_ediv, ← Int.natCast_ediv, Nat.div_div_eq_div_mul, Nat.mul_comm run]
  have split := Nat.div_add_mod seqLen (dcpSize * run)
  have isTotal : ((seqLen / (dcpSize * run) : Nat) : Int) * run * dcpSize =
      ((dcpSize * run * (seqLen / (dcpSize * run)) : Nat) : Int) := by
    push_cast
    ring
  rw [dcpLocalLen, dealtBefore, isQuotient, isTotal]
  generalize dcpSize * run * (seqLen / (dcpSize * run)) = total at *
  omega

/-! ## The slot mapping -/

/-- What `get_compressed_slot_mapping` is called with in every step: runs of entries divide the
storage blocks. -/
structure CompressedCache where
  compressRatio : Nat
  blockSize : Nat
  dcpWorldSize : Nat
  cpKvCacheInterleaveSize : Nat
  compressRatio_pos : 0 < compressRatio
  blockSize_pos : 0 < blockSize
  dcpWorldSize_pos : 0 < dcpWorldSize
  divides : cpKvCacheInterleaveSize ∣ blockSize

structure CompressedBatch where
  numReqs : Nat
  queryStartLoc : Nat → Nat
  seqLens : Nat → Nat
  blockTable : Buffer Nat Nat
  blockTableStride : Nat

namespace CompressedCache

variable (cache : CompressedCache) (dcpRank : Nat)

/-- Where the kernel puts an entry: whether it is of this rank, its index in the row of the table
and its offset in the block. -/
def place (posAfterCompress : Nat) : Bool × Nat × Nat :=
  if cache.dcpWorldSize = 1 then
    (true, posAfterCompress / cache.blockSize, posAfterCompress % cache.blockSize)
  else
    let virtualBlockSize := cache.blockSize * cache.dcpWorldSize
    let blockIds := posAfterCompress / virtualBlockSize
    let virtualBlockOffsets := posAfterCompress - blockIds * virtualBlockSize
    (decide (virtualBlockOffsets / cache.cpKvCacheInterleaveSize % cache.dcpWorldSize = dcpRank), blockIds,
      virtualBlockOffsets / (cache.dcpWorldSize * cache.cpKvCacheInterleaveSize) * cache.cpKvCacheInterleaveSize +
        virtualBlockOffsets % cache.cpKvCacheInterleaveSize)

def slotId (blockNumbers : Nat → Nat) (pos : Nat) : Int :=
  let (isLocal, blockIds, blockOffsets) := cache.place dcpRank (pos / cache.compressRatio)
  if (pos + 1) % cache.compressRatio = 0 ∧ isLocal then
    ((blockNumbers blockIds * cache.blockSize + blockOffsets : Nat) : Int)
  else padSlotId

/-- `_compressed_slot_mapping_kernel`: what one program stores. -/
def slotStores (batch : CompressedBatch) (batchIdx : Nat) : List (Store Nat Int) :=
  let queryStart := batch.queryStartLoc batchIdx
  let queryLen := batch.queryStartLoc (batchIdx + 1) - queryStart
  let startPos := batch.seqLens batchIdx - queryLen
  (blockLoop 0 queryLen 1024).map fun offset =>
    ⟨queryStart + offset, cache.slotId dcpRank
      (fun index => batch.blockTable (batchIdx * batch.blockTableStride + index)) (startPos + offset)⟩

/-- `get_compressed_slot_mapping`: the kernel over a tensor that is filled with -1. -/
def GotSlotMapping (batch : CompressedBatch) (slotMapping : Buffer Nat Int) : Prop :=
  Launched (List.range batch.numReqs) (cache.slotStores dcpRank batch) (fun _ => padSlotId) slotMapping

variable {cache dcpRank}

theorem slotId_eq (isRank : dcpRank < cache.dcpWorldSize) (blockNumbers : Nat → Nat) {pos : Nat}
    (isValid : (pos + 1) % cache.compressRatio = 0) :
    cache.slotId dcpRank blockNumbers pos =
      let entry := pos / cache.compressRatio
      let before := dealtBefore cache.dcpWorldSize cache.cpKvCacheInterleaveSize dcpRank entry
      if dealtTo cache.dcpWorldSize cache.cpKvCacheInterleaveSize entry = dcpRank then
        ((blockNumbers (before / cache.blockSize) * cache.blockSize + before % cache.blockSize : Nat) : Int)
      else padSlotId := by
  have isPlace := fun own => @dealtBefore_block _ _ _ (pos / cache.compressRatio) _ isRank cache.blockSize_pos
    cache.divides own
  have sameRank := dealtTo_block cache.dcpWorldSize_pos cache.blockSize_pos cache.divides
    (pos / cache.compressRatio)
  have isOffset : pos / cache.compressRatio - pos / cache.compressRatio / (cache.blockSize * cache.dcpWorldSize) *
      (cache.blockSize * cache.dcpWorldSize) =
        pos / cache.compressRatio % (cache.blockSize * cache.dcpWorldSize) := by
    rw [Nat.mod_eq_sub_div_mul]
  rw [slotId, place]
  dsimp only
  rw [isOffset]
  by_cases single : cache.dcpWorldSize = 1
  · have own : dealtTo cache.dcpWorldSize cache.cpKvCacheInterleaveSize (pos / cache.compressRatio) = dcpRank := by
      have below : dealtTo cache.dcpWorldSize cache.cpKvCacheInterleaveSize (pos / cache.compressRatio) <
        cache.dcpWorldSize := dealtTo_lt cache.dcpWorldSize_pos
      omega
    obtain ⟨isIndex, isRest⟩ := isPlace own
    rw [single, Nat.mul_one, Nat.mul_one, Nat.div_add_mod'] at isRest
    rw [if_pos own, if_pos single, if_pos ⟨isValid, rfl⟩, isIndex, single, isRest, Nat.mul_one]
  · rw [if_neg single]
    by_cases own : dealtTo cache.dcpWorldSize cache.cpKvCacheInterleaveSize (pos / cache.compressRatio) = dcpRank
    · obtain ⟨isIndex, isRest⟩ := isPlace own
      rw [if_pos own, if_pos ⟨isValid, decide_eq_true (sameRank.trans own)⟩, isIndex, isRest,
        Nat.mul_comm cache.dcpWorldSize cache.cpKvCacheInterleaveSize]
    · rw [if_neg own, if_neg fun isLocal => own (sameRank.symm.trans (of_decide_eq_true isLocal.2))]

theorem slotId_congr {blockNumbers others : Nat → Nat} {pos : Nat}
    (same : blockNumbers (pos / cache.compressRatio / (cache.blockSize * cache.dcpWorldSize)) =
      others (pos / cache.compressRatio / (cache.blockSize * cache.dcpWorldSize))) :
    cache.slotId dcpRank blockNumbers pos = cache.slotId dcpRank others pos := by
  have isIndex : (cache.place dcpRank (pos / cache.compressRatio)).2.1 =
      pos / cache.compressRatio / (cache.blockSize * cache.dcpWorldSize) := by
    rw [place]
    split
    next single => rw [single, Nat.mul_one]
    next => rfl
  rw [slotId, slotId]
  dsimp only
  rw [isIndex, same]

theorem slotId_of_not_last {blockNumbers : Nat → Nat} {pos : Nat} (notLast : (pos + 1) % cache.compressRatio ≠ 0) :
    cache.slotId dcpRank blockNumbers pos = padSlotId :=
  if_neg fun valid => notLast valid.1

theorem GotSlotMapping.token {batch : CompressedBatch} {slotMapping : Buffer Nat Int}
    (got : cache.GotSlotMapping dcpRank batch slotMapping)
    (ranges : BlockTables.TokenRanges batch.queryStartLoc batch.numReqs) {row offset : Nat}
    (inBatch : row < batch.numReqs)
    (inQuery : offset < batch.queryStartLoc (row + 1) - batch.queryStartLoc row) :
    slotMapping (batch.queryStartLoc row + offset) = cache.slotId dcpRank
      (fun index => batch.blockTable (row * batch.blockTableStride + index))
      (batch.seqLens row - (batch.queryStartLoc (row + 1) - batch.queryStartLoc row) + offset) := by
  have owned : Owned (List.range batch.numReqs) (cache.slotStores dcpRank batch) fun program token =>
      program < batch.numReqs ∧ batch.queryStartLoc program ≤ token ∧
        token < batch.queryStartLoc (program + 1) := by
    constructor
    · intro program inGrid store member
      obtain ⟨lane, inLoop, rfl⟩ := List.mem_map.mp member
      have below := ((mem_blockLoop (by omega)).mp inLoop).2
      refine ⟨List.mem_range.mp inGrid, Nat.le_add_right _ _, ?_⟩
      show batch.queryStartLoc program + lane < _
      omega
    · intro program _ other _ token own otherOwn
      exact ranges.unique own.1 otherOwn.1 own.2.1 own.2.2 otherOwn.2.1 otherOwn.2.2
  have inLoop : offset ∈ blockLoop 0 (batch.queryStartLoc (row + 1) - batch.queryStartLoc row) 1024 :=
    (mem_blockLoop (by omega)).mpr ⟨Nat.zero_le _, inQuery⟩
  apply got.holds owned (List.mem_range.mpr inBatch) (List.mem_map.mpr ⟨offset, inLoop, rfl⟩)
  intro other stored same
  obtain ⟨lane, -, rfl⟩ := List.mem_map.mp stored
  rw [Nat.add_left_cancel same]

end CompressedCache

/-! ## The steps of a sequence -/

/-- A step of a sequence: the batch, the row of the sequence in it, and the slot mapping on each rank. -/
structure SlotStep where
  batch : CompressedBatch
  row : Nat
  slotMapping : Nat → Buffer Nat Int

namespace SlotStep

variable (step : SlotStep)

def queryLen : Nat := step.batch.queryStartLoc (step.row + 1) - step.batch.queryStartLoc step.row

def seqLen : Nat := step.batch.seqLens step.row

def startPos : Nat := step.seqLen - step.queryLen

def slot (rank pos : Nat) : Int := step.slotMapping rank (step.batch.queryStartLoc step.row + (pos - step.startPos))

/-- The step computes positions behind `length` of a sequence with the blocks `blockIds`. -/
structure Computes (cache : CompressedCache) (blockIds : Nat → Nat) (length : Nat) : Prop where
  ranges : BlockTables.TokenRanges step.batch.queryStartLoc step.batch.numReqs
  inBatch : step.row < step.batch.numReqs
  behind : step.seqLen = length + step.queryLen
  blocks : ∀ index, index * (cache.blockSize * cache.dcpWorldSize) * cache.compressRatio < step.seqLen →
    step.batch.blockTable (step.row * step.batch.blockTableStride + index) = blockIds index
  got : ∀ rank < cache.dcpWorldSize, cache.GotSlotMapping rank step.batch (step.slotMapping rank)

def Covers (pos : Nat) : Prop := step.startPos ≤ pos ∧ pos < step.seqLen

end SlotStep

section

variable (cache : CompressedCache) (blockIds : Nat → Nat)

/-- The steps of a sequence up to a length: the positions of a step that are not kept are computed again. -/
inductive SlotRun : Nat → List SlotStep → Prop
  | start : SlotRun 0 []
  | step {length : Nat} {steps : List SlotStep} {kept : Nat} (run : SlotRun length steps) (step : SlotStep)
      (computes : step.Computes cache blockIds length) (keeps : kept ≤ step.queryLen) :
      SlotRun (length + kept) (steps ++ [step])

def localEntries (slots : Nat → Nat → Int) (rank count : Nat) : List Nat :=
  (List.range count).filter fun entry => decide (slots rank entry ≠ padSlotId)

/-- The slots of the entries of a sequence, by rank and entry. -/
structure EntrySlots (length : Nat) (steps : List SlotStep) (slots : Nat → Nat → Int) : Prop where
  /-- Each step gives the last token of an entry its slot, and other tokens none. -/
  written : ∀ step ∈ steps, ∀ rank < cache.dcpWorldSize, ∀ pos, step.Covers pos →
    step.slot rank pos =
      if (pos + 1) % cache.compressRatio = 0 then slots rank (pos / cache.compressRatio) else padSlotId
  /-- A step computes the last token of an entry. -/
  computed : ∀ entry < length / cache.compressRatio, ∃ step ∈ steps,
    step.Covers (entry * cache.compressRatio + (cache.compressRatio - 1))
  /-- One rank has the entry. -/
  oneRank : ∀ entry < length / cache.compressRatio, ∃! rank, rank < cache.dcpWorldSize ∧
    slots rank entry ≠ padSlotId
  /-- A rank stores an entry in the block that covers it. -/
  inBlock : ∀ rank < cache.dcpWorldSize, ∀ entry < length / cache.compressRatio, slots rank entry ≠ padSlotId →
    let block := blockIds (entry / (cache.blockSize * cache.dcpWorldSize))
    ((block * cache.blockSize : Nat) : Int) ≤ slots rank entry ∧
      slots rank entry < ((block * cache.blockSize + cache.blockSize : Nat) : Int)
  distinct : ∀ rank < cache.dcpWorldSize, ∀ entry < length / cache.compressRatio,
    ∀ other < length / cache.compressRatio, slots rank entry ≠ padSlotId → slots rank entry = slots rank other →
      entry = other
  /-- `get_dcp_local_seq_lens` counts the entries of a rank. -/
  counted : ∀ rank < cache.dcpWorldSize,
    getDcpLocalSeqLens [((length / cache.compressRatio : Nat) : Int)] cache.dcpWorldSize (some rank)
        cache.cpKvCacheInterleaveSize =
      [[((localEntries slots rank (length / cache.compressRatio)).length : Int)]]
  /-- The entries of a rank fill its local offsets in order. -/
  inOrder : ∀ rank < cache.dcpWorldSize, ∀ entry < length / cache.compressRatio, slots rank entry ≠ padSlotId →
    let offset := (localEntries slots rank entry).length
    slots rank entry =
      ((blockIds (offset / cache.blockSize) * cache.blockSize + offset % cache.blockSize : Nat) : Int)

variable {cache blockIds}

theorem SlotStep.Computes.slot {step : SlotStep} {length rank pos : Nat}
    (computes : step.Computes cache blockIds length) (isRank : rank < cache.dcpWorldSize) (covers : step.Covers pos) :
    step.slot rank pos = cache.slotId rank blockIds pos := by
  have starts : step.startPos = length := by rw [startPos, computes.behind, Nat.add_sub_cancel]
  have behind := computes.behind
  obtain ⟨above, below⟩ := covers
  have token := (computes.got rank isRank).token computes.ranges computes.inBatch
    (show pos - step.startPos < step.queryLen by omega)
  have isPos : step.startPos + (pos - step.startPos) = pos := Nat.add_sub_cancel' above
  rw [SlotStep.slot, token]
  show cache.slotId rank _ (step.startPos + (pos - step.startPos)) = _
  rw [isPos]
  apply CompressedCache.slotId_congr
  apply computes.blocks
  calc pos / cache.compressRatio / (cache.blockSize * cache.dcpWorldSize) * (cache.blockSize * cache.dcpWorldSize) *
        cache.compressRatio
      ≤ pos / cache.compressRatio * cache.compressRatio := Nat.mul_le_mul_right _ (Nat.div_mul_le_self _ _)
    _ ≤ pos := Nat.div_mul_le_self _ _
    _ < step.seqLen := below

theorem SlotRun.computes {length : Nat} {steps : List SlotStep} (run : SlotRun cache blockIds length steps) :
    ∀ step ∈ steps, ∃ before, step.Computes cache blockIds before := by
  induction run with
  | start => simp
  | step run last computes _ ih =>
    intro step member
    rcases List.mem_append.mp member with earlier | isLast
    · exact ih step earlier
    · rw [List.mem_singleton.mp isLast]
      exact ⟨_, computes⟩

theorem SlotRun.covers {length : Nat} {steps : List SlotStep} (run : SlotRun cache blockIds length steps) :
    ∀ pos < length, ∃ step ∈ steps, step.Covers pos := by
  induction run with
  | start => simp
  | @step length steps kept run last computes keeps ih =>
    intro pos below
    by_cases earlier : pos < length
    · obtain ⟨step, member, covers⟩ := ih pos earlier
      exact ⟨step, List.mem_append_left _ member, covers⟩
    · have behind := computes.behind
      refine ⟨last, List.mem_append_right _ (List.mem_singleton_self _), ?_, by omega⟩
      rw [SlotStep.startPos]
      omega

def entrySlot (cache : CompressedCache) (blockIds : Nat → Nat) (rank entry : Nat) : Int :=
  cache.slotId rank blockIds (entry * cache.compressRatio + (cache.compressRatio - 1))

section

variable {rank : Nat} (isRank : rank < cache.dcpWorldSize)

include isRank

theorem entrySlot_eq (entry : Nat) :
    entrySlot cache blockIds rank entry =
      let before := dealtBefore cache.dcpWorldSize cache.cpKvCacheInterleaveSize rank entry
      if dealtTo cache.dcpWorldSize cache.cpKvCacheInterleaveSize entry = rank then
        ((blockIds (before / cache.blockSize) * cache.blockSize + before % cache.blockSize : Nat) : Int)
      else padSlotId := by
  have inRatio : cache.compressRatio - 1 < cache.compressRatio := Nat.sub_lt cache.compressRatio_pos Nat.one_pos
  have isValid : (entry * cache.compressRatio + (cache.compressRatio - 1) + 1) % cache.compressRatio = 0 := by
    rw [Nat.add_assoc, Nat.sub_add_cancel cache.compressRatio_pos, Nat.add_mod_right, Nat.mul_mod_left]
  rw [entrySlot, CompressedCache.slotId_eq isRank blockIds isValid, div_of_place inRatio]

theorem entrySlot_ne_iff (entry : Nat) :
    entrySlot cache blockIds rank entry ≠ padSlotId ↔
      dealtTo cache.dcpWorldSize cache.cpKvCacheInterleaveSize entry = rank := by
  rw [entrySlot_eq isRank]
  dsimp only
  split
  next own => exact iff_of_true (by rw [padSlotId]; omega) own
  next foreign => exact iff_of_false (fun notPad => notPad rfl) foreign

theorem length_localEntries (count : Nat) :
    (localEntries (entrySlot cache blockIds) rank count).length =
      dealtBefore cache.dcpWorldSize cache.cpKvCacheInterleaveSize rank count := by
  rw [localEntries, ← countP_dealtTo isRank (Nat.pos_of_dvd_of_pos cache.divides cache.blockSize_pos),
    List.countP_eq_length_filter]
  simp only [entrySlot_ne_iff isRank]

end

/-- The compressed slots of a sequence, over every split into steps. -/
theorem compressedSlots_complete {length : Nat} {steps : List SlotStep} (run : SlotRun cache blockIds length steps)
    (injective : ∀ first second, first * (cache.blockSize * cache.dcpWorldSize) * cache.compressRatio < length →
      second * (cache.blockSize * cache.dcpWorldSize) * cache.compressRatio < length →
      blockIds first = blockIds second → first = second) :
    ∃ slots, EntrySlots cache blockIds length steps slots := by
  have someRun := Nat.pos_of_dvd_of_pos cache.divides cache.blockSize_pos
  have inRatio : cache.compressRatio - 1 < cache.compressRatio := Nat.sub_lt cache.compressRatio_pos Nat.one_pos
  have isLast : ∀ pos, (pos + 1) % cache.compressRatio = 0 →
      pos / cache.compressRatio * cache.compressRatio + (cache.compressRatio - 1) = pos := by
    intro pos isValid
    obtain ⟨entries, isProduct⟩ := Nat.dvd_of_mod_eq_zero isValid
    cases entries with
    | zero => omega
    | succ entries =>
      rw [Nat.mul_succ, Nat.mul_comm] at isProduct
      have isPos : pos = entries * cache.compressRatio + (cache.compressRatio - 1) := by omega
      rw [isPos, div_of_place inRatio]
  have inLength : ∀ entry < length / cache.compressRatio,
      entry * cache.compressRatio + (cache.compressRatio - 1) < length := by
    intro entry below
    have scaled := Nat.mul_le_mul_right cache.compressRatio (Nat.succ_le_of_lt below)
    have within := Nat.div_mul_le_self length cache.compressRatio
    rw [Nat.succ_mul] at scaled
    omega
  have blockBelow : ∀ entry < length / cache.compressRatio,
      entry / (cache.blockSize * cache.dcpWorldSize) * (cache.blockSize * cache.dcpWorldSize) * cache.compressRatio <
        length := by
    intro entry below
    have inEntry := Nat.mul_le_mul_right cache.compressRatio
      (Nat.div_mul_le_self entry (cache.blockSize * cache.dcpWorldSize))
    have within := inLength entry below
    omega
  have slotOf : ∀ rank < cache.dcpWorldSize, ∀ entry, entrySlot cache blockIds rank entry ≠ padSlotId →
      entrySlot cache blockIds rank entry =
        ((blockIds (entry / (cache.blockSize * cache.dcpWorldSize)) * cache.blockSize +
          dealtBefore cache.dcpWorldSize cache.cpKvCacheInterleaveSize rank entry % cache.blockSize : Nat) : Int) := by
    intro rank isRank entry isLocal
    have own := (entrySlot_ne_iff isRank entry).mp isLocal
    rw [entrySlot_eq isRank]
    rw [if_pos own, (dealtBefore_block isRank cache.blockSize_pos cache.divides own).1]
  refine ⟨entrySlot cache blockIds, ?_, ?_, ?_, ?_, ?_, ?_, ?_⟩
  · intro step member rank isRank pos covers
    obtain ⟨before, computes⟩ := run.computes step member
    rw [computes.slot isRank covers]
    split
    next isValid => rw [entrySlot, isLast pos isValid]
    next notValid => exact CompressedCache.slotId_of_not_last notValid
  · exact fun entry below => run.covers _ (inLength entry below)
  · intro entry _
    refine ⟨dealtTo cache.dcpWorldSize cache.cpKvCacheInterleaveSize entry,
      ⟨dealtTo_lt cache.dcpWorldSize_pos, (entrySlot_ne_iff (dealtTo_lt cache.dcpWorldSize_pos) entry).mpr rfl⟩,
      fun rank isLocal => ((entrySlot_ne_iff isLocal.1 entry).mp isLocal.2).symm⟩
  · intro rank isRank entry _ isLocal
    have inBlock := Nat.mod_lt (dealtBefore cache.dcpWorldSize cache.cpKvCacheInterleaveSize rank entry)
      cache.blockSize_pos
    rw [slotOf rank isRank entry isLocal]
    exact ⟨Int.ofNat_le.mpr (Nat.le_add_right _ _), Int.ofNat_lt.mpr (Nat.add_lt_add_left inBlock _)⟩
  · intro rank isRank entry below other otherBelow isLocal same
    have otherLocal : entrySlot cache blockIds rank other ≠ padSlotId := same ▸ isLocal
    have own := (entrySlot_ne_iff isRank entry).mp isLocal
    have otherOwn := (entrySlot_ne_iff isRank other).mp otherLocal
    rw [slotOf rank isRank entry isLocal, slotOf rank isRank other otherLocal, Int.natCast_inj] at same
    obtain ⟨sameBlock, sameOffset⟩ := flat_inj (Nat.mod_lt _ cache.blockSize_pos) (Nat.mod_lt _ cache.blockSize_pos)
      same
    have sameIndex := injective _ _ (blockBelow entry below) (blockBelow other otherBelow) sameBlock
    rw [← (dealtBefore_block isRank cache.blockSize_pos cache.divides own).1,
      ← (dealtBefore_block isRank cache.blockSize_pos cache.divides otherOwn).1] at sameIndex
    apply dealtBefore_inj isRank someRun own otherOwn
    rw [← Nat.div_add_mod' (dealtBefore _ _ _ entry) cache.blockSize, sameIndex, sameOffset, Nat.div_add_mod']
  · intro rank isRank
    rw [length_localEntries isRank, ← dcpLocalLen_eq someRun]
    rfl
  · intro rank isRank entry _ isLocal
    rw [length_localEntries isRank, entrySlot_eq isRank]
    exact if_pos ((entrySlot_ne_iff isRank entry).mp isLocal)

end

private theorem fourTokens_pos : 0 < 4 := Nat.succ_pos 3

private theorem one_dvd_two : 1 ∣ 2 := Nat.one_dvd 2

/-- Entries of four tokens in blocks of two, on two ranks in turn. -/
private def fourToOne : CompressedCache where
  compressRatio := 4
  blockSize := 2
  dcpWorldSize := 2
  cpKvCacheInterleaveSize := 1
  compressRatio_pos := fourTokens_pos
  blockSize_pos := Nat.two_pos
  dcpWorldSize_pos := Nat.two_pos
  divides := one_dvd_two

/-- A step of one sequence in the blocks 3, 4, ... -/
private def stepFrom (length queryLen : Nat) : SlotStep where
  batch :=
    { numReqs := 1
      queryStartLoc := fun batchIdx => batchIdx * queryLen
      seqLens := fun _ => length + queryLen
      blockTable := fun index => index + 3
      blockTableStride := 8 }
  row := 0
  slotMapping := fun rank => launch (List.range 1) (fourToOne.slotStores rank
    { numReqs := 1
      queryStartLoc := fun batchIdx => batchIdx * queryLen
      seqLens := fun _ => length + queryLen
      blockTable := fun index => index + 3
      blockTableStride := 8 }) fun _ => padSlotId

private theorem stepFrom_computes (length queryLen : Nat) :
    (stepFrom length queryLen).Computes fourToOne (· + 3) length where
  ranges := ⟨fun r _ => Nat.mul_le_mul_right queryLen (Nat.le_succ r)⟩
  inBatch := Nat.one_pos
  behind := by simp [SlotStep.seqLen, SlotStep.queryLen, stepFrom]
  blocks := by simp [stepFrom]
  got := fun _ _ => launched_launch _ _ _

/-- A step of six tokens of which five are kept, and one of twelve. -/
theorem compressedSlots_twoSteps : ∃ slots,
    EntrySlots fourToOne (· + 3) 17 [stepFrom 0 6, stepFrom 5 12] slots := by
  have first : SlotRun fourToOne (· + 3) 5 [stepFrom 0 6] :=
    @SlotRun.step _ _ 0 _ 5 .start _ (stepFrom_computes 0 6) (by decide)
  have second : SlotRun fourToOne (· + 3) 17 [stepFrom 0 6, stepFrom 5 12] :=
    @SlotRun.step _ _ 5 _ 12 first _ (stepFrom_computes 5 12) (by decide)
  exact compressedSlots_complete second fun _ _ _ _ same => Nat.add_right_cancel same

end DeepSpark
