import DeepSpark.Worker.DraftInputs

/-!
Where `DSparkSpeculator` writes draft KV.

Owns the reachable block tables, a call of the kernel over them, and the comparison of
the slots it writes with those attention reads: the kernel divides positions by the
block size of the KV manager, but reads a table of kernel blocks.
-/

namespace DeepSpark

open Lib BlockTables

namespace BlockTables

def initial : BlockTables := ⟨fun _ => ⟨fun _ => 0, []⟩, fun _ _ => 0, fun _ _ => 0⟩

/-- The block tables after some steps, with the block ids their rows were given. -/
inductive Reachable (config : TablesConfig) : BlockTables → (Nat → Nat → List Nat) → Prop
  | initial : Reachable config initial fun _ _ => []
  | step {before after : BlockTables} {blockIds : Nat → Nat → List Nat} {appends : List Append} :
      Reachable config before blockIds → Step config blockIds appends before after →
        Reachable config after (givenAll blockIds appends)

variable {config : TablesConfig}

theorem mirrors_initial : Mirrors config initial fun _ _ => [] := by
  have noBlocks : ∀ group : KvGroup, group.kernelBlockIds [] = [] := fun group => by
    rw [KvGroup.kernelBlockIds, List.flatMap_nil, ite_self]
  refine ⟨fun _ _ => rfl, fun i _ row _ => ?_, fun i _ row _ => ?_, rfl, fun i _ row _ k b isEntry => ?_⟩
  · rw [noBlocks]
    exact Nat.zero_le _
  · rw [noBlocks]
    rfl
  · rw [noBlocks] at isEntry
    cases isEntry

theorem Reachable.mirrors {tables : BlockTables} {blockIds : Nat → Nat → List Nat}
    (reachable : Reachable config tables blockIds) : Mirrors config tables blockIds := by
  induction reachable with
  | initial => exact mirrors_initial
  | step _ step ih => exact step.mirrors ih

theorem exists_applied (config : TablesConfig) (tables : BlockTables) : ∃ after, AppliedStagedWrites config tables after :=
  ⟨⟨fun i => ⟨launch (tables.blockTables i).staged (StagedWrite.stores (config.group i).stride)
      (tables.blockTables i).gpu, []⟩, tables.numBlocks, tables.numBlocks⟩,
    fun _ _ => ⟨launched_launch _ _ _, rfl⟩, rfl, rfl⟩

end BlockTables

/-- A call of `prepare_dspark_inputs` for a draft group, over the gathered table of a
target batch. -/
structure DsparkCall (config : TablesConfig) (groups : DraftGroups) (tables : BlockTables) (i : Nat)
    (inputs : DraftInputs) (after : DraftBuffers) : Prop where
  isGroup : i ∈ groups.draftKvCacheGroupIds
  wellFormed : inputs.WellFormed
  rows : ∀ r < inputs.numReqs, inputs.idxMapping r < config.maxNumReqs
  blockSize : inputs.blockSize = groups.draftBlockSize
  stride : inputs.blockTableStride = (config.group i).stride
  numQueryPerReq : inputs.numQueryPerReq = inputs.numSpeculativeSteps
  gathered : ∃ numReqsPadded stale, inputs.numReqs ≤ numReqsPadded ∧
    tables.Gathered config inputs.idxMapping inputs.numReqs numReqsPadded i stale inputs.blockTable
  prepared : ∃ before, inputs.Prepared inputs.prepareDsparkInputsKernel before after

/-- The slots written for the context and query positions of every batch, in every
reachable state, are those `_compute_slot_mappings_kernel` gives. -/
def SlotsAgree (config : TablesConfig) (groups : DraftGroups) (maxModelLen : Nat) : Prop :=
  ∀ tables blockIds, Reachable config tables blockIds →
    ∀ i inputs after, DsparkCall config groups tables i inputs after → ∀ r < inputs.numReqs,
      (∀ j < inputs.numCtx r,
        inputs.targetPositions (inputs.targetQueryStartLoc r + j) < maxModelLen →
        inputs.targetPositions (inputs.targetQueryStartLoc r + j) / (config.group i).blockSize <
          (blockIds i (inputs.idxMapping r)).length →
        after.contextSlotMapping (inputs.targetQueryStartLoc r + j) =
          tables.computedSlot config i (inputs.idxMapping r)
            (inputs.targetPositions (inputs.targetQueryStartLoc r + j))) ∧
      ∀ q < inputs.numQueryPerReq,
        inputs.lastValidPos r + 1 + q < maxModelLen →
        (inputs.lastValidPos r + 1 + q) / (config.group i).blockSize <
          (blockIds i (inputs.idxMapping r)).length →
        after.querySlotMapping (r * inputs.numQueryPerReq + q) =
          tables.computedSlot config i (inputs.idxMapping r) (inputs.lastValidPos r + 1 + q)

theorem dsparkSetAttn_ok {config : TablesConfig} {attnGroups : Nat → Bool} {groups : DraftGroups}
    (accepted : dsparkSetAttn config attnGroups = .ok groups) :
    groups.draftKvCacheGroupIds = draftGroups config attnGroups ∧
      ∀ i ∈ groups.draftKvCacheGroupIds, i < config.numKvCacheGroups ∧
        (config.group i).blockSize = groups.draftBlockSize := by
  rw [dsparkSetAttn] at accepted
  split at accepted
  next => cases accepted
  next first rest isGroups =>
    dsimp only at accepted
    split at accepted
    next => cases accepted
    next one =>
      cases accepted
      refine ⟨isGroups.symm, fun i member => ?_⟩
      have inConfig : i ∈ draftGroups config attnGroups := isGroups ▸ member
      refine ⟨List.mem_range.mp (List.mem_of_mem_filter inConfig), ?_⟩
      obtain ⟨size, isSize⟩ := List.length_eq_one_iff.mp (not_not.mp one)
      have only : ∀ gid ∈ first :: rest, (config.group gid).blockSize = size := by
        intro gid inGroups
        have inSizes : (config.group gid).blockSize ∈
            ((first :: rest).map fun gid => (config.group gid).blockSize).dedup :=
          List.mem_dedup.mpr (List.mem_map_of_mem inGroups)
        rw [isSize] at inSizes
        exact List.mem_singleton.mp inSizes
      rw [only i member]
      exact (only first List.mem_cons_self).symm

namespace DsparkCall

variable {config : TablesConfig} {groups : DraftGroups} {tables : BlockTables}
  {blockIds : Nat → Nat → List Nat} {i : Nat} {inputs : DraftInputs} {after : DraftBuffers}

section

variable (call : DsparkCall config groups tables i inputs after)
  (mirrors : Mirrors config tables blockIds) (inGroups : i < config.numKvCacheGroups)
  (sameSize : (config.group i).blockSize = groups.draftBlockSize)

include call mirrors inGroups sameSize

/-- The slot the kernel gives to an allocated position: it takes the table entry at the
column of the manager's block, which is a part of an earlier block. -/
theorem slot_eq {r position b : Nat} (inBatch : r < inputs.numReqs)
    (isBlock : (blockIds i (inputs.idxMapping r))[position / (config.group i).blockSize /
      (config.group i).blocksPerKvBlock]? = some b) :
    inputs.slot r position = (((b * (config.group i).blocksPerKvBlock +
      position / (config.group i).blockSize % (config.group i).blocksPerKvBlock) *
        (config.group i).blockSize + position % (config.group i).blockSize : Nat) : Int) := by
  set group := config.group i with isGroup
  have inRows := call.rows r inBatch
  have isSize : inputs.blockSize = group.blockSize := call.blockSize.trans sameSize.symm
  have fits : (group.kernelBlockIds (blockIds i (inputs.idxMapping r))).length ≤ group.stride :=
    mirrors.fits i inGroups _ inRows
  have isEntry : (group.kernelBlockIds (blockIds i (inputs.idxMapping r)))[position / group.blockSize]? =
      some (b * group.blocksPerKvBlock + position / group.blockSize % group.blocksPerKvBlock) := by
    rw [group.getElem?_kernelBlockIds, isBlock]
    rfl
  have counted := (List.getElem?_eq_some_iff.mp isEntry).1
  have column : min (position / inputs.blockSize) (inputs.blockTableStride - 1) =
      position / group.blockSize := by
    rw [isSize, call.stride, ← isGroup]
    omega
  obtain ⟨numReqsPadded, stale, padded, gathered⟩ := call.gathered
  have gathers := gathered.entry padded (fun r' inBatch' => by
    rw [mirrors.numBlocksGpu, mirrors.numBlocks i inGroups _ (call.rows r' inBatch')]
    exact mirrors.fits i inGroups _ (call.rows r' inBatch')) inBatch (k := position / group.blockSize)
    (by rw [mirrors.numBlocksGpu, mirrors.numBlocks i inGroups _ inRows]; exact counted)
  rw [DraftInputs.slot, column, call.stride, gathers, mirrors.entry i inGroups _ inRows _ _ isEntry, isSize]

/-- The two slots of an allocated position agree exactly when the table entry the kernel
takes is the manager's block of the position. -/
theorem slot_agrees_iff (isReplicated : (config.group i).groupCpSize = 1) {r position b own : Nat}
    (inBatch : r < inputs.numReqs)
    (isOwn : (blockIds i (inputs.idxMapping r))[position / (config.group i).blockSize]? = some own)
    (isBlock : (blockIds i (inputs.idxMapping r))[position / (config.group i).blockSize /
      (config.group i).blocksPerKvBlock]? = some b) :
    inputs.slot r position = tables.computedSlot config i (inputs.idxMapping r) position ↔
      b * (config.group i).blocksPerKvBlock +
        position / (config.group i).blockSize % (config.group i).blocksPerKvBlock = own := by
  rw [call.slot_eq mirrors inGroups sameSize inBatch isBlock,
    mirrors.computedSlot_eq inGroups (call.rows r inBatch) isReplicated isOwn, Int.natCast_inj,
    Nat.add_right_cancel_iff, Nat.mul_left_inj (config.group i).blockSize_pos.ne']

theorem slot_agrees (isReplicated : (config.group i).groupCpSize = 1)
    (isWhole : (config.group i).kernelBlockSize = (config.group i).blockSize) {r position : Nat}
    (inBatch : r < inputs.numReqs)
    (allocated : position / (config.group i).blockSize < (blockIds i (inputs.idxMapping r)).length) :
    inputs.slot r position = tables.computedSlot config i (inputs.idxMapping r) position := by
  have one : (config.group i).blocksPerKvBlock = 1 := by
    rw [KvGroup.blocksPerKvBlock, isWhole, Nat.div_self (config.group i).blockSize_pos]
  have isOwn := List.getElem?_eq_getElem allocated
  apply (call.slot_agrees_iff mirrors inGroups sameSize isReplicated inBatch isOwn
    (by rw [one, Nat.div_one]; exact isOwn)).mpr
  rw [one, Nat.mul_one, Nat.mod_one, Nat.add_zero]

end

theorem querySlot (call : DsparkCall config groups tables i inputs after) {r q : Nat}
    (inBatch : r < inputs.numReqs) (inQuery : q < inputs.numQueryPerReq) :
    after.querySlotMapping (r * inputs.numQueryPerReq + q) =
      inputs.slot r (inputs.lastValidPos r + 1 + q) := by
  obtain ⟨before, prepared⟩ := call.prepared
  have stored := DraftInputs.lane_stored (fun r queryOff => inputs.slot r (inputs.lastValidPos r + 1 + queryOff))
    0 call.wellFormed prepared.querySlotMapping (fun program queryOff => by rw [and_iff_right (Nat.zero_le queryOff)])
    (Nat.zero_add _).symm inBatch inQuery
  rw [Nat.zero_add] at stored
  exact stored

theorem contextSlot (call : DsparkCall config groups tables i inputs after) {r j : Nat}
    (inBatch : r < inputs.numReqs) (inContext : j < inputs.numCtx r) :
    after.contextSlotMapping (inputs.targetQueryStartLoc r + j) =
      inputs.slot r (inputs.targetPositions (inputs.targetQueryStartLoc r + j)) := by
  obtain ⟨before, prepared⟩ := call.prepared
  exact prepared.contextSlot 0 (fun _ => rfl) call.wellFormed inBatch inContext

end DsparkCall

/-! ## A call that disagrees -/

def firstToken (config : TablesConfig) (groups : DraftGroups) (i : Nat) (blockTable : Buffer Nat Nat) :
    DraftInputs where
  numReqs := 1
  targetPositions _ := 0
  targetQueryStartLoc r := r
  maxTargetQueryLen := 1
  idxMapping _ := 0
  lastSampled _ := 0
  nextPrefillTokens _ := 0
  numSampled _ := 1
  numRejected _ := 0
  blockTable
  blockTableStride := (config.group i).stride
  parallelDraftingTokenId := 0
  blockSize := groups.draftBlockSize
  numQueryPerReq := 1
  numSpeculativeSteps := 1
  maxNumReqs := config.maxNumReqs
  maxNumTokens := config.maxNumBatchedTokens

/-- For a request whose only block is the block with id 1, the kernel writes the first
token to the slot of the kernel block behind it. -/
theorem exists_firstToken {config : TablesConfig} {groups : DraftGroups} {i : Nat}
    (isGroup : i ∈ groups.draftKvCacheGroupIds) (inGroups : i < config.numKvCacheGroups)
    (sameSize : (config.group i).blockSize = groups.draftBlockSize)
    (isReplicated : (config.group i).groupCpSize = 1) :
    ∃ (tables : BlockTables) (blockIds : Nat → Nat → List Nat) (table : Buffer Nat Nat)
      (after : DraftBuffers), Reachable config tables blockIds ∧ blockIds i 0 = [1] ∧
      DsparkCall config groups tables i (firstToken config groups i table) after ∧
      after.contextSlotMapping 0 =
        (((config.group i).blocksPerKvBlock * (config.group i).blockSize : Nat) : Int) ∧
      tables.computedSlot config i 0 0 = ((config.group i).blockSize : Int) := by
  set appends : List Append := [⟨0, fun g => if g = i then [1] else [], true⟩] with isAppends
  obtain ⟨tables, applied⟩ := exists_applied config
    (initial.appendAll config appends)
  have step : Step config (fun _ _ => []) appends initial tables := by
    refine ⟨List.nodup_singleton _, fun append member => ?_, fun append member g _ => ?_, applied⟩
    · rw [List.mem_singleton.mp member]
      exact config.maxNumReqs_pos
    · rw [List.mem_singleton.mp member, KvGroup.length_kernelBlockIds]
      apply Nat.mul_le_mul_right
      show (if g = i then [1] else []).length ≤ _
      split
      next => exact (config.group g).maxNumBlocks_pos
      next => exact Nat.zero_le _
  have reachable := Reachable.initial.step step
  have given : givenAll (fun _ _ => []) appends i 0 = [1] := by
    simp [givenAll, isAppends, Append.given]
  set blockIds := givenAll (fun _ _ => []) appends with isBlockIds
  have mirrors := reachable.mirrors
  set table := launch (List.range 1) (tables.gatherStores config (fun _ => 0) 1 i) (fun _ => 0) with isTable
  set inputs := firstToken config groups i table with isInputs
  obtain ⟨after, prepared⟩ := inputs.exists_prepared inputs.prepareDsparkInputsKernel
    ⟨fun _ => 0, fun _ => 0, fun _ => 0, fun _ => 0, fun _ => 0, fun _ => 0, fun _ => 0, fun _ => false,
      fun _ => 0, fun _ => 0, fun _ => 0⟩
  have call : DsparkCall config groups tables i inputs after := by
    refine ⟨isGroup, ⟨⟨fun r _ => Nat.le_succ r⟩, fun r _ => ?_⟩, fun _ _ => config.maxNumReqs_pos, rfl,
      rfl, rfl, ⟨1, fun _ => 0, le_rfl, launched_launch _ _ _⟩, ⟨_, prepared⟩⟩
    show r + 1 - r ≤ 1
    omega
  have noDiv : ∀ size, 0 / size = 0 := Nat.zero_div
  have isBlock : (blockIds i (inputs.idxMapping 0))[0 / (config.group i).blockSize /
      (config.group i).blocksPerKvBlock]? = some 1 := by
    rw [noDiv, noDiv]
    show (blockIds i 0)[0]? = some 1
    rw [given]
    rfl
  have slot := call.slot_eq mirrors inGroups sameSize (show 0 < inputs.numReqs from Nat.one_pos) isBlock
  have isOwn : (blockIds i 0)[0 / (config.group i).blockSize]? = some 1 := by
    rw [noDiv, given]
    rfl
  have computed := mirrors.computedSlot_eq inGroups config.maxNumReqs_pos isReplicated isOwn
  refine ⟨tables, blockIds, table, after, reachable, given, call, ?_, ?_⟩
  · have stored := call.contextSlot (show 0 < inputs.numReqs from Nat.one_pos)
      (show 0 < inputs.numCtx 0 from Nat.one_pos)
    rw [Nat.zero_div, Nat.zero_mod, Nat.zero_mod, Nat.one_mul, Nat.add_zero, Nat.add_zero] at slot
    exact stored.trans slot
  · rw [computed, Nat.zero_mod, Nat.one_mul, Nat.add_zero]

/-- The kernel writes draft KV where attention reads it, in every reachable state and for
every batch, exactly when no draft group splits its blocks. -/
theorem dsparkSlots_agree_iff {config : TablesConfig} {attnGroups : Nat → Bool} {groups : DraftGroups}
    (accepted : dsparkSetAttn config attnGroups = .ok groups)
    (replicated : ∀ i ∈ groups.draftKvCacheGroupIds, (config.group i).groupCpSize = 1)
    {maxModelLen : Nat} (someLen : 0 < maxModelLen) :
    SlotsAgree config groups maxModelLen ↔
      ∀ i ∈ groups.draftKvCacheGroupIds, (config.group i).kernelBlockSize = (config.group i).blockSize := by
  obtain ⟨-, isDraft⟩ := dsparkSetAttn_ok accepted
  constructor
  · intro agree i isGroup
    obtain ⟨inGroups, sameSize⟩ := isDraft i isGroup
    obtain ⟨tables, blockIds, table, after, reachable, given, call, stored, computed⟩ :=
      exists_firstToken isGroup inGroups sameSize (replicated i isGroup)
    have same := (agree tables blockIds reachable i _ after call 0 Nat.one_pos).1 0 Nat.one_pos someLen
      (by
        show 0 / _ < (blockIds i 0).length
        rw [given, Nat.zero_div]
        exact Nat.one_pos)
    have slots : (((config.group i).blocksPerKvBlock * (config.group i).blockSize : Nat) : Int) =
        ((config.group i).blockSize : Int) := stored.symm.trans (same.trans computed)
    have one : (config.group i).blocksPerKvBlock = 1 := by
      apply Nat.eq_of_mul_eq_mul_right (config.group i).blockSize_pos
      rw [Nat.one_mul]
      exact Int.natCast_inj.mp slots
    have whole := (config.group i).blocksPerKvBlock_mul
    rwa [one, Nat.one_mul] at whole
  · intro isWhole tables blockIds reachable i inputs after call r inBatch
    obtain ⟨inGroups, sameSize⟩ := isDraft i call.isGroup
    have agrees := fun {position : Nat} (allocated : position / (config.group i).blockSize <
        (blockIds i (inputs.idxMapping r)).length) =>
      call.slot_agrees reachable.mirrors inGroups sameSize (replicated i call.isGroup)
        (isWhole i call.isGroup) inBatch allocated
    constructor
    · intro j inContext _ allocated
      rw [call.contextSlot inBatch inContext]
      exact agrees allocated
    · intro q inQuery _ allocated
      rw [call.querySlot inBatch inQuery]
      exact agrees allocated

private theorem four_blocks_pos : 0 < 4 := by decide

/-- Blocks of 64 tokens, split into kernel blocks of 16. -/
private def splitConfig : TablesConfig where
  numKvCacheGroups := 1
  group _ := ⟨64, 16, 1, 4, by decide, by decide, four_blocks_pos, by decide⟩
  maxNumReqs := 1
  maxNumBatchedTokens := 256
  cpSize := 1
  cpRank := 0
  cpInterleave := 1
  maxNumReqs_pos := Nat.one_pos

/-- The first token of a request with block 1 is written to slot 256, and read from slot
64. -/
theorem dsparkSlots_split :
    dsparkSetAttn splitConfig (fun _ => true) = .ok ⟨[0], 64⟩ ∧
      ∃ (tables : BlockTables) (blockIds : Nat → Nat → List Nat) (table : Buffer Nat Nat)
        (after : DraftBuffers), Reachable splitConfig tables blockIds ∧ blockIds 0 0 = [1] ∧
        DsparkCall splitConfig ⟨[0], 64⟩ tables 0 (firstToken splitConfig ⟨[0], 64⟩ 0 table) after ∧
        after.contextSlotMapping 0 = 256 ∧ tables.computedSlot splitConfig 0 0 0 = 64 := by
  refine ⟨by decide, ?_⟩
  exact @exists_firstToken splitConfig ⟨[0], 64⟩ _ List.mem_cons_self Nat.one_pos rfl rfl

private def wholeConfig : TablesConfig where
  numKvCacheGroups := 1
  group _ := ⟨64, 64, 1, 4, by decide, by decide, four_blocks_pos, by decide⟩
  maxNumReqs := 1
  maxNumBatchedTokens := 256
  cpSize := 1
  cpRank := 0
  cpInterleave := 1
  maxNumReqs_pos := Nat.one_pos

theorem dsparkSlots_agree_whole : SlotsAgree wholeConfig ⟨[0], 64⟩ 256 :=
  (@dsparkSlots_agree_iff wholeConfig (fun _ => true) ⟨[0], 64⟩ (by decide) (fun _ _ => rfl) 256
    (by decide)).mpr fun _ _ => rfl

namespace BlockTables

variable {config : TablesConfig}

/-- In every reachable state, attention reads each allocated position of a batch, through the gathered
table, from the slot that the slot mapping writes it to, and this slot is the position's own in the block
of the KV manager. -/
theorem gatheredTable_readsWritten {tables : BlockTables} {blockIds : Nat → Nat → List Nat} {i numReqs numReqsPadded : Nat}
    {idxMapping : Nat → Nat} {before after : Buffer Nat Nat} (reachable : Reachable config tables blockIds)
    (gathered : tables.Gathered config idxMapping numReqs numReqsPadded i before after) (padded : numReqs ≤ numReqsPadded)
    (inGroups : i < config.numKvCacheGroups) (isReplicated : (config.group i).groupCpSize = 1)
    (rows : ∀ r < numReqs, idxMapping r < config.maxNumReqs) {r position b : Nat} (inBatch : r < numReqs)
    (allocated : (blockIds i (idxMapping r))[position / (config.group i).blockSize]? = some b) :
    tables.computedSlot config i (idxMapping r) position =
        (after (r * (config.group i).stride + position / (config.group i).kernelBlockSize) *
          (config.group i).kernelBlockSize + position % (config.group i).kernelBlockSize : Nat) ∧
      tables.computedSlot config i (idxMapping r) position =
        (b * (config.group i).blockSize + position % (config.group i).blockSize : Nat) := by
  have mirrors := reachable.mirrors
  have numBlocks : ∀ r < numReqs, tables.numBlocksGpu i (idxMapping r) =
      ((config.group i).kernelBlockIds (blockIds i (idxMapping r))).length := fun r inBatch => by
    rw [mirrors.numBlocksGpu, mirrors.numBlocks i inGroups _ (rows r inBatch)]
  have counted : position / (config.group i).kernelBlockSize < tables.numBlocksGpu i (idxMapping r) := by
    obtain ⟨inside, -⟩ := List.getElem?_eq_some_iff.mp allocated
    rw [numBlocks r inBatch, KvGroup.length_kernelBlockIds, ← Nat.div_lt_iff_lt_mul (config.group i).blocksPerKvBlock_pos,
      Nat.div_div_eq_div_mul, Nat.mul_comm, (config.group i).blocksPerKvBlock_mul]
    exact inside
  refine ⟨?_, mirrors.computedSlot_eq inGroups (rows r inBatch) isReplicated allocated⟩
  rw [gathered.entry padded (fun r inBatch => by
    rw [numBlocks r inBatch]
    exact mirrors.fits i inGroups _ (rows r inBatch)) inBatch counted, computedSlot]
  rw [isReplicated, Nat.mul_one, if_pos rfl, ite_self]

theorem gatheredTable_readsWritten_split : ∃ (tables : BlockTables) (blockIds : Nat → Nat → List Nat)
    (table : Buffer Nat Nat), Reachable splitConfig tables blockIds ∧ tables.computedSlot splitConfig 0 0 20 = 84 ∧
      table 1 * 16 + 4 = 84 := by
  obtain ⟨tables, blockIds, table, after, reachable, given, call, -⟩ :=
    @exists_firstToken splitConfig ⟨[0], 64⟩ 0 List.mem_cons_self Nat.one_pos rfl rfl
  obtain ⟨_, _, padded, gathered⟩ := call.gathered
  have allocated : (blockIds 0 0)[20 / 64]? = some 1 := by
    rw [given]
    rfl
  obtain ⟨reads, slot⟩ := gatheredTable_readsWritten reachable gathered padded Nat.one_pos rfl call.rows Nat.one_pos allocated
  exact ⟨tables, blockIds, table, reachable, slot, by exact_mod_cast reads.symm.trans slot⟩

end BlockTables

end DeepSpark
