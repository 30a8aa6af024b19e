import DeepSpark.Worker.DraftInputs

/-!
What `prepare_dspark_inputs` leaves in the buffers of the speculator.

Owns the contents a launch of the DSpark kernel is meant to leave, the agreement of the
stores of its programs, and that every launch leaves these contents.
-/

namespace DeepSpark

open Lib

namespace DraftInputs

variable (inputs : DraftInputs)

/-- `anchor_token`: the last sampled token, or the next prefill token of a chunk. -/
def anchorToken (reqIdx : Nat) : Int :=
  if inputs.numSampled reqIdx > 0 then inputs.lastSampled (inputs.idxMapping reqIdx)
  else inputs.nextPrefillTokens (inputs.idxMapping reqIdx)

/-- A call of `prepare_dspark_inputs`: there are requests, each has a token that is not
rejected, and the query block has a token for each speculative step. -/
structure DsparkBatch : Prop extends inputs.WellFormed where
  someReq : 0 < inputs.numReqs
  rejected : ∀ r < inputs.numReqs, inputs.numRejected r < inputs.numCtx r
  isBlock : inputs.numQueryPerReq = inputs.numSpeculativeSteps

structure DsparkAssembled (after : DraftBuffers) : Prop where
  contextPositions : ∀ r < inputs.numReqs, ∀ j < inputs.numCtx r,
    after.contextPositions (inputs.targetQueryStartLoc r + j) =
      inputs.targetPositions (inputs.targetQueryStartLoc r + j)
  contextSlots : ∀ r < inputs.numReqs, ∀ j < inputs.numCtx r,
    after.contextSlotMapping (inputs.targetQueryStartLoc r + j) =
      inputs.slot r (inputs.targetPositions (inputs.targetQueryStartLoc r + j))
  committed : ∀ r < inputs.numReqs, ∀ j < inputs.numCtx r,
    (after.contextCommitMask (inputs.targetQueryStartLoc r + j) = true ↔
      j < inputs.numCtx r - inputs.numRejected r)
  inputIds : ∀ r < inputs.numReqs, ∀ k < inputs.numQueryPerReq,
    after.inputIds (r * inputs.numQueryPerReq + k) =
      if k = 0 then inputs.anchorToken r else inputs.parallelDraftingTokenId
  queryPositions : ∀ r < inputs.numReqs, ∀ k < inputs.numQueryPerReq,
    after.queryPositions (r * inputs.numQueryPerReq + k) = inputs.lastValidPos r + 1 + k
  querySlots : ∀ r < inputs.numReqs, ∀ k < inputs.numQueryPerReq,
    after.querySlotMapping (r * inputs.numQueryPerReq + k) =
      inputs.slot r (inputs.lastValidPos r + 1 + k)
  queryStartLoc : ∀ r < inputs.numReqs, after.queryStartLoc r = r * inputs.numQueryPerReq
  seqLens : ∀ r < inputs.numReqs, after.seqLens r = inputs.lastValidPos r + 1 + inputs.numQueryPerReq
  sampleIndices : ∀ r < inputs.numReqs, ∀ k < inputs.numSpeculativeSteps,
    after.sampleIndices (r * inputs.numSpeculativeSteps + k) = r * inputs.numQueryPerReq + k
  samplePos : ∀ r < inputs.numReqs, ∀ k < inputs.numSpeculativeSteps,
    after.samplePos (r * inputs.numSpeculativeSteps + k) = inputs.lastValidPos r + 1 + k
  sampleIdxMapping : ∀ r < inputs.numReqs, ∀ k < inputs.numSpeculativeSteps,
    after.sampleIdxMapping (r * inputs.numSpeculativeSteps + k) = inputs.idxMapping r
  paddedQuerySlots : ∀ index, inputs.numReqs * inputs.numQueryPerReq ≤ index → index < inputs.maxNumTokens →
    after.querySlotMapping index = padSlotId
  paddedQueryStartLoc : ∀ r, inputs.numReqs ≤ r → r ≤ inputs.maxNumReqs →
    after.queryStartLoc r = inputs.numReqs * inputs.numQueryPerReq
  paddedSeqLens : ∀ r, inputs.numReqs ≤ r → r < inputs.maxNumReqs → after.seqLens r = 0
  paddedSamples : ∀ index, inputs.numReqs * inputs.numSpeculativeSteps ≤ index →
    index < inputs.maxNumReqs * inputs.numSpeculativeSteps →
    after.sampleIndices index = 0 ∧ after.samplePos index = 0 ∧ after.sampleIdxMapping index = 0

/-- No two stores of a launch give a cell two values. -/
structure DsparkAgrees : Prop where
  inputIds : Agrees inputs.grid fun program => (inputs.prepareDsparkInputsKernel program).inputIds
  queryPositions : Agrees inputs.grid fun program => (inputs.prepareDsparkInputsKernel program).queryPositions
  queryStartLoc : Agrees inputs.grid fun program => (inputs.prepareDsparkInputsKernel program).queryStartLoc
  seqLens : Agrees inputs.grid fun program => (inputs.prepareDsparkInputsKernel program).seqLens
  querySlotMapping : Agrees inputs.grid fun program =>
    (inputs.prepareDsparkInputsKernel program).querySlotMapping
  contextPositions : Agrees inputs.grid fun program =>
    (inputs.prepareDsparkInputsKernel program).contextPositions
  contextSlotMapping : Agrees inputs.grid fun program =>
    (inputs.prepareDsparkInputsKernel program).contextSlotMapping
  contextCommitMask : Agrees inputs.grid fun program =>
    (inputs.prepareDsparkInputsKernel program).contextCommitMask
  sampleIndices : Agrees inputs.grid fun program => (inputs.prepareDsparkInputsKernel program).sampleIndices
  samplePos : Agrees inputs.grid fun program => (inputs.prepareDsparkInputsKernel program).samplePos
  sampleIdxMapping : Agrees inputs.grid fun program =>
    (inputs.prepareDsparkInputsKernel program).sampleIdxMapping

variable {inputs} {α : Type} {pad : α} {stop : Nat} {program : Nat × Nat}

theorem inBatch_of_mem_grid (inGrid : program ∈ inputs.grid) :
    program.1 < inputs.numReqs :=
  List.mem_range.mp (List.mem_product.mp inGrid).1

theorem context_agrees (ranges : BlockTables.TokenRanges inputs.targetQueryStartLoc inputs.numReqs)
    (value : Nat → Nat → α) :
    Agrees inputs.grid fun program => (inputs.contextLanes program.1 program.2).map fun j =>
      (⟨inputs.targetQueryStartLoc program.1 + j, value program.1 j⟩ : Store Nat α) := by
  intro program inGrid store member other otherInGrid last stored same
  obtain ⟨j, inLanes, rfl⟩ := List.mem_map.mp member
  obtain ⟨lane, inOtherLanes, rfl⟩ := List.mem_map.mp stored
  have inContext := (mem_contextLanes.mp inLanes).1
  have inOther := (mem_contextLanes.mp inOtherLanes).1
  have sameToken : inputs.targetQueryStartLoc other.1 + lane = inputs.targetQueryStartLoc program.1 + j := same
  unfold numCtx at inContext inOther
  have sameReq : other.1 = program.1 := ranges.unique (inBatch_of_mem_grid otherInGrid)
    (inBatch_of_mem_grid inGrid) (Nat.le_add_right _ lane) (by omega) (by omega) (by omega)
  rw [sameReq] at sameToken
  rw [sameReq, Nat.add_left_cancel sameToken]

variable {before : Buffer Nat α} {r : Nat}

theorem context_stored (wellFormed : inputs.WellFormed) (value : Nat → Nat → α) {after : Buffer Nat α}
    (launched : Launched inputs.grid (fun program => (inputs.contextLanes program.1 program.2).map fun j =>
      (⟨inputs.targetQueryStartLoc program.1 + j, value program.1 j⟩ : Store Nat α)) before after)
    {j : Nat} (inBatch : r < inputs.numReqs) (inContext : j < inputs.numCtx r) :
    after (inputs.targetQueryStartLoc r + j) = value r j := by
  have inGrid : (r, j / inputs.tileSize) ∈ inputs.grid := mem_grid wellFormed inBatch (by omega)
  exact launched.reads (context_agrees wellFormed.ranges value) inGrid
    (List.mem_map.mpr ⟨j, mem_contextLanes.mpr ⟨inContext, rfl⟩, rfl⟩)

/-! ## The stores of the query lanes -/

variable {width : Nat}

/-- What a lane stores in a table with rows of `width` cells is a function of the cell. -/
theorem lane_content (value : Nat → Nat → α) (isWidth : inputs.numQueryPerReq = width)
    {queryOff : Nat} (isLane : queryOff ∈ inputs.queryLanes program.1 program.2) :
    value ((program.1 * width + queryOff) / width) ((program.1 * width + queryOff) % width) =
      value program.1 queryOff := by
  have inWidth : queryOff < width := isWidth ▸ (mem_queryLanes.mp isLane).1
  have positive : 0 < width := (Nat.zero_le _).trans_lt inWidth
  rw [Nat.mul_comm program.1, Nat.mul_add_div positive, Nat.div_eq_of_lt inWidth, Nat.add_zero,
    Nat.mul_add_mod, Nat.mod_eq_of_lt inWidth]

/-- A buffer with `width` entries for each request: what a cell is given is a function of
its address, of the lane below the last request and the padding behind it. -/
theorem lanes_agree (value : Nat → Nat → α) (isWidth : inputs.numQueryPerReq = width)
    {lanes : Nat × Nat → List Nat}
    (isLane : ∀ program, ∀ queryOff ∈ lanes program, queryOff ∈ inputs.queryLanes program.1 program.2) :
    Agrees inputs.grid fun program => (lanes program).map
      (fun queryOff => (⟨program.1 * width + queryOff, value program.1 queryOff⟩ : Store Nat α)) ++
        inputs.padding program (inputs.numReqs * width) stop pad := by
  apply Agrees.of_content (fun address =>
    if address < inputs.numReqs * width then value (address / width) (address % width) else pad)
  intro program inGrid store member
  rcases List.mem_append.mp member with ofLane | ofPadding
  · obtain ⟨queryOff, inLanes, rfl⟩ := List.mem_map.mp ofLane
    have inQuery := isLane program queryOff inLanes
    have inWidth : queryOff < width := isWidth ▸ (mem_queryLanes.mp inQuery).1
    rw [if_pos (flat_lt (inBatch_of_mem_grid inGrid) inWidth), lane_content value isWidth inQuery]
  · obtain ⟨-, above, -, isPad⟩ := mem_padding.mp ofPadding
    rw [if_neg (Nat.not_lt.mpr above), isPad]

theorem unpadded_agrees (value : Nat → Nat → α) :
    Agrees inputs.grid fun program => (inputs.queryLanes program.1 program.2).map fun queryOff =>
      (⟨program.1 * inputs.numQueryPerReq + queryOff, value program.1 queryOff⟩ : Store Nat α) := by
  apply Agrees.of_content fun address =>
    value (address / inputs.numQueryPerReq) (address % inputs.numQueryPerReq)
  intro program _ store member
  obtain ⟨queryOff, inLanes, rfl⟩ := List.mem_map.mp member
  exact (lane_content value rfl inLanes).symm

/-- A buffer with an entry for each request, written by the first program of each request
and padded behind the last one. -/
theorem requests_agree (value : Nat → α) :
    Agrees inputs.grid fun program =>
      (if program.2 = 0 then [(⟨program.1, value program.1⟩ : Store Nat α)] else []) ++
        inputs.padding program inputs.numReqs stop pad := by
  apply Agrees.of_content (fun address =>
    if address < inputs.numReqs then value address else pad)
  intro program inGrid store member
  rcases List.mem_append.mp member with ofFirst | ofPadding
  · split at ofFirst
    next =>
      rw [List.mem_singleton.mp ofFirst]
      exact (if_pos (inBatch_of_mem_grid inGrid)).symm
    next => cases ofFirst
  · obtain ⟨-, above, -, isPad⟩ := mem_padding.mp ofPadding
    rw [if_neg (Nat.not_lt.mpr above), isPad]

/-! ## Every launch -/

namespace DsparkBatch

variable (batch : inputs.DsparkBatch)

include batch

theorem first_mem_grid (inBatch : r < inputs.numReqs) : (r, 0) ∈ inputs.grid := by
  have rejected := batch.rejected r inBatch
  have inGrid := mem_grid batch.toWellFormed inBatch (show 0 < inputs.numCtx r + inputs.numQueryPerReq by omega)
  rwa [Nat.zero_div] at inGrid

section

variable {lanes : Nat × Nat → List Nat} {after : Buffer Nat α} (value : Nat → Nat → α)
  (isWidth : inputs.numQueryPerReq = width)
  (isLane : ∀ program queryOff, queryOff ∈ lanes program ↔ queryOff ∈ inputs.queryLanes program.1 program.2)
  (launched : Launched inputs.grid (fun program => (lanes program).map
    (fun queryOff => (⟨program.1 * width + queryOff, value program.1 queryOff⟩ : Store Nat α)) ++
      inputs.padding program (inputs.numReqs * width) stop pad) before after)

include value isWidth isLane launched

theorem lane {k : Nat} (inBatch : r < inputs.numReqs) (inWidth : k < width) :
    after (r * width + k) = value r k := by
  have inGrid := mem_grid batch.toWellFormed inBatch
    (show inputs.numCtx r + k < inputs.numCtx r + inputs.numQueryPerReq by omega)
  have inLanes : k ∈ lanes (r, (inputs.numCtx r + k) / inputs.tileSize) :=
    (isLane _ k).mpr (mem_queryLanes.mpr ⟨by omega, rfl⟩)
  exact launched.reads (lanes_agree value isWidth fun program k inLanes => (isLane program k).mp inLanes) inGrid
    (List.mem_append_left _ (List.mem_map.mpr ⟨k, inLanes, rfl⟩))

theorem lanePadding
    {address : Nat} (above : inputs.numReqs * width ≤ address) (below : address < stop) :
    after address = pad := by
  have inGrid := batch.first_mem_grid (show inputs.numReqs - 1 < inputs.numReqs from
    Nat.sub_lt batch.someReq Nat.one_pos)
  have isLast : inputs.numReqs - 1 + 1 = inputs.numReqs := Nat.sub_add_cancel batch.someReq
  have stored : (⟨address, pad⟩ : Store Nat α) ∈
      inputs.padding (inputs.numReqs - 1, 0) (inputs.numReqs * width) stop pad :=
    mem_padding.mpr ⟨⟨rfl, isLast⟩, above, below, rfl⟩
  exact launched.reads (lanes_agree value isWidth fun program k inLanes => (isLane program k).mp inLanes) inGrid
    (List.mem_append_right _ stored)

end

section

variable {after : Buffer Nat α} (value : Nat → α)
  (launched : Launched inputs.grid (fun program =>
    (if program.2 = 0 then [(⟨program.1, value program.1⟩ : Store Nat α)] else []) ++
      inputs.padding program inputs.numReqs stop pad) before after)

include value launched

theorem request (inBatch : r < inputs.numReqs) : after r = value r :=
  launched.reads (requests_agree value) (batch.first_mem_grid inBatch)
    (List.mem_append_left _ (List.mem_singleton_self _))

theorem requestPadding (above : inputs.numReqs ≤ r) (below : r < stop) : after r = pad := by
  have inGrid := batch.first_mem_grid (show inputs.numReqs - 1 < inputs.numReqs from
    Nat.sub_lt batch.someReq Nat.one_pos)
  have isLast : inputs.numReqs - 1 + 1 = inputs.numReqs := Nat.sub_add_cancel batch.someReq
  have stored : (⟨r, pad⟩ : Store Nat α) ∈ inputs.padding (inputs.numReqs - 1, 0) inputs.numReqs stop pad :=
    mem_padding.mpr ⟨⟨rfl, isLast⟩, above, below, rfl⟩
  exact launched.reads (requests_agree value) inGrid (List.mem_append_right _ stored)

end

theorem unpadded (value : Nat → Nat → α) {after : Buffer Nat α}
    (launched : Launched inputs.grid (fun program => (inputs.queryLanes program.1 program.2).map
      fun queryOff => (⟨program.1 * inputs.numQueryPerReq + queryOff, value program.1 queryOff⟩ : Store Nat α))
      before after)
    {k : Nat} (inBatch : r < inputs.numReqs) (inWidth : k < inputs.numQueryPerReq) :
    after (r * inputs.numQueryPerReq + k) = value r k := by
  have inGrid := mem_grid batch.toWellFormed inBatch
    (show inputs.numCtx r + k < inputs.numCtx r + inputs.numQueryPerReq by omega)
  exact launched.reads (unpadded_agrees value) inGrid
    (List.mem_map.mpr ⟨k, mem_queryLanes.mpr ⟨inWidth, rfl⟩, rfl⟩)

end DsparkBatch

theorem mem_sampleLanes {queryOff : Nat} :
    queryOff ∈ (inputs.queryLanes program.1 program.2).filter (fun queryOff => decide (0 ≤ queryOff)) ↔
      queryOff ∈ inputs.queryLanes program.1 program.2 := by
  rw [List.mem_filter, decide_eq_true (Nat.zero_le queryOff), and_iff_left rfl]

theorem DsparkBatch.assembled (batch : inputs.DsparkBatch) {before after : DraftBuffers}
    (prepared : inputs.Prepared inputs.prepareDsparkInputsKernel before after) :
    inputs.DsparkAssembled after where
  contextPositions _ inBatch _ inContext := context_stored batch.toWellFormed
    (fun r j => inputs.targetPositions (inputs.targetQueryStartLoc r + j))
    prepared.contextPositions inBatch inContext
  contextSlots _ inBatch _ inContext := context_stored batch.toWellFormed
    (fun r j => inputs.slot r (inputs.targetPositions (inputs.targetQueryStartLoc r + j)))
    prepared.contextSlotMapping inBatch inContext
  committed r inBatch j inContext := by
    rw [context_stored batch.toWellFormed
      (fun r j => decide (j < inputs.numCtx r - inputs.numRejected r))
      prepared.contextCommitMask inBatch inContext, decide_eq_true_iff]
  inputIds _ inBatch _ inWidth := batch.unpadded
    (fun r k => if k = 0 then inputs.anchorToken r else inputs.parallelDraftingTokenId)
    prepared.inputIds inBatch inWidth
  queryPositions _ inBatch _ inWidth := batch.unpadded
    (fun r k => inputs.lastValidPos r + 1 + k) prepared.queryPositions inBatch inWidth
  querySlots _ inBatch _ inWidth := batch.lane
    (fun r k => inputs.slot r (inputs.lastValidPos r + 1 + k)) rfl (fun _ _ => Iff.rfl)
    prepared.querySlotMapping inBatch inWidth
  queryStartLoc _ inBatch := batch.request
    (fun r => r * inputs.numQueryPerReq) prepared.queryStartLoc inBatch
  seqLens _ inBatch := batch.request
    (fun r => inputs.lastValidPos r + 1 + inputs.numQueryPerReq) prepared.seqLens inBatch
  sampleIndices _ inBatch _ inWidth := batch.lane
    (fun r k => r * inputs.numQueryPerReq + k) batch.isBlock (fun _ _ => mem_sampleLanes)
    prepared.sampleIndices inBatch inWidth
  samplePos _ inBatch _ inWidth := batch.lane
    (fun r k => inputs.lastValidPos r + 1 + k) batch.isBlock (fun _ _ => mem_sampleLanes)
    prepared.samplePos inBatch inWidth
  sampleIdxMapping _ inBatch _ inWidth := batch.lane
    (fun r _ => inputs.idxMapping r) batch.isBlock (fun _ _ => mem_sampleLanes)
    prepared.sampleIdxMapping inBatch inWidth
  paddedQuerySlots _ above below := batch.lanePadding
    (fun r k => inputs.slot r (inputs.lastValidPos r + 1 + k)) rfl (fun _ _ => Iff.rfl)
    prepared.querySlotMapping above below
  paddedQueryStartLoc _ above below := batch.requestPadding
    (fun r => r * inputs.numQueryPerReq) prepared.queryStartLoc above (Nat.lt_succ_iff.mpr below)
  paddedSeqLens _ above below := batch.requestPadding
    (fun r => inputs.lastValidPos r + 1 + inputs.numQueryPerReq) prepared.seqLens above below
  paddedSamples _ above below := by
    refine ⟨?_, ?_, ?_⟩
    · exact batch.lanePadding (fun r k => r * inputs.numQueryPerReq + k) batch.isBlock
        (fun _ _ => mem_sampleLanes) prepared.sampleIndices above below
    · exact batch.lanePadding (fun r k => inputs.lastValidPos r + 1 + k) batch.isBlock
        (fun _ _ => mem_sampleLanes) prepared.samplePos above below
    · exact batch.lanePadding (fun r _ => inputs.idxMapping r) batch.isBlock
        (fun _ _ => mem_sampleLanes) prepared.sampleIdxMapping above below

theorem DsparkBatch.agrees (batch : inputs.DsparkBatch) : inputs.DsparkAgrees where
  inputIds := unpadded_agrees fun r k =>
    if k = 0 then inputs.anchorToken r else inputs.parallelDraftingTokenId
  queryPositions := unpadded_agrees fun r k => inputs.lastValidPos r + 1 + k
  queryStartLoc := requests_agree fun r => r * inputs.numQueryPerReq
  seqLens := requests_agree fun r => inputs.lastValidPos r + 1 + inputs.numQueryPerReq
  querySlotMapping := lanes_agree (fun r k => inputs.slot r (inputs.lastValidPos r + 1 + k)) rfl
    fun _ _ isLane => isLane
  contextPositions := context_agrees batch.ranges fun r j =>
    inputs.targetPositions (inputs.targetQueryStartLoc r + j)
  contextSlotMapping := context_agrees batch.ranges fun r j =>
    inputs.slot r (inputs.targetPositions (inputs.targetQueryStartLoc r + j))
  contextCommitMask := context_agrees batch.ranges fun r j =>
    decide (j < inputs.numCtx r - inputs.numRejected r)
  sampleIndices := lanes_agree (fun r k => r * inputs.numQueryPerReq + k) batch.isBlock
    fun _ _ => mem_sampleLanes.mp
  samplePos := lanes_agree (fun r k => inputs.lastValidPos r + 1 + k) batch.isBlock
    fun _ _ => mem_sampleLanes.mp
  sampleIdxMapping := lanes_agree (fun r _ => inputs.idxMapping r) batch.isBlock
    fun _ _ => mem_sampleLanes.mp

/-- `prepare_dspark_inputs` leaves the inputs of the draft block in the buffers, whatever the
order of its programs: no two of them give a cell two values. -/
theorem prepareDsparkInputs_exact (batch : inputs.DsparkBatch) {before after : DraftBuffers}
    (prepared : inputs.Prepared inputs.prepareDsparkInputsKernel before after) :
    inputs.DsparkAssembled after ∧ inputs.DsparkAgrees :=
  ⟨batch.assembled prepared, batch.agrees⟩

/-- Two requests of three and two tokens, one of the first rejected, in a runner with room
for three. -/
private def mixedBatch : DraftInputs where
  numReqs := 2
  targetPositions token := if token < 3 then 4 + token else token - 3
  targetQueryStartLoc r := if r = 0 then 0 else 1 + 2 * r
  maxTargetQueryLen := 3
  idxMapping r := 1 - r
  lastSampled _ := 9
  nextPrefillTokens _ := 7
  numSampled r := 1 - r
  numRejected r := 1 - r
  blockTable _ := 3
  blockTableStride := 4
  parallelDraftingTokenId := 100
  blockSize := 4
  numQueryPerReq := 2
  numSpeculativeSteps := 2
  maxNumReqs := 3
  maxNumTokens := 8

theorem prepareDsparkInputs_mixed :
    ∃ before after, mixedBatch.Prepared mixedBatch.prepareDsparkInputsKernel before after ∧
      mixedBatch.DsparkAssembled after ∧ mixedBatch.DsparkAgrees := by
  obtain ⟨after, prepared⟩ := mixedBatch.exists_prepared mixedBatch.prepareDsparkInputsKernel
    ⟨fun _ => 0, fun _ => 0, fun _ => 0, fun _ => 0, fun _ => 0, fun _ => 0, fun _ => 0, fun _ => false,
      fun _ => 0, fun _ => 0, fun _ => 0⟩
  have batch : mixedBatch.DsparkBatch := by
    refine ⟨⟨⟨?_⟩, ?_⟩, by decide, ?_, rfl⟩
    · show ∀ r < 2, mixedBatch.targetQueryStartLoc r ≤ mixedBatch.targetQueryStartLoc (r + 1)
      decide
    · show ∀ r < 2, mixedBatch.numCtx r ≤ 3
      decide
    · show ∀ r < 2, mixedBatch.numRejected r < mixedBatch.numCtx r
      decide
  exact ⟨_, after, prepared, prepareDsparkInputs_exact batch prepared⟩

end DraftInputs

end DeepSpark
