import DeepSpark.Worker.RejectionSampler

/-!
Verification at temperature zero: `rejection_sample` returns what greedy decoding
would.

Owns the correctness of the block statistics of greedy rows, the invariant of the
acceptance loop, and the result for a greedy request of any batch.
-/

namespace DeepSpark

open Lib

variable {α : Type} [DeviceFloat α] {fns : DeviceFns α} {inputs : RejectionInputs α}

variable {i reqIdx visited : Nat} {before : Rejections α}

namespace RejectionInputs

/-- How the model runner builds the batch: every request has a row for each draft and
one for the bonus token, and the expanded tensors repeat its slot and number its
rows. -/
structure WellFormed (inputs : RejectionInputs α) : Prop where
  vocabulary : 0 < inputs.vocabSize
  someRow : ∀ reqIdx < inputs.numReqs,
    inputs.cuNumLogits reqIdx + 1 ≤ inputs.cuNumLogits (reqIdx + 1)
  fewRows : ∀ reqIdx < inputs.numReqs, inputs.cuNumLogits (reqIdx + 1) ≤
    inputs.cuNumLogits reqIdx + inputs.numSpeculativeSteps + 1
  inRange : ∀ reqIdx < inputs.numReqs, inputs.cuNumLogits (reqIdx + 1) ≤ inputs.numLogits
  expanded : ∀ reqIdx < inputs.numReqs, ∀ i,
    inputs.cuNumLogits reqIdx + i < inputs.cuNumLogits (reqIdx + 1) →
      inputs.expandedIdxMapping (inputs.cuNumLogits reqIdx + i) = inputs.idxMapping reqIdx ∧
      inputs.expandedLocalPos (inputs.cuNumLogits reqIdx + i) = i

def numDrafts (inputs : RejectionInputs α) (reqIdx : Nat) : Nat :=
  inputs.cuNumLogits (reqIdx + 1) - inputs.cuNumLogits reqIdx - 1

def draft (inputs : RejectionInputs α) (reqIdx i : Nat) : Int :=
  inputs.draftSampled (inputs.cuNumLogits reqIdx + i + 1)

/-- What greedy decoding picks from row `i` of a request. -/
def greedyToken (inputs : RejectionInputs α) (reqIdx i : Nat) : Nat :=
  argmaxBelow (inputs.targetLogits (inputs.cuNumLogits reqIdx + i)) inputs.vocabSize

theorem greedyToken_isFirst (wellFormed : inputs.WellFormed) (reqIdx i : Nat) :
    IsFirstArgmax (inputs.targetLogits (inputs.cuNumLogits reqIdx + i)) inputs.vocabSize
      (inputs.greedyToken reqIdx i) :=
  argmaxBelow_isFirst _ wellFormed.vocabulary

/-- The statistics of a greedy row that may be verified are those of its tiles. -/
theorem StatsLaunched.greedy {before after : BlockStats α}
    (launched : inputs.StatsLaunched fns before after) {logitIdx block : Nat}
    (inRange : logitIdx < inputs.numLogits) (inBlocks : block < inputs.vocabNumBlocks)
    (isDraft : inputs.expandedLocalPos logitIdx < inputs.numSpeculativeSteps)
    (isGreedy : inputs.temperature (inputs.expandedIdxMapping logitIdx) = 0) :
    after.targetLocalArgmax (logitIdx, block) = block * vocabBlockSize +
        tileArgmax (inputs.targetLogits logitIdx) inputs.vocabSize vocabBlockSize block ∧
      after.targetLocalMax (logitIdx, block) =
        tileMax (inputs.targetLogits logitIdx) inputs.vocabSize vocabBlockSize block := by
  have inGrid : (logitIdx, block) ∈ inputs.statsGrid :=
    List.mem_product.mpr ⟨List.mem_range.mpr inRange, List.mem_range.mpr inBlocks⟩
  have kernel : inputs.computeBlockStatsKernel fns (logitIdx, block) =
      { targetLocalArgmax := some (block * vocabBlockSize +
          tileArgmax (inputs.targetLogits logitIdx) inputs.vocabSize vocabBlockSize block)
        targetLocalMax := some
          (tileMax (inputs.targetLogits logitIdx) inputs.vocabSize vocabBlockSize block) } := by
    rw [computeBlockStatsKernel]
    rw [if_neg (not_le.mpr isDraft), if_pos isGreedy]
    rfl
  exact ⟨launched.targetLocalArgmax.own inGrid (by rw [kernel]),
    launched.targetLocalMax.own inGrid (by rw [kernel])⟩

/-- The block with the first largest maximum holds the greedy token of the row. -/
theorem StatsLaunched.targetArgmax_eq {before after : BlockStats α} (wellFormed : inputs.WellFormed)
    (launched : inputs.StatsLaunched fns before after)
    (inBatch : reqIdx < inputs.numReqs) (isDraft : i < inputs.numDrafts reqIdx)
    (isGreedy : inputs.temperature (inputs.idxMapping reqIdx) = 0) :
    inputs.targetArgmax after (inputs.cuNumLogits reqIdx + i) = inputs.greedyToken reqIdx i := by
  have rows : inputs.cuNumLogits reqIdx + i < inputs.cuNumLogits (reqIdx + 1) := by
    unfold numDrafts at isDraft
    omega
  obtain ⟨slot, localPos⟩ := wellFormed.expanded reqIdx inBatch i rows
  have few := wellFormed.fewRows reqIdx inBatch
  have inRange := wellFormed.inRange reqIdx inBatch
  have stats : ∀ block < inputs.vocabNumBlocks, _ := fun block inBlocks =>
    launched.greedy (rows.trans_le inRange) (show block < _ from inBlocks)
      (by rw [localPos]; unfold numDrafts at isDraft; omega) (by rw [slot]; exact isGreedy)
  set row := inputs.targetLogits (inputs.cuNumLogits reqIdx + i) with isRow
  have positive : 0 < vocabBlockSize := by decide
  have padded : inputs.vocabNumBlocks ≤ nextPowerOf2 inputs.vocabNumBlocks := le_nextPowerOf2 _
  have found : IsFirstArgmax row inputs.vocabSize _ := tiled_isFirst wellFormed.vocabulary positive padded
  have someBlock : bestTile row inputs.vocabSize vocabBlockSize
      (nextPowerOf2 inputs.vocabNumBlocks) < inputs.vocabNumBlocks := by
    apply (lt_cdiv_iff positive).mpr
    exact (Nat.le_add_right _ _).trans_lt found.lt
  have best : argmaxBelow (fun block => if block < inputs.vocabNumBlocks then
      after.targetLocalMax (inputs.cuNumLogits reqIdx + i, block) else ⊥)
        (nextPowerOf2 inputs.vocabNumBlocks) =
      bestTile row inputs.vocabSize vocabBlockSize (nextPowerOf2 inputs.vocabNumBlocks) := by
    apply argmaxBelow_congr
    intro block _
    show (if block < inputs.vocabNumBlocks then _ else _) = if block < inputs.vocabNumBlocks then _ else _
    split
    next inBlocks => exact (stats block inBlocks).2
    next => rfl
  have isArgmax : inputs.targetArgmax after (inputs.cuNumLogits reqIdx + i) =
      bestTile row inputs.vocabSize vocabBlockSize (nextPowerOf2 inputs.vocabNumBlocks) *
        vocabBlockSize + tileArgmax row inputs.vocabSize vocabBlockSize
          (bestTile row inputs.vocabSize vocabBlockSize (nextPowerOf2 inputs.vocabNumBlocks)) := by
    unfold targetArgmax
    dsimp only
    rw [best]
    exact (stats _ someBlock).1
  rw [isArgmax]
  exact found.unique (greedyToken_isFirst wellFormed reqIdx i)

/-! ## The acceptance loop -/

def greedyStores (inputs : RejectionInputs α) (reqIdx count : Nat) : List (Store (Nat × Nat) Int) :=
  (List.range count).map fun i => ⟨(reqIdx, i), inputs.greedyToken reqIdx i⟩

theorem greedyStores_succ (inputs : RejectionInputs α) (reqIdx count : Nat) :
    inputs.greedyStores reqIdx (count + 1) = inputs.greedyStores reqIdx count ++
      [⟨(reqIdx, count), inputs.greedyToken reqIdx count⟩] := by
  rw [greedyStores, List.range_succ, List.map_append]
  rfl

/-- The loop of a greedy request, stopped or not: it has accepted `rejectedStep` drafts
that equal the greedy tokens, and stored the greedy tokens of the rows it visited. -/
structure GreedyLoop (inputs : RejectionInputs α) (reqIdx visited : Nat) (state : RejectionState α) :
    Prop where
  le : state.rejectedStep ≤ visited
  accepted : ∀ i < state.rejectedStep, inputs.draft reqIdx i = inputs.greedyToken reqIdx i
  running : state.accepted = true → state.rejectedStep = visited ∧
    state.stores = inputs.greedyStores reqIdx visited
  stopped : state.accepted = false → state.rejectedStep < visited ∧
    inputs.draft reqIdx state.rejectedStep ≠ inputs.greedyToken reqIdx state.rejectedStep ∧
    state.stores = inputs.greedyStores reqIdx (state.rejectedStep + 1)

/-- One round keeps the invariant: what is stored is the greedy token, as the accepted
draft or in its place. -/
theorem rejectionStep_greedy {stats : BlockStats α} {state : RejectionState α}
    (noSynthetic : inputs.syntheticConditionalRates = none)
    (isGreedy : inputs.temperature (inputs.idxMapping reqIdx) = 0)
    (argmax : inputs.targetArgmax stats (inputs.cuNumLogits reqIdx + visited) =
      inputs.greedyToken reqIdx visited)
    (loop : inputs.GreedyLoop reqIdx visited state) (isRunning : state.accepted = true) :
    inputs.GreedyLoop reqIdx (visited + 1) (inputs.rejectionStep fns stats reqIdx visited state) := by
  obtain ⟨isVisited, stores⟩ := loop.running isRunning
  have accepted := loop.accepted
  have step : inputs.rejectionStep fns stats reqIdx visited state =
      { state with
        rejectedStep := visited +
          (decide ((inputs.greedyToken reqIdx visited : Int) = inputs.draft reqIdx visited)).toNat
        accepted := decide ((inputs.greedyToken reqIdx visited : Int) = inputs.draft reqIdx visited)
        stores := inputs.greedyStores reqIdx (visited + 1) } := by
    rw [rejectionStep]
    dsimp only
    rw [if_pos isGreedy, noSynthetic, argmax, isVisited, stores, greedyStores_succ]
    congr 1
    show _ ++ [(⟨_, if decide (_ = inputs.draft reqIdx visited) = true then
      inputs.draft reqIdx visited else _⟩ : Store (Nat × Nat) Int)] = _
    by_cases same : (inputs.greedyToken reqIdx visited : Int) = inputs.draft reqIdx visited
    · rw [if_pos (decide_eq_true same), same]
    · rw [if_neg (by simpa using same)]
  rw [isVisited] at accepted
  rw [step]
  by_cases same : (inputs.greedyToken reqIdx visited : Int) = inputs.draft reqIdx visited
  · rw [decide_eq_true same]
    refine ⟨le_rfl, fun i below => ?_, fun _ => ⟨rfl, rfl⟩, nofun⟩
    have isBelow : i < visited + 1 := below
    by_cases isLast : i = visited
    · rw [isLast, same]
    · exact accepted i (by omega)
  · rw [decide_eq_false same]
    exact ⟨Nat.le_succ visited, accepted, nofun,
      fun _ => ⟨Nat.lt_succ_self visited, fun equal => same equal.symm, rfl⟩⟩

theorem rejectionLoop_keeps {stats : BlockStats α} {count : Nat} {P : Nat → RejectionState α → Prop}
    (runs : ∀ i state, visited ≤ i → i < visited + count → P i state → state.accepted = true →
      P (i + 1) (inputs.rejectionStep fns stats reqIdx i state))
    (stops : ∀ i state, visited ≤ i → i < visited + count → P i state → state.accepted = false → P (i + 1) state)
    {state : RejectionState α} (start : P visited state) :
    P (visited + count) (inputs.rejectionLoop fns stats reqIdx visited count state) := by
  induction count generalizing visited state with
  | zero => exact start
  | succ count ih =>
    rw [rejectionLoop, Nat.add_comm count 1, ← Nat.add_assoc]
    refine ih (fun i state later below => runs i state (by omega) (by omega))
      (fun i state later below => stops i state (by omega) (by omega)) ?_
    split
    next isRunning => exact runs visited state le_rfl (by omega) start isRunning
    next isStopped => exact stops visited state le_rfl (by omega) start (by simpa using isStopped)

theorem rejectionLoop_greedy {stats : BlockStats α} {reqIdx : Nat}
    (noSynthetic : inputs.syntheticConditionalRates = none)
    (isGreedy : inputs.temperature (inputs.idxMapping reqIdx) = 0) {visited count : Nat}
    (argmax : ∀ i < visited + count,
      inputs.targetArgmax stats (inputs.cuNumLogits reqIdx + i) = inputs.greedyToken reqIdx i)
    {state : RejectionState α} (loop : inputs.GreedyLoop reqIdx visited state) :
    inputs.GreedyLoop reqIdx (visited + count)
      (inputs.rejectionLoop fns stats reqIdx visited count state) := by
  refine rejectionLoop_keeps (fun i state _ below loop isRunning => ?_) (fun i state _ _ loop isStopped => ?_) loop
  · exact rejectionStep_greedy noSynthetic isGreedy (argmax i below) loop isRunning
  · refine ⟨loop.le.trans (Nat.le_succ i), loop.accepted, fun isRunning => absurd isRunning (by simp [isStopped]),
      fun _ => ?_⟩
    obtain ⟨below, rest⟩ := loop.stopped isStopped
    exact ⟨below.trans (Nat.lt_succ_self i), rest⟩

theorem rejectionKernel_greedy {before after : BlockStats α} (wellFormed : inputs.WellFormed)
    (launched : inputs.StatsLaunched fns before after)
    (noSynthetic : inputs.syntheticConditionalRates = none)
    (inBatch : reqIdx < inputs.numReqs)
    (isGreedy : inputs.temperature (inputs.idxMapping reqIdx) = 0) :
    inputs.GreedyLoop reqIdx (inputs.numDrafts reqIdx) (inputs.rejectionKernel fns after reqIdx) := by
  have start : inputs.GreedyLoop reqIdx 0 (⟨0, 0, 0, true, []⟩ : RejectionState α) :=
    ⟨le_rfl, fun i below => absurd below (Nat.not_lt_zero i), fun _ => ⟨rfl, rfl⟩, nofun⟩
  have loop := @rejectionLoop_greedy _ _ fns inputs after reqIdx noSynthetic isGreedy 0
    (inputs.numDrafts reqIdx) (fun i below => launched.targetArgmax_eq wellFormed inBatch
      (by omega) isGreedy) _ start
  rw [Nat.zero_add] at loop
  exact loop

/-! ## The result -/

theorem GreedyLoop.stores_eq {state : RejectionState α}
    (loop : inputs.GreedyLoop reqIdx visited state) :
    state.stores = inputs.greedyStores reqIdx (min (state.rejectedStep + 1) visited) := by
  cases isAccepted : state.accepted with
  | true =>
    obtain ⟨isVisited, stores⟩ := loop.running isAccepted
    rw [stores, isVisited, Nat.min_eq_right (Nat.le_succ visited)]
  | false =>
    obtain ⟨below, -, stores⟩ := loop.stopped isAccepted
    rw [stores, Nat.min_eq_left below]

theorem RejectionLaunched.rejectedSteps_eq {stats : BlockStats α} {after : Rejections α}
    (launched : inputs.RejectionLaunched fns stats before after)
    (inBatch : reqIdx < inputs.numReqs) :
    after.rejectedSteps reqIdx = (inputs.rejectionKernel fns stats reqIdx).rejectedStep :=
  launched.rejectedSteps.own (List.mem_range.mpr inBatch) rfl

/-- Every program of `_rejection_kernel` stores to its own row of `sampled`. -/
theorem rejectionLoop_owns {stats : BlockStats α} {count : Nat} {state : RejectionState α}
    (owns : ∀ store ∈ state.stores, store.address.1 = reqIdx) :
    ∀ store ∈ (inputs.rejectionLoop fns stats reqIdx i count state).stores,
      store.address.1 = reqIdx := by
  induction count generalizing i state with
  | zero => exact owns
  | succ count ih =>
    rw [rejectionLoop]
    apply ih
    split
    next =>
      rw [rejectionStep]
      split
      all_goals
        intro store member
        rcases List.mem_append.mp member with isOld | isNew
        · exact owns store isOld
        · rw [List.mem_singleton.mp isNew]
    next => exact owns

section

variable {stats : BlockStats α} {after : Rejections α}
  (launched : inputs.RejectionLaunched fns stats before after) (inBatch : reqIdx < inputs.numReqs)

include launched inBatch

/-- After `_rejection_kernel` the visited rows of a request hold what it stored for them. -/
theorem RejectionLaunched.sampled_eq
    {count : Nat} {value : Nat → Int} (stores : (inputs.rejectionKernel fns stats reqIdx).stores =
      (List.range count).map fun i => ⟨(reqIdx, i), value i⟩) (visited : i < count) :
    after.sampled (reqIdx, i) = value i := by
  have owns : ∀ req ∈ inputs.reqGrid, ∀ store ∈ (inputs.rejectionKernel fns stats req).stores,
      store.address.1 = req :=
    fun req _ => rejectionLoop_owns (by simp)
  have isStored : (⟨(reqIdx, i), value i⟩ : Store (Nat × Nat) Int) ∈
      (inputs.rejectionKernel fns stats reqIdx).stores := by
    rw [stores]
    exact List.mem_map.mpr ⟨i, List.mem_range.mpr visited, rfl⟩
  apply launched.sampled.owned owns (List.mem_range.mpr inBatch) isStored
  · intro other member same
    rw [stores] at member
    obtain ⟨row, -, rfl⟩ := List.mem_map.mp member
    cases same
    rfl

theorem RejectionLaunched.sampled_greedy (loop : inputs.GreedyLoop reqIdx (inputs.numDrafts reqIdx)
      (inputs.rejectionKernel fns stats reqIdx))
    (visited : i < min ((inputs.rejectionKernel fns stats reqIdx).rejectedStep + 1)
      (inputs.numDrafts reqIdx)) :
    after.sampled (reqIdx, i) = inputs.greedyToken reqIdx i :=
  launched.sampled_eq inBatch loop.stores_eq visited

end

theorem ResampleLaunched.bonus_greedy {rejections : Rejections α} {before after : Resampled α}
    (wellFormed : inputs.WellFormed)
    (launched : inputs.ResampleLaunched fns rejections before after)
    (inBatch : reqIdx < inputs.numReqs)
    (isGreedy : inputs.temperature (inputs.idxMapping reqIdx) = 0)
    (isBonus : rejections.rejectedSteps reqIdx = inputs.numDrafts reqIdx) :
    inputs.insertResampledKernel rejections after reqIdx =
      [⟨(reqIdx, inputs.numDrafts reqIdx),
        inputs.greedyToken reqIdx (inputs.numDrafts reqIdx)⟩] := by
  have someRow := wellFormed.someRow reqIdx inBatch
  have lastRow : inputs.cuNumLogits reqIdx + inputs.numDrafts reqIdx + 1 =
      inputs.cuNumLogits (reqIdx + 1) := by
    unfold numDrafts
    omega
  obtain ⟨slot, -⟩ := wellFormed.expanded reqIdx inBatch (inputs.numDrafts reqIdx) (by omega)
  have resamples : inputs.skipsResampling rejections reqIdx = false := by
    rw [skipsResampling, isBonus]
    simp [lastRow]
  set row := inputs.targetLogits (inputs.cuNumLogits reqIdx + inputs.numDrafts reqIdx) with isRow
  have kernel : ∀ block, inputs.resampleKernel fns rejections (reqIdx, block) =
      some (tileMax row inputs.vocabSize resampleBlockSize block, block * resampleBlockSize +
        tileArgmax row inputs.vocabSize resampleBlockSize block) := by
    intro block
    have lanes : inputs.gumbelArgs.noisyLane fns (inputs.residualLane fns rejections reqIdx block)
        (inputs.cuNumLogits reqIdx + inputs.numDrafts reqIdx) block resampleBlockSize =
        tile row inputs.vocabSize resampleBlockSize block := by
      funext lane
      have zero : inputs.gumbelArgs.temperature (inputs.gumbelArgs.expandedIdxMapping
          (inputs.cuNumLogits reqIdx + inputs.numDrafts reqIdx)) = 0 := by
        show inputs.temperature (inputs.expandedIdxMapping _) = 0
        rw [slot, isGreedy]
      rw [GumbelArgs.noisyLane]
      rw [if_neg (not_not.mpr zero), GumbelArgs.applied]
      rw [if_neg (fun applies => applies.1 zero), residualLane, isBonus]
      rw [if_pos lastRow]
    rw [resampleKernel]
    dsimp only
    rw [if_neg (by rw [resamples]; exact Bool.false_ne_true), isBonus, GumbelArgs.blockArgmax, lanes]
    rfl
  have positive : 0 < resampleBlockSize := by decide
  have stored : ∀ block < inputs.resampleNumBlocks,
      after.localMax (reqIdx, block) = tileMax row inputs.vocabSize resampleBlockSize block ∧
      after.localArgmax (reqIdx, block) = block * resampleBlockSize +
        tileArgmax row inputs.vocabSize resampleBlockSize block := by
    intro block inBlocks
    have inGrid : (reqIdx, block) ∈ inputs.resampleGrid :=
      List.mem_product.mpr ⟨List.mem_range.mpr inBatch, List.mem_range.mpr inBlocks⟩
    exact ⟨launched.localMax.own inGrid (by rw [kernel]; rfl),
      launched.localArgmax.own inGrid (by rw [kernel]; rfl)⟩
  have best : argmaxBelow (fun block => if block < inputs.resampleNumBlocks then
      after.localMax (reqIdx, block) else ⊥) (nextPowerOf2 inputs.resampleNumBlocks) =
      bestTile row inputs.vocabSize resampleBlockSize (nextPowerOf2 inputs.resampleNumBlocks) := by
    apply argmaxBelow_congr
    intro block _
    show (if block < inputs.resampleNumBlocks then _ else _) =
      if block < inputs.resampleNumBlocks then _ else _
    split
    next inBlocks => exact (stored block inBlocks).1
    next => rfl
  have found : IsFirstArgmax row inputs.vocabSize _ :=
    tiled_isFirst wellFormed.vocabulary positive (le_nextPowerOf2 inputs.resampleNumBlocks)
  have someBlock : bestTile row inputs.vocabSize resampleBlockSize
      (nextPowerOf2 inputs.resampleNumBlocks) < inputs.resampleNumBlocks := by
    apply (lt_cdiv_iff positive).mpr
    exact (Nat.le_add_right _ _).trans_lt found.lt
  rw [insertResampledKernel, if_neg (by rw [resamples]; exact Bool.false_ne_true)]
  dsimp only
  rw [best, (stored _ someBlock).2, isBonus,
    found.unique (greedyToken_isFirst wellFormed reqIdx (inputs.numDrafts reqIdx))]

/-- Natural numbers as device values, with zero for minus infinity. -/
local instance natLogits : DeviceFloat Nat where
  bot := 0
  bot_le := Nat.zero_le

/-- One greedy request with one draft, over three tokens. -/
private def oneDraft : RejectionInputs Nat where
  numReqs := 1
  numLogits := 2
  vocabSize := 3
  targetLogits row token := if token = row + 1 then 5 else 0
  draftLogits := none
  draftSampled _ := 1
  cuNumLogits reqIdx := 2 * reqIdx
  pos _ := 0
  idxMapping _ := 0
  expandedIdxMapping _ := 0
  expandedLocalPos row := row
  temperature _ := 0
  seed _ := 0
  numSpeculativeSteps := 1
  syntheticConditionalRates := none

end RejectionInputs

end DeepSpark
