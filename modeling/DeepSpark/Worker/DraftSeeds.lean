import DeepSpark.Worker.AutoregressiveDrafts
import DeepSpark.Worker.DraftLogits
import DeepSpark.Worker.SamplerRows

/-!
The positions that seed the draws of the speculators and of the target.

Owns what a `propose` reads of the step before it, the position each draft is drawn at, the
position of the row that verifies a draft, and for which speculators the two agree.
-/

namespace DeepSpark

open Lib

/-! ## A `propose` after a step -/

inductive SpeculatorMethod where
  | autoregressive
  | parallel (method : DraftMethod)
deriving DecidableEq, Repr

section

variable (layout : BatchLayout) (states : DeviceStates) (buffers : InputBuffers) (result : SamplerResult)
  (after : DeviceStates)

/-- The inputs of `prepare_prefill_inputs` are those of the step. -/
structure AutoregressiveInputs.Follows (inputs : AutoregressiveInputs) : Prop where
  numReqs : inputs.numReqs = layout.numReqs
  targetInputIds : inputs.targetInputIds = buffers.inputIds
  targetPositions : inputs.targetPositions = buffers.positions
  queryStartLoc : inputs.queryStartLoc = layout.queryStartLoc
  seqLens : inputs.seqLens = buffers.seqLens
  idxMapping : inputs.idxMapping = layout.idxMapping
  lastSampled : inputs.lastSampled = after.lastSampledTokens
  nextPrefillTokens : inputs.nextPrefillTokens = after.nextPrefillTokens
  numSampled : inputs.numSampled = layout.numSampled states buffers.seqLens result
  numRejected : inputs.numRejected = layout.numRejected states buffers.seqLens result
  maxNumReqs : inputs.maxNumReqs = layout.maxNumReqs
  maxModelLen : inputs.maxModelLen = layout.maxModelLen
  numSpeculativeSteps : inputs.numSpeculativeSteps = layout.numSpeculativeSteps

/-- The inputs of `prepare_dflash_inputs` and `prepare_dspark_inputs` are those of the step. -/
structure DraftInputs.Follows (inputs : DraftInputs) : Prop where
  numReqs : inputs.numReqs = layout.numReqs
  targetPositions : inputs.targetPositions = buffers.positions
  targetQueryStartLoc : inputs.targetQueryStartLoc = layout.queryStartLoc
  idxMapping : inputs.idxMapping = layout.idxMapping
  lastSampled : inputs.lastSampled = after.lastSampledTokens
  nextPrefillTokens : inputs.nextPrefillTokens = after.nextPrefillTokens
  numSampled : inputs.numSampled = layout.numSampled states buffers.seqLens result
  numRejected : inputs.numRejected = layout.numRejected states buffers.seqLens result
  numSpeculativeSteps : inputs.numSpeculativeSteps = layout.numSpeculativeSteps

variable {α : Type} [DeviceFloat α]

def ProposeCall.drawPos (speculator : ParallelSpeculator) (call : ProposeCall α) (trace : ProposeTrace α)
    (reqIdx step : Nat) : Int :=
  match speculator.method with
  | .dflash => (call.dflashArgs speculator trace).pos (reqIdx * speculator.numSpeculativeSteps + step)
  | .dspark => (call.dsparkArgs speculator trace step).pos reqIdx

/-- A `propose` after a step, by the positions its drafts are drawn at. -/
inductive SpeculatorMethod.Proposes (fns : DeviceFns α) : SpeculatorMethod → (Nat → Nat → Int) → Prop
  | autoregressive {inputs : AutoregressiveInputs} {before : AutoregressiveBuffers}
      {trace : AutoregressiveInputs.Trace} {prefillPadded decodePadded : Nat}
      (follows : inputs.Follows layout states buffers result after) (advances : inputs.advanceDraftPositions = true)
      (proposed : inputs.Proposed prefillPadded decodePadded before trace) (vocabSize : Nat)
      (temperature : Nat → α) (seeds : Nat → Int) :
      Proposes fns .autoregressive fun reqIdx step =>
        (inputs.sampleDraftArgs trace vocabSize temperature seeds step).pos reqIdx
  | parallel {speculator : ParallelSpeculator} {call : ProposeCall α} {trace : ProposeTrace α}
      (follows : call.inputs.Follows layout states buffers result after)
      (proposed : call.Proposed fns speculator trace) :
      Proposes fns (.parallel speculator.method) (call.drawPos speculator trace)

/-- `pos` of `RejectionSampler.__call__`. -/
def InputBuffers.targetPos (logitIdx : Nat) : Int := (buffers.sampledPositions logitIdx : Int)

end

/-- What happens between two steps of the request of a slot. -/
inductive Idles (maxModelLen numSpeculativeSteps slot : Nat) (start : DeviceStates) : DeviceStates → Prop
  | none : Idles maxModelLen numSpeculativeSteps slot start start
  | otherEnters {states : DeviceStates} (idles : Idles maxModelLen numSpeculativeSteps slot start states)
      (other : Nat) (isOther : other ≠ slot) (allTokenIds : List Int) (numComputedTokens : Nat)
      (room : allTokenIds.length ≤ maxModelLen) :
      Idles maxModelLen numSpeculativeSteps slot start
        (states.addRequest maxModelLen other allTokenIds numComputedTokens)
  | drafted {states : DeviceStates} (idles : Idles maxModelLen numSpeculativeSteps slot start states)
      (draftTokens : Nat → Nat → Int) :
      Idles maxModelLen numSpeculativeSteps slot start { states with draftTokens := draftTokens }
  | otherStep {states : DeviceStates} (idles : Idles maxModelLen numSpeculativeSteps slot start states)
      {layout : BatchLayout} {buffers : InputBuffers} {result : SamplerResult} {after : DeviceStates}
      (step : RunnerStep maxModelLen numSpeculativeSteps layout states buffers result after)
      (foreign : ∀ row < layout.numReqs, layout.idxMapping row ≠ slot) :
      Idles maxModelLen numSpeculativeSteps slot start after

variable {maxModelLen numSpeculativeSteps slot : Nat} {states : DeviceStates} {cache : Buffer Nat (Option Int)}
  {seq next : Sequence} {layout : BatchLayout} {buffers : InputBuffers} {result : SamplerResult}
  {after : DeviceStates} {row : Nat}

theorem Serves.idles {later : DeviceStates} (serves : Serves maxModelLen numSpeculativeSteps slot states cache seq)
    (idles : Idles maxModelLen numSpeculativeSteps slot states later) :
    Serves maxModelLen numSpeculativeSteps slot later cache seq := by
  induction idles with
  | none => exact serves
  | otherEnters _ other isOther allTokenIds numComputedTokens room ih =>
    exact ih.otherEnters other isOther allTokenIds numComputedTokens room
  | drafted _ draftTokens ih => exact ih.drafted draftTokens
  | otherStep _ step foreign ih => exact ih.otherStep step foreign

/-! ## The last token that was not rejected -/

theorem Sequence.Takes.progress {turn : Turn} (takes : seq.Takes numSpeculativeSteps turn next) :
    seq.numComputed < next.numComputed := by
  cases takes with
  | chunk positive _ _ => exact Nat.lt_add_of_pos_right positive
  | prefilled _ positive reaches _ _ =>
    show seq.numComputed < seq.prefillLen
    omega
  | decode accepted token _ _ _ _ isSampled =>
    rw [isSampled, List.length_append]
    exact Nat.lt_add_of_pos_right (Nat.succ_pos _)

section

variable (tracks : Tracks maxModelLen slot states cache seq)
  (step : RunnerStep maxModelLen numSpeculativeSteps layout states buffers result after)
  (inBatch : row < layout.numReqs) (isSlot : layout.idxMapping row = slot)
  (takes : seq.Takes numSpeculativeSteps (layout.turn states result row) next)

include tracks step inBatch isSlot takes

theorem Tracks.lastValid :
    0 < layout.queryLen row - layout.numRejected states buffers.seqLens result row ∧
      buffers.positions (layout.queryStartLoc row +
        (layout.queryLen row - layout.numRejected states buffers.seqLens result row) - 1) + 1 = next.numComputed := by
  obtain ⟨-, -, isComputed⟩ := tracks.counts step inBatch isSlot takes
  have progress := takes.progress
  have positive : 0 < layout.queryLen row - layout.numRejected states buffers.seqLens result row := by omega
  have isPosition := (tracks.feeds step inBatch isSlot takes).position
    (layout.queryLen row - layout.numRejected states buffers.seqLens result row - 1)
    (show _ < layout.queryLen row by omega)
  refine ⟨positive, ?_⟩
  rw [Nat.add_sub_assoc positive, isPosition]
  omega

/-- The drafts of the autoregressive speculators are drawn one position before theirs. -/
theorem Tracks.autoregressivePos {inputs : AutoregressiveInputs} {before : AutoregressiveBuffers}
    {trace : AutoregressiveInputs.Trace} {prefillPadded decodePadded : Nat}
    (follows : inputs.Follows layout states buffers result after) (advances : inputs.advanceDraftPositions = true)
    (proposed : inputs.Proposed prefillPadded decodePadded before trace) {index : Nat}
    (inSteps : index < numSpeculativeSteps) (below : next.numComputed + 1 + index < maxModelLen) :
    trace.positions index row + 1 = next.numComputed + index := by
  obtain ⟨positive, isLast⟩ := tracks.lastValid step inBatch isSlot takes
  have isQueryLen : inputs.queryLen row =
      layout.queryLen row - layout.numRejected states buffers.seqLens result row := by
    rw [AutoregressiveInputs.queryLen, follows.queryStartLoc, follows.numRejected]
    rfl
  have inRows : row < inputs.numReqs := follows.numReqs.symm ▸ inBatch
  have isFirst : trace.positions 0 row + 1 = next.numComputed := by
    rw [proposed.prefillPosition inRows (isQueryLen ▸ positive), AutoregressiveInputs.lastTokenIndex, isQueryLen,
      follows.targetPositions, follows.queryStartLoc]
    exact isLast
  rcases Nat.eq_zero_or_pos index with rfl | positiveIndex
  · exact isFirst
  · have inInputs : index < inputs.numSpeculativeSteps := by
      rw [follows.numSpeculativeSteps, step.steps]
      exact inSteps
    have isModelLen : inputs.maxModelLen = maxModelLen := follows.maxModelLen.trans step.stride
    rw [proposed.position advances inRows inInputs positiveIndex, isModelLen]
    omega

end

/-! ## The sampled positions of the parallel speculators -/

section

variable {α : Type} [DeviceFloat α] {fns : DeviceFns α} {speculator : ParallelSpeculator} {call : ProposeCall α}
  {trace : ProposeTrace α}

theorem ProposeCall.Proposed.samplePos (proposed : call.Proposed fns speculator trace) {r i : Nat}
    (inBatch : r < call.inputs.numReqs) (inSteps : i < speculator.numSpeculativeSteps) :
    trace.buffers.samplePos (r * speculator.numSpeculativeSteps + i) =
      call.inputs.lastValidPos r + 1 + (speculator.firstSample + i) := by
  obtain ⟨before, prepared⟩ := proposed.prepared
  have launched : Launched call.inputs.grid (fun program =>
      (((call.inputs.queryLanes program.1 program.2).filter
        fun queryOff => decide (speculator.firstSample ≤ queryOff)).map fun queryOff =>
          (⟨program.1 * speculator.numSpeculativeSteps + (queryOff - speculator.firstSample),
            call.inputs.lastValidPos program.1 + 1 + queryOff⟩ : Store Nat Nat)) ++
        call.inputs.padding program (call.inputs.numReqs * speculator.numSpeculativeSteps)
          (speculator.maxNumReqs * speculator.numSpeculativeSteps) 0)
      before.samplePos trace.buffers.samplePos := by
    have launched := prepared.samplePos
    rw [← proposed.accepts.numSpeculativeSteps, ← proposed.accepts.maxNumReqs]
    unfold ParallelSpeculator.prepareKernel at launched
    unfold ParallelSpeculator.firstSample
    cases isMethod : speculator.method with
    | dflash =>
      rw [isMethod] at launched
      exact launched
    | dspark =>
      rw [isMethod] at launched
      exact launched
  exact DraftInputs.lane_stored (fun r queryOff => call.inputs.lastValidPos r + 1 + queryOff) _
    proposed.accepts.wellFormed launched (fun program queryOff => by rw [List.mem_filter, decide_eq_true_iff, and_comm])
    (ProposeCall.isWidth proposed.accepts) inBatch inSteps

omit [DeviceFloat α] in
theorem ProposeCall.drawPos_eq (reqIdx step : Nat) : call.drawPos speculator trace reqIdx step =
    (trace.buffers.samplePos (reqIdx * speculator.numSpeculativeSteps + step) : Int) + 1 := by
  rw [ProposeCall.drawPos]
  cases speculator.method with
  | dflash => rfl
  | dspark => rfl

theorem Tracks.parallelPos (tracks : Tracks maxModelLen slot states cache seq)
    (step : RunnerStep maxModelLen numSpeculativeSteps layout states buffers result after)
    (inBatch : row < layout.numReqs) (isSlot : layout.idxMapping row = slot)
    (takes : seq.Takes numSpeculativeSteps (layout.turn states result row) next)
    (follows : call.inputs.Follows layout states buffers result after)
    (proposed : call.Proposed fns speculator trace) {index : Nat} (inSteps : index < numSpeculativeSteps) :
    call.drawPos speculator trace row index = (next.numComputed + index + (speculator.firstSample + 1) : Nat) := by
  obtain ⟨positive, isLast⟩ := tracks.lastValid step inBatch isSlot takes
  have isSteps : speculator.numSpeculativeSteps = numSpeculativeSteps :=
    proposed.accepts.numSpeculativeSteps.symm.trans (follows.numSpeculativeSteps.trans step.steps)
  have isLastValid : call.inputs.lastValidPos row + 1 = next.numComputed := by
    rw [DraftInputs.lastValidPos, follows.targetPositions, follows.targetQueryStartLoc, follows.numRejected,
      step.wellFormed.queryEnd inBatch, ← isLast]
    congr 2
    omega
  rw [ProposeCall.drawPos_eq, proposed.samplePos (follows.numReqs.symm ▸ inBatch) (isSteps.symm ▸ inSteps),
    isLastValid]
  omega

end

section

variable {α : Type} [DeviceFloat α] {fns : DeviceFns α} {speculatorMethod : SpeculatorMethod} {draw : Nat → Nat → Int}

/-- Below the maximum model length, each draft a step verifies was drawn with the position of
the row that verifies it if and only if the speculator is autoregressive or there is no such
draft. -/
theorem draftSeeds_match_iff (serves : Serves maxModelLen numSpeculativeSteps slot states cache seq)
    (step : RunnerStep maxModelLen numSpeculativeSteps layout states buffers result after)
    (inBatch : row < layout.numReqs) (isSlot : layout.idxMapping row = slot)
    (takes : seq.Takes numSpeculativeSteps (layout.turn states result row) next)
    (proposes : speculatorMethod.Proposes layout states buffers result after fns draw)
    {later : DeviceStates} (idles : Idles maxModelLen numSpeculativeSteps slot after later)
    {layout' : BatchLayout} {buffers' : InputBuffers} {result' : SamplerResult} {after' : DeviceStates} {row' : Nat}
    {last : Sequence} (step' : RunnerStep maxModelLen numSpeculativeSteps layout' later buffers' result' after')
    (inBatch' : row' < layout'.numReqs) (isSlot' : layout'.idxMapping row' = slot)
    (takes' : next.Takes numSpeculativeSteps (layout'.turn later result' row') last) :
    (∀ index < (layout'.turn later result' row').drafts.length, next.tokens.length + index < maxModelLen →
      draw row index = buffers'.targetPos (layout'.cuNumLogits row' + index)) ↔
        speculatorMethod = .autoregressive ∨
          ∀ index < (layout'.turn later result' row').drafts.length, maxModelLen ≤ next.tokens.length + index := by
  have tracks := serves.tracks
  have tracks' := ((serves.step step inBatch isSlot takes).idles idles).tracks
  have isTarget : ∀ index < (layout'.turn later result' row').drafts.length,
      next.tokens.length = next.numComputed + 1 ∧
        buffers'.targetPos (layout'.cuNumLogits row' + index) = (next.numComputed + index : Nat) := by
    intro index isDraft
    have samples := takes'.samples (Nat.succ_pos index) isDraft
    have isLogits := step'.numLogits_eq inBatch'
    have isLength : next.tokens.length = next.numComputed + 1 := by
      cases takes' with
      | chunk _ _ noDrafts =>
        rw [noDrafts] at isDraft
        exact nomatch isDraft
      | prefilled _ _ _ noDrafts _ =>
        rw [noDrafts] at isDraft
        exact nomatch isDraft
      | decode _ _ complete _ _ _ _ =>
        rcases tracks'.phase with ⟨incomplete, -⟩ | ⟨-, isLength, -⟩
        · exact absurd complete incomplete.not_ge
        · exact isLength
    refine ⟨isLength, ?_⟩
    rw [InputBuffers.targetPos, (tracks'.sampledRow step' inBatch' isSlot' takes' samples (by omega)).1, isLength,
      Nat.add_sub_cancel]
  have inSteps : ∀ index < (layout'.turn later result' row').drafts.length, index < numSpeculativeSteps :=
    fun _ isDraft => isDraft.trans_le takes'.bounded
  cases proposes with
  | autoregressive follows advances proposed vocabSize temperature seeds =>
    refine iff_of_true (fun index isDraft below => ?_) (Or.inl rfl)
    obtain ⟨isLength, isRow⟩ := isTarget index isDraft
    rw [isLength] at below
    have isDraw := tracks.autoregressivePos step inBatch isSlot takes follows advances proposed
      (inSteps index isDraft) below
    rw [isRow, ← isDraw]
    rfl
  | parallel follows proposed =>
    constructor
    · intro same
      refine Or.inr fun index isDraft => not_lt.mp fun below => ?_
      have isDraw := tracks.parallelPos step inBatch isSlot takes follows proposed (inSteps index isDraft)
      have isSame := isDraw.symm.trans ((same index isDraft below).trans (isTarget index isDraft).2)
      omega
    · rintro (isAutoregressive | none) index isDraft below
      · exact nomatch isAutoregressive
      · exact absurd below (none index isDraft).not_gt

end

/-! ## A request of one token with one draft -/

local instance drawnLogits : DeviceFloat Nat := RejectionInputs.natLogits

private def zeroFns : DeviceFns Nat := ⟨id, id, fun _ _ => 0, fun _ _ _ => 0⟩

/-- `DSparkSpeculator` draws the draft of the request at position 2, its row is at position 1. -/
theorem draftSeeds_dspark : ∃ states cache buffers result after later buffers' result' after' draw,
    Serves 8 1 0 states cache ⟨[7], 1, 0⟩ ∧ RunnerStep 8 1 (oneRow 1) states buffers result after ∧
      Sequence.Takes 1 ⟨[7], 1, 0⟩ ((oneRow 1).turn states result 0) ⟨[7, 9], 1, 1⟩ ∧
      (SpeculatorMethod.parallel .dspark).Proposes (oneRow 1) states buffers result after zeroFns draw ∧
      Idles 8 1 0 after later ∧ RunnerStep 8 1 (oneRow 2) later buffers' result' after' ∧
      Sequence.Takes 1 ⟨[7, 9], 1, 1⟩ ((oneRow 2).turn later result' 0) ⟨[7, 9, 5, 6], 1, 3⟩ ∧
      draw 0 0 = 2 ∧ buffers'.targetPos ((oneRow 2).cuNumLogits 0 + 0) = 1 := by
  obtain ⟨states, cache, buffers, result, after, buffers', result', after', serves, step, takes, step', takes'⟩ :=
    exists_twoSteps
  set speculator : ParallelSpeculator := ⟨.dspark, 1, 4, 1, by decide, by decide⟩ with isSpeculator
  set inputs : DraftInputs :=
    { numReqs := 1, targetPositions := buffers.positions, targetQueryStartLoc := (oneRow 1).queryStartLoc,
      maxTargetQueryLen := 1, idxMapping := (oneRow 1).idxMapping, lastSampled := after.lastSampledTokens,
      nextPrefillTokens := after.nextPrefillTokens,
      numSampled := (oneRow 1).numSampled states buffers.seqLens result,
      numRejected := (oneRow 1).numRejected states buffers.seqLens result,
      blockTable := fun _ => 0, blockTableStride := 1, parallelDraftingTokenId := 0, blockSize := 16,
      numQueryPerReq := 1, numSpeculativeSteps := 1, maxNumReqs := 4, maxNumTokens := 64 } with isInputs
  have accepts : speculator.Accepts inputs 1 := by
    refine ⟨⟨step.wellFormed.tokens, fun r _ => ?_⟩, Nat.one_pos, le_rfl, by decide, fun _ _ => (show 0 < 4 by decide),
      step.wellFormed.distinct, rfl, rfl, rfl⟩
    show (r + 1) * 1 - r * 1 ≤ 1
    omega
  set call : ProposeCall Nat := ⟨inputs, 1, fun _ _ _ => 0, fun _ => 0, fun _ => 0⟩ with isCall
  obtain ⟨trace, -, proposed⟩ := exists_dsparkTrace zeroFns rfl call accepts (fun _ => 0)
  have follows : call.inputs.Follows (oneRow 1) states buffers result after :=
    ⟨rfl, rfl, rfl, rfl, rfl, rfl, rfl, rfl, rfl⟩
  have tracks' := ((serves.step step Nat.one_pos rfl takes).drafted fun _ _ => 5).tracks
  refine ⟨states, cache, buffers, result, after, _, buffers', result', after', _, serves, step, takes,
    .parallel follows proposed, .drafted .none _, step', takes', ?_, ?_⟩
  · exact serves.tracks.parallelPos step Nat.one_pos rfl takes follows proposed Nat.one_pos
  · have samples := takes'.samples Nat.one_pos (le_refl 1)
    rw [InputBuffers.targetPos, (tracks'.sampledRow step' Nat.one_pos rfl takes' samples (by decide)).1]
    rfl

/-- An autoregressive speculator draws it at position 1. -/
theorem draftSeeds_match_autoregressive : ∃ states buffers result after later buffers' result' after' draw,
    SpeculatorMethod.autoregressive.Proposes (oneRow 1) states buffers result after zeroFns draw ∧
      RunnerStep 8 1 (oneRow 2) later buffers' result' after' ∧ ((oneRow 2).turn later result' 0).drafts = [5] ∧
      draw 0 0 = buffers'.targetPos ((oneRow 2).cuNumLogits 0 + 0) := by
  obtain ⟨states, cache, buffers, result, after, buffers', result', after', serves, step, takes, step', takes'⟩ :=
    exists_twoSteps
  set inputs : AutoregressiveInputs :=
    { numReqs := 1, targetInputIds := buffers.inputIds, targetPositions := buffers.positions,
      queryStartLoc := (oneRow 1).queryStartLoc, seqLens := buffers.seqLens, idxMapping := (oneRow 1).idxMapping,
      lastSampled := after.lastSampledTokens, nextPrefillTokens := after.nextPrefillTokens,
      numSampled := (oneRow 1).numSampled states buffers.seqLens result,
      numRejected := (oneRow 1).numRejected states buffers.seqLens result,
      maxNumReqs := 4, maxModelLen := 8, numSpeculativeSteps := 1, advanceDraftPositions := true } with isInputs
  set before : AutoregressiveBuffers :=
    ⟨fun _ => 0, fun _ => 0, fun _ => 0, fun _ => 0, fun _ => 0, fun _ _ => 0⟩ with isBefore
  obtain ⟨prepared, isPrepared⟩ : ∃ prepared, inputs.PreparedPrefill before prepared :=
    ⟨⟨_, _, _, _, _, _⟩, launched_launch _ _ _, launched_launch _ _ _, launched_launch _ _ _,
      launched_launch _ _ _, launched_launch _ _ _, rfl⟩
  have proposed : inputs.Proposed 1 1 before ⟨prepared, fun _ => prepared, fun _ _ => 0⟩ :=
    ⟨le_rfl, le_rfl, isPrepared, fun more => absurd more (Nat.lt_irrefl 1),
      fun step positive more => absurd more (Nat.not_lt.mpr (Nat.le_add_left 1 step))⟩
  have follows : inputs.Follows (oneRow 1) states buffers result after :=
    ⟨rfl, rfl, rfl, rfl, rfl, rfl, rfl, rfl, rfl, rfl, rfl, rfl, rfl⟩
  have proposes : SpeculatorMethod.autoregressive.Proposes (oneRow 1) states buffers result after zeroFns _ :=
    .autoregressive follows rfl proposed 1 (fun _ => 0) fun _ => 0
  refine ⟨states, buffers, result, after, _, buffers', result', after', _, proposes, step', rfl, ?_⟩
  exact (draftSeeds_match_iff serves step Nat.one_pos rfl takes proposes (.drafted .none _) step' Nat.one_pos rfl
    takes').mpr (.inl rfl) 0 Nat.one_pos (by decide)

end DeepSpark
