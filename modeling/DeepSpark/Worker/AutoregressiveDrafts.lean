import DeepSpark.Worker.BlockTables
import DeepSpark.Worker.Gumbel

/-!
The draft steps of the autoregressive speculators:
`v1/worker/gpu/spec_decode/autoregressive/speculator.py`.

Owns the kernels that prepare the draft prefill and the draft decodes and that update the inputs
between them, the buffers over one `propose`, and the position of each draft step.
-/

namespace DeepSpark

open Lib

/-- What the kernels read: the target batch, the results of its sampling, and the scalars. -/
structure AutoregressiveInputs where
  numReqs : Nat
  targetInputIds : Nat → Int
  targetPositions : Nat → Nat
  queryStartLoc : Nat → Nat
  seqLens : Nat → Nat
  idxMapping : Nat → Nat
  lastSampled : Nat → Int
  nextPrefillTokens : Nat → Int
  numSampled : Nat → Nat
  numRejected : Nat → Nat
  maxNumReqs : Nat
  maxModelLen : Nat
  numSpeculativeSteps : Nat
  advanceDraftPositions : Bool

structure AutoregressiveBuffers where
  lastTokenIndices : Buffer Nat Nat
  inputIds : Buffer Nat Int
  positions : Buffer Nat Nat
  queryStartLoc : Buffer Nat Nat
  seqLens : Buffer Nat Nat
  draftTokens : Nat → Nat → Int

namespace AutoregressiveInputs

variable (inputs : AutoregressiveInputs)

/-! ## The draft prefill -/

/-- The query length of a request without its rejected tokens. -/
def queryLen (reqIdx : Nat) : Nat :=
  inputs.queryStartLoc (reqIdx + 1) - inputs.queryStartLoc reqIdx - inputs.numRejected reqIdx

def lastTokenIndex (reqIdx : Nat) : Nat := inputs.queryStartLoc reqIdx + inputs.queryLen reqIdx - 1

def nextToken (reqIdx : Nat) : Int :=
  if inputs.numSampled reqIdx > 0 then inputs.lastSampled (inputs.idxMapping reqIdx)
  else inputs.nextPrefillTokens (inputs.idxMapping reqIdx)

def padding {α : Type} (reqIdx stop : Nat) (value : α) : List (Store Nat α) :=
  if reqIdx + 1 = inputs.numReqs then (blockLoop inputs.numReqs stop 1024).map fun block => ⟨block, value⟩
  else []

/-- `_prepare_prefill_inputs_kernel`: its stores to the input ids, which are shifted by one. -/
def prefillInputIdStores (reqIdx : Nat) : List (Store Nat Int) :=
  let queryStart := inputs.queryStartLoc reqIdx
  ((blockLoop 1 (inputs.queryLen reqIdx) 1024).map fun block =>
    ⟨queryStart + block - 1, inputs.targetInputIds (queryStart + block)⟩) ++
    [⟨inputs.lastTokenIndex reqIdx, inputs.nextToken reqIdx⟩]

def prefillPositionStores (reqIdx : Nat) : List (Store Nat Nat) :=
  let queryStart := inputs.queryStartLoc reqIdx
  (blockLoop 0 (inputs.queryLen reqIdx) 1024).map fun block =>
    ⟨queryStart + block, inputs.targetPositions (queryStart + block)⟩

/-- `_prepare_prefill_inputs_kernel`: its stores to `last_token_indices`. -/
def lastTokenIndexStores (reqIdx : Nat) : List (Store Nat Nat) :=
  ⟨reqIdx, inputs.lastTokenIndex reqIdx⟩ :: inputs.padding reqIdx inputs.maxNumReqs 0

/-- `_prepare_prefill_inputs_kernel`: its stores to `query_start_loc`. -/
def prefillStartStores (reqIdx : Nat) : List (Store Nat Nat) :=
  ⟨reqIdx, inputs.queryStartLoc reqIdx⟩ ::
    inputs.padding reqIdx (inputs.maxNumReqs + 1) (inputs.queryStartLoc (reqIdx + 1))

/-- `_prepare_prefill_inputs_kernel`: its stores to `seq_lens`. -/
def prefillSeqLenStores (reqIdx : Nat) : List (Store Nat Nat) :=
  ⟨reqIdx, inputs.seqLens reqIdx⟩ :: inputs.padding reqIdx inputs.maxNumReqs 0

/-- The launch of `_prepare_prefill_inputs_kernel`. -/
structure PreparedPrefill (before after : AutoregressiveBuffers) : Prop where
  lastTokenIndices : Launched (List.range inputs.numReqs) inputs.lastTokenIndexStores
    before.lastTokenIndices after.lastTokenIndices
  inputIds : Launched (List.range inputs.numReqs) inputs.prefillInputIdStores before.inputIds after.inputIds
  positions : Launched (List.range inputs.numReqs) inputs.prefillPositionStores before.positions after.positions
  queryStartLoc : Launched (List.range inputs.numReqs) inputs.prefillStartStores
    before.queryStartLoc after.queryStartLoc
  seqLens : Launched (List.range inputs.numReqs) inputs.prefillSeqLenStores before.seqLens after.seqLens
  draftTokens : after.draftTokens = before.draftTokens

def prefillPositions (prepared : AutoregressiveBuffers) (reqIdx : Nat) : Nat :=
  prepared.positions (prepared.lastTokenIndices reqIdx)

def prefill (numReqsPadded : Nat) (sampled : Nat → Int) (prepared : AutoregressiveBuffers) : AutoregressiveBuffers :=
  { prepared with
    positions := fun row => if row < numReqsPadded then prefillPositions prepared row else prepared.positions row
    draftTokens := fun row => if row < numReqsPadded then Function.update (prepared.draftTokens row) 0 (sampled row)
      else prepared.draftTokens row }

/-! ## The draft decodes -/

def advance (position : Nat) : Nat := min (position + 1) (inputs.maxModelLen - 1)

def decodeInputIdStores (prefilled : AutoregressiveBuffers) (reqIdx : Nat) : List (Store Nat Int) :=
  if reqIdx = inputs.numReqs then [] else [⟨reqIdx, prefilled.draftTokens reqIdx 0⟩]

def decodePositionStores (prefilled : AutoregressiveBuffers) (reqIdx : Nat) : List (Store Nat Nat) :=
  if reqIdx = inputs.numReqs ∨ inputs.advanceDraftPositions = false then []
  else [⟨reqIdx, inputs.advance (prefilled.positions reqIdx)⟩]

/-- `_prepare_decode_inputs_kernel`: its stores to `query_start_loc`. -/
def decodeStartStores (reqIdx : Nat) : List (Store Nat Nat) :=
  if reqIdx = inputs.numReqs then
    (blockLoop 0 (inputs.maxNumReqs + 1) 1024).map fun block => ⟨block, min block inputs.numReqs⟩
  else []

def decodeSeqLenStores (reqIdx : Nat) : List (Store Nat Nat) :=
  if reqIdx = inputs.numReqs then
    (blockLoop inputs.numReqs inputs.maxNumReqs 1024).map fun block => ⟨block, 0⟩
  else if inputs.advanceDraftPositions then
    [⟨reqIdx, min (inputs.seqLens reqIdx - inputs.numRejected reqIdx + 1) inputs.maxModelLen⟩]
  else []

/-- The launch of `_prepare_decode_inputs_kernel`. -/
structure PreparedDecode (before after : AutoregressiveBuffers) : Prop where
  lastTokenIndices : after.lastTokenIndices = before.lastTokenIndices
  inputIds : Launched (List.range (inputs.numReqs + 1)) (inputs.decodeInputIdStores before) before.inputIds after.inputIds
  positions : Launched (List.range (inputs.numReqs + 1)) (inputs.decodePositionStores before)
    before.positions after.positions
  queryStartLoc : Launched (List.range (inputs.numReqs + 1)) inputs.decodeStartStores
    before.queryStartLoc after.queryStartLoc
  seqLens : Launched (List.range (inputs.numReqs + 1)) inputs.decodeSeqLenStores before.seqLens after.seqLens
  draftTokens : after.draftTokens = before.draftTokens

def isFinal (step : Nat) : Bool := decide (step ≥ inputs.numSpeculativeSteps - 1)

/-- `_update_draft_inputs_kernel`: its stores to the input ids. -/
def updateInputIdStores (step : Nat) (sampled : Nat → Int) (reqIdx : Nat) : List (Store Nat Int) :=
  if inputs.isFinal step then [] else [⟨reqIdx, sampled reqIdx⟩]

/-- `_update_draft_inputs_kernel`: its stores to the positions. -/
def updatePositionStores (step : Nat) (before : AutoregressiveBuffers) (reqIdx : Nat) : List (Store Nat Nat) :=
  if inputs.isFinal step ∨ inputs.advanceDraftPositions = false then []
  else [⟨reqIdx, inputs.advance (before.positions reqIdx)⟩]

def updateSeqLenStores (step : Nat) (before : AutoregressiveBuffers) (reqIdx : Nat) : List (Store Nat Nat) :=
  if inputs.isFinal step ∨ inputs.advanceDraftPositions = false then []
  else [⟨reqIdx, min (before.seqLens reqIdx + 1) inputs.maxModelLen⟩]

/-- The launch of `_update_draft_inputs_kernel` for the padded requests. -/
structure Updated (step numReqsPadded : Nat) (sampled : Nat → Int) (before after : AutoregressiveBuffers) : Prop where
  lastTokenIndices : after.lastTokenIndices = before.lastTokenIndices
  inputIds : Launched (List.range numReqsPadded) (inputs.updateInputIdStores step sampled) before.inputIds after.inputIds
  positions : Launched (List.range numReqsPadded) (inputs.updatePositionStores step before)
    before.positions after.positions
  queryStartLoc : after.queryStartLoc = before.queryStartLoc
  seqLens : Launched (List.range numReqsPadded) (inputs.updateSeqLenStores step before) before.seqLens after.seqLens
  draftTokens : after.draftTokens = fun row => if row < numReqsPadded then
    Function.update (before.draftTokens row) step (sampled row) else before.draftTokens row

/-! ## One `propose` -/

/-- The buffers of a call: after the prefill is prepared, and before each draft decode. -/
structure Trace where
  prepared : AutoregressiveBuffers
  decodes : Nat → AutoregressiveBuffers
  sampled : Nat → Nat → Int

structure Proposed (prefillPadded decodePadded : Nat) (before : AutoregressiveBuffers) (trace : Trace) : Prop where
  prefillRows : inputs.numReqs ≤ prefillPadded
  decodeRows : inputs.numReqs ≤ decodePadded
  prepared : inputs.PreparedPrefill before trace.prepared
  decode : 1 < inputs.numSpeculativeSteps →
    inputs.PreparedDecode (prefill prefillPadded (trace.sampled 0) trace.prepared) (trace.decodes 1)
  update : ∀ step, 1 ≤ step → step + 1 < inputs.numSpeculativeSteps →
    inputs.Updated step decodePadded (trace.sampled step) (trace.decodes step) (trace.decodes (step + 1))

def Trace.positions (trace : Trace) (step reqIdx : Nat) : Nat :=
  if step = 0 then prefillPositions trace.prepared reqIdx else (trace.decodes step).positions reqIdx

/-- The arguments of the `gumbel_sample` of `AutoRegressiveSpeculator.sample_draft`. -/
def sampleDraftArgs {α : Type} (trace : Trace) (vocabSize : Nat) (temperature : Nat → α) (seeds : Nat → Int)
    (step : Nat) : GumbelArgs α where
  expandedIdxMapping := inputs.idxMapping
  temperature := temperature
  seeds := seeds
  pos row := (trace.positions step row : Int) + 1
  processedLogits := some ⟨inputs.numSpeculativeSteps * vocabSize, fun _ => step, some inputs.numReqs⟩
  vocabSize := vocabSize
  applyTemperature := true

variable {inputs} {before : AutoregressiveBuffers} {trace : Trace} {prefillPadded decodePadded reqIdx : Nat}

/-- The first draft is sampled at the position of the last token that was not rejected. -/
theorem Proposed.prefillPosition (proposed : inputs.Proposed prefillPadded decodePadded before trace)
    (inBatch : reqIdx < inputs.numReqs)
    (someToken : 0 < inputs.queryLen reqIdx) :
    trace.positions 0 reqIdx = inputs.targetPositions (inputs.lastTokenIndex reqIdx) := by
  have inGrid := List.mem_range.mpr inBatch
  have isLast : trace.prepared.lastTokenIndices reqIdx = inputs.lastTokenIndex reqIdx := by
    have member : (⟨reqIdx, inputs.lastTokenIndex reqIdx⟩ : Store Nat Nat) ∈ inputs.lastTokenIndexStores reqIdx :=
      List.mem_cons_self
    apply proposed.prepared.lastTokenIndices.agreed inGrid member
    intro other otherInGrid store stored same
    rcases List.mem_cons.mp stored with rfl | inPadding
    · rw [show other = reqIdx from same]
    · rw [padding] at inPadding
      split at inPadding
      next =>
        obtain ⟨block, inLoop, rfl⟩ := List.mem_map.mp inPadding
        have above := ((mem_blockLoop (by decide)).mp inLoop).1
        have isBlock : block = reqIdx := same
        omega
      next => exact nomatch inPadding
  have member : (⟨inputs.lastTokenIndex reqIdx, inputs.targetPositions (inputs.lastTokenIndex reqIdx)⟩ : Store Nat Nat) ∈
      inputs.prefillPositionStores reqIdx := by
    apply List.mem_map.mpr
    refine ⟨inputs.queryLen reqIdx - 1, (mem_blockLoop (by decide)).mpr ⟨Nat.zero_le _, by omega⟩, ?_⟩
    rw [lastTokenIndex, Nat.add_sub_assoc someToken]
  show trace.prepared.positions (trace.prepared.lastTokenIndices reqIdx) = _
  rw [isLast]
  apply proposed.prepared.positions.agreed inGrid member
  intro other _ store stored same
  obtain ⟨block, -, rfl⟩ := List.mem_map.mp stored
  exact congrArg inputs.targetPositions same

/-- Each draft step advances the position by one, below the last position of the model. -/
theorem Proposed.position (proposed : inputs.Proposed prefillPadded decodePadded before trace)
    (advances : inputs.advanceDraftPositions = true) (inBatch : reqIdx < inputs.numReqs) {step : Nat}
    (inSteps : step < inputs.numSpeculativeSteps) (positive : 0 < step) :
    trace.positions step reqIdx = min (trace.positions 0 reqIdx + step) (inputs.maxModelLen - 1) := by
  obtain ⟨step, rfl⟩ := Nat.exists_eq_succ_of_ne_zero positive.ne'
  have isPositions : ∀ step, trace.positions (step + 1) reqIdx = (trace.decodes (step + 1)).positions reqIdx :=
    fun step => if_neg (Nat.succ_ne_zero step)
  rw [isPositions]
  induction step with
  | zero =>
    have launched := (proposed.decode inSteps).positions
    have member : (⟨reqIdx, inputs.advance (trace.positions 0 reqIdx)⟩ : Store Nat Nat) ∈
        inputs.decodePositionStores (prefill prefillPadded (trace.sampled 0) trace.prepared) reqIdx := by
      rw [decodePositionStores, advances, if_neg (by simpa using inBatch.ne)]
      apply List.mem_singleton.mpr
      show _ = Store.mk reqIdx (inputs.advance (if reqIdx < prefillPadded then _ else _))
      rw [if_pos (inBatch.trans_le proposed.prefillRows)]
      rfl
    refine launched.agreed (List.mem_range.mpr (by omega)) member fun other _ store stored same => ?_
    rw [decodePositionStores] at stored
    split at stored
    next => exact nomatch stored
    next =>
      have isOther : store.address = other := congrArg Store.address (List.mem_singleton.mp stored)
      obtain rfl : other = reqIdx := isOther.symm.trans same
      rw [List.mem_singleton.mp stored]
      show inputs.advance (if other < prefillPadded then _ else _) = _
      rw [if_pos (inBatch.trans_le proposed.prefillRows)]
      rfl
  | succ step ih =>
    have previous := ih (by omega) (by omega)
    have launched := (proposed.update (step + 1) (by omega) inSteps).positions
    have notFinal : ¬ ((inputs.isFinal (step + 1) = true) ∨ inputs.advanceDraftPositions = false) := by
      rintro (isFinal | fixed)
      · have reached : step + 1 ≥ inputs.numSpeculativeSteps - 1 := of_decide_eq_true isFinal
        omega
      · exact Bool.noConfusion (advances.symm.trans fixed)
    have member : (⟨reqIdx, inputs.advance ((trace.decodes (step + 1)).positions reqIdx)⟩ : Store Nat Nat) ∈
        inputs.updatePositionStores (step + 1) (trace.decodes (step + 1)) reqIdx := by
      rw [updatePositionStores, if_neg notFinal]
      exact List.mem_singleton_self _
    have advanced : (trace.decodes (step + 1 + 1)).positions reqIdx =
        inputs.advance ((trace.decodes (step + 1)).positions reqIdx) := by
      refine launched.agreed (List.mem_range.mpr (inBatch.trans_le proposed.decodeRows)) member
        fun other _ store stored same => ?_
      rw [updatePositionStores, if_neg notFinal] at stored
      have isOther : store.address = other := congrArg Store.address (List.mem_singleton.mp stored)
      obtain rfl : other = reqIdx := isOther.symm.trans same
      rw [List.mem_singleton.mp stored]
    rw [advanced, advance, previous]
    rcases Nat.le_total (trace.positions 0 reqIdx + step.succ) (inputs.maxModelLen - 1) with below | above
    · rw [Nat.min_eq_left below]
      rfl
    · rw [Nat.min_eq_right above, Nat.min_eq_right (Nat.le_succ _),
        Nat.min_eq_right (above.trans (Nat.add_le_add_left (Nat.le_succ _) _))]

private theorem row_stored {α : Type} {rows row : Nat} {stores : Nat → List (Store Nat α)} {before after : Buffer Nat α}
    (launched : Launched (List.range rows) stores before after) (inGrid : row < rows) {value : α}
    (own : stores row = [⟨row, value⟩]) (others : ∀ other ≠ row, ∀ store ∈ stores other, store.address ≠ row) :
    after row = value := by
  have member : (⟨row, value⟩ : Store Nat α) ∈ stores row := own ▸ List.mem_singleton_self _
  refine launched.agreed (List.mem_range.mpr inGrid) member fun other _ last stored same => ?_
  by_cases isRow : other = row
  · rw [isRow, own] at stored
    exact congrArg Store.value (List.mem_singleton.mp stored)
  · exact absurd same (others other isRow last stored)

structure DecodeReads (inputs : AutoregressiveInputs) (trace : Trace) (step reqIdx : Nat) : Prop where
  inputIds : (trace.decodes step).inputIds reqIdx = trace.sampled (step - 1) reqIdx
  seqLens : (trace.decodes step).seqLens reqIdx =
    min (inputs.seqLens reqIdx - inputs.numRejected reqIdx + step) inputs.maxModelLen
  queryStartLoc : ∀ row ≤ inputs.numReqs, (trace.decodes step).queryStartLoc row = row
  draftTokens : ∀ earlier < step, (trace.decodes step).draftTokens reqIdx earlier = trace.sampled earlier reqIdx

/-- Every draft decode of every call reads the token the step before sampled, as the one token of its request,
with the length of the sequence up to it, and no draft token is lost on the way. -/
theorem draftDecodes_read (proposed : inputs.Proposed prefillPadded decodePadded before trace)
    (advances : inputs.advanceDraftPositions = true) (fits : inputs.numReqs ≤ inputs.maxNumReqs)
    (inBatch : reqIdx < inputs.numReqs) {step : Nat} (positive : 0 < step) (inSteps : step < inputs.numSpeculativeSteps) :
    inputs.DecodeReads trace step reqIdx := by
  have fixed : ¬ inputs.advanceDraftPositions = false := by simp [advances]
  induction step, positive using Nat.le_induction with
  | base =>
    have decode := proposed.decode inSteps
    have drafted : (prefill prefillPadded (trace.sampled 0) trace.prepared).draftTokens reqIdx 0 = trace.sampled 0 reqIdx := by
      dsimp only [prefill]
      rw [if_pos (inBatch.trans_le proposed.prefillRows), Function.update_self]
    refine ⟨?_, ?_, fun row inRows => ?_, fun earlier below => ?_⟩
    · refine (row_stored decode.inputIds (by omega) (if_neg inBatch.ne) fun other differ store stored => ?_).trans drafted
      rw [decodeInputIdStores] at stored
      split at stored
      next => exact nomatch stored
      next => exact List.mem_singleton.mp stored ▸ differ
    · refine row_stored decode.seqLens (by omega) ?_ fun other differ store stored => ?_
      · rw [decodeSeqLenStores, if_neg inBatch.ne, if_pos advances]
      · rw [decodeSeqLenStores, if_pos advances] at stored
        split at stored
        next =>
          obtain ⟨block, inLoop, rfl⟩ := List.mem_map.mp stored
          have above := ((mem_blockLoop (by decide)).mp inLoop).1
          exact (inBatch.trans_le above).ne'
        next => exact List.mem_singleton.mp stored ▸ differ
    · have member : (⟨row, min row inputs.numReqs⟩ : Store Nat Nat) ∈ inputs.decodeStartStores inputs.numReqs := by
        rw [decodeStartStores, if_pos rfl]
        exact List.mem_map.mpr ⟨row, (mem_blockLoop (by decide)).mpr ⟨Nat.zero_le _, by omega⟩, rfl⟩
      refine (decode.queryStartLoc.agreed (List.mem_range.mpr (Nat.lt_succ_self _)) member
        fun other _ last stored same => ?_).trans (Nat.min_eq_left inRows)
      rw [decodeStartStores] at stored
      split at stored
      next =>
        obtain ⟨block, _, rfl⟩ := List.mem_map.mp stored
        exact congrArg (min · inputs.numReqs) same
      next => exact nomatch stored
    · rw [Nat.lt_one_iff.mp below, decode.draftTokens, drafted]
  | succ step positive ih =>
    obtain ⟨_, seqLens, queryStartLoc, draftTokens⟩ := ih (by omega)
    have update := proposed.update step positive inSteps
    have notFinal : ¬ inputs.isFinal step = true := by
      rw [isFinal, decide_eq_true_eq]
      omega
    have inGrid := inBatch.trans_le proposed.decodeRows
    refine ⟨?_, ?_, ?_, fun earlier below => ?_⟩
    · refine row_stored update.inputIds inGrid (if_neg notFinal) fun other differ store stored => ?_
      rw [updateInputIdStores, if_neg notFinal] at stored
      exact List.mem_singleton.mp stored ▸ differ
    · have stores : ∀ row, inputs.updateSeqLenStores step (trace.decodes step) row = [⟨row, _⟩] := fun _ =>
        if_neg (not_or.mpr ⟨notFinal, fixed⟩)
      refine (row_stored update.seqLens inGrid (stores reqIdx) fun other differ store stored => ?_).trans ?_
      · rw [stores] at stored
        exact List.mem_singleton.mp stored ▸ differ
      · rw [seqLens]
        omega
    · rw [update.queryStartLoc]
      exact queryStartLoc
    · rw [update.draftTokens]
      dsimp only
      rw [if_pos inGrid]
      rcases Nat.lt_succ_iff_lt_or_eq.mp below with before | rfl
      · rw [Function.update_of_ne before.ne]
        exact draftTokens earlier before
      · rw [Function.update_self]

/-- The third draft of a prompt of one token is decoded from the second one, and the first one is kept. -/
theorem draftDecodes_read_third : ∃ (inputs : AutoregressiveInputs) (trace : Trace) (before : AutoregressiveBuffers),
    inputs.Proposed 1 1 before trace ∧ (trace.decodes 2).inputIds 0 = 8 ∧ (trace.decodes 2).seqLens 0 = 3 ∧
      (trace.decodes 2).draftTokens 0 0 = 7 := by
  set inputs : AutoregressiveInputs :=
    { numReqs := 1, targetInputIds := fun _ => 5, targetPositions := fun _ => 0, queryStartLoc := id, seqLens := fun _ => 1,
      idxMapping := id, lastSampled := fun _ => 6, nextPrefillTokens := fun _ => 0, numSampled := fun _ => 1,
      numRejected := fun _ => 0, maxNumReqs := 1, maxModelLen := 8, numSpeculativeSteps := 3,
      advanceDraftPositions := true } with isInputs
  set before : AutoregressiveBuffers := ⟨fun _ => 0, fun _ => 0, fun _ => 0, fun _ => 0, fun _ => 0, fun _ _ => 0⟩
  let sampled (step _row : Nat) : Int := 7 + step
  obtain ⟨prepared, isPrepared⟩ : ∃ prepared, inputs.PreparedPrefill before prepared :=
    ⟨⟨_, _, _, _, _, _⟩, launched_launch _ _ _, launched_launch _ _ _, launched_launch _ _ _,
      launched_launch _ _ _, launched_launch _ _ _, rfl⟩
  obtain ⟨first, isDecoded⟩ : ∃ first, inputs.PreparedDecode (prefill 1 (sampled 0) prepared) first :=
    ⟨{ prefill 1 (sampled 0) prepared with inputIds := _, positions := _, queryStartLoc := _, seqLens := _ }, by rfl,
      launched_launch _ _ _, launched_launch _ _ _, launched_launch _ _ _, launched_launch _ _ _, by rfl⟩
  obtain ⟨second, isUpdated⟩ : ∃ second, inputs.Updated 1 1 (sampled 1) first second :=
    ⟨{ first with inputIds := _, positions := _, seqLens := _, draftTokens := _ }, by rfl, launched_launch _ _ _,
      launched_launch _ _ _, by rfl, launched_launch _ _ _, rfl⟩
  have proposed : inputs.Proposed 1 1 before ⟨prepared, fun step => if step = 1 then first else second, sampled⟩ := by
    refine ⟨le_rfl, le_rfl, isPrepared, fun _ => isDecoded, fun step positive more => ?_⟩
    obtain rfl : step = 1 := by
      change step + 1 < 3 at more
      omega
    exact isUpdated
  have reads := draftDecodes_read proposed rfl le_rfl Nat.one_pos Nat.two_pos (show 2 < 3 by decide)
  exact ⟨inputs, _, before, proposed, reads.inputIds, reads.seqLens, reads.draftTokens 0 Nat.two_pos⟩

end AutoregressiveInputs

end DeepSpark
