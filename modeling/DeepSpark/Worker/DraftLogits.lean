import DeepSpark.Worker.DraftInputs
import DeepSpark.Worker.GreedyVerification

/-!
The cached draft logits of the parallel-drafting speculators with probabilistic draft
sampling.

Owns `_generate_draft` of `DFlashSpeculator` and of `DSparkSpeculator` over the padded
rows of a CUDA graph, the effect of one `gumbel_sample` on the cache, runs of `propose`
calls, and when the cached rows are those the drafts were drawn from.
-/

namespace DeepSpark

open Lib

inductive DraftMethod where
  | dflash
  | dspark
deriving DecidableEq, Repr

structure ParallelSpeculator where
  method : DraftMethod
  numSpeculativeSteps : Nat
  maxNumReqs : Nat
  vocabSize : Nat
  steps_pos : 0 < numSpeculativeSteps
  vocabSize_pos : 0 < vocabSize

namespace ParallelSpeculator

variable (speculator : ParallelSpeculator)

def numQueryPerReq : Nat :=
  match speculator.method with
  | .dflash => 1 + speculator.numSpeculativeSteps
  | .dspark => speculator.numSpeculativeSteps

def firstSample : Nat :=
  match speculator.method with
  | .dflash => 1
  | .dspark => 0

def prepareKernel (inputs : DraftInputs) : Nat × Nat → DraftStores :=
  match speculator.method with
  | .dflash => inputs.prepareDflashInputsKernel
  | .dspark => inputs.prepareDsparkInputsKernel

def sampleCol (index : Nat) : Nat := index % speculator.numSpeculativeSteps

def stride : Nat := speculator.numSpeculativeSteps * speculator.vocabSize

def address (slot step token : Nat) : Nat :=
  slot * speculator.stride + step * speculator.vocabSize + token

theorem address_inj {slot step token otherSlot otherStep otherToken : Nat}
    (inSteps : step < speculator.numSpeculativeSteps) (inVocab : token < speculator.vocabSize)
    (otherInSteps : otherStep < speculator.numSpeculativeSteps) (otherInVocab : otherToken < speculator.vocabSize)
    (same : speculator.address slot step token = speculator.address otherSlot otherStep otherToken) :
    slot = otherSlot ∧ step = otherStep ∧ token = otherToken := by
  have inRow : ∀ {step token : Nat}, step < speculator.numSpeculativeSteps → token < speculator.vocabSize →
      step * speculator.vocabSize + token < speculator.stride := by
    intro step token inSteps inVocab
    have scaled : (step + 1) * speculator.vocabSize ≤ speculator.stride :=
      Nat.mul_le_mul_right _ inSteps
    rw [Nat.add_mul, Nat.one_mul] at scaled
    omega
  rw [address, address, Nat.add_assoc, Nat.add_assoc] at same
  obtain ⟨sameSlot, sameColumn⟩ :=
    flat_inj (inRow inSteps inVocab) (inRow otherInSteps otherInVocab) same
  exact ⟨sameSlot, flat_inj inVocab otherInVocab sameColumn⟩

end ParallelSpeculator

variable {α : Type} [DeviceFloat α]

/-- One `propose` call: the inputs of its kernel, the padding of its graph, what the
draft model returns for each row and step, and the sampling parameters by slot. -/
structure ProposeCall (α : Type) where
  inputs : DraftInputs
  numReqsPadded : Nat
  logits : Nat → Nat → Nat → α
  temperature : Nat → α
  seeds : Nat → Int

/-- A batch any injective `idx_mapping` may give, on the speculator's layout, and any
padding of it. -/
structure ParallelSpeculator.Accepts (speculator : ParallelSpeculator) (inputs : DraftInputs)
    (numReqsPadded : Nat) : Prop where
  wellFormed : inputs.WellFormed
  someReq : 0 < inputs.numReqs
  padded : inputs.numReqs ≤ numReqsPadded
  fits : numReqsPadded ≤ speculator.maxNumReqs
  slots : ∀ r < inputs.numReqs, inputs.idxMapping r < speculator.maxNumReqs
  injective : ∀ r < inputs.numReqs, ∀ s < inputs.numReqs,
    inputs.idxMapping r = inputs.idxMapping s → r = s
  numQueryPerReq : inputs.numQueryPerReq = speculator.numQueryPerReq
  numSpeculativeSteps : inputs.numSpeculativeSteps = speculator.numSpeculativeSteps
  maxNumReqs : inputs.maxNumReqs = speculator.maxNumReqs

/-- What a call leaves: the prepared buffers, the cache before each `gumbel_sample` and
after the last, and the drafts. -/
structure ProposeTrace (α : Type) where
  buffers : DraftBuffers
  cache : Nat → Buffer Nat α
  draftTokens : Nat → Nat → Nat

namespace ProposeCall

variable (fns : DeviceFns α) (speculator : ParallelSpeculator) (call : ProposeCall α) (trace : ProposeTrace α)

/-- The arguments of the `gumbel_sample` of `DFlashSpeculator.sample_draft`: one row for
each step of each request. -/
def dflashArgs : GumbelArgs α where
  expandedIdxMapping := trace.buffers.sampleIdxMapping
  temperature := call.temperature
  seeds := call.seeds
  pos row := (trace.buffers.samplePos row : Int) + 1
  processedLogits := some ⟨speculator.stride, speculator.sampleCol, none⟩
  vocabSize := speculator.vocabSize
  applyTemperature := true

/-- The arguments of the `gumbel_sample` of a step of `sample_dspark_draft`. The kernel
reads the columns `idx_mapping[:, step]` and `draft_step[:, step]` from their first
element on, whatever their stride; the positions are a fresh tensor. -/
def dsparkArgs (step : Nat) : GumbelArgs α where
  expandedIdxMapping row := trace.buffers.sampleIdxMapping (step + row)
  temperature := call.temperature
  seeds := call.seeds
  pos row := (trace.buffers.samplePos (row * speculator.numSpeculativeSteps + step) : Int) + 1
  processedLogits := some ⟨speculator.stride, fun row => speculator.sampleCol (step + row), none⟩
  vocabSize := speculator.vocabSize
  applyTemperature := true

/-- `_generate_draft` over the padded rows, and the kernel before it. -/
structure Proposed : Prop where
  accepts : speculator.Accepts call.inputs call.numReqsPadded
  prepared : ∃ before, call.inputs.Prepared (speculator.prepareKernel call.inputs) before trace.buffers
  dflash : speculator.method = .dflash → ∃ sampled,
    GumbelSampled fns (call.dflashArgs speculator trace)
      (call.numReqsPadded * speculator.numSpeculativeSteps)
      (fun row => call.logits (row / speculator.numSpeculativeSteps) (row % speculator.numSpeculativeSteps))
      (trace.cache 0) (trace.cache speculator.numSpeculativeSteps) sampled ∧
    ∀ r i, trace.draftTokens r i = sampled (r * speculator.numSpeculativeSteps + i)
  dspark : speculator.method = .dspark → ∀ step < speculator.numSpeculativeSteps, ∃ sampled,
    GumbelSampled fns (call.dsparkArgs speculator trace step) call.numReqsPadded
      (fun row => call.logits row step) (trace.cache step) (trace.cache (step + 1)) sampled ∧
    ∀ r, trace.draftTokens r step = sampled r

def drawnRow (r i token : Nat) : α :=
  match speculator.method with
  | .dflash => (call.dflashArgs speculator trace).applied (r * speculator.numSpeculativeSteps + i)
      (call.logits r i token)
  | .dspark => (call.dsparkArgs speculator trace i).applied r (call.logits r i token)

/-- The cached rows of the batch are those its drafts were drawn from, and the other
slots are unchanged. -/
structure Belongs : Prop where
  drawn : ∀ r < call.inputs.numReqs, ∀ i < speculator.numSpeculativeSteps,
    ∀ token < speculator.vocabSize,
      trace.cache speculator.numSpeculativeSteps
        (speculator.address (call.inputs.idxMapping r) i token) = call.drawnRow speculator trace r i token
  unchanged : ∀ slot < speculator.maxNumReqs, (∀ r < call.inputs.numReqs, call.inputs.idxMapping r ≠ slot) →
    ∀ i < speculator.numSpeculativeSteps, ∀ token < speculator.vocabSize,
      trace.cache speculator.numSpeculativeSteps (speculator.address slot i token) =
        trace.cache 0 (speculator.address slot i token)

/-- No padded row, and for `DSparkSpeculator` columns whose stride is one or that have
one element. -/
def RowsInPlace (numReqs numReqsPadded : Nat) : Prop :=
  numReqsPadded = numReqs ∧
    (speculator.method = .dspark → numReqs ≤ 1 ∨ speculator.numSpeculativeSteps ≤ 1)

end ProposeCall

/-- A sequence of `propose` calls: each starts from the cache the one before left. -/
inductive ProposeRun (fns : DeviceFns α) (speculator : ParallelSpeculator) :
    List (ProposeCall α × ProposeTrace α) → Buffer Nat α → Prop
  | initial (cache : Buffer Nat α) : ProposeRun fns speculator [] cache
  | propose {calls : List (ProposeCall α × ProposeTrace α)} {cache : Buffer Nat α}
      {call : ProposeCall α} {trace : ProposeTrace α} :
      ProposeRun fns speculator calls cache → trace.cache 0 = cache →
      call.Proposed fns speculator trace →
      ProposeRun fns speculator (calls ++ [(call, trace)]) (trace.cache speculator.numSpeculativeSteps)

/-! ## The cache after one `gumbel_sample` -/

section

variable {fns : DeviceFns α} {speculator : ParallelSpeculator} {args : GumbelArgs α} {col : Nat → Nat}
  {numRows : Nat} {logits : Nat → Nat → α} {before after : Buffer Nat α} {sampled : Nat → Nat}

theorem mem_processedStores (isProcessed : args.processedLogits = some ⟨speculator.stride, col, none⟩)
    (isVocab : args.vocabSize = speculator.vocabSize) {row block : Nat} {store : Store Nat α} :
    store ∈ args.processedStores (logits row) row block 1024 ↔
      ∃ token < speculator.vocabSize, token / 1024 = block ∧
        store = ⟨speculator.address (args.expandedIdxMapping row) (col row) token,
          args.applied row (logits row token)⟩ := by
  rw [GumbelArgs.processedStores, isProcessed]
  simp only [List.mem_filterMap, List.mem_range, Option.all_none, and_true,
    Option.ite_none_right_eq_some, Option.some.injEq, GumbelArgs.processedAddress, isVocab]
  constructor
  · rintro ⟨lane, below, inVocab, rfl⟩
    exact ⟨block * 1024 + lane, inVocab, by omega, rfl⟩
  · rintro ⟨token, inVocab, rfl, rfl⟩
    refine ⟨token % 1024, Nat.mod_lt _ (by omega), ?_, ?_⟩
    · rwa [Nat.div_add_mod']
    · rw [Nat.div_add_mod']
      rfl

variable (speculator) in
/-- The cached row of a slot and step holds what the rows that store to it agree on. -/
theorem GumbelSampled.cached (ran : GumbelSampled fns args numRows logits before after sampled)
    (isProcessed : args.processedLogits = some ⟨speculator.stride, col, none⟩)
    (isVocab : args.vocabSize = speculator.vocabSize)
    (inSteps : ∀ row, col row < speculator.numSpeculativeSteps) {row token : Nat} (value : α)
    (inRows : row < numRows) (inVocab : token < speculator.vocabSize)
    (agreed : ∀ other < numRows, args.expandedIdxMapping other = args.expandedIdxMapping row →
      col other = col row → args.applied other (logits other token) = value) :
    after (speculator.address (args.expandedIdxMapping row) (col row) token) = value := by
  have inGrid : (row, token / 1024) ∈ List.range numRows ×ˢ List.range (cdiv args.vocabSize 1024) := by
    apply List.mem_product.mpr ⟨List.mem_range.mpr inRows, List.mem_range.mpr _⟩
    rw [isVocab]
    exact (lt_cdiv_iff (by omega)).mpr ((Nat.div_mul_le_self token 1024).trans_lt inVocab)
  have stored := (@mem_processedStores _ _ speculator args col logits isProcessed isVocab row _ _).mpr
    ⟨token, inVocab, rfl, rfl⟩
  rw [← agreed row inRows rfl rfl]
  apply ran.processed.agreed inGrid stored
  intro other otherInGrid store member address
  obtain ⟨otherToken, otherInVocab, -, rfl⟩ := (mem_processedStores isProcessed isVocab).mp member
  obtain ⟨sameSlot, sameStep, rfl⟩ :=
    speculator.address_inj (inSteps _) otherInVocab (inSteps _) inVocab address
  rw [agreed row inRows rfl rfl]
  exact agreed other.1 (List.mem_range.mp (List.mem_product.mp otherInGrid).1) sameSlot sameStep

variable (speculator) in
theorem GumbelSampled.uncached (ran : GumbelSampled fns args numRows logits before after sampled)
    (isProcessed : args.processedLogits = some ⟨speculator.stride, col, none⟩)
    (isVocab : args.vocabSize = speculator.vocabSize)
    (inSteps : ∀ row, col row < speculator.numSpeculativeSteps) {slot step token : Nat}
    (inStep : step < speculator.numSpeculativeSteps) (inVocab : token < speculator.vocabSize)
    (untouched : ∀ row < numRows, args.expandedIdxMapping row = slot → col row ≠ step) :
    after (speculator.address slot step token) = before (speculator.address slot step token) := by
  apply ran.processed.untouched
  intro other inGrid store member address
  obtain ⟨otherToken, otherInVocab, -, rfl⟩ := (mem_processedStores isProcessed isVocab).mp member
  obtain ⟨sameSlot, sameStep, -⟩ :=
    speculator.address_inj (inSteps _) otherInVocab inStep inVocab address
  exact untouched other.1 (List.mem_range.mp (List.mem_product.mp inGrid).1) sameSlot sameStep

end

/-! ## Calls whose rows are in place -/

namespace ProposeCall

variable {fns : DeviceFns α} {speculator : ParallelSpeculator} {call : ProposeCall α} {trace : ProposeTrace α}

theorem sampleCol_lt (index : Nat) : speculator.sampleCol index < speculator.numSpeculativeSteps :=
  Nat.mod_lt _ speculator.steps_pos

theorem sampleCol_row {r i : Nat} (inSteps : i < speculator.numSpeculativeSteps) :
    speculator.sampleCol (r * speculator.numSpeculativeSteps + i) = i := by
  rw [ParallelSpeculator.sampleCol, Nat.mul_comm, Nat.mul_add_mod, Nat.mod_eq_of_lt inSteps]

theorem Proposed.sampleIdxMapping (proposed : call.Proposed fns speculator trace) :
    ∃ before, Launched call.inputs.grid (fun program =>
      (((call.inputs.queryLanes program.1 program.2).filter
        fun queryOff => decide (speculator.firstSample ≤ queryOff)).map fun queryOff =>
          (⟨program.1 * speculator.numSpeculativeSteps + (queryOff - speculator.firstSample),
            call.inputs.idxMapping program.1⟩ : Store Nat Nat)) ++
        call.inputs.padding program (call.inputs.numReqs * speculator.numSpeculativeSteps)
          (speculator.maxNumReqs * speculator.numSpeculativeSteps) 0)
      before trace.buffers.sampleIdxMapping := by
  obtain ⟨before, prepared⟩ := proposed.prepared
  refine ⟨before.sampleIdxMapping, ?_⟩
  have launched := prepared.sampleIdxMapping
  rw [← proposed.accepts.numSpeculativeSteps, ← proposed.accepts.maxNumReqs]
  unfold ParallelSpeculator.prepareKernel at launched
  unfold ParallelSpeculator.firstSample
  cases isMethod : speculator.method with
  | dflash =>
    rw [isMethod] at launched
    exact launched
  | dspark =>
    rw [isMethod] at launched
    exact launched

omit [DeviceFloat α] in
theorem isWidth (accepts : speculator.Accepts call.inputs call.numReqsPadded) :
    call.inputs.numQueryPerReq = speculator.firstSample + speculator.numSpeculativeSteps := by
  rw [accepts.numQueryPerReq, ParallelSpeculator.numQueryPerReq, ParallelSpeculator.firstSample]
  cases speculator.method with
  | dflash => rfl
  | dspark => exact (Nat.zero_add _).symm

section

variable (proposed : call.Proposed fns speculator trace)

include proposed

theorem Proposed.slot_row {r i : Nat}
    (inBatch : r < call.inputs.numReqs) (inSteps : i < speculator.numSpeculativeSteps) :
    trace.buffers.sampleIdxMapping (r * speculator.numSpeculativeSteps + i) = call.inputs.idxMapping r := by
  obtain ⟨before, launched⟩ := proposed.sampleIdxMapping
  exact DraftInputs.lane_stored (fun r _ => call.inputs.idxMapping r) _ proposed.accepts.wellFormed launched
    (fun program queryOff => by rw [List.mem_filter, decide_eq_true_iff, and_comm])
    (isWidth proposed.accepts) inBatch inSteps

theorem Proposed.slot_padding {index : Nat}
    (above : call.inputs.numReqs * speculator.numSpeculativeSteps ≤ index)
    (below : index < speculator.maxNumReqs * speculator.numSpeculativeSteps) :
    trace.buffers.sampleIdxMapping index = 0 := by
  obtain ⟨before, launched⟩ := proposed.sampleIdxMapping
  have isWidth := isWidth proposed.accepts
  have positive := speculator.steps_pos
  exact DraftInputs.padding_stored (fun r _ => call.inputs.idxMapping r) _ proposed.accepts.someReq
    (by omega) launched
    (fun program queryOff => by rw [List.mem_filter, decide_eq_true_iff, and_comm])
    isWidth above below

/-- `DFlashSpeculator` without padded rows. -/
theorem Proposed.belongs_dflash
    (isMethod : speculator.method = .dflash) (unpadded : call.numReqsPadded = call.inputs.numReqs) :
    call.Belongs speculator trace := by
  obtain ⟨sampled, ran, -⟩ := proposed.dflash isMethod
  have positive := speculator.steps_pos
  rw [unpadded] at ran
  -- a row of the grid is a step of a request
  have split : ∀ row < call.inputs.numReqs * speculator.numSpeculativeSteps,
      row / speculator.numSpeculativeSteps < call.inputs.numReqs ∧
      trace.buffers.sampleIdxMapping row =
        call.inputs.idxMapping (row / speculator.numSpeculativeSteps) := by
    intro row inRows
    have inBatch : row / speculator.numSpeculativeSteps < call.inputs.numReqs :=
      (Nat.div_lt_iff_lt_mul positive).mpr inRows
    have slot := proposed.slot_row inBatch (Nat.mod_lt row positive)
    rw [Nat.div_add_mod'] at slot
    exact ⟨inBatch, slot⟩
  constructor
  · intro r inBatch i inSteps token inVocab
    have inRows : r * speculator.numSpeculativeSteps + i <
        call.inputs.numReqs * speculator.numSpeculativeSteps := by
      have scaled := Nat.mul_le_mul_right speculator.numSpeculativeSteps (Nat.succ_le_of_lt inBatch)
      rw [Nat.succ_mul] at scaled
      omega
    have isReq : (r * speculator.numSpeculativeSteps + i) / speculator.numSpeculativeSteps = r := by
      rw [Nat.mul_comm, Nat.mul_add_div positive, Nat.div_eq_of_lt inSteps, Nat.add_zero]
    have isStep : (r * speculator.numSpeculativeSteps + i) % speculator.numSpeculativeSteps = i :=
      sampleCol_row inSteps
    have isSlot : (call.dflashArgs speculator trace).expandedIdxMapping
        (r * speculator.numSpeculativeSteps + i) = call.inputs.idxMapping r :=
      proposed.slot_row inBatch inSteps
    have cached := ran.cached speculator rfl rfl sampleCol_lt
      (call.drawnRow speculator trace r i token) inRows inVocab (by
        intro other otherInRows sameSlot sameStep
        obtain ⟨otherInBatch, otherSlot⟩ := split other otherInRows
        have sameReq := proposed.accepts.injective _ otherInBatch r inBatch
          (otherSlot.symm.trans (sameSlot.trans isSlot))
        have isOther : other = r * speculator.numSpeculativeSteps + i := by
          rw [← Nat.div_add_mod' other speculator.numSpeculativeSteps, sameReq]
          exact congrArg _ (sameStep.trans isStep)
        rw [drawnRow, isMethod, isOther, isReq, isStep])
    rw [isSlot, sampleCol_row inSteps] at cached
    exact cached
  · intro slot _ notInBatch i inSteps token inVocab
    apply ran.uncached speculator rfl rfl sampleCol_lt inSteps inVocab
    intro row inRows isSlot
    obtain ⟨inBatch, ofReq⟩ := split row inRows
    exact absurd (ofReq.symm.trans isSlot) (notInBatch _ inBatch)

/-- `DSparkSpeculator` without padded rows, where its columns have one element or stride
one. -/
theorem Proposed.belongs_dspark
    (isMethod : speculator.method = .dspark) (unpadded : call.numReqsPadded = call.inputs.numReqs)
    (inPlace : call.inputs.numReqs ≤ 1 ∨ speculator.numSpeculativeSteps ≤ 1) :
    call.Belongs speculator trace := by
  -- a row of a step is a request
  have place : ∀ step < speculator.numSpeculativeSteps, ∀ row < call.inputs.numReqs,
      (call.dsparkArgs speculator trace step).expandedIdxMapping row = call.inputs.idxMapping row ∧
        speculator.sampleCol (step + row) = step := by
    intro step inSteps row inBatch
    have isRow : step + row = row * speculator.numSpeculativeSteps + step := by
      rcases inPlace with one | one
      · rw [show row = 0 by omega, Nat.zero_mul, Nat.add_comm]
      · rw [show speculator.numSpeculativeSteps = 1 by omega, Nat.mul_one, Nat.add_comm]
    refine ⟨?_, ?_⟩
    · show trace.buffers.sampleIdxMapping (step + row) = _
      rw [isRow]
      exact proposed.slot_row inBatch inSteps
    · rw [isRow]
      exact sampleCol_row inSteps
  constructor
  · intro r inBatch i inSteps token inVocab
    -- the row is stored in its own step, and later steps store to other columns
    have later : ∀ step, i < step → step ≤ speculator.numSpeculativeSteps →
        trace.cache step (speculator.address (call.inputs.idxMapping r) i token) =
          call.drawnRow speculator trace r i token := by
      intro step above
      induction step, above using Nat.le_induction with
      | base =>
        intro _
        obtain ⟨sampled, ran, -⟩ := proposed.dspark isMethod i inSteps
        rw [unpadded] at ran
        obtain ⟨isSlot, isStep⟩ := place i inSteps r inBatch
        have cached := ran.cached speculator rfl rfl (fun row => sampleCol_lt (i + row))
          (call.drawnRow speculator trace r i token) inBatch inVocab (by
            intro other otherInBatch sameSlot _
            obtain ⟨otherSlot, -⟩ := place i inSteps other otherInBatch
            rw [proposed.accepts.injective other otherInBatch r inBatch
              (otherSlot.symm.trans (sameSlot.trans isSlot)), drawnRow, isMethod])
        rw [isSlot, isStep] at cached
        exact cached
      | succ step above ih =>
        intro inRange
        obtain ⟨sampled, ran, -⟩ := proposed.dspark isMethod step (by omega)
        rw [unpadded] at ran
        rw [← ih (by omega)]
        apply ran.uncached speculator rfl rfl (fun row => sampleCol_lt (step + row))
          inSteps inVocab
        intro row inRows _
        rw [(place step (by omega) row inRows).2]
        omega
    exact later speculator.numSpeculativeSteps inSteps le_rfl
  · intro slot _ notInBatch i inSteps token inVocab
    have kept : ∀ step ≤ speculator.numSpeculativeSteps,
        trace.cache step (speculator.address slot i token) =
          trace.cache 0 (speculator.address slot i token) := by
      intro step
      induction step with
      | zero => exact fun _ => rfl
      | succ step ih =>
        intro inRange
        obtain ⟨sampled, ran, -⟩ := proposed.dspark isMethod step (by omega)
        rw [unpadded] at ran
        rw [← ih (by omega)]
        apply ran.uncached speculator rfl rfl (fun row => sampleCol_lt (step + row))
          inSteps inVocab
        intro row inRows isSlot
        exact absurd ((place step (by omega) row inRows).1.symm.trans isSlot) (notInBatch row inRows)
    exact kept speculator.numSpeculativeSteps le_rfl

theorem Proposed.belongs (inPlace : RowsInPlace speculator call.inputs.numReqs call.numReqsPadded) :
    call.Belongs speculator trace := by
  obtain ⟨unpadded, columns⟩ := inPlace
  cases isMethod : speculator.method with
  | dflash => exact proposed.belongs_dflash isMethod unpadded
  | dspark => exact proposed.belongs_dspark isMethod unpadded (columns isMethod)

end

/-! ## Calls whose rows are not in place -/

theorem drawnRow_greedy (greedy : ∀ slot, call.temperature slot = 0) (r i token : Nat) :
    call.drawnRow speculator trace r i token = call.logits r i token := by
  rw [drawnRow]
  split
  next => exact if_neg fun applies => applies.1 (greedy _)
  next => exact if_neg fun applies => applies.1 (greedy _)

/-- A call that leaves a foreign logit in the first cached row of slot 0, whether or not a
request of the batch has that slot. -/
theorem not_belongs_of_foreign {own foreign : α} (differ : own ≠ foreign)
    (accepts : speculator.Accepts call.inputs call.numReqsPadded)
    (greedy : ∀ slot, call.temperature slot = 0) (before : ∀ address, trace.cache 0 address = own)
    (ownLogits : ∀ r < call.inputs.numReqs, call.logits r 0 0 = own)
    (after : trace.cache speculator.numSpeculativeSteps (speculator.address 0 0 0) = foreign) :
    ¬ call.Belongs speculator trace := by
  intro belongs
  by_cases inBatch : ∃ r < call.inputs.numReqs, call.inputs.idxMapping r = 0
  · obtain ⟨r, below, isZero⟩ := inBatch
    have drawn := belongs.drawn r below 0 speculator.steps_pos 0 speculator.vocabSize_pos
    rw [isZero, after, drawnRow_greedy greedy, ownLogits r below] at drawn
    exact differ drawn.symm
  · have someSlot : 0 < speculator.maxNumReqs :=
      accepts.someReq.trans_le (accepts.padded.trans accepts.fits)
    have unchanged := belongs.unchanged 0 someSlot (fun r below isZero => inBatch ⟨r, below, isZero⟩) 0
      speculator.steps_pos 0 speculator.vocabSize_pos
    rw [after, before] at unchanged
    exact differ unchanged.symm

end ProposeCall

/-- Every launch of `gumbel_sample` can end with the store of any row. -/
theorem exists_gumbelSampled (fns : DeviceFns α) (speculator : ParallelSpeculator) (args : GumbelArgs α)
    {col : Nat → Nat} (numRows : Nat) (logits : Nat → Nat → α)
    (isProcessed : args.processedLogits = some ⟨speculator.stride, col, none⟩)
    (isVocab : args.vocabSize = speculator.vocabSize) (row : Nat) (inRows : row < numRows)
    (before : Buffer Nat α) :
    ∃ after sampled, GumbelSampled fns args numRows logits before after sampled ∧
      after (speculator.address (args.expandedIdxMapping row) (col row) 0) =
        args.applied row (logits row 0) := by
  have inGrid : (row, 0) ∈ List.range numRows ×ˢ List.range (cdiv args.vocabSize 1024) := by
    apply List.mem_product.mpr ⟨List.mem_range.mpr inRows, List.mem_range.mpr _⟩
    rw [isVocab, lt_cdiv_iff (by omega), Nat.zero_mul]
    exact speculator.vocabSize_pos
  set stores : Nat × Nat → List (Store Nat α) := fun program =>
    args.processedStores (logits program.1) program.1 program.2 1024 with isStores
  have stored : (⟨speculator.address (args.expandedIdxMapping row) (col row) 0,
      args.applied row (logits row 0)⟩ : Store Nat α) ∈ stores (row, 0) := by
    rw [isStores]
    exact (mem_processedStores isProcessed isVocab).mpr
      ⟨0, speculator.vocabSize_pos, Nat.zero_div _, rfl⟩
  obtain ⟨after, launched, holds⟩ := exists_launched_last inGrid stored before
  set best := fun tokenIdx => argmaxBelow (fun block =>
    (args.blockArgmax fns (tile (logits tokenIdx) args.vocabSize 1024 block) tokenIdx block 1024).1)
    (cdiv args.vocabSize 1024) with isBest
  exact ⟨after, fun tokenIdx => best tokenIdx * 1024 + (args.blockArgmax fns
    (tile (logits tokenIdx) args.vocabSize 1024 (best tokenIdx)) tokenIdx (best tokenIdx) 1024).2,
    ⟨launched, fun tokenIdx _ => by rw [isBest]⟩, holds⟩

section

variable {fns : DeviceFns α} {speculator : ParallelSpeculator} {inputs : DraftInputs} {numReqsPadded : Nat}

theorem exists_buffers (speculator : ParallelSpeculator) (inputs : DraftInputs) : ∃ before buffers,
    inputs.Prepared (speculator.prepareKernel inputs) before buffers :=
  ⟨⟨fun _ => 0, fun _ => 0, fun _ => 0, fun _ => 0, fun _ => 0, fun _ => 0, fun _ => 0, fun _ => false,
    fun _ => 0, fun _ => 0, fun _ => 0⟩, inputs.exists_prepared _ _⟩

theorem exists_padded (accepts : speculator.Accepts inputs numReqsPadded) {own foreign : α}
    (differ : own ≠ foreign) (isPadded : inputs.numReqs < numReqsPadded)
    (isWhole : speculator.method = .dspark → speculator.numSpeculativeSteps = 1) :
    ∃ (call : ProposeCall α) (trace : ProposeTrace α), call.inputs = inputs ∧
      call.numReqsPadded = numReqsPadded ∧ call.Proposed fns speculator trace ∧
      ¬ call.Belongs speculator trace := by
  obtain ⟨fresh, buffers, prepared⟩ := exists_buffers speculator inputs
  set call : ProposeCall α := ⟨inputs, numReqsPadded,
    fun r _ _ => if r < inputs.numReqs then own else foreign, fun _ => 0, fun _ => 0⟩ with isCall
  have positive := speculator.steps_pos
  have isForeign : call.logits inputs.numReqs 0 0 = foreign := if_neg (lt_irrefl _)
  have scaled := Nat.mul_le_mul_right speculator.numSpeculativeSteps (Nat.succ_le_of_lt isPadded)
  have fits := Nat.mul_le_mul_right speculator.numSpeculativeSteps accepts.fits
  rw [Nat.succ_mul] at scaled
  cases isMethod : speculator.method with
  | dflash =>
    set blank : ProposeTrace α := ⟨buffers, fun _ _ => own, fun _ _ => 0⟩ with isBlank
    obtain ⟨after, sampled, ran, holds⟩ := exists_gumbelSampled fns speculator
      (call.dflashArgs speculator blank) (numReqsPadded * speculator.numSpeculativeSteps)
      (fun row => call.logits (row / speculator.numSpeculativeSteps)
        (row % speculator.numSpeculativeSteps)) rfl rfl
      (inputs.numReqs * speculator.numSpeculativeSteps) (by omega) (fun _ => own)
    set trace : ProposeTrace α := ⟨buffers, fun step => if step = 0 then fun _ => own else after,
      fun r i => sampled (r * speculator.numSpeculativeSteps + i)⟩ with isTrace
    have last : trace.cache speculator.numSpeculativeSteps = after := if_neg positive.ne'
    have proposed : call.Proposed fns speculator trace := by
      refine ⟨accepts, ⟨fresh, prepared⟩, fun _ => ⟨sampled, ?_, fun _ _ => rfl⟩, fun other => ?_⟩
      · rw [last]
        exact ran
      · rw [isMethod] at other
        cases other
    refine ⟨call, trace, rfl, rfl, proposed, ?_⟩
    apply ProposeCall.not_belongs_of_foreign differ accepts (fun _ => rfl) (fun _ => rfl)
      (fun r below => if_pos below)
    have isSlot : (call.dflashArgs speculator blank).expandedIdxMapping
        (inputs.numReqs * speculator.numSpeculativeSteps) = 0 :=
      proposed.slot_padding le_rfl (by omega)
    have isCol : speculator.sampleCol (inputs.numReqs * speculator.numSpeculativeSteps) = 0 :=
      Nat.mul_mod_left _ _
    rw [last]
    rw [isSlot, isCol] at holds
    rw [holds, GumbelArgs.applied, if_neg fun applies => applies.1 rfl, Nat.mul_div_cancel _ positive,
      Nat.mul_mod_left]
    exact isForeign
  | dspark =>
    have one := isWhole isMethod
    set blank : ProposeTrace α := ⟨buffers, fun _ _ => own, fun _ _ => 0⟩ with isBlank
    obtain ⟨after, sampled, ran, holds⟩ := exists_gumbelSampled fns speculator
      (call.dsparkArgs speculator blank 0) numReqsPadded (fun row => call.logits row 0) rfl rfl
      inputs.numReqs isPadded (fun _ => own)
    set trace : ProposeTrace α := ⟨buffers, fun step => if step = 0 then fun _ => own else after,
      fun r _ => sampled r⟩ with isTrace
    have proposed : call.Proposed fns speculator trace := by
      refine ⟨accepts, ⟨fresh, prepared⟩, fun other => ?_, fun _ step inSteps => ?_⟩
      · rw [isMethod] at other
        cases other
      · rw [show step = 0 by omega]
        exact ⟨sampled, ran, fun _ => rfl⟩
    refine ⟨call, trace, rfl, rfl, proposed, ?_⟩
    apply ProposeCall.not_belongs_of_foreign differ accepts (fun _ => rfl) (fun _ => rfl)
      (fun r below => if_pos below)
    have isSlot : (call.dsparkArgs speculator blank 0).expandedIdxMapping inputs.numReqs = 0 :=
      proposed.slot_padding
        (by rw [one]; show inputs.numReqs * 1 ≤ 0 + inputs.numReqs; omega)
        (by rw [one]; show 0 + inputs.numReqs < _; have below := accepts.fits; omega)
    have isCol : speculator.sampleCol (0 + inputs.numReqs) = 0 := by
      rw [ParallelSpeculator.sampleCol, one, Nat.mod_one]
    have last : trace.cache speculator.numSpeculativeSteps = after := if_neg positive.ne'
    rw [last]
    rw [isSlot, isCol] at holds
    rw [holds, GumbelArgs.applied, if_neg fun applies => applies.1 rfl]
    exact isForeign

theorem exists_dsparkTrace (fns : DeviceFns α) (isMethod : speculator.method = .dspark)
    (call : ProposeCall α) (accepts : speculator.Accepts call.inputs call.numReqsPadded) (first : Buffer Nat α) :
    ∃ trace : ProposeTrace α, trace.cache 0 = first ∧ call.Proposed fns speculator trace := by
  obtain ⟨fresh, buffers, prepared⟩ := exists_buffers speculator call.inputs
  set blank : ProposeTrace α := ⟨buffers, fun _ => first, fun _ _ => 0⟩ with isBlank
  have someRow : 0 < call.numReqsPadded := accepts.someReq.trans_le accepts.padded
  have steps : ∀ (step : Nat) (before : Buffer Nat α), ∃ after sampled,
      GumbelSampled fns (call.dsparkArgs speculator blank step) call.numReqsPadded
        (fun row => call.logits row step) before after sampled := by
    intro step before
    obtain ⟨after, sampled, ran, -⟩ := exists_gumbelSampled fns speculator
      (call.dsparkArgs speculator blank step) call.numReqsPadded (fun row => call.logits row step) rfl rfl
      0 someRow before
    exact ⟨after, sampled, ran⟩
  choose next sampled ran using steps
  set cache : Nat → Buffer Nat α := fun step => Nat.rec first next step with isCache
  refine ⟨⟨buffers, cache, fun r step => sampled step (cache step) r⟩, rfl, accepts, ⟨fresh, prepared⟩,
    fun other => ?_, fun _ step _ => ⟨_, ran step (cache step), fun _ => rfl⟩⟩
  rw [isMethod] at other
  cases other

/-- With two rows and two steps, the last step of `DSparkSpeculator` stores its second row
to the first cached row of another request, or of slot 0. -/
theorem exists_displaced (isMethod : speculator.method = .dspark)
    (accepts : speculator.Accepts inputs numReqsPadded) {own foreign : α} (differ : own ≠ foreign)
    (rows : 1 < numReqsPadded) (steps : 1 < speculator.numSpeculativeSteps) :
    ∃ (call : ProposeCall α) (trace : ProposeTrace α), call.inputs = inputs ∧
      call.numReqsPadded = numReqsPadded ∧ call.Proposed fns speculator trace ∧
      ¬ call.Belongs speculator trace := by
  -- in the last step, the second row takes the entry behind the first request
  have isLast : speculator.numSpeculativeSteps - 1 + 1 = speculator.numSpeculativeSteps := by omega
  have isCol : speculator.sampleCol (speculator.numSpeculativeSteps - 1 + 1) = 0 := by
    rw [isLast]
    exact Nat.mod_self _
  have fits := Nat.mul_le_mul_right speculator.numSpeculativeSteps accepts.fits
  have scaled := Nat.mul_le_mul_right speculator.numSpeculativeSteps (Nat.succ_le_of_lt rows)
  by_cases single : inputs.numReqs = 1
  · set call : ProposeCall α := ⟨inputs, numReqsPadded,
      fun r _ _ => if r = 0 then own else foreign, fun _ => 0, fun _ => 0⟩ with isCall
    obtain ⟨trace, isFirst, proposed⟩ := exists_dsparkTrace fns isMethod call accepts
      (fun _ => own)
    refine ⟨call, trace, rfl, rfl, proposed, ?_⟩
    obtain ⟨sampled, ran, -⟩ := proposed.dspark isMethod (speculator.numSpeculativeSteps - 1) (by omega)
    have isSlot : (call.dsparkArgs speculator trace (speculator.numSpeculativeSteps - 1)).expandedIdxMapping
        1 = 0 := by
      show trace.buffers.sampleIdxMapping (speculator.numSpeculativeSteps - 1 + 1) = 0
      rw [isLast]
      apply proposed.slot_padding
      · show inputs.numReqs * _ ≤ _
        rw [single, Nat.one_mul]
      · omega
    have cached := ran.cached speculator rfl rfl
      (fun row => ProposeCall.sampleCol_lt (speculator.numSpeculativeSteps - 1 + row)) foreign rows
      speculator.vocabSize_pos (by
        intro other _ _ sameCol
        have notFirst : other ≠ 0 := by
          rintro rfl
          rw [isCol, Nat.add_zero, ParallelSpeculator.sampleCol, Nat.mod_eq_of_lt (by omega)] at sameCol
          omega
        rw [GumbelArgs.applied, if_neg fun applies => applies.1 rfl]
        exact if_neg notFirst)
    rw [isSlot, isCol, isLast] at cached
    apply ProposeCall.not_belongs_of_foreign differ accepts (fun _ => rfl)
      (fun address => by rw [isFirst]) _ cached
    intro r below
    have isZero : r = 0 := by
      have onlyOne : r < 1 := single ▸ below
      omega
    exact if_pos isZero
  · have several : 1 < inputs.numReqs := by
      have someReq := accepts.someReq
      omega
    set call : ProposeCall α := ⟨inputs, numReqsPadded,
      fun _ i _ => if i = 0 then own else foreign, fun _ => 0, fun _ => 0⟩ with isCall
    obtain ⟨trace, isFirst, proposed⟩ := exists_dsparkTrace fns isMethod call accepts
      (fun _ => own)
    refine ⟨call, trace, rfl, rfl, proposed, fun belongs => ?_⟩
    obtain ⟨sampled, ran, -⟩ := proposed.dspark isMethod (speculator.numSpeculativeSteps - 1) (by omega)
    have isSlot : (call.dsparkArgs speculator trace (speculator.numSpeculativeSteps - 1)).expandedIdxMapping
        1 = inputs.idxMapping 1 := by
      show trace.buffers.sampleIdxMapping (speculator.numSpeculativeSteps - 1 + 1) = _
      rw [isLast]
      have slot := proposed.slot_row several speculator.steps_pos
      rwa [Nat.one_mul, Nat.add_zero] at slot
    have cached := ran.cached speculator rfl rfl
      (fun row => ProposeCall.sampleCol_lt (speculator.numSpeculativeSteps - 1 + row)) foreign rows
      speculator.vocabSize_pos (by
        intro other _ _ _
        rw [GumbelArgs.applied, if_neg fun applies => applies.1 rfl]
        exact if_neg (by omega))
    rw [isSlot, isCol, isLast] at cached
    have drawn := belongs.drawn 1 several 0 speculator.steps_pos 0 speculator.vocabSize_pos
    rw [ProposeCall.drawnRow_greedy fun _ => rfl] at drawn
    have isOwn : call.logits 1 0 0 = own := rfl
    exact differ (isOwn.symm.trans (drawn.symm.trans cached))

end

/-- A batch with one token for each request, in the slots with their numbers. -/
private def oneTokenEach (speculator : ParallelSpeculator) (numReqs : Nat) : DraftInputs where
  numReqs
  targetPositions token := token
  targetQueryStartLoc r := r
  maxTargetQueryLen := 1
  idxMapping r := r
  lastSampled _ := 0
  nextPrefillTokens _ := 0
  numSampled _ := 1
  numRejected _ := 0
  blockTable _ := 0
  blockTableStride := 1
  parallelDraftingTokenId := 0
  blockSize := 16
  numQueryPerReq := speculator.numQueryPerReq
  numSpeculativeSteps := speculator.numSpeculativeSteps
  maxNumReqs := speculator.maxNumReqs
  maxNumTokens := 64

private theorem oneTokenEach_accepts {speculator : ParallelSpeculator} {numReqs numReqsPadded : Nat}
    (someReq : 0 < numReqs) (padded : numReqs ≤ numReqsPadded) (fits : numReqsPadded ≤ speculator.maxNumReqs) :
    speculator.Accepts (oneTokenEach speculator numReqs) numReqsPadded := by
  refine ⟨⟨⟨fun r _ => Nat.le_succ r⟩, fun r _ => ?_⟩, someReq, padded, fits, fun r below => ?_,
    fun r _ s _ same => same, rfl, rfl, rfl⟩
  · show r + 1 - r ≤ 1
    omega
  · exact (show r < numReqs from below).trans_le (padded.trans fits)

private def smallSpeculator (method : DraftMethod) : ParallelSpeculator :=
  ⟨method, 2, 2, 1, Nat.two_pos, Nat.one_pos⟩

local instance wholeLogits : DeviceFloat Nat := RejectionInputs.natLogits

private def idFns : DeviceFns Nat := ⟨id, id, fun _ _ => 0, fun _ _ _ => 0⟩

end DeepSpark
