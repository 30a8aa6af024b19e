import DeepSpark.Worker.SamplerRows
import DeepSpark.Worker.MinTokensProcessor

/-!
Logit biases of the runner: `v1/worker/gpu/sample/logit_bias.py`.

Owns the staged biases of the slots, the kernel's stores for a row in program order, the stop
tokens it masks for minimum tokens, and on which rows these are the ones that the minimum asks
for and that the processor of the older runner masks.
-/

namespace DeepSpark

open Lib Function

/-! ## The state of the slots -/

def maxNumAllowedTokenIds : Nat := 1024

def maxNumLogitBiasTokens : Nat := 1024

def maxNumStopTokenIds : Nat := 128

/-- `LogitBiasState`; the tables are addressed by row stride. -/
structure LogitBiasState (L : Type) where
  numAllowedTokenIds : Buffer Nat Nat
  allowedTokenIds : Buffer Nat Int
  numLogitBias : Buffer Nat Nat
  logitBiasTokenIds : Buffer Nat Int
  logitBias : Buffer Nat L
  minLens : Buffer Nat Nat
  numStopTokenIds : Buffer Nat Nat
  stopTokenIds : Buffer Nat Int
  useLogitBias : Buffer Nat Bool

/-- The fields of `SamplingParams` that `LogitBiasState` reads. -/
structure LogitBiasParams (L : Type) where
  allowedTokenIds : Option (List Int)
  logitBias : Option (PyDict Int L)
  minTokens : Nat
  allStopTokenIds : List Int

namespace LogitBiasState

variable {L : Type}

/-- `add_request`: the allowed token ids; the flag is `use_logit_bias`. -/
def addAllowedTokenIds (state : LogitBiasState L) (reqIdx : Nat) (params : LogitBiasParams L) :
    Except PyError (LogitBiasState L × Bool) :=
  let allowedTokenIds := params.allowedTokenIds.getD []
  let numAllowedTokenIds := allowedTokenIds.length
  if allowedTokenIds.isEmpty then
    .ok ({ state with numAllowedTokenIds := Function.update state.numAllowedTokenIds reqIdx 0 }, false)
  else if numAllowedTokenIds > maxNumAllowedTokenIds then
    .error (.valueError
      s!"Too many allowed token IDs: {numAllowedTokenIds}. The max size is {maxNumAllowedTokenIds}.")
  else
    .ok ({ state with
      numAllowedTokenIds := Function.update state.numAllowedTokenIds reqIdx numAllowedTokenIds
      allowedTokenIds := state.allowedTokenIds.write (rowStores maxNumAllowedTokenIds reqIdx allowedTokenIds) }, true)

def addLogitBias (state : LogitBiasState L) (reqIdx : Nat) (params : LogitBiasParams L) :
    Except PyError (LogitBiasState L × Bool) :=
  let logitBias := (params.logitBias.getD .empty).entries
  let numLogitBias := logitBias.length
  if logitBias.isEmpty then
    .ok ({ state with numLogitBias := Function.update state.numLogitBias reqIdx 0 }, false)
  else if numLogitBias > maxNumLogitBiasTokens then
    .error (.valueError s!"Too many logit bias tokens: {numLogitBias}. The max size is {maxNumLogitBiasTokens}.")
  else
    .ok ({ state with
      numLogitBias := Function.update state.numLogitBias reqIdx numLogitBias
      logitBiasTokenIds := state.logitBiasTokenIds.write
        (rowStores maxNumLogitBiasTokens reqIdx (logitBias.map Prod.fst))
      logitBias := state.logitBias.write (rowStores maxNumLogitBiasTokens reqIdx (logitBias.map Prod.snd)) }, true)

def addMinTokens (state : LogitBiasState L) (reqIdx promptLen : Nat) (params : LogitBiasParams L) :
    Except PyError (LogitBiasState L × Bool) :=
  let minLens := Function.update state.minLens reqIdx (promptLen + params.minTokens)
  let numStopTokenIds := params.allStopTokenIds.length
  if params.minTokens > 0 ∧ params.allStopTokenIds ≠ [] then
    if numStopTokenIds > maxNumStopTokenIds then
      .error (.valueError s!"Too many stop tokens: {numStopTokenIds}. The max size is {maxNumStopTokenIds}.")
    else
      .ok ({ state with
        minLens := minLens
        numStopTokenIds := Function.update state.numStopTokenIds reqIdx numStopTokenIds
        stopTokenIds := state.stopTokenIds.write (rowStores maxNumStopTokenIds reqIdx params.allStopTokenIds) }, true)
  else
    .ok ({ state with
      minLens := minLens
      numStopTokenIds := Function.update state.numStopTokenIds reqIdx 0 }, false)

/-- `add_request` in a slot, with the staged writes applied, from the length of the prompt and
the parameters. -/
def addRequest (state : LogitBiasState L) (reqIdx : Nat) (request : Nat × LogitBiasParams L) :
    Except PyError (LogitBiasState L) := do
  let allowed ← state.addAllowedTokenIds reqIdx request.2
  let biased ← allowed.1.addLogitBias reqIdx request.2
  let stopped ← biased.1.addMinTokens reqIdx request.1 request.2
  .ok { stopped.1 with
    useLogitBias := Function.update stopped.1.useLogitBias reqIdx (allowed.2 || biased.2 || stopped.2) }

structure SameStops (before after : LogitBiasState L) : Prop where
  minLens : after.minLens = before.minLens
  numStopTokenIds : after.numStopTokenIds = before.numStopTokenIds
  stopTokenIds : after.stopTokenIds = before.stopTokenIds
  useLogitBias : after.useLogitBias = before.useLogitBias

variable {state after : LogitBiasState L} {reqIdx promptLen : Nat} {params : LogitBiasParams L} {used : Bool}

theorem addAllowedTokenIds_sameStops (added : state.addAllowedTokenIds reqIdx params = .ok (after, used)) :
    SameStops state after := by
  rw [addAllowedTokenIds] at added
  split at added
  next =>
    cases added
    exact ⟨rfl, rfl, rfl, rfl⟩
  next =>
    split at added
    next => cases added
    next =>
      cases added
      exact ⟨rfl, rfl, rfl, rfl⟩

theorem addLogitBias_sameStops (added : state.addLogitBias reqIdx params = .ok (after, used)) :
    SameStops state after := by
  rw [addLogitBias] at added
  split at added
  next =>
    cases added
    exact ⟨rfl, rfl, rfl, rfl⟩
  next =>
    split at added
    next => cases added
    next =>
      cases added
      exact ⟨rfl, rfl, rfl, rfl⟩

theorem addRequest_spec (added : state.addRequest reqIdx (promptLen, params) = .ok after) :
    after.minLens = update state.minLens reqIdx (promptLen + params.minTokens) ∧
      (∀ other ≠ reqIdx, after.useLogitBias other = state.useLogitBias other) ∧
      (params.minTokens > 0 ∧ params.allStopTokenIds ≠ [] ∧ params.allStopTokenIds.length ≤ maxNumStopTokenIds ∧
          after.numStopTokenIds = update state.numStopTokenIds reqIdx params.allStopTokenIds.length ∧
          after.stopTokenIds = state.stopTokenIds.write (rowStores maxNumStopTokenIds reqIdx params.allStopTokenIds) ∧
          after.useLogitBias reqIdx = true ∨
        ¬ (params.minTokens > 0 ∧ params.allStopTokenIds ≠ []) ∧
          after.numStopTokenIds = update state.numStopTokenIds reqIdx 0 ∧
          after.stopTokenIds = state.stopTokenIds) := by
  obtain ⟨⟨allowed, usesAllowed⟩, isAllowed, rest⟩ := bind_eq_ok.mp added
  obtain ⟨⟨biased, usesBias⟩, isBiased, rest⟩ := bind_eq_ok.mp rest
  obtain ⟨⟨stopped, usesStop⟩, isStopped, rest⟩ := bind_eq_ok.mp rest
  have sameAllowed := addAllowedTokenIds_sameStops isAllowed
  have sameBiased := addLogitBias_sameStops isBiased
  cases rest
  rw [addMinTokens] at isStopped
  split at isStopped
  next uses =>
    split at isStopped
    next => cases isStopped
    next few =>
      cases isStopped
      refine ⟨?_, fun other isOther => ?_, Or.inl ⟨uses.1, uses.2, not_lt.mp few, ?_, ?_, ?_⟩⟩
      · show update biased.minLens _ _ = _
        rw [sameBiased.minLens, sameAllowed.minLens]
      · show update biased.useLogitBias _ _ _ = _
        rw [update_of_ne isOther, sameBiased.useLogitBias, sameAllowed.useLogitBias]
      · show update biased.numStopTokenIds _ _ = _
        rw [sameBiased.numStopTokenIds, sameAllowed.numStopTokenIds]
      · show biased.stopTokenIds.write _ = _
        rw [sameBiased.stopTokenIds, sameAllowed.stopTokenIds]
      · show update biased.useLogitBias reqIdx _ reqIdx = true
        rw [update_self, Bool.or_true]
  next unused =>
    cases isStopped
    refine ⟨?_, fun other isOther => ?_, Or.inr ⟨unused, ?_, ?_⟩⟩
    · show update biased.minLens _ _ = _
      rw [sameBiased.minLens, sameAllowed.minLens]
    · show update biased.useLogitBias _ _ _ = _
      rw [update_of_ne isOther, sameBiased.useLogitBias, sameAllowed.useLogitBias]
    · show update biased.numStopTokenIds _ _ = _
      rw [sameBiased.numStopTokenIds, sameAllowed.numStopTokenIds]
    · show biased.stopTokenIds = _
      rw [sameBiased.stopTokenIds, sameAllowed.stopTokenIds]

/-- A slot holds the minimum and the stop tokens of its request. -/
structure Holds (state : LogitBiasState L) (slot promptLen : Nat) (params : LogitBiasParams L) : Prop where
  minLen : state.minLens slot = promptLen + params.minTokens
  few : params.allStopTokenIds.length ≤ maxNumStopTokenIds
  count : state.numStopTokenIds slot = params.allStopTokenIds.length
  token : ∀ index < params.allStopTokenIds.length,
    params.allStopTokenIds[index]? = some (state.stopTokenIds (slot * maxNumStopTokenIds + index))
  used : state.useLogitBias slot = true

theorem holds_occupied {slot : Nat} (occupies : Occupies addRequest slot (promptLen, params) state)
    (minimum : 0 < params.minTokens) (someStop : params.allStopTokenIds ≠ []) : state.Holds slot promptLen params := by
  apply occupies.holds
  · intro before after added
    obtain ⟨isMin, -, ⟨-, -, few, isCount, isTokens, isUsed⟩ | ⟨unused, -, -⟩⟩ := addRequest_spec added
    · refine ⟨?_, few, ?_, fun index below => ?_, isUsed⟩
      · rw [isMin, update_self]
      · rw [isCount, update_self]
      · have isToken := List.getElem?_eq_getElem below
        rw [isToken, isTokens, write_rowStores_own before.stopTokenIds isToken]
    · exact absurd ⟨minimum, someStop⟩ unused
  · rintro before after other ⟨otherLen, otherParams⟩ isOther added holds
    obtain ⟨isMin, keptUsed, ⟨-, -, otherFew, isCount, isTokens, -⟩ | ⟨-, isCount, isTokens⟩⟩ := addRequest_spec added
    · refine ⟨?_, holds.few, ?_, fun index below => ?_, ?_⟩
      · rw [isMin, update_of_ne isOther.symm, holds.minLen]
      · rw [isCount, update_of_ne isOther.symm, holds.count]
      · have few := holds.few
        rw [holds.token index below, isTokens, write_rowStores_other _ otherFew isOther (by omega)]
      · rw [keptUsed slot isOther.symm, holds.used]
    · refine ⟨?_, holds.few, ?_, fun index below => ?_, ?_⟩
      · rw [isMin, update_of_ne isOther.symm, holds.minLen]
      · rw [isCount, update_of_ne isOther.symm, holds.count]
      · rw [holds.token index below, isTokens]
      · rw [keptUsed slot isOther.symm, holds.used]

end LogitBiasState

/-! ## The kernel -/

/-- The arguments of `_bias_kernel`. -/
structure LogitBiasArgs (L : Type) where
  logitsStride : Nat
  vocabSize : Nat
  expandedIdxMapping : Buffer Nat Nat
  pos : Buffer Nat Nat
  state : LogitBiasState L

namespace LogitBiasArgs

variable {L : Type} (args : LogitBiasArgs L)

def blockSize : Nat := nextPowerOf2 (max maxNumAllowedTokenIds (max maxNumLogitBiasTokens maxNumStopTokenIds))

def lanes (count : Nat) : List Nat := (List.range blockSize).filter (· < count)

def address (tokenIdx : Nat) (token : Int) : Int := (tokenIdx * args.logitsStride : Nat) + token

/-- `_bias_kernel`, allowed token ids: the row is cleared and the allowed logits are restored. -/
def allowedStores (negInf : L) (logits : Buffer Int L) (tokenIdx : Nat) : List (Store Int L) :=
  let reqStateIdx := args.expandedIdxMapping tokenIdx
  let numAllowedTokenIds := args.state.numAllowedTokenIds reqStateIdx
  if numAllowedTokenIds > 0 then
    let allowedTokenIds (block : Nat) := args.state.allowedTokenIds (reqStateIdx * maxNumAllowedTokenIds + block)
    ((blockLoop 0 args.vocabSize 8192).map fun offset => ⟨args.address tokenIdx offset, negInf⟩) ++
      (lanes numAllowedTokenIds).map fun block =>
        ⟨args.address tokenIdx (allowedTokenIds block), logits (args.address tokenIdx (allowedTokenIds block))⟩
  else []

/-- `_bias_kernel`, logit bias: the biases are added to what the row holds by now. -/
def biasStores [Add L] (logits : Buffer Int L) (tokenIdx : Nat) : List (Store Int L) :=
  let reqStateIdx := args.expandedIdxMapping tokenIdx
  let numLogitBias := args.state.numLogitBias reqStateIdx
  (lanes numLogitBias).map fun block =>
    let address := args.address tokenIdx (args.state.logitBiasTokenIds (reqStateIdx * maxNumLogitBiasTokens + block))
    ⟨address, logits address + args.state.logitBias (reqStateIdx * maxNumLogitBiasTokens + block)⟩

/-- `_bias_kernel`, minimum tokens: the stop tokens it masks. -/
def maskedStops (tokenIdx : Nat) : List Int :=
  let reqStateIdx := args.expandedIdxMapping tokenIdx
  let numStopTokenIds := args.state.numStopTokenIds reqStateIdx
  if numStopTokenIds > 0 ∧ args.pos tokenIdx < args.state.minLens reqStateIdx then
    (lanes numStopTokenIds).map fun block => args.state.stopTokenIds (reqStateIdx * maxNumStopTokenIds + block)
  else []

/-- `_bias_kernel`: the stores of the program of a row, in program order. -/
def stores [Add L] (negInf : L) (logits : Buffer Int L) (tokenIdx : Nat) : List (Store Int L) :=
  let allowed := args.allowedStores negInf logits tokenIdx
  let biased := args.biasStores (logits.write allowed) tokenIdx
  allowed ++ biased ++ (args.maskedStops tokenIdx).map fun token => ⟨args.address tokenIdx token, negInf⟩

/-- `apply_logit_bias`: the stores for a row of logits, none where no request of the batch has a
bias. -/
def applyLogitBias [Add L] (negInf : L) (layout : BatchLayout) (logits : Buffer Int L) (tokenIdx : Nat) :
    List (Store Int L) :=
  if (List.range layout.numReqs).any fun row => args.state.useLogitBias (layout.idxMapping row) then
    args.stores negInf logits tokenIdx
  else []

theorem mem_lanes {count block : Nat} (few : count ≤ maxNumStopTokenIds) : block ∈ lanes count ↔ block < count := by
  have fits : maxNumStopTokenIds ≤ blockSize :=
    ((le_max_right _ _).trans (le_max_right _ _)).trans (le_nextPowerOf2 _)
  rw [lanes, List.mem_filter, List.mem_range, decide_eq_true_eq, and_iff_right_of_imp]
  omega

variable {args} {tokenIdx promptLen : Nat} {params : LogitBiasParams L}

/-- The program of a row masks the stop tokens of its request below the minimum length. -/
theorem mem_maskedStops (holds : args.state.Holds (args.expandedIdxMapping tokenIdx) promptLen params)
    (someStop : params.allStopTokenIds ≠ []) {token : Int} :
    token ∈ args.maskedStops tokenIdx ↔
      args.pos tokenIdx < promptLen + params.minTokens ∧ token ∈ params.allStopTokenIds := by
  have someCount : params.allStopTokenIds.length > 0 := List.length_pos_of_ne_nil someStop
  rw [maskedStops, holds.count, holds.minLen]
  split
  next masks =>
    rw [List.mem_map, and_iff_right masks.2]
    constructor
    · rintro ⟨block, inLanes, rfl⟩
      exact List.mem_of_getElem? (holds.token block ((mem_lanes holds.few).mp inLanes))
    · intro isStop
      obtain ⟨block, isAt⟩ := List.getElem?_of_mem isStop
      have inStops := (List.getElem?_eq_some_iff.mp isAt).1
      refine ⟨block, (mem_lanes holds.few).mpr inStops, ?_⟩
      rw [holds.token block inStops] at isAt
      exact Option.some.inj isAt
  next passes =>
    constructor
    · exact fun member => nomatch member
    · rintro ⟨below, -⟩
      exact absurd ⟨someCount, below⟩ passes

/-- A request with minimum tokens has its program launched, whose last stores are the masks. -/
theorem applyLogitBias_eq [Add L] {negInf : L} {layout : BatchLayout} {logits : Buffer Int L} {row : Nat}
    (inBatch : row < layout.numReqs) (used : args.state.useLogitBias (layout.idxMapping row) = true) :
    ∃ earlier, args.applyLogitBias negInf layout logits tokenIdx =
      earlier ++ (args.maskedStops tokenIdx).map fun token => ⟨args.address tokenIdx token, negInf⟩ := by
  have anyUses : ((List.range layout.numReqs).any fun row => args.state.useLogitBias (layout.idxMapping row)) = true :=
    List.any_eq_true.mpr ⟨row, List.mem_range.mpr inBatch, used⟩
  rw [applyLogitBias, if_pos anyUses]
  exact ⟨_, rfl⟩

end LogitBiasArgs

/-! ## The rows of a step -/

section

variable {maxModelLen numSpeculativeSteps slot promptLen : Nat} {states : DeviceStates} {cache : Buffer Nat (Option Int)}
  {seq next : Sequence} {layout : BatchLayout} {buffers : InputBuffers} {result : SamplerResult}
  {afterStep : DeviceStates} {row : Nat} {promptLens expandedIdxMapping expandedLocalPos : Buffer Nat Nat}
  {L : Type} {state : LogitBiasState L} {params : LogitBiasParams L}

/-- The arguments that `apply_logit_bias` passes to the kernel. -/
def InputBuffers.logitBiasArgs (buffers : InputBuffers) (expandedIdxMapping : Buffer Nat Nat) (state : LogitBiasState L)
    (logitsStride vocabSize : Nat) : LogitBiasArgs L where
  logitsStride := logitsStride
  vocabSize := vocabSize
  expandedIdxMapping := expandedIdxMapping
  pos := buffers.sampledPositions
  state := state

/-- The kernel masks the stop tokens on the rows that predict an output up to the minimum, one
row more than the minimum asks for. -/
theorem Serves.maskedStops (run : Serves maxModelLen numSpeculativeSteps slot states cache seq)
    (prompt : Occupies addPromptLen slot (promptLen, seq.prefillLen) promptLens)
    (held : Occupies LogitBiasState.addRequest slot (promptLen, params) state) (minimum : 0 < params.minTokens)
    (someStop : params.allStopTokenIds ≠ [])
    (step : RunnerStep maxModelLen numSpeculativeSteps layout states buffers result afterStep)
    (inBatch : row < layout.numReqs) (isSlot : layout.idxMapping row = slot)
    (takes : seq.Takes numSpeculativeSteps (layout.turn states result row) next)
    (samples : seq.Samples (layout.turn states result row))
    (expanded : layout.Expanded expandedIdxMapping expandedLocalPos) (logitsStride vocabSize : Nat) {index : Nat}
    (isDraft : index ≤ (layout.turn states result row).drafts.length) {token : Int} :
    token ∈ (buffers.logitBiasArgs expandedIdxMapping state logitsStride vocabSize).maskedStops
        (layout.cuNumLogits row + index) ↔
      seq.tokens.length - promptLen + index ≤ params.minTokens ∧ token ∈ params.allStopTokenIds := by
  have tracks := run.tracks
  have isLogits : layout.numLogits row = 1 + (layout.turn states result row).drafts.length := step.numLogits_eq inBatch
  have bounded := takes.bounded
  have inRows : index < layout.numLogits row := by omega
  obtain ⟨isIdx, -⟩ := expanded.reads step.wellFormed inBatch (by rw [step.steps]; omega) inRows
  obtain ⟨isPosition, -⟩ := tracks.sampledRow step inBatch isSlot takes samples inRows
  obtain ⟨someToken, -⟩ := tracks.sampledStart step inBatch takes samples
  have holds : state.Holds (expandedIdxMapping (layout.cuNumLogits row + index)) promptLen params := by
    rw [isIdx, isSlot]
    exact LogitBiasState.holds_occupied held minimum someStop
  have promptInTokens : promptLen ≤ seq.tokens.length := by
    have inPrefill := (promptLen_occupied prompt).1
    rcases tracks.phase with ⟨-, isLength⟩ | ⟨complete, isLength, -⟩
    · omega
    · omega
  rw [LogitBiasArgs.mem_maskedStops holds someStop]
  show buffers.sampledPositions (layout.cuNumLogits row + index) < _ ∧ _ ↔ _
  rw [isPosition]
  constructor
  · rintro ⟨below, isStop⟩
    exact ⟨by omega, isStop⟩
  · rintro ⟨atMost, isStop⟩
    exact ⟨by omega, isStop⟩

end

/-- A runner whose one request has one output and one draft, with minimum tokens and a stop
token, and the processor with the same request. -/
theorem exists_minTokensStep (minTokens : Nat) : ∃ (_ : OneDraft) (state : LogitBiasState Int)
    (processor : MinTokensLogitsProcessor Unit) (seats : PyDict Nat (MinTok Unit)),
    Occupies LogitBiasState.addRequest 0 (1, ⟨none, none, minTokens, [3]⟩) state ∧
      MinTokensLogitsProcessor.Runs processor seats (fun _ => 1) ∧ seats.get? 0 = some ⟨minTokens, (), [3]⟩ := by
  obtain ⟨draft⟩ := exists_oneDraft
  obtain ⟨state, isState⟩ : ∃ state, LogitBiasState.addRequest (L := Int) ⟨fun _ => 0, fun _ => 0, fun _ => 0, fun _ => 0,
      fun _ => 0, fun _ => 0, fun _ => 0, fun _ => 0, fun _ => false⟩ 0 (1, ⟨none, none, minTokens, [3]⟩) = .ok state := by
    cases minTokens with
    | zero => exact ⟨_, rfl⟩
    | succ minTokens => exact ⟨_, rfl⟩
  exact ⟨draft, state, _, _, .entered isState,
    (MinTokensLogitsProcessor.Runs.init fun _ => 0).step (fun _ => Nat.zero_le 1) (some ⟨[], [(0, ⟨minTokens, (), [3]⟩)], []⟩),
    rfl⟩

end DeepSpark
