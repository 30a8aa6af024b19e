import DeepSpark.Lib.Slots
import DeepSpark.Worker.TokenSequence

/-!
The rows of logits the sampler works on.

Owns `_expand_idx_mapping_kernel`, the inputs and positions the sampler gathers for its rows,
writes to the row of a slot, the prompt lengths of the slots, and which tokens of a request the
rows of a step follow.
-/

namespace DeepSpark

open Lib Function

/-! ## The expanded tensors -/

namespace BatchLayout

variable (layout : BatchLayout)

/-- `_expand_idx_mapping_kernel`: a value for each row of logits of a request. -/
def expandStores (value : Nat → Nat) (reqIdx : Nat) : List (Store Nat Nat) :=
  (List.range layout.combineBlockSize).filterMap fun block =>
    if block < layout.numLogits reqIdx then some ⟨layout.cuNumLogits reqIdx + block, value block⟩ else none

def expandedIdxStores (reqIdx : Nat) : List (Store Nat Nat) :=
  layout.expandStores (fun _ => layout.idxMapping reqIdx) reqIdx

def expandedLocalPosStores (reqIdx : Nat) : List (Store Nat Nat) := layout.expandStores id reqIdx

/-- The expanded tensors of `prepare_inputs`. -/
inductive Expanded : Buffer Nat Nat → Buffer Nat Nat → Prop
  | noDraftTokens (isArange : ∀ row ≤ layout.numReqs, layout.cuNumLogits row = row) :
      Expanded layout.idxMapping fun _ => 0
  | launched {idxBefore posBefore expandedIdxMapping expandedLocalPos : Buffer Nat Nat}
      (idx : Launched (List.range layout.numReqs) layout.expandedIdxStores idxBefore expandedIdxMapping)
      (pos : Launched (List.range layout.numReqs) layout.expandedLocalPosStores posBefore expandedLocalPos) :
      Expanded expandedIdxMapping expandedLocalPos

variable {layout}

theorem exists_of_mem_expandStores {value : Nat → Nat} {reqIdx : Nat} {store : Store Nat Nat}
    (stored : store ∈ layout.expandStores value reqIdx) :
    ∃ block < layout.numLogits reqIdx, store = ⟨layout.cuNumLogits reqIdx + block, value block⟩ := by
  obtain ⟨block, -, found⟩ := List.mem_filterMap.mp stored
  split at found
  next below =>
    cases found
    exact ⟨block, below, rfl⟩
  next => cases found

theorem launched_expandStores (value : Nat → Nat → Nat) {before after : Buffer Nat Nat}
    (launched : Launched (List.range layout.numReqs) (fun reqIdx => layout.expandStores (value reqIdx) reqIdx) before after)
    (wellFormed : layout.WellFormed) {row : Nat} (inBatch : row < layout.numReqs)
    (bounded : layout.numLogits row ≤ layout.numSpeculativeSteps + 1) {block : Nat}
    (below : block < layout.numLogits row) : after (layout.cuNumLogits row + block) = value row block := by
  have inBlock : block < layout.combineBlockSize := (below.trans_le bounded).trans_le (le_nextPowerOf2 _)
  have member : (⟨layout.cuNumLogits row + block, value row block⟩ : Store Nat Nat) ∈
      layout.expandStores (value row) row :=
    List.mem_filterMap.mpr ⟨block, List.mem_range.mpr inBlock, if_pos below⟩
  apply launched.agreed (List.mem_range.mpr inBatch) member
  intro other otherInGrid store stored same
  have otherInBatch := List.mem_range.mp otherInGrid
  obtain ⟨otherBlock, otherBelow, rfl⟩ := exists_of_mem_expandStores stored
  have logitsEnd := wellFormed.logitsEnd inBatch
  have otherEnd := wellFormed.logitsEnd otherInBatch
  dsimp only at same
  have isRow : other = row := wellFormed.logits.unique otherInBatch inBatch
    (Nat.le_add_right _ otherBlock) (by omega) (by omega) (by omega)
  subst isRow
  rw [Nat.add_left_cancel same]

theorem Expanded.reads {expandedIdxMapping expandedLocalPos : Buffer Nat Nat}
    (expanded : layout.Expanded expandedIdxMapping expandedLocalPos) (wellFormed : layout.WellFormed) {row : Nat}
    (inBatch : row < layout.numReqs) (bounded : layout.numLogits row ≤ layout.numSpeculativeSteps + 1) {block : Nat}
    (below : block < layout.numLogits row) :
    expandedIdxMapping (layout.cuNumLogits row + block) = layout.idxMapping row ∧
      expandedLocalPos (layout.cuNumLogits row + block) = block := by
  cases expanded with
  | noDraftTokens isArange =>
    have isStart := isArange row inBatch.le
    have isEnd := isArange (row + 1) inBatch
    rw [numLogits, isStart, isEnd] at below
    rw [isStart, show block = 0 by omega]
    exact ⟨rfl, rfl⟩
  | launched idx pos =>
    exact ⟨launched_expandStores (fun reqIdx _ => layout.idxMapping reqIdx) idx wellFormed inBatch bounded below,
      launched_expandStores (fun _ => id) pos wellFormed inBatch bounded below⟩

theorem exists_expanded (layout : BatchLayout) :
    ∃ expandedIdxMapping expandedLocalPos, layout.Expanded expandedIdxMapping expandedLocalPos :=
  ⟨_, _, .launched (launched_launch _ _ fun _ => 0) (launched_launch _ _ fun _ => 0)⟩

end BatchLayout

/-- `input_batch.input_ids[input_batch.logits_indices]`. -/
def InputBuffers.sampledInputs (buffers : InputBuffers) : Buffer Nat Int := fun logit =>
  buffers.inputIds (buffers.logitsIndices logit)

/-- `input_batch.positions[input_batch.logits_indices]`. -/
def InputBuffers.sampledPositions (buffers : InputBuffers) : Buffer Nat Nat := fun logit =>
  buffers.positions (buffers.logitsIndices logit)

/-! ## Rows of a slot -/

def rowStores {α : Type} (stride reqIdx : Nat) (values : List α) : List (Store Nat α) :=
  values.mapIdx fun i value => ⟨reqIdx * stride + i, value⟩

theorem write_rowStores_own {α : Type} (buffer : Buffer Nat α) {stride reqIdx : Nat} {values : List α} {index : Nat}
    {value : α} (isValue : values[index]? = some value) :
    buffer.write (rowStores stride reqIdx values) (reqIdx * stride + index) = value := by
  have member : (⟨reqIdx * stride + index, value⟩ : Store Nat α) ∈ rowStores stride reqIdx values := by
    rw [rowStores, List.mem_iff_getElem?]
    exact ⟨index, by rw [List.getElem?_mapIdx, isValue]; rfl⟩
  apply Buffer.write_agreed buffer member
  intro other stored same
  rw [rowStores, List.mem_iff_getElem?] at stored
  obtain ⟨otherIndex, isOther⟩ := stored
  rw [List.getElem?_mapIdx] at isOther
  obtain ⟨otherValue, otherAt, rfl⟩ := Option.map_eq_some_iff.mp isOther
  rw [Nat.add_left_cancel same, isValue] at otherAt
  exact (Option.some.inj otherAt).symm

theorem write_rowStores_other {α : Type} (buffer : Buffer Nat α) {stride reqIdx row column : Nat} {values : List α}
    (fits : values.length ≤ stride) (isOther : reqIdx ≠ row) (inRow : column < stride) :
    buffer.write (rowStores stride reqIdx values) (row * stride + column) = buffer (row * stride + column) := by
  apply Buffer.write_untouched
  intro store stored same
  rw [rowStores, List.mem_iff_getElem?] at stored
  obtain ⟨index, isStore⟩ := stored
  rw [List.getElem?_mapIdx] at isStore
  obtain ⟨value, isValue, rfl⟩ := Option.map_eq_some_iff.mp isStore
  have inValues := (List.getElem?_eq_some_iff.mp isValue).1
  exact isOther (flat_inj (by omega) inRow same).1

/-! ## The prompt lengths -/

/-- `RequestState.add_request`: what it checks of the prompt length and writes to `prompt_len`,
from the lengths of the prompt and of the prefill. -/
def addPromptLen (promptLens : Buffer Nat Nat) (reqIdx : Nat) (lens : Nat × Nat) : Except PyError (Buffer Nat Nat) := do
  let promptLen := lens.1
  let prefillLen := lens.2
  pyAssert (promptLen ≤ prefillLen) s!"prefill_len {prefillLen} < prompt_len {promptLen}"
  .ok (Function.update promptLens reqIdx promptLen)

theorem addPromptLen_eq_ok {promptLens after : Buffer Nat Nat} {reqIdx : Nat} {lens : Nat × Nat} :
    addPromptLen promptLens reqIdx lens = .ok after ↔
      lens.1 ≤ lens.2 ∧ after = update promptLens reqIdx lens.1 := by
  rw [addPromptLen, bind_eq_ok]
  constructor
  · rintro ⟨_, asserted, isAfter⟩
    cases isAfter
    exact ⟨of_decide_eq_true (pyAssert_eq_ok.mp asserted), rfl⟩
  · rintro ⟨within, rfl⟩
    exact ⟨(), pyAssert_eq_ok.mpr (decide_eq_true within), rfl⟩

theorem promptLen_occupied {slot promptLen prefillLen : Nat} {promptLens : Buffer Nat Nat}
    (occupies : Occupies addPromptLen slot (promptLen, prefillLen) promptLens) :
    promptLen ≤ prefillLen ∧ promptLens slot = promptLen := by
  apply occupies.holds
  · intro before after added
    obtain ⟨within, rfl⟩ := addPromptLen_eq_ok.mp added
    exact ⟨within, update_self _ _ _⟩
  · intro before after other otherData isOther added ⟨within, holds⟩
    obtain ⟨-, rfl⟩ := addPromptLen_eq_ok.mp added
    exact ⟨within, (update_of_ne isOther.symm _ _).trans holds⟩

/-! ## The tokens a row follows -/

/-- The rows of a step that count: those of a request whose prefill it completes or has
completed. -/
def Sequence.Samples (seq : Sequence) (turn : Turn) : Prop := seq.prefillLen ≤ seq.numComputed + turn.queryLen

variable {maxModelLen numSpeculativeSteps slot : Nat} {states : DeviceStates} {cache : Buffer Nat (Option Int)}
  {seq next : Sequence} {layout : BatchLayout} {buffers : InputBuffers} {result : SamplerResult}
  {after : DeviceStates} {row : Nat}

theorem Sequence.Takes.samples {turn : Turn} (takes : seq.Takes numSpeculativeSteps turn next) {index : Nat}
    (positive : 0 < index) (isDraft : index ≤ turn.drafts.length) : seq.Samples turn := by
  cases takes with
  | chunk _ _ noDrafts =>
    rw [noDrafts, List.length_nil] at isDraft
    omega
  | prefilled _ _ _ noDrafts _ =>
    rw [noDrafts, List.length_nil] at isDraft
    omega
  | decode _ _ complete _ _ _ _ => exact complete.trans (Nat.le_add_right _ _)

section

variable (tracks : Tracks maxModelLen slot states cache seq)
  (step : RunnerStep maxModelLen numSpeculativeSteps layout states buffers result after)
  (inBatch : row < layout.numReqs) (isSlot : layout.idxMapping row = slot)
  (takes : seq.Takes numSpeculativeSteps (layout.turn states result row) next)

include tracks step inBatch isSlot takes

omit isSlot in
theorem Tracks.sampledStart (samples : seq.Samples (layout.turn states result row)) :
    1 ≤ seq.tokens.length ∧
      seq.numComputed + layout.queryLen row + 1 = seq.tokens.length + layout.numLogits row := by
  have isLogits : layout.numLogits row = 1 + (layout.turn states result row).drafts.length := step.numLogits_eq inBatch
  have reached : seq.prefillLen ≤ seq.numComputed + layout.queryLen row := samples
  cases takes with
  | chunk _ within _ =>
    have notReached : seq.numComputed + layout.queryLen row < seq.prefillLen := within
    omega
  | prefilled _ positive reaches noDrafts _ =>
    have isEnd : seq.numComputed + layout.queryLen row = seq.prefillLen := reaches
    rw [noDrafts, List.length_nil] at isLogits
    rcases tracks.phase with ⟨-, isLength⟩ | ⟨complete, -, -⟩
    · omega
    · omega
  | decode _ _ complete isQuery _ _ _ =>
    have isQueryLen : layout.queryLen row = 1 + (layout.turn states result row).drafts.length := isQuery
    rcases tracks.phase with ⟨incomplete, -⟩ | ⟨-, isLength, -⟩
    · omega
    · omega

/-- The logits of a row follow the last token and the drafts, each at its position. -/
theorem Tracks.sampledRow (samples : seq.Samples (layout.turn states result row)) {index : Nat}
    (below : index < layout.numLogits row) :
    buffers.sampledPositions (layout.cuNumLogits row + index) = seq.tokens.length - 1 + index ∧
      (seq.tokens ++ (layout.turn states result row).drafts)[seq.tokens.length - 1 + index]? =
        some (buffers.sampledInputs (layout.cuNumLogits row + index)) := by
  have feeds := tracks.feeds step inBatch isSlot takes
  have isLogits : layout.numLogits row = 1 + (layout.turn states result row).drafts.length := step.numLogits_eq inBatch
  obtain ⟨someToken, isStart⟩ := tracks.sampledStart step inBatch takes samples
  have within := (step.wellFormed.sampled row inBatch).2
  have inQuery : layout.queryLen row - layout.numLogits row + index < layout.queryLen row := by omega
  have isIndex : buffers.logitsIndices (layout.cuNumLogits row + index) =
      layout.queryStartLoc row + (layout.queryLen row - layout.numLogits row + index) := by
    have found := feeds.logits index (by omega)
    rw [found, ← isLogits]
    show layout.queryStartLoc row + layout.queryLen row - layout.numLogits row + index = _
    omega
  have isPosition : seq.numComputed + (layout.queryLen row - layout.numLogits row + index) =
      seq.tokens.length - 1 + index := by omega
  constructor
  · rw [InputBuffers.sampledPositions, isIndex, feeds.position _ inQuery, isPosition]
  · have input := feeds.input _ inQuery
    rw [isPosition, Sequence.fed] at input
    rw [InputBuffers.sampledInputs, isIndex, input]

end

/-- A request of one token that takes a step with one draft, which is accepted. -/
structure OneDraft where
  (states after : DeviceStates)
  cache : Buffer Nat (Option Int)
  buffers : InputBuffers
  result : SamplerResult
  (promptLens expandedIdxMapping expandedLocalPos : Buffer Nat Nat)
  run : Serves 8 1 0 states cache ⟨[7, 9], 1, 1⟩
  prompt : Occupies addPromptLen 0 (1, 1) promptLens
  step : RunnerStep 8 1 (oneRow 2) states buffers result after
  drafts : ((oneRow 2).turn states result 0).drafts = [5]
  takes : Sequence.Takes 1 ⟨[7, 9], 1, 1⟩ ((oneRow 2).turn states result 0) ⟨[7, 9, 5, 6], 1, 3⟩
  expanded : (oneRow 2).Expanded expandedIdxMapping expandedLocalPos

theorem exists_oneDraft : Nonempty OneDraft := by
  obtain ⟨_, _, _, _, _, _, _, _, entered, prefill, takes, decode, takes'⟩ := exists_twoSteps
  obtain ⟨_, _, expanded⟩ := (oneRow 2).exists_expanded
  have isPrompt : addPromptLen (fun _ => 0) 0 (1, 1) = .ok _ := addPromptLen_eq_ok.mpr ⟨le_refl 1, rfl⟩
  exact ⟨⟨_, _, _, _, _, _, _, _, (entered.step prefill Nat.one_pos rfl takes).drafted fun _ _ => 5, .entered isPrompt,
    decode, rfl, takes', expanded⟩⟩

end DeepSpark
