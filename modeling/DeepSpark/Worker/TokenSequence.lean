import DeepSpark.Worker.InputBatch

/-!
What the kernels of a step do to the tokens of one request.

Owns the abstract sequence of a request and its steps, the runs of the device arrays a
request lives through, and the simulation of the first by the second.
-/

namespace DeepSpark

open Lib Function BatchLayout

/-! ## The sequence of a request -/

/-- A request: its tokens, the number it entered with and the number computed. -/
structure Sequence where
  tokens : List Int
  prefillLen : Nat
  numComputed : Nat

structure Turn where
  queryLen : Nat
  drafts : List Int
  sampled : List Int

def Sequence.fed (seq : Sequence) (turn : Turn) (position : Nat) : Option Int :=
  (seq.tokens ++ turn.drafts)[position]?

/-- The steps of a request: chunks of the prefill, the chunk that completes it, and decode
steps, which accept some first drafts and append one more token. -/
inductive Sequence.Takes (numSpeculativeSteps : Nat) (seq : Sequence) (turn : Turn) : Sequence → Prop
  | chunk (positive : 0 < turn.queryLen) (within : seq.numComputed + turn.queryLen < seq.prefillLen)
      (noDrafts : turn.drafts = []) :
      seq.Takes numSpeculativeSteps turn { seq with numComputed := seq.numComputed + turn.queryLen }
  | prefilled (token : Int) (positive : 0 < turn.queryLen)
      (reaches : seq.numComputed + turn.queryLen = seq.prefillLen) (noDrafts : turn.drafts = [])
      (isSampled : turn.sampled = [token]) :
      seq.Takes numSpeculativeSteps turn
        { seq with tokens := seq.tokens ++ [token], numComputed := seq.prefillLen }
  | decode (accepted : List Int) (token : Int) (complete : seq.prefillLen ≤ seq.numComputed)
      (isQuery : turn.queryLen = 1 + turn.drafts.length) (bounded : turn.drafts.length ≤ numSpeculativeSteps)
      (isPrefix : accepted <+: turn.drafts) (isSampled : turn.sampled = accepted ++ [token]) :
      seq.Takes numSpeculativeSteps turn
        { seq with tokens := seq.tokens ++ turn.sampled, numComputed := seq.numComputed + turn.sampled.length }

/-! ## The runs of the runner -/

/-- The tokens a row computes, by position: the last one computed is in the cache. -/
def BatchLayout.feed (layout : BatchLayout) (buffers : InputBuffers) (row : Nat) (cache : Buffer Nat (Option Int)) :
    Buffer Nat (Option Int) :=
  cache.write ((List.range (layout.queryLen row)).map fun offset =>
    ⟨buffers.positions (layout.queryStartLoc row + offset),
      some (buffers.inputIds (layout.queryStartLoc row + offset))⟩)

def BatchLayout.turn (layout : BatchLayout) (states : DeviceStates) (result : SamplerResult) (row : Nat) : Turn where
  queryLen := layout.queryLen row
  drafts := (List.range (layout.numLogits row - 1)).map (states.draftTokens (layout.idxMapping row))
  sampled := (List.range (result.numSampled row)).map (result.sampledTokens row)

structure RunnerStep (maxModelLen numSpeculativeSteps : Nat) (layout : BatchLayout) (states : DeviceStates)
    (buffers : InputBuffers) (result : SamplerResult) (after : DeviceStates) : Prop where
  stride : layout.maxModelLen = maxModelLen
  steps : layout.numSpeculativeSteps = numSpeculativeSteps
  wellFormed : layout.WellFormed
  fits : layout.Fits states (layout.numSampled states buffers.seqLens result)
  stepped : ∃ before, layout.Stepped states before buffers result after

/-- The states of a runner from the moment a request enters a slot, with the tokens in the
cache and the sequence of the request. -/
inductive Serves (maxModelLen numSpeculativeSteps slot : Nat) :
    DeviceStates → Buffer Nat (Option Int) → Sequence → Prop
  | enter (states : DeviceStates) (allTokenIds : List Int) (numComputedTokens : Nat)
      (incomplete : numComputedTokens < allTokenIds.length) (room : allTokenIds.length ≤ maxModelLen) :
      Serves maxModelLen numSpeculativeSteps slot
        (states.addRequest maxModelLen slot allTokenIds numComputedTokens)
        (fun position => if position < numComputedTokens then allTokenIds[position]? else none)
        ⟨allTokenIds, allTokenIds.length, numComputedTokens⟩
  | otherEnters {states cache seq} (run : Serves maxModelLen numSpeculativeSteps slot states cache seq)
      (other : Nat) (isOther : other ≠ slot) (allTokenIds : List Int) (numComputedTokens : Nat)
      (room : allTokenIds.length ≤ maxModelLen) :
      Serves maxModelLen numSpeculativeSteps slot
        (states.addRequest maxModelLen other allTokenIds numComputedTokens) cache seq
  | drafted {states cache seq} (run : Serves maxModelLen numSpeculativeSteps slot states cache seq)
      (draftTokens : Nat → Nat → Int) :
      Serves maxModelLen numSpeculativeSteps slot { states with draftTokens := draftTokens } cache seq
  | otherStep {states cache seq} (run : Serves maxModelLen numSpeculativeSteps slot states cache seq)
      {layout : BatchLayout} {buffers : InputBuffers} {result : SamplerResult} {after : DeviceStates}
      (step : RunnerStep maxModelLen numSpeculativeSteps layout states buffers result after)
      (foreign : ∀ row < layout.numReqs, layout.idxMapping row ≠ slot) :
      Serves maxModelLen numSpeculativeSteps slot after cache seq
  | step {states cache seq} (run : Serves maxModelLen numSpeculativeSteps slot states cache seq)
      {layout : BatchLayout} {buffers : InputBuffers} {result : SamplerResult} {after : DeviceStates}
      (step : RunnerStep maxModelLen numSpeculativeSteps layout states buffers result after)
      {row : Nat} (inBatch : row < layout.numReqs) (isSlot : layout.idxMapping row = slot) {next : Sequence}
      (takes : seq.Takes numSpeculativeSteps (layout.turn states result row) next) :
      Serves maxModelLen numSpeculativeSteps slot after (layout.feed buffers row cache) next

/-! ## The simulation -/

structure Tracks (maxModelLen slot : Nat) (states : DeviceStates) (cache : Buffer Nat (Option Int))
    (seq : Sequence) : Prop where
  prefillLen : states.prefillLen slot = seq.prefillLen
  numComputed : states.numComputedTokens slot = seq.numComputed
  totalLen : states.totalLen slot = seq.tokens.length
  tokens : ∀ position < seq.tokens.length,
    seq.tokens[position]? = some (states.allTokenIds (slot * maxModelLen + position))
  room : seq.tokens.length ≤ maxModelLen
  computed : ∀ position < seq.numComputed, cache position = seq.tokens[position]?
  phase : seq.numComputed < seq.prefillLen ∧ seq.tokens.length = seq.prefillLen ∨
    seq.prefillLen ≤ seq.numComputed ∧ seq.tokens.length = seq.numComputed + 1 ∧
      seq.tokens[seq.numComputed]? = some (states.lastSampledTokens slot)

structure Feeds (layout : BatchLayout) (buffers : InputBuffers) (row : Nat) (seq : Sequence) (turn : Turn) :
    Prop where
  input : ∀ offset < turn.queryLen,
    seq.fed turn (seq.numComputed + offset) = some (buffers.inputIds (layout.queryStartLoc row + offset))
  position : ∀ offset < turn.queryLen,
    buffers.positions (layout.queryStartLoc row + offset) = seq.numComputed + offset
  logits : ∀ index < 1 + turn.drafts.length, buffers.logitsIndices (layout.cuNumLogits row + index) =
    layout.queryStartLoc row + turn.queryLen - (1 + turn.drafts.length) + index

variable {maxModelLen numSpeculativeSteps slot : Nat} {states : DeviceStates} {cache : Buffer Nat (Option Int)}
  {seq next : Sequence} {layout : BatchLayout} {buffers : InputBuffers} {result : SamplerResult}
  {after : DeviceStates} {row : Nat}

variable {allTokenIds : List Int}

theorem DeviceStates.addRequest_token (states : DeviceStates) (slot numComputedTokens : Nat)
    {position : Nat} (below : position < allTokenIds.length) : allTokenIds[position]? =
      some ((states.addRequest maxModelLen slot allTokenIds numComputedTokens).allTokenIds (slot * maxModelLen + position)) := by
  have member : (⟨slot * maxModelLen + position, allTokenIds.getD position 0⟩ : Store Nat Int) ∈
      (List.range allTokenIds.length).map fun i => ⟨slot * maxModelLen + i, allTokenIds.getD i 0⟩ :=
    List.mem_map.mpr ⟨position, List.mem_range.mpr below, rfl⟩
  have written := Buffer.write_agreed states.allTokenIds member fun other stored same => by
    obtain ⟨i, -, rfl⟩ := List.mem_map.mp stored
    rw [show i = position from Nat.add_left_cancel same]
  rw [List.getElem?_eq_getElem below]
  apply congrArg some
  exact (List.getD_eq_getElem _ _ below).symm.trans written.symm

theorem DeviceStates.addRequest_token_other (states : DeviceStates) {slot other : Nat} (isOther : other ≠ slot)
    (numComputedTokens : Nat) (room : allTokenIds.length ≤ maxModelLen) {position : Nat}
    (below : position < maxModelLen) :
    (states.addRequest maxModelLen other allTokenIds numComputedTokens).allTokenIds (slot * maxModelLen + position) =
      states.allTokenIds (slot * maxModelLen + position) := by
  apply Buffer.write_untouched
  intro store stored same
  obtain ⟨i, inRange, rfl⟩ := List.mem_map.mp stored
  have inIds := List.mem_range.mp inRange
  exact isOther (flat_inj (by omega) below same).1

theorem Tracks.enter {allTokenIds : List Int} {numComputedTokens : Nat}
    (incomplete : numComputedTokens < allTokenIds.length) (room : allTokenIds.length ≤ maxModelLen) :
    Tracks maxModelLen slot (states.addRequest maxModelLen slot allTokenIds numComputedTokens)
      (fun position => if position < numComputedTokens then allTokenIds[position]? else none)
      ⟨allTokenIds, allTokenIds.length, numComputedTokens⟩ where
  prefillLen := update_self _ _ _
  numComputed := update_self _ _ _
  totalLen := update_self _ _ _
  tokens _ below := states.addRequest_token slot numComputedTokens below
  room := room
  computed _ below := if_pos below
  phase := Or.inl ⟨incomplete, rfl⟩

section

variable (tracks : Tracks maxModelLen slot states cache seq)

include tracks

theorem Tracks.otherEnters {other : Nat} (isOther : other ≠ slot) {numComputedTokens : Nat}
    (room : allTokenIds.length ≤ maxModelLen) :
    Tracks maxModelLen slot (states.addRequest maxModelLen other allTokenIds numComputedTokens) cache seq where
  prefillLen := (update_of_ne isOther.symm _ _).trans tracks.prefillLen
  numComputed := (update_of_ne isOther.symm _ _).trans tracks.numComputed
  totalLen := (update_of_ne isOther.symm _ _).trans tracks.totalLen
  tokens := by
    intro position below
    rw [tracks.tokens position below,
      states.addRequest_token_other isOther numComputedTokens room (below.trans_le tracks.room)]
  room := tracks.room
  computed := tracks.computed
  phase := by
    have kept : (states.addRequest maxModelLen other allTokenIds numComputedTokens).lastSampledTokens slot =
        states.lastSampledTokens slot := by
      rw [DeviceStates.addRequest]
      split
      next => exact update_of_ne isOther.symm _ _
      next => rfl
    rw [kept]
    exact tracks.phase

theorem Tracks.drafted (draftTokens : Nat → Nat → Int) :
    Tracks maxModelLen slot { states with draftTokens := draftTokens } cache seq :=
  ⟨tracks.prefillLen, tracks.numComputed, tracks.totalLen, tracks.tokens, tracks.room, tracks.computed,
    tracks.phase⟩

theorem Tracks.otherStep
    (step : RunnerStep maxModelLen numSpeculativeSteps layout states buffers result after)
    (foreign : ∀ row < layout.numReqs, layout.idxMapping row ≠ slot) :
    Tracks maxModelLen slot after cache seq := by
  obtain ⟨_, ⟨_, -, updated⟩⟩ := step.stepped
  have lastKept := updated.foreign_lastSampled foreign
  refine ⟨?_, ?_, ?_, ?_, tracks.room, tracks.computed, ?_⟩
  · rw [updated.prefillLen]
    exact tracks.prefillLen
  · rw [updated.foreign_numComputed foreign]
    exact tracks.numComputed
  · rw [updated.foreign_total foreign]
    exact tracks.totalLen
  · intro position below
    have inRow : position < layout.maxModelLen := by
      rw [step.stride]
      exact below.trans_le tracks.room
    have kept := updated.kept step.fits slot inRow fun row inBatch isSlot =>
      absurd isSlot (foreign row inBatch)
    rw [step.stride] at kept
    rw [kept]
    exact tracks.tokens position below
  · rw [lastKept]
    exact tracks.phase

end

section

variable (tracks : Tracks maxModelLen slot states cache seq)
  (step : RunnerStep maxModelLen numSpeculativeSteps layout states buffers result after)
  (inBatch : row < layout.numReqs) (isSlot : layout.idxMapping row = slot)

theorem turn_drafts_length : (layout.turn states result row).drafts.length = layout.numLogits row - 1 := by
  rw [turn, List.length_map, List.length_range]

theorem turn_sampled_length : (layout.turn states result row).sampled.length = result.numSampled row := by
  rw [turn, List.length_map, List.length_range]

include step inBatch in
theorem RunnerStep.numLogits_eq :
    layout.numLogits row = 1 + (layout.turn states result row).drafts.length := by
  have positive := (step.wellFormed.sampled row inBatch).1
  rw [turn_drafts_length]
  omega

theorem Sequence.Takes.bounded {turn : Turn} (takes : seq.Takes numSpeculativeSteps turn next) :
    turn.drafts.length ≤ numSpeculativeSteps := by
  cases takes with
  | chunk _ _ noDrafts => exact noDrafts ▸ Nat.zero_le _
  | prefilled _ _ _ noDrafts _ => exact noDrafts ▸ Nat.zero_le _
  | decode _ _ _ _ bounded _ _ => exact bounded

include tracks step inBatch isSlot

theorem Tracks.prefillInput
    (within : seq.numComputed + layout.queryLen row ≤ seq.prefillLen) {offset : Nat}
    (below : offset < layout.queryLen row) :
    seq.tokens[seq.numComputed + offset]? =
      some (buffers.inputIds (layout.queryStartLoc row + offset)) := by
  obtain ⟨_, ⟨_, assembled, -⟩⟩ := step.stepped
  have inPrefill : states.numComputedTokens (layout.idxMapping row) + layout.queryLen row ≤
      states.prefillLen (layout.idxMapping row) := by
    rw [isSlot, tracks.numComputed, tracks.prefillLen]
    exact within
  have input := assembled.prefillInput step.wellFormed inBatch inPrefill below
  rw [isSlot, tracks.numComputed, step.stride, Nat.add_assoc] at input
  rw [input]
  apply tracks.tokens
  rcases tracks.phase with ⟨-, isLength⟩ | ⟨complete, -, -⟩
  · omega
  · omega

theorem Tracks.decodeInput (complete : seq.prefillLen ≤ seq.numComputed)
    (isQuery : layout.queryLen row = layout.numLogits row)
    (bounded : layout.numLogits row ≤ numSpeculativeSteps + 1) {offset : Nat}
    (below : offset < layout.queryLen row) :
    seq.fed (layout.turn states result row) (seq.numComputed + offset) =
      some (buffers.inputIds (layout.queryStartLoc row + offset)) := by
  obtain ⟨_, ⟨_, assembled, -⟩⟩ := step.stepped
  have queryEnd := step.wellFormed.queryEnd inBatch
  rcases tracks.phase with ⟨incomplete, -⟩ | ⟨-, isLength, isLast⟩
  · omega
  have afterPrefill : states.prefillLen (layout.idxMapping row) <
      states.numComputedTokens (layout.idxMapping row) + layout.queryLen row := by
    rw [isSlot, tracks.numComputed, tracks.prefillLen]
    omega
  rw [Sequence.fed]
  cases offset with
  | zero =>
    have input := assembled.lastInput step.wellFormed inBatch afterPrefill
    rw [← isQuery, queryEnd, Nat.add_sub_cancel, isSlot] at input
    rw [List.getElem?_append_left (by omega), Nat.add_zero, Nat.add_zero, input]
    exact isLast
  | succ block =>
    rw [← step.steps] at bounded
    have inDrafts : block < layout.numLogits row - 1 := by omega
    have input := assembled.draftInput step.wellFormed inBatch bounded afterPrefill inDrafts
    rw [← isQuery, queryEnd, isSlot] at input
    rw [show layout.queryStartLoc row + (block + 1) =
      layout.queryStartLoc row + layout.queryLen row - (layout.queryLen row - 1) + block by omega, input]
    rw [List.getElem?_append_right (by omega), isLength,
      show seq.numComputed + (block + 1) - (seq.numComputed + 1) = block by omega]
    show ((List.range (layout.numLogits row - 1)).map (states.draftTokens (layout.idxMapping row)))[block]? = _
    rw [List.getElem?_map, List.getElem?_range inDrafts, isSlot]
    rfl

section

variable (takes : seq.Takes numSpeculativeSteps (layout.turn states result row) next)

include takes

theorem Tracks.feeds :
    Feeds layout buffers row seq (layout.turn states result row) where
  input := by
    intro offset below
    have isLogits := step.numLogits_eq inBatch
    cases takes with
    | chunk _ within noDrafts =>
      rw [Sequence.fed, noDrafts, List.append_nil]
      exact tracks.prefillInput step inBatch isSlot within.le below
    | prefilled _ _ reaches noDrafts _ =>
      rw [Sequence.fed, noDrafts, List.append_nil]
      exact tracks.prefillInput step inBatch isSlot reaches.le below
    | decode _ _ complete isQuery bounded _ _ =>
      exact tracks.decodeInput step inBatch isSlot complete (isQuery.trans isLogits.symm) (by omega) below
  position := by
    intro offset below
    obtain ⟨_, ⟨_, assembled, -⟩⟩ := step.stepped
    rw [assembled.position step.wellFormed inBatch below, isSlot, tracks.numComputed]
  logits := by
    intro index below
    obtain ⟨_, ⟨_, assembled, -⟩⟩ := step.stepped
    have bounded := takes.bounded
    rw [← step.numLogits_eq inBatch] at below ⊢
    have inSteps : layout.numLogits row ≤ layout.numSpeculativeSteps + 1 := by
      rw [step.steps, step.numLogits_eq inBatch]
      omega
    rw [assembled.logitsIndex step.wellFormed inBatch inSteps below, step.wellFormed.queryEnd inBatch]
    rfl

/-- What a row appends to the tokens of its request and how far it moves it: exactly its
turn. -/
theorem Tracks.counts :
    next.prefillLen = seq.prefillLen ∧
      next.tokens = seq.tokens ++
        (List.range (layout.numSampled states buffers.seqLens result row)).map (result.sampledTokens row) ∧
      next.numComputed = seq.numComputed +
        (layout.queryLen row - layout.numRejected states buffers.seqLens result row) := by
  obtain ⟨_, ⟨_, assembled, -⟩⟩ := step.stepped
  have isLogits := step.numLogits_eq inBatch
  have isSeqLen : buffers.seqLens row = seq.numComputed + layout.queryLen row := by
    rw [assembled.seqLen inBatch, isSlot, tracks.numComputed]
  have isPrefillLen : states.prefillLen (layout.idxMapping row) = seq.prefillLen := by
    rw [isSlot, tracks.prefillLen]
  have isNumSampled : (layout.turn states result row).sampled.length = result.numSampled row :=
    turn_sampled_length
  cases takes with
  | chunk _ within noDrafts =>
    have short : buffers.seqLens row < states.prefillLen (layout.idxMapping row) := by
      rw [isSeqLen, isPrefillLen]
      exact within
    rw [numRejected, if_pos short, numSampled, if_pos short]
    exact ⟨rfl, (List.append_nil _).symm, rfl⟩
  | prefilled token _ reaches noDrafts isSampled =>
    have notShort : ¬buffers.seqLens row < states.prefillLen (layout.idxMapping row) := by
      rw [isSeqLen, isPrefillLen]
      exact reaches.not_lt
    rw [isSampled] at isNumSampled
    rw [noDrafts] at isLogits
    rw [numRejected, if_neg notShort, numSampled, if_neg notShort]
    refine ⟨rfl, ?_, ?_⟩
    · show seq.tokens ++ [token] = seq.tokens ++ (layout.turn states result row).sampled
      rw [isSampled]
    · show seq.prefillLen = seq.numComputed + (layout.queryLen row - (layout.numLogits row - result.numSampled row))
      rw [isLogits, ← isNumSampled]
      exact reaches.symm
  | decode accepted token complete isQuery bounded isPrefix isSampled =>
    have queryIsLogits : layout.queryLen row = layout.numLogits row := isQuery.trans isLogits.symm
    have notShort : ¬buffers.seqLens row < states.prefillLen (layout.idxMapping row) := by
      rw [isSeqLen, isPrefillLen]
      omega
    have within : (layout.turn states result row).sampled.length ≤ layout.numLogits row := by
      rw [isSampled, List.length_append, isLogits, Nat.add_comm]
      exact Nat.add_le_add_left isPrefix.length_le 1
    rw [numRejected, if_neg notShort, numSampled, if_neg notShort]
    refine ⟨rfl, rfl, ?_⟩
    show seq.numComputed + (layout.turn states result row).sampled.length =
      seq.numComputed + (layout.queryLen row - (layout.numLogits row - result.numSampled row))
    omega

theorem Tracks.feed_computed :
    (∀ position < seq.numComputed, layout.feed buffers row cache position = cache position) ∧
      ∀ offset < layout.queryLen row, layout.feed buffers row cache (seq.numComputed + offset) =
        seq.fed (layout.turn states result row) (seq.numComputed + offset) := by
  have feeds := tracks.feeds step inBatch isSlot takes
  constructor
  · intro position below
    apply Buffer.write_untouched
    intro store stored same
    obtain ⟨offset, inRange, rfl⟩ := List.mem_map.mp stored
    have isPosition := feeds.position offset (List.mem_range.mp inRange)
    have samePosition : buffers.positions (layout.queryStartLoc row + offset) = position := same
    omega
  · intro offset below
    rw [feeds.input offset below, ← feeds.position offset below]
    have member : (⟨buffers.positions (layout.queryStartLoc row + offset),
        some (buffers.inputIds (layout.queryStartLoc row + offset))⟩ : Store Nat (Option Int)) ∈
        (List.range (layout.queryLen row)).map fun offset =>
          ⟨buffers.positions (layout.queryStartLoc row + offset),
            some (buffers.inputIds (layout.queryStartLoc row + offset))⟩ :=
      List.mem_map.mpr ⟨offset, List.mem_range.mpr below, rfl⟩
    apply Buffer.write_agreed _ member
    intro other stored same
    obtain ⟨otherOffset, inRange, rfl⟩ := List.mem_map.mp stored
    have samePosition : buffers.positions (layout.queryStartLoc row + otherOffset) =
      buffers.positions (layout.queryStartLoc row + offset) := same
    rw [feeds.position _ (List.mem_range.mp inRange), feeds.position offset below] at samePosition
    rw [Nat.add_left_cancel samePosition]

theorem Tracks.next_computed :
    ∀ position < next.numComputed, layout.feed buffers row cache position = next.tokens[position]? := by
  intro position below
  obtain ⟨kept, fed⟩ := tracks.feed_computed step inBatch isSlot takes
  obtain ⟨-, isTokens, isComputed⟩ := tracks.counts step inBatch isSlot takes
  have inTokens : seq.numComputed ≤ seq.tokens.length := by
    rcases tracks.phase with ⟨incomplete, isLength⟩ | ⟨-, isLength, -⟩
    · omega
    · omega
  rcases lt_or_ge position seq.numComputed with old | new
  · rw [kept position old, tracks.computed position old, isTokens, List.getElem?_append_left (by omega)]
  · have inQuery : position - seq.numComputed < layout.queryLen row := by omega
    have isFed := fed _ inQuery
    rw [Nat.add_sub_cancel' new, Sequence.fed] at isFed
    rw [isFed]
    cases takes with
    | chunk _ within noDrafts =>
      rw [noDrafts, List.append_nil]
    | prefilled token _ reaches noDrafts isSampled =>
      rcases tracks.phase with ⟨-, isLength⟩ | ⟨complete, -, -⟩
      · have inPrefill : position < seq.prefillLen := below
        rw [noDrafts, List.append_nil]
        exact (List.getElem?_append_left (by omega)).symm
      · have positive : 0 < layout.queryLen row := by omega
        omega
    | decode accepted token complete isQuery bounded isPrefix isSampled =>
      have inSampled : position < seq.numComputed + (layout.turn states result row).sampled.length := below
      rw [isSampled, List.length_append, List.length_singleton] at inSampled
      rcases tracks.phase with ⟨incomplete, -⟩ | ⟨-, isLength, -⟩
      · omega
      show (seq.tokens ++ (layout.turn states result row).drafts)[position]? =
        (seq.tokens ++ (layout.turn states result row).sampled)[position]?
      obtain ⟨rejected, isDrafts⟩ := isPrefix
      have inAccepted : position < (seq.tokens ++ accepted).length := by
        rw [List.length_append]
        omega
      rw [isSampled, ← isDrafts, ← List.append_assoc, ← List.append_assoc,
        List.getElem?_append_left inAccepted, List.getElem?_append_left inAccepted]

theorem Tracks.next_length :
    next.tokens.length = seq.tokens.length + layout.numSampled states buffers.seqLens result row := by
  obtain ⟨-, isTokens, -⟩ := tracks.counts step inBatch isSlot takes
  rw [isTokens, List.length_append, List.length_map, List.length_range]

theorem Tracks.next_tokens :
    ∀ position < next.tokens.length,
      next.tokens[position]? = some (after.allTokenIds (slot * maxModelLen + position)) := by
  intro position below
  have isLength := tracks.next_length step inBatch isSlot takes
  obtain ⟨-, isTokens, -⟩ := tracks.counts step inBatch isSlot takes
  obtain ⟨_, ⟨_, -, updated⟩⟩ := step.stepped
  rw [isTokens]
  rcases lt_or_ge position seq.tokens.length with old | new
  · have inRow : position < layout.maxModelLen := by
      rw [step.stride]
      exact old.trans_le tracks.room
    have kept := updated.kept step.fits slot inRow fun row _ _ => by
      rw [tracks.totalLen]
      exact old
    rw [step.stride] at kept
    rw [List.getElem?_append_left old, kept]
    exact tracks.tokens position old
  · have inSampled : position - seq.tokens.length < layout.numSampled states buffers.seqLens result row := by
      omega
    have appended := updated.appended step.wellFormed step.fits inBatch inSampled
    rw [isSlot, step.stride, tracks.totalLen, Nat.add_sub_cancel' new] at appended
    rw [List.getElem?_append_right new, List.getElem?_map, List.getElem?_range inSampled, appended]
    rfl

theorem Tracks.next_last (longer : seq.tokens.length < next.tokens.length) :
    next.tokens[next.tokens.length - 1]? = some (after.lastSampledTokens slot) := by
  have isLength := tracks.next_length step inBatch isSlot takes
  obtain ⟨-, isTokens, -⟩ := tracks.counts step inBatch isSlot takes
  obtain ⟨_, ⟨_, -, updated⟩⟩ := step.stepped
  have lastSampled := updated.lastSampled step.wellFormed inBatch (by omega)
  rw [isSlot] at lastSampled
  have inSampled : layout.numSampled states buffers.seqLens result row - 1 <
      layout.numSampled states buffers.seqLens result row := by
    omega
  rw [isLength, isTokens, List.getElem?_append_right (by omega), List.getElem?_map,
    show seq.tokens.length + layout.numSampled states buffers.seqLens result row - 1 - seq.tokens.length =
      layout.numSampled states buffers.seqLens result row - 1 by omega,
    List.getElem?_range inSampled, lastSampled]
  rfl

theorem Tracks.turned :
    Tracks maxModelLen slot after (layout.feed buffers row cache) next := by
  have tokens := tracks.next_tokens step inBatch isSlot takes
  have isLength := tracks.next_length step inBatch isSlot takes
  have last := tracks.next_last step inBatch isSlot takes
  have computed := tracks.next_computed step inBatch isSlot takes
  obtain ⟨isPrefillLen, -, isComputed⟩ := tracks.counts step inBatch isSlot takes
  obtain ⟨_, ⟨_, -, updated⟩⟩ := step.stepped
  have totalLen := updated.total step.wellFormed inBatch
  have numComputed := updated.numComputed step.wellFormed inBatch
  have fits := step.fits row inBatch
  rw [isSlot, tracks.totalLen, ← isLength] at totalLen fits
  rw [step.stride] at fits
  rw [isSlot, tracks.numComputed, ← isComputed] at numComputed
  refine ⟨?_, numComputed, totalLen, tokens, fits, computed, ?_⟩
  · rw [updated.prefillLen, tracks.prefillLen, isPrefillLen]
  · cases takes with
    | chunk positive within _ =>
      rcases tracks.phase with ⟨-, isPrefill⟩ | ⟨complete, -, -⟩
      · exact Or.inl ⟨within, isPrefill⟩
      · omega
    | prefilled token positive reaches _ _ =>
      rcases tracks.phase with ⟨-, isPrefill⟩ | ⟨complete, -, -⟩
      · have isEnd : (seq.tokens ++ [token]).length = seq.prefillLen + 1 := by
          rw [List.length_append, isPrefill, List.length_singleton]
        have isLast : (seq.tokens ++ [token])[(seq.tokens ++ [token]).length - 1]? = _ :=
          last (by rw [isEnd]; omega)
        rw [isEnd, Nat.add_sub_cancel] at isLast
        exact Or.inr ⟨le_refl _, isEnd, isLast⟩
      · omega
    | decode accepted token complete _ _ _ isSampled =>
      rcases tracks.phase with ⟨incomplete, -⟩ | ⟨-, isDecode, -⟩
      · omega
      · have isEnd : (seq.tokens ++ (layout.turn states result row).sampled).length =
            seq.numComputed + (layout.turn states result row).sampled.length + 1 := by
          rw [List.length_append]
          omega
        have atLeastOne : 0 < (layout.turn states result row).sampled.length := by
          rw [isSampled, List.length_append, List.length_singleton]
          omega
        have isLast : (seq.tokens ++ (layout.turn states result row).sampled)[
            (seq.tokens ++ (layout.turn states result row).sampled).length - 1]? = _ :=
          last (by rw [isEnd]; omega)
        rw [isEnd, Nat.add_sub_cancel] at isLast
        exact Or.inr ⟨complete.trans (Nat.le_add_right _ _), isEnd, isLast⟩

end

end

theorem Serves.tracks (run : Serves maxModelLen numSpeculativeSteps slot states cache seq) :
    Tracks maxModelLen slot states cache seq := by
  induction run with
  | enter _ _ _ incomplete room => exact Tracks.enter incomplete room
  | otherEnters _ _ isOther _ _ room ih => exact ih.otherEnters isOther room
  | drafted _ draftTokens ih => exact ih.drafted draftTokens
  | otherStep _ step foreign ih => exact ih.otherStep step foreign
  | step _ step inBatch isSlot takes ih =>
    exact ih.turned step inBatch isSlot takes

theorem Sequence.Takes.isPrefix {turn : Turn} (takes : seq.Takes numSpeculativeSteps turn next) :
    seq.tokens <+: next.tokens := by
  cases takes with
  | chunk => exact List.prefix_rfl
  | prefilled => exact List.prefix_append _ _
  | decode => exact List.prefix_append _ _

/-- The first position a step does not count was computed with the first draft it rejects. -/
theorem Tracks.rejected {turn : Turn} (tracks : Tracks maxModelLen slot states cache seq)
    (takes : seq.Takes numSpeculativeSteps turn next)
    (inQuery : next.numComputed < seq.numComputed + turn.queryLen) :
    seq.fed turn next.numComputed = turn.drafts[turn.sampled.length - 1]? := by
  cases takes with
  | chunk => exact absurd inQuery (lt_irrefl _)
  | prefilled token positive reaches _ _ =>
    rw [reaches] at inQuery
    exact absurd inQuery (lt_irrefl _)
  | decode accepted token complete isQuery bounded isPrefix isSampled =>
    rcases tracks.phase with ⟨incomplete, -⟩ | ⟨-, isLength, -⟩
    · omega
    · have atLeastOne : 0 < turn.sampled.length := by
        rw [isSampled, List.length_append, List.length_singleton]
        omega
      show (seq.tokens ++ turn.drafts)[seq.numComputed + turn.sampled.length]? = _
      rw [List.getElem?_append_right (by omega), isLength]
      congr 1
      omega

/-- A batch of one row whose tokens are all sampled, in a runner with eight tokens a slot and
one draft a row. -/
def oneRow (numTokens : Nat) : BatchLayout where
  maxNumReqs := 4
  maxModelLen := 8
  numSpeculativeSteps := 1
  numReqs := 1
  idxMapping := fun _ => 0
  queryStartLoc := fun row => row * numTokens
  cuNumLogits := fun row => row * numTokens

variable (result) in
theorem slotRow_step (slot : Nat) {numTokens : Nat} (positive : 0 < numTokens)
    (fits : states.totalLen slot + result.numSampled 0 ≤ 8) :
    ∃ buffers after, RunnerStep 8 1 { oneRow numTokens with idxMapping := fun _ => slot } states buffers result after := by
  obtain ⟨buffers, after, stepped⟩ := exists_stepped { oneRow numTokens with idxMapping := fun _ => slot }
    states ⟨fun _ => 0, fun _ => 0, fun _ => 0, fun _ => 0⟩ result
  refine ⟨buffers, after, rfl, rfl, ⟨?_, ⟨?_⟩, ⟨?_⟩, ?_⟩, ?_, _, stepped⟩
  · intro row inBatch other otherInBatch _
    rw [Nat.lt_one_iff.mp inBatch, Nat.lt_one_iff.mp otherInBatch]
  · intro row _
    exact Nat.mul_le_mul_right _ (Nat.le_succ row)
  · intro row _
    exact Nat.mul_le_mul_right _ (Nat.le_succ row)
  · intro row inBatch
    rw [Nat.lt_one_iff.mp inBatch]
    show 1 ≤ 1 * numTokens - 0 * numTokens ∧ 1 * numTokens - 0 * numTokens ≤ 1 * numTokens - 0 * numTokens
    omega
  · intro row inBatch
    rw [Nat.lt_one_iff.mp inBatch, numSampled]
    split
    next => exact (Nat.le_add_right _ _).trans fits
    next => exact fits

variable (result) in
theorem oneRow_step {numTokens : Nat} (positive : 0 < numTokens)
    (fits : states.totalLen 0 + result.numSampled 0 ≤ 8) :
    ∃ buffers after, RunnerStep 8 1 (oneRow numTokens) states buffers result after :=
  slotRow_step result 0 positive fits

theorem exists_twoSteps : ∃ states cache buffers result after buffers' result' after',
    Serves 8 1 0 states cache ⟨[7], 1, 0⟩ ∧ RunnerStep 8 1 (oneRow 1) states buffers result after ∧
      Sequence.Takes 1 ⟨[7], 1, 0⟩ ((oneRow 1).turn states result 0) ⟨[7, 9], 1, 1⟩ ∧
      RunnerStep 8 1 (oneRow 2) { after with draftTokens := fun _ _ => 5 } buffers' result' after' ∧
      Sequence.Takes 1 ⟨[7, 9], 1, 1⟩ ((oneRow 2).turn { after with draftTokens := fun _ _ => 5 } result' 0)
        ⟨[7, 9, 5, 6], 1, 3⟩ := by
  have entered : Serves 8 1 0 (DeviceStates.addRequest ⟨fun _ => 0, fun _ => 0, fun _ => 0, fun _ => 0, fun _ => 0,
      fun _ _ => 0, fun _ => 0⟩ 8 0 [7] 0) _ _ :=
    Serves.enter _ [7] 0 (by decide) (by decide)
  have enteredTotal := entered.tracks.totalLen
  obtain ⟨_, _, prefill⟩ := oneRow_step ⟨fun _ _ => 9, fun _ => 1⟩ Nat.one_pos
    (by rw [enteredTotal]; decide)
  have takes : ∀ states : DeviceStates, Sequence.Takes 1 ⟨[7], 1, 0⟩
      ((oneRow 1).turn states ⟨fun _ _ => 9, fun _ => 1⟩ 0) ⟨[7, 9], 1, 1⟩ :=
    fun _ => Sequence.Takes.prefilled 9 Nat.one_pos rfl rfl rfl
  have drafted := (entered.step prefill (show 0 < 1 from Nat.one_pos) rfl (takes _)).drafted fun _ _ => 5
  have draftedTotal := drafted.tracks.totalLen
  obtain ⟨_, _, decode⟩ := oneRow_step ⟨fun _ i => if i = 0 then 5 else 6, fun _ => 2⟩ Nat.two_pos
    (by rw [draftedTotal]; decide)
  exact ⟨_, _, _, _, _, _, _, _, entered, prefill, takes _, decode,
    Sequence.Takes.decode [5] 6 (by decide) rfl (le_refl 1) (List.prefix_refl _) rfl⟩

end DeepSpark
