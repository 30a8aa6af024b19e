import DeepSpark.Worker.Penalties

/-!
What `_bincount_kernel` leaves for the requests a step adds.

Owns what the loop of `add_requests` leaves in the slot of each request, which updates of the kernel
reach the statistics of a slot, and that these are the tokens of the prompt and of the output.
-/

namespace DeepSpark

open Lib Function List

section

variable {P : Type} [DecidableEq P] [One P] [Zero P]

/-! ## The requests of a step -/

structure PenaltiesState.HasParams (state : PenaltiesState P) (slot : Nat) (params : PenaltyParams P) : Prop where
  repetitionPenalty : state.repetitionPenalty slot = params.repetitionPenalty
  frequencyPenalty : state.frequencyPenalty slot = params.frequencyPenalty
  presencePenalty : state.presencePenalty slot = params.presencePenalty
  usePenalty : state.usePenalty slot = params.usePenalty

theorem PenaltiesState.hasParams_addRequest (state : PenaltiesState P) (slot : Nat) (params : PenaltyParams P) :
    (state.addRequest slot params).HasParams slot params :=
  ⟨update_self _ _ _, update_self _ _ _, update_self _ _ _, update_self _ _ _⟩

theorem PenaltiesState.HasParams.otherEnters {state : PenaltiesState P} {slot other : Nat} {params : PenaltyParams P}
    (has : state.HasParams slot params) (isOther : other ≠ slot) (otherParams : PenaltyParams P) :
    (state.addRequest other otherParams).HasParams slot params :=
  ⟨(update_of_ne isOther.symm _ _).trans has.repetitionPenalty,
    (update_of_ne isOther.symm _ _).trans has.frequencyPenalty,
    (update_of_ne isOther.symm _ _).trans has.presencePenalty,
    (update_of_ne isOther.symm _ _).trans has.usePenalty⟩

def NewRequest.usesPenalty (request : NewRequest P) : Bool := request.samplingParams.any PenaltyParams.usePenalty

def penaltySlots (requests : List (NewRequest P)) : List Nat :=
  (requests.filter NewRequest.usesPenalty).map NewRequest.reqIdx

structure PenaltyRunner.Entered (maxModelLen : Nat) (runner : PenaltyRunner P) (request : NewRequest P) : Prop where
  within : request.promptLen ≤ request.prefillTokenIds.length
  promptLen : runner.promptLens request.reqIdx = request.promptLen
  prefillLen : runner.states.prefillLen request.reqIdx = request.prefillTokenIds.length
  token : ∀ position < request.prefillTokenIds.length, request.prefillTokenIds[position]? =
    some (runner.states.allTokenIds (request.reqIdx * maxModelLen + position))
  params : ∀ params, request.samplingParams = some params → runner.penalties.HasParams request.reqIdx params

variable {vocabSize maxModelLen : Nat} {runner after : PenaltyRunner P} {request : NewRequest P}

theorem PenaltyRunner.addRequest_eq_ok (added : runner.addRequest maxModelLen request = .ok after) :
    request.promptLen ≤ request.prefillTokenIds.length ∧
      after =
        { states :=
            runner.states.addRequest maxModelLen request.reqIdx request.prefillTokenIds request.numComputedTokens
          promptLens := update runner.promptLens request.reqIdx request.promptLen
          penalties :=
            (request.samplingParams.map (runner.penalties.addRequest request.reqIdx)).getD runner.penalties } := by
  obtain ⟨promptLens, addedLen, isAfter⟩ := bind_eq_ok.mp added
  obtain ⟨within, rfl⟩ := addPromptLen_eq_ok.mp addedLen
  refine ⟨within, ?_⟩
  cases isAfter
  cases request.samplingParams <;> rfl

theorem PenaltyRunner.entered_addRequest (added : runner.addRequest maxModelLen request = .ok after) :
    after.Entered maxModelLen request := by
  obtain ⟨within, rfl⟩ := addRequest_eq_ok added
  refine ⟨within, update_self _ _ _, update_self _ _ _, ?_, ?_⟩
  · exact fun _ below => runner.states.addRequest_token request.reqIdx request.numComputedTokens below
  · intro params isParams
    rw [isParams]
    exact PenaltiesState.hasParams_addRequest _ _ _

theorem PenaltyRunner.Entered.otherEnters (entered : runner.Entered maxModelLen request)
    (room : request.prefillTokenIds.length ≤ maxModelLen) {other : NewRequest P} (isOther : other.reqIdx ≠ request.reqIdx)
    (otherRoom : other.prefillTokenIds.length ≤ maxModelLen) (added : runner.addRequest maxModelLen other = .ok after) :
    after.Entered maxModelLen request := by
  obtain ⟨-, rfl⟩ := addRequest_eq_ok added
  refine ⟨entered.within, (update_of_ne isOther.symm _ _).trans entered.promptLen,
    (update_of_ne isOther.symm _ _).trans entered.prefillLen, ?_, ?_⟩
  · intro position below
    rw [entered.token position below,
      runner.states.addRequest_token_other isOther other.numComputedTokens otherRoom (below.trans_le room)]
  · intro params isParams
    have has := entered.params params isParams
    cases other.samplingParams with
    | none => exact has
    | some otherParams => exact has.otherEnters isOther otherParams

structure Separate (maxModelLen : Nat) (requests : List (NewRequest P)) : Prop where
  distinct : (requests.map NewRequest.reqIdx).Nodup
  room : ∀ request ∈ requests, request.prefillTokenIds.length ≤ maxModelLen

omit [DecidableEq P] [One P] [Zero P] in
theorem Separate.of_append {requests : List (NewRequest P)} (separate : Separate maxModelLen (requests ++ [request])) :
    Separate maxModelLen requests ∧ (∀ other ∈ requests, other.reqIdx ≠ request.reqIdx) ∧
      request.prefillTokenIds.length ≤ maxModelLen := by
  obtain ⟨distinct, room⟩ := separate
  rw [map_append, nodup_append] at distinct
  obtain ⟨front, -, disjoint⟩ := distinct
  refine ⟨⟨front, fun other member => room other (mem_append_left _ member)⟩, ?_,
    room request (mem_append_right _ mem_cons_self)⟩
  intro other member
  exact disjoint _ (mem_map_of_mem member) _ mem_cons_self

/-- The loop over the requests of a step: every request is in its slot, the statistics are as
they were, and the slots to count are those with penalties. -/
structure PenaltyRunner.EnteredAll (maxModelLen : Nat) (before : PenaltyRunner P) (requests : List (NewRequest P))
    (entered : PenaltyRunner P) : Prop where
  isEntered : ∀ request ∈ requests, entered.Entered maxModelLen request
  promptBinMask : entered.penalties.promptBinMask = before.penalties.promptBinMask
  outputBinCounts : entered.penalties.outputBinCounts = before.penalties.outputBinCounts
  newPenaltiesReqs : entered.penalties.newPenaltiesReqs = before.penalties.newPenaltiesReqs ++ penaltySlots requests

theorem PenaltyRunner.enteredAll {before : PenaltyRunner P} {requests : List (NewRequest P)}
    (separate : Separate maxModelLen requests) {entered : PenaltyRunner P}
    (ran : requests.foldlM (PenaltyRunner.addRequest maxModelLen) before = .ok entered) :
    before.EnteredAll maxModelLen requests entered := by
  induction requests using List.reverseRecOn generalizing entered with
  | nil =>
    cases ran
    exact ⟨fun _ member => absurd member not_mem_nil, rfl, rfl, (append_nil _).symm⟩
  | append_singleton requests last ih =>
    obtain ⟨front, others, lastRoom⟩ := separate.of_append
    rw [foldlM_append, bind_eq_ok] at ran
    obtain ⟨middle, ranFront, ranLast⟩ := ran
    rw [foldlM_cons, bind_eq_ok] at ranLast
    obtain ⟨_, added, isEntered⟩ := ranLast
    cases isEntered
    have before := ih front ranFront
    have isEntered := (addRequest_eq_ok added).2
    refine ⟨?_, ?_, ?_, ?_⟩
    · intro request member
      rcases mem_append.mp member with inFront | isLast
      · exact (before.isEntered request inFront).otherEnters (front.room request inFront)
          (others request inFront).symm lastRoom added
      · rw [mem_singleton.mp isLast]
        exact entered_addRequest added
    · rw [isEntered, ← before.promptBinMask]
      cases last.samplingParams <;> rfl
    · rw [isEntered, ← before.outputBinCounts]
      cases last.samplingParams <;> rfl
    · rw [penaltySlots, filter_append, map_append, ← append_assoc]
      have isFront := before.newPenaltiesReqs
      rw [penaltySlots] at isFront
      rw [← isFront, isEntered, filter_singleton, NewRequest.usesPenalty]
      cases last.samplingParams with
      | none => exact (append_nil _).symm
      | some params =>
        show (if params.usePenalty then _ else _) = _
        cases uses : params.usePenalty with
        | true => simp [uses]
        | false => simp [uses]

theorem PenaltyRunner.hasParams_others {before entered : PenaltyRunner P} {slot : Nat} {params : PenaltyParams P}
    (has : before.penalties.HasParams slot params) {requests : List (NewRequest P)}
    (isOther : ∀ request ∈ requests, request.reqIdx ≠ slot)
    (ran : requests.foldlM (PenaltyRunner.addRequest maxModelLen) before = .ok entered) :
    entered.penalties.HasParams slot params := by
  induction requests generalizing before with
  | nil =>
    cases ran
    exact has
  | cons first rest ih =>
    rw [foldlM_cons, bind_eq_ok] at ran
    obtain ⟨middle, added, ranRest⟩ := ran
    refine ih ?_ (fun request member => isOther request (mem_cons_of_mem _ member)) ranRest
    obtain ⟨-, rfl⟩ := addRequest_eq_ok added
    cases first.samplingParams with
    | none => exact has
    | some firstParams => exact has.otherEnters (isOther first mem_cons_self) firstParams

theorem PenaltyRunner.serves_others {before entered : PenaltyRunner P} {slot numSpeculativeSteps : Nat}
    {cache : Buffer Nat (Option Int)} {seq : Sequence}
    (run : Serves maxModelLen numSpeculativeSteps slot before.states cache seq) {requests : List (NewRequest P)}
    (isOther : ∀ request ∈ requests, request.reqIdx ≠ slot)
    (room : ∀ request ∈ requests, request.prefillTokenIds.length ≤ maxModelLen)
    (ran : requests.foldlM (PenaltyRunner.addRequest maxModelLen) before = .ok entered) :
    Serves maxModelLen numSpeculativeSteps slot entered.states cache seq := by
  induction requests generalizing before with
  | nil =>
    cases ran
    exact run
  | cons first rest ih =>
    rw [foldlM_cons, bind_eq_ok] at ran
    obtain ⟨middle, added, ranRest⟩ := ran
    refine ih ?_ (fun request member => isOther request (mem_cons_of_mem _ member))
      (fun request member => room request (mem_cons_of_mem _ member)) ranRest
    obtain ⟨-, rfl⟩ := addRequest_eq_ok added
    exact run.otherEnters first.reqIdx (isOther first mem_cons_self) _ _ (room first mem_cons_self)

theorem PenaltyRunner.serves_entered {before entered : PenaltyRunner P} {requests : List (NewRequest P)}
    (separate : Separate maxModelLen requests)
    (ran : requests.foldlM (PenaltyRunner.addRequest maxModelLen) before = .ok entered) (member : request ∈ requests)
    (incomplete : request.numComputedTokens < request.prefillTokenIds.length) (numSpeculativeSteps : Nat) :
    Serves maxModelLen numSpeculativeSteps request.reqIdx entered.states
      (fun position => if position < request.numComputedTokens then request.prefillTokenIds[position]? else none)
      ⟨request.prefillTokenIds, request.prefillTokenIds.length, request.numComputedTokens⟩ := by
  obtain ⟨front, back, rfl⟩ := append_of_mem member
  obtain ⟨distinct, room⟩ := separate
  rw [foldlM_append, bind_eq_ok] at ran
  obtain ⟨middle, -, ranBack⟩ := ran
  rw [foldlM_cons, bind_eq_ok] at ranBack
  obtain ⟨_, added, ranRest⟩ := ranBack
  have isOther : ∀ other ∈ back, other.reqIdx ≠ request.reqIdx := by
    rw [map_append, map_cons, nodup_append, nodup_cons] at distinct
    intro other inBack same
    exact distinct.2.1.1 (same ▸ mem_map_of_mem inBack)
  obtain ⟨-, rfl⟩ := addRequest_eq_ok added
  refine serves_others ?_ isOther (fun other inBack => room other (mem_append_right _ (mem_cons_of_mem _ inBack)))
    ranRest
  exact Serves.enter _ _ _ incomplete (room request member)

end

variable {tokenIdx : Nat}

/-! ## The kernel -/

namespace BincountArgs

variable {args : BincountArgs} {slot : Nat}

/-- The tokens of a slot are inside its rows: the prompt's in the mask, the output's in the
counts. -/
structure InBounds (args : BincountArgs) (slot : Nat) : Prop where
  within : args.promptLen slot ≤ args.prefillLen slot
  prompt : ∀ position < args.promptLen slot, args.tokenAt slot position / 32 < args.promptBinMaskStride
  output : ∀ position, args.promptLen slot ≤ position → position < args.prefillLen slot →
    args.tokenAt slot position < args.vocabSize

theorem blockSize_pos : 0 < blockSize := by decide

theorem mem_grid {blockIdx : Nat} : (tokenIdx, blockIdx) ∈ args.grid ↔
    tokenIdx < args.expandedIdxMapping.length ∧
      blockIdx < cdiv ((args.expandedIdxMapping.map args.prefillLen).foldr max 0) blockSize := by
  rw [grid, pair_mem_product, mem_range, mem_range]

theorem reqStateIdx_mem (inMapping : tokenIdx < args.expandedIdxMapping.length) :
    args.reqStateIdx tokenIdx ∈ args.expandedIdxMapping := by
  rw [reqStateIdx, getD_eq_getElem _ _ inMapping]
  exact getElem_mem inMapping

theorem prefillLen_le (member : slot ∈ args.expandedIdxMapping) :
    args.prefillLen slot ≤ (args.expandedIdxMapping.map args.prefillLen).foldr max 0 :=
  le_max_of_le' 0 (mem_map_of_mem member) (le_refl _)

theorem mem_promptUpdates {blockIdx : Nat} {update : Update Nat (BitVec 32)}
    (inBounds : args.InBounds (args.reqStateIdx tokenIdx)) : update ∈ args.promptUpdates (tokenIdx, blockIdx) ↔
      ∃ lane < blockSize, blockIdx * blockSize + lane < args.promptLen (args.reqStateIdx tokenIdx) ∧
        update = ⟨args.reqStateIdx tokenIdx * args.promptBinMaskStride +
            args.tokenAt (args.reqStateIdx tokenIdx) (blockIdx * blockSize + lane) / 32,
          1#32 <<< (args.tokenAt (args.reqStateIdx tokenIdx) (blockIdx * blockSize + lane) % 32)⟩ := by
  have within := inBounds.within
  rw [promptUpdates]
  constructor
  · intro member
    split at member
    next => cases member
    next =>
      split at member
      next =>
        obtain ⟨lane, inBlock, found⟩ := mem_filterMap.mp member
        dsimp only at found
        split at found
        next below =>
          cases found
          exact ⟨lane, mem_range.mp inBlock, below, rfl⟩
        next => cases found
      next => cases member
  · rintro ⟨lane, inBlock, below, rfl⟩
    rw [if_neg (by omega), if_pos (by omega)]
    exact mem_filterMap.mpr ⟨lane, mem_range.mpr inBlock, if_pos below⟩

def outputUpdate (args : BincountArgs) (slot position : Nat) : Option (Update Nat Nat) :=
  if args.promptLen slot ≤ position ∧ position < args.prefillLen slot then
    some ⟨slot * args.vocabSize + args.tokenAt slot position, 1⟩
  else none

theorem outputUpdates_eq (tokenIdx blockIdx : Nat) : args.outputUpdates (tokenIdx, blockIdx) =
    (List.range blockSize).filterMap fun lane =>
      args.outputUpdate (args.reqStateIdx tokenIdx) (blockIdx * blockSize + lane) := by
  have skipped (outside : ∀ lane < blockSize,
      ¬(args.promptLen (args.reqStateIdx tokenIdx) ≤ blockIdx * blockSize + lane ∧
        blockIdx * blockSize + lane < args.prefillLen (args.reqStateIdx tokenIdx))) :
      [] = (List.range blockSize).filterMap fun lane =>
        args.outputUpdate (args.reqStateIdx tokenIdx) (blockIdx * blockSize + lane) := by
    symm
    rw [filterMap_eq_nil_iff]
    exact fun lane inBlock => if_neg (outside lane (mem_range.mp inBlock))
  rw [outputUpdates]
  split
  next past => exact skipped fun lane _ => by omega
  next =>
    split
    next =>
      apply filterMap_congr
      intro lane _
      rw [outputUpdate]
      simp only [and_comm, ge_iff_le]
    next notReached =>
      apply skipped
      intro lane inBlock
      rw [Nat.succ_mul] at notReached
      omega

theorem flatMap_outputUpdates {blocks : Nat} (within : args.promptLen (args.reqStateIdx tokenIdx) ≤
      args.prefillLen (args.reqStateIdx tokenIdx))
    (covered : args.prefillLen (args.reqStateIdx tokenIdx) ≤ blocks * blockSize) :
    ((List.range blocks).flatMap fun blockIdx => args.outputUpdates (tokenIdx, blockIdx)) =
      (List.range' (args.promptLen (args.reqStateIdx tokenIdx))
          (args.prefillLen (args.reqStateIdx tokenIdx) - args.promptLen (args.reqStateIdx tokenIdx))).map fun position =>
        ⟨args.reqStateIdx tokenIdx * args.vocabSize + args.tokenAt (args.reqStateIdx tokenIdx) position, 1⟩ := by
  simp only [outputUpdates_eq]
  rw [flatMap_tiles (args.outputUpdate (args.reqStateIdx tokenIdx)), ← filter_range_interval within covered,
    ← filterMap_eq_map, filterMap_filter]
  apply filterMap_congr
  intro position _
  rw [outputUpdate]
  simp only [decide_eq_true_eq]
  rfl

end BincountArgs

theorem indexFill_row {α : Type} {stride column : Nat} (inRow : column < stride) (row : Nat) (rows : List Nat) (value : α)
    (buffer : Buffer Nat α) : indexFill stride rows value buffer (row * stride + column) =
      if row ∈ rows then value else buffer (row * stride + column) := by
  have isRow : (row * stride + column) / stride = row := by
    rw [Nat.mul_comm, Nat.mul_add_div ((Nat.zero_le _).trans_lt inRow), Nat.div_eq_of_lt inRow, Nat.add_zero]
  rw [indexFill, isRow]

theorem getLsbD_tokenBit (token other : Nat) :
    (1#32 <<< (token % 32)).getLsbD (other % 32) = true ↔ token % 32 = other % 32 := by
  simp only [BitVec.getLsbD_shiftLeft, BitVec.getLsbD_one, Bool.and_eq_true, Bool.not_eq_true', decide_eq_true_eq,
    decide_eq_false_iff_not]
  omega

namespace Bincounted

open BincountArgs

variable {P : Type} {args : BincountArgs} {before after : PenaltiesState P} {slot token : Nat}
  (bincounted : Bincounted args before after) (inBounds : ∀ slot ∈ args.expandedIdxMapping, args.InBounds slot)

include bincounted inBounds

/-- The mask of a new request has the tokens of its prompt, whatever its slot held. -/
theorem prompt (member : slot ∈ args.expandedIdxMapping) (below : token / 32 < args.promptBinMaskStride) :
    (after.promptBinMask (slot * args.promptBinMaskStride + token / 32)).getLsbD (token % 32) = true ↔
      ∃ position < args.promptLen slot, args.tokenAt slot position = token := by
  rw [bincounted.promptBinMask.sets, indexFill_row below, if_pos member]
  constructor
  · rintro (cleared | ⟨⟨tokenIdx, blockIdx⟩, inGrid, update, isUpdate, isAddress, isSet⟩)
    · simp at cleared
    · have inMapping := reqStateIdx_mem (mem_grid.mp inGrid).1
      have bounds := inBounds _ inMapping
      obtain ⟨lane, -, inPrompt, rfl⟩ := (mem_promptUpdates bounds).mp isUpdate
      obtain ⟨isSlot, isWord⟩ := flat_inj (bounds.prompt _ inPrompt) below isAddress
      have isBit := (getLsbD_tokenBit _ _).mp isSet
      rw [isSlot] at inPrompt isWord isBit
      exact ⟨_, inPrompt, by omega⟩
  · rintro ⟨position, inPrompt, rfl⟩
    right
    have bounds := inBounds slot member
    obtain ⟨tokenIdx, inMapping, isSlot⟩ := getElem_of_mem member
    have isReq : args.reqStateIdx tokenIdx = slot := by
      rw [reqStateIdx, getD_eq_getElem _ _ inMapping, isSlot]
    have isPosition : position / blockSize * blockSize + position % blockSize =
        position := Nat.div_add_mod' _ _
    have inGrid : (tokenIdx, position / blockSize) ∈ args.grid := by
      rw [mem_grid, lt_cdiv_iff blockSize_pos]
      have covered := prefillLen_le member
      have within := bounds.within
      exact ⟨inMapping, by omega⟩
    refine ⟨_, inGrid, _, (mem_promptUpdates (isReq ▸ bounds)).mpr
      ⟨position % blockSize, Nat.mod_lt _ blockSize_pos, ?_, rfl⟩, ?_, ?_⟩
    · rw [isPosition, isReq]
      exact inPrompt
    · rw [isPosition, isReq]
    · rw [isPosition, isReq]
      exact (getLsbD_tokenBit _ _).mpr rfl

theorem prompt_other (isOther : slot ∉ args.expandedIdxMapping) (below : token / 32 < args.promptBinMaskStride) :
    after.promptBinMask (slot * args.promptBinMaskStride + token / 32) =
      before.promptBinMask (slot * args.promptBinMaskStride + token / 32) := by
  rw [bincounted.promptBinMask.untouched, indexFill_row below, if_neg isOther]
  rintro ⟨tokenIdx, blockIdx⟩ inGrid update isUpdate same
  have inMapping := reqStateIdx_mem (mem_grid.mp inGrid).1
  have bounds := inBounds _ inMapping
  obtain ⟨lane, -, inPrompt, rfl⟩ := (mem_promptUpdates bounds).mp isUpdate
  exact isOther ((flat_inj (bounds.prompt _ inPrompt) below same).1 ▸ inMapping)

omit bincounted in
theorem updates_of_index (inMapping : tokenIdx < args.expandedIdxMapping.length) :
    ((List.range (cdiv ((args.expandedIdxMapping.map args.prefillLen).foldr max 0) blockSize)).flatMap
        fun blockIdx => args.outputUpdates (tokenIdx, blockIdx)) =
      (List.range' (args.promptLen (args.reqStateIdx tokenIdx))
          (args.prefillLen (args.reqStateIdx tokenIdx) - args.promptLen (args.reqStateIdx tokenIdx))).map fun position =>
        ⟨args.reqStateIdx tokenIdx * args.vocabSize + args.tokenAt (args.reqStateIdx tokenIdx) position, 1⟩ := by
  have member := reqStateIdx_mem inMapping
  apply flatMap_outputUpdates (inBounds _ member).within
  by_contra short
  have past := (lt_cdiv_iff blockSize_pos).mpr
    ((not_le.mp short).trans_le (prefillLen_le member))
  exact lt_irrefl _ past

omit bincounted in
theorem countP_updates (inMapping : tokenIdx < args.expandedIdxMapping.length)
    (below : token < args.vocabSize) :
    ((List.range (cdiv ((args.expandedIdxMapping.map args.prefillLen).foldr max 0) blockSize)).flatMap
        fun blockIdx => args.outputUpdates (tokenIdx, blockIdx)).countP
        (fun update => update.address = slot * args.vocabSize + token) =
      if args.reqStateIdx tokenIdx = slot then
        (List.range' (args.promptLen slot) (args.prefillLen slot - args.promptLen slot)).countP fun position =>
          args.tokenAt slot position = token
      else 0 := by
  have bounds := inBounds _ (reqStateIdx_mem inMapping)
  rw [updates_of_index inBounds inMapping, countP_map]
  split
  next isSlot =>
    subst isSlot
    apply countP_congr
    intro position _
    simp
  next isOther =>
    rw [countP_eq_zero]
    intro position member
    rw [mem_range'_1] at member
    simp only [Function.comp_apply, decide_eq_true_eq]
    intro same
    exact isOther (flat_inj (bounds.output position member.1 (by omega)) below same).1

/-- The counts of a new request are those of its output, whatever its slot held. -/
theorem output (distinct : args.expandedIdxMapping.Nodup) (member : slot ∈ args.expandedIdxMapping)
    (below : token < args.vocabSize) : after.outputBinCounts (slot * args.vocabSize + token) =
      (List.range' (args.promptLen slot) (args.prefillLen slot - args.promptLen slot)).countP fun position =>
        args.tokenAt slot position = token := by
  have ones : ∀ program ∈ args.grid, ∀ update ∈ args.outputUpdates program, update.operand = 1 := by
    rintro ⟨tokenIdx, blockIdx⟩ - update isUpdate
    rw [outputUpdates_eq] at isUpdate
    obtain ⟨lane, -, found⟩ := mem_filterMap.mp isUpdate
    rw [outputUpdate] at found
    split at found
    next =>
      cases found
      rfl
    next => cases found
  obtain ⟨tokenIdx, inMapping, isSlot⟩ := getElem_of_mem member
  have isReq : args.reqStateIdx tokenIdx = slot := by
    rw [reqStateIdx, getD_eq_getElem _ _ inMapping, isSlot]
  have alone : ∀ other, other ≠ tokenIdx → other ∈ List.range args.expandedIdxMapping.length →
      args.reqStateIdx other ≠ slot := by
    intro other isOther inRange same
    have otherInMapping := mem_range.mp inRange
    rw [reqStateIdx, getD_eq_getElem _ _ otherInMapping] at same
    exact isOther ((List.Nodup.getElem_inj_iff distinct).mp (same.trans isSlot.symm))
  rw [bincounted.outputBinCounts.counts ones, indexFill_row below, if_pos member, Nat.zero_add, grid,
    List.product, flatMap_assoc]
  simp only [flatMap_map]
  rw [countP_flatMap_single nodup_range (mem_range.mpr inMapping),
    countP_updates inBounds inMapping below, if_pos isReq]
  intro other inRange isOther
  rw [countP_updates inBounds (mem_range.mp inRange) below, if_neg (alone other isOther inRange)]

theorem output_other (isOther : slot ∉ args.expandedIdxMapping) (below : token < args.vocabSize) :
    after.outputBinCounts (slot * args.vocabSize + token) = before.outputBinCounts (slot * args.vocabSize + token) := by
  rw [bincounted.outputBinCounts.untouched, indexFill_row below, if_neg isOther]
  rintro ⟨tokenIdx, blockIdx⟩ inGrid update isUpdate same
  have inMapping := reqStateIdx_mem (mem_grid.mp inGrid).1
  have bounds := inBounds _ inMapping
  rw [outputUpdates_eq] at isUpdate
  obtain ⟨lane, -, found⟩ := mem_filterMap.mp isUpdate
  rw [outputUpdate] at found
  split at found
  next inOutput =>
    cases found
    exact isOther ((flat_inj (bounds.output _ inOutput.1 inOutput.2) below same).1 ▸ inMapping)
  next => cases found

end Bincounted

end DeepSpark
