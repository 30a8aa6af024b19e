import DeepSpark.Worker.PenaltyCounts

/-!
The penalty statistics of a request over the runs of the runner.

Owns the requests a step may add, the runs of a slot from the moment a request enters it, and the
invariant that its statistics are those of the prompt and of the output so far.
-/

namespace DeepSpark

open Lib PenaltyRunner List

/-! ## The statistics of a slot -/

/-- The statistics of a slot are those of a request with the given tokens. -/
structure PenaltiesState.Counted {P : Type} (vocabSize slot promptLen : Nat) (state : PenaltiesState P)
    (tokens : List Int) : Prop where
  within : promptLen ≤ tokens.length
  prompt : ∀ token : Nat, token < vocabSize →
    ((state.promptBinMask (slot * cdiv vocabSize 32 + token / 32)).getLsbD (token % 32) = true ↔
      (token : Int) ∈ tokens.take promptLen)
  output : ∀ token : Nat, token < vocabSize →
    state.outputBinCounts (slot * vocabSize + token) = (tokens.drop promptLen).count (token : Int)

theorem word_lt {vocabSize token : Nat} (below : token < vocabSize) : token / 32 < cdiv vocabSize 32 := by
  rw [lt_cdiv_iff (by decide)]
  omega

section

variable {P : Type} [DecidableEq P] [One P] [Zero P]

/-- The requests a step may add: those with penalties have prompts of allowed tokens, and
outputs of vocabulary tokens. -/
structure Admissible (allowed : Int → Prop) (vocabSize maxModelLen : Nat) (requests : List (NewRequest P)) : Prop
    extends Separate maxModelLen requests where
  prompt : ∀ request ∈ requests, request.usesPenalty = true →
    ∀ token ∈ request.prefillTokenIds.take request.promptLen, 0 ≤ token ∧ allowed token
  output : ∀ request ∈ requests, request.usesPenalty = true →
    ∀ token ∈ request.prefillTokenIds.drop request.promptLen, 0 ≤ token ∧ token < vocabSize

def BatchLayout.SamplesVocabulary (layout : BatchLayout) (vocabSize : Nat) (result : SamplerResult) : Prop :=
  ∀ row < layout.numReqs, ∀ i < result.numSampled row,
    0 ≤ result.sampledTokens row i ∧ result.sampledTokens row i < vocabSize

def InMask (vocabSize : Nat) (token : Int) : Prop := token < 32 * cdiv vocabSize 32

/-! ## A step that adds requests -/

/-- The arguments of `bincount` for the new requests. -/
def PenaltyRunner.bincountArgs (runner : PenaltyRunner P) (vocabSize maxModelLen : Nat) : BincountArgs :=
  ⟨runner.penalties.newPenaltiesReqs, runner.states.allTokenIds, maxModelLen, runner.promptLens, runner.states.prefillLen,
    vocabSize⟩

variable {allowed : Int → Prop} {vocabSize maxModelLen : Nat} {before entered after runner : PenaltyRunner P}
  {requests : List (NewRequest P)} {request : NewRequest P}

theorem PenaltyRunner.Entered.tokenAt (isEntered : runner.Entered maxModelLen request) (vocabSize : Nat)
    (natural : ∀ token ∈ request.prefillTokenIds, 0 ≤ token) {position : Nat}
    (below : position < request.prefillTokenIds.length) : request.prefillTokenIds[position]? =
      some (((runner.bincountArgs vocabSize maxModelLen).tokenAt request.reqIdx position : Nat) : Int) := by
  have isToken := isEntered.token position below
  rw [isToken, BincountArgs.tokenAt]
  apply congrArg some
  exact (Int.toNat_of_nonneg (natural _ (mem_of_getElem? isToken))).symm

theorem PenaltyRunner.Entered.outputTokens (isEntered : runner.Entered maxModelLen request) (vocabSize : Nat)
    (natural : ∀ token ∈ request.prefillTokenIds, 0 ≤ token) : request.prefillTokenIds.drop request.promptLen =
      (List.range' request.promptLen (request.prefillTokenIds.length - request.promptLen)).map fun position =>
        (((runner.bincountArgs vocabSize maxModelLen).tokenAt request.reqIdx position : Nat) : Int) := by
  apply ext_getElem?
  intro index
  rw [getElem?_drop, getElem?_map]
  rcases lt_or_ge (request.promptLen + index) request.prefillTokenIds.length with below | past
  · rw [isEntered.tokenAt vocabSize natural below, getElem?_range' (by omega), Nat.one_mul]
    rfl
  · rw [getElem?_eq_none past, getElem?_eq_none (by rw [length_range']; omega)]
    rfl

theorem Admissible.natural (admissible : Admissible allowed vocabSize maxModelLen requests) (member : request ∈ requests)
    (uses : request.usesPenalty = true) : ∀ token ∈ request.prefillTokenIds, 0 ≤ token := by
  intro token inPrefill
  rw [← take_append_drop request.promptLen request.prefillTokenIds, mem_append] at inPrefill
  rcases inPrefill with inPrompt | inOutput
  · exact (admissible.prompt request member uses token inPrompt).1
  · exact (admissible.output request member uses token inOutput).1

theorem Admissible.inBounds (admissible : Admissible (InMask vocabSize) vocabSize maxModelLen requests)
    (member : request ∈ requests) (uses : request.usesPenalty = true) (isEntered : runner.Entered maxModelLen request) :
    (runner.bincountArgs vocabSize maxModelLen).InBounds request.reqIdx := by
  have natural := admissible.natural member uses
  have isPromptLen : (runner.bincountArgs vocabSize maxModelLen).promptLen request.reqIdx = request.promptLen :=
    isEntered.promptLen
  have isPrefillLen : (runner.bincountArgs vocabSize maxModelLen).prefillLen request.reqIdx =
      request.prefillTokenIds.length := isEntered.prefillLen
  refine ⟨?_, ?_, ?_⟩
  · rw [isPromptLen, isPrefillLen]
    exact isEntered.within
  · intro position below
    rw [isPromptLen] at below
    have isToken := isEntered.tokenAt vocabSize natural (below.trans_le isEntered.within)
    have inPrompt := admissible.prompt request member uses _
      (mem_of_getElem? ((getElem?_take_of_lt below).trans isToken))
    have inMask : _ < 32 * (cdiv vocabSize 32 : Int) := inPrompt.2
    show _ < cdiv vocabSize 32
    omega
  · intro position above below
    rw [isPromptLen] at above
    rw [isPrefillLen] at below
    have isToken := isEntered.tokenAt vocabSize natural below
    have inOutput := admissible.output request member uses _
      (mem_of_getElem? (i := position - request.promptLen) (by
        rw [getElem?_drop, Nat.add_sub_cancel' above]
        exact isToken))
    show _ < vocabSize
    omega

theorem PenaltiesState.AppliedStagedWrites.settled {states : DeviceStates} {promptLens : Buffer Nat Nat}
    {before after : PenaltiesState P} (applied : before.AppliedStagedWrites vocabSize maxModelLen states promptLens after) :
    after.newPenaltiesReqs = [] ∧ ∀ slot params, before.HasParams slot params → after.HasParams slot params := by
  cases applied with
  | none isEmpty => exact ⟨isEmpty, fun _ _ has => has⟩
  | counted _ bincounted =>
    refine ⟨rfl, fun slot params has => ?_⟩
    rw [bincounted.others]
    exact ⟨has.repetitionPenalty, has.frequencyPenalty, has.presencePenalty, has.usePenalty⟩

theorem mem_penaltySlots {slot : Nat} : slot ∈ penaltySlots requests ↔
    ∃ request ∈ requests, request.usesPenalty = true ∧ request.reqIdx = slot := by
  rw [penaltySlots, mem_map]
  constructor
  · rintro ⟨request, member, isSlot⟩
    obtain ⟨inRequests, uses⟩ := mem_filter.mp member
    exact ⟨request, inRequests, uses, isSlot⟩
  · rintro ⟨request, inRequests, uses, isSlot⟩
    exact ⟨request, mem_filter.mpr ⟨inRequests, uses⟩, isSlot⟩

section

variable (settled : before.penalties.newPenaltiesReqs = [])
  (admissible : Admissible (InMask vocabSize) vocabSize maxModelLen requests)
  (ran : requests.foldlM (addRequest maxModelLen) before = .ok entered) {penalties : PenaltiesState P}
  (applied : entered.penalties.AppliedStagedWrites vocabSize maxModelLen entered.states entered.promptLens penalties)

include settled admissible ran

theorem inBounds_entered : ∀ slot ∈ (entered.bincountArgs vocabSize maxModelLen).expandedIdxMapping,
    (entered.bincountArgs vocabSize maxModelLen).InBounds slot := by
  have all := enteredAll admissible.toSeparate ran
  intro slot member
  have inNew : slot ∈ entered.penalties.newPenaltiesReqs := member
  rw [all.newPenaltiesReqs, settled, nil_append] at inNew
  obtain ⟨request, inRequests, uses, rfl⟩ := mem_penaltySlots.mp inNew
  exact admissible.inBounds inRequests uses (all.isEntered request inRequests)

include applied

theorem counted_entered (member : request ∈ requests) (uses : request.usesPenalty = true) :
    penalties.Counted vocabSize request.reqIdx request.promptLen request.prefillTokenIds := by
  have inBounds := inBounds_entered settled admissible ran
  have all := enteredAll admissible.toSeparate ran
  have isEntered := all.isEntered request member
  have natural := admissible.natural member uses
  have isNew : entered.penalties.newPenaltiesReqs = penaltySlots requests := by
    rw [all.newPenaltiesReqs, settled, nil_append]
  have inNew : request.reqIdx ∈ entered.penalties.newPenaltiesReqs := by
    rw [isNew]
    exact mem_penaltySlots.mpr ⟨request, member, uses, rfl⟩
  have distinct : entered.penalties.newPenaltiesReqs.Nodup := by
    rw [isNew]
    exact admissible.distinct.sublist (filter_sublist.map _)
  cases applied with
  | none isEmpty =>
    rw [isEmpty] at inNew
    cases inNew
  | counted _ bincounted =>
    have launched : Bincounted (entered.bincountArgs vocabSize maxModelLen) _ _ := bincounted
    have isPromptLen : (entered.bincountArgs vocabSize maxModelLen).promptLen request.reqIdx = request.promptLen :=
      isEntered.promptLen
    have isPrefillLen : (entered.bincountArgs vocabSize maxModelLen).prefillLen request.reqIdx =
        request.prefillTokenIds.length := isEntered.prefillLen
    refine ⟨isEntered.within, ?_, ?_⟩
    · intro token below
      refine (launched.prompt inBounds inNew (word_lt below)).trans ?_
      rw [isPromptLen, mem_iff_getElem?]
      constructor
      · rintro ⟨position, inPrompt, isToken⟩
        refine ⟨position, ?_⟩
        rw [getElem?_take_of_lt inPrompt, ← isToken]
        exact isEntered.tokenAt vocabSize natural (inPrompt.trans_le isEntered.within)
      · rintro ⟨position, found⟩
        have inTaken := (List.getElem?_eq_some_iff.mp found).1
        rw [length_take] at inTaken
        have inPrompt : position < request.promptLen := inTaken.trans_le (Nat.min_le_left _ _)
        rw [getElem?_take_of_lt inPrompt, isEntered.tokenAt vocabSize natural
          (inPrompt.trans_le isEntered.within)] at found
        exact ⟨position, inPrompt, Int.ofNat_inj.mp (Option.some.inj found)⟩
    · intro token below
      refine (launched.output inBounds distinct inNew below).trans ?_
      rw [isPromptLen, isPrefillLen, isEntered.outputTokens vocabSize natural, List.count,
        countP_map]
      apply countP_congr
      intro position _
      simp only [Function.comp_apply, decide_eq_true_eq, beq_iff_eq]
      exact Int.ofNat_inj.symm

theorem counted_others {slot promptLen : Nat} {tokens : List Int}
    (counted : before.penalties.Counted vocabSize slot promptLen tokens)
    (isOther : ∀ request ∈ requests, request.reqIdx ≠ slot) :
    penalties.Counted vocabSize slot promptLen tokens := by
  have inBounds := inBounds_entered settled admissible ran
  have all := enteredAll admissible.toSeparate ran
  have notNew : slot ∉ entered.penalties.newPenaltiesReqs := by
    rw [all.newPenaltiesReqs, settled, nil_append]
    intro member
    obtain ⟨request, inRequests, -, isSlot⟩ := mem_penaltySlots.mp member
    exact isOther request inRequests isSlot
  cases applied with
  | none =>
    refine ⟨counted.within, ?_, ?_⟩
    · rw [all.promptBinMask]
      exact counted.prompt
    · rw [all.outputBinCounts]
      exact counted.output
  | counted _ bincounted =>
    have launched : Bincounted (entered.bincountArgs vocabSize maxModelLen) _ _ := bincounted
    refine ⟨counted.within, ?_, ?_⟩
    · intro token below
      have kept := (launched.prompt_other inBounds notNew (word_lt below)).trans
        (congrFun all.promptBinMask _)
      exact (iff_of_eq (congrArg (fun word => word.getLsbD (token % 32) = true) kept)).trans (counted.prompt token below)
    · intro token below
      exact ((launched.output_other inBounds notNew below).trans (congrFun all.outputBinCounts _)).trans
        (counted.output token below)

end

end

/-! ## A step that samples -/

section

variable {P : Type} {vocabSize maxModelLen numSpeculativeSteps slot promptLen row : Nat} {before after : PenaltyRunner P}
  {cache : Buffer Nat (Option Int)} {seq next : Sequence} {layout : BatchLayout} {buffers : InputBuffers}
  {result : SamplerResult}

theorem numSampled_le (layout : BatchLayout) (states : DeviceStates) (seqLens : Buffer Nat Nat) (row : Nat) :
    layout.numSampled states seqLens result row ≤ result.numSampled row := by
  rw [BatchLayout.numSampled]
  split
  next => exact Nat.zero_le _
  next => exact le_refl _

variable (step : PenaltyStep vocabSize maxModelLen numSpeculativeSteps layout before buffers result after)
  (inVocabulary : layout.SamplesVocabulary vocabSize result)

include inVocabulary in
/-- What a row adds to the counts of a slot: its sampled tokens if it is the slot's. -/
theorem countP_countUpdates (slot : Nat) {other : Nat} (inBatch : other < layout.numReqs) {numSampled : Nat → Nat}
    (bounded : numSampled other ≤ result.numSampled other) {token : Nat} (below : token < vocabSize) :
    (layout.countUpdates vocabSize result numSampled other).countP
        (fun update => update.address = slot * vocabSize + token) =
      if layout.idxMapping other = slot then
        ((List.range (numSampled other)).map (result.sampledTokens other)).count (token : Int)
      else 0 := by
  have isSampled (i : Nat) (inRange : i ∈ List.range (numSampled other)) :
      ((result.sampledTokens other i).toNat : Int) = result.sampledTokens other i ∧
        (result.sampledTokens other i).toNat < vocabSize := by
    obtain ⟨natural, bound⟩ := inVocabulary other inBatch i ((mem_range.mp inRange).trans_le bounded)
    omega
  rw [BatchLayout.countUpdates, countP_map]
  split
  next isSlot =>
    rw [List.count, countP_map]
    apply countP_congr
    intro i inRange
    have isNat := (isSampled i inRange).1
    simp only [Function.comp_apply, isSlot, Nat.add_left_cancel_iff, decide_eq_true_eq, beq_iff_eq]
    omega
  next isOther =>
    rw [countP_eq_zero]
    intro i inRange
    simp only [Function.comp_apply, decide_eq_true_eq]
    intro same
    exact isOther (flat_inj (isSampled i inRange).2 below same).1

include step inVocabulary

theorem PenaltiesState.Counted.otherStep (counted : before.penalties.Counted vocabSize slot promptLen seq.tokens)
    (foreign : ∀ row < layout.numReqs, layout.idxMapping row ≠ slot) :
    after.penalties.Counted vocabSize slot promptLen seq.tokens := by
  refine ⟨counted.within, ?_, ?_⟩
  · rw [step.others]
    exact counted.prompt
  · intro token below
    rw [← counted.output token below]
    apply step.counts.untouched
    intro row inGrid update isUpdate same
    have inBatch := mem_range.mp inGrid
    have counts := countP_countUpdates inVocabulary slot inBatch (numSampled_le layout before.states buffers.seqLens row)
      below
    rw [if_neg (foreign row inBatch), countP_eq_zero] at counts
    exact counts update isUpdate (decide_eq_true same)

theorem PenaltiesState.Counted.turned (counted : before.penalties.Counted vocabSize slot promptLen seq.tokens)
    (tracks : Tracks maxModelLen slot before.states cache seq) (inBatch : row < layout.numReqs)
    (isSlot : layout.idxMapping row = slot)
    (takes : seq.Takes numSpeculativeSteps (layout.turn before.states result row) next) :
    after.penalties.Counted vocabSize slot promptLen next.tokens := by
  obtain ⟨-, isTokens, -⟩ := tracks.counts step.step inBatch isSlot takes
  have within := counted.within
  refine ⟨?_, ?_, ?_⟩
  · rw [isTokens, length_append]
    omega
  · rw [step.others, isTokens, take_append_of_le_length within]
    exact counted.prompt
  · intro token below
    have ones : ∀ other ∈ List.range layout.numReqs, ∀ update ∈ layout.countUpdates vocabSize result
        (layout.numSampled before.states buffers.seqLens result) other, update.operand = 1 := by
      intro other _ update isUpdate
      obtain ⟨i, -, rfl⟩ := mem_map.mp isUpdate
      rfl
    rw [isTokens, drop_append_of_le_length within, count_append, ← counted.output token below,
      step.counts.counts ones, countP_flatMap_single nodup_range (mem_range.mpr inBatch),
      countP_countUpdates inVocabulary slot inBatch (numSampled_le _ _ _ _) below, if_pos isSlot]
    intro other inGrid isOther
    have otherInBatch := mem_range.mp inGrid
    rw [countP_countUpdates inVocabulary slot otherInBatch (numSampled_le _ _ _ _) below, if_neg]
    intro same
    exact isOther (step.step.wellFormed.distinct other otherInBatch row inBatch (same.trans isSlot.symm))

end

theorem foldl_countP (indices : List Nat) (counts : Nat → Prop) [DecidablePred counts] (first : Nat) :
    (indices.foldl (fun count index => count + if counts index then 1 else 0) first) =
      first + indices.countP fun index => counts index := by
  induction indices generalizing first with
  | nil => rfl
  | cons index rest ih =>
    rw [foldl_cons, ih, countP_cons, Nat.add_assoc,
      Nat.add_comm (if counts index then 1 else 0)]
    simp only [decide_eq_true_eq]

theorem PenaltiesArgs.outputBinCount_eq {P : Type} (args : PenaltiesArgs P) {tokenIdx : Nat} (drafts : List Int)
    (isDraft : ∀ prevPos < args.expandedLocalPos tokenIdx, drafts[prevPos]? =
      some (args.tokenIds (tokenIdx - args.expandedLocalPos tokenIdx + prevPos + 1))) (token : Nat) :
    args.outputBinCount tokenIdx token =
      args.state.outputBinCounts (args.reqStateIdx tokenIdx * args.vocabSize + token) +
        (drafts.take (args.expandedLocalPos tokenIdx)).count (token : Int) := by
  have isTaken : drafts.take (args.expandedLocalPos tokenIdx) =
      (List.range (args.expandedLocalPos tokenIdx)).map fun prevPos =>
        args.tokenIds (tokenIdx - args.expandedLocalPos tokenIdx + prevPos + 1) := by
    apply ext_getElem?
    intro prevPos
    rw [getElem?_map]
    rcases lt_or_ge prevPos (args.expandedLocalPos tokenIdx) with below | past
    · rw [getElem?_take_of_lt below, isDraft prevPos below, getElem?_range below]
      rfl
    · rw [getElem?_take_eq_none past, getElem?_eq_none (by rw [length_range]; exact past)]
      rfl
  rw [PenaltiesArgs.outputBinCount, foldl_countP, isTaken, List.count, countP_map]
  congr 1
  apply countP_congr
  intro prevPos _
  simp only [Function.comp_apply, decide_eq_true_eq, beq_iff_eq]
  exact eq_comm

/-! ## Runs -/

section

variable {P : Type} [DecidableEq P] [One P] [Zero P]

def PenaltyRunner.penaltiesArgs (runner : PenaltyRunner P) (vocabSize logitsStride : Nat) (buffers : InputBuffers)
    (expandedIdxMapping expandedLocalPos : Buffer Nat Nat) : PenaltiesArgs P where
  logitsStride := logitsStride
  expandedIdxMapping := expandedIdxMapping
  tokenIds := buffers.sampledInputs
  expandedLocalPos := expandedLocalPos
  state := runner.penalties
  vocabSize := vocabSize

/-- The states of a runner from the moment a request enters a slot, whose former contents are any,
with the tokens in the cache and the sequence of the request. A resumed request enters again, its
output among its tokens. -/
inductive Penalized (allowed : Int → Prop) (vocabSize maxModelLen numSpeculativeSteps slot promptLen : Nat)
    (params : PenaltyParams P) : PenaltyRunner P → Buffer Nat (Option Int) → Sequence → Prop
  | enter {before after : PenaltyRunner P} {requests : List (NewRequest P)} {request : NewRequest P}
      (settled : before.penalties.newPenaltiesReqs = []) (admissible : Admissible allowed vocabSize maxModelLen requests)
      (added : before.Added vocabSize maxModelLen requests after) (member : request ∈ requests)
      (isSlot : request.reqIdx = slot) (isPromptLen : request.promptLen = promptLen)
      (isParams : request.samplingParams = some params)
      (incomplete : request.numComputedTokens < request.prefillTokenIds.length) :
      Penalized allowed vocabSize maxModelLen numSpeculativeSteps slot promptLen params after
        (fun position => if position < request.numComputedTokens then request.prefillTokenIds[position]? else none)
        ⟨request.prefillTokenIds, request.prefillTokenIds.length, request.numComputedTokens⟩
  | othersEnter {before : PenaltyRunner P} {cache seq}
      (run : Penalized allowed vocabSize maxModelLen numSpeculativeSteps slot promptLen params before cache seq)
      {after : PenaltyRunner P} {requests : List (NewRequest P)}
      (admissible : Admissible allowed vocabSize maxModelLen requests)
      (added : before.Added vocabSize maxModelLen requests after) (isOther : ∀ request ∈ requests, request.reqIdx ≠ slot) :
      Penalized allowed vocabSize maxModelLen numSpeculativeSteps slot promptLen params after cache seq
  | drafted {runner : PenaltyRunner P} {cache seq}
      (run : Penalized allowed vocabSize maxModelLen numSpeculativeSteps slot promptLen params runner cache seq)
      (draftTokens : Nat → Nat → Int) :
      Penalized allowed vocabSize maxModelLen numSpeculativeSteps slot promptLen params
        { runner with states := { runner.states with draftTokens := draftTokens } } cache seq
  | otherStep {before : PenaltyRunner P} {cache seq}
      (run : Penalized allowed vocabSize maxModelLen numSpeculativeSteps slot promptLen params before cache seq)
      {layout : BatchLayout} {buffers : InputBuffers} {result : SamplerResult} {after : PenaltyRunner P}
      (step : PenaltyStep vocabSize maxModelLen numSpeculativeSteps layout before buffers result after)
      (inVocabulary : layout.SamplesVocabulary vocabSize result)
      (foreign : ∀ row < layout.numReqs, layout.idxMapping row ≠ slot) :
      Penalized allowed vocabSize maxModelLen numSpeculativeSteps slot promptLen params after cache seq
  | step {before : PenaltyRunner P} {cache seq}
      (run : Penalized allowed vocabSize maxModelLen numSpeculativeSteps slot promptLen params before cache seq)
      {layout : BatchLayout} {buffers : InputBuffers} {result : SamplerResult} {after : PenaltyRunner P}
      (step : PenaltyStep vocabSize maxModelLen numSpeculativeSteps layout before buffers result after)
      (inVocabulary : layout.SamplesVocabulary vocabSize result) {row : Nat} (inBatch : row < layout.numReqs)
      (isSlot : layout.idxMapping row = slot) {next : Sequence}
      (takes : seq.Takes numSpeculativeSteps (layout.turn before.states result row) next) :
      Penalized allowed vocabSize maxModelLen numSpeculativeSteps slot promptLen params after
        (layout.feed buffers row cache) next

variable {allowed : Int → Prop} {vocabSize maxModelLen numSpeculativeSteps slot promptLen : Nat} {params : PenaltyParams P}
  {runner : PenaltyRunner P} {cache : Buffer Nat (Option Int)} {seq : Sequence}

theorem Penalized.serves
    (run : Penalized allowed vocabSize maxModelLen numSpeculativeSteps slot promptLen params runner cache seq) :
    Serves maxModelLen numSpeculativeSteps slot runner.states cache seq := by
  induction run with
  | enter _ admissible added member isSlot _ _ incomplete =>
    cases added with
    | added ran _ => exact isSlot ▸ serves_entered admissible.toSeparate ran member incomplete _
  | othersEnter _ admissible added isOther ih =>
    cases added with
    | added ran _ =>
      have served := serves_others ih isOther admissible.room ran
      exact served
  | drafted _ draftTokens ih => exact ih.drafted draftTokens
  | otherStep _ step _ foreign ih => exact ih.otherStep step.step foreign
  | step _ step _ inBatch isSlot takes ih => exact ih.step step.step inBatch isSlot takes

structure SlotPenalized (vocabSize slot promptLen : Nat) (params : PenaltyParams P) (runner : PenaltyRunner P)
    (seq : Sequence) : Prop where
  settled : runner.penalties.newPenaltiesReqs = []
  hasParams : runner.penalties.HasParams slot params
  counted : params.usePenalty = true → runner.penalties.Counted vocabSize slot promptLen seq.tokens

theorem Penalized.slotPenalized
    (run : Penalized (InMask vocabSize) vocabSize maxModelLen numSpeculativeSteps slot promptLen params runner cache seq) :
    SlotPenalized vocabSize slot promptLen params runner seq := by
  induction run with
  | @enter before after requests request settled admissible added member isSlot isPromptLen isParams incomplete =>
    cases added with
    | added ran applied =>
      have all := enteredAll admissible.toSeparate ran
      obtain ⟨isSettled, keeps⟩ := applied.settled
      subst isSlot isPromptLen
      refine ⟨isSettled, keeps _ _ ((all.isEntered request member).params params isParams), ?_⟩
      intro uses
      refine counted_entered settled admissible ran applied member ?_
      rw [NewRequest.usesPenalty, isParams]
      exact uses
  | othersEnter _ admissible added isOther ih =>
    cases added with
    | added ran applied =>
      obtain ⟨isSettled, keeps⟩ := applied.settled
      refine ⟨isSettled, keeps _ _ (hasParams_others ih.hasParams isOther ran), ?_⟩
      intro uses
      exact counted_others ih.settled admissible ran applied (ih.counted uses) isOther
  | drafted _ _ ih =>
    exact ⟨ih.settled, ih.hasParams, ih.counted⟩
  | otherStep _ step inVocabulary foreign ih =>
    have has := ih.hasParams
    refine ⟨?_, ?_, fun uses => (ih.counted uses).otherStep step inVocabulary foreign⟩
    · rw [step.others]
      exact ih.settled
    · rw [step.others]
      exact ⟨has.repetitionPenalty, has.frequencyPenalty, has.presencePenalty, has.usePenalty⟩
  | step run step inVocabulary inBatch isSlot takes ih =>
    have has := ih.hasParams
    refine ⟨?_, ?_, fun uses => (ih.counted uses).turned step inVocabulary run.serves.tracks inBatch
      isSlot takes⟩
    · rw [step.others]
      exact ih.settled
    · rw [step.others]
      exact ⟨has.repetitionPenalty, has.frequencyPenalty, has.presencePenalty, has.usePenalty⟩

variable [Mul P] [Div P] [Sub P] [NatCast P] [LT P] [DecidableLT P]

end

/-! ## A small runner -/

def emptyRunner : PenaltyRunner Int where
  states := ⟨fun _ => 0, fun _ => 0, fun _ => 0, fun _ => 0, fun _ => 0, fun _ _ => 0, fun _ => 0⟩
  promptLens := fun _ => 0
  penalties := ⟨fun _ => 1, fun _ => 0, fun _ => 0, fun _ => false, fun _ => 0, fun _ => 0, []⟩

def repetition : PenaltyParams Int := ⟨2, 0, 0⟩

def oneToken (slot : Nat) (token : Int) : NewRequest Int := ⟨slot, 1, [token], 0, some repetition⟩

theorem exists_added (allowed : Int → Prop) (requests : List (Nat × Int)) (distinct : (requests.map Prod.fst).Nodup)
    (isAllowed : ∀ request ∈ requests, 0 ≤ request.2 ∧ allowed request.2) :
    ∃ entered after, (requests.map fun request => oneToken request.1 request.2).foldlM (addRequest 8)
        emptyRunner = .ok entered ∧
      entered.penalties.AppliedStagedWrites 32 8 entered.states entered.promptLens after ∧
      Admissible allowed 32 8 (requests.map fun request => oneToken request.1 request.2) ∧
      emptyRunner.Added 32 8 (requests.map fun request => oneToken request.1 request.2) { entered with penalties := after } := by
  have runs (before : PenaltyRunner Int) : ∃ entered,
      (requests.map fun request => oneToken request.1 request.2).foldlM (addRequest 8) before =
        .ok entered := by
    clear distinct isAllowed
    induction requests generalizing before with
    | nil => exact ⟨before, rfl⟩
    | cons first rest ih => exact ih _
  obtain ⟨entered, ran⟩ := runs emptyRunner
  obtain ⟨after, applied⟩ := entered.penalties.exists_applied 32 8 entered.states entered.promptLens
  refine ⟨entered, after, ran, applied, ⟨⟨?_, ?_⟩, ?_, ?_⟩, .added ran applied⟩
  · rw [map_map]
    exact distinct
  · intro request member
    obtain ⟨data, -, rfl⟩ := mem_map.mp member
    exact Nat.succ_le_succ (Nat.zero_le 7)
  · intro request member _ token inPrompt
    obtain ⟨data, inRequests, rfl⟩ := mem_map.mp member
    rw [mem_singleton.mp inPrompt]
    exact isAllowed data inRequests
  · intro request member _ token inOutput
    obtain ⟨data, -, rfl⟩ := mem_map.mp member
    cases inOutput

end DeepSpark
