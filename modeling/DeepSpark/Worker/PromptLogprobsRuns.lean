import DeepSpark.Worker.PromptLogprobs

/-!
The prompt logprobs of requests over the runs of the runner.

Owns the parts of the runner that serve them, its events, the record of what each request was
computed with and was returned, and the invariant that a request is returned the rows of its
prompt once, when the prompt is complete.
-/

namespace DeepSpark

open Lib Function List

/-- What `add_requests` reads of a `NewRequestData`. -/
structure NewPrompt where
  reqId : ReqId
  promptTokenIds : List Int
  prefillTokenIds : List Int
  numComputedTokens : Nat
  promptLogprobs : Option Int

/-- The state of `ModelRunner` behind the prompt logprobs: the slots, the arrays by slot, and the
worker. -/
structure PromptRunner (F : Type) where
  slots : RequestState
  states : DeviceStates
  promptLens : Buffer Nat Nat
  numComputedTokensNp : Buffer Nat Nat
  worker : PromptLogprobsWorker F

namespace PromptRunner

variable {F : Type}

def init (maxNumReqs : Nat) (states : DeviceStates) : PromptRunner F :=
  ⟨.init maxNumReqs, states, fun _ => 0, fun _ => 0, .init⟩

def removeRequest (self : PromptRunner F) (reqId : ReqId) : PromptRunner F :=
  match self.slots.reqIdToIndex.get? reqId with
  | none => self
  | some _ => { self with slots := self.slots.removeRequest reqId, worker := self.worker.removeRequest reqId }

/-- `ModelRunner.add_requests` for one request, with the staged writes applied. -/
def addRequest (self : PromptRunner F) (maxModelLen : Nat) (request : NewPrompt) : Except PyError (PromptRunner F) := do
  let removed := self.removeRequest request.reqId
  let slots ← removed.slots.addRequest request.reqId
  let promptLen := request.promptTokenIds.length
  let prefillLen := request.prefillTokenIds.length
  pyAssert (promptLen ≤ prefillLen) s!"prefill_len {prefillLen} < prompt_len {promptLen}"
  match slots.reqIdToIndex.get? request.reqId with
  | none => .error (.keyError "req_id")
  | some reqIdx =>
    .ok
      { slots
        states := removed.states.addRequest maxModelLen reqIdx request.prefillTokenIds request.numComputedTokens
        promptLens := Function.update removed.promptLens reqIdx promptLen
        numComputedTokensNp := Function.update removed.numComputedTokensNp reqIdx request.numComputedTokens
        worker := removed.worker.addRequest request.reqId reqIdx request.promptLogprobs }

/-- The loop of `ModelRunner.update_requests`: the scheduler's number of computed tokens of a request. -/
def updateRequest (self : PromptRunner F) (cached : ReqId × Nat) : Except PyError (PromptRunner F) :=
  match self.slots.reqIdToIndex.get? cached.1 with
  | none => .error (.keyError "req_id")
  | some reqIndex =>
    .ok { self with numComputedTokensNp := Function.update self.numComputedTokensNp reqIndex cached.2 }

/-- The batch of `ModelRunner.prepare_inputs`, after the `np.minimum` of `update_requests`. -/
def inputBatch (self : PromptRunner F) (layout : BatchLayout) (reqIds : List ReqId) : PromptBatch where
  layout := layout
  reqIds := reqIds
  prefillLen i := self.states.prefillLen (layout.idxMapping i)
  numComputedPrefillTokens i :=
    min (self.numComputedTokensNp (layout.idxMapping i)) (self.states.prefillLen (layout.idxMapping i))

variable {self next : PromptRunner F} {reqId : ReqId}

theorem removeRequest_slots (self : PromptRunner F) (reqId : ReqId) :
    (self.removeRequest reqId).slots = self.slots.removeRequest reqId := by
  rw [removeRequest, RequestState.removeRequest]
  cases self.slots.reqIdToIndex.get? reqId <;> rfl

theorem removeRequest_frame (self : PromptRunner F) (reqId : ReqId) :
    (self.removeRequest reqId).states = self.states ∧ (self.removeRequest reqId).promptLens = self.promptLens ∧
      (self.removeRequest reqId).worker.usesPromptLogprobs = self.worker.usesPromptLogprobs ∧
      (self.removeRequest reqId).worker.numPromptLogprobs = self.worker.numPromptLogprobs ∧
      ∀ other, other ≠ reqId → (self.removeRequest reqId).worker.inProgressPromptLogprobs.get? other =
        self.worker.inProgressPromptLogprobs.get? other := by
  rw [removeRequest]
  split
  next => exact ⟨rfl, rfl, rfl, rfl, fun _ _ => rfl⟩
  next => exact ⟨rfl, rfl, rfl, rfl, fun _ differ => PyDict.get?_erase_of_ne _ differ⟩

theorem addRequest_eq {maxModelLen : Nat} {request : NewPrompt} (ran : self.addRequest maxModelLen request = .ok next) :
    ∃ slots reqIdx, (self.removeRequest request.reqId).slots.addRequest request.reqId = .ok slots ∧
      slots.reqIdToIndex.get? request.reqId = some reqIdx ∧
      next = { slots
               states := self.states.addRequest maxModelLen reqIdx request.prefillTokenIds request.numComputedTokens
               promptLens := update self.promptLens reqIdx request.promptTokenIds.length
               numComputedTokensNp := update (self.removeRequest request.reqId).numComputedTokensNp reqIdx
                 request.numComputedTokens
               worker := (self.removeRequest request.reqId).worker.addRequest request.reqId reqIdx
                 request.promptLogprobs } := by
  obtain ⟨states, promptLens, -⟩ := self.removeRequest_frame request.reqId
  obtain ⟨slots, added, ran⟩ := bind_eq_ok.mp ran
  obtain ⟨_, -, ran⟩ := bind_eq_ok.mp ran
  rw [states, promptLens] at ran
  cases found : slots.reqIdToIndex.get? request.reqId with
  | none =>
    rw [found] at ran
    cases ran
  | some reqIdx =>
    rw [found] at ran
    exact ⟨slots, reqIdx, added, found, (Except.ok.inj ran).symm⟩

end PromptRunner

namespace RequestState

variable {self next : RequestState} {reqId : ReqId}

theorem removeRequest_get? (self : RequestState) (reqId other : ReqId) :
    (self.removeRequest reqId).reqIdToIndex.get? other =
      if other = reqId then none else self.reqIdToIndex.get? other := by
  rw [removeRequest]
  split
  next absent =>
    split
    next same => rw [same, absent]
    next => rfl
  next => exact PyDict.get?_erase _ _ _

theorem addRequest_get? (ran : self.addRequest reqId = .ok next) {other : ReqId} (differ : other ≠ reqId) :
    next.reqIdToIndex.get? other = self.reqIdToIndex.get? other := by
  rw [addRequest] at ran
  split at ran
  next => cases ran
  next =>
    cases ran
    exact PyDict.get?_set_of_ne _ _ differ

end RequestState

open PromptLogprobsWorker

/-! ## What happened to a request -/

/-- A request since it was added: its prompt and what it asked for, its tokens, the positions that
were computed for it with their hidden states, and what was returned to it. -/
structure PromptRecord (H F : Type) where
  prompt : List Int
  promptLogprobs : Option Int
  seq : Sequence
  hidden : List (Nat × H) := []
  results : List (LogprobsTensors F) := []

/-- The prompt tokens that can be scored, each with the hidden state before it. -/
def PromptRecord.scorable {H F : Type} (record : PromptRecord H F) : List (Int × H) :=
  record.prompt.tail.zip (record.hidden.map Prod.snd)

abbrev PromptLedger (H F : Type) := ReqId → Option (PromptRecord H F)

section

variable {H F : Type}

def NewPrompt.record (request : NewPrompt) : PromptRecord H F where
  prompt := request.promptTokenIds
  promptLogprobs := request.promptLogprobs
  seq := ⟨request.prefillTokenIds, request.prefillTokenIds.length, request.numComputedTokens⟩

def BatchLayout.rowHidden (layout : BatchLayout) (buffers : InputBuffers) (hiddenStates : Nat → H) (row : Nat) :
    List (Nat × H) :=
  (List.range (layout.queryLen row)).map fun offset =>
    (buffers.positions (layout.queryStartLoc row + offset), hiddenStates (layout.queryStartLoc row + offset))

def PromptLedger.stepped (ledger : PromptLedger H F) (layout : BatchLayout) (reqIds : List ReqId)
    (buffers : InputBuffers) (hiddenStates : Nat → H) (next : Nat → Sequence)
    (returned : PyDict ReqId (LogprobsTensors F)) : PromptLedger H F := fun reqId =>
  (ledger reqId).map fun record =>
    { record with
      seq := (reqIds.idxOf? reqId).elim record.seq next
      hidden := record.hidden ++ (reqIds.idxOf? reqId).elim [] (layout.rowHidden buffers hiddenStates)
      results := record.results ++ (returned.get? reqId).toList }

/-- The requests that are added: the prompt begins the prefill, which fits a slot, prompt logprobs
are as many as may be asked for, and a prompt that needs them is computed from its first token. -/
structure NewPrompt.Admissible (scoring : PromptScoring H F) (maxModelLen : Nat) (request : NewPrompt) : Prop where
  isPrefix : request.promptTokenIds <+: request.prefillTokenIds
  incomplete : request.numComputedTokens < request.prefillTokenIds.length
  room : request.prefillTokenIds.length ≤ maxModelLen
  allowed : ∀ num, request.promptLogprobs = some num → scoring.allows num = true
  fromStart : request.promptLogprobs.isSome = true → request.promptTokenIds.length = request.prefillTokenIds.length →
    request.numComputedTokens = 0

/-- A step: a batch of requests with slots, each of which takes a turn. The scheduler's count of
computed tokens is exact in a prefill, and past it never below it. -/
structure PromptStep (maxModelLen numSpeculativeSteps : Nat) (runner : PromptRunner F) (ledger : PromptLedger H F)
    (layout : BatchLayout) (reqIds : List ReqId) (buffers : InputBuffers) (result : SamplerResult)
    (after : DeviceStates) (next : Nat → Sequence) (tokenIds : Buffer Nat Int) : Prop where
  step : RunnerStep maxModelLen numSpeculativeSteps layout runner.states buffers result after
  rows : reqIds.length = layout.numReqs
  mapped : ∀ (i : Nat) (reqId : ReqId), reqIds[i]? = some reqId →
    runner.slots.reqIdToIndex.get? reqId = some (layout.idxMapping i)
  takes : ∀ (i : Nat) (reqId : ReqId) (record : PromptRecord H F), reqIds[i]? = some reqId →
    ledger reqId = some record → record.seq.Takes numSpeculativeSteps (layout.turn runner.states result i) (next i)
  mirrored : ∀ i < layout.numReqs,
    if runner.states.numComputedTokens (layout.idxMapping i) < runner.states.prefillLen (layout.idxMapping i) then
      runner.numComputedTokensNp (layout.idxMapping i) = runner.states.numComputedTokens (layout.idxMapping i)
    else runner.states.prefillLen (layout.idxMapping i) ≤ runner.numComputedTokensNp (layout.idxMapping i)
  fetched : ∃ before, Launched (List.range layout.numReqs) (layout.promptTokenIdStores runner.states) before tokenIds

variable [LE F] [DecidableLE F] [Bot F]

/-- The runs of the runner, in any order of its events. -/
inductive PromptRuns (scoring : PromptScoring H F) (maxNumReqs maxModelLen numSpeculativeSteps : Nat) :
    PromptRunner F → PromptLedger H F → Prop
  | init (states : DeviceStates) :
      PromptRuns scoring maxNumReqs maxModelLen numSpeculativeSteps (.init maxNumReqs states) fun _ => none
  | removed {runner ledger} (run : PromptRuns scoring maxNumReqs maxModelLen numSpeculativeSteps runner ledger)
      (reqId : ReqId) :
      PromptRuns scoring maxNumReqs maxModelLen numSpeculativeSteps (runner.removeRequest reqId)
        (Function.update ledger reqId none)
  | added {runner ledger} (run : PromptRuns scoring maxNumReqs maxModelLen numSpeculativeSteps runner ledger)
      {request : NewPrompt} {next : PromptRunner F} (admissible : request.Admissible scoring maxModelLen)
      (ran : runner.addRequest maxModelLen request = .ok next) :
      PromptRuns scoring maxNumReqs maxModelLen numSpeculativeSteps next
        (Function.update ledger request.reqId (some request.record))
  | updated {runner ledger} (run : PromptRuns scoring maxNumReqs maxModelLen numSpeculativeSteps runner ledger)
      {cached : ReqId × Nat} {next : PromptRunner F} (ran : runner.updateRequest cached = .ok next) :
      PromptRuns scoring maxNumReqs maxModelLen numSpeculativeSteps next ledger
  | drafted {runner ledger} (run : PromptRuns scoring maxNumReqs maxModelLen numSpeculativeSteps runner ledger)
      (draftTokens : Nat → Nat → Int) :
      PromptRuns scoring maxNumReqs maxModelLen numSpeculativeSteps
        { runner with states := { runner.states with draftTokens } } ledger
  | stepped {runner ledger} (run : PromptRuns scoring maxNumReqs maxModelLen numSpeculativeSteps runner ledger)
      {layout : BatchLayout} {reqIds : List ReqId} {buffers : InputBuffers} {result : SamplerResult}
      {after : DeviceStates} {next : Nat → Sequence} {tokenIds : Buffer Nat Int} (hiddenStates : Nat → H)
      (step : PromptStep maxModelLen numSpeculativeSteps runner ledger layout reqIds buffers result after next tokenIds)
      {returned : PyDict ReqId (LogprobsTensors F)} {worker : PromptLogprobsWorker F}
      (ran : runner.worker.computePromptLogprobs scoring hiddenStates (runner.inputBatch layout reqIds) tokenIds
        runner.promptLens = .ok (returned, worker)) :
      PromptRuns scoring maxNumReqs maxModelLen numSpeculativeSteps { runner with states := after, worker }
        (ledger.stepped layout reqIds buffers hiddenStates next returned)

/-- What a request was returned: nothing until its prompt is complete and one answer from then on, in
which the row of each position scores the next token of the prompt; and nothing at all if it did
not ask, or was resumed behind its prompt. -/
structure PromptRecord.Answered (scoring : PromptScoring H F) (record : PromptRecord H F) : Prop where
  idle : record.promptLogprobs = none ∨ record.prompt.length < record.seq.prefillLen → record.results = []
  waiting : record.prompt.length = record.seq.prefillLen → record.seq.numComputed < record.prompt.length →
    record.results = []
  answered : ∀ num, record.promptLogprobs = some num → record.prompt.length = record.seq.prefillLen →
    2 ≤ record.prompt.length → record.prompt.length ≤ record.seq.numComputed →
    ∃ tensors, record.results = [tensors] ∧ tensors.logprobTokenIds.length = record.prompt.length - 1 ∧
      (record.hidden.map Prod.fst).take record.prompt.length = List.range record.prompt.length ∧
      scoring.Scores (scoring.ownCount num) record.scorable tensors

/-! ## The invariant -/

/-- A request whose prompt is scored: its rows are in progress until the prompt is complete, and
then they are returned. -/
structure PromptRecord.Progresses (scoring : PromptScoring H F) (num : Int)
    (inProgress : Option (List (LogprobsTensors F))) (record : PromptRecord H F) : Prop where
  inPrompt : record.seq.numComputed < record.prompt.length →
    record.hidden.map Prod.fst = List.range record.seq.numComputed ∧ record.results = [] ∧
      ∃ list, inProgress = some list ∧ scoring.Scores (scoring.ownCount num) record.scorable (.cat list)
  complete : record.prompt.length ≤ record.seq.numComputed →
    (∃ later, record.hidden.map Prod.fst = List.range record.prompt.length ++ later) ∧
      (2 ≤ record.prompt.length →
        ∃ tensors, record.results = [tensors] ∧ scoring.Scores (scoring.ownCount num) record.scorable tensors)

/-- A request that holds a slot, as the runner knows it. -/
structure PromptRunner.Holds (scoring : PromptScoring H F) (maxModelLen : Nat) (runner : PromptRunner F)
    (reqId : ReqId) (slot : Nat) (record : PromptRecord H F) : Prop where
  tracks : ∃ cache, Tracks maxModelLen slot runner.states cache record.seq
  promptLen : runner.promptLens slot = record.prompt.length
  isPrefix : record.prompt <+: record.seq.tokens
  within : record.prompt.length ≤ record.seq.prefillLen
  uses : runner.worker.usesPromptLogprobs slot = record.promptLogprobs.isSome
  num : runner.worker.numPromptLogprobs slot = record.promptLogprobs.getD 0
  allowed : ∀ num, record.promptLogprobs = some num → scoring.allows num = true
  idle : record.promptLogprobs = none ∨ record.prompt.length < record.seq.prefillLen → record.results = []
  progresses : ∀ num, record.promptLogprobs = some num → record.prompt.length = record.seq.prefillLen →
    record.Progresses scoring num (runner.worker.inProgressPromptLogprobs.get? reqId)

/-- The slots are in order, and the requests with slots are those on record. -/
structure PromptRunner.Keeps (scoring : PromptScoring H F) (maxNumReqs maxModelLen : Nat) (runner : PromptRunner F)
    (ledger : PromptLedger H F) : Prop where
  consistent : runner.slots.Consistent maxNumReqs
  held : ∀ reqId slot, runner.slots.reqIdToIndex.get? reqId = some slot →
    ∃ record, ledger reqId = some record ∧ runner.Holds scoring maxModelLen reqId slot record
  free : ∀ reqId, runner.slots.reqIdToIndex.get? reqId = none → ledger reqId = none

variable {scoring : PromptScoring H F} {maxNumReqs maxModelLen numSpeculativeSteps : Nat}
  {runner next : PromptRunner F} {ledger : PromptLedger H F} {reqId : ReqId} {slot : Nat} {record : PromptRecord H F}

theorem zip_append_right {α β : Type} (left : List α) (front back : List β) :
    left.zip (front ++ back) = left.zip front ++ (left.drop front.length).zip back := by
  induction front generalizing left with
  | nil => simp
  | cons first rest ih =>
    cases left with
    | nil => simp
    | cons item others => simp [ih]

theorem PromptRunner.Holds.answered (holds : runner.Holds scoring maxModelLen reqId slot record) :
    record.Answered scoring where
  idle := holds.idle
  waiting isFresh inPrompt := by
    cases asks : record.promptLogprobs with
    | none => exact holds.idle (Or.inl asks)
    | some num => exact ((holds.progresses num asks isFresh).inPrompt inPrompt).2.1
  answered num asks isFresh some_row complete := by
    obtain ⟨⟨later, positions⟩, returned⟩ := (holds.progresses num asks isFresh).complete complete
    obtain ⟨tensors, isReturned, scores⟩ := returned some_row
    have enough : record.prompt.length ≤ record.hidden.length := by
      have isLength := congrArg List.length positions
      rw [length_map, length_append, length_range] at isLength
      omega
    refine ⟨tensors, isReturned, ?_, ?_, scores⟩
    · rw [scores.lengthIds, PromptRecord.scorable, length_zip, length_tail, length_map]
      omega
    · rw [positions, take_left' length_range]

/-! ## The events that compute nothing -/

theorem PromptRunner.Holds.kept (holds : runner.Holds scoring maxModelLen reqId slot record)
    (tracks : ∃ cache, Tracks maxModelLen slot next.states cache record.seq)
    (promptLen : next.promptLens slot = runner.promptLens slot)
    (uses : next.worker.usesPromptLogprobs slot = runner.worker.usesPromptLogprobs slot)
    (num : next.worker.numPromptLogprobs slot = runner.worker.numPromptLogprobs slot)
    (inProgress : next.worker.inProgressPromptLogprobs.get? reqId = runner.worker.inProgressPromptLogprobs.get? reqId) :
    next.Holds scoring maxModelLen reqId slot record where
  tracks := tracks
  promptLen := promptLen.trans holds.promptLen
  isPrefix := holds.isPrefix
  within := holds.within
  uses := uses.trans holds.uses
  num := num.trans holds.num
  allowed := holds.allowed
  idle := holds.idle
  progresses := by
    rw [inProgress]
    exact holds.progresses

theorem PromptRunner.Keeps.init (maxNumReqs : Nat) (states : DeviceStates) :
    (PromptRunner.init maxNumReqs states).Keeps scoring maxNumReqs maxModelLen fun _ => none where
  consistent := RequestState.init_consistent maxNumReqs
  held _ _ isHeld := by cases isHeld
  free _ _ := rfl

theorem PromptRunner.Keeps.removed (keeps : runner.Keeps scoring maxNumReqs maxModelLen ledger) (reqId : ReqId) :
    (runner.removeRequest reqId).Keeps scoring maxNumReqs maxModelLen (update ledger reqId none) := by
  obtain ⟨states, promptLens, uses, num, inProgress⟩ := runner.removeRequest_frame reqId
  refine ⟨?_, ?_, ?_⟩
  · rw [removeRequest_slots]
    exact keeps.consistent.removeRequest reqId
  · intro other slot isHeld
    rw [removeRequest_slots, RequestState.removeRequest_get?] at isHeld
    split at isHeld
    next => cases isHeld
    next differ =>
      obtain ⟨record, onRecord, holds⟩ := keeps.held other slot isHeld
      refine ⟨record, (update_of_ne differ _ _).trans onRecord, ?_⟩
      apply holds.kept
      · rw [states]
        exact holds.tracks
      · rw [promptLens]
      · rw [uses]
      · rw [num]
      · exact inProgress other differ
  · intro other isFree
    rw [removeRequest_slots, RequestState.removeRequest_get?] at isFree
    by_cases same : other = reqId
    · rw [same, update_self]
    · rw [if_neg same] at isFree
      rw [update_of_ne same]
      exact keeps.free other isFree

theorem NewPrompt.Admissible.holds {request : NewPrompt} (admissible : request.Admissible scoring maxModelLen)
    (states : DeviceStates) (promptLens numComputedTokensNp : Buffer Nat Nat) (worker : PromptLogprobsWorker F)
    (slots : RequestState) (slot : Nat) :
    (PromptRunner.mk slots (states.addRequest maxModelLen slot request.prefillTokenIds request.numComputedTokens)
      (update promptLens slot request.promptTokenIds.length) numComputedTokensNp
      (worker.addRequest request.reqId slot request.promptLogprobs)).Holds scoring maxModelLen request.reqId slot
        request.record where
  tracks := ⟨_, Tracks.enter admissible.incomplete admissible.room⟩
  promptLen := update_self _ _ _
  isPrefix := admissible.isPrefix
  within := admissible.isPrefix.length_le
  uses := update_self _ _ _
  num := update_self _ _ _
  allowed := admissible.allowed
  idle _ := rfl
  progresses := by
    intro num asks isFresh
    have isAsked : request.promptLogprobs.isSome = true := by
      rw [show request.promptLogprobs = some num from asks]
      rfl
    have fromStart := admissible.fromStart isAsked isFresh
    have incomplete := admissible.incomplete
    refine ⟨fun _ => ⟨?_, rfl, [], ?_, ?_⟩, fun complete => ?_⟩
    · show [] = List.range request.numComputedTokens
      rw [fromStart]
      rfl
    · show (if _ then _ else _ : PyDict ReqId (List (LogprobsTensors F))).get? request.reqId = _
      rw [if_pos isAsked, PyDict.get?_set_self]
    · rw [PromptRecord.scorable]
      show scoring.Scores _ (request.promptTokenIds.tail.zip []) _
      rw [zip_nil_right]
      exact PromptScoring.Scores.nil _
    · have complete : request.promptTokenIds.length ≤ request.numComputedTokens := complete
      have isFresh : request.promptTokenIds.length = request.prefillTokenIds.length := isFresh
      omega

section

variable (keeps : runner.Keeps scoring maxNumReqs maxModelLen ledger)

include keeps

theorem PromptRunner.Keeps.added {request : NewPrompt}
    (admissible : request.Admissible scoring maxModelLen) (ran : runner.addRequest maxModelLen request = .ok next) :
    next.Keeps scoring maxNumReqs maxModelLen (update ledger request.reqId (some request.record)) := by
  obtain ⟨slots, reqIdx, added, found, rfl⟩ := addRequest_eq ran
  have removed := keeps.removed request.reqId
  have consistent : slots.Consistent maxNumReqs := by
    rw [removeRequest_slots] at added
    exact keeps.consistent.addNewRequest added
  have stays : ∀ other, other ≠ request.reqId →
      slots.reqIdToIndex.get? other = (runner.removeRequest request.reqId).slots.reqIdToIndex.get? other :=
    fun other differ => RequestState.addRequest_get? added differ
  refine ⟨consistent, ?_, ?_⟩
  · intro other slot isHeld
    by_cases same : other = request.reqId
    · subst same
      have isSlot : reqIdx = slot := Option.some.inj (found.symm.trans isHeld)
      subst isSlot
      exact ⟨_, update_self _ _ _, admissible.holds _ _ _ _ _ _⟩
    · have otherSlot : slot ≠ reqIdx := by
        rintro rfl
        exact same (consistent.injective isHeld found)
      obtain ⟨record, onRecord, holds⟩ := removed.held other slot ((stays other same).symm.trans isHeld)
      rw [update_of_ne same] at onRecord ⊢
      refine ⟨record, onRecord, ?_⟩
      obtain ⟨states, promptLens, -⟩ := runner.removeRequest_frame request.reqId
      apply holds.kept
      · obtain ⟨cache, tracks⟩ := holds.tracks
        rw [states] at tracks
        exact ⟨cache, tracks.otherEnters otherSlot.symm admissible.room⟩
      · rw [promptLens]
        exact update_of_ne otherSlot _ _
      · exact update_of_ne otherSlot _ _
      · exact update_of_ne otherSlot _ _
      · show (if _ then _ else _ : PyDict ReqId (List (LogprobsTensors F))).get? other = _
        split
        next => exact PyDict.get?_set_of_ne _ _ same
        next => rfl
  · intro other isFree
    by_cases same : other = request.reqId
    · rw [same, found] at isFree
      cases isFree
    · rw [update_of_ne same]
      have wasFree := removed.free other ((stays other same).symm.trans isFree)
      rwa [update_of_ne same] at wasFree

theorem PromptRunner.Keeps.updated {cached : ReqId × Nat}
    (ran : runner.updateRequest cached = .ok next) : next.Keeps scoring maxNumReqs maxModelLen ledger := by
  rw [updateRequest] at ran
  split at ran
  next => cases ran
  next =>
    cases ran
    refine ⟨keeps.consistent, ?_, keeps.free⟩
    intro reqId slot isHeld
    obtain ⟨record, onRecord, holds⟩ := keeps.held reqId slot isHeld
    exact ⟨record, onRecord, holds.kept holds.tracks rfl rfl rfl rfl⟩

theorem PromptRunner.Keeps.drafted (draftTokens : Nat → Nat → Int) :
    PromptRunner.Keeps scoring maxNumReqs maxModelLen
      { runner with states := { runner.states with draftTokens } } ledger := by
  refine ⟨keeps.consistent, ?_, keeps.free⟩
  intro reqId slot isHeld
  obtain ⟨record, onRecord, holds⟩ := keeps.held reqId slot isHeld
  obtain ⟨cache, tracks⟩ := holds.tracks
  exact ⟨record, onRecord, holds.kept ⟨cache, tracks.drafted draftTokens⟩ rfl rfl rfl rfl⟩

end

/-! ## A step -/

/-- A turn keeps the length of the prefill; in a prefill it computes its query and does not pass the
end, and after it it stays behind the end. -/
theorem Sequence.Takes.moves {seq following : Sequence} {turn : Turn}
    (takes : seq.Takes numSpeculativeSteps turn following) :
    following.prefillLen = seq.prefillLen ∧
      (seq.numComputed < seq.prefillLen →
        following.numComputed = seq.numComputed + turn.queryLen ∧ following.numComputed ≤ seq.prefillLen) ∧
      (seq.prefillLen ≤ seq.numComputed → seq.prefillLen ≤ following.numComputed) := by
  cases takes with
  | chunk positive within noDrafts =>
    refine ⟨rfl, fun _ => ⟨rfl, within.le⟩, fun complete => ?_⟩
    exact complete.trans (Nat.le_add_right _ _)
  | prefilled token positive reaches noDrafts isSampled =>
    exact ⟨rfl, fun _ => ⟨reaches.symm, le_rfl⟩, fun _ => le_rfl⟩
  | decode accepted token complete isQuery bounded isPrefix isSampled =>
    refine ⟨rfl, fun incomplete => absurd complete (not_le.mpr incomplete), fun _ => ?_⟩
    exact complete.trans (Nat.le_add_right _ _)

section

variable {layout : BatchLayout} {reqIds : List ReqId} {buffers : InputBuffers} {result : SamplerResult}
  {after : DeviceStates} {following : Nat → Sequence} {tokenIds : Buffer Nat Int} {hiddenStates : Nat → H} {i : Nat}

omit [LE F] [DecidableLE F] [Bot F] in
theorem PromptStep.distinct
    (step : PromptStep maxModelLen numSpeculativeSteps runner ledger layout reqIds buffers result after following
      tokenIds) : reqIds.Nodup := by
  rw [nodup_iff_getElem?_ne_getElem?]
  intro first second below inRange same
  have isFirst := getElem?_eq_getElem (below.trans inRange)
  have isSecond := getElem?_eq_getElem inRange
  have sameSlot : layout.idxMapping first = layout.idxMapping second := by
    have firstSlot := step.mapped first _ isFirst
    rw [same, isSecond] at isFirst
    rw [← Option.some.inj isFirst, step.mapped second _ isSecond] at firstSlot
    exact (Option.some.inj firstSlot).symm
  rw [step.rows] at inRange
  exact absurd (step.step.wellFormed.distinct first (below.trans inRange) second inRange sameSlot) below.ne

theorem PromptStep.request
    (step : PromptStep maxModelLen numSpeculativeSteps runner ledger layout reqIds buffers result after following
      tokenIds) (keeps : runner.Keeps scoring maxNumReqs maxModelLen ledger) (inBatch : i < layout.numReqs) :
    ∃ reqId record, reqIds[i]? = some reqId ∧ ledger reqId = some record ∧
      runner.Holds scoring maxModelLen reqId (layout.idxMapping i) record := by
  have isRow := getElem?_eq_getElem (l := reqIds) (i := i) (step.rows ▸ inBatch)
  obtain ⟨record, onRecord, holds⟩ := keeps.held _ _ (step.mapped i _ isRow)
  exact ⟨_, record, isRow, onRecord, holds⟩

variable
  (step : PromptStep maxModelLen numSpeculativeSteps runner ledger layout reqIds buffers result after following
    tokenIds) (inBatch : i < layout.numReqs)
  (holds : runner.Holds scoring maxModelLen reqId (layout.idxMapping i) record)

include step inBatch holds

theorem PromptRunner.Holds.needs_iff :
    runner.worker.needs (runner.inputBatch layout reqIds) runner.promptLens i = true ↔
      record.promptLogprobs.isSome = true ∧ record.seq.numComputed < record.prompt.length ∧
        record.prompt.length = record.seq.prefillLen := by
  obtain ⟨cache, tracks⟩ := holds.tracks
  have mirrored := step.mirrored i inBatch
  have within := holds.within
  rw [tracks.numComputed, tracks.prefillLen] at mirrored
  rw [needs, Bool.and_eq_true_iff, Bool.and_eq_true_iff, Bool.not_eq_true', decide_eq_true_iff,
    decide_eq_false_iff_not]
  show runner.worker.usesPromptLogprobs (layout.idxMapping i) = true ∧
    min (runner.numComputedTokensNp (layout.idxMapping i)) (runner.states.prefillLen (layout.idxMapping i)) <
      runner.promptLens (layout.idxMapping i) ∧
    ¬runner.promptLens (layout.idxMapping i) < runner.states.prefillLen (layout.idxMapping i) ↔ _
  rw [holds.uses, holds.promptLen, tracks.prefillLen]
  split at mirrored
  next inPrefill =>
    rw [mirrored]
    constructor
    · rintro ⟨asks, inPrompt, notResumed⟩
      exact ⟨asks, by omega, by omega⟩
    · rintro ⟨asks, inPrompt, isFresh⟩
      exact ⟨asks, by omega, by omega⟩
  next past =>
    constructor
    · rintro ⟨asks, inPrompt, notResumed⟩
      omega
    · rintro ⟨asks, inPrompt, isFresh⟩
      omega

theorem PromptRunner.Holds.chunked_iff (inPrefill : record.seq.numComputed < record.seq.prefillLen) :
    isPromptChunked (runner.inputBatch layout reqIds) runner.promptLens i = true ↔
      record.seq.numComputed + layout.queryLen i < record.prompt.length := by
  obtain ⟨cache, tracks⟩ := holds.tracks
  have mirrored := step.mirrored i inBatch
  rw [tracks.numComputed, tracks.prefillLen, if_pos inPrefill] at mirrored
  rw [isPromptChunked, decide_eq_true_iff]
  show min (runner.numComputedTokensNp (layout.idxMapping i)) (runner.states.prefillLen (layout.idxMapping i)) +
    layout.queryLen i < runner.promptLens (layout.idxMapping i) ↔ _
  rw [mirrored, holds.promptLen, tracks.prefillLen, min_eq_left inPrefill.le]

theorem PromptRunner.Holds.ownTokens_eq (inPrompt : record.seq.numComputed < record.prompt.length)
    (isFresh : record.prompt.length = record.seq.prefillLen)
    (within : record.seq.numComputed + layout.queryLen i ≤ record.prompt.length) :
    ownTokens (runner.inputBatch layout reqIds) runner.promptLens tokenIds hiddenStates i =
      (record.prompt.tail.drop record.seq.numComputed).zip
        ((layout.rowHidden buffers hiddenStates i).map Prod.snd) := by
  obtain ⟨cache, tracks⟩ := holds.tracks
  obtain ⟨before, fetched⟩ := step.fetched
  have isChunked := holds.chunked_iff step inBatch (isFresh ▸ inPrompt)
  have isLength : ownLength (runner.inputBatch layout reqIds) runner.promptLens i =
      min (record.prompt.length - 1 - record.seq.numComputed) (layout.queryLen i) := by
    rw [ownLength]
    split
    next chunked =>
      have inside := isChunked.mp chunked
      show layout.queryLen i = _
      omega
    next notChunked =>
      have reaches : ¬ _ := fun inside => notChunked (isChunked.mpr inside)
      show layout.queryLen i - 1 = _
      omega
  rw [ownTokens, isLength, BatchLayout.rowHidden, map_map]
  apply ext_getElem
  · rw [length_map, length_range, length_zip, length_drop, length_tail, length_map,
      length_range]
  · intro offset inOwn _
    rw [length_map, length_range, lt_min_iff] at inOwn
    have isTarget := target_eq step.step.wellFormed fetched inBatch inOwn.2
    have isPosition : record.seq.numComputed + 1 + offset = record.seq.numComputed + offset + 1 := by omega
    have inPromptTokens : record.seq.numComputed + offset + 1 < record.prompt.length := by omega
    have isToken := tracks.tokens _ (inPromptTokens.trans_le holds.isPrefix.length_le)
    rw [getElem?_eq_getElem (inPromptTokens.trans_le holds.isPrefix.length_le),
      ← holds.isPrefix.getElem inPromptTokens] at isToken
    rw [step.step.stride, tracks.numComputed, isPosition, ← Option.some.inj isToken] at isTarget
    rw [getElem_map, getElem_range, getElem_zip, getElem_drop, getElem_tail, getElem_map,
      getElem_range]
    exact Prod.ext isTarget rfl

theorem PromptRunner.Holds.rowHidden_positions
    (takes : record.seq.Takes numSpeculativeSteps (layout.turn runner.states result i) (following i)) :
    (layout.rowHidden buffers hiddenStates i).map Prod.fst =
      (List.range (layout.queryLen i)).map (record.seq.numComputed + ·) := by
  obtain ⟨cache, tracks⟩ := holds.tracks
  have feeds := tracks.feeds step.step inBatch rfl takes
  rw [BatchLayout.rowHidden, map_map]
  apply map_congr_left
  intro offset inRange
  exact feeds.position offset (mem_range.mp inRange)

omit inBatch holds in
theorem PromptStep.returns (keeps : runner.Keeps scoring maxNumReqs maxModelLen ledger) (hiddenStates : Nat → H) :
    ∃ returned worker, runner.worker.computePromptLogprobs scoring hiddenStates (runner.inputBatch layout reqIds)
        tokenIds runner.promptLens = .ok (returned, worker) ∧
      runner.worker.Returns scoring (runner.inputBatch layout reqIds) runner.promptLens tokenIds hiddenStates
        returned worker := by
  apply computePromptLogprobs_returns step.step.wellFormed step.rows step.distinct
  · intro i inBatch needs
    obtain ⟨reqId, record, -, -, holds⟩ := step.request keeps inBatch
    obtain ⟨asks, -, -⟩ := (holds.needs_iff step inBatch).mp needs
    obtain ⟨num, isNum⟩ := Option.isSome_iff_exists.mp asks
    show scoring.allows (runner.worker.numPromptLogprobs (layout.idxMapping i)) = true
    rw [holds.num, isNum]
    exact holds.allowed num isNum
  · intro i reqId isRow needs
    obtain ⟨record, -, holds⟩ := keeps.held reqId _ (step.mapped i reqId isRow)
    obtain ⟨inRange, -⟩ := List.getElem?_eq_some_iff.mp isRow
    obtain ⟨asks, inPrompt, isFresh⟩ := (holds.needs_iff step (step.rows ▸ inRange)).mp needs
    obtain ⟨num, isNum⟩ := Option.isSome_iff_exists.mp asks
    obtain ⟨-, -, list, isList, -⟩ := (holds.progresses num isNum isFresh).inPrompt inPrompt
    exact ⟨list, isList⟩

variable {returned : PyDict ReqId (LogprobsTensors F)} {worker : PromptLogprobsWorker F}
  (returns : runner.worker.Returns scoring (runner.inputBatch layout reqIds) runner.promptLens tokenIds hiddenStates
    returned worker)

include returns

/-- A request whose row needs no prompt logprobs is returned none and keeps what is in progress. -/
theorem PromptRunner.Holds.notNeeded (isRow : reqIds[i]? = some reqId)
    (notNeeded : ¬(record.promptLogprobs.isSome = true ∧ record.seq.numComputed < record.prompt.length ∧
      record.prompt.length = record.seq.prefillLen)) :
    worker.inProgressPromptLogprobs.get? reqId = runner.worker.inProgressPromptLogprobs.get? reqId ∧
      returned.get? reqId = none := by
  apply returns.untouched
  intro other isOther
  have inRange : i < reqIds.length := step.rows ▸ inBatch
  obtain rfl := (getElem?_inj inRange step.distinct).mp (isRow.trans isOther.symm)
  rw [← holds.needs_iff step inBatch, Bool.not_eq_true] at notNeeded
  exact notNeeded

/-- A turn of a request in its prompt puts its rows behind those in progress, and at the end of the
prompt they are returned. -/
theorem PromptRunner.Holds.progressed {num : Int} (isRow : reqIds[i]? = some reqId)
    (takes : record.seq.Takes numSpeculativeSteps (layout.turn runner.states result i) (following i))
    (asks : record.promptLogprobs = some num) (isFresh : record.prompt.length = record.seq.prefillLen)
    (inPrompt : record.seq.numComputed < record.prompt.length) :
    PromptRecord.Progresses scoring num (worker.inProgressPromptLogprobs.get? reqId)
      { record with
        seq := following i
        hidden := record.hidden ++ layout.rowHidden buffers hiddenStates i
        results := record.results ++ (returned.get? reqId).toList } := by
  obtain ⟨positions, noResult, list, isList, scores⟩ := (holds.progresses num asks isFresh).inPrompt inPrompt
  obtain ⟨-, inPrefill, -⟩ := takes.moves
  obtain ⟨isNext, within⟩ := inPrefill (isFresh ▸ inPrompt)
  have isNext : (following i).numComputed = record.seq.numComputed + layout.queryLen i := isNext
  have needs := (holds.needs_iff step inBatch).mpr ⟨asks ▸ rfl, inPrompt, isFresh⟩
  obtain ⟨own, ownScores, inProgress, isReturned⟩ := returns.merged i reqId list isRow needs isList
  have isLength : (record.hidden.map Prod.snd).length = record.seq.numComputed := by
    have sameLength := congrArg List.length positions
    rwa [length_map, length_range, ← length_map Prod.snd] at sameLength
  have isNum : runner.worker.numPromptLogprobs (layout.idxMapping i) = num := by
    rw [holds.num, asks]
    rfl
  have ownScores : scoring.Scores (scoring.ownCount num) _ (.cat own.toList) := isNum ▸ ownScores
  rw [holds.ownTokens_eq step inBatch inPrompt isFresh (by omega)] at ownScores
  have nextPositions : (record.hidden ++ layout.rowHidden buffers hiddenStates i).map Prod.fst =
      List.range (record.seq.numComputed + layout.queryLen i) := by
    rw [map_append, positions, holds.rowHidden_positions step inBatch takes, ← range_add]
  have nextScorable : record.scorable ++ (record.prompt.tail.drop record.seq.numComputed).zip
      ((layout.rowHidden buffers hiddenStates i).map Prod.snd) =
      record.prompt.tail.zip ((record.hidden ++ layout.rowHidden buffers hiddenStates i).map Prod.snd) := by
    rw [map_append, zip_append_right, isLength]
    rfl
  have chunked := holds.chunked_iff step inBatch (isFresh ▸ inPrompt)
  refine ⟨fun stillInPrompt => ?_, fun complete => ?_⟩
  · have stillInPrompt : (following i).numComputed < record.prompt.length := stillInPrompt
    rw [chunked.mpr (isNext ▸ stillInPrompt)] at inProgress isReturned
    obtain ⟨noReturn, merged⟩ := merge_chunked scores ownScores
    rw [nextScorable] at merged
    refine ⟨?_, ?_, _, inProgress, merged⟩
    · show _ = List.range (following i).numComputed
      rw [isNext, nextPositions]
    · show record.results ++ (returned.get? reqId).toList = []
      rw [noResult, isReturned, noReturn]
      rfl
  · have complete : record.prompt.length ≤ (following i).numComputed := complete
    have isEnd : record.seq.numComputed + layout.queryLen i = record.prompt.length := by omega
    refine ⟨⟨[], ?_⟩, fun some_row => ?_⟩
    · show (record.hidden ++ layout.rowHidden buffers hiddenStates i).map Prod.fst = _ ++ []
      rw [nextPositions, isEnd, append_nil]
    · have notChunked : isPromptChunked (runner.inputBatch layout reqIds) runner.promptLens i =
          false := by
        rw [← Bool.not_eq_true, chunked]
        omega
      rw [notChunked] at isReturned
      have some_row : 2 ≤ record.prompt.length := some_row
      obtain ⟨tensors, isTensors, merged⟩ := merge_last scores ownScores (by
        have nextLength := congrArg List.length nextPositions
        rw [length_map, length_range] at nextLength
        rw [nextScorable, length_zip, length_tail, length_map]
        omega)
      rw [nextScorable] at merged
      refine ⟨tensors, ?_, merged⟩
      rw [noResult, isReturned, isTensors]
      rfl

theorem PromptRunner.Holds.turned (isRow : reqIds[i]? = some reqId)
    (takes : record.seq.Takes numSpeculativeSteps (layout.turn runner.states result i) (following i)) :
    PromptRunner.Holds scoring maxModelLen { runner with states := after, worker } reqId (layout.idxMapping i)
      { record with
        seq := following i
        hidden := record.hidden ++ layout.rowHidden buffers hiddenStates i
        results := record.results ++ (returned.get? reqId).toList } := by
  obtain ⟨cache, tracks⟩ := holds.tracks
  obtain ⟨samePrefill, -, past⟩ := takes.moves
  refine ⟨⟨_, tracks.turned step.step inBatch rfl takes⟩, holds.promptLen, holds.isPrefix.trans takes.isPrefix,
    holds.within.trans_eq samePrefill.symm, ?_, ?_, holds.allowed, ?_, ?_⟩
  · show worker.usesPromptLogprobs _ = _
    rw [returns.uses]
    exact holds.uses
  · show worker.numPromptLogprobs _ = _
    rw [returns.num]
    exact holds.num
  · intro isIdle
    have isIdle : record.promptLogprobs = none ∨ record.prompt.length < record.seq.prefillLen := samePrefill ▸ isIdle
    have noReturn := (holds.notNeeded step inBatch returns isRow (by
      rintro ⟨asks, -, isFresh⟩
      rcases isIdle with asksNot | resumed
      · rw [asksNot] at asks
        cases asks
      · omega)).2
    rw [holds.idle isIdle, noReturn]
    rfl
  · intro num asks isFresh
    have isFresh : record.prompt.length = record.seq.prefillLen := samePrefill ▸ isFresh
    rcases Nat.lt_or_ge record.seq.numComputed record.prompt.length with inPrompt | complete
    · exact holds.progressed step inBatch returns isRow takes asks isFresh inPrompt
    · obtain ⟨⟨later, positions⟩, isReturned⟩ := (holds.progresses num asks isFresh).complete complete
      have noReturn := (holds.notNeeded step inBatch returns isRow fun needed =>
        absurd complete (not_le.mpr needed.2.1)).2
      have enough : record.prompt.tail.length ≤ (record.hidden.map Prod.snd).length := by
        have isLength := congrArg List.length positions
        rw [length_map, length_append, length_range] at isLength
        rw [length_tail, length_map]
        omega
      have sameScorable : record.prompt.tail.zip
          ((record.hidden ++ layout.rowHidden buffers hiddenStates i).map Prod.snd) = record.scorable := by
        rw [map_append, zip_append_right, drop_of_length_le enough, zip_nil_left, append_nil]
        rfl
      refine ⟨fun inPrompt => ?_, fun _ => ⟨⟨later ++ (layout.rowHidden buffers hiddenStates i).map Prod.fst, ?_⟩, ?_⟩⟩
      · have inPrompt : (following i).numComputed < record.prompt.length := inPrompt
        omega
      · show (record.hidden ++ layout.rowHidden buffers hiddenStates i).map Prod.fst = _
        rw [map_append, positions, append_assoc]
      · intro some_row
        obtain ⟨tensors, isTensors, scores⟩ := isReturned some_row
        refine ⟨tensors, ?_, ?_⟩
        · show record.results ++ (returned.get? reqId).toList = [tensors]
          rw [isTensors, noReturn]
          rfl
        · show scoring.Scores _ (record.prompt.tail.zip _) _
          rw [sameScorable]
          exact scores

omit inBatch holds in
theorem PromptRunner.Holds.passed (consistent : runner.slots.Consistent maxNumReqs)
    (isHeld : runner.slots.reqIdToIndex.get? reqId = some slot)
    (holds : runner.Holds scoring maxModelLen reqId slot record) (notInBatch : reqId ∉ reqIds) :
    PromptRunner.Holds scoring maxModelLen { runner with states := after, worker } reqId slot record ∧
      returned.get? reqId = none := by
  have untouched := returns.untouched reqId fun i isRow => absurd (mem_of_getElem? isRow) notInBatch
  refine ⟨?_, untouched.2⟩
  obtain ⟨cache, tracks⟩ := holds.tracks
  apply holds.kept
  · refine ⟨cache, tracks.otherStep step.step ?_⟩
    rintro row inBatch rfl
    have isRow := getElem?_eq_getElem (l := reqIds) (i := row) (step.rows ▸ inBatch)
    have isOwner := consistent.injective isHeld (step.mapped row _ isRow)
    exact notInBatch (isOwner ▸ mem_of_getElem? isRow)
  · rfl
  · exact congrFun returns.uses slot
  · exact congrFun returns.num slot
  · exact untouched.1

omit inBatch holds in
theorem PromptRunner.Keeps.stepped (keeps : runner.Keeps scoring maxNumReqs maxModelLen ledger) :
    PromptRunner.Keeps scoring maxNumReqs maxModelLen { runner with states := after, worker }
      (ledger.stepped layout reqIds buffers hiddenStates following returned) := by
  refine ⟨keeps.consistent, ?_, ?_⟩
  · intro reqId slot isHeld
    obtain ⟨record, onRecord, holds⟩ := keeps.held reqId slot isHeld
    cases isRow : reqIds.idxOf? reqId with
    | none =>
      obtain ⟨kept, noReturn⟩ := holds.passed step returns keeps.consistent isHeld (idxOf?_eq_none_iff.mp isRow)
      refine ⟨record, ?_, kept⟩
      rw [PromptLedger.stepped, onRecord, isRow, noReturn]
      simp
    | some i =>
      obtain ⟨inRange, isReq, -⟩ := idxOf?_eq_some_iff.mp isRow
      have isRow' : reqIds[i]? = some reqId := isReq ▸ getElem?_eq_getElem inRange
      obtain rfl : layout.idxMapping i = slot := Option.some.inj ((step.mapped i reqId isRow').symm.trans isHeld)
      have takes := step.takes i reqId record isRow' onRecord
      refine ⟨_, ?_, holds.turned step (step.rows ▸ inRange) returns isRow' takes⟩
      rw [PromptLedger.stepped, onRecord, isRow]
      rfl
  · intro reqId isFree
    rw [PromptLedger.stepped, keeps.free reqId isFree]
    rfl

end

/-! ## Runs -/

theorem PromptRuns.keeps (run : PromptRuns scoring maxNumReqs maxModelLen numSpeculativeSteps runner ledger) :
    runner.Keeps scoring maxNumReqs maxModelLen ledger := by
  induction run with
  | init states => exact .init maxNumReqs states
  | removed _ reqId ih => exact ih.removed reqId
  | added _ admissible ran ih => exact ih.added admissible ran
  | updated _ ran ih => exact ih.updated ran
  | drafted _ draftTokens ih => exact ih.drafted draftTokens
  | stepped _ hiddenStates step ran ih =>
    obtain ⟨_, _, computed, returns⟩ := step.returns ih hiddenStates
    obtain ⟨rfl, rfl⟩ := (Prod.mk.injEq _ _ _ _).mp (Except.ok.inj (computed.symm.trans ran))
    exact ih.stepped step returns

end

/-- A model with one token, whose logprob is 0 whatever its logit. -/
private def oneTokenScoring : PromptScoring Nat Nat where
  vocabSize := 1
  maxLogprobs := 1
  logitsFn hiddenStates := hiddenStates.map fun hidden _ => hidden
  logits hidden _ := hidden
  topk _ count := List.replicate count 0
  logSoftmax row logit := logit - row 0
  maxWithin := le_refl _
  rowwise _ := rfl
  length_topk _ _ _ := length_replicate

private def twoTokenPrompt : NewPrompt := ⟨0, [0, 0], [0, 0], 0, some 1⟩

private theorem oneToken_step {runner : PromptRunner Nat} {ledger : PromptLedger Nat Nat}
    {record : PromptRecord Nat Nat} (run : PromptRuns oneTokenScoring 1 8 1 runner ledger)
    (isHeld : runner.slots.reqIdToIndex.get? 0 = some 0) (onRecord : ledger 0 = some record)
    (room : record.seq.tokens.length + 1 ≤ 8)
    (inPrefill : record.seq.numComputed < record.seq.prefillLen)
    (mirrored : runner.numComputedTokensNp 0 = record.seq.numComputed) {following : Sequence}
    (takes : record.seq.Takes 1 ⟨1, [], [0]⟩ following) :
    ∃ buffers after tokenIds, PromptStep 8 1 runner ledger (oneRow 1) [0] buffers ⟨fun _ _ => 0, fun _ => 1⟩ after
      (fun _ => following) tokenIds := by
  obtain ⟨held, isHeldRecord, holds⟩ := run.keeps.held 0 0 isHeld
  obtain rfl := Option.some.inj (isHeldRecord.symm.trans onRecord)
  obtain ⟨cache, tracks⟩ := holds.tracks
  have fits : runner.states.totalLen 0 + 1 ≤ 8 := tracks.totalLen ▸ room
  obtain ⟨buffers, after, step⟩ := oneRow_step ⟨fun _ _ => 0, fun _ => 1⟩ Nat.one_pos fits
  refine ⟨buffers, after, _, step, rfl, ?_, ?_, ?_, fun _ => 0, launched_launch _ _ _⟩
  · intro i reqId isRow
    obtain ⟨inRange, rfl⟩ := List.getElem?_eq_some_iff.mp isRow
    obtain rfl := Nat.lt_one_iff.mp inRange
    exact isHeld
  · intro i reqId record isRow isRecord
    obtain ⟨inRange, rfl⟩ := List.getElem?_eq_some_iff.mp isRow
    obtain rfl := Nat.lt_one_iff.mp inRange
    obtain rfl := Option.some.inj (isRecord.symm.trans onRecord)
    exact takes
  · intro i _
    show if runner.states.numComputedTokens 0 < runner.states.prefillLen 0 then
      runner.numComputedTokensNp 0 = runner.states.numComputedTokens 0 else _
    rw [tracks.numComputed, tracks.prefillLen, if_pos inPrefill]
    exact mirrored

end DeepSpark
