import DeepSpark.StructuredOutput.Advance
import DeepSpark.Scheduler.Accounting

/-!
The grammar of a request against the end of its reasoning.

Owns what one output feeds the grammar, the outputs for which that is what follows the end
token, and that in runs of such outputs the grammar is fed what follows the first end token.
An output with more tokens after the end token loses them for good.
-/

namespace DeepSpark

open Lib Relation

variable {manager : StructuredOutputManager} {endTokenId : TokenId}
  (hasReasoner : manager.endTokenId = some endTokenId) (notInReasoning : manager.enableInReasoning = false)

/-- The tokens `should_advance` looks at. -/
def Request.delta (request : Request) : List TokenId := request.allTokenIds.drop (deltaStart request)

def contentTokenIds (endTokenId : TokenId) (endedAtStart : Bool) (outputTokenIds : List TokenId) : List TokenId :=
  if endedAtStart then outputTokenIds else afterFirst endTokenId outputTokenIds

def advancesAtEnd (manager : StructuredOutputManager) (structured : StructuredOutputRequest) : Bool :=
  manager.hasSpeculativeConfig && structured.requestType = .structuralTag

/-! ## One output -/

theorem findReasoningEndIndex_of_mem {allTokenIds : List TokenId} {start : Nat} (isIn : endTokenId ∈ allTokenIds.drop start) :
    findReasoningEndIndex endTokenId allTokenIds start = start + (allTokenIds.drop start).idxOf endTokenId := by
  have found : (allTokenIds.drop start).findIdx? (fun token => isReasoningEndStreaming endTokenId [token]) =
      some ((allTokenIds.drop start).idxOf endTokenId) := by
    have sameTest : (fun token => isReasoningEndStreaming endTokenId [token]) = fun token => token == endTokenId := by
      funext token
      simp [isReasoningEndStreaming, eq_comm, BEq.beq]
    rw [sameTest]
    exact List.findIdx?_eq_some_of_exists ⟨endTokenId, isIn, beq_self_eq_true _⟩
  rw [findReasoningEndIndex, found]

theorem findReasoningEndIndex_inside (endTokenId : TokenId) (allTokenIds : List TokenId) (start : Nat) :
    findReasoningEndIndex endTokenId allTokenIds start + 1 ≤ allTokenIds.length := by
  rw [findReasoningEndIndex]
  split
  next offset isFound =>
    have inside := (List.findIdx?_eq_some_iff_getElem.mp isFound).1
    rw [List.length_drop] at inside
    omega
  next => omega

section Manager

variable {request : Request} (isStructured : request.useStructuredOutput = true) {structured : StructuredOutputRequest}

include hasReasoner notInReasoning isStructured

theorem shouldAdvance_ended (ended : structured.reasoningEnded = some true) :
    manager.shouldAdvance request structured = (true, structured) := by
  simp [StructuredOutputManager.shouldAdvance, isStructured, hasReasoner, notInReasoning, ended]

theorem shouldAdvance_notInDelta (notEnded : structured.reasoningEnded ≠ some true) (notIn : endTokenId ∉ request.delta) :
    manager.shouldAdvance request structured = (false, structured) := by
  have noEnd : isReasoningEndStreaming endTokenId (request.allTokenIds.drop (deltaStart request)) = false :=
    decide_eq_false notIn
  simp [StructuredOutputManager.shouldAdvance, isStructured, hasReasoner, notInReasoning, notEnded, noEnd]

theorem shouldAdvance_inDelta (notEnded : structured.reasoningEnded ≠ some true) (isIn : endTokenId ∈ request.delta) :
    manager.shouldAdvance request structured =
      if advancesAtEnd manager structured then (true, { structured with
        reasoningEnded := some true
        reasoningEndTokenIndex := some (findReasoningEndIndex endTokenId request.allTokenIds (deltaStart request)) })
      else (false, { structured with reasoningEnded := some true }) := by
  have isEnd : isReasoningEndStreaming endTokenId (request.allTokenIds.drop (deltaStart request)) = true :=
    decide_eq_true isIn
  simp [StructuredOutputManager.shouldAdvance, isStructured, hasReasoner, notInReasoning, notEnded, isEnd, advancesAtEnd]

end Manager

section

variable {request : Request} {newTokenIds : List TokenId} {before : List TokenId}
  (isAll : request.allTokenIds = before ++ newTokenIds)

include isAll

theorem trimReasoningForAdvance_behind {structured : StructuredOutputRequest}
    (inside : ∀ endIdx, structured.reasoningEndTokenIndex = some endIdx → endIdx + 1 ≤ before.length) :
    trimReasoningForAdvance structured request newTokenIds = newTokenIds := by
  unfold trimReasoningForAdvance
  split
  next => rfl
  next endIdx isIndex =>
    have isBehind := inside endIdx isIndex
    rw [isAll, List.length_append]
    exact if_pos (by omega)

theorem trimReasoningForAdvance_here {structured : StructuredOutputRequest}
    (isIn : endTokenId ∈ newTokenIds)
    (isIndex : structured.reasoningEndTokenIndex = some ((before.length + newTokenIds.idxOf endTokenId : Nat) : Int)) :
    trimReasoningForAdvance structured request newTokenIds = afterFirst endTokenId newTokenIds := by
  obtain ⟨reasoning, content, rfl, notBefore⟩ := List.eq_append_cons_of_mem isIn
  have isAt : (reasoning ++ endTokenId :: content).idxOf endTokenId = reasoning.length := by
    rw [List.idxOf_append_of_notMem notBefore, List.idxOf_cons_self, Nat.add_zero]
  rw [isAt] at isIndex
  have isFirst : (request.allTokenIds.length : Int) - (reasoning ++ endTokenId :: content).length = before.length := by
    rw [isAll, List.length_append]
    omega
  have isCount : ((before.length + reasoning.length : Nat) : Int) + 1 - before.length = (reasoning.length + 1 : Nat) := by
    omega
  rw [trimReasoningForAdvance, isIndex, afterFirst_of_split notBefore]
  dsimp only
  rw [isFirst, isCount, if_neg (by omega), Int.toNat_natCast, ← List.drop_drop, List.drop_left]
  rfl

end

/-- What `should_advance` answers decides what is fed. -/
theorem advanceTokenIds_eq {request : Request} {structured after : StructuredOutputRequest} {newTokenIds : List TokenId}
    (nonempty : newTokenIds ≠ []) {advances : Bool} (answers : manager.shouldAdvance request structured = (advances, after)) :
    manager.advanceTokenIds request structured newTokenIds =
      (if advances then trimReasoningForAdvance after request newTokenIds else [], after) := by
  have notEmpty : newTokenIds.isEmpty = false := List.isEmpty_eq_false_iff.mpr nonempty
  rw [StructuredOutputManager.advanceTokenIds, notEmpty, answers]
  cases advances <;> rfl

theorem advanceTokenIds_nil (manager : StructuredOutputManager) (request : Request) (structured : StructuredOutputRequest) :
    manager.advanceTokenIds request structured [] = ([], structured) := rfl

section Advance

variable {request : Request} (isStructured : request.useStructuredOutput = true) {structured : StructuredOutputRequest}
  {before newTokenIds : List TokenId} (isAll : request.allTokenIds = before ++ newTokenIds)

/-- The end token is in the delta when it is in the output; and it is the last token of the
output or, where the grammar is advanced at once, its first occurrence in the delta is that
in the output. -/
def CleanDelta (manager : StructuredOutputManager) (endTokenId : TokenId) (structured : StructuredOutputRequest)
    (request : Request) (newTokenIds : List TokenId) : Prop :=
  (endTokenId ∈ request.delta ↔ endTokenId ∈ newTokenIds) ∧
  (endTokenId ∈ newTokenIds →
    if advancesAtEnd manager structured then
      deltaStart request + request.delta.idxOf endTokenId + newTokenIds.length =
        request.allTokenIds.length + newTokenIds.idxOf endTokenId
    else newTokenIds.idxOf endTokenId + 1 = newTokenIds.length)

instance (manager : StructuredOutputManager) (endTokenId : TokenId) (structured : StructuredOutputRequest)
    (request : Request) (newTokenIds : List TokenId) :
    Decidable (CleanDelta manager endTokenId structured request newTokenIds) :=
  inferInstanceAs (Decidable ((_ ↔ _) ∧ (_ → ite _ _ _)))

include hasReasoner notInReasoning isStructured isAll

theorem advanceTokenIds_ended (ended : structured.reasoningEnded = some true)
    (inside : ∀ endIdx, structured.reasoningEndTokenIndex = some endIdx → endIdx + 1 ≤ before.length) :
    manager.advanceTokenIds request structured newTokenIds = (newTokenIds, structured) := by
  by_cases isEmpty : newTokenIds = []
  · rw [isEmpty, advanceTokenIds_nil]
  · rw [advanceTokenIds_eq isEmpty (shouldAdvance_ended hasReasoner notInReasoning isStructured ended), if_pos rfl,
      trimReasoningForAdvance_behind isAll inside]

theorem advanceTokenIds_clean (notEnded : structured.reasoningEnded = some false)
    (clean : CleanDelta manager endTokenId structured request newTokenIds) :
    (manager.advanceTokenIds request structured newTokenIds).1 = afterFirst endTokenId newTokenIds ∧
    (manager.advanceTokenIds request structured newTokenIds).2.reasoningEnded = some (decide (endTokenId ∈ newTokenIds)) := by
  have isOpen : structured.reasoningEnded ≠ some true := by
    rw [notEnded]
    exact fun same => Bool.noConfusion (Option.some.inj same)
  by_cases isIn : endTokenId ∈ newTokenIds
  · have isClean := clean.2 isIn
    have nonempty := List.ne_nil_of_mem isIn
    have answers := shouldAdvance_inDelta hasReasoner notInReasoning isStructured isOpen (clean.1.mpr isIn)
    rw [decide_eq_true isIn]
    cases atEnd : advancesAtEnd manager structured with
    | true =>
      rw [atEnd, if_pos rfl] at isClean answers
      rw [isAll, List.length_append] at isClean
      have isHere : deltaStart request + request.delta.idxOf endTokenId =
          before.length + newTokenIds.idxOf endTokenId := by omega
      obtain ⟨after, advances, ended, isIndex⟩ : ∃ after, manager.shouldAdvance request structured = (true, after) ∧
          after.reasoningEnded = some true ∧
          after.reasoningEndTokenIndex = some ((before.length + newTokenIds.idxOf endTokenId : Nat) : Int) := by
        refine ⟨_, answers, rfl, ?_⟩
        rw [← isHere]
        exact congrArg some (findReasoningEndIndex_of_mem (clean.1.mpr isIn))
      rw [advanceTokenIds_eq nonempty advances, if_pos rfl]
      exact ⟨trimReasoningForAdvance_here isAll isIn isIndex, ended⟩
    | false =>
      rw [atEnd, if_neg Bool.false_ne_true] at isClean answers
      rw [advanceTokenIds_eq nonempty answers, if_neg Bool.false_ne_true]
      obtain ⟨reasoning, content, rfl, notBefore⟩ := List.eq_append_cons_of_mem isIn
      rw [List.idxOf_append_of_notMem notBefore, List.idxOf_cons_self, List.length_append, List.length_cons] at isClean
      rw [afterFirst_of_split notBefore]
      exact ⟨(List.eq_nil_of_length_eq_zero (by omega)).symm, rfl⟩
  · rw [afterFirst_of_notMem isIn, decide_eq_false isIn]
    by_cases isEmpty : newTokenIds = []
    · subst isEmpty
      exact ⟨rfl, notEnded⟩
    · rw [advanceTokenIds_eq isEmpty (shouldAdvance_notInDelta hasReasoner notInReasoning isStructured isOpen
        (isIn ∘ clean.1.mp))]
      exact ⟨rfl, notEnded⟩

end Advance

theorem trimReasoningForAdvance_length_le (structured : StructuredOutputRequest) (request : Request)
    (newTokenIds : List TokenId) : (trimReasoningForAdvance structured request newTokenIds).length ≤ newTokenIds.length := by
  unfold trimReasoningForAdvance
  split
  next => exact Nat.le_refl _
  next =>
    dsimp only
    split
    next => exact Nat.le_refl _
    next =>
      rw [List.length_drop]
      exact Nat.sub_le _ _

theorem advanceTokenIds_length_le (manager : StructuredOutputManager) (request : Request)
    (structured : StructuredOutputRequest) (newTokenIds : List TokenId) :
    (manager.advanceTokenIds request structured newTokenIds).1.length ≤ newTokenIds.length := by
  by_cases isEmpty : newTokenIds = []
  · subst isEmpty
    exact Nat.le_refl _
  · obtain ⟨⟨advances, after⟩, answers⟩ : ∃ answer, manager.shouldAdvance request structured = answer := ⟨_, rfl⟩
    rw [advanceTokenIds_eq isEmpty answers]
    cases advances with
    | true => exact trimReasoningForAdvance_length_le ..
    | false => exact Nat.zero_le _

namespace GrammarRun

variable {K : Type} {env : Collaborators K} {config : SchedulerConfig} {endsForPrompt : Bool} {id : ReqId}
  {state next : GrammarRun K} {newTokenIds : List TokenId}

def request (id : ReqId) (state : GrammarRun K) : Request := state.scheduler.request id

/-! ## One step -/

structure Fed (manager : StructuredOutputManager) (id : ReqId) (state : GrammarRun K) (newTokenIds : List TokenId)
    (next : GrammarRun K) : Prop where
  tokens : (next.request id).allTokenIds = (state.request id).allTokenIds ++ newTokenIds
  use : (next.request id).useStructuredOutput = (state.request id).useStructuredOutput
  structured : next.structured = (manager.advanceTokenIds (next.request id) state.structured newTokenIds).2
  outputs : next.outputs.flatten = state.outputs.flatten ++ newTokenIds
  accepted : next.accepted.flatten =
    state.accepted.flatten ++ (manager.advanceTokenIds (next.request id) state.structured newTokenIds).1

theorem updateRequestWithOutput_tokens {self next : Scheduler K} {generatedTokenIds : List TokenId} {stopped : Bool}
    (ran : self.updateRequestWithOutput env config id generatedTokenIds = .ok (newTokenIds, stopped, next)) :
    (next.request id).allTokenIds = (self.request id).allTokenIds ++ newTokenIds ∧
      (next.request id).useStructuredOutput = (self.request id).useStructuredOutput := by
  rcases Scheduler.updateRequestWithOutput_appended ran with ⟨_, _, none, _, record⟩ | ⟨updated, spec, _, record⟩
  · rw [record, none, List.append_nil]
    exact ⟨rfl, rfl⟩
  · obtain ⟨blockHashes, status, isUpdated⟩ := spec.record
    rw [record, isUpdated]
    exact ⟨rfl, rfl⟩

theorem beforeOutput_tokens (self : Scheduler K) (scheduled : SchedulerOutput) (output : ModelRunnerOutput) (id : ReqId) :
    ((self.beforeOutput env config scheduled output id).request id).allTokenIds = (self.request id).allTokenIds ∧
      ((self.beforeOutput env config scheduled output id).request id).useStructuredOutput =
        (self.request id).useStructuredOutput := by
  obtain ⟨_, _, isRejected⟩ := @Scheduler.rejectDrafts_frame config
    ((scheduled.scheduledSpecDecodeTokens.get? id).getD []) (output.sampledTokenIds id) (self.request id)
  rw [Scheduler.beforeOutput_request, isRejected]
  exact ⟨rfl, rfl⟩

theorem OutputStep.fed (step : OutputStep env config manager endsForPrompt id state newTokenIds next) :
    Fed manager id state newTokenIds next ∧
      (manager.shouldFillBitmask endsForPrompt state.structured).2 = state.structured := by
  cases step with
  | output rejects unfinished isFilled nonempty ran =>
    rename_i scheduled modelOutput stopped updated
    refine ⟨?_, isFilled⟩
    have before := @beforeOutput_tokens K env config state.scheduler scheduled modelOutput id
    have after := updateRequestWithOutput_tokens ran
    rw [before.1, before.2] at after
    -- a rejection changes the status only
    have sameAdvance : manager.advanceTokenIds ((state.afterOutput manager id updated newTokenIds rejects).request id)
        state.structured newTokenIds = manager.advanceTokenIds (updated.request id) state.structured newTokenIds ∧
        ((state.afterOutput manager id updated newTokenIds rejects).request id).allTokenIds =
          (updated.request id).allTokenIds ∧
        ((state.afterOutput manager id updated newTokenIds rejects).request id).useStructuredOutput =
          (updated.request id).useStructuredOutput := by
      unfold GrammarRun.request afterOutput
      dsimp only
      split
      next =>
        rw [Scheduler.modifyRequest_self]
        exact ⟨rfl, rfl, rfl⟩
      next => exact ⟨rfl, rfl, rfl⟩
    refine ⟨sameAdvance.2.1.trans after.1, sameAdvance.2.2.trans after.2, ?_, ?_, ?_⟩
    · rw [sameAdvance.1]
      rfl
    · show (state.outputs ++ [newTokenIds]).flatten = _
      rw [List.flatten_append, List.flatten_singleton]
    · rw [sameAdvance.1]
      show (if (manager.advanceTokenIds (updated.request id) state.structured newTokenIds).1.isEmpty then state.accepted
        else state.accepted ++ [(manager.advanceTokenIds (updated.request id) state.structured newTokenIds).1]).flatten = _
      split
      next isEmpty => rw [List.isEmpty_iff.mp isEmpty, List.append_nil]
      next => rw [List.flatten_append, List.flatten_singleton]

/-- An output that feeds the grammar what follows the end token, or comes after the end. -/
inductive CleanStep (env : Collaborators K) (config : SchedulerConfig) (manager : StructuredOutputManager)
    (endTokenId : TokenId) (endsForPrompt : Bool) (id : ReqId) (state next : GrammarRun K) : Prop
  | output (newTokenIds : List TokenId) (step : OutputStep env config manager endsForPrompt id state newTokenIds next)
      (clean : state.structured.reasoningEnded = some false →
        CleanDelta manager endTokenId state.structured (next.request id) newTokenIds)
  | draftTokens (asks : next = state.askDraftTokens manager id)
      (clean : state.structured.reasoningEnded ≠ some true → endTokenId ∉ (state.request id).delta)
  | quiet (step : QuietStep manager endsForPrompt id state next)

structure Sound (endedAtStart endsForPrompt : Bool) (id : ReqId) (state : GrammarRun K) : Prop where
  use : (state.request id).useStructuredOutput = true
  inside : ∀ endIdx, state.structured.reasoningEndTokenIndex = some endIdx →
    endIdx + 1 ≤ (state.request id).allTokenIds.length
  notEnded : state.structured.reasoningEnded ≠ some true → state.accepted.flatten = []
  isOpen : state.structured.reasoningEnded = some false → endedAtStart = false
  unfilled : state.structured.reasoningEnded = none → endedAtStart = endsForPrompt

structure Follows (endTokenId : TokenId) (endedAtStart : Bool) (state : GrammarRun K) : Prop where
  fed : state.accepted.flatten = contentTokenIds endTokenId endedAtStart state.outputs.flatten
  unfilled : state.structured.reasoningEnded = none → state.outputs.flatten = []
  notYet : state.structured.reasoningEnded = some false → endTokenId ∉ state.outputs.flatten
  ended : state.structured.reasoningEnded = some true → endedAtStart = false → endTokenId ∈ state.outputs.flatten

theorem advanceTokenIds_structured (manager : StructuredOutputManager) (request : Request) (structured : StructuredOutputRequest)
    (newTokenIds : List TokenId) :
    (manager.advanceTokenIds request structured newTokenIds).2 = structured ∨
    (manager.advanceTokenIds request structured newTokenIds).2 = (manager.shouldAdvance request structured).2 := by
  by_cases isEmpty : newTokenIds = []
  · rw [isEmpty, advanceTokenIds_nil]
    exact .inl rfl
  · rw [advanceTokenIds_eq isEmpty rfl]
    exact .inr rfl

section Steps

include hasReasoner notInReasoning

theorem shouldAdvance_cases {request : Request} (isStructured : request.useStructuredOutput = true)
    (structured : StructuredOutputRequest) :
    (manager.shouldAdvance request structured).2 = structured ∨
    structured.reasoningEnded ≠ some true ∧ endTokenId ∈ request.delta ∧
      (manager.shouldAdvance request structured).2.reasoningEnded = some true ∧
      (manager.shouldAdvance request structured).1 = advancesAtEnd manager structured ∧
      ∀ endIdx, (manager.shouldAdvance request structured).2.reasoningEndTokenIndex = some endIdx →
        structured.reasoningEndTokenIndex = some endIdx ∨ endIdx + 1 ≤ request.allTokenIds.length := by
  by_cases ended : structured.reasoningEnded = some true
  · rw [shouldAdvance_ended hasReasoner notInReasoning isStructured ended]
    exact .inl rfl
  · by_cases isIn : endTokenId ∈ request.delta
    · right
      rw [shouldAdvance_inDelta hasReasoner notInReasoning isStructured ended isIn]
      cases advancesAtEnd manager structured with
      | true =>
        refine ⟨ended, isIn, rfl, rfl, fun endIdx isIndex => .inr ?_⟩
        cases isIndex
        exact findReasoningEndIndex_inside ..
      | false => exact ⟨ended, isIn, rfl, rfl, fun endIdx isIndex => .inl isIndex⟩
    · rw [shouldAdvance_notInDelta hasReasoner notInReasoning isStructured ended isIn]
      exact .inl rfl

theorem shouldFillBitmask_eq (endsForPrompt : Bool) (structured : StructuredOutputRequest) :
    (manager.shouldFillBitmask endsForPrompt structured).2 =
      { structured with reasoningEnded := some (structured.reasoningEnded.getD endsForPrompt) } := by
  simp [StructuredOutputManager.shouldFillBitmask, hasReasoner, notInReasoning]

theorem filled_of_shouldFillBitmask {structured : StructuredOutputRequest}
    (isFilled : (manager.shouldFillBitmask endsForPrompt structured).2 = structured) :
    structured.reasoningEnded = some (structured.reasoningEnded.getD endsForPrompt) := by
  rw [shouldFillBitmask_eq hasReasoner notInReasoning] at isFilled
  exact (congrArg StructuredOutputRequest.reasoningEnded isFilled).symm

variable {endedAtStart : Bool}

theorem Sound.advance (sound : state.Sound endedAtStart endsForPrompt id) {request : Request}
    (isStructured : request.useStructuredOutput = true)
    (grows : (state.request id).allTokenIds.length ≤ request.allTokenIds.length) :
    (∀ endIdx, (manager.shouldAdvance request state.structured).2.reasoningEndTokenIndex = some endIdx →
      endIdx + 1 ≤ request.allTokenIds.length) ∧
    ((manager.shouldAdvance request state.structured).2.reasoningEnded = state.structured.reasoningEnded ∨
      (manager.shouldAdvance request state.structured).2.reasoningEnded = some true) := by
  rcases shouldAdvance_cases hasReasoner notInReasoning isStructured state.structured with
    same | ⟨_, _, ended, _, isIndex⟩
  · rw [same]
    exact ⟨fun endIdx isAt => Int.le_trans (sound.inside endIdx isAt) (by omega), .inl rfl⟩
  · refine ⟨fun endIdx isAt => ?_, .inr ended⟩
    rcases isIndex endIdx isAt with before | inside
    · exact Int.le_trans (sound.inside endIdx before) (by omega)
    · exact inside

theorem Sound.askDraftTokens (sound : state.Sound endedAtStart endsForPrompt id) :
    (state.askDraftTokens manager id).Sound endedAtStart endsForPrompt id := by
  obtain ⟨inside, same | ended⟩ := sound.advance hasReasoner notInReasoning sound.use (Nat.le_refl _)
  · exact ⟨sound.use, inside, fun notEnded => sound.notEnded (same ▸ notEnded), fun isOpen => sound.isOpen (same ▸ isOpen),
      fun isNone => sound.unfilled (same ▸ isNone)⟩
  · refine ⟨sound.use, inside, fun notEnded => absurd ended notEnded, fun isOpen => ?_, fun isNone => ?_⟩
    · exact Bool.noConfusion (Option.some.inj (ended.symm.trans isOpen))
    · exact nomatch ended.symm.trans isNone

theorem advanceTokenIds_notEnded {request : Request} (isStructured : request.useStructuredOutput = true)
    {structured : StructuredOutputRequest}
    (notEnded : (manager.advanceTokenIds request structured newTokenIds).2.reasoningEnded ≠ some true) :
    manager.advanceTokenIds request structured newTokenIds = ([], structured) := by
  by_cases isEmpty : newTokenIds = []
  · rw [isEmpty, advanceTokenIds_nil]
  · by_cases ended : structured.reasoningEnded = some true
    · rw [advanceTokenIds_eq isEmpty (shouldAdvance_ended hasReasoner notInReasoning isStructured ended)] at notEnded
      exact absurd ended notEnded
    · by_cases isIn : endTokenId ∈ request.delta
      · have answers := shouldAdvance_inDelta hasReasoner notInReasoning isStructured ended isIn
        cases atEnd : advancesAtEnd manager structured <;> rw [atEnd] at answers <;>
          exact absurd rfl (advanceTokenIds_eq isEmpty answers ▸ notEnded)
      · rw [advanceTokenIds_eq isEmpty (shouldAdvance_notInDelta hasReasoner notInReasoning isStructured ended isIn)]
        rfl

theorem Sound.fed (sound : state.Sound endedAtStart endsForPrompt id) (fed : Fed manager id state newTokenIds next) :
    next.Sound endedAtStart endsForPrompt id := by
  have use : (next.request id).useStructuredOutput = true := fed.use.trans sound.use
  have grows : (state.request id).allTokenIds.length ≤ (next.request id).allTokenIds.length := by
    rw [fed.tokens, List.length_append]
    exact Nat.le_add_right _ _
  have notEnded (isOpen : next.structured.reasoningEnded ≠ some true) : next.structured = state.structured ∧
      next.accepted.flatten = state.accepted.flatten := by
    have nothing := advanceTokenIds_notEnded hasReasoner notInReasoning use (fed.structured ▸ isOpen)
    rw [fed.structured, fed.accepted, nothing, List.append_nil]
    exact ⟨rfl, rfl⟩
  refine ⟨use, fun endIdx isIndex => ?_, fun isOpen => ?_, fun isOpen => ?_, fun isNone => ?_⟩
  · rw [fed.structured] at isIndex
    rcases advanceTokenIds_structured manager (next.request id) state.structured newTokenIds with same | asked
    · rw [same] at isIndex
      exact Int.le_trans (sound.inside endIdx isIndex) (by omega)
    · rw [asked] at isIndex
      exact (sound.advance hasReasoner notInReasoning use grows).1 endIdx isIndex
  · obtain ⟨same, sameAccepted⟩ := notEnded isOpen
    rw [sameAccepted]
    exact sound.notEnded (same ▸ isOpen)
  · obtain ⟨same, _⟩ := notEnded (by simp [isOpen])
    exact sound.isOpen (same ▸ isOpen)
  · obtain ⟨same, _⟩ := notEnded (by simp [isNone])
    exact sound.unfilled (same ▸ isNone)

theorem Sound.quiet (sound : state.Sound endedAtStart endsForPrompt id)
    (step : QuietStep manager endsForPrompt id state next) : next.Sound endedAtStart endsForPrompt id := by
  cases step with
  | fillBitmask =>
    rw [shouldFillBitmask_eq hasReasoner notInReasoning]
    refine ⟨sound.use, sound.inside, fun notEnded => sound.notEnded fun ended => ?_, fun isOpen => ?_, fun isNone => ?_⟩
    · exact notEnded (congrArg some (congrArg (Option.getD · endsForPrompt) ended))
    · cases isEnded : state.structured.reasoningEnded with
      | none =>
        rw [sound.unfilled isEnded]
        exact Option.some.inj ((congrArg (fun ended => some (Option.getD ended endsForPrompt)) isEnded).symm.trans isOpen)
      | some ended =>
        have same := (congrArg (fun ended => some (Option.getD ended endsForPrompt)) isEnded).symm.trans isOpen
        exact sound.isOpen (isEnded.trans same)
    · exact nomatch isNone
  | other sameTokens sameUse =>
    refine ⟨sameUse.trans sound.use, fun endIdx isIndex => ?_, sound.notEnded, sound.isOpen, sound.unfilled⟩
    exact Int.le_trans (sound.inside endIdx isIndex) (Int.le_of_eq (congrArg (fun tokens => (List.length tokens : Int))
      sameTokens.symm))

theorem Sound.step (sound : state.Sound endedAtStart endsForPrompt id)
    (step : Step env config manager endsForPrompt id state next) : next.Sound endedAtStart endsForPrompt id := by
  cases step with
  | output newTokenIds step => exact sound.fed hasReasoner notInReasoning step.fed.1
  | draftTokens asks => exact asks ▸ sound.askDraftTokens hasReasoner notInReasoning
  | quiet step => exact sound.quiet hasReasoner notInReasoning step

/-! ## Runs -/

theorem Follows.afterFed (follows : state.Follows endTokenId endedAtStart)
    (sound : state.Sound endedAtStart endsForPrompt id) (fed : Fed manager id state newTokenIds next)
    (isFilled : (manager.shouldFillBitmask endsForPrompt state.structured).2 = state.structured)
    (clean : state.structured.reasoningEnded = some false →
      CleanDelta manager endTokenId state.structured (next.request id) newTokenIds) :
    next.Follows endTokenId endedAtStart := by
  have use : (next.request id).useStructuredOutput = true := fed.use.trans sound.use
  have isSome := filled_of_shouldFillBitmask hasReasoner notInReasoning isFilled
  cases hasEnded : state.structured.reasoningEnded.getD endsForPrompt with
  | true =>
    rw [hasEnded] at isSome
    have whole := advanceTokenIds_ended hasReasoner notInReasoning use fed.tokens isSome sound.inside
    have same : next.structured = state.structured := by rw [fed.structured, whole]
    constructor
    · rw [fed.accepted, whole, fed.outputs, follows.fed]
      cases endedAtStart with
      | true => rfl
      | false => exact (afterFirst_append_of_mem (follows.ended isSome rfl)).symm
    · rw [same, isSome]
      exact fun isNone => nomatch isNone
    · rw [same, isSome]
      exact fun isOpen => Bool.noConfusion (Option.some.inj isOpen)
    · rw [fed.outputs]
      exact fun _ started => List.mem_append_left _ (follows.ended isSome started)
  | false =>
    rw [hasEnded] at isSome
    have started := sound.isOpen isSome
    have notBefore := follows.notYet isSome
    obtain ⟨isFed, isFlag⟩ := advanceTokenIds_clean hasReasoner notInReasoning use fed.tokens isSome (clean isSome)
    have nothing : state.accepted.flatten = [] := sound.notEnded (by simp [isSome])
    rw [← fed.structured] at isFlag
    constructor
    · rw [fed.accepted, isFed, nothing, fed.outputs, started, List.nil_append]
      exact (afterFirst_append_of_notMem notBefore).symm
    · rw [isFlag]
      exact fun isNone => nomatch isNone
    · rw [isFlag, fed.outputs]
      intro isOpen isIn
      have notHere := of_decide_eq_false (Option.some.inj isOpen)
      exact (List.mem_append.mp isIn).elim notBefore notHere
    · rw [isFlag, fed.outputs]
      exact fun isEnded _ => List.mem_append_right _ (of_decide_eq_true (Option.some.inj isEnded))

theorem Follows.afterQuiet (follows : state.Follows endTokenId endedAtStart)
    (sound : state.Sound endedAtStart endsForPrompt id) (step : QuietStep manager endsForPrompt id state next) :
    next.Follows endTokenId endedAtStart := by
  cases step with
  | fillBitmask =>
    rw [shouldFillBitmask_eq hasReasoner notInReasoning]
    cases isEnded : state.structured.reasoningEnded with
    | none =>
      have noOutputs := follows.unfilled isEnded
      refine ⟨follows.fed, (fun isNone => nomatch isNone), fun _ => ?_, fun ended started => ?_⟩
      · show endTokenId ∉ state.outputs.flatten
        rw [noOutputs]
        exact List.not_mem_nil
      · rw [sound.unfilled isEnded] at started
        exact absurd (Option.some.inj ended) (by simp [started])
    | some ended =>
      refine ⟨follows.fed, (fun isNone => nomatch isNone), fun isOpen => follows.notYet (isEnded.trans isOpen),
        fun hasEnded started => follows.ended (isEnded.trans hasEnded) started⟩
  | other sameTokens sameUse => exact ⟨follows.fed, follows.unfilled, follows.notYet, follows.ended⟩

theorem Follows.step (follows : state.Follows endTokenId endedAtStart)
    (sound : state.Sound endedAtStart endsForPrompt id)
    (step : CleanStep env config manager endTokenId endsForPrompt id state next) :
    next.Follows endTokenId endedAtStart := by
  cases step with
  | output newTokenIds step clean =>
    obtain ⟨fed, isFilled⟩ := step.fed
    exact follows.afterFed hasReasoner notInReasoning sound fed isFilled clean
  | draftTokens asks clean =>
    have same : (manager.shouldAdvance (state.request id) state.structured).2 = state.structured := by
      by_cases ended : state.structured.reasoningEnded = some true
      · rw [shouldAdvance_ended hasReasoner notInReasoning sound.use ended]
      · rw [shouldAdvance_notInDelta hasReasoner notInReasoning sound.use ended (clean ended)]
    have isSame : state.askDraftTokens manager id = state := congrArg (fun structured => { state with structured }) same
    rw [asks, isSame]
    exact follows
  | quiet step => exact follows.afterQuiet hasReasoner notInReasoning sound step

end Steps

theorem CleanStep.toStep (step : CleanStep env config manager endTokenId endsForPrompt id state next) :
    Step env config manager endsForPrompt id state next := by
  cases step with
  | output newTokenIds step clean => exact .output newTokenIds step
  | draftTokens asks clean => exact .draftTokens asks
  | quiet step => exact .quiet step

section Reached

variable {scheduler : Scheduler K} {requestType : StructuredOutputOptions} {reasoningEnded : Option Bool}

theorem start_sound (isStructured : (scheduler.request id).useStructuredOutput = true) :
    (start scheduler requestType reasoningEnded).Sound (reasoningEnded.getD endsForPrompt) endsForPrompt id := by
  refine ⟨isStructured, (fun _ isIndex => nomatch isIndex), fun _ => rfl, fun isOpen => ?_, fun isNone => ?_⟩
  · have isFalse : reasoningEnded = some false := isOpen
    rw [isFalse]
    rfl
  · have isUnset : reasoningEnded = none := isNone
    rw [isUnset]
    rfl

theorem start_follows : (start scheduler requestType reasoningEnded : GrammarRun K).Follows endTokenId
    (reasoningEnded.getD endsForPrompt) := by
  refine ⟨?_, fun _ => rfl, fun _ => List.not_mem_nil, fun ended started => ?_⟩
  · show [] = contentTokenIds endTokenId (reasoningEnded.getD endsForPrompt) []
    cases reasoningEnded.getD endsForPrompt <;> rfl
  · have isEnded : reasoningEnded = some true := ended
    rw [isEnded] at started
    exact Bool.noConfusion started

variable (isStructured : (scheduler.request id).useStructuredOutput = true)

include hasReasoner notInReasoning isStructured

theorem reaches_sound (reached : ReflTransGen (Step env config manager endsForPrompt id)
    (start scheduler requestType reasoningEnded) state) :
    state.Sound (reasoningEnded.getD endsForPrompt) endsForPrompt id := by
  induction reached with
  | refl => exact start_sound isStructured
  | tail _ taken ih => exact ih.step hasReasoner notInReasoning taken

theorem reaches_follows (reached : ReflTransGen (CleanStep env config manager endTokenId endsForPrompt id)
    (start scheduler requestType reasoningEnded) state) : state.Follows endTokenId (reasoningEnded.getD endsForPrompt) := by
  induction reached with
  | refl => exact start_follows
  | tail before taken ih =>
    have sound := reaches_sound hasReasoner notInReasoning isStructured
      (ReflTransGen.mono (fun _ _ clean => CleanStep.toStep clean) _ _ before)
    exact ih.step hasReasoner notInReasoning sound taken

end Reached

/-! ## Tokens that are lost -/

theorem Step.later (step : Step env config manager endsForPrompt id state next) :
    ∃ more, next.outputs.flatten = state.outputs.flatten ++ more ∧
      next.accepted.flatten.length ≤ state.accepted.flatten.length + more.length := by
  cases step with
  | output newTokenIds step =>
    have fed := step.fed.1
    refine ⟨newTokenIds, fed.outputs, ?_⟩
    rw [fed.accepted, List.length_append]
    exact Nat.add_le_add_left (advanceTokenIds_length_le ..) _
  | draftTokens asks =>
    rw [asks]
    exact ⟨[], (List.append_nil _).symm, Nat.le_refl _⟩
  | quiet step => cases step <;> exact ⟨[], (List.append_nil _).symm, Nat.le_refl _⟩

theorem reaches_later (reached : ReflTransGen (Step env config manager endsForPrompt id) state next) :
    ∃ more, next.outputs.flatten = state.outputs.flatten ++ more ∧
      next.accepted.flatten.length ≤ state.accepted.flatten.length + more.length := by
  induction reached with
  | refl => exact ⟨[], (List.append_nil _).symm, Nat.le_refl _⟩
  | tail _ taken ih =>
    obtain ⟨more, outputs, accepted⟩ := ih
    obtain ⟨newTokenIds, newOutputs, newAccepted⟩ := taken.later
    refine ⟨more ++ newTokenIds, by rw [newOutputs, outputs, List.append_assoc], ?_⟩
    rw [List.length_append]
    omega

include hasReasoner notInReasoning in
theorem advanceTokenIds_late {request : Request} (isStructured : request.useStructuredOutput = true)
    {structured : StructuredOutputRequest} (notEnded : structured.reasoningEnded ≠ some true)
    (late : advancesAtEnd manager structured = false ∨ endTokenId ∉ request.delta) :
    (manager.advanceTokenIds request structured newTokenIds).1 = [] := by
  by_cases isEmpty : newTokenIds = []
  · rw [isEmpty, advanceTokenIds_nil]
  · by_cases isIn : endTokenId ∈ request.delta
    · have answers := shouldAdvance_inDelta hasReasoner notInReasoning isStructured notEnded isIn
      rw [late.resolve_right (not_not_intro isIn)] at answers
      rw [advanceTokenIds_eq isEmpty answers]
      rfl
    · rw [advanceTokenIds_eq isEmpty (shouldAdvance_notInDelta hasReasoner notInReasoning isStructured notEnded isIn)]
      rfl

/-- In runs whose outputs have the end token last, or are advanced at once and looked at from
where they begin, the grammar is fed exactly what follows the first end token. Tokens that
follow it in the same output, where that is not advanced at once or does not show it, are never
fed. -/
theorem grammar_fed_content (env : Collaborators K) (config : SchedulerConfig) (manager : StructuredOutputManager)
    (endTokenId : TokenId) (endsForPrompt : Bool) (id : ReqId) (scheduler : Scheduler K)
    (requestType : StructuredOutputOptions) (reasoningEnded : Option Bool) (hasReasoner : manager.endTokenId = some endTokenId)
    (notInReasoning : manager.enableInReasoning = false)
    (isStructured : (scheduler.request id).useStructuredOutput = true) :
    (∀ state, ReflTransGen (CleanStep env config manager endTokenId endsForPrompt id)
        (start scheduler requestType reasoningEnded) state →
      state.accepted.flatten =
        contentTokenIds endTokenId (reasoningEnded.getD endsForPrompt) state.outputs.flatten) ∧
    (∀ state next newTokenIds, ReflTransGen (Step env config manager endsForPrompt id)
        (start scheduler requestType reasoningEnded) state →
      OutputStep env config manager endsForPrompt id state newTokenIds next →
      state.structured.reasoningEnded = some false →
      (advancesAtEnd manager state.structured = false ∨ endTokenId ∉ (next.request id).delta) →
      endTokenId ∈ newTokenIds → afterFirst endTokenId newTokenIds ≠ [] →
      ∀ last, ReflTransGen (Step env config manager endsForPrompt id) next last →
        last.accepted.flatten ≠
          contentTokenIds endTokenId (reasoningEnded.getD endsForPrompt) last.outputs.flatten) := by
  constructor
  · exact fun state reached => (reaches_follows hasReasoner notInReasoning isStructured reached).fed
  · intro state next newTokenIds reached step isOpen late isIn follows last later same
    have sound := reaches_sound hasReasoner notInReasoning isStructured reached
    obtain ⟨fed, _⟩ := step.fed
    have notEnded : state.structured.reasoningEnded ≠ some true := by simp [isOpen]
    have nothing : next.accepted.flatten = [] := by
      rw [fed.accepted, sound.notEnded notEnded, advanceTokenIds_late hasReasoner notInReasoning
        (fed.use.trans sound.use) notEnded late, List.append_nil]
    obtain ⟨more, outputs, accepted⟩ := reaches_later later
    have lost : afterFirst endTokenId (state.outputs.flatten ++ newTokenIds) ≠ [] := by
      by_cases wasIn : endTokenId ∈ state.outputs.flatten
      · rw [afterFirst_append_of_mem wasIn]
        exact List.append_ne_nil_of_right_ne_nil _ (List.ne_nil_of_mem isIn)
      · rwa [afterFirst_append_of_notMem wasIn]
    have isContent : contentTokenIds endTokenId (reasoningEnded.getD endsForPrompt) last.outputs.flatten =
        afterFirst endTokenId (state.outputs.flatten ++ newTokenIds) ++ more := by
      rw [sound.isOpen isOpen, outputs, fed.outputs]
      exact afterFirst_append_of_mem (List.mem_append_right _ isIn)
    rw [isContent] at same
    have sameLength := congrArg List.length same
    rw [List.length_append] at sameLength
    have positive := List.length_pos_of_ne_nil lost
    rw [nothing, List.length_nil] at accepted
    omega

/-! ## Two drafts a step and the end token six -/

def reasoningPrompt : Request := { promptOf 0 [1, 2] with useStructuredOutput := true }

def sixManager : StructuredOutputManager where
  endTokenId := some 6
  enableInReasoning := false
  hasSpeculativeConfig := true

/-- The scheduler with three steps in flight, the last two with two drafts. -/
def threeStepsAhead : Except PyError (System SlotPool) :=
  (System.withSlots 8).run slotPool System.draftConfig [.add reasoningPrompt, .schedule, .schedule, .schedule]

def takeOutput (scheduled : SchedulerOutput) (tokenIds : List TokenId) (state : GrammarRun SlotPool) :
    Except PyError (GrammarRun SlotPool) := do
  let scheduler := state.scheduler.beforeOutput slotPool System.draftConfig scheduled (sampledOutput tokenIds) 0
  let (newTokenIds, _, next) ← scheduler.updateRequestWithOutput slotPool System.draftConfig 0 tokenIds
  .ok (state.afterOutput sixManager 0 next newTokenIds false)

theorem takeOutput_step {scheduled : SchedulerOutput} {tokenIds : List TokenId} {state next : GrammarRun SlotPool}
    {requestType : StructuredOutputOptions} {reasoningEnded : Bool} (taken : takeOutput scheduled tokenIds state = .ok next)
    (unfinished : (state.scheduler.request 0).isFinished = false)
    (isFilled : state.structured = ⟨requestType, some reasoningEnded, none⟩) (nonempty : tokenIds ≠ []) :
    ∃ newTokenIds, OutputStep slotPool System.draftConfig sixManager false 0 state newTokenIds next ∧
      next.outputs = state.outputs ++ [newTokenIds] := by
  obtain ⟨⟨newTokenIds, stopped, updated⟩, ran, isNext⟩ := bind_eq_ok.mp taken
  cases isNext
  refine ⟨newTokenIds, .output false unfinished ?_ nonempty ran, rfl⟩
  rw [isFilled]
  rfl

/-- The grammar is fed the output after the one that ends with the end token. -/
theorem drafts_fed : ∃ (system : System SlotPool) (state : GrammarRun SlotPool), threeStepsAhead = .ok system ∧
    ReflTransGen (CleanStep slotPool System.draftConfig sixManager 6 false 0)
      (start system.scheduler .json none) state ∧ state.outputs = [[5], [7, 6], [8]] ∧ state.accepted.flatten = [8] := by
  obtain ⟨system, first, second, third, state, ended, last, scheduled, isStructured, inFlight, isOpen, isFirst, isSecond,
    isThird, unfinished, stillOpen, clean, cleanEnd, notFinished, isEnded, firstTokens, secondTokens, outputs⟩ :
    ∃ system first second third state ended last, threeStepsAhead = .ok system ∧
      (system.scheduler.request 0).useStructuredOutput = true ∧ system.inFlight = [first, second, third] ∧
      (system.scheduler.request 0).isFinished = false ∧
      takeOutput first [5] (start system.scheduler .json (some false)) = .ok state ∧
      takeOutput second [7, 6] state = .ok ended ∧ takeOutput third [8] ended = .ok last ∧
      (state.scheduler.request 0).isFinished = false ∧ state.structured = ⟨.json, some false, none⟩ ∧
      CleanDelta sixManager 6 ⟨.json, some false, none⟩ (state.request 0) [5] ∧
      CleanDelta sixManager 6 ⟨.json, some false, none⟩ (ended.request 0) [7, 6] ∧
      (ended.scheduler.request 0).isFinished = false ∧ ended.structured = ⟨.json, some true, none⟩ ∧
      state.outputs = [[5]] ∧ ended.outputs = [[5], [7, 6]] ∧ last.outputs = [[5], [7, 6], [8]] :=
    ⟨_, _, _, _, _, _, _, rfl, rfl, rfl, by decide, rfl, rfl, rfl, by decide, by decide, by decide, by decide, by decide,
      by decide, by decide, by decide, by decide⟩
  have filled : CleanStep slotPool System.draftConfig sixManager 6 false 0 (start system.scheduler .json none)
      (start system.scheduler .json (some false)) := .quiet .fillBitmask
  obtain ⟨_, firstStep, isFive⟩ := takeOutput_step isFirst isOpen rfl (by decide)
  obtain ⟨_, secondStep, isEnd⟩ := takeOutput_step isSecond unfinished stillOpen (by decide)
  obtain ⟨_, thirdStep, _⟩ := takeOutput_step isThird notFinished isEnded (by decide)
  rw [firstTokens] at isFive
  rw [firstTokens, secondTokens] at isEnd
  cases isFive
  cases isEnd
  have reached := ((ReflTransGen.single filled).tail (.output [5] firstStep fun _ => clean)).tail
    (.output [7, 6] secondStep fun _ => stillOpen ▸ cleanEnd)
  have after : ReflTransGen (CleanStep slotPool System.draftConfig sixManager 6 false 0)
      (start system.scheduler .json none) last := by
    refine reached.tail (.output _ thirdStep fun isFalse => ?_)
    rw [isEnded] at isFalse
    cases isFalse
  have fed := (grammar_fed_content slotPool System.draftConfig sixManager 6 false 0 system.scheduler .json none rfl rfl
    isStructured).1 last after
  rw [outputs] at fed
  exact ⟨system, last, scheduled, after, outputs, fed⟩

/-- Of the tokens six, seven and eight of one output, the end token is not found and the other
two are not fed. -/
theorem drafts_unfed : ¬ ∀ (system : System SlotPool) (state : GrammarRun SlotPool), threeStepsAhead = .ok system →
    ReflTransGen (Step slotPool System.draftConfig sixManager false 0) (start system.scheduler .json none) state →
    state.accepted.flatten = contentTokenIds 6 false state.outputs.flatten := by
  intro claimed
  obtain ⟨system, first, second, third, state, last, scheduled, inFlight, isOpen, isFirst, isSecond, unfinished, stillOpen,
    nothing, outputs⟩ : ∃ system first second third state last, threeStepsAhead = .ok system ∧
      system.inFlight = [first, second, third] ∧ (system.scheduler.request 0).isFinished = false ∧
      takeOutput first [5] (start system.scheduler .json (some false)) = .ok state ∧
      takeOutput second [6, 7, 8] state = .ok last ∧
      (state.scheduler.request 0).isFinished = false ∧ state.structured = ⟨.json, some false, none⟩ ∧
      last.accepted.flatten = [] ∧ last.outputs = [[5], [6, 7, 8]] :=
    ⟨_, _, _, _, _, _, rfl, rfl, by decide, rfl, rfl, by decide, by decide, by decide, by decide⟩
  have filled : Step slotPool System.draftConfig sixManager false 0 (start system.scheduler .json none)
      (start system.scheduler .json (some false)) := .quiet .fillBitmask
  obtain ⟨_, firstStep, _⟩ := takeOutput_step isFirst isOpen rfl (by decide)
  obtain ⟨_, secondStep, _⟩ := takeOutput_step isSecond unfinished stillOpen (by decide)
  have fed := claimed system last scheduled
    (((ReflTransGen.single filled).tail (.output _ firstStep)).tail (.output _ secondStep))
  rw [nothing, outputs] at fed
  exact absurd fed (by decide)

end GrammarRun

end DeepSpark
