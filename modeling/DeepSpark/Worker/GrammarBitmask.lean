import DeepSpark.Worker.GrammarRows

/-!
From the grammars of a batch to its logits.

Owns the exactness of the rows of a batch: what each row allows, what `grammar_bitmask` leaves
behind, and where both workers put the rows.
-/

namespace DeepSpark

open Lib

section

variable {σ : Type} {width : Nat}

/-- The rows of a request are what its grammar allows along its accepted draft tokens. -/
structure ExactRows (grammar : StructuredOutputGrammar σ width) (isDiffusion : Bool) (state : σ)
    (accepted : List TokenId) (padding : Nat) (rows : List (BitmaskRow width)) : Prop where
  count : rows.length =
    accepted.length + padding + if isDiffusion = true ∧ 0 < accepted.length + padding then 0 else 1
  allowed : ∀ i ≤ accepted.length, i < rows.length → ∃ row, rows[i]? = some row ∧
    ∀ token < width * 32, row.allows token = grammar.allowed (grammar.after state (accepted.take i)) token

theorem exactRows_requestRows (grammar : StructuredOutputGrammar σ width) (isDiffusion : Bool) (state : σ)
    (accepted : List TokenId) (padding : Nat) :
    ExactRows grammar isDiffusion state accepted padding (grammar.requestRows isDiffusion state accepted padding) where
  count := StructuredOutputGrammar.length_requestRows isDiffusion state accepted padding
  allowed _ inAccepted inRows :=
    ⟨_, StructuredOutputGrammar.getElem?_requestRows isDiffusion state accepted padding inAccepted inRows,
      fun _ inRow => StructuredOutputGrammar.writtenRow_allows _ inRow⟩

/-- `scheduled_spec_decode_tokens.get(req_id, ())`. -/
def scheduledDrafts (draftTokens : PyDict ReqId (List TokenId)) (reqId : ReqId) : List TokenId :=
  (draftTokens.get? reqId).getD []

/-- `num_new_sampled_tokens_per_step`. -/
def numBonusTokens (config : BitmaskConfig) : Nat := if config.isDiffusion then 0 else 1

variable {backend : StructuredOutputBackend σ width} {manager : StructuredOutputManager} {config : BitmaskConfig}
  {executor : List (List (FillEntry σ)) → List (FillEntry σ)} {state : BitmaskState σ width config}
  {reqIds : List ReqId} {draftTokens : PyDict ReqId (List TokenId)} {accepted : ReqId → List TokenId}
  {padding : ReqId → Nat}

/-- The worker samples as many rows for a request as its bitmask has: with a diffusion model, where
all structured output requests have draft tokens or no request has any. -/
theorem length_rows_eq_numLogits {reqId : ReqId}
    (isDrafts : scheduledDrafts draftTokens reqId = accepted reqId ++ List.replicate (padding reqId) (-1))
    (uniform : config.isDiffusion = true → draftTokens.entries.isEmpty = true ∨ scheduledDrafts draftTokens reqId ≠ [])
    {rows : List (BitmaskRow width)} {grammar : StructuredOutputGrammar σ width} {first : σ}
    (exact : ExactRows grammar config.isDiffusion first (accepted reqId) (padding reqId) rows) :
    rows.length = numLogits draftTokens (numBonusTokens config) reqId := by
  have isLength : (scheduledDrafts draftTokens reqId).length = (accepted reqId).length + padding reqId := by
    rw [isDrafts, List.length_append, List.length_replicate]
  rw [exact.count, ← isLength, numLogits, numBonusTokens]
  by_cases noDrafts : draftTokens.entries.isEmpty = true
  · have none : scheduledDrafts draftTokens reqId = [] := by
      have isEmpty : draftTokens.entries = [] := List.isEmpty_iff.mp noDrafts
      rw [scheduledDrafts, PyDict.get?, isEmpty]
      rfl
    rw [if_pos noDrafts, none]
    simp
  · rw [if_neg noDrafts]
    cases isDiffusion : config.isDiffusion with
    | false => simp [scheduledDrafts]
    | true =>
      have some : 0 < (scheduledDrafts draftTokens reqId).length :=
        List.length_pos_iff.mpr ((uniform isDiffusion).resolve_left noDrafts)
      rw [if_pos ⟨rfl, some⟩, if_pos rfl]
      rfl

section

variable (undoes : backend.UndoesAccept) (noReasoner : manager.endTokenId = none)
  (runsTasks : RunsTasks executor)
  (drafts : AcceptedDrafts backend.toStructuredOutputGrammar state.requests
    (scheduledDrafts draftTokens) accepted padding reqIds)
  (fits : reqIds.length ≤ config.maxNumSeqs)

include undoes noReasoner runsTasks drafts fits

/-- The call returns the rows of the requests in their order, and leaves the requests. -/
theorem grammarBitmask_ok
    (few : ∀ id ∈ reqIds, (scheduledDrafts draftTokens id).length ≤ config.numSpeculativeTokens) :
    ∃ after, manager.grammarBitmask config executor reqIds (scheduledDrafts draftTokens) backend state =
        .ok (if reqIds.isEmpty then none else some (reqIds.flatMap fun id =>
          backend.requestRows config.isDiffusion (state.requests id).grammar (accepted id) (padding id)), after) ∧
      after.requests = state.requests := by
  rw [StructuredOutputManager.grammarBitmask]
  split_ifs
  · exact ⟨state, rfl, rfl⟩
  · obtain ⟨filled, ran, sameRequests, isReturned⟩ := fillRows_ok noReasoner undoes runsTasks
      (show (BatchState.mk (state.grammarBitmask.getD (backend.allocateTokenBitmask config.numRows)) 0
        state.requests).cumulativeIndex = 0 from rfl) drafts fits few
    refine ⟨{ grammarBitmask := some filled.bitmask, requests := filled.requests },
      bind_eq_ok.mpr ⟨filled, ran, ?_⟩, sameRequests⟩
    rw [isReturned]
    rfl

theorem parallel_eq_serial (noDrafts : ∀ id ∈ reqIds, scheduledDrafts draftTokens id = [])
    (bitmask : Vector (BitmaskRow width) config.numRows) :
    ∃ parallel serial,
      manager.fillInParallel backend.toStructuredOutputGrammar executor reqIds
          { bitmask, requests := state.requests } = .ok parallel ∧
        manager.fillSerially backend.toStructuredOutputGrammar config.isDiffusion (scheduledDrafts draftTokens) reqIds
          { bitmask, requests := state.requests } = .ok serial ∧
        parallel.returned = serial.returned ∧ parallel.requests = serial.requests := by
  have inRange : reqIds.length ≤ config.numRows := fits.trans (Nat.le_mul_of_pos_right _ (by omega))
  obtain ⟨parallel, ranParallel, parallelRequests, wroteParallel, parallelIndex⟩ := fillInParallel_ok
    backend.toStructuredOutputGrammar noReasoner runsTasks { bitmask, requests := state.requests } inRange
  have oneRow : (reqIds.map fun id => (scheduledDrafts draftTokens id).length + 1).sum = reqIds.length := by
    rw [List.map_congr_left (fun id member => by rw [noDrafts id member, List.length_nil]), List.map_const',
      List.sum_replicate]
    simp
  have serialRange : (BatchState.mk bitmask 0 state.requests).cumulativeIndex +
      (reqIds.map fun id => (scheduledDrafts draftTokens id).length + 1).sum ≤ config.numRows := by
    rw [oneRow, Nat.zero_add]
    exact inRange
  obtain ⟨serial, ranSerial, serialRequests, wroteSerial, serialIndex⟩ :=
    fillSerially_ok noReasoner undoes config.isDiffusion drafts serialRange
  refine ⟨parallel, serial, ranParallel, ranSerial, ?_, parallelRequests.trans serialRequests.symm⟩
  rw [returned_eq wroteParallel (by rw [parallelIndex, List.length_map]),
    returned_eq wroteSerial (serialIndex.trans (Nat.zero_add _))]
  exact (requestRows_noDrafts drafts config.isDiffusion noDrafts).symm

end

end

/-! ## A grammar of one sentence -/

/-- The matcher of a grammar that generates one list of tokens: it knows how many it has read. -/
def sentenceMatcher (sentence : List TokenId) : GrammarMatcher Nat 1 where
  acceptToken position token := if sentence[position]? = some token then some (position + 1) else none
  rollback position numTokens := position - numTokens
  isTerminated position := decide (sentence.length ≤ position)
  fillNextTokenBitmask position := #v[BitVec.ofNat 32 ((sentence[position]?.map fun token => 2 ^ token.toNat).getD 0)]

def sentenceBackend (sentence : List TokenId) : StructuredOutputBackend (XgrammarGrammar Nat) 1 where
  toStructuredOutputGrammar := XgrammarGrammar.interface (sentenceMatcher sentence)
  allocateTokenBitmask rows := Vector.replicate rows (BitmaskRow.full 1)

theorem sentenceBackend_undoesAccept (sentence : List TokenId) : (sentenceBackend sentence).UndoesAccept := by
  apply XgrammarGrammar.undoesAccept
  · intro position tokens last matched
    have isLast : last = position + tokens.length := by
      induction tokens generalizing position with
      | nil => exact matched.symm
      | cons token rest ih =>
        obtain ⟨middle, accepted, matchedRest⟩ := matched
        simp only [sentenceMatcher, Option.ite_none_right_eq_some, Option.some.injEq] at accepted
        rw [ih middle matchedRest, ← accepted.2, List.length_cons, Nat.add_assoc, Nat.add_comm 1]
    show last - tokens.length = position
    omega
  · intro position token terminated
    have atEnd : sentence.length ≤ position := of_decide_eq_true terminated
    simp [sentenceMatcher, List.getElem?_eq_none atEnd]

/-- A manager without a reasoning parser, of a model without speculative decoding. -/
def plainManager : StructuredOutputManager := ⟨none, false, false⟩

end DeepSpark
