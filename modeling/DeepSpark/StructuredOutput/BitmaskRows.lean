import DeepSpark.StructuredOutput.Bitmasks

/-!
The rows `grammar_bitmask` returns.

Owns the rows of a request along its draft tokens, what one step of the serial loop writes and
keeps, the rows of a batch, and the agreement of the parallel filling with the serial one.
-/

namespace DeepSpark

open Lib

/-! ## Rows of a buffer -/

/-- `after` has `written` behind the first rows of `before`. -/
def Wrote {width rows : Nat} (before after : Vector (BitmaskRow width) rows) (first : Nat)
    (written : List (BitmaskRow width)) : Prop :=
  after.toList.take (first + written.length) = before.toList.take first ++ written

namespace Wrote

variable {width rows : Nat} {before middle after : Vector (BitmaskRow width) rows} {first : Nat}

theorem none (bitmask : Vector (BitmaskRow width) rows) (first : Nat) : Wrote bitmask bitmask first [] := by
  rw [Wrote, List.length_nil, Nat.add_zero, List.append_nil]

theorem set (bitmask : Vector (BitmaskRow width) rows) (row : BitmaskRow width) (inRange : first < rows) :
    Wrote bitmask (bitmask.set first row inRange) first [row] := by
  have inList : first < bitmask.toList.length := by rw [Vector.length_toList]; exact inRange
  rw [Wrote, Vector.toList_set, List.length_singleton, List.take_add_one, List.getElem?_set_self inList,
    List.take_set_of_le (Nat.le_refl first)]
  rfl

theorem trans {front back : List (BitmaskRow width)} (begins : Wrote before middle first front)
    (goesOn : Wrote middle after (first + front.length) back) : Wrote before after first (front ++ back) := by
  rw [Wrote, List.length_append, ← Nat.add_assoc, goesOn, begins, List.append_assoc]

end Wrote

/-! ## The rows of a request -/

namespace StructuredOutputGrammar

variable {σ : Type} {width rows : Nat} (grammar : StructuredOutputGrammar σ width)

def draftRows : σ → List TokenId → List (BitmaskRow width)
  | _, [] => []
  | state, token :: tokens => grammar.writtenRow true state :: draftRows (grammar.next state token) tokens

def paddingRows (state : σ) : Bool → Nat → List (BitmaskRow width)
  | _, 0 => []
  | applyBitmask, padding + 1 => grammar.writtenRow applyBitmask state :: paddingRows state false padding

/-- The rows of a request. A diffusion model samples nothing after its draft tokens. -/
def requestRows (isDiffusion : Bool) (state : σ) (accepted : List TokenId) (padding : Nat) : List (BitmaskRow width) :=
  let drafted := grammar.draftRows state accepted ++ grammar.paddingRows (grammar.after state accepted) true padding
  let reqTokens := accepted ++ List.replicate padding (-1)
  if isDiffusion && !reqTokens.isEmpty then drafted
  else drafted ++ [grammar.writtenRow true (grammar.after state accepted)]

variable {grammar}

theorem writtenRow_allows (state : σ) {token : Nat} (inRow : token < width * 32) :
    (grammar.writtenRow true state).allows token = grammar.allowed state token := by
  cases terminated : grammar.isTerminated state with
  | true => simp [writtenRow, allowed, terminated, BitmaskRow.allows_full inRow]
  | false => simp [writtenRow, allowed, terminated]

@[simp] theorem length_draftRows (state : σ) (accepted : List TokenId) :
    (grammar.draftRows state accepted).length = accepted.length := by
  induction accepted generalizing state with
  | nil => rfl
  | cons token rest ih => exact congrArg (· + 1) (ih _)

@[simp] theorem length_paddingRows (state : σ) (applyBitmask : Bool) (padding : Nat) :
    (grammar.paddingRows state applyBitmask padding).length = padding := by
  induction padding generalizing applyBitmask with
  | zero => rfl
  | succ padding ih => exact congrArg (· + 1) (ih _)

theorem getElem?_draftRows (state : σ) {accepted : List TokenId} {i : Nat} (inAccepted : i < accepted.length) :
    (grammar.draftRows state accepted)[i]? = some (grammar.writtenRow true (grammar.after state (accepted.take i))) := by
  induction accepted generalizing state i with
  | nil => exact absurd inAccepted (Nat.not_lt_zero i)
  | cons token rest ih =>
    cases i with
    | zero => rfl
    | succ i => exact ih (grammar.next state token) (Nat.lt_of_succ_lt_succ inAccepted)

theorem length_requestRows (isDiffusion : Bool) (state : σ) (accepted : List TokenId) (padding : Nat) :
    (grammar.requestRows isDiffusion state accepted padding).length =
      accepted.length + padding + if isDiffusion = true ∧ 0 < accepted.length + padding then 0 else 1 := by
  have drafted : (grammar.draftRows state accepted ++
      grammar.paddingRows (grammar.after state accepted) true padding).length = accepted.length + padding := by
    rw [List.length_append, length_draftRows, length_paddingRows]
  have isEmpty : (accepted ++ List.replicate padding (-1 : TokenId)).isEmpty = !decide (0 < accepted.length + padding) := by
    have isLength : (accepted ++ List.replicate padding (-1 : TokenId)).length = accepted.length + padding := by
      rw [List.length_append, List.length_replicate]
    rw [← isLength]
    cases accepted ++ List.replicate padding (-1 : TokenId) <;> rfl
  simp only [requestRows, isEmpty, Bool.not_not, Bool.and_eq_true, decide_eq_true_eq]
  split_ifs
  · exact drafted
  · rw [List.length_append, drafted]
    rfl

variable (grammar) in
/-- The rows of a request are the first rows of a model that samples after the draft tokens. -/
theorem requestRows_isPrefix (isDiffusion : Bool) (state : σ) (accepted : List TokenId) (padding : Nat) :
    grammar.requestRows isDiffusion state accepted padding <+: grammar.draftRows state accepted ++
      (grammar.paddingRows (grammar.after state accepted) true padding ++
        [grammar.writtenRow true (grammar.after state accepted)]) := by
  rw [← List.append_assoc, requestRows]
  split_ifs
  · exact List.prefix_append _ _
  · exact List.prefix_rfl

/-- Up to the accepted draft tokens, row `i` is the row of the grammar after the first `i`. -/
theorem getElem?_requestRows (isDiffusion : Bool) (state : σ) (accepted : List TokenId) (padding : Nat) {i : Nat}
    (inAccepted : i ≤ accepted.length) (inRows : i < (grammar.requestRows isDiffusion state accepted padding).length) :
    (grammar.requestRows isDiffusion state accepted padding)[i]? =
      some (grammar.writtenRow true (grammar.after state (accepted.take i))) := by
  obtain ⟨tail, isTail⟩ := requestRows_isPrefix grammar isDiffusion state accepted padding
  have inFront : (grammar.requestRows isDiffusion state accepted padding ++ tail)[i]? =
      (grammar.requestRows isDiffusion state accepted padding)[i]? := List.getElem?_append_left inRows
  rw [← inFront, isTail]
  rcases Nat.lt_or_eq_of_le inAccepted with before | rfl
  · rw [List.getElem?_append_left (by rw [length_draftRows]; exact before), getElem?_draftRows state before]
  · rw [List.getElem?_append_right (by rw [length_draftRows]), length_draftRows, Nat.sub_self, List.take_length]
    cases padding <;> rfl

/-! ## The loop over the draft tokens -/

variable (grammar) in
theorem fillBitmasks_single (bitmask : Vector (BitmaskRow width) rows) (entry : FillEntry σ)
    (inRange : entry.index < rows) :
    ∃ after, grammar.fillBitmasks bitmask [entry] = .ok after ∧
      Wrote bitmask after entry.index [grammar.writtenRow entry.applyBitmask entry.grammar] := by
  refine ⟨_, ?_, Wrote.set bitmask _ inRange⟩
  rw [fillBitmasks, List.foldlM_cons, fillEntry, dif_pos inRange]
  rfl

end StructuredOutputGrammar

open StructuredOutputManager StructuredOutputGrammar

section

variable {σ : Type} {width rows : Nat} {manager : StructuredOutputManager} {grammar : StructuredOutputGrammar σ width}

/-- What the loop over the draft tokens of a request has done: its rows are written, and a
rollback of `state_advancements` restores the grammar. -/
structure Drafted (grammar : StructuredOutputGrammar σ width) (first : σ) (bitmask : Vector (BitmaskRow width) rows)
    (index : Nat) (written : List (BitmaskRow width)) (state : DraftState σ width rows) : Prop where
  wrote : Wrote bitmask state.bitmask index written
  index : state.cumulativeIndex = index + written.length
  restores : ∃ tokens, grammar.Advances first tokens ∧ grammar.after first tokens = state.grammar ∧
    tokens.length = state.stateAdvancements

variable {first : σ} {bitmask : Vector (BitmaskRow width) rows} {index : Nat} {written : List (BitmaskRow width)}
  {state : DraftState σ width rows}

theorem stepDraft_eq {detectReasoningEnd : Bool} {token : TokenId} {after : Vector (BitmaskRow width) rows}
    (filled : grammar.fillBitmasks state.bitmask
      [⟨state.grammar, state.cumulativeIndex, state.applyBitmask⟩] = .ok after)
    {applyBitmask advances post : Bool}
    (isGate : manager.draftGate detectReasoningEnd state token = (applyBitmask, advances, post)) {advanced : σ} {count : Nat}
    (isAdvanced : advanceGrammar grammar state token advances post = .ok (advanced, count)) :
    manager.stepDraft grammar detectReasoningEnd state token =
      .ok ⟨after, state.cumulativeIndex + 1, advanced, applyBitmask, count, post⟩ := by
  refine bind_eq_ok.mpr ⟨after, filled, ?_⟩
  rw [isGate]
  exact bind_eq_ok.mpr ⟨(advanced, count), isAdvanced, rfl⟩

variable (manager) in
theorem Drafted.stepAccepted (drafted : Drafted grammar first bitmask index written state)
    (applies : state.applyBitmask = true) {token : TokenId} (isToken : token ≠ -1)
    (accepts : grammar.isTerminated state.grammar = false → (grammar.acceptTokens state.grammar [token]).1 = true)
    (inRange : index + written.length < rows) :
    ∃ next, manager.stepDraft grammar false state token = .ok next ∧
      Drafted grammar first bitmask index (written ++ [grammar.writtenRow true state.grammar]) next ∧
      next.applyBitmask = true ∧ next.grammar = grammar.next state.grammar token := by
  obtain ⟨after, filled, wrote⟩ := fillBitmasks_single grammar state.bitmask
    ⟨state.grammar, state.cumulativeIndex, state.applyBitmask⟩ (drafted.index ▸ inRange)
  have isGate : manager.draftGate false state token = (true, true, state.postReasoningEndInWindow) := by
    simp [draftGate, isToken, applies]
  rw [drafted.index, applies] at wrote
  obtain ⟨tokens, advances, isAfter, isLength⟩ := drafted.restores
  cases terminated : grammar.isTerminated state.grammar with
  | true =>
    have isAdvanced : advanceGrammar grammar state token true state.postReasoningEndInWindow =
        .ok (state.grammar, state.stateAdvancements) := by
      simp [advanceGrammar, terminated]
    refine ⟨_, stepDraft_eq filled isGate isAdvanced,
      ⟨drafted.wrote.trans wrote, ?_, tokens, advances, isAfter, isLength⟩, rfl, ?_⟩
    · rw [drafted.index, List.length_append, List.length_singleton, Nat.add_assoc]
    · rw [StructuredOutputGrammar.next, if_pos terminated]
  | false =>
    have accepted := accepts terminated
    have isNext : grammar.next state.grammar token = (grammar.acceptTokens state.grammar [token]).2 := by
      rw [StructuredOutputGrammar.next, terminated]
      rfl
    have isAdvanced : advanceGrammar grammar state token true state.postReasoningEndInWindow =
        .ok ((grammar.acceptTokens state.grammar [token]).2, state.stateAdvancements + 1) := by
      simp [advanceGrammar, terminated, accepted]
    refine ⟨_, stepDraft_eq filled isGate isAdvanced,
      ⟨drafted.wrote.trans wrote, ?_, tokens ++ [token], ?_, ?_, ?_⟩, rfl, isNext.symm⟩
    · rw [drafted.index, List.length_append, List.length_singleton, Nat.add_assoc]
    · rw [← isAfter] at terminated accepted
      exact advances.append terminated accepted
    · rw [after_append, isAfter]
      exact isNext
    · rw [List.length_append, isLength, List.length_singleton]

variable (manager) in
theorem Drafted.stepPadding (drafted : Drafted grammar first bitmask index written state)
    (inRange : index + written.length < rows) :
    ∃ next, manager.stepDraft grammar false state (-1) = .ok next ∧
      Drafted grammar first bitmask index (written ++ [grammar.writtenRow state.applyBitmask state.grammar]) next ∧
      next.applyBitmask = false ∧ next.grammar = state.grammar := by
  obtain ⟨after, filled, wrote⟩ := fillBitmasks_single grammar state.bitmask
    ⟨state.grammar, state.cumulativeIndex, state.applyBitmask⟩ (drafted.index ▸ inRange)
  rw [drafted.index] at wrote
  refine ⟨_, stepDraft_eq filled rfl rfl, ⟨drafted.wrote.trans wrote, ?_, drafted.restores⟩, rfl, rfl⟩
  rw [drafted.index, List.length_append, List.length_singleton, Nat.add_assoc]

variable (manager) in
theorem Drafted.accepted (drafted : Drafted grammar first bitmask index written state)
    (applies : state.applyBitmask = true) {accepted : List TokenId} (areTokens : ∀ token ∈ accepted, token ≠ -1)
    (accepts : grammar.Accepts state.grammar accepted) (inRange : index + written.length + accepted.length ≤ rows) :
    ∃ last, accepted.foldlM (manager.stepDraft grammar false) state = .ok last ∧
      Drafted grammar first bitmask index (written ++ grammar.draftRows state.grammar accepted) last ∧
      last.applyBitmask = true ∧ last.grammar = grammar.after state.grammar accepted := by
  induction accepted generalizing state written with
  | nil => exact ⟨state, rfl, by rw [draftRows, List.append_nil]; exact drafted, applies, rfl⟩
  | cons token rest ih =>
    rw [List.length_cons] at inRange
    obtain ⟨next, stepped, draftedNext, appliesNext, isNext⟩ := drafted.stepAccepted manager applies
      (areTokens token List.mem_cons_self) accepts.1 (by omega)
    obtain ⟨last, ran, draftedLast, appliesLast, isLast⟩ := ih draftedNext appliesNext
      (fun other member => areTokens other (List.mem_cons_of_mem _ member)) (isNext ▸ accepts.2)
      (by rw [List.length_append, List.length_singleton]; omega)
    refine ⟨last, ?_, ?_, appliesLast, ?_⟩
    · rw [List.foldlM_cons]
      exact bind_eq_ok.mpr ⟨next, stepped, ran⟩
    · rw [isNext, List.append_assoc] at draftedLast
      exact draftedLast
    · rw [isLast, isNext]
      rfl

variable (manager) in
theorem Drafted.padding (drafted : Drafted grammar first bitmask index written state) (padding : Nat)
    (inRange : index + written.length + padding ≤ rows) :
    ∃ last, (List.replicate padding (-1)).foldlM (manager.stepDraft grammar false) state = .ok last ∧
      Drafted grammar first bitmask index
        (written ++ grammar.paddingRows state.grammar state.applyBitmask padding) last ∧
      last.grammar = state.grammar := by
  induction padding generalizing state written with
  | zero => exact ⟨state, rfl, by rw [paddingRows, List.append_nil]; exact drafted, rfl⟩
  | succ padding ih =>
    obtain ⟨next, stepped, draftedNext, appliesNext, isNext⟩ := drafted.stepPadding manager (by omega)
    obtain ⟨last, ran, draftedLast, isLast⟩ := ih draftedNext
      (by rw [List.length_append, List.length_singleton]; omega)
    refine ⟨last, ?_, ?_, isLast.trans isNext⟩
    · rw [List.replicate_succ, List.foldlM_cons]
      exact bind_eq_ok.mpr ⟨next, stepped, ran⟩
    · rw [appliesNext, isNext, List.append_assoc] at draftedLast
      exact draftedLast

theorem Drafted.bonus (drafted : Drafted grammar first bitmask index written state) (isDiffusion : Bool)
    (reqTokens : List TokenId) (inRange : index + written.length < rows) :
    ∃ last, fillBonus grammar isDiffusion true reqTokens state = .ok last ∧
      Drafted grammar first bitmask index
        (if isDiffusion && !reqTokens.isEmpty then written else written ++ [grammar.writtenRow true state.grammar]) last := by
  cases skips : isDiffusion && !reqTokens.isEmpty with
  | true => exact ⟨state, by rw [fillBonus, skips]; rfl, drafted⟩
  | false =>
    obtain ⟨after, filled, wrote⟩ := fillBitmasks_single grammar state.bitmask
      ⟨state.grammar, state.cumulativeIndex, true⟩ (drafted.index ▸ inRange)
    rw [drafted.index] at wrote
    refine ⟨{ state with bitmask := after, cumulativeIndex := state.cumulativeIndex + 1 }, ?_,
      ⟨drafted.wrote.trans wrote, ?_, drafted.restores⟩⟩
    · rw [fillBonus, skips]
      exact bind_eq_ok.mpr ⟨after, filled, rfl⟩
    · show state.cumulativeIndex + 1 = index + (written ++ [grammar.writtenRow true state.grammar]).length
      rw [drafted.index, List.length_append, List.length_singleton, Nat.add_assoc]

theorem Drafted.restored (undoes : grammar.UndoesAccept) (drafted : Drafted grammar first bitmask index written state) :
    (if state.stateAdvancements > 0 then grammar.rollback state.grammar state.stateAdvancements else state.grammar) =
      first := by
  obtain ⟨tokens, advances, isAfter, isLength⟩ := drafted.restores
  cases tokens with
  | nil =>
    have none : ¬ state.stateAdvancements > 0 := isLength ▸ Nat.lt_irrefl 0
    rw [if_neg none]
    exact isAfter.symm
  | cons token rest =>
    have some : state.stateAdvancements > 0 := isLength ▸ Nat.zero_lt_succ rest.length
    rw [if_pos some, ← isLength, ← isAfter]
    exact undoes first (token :: rest) (List.cons_ne_nil _ _) advances

end

/-! ## The rows of a batch -/

/-- The draft tokens of the requests: those their grammars accept, and -1 behind them. -/
structure AcceptedDrafts {σ : Type} {width : Nat} (grammar : StructuredOutputGrammar σ width)
    (requests : ReqId → GrammarRequest σ) (scheduledSpecDecodeTokens accepted : ReqId → List TokenId)
    (padding : ReqId → Nat) (reqIds : List ReqId) : Prop where
  isDrafts : ∀ id ∈ reqIds, scheduledSpecDecodeTokens id = accepted id ++ List.replicate (padding id) (-1)
  areTokens : ∀ id ∈ reqIds, ∀ token ∈ accepted id, token ≠ -1
  accepts : ∀ id ∈ reqIds, grammar.Accepts (requests id).grammar (accepted id)

section

variable {σ : Type} {width rows : Nat} {manager : StructuredOutputManager} {grammar : StructuredOutputGrammar σ width}

theorem shouldFillBitmask_noReasoner (noReasoner : manager.endTokenId = none) (endsForPrompt : Bool)
    (structured : StructuredOutputRequest) : manager.shouldFillBitmask endsForPrompt structured = (true, structured) := by
  rw [shouldFillBitmask, noReasoner]
  rfl

/-- One request of the serial loop: its rows are written, and its grammar is as it was. -/
theorem fillRequest_ok (noReasoner : manager.endTokenId = none) (undoes : grammar.UndoesAccept) (isDiffusion : Bool)
    {scheduledSpecDecodeTokens : ReqId → List TokenId} {state : BatchState σ width rows} {reqId : ReqId}
    {accepted : List TokenId} {padding : Nat}
    (isDrafts : scheduledSpecDecodeTokens reqId = accepted ++ List.replicate padding (-1))
    (areTokens : ∀ token ∈ accepted, token ≠ -1) (accepts : grammar.Accepts (state.requests reqId).grammar accepted)
    (inRange : state.cumulativeIndex + (scheduledSpecDecodeTokens reqId).length < rows) :
    ∃ after, manager.fillRequest grammar isDiffusion scheduledSpecDecodeTokens state reqId = .ok after ∧
      after.requests = state.requests ∧
      Wrote state.bitmask after.bitmask state.cumulativeIndex
        (grammar.requestRows isDiffusion (state.requests reqId).grammar accepted padding) ∧
      after.cumulativeIndex = state.cumulativeIndex +
        (grammar.requestRows isDiffusion (state.requests reqId).grammar accepted padding).length := by
  set request := state.requests reqId with isRequest
  have shouldFill := shouldFillBitmask_noReasoner noReasoner request.endsForPrompt request.structured
  rw [isDrafts, List.length_append, List.length_replicate] at inRange
  have begins : Drafted grammar request.grammar state.bitmask state.cumulativeIndex []
      ⟨state.bitmask, state.cumulativeIndex, request.grammar, true, 0, false⟩ :=
    ⟨.none _ _, rfl, [], trivial, rfl, rfl⟩
  obtain ⟨middle, ranAccepted, acceptedDrafts, applies, isMiddle⟩ := begins.accepted manager rfl areTokens
    accepts (by rw [List.length_nil]; omega)
  obtain ⟨drafted, ranPadding, allDrafts, isDrafted⟩ := acceptedDrafts.padding manager padding
    (by rw [List.nil_append, length_draftRows]; omega)
  rw [applies, isMiddle, List.nil_append] at allDrafts
  obtain ⟨filled, ranBonus, allRows⟩ := allDrafts.bonus isDiffusion (accepted ++ List.replicate padding (-1))
    (by rw [List.length_append, length_draftRows, length_paddingRows]; omega)
  rw [isDrafted, isMiddle] at allRows
  have ranDrafts : (accepted ++ List.replicate padding (-1)).foldlM (manager.stepDraft grammar false)
      ⟨state.bitmask, state.cumulativeIndex, request.grammar, true, 0, false⟩ = .ok drafted := by
    rw [List.foldlM_append]
    exact bind_eq_ok.mpr ⟨middle, ranAccepted, ranPadding⟩
  refine ⟨{ bitmask := filled.bitmask, cumulativeIndex := filled.cumulativeIndex, requests := state.requests }, ?_, rfl,
    allRows.wrote, allRows.index⟩
  rw [fillRequest, ← isRequest, shouldFill, isDrafts]
  refine bind_eq_ok.mpr ⟨drafted, ranDrafts, ?_⟩
  rw [shouldFill]
  refine bind_eq_ok.mpr ⟨filled, ranBonus, ?_⟩
  rw [allRows.restored undoes]
  exact congrArg (fun requests => Except.ok (BatchState.mk filled.bitmask filled.cumulativeIndex requests))
    (Function.update_eq_self reqId state.requests)

/-- The serial loop writes the rows of the requests in their order, and leaves the requests. -/
theorem fillSerially_ok (noReasoner : manager.endTokenId = none) (undoes : grammar.UndoesAccept) (isDiffusion : Bool)
    {scheduledSpecDecodeTokens accepted : ReqId → List TokenId} {padding : ReqId → Nat} {reqIds : List ReqId}
    {state : BatchState σ width rows}
    (drafts : AcceptedDrafts grammar state.requests scheduledSpecDecodeTokens accepted padding reqIds)
    (inRange : state.cumulativeIndex + (reqIds.map fun id => (scheduledSpecDecodeTokens id).length + 1).sum ≤ rows) :
    ∃ after, manager.fillSerially grammar isDiffusion scheduledSpecDecodeTokens reqIds state = .ok after ∧
      after.requests = state.requests ∧
      Wrote state.bitmask after.bitmask state.cumulativeIndex
        (reqIds.flatMap fun id => grammar.requestRows isDiffusion (state.requests id).grammar (accepted id) (padding id)) ∧
      after.cumulativeIndex = state.cumulativeIndex + (reqIds.flatMap fun id =>
        grammar.requestRows isDiffusion (state.requests id).grammar (accepted id) (padding id)).length := by
  induction reqIds generalizing state with
  | nil => exact ⟨state, rfl, rfl, .none _ _, rfl⟩
  | cons id rest ih =>
    have first : id ∈ id :: rest := List.mem_cons_self
    rw [List.map_cons, List.sum_cons] at inRange
    obtain ⟨next, stepped, sameRequests, wrote, isIndex⟩ := fillRequest_ok noReasoner undoes isDiffusion
      (drafts.isDrafts id first) (drafts.areTokens id first) (drafts.accepts id first) (by omega)
    have few : (grammar.requestRows isDiffusion (state.requests id).grammar (accepted id) (padding id)).length ≤
        (scheduledSpecDecodeTokens id).length + 1 := by
      rw [length_requestRows, drafts.isDrafts id first, List.length_append,
        List.length_replicate]
      split_ifs <;> omega
    have draftsRest : AcceptedDrafts grammar next.requests scheduledSpecDecodeTokens accepted padding rest :=
      ⟨fun other member => drafts.isDrafts other (List.mem_cons_of_mem _ member),
        fun other member => drafts.areTokens other (List.mem_cons_of_mem _ member),
        fun other member => sameRequests ▸ drafts.accepts other (List.mem_cons_of_mem _ member)⟩
    obtain ⟨after, ran, sameRequestsRest, wroteRest, isIndexRest⟩ := ih draftsRest (by omega)
    rw [sameRequests] at sameRequestsRest wroteRest isIndexRest
    rw [isIndex] at wroteRest isIndexRest
    refine ⟨after, bind_eq_ok.mpr ⟨next, stepped, ran⟩, sameRequestsRest, wrote.trans wroteRest, ?_⟩
    rw [isIndexRest, List.flatMap_cons, List.length_append, Nat.add_assoc]

/-! ## Filling in any order -/

variable (grammar) in
theorem fillBitmasks_ok {batch : List (FillEntry σ)} (distinct : (batch.map FillEntry.index).Nodup)
    (inRange : ∀ entry ∈ batch, entry.index < rows) (bitmask : Vector (BitmaskRow width) rows) :
    ∃ after, grammar.fillBitmasks bitmask batch = .ok after ∧
      (∀ entry ∈ batch, after.toList[entry.index]? = some (grammar.writtenRow entry.applyBitmask entry.grammar)) ∧
      ∀ index, (∀ entry ∈ batch, entry.index ≠ index) → after.toList[index]? = bitmask.toList[index]? := by
  induction batch generalizing bitmask with
  | nil => exact ⟨bitmask, rfl, fun _ member => (nomatch member), fun _ _ => rfl⟩
  | cons first rest ih =>
    have firstInRange := inRange first List.mem_cons_self
    rw [List.map_cons, List.nodup_cons] at distinct
    obtain ⟨notLater, distinctRest⟩ := distinct
    obtain ⟨after, filled, written, kept⟩ := ih distinctRest
      (fun entry member => inRange entry (List.mem_cons_of_mem _ member))
      (bitmask.set first.index (grammar.writtenRow first.applyBitmask first.grammar) firstInRange)
    refine ⟨after, ?_, ?_, ?_⟩
    · rw [fillBitmasks, List.foldlM_cons, fillEntry, dif_pos firstInRange]
      exact filled
    · intro entry member
      rcases List.mem_cons.mp member with rfl | later
      · rw [kept entry.index fun other isLater same => notLater (List.mem_map.mpr ⟨other, isLater, same⟩),
          Vector.toList_set, List.getElem?_set_self (by rw [Vector.length_toList]; exact firstInRange)]
      · exact written entry later
    · intro index untouched
      rw [kept index fun entry member => untouched entry (List.mem_cons_of_mem _ member), Vector.toList_set,
        List.getElem?_set_ne (untouched first List.mem_cons_self)]

def submittedEntries (requests : ReqId → GrammarRequest σ) (first : Nat) (reqIds : List ReqId) : List (FillEntry σ) :=
  reqIds.mapIdx fun index id => ⟨(requests id).grammar, first + index, true⟩

theorem submittedEntries_cons (requests : ReqId → GrammarRequest σ) (first : Nat) (id : ReqId) (rest : List ReqId) :
    submittedEntries requests first (id :: rest) =
      ⟨(requests id).grammar, first, true⟩ :: submittedEntries requests (first + 1) rest := by
  rw [submittedEntries, submittedEntries, List.mapIdx_cons, Nat.add_zero]
  simp only [Nat.add_assoc, Nat.add_comm 1]

theorem submitRequest_spec (noReasoner : manager.endTokenId = none) (state : Submission σ)
    (id : ReqId) :
    (manager.submitRequest state id).promises.flatten ++ (manager.submitRequest state id).batch =
        state.promises.flatten ++ state.batch ++ [⟨(state.requests id).grammar, state.cumulativeIndex, true⟩] ∧
      (manager.submitRequest state id).cumulativeIndex = state.cumulativeIndex + 1 ∧
      (manager.submitRequest state id).requests = state.requests := by
  have shouldFill := shouldFillBitmask_noReasoner noReasoner (state.requests id).endsForPrompt (state.requests id).structured
  rw [submitRequest, shouldFill]
  refine ⟨?_, rfl, Function.update_eq_self id state.requests⟩
  dsimp only
  split_ifs
  · rw [List.flatten_append, List.flatten_singleton, List.append_nil, List.append_assoc]
  · rw [List.append_assoc]

theorem submitRequests (noReasoner : manager.endTokenId = none) (reqIds : List ReqId)
    (state : Submission σ) :
    (reqIds.foldl manager.submitRequest state).promises.flatten ++ (reqIds.foldl manager.submitRequest state).batch =
        state.promises.flatten ++ state.batch ++ submittedEntries state.requests state.cumulativeIndex reqIds ∧
      (reqIds.foldl manager.submitRequest state).cumulativeIndex = state.cumulativeIndex + reqIds.length ∧
      (reqIds.foldl manager.submitRequest state).requests = state.requests := by
  induction reqIds generalizing state with
  | nil => exact ⟨(List.append_nil _).symm, rfl, rfl⟩
  | cons id rest ih =>
    obtain ⟨entries, isIndex, sameRequests⟩ := submitRequest_spec noReasoner state id
    obtain ⟨entriesRest, isIndexRest, sameRequestsRest⟩ := ih (manager.submitRequest state id)
    rw [entries, isIndex, sameRequests] at entriesRest
    refine ⟨?_, ?_, sameRequestsRest.trans sameRequests⟩
    · rw [List.foldl_cons, entriesRest, submittedEntries_cons, List.append_assoc, List.singleton_append]
    · rw [List.foldl_cons, isIndexRest, isIndex, List.length_cons, Nat.add_assoc, Nat.add_comm 1]

theorem flatten_tasks (state : Submission σ) :
    state.tasks.flatten = state.promises.flatten ++ state.batch := by
  rw [Submission.tasks]
  split_ifs with isEmpty
  · rw [List.isEmpty_iff.mp isEmpty, List.append_nil]
  · rw [List.flatten_append, List.flatten_singleton]

def RunsTasks (executor : List (List (FillEntry σ)) → List (FillEntry σ)) : Prop :=
  ∀ tasks, (executor tasks).Perm tasks.flatten

variable (grammar) in
theorem fillInParallel_ok (noReasoner : manager.endTokenId = none)
    {executor : List (List (FillEntry σ)) → List (FillEntry σ)} (runsTasks : RunsTasks executor) {reqIds : List ReqId}
    (state : BatchState σ width rows) (inRange : reqIds.length ≤ rows) :
    ∃ after, manager.fillInParallel grammar executor reqIds state = .ok after ∧
      after.requests = state.requests ∧
      Wrote state.bitmask after.bitmask 0 (reqIds.map fun id => grammar.writtenRow true (state.requests id).grammar) ∧
      after.cumulativeIndex = reqIds.length := by
  obtain ⟨entries, isIndex, sameRequests⟩ := submitRequests noReasoner reqIds
    { requests := state.requests : Submission σ }
  set submitted := reqIds.foldl manager.submitRequest { requests := state.requests } with isSubmitted
  have permuted : (executor submitted.tasks).Perm (submittedEntries state.requests 0 reqIds) := by
    have runs := runsTasks submitted.tasks
    rw [flatten_tasks, entries] at runs
    exact runs
  have isIndices : (submittedEntries state.requests 0 reqIds).map FillEntry.index = List.range reqIds.length := by
    rw [submittedEntries, List.mapIdx_eq_zipIdx_map, List.map_map, List.range_eq_range', ← List.zipIdx_map_snd]
    apply List.map_congr_left
    rintro ⟨id, index⟩ -
    exact Nat.zero_add index
  have distinct : ((executor submitted.tasks).map FillEntry.index).Nodup := by
    rw [(permuted.map FillEntry.index).nodup_iff, isIndices]
    exact List.nodup_range
  have inBuffer : ∀ entry ∈ executor submitted.tasks, entry.index < rows := by
    intro entry member
    have inIndices : entry.index ∈ (submittedEntries state.requests 0 reqIds).map FillEntry.index :=
      List.mem_map_of_mem (permuted.mem_iff.mp member)
    rw [isIndices] at inIndices
    exact (List.mem_range.mp inIndices).trans_le inRange
  obtain ⟨after, filled, written, -⟩ := fillBitmasks_ok grammar distinct inBuffer state.bitmask
  refine ⟨⟨after, submitted.cumulativeIndex, submitted.requests⟩, bind_eq_ok.mpr ⟨after, filled, rfl⟩, sameRequests, ?_,
    isIndex.trans (Nat.zero_add _)⟩
  rw [Wrote, List.length_map, Nat.zero_add, List.take_zero, List.nil_append]
  apply List.ext_getElem?
  intro index
  by_cases inIds : index < reqIds.length
  · have isEntry : (submittedEntries state.requests 0 reqIds)[index]? =
        some ⟨(state.requests reqIds[index]).grammar, index, true⟩ := by
      rw [submittedEntries, List.getElem?_mapIdx, List.getElem?_eq_getElem inIds, Option.map_some, Nat.zero_add]
    have isRow := written _ (permuted.mem_iff.mpr (List.mem_of_getElem? isEntry))
    rw [List.getElem?_take_of_lt inIds, List.getElem?_map, List.getElem?_eq_getElem inIds]
    exact isRow
  · rw [List.getElem?_eq_none (by rw [List.length_take]; omega),
      List.getElem?_eq_none (by rw [List.length_map]; omega)]

/-! ## The call -/

theorem returned_eq {state : BatchState σ width rows} {before : Vector (BitmaskRow width) rows}
    {written : List (BitmaskRow width)} (wrote : Wrote before state.bitmask 0 written)
    (isIndex : state.cumulativeIndex = written.length) : state.returned = written := by
  rw [Wrote, Nat.zero_add, List.take_zero, List.nil_append] at wrote
  rw [BatchState.returned, isIndex]
  split_ifs with partly
  · exact wrote
  · rwa [List.take_of_length_le (by rw [Vector.length_toList]; omega)] at wrote

variable {config : BitmaskConfig} {executor : List (List (FillEntry σ)) → List (FillEntry σ)} {reqIds : List ReqId}
  {scheduledSpecDecodeTokens accepted : ReqId → List TokenId} {padding : ReqId → Nat}

theorem requestRows_noDrafts {requests : ReqId → GrammarRequest σ}
    (drafts : AcceptedDrafts grammar requests scheduledSpecDecodeTokens accepted padding reqIds) (isDiffusion : Bool)
    (noDrafts : ∀ id ∈ reqIds, scheduledSpecDecodeTokens id = []) :
    (reqIds.flatMap fun id => grammar.requestRows isDiffusion (requests id).grammar (accepted id) (padding id)) =
      reqIds.map fun id => grammar.writtenRow true (requests id).grammar := by
  rw [List.map_eq_flatMap]
  apply List.flatMap_congr
  intro id member
  have isEmpty := drafts.isDrafts id member
  rw [noDrafts id member] at isEmpty
  obtain ⟨noneAccepted, noPadding⟩ := List.append_eq_nil_iff.mp isEmpty.symm
  have isZero : padding id = 0 := List.replicate_eq_nil_iff _ |>.mp noPadding
  rw [noneAccepted, isZero]
  cases isDiffusion <;> rfl

/-- Both ways write the rows of the requests in their order, and leave the requests. -/
theorem fillRows_ok (noReasoner : manager.endTokenId = none) (undoes : grammar.UndoesAccept)
    (runsTasks : RunsTasks executor) {state : BatchState σ width config.numRows} (begins : state.cumulativeIndex = 0)
    (drafts : AcceptedDrafts grammar state.requests scheduledSpecDecodeTokens accepted padding reqIds)
    (fits : reqIds.length ≤ config.maxNumSeqs)
    (few : ∀ id ∈ reqIds, (scheduledSpecDecodeTokens id).length ≤ config.numSpeculativeTokens) :
    ∃ after, manager.fillRows grammar config executor reqIds scheduledSpecDecodeTokens state = .ok after ∧
      after.requests = state.requests ∧
      after.returned = reqIds.flatMap fun id =>
        grammar.requestRows config.isDiffusion (state.requests id).grammar (accepted id) (padding id) := by
  rw [fillRows]
  split_ifs with inParallel
  · rw [Bool.and_eq_true, beq_iff_eq] at inParallel
    have noDrafts : ∀ id ∈ reqIds, scheduledSpecDecodeTokens id = [] := fun id member =>
      List.eq_nil_of_length_eq_zero (Nat.le_zero.mp (inParallel.2 ▸ few id member))
    have inRange : reqIds.length ≤ config.numRows := fits.trans (Nat.le_mul_of_pos_right _ (by omega))
    obtain ⟨after, ran, sameRequests, wrote, isIndex⟩ :=
      fillInParallel_ok grammar noReasoner runsTasks state inRange
    rw [requestRows_noDrafts drafts config.isDiffusion noDrafts]
    exact ⟨after, ran, sameRequests, returned_eq wrote (by rw [isIndex, List.length_map])⟩
  · have inRange : state.cumulativeIndex + (reqIds.map fun id => (scheduledSpecDecodeTokens id).length + 1).sum ≤
        config.numRows := by
      have bounded : (reqIds.map fun id => (scheduledSpecDecodeTokens id).length + 1).sum ≤
          reqIds.length * (1 + config.numSpeculativeTokens) := by
        refine (List.sum_le_card_nsmul _ (1 + config.numSpeculativeTokens) ?_).trans_eq (by rw [List.length_map]; rfl)
        intro count member
        obtain ⟨id, isId, rfl⟩ := List.mem_map.mp member
        have isFew := few id isId
        omega
      rw [begins, Nat.zero_add]
      exact bounded.trans (Nat.mul_le_mul_right _ fits)
    obtain ⟨after, ran, sameRequests, wrote, isIndex⟩ :=
      fillSerially_ok noReasoner undoes config.isDiffusion drafts inRange
    rw [begins] at wrote isIndex
    exact ⟨after, ran, sameRequests, returned_eq wrote (isIndex.trans (Nat.zero_add _))⟩

end

end DeepSpark
